import Statime.Rust.ArrayVec
import Statime.Datastructures.Common

/-!
# Datasets

`statime/src/datastructures/datasets` and the state of a `PtpInstance` that holds
them.  The list of the path trace dataset is an `ArrayVec` of `MAX_DATA_LEN / 8`
entries.
-/

namespace Statime

open Rust

/-- Maximum length of a packet. -/
def maxDataLen : Nat := 1024

structure SdoId where
  value : UInt16
  deriving DecidableEq, Inhabited

structure TimePropertiesDS where
  currentUtcOffset : Option Int16
  leapIndicator : LeapIndicator
  timeTraceable : Bool
  frequencyTraceable : Bool
  ptpTimescale : Bool
  timeSource : TimeSource
  deriving DecidableEq

structure InstanceConfig where
  clockIdentity : ClockIdentity
  priority1 : UInt8
  priority2 : UInt8
  domainNumber : UInt8
  sdoId : SdoId
  slaveOnly : Bool
  pathTrace : Bool
  clockQuality : ClockQuality

structure InternalDefaultDS where
  clockIdentity : ClockIdentity
  numberPorts : UInt16
  clockQuality : ClockQuality
  priority1 : UInt8
  priority2 : UInt8
  domainNumber : UInt8
  slaveOnly : Bool
  sdoId : SdoId

def InternalDefaultDS.new (config : InstanceConfig) : InternalDefaultDS where
  clockIdentity := config.clockIdentity
  numberPorts := 0
  clockQuality := config.clockQuality
  priority1 := config.priority1
  priority2 := config.priority2
  domainNumber := config.domainNumber
  slaveOnly := config.slaveOnly
  sdoId := config.sdoId

structure InternalCurrentDS where
  stepsRemoved : UInt16

structure InternalParentDS where
  parentPortIdentity : PortIdentity
  grandmasterIdentity : ClockIdentity
  grandmasterClockQuality : ClockQuality
  grandmasterPriority1 : UInt8
  grandmasterPriority2 : UInt8

def InternalParentDS.new (defaultDs : InternalDefaultDS) : InternalParentDS where
  parentPortIdentity := { clockIdentity := defaultDs.clockIdentity, portNumber := 0 }
  grandmasterIdentity := defaultDs.clockIdentity
  grandmasterClockQuality := defaultDs.clockQuality
  grandmasterPriority1 := defaultDs.priority1
  grandmasterPriority2 := defaultDs.priority2

structure PathTraceDS where
  list : ArrayVec ClockIdentity (maxDataLen / 8)
  enable : Bool

def PathTraceDS.new (enable : Bool) : PathTraceDS := { list := ArrayVec.new, enable }

/-- The inner state of a `PtpInstance`, shared by its ports. -/
structure PtpInstanceState where
  defaultDs : InternalDefaultDS
  currentDs : InternalCurrentDS
  parentDs : InternalParentDS
  pathTraceDs : PathTraceDS
  timePropertiesDs : TimePropertiesDS

end Statime
