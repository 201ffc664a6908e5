import Statime.Datastructures.Common

/-!
# The state of a port

`statime/src/port/state.rs`, `measurement.rs`, `sequence_id.rs` and the peer delay state
of `port/mod.rs`.
-/

namespace Statime

inductive SyncState
  | empty
  | measuring (id : UInt16) (sendTime recvTime : Option Time)
  deriving DecidableEq

inductive DelayState
  | empty
  | measuring (id : UInt16) (sendTime recvTime : Option Time)
  deriving DecidableEq

structure SlaveState where
  remoteMaster : PortIdentity
  syncState : SyncState
  delayState : DelayState
  lastRawSyncOffset : Option Duration
  deriving DecidableEq

def SlaveState.new (remoteMaster : PortIdentity) : SlaveState where
  remoteMaster
  syncState := .empty
  delayState := .empty
  lastRawSyncOffset := none

inductive PortState
  | faulty
  | listening
  | master
  | passive
  | slave (state : SlaveState)
  deriving DecidableEq

/-- Whether a port in this state becomes a new slave when the master is recommended. -/
def PortState.entersSlave (remoteMaster : PortIdentity) : PortState → Bool
  | .faulty => false
  | .listening | .master | .passive => true
  | .slave oldState => decide (oldState.remoteMaster ≠ remoteMaster)

inductive PeerDelayState
  | empty
  | measuring (id : UInt16) (responderIdentity : Option PortIdentity)
      (requestSendTime requestRecvTime responseSendTime responseRecvTime : Option Time)
  | postMeasurement (id : UInt16) (responderIdentity : PortIdentity)
  deriving DecidableEq

/-- A single measurement as produced by a port; not all fields are populated. -/
structure Measurement where
  eventTime : Time := default
  offset : Option Duration := none
  delay : Option Duration := none
  peerDelay : Option Duration := none
  rawSyncOffset : Option Duration := none
  rawDelayOffset : Option Duration := none
  deriving DecidableEq

structure SequenceIdGenerator where
  current : UInt16
  deriving DecidableEq

def SequenceIdGenerator.new : SequenceIdGenerator := ⟨0⟩

/-- The id to use, and the generator after it. -/
def SequenceIdGenerator.generate (g : SequenceIdGenerator) : UInt16 × SequenceIdGenerator :=
  (g.current, ⟨g.current + 1⟩)

end Statime
