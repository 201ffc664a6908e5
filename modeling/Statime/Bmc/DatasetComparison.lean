import Statime.Datastructures.Messages

/-!
# The dataset comparison algorithm

`statime/src/bmc/dataset_comparison.rs`.  The numeric comparison of two accuracies
goes through their wire code, so a comparison inherits the overflow of
`ClockAccuracy.toPrimitive`; the steps of figure 34 are evaluated only as far as
they are needed.
-/

namespace Statime

open Rust

structure ComparisonDataset where
  gmPriority1 : UInt8
  gmIdentity : ClockIdentity
  gmClockQuality : ClockQuality
  gmPriority2 : UInt8
  stepsRemoved : UInt16
  identityOfSenders : ClockIdentity
  identityOfReceiver : PortIdentity
  deriving DecidableEq

inductive DatasetOrdering
  | better
  | betterByTopology
  | error1
  | error2
  | worseByTopology
  | worse
  deriving DecidableEq

def DatasetOrdering.asOrdering : DatasetOrdering → Ordering
  | better | betterByTopology => .gt
  | error1 | error2 => .eq
  | worseByTopology | worse => .lt

/-- `Ordering::then_with`, for a second comparison that may panic. -/
def thenWith (first : Ordering) (second : Unit → Except Panic Ordering) : Except Panic Ordering :=
  match first with
  | .eq => second ()
  | o => .ok o

def ClockAccuracy.cmpNumeric (p : Profile) (a b : ClockAccuracy) : Except Panic Ordering := do
  let x ← a.toPrimitive p
  let y ← b.toPrimitive p
  return compare x y

namespace ComparisonDataset

def fromAnnounceMessage (message : AnnounceMessage) (receiver : PortIdentity) :
    ComparisonDataset where
  gmPriority1 := message.grandmasterPriority1
  gmIdentity := message.grandmasterIdentity
  gmClockQuality := message.grandmasterClockQuality
  gmPriority2 := message.grandmasterPriority2
  stepsRemoved := message.stepsRemoved
  identityOfSenders := message.header.sourcePortIdentity.clockIdentity
  identityOfReceiver := receiver

def fromOwnData (data : InternalDefaultDS) : ComparisonDataset where
  gmPriority1 := data.priority1
  gmIdentity := data.clockIdentity
  gmClockQuality := data.clockQuality
  gmPriority2 := data.priority2
  stepsRemoved := 0
  identityOfSenders := data.clockIdentity
  identityOfReceiver := { clockIdentity := data.clockIdentity, portNumber := 0 }

/-- Figure 34.  The identities differ, so the last comparison decides. -/
def compareDifferentIdentity (p : Profile) (a b : ComparisonDataset) :
    Except Panic DatasetOrdering := do
  let ordering ← thenWith (compare a.gmPriority1 b.gmPriority1) fun _ =>
    thenWith (compare a.gmClockQuality.clockClass b.gmClockQuality.clockClass) fun _ => do
      let accuracy ← a.gmClockQuality.clockAccuracy.cmpNumeric p b.gmClockQuality.clockAccuracy
      thenWith accuracy fun _ =>
        thenWith (compare a.gmClockQuality.offsetScaledLogVariance
            b.gmClockQuality.offsetScaledLogVariance) fun _ =>
          thenWith (compare a.gmPriority2 b.gmPriority2) fun _ =>
            .ok (a.gmIdentity.cmp b.gmIdentity)
  match ordering with
  | .eq => .error .unreachable
  | .gt => .ok .worse
  | .lt => .ok .better

/-- Figure 35. -/
def compareSameIdentity (a b : ComparisonDataset) : DatasetOrdering :=
  let difference : Int := a.stepsRemoved.toNat - b.stepsRemoved.toNat
  if 2 ≤ difference then .worse
  else if difference ≤ -2 then .better
  else if difference = 1 then
    match a.identityOfReceiver.clockIdentity.cmp a.identityOfSenders with
    | .lt => .worse
    | .eq => .error1
    | .gt => .worseByTopology
  else if difference = -1 then
    match b.identityOfReceiver.clockIdentity.cmp b.identityOfSenders with
    | .lt => .better
    | .eq => .error1
    | .gt => .betterByTopology
  else
    let senders := a.identityOfSenders.cmp b.identityOfSenders
    let receivers := compare a.identityOfReceiver.portNumber b.identityOfReceiver.portNumber
    match senders.then receivers with
    | .lt => .betterByTopology
    | .eq => .error2
    | .gt => .worseByTopology

def compare (p : Profile) (a b : ComparisonDataset) : Except Panic DatasetOrdering :=
  if a.gmIdentity = b.gmIdentity then .ok (compareSameIdentity a b)
  else compareDifferentIdentity p a b

end ComparisonDataset

end Statime
