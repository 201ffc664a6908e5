import Statime.Datastructures.Datasets

/-!
# Configuration and the user's parts

`statime/src/config`, and the traits that the user of the library implements: the list
of acceptable masters, the clock, and the random number generator.

A random number is a rational of the open unit interval.  The clock is given by what
its calls do to it; `Port` looks at no result of these calls, and a filter may.
-/

namespace Statime

open Rust

/-- `AcceptableMasterList`: whether a clock may be a master to the port. -/
class AcceptableMasterList (A : Type) where
  isAcceptable : A → ClockIdentity → Bool

structure AcceptAnyMaster where
  deriving DecidableEq

instance : AcceptableMasterList AcceptAnyMaster := ⟨fun _ _ => true⟩

instance : AcceptableMasterList (List ClockIdentity) := ⟨fun list identity => list.contains identity⟩

instance {A : Type} [AcceptableMasterList A] : AcceptableMasterList (Option A) where
  isAcceptable list identity :=
    match list with
    | some list => AcceptableMasterList.isAcceptable list identity
    | none => true

/-- `rand::Rng`, as far as `Open01` samples of `f64` go. -/
class Rng (R : Type) where
  sample : R → Rat × R

/-- `Clock`.  The calls that change the clock return its new state with their result;
`none` stands for the clock's error. -/
class Clock (C : Type) where
  now : C → Time
  stepClock : C → Duration → C × Option Time
  setFrequency : C → Rat → C × Option Time
  setProperties : C → TimePropertiesDS → C × Option Unit

inductive DelayMechanism
  | e2e (interval : Interval)
  | p2p (interval : Interval)
  deriving DecidableEq

inductive PtpMinorVersion
  | zero
  | one
  deriving DecidableEq

def PtpMinorVersion.toUInt8 : PtpMinorVersion → UInt8
  | zero => 0
  | one => 1

structure PortConfig (A : Type) where
  acceptableMasterList : A
  delayMechanism : DelayMechanism
  announceInterval : Interval
  announceReceiptTimeout : UInt8
  syncInterval : Interval
  masterOnly : Bool
  delayAsymmetry : Duration
  minorPtpVersion : PtpMinorVersion
  deriving DecidableEq

namespace PortConfig

variable {A R : Type}

def minDelayReqInterval (config : PortConfig A) : Interval :=
  match config.delayMechanism with
  | .e2e interval => interval
  | .p2p interval => interval

/-- The randomness makes that not all timers expire at the same time. -/
def announceDuration [Rng R] (config : PortConfig A) (rng : R) :
    Except Panic (CoreDuration × R) := do
  let (random, rng) := Rng.sample rng
  let duration ← config.announceInterval.asCoreDuration
  let duration ← CoreDuration.mulF64 duration ((1 + random) * config.announceReceiptTimeout.toNat)
  return (duration, rng)

/-- An announce interval that is too long is the only reason for a panic. -/
theorem announceDuration_eq_error [Rng R] {config : PortConfig A} {rng : R} {why : Panic}
    (h : config.announceDuration rng = .error why) : why = .range := by
  rcases bind_eq_error.mp h with h | ⟨duration, -, h⟩
  · rw [Interval.asCoreDuration] at h
    split at h
    · cases h
    · exact (Except.error.inj h).symm
  · rcases bind_eq_error.mp h with h | ⟨duration', -, h⟩
    · rw [CoreDuration.mulF64] at h
      split at h
      · cases h
      · exact (Except.error.inj h).symm
    · cases h

end PortConfig

end Statime
