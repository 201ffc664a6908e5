import Statime.Machine.Run
import Statime.Rust.Float
import Statime.Time

/-!
# The overlay clock

`statime/src/overlay_clock.rs`: a clock that is tuned in software, over another one that is only read.
It keeps a shift and a rate from a reference instant on.

The reading of the underlying clock is an argument of the calls.  The rate is an `f64` in the source,
and here a number with 32 fractional bits, which an `f64` holds exactly.

* `setFrequency_debug`, `stepClock_debug`: what the calls do to the shift.
* `stepClock_reading`: a step moves the overlay time by what it applies, less the drift so far.
* `moves_as_told_iff`: when the overlay time moves by what it was told, over a whole run.
-/

namespace Statime

open Rust Machine

/-- `self * rhs` for a fixed-point number. -/
def Duration.mulFixed (p : Profile) (d : Duration) (rhs : I96F32) : Except Panic Duration := do
  let r ← d.inner.mul p rhs
  return ⟨r⟩

structure OverlayClock where
  lastSync : Time
  shift : Duration
  freqScalePpmDiff : I96F32
  deriving DecidableEq

namespace OverlayClock

def new (now : Time) : OverlayClock where
  lastSync := now
  shift := Duration.zero
  freqScalePpmDiff := ⟨0⟩

/-- The time of the underlying clock, shifted and scaled. -/
def timeFromUnderlying (p : Profile) (clock : OverlayClock) (roclockTime : Time) :
    Except Panic Time := do
  let elapsed ← roclockTime.diff p clock.lastSync
  let scaled ← elapsed.mulFixed p clock.freqScalePpmDiff
  let corr ← scaled.div p 1000000
  let shifted ← roclockTime.add p clock.shift
  shifted.add p corr

/-- The rate changes at `nowRoclock`; the assertion is evaluated in debug builds only. -/
def setFrequency (p : Profile) (clock : OverlayClock) (nowRoclock : Time) (ppm : I96F32) :
    Except Panic (OverlayClock × Time) := do
  let nowLocal ← clock.timeFromUnderlying p nowRoclock
  let shift ← nowLocal.diff p nowRoclock
  let clock : OverlayClock := { lastSync := nowRoclock, shift, freqScalePpmDiff := ppm }
  if p = .debug then
    let time ← clock.timeFromUnderlying p clock.lastSync
    debugAssert p (decide (time = nowLocal))
  return (clock, nowLocal)

/-- `1_000_000f64 / (1_000_000f64 + self.freq_scale_ppm_diff)`. -/
def reciprocal (clock : OverlayClock) : Option Rat :=
  F64.div 1000000 (F64.add 1000000 clock.freqScalePpmDiff.toF64)

/-- The clock is moved at `nowRoclock`. -/
def stepClock (p : Profile) (clock : OverlayClock) (nowRoclock : Time) (offset : Duration) :
    Except Panic (OverlayClock × Time) := do
  let clock := { clock with lastSync := nowRoclock }
  let factor ← IFixed.ofF64 p clock.reciprocal
  let scaled ← offset.mulFixed p factor
  let shift ← clock.shift.add p scaled
  let clock := { clock with shift }
  let time ← clock.timeFromUnderlying p clock.lastSync
  return (clock, time)

/-! ### What the operations compute -/

section Operations

variable {p : Profile} {clock clock' : OverlayClock} {now : Time}

/-- What the rate has added since the reference instant, in units of `2^-32` nanoseconds. -/
def drift (clock : OverlayClock) (now : Time) : Int :=
  ((now.toInt - clock.lastSync.toInt) * clock.freqScalePpmDiff.toInt / 2 ^ 32).tdiv 1000000

@[simp] theorem drift_lastSync (clock : OverlayClock) : clock.drift clock.lastSync = 0 := by
  simp [drift]

theorem drift_of_rate_zero (hrate : clock.freqScalePpmDiff.toInt = 0) (now : Time) :
    clock.drift now = 0 := by
  simp [drift, hrate]

/-- The drift is the exact one, to less than a unit. -/
theorem abs_drift_sub_lt (clock : OverlayClock) (now : Time) :
    |clock.drift now * (1000000 * 2 ^ 32) -
      (now.toInt - clock.lastSync.toInt) * clock.freqScalePpmDiff.toInt| < 1000000 * 2 ^ 32 := by
  unfold drift
  generalize (now.toInt - clock.lastSync.toInt) * clock.freqScalePpmDiff.toInt = v
  -- the product is rounded down and the quotient towards zero
  have hsplit := Int.mul_tdiv_add_tmod (v / 2 ^ 32) 1000000
  have hlt := Int.tmod_lt_of_pos (v / 2 ^ 32) (b := 1000000) (by decide)
  have hgt := Int.lt_tmod_of_pos (v / 2 ^ 32) (b := 1000000) (by decide)
  rw [abs_lt]
  constructor
  · omega
  · omega

theorem Duration.mulFixed_debug {d r : Duration} {rhs : I96F32}
    (h : d.mulFixed .debug rhs = .ok r) : r.toInt = d.toInt * rhs.toInt / 2 ^ 32 := by
  obtain ⟨v, hv, h⟩ := bind_eq_ok.mp h
  obtain rfl := Except.ok.inj h
  exact IFixed.toInt_wrap_debug (by decide) hv

theorem Duration.mulFixed_sameInDebug (d : Duration) (rhs : I96F32) :
    SameInDebug fun p => d.mulFixed p rhs :=
  (IFixed.wrap_sameInDebug _).bind fun _ => sameInDebug_const _

theorem timeFromUnderlying_debug {time : Time}
    (h : clock.timeFromUnderlying .debug now = .ok time) :
    time.toInt = now.toInt + clock.shift.toInt + clock.drift now := by
  obtain ⟨elapsed, helapsed, h⟩ := bind_eq_ok.mp h
  obtain ⟨scaled, hscaled, h⟩ := bind_eq_ok.mp h
  obtain ⟨corr, hcorr, h⟩ := bind_eq_ok.mp h
  obtain ⟨shifted, hshifted, h⟩ := bind_eq_ok.mp h
  rw [Time.add_debug h, Time.add_debug hshifted, Duration.div_debug hcorr,
    Duration.mulFixed_debug hscaled, Time.diff_debug helapsed]
  rfl

theorem timeFromUnderlying_sameInDebug (clock : OverlayClock) (now : Time) :
    SameInDebug fun p => clock.timeFromUnderlying p now :=
  (Time.diff_sameInDebug _ _).bind fun _ => (Duration.mulFixed_sameInDebug _ _).bind fun _ =>
    (Duration.div_sameInDebug _ _).bind fun _ => (Time.add_sameInDebug _ _).bind fun _ =>
      Time.add_sameInDebug _ _

/-- **A change of rate** keeps the drift so far in the shift. -/
theorem setFrequency_debug {ppm : I96F32} {time : Time}
    (h : clock.setFrequency .debug now ppm = .ok (clock', time)) :
    clock'.lastSync = now ∧ clock'.freqScalePpmDiff = ppm ∧
      clock'.shift.toInt = clock.shift.toInt + clock.drift now ∧
      clock'.timeFromUnderlying .debug now = .ok time := by
  obtain ⟨nowLocal, hlocal, h⟩ := bind_eq_ok.mp h
  obtain ⟨shift, hshift, h⟩ := bind_eq_ok.mp h
  simp only [if_true] at h
  obtain ⟨after, hafter, h⟩ := bind_eq_ok.mp h
  obtain ⟨u, hassert, h⟩ := bind_eq_ok.mp h
  obtain ⟨rfl, rfl⟩ := Prod.mk.inj (Except.ok.inj h)
  have hsame := of_decide_eq_true (debugAssert_eq_ok.mp hassert rfl)
  refine ⟨rfl, rfl, ?_, hafter.trans (congrArg _ hsame)⟩
  dsimp only
  rw [Time.diff_debug hshift, timeFromUnderlying_debug hlocal]
  omega

theorem setFrequency_sameInDebug (clock : OverlayClock) (now : Time) (ppm : I96F32) :
    SameInDebug fun p => clock.setFrequency p now ppm := by
  intro r h p
  obtain ⟨nowLocal, hlocal, h⟩ := bind_eq_ok.mp h
  obtain ⟨shift, hshift, h⟩ := bind_eq_ok.mp h
  simp only [if_true] at h
  obtain ⟨after, hafter, h⟩ := bind_eq_ok.mp h
  obtain ⟨u, hassert, h⟩ := bind_eq_ok.mp h
  refine bind_eq_ok.mpr ⟨nowLocal, timeFromUnderlying_sameInDebug _ _ _ hlocal p,
    bind_eq_ok.mpr ⟨shift, Time.diff_sameInDebug _ _ _ hshift p, ?_⟩⟩
  split
  · rename_i hp
    subst hp
    exact bind_eq_ok.mpr ⟨after, hafter, bind_eq_ok.mpr ⟨u, hassert, h⟩⟩
  · exact h

/-- The factor of `step_clock`, in units of `2^-32`. -/
def factor (clock : OverlayClock) : Int :=
  match clock.reciprocal with
  | some x => roundDiv (x.num * 2 ^ 32) x.den
  | none => 0

/-- What `step_clock` adds to the shift. -/
def applied (clock : OverlayClock) (offset : Duration) : Int :=
  offset.toInt * clock.factor / 2 ^ 32

/-- **A step** forgets the drift so far. -/
theorem stepClock_debug {offset : Duration} {time : Time}
    (h : clock.stepClock .debug now offset = .ok (clock', time)) :
    clock'.lastSync = now ∧ clock'.freqScalePpmDiff = clock.freqScalePpmDiff ∧
      clock'.shift.toInt = clock.shift.toInt + clock.applied offset ∧
      clock'.timeFromUnderlying .debug now = .ok time := by
  obtain ⟨factor, hfactor, h⟩ := bind_eq_ok.mp h
  obtain ⟨scaled, hscaled, h⟩ := bind_eq_ok.mp h
  obtain ⟨shift, hshift, h⟩ := bind_eq_ok.mp h
  obtain ⟨after, hafter, h⟩ := bind_eq_ok.mp h
  obtain ⟨rfl, rfl⟩ := Prod.mk.inj (Except.ok.inj h)
  refine ⟨rfl, rfl, ?_, hafter⟩
  have hfactor : factor.toInt = clock.factor := by
    unfold OverlayClock.factor
    change IFixed.ofF64 .debug clock.reciprocal = .ok factor at hfactor
    cases hrec : clock.reciprocal with
    | none =>
      rw [hrec] at hfactor
      cases hfactor
    | some x =>
      rw [hrec] at hfactor
      exact IFixed.toInt_wrap_debug (by decide) hfactor
  dsimp only
  rw [Duration.add_debug hshift, Duration.mulFixed_debug hscaled, hfactor]
  rfl

theorem stepClock_sameInDebug (clock : OverlayClock) (now : Time) (offset : Duration) :
    SameInDebug fun p => clock.stepClock p now offset := by
  refine SameInDebug.bind ?_ fun _ => (Duration.mulFixed_sameInDebug _ _).bind fun _ =>
    (Duration.add_sameInDebug _ _).bind fun _ => (timeFromUnderlying_sameInDebug _ _).bind fun _ =>
      sameInDebug_const _
  unfold IFixed.ofF64
  split
  · exact IFixed.wrap_sameInDebug _
  · exact sameInDebug_const _

/-- A clock that runs at the rate of the underlying one applies a step as it is. -/
theorem applied_of_rate_zero (hrate : clock.freqScalePpmDiff.toInt = 0) (offset : Duration) :
    clock.applied offset = offset.toInt := by
  have hfactor : clock.factor = 2 ^ 32 := by
    have hzero : clock.freqScalePpmDiff = ⟨0⟩ := IFixed.ext_toInt hrate
    unfold factor reciprocal
    rw [hzero]
    decide +kernel
  rw [applied, hfactor]
  exact Int.mul_ediv_cancel _ (by decide)

end Operations

/-! ### Calls -/

/-- A call, with the time of the underlying clock. -/
inductive Call where
  | setFrequency (now : Time) (ppm : I96F32)
  | stepClock (now : Time) (offset : Duration)
  deriving DecidableEq

namespace Call

def now : Call → Time
  | setFrequency now _ => now
  | stepClock now _ => now

/-- A rate that an `f64` holds exactly. -/
def Proper : Call → Prop
  | setFrequency _ ppm => |ppm.toInt| < 1000000 * 2 ^ 32
  | stepClock _ _ => True

end Call

def step (p : Profile) (clock : OverlayClock) : Call → Except Panic (OverlayClock × Time)
  | .setFrequency now ppm => clock.setFrequency p now ppm
  | .stepClock now offset => clock.stepClock p now offset

theorem step_sameInDebug (clock : OverlayClock) (call : Call) :
    SameInDebug fun p => clock.step p call := by
  cases call with
  | setFrequency now ppm => exact setFrequency_sameInDebug clock now ppm
  | stepClock now offset => exact stepClock_sameInDebug clock now offset

def Initial (clock : OverlayClock) : Prop := ∃ now, clock = new now

/-- The calls that a clock is given: at times in order, with nothing out of range. -/
structure Calls (log : List (Transition OverlayClock Call)) : Prop where
  proper : ∀ t ∈ log, t.event.Proper
  ordered : (log.map fun t => t.event.now.toInt).Pairwise (· ≤ ·)
  inRange : ∀ t ∈ log, (t.before.step .debug t.event).isOk = true ∧
    (t.before.timeFromUnderlying .debug t.event.now).isOk = true

/-- The overlay time at the moment of the call moves by the offset that it asks for. -/
def MovesAsTold (p : Profile) (t : Transition OverlayClock Call) : Prop :=
  ∃ before after, t.before.timeFromUnderlying p t.event.now = .ok before ∧
    t.after.timeFromUnderlying p t.event.now = .ok after ∧
    match t.event with
    | .setFrequency _ _ => after = before
    | .stepClock _ offset => |after.toInt - before.toInt - offset.toInt| ≤ 1

/-- Where nothing is out of range, the overlay time runs at the rate, to two units. -/
def Linear (p : Profile) (clock : OverlayClock) : Prop :=
  ∀ u v tu tv, clock.timeFromUnderlying .debug u = .ok tu →
    clock.timeFromUnderlying .debug v = .ok tv →
    clock.timeFromUnderlying p u = .ok tu ∧ clock.timeFromUnderlying p v = .ok tv ∧
    |(tv.toInt - tu.toInt) * (1000000 * 2 ^ 32) -
      (v.toInt - u.toInt) * (1000000 * 2 ^ 32 + clock.freqScalePpmDiff.toInt)| <
        2 * (1000000 * 2 ^ 32)

/-- A step loses nothing: the rate is zero, or what its factor makes of the offset makes up for the
drift since the reference instant. -/
def Compensated (t : Transition OverlayClock Call) : Prop :=
  match t.event with
  | .setFrequency _ _ => True
  | .stepClock now offset =>
    t.before.freqScalePpmDiff.toInt = 0 ∨
      |t.before.applied offset - offset.toInt - t.before.drift now| ≤ 1

/-- Between two calls the clock runs at its rate. -/
theorem linear (p : Profile) (clock : OverlayClock) : Linear p clock := by
  intro u v tu tv hu hv
  refine ⟨timeFromUnderlying_sameInDebug _ _ _ hu p, timeFromUnderlying_sameInDebug _ _ _ hv p, ?_⟩
  have hdriftu := abs_lt.mp (abs_drift_sub_lt clock u)
  have hdriftv := abs_lt.mp (abs_drift_sub_lt clock v)
  rw [timeFromUnderlying_debug hu, timeFromUnderlying_debug hv, abs_lt]
  constructor
  · linarith
  · linarith

section Moves

variable {p : Profile} {t : Transition OverlayClock Call}

/-- A change of rate does not move the clock. -/
theorem setFrequency_reading {clock clock' : OverlayClock} {now before after : Time} {ppm : I96F32}
    (h : clock.setFrequency .debug now ppm = .ok (clock', after))
    (hbefore : clock.timeFromUnderlying .debug now = .ok before) : after = before := by
  obtain ⟨rfl, -, hshift, hafter⟩ := setFrequency_debug h
  have hint : after.toInt = before.toInt := by
    rw [timeFromUnderlying_debug hafter, timeFromUnderlying_debug hbefore, hshift, drift_lastSync]
    omega
  cases after
  cases before
  exact congrArg Time.mk (UFixed.ext_toInt hint)

/-- A step moves the clock by what it applies, less the drift so far. -/
theorem stepClock_reading {clock clock' : OverlayClock} {now before after : Time} {offset : Duration}
    (h : clock.stepClock .debug now offset = .ok (clock', after))
    (hbefore : clock.timeFromUnderlying .debug now = .ok before) :
    after.toInt - before.toInt = clock.applied offset - clock.drift now := by
  obtain ⟨rfl, -, hshift, hafter⟩ := stepClock_debug h
  rw [timeFromUnderlying_debug hafter, timeFromUnderlying_debug hbefore, hshift, drift_lastSync]
  omega

/-- **What one call does to the overlay time.** -/
theorem movesAsTold_iff (hstep : ∃ time, t.before.step p t.event = .ok (t.after, time))
    (hcall : (t.before.step .debug t.event).isOk = true)
    (hread : (t.before.timeFromUnderlying .debug t.event.now).isOk = true) :
    MovesAsTold p t ↔ Compensated t := by
  obtain ⟨before, hbefore⟩ := exists_of_isOk hread
  obtain ⟨r, hr⟩ := exists_of_isOk hcall
  obtain ⟨after, hstep⟩ := hstep
  obtain rfl := Except.ok.inj ((step_sameInDebug _ _ r hr p).symm.trans hstep)
  have hbeforep := timeFromUnderlying_sameInDebug _ _ _ hbefore p
  obtain ⟨clock, call, clock'⟩ := t
  cases call with
  | setFrequency now ppm =>
    obtain ⟨-, -, -, hafter⟩ := setFrequency_debug hr
    have hafterp := timeFromUnderlying_sameInDebug _ _ _ hafter p
    exact iff_of_true ⟨before, after, hbeforep, hafterp, setFrequency_reading hr hbefore⟩ trivial
  | stepClock now offset =>
    obtain ⟨-, -, -, hafter⟩ := stepClock_debug hr
    have hafterp := timeFromUnderlying_sameInDebug _ _ _ hafter p
    have hmoved : after.toInt - before.toInt - offset.toInt =
        clock.applied offset - offset.toInt - clock.drift now := by
      have hreading := stepClock_reading hr hbefore
      dsimp only at hreading
      omega
    constructor
    · rintro ⟨before', after', hbefore', hafter', hbound⟩
      obtain rfl := Except.ok.inj (hbeforep.symm.trans hbefore')
      obtain rfl := Except.ok.inj (hafterp.symm.trans hafter')
      exact Or.inr (hmoved ▸ hbound)
    · intro hcompensated
      refine ⟨before, after, hbeforep, hafterp, ?_⟩
      change |after.toInt - before.toInt - offset.toInt| ≤ 1
      rw [hmoved]
      rcases hcompensated with hrate | hbound
      · rw [applied_of_rate_zero hrate, drift_of_rate_zero hrate]
        simp
      · exact hbound

end Moves

instance (call : Call) : Decidable call.Proper :=
  match call with
  | .setFrequency _ _ => inferInstanceAs (Decidable (_ < _))
  | .stepClock _ _ => inferInstanceAs (Decidable True)

instance (t : Transition OverlayClock Call) : Decidable (Compensated t) :=
  match t with
  | ⟨_, .setFrequency _ _, _⟩ => inferInstanceAs (Decidable True)
  | ⟨_, .stepClock _ _, _⟩ => inferInstanceAs (Decidable (_ ∨ _))

/-- So many nanoseconds. -/
def nanoseconds (n : Int) : Duration := ⟨⟨BitVec.ofInt 128 (n * 2 ^ 32)⟩⟩

/-- So many seconds after the epoch. -/
def seconds (n : Int) : Time := ⟨⟨BitVec.ofInt 128 (n * 1000000000 * 2 ^ 32)⟩⟩

def ppm (n : Int) : I96F32 := ⟨BitVec.ofInt 128 (n * 2 ^ 32)⟩

/-- Whether nothing is out of range in the step, and it passes the check. -/
def inRangeAnd (check : Transition OverlayClock Call → Bool) (t : Transition OverlayClock Call) : Bool :=
  (t.before.step .debug t.event).isOk && (t.before.timeFromUnderlying .debug t.event.now).isOk &&
    check t

/-- Calls that were tried out are a run. -/
theorem exists_run (calls : List Call) (check : Transition OverlayClock Call → Bool)
    (hproper : ∀ call ∈ calls, call.Proper)
    (hordered : (calls.map fun call => call.now.toInt).Pairwise (· ≤ ·))
    (hrun : checkSteps (step .debug) (inRangeAnd check) (new (seconds 0)) calls = true) :
    ∃ log clock, Trace (step .debug) Initial log clock ∧ Calls log ∧ log.map (·.event) = calls ∧
      ∀ t ∈ log, check t = true := by
  have hinit : Initial (new (seconds 0)) := ⟨seconds 0, rfl⟩
  obtain ⟨log, clock, htrace, hevents, hall, -⟩ := Trace.of_checkSteps _ (.init hinit) hrun
  have hchecks : ∀ t ∈ log, ((t.before.step .debug t.event).isOk = true ∧
      (t.before.timeFromUnderlying .debug t.event.now).isOk = true) ∧ check t = true := by
    intro t ht
    have := hall t ht
    rwa [inRangeAnd, Bool.and_eq_true, Bool.and_eq_true] at this
  refine ⟨log, clock, htrace, ?_, hevents, fun t ht => (hchecks t ht).2⟩
  refine { proper := ?_, ordered := ?_, inRange := fun t ht => (hchecks t ht).1 }
  · intro t ht
    exact hproper _ (hevents ▸ List.mem_map_of_mem ht)
  · rw [← hevents, List.map_map] at hordered
    exact hordered

/-- Steps while the clock runs at the rate of the underlying one. -/
def stepsAtRateZero : List Call :=
  [.stepClock (seconds 1) (nanoseconds 5), .setFrequency (seconds 2) (ppm 100),
    .setFrequency (seconds 3) (ppm 0), .stepClock (seconds 4) (nanoseconds (-1000))]

/-- A step by nothing, a second after the rate became 100 ppm. -/
def stepByNothing : List Call :=
  [.setFrequency (seconds 0) (ppm 100), .stepClock (seconds 1) Duration.zero]

end OverlayClock

end Statime
