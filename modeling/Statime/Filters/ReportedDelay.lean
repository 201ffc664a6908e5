import Statime.Filters.Kalman
import Statime.Port.Servo

/-!
# The reported delay

The Kalman filter reports its estimate of the mean delay in every answer, also when no delay was
measured.

* `KalmanFilter.measurement_reports`, `KalmanFilter.update_reports`: an answer has a mean delay, unless
  the measurement was discarded.
* `Servo.step_onlyMeasured`: a port whose filter is called with a measured delay first has only mean
  delays after that.
-/

namespace Statime

open Rust
open Machine (Trace Transition)

/-! ### The filter -/

namespace KalmanFilter

variable {C : Type} [Clock C] {b : Build} {p : Profile} {self self' : KalmanFilter} {clock clock' : C}
  {update : FilterUpdate}

/-- A call that is answered. -/
inductive Call
  | measurement (m : Measurement)
  | update

/-- One call of the filter with its clock. -/
def call (b : Build) (s : KalmanFilter × C) :
    Call → Except Panic ((KalmanFilter × C) × FilterUpdate)
  | .measurement m => do
    let (self, clock, update) ← s.1.measurement b m s.2
    return ((self, clock), update)
  | .update => do
    let (self, clock, update) ← s.1.update b s.2
    return ((self, clock), update)

theorem answer_reports {nextUpdate : Option CoreDuration}
    (h : self.answer p nextUpdate = .ok update) : update.meanDelay ≠ none := by
  obtain ⟨meanDelay, -, h⟩ := bind_eq_ok.mp h
  rw [← Except.ok.inj h]
  exact Option.some_ne_none _

/-- **An update** is answered with the estimate. -/
theorem update_reports (h : self.update b clock = .ok (self', clock', update)) :
    update.meanDelay ≠ none := by
  obtain ⟨⟨self₁, clock₁⟩, -, h⟩ := bind_eq_ok.mp h
  obtain ⟨answer, hanswer, h⟩ := bind_eq_ok.mp h
  obtain ⟨rfl, -, rfl⟩ := Except.ok.inj h
  exact answer_reports hanswer

theorem steer_reports (h : self.steer b clock = .ok (self', clock', update)) :
    update.meanDelay ≠ none := by
  unfold steer at h
  dsimp only at h
  split at h
  · obtain ⟨target, -, h⟩ := bind_eq_ok.mp h
    obtain ⟨⟨self₁, clock₁⟩, -, h⟩ := bind_eq_ok.mp h
    obtain ⟨nextUpdate, -, h⟩ := bind_eq_ok.mp h
    obtain ⟨answer, hanswer, h⟩ := bind_eq_ok.mp h
    obtain ⟨rfl, -, rfl⟩ := Except.ok.inj h
    exact answer_reports hanswer
  · obtain ⟨⟨self₁, clock₁⟩, -, h⟩ := bind_eq_ok.mp h
    obtain ⟨answer, hanswer, h⟩ := bind_eq_ok.mp h
    obtain ⟨rfl, -, rfl⟩ := Except.ok.inj h
    exact answer_reports hanswer

/-- **A measurement** is answered with the estimate, unless it comes from before the filter time. -/
theorem measurement_reports {m : Measurement}
    (hafter : self.runningFilter.afterFilterTime m.eventTime = true)
    (h : self.measurement b m clock = .ok (self', clock', update)) : update.meanDelay ≠ none := by
  unfold measurement at h
  rw [if_pos hafter] at h
  obtain ⟨estimator, -, h⟩ := bind_eq_ok.mp h
  obtain ⟨self₁, -, h⟩ := bind_eq_ok.mp h
  obtain ⟨runningFilter, -, h⟩ := bind_eq_ok.mp h
  obtain ⟨⟨self₂, clock₂⟩, -, h⟩ := bind_eq_ok.mp h
  exact steer_reports h

/-- A new filter discards nothing. -/
theorem new_afterFilterTime {config : KalmanConfiguration Float} {time : Time}
    (h : new config = .ok self) : self.runningFilter.afterFilterTime time = true := by
  obtain ⟨variance, -, h⟩ := bind_eq_ok.mp h
  rw [← Except.ok.inj h]
  rfl

/-- The first answer of a new filter. -/
theorem call_reports {config : KalmanConfiguration Float} (hnew : new config = .ok self) {c : Call}
    {s : KalmanFilter × C} (h : call b (self, clock) c = .ok (s, update)) :
    update.meanDelay ≠ none := by
  cases c with
  | measurement m =>
    obtain ⟨⟨self₁, clock₁, answer⟩, hanswer, h⟩ := bind_eq_ok.mp h
    obtain ⟨-, rfl⟩ := Prod.mk.inj (Except.ok.inj h)
    exact measurement_reports (new_afterFilterTime hnew) hanswer
  | update =>
    obtain ⟨⟨self₁, clock₁, answer⟩, hanswer, h⟩ := bind_eq_ok.mp h
    obtain ⟨-, rfl⟩ := Prod.mk.inj (Except.ok.inj h)
    exact update_reports hanswer

theorem calls_report_none_iff {config : KalmanConfiguration Float} (hnew : new config = .ok self)
    {calls : List Call} {s : KalmanFilter × C} {updates : List FilterUpdate}
    (h : Machine.run (call b) (self, clock) calls = .ok (s, updates)) :
    (∀ u ∈ updates, u.meanDelay = none) ↔ calls = [] := by
  constructor
  · intro hnone
    cases calls with
    | nil => rfl
    | cons c cs =>
      obtain ⟨s₁, u, us, hcall, -, rfl⟩ := Machine.run_cons_eq_ok.mp h
      exact absurd (hnone u List.mem_cons_self) (call_reports hnew hcall)
  · rintro rfl
    obtain ⟨-, rfl⟩ := Prod.mk.inj (Except.ok.inj h)
    intro u hu
    cases hu

end KalmanFilter

/-! ### The port -/

/-- A delay or a peer delay exchange has completed. -/
def Measurement.MeasuresDelay (m : Measurement) : Prop := m.rawDelayOffset ≠ none ∨ m.peerDelay ≠ none

def DelayMeasured (handed : List Measurement) : Prop := ∃ m ∈ handed, m.MeasuresDelay

namespace Servo

variable {C F : Type}

/-- The mean delay, and the offsets that are relative to it, come after a measured delay. -/
structure OnlyMeasured (servo : Servo C F) : Prop where
  meanDelay : servo.meanDelay ≠ none → DelayMeasured servo.handed
  offset : ∀ before m after, servo.handed = before ++ m :: after → m.rawSyncOffset ≠ none →
    m.offset ≠ none → DelayMeasured before

variable {servo servo' : Servo C F}

/-- A measurement that is handed over by a port with only measured delays. -/
theorem OnlyMeasured.append {meanDelay : Option Duration} {m : Measurement}
    {filter : F} {clock : C} (h : servo.OnlyMeasured)
    (hm : DelayMeasured servo.handed ∨ m.MeasuresDelay)
    (hoffset : m.rawSyncOffset ≠ none → m.offset ≠ none → servo.meanDelay ≠ none) :
    ({ filter, clock, meanDelay, handed := servo.handed ++ [m] } : Servo C F).OnlyMeasured := by
  constructor
  · intro _
    rcases hm with ⟨m', hmem, hm'⟩ | hm
    · exact ⟨m', List.mem_append_left _ hmem, hm'⟩
    · exact ⟨m, List.mem_append_right _ (List.mem_singleton_self m), hm⟩
  · intro before m' after heq hraw hsome
    rcases List.eq_nil_or_concat after with rfl | ⟨front, last, rfl⟩
    · obtain ⟨rfl, hlast⟩ := List.append_inj' heq rfl
      obtain rfl := (List.cons.inj hlast).1
      exact h.meanDelay (hoffset hraw hsome)
    · rw [List.concat_eq_append, ← List.cons_append, ← List.append_assoc] at heq
      exact h.offset before m' front (List.append_inj' heq rfl).1 hraw hsome

theorem Settles.onlyMeasured [Clock C] [Filter F] (hsettles : servo.Settles servo')
    (h : servo.OnlyMeasured) : servo'.OnlyMeasured := by
  constructor
  · rw [hsettles.meanDelay, hsettles.handed]
    exact h.meanDelay
  · rw [hsettles.handed]
    exact h.offset

end Servo

namespace Slot

variable {A R C F T : Type} [AcceptableMasterList A] [Clock C] [Filter F] [Rng R]
  [ForwardedTLVProvider T] {p : Profile} {slot slot' : Slot A R C F} {e : PortEvent T}
  {actions : PortActionIterator} {log : List (Transition (Slot A R C F) (PortEvent T))}

/-- Before a delay has been measured, the step does not call the filter, or with a measured delay. -/
def AwaitsDelay (t : Transition (Slot A R C F) (PortEvent T)) : Prop :=
  ¬ DelayMeasured t.before.servo.handed → t.event ≠ .filterUpdateTimer ∧
    ∀ m, t.after.servo.handed = t.before.servo.handed ++ [m] → m.MeasuresDelay

theorem step_onlyMeasured (hstep : slot.step p e = .ok (slot', actions))
    (hawaits : AwaitsDelay ⟨slot, e, slot'⟩) (h : slot.servo.OnlyMeasured) :
    slot'.servo.OnlyMeasured := by
  cases step_serves hstep with
  | settles hsettles => exact hsettles.onlyMeasured h
  | updates he hservo =>
    have hmeasured : DelayMeasured slot.servo.handed := by_contra fun hnot => (hawaits hnot).1 he
    rw [hservo]
    exact ⟨fun _ => hmeasured, h.offset⟩
  | @measures port port' m _ hands =>
    obtain ⟨servo, hsettles, hservo⟩ := hands.servo
    show port'.servo.OnlyMeasured
    rw [hservo]
    refine (hsettles.onlyMeasured h).append ?_ fun hraw hsome => ?_
    · rw [hsettles.handed]
      by_cases hmeasured : DelayMeasured port.servo.handed
      · exact Or.inl hmeasured
      · exact Or.inr ((hawaits hmeasured).2 m hands.handed)
    · obtain ⟨raw, hraw⟩ := Option.ne_none_iff_exists'.mp hraw
      intro hnone
      have hoffset := hands.offset raw hraw
      rw [show port.meanDelay = none from hsettles.meanDelay.symm.trans hnone] at hoffset
      exact hsome (Except.ok.inj hoffset).symm

omit [AcceptableMasterList A] [Clock C] in
/-- A new port knows no delay. -/
theorem initial_onlyMeasured (h : Slot.Initial p slot) : slot.servo.OnlyMeasured := by
  obtain ⟨config, filterConfig, clock, identity, rng, port, hnew, rfl⟩ := h
  obtain ⟨⟨duration, rng₁⟩, -, hnew⟩ := bind_eq_ok.mp hnew
  obtain ⟨interval, -, hnew⟩ := bind_eq_ok.mp hnew
  obtain rfl := Except.ok.inj hnew
  refine ⟨fun hsome => absurd rfl hsome, fun before m after heq => ?_⟩
  cases before <;> cases heq

/-- **Only measured delays**, when the first call of the filter is with one. -/
theorem trace_onlyMeasured (h : Trace (Slot.step p) (Slot.Initial p) log slot)
    (hawaits : ∀ t ∈ log, AwaitsDelay t) : slot.servo.OnlyMeasured := by
  induction h with
  | init hinit => exact initial_onlyMeasured hinit
  | step _ hstep ih =>
    rw [List.forall_mem_append] at hawaits
    exact step_onlyMeasured hstep (hawaits.2 _ (List.mem_singleton_self _)) (ih hawaits.1)

end Slot

namespace Kalman

variable {A R C T : Type} [AcceptableMasterList A] [Clock C] [Rng R] [ForwardedTLVProvider T]
  {b : Build} {p : Profile} {config : KalmanConfiguration Float} {self : KalmanFilter} {clock : C}
  {s : KalmanFilter × C} {calls : List KalmanFilter.Call} {updates : List FilterUpdate}
  {log : List (Transition (Slot A R C (Kalman b)) (PortEvent T))} {slot : Slot A R C (Kalman b)}

/-- **The delay is reported only when it was measured**, as long as the filter is not called: its first
answer has a mean delay.  A port whose filter is first called with a measured delay has only mean
delays, and offsets relative to them, that come after it. -/
theorem reported_iff (hnew : KalmanFilter.new config = .ok self)
    (hrun : Machine.run (KalmanFilter.call b) (self, clock) calls = .ok (s, updates))
    (htrace : Trace (Slot.step p) (Slot.Initial p) log slot)
    (hawaits : ∀ t ∈ log, Slot.AwaitsDelay t) :
    ((∀ u ∈ updates, u.meanDelay = none) ↔ calls = []) ∧ slot.servo.OnlyMeasured :=
  ⟨KalmanFilter.calls_report_none_iff hnew hrun, Slot.trace_onlyMeasured htrace hawaits⟩

/-- A new filter that is updated, and a port at its start. -/
theorem reported_at_start : ∃ (config : KalmanConfiguration Float) (self : KalmanFilter)
    (s : KalmanFilter × TestClock) (updates : List FilterUpdate)
    (port : Port Running AcceptAnyMaster TestRng TestClock (Kalman ⟨.debug, .debug⟩)),
    KalmanFilter.new config = .ok self ∧
      Machine.run (KalmanFilter.call ⟨.debug, .debug⟩) (self, ⟨⟩) [.update] = .ok (s, updates) ∧
      ((∀ u ∈ updates, u.meanDelay = none) ↔ [KalmanFilter.Call.update] = []) ∧
      (Slot.running port).servo.OnlyMeasured := by
  have hruns : (KalmanConfiguration.default .debug >>= fun config => KalmanFilter.new config >>=
      fun self => Machine.run (KalmanFilter.call ⟨.debug, .debug⟩) (self, (⟨⟩ : TestClock)) [.update] >>=
      fun _ => Port.new (C := TestClock) (F := Kalman ⟨.debug, .debug⟩) .debug testPortConfig config ⟨⟩
        default (⟨⟩ : TestRng) >>=
      fun _ => pure ()) = .ok () := by
    decide +kernel
  obtain ⟨config, -, hruns⟩ := bind_eq_ok.mp hruns
  obtain ⟨self, hself, hruns⟩ := bind_eq_ok.mp hruns
  obtain ⟨⟨s, updates⟩, hrun, hruns⟩ := bind_eq_ok.mp hruns
  obtain ⟨port, hport, -⟩ := bind_eq_ok.mp hruns
  have hinit : Slot.Initial .debug (Slot.inBmca port) := ⟨_, _, _, _, _, port, hport, rfl⟩
  have htrace : Trace (Slot.step (T := NoForwardedTLVs) .debug) (Slot.Initial .debug)
      ([] ++ [⟨.inBmca port, .endBmca, .running port.endBmca.1⟩]) (.running port.endBmca.1) :=
    .step (.init hinit) rfl
  refine ⟨config, self, s, updates, port.endBmca.1, hself, hrun, reported_iff hself hrun htrace ?_⟩
  intro t ht _
  rw [List.mem_singleton.mp ht]
  refine ⟨fun h => (by cases h), fun m hm => ?_⟩
  exact absurd (congrArg List.length hm) (by simp [Slot.servo, Port.servo, Port.endBmca, Port.withLifecycle])

/-- A sync measurement of a new filter, with an offset of a nanosecond. -/
theorem sync_reports_delay : ∃ (config : KalmanConfiguration Float) (self : KalmanFilter)
    (s : KalmanFilter × TestClock) (updates : List FilterUpdate),
    KalmanConfiguration.default .debug = .ok config ∧ KalmanFilter.new config = .ok self ∧
      Machine.run (KalmanFilter.call ⟨.debug, .debug⟩) (self, ⟨⟩)
        [.measurement { eventTime := ⟨⟨0⟩⟩, rawSyncOffset := some ⟨⟨4294967296⟩⟩ }] =
          .ok (s, updates) ∧
      updates.map (·.meanDelay) = [some ⟨⟨0⟩⟩] := by
  have hruns : (KalmanConfiguration.default .debug >>= fun config => KalmanFilter.new config >>=
      fun self => Machine.run (KalmanFilter.call ⟨.debug, .debug⟩) (self, (⟨⟩ : TestClock))
        [.measurement { eventTime := ⟨⟨0⟩⟩, rawSyncOffset := some ⟨⟨4294967296⟩⟩ }] >>=
      fun r => pure (r.2.map (·.meanDelay))) = .ok [some ⟨⟨0⟩⟩] := by
    decide +kernel
  obtain ⟨config, hconfig, hruns⟩ := bind_eq_ok.mp hruns
  obtain ⟨self, hself, hruns⟩ := bind_eq_ok.mp hruns
  obtain ⟨⟨s, updates⟩, hrun, hruns⟩ := bind_eq_ok.mp hruns
  exact ⟨config, self, s, updates, hconfig, hself, hrun, Except.ok.inj hruns⟩

end Kalman

end Statime
