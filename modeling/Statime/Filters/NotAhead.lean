import Statime.Filters.LocalTime
import Statime.Port.Provenance
import Statime.Port.Servo

/-!
# The filter of a port in time

A port whose measurements are not ahead of its clock: in every run, no call of the Kalman filter fails
an assertion on the filter time, and no sync measurement is discarded.

* `Servo.Settles.behind`, `Servo.Behind.measure`, `Servo.Behind.update`: what happens to the filter of a
  port keeps it behind the clock.
* `Slot.trace_behind`: so it is in every state of a run.
* `Slot.trace_notAhead`: then the assertions hold.
-/

namespace Statime

open Rust
open Machine (Trace Transition)

namespace Servo

variable {C : Type} [Clock C] {b : Build} {times : LocalTimes C} {first : Int} {events : List Int}
  {servo servo' : Servo C (Kalman b)} {m : Measurement}

/-- No assertion has failed, and the filter is not ahead of the clock. -/
structure Behind (times : LocalTimes C) (first : Int) (events : List Int)
    (servo : Servo C (Kalman b)) : Prop where
  notNext : ∀ event ∈ events, event ≤ times.next servo.clock
  represents : b.overflowChecks = .release → times.Represents first
  filter : Ensures .debugAssert servo.filter.filter
    fun f => f.Behind times first b.overflowChecks events servo.clock

theorem demobilize_advances (filter : Kalman b) (clock : C) :
    times.Advances clock (Filter.demobilize filter clock) := by
  dsimp only [Filter.demobilize]
  split
  · rename_i heq
    obtain ⟨f, -, hdemobilize⟩ := bind_eq_ok.mp heq
    exact KalmanFilter.demobilize_advances hdemobilize
  · exact .refl clock

theorem Settles.advances (h : servo.Settles servo') : times.Advances servo.clock servo'.clock := by
  induction h with
  | refl => exact .refl _
  | demobilized config _ ih => exact ih.trans (demobilize_advances _ _)
  | properties properties _ ih =>
    obtain ⟨hstepped, hlast, hnext⟩ := times.setProperties _ properties
    exact ih.trans ⟨hstepped, hlast, hnext⟩

/-- **A new filter** has no time yet. -/
theorem Settles.behind (h : servo.Settles servo') (hbehind : servo.Behind times first events) :
    servo'.Behind times first events := by
  induction h with
  | refl => exact hbehind
  | @demobilized servo₁ config _ ih =>
    have hadvances : times.Advances servo₁.clock (Filter.demobilize servo₁.filter servo₁.clock) :=
      demobilize_advances _ _
    have hnext := fun event hevent => (ih.notNext event hevent).trans hadvances.next
    exact ⟨hnext, ih.represents, KalmanFilter.new_avoids config,
      fun f hf => KalmanFilter.new_behind hf hnext ih.represents⟩
  | properties properties _ ih =>
    obtain ⟨hstepped, hlast, hnext⟩ := times.setProperties _ properties
    exact ⟨fun event hevent => (ih.notNext event hevent).trans hnext, ih.represents, ih.filter.avoids,
      fun f hf => (ih.filter.returns f hf).advance ⟨hstepped, hlast, hnext⟩ rfl rfl⟩

/-- A call of the filter.  After a panic the clock is as it was. -/
theorem behind_ofCall {clock : C} {result : Except Panic (KalmanFilter × C × FilterUpdate)}
    {meanDelay : Option Duration} {handed : List Measurement}
    (hnext : ∀ event ∈ events, event ≤ times.next clock)
    (hrepresents : b.overflowChecks = .release → times.Represents first)
    (hresult : Ensures .debugAssert result
      fun r => r.1.Behind times first b.overflowChecks events r.2.1) :
    ({ filter := (Kalman.ofCall (b := b) clock result).1
       clock := (Kalman.ofCall (b := b) clock result).2.1
       meanDelay, handed } : Servo C (Kalman b)).Behind times first events := by
  cases result with
  | error why =>
    refine ⟨hnext, hrepresents, fun h => hresult.avoids ?_, fun f hf => by cases hf⟩
    rw [Except.error.inj h]
  | ok r =>
    have hbehind := hresult.returns r rfl
    exact ⟨hbehind.notNext, hrepresents, ensures_ok hbehind⟩

theorem Behind.measure (h : servo.Behind times first events)
    (hnext : KalmanFilter.eventTime times servo.clock m ≤ times.next servo.clock)
    (hfirst : b.overflowChecks = .release → first ≤ KalmanFilter.eventTime times servo.clock m) :
    (servo.measure m).Behind times first (events ++ [KalmanFilter.eventTime times servo.clock m]) := by
  refine behind_ofCall ?_ h.represents ?_
  · rw [List.forall_mem_append]
    exact ⟨h.notNext, List.forall_mem_singleton.mpr hnext⟩
  · exact h.filter.bind fun f _ hf => KalmanFilter.measurement_behind hf hnext hfirst

theorem Behind.update (h : servo.Behind times first events) :
    servo.update.Behind times first events :=
  behind_ofCall h.notNext h.represents (h.filter.bind fun _ _ hf => KalmanFilter.update_behind hf)

end Servo

/-! ### Runs -/

/-- **A measurement in time.**  Its event is not ahead of the next time of the clock; that of a sync
measurement is not before the last one, and not before the event of an earlier measurement. -/
structure Measurement.InTime {C : Type} [Clock C] (times : LocalTimes C) (first : Int) (p : Profile)
    (events : List Int) (clock : C) (m : Measurement) : Prop where
  notAhead : KalmanFilter.eventTime times clock m ≤ times.next clock
  represents : p = .release → first ≤ KalmanFilter.eventTime times clock m
  inOrder : m.rawSyncOffset ≠ none →
    ∀ event ∈ times.last clock :: events, event ≤ KalmanFilter.eventTime times clock m

namespace Slot

variable {A R C T : Type} [AcceptableMasterList A] [Clock C] [Rng R] [ForwardedTLVProvider T]
  {b : Build} {p : Profile} {times : LocalTimes C} {first : Int} {slot slot' : Slot A R C (Kalman b)}
  {e : PortEvent T} {actions : PortActionIterator}
  {log : List (Transition (Slot A R C (Kalman b)) (PortEvent T))} {m : Measurement}

/-- The measurement that a step hands to the filter, as its local time. -/
def eventTimes (times : LocalTimes C) (log : List (Transition (Slot A R C (Kalman b)) (PortEvent T))) :
    List Int :=
  log.flatMap fun t => (t.after.servo.handed.drop t.before.servo.handed.length).map
    (KalmanFilter.eventTime times t.before.servo.clock)

/-- The measurement that a step hands to the filter is in time. -/
def InTime (times : LocalTimes C) (first : Int)
    (log : List (Transition (Slot A R C (Kalman b)) (PortEvent T)))
    (t : Transition (Slot A R C (Kalman b)) (PortEvent T)) : Prop :=
  ∀ m, t.after.servo.handed = t.before.servo.handed ++ [m] →
    m.InTime times first b.overflowChecks (eventTimes times log) t.before.servo.clock

omit [AcceptableMasterList A] [Rng R] [ForwardedTLVProvider T] in
theorem eventTimes_concat (t : Transition (Slot A R C (Kalman b)) (PortEvent T)) (new : List Measurement)
    (h : t.after.servo.handed = t.before.servo.handed ++ new) :
    eventTimes times (log ++ [t]) =
      eventTimes times log ++ new.map (KalmanFilter.eventTime times t.before.servo.clock) := by
  rw [eventTimes, List.flatMap_append, List.flatMap_singleton, h, List.drop_left]
  rfl

/-- **A step keeps the filter behind the clock.** -/
theorem step_behind (h : slot.servo.Behind times first (eventTimes times log))
    (hstep : slot.step p e = .ok (slot', actions)) (hintime : InTime times first log ⟨slot, e, slot'⟩) :
    slot'.servo.Behind times first (eventTimes times (log ++ [⟨slot, e, slot'⟩])) := by
  cases step_serves hstep with
  | settles hsettles =>
    rw [eventTimes_concat _ [] (by rw [hsettles.handed, List.append_nil])]
    rw [List.map_nil, List.append_nil]
    exact hsettles.behind h
  | updates _ hservo =>
    rw [eventTimes_concat _ [] (by rw [hservo, List.append_nil]; rfl)]
    rw [List.map_nil, List.append_nil, hservo]
    exact h.update
  | @measures port port' m _ hands =>
    have hhanded : port'.servo.handed = port.servo.handed ++ [m] := hands.handed
    have hm := hintime m hhanded
    obtain ⟨servo, hsettles, hservo⟩ := hands.servo
    have hadvances : times.Advances port.clock servo.clock := hsettles.advances
    have hsame : KalmanFilter.eventTime times servo.clock m =
        KalmanFilter.eventTime times port.clock m := by
      rw [KalmanFilter.eventTime, KalmanFilter.eventTime, hadvances.stepped]
    have hnext : KalmanFilter.eventTime times servo.clock m ≤ times.next servo.clock := by
      rw [hsame]
      exact hm.notAhead.trans hadvances.next
    have hbehind := (hsettles.behind h).measure hnext (by rw [hsame]; exact hm.represents)
    rw [eventTimes_concat ⟨running port, e, running port'⟩ [m] hhanded]
    show port'.servo.Behind _ _ _
    rw [hservo]
    rw [hsame] at hbehind
    exact hbehind

omit [AcceptableMasterList A] in
theorem initial_behind (h : Slot.Initial p slot)
    (hfirst : b.overflowChecks = .release → times.Represents first) :
    slot.servo.Behind times first [] := by
  obtain ⟨config, filterConfig, clock, identity, rng, port, hnew, rfl⟩ := h
  obtain ⟨⟨duration, rng₁⟩, -, hnew⟩ := bind_eq_ok.mp hnew
  obtain ⟨interval, -, hnew⟩ := bind_eq_ok.mp hnew
  obtain rfl := Except.ok.inj hnew
  have hevents : ∀ event ∈ ([] : List Int), event ≤ times.next clock := fun event hevent => by
    cases hevent
  exact ⟨hevents, hfirst, KalmanFilter.new_avoids filterConfig,
    fun f hf => KalmanFilter.new_behind hf hevents hfirst⟩

/-- **In every run the filter stays behind the clock.** -/
theorem trace_behind (hfirst : b.overflowChecks = .release → times.Represents first)
    (h : Trace (Slot.step p) (Slot.Initial p) log slot)
    (hintime : ∀ earlier t later, log = earlier ++ t :: later → InTime times first earlier t) :
    slot.servo.Behind times first (eventTimes times log) := by
  induction h with
  | init hinit => exact initial_behind hinit hfirst
  | @step log slot slot' e _ _ hstep ih =>
    refine step_behind (ih fun earlier t later heq => ?_) hstep (hintime log _ [] rfl)
    refine hintime earlier t (later ++ [⟨slot, e, slot'⟩]) ?_
    rw [heq, List.append_assoc, List.cons_append]

/-- **The filter time never runs ahead of the clock.**  No assertion has failed, and none fails in a call
that a port makes next, also when assertions are switched on; and no sync measurement in time is
discarded. -/
structure NotAhead (times : LocalTimes C) (first : Int) (events : List Int)
    (slot : Slot A R C (Kalman b)) : Prop where
  holds : slot.servo.filter.filter ≠ .error .debugAssert
  next : ∀ servo f, slot.servo.Settles servo → servo.filter.filter = .ok f →
    (∀ m : Measurement, m.InTime times first b.overflowChecks events slot.servo.clock →
      f.measurement ⟨b.overflowChecks, .debug⟩ m servo.clock ≠ .error .debugAssert) ∧
    f.update ⟨b.overflowChecks, .debug⟩ servo.clock ≠ .error .debugAssert ∧
    f.demobilize ⟨b.overflowChecks, .debug⟩ servo.clock ≠ .error .debugAssert
  syncs : ∀ f (m : Measurement), slot.servo.filter.filter = .ok f → m.rawSyncOffset ≠ none →
    m.InTime times first b.overflowChecks events slot.servo.clock →
      f.runningFilter.afterFilterTime m.eventTime = true

omit [AcceptableMasterList A] [Rng R] in
theorem notAhead_of_behind {events : List Int} (h : slot.servo.Behind times first events) :
    slot.NotAhead times first events := by
  refine ⟨h.filter.avoids, fun servo f hsettles hf => ?_, fun f m hf hsync hm => ?_⟩
  · have hbehind := ((hsettles.behind h).filter.returns f hf)
    have hadvances : times.Advances slot.servo.clock servo.clock := hsettles.advances
    refine ⟨fun m hm => ?_, (KalmanFilter.update_behind (b := ⟨b.overflowChecks, .debug⟩) hbehind).avoids,
      KalmanFilter.demobilize_avoids (b := ⟨b.overflowChecks, .debug⟩) hbehind⟩
    have hsame : KalmanFilter.eventTime times servo.clock m =
        KalmanFilter.eventTime times slot.servo.clock m := by
      rw [KalmanFilter.eventTime, KalmanFilter.eventTime, hadvances.stepped]
    refine (KalmanFilter.measurement_behind (b := ⟨b.overflowChecks, .debug⟩) hbehind ?_ ?_).avoids
    · rw [hsame]
      exact hm.notAhead.trans hadvances.next
    · rw [hsame]
      exact hm.represents
  · obtain ⟨event, hevent, hrunning⟩ := (h.filter.returns f hf).running
    refine BaseFilter.afterFilterTime_iff.mpr (hrunning.mono ?_)
    have hle := hm.inOrder hsync event hevent
    rw [KalmanFilter.eventTime] at hle
    omega

/-- **In every run** of a port with measurements in time, no assertion on the filter time fails and no
sync measurement is discarded. -/
theorem trace_notAhead (hfirst : b.overflowChecks = .release → times.Represents first)
    (h : Trace (Slot.step p) (Slot.Initial p) log slot)
    (hintime : ∀ earlier t later, log = earlier ++ t :: later → InTime times first earlier t) :
    slot.NotAhead times first (eventTimes times log) :=
  notAhead_of_behind (trace_behind hfirst h hintime)

end Slot

/-! ### A clock that stands still -/

/-- A clock that counts only its steps. -/
structure LocalClock where
  now : Time

instance : Clock LocalClock where
  now := LocalClock.now
  stepClock clock moved :=
    match clock.now.add .debug moved with
    | .ok time => (⟨time⟩, some time)
    | .error _ => (clock, none)
  setFrequency clock _ := (clock, some clock.now)
  setProperties clock _ := (clock, some ())

theorem LocalClock.stepClock_eq_some {clock clock' : LocalClock} {moved : Duration} {time : Time}
    (h : Clock.stepClock clock moved = (clock', some time)) :
    clock'.now = time ∧ time.toInt = clock.now.toInt + moved.toInt := by
  dsimp only [Clock.stepClock] at h
  split at h
  · rename_i time₁ hadd
    obtain ⟨rfl, heq⟩ := Prod.mk.inj h
    obtain rfl := Option.some.inj heq
    exact ⟨rfl, Time.add_debug hadd⟩
  · cases h

theorem LocalClock.stepClock_eq_none {clock clock' : LocalClock} {moved : Duration}
    (h : Clock.stepClock clock moved = (clock', none)) : clock' = clock := by
  dsimp only [Clock.stepClock] at h
  split at h
  · cases h
  · exact (Prod.mk.inj h).1.symm

/-- Its local time is always zero. -/
def LocalClock.times : LocalTimes LocalClock where
  stepped clock := clock.now.toInt
  last _ := 0
  next _ := 0
  last_le_next _ := le_rfl
  setFrequency clock ppm clock' time h := by
    obtain ⟨rfl, heq⟩ := Prod.mk.inj h
    obtain rfl := Option.some.inj heq
    exact ⟨rfl, (Int.sub_self _).symm, le_rfl⟩
  setFrequency_fails clock ppm clock' h := by cases h
  stepClock clock moved clock' time h := by
    obtain ⟨rfl, htime⟩ := stepClock_eq_some h
    exact ⟨htime, (Int.sub_self _).symm, le_rfl⟩
  stepClock_fails clock moved clock' h := by
    rw [stepClock_eq_none h]
    exact ⟨rfl, le_rfl, le_rfl⟩
  setProperties _ _ := ⟨rfl, le_rfl, le_rfl⟩

namespace Slot

abbrev LocalSlot := Slot AcceptAnyMaster TestRng LocalClock (Kalman ⟨.debug, .debug⟩)

/-- The port of `setup_test_port` becomes a slave and receives a one-step sync message with this
correction field. -/
def receiveCorrected (correction : List UInt8) : List (PortEvent NoForwardedTLVs) :=
  receiveSync.take 2 ++
    [.eventReceive (testSystem testInstanceConfig).state
      ([0x00, 0x12] ++ toBE 2 44 ++ List.replicate 4 0 ++ correction ++ List.replicate 4 0 ++
        List.replicate 8 9 ++ [0, 1, 0, 3, 0, 0] ++ List.replicate 10 0) ⟨⟨10000⟩⟩]

/-- Every message of the run is received when the clock could have returned its receive time. -/
def ReceivedInTime {C : Type} [Clock C] (times : LocalTimes C)
    (log : List (Transition (Slot A R C (Kalman b)) (PortEvent T))) : Prop :=
  ∀ t ∈ log, ∀ state message timestamp, t.event = .eventReceive state message timestamp →
    timestamp.toInt - times.stepped t.before.servo.clock ≤ times.next t.before.servo.clock

/-- Whether a message is received at the time of the clock. -/
def receivesNow (t : Transition LocalSlot (PortEvent NoForwardedTLVs)) : Bool :=
  match t.event with
  | .eventReceive _ _ timestamp => decide (timestamp = t.before.servo.clock.now)
  | _ => true

/-- Whether the measurements of a step are of the time of the clock. -/
def measuresNow (t : Transition LocalSlot (PortEvent NoForwardedTLVs)) : Bool :=
  (t.after.servo.handed.drop t.before.servo.handed.length).all
    fun m => decide (m.eventTime = t.before.servo.clock.now)

theorem receivedInTime_of_receivesNow
    {log : List (Transition LocalSlot (PortEvent NoForwardedTLVs))}
    (h : ∀ t ∈ log, receivesNow t = true) : ReceivedInTime LocalClock.times log := by
  intro t ht state message timestamp hevent
  have hnow := h t ht
  rw [receivesNow, hevent, decide_eq_true_eq] at hnow
  rw [hnow]
  exact (Int.sub_self _).le

theorem eventTime_of_measuresNow {t : Transition LocalSlot (PortEvent NoForwardedTLVs)}
    (h : measuresNow t = true)
    (hm : m ∈ t.after.servo.handed.drop t.before.servo.handed.length) :
    KalmanFilter.eventTime LocalClock.times t.before.servo.clock m = 0 := by
  have hnow := of_decide_eq_true (List.all_eq_true.mp h m hm)
  rw [KalmanFilter.eventTime, hnow]
  exact Int.sub_self _

theorem inTime_of_measuresNow {log earlier later : List (Transition LocalSlot (PortEvent NoForwardedTLVs))}
    {t : Transition LocalSlot (PortEvent NoForwardedTLVs)} (h : ∀ t ∈ log, measuresNow t = true)
    (heq : log = earlier ++ t :: later) : InTime LocalClock.times 0 earlier t := by
  intro m hm
  have ht : t ∈ log := by
    rw [heq]
    exact List.mem_append_right _ List.mem_cons_self
  have hzero : KalmanFilter.eventTime LocalClock.times t.before.servo.clock m = 0 := by
    refine eventTime_of_measuresNow (h t ht) ?_
    rw [hm, List.drop_left]
    exact List.mem_singleton_self m
  refine ⟨hzero.le, fun _ => hzero.ge, fun _ event hevent => ?_⟩
  rw [hzero]
  rcases List.mem_cons.mp hevent with rfl | hevent
  · exact le_rfl
  · obtain ⟨t', ht', hevent⟩ := List.mem_flatMap.mp hevent
    obtain ⟨m', hm', rfl⟩ := List.mem_map.mp hevent
    refine (eventTime_of_measuresNow (h t' ?_) hm').le
    rw [heq]
    exact List.mem_append_left _ ht'

/-- Whether a port with this clock runs through the events, every step passes and so does the last
state. -/
def localRun (step : Transition LocalSlot (PortEvent NoForwardedTLVs) → Bool) (last : LocalSlot → Bool)
    (events : List (PortEvent NoForwardedTLVs)) : Bool :=
  match KalmanConfiguration.default .debug >>= fun config =>
    Port.new (A := AcceptAnyMaster) (R := TestRng) (C := LocalClock) (F := Kalman ⟨.debug, .debug⟩)
      .debug testPortConfig config ⟨⟨⟨10000⟩⟩⟩ default ⟨⟩ with
  | .ok port =>
    Machine.checkSteps (Slot.step .debug) step (.inBmca port) events &&
      Machine.endsWith (Slot.step .debug) (.inBmca port) events last
  | .error _ => false

theorem exists_of_localRun {step : Transition LocalSlot (PortEvent NoForwardedTLVs) → Bool}
    {last : LocalSlot → Bool} {events : List (PortEvent NoForwardedTLVs)}
    (h : localRun step last events = true) :
    ∃ (log : List (Transition LocalSlot (PortEvent NoForwardedTLVs))) (slot : LocalSlot),
      Trace (Slot.step .debug) (Slot.Initial .debug) log slot ∧ (∀ t ∈ log, step t = true) ∧
      last slot = true := by
  unfold localRun at h
  split at h
  · rename_i port hnew
    obtain ⟨config, -, hnew⟩ := bind_eq_ok.mp hnew
    obtain ⟨hsteps, hlast⟩ := (Bool.and_eq_true _ _).mp h
    have hinit : Slot.Initial .debug (.inBmca port) := ⟨_, _, _, _, _, port, hnew, rfl⟩
    obtain ⟨log, slot, htrace, -, hall, os, hrun⟩ :=
      Machine.Trace.of_checkSteps _ (.init hinit) hsteps
    rw [List.nil_append] at htrace
    rw [Machine.endsWith, hrun] at hlast
    exact ⟨log, slot, htrace, hall, hlast⟩
  · cases h

/-- Whether a sync message was measured. -/
def measuredSync (slot : LocalSlot) : Bool := slot.servo.handed.any (·.rawSyncOffset.isSome)

/-- Whether an assertion has failed. -/
def assertionFailed (slot : LocalSlot) : Bool :=
  match slot.servo.filter.filter with
  | .error .debugAssert => true
  | _ => false

/-- A sync message without a correction is in time. -/
theorem receiveCorrected_notAhead :
    ∃ (log : List (Transition LocalSlot (PortEvent NoForwardedTLVs))) (slot : LocalSlot),
      Trace (Slot.step .debug) (Slot.Initial .debug) log slot ∧ measuredSync slot = true ∧
      slot.NotAhead LocalClock.times 0 (eventTimes LocalClock.times log) := by
  have hrun : localRun measuresNow measuredSync (receiveCorrected (List.replicate 8 0)) = true := by
    decide +kernel
  obtain ⟨log, slot, htrace, hall, hlast⟩ := exists_of_localRun hrun
  refine ⟨log, slot, htrace, hlast, ?_⟩
  exact trace_notAhead (fun h => by cases h) htrace
    fun earlier t later heq => inTime_of_measuresNow hall heq

/-- A sync message with a correction of minus one microsecond is received at the time of the clock, and
the assertion fails. -/
theorem receiveCorrected_assertion_fails :
    ∃ (log : List (Transition LocalSlot (PortEvent NoForwardedTLVs))) (slot : LocalSlot),
      Trace (Slot.step .debug) (Slot.Initial .debug) log slot ∧
      ReceivedInTime LocalClock.times log ∧ slot.servo.filter.filter = .error .debugAssert := by
  have hrun : localRun receivesNow assertionFailed
      (receiveCorrected (List.replicate 4 255 ++ [252, 24, 0, 0])) = true := by
    decide +kernel
  obtain ⟨log, slot, htrace, hall, hlast⟩ := exists_of_localRun hrun
  refine ⟨log, slot, htrace, receivedInTime_of_receivesNow hall, ?_⟩
  unfold assertionFailed at hlast
  split at hlast
  · assumption
  · cases hlast

end Slot

end Statime
