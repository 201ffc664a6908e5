import Statime.Filters.FilterTime

/-!
# Local times

The time of a clock without the steps that it was given, and the Kalman filter on such a clock.

* `LocalTimes`: a clock whose local times do not decrease.
* `KalmanFilter.Behind`: no estimate is ahead of the clock.
* `KalmanFilter.changeFrequency_behind`, `KalmanFilter.step_behind`, `KalmanFilter.measurement_behind`:
  a call keeps that and fails no assertion, when the measurement is not ahead of the clock either.
-/

namespace Statime

open Rust

/-! ### Clocks -/

/-- What is known of the local times of a clock: how far it was stepped, the last time that it
returned and the earliest that it can return next. -/
structure LocalTimes (C : Type) [Clock C] where
  stepped : C → Int
  last : C → Int
  next : C → Int
  last_le_next : ∀ clock, last clock ≤ next clock
  setFrequency : ∀ clock ppm clock' time, Clock.setFrequency clock ppm = (clock', some time) →
    stepped clock' = stepped clock ∧ last clock' = time.toInt - stepped clock ∧
      next clock ≤ last clock'
  setFrequency_fails : ∀ clock ppm clock', Clock.setFrequency clock ppm = (clock', none) →
    stepped clock' = stepped clock ∧ last clock ≤ last clock' ∧ next clock ≤ next clock'
  stepClock : ∀ clock moved clock' time, Clock.stepClock clock moved = (clock', some time) →
    stepped clock' = stepped clock + moved.toInt ∧ last clock' = time.toInt - stepped clock' ∧
      next clock ≤ last clock'
  stepClock_fails : ∀ clock moved clock', Clock.stepClock clock moved = (clock', none) →
    stepped clock' = stepped clock ∧ last clock ≤ last clock' ∧ next clock ≤ next clock'
  setProperties : ∀ clock properties, stepped (Clock.setProperties clock properties).1 = stepped clock ∧
    last clock ≤ last (Clock.setProperties clock properties).1 ∧
      next clock ≤ next (Clock.setProperties clock properties).1

namespace LocalTimes

variable {C : Type} [Clock C] (times : LocalTimes C)

/-- However the clock is stepped, its local times from the first one on can be represented. -/
structure Represents (first : Int) : Prop where
  first_le_last : ∀ clock, first ≤ times.last clock
  nonneg : ∀ clock, 0 ≤ first + times.stepped clock
  lt : ∀ clock, times.next clock + times.stepped clock < 2 ^ 128

/-- The clock is not stepped, and its times do not decrease. -/
structure Advances (clock clock' : C) : Prop where
  stepped : times.stepped clock' = times.stepped clock
  last : times.last clock ≤ times.last clock'
  next : times.next clock ≤ times.next clock'

variable {times} {clock clock' clock'' : C}

theorem Advances.refl (clock : C) : times.Advances clock clock := ⟨rfl, le_rfl, le_rfl⟩

theorem Advances.trans (h : times.Advances clock clock') (h' : times.Advances clock' clock'') :
    times.Advances clock clock'' :=
  ⟨h'.stepped.trans h.stepped, h.last.trans h'.last, h.next.trans h'.next⟩

theorem advances_setFrequency {ppm : Rat} {time : Option Time}
    (h : Clock.setFrequency clock ppm = (clock', time)) : times.Advances clock clock' := by
  cases time with
  | none =>
    obtain ⟨hstepped, hlast, hnext⟩ := times.setFrequency_fails clock ppm clock' h
    exact ⟨hstepped, hlast, hnext⟩
  | some time =>
    obtain ⟨hstepped, -, hnext⟩ := times.setFrequency clock ppm clock' time h
    exact ⟨hstepped, (times.last_le_next clock).trans hnext, hnext.trans (times.last_le_next clock')⟩

end LocalTimes

/-! ### The filter on a clock -/

namespace KalmanFilter

variable {C : Type} [Clock C] {times : LocalTimes C} {first : Int} {b : Build} {p : Profile}
  {events : List Int}
  {clock clock' : C} {self self' : KalmanFilter} {m : Measurement}

/-- No estimate is ahead of the clock: the running filter is at a time that the clock has returned or at
the time of a measurement, and the wander filter is not after it. -/
structure Behind (times : LocalTimes C) (first : Int) (p : Profile) (events : List Int) (clock : C)
    (f : KalmanFilter) : Prop where
  notNext : ∀ event ∈ events, event ≤ times.next clock
  running : ∃ event ∈ times.last clock :: events,
    f.runningFilter.NotAfter (event + times.stepped clock)
  wander : ∀ t, f.wanderFilter.filterTime = some t →
    ∃ t', f.runningFilter.filterTime = some t' ∧ t.toInt ≤ t'.toInt
  /-- Without overflow checks an estimate before the first time could be stepped below zero. -/
  represents : p = .release → times.Represents first ∧
    ∀ t, f.runningFilter.filterTime = some t ∨ f.wanderFilter.filterTime = some t →
      first + times.stepped clock ≤ t.toInt

theorem Behind.notAfter (h : self.Behind times first p events clock) :
    self.runningFilter.NotAfter (times.next clock + times.stepped clock) := by
  obtain ⟨event, hevent, hrunning⟩ := h.running
  refine hrunning.mono ?_
  rcases List.mem_cons.mp hevent with rfl | hevent
  · have := times.last_le_next clock
    omega
  · have := h.notNext event hevent
    omega

theorem Behind.wander_notAfter {bound : Int} (h : self.Behind times first p events clock)
    (hrunning : self.runningFilter.NotAfter bound) : self.wanderFilter.NotAfter bound := by
  intro t ht
  obtain ⟨t', ht', hle⟩ := h.wander t ht
  exact hle.trans (hrunning t' ht')

/-- What does not touch the times of the estimates, while the clock is not stepped. -/
theorem Behind.advance (h : self.Behind times first p events clock)
    (hadvances : times.Advances clock clock')
    (hrunning : self'.runningFilter.filterTime = self.runningFilter.filterTime)
    (hwander : self'.wanderFilter.filterTime = self.wanderFilter.filterTime) :
    self'.Behind times first p events clock' := by
  refine ⟨fun event hevent => (h.notNext event hevent).trans hadvances.next, ?_, ?_, ?_⟩
  · obtain ⟨event, hevent, hnot⟩ := h.running
    rw [hadvances.stepped]
    rcases List.mem_cons.mp hevent with rfl | hevent
    · refine ⟨_, List.mem_cons_self, fun t ht => ?_⟩
      rw [hrunning] at ht
      exact (hnot t ht).trans (Int.add_le_add_right hadvances.last _)
    · refine ⟨event, List.mem_cons_of_mem _ hevent, fun t ht => ?_⟩
      rw [hrunning] at ht
      exact hnot t ht
  · rw [hrunning, hwander]
    exact h.wander
  · rw [hrunning, hwander, hadvances.stepped]
    exact h.represents

/-- The running filter is progressed to an event; so is the wander filter, or it begins again where the
running one was. -/
theorem Behind.progress {events' : List Int} {event : Int} {time : Time}
    (h : self.Behind times first p events clock) (hstepped : times.stepped clock' = times.stepped clock)
    (hnotNext : ∀ event ∈ events', event ≤ times.next clock')
    (hevent : event ∈ times.last clock' :: events')
    (hlocal : time.toInt = event + times.stepped clock') (hfirst : p = .release → first ≤ event)
    (hrunning : self'.runningFilter.filterTime = some time)
    (hwander : ∀ t, self'.wanderFilter.filterTime = some t →
      t = time ∨ self.runningFilter.filterTime = some t ∧ t.toInt ≤ time.toInt) :
    self'.Behind times first p events' clock' := by
  refine ⟨hnotNext, ⟨event, hevent, ?_⟩, ?_, ?_⟩
  · rw [← hlocal]
    exact BaseFilter.notAfter_of_time hrunning
  · intro t ht
    refine ⟨time, hrunning, ?_⟩
    rcases hwander t ht with rfl | ⟨-, hle⟩
    · exact le_rfl
    · exact hle
  · intro hp
    obtain ⟨hrepresents, hlow⟩ := h.represents hp
    have htime : first + times.stepped clock' ≤ time.toInt := by
      have := hfirst hp
      omega
    refine ⟨hrepresents, fun t ht => ?_⟩
    rcases ht with ht | ht
    · obtain rfl := Option.some.inj (hrunning.symm.trans ht)
      exact htime
    · rcases hwander t ht with rfl | ⟨hbefore, -⟩
      · exact htime
      · rw [hstepped]
        exact hlow t (Or.inl hbefore)

theorem ensureFreqInit_behind (h : self.Behind times first p events clock) :
    (self.ensureFreqInit clock).1.Behind times first p events (self.ensureFreqInit clock).2 := by
  unfold ensureFreqInit
  split
  · exact h
  · split
    · rename_i heq
      exact h.advance (LocalTimes.advances_setFrequency heq) rfl rfl
    · rename_i heq
      exact h.advance (LocalTimes.advances_setFrequency heq) rfl rfl

/-- **A change of frequency**: both estimates are progressed to the time that the clock returns. -/
theorem changeFrequency_behind (h : self.Behind times first p events clock) (target : Float) :
    Ensures .debugAssert (self.changeFrequency b target clock)
      fun r => r.1.Behind times first p events r.2 := by
  unfold changeFrequency
  split
  · exact ensures_ok h
  · dsimp only
    split
    · rename_i heq
      exact ensures_ok (h.advance (LocalTimes.advances_setFrequency heq) rfl rfl)
    · rename_i clock' time heq
      have hadvances : times.Advances clock clock' := LocalTimes.advances_setFrequency heq
      obtain ⟨hstepped, hlast, hnext⟩ := times.setFrequency _ _ _ _ heq
      have hrunning : self.runningFilter.NotAfter time.toInt := h.notAfter.mono (by omega)
      have hwander : self.wanderFilter.NotAfter time.toInt := h.wander_notAfter hrunning
      refine (BaseFilter.absorbFrequencySteer_avoids hrunning).bind_ensures fun running hrunning' => ?_
      refine (BaseFilter.absorbFrequencySteer_avoids hwander).bind_ensures fun wander hwander' => ?_
      have htime := BaseFilter.absorbFrequencySteer_time hrunning hrunning'
      have htime' := BaseFilter.absorbFrequencySteer_time hwander hwander'
      have hlocal : time.toInt = times.last clock' + times.stepped clock' := by omega
      refine ensures_ok (h.progress hstepped
        (fun event hevent => (h.notNext event hevent).trans hadvances.next) List.mem_cons_self hlocal
        (fun hp => (h.represents hp).1.first_le_last clock') htime fun t ht => ?_)
      exact Or.inl (Option.some.inj (ht.symm.trans htime'))

theorem changeFrequency_advances {target : Float}
    (h : self.changeFrequency b target clock = .ok (self', clock')) : times.Advances clock clock' := by
  unfold changeFrequency at h
  split at h
  · rw [← (Prod.mk.inj (Except.ok.inj h)).2]
    exact .refl _
  · dsimp only at h
    split at h
    · rename_i heq
      rw [← (Prod.mk.inj (Except.ok.inj h)).2]
      exact LocalTimes.advances_setFrequency heq
    · rename_i heq
      obtain ⟨running, -, h⟩ := bind_eq_ok.mp h
      obtain ⟨wander, -, h⟩ := bind_eq_ok.mp h
      rw [← (Prod.mk.inj (Except.ok.inj h)).2]
      exact LocalTimes.advances_setFrequency heq

/-- Where an estimate is after a step.  In a build without overflow checks the sum does not wrap. -/
theorem Behind.toInt_add {moved : Duration} {t t' : Time} (h : self.Behind times first p events clock)
    (hstepped : times.stepped clock' = times.stepped clock + moved.toInt)
    (hnext : times.next clock ≤ times.next clock')
    (ht : self.runningFilter.filterTime = some t ∨ self.wanderFilter.filterTime = some t)
    (hadd : t.add p moved = .ok t') : t'.toInt = t.toInt + moved.toInt := by
  refine Time.toInt_add hadd fun hp => ?_
  obtain ⟨hrepresents, hlow⟩ := h.represents hp
  have hlow := hlow t ht
  have hnonneg := hrepresents.nonneg clock'
  have hlt := hrepresents.lt clock'
  have hhigh : t.toInt ≤ times.next clock + times.stepped clock := by
    rcases ht with ht | ht
    · exact h.notAfter t ht
    · exact h.wander_notAfter h.notAfter t ht
  omega

/-- Both estimates are moved as the clock was stepped. -/
theorem Behind.move {moved : Duration} {offset : Float} {running wander : BaseFilter}
    (h : self.Behind times first p events clock) (hmoved : Duration.fromSeconds p offset = .ok moved)
    (hstepped : times.stepped clock' = times.stepped clock + moved.toInt)
    (hlast : times.last clock ≤ times.last clock') (hnext : times.next clock ≤ times.next clock')
    (hrunning : self.runningFilter.absorbOffsetSteer p offset = .ok running)
    (hwander : self.wanderFilter.absorbOffsetSteer p offset = .ok wander) :
    KalmanFilter.Behind times first p events clock'
      { self with runningFilter := running, wanderFilter := wander } := by
  refine ⟨fun event hevent => (h.notNext event hevent).trans hnext, ?_, ?_, ?_⟩
  · obtain ⟨event, hevent, hnot⟩ := h.running
    have hmoves : ∀ bound, event ≤ bound → running.NotAfter (bound + times.stepped clock') := by
      intro bound hbound t' ht'
      obtain ⟨t, ht, hadd⟩ := BaseFilter.absorbOffsetSteer_time hmoved hrunning ht'
      have hle := hnot t ht
      rw [h.toInt_add hstepped hnext (Or.inl ht) hadd]
      omega
    rcases List.mem_cons.mp hevent with rfl | hevent
    · exact ⟨_, List.mem_cons_self, hmoves _ hlast⟩
    · exact ⟨event, List.mem_cons_of_mem _ hevent, hmoves _ le_rfl⟩
  · intro t' ht'
    obtain ⟨t, ht, hadd⟩ := BaseFilter.absorbOffsetSteer_time hmoved hwander ht'
    obtain ⟨s, hs, hle⟩ := h.wander t ht
    obtain ⟨s', hs', hadd'⟩ := BaseFilter.absorbOffsetSteer_isSome hmoved hrunning hs
    refine ⟨s', hs', ?_⟩
    rw [h.toInt_add hstepped hnext (Or.inr ht) hadd, h.toInt_add hstepped hnext (Or.inl hs) hadd']
    omega
  · intro hp
    refine ⟨(h.represents hp).1, fun t' ht' => ?_⟩
    -- either estimate was moved from a time that is represented
    have hbefore : ∃ t, (self.runningFilter.filterTime = some t ∨ self.wanderFilter.filterTime = some t) ∧
        t.add p moved = .ok t' := by
      rcases ht' with ht' | ht'
      · obtain ⟨t, ht, hadd⟩ := BaseFilter.absorbOffsetSteer_time hmoved hrunning ht'
        exact ⟨t, Or.inl ht, hadd⟩
      · obtain ⟨t, ht, hadd⟩ := BaseFilter.absorbOffsetSteer_time hmoved hwander ht'
        exact ⟨t, Or.inr ht, hadd⟩
    obtain ⟨t, ht, hadd⟩ := hbefore
    have hfirst := (h.represents hp).2 t ht
    rw [h.toInt_add hstepped hnext ht hadd]
    omega

/-- **A step**: both estimates are moved with the clock. -/
theorem step_behind (h : self.Behind times first p events clock) (offset : Float) :
    Ensures .debugAssert (self.step p clock offset) fun r => r.1.Behind times first p events r.2 := by
  refine (Duration.fromSeconds_avoids p (-offset)).bind_ensures fun moved hmoved => ?_
  split
  · rename_i clock' heq
    obtain ⟨hstepped, hlast, hnext⟩ := times.stepClock_fails _ _ _ heq
    exact ensures_ok (h.advance ⟨hstepped, hlast, hnext⟩ rfl rfl)
  · rename_i clock' time heq
    obtain ⟨hstepped, -, hnext⟩ := times.stepClock _ _ _ _ heq
    have hlast := (times.last_le_next clock).trans hnext
    refine (BaseFilter.absorbOffsetSteer_avoids _ p _).bind_ensures fun running hrunning => ?_
    refine (BaseFilter.absorbOffsetSteer_avoids _ p _).bind_ensures fun wander hwander => ?_
    exact ensures_ok (h.move hmoved hstepped hlast (hnext.trans (times.last_le_next clock'))
      hrunning hwander)

theorem steer_behind (h : self.Behind times first b.overflowChecks events clock) :
    Ensures .debugAssert (self.steer b clock)
      fun r => r.1.Behind times first b.overflowChecks events r.2.1 := by
  unfold steer
  dsimp only
  split
  · refine (F64.clamp_avoids _ _ _).bind_ensures fun target _ => ?_
    refine (changeFrequency_behind h target).bind fun ⟨self₁, clock₁⟩ _ h₁ => ?_
    refine (CoreDuration.fromSecsF64_avoids _).bind_ensures fun nextUpdate _ => ?_
    exact (self₁.answer_avoids _ _).bind_ensures fun _ _ => ensures_ok h₁
  · refine (step_behind h _).bind fun ⟨self₁, clock₁⟩ _ h₁ => ?_
    exact (self₁.answer_avoids _ _).bind_ensures fun _ _ => ensures_ok h₁

/-- The parts of a measurement leave the times of the estimates. -/
theorem absorbOffsets_behind (h : self.Behind times first p events clock) (m : Measurement) :
    Ensures .debugAssert (self.absorbOffsets m clock) fun r => r.1.Behind times first p events r.2 := by
  unfold absorbOffsets
  refine Ensures.bind (Q := fun r => r.1.Behind times first p events r.2) ?_ fun r₁ _ h₁ => ?_
  · split
    · refine (noise_avoids _).bind_ensures fun noise _ => ensures_ok ?_
      exact (ensureFreqInit_behind h).advance (.refl _) (BaseFilter.absorbSyncOffset_time _ _ _ _) rfl
    · exact ensures_ok h
  refine Ensures.bind (Q := fun r => r.1.Behind times first p events r.2) ?_ fun r₂ _ h₂ => ?_
  · split
    · refine (noise_avoids _).bind_ensures fun noise _ => ensures_ok ?_
      exact (ensureFreqInit_behind h₁).advance (.refl _) (BaseFilter.absorbDelayOffset_time _ _ _ _) rfl
    · exact ensures_ok h₁
  dsimp only
  split
  · refine Ensures.bind (Q := fun f => f.Behind times first p events r₂.2) ?_
      fun _ _ h₃ => ensures_ok h₃
    refine (noise_avoids _).bind_ensures fun noise _ => ensures_ok ?_
    exact h₂.advance (.refl _) (BaseFilter.absorbPeerDelay_time _ _ _) rfl
  · exact ensures_ok h₂

/-- When the event of the measurement was, in local time. -/
def eventTime (times : LocalTimes C) (clock : C) (m : Measurement) : Int :=
  m.eventTime.toInt - times.stepped clock

theorem Behind.append (h : self.Behind times first p events clock) {event : Int}
    (hevent : event ≤ times.next clock) : self.Behind times first p (events ++ [event]) clock := by
  refine ⟨?_, ?_, h.wander, h.represents⟩
  · rw [List.forall_mem_append]
    exact ⟨h.notNext, List.forall_mem_singleton.mpr hevent⟩
  · obtain ⟨event', hevent', hrunning⟩ := h.running
    exact ⟨event', List.mem_append_left _ hevent', hrunning⟩

/-- **A measurement** that is not ahead of the clock. -/
theorem measurement_behind (h : self.Behind times first b.overflowChecks events clock)
    (hnext : eventTime times clock m ≤ times.next clock)
    (hfirst : b.overflowChecks = .release → first ≤ eventTime times clock m) :
    Ensures .debugAssert (self.measurement b m clock) fun r =>
      r.1.Behind times first b.overflowChecks (events ++ [eventTime times clock m]) r.2.1 := by
  unfold measurement
  split
  · rename_i hafter
    have hrunning := BaseFilter.afterFilterTime_iff.mp hafter
    have hwander := h.wander_notAfter hrunning
    refine (self.measurementErrorEstimator.absorbMeasurement_avoids _ _ _ _).bind_ensures
      fun estimator _ => ?_
    have hupdate : Avoids .debugAssert
        ({ self with measurementErrorEstimator := estimator }.updateWander b m) :=
      updateWander_avoids hwander
    refine hupdate.bind_ensures fun self₁ hself₁ => ?_
    obtain ⟨hsame, hreset⟩ := @updateWander_times b
      { self with measurementErrorEstimator := estimator } self₁ m hwander hself₁
    have hrunning₁ : self₁.runningFilter.NotAfter m.eventTime.toInt := by rwa [hsame]
    refine (BaseFilter.progressFiltertime_avoids hrunning₁).bind_ensures fun running hprogress => ?_
    have htime := BaseFilter.progressFiltertime_time hrunning₁ hprogress
    have hlocal : m.eventTime.toInt = eventTime times clock m + times.stepped clock := by
      rw [eventTime]
      omega
    have hbehind : KalmanFilter.Behind times first b.overflowChecks (events ++ [eventTime times clock m])
        clock { self₁ with runningFilter := running } := by
      refine h.progress rfl (h.append hnext).notNext (by simp) hlocal hfirst htime fun t ht => ?_
      rcases hreset with hprogressed | hreset
      · exact Or.inl (Option.some.inj (ht.symm.trans hprogressed))
      · have hbefore : self.runningFilter.filterTime = some t := by
          rw [← ht, hreset]
        exact Or.inr ⟨hbefore, hrunning t hbefore⟩
    exact (absorbOffsets_behind hbehind m).bind fun ⟨self₂, clock₂⟩ _ h₂ => steer_behind h₂
  · exact ensures_ok (h.append hnext)

theorem update_behind (h : self.Behind times first b.overflowChecks events clock) :
    Ensures .debugAssert (self.update b clock)
      fun r => r.1.Behind times first b.overflowChecks events r.2.1 := by
  refine (changeFrequency_behind h 0.0).bind fun ⟨self₁, clock₁⟩ _ h₁ => ?_
  exact (self₁.answer_avoids _ _).bind_ensures fun _ _ => ensures_ok h₁

theorem demobilize_avoids (h : self.Behind times first b.overflowChecks events clock) :
    Avoids .debugAssert (self.demobilize b clock) := by
  have hchange : Ensures .debugAssert (self.changeFrequency b 0.0 clock)
      fun r => r.1.Behind times first b.overflowChecks events r.2 := changeFrequency_behind h 0.0
  exact hchange.avoids.bind fun _ _ => avoids_ok _ _

/-- A filter that is given up changes the frequency. -/
theorem demobilize_advances (h : self.demobilize b clock = .ok clock') :
    times.Advances clock clock' := by
  obtain ⟨⟨self₁, clock₁⟩, hchange, h⟩ := bind_eq_ok.mp h
  rw [← Except.ok.inj h]
  exact changeFrequency_advances hchange

theorem new_behind {config : KalmanConfiguration Float} (hnew : new config = .ok self)
    (hevents : ∀ event ∈ events, event ≤ times.next clock)
    (hfirst : p = .release → times.Represents first) : self.Behind times first p events clock := by
  obtain ⟨variance, -, hnew⟩ := bind_eq_ok.mp hnew
  obtain rfl := Except.ok.inj hnew
  refine ⟨hevents, ⟨_, List.mem_cons_self, fun t ht => ?_⟩, fun t ht => ?_,
    fun hp => ⟨hfirst hp, fun t ht => ?_⟩⟩
  · cases ht
  · cases ht
  · rcases ht with ht | ht <;> cases ht

end KalmanFilter

end Statime
