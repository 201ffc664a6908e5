import Statime.Filters.Kalman

/-!
# The filter times

What the calls of the Kalman filter do to the times of its two estimates.

* `BaseFilter.progressFiltertime_time`, `BaseFilter.absorbFrequencySteer_time`,
  `BaseFilter.absorbOffsetSteer_time`: how the time of an estimate moves.
* `BaseFilter.progressFiltertime_avoids`, `BaseFilter.absorbFrequencySteer_avoids`: the assertion holds
  when the new time is not earlier.
* `KalmanFilter.updateWander_times`: the wander filter is progressed, or cloned from the running one.
-/

namespace Statime

open Rust

/-! ### What never fails an assertion -/

section Avoids

variable (p : Profile)

theorem Duration.fromSeconds_avoids (secs : Float) :
    Avoids .debugAssert (Duration.fromSeconds p secs) := by
  refine Avoids.bind ?_ fun fixed _ => ?_
  · unfold IFixed.ofF64
    split
    · exact (IFixed.wrap_onlyOverflows p _).avoids (by decide)
    · intro h
      cases h
  · refine ((IFixed.wrap_onlyOverflows p _).avoids (by decide)).bind fun giga _ => ?_
    exact ((IFixed.wrap_onlyOverflows p _).avoids (by decide)).bind fun r _ => avoids_ok _ _

theorem Duration.abs_avoids (d : Duration) : Avoids .debugAssert (d.abs p) :=
  ((IFixed.wrap_onlyOverflows p _).avoids (by decide)).bind fun _ _ => avoids_ok _ _

theorem CoreDuration.fromSecsF64_avoids (secs : Float) :
    Avoids .debugAssert (CoreDuration.fromSecsF64 secs) := by
  unfold CoreDuration.fromSecsF64
  split
  · split
    · exact avoids_ok _ _
    · intro h
      cases h
  · intro h
    cases h

theorem F64.clamp_avoids (x lower upper : Float) :
    Avoids .debugAssert (F64.clamp x lower upper) := by
  refine Avoids.bind ?_ fun _ _ => avoids_ok _ _
  unfold assert
  split
  · exact avoids_ok _ _
  · intro h
    cases h

theorem spread_avoids (xs : List Float) : Avoids .debugAssert (spread xs) := by
  refine (maxBy_avoids (fun _ _ => avoids_ok _ _) xs).bind fun max _ => ?_
  refine (minBy_avoids (fun _ _ => avoids_ok _ _) xs).bind fun min _ => ?_
  split
  · exact avoids_ok _ _
  · intro h
    cases h

namespace MeasurementErrorEstimator

variable (self : MeasurementErrorEstimator Float) (config : KalmanConfiguration Float)

theorem absorbSync_avoids (eventTime : Time) (syncOffset : Duration) (estimatedFrequency : Float) :
    Avoids .debugAssert (self.absorbSync p eventTime syncOffset estimatedFrequency config) := by
  unfold absorbSync
  split
  · rename_i time delayOffset _
    refine ((Time.diff_onlyOverflows p eventTime time).avoids (by decide)).bind fun elapsed _ => ?_
    refine (elapsed.abs_avoids p).bind fun distance _ => ?_
    split
    · exact ((Time.diff_onlyOverflows p time eventTime).avoids (by decide)).bind
        fun _ _ => avoids_ok _ _
    · exact avoids_ok _ _
  · exact avoids_ok _ _

theorem absorbDelay_avoids (eventTime : Time) (delayOffset : Duration) (estimatedFrequency : Float) :
    Avoids .debugAssert (self.absorbDelay p eventTime delayOffset estimatedFrequency config) := by
  unfold absorbDelay
  split
  · rename_i time syncOffset _
    have hdiff : Avoids .debugAssert (eventTime.diff p time) :=
      (Time.diff_onlyOverflows p eventTime time).avoids (by decide)
    refine hdiff.bind fun elapsed _ => ?_
    refine (elapsed.abs_avoids p).bind fun distance _ => ?_
    split
    · exact hdiff.bind fun _ _ => avoids_ok _ _
    · exact avoids_ok _ _
  · exact avoids_ok _ _

theorem absorbMeasurement_avoids (m : Measurement) (estimatedFrequency : Float) :
    Avoids .debugAssert (self.absorbMeasurement p m estimatedFrequency config) := by
  refine Avoids.bind ?_ fun self₁ _ => Avoids.bind ?_ fun self₂ _ => ?_
  · split
    · exact self.absorbSync_avoids p config _ _ _
    · exact avoids_ok _ _
  · split
    · exact self₁.absorbDelay_avoids p config _ _ _
    · exact avoids_ok _ _
  · split <;> exact avoids_ok _ _

theorem measurementVariance_avoids : Avoids .debugAssert (self.measurementVariance config) := by
  unfold measurementVariance
  split
  · exact avoids_ok _ _
  · split
    · exact (spread_avoids self.entries).bind fun _ _ => avoids_ok _ _
    · exact avoids_ok _ _

end MeasurementErrorEstimator

end Avoids

/-! ### One estimate -/

namespace BaseFilter

variable {b : Build} {self self' : BaseFilter} {time : Time} {wander steer : Float}
  {config : KalmanConfiguration Float}

/-- The filter time. -/
def filterTime (self : BaseFilter) : Option Time := self.inner.map (·.filterTime)

/-- The estimate has not been progressed beyond this time. -/
def NotAfter (self : BaseFilter) (bound : Int) : Prop := ∀ t, self.filterTime = some t → t.toInt ≤ bound

theorem NotAfter.mono {bound bound' : Int} (h : self.NotAfter bound) (hle : bound ≤ bound') :
    self.NotAfter bound' := fun t ht => (h t ht).trans hle

theorem notAfter_of_time (h : self.filterTime = some time) : self.NotAfter time.toInt := by
  intro t ht
  obtain rfl := Option.some.inj (h.symm.trans ht)
  exact le_rfl

theorem NotAfter.inner {bound : Int} (h : self.NotAfter bound) {inner : InnerFilter Float}
    (hinner : self.inner = some inner) : inner.filterTime.toInt ≤ bound :=
  h _ (by rw [BaseFilter.filterTime, hinner]; rfl)

theorem afterFilterTime_iff : self.afterFilterTime time = true ↔ self.NotAfter time.toInt := by
  unfold afterFilterTime NotAfter BaseFilter.filterTime
  cases self.inner with
  | none => exact iff_of_true rfl fun t ht => by cases ht
  | some inner =>
    simp only [decide_eq_true_eq, Option.map_some]
    constructor
    · intro h t ht
      obtain rfl := Option.some.inj ht
      exact h
    · exact fun h => h _ rfl

end BaseFilter

namespace InnerFilter

variable {b : Build} {self self' : InnerFilter Float} {time : Time} {wander steer : Float}
  {config : KalmanConfiguration Float}

theorem progressFiltertime_avoids (hle : self.filterTime.toInt ≤ time.toInt) :
    Avoids .debugAssert (self.progressFiltertime b time wander config) := by
  refine (avoids_debugAssert fun _ => decide_eq_true hle).bind fun _ _ => ?_
  split
  · exact avoids_ok _ _
  · exact ((Time.diff_onlyOverflows _ _ _).avoids (by decide)).bind fun _ _ => avoids_ok _ _

/-- **An estimate is progressed** to a time that is not earlier. -/
theorem progressFiltertime_time (hle : self.filterTime.toInt ≤ time.toInt)
    (h : self.progressFiltertime b time wander config = .ok self') : self'.filterTime = time := by
  obtain ⟨-, -, h⟩ := bind_eq_ok.mp h
  rw [if_neg (by omega)] at h
  obtain ⟨elapsed, -, h⟩ := bind_eq_ok.mp h
  rw [← Except.ok.inj h]
  rfl

end InnerFilter

namespace BaseFilter

variable {b : Build} {p : Profile} {self self' : BaseFilter} {time : Time} {wander steer : Float}
  {config : KalmanConfiguration Float}

theorem progressFiltertime_avoids (hle : self.NotAfter time.toInt) :
    Avoids .debugAssert (self.progressFiltertime b time wander config) := by
  unfold progressFiltertime
  split
  · rename_i inner hinner
    exact (InnerFilter.progressFiltertime_avoids (hle.inner hinner)).bind fun _ _ => avoids_ok _ _
  · exact avoids_ok _ _

theorem progressFiltertime_time (hle : self.NotAfter time.toInt)
    (h : self.progressFiltertime b time wander config = .ok self') : self'.filterTime = some time := by
  unfold progressFiltertime at h
  split at h
  · rename_i inner hinner
    obtain ⟨inner', hinner', h⟩ := bind_eq_ok.mp h
    rw [← Except.ok.inj h, ← InnerFilter.progressFiltertime_time (hle.inner hinner) hinner']
    rfl
  · rw [← Except.ok.inj h]
    rfl

theorem absorbFrequencySteer_avoids (hle : self.NotAfter time.toInt) :
    Avoids .debugAssert (self.absorbFrequencySteer b steer time wander config) := by
  unfold absorbFrequencySteer
  split
  · rename_i inner hinner
    refine Avoids.bind ?_ fun _ _ => avoids_ok _ _
    exact (InnerFilter.progressFiltertime_avoids (hle.inner hinner)).bind fun _ _ => avoids_ok _ _
  · exact avoids_ok _ _

/-- **A change of frequency** progresses the estimate. -/
theorem absorbFrequencySteer_time (hle : self.NotAfter time.toInt)
    (h : self.absorbFrequencySteer b steer time wander config = .ok self') :
    self'.filterTime = some time := by
  unfold absorbFrequencySteer at h
  split at h
  · rename_i inner hinner
    obtain ⟨inner₁, hinner₁, h⟩ := bind_eq_ok.mp h
    obtain ⟨inner₂, hinner₂, hinner₁⟩ := bind_eq_ok.mp hinner₁
    rw [← Except.ok.inj h, ← InnerFilter.progressFiltertime_time (hle.inner hinner) hinner₂,
      ← Except.ok.inj hinner₁]
    rfl
  · rw [← Except.ok.inj h]
    rfl

theorem absorbOffsetSteer_avoids (self : BaseFilter) (p : Profile) (steer : Float) :
    Avoids .debugAssert (self.absorbOffsetSteer p steer) := by
  unfold absorbOffsetSteer
  split
  · rename_i inner _
    refine Avoids.bind ?_ fun _ _ => avoids_ok _ _
    refine (Duration.fromSeconds_avoids p steer).bind fun moved _ => ?_
    exact ((Time.add_onlyOverflows p inner.filterTime moved).avoids (by decide)).bind
      fun _ _ => avoids_ok _ _
  · exact avoids_ok _ _

/-- **A step** moves the filter time. -/
theorem absorbOffsetSteer_time {moved : Duration} (hmoved : Duration.fromSeconds p steer = .ok moved)
    (h : self.absorbOffsetSteer p steer = .ok self') {t' : Time} (ht' : self'.filterTime = some t') :
    ∃ t, self.filterTime = some t ∧ t.add p moved = .ok t' := by
  unfold absorbOffsetSteer at h
  split at h
  · rename_i inner hinner
    obtain ⟨inner', hinner', h⟩ := bind_eq_ok.mp h
    obtain rfl := Except.ok.inj h
    unfold InnerFilter.absorbOffsetSteer at hinner'
    rw [hmoved, ok_bind] at hinner'
    obtain ⟨filterTime, hadd, hinner'⟩ := bind_eq_ok.mp hinner'
    obtain rfl := Except.ok.inj hinner'
    obtain rfl := Option.some.inj ht'
    exact ⟨inner.filterTime, by rw [BaseFilter.filterTime, hinner]; rfl, hadd⟩
  · rename_i hinner
    rw [← Except.ok.inj h, BaseFilter.filterTime, hinner] at ht'
    cases ht'

theorem absorbOffsetSteer_isSome {moved : Duration}
    (hmoved : Duration.fromSeconds p steer = .ok moved)
    (h : self.absorbOffsetSteer p steer = .ok self') {t : Time} (ht : self.filterTime = some t) :
    ∃ t', self'.filterTime = some t' ∧ t.add p moved = .ok t' := by
  cases htime' : self'.filterTime with
  | none =>
    unfold absorbOffsetSteer at h
    split at h
    · obtain ⟨inner', -, h⟩ := bind_eq_ok.mp h
      rw [← Except.ok.inj h] at htime'
      cases htime'
    · rw [← Except.ok.inj h, ht] at htime'
      cases htime'
  | some t' =>
    obtain ⟨t₀, ht₀, hadd⟩ := absorbOffsetSteer_time hmoved h htime'
    obtain rfl := Option.some.inj (ht.symm.trans ht₀)
    exact ⟨t', rfl, hadd⟩

/-- A measurement leaves the filter time, also when it resets the estimate. -/
theorem absorbOffset_time (self : BaseFilter) (offset : Float) (config : KalmanConfiguration Float)
    {absorb : InnerFilter Float → InnerFilter Float}
    (habsorb : ∀ inner, (absorb inner).filterTime = inner.filterTime) :
    (self.absorbOffset offset config absorb).filterTime = self.filterTime := by
  unfold filterTime absorbOffset
  cases self.inner with
  | none => rfl
  | some inner =>
    simp only [Option.map_some]
    split
    · rfl
    · rw [habsorb]

@[simp] theorem absorbSyncOffset_time (self : BaseFilter) (syncOffset variance : Float)
    (config : KalmanConfiguration Float) :
    (self.absorbSyncOffset syncOffset variance config).filterTime = self.filterTime :=
  self.absorbOffset_time syncOffset config fun _ => rfl

@[simp] theorem absorbDelayOffset_time (self : BaseFilter) (delayOffset variance : Float)
    (config : KalmanConfiguration Float) :
    (self.absorbDelayOffset delayOffset variance config).filterTime = self.filterTime :=
  self.absorbOffset_time delayOffset config fun _ => rfl

@[simp] theorem absorbPeerDelay_time (self : BaseFilter) (peerDelay variance : Float) :
    (self.absorbPeerDelay peerDelay variance).filterTime = self.filterTime := by
  unfold filterTime absorbPeerDelay
  cases self.inner <;> rfl

end BaseFilter

/-! ### Both estimates -/

namespace KalmanFilter

variable {b : Build} {p : Profile} {self self' : KalmanFilter} {m : Measurement}

/-- The wander filter stays, or begins again at the running one. -/
structure Scores (f f' : KalmanFilter) : Prop where
  running : f'.runningFilter = f.runningFilter
  wander : f'.wanderFilter = f.wanderFilter ∨ f'.wanderFilter = f.runningFilter

theorem Scores.refl (self : KalmanFilter) : self.Scores self := ⟨rfl, Or.inl rfl⟩

theorem Scores.trans {self₁ : KalmanFilter} (h : self.Scores self₁) (h' : self₁.Scores self') :
    self.Scores self' := by
  refine ⟨h'.running.trans h.running, ?_⟩
  rcases h'.wander with hstays | hreset
  · rw [hstays]
    exact h.wander
  · exact Or.inr (hreset.trans h.running)

theorem resetWanderFilter_scores (h : self.resetWanderFilter = .ok self') : self.Scores self' := by
  obtain ⟨variance, -, h⟩ := bind_eq_ok.mp h
  rw [← Except.ok.inj h]
  exact ⟨rfl, Or.inr rfl⟩

theorem resetWanderFilter_avoids (self : KalmanFilter) : Avoids .debugAssert self.resetWanderFilter :=
  (self.measurementErrorEstimator.measurementVariance_avoids self.config).bind
    fun _ _ => avoids_ok _ _

theorem wanderScoreUpdate_scores {uncertainty prediction actual : Float}
    (h : self.wanderScoreUpdate uncertainty prediction actual = .ok self') : self.Scores self' := by
  obtain ⟨variance, -, h⟩ := bind_eq_ok.mp h
  dsimp only at h
  split at h
  · exact resetWanderFilter_scores h
  · split at h
    · have hreset := resetWanderFilter_scores h
      exact ⟨hreset.running, hreset.wander⟩
    · rw [← Except.ok.inj h]
      exact .refl _

theorem wanderScoreUpdate_avoids (self : KalmanFilter) (uncertainty prediction actual : Float) :
    Avoids .debugAssert (self.wanderScoreUpdate uncertainty prediction actual) := by
  refine (self.measurementErrorEstimator.measurementVariance_avoids self.config).bind
    fun variance _ => ?_
  dsimp only
  split
  · exact self.resetWanderFilter_avoids
  · split
    · exact resetWanderFilter_avoids _
    · exact avoids_ok _ _

theorem retuneWander_scores (h : self.retuneWander p = .ok self') : self.Scores self' := by
  obtain ⟨lowest, -, h⟩ := bind_eq_ok.mp h
  rw [← Except.ok.inj h]
  constructor
  · split <;> split <;> rfl
  · left
    split <;> split <;> rfl

theorem retuneWander_avoids (self : KalmanFilter) (p : Profile) :
    Avoids .debugAssert (self.retuneWander p) :=
  (avoids_overflow (by decide) p _ _).bind fun _ _ => avoids_ok _ _

/-- **The wander filter is progressed**, and may be replaced by the running one. -/
theorem updateWander_times (hle : self.wanderFilter.NotAfter m.eventTime.toInt)
    (h : self.updateWander b m = .ok self') :
    self'.runningFilter = self.runningFilter ∧
      (self'.wanderFilter.filterTime = some m.eventTime ∨ self'.wanderFilter = self.runningFilter) := by
  obtain ⟨wanderFilter, hprogress, h⟩ := bind_eq_ok.mp h
  dsimp only at h
  obtain ⟨self₁, h₁, h⟩ := bind_eq_ok.mp h
  obtain ⟨self₂, h₂, h⟩ := bind_eq_ok.mp h
  have hscores₁ : { self with wanderFilter }.Scores self₁ := by
    split at h₁
    · exact wanderScoreUpdate_scores h₁
    · rw [← Except.ok.inj h₁]
      exact .refl _
  have hscores₂ : self₁.Scores self₂ := by
    split at h₂
    · exact wanderScoreUpdate_scores h₂
    · rw [← Except.ok.inj h₂]
      exact .refl _
  have hscores := (hscores₁.trans hscores₂).trans (retuneWander_scores h)
  refine ⟨hscores.running, hscores.wander.imp_left fun hstays => ?_⟩
  rw [hstays]
  exact BaseFilter.progressFiltertime_time hle hprogress

theorem updateWander_avoids (hle : self.wanderFilter.NotAfter m.eventTime.toInt) :
    Avoids .debugAssert (self.updateWander b m) := by
  refine (BaseFilter.progressFiltertime_avoids hle).bind fun wanderFilter _ => ?_
  dsimp only
  refine Avoids.bind ?_ fun self₁ _ => Avoids.bind ?_ fun self₂ _ => self₂.retuneWander_avoids _
  · split
    · exact wanderScoreUpdate_avoids _ _ _ _
    · exact avoids_ok _ _
  · split
    · exact self₁.wanderScoreUpdate_avoids _ _ _
    · exact avoids_ok _ _

theorem noise_avoids (self : KalmanFilter) : Avoids .debugAssert self.noise :=
  (self.measurementErrorEstimator.measurementVariance_avoids self.config).bind
    fun _ _ => avoids_ok _ _

theorem answer_avoids (self : KalmanFilter) (p : Profile) (nextUpdate : Option CoreDuration) :
    Avoids .debugAssert (self.answer p nextUpdate) :=
  (Duration.fromSeconds_avoids p _).bind fun _ _ => avoids_ok _ _

theorem new_avoids (config : KalmanConfiguration Float) : Avoids .debugAssert (KalmanFilter.new config) :=
  (MeasurementErrorEstimator.measurementVariance_avoids _ config).bind fun _ _ => avoids_ok _ _

end KalmanFilter

end Statime
