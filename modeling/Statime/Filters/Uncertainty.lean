import Mathlib.Data.Rat.Star
import Mathlib.LinearAlgebra.Matrix.Notation
import Statime.Filters.Covariance
import Statime.Filters.Kalman

/-!
# The uncertainty of an estimate

Over exact numbers, the uncertainty of an estimate stays the covariance of its state.

* `Matrix.toMat`: a matrix of the filter as a matrix of Mathlib; the operations agree.
* `InnerFilter.covariant_progressFiltertime`, `InnerFilter.covariant_absorbMeasurement`: what one call
  preserves.
-/

namespace Statime

open Rust

/-! ### Matrices -/

namespace Matrix

variable {k n m : Nat}

@[simp] theorem entry_fromFn {α : Type} (f : Fin n → Fin m → α) (i : Fin n) (j : Fin m) :
    (fromFn f).entry i j = f i j := by
  simp [fromFn, entry]

/-- The matrix of exact numbers. -/
def toMat (a : Matrix n m Rat) : Covariance.Mat (Fin n) (Fin m) Rat := fun i j => a.entry i j

theorem toMat_mul (a : Matrix n k Rat) (b : Matrix k m Rat) : (a * b).toMat = a.toMat * b.toMat := by
  ext i j
  have hentry : (a * b).entry i j = sum ((List.finRange k).map fun l => a.entry i l * b.entry l j) :=
    entry_fromFn _ i j
  rw [toMat, hentry, sum_eq, ← Fin.sum_univ_def]
  rfl

theorem toMat_add (a b : Matrix n m Rat) : (a + b).toMat = a.toMat + b.toMat := by
  ext i j
  exact entry_fromFn _ i j

theorem toMat_sub (a b : Matrix n m Rat) : (a - b).toMat = a.toMat - b.toMat := by
  ext i j
  exact entry_fromFn _ i j

theorem toMat_transpose (a : Matrix n m Rat) : a.transpose.toMat = a.toMat.transpose := by
  ext i j
  exact entry_fromFn _ i j

theorem toMat_unit : (unit : Matrix n n Rat).toMat = 1 := by
  ext i j
  rw [toMat, unit, entry_fromFn, Matrix.one_apply]
  norm_num

/-- The inverse of a single number. -/
theorem toMat_mul_inverse (a : Matrix n 1 Rat) (b : Matrix 1 1 Rat) :
    (a * b.inverse).toMat = (b.entry 0 0)⁻¹ • a.toMat := by
  rw [toMat_mul]
  ext i j
  have hinverse : b.inverse.toMat 0 j = 1.0 / b.entry 0 0 := by
    rw [Subsingleton.elim j 0]
    rfl
  rw [Matrix.mul_apply, Fin.sum_univ_one, hinverse, Matrix.smul_apply, smul_eq_mul,
    Subsingleton.elim j 0]
  norm_num
  ring

/-- The entries of a covariance are symmetric. -/
theorem entry_comm {a : Matrix n n Rat} (h : a.toMat.PosSemidef) (i j : Fin n) :
    a.entry i j = a.entry j i := h.isHermitian.apply j i

/-- A symmetric matrix is left alone. -/
theorem toMat_symmetrize {a : Matrix n n Rat} (h : a.toMat.PosSemidef) :
    a.symmetrize.toMat = a.toMat := by
  ext i j
  have hsymm : a.entry j i = a.entry i j := entry_comm h j i
  rw [toMat, symmetrize, entry_fromFn, hsymm, ← two_mul]
  norm_num
  rfl

end Matrix

theorem Duration.seconds_nonneg {d : Duration} (h : 0 ≤ d.toInt) : 0 ≤ (d.seconds : Rat) := by
  have hfixed : 0 ≤ (Floating.ofFixed d.inner : Rat) := Rat.mkRat_nonneg h _
  rw [Duration.seconds]
  positivity

namespace InnerFilter

/-- The uncertainty is the covariance of a state. -/
def Covariant (self : InnerFilter Rat) : Prop := self.uncertainty.toMat.PosSemidef

variable {b : Build} {p : Profile} {self self' : InnerFilter Rat} {time : Time} {wander : Rat}
  {config : KalmanConfiguration Rat}

theorem covariant_new (initialOffset : Rat) (time : Time) (config : KalmanConfiguration Rat) :
    (new initialOffset time config).Covariant := by
  have hdiagonal : (new initialOffset time config).uncertainty.toMat = Matrix.diagonal
      ![sqr config.stepThreshold.seconds, sqr config.initialFrequencyUncertainty,
        sqr config.stepThreshold.seconds] := by
    ext i j
    fin_cases i <;> fin_cases j <;> norm_num [Matrix.toMat, new, Matrix.entry]
  rw [Covariant, hdiagonal]
  refine Matrix.PosSemidef.diagonal fun i => ?_
  fin_cases i <;> exact mul_self_nonneg _

/-- The process noise, as a drift of the frequency, what the drift does to the offset beyond that,
and a drift of the delay. -/
theorem toMat_processNoise (w t c : Rat) :
    (⟨#v[#v[w * t * t * t / 3.0, w * t * t / 2.0, 0.0], #v[w * t * t / 2.0, w * t, 0.0],
      #v[0.0, 0.0, c]]⟩ : Matrix 3 3 Rat).toMat =
      (w * t) • Matrix.vecMulVec ![t / 2, 1, 0] ![t / 2, 1, 0] +
        (w * t * t * t / 12) • Matrix.vecMulVec ![1, 0, 0] ![1, 0, 0] +
          c • Matrix.vecMulVec ![0, 0, 1] ![0, 0, 1] := by
  ext i j
  fin_cases i <;> fin_cases j <;> norm_num [Matrix.toMat, Matrix.entry, Matrix.vecMulVec] <;> ring

/-- **Time goes on**, with noise that is not negative. -/
theorem covariant_progressed (h : self.Covariant) (time : Time) {deltaT : Rat} (ht : 0 ≤ deltaT)
    (hwander : 0 ≤ wander) (hdelay : 0 ≤ config.delayWander) :
    (self.progressed time deltaT wander config).Covariant := by
  rw [Covariant, progressed]
  simp only [Matrix.toMat_add, Matrix.toMat_mul, Matrix.toMat_transpose, toMat_processNoise]
  refine Covariance.posSemidef_progress h (Matrix.PosSemidef.add (.add ?_ ?_) ?_) _
  · exact Covariance.posSemidef_outer _ (by positivity)
  · exact Covariance.posSemidef_outer _ (by positivity)
  · refine Covariance.posSemidef_outer _ (mul_nonneg (mul_nonneg hdelay ht) ?_)
    exact mul_self_nonneg _

/-- The innovation is the variance of what is predicted and that of the noise. -/
theorem innovation_eq (self : InnerFilter Rat) (measurementTransform : Matrix 1 3 Rat)
    (measurementNoise : Matrix 1 1 Rat) :
    ((self.predict measurementTransform).2 + measurementNoise).entry 0 0 =
      Covariance.predicted self.uncertainty.toMat measurementTransform.toMat +
        measurementNoise.entry 0 0 := by
  show ((self.predict measurementTransform).2 + measurementNoise).toMat 0 0 = _
  rw [Matrix.toMat_add, predict, Matrix.toMat_mul, Matrix.toMat_mul, Matrix.toMat_transpose]
  rfl

/-- **A measurement** of any linear function of the state. -/
theorem covariant_absorbMeasurement (h : self.Covariant) (measurementVec : ColumnVector 1 Rat)
    (measurementTransform : Matrix 1 3 Rat) {measurementNoise : Matrix 1 1 Rat}
    (hnoise : 0 < measurementNoise.entry 0 0) :
    (self.absorbMeasurement measurementVec measurementTransform measurementNoise).Covariant := by
  have hupdate := Covariance.posSemidef_update h measurementTransform.toMat hnoise
  have hgain : (self.uncertainty * measurementTransform.transpose *
      ((self.predict measurementTransform).2 + measurementNoise).inverse).toMat =
      Covariance.gain self.uncertainty.toMat measurementTransform.toMat
        (measurementNoise.entry 0 0) := by
    rw [Matrix.toMat_mul_inverse, innovation_eq, Matrix.toMat_mul, Matrix.toMat_transpose]
    rfl
  have hshrunk : ((Matrix.unit - self.uncertainty * measurementTransform.transpose *
      ((self.predict measurementTransform).2 + measurementNoise).inverse * measurementTransform) *
        self.uncertainty).toMat.PosSemidef := by
    rw [Matrix.toMat_mul, Matrix.toMat_sub, Matrix.toMat_unit, Matrix.toMat_mul, hgain]
    exact hupdate
  have hsymm := Matrix.toMat_symmetrize hshrunk
  rw [← hsymm] at hshrunk
  exact hshrunk

theorem covariant_progressFiltertime (h : self.Covariant) (hwander : 0 ≤ wander)
    (hdelay : 0 ≤ config.delayWander)
    (hrange : b.overflowChecks = .release → time.toInt - self.filterTime.toInt < 2 ^ 127)
    (hrun : self.progressFiltertime b time wander config = .ok self') : self'.Covariant := by
  obtain ⟨-, -, hrun⟩ := bind_eq_ok.mp hrun
  split at hrun
  · rw [← Except.ok.inj hrun]
    exact h
  · rename_i hle
    obtain ⟨elapsed, helapsed, hrun⟩ := bind_eq_ok.mp hrun
    have htime := Time.toInt_diff helapsed (by omega) hrange
    rw [← Except.ok.inj hrun]
    exact covariant_progressed h time (Duration.seconds_nonneg (by omega)) hwander hdelay

theorem covariant_absorbFrequencySteer (h : self.Covariant) (hwander : 0 ≤ wander)
    (hdelay : 0 ≤ config.delayWander)
    (hrange : b.overflowChecks = .release → time.toInt - self.filterTime.toInt < 2 ^ 127)
    {steer : Rat} (hrun : self.absorbFrequencySteer b steer time wander config = .ok self') :
    self'.Covariant := by
  obtain ⟨progressed, hprogressed, hrun⟩ := bind_eq_ok.mp hrun
  have hcovariant := covariant_progressFiltertime h hwander hdelay hrange hprogressed
  rw [← Except.ok.inj hrun]
  exact hcovariant

/-- A step moves the state and the filter time. -/
theorem covariant_absorbOffsetSteer (h : self.Covariant) {steer : Rat}
    (hrun : self.absorbOffsetSteer p steer = .ok self') : self'.Covariant := by
  obtain ⟨moved, -, hrun⟩ := bind_eq_ok.mp hrun
  obtain ⟨filterTime, -, hrun⟩ := bind_eq_ok.mp hrun
  rw [← Except.ok.inj hrun]
  exact h

/-! ### Every run -/

/-- The time, the wander and the configuration that an estimate is progressed with. -/
structure Progress (b : Build) (prior : InnerFilter Rat) (time : Time) (wander : Rat)
    (config : KalmanConfiguration Rat) : Prop where
  wander : 0 ≤ wander
  delayWander : 0 ≤ config.delayWander
  /-- Without overflow checks, a longer time would be taken for a negative one. -/
  elapsed : b.overflowChecks = .release → time.toInt - prior.filterTime.toInt < 2 ^ 127

/-- The estimates that calls lead to. -/
inductive Reached (b : Build) : InnerFilter Rat → Prop
  | new (initialOffset : Rat) (time : Time) (config : KalmanConfiguration Rat) :
      Reached b (.new initialOffset time config)
  | progressFiltertime {self self' : InnerFilter Rat} {time : Time} {wander : Rat}
      {config : KalmanConfiguration Rat} (prior : Reached b self)
      (hprogress : Progress b self time wander config)
      (hrun : self.progressFiltertime b time wander config = .ok self') : Reached b self'
  | absorbSyncOffset {self : InnerFilter Rat} (prior : Reached b self) (syncOffset : Rat)
      {variance : Rat} (hvariance : 0 < variance) :
      Reached b (self.absorbSyncOffset syncOffset variance)
  | absorbDelayOffset {self : InnerFilter Rat} (prior : Reached b self) (delayOffset : Rat)
      {variance : Rat} (hvariance : 0 < variance) :
      Reached b (self.absorbDelayOffset delayOffset variance)
  | absorbPeerDelay {self : InnerFilter Rat} (prior : Reached b self) (peerDelay : Rat)
      {variance : Rat} (hvariance : 0 < variance) :
      Reached b (self.absorbPeerDelay peerDelay variance)
  | absorbFrequencySteer {self self' : InnerFilter Rat} {steer : Rat} {time : Time} {wander : Rat}
      {config : KalmanConfiguration Rat} (prior : Reached b self)
      (hprogress : Progress b self time wander config)
      (hrun : self.absorbFrequencySteer b steer time wander config = .ok self') : Reached b self'
  | absorbOffsetSteer {self self' : InnerFilter Rat} {steer : Rat} (prior : Reached b self)
      (hrun : self.absorbOffsetSteer b.overflowChecks steer = .ok self') : Reached b self'

/-- **The uncertainty stays a covariance.** -/
theorem Reached.covariant (h : Reached b self) : self.Covariant := by
  induction h with
  | new initialOffset time config => exact covariant_new initialOffset time config
  | progressFiltertime _ hprogress hrun ih =>
    exact covariant_progressFiltertime ih hprogress.wander hprogress.delayWander hprogress.elapsed hrun
  | absorbSyncOffset _ syncOffset hvariance ih => exact covariant_absorbMeasurement ih _ _ hvariance
  | absorbDelayOffset _ delayOffset hvariance ih => exact covariant_absorbMeasurement ih _ _ hvariance
  | absorbPeerDelay _ peerDelay hvariance ih => exact covariant_absorbMeasurement ih _ _ hvariance
  | absorbFrequencySteer _ hprogress hrun ih =>
    exact covariant_absorbFrequencySteer ih hprogress.wander hprogress.delayWander
      hprogress.elapsed hrun
  | absorbOffsetSteer _ hrun ih => exact covariant_absorbOffsetSteer ih hrun

/-- What the code divides by and takes the square root of. -/
structure WellPosed (est : InnerFilter Rat) : Prop where
  symmetric : ∀ i j, est.uncertainty.entry i j = est.uncertainty.entry j i
  posSemidef : est.uncertainty.toMat.PosSemidef
  diagonal : ∀ i, 0 ≤ est.uncertainty.entry i i
  predictSyncOffset : 0 ≤ est.predictSyncOffset.2
  predictDelayOffset : 0 ≤ est.predictDelayOffset.2
  innovation : ∀ measurementTransform ∈ [measurementSync, measurementDelay, measurementPeerDelay],
    ∀ variance : Rat, 0 < variance →
      0 < ((est.predict measurementTransform).2 + ⟨#v[#v[variance]]⟩).entry 0 0

theorem Covariant.wellPosed (h : self.Covariant) : self.WellPosed := by
  have hpredicted (measurementTransform : Matrix 1 3 Rat) :
      0 ≤ (self.predict measurementTransform).2.toMat 0 0 := by
    rw [predict, Matrix.toMat_mul, Matrix.toMat_mul, Matrix.toMat_transpose]
    exact Covariance.predicted_nonneg h measurementTransform.toMat
  refine ⟨Matrix.entry_comm h, h, fun i => h.diag_nonneg, hpredicted measurementSync,
    hpredicted measurementDelay, ?_⟩
  intro measurementTransform _ variance hvariance
  rw [innovation_eq]
  exact Covariance.innovation_pos h measurementTransform.toMat hvariance

/-- **The covariance stays a covariance**: no call divides by zero or takes the square root of a
negative number. -/
theorem reached_wellPosed (h : Reached b self) : self.WellPosed := h.covariant.wellPosed

/-- The default configuration, progressed by a second. -/
theorem wellPosed_after_second : ∃ (config : KalmanConfiguration Rat) (est : InnerFilter Rat),
    KalmanConfiguration.default .debug = .ok config ∧
      (new 0 ⟨⟨0⟩⟩ config).progressFiltertime ⟨.debug, .debug⟩ ⟨⟨4294967296000000000⟩⟩
        config.initialWander config = .ok est ∧
      (est.absorbSyncOffset (1 / 1000) 1).WellPosed := by
  have hruns : (KalmanConfiguration.default .debug >>= fun config : KalmanConfiguration Rat =>
      (new 0 ⟨⟨0⟩⟩ config).progressFiltertime ⟨.debug, .debug⟩ ⟨⟨4294967296000000000⟩⟩
        config.initialWander config >>= fun _ =>
      pure (decide (0 ≤ config.initialWander ∧ 0 ≤ config.delayWander))) = .ok true := by
    decide +kernel
  obtain ⟨config, hconfig, hruns⟩ := bind_eq_ok.mp hruns
  obtain ⟨est, hest, hruns⟩ := bind_eq_ok.mp hruns
  obtain ⟨hwander, hdelay⟩ := of_decide_eq_true (Except.ok.inj hruns)
  have hreached : Reached ⟨.debug, .debug⟩ est :=
    .progressFiltertime (.new 0 ⟨⟨0⟩⟩ config) ⟨hwander, hdelay, fun h => by cases h⟩ hest
  exact ⟨config, est, hconfig, hest, reached_wellPosed (.absorbSyncOffset hreached _ one_pos)⟩

/-- In a build without overflow checks, `2 ^ 95` nanoseconds count as a negative time: then the
variance of the frequency is negative. -/
theorem negative_after_wrap : ∃ (config : KalmanConfiguration Rat) (est : InnerFilter Rat),
    KalmanConfiguration.default .release = .ok config ∧
      0 ≤ config.initialWander ∧ 0 ≤ config.delayWander ∧
      (new 0 ⟨⟨0⟩⟩ config).progressFiltertime ⟨.release, .release⟩
        ⟨⟨0x80000000000000000000000000000000⟩⟩ config.initialWander config = .ok est ∧
      ¬ est.WellPosed := by
  have hruns : (KalmanConfiguration.default .release >>= fun config : KalmanConfiguration Rat =>
      (new 0 ⟨⟨0⟩⟩ config).progressFiltertime ⟨.release, .release⟩
        ⟨⟨0x80000000000000000000000000000000⟩⟩ config.initialWander config >>= fun est =>
      pure (decide ((0 ≤ config.initialWander ∧ 0 ≤ config.delayWander) ∧
        est.uncertainty.entry 1 1 < 0))) = .ok true := by
    decide +kernel
  obtain ⟨config, hconfig, hruns⟩ := bind_eq_ok.mp hruns
  obtain ⟨est, hest, hruns⟩ := bind_eq_ok.mp hruns
  obtain ⟨⟨hwander, hdelay⟩, hnegative⟩ := of_decide_eq_true (Except.ok.inj hruns)
  exact ⟨config, est, hconfig, hwander, hdelay, hest, fun h => absurd (h.diagonal 1) hnegative.not_ge⟩

end InnerFilter

end Statime
