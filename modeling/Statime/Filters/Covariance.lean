import Mathlib.Algebra.Order.Star.Basic
import Mathlib.LinearAlgebra.Matrix.PosDef

/-!
# Covariances

The steps of a Kalman filter keep the covariance of its state positive semidefinite, over any ordered
field: `posSemidef_progress` as time goes on, and `posSemidef_update` when a number is measured.  The
second goes by the form of Joseph: `(1 - K h) P` is also `(1 - K h) P (1 - K h)ᵀ + K r Kᵀ`.
-/

namespace Covariance

open Matrix

abbrev Mat (m n K : Type*) := Matrix m n K

/-- The covariance of the state. -/
abbrev Square (n K : Type*) := Mat n n K

/-- What is measured, as a linear function of the state. -/
abbrev Row (n K : Type*) := Mat (Fin 1) n K

variable {n K : Type*} [Fintype n] [Field K]

/-! ### The gain -/

section Gain

variable (P : Square n K) (h : Row n K) {r : K}

/-- The variance of what is predicted. -/
def predicted : K := (h * P * hᵀ) 0 0

/-- How much the state is moved for each unit of the difference. -/
def gain (r : K) : Mat n (Fin 1) K := (predicted P h + r)⁻¹ • (P * hᵀ)

theorem mul_eq_predicted : h * P * hᵀ = predicted P h • (1 : Matrix (Fin 1) (Fin 1) K) := by
  ext i j
  rw [Subsingleton.elim i 0, Subsingleton.elim j 0, Matrix.smul_apply, one_apply_eq, smul_eq_mul,
    mul_one]
  rfl

variable [DecidableEq n]

/-- The gain leaves the variance of the noise. -/
theorem gain_residual (hr : predicted P h + r ≠ 0) :
    (1 - gain P h r * h) * P * hᵀ = r • gain P h r := by
  have hgain : P * hᵀ = (predicted P h + r) • gain P h r := by
    rw [gain, smul_smul, mul_inv_cancel₀ hr, one_smul]
  have hback : gain P h r * h * P * hᵀ = predicted P h • gain P h r := by
    rw [Matrix.mul_assoc, Matrix.mul_assoc, ← Matrix.mul_assoc h, mul_eq_predicted, Matrix.mul_smul,
      Matrix.mul_one]
  rw [Matrix.sub_mul, Matrix.sub_mul, Matrix.one_mul, hback, hgain, ← sub_smul, add_sub_cancel_left]

/-- The covariance after a measurement, in the form of Joseph. -/
theorem update_eq (hr : predicted P h + r ≠ 0) :
    (1 - gain P h r * h) * P =
      (1 - gain P h r * h) * P * (1 - gain P h r * h)ᵀ + r • (gain P h r * (gain P h r)ᵀ) := by
  rw [transpose_sub, transpose_one, transpose_mul, Matrix.mul_sub, Matrix.mul_one,
    ← Matrix.mul_assoc ((1 - gain P h r * h) * P), gain_residual P h hr, Matrix.smul_mul,
    sub_add_cancel]

end Gain

/-! ### Positive semidefinite -/

section Steps

variable [LinearOrder K] [StarRing K] [TrivialStar K] {P Q : Square n K} {r : K}

theorem posSemidef_conjugate {m : Type*} [Fintype m] (hP : P.PosSemidef) (F : Mat m n K) :
    (F * P * Fᵀ).PosSemidef := by
  rw [← conjTranspose_eq_transpose_of_trivial]
  exact hP.mul_mul_conjTranspose_same F

theorem predicted_nonneg (hP : P.PosSemidef) (h : Row n K) : 0 ≤ predicted P h :=
  (posSemidef_conjugate hP h).diag_nonneg

variable [StarOrderedRing K]

/-- **Time goes on**: the state is transformed, and noise is added. -/
theorem posSemidef_progress (hP : P.PosSemidef) (hQ : Q.PosSemidef) (F : Square n K) :
    (F * P * Fᵀ + Q).PosSemidef :=
  (posSemidef_conjugate hP F).add hQ

/-- The variance of the difference between what is measured and what is predicted. -/
theorem innovation_pos (hP : P.PosSemidef) (h : Row n K) (hr : 0 < r) : 0 < predicted P h + r :=
  add_pos_of_nonneg_of_pos (predicted_nonneg hP h) hr

/-- **A measurement** with noise of positive variance. -/
theorem posSemidef_update [DecidableEq n] (hP : P.PosSemidef) (h : Row n K) (hr : 0 < r) :
    ((1 - gain P h r * h) * P).PosSemidef := by
  rw [update_eq P h (innovation_pos hP h hr).ne']
  refine (posSemidef_conjugate hP _).add ?_
  rw [← conjTranspose_eq_transpose_of_trivial]
  exact (posSemidef_self_mul_conjTranspose (gain P h r)).smul hr.le

/-- The covariance of a multiple of a constant vector. -/
theorem posSemidef_outer (v : n → K) {c : K} (hc : 0 ≤ c) : (c • vecMulVec v v).PosSemidef := by
  have hstar : star v = v := funext fun i => star_trivial (v i)
  have hv := posSemidef_vecMulVec_self_star v
  rw [hstar] at hv
  exact hv.smul hc

end Steps

end Covariance
