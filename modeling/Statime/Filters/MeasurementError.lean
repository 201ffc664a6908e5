import Mathlib.Algebra.Order.BigOperators.Group.List
import Statime.Filters.Kalman
import Statime.Rust.RingBuffer

/-!
# The error of the measurements

The estimator of the measurement error, over exact numbers: what its statistics are after any sequence
of entries.

* `Filled.insertEntry`, `filled_foldl`: the slots hold the last 32 entries.
* `mean_eq_iff`: the mean is divided by 32, also when fewer entries were recorded.
* `statistics_iff`: the statistics are those of the recorded entries when the buffer is full.
-/

namespace Statime

open Rust

/-! ### Samples -/

def sampleMean (xs : List Rat) : Rat := xs.sum / xs.length

def sampleVariance (xs : List Rat) : Rat :=
  (xs.map fun x => (x - sampleMean xs) ^ 2).sum / (xs.length - 1)

/-- A sum of squares is zero only when all of them are. -/
theorem eq_zero_of_sum_sq {xs : List Rat} (h : (xs.map (· ^ 2)).sum = 0) : ∀ x ∈ xs, x = 0 := by
  have hnonneg : ∀ y ∈ xs.map (· ^ 2), 0 ≤ y := by
    intro y hy
    obtain ⟨x, -, rfl⟩ := List.mem_map.mp hy
    exact sq_nonneg x
  intro x hx
  exact pow_eq_zero_iff two_ne_zero |>.mp
    (List.all_zero_of_le_zero_le_of_sum_eq_zero hnonneg h (List.mem_map_of_mem hx))

namespace MeasurementErrorEstimator

/-- The estimator after these entries, from the first to the last. -/
def ofEntries (xs : List Rat) : MeasurementErrorEstimator Rat := xs.foldl insertEntry default

/-- The entries that have been recorded are the last ones. -/
structure Filled (est : MeasurementErrorEstimator Rat) (xs : List Rat) : Prop where
  slots : KeepsLast est.data.toList xs
  next : est.nextIdx.val = xs.length % 32
  fill : est.fill = min xs.length 32

theorem filled_default : (default : MeasurementErrorEstimator Rat).Filled [] :=
  ⟨keepsLast_nil _, rfl, rfl⟩

variable {est : MeasurementErrorEstimator Rat} {xs : List Rat}

theorem Filled.insertEntry (h : est.Filled xs) (x : Rat) :
    (est.insertEntry x).Filled (xs ++ [x]) := by
  have hsize : est.data.toList.length = 32 := est.data.length_toList
  constructor
  · have hnonempty : est.data.toList ≠ [] := List.ne_nil_of_length_eq_add_one hsize
    have hset := h.slots.set hnonempty x
    rw [hsize, ← h.next] at hset
    simpa [MeasurementErrorEstimator.insertEntry, Vector.toList_set] using hset
  · rw [List.length_append, List.length_singleton, ← Nat.mod_add_mod, ← h.next]
    exact Fin.val_add est.nextIdx 1
  · rw [List.length_append, List.length_singleton]
    show min (est.fill + 1) 32 = _
    rw [h.fill]
    omega

/-- **The slots hold the last entries** after any sequence of them. -/
theorem filled_ofEntries (xs : List Rat) : (ofEntries xs).Filled xs := by
  induction xs using List.reverseRecOn with
  | nil => exact filled_default
  | append_singleton xs x ih =>
    rw [ofEntries, List.foldl_append]
    exact ih.insertEntry x

/-- The last 32 entries. -/
def recorded (xs : List Rat) : List Rat := xs.drop (xs.length - 32)

theorem length_recorded (xs : List Rat) : (recorded xs).length = min xs.length 32 := by
  rw [recorded, List.length_drop]
  omega

theorem Filled.entries (h : est.Filled xs) : est.entries.Perm (recorded xs) := by
  have hsize : est.data.toList.length = 32 := est.data.length_toList
  have hperm := h.slots.perm
  have htake : est.data.toList.take (min xs.length 32) = est.data.toList.take xs.length := by
    rw [List.take_eq_take_iff, hsize]
    omega
  rw [hsize] at hperm
  rwa [MeasurementErrorEstimator.entries, h.fill, htake]

/-! ### The statistics -/

/-- **The mean** is always divided by the number of slots. -/
theorem Filled.mean (h : est.Filled xs) : est.mean = (recorded xs).sum / 32 := by
  rw [MeasurementErrorEstimator.mean, sum_eq, h.entries.sum_eq]
  norm_num

/-- **The variance** is always divided by one less than the number of slots. -/
theorem Filled.variance (h : est.Filled xs) :
    est.variance = ((recorded xs).map fun v => (v - est.mean) ^ 2).sum / 31 := by
  have hsqr : ∀ v : Rat, sqr (v - est.mean) = (v - est.mean) ^ 2 := fun v => (sq _).symm
  rw [MeasurementErrorEstimator.variance, sum_eq, (h.entries.map _).sum_eq]
  simp only [hsqr]
  norm_num

theorem Filled.rangeSize (h : est.Filled xs) (hfill : 1 ≤ est.fill) :
    ∃ hi lo, IsGreatest {x | x ∈ recorded xs} hi ∧ IsLeast {x | x ∈ recorded xs} lo ∧
      est.rangeSize = .ok (hi - lo) := by
  have hnonempty : est.entries ≠ [] := by
    rw [← List.length_pos_iff, h.entries.length_eq, length_recorded, ← h.fill]
    exact hfill
  obtain ⟨hi, lo, hgreatest, hleast, hspread⟩ := spread_eq hnonempty
  simp only [h.entries.mem_iff] at hgreatest hleast
  exact ⟨hi, lo, hgreatest, hleast, hspread⟩

/-- The statistics are those of the recorded entries. -/
structure MeasuresSample (est : MeasurementErrorEstimator Rat) (xs : List Rat) : Prop where
  fill : est.fill = min xs.length 32
  entries : est.entries.Perm (recorded xs)
  mean : 1 ≤ est.fill → est.mean = sampleMean (recorded xs)
  variance : 2 ≤ est.fill → est.variance = sampleVariance (recorded xs)
  rangeSize : 1 ≤ est.fill → ∃ hi lo, IsGreatest {x | x ∈ recorded xs} hi ∧
    IsLeast {x | x ∈ recorded xs} lo ∧ est.rangeSize = .ok (hi - lo)

/-- Only the two divisors are in question. -/
theorem Filled.measuresSample (h : est.Filled xs)
    (hmean : est.mean = sampleMean (recorded xs))
    (hvariance : est.variance = sampleVariance (recorded xs)) : est.MeasuresSample xs :=
  ⟨h.fill, h.entries, fun _ => hmean, fun _ => hvariance, h.rangeSize⟩

/-- In a full buffer both divisors are right. -/
theorem Filled.measuresSample_of_full (h : est.Filled xs) (hfull : 32 ≤ xs.length) :
    est.MeasuresSample xs := by
  have hlength : ((recorded xs).length : Rat) = 32 := by
    rw [length_recorded, Nat.min_eq_right hfull]
    rfl
  have hmean : est.mean = sampleMean (recorded xs) := by rw [h.mean, sampleMean, hlength]
  refine h.measuresSample hmean ?_
  rw [h.variance, sampleVariance, hmean, hlength]
  norm_num

/-- Zeros have the mean and the variance zero, whatever the divisors. -/
theorem Filled.measuresSample_of_zeros (h : est.Filled xs) (hzero : ∀ x ∈ xs, x = 0) :
    est.MeasuresSample xs := by
  have hrecorded : ∀ x ∈ recorded xs, x = 0 := fun x hx => hzero x (List.mem_of_mem_drop hx)
  have hsum : (recorded xs).sum = 0 := List.sum_eq_zero hrecorded
  have hmean : est.mean = 0 := by rw [h.mean, hsum, zero_div]
  have hsample : sampleMean (recorded xs) = 0 := by rw [sampleMean, hsum, zero_div]
  have hsquares : ((recorded xs).map fun v => (v - 0) ^ 2).sum = 0 := by
    refine List.sum_eq_zero fun y hy => ?_
    obtain ⟨x, hx, rfl⟩ := List.mem_map.mp hy
    rw [hrecorded x hx]
    norm_num
  refine h.measuresSample (hmean.trans hsample.symm) ?_
  rw [h.variance, sampleVariance, hmean, hsample, hsquares, zero_div, zero_div]

/-- With fewer entries the right mean and variance are those of zeros. -/
theorem MeasuresSample.eq_zero (h : est.MeasuresSample xs) (hfilled : est.Filled xs)
    (hlt : xs.length < 32) : ∀ x ∈ xs, x = 0 := by
  have hrecorded : recorded xs = xs := by
    rw [recorded, Nat.sub_eq_zero_of_le hlt.le, List.drop_zero]
  have hfill : est.fill = xs.length := by rw [hfilled.fill, Nat.min_eq_left hlt.le]
  rcases Nat.eq_zero_or_pos xs.length with hnil | hpos
  · rw [List.length_eq_zero_iff.mp hnil]
    intro x hx
    cases hx
  have hpos' : (0 : Rat) < xs.length := by exact_mod_cast hpos
  have hlt' : (xs.length : Rat) < 32 := by exact_mod_cast hlt
  -- the sum divided by 32 is the sum divided by the number of entries
  have hsum : xs.sum = 0 := by
    have hmean := h.mean (by omega)
    rw [hfilled.mean, sampleMean, hrecorded, div_eq_div_iff (by norm_num) hpos'.ne'] at hmean
    rcases mul_eq_mul_left_iff.mp hmean with hlength | hsum
    · exact absurd hlength hlt'.ne
    · exact hsum
  rcases Nat.lt_or_ge 1 xs.length with htwo | hone
  · have hmean : est.mean = 0 := by rw [hfilled.mean, hrecorded, hsum, zero_div]
    have hsample : sampleMean xs = 0 := by rw [sampleMean, hsum, zero_div]
    have htwo' : (1 : Rat) < xs.length := by exact_mod_cast htwo
    have hvariance := h.variance (by omega)
    simp only [hfilled.variance, sampleVariance, hrecorded, hmean, hsample, sub_zero] at hvariance
    rw [div_eq_div_iff (by norm_num) (sub_pos.mpr htwo').ne'] at hvariance
    refine eq_zero_of_sum_sq ?_
    rcases mul_eq_mul_left_iff.mp hvariance with hlength | hsquares
    · exact absurd hlength (by linarith)
    · exact hsquares
  · obtain ⟨x, rfl⟩ := List.length_eq_one_iff.mp (le_antisymm hone hpos)
    intro y hy
    rw [List.mem_singleton.mp hy]
    simpa using hsum

/-- **The statistics are those of the recorded entries** when the buffer is full.  Before that the
divisors are too large, which only a sample of zeros does not show. -/
theorem statistics_iff (xs : List Rat) :
    (ofEntries xs).MeasuresSample xs ↔ 32 ≤ xs.length ∨ ∀ x ∈ xs, x = 0 := by
  have hfilled := filled_ofEntries xs
  constructor
  · intro h
    rcases Nat.lt_or_ge xs.length 32 with hlt | hfull
    · exact Or.inr (h.eq_zero hfilled hlt)
    · exact Or.inl hfull
  · rintro (hfull | hzero)
    · exact hfilled.measuresSample_of_full hfull
    · exact hfilled.measuresSample_of_zeros hzero

/-- The mean of eight ones, from which on the variance is used, is a quarter. -/
theorem mean_of_eight :
    (ofEntries (List.replicate 8 1)).fill = 8 ∧
      (ofEntries (List.replicate 8 1)).mean = 1 / 4 ∧
        ¬ (ofEntries (List.replicate 8 1)).MeasuresSample (List.replicate 8 1) := by
  have hmean : (ofEntries (List.replicate 8 1)).mean = 1 / 4 := by decide +kernel
  refine ⟨rfl, hmean, fun h => ?_⟩
  have hright := h.mean (by decide)
  rw [hmean] at hright
  exact absurd hright (by decide +kernel)

end MeasurementErrorEstimator

end Statime
