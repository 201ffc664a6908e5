import Mathlib.Data.Rat.Floor
import Mathlib.Algebra.Order.Field.Rat
import Statime.Rust.Float
import Statime.Rust.Iter

/-!
# `f64`

An `f64` is a `Float` of Lean: the arithmetic, the comparisons and the square root are those of
IEEE 754.  Here are the operations of Rust that Lean does not have, and the conversions from and to
exact numbers.

What only adds, subtracts, multiplies, divides, compares and converts is written for any such numbers
(`Floating`), so that it can also be read over the rational numbers, where nothing is rounded.
-/

namespace Rust

namespace F64

/-- The number that a finite `f64` stands for. -/
def value (x : Float) : Option Rat :=
  match x.toModel.unpack with
  | .finite sign mantissa exponent _ => some (scale (sign.apply mantissa) exponent)
  | .zero _ => some 0
  | .infinity _ => none
  | .notANumber => none

/-- The nearest `f64` to `n * 2 ^ k`, ties to even. -/
def ofScaled (n k : Int) : Float := .ofModel (.pack (.normalize .binary64 n k .positive))

/-- The sign of the number as `1.0` or `-1.0`, also of the zeros. -/
def signum (x : Float) : Float :=
  if x.isNaN then x else if x.toBits < 0x8000000000000000 then 1.0 else -1.0

/-- `max`: a `NaN` loses against every number. -/
def max (x y : Float) : Float :=
  if x.isNaN then y else if y.isNaN then x else if x < y then y else x

/-- `clamp` asserts that its bounds are in order. -/
def clamp (x lower upper : Float) : Except Panic Float := do
  assert (decide (lower ≤ upper))
  return if x < lower then lower else if upper < x then upper else x

end F64

/-- Numbers that `f64` arithmetic can be read over. -/
class Floating (α : Type) where
  /-- `x.az()` of a fixed-point number. -/
  ofFixed {w f : Nat} : IFixed w f → α
  /-- The number, when it is finite. -/
  value : α → Option Rat

instance : Floating Float where
  ofFixed {_ f} a := F64.ofScaled a.toInt (-f)
  value := F64.value

/-- Exact numbers. -/
instance : Floating Rat where
  ofFixed := IFixed.toF64
  value := some

section

variable {α : Type}

/-- `iter().sum()`. -/
def sum [Add α] [OfScientific α] (xs : List α) : α := xs.foldl (· + ·) 0.0

/-- The comparison of `range_size`: what is not greater is less. -/
def greater [LT α] [DecidableLT α] (x y : α) : Except Panic Ordering :=
  return if y < x then .gt else .lt

/-- `self.iter().max_by(..).unwrap() - self.iter().min_by(..).unwrap()`. -/
def spread [Sub α] [LT α] [DecidableLT α] (xs : List α) : Except Panic α := do
  match ← maxBy greater xs, ← minBy greater xs with
  | some max, some min => return max - min
  | _, _ => .error .unwrap

end

/-! ### Over exact numbers -/

theorem sum_eq (xs : List Rat) : sum xs = xs.sum := by
  rw [sum, List.sum_eq_foldl]
  norm_num

section

variable {α : Type} [LinearOrder α]

theorem isGreatest_foldl_max (x : α) (xs : List α) :
    IsGreatest {y | y ∈ x :: xs} (xs.foldl max x) := by
  induction xs generalizing x with
  | nil =>
    refine ⟨List.mem_singleton_self x, fun y hy => ?_⟩
    rw [List.mem_singleton.mp hy]
    exact le_rfl
  | cons y ys ih =>
    obtain ⟨hmem, hupper⟩ := ih (max x y)
    constructor
    · show ys.foldl max (max x y) ∈ x :: y :: ys
      rcases List.mem_cons.mp hmem with heq | hmem
      · rw [heq]
        rcases max_choice x y with h | h <;> simp [h]
      · exact List.mem_cons_of_mem _ (List.mem_cons_of_mem _ hmem)
    · have hmax : max x y ≤ ys.foldl max (max x y) := hupper List.mem_cons_self
      intro z hz
      rcases List.mem_cons.mp hz with rfl | hz
      · exact (le_max_left _ _).trans hmax
      · rcases List.mem_cons.mp hz with rfl | hz
        · exact (le_max_right _ _).trans hmax
        · exact hupper (List.mem_cons_of_mem _ hz)

theorem isLeast_foldl_min (x : α) (xs : List α) : IsLeast {y | y ∈ x :: xs} (xs.foldl min x) :=
  isGreatest_foldl_max (α := αᵒᵈ) x xs

/-- `max_by` with this comparison is a maximum. -/
theorem maxBy_greater [DecidableLT α] (x : α) (xs : List α) :
    maxBy greater (x :: xs) = .ok (some (xs.foldl max x)) := by
  induction xs generalizing x with
  | nil => rfl
  | cons y ys ih =>
    rw [List.foldl_cons, ← ih, maxBy, maxBy, List.foldlM_cons, greater]
    by_cases h : y < x
    · rw [if_pos h, max_eq_left h.le]
      rfl
    · rw [if_neg h, max_eq_right (not_lt.mp h)]
      rfl

theorem minBy_greater [DecidableLT α] (x : α) (xs : List α) :
    minBy greater (x :: xs) = .ok (some (xs.foldl min x)) := by
  induction xs generalizing x with
  | nil => rfl
  | cons y ys ih =>
    rw [List.foldl_cons, ← ih, minBy, minBy, List.foldlM_cons, greater]
    by_cases h : y < x
    · rw [if_pos h, min_eq_right h.le]
      rfl
    · rw [if_neg h, min_eq_left (not_lt.mp h)]
      rfl

/-- **The spread** is the greatest less the least. -/
theorem spread_eq [DecidableLT α] [Sub α] {xs : List α} (hxs : xs ≠ []) :
    ∃ hi lo, IsGreatest {x | x ∈ xs} hi ∧ IsLeast {x | x ∈ xs} lo ∧ spread xs = .ok (hi - lo) := by
  obtain ⟨x, xs, rfl⟩ := List.exists_cons_of_ne_nil hxs
  refine ⟨_, _, isGreatest_foldl_max x xs, isLeast_foldl_min x xs, ?_⟩
  rw [spread, maxBy_greater, ok_bind, minBy_greater]
  rfl

end

end Rust
