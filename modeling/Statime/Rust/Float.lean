import Mathlib.Data.Rat.Defs
import Statime.Rust.Fixed

/-!
# 64-bit floating-point numbers

A finite `f64` is the rational number that it stands for.  A sum or quotient is the exact one, rounded
to 53 significant bits, ties to even.  The exponent of an `f64` is bounded and that of these numbers
is not: results that are too large or too small for an `f64` are left out.
-/

namespace Rust

/-- `n / d` rounded to the nearest integer, ties to even. -/
def roundDiv (n : Int) (d : Nat) : Int :=
  let q := n / d
  let r := n % d
  if 2 * r < d ∨ (2 * r = d ∧ q % 2 = 0) then q else q + 1

namespace F64

/-- The number `n * 2 ^ k`. -/
def scale (n : Int) (k : Int) : Rat :=
  if 0 ≤ k then ((n * 2 ^ k.toNat : Int) : Rat) else mkRat n (2 ^ (-k).toNat)

/-- The exponent of the number: that of its leading bit. -/
def exponent (x : Rat) : Int :=
  let e : Int := (Nat.log2 x.num.natAbs : Int) - Nat.log2 x.den
  if scale 1 e ≤ |x| then e else e - 1

/-- The nearest number with 53 significant bits. -/
def round (x : Rat) : Rat :=
  let k := 52 - exponent x
  if 0 ≤ k then scale (roundDiv (x.num * 2 ^ k.toNat) x.den) (-k)
  else scale (roundDiv x.num (x.den * 2 ^ (-k).toNat)) (-k)

def add (x y : Rat) : Rat := round (x + y)

/-- Nothing when the quotient is not finite. -/
def div (x y : Rat) : Option Rat := if y = 0 then none else some (round (x / y))

end F64

namespace IFixed

variable {w f : Nat}

/-- The number as an `f64`; for numbers of at most 53 significant bits. -/
def toF64 (a : IFixed w f) : Rat := mkRat a.toInt (2 ^ f)

/-- `x.to_fixed()` of an `f64`. -/
def ofF64 (p : Profile) : Option Rat → Except Panic (IFixed w f)
  | some x => wrap p (roundDiv (x.num * 2 ^ f) x.den)
  | none => .error .range

end IFixed

end Rust
