import Mathlib.Tactic.Ring
import Mathlib.Tactic.Linarith
import Statime.Rust.Panic

/-!
# Fixed-point numbers

`UFixed w f` and `IFixed w f` are unsigned and signed fixed-point numbers of `w`
bits, `f` of them after the point: the number is `bits / 2^f`.  The model works on
the integer `toInt` that the bits stand for.

Every operation computes its exact result on those integers and stores it with
`wrap`: in a debug build a result out of range panics, in a release build it is
taken modulo `2^w`.  A product is rounded down and a quotient towards zero, as
the integer operations on the bits do it; conversions that lose fractional bits
round down.  `toInt_wrap` is the one fact the proofs need: a result in range is
the exact one.

`roundEven` is the rounding of a binary floating-point number to a fixed-point
one.
-/

namespace Rust

/-- An unsigned fixed-point number. -/
structure UFixed (w f : Nat) where
  bits : BitVec w
  deriving DecidableEq, Repr

/-- A signed fixed-point number. -/
structure IFixed (w f : Nat) where
  bits : BitVec w
  deriving DecidableEq, Repr

namespace UFixed

variable {w f : Nat}

/-- The number in units of its last bit. -/
def toInt (a : UFixed w f) : Int := a.bits.toNat

/-- Whether an integer is the bits of some number of this format. -/
def fits (w : Nat) (v : Int) : Bool := decide (0 ≤ v ∧ v < 2 ^ w)

/-- Store an exact result. -/
def wrap (p : Profile) (v : Int) : Except Panic (UFixed w f) :=
  overflow p (!fits w v) ⟨BitVec.ofInt w v⟩

/-- `n.to_fixed()` of an integer. -/
def toFixed (p : Profile) (n : Int) : Except Panic (UFixed w f) := wrap p (n * 2 ^ f)

def add (p : Profile) (a b : UFixed w f) : Except Panic (UFixed w f) :=
  wrap p (a.toInt + b.toInt)

def sub (p : Profile) (a b : UFixed w f) : Except Panic (UFixed w f) :=
  wrap p (a.toInt - b.toInt)

def rem (a b : UFixed w f) : Except Panic (UFixed w f) :=
  if b.toInt = 0 then .error .divideByZero else .ok ⟨BitVec.ofInt w (a.toInt % b.toInt)⟩

def div (p : Profile) (a b : UFixed w f) : Except Panic (UFixed w f) :=
  if b.toInt = 0 then .error .divideByZero else wrap p (a.toInt * 2 ^ f / b.toInt)

/-- The fractional part. -/
def frac (a : UFixed w f) : UFixed w f := ⟨BitVec.ofInt w (a.toInt % 2 ^ f)⟩

/-- `to_num` into an unsigned integer of `n` bits. -/
def toNum (p : Profile) (n : Nat) (a : UFixed w f) : Except Panic (BitVec n) :=
  overflow p (!fits n (a.toInt / 2 ^ f)) (BitVec.ofInt n (a.toInt / 2 ^ f))

theorem toInt_nonneg (a : UFixed w f) : 0 ≤ a.toInt := Int.natCast_nonneg _

theorem toInt_lt (a : UFixed w f) : a.toInt < 2 ^ w := by
  have := a.bits.isLt
  rw [toInt]
  exact_mod_cast this

theorem fits_toInt (a : UFixed w f) : fits w a.toInt = true := by
  simp [fits, a.toInt_nonneg, a.toInt_lt]

theorem ext_toInt {a b : UFixed w f} (h : a.toInt = b.toInt) : a = b := by
  cases a
  cases b
  simp only [toInt, Nat.cast_inj] at h
  simp only [mk.injEq]
  exact BitVec.eq_of_toNat_eq h

/-- A value in range is stored exactly. -/
theorem toInt_ofInt {v : Int} (h : fits w v = true) :
    (⟨BitVec.ofInt w v⟩ : UFixed w f).toInt = v := by
  simp only [fits, decide_eq_true_eq] at h
  rw [toInt, BitVec.toNat_ofInt]
  have hmod : v % ((2 ^ w : Nat) : Int) = v := Int.emod_eq_of_lt h.1 (by exact_mod_cast h.2)
  rw [hmod]
  exact Int.toNat_of_nonneg h.1

/-- In a release build a value is stored modulo `2 ^ w`. -/
theorem toInt_ofInt_mod (v : Int) :
    (⟨BitVec.ofInt w v⟩ : UFixed w f).toInt = v % 2 ^ w := by
  rw [toInt, BitVec.toNat_ofInt]
  push_cast
  exact Int.toNat_of_nonneg (Int.emod_nonneg _ (by positivity))

theorem toInt_wrap {p : Profile} {v : Int} {r : UFixed w f} (h : wrap p v = .ok r)
    (hv : fits w v = true) : r.toInt = v := by
  rw [wrap, overflow_eq_ok] at h
  rw [← h.2, toInt_ofInt hv]

/-- What is stored is always the value modulo `2 ^ w`. -/
theorem toInt_wrap_mod {p : Profile} {v : Int} {r : UFixed w f} (h : wrap p v = .ok r) :
    r.toInt = v % 2 ^ w := by
  rw [wrap, overflow_eq_ok] at h
  rw [← h.2, toInt_ofInt_mod]

theorem wrap_of_fits (p : Profile) {v : Int} (hv : fits w v = true) :
    (wrap p v : Except Panic (UFixed w f)) = .ok ⟨BitVec.ofInt w v⟩ := by
  simp [wrap, hv]

theorem wrap_onlyOverflows (p : Profile) (v : Int) :
    OnlyOverflows p (wrap p v : Except Panic (UFixed w f)) := onlyOverflows_overflow p _ _

/-- A debug build stores the exact value. -/
theorem toInt_wrap_debug {v : Int} {r : UFixed w f} (h : wrap .debug v = .ok r) : r.toInt = v := by
  refine toInt_wrap h ?_
  rw [wrap, overflow_eq_ok] at h
  simpa using h.1 rfl

theorem wrap_sameInDebug (v : Int) :
    SameInDebug fun p => (wrap p v : Except Panic (UFixed w f)) := sameInDebug_overflow _ _

end UFixed

namespace IFixed

variable {w f : Nat}

/-- The number in units of its last bit. -/
def toInt (a : IFixed w f) : Int := a.bits.toInt

/-- Whether an integer is the bits of some number of this format. -/
def fits (w : Nat) (v : Int) : Bool := decide (-2 ^ (w - 1) ≤ v ∧ v < 2 ^ (w - 1))

/-- Store an exact result. -/
def wrap (p : Profile) (v : Int) : Except Panic (IFixed w f) :=
  overflow p (!fits w v) ⟨BitVec.ofInt w v⟩

/-- `n.to_fixed()` of an integer. -/
def toFixed (p : Profile) (n : Int) : Except Panic (IFixed w f) := wrap p (n * 2 ^ f)

def add (p : Profile) (a b : IFixed w f) : Except Panic (IFixed w f) :=
  wrap p (a.toInt + b.toInt)

def neg (p : Profile) (a : IFixed w f) : Except Panic (IFixed w f) := wrap p (-a.toInt)

def mul (p : Profile) (a b : IFixed w f) : Except Panic (IFixed w f) :=
  wrap p (a.toInt * b.toInt / 2 ^ f)

def div (p : Profile) (a b : IFixed w f) : Except Panic (IFixed w f) :=
  if b.toInt = 0 then .error .divideByZero else wrap p ((a.toInt * 2 ^ f).tdiv b.toInt)

/-- `unsigned_abs`, which cannot overflow. -/
def unsignedAbs (a : IFixed w f) : UFixed w f := ⟨BitVec.ofInt w |a.toInt|⟩

/-- The order of the numbers. -/
def cmp (a b : IFixed w f) : Ordering := compare a.toInt b.toInt

theorem ext_toInt {a b : IFixed w f} (h : a.toInt = b.toInt) : a = b := by
  cases a
  cases b
  simp only [mk.injEq]
  exact BitVec.eq_of_toInt_eq h

theorem fits_toInt (hw : 0 < w) (a : IFixed w f) : fits w a.toInt = true := by
  have hpow : (2 : Int) ^ w = 2 ^ (w - 1) * 2 := by
    rw [← pow_succ]
    congr 1
    omega
  have hlo := BitVec.le_two_mul_toInt (x := a.bits)
  have hhi := BitVec.two_mul_toInt_lt (x := a.bits)
  rw [hpow] at hlo hhi
  exact decide_eq_true ⟨by rw [toInt]; linarith, by rw [toInt]; linarith⟩

/-- A value in range is stored exactly. -/
theorem toInt_ofInt {v : Int} (hw : 0 < w) (h : fits w v = true) :
    (⟨BitVec.ofInt w v⟩ : IFixed w f).toInt = v := by
  simp only [fits, decide_eq_true_eq] at h
  have hpow : (2 : Int) ^ w = 2 ^ (w - 1) * 2 := by
    rw [← pow_succ]
    congr 1
    omega
  rw [toInt, BitVec.toInt_ofInt]
  apply Int.bmod_eq_of_le_mul_two
  · push_cast
    rw [hpow]
    linarith [h.1]
  · push_cast
    rw [hpow]
    linarith [h.2]

theorem toInt_wrap {p : Profile} {v : Int} {r : IFixed w f} (hw : 0 < w)
    (h : wrap p v = .ok r) (hv : fits w v = true) : r.toInt = v := by
  rw [wrap, overflow_eq_ok] at h
  rw [← h.2, toInt_ofInt hw hv]

theorem wrap_of_fits (p : Profile) {v : Int} (hv : fits w v = true) :
    (wrap p v : Except Panic (IFixed w f)) = .ok ⟨BitVec.ofInt w v⟩ := by
  simp [wrap, hv]

theorem wrap_onlyOverflows (p : Profile) (v : Int) :
    OnlyOverflows p (wrap p v : Except Panic (IFixed w f)) := onlyOverflows_overflow p _ _

theorem fits_of_wrap_debug {v : Int} {r : IFixed w f} (h : wrap .debug v = .ok r) :
    fits w v = true := by
  rw [wrap, overflow_eq_ok] at h
  simpa using h.1 rfl

/-- A debug build stores the exact value. -/
theorem toInt_wrap_debug {v : Int} {r : IFixed w f} (hw : 0 < w) (h : wrap .debug v = .ok r) :
    r.toInt = v := toInt_wrap hw h (fits_of_wrap_debug h)

theorem wrap_sameInDebug (v : Int) :
    SameInDebug fun p => (wrap p v : Except Panic (IFixed w f)) := sameInDebug_overflow _ _

/-- Only a debug build refuses a value. -/
theorem wrap_ok (p : Profile) {v : Int} (h : p = .debug → fits w v = true) :
    (wrap p v : Except Panic (IFixed w f)) = .ok ⟨BitVec.ofInt w v⟩ := by
  rw [wrap, overflow_eq_ok]
  exact ⟨fun hp => by rw [h hp, Bool.not_true], rfl⟩

/-- What is stored is always the value modulo `2 ^ w`. -/
theorem dvd_wrap {p : Profile} {v : Int} {r : IFixed w f} (h : wrap p v = .ok r) :
    (2 : Int) ^ w ∣ r.toInt - v := by
  rw [wrap, overflow_eq_ok] at h
  rw [← h.2, toInt, BitVec.toInt_ofInt]
  exact_mod_cast Int.dvd_bmod_sub_self

end IFixed

/-! ### From floating point -/

/-- `n * 2 ^ k` rounded to the nearest integer, ties to even. -/
def roundEven (n : Nat) (k : Int) : Int :=
  if 0 ≤ k then n * 2 ^ k.toNat
  else
    let d := 2 ^ (-k).toNat
    let q := n / d
    let r := n % d
    if 2 * r < d ∨ (2 * r = d ∧ q % 2 = 0) then q else q + 1

end Rust
