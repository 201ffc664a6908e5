import Statime.Rust.Float64

/-!
# Matrices

`statime/src/filters/matrix.rs`: the matrix arithmetic of the Kalman filter, in the order in which the
source adds the products.
-/

namespace Statime

open Rust

/-- `[[f64; M]; N]`. -/
structure Matrix (n m : Nat) (α : Type) where
  data : Vector (Vector α m) n

/-- A column. -/
abbrev ColumnVector (n : Nat) (α : Type) := Matrix n 1 α

namespace Matrix

variable {k n m : Nat} {α : Type}

/-- `core::array::from_fn`, twice. -/
def fromFn (f : Fin n → Fin m → α) : Matrix n m α := ⟨Vector.ofFn fun i => Vector.ofFn (f i)⟩

def entry (a : Matrix n m α) (i : Fin n) (j : Fin m) : α := a.data[i][j]

def transpose (a : Matrix n m α) : Matrix m n α := fromFn fun i j => a.entry j i

def newVector (data : Vector α n) : ColumnVector n α := fromFn fun i _ => data[i]

def ventry (a : ColumnVector n α) (i : Fin n) : α := a.entry i ⟨0, Nat.one_pos⟩

def symmetrize [Add α] [Div α] [OfScientific α] (a : Matrix n n α) : Matrix n n α :=
  fromFn fun i j => (a.entry i j + a.entry j i) / 2.0

def unit [OfScientific α] : Matrix n n α := fromFn fun i j => if i = j then 1.0 else 0.0

def inverse [Div α] [OfScientific α] (a : Matrix 1 1 α) : Matrix 1 1 α :=
  ⟨#v[#v[1.0 / a.ventry ⟨0, Nat.one_pos⟩]]⟩

def mul [Add α] [Mul α] [OfScientific α] (a : Matrix n k α) (b : Matrix k m α) : Matrix n m α :=
  fromFn fun i j => sum ((List.finRange k).map fun l => a.entry i l * b.entry l j)

def add [Add α] (a b : Matrix n m α) : Matrix n m α := fromFn fun i j => a.entry i j + b.entry i j

def sub [Sub α] (a b : Matrix n m α) : Matrix n m α := fromFn fun i j => a.entry i j - b.entry i j

instance [Add α] [Mul α] [OfScientific α] : HMul (Matrix n k α) (Matrix k m α) (Matrix n m α) := ⟨mul⟩
instance [Add α] : Add (Matrix n m α) := ⟨add⟩
instance [Sub α] : Sub (Matrix n m α) := ⟨sub⟩

/-- The product of `test_matrix_mul`. -/
example : ((⟨#v[#v[1.0, 2.0], #v[3.0, 4.0]]⟩ : Matrix 2 2 Float) *
    (⟨#v[#v[5.0, 6.0], #v[7.0, 8.0]]⟩ : Matrix 2 2 Float)).data = #v[#v[19.0, 22.0], #v[43.0, 50.0]] := by
  decide +kernel

end Matrix

end Statime
