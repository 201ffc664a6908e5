import Mathlib.Data.List.Basic
import Statime.Rust.Panic

/-!
# Vectors of fixed capacity

`ArrayVec α cap` is a list of at most `cap` elements; the bound is a field, so no
longer list can be stored.  `tryPush` refuses the element that does not fit,
`push` and `collect` panic on it, and an index that is out of range panics.
-/

namespace Rust

/-- A vector that holds at most `cap` elements. -/
structure ArrayVec (α : Type) (cap : Nat) where
  toList : List α
  length_le : toList.length ≤ cap

namespace ArrayVec

variable {α : Type} {cap : Nat}

instance [DecidableEq α] : DecidableEq (ArrayVec α cap) := fun a b =>
  decidable_of_iff (a.toList = b.toList) ⟨fun h => by cases a; cases b; simp_all, fun h => by rw [h]⟩

instance : Inhabited (ArrayVec α cap) := ⟨⟨[], Nat.zero_le _⟩⟩

@[ext] theorem ext {a b : ArrayVec α cap} (h : a.toList = b.toList) : a = b := by
  cases a
  cases b
  simp_all

/-- `ArrayVec::new()`. -/
def new : ArrayVec α cap := ⟨[], Nat.zero_le _⟩

@[simp] theorem toList_new : (new : ArrayVec α cap).toList = [] := rfl

/-- `try_push`: nothing when the vector is full. -/
def tryPush (v : ArrayVec α cap) (x : α) : Option (ArrayVec α cap) :=
  if h : v.toList.length < cap then
    some ⟨v.toList ++ [x], by rw [List.length_append]; exact h⟩
  else none

/-- `collect` from an iterator. -/
def collect (xs : List α) : Except Panic (ArrayVec α cap) :=
  if h : xs.length ≤ cap then .ok ⟨xs, h⟩ else .error .capacity

/-- A vector of some of the elements, in their order. -/
def ofSublist (v : ArrayVec α cap) (xs : List α) (h : xs.length ≤ v.toList.length) :
    ArrayVec α cap := ⟨xs, Nat.le_trans h v.length_le⟩

/-- `retain`. -/
def retain (v : ArrayVec α cap) (keep : α → Bool) : ArrayVec α cap :=
  v.ofSublist (v.toList.filter keep) (List.length_filter_le _ _)

@[simp] theorem toList_retain (v : ArrayVec α cap) (keep : α → Bool) :
    (v.retain keep).toList = v.toList.filter keep := rfl

/-- Every element replaced by its image. -/
def map {β : Type} (v : ArrayVec α cap) (g : α → β) : ArrayVec β cap :=
  ⟨v.toList.map g, by rw [List.length_map]; exact v.length_le⟩

@[simp] theorem toList_map {β : Type} (v : ArrayVec α cap) (g : α → β) :
    (v.map g).toList = v.toList.map g := rfl

/-- Add an element at the end; when the vector is full, drop the first one for it. -/
def pushEvict (v : ArrayVec α (cap + 1)) (x : α) : ArrayVec α (cap + 1) :=
  if h : v.toList.length < cap + 1 then
    ⟨v.toList ++ [x], by rw [List.length_append]; exact h⟩
  else ⟨v.toList.tail ++ [x], by
    have := v.length_le
    rw [List.length_append, List.length_tail, List.length_singleton]
    omega⟩

theorem toList_pushEvict_of_lt {v : ArrayVec α (cap + 1)} {x : α}
    (h : v.toList.length < cap + 1) : (v.pushEvict x).toList = v.toList ++ [x] := by
  rw [pushEvict, dif_pos h]

/-- The new element comes last, after all or all but the first of the others. -/
theorem exists_toList_pushEvict (v : ArrayVec α (cap + 1)) (x : α) :
    ∃ front, front <:+ v.toList ∧ (v.pushEvict x).toList = front ++ [x] := by
  unfold pushEvict
  split
  · exact ⟨v.toList, List.suffix_refl _, rfl⟩
  · exact ⟨v.toList.tail, List.tail_suffix _, rfl⟩

/-- All but the last element. -/
def dropLast (v : ArrayVec α cap) : ArrayVec α cap :=
  v.ofSublist v.toList.dropLast (by rw [List.length_dropLast]; omega)

@[simp] theorem toList_dropLast (v : ArrayVec α cap) : v.dropLast.toList = v.toList.dropLast := rfl

/-- `v[i]`. -/
def index (v : ArrayVec α cap) (i : Nat) : Except Panic α :=
  match v.toList[i]? with
  | some x => .ok x
  | none => .error .index

/-- `v[i] = x`. -/
def setAt (v : ArrayVec α cap) (i : Nat) (x : α) : Except Panic (ArrayVec α cap) :=
  if i < v.toList.length then
    .ok (v.ofSublist (v.toList.set i x) (Nat.le_of_eq List.length_set))
  else .error .index

/-- `v.remove(i)`: the element and the others. -/
def remove (v : ArrayVec α cap) (i : Nat) : Except Panic (α × ArrayVec α cap) :=
  match v.toList[i]? with
  | some x => .ok (x, v.ofSublist (v.toList.eraseIdx i) (List.length_eraseIdx_le _ _))
  | none => .error .index

/-- `v.push(x)`. -/
def push (v : ArrayVec α cap) (x : α) : Except Panic (ArrayVec α cap) :=
  match v.tryPush x with
  | some v => .ok v
  | none => .error .capacity

/-- The elements replaced by what `f` makes of them, for an `f` that never adds any. -/
def updateM (v : ArrayVec α cap) (f : List α → Except Panic (List α))
    (h : ∀ xs ys, f xs = .ok ys → ys.length ≤ xs.length) : Except Panic (ArrayVec α cap) :=
  match hf : f v.toList with
  | .ok ys => .ok ⟨ys, Nat.le_trans (h _ _ hf) v.length_le⟩
  | .error why => .error why

theorem updateM_eq_ok {v w : ArrayVec α cap} {f : List α → Except Panic (List α)}
    {h : ∀ xs ys, f xs = .ok ys → ys.length ≤ xs.length} :
    v.updateM f h = .ok w ↔ f v.toList = .ok w.toList := by
  unfold updateM
  split
  · rename_i ys hf
    constructor
    · intro he
      rw [← Except.ok.inj he]
      exact hf
    · intro he
      congr 1
      exact ext (Except.ok.inj (hf.symm.trans he))
  · rename_i why hf
    rw [hf]
    simp

theorem updateM_eq_error {v : ArrayVec α cap} {f : List α → Except Panic (List α)}
    {h : ∀ xs ys, f xs = .ok ys → ys.length ≤ xs.length} {why : Panic}
    (hf : f v.toList = .error why) : v.updateM f h = .error why := by
  unfold updateM
  split
  · rename_i ys hys
    rw [hf] at hys
    cases hys
  · rename_i why' hwhy
    rw [← Except.error.inj (hf.symm.trans hwhy)]

theorem updateM_total {v : ArrayVec α cap} {f : List α → Except Panic (List α)} {ys : List α}
    (h : ∀ xs ys, f xs = .ok ys → ys.length ≤ xs.length) (hf : f v.toList = .ok ys) :
    ∃ w, v.updateM f h = .ok w :=
  ⟨⟨ys, Nat.le_trans (h _ _ hf) v.length_le⟩, updateM_eq_ok.mpr hf⟩

theorem updateM_onlyOverflows {p : Profile} {v : ArrayVec α cap} {f : List α → Except Panic (List α)}
    (h : ∀ xs ys, f xs = .ok ys → ys.length ≤ xs.length) (hf : OnlyOverflows p (f v.toList)) :
    OnlyOverflows p (v.updateM f h) := by
  rcases hf with ⟨ys, hys⟩ | ⟨hp, herror⟩
  · exact Or.inl (updateM_total h hys)
  · exact Or.inr ⟨hp, updateM_eq_error herror⟩

theorem updateM_sameInDebug {v : ArrayVec α cap} {f : Profile → List α → Except Panic (List α)}
    {h : ∀ p xs ys, f p xs = .ok ys → ys.length ≤ xs.length}
    (hf : SameInDebug fun p => f p v.toList) : SameInDebug fun p => v.updateM (f p) (h p) := by
  intro w hw p
  exact updateM_eq_ok.mpr (hf _ (updateM_eq_ok.mp hw) p)

theorem toList_tryPush {v v' : ArrayVec α cap} {x : α} (h : v.tryPush x = some v') :
    v'.toList = v.toList ++ [x] := by
  unfold tryPush at h
  split at h
  · rw [← Option.some.inj h]
  · cases h

theorem index_eq_ok {v : ArrayVec α cap} {i : Nat} {x : α} (h : v.toList[i]? = some x) :
    v.index i = .ok x := by
  unfold index
  rw [h]

theorem setAt_eq_ok {v : ArrayVec α cap} {i : Nat} (x : α) (h : i < v.toList.length) :
    ∃ w, v.setAt i x = .ok w ∧ w.toList = v.toList.set i x := by
  unfold setAt
  rw [if_pos h]
  exact ⟨_, rfl, rfl⟩

theorem remove_eq_ok {v : ArrayVec α cap} {i : Nat} {x : α} (h : v.toList[i]? = some x) :
    ∃ w, v.remove i = .ok (x, w) ∧ w.toList = v.toList.eraseIdx i := by
  unfold remove
  rw [h]
  exact ⟨_, rfl, rfl⟩

theorem push_eq_ok {v : ArrayVec α cap} {x : α} (h : v.toList.length < cap) :
    ∃ w, v.push x = .ok w ∧ w.toList = v.toList ++ [x] := by
  unfold push tryPush
  rw [dif_pos h]
  exact ⟨_, rfl, rfl⟩

end ArrayVec

end Rust
