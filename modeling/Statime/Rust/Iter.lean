import Mathlib.Data.List.Basic
import Mathlib.Data.List.Forall2
import Mathlib.Data.List.Induction
import Statime.Rust.Panic

/-!
# Iterators

The adapters of `core::iter` and `core::slice` that the program uses and Lean's
lists do not have: `max_by` and `min_by` with a comparison that may panic, a change to the first
element that `find` would return, and `chunks_exact`.

* `maxBy_mem`: what `max_by` returns is one of the elements.
* `length_modifyFirst`: a change keeps the number of elements.
-/

namespace Rust

variable {α : Type}

/-- A loop avoids what each pass avoids. -/
theorem avoids_foldlM {β : Type} {why : Panic} {f : β → α → Except Panic β}
    (h : ∀ b x, Avoids why (f b x)) (xs : List α) (b : β) : Avoids why (xs.foldlM f b) := by
  induction xs generalizing b with
  | nil => exact avoids_ok why b
  | cons x xs ih =>
    rw [List.foldlM_cons]
    exact (h b x).bind fun b' _ => ih b'

/-- `max_by`: of elements that compare equal the last one is returned. -/
def maxBy (cmp : α → α → Except Panic Ordering) : List α → Except Panic (Option α)
  | [] => .ok none
  | x :: xs => do
    let best ← xs.foldlM (fun best y => do
      match ← cmp best y with
      | .gt => return best
      | _ => return y) x
    return some best

/-- A maximum avoids what the comparison avoids. -/
theorem maxBy_avoids {why : Panic} {cmp : α → α → Except Panic Ordering}
    (h : ∀ x y, Avoids why (cmp x y)) (xs : List α) : Avoids why (maxBy cmp xs) := by
  cases xs with
  | nil => exact avoids_ok why _
  | cons x xs =>
    refine (avoids_foldlM (fun best y => ?_) xs x).bind fun best _ => avoids_ok why _
    refine (h best y).bind fun ordering _ => ?_
    cases ordering <;> exact avoids_ok why _

/-- `min_by`: of elements that compare equal the first one is returned. -/
def minBy (cmp : α → α → Except Panic Ordering) : List α → Except Panic (Option α)
  | [] => .ok none
  | x :: xs => do
    let best ← xs.foldlM (fun best y => do
      match ← cmp best y with
      | .gt => return y
      | _ => return best) x
    return some best

theorem minBy_avoids {why : Panic} {cmp : α → α → Except Panic Ordering}
    (h : ∀ x y, Avoids why (cmp x y)) (xs : List α) : Avoids why (minBy cmp xs) := by
  cases xs with
  | nil => exact avoids_ok why _
  | cons x xs =>
    refine (avoids_foldlM (fun best y => ?_) xs x).bind fun best _ => avoids_ok why _
    refine (h best y).bind fun ordering _ => ?_
    cases ordering <;> exact avoids_ok why _

/-- The first element with the property replaced; the others stay. -/
def modifyFirst (found : α → Bool) (g : α → Except Panic α) : List α → Except Panic (List α)
  | [] => .ok []
  | x :: xs =>
    if found x then do
      let x ← g x
      return x :: xs
    else do
      let xs ← modifyFirst found g xs
      return x :: xs

/-- `chunks_exact(n)` for `n > 0`: what is left over at the end is not returned. -/
def chunksExact (n : Nat) (xs : List α) : List (List α) :=
  (List.range (xs.length / n)).map fun i => (xs.drop (i * n)).take n

@[simp] theorem length_chunksExact (n : Nat) (xs : List α) :
    (chunksExact n xs).length = xs.length / n := by
  simp [chunksExact]

/-! ### What they return -/

theorem foldlM_pick_mem (cmp : α → α → Except Panic Ordering) : ∀ (xs : List α) (x r : α),
    xs.foldlM (fun best y => do
      match ← cmp best y with
      | .gt => return best
      | _ => return y) x = .ok r → r = x ∨ r ∈ xs := by
  intro xs
  induction xs with
  | nil => intro x r h; exact Or.inl (Except.ok.inj h).symm
  | cons y ys ih =>
    intro x r h
    rw [List.foldlM_cons] at h
    obtain ⟨best, hbest, h⟩ := bind_eq_ok.mp h
    obtain ⟨o, -, hbest⟩ := bind_eq_ok.mp hbest
    have hpick : best = x ∨ best = y := by
      cases o with
      | lt => exact Or.inr (Except.ok.inj hbest).symm
      | eq => exact Or.inr (Except.ok.inj hbest).symm
      | gt => exact Or.inl (Except.ok.inj hbest).symm
    rcases ih best r h with rfl | hmem
    · rcases hpick with rfl | rfl
      · exact Or.inl rfl
      · exact Or.inr List.mem_cons_self
    · exact Or.inr (List.mem_cons_of_mem _ hmem)

/-- **`max_by` returns one of the elements.** -/
theorem maxBy_mem {cmp : α → α → Except Panic Ordering} {xs : List α} {r : α}
    (h : maxBy cmp xs = .ok (some r)) : r ∈ xs := by
  cases xs with
  | nil => cases h
  | cons x xs =>
    obtain ⟨best, hbest, h⟩ := bind_eq_ok.mp h
    obtain rfl := Option.some.inj (Except.ok.inj h)
    rcases foldlM_pick_mem cmp xs x _ hbest with rfl | hmem
    · exact List.mem_cons_self
    · exact List.mem_cons_of_mem _ hmem

theorem maxBy_eq_none {cmp : α → α → Except Panic Ordering} {xs : List α}
    (h : maxBy cmp xs = .ok none) : xs = [] := by
  cases xs with
  | nil => rfl
  | cons x xs =>
    obtain ⟨best, -, h⟩ := bind_eq_ok.mp h
    cases h

theorem length_modifyFirst (found : α → Bool) (g : α → Except Panic α) : ∀ (xs ys : List α),
    modifyFirst found g xs = .ok ys → ys.length ≤ xs.length := by
  intro xs
  induction xs with
  | nil =>
    intro ys h
    exact Nat.le_of_eq (congrArg List.length (Except.ok.inj h).symm)
  | cons x xs ih =>
    intro ys h
    rw [modifyFirst] at h
    split at h
    · obtain ⟨y, -, h⟩ := bind_eq_ok.mp h
      obtain rfl := Except.ok.inj h
      simp
    · obtain ⟨zs, hzs, h⟩ := bind_eq_ok.mp h
      have := ih zs hzs
      rw [← Except.ok.inj h, List.length_cons, List.length_cons]
      omega

/-- A change that never panics can be made in every list. -/
theorem modifyFirst_total {found : α → Bool} {g : α → Except Panic α}
    (hg : ∀ x, ∃ y, g x = .ok y) : ∀ xs : List α, ∃ ys, modifyFirst found g xs = .ok ys := by
  intro xs
  induction xs with
  | nil => exact ⟨[], rfl⟩
  | cons x xs ih =>
    rw [modifyFirst]
    split
    · obtain ⟨y, hy⟩ := hg x
      exact ⟨y :: xs, by rw [hy, ok_bind, pure_eq_ok]⟩
    · obtain ⟨ys, hys⟩ := ih
      exact ⟨x :: ys, by rw [hys, ok_bind, pure_eq_ok]⟩

/-- What is in the list after a change was there before, or is the changed element. -/
theorem mem_modifyFirst {found : α → Bool} {g : α → Except Panic α} {y : α} :
    ∀ (xs ys : List α), modifyFirst found g xs = .ok ys → y ∈ ys →
      y ∈ xs ∨ ∃ x ∈ xs, found x = true ∧ g x = .ok y := by
  intro xs
  induction xs with
  | nil =>
    intro ys h hy
    rw [← Except.ok.inj h] at hy
    cases hy
  | cons x xs ih =>
    intro ys h hy
    rw [modifyFirst] at h
    split at h
    · rename_i hfound
      obtain ⟨z, hz, h⟩ := bind_eq_ok.mp h
      obtain rfl := Except.ok.inj h
      rcases List.mem_cons.mp hy with rfl | hmem
      · exact Or.inr ⟨x, List.mem_cons_self, hfound, hz⟩
      · exact Or.inl (List.mem_cons_of_mem _ hmem)
    · obtain ⟨zs, hzs, h⟩ := bind_eq_ok.mp h
      obtain rfl := Except.ok.inj h
      rcases List.mem_cons.mp hy with rfl | hmem
      · exact Or.inl List.mem_cons_self
      · rcases ih zs hzs hmem with hold | ⟨w, hw, hnew⟩
        · exact Or.inl (List.mem_cons_of_mem _ hold)
        · exact Or.inr ⟨w, List.mem_cons_of_mem _ hw, hnew⟩

/-- A change to an element outside a selection leaves the selection alone. -/
theorem filter_modifyFirst_of_not {found sel : α → Bool} {g : α → Except Panic α}
    (hfound : ∀ x, found x = true → sel x = false)
    (hg : ∀ x y, g x = .ok y → sel y = sel x) :
    ∀ (xs ys : List α), modifyFirst found g xs = .ok ys → ys.filter sel = xs.filter sel := by
  intro xs
  induction xs with
  | nil => intro ys h; rw [← Except.ok.inj h]
  | cons x xs ih =>
    intro ys h
    rw [modifyFirst] at h
    split at h
    · rename_i hx
      obtain ⟨y, hy, h⟩ := bind_eq_ok.mp h
      obtain rfl := Except.ok.inj h
      rw [List.filter_cons, List.filter_cons, hg x y hy, hfound x hx]
      rfl
    · obtain ⟨zs, hzs, h⟩ := bind_eq_ok.mp h
      obtain rfl := Except.ok.inj h
      rw [List.filter_cons, List.filter_cons, ih zs hzs]

/-- A change to the first element of a selection, seen in the selection. -/
theorem filter_modifyFirst_head {found : α → Bool} {g : α → Except Panic α} {a : α}
    {rest : List α} (hg : ∀ x y, g x = .ok y → found y = found x) :
    ∀ (xs ys : List α), xs.filter found = a :: rest → modifyFirst found g xs = .ok ys →
      ∃ a', g a = .ok a' ∧ ys.filter found = a' :: rest := by
  intro xs
  induction xs with
  | nil => intro ys hxs; cases hxs
  | cons x xs ih =>
    intro ys hxs h
    rw [modifyFirst] at h
    split at h
    · rename_i hx
      obtain ⟨y, hy, h⟩ := bind_eq_ok.mp h
      obtain rfl := Except.ok.inj h
      rw [List.filter_cons, if_pos hx] at hxs
      obtain ⟨rfl, hrest⟩ := List.cons.inj hxs
      refine ⟨y, hy, ?_⟩
      rw [List.filter_cons, if_pos ((hg _ _ hy).trans hx), hrest]
    · rename_i hx
      obtain ⟨zs, hzs, h⟩ := bind_eq_ok.mp h
      obtain rfl := Except.ok.inj h
      rw [List.filter_cons, if_neg hx] at hxs
      obtain ⟨a', ha', hfilter⟩ := ih zs hxs hzs
      refine ⟨a', ha', ?_⟩
      rw [List.filter_cons, if_neg hx, hfilter]

/-- A change that keeps the keys of the elements. -/
theorem map_modifyFirst {β : Type} {found : α → Bool} {g : α → Except Panic α} {key : α → β}
    (hg : ∀ x y, g x = .ok y → key y = key x) :
    ∀ (xs ys : List α), modifyFirst found g xs = .ok ys → ys.map key = xs.map key := by
  intro xs
  induction xs with
  | nil => intro ys h; rw [← Except.ok.inj h]
  | cons x xs ih =>
    intro ys h
    rw [modifyFirst] at h
    split at h
    · obtain ⟨y, hy, h⟩ := bind_eq_ok.mp h
      rw [← Except.ok.inj h, List.map_cons, List.map_cons, hg x y hy]
    · obtain ⟨zs, hzs, h⟩ := bind_eq_ok.mp h
      rw [← Except.ok.inj h, List.map_cons, List.map_cons, ih zs hzs]

/-- A change to the only element with its key. -/
theorem modifyFirst_eq_map {β : Type} [DecidableEq β] {f : α → α} {key : α → β} {k : β} :
    ∀ {xs : List α}, (xs.map key).Nodup → k ∈ xs.map key →
      modifyFirst (fun x => decide (key x = k)) (fun x => .ok (f x)) xs =
        .ok (xs.map fun x => if key x = k then f x else x) := by
  intro xs
  induction xs with
  | nil =>
    intro _ hk
    cases hk
  | cons x xs ih =>
    intro hnodup hk
    rw [List.map_cons, List.nodup_cons] at hnodup
    rw [modifyFirst, List.map_cons]
    by_cases hx : key x = k
    · -- no other element has this key
      have hrest : (xs.map fun x => if key x = k then f x else x) = xs.map id :=
        List.map_congr_left fun y hy => if_neg fun hkey => hnodup.1 <| by
          rw [hx, ← hkey]
          exact List.mem_map_of_mem hy
      rw [if_pos (decide_eq_true hx), if_pos hx, hrest, List.map_id, ok_bind, pure_eq_ok]
    · rw [List.map_cons] at hk
      have hk := (List.mem_cons.mp hk).resolve_left fun h => hx h.symm
      rw [if_neg (by simpa using hx), if_neg hx, ih hnodup.2 hk, ok_bind, pure_eq_ok]

/-! ### Keeping a part -/

/-- The last element of a part at the end. -/
theorem getLast?_of_suffix {xs ys : List α} {x : α} (h : xs <:+ ys) (hx : xs.getLast? = some x) :
    ys.getLast? = some x := by
  obtain ⟨front, rfl⟩ := h
  rw [List.getLast?_append, hx]
  rfl

/-- When an element that is kept has only kept ones after it, the kept ones are the last. -/
theorem filter_suffix {keep : α → Bool} {xs : List α}
    (h : xs.Pairwise fun x y => keep x = true → keep y = true) : xs.filter keep <:+ xs := by
  induction xs with
  | nil => exact List.suffix_refl _
  | cons x xs ih =>
    rw [List.pairwise_cons] at h
    by_cases hx : keep x = true
    · have hall : (x :: xs).filter keep = x :: xs :=
        List.filter_eq_self.mpr (List.forall_mem_cons.mpr ⟨hx, fun y hy => h.1 y hy hx⟩)
      exact ⟨[], hall⟩
    · rw [List.filter_cons, if_neg hx]
      exact (ih h.2).trans (List.suffix_cons _ _)

/-- The only element with its key. -/
theorem filter_key_eq_singleton {β : Type} [DecidableEq β] {key : α → β} {x : α} :
    ∀ {xs : List α}, (xs.map key).Nodup → x ∈ xs →
      (xs.filter fun y => decide (key y = key x)) = [x] := by
  intro xs
  induction xs with
  | nil =>
    intro _ hx
    cases hx
  | cons y ys ih =>
    intro hnodup hx
    rw [List.map_cons, List.nodup_cons] at hnodup
    rcases List.mem_cons.mp hx with rfl | hx
    · rw [List.filter_cons, if_pos (decide_eq_true rfl), List.filter_eq_nil_iff.mpr]
      intro z hz hkey
      exact hnodup.1 (of_decide_eq_true hkey ▸ List.mem_map_of_mem hz)
    · have hne : key y ≠ key x := fun hkey => hnodup.1 (hkey ▸ List.mem_map_of_mem hx)
      rw [List.filter_cons, if_neg (by simpa using hne), ih hnodup.2 hx]

/-! ### Loops over all elements -/

/-- A loop that replaces every element, one at a time. -/
theorem mapM_eq_ok {β : Type} {f : α → Except Panic β} : ∀ {xs : List α} {ys : List β},
    xs.mapM f = .ok ys ↔ List.Forall₂ (fun x y => f x = .ok y) xs ys := by
  intro xs
  induction xs with
  | nil =>
    intro ys
    rw [List.mapM_nil, pure_eq_ok, Except.ok.injEq, List.forall₂_nil_left_iff, eq_comm]
  | cons x xs ih =>
    intro ys
    rw [List.mapM_cons]
    constructor
    · intro h
      obtain ⟨y, hy, h⟩ := bind_eq_ok.mp h
      obtain ⟨rest, hrest, h⟩ := bind_eq_ok.mp h
      rw [← Except.ok.inj h]
      exact .cons hy (ih.mp hrest)
    · intro h
      cases h with
      | cons hy hrest =>
        rw [hy, ok_bind, ih.mpr hrest, ok_bind, pure_eq_ok]

/-- Such a loop avoids what its body avoids. -/
theorem mapM_avoids {β : Type} {why : Panic} {f : α → Except Panic β} {xs : List α}
    (h : ∀ x ∈ xs, Avoids why (f x)) : Avoids why (xs.mapM f) := by
  induction xs with
  | nil =>
    rw [List.mapM_nil]
    exact avoids_ok why _
  | cons x xs ih =>
    rw [List.forall_mem_cons] at h
    rw [List.mapM_cons]
    exact h.1.bind fun y _ => (ih h.2).bind fun ys _ => avoids_ok why _

/-- A list read at all its positions. -/
theorem filterMap_range_getElem? (xs : List α) :
    (List.range xs.length).filterMap (xs[·]?) = xs := by
  induction xs using List.reverseRecOn with
  | nil => rfl
  | append_singleton xs x ih =>
    have hfront : (List.range xs.length).filterMap ((xs ++ [x])[·]?) =
        (List.range xs.length).filterMap (xs[·]?) := by
      refine List.filterMap_congr fun i hi => ?_
      exact List.getElem?_append_left (List.mem_range.mp hi)
    rw [List.length_append, List.length_singleton, List.range_succ, List.filterMap_append, hfront, ih]
    simp

/-- A place of a list with one more element. -/
theorem getElem?_concat_eq_some {xs : List α} {x y : α} {i : Nat} :
    (xs ++ [x])[i]? = some y ↔ xs[i]? = some y ∨ i = xs.length ∧ x = y := by
  rcases Nat.lt_trichotomy i xs.length with hlt | rfl | hgt
  · rw [List.getElem?_append_left hlt]
    exact ⟨Or.inl, fun h => h.elim id fun hlast => absurd hlast.1 (Nat.ne_of_lt hlt)⟩
  · rw [List.getElem?_concat_length, List.getElem?_eq_none (Nat.le_refl _)]
    simp
  · rw [List.getElem?_eq_none (by rw [List.length_append, List.length_singleton]; omega),
      List.getElem?_eq_none (Nat.le_of_lt hgt)]
    simp only [reduceCtorEq, false_or, false_iff, not_and]
    intro hi
    omega

end Rust
