import Statime.Rust.Bytes
import Statime.Rust.Iter

/-!
# Comparisons

What `cmp` of unsigned integers and byte arrays has to do with numbers, and what `max_by` finds.

* `compare_ofBE`: bytes are compared as the number that they are.
* `maxBy_eq_of_beats`: an element that beats every other one is found, wherever it stands.
* `maxBy_isLE`: a comparison of keys finds an element with the least one.
* `exists_maxBy`: `max_by` returns when the comparisons do.
-/

namespace Rust

/-! ### Numbers made of digits -/

theorem compare_toNat_uint8 (x y : UInt8) : compare x.toNat y.toNat = compare x y := by
  rw [Nat.compare_eq_ite_lt]
  show _ = compareOfLessAndEq x y
  simp only [compareOfLessAndEq, UInt8.lt_iff_toNat_lt, ← UInt8.toNat_inj]
  split_ifs <;> first | rfl | omega

theorem compare_toNat_uint16 (x y : UInt16) : compare x.toNat y.toNat = compare x y := by
  rw [Nat.compare_eq_ite_lt]
  show _ = compareOfLessAndEq x y
  simp only [compareOfLessAndEq, UInt16.lt_iff_toNat_lt, ← UInt16.toNat_inj]
  split_ifs <;> first | rfl | omega

theorem compare_natCast (x y : Nat) : compare (x : Int) (y : Int) = compare x y := by
  rw [Nat.compare_eq_ite_lt]
  show compareOfLessAndEq (x : Int) (y : Int) = _
  simp only [compareOfLessAndEq, Int.ofNat_lt, Int.ofNat_inj]
  split_ifs <;> first | rfl | omega

/-- The front decides, then the last digit. -/
theorem compare_mul_add {a b x y n : Nat} (hx : x < n) (hy : y < n) :
    compare (a * n + x) (b * n + y) = (compare a b).then (compare x y) := by
  rcases Nat.lt_trichotomy a b with hlt | rfl | hgt
  · have hnext : (a + 1) * n ≤ b * n := Nat.mul_le_mul_right n hlt
    rw [Nat.add_mul, Nat.one_mul] at hnext
    rw [Nat.compare_eq_lt.mpr hlt, Nat.compare_eq_lt.mpr (by omega)]
    rfl
  · rw [Nat.compare_eq_eq.mpr rfl, Ordering.eq_then]
    rcases Nat.lt_trichotomy x y with hlt | rfl | hgt
    · rw [Nat.compare_eq_lt.mpr hlt, Nat.compare_eq_lt.mpr (by omega)]
    · rw [Nat.compare_eq_eq.mpr rfl, Nat.compare_eq_eq.mpr rfl]
    · rw [Nat.compare_eq_gt.mpr hgt, Nat.compare_eq_gt.mpr (by omega)]
  · have hnext : (b + 1) * n ≤ a * n := Nat.mul_le_mul_right n hgt
    rw [Nat.add_mul, Nat.one_mul] at hnext
    rw [Nat.compare_eq_gt.mpr hgt, Nat.compare_eq_gt.mpr (by omega)]
    rfl

theorem compare_ofBE_cons {x y : UInt8} {xs ys : List UInt8} (h : xs.length = ys.length) :
    compare (ofBE (x :: xs)) (ofBE (y :: ys)) =
      (compare x y).then (compare (ofBE xs) (ofBE ys)) := by
  have hxs := ofBE_lt xs
  have hys := ofBE_lt ys
  rw [← h] at hys
  rw [ofBE_cons, ofBE_cons, ← h, compare_mul_add hxs hys, compare_toNat_uint8]

theorem compare_ofBE_append : ∀ {xs ys xs' ys' : List UInt8}, xs.length = ys.length →
    xs'.length = ys'.length → compare (ofBE (xs ++ xs')) (ofBE (ys ++ ys')) =
      (compare (ofBE xs) (ofBE ys)).then (compare (ofBE xs') (ofBE ys')) := by
  intro xs
  induction xs with
  | nil =>
    intro ys xs' ys' h _
    rw [List.length_eq_zero_iff.mp h.symm]
    rfl
  | cons x xs ih =>
    intro ys xs' ys' h h'
    cases ys with
    | nil => cases h
    | cons y ys =>
      have hlength : xs.length = ys.length := Nat.succ.inj h
      have happend : (xs ++ xs').length = (ys ++ ys').length := by
        rw [List.length_append, List.length_append, hlength, h']
      rw [List.cons_append, List.cons_append, compare_ofBE_cons happend, ih hlength h',
        compare_ofBE_cons hlength, Ordering.then_assoc]

/-- **Bytes are compared as the number that they are.** -/
theorem compare_ofBE : ∀ {xs ys : List UInt8}, xs.length = ys.length →
    compare (ofBE xs) (ofBE ys) = compare xs ys := by
  intro xs
  induction xs with
  | nil =>
    intro ys h
    rw [List.length_eq_zero_iff.mp h.symm]
    rfl
  | cons x xs ih =>
    intro ys h
    cases ys with
    | nil => cases h
    | cons y ys =>
      have hlength : xs.length = ys.length := Nat.succ.inj h
      rw [compare_ofBE_cons hlength, ih hlength, List.compare_cons_cons]

theorem compare_ofBE_uint16 (x y : UInt16) :
    compare (ofBE (toBE 2 x.toNat)) (ofBE (toBE 2 y.toNat)) = compare x y := by
  have hx : x.toNat < 256 ^ 2 := x.toNat_lt
  have hy : y.toNat < 256 ^ 2 := y.toNat_lt
  rw [ofBE_toBE_of_lt hx, ofBE_toBE_of_lt hy, compare_toNat_uint16]

/-! ### The greatest element -/

variable {α : Type} {cmp : α → α → Except Panic Ordering}

/-- The first two elements are compared, and the better one stays. -/
theorem maxBy_cons_cons (x y : α) (ys : List α) :
    maxBy cmp (x :: y :: ys) =
      (cmp x y >>= fun o => maxBy cmp ((if o = .gt then x else y) :: ys)) := by
  cases ho : cmp x y with
  | error why => simp only [maxBy, List.foldlM_cons, ho, error_bind]
  | ok o =>
    simp only [maxBy, List.foldlM_cons, ho, ok_bind]
    cases o <;> rfl

/-- The better one of the first two elements, and the others. -/
theorem mem_of_mem_kept {o : Ordering} {x y z : α} {ys : List α}
    (h : z ∈ (if o = .gt then x else y) :: ys) : z ∈ x :: y :: ys := by
  rcases List.mem_cons.mp h with rfl | hys
  · split
    · exact List.mem_cons_self
    · exact List.mem_cons_of_mem _ List.mem_cons_self
  · exact List.mem_cons_of_mem _ (List.mem_cons_of_mem _ hys)

/-- **An element that beats every other one is found**, wherever it stands. -/
theorem maxBy_eq_of_beats {w : α} {xs : List α} {r : Option α}
    (hswap : ∀ x, cmp w x = .ok .gt → cmp x w ≠ .ok .gt) (hmem : w ∈ xs)
    (hbeats : ∀ x ∈ xs, x ≠ w → cmp w x = .ok .gt) (h : maxBy cmp xs = .ok r) : r = some w := by
  cases xs with
  | nil => cases hmem
  | cons x ys =>
    induction ys generalizing x with
    | nil =>
      rw [List.mem_singleton.mp hmem]
      exact (Except.ok.inj h).symm
    | cons y ys ih =>
      rw [maxBy_cons_cons] at h
      obtain ⟨o, ho, h⟩ := bind_eq_ok.mp h
      refine ih _ ?_ (fun z hz => hbeats z (mem_of_mem_kept hz)) h
      -- the winner is not the one that is dropped
      rw [List.mem_cons, List.mem_cons] at hmem
      rw [List.mem_cons]
      split
      · rename_i hgt
        by_cases hx : x = w
        · exact Or.inl hx.symm
        · rcases hmem with rfl | rfl | hmem
          · exact absurd rfl hx
          · have hwon := hbeats x List.mem_cons_self hx
            exact absurd (hgt ▸ ho) (hswap x hwon)
          · exact Or.inr hmem
      · rename_i hle
        by_cases hy : y = w
        · exact Or.inl hy.symm
        · rcases hmem with rfl | rfl | hmem
          · have hwon := hbeats y (List.mem_cons_of_mem _ List.mem_cons_self) hy
            exact absurd (Except.ok.inj (ho.symm.trans hwon)) hle
          · exact absurd rfl hy
          · exact Or.inr hmem

/-- **The comparison is one of keys, the other way round**: the greatest element has the least key. -/
theorem maxBy_isLE {κ : Type} [Ord κ] [Std.TransOrd κ] {key : α → κ} {xs : List α} {r : α}
    (hcmp : ∀ x ∈ xs, ∀ y ∈ xs, cmp x y = .ok (compare (key y) (key x)))
    (h : maxBy cmp xs = .ok (some r)) : ∀ x ∈ xs, (compare (key r) (key x)).isLE = true := by
  cases xs with
  | nil => cases h
  | cons x ys =>
    induction ys generalizing x with
    | nil =>
      obtain rfl := Option.some.inj (Except.ok.inj h)
      intro z hz
      rw [List.mem_singleton.mp hz]
      exact Std.ReflCmp.isLE_rfl
    | cons y ys ih =>
      have hmemy : y ∈ x :: y :: ys := List.mem_cons_of_mem _ List.mem_cons_self
      rw [maxBy_cons_cons, hcmp x List.mem_cons_self y hmemy, ok_bind] at h
      have hrest := ih _
        (fun u hu v hv => hcmp u (mem_of_mem_kept hu) v (mem_of_mem_kept hv)) h
      have hkept := hrest _ List.mem_cons_self
      -- the one that is kept has the smaller key of the two
      have hboth : (compare (key r) (key x)).isLE = true ∧ (compare (key r) (key y)).isLE = true := by
        split at hkept
        · rename_i hgt
          have hle : (compare (key x) (key y)).isLE = true := by
            have hswap : compare (key x) (key y) = (compare (key y) (key x)).swap :=
              Std.OrientedCmp.eq_swap
            rw [hswap, hgt]
            rfl
          exact ⟨hkept, Std.TransCmp.isLE_trans hkept hle⟩
        · rename_i hngt
          have hle : (compare (key y) (key x)).isLE = true :=
            Ordering.isLE_iff_ne_gt.mpr hngt
          exact ⟨Std.TransCmp.isLE_trans hkept hle, hkept⟩
      intro z hz
      rcases List.mem_cons.mp hz with rfl | hz
      · exact hboth.1
      · rcases List.mem_cons.mp hz with rfl | hz
        · exact hboth.2
        · exact hrest z (List.mem_cons_of_mem _ hz)

/-- `max_by` returns when the comparisons do. -/
theorem exists_maxBy {xs : List α} (h : ∀ x ∈ xs, ∀ y ∈ xs, ∃ o, cmp x y = .ok o) :
    ∃ r, maxBy cmp xs = .ok r := by
  cases xs with
  | nil => exact ⟨none, rfl⟩
  | cons x ys =>
    induction ys generalizing x with
    | nil => exact ⟨some x, rfl⟩
    | cons y ys ih =>
      obtain ⟨o, ho⟩ := h x List.mem_cons_self y (List.mem_cons_of_mem _ List.mem_cons_self)
      rw [maxBy_cons_cons, ho, ok_bind]
      exact ih _ fun u hu v hv => h u (mem_of_mem_kept hu) v (mem_of_mem_kept hv)

end Rust
