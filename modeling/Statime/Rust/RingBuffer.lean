import Mathlib.Data.List.Rotate

/-!
# Ring buffers

A list of slots that is written round and round, so that the entry with number `i` goes to the slot
`i` modulo the number of slots.

* `KeepsLast.set`: a write overwrites the oldest entry.
* `KeepsLast.perm`: the slots written so far hold the last entries, in some order.
-/

namespace Rust

variable {α : Type} {slots xs : List α}

/-- Of all the entries, the last ones are in their slots. -/
def KeepsLast (slots xs : List α) : Prop :=
  ∀ i, i < xs.length → xs.length ≤ i + slots.length → slots[i % slots.length]? = xs[i]?

theorem keepsLast_nil (slots : List α) : KeepsLast slots [] := by
  intro i hi
  cases hi

/-- Two numbers less than a round apart have different slots. -/
theorem slot_ne {i n size : Nat} (hlt : i < n) (hround : n < i + size) : i % size ≠ n % size := by
  intro h
  have hdvd : size ∣ n - i := Nat.dvd_of_mod_eq_zero (Nat.sub_mod_eq_zero_of_mod_eq h.symm)
  have := Nat.le_of_dvd (by omega) hdvd
  omega

/-- **The next entry** goes to the slot of the oldest one. -/
theorem KeepsLast.set (h : KeepsLast slots xs) (hslots : slots ≠ []) (x : α) :
    KeepsLast (slots.set (xs.length % slots.length) x) (xs ++ [x]) := by
  have hpos := List.length_pos_iff.mpr hslots
  intro i hi hround
  rw [List.length_append, List.length_singleton] at hi hround
  rw [List.length_set] at hround ⊢
  rcases Nat.lt_succ_iff_lt_or_eq.mp hi with hlt | rfl
  · rw [List.getElem?_set_ne (slot_ne hlt (by omega)).symm, List.getElem?_append_left hlt]
    exact h i hlt (by omega)
  · rw [List.getElem?_set_self (Nat.mod_lt _ hpos), List.getElem?_concat_length]

/-- Before the first round is over, the entries are in order. -/
theorem KeepsLast.take_eq (h : KeepsLast slots xs) (hle : xs.length ≤ slots.length) :
    slots.take xs.length = xs := by
  refine List.ext_getElem? fun i => ?_
  rcases Nat.lt_or_ge i xs.length with hi | hi
  · rw [List.getElem?_take_of_lt hi, ← h i hi (by omega), Nat.mod_eq_of_lt (hi.trans_le hle)]
  · rw [List.getElem?_eq_none (by rw [List.length_take]; omega), List.getElem?_eq_none hi]

/-- After the first round, they begin at the slot that is written next. -/
theorem KeepsLast.rotate_eq (h : KeepsLast slots xs) (hle : slots.length ≤ xs.length) :
    slots.rotate (xs.length % slots.length) = xs.drop (xs.length - slots.length) := by
  refine List.ext_getElem? fun i => ?_
  rcases Nat.lt_or_ge i slots.length with hi | hi
  · rw [List.getElem?_rotate hi, List.getElem?_drop,
      ← h (xs.length - slots.length + i) (by omega) (by omega)]
    -- one round further is the same slot
    have hround : xs.length - slots.length + i + slots.length = i + xs.length := by omega
    rw [Nat.add_mod_mod, ← Nat.add_mod_right (xs.length - slots.length + i), hround]
  · rw [List.getElem?_eq_none (by rwa [List.length_rotate]),
      List.getElem?_eq_none (by rw [List.length_drop]; omega)]

/-- **The slots written so far hold the last entries.** -/
theorem KeepsLast.perm (h : KeepsLast slots xs) :
    (slots.take xs.length).Perm (xs.drop (xs.length - slots.length)) := by
  rcases Nat.le_total xs.length slots.length with hle | hle
  · rw [h.take_eq hle, Nat.sub_eq_zero_of_le hle, List.drop_zero]
  · rw [List.take_of_length_le hle, ← h.rotate_eq hle]
    exact (List.rotate_perm slots _).symm

end Rust
