import Mathlib.Order.Basic

/-!
# Elections by rank

Each participant knows its own rank and hears the rank that each other one announces; the least one
is best.  A participant leads when its own rank is below all announced ones, and else follows the
best one that it hears of.  What is announced may be better than what is meant, and then two
participants may each follow the other one.

* `leads_iff`: who leads.
* `elected_iff`: when all of them agree on one leader.
-/

namespace Election

variable {ι α : Type} [Preorder α] {own announced : ι → α} {best : ι → ι}

/-- Each participant knows the best one among the others. -/
structure Heard (announced : ι → α) (best : ι → ι) : Prop where
  ne : ∀ j, best j ≠ j
  le : ∀ j k, k ≠ j → announced (best j) ≤ announced k

/-- The participant is better than what it hears. -/
def Leads (own announced : ι → α) (best : ι → ι) (j : ι) : Prop := own j < announced (best j)

theorem leads_iff (h : Heard announced best) {j : ι} :
    Leads own announced best j ↔ ∀ k, k ≠ j → own j < announced k :=
  ⟨fun hleads k hk => lt_of_lt_of_le hleads (h.le j k hk), fun hall => hall (best j) (h.ne j)⟩

/-- One participant leads, and each other one follows it. -/
def Elected (own announced : ι → α) (best : ι → ι) (leader : ι) : Prop :=
  Leads own announced best leader ∧
    ∀ j, j ≠ leader → ¬ Leads own announced best j ∧ best j = leader

/-- **An election**: who is better than anything that is announced is followed by all others. -/
theorem elected_iff (h : Heard announced best) (hle : ∀ i, announced i ≤ own i) {leader : ι} :
    Elected own announced best leader ↔ ∀ k, k ≠ leader → own leader < announced k := by
  constructor
  · rintro ⟨hleads, -⟩
    exact (leads_iff h).mp hleads
  · intro hall
    refine ⟨(leads_iff h).mpr hall, fun j hj => ?_⟩
    -- nothing else that `j` hears is as good as the leader
    have hbest : best j = leader := by
      by_contra hne
      have hheard : announced (best j) ≤ announced leader := h.le j leader (Ne.symm hj)
      have hbelow : announced leader < announced (best j) :=
        lt_of_le_of_lt (hle leader) (hall (best j) hne)
      exact absurd hheard (not_le_of_gt hbelow)
    refine ⟨fun hleads => ?_, hbest⟩
    have hown : own j < announced leader := (leads_iff h).mp hleads leader (Ne.symm hj)
    have hcircle : own leader < own leader :=
      calc own leader < announced j := hall j hj
        _ ≤ own j := hle j
        _ < announced leader := hown
        _ ≤ own leader := hle leader
    exact lt_irrefl _ hcircle

end Election
