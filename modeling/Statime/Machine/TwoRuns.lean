import Statime.Machine.Run

/-!
# Two runs of a machine

* `Lockstep.run`: a relation that one step of both machines keeps is kept by a run.
* `Unwinding.run`: two runs with the same low events end in related states, when low steps keep the
  relation and the other steps cannot be seen through it.
-/

namespace Machine

open Rust

variable {S E O ε : Type} {step : S → E → Except ε (S × O)}

/-! ### Lockstep -/

/-- The second run makes the steps that the first one makes, with the same outputs. -/
def Lockstep (step : S → E → Except ε (S × O)) (r : S → S → Prop) : Prop :=
  ∀ s t e s' o, r s t → step s e = .ok (s', o) → ∃ t', step t e = .ok (t', o) ∧ r s' t'

/-- **Whole runs in lockstep.** -/
theorem Lockstep.run {r : S → S → Prop} (h : Lockstep step r) :
    ∀ (es : List E) {s t s' : S} {os : List O}, r s t → Machine.run step s es = .ok (s', os) →
      ∃ t', Machine.run step t es = .ok (t', os) ∧ r s' t' := by
  intro es
  induction es with
  | nil =>
    intro s t s' os hr hs
    obtain ⟨rfl, rfl⟩ := Prod.mk.inj (Except.ok.inj hs)
    exact ⟨t, rfl, hr⟩
  | cons e es ih =>
    intro s t s' os hr hs
    obtain ⟨s₁, o, os₁, hs₁, hrest, rfl⟩ := run_cons_eq_ok.mp hs
    obtain ⟨t₁, ht₁, hr₁⟩ := h _ _ _ _ _ hr hs₁
    obtain ⟨t', ht', hr'⟩ := ih hr₁ hrest
    exact ⟨t', run_cons_eq_ok.mpr ⟨t₁, o, os₁, ht₁, ht', rfl⟩, hr'⟩

/-! ### Unwinding -/

/-- Low steps of two related states lead to related states, and the other steps do not leave the
relation. -/
structure Unwinding (step : S → E → Except ε (S × O)) (r : S → S → Prop) (low : E → Bool) : Prop where
  both : ∀ s t e s' t' o o', r s t → low e = true → step s e = .ok (s', o) →
    step t e = .ok (t', o') → r s' t'
  left : ∀ s t e s' o, r s t → low e = false → step s e = .ok (s', o) → r s' t
  right : ∀ s t e t' o, r s t → low e = false → step t e = .ok (t', o) → r s t'

variable {r : S → S → Prop} {low : E → Bool}

theorem Unwinding.run_right (h : Unwinding step r low) :
    ∀ (es : List E) {s t t' : S} {os : List O}, r s t → es.filter low = [] →
      run step t es = .ok (t', os) → r s t' := by
  intro es
  induction es with
  | nil =>
    intro s t t' os hr _ ht
    obtain ⟨rfl, -⟩ := Prod.mk.inj (Except.ok.inj ht)
    exact hr
  | cons e es ih =>
    intro s t t' os hr hlow ht
    obtain ⟨t₁, o, os', h₁, h₂, -⟩ := run_cons_eq_ok.mp ht
    rw [List.filter_eq_nil_iff, List.forall_mem_cons] at hlow
    exact ih (h.right _ _ _ _ _ hr (Bool.eq_false_iff.mpr hlow.1) h₁)
      (List.filter_eq_nil_iff.mpr hlow.2) h₂

/-- **Two runs with the same low events** lead from related states to related states. -/
theorem Unwinding.run (h : Unwinding step r low) :
    ∀ (es es' : List E) {s t s' t' : S} {os os' : List O}, r s t →
      es.filter low = es'.filter low → Machine.run step s es = .ok (s', os) →
      Machine.run step t es' = .ok (t', os') → r s' t' := by
  intro es
  induction es with
  | nil =>
    intro es' s t s' t' os os' hr hsame hs ht
    obtain ⟨rfl, -⟩ := Prod.mk.inj (Except.ok.inj hs)
    exact h.run_right es' hr hsame.symm ht
  | cons e es ih =>
    intro es' s t s' t' os os' hr hsame hs ht
    obtain ⟨s₁, o, os₁, hs₁, hs, -⟩ := run_cons_eq_ok.mp hs
    cases hlow : low e with
    | false =>
      rw [List.filter_cons_of_neg (by rw [hlow]; exact Bool.false_ne_true)] at hsame
      exact ih es' (h.left _ _ _ _ _ hr hlow hs₁) hsame hs ht
    | true =>
      rw [List.filter_cons_of_pos hlow] at hsame
      -- the other run makes some more steps before this one
      induction es' generalizing t os' with
      | nil => cases hsame
      | cons e' es' ih' =>
        obtain ⟨t₁, o', os₁', ht₁, hrest, -⟩ := run_cons_eq_ok.mp ht
        cases hlow' : low e' with
        | false =>
          rw [List.filter_cons_of_neg (by rw [hlow']; exact Bool.false_ne_true)] at hsame
          exact ih' (h.right _ _ _ _ _ hr hlow' ht₁) hsame hrest
        | true =>
          rw [List.filter_cons_of_pos hlow'] at hsame
          obtain ⟨rfl, htail⟩ := List.cons.inj hsame
          exact ih es' (h.both _ _ _ _ _ _ _ hr hlow hs₁ ht₁) htail hs hrest

end Machine
