import Mathlib.Logic.Basic

/-!
# Panics

A function of the modelled program either returns a value or panics.  The
model writes it in `Except Panic`, and `panics` are never caught: an
`Except.error` ends the run.

Some checks are compiled in only when debug assertions are on.  `Profile` says
which build is meant; `overflow` and `debugAssert` are the two checks that look
at it.  In a release build `overflow` lets the wrapped value through, and
`debugAssert` does nothing.
-/

namespace Rust

/-- The build profile: with or without debug assertions and overflow checks. -/
inductive Profile
  | debug
  | release
  deriving DecidableEq, Repr

/-- Why a call did not return. -/
inductive Panic
  | overflow
  | debugAssert
  | assert
  | unwrap
  | unreachable
  | index
  | capacity
  | divideByZero
  | range
  deriving DecidableEq, Repr

/-- Arithmetic with an overflow check: `v` is the wrapped result and `bad` says
that it is not the mathematical one. -/
def overflow {α : Type} (p : Profile) (bad : Bool) (v : α) : Except Panic α :=
  if p = .debug ∧ bad then .error .overflow else .ok v

/-- `debug_assert!`. -/
def debugAssert (p : Profile) (holds : Bool) : Except Panic Unit :=
  if p = .debug ∧ holds = false then .error .debugAssert else .ok ()

/-- `assert!`. -/
def assert (holds : Bool) : Except Panic Unit :=
  if holds then .ok () else .error .assert

/-! ### Taking a computation apart -/

@[simp] theorem ok_bind {ε α β : Type} (a : α) (f : α → Except ε β) :
    ((Except.ok a : Except ε α) >>= f) = f a := rfl

@[simp] theorem error_bind {ε α β : Type} (e : ε) (f : α → Except ε β) :
    ((Except.error e : Except ε α) >>= f) = .error e := rfl

@[simp] theorem pure_eq_ok {ε α : Type} (a : α) : (pure a : Except ε α) = .ok a := rfl

/-- A sequence returns when both halves do. -/
theorem bind_eq_ok {ε α β : Type} {first : Except ε α} {next : α → Except ε β} {r : β} :
    (first >>= next) = .ok r ↔ ∃ mid, first = .ok mid ∧ next mid = .ok r := by
  cases first <;> simp

/-- A sequence panics when its first half does, or its second half after the first returned. -/
theorem bind_eq_error {ε α β : Type} {first : Except ε α} {next : α → Except ε β} {e : ε} :
    (first >>= next) = .error e ↔
      first = .error e ∨ ∃ mid, first = .ok mid ∧ next mid = .error e := by
  cases first <;> simp

/-! ### The two checked operations -/

theorem overflow_eq_ok {α : Type} {p : Profile} {bad : Bool} {v r : α} :
    overflow p bad v = .ok r ↔ (p = .debug → bad = false) ∧ v = r := by
  unfold overflow
  split
  · rename_i h
    simp [h.1, h.2]
  · rename_i h
    cases p <;> cases bad <;> simp_all

@[simp] theorem overflow_false {α : Type} (p : Profile) (v : α) :
    overflow p false v = .ok v := by
  simp [overflow]

theorem debugAssert_eq_ok {p : Profile} {holds : Bool} {u : Unit} :
    debugAssert p holds = .ok u ↔ (p = .debug → holds = true) := by
  unfold debugAssert
  cases p <;> cases holds <;> simp

@[simp] theorem debugAssert_true (p : Profile) : debugAssert p true = .ok () := by
  simp [debugAssert]

@[simp] theorem debugAssert_release (holds : Bool) : debugAssert .release holds = .ok () := by
  simp [debugAssert]

/-! ### Two computations -/

/-- Whatever the first one returns, the second one returns something related. -/
def Matches {ε α β : Type} (R : α → β → Prop) (x : Except ε α) (y : Except ε β) : Prop :=
  ∀ a, x = .ok a → ∃ b, y = .ok b ∧ R a b

theorem matches_ok {ε α β : Type} {R : α → β → Prop} {a : α} {b : β} (h : R a b) :
    Matches R (.ok a : Except ε α) (.ok b) := by
  rintro _ heq
  obtain rfl := Except.ok.inj heq
  exact ⟨b, rfl, h⟩

theorem Matches.bind {ε α β α' β' : Type} {R : α → β → Prop} {R' : α' → β' → Prop}
    {x : Except ε α} {y : Except ε β} {f : α → Except ε α'} {g : β → Except ε β'}
    (h : Matches R x y) (hnext : ∀ a b, R a b → Matches R' (f a) (g b)) :
    Matches R' (x >>= f) (y >>= g) := by
  intro r hr
  obtain ⟨a, ha, hr⟩ := bind_eq_ok.mp hr
  obtain ⟨b, rfl, hab⟩ := h a ha
  exact hnext a b hab r hr

/-- They begin with the same computation, and what it returns is known. -/
theorem matches_bind_ok {ε α α' β' : Type} {R' : α' → β' → Prop} (x : Except ε α)
    {f : α → Except ε α'} {g : α → Except ε β'}
    (hnext : ∀ a, x = .ok a → Matches R' (f a) (g a)) : Matches R' (x >>= f) (x >>= g) := by
  intro r hr
  obtain ⟨a, rfl, hr⟩ := bind_eq_ok.mp hr
  exact hnext a rfl r hr

/-- They begin with the same computation. -/
theorem matches_bind {ε α α' β' : Type} {R' : α' → β' → Prop} (x : Except ε α)
    {f : α → Except ε α'} {g : α → Except ε β'} (hnext : ∀ a, Matches R' (f a) (g a)) :
    Matches R' (x >>= f) (x >>= g) := matches_bind_ok x fun a _ => hnext a

theorem exists_of_isOk {ε α : Type} {x : Except ε α} (h : x.isOk = true) : ∃ a, x = .ok a := by
  cases x with
  | ok a => exact ⟨a, rfl⟩
  | error why => cases h

theorem eq_ok_of_toOption {ε α : Type} {x : Except ε α} {a : α} (h : x.toOption = some a) :
    x = .ok a := by
  cases x with
  | ok b => exact congrArg _ (Option.some.inj h)
  | error why => cases h

/-! ### Builds -/

/-- What a debug build returns, every build returns. -/
def SameInDebug {α : Type} (x : Profile → Except Panic α) : Prop :=
  ∀ r, x .debug = .ok r → ∀ p, x p = .ok r

theorem sameInDebug_const {α : Type} (x : Except Panic α) : SameInDebug fun _ => x :=
  fun _ h _ => h

theorem SameInDebug.bind {α β : Type} {first : Profile → Except Panic α}
    {next : Profile → α → Except Panic β} (hfirst : SameInDebug first)
    (hnext : ∀ mid, SameInDebug fun p => next p mid) :
    SameInDebug fun p => first p >>= next p := by
  intro r h p
  obtain ⟨mid, hmid, hr⟩ := bind_eq_ok.mp h
  exact bind_eq_ok.mpr ⟨mid, hfirst mid hmid p, hnext mid r hr p⟩

theorem sameInDebug_overflow {α : Type} (bad : Bool) (v : α) :
    SameInDebug fun p => overflow p bad v := by
  intro r h p
  obtain ⟨hbad, rfl⟩ := overflow_eq_ok.mp h
  change overflow p bad v = .ok v
  rw [hbad rfl, overflow_false]

/-! ### Panics that a computation does not raise -/

/-- The computation does not end in this panic. -/
def Avoids {α : Type} (why : Panic) (x : Except Panic α) : Prop := x ≠ .error why

theorem avoids_ok {α : Type} (why : Panic) (a : α) : Avoids why (.ok a : Except Panic α) := by
  intro h
  cases h

/-- A sequence avoids what both halves avoid. -/
theorem Avoids.bind {α β : Type} {why : Panic} {first : Except Panic α}
    {next : α → Except Panic β} (hfirst : Avoids why first)
    (hnext : ∀ mid, first = .ok mid → Avoids why (next mid)) : Avoids why (first >>= next) := by
  intro h
  rcases bind_eq_error.mp h with herror | ⟨mid, hmid, herror⟩
  · exact hfirst herror
  · exact hnext mid hmid herror

theorem avoids_overflow {α : Type} {why : Panic} (hwhy : why ≠ .overflow) (p : Profile) (bad : Bool)
    (v : α) : Avoids why (overflow p bad v) := by
  unfold overflow
  split
  · intro h
    exact hwhy (Except.error.inj h).symm
  · exact avoids_ok why v

theorem avoids_debugAssert {why : Panic} {p : Profile} {holds : Bool}
    (h : p = .debug → holds = true) : Avoids why (debugAssert p holds) := by
  rw [debugAssert_eq_ok (u := ()) |>.mpr h]
  exact avoids_ok why ()

/-- The computation does not end in this panic, and what it returns has the property. -/
structure Ensures {α : Type} (why : Panic) (x : Except Panic α) (Q : α → Prop) : Prop where
  avoids : Avoids why x
  returns : ∀ a, x = .ok a → Q a

theorem ensures_ok {α : Type} {why : Panic} {a : α} {Q : α → Prop} (h : Q a) :
    Ensures why (.ok a : Except Panic α) Q :=
  ⟨avoids_ok why a, fun _ hb => Except.ok.inj hb ▸ h⟩

/-- **The sequencing rule.** -/
theorem Ensures.bind {α β : Type} {why : Panic} {first : Except Panic α}
    {next : α → Except Panic β} {Q : α → Prop} {R : β → Prop} (hfirst : Ensures why first Q)
    (hnext : ∀ mid, first = .ok mid → Q mid → Ensures why (next mid) R) :
    Ensures why (first >>= next) R := by
  constructor
  · exact hfirst.avoids.bind fun mid hmid => (hnext mid hmid (hfirst.returns mid hmid)).avoids
  · intro r hr
    obtain ⟨mid, hmid, hr⟩ := bind_eq_ok.mp hr
    exact (hnext mid hmid (hfirst.returns mid hmid)).returns r hr

/-- A first half of which nothing is needed. -/
theorem Avoids.bind_ensures {α β : Type} {why : Panic} {first : Except Panic α}
    {next : α → Except Panic β} {R : β → Prop} (hfirst : Avoids why first)
    (hnext : ∀ mid, first = .ok mid → Ensures why (next mid) R) :
    Ensures why (first >>= next) R :=
  Ensures.bind (Q := fun _ => True) ⟨hfirst, fun _ _ => trivial⟩ fun mid hmid _ => hnext mid hmid

/-! ### Computations that can only overflow -/

/-- The computation returns, or a debug build finds an overflow. -/
def OnlyOverflows {α : Type} (p : Profile) (x : Except Panic α) : Prop :=
  (∃ a, x = .ok a) ∨ p = .debug ∧ x = .error .overflow

theorem onlyOverflows_ok {α : Type} (p : Profile) (a : α) :
    OnlyOverflows p (.ok a : Except Panic α) := Or.inl ⟨a, rfl⟩

theorem onlyOverflows_overflow {α : Type} (p : Profile) (bad : Bool) (v : α) :
    OnlyOverflows p (overflow p bad v) := by
  unfold overflow
  split
  · rename_i h
    exact Or.inr ⟨h.1, rfl⟩
  · exact onlyOverflows_ok p v

theorem OnlyOverflows.bind {α β : Type} {p : Profile} {first : Except Panic α}
    {next : α → Except Panic β} (hfirst : OnlyOverflows p first)
    (hnext : ∀ mid, first = .ok mid → OnlyOverflows p (next mid)) :
    OnlyOverflows p (first >>= next) := by
  rcases hfirst with ⟨mid, rfl⟩ | ⟨hp, rfl⟩
  · exact hnext mid rfl
  · exact Or.inr ⟨hp, rfl⟩

theorem OnlyOverflows.of_map {α β : Type} {p : Profile} {x : Except Panic α} (f : α → β)
    (h : OnlyOverflows p (x.map f)) : OnlyOverflows p x := by
  cases x with
  | ok a => exact onlyOverflows_ok p a
  | error why =>
    rcases h with ⟨b, hb⟩ | ⟨hp, herror⟩
    · cases hb
    · exact Or.inr ⟨hp, congrArg Except.error (Except.error.inj herror)⟩

/-- It raises nothing else. -/
theorem OnlyOverflows.avoids {α : Type} {p : Profile} {x : Except Panic α} {why : Panic}
    (h : OnlyOverflows p x) (hwhy : why ≠ .overflow) : Avoids why x := by
  rcases h with ⟨a, rfl⟩ | ⟨-, rfl⟩
  · exact avoids_ok why a
  · intro heq
    exact hwhy (Except.error.inj heq).symm

/-- Two of them can be made in either order. -/
theorem OnlyOverflows.bind_comm {α β γ : Type} {p : Profile} {x : Except Panic α}
    {y : Except Panic β} (hx : OnlyOverflows p x) (hy : OnlyOverflows p y)
    (next : α → β → Except Panic γ) :
    (do let a ← x; let b ← y; next a b) = (do let b ← y; let a ← x; next a b) := by
  rcases hx with ⟨a, rfl⟩ | ⟨-, rfl⟩
  · rfl
  · rcases hy with ⟨b, rfl⟩ | ⟨-, rfl⟩ <;> rfl

/-- Whether the computation ends in this error. -/
def raises {ε α : Type} [DecidableEq ε] (why : ε) : Except ε α → Bool
  | .error e => decide (e = why)
  | .ok _ => false

theorem eq_error_of_raises {ε α : Type} [DecidableEq ε] {why : ε} {x : Except ε α}
    (h : raises why x = true) : x = .error why := by
  cases x with
  | error e => rw [of_decide_eq_true h]
  | ok a => cases h

@[simp] theorem assert_true : assert true = .ok () := rfl

@[simp] theorem assert_false : assert false = .error .assert := rfl

end Rust
