import Statime.Rust.Panic

/-!
# Runs of a machine

A machine is a step function: a state and an event give the next state and an output, or the
machine stops.  `run` feeds it a list of events; a state is `Reachable` when some steps lead to
it from an initial one.

* `Reachable.invariant`: what holds initially and is kept by every step holds in every reachable
  state.
* `Reachable.run`, `Reachable.exists_run`: the reachable states are where runs lead to.
* `Reachable.of_endsWith`: a run that was evaluated gives a reachable state.
* `Trace`: a run together with the steps that it made; `Trace.strong_induction` is induction on them.
* `Since`: an event came while a condition held, and it has held from then on.
* `runOriginal_eq`: events that do not change the state can be left out of a run.
-/

namespace Machine

open Rust

variable {S E O ε : Type}

/-- The state after the events, and their outputs. -/
def run (step : S → E → Except ε (S × O)) : S → List E → Except ε (S × List O)
  | s, [] => .ok (s, [])
  | s, e :: es => do
    let (s, o) ← step s e
    let (s, os) ← run step s es
    return (s, o :: os)

/-- The states that some events lead to. -/
inductive Reachable (step : S → E → Except ε (S × O)) (init : S → Prop) : S → Prop
  | init {s : S} : init s → Reachable step init s
  | step {s s' : S} {e : E} {o : O} :
      Reachable step init s → step s e = .ok (s', o) → Reachable step init s'

variable {step : S → E → Except ε (S × O)} {init : S → Prop}

/-- **The invariant rule.** -/
theorem Reachable.invariant {P : S → Prop} (hinit : ∀ s, init s → P s)
    (hstep : ∀ s e s' o, P s → step s e = .ok (s', o) → P s') {s : S}
    (h : Reachable step init s) : P s := by
  induction h with
  | init hs => exact hinit _ hs
  | step _ he ih => exact hstep _ _ _ _ ih he

/-- A run, one step at a time. -/
theorem run_cons_eq_ok {s s' : S} {e : E} {es : List E} {os : List O} :
    run step s (e :: es) = .ok (s', os) ↔
      ∃ s₁ o os', step s e = .ok (s₁, o) ∧ run step s₁ es = .ok (s', os') ∧ os = o :: os' := by
  constructor
  · intro h
    obtain ⟨⟨s₁, o⟩, h₁, h⟩ := bind_eq_ok.mp h
    obtain ⟨⟨s₂, os'⟩, h₂, h⟩ := bind_eq_ok.mp h
    obtain ⟨rfl, rfl⟩ := Prod.mk.inj (Except.ok.inj h)
    exact ⟨s₁, o, os', h₁, h₂, rfl⟩
  · rintro ⟨s₁, o, os', h₁, h₂, rfl⟩
    simp only [run, h₁, ok_bind, h₂, pure_eq_ok]

/-- One run after the other. -/
theorem run_append {s s₁ s' : S} {es es' : List E} {os os' : List O}
    (h : run step s es = .ok (s₁, os)) (h' : run step s₁ es' = .ok (s', os')) :
    run step s (es ++ es') = .ok (s', os ++ os') := by
  induction es generalizing s os with
  | nil =>
    obtain ⟨rfl, rfl⟩ := Prod.mk.inj (Except.ok.inj h)
    exact h'
  | cons e es ih =>
    obtain ⟨s₂, o, os₂, hfirst, hrest, rfl⟩ := run_cons_eq_ok.mp h
    exact run_cons_eq_ok.mpr ⟨s₂, o, os₂ ++ os', hfirst, ih hrest, rfl⟩

/-- Where a run leads to is reachable. -/
theorem Reachable.run : ∀ (es : List E) {s s' : S} {os : List O}, Reachable step init s →
    run step s es = .ok (s', os) → Reachable step init s' := by
  intro es
  induction es with
  | nil =>
    intro s s' os hs h
    obtain ⟨rfl, -⟩ := Prod.mk.inj (Except.ok.inj h)
    exact hs
  | cons e es ih =>
    intro s s' os hs h
    obtain ⟨s₁, o, os', h₁, h₂, -⟩ := run_cons_eq_ok.mp h
    exact ih (hs.step h₁) h₂

/-- Whether a run returns, with the property at its end. -/
def endsWith (step : S → E → Except ε (S × O)) (s : S) (es : List E) (check : S → Bool) : Bool :=
  match run step s es with
  | .ok (s, _) => check s
  | .error _ => false

theorem Reachable.of_endsWith {s₀ : S} {es : List E} {check : S → Bool} (hinit : init s₀)
    (h : endsWith step s₀ es check = true) : ∃ s, Reachable step init s ∧ check s = true := by
  unfold endsWith at h
  split at h
  · rename_i s os hrun
    exact ⟨s, Reachable.run es (.init hinit) hrun, h⟩
  · cases h

/-- Every reachable state is where some run leads to. -/
theorem Reachable.exists_run {s : S} (h : Reachable step init s) :
    ∃ s₀ es os, init s₀ ∧ Machine.run step s₀ es = .ok (s, os) := by
  induction h with
  | init hs => exact ⟨_, [], [], hs, rfl⟩
  | @step s₁ s₂ e o _ he ih =>
    obtain ⟨s₀, es, os, hs₀, hrun⟩ := ih
    refine ⟨s₀, es ++ [e], os ++ [o], hs₀, ?_⟩
    clear hs₀
    induction es generalizing s₀ os with
    | nil =>
      obtain ⟨rfl, rfl⟩ := Prod.mk.inj (Except.ok.inj hrun)
      exact run_cons_eq_ok.mpr ⟨s₂, o, [], he, rfl, rfl⟩
    | cons e' es ih =>
      obtain ⟨s', o', os', h₁, h₂, rfl⟩ := run_cons_eq_ok.mp hrun
      exact run_cons_eq_ok.mpr ⟨s', o', os' ++ [o], h₁, ih _ _ h₂, rfl⟩

/-! ### Runs with their steps -/

/-- A step that was made. -/
structure Transition (S E : Type) where
  before : S
  event : E
  after : S

/-- A run from an initial state, with its steps from the first to the last. -/
inductive Trace (step : S → E → Except ε (S × O)) (init : S → Prop) :
    List (Transition S E) → S → Prop
  | init {s : S} : init s → Trace step init [] s
  | step {log : List (Transition S E)} {s s' : S} {e : E} {o : O} :
      Trace step init log s → step s e = .ok (s', o) → Trace step init (log ++ [⟨s, e, s'⟩]) s'

theorem Trace.reachable {log : List (Transition S E)} {s : S} (h : Trace step init log s) :
    Reachable step init s := by
  induction h with
  | init hs => exact .init hs
  | step _ he ih => exact ih.step he

/-- A reachable state is where some run leads to, with its steps. -/
theorem Reachable.exists_trace {s : S} (h : Reachable step init s) :
    ∃ log, Trace step init log s := by
  induction h with
  | init hs => exact ⟨[], .init hs⟩
  | step _ he ih =>
    obtain ⟨log, htrace⟩ := ih
    exact ⟨_, htrace.step he⟩

/-- Every step of a run was made in a reachable state. -/
theorem Trace.of_mem {log : List (Transition S E)} {s : S} (h : Trace step init log s) :
    ∀ t ∈ log, Reachable step init t.before ∧ ∃ o, step t.before t.event = .ok (t.after, o) := by
  induction h with
  | init _ =>
    intro t ht
    cases ht
  | step htrace he ih =>
    intro t ht
    rcases List.mem_append.mp ht with hold | hnew
    · exact ih t hold
    · obtain rfl := List.mem_singleton.mp hnew
      exact ⟨htrace.reachable, _, he⟩

/-- The run up to one of its steps. -/
theorem Trace.split {log : List (Transition S E)} {s : S} (h : Trace step init log s) :
    ∀ {earlier later : List (Transition S E)} {t : Transition S E}, log = earlier ++ t :: later →
      Trace step init earlier t.before ∧ ∃ o, step t.before t.event = .ok (t.after, o) := by
  induction h with
  | init _ =>
    intro earlier later t heq
    exact absurd heq.symm (List.append_ne_nil_of_right_ne_nil _ (List.cons_ne_nil _ _))
  | step htrace he ih =>
    intro earlier later t heq
    rcases List.eq_nil_or_concat later with rfl | ⟨later', last, rfl⟩
    · obtain ⟨rfl, hlast⟩ := List.append_inj' heq rfl
      obtain rfl := (List.cons.inj hlast).1
      exact ⟨htrace, _, he⟩
    · rw [List.concat_eq_append, ← List.cons_append, ← List.append_assoc] at heq
      exact ih (List.append_inj' heq rfl).1

/-- **Course-of-values induction**: what is shown of a run may be used of all earlier parts of it. -/
theorem Trace.strong_induction {P : List (Transition S E) → S → Prop}
    (h : ∀ log s, Trace step init log s →
      (∀ earlier t later, log = earlier ++ t :: later → P earlier t.before) → P log s)
    {log : List (Transition S E)} {s : S} (htrace : Trace step init log s) : P log s := by
  induction hlength : log.length using Nat.strongRecOn generalizing log s with
  | ind n ih =>
    refine h log s htrace fun earlier t later heq => ih earlier.length ?_ (htrace.split heq).1 rfl
    rw [← hlength, heq, List.length_append, List.length_cons]
    omega

/-- What holds after some step, and is kept by the later ones, holds before each of them. -/
theorem Trace.before_of_step {log : List (Transition S E)} {s : S} {P : S → Prop}
    (h : Trace step init log s) :
    ∀ {earlier later : List (Transition S E)} {t : Transition S E}, log = earlier ++ t :: later →
      P t.after → (∀ t ∈ later, P t.before → P t.after) → ∀ t ∈ later, P t.before := by
  suffices hboth : ∀ {earlier later : List (Transition S E)} {t : Transition S E},
      log = earlier ++ t :: later → P t.after → (∀ t ∈ later, P t.before → P t.after) →
        P s ∧ ∀ t ∈ later, P t.before by
    intro earlier later t heq ht hkeep
    exact (hboth heq ht hkeep).2
  induction h with
  | init _ =>
    intro earlier later t heq
    exact absurd heq.symm (List.append_ne_nil_of_right_ne_nil _ (List.cons_ne_nil _ _))
  | step _ he ih =>
    intro earlier later t heq ht hkeep
    rcases List.eq_nil_or_concat later with rfl | ⟨later', last, rfl⟩
    · obtain ⟨-, hlast⟩ := List.append_inj' heq rfl
      obtain rfl := (List.cons.inj hlast).1
      exact ⟨ht, fun t' ht' => by cases ht'⟩
    · rw [List.concat_eq_append, ← List.cons_append, ← List.append_assoc] at heq
      obtain ⟨hlog, hlast⟩ := List.append_inj' heq rfl
      obtain rfl := (List.cons.inj hlast).1
      rw [List.concat_eq_append] at hkeep ⊢
      obtain ⟨hs, hall⟩ := ih hlog ht fun t' ht' => hkeep t' (List.mem_append_left _ ht')
      refine ⟨hkeep _ (List.mem_append_right _ List.mem_cons_self) hs, fun t' ht' => ?_⟩
      rcases List.mem_append.mp ht' with hold | hnew
      · exact hall t' hold
      · obtain rfl := List.mem_singleton.mp hnew
        exact hs

/-- A run ends where its last step does. -/
theorem Trace.after_getLast? {log : List (Transition S E)} {s : S} {t : Transition S E}
    (h : Trace step init log s) (hlast : log.getLast? = some t) : t.after = s := by
  cases h with
  | init _ => cases hlast
  | step _ _ =>
    rw [List.getLast?_concat] at hlast
    rw [← Option.some.inj hlast]

/-- The steps of a run, if it returns. -/
def steps (step : S → E → Except ε (S × O)) : S → List E → Option (List (Transition S E))
  | _, [] => some []
  | s, e :: es =>
    match step s e with
    | .ok (s', _) => (steps step s' es).map (⟨s, e, s'⟩ :: ·)
    | .error _ => none

theorem Trace.of_steps : ∀ (es : List E) {log log' : List (Transition S E)} {s : S},
    Trace step init log s → steps step s es = some log' →
      ∃ s', Trace step init (log ++ log') s' := by
  intro es
  induction es with
  | nil =>
    intro log log' s htrace h
    obtain rfl := Option.some.inj h
    exact ⟨s, by rwa [List.append_nil]⟩
  | cons e es ih =>
    intro log log' s htrace h
    unfold steps at h
    split at h
    · rename_i s₁ o hstep
      obtain ⟨later, hlater, rfl⟩ := Option.map_eq_some_iff.mp h
      obtain ⟨s', htrace'⟩ := ih (htrace.step hstep) hlater
      exact ⟨s', by rwa [List.append_assoc, List.singleton_append] at htrace'⟩
    · cases h

theorem map_event_of_steps : ∀ (es : List E) {log : List (Transition S E)} {s : S},
    steps step s es = some log → log.map (·.event) = es := by
  intro es
  induction es with
  | nil =>
    intro log s h
    rw [← Option.some.inj h, List.map_nil]
  | cons e es ih =>
    intro log s h
    unfold steps at h
    split at h
    · obtain ⟨later, hlater, rfl⟩ := Option.map_eq_some_iff.mp h
      rw [List.map_cons, ih hlater]
    · cases h

theorem event_of_map_concat {log : List (Transition S E)} {t : Transition S E} {es : List E} {e : E}
    (h : (log ++ [t]).map (·.event) = es) (hlast : es.getLast? = some e) : t.event = e := by
  rw [← h, List.map_append, List.map_singleton, List.getLast?_concat] at hlast
  exact Option.some.inj hlast

/-- Whether a run returns and all of its steps pass the check. -/
def checkSteps (step : S → E → Except ε (S × O)) (check : Transition S E → Bool) : S → List E → Bool
  | _, [] => true
  | s, e :: es =>
    match step s e with
    | .ok (s', _) => check ⟨s, e, s'⟩ && checkSteps step check s' es
    | .error _ => false

theorem Trace.of_checkSteps {check : Transition S E → Bool} :
    ∀ (es : List E) {log : List (Transition S E)} {s : S}, Trace step init log s →
      checkSteps step check s es = true → ∃ log' s', Trace step init (log ++ log') s' ∧
        log'.map (·.event) = es ∧ (∀ t ∈ log', check t = true) ∧
        ∃ os, Machine.run step s es = .ok (s', os) := by
  intro es
  induction es with
  | nil =>
    intro log s htrace _
    exact ⟨[], s, by rwa [List.append_nil], rfl, fun t ht => absurd ht List.not_mem_nil, [], rfl⟩
  | cons e es ih =>
    intro log s htrace h
    unfold checkSteps at h
    split at h
    · rename_i s₁ o hstep
      rw [Bool.and_eq_true] at h
      obtain ⟨log', s', htrace', hevents, hall, os, hrun⟩ := ih (htrace.step hstep) h.2
      refine ⟨⟨s, e, s₁⟩ :: log', s', ?_, by rw [List.map_cons, hevents], ?_, o :: os,
        run_cons_eq_ok.mpr ⟨s₁, o, os, hstep, hrun, rfl⟩⟩
      · rwa [List.append_assoc, List.singleton_append] at htrace'
      · rw [List.forall_mem_cons]
        exact ⟨h.1, hall⟩
    · cases h

/-- A run, with its steps. -/
theorem Trace.of_run : ∀ (es : List E) {log : List (Transition S E)} {s s' : S} {os : List O},
    Trace step init log s → Machine.run step s es = .ok (s', os) →
      ∃ log', Trace step init (log ++ log') s' ∧ log'.map (·.event) = es := by
  intro es
  induction es with
  | nil =>
    intro log s s' os htrace h
    obtain ⟨rfl, -⟩ := Prod.mk.inj (Except.ok.inj h)
    exact ⟨[], by rwa [List.append_nil], rfl⟩
  | cons e es ih =>
    intro log s s' os htrace h
    obtain ⟨s₁, o, os', hstep, hrest, -⟩ := run_cons_eq_ok.mp h
    obtain ⟨log', htrace', hevents⟩ := ih (htrace.step hstep) hrest
    refine ⟨⟨s, e, s₁⟩ :: log', ?_, by rw [List.map_cons, hevents]⟩
    rwa [List.append_assoc, List.singleton_append] at htrace'

/-! ### Since an event -/

/-- An event with the property came in a state with the condition, and all later states of the
history have it too. -/
def Since (history : List (S × E)) (during : S → Prop) (P : E → Prop) : Prop :=
  ∃ earlier s e later, history = earlier ++ (s, e) :: later ∧ P e ∧ during s ∧
    ∀ x ∈ later, during x.1

theorem Since.now {history : List (S × E)} {during : S → Prop} {P : E → Prop} {s : S} {e : E}
    (hs : during s) (he : P e) : Since (history ++ [(s, e)]) during P :=
  ⟨history, s, e, [], rfl, he, hs, fun x hx => by cases hx⟩

theorem Since.later {history : List (S × E)} {during : S → Prop} {P : E → Prop} {s : S} {e : E}
    (h : Since history during P) (hs : during s) : Since (history ++ [(s, e)]) during P := by
  obtain ⟨earlier, s₀, e₀, later, rfl, he₀, hs₀, hall⟩ := h
  refine ⟨earlier, s₀, e₀, later ++ [(s, e)], by simp, he₀, hs₀, ?_⟩
  intro x hx
  rcases List.mem_append.mp hx with hold | hnew
  · exact hall x hold
  · obtain rfl := List.mem_singleton.mp hnew
    exact hs

/-- The event came now or before. -/
theorem Since.now_or_later {history : List (S × E)} {during : S → Prop} {P : E → Prop} {s : S}
    {e : E} (hs : during s) (h : P e ∨ Since history during P) :
    Since (history ++ [(s, e)]) during P := by
  rcases h with he | hsince
  · exact .now hs he
  · exact hsince.later hs

/-! ### Additional events -/

/-- A run of all events that keeps the outputs of the original ones only; `true` marks an additional
event. -/
def runOriginal (step : S → E → Except ε (S × O)) : S → List (E × Bool) → Except ε (S × List O)
  | s, [] => .ok (s, [])
  | s, (e, additional) :: es => do
    let (s, o) ← step s e
    let (s, os) ← runOriginal step s es
    return (s, if additional then os else o :: os)

/-- The events without the additional ones. -/
def original (es : List (E × Bool)) : List E :=
  es.filterMap fun x => if x.2 then none else some x.1

/-- Whether every additional event is `extra` in the state in which it comes. -/
def additionalAre (step : S → E → Except ε (S × O)) (extra : S → E → Bool) : S → List (E × Bool) → Bool
  | _, [] => true
  | s, (e, additional) :: es =>
    (!additional || extra s e) &&
      match step s e with
      | .ok (s', _) => additionalAre step extra s' es
      | .error _ => true

/-- **Events that do not change the state** change nothing else in a run.  That they do not may depend
on an invariant of the machine. -/
theorem runOriginal_eq {extra : S → E → Bool} {P : S → Prop}
    (hP : ∀ s e s' o, P s → step s e = .ok (s', o) → P s')
    (hextra : ∀ s e, P s → extra s e = true → ∃ o, step s e = .ok (s, o)) :
    ∀ (es : List (E × Bool)) (s : S), P s → additionalAre step extra s es = true →
      runOriginal step s es = Machine.run step s (original es) := by
  intro es
  induction es with
  | nil =>
    intro s _ _
    rfl
  | cons x es ih =>
    intro s hs h
    obtain ⟨e, additional⟩ := x
    unfold additionalAre at h
    rw [Bool.and_eq_true, Bool.or_eq_true, Bool.not_eq_true'] at h
    obtain ⟨he, hrest⟩ := h
    cases additional with
    | true =>
      obtain ⟨o, ho⟩ := hextra s e hs (he.resolve_left (by decide))
      rw [ho] at hrest
      have hsame := ih s hs hrest
      simp only [runOriginal, ho, ok_bind, hsame, original, List.filterMap_cons, if_true]
      cases Machine.run step s (es.filterMap fun x => if x.2 then none else some x.1) <;> rfl
    | false =>
      cases hstep : step s e with
      | error why =>
        simp only [runOriginal, original, List.filterMap_cons, hstep, Machine.run, error_bind,
          Bool.false_eq_true, if_false]
      | ok r =>
        obtain ⟨s', o⟩ := r
        rw [hstep] at hrest
        have hsame := ih s' (hP s e s' o hs hstep) hrest
        simp only [runOriginal, original, List.filterMap_cons, hstep, Machine.run, ok_bind, hsame,
          Bool.false_eq_true, if_false]

end Machine
