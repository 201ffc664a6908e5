import Statime.Instance.SlaveOnly
import Statime.Port.Delivery

/-!
# Several ports of one clock in a network

A port that hears a lower port of its own clock is disabled until the last message of that port is
older than the announce interval.  A disabled port must not be a master.  The recommended states see
to it; the announce receipt timer does not.

* `PortCore.Step.multiportDisable`: how a port is disabled.
* `PortCore.recommendedState_disabled`: what is recommended to a disabled port.
* `Slot.disabled_not_master_iff`: over a whole run, only the announce receipt timer makes a disabled
  port a master.
-/

namespace Statime

open Rust Machine

variable {A R C F T : Type} [AcceptableMasterList A] [Clock C] [Filter F] [Rng R]
  [ForwardedTLVProvider T]

namespace PortCore

variable {p : Profile} {c c' : PortCore}

theorem Measures.multiportDisable (h : Measures p c c') : c'.multiportDisable = c.multiportDisable := by
  cases h <;> rfl

omit [ForwardedTLVProvider T] in
theorem Stores.multiportDisable {e : PortEvent T} (h : Stores p e c c') :
    c'.multiportDisable = c.multiportDisable := by
  cases h <;> rfl

omit [ForwardedTLVProvider T] in
/-- **What can be disabled**: a port that hears a lower one becomes passive, and time goes by. -/
theorem Step.multiportDisable {e : PortEvent T} (h : Step p e c c') :
    c'.multiportDisable = c.multiportDisable ∨ c'.portState = .passive ∨
      ∃ d, e = .stepAge d ∧ c'.portState = c.portState := by
  cases h with
  | keep | firstSync | fault | requestDelay | requestPeerDelay | timeout | recommended =>
    exact Or.inl rfl
  | measure hstores hmeasures =>
    exact Or.inl (hmeasures.multiportDisable.trans hstores.multiportDisable)
  | disable => exact Or.inr (Or.inl rfl)
  | @age d _ he => exact Or.inr (Or.inr ⟨d, he, rfl⟩)

/-- A disabled port is not recommended to be a master. -/
theorem recommendedState_disabled (hdisabled : c.multiportDisable.isSome = true)
    (s : PtpInstanceState) (state : RecommendedState) : c.recommendedState s state ≠ .master := by
  cases hslaveOnly : s.defaultDs.slaveOnly with
  | true => exact recommendedState_ne_master hslaveOnly state
  | false =>
    intro h
    unfold recommendedState at h
    cases state with
    | s1 message =>
      cases hstate : c.portState with
      | slave slave =>
        simp only [hstate] at h
        split at h <;> cases h
      | _ =>
        simp only [hstate] at h
        cases h
    | m1 _ | m2 _ | m3 _ =>
      simp only [hslaveOnly, hdisabled, if_true, Bool.false_eq_true, if_false] at h
      cases h
    | p1 _ | p2 _ =>
      cases hstate : c.portState <;> simp only [hstate] at h <;> cases h

end PortCore

namespace Slot

variable {p : Profile} {slot slot' : Slot A R C F} {e : PortEvent T} {actions : PortActionIterator}

/-- Time does not disable a port. -/
theorem step_stepAge {d : Duration} (h : slot.step p (.stepAge d : PortEvent T) = .ok (slot', actions))
    (hdisabled : slot'.core.multiportDisable.isSome = true) :
    slot.core.multiportDisable.isSome = true := by
  cases slot with
  | running port => cases h
  | inBmca port =>
    obtain ⟨port', hport, h⟩ := bind_eq_ok.mp h
    obtain ⟨rfl, -⟩ := Prod.mk.inj (Except.ok.inj h)
    obtain ⟨disable, hdisable, hport⟩ := bind_eq_ok.mp (orPanic_eq_ok.mp hport)
    obtain ⟨bmca, -, hport⟩ := bind_eq_ok.mp hport
    obtain rfl := Except.ok.inj hport
    change disable.isSome = true at hdisabled
    change port.multiportDisable.isSome = true
    cases hbefore : port.multiportDisable with
    | some age => rfl
    | none =>
      rw [hbefore] at hdisable
      rw [← Except.ok.inj hdisable] at hdisabled
      cases hdisabled

/-- The port is a master although it is disabled. -/
def DisabledMaster (slot : Slot A R C F) : Prop :=
  slot.core.multiportDisable.isSome = true ∧ slot.core.portState = .master

/-- The announce receipt timer of a disabled port expires, and the instance is not slave-only. -/
def TimesOutDisabled (slot : Slot A R C F) (e : PortEvent T) : Prop :=
  slot.core.multiportDisable.isSome = true ∧
    ∃ s, e = .announceReceiptTimer s ∧ s.defaultDs.slaveOnly = false

/-- **One step makes no disabled port a master**, the announce receipt timer aside. -/
theorem not_disabledMaster_step (h : slot.step p e = .ok (slot', actions))
    (hslot : ¬ slot.DisabledMaster) (htimer : ¬ slot.TimesOutDisabled e) :
    ¬ slot'.DisabledMaster := by
  rintro ⟨hdisabled, hmaster⟩
  have hstep := step_core h
  have hbefore : slot.core.multiportDisable.isSome = true := by
    rcases hstep.multiportDisable with hsame | hpassive | ⟨d, rfl, -⟩
    · rwa [hsame] at hdisabled
    · cases hpassive.symm.trans hmaster
    · exact step_stepAge h hdisabled
  rcases hstep.master hmaster with hstate | htimeout | ⟨s, state, rfl⟩
  · exact hslot ⟨hbefore, hstate⟩
  · exact htimer ⟨hbefore, htimeout⟩
  · cases slot with
    | running port => cases h
    | inBmca port =>
      obtain ⟨⟨port', s'⟩, hport, h⟩ := bind_eq_ok.mp h
      obtain ⟨rfl, -⟩ := Prod.mk.inj (Except.ok.inj h)
      have hcore := Port.setRecommendedState_core (orPanic_eq_ok.mp hport)
      rw [core, hcore] at hmaster
      exact PortCore.recommendedState_disabled hbefore s state hmaster

/-- **The timer makes a disabled port a master.** -/
theorem disabledMaster_of_timesOut (h : slot.step p e = .ok (slot', actions))
    (htimer : slot.TimesOutDisabled e) : slot'.DisabledMaster := by
  obtain ⟨hdisabled, s, rfl, hslaveOnly⟩ := htimer
  cases slot with
  | inBmca port => cases h
  | running port =>
    obtain ⟨port', hport, rfl⟩ := ofHandler_eq_ok.mp h
    have hcore := Port.handleAnnounceReceiptTimer_core hport
    rw [DisabledMaster, core, hcore]
    exact ⟨hdisabled, by simp [hslaveOnly]⟩

omit [Clock C] in
theorem not_disabledMaster_initial (h : Initial p slot) : ¬ slot.DisabledMaster := by
  obtain ⟨config, filterConfig, clock, identity, rng, port, hnew, rfl⟩ := h
  rintro ⟨-, hmaster⟩
  cases (Port.new_portIdentity hnew).2.symm.trans hmaster

/-- **A disabled port is never a master** in all states of a run, if and only if its announce receipt
timer does not expire while it is disabled. -/
theorem disabled_not_master_iff {log : List (Transition (Slot A R C F) (PortEvent T))}
    (htrace : Trace (step p) (Initial p) log slot) :
    ((∀ t ∈ log, ¬ t.before.DisabledMaster) ∧ ¬ slot.DisabledMaster) ↔
      ∀ t ∈ log, ¬ t.before.TimesOutDisabled t.event := by
  induction htrace with
  | init hinit =>
    refine iff_of_true ⟨?_, not_disabledMaster_initial hinit⟩ ?_
    · intro t ht
      cases ht
    · intro t ht
      cases ht
  | @step log slot slot' e actions htrace hstep ih =>
    simp only [List.mem_append, List.mem_singleton, or_imp, forall_and, forall_eq]
    rw [← ih]
    constructor
    · rintro ⟨⟨hlog, hslot⟩, hslot'⟩
      exact ⟨⟨hlog, hslot⟩, fun htimer => hslot' (disabledMaster_of_timesOut hstep htimer)⟩
    · rintro ⟨⟨hlog, hslot⟩, htimer⟩
      exact ⟨⟨hlog, hslot⟩, not_disabledMaster_step hstep hslot htimer⟩

/-- A port with number 2, which hears port 1 of its own clock. -/
def hearsLowerPort : List (PortEvent NoForwardedTLVs) :=
  [.endBmca, .generalReceive (testSystem testInstanceConfig).state (announceBytes 9 1 64 0)]

/-- The steps of this port. -/
def secondPortSteps (es : List (PortEvent NoForwardedTLVs)) :
    Option (List (Transition TestSlot (PortEvent NoForwardedTLVs))) :=
  (Port.new (A := AcceptAnyMaster) (R := TestRng) (C := TestClock) (F := TestFilter) .debug
    testPortConfig () ⟨⟩ { testParent with portNumber := 2 } ⟨⟩).toOption.bind fun port =>
      steps (step .debug) (.inBmca port) es

/-- Whether the port passes the check in the end. -/
def secondPortEndsWith (es : List (PortEvent NoForwardedTLVs)) (check : TestSlot → Bool) : Bool :=
  (secondPortSteps es).any fun log => log.getLast?.any fun t => check t.after

theorem exists_secondPortSteps {es : List (PortEvent NoForwardedTLVs)}
    {check : TestSlot → Bool} (h : secondPortEndsWith es check = true) :
    ∃ (log : List (Transition TestSlot (PortEvent NoForwardedTLVs))) (slot : TestSlot),
      Trace (step .debug) (Initial .debug) log slot ∧ log.map (·.event) = es ∧ check slot = true := by
  obtain ⟨log, hlog, h⟩ := (Option.any_eq_true _ _).mp h
  obtain ⟨t, hlast, hcheck⟩ := (Option.any_eq_true _ _).mp h
  obtain ⟨port, hport, hsteps⟩ := Option.bind_eq_some_iff.mp hlog
  have hinit : Initial .debug (.inBmca port : TestSlot) :=
    ⟨testPortConfig, (), ⟨⟩, { testParent with portNumber := 2 }, ⟨⟩, port, eq_ok_of_toOption hport, rfl⟩
  obtain ⟨slot, htrace⟩ := Trace.of_steps _ (.init hinit) hsteps
  rw [List.nil_append] at htrace
  obtain rfl := htrace.after_getLast? hlast
  exact ⟨log, t.after, htrace, map_event_of_steps es hsteps, hcheck⟩

/-- A disabled port, before its timer expires. -/
theorem disabled_not_master_passive :
    ∃ (log : List (Transition TestSlot (PortEvent NoForwardedTLVs))) (slot : TestSlot),
      Trace (step .debug) (Initial .debug) log slot ∧ slot.core.multiportDisable.isSome = true ∧
      (∀ t ∈ log, ¬ t.before.DisabledMaster) ∧ ¬ slot.DisabledMaster := by
  have hrun : secondPortEndsWith hearsLowerPort (·.core.multiportDisable.isSome) = true := by
    decide +kernel
  obtain ⟨log, slot, htrace, hevents, hcheck⟩ := exists_secondPortSteps hrun
  refine ⟨log, slot, htrace, hcheck, (disabled_not_master_iff htrace).mpr ?_⟩
  rintro t ht ⟨-, s, he, -⟩
  have hmem : t.event ∈ hearsLowerPort := by
    rw [← hevents]
    exact List.mem_map_of_mem ht
  rw [he] at hmem
  simp [hearsLowerPort] at hmem

/-- **The timer of a disabled port expires**: the port is a master while it is disabled. -/
theorem disabled_port_becomes_master :
    ∃ (log : List (Transition TestSlot (PortEvent NoForwardedTLVs))) (slot : TestSlot),
      Trace (step .debug) (Initial .debug) log slot ∧
      slot.core.multiportDisable = some Duration.zero ∧ slot.core.portState = .master := by
  have hrun : secondPortEndsWith (hearsLowerPort ++
      [.announceReceiptTimer (testSystem testInstanceConfig).state]) (fun slot =>
        decide (slot.core.multiportDisable = some Duration.zero ∧ slot.core.portState = .master)) =
          true := by
    decide +kernel
  obtain ⟨log, slot, htrace, -, hcheck⟩ := exists_secondPortSteps hrun
  rw [decide_eq_true_eq] at hcheck
  exact ⟨log, slot, htrace, hcheck.1, hcheck.2⟩

end Slot

end Statime
