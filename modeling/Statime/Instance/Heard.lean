import Statime.Instance.Round
import Statime.Port.Datasets
import Statime.Port.Effects

/-!
# Where the messages of an instance come from

A message that a port holds was heard on this port, and so was the best message of a round.

* `Slot.Reachable.held`: a message that a port holds is acceptable to it, and qualified.
* `System.step_holds`: what a step of an instance adds to the messages of its ports.
* `System.Heard`, `System.Trace.heard`: in a whole run, what is held was heard before.
-/

namespace Statime

open Rust

variable {A R C F T : Type} [AcceptableMasterList A] [Clock C] [Filter F] [Rng R]
  [ForwardedTLVProvider T]

omit [Clock C] [Rng R] in
/-- The foreign masters and the core of a port agree on what is accepted. -/
theorem Slot.accepts_core (slot : Slot A R C F) (a : AnnounceMessage) :
    slot.bmca.accepts a = slot.core.accepts a := by
  cases slot <;> rfl

theorem PortCore.SameOwner.accepts {c c' : PortCore} (h : c.SameOwner c') (a : AnnounceMessage) :
    c'.accepts a = c.accepts a := by
  rw [PortCore.accepts, PortCore.accepts, h.ownPortIdentity, h.isAcceptable]

/-- **A message that a port holds** was accepted, and is fewer than 255 steps away from the
grandmaster. -/
theorem Slot.Reachable.held {p : Profile} {slot : Slot A R C F} (h : Slot.Reachable T p slot) :
    ∀ header a, slot.bmca.Holds header a → slot.core.accepts a = true ∧ a.stepsRemoved < 255 := by
  refine Machine.Reachable.invariant (P := fun slot : Slot A R C F => ∀ header a,
    slot.bmca.Holds header a → slot.core.accepts a = true ∧ a.stepsRemoved < 255) ?_ ?_ h
  · rintro slot ⟨config, filterConfig, clock, identity, rng, port, hnew, rfl⟩ header a hheld
    obtain ⟨⟨duration, rng'⟩, -, hnew⟩ := bind_eq_ok.mp hnew
    obtain ⟨interval, -, hnew⟩ := bind_eq_ok.mp hnew
    obtain rfl := Except.ok.inj hnew
    exact absurd hheld ForeignMasterList.not_holds_new
  · intro slot e slot' actions hslot hstep header a hheld
    have hsame := (Slot.step_core hstep).sameOwner
    rw [hsame.accepts]
    rcases (Slot.step_effect hstep).holds header a hheld with
      hold | ⟨message, -, -, -, haccepts, hqualified⟩
    · exact hslot header a hold
    · rw [← Slot.accepts_core]
      exact ⟨haccepts, hqualified.stepsRemoved⟩

/-! ### The ports in a round -/

namespace Port

/-- The second port is the first one later on, and holds no other messages. -/
structure Keeps (port port' : Port InBmca A R C F) : Prop where
  sameOwner : port.core.SameOwner port'.core
  holds : ∀ header a, port'.bmca.Holds header a → port.bmca.Holds header a

variable {p : Profile} {port port' : Port InBmca A R C F}

omit [Clock C] [Rng R] in
theorem Keeps.trans {port'' : Port InBmca A R C F} (h : port.Keeps port') (h' : port'.Keeps port'') :
    port.Keeps port'' :=
  ⟨h.sameOwner.trans h'.sameOwner, fun header a hheld => h.holds header a (h'.holds header a hheld)⟩

omit [Clock C] [Rng R] in
/-- The best message of a port is one that it holds. -/
theorem calculateBest_keeps (h : port.calculateBestLocalAnnounceMessage p = .ok port') :
    port.Keeps port' ∧
      ∀ best, port'.lifecycle.localBest = some best → port.bmca.Holds best.header best.message := by
  have hcore := (calculateBest_core h).1
  obtain ⟨⟨best, bmca⟩, hbest, h⟩ := bind_eq_ok.mp h
  obtain rfl := Except.ok.inj h
  obtain ⟨hholds, hheld⟩ := Bmca.holds_takeBest hbest
  exact ⟨⟨by rw [hcore]; exact .refl _, hholds⟩, hheld⟩

theorem decided_keeps {s : PtpInstanceState} {ebest : Option BestAnnounceMessage}
    (h : s.Decided p ebest port port') : port.Keeps port' := by
  refine ⟨h.sameOwner, fun header a hheld => ?_⟩
  obtain ⟨s₁, s₂, -, hdecide⟩ := h
  rcases PtpInstanceState.decideState_cases hdecide with ⟨-, rfl, -⟩ | ⟨state, -, hset⟩
  · exact hheld
  · rwa [(setRecommendedState_decides hset).bmca] at hheld

omit [Clock C] [Rng R] in
theorem stepAnnounceAge_keeps {interval : Duration}
    (h : port.stepAnnounceAge p interval = .ok port') : port.Keeps port' := by
  obtain ⟨multiportDisable, hcore⟩ := stepAnnounceAge_core h
  refine ⟨by rw [hcore]; exact ⟨rfl, rfl, rfl, rfl⟩, fun header a hheld => ?_⟩
  obtain ⟨disable, -, h⟩ := bind_eq_ok.mp h
  obtain ⟨bmca, hbmca, h⟩ := bind_eq_ok.mp h
  obtain rfl := Except.ok.inj h
  exact Bmca.holds_stepAge hbmca hheld

end Port

namespace PtpInstanceState

variable {p : Profile} {s s' : PtpInstanceState} {interval : Duration}
  {ports ports' ports₁ ports₂ : List (Port InBmca A R C F)} {ebest : Option BestAnnounceMessage}

omit [Clock C] [Rng R] in
/-- **The best message of a port** is one that it holds. -/
theorem Prepared.held (h : Prepared p ports ports₁) :
    ∀ port₁ ∈ ports₁, ∃ port ∈ ports, port.Keeps port₁ ∧
      ∀ best, port₁.lifecycle.localBest = some best → port.bmca.Holds best.header best.message := by
  have hstart : ∀ port ∈ ports, port ∈ ports := fun _ hport => hport
  exact forall_mem_of_forall₂ h
    (fun port port₁ hport hbest => ⟨port, hport, Port.calculateBest_keeps hbest⟩) hstart

/-- **A round adds no message.** -/
theorem Round.keeps (h : Round p s s' interval ports ports' ports₁ ports₂ ebest) :
    ∀ port' ∈ ports', ∃ port ∈ ports, port.Keeps port' := by
  have h₁ : ∀ port₁ ∈ ports₁, ∃ port ∈ ports, port.Keeps port₁ := by
    intro port₁ hport₁
    obtain ⟨port, hport, hkeeps, -⟩ := Prepared.held h.best port₁ hport₁
    exact ⟨port, hport, hkeeps⟩
  have h₂ : ∀ port₂ ∈ ports₂, ∃ port ∈ ports, port.Keeps port₂ := by
    refine forall_mem_of_forall₂ (decideStates_decided h.decide).1 ?_ h₁
    rintro port₁ port₂ ⟨port, hport, hkeeps⟩ hdecided
    exact ⟨port, hport, hkeeps.trans (Port.decided_keeps hdecided)⟩
  refine forall_mem_of_forall₂ h.age ?_ h₂
  rintro port₂ port' ⟨port, hport, hkeeps⟩ hage
  exact ⟨port, hport, hkeeps.trans (Port.stepAnnounceAge_keeps hage)⟩

/-- **The best messages of reachable ports** are acceptable and qualified. -/
theorem Prepared.localBest_held (h : Prepared p ports ports₁)
    (hreachable : ∀ port ∈ ports, Slot.Reachable T p (.inBmca port)) :
    ∀ port ∈ ports₁, ∀ best, port.lifecycle.localBest = some best →
      port.core.accepts best.message = true ∧ best.message.stepsRemoved < 255 := by
  intro port₁ hport₁ best hbest
  obtain ⟨port, hport, hkeeps, hheld⟩ := h.held port₁ hport₁
  rw [hkeeps.sameOwner.accepts]
  exact (hreachable port hport).held best.header best.message (hheld best hbest)

end PtpInstanceState

/-! ### The ports of an instance -/

namespace System

variable {p : Profile} {sys sys' : System A R C F} {e : Event A R C F T}
  {actions : PortActionIterator}

theorem Reachable.inBmca (h : System.Reachable T p sys) {ports : List (Port InBmca A R C F)}
    (hall : allInBmca sys.ports = some ports) :
    ∀ port ∈ ports, Slot.Reachable T p (.inBmca port) := by
  intro port hport
  refine h.slot _ ?_
  rw [allInBmca_eq_some hall]
  exact List.mem_map_of_mem hport

/-- A packet that reaches a port reaches a running one. -/
theorem hears_of_receives {i : Nat} {e' : PortEvent T} {slot slot' : Slot A R C F}
    {message : Message} {a : AnnounceMessage} (he : e.onPort sys.state = some (i, e'))
    (hport : PortStep p sys sys' i e' slot slot' actions) (hreceives : e'.Receives message)
    (hbody : message.body = .announce a) :
    ∃ port, slot = .running port ∧ sys.Hears e i port message a := by
  have hget := hport.get
  have hstep := hport.step
  rcases hreceives with ⟨timestamp, s, data, rfl, hparse⟩ | ⟨s, data, rfl, hparse⟩
  · cases e with
    | eventReceive j data' timestamp' =>
      obtain ⟨rfl, hsame⟩ := Prod.mk.inj (Option.some.inj he)
      obtain ⟨rfl, rfl, rfl⟩ := PortEvent.eventReceive.inj hsame
      cases slot with
      | running port =>
        exact ⟨port, rfl, data', rfl, by rw [getRunning, hget], hparse, hbody⟩
      | inBmca port => cases hstep
    | _ => cases he
  · cases e with
    | generalReceive j data' =>
      obtain ⟨rfl, hsame⟩ := Prod.mk.inj (Option.some.inj he)
      obtain ⟨rfl, rfl⟩ := PortEvent.generalReceive.inj hsame
      cases slot with
      | running port =>
        exact ⟨port, rfl, data', rfl, by rw [getRunning, hget], hparse, hbody⟩
      | inBmca port => cases hstep
    | _ => cases he

/-- **What a step adds to the messages of the ports**: at most the one that it brings. -/
theorem step_holds (h : sys.step p e = .ok (sys', actions)) :
    ∀ slot' ∈ sys'.ports, ∀ header a, slot'.bmca.Holds header a →
      (∃ slot ∈ sys.ports, slot.core.SameOwner slot'.core ∧ slot.bmca.Holds header a) ∨
        ∃ i port message, sys.Hears e i port message a ∧ message.header = header ∧
          port.core.SameOwner slot'.core := by
  intro slot' hslot' header a hheld
  cases step_mem h hslot' with
  | kept hold => exact Or.inl ⟨slot', hold, .refl _, hheld⟩
  | stepped he hport =>
    have hsame := (Slot.step_core hport.step).sameOwner
    rcases (Slot.step_effect hport.step).holds header a hheld with
      hbefore | ⟨message, hreceives, hbody, rfl, -⟩
    · exact Or.inl ⟨_, List.mem_of_getElem? hport.get, hsame, hbefore⟩
    · obtain ⟨port, rfl, hhears⟩ := hears_of_receives he hport hreceives hbody
      exact Or.inr ⟨_, port, message, hhears, rfl, hsame⟩
  | added hnew hslot =>
    obtain ⟨⟨duration, rng'⟩, -, hnew⟩ := bind_eq_ok.mp hnew
    obtain ⟨interval, -, hnew⟩ := bind_eq_ok.mp hnew
    obtain rfl := Except.ok.inj hnew
    rw [hslot] at hheld
    exact absurd hheld ForeignMasterList.not_holds_new
  | decided hall hbmca hport' hslot =>
    obtain ⟨ports₁, ports₂, ebest, hround⟩ := PtpInstanceState.bmca_eq_ok hbmca
    obtain ⟨port, hport, hkeeps⟩ := hround.keeps _ hport'
    rw [hslot] at hheld ⊢
    refine Or.inl ⟨.inBmca port, ?_, hkeeps.sameOwner, hkeeps.holds header a hheld⟩
    rw [allInBmca_eq_some hall]
    exact List.mem_map_of_mem hport

/-! ### Whole runs -/

/-- In one of the steps, a port with this owner heard the message. -/
def Heard (log : List (Machine.Transition (System A R C F) (Event A R C F T))) (c : PortCore)
    (header : Header) (a : AnnounceMessage) : Prop :=
  ∃ t ∈ log, ∃ i port message, t.before.Hears t.event i port message a ∧ message.header = header ∧
    port.core.SameOwner c

/-- **A message that a port holds was heard on it before.** -/
theorem heard_of_holds {log : List (Machine.Transition (System A R C F) (Event A R C F T))}
    (h : Machine.Trace (System.step p) System.Initial log sys) :
    ∀ slot ∈ sys.ports, ∀ header a, slot.bmca.Holds header a → Heard log slot.core header a := by
  induction h with
  | init hs =>
    obtain ⟨config, timeProperties, rfl⟩ := hs
    intro slot hslot
    cases hslot
  | step _ hstep ih =>
    intro slot' hslot' header a hheld
    rcases step_holds hstep slot' hslot' header a hheld with
      ⟨slot, hslot, hsame, hbefore⟩ | ⟨i, port, message, hhears, hheader, hsame⟩
    · obtain ⟨t, ht, i, port, message, hhears, hheader, howner⟩ := ih slot hslot header a hbefore
      exact ⟨t, List.mem_append_left _ ht, i, port, message, hhears, hheader, howner.trans hsame⟩
    · exact ⟨_, List.mem_append_right _ (List.mem_singleton_self _), i, port, message, hhears,
        hheader, hsame⟩

end System

end Statime
