import Statime.PtpInstance
import Statime.Port.Refinement

/-!
# The machine of a port, and the ports of an instance

`Slot.step` is the machine of a single port, whatever the instance and the other ports do.

* `Slot.step_core`: a step of the machine is a step of the abstract port.
* `System.step_onPort`, `System.step_not_onPort`: what a step of an instance does to its ports.
* `System.step_mem`: where a port comes from that is there after a step.
* `System.Reachable.slot`: every port of a reachable instance is a reachable port.
-/

namespace Statime

open Rust

variable {A R C F T : Type} [AcceptableMasterList A] [Clock C] [Filter F] [Rng R]
  [ForwardedTLVProvider T]

/-! ### One port -/

namespace Slot

/-- One call on a port. -/
def step (p : Profile) (slot : Slot A R C F) (e : PortEvent T) :
    Except Stop (Slot A R C F × PortActionIterator) :=
  match slot, e with
  | .running port, .eventReceive s data timestamp => do
    let (port, _, actions) ← orPanic (port.handleEventReceive p s data timestamp)
    return (.running port, actions)
  | .running port, .generalReceive s data => do
    let (port, _, actions) ← orPanic (port.handleGeneralReceive p s data)
    return (.running port, actions)
  | .running port, .sendTimestamp s context timestamp => do
    let (port, actions) ← orPanic (port.handleSendTimestamp p s context timestamp)
    return (.running port, actions)
  | .running port, .announceTimer s provider => do
    let (port, _, actions) ← orPanic (port.handleAnnounceTimer p s provider)
    return (.running port, actions)
  | .running port, .syncTimer s => do
    let (port, actions) ← orPanic (port.handleSyncTimer p s)
    return (.running port, actions)
  | .running port, .delayRequestTimer s => do
    let (port, actions) ← orPanic (port.handleDelayRequestTimer p s)
    return (.running port, actions)
  | .running port, .announceReceiptTimer s => do
    let (port, actions) ← orPanic (port.handleAnnounceReceiptTimer s)
    return (.running port, actions)
  | .running port, .filterUpdateTimer =>
    let (port, actions) := port.handleFilterUpdateTimer
    .ok (.running port, actions)
  | .running port, .startBmca => .ok (.inBmca port.startBmca, .empty)
  | .inBmca port, .endBmca =>
    let (port, actions) := port.endBmca
    .ok (.running port, actions)
  | .inBmca port, .calculateBest => do
    let port ← orPanic (port.calculateBestLocalAnnounceMessage p)
    return (.inBmca port, .empty)
  | .inBmca port, .recommend s state => do
    let (port, _) ← orPanic (port.setRecommendedState p s state)
    return (.inBmca port, .empty)
  | .inBmca port, .stepAge step => do
    let port ← orPanic (port.stepAnnounceAge p step)
    return (.inBmca port, .empty)
  | _, _ => .error .illTyped

/-- A port made by `Port::new`. -/
def Initial (p : Profile) (slot : Slot A R C F) : Prop :=
  ∃ config filterConfig clock identity rng port,
    Port.new p config filterConfig clock identity rng = .ok port ∧ slot = .inBmca port

/-- The states of a port. -/
def Reachable (T : Type) [ForwardedTLVProvider T] (p : Profile) (slot : Slot A R C F) : Prop :=
  Machine.Reachable (step (T := T) p) (Initial p) slot

def core : Slot A R C F → PortCore
  | .running port => port.core
  | .inBmca port => port.core

end Slot

theorem orPanic_eq_ok {α : Type} {x : Except Panic α} {a : α} :
    orPanic x = .ok a ↔ x = .ok a := by
  cases x <;> simp [orPanic]

theorem orIllTyped_eq_ok {α : Type} {x : Option α} {a : α} :
    orIllTyped x = .ok a ↔ x = some a := by
  cases x <;> simp [orIllTyped]

/-- A running port receives a message. -/
theorem Slot.step_eventReceive {p : Profile} {port : Port Running A R C F} {slot' : Slot A R C F}
    {s : PtpInstanceState} {data : List UInt8} {timestamp : Time} {actions : PortActionIterator}
    (h : (Slot.running port).step p (.eventReceive s data timestamp : PortEvent T) =
      .ok (slot', actions)) :
    ∃ port' s', slot' = .running port' ∧
      port.handleEventReceive p s data timestamp = .ok (port', s', actions) := by
  obtain ⟨⟨port', s', actions'⟩, hport, h⟩ := bind_eq_ok.mp h
  obtain ⟨rfl, rfl⟩ := Prod.mk.inj (Except.ok.inj h)
  exact ⟨port', s', rfl, orPanic_eq_ok.mp hport⟩

theorem Slot.step_generalReceive {p : Profile} {port : Port Running A R C F} {slot' : Slot A R C F}
    {s : PtpInstanceState} {data : List UInt8} {actions : PortActionIterator}
    (h : (Slot.running port).step p (.generalReceive s data : PortEvent T) = .ok (slot', actions)) :
    ∃ port' s', slot' = .running port' ∧
      port.handleGeneralReceive p s data = .ok (port', s', actions) := by
  obtain ⟨⟨port', s', actions'⟩, hport, h⟩ := bind_eq_ok.mp h
  obtain ⟨rfl, rfl⟩ := Prod.mk.inj (Except.ok.inj h)
  exact ⟨port', s', rfl, orPanic_eq_ok.mp hport⟩

/-- **A step of a port is a step of its core.** -/
theorem Slot.step_core {p : Profile} {slot slot' : Slot A R C F} {e : PortEvent T}
    {actions : PortActionIterator} (h : slot.step p e = .ok (slot', actions)) :
    PortCore.Step p e slot.core slot'.core := by
  unfold Slot.step at h
  split at h
  · obtain ⟨port', s', rfl, hport⟩ := step_eventReceive (T := T) h
    exact Port.handleEventReceive_core hport
  · obtain ⟨port', s', rfl, hport⟩ := step_generalReceive (T := T) h
    exact Port.handleGeneralReceive_core hport
  · obtain ⟨⟨port, actions₁⟩, hport, h⟩ := bind_eq_ok.mp h
    obtain ⟨rfl, -⟩ := Prod.mk.inj (Except.ok.inj h)
    exact Port.handleSendTimestamp_core (orPanic_eq_ok.mp hport)
  · obtain ⟨⟨port, provider, actions₁⟩, hport, h⟩ := bind_eq_ok.mp h
    obtain ⟨rfl, -⟩ := Prod.mk.inj (Except.ok.inj h)
    rw [Slot.core, Slot.core, Port.sendAnnounce_core (orPanic_eq_ok.mp hport)]
    exact .keep
  · obtain ⟨⟨port, actions₁⟩, hport, h⟩ := bind_eq_ok.mp h
    obtain ⟨rfl, -⟩ := Prod.mk.inj (Except.ok.inj h)
    rw [Slot.core, Slot.core, Port.sendSync_core (orPanic_eq_ok.mp hport)]
    exact .keep
  · obtain ⟨⟨port, actions₁⟩, hport, h⟩ := bind_eq_ok.mp h
    obtain ⟨rfl, -⟩ := Prod.mk.inj (Except.ok.inj h)
    exact Port.sendDelayRequest_core (orPanic_eq_ok.mp hport)
  · obtain ⟨⟨port, actions₁⟩, hport, h⟩ := bind_eq_ok.mp h
    obtain ⟨rfl, -⟩ := Prod.mk.inj (Except.ok.inj h)
    rw [Slot.core, Slot.core, Port.handleAnnounceReceiptTimer_core (orPanic_eq_ok.mp hport)]
    exact .timeout rfl
  · obtain ⟨rfl, -⟩ := Prod.mk.inj (Except.ok.inj h)
    exact .keep
  · obtain ⟨rfl, -⟩ := Prod.mk.inj (Except.ok.inj h)
    exact .keep
  · obtain ⟨rfl, -⟩ := Prod.mk.inj (Except.ok.inj h)
    exact .keep
  · obtain ⟨port, hport, h⟩ := bind_eq_ok.mp h
    obtain ⟨rfl, -⟩ := Prod.mk.inj (Except.ok.inj h)
    rw [Slot.core, Slot.core, (Port.calculateBest_core (orPanic_eq_ok.mp hport)).1]
    exact .keep
  · obtain ⟨⟨port, s⟩, hport, h⟩ := bind_eq_ok.mp h
    obtain ⟨rfl, -⟩ := Prod.mk.inj (Except.ok.inj h)
    rw [Slot.core, Slot.core, Port.setRecommendedState_core (orPanic_eq_ok.mp hport)]
    exact .recommended rfl
  · obtain ⟨port, hport, h⟩ := bind_eq_ok.mp h
    obtain ⟨rfl, -⟩ := Prod.mk.inj (Except.ok.inj h)
    obtain ⟨multiportDisable, hcore⟩ := Port.stepAnnounceAge_core (orPanic_eq_ok.mp hport)
    rw [Slot.core, Slot.core, hcore]
    exact .age rfl
  · cases h

/-! ### What a running port does to the instance -/

/-- The parts of the state that the handlers of a running port leave alone. -/
structure PtpInstanceState.SameParent (s s' : PtpInstanceState) : Prop where
  defaultDs : s'.defaultDs = s.defaultDs
  parent : s'.parentDs.parentPortIdentity = s.parentDs.parentPortIdentity

theorem PtpInstanceState.SameParent.refl (s : PtpInstanceState) : s.SameParent s := ⟨rfl, rfl⟩

theorem PtpInstanceState.updateFromParent_frame {p : Profile} {s s' : PtpInstanceState}
    {message : Message} {announce : AnnounceMessage} {loop : Bool}
    (h : s.updateFromParent p message announce = .ok (s', loop)) :
    s'.defaultDs = s.defaultDs ∧
      s'.parentDs.parentPortIdentity = announce.header.sourcePortIdentity := by
  obtain ⟨steps, -, h⟩ := bind_eq_ok.mp h
  dsimp only at h
  split at h
  · obtain ⟨found, -, h⟩ := bind_eq_ok.mp h
    cases found with
    | none =>
      obtain ⟨rfl, -⟩ := Prod.mk.inj (Except.ok.inj h)
      exact ⟨rfl, rfl⟩
    | some tlv =>
      dsimp only at h
      split at h
      · obtain ⟨rfl, -⟩ := Prod.mk.inj (Except.ok.inj h)
        exact ⟨rfl, rfl⟩
      · obtain ⟨list, -, h⟩ := bind_eq_ok.mp h
        obtain ⟨rfl, -⟩ := Prod.mk.inj (Except.ok.inj h)
        exact ⟨rfl, rfl⟩
  · obtain ⟨rfl, -⟩ := Prod.mk.inj (Except.ok.inj h)
    exact ⟨rfl, rfl⟩

namespace Port

variable {p : Profile} {s s' : PtpInstanceState} {port port' : Port Running A R C F}
  {actions : PortActionIterator}

omit [ForwardedTLVProvider T]

/-- What a message does to the state of the instance: an announce message of the parent updates it,
and no other does. -/
inductive Updates (p : Profile) (s s' : PtpInstanceState) (port : Port Running A R C F)
    (message : Message) : Prop
  | parent {announce : AnnounceMessage} {loop : Bool} : message.body = .announce announce →
      port.isFromParent s announce = true →
      s.updateFromParent p message announce = .ok (s', loop) → Updates p s s' port message
  | stranger {announce : AnnounceMessage} : message.body = .announce announce →
      port.isFromParent s announce = false → s' = s → Updates p s s' port message
  | other : (∀ announce, message.body ≠ .announce announce) → s' = s → Updates p s s' port message

/-- What a packet does to it. -/
def UpdatesFrom (p : Profile) (s s' : PtpInstanceState) (port : Port Running A R C F)
    (data : List UInt8) : Prop :=
  (parseAndFilter s data = .ok none ∧ s' = s) ∨
    ∃ message, parseAndFilter s data = .ok (some message) ∧ port.Updates p s s' message

theorem handleAnnounce_updates {message : Message} {announce : AnnounceMessage}
    (h : port.handleAnnounce p s message announce = .ok (port', s', actions)) :
    (port.isFromParent s announce = true ∧
        ∃ loop, s.updateFromParent p message announce = .ok (s', loop)) ∨
      (port.isFromParent s announce = false ∧ s' = s) := by
  obtain ⟨⟨s₁, loop⟩, hupdate, h⟩ := bind_eq_ok.mp h
  have hs : s' = s₁ := by
    dsimp only at h
    split at h
    · obtain ⟨-, h⟩ := Prod.mk.inj (Except.ok.inj h)
      exact (Prod.mk.inj h).1.symm
    · obtain ⟨⟨port₁, actions₁⟩, -, h⟩ := bind_eq_ok.mp h
      obtain ⟨-, h⟩ := Prod.mk.inj (Except.ok.inj h)
      exact (Prod.mk.inj h).1.symm
  subst hs
  unfold updateDatasets at hupdate
  split at hupdate
  · rename_i hparent
    exact Or.inl ⟨hparent, loop, hupdate⟩
  · rename_i hparent
    obtain ⟨rfl, -⟩ := Prod.mk.inj (Except.ok.inj hupdate)
    exact Or.inr ⟨Bool.eq_false_iff.mpr hparent, rfl⟩

theorem handleGeneralInternal_updates {message : Message}
    (h : port.handleGeneralInternal p s message = .ok (port', s', actions)) :
    port.Updates p s s' message := by
  unfold handleGeneralInternal at h
  cases hbody : message.body with
  | announce announce =>
    simp only [hbody] at h
    rcases handleAnnounce_updates h with ⟨hparent, loop, hupdate⟩ | ⟨hparent, hs⟩
    · exact .parent hbody hparent hupdate
    · exact .stranger hbody hparent hs
  | followUp _ | delayResp _ | pDelayRespFollowUp _ =>
    simp only [hbody] at h
    obtain ⟨⟨port₁, actions₁⟩, -, h⟩ := bind_eq_ok.mp h
    obtain ⟨-, h⟩ := Prod.mk.inj (Except.ok.inj h)
    exact .other (by simp [hbody]) (Prod.mk.inj h).1.symm
  | sync _ | delayReq _ | pDelayReq _ | pDelayResp _ | management _ | signaling _ =>
    simp only [hbody] at h
    obtain ⟨-, h⟩ := Prod.mk.inj (Except.ok.inj h)
    exact .other (by simp [hbody]) (Prod.mk.inj h).1.symm

theorem handleEventMessage_updates {message : Message} {timestamp : Time}
    (h : port.handleEventMessage p s message timestamp = .ok (port', s', actions)) :
    port.Updates p s s' message := by
  unfold handleEventMessage at h
  split at h
  case h_5 => exact handleGeneralInternal_updates h
  all_goals
    rename_i hbody
    obtain ⟨⟨port₁, actions₁⟩, -, h⟩ := bind_eq_ok.mp h
    obtain ⟨-, h⟩ := Prod.mk.inj (Except.ok.inj h)
    exact .other (by simp [hbody]) (Prod.mk.inj h).1.symm

theorem handleEventReceive_updates {data : List UInt8} {timestamp : Time}
    (h : port.handleEventReceive p s data timestamp = .ok (port', s', actions)) :
    port.UpdatesFrom p s s' data := by
  rcases handleEventReceive_cases h with ⟨hparse, -, hs, -⟩ | ⟨message, hparse, h⟩
  · exact Or.inl ⟨hparse, hs⟩
  · exact Or.inr ⟨message, hparse, handleEventMessage_updates h⟩

theorem handleGeneralReceive_updates {data : List UInt8}
    (h : port.handleGeneralReceive p s data = .ok (port', s', actions)) :
    port.UpdatesFrom p s s' data := by
  rcases handleGeneralReceive_cases h with ⟨hparse, -, hs, -⟩ | ⟨message, hparse, h⟩
  · exact Or.inl ⟨hparse, hs⟩
  · exact Or.inr ⟨message, hparse, handleGeneralInternal_updates h⟩

omit [AcceptableMasterList A] [Clock C] [Rng R] in
/-- Only the parent itself updates the datasets. -/
theorem UpdatesFrom.sameParent {data : List UInt8} (h : port.UpdatesFrom p s s' data) :
    s.SameParent s' := by
  rcases h with ⟨-, hs⟩ | ⟨message, -, hupdates⟩
  · rw [hs]
    exact .refl s
  · cases hupdates with
    | parent _ hparent hupdate =>
      obtain ⟨hdefault, hsource⟩ := PtpInstanceState.updateFromParent_frame hupdate
      rw [isFromParent, Bool.and_eq_true, decide_eq_true_eq] at hparent
      exact ⟨hdefault, hsource.trans hparent.2⟩
    | stranger _ _ hs | other _ hs =>
      rw [hs]
      exact .refl s

end Port

/-! ### The steps of an instance -/

/-- The call on a port that an event of the instance is. -/
def Event.onPort (s : PtpInstanceState) : Event A R C F T → Option (Nat × PortEvent T)
  | .startBmca i => some (i, .startBmca)
  | .endBmca i => some (i, .endBmca)
  | .eventReceive i data timestamp => some (i, .eventReceive s data timestamp)
  | .generalReceive i data => some (i, .generalReceive s data)
  | .announceTimer i provider => some (i, .announceTimer s provider)
  | .syncTimer i => some (i, .syncTimer s)
  | .delayRequestTimer i => some (i, .delayRequestTimer s)
  | .announceReceiptTimer i => some (i, .announceReceiptTimer s)
  | .filterUpdateTimer i => some (i, .filterUpdateTimer)
  | .sendTimestamp i context timestamp => some (i, .sendTimestamp s context timestamp)
  | .addPort .. | .reorder _ | .bmca | .setClockQuality _ | .setSlaveOnly _ => none

namespace System

variable {p : Profile} {sys sys' : System A R C F} {e : Event A R C F T}
  {actions : PortActionIterator}

/-- One port made a step of its own. -/
structure PortStep (p : Profile) (sys sys' : System A R C F) (i : Nat) (e : PortEvent T)
    (slot slot' : Slot A R C F) (actions : PortActionIterator) : Prop where
  get : sys.ports[i]? = some slot
  step : slot.step p e = .ok (slot', actions)
  set : sys'.ports = sys.ports.set i slot'
  state : sys.state.SameParent sys'.state

omit [AcceptableMasterList A] [Clock C] [Rng R] in
theorem getRunning_eq_some {i : Nat} {port : Port Running A R C F}
    (h : sys.getRunning i = some port) : sys.ports[i]? = some (.running port) := by
  unfold getRunning at h
  split at h
  · rename_i port' hport
    rw [hport, Option.some.inj h]
  · cases h

omit [AcceptableMasterList A] [Clock C] [Rng R] in
theorem getInBmca_eq_some {i : Nat} {port : Port InBmca A R C F}
    (h : sys.getInBmca i = some port) : sys.ports[i]? = some (.inBmca port) := by
  unfold getInBmca at h
  split at h
  · rename_i port' hport
    rw [hport, Option.some.inj h]
  · cases h

/-- A handler that leaves the state of the instance alone. -/
theorem handle_cases {i : Nat} {e' : PortEvent T}
    {handler : Port Running A R C F → Except Panic (Port Running A R C F × PortActionIterator)}
    (hstep : ∀ port port' actions, handler port = .ok (port', actions) →
      (Slot.running port).step p e' = .ok (.running port', actions))
    (h : sys.handle i handler = .ok (sys', actions)) :
    ∃ slot slot', PortStep p sys sys' i e' slot slot' actions := by
  obtain ⟨port, hport, h⟩ := bind_eq_ok.mp h
  obtain ⟨⟨port', actions'⟩, hhandler, h⟩ := bind_eq_ok.mp h
  obtain ⟨rfl, rfl⟩ := Prod.mk.inj (Except.ok.inj h)
  exact ⟨_, _, getRunning_eq_some (orIllTyped_eq_ok.mp hport),
    hstep port port' actions' (orPanic_eq_ok.mp hhandler), rfl, .refl _⟩

/-- A handler that may change it. -/
theorem handleWithState_cases {i : Nat} {e' : PortEvent T}
    {handler : Port Running A R C F →
      Except Panic (Port Running A R C F × PtpInstanceState × PortActionIterator)}
    (hstep : ∀ port port' s' actions, handler port = .ok (port', s', actions) →
      (Slot.running port).step p e' = .ok (.running port', actions) ∧ sys.state.SameParent s')
    (h : sys.handleWithState i handler = .ok (sys', actions)) :
    ∃ slot slot', PortStep p sys sys' i e' slot slot' actions := by
  obtain ⟨port, hport, h⟩ := bind_eq_ok.mp h
  obtain ⟨⟨port', s', actions'⟩, hhandler, h⟩ := bind_eq_ok.mp h
  obtain ⟨rfl, rfl⟩ := Prod.mk.inj (Except.ok.inj h)
  obtain ⟨hslot, hstate⟩ := hstep port port' s' actions' (orPanic_eq_ok.mp hhandler)
  exact ⟨_, _, getRunning_eq_some (orIllTyped_eq_ok.mp hport), hslot, rfl, hstate⟩

/-- **A call on a port is a step of that port**, and the parent stays. -/
theorem step_onPort {i : Nat} {e' : PortEvent T} (he : e.onPort sys.state = some (i, e'))
    (h : sys.step p e = .ok (sys', actions)) :
    ∃ slot slot', PortStep p sys sys' i e' slot slot' actions := by
  cases e with
  | addPort | reorder | bmca | setClockQuality | setSlaveOnly => cases he
  | startBmca j =>
    obtain ⟨rfl, rfl⟩ := Prod.mk.inj (Option.some.inj he)
    obtain ⟨port, hport, h⟩ := bind_eq_ok.mp h
    obtain ⟨rfl, rfl⟩ := Prod.mk.inj (Except.ok.inj h)
    exact ⟨_, _, getRunning_eq_some (orIllTyped_eq_ok.mp hport), rfl, rfl, .refl _⟩
  | endBmca j =>
    obtain ⟨rfl, rfl⟩ := Prod.mk.inj (Option.some.inj he)
    obtain ⟨port, hport, h⟩ := bind_eq_ok.mp h
    obtain ⟨rfl, rfl⟩ := Prod.mk.inj (Except.ok.inj h)
    exact ⟨_, _, getInBmca_eq_some (orIllTyped_eq_ok.mp hport), rfl, rfl, .refl _⟩
  | eventReceive j data timestamp =>
    obtain ⟨rfl, rfl⟩ := Prod.mk.inj (Option.some.inj he)
    refine handleWithState_cases (fun port port' s' actions hport => ⟨?_, ?_⟩) h
    · simp only [Slot.step, hport, orPanic, ok_bind, pure_eq_ok]
    · exact (Port.handleEventReceive_updates hport).sameParent
  | generalReceive j data =>
    obtain ⟨rfl, rfl⟩ := Prod.mk.inj (Option.some.inj he)
    refine handleWithState_cases (fun port port' s' actions hport => ⟨?_, ?_⟩) h
    · simp only [Slot.step, hport, orPanic, ok_bind, pure_eq_ok]
    · exact (Port.handleGeneralReceive_updates hport).sameParent
  | announceTimer j provider =>
    obtain ⟨rfl, rfl⟩ := Prod.mk.inj (Option.some.inj he)
    refine handle_cases (fun port port' actions hport => ?_) h
    obtain ⟨⟨port₁, provider', actions₁⟩, hsent, hrest⟩ := bind_eq_ok.mp hport
    obtain ⟨rfl, rfl⟩ := Prod.mk.inj (Except.ok.inj hrest)
    simp only [Slot.step, hsent, orPanic, ok_bind, pure_eq_ok]
  | syncTimer j =>
    obtain ⟨rfl, rfl⟩ := Prod.mk.inj (Option.some.inj he)
    refine handle_cases (fun port port' actions hport => ?_) h
    simp only [Slot.step, hport, orPanic, ok_bind, pure_eq_ok]
  | delayRequestTimer j =>
    obtain ⟨rfl, rfl⟩ := Prod.mk.inj (Option.some.inj he)
    refine handle_cases (fun port port' actions hport => ?_) h
    simp only [Slot.step, hport, orPanic, ok_bind, pure_eq_ok]
  | announceReceiptTimer j =>
    obtain ⟨rfl, rfl⟩ := Prod.mk.inj (Option.some.inj he)
    refine handle_cases (fun port port' actions hport => ?_) h
    simp only [Slot.step, hport, orPanic, ok_bind, pure_eq_ok]
  | filterUpdateTimer j =>
    obtain ⟨rfl, rfl⟩ := Prod.mk.inj (Option.some.inj he)
    refine handle_cases (fun port port' actions hport => ?_) h
    simp only [Slot.step, Except.ok.inj hport]
  | sendTimestamp j context timestamp =>
    obtain ⟨rfl, rfl⟩ := Prod.mk.inj (Option.some.inj he)
    refine handle_cases (fun port port' actions hport => ?_) h
    simp only [Slot.step, hport, orPanic, ok_bind, pure_eq_ok]

/-- A round of the best master clock algorithm. -/
theorem step_bmca (h : sys.step p (.bmca : Event A R C F T) = .ok (sys', actions)) :
    ∃ ports interval ports', allInBmca sys.ports = some ports ∧
      sys.state.bmca p ports interval = .ok (ports', sys'.state) ∧
      sys'.ports = ports'.map .inBmca := by
  obtain ⟨ports, hports, h⟩ := bind_eq_ok.mp h
  obtain ⟨sys₁, hsys₁, h⟩ := bind_eq_ok.mp h
  obtain ⟨rfl, -⟩ := Prod.mk.inj (Except.ok.inj h)
  obtain ⟨interval, -, hsys₁⟩ := bind_eq_ok.mp (orPanic_eq_ok.mp hsys₁)
  obtain ⟨⟨ports', state⟩, hbmca, hsys₁⟩ := bind_eq_ok.mp hsys₁
  obtain rfl := Except.ok.inj hsys₁
  exact ⟨ports, interval, ports', orIllTyped_eq_ok.mp hports, hbmca, rfl⟩

/-- **The other steps**: a new port, another order or other settings, or a round of the best
master clock algorithm. -/
theorem step_not_onPort (he : e.onPort sys.state = none)
    (h : sys.step p e = .ok (sys', actions)) :
    (∃ numberPorts config filterConfig clock rng port,
      overflow p (decide (sys.state.defaultDs.numberPorts = 0xffff))
        (sys.state.defaultDs.numberPorts + 1) = .ok numberPorts ∧
      Port.new p config filterConfig clock
        { clockIdentity := sys.state.defaultDs.clockIdentity, portNumber := numberPorts } rng =
          .ok port ∧
      sys'.ports = sys.ports ++ [.inBmca port] ∧
      sys'.state = { sys.state with defaultDs := { sys.state.defaultDs with numberPorts } }) ∨
    (sys'.ports.Perm sys.ports ∧ sys'.state.parentDs = sys.state.parentDs ∧
      sys'.state.defaultDs.clockIdentity = sys.state.defaultDs.clockIdentity ∧
      sys'.state.defaultDs.numberPorts = sys.state.defaultDs.numberPorts) ∨
    (e = .bmca ∧ ∃ ports interval ports', allInBmca sys.ports = some ports ∧
      sys.state.bmca p ports interval = .ok (ports', sys'.state) ∧
      sys'.ports = ports'.map .inBmca) := by
  cases e with
  | startBmca | endBmca | eventReceive | generalReceive | announceTimer | syncTimer
  | delayRequestTimer | announceReceiptTimer | filterUpdateTimer | sendTimestamp => cases he
  | addPort config filterConfig clock rng =>
    left
    obtain ⟨sys₁, hsys₁, h⟩ := bind_eq_ok.mp h
    obtain ⟨rfl, -⟩ := Prod.mk.inj (Except.ok.inj h)
    obtain ⟨numberPorts, hnumber, hsys₁⟩ := bind_eq_ok.mp (orPanic_eq_ok.mp hsys₁)
    obtain ⟨port, hport, hsys₁⟩ := bind_eq_ok.mp hsys₁
    obtain rfl := Except.ok.inj hsys₁
    exact ⟨numberPorts, _, _, _, _, port, hnumber, hport, rfl, rfl⟩
  | reorder order =>
    right; left
    simp only [step] at h
    split at h
    · rename_i hperm
      obtain ⟨rfl, -⟩ := Prod.mk.inj (Except.ok.inj h)
      refine ⟨?_, rfl, rfl, rfl⟩
      have hfilter := hperm.filterMap (sys.ports[·]?)
      rw [filterMap_range_getElem?] at hfilter
      exact hfilter
    · cases h
  | bmca =>
    exact Or.inr (Or.inr ⟨rfl, step_bmca h⟩)
  | setClockQuality clockQuality =>
    right; left
    obtain ⟨rfl, -⟩ := Prod.mk.inj (Except.ok.inj h)
    exact ⟨.refl _, rfl, rfl, rfl⟩
  | setSlaveOnly slaveOnly =>
    right; left
    obtain ⟨rfl, -⟩ := Prod.mk.inj (Except.ok.inj h)
    exact ⟨.refl _, rfl, rfl, rfl⟩

omit [AcceptableMasterList A] [Clock C] [Rng R] in
theorem allInBmca_eq_some : ∀ {slots : List (Slot A R C F)} {ports : List (Port InBmca A R C F)},
    allInBmca slots = some ports → slots = ports.map .inBmca := by
  intro slots
  induction slots with
  | nil =>
    intro ports h
    obtain rfl := Option.some.inj h
    rfl
  | cons slot slots ih =>
    intro ports h
    cases slot with
    | running port => cases h
    | inBmca port =>
      obtain ⟨rest, hrest, rfl⟩ := Option.map_eq_some_iff.mp h
      rw [ih hrest, List.map_cons]

/-- Where a port comes from that is there after a step. -/
inductive PortAfter (p : Profile) (sys sys' : System A R C F) (e : Event A R C F T)
    (actions : PortActionIterator) (slot' : Slot A R C F) : Prop
  | kept : slot' ∈ sys.ports → PortAfter p sys sys' e actions slot'
  | stepped {i : Nat} {e' : PortEvent T} {slot : Slot A R C F} :
      e.onPort sys.state = some (i, e') → PortStep p sys sys' i e' slot slot' actions →
      PortAfter p sys sys' e actions slot'
  | added {config : PortConfig A} {filterConfig : Filter.Config F} {clock : C}
      {identity : PortIdentity} {rng : R} {port : Port InBmca A R C F} :
      Port.new p config filterConfig clock identity rng = .ok port → slot' = .inBmca port →
      PortAfter p sys sys' e actions slot'
  | decided {ports ports' : List (Port InBmca A R C F)} {interval : Duration}
      {port' : Port InBmca A R C F} : allInBmca sys.ports = some ports →
      sys.state.bmca p ports interval = .ok (ports', sys'.state) → port' ∈ ports' →
      slot' = .inBmca port' → PortAfter p sys sys' e actions slot'

/-- **Every port after a step** was there before, took a step of its own, is new, or took part in a
round. -/
theorem step_mem (h : sys.step p e = .ok (sys', actions)) {slot' : Slot A R C F}
    (hslot' : slot' ∈ sys'.ports) : PortAfter p sys sys' e actions slot' := by
  cases he : e.onPort sys.state with
  | some target =>
    obtain ⟨i, e'⟩ := target
    obtain ⟨old, new, hport⟩ := step_onPort he h
    rw [hport.set] at hslot'
    rcases List.mem_or_eq_of_mem_set hslot' with hold | rfl
    · exact .kept hold
    · exact .stepped he hport
  | none =>
    rcases step_not_onPort he h with
      ⟨numberPorts, config, filterConfig, clock, rng, port, -, hnew, hports, -⟩ | ⟨hperm, -⟩ |
        ⟨-, ports, interval, ports', hall, hbmca, hports⟩
    · rw [hports] at hslot'
      rcases List.mem_append.mp hslot' with hold | hlast
      · exact .kept hold
      · exact .added hnew (List.mem_singleton.mp hlast)
    · exact .kept (hperm.mem_iff.mp hslot')
    · rw [hports] at hslot'
      obtain ⟨port', hport', rfl⟩ := List.mem_map.mp hslot'
      exact .decided hall hbmca hport' rfl

end System

/-! ### A round of the algorithm -/

namespace PtpInstanceState

variable {p : Profile} {s s' : PtpInstanceState} {ports ports' : List (Port InBmca A R C F)}
  {interval : Duration}

/-- The four phases of a round. -/
structure Round (p : Profile) (s s' : PtpInstanceState) (interval : Duration)
    (ports ports' ports₁ ports₂ : List (Port InBmca A R C F)) (ebest : Option BestAnnounceMessage) :
    Prop where
  numberPorts : p = .debug → s.defaultDs.numberPorts.toNat = ports.length
  best : List.Forall₂ (fun port port' => port.calculateBestLocalAnnounceMessage p = .ok port')
    ports ports₁
  chosen : Bmca.findBestAnnounceMessage p (ports₁.filterMap (·.bestLocalAnnounceMessageForBmca)) =
    .ok ebest
  decide : decideStates p ebest s ports₁ = .ok (ports₂, s')
  age : List.Forall₂ (fun port port' => port.stepAnnounceAge p interval = .ok port') ports₂ ports'

theorem bmca_eq_ok (h : s.bmca p ports interval = .ok (ports', s')) :
    ∃ ports₁ ports₂ ebest, Round p s s' interval ports ports' ports₁ ports₂ ebest := by
  obtain ⟨_, hassert, h⟩ := bind_eq_ok.mp h
  obtain ⟨ports₁, hports₁, h⟩ := bind_eq_ok.mp h
  obtain ⟨ebest, hebest, h⟩ := bind_eq_ok.mp h
  obtain ⟨⟨ports₂, s₂⟩, hdecide, h⟩ := bind_eq_ok.mp h
  obtain ⟨ports₃, hage, h⟩ := bind_eq_ok.mp h
  obtain ⟨rfl, rfl⟩ := Prod.mk.inj (Except.ok.inj h)
  exact ⟨ports₁, ports₂, ebest,
    fun hp => of_decide_eq_true (debugAssert_eq_ok.mp hassert hp),
    mapM_eq_ok.mp hports₁, hebest, hdecide, mapM_eq_ok.mp hage⟩

/-- The phases make up the round. -/
theorem Round.bmca_eq {ports₁ ports₂ : List (Port InBmca A R C F)}
    {ebest : Option BestAnnounceMessage} (h : Round p s s' interval ports ports' ports₁ ports₂ ebest) :
    s.bmca p ports interval = .ok (ports', s') := by
  have hassert : debugAssert p (Decidable.decide (s.defaultDs.numberPorts.toNat = ports.length)) =
      .ok () := debugAssert_eq_ok.mpr fun hp => decide_eq_true (h.numberPorts hp)
  have hage : ports₂.mapM (·.stepAnnounceAge p interval) = .ok ports' := mapM_eq_ok.mpr h.age
  rw [bmca, hassert, ok_bind, mapM_eq_ok.mpr h.best, ok_bind, h.chosen, ok_bind, h.decide, ok_bind]
  dsimp only
  rw [hage]
  rfl

/-- One port is decided about, in some state with the same default dataset. -/
def Decided (p : Profile) (ebest : Option BestAnnounceMessage) (s : PtpInstanceState)
    (port port' : Port InBmca A R C F) : Prop :=
  ∃ s₁ s₂ : PtpInstanceState, s₁.defaultDs = s.defaultDs ∧
    s₁.decideState p ebest port = .ok (port', s₂)

omit [AcceptableMasterList A] in
theorem setRecommendedState_defaultDs {port port' : Port InBmca A R C F} {state : RecommendedState}
    (h : port.setRecommendedState p s state = .ok (port', s')) : s'.defaultDs = s.defaultDs := by
  obtain ⟨port₁, -, h⟩ := bind_eq_ok.mp h
  cases state with
  | m1 _ | m2 _ =>
    obtain ⟨_, -, h⟩ := bind_eq_ok.mp h
    obtain ⟨-, rfl⟩ := Prod.mk.inj (Except.ok.inj h)
    rfl
  | m3 _ | p1 _ | p2 _ =>
    obtain ⟨-, rfl⟩ := Prod.mk.inj (Except.ok.inj h)
    rfl
  | s1 message =>
    obtain ⟨_, -, h⟩ := bind_eq_ok.mp h
    obtain ⟨s₁, hfollow, h⟩ := bind_eq_ok.mp h
    obtain ⟨-, rfl⟩ := Prod.mk.inj (Except.ok.inj h)
    obtain ⟨steps, -, hfollow⟩ := bind_eq_ok.mp hfollow
    rw [← Except.ok.inj hfollow]

omit [AcceptableMasterList A] in
/-- **A decision about a port**: it keeps its state, or a state is recommended to it. -/
theorem decideState_cases {ebest : Option BestAnnounceMessage} {port port' : Port InBmca A R C F}
    (h : s.decideState p ebest port = .ok (port', s')) :
    (Bmca.calculateRecommendedState p s.defaultDs ebest port.lifecycle.localBest port.portState =
        .ok none ∧ port' = port ∧ s' = s) ∨
      ∃ state, Bmca.calculateRecommendedState p s.defaultDs ebest port.lifecycle.localBest
          port.portState = .ok (some state) ∧
        port.setRecommendedState p s state = .ok (port', s') := by
  obtain ⟨recommended, hrecommended, h⟩ := bind_eq_ok.mp h
  cases recommended with
  | none =>
    obtain ⟨rfl, rfl⟩ := Prod.mk.inj (Except.ok.inj h)
    exact Or.inl ⟨hrecommended, rfl, rfl⟩
  | some state => exact Or.inr ⟨state, hrecommended, h⟩

omit [AcceptableMasterList A] in
theorem decideState_defaultDs {ebest : Option BestAnnounceMessage}
    {port port' : Port InBmca A R C F} (h : s.decideState p ebest port = .ok (port', s')) :
    s'.defaultDs = s.defaultDs := by
  rcases decideState_cases h with ⟨-, -, rfl⟩ | ⟨state, -, hset⟩
  · rfl
  · exact setRecommendedState_defaultDs hset

omit [AcceptableMasterList A] in
theorem decideStates_cons {ebest : Option BestAnnounceMessage} {port port' : Port InBmca A R C F}
    {s₁ : PtpInstanceState} (hport : s.decideState p ebest port = .ok (port', s₁))
    (hports : decideStates p ebest s₁ ports = .ok (ports', s')) :
    decideStates p ebest s (port :: ports) = .ok (port' :: ports', s') := by
  simp only [decideStates, hport, ok_bind, hports, pure_eq_ok]

omit [AcceptableMasterList A] in
theorem decideStates_cons_inv {ebest : Option BestAnnounceMessage} {port : Port InBmca A R C F}
    (h : decideStates p ebest s (port :: ports) = .ok (ports', s')) :
    ∃ first s₁ rest, s.decideState p ebest port = .ok (first, s₁) ∧
      decideStates p ebest s₁ ports = .ok (rest, s') ∧ ports' = first :: rest := by
  obtain ⟨⟨first, s₁⟩, hfirst, h⟩ := bind_eq_ok.mp h
  obtain ⟨⟨rest, s₂⟩, hrest, h⟩ := bind_eq_ok.mp h
  obtain ⟨rfl, rfl⟩ := Prod.mk.inj (Except.ok.inj h)
  exact ⟨first, s₁, rest, hfirst, hrest, rfl⟩

omit [AcceptableMasterList A] in
theorem decideStates_decided {ebest : Option BestAnnounceMessage} :
    ∀ {ports ports' : List (Port InBmca A R C F)} {s s' : PtpInstanceState},
      decideStates p ebest s ports = .ok (ports', s') →
      List.Forall₂ (Decided p ebest s) ports ports' ∧ s'.defaultDs = s.defaultDs := by
  intro ports
  induction ports with
  | nil =>
    intro ports' s s' h
    obtain ⟨rfl, rfl⟩ := Prod.mk.inj (Except.ok.inj h)
    exact ⟨.nil, rfl⟩
  | cons port ports ih =>
    intro ports' s s' h
    obtain ⟨port', s₁, rest, hport, hrest, rfl⟩ := decideStates_cons_inv h
    obtain ⟨hforall, hdefault⟩ := ih hrest
    have hsame := decideState_defaultDs hport
    refine ⟨.cons ⟨s, s₁, rfl, hport⟩ (hforall.imp ?_), hdefault.trans hsame⟩
    rintro port port' ⟨s₃, s₄, h₃, h₄⟩
    exact ⟨s₃, s₄, h₃.trans hsame, h₄⟩

end PtpInstanceState

/-! ### Reachable ports -/

namespace Slot.Reachable

variable {p : Profile} {port port' : Port InBmca A R C F}

theorem calculateBest (hr : Slot.Reachable T p (.inBmca port))
    (h : port.calculateBestLocalAnnounceMessage p = .ok port') :
    Slot.Reachable T p (.inBmca port') := by
  refine Machine.Reachable.step (e := .calculateBest) (o := .empty) hr ?_
  simp only [Slot.step, h, orPanic, ok_bind, pure_eq_ok]

theorem decided {s : PtpInstanceState} {ebest : Option BestAnnounceMessage}
    (hr : Slot.Reachable T p (.inBmca port)) (h : s.Decided p ebest port port') :
    Slot.Reachable T p (.inBmca port') := by
  obtain ⟨s₁, s₂, -, hdecide⟩ := h
  rcases PtpInstanceState.decideState_cases hdecide with ⟨-, rfl, -⟩ | ⟨state, -, hset⟩
  · exact hr
  · refine Machine.Reachable.step (e := .recommend s₁ state) (o := .empty) hr ?_
    simp only [Slot.step, hset, orPanic, ok_bind, pure_eq_ok]

theorem stepAge {step : Duration} (hr : Slot.Reachable T p (.inBmca port))
    (h : port.stepAnnounceAge p step = .ok port') : Slot.Reachable T p (.inBmca port') := by
  refine Machine.Reachable.step (e := .stepAge step) (o := .empty) hr ?_
  simp only [Slot.step, h, orPanic, ok_bind, pure_eq_ok]

end Slot.Reachable

/-- What a relation carries over, it carries over along two lists. -/
theorem forall_mem_of_forall₂ {α β : Type} {r : α → β → Prop} {P : α → Prop} {Q : β → Prop}
    {xs : List α} {ys : List β} (h : List.Forall₂ r xs ys) (hstep : ∀ x y, P x → r x y → Q y)
    (hxs : ∀ x ∈ xs, P x) : ∀ y ∈ ys, Q y := by
  induction h with
  | nil => intro y hy; cases hy
  | cons hr _ ih =>
    rw [List.forall_mem_cons] at hxs ⊢
    exact ⟨hstep _ _ hxs.1 hr, ih hxs.2⟩

/-- **Every port of a reachable instance is a reachable port.** -/
theorem System.Reachable.slot {p : Profile} {sys : System A R C F} (h : System.Reachable T p sys) :
    ∀ slot ∈ sys.ports, Slot.Reachable T p slot := by
  refine Machine.Reachable.invariant (P := fun sys : System A R C F =>
    ∀ slot ∈ sys.ports, Slot.Reachable T p slot) ?_ ?_ h
  · rintro sys ⟨config, timeProperties, rfl⟩ slot hslot
    cases hslot
  · intro sys e sys' actions hsys hstep slot hslot
    cases step_mem hstep hslot with
    | kept hold => exact hsys slot hold
    | stepped _ hport => exact .step (hsys _ (List.mem_of_getElem? hport.get)) hport.step
    | added hnew hslot =>
      rw [hslot]
      exact .init ⟨_, _, _, _, _, _, hnew, rfl⟩
    | decided hall hbmca hport hslot =>
      obtain ⟨ports₁, ports₂, ebest, hround⟩ := PtpInstanceState.bmca_eq_ok hbmca
      rw [allInBmca_eq_some hall, List.forall_mem_map] at hsys
      have h₁ := forall_mem_of_forall₂ hround.best
        (fun _ _ hr h => Slot.Reachable.calculateBest hr h) hsys
      have h₂ := forall_mem_of_forall₂ (PtpInstanceState.decideStates_decided hround.decide).1
        (fun _ _ hr h => Slot.Reachable.decided hr h) h₁
      rw [hslot]
      exact forall_mem_of_forall₂ hround.age
        (fun _ _ hr h => Slot.Reachable.stepAge hr h) h₂ _ hport

end Statime
