import Statime.Port.Machine

/-!
# The datasets that announce messages write

The parent, the steps removed and the time properties of an instance change when a slave hears its
parent, and when a round recommends M1, M2 or S1.

* `PtpInstanceState.AsAnnounced`: the datasets are those of an announce message.
* `PtpInstanceState.IsGrandmaster`: they are those of an instance that is its own grandmaster.
* `Port.handleAnnounce_datasets`: an announce message of the parent is written, any other is not.
* `System.step_updates`, `System.step_datasets`: what a step of an instance does to them.
-/

namespace Statime

open Rust

/-- The parent dataset of a clock that follows the sender. -/
def AnnounceMessage.parentDs (announce : AnnounceMessage) : InternalParentDS where
  parentPortIdentity := announce.header.sourcePortIdentity
  grandmasterIdentity := announce.grandmasterIdentity
  grandmasterClockQuality := announce.grandmasterClockQuality
  grandmasterPriority1 := announce.grandmasterPriority1
  grandmasterPriority2 := announce.grandmasterPriority2

namespace PtpInstanceState

/-- The datasets are those of the message, one step further away. -/
structure AsAnnounced (s : PtpInstanceState) (announce : AnnounceMessage) : Prop where
  stepsRemoved : s.currentDs.stepsRemoved = announce.stepsRemoved + 1
  parentDs : s.parentDs = announce.parentDs
  timePropertiesDs : s.timePropertiesDs = announce.timeProperties

/-- The parent is the instance itself. -/
structure IsGrandmaster (s : PtpInstanceState) : Prop where
  stepsRemoved : s.currentDs.stepsRemoved = 0
  parentDs : s.parentDs = InternalParentDS.new s.defaultDs

/-- Nothing was written. -/
structure SameDatasets (s s' : PtpInstanceState) : Prop where
  currentDs : s'.currentDs = s.currentDs
  parentDs : s'.parentDs = s.parentDs
  timePropertiesDs : s'.timePropertiesDs = s.timePropertiesDs

variable {p : Profile} {s s' : PtpInstanceState}

theorem SameDatasets.refl (s : PtpInstanceState) : s.SameDatasets s := ⟨rfl, rfl, rfl⟩

theorem SameDatasets.trans {s'' : PtpInstanceState} (h : s.SameDatasets s')
    (h' : s'.SameDatasets s'') : s.SameDatasets s'' :=
  ⟨h'.currentDs.trans h.currentDs, h'.parentDs.trans h.parentDs,
    h'.timePropertiesDs.trans h.timePropertiesDs⟩

theorem AsAnnounced.same {announce : AnnounceMessage} (h : s.AsAnnounced announce)
    (hsame : s.SameDatasets s') : s'.AsAnnounced announce :=
  ⟨by rw [hsame.currentDs, h.stepsRemoved], hsame.parentDs.trans h.parentDs,
    hsame.timePropertiesDs.trans h.timePropertiesDs⟩

/-- **An announce message of the parent is written**, also when it reports a clock loop; only the
path trace is then kept. -/
theorem updateFromParent_asAnnounced {message : Message} {announce : AnnounceMessage} {loop : Bool}
    (h : s.updateFromParent p message announce = .ok (s', loop)) :
    s'.AsAnnounced announce ∧ (loop = true → s'.pathTraceDs = s.pathTraceDs) ∧
      (p = .debug → announce.stepsRemoved ≠ 0xffff) := by
  obtain ⟨steps, hsteps, h⟩ := bind_eq_ok.mp h
  obtain ⟨hdebug, rfl⟩ := overflow_eq_ok.mp hsteps
  have hsteps : p = .debug → announce.stepsRemoved ≠ 0xffff :=
    fun hp => of_decide_eq_false (hdebug hp)
  dsimp only at h
  split at h
  · obtain ⟨found, -, h⟩ := bind_eq_ok.mp h
    cases found with
    | none =>
      obtain ⟨rfl, rfl⟩ := Prod.mk.inj (Except.ok.inj h)
      exact ⟨⟨rfl, rfl, rfl⟩, fun _ => rfl, hsteps⟩
    | some tlv =>
      dsimp only at h
      split at h
      · obtain ⟨rfl, rfl⟩ := Prod.mk.inj (Except.ok.inj h)
        exact ⟨⟨rfl, rfl, rfl⟩, fun _ => rfl, hsteps⟩
      · obtain ⟨list, -, h⟩ := bind_eq_ok.mp h
        obtain ⟨rfl, rfl⟩ := Prod.mk.inj (Except.ok.inj h)
        exact ⟨⟨rfl, rfl, rfl⟩, (fun hloop => by cases hloop), hsteps⟩
  · obtain ⟨rfl, rfl⟩ := Prod.mk.inj (Except.ok.inj h)
    exact ⟨⟨rfl, rfl, rfl⟩, fun _ => rfl, hsteps⟩

/-- **A port is told to follow**, and the message is written. -/
theorem follow_asAnnounced {announce : AnnounceMessage} (h : s.follow p announce = .ok s') :
    s'.AsAnnounced announce ∧ s'.pathTraceDs = s.pathTraceDs ∧
      (p = .debug → announce.stepsRemoved ≠ 0xffff) := by
  obtain ⟨steps, hsteps, h⟩ := bind_eq_ok.mp h
  obtain ⟨hdebug, rfl⟩ := overflow_eq_ok.mp hsteps
  obtain rfl := Except.ok.inj h
  exact ⟨⟨rfl, rfl, rfl⟩, rfl, fun hp => of_decide_eq_false (hdebug hp)⟩

theorem becomeGrandmaster_isGrandmaster (s : PtpInstanceState) :
    (s.becomeGrandmaster s.defaultDs).IsGrandmaster := ⟨rfl, rfl⟩

end PtpInstanceState

/-! ### Received announce messages -/

namespace Port

variable {A R C F : Type} [AcceptableMasterList A] [Clock C] [Filter F] [Rng R]
  {p : Profile} {s s' : PtpInstanceState} {port port' : Port Running A R C F}
  {actions : PortActionIterator} {message : Message} {announce : AnnounceMessage}

/-- **The datasets after an announce message.** -/
theorem handleAnnounce_datasets
    (h : port.handleAnnounce p s message announce = .ok (port', s', actions)) :
    (port.isFromParent s announce = true ∧ s'.AsAnnounced announce ∧
        (p = .debug → announce.stepsRemoved ≠ 0xffff)) ∨
      (port.isFromParent s announce = false ∧ s' = s) := by
  rcases handleAnnounce_updates h with ⟨hparent, loop, hupdate⟩ | hstranger
  · obtain ⟨hannounced, -, hsteps⟩ := PtpInstanceState.updateFromParent_asAnnounced hupdate
    exact Or.inl ⟨hparent, hannounced, hsteps⟩
  · exact Or.inr hstranger

omit [AcceptableMasterList A] [Clock C] [Rng R] in
/-- A packet is written when it is an announce message of the parent. -/
theorem UpdatesFrom.datasets {data : List UInt8} (h : port.UpdatesFrom p s s' data) :
    (∃ message announce, parseAndFilter s data = .ok (some message) ∧
        message.body = .announce announce ∧ port.isFromParent s announce = true ∧
        s'.AsAnnounced announce) ∨ s' = s := by
  rcases h with ⟨-, hs⟩ | ⟨message, hparse, hupdates⟩
  · exact Or.inr hs
  · cases hupdates with
    | parent hbody hparent hupdate =>
      obtain ⟨hannounced, -⟩ := PtpInstanceState.updateFromParent_asAnnounced hupdate
      exact Or.inl ⟨message, _, hparse, hbody, hparent, hannounced⟩
    | stranger _ _ hs | other _ hs => exact Or.inr hs

end Port

/-! ### The steps of an instance -/

namespace System

variable {A R C F T : Type} [AcceptableMasterList A] [Clock C] [Filter F] [Rng R]
  [ForwardedTLVProvider T] {p : Profile} {sys sys' : System A R C F} {e : Event A R C F T}
  {actions : PortActionIterator}

/-- The packet that an event brings to a port. -/
def receivedOn : Event A R C F T → Option (Nat × List UInt8)
  | .eventReceive i data _ | .generalReceive i data => some (i, data)
  | _ => none

/-- An announce message arrives at a running port, and passes the filter. -/
def Hears (sys : System A R C F) (e : Event A R C F T) (i : Nat) (port : Port Running A R C F)
    (message : Message) (announce : AnnounceMessage) : Prop :=
  ∃ data, receivedOn e = some (i, data) ∧ sys.getRunning i = some port ∧
    Port.parseAndFilter sys.state data = .ok (some message) ∧ message.body = .announce announce

/-- A slave hears its parent. -/
def HearsParent (sys : System A R C F) (e : Event A R C F T) (announce : AnnounceMessage) : Prop :=
  ∃ i port message, sys.Hears e i port message announce ∧
    port.isFromParent sys.state announce = true

omit [AcceptableMasterList A] [Clock C] [Rng R] [ForwardedTLVProvider T] in
/-- A handler of a packet. -/
theorem handleWithState_updates {i : Nat} {data : List UInt8}
    {handler : Port Running A R C F →
      Except Panic (Port Running A R C F × PtpInstanceState × PortActionIterator)}
    (hhandler : ∀ port port' s' actions, handler port = .ok (port', s', actions) →
      port.UpdatesFrom p sys.state s' data)
    (h : sys.handleWithState i handler = .ok (sys', actions)) :
    ∃ port, sys.getRunning i = some port ∧ port.UpdatesFrom p sys.state sys'.state data := by
  obtain ⟨port, hport, h⟩ := bind_eq_ok.mp h
  obtain ⟨⟨port', s', actions'⟩, hhandled, h⟩ := bind_eq_ok.mp h
  obtain ⟨rfl, -⟩ := Prod.mk.inj (Except.ok.inj h)
  exact ⟨port, orIllTyped_eq_ok.mp hport,
    hhandler port port' s' actions' (orPanic_eq_ok.mp hhandled)⟩

omit [AcceptableMasterList A] [Clock C] [Rng R] [ForwardedTLVProvider T] in
theorem handle_state {i : Nat}
    {handler : Port Running A R C F → Except Panic (Port Running A R C F × PortActionIterator)}
    (h : sys.handle i handler = .ok (sys', actions)) : sys'.state = sys.state := by
  obtain ⟨port, -, h⟩ := bind_eq_ok.mp h
  obtain ⟨⟨port', actions'⟩, -, h⟩ := bind_eq_ok.mp h
  obtain ⟨rfl, -⟩ := Prod.mk.inj (Except.ok.inj h)
  rfl

/-- **The state of the instance after a step**, rounds of the algorithm aside: packets update it,
and the other steps change no more than its settings. -/
theorem step_updates (he : e ≠ .bmca) (h : sys.step p e = .ok (sys', actions)) :
    (receivedOn e = none ∧ ∃ defaultDs, sys'.state = { sys.state with defaultDs }) ∨
      ∃ i data port, receivedOn e = some (i, data) ∧ sys.getRunning i = some port ∧
        port.UpdatesFrom p sys.state sys'.state data := by
  cases e with
  | bmca => exact absurd rfl he
  | addPort config filterConfig clock rng =>
    obtain ⟨sys₁, hsys₁, h⟩ := bind_eq_ok.mp h
    obtain ⟨rfl, -⟩ := Prod.mk.inj (Except.ok.inj h)
    obtain ⟨numberPorts, -, hsys₁⟩ := bind_eq_ok.mp (orPanic_eq_ok.mp hsys₁)
    obtain ⟨port, -, hsys₁⟩ := bind_eq_ok.mp hsys₁
    obtain rfl := Except.ok.inj hsys₁
    exact Or.inl ⟨rfl, _, rfl⟩
  | reorder order =>
    simp only [step] at h
    split at h
    · obtain ⟨rfl, -⟩ := Prod.mk.inj (Except.ok.inj h)
      exact Or.inl ⟨rfl, _, rfl⟩
    · cases h
  | startBmca i | endBmca i =>
    obtain ⟨port, -, h⟩ := bind_eq_ok.mp h
    obtain ⟨rfl, -⟩ := Prod.mk.inj (Except.ok.inj h)
    exact Or.inl ⟨rfl, _, rfl⟩
  | setClockQuality | setSlaveOnly =>
    obtain ⟨rfl, -⟩ := Prod.mk.inj (Except.ok.inj h)
    exact Or.inl ⟨rfl, _, rfl⟩
  | eventReceive i data timestamp =>
    obtain ⟨port, hport, hupdates⟩ := handleWithState_updates
      (fun _ _ _ _ hport => Port.handleEventReceive_updates hport) h
    exact Or.inr ⟨i, data, port, rfl, hport, hupdates⟩
  | generalReceive i data =>
    obtain ⟨port, hport, hupdates⟩ := handleWithState_updates
      (fun _ _ _ _ hport => Port.handleGeneralReceive_updates hport) h
    exact Or.inr ⟨i, data, port, rfl, hport, hupdates⟩
  | announceTimer | syncTimer | delayRequestTimer | announceReceiptTimer | filterUpdateTimer
  | sendTimestamp =>
    exact Or.inl ⟨rfl, sys.state.defaultDs, handle_state h⟩

/-- **The datasets after a step**, rounds of the algorithm aside. -/
theorem step_datasets (he : e ≠ .bmca) (h : sys.step p e = .ok (sys', actions)) :
    sys.state.SameDatasets sys'.state ∨
      ∃ announce, sys.HearsParent e announce ∧ sys'.state.AsAnnounced announce := by
  rcases step_updates he h with ⟨-, defaultDs, hstate⟩ | ⟨i, data, port, hdata, hport, hupdates⟩
  · rw [hstate]
    exact Or.inl ⟨rfl, rfl, rfl⟩
  · rcases hupdates.datasets with ⟨message, announce, hparse, hbody, hparent, hannounced⟩ | hsame
    · exact Or.inr ⟨announce, ⟨i, port, message, ⟨data, hdata, hport, hparse, hbody⟩, hparent⟩,
        hannounced⟩
    · rw [hsame]
      exact Or.inl (.refl _)

end System

end Statime
