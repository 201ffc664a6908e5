import Statime.Instance.Agreement
import Statime.Instance.MasterOnly
import Statime.Port.Genuine

/-!
# Instances on a network

Any number of instances that only hear what one of them sent.  The network may lose, duplicate, delay
and reorder packets, and deliver them to any port of any instance; the timers expire, the rounds come and
the settings change as they want.

* `InstanceNetwork.step`: an instance makes a step that the network allows.
* `InstanceNetwork.accounted_of_trace`: every instance has a run of its own, and every packet was sent in it.
* `InstanceNetwork.TracedBack`: announce messages of masters lead from a grandmaster to a state.
* `InstanceNetwork.no_invented_grandmaster`: they do so for the state of every instance.
-/

namespace Statime

open Rust Machine

/-- The instances, and the packets that they sent. -/
structure InstanceNetwork (A R C F : Type) [Filter F] where
  systems : List (System A R C F)
  sent : List (List UInt8)

namespace InstanceNetwork

variable {A R C F T : Type} [Filter F]

/-! ### The machine -/

section Defs

/-- What the network can bring to an instance. -/
def allows (net : InstanceNetwork A R C F) (e : Event A R C F T) : Bool :=
  (System.receivedOn e).all fun x => decide (x.2 ∈ net.sent)

def after (net : InstanceNetwork A R C F) (i : Nat) (sys : System A R C F)
    (actions : PortActionIterator) : InstanceNetwork A R C F where
  systems := net.systems.set i sys
  sent := net.sent ++ actions.packets

variable [AcceptableMasterList A] [Clock C] [Rng R] [ForwardedTLVProvider T]

def step (p : Profile) (net : InstanceNetwork A R C F) (e : Nat × Event A R C F T) :
    Except Stop (InstanceNetwork A R C F × PortActionIterator) := do
  let sys ← orIllTyped net.systems[e.1]?
  if net.allows e.2 then
    let (sys, actions) ← sys.step p e.2
    return (net.after e.1 sys actions, actions)
  else .error .illTyped

omit [AcceptableMasterList A] [Clock C] [Rng R] in
/-- New instances, and nothing on the network. -/
structure Initial (net : InstanceNetwork A R C F) : Prop where
  systems : ∀ sys ∈ net.systems, sys.Initial
  sdoId : ∀ sys ∈ net.systems, sys.state.defaultDs.sdoId.InRange
  sent : net.sent = []

end Defs

/-- A run of the network. -/
abbrev Log (A R C F T : Type) [Filter F] :=
  List (Transition (InstanceNetwork A R C F) (Nat × Event A R C F T))

/-- One instance makes a step. -/
structure Took [AcceptableMasterList A] [Clock C] [Rng R] [ForwardedTLVProvider T] (p : Profile)
    (net net' : InstanceNetwork A R C F) (i : Nat) (e : Event A R C F T) (sys sys' : System A R C F)
    (actions : PortActionIterator) : Prop where
  get : net.systems[i]? = some sys
  allowed : net.allows e = true
  step : sys.step p e = .ok (sys', actions)
  result : net' = net.after i sys' actions

section Steps

variable [AcceptableMasterList A] [Clock C] [Rng R] [ForwardedTLVProvider T] {p : Profile}
  {net net' : InstanceNetwork A R C F} {actions : PortActionIterator}

theorem step_took {e : Nat × Event A R C F T} (h : net.step p e = .ok (net', actions)) :
    ∃ sys sys', Took p net net' e.1 e.2 sys sys' actions := by
  obtain ⟨sys, hsys, h⟩ := bind_eq_ok.mp h
  split at h
  · rename_i hallowed
    obtain ⟨⟨sys', actions'⟩, hstep, h⟩ := bind_eq_ok.mp h
    obtain ⟨rfl, rfl⟩ := Prod.mk.inj (Except.ok.inj h)
    exact ⟨sys, sys', orIllTyped_eq_ok.mp hsys, hallowed, hstep, rfl⟩
  · cases h

variable {i : Nat} {e : Event A R C F T} {sys sys' : System A R C F}

/-- An instance after a step of some instance. -/
theorem Took.get_after (h : Took p net net' i e sys sys' actions) {j : Nat} {s : System A R C F}
    (hj : net'.systems[j]? = some s) : (j = i ∧ s = sys') ∨ (j ≠ i ∧ net.systems[j]? = some s) := by
  rw [h.result] at hj
  by_cases hij : i = j
  · subst hij
    have hlt : i < net.systems.length := (List.getElem?_eq_some_iff.mp h.get).1
    rw [after, List.getElem?_set_self hlt] at hj
    exact Or.inl ⟨rfl, (Option.some.inj hj).symm⟩
  · rw [after, List.getElem?_set_ne hij] at hj
    exact Or.inr ⟨Ne.symm hij, hj⟩

end Steps

end InstanceNetwork

/-! ### What an instance sends -/

/-- **What others read of an announce message** that a port sends in this state: its accuracy and its time
source are what their codes stand for. -/
def Port.Announces {A R C F : Type} [Filter F] (p : Profile) (port : Port Running A R C F)
    (s : PtpInstanceState) (a : AnnounceMessage) : Prop :=
  ∃ announce code source,
    (Message.announce s port.portIdentity port.announceSeqIds.current
      port.config.minorPtpVersion.toUInt8).body = .announce announce ∧
    announce.grandmasterClockQuality.clockAccuracy.toPrimitive p = .ok code ∧
    announce.timeSource.toPrimitive p = .ok source ∧ a = announce.decoded code source

theorem Message.announce_header_inRange {s : PtpInstanceState} (hsdo : s.defaultDs.sdoId.InRange)
    (portIdentity : PortIdentity) (sequenceId : UInt16) (minor : PtpMinorVersion) :
    (Message.announce s portIdentity sequenceId minor.toUInt8).header.InRange :=
  have hheader := baseHeader_inRange hsdo portIdentity sequenceId minor
  ⟨hheader.sdoId, hheader.version⟩

namespace System

variable {A R C F T : Type} [AcceptableMasterList A] [Clock C] [Filter F] [Rng R]
  [ForwardedTLVProvider T] {p : Profile} {sys sys' : System A R C F} {e : Event A R C F T}
  {actions : PortActionIterator}

/-- The `SdoId` is set once and for all. -/
theorem step_sdoId (h : sys.step p e = .ok (sys', actions)) :
    sys'.state.defaultDs.sdoId = sys.state.defaultDs.sdoId := by
  cases e with
  | addPort config filterConfig clock rng =>
    obtain ⟨sys₁, hsys₁, h⟩ := bind_eq_ok.mp h
    obtain ⟨rfl, -⟩ := Prod.mk.inj (Except.ok.inj h)
    obtain ⟨numberPorts, -, hsys₁⟩ := bind_eq_ok.mp (orPanic_eq_ok.mp hsys₁)
    obtain ⟨port, -, hsys₁⟩ := bind_eq_ok.mp hsys₁
    obtain rfl := Except.ok.inj hsys₁
    rfl
  | reorder order =>
    simp only [step] at h
    split at h
    · obtain ⟨rfl, -⟩ := Prod.mk.inj (Except.ok.inj h)
      rfl
    · cases h
  | setClockQuality | setSlaveOnly =>
    obtain ⟨rfl, -⟩ := Prod.mk.inj (Except.ok.inj h)
    rfl
  | bmca =>
    obtain ⟨_, _, _, -, hbmca, -⟩ := step_bmca h
    obtain ⟨_, _, _, hround⟩ := PtpInstanceState.bmca_eq_ok hbmca
    rw [(PtpInstanceState.decideStates_decided hround.decide).2]
  | startBmca | endBmca | eventReceive | generalReceive | announceTimer | syncTimer
  | delayRequestTimer | announceReceiptTimer | filterUpdateTimer | sendTimestamp =>
    obtain ⟨_, _, hport⟩ := step_onPort rfl h
    rw [hport.state.defaultDs]

/-- Only the calls on a port send something. -/
theorem actions_of_not_onPort (he : e.onPort sys.state = none)
    (h : sys.step p e = .ok (sys', actions)) : actions = .empty := by
  cases e with
  | addPort =>
    obtain ⟨_, -, h⟩ := bind_eq_ok.mp h
    exact (Prod.mk.inj (Except.ok.inj h)).2.symm
  | bmca =>
    obtain ⟨_, -, h⟩ := bind_eq_ok.mp h
    obtain ⟨_, -, h⟩ := bind_eq_ok.mp h
    exact (Prod.mk.inj (Except.ok.inj h)).2.symm
  | reorder order =>
    simp only [step] at h
    split at h
    · exact (Prod.mk.inj (Except.ok.inj h)).2.symm
    · cases h
  | setClockQuality | setSlaveOnly => exact (Prod.mk.inj (Except.ok.inj h)).2.symm
  | startBmca | endBmca | eventReceive | generalReceive | announceTimer | syncTimer
  | delayRequestTimer | announceReceiptTimer | filterUpdateTimer | sendTimestamp => cases he

omit [AcceptableMasterList A] [Clock C] [Rng R] [ForwardedTLVProvider T] in
theorem announceTimer_of_onPort {s s' : PtpInstanceState} {i : Nat} {provider : T}
    (he : e.onPort s = some (i, .announceTimer s' provider)) :
    e = .announceTimer i provider ∧ s' = s := by
  cases e with
  | announceTimer j provider' =>
    obtain ⟨rfl, hsame⟩ := Prod.mk.inj (Option.some.inj he)
    obtain ⟨rfl, rfl⟩ := PortEvent.announceTimer.inj hsame
    exact ⟨rfl, rfl⟩
  | _ => cases he

/-- **An announce message that leaves an instance** is sent by a master, and has the datasets of the
instance. -/
theorem step_announces (hr : System.Reachable T p sys) (hsdo : sys.state.defaultDs.sdoId.InRange)
    (h : sys.step p e = .ok (sys', actions)) {data : List UInt8} (hdata : data ∈ actions.packets)
    {message : Message} (hread : Message.deserialize data = .ok message) {a : AnnounceMessage}
    (hbody : message.body = .announce a) :
    ∃ i provider, ∃ port : Port Running A R C F, e = .announceTimer i provider ∧
      sys.getRunning i = some port ∧ port.portState = .master ∧ port.Announces p sys.state a := by
  cases he : e.onPort sys.state with
  | none =>
    rw [actions_of_not_onPort he h] at hdata
    cases hdata
  | some target =>
    obtain ⟨i, e'⟩ := target
    obtain ⟨slot, slot', hport⟩ := step_onPort he h
    rw [PortActionIterator.packets_eq] at hdata
    cases (hr.slot slot (List.mem_of_getElem? hport.get)).emits hport.step with
    | silent hsends =>
      rw [hsends] at hdata
      cases hdata
    | @sent type port o buffer data' hslot hsends hwritten hactions =>
      rw [hactions, List.filterMap_cons_some (Outgoing.packet_action o data'), List.filterMap_nil,
        List.mem_singleton] at hdata
      subst hdata hslot
      -- the type is in the packet, and only one call sends announce messages
      have htype : type = .announce := by
        rw [← hsends.type_eq, Outgoing.type]
        refine Option.some.inj ((packetType_serialize hwritten).symm.trans ?_)
        rw [(packetType_deserialize hread).1, hbody]
        rfl
      subst htype
      cases hsends with
      | @announce s provider provider' written hmaster hbuild =>
        obtain ⟨suffix, rfl⟩ := Port.buildAnnounce_eq hbuild
        obtain ⟨rfl, rfl⟩ := announceTimer_of_onPort he
        have hget : sys.getRunning i = some port := by
          rw [getRunning, hport.get]
        have htime : (default : WireTimestamp).InRange := by
          show (0 : Nat) < 2 ^ 48
          decide
        have hheader := Message.announce_header_inRange hsdo port.portIdentity
          port.announceSeqIds.current port.config.minorPtpVersion
        obtain ⟨code, source, hcode, hsource, hmessage⟩ :=
          PacketBuffer.announce_of_deserialize hwritten hread rfl hheader rfl htime
        rw [hmessage] at hbody
        exact ⟨i, provider, port, rfl, hget, hmaster, _, code, source, rfl, hcode, hsource,
          (MessageBody.announce.inj hbody).symm⟩

/-- **Where the datasets come from**: they stay, the instance becomes its own grandmaster, or it takes
them from an announce message that one of its ports heard, now or before. -/
theorem step_heard {log : List (Transition (System A R C F) (Event A R C F T))}
    (htrace : Trace (System.step p) System.Initial log sys)
    (h : sys.step p e = .ok (sys', actions)) :
    sys.state.SameDatasets sys'.state ∨ sys'.state.IsGrandmaster ∨
      ∃ a, sys'.state.AsAnnounced a ∧ ∃ t ∈ log ++ [⟨sys, e, sys'⟩], ∃ i port message,
        t.before.Hears t.event i port message a := by
  by_cases he : e = .bmca
  · subst he
    rcases bmca_datasets h with hsame | hown | ⟨ports, best, hall, hbest, hannounced⟩
    · exact Or.inl hsame
    · exact Or.inr (Or.inl hown)
    · obtain ⟨port, -, -, -, t, ht, i, port', message, hhears, -⟩ :=
        ebest_not_masterOnly htrace hall hbest
      exact Or.inr (Or.inr ⟨_, hannounced, t, List.mem_append_left _ ht, i, port', message, hhears⟩)
  · rcases step_datasets he h with hsame | ⟨a, ⟨i, port, message, hhears, -⟩, hannounced⟩
    · exact Or.inl hsame
    · exact Or.inr (Or.inr ⟨a, hannounced, _, List.mem_append_right _ List.mem_cons_self, i, port,
        message, hhears⟩)

end System

/-! ### Runs of the network -/

namespace InstanceNetwork

variable {A R C F T : Type} [AcceptableMasterList A] [Clock C] [Filter F] [Rng R]
  [ForwardedTLVProvider T] {p : Profile} {net : InstanceNetwork A R C F} {log : Log A R C F T}

/-- **Everything on the network is accounted for.** -/
structure Accounted (p : Profile) (log : Log A R C F T) (net : InstanceNetwork A R C F) : Prop where
  systems : ∀ i sys, net.systems[i]? = some sys →
    ∃ slog : List (Transition (System A R C F) (Event A R C F T)),
      Trace (System.step p) System.Initial slog sys ∧
        ∀ u ∈ slog, ∃ t ∈ log, t.event = (i, u.event) ∧ t.before.systems[i]? = some u.before
  sdoId : ∀ (i : Nat) (sys : System A R C F), net.systems[i]? = some sys →
    sys.state.defaultDs.sdoId.InRange
  sent : ∀ data ∈ net.sent, ∃ t ∈ log, ∃ sys sys' actions,
    t.before.systems[t.event.1]? = some sys ∧ sys.step p t.event.2 = .ok (sys', actions) ∧
      data ∈ actions.packets

theorem accounted_of_trace (h : Trace (step p) Initial log net) : Accounted p log net := by
  induction h with
  | init hinit =>
    refine ⟨fun i sys hsys => ⟨[], .init (hinit.systems sys (List.mem_of_getElem? hsys)), ?_⟩,
      fun i sys hsys => hinit.sdoId sys (List.mem_of_getElem? hsys), ?_⟩
    · intro u hu
      cases hu
    · intro data hdata
      rw [hinit.sent] at hdata
      cases hdata
  | @step log net net' e actions htrace hstep ih =>
    obtain ⟨sys, sys', htook⟩ := step_took hstep
    refine ⟨fun j s hs => ?_, fun j s hs => ?_, fun data hdata => ?_⟩
    · rcases htook.get_after hs with ⟨rfl, rfl⟩ | ⟨-, hold⟩
      · obtain ⟨slog, hslog, hmem⟩ := ih.systems _ _ htook.get
        refine ⟨slog ++ [⟨sys, e.2, s⟩], hslog.step htook.step, fun u hu => ?_⟩
        rcases List.mem_append.mp hu with hu | hu
        · obtain ⟨t, ht, hrest⟩ := hmem u hu
          exact ⟨t, List.mem_append_left _ ht, hrest⟩
        · obtain rfl := List.mem_singleton.mp hu
          exact ⟨_, List.mem_append_right _ List.mem_cons_self, rfl, htook.get⟩
      · obtain ⟨slog, hslog, hmem⟩ := ih.systems _ _ hold
        refine ⟨slog, hslog, fun u hu => ?_⟩
        obtain ⟨t, ht, hrest⟩ := hmem u hu
        exact ⟨t, List.mem_append_left _ ht, hrest⟩
    · rcases htook.get_after hs with ⟨rfl, rfl⟩ | ⟨-, hold⟩
      · rw [System.step_sdoId htook.step]
        exact ih.sdoId _ _ htook.get
      · exact ih.sdoId j s hold
    · rw [htook.result] at hdata
      rcases List.mem_append.mp hdata with hold | hnew
      · obtain ⟨t, ht, hrest⟩ := ih.sent data hold
        exact ⟨t, List.mem_append_left _ ht, hrest⟩
      · exact ⟨_, List.mem_append_right _ List.mem_cons_self, sys, sys', actions, htook.get,
          htook.step, hnew⟩

/-- **A master announced this** in one of the steps, when its instance was in this state. -/
def Announced (p : Profile) (t : Transition (InstanceNetwork A R C F) (Nat × Event A R C F T))
    (j : Nat) (s : PtpInstanceState) (a : AnnounceMessage) : Prop :=
  ∃ (sys : System A R C F) (i : Nat) (provider : T) (port : Port Running A R C F),
    t.before.systems[j]? = some sys ∧ sys.state = s ∧ t.event = (j, .announceTimer i provider) ∧
    sys.getRunning i = some port ∧ port.portState = .master ∧ port.Announces p s a

omit [AcceptableMasterList A] [Clock C] [Rng R] [ForwardedTLVProvider T] in
theorem Announced.state {t : Transition (InstanceNetwork A R C F) (Nat × Event A R C F T)} {j : Nat}
    {s : PtpInstanceState} {a : AnnounceMessage} (h : Announced p t j s a) :
    ∃ sys : System A R C F, t.before.systems[j]? = some sys ∧ sys.state = s := by
  obtain ⟨sys, i, provider, port, hsys, hstate, -⟩ := h
  exact ⟨sys, hsys, hstate⟩

/-- **What an instance hears was announced before.** -/
theorem announced_of_hears (htrace : Trace (step p) Initial log net) {e : Event A R C F T}
    (hallowed : net.allows e = true) {sys : System A R C F} {i : Nat} {port : Port Running A R C F}
    {message : Message} {a : AnnounceMessage} (hhears : sys.Hears e i port message a) :
    ∃ t ∈ log, ∃ j s, Announced p t j s a := by
  obtain ⟨data, hreceived, -, hparse, hbody⟩ := hhears
  have hdata : data ∈ net.sent := by
    rw [allows, hreceived, Option.all_some, decide_eq_true_eq] at hallowed
    exact hallowed
  obtain ⟨t, ht, sys, sys', actions, hsys, hstep, hpackets⟩ :=
    (accounted_of_trace htrace).sent data hdata
  obtain ⟨earlier, later, rfl⟩ := List.append_of_mem ht
  have haccounted := accounted_of_trace (htrace.split rfl).1
  obtain ⟨slog, hslog, -⟩ := haccounted.systems _ _ hsys
  obtain ⟨k, provider, port', hevent, hport, hmaster, hannounces⟩ :=
    System.step_announces hslog.reachable (haccounted.sdoId _ _ hsys) hstep hpackets
      (Port.parseAndFilter_eq_some hparse).1 hbody
  exact ⟨t, ht, t.event.1, sys.state, sys, k, provider, port', hsys, rfl, Prod.ext rfl hevent, hport,
    hmaster, hannounces⟩

/-- So was what it heard in some step. -/
theorem announced_of_heard (htrace : Trace (step p) Initial log net)
    {t : Transition (InstanceNetwork A R C F) (Nat × Event A R C F T)} (ht : t ∈ log) {i : Nat}
    {e : Event A R C F T} (hevent : t.event = (i, e)) {sys : System A R C F} {a : AnnounceMessage}
    (hheard : ∃ i port message, sys.Hears e i port message a) :
    ∃ earlier t' later j s, log = earlier ++ t' :: later ∧ Announced p t' j s a := by
  obtain ⟨k, port, message, hhears⟩ := hheard
  obtain ⟨before, after, rfl⟩ := List.append_of_mem ht
  obtain ⟨hbefore, o, hstep⟩ := htrace.split rfl
  obtain ⟨_, _, htook⟩ := step_took hstep
  have hallowed := htook.allowed
  rw [hevent] at hallowed
  obtain ⟨t', ht', j, s, hannounced⟩ := announced_of_hears hbefore hallowed hhears
  obtain ⟨earlier, later, rfl⟩ := List.append_of_mem ht'
  exact ⟨earlier, t', later ++ t :: after, j, s, by rw [List.append_assoc, List.cons_append],
    hannounced⟩

/-! ### Back to a grandmaster -/

end InstanceNetwork

/-- **What an instance says of a grandmaster** that is `n` steps away.  Of its accuracy only the code is
known, and a code that stands for no accuracy is read as zero; the time source is not compared. -/
structure PtpInstanceState.Describes (s gs : PtpInstanceState) (n : Nat) : Prop where
  grandmasterIdentity : s.parentDs.grandmasterIdentity = gs.defaultDs.clockIdentity
  grandmasterPriority1 : s.parentDs.grandmasterPriority1 = gs.defaultDs.priority1
  grandmasterPriority2 : s.parentDs.grandmasterPriority2 = gs.defaultDs.priority2
  clockClass : s.parentDs.grandmasterClockQuality.clockClass = gs.defaultDs.clockQuality.clockClass
  clockAccuracy : s.parentDs.grandmasterClockQuality.clockAccuracy.code =
      gs.defaultDs.clockQuality.clockAccuracy.code ∨
    s.parentDs.grandmasterClockQuality.clockAccuracy.code = 0
  offsetScaledLogVariance : s.parentDs.grandmasterClockQuality.offsetScaledLogVariance =
    gs.defaultDs.clockQuality.offsetScaledLogVariance
  stepsRemoved : s.currentDs.stepsRemoved = UInt16.ofNat n
  timeProperties : s.timePropertiesDs =
    { gs.timePropertiesDs with timeSource := s.timePropertiesDs.timeSource }

namespace PtpInstanceState

variable {p : Profile} {s s' gs : PtpInstanceState} {n : Nat}

theorem IsGrandmaster.describes (h : gs.IsGrandmaster) (hsame : gs.SameDatasets s) :
    s.Describes gs 0 := by
  have hparent : s.parentDs = InternalParentDS.new gs.defaultDs := hsame.parentDs.trans h.parentDs
  refine ⟨?_, ?_, ?_, ?_, Or.inl ?_, ?_, ?_, ?_⟩
  all_goals first
    | rw [hparent]; rfl
    | rw [hsame.currentDs, h.stepsRemoved]; rfl
    | rw [hsame.timePropertiesDs]

/-- The time properties survive the wire, apart from the time source. -/
theorem timeProperties_announce {portIdentity : PortIdentity} {sequenceId : UInt16} {minor : UInt8}
    {announce : AnnounceMessage}
    (h : (Message.announce s portIdentity sequenceId minor).body = .announce announce)
    (code source : UInt8) : (announce.decoded code source).timeProperties =
      { s.timePropertiesDs with timeSource := .fromPrimitive source } := by
  obtain rfl := MessageBody.announce.inj h
  obtain ⟨defaultDs, currentDs, parentDs, pathTraceDs, offset, leap, _, _, _, _⟩ := s
  cases offset <;> cases leap <;> rfl

/-- **One step further away.** -/
theorem Describes.announced {A R C F : Type} [Filter F] {port : Port Running A R C F}
    {a : AnnounceMessage} (h : s.Describes gs n) (ha : port.Announces p s a)
    (has : s'.AsAnnounced a) : s'.Describes gs (n + 1) := by
  obtain ⟨announce, code, source, hbody, hcode, -, rfl⟩ := ha
  have htime := timeProperties_announce hbody code source
  obtain rfl := MessageBody.announce.inj hbody
  have hparent := has.parentDs
  refine ⟨?_, ?_, ?_, ?_, ?_, ?_, ?_, ?_⟩
  · rw [hparent]
    exact h.grandmasterIdentity
  · rw [hparent]
    exact h.grandmasterPriority1
  · rw [hparent]
    exact h.grandmasterPriority2
  · rw [hparent]
    exact h.clockClass
  · rw [hparent]
    show (ClockAccuracy.fromPrimitive code).code = _ ∨ (ClockAccuracy.fromPrimitive code).code = 0
    rcases ClockAccuracy.code_fromPrimitive code with hsame | hzero
    · rw [hsame, ClockAccuracy.toPrimitive_eq_code hcode]
      exact h.clockAccuracy
    · exact Or.inr hzero
  · rw [hparent]
    exact h.offsetScaledLogVariance
  · rw [has.stepsRemoved, UInt16.ofNat_add, ← h.stepsRemoved]
    rfl
  · rw [has.timePropertiesDs, htime, h.timeProperties]

end PtpInstanceState

namespace InstanceNetwork

variable {A R C F T : Type} [AcceptableMasterList A] [Clock C] [Filter F] [Rng R]
  [ForwardedTLVProvider T] {p : Profile} {net : InstanceNetwork A R C F} {log : Log A R C F T}

/-- Instance `g` was in this state in the run, or is in it at the end. -/
def Was (log : Log A R C F T) (net : InstanceNetwork A R C F) (g : Nat) (gs : PtpInstanceState) : Prop :=
  (∃ t ∈ log, ∃ sys, t.before.systems[g]? = some sys ∧ sys.state = gs) ∨
    ∃ sys, net.systems[g]? = some sys ∧ sys.state = gs

/-- **Announce messages of masters lead back from a state to a grandmaster**, that is to an instance that
was its own parent in the state `gs`.  Each of them was announced before the next one. -/
inductive TracedBack (p : Profile) (g : Nat) (gs : PtpInstanceState) :
    Log A R C F T → InstanceNetwork A R C F → Nat → PtpInstanceState → Prop
  | own {log : Log A R C F T} {net : InstanceNetwork A R C F} {s : PtpInstanceState} :
      Was log net g gs → gs.IsGrandmaster → gs.SameDatasets s → TracedBack p g gs log net 0 s
  | heard {earlier later : Log A R C F T} {net : InstanceNetwork A R C F} {n j : Nat}
      {t : Transition (InstanceNetwork A R C F) (Nat × Event A R C F T)} {s s' : PtpInstanceState}
      {a : AnnounceMessage} : TracedBack p g gs earlier t.before n s → Announced p t j s a →
      s'.AsAnnounced a → TracedBack p g gs (earlier ++ t :: later) net (n + 1) s'

section Steps

variable {net' : InstanceNetwork A R C F} {g n : Nat} {gs s s' : PtpInstanceState}

omit [AcceptableMasterList A] [Clock C] [Rng R] [ForwardedTLVProvider T] in
theorem Was.later {earlier later : Log A R C F T}
    {t : Transition (InstanceNetwork A R C F) (Nat × Event A R C F T)}
    (h : Was earlier t.before g gs) : Was (earlier ++ t :: later) net g gs := by
  rcases h with ⟨u, hu, hrest⟩ | hnow
  · exact Or.inl ⟨u, List.mem_append_left _ hu, hrest⟩
  · exact Or.inl ⟨t, List.mem_append_right _ List.mem_cons_self, hnow⟩

omit [AcceptableMasterList A] [Clock C] [Rng R] [ForwardedTLVProvider T] in
/-- It stays so. -/
theorem TracedBack.later {t : Transition (InstanceNetwork A R C F) (Nat × Event A R C F T)}
    (h : TracedBack p g gs log t.before n s) : TracedBack p g gs (log ++ [t]) net n s := by
  cases h with
  | own hwas hgrandmaster hsame => exact .own hwas.later hgrandmaster hsame
  | heard hback hannounced has =>
    rw [List.append_assoc, List.cons_append]
    exact .heard hback hannounced has

omit [AcceptableMasterList A] [Clock C] [Rng R] [ForwardedTLVProvider T] in
theorem TracedBack.same (h : TracedBack p g gs log net n s) (hsame : s.SameDatasets s') :
    TracedBack p g gs log net n s' := by
  cases h with
  | own hwas hgrandmaster hbefore => exact .own hwas hgrandmaster (hbefore.trans hsame)
  | heard hback hannounced has => exact .heard hback hannounced (has.same hsame)

end Steps

omit [AcceptableMasterList A] [Clock C] [Rng R] [ForwardedTLVProvider T] in
/-- **What is said of the grandmaster is true**, of one of its states in the run. -/
theorem TracedBack.describes {g n : Nat} {gs s : PtpInstanceState}
    (h : TracedBack p g gs log net n s) :
    Was log net g gs ∧ gs.IsGrandmaster ∧ s.Describes gs n := by
  induction h with
  | own hwas hgrandmaster hsame => exact ⟨hwas, hgrandmaster, hgrandmaster.describes hsame⟩
  | heard _ hannounced has ih =>
    obtain ⟨hwas, hgrandmaster, hdescribes⟩ := ih
    obtain ⟨_, _, _, port, -, -, -, -, -, hannounces⟩ := hannounced
    exact ⟨hwas.later, hgrandmaster, hdescribes.announced hannounces has⟩

/-- **Every state leads back to a grandmaster.** -/
theorem tracedBack_of_trace (h : Trace (step p) Initial log net) :
    ∀ (i : Nat) (sys : System A R C F), net.systems[i]? = some sys →
      ∃ g gs n, TracedBack p g gs log net n sys.state := by
  refine Trace.strong_induction (P := fun log net => ∀ (i : Nat) (sys : System A R C F),
    net.systems[i]? = some sys → ∃ g gs n, TracedBack p g gs log net n sys.state) ?_ h
  intro log net' htrace ih
  cases htrace with
  | init hinit =>
    intro i sys hsys
    obtain ⟨config, timeProperties, hnew⟩ := hinit.systems sys (List.mem_of_getElem? hsys)
    have hgrandmaster : sys.state.IsGrandmaster := by
      rw [hnew]
      exact ⟨rfl, rfl⟩
    exact ⟨i, sys.state, 0, .own (Or.inr ⟨sys, hsys, rfl⟩) hgrandmaster (.refl _)⟩
  | @step log net _ e actions htrace hstep =>
    obtain ⟨sys, sys', htook⟩ := step_took hstep
    intro j s hs
    rcases htook.get_after hs with ⟨rfl, rfl⟩ | ⟨-, hold⟩
    · obtain ⟨slog, hslog, hmem⟩ := (accounted_of_trace htrace).systems _ _ htook.get
      rcases System.step_heard hslog htook.step with hsame | hown | ⟨a, has, u, hu, hheard⟩
      · obtain ⟨g, gs, n, hback⟩ := ih log _ [] rfl _ _ htook.get
        exact ⟨g, gs, n, hback.later.same hsame⟩
      · exact ⟨e.1, s.state, 0, .own (Or.inr ⟨s, hs, rfl⟩) hown (.refl _)⟩
      · obtain ⟨t, ht, hevent⟩ : ∃ t ∈ log ++ [⟨net, e, net'⟩], t.event = (e.1, u.event) := by
          rcases List.mem_append.mp hu with hold | hnew
          · obtain ⟨t, ht, hevent, -⟩ := hmem u hold
            exact ⟨t, List.mem_append_left _ ht, hevent⟩
          · obtain rfl := List.mem_singleton.mp hnew
            exact ⟨_, List.mem_append_right _ List.mem_cons_self, rfl⟩
        -- the message was announced in an earlier step, and its sender leads back before that step
        obtain ⟨earlier, t', later, l, s', hlog, hannounced⟩ :=
          announced_of_heard (htrace.step hstep) ht hevent hheard
        obtain ⟨sys₁, hsys₁, rfl⟩ := hannounced.state
        obtain ⟨g, gs, n, hback⟩ := ih earlier t' later hlog l sys₁ hsys₁
        refine ⟨g, gs, n + 1, ?_⟩
        rw [hlog]
        exact .heard hback hannounced has
    · obtain ⟨g, gs, n, hback⟩ := ih log ⟨net, e, net'⟩ [] rfl j s hold
      exact ⟨g, gs, n, hback.later⟩

/-- **No invented grandmaster.**  In every run of any number of instances, each of them says of its
grandmaster what is true of an instance that was its own parent: its identity, priorities and clock class,
its distance and its time properties.  Announce messages of masters lead from the state of that instance
to its own, each of them announced before the next one. -/
theorem no_invented_grandmaster (htrace : Trace (step p) Initial log net) {i : Nat}
    {sys : System A R C F} (hi : net.systems[i]? = some sys) :
    ∃ g gs n, Was log net g gs ∧ gs.IsGrandmaster ∧ sys.state.Describes gs n ∧
      TracedBack p g gs log net n sys.state := by
  obtain ⟨g, gs, n, hback⟩ := tracedBack_of_trace htrace i sys hi
  obtain ⟨hwas, hgrandmaster, hdescribes⟩ := hback.describes
  exact ⟨g, gs, n, hwas, hgrandmaster, hdescribes, hback⟩

abbrev TestInstances := InstanceNetwork AcceptAnyMaster TestRng TestClock TestFilter

/-- Two instances, of which the first one is better. -/
def firstConfig : InstanceConfig :=
  { testInstanceConfig with clockIdentity := testParent.clockIdentity, priority1 := 1 }

def twoInstances : TestInstances where
  systems := [testSystem firstConfig, testSystem testInstanceConfig]
  sent := []

/-- An announce message of the first one. -/
def firstAnnounce (sequenceId : UInt16) : List UInt8 :=
  ((PacketBuffer.zero.serialize .debug (Message.announce (testSystem firstConfig).state testParent
    sequenceId 1)).map (·.2)).toOption.getD []

/-- The first one announces itself twice, and the second one follows it. -/
def followFirst : List (Nat × TestEvent) :=
  [(0, .addPort testPortConfig () ⟨⟩ ⟨⟩), (1, .addPort testPortConfig () ⟨⟩ ⟨⟩), (0, .endBmca 0),
    (1, .endBmca 0), (0, .announceReceiptTimer 0), (0, .announceTimer 0 ⟨⟩),
    (0, .announceTimer 0 ⟨⟩), (1, .generalReceive 0 (firstAnnounce 0)),
    (1, .generalReceive 0 (firstAnnounce 1)), (1, .startBmca 0), (1, .bmca)]

/-- The second one says that its grandmaster is the first one, one step away. -/
theorem no_invented_grandmaster_two : ∃ (log : Log AcceptAnyMaster TestRng TestClock TestFilter
      NoForwardedTLVs) (net : TestInstances) (sys : TestSystem),
    Trace (step .debug) Initial log net ∧ net.systems[1]? = some sys ∧
    sys.state.currentDs.stepsRemoved = 1 ∧
    sys.state.parentDs.grandmasterIdentity = testParent.clockIdentity ∧
    ∃ g gs n, Was log net g gs ∧ gs.IsGrandmaster ∧ sys.state.Describes gs n ∧
      TracedBack .debug g gs log net n sys.state := by
  have hrun : (Machine.run (step .debug) twoInstances followFirst).toOption.any (fun r =>
      r.1.systems[1]?.any fun sys => decide (sys.state.currentDs.stepsRemoved = 1 ∧
        sys.state.parentDs.grandmasterIdentity = testParent.clockIdentity)) = true := by
    decide +kernel
  obtain ⟨⟨net, os⟩, hrun, hsys⟩ := (Option.any_eq_true _ _).mp hrun
  obtain ⟨sys, hsys, hcheck⟩ := (Option.any_eq_true _ _).mp hsys
  obtain ⟨hsteps, hidentity⟩ := of_decide_eq_true hcheck
  have hinit : Initial twoInstances := by
    refine ⟨fun sys hsys => ?_, fun sys hsys => ?_, rfl⟩
    · rcases List.mem_pair.mp hsys with rfl | rfl
      · exact ⟨firstConfig, _, rfl⟩
      · exact ⟨testInstanceConfig, _, rfl⟩
    · rcases List.mem_pair.mp hsys with rfl | rfl
      · exact testInstanceConfig_sdoId_inRange
      · exact testInstanceConfig_sdoId_inRange
  obtain ⟨log, htrace, -⟩ := Trace.of_run followFirst (.init hinit) (eq_ok_of_toOption hrun)
  exact ⟨log, net, sys, htrace, hsys, hsteps, hidentity, no_invented_grandmaster htrace hsys⟩

end InstanceNetwork

end Statime
