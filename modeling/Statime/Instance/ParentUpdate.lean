import Statime.Port.Datasets
import Statime.Instance.PathTrace

/-!
# What a slave writes when it hears its parent

`handle_announce` writes the datasets of a slave before it looks at the path trace, and before the
foreign master list looks at the sequence id.

* `Port.ignoresLoop_iff`: exactly when a message that reports a clock loop changes nothing.
* `Port.keepsNewest_iff`: exactly when the newest of several messages stays in the datasets.
-/

namespace Statime

open Rust

variable {A R C F : Type} [AcceptableMasterList A] [Clock C] [Filter F] [Rng R]

/-! ### Clock loops -/

/-- The own identity is in the first path trace of the message. -/
def Message.ReportsLoop (p : Profile) (s : PtpInstanceState) (message : Message) : Prop :=
  ∃ tlv, message.pathTraceRecord p = .ok (some tlv) ∧
    s.defaultDs.clockIdentity ∈ pathTraceEntries tlv.value

/-- The loop is found after the datasets were written. -/
theorem PtpInstanceState.updateFromParent_loop {p : Profile} {s : PtpInstanceState}
    {message : Message} (announce : AnnounceMessage) (henable : s.pathTraceDs.enable = true)
    (hloop : message.ReportsLoop p s) (hsteps : p = .debug → announce.stepsRemoved ≠ 0xffff) :
    ∃ s', s.updateFromParent p message announce = .ok (s', true) := by
  obtain ⟨tlv, htlv, hmem⟩ := hloop
  have hok : overflow p (decide (announce.stepsRemoved = 0xffff)) (announce.stepsRemoved + 1) =
      .ok (announce.stepsRemoved + 1) :=
    overflow_eq_ok.mpr ⟨fun hp => decide_eq_false (hsteps hp), rfl⟩
  have hfound : message.suffix.find p (fun tlv => decide (tlv.tlvType = .pathTrace)) =
      .ok (some tlv) := htlv
  rw [updateFromParent, hok, ok_bind]
  dsimp only
  rw [if_pos henable, hfound, ok_bind]
  dsimp only
  rw [if_pos (List.contains_iff_mem.mpr hmem)]
  exact ⟨_, rfl⟩

namespace Port

/-- The message leaves the datasets, the path trace, the port and its foreign masters as they are,
and no action is returned. -/
def IgnoresMessage (p : Profile) (s : PtpInstanceState) (port : Port Running A R C F)
    (message : Message) (announce : AnnounceMessage) : Prop :=
  ∃ port' s' actions, port.handleAnnounce p s message announce = .ok (port', s', actions) ∧
    s.SameDatasets s' ∧ s'.pathTraceDs = s.pathTraceDs ∧ port'.portState = port.portState ∧
    port'.multiportDisable = port.multiportDisable ∧ port'.bmca = port.bmca ∧
    actions.actions p = .ok []

variable {p : Profile} {s : PtpInstanceState} {port : Port Running A R C F} {message : Message}
  {announce : AnnounceMessage}

theorem actions_empty (p : Profile) : PortActionIterator.empty.actions p = .ok [] := by
  cases p <;> rfl

/-- An accepted message is answered with an action, or the handler panics. -/
theorem registerAnnounce_acts {port' : Port Running A R C F} {actions : PortActionIterator}
    (haccepts : port.bmca.accepts announce = true)
    (h : port.registerAnnounce p message announce = .ok (port', actions)) :
    actions.actions p ≠ .ok [] := by
  obtain ⟨⟨bmca, stored⟩, hbmca, h⟩ := bind_eq_ok.mp h
  obtain ⟨-, -, hstored⟩ := Bmca.registerAnnounceMessage_owned hbmca
  dsimp only at h
  rw [hstored, if_pos haccepts] at h
  obtain ⟨⟨duration, rng⟩, -, h⟩ := bind_eq_ok.mp h
  obtain ⟨-, rfl⟩ := Prod.mk.inj (Except.ok.inj h)
  intro hnone
  obtain ⟨tlvs, -, hnone⟩ := bind_eq_ok.mp hnone
  cases Except.ok.inj hnone

theorem registerAnnounce_refused (haccepts : port.bmca.accepts announce = false) :
    port.registerAnnounce p message announce = .ok (port, .empty) := by
  rw [registerAnnounce, Bmca.registerAnnounceMessage, haccepts]
  rfl

/-- At any other port the message goes to the foreign master list only. -/
theorem handleAnnounce_eq_register {port' : Port Running A R C F} {s' : PtpInstanceState}
    {actions : PortActionIterator} (hparent : port.isFromParent s announce = false) :
    port.handleAnnounce p s message announce = .ok (port', s', actions) ↔
      s' = s ∧ port.registerAnnounce p message announce = .ok (port', actions) := by
  rw [handleAnnounce, updateDatasets, hparent, if_neg (by decide), ok_bind]
  dsimp only
  rw [if_neg (by decide)]
  constructor
  · intro h
    obtain ⟨⟨port₁, actions₁⟩, hregister, h⟩ := bind_eq_ok.mp h
    obtain ⟨rfl, hrest⟩ := Prod.mk.inj (Except.ok.inj h)
    obtain ⟨rfl, rfl⟩ := Prod.mk.inj hrest
    exact ⟨rfl, hregister⟩
  · rintro ⟨rfl, hregister⟩
    rw [hregister, ok_bind]
    rfl

/-- **When a clock loop changes nothing.**  A slave that hears its parent writes the message, so it
has to say what the datasets say already; at any other port the loop is not looked for, and only a
message that the foreign master list refuses changes nothing. -/
theorem ignoresLoop_iff (p : Profile) (s : PtpInstanceState) (port : Port Running A R C F)
    {message : Message} (announce : AnnounceMessage) (henable : s.pathTraceDs.enable = true)
    (hloop : message.ReportsLoop p s) :
    port.IgnoresMessage p s message announce ↔
      (port.isFromParent s announce = true ∧ s.AsAnnounced announce ∧
          (p = .debug → announce.stepsRemoved ≠ 0xffff)) ∨
        (port.isFromParent s announce = false ∧ port.bmca.accepts announce = false) := by
  cases hparent : port.isFromParent s announce with
  | true =>
    simp only [true_and, Bool.true_eq_false, false_and, or_false]
    constructor
    · rintro ⟨port', s', actions, hhandle, hsame, -⟩
      rcases handleAnnounce_datasets hhandle with ⟨-, hannounced, hsteps⟩ | ⟨hnot, -⟩
      · refine ⟨hannounced.same ?_, hsteps⟩
        exact ⟨hsame.currentDs.symm, hsame.parentDs.symm, hsame.timePropertiesDs.symm⟩
      · rw [hparent] at hnot
        cases hnot
    · rintro ⟨hannounced, hsteps⟩
      obtain ⟨s', hupdate⟩ := s.updateFromParent_loop announce henable hloop hsteps
      obtain ⟨hwritten, hpath, -⟩ := PtpInstanceState.updateFromParent_asAnnounced hupdate
      refine ⟨port, s', .empty, ?_, ⟨?_, ?_, ?_⟩, hpath rfl, rfl, rfl, rfl, actions_empty p⟩
      · rw [handleAnnounce, updateDatasets, if_pos hparent, hupdate, ok_bind]
        rfl
      · exact congrArg InternalCurrentDS.mk
          (hwritten.stepsRemoved.trans hannounced.stepsRemoved.symm)
      · exact hwritten.parentDs.trans hannounced.parentDs.symm
      · exact hwritten.timePropertiesDs.trans hannounced.timePropertiesDs.symm
  | false =>
    simp only [Bool.false_eq_true, false_and, true_and, false_or]
    constructor
    · rintro ⟨port', s', actions, h, -, -, -, -, -, hnone⟩
      obtain ⟨-, hregister⟩ := (handleAnnounce_eq_register hparent).mp h
      cases haccepts : port.bmca.accepts announce with
      | true => exact absurd hnone (registerAnnounce_acts haccepts hregister)
      | false => rfl
    · intro hrefused
      refine ⟨port, s, .empty, ?_, .refl s, rfl, rfl, rfl, rfl, actions_empty p⟩
      exact (handleAnnounce_eq_register hparent).mpr ⟨rfl, registerAnnounce_refused hrefused⟩

/-- Whether the bytes are an announce message with the own identity in its path trace. -/
def reportsLoop (s : PtpInstanceState) (message : Message) : Bool :=
  match message.pathTraceRecord .debug with
  | .ok (some tlv) => (pathTraceEntries tlv.value).contains s.defaultDs.clockIdentity
  | _ => false

theorem reportsLoop_of_check {s : PtpInstanceState} {message : Message}
    (h : reportsLoop s message = true) : message.ReportsLoop .debug s := by
  unfold reportsLoop at h
  split at h
  · rename_i tlv htlv
    exact ⟨tlv, htlv, List.contains_iff_mem.mp h⟩
  · cases h

/-- An announce message of clock `id` with a path trace of the clock with identity zero. -/
def loopBytes (id priority1 sequenceId : UInt8) : List UInt8 :=
  announceBytes id priority1 76 sequenceId ++ [0, 8, 0, 8] ++ List.replicate 8 0

/-- The announce message that the bytes are. -/
def announceOf (data : List UInt8) : Option (Message × AnnounceMessage) :=
  match Message.deserialize data with
  | .ok message =>
    match message.body with
    | .announce announce => some (message, announce)
    | _ => none
  | .error _ => none

/-- Whether it is one of `testParent`, as close as can be, that reports a loop. -/
def isLoopOfParent (s : PtpInstanceState) (x : Message × AnnounceMessage) : Bool :=
  decide (x.2.header.sourcePortIdentity = testParent ∧ x.2.stepsRemoved = 0) && reportsLoop s x.1

/-- A slave hears the same loop again. -/
theorem ignoresLoop_again :
    ∃ message announce, announceOf (loopBytes 9 1 0) = some (message, announce) ∧
      ∃ s : PtpInstanceState, s.parentDs.parentPortIdentity = testParent ∧
        (testPort default (.slave (.new testParent))).IgnoresMessage .debug s message announce := by
  have hcheck : (announceOf (loopBytes 9 1 0)).any
      (isLoopOfParent (testSystem { testInstanceConfig with pathTrace := true }).state) = true := by
    decide +kernel
  obtain ⟨⟨message, announce⟩, hmessage, hcheck⟩ := (Option.any_eq_true _ _).mp hcheck
  rw [isLoopOfParent, Bool.and_eq_true, decide_eq_true_eq] at hcheck
  obtain ⟨⟨hsource, hsteps⟩, hloop⟩ := hcheck
  let s : PtpInstanceState :=
    { (testSystem { testInstanceConfig with pathTrace := true }).state with
      currentDs := ⟨announce.stepsRemoved + 1⟩
      parentDs := announce.parentDs
      timePropertiesDs := announce.timeProperties }
  refine ⟨message, announce, hmessage, s, hsource, ?_⟩
  refine (ignoresLoop_iff .debug s _ announce rfl (reportsLoop_of_check hloop)).mpr (Or.inl ?_)
  refine ⟨?_, ⟨rfl, rfl, rfl⟩, fun _ => ?_⟩
  · rw [isFromParent]
    exact decide_eq_true rfl
  · rw [hsteps]
    decide

end Port

/-- Whether the message reports a loop to a slave, and makes the parent dataset another one. -/
def loopRewritesParent (data : List UInt8) (sys : TestSystem) : Bool :=
  match sys.getRunning 0, Port.announceOf data with
  | some port, some (message, announce) =>
    sys.state.pathTraceDs.enable && Port.reportsLoop sys.state message &&
      (match port.handleAnnounce .debug sys.state message announce with
        | .ok (_, s', _) =>
          decide (s'.parentDs.grandmasterPriority1 ≠ sys.state.parentDs.grandmasterPriority1)
        | .error _ => false)
  | _, _ => false

/-- **A clock loop is written into the datasets**: a reachable slave takes over the priority of the
grandmaster from a message that reports a loop. -/
theorem clock_loop_changes_parent :
    ∃ sys : TestSystem, System.Reachable NoForwardedTLVs .debug sys ∧
      sys.state.pathTraceDs.enable = true ∧
      ∃ port message announce, sys.getRunning 0 = some port ∧
        Message.deserialize (Port.loopBytes 9 2 2) = .ok message ∧
        message.body = .announce announce ∧ message.ReportsLoop .debug sys.state ∧
        ¬ port.IgnoresMessage .debug sys.state message announce := by
  have hrun : Machine.endsWith (System.step .debug)
      (testSystem { testInstanceConfig with pathTrace := true })
      (.addPort testPortConfig () ⟨⟩ ⟨⟩ :: becomeSlave 0)
      (loopRewritesParent (Port.loopBytes 9 2 2)) = true := by
    decide +kernel
  obtain ⟨sys, hreach, hcheck⟩ := System.reachable_of_endsWith hrun
  unfold loopRewritesParent at hcheck
  split at hcheck
  · rename_i port message announce hport hmessage
    rw [Bool.and_eq_true, Bool.and_eq_true] at hcheck
    obtain ⟨⟨henable, hloop⟩, hchanged⟩ := hcheck
    have hparse : Message.deserialize (Port.loopBytes 9 2 2) = .ok message ∧
        message.body = .announce announce := by
      unfold Port.announceOf at hmessage
      split at hmessage
      · rename_i message' hparse
        split at hmessage
        · rename_i announce' hbody
          obtain ⟨rfl, rfl⟩ := Prod.mk.inj (Option.some.inj hmessage)
          exact ⟨hparse, hbody⟩
        · cases hmessage
      · cases hmessage
    refine ⟨sys, hreach, henable, port, message, announce, hport, hparse.1, hparse.2,
      Port.reportsLoop_of_check hloop, ?_⟩
    rintro ⟨port', s', actions, hhandle, hsame, -⟩
    rw [hhandle] at hchanged
    exact of_decide_eq_true hchanged (by rw [hsame.parentDs])
  · cases hcheck

/-! ### Late announce messages -/

namespace Port

variable {p : Profile} {s : PtpInstanceState} {port : Port Running A R C F} {message : Message}
  {announce : AnnounceMessage}

/-- The messages one after the other. -/
def deliver (p : Profile) : PtpInstanceState → Port Running A R C F →
    List (Message × AnnounceMessage) → Except Panic (Port Running A R C F × PtpInstanceState)
  | s, port, [] => .ok (port, s)
  | s, port, x :: xs => do
    let (port, s, _) ← port.handleAnnounce p s x.1 x.2
    deliver p s port xs

/-- Qualified messages of the parent of a slave: not from a port of the own clock, and not too many
steps removed.  Their sequence ids are distinct and lie within half of the number circle, and none
is newer than `newest`. -/
structure Deliverable (s : PtpInstanceState) (port : Port Running A R C F)
    (messages : List (Message × AnnounceMessage)) (base : UInt16) (newest : AnnounceMessage) :
    Prop where
  slave : port.isSteering = true
  body : ∀ x ∈ messages, x.1.body = .announce x.2 ∧ x.1.header = x.2.header
  parent : ∀ x ∈ messages, x.2.header.sourcePortIdentity = s.parentDs.parentPortIdentity
  foreign : ∀ x ∈ messages,
    x.2.header.sourcePortIdentity.clockIdentity ≠ port.portIdentity.clockIdentity
  stepsRemoved : ∀ x ∈ messages, x.2.stepsRemoved < 255
  distinct : (messages.map (·.2.header.sequenceId)).Nodup
  window : ∀ x ∈ messages, x.2.header.sequenceId - base < 0x8000
  mem : newest ∈ messages.map (·.2)
  newest : ∀ x ∈ messages, x.2.header.sequenceId - base ≤ newest.header.sequenceId - base

instance {s : PtpInstanceState} {port : Port Running A R C F}
    {messages : List (Message × AnnounceMessage)} {base : UInt16} {newest : AnnounceMessage} :
    Decidable (Deliverable s port messages base newest) :=
  decidable_of_iff
    (port.isSteering = true ∧ (∀ x ∈ messages, x.1.body = .announce x.2 ∧ x.1.header = x.2.header) ∧
      (∀ x ∈ messages, x.2.header.sourcePortIdentity = s.parentDs.parentPortIdentity) ∧
      (∀ x ∈ messages,
        x.2.header.sourcePortIdentity.clockIdentity ≠ port.portIdentity.clockIdentity) ∧
      (∀ x ∈ messages, x.2.stepsRemoved < 255) ∧
      (messages.map (·.2.header.sequenceId)).Nodup ∧
      (∀ x ∈ messages, x.2.header.sequenceId - base < 0x8000) ∧ newest ∈ messages.map (·.2) ∧
      ∀ x ∈ messages, x.2.header.sequenceId - base ≤ newest.header.sequenceId - base)
    ⟨fun ⟨h₁, h₂, h₃, h₄, h₅, h₆, h₇, h₈, h₉⟩ => ⟨h₁, h₂, h₃, h₄, h₅, h₆, h₇, h₈, h₉⟩,
      fun ⟨h₁, h₂, h₃, h₄, h₅, h₆, h₇, h₈, h₉⟩ => ⟨h₁, h₂, h₃, h₄, h₅, h₆, h₇, h₈, h₉⟩⟩

/-- Two messages say the same about the grandmaster, the distance to it and the time. -/
structure SaysTheSame (a b : AnnounceMessage) : Prop where
  stepsRemoved : a.stepsRemoved = b.stepsRemoved
  parentDs : a.parentDs = b.parentDs
  timeProperties : a.timeProperties = b.timeProperties

theorem asAnnounced_iff {a b : AnnounceMessage} (h : s.AsAnnounced a) :
    s.AsAnnounced b ↔ SaysTheSame a b := by
  constructor
  · intro h'
    refine ⟨?_, h.parentDs.symm.trans h'.parentDs, h.timePropertiesDs.symm.trans h'.timePropertiesDs⟩
    exact (UInt16.add_left_inj 1).mp (h.stepsRemoved.symm.trans h'.stepsRemoved)
  · intro hsame
    exact ⟨by rw [h.stepsRemoved, hsame.stepsRemoved], h.parentDs.trans hsame.parentDs,
      h.timePropertiesDs.trans hsame.timeProperties⟩

/-- **One message of the parent**: it is written, and the port is still its slave. -/
theorem handleAnnounce_parent {port' : Port Running A R C F} {s' : PtpInstanceState}
    {actions : PortActionIterator} (hslave : port.isSteering = true)
    (hheader : message.header = announce.header)
    (hparent : announce.header.sourcePortIdentity = s.parentDs.parentPortIdentity)
    (hforeign : announce.header.sourcePortIdentity.clockIdentity ≠ port.portIdentity.clockIdentity)
    (h : port.handleAnnounce p s message announce = .ok (port', s', actions)) :
    port'.isSteering = true ∧ port'.portIdentity = port.portIdentity ∧
      s'.parentDs.parentPortIdentity = s.parentDs.parentPortIdentity ∧ s'.AsAnnounced announce := by
  have hfrom : port.isFromParent s announce = true := by
    rw [isFromParent, hslave, decide_eq_true hparent]
    rfl
  have hannounced : s'.AsAnnounced announce := by
    rcases handleAnnounce_datasets h with ⟨-, hannounced, -⟩ | ⟨hnot, -⟩
    · exact hannounced
    · rw [hfrom] at hnot
      cases hnot
  have hcore : port'.core = port.core := by
    obtain ⟨⟨s₁, loop⟩, -, h⟩ := bind_eq_ok.mp h
    dsimp only at h
    split at h
    · obtain ⟨rfl, -⟩ := Prod.mk.inj (Except.ok.inj h)
      rfl
    · obtain ⟨⟨port₁, actions₁⟩, hregister, h⟩ := bind_eq_ok.mp h
      obtain ⟨rfl, -⟩ := Prod.mk.inj (Except.ok.inj h)
      rw [registerAnnounce_core hregister, if_neg]
      intro hlower
      rw [PortCore.isFromLowerPort, Bool.and_eq_true, decide_eq_true_eq] at hlower
      rw [hheader] at hlower
      exact hforeign hlower.2.1.symm
  have hstate : port'.portState = port.portState := congrArg PortCore.portState hcore
  refine ⟨?_, congrArg PortCore.portIdentity hcore, ?_, hannounced⟩
  · rw [isSteering, hstate]
    exact hslave
  · rw [hannounced.parentDs]
    exact hparent

/-- **After all messages**: the one that came last is in the datasets. -/
theorem deliver_asAnnounced : ∀ (messages : List (Message × AnnounceMessage))
    {s s' : PtpInstanceState} {port port' : Port Running A R C F}
    {last : Message × AnnounceMessage}, port.isSteering = true →
    (∀ x ∈ messages, x.1.header = x.2.header ∧
      x.2.header.sourcePortIdentity = s.parentDs.parentPortIdentity ∧
      x.2.header.sourcePortIdentity.clockIdentity ≠ port.portIdentity.clockIdentity) →
    messages.getLast? = some last → port.deliver p s messages = .ok (port', s') →
    s'.AsAnnounced last.2 := by
  intro messages
  induction messages with
  | nil =>
    intro s s' port port' last _ _ hlast
    cases hlast
  | cons x xs ih =>
    intro s s' port port' last hslave hall hlast h
    rw [List.forall_mem_cons] at hall
    obtain ⟨⟨hheader, hparent, hforeign⟩, hrest⟩ := hall
    obtain ⟨⟨port₁, s₁, actions⟩, hfirst, h⟩ := bind_eq_ok.mp h
    obtain ⟨hslave₁, hidentity, hsame, hannounced⟩ :=
      handleAnnounce_parent hslave hheader hparent hforeign hfirst
    cases xs with
    | nil =>
      obtain rfl := Option.some.inj hlast
      obtain ⟨-, rfl⟩ := Prod.mk.inj (Except.ok.inj h)
      exact hannounced
    | cons y ys =>
      rw [List.getLast?_cons_cons] at hlast
      exact ih hslave₁ (by rw [hidentity, hsame]; exact hrest) hlast h

/-- **When the newest message stays in the datasets.**  The message that is delivered last has to say
the same. -/
theorem keepsNewest_iff {s s' : PtpInstanceState} {port port' : Port Running A R C F}
    {messages : List (Message × AnnounceMessage)} {base : UInt16} {newest : AnnounceMessage}
    {last : Message × AnnounceMessage} (h : Deliverable s port messages base newest)
    (hlast : messages.getLast? = some last) (hdeliver : port.deliver p s messages = .ok (port', s')) :
    s'.AsAnnounced newest ↔ SaysTheSame last.2 newest := by
  refine asAnnounced_iff (deliver_asAnnounced messages h.slave ?_ hlast hdeliver)
  intro x hx
  exact ⟨(h.body x hx).2, h.parent x hx, h.foreign x hx⟩

/-- The messages that the packets are. -/
def announcesOf (packets : List (List UInt8)) : List (Message × AnnounceMessage) :=
  packets.filterMap announceOf

/-- Whether the packets can be delivered to the port, the one at this place being the newest, and
the datasets then pass the check. -/
def deliversTo (s : PtpInstanceState) (port : Port Running A R C F) (packets : List (List UInt8))
    (newest : Nat) (check : PtpInstanceState → Message × AnnounceMessage → Bool) : Bool :=
  match (announcesOf packets)[newest]?, port.deliver .debug s (announcesOf packets) with
  | some x, .ok (_, s') =>
    decide (Deliverable s port (announcesOf packets) 0 x.2) && check s' x
  | _, _ => false

theorem deliverable_of_check {packets : List (List UInt8)} {newest : Nat}
    {check : PtpInstanceState → Message × AnnounceMessage → Bool}
    (h : port.deliversTo s packets newest check = true) :
    ∃ x port' s', (announcesOf packets)[newest]? = some x ∧
      Deliverable s port (announcesOf packets) 0 x.2 ∧
      port.deliver .debug s (announcesOf packets) = .ok (port', s') ∧ check s' x = true := by
  unfold deliversTo at h
  split at h
  · rename_i x port' s' hx hdeliver
    rw [Bool.and_eq_true, decide_eq_true_eq] at h
    exact ⟨x, port', s', hx, h.1, hdeliver, h.2⟩
  · cases h

/-- Two messages in their order. -/
theorem keepsNewest_in_order :
    ∃ port s last port' s',
      Deliverable (A := AcceptAnyMaster) (R := TestRng) (C := TestClock) (F := TestFilter) s port
        (announcesOf [announceBytes 9 1 64 0, announceBytes 9 2 64 1]) 0 last ∧
      port.deliver .debug s (announcesOf [announceBytes 9 1 64 0, announceBytes 9 2 64 1]) =
        .ok (port', s') ∧ s'.AsAnnounced last := by
  have hcheck : (testPort default (.slave (.new testParent))).deliversTo
      (followingState testInstanceConfig) [announceBytes 9 1 64 0, announceBytes 9 2 64 1] 1
      (fun _ x => decide ((announcesOf
        [announceBytes 9 1 64 0, announceBytes 9 2 64 1]).getLast? = some x)) = true := by
    decide +kernel
  obtain ⟨x, port', s', -, hdeliverable, hdeliver, hlast⟩ := deliverable_of_check hcheck
  refine ⟨_, _, x.2, port', s', hdeliverable, hdeliver, ?_⟩
  exact (keepsNewest_iff hdeliverable (of_decide_eq_true hlast) hdeliver).mpr ⟨rfl, rfl, rfl⟩

end Port

/-- The newer message first. -/
def latePackets : List (List UInt8) := [announceBytes 9 1 64 3, announceBytes 9 2 64 2]

/-- Whether the port of the system ends with another priority than the newest message has. -/
def rolledBack (sys : TestSystem) : Bool :=
  (sys.getRunning 0).any fun port => port.deliversTo sys.state latePackets 0 fun s' x =>
    decide (s'.parentDs.grandmasterPriority1 ≠ x.2.grandmasterPriority1)

/-- **A late announce message rolls the datasets back**: a reachable slave that hears message 3 of its
parent and then message 2 ends with the data of message 2. -/
theorem late_announce_rolls_back :
    ∃ sys : TestSystem, System.Reachable NoForwardedTLVs .debug sys ∧
      ∃ port newest port' s', sys.getRunning 0 = some port ∧
        Port.Deliverable sys.state port (Port.announcesOf latePackets) 0 newest ∧
        port.deliver .debug sys.state (Port.announcesOf latePackets) = .ok (port', s') ∧
        ¬ s'.AsAnnounced newest := by
  have hrun : Machine.endsWith (System.step .debug) (testSystem testInstanceConfig)
      (.addPort testPortConfig () ⟨⟩ ⟨⟩ :: becomeSlave 0) rolledBack = true := by
    decide +kernel
  obtain ⟨sys, hreach, hcheck⟩ := System.reachable_of_endsWith hrun
  obtain ⟨port, hport, hcheck⟩ := (Option.any_eq_true _ _).mp hcheck
  obtain ⟨x, port', s', -, hdeliverable, hdeliver, hpriority⟩ := Port.deliverable_of_check hcheck
  refine ⟨sys, hreach, port, x.2, port', s', hport, hdeliverable, hdeliver, fun h => ?_⟩
  exact of_decide_eq_true hpriority (by rw [h.parentDs]; rfl)

end Statime
