import Statime.Port.Machine

/-!
# Only the selected master moves the clock

A sync message, a follow-up or a delay response that does not come from the master that the port
follows, or answers to the request of another port, changes nothing.

* `System.step_rogue`: such a message leaves the instance and all ports as they are, and no action
  is returned.
* `System.rogue_messages_change_nothing`: two runs that differ only in such messages have the same
  result.
-/

namespace Statime

open Rust

variable {A R C F T : Type} [AcceptableMasterList A] [Clock C] [Filter F] [Rng R]
  [ForwardedTLVProvider T]

namespace Port

/-- Whether the port is a slave of this master. -/
def follows (port : Port Running A R C F) (master : PortIdentity) : Bool :=
  match port.portState with
  | .slave state => decide (state.remoteMaster = master)
  | _ => false

/-- The messages that only the selected master may send: not from it, or not for this port. -/
def isRogue (port : Port Running A R C F) (message : Message) : Bool :=
  match message.body with
  | .sync _ | .followUp _ => !port.follows message.header.sourcePortIdentity
  | .delayResp body => !port.follows message.header.sourcePortIdentity ||
      decide (body.requestingPortIdentity ≠ port.portIdentity)
  | _ => false

variable {p : Profile} {s : PtpInstanceState} {port : Port Running A R C F} {header : Header}

section Handlers

omit [AcceptableMasterList A] [Rng R]

omit [Clock C] in
theorem follows_eq_false {master : PortIdentity} (h : port.follows master = false) :
    ∀ state, port.portState = .slave state → state.remoteMaster ≠ master := by
  intro state hstate
  rw [follows, hstate] at h
  exact of_decide_eq_false h

theorem handleSync_rogue {message : SyncMessage} {recvTime : Time}
    (h : port.follows header.sourcePortIdentity = false) :
    port.handleSync p header message recvTime = .ok (port, .empty) := by
  unfold handleSync
  split
  · rename_i state hstate
    rw [if_pos (follows_eq_false h state hstate)]
  · rfl

theorem handleFollowUp_rogue {message : FollowUpMessage}
    (h : port.follows header.sourcePortIdentity = false) :
    port.handleFollowUp p header message = .ok (port, .empty) := by
  unfold handleFollowUp
  split
  · rename_i state hstate
    rw [if_pos (follows_eq_false h state hstate)]
  · rfl

theorem handleDelayResp_rogue {message : DelayRespMessage}
    (h : port.follows header.sourcePortIdentity = false ∨
      message.requestingPortIdentity ≠ port.portIdentity) :
    port.handleDelayResp p header message = .ok (port, .empty) := by
  have hnone : port.storeDelayResp p header message = .ok none := by
    unfold storeDelayResp
    split
    · rename_i state hstate
      rw [if_pos]
      rcases h with hmaster | hown
      · exact Or.inr (follows_eq_false hmaster state hstate)
      · exact Or.inl (Ne.symm hown)
    · rfl
  rw [handleDelayResp, hnone]
  rfl

end Handlers

/-- Over the general channel a sync message is ignored in any case. -/
theorem handleGeneralInternal_rogue {message : Message} (h : port.isRogue message = true) :
    port.handleGeneralInternal p s message = .ok (port, s, .empty) := by
  unfold isRogue at h
  unfold handleGeneralInternal
  cases hbody : message.body with
  | sync body => rfl
  | followUp body =>
    rw [hbody, Bool.not_eq_true'] at h
    dsimp only
    rw [handleFollowUp_rogue h]
    rfl
  | delayResp body =>
    rw [hbody, Bool.or_eq_true, Bool.not_eq_true', decide_eq_true_eq] at h
    dsimp only
    rw [handleDelayResp_rogue h]
    rfl
  | _ => simp [hbody] at h

theorem handleEventMessage_rogue {message : Message} {timestamp : Time}
    (h : port.isRogue message = true) :
    port.handleEventMessage p s message timestamp = .ok (port, s, .empty) := by
  have hgeneral := handleGeneralInternal_rogue (p := p) (s := s) h
  unfold handleEventMessage
  cases hbody : message.body with
  | sync body =>
    rw [isRogue, hbody, Bool.not_eq_true'] at h
    dsimp only
    rw [handleSync_rogue h]
    rfl
  | followUp body | delayResp body => exact hgeneral
  | _ => simp [isRogue, hbody] at h

/-- The filter lets a message through or drops it. -/
theorem parseAndFilter_of_deserialize {message : Message} {data : List UInt8}
    (h : Message.deserialize data = .ok message) :
    parseAndFilter s data = .ok none ∨ parseAndFilter s data = .ok (some message) := by
  unfold parseAndFilter
  split
  · exact Or.inl rfl
  · rw [h]
    dsimp only
    split
    · exact Or.inr rfl
    · exact Or.inl rfl

end Port

namespace System

/-- Whether the event is the arrival of such a message at a running port. -/
def isRogue (sys : System A R C F) : Event A R C F T → Bool
  | .eventReceive i data _ | .generalReceive i data =>
    match sys.getRunning i, Message.deserialize data with
    | some port, .ok message => port.isRogue message
    | _, _ => false
  | _ => false

variable {p : Profile} {sys : System A R C F}

omit [AcceptableMasterList A] [Clock C] [Rng R] in
/-- A port that is as it was. -/
theorem setRunning_self {i : Nat} {port : Port Running A R C F} (h : sys.getRunning i = some port) :
    sys.setRunning i port sys.state = sys := by
  have hset : sys.ports.set i (.running port) = sys.ports := by
    obtain ⟨hi, hget⟩ := List.getElem?_eq_some_iff.mp (getRunning_eq_some h)
    rw [← hget, List.set_getElem_self]
  rw [setRunning, hset]

omit [AcceptableMasterList A] [Clock C] [Rng R] in
/-- A handler without effect. -/
theorem handleWithState_same {i : Nat} {port : Port Running A R C F}
    {handler : Port Running A R C F →
      Except Panic (Port Running A R C F × PtpInstanceState × PortActionIterator)}
    (hport : sys.getRunning i = some port)
    (hhandler : handler port = .ok (port, sys.state, .empty)) :
    sys.handleWithState i handler = .ok (sys, .empty) := by
  simp only [handleWithState, hport, orIllTyped, ok_bind, hhandler, orPanic, pure_eq_ok,
    setRunning_self hport]

/-- A message that its handler ignores changes nothing, whether the port takes it or not. -/
theorem step_eventReceive_same {i : Nat} {port : Port Running A R C F} {data : List UInt8}
    {message : Message} {timestamp : Time} (hport : sys.getRunning i = some port)
    (hparse : Message.deserialize data = .ok message)
    (hhandle : port.handleEventMessage p sys.state message timestamp = .ok (port, sys.state, .empty)) :
    sys.step p (.eventReceive i data timestamp : Event A R C F T) = .ok (sys, .empty) := by
  refine handleWithState_same hport ?_
  unfold Port.handleEventReceive
  rcases Port.parseAndFilter_of_deserialize (s := sys.state) hparse with hdrop | hpass
  · rw [hdrop]
    rfl
  · rw [hpass]
    exact hhandle

theorem step_generalReceive_same {i : Nat} {port : Port Running A R C F} {data : List UInt8}
    {message : Message} (hport : sys.getRunning i = some port)
    (hparse : Message.deserialize data = .ok message)
    (hhandle : port.handleGeneralInternal p sys.state message = .ok (port, sys.state, .empty)) :
    sys.step p (.generalReceive i data : Event A R C F T) = .ok (sys, .empty) := by
  refine handleWithState_same hport ?_
  unfold Port.handleGeneralReceive
  rcases Port.parseAndFilter_of_deserialize (s := sys.state) hparse with hdrop | hpass
  · rw [hdrop]
    rfl
  · rw [hpass]
    exact hhandle

/-- **A rogue message changes nothing.** -/
theorem step_rogue {e : Event A R C F T} (h : sys.isRogue e = true) :
    sys.step p e = .ok (sys, .empty) := by
  cases e with
  | eventReceive i data timestamp =>
    unfold isRogue at h
    dsimp only at h
    split at h
    · rename_i port message hport hparse
      exact step_eventReceive_same hport hparse (Port.handleEventMessage_rogue h)
    · cases h
  | generalReceive i data =>
    unfold isRogue at h
    dsimp only at h
    split at h
    · rename_i port message hport hparse
      exact step_generalReceive_same hport hparse (Port.handleGeneralInternal_rogue h)
    · cases h
  | _ => cases h

/-- **Only the selected master can move the clock.**  The run with additional rogue messages and the
run without them end in the same way: with the same panic, or with the same state of the instance
and of all ports (the measurements handed to the filters, the filters and the clocks, which may
record their calls, are part of it) and the same actions for all other events. -/
theorem rogue_messages_change_nothing (sys : System A R C F) (es : List (Event A R C F T × Bool))
    (h : Machine.additionalAre (System.step p) System.isRogue sys es = true) :
    Machine.runOriginal (System.step p) sys es =
      Machine.run (System.step p) sys (Machine.original es) :=
  Machine.runOriginal_eq (P := fun _ => True) (fun _ _ _ _ _ _ => trivial)
    (fun _ _ _ hrogue => ⟨.empty, step_rogue hrogue⟩) es sys trivial h

/-- The bytes of a two-step sync message from port 1 of the clock with `id` in all bytes of its
identity. -/
def syncBytes (id sequenceId : UInt8) : List UInt8 :=
  [0x00, 0x12] ++ toBE 2 44 ++ [0, 0, 2] ++ List.replicate 13 0 ++ List.replicate 8 id ++
    [0, 1, 0, sequenceId, 0, 0] ++ List.replicate 10 0

/-- A port that follows clock 9 hears of clock 8 between a sync message and a delay request. -/
def rogueRun : List (TestEvent × Bool) :=
  (.addPort testPortConfig () ⟨⟩ ⟨⟩, false) :: (becomeSlave 0).map (·, false) ++
    [(.eventReceive 0 (syncBytes 9 0) ⟨⟨0⟩⟩, false), (.eventReceive 0 (syncBytes 8 0) ⟨⟨5⟩⟩, true),
      (.eventReceive 0 (syncBytes 8 1) ⟨⟨6⟩⟩, true), (.delayRequestTimer 0, false)]

theorem rogue_messages_change_nothing_sync :
    Machine.additionalAre (System.step .debug) System.isRogue (testSystem testInstanceConfig)
        rogueRun = true ∧
      Machine.runOriginal (System.step .debug) (testSystem testInstanceConfig) rogueRun =
        Machine.run (System.step .debug) (testSystem testInstanceConfig)
          (Machine.original rogueRun) := by
  have hrogue : Machine.additionalAre (System.step .debug) System.isRogue
      (testSystem testInstanceConfig) rogueRun = true := by
    decide +kernel
  exact ⟨hrogue, rogue_messages_change_nothing _ _ hrogue⟩

end System

end Statime
