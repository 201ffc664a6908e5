import Statime.Port.Provenance

/-!
# Delivering a message to a port

Which handler a received message or a transmit timestamp comes to, and what a handler does when
nothing is complete yet.

* `Slot.step_sync` and the others: the step of a running port is that of the handler.
* `handleTimeMeasurement_idle`: without a complete exchange nothing is measured.
* `Slot.Reachable.incomplete`: no exchange of a reachable port is complete.
-/

namespace Statime

open Rust

variable {A R C F T : Type} [AcceptableMasterList A] [Clock C] [Filter F] [Rng R]
  [ForwardedTLVProvider T]

/-! ### The handlers -/

namespace Slot

/-- The step of a running port that a handler makes. -/
def ofHandler (result : Except Panic (Port Running A R C F × PortActionIterator)) :
    Except Stop (Slot A R C F × PortActionIterator) := do
  let (port, actions) ← orPanic result
  return (.running port, actions)

section

omit [AcceptableMasterList A] [Clock C] [Rng R]

theorem ofHandler_eq_ok {result : Except Panic (Port Running A R C F × PortActionIterator)}
    {slot : Slot A R C F} {actions : PortActionIterator} :
    ofHandler result = .ok (slot, actions) ↔
      ∃ port, result = .ok (port, actions) ∧ slot = .running port := by
  constructor
  · intro h
    obtain ⟨⟨port, actions'⟩, hresult, h⟩ := bind_eq_ok.mp h
    obtain ⟨rfl, rfl⟩ := Prod.mk.inj (Except.ok.inj h)
    exact ⟨port, orPanic_eq_ok.mp hresult, rfl⟩
  · rintro ⟨port, rfl, rfl⟩
    rfl

/-- A handler that does not look at the state of the instance. -/
theorem ofHandler_of_state (s : PtpInstanceState)
    (result : Except Panic (Port Running A R C F × PortActionIterator)) :
    (do let (port, _, actions) ← orPanic (do
          let (port, actions) ← result
          return (port, s, actions))
        return (Slot.running port, actions)) = ofHandler result := by
  cases result with
  | error why => rfl
  | ok r => rfl

end

variable {p : Profile} {e : PortEvent T} {message : Message} {timestamp : Time}
  (port : Port Running A R C F)

theorem step_sync {body : SyncMessage} (he : e.ReceivesAt message timestamp)
    (hbody : message.body = .sync body) :
    (Slot.running port).step p e = ofHandler (port.handleSync p message.header body timestamp) := by
  obtain ⟨s, data, rfl, hparse⟩ := he
  rw [← ofHandler_of_state s]
  simp only [step, Port.handleEventReceive, hparse, ok_bind, Port.handleEventMessage, hbody]

theorem step_pDelayResp {body : PDelayRespMessage} (he : e.ReceivesAt message timestamp)
    (hbody : message.body = .pDelayResp body) :
    (Slot.running port).step p e =
      ofHandler (port.handlePeerDelayResponse p message.header body timestamp) := by
  obtain ⟨s, data, rfl, hparse⟩ := he
  rw [← ofHandler_of_state s]
  simp only [step, Port.handleEventReceive, hparse, ok_bind, Port.handleEventMessage, hbody]

/-- Whether both channels take a message of this kind to the same handler. -/
def isGeneral : MessageBody → Bool
  | .sync _ | .delayReq _ | .pDelayReq _ | .pDelayResp _ => false
  | _ => true

/-- Such a message may come over either channel. -/
theorem step_receives (he : e.Receives message) (hgeneral : isGeneral message.body = true) :
    ∃ s, (Slot.running port).step p e = do
      let (port, _, actions) ← orPanic (port.handleGeneralInternal p s message)
      return (.running port, actions) := by
  rcases he with ⟨timestamp, s, data, rfl, hparse⟩ | ⟨s, data, rfl, hparse⟩
  · refine ⟨s, ?_⟩
    simp only [step, Port.handleEventReceive, hparse, ok_bind]
    unfold Port.handleEventMessage
    split
    case h_5 => rfl
    all_goals
      rename_i hbody
      rw [hbody] at hgeneral
      cases hgeneral
  · refine ⟨s, ?_⟩
    simp only [step, Port.handleGeneralReceive, hparse, ok_bind]

theorem step_followUp {body : FollowUpMessage} (he : e.Receives message)
    (hbody : message.body = .followUp body) :
    (Slot.running port).step p e = ofHandler (port.handleFollowUp p message.header body) := by
  obtain ⟨s, hstep⟩ := step_receives (p := p) port he (by rw [hbody]; rfl)
  rw [hstep, ← ofHandler_of_state s]
  simp only [Port.handleGeneralInternal, hbody]

theorem step_delayResp {body : DelayRespMessage} (he : e.Receives message)
    (hbody : message.body = .delayResp body) :
    (Slot.running port).step p e = ofHandler (port.handleDelayResp p message.header body) := by
  obtain ⟨s, hstep⟩ := step_receives (p := p) port he (by rw [hbody]; rfl)
  rw [hstep, ← ofHandler_of_state s]
  simp only [Port.handleGeneralInternal, hbody]

theorem step_pDelayRespFollowUp {body : PDelayRespFollowUpMessage} (he : e.Receives message)
    (hbody : message.body = .pDelayRespFollowUp body) :
    (Slot.running port).step p e =
      ofHandler (port.handlePeerDelayResponseFollowUp p message.header body) := by
  obtain ⟨s, hstep⟩ := step_receives (p := p) port he (by rw [hbody]; rfl)
  rw [hstep, ← ofHandler_of_state s]
  simp only [Port.handleGeneralInternal, hbody]

/-- Sync messages and peer delay responses over the general channel are ignored. -/
theorem step_general_ignored {s : PtpInstanceState} {data : List UInt8}
    (hparse : Port.parseAndFilter s data = .ok (some message))
    (hbody : (∃ body, message.body = .sync body) ∨ ∃ body, message.body = .pDelayResp body) :
    (Slot.running port).step p (.generalReceive s data : PortEvent T) =
      .ok (.running port, .empty) := by
  rcases hbody with ⟨body, hbody⟩ | ⟨body, hbody⟩
  all_goals
    simp only [step, Port.handleGeneralReceive, hparse, ok_bind, hbody, Port.handleGeneralInternal]
    rfl

theorem step_delayTimestamp {id : UInt16} (he : e.DelayReqSent id timestamp) :
    (Slot.running port).step p e = ofHandler (port.handleDelayTimestamp p id timestamp) := by
  obtain ⟨s, rfl⟩ := he
  rfl

theorem step_pdelayTimestamp {id : UInt16} (he : e.PDelayReqSent id timestamp) :
    (Slot.running port).step p e = ofHandler (port.handlePdelayTimestamp p id timestamp) := by
  obtain ⟨s, rfl⟩ := he
  rfl

end Slot

/-! ### Sync messages -/

/-- Whether the sync exchange with this id began. -/
def SyncState.isMeasuring (id : UInt16) : SyncState → Bool
  | .measuring id' _ _ => decide (id' = id)
  | .empty => false

/-! ### Incomplete exchanges -/

namespace PortCore

variable {c : PortCore} {state : SlaveState}

/-- A sync exchange that is not complete does not matter. -/
theorem Incomplete.withSync (h : c.Incomplete) (hstate : c.portState = .slave state)
    {syncState : SyncState} (hsync : syncState.completed = none) :
    ({ c with portState := .slave { state with syncState } } : PortCore).Incomplete := by
  refine ⟨h.peer, fun state' hstate' => ?_⟩
  obtain rfl := PortState.slave.inj hstate'
  exact ⟨hsync, (h.slave state hstate).2⟩

theorem Incomplete.withDelay (h : c.Incomplete) (hstate : c.portState = .slave state)
    {delayState : DelayState} (hdelay : delayState.completed = none) :
    ({ c with portState := .slave { state with delayState } } : PortCore).Incomplete := by
  refine ⟨h.peer, fun state' hstate' => ?_⟩
  obtain rfl := PortState.slave.inj hstate'
  exact ⟨(h.slave state hstate).1, hdelay⟩

theorem Incomplete.withPeerDelay (h : c.Incomplete) {peerDelayState : PeerDelayState}
    (hpeer : peerDelayState.completed = none) :
    ({ c with peerDelayState } : PortCore).Incomplete := ⟨hpeer, h.slave⟩

end PortCore

/-- A measurement leaves the peer delay exchange as it is, or closes it. -/
theorem PortCore.Measures.peerDelayState {p : Profile} {c c' : PortCore} (h : Measures p c c') :
    c'.peerDelayState = c.peerDelayState ∨
      ∃ id responder, c'.peerDelayState = .postMeasurement id responder := by
  cases h with
  | peer => exact Or.inr ⟨_, _, rfl⟩
  | idle | sync | delay => exact Or.inl rfl

/-! ### Without a complete exchange -/

namespace Port

omit [Rng R] [AcceptableMasterList A] in
theorem extractMeasurement_idle (p : Profile) {port : Port Running A R C F}
    (hpeer : port.peerDelayState.completed = none)
    (hslave : ∀ state, port.portState = .slave state →
      state.syncState.completed = none ∧ state.delayState.completed = none) :
    port.extractMeasurement p = .ok (none, port) := by
  unfold extractMeasurement
  split
  · rename_i hcomplete
    rw [hcomplete] at hpeer
    cases hpeer
  · split
    · rename_i state hstate
      obtain ⟨hsync, hdelay⟩ := hslave state hstate
      unfold extractSlaveMeasurement
      split
      · rename_i hcomplete
        rw [hcomplete] at hsync
        cases hsync
      · split
        · rename_i hcomplete
          rw [hcomplete] at hdelay
          cases hdelay
        · rfl
    · rfl

omit [Rng R] in
/-- **Without a complete exchange nothing is measured.** -/
theorem handleTimeMeasurement_idle (p : Profile) {port : Port Running A R C F}
    (h : port.core.Incomplete) : port.handleTimeMeasurement p = .ok (port, .empty) := by
  unfold handleTimeMeasurement
  rw [extractMeasurement_idle p h.peer h.slave, ok_bind]
  rfl

end Port

/-- **No exchange of a reachable port is complete.** -/
theorem Slot.Reachable.incomplete {p : Profile} {slot : Slot A R C F}
    (h : Slot.Reachable T p slot) : slot.core.Incomplete := by
  obtain ⟨log, htrace⟩ := Machine.Reachable.exists_trace h
  exact (Slot.traced_of_trace htrace).2

/-! ### Runs of a test port -/

abbrev TestSlot := Slot AcceptAnyMaster TestRng TestClock TestFilter

namespace TestSlot

/-- A new port. -/
def new (config : PortConfig AcceptAnyMaster) :
    Except Panic (Port InBmca AcceptAnyMaster TestRng TestClock TestFilter) :=
  Port.new .debug config () ⟨⟩ default ⟨⟩

/-- Whether the events lead a new port to a state that passes the check. -/
def endsWith (config : PortConfig AcceptAnyMaster) (es : List (PortEvent NoForwardedTLVs))
    (check : TestSlot → Bool) : Bool :=
  (new config).toOption.any fun port =>
    Machine.endsWith (Slot.step .debug) (.inBmca port) es check

theorem reachable_of_endsWith {config : PortConfig AcceptAnyMaster}
    {es : List (PortEvent NoForwardedTLVs)} {check : TestSlot → Bool}
    (h : endsWith config es check = true) :
    ∃ slot : TestSlot, Slot.Reachable NoForwardedTLVs .debug slot ∧ check slot = true := by
  obtain ⟨port, hnew, h⟩ := (Option.any_eq_true _ _).mp h
  exact Machine.Reachable.of_endsWith ⟨_, _, _, _, _, port, eq_ok_of_toOption hnew, rfl⟩ h

/-- Whether the events make steps that pass the check. -/
def traces (config : PortConfig AcceptAnyMaster) (es : List (PortEvent NoForwardedTLVs))
    (check : List (Machine.Transition TestSlot (PortEvent NoForwardedTLVs)) → Bool) : Bool :=
  (new config).toOption.any fun port =>
    (Machine.steps (Slot.step .debug) (.inBmca port) es).any check

theorem exists_trace {config : PortConfig AcceptAnyMaster} {es : List (PortEvent NoForwardedTLVs)}
    {check : List (Machine.Transition TestSlot (PortEvent NoForwardedTLVs)) → Bool}
    (h : traces config es check = true) :
    ∃ log slot, Machine.Trace (Slot.step .debug) (Slot.Initial .debug) log slot ∧
      log.map (·.event) = es ∧ check log = true := by
  obtain ⟨port, hnew, h⟩ := (Option.any_eq_true _ _).mp h
  obtain ⟨log, hlog, hcheck⟩ := (Option.any_eq_true _ _).mp h
  have hinit : Slot.Initial .debug (.inBmca port : TestSlot) :=
    ⟨_, _, _, _, _, port, eq_ok_of_toOption hnew, rfl⟩
  obtain ⟨slot, htrace⟩ := Machine.Trace.of_steps es (.init hinit) hlog
  exact ⟨log, slot, htrace, Machine.map_event_of_steps es hlog, hcheck⟩

/-- A message from port 1 of the clock with `id` in all bytes of its identity. -/
def message (twoStepFlag : Bool) (id : UInt8) (sequenceId : UInt16) (body : MessageBody) :
    Message where
  header := { Header.new 1 with
    twoStepFlag
    sourcePortIdentity := { clockIdentity := ClockIdentity.ofWire (List.replicate 8 id), portNumber := 1 }
    sequenceId }
  body
  suffix := default

/-- The bytes of such a message. -/
def messageBytes (messageType flags id sequenceId : UInt8) (body : List UInt8) : List UInt8 :=
  [messageType, 0x12] ++ toBE 2 (34 + body.length) ++ [0, 0, flags] ++ List.replicate 13 0 ++
    List.replicate 8 id ++ [0, 1, 0, sequenceId, 0, 0] ++ body

/-- They come over the event channel. -/
def eventReceive (messageType flags id sequenceId : UInt8) (body : List UInt8) :
    PortEvent NoForwardedTLVs :=
  .eventReceive (testSystem testInstanceConfig).state (messageBytes messageType flags id sequenceId body)
    ⟨⟨5⟩⟩

theorem receivesAt (messageType flags id sequenceId : UInt8) (body : List UInt8) {m : Message}
    (h : Port.parseAndFilter (testSystem testInstanceConfig).state
      (messageBytes messageType flags id sequenceId body) = .ok (some m)) :
    (eventReceive messageType flags id sequenceId body).ReceivesAt m ⟨⟨5⟩⟩ := ⟨_, _, rfl, h⟩

end TestSlot

end Statime
