import Mathlib.Data.List.Permutation
import Statime.Port.Delivery

/-!
# The order in which the parts of an exchange arrive

Each part of an exchange is stored where it belongs, and only the last one is followed by a
measurement; which part that is does not matter.

* `handleTimeMeasurement_complete`: a complete exchange gives one measurement.
* `handleSync_stores` and the others: what a handler does with a part that an exchange waits for.
* `Slot.run_cons_store`: a part that completes nothing is stored.
* `Slot.arrival_order`: the parts of an exchange, in any order.
-/

namespace Statime

open Rust

variable {A R C F T : Type} [AcceptableMasterList A] [Clock C] [Filter F] [Rng R]
  [ForwardedTLVProvider T]

/-! ### A complete exchange -/

namespace Port

variable (p : Profile)

theorem peerDelay_onlyOverflows (t1 t2 t3 t4 : Time) : OnlyOverflows p (peerDelay p t1 t2 t3 t4) :=
  (Time.diff_onlyOverflows p _ _).bind fun _ _ => (Time.diff_onlyOverflows p _ _).bind fun _ _ =>
    (Duration.sub_onlyOverflows p _ _).bind fun _ _ => Duration.div_two_onlyOverflows p _

theorem rawOffset_onlyOverflows (a b : Time) (asymmetry : Duration) :
    OnlyOverflows p (rawOffset p a b asymmetry) :=
  (Time.diff_onlyOverflows p _ _).bind fun _ _ => Duration.sub_onlyOverflows p _ _

theorem syncOffset_onlyOverflows (rawSyncOffset : Duration) (meanDelay : Option Duration) :
    OnlyOverflows p (syncOffset p rawSyncOffset meanDelay) := by
  cases meanDelay with
  | none => exact onlyOverflows_ok p _
  | some meanDelay =>
    exact (Duration.sub_onlyOverflows p _ _).bind fun _ _ => onlyOverflows_ok p _

theorem linkDelay_onlyOverflows (rawDelayOffset : Duration) (lastRawSyncOffset : Option Duration) :
    OnlyOverflows p (linkDelay p rawDelayOffset lastRawSyncOffset) := by
  cases lastRawSyncOffset with
  | none => exact onlyOverflows_ok p _
  | some rawSyncOffset =>
    exact (Duration.sub_onlyOverflows p _ _).bind fun _ _ =>
      (Duration.div_two_onlyOverflows p _).bind fun _ _ => onlyOverflows_ok p _

variable (port : Port Running A R C F)

omit [AcceptableMasterList A] [Rng R] [Clock C] in
theorem extractSlaveMeasurement_onlyOverflows (state : SlaveState) :
    OnlyOverflows p (port.extractSlaveMeasurement p state) := by
  unfold extractSlaveMeasurement
  split
  · exact (rawOffset_onlyOverflows p _ _ _).bind fun _ _ =>
      (syncOffset_onlyOverflows p _ _).bind fun _ _ => onlyOverflows_ok p _
  · split
    · exact (rawOffset_onlyOverflows p _ _ _).bind fun _ _ =>
        (linkDelay_onlyOverflows p _ _).bind fun _ _ => onlyOverflows_ok p _
    · exact onlyOverflows_ok p _

omit [AcceptableMasterList A] [Rng R] in
theorem handleTimeMeasurement_onlyOverflows : OnlyOverflows p (port.handleTimeMeasurement p) := by
  unfold handleTimeMeasurement
  refine OnlyOverflows.bind ?_ fun result _ => ?_
  · unfold extractMeasurement
    split
    · exact (peerDelay_onlyOverflows p _ _ _ _).bind fun _ _ => onlyOverflows_ok p _
    · split
      · exact extractSlaveMeasurement_onlyOverflows p port _
      · exact onlyOverflows_ok p _
  · obtain ⟨m, port'⟩ := result
    cases m <;> exact onlyOverflows_ok p _

/-- One more measurement, if nothing overflows. -/
def MeasuresOnce (handed : List Measurement)
    (result : Except Panic (Port Running A R C F × PortActionIterator)) : Prop :=
  (∃ port actions m, result = .ok (port, actions) ∧ port.handed = handed ++ [m]) ∨
    p = .debug ∧ result = .error .overflow

omit [AcceptableMasterList A] [Rng R] [Clock C] in
theorem MeasuresOnce.bind {α : Type} {p : Profile} {handed : List Measurement}
    {x : Except Panic α} {next : α → Except Panic (Port Running A R C F × PortActionIterator)}
    (hx : OnlyOverflows p x) (hnext : ∀ a, MeasuresOnce p handed (next a)) :
    MeasuresOnce p handed (x >>= next) := by
  rcases hx with ⟨a, rfl⟩ | ⟨hp, rfl⟩
  · exact hnext a
  · exact Or.inr ⟨hp, rfl⟩

omit [Rng R] in
/-- **A complete exchange gives one measurement.** -/
theorem handleTimeMeasurement_complete (h : ¬ port.core.Incomplete) :
    MeasuresOnce p port.handed (port.handleTimeMeasurement p) := by
  rcases handleTimeMeasurement_onlyOverflows p port with ⟨⟨port', actions⟩, hresult⟩ | hoverflow
  · left
    have hmeasures := handleTimeMeasurement_core hresult
    generalize hcore : port'.core = c at hmeasures
    have hhanded : port'.handed = c.handed := congrArg PortCore.handed hcore
    cases hmeasures with
    | idle hpeer hslave => exact absurd ⟨hpeer, hslave⟩ h
    | peer | sync | delay => exact ⟨port', actions, _, hresult, hhanded⟩
  · exact Or.inr hoverflow

section

omit [AcceptableMasterList A] [Clock C] [Rng R]

@[simp] theorem portState_withSlaveState (state : SlaveState) :
    (port.withSlaveState state).portState = .slave state := rfl

@[simp] theorem peerDelayState_withPeerDelayState (state : PeerDelayState) :
    (port.withPeerDelayState state).peerDelayState = state := rfl

end

end Port

/-! ### The parts of an exchange -/

/-- When the sync message with this id was sent, as far as it is known. -/
def SyncState.sendTimeOf (id : UInt16) : SyncState → Option Time
  | .measuring id' sendTime _ => if id' = id then sendTime else none
  | .empty => none

/-- When it arrived. -/
def SyncState.recvTimeOf (id : UInt16) : SyncState → Option Time
  | .measuring id' _ recvTime => if id' = id then recvTime else none
  | .empty => none

@[simp] theorem SyncState.sendTimeOf_measuring (id : UInt16) (sendTime recvTime : Option Time) :
    (SyncState.measuring id sendTime recvTime).sendTimeOf id = sendTime := if_pos rfl

@[simp] theorem SyncState.recvTimeOf_measuring (id : UInt16) (sendTime recvTime : Option Time) :
    (SyncState.measuring id sendTime recvTime).recvTimeOf id = recvTime := if_pos rfl

/-- Of an exchange that did not begin nothing is known. -/
theorem SyncState.times_of_isMeasuring_eq_false {id : UInt16} {s : SyncState}
    (h : s.isMeasuring id = false) : s.sendTimeOf id = none ∧ s.recvTimeOf id = none := by
  cases s with
  | empty => exact ⟨rfl, rfl⟩
  | measuring id' sendTime recvTime =>
    have hne : id' ≠ id := of_decide_eq_false h
    exact ⟨if_neg hne, if_neg hne⟩

namespace Port

variable {p : Profile} {port : Port Running A R C F} {header : Header} {state : SlaveState}

omit [Rng R] in
/-- A two-step sync message that was not there yet. -/
theorem handleSync_stores {message : SyncMessage} {recvTime : Time} (hinc : port.core.Incomplete)
    (htwo : header.twoStepFlag = true) (hstate : port.portState = .slave state)
    (hmaster : state.remoteMaster = header.sourcePortIdentity)
    (hnone : state.syncState.recvTimeOf header.sequenceId = none) :
    port.handleSync p header message recvTime =
      (recvTime.sub p (Duration.ofTimeInterval header.correctionField) >>= fun arrived =>
        (port.withSlaveState { state with
          syncState := .measuring header.sequenceId
            (state.syncState.sendTimeOf header.sequenceId) (some arrived) }).handleTimeMeasurement p) := by
  have hfresh : ∀ arrived : Time, (port.withSlaveState { state with
      syncState := .measuring header.sequenceId none (some arrived) }).handleTimeMeasurement p =
        .ok (port.withSlaveState { state with
          syncState := .measuring header.sequenceId none (some arrived) }, .empty) :=
    fun arrived => handleTimeMeasurement_idle p (hinc.withSync hstate rfl)
  unfold handleSync
  simp only [hstate]
  rw [if_neg (not_not.mpr hmaster)]
  congr 1
  funext arrived
  rw [if_pos htwo]
  cases hsync : state.syncState with
  | empty => exact (hfresh arrived).symm
  | measuring id sendTime recvTime =>
    rw [hsync] at hnone
    by_cases hid : id = header.sequenceId
    · subst hid
      rw [SyncState.recvTimeOf_measuring] at hnone
      simp [hnone]
    · simp only [SyncState.sendTimeOf, if_neg hid]
      exact (hfresh arrived).symm

omit [AcceptableMasterList A] [Rng R] in
/-- A follow-up that was not there yet. -/
theorem handleFollowUp_stores {message : FollowUpMessage} (hstate : port.portState = .slave state)
    (hmaster : state.remoteMaster = header.sourcePortIdentity)
    (hnone : state.syncState.sendTimeOf header.sequenceId = none) :
    port.handleFollowUp p header message =
      ((Time.ofWireTimestamp message.preciseOriginTimestamp).add p
          (Duration.ofTimeInterval header.correctionField) >>= fun sent =>
        (port.withSlaveState { state with
          syncState := .measuring header.sequenceId (some sent)
            (state.syncState.recvTimeOf header.sequenceId) }).handleTimeMeasurement p) := by
  unfold handleFollowUp
  simp only [hstate]
  rw [if_neg (not_not.mpr hmaster)]
  congr 1
  funext sent
  cases hsync : state.syncState with
  | empty => rfl
  | measuring id sendTime recvTime =>
    rw [hsync] at hnone
    by_cases hid : id = header.sequenceId
    · subst hid
      rw [SyncState.sendTimeOf_measuring] at hnone
      simp [hnone]
    · simp only [SyncState.recvTimeOf, if_neg hid]

omit [AcceptableMasterList A] [Rng R] in
theorem handleDelayTimestamp_stores {id : UInt16} {timestamp : Time} {recvTime : Option Time}
    (hstate : port.portState = .slave state)
    (hdelay : state.delayState = .measuring id none recvTime) :
    port.handleDelayTimestamp p id timestamp = (port.withSlaveState { state with
      delayState := .measuring id (some timestamp) recvTime }).handleTimeMeasurement p := by
  simp [handleDelayTimestamp, hstate, hdelay]

omit [AcceptableMasterList A] [Rng R] in
theorem handleDelayResp_stores {message : DelayRespMessage} {sendTime : Option Time}
    (hstate : port.portState = .slave state)
    (hidentity : port.portIdentity = message.requestingPortIdentity)
    (hmaster : state.remoteMaster = header.sourcePortIdentity)
    (hdelay : state.delayState = .measuring header.sequenceId sendTime none) :
    port.handleDelayResp p header message =
      ((Time.ofWireTimestamp message.receiveTimestamp).sub p
          (Duration.ofTimeInterval header.correctionField) >>= fun recvTime =>
        (port.withSlaveState { state with
          delayState := .measuring header.sequenceId sendTime
            (some recvTime) }).handleTimeMeasurement p) := by
  unfold handleDelayResp storeDelayResp
  simp only [hstate, hidentity, hmaster, hdelay, ne_eq, not_true_eq_false, or_self, if_false, if_true,
    Option.isSome_none, Bool.false_eq_true]
  cases (Time.ofWireTimestamp message.receiveTimestamp).sub p
    (Duration.ofTimeInterval header.correctionField) <;> rfl

omit [AcceptableMasterList A] [Rng R] in
theorem handlePdelayTimestamp_stores {id : UInt16} {timestamp : Time}
    {responder : Option PortIdentity} {t2 t3 t4 : Option Time}
    (hpeer : port.peerDelayState = .measuring id responder none t2 t3 t4) :
    port.handlePdelayTimestamp p id timestamp = (port.withPeerDelayState
      (.measuring id responder (some timestamp) t2 t3 t4)).handleTimeMeasurement p := by
  simp [handlePdelayTimestamp, hpeer]

omit [AcceptableMasterList A] [Rng R] in
/-- An answer that was not there yet. -/
theorem handleAnswer_stores {requesting : PortIdentity} {lacks : PeerDelayState → Bool}
    {stored : Except Panic PeerDelayState} {responder : Option PortIdentity}
    {t1 t2 t3 t4 : Option Time}
    (hpeer : port.peerDelayState = .measuring header.sequenceId responder t1 t2 t3 t4)
    (hidentity : port.portIdentity = requesting)
    (hresponder : ∀ identity, responder = some identity → identity = header.sourcePortIdentity)
    (hlacks : lacks port.peerDelayState = true) :
    port.handleAnswer p header requesting lacks stored =
      (stored >>= fun state => (port.withPeerDelayState state).handleTimeMeasurement p) := by
  unfold handleAnswer
  rw [if_neg (not_not.mpr hidentity)]
  simp only [hpeer] at hlacks ⊢
  rw [if_pos trivial, if_neg (fun h => conflict_iff.mp h hresponder), if_pos hlacks]

end Port

/-! ### Runs -/

namespace Slot

variable {p : Profile} {port : Port Running A R C F} {e : PortEvent T} {es : List (PortEvent T)}

/-- The result of a run in which only the last step gives actions. -/
def afterLast (n : Nat) (result : Except Panic (Port Running A R C F × PortActionIterator)) :
    Except Stop (Slot A R C F × List PortActionIterator) := do
  let (slot, actions) ← ofHandler result
  return (slot, List.replicate n .empty ++ [actions])

theorem run_last {result : Except Panic (Port Running A R C F × PortActionIterator)}
    (hstep : (Slot.running port).step p e = ofHandler result) :
    Machine.run (Slot.step p) (.running port) [e] = afterLast 0 result := by
  rw [Machine.run, hstep]
  cases result <;> rfl

/-- **A part that completes nothing** is stored, and the run goes on. -/
theorem run_cons_store {α : Type} {x : Except Panic α} (store : α → Port Running A R C F)
    {next : α → Except Panic (Port Running A R C F × PortActionIterator)} {n : Nat}
    (hstep : (Slot.running port).step p e =
      ofHandler (x >>= fun a => (store a).handleTimeMeasurement p))
    (hinc : ∀ a, (store a).core.Incomplete)
    (hrest : ∀ a, Machine.run (Slot.step p) (.running (store a)) es = afterLast n (next a)) :
    Machine.run (Slot.step p) (.running port) (e :: es) = afterLast (n + 1) (x >>= next) := by
  rw [Machine.run, hstep]
  cases x with
  | error why => rfl
  | ok a =>
    rw [ok_bind, Port.handleTimeMeasurement_idle p (hinc a)]
    simp only [ofHandler, orPanic, ok_bind, pure_eq_ok, hrest]
    unfold afterLast ofHandler
    cases next a <;> rfl

/-- The same for a part that needs no arithmetic. -/
theorem run_cons_store_ok (store : Port Running A R C F)
    {next : Except Panic (Port Running A R C F × PortActionIterator)} {n : Nat}
    (hstep : (Slot.running port).step p e = ofHandler (store.handleTimeMeasurement p))
    (hinc : store.core.Incomplete)
    (hrest : Machine.run (Slot.step p) (.running store) es = afterLast n next) :
    Machine.run (Slot.step p) (.running port) (e :: es) = afterLast (n + 1) next :=
  run_cons_store (x := .ok ()) (fun _ => store) hstep (fun _ => hinc) fun _ => hrest

/-- One more measurement, or an overflow in a debug build. -/
def OneMeasurement (p : Profile) (slot : Slot A R C F)
    (result : Except Stop (Slot A R C F × List PortActionIterator)) : Prop :=
  (∃ slot' outputs m, result = .ok (slot', outputs) ∧
    slot'.core.handed = slot.core.handed ++ [m]) ∨
  p = .debug ∧ result = .error (.panic .overflow)

/-- **The events lead to the same state in every order**, with the same single measurement. -/
def AnyOrder (p : Profile) (slot : Slot A R C F) (events : List (PortEvent T)) : Prop :=
  ∃ result, OneMeasurement p slot result ∧
    ∀ es, es.Perm events → Machine.run (Slot.step p) slot es = result

omit [Clock C] [Rng R] in
theorem oneMeasurement_afterLast {n : Nat}
    {result : Except Panic (Port Running A R C F × PortActionIterator)}
    (h : Port.MeasuresOnce p port.handed result) :
    OneMeasurement p (.running port) (afterLast n result) := by
  rcases h with ⟨port', actions, m, rfl, hhanded⟩ | ⟨hp, rfl⟩
  · exact Or.inl ⟨_, _, m, rfl, hhanded⟩
  · exact Or.inr ⟨hp, rfl⟩

theorem anyOrder_pair {e₁ e₂ : PortEvent T} {slot : Slot A R C F}
    (result : Except Stop (Slot A R C F × List PortActionIterator))
    (hone : OneMeasurement p slot result) (h₁₂ : Machine.run (Slot.step p) slot [e₁, e₂] = result)
    (h₂₁ : Machine.run (Slot.step p) slot [e₂, e₁] = result) : AnyOrder p slot [e₁, e₂] := by
  refine ⟨result, hone, fun es hes => ?_⟩
  rw [← List.mem_permutations'] at hes
  simp only [List.permutations', List.permutations'Aux, List.flatMap_cons, List.flatMap_nil,
    List.map_cons, List.map_nil, List.append_nil, List.mem_cons, List.not_mem_nil, or_false] at hes
  rcases hes with rfl | rfl
  · exact h₁₂
  · exact h₂₁

end Slot

/-! ### Exchanges of which nothing arrived yet -/

namespace PortCore

/-- A two-step sync message of the master and its follow-up. -/
def NewSync (c : PortCore) (sync followUp : PortEvent T) : Prop :=
  ∃ state m₁ body₁ timestamp m₂ body₂, sync.ReceivesAt m₁ timestamp ∧ m₁.body = .sync body₁ ∧
    m₁.header.twoStepFlag = true ∧ followUp.Receives m₂ ∧ m₂.body = .followUp body₂ ∧
    m₂.header.sequenceId = m₁.header.sequenceId ∧ c.portState = .slave state ∧
    state.remoteMaster = m₁.header.sourcePortIdentity ∧
    state.remoteMaster = m₂.header.sourcePortIdentity ∧
    state.syncState.isMeasuring m₁.header.sequenceId = false

/-- The transmit timestamp of the outstanding delay request, and the answer of the master. -/
def NewDelay (c : PortCore) (sent response : PortEvent T) : Prop :=
  ∃ state timestamp m body, sent.DelayReqSent m.header.sequenceId timestamp ∧
    response.Receives m ∧ m.body = .delayResp body ∧ c.portIdentity = body.requestingPortIdentity ∧
    c.portState = .slave state ∧ state.remoteMaster = m.header.sourcePortIdentity ∧
    state.delayState = .measuring m.header.sequenceId none none

/-- The transmit timestamp of the outstanding peer delay request, and both answers of one
responder. -/
def NewPeerDelay (c : PortCore) (sent response followUp : PortEvent T) : Prop :=
  ∃ timestamp m₁ body₁ arrived m₂ body₂, sent.PDelayReqSent m₁.header.sequenceId timestamp ∧
    response.ReceivesAt m₁ arrived ∧ m₁.body = .pDelayResp body₁ ∧ m₁.header.twoStepFlag = true ∧
    followUp.Receives m₂ ∧ m₂.body = .pDelayRespFollowUp body₂ ∧
    m₂.header.sequenceId = m₁.header.sequenceId ∧
    m₂.header.sourcePortIdentity = m₁.header.sourcePortIdentity ∧
    c.portIdentity = body₁.requestingPortIdentity ∧
    c.portIdentity = body₂.requestingPortIdentity ∧
    c.peerDelayState = .measuring m₁.header.sequenceId none none none none none

end PortCore

namespace Slot

variable {p : Profile} {port : Port Running A R C F}

/-- A sync message and its follow-up. -/
theorem anyOrder_sync {sync followUp : PortEvent T} (hinc : port.core.Incomplete)
    (h : port.core.NewSync sync followUp) : AnyOrder p (.running port) [sync, followUp] := by
  obtain ⟨state, m₁, body₁, timestamp, m₂, body₂, hsync, hbody₁, htwo, hfollowUp, hbody₂, hid, hstate,
    hmaster₁, hmaster₂, hfresh⟩ := h
  obtain ⟨hsend, hrecv⟩ := SyncState.times_of_isMeasuring_eq_false hfresh
  have hx := Time.sub_onlyOverflows p timestamp (Duration.ofTimeInterval m₁.header.correctionField)
  have hy := Time.add_onlyOverflows p (Time.ofWireTimestamp body₂.preciseOriginTimestamp)
    (Duration.ofTimeInterval m₂.header.correctionField)
  -- the complete exchange
  let complete (arrived sent : Time) := (port.withSlaveState { state with
    syncState := .measuring m₁.header.sequenceId (some sent) (some arrived) }).handleTimeMeasurement p
  refine anyOrder_pair (afterLast 1 (do
    let arrived ← timestamp.sub p (Duration.ofTimeInterval m₁.header.correctionField)
    let sent ← (Time.ofWireTimestamp body₂.preciseOriginTimestamp).add p
      (Duration.ofTimeInterval m₂.header.correctionField)
    complete arrived sent)) ?_ ?_ ?_
  · refine oneMeasurement_afterLast (.bind hx fun arrived => .bind hy fun sent => ?_)
    exact Port.handleTimeMeasurement_complete p _ fun hcomplete => by
      cases (hcomplete.slave _ rfl).1
  · refine run_cons_store (fun arrived => port.withSlaveState { state with
      syncState := .measuring m₁.header.sequenceId none (some arrived) }) ?_ ?_ ?_
    · rw [step_sync port hsync hbody₁,
        Port.handleSync_stores hinc htwo hstate hmaster₁ hrecv, hsend]
    · exact fun arrived => hinc.withSync hstate rfl
    · intro arrived
      have hstate' := Port.portState_withSlaveState port { state with
        syncState := .measuring m₁.header.sequenceId none (some arrived) }
      refine run_last ?_
      rw [step_followUp _ hfollowUp hbody₂,
        Port.handleFollowUp_stores hstate' hmaster₂ (by rw [hid]; simp)]
      simp [hid, complete, Port.withSlaveState]
  · rw [OnlyOverflows.bind_comm hx hy]
    refine run_cons_store (fun sent => port.withSlaveState { state with
      syncState := .measuring m₁.header.sequenceId (some sent) none }) ?_ ?_ ?_
    · rw [step_followUp _ hfollowUp hbody₂,
        Port.handleFollowUp_stores hstate hmaster₂ (by rw [hid]; exact hsend), hid, hrecv]
    · exact fun sent => hinc.withSync hstate rfl
    · intro sent
      have hstate' := Port.portState_withSlaveState port { state with
        syncState := .measuring m₁.header.sequenceId (some sent) none }
      refine run_last ?_
      rw [step_sync _ hsync hbody₁, Port.handleSync_stores (hinc.withSync hstate rfl) htwo hstate'
        hmaster₁ (by simp)]
      simp [complete, Port.withSlaveState]

/-- The transmit timestamp of a delay request and its answer. -/
theorem anyOrder_delay {sent response : PortEvent T} (hinc : port.core.Incomplete)
    (h : port.core.NewDelay sent response) : AnyOrder p (.running port) [sent, response] := by
  obtain ⟨state, timestamp, m, body, hsent, hresponse, hbody, hidentity, hstate, hmaster, hdelay⟩ := h
  have hx := Time.sub_onlyOverflows p (Time.ofWireTimestamp body.receiveTimestamp)
    (Duration.ofTimeInterval m.header.correctionField)
  let complete (recvTime : Time) := (port.withSlaveState { state with
    delayState := .measuring m.header.sequenceId (some timestamp)
      (some recvTime) }).handleTimeMeasurement p
  refine anyOrder_pair (afterLast 1 (do
    let recvTime ← (Time.ofWireTimestamp body.receiveTimestamp).sub p
      (Duration.ofTimeInterval m.header.correctionField)
    complete recvTime)) ?_ ?_ ?_
  · refine oneMeasurement_afterLast (.bind hx fun recvTime => ?_)
    exact Port.handleTimeMeasurement_complete p _ fun hcomplete => by
      cases (hcomplete.slave _ rfl).2
  · have hstate' := Port.portState_withSlaveState port { state with
      delayState := .measuring m.header.sequenceId (some timestamp) none }
    refine run_cons_store_ok (port.withSlaveState { state with
      delayState := .measuring m.header.sequenceId (some timestamp) none }) ?_ ?_ (run_last ?_)
    · rw [step_delayTimestamp port hsent, Port.handleDelayTimestamp_stores hstate hdelay]
    · exact hinc.withDelay hstate rfl
    · rw [step_delayResp _ hresponse hbody,
        Port.handleDelayResp_stores hstate' hidentity hmaster rfl]
      rfl
  · refine run_cons_store (fun recvTime => port.withSlaveState { state with
      delayState := .measuring m.header.sequenceId none (some recvTime) }) ?_ ?_ ?_
    · rw [step_delayResp port hresponse hbody,
        Port.handleDelayResp_stores hstate hidentity hmaster hdelay]
    · exact fun recvTime => hinc.withDelay hstate rfl
    · intro recvTime
      have hstate' := Port.portState_withSlaveState port { state with
        delayState := .measuring m.header.sequenceId none (some recvTime) }
      refine run_last ?_
      rw [step_delayTimestamp _ hsent, Port.handleDelayTimestamp_stores hstate' rfl]
      rfl

end Slot

/-! ### The three parts of a peer delay exchange -/

namespace Slot

/-- What the three parts store in a peer delay exchange. -/
structure PeerDelayParts (p : Profile) (port : Port Running A R C F) (id : UInt16)
    (source : PortIdentity) (sendTime requestRecvTime : Time) (arrived sentBack : Except Panic Time)
    (sent response followUp : PortEvent T) : Prop where
  sent : ∀ responder t2 t3 t4,
    (running (port.withPeerDelayState (.measuring id responder none t2 t3 t4))).step p sent =
      ofHandler ((port.withPeerDelayState
        (.measuring id responder (some sendTime) t2 t3 t4)).handleTimeMeasurement p)
  response : ∀ responder t1 t3, (∀ identity, responder = some identity → identity = source) →
    (running (port.withPeerDelayState (.measuring id responder t1 none t3 none))).step p response =
      ofHandler (arrived >>= fun t4 => (port.withPeerDelayState (.measuring id (some source) t1
        (some requestRecvTime) t3 (some t4))).handleTimeMeasurement p)
  followUp : ∀ responder t1 t2 t4, (∀ identity, responder = some identity → identity = source) →
    (running (port.withPeerDelayState (.measuring id responder t1 t2 none t4))).step p followUp =
      ofHandler (sentBack >>= fun t3 => (port.withPeerDelayState (.measuring id (some source) t1
        t2 (some t3) t4)).handleTimeMeasurement p)
  arrived : OnlyOverflows p arrived
  sentBack : OnlyOverflows p sentBack

variable {p : Profile} {port : Port Running A R C F}

theorem peerDelayParts_of_messages {sent response followUp : PortEvent T} {m₁ m₂ : Message}
    {body₁ : PDelayRespMessage} {body₂ : PDelayRespFollowUpMessage} {timestamp recvTime : Time}
    (hsent : sent.PDelayReqSent m₁.header.sequenceId timestamp)
    (hresponse : response.ReceivesAt m₁ recvTime) (hbody₁ : m₁.body = .pDelayResp body₁)
    (htwo : m₁.header.twoStepFlag = true) (hfollowUp : followUp.Receives m₂)
    (hbody₂ : m₂.body = .pDelayRespFollowUp body₂)
    (hid : m₂.header.sequenceId = m₁.header.sequenceId)
    (hsource : m₂.header.sourcePortIdentity = m₁.header.sourcePortIdentity)
    (hidentity₁ : port.portIdentity = body₁.requestingPortIdentity)
    (hidentity₂ : port.portIdentity = body₂.requestingPortIdentity) :
    PeerDelayParts p port m₁.header.sequenceId m₁.header.sourcePortIdentity timestamp
      (Time.ofWireTimestamp body₁.requestReceiveTimestamp)
      (recvTime.sub p (Duration.ofTimeInterval m₁.header.correctionField))
      ((Time.ofWireTimestamp body₂.responseOriginTimestamp).add p
        (Duration.ofTimeInterval m₂.header.correctionField)) sent response followUp := by
  refine ⟨?_, ?_, ?_, Time.sub_onlyOverflows p _ _, Time.add_onlyOverflows p _ _⟩
  · intro responder t2 t3 t4
    rw [step_pdelayTimestamp _ hsent, Port.handlePdelayTimestamp_stores rfl]
    rfl
  · intro responder t1 t3 hresponder
    have hpeer' := Port.peerDelayState_withPeerDelayState port
      (.measuring m₁.header.sequenceId responder t1 none t3 none)
    rw [step_pDelayResp _ hresponse hbody₁, Port.handlePeerDelayResponse_eq,
      Port.handleAnswer_stores hpeer' hidentity₁ hresponder rfl]
    simp only [Port.peerDelayState_withPeerDelayState, Port.storedResponse, htwo, if_true]
    cases recvTime.sub p (Duration.ofTimeInterval m₁.header.correctionField) <;> rfl
  · intro responder t1 t2 t4 hresponder
    have hpeer' := Port.peerDelayState_withPeerDelayState port
      (.measuring m₂.header.sequenceId responder t1 t2 none t4)
    rw [← hid, step_pDelayRespFollowUp _ hfollowUp hbody₂, Port.handlePeerDelayResponseFollowUp_eq,
      Port.handleAnswer_stores hpeer' hidentity₂ (by rw [hsource]; exact hresponder) rfl]
    simp only [Port.peerDelayState_withPeerDelayState, Port.storedFollowUp, hsource]
    cases (Time.ofWireTimestamp body₂.responseOriginTimestamp).add p
      (Duration.ofTimeInterval m₂.header.correctionField) <;> rfl

theorem peerDelayParts_of_new {sent response followUp : PortEvent T}
    (h : port.core.NewPeerDelay sent response followUp) :
    ∃ id source sendTime requestRecvTime arrived sentBack,
      port.peerDelayState = .measuring id none none none none none ∧
      PeerDelayParts p port id source sendTime requestRecvTime arrived sentBack sent response
        followUp := by
  obtain ⟨timestamp, m₁, body₁, recvTime, m₂, body₂, hsent, hresponse, hbody₁, htwo, hfollowUp, hbody₂,
    hid, hsource, hidentity₁, hidentity₂, hpeer⟩ := h
  exact ⟨_, _, _, _, _, _, hpeer, peerDelayParts_of_messages hsent hresponse hbody₁ htwo hfollowUp
    hbody₂ hid hsource hidentity₁ hidentity₂⟩

namespace PeerDelayParts

variable {id : UInt16} {source : PortIdentity} {sendTime requestRecvTime : Time}
  {arrived sentBack : Except Panic Time} {sent response followUp : PortEvent T}
  {es : List (PortEvent T)} {responder : Option PortIdentity} {t1 t2 t3 t4 : Option Time} {n : Nat}

theorem run_sent {next : Except Panic (Port Running A R C F × PortActionIterator)}
    (h : PeerDelayParts p port id source sendTime requestRecvTime arrived sentBack sent response
      followUp) (hinc : port.core.Incomplete)
    (hnone : (PeerDelayState.measuring id responder (some sendTime) t2 t3 t4).completed = none)
    (hrest : Machine.run (Slot.step p) (running (port.withPeerDelayState
      (.measuring id responder (some sendTime) t2 t3 t4))) es = afterLast n next) :
    Machine.run (Slot.step p) (running (port.withPeerDelayState
      (.measuring id responder none t2 t3 t4))) (sent :: es) = afterLast (n + 1) next :=
  run_cons_store_ok _ (h.sent _ _ _ _) (hinc.withPeerDelay hnone) hrest

theorem run_response {next : Time → Except Panic (Port Running A R C F × PortActionIterator)}
    (h : PeerDelayParts p port id source sendTime requestRecvTime arrived sentBack sent response
      followUp) (hinc : port.core.Incomplete)
    (hresponder : ∀ identity, responder = some identity → identity = source)
    (hnone : ∀ t4, (PeerDelayState.measuring id (some source) t1 (some requestRecvTime) t3
      (some t4)).completed = none)
    (hrest : ∀ t4, Machine.run (Slot.step p) (running (port.withPeerDelayState
      (.measuring id (some source) t1 (some requestRecvTime) t3 (some t4)))) es =
        afterLast n (next t4)) :
    Machine.run (Slot.step p) (running (port.withPeerDelayState
      (.measuring id responder t1 none t3 none))) (response :: es) =
        afterLast (n + 1) (arrived >>= next) :=
  run_cons_store _ (h.response _ _ _ hresponder) (fun t4 => hinc.withPeerDelay (hnone t4)) hrest

theorem run_followUp {next : Time → Except Panic (Port Running A R C F × PortActionIterator)}
    (h : PeerDelayParts p port id source sendTime requestRecvTime arrived sentBack sent response
      followUp) (hinc : port.core.Incomplete)
    (hresponder : ∀ identity, responder = some identity → identity = source)
    (hnone : ∀ t3, (PeerDelayState.measuring id (some source) t1 t2 (some t3) t4).completed = none)
    (hrest : ∀ t3, Machine.run (Slot.step p) (running (port.withPeerDelayState
      (.measuring id (some source) t1 t2 (some t3) t4))) es = afterLast n (next t3)) :
    Machine.run (Slot.step p) (running (port.withPeerDelayState
      (.measuring id responder t1 t2 none t4))) (followUp :: es) =
        afterLast (n + 1) (sentBack >>= next) :=
  run_cons_store _ (h.followUp _ _ _ _ hresponder) (fun t3 => hinc.withPeerDelay (hnone t3)) hrest

/-- The complete exchange. -/
def complete (p : Profile) (port : Port Running A R C F) (id : UInt16) (source : PortIdentity)
    (sendTime requestRecvTime t4 t3 : Time) :
    Except Panic (Port Running A R C F × PortActionIterator) :=
  (port.withPeerDelayState (.measuring id (some source) (some sendTime) (some requestRecvTime)
    (some t3) (some t4))).handleTimeMeasurement p

/-- **All six orders.** -/
theorem run_perm (h : PeerDelayParts p port id source sendTime requestRecvTime arrived sentBack sent
    response followUp) (hinc : port.core.Incomplete)
    (hpeer : port.peerDelayState = .measuring id none none none none none)
    (hes : es.Perm [sent, response, followUp]) :
    Machine.run (Slot.step p) (running port) es = afterLast 2 (arrived >>= fun t4 =>
      sentBack >>= fun t3 => complete p port id source sendTime requestRecvTime t4 t3) := by
  have hstart : port = port.withPeerDelayState (.measuring id none none none none none) := by
    rw [← hpeer]
    rfl
  have hnew : ∀ identity, (none : Option PortIdentity) = some identity → identity = source :=
    fun identity hidentity => by cases hidentity
  have hsame : ∀ identity, some source = some identity → identity = source :=
    fun identity hidentity => (Option.some.inj hidentity).symm
  rw [← List.mem_permutations'] at hes
  simp only [List.permutations', List.permutations'Aux, List.flatMap_cons, List.flatMap_nil,
    List.map_cons, List.map_nil, List.append_nil, List.cons_append, List.nil_append,
    List.mem_cons, List.not_mem_nil, or_false] at hes
  have hswap := OnlyOverflows.bind_comm h.arrived h.sentBack
    (complete p port id source sendTime requestRecvTime)
  conv_lhs => rw [hstart]
  rcases hes with rfl | rfl | rfl | rfl | rfl | rfl
  · exact h.run_sent hinc rfl (h.run_response hinc hnew (fun _ => rfl) fun t4 =>
      run_last (h.followUp _ _ _ _ hsame))
  · exact h.run_response hinc hnew (fun _ => rfl) fun t4 => h.run_sent hinc rfl
      (run_last (h.followUp _ _ _ _ hsame))
  · exact h.run_response hinc hnew (fun _ => rfl) fun t4 => h.run_followUp hinc hsame
      (fun _ => rfl) fun t3 => run_last (h.sent _ _ _ _)
  · rw [hswap]
    exact h.run_sent hinc rfl (h.run_followUp hinc hnew (fun _ => rfl) fun t3 =>
      run_last (h.response _ _ _ hsame))
  · rw [hswap]
    exact h.run_followUp hinc hnew (fun _ => rfl) fun t3 => h.run_sent hinc rfl
      (run_last (h.response _ _ _ hsame))
  · rw [hswap]
    exact h.run_followUp hinc hnew (fun _ => rfl) fun t3 => h.run_response hinc hsame
      (fun _ => rfl) fun t4 => run_last (h.sent _ _ _ _)

theorem anyOrder (h : PeerDelayParts p port id source sendTime requestRecvTime arrived sentBack sent
    response followUp) (hinc : port.core.Incomplete)
    (hpeer : port.peerDelayState = .measuring id none none none none none) :
    AnyOrder p (running port) [sent, response, followUp] := by
  refine ⟨_, ?_, fun es hes => h.run_perm hinc hpeer hes⟩
  refine oneMeasurement_afterLast (.bind h.arrived fun t4 => .bind h.sentBack fun t3 => ?_)
  exact Port.handleTimeMeasurement_complete p _ fun hcomplete => by
    cases hcomplete.peer

end PeerDelayParts

/-- A slave that sent a delay request. -/
def sentDelayRequest : TestSlot → Bool
  | running port =>
    decide (port.portState = .slave ⟨testParent, .empty, .measuring 0 none none, none⟩) &&
      decide (port.portIdentity = default)
  | inBmca _ => false

/-- A port that sent a peer delay request. -/
def sentPeerDelayRequest : TestSlot → Bool
  | running port =>
    decide (port.peerDelayState = .measuring 0 none none none none none) &&
      decide (port.portIdentity = default)
  | inBmca _ => false

end Slot

end Statime
