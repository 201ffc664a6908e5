import Statime.Machine.TwoRuns
import Statime.Port.ArrivalOrder

/-!
# What the measurements of a port change

The measurements of a port go to its filter, which steers the clock and estimates the mean delay.
`Steering` is this part of a port, with the state of the port.  Two ports that agree but for it, and
but for the exchanges with one master, keep doing so.

* `handleSync_eq` and the others: what the handlers of a slave store.
* `storeSlave_agrees`, `handleAnswer_agrees`: two ports that store the same.
* `storeSlave_local`: what the messages of the master change.
-/

namespace Statime

open Rust

/-- The part of a port that its measurements change, with the state of the port. -/
structure Steering (C F : Type) where
  portState : PortState
  filter : F
  clock : C
  meanDelay : Option Duration
  handed : List Measurement

/-- The same states, but for the exchanges with the master. -/
def PortState.Agrees (master : PortIdentity) (state state' : PortState) : Prop :=
  state = state' ∨ ∃ slave slave' : SlaveState, state = .slave slave ∧ state' = .slave slave' ∧
    slave.remoteMaster = master ∧ slave'.remoteMaster = master

namespace PortState.Agrees

variable {master : PortIdentity} {state state' : PortState}

theorem trans {state'' : PortState} (h : state.Agrees master state')
    (h' : state'.Agrees master state'') : state.Agrees master state'' := by
  rcases h with rfl | ⟨slave, slave', rfl, rfl, hs, hs'⟩
  · exact h'
  · rcases h' with rfl | ⟨slave₁, slave₂, heq, rfl, -, hs₂⟩
    · exact Or.inr ⟨slave, slave', rfl, rfl, hs, hs'⟩
    · exact Or.inr ⟨slave, slave₂, rfl, rfl, hs, hs₂⟩

theorem symm (h : state.Agrees master state') : state'.Agrees master state := by
  rcases h with rfl | ⟨slave, slave', rfl, rfl, hs, hs'⟩
  · exact Or.inl rfl
  · exact Or.inr ⟨slave', slave, rfl, rfl, hs', hs⟩

/-- They are in the same state, if it is not that of a slave. -/
theorem eq_iff (h : state.Agrees master state') {other : PortState}
    (hother : ∀ slave, other ≠ .slave slave) : state = other ↔ state' = other := by
  rcases h with rfl | ⟨slave, slave', rfl, rfl, -, -⟩
  · exact Iff.rfl
  · exact iff_of_false (hother slave).symm (hother slave').symm

/-- Both are slaves, or none of them is and they are the same. -/
theorem cases (h : state.Agrees master state') :
    (∃ slave slave', state = .slave slave ∧ state' = .slave slave') ∨
      (state' = state ∧ ∀ slave, state ≠ .slave slave) := by
  rcases h with rfl | ⟨slave, slave', rfl, rfl, -, -⟩
  · cases state with
    | slave slave => exact Or.inl ⟨slave, slave, rfl, rfl⟩
    | _ => exact Or.inr ⟨rfl, by simp⟩
  · exact Or.inl ⟨slave, slave', rfl, rfl⟩

theorem entersSlave (h : state.Agrees master state') (remoteMaster : PortIdentity) :
    state.entersSlave remoteMaster = state'.entersSlave remoteMaster := by
  rcases h with rfl | ⟨slave, slave', rfl, rfl, hs, hs'⟩
  · rfl
  · simp only [PortState.entersSlave, hs, hs']

end PortState.Agrees

namespace Port

variable {L A R C F : Type} [Filter F]

def steering (port : Port L A R C F) : Steering C F where
  portState := port.portState
  filter := port.filter
  clock := port.clock
  meanDelay := port.meanDelay
  handed := port.handed

def withSteering (port : Port L A R C F) (m : Steering C F) : Port L A R C F :=
  { port with
    portState := m.portState
    filter := m.filter
    clock := m.clock
    meanDelay := m.meanDelay
    handed := m.handed }

/-- The same ports, but for their measurements and the exchanges with the master. -/
def Agrees (master : PortIdentity) (port port' : Port L A R C F) : Prop :=
  ∃ m, port' = port.withSteering m ∧ port.portState.Agrees master m.portState

namespace Agrees

variable {master : PortIdentity} {port port' : Port L A R C F}

theorem refl (port : Port L A R C F) : port.Agrees master port :=
  ⟨port.steering, rfl, Or.inl rfl⟩

theorem trans {port'' : Port L A R C F} (h : port.Agrees master port')
    (h' : port'.Agrees master port'') : port.Agrees master port'' := by
  obtain ⟨m, rfl, hm⟩ := h
  obtain ⟨m', rfl, hm'⟩ := h'
  exact ⟨m', rfl, hm.trans hm'⟩

theorem symm (h : port.Agrees master port') : port'.Agrees master port := by
  obtain ⟨m, rfl, hm⟩ := h
  exact ⟨port.steering, rfl, hm.symm⟩

theorem withRng (h : port.Agrees master port') (rng : R) :
    ({ port with rng } : Port L A R C F).Agrees master { port' with rng } := by
  obtain ⟨m, rfl, hm⟩ := h
  exact ⟨m, rfl, hm⟩

theorem withBmca (h : port.Agrees master port') (bmca : Bmca A) :
    ({ port with bmca } : Port L A R C F).Agrees master { port' with bmca } := by
  obtain ⟨m, rfl, hm⟩ := h
  exact ⟨m, rfl, hm⟩

theorem withMultiportDisable (h : port.Agrees master port') (multiportDisable : Option Duration) :
    ({ port with multiportDisable } : Port L A R C F).Agrees master
      { port' with multiportDisable } := by
  obtain ⟨m, rfl, hm⟩ := h
  exact ⟨m, rfl, hm⟩

theorem rng_eq (h : port.Agrees master port') : port'.rng = port.rng := by
  obtain ⟨m, rfl, -⟩ := h
  rfl

theorem config_eq (h : port.Agrees master port') : port'.config = port.config := by
  obtain ⟨m, rfl, -⟩ := h
  rfl

theorem bmca_eq (h : port.Agrees master port') : port'.bmca = port.bmca := by
  obtain ⟨m, rfl, -⟩ := h
  rfl

theorem portIdentity_eq (h : port.Agrees master port') : port'.portIdentity = port.portIdentity := by
  obtain ⟨m, rfl, -⟩ := h
  rfl

theorem peerDelayState_eq (h : port.Agrees master port') :
    port'.peerDelayState = port.peerDelayState := by
  obtain ⟨m, rfl, -⟩ := h
  rfl

theorem multiportDisable_eq (h : port.Agrees master port') :
    port'.multiportDisable = port.multiportDisable := by
  obtain ⟨m, rfl, -⟩ := h
  rfl

theorem portState_agrees (h : port.Agrees master port') :
    port.portState.Agrees master port'.portState := by
  obtain ⟨m, rfl, hm⟩ := h
  exact hm

theorem isSteering (h : port.Agrees master port') : port.isSteering = port'.isSteering := by
  obtain ⟨m, rfl, hm⟩ := h
  rcases hm with heq | ⟨slave, slave', heq, heq', -, -⟩
  · simp only [Port.isSteering, withSteering, heq]
  · simp only [Port.isSteering, withSteering, heq, heq']

end Agrees

/-- A new state changes nothing else. -/
theorem setForcedPortState_steering [Clock C] (port : Port L A R C F) (state : PortState) :
    ∃ m, port.setForcedPortState state = port.withSteering m ∧ m.portState = state := by
  unfold setForcedPortState
  split
  · exact ⟨⟨state, Filter.new port.filterConfig, Filter.demobilize port.filter port.clock,
      port.meanDelay, port.handed⟩, rfl, rfl⟩
  · exact ⟨⟨state, port.filter, port.clock, port.meanDelay, port.handed⟩, rfl, rfl⟩

theorem Agrees.setForcedPortState [Clock C] {master : PortIdentity} {port port' : Port L A R C F}
    (h : port.Agrees master port') (state : PortState) :
    (port.setForcedPortState state).Agrees master (port'.setForcedPortState state) := by
  obtain ⟨m, rfl, -⟩ := h
  obtain ⟨m₁, h₁, hm₁⟩ := setForcedPortState_steering port state
  obtain ⟨m₂, h₂, hm₂⟩ := setForcedPortState_steering (port.withSteering m) state
  rw [h₁, h₂]
  exact ⟨m₂, rfl, Or.inl (hm₁.trans hm₂.symm)⟩

end Port

/-! ### What a slave stores -/

namespace SlaveState

/-- The sync exchange with a sync message, and whether it began before; nothing for a duplicate. -/
def takeSync (header : Header) (message : SyncMessage) (arrived : Time) (state : SyncState) :
    Option (SyncState × Bool) :=
  if header.twoStepFlag then
    if (state.recvTimeOf header.sequenceId).isSome then none
    else some (.measuring header.sequenceId (state.sendTimeOf header.sequenceId) (some arrived),
      state.isMeasuring header.sequenceId)
  else if state.isMeasuring header.sequenceId then none
  else some (.measuring header.sequenceId (some (Time.ofWireTimestamp message.originTimestamp))
    (some arrived), true)

/-- What a sync message changes. -/
def storeSync (p : Profile) (header : Header) (message : SyncMessage) (recvTime : Time)
    (state : SlaveState) : Except Panic (Option (SlaveState × Bool)) :=
  if state.remoteMaster ≠ header.sourcePortIdentity then .ok none
  else do
    let arrived ← recvTime.sub p (Duration.ofTimeInterval header.correctionField)
    return (takeSync header message arrived state.syncState).map fun taken =>
      ({ state with syncState := taken.1 }, taken.2)

/-- What a follow-up changes. -/
def storeFollowUp (p : Profile) (header : Header) (message : FollowUpMessage) (state : SlaveState) :
    Except Panic (Option (SlaveState × Bool)) :=
  if state.remoteMaster ≠ header.sourcePortIdentity then .ok none
  else do
    let sent ← (Time.ofWireTimestamp message.preciseOriginTimestamp).add p
      (Duration.ofTimeInterval header.correctionField)
    return if (state.syncState.sendTimeOf header.sequenceId).isSome then none
      else some ({ state with
        syncState := .measuring header.sequenceId (some sent)
          (state.syncState.recvTimeOf header.sequenceId) }, true)

/-- What the transmit timestamp of a delay request changes. -/
def storeDelayTimestamp (id : UInt16) (timestamp : Time) (state : SlaveState) :
    Except Panic (Option (SlaveState × Bool)) :=
  match state.delayState with
  | .measuring id' none recvTime =>
    .ok (if id' = id then some ({ state with
      delayState := .measuring id' (some timestamp) recvTime }, true) else none)
  | _ => .ok none

/-- What a delay response changes. -/
def storeDelayResp (p : Profile) (own : PortIdentity) (header : Header) (message : DelayRespMessage)
    (state : SlaveState) : Except Panic (Option (SlaveState × Bool)) :=
  if own ≠ message.requestingPortIdentity ∨ state.remoteMaster ≠ header.sourcePortIdentity then
    .ok none
  else
    match state.delayState with
    | .measuring id sendTime none =>
      if id = header.sequenceId then do
        let recvTime ← (Time.ofWireTimestamp message.receiveTimestamp).sub p
          (Duration.ofTimeInterval header.correctionField)
        return some ({ state with delayState := .measuring id sendTime (some recvTime) }, true)
      else .ok none
    | _ => .ok none

/-- The master stays the same. -/
def KeepsMaster (stored : SlaveState → Except Panic (Option (SlaveState × Bool))) : Prop :=
  ∀ state state' began, stored state = .ok (some (state', began)) →
    state'.remoteMaster = state.remoteMaster

theorem storeSync_keepsMaster (p : Profile) (header : Header) (message : SyncMessage)
    (recvTime : Time) : KeepsMaster (storeSync p header message recvTime) := by
  intro state state' began h
  unfold storeSync at h
  split at h
  · cases h
  · obtain ⟨arrived, -, h⟩ := bind_eq_ok.mp h
    obtain ⟨taken, -, htaken⟩ := Option.map_eq_some_iff.mp (Except.ok.inj h)
    rw [← (Prod.mk.inj htaken).1]

theorem storeFollowUp_keepsMaster (p : Profile) (header : Header) (message : FollowUpMessage) :
    KeepsMaster (storeFollowUp p header message) := by
  intro state state' began h
  unfold storeFollowUp at h
  split at h
  · cases h
  · obtain ⟨sent, -, h⟩ := bind_eq_ok.mp h
    replace h := Except.ok.inj h
    split at h
    · cases h
    · rw [← (Prod.mk.inj (Option.some.inj h)).1]

theorem storeDelayTimestamp_keepsMaster (id : UInt16) (timestamp : Time) :
    KeepsMaster (storeDelayTimestamp id timestamp) := by
  intro state state' began h
  unfold storeDelayTimestamp at h
  split at h
  · replace h := Except.ok.inj h
    split at h
    · rw [← (Prod.mk.inj (Option.some.inj h)).1]
    · cases h
  · cases h

theorem storeDelayResp_keepsMaster (p : Profile) (own : PortIdentity) (header : Header)
    (message : DelayRespMessage) : KeepsMaster (storeDelayResp p own header message) := by
  intro state state' began h
  unfold storeDelayResp at h
  split at h
  · cases h
  · split at h
    · split at h
      · obtain ⟨recvTime, -, h⟩ := bind_eq_ok.mp h
        rw [← (Prod.mk.inj (Option.some.inj (Except.ok.inj h))).1]
      · cases h
    · cases h

end SlaveState

namespace Port

variable {A R C F : Type} [AcceptableMasterList A] [Clock C] [Filter F] [Rng R] {p : Profile}
  {port port' : Port Running A R C F} {master : PortIdentity}

/-- What the handlers of a slave do with a message: store it, and measure what is complete. -/
def storeSlave (p : Profile) (port : Port Running A R C F)
    (stored : SlaveState → Except Panic (Option (SlaveState × Bool))) :
    Except Panic (Port Running A R C F × PortActionIterator) :=
  match port.portState with
  | .slave state => do
    match ← stored state with
    | some (state, true) => (port.withSlaveState state).handleTimeMeasurement p
    | some (state, false) => return (port.withSlaveState state, .empty)
    | none => return (port, .empty)
  | _ => .ok (port, .empty)

section Equations

omit [AcceptableMasterList A] [Rng R]

variable (p) (port) (header : Header)

theorem handleSync_eq (message : SyncMessage) (recvTime : Time) :
    port.handleSync p header message recvTime =
      port.storeSlave p (SlaveState.storeSync p header message recvTime) := by
  unfold handleSync storeSlave
  cases port.portState with
  | slave state =>
    simp only [SlaveState.storeSync]
    split
    · rfl
    · cases recvTime.sub p (Duration.ofTimeInterval header.correctionField) with
      | error why => rfl
      | ok arrived =>
        simp only [ok_bind, SlaveState.takeSync]
        split
        · cases state.syncState with
          | empty => rfl
          | measuring id sendTime recvTime =>
            by_cases hid : id = header.sequenceId
            · subst hid
              cases recvTime <;> simp [SyncState.isMeasuring]
            · simp [hid, SyncState.recvTimeOf, SyncState.sendTimeOf, SyncState.isMeasuring]
        · cases state.syncState with
          | empty => rfl
          | measuring id sendTime recvTime =>
            by_cases hid : id = header.sequenceId <;> simp [hid, SyncState.isMeasuring]
  | _ => rfl

theorem handleFollowUp_eq (message : FollowUpMessage) :
    port.handleFollowUp p header message =
      port.storeSlave p (SlaveState.storeFollowUp p header message) := by
  unfold handleFollowUp storeSlave
  cases port.portState with
  | slave state =>
    simp only [SlaveState.storeFollowUp]
    split
    · rfl
    · cases (Time.ofWireTimestamp message.preciseOriginTimestamp).add p
        (Duration.ofTimeInterval header.correctionField) with
      | error why => rfl
      | ok sent =>
        simp only [ok_bind]
        cases state.syncState with
        | empty => rfl
        | measuring id sendTime recvTime =>
          by_cases hid : id = header.sequenceId
          · subst hid
            cases sendTime <;> simp
          · simp [hid, SyncState.recvTimeOf, SyncState.sendTimeOf]
  | _ => rfl

theorem handleDelayTimestamp_eq (id : UInt16) (timestamp : Time) :
    port.handleDelayTimestamp p id timestamp =
      port.storeSlave p (SlaveState.storeDelayTimestamp id timestamp) := by
  unfold handleDelayTimestamp storeSlave
  cases port.portState with
  | slave state =>
    simp only [SlaveState.storeDelayTimestamp]
    cases state.delayState with
    | empty => rfl
    | measuring id' sendTime recvTime =>
      by_cases hid : id' = id <;> cases sendTime <;> simp [hid]
  | _ => rfl

theorem handleDelayResp_eq (message : DelayRespMessage) :
    port.handleDelayResp p header message =
      port.storeSlave p (SlaveState.storeDelayResp p port.portIdentity header message) := by
  unfold handleDelayResp Port.storeDelayResp storeSlave
  cases port.portState with
  | slave state =>
    simp only [SlaveState.storeDelayResp]
    split
    · rfl
    · cases state.delayState with
      | empty => rfl
      | measuring id sendTime recvTime =>
        by_cases hid : id = header.sequenceId
        · subst hid
          cases recvTime with
          | some recvTime => simp
          | none =>
            simp only [if_true, Option.isSome_none, Bool.false_eq_true, if_false]
            cases (Time.ofWireTimestamp message.receiveTimestamp).sub p
              (Duration.ofTimeInterval header.correctionField) <;> rfl
        · cases recvTime <;> simp [hid]
  | _ => rfl

end Equations

end Port

/-! ### What a measurement leaves -/

/-- The exchanges of a slave after a look for a complete one. -/
def SlaveState.measured (p : Profile) (delayAsymmetry : Duration) (state : SlaveState) :
    Except Panic SlaveState :=
  match state.syncState with
  | .measuring _ (some sendTime) (some recvTime) => do
    let rawSyncOffset ← Port.rawOffset p recvTime sendTime delayAsymmetry
    return { state with lastRawSyncOffset := some rawSyncOffset, syncState := .empty }
  | _ =>
    match state.delayState with
    | .measuring _ (some _) (some _) => .ok { state with delayState := .empty }
    | _ => .ok state

section

variable {p : Profile} {delayAsymmetry : Duration} {state : SlaveState} {id : UInt16}
  {sendTime recvTime : Time}

theorem SlaveState.measured_sync
    (hsync : state.syncState = .measuring id (some sendTime) (some recvTime)) :
    state.measured p delayAsymmetry = do
      let rawSyncOffset ← Port.rawOffset p recvTime sendTime delayAsymmetry
      return { state with lastRawSyncOffset := some rawSyncOffset, syncState := .empty } := by
  unfold SlaveState.measured
  rw [hsync]

theorem SlaveState.measured_delay
    (hsync : ∀ id sendTime recvTime,
      state.syncState ≠ .measuring id (some sendTime) (some recvTime))
    (hdelay : state.delayState = .measuring id (some sendTime) (some recvTime)) :
    state.measured p delayAsymmetry = .ok { state with delayState := .empty } := by
  unfold SlaveState.measured
  split
  · rename_i heq
    exact absurd heq (hsync _ _ _)
  · rw [hdelay]

theorem SlaveState.measured_incomplete
    (hsync : ∀ id sendTime recvTime,
      state.syncState ≠ .measuring id (some sendTime) (some recvTime))
    (hdelay : ∀ id sendTime recvTime,
      state.delayState ≠ .measuring id (some sendTime) (some recvTime)) :
    state.measured p delayAsymmetry = .ok state := by
  unfold SlaveState.measured
  split
  · rename_i heq
    exact absurd heq (hsync _ _ _)
  · split
    · rename_i heq
      exact absurd heq (hdelay _ _ _)
    · rfl

end

/-- The exchanges of a slave after something was stored. -/
def SlaveState.afterStoring (p : Profile) (delayAsymmetry : Duration)
    (stored : SlaveState → Except Panic (Option (SlaveState × Bool))) (state : SlaveState) :
    Except Panic SlaveState := do
  match ← stored state with
  | some (state, true) => state.measured p delayAsymmetry
  | some (state, false) => return state
  | none => return state

theorem SlaveState.afterStoring_remoteMaster {p : Profile} {delayAsymmetry : Duration}
    {stored : SlaveState → Except Panic (Option (SlaveState × Bool))} {state state' : SlaveState}
    (hkeeps : KeepsMaster stored) (h : state.afterStoring p delayAsymmetry stored = .ok state') :
    state'.remoteMaster = state.remoteMaster := by
  have hmeasured : ∀ {state state' : SlaveState}, state.measured p delayAsymmetry = .ok state' →
      state'.remoteMaster = state.remoteMaster := by
    intro state state' h
    unfold measured at h
    split at h
    · obtain ⟨raw, -, h⟩ := bind_eq_ok.mp h
      rw [← Except.ok.inj h]
    · split at h <;> rw [← Except.ok.inj h]
  obtain ⟨result, hresult, h⟩ := bind_eq_ok.mp h
  split at h
  · exact (hmeasured h).trans (hkeeps _ _ _ hresult)
  · rw [← Except.ok.inj h]
    exact hkeeps _ _ _ hresult
  · rw [← Except.ok.inj h]

namespace Port

variable {A R C F : Type} [AcceptableMasterList A] [Clock C] [Filter F] [Rng R] {p : Profile}
  {port port' port₁ port₁' : Port Running A R C F} {master : PortIdentity}
  {actions actions' : PortActionIterator}

section

omit [AcceptableMasterList A] [Rng R]

/-- A measurement of a slave. -/
theorem handleTimeMeasurement_slave {state : SlaveState}
    (h : port.handleTimeMeasurement p = .ok (port', actions))
    (hpeer : port.peerDelayState.completed = none) (hstate : port.portState = .slave state) :
    ∃ state' m, state.measured p port.config.delayAsymmetry = .ok state' ∧
      port' = port.withSteering m ∧ m.portState = .slave state' := by
  obtain ⟨⟨measurement, port₁⟩, hextract, h⟩ := bind_eq_ok.mp h
  unfold extractMeasurement at hextract
  split at hextract
  · rename_i heq
    rw [heq] at hpeer
    cases hpeer
  · simp only [hstate] at hextract
    unfold extractSlaveMeasurement at hextract
    split at hextract
    · rename_i hsync
      obtain ⟨raw, hraw, hextract⟩ := bind_eq_ok.mp hextract
      obtain ⟨offset, -, hextract⟩ := bind_eq_ok.mp hextract
      obtain ⟨rfl, rfl⟩ := Prod.mk.inj (Except.ok.inj hextract)
      obtain ⟨rfl, -⟩ := Prod.mk.inj (Except.ok.inj h)
      rw [SlaveState.measured_sync hsync, hraw]
      exact ⟨_, ⟨_, _, _, _, _⟩, rfl, rfl, rfl⟩
    · rename_i hsync
      split at hextract
      · rename_i hdelay
        obtain ⟨raw, -, hextract⟩ := bind_eq_ok.mp hextract
        obtain ⟨delay, -, hextract⟩ := bind_eq_ok.mp hextract
        obtain ⟨rfl, rfl⟩ := Prod.mk.inj (Except.ok.inj hextract)
        obtain ⟨rfl, -⟩ := Prod.mk.inj (Except.ok.inj h)
        rw [SlaveState.measured_delay hsync hdelay]
        exact ⟨_, ⟨_, _, _, _, _⟩, rfl, rfl, rfl⟩
      · rename_i hdelay
        obtain ⟨rfl, rfl⟩ := Prod.mk.inj (Except.ok.inj hextract)
        obtain ⟨rfl, -⟩ := Prod.mk.inj (Except.ok.inj h)
        exact ⟨state, port.steering, SlaveState.measured_incomplete hsync hdelay, rfl, hstate⟩

/-- A complete peer delay exchange. -/
theorem handleTimeMeasurement_peer {id : UInt16} {responder : PortIdentity} {times : PeerDelayTimes}
    (hpeer : port.peerDelayState.completed = some (id, responder, times))
    (h : port.handleTimeMeasurement p = .ok (port', actions)) :
    ∃ m, port' = (port.withPeerDelayState (.postMeasurement id responder)).withSteering m ∧
      m.portState = if port.portState = .faulty then .listening else port.portState := by
  obtain ⟨⟨measurement, port₁⟩, hextract, h⟩ := bind_eq_ok.mp h
  unfold extractMeasurement at hextract
  split at hextract
  · rename_i id' responder' t1 t2 t3 t4 heq
    rw [heq] at hpeer
    obtain ⟨rfl, rfl, -⟩ : id' = id ∧ responder' = responder ∧ _ := by
      simpa [PeerDelayState.completed] using hpeer
    obtain ⟨delay, -, hextract⟩ := bind_eq_ok.mp hextract
    obtain ⟨rfl, hport₁⟩ := Prod.mk.inj (Except.ok.inj hextract)
    have hrecovered : ∃ m, port₁ =
        (port.withPeerDelayState (.postMeasurement id' responder')).withSteering m ∧
          m.portState = if port.portState = .faulty then .listening else port.portState := by
      have hstate : (port.withPeerDelayState (.postMeasurement id' responder')).portState =
          port.portState := rfl
      rw [← hport₁, hstate]
      split
      · exact setForcedPortState_steering _ _
      · exact ⟨port.steering, rfl, rfl⟩
    obtain ⟨m, rfl, hm⟩ := hrecovered
    obtain ⟨rfl, -⟩ := Prod.mk.inj (Except.ok.inj h)
    exact ⟨⟨m.portState, _, _, _, _⟩, rfl, hm⟩
  · rename_i hnot
    unfold PeerDelayState.completed at hpeer
    split at hpeer
    · rename_i heq
      exact absurd heq (hnot _ _ _ _ _ _)
    · cases hpeer

/-- What a slave stores. -/
theorem storeSlave_slave {state : SlaveState}
    {stored : SlaveState → Except Panic (Option (SlaveState × Bool))}
    (h : port.storeSlave p stored = .ok (port', actions))
    (hpeer : port.peerDelayState.completed = none) (hstate : port.portState = .slave state) :
    ∃ state' m, state.afterStoring p port.config.delayAsymmetry stored = .ok state' ∧
      port' = port.withSteering m ∧ m.portState = .slave state' := by
  unfold storeSlave at h
  simp only [hstate] at h
  obtain ⟨result, hresult, h⟩ := bind_eq_ok.mp h
  unfold SlaveState.afterStoring
  rw [hresult, ok_bind]
  split at h
  · obtain ⟨state', m, hmeasured, rfl, hm⟩ := handleTimeMeasurement_slave h hpeer rfl
    exact ⟨state', m, hmeasured, rfl, hm⟩
  · obtain ⟨rfl, -⟩ := Prod.mk.inj (Except.ok.inj h)
    exact ⟨_, ⟨.slave _, _, _, _, _⟩, rfl, rfl, rfl⟩
  · obtain ⟨rfl, -⟩ := Prod.mk.inj (Except.ok.inj h)
    exact ⟨state, port.steering, rfl, rfl, hstate⟩

theorem storeSlave_other {stored : SlaveState → Except Panic (Option (SlaveState × Bool))}
    (hother : ∀ state, port.portState ≠ .slave state) :
    port.storeSlave p stored = .ok (port, .empty) := by
  unfold storeSlave
  split
  · rename_i hstate
    exact absurd hstate (hother _)
  · rfl

/-- **Two ports that store the same.** -/
theorem storeSlave_agrees {stored : SlaveState → Except Panic (Option (SlaveState × Bool))}
    (hkeeps : SlaveState.KeepsMaster stored) (hpeer : port.peerDelayState.completed = none)
    (hagree : port.Agrees master port') (h : port.storeSlave p stored = .ok (port₁, actions))
    (h' : port'.storeSlave p stored = .ok (port₁', actions')) : port₁.Agrees master port₁' := by
  obtain ⟨m, rfl, hm⟩ := hagree
  rcases hm with heq | ⟨slave, slave', hslave, hslave', hmaster, hmaster'⟩
  · cases hstate : port.portState with
    | slave state =>
      obtain ⟨state₁, m₁, hafter, rfl, hm₁⟩ := storeSlave_slave h hpeer hstate
      obtain ⟨state₁', m₁', hafter', rfl, hm₁'⟩ := storeSlave_slave h' hpeer
        (heq.symm.trans hstate)
      obtain rfl := Except.ok.inj (hafter.symm.trans hafter')
      exact ⟨m₁', rfl, Or.inl (hm₁.trans hm₁'.symm)⟩
    | _ =>
      rw [storeSlave_other (by simp [hstate])] at h
      rw [storeSlave_other (by simp [withSteering, ← heq, hstate])] at h'
      obtain ⟨rfl, -⟩ := Prod.mk.inj (Except.ok.inj h)
      obtain ⟨rfl, -⟩ := Prod.mk.inj (Except.ok.inj h')
      exact ⟨m, rfl, Or.inl heq⟩
  · obtain ⟨state₁, m₁, hafter, rfl, hm₁⟩ := storeSlave_slave h hpeer hslave
    obtain ⟨state₁', m₁', hafter', rfl, hm₁'⟩ := storeSlave_slave h' hpeer hslave'
    exact ⟨m₁', rfl, Or.inr ⟨state₁, state₁', hm₁, hm₁',
      (SlaveState.afterStoring_remoteMaster hkeeps hafter).trans hmaster,
      (SlaveState.afterStoring_remoteMaster hkeeps hafter').trans hmaster'⟩⟩

/-- **What only a slave of the master stores** changes nothing else. -/
theorem storeSlave_local {stored : SlaveState → Except Panic (Option (SlaveState × Bool))}
    (hkeeps : SlaveState.KeepsMaster stored) (hpeer : port.peerDelayState.completed = none)
    (hother : ∀ state : SlaveState, state.remoteMaster ≠ master → stored state = .ok none)
    (h : port.storeSlave p stored = .ok (port', actions)) : port.Agrees master port' := by
  cases hstate : port.portState with
  | slave state =>
    obtain ⟨state', m, hafter, rfl, hm⟩ := storeSlave_slave h hpeer hstate
    refine ⟨m, rfl, ?_⟩
    by_cases hmaster : state.remoteMaster = master
    · exact Or.inr ⟨state, state', hstate, hm, hmaster,
        (SlaveState.afterStoring_remoteMaster hkeeps hafter).trans hmaster⟩
    · rw [SlaveState.afterStoring, hother state hmaster] at hafter
      obtain rfl := Except.ok.inj hafter
      exact Or.inl (hstate.trans hm.symm)
  | _ =>
    rw [storeSlave_other (by simp [hstate])] at h
    obtain ⟨rfl, -⟩ := Prod.mk.inj (Except.ok.inj h)
    exact .refl _

end

omit [Rng R] in
/-- **Two ports that store the same about a peer delay.** -/
theorem handleTimeMeasurement_peer_agrees {state : PeerDelayState} (hinc : port.core.Incomplete)
    (hinc' : port'.core.Incomplete) (hagree : port.Agrees master port')
    (h : (port.withPeerDelayState state).handleTimeMeasurement p = .ok (port₁, actions))
    (h' : (port'.withPeerDelayState state).handleTimeMeasurement p = .ok (port₁', actions')) :
    port₁.Agrees master port₁' := by
  obtain ⟨m, rfl, hm⟩ := hagree
  cases hcomplete : state.completed with
  | none =>
    have hidle : (port.withPeerDelayState state).core.Incomplete := hinc.withPeerDelay hcomplete
    have hidle' : ((port.withSteering m).withPeerDelayState state).core.Incomplete :=
      hinc'.withPeerDelay hcomplete
    rw [handleTimeMeasurement_idle p hidle] at h
    rw [handleTimeMeasurement_idle p hidle'] at h'
    obtain ⟨rfl, -⟩ := Prod.mk.inj (Except.ok.inj h)
    obtain ⟨rfl, -⟩ := Prod.mk.inj (Except.ok.inj h')
    exact ⟨m, rfl, hm⟩
  | some exchange =>
    obtain ⟨id, responder, times⟩ := exchange
    obtain ⟨m₁, rfl, hm₁⟩ := handleTimeMeasurement_peer hcomplete h
    obtain ⟨m₁', rfl, hm₁'⟩ := handleTimeMeasurement_peer hcomplete h'
    refine ⟨m₁', rfl, ?_⟩
    change m₁.portState.Agrees master m₁'.portState
    rw [hm₁, hm₁']
    have hfaulty : port.portState = .faulty ↔ m.portState = .faulty :=
      hm.eq_iff fun slave heq => by cases heq
    by_cases hport : port.portState = .faulty
    · rw [if_pos (show (port.withPeerDelayState state).portState = .faulty from hport),
        if_pos (show ((port.withSteering m).withPeerDelayState state).portState = .faulty from
          hfaulty.mp hport)]
      exact Or.inl rfl
    · rw [if_neg (show ¬ (port.withPeerDelayState state).portState = .faulty from hport),
        if_neg (show ¬ ((port.withSteering m).withPeerDelayState state).portState = .faulty from
          fun h => hport (hfaulty.mpr h))]
      exact hm

omit [Rng R] in
theorem handleAnswer_agrees {header : Header} {requesting : PortIdentity}
    {lacks : PeerDelayState → Bool} {stored : Except Panic PeerDelayState}
    (hinc : port.core.Incomplete) (hinc' : port'.core.Incomplete) (hagree : port.Agrees master port')
    (h : port.handleAnswer p header requesting lacks stored = .ok (port₁, actions))
    (h' : port'.handleAnswer p header requesting lacks stored = .ok (port₁', actions')) :
    port₁.Agrees master port₁' := by
  have hfaulty := hagree.setForcedPortState .faulty
  unfold handleAnswer at h h'
  rw [hagree.peerDelayState_eq, hagree.portIdentity_eq] at h'
  -- both ports end with the same branch
  have hunchanged : ∀ {q q' : Port Running A R C F}, q.Agrees master q' →
      (.ok (q, .empty) : Except Panic (Port Running A R C F × PortActionIterator)) =
        .ok (port₁, actions) →
      (.ok (q', .empty) : Except Panic (Port Running A R C F × PortActionIterator)) =
        .ok (port₁', actions') → port₁.Agrees master port₁' := by
    intro q q' hq h h'
    obtain ⟨rfl, -⟩ := Prod.mk.inj (Except.ok.inj h)
    obtain ⟨rfl, -⟩ := Prod.mk.inj (Except.ok.inj h')
    exact hq
  split at h
  · rename_i hother
    rw [if_pos hother] at h'
    exact hunchanged hagree h h'
  · rename_i hown
    rw [if_neg hown] at h'
    cases hstate : port.peerDelayState with
    | empty =>
      simp only [hstate] at h h'
      exact hunchanged hagree h h'
    | postMeasurement id responder =>
      simp only [hstate] at h h'
      split at h
      · rename_i hconflict
        rw [if_pos hconflict] at h'
        exact hunchanged hfaulty h h'
      · rename_i hconflict
        rw [if_neg hconflict] at h'
        exact hunchanged hagree h h'
    | measuring id responder t1 t2 t3 t4 =>
      simp only [hstate] at h h'
      split at h
      · rename_i hid
        rw [if_pos hid] at h'
        split at h
        · rename_i hconflict
          rw [if_pos hconflict] at h'
          exact hunchanged hfaulty h h'
        · rename_i hconflict
          rw [if_neg hconflict] at h'
          split at h
          · rename_i hlacks
            rw [if_pos hlacks] at h'
            obtain ⟨state, rfl, h⟩ := bind_eq_ok.mp h
            exact handleTimeMeasurement_peer_agrees hinc hinc' hagree h h'
          · rename_i hlacks
            rw [if_neg hlacks] at h'
            exact hunchanged hagree h h'
      · rename_i hid
        rw [if_neg hid] at h'
        exact hunchanged hagree h h'

omit [Rng R] in
theorem handlePdelayTimestamp_agrees {id : UInt16} {timestamp : Time} (hinc : port.core.Incomplete)
    (hinc' : port'.core.Incomplete) (hagree : port.Agrees master port')
    (h : port.handlePdelayTimestamp p id timestamp = .ok (port₁, actions))
    (h' : port'.handlePdelayTimestamp p id timestamp = .ok (port₁', actions')) :
    port₁.Agrees master port₁' := by
  have hunchanged : (.ok (port, .empty) : Except Panic (Port Running A R C F × PortActionIterator)) =
      .ok (port₁, actions) →
      (.ok (port', .empty) : Except Panic (Port Running A R C F × PortActionIterator)) =
        .ok (port₁', actions') → port₁.Agrees master port₁' := by
    intro h h'
    obtain ⟨rfl, -⟩ := Prod.mk.inj (Except.ok.inj h)
    obtain ⟨rfl, -⟩ := Prod.mk.inj (Except.ok.inj h')
    exact hagree
  unfold handlePdelayTimestamp at h h'
  rw [hagree.peerDelayState_eq] at h'
  cases hstate : port.peerDelayState with
  | empty | postMeasurement =>
    simp only [hstate] at h h'
    exact hunchanged h h'
  | measuring id' responder t1 t2 t3 t4 =>
    simp only [hstate] at h h'
    split at h
    · rename_i hid
      rw [if_pos hid] at h'
      split at h
      · rename_i hsent
        rw [if_pos hsent] at h'
        exact hunchanged h h'
      · rename_i hsent
        rw [if_neg hsent] at h'
        exact handleTimeMeasurement_peer_agrees hinc hinc' hagree h h'
    · rename_i hid
      rw [if_neg hid] at h'
      exact hunchanged h h'

end Port

/-! ### Handlers that do not steer -/

namespace Port

variable {L A R C F T : Type} [AcceptableMasterList A] [Clock C] [Filter F] [Rng R]
  [ForwardedTLVProvider T] {p : Profile} {m : Steering C F} {master : PortIdentity}

/-- The handler works the same on a port with other measurements, as long as this port is a master
whenever the other one is. -/
def DoesNotSteer {α : Type} (handler : Port L A R C F → Except Panic (Port L A R C F × α)) : Prop :=
  ∀ port m, (m.portState = .master ↔ port.portState = .master) →
    handler (port.withSteering m) = (fun r => (r.1.withSteering m, r.2)) <$> handler port

omit [AcceptableMasterList A] [Clock C] [Rng R] in
theorem DoesNotSteer.agrees {α : Type}
    {handler : Port L A R C F → Except Panic (Port L A R C F × α)} (hsteer : DoesNotSteer handler)
    {port port' : Port L A R C F} {r r' : Port L A R C F × α} (hagree : port.Agrees master port')
    (h : handler port = .ok r) (h' : handler port' = .ok r') : r.1.Agrees master r'.1 := by
  obtain ⟨m, rfl, hm⟩ := hagree
  have hself := hsteer port port.steering Iff.rfl
  have hother := hsteer port m (hm.symm.eq_iff fun slave heq => by cases heq)
  rw [show port.withSteering port.steering = port from rfl, h] at hself
  rw [h, h'] at hother
  obtain rfl : r' = (r.1.withSteering m, r.2) := Except.ok.inj hother
  have hsame : r.1 = r.1.withSteering port.steering := (Prod.mk.inj (Except.ok.inj hself)).1
  refine ⟨m, rfl, ?_⟩
  rw [hsame]
  exact hm

section

omit [AcceptableMasterList A] [Clock C] [Rng R]

variable (p) (s : PtpInstanceState)

theorem sendSync_doesNotSteer :
    DoesNotSteer (fun port : Port Running A R C F => port.sendSync p s) := by
  intro port m hm
  unfold sendSync
  simp only [apply_ite (Functor.map _), map_bind]
  exact if_congr hm rfl rfl

theorem handleSyncTimestamp_doesNotSteer (id : UInt16) (timestamp : Time) :
    DoesNotSteer (fun port : Port Running A R C F => port.handleSyncTimestamp p s id timestamp) := by
  intro port m hm
  unfold handleSyncTimestamp
  simp only [apply_ite (Functor.map _), map_bind]
  exact if_congr hm rfl rfl

theorem sendAnnounce_doesNotSteer (provider : T) :
    DoesNotSteer (fun port : Port Running A R C F => port.sendAnnounce p s provider) := by
  intro port m hm
  unfold sendAnnounce
  simp only [apply_ite (Functor.map _), map_bind]
  exact if_congr hm rfl rfl

theorem handleDelayReq_doesNotSteer (header : Header) (timestamp : Time) :
    DoesNotSteer (fun port : Port Running A R C F => port.handleDelayReq p header timestamp) := by
  intro port m hm
  unfold handleDelayReq
  simp only [apply_ite (Functor.map _), map_bind]
  exact if_congr hm rfl rfl

theorem handlePdelayReq_doesNotSteer (header : Header) (timestamp : Time) :
    DoesNotSteer (fun port : Port Running A R C F => port.handlePdelayReq p s header timestamp) := by
  intro port m _
  unfold handlePdelayReq
  simp only [map_bind]
  rfl

theorem handlePdelayResponseTimestamp_doesNotSteer (id : UInt16) (requestor : PortIdentity)
    (timestamp : Time) : DoesNotSteer (fun port : Port Running A R C F =>
      port.handlePdelayResponseTimestamp p s id requestor timestamp) := by
  intro port m _
  unfold handlePdelayResponseTimestamp
  simp only [map_bind]
  rfl

end

omit [AcceptableMasterList A] [Clock C] in
theorem sendP2pDelayRequest_doesNotSteer (s : PtpInstanceState) (interval : Interval) :
    DoesNotSteer (fun port : Port Running A R C F => port.sendP2pDelayRequest p s interval) := by
  intro port m _
  unfold sendP2pDelayRequest
  simp only [map_bind]
  rfl

end Port

/-! ### The other handlers of a running port -/

namespace Port

variable {A R C F : Type} [AcceptableMasterList A] [Clock C] [Filter F] [Rng R] {p : Profile}
  {port port' port₁ port₁' : Port Running A R C F} {master : PortIdentity} {s : PtpInstanceState}
  {actions actions' : PortActionIterator}

omit [AcceptableMasterList A] [Clock C] in
theorem sendDelayRequest_agrees (hagree : port.Agrees master port')
    (h : port.sendDelayRequest p s = .ok (port₁, actions))
    (h' : port'.sendDelayRequest p s = .ok (port₁', actions')) : port₁.Agrees master port₁' := by
  unfold sendDelayRequest at h h'
  rw [hagree.config_eq] at h'
  cases hmechanism : port.config.delayMechanism with
  | p2p interval =>
    simp only [hmechanism] at h h'
    exact (sendP2pDelayRequest_doesNotSteer s interval).agrees hagree h h'
  | e2e interval =>
    simp only [hmechanism] at h h'
    obtain ⟨m, rfl, hm⟩ := hagree
    unfold sendE2eDelayRequest at h h'
    -- a slave sends the request, whatever its exchanges are
    have hsent : ∀ {state state' : SlaveState}, port.portState = .slave state →
        m.portState = .slave state' → (state = state' ∨ state.remoteMaster = master ∧
          state'.remoteMaster = master) → port₁.Agrees master port₁' := by
      intro state state' hstate hstate' hsame
      rw [show (port.withSteering m).portState = .slave state' from hstate'] at h'
      rw [hstate] at h
      obtain ⟨⟨buffer, data⟩, hbuffer, h⟩ := bind_eq_ok.mp h
      obtain ⟨⟨duration, rng⟩, hduration, h⟩ := bind_eq_ok.mp h
      obtain ⟨⟨buffer', data'⟩, hbuffer', h'⟩ := bind_eq_ok.mp h'
      obtain ⟨⟨duration', rng'⟩, hduration', h'⟩ := bind_eq_ok.mp h'
      obtain ⟨rfl, rfl⟩ := Prod.mk.inj (Except.ok.inj (hbuffer.symm.trans hbuffer'))
      obtain ⟨rfl, rfl⟩ := Prod.mk.inj (Except.ok.inj (hduration.symm.trans hduration'))
      obtain ⟨rfl, -⟩ := Prod.mk.inj (Except.ok.inj h)
      obtain ⟨rfl, -⟩ := Prod.mk.inj (Except.ok.inj h')
      refine ⟨⟨.slave { state' with delayState := .measuring port.delaySeqIds.generate.1 none none },
        m.filter, m.clock, m.meanDelay, m.handed⟩, rfl, ?_⟩
      rcases hsame with rfl | ⟨hmaster, hmaster'⟩
      · exact Or.inl rfl
      · exact Or.inr ⟨_, _, rfl, rfl, hmaster, hmaster'⟩
    rcases hm with heq | ⟨slave, slave', hslave, hslave', hmaster, hmaster'⟩
    · cases hstate : port.portState with
      | slave state => exact hsent hstate (heq.symm.trans hstate) (Or.inl rfl)
      | _ =>
        rw [hstate] at h
        rw [show (port.withSteering m).portState = _ from heq.symm.trans hstate] at h'
        obtain ⟨rfl, -⟩ := Prod.mk.inj (Except.ok.inj h)
        obtain ⟨rfl, -⟩ := Prod.mk.inj (Except.ok.inj h')
        exact ⟨m, rfl, Or.inl heq⟩
    · exact hsent hslave hslave' (Or.inr ⟨hmaster, hmaster'⟩)

omit [AcceptableMasterList A] in
theorem handleAnnounceReceiptTimer_agrees (hagree : port.Agrees master port')
    (h : port.handleAnnounceReceiptTimer s = .ok (port₁, actions))
    (h' : port'.handleAnnounceReceiptTimer s = .ok (port₁', actions')) :
    port₁.Agrees master port₁' := by
  -- forcing a state that both or neither of the ports is in
  have hforced : ∀ {state : PortState}, (∀ slave, state ≠ .slave slave) →
      (if port.portState = state then port else port.setForcedPortState state).Agrees master
        (if port'.portState = state then port' else port'.setForcedPortState state) := by
    intro state hother
    have hsame := hagree.portState_agrees.eq_iff hother
    by_cases hstate : port.portState = state
    · rw [if_pos hstate, if_pos (hsame.mp hstate)]
      exact hagree
    · rw [if_neg hstate, if_neg fun h => hstate (hsame.mpr h)]
      exact hagree.setForcedPortState state
  unfold handleAnnounceReceiptTimer at h h'
  split at h
  · rename_i hslaveOnly
    rw [if_pos hslaveOnly] at h'
    have hagree₁ : (if port.portState = .listening then port else
        port.setForcedPortState .listening).Agrees master (if port'.portState = .listening then port'
          else port'.setForcedPortState .listening) := hforced fun slave heq => by cases heq
    obtain ⟨⟨duration, rng⟩, hduration, h⟩ := bind_eq_ok.mp h
    obtain ⟨⟨duration', rng'⟩, hduration', h'⟩ := bind_eq_ok.mp h'
    rw [hagree₁.rng_eq, hagree₁.config_eq] at hduration'
    obtain ⟨rfl, rfl⟩ := Prod.mk.inj (Except.ok.inj (hduration.symm.trans hduration'))
    obtain ⟨rfl, -⟩ := Prod.mk.inj (Except.ok.inj h)
    obtain ⟨rfl, -⟩ := Prod.mk.inj (Except.ok.inj h')
    exact hagree₁.withRng rng
  · rename_i hslaveOnly
    rw [if_neg hslaveOnly] at h'
    obtain ⟨rfl, -⟩ := Prod.mk.inj (Except.ok.inj h)
    obtain ⟨rfl, -⟩ := Prod.mk.inj (Except.ok.inj h')
    exact hforced fun slave heq => by cases heq

omit [AcceptableMasterList A] [Rng R] in
theorem handleFilterUpdateTimer_agrees (hagree : port.Agrees master port') :
    port.handleFilterUpdateTimer.1.Agrees master port'.handleFilterUpdateTimer.1 := by
  obtain ⟨m, rfl, hm⟩ := hagree
  exact ⟨⟨m.portState, _, _, _, m.handed⟩, rfl, hm⟩

omit [AcceptableMasterList A] [Rng R] in
theorem checkMultiport_agrees (message : Message) (hagree : port.Agrees master port') :
    (port.checkMultiport message).Agrees master (port'.checkMultiport message) := by
  obtain ⟨m, rfl, hm⟩ := hagree
  unfold checkMultiport
  rw [show (port.withSteering m).portIdentity = port.portIdentity from rfl]
  split
  · exact (Agrees.withMultiportDisable ⟨m, rfl, hm⟩ _).setForcedPortState .passive
  · exact ⟨m, rfl, hm⟩

theorem handleAnnounce_agrees {message : Message} {announce : AnnounceMessage}
    {s' s'' : PtpInstanceState} (hagree : port.Agrees master port')
    (h : port.handleAnnounce p s message announce = .ok (port₁, s', actions))
    (h' : port'.handleAnnounce p s message announce = .ok (port₁', s'', actions')) :
    port₁.Agrees master port₁' := by
  have hdatasets : port'.updateDatasets p s message announce =
      port.updateDatasets p s message announce := by
    unfold updateDatasets isFromParent
    rw [hagree.isSteering]
  unfold handleAnnounce at h h'
  rw [hdatasets] at h'
  obtain ⟨⟨s₁, clockLoop⟩, hupdate, h⟩ := bind_eq_ok.mp h
  obtain ⟨⟨s₁', clockLoop'⟩, hupdate', h'⟩ := bind_eq_ok.mp h'
  obtain ⟨rfl, rfl⟩ := Prod.mk.inj (Except.ok.inj (hupdate.symm.trans hupdate'))
  cases clockLoop with
  | true =>
    obtain ⟨rfl, -⟩ := Prod.mk.inj (Except.ok.inj h)
    obtain ⟨rfl, -⟩ := Prod.mk.inj (Except.ok.inj h')
    exact hagree
  | false =>
    obtain ⟨⟨port₂, actions₂⟩, hregister, h⟩ := bind_eq_ok.mp h
    obtain ⟨⟨port₂', actions₂'⟩, hregister', h'⟩ := bind_eq_ok.mp h'
    obtain ⟨rfl, -⟩ := Prod.mk.inj (Except.ok.inj h)
    obtain ⟨rfl, -⟩ := Prod.mk.inj (Except.ok.inj h')
    obtain ⟨⟨bmca, stored⟩, hbmca, hregister⟩ := bind_eq_ok.mp hregister
    obtain ⟨⟨bmca', stored'⟩, hbmca', hregister'⟩ := bind_eq_ok.mp hregister'
    rw [hagree.bmca_eq] at hbmca'
    obtain ⟨rfl, rfl⟩ := Prod.mk.inj (Except.ok.inj (hbmca.symm.trans hbmca'))
    have hagree₁ := hagree.withBmca bmca
    cases stored with
    | false =>
      obtain ⟨rfl, -⟩ := Prod.mk.inj (Except.ok.inj hregister)
      obtain ⟨rfl, -⟩ := Prod.mk.inj (Except.ok.inj hregister')
      exact hagree₁
    | true =>
      have hagree₂ := checkMultiport_agrees message hagree₁
      obtain ⟨⟨duration, rng⟩, hduration, hregister⟩ := bind_eq_ok.mp hregister
      obtain ⟨⟨duration', rng'⟩, hduration', hregister'⟩ := bind_eq_ok.mp hregister'
      rw [hagree₂.rng_eq, hagree₂.config_eq] at hduration'
      obtain ⟨rfl, rfl⟩ := Prod.mk.inj (Except.ok.inj (hduration.symm.trans hduration'))
      obtain ⟨rfl, -⟩ := Prod.mk.inj (Except.ok.inj hregister)
      obtain ⟨rfl, -⟩ := Prod.mk.inj (Except.ok.inj hregister')
      exact hagree₂.withRng rng

end Port

/-! ### Ports that take part in the best master clock algorithm -/

namespace Port

variable {A R C F : Type} [AcceptableMasterList A] [Clock C] [Filter F] [Rng R] {p : Profile}
  {port port' port₁ port₁' : Port InBmca A R C F} {master : PortIdentity} {s : PtpInstanceState}

section

omit [Rng R] [AcceptableMasterList A] [Clock C]

theorem Agrees.withPendingAction (hagree : port.Agrees master port') (actions : List PortAction) :
    (port.withPendingAction actions).Agrees master (port'.withPendingAction actions) := by
  obtain ⟨m, rfl, hm⟩ := hagree
  exact ⟨m, rfl, hm⟩

theorem Agrees.withLifecycle {L L' : Type} {port port' : Port L A R C F}
    (hagree : port.Agrees master port') (lifecycle : L') :
    (port.withLifecycle lifecycle).Agrees master (port'.withLifecycle lifecycle) := by
  obtain ⟨m, rfl, hm⟩ := hagree
  exact ⟨m, rfl, hm⟩

theorem stepAnnounceAge_agrees {step : Duration} (hagree : port.Agrees master port')
    (h : port.stepAnnounceAge p step = .ok port₁) (h' : port'.stepAnnounceAge p step = .ok port₁') :
    port₁.Agrees master port₁' := by
  obtain ⟨m, rfl, hm⟩ := hagree
  obtain ⟨disable, hdisable, h⟩ := bind_eq_ok.mp h
  obtain ⟨bmca, hbmca, h⟩ := bind_eq_ok.mp h
  obtain ⟨disable', hdisable', h'⟩ := bind_eq_ok.mp h'
  obtain ⟨bmca', hbmca', h'⟩ := bind_eq_ok.mp h'
  obtain rfl := Except.ok.inj (hdisable.symm.trans hdisable')
  obtain rfl := Except.ok.inj (hbmca.symm.trans hbmca')
  rw [← Except.ok.inj h, ← Except.ok.inj h']
  exact ⟨m, rfl, hm⟩

end

omit [Rng R] [Clock C] in
theorem calculateBest_agrees (hagree : port.Agrees master port')
    (h : port.calculateBestLocalAnnounceMessage p = .ok port₁)
    (h' : port'.calculateBestLocalAnnounceMessage p = .ok port₁') : port₁.Agrees master port₁' := by
  obtain ⟨m, rfl, hm⟩ := hagree
  obtain ⟨⟨best, bmca⟩, hbest, h⟩ := bind_eq_ok.mp h
  obtain ⟨⟨best', bmca'⟩, hbest', h'⟩ := bind_eq_ok.mp h'
  obtain ⟨rfl, rfl⟩ := Prod.mk.inj (Except.ok.inj (hbest.symm.trans hbest'))
  rw [← Except.ok.inj h, ← Except.ok.inj h']
  exact ⟨m, rfl, hm⟩

omit [AcceptableMasterList A] [Clock C] in
/-- A new random timeout. -/
theorem announceDuration_agrees (actions : CoreDuration → List PortAction)
    (hagree : port.Agrees master port')
    (h : (do let (duration, rng) ← port.config.announceDuration port.rng
             return { port with rng }.withPendingAction (actions duration)) = .ok port₁)
    (h' : (do let (duration, rng) ← port'.config.announceDuration port'.rng
              return { port' with rng }.withPendingAction (actions duration)) = .ok port₁') :
    port₁.Agrees master port₁' := by
  obtain ⟨⟨duration, rng⟩, hduration, h⟩ := bind_eq_ok.mp h
  obtain ⟨⟨duration', rng'⟩, hduration', h'⟩ := bind_eq_ok.mp h'
  rw [hagree.config_eq, hagree.rng_eq] at hduration'
  obtain ⟨rfl, rfl⟩ := Prod.mk.inj (Except.ok.inj (hduration.symm.trans hduration'))
  rw [← Except.ok.inj h, ← Except.ok.inj h']
  exact (hagree.withRng rng).withPendingAction _

omit [AcceptableMasterList A] in
theorem recommendSlave_agrees {message : AnnounceMessage} (hagree : port.Agrees master port')
    (h : port.recommendSlave p message = .ok port₁)
    (h' : port'.recommendSlave p message = .ok port₁') : port₁.Agrees master port₁' := by
  have henters := hagree.portState_agrees.entersSlave message.header.sourcePortIdentity
  obtain ⟨_, -, h⟩ := bind_eq_ok.mp h
  obtain ⟨_, -, h'⟩ := bind_eq_ok.mp h'
  dsimp only at h h'
  rw [← henters] at h'
  split at h
  · rename_i hnew
    rw [if_pos hnew] at h'
    exact announceDuration_agrees
      (fun duration => [.resetAnnounceReceiptTimer duration, .resetDelayRequestTimer 0])
      (hagree.setForcedPortState _) h h'
  · rename_i hold
    rw [if_neg hold] at h'
    rw [← Except.ok.inj h, ← Except.ok.inj h']
    exact hagree

omit [AcceptableMasterList A] in
theorem recommendMaster_agrees {slaveOnly : Bool} (hagree : port.Agrees master port')
    (h : port.recommendMaster slaveOnly = .ok port₁)
    (h' : port'.recommendMaster slaveOnly = .ok port₁') : port₁.Agrees master port₁' := by
  have hforced (state : PortState) := hagree.setForcedPortState state
  unfold recommendMaster at h h'
  rw [hagree.multiportDisable_eq] at h'
  rcases hagree.portState_agrees.cases with ⟨slave, slave', hslave, hslave'⟩ | ⟨hsame, hother⟩
  · simp only [hslave] at h
    simp only [hslave'] at h'
    split at h
    · rename_i hslaveOnly
      rw [if_pos hslaveOnly] at h'
      exact announceDuration_agrees (fun duration => [.resetAnnounceReceiptTimer duration])
        (hforced .listening) h h'
    · rename_i hslaveOnly
      rw [if_neg hslaveOnly] at h'
      split at h
      · rename_i hdisabled
        rw [if_pos hdisabled, if_neg (by simp)] at h'
        rw [if_neg (by simp)] at h
        rw [← Except.ok.inj h, ← Except.ok.inj h']
        exact hforced .passive
      · rename_i hdisabled
        rw [if_neg hdisabled] at h'
        rw [← Except.ok.inj h, ← Except.ok.inj h']
        exact (hforced .master).withPendingAction _
  · rw [hsame] at h'
    split at h
    · rename_i hslaveOnly
      rw [if_pos hslaveOnly] at h'
      cases hstate : port.portState with
      | slave slave => exact absurd hstate (hother slave)
      | passive | master =>
        simp only [hstate] at h h'
        exact announceDuration_agrees (fun duration => [.resetAnnounceReceiptTimer duration])
          (hforced .listening) h h'
      | listening | faulty =>
        simp only [hstate] at h h'
        rw [← Except.ok.inj h, ← Except.ok.inj h']
        exact hagree
    · rename_i hslaveOnly
      rw [if_neg hslaveOnly] at h'
      split at h
      · rename_i hdisabled
        rw [if_pos hdisabled] at h'
        split at h
        · rename_i hpassive
          rw [if_pos hpassive] at h'
          rw [← Except.ok.inj h, ← Except.ok.inj h']
          exact hagree
        · rename_i hpassive
          rw [if_neg hpassive] at h'
          rw [← Except.ok.inj h, ← Except.ok.inj h']
          exact hforced .passive
      · rename_i hdisabled
        rw [if_neg hdisabled] at h'
        cases hstate : port.portState with
        | slave slave => exact absurd hstate (hother slave)
        | listening | passive =>
          simp only [hstate] at h h'
          rw [← Except.ok.inj h, ← Except.ok.inj h']
          exact (hforced .master).withPendingAction _
        | master | faulty =>
          simp only [hstate] at h h'
          rw [← Except.ok.inj h, ← Except.ok.inj h']
          exact hagree

omit [AcceptableMasterList A] [Rng R] in
theorem recommendPassive_agrees (hagree : port.Agrees master port') :
    port.recommendPassive.Agrees master port'.recommendPassive := by
  unfold recommendPassive
  rcases hagree.portState_agrees.cases with ⟨slave, slave', hslave, hslave'⟩ | ⟨hsame, hother⟩
  · simp only [hslave, hslave']
    exact hagree.setForcedPortState _
  · rw [hsame]
    cases hstate : port.portState with
    | slave slave => exact absurd hstate (hother slave)
    | listening | master =>
      simp only
      exact hagree.setForcedPortState _
    | passive | faulty =>
      simp only
      exact hagree

omit [AcceptableMasterList A] in
theorem setRecommendedState_agrees {state : RecommendedState} {s' s'' : PtpInstanceState}
    (hagree : port.Agrees master port') (h : port.setRecommendedState p s state = .ok (port₁, s'))
    (h' : port'.setRecommendedState p s state = .ok (port₁', s'')) : port₁.Agrees master port₁' := by
  obtain ⟨port₂, hport₂, h⟩ := bind_eq_ok.mp h
  obtain ⟨port₂', hport₂', h'⟩ := bind_eq_ok.mp h'
  have hagree₂ : port₂.Agrees master port₂' := by
    unfold setRecommendedPortState at hport₂ hport₂'
    cases state with
    | s1 message => exact recommendSlave_agrees hagree hport₂ hport₂'
    | m1 _ | m2 _ | m3 _ => exact recommendMaster_agrees hagree hport₂ hport₂'
    | p1 _ | p2 _ =>
      rw [← Except.ok.inj hport₂, ← Except.ok.inj hport₂']
      exact recommendPassive_agrees hagree
  cases state with
  | m1 _ | m2 _ =>
    obtain ⟨_, -, h⟩ := bind_eq_ok.mp h
    obtain ⟨_, -, h'⟩ := bind_eq_ok.mp h'
    obtain ⟨rfl, -⟩ := Prod.mk.inj (Except.ok.inj h)
    obtain ⟨rfl, -⟩ := Prod.mk.inj (Except.ok.inj h')
    exact hagree₂
  | m3 _ | p1 _ | p2 _ =>
    obtain ⟨rfl, -⟩ := Prod.mk.inj (Except.ok.inj h)
    obtain ⟨rfl, -⟩ := Prod.mk.inj (Except.ok.inj h')
    exact hagree₂
  | s1 message =>
    obtain ⟨_, -, h⟩ := bind_eq_ok.mp h
    obtain ⟨_, -, h'⟩ := bind_eq_ok.mp h'
    obtain ⟨s₁, -, h⟩ := bind_eq_ok.mp h
    obtain ⟨s₁', -, h'⟩ := bind_eq_ok.mp h'
    obtain ⟨rfl, -⟩ := Prod.mk.inj (Except.ok.inj h)
    obtain ⟨rfl, -⟩ := Prod.mk.inj (Except.ok.inj h')
    obtain ⟨m, rfl, hm⟩ := hagree₂
    exact ⟨⟨m.portState, _, _, _, _⟩, rfl, hm⟩

end Port

end Statime
