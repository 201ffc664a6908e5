import Statime.Port.Handle

/-!
# What a step can do to a port

The abstract model of a port: its `PortCore` is what the exchanges and the state decisions are
about, and `PortCore.Step` says what an event can do to it.  The buffers, the clock, the filter
and the foreign master list are left out, and so is everything about them.

* `Measures`: a complete exchange is reported and closed, at most one of them.
* `Stores`: a time is written into a partly filled exchange; every time in it comes from the event
  or was there under the same id.
* `Step`: one event.
-/

namespace Statime

open Rust

/-! ### Events of a port -/

/-- The calls on one port.  The state of the instance that a call finds is part of the event:
other ports may have changed it in any way. -/
inductive PortEvent (T : Type)
  | eventReceive (s : PtpInstanceState) (data : List UInt8) (timestamp : Time)
  | generalReceive (s : PtpInstanceState) (data : List UInt8)
  | sendTimestamp (s : PtpInstanceState) (context : TimestampContext) (timestamp : Time)
  | announceTimer (s : PtpInstanceState) (provider : T)
  | syncTimer (s : PtpInstanceState)
  | delayRequestTimer (s : PtpInstanceState)
  | announceReceiptTimer (s : PtpInstanceState)
  | filterUpdateTimer
  | startBmca
  | endBmca
  | calculateBest
  | recommend (s : PtpInstanceState) (state : RecommendedState)
  | stepAge (step : Duration)

namespace PortEvent

variable {T : Type}

/-- The message was received over the event channel at this time, and passed the filter. -/
def ReceivesAt (e : PortEvent T) (message : Message) (timestamp : Time) : Prop :=
  ∃ s data, e = .eventReceive s data timestamp ∧ Port.parseAndFilter s data = .ok (some message)

/-- The message was received over one of the two channels, and passed the filter. -/
def Receives (e : PortEvent T) (message : Message) : Prop :=
  (∃ timestamp, e.ReceivesAt message timestamp) ∨
    ∃ s data, e = .generalReceive s data ∧ Port.parseAndFilter s data = .ok (some message)

/-- It is one message. -/
theorem Receives.inj {e : PortEvent T} {message message' : Message} (h : e.Receives message)
    (h' : e.Receives message') : message = message' := by
  rcases h with ⟨_, s, data, rfl, hparse⟩ | ⟨s, data, rfl, hparse⟩ <;>
    rcases h' with ⟨_, s', data', heq, hparse'⟩ | ⟨s', data', heq, hparse'⟩ <;> cases heq <;>
    exact Option.some.inj (Except.ok.inj (hparse.symm.trans hparse'))

/-! ### Where the times of an exchange come from -/

/-- A sync message of the master with this id arrived at `t`, less its correction. -/
def SyncReceived (p : Profile) (e : PortEvent T) (master : PortIdentity) (id : UInt16) (t : Time) :
    Prop :=
  ∃ message body timestamp, e.ReceivesAt message timestamp ∧ message.body = .sync body ∧
    message.header.sourcePortIdentity = master ∧ message.header.sequenceId = id ∧
    timestamp.sub p (Duration.ofTimeInterval message.header.correctionField) = .ok t

/-- A follow-up of the master with this id, or a one-step sync message, says that it was sent at
`t`. -/
def SyncSent (p : Profile) (e : PortEvent T) (master : PortIdentity) (id : UInt16) (t : Time) :
    Prop :=
  (∃ message body, e.Receives message ∧ message.body = .followUp body ∧
    message.header.sourcePortIdentity = master ∧ message.header.sequenceId = id ∧
    (Time.ofWireTimestamp body.preciseOriginTimestamp).add p
      (Duration.ofTimeInterval message.header.correctionField) = .ok t) ∨
  ∃ message body timestamp, e.ReceivesAt message timestamp ∧ message.body = .sync body ∧
    message.header.sourcePortIdentity = master ∧ message.header.sequenceId = id ∧
    message.header.twoStepFlag = false ∧ t = Time.ofWireTimestamp body.originTimestamp

/-- The transmit timestamp of the own delay request with this id. -/
def DelayReqSent (e : PortEvent T) (id : UInt16) (t : Time) : Prop :=
  ∃ s, e = .sendTimestamp s (.delayReq id) t

/-- A delay response of the master to the own request with this id says that it arrived at `t`,
less the correction. -/
def DelayReqReceived (p : Profile) (e : PortEvent T) (own master : PortIdentity) (id : UInt16)
    (t : Time) : Prop :=
  ∃ message body, e.Receives message ∧ message.body = .delayResp body ∧
    message.header.sourcePortIdentity = master ∧ body.requestingPortIdentity = own ∧
    message.header.sequenceId = id ∧
    (Time.ofWireTimestamp body.receiveTimestamp).sub p
      (Duration.ofTimeInterval message.header.correctionField) = .ok t

/-- The transmit timestamp of the own peer delay request with this id. -/
def PDelayReqSent (e : PortEvent T) (id : UInt16) (t : Time) : Prop :=
  ∃ s, e = .sendTimestamp s (.pDelayReq id) t

/-- A peer delay response of the responder to the own request with this id. -/
def PDelayRespReceived (e : PortEvent T) (own responder : PortIdentity) (id : UInt16)
    (message : Message) (body : PDelayRespMessage) (timestamp : Time) : Prop :=
  e.ReceivesAt message timestamp ∧ message.body = .pDelayResp body ∧
    message.header.sourcePortIdentity = responder ∧ body.requestingPortIdentity = own ∧
    message.header.sequenceId = id

/-- It says that the request arrived at `t`. -/
def PDelayReqReceived (e : PortEvent T) (own responder : PortIdentity) (id : UInt16) (t : Time) :
    Prop :=
  ∃ message body timestamp, e.PDelayRespReceived own responder id message body timestamp ∧
    t = Time.ofWireTimestamp body.requestReceiveTimestamp

/-- The response arrived at `t`, less its correction. -/
def PDelayRespArrived (p : Profile) (e : PortEvent T) (own responder : PortIdentity) (id : UInt16)
    (t : Time) : Prop :=
  ∃ message body timestamp, e.PDelayRespReceived own responder id message body timestamp ∧
    timestamp.sub p (Duration.ofTimeInterval message.header.correctionField) = .ok t

/-- A follow-up of the responder, or a one-step response, says that the response was sent at
`t`. -/
def PDelayRespSent (p : Profile) (e : PortEvent T) (own responder : PortIdentity) (id : UInt16)
    (t : Time) : Prop :=
  (∃ message body, e.Receives message ∧ message.body = .pDelayRespFollowUp body ∧
    message.header.sourcePortIdentity = responder ∧ body.requestingPortIdentity = own ∧
    message.header.sequenceId = id ∧
    (Time.ofWireTimestamp body.responseOriginTimestamp).add p
      (Duration.ofTimeInterval message.header.correctionField) = .ok t) ∨
  ∃ message body timestamp, e.PDelayRespReceived own responder id message body timestamp ∧
    message.header.twoStepFlag = false ∧ t = Time.ofWireTimestamp body.requestReceiveTimestamp

end PortEvent

/-! ### Complete exchanges -/

def SyncState.completed : SyncState → Option (UInt16 × Time × Time)
  | .measuring id (some sendTime) (some recvTime) => some (id, sendTime, recvTime)
  | _ => none

def DelayState.completed : DelayState → Option (UInt16 × Time × Time)
  | .measuring id (some sendTime) (some recvTime) => some (id, sendTime, recvTime)
  | _ => none

/-- The four times of a peer delay exchange. -/
structure PeerDelayTimes where
  requestSendTime : Time
  requestRecvTime : Time
  responseSendTime : Time
  responseRecvTime : Time

def PeerDelayState.completed : PeerDelayState → Option (UInt16 × PortIdentity × PeerDelayTimes)
  | .measuring id (some responder) (some t1) (some t2) (some t3) (some t4) =>
    some (id, responder, ⟨t1, t2, t3, t4⟩)
  | _ => none

/-! ### The core of a port -/

structure PortCore where
  portIdentity : PortIdentity
  ownPortIdentity : PortIdentity
  isAcceptable : ClockIdentity → Bool
  config : PortConfig Unit
  portState : PortState
  multiportDisable : Option Duration
  peerDelayState : PeerDelayState
  handed : List Measurement

def Port.core {L A R C F : Type} [AcceptableMasterList A] [Filter F] (port : Port L A R C F) :
    PortCore where
  portIdentity := port.portIdentity
  ownPortIdentity := port.bmca.ownPortIdentity
  isAcceptable := AcceptableMasterList.isAcceptable port.bmca.acceptableMasterList
  config := port.config
  portState := port.portState
  multiportDisable := port.multiportDisable
  peerDelayState := port.peerDelayState
  handed := port.handed

namespace PortCore

/-- Neither end-to-end exchange is complete. -/
def SlaveIncomplete (c : PortCore) : Prop :=
  ∀ state, c.portState = .slave state →
    state.syncState.completed = none ∧ state.delayState.completed = none

/-- **What a look for a complete exchange does.**  The peer delay comes first, then the sync
exchange, then the delay exchange. -/
inductive Measures (p : Profile) (c : PortCore) : PortCore → Prop
  | idle : c.peerDelayState.completed = none → c.SlaveIncomplete → Measures p c c
  | peer {id : UInt16} {responder : PortIdentity} {times : PeerDelayTimes} {delay : Duration} :
      c.peerDelayState.completed = some (id, responder, times) →
      Port.peerDelay p times.requestSendTime times.requestRecvTime times.responseSendTime
        times.responseRecvTime = .ok delay →
      Measures p c { c with
        portState := if c.portState = .faulty then .listening else c.portState
        peerDelayState := .postMeasurement id responder
        handed := c.handed ++
          [{ eventTime := times.responseRecvTime, peerDelay := some delay }] }
  | sync {state : SlaveState} {id : UInt16} {sendTime recvTime : Time} {raw : Duration}
      {offset : Option Duration} :
      c.peerDelayState.completed = none → c.portState = .slave state →
      state.syncState.completed = some (id, sendTime, recvTime) →
      Port.rawOffset p recvTime sendTime c.config.delayAsymmetry = .ok raw →
      Measures p c { c with
        portState := .slave { state with lastRawSyncOffset := some raw, syncState := .empty }
        handed := c.handed ++ [{ eventTime := recvTime, rawSyncOffset := some raw, offset }] }
  | delay {state : SlaveState} {id : UInt16} {sendTime recvTime : Time} {raw : Duration}
      {delay : Option Duration} :
      c.peerDelayState.completed = none → c.portState = .slave state →
      state.syncState.completed = none →
      state.delayState.completed = some (id, sendTime, recvTime) →
      Port.rawOffset p sendTime recvTime c.config.delayAsymmetry = .ok raw →
      Measures p c { c with
        portState := .slave { state with delayState := .empty }
        handed := c.handed ++ [{ eventTime := sendTime, rawDelayOffset := some raw, delay }] }

/-- A port that recovers is no slave yet. -/
theorem slave_of_recovered {c : PortCore} {state : SlaveState}
    (h : (if c.portState = .faulty then .listening else c.portState) = PortState.slave state) :
    c.portState = .slave state := by
  split at h
  · cases h
  · exact h

variable {T : Type}

/-- **What an event can write into an exchange.** -/
inductive Stores (p : Profile) (e : PortEvent T) (c : PortCore) : PortCore → Prop
  | sync {state : SlaveState} {id : UInt16} {sendTime recvTime : Option Time} :
      c.portState = .slave state →
      (∀ t, sendTime = some t → e.SyncSent p state.remoteMaster id t ∨
        ∃ r, state.syncState = .measuring id (some t) r) →
      (∀ t, recvTime = some t → e.SyncReceived p state.remoteMaster id t ∨
        ∃ s, state.syncState = .measuring id s (some t)) →
      Stores p e c { c with
        portState := .slave { state with syncState := .measuring id sendTime recvTime } }
  | delay {state : SlaveState} {id : UInt16} {sendTime recvTime sendTime' recvTime' : Option Time} :
      c.portState = .slave state → state.delayState = .measuring id sendTime recvTime →
      (∀ t, sendTime' = some t → e.DelayReqSent id t ∨ sendTime = some t) →
      (∀ t, recvTime' = some t →
        e.DelayReqReceived p c.portIdentity state.remoteMaster id t ∨ recvTime = some t) →
      Stores p e c { c with
        portState := .slave { state with delayState := .measuring id sendTime' recvTime' } }
  | peerRequest {id : UInt16} {responder : Option PortIdentity} {t : Time}
      {t2 t3 t4 : Option Time} :
      c.peerDelayState = .measuring id responder none t2 t3 t4 → e.PDelayReqSent id t →
      Stores p e c { c with peerDelayState := .measuring id responder (some t) t2 t3 t4 }
  | peerResponse {id : UInt16} {responder : Option PortIdentity} {source : PortIdentity}
      {t1 t2 t3 t4 t2' t3' t4' : Option Time} :
      c.peerDelayState = .measuring id responder t1 t2 t3 t4 →
      (∀ identity, responder = some identity → identity = source) →
      (∀ t, t2' = some t → e.PDelayReqReceived c.portIdentity source id t ∨ t2 = some t) →
      (∀ t, t3' = some t → e.PDelayRespSent p c.portIdentity source id t ∨ t3 = some t) →
      (∀ t, t4' = some t → e.PDelayRespArrived p c.portIdentity source id t ∨ t4 = some t) →
      Stores p e c { c with peerDelayState := .measuring id (some source) t1 t2' t3' t4' }

/-- The state that a recommended state leads to. -/
def recommendedState (c : PortCore) (s : PtpInstanceState) : RecommendedState → PortState
  | .s1 message =>
    match c.portState with
    | .faulty => .faulty
    | .listening | .master | .passive => .slave (.new message.header.sourcePortIdentity)
    | .slave state =>
      if state.remoteMaster = message.header.sourcePortIdentity then .slave state
      else .slave (.new message.header.sourcePortIdentity)
  | .m1 _ | .m2 _ | .m3 _ =>
    if s.defaultDs.slaveOnly then
      match c.portState with
      | .faulty => .faulty
      | _ => .listening
    else if c.multiportDisable.isSome then .passive
    else
      match c.portState with
      | .faulty => .faulty
      | _ => .master
  | .p1 _ | .p2 _ =>
    match c.portState with
    | .faulty => .faulty
    | _ => .passive

theorem recommendedState_congr (c : PortCore) {s s' : PtpInstanceState}
    (h : s'.defaultDs = s.defaultDs) (state : RecommendedState) :
    c.recommendedState s' state = c.recommendedState s state := by
  cases state <;> simp only [recommendedState, h]

/-- An announce message that goes into the foreign master list. -/
def accepts (c : PortCore) (announce : AnnounceMessage) : Bool :=
  decide (announce.header.sourcePortIdentity ≠ c.ownPortIdentity) &&
    c.isAcceptable announce.header.sourcePortIdentity.clockIdentity

/-- Such a message of a lower port of the own clock. -/
def isFromLowerPort (c : PortCore) (message : Message) (announce : AnnounceMessage) : Bool :=
  c.accepts announce &&
    decide (c.portIdentity.clockIdentity = message.header.sourcePortIdentity.clockIdentity ∧
      message.header.sourcePortIdentity.portNumber < c.portIdentity.portNumber)

/-- The port makes room for the lower one. -/
def disabled (c : PortCore) : PortCore :=
  { c with portState := .passive, multiportDisable := some Duration.zero }

/-- **What one event can do to a port.** -/
inductive Step (p : Profile) (e : PortEvent T) (c : PortCore) : PortCore → Prop
  | keep : Step p e c c
  | measure {c₁ c' : PortCore} : Stores p e c c₁ → Measures p c₁ c' → Step p e c c'
  | firstSync {state : SlaveState} {id : UInt16} {t : Time} :
      c.portState = .slave state → e.SyncReceived p state.remoteMaster id t →
      Step p e c { c with
        portState := .slave { state with syncState := .measuring id none (some t) } }
  | fault {message : Message} : e.Receives message →
      Step p e c { c with portState := .faulty }
  | requestDelay {s : PtpInstanceState} {state : SlaveState} {id : UInt16} :
      e = .delayRequestTimer s → c.portState = .slave state →
      Step p e c { c with
        portState := .slave { state with delayState := .measuring id none none } }
  | requestPeerDelay {s : PtpInstanceState} {id : UInt16} : e = .delayRequestTimer s →
      Step p e c { c with peerDelayState := .measuring id none none none none none }
  | timeout {s : PtpInstanceState} : e = .announceReceiptTimer s →
      Step p e c { c with portState := if s.defaultDs.slaveOnly then .listening else .master }
  | disable {message : Message} {announce : AnnounceMessage} : e.Receives message →
      message.body = .announce announce → c.isFromLowerPort message announce = true →
      Step p e c c.disabled
  | recommended {s : PtpInstanceState} {state : RecommendedState} : e = .recommend s state →
      Step p e c { c with portState := c.recommendedState s state }
  | age {d : Duration} {multiportDisable : Option Duration} : e = .stepAge d →
      Step p e c { c with multiportDisable }

/-! ### What no event changes -/

/-- The identities, the acceptable masters and the settings of a port. -/
structure SameOwner (c c' : PortCore) : Prop where
  portIdentity : c'.portIdentity = c.portIdentity
  ownPortIdentity : c'.ownPortIdentity = c.ownPortIdentity
  isAcceptable : c'.isAcceptable = c.isAcceptable
  config : c'.config = c.config

variable {p : Profile} {e : PortEvent T} {c c' : PortCore}

theorem SameOwner.refl (c : PortCore) : c.SameOwner c := ⟨rfl, rfl, rfl, rfl⟩

theorem SameOwner.trans {c'' : PortCore} (h : c.SameOwner c') (h' : c'.SameOwner c'') :
    c.SameOwner c'' :=
  ⟨h'.portIdentity.trans h.portIdentity, h'.ownPortIdentity.trans h.ownPortIdentity,
    h'.isAcceptable.trans h.isAcceptable, h'.config.trans h.config⟩

theorem Measures.sameOwner (h : Measures p c c') : c.SameOwner c' := by
  cases h <;> exact ⟨rfl, rfl, rfl, rfl⟩

theorem Stores.sameOwner (h : Stores p e c c') : c.SameOwner c' := by
  cases h <;> exact ⟨rfl, rfl, rfl, rfl⟩

theorem Step.sameOwner (h : Step p e c c') : c.SameOwner c' := by
  cases h with
  | measure hstores hmeasures => exact hstores.sameOwner.trans hmeasures.sameOwner
  | _ => exact ⟨rfl, rfl, rfl, rfl⟩

/-! ### The master that a port follows -/

/-- The port is a slave of the master. -/
def Follows (c : PortCore) (master : PortIdentity) : Prop :=
  ∃ state, c.portState = .slave state ∧ state.remoteMaster = master

theorem follows_of_slave {state : SlaveState} (h : c.portState = .slave state) :
    c.Follows state.remoteMaster :=
  ⟨state, h, rfl⟩

theorem Measures.follows {master : PortIdentity} (h : Measures p c c') (hc : c'.Follows master) :
    c.Follows master := by
  obtain ⟨state', hstate', rfl⟩ := hc
  cases h with
  | idle => exact follows_of_slave hstate'
  | peer =>
    dsimp only at hstate'
    split at hstate'
    · cases hstate'
    · exact follows_of_slave hstate'
  | sync _ hstate | delay _ hstate =>
    rw [← PortState.slave.inj hstate']
    exact ⟨_, hstate, rfl⟩

theorem Stores.follows {master : PortIdentity} (h : Stores p e c c') (hc : c'.Follows master) :
    c.Follows master := by
  obtain ⟨state', hstate', rfl⟩ := hc
  cases h with
  | sync hstate | delay hstate =>
    rw [← PortState.slave.inj hstate']
    exact ⟨_, hstate, rfl⟩
  | peerRequest | peerResponse => exact follows_of_slave hstate'

/-- **Only a recommended state makes a port a slave.** -/
theorem Step.follows {master : PortIdentity} (h : Step p e c c')
    (he : ∀ s state, e ≠ .recommend s state) (hc : c'.Follows master) : c.Follows master := by
  cases h with
  | keep | age | requestPeerDelay => exact hc
  | measure hstores hmeasures => exact hstores.follows (hmeasures.follows hc)
  | firstSync hstate | requestDelay _ hstate =>
    obtain ⟨state', hstate', rfl⟩ := hc
    rw [← PortState.slave.inj hstate']
    exact ⟨_, hstate, rfl⟩
  | fault | disable =>
    obtain ⟨state', hstate', -⟩ := hc
    cases hstate'
  | timeout =>
    obtain ⟨state', hstate', -⟩ := hc
    dsimp only at hstate'
    split at hstate' <;> cases hstate'
  | recommended hrecommend => exact absurd hrecommend (he _ _)

/-- **A port follows the master that is recommended to it**, and no other. -/
theorem follows_recommended {s : PtpInstanceState} {state : RecommendedState}
    {master : PortIdentity}
    (h : { c with portState := c.recommendedState s state }.Follows master) :
    ∃ message, state = .s1 message ∧ master = message.header.sourcePortIdentity := by
  obtain ⟨slave, hslave, rfl⟩ := h
  dsimp only at hslave
  unfold recommendedState at hslave
  cases state with
  | s1 message =>
    refine ⟨message, rfl, ?_⟩
    dsimp only at hslave
    split at hslave
    · cases hslave
    · rw [← PortState.slave.inj hslave]; rfl
    · rw [← PortState.slave.inj hslave]; rfl
    · rw [← PortState.slave.inj hslave]; rfl
    · split at hslave
      · rename_i hmaster
        rw [← PortState.slave.inj hslave, hmaster]
      · rw [← PortState.slave.inj hslave]; rfl
  | m1 _ | m2 _ | m3 _ =>
    dsimp only at hslave
    split at hslave
    · split at hslave <;> cases hslave
    · split at hslave
      · cases hslave
      · split at hslave <;> cases hslave
  | p1 _ | p2 _ =>
    dsimp only at hslave
    split at hslave <;> cases hslave

end PortCore

/-! ### The handlers -/

namespace Port

section Setters

variable {L A R C F : Type} [AcceptableMasterList A] [Filter F]

theorem core_of_portState {port : Port L A R C F} {state : PortState}
    (h : port.portState = state) : port.core = { port.core with portState := state } := by
  subst h
  rfl

@[simp] theorem core_setForcedPortState [Clock C] (port : Port L A R C F) (state : PortState) :
    (port.setForcedPortState state).core = { port.core with portState := state } := by
  unfold setForcedPortState
  split <;> rfl

omit [AcceptableMasterList A] in
@[simp] theorem handed_setForcedPortState [Clock C] (port : Port L A R C F) (state : PortState) :
    (port.setForcedPortState state).handed = port.handed := by
  unfold setForcedPortState
  split <;> rfl

end Setters

section Measurements

variable {A R C F T : Type} [AcceptableMasterList A] [Filter F]

@[simp] theorem core_withSlaveState (port : Port Running A R C F) (state : SlaveState) :
    (port.withSlaveState state).core = { port.core with portState := .slave state } := rfl

@[simp] theorem core_withPeerDelayState (port : Port Running A R C F) (state : PeerDelayState) :
    (port.withPeerDelayState state).core = { port.core with peerDelayState := state } := rfl

/-- The branch for a slave without a complete peer delay exchange. -/
theorem extractSlaveMeasurement_cases {p : Profile} {port port' : Port Running A R C F}
    {state : SlaveState} {m : Option Measurement}
    (hpeer : port.peerDelayState.completed = none) (hstate : port.portState = .slave state)
    (h : port.extractSlaveMeasurement p state = .ok (m, port')) :
    (m = none ∧ port' = port ∧ port.core.SlaveIncomplete) ∨
      ∃ measurement, m = some measurement ∧ port'.handed = port.handed ∧
        PortCore.Measures p port.core
          { port'.core with handed := port.handed ++ [measurement] } := by
  unfold extractSlaveMeasurement at h
  split at h
  · rename_i id sendTime recvTime hsync
    right
    obtain ⟨raw, hraw, h⟩ := bind_eq_ok.mp h
    obtain ⟨offset, -, h⟩ := bind_eq_ok.mp h
    obtain ⟨rfl, rfl⟩ := Prod.mk.inj (Except.ok.inj h)
    exact ⟨_, rfl, rfl, .sync hpeer hstate (by rw [hsync]; rfl) hraw⟩
  · rename_i hsync
    have hsync' : state.syncState.completed = none := by
      unfold SyncState.completed
      split
      · rename_i id sendTime recvTime heq
        exact absurd heq (hsync id sendTime recvTime)
      · rfl
    split at h
    · rename_i id sendTime recvTime hdelay
      right
      obtain ⟨raw, hraw, h⟩ := bind_eq_ok.mp h
      obtain ⟨delay, -, h⟩ := bind_eq_ok.mp h
      obtain ⟨rfl, rfl⟩ := Prod.mk.inj (Except.ok.inj h)
      exact ⟨_, rfl, rfl, .delay hpeer hstate hsync' (by rw [hdelay]; rfl) hraw⟩
    · rename_i hdelay
      left
      obtain ⟨rfl, rfl⟩ := Prod.mk.inj (Except.ok.inj h)
      refine ⟨rfl, rfl, fun state' hstate' => ?_⟩
      obtain rfl := PortState.slave.inj (hstate.symm.trans hstate')
      refine ⟨hsync', ?_⟩
      unfold DelayState.completed
      split
      · rename_i id sendTime recvTime heq
        exact absurd heq (hdelay id sendTime recvTime)
      · rfl

variable [Clock C]

theorem extractMeasurement_cases {p : Profile} {port port' : Port Running A R C F}
    {m : Option Measurement} (h : port.extractMeasurement p = .ok (m, port')) :
    (m = none ∧ port' = port ∧ port.peerDelayState.completed = none ∧ port.core.SlaveIncomplete) ∨
      ∃ measurement, m = some measurement ∧ port'.handed = port.handed ∧
        PortCore.Measures p port.core
          { port'.core with handed := port.handed ++ [measurement] } := by
  unfold extractMeasurement at h
  split at h
  · rename_i id responder t1 t2 t3 t4 hpeer
    right
    obtain ⟨delay, hdelay, h⟩ := bind_eq_ok.mp h
    obtain ⟨rfl, rfl⟩ := Prod.mk.inj (Except.ok.inj h)
    have hmeasures := PortCore.Measures.peer (c := port.core)
      (show port.peerDelayState.completed = some (id, responder, ⟨t1, t2, t3, t4⟩) by
        rw [hpeer]; rfl) hdelay
    refine ⟨_, rfl, ?_, ?_⟩
    · split
      · exact handed_setForcedPortState _ _
      · rfl
    · dsimp only
      split
      · rename_i hfaulty
        have hfaulty' : port.core.portState = .faulty := hfaulty
        rw [if_pos hfaulty'] at hmeasures
        rw [core_setForcedPortState]
        exact hmeasures
      · rename_i hfaulty
        have hfaulty' : ¬ port.core.portState = .faulty := hfaulty
        rw [if_neg hfaulty'] at hmeasures
        exact hmeasures
  · rename_i hpeer
    have hpeer' : port.peerDelayState.completed = none := by
      unfold PeerDelayState.completed
      split
      · rename_i id responder t1 t2 t3 t4 heq
        exact absurd heq (hpeer id responder t1 t2 t3 t4)
      · rfl
    split at h
    · rename_i state hstate
      rcases extractSlaveMeasurement_cases hpeer' hstate h with ⟨hm, hport, hinc⟩ | hsome
      · exact Or.inl ⟨hm, hport, hpeer', hinc⟩
      · exact Or.inr hsome
    · rename_i hstate
      left
      obtain ⟨rfl, rfl⟩ := Prod.mk.inj (Except.ok.inj h)
      exact ⟨rfl, rfl, hpeer', fun state heq => absurd heq (hstate state)⟩

/-- **Handling a time measurement** is a look for a complete exchange. -/
theorem handleTimeMeasurement_core {p : Profile} {port port' : Port Running A R C F}
    {actions : PortActionIterator} (h : port.handleTimeMeasurement p = .ok (port', actions)) :
    PortCore.Measures p port.core port'.core := by
  obtain ⟨⟨m, port₁⟩, hextract, hrest⟩ := bind_eq_ok.mp h
  rcases extractMeasurement_cases hextract with ⟨rfl, rfl, hpeer, hslave⟩ |
    ⟨measurement, rfl, hhanded, hmeasures⟩
  · obtain ⟨rfl, -⟩ := Prod.mk.inj (Except.ok.inj hrest)
    exact .idle hpeer hslave
  · obtain ⟨rfl, -⟩ := Prod.mk.inj (Except.ok.inj hrest)
    rw [← hhanded] at hmeasures
    exact hmeasures

end Measurements

end Port

end Statime
