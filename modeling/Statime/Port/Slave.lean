import Statime.Port.Basic

/-!
# The slave side of a port

`statime/src/port/slave.rs`: the three exchanges that give a port its measurements, and the
delay requests.  A partly filled exchange is kept in `SlaveState.syncState`,
`SlaveState.delayState` and `Port.peerDelayState`; `extractMeasurement` takes out the first
one that is complete.
-/

namespace Statime

open Rust

namespace Port

variable {A R C F : Type} [Clock C] [Filter F]

/-- Continue as the slave of the same master. -/
def withSlaveState (port : Port Running A R C F) (state : SlaveState) : Port Running A R C F :=
  { port with portState := .slave state }

def withPeerDelayState (port : Port Running A R C F) (state : PeerDelayState) :
    Port Running A R C F :=
  { port with peerDelayState := state }

/-- The peer delay of four times. -/
def peerDelay (p : Profile) (requestSendTime requestRecvTime responseSendTime responseRecvTime : Time) :
    Except Panic Duration := do
  let outer ← responseRecvTime.diff p requestSendTime
  let inner ← responseSendTime.diff p requestRecvTime
  let twice ← outer.sub p inner
  twice.div p 2

/-- The difference of two times, less the delay asymmetry. -/
def rawOffset (p : Profile) (a b : Time) (asymmetry : Duration) : Except Panic Duration := do
  let offset ← a.diff p b
  offset.sub p asymmetry

/-- The offset from the master, when the mean delay is known. -/
def syncOffset (p : Profile) (rawSyncOffset : Duration) :
    Option Duration → Except Panic (Option Duration)
  | some meanDelay => do
    let offset ← rawSyncOffset.sub p meanDelay
    return some offset
  | none => .ok none

/-- The delay to the master, when there was a sync measurement before. -/
def linkDelay (p : Profile) (rawDelayOffset : Duration) :
    Option Duration → Except Panic (Option Duration)
  | some rawSyncOffset => do
    let twice ← rawSyncOffset.sub p rawDelayOffset
    let delay ← twice.div p 2
    return some delay
  | none => .ok none

/-- The branch of `extract_measurement` for a slave. -/
def extractSlaveMeasurement (p : Profile) (port : Port Running A R C F) (state : SlaveState) :
    Except Panic (Option Measurement × Port Running A R C F) :=
  match state.syncState with
  | .measuring _ (some sendTime) (some recvTime) => do
    let rawSyncOffset ← rawOffset p recvTime sendTime port.config.delayAsymmetry
    let offset ← syncOffset p rawSyncOffset port.meanDelay
    return (some { eventTime := recvTime, rawSyncOffset := some rawSyncOffset, offset },
      port.withSlaveState
        { state with lastRawSyncOffset := some rawSyncOffset, syncState := .empty })
  | _ =>
    match state.delayState with
    | .measuring _ (some sendTime) (some recvTime) => do
      let rawDelayOffset ← rawOffset p sendTime recvTime port.config.delayAsymmetry
      let delay ← linkDelay p rawDelayOffset state.lastRawSyncOffset
      return (some { eventTime := sendTime, rawDelayOffset := some rawDelayOffset, delay },
        port.withSlaveState { state with delayState := .empty })
    | _ => .ok (none, port)

/-- A complete peer delay exchange comes first; it also brings a faulty port back. -/
def extractMeasurement (p : Profile) (port : Port Running A R C F) :
    Except Panic (Option Measurement × Port Running A R C F) :=
  match port.peerDelayState with
  | .measuring id (some responderIdentity) (some requestSendTime) (some requestRecvTime)
      (some responseSendTime) (some responseRecvTime) => do
    let delay ← peerDelay p requestSendTime requestRecvTime responseSendTime responseRecvTime
    let port := port.withPeerDelayState (.postMeasurement id responderIdentity)
    let port := if port.portState = .faulty then port.setForcedPortState .listening else port
    return (some { eventTime := responseRecvTime, peerDelay := some delay }, port)
  | _ =>
    match port.portState with
    | .slave state => port.extractSlaveMeasurement p state
    | _ => .ok (none, port)

def handleTimeMeasurement (p : Profile) (port : Port Running A R C F) :
    Except Panic (Port Running A R C F × PortActionIterator) := do
  let (measurement, port) ← port.extractMeasurement p
  match measurement with
  | some measurement =>
    let (filter, clock, filterUpdates) := Filter.measurement port.filter measurement port.clock
    let port := { port with
      filter
      clock
      meanDelay := filterUpdates.meanDelay.or port.meanDelay
      handed := port.handed ++ [measurement] }
    return (port, .fromFilter filterUpdates)
  | none => return (port, .empty)

def handleDelayTimestamp (p : Profile) (port : Port Running A R C F) (timestampId : UInt16)
    (timestamp : Time) : Except Panic (Port Running A R C F × PortActionIterator) :=
  match port.portState with
  | .slave state =>
    match state.delayState with
    | .measuring id sendTime recvTime =>
      if id = timestampId then
        if sendTime.isSome then .ok (port, .empty)
        else (port.withSlaveState
          { state with delayState := .measuring id (some timestamp) recvTime }).handleTimeMeasurement p
      else .ok (port, .empty)
    | .empty => .ok (port, .empty)
  | _ => .ok (port, .empty)

def handlePdelayTimestamp (p : Profile) (port : Port Running A R C F) (timestampId : UInt16)
    (timestamp : Time) : Except Panic (Port Running A R C F × PortActionIterator) :=
  match port.peerDelayState with
  | .measuring id responder requestSendTime requestRecvTime responseSendTime responseRecvTime =>
    if id = timestampId then
      if requestSendTime.isSome then .ok (port, .empty)
      else (port.withPeerDelayState (.measuring id responder (some timestamp) requestRecvTime
        responseSendTime responseRecvTime)).handleTimeMeasurement p
    else .ok (port, .empty)
  | _ => .ok (port, .empty)

/-- Subtracting the correction from the receive time is equivalent to adding it to the send
time. -/
def handleSync (p : Profile) (port : Port Running A R C F) (header : Header)
    (message : SyncMessage) (recvTime : Time) :
    Except Panic (Port Running A R C F × PortActionIterator) :=
  match port.portState with
  | .slave state =>
    if state.remoteMaster ≠ header.sourcePortIdentity then .ok (port, .empty)
    else do
      let correctedRecvTime ← recvTime.sub p (Duration.ofTimeInterval header.correctionField)
      if header.twoStepFlag then
        let fresh := port.withSlaveState { state with
          syncState := .measuring header.sequenceId none (some correctedRecvTime) }
        match state.syncState with
        | .measuring id sendTime recvTime =>
          if id = header.sequenceId then
            if recvTime.isSome then .ok (port, .empty)
            else (port.withSlaveState { state with
              syncState := .measuring id sendTime (some correctedRecvTime) }).handleTimeMeasurement p
          else .ok (fresh, .empty)
        | .empty => .ok (fresh, .empty)
      else
        let fresh := port.withSlaveState { state with
          syncState := .measuring header.sequenceId
            (some (Time.ofWireTimestamp message.originTimestamp)) (some correctedRecvTime) }
        match state.syncState with
        | .measuring id _ _ =>
          if id = header.sequenceId then .ok (port, .empty) else fresh.handleTimeMeasurement p
        | .empty => fresh.handleTimeMeasurement p
  | _ => .ok (port, .empty)

def handleFollowUp (p : Profile) (port : Port Running A R C F) (header : Header)
    (message : FollowUpMessage) : Except Panic (Port Running A R C F × PortActionIterator) :=
  match port.portState with
  | .slave state =>
    if state.remoteMaster ≠ header.sourcePortIdentity then .ok (port, .empty)
    else do
      let packetSendTime ← (Time.ofWireTimestamp message.preciseOriginTimestamp).add p
        (Duration.ofTimeInterval header.correctionField)
      let fresh := port.withSlaveState { state with
        syncState := .measuring header.sequenceId (some packetSendTime) none }
      match state.syncState with
      | .measuring id sendTime recvTime =>
        if id = header.sequenceId then
          if sendTime.isSome then .ok (port, .empty)
          else (port.withSlaveState { state with
            syncState := .measuring id (some packetSendTime) recvTime }).handleTimeMeasurement p
        else fresh.handleTimeMeasurement p
      | .empty => fresh.handleTimeMeasurement p
  | _ => .ok (port, .empty)

/-- The port with the receive time of the answer that is waited for; nothing for any other
answer. -/
def storeDelayResp (p : Profile) (port : Port Running A R C F) (header : Header)
    (message : DelayRespMessage) : Except Panic (Option (Port Running A R C F)) :=
  match port.portState with
  | .slave state =>
    if port.portIdentity ≠ message.requestingPortIdentity ∨
        state.remoteMaster ≠ header.sourcePortIdentity then .ok none
    else
      match state.delayState with
      | .measuring id sendTime recvTime =>
        if id = header.sequenceId then
          if recvTime.isSome then .ok none
          else do
            let recvTime ← (Time.ofWireTimestamp message.receiveTimestamp).sub p
              (Duration.ofTimeInterval header.correctionField)
            return some (port.withSlaveState { state with
              delayState := .measuring id sendTime (some recvTime) })
        else .ok none
      | .empty => .ok none
  | _ => .ok none

def handleDelayResp (p : Profile) (port : Port Running A R C F) (header : Header)
    (message : DelayRespMessage) : Except Panic (Port Running A R C F × PortActionIterator) := do
  match ← port.storeDelayResp p header message with
  | some port => port.handleTimeMeasurement p
  | none => return (port, .empty)

def handlePeerDelayResponse (p : Profile) (port : Port Running A R C F) (header : Header)
    (message : PDelayRespMessage) (recvTime : Time) :
    Except Panic (Port Running A R C F × PortActionIterator) :=
  if port.portIdentity ≠ message.requestingPortIdentity then .ok (port, .empty)
  else
    match port.peerDelayState with
    | .postMeasurement id responderIdentity =>
      -- responses from multiple devices disable the port
      if id = header.sequenceId ∧ responderIdentity ≠ header.sourcePortIdentity then
        .ok (port.setForcedPortState .faulty, .empty)
      else .ok (port, .empty)
    | .measuring id responderIdentity requestSendTime _ responseSendTime responseRecvTime =>
      if id = header.sequenceId then
        if responderIdentity.any (fun identity => decide (identity ≠ header.sourcePortIdentity)) then
          .ok (port.setForcedPortState .faulty, .empty)
        else if responseRecvTime.isSome then .ok (port, .empty)
        else do
          let recvTime ← recvTime.sub p (Duration.ofTimeInterval header.correctionField)
          let requestRecvTime := Time.ofWireTimestamp message.requestReceiveTimestamp
          let responseSendTime :=
            if header.twoStepFlag then responseSendTime else some requestRecvTime
          (port.withPeerDelayState (.measuring id (some header.sourcePortIdentity) requestSendTime
            (some requestRecvTime) responseSendTime (some recvTime))).handleTimeMeasurement p
      else .ok (port, .empty)
    | .empty => .ok (port, .empty)

def handlePeerDelayResponseFollowUp (p : Profile) (port : Port Running A R C F) (header : Header)
    (message : PDelayRespFollowUpMessage) :
    Except Panic (Port Running A R C F × PortActionIterator) :=
  if port.portIdentity ≠ message.requestingPortIdentity then .ok (port, .empty)
  else
    match port.peerDelayState with
    | .postMeasurement id responderIdentity =>
      if id = header.sequenceId ∧ responderIdentity ≠ header.sourcePortIdentity then
        .ok (port.setForcedPortState .faulty, .empty)
      else .ok (port, .empty)
    | .measuring id responderIdentity requestSendTime requestRecvTime responseSendTime
        responseRecvTime =>
      if id = header.sequenceId then
        if responderIdentity.any (fun identity => decide (identity ≠ header.sourcePortIdentity)) then
          .ok (port.setForcedPortState .faulty, .empty)
        else if responseSendTime.isSome then .ok (port, .empty)
        else do
          let responseSendTime ← (Time.ofWireTimestamp message.responseOriginTimestamp).add p
            (Duration.ofTimeInterval header.correctionField)
          (port.withPeerDelayState (.measuring id (some header.sourcePortIdentity) requestSendTime
            requestRecvTime (some responseSendTime) responseRecvTime)).handleTimeMeasurement p
      else .ok (port, .empty)
    | .empty => .ok (port, .empty)

/-! ### Delay requests -/

variable [Rng R]

/-- A random time until the next request, of the interval on average. -/
def requestDuration (interval : Interval) (rng : R) : Except Panic (CoreDuration × R) := do
  let (random, rng) := Rng.sample rng
  let duration ← interval.asCoreDuration
  let duration ← CoreDuration.mulF64 duration (random * 2)
  return (duration, rng)

def sendP2pDelayRequest (p : Profile) (instanceState : PtpInstanceState)
    (port : Port Running A R C F) (interval : Interval) :
    Except Panic (Port Running A R C F × PortActionIterator) := do
  let (pdelayId, pdelaySeqIds) := port.pdelaySeqIds.generate
  let (packetBuffer, data) ← port.packetBuffer.serialize p
    (Message.pdelayReq instanceState.defaultDs port.portIdentity pdelayId
      port.config.minorPtpVersion.toUInt8)
  let (duration, rng) ← requestDuration interval port.rng
  return ({ port with
      pdelaySeqIds
      packetBuffer
      peerDelayState := .measuring pdelayId none none none none none
      rng },
    .of [.resetDelayRequestTimer duration, .sendEvent (.pDelayReq pdelayId) data true])

def sendE2eDelayRequest (p : Profile) (instanceState : PtpInstanceState)
    (port : Port Running A R C F) (interval : Interval) :
    Except Panic (Port Running A R C F × PortActionIterator) :=
  match port.portState with
  | .slave state => do
    let (delayId, delaySeqIds) := port.delaySeqIds.generate
    let (packetBuffer, data) ← port.packetBuffer.serialize p
      (Message.delayReq instanceState.defaultDs port.portIdentity delayId
        port.config.minorPtpVersion.toUInt8)
    let (duration, rng) ← requestDuration interval port.rng
    return ({ port with
        delaySeqIds
        packetBuffer
        portState := .slave { state with delayState := .measuring delayId none none }
        rng },
      .of [.resetDelayRequestTimer duration, .sendEvent (.delayReq delayId) data false])
  | _ => .ok (port, .empty)

def sendDelayRequest (p : Profile) (instanceState : PtpInstanceState)
    (port : Port Running A R C F) : Except Panic (Port Running A R C F × PortActionIterator) :=
  match port.config.delayMechanism with
  | .e2e interval => port.sendE2eDelayRequest p instanceState interval
  | .p2p interval => port.sendP2pDelayRequest p instanceState interval

end Port

end Statime
