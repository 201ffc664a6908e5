import Statime.Port.Basic

/-!
# The master side of a port

`statime/src/port/master.rs`: sync and announce messages, and the answers to delay requests.
`announceLoop` is the `while let` loop of `send_announce` that takes records from the provider.
-/

namespace Statime

open Rust

namespace Port

variable {A R C F T : Type} [Filter F]

def sendSync (p : Profile) (instanceState : PtpInstanceState) (port : Port Running A R C F) :
    Except Panic (Port Running A R C F × PortActionIterator) :=
  if port.portState = .master then do
    let (seqId, syncSeqIds) := port.syncSeqIds.generate
    let (packetBuffer, data) ← port.packetBuffer.serialize p
      (Message.sync instanceState.defaultDs port.portIdentity seqId
        port.config.minorPtpVersion.toUInt8)
    let duration ← port.config.syncInterval.asCoreDuration
    return ({ port with syncSeqIds, packetBuffer },
      .of [.resetSyncTimer duration, .sendEvent (.sync seqId) data false])
  else .ok (port, .empty)

def handleSyncTimestamp (p : Profile) (instanceState : PtpInstanceState)
    (port : Port Running A R C F) (id : UInt16) (timestamp : Time) :
    Except Panic (Port Running A R C F × PortActionIterator) :=
  if port.portState = .master then do
    let message ← Message.followUp p instanceState.defaultDs port.portIdentity id timestamp
      port.config.minorPtpVersion.toUInt8
    let (packetBuffer, data) ← port.packetBuffer.serialize p message
    return ({ port with packetBuffer }, .of [.sendGeneral data false])
  else .ok (port, .empty)

/-! ### Announce messages -/

/-- The `PATH_TRACE` record, when the path trace list has room for the own identity. -/
def pathTraceTlv (instanceState : PtpInstanceState) : Except Panic (Option Tlv) :=
  match instanceState.pathTraceDs.list.tryPush instanceState.defaultDs.clockIdentity with
  | none => .ok none
  | some path => do
    let value : ArrayVec UInt8 maxDataLen ← ArrayVec.collect (path.toList.flatMap (·.toWire))
    return some { tlvType := .pathTrace, value := value.toList }

/-- The margin and the builder after the path trace, which is left out when it does not fit. -/
def addPathTrace (instanceState : PtpInstanceState) (tlvMargin : Nat) (builder : TlvSetBuilder) :
    Except Panic (Nat × TlvSetBuilder) :=
  if instanceState.pathTraceDs.enable then do
    match ← pathTraceTlv instanceState with
    | none => return (tlvMargin, builder)
    | some tlv =>
      if tlv.wireSize < tlvMargin then
        let builder ← builder.add tlv
        return (tlvMargin - tlv.wireSize, builder)
      else return (tlvMargin, builder)
  else .ok (tlvMargin, builder)

variable [ForwardedTLVProvider T]

/-- Records of other senders are dropped, and so are path traces when we add our own.  Each turn
takes a record from the provider, so `pending` turns are enough. -/
def announceLoop (p : Profile) (instanceState : PtpInstanceState) :
    Nat → T → Nat → TlvSetBuilder → Except Panic (T × TlvSetBuilder)
  | 0, provider, _, builder => .ok (provider, builder)
  | turns + 1, provider, tlvMargin, builder =>
    match ForwardedTLVProvider.nextIfSmaller provider tlvMargin with
    | (none, provider) => .ok (provider, builder)
    | (some tlv, provider) => do
      assert (decide (tlv.size < tlvMargin))
      if instanceState.parentDs.parentPortIdentity ≠ tlv.senderIdentity then
        announceLoop p instanceState turns provider tlvMargin builder
      else if instanceState.pathTraceDs.enable = true ∧ tlv.tlv.tlvType = .pathTrace then
        announceLoop p instanceState turns provider tlvMargin builder
      else
        let builder ← builder.add tlv.tlv
        announceLoop p instanceState turns provider (tlvMargin - tlv.size) builder

/-- The announce message with its records, and the provider after it. -/
def buildAnnounce (p : Profile) (instanceState : PtpInstanceState) (port : Port Running A R C F)
    (seqId : UInt16) (provider : T) : Except Panic (Message × T) := do
  let message := Message.announce instanceState port.portIdentity seqId
    port.config.minorPtpVersion.toUInt8
  let size ← message.wireSize p
  let (tlvMargin, builder) ← addPathTrace instanceState (maxDataLen - size)
    (TlvSetBuilder.new (List.replicate maxDataLen 0))
  let (provider, builder) ← announceLoop p instanceState
    (ForwardedTLVProvider.pending provider + 1) provider tlvMargin builder
  let suffix ← builder.build
  return ({ message with suffix }, provider)

def sendAnnounce (p : Profile) (instanceState : PtpInstanceState) (port : Port Running A R C F)
    (provider : T) : Except Panic (Port Running A R C F × T × PortActionIterator) :=
  if port.portState = .master then do
    let (seqId, announceSeqIds) := port.announceSeqIds.generate
    let (message, provider) ← port.buildAnnounce p instanceState seqId provider
    let (packetBuffer, data) ← port.packetBuffer.serialize p message
    let duration ← port.config.announceInterval.asCoreDuration
    return ({ port with announceSeqIds, packetBuffer }, provider,
      .of [.resetAnnounceTimer duration, .sendGeneral data false])
  else .ok (port, provider, .empty)

/-! ### Delay responses -/

omit [ForwardedTLVProvider T]

def handleDelayReq (p : Profile) (port : Port Running A R C F) (header : Header)
    (timestamp : Time) : Except Panic (Port Running A R C F × PortActionIterator) :=
  if port.portState = .master then do
    let message ← Message.delayResp p header port.portIdentity port.config.minDelayReqInterval
      timestamp
    let (packetBuffer, data) ← port.packetBuffer.serialize p message
    return ({ port with packetBuffer }, .of [.sendGeneral data false])
  else .ok (port, .empty)

/-- Unlike the end-to-end requests these are answered in every state. -/
def handlePdelayReq (p : Profile) (instanceState : PtpInstanceState) (port : Port Running A R C F)
    (header : Header) (timestamp : Time) :
    Except Panic (Port Running A R C F × PortActionIterator) := do
  let message ← Message.pdelayResp p instanceState.defaultDs port.portIdentity header timestamp
    port.config.minorPtpVersion.toUInt8
  let (packetBuffer, data) ← port.packetBuffer.serialize p message
  return ({ port with packetBuffer }, .of [.sendEvent
    (.pDelayResp header.sequenceId header.sourcePortIdentity) data true])

def handlePdelayResponseTimestamp (p : Profile) (instanceState : PtpInstanceState)
    (port : Port Running A R C F) (id : UInt16) (requestorIdentity : PortIdentity)
    (timestamp : Time) : Except Panic (Port Running A R C F × PortActionIterator) := do
  let message ← Message.pdelayRespFollowUp p instanceState.defaultDs port.portIdentity
    requestorIdentity id timestamp port.config.minorPtpVersion.toUInt8
  let (packetBuffer, data) ← port.packetBuffer.serialize p message
  return ({ port with packetBuffer }, .of [.sendGeneral data true])

end Port

end Statime
