import Statime.Datastructures.Tlv
import Statime.Datastructures.Datasets

/-!
# Messages

`statime/src/datastructures/messages`: the header, the ten bodies, the wire codec
and the constructors of the messages a port sends.

A `serialize` writes into the buffer it is given and leaves the bytes it does not
write as they were: octet 12 of an announce body and octet 10 of a management body
are of that kind.  `Message.serialize` returns the whole buffer together with the
number of bytes the message takes.
-/

namespace Statime

open Rust

inductive MessageType
  | sync
  | delayReq
  | pDelayReq
  | pDelayResp
  | followUp
  | delayResp
  | pDelayRespFollowUp
  | announce
  | signaling
  | management
  deriving DecidableEq

namespace MessageType

def toByte : MessageType → UInt8
  | sync => 0x0
  | delayReq => 0x1
  | pDelayReq => 0x2
  | pDelayResp => 0x3
  | followUp => 0x8
  | delayResp => 0x9
  | pDelayRespFollowUp => 0xa
  | announce => 0xb
  | signaling => 0xc
  | management => 0xd

def tryFrom : UInt8 → Option MessageType
  | 0x0 => some sync
  | 0x1 => some delayReq
  | 0x2 => some pDelayReq
  | 0x3 => some pDelayResp
  | 0x8 => some followUp
  | 0x9 => some delayResp
  | 0xa => some pDelayRespFollowUp
  | 0xb => some announce
  | 0xc => some signaling
  | 0xd => some management
  | _ => none

/-- `ControlField::from(self).to_primitive()`. -/
def controlField : MessageType → UInt8
  | sync => 0x00
  | delayReq => 0x01
  | followUp => 0x02
  | delayResp => 0x03
  | management => 0x04
  | _ => 0x05

end MessageType

/-! ### The header -/

structure PtpVersion where
  major : UInt8
  minor : UInt8
  deriving DecidableEq

def PtpVersion.asByte (v : PtpVersion) : UInt8 := (v.minor <<< 4) ||| v.major

def PtpVersion.fromByte (b : UInt8) : PtpVersion := { major := b &&& 0x0f, minor := b >>> 4 }

def SdoId.highByte (s : SdoId) : UInt8 := (s.value >>> 8).toUInt8

def SdoId.lowByte (s : SdoId) : UInt8 := s.value.toUInt8

structure Header where
  sdoId : SdoId
  version : PtpVersion
  domainNumber : UInt8
  alternateMasterFlag : Bool
  twoStepFlag : Bool
  unicastFlag : Bool
  ptpProfileSpecific1 : Bool
  ptpProfileSpecific2 : Bool
  leap61 : Bool
  leap59 : Bool
  currentUtcOffsetValid : Bool
  ptpTimescale : Bool
  timeTracable : Bool
  frequencyTracable : Bool
  synchronizationUncertain : Bool
  correctionField : TimeInterval
  sourcePortIdentity : PortIdentity
  sequenceId : UInt16
  logMessageInterval : Int8
  deriving DecidableEq

structure DeserializedHeader where
  header : Header
  messageType : MessageType
  messageLength : UInt16
  deriving DecidableEq

/-- `(flag as u8) << k`. -/
def flagBit (flag : Bool) (k : UInt8) : UInt8 := (if flag then 1 else 0) <<< k

/-- `(byte & (1 << k)) > 0`. -/
def hasBit (byte : UInt8) (k : UInt8) : Bool := decide ((0 : UInt8) < byte &&& (1 <<< k))

namespace Header

def new (minorPtpVersion : UInt8) : Header where
  sdoId := ⟨0⟩
  version := { major := 2, minor := minorPtpVersion }
  domainNumber := 0
  alternateMasterFlag := false
  twoStepFlag := false
  unicastFlag := false
  ptpProfileSpecific1 := false
  ptpProfileSpecific2 := false
  leap61 := false
  leap59 := false
  currentUtcOffsetValid := false
  ptpTimescale := false
  timeTracable := false
  frequencyTracable := false
  synchronizationUncertain := false
  correctionField := default
  sourcePortIdentity := default
  sequenceId := 0
  logMessageInterval := 0

def wireSize : Nat := 34

/-- What `buffer[6]` holds after its five `|=`. -/
def flagByte0 (h : Header) : UInt8 :=
  flagBit h.alternateMasterFlag 0 ||| flagBit h.twoStepFlag 1 ||| flagBit h.unicastFlag 2 |||
    flagBit h.ptpProfileSpecific1 5 ||| flagBit h.ptpProfileSpecific2 6

/-- What `buffer[7]` holds after its seven `|=`. -/
def flagByte1 (h : Header) : UInt8 :=
  flagBit h.leap61 0 ||| flagBit h.leap59 1 ||| flagBit h.currentUtcOffsetValid 2 |||
    flagBit h.ptpTimescale 3 ||| flagBit h.timeTracable 4 ||| flagBit h.frequencyTracable 5 |||
    flagBit h.synchronizationUncertain 6

def serializeHeader (h : Header) (contentType : MessageType) (contentLength : Nat)
    (buffer : List UInt8) : Except Panic (List UInt8) :=
  fill buffer [
    (0, [(h.sdoId.highByte <<< 4) ||| (contentType.toByte &&& 0x0f)]),
    (1, [h.version.asByte]),
    (2, toBE 2 (contentLength + wireSize)),
    (4, [h.domainNumber]),
    (5, [h.sdoId.lowByte]),
    (6, [h.flagByte0]),
    (7, [h.flagByte1]),
    (8, h.correctionField.toWire),
    (16, [0, 0, 0, 0]),
    (20, h.sourcePortIdentity.toWire),
    (30, toBE 2 h.sequenceId.toNat),
    (32, [contentType.controlField]),
    (33, [h.logMessageInterval.toUInt8])]

def deserializeHeader (buffer : List UInt8) : Except Failure DeserializedHeader :=
  if buffer.length < 34 then .error (.error .bufferTooShort)
  else do
    let b0 ← must (index buffer 0)
    let b1 ← must (index buffer 1)
    let b4 ← must (index buffer 4)
    let b5 ← must (index buffer 5)
    let b6 ← must (index buffer 6)
    let b7 ← must (index buffer 7)
    let correction ← must (readAt buffer 8 16)
    let source ← must (readAt buffer 20 30)
    let sequence ← must (readAt buffer 30 32)
    let b33 ← must (index buffer 33)
    let messageType ← okOr (MessageType.tryFrom (b0 &&& 0x0f)) .enumConversionError
    let length ← must (readAt buffer 2 4)
    return {
      header := {
        sdoId := ⟨((b0 &&& 0xf0).toUInt16 <<< 4) ||| b5.toUInt16⟩
        version := PtpVersion.fromByte b1
        domainNumber := b4
        alternateMasterFlag := hasBit b6 0
        twoStepFlag := hasBit b6 1
        unicastFlag := hasBit b6 2
        ptpProfileSpecific1 := hasBit b6 5
        ptpProfileSpecific2 := hasBit b6 6
        leap61 := hasBit b7 0
        leap59 := hasBit b7 1
        currentUtcOffsetValid := hasBit b7 2
        ptpTimescale := hasBit b7 3
        timeTracable := hasBit b7 4
        frequencyTracable := hasBit b7 5
        synchronizationUncertain := hasBit b7 6
        correctionField := TimeInterval.ofWire correction
        sourcePortIdentity := PortIdentity.ofWire source
        sequenceId := UInt16.ofNat (ofBE sequence)
        logMessageInterval := b33.toInt8 }
      messageType
      messageLength := UInt16.ofNat (ofBE length) }

end Header

/-! ### The bodies -/

structure SyncMessage where
  originTimestamp : WireTimestamp
  deriving DecidableEq

structure DelayReqMessage where
  originTimestamp : WireTimestamp
  deriving DecidableEq

structure PDelayReqMessage where
  originTimestamp : WireTimestamp
  deriving DecidableEq

structure PDelayRespMessage where
  requestReceiveTimestamp : WireTimestamp
  requestingPortIdentity : PortIdentity
  deriving DecidableEq

structure FollowUpMessage where
  preciseOriginTimestamp : WireTimestamp
  deriving DecidableEq

structure DelayRespMessage where
  receiveTimestamp : WireTimestamp
  requestingPortIdentity : PortIdentity
  deriving DecidableEq

structure PDelayRespFollowUpMessage where
  responseOriginTimestamp : WireTimestamp
  requestingPortIdentity : PortIdentity
  deriving DecidableEq

structure AnnounceMessage where
  header : Header
  originTimestamp : WireTimestamp
  currentUtcOffset : Int16
  grandmasterPriority1 : UInt8
  grandmasterClockQuality : ClockQuality
  grandmasterPriority2 : UInt8
  grandmasterIdentity : ClockIdentity
  stepsRemoved : UInt16
  timeSource : TimeSource
  deriving DecidableEq

structure SignalingMessage where
  targetPortIdentity : PortIdentity
  deriving DecidableEq

inductive ManagementAction
  | reserved
  | get
  | set
  | response
  | command
  | acknowledge
  deriving DecidableEq

def ManagementAction.toPrimitive : ManagementAction → UInt8
  | get => 0x0
  | set => 0x1
  | response => 0x2
  | command => 0x3
  | acknowledge => 0x4
  | reserved => 0x5

def ManagementAction.fromPrimitive : UInt8 → ManagementAction
  | 0x0 => get
  | 0x1 => set
  | 0x2 => response
  | 0x3 => command
  | 0x4 => acknowledge
  | _ => reserved

structure ManagementMessage where
  targetPortIdentity : PortIdentity
  startingBoundaryHops : UInt8
  boundaryHops : UInt8
  action : ManagementAction
  deriving DecidableEq

/-- A timestamp alone: the body of `Sync`, `DelayReq` and `FollowUp`. -/
def serializeTimestamp (t : WireTimestamp) (buffer : List UInt8) : Except Failure (List UInt8) :=
  must (fill buffer [(0, t.toWire)])

def deserializeTimestamp (buffer : List UInt8) : Except Failure WireTimestamp := do
  let s ← okOr (getRange buffer 0 10) .bufferTooShort
  return WireTimestamp.ofWire s

/-- A timestamp and a port identity, after a check of the length: the body of
`PDelayResp` and `PDelayRespFollowUp`. -/
def serializeTimestampAndPort (t : WireTimestamp) (i : PortIdentity) (buffer : List UInt8) :
    Except Failure (List UInt8) :=
  if buffer.length < 20 then .error (.error .bufferTooShort)
  else must (fill buffer [(0, t.toWire), (10, i.toWire)])

def deserializeTimestampAndPort (buffer : List UInt8) :
    Except Failure (WireTimestamp × PortIdentity) :=
  if buffer.length < 20 then .error (.error .bufferTooShort)
  else do
    let t ← must (readAt buffer 0 10)
    let i ← must (readAt buffer 10 20)
    return (WireTimestamp.ofWire t, PortIdentity.ofWire i)

def SyncMessage.serializeContent (m : SyncMessage) : List UInt8 → Except Failure (List UInt8) :=
  serializeTimestamp m.originTimestamp

def SyncMessage.deserializeContent (buffer : List UInt8) : Except Failure SyncMessage := do
  return ⟨← deserializeTimestamp buffer⟩

def DelayReqMessage.serializeContent (m : DelayReqMessage) :
    List UInt8 → Except Failure (List UInt8) := serializeTimestamp m.originTimestamp

def DelayReqMessage.deserializeContent (buffer : List UInt8) : Except Failure DelayReqMessage := do
  return ⟨← deserializeTimestamp buffer⟩

def FollowUpMessage.serializeContent (m : FollowUpMessage) :
    List UInt8 → Except Failure (List UInt8) := serializeTimestamp m.preciseOriginTimestamp

def FollowUpMessage.deserializeContent (buffer : List UInt8) : Except Failure FollowUpMessage := do
  return ⟨← deserializeTimestamp buffer⟩

def PDelayReqMessage.serializeContent (m : PDelayReqMessage) (buffer : List UInt8) :
    Except Failure (List UInt8) :=
  if buffer.length < 20 then .error (.error .bufferTooShort)
  else must (fill buffer [(0, m.originTimestamp.toWire), (10, List.replicate 10 0)])

def PDelayReqMessage.deserializeContent (buffer : List UInt8) :
    Except Failure PDelayReqMessage := do
  let s ← okOr (getRange buffer 0 20) .bufferTooShort
  return ⟨WireTimestamp.ofWire s⟩

def PDelayRespMessage.serializeContent (m : PDelayRespMessage) :
    List UInt8 → Except Failure (List UInt8) :=
  serializeTimestampAndPort m.requestReceiveTimestamp m.requestingPortIdentity

def PDelayRespMessage.deserializeContent (buffer : List UInt8) :
    Except Failure PDelayRespMessage := do
  let (t, i) ← deserializeTimestampAndPort buffer
  return ⟨t, i⟩

def PDelayRespFollowUpMessage.serializeContent (m : PDelayRespFollowUpMessage) :
    List UInt8 → Except Failure (List UInt8) :=
  serializeTimestampAndPort m.responseOriginTimestamp m.requestingPortIdentity

def PDelayRespFollowUpMessage.deserializeContent (buffer : List UInt8) :
    Except Failure PDelayRespFollowUpMessage := do
  let (t, i) ← deserializeTimestampAndPort buffer
  return ⟨t, i⟩

/-- Unlike its peer delay siblings this one does not check the length first. -/
def DelayRespMessage.serializeContent (m : DelayRespMessage) (buffer : List UInt8) :
    Except Failure (List UInt8) :=
  must (fill buffer [(0, m.receiveTimestamp.toWire), (10, m.requestingPortIdentity.toWire)])

def DelayRespMessage.deserializeContent (buffer : List UInt8) :
    Except Failure DelayRespMessage := do
  let s ← okOr (getRange buffer 0 20) .bufferTooShort
  let t ← must (readAt s 0 10)
  let i ← must (readAt s 10 20)
  return ⟨WireTimestamp.ofWire t, PortIdentity.ofWire i⟩

namespace AnnounceMessage

def serializeContent (p : Profile) (m : AnnounceMessage) (buffer : List UInt8) :
    Except Failure (List UInt8) :=
  if buffer.length < 30 then .error (.error .bufferTooShort)
  else do
    let quality ← must (m.grandmasterClockQuality.toWire p)
    let source ← must (m.timeSource.toPrimitive p)
    must (fill buffer [
      (0, m.originTimestamp.toWire),
      (10, toBE 2 m.currentUtcOffset.toUInt16.toNat),
      (13, [m.grandmasterPriority1]),
      (14, quality),
      (18, [m.grandmasterPriority2]),
      (19, m.grandmasterIdentity.toWire),
      (27, toBE 2 m.stepsRemoved.toNat),
      (29, [source])])

def deserializeContent (header : Header) (buffer : List UInt8) : Except Failure AnnounceMessage :=
  if buffer.length < 30 then .error (.error .bufferTooShort)
  else do
    let origin ← must (readAt buffer 0 10)
    let offset ← must (readAt buffer 10 12)
    let priority1 ← must (index buffer 13)
    let quality ← must (readAt buffer 14 18)
    let priority2 ← must (index buffer 18)
    let identity ← must (readAt buffer 19 27)
    let steps ← must (readAt buffer 27 29)
    let source ← must (index buffer 29)
    return {
      header
      originTimestamp := WireTimestamp.ofWire origin
      currentUtcOffset := (UInt16.ofNat (ofBE offset)).toInt16
      grandmasterPriority1 := priority1
      grandmasterClockQuality := ClockQuality.ofWire quality
      grandmasterPriority2 := priority2
      grandmasterIdentity := ClockIdentity.ofWire identity
      stepsRemoved := UInt16.ofNat (ofBE steps)
      timeSource := TimeSource.fromPrimitive source }

def timeProperties (m : AnnounceMessage) : TimePropertiesDS where
  currentUtcOffset := if m.header.currentUtcOffsetValid then some m.currentUtcOffset else none
  leapIndicator :=
    if m.header.leap59 then .leap59 else if m.header.leap61 then .leap61 else .noLeap
  timeTraceable := m.header.timeTracable
  frequencyTraceable := m.header.frequencyTracable
  ptpTimescale := m.header.ptpTimescale
  timeSource := m.timeSource

end AnnounceMessage

def SignalingMessage.serializeContent (m : SignalingMessage) (buffer : List UInt8) :
    Except Failure (List UInt8) :=
  if buffer.length < 10 then .error (.error .bufferTooShort)
  else must (fill buffer [(0, m.targetPortIdentity.toWire)])

def SignalingMessage.deserializeContent (buffer : List UInt8) :
    Except Failure SignalingMessage := do
  let s ← okOr (getRange buffer 0 10) .bufferTooShort
  return ⟨PortIdentity.ofWire s⟩

def ManagementMessage.serializeContent (m : ManagementMessage) (buffer : List UInt8) :
    Except Failure (List UInt8) :=
  must (fill buffer [
    (0, m.targetPortIdentity.toWire),
    (11, [m.startingBoundaryHops]),
    (12, [m.boundaryHops]),
    (13, [m.action.toPrimitive])])

def ManagementMessage.deserializeContent (buffer : List UInt8) :
    Except Failure ManagementMessage :=
  if buffer.length < 14 then .error (.error .bufferTooShort)
  else do
    let target ← must (readAt buffer 0 10)
    let starting ← must (index buffer 11)
    let hops ← must (index buffer 12)
    let action ← must (index buffer 13)
    return {
      targetPortIdentity := PortIdentity.ofWire target
      startingBoundaryHops := starting
      boundaryHops := hops
      action := ManagementAction.fromPrimitive action }

inductive MessageBody
  | sync (m : SyncMessage)
  | delayReq (m : DelayReqMessage)
  | pDelayReq (m : PDelayReqMessage)
  | pDelayResp (m : PDelayRespMessage)
  | followUp (m : FollowUpMessage)
  | delayResp (m : DelayRespMessage)
  | pDelayRespFollowUp (m : PDelayRespFollowUpMessage)
  | announce (m : AnnounceMessage)
  | signaling (m : SignalingMessage)
  | management (m : ManagementMessage)
  deriving DecidableEq

namespace MessageBody

def wireSize : MessageBody → Nat
  | sync _ => 10
  | delayReq _ => 10
  | pDelayReq _ => 20
  | pDelayResp _ => 20
  | followUp _ => 10
  | delayResp _ => 20
  | pDelayRespFollowUp _ => 20
  | announce _ => 30
  | signaling _ => 10
  | management _ => 14

def contentType : MessageBody → MessageType
  | sync _ => .sync
  | delayReq _ => .delayReq
  | pDelayReq _ => .pDelayReq
  | pDelayResp _ => .pDelayResp
  | followUp _ => .followUp
  | delayResp _ => .delayResp
  | pDelayRespFollowUp _ => .pDelayRespFollowUp
  | announce _ => .announce
  | signaling _ => .signaling
  | management _ => .management

def serialize (p : Profile) (body : MessageBody) (buffer : List UInt8) :
    Except Failure (List UInt8) :=
  match body with
  | sync m => m.serializeContent buffer
  | delayReq m => m.serializeContent buffer
  | pDelayReq m => m.serializeContent buffer
  | pDelayResp m => m.serializeContent buffer
  | followUp m => m.serializeContent buffer
  | delayResp m => m.serializeContent buffer
  | pDelayRespFollowUp m => m.serializeContent buffer
  | announce m => m.serializeContent p buffer
  | signaling m => m.serializeContent buffer
  | management m => m.serializeContent buffer

def deserialize (messageType : MessageType) (header : Header) (buffer : List UInt8) :
    Except Failure MessageBody :=
  match messageType with
  | .sync => do return sync (← SyncMessage.deserializeContent buffer)
  | .delayReq => do return delayReq (← DelayReqMessage.deserializeContent buffer)
  | .pDelayReq => do return pDelayReq (← PDelayReqMessage.deserializeContent buffer)
  | .pDelayResp => do return pDelayResp (← PDelayRespMessage.deserializeContent buffer)
  | .followUp => do return followUp (← FollowUpMessage.deserializeContent buffer)
  | .delayResp => do return delayResp (← DelayRespMessage.deserializeContent buffer)
  | .pDelayRespFollowUp =>
    do return pDelayRespFollowUp (← PDelayRespFollowUpMessage.deserializeContent buffer)
  | .announce => do return announce (← AnnounceMessage.deserializeContent header buffer)
  | .signaling => do return signaling (← SignalingMessage.deserializeContent buffer)
  | .management => do return management (← ManagementMessage.deserializeContent buffer)

end MessageBody

/-! ### Whole messages -/

structure Message where
  header : Header
  body : MessageBody
  suffix : TlvSet
  deriving DecidableEq

/-- `unwrap()` on the result of a wire function. -/
def unwrapWire {α : Type} : Except Failure α → Except Panic α
  | .ok a => .ok a
  | .error (.error _) => .error .unwrap
  | .error (.panic why) => .error why

@[simp] theorem unwrapWire_ok {α : Type} (a : α) : unwrapWire (.ok a) = .ok a := rfl

namespace Message

def wireSize (p : Profile) (m : Message) : Except Panic Nat := do
  let suffix ← m.suffix.wireSize p
  return Header.wireSize + m.body.wireSize + suffix

/-- The buffer after the message was written to its front, and the bytes it takes. -/
def serialize (p : Profile) (m : Message) (buffer : List UInt8) :
    Except Panic (List UInt8 × Nat) := do
  let header ← readAt buffer 0 34
  let rest := buffer.drop 34
  let body ← readAt rest 0 m.body.wireSize
  let tlv := rest.drop m.body.wireSize
  let suffixSize ← m.suffix.wireSize p
  let header ← m.header.serializeHeader m.body.contentType (m.body.wireSize + suffixSize) header
  let body ← unwrapWire (m.body.serialize p body)
  let tlv ← unwrapWire (okOr (m.suffix.serialize tlv) .bufferTooShort)
  let size ← m.wireSize p
  return (header ++ body ++ tlv, size)

def deserialize (buffer : List UInt8) : Except Failure Message := do
  let headerData ← Header.deserializeHeader buffer
  if headerData.messageLength < 34 then .error (.error .invalid)
  else
    let content ← okOr (getRange buffer 34 headerData.messageLength.toNat) .bufferTooShort
    let body ← MessageBody.deserialize headerData.messageType headerData.header content
    let tlvBuffer ← okOr (getFrom content body.wireSize) .bufferTooShort
    let suffix ← TlvSet.deserialize tlvBuffer
    return { header := headerData.header, body, suffix }

end Message

/-- Whether the message is of a PTP revision compatible with Statime. -/
def isCompatible (buffer : List UInt8) : Bool :=
  decide (2 ≤ buffer.length) && (byteAt buffer 1 &&& 0xf == 2)

/-! ### The messages a port sends -/

def baseHeader (defaultDs : InternalDefaultDS) (portIdentity : PortIdentity)
    (sequenceId : UInt16) (minorPtpVersion : UInt8) : Header :=
  { Header.new minorPtpVersion with
    sdoId := defaultDs.sdoId
    domainNumber := defaultDs.domainNumber
    sourcePortIdentity := portIdentity
    sequenceId }

namespace Message

def sync (defaultDs : InternalDefaultDS) (portIdentity : PortIdentity) (sequenceId : UInt16)
    (minorPtpVersion : UInt8) : Message where
  header := { baseHeader defaultDs portIdentity sequenceId minorPtpVersion with twoStepFlag := true }
  body := .sync { originTimestamp := default }
  suffix := default

def followUp (p : Profile) (defaultDs : InternalDefaultDS) (portIdentity : PortIdentity)
    (sequenceId : UInt16) (timestamp : Time) (minorPtpVersion : UInt8) : Except Panic Message := do
  let preciseOriginTimestamp ← WireTimestamp.ofTime p timestamp
  return {
    header := { baseHeader defaultDs portIdentity sequenceId minorPtpVersion with
      correctionField := timestamp.subnano }
    body := .followUp { preciseOriginTimestamp }
    suffix := default }

def announceHeader (s : PtpInstanceState) (portIdentity : PortIdentity) (sequenceId : UInt16)
    (minorPtpVersion : UInt8) : Header :=
  { baseHeader s.defaultDs portIdentity sequenceId minorPtpVersion with
    leap59 := s.timePropertiesDs.leapIndicator = .leap59
    leap61 := s.timePropertiesDs.leapIndicator = .leap61
    currentUtcOffsetValid := s.timePropertiesDs.currentUtcOffset.isSome
    ptpTimescale := s.timePropertiesDs.ptpTimescale
    timeTracable := s.timePropertiesDs.timeTraceable
    frequencyTracable := s.timePropertiesDs.frequencyTraceable }

def announce (s : PtpInstanceState) (portIdentity : PortIdentity) (sequenceId : UInt16)
    (minorPtpVersion : UInt8) : Message where
  header := announceHeader s portIdentity sequenceId minorPtpVersion
  body := .announce {
    header := announceHeader s portIdentity sequenceId minorPtpVersion
    originTimestamp := default
    currentUtcOffset := s.timePropertiesDs.currentUtcOffset.getD 0
    grandmasterPriority1 := s.parentDs.grandmasterPriority1
    grandmasterClockQuality := s.parentDs.grandmasterClockQuality
    grandmasterPriority2 := s.parentDs.grandmasterPriority2
    grandmasterIdentity := s.parentDs.grandmasterIdentity
    stepsRemoved := s.currentDs.stepsRemoved
    timeSource := s.timePropertiesDs.timeSource }
  suffix := default

def delayReq (defaultDs : InternalDefaultDS) (portIdentity : PortIdentity) (sequenceId : UInt16)
    (minorPtpVersion : UInt8) : Message where
  header := { baseHeader defaultDs portIdentity sequenceId minorPtpVersion with
    logMessageInterval := 0x7f }
  body := .delayReq { originTimestamp := default }
  suffix := default

/-- The body of the request is not looked at. -/
def delayResp (p : Profile) (requestHeader : Header) (portIdentity : PortIdentity)
    (minDelayReqInterval : Interval) (timestamp : Time) : Except Panic Message := do
  let correction ← requestHeader.correctionField.inner.add p timestamp.subnano.inner
  let receiveTimestamp ← WireTimestamp.ofTime p timestamp
  return {
    header := { requestHeader with
      twoStepFlag := false
      sourcePortIdentity := portIdentity
      correctionField := ⟨correction⟩
      logMessageInterval := minDelayReqInterval.log2 }
    body := .delayResp {
      receiveTimestamp
      requestingPortIdentity := requestHeader.sourcePortIdentity }
    suffix := default }

def pdelayReq (defaultDs : InternalDefaultDS) (portIdentity : PortIdentity) (sequenceId : UInt16)
    (minorPtpVersion : UInt8) : Message where
  header := baseHeader defaultDs portIdentity sequenceId minorPtpVersion
  body := .pDelayReq { originTimestamp := default }
  suffix := default

def pdelayResp (p : Profile) (defaultDs : InternalDefaultDS) (portIdentity : PortIdentity)
    (requestHeader : Header) (timestamp : Time) (minorPtpVersion : UInt8) :
    Except Panic Message := do
  let requestReceiveTimestamp ← WireTimestamp.ofTime p timestamp
  return {
    header := { baseHeader defaultDs portIdentity requestHeader.sequenceId minorPtpVersion with
      twoStepFlag := true
      correctionField := requestHeader.correctionField }
    body := .pDelayResp {
      requestReceiveTimestamp
      requestingPortIdentity := requestHeader.sourcePortIdentity }
    suffix := default }

def pdelayRespFollowUp (p : Profile) (defaultDs : InternalDefaultDS) (portIdentity : PortIdentity)
    (requestorIdentity : PortIdentity) (sequenceId : UInt16) (timestamp : Time)
    (minorPtpVersion : UInt8) : Except Panic Message := do
  let responseOriginTimestamp ← WireTimestamp.ofTime p timestamp
  return {
    header := baseHeader defaultDs portIdentity sequenceId minorPtpVersion
    body := .pDelayRespFollowUp {
      responseOriginTimestamp
      requestingPortIdentity := requestorIdentity }
    suffix := default }

end Message

end Statime
