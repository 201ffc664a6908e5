import Statime.Port.Effects
import Statime.Port.Steering
import Statime.Port.TimedMessages

/-!
# The messages of a port

A call on a port sends at most one packet, and `Port.Sends` says which message it is: which call sends
it, in which state of the port, and with which id.

* `Slot.step_emits`: what a step sends, and which sequence of ids it goes on with.
* `packet_header`: a packet starts with the header of its message.
-/

namespace Statime

open Rust Machine

/-! ### Messages on their way out -/

/-- A message that leaves a port, with a context when it goes over the event channel. -/
structure Outgoing where
  message : Message
  context : Option TimestampContext
  linkLocal : Bool

namespace Outgoing

/-- The action that sends these bytes for the message. -/
def action (o : Outgoing) (data : List UInt8) : PortAction :=
  match o.context with
  | some context => .sendEvent context data o.linkLocal
  | none => .sendGeneral data o.linkLocal

def type (o : Outgoing) : MessageType := o.message.body.contentType

@[simp] theorem packet_action (o : Outgoing) (data : List UInt8) :
    (o.action data).packet = some data := by
  unfold action
  split <;> rfl

end Outgoing

/-- The context of the timestamp that an action asks for. -/
def PortAction.context : PortAction → Option TimestampContext
  | .sendEvent context _ _ => some context
  | _ => none

/-- The actions that send a packet. -/
def PortActionIterator.sends (i : PortActionIterator) : List PortAction :=
  i.internal.filter (·.packet.isSome)

@[simp] theorem PortActionIterator.sends_empty : PortActionIterator.empty.sends = [] := rfl

@[simp] theorem PortActionIterator.sends_fromFilter (update : FilterUpdate) :
    (PortActionIterator.fromFilter update).sends = [] := by
  unfold fromFilter
  split <;> rfl

/-! ### Packets -/

/-- **A packet starts with the header of its message.** -/
theorem PacketBuffer.serialize_header {p : Profile} {buffer buffer' : PacketBuffer}
    {message : Message} {data : List UInt8}
    (h : buffer.serialize p message = .ok (buffer', data)) :
    ∃ header rest, message.header.serializeHeader message.body.contentType
        (message.body.wireSize + message.suffix.bytes.length) (slice buffer.bytes 0 34) = .ok header ∧
      header.length = 34 ∧ data = header ++ rest := by
  obtain ⟨⟨out, n⟩, hout⟩ := serialize_eq_ok h
  have hlength := Message.length_serialize hout
  obtain ⟨header, body, hfit, -, hheader, -, heq, rfl⟩ := Message.serialize_iff.mp hout
  have hsize : message.size = 34 + message.body.wireSize + message.suffix.bytes.length := rfl
  have hlen : header.length = 34 := by
    rw [length_fill _ _ _ hheader, length_slice_of_le (by omega)]
  obtain ⟨buffer₁, hbuffer₁⟩ := serialize_of_ok hout (by omega)
  obtain ⟨-, rfl⟩ := Prod.mk.inj (Except.ok.inj (hbuffer₁.symm.trans h))
  refine ⟨header, (body ++ message.suffix.bytes ++ buffer.bytes.drop message.size).take
    (message.size - 34), hheader, hlen, ?_⟩
  rw [heq, List.append_assoc, List.append_assoc, List.take_append, hlen,
    List.take_of_length_le (by omega), List.append_assoc]

/-- **What every receiver reads first**: the type, the sender and the id of the message, also of one
that does not read back. -/
theorem packet_header {p : Profile} {buffer buffer' : PacketBuffer} {message : Message}
    {data : List UInt8} (h : buffer.serialize p message = .ok (buffer', data)) :
    packetType data = some message.body.contentType ∧
      (Header.ofBytes data).sourcePortIdentity = message.header.sourcePortIdentity ∧
      (Header.ofBytes data).domainNumber = message.header.domainNumber ∧
      (Header.ofBytes data).sequenceId = message.header.sequenceId := by
  refine ⟨packetType_serialize h, ?_⟩
  obtain ⟨header, rest, hheader, hlen, rfl⟩ := PacketBuffer.serialize_header h
  have hlen' : (slice buffer.bytes 0 34).length = 34 := by
    rw [← length_fill _ _ _ hheader, hlen]
  obtain ⟨out, hout, -, hread⟩ := message.header.serializeHeader_layout message.body.contentType
    (message.body.wireSize + message.suffix.bytes.length) hlen'
  obtain rfl := Except.ok.inj (hheader.symm.trans hout)
  simp only [Header.layout, List.forall_mem_cons, List.length_cons, List.length_nil, length_toBE,
    TimeInterval.length_toWire, PortIdentity.length_toWire, Nat.reduceAdd] at hread
  obtain ⟨-, -, -, h4, -, -, -, -, -, h20, h30, -⟩ := hread
  rw [Header.ofBytes_append rest (by omega)]
  refine ⟨?_, ?_, ?_⟩
  · rw [Header.ofBytes, h20, PortIdentity.ofWire_toWire]
  · rw [Header.ofBytes, byteAt_of_slice h4]
  · rw [Header.ofBytes, h30, uint16_ofBE]

/-- A packet is read as of the type that it says. -/
theorem packetType_deserialize {data : List UInt8} {message : Message}
    (h : Message.deserialize data = .ok message) :
    packetType data = some message.body.contentType ∧ message.header = Header.ofBytes data := by
  obtain ⟨d, hd, h⟩ := bind_eq_ok.mp h
  obtain ⟨-, htype, hheader, -⟩ := Header.deserializeHeader_eq_ok hd
  split at h
  · cases h
  · obtain ⟨content, -, h⟩ := bind_eq_ok.mp h
    obtain ⟨body, hbody, h⟩ := bind_eq_ok.mp h
    obtain ⟨tail, -, h⟩ := bind_eq_ok.mp h
    obtain ⟨suffix, -, h⟩ := bind_eq_ok.mp h
    obtain rfl := Except.ok.inj h
    refine ⟨?_, hheader⟩
    rw [packetType, htype, ← (MessageBody.deserialize_spec hbody).1]
/-! ### The ids of a port -/

/-- The generators of a port, one for each type of message that starts something. -/
structure SeqIds where
  announce : SequenceIdGenerator
  sync : SequenceIdGenerator
  delay : SequenceIdGenerator
  pdelay : SequenceIdGenerator

namespace SeqIds

def new : SeqIds := ⟨.new, .new, .new, .new⟩

/-- The generator of a type; the other types answer a message and have its id. -/
def generator (ids : SeqIds) : MessageType → Option SequenceIdGenerator
  | .announce => some ids.announce
  | .sync => some ids.sync
  | .delayReq => some ids.delay
  | .pDelayReq => some ids.pdelay
  | _ => none

/-- The generators after a message of this type. -/
def advance (ids : SeqIds) : MessageType → SeqIds
  | .announce => { ids with announce := ids.announce.generate.2 }
  | .sync => { ids with sync := ids.sync.generate.2 }
  | .delayReq => { ids with delay := ids.delay.generate.2 }
  | .pDelayReq => { ids with pdelay := ids.pdelay.generate.2 }
  | _ => ids

theorem generator_advance_same {ids : SeqIds} {t : MessageType} {g : SequenceIdGenerator}
    (h : ids.generator t = some g) : (ids.advance t).generator t = some g.generate.2 := by
  cases t <;> simp only [generator, Option.some.injEq, reduceCtorEq] at h <;> subst h <;> rfl

theorem generator_advance_other {ids : SeqIds} {t t' : MessageType} (h : t ≠ t') :
    (ids.advance t').generator t = ids.generator t := by
  cases t <;> cases t' <;> first | rfl | exact absurd rfl h

end SeqIds

namespace Port

variable {L A R C F T : Type} [Filter F]

def seqIds (port : Port L A R C F) : SeqIds where
  announce := port.announceSeqIds
  sync := port.syncSeqIds
  delay := port.delaySeqIds
  pdelay := port.pdelaySeqIds

section Calls

variable [ForwardedTLVProvider T]

/-- **What a call sends.**  Sync and announce messages, follow-ups and delay responses come from a
master; only a slave measures the delay end to end.  A response has the header or the id of its
request. -/
inductive Sends (p : Profile) (port : Port Running A R C F) :
    MessageType → PortEvent T → Outgoing → Prop
  | announce {s : PtpInstanceState} {provider provider' : T} {message : Message} :
      port.portState = .master →
      port.buildAnnounce p s port.announceSeqIds.current provider = .ok (message, provider') →
      Sends p port .announce (.announceTimer s provider) ⟨message, none, false⟩
  | sync {s : PtpInstanceState} : port.portState = .master →
      Sends p port .sync (.syncTimer s)
        ⟨.sync s.defaultDs port.portIdentity port.syncSeqIds.current
          port.config.minorPtpVersion.toUInt8, some (.sync port.syncSeqIds.current), false⟩
  | followUp {s : PtpInstanceState} {id : UInt16} {t : Time} {message : Message} :
      port.portState = .master →
      Message.followUp p s.defaultDs port.portIdentity id t port.config.minorPtpVersion.toUInt8 =
        .ok message →
      Sends p port .followUp (.sendTimestamp s (.sync id) t) ⟨message, none, false⟩
  | delayReq {s : PtpInstanceState} {state : SlaveState} {interval : Interval} :
      port.portState = .slave state → port.config.delayMechanism = .e2e interval →
      Sends p port .delayReq (.delayRequestTimer s)
        ⟨.delayReq s.defaultDs port.portIdentity port.delaySeqIds.current
          port.config.minorPtpVersion.toUInt8, some (.delayReq port.delaySeqIds.current), false⟩
  | delayResp {s : PtpInstanceState} {data : List UInt8} {t : Time} {request message : Message}
      {body : DelayReqMessage} : port.portState = .master →
      parseAndFilter s data = .ok (some request) → request.body = .delayReq body →
      Message.delayResp p request.header port.portIdentity port.config.minDelayReqInterval t =
        .ok message →
      Sends p port .delayResp (.eventReceive s data t) ⟨message, none, false⟩
  | pDelayReq {s : PtpInstanceState} {interval : Interval} :
      port.config.delayMechanism = .p2p interval →
      Sends p port .pDelayReq (.delayRequestTimer s)
        ⟨.pdelayReq s.defaultDs port.portIdentity port.pdelaySeqIds.current
          port.config.minorPtpVersion.toUInt8, some (.pDelayReq port.pdelaySeqIds.current), true⟩
  | pDelayResp {s : PtpInstanceState} {data : List UInt8} {t : Time} {request message : Message}
      {body : PDelayReqMessage} :
      parseAndFilter s data = .ok (some request) → request.body = .pDelayReq body →
      Message.pdelayResp p s.defaultDs port.portIdentity request.header t
        port.config.minorPtpVersion.toUInt8 = .ok message →
      Sends p port .pDelayResp (.eventReceive s data t)
        ⟨message, some (.pDelayResp request.header.sequenceId request.header.sourcePortIdentity), true⟩
  | pDelayRespFollowUp {s : PtpInstanceState} {id : UInt16} {requestor : PortIdentity} {t : Time}
      {message : Message} :
      Message.pdelayRespFollowUp p s.defaultDs port.portIdentity requestor id t
        port.config.minorPtpVersion.toUInt8 = .ok message →
      Sends p port .pDelayRespFollowUp (.sendTimestamp s (.pDelayResp id requestor) t)
        ⟨message, none, true⟩

variable {p : Profile} {s : PtpInstanceState} {port : Port Running A R C F}

/-- What is sent for an announce timer is the announce message of the state, with some records. -/
theorem buildAnnounce_eq {seqId : UInt16} {provider provider' : T} {message : Message}
    (h : port.buildAnnounce p s seqId provider = .ok (message, provider')) :
    ∃ suffix, message = { Message.announce s port.portIdentity seqId
      port.config.minorPtpVersion.toUInt8 with suffix } := by
  obtain ⟨size, -, h⟩ := bind_eq_ok.mp h
  obtain ⟨⟨margin, builder⟩, -, h⟩ := bind_eq_ok.mp h
  obtain ⟨⟨provider₁, builder₁⟩, -, h⟩ := bind_eq_ok.mp h
  obtain ⟨suffix, -, h⟩ := bind_eq_ok.mp h
  obtain ⟨rfl, -⟩ := Prod.mk.inj (Except.ok.inj h)
  exact ⟨suffix, rfl⟩

theorem Sends.type_eq {t : MessageType} {e : PortEvent T} {o : Outgoing} (h : port.Sends p t e o) :
    o.type = t := by
  cases h with
  | announce _ hbuild =>
    obtain ⟨suffix, rfl⟩ := buildAnnounce_eq hbuild
    rfl
  | sync | delayReq | pDelayReq => rfl
  | followUp _ hmessage | pDelayResp _ _ hmessage | pDelayRespFollowUp hmessage =>
    obtain ⟨ts, -, hmessage⟩ := bind_eq_ok.mp hmessage
    obtain rfl := Except.ok.inj hmessage
    rfl
  | delayResp _ _ _ hmessage =>
    obtain ⟨correction, -, hmessage⟩ := bind_eq_ok.mp hmessage
    obtain ⟨ts, -, hmessage⟩ := bind_eq_ok.mp hmessage
    obtain rfl := Except.ok.inj hmessage
    rfl

/-- Nothing is sent, and no id is used. -/
structure Silent (port port' : Port Running A R C F) (actions : PortActionIterator) : Prop where
  sends : actions.sends = []
  seqIds : port'.seqIds = port.seqIds

/-- Nothing is sent, or one message with its bytes. -/
inductive Emits (p : Profile) (port port' : Port Running A R C F) (e : PortEvent T)
    (actions : PortActionIterator) : Prop
  | silent : port.Silent port' actions → Emits p port port' e actions
  | sent {t : MessageType} {o : Outgoing} {buffer : PacketBuffer} {data : List UInt8} :
      port.Sends p t e o → port.packetBuffer.serialize p o.message = .ok (buffer, data) →
      actions.sends = [o.action data] → port'.seqIds = port.seqIds.advance t →
      Emits p port port' e actions

end Calls

/-! ### Calls that send nothing -/

section Silent

variable {p : Profile} {s s' : PtpInstanceState} {port port' : Port Running A R C F}
  {actions : PortActionIterator} {header : Header} {timestamp : Time} {message : Message}

theorem silent_of_same (h : (Except.ok (port, PortActionIterator.empty) : Except Panic _) =
    .ok (port', actions)) : port.Silent port' actions := by
  obtain ⟨rfl, rfl⟩ := Prod.mk.inj (Except.ok.inj h)
  exact ⟨rfl, rfl⟩

variable [Clock C]

@[simp] theorem seqIds_setForcedPortState (port : Port L A R C F) (state : PortState) :
    (port.setForcedPortState state).seqIds = port.seqIds := by
  unfold setForcedPortState
  split <;> rfl

theorem silent_of_faulty (h : (Except.ok (port.setForcedPortState .faulty, PortActionIterator.empty) :
    Except Panic _) = .ok (port', actions)) : port.Silent port' actions := by
  obtain ⟨rfl, rfl⟩ := Prod.mk.inj (Except.ok.inj h)
  exact ⟨rfl, seqIds_setForcedPortState _ _⟩

theorem extractMeasurement_seqIds {measurement : Option Measurement}
    (h : port.extractMeasurement p = .ok (measurement, port')) : port'.seqIds = port.seqIds := by
  unfold extractMeasurement at h
  split at h
  · obtain ⟨delay, -, h⟩ := bind_eq_ok.mp h
    obtain ⟨-, rfl⟩ := Prod.mk.inj (Except.ok.inj h)
    split
    · exact seqIds_setForcedPortState _ _
    · rfl
  · split at h
    · unfold extractSlaveMeasurement at h
      split at h
      · obtain ⟨raw, -, h⟩ := bind_eq_ok.mp h
        obtain ⟨offset, -, h⟩ := bind_eq_ok.mp h
        obtain ⟨-, rfl⟩ := Prod.mk.inj (Except.ok.inj h)
        rfl
      · split at h
        · obtain ⟨raw, -, h⟩ := bind_eq_ok.mp h
          obtain ⟨delay, -, h⟩ := bind_eq_ok.mp h
          obtain ⟨-, rfl⟩ := Prod.mk.inj (Except.ok.inj h)
          rfl
        · obtain ⟨-, rfl⟩ := Prod.mk.inj (Except.ok.inj h)
          rfl
    · obtain ⟨-, rfl⟩ := Prod.mk.inj (Except.ok.inj h)
      rfl

/-- A measurement only asks for the filter update timer. -/
theorem handleTimeMeasurement_silent {port₁ : Port Running A R C F}
    (h : port₁.handleTimeMeasurement p = .ok (port', actions)) (hsame : port₁.seqIds = port.seqIds) :
    port.Silent port' actions := by
  obtain ⟨⟨measurement, port₂⟩, hextract, h⟩ := bind_eq_ok.mp h
  have hsame₂ := (extractMeasurement_seqIds hextract).trans hsame
  cases measurement with
  | none =>
    obtain ⟨rfl, rfl⟩ := Prod.mk.inj (Except.ok.inj h)
    exact ⟨rfl, hsame₂⟩
  | some measurement =>
    obtain ⟨rfl, rfl⟩ := Prod.mk.inj (Except.ok.inj h)
    exact ⟨PortActionIterator.sends_fromFilter _, hsame₂⟩

/-- The messages and timestamps of a slave. -/
theorem storeSlave_silent {stored : SlaveState → Except Panic (Option (SlaveState × Bool))}
    (h : port.storeSlave p stored = .ok (port', actions)) : port.Silent port' actions := by
  unfold storeSlave at h
  split at h
  · obtain ⟨result, -, h⟩ := bind_eq_ok.mp h
    rcases result with _ | ⟨state, _ | _⟩
    · exact silent_of_same h
    · obtain ⟨rfl, rfl⟩ := Prod.mk.inj (Except.ok.inj h)
      exact ⟨rfl, rfl⟩
    · exact handleTimeMeasurement_silent h rfl
  · exact silent_of_same h

/-- The answers to a peer delay request. -/
theorem handleAnswer_silent {requesting : PortIdentity} {lacks : PeerDelayState → Bool}
    {stored : Except Panic PeerDelayState}
    (h : port.handleAnswer p header requesting lacks stored = .ok (port', actions)) :
    port.Silent port' actions := by
  unfold handleAnswer at h
  split at h
  · exact silent_of_same h
  · split at h
    · split at h
      · exact silent_of_faulty h
      · exact silent_of_same h
    · split at h
      · split at h
        · exact silent_of_faulty h
        · split at h
          · obtain ⟨state, -, h⟩ := bind_eq_ok.mp h
            exact handleTimeMeasurement_silent h rfl
          · exact silent_of_same h
      · exact silent_of_same h
    · exact silent_of_same h

theorem handlePdelayTimestamp_silent {id : UInt16}
    (h : port.handlePdelayTimestamp p id timestamp = .ok (port', actions)) :
    port.Silent port' actions := by
  unfold handlePdelayTimestamp at h
  split at h
  · split at h
    · split at h
      · exact silent_of_same h
      · exact handleTimeMeasurement_silent h rfl
    · exact silent_of_same h
  · exact silent_of_same h

variable [Rng R]

theorem handleAnnounceReceiptTimer_silent
    (h : port.handleAnnounceReceiptTimer s = .ok (port', actions)) : port.Silent port' actions := by
  unfold handleAnnounceReceiptTimer at h
  split at h
  · obtain ⟨⟨duration, rng⟩, -, h⟩ := bind_eq_ok.mp h
    obtain ⟨rfl, rfl⟩ := Prod.mk.inj (Except.ok.inj h)
    refine ⟨rfl, ?_⟩
    show Port.seqIds (ite _ _ _) = _
    split
    · rfl
    · exact seqIds_setForcedPortState _ _
  · obtain ⟨rfl, rfl⟩ := Prod.mk.inj (Except.ok.inj h)
    refine ⟨rfl, ?_⟩
    split
    · rfl
    · exact seqIds_setForcedPortState _ _

variable [AcceptableMasterList A]

theorem registerAnnounce_silent {announce : AnnounceMessage}
    (h : port.registerAnnounce p message announce = .ok (port', actions)) :
    port.Silent port' actions := by
  obtain ⟨⟨bmca, stored⟩, -, h⟩ := bind_eq_ok.mp h
  dsimp only at h
  split at h
  · obtain ⟨⟨duration, rng⟩, -, h⟩ := bind_eq_ok.mp h
    obtain ⟨rfl, rfl⟩ := Prod.mk.inj (Except.ok.inj h)
    refine ⟨rfl, ?_⟩
    show Port.seqIds (checkMultiport _ _) = _
    unfold checkMultiport
    split
    · exact seqIds_setForcedPortState _ _
    · rfl
  · obtain ⟨rfl, rfl⟩ := Prod.mk.inj (Except.ok.inj h)
    exact ⟨rfl, rfl⟩

theorem handleAnnounce_silent {announce : AnnounceMessage}
    (h : port.handleAnnounce p s message announce = .ok (port', s', actions)) :
    port.Silent port' actions := by
  obtain ⟨⟨s₁, loop⟩, -, h⟩ := bind_eq_ok.mp h
  dsimp only at h
  split at h
  · obtain ⟨rfl, hrest⟩ := Prod.mk.inj (Except.ok.inj h)
    obtain ⟨-, rfl⟩ := Prod.mk.inj hrest
    exact ⟨rfl, rfl⟩
  · obtain ⟨⟨port₁, actions₁⟩, hregister, h⟩ := bind_eq_ok.mp h
    obtain ⟨rfl, hrest⟩ := Prod.mk.inj (Except.ok.inj h)
    obtain ⟨-, rfl⟩ := Prod.mk.inj hrest
    exact registerAnnounce_silent hregister

/-- No message over the general channel is answered. -/
theorem handleGeneralInternal_silent
    (h : port.handleGeneralInternal p s message = .ok (port', s', actions)) :
    port.Silent port' actions := by
  unfold handleGeneralInternal at h
  split at h
  · exact handleAnnounce_silent h
  · obtain ⟨⟨port₁, actions₁⟩, hport, h⟩ := bind_eq_ok.mp h
    obtain ⟨rfl, hrest⟩ := Prod.mk.inj (Except.ok.inj h)
    obtain ⟨-, rfl⟩ := Prod.mk.inj hrest
    rw [handleFollowUp_eq] at hport
    exact storeSlave_silent hport
  · obtain ⟨⟨port₁, actions₁⟩, hport, h⟩ := bind_eq_ok.mp h
    obtain ⟨rfl, hrest⟩ := Prod.mk.inj (Except.ok.inj h)
    obtain ⟨-, rfl⟩ := Prod.mk.inj hrest
    rw [handleDelayResp_eq] at hport
    exact storeSlave_silent hport
  · obtain ⟨⟨port₁, actions₁⟩, hport, h⟩ := bind_eq_ok.mp h
    obtain ⟨rfl, hrest⟩ := Prod.mk.inj (Except.ok.inj h)
    obtain ⟨-, rfl⟩ := Prod.mk.inj hrest
    rw [handlePeerDelayResponseFollowUp_eq] at hport
    exact handleAnswer_silent hport
  all_goals
    obtain ⟨rfl, hrest⟩ := Prod.mk.inj (Except.ok.inj h)
    obtain ⟨-, rfl⟩ := Prod.mk.inj hrest
    exact ⟨rfl, rfl⟩

end Silent

/-! ### Calls that send a message -/

section Sent

variable {p : Profile} {s s' : PtpInstanceState} {port port' : Port Running A R C F}
  {actions : PortActionIterator} {timestamp : Time} [ForwardedTLVProvider T]

theorem sendAnnounce_emits {provider provider' : T}
    (h : port.sendAnnounce p s provider = .ok (port', provider', actions)) :
    port.Emits p port' (.announceTimer s provider) actions := by
  unfold sendAnnounce at h
  split at h
  · rename_i hmaster
    obtain ⟨⟨message, provider₁⟩, hbuild, h⟩ := bind_eq_ok.mp h
    obtain ⟨⟨buffer, data⟩, hdata, h⟩ := bind_eq_ok.mp h
    obtain ⟨duration, -, h⟩ := bind_eq_ok.mp h
    obtain ⟨rfl, hrest⟩ := Prod.mk.inj (Except.ok.inj h)
    obtain ⟨-, rfl⟩ := Prod.mk.inj hrest
    exact .sent (.announce hmaster hbuild) hdata rfl rfl
  · obtain ⟨rfl, hrest⟩ := Prod.mk.inj (Except.ok.inj h)
    obtain ⟨-, rfl⟩ := Prod.mk.inj hrest
    exact .silent ⟨rfl, rfl⟩

theorem sendSync_emits (h : port.sendSync p s = .ok (port', actions)) :
    port.Emits p port' (.syncTimer s : PortEvent T) actions := by
  unfold sendSync at h
  split at h
  · rename_i hmaster
    obtain ⟨⟨buffer, data⟩, hdata, h⟩ := bind_eq_ok.mp h
    obtain ⟨duration, -, h⟩ := bind_eq_ok.mp h
    obtain ⟨rfl, rfl⟩ := Prod.mk.inj (Except.ok.inj h)
    exact .sent (.sync hmaster) hdata rfl rfl
  · exact .silent (silent_of_same h)

theorem handleSyncTimestamp_emits {id : UInt16}
    (h : port.handleSyncTimestamp p s id timestamp = .ok (port', actions)) :
    port.Emits p port' (.sendTimestamp s (.sync id) timestamp : PortEvent T) actions := by
  unfold handleSyncTimestamp at h
  split at h
  · rename_i hmaster
    obtain ⟨message, hmessage, h⟩ := bind_eq_ok.mp h
    obtain ⟨⟨buffer, data⟩, hdata, h⟩ := bind_eq_ok.mp h
    obtain ⟨rfl, rfl⟩ := Prod.mk.inj (Except.ok.inj h)
    exact .sent (.followUp hmaster hmessage) hdata rfl rfl
  · exact .silent (silent_of_same h)

theorem sendDelayRequest_emits [Rng R] (h : port.sendDelayRequest p s = .ok (port', actions)) :
    port.Emits p port' (.delayRequestTimer s : PortEvent T) actions := by
  unfold sendDelayRequest at h
  split at h
  · rename_i interval hmechanism
    unfold sendE2eDelayRequest at h
    split at h
    · rename_i state hstate
      obtain ⟨⟨buffer, data⟩, hdata, h⟩ := bind_eq_ok.mp h
      obtain ⟨⟨duration, rng⟩, -, h⟩ := bind_eq_ok.mp h
      obtain ⟨rfl, rfl⟩ := Prod.mk.inj (Except.ok.inj h)
      exact .sent (.delayReq hstate hmechanism) hdata rfl rfl
    · exact .silent (silent_of_same h)
  · rename_i interval hmechanism
    obtain ⟨⟨buffer, data⟩, hdata, h⟩ := bind_eq_ok.mp h
    obtain ⟨⟨duration, rng⟩, -, h⟩ := bind_eq_ok.mp h
    obtain ⟨rfl, rfl⟩ := Prod.mk.inj (Except.ok.inj h)
    exact .sent (.pDelayReq hmechanism) hdata rfl rfl

theorem handlePdelayResponseTimestamp_emits {id : UInt16} {requestor : PortIdentity}
    (h : port.handlePdelayResponseTimestamp p s id requestor timestamp = .ok (port', actions)) :
    port.Emits p port' (.sendTimestamp s (.pDelayResp id requestor) timestamp : PortEvent T)
      actions := by
  obtain ⟨message, hmessage, h⟩ := bind_eq_ok.mp h
  obtain ⟨⟨buffer, data⟩, hdata, h⟩ := bind_eq_ok.mp h
  obtain ⟨rfl, rfl⟩ := Prod.mk.inj (Except.ok.inj h)
  exact .sent (.pDelayRespFollowUp hmessage) hdata rfl rfl

theorem handleSendTimestamp_emits [Clock C] {context : TimestampContext}
    (h : port.handleSendTimestamp p s context timestamp = .ok (port', actions)) :
    port.Emits p port' (.sendTimestamp s context timestamp : PortEvent T) actions := by
  cases context with
  | sync id => exact handleSyncTimestamp_emits h
  | delayReq id =>
    replace h : port.handleDelayTimestamp p id timestamp = .ok (port', actions) := h
    rw [handleDelayTimestamp_eq] at h
    exact .silent (storeSlave_silent h)
  | pDelayReq id => exact .silent (handlePdelayTimestamp_silent h)
  | pDelayResp id requestor => exact handlePdelayResponseTimestamp_emits h

/-- Of the received messages only the requests are answered. -/
theorem handleEventReceive_emits [AcceptableMasterList A] [Clock C] [Rng R] {data : List UInt8}
    (h : port.handleEventReceive p s data timestamp = .ok (port', s', actions)) :
    port.Emits p port' (.eventReceive s data timestamp : PortEvent T) actions := by
  rcases handleEventReceive_cases h with ⟨-, rfl, -, rfl⟩ | ⟨request, hparse, h⟩
  · exact .silent ⟨rfl, rfl⟩
  unfold handleEventMessage at h
  split at h
  · obtain ⟨⟨port₁, actions₁⟩, hport, h⟩ := bind_eq_ok.mp h
    obtain ⟨rfl, hrest⟩ := Prod.mk.inj (Except.ok.inj h)
    obtain ⟨-, rfl⟩ := Prod.mk.inj hrest
    rw [handleSync_eq] at hport
    exact .silent (storeSlave_silent hport)
  · rename_i body hbody
    obtain ⟨⟨port₁, actions₁⟩, hport, h⟩ := bind_eq_ok.mp h
    obtain ⟨rfl, hrest⟩ := Prod.mk.inj (Except.ok.inj h)
    obtain ⟨-, rfl⟩ := Prod.mk.inj hrest
    unfold handleDelayReq at hport
    split at hport
    · rename_i hmaster
      obtain ⟨message, hmessage, hport⟩ := bind_eq_ok.mp hport
      obtain ⟨⟨buffer, data⟩, hdata, hport⟩ := bind_eq_ok.mp hport
      obtain ⟨rfl, rfl⟩ := Prod.mk.inj (Except.ok.inj hport)
      exact .sent (.delayResp hmaster hparse hbody hmessage) hdata rfl rfl
    · exact .silent (silent_of_same hport)
  · rename_i body hbody
    obtain ⟨⟨port₁, actions₁⟩, hport, h⟩ := bind_eq_ok.mp h
    obtain ⟨rfl, hrest⟩ := Prod.mk.inj (Except.ok.inj h)
    obtain ⟨-, rfl⟩ := Prod.mk.inj hrest
    obtain ⟨message, hmessage, hport⟩ := bind_eq_ok.mp hport
    obtain ⟨⟨buffer, data⟩, hdata, hport⟩ := bind_eq_ok.mp hport
    obtain ⟨rfl, rfl⟩ := Prod.mk.inj (Except.ok.inj hport)
    exact .sent (.pDelayResp hparse hbody hmessage) hdata rfl rfl
  · obtain ⟨⟨port₁, actions₁⟩, hport, h⟩ := bind_eq_ok.mp h
    obtain ⟨rfl, hrest⟩ := Prod.mk.inj (Except.ok.inj h)
    obtain ⟨-, rfl⟩ := Prod.mk.inj hrest
    rw [handlePeerDelayResponse_eq] at hport
    exact .silent (handleAnswer_silent hport)
  · exact .silent (handleGeneralInternal_silent h)

end Sent

/-! ### The best master clock algorithm -/

section InBmca

variable {p : Profile} [Clock C] [Rng R] {port port' : Port InBmca A R C F}

/-- A recommendation uses no id, and asks for timers only. -/
structure SilentDecision (port port' : Port InBmca A R C F) : Prop where
  pending : port.lifecycle.pendingAction.sends = [] → port'.lifecycle.pendingAction.sends = []
  seqIds : port'.seqIds = port.seqIds

omit [Clock C] [Rng R] in
theorem silentDecision_refl (port : Port InBmca A R C F) : port.SilentDecision port := ⟨id, rfl⟩

omit [Rng R] in
theorem silentDecision_forced (port : Port InBmca A R C F) (state : PortState) :
    port.SilentDecision (port.setForcedPortState state) := by
  refine ⟨fun h => ?_, seqIds_setForcedPortState _ _⟩
  unfold setForcedPortState
  split <;> exact h

theorem recommendSlave_silent {announceMessage : AnnounceMessage}
    (h : port.recommendSlave p announceMessage = .ok port') : port.SilentDecision port' := by
  obtain ⟨_, -, h⟩ := bind_eq_ok.mp h
  dsimp only at h
  split at h
  · obtain ⟨⟨duration, rng⟩, -, h⟩ := bind_eq_ok.mp h
    obtain rfl := Except.ok.inj h
    exact ⟨fun _ => rfl, seqIds_setForcedPortState _ _⟩
  · obtain rfl := Except.ok.inj h
    exact silentDecision_refl _

theorem recommendMaster_silent {slaveOnly : Bool} (h : port.recommendMaster slaveOnly = .ok port') :
    port.SilentDecision port' := by
  unfold recommendMaster at h
  split at h
  · split at h
    · obtain rfl := Except.ok.inj h
      exact silentDecision_refl _
    · obtain rfl := Except.ok.inj h
      exact silentDecision_refl _
    all_goals
      obtain ⟨⟨duration, rng⟩, -, h⟩ := bind_eq_ok.mp h
      obtain rfl := Except.ok.inj h
      exact ⟨fun _ => rfl, seqIds_setForcedPortState _ _⟩
  · split at h
    · split at h
      · obtain rfl := Except.ok.inj h
        exact silentDecision_refl _
      · obtain rfl := Except.ok.inj h
        exact silentDecision_forced _ _
    · split at h
      case h_4 | h_5 =>
        obtain rfl := Except.ok.inj h
        exact silentDecision_refl _
      all_goals
        obtain rfl := Except.ok.inj h
        exact ⟨fun _ => rfl, seqIds_setForcedPortState _ _⟩

omit [Rng R] in
theorem recommendPassive_silent (port : Port InBmca A R C F) :
    port.SilentDecision port.recommendPassive := by
  unfold recommendPassive
  split
  case h_4 | h_5 => exact silentDecision_refl _
  all_goals exact silentDecision_forced _ _

theorem setRecommendedState_silent {state : RecommendedState} {s s' : PtpInstanceState}
    (h : port.setRecommendedState p s state = .ok (port', s')) : port.SilentDecision port' := by
  obtain ⟨port₁, hport, h⟩ := bind_eq_ok.mp h
  cases state with
  | m1 _ | m2 _ =>
    obtain ⟨_, -, h⟩ := bind_eq_ok.mp h
    obtain ⟨rfl, -⟩ := Prod.mk.inj (Except.ok.inj h)
    exact recommendMaster_silent hport
  | m3 _ =>
    obtain ⟨rfl, -⟩ := Prod.mk.inj (Except.ok.inj h)
    exact recommendMaster_silent hport
  | p1 _ | p2 _ =>
    obtain ⟨rfl, -⟩ := Prod.mk.inj (Except.ok.inj h)
    obtain rfl := Except.ok.inj hport
    exact recommendPassive_silent port
  | s1 message =>
    obtain ⟨_, -, h⟩ := bind_eq_ok.mp h
    obtain ⟨s₁, -, h⟩ := bind_eq_ok.mp h
    obtain ⟨rfl, -⟩ := Prod.mk.inj (Except.ok.inj h)
    have hdecision := recommendSlave_silent hport
    exact ⟨hdecision.pending, hdecision.seqIds⟩

end InBmca

end Port

/-! ### The steps of a port -/

namespace Slot

variable {A R C F T : Type} [Filter F]

def seqIds : Slot A R C F → SeqIds
  | .running port => port.seqIds
  | .inBmca port => port.seqIds

/-- What a step sends: nothing, or one message of a running port. -/
inductive Emits [ForwardedTLVProvider T] (p : Profile) (slot : Slot A R C F) (e : PortEvent T)
    (slot' : Slot A R C F) (actions : PortActionIterator) : Prop
  | silent : actions.sends = [] → slot'.seqIds = slot.seqIds → Emits p slot e slot' actions
  | sent {t : MessageType} {port : Port Running A R C F} {o : Outgoing} {buffer : PacketBuffer}
      {data : List UInt8} : slot = .running port → port.Sends p t e o →
      port.packetBuffer.serialize p o.message = .ok (buffer, data) →
      actions.sends = [o.action data] → slot'.seqIds = slot.seqIds.advance t →
      Emits p slot e slot' actions

variable [AcceptableMasterList A] [Clock C] [Rng R] [ForwardedTLVProvider T] {p : Profile}
  {slot slot' : Slot A R C F} {e : PortEvent T} {actions : PortActionIterator}

omit [AcceptableMasterList A] [Clock C] [Rng R] in
theorem emits_of_port {port port' : Port Running A R C F} (h : port.Emits p port' e actions) :
    Emits p (.running port) e (.running port') actions := by
  cases h with
  | silent h => exact .silent h.sends h.seqIds
  | sent hsends hdata hactions hseqIds => exact .sent rfl hsends hdata hactions hseqIds

/-- **What a step sends.**  The end of the algorithm returns what a recommendation asked for, which
sends nothing. -/
theorem step_emits (h : slot.step p e = .ok (slot', actions)) (hpending : slot.pendingAction.sends = []) :
    Emits p slot e slot' actions ∧ slot'.pendingAction.sends = [] := by
  unfold Slot.step at h
  split at h
  · obtain ⟨port', s', rfl, hport⟩ := step_eventReceive (T := T) h
    exact ⟨emits_of_port (Port.handleEventReceive_emits hport), rfl⟩
  · obtain ⟨port', s', rfl, hport⟩ := step_generalReceive (T := T) h
    refine ⟨emits_of_port (.silent ?_), rfl⟩
    rcases Port.handleGeneralReceive_cases hport with ⟨-, rfl, -, rfl⟩ | ⟨message, -, hport⟩
    · exact ⟨rfl, rfl⟩
    · exact Port.handleGeneralInternal_silent hport
  · obtain ⟨⟨port, actions₁⟩, hport, h⟩ := bind_eq_ok.mp h
    obtain ⟨rfl, rfl⟩ := Prod.mk.inj (Except.ok.inj h)
    exact ⟨emits_of_port (Port.handleSendTimestamp_emits (orPanic_eq_ok.mp hport)), rfl⟩
  · obtain ⟨⟨port, provider, actions₁⟩, hport, h⟩ := bind_eq_ok.mp h
    obtain ⟨rfl, rfl⟩ := Prod.mk.inj (Except.ok.inj h)
    exact ⟨emits_of_port (Port.sendAnnounce_emits (orPanic_eq_ok.mp hport)), rfl⟩
  · obtain ⟨⟨port, actions₁⟩, hport, h⟩ := bind_eq_ok.mp h
    obtain ⟨rfl, rfl⟩ := Prod.mk.inj (Except.ok.inj h)
    exact ⟨emits_of_port (Port.sendSync_emits (orPanic_eq_ok.mp hport)), rfl⟩
  · obtain ⟨⟨port, actions₁⟩, hport, h⟩ := bind_eq_ok.mp h
    obtain ⟨rfl, rfl⟩ := Prod.mk.inj (Except.ok.inj h)
    exact ⟨emits_of_port (Port.sendDelayRequest_emits (orPanic_eq_ok.mp hport)), rfl⟩
  · obtain ⟨⟨port, actions₁⟩, hport, h⟩ := bind_eq_ok.mp h
    obtain ⟨rfl, rfl⟩ := Prod.mk.inj (Except.ok.inj h)
    exact ⟨emits_of_port (.silent (Port.handleAnnounceReceiptTimer_silent (orPanic_eq_ok.mp hport))),
      rfl⟩
  · obtain ⟨rfl, rfl⟩ := Prod.mk.inj (Except.ok.inj h)
    exact ⟨.silent (PortActionIterator.sends_fromFilter _) rfl, rfl⟩
  · obtain ⟨rfl, rfl⟩ := Prod.mk.inj (Except.ok.inj h)
    exact ⟨.silent rfl rfl, rfl⟩
  · obtain ⟨rfl, rfl⟩ := Prod.mk.inj (Except.ok.inj h)
    exact ⟨.silent hpending rfl, rfl⟩
  · obtain ⟨port, hport, h⟩ := bind_eq_ok.mp h
    obtain ⟨rfl, rfl⟩ := Prod.mk.inj (Except.ok.inj h)
    obtain ⟨⟨best, bmca⟩, -, hport⟩ := bind_eq_ok.mp (orPanic_eq_ok.mp hport)
    obtain rfl := Except.ok.inj hport
    exact ⟨.silent rfl rfl, hpending⟩
  · obtain ⟨⟨port, s⟩, hport, h⟩ := bind_eq_ok.mp h
    obtain ⟨rfl, rfl⟩ := Prod.mk.inj (Except.ok.inj h)
    have hdecision := Port.setRecommendedState_silent (orPanic_eq_ok.mp hport)
    exact ⟨.silent rfl hdecision.seqIds, hdecision.pending hpending⟩
  · obtain ⟨port, hport, h⟩ := bind_eq_ok.mp h
    obtain ⟨rfl, rfl⟩ := Prod.mk.inj (Except.ok.inj h)
    obtain ⟨disable, -, hport⟩ := bind_eq_ok.mp (orPanic_eq_ok.mp hport)
    obtain ⟨bmca, -, hport⟩ := bind_eq_ok.mp hport
    obtain rfl := Except.ok.inj hport
    exact ⟨.silent rfl rfl, hpending⟩
  · cases h

omit [AcceptableMasterList A] [Clock C] in
/-- A new port sends nothing before it runs, and starts all its ids at zero. -/
theorem Initial.pendingAction {slot : Slot A R C F} (h : slot.Initial p) :
    slot.pendingAction.sends = [] ∧ slot.seqIds = .new := by
  obtain ⟨config, filterConfig, clock, identity, rng, port, hnew, rfl⟩ := h
  obtain ⟨⟨duration, rng'⟩, -, hnew⟩ := bind_eq_ok.mp hnew
  obtain ⟨interval, -, hnew⟩ := bind_eq_ok.mp hnew
  obtain rfl := Except.ok.inj hnew
  exact ⟨rfl, rfl⟩

/-- **What a step of a reachable port sends.** -/
theorem Reachable.emits (hr : slot.Reachable T p) (h : slot.step p e = .ok (slot', actions)) :
    Emits p slot e slot' actions := by
  have hpending : slot.pendingAction.sends = [] :=
    Machine.Reachable.invariant (P := fun slot : Slot A R C F => slot.pendingAction.sends = [])
      (fun slot hinit => hinit.pendingAction.1)
      (fun slot e slot' actions hslot hstep => (step_emits hstep hslot).2) hr
  exact (step_emits h hpending).1

end Slot

end Statime
