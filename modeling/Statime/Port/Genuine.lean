import Statime.Port.Sent

/-!
# The packets of a port

What can be said about every packet that a port sends in a run.

* `Outgoing.Genuine`: what all messages of a port have in common.
* `Slot.packets_genuine`: every packet reads back as a message with it.
* `Slot.sequence_ids`: the ids of each type of message count up from zero.
-/

namespace Statime

open Rust Machine

/-! ### What the messages have in common -/

/-- The state of the instance that a call finds, and the time that it brings. -/
def PortEvent.state {T : Type} : PortEvent T → Option PtpInstanceState
  | .eventReceive s _ _ | .generalReceive s _ | .sendTimestamp s _ _ | .announceTimer s _
  | .syncTimer s | .delayRequestTimer s | .announceReceiptTimer s | .recommend s _ => some s
  | .filterUpdateTimer | .startBmca | .endBmca | .calculateBest | .stepAge _ => none

def PortEvent.time {T : Type} : PortEvent T → Option Time
  | .eventReceive _ _ t | .sendTimestamp _ _ t => some t
  | _ => none

/-- What a state and a clock bring to a call: a `SdoId` has twelve bits, and the time goes into a
timestamp. -/
structure PortEvent.InRange {T : Type} (e : PortEvent T) : Prop where
  sdoId : ∀ s, e.state = some s → s.defaultDs.sdoId.InRange
  time : ∀ t, e.time = some t → t.InWireRange

/-- The messages over the event channel. -/
def MessageType.isEvent : MessageType → Bool
  | .sync | .delayReq | .pDelayReq | .pDelayResp => true
  | _ => false

/-- The messages of the peer delay mechanism, which do not leave the link. -/
def MessageType.isPeerDelay : MessageType → Bool
  | .pDelayReq | .pDelayResp | .pDelayRespFollowUp => true
  | _ => false

/-- The transmit timestamp of a message is asked for under its own id. -/
def TimestampContext.matches (context : TimestampContext) (type : MessageType) (id : UInt16) : Prop :=
  match context with
  | .sync id' => type = .sync ∧ id' = id
  | .delayReq id' => type = .delayReq ∧ id' = id
  | .pDelayReq id' => type = .pDelayReq ∧ id' = id
  | .pDelayResp id' _ => type = .pDelayResp ∧ id' = id

/-- **What all messages of a port have in common**: its own identity and domain, the channel and the
scope of their type, and a context for the timestamp of an event message. -/
structure Outgoing.Genuine (o : Outgoing) (own : PortIdentity) (defaultDs : InternalDefaultDS) :
    Prop where
  source : o.message.header.sourcePortIdentity = own
  passes : o.message.header.Passes defaultDs
  event : o.context.isSome = o.type.isEvent
  linkLocal : o.linkLocal = o.type.isPeerDelay
  context : ∀ context, o.context = some context →
    context.matches o.type o.message.header.sequenceId

/-! ### Announce messages on the wire -/

namespace Message

/-- The bytes behind the body were accepted. -/
theorem accepted_of_deserialize {b : List UInt8} {m : Message} (h : deserialize b = .ok m) :
    TlvSet.Accepted ((slice b 0 (ofBE (slice b 2 4))).drop (Header.wireSize + m.body.wireSize)) := by
  obtain ⟨d, hd, h⟩ := bind_eq_ok.mp h
  obtain ⟨hlen, -, -, hlength⟩ := Header.deserializeHeader_eq_ok hd
  have hfield : d.messageLength.toNat = ofBE (slice b 2 4) := by
    have hlt := ofBE_lt (slice b 2 4)
    rw [length_slice_of_le (by omega)] at hlt
    rw [hlength]
    exact UInt16.toNat_ofNat_of_lt' hlt
  split at h
  · cases h
  · obtain ⟨content, hcontent, h⟩ := bind_eq_ok.mp h
    obtain ⟨body, -, h⟩ := bind_eq_ok.mp h
    obtain ⟨tail, htail, h⟩ := bind_eq_ok.mp h
    obtain ⟨suffix, hsuffix, h⟩ := bind_eq_ok.mp h
    obtain rfl := Except.ok.inj h
    obtain ⟨-, rfl⟩ := getRange_eq_some.mp (okOr_eq_ok.mp hcontent)
    rw [okOr_eq_ok, getFrom] at htail
    split at htail
    · obtain rfl := Option.some.inj htail
      refine ⟨suffix, ?_⟩
      rw [← hsuffix, ← hfield, slice_zero, ← List.drop_drop, Header.wireSize, List.drop_take]
      rfl
    · cases htail

end Message

theorem MessageBody.wireSize_of_announce {body : MessageBody} (h : body.contentType = .announce) :
    body.wireSize = 30 := by
  cases body <;> first | rfl | cases h

/-- **An announce message that is read** is the one that was written, with what its codes stand for. -/
theorem PacketBuffer.announce_of_deserialize {p : Profile} {buffer buffer' : PacketBuffer}
    {message message' : Message} {announce : AnnounceMessage} {data : List UInt8}
    (h : buffer.serialize p message = .ok (buffer', data))
    (hread : Message.deserialize data = .ok message') (hbody : message.body = .announce announce)
    (hheader : message.header.InRange) (hsame : announce.header = message.header)
    (ht : announce.originTimestamp.InRange) :
    ∃ code source, announce.grandmasterClockQuality.clockAccuracy.toPrimitive p = .ok code ∧
      announce.timeSource.toPrimitive p = .ok source ∧
      message' = { message with body := .announce (announce.decoded code source) } := by
  obtain ⟨⟨out, n⟩, hout⟩ := serialize_eq_ok h
  obtain ⟨header, body, -, -, -, hfit, hn⟩ := Message.serialize_eq_ok hout
  obtain ⟨buffer₁, hbuffer₁⟩ := serialize_of_ok hout (by
    rw [Message.length_serialize hout, hn]
    exact hfit)
  obtain ⟨-, rfl⟩ := Prod.mk.inj (Except.ok.inj (hbuffer₁.symm.trans h))
  rw [buffer.length_eq] at hfit
  have hmax : maxDataLen = 1024 := rfl
  -- the length field says the size of the packet, and the type field that it is an announce message
  have hlength : ofBE (slice (out.take n) 2 4) = n := by
    obtain ⟨header, rest, hheaderBytes, hlen, hdata⟩ := serialize_header h
    obtain ⟨header', hheader', -, -, -, hfield⟩ := Header.serializeHeader_spec hheader
      message.body.contentType (message.body.wireSize + message.suffix.bytes.length)
      (show (slice buffer.bytes 0 34).length = 34 by rw [← length_fill _ _ _ hheaderBytes, hlen])
    obtain rfl := Except.ok.inj (hheaderBytes.symm.trans hheader')
    have hsize : message.size = 34 + message.body.wireSize + message.suffix.bytes.length := rfl
    rw [hdata, slice_append_left (by omega), hfield]
    omega
  have htype : message'.body.wireSize = message.body.wireSize := by
    have hsent := packetType_serialize h
    rw [(packetType_deserialize hread).1, hbody] at hsent
    rw [hbody]
    exact MessageBody.wireSize_of_announce (Option.some.inj hsent)
  have haccepted : TlvSet.Accepted message.suffix.bytes := by
    have hback := Message.accepted_of_deserialize hread
    rwa [hlength, slice_zero, List.take_take, min_self, htype, Message.suffix_of_serialize hout]
      at hback
  obtain ⟨code, source, hcode, hsource, hback⟩ :=
    serialize_announce_reads hbody hheader hsame ht haccepted (by omega) h
  exact ⟨code, source, hcode, hsource, Except.ok.inj (hread.symm.trans hback)⟩

/-! ### What a port sends -/

namespace Port

variable {A R C F T : Type} [Filter F] [ForwardedTLVProvider T] {p : Profile}
  {port : Port Running A R C F} {t : MessageType} {e : PortEvent T} {o : Outgoing}

/-- A request that a port reads is of the version of the port. -/
theorem passes_of_parse {s : PtpInstanceState} {data : List UInt8} {message : Message}
    (h : parseAndFilter s data = .ok (some message)) : message.header.Passes s.defaultDs := by
  obtain ⟨hmessage, hsdo, hdomain⟩ := parseAndFilter_eq_some h
  refine ⟨?_, hsdo, hdomain⟩
  rw [(packetType_deserialize hmessage).2]
  unfold parseAndFilter at h
  split at h
  · cases h
  · rename_i hcompatible
    rw [Bool.not_eq_false, isCompatible, Bool.and_eq_true, beq_iff_eq] at hcompatible
    exact hcompatible.2

/-- **Every message is genuine.** -/
theorem Sends.genuine (h : port.Sends p t e o) :
    ∃ s, e.state = some s ∧ o.Genuine port.portIdentity s.defaultDs := by
  cases h with
  | @announce s _ _ _ _ hbuild =>
    obtain ⟨suffix, rfl⟩ := buildAnnounce_eq hbuild
    exact ⟨s, rfl, rfl, ⟨rfl, rfl, rfl⟩, rfl, rfl, fun context hcontext => by cases hcontext⟩
  | @sync s | @delayReq s | @pDelayReq s =>
    refine ⟨s, rfl, rfl, ⟨rfl, rfl, rfl⟩, rfl, rfl, fun context hcontext => ?_⟩
    obtain rfl := Option.some.inj hcontext
    exact ⟨rfl, rfl⟩
  | @followUp s _ _ _ _ hmessage =>
    obtain ⟨ts, -, hmessage⟩ := bind_eq_ok.mp hmessage
    obtain rfl := Except.ok.inj hmessage
    exact ⟨s, rfl, rfl, ⟨rfl, rfl, rfl⟩, rfl, rfl, fun context hcontext => by cases hcontext⟩
  | @delayResp s _ _ _ _ _ _ hparse _ hmessage =>
    have hpasses := passes_of_parse hparse
    obtain ⟨correction, -, hmessage⟩ := bind_eq_ok.mp hmessage
    obtain ⟨ts, -, hmessage⟩ := bind_eq_ok.mp hmessage
    obtain rfl := Except.ok.inj hmessage
    exact ⟨s, rfl, rfl, ⟨hpasses.version, hpasses.sdoId, hpasses.domainNumber⟩, rfl, rfl,
      fun context hcontext => by cases hcontext⟩
  | @pDelayResp s _ _ _ _ _ _ _ hmessage =>
    obtain ⟨ts, -, hmessage⟩ := bind_eq_ok.mp hmessage
    obtain rfl := Except.ok.inj hmessage
    refine ⟨s, rfl, rfl, ⟨rfl, rfl, rfl⟩, rfl, rfl, fun context hcontext => ?_⟩
    obtain rfl := Option.some.inj hcontext
    exact ⟨rfl, rfl⟩
  | @pDelayRespFollowUp s _ _ _ _ hmessage =>
    obtain ⟨ts, -, hmessage⟩ := bind_eq_ok.mp hmessage
    obtain rfl := Except.ok.inj hmessage
    exact ⟨s, rfl, rfl, ⟨rfl, rfl, rfl⟩, rfl, rfl, fun context hcontext => by cases hcontext⟩

/-- **Every message but an announce message survives the wire.**  An announce message may have codes
that the wire format does not tell apart. -/
theorem Sends.inRange (h : port.Sends p t e o) (he : e.InRange) (ht : t ≠ .announce) :
    o.message.InRange := by
  cases h with
  | announce => exact absurd rfl ht
  | @sync s | @delayReq s | @pDelayReq s =>
    have hheader := baseHeader_inRange (he.sdoId s rfl) port.portIdentity 0 port.config.minorPtpVersion
    refine Message.inRange_of_noSuffix ⟨hheader.sdoId, hheader.version⟩ ?_ (by decide)
    exact (by decide : (0 : Nat) < 2 ^ 48)
  | @followUp s id t _ _ hmessage =>
    obtain ⟨message, ts, -, hmessage', hrange, -⟩ := Message.followUp_spec p (he.sdoId s rfl)
      port.portIdentity id port.config.minorPtpVersion (he.time t rfl)
    obtain rfl := Except.ok.inj (hmessage.symm.trans hmessage')
    exact hrange
  | @delayResp s _ t request _ _ _ hparse _ hmessage =>
    have hrequest := (Message.deserialize_spec (parseAndFilter_eq_some hparse).1).1.header
    obtain ⟨correction, -, hmessage⟩ := bind_eq_ok.mp hmessage
    obtain ⟨ts, hts, hmessage⟩ := bind_eq_ok.mp hmessage
    obtain rfl := Except.ok.inj hmessage
    obtain ⟨ts', hts', hrange, -⟩ := WireTimestamp.ofTime_spec p (he.time t rfl)
    obtain rfl := Except.ok.inj (hts.symm.trans hts')
    exact Message.inRange_of_noSuffix ⟨hrequest.sdoId, hrequest.version⟩ hrange
      (by decide : 20 ≤ 1000)
  | @pDelayResp s _ t request _ _ _ _ hmessage =>
    obtain ⟨message, ts, -, hmessage', hrange, -⟩ := Message.pdelayResp_spec p (he.sdoId s rfl)
      port.portIdentity request.header port.config.minorPtpVersion (he.time t rfl)
    obtain rfl := Except.ok.inj (hmessage.symm.trans hmessage')
    exact hrange
  | @pDelayRespFollowUp s id requestor t _ hmessage =>
    obtain ⟨message, ts, -, hmessage', hrange, -⟩ := Message.pdelayRespFollowUp_spec p
      (he.sdoId s rfl) port.portIdentity requestor id port.config.minorPtpVersion (he.time t rfl)
    obtain rfl := Except.ok.inj (hmessage.symm.trans hmessage')
    exact hrange

/-- **And reads back**, in any domain that it is for. -/
theorem Sends.reads_back {buffer : PacketBuffer} {data : List UInt8} (h : port.Sends p t e o)
    (he : e.InRange) (ht : t ≠ .announce)
    (hdata : port.packetBuffer.serialize p o.message = .ok (buffer, data)) :
    Message.deserialize data = .ok o.message := by
  obtain ⟨⟨out, n⟩, hout⟩ := PacketBuffer.serialize_eq_ok hdata
  have hfit := Message.serialize_size hout
  obtain ⟨-, -, -, -, -, hroom, -⟩ := Message.serialize_eq_ok hout
  obtain ⟨buffer₁, hbuffer₁⟩ := PacketBuffer.serialize_of_ok hout (by
    rw [Message.length_serialize hout, hfit]
    exact hroom)
  obtain ⟨-, rfl⟩ := Prod.mk.inj (Except.ok.inj (hbuffer₁.symm.trans hdata))
  exact (Message.reads_back p (h.inRange he ht)).2 out n hout

end Port

/-! ### Runs of a port -/

theorem PortActionIterator.packets_eq (i : PortActionIterator) :
    i.packets = i.sends.filterMap PortAction.packet := by
  rw [packets, sends, List.filterMap_filter]
  refine List.filterMap_congr fun a _ => ?_
  cases h : a.packet <;> simp

/-- The ids in the packets of this type, in the order in which they were sent. -/
def sentIds (t : MessageType) (os : List PortActionIterator) : List UInt16 :=
  ((os.flatMap (·.packets)).filter fun data => packetType data = some t).map
    fun data => (Header.ofBytes data).sequenceId

theorem sentIds_cons (t : MessageType) (o : PortActionIterator) (os : List PortActionIterator) :
    sentIds t (o :: os) = sentIds t [o] ++ sentIds t os := by
  simp only [sentIds, List.flatMap_cons, List.flatMap_nil, List.append_nil, List.filter_append,
    List.map_append]

theorem sentIds_of_silent (t : MessageType) {o : PortActionIterator} (h : o.sends = []) :
    sentIds t [o] = [] := by
  simp [sentIds, PortActionIterator.packets_eq, h]

/-- Ids that count up, with one more in front. -/
theorem count_succ (id : UInt16) (n : Nat) :
    (List.range (n + 1)).map (fun k => id + UInt16.ofNat k) =
      id :: (List.range n).map fun k => id + 1 + UInt16.ofNat k := by
  rw [List.range_succ_eq_map, List.map_cons, List.map_map]
  refine congrArg₂ List.cons (by simp) (List.map_congr_left fun k _ => ?_)
  show id + UInt16.ofNat (k + 1) = _
  rw [UInt16.ofNat_add, UInt16.add_assoc, UInt16.add_comm 1]
  rfl

/-- A message of a type with a generator has its id. -/
theorem Port.Sends.sequenceId {A R C F T : Type} [Filter F] [ForwardedTLVProvider T] {p : Profile}
    {port : Port Running A R C F} {t : MessageType} {e : PortEvent T} {o : Outgoing}
    {g : SequenceIdGenerator} (h : port.Sends p t e o) (hg : port.seqIds.generator t = some g) :
    o.message.header.sequenceId = g.current := by
  cases h with
  | announce _ hbuild =>
    obtain ⟨suffix, rfl⟩ := buildAnnounce_eq hbuild
    rw [← Option.some.inj hg]
    rfl
  | sync | delayReq | pDelayReq =>
    rw [← Option.some.inj hg]
    rfl
  | followUp | delayResp | pDelayResp | pDelayRespFollowUp => cases hg

namespace Slot

variable {A R C F T : Type} [Filter F] [AcceptableMasterList A] [Clock C] [Rng R]
  [ForwardedTLVProvider T] {p : Profile} {slot slot' : Slot A R C F} {e : PortEvent T}
  {actions : PortActionIterator}

/-- **Every packet is a genuine message**: a call sends at most one, and a port of the same domain reads
what was sent, unless it is an announce message. -/
theorem packets_genuine (hr : slot.Reachable T p) (h : slot.step p e = .ok (slot', actions))
    (he : e.InRange) : actions.sends = [] ∨
      ∃ s o data, e.state = some s ∧ actions.sends = [Outgoing.action o data] ∧
        o.Genuine slot.core.portIdentity s.defaultDs ∧ packetType data = some o.type ∧
        (o.type ≠ .announce → ∀ s' : PtpInstanceState, s'.defaultDs.sdoId = s.defaultDs.sdoId →
          s'.defaultDs.domainNumber = s.defaultDs.domainNumber →
          Port.parseAndFilter s' data = .ok (some o.message)) := by
  cases hr.emits h with
  | silent hsends => exact Or.inl hsends
  | @sent t port o buffer data hslot hsends hdata hactions =>
    obtain ⟨s, hs, hgenuine⟩ := hsends.genuine
    subst hslot
    refine Or.inr ⟨s, o, data, hs, hactions, hgenuine, packetType_serialize hdata, ?_⟩
    intro htype s' hsdo hdomain
    rw [hsends.type_eq] at htype
    apply Port.parseAndFilter_of_passes (hsends.reads_back he htype hdata)
    exact ⟨hgenuine.passes.version, hgenuine.passes.sdoId.trans hsdo.symm,
      hgenuine.passes.domainNumber.trans hdomain.symm⟩

/-- One step goes on with the count of each type. -/
theorem sentIds_step {t : MessageType} {g : SequenceIdGenerator}
    (h : slot.step p e = .ok (slot', actions)) (hpending : slot.pendingAction.sends = [])
    (hg : slot.seqIds.generator t = some g) :
    (sentIds t [actions] = [] ∧ slot'.seqIds.generator t = some g) ∨
      (sentIds t [actions] = [g.current] ∧ slot'.seqIds.generator t = some g.generate.2) := by
  cases (step_emits h hpending).1 with
  | silent hsends hids => exact Or.inl ⟨sentIds_of_silent t hsends, by rw [hids, hg]⟩
  | @sent t' port o buffer data hslot hsends hdata hactions hids =>
    subst hslot
    obtain ⟨htype, -, -, hid⟩ := packet_header hdata
    rw [← Outgoing.type, hsends.type_eq] at htype
    have hpackets : actions.packets = [data] := by
      rw [PortActionIterator.packets_eq, hactions]
      simp
    by_cases hsame : t' = t
    · subst hsame
      right
      have hid' : (Header.ofBytes data).sequenceId = g.current := hid.trans (hsends.sequenceId hg)
      refine ⟨?_, ?_⟩
      · simp [sentIds, hpackets, htype, hid']
      · rw [hids]
        exact SeqIds.generator_advance_same hg
    · left
      refine ⟨?_, ?_⟩
      · simp [sentIds, hpackets, htype, hsame]
      · rw [hids, SeqIds.generator_advance_other (Ne.symm hsame), hg]

/-- **A run goes on with the count.** -/
theorem sentIds_run {t : MessageType} : ∀ (es : List (PortEvent T)) {slot slot' : Slot A R C F}
    {g : SequenceIdGenerator} {os : List PortActionIterator},
    Machine.run (Slot.step p) slot es = .ok (slot', os) → slot.pendingAction.sends = [] →
    slot.seqIds.generator t = some g →
    ∃ n, sentIds t os = (List.range n).map fun k => g.current + UInt16.ofNat k := by
  intro es
  induction es with
  | nil =>
    intro slot slot' g os hrun _ _
    obtain ⟨-, rfl⟩ := Prod.mk.inj (Except.ok.inj hrun)
    exact ⟨0, rfl⟩
  | cons e es ih =>
    intro slot slot' g os hrun hpending hg
    obtain ⟨slot₁, actions, os', hstep, hrest, rfl⟩ := run_cons_eq_ok.mp hrun
    have hpending₁ := (step_emits hstep hpending).2
    rw [sentIds_cons]
    rcases sentIds_step hstep hpending hg with ⟨hnone, hg₁⟩ | ⟨hone, hg₁⟩
    · obtain ⟨n, hn⟩ := ih hrest hpending₁ hg₁
      exact ⟨n, by rw [hnone, hn, List.nil_append]⟩
    · obtain ⟨n, hn⟩ := ih hrest hpending₁ hg₁
      exact ⟨n + 1, by rw [hone, hn, count_succ]; rfl⟩

/-- **Sequence ids over whole runs.**  Whatever a new port receives: the ids of its announce messages,
sync messages, delay requests and peer delay requests each count up from zero, in the order in which
they are sent and without a gap. -/
theorem sequence_ids {es : List (PortEvent T)} {os : List PortActionIterator} {t : MessageType}
    (hinit : slot.Initial p) (hrun : Machine.run (Slot.step p) slot es = .ok (slot', os))
    (ht : t ∈ [MessageType.announce, .sync, .delayReq, .pDelayReq]) :
    ∃ n, sentIds t os = (List.range n).map UInt16.ofNat := by
  obtain ⟨hpending, hids⟩ := hinit.pendingAction
  have hg : slot.seqIds.generator t = some ⟨0⟩ := by
    rw [hids]
    revert t
    decide
  obtain ⟨n, hn⟩ := sentIds_run es hrun hpending hg
  exact ⟨n, by simpa using hn⟩

/-- A port becomes a master and sends two sync messages, with an announce message between them. -/
def masterSends : List (PortEvent NoForwardedTLVs) :=
  let s := (testSystem testInstanceConfig).state
  [.endBmca, .announceReceiptTimer s, .syncTimer s, .announceTimer s ⟨⟩, .syncTimer s]

theorem sequence_ids_two_syncs :
    ∃ (slot slot' : Slot AcceptAnyMaster TestRng TestClock TestFilter) (os : List PortActionIterator),
      slot.Initial .debug ∧ Machine.run (Slot.step .debug) slot masterSends = .ok (slot', os) ∧
      sentIds .sync os = [0, 1] ∧ ∃ n, sentIds .sync os = (List.range n).map UInt16.ofNat := by
  have hrun : (Port.new (A := AcceptAnyMaster) (R := TestRng) (C := TestClock) (F := TestFilter)
      .debug testPortConfig () ⟨⟩ default ⟨⟩).toOption.any (fun port =>
        (Machine.run (Slot.step .debug) (.inBmca port) masterSends).toOption.any fun r =>
          decide (sentIds .sync r.2 = [0, 1])) = true := by
    decide +kernel
  obtain ⟨port, hnew, hrun⟩ := (Option.any_eq_true _ _).mp hrun
  obtain ⟨⟨slot', os⟩, hrun, hids⟩ := (Option.any_eq_true _ _).mp hrun
  have hinit : Slot.Initial .debug (.inBmca port) :=
    ⟨_, _, _, _, _, port, eq_ok_of_toOption hnew, rfl⟩
  exact ⟨_, slot', os, hinit, eq_ok_of_toOption hrun, of_decide_eq_true hids,
    sequence_ids hinit (eq_ok_of_toOption hrun) (by decide)⟩

/-- The first sync message of that port. -/
theorem packets_genuine_first_sync :
    ∃ (slot slot' : Slot AcceptAnyMaster TestRng TestClock TestFilter) (actions : PortActionIterator),
      slot.step .debug (masterSends.getD 2 .endBmca) = .ok (slot', actions) ∧ actions.sends ≠ [] ∧
      (actions.sends = [] ∨ ∃ s o data, (masterSends.getD 2 .endBmca).state = some s ∧
        actions.sends = [Outgoing.action o data] ∧ o.Genuine slot.core.portIdentity s.defaultDs ∧
        packetType data = some o.type ∧
        (o.type ≠ .announce → ∀ s' : PtpInstanceState, s'.defaultDs.sdoId = s.defaultDs.sdoId →
          s'.defaultDs.domainNumber = s.defaultDs.domainNumber →
          Port.parseAndFilter s' data = .ok (some o.message))) := by
  have hrun : (Port.new (A := AcceptAnyMaster) (R := TestRng) (C := TestClock) (F := TestFilter)
      .debug testPortConfig () ⟨⟩ default ⟨⟩).toOption.any (fun port =>
        (Machine.run (Slot.step .debug) (.inBmca port) (masterSends.take 2)).toOption.any fun r =>
          (r.1.step .debug (masterSends.getD 2 .endBmca)).toOption.any fun r =>
            !r.2.sends.isEmpty) = true := by
    decide +kernel
  obtain ⟨port, hnew, hrun⟩ := (Option.any_eq_true _ _).mp hrun
  obtain ⟨⟨slot, os⟩, hrun, hstep⟩ := (Option.any_eq_true _ _).mp hrun
  obtain ⟨⟨slot', actions⟩, hstep, hsends⟩ := (Option.any_eq_true _ _).mp hstep
  have hreach : slot.Reachable NoForwardedTLVs .debug :=
    Machine.Reachable.run _ (.init ⟨_, _, _, _, _, port, eq_ok_of_toOption hnew, rfl⟩)
      (eq_ok_of_toOption hrun)
  refine ⟨slot, slot', actions, eq_ok_of_toOption hstep, fun hnone => ?_,
    packets_genuine hreach (eq_ok_of_toOption hstep) ⟨fun s hs => ?_, fun t ht => by cases ht⟩⟩
  · rw [hnone] at hsends
    cases hsends
  · obtain rfl := Option.some.inj hs
    exact testInstanceConfig_sdoId_inRange

end Slot

end Statime
