import Statime.Network.Timestamps
import Statime.Port.Provenance

/-!
# Exchanges over a network

What the measurements of a port say about the packets that went over the network, whatever the network
lost, duplicated or reordered.

* `PortNetwork.received_sent`: a message that a port reads was sent by some port, as that message.
* `PortNetwork.sync_measurement`: a sync offset is the receive time of a sync message of the master, less the
  transmit time of one with the same id.
* `PortNetwork.delay_measurement`, `PortNetwork.peer_measurement`: the same for the two kinds of requests.
* `PortNetwork.exchange_unique`: messages with the same id are the same message, as long as the ids last.
-/

namespace Statime

open Rust Machine

/-! ### Times in messages -/

/-- A time as a timestamp without correction. -/
def Time.overTimestamp (p : Profile) (t : Time) : Except Panic Time := do
  let ts ← WireTimestamp.ofTime p t
  return Time.ofWireTimestamp ts

/-- A time in a delay response, whose correction the receiver subtracts. -/
def Time.overResponse (p : Profile) (t : Time) : Except Panic Time := do
  let ts ← WireTimestamp.ofTime p t
  (Time.ofWireTimestamp ts).sub p (Duration.ofTimeInterval t.subnano)

theorem Time.overTimestamp_spec (p : Profile) {t : Time} (h : t.InWireRange) :
    ∃ r, t.overTimestamp p = .ok r ∧ r.toInt = t.toInt / 2 ^ 32 * 2 ^ 32 := by
  obtain ⟨ts, hts, -, hint⟩ := WireTimestamp.ofTime_spec p h
  exact ⟨_, by rw [Time.overTimestamp, hts, ok_bind]; rfl, hint⟩

/-- From one nanosecond on. -/
theorem Time.overResponse_spec (p : Profile) {t : Time} (h : t.InWireRange) (hlo : 2 ^ 32 ≤ t.toInt) :
    ∃ r, t.overResponse p = .ok r ∧
      r.toInt = t.toInt / 2 ^ 32 * 2 ^ 32 - t.toInt % 2 ^ 32 / 2 ^ 16 * 2 ^ 16 := by
  obtain ⟨ts, hts, -, hint⟩ := WireTimestamp.ofTime_spec p h
  have hrange := t.toInt_range
  have hsub : (Duration.ofTimeInterval t.subnano).toInt = t.toInt % 2 ^ 32 / 2 ^ 16 * 2 ^ 16 := by
    rw [Duration.toInt_ofTimeInterval, TimeInterval.toInt_subnano]
  have hfits : UFixed.fits 128
      ((Time.ofWireTimestamp ts).toInt - (Duration.ofTimeInterval t.subnano).toInt) = true := by
    rw [hint, hsub]
    exact decide_eq_true (by omega)
  refine ⟨⟨⟨BitVec.ofInt 128 _⟩⟩, ?_, (UFixed.toInt_ofInt hfits).trans (by rw [hint, hsub])⟩
  rw [Time.overResponse, hts, ok_bind, Time.sub_eq p _ (by rw [hsub]; omega),
    UFixed.wrap_of_fits p hfits, ok_bind, pure_eq_ok]

namespace PortNetwork

variable {A R C F T : Type} [Filter F] [AcceptableMasterList A] [Clock C] [Rng R]
  [ForwardedTLVProvider T] {p : Profile} {net net' : PortNetwork A R C F} {log : Log A R C F T}

/-! ### Messages -/

/-- The identity of a port. -/
def identity (net : PortNetwork A R C F) (i : Nat) : Option PortIdentity :=
  net.ports[i]?.map (·.core.portIdentity)

theorem identity_before (h : Trace (step p) (Initial p) log net)
    {t : Transition (PortNetwork A R C F) (Nat × PortEvent T)} (ht : t ∈ log) (i : Nat) :
    t.before.identity i = net.identity i := by
  rw [identity, identity, ← List.getElem?_map, ← List.getElem?_map, (identities_of_trace h).2 t ht]

/-- No two ports have one identity. -/
theorem identity_inj (h : Trace (step p) (Initial p) log net) {i j : Nat} {own : PortIdentity}
    (hi : net.identity i = some own) (hj : net.identity j = some own) : i = j := by
  rw [identity, ← List.getElem?_map] at hi hj
  have hlt := (List.getElem?_eq_some_iff.mp hi).1
  exact (List.getElem?_inj hlt (identities_of_trace h).1).mp (hi.trans hj.symm)

/-- A message has the identity of the port that sent it. -/
theorem Sent.identity (h : Trace (step p) (Initial p) log net) {j : Nat} {type : MessageType}
    {o : Outgoing} {data : List UInt8} (hsent : Sent p log j type o data) :
    net.identity j = some o.message.header.sourcePortIdentity := by
  obtain ⟨t, ht, e, port, buffer, -, hport, hsends, -⟩ := hsent
  obtain ⟨s, -, hgenuine⟩ := hsends.genuine
  rw [← identity_before h ht, PortNetwork.identity, hport, hgenuine.source]
  rfl

omit [ForwardedTLVProvider T] in
/-- The bytes of a received message. -/
theorem receives_data {e : PortEvent T} {message : Message} (h : e.Receives message) :
    ∃ s data, Port.parseAndFilter s data = .ok (some message) ∧
      ((∃ t, e = .eventReceive s data t) ∨ e = .generalReceive s data) := by
  rcases h with ⟨t, s, data, rfl, hparse⟩ | ⟨s, data, rfl, hparse⟩
  · exact ⟨s, data, hparse, Or.inl ⟨t, rfl⟩⟩
  · exact ⟨s, data, hparse, Or.inr rfl⟩

/-- **A message that a port reads was sent by some port**, as that message. -/
theorem received_sent (h : Trace (step p) (Initial p) log net) (hrange : InRange log) {i : Nat}
    {e : PortEvent T} (hgot : Got log i e) {s : PtpInstanceState} {data : List UInt8} {message : Message}
    (he : (∃ t, e = .eventReceive s data t) ∨ e = .generalReceive s data)
    (hparse : Port.parseAndFilter s data = .ok (some message))
    (htype : message.body.contentType ≠ .announce) :
    ∃ j o, Sent p log j message.body.contentType o data ∧ o.message = message ∧
      (j, o.action data) ∈ net.sent := by
  obtain ⟨t, ht, hevent⟩ := hgot
  obtain ⟨earlier, later, hlog⟩ := List.append_of_mem ht
  obtain ⟨hearlier, actions, hstep⟩ := h.split hlog
  obtain ⟨slot, slot', htook⟩ := step_took hstep
  have hcarries : t.before.carries data = true := by
    have hallowed := htook.allowed
    rw [hevent] at hallowed
    rcases he with ⟨_, rfl⟩ | rfl <;> exact hallowed
  obtain ⟨x, hx, hpacket⟩ := List.any_eq_true.mp hcarries
  rw [decide_eq_true_eq] at hpacket
  obtain ⟨type, o, data', hsent, haction⟩ := (accounted_of_trace hearlier).sent x hx
  rw [haction, Outgoing.packet_action, Option.some.injEq] at hpacket
  subst hpacket
  have hmem : (x.1, o.action data') ∈ net.sent := by
    rw [← haction]
    exact (sent_prefix_of_trace h t ht).subset hx
  have hlater : Sent p log x.1 type o data' := by
    rw [hlog]
    exact hsent.mono
  obtain ⟨u, hu, e', port, buffer, hu', -, hsends, hdata⟩ := hlater
  have hmessage := (Port.parseAndFilter_eq_some hparse).1
  have hsame : type = message.body.contentType := by
    have hpacketType := packetType_serialize hdata
    rw [(packetType_deserialize hmessage).1, ← Outgoing.type, hsends.type_eq] at hpacketType
    exact (Option.some.inj hpacketType).symm
  subst hsame
  have hback := hsends.reads_back (by have hin := hrange u hu; rwa [hu'] at hin) htype hdata
  exact ⟨x.1, o, by rw [hlog]; exact hsent.mono, Except.ok.inj (hback.symm.trans hmessage), hmem⟩

/-! ### Where the times of a message come from -/

omit [AcceptableMasterList A] [Clock C] [Rng R] in
/-- **A follow-up** has the timestamp that its port got for a sync message with its id. -/
theorem followUp_sent (hrange : InRange log) {j : Nat} {o : Outgoing} {data : List UInt8}
    {body : FollowUpMessage} {sent : Time} (hsent : Sent p log j .followUp o data)
    (hbody : o.message.body = .followUp body)
    (hadd : (Time.ofWireTimestamp body.preciseOriginTimestamp).add p
      (Duration.ofTimeInterval o.message.header.correctionField) = .ok sent) :
    ∃ s sendTime, Got log j (.sendTimestamp s (.sync o.message.header.sequenceId) sendTime) ∧
      sendTime.overWire p = .ok sent := by
  obtain ⟨t, ht, e, port, buffer, hevent, -, hsends, -⟩ := hsent
  have hin := hrange t ht
  rw [hevent] at hin
  cases hsends with
  | @followUp s id sendTime message _ hmessage =>
    obtain ⟨message', ts, hts, hmessage', -, -, hbody', -, hid, hcorrection⟩ :=
      Message.followUp_spec p (hin.sdoId s rfl) port.portIdentity id port.config.minorPtpVersion
        (hin.time sendTime rfl)
    obtain rfl := Except.ok.inj (hmessage.symm.trans hmessage')
    obtain rfl := MessageBody.followUp.inj (hbody'.symm.trans hbody)
    refine ⟨s, sendTime, ⟨t, ht, ?_⟩, ?_⟩
    · rw [hid]
      exact hevent
    · rw [Time.overWire, hts, ok_bind, ← hadd, hcorrection]

/-- A request as these bytes, and where it came from. -/
theorem request_sent (h : Trace (step p) (Initial p) log net) (hrange : InRange log) {j : Nat}
    {s : PtpInstanceState} {data : List UInt8} {t : Time} {request : Message}
    (hgot : Got log j (.eventReceive s data t)) (hparse : Port.parseAndFilter s data = .ok (some request)) :
    (∀ body, request.body = .delayReq body →
      ∃ i, net.identity i = some request.header.sourcePortIdentity ∧
        request.header.correctionField.toInt = 0 ∧
        (i, PortAction.sendEvent (.delayReq request.header.sequenceId) data false) ∈ net.sent) ∧
    (∀ body, request.body = .pDelayReq body →
      ∃ i, net.identity i = some request.header.sourcePortIdentity ∧
        request.header.correctionField.toInt = 0 ∧
        (i, PortAction.sendEvent (.pDelayReq request.header.sequenceId) data true) ∈ net.sent) := by
  constructor
  all_goals
    intro body hbody
    obtain ⟨i, o, hsent, rfl, hmem⟩ := received_sent h hrange hgot (Or.inl ⟨_, rfl⟩) hparse
      (by rw [hbody]; exact fun heq => by cases heq)
    rw [hbody] at hsent
    refine ⟨i, hsent.identity h, ?_⟩
    obtain ⟨u, -, e, port, buffer, -, -, hsends, -⟩ := hsent
    cases hsends
    exact ⟨rfl, hmem⟩

/-- **A delay response** has the time at which a request with its id arrived. -/
theorem delayResp_sent (h : Trace (step p) (Initial p) log net) (hrange : InRange log) {j : Nat}
    {o : Outgoing} {data : List UInt8} {body : DelayRespMessage} {received : Time}
    (hsent : Sent p log j .delayResp o data) (hbody : o.message.body = .delayResp body)
    (hsub : (Time.ofWireTimestamp body.receiveTimestamp).sub p
      (Duration.ofTimeInterval o.message.header.correctionField) = .ok received) :
    ∃ i s request recvTime, net.identity i = some body.requestingPortIdentity ∧
      (i, PortAction.sendEvent (.delayReq o.message.header.sequenceId) request false) ∈ net.sent ∧
      Got log j (.eventReceive s request recvTime) ∧ recvTime.overResponse p = .ok received := by
  obtain ⟨t, ht, e, port, buffer, hevent, -, hsends, -⟩ := hsent
  cases hsends with
  | @delayResp s request recvTime requestMessage message requestBody _ hparse hrequest hmessage =>
    have hgot : Got log j (.eventReceive s request recvTime) := ⟨t, ht, hevent⟩
    obtain ⟨i, hidentity, hzero, hmem⟩ := (request_sent h hrange hgot hparse).1 _ hrequest
    obtain ⟨correction, hcorrection, hmessage⟩ := bind_eq_ok.mp hmessage
    obtain ⟨ts, hts, hmessage⟩ := bind_eq_ok.mp hmessage
    obtain rfl := Except.ok.inj hmessage
    obtain rfl := MessageBody.delayResp.inj hbody
    refine ⟨i, s, request, recvTime, hidentity, hmem, hgot, ?_⟩
    have hsame : correction = recvTime.subnano.inner := by
      have hadd : (IFixed.wrap p _ : Except Panic (IFixed 64 16)) = .ok correction := hcorrection
      have hzero : requestMessage.header.correctionField.inner.toInt = 0 := hzero
      rw [hzero, Int.zero_add] at hadd
      exact IFixed.ext_toInt (IFixed.toInt_wrap (by decide) hadd (IFixed.fits_toInt (by decide) _))
    rw [Time.overResponse, hts, ok_bind, ← hsub, hsame]

/-- **The answers to a peer delay request**: when the request arrived, and when an answer to it left. -/
theorem pDelayResp_sent (h : Trace (step p) (Initial p) log net) (hrange : InRange log) {j : Nat}
    {o : Outgoing} {data : List UInt8} {body : PDelayRespMessage}
    (hsent : Sent p log j .pDelayResp o data) (hbody : o.message.body = .pDelayResp body) :
    o.message.header.twoStepFlag = true ∧ o.message.header.correctionField.toInt = 0 ∧
      o.context = some (.pDelayResp o.message.header.sequenceId body.requestingPortIdentity) ∧
      ∃ i s request recvTime, net.identity i = some body.requestingPortIdentity ∧
        (i, PortAction.sendEvent (.pDelayReq o.message.header.sequenceId) request true) ∈ net.sent ∧
        Got log j (.eventReceive s request recvTime) ∧
        recvTime.overTimestamp p = .ok (Time.ofWireTimestamp body.requestReceiveTimestamp) := by
  obtain ⟨t, ht, e, port, buffer, hevent, -, hsends, -⟩ := hsent
  cases hsends with
  | @pDelayResp s request recvTime requestMessage message requestBody hparse hrequest hmessage =>
    have hgot : Got log j (.eventReceive s request recvTime) := ⟨t, ht, hevent⟩
    obtain ⟨i, hidentity, hzero, hmem⟩ := (request_sent h hrange hgot hparse).2 _ hrequest
    obtain ⟨ts, hts, hmessage⟩ := bind_eq_ok.mp hmessage
    obtain rfl := Except.ok.inj hmessage
    obtain rfl := MessageBody.pDelayResp.inj hbody
    refine ⟨rfl, hzero, rfl, i, s, request, recvTime, hidentity, hmem, hgot, ?_⟩
    rw [Time.overTimestamp, hts, ok_bind]
    rfl

omit [AcceptableMasterList A] [Clock C] [Rng R] in
theorem pDelayRespFollowUp_sent {j : Nat} {o : Outgoing} {data : List UInt8}
    {body : PDelayRespFollowUpMessage} (hsent : Sent p log j .pDelayRespFollowUp o data)
    (hbody : o.message.body = .pDelayRespFollowUp body) :
    o.message.header.correctionField.toInt = 0 ∧ ∃ s sendTime,
      Got log j (.sendTimestamp s
        (.pDelayResp o.message.header.sequenceId body.requestingPortIdentity) sendTime) ∧
      sendTime.overTimestamp p = .ok (Time.ofWireTimestamp body.responseOriginTimestamp) := by
  obtain ⟨t, ht, e, port, buffer, hevent, -, hsends, -⟩ := hsent
  cases hsends with
  | @pDelayRespFollowUp s id requestor sendTime message hmessage =>
    obtain ⟨ts, hts, hmessage⟩ := bind_eq_ok.mp hmessage
    obtain rfl := Except.ok.inj hmessage
    obtain rfl := MessageBody.pDelayRespFollowUp.inj hbody
    refine ⟨rfl, s, sendTime, ⟨t, ht, hevent⟩, ?_⟩
    rw [Time.overTimestamp, hts, ok_bind]
    rfl

/-! ### Measurements -/

omit [Clock C] [Rng R] [ForwardedTLVProvider T] in
/-- An event of the history of a port is one that it got. -/
theorem got_of_since (net net' : PortNetwork A R C F) {during : PortCore → Prop}
    {P : PortEvent T → Prop} {i : Nat} {slot : Slot A R C F} {e : PortEvent T}
    {plog : List (Transition (Slot A R C F) (PortEvent T))}
    (hmem : ∀ u ∈ plog, ∃ t ∈ log, t.event = (i, u.event) ∧ t.before.ports[i]? = some u.before)
    (h : Since (Slot.history plog ++ [(slot.core, e)]) during P) :
    ∃ e', P e' ∧ Got (log ++ [⟨net, (i, e), net'⟩]) i e' := by
  obtain ⟨earlier, c, e', later, heq, hP, -, -⟩ := h
  refine ⟨e', hP, ?_⟩
  have hin : (c, e') ∈ Slot.history plog ++ [(slot.core, e)] := by
    rw [heq]
    exact List.mem_append_right _ List.mem_cons_self
  rcases List.mem_append.mp hin with hold | hnew
  · obtain ⟨u, hu, hpair⟩ := List.mem_map.mp hold
    obtain ⟨-, rfl⟩ := Prod.mk.inj hpair
    obtain ⟨t, ht, hevent, -⟩ := hmem u hu
    exact ⟨t, List.mem_append_left _ ht, hevent⟩
  · obtain ⟨-, rfl⟩ := Prod.mk.inj (List.mem_singleton.mp hnew)
    exact ⟨_, List.mem_append_right _ List.mem_cons_self, rfl⟩

/-- **A sync exchange** of port `i` with port `j`: a sync message arrived, and `j` got the timestamp of
one with the same id. -/
structure SyncExchange (p : Profile) (log : Log A R C F T) (net : PortNetwork A R C F) (i j : Nat)
    (id : UInt16) (recvTime sent : Time) : Prop where
  arrived : ∃ s data, (j, PortAction.sendEvent (.sync id) data false) ∈ net.sent ∧
    Got log i (.eventReceive s data recvTime)
  stamped : ∃ s sendTime, Got log j (.sendTimestamp s (.sync id) sendTime) ∧
    sendTime.overWire p = .ok sent

/-- **A delay exchange**: port `i` got the timestamp of a delay request, and one with the same id
arrived at port `j`. -/
structure DelayExchange (p : Profile) (log : Log A R C F T) (net : PortNetwork A R C F) (i j : Nat)
    (id : UInt16) (sendTime received : Time) : Prop where
  stamped : ∃ s, Got log i (.sendTimestamp s (.delayReq id) sendTime)
  arrived : ∃ s data recvTime, (i, PortAction.sendEvent (.delayReq id) data false) ∈ net.sent ∧
    Got log j (.eventReceive s data recvTime) ∧ recvTime.overResponse p = .ok received

/-- **A peer delay exchange** of port `i`, whose identity is `own`, with port `j`. -/
structure PeerExchange (p : Profile) (log : Log A R C F T) (net : PortNetwork A R C F) (i j : Nat)
    (own : PortIdentity) (id : UInt16) (t1 t2 t3 t4 : Time) : Prop where
  requestSent : ∃ s, Got log i (.sendTimestamp s (.pDelayReq id) t1)
  requestReceived : ∃ s data recvTime, (i, PortAction.sendEvent (.pDelayReq id) data true) ∈ net.sent ∧
    Got log j (.eventReceive s data recvTime) ∧ recvTime.overTimestamp p = .ok t2
  responseSent : ∃ s sendTime, Got log j (.sendTimestamp s (.pDelayResp id own) sendTime) ∧
    sendTime.overTimestamp p = .ok t3
  responseReceived : ∃ s data, (j, PortAction.sendEvent (.pDelayResp id own) data true) ∈ net.sent ∧
    Got log i (.eventReceive s data t4)

section Measured

variable {e : Nat × PortEvent T} {actions : PortActionIterator} {slot slot' : Slot A R C F}
  {m : Measurement}

/-- The origin of a measurement in the run of its own port. -/
theorem origin_of_step (h : Trace (step p) (Initial p) log net)
    (hstep : net.step p e = .ok (net', actions)) (hslot : net.ports[e.1]? = some slot)
    (hslot' : net'.ports[e.1]? = some slot') (hm : slot'.core.handed = slot.core.handed ++ [m]) :
    ∃ plog, PortCore.Origin p (Slot.history plog ++ [(slot.core, e.2)]) slot.core m ∧
      ∀ u ∈ plog, ∃ t ∈ log, t.event = (e.1, u.event) ∧ t.before.ports[e.1]? = some u.before := by
  obtain ⟨slot₀, slot₁, htook⟩ := step_took hstep
  obtain rfl := Option.some.inj (htook.get.symm.trans hslot)
  obtain rfl : slot' = slot₁ := by
    rcases htook.get_after hslot' with ⟨-, rfl⟩ | ⟨hne, -⟩
    · rfl
    · exact absurd rfl hne
  obtain ⟨plog, hplog, hmem⟩ := (accounted_of_trace h).ports _ _ hslot
  exact ⟨plog, (Slot.step_core htook.step).origin (Slot.traced_of_trace hplog).1 hm, hmem⟩

/-- **Sync offsets over a network.**  Whatever the network loses, duplicates, reorders and delivers to
whom: a sync offset that a port hands to its filter is the time at which a sync message of its master
arrived, less the transmit timestamp of a sync message with the same id. -/
theorem sync_measurement (h : Trace (step p) (Initial p) log net)
    (hstep : net.step p e = .ok (net', actions)) (hrange : InRange (log ++ [⟨net, e, net'⟩]))
    (hslot : net.ports[e.1]? = some slot) (hslot' : net'.ports[e.1]? = some slot')
    (hm : slot'.core.handed = slot.core.handed ++ [m]) {raw : Duration}
    (hraw : m.rawSyncOffset = some raw) :
    ∃ j master id recvTime sent, net'.identity j = some master ∧ slot.core.Follows master ∧
      SyncExchange p (log ++ [⟨net, e, net'⟩]) net' e.1 j id recvTime sent ∧
      Port.rawOffset p recvTime sent slot.core.config.delayAsymmetry = .ok raw := by
  obtain ⟨plog, horigin, hmem⟩ := origin_of_step h hstep hslot hslot' hm
  have h' := h.step hstep
  obtain ⟨master, id, sent, recvTime, hfollows, hsent, hreceived, hoffset⟩ := horigin.sync raw hraw
  obtain ⟨e₁, hsent, hgot₁⟩ := got_of_since net net' hmem hsent
  obtain ⟨e₂, hreceived, hgot₂⟩ := got_of_since net net' hmem hreceived
  -- the sync message
  obtain ⟨message, body, timestamp, ⟨s, data, rfl, hparse⟩, hbody, hmaster, hid, hsub⟩ := hreceived
  obtain ⟨j, o, hfrom, rfl, hdata⟩ := received_sent h' hrange hgot₂ (Or.inl ⟨_, rfl⟩) hparse
    (by rw [hbody]; exact fun heq => by cases heq)
  rw [hbody] at hfrom
  have hj := hfrom.identity h'
  rw [hmaster] at hj
  have hsync : (j, PortAction.sendEvent (.sync id) data false) ∈ net'.sent ∧
      o.message.header.correctionField.toInt = 0 := by
    obtain ⟨t, -, e₃, port, buffer, -, -, hsends, -⟩ := hfrom
    cases hsends
    rw [← hid]
    exact ⟨hdata, rfl⟩
  have htime : timestamp = recvTime := by
    rw [Time.sub_zero p timestamp (by rw [Duration.toInt_ofTimeInterval, hsync.2, Int.zero_mul])] at hsub
    exact Except.ok.inj hsub
  subst htime
  refine ⟨j, master, id, timestamp, sent, hj, hfollows, ⟨⟨s, data, hsync.1, hgot₂⟩, ?_⟩, hoffset⟩
  -- its transmit time
  rcases hsent with ⟨message, body, hreceives, hbody, hmaster, hid, hadd⟩ |
    ⟨message, body, timestamp, ⟨s, data, rfl, hparse⟩, hbody, -, -, honeStep, -⟩
  · obtain ⟨s', data', hparse, he⟩ := receives_data hreceives
    obtain ⟨j', o', hfrom', rfl, -⟩ := received_sent h' hrange hgot₁ he hparse
      (by rw [hbody]; exact fun heq => by cases heq)
    rw [hbody] at hfrom'
    have hj' := hfrom'.identity h'
    rw [hmaster] at hj'
    obtain rfl := identity_inj h' hj hj'
    obtain ⟨s'', sendTime, hgot, hover⟩ := followUp_sent hrange hfrom' hbody hadd
    rw [hid] at hgot
    exact ⟨s'', sendTime, hgot, hover⟩
  · obtain ⟨j', o', hfrom', rfl, -⟩ := received_sent h' hrange hgot₁ (Or.inl ⟨_, rfl⟩) hparse
      (by rw [hbody]; exact fun heq => by cases heq)
    rw [hbody] at hfrom'
    obtain ⟨t, -, e₃, port, buffer, -, -, hsends, -⟩ := hfrom'
    cases hsends
    cases honeStep

/-- The first sync message of a master and its follow-up. -/
def syncRun : List (Nat × PortEvent NoForwardedTLVs) :=
  let s := (testSystem testInstanceConfig).state
  masterAndSlave s ++ [(0, .syncTimer s),
    (1, .eventReceive s (packetOf (.ok (.sync s.defaultDs default 0 1))) (Time.ofNanos 20 0)),
    (0, .sendTimestamp s (.sync 0) (Time.ofNanos 10 0))]

def followUpArrives : Nat × PortEvent NoForwardedTLVs :=
  let s := (testSystem testInstanceConfig).state
  (1, .generalReceive s (packetOf (Message.followUp .debug s.defaultDs default 0 (Time.ofNanos 10 0) 1)))

/-- What is measured is ten nanoseconds. -/
theorem syncRun_measures : measures (.e2e ⟨1⟩) syncRun followUpArrives (fun net m =>
    decide (m.rawSyncOffset.map (·.toInt) = some (10 * 2 ^ 32) ∧ (sentIds 0 .sync net.sent).length = 1)) = true := by
  decide +kernel

theorem sync_measurement_first : ∃ (log : Log AcceptAnyMaster TestRng TestClock TestFilter NoForwardedTLVs)
    (net net' : TestNetwork) (slot : Slot AcceptAnyMaster TestRng TestClock TestFilter) (raw : Duration),
    raw.toInt = 10 * 2 ^ 32 ∧ ∃ j master id recvTime sent, net'.identity j = some master ∧
      slot.core.Follows master ∧
      SyncExchange .debug (log ++ [⟨net, followUpArrives, net'⟩]) net' 1 j id recvTime sent ∧
      Port.rawOffset .debug recvTime sent slot.core.config.delayAsymmetry = .ok raw := by
  obtain ⟨log, net, net', actions, slot, slot', m, htrace, hstep, hrange, hslot, hslot', hm, hraw⟩ :=
    exists_of_measures syncRun_measures
  obtain ⟨raw, hraw, hint⟩ := Option.map_eq_some_iff.mp (of_decide_eq_true hraw).1
  exact ⟨log, net, net', slot, raw, hint, sync_measurement htrace hstep hrange hslot hslot' hm hraw⟩

/-- **Delay offsets over a network**: the transmit timestamp of an own delay request, less the time at
which a request with the same id arrived at the master. -/
theorem delay_measurement (h : Trace (step p) (Initial p) log net)
    (hstep : net.step p e = .ok (net', actions)) (hrange : InRange (log ++ [⟨net, e, net'⟩]))
    (hslot : net.ports[e.1]? = some slot) (hslot' : net'.ports[e.1]? = some slot')
    (hm : slot'.core.handed = slot.core.handed ++ [m]) {raw : Duration}
    (hraw : m.rawDelayOffset = some raw) :
    ∃ j master id sendTime received, net'.identity j = some master ∧ slot.core.Follows master ∧
      DelayExchange p (log ++ [⟨net, e, net'⟩]) net' e.1 j id sendTime received ∧
      Port.rawOffset p sendTime received slot.core.config.delayAsymmetry = .ok raw := by
  obtain ⟨plog, horigin, hmem⟩ := origin_of_step h hstep hslot hslot' hm
  have h' := h.step hstep
  obtain ⟨master, id, sendTime, received, hfollows, hsent, hreceived, hoffset⟩ :=
    horigin.delay raw hraw
  obtain ⟨e₁, ⟨s, rfl⟩, hgot₁⟩ := got_of_since net net' hmem hsent
  obtain ⟨e₂, hreceived, hgot₂⟩ := got_of_since net net' hmem hreceived
  obtain ⟨message, body, hreceives, hbody, hmaster, hown, hid, hsub⟩ := hreceived
  obtain ⟨s', data, hparse, he⟩ := receives_data hreceives
  obtain ⟨j, o, hfrom, rfl, -⟩ := received_sent h' hrange hgot₂ he hparse
    (by rw [hbody]; exact fun heq => by cases heq)
  rw [hbody] at hfrom
  have hj := hfrom.identity h'
  rw [hmaster] at hj
  obtain ⟨i, s'', request, recvTime, hi, hrequest, hgot, hover⟩ := delayResp_sent h' hrange hfrom hbody hsub
  have hthis : net'.identity e.1 = some slot.core.portIdentity := by
    rw [← identity_before h' (List.mem_append_right _ List.mem_cons_self), identity]
    exact congrArg (Option.map _) hslot
  rw [hown] at hi
  obtain rfl := identity_inj h' hi hthis
  rw [hid] at hrequest
  exact ⟨j, master, id, sendTime, received, hj, hfollows,
    ⟨⟨s, hgot₁⟩, s'', request, recvTime, hrequest, hgot, hover⟩, hoffset⟩

/-- The first delay request of a slave arrives at its master. -/
def delayRun : List (Nat × PortEvent NoForwardedTLVs) :=
  let s := (testSystem testInstanceConfig).state
  masterAndSlave s ++ [(1, .delayRequestTimer s), (1, .sendTimestamp s (.delayReq 0) (Time.ofNanos 30 0)),
    (0, .eventReceive s (packetOf (.ok (.delayReq s.defaultDs secondPort 0 1))) (Time.ofNanos 50 0))]

def delayRespArrives : Nat × PortEvent NoForwardedTLVs :=
  let s := (testSystem testInstanceConfig).state
  (1, .generalReceive s (packetOf (Message.delayResp .debug (Message.delayReq s.defaultDs secondPort 0 1).header
    default ⟨1⟩ (Time.ofNanos 50 0))))

theorem delay_measurement_first : ∃ (log : Log AcceptAnyMaster TestRng TestClock TestFilter NoForwardedTLVs)
    (net net' : TestNetwork) (slot : Slot AcceptAnyMaster TestRng TestClock TestFilter) (raw : Duration),
    raw.toInt = -20 * 2 ^ 32 ∧ ∃ j master id sendTime received, net'.identity j = some master ∧
      slot.core.Follows master ∧
      DelayExchange .debug (log ++ [⟨net, delayRespArrives, net'⟩]) net' 1 j id sendTime received ∧
      Port.rawOffset .debug sendTime received slot.core.config.delayAsymmetry = .ok raw := by
  have hrun : measures (.e2e ⟨1⟩) delayRun delayRespArrives (fun _ m =>
      decide (m.rawDelayOffset.map (·.toInt) = some (-20 * 2 ^ 32))) = true := by
    decide +kernel
  obtain ⟨log, net, net', actions, slot, slot', m, htrace, hstep, hrange, hslot, hslot', hm, hraw⟩ :=
    exists_of_measures hrun
  obtain ⟨raw, hraw, hint⟩ := Option.map_eq_some_iff.mp (of_decide_eq_true hraw)
  exact ⟨log, net, net', slot, raw, hint, delay_measurement htrace hstep hrange hslot hslot' hm hraw⟩

/-- **Peer delays over a network**: half of what is left of the time between an own request and a
response to it, both with the same id, less the time between the arrival of a request with that id and the
transmission of a response to it at the one port that answered. -/
theorem peer_measurement (h : Trace (step p) (Initial p) log net)
    (hstep : net.step p e = .ok (net', actions)) (hrange : InRange (log ++ [⟨net, e, net'⟩]))
    (hslot : net.ports[e.1]? = some slot) (hslot' : net'.ports[e.1]? = some slot')
    (hm : slot'.core.handed = slot.core.handed ++ [m]) {delay : Duration}
    (hdelay : m.peerDelay = some delay) :
    ∃ j id t1 t2 t3 t4, PeerExchange p (log ++ [⟨net, e, net'⟩]) net' e.1 j slot.core.portIdentity id
        t1 t2 t3 t4 ∧
      Port.peerDelay p t1 t2 t3 t4 = .ok delay := by
  obtain ⟨plog, horigin, hmem⟩ := origin_of_step h hstep hslot hslot' hm
  have h' := h.step hstep
  obtain ⟨id, responder, t1, t2, t3, t4, h1, h2, h3, h4, hpeer⟩ := horigin.peer delay hdelay
  obtain ⟨e₁, ⟨s₁, rfl⟩, hgot₁⟩ := got_of_since net net' hmem h1
  obtain ⟨e₂, h2, hgot₂⟩ := got_of_since net net' hmem h2
  obtain ⟨e₃, h3, hgot₃⟩ := got_of_since net net' hmem h3
  obtain ⟨e₄, h4, hgot₄⟩ := got_of_since net net' hmem h4
  have hthis : net'.identity e.1 = some slot.core.portIdentity := by
    rw [← identity_before h' (List.mem_append_right _ List.mem_cons_self), identity]
    exact congrArg (Option.map _) hslot
  -- the response says when the request arrived
  obtain ⟨message, body, timestamp, ⟨⟨s, data, rfl, hparse⟩, hbody, hresponder, hown, hid⟩, rfl⟩ := h2
  obtain ⟨j, o, hfrom, rfl, -⟩ := received_sent h' hrange hgot₂ (Or.inl ⟨_, rfl⟩) hparse
    (by rw [hbody]; exact fun heq => by cases heq)
  rw [hbody] at hfrom
  have hj := hfrom.identity h'
  rw [hresponder] at hj
  obtain ⟨-, -, -, i, s', request, recvTime, hi, hrequest, hgot, hover⟩ :=
    pDelayResp_sent h' hrange hfrom hbody
  rw [hown] at hi
  obtain rfl := identity_inj h' hi hthis
  rw [hid] at hrequest
  refine ⟨j, id, t1, _, t3, t4, ⟨⟨s₁, hgot₁⟩, ⟨s', request, recvTime, hrequest, hgot, hover⟩, ?_, ?_⟩, hpeer⟩
  · -- its follow-up says when it left
    rcases h3 with ⟨message, body, hreceives, hbody, hresponder, hown, hid, hadd⟩ |
      ⟨message, body, timestamp, ⟨⟨s, data, rfl, hparse⟩, hbody, -, -, -⟩, honeStep, -⟩
    · obtain ⟨s, data, hparse, he⟩ := receives_data hreceives
      obtain ⟨j', o', hfrom', rfl, -⟩ := received_sent h' hrange hgot₃ he hparse
        (by rw [hbody]; exact fun heq => by cases heq)
      rw [hbody] at hfrom'
      have hj' := hfrom'.identity h'
      rw [hresponder] at hj'
      obtain rfl := identity_inj h' hj hj'
      obtain ⟨hzero, s', sendTime, hgot', hover'⟩ := pDelayRespFollowUp_sent hfrom' hbody
      rw [Time.add_zero p _ (by rw [Duration.toInt_ofTimeInterval, hzero, Int.zero_mul])] at hadd
      obtain rfl := Except.ok.inj hadd
      rw [hid, hown] at hgot'
      exact ⟨s', sendTime, hgot', hover'⟩
    · obtain ⟨j', o', hfrom', rfl, -⟩ := received_sent h' hrange hgot₃ (Or.inl ⟨_, rfl⟩) hparse
        (by rw [hbody]; exact fun heq => by cases heq)
      rw [hbody] at hfrom'
      rw [(pDelayResp_sent h' hrange hfrom' hbody).1] at honeStep
      cases honeStep
  · -- and a response arrived
    obtain ⟨message, body, timestamp, ⟨⟨s, data, rfl, hparse⟩, hbody, hresponder, hown, hid⟩, hsub⟩ := h4
    obtain ⟨j', o', hfrom', rfl, hdata⟩ := received_sent h' hrange hgot₄ (Or.inl ⟨_, rfl⟩) hparse
      (by rw [hbody]; exact fun heq => by cases heq)
    rw [hbody] at hfrom'
    have hj' := hfrom'.identity h'
    rw [hresponder] at hj'
    obtain rfl := identity_inj h' hj hj'
    obtain ⟨-, hzero, hcontext, -⟩ := pDelayResp_sent h' hrange hfrom' hbody
    rw [Time.sub_zero p _ (by rw [Duration.toInt_ofTimeInterval, hzero, Int.zero_mul])] at hsub
    obtain rfl := Except.ok.inj hsub
    have hlocal : o'.linkLocal = true := by
      obtain ⟨t, -, e', port, buffer, -, -, hsends, -⟩ := hfrom'
      cases hsends
      rfl
    rw [Outgoing.action, hcontext, hid, hown, hlocal] at hdata
    exact ⟨s, data, hdata, hgot₄⟩

/-- The second port measures the delay to the first one. -/
def peerRun : List (Nat × PortEvent NoForwardedTLVs) :=
  let s := (testSystem testInstanceConfig).state
  [(0, .endBmca), (1, .endBmca), (1, .delayRequestTimer s),
    (0, .eventReceive s (packetOf (.ok (.pdelayReq s.defaultDs secondPort 0 1))) (Time.ofNanos 40 0)),
    (1, .sendTimestamp s (.pDelayReq 0) (Time.ofNanos 30 0)),
    (1, .eventReceive s (packetOf (Message.pdelayResp .debug s.defaultDs default
      (Message.pdelayReq s.defaultDs secondPort 0 1).header (Time.ofNanos 40 0) 1)) (Time.ofNanos 70 0)),
    (0, .sendTimestamp s (.pDelayResp 0 secondPort) (Time.ofNanos 60 0))]

def responseFollowUpArrives : Nat × PortEvent NoForwardedTLVs :=
  let s := (testSystem testInstanceConfig).state
  (1, .generalReceive s (packetOf (Message.pdelayRespFollowUp .debug s.defaultDs default secondPort 0
    (Time.ofNanos 60 0) 1)))

theorem peer_measurement_first : ∃ (log : Log AcceptAnyMaster TestRng TestClock TestFilter NoForwardedTLVs)
    (net net' : TestNetwork) (slot : Slot AcceptAnyMaster TestRng TestClock TestFilter) (delay : Duration),
    delay.toInt = 10 * 2 ^ 32 ∧ ∃ j id t1 t2 t3 t4,
      PeerExchange .debug (log ++ [⟨net, responseFollowUpArrives, net'⟩]) net' 1 j slot.core.portIdentity id
        t1 t2 t3 t4 ∧
      Port.peerDelay .debug t1 t2 t3 t4 = .ok delay := by
  have hrun : measures (.p2p ⟨1⟩) peerRun responseFollowUpArrives (fun _ m =>
      decide (m.peerDelay.map (·.toInt) = some (10 * 2 ^ 32))) = true := by
    decide +kernel
  obtain ⟨log, net, net', actions, slot, slot', m, htrace, hstep, hrange, hslot, hslot', hm, hdelay⟩ :=
    exists_of_measures hrun
  obtain ⟨delay, hdelay, hint⟩ := Option.map_eq_some_iff.mp (of_decide_eq_true hdelay)
  exact ⟨log, net, net', slot, delay, hint, peer_measurement htrace hstep hrange hslot hslot' hm hdelay⟩

end Measured

/-! ### One message for each id -/

/-- At most one element has a property. -/
theorem eq_of_countP_le_one {α : Type} {q : α → Bool} {xs : List α} (h : xs.countP q ≤ 1) {a b : α}
    (ha : a ∈ xs) (hb : b ∈ xs) (hqa : q a = true) (hqb : q b = true) : a = b := by
  rw [List.countP_eq_length_filter] at h
  have ha' := List.mem_filter.mpr ⟨ha, hqa⟩
  have hb' := List.mem_filter.mpr ⟨hb, hqb⟩
  rcases Nat.le_one_iff_eq_zero_or_eq_one.mp h with hzero | hone
  · rw [List.length_eq_zero_iff.mp hzero] at ha'
    cases ha'
  · obtain ⟨c, hc⟩ := List.length_eq_one_iff.mp hone
    rw [hc, List.mem_singleton] at ha' hb'
    rw [ha', hb']

/-- **While the ids last**, a sync message, a delay request or a peer delay request is known by its
port and id, and its port gets one timestamp for it: as long as the port has sent at most `2 ^ 16` messages
of the type, all packets with the id have the same bytes, and all timestamps for it are the same. -/
theorem exchange_unique (h : Trace (step p) (Initial p) log net) {j : Nat} {slot : Slot A R C F}
    (hj : net.ports[j]? = some slot) {c : TimestampContext} (hc : starts c.type = true)
    (hfew : (sentIds j c.type net.sent).length ≤ 65536) :
    (∀ a b, (j, a) ∈ net.sent → (j, b) ∈ net.sent → a.context = some c → b.context = some c → a = b) ∧
      ∀ s s' t t', Got log j (.sendTimestamp s c t) → Got log j (.sendTimestamp s' c t') → t = t' := by
  have hone := asked_le_one h hj hc hfew
  refine ⟨fun a b ha hb hca hcb => ?_, fun s s' t t' hgot hgot' => ?_⟩
  · exact (Prod.mk.inj (eq_of_countP_le_one hone ha hb (decide_eq_true ⟨rfl, hca⟩)
      (decide_eq_true ⟨rfl, hcb⟩))).2
  · obtain ⟨u, hu, hevent⟩ := hgot
    obtain ⟨u', hu', hevent'⟩ := hgot'
    have hle := (answered_le_asked h (j, c)).trans hone
    have hsame := eq_of_countP_le_one hle hu hu' (decide_eq_true (by rw [hevent]; rfl))
      (decide_eq_true (by rw [hevent']; rfl))
    rw [hsame, hevent'] at hevent
    exact (PortEvent.sendTimestamp.inj (Prod.mk.inj hevent).2).2.2.symm

/-- The one sync message of that run. -/
theorem exchange_unique_first_sync :
    ∃ (log : Log AcceptAnyMaster TestRng TestClock TestFilter NoForwardedTLVs) (net : TestNetwork),
      Trace (step .debug) (Initial .debug) log net ∧ (sentIds 0 .sync net.sent).length = 1 ∧
      (∀ a b, (0, a) ∈ net.sent → (0, b) ∈ net.sent → a.context = some (.sync 0) →
        b.context = some (.sync 0) → a = b) ∧
      ∀ s s' t t', Got log 0 (.sendTimestamp s (.sync 0) t) → Got log 0 (.sendTimestamp s' (.sync 0) t') →
        t = t' := by
  obtain ⟨log, net, net', actions, slot, slot', m, htrace, hstep, -, -, -, -, hcheck⟩ :=
    exists_of_measures syncRun_measures
  have hone := (of_decide_eq_true hcheck).2
  have htrace' := htrace.step hstep
  have hfirst : ∃ first, net'.ports[0]? = some first := by
    have hids := List.ne_nil_of_length_pos (show 0 < (sentIds 0 .sync net'.sent).length by omega)
    obtain ⟨x, hx⟩ := List.exists_mem_of_ne_nil _ hids
    obtain ⟨y, hy, hasked⟩ := List.mem_filterMap.mp hx
    obtain ⟨type, o, data, hsent, -⟩ := (accounted_of_trace htrace').sent y hy
    have hzero : y.1 = 0 := by
      by_contra hne
      rw [askedId, if_neg hne] at hasked
      cases hasked
    rw [hzero] at hsent
    have hidentity := hsent.identity htrace'
    obtain ⟨first, hfirst, -⟩ := Option.map_eq_some_iff.mp hidentity
    exact ⟨first, hfirst⟩
  obtain ⟨first, hfirst⟩ := hfirst
  have hfew : (sentIds 0 (TimestampContext.sync 0).type net'.sent).length ≤ 65536 :=
    le_trans (le_of_eq hone) (by decide)
  exact ⟨_, net', htrace', hone, exchange_unique htrace' hfirst rfl hfew⟩

end PortNetwork

end Statime
