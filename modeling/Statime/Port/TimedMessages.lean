import Statime.Port.ArrivalOrder
import Statime.Port.DelayExchange

/-!
# The messages that carry a time

A time goes on the wire as whole seconds and nanoseconds.  Where the part below a nanosecond goes
depends on the message: a follow-up has it in its correction field, a delay response has it added to the
correction of the request, and the two messages that answer a peer delay request leave it out.

* `Message.followUp_spec`, `Message.pdelayResp_spec`, `Message.pdelayRespFollowUp_spec`: the messages,
  which are in range and so survive the wire.
* `follow_up_time`: what a follow-up brings to a slave.
-/

namespace Statime

open Rust

/-! ### Times on the wire -/

theorem WireTimestamp.nanos_lt {p : Profile} {t : Time} {ts : WireTimestamp}
    (h : WireTimestamp.ofTime p t = .ok ts) : ts.nanos.toNat < 1000000000 := by
  obtain ⟨seconds, -, h⟩ := bind_eq_ok.mp h
  obtain ⟨nanos, hnanos, h⟩ := bind_eq_ok.mp h
  obtain rfl := Except.ok.inj h
  obtain ⟨n, hn, hint⟩ := Time.subsecNanos_spec p t
  obtain rfl := Except.ok.inj (hnanos.symm.trans hn)
  dsimp only
  omega

/-- A time that went over the wire, with the part below a nanosecond as a correction. -/
def Time.overWire (p : Profile) (t : Time) : Except Panic Time := do
  let ts ← WireTimestamp.ofTime p t
  (Time.ofWireTimestamp ts).add p (Duration.ofTimeInterval t.subnano)

/-- **It loses the part below the resolution of a correction field.** -/
theorem Time.overWire_spec (p : Profile) {t : Time} (h : t.InWireRange) :
    ∃ r, t.overWire p = .ok r ∧ r.toInt = t.toInt / 2 ^ 16 * 2 ^ 16 := by
  obtain ⟨ts, hts, -, hint⟩ := WireTimestamp.ofTime_spec p h
  have hsum : (Time.ofWireTimestamp ts).toInt + (Duration.ofTimeInterval t.subnano).toInt =
      t.toInt / 2 ^ 16 * 2 ^ 16 := by
    rw [hint, Duration.toInt_ofTimeInterval, TimeInterval.toInt_subnano]
    omega
  have hrange := t.toInt_range
  obtain ⟨r, hr, hrint⟩ := Time.add_spec p (by rw [hsum]; omega) (by rw [hsum]; omega)
  exact ⟨r, by rw [Time.overWire, hts, ok_bind, hr], hrint.trans hsum⟩

/-! ### The messages -/

theorem testInstanceConfig_sdoId_inRange : testInstanceConfig.sdoId.InRange := by
  unfold SdoId.InRange
  decide

theorem baseHeader_inRange {defaultDs : InternalDefaultDS} (hsdo : defaultDs.sdoId.InRange)
    (portIdentity : PortIdentity) (sequenceId : UInt16) (minor : PtpMinorVersion) :
    (baseHeader defaultDs portIdentity sequenceId minor.toUInt8).InRange := by
  refine ⟨hsdo, ?_, ?_⟩
  · change (2 : UInt8).toNat < 16
    decide
  · change minor.toUInt8.toNat < 16
    cases minor <;> decide

/-- The other ports of the domain accept the header. -/
structure Header.Passes (header : Header) (defaultDs : InternalDefaultDS) : Prop where
  version : header.version.major = 2
  sdoId : header.sdoId = defaultDs.sdoId
  domainNumber : header.domainNumber = defaultDs.domainNumber

section Filter

variable {s : PtpInstanceState} {data : List UInt8} {message : Message}

/-- What a port reads from its own domain. -/
theorem Port.parseAndFilter_of_passes (h : Message.deserialize data = .ok message)
    (hpasses : message.header.Passes s.defaultDs) :
    Port.parseAndFilter s data = .ok (some message) := by
  obtain ⟨d, hd, hrest⟩ := bind_eq_ok.mp h
  obtain ⟨hlen, -, hheader, -⟩ := Header.deserializeHeader_eq_ok hd
  have hsame : message.header = d.header := by
    split at hrest
    · cases hrest
    · obtain ⟨content, -, hrest⟩ := bind_eq_ok.mp hrest
      obtain ⟨body, -, hrest⟩ := bind_eq_ok.mp hrest
      obtain ⟨tail, -, hrest⟩ := bind_eq_ok.mp hrest
      obtain ⟨suffix, -, hrest⟩ := bind_eq_ok.mp hrest
      rw [← Except.ok.inj hrest]
  have hversion : byteAt data 1 &&& 0xf = 2 := by
    have hmajor := hpasses.version
    rw [hsame, hheader] at hmajor
    exact hmajor
  have hcompatible : isCompatible data = true := by
    rw [isCompatible, Bool.and_eq_true, decide_eq_true_eq, beq_iff_eq]
    exact ⟨by omega, hversion⟩
  rw [Port.parseAndFilter, hcompatible, if_neg (by decide), h]
  exact if_pos ⟨hpasses.sdoId, hpasses.domainNumber⟩

/-- What it reads is from there. -/
theorem Port.parseAndFilter_eq_some (h : Port.parseAndFilter s data = .ok (some message)) :
    Message.deserialize data = .ok message ∧ message.header.sdoId = s.defaultDs.sdoId ∧
      message.header.domainNumber = s.defaultDs.domainNumber := by
  unfold Port.parseAndFilter at h
  split at h
  · cases h
  · split at h
    · cases h
    · cases h
    · rename_i message' hmessage
      split at h
      · rename_i hdomain
        obtain rfl := Option.some.inj (Except.ok.inj h)
        exact ⟨hmessage, hdomain⟩
      · cases h

end Filter

namespace Message

variable {defaultDs : InternalDefaultDS} {t : Time}

/-- What a message without records needs to survive the wire. -/
theorem inRange_of_noSuffix {header : Header} {body : MessageBody} (hheader : header.InRange)
    (hbody : body.InRange header) (hsize : body.wireSize ≤ 1000) :
    ({ header, body, suffix := default } : Message).InRange := by
  refine ⟨hheader, hbody, ⟨⟨[]⟩, rfl⟩, ?_⟩
  change 34 + body.wireSize + 0 ≤ 65535
  omega

/-- **A follow-up** has the part below a nanosecond in its correction field. -/
theorem followUp_spec (p : Profile) (hsdo : defaultDs.sdoId.InRange) (portIdentity : PortIdentity)
    (sequenceId : UInt16) (minor : PtpMinorVersion) (ht : t.InWireRange) :
    ∃ message ts, WireTimestamp.ofTime p t = .ok ts ∧
      Message.followUp p defaultDs portIdentity sequenceId t minor.toUInt8 = .ok message ∧
      message.InRange ∧ message.size = 44 ∧ message.body = .followUp ⟨ts⟩ ∧
      message.header.sourcePortIdentity = portIdentity ∧ message.header.sequenceId = sequenceId ∧
      message.header.correctionField = t.subnano := by
  obtain ⟨ts, hts, hrange, -⟩ := WireTimestamp.ofTime_spec p ht
  have hheader := baseHeader_inRange hsdo portIdentity sequenceId minor
  rw [Message.followUp, hts, ok_bind, pure_eq_ok]
  refine ⟨_, ts, rfl, rfl, ?_, rfl, rfl, rfl, rfl, rfl⟩
  exact inRange_of_noSuffix ⟨hheader.sdoId, hheader.version⟩ hrange (by decide : 10 ≤ 1000)

/-- **An answer to a peer delay request** has the correction field of the request. -/
theorem pdelayResp_spec (p : Profile) (hsdo : defaultDs.sdoId.InRange) (portIdentity : PortIdentity)
    (request : Header) (minor : PtpMinorVersion) (ht : t.InWireRange) :
    ∃ message ts, WireTimestamp.ofTime p t = .ok ts ∧
      Message.pdelayResp p defaultDs portIdentity request t minor.toUInt8 = .ok message ∧
      message.InRange ∧ message.size = 54 ∧
      message.body = .pDelayResp ⟨ts, request.sourcePortIdentity⟩ ∧
      message.header.sourcePortIdentity = portIdentity ∧
      message.header.sequenceId = request.sequenceId ∧ message.header.twoStepFlag = true ∧
      message.header.correctionField = request.correctionField ∧
      message.header.Passes defaultDs := by
  obtain ⟨ts, hts, hrange, -⟩ := WireTimestamp.ofTime_spec p ht
  have hheader := baseHeader_inRange hsdo portIdentity request.sequenceId minor
  rw [Message.pdelayResp, hts, ok_bind, pure_eq_ok]
  refine ⟨_, ts, rfl, rfl, ?_, rfl, rfl, rfl, rfl, rfl, rfl, rfl, rfl, rfl⟩
  exact inRange_of_noSuffix ⟨hheader.sdoId, hheader.version⟩ hrange (by decide : 20 ≤ 1000)

/-- **Its follow-up** has no correction. -/
theorem pdelayRespFollowUp_spec (p : Profile) (hsdo : defaultDs.sdoId.InRange)
    (portIdentity requestor : PortIdentity) (sequenceId : UInt16) (minor : PtpMinorVersion)
    (ht : t.InWireRange) :
    ∃ message ts, WireTimestamp.ofTime p t = .ok ts ∧
      Message.pdelayRespFollowUp p defaultDs portIdentity requestor sequenceId t minor.toUInt8 =
        .ok message ∧
      message.InRange ∧ message.size = 54 ∧ message.body = .pDelayRespFollowUp ⟨ts, requestor⟩ ∧
      message.header.sourcePortIdentity = portIdentity ∧ message.header.sequenceId = sequenceId ∧
      message.header.correctionField.toInt = 0 ∧ message.header.Passes defaultDs := by
  obtain ⟨ts, hts, hrange, -⟩ := WireTimestamp.ofTime_spec p ht
  have hheader := baseHeader_inRange hsdo portIdentity sequenceId minor
  rw [Message.pdelayRespFollowUp, hts, ok_bind, pure_eq_ok]
  refine ⟨_, ts, rfl, rfl, ?_, rfl, rfl, rfl, rfl, ?_, rfl, rfl, rfl⟩
  · exact inRange_of_noSuffix hheader hrange (by decide : 20 ≤ 1000)
  · exact (by decide : (⟨⟨0⟩⟩ : TimeInterval).toInt = 0)

/-- **What is written for a message reads back as it**, whatever the buffer. -/
theorem reads_back (p : Profile) {message : Message} (h : message.InRange) {buffer : List UInt8} :
    (message.size ≤ buffer.length → ∃ out, message.serialize p buffer = .ok (out, message.size)) ∧
      ∀ out n, message.serialize p buffer = .ok (out, n) →
        Message.deserialize (out.take n) = .ok message := by
  refine ⟨fun hlen => ?_, fun out n hout => ?_⟩
  · obtain ⟨out, hout, -⟩ := Message.serialize_spec p h hlen
    exact ⟨out, hout⟩
  · obtain ⟨-, -, -, -, -, hlen, -⟩ := Message.serialize_eq_ok hout
    obtain ⟨out', hout', -, -, hback⟩ := Message.serialize_spec p h hlen
    obtain ⟨rfl, rfl⟩ := Prod.mk.inj (Except.ok.inj (hout.symm.trans hout'))
    exact hback

end Message

/-! ### The packets -/

namespace Port

variable {A R C F : Type} [Filter F] {s : PtpInstanceState} {port : Port Running A R C F} {t : Time}

/-- **A peer delay request is answered**, and the packet reads back as the answer. -/
theorem handlePdelayReq_spec (p : Profile) (hsdo : s.defaultDs.sdoId.InRange) (request : Header)
    (ht : t.InWireRange) :
    ∃ port' data message ts,
      port.handlePdelayReq p s request t = .ok (port', .of [.sendEvent
        (.pDelayResp request.sequenceId request.sourcePortIdentity) data true]) ∧
      port'.portIdentity = port.portIdentity ∧ Message.deserialize data = .ok message ∧
      WireTimestamp.ofTime p t = .ok ts ∧
      message.body = .pDelayResp ⟨ts, request.sourcePortIdentity⟩ ∧
      message.header.sourcePortIdentity = port.portIdentity ∧
      message.header.sequenceId = request.sequenceId ∧ message.header.twoStepFlag = true ∧
      message.header.correctionField = request.correctionField ∧
      message.header.Passes s.defaultDs := by
  obtain ⟨message, ts, hts, hmessage, hrange, hsize, hfacts⟩ :=
    Message.pdelayResp_spec p hsdo port.portIdentity request port.config.minorPtpVersion ht
  obtain ⟨buffer, data, hdata, hback⟩ := port.packetBuffer.serialize_spec p hrange
    (by rw [hsize]; decide)
  refine ⟨{ port with packetBuffer := buffer }, data, message, ts, ?_, rfl, hback, hts, hfacts⟩
  rw [handlePdelayReq, hmessage, ok_bind, hdata, ok_bind]
  rfl

/-- **The time of the answer is sent after it.** -/
theorem handlePdelayResponseTimestamp_spec (p : Profile) (hsdo : s.defaultDs.sdoId.InRange)
    (id : UInt16) (requestor : PortIdentity) (ht : t.InWireRange) :
    ∃ port' data message ts,
      port.handlePdelayResponseTimestamp p s id requestor t =
        .ok (port', .of [.sendGeneral data true]) ∧
      Message.deserialize data = .ok message ∧ WireTimestamp.ofTime p t = .ok ts ∧
      message.body = .pDelayRespFollowUp ⟨ts, requestor⟩ ∧
      message.header.sourcePortIdentity = port.portIdentity ∧ message.header.sequenceId = id ∧
      message.header.correctionField.toInt = 0 ∧ message.header.Passes s.defaultDs := by
  obtain ⟨message, ts, hts, hmessage, hrange, hsize, hfacts⟩ :=
    Message.pdelayRespFollowUp_spec p hsdo port.portIdentity requestor id
      port.config.minorPtpVersion ht
  obtain ⟨buffer, data, hdata, hback⟩ := port.packetBuffer.serialize_spec p hrange
    (by rw [hsize]; decide)
  refine ⟨{ port with packetBuffer := buffer }, data, message, ts, ?_, hback, hts, hfacts⟩
  rw [handlePdelayResponseTimestamp, hmessage, ok_bind, hdata, ok_bind]
  rfl

end Port

/-! ### What a follow-up brings -/

section FollowUp

variable {A R C F : Type} [Clock C] [Filter F]

/-- The follow-up of the sync message `id`, sent by `master` at time `t`, arrives at a slave that waits
for it: the time that the slave stores is `sent`. -/
def Port.StoresSent (p : Profile) (slave : Port Running A R C F) (state : SlaveState)
    (header : Header) (body : FollowUpMessage) (id : UInt16) (sent : Time) : Prop :=
  slave.handleFollowUp p header body =
    (slave.withSlaveState { state with
      syncState := .measuring id (some sent) (state.syncState.recvTimeOf id) }).handleTimeMeasurement p

/-- **The time of a sync message survives the wire**, up to the resolution of a correction field. -/
theorem follow_up_time (p : Profile) {defaultDs : InternalDefaultDS} (hsdo : defaultDs.sdoId.InRange)
    {slave : Port Running A R C F} {state : SlaveState} (hslave : slave.portState = .slave state)
    (id : UInt16) (hwaits : state.syncState.sendTimeOf id = none) (minor : PtpMinorVersion) {t : Time}
    (ht : t.InWireRange) :
    ∃ message body sent,
      Message.followUp p defaultDs state.remoteMaster id t minor.toUInt8 = .ok message ∧
      message.body = .followUp body ∧ body.preciseOriginTimestamp.nanos.toNat < 1000000000 ∧
      (∀ buffer : List UInt8, message.size ≤ buffer.length →
        ∃ out, message.serialize p buffer = .ok (out, message.size)) ∧
      (∀ buffer out n, message.serialize p buffer = .ok (out, n) →
        Message.deserialize (out.take n) = .ok message) ∧
      slave.StoresSent p state message.header body id sent ∧
      t.overWire p = .ok sent ∧ sent.toInt = t.toInt / 2 ^ 16 * 2 ^ 16 ∧
      ∀ earlier : Time, earlier.toInt ≤ t.toInt →
        ∃ r, earlier.overWire p = .ok r ∧ r.toInt ≤ sent.toInt := by
  obtain ⟨message, ts, hts, hmessage, hrange, -, hbody, hsource, hid, hcorrection⟩ :=
    Message.followUp_spec p hsdo state.remoteMaster id minor ht
  obtain ⟨sent, hsent, hint⟩ := Time.overWire_spec p ht
  refine ⟨message, ⟨ts⟩, sent, hmessage, hbody, WireTimestamp.nanos_lt hts,
    fun buffer => (Message.reads_back p hrange).1, fun buffer => (Message.reads_back p hrange).2, ?_,
    hsent, hint, fun earlier hle => ?_⟩
  · have hadd := hsent
    rw [Time.overWire, hts, ok_bind] at hadd
    rw [Port.StoresSent, Port.handleFollowUp_stores hslave hsource.symm (by rw [hid]; exact hwaits),
      hcorrection, hadd, ok_bind, hid]
  · obtain ⟨r, hr, hrint⟩ := Time.overWire_spec p (t := earlier) (by
      unfold Time.InWireRange at ht ⊢
      omega)
    exact ⟨r, hr, by rw [hint, hrint]; omega⟩

end FollowUp

/-- A time with a part below a nanosecond. -/
def lateTime : Time := Time.ofNanos 1999999999 (2 ^ 31 + 1)

theorem follow_up_time_late : ∃ message sent,
    Message.followUp .debug (InternalDefaultDS.new testInstanceConfig) default 7 lateTime
      PtpMinorVersion.one.toUInt8 = .ok message ∧
    lateTime.overWire .debug = .ok sent ∧ sent.toInt = lateTime.toInt - 1 := by
  have hsdo : (InternalDefaultDS.new testInstanceConfig).sdoId.InRange := by
    unfold SdoId.InRange
    decide
  have hrange : lateTime.InWireRange := by
    unfold Time.InWireRange
    decide +kernel
  obtain ⟨message, body, sent, hmessage, -, -, -, -, -, hsent, hint, -⟩ := follow_up_time .debug hsdo
    (rfl : awaitingPort.portState = .slave awaitingState) 7 rfl .one hrange
  exact ⟨message, sent, hmessage, hsent, hint.trans (by decide +kernel)⟩

end Statime
