import Statime.Port.Effects
import Statime.Port.TimedMessages

/-!
# The correction fields of the answers

A master adds the part of its receive time below a nanosecond to the correction field of a delay
request, which is any number of 64 bits.  The other messages that carry a time copy a correction field
or fill in one of their own, and add nothing.

* `answers_carry_sums_iff`: when all of them carry the sum that they should.
* `delay_resp_overflows`: a request on which a debug build of a master panics, and which a release build
  answers with a correction of the other sign.
-/

namespace Statime

open Rust

section

variable {A R C F : Type} [Filter F]

/-- The port sends one packet, and it reads back with this correction, in units of `2^-16`
nanoseconds. -/
def SendsCorrection (result : Except Panic (Port Running A R C F × PortActionIterator))
    (correction : Int) : Prop :=
  ∃ port action data answer, result = .ok (port, .of [action]) ∧ action.packet = some data ∧
    Message.deserialize data = .ok answer ∧ answer.header.correctionField.toInt = correction

/-- A correction that was sent fits the field. -/
theorem SendsCorrection.lt {result : Except Panic (Port Running A R C F × PortActionIterator)}
    {correction : Int} (h : SendsCorrection result correction) : correction < 2 ^ 63 := by
  obtain ⟨-, -, -, answer, -, -, -, rfl⟩ := h
  exact answer.header.correctionField.toInt_range.2

namespace Port

variable {instanceState : PtpInstanceState} {port : Port Running A R C F} {t : Time}

theorem handleDelayReq_sends (p : Profile) {header : Header} (hmaster : port.portState = .master)
    (hheader : header.InRange) (ht : t.InWireRange)
    (hfits : header.correctionField.toInt + t.subnano.toInt < 2 ^ 63) :
    SendsCorrection (port.handleDelayReq p header t)
      (header.correctionField.toInt + t.subnano.toInt) := by
  rw [TimeInterval.toInt_subnano] at hfits ⊢
  obtain ⟨port', data, answer, -, hresult, hback, -, -, -, -, hcorrection, -⟩ :=
    port.handleDelayReq_spec p hmaster hheader ht hfits
  exact ⟨port', _, data, answer, hresult, rfl, hback, hcorrection⟩

theorem handlePdelayReq_sends (p : Profile) (header : Header)
    (hsdo : instanceState.defaultDs.sdoId.InRange) (ht : t.InWireRange) :
    SendsCorrection (port.handlePdelayReq p instanceState header t)
      header.correctionField.toInt := by
  obtain ⟨port', data, answer, -, hresult, -, hback, -, -, -, -, -, hcorrection, -⟩ :=
    port.handlePdelayReq_spec p hsdo header ht
  exact ⟨port', _, data, answer, hresult, rfl, hback, by rw [hcorrection]⟩

theorem handlePdelayResponseTimestamp_sends (p : Profile)
    (hsdo : instanceState.defaultDs.sdoId.InRange) (ht : t.InWireRange) (id : UInt16)
    (requestor : PortIdentity) :
    SendsCorrection (port.handlePdelayResponseTimestamp p instanceState id requestor t) 0 := by
  obtain ⟨port', data, answer, -, hresult, hback, -, -, -, -, hcorrection, -⟩ :=
    port.handlePdelayResponseTimestamp_spec p hsdo id requestor ht
  exact ⟨port', _, data, answer, hresult, rfl, hback, hcorrection⟩

theorem handleSyncTimestamp_sends (p : Profile) (hmaster : port.portState = .master)
    (hsdo : instanceState.defaultDs.sdoId.InRange) (ht : t.InWireRange) (id : UInt16) :
    SendsCorrection (port.handleSyncTimestamp p instanceState id t) t.subnano.toInt := by
  obtain ⟨message, ts, -, hmessage, hrange, hsize, -, -, -, hcorrection⟩ :=
    Message.followUp_spec p hsdo port.portIdentity id port.config.minorPtpVersion ht
  obtain ⟨buffer, data, hdata, hback⟩ := port.packetBuffer.serialize_spec p hrange
    (by rw [hsize]; decide)
  refine ⟨{ port with packetBuffer := buffer }, .sendGeneral data false, data, message, ?_, rfl,
    hback, ?_⟩
  · rw [handleSyncTimestamp, if_pos hmaster, hmessage, ok_bind, hdata, ok_bind]
    rfl
  · rw [hcorrection]

/-- **Every answer carries the sum that it should**: the answer to this request, and the messages that
bring a send time afterwards. -/
structure AnswersCarrySums (p : Profile) (instanceState : PtpInstanceState)
    (port : Port Running A R C F) (request : Message) (t : Time) : Prop where
  delayResp : (∃ body, request.body = .delayReq body) →
    SendsCorrection (port.handleDelayReq p request.header t)
      (request.header.correctionField.toInt + t.subnano.toInt)
  pdelayResp : (∃ body, request.body = .pDelayReq body) →
    SendsCorrection (port.handlePdelayReq p instanceState request.header t)
      request.header.correctionField.toInt
  followUp : ∀ id, SendsCorrection (port.handleSyncTimestamp p instanceState id t) t.subnano.toInt
  pdelayRespFollowUp : ∀ id requestor,
    SendsCorrection (port.handlePdelayResponseTimestamp p instanceState id requestor t) 0

/-- **When the answers carry their sums**: only the sum of a delay response can be out of range. -/
theorem answers_carry_sums_iff (p : Profile) {instanceState : PtpInstanceState}
    {port : Port Running A R C F} {packet : List UInt8} {request : Message} {t : Time}
    (hrequest : Message.deserialize packet = .ok request) (hmaster : port.portState = .master)
    (hsdo : instanceState.defaultDs.sdoId.InRange) (ht : t.InWireRange) :
    AnswersCarrySums p instanceState port request t ↔
      ((∃ body, request.body = .delayReq body) →
        request.header.correctionField.toInt + t.subnano.toInt < 2 ^ 63) := by
  refine ⟨fun h hdelay => (h.delayResp hdelay).lt, fun h => ?_⟩
  have hheader := (Message.deserialize_spec hrequest).1.header
  constructor
  · exact fun hdelay => port.handleDelayReq_sends p hmaster hheader ht (h hdelay)
  · exact fun _ => port.handlePdelayReq_sends p request.header hsdo ht
  · exact port.handleSyncTimestamp_sends p hmaster hsdo ht
  · exact port.handlePdelayResponseTimestamp_sends p hsdo ht

end Port

end

/-! ### A request with the largest correction -/

/-- The delay request with sequence id 7 and this correction field. -/
def delayReqWithCorrection (correction : List UInt8) : List UInt8 :=
  delayReqBytes.take 8 ++ correction ++ delayReqBytes.drop 16

def delayReqMessageWithCorrection (correction : List UInt8) : Message where
  header := Header.ofBytes (delayReqWithCorrection correction)
  body := .delayReq { originTimestamp := default }
  suffix := default

/-- The greatest correction, `2^63 - 1`. -/
def greatestCorrection : List UInt8 := 0x7f :: List.replicate 7 0xff

/-- Half a nanosecond after a second. -/
def halfNanosecond : Time := Time.ofNanos 1000000000 (2 ^ 31)

theorem halfNanosecond_inWireRange : halfNanosecond.InWireRange := by
  unfold Time.InWireRange
  decide +kernel

/-- A request without a correction is answered with its sum. -/
theorem answers_carry_sums_no_correction : Port.AnswersCarrySums .debug
    (followingState testInstanceConfig) (testPort default .master) delayReqMessage halfNanosecond :=
  (Port.answers_carry_sums_iff .debug
    (by decide +kernel : Message.deserialize delayReqBytes = .ok delayReqMessage) rfl
    testInstanceConfig_sdoId_inRange halfNanosecond_inWireRange).mpr fun _ => by decide +kernel

/-- **A request with the greatest correction is not**: the sum panics in a debug build and is negative
in a release build. -/
theorem delay_resp_overflows :
    Message.deserialize (delayReqWithCorrection greatestCorrection) =
      .ok (delayReqMessageWithCorrection greatestCorrection) ∧
    halfNanosecond.InWireRange ∧
    Message.delayResp .debug (delayReqMessageWithCorrection greatestCorrection).header default ⟨0⟩
      halfNanosecond = .error .overflow ∧
    (∃ answer, Message.delayResp .release
        (delayReqMessageWithCorrection greatestCorrection).header default ⟨0⟩ halfNanosecond =
      .ok answer ∧ answer.header.correctionField.toInt = -2 ^ 63 + 32767) ∧
    ∀ p, ¬ Port.AnswersCarrySums p (followingState testInstanceConfig) (testPort default .master)
      (delayReqMessageWithCorrection greatestCorrection) halfNanosecond := by
  refine ⟨by decide +kernel, halfNanosecond_inWireRange, by rfl, ⟨_, rfl, by decide +kernel⟩,
    fun p h => ?_⟩
  have hlt := (h.delayResp ⟨_, rfl⟩).lt
  exact absurd hlt (by decide +kernel)

end Statime
