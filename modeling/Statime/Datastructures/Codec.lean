import Statime.Datastructures.Messages

/-!
# The wire codec

Writing a message and reading it back, for all ten body types.

* `InRange` says which messages have a wire form: the fields fit the bits they get, the
  header kept inside an announce is the header of the message, the suffix is a list of
  records and the whole fits the length field.
* `serialize_spec`: a message in range is written into any buffer that is long enough,
  and reading the bytes written gives the message back.
* `deserialize_spec`: what `deserialize` accepts is in range and takes as many bytes as
  the length field of the buffer says.
-/

namespace Statime

open Rust

/-! ### Fields -/

theorem byteAt_of_slice {b : List UInt8} {i : Nat} {x : UInt8} (h : slice b i (i + 1) = [x]) :
    byteAt b i = x := by
  rw [byteAt_eq_slice, h]
  rfl

theorem uint16_ofBE (v : UInt16) : UInt16.ofNat (ofBE (toBE 2 v.toNat)) = v := by
  rw [ofBE_toBE_of_lt v.toNat_lt, UInt16.ofNat_toNat]

namespace PortIdentity

theorem ofWire_toWire (i : PortIdentity) : ofWire i.toWire = i := by
  have hclock : slice i.toWire 0 8 = i.clockIdentity.toWire := by
    rw [toWire, slice_append_left (by simp), slice_all (by simp)]
  have hport : slice i.toWire 8 10 = toBE 2 i.portNumber.toNat := by
    rw [toWire, slice_append_right (by simp), ClockIdentity.length_toWire, slice_all (by simp)]
  rw [ofWire, hclock, hport, ClockIdentity.ofWire_toWire, uint16_ofBE]

end PortIdentity

namespace TimeInterval

@[simp] theorem length_toWire (i : TimeInterval) : i.toWire.length = 8 := by simp [toWire]

theorem ofWire_toWire (i : TimeInterval) : ofWire i.toWire = i := by
  have h : slice i.toWire 0 8 = toBE 8 i.inner.bits.toNat := slice_all (by simp)
  rw [ofWire, h, ofBE_toBE_of_lt i.inner.bits.isLt, BitVec.ofNat_toNat]
  simp

end TimeInterval

namespace WireTimestamp

/-- The seconds fit six bytes. -/
def InRange (t : WireTimestamp) : Prop := t.seconds.toNat < 2 ^ 48

@[simp] theorem length_toWire (t : WireTimestamp) : t.toWire.length = 10 := by simp [toWire]

theorem toBE_eight {v : Nat} (h : v < 2 ^ 48) : toBE 8 v = [0, 0] ++ (toBE 8 v).drop 2 := by
  have h7 : v / 256 ^ 7 = 0 := Nat.div_eq_of_lt (by omega)
  have h6 : v / 256 ^ 6 = 0 := Nat.div_eq_of_lt (by omega)
  simp only [toBE, h7, h6]
  rfl

theorem ofWire_toWire {t : WireTimestamp} (h : t.InRange) : ofWire t.toWire = t := by
  have hseconds : [0, 0] ++ slice t.toWire 0 6 = toBE 8 t.seconds.toNat := by
    rw [toWire, slice_append_left (by simp), slice_all (by simp), ← toBE_eight h]
  have hnanos : slice t.toWire 6 10 = toBE 4 t.nanos.toNat := by
    rw [toWire, slice_append_right (by simp)]
    exact slice_all (by simp)
  rw [ofWire, hseconds, hnanos, ofBE_toBE_of_lt t.seconds.toNat_lt,
    ofBE_toBE_of_lt t.nanos.toNat_lt, UInt64.ofNat_toNat, UInt32.ofNat_toNat]

theorem inRange_ofWire (b : List UInt8) : (ofWire b).InRange := by
  have hlen : (slice b 0 6).length ≤ 6 := by
    rw [length_slice]
    omega
  have hlt : ofBE (slice b 0 6) < 2 ^ 48 :=
    calc ofBE (slice b 0 6) < 256 ^ (slice b 0 6).length := ofBE_lt _
      _ ≤ 256 ^ 6 := Nat.pow_le_pow_right (by decide) hlen
      _ = 2 ^ 48 := by decide
  have hzeros : ofBE ([0, 0] ++ slice b 0 6) = ofBE (slice b 0 6) := by
    simp [ofBE_cons]
  rw [InRange, ofWire, hzeros]
  simp only [UInt64.toNat_ofNat']
  omega

end WireTimestamp

namespace ClockQuality

/-- A quality is written with the code of its accuracy, and read with what the code stands for. -/
theorem ofWire_toWire {p : Profile} {q : ClockQuality} {code : UInt8}
    (h : q.clockAccuracy.toPrimitive p = .ok code) :
    ∃ bytes, q.toWire p = .ok bytes ∧ bytes.length = 4 ∧
      ofWire bytes = { q with clockAccuracy := .fromPrimitive code } := by
  refine ⟨[q.clockClass, code] ++ toBE 2 q.offsetScaledLogVariance.toNat, ?_, by simp, ?_⟩
  · rw [toWire, h, ok_bind, pure_eq_ok]
  · have hvariance : slice ([q.clockClass, code] ++ toBE 2 q.offsetScaledLogVariance.toNat) 2 4
        = toBE 2 q.offsetScaledLogVariance.toNat := by
      rw [slice_append_right (by simp)]
      exact slice_all (by simp)
    rw [ofWire, hvariance, uint16_ofBE]
    simp only [byteAt, List.cons_append, List.nil_append, List.getD_cons_zero,
      List.getD_cons_succ]

end ClockQuality

theorem MessageType.tryFrom_toByte (t : MessageType) : tryFrom (t.toByte &&& 0x0f) = some t := by
  cases t <;> decide

theorem ManagementAction.fromPrimitive_toPrimitive (a : ManagementAction) :
    fromPrimitive a.toPrimitive = a := by
  cases a <;> rfl

/-! ### The header -/

namespace SdoId

/-- The twelve bits that two bytes of the header hold. -/
def InRange (s : SdoId) : Prop := s.value.toNat < 4096

/-- `sdoId` from the first and the sixth byte. -/
def ofBytes (b0 b5 : UInt8) : SdoId := ⟨((b0 &&& 0xf0).toUInt16 <<< 4) ||| b5.toUInt16⟩

theorem ofBytes_bytes {s : SdoId} (h : s.InRange) (t : MessageType) :
    ofBytes ((s.highByte <<< 4) ||| (t.toByte &&& 0x0f)) s.lowByte = s ∧
      ((s.highByte <<< 4) ||| (t.toByte &&& 0x0f)) &&& 0x0f = t.toByte &&& 0x0f := by
  have hnibbles : ∀ hi : Fin 16,
      (((UInt8.ofNat hi <<< 4) ||| (t.toByte &&& 0x0f)) &&& 0xf0 : UInt8) = UInt8.ofNat hi <<< 4 ∧
        ((UInt8.ofNat hi <<< 4) ||| (t.toByte &&& 0x0f)) &&& 0x0f = t.toByte &&& 0x0f := by
    cases t <;> decide +kernel
  have hvalue : ∀ (hi : Fin 16) (lo : Fin 256),
      ((UInt8.ofNat hi <<< 4).toUInt16 <<< 4) ||| (UInt8.ofNat lo).toUInt16
        = UInt16.ofNat (hi * 256 + lo) := by
    decide +kernel
  obtain ⟨v⟩ := s
  have hv : v.toNat < 4096 := h
  have hhigh : (v >>> 8).toUInt8 = UInt8.ofNat (v.toNat / 256) := by
    apply UInt8.toNat_inj.mp
    simp [Nat.shiftRight_eq_div_pow]
  have hlow : v.toUInt8 = UInt8.ofNat (v.toNat % 256) := by
    apply UInt8.toNat_inj.mp
    simp
  have hn := hnibbles ⟨v.toNat / 256, by omega⟩
  have hs := hvalue ⟨v.toNat / 256, by omega⟩ ⟨v.toNat % 256, by omega⟩
  simp only [highByte, lowByte, ofBytes, hhigh, hlow, hn.1, hs, SdoId.mk.injEq]
  refine ⟨?_, hn.2⟩
  rw [show v.toNat / 256 * 256 + v.toNat % 256 = v.toNat by omega, UInt16.ofNat_toNat]

theorem inRange_ofBytes (b0 b5 : UInt8) : (ofBytes b0 b5).InRange := by
  have hand : (b0 &&& 0xf0).toNat < 256 := (b0 &&& 0xf0).toNat_lt
  have hshift : ((b0 &&& 0xf0).toUInt16 <<< 4).toNat < 2 ^ 12 := by
    rw [UInt16.toNat_shiftLeft, UInt8.toNat_toUInt16, Nat.shiftLeft_eq]
    refine Nat.lt_of_le_of_lt (Nat.mod_le _ _) ?_
    rw [show (4 : UInt16).toNat % 16 = 4 by decide]
    omega
  have hlow : b5.toUInt16.toNat < 2 ^ 12 := by
    have := b5.toNat_lt
    rw [UInt8.toNat_toUInt16]
    omega
  rw [InRange, ofBytes, UInt16.toNat_or]
  exact Nat.or_lt_two_pow hshift hlow

end SdoId

namespace PtpVersion

/-- Both numbers fit four bits. -/
def InRange (v : PtpVersion) : Prop := v.major.toNat < 16 ∧ v.minor.toNat < 16

theorem fromByte_asByte {v : PtpVersion} (h : v.InRange) : fromByte v.asByte = v := by
  have key : ∀ major minor : Fin 16,
      fromByte (asByte ⟨UInt8.ofNat major, UInt8.ofNat minor⟩)
        = ⟨UInt8.ofNat major, UInt8.ofNat minor⟩ := by
    decide +kernel
  simpa using key ⟨v.major.toNat, h.1⟩ ⟨v.minor.toNat, h.2⟩

theorem inRange_fromByte (b : UInt8) : (fromByte b).InRange := by
  have hb := b.toNat_lt
  refine ⟨?_, ?_⟩
  · rw [fromByte, UInt8.toNat_and]
    exact Nat.lt_of_le_of_lt Nat.and_le_right (by decide)
  · rw [fromByte, UInt8.toNat_shiftRight]
    simp only [Nat.shiftRight_eq_div_pow]
    simp
    omega

end PtpVersion

namespace Header

structure InRange (h : Header) : Prop where
  sdoId : h.sdoId.InRange
  version : h.version.InRange

/-- The header that the first 34 bytes of a buffer stand for. -/
def ofBytes (b : List UInt8) : Header where
  sdoId := SdoId.ofBytes (byteAt b 0) (byteAt b 5)
  version := PtpVersion.fromByte (byteAt b 1)
  domainNumber := byteAt b 4
  alternateMasterFlag := hasBit (byteAt b 6) 0
  twoStepFlag := hasBit (byteAt b 6) 1
  unicastFlag := hasBit (byteAt b 6) 2
  ptpProfileSpecific1 := hasBit (byteAt b 6) 5
  ptpProfileSpecific2 := hasBit (byteAt b 6) 6
  leap61 := hasBit (byteAt b 7) 0
  leap59 := hasBit (byteAt b 7) 1
  currentUtcOffsetValid := hasBit (byteAt b 7) 2
  ptpTimescale := hasBit (byteAt b 7) 3
  timeTracable := hasBit (byteAt b 7) 4
  frequencyTracable := hasBit (byteAt b 7) 5
  synchronizationUncertain := hasBit (byteAt b 7) 6
  correctionField := TimeInterval.ofWire (slice b 8 16)
  sourcePortIdentity := PortIdentity.ofWire (slice b 20 30)
  sequenceId := UInt16.ofNat (ofBE (slice b 30 32))
  logMessageInterval := (byteAt b 33).toInt8

theorem ofBytes_append {b : List UInt8} (rest : List UInt8) (h : 34 ≤ b.length) :
    ofBytes (b ++ rest) = ofBytes b := by
  have hbyte : ∀ i, i < 34 → byteAt (b ++ rest) i = byteAt b i := fun i hi =>
    byteAt_append_left (by omega)
  have hslice : ∀ i j, j ≤ 34 → slice (b ++ rest) i j = slice b i j := fun i j hj =>
    slice_append_left (by omega)
  simp only [ofBytes, hbyte 0 (by decide), hbyte 1 (by decide), hbyte 4 (by decide),
    hbyte 5 (by decide), hbyte 6 (by decide), hbyte 7 (by decide), hbyte 33 (by decide),
    hslice 8 16 (by decide), hslice 20 30 (by decide), hslice 30 32 (by decide)]

theorem inRange_ofBytes (b : List UInt8) : (ofBytes b).InRange :=
  ⟨SdoId.inRange_ofBytes _ _, PtpVersion.inRange_fromByte _⟩

theorem deserializeHeader_eq {b : List UInt8} (h : 34 ≤ b.length) :
    deserializeHeader b = (okOr (MessageType.tryFrom (byteAt b 0 &&& 0x0f)) .enumConversionError
      >>= fun messageType => .ok
        { header := ofBytes b, messageType, messageLength := UInt16.ofNat (ofBE (slice b 2 4)) }) := by
  rw [deserializeHeader, if_neg (by omega)]
  simp only [index_eq_ok (show 0 < b.length by omega), index_eq_ok (show 1 < b.length by omega),
    index_eq_ok (show 4 < b.length by omega), index_eq_ok (show 5 < b.length by omega),
    index_eq_ok (show 6 < b.length by omega), index_eq_ok (show 7 < b.length by omega),
    index_eq_ok (show 33 < b.length by omega),
    readAt_eq_ok (show 8 ≤ 16 by decide) (show 16 ≤ b.length by omega),
    readAt_eq_ok (show 20 ≤ 30 by decide) (show 30 ≤ b.length by omega),
    readAt_eq_ok (show 30 ≤ 32 by decide) (show 32 ≤ b.length by omega),
    readAt_eq_ok (show 2 ≤ 4 by decide) (show 4 ≤ b.length by omega), must_ok, ok_bind]
  rfl

theorem deserializeHeader_eq_ok {b : List UInt8} {d : DeserializedHeader}
    (h : deserializeHeader b = .ok d) :
    34 ≤ b.length ∧ MessageType.tryFrom (byteAt b 0 &&& 0x0f) = some d.messageType ∧
      d.header = ofBytes b ∧ d.messageLength = UInt16.ofNat (ofBE (slice b 2 4)) := by
  have hlen : 34 ≤ b.length := by
    by_contra hshort
    rw [deserializeHeader, if_pos (by omega)] at h
    cases h
  rw [deserializeHeader_eq hlen] at h
  obtain ⟨t, ht, h⟩ := bind_eq_ok.mp h
  obtain rfl := Except.ok.inj h
  exact ⟨hlen, okOr_eq_ok.mp ht, rfl, rfl⟩

theorem hasBit_flagByte0 (h : Header) :
    hasBit h.flagByte0 0 = h.alternateMasterFlag ∧ hasBit h.flagByte0 1 = h.twoStepFlag ∧
      hasBit h.flagByte0 2 = h.unicastFlag ∧ hasBit h.flagByte0 5 = h.ptpProfileSpecific1 ∧
      hasBit h.flagByte0 6 = h.ptpProfileSpecific2 := by
  simp only [flagByte0]
  generalize h.alternateMasterFlag = f0, h.twoStepFlag = f1, h.unicastFlag = f2,
    h.ptpProfileSpecific1 = f5, h.ptpProfileSpecific2 = f6
  revert f0 f1 f2 f5 f6
  decide

theorem hasBit_flagByte1 (h : Header) :
    hasBit h.flagByte1 0 = h.leap61 ∧ hasBit h.flagByte1 1 = h.leap59 ∧
      hasBit h.flagByte1 2 = h.currentUtcOffsetValid ∧ hasBit h.flagByte1 3 = h.ptpTimescale ∧
      hasBit h.flagByte1 4 = h.timeTracable ∧ hasBit h.flagByte1 5 = h.frequencyTracable ∧
      hasBit h.flagByte1 6 = h.synchronizationUncertain := by
  simp only [flagByte1]
  generalize h.leap61 = f0, h.leap59 = f1, h.currentUtcOffsetValid = f2, h.ptpTimescale = f3,
    h.timeTracable = f4, h.frequencyTracable = f5, h.synchronizationUncertain = f6
  revert f0 f1 f2 f3 f4 f5 f6
  decide

/-- The copies that make up a header. -/
def layout (h : Header) (t : MessageType) (n : Nat) : List (Nat × List UInt8) :=
  [
    (0, [(h.sdoId.highByte <<< 4) ||| (t.toByte &&& 0x0f)]),
    (1, [h.version.asByte]), (2, toBE 2 (n + wireSize)), (4, [h.domainNumber]),
    (5, [h.sdoId.lowByte]), (6, [h.flagByte0]), (7, [h.flagByte1]),
    (8, h.correctionField.toWire), (16, [0, 0, 0, 0]), (20, h.sourcePortIdentity.toWire),
    (30, toBE 2 h.sequenceId.toNat), (32, [t.controlField]),
    (33, [h.logMessageInterval.toUInt8])]

theorem serializeHeader_layout (h : Header) (t : MessageType) (n : Nat) {buffer : List UInt8}
    (hlen : buffer.length = 34) :
    ∃ out, h.serializeHeader t n buffer = .ok out ∧ out.length = 34 ∧
      ∀ seg ∈ h.layout t n, slice out seg.1 (seg.1 + seg.2.length) = seg.2 := by
  obtain ⟨out, hout, houtlen, hread⟩ :=
    fill_layout (b := buffer) (h.layout t n) (by simp [layout, hlen]) (by simp [layout])
  exact ⟨out, hout, houtlen.trans hlen, hread⟩

/-- **The header survives the wire**, together with the type and the length field. -/
theorem serializeHeader_spec {h : Header} (hr : h.InRange) (t : MessageType) (n : Nat)
    {buffer : List UInt8} (hlen : buffer.length = 34) :
    ∃ out, h.serializeHeader t n buffer = .ok out ∧ out.length = 34 ∧
      MessageType.tryFrom (byteAt out 0 &&& 0x0f) = some t ∧ ofBytes out = h ∧
      ofBE (slice out 2 4) = (n + 34) % 65536 := by
  obtain ⟨out, hout, houtlen, hread⟩ := h.serializeHeader_layout t n hlen
  simp only [layout, List.forall_mem_cons, List.length_cons, List.length_nil, length_toBE,
    TimeInterval.length_toWire, PortIdentity.length_toWire, Nat.reduceAdd] at hread
  obtain ⟨h0, h1, h2, h4, h5, h6, h7, h8, -, h20, h30, -, h33, -⟩ := hread
  obtain ⟨hsdo, htype⟩ := SdoId.ofBytes_bytes hr.sdoId t
  refine ⟨out, hout, houtlen, ?_, ?_, ?_⟩
  · rw [byteAt_of_slice h0, htype, MessageType.tryFrom_toByte]
  · simp only [ofBytes, byteAt_of_slice h0, byteAt_of_slice h1, byteAt_of_slice h4,
      byteAt_of_slice h5, byteAt_of_slice h6, byteAt_of_slice h7, byteAt_of_slice h33,
      h8, h20, h30, hsdo, PtpVersion.fromByte_asByte hr.version, hasBit_flagByte0,
      hasBit_flagByte1, TimeInterval.ofWire_toWire, PortIdentity.ofWire_toWire, uint16_ofBE]
    simp
  · rw [h2, ofBE_toBE]
    rfl

end Header

/-! ### The bodies -/

namespace MessageBody

/-- The fields of a body that the wire format narrows.  An announce repeats the header. -/
def InRange (header : Header) : MessageBody → Prop
  | sync m => m.originTimestamp.InRange
  | delayReq m => m.originTimestamp.InRange
  | pDelayReq m => m.originTimestamp.InRange
  | pDelayResp m => m.requestReceiveTimestamp.InRange
  | followUp m => m.preciseOriginTimestamp.InRange
  | delayResp m => m.receiveTimestamp.InRange
  | pDelayRespFollowUp m => m.responseOriginTimestamp.InRange
  | announce m => m.header = header ∧ m.originTimestamp.InRange ∧
      m.grandmasterClockQuality.clockAccuracy.OnWire ∧ m.timeSource.OnWire
  | signaling _ => True
  | management _ => True

end MessageBody

theorem serializeTimestamp_spec {t : WireTimestamp} (h : t.InRange) {buffer : List UInt8}
    (hlen : buffer.length = 10) :
    ∃ out, serializeTimestamp t buffer = .ok out ∧ out.length = 10 ∧
      ∀ rest, deserializeTimestamp (out ++ rest) = .ok t := by
  obtain ⟨out, hout, houtlen, hread⟩ := fill_layout (b := buffer) [(0, t.toWire)]
    (by simp [hlen]) (by simp)
  simp only [List.forall_mem_cons, WireTimestamp.length_toWire, Nat.reduceAdd] at hread
  refine ⟨out, by rw [serializeTimestamp, hout, must_ok], by omega, fun rest => ?_⟩
  rw [deserializeTimestamp, getRange_append_left (by decide) (by omega), hread.1, okOr_some, ok_bind, WireTimestamp.ofWire_toWire h]
  rfl

/-- The two copies that `PDelayResp`, `PDelayRespFollowUp` and `DelayResp` make. -/
theorem fill_timestampAndPort (t : WireTimestamp) (i : PortIdentity) {buffer : List UInt8}
    (hlen : buffer.length = 20) :
    ∃ out, fill buffer [(0, t.toWire), (10, i.toWire)] = .ok out ∧ out.length = 20 ∧
      slice out 0 10 = t.toWire ∧ slice out 10 20 = i.toWire := by
  obtain ⟨out, hout, houtlen, hread⟩ := fill_layout (b := buffer)
    [(0, t.toWire), (10, i.toWire)] (by simp [hlen]) (by simp)
  simp only [List.forall_mem_cons, WireTimestamp.length_toWire, PortIdentity.length_toWire,
    Nat.reduceAdd] at hread
  exact ⟨out, hout, by omega, hread.1, hread.2.1⟩

theorem serializeTimestampAndPort_spec {t : WireTimestamp} (h : t.InRange) (i : PortIdentity)
    {buffer : List UInt8} (hlen : buffer.length = 20) :
    ∃ out, serializeTimestampAndPort t i buffer = .ok out ∧ out.length = 20 ∧
      ∀ rest, deserializeTimestampAndPort (out ++ rest) = .ok (t, i) := by
  obtain ⟨out, hout, houtlen, ht, hi⟩ := fill_timestampAndPort t i hlen
  refine ⟨out, by rw [serializeTimestampAndPort, if_neg (by omega), hout, must_ok], houtlen,
    fun rest => ?_⟩
  have hlen' : 20 ≤ (out ++ rest).length := by
    rw [List.length_append]
    omega
  rw [deserializeTimestampAndPort, if_neg (by omega), readAt_eq_ok (by decide) (by omega),
    readAt_eq_ok (by decide) hlen', slice_append_left (by omega), slice_append_left (by omega),
    ht, hi, must_ok, must_ok, ok_bind, ok_bind, WireTimestamp.ofWire_toWire h,
    PortIdentity.ofWire_toWire]
  rfl

theorem DelayRespMessage.serializeContent_spec {m : DelayRespMessage}
    (h : m.receiveTimestamp.InRange) {buffer : List UInt8} (hlen : buffer.length = 20) :
    ∃ out, m.serializeContent buffer = .ok out ∧ out.length = 20 ∧
      ∀ rest, deserializeContent (out ++ rest) = .ok m := by
  obtain ⟨out, hout, houtlen, ht, hi⟩ :=
    fill_timestampAndPort m.receiveTimestamp m.requestingPortIdentity hlen
  refine ⟨out, by rw [serializeContent, hout, must_ok], houtlen, fun rest => ?_⟩
  rw [deserializeContent, getRange_append_left (by decide) (by omega), slice_all (by omega),
    okOr_some, ok_bind, readAt_eq_ok (by decide) (by omega), readAt_eq_ok (by decide) (by omega),
    ht, hi, must_ok, must_ok, ok_bind, ok_bind, WireTimestamp.ofWire_toWire h,
    PortIdentity.ofWire_toWire]
  rfl

theorem PDelayReqMessage.serializeContent_spec {m : PDelayReqMessage}
    (h : m.originTimestamp.InRange) {buffer : List UInt8} (hlen : buffer.length = 20) :
    ∃ out, m.serializeContent buffer = .ok out ∧ out.length = 20 ∧
      ∀ rest, deserializeContent (out ++ rest) = .ok m := by
  obtain ⟨out, hout, houtlen, hread⟩ := fill_layout (b := buffer)
    [(0, m.originTimestamp.toWire), (10, List.replicate 10 0)]
    (by simp [hlen]) (by simp)
  simp only [List.forall_mem_cons, WireTimestamp.length_toWire, Nat.reduceAdd] at hread
  refine ⟨out, by rw [serializeContent, if_neg (by omega), hout, must_ok], by omega,
    fun rest => ?_⟩
  -- only the first ten of the twenty bytes are looked at
  have hfirst : WireTimestamp.ofWire out = WireTimestamp.ofWire (slice out 0 10) := by
    simp only [WireTimestamp.ofWire, slice_of_slice (show 0 + 6 ≤ 10 by decide),
      slice_of_slice (show 0 + 10 ≤ 10 by decide), Nat.zero_add]
  rw [deserializeContent, getRange_append_left (by decide) (by omega), slice_all (by omega),
    okOr_some, ok_bind, hfirst, hread.1, WireTimestamp.ofWire_toWire h]
  rfl

/-- The copies that make up an announce message. -/
def AnnounceMessage.layout (m : AnnounceMessage) (quality : List UInt8) (source : UInt8) :
    List (Nat × List UInt8) :=
  [(0, m.originTimestamp.toWire), (10, toBE 2 m.currentUtcOffset.toUInt16.toNat),
    (13, [m.grandmasterPriority1]), (14, quality), (18, [m.grandmasterPriority2]),
    (19, m.grandmasterIdentity.toWire), (27, toBE 2 m.stepsRemoved.toNat), (29, [source])]

/-- An announce message is written when its two codes are. -/
theorem AnnounceMessage.serializeContent_layout {p : Profile} {m : AnnounceMessage}
    {quality : List UInt8} {source : UInt8} (hquality : m.grandmasterClockQuality.toWire p = .ok quality)
    (hqlen : quality.length = 4) (hsource : m.timeSource.toPrimitive p = .ok source)
    {buffer : List UInt8} (hlen : buffer.length = 30) :
    ∃ out, m.serializeContent p buffer = .ok out ∧ out.length = 30 ∧
      ∀ seg ∈ m.layout quality source, slice out seg.1 (seg.1 + seg.2.length) = seg.2 := by
  obtain ⟨out, hout, houtlen, hread⟩ := fill_layout (b := buffer) (m.layout quality source)
    (by simp [layout, hlen, hqlen]) (by simp [layout, hqlen])
  refine ⟨out, ?_, houtlen.trans hlen, hread⟩
  unfold layout at hout
  rw [serializeContent, if_neg (by omega), hquality, must_ok, ok_bind, hsource, must_ok, ok_bind,
    hout, must_ok]

/-- The message that is read when these are the codes of its accuracy and its time source. -/
def AnnounceMessage.decoded (m : AnnounceMessage) (code source : UInt8) : AnnounceMessage :=
  { m with
    grandmasterClockQuality :=
      { m.grandmasterClockQuality with clockAccuracy := .fromPrimitive code }
    timeSource := .fromPrimitive source }

/-- **Every announce message with codes survives the wire**, apart from these two fields. -/
theorem AnnounceMessage.serializeContent_spec {p : Profile} {m : AnnounceMessage} {code source : UInt8}
    (ht : m.originTimestamp.InRange)
    (hq : m.grandmasterClockQuality.clockAccuracy.toPrimitive p = .ok code)
    (hsource : m.timeSource.toPrimitive p = .ok source) {buffer : List UInt8}
    (hlen : buffer.length = 30) :
    ∃ out, m.serializeContent p buffer = .ok out ∧ out.length = 30 ∧
      ∀ rest, deserializeContent m.header (out ++ rest) = .ok (m.decoded code source) := by
  obtain ⟨quality, hquality, hqlen, hqback⟩ := ClockQuality.ofWire_toWire hq
  obtain ⟨out, hout, houtlen, hread⟩ := serializeContent_layout hquality hqlen hsource hlen
  simp only [layout, List.forall_mem_cons, List.length_cons, List.length_nil, length_toBE, hqlen,
    WireTimestamp.length_toWire, ClockIdentity.length_toWire, Nat.reduceAdd] at hread
  obtain ⟨h0, h10, h13, h14, h18, h19, h27, h29, -⟩ := hread
  refine ⟨out, hout, houtlen, fun rest => ?_⟩
  have hlen' : 30 ≤ (out ++ rest).length := by
    rw [List.length_append]
    omega
  have hslice : ∀ i j, j ≤ 30 → slice (out ++ rest) i j = slice out i j := fun i j hj =>
    slice_append_left (by omega)
  have hbyte : ∀ i, i < 30 → byteAt (out ++ rest) i = byteAt out i := fun i hi =>
    byteAt_append_left (by omega)
  rw [deserializeContent, if_neg (by omega)]
  simp only [index_eq_ok (show 13 < (out ++ rest).length by omega),
    index_eq_ok (show 18 < (out ++ rest).length by omega),
    index_eq_ok (show 29 < (out ++ rest).length by omega),
    readAt_eq_ok (show 0 ≤ 10 by decide) (show 10 ≤ (out ++ rest).length by omega),
    readAt_eq_ok (show 10 ≤ 12 by decide) (show 12 ≤ (out ++ rest).length by omega),
    readAt_eq_ok (show 14 ≤ 18 by decide) (show 18 ≤ (out ++ rest).length by omega),
    readAt_eq_ok (show 19 ≤ 27 by decide) (show 27 ≤ (out ++ rest).length by omega),
    readAt_eq_ok (show 27 ≤ 29 by decide) (show 29 ≤ (out ++ rest).length by omega),
    hslice 0 10 (by decide), hslice 10 12 (by decide), hslice 14 18 (by decide),
    hslice 19 27 (by decide), hslice 27 29 (by decide), hbyte 13 (by decide),
    hbyte 18 (by decide), hbyte 29 (by decide), byteAt_of_slice h13, byteAt_of_slice h18,
    byteAt_of_slice h29, h0, h10, h14, h19, h27, must_ok, ok_bind,
    WireTimestamp.ofWire_toWire ht, uint16_ofBE, hqback, ClockIdentity.ofWire_toWire, decoded]
  simp

theorem SignalingMessage.serializeContent_spec (m : SignalingMessage) {buffer : List UInt8}
    (hlen : buffer.length = 10) :
    ∃ out, m.serializeContent buffer = .ok out ∧ out.length = 10 ∧
      ∀ rest, deserializeContent (out ++ rest) = .ok m := by
  obtain ⟨out, hout, houtlen, hread⟩ := fill_layout (b := buffer)
    [(0, m.targetPortIdentity.toWire)] (by simp [hlen]) (by simp)
  simp only [List.forall_mem_cons, PortIdentity.length_toWire, Nat.reduceAdd] at hread
  refine ⟨out, by rw [serializeContent, if_neg (by omega), hout, must_ok], by omega,
    fun rest => ?_⟩
  rw [deserializeContent, getRange_append_left (by decide) (by omega), hread.1, okOr_some, ok_bind,
    PortIdentity.ofWire_toWire]
  rfl

theorem ManagementMessage.serializeContent_spec (m : ManagementMessage) {buffer : List UInt8}
    (hlen : buffer.length = 14) :
    ∃ out, m.serializeContent buffer = .ok out ∧ out.length = 14 ∧
      ∀ rest, deserializeContent (out ++ rest) = .ok m := by
  obtain ⟨out, hout, houtlen, hread⟩ := fill_layout (b := buffer) [
    (0, m.targetPortIdentity.toWire), (11, [m.startingBoundaryHops]), (12, [m.boundaryHops]),
    (13, [m.action.toPrimitive])] (by simp [hlen]) (by simp)
  simp only [List.forall_mem_cons, List.length_cons, List.length_nil,
    PortIdentity.length_toWire, Nat.reduceAdd] at hread
  obtain ⟨h0, h11, h12, h13, -⟩ := hread
  refine ⟨out, by rw [serializeContent, hout, must_ok], by omega, fun rest => ?_⟩
  have hlen' : 14 ≤ (out ++ rest).length := by
    rw [List.length_append]
    omega
  have hbyte : ∀ i, i < 14 → byteAt (out ++ rest) i = byteAt out i := fun i hi =>
    byteAt_append_left (by omega)
  rw [deserializeContent, if_neg (by omega), readAt_eq_ok (by decide) (by omega),
    slice_append_left (by omega)]
  simp only [index_eq_ok (show 11 < (out ++ rest).length by omega),
    index_eq_ok (show 12 < (out ++ rest).length by omega),
    index_eq_ok (show 13 < (out ++ rest).length by omega), hbyte 11 (by decide),
    hbyte 12 (by decide), hbyte 13 (by decide), byteAt_of_slice h11, byteAt_of_slice h12,
    byteAt_of_slice h13, h0, must_ok, ok_bind, PortIdentity.ofWire_toWire,
    ManagementAction.fromPrimitive_toPrimitive]
  rfl

namespace MessageBody

/-- **Every body survives the wire.** -/
theorem serialize_spec (p : Profile) {body : MessageBody} {header : Header}
    (h : body.InRange header) {buffer : List UInt8} (hlen : buffer.length = body.wireSize) :
    ∃ out, body.serialize p buffer = .ok out ∧ out.length = body.wireSize ∧
      ∀ rest, deserialize body.contentType header (out ++ rest) = .ok body := by
  cases body with
  | sync m =>
    obtain ⟨out, hout, houtlen, hback⟩ := serializeTimestamp_spec h hlen
    refine ⟨out, hout, houtlen, fun rest => ?_⟩
    simp only [contentType, deserialize, SyncMessage.deserializeContent, hback, ok_bind, pure_eq_ok]
  | delayReq m =>
    obtain ⟨out, hout, houtlen, hback⟩ := serializeTimestamp_spec h hlen
    refine ⟨out, hout, houtlen, fun rest => ?_⟩
    simp only [contentType, deserialize, DelayReqMessage.deserializeContent, hback, ok_bind,
      pure_eq_ok]
  | followUp m =>
    obtain ⟨out, hout, houtlen, hback⟩ := serializeTimestamp_spec h hlen
    refine ⟨out, hout, houtlen, fun rest => ?_⟩
    simp only [contentType, deserialize, FollowUpMessage.deserializeContent, hback, ok_bind,
      pure_eq_ok]
  | pDelayReq m =>
    obtain ⟨out, hout, houtlen, hback⟩ := PDelayReqMessage.serializeContent_spec h hlen
    refine ⟨out, hout, houtlen, fun rest => ?_⟩
    simp only [contentType, deserialize, hback, ok_bind, pure_eq_ok]
  | pDelayResp m =>
    obtain ⟨out, hout, houtlen, hback⟩ :=
      serializeTimestampAndPort_spec h m.requestingPortIdentity hlen
    refine ⟨out, hout, houtlen, fun rest => ?_⟩
    simp only [contentType, deserialize, PDelayRespMessage.deserializeContent, hback, ok_bind,
      pure_eq_ok]
  | pDelayRespFollowUp m =>
    obtain ⟨out, hout, houtlen, hback⟩ :=
      serializeTimestampAndPort_spec h m.requestingPortIdentity hlen
    refine ⟨out, hout, houtlen, fun rest => ?_⟩
    simp only [contentType, deserialize, PDelayRespFollowUpMessage.deserializeContent, hback,
      ok_bind, pure_eq_ok]
  | delayResp m =>
    obtain ⟨out, hout, houtlen, hback⟩ := DelayRespMessage.serializeContent_spec h hlen
    refine ⟨out, hout, houtlen, fun rest => ?_⟩
    simp only [contentType, deserialize, hback, ok_bind, pure_eq_ok]
  | announce m =>
    obtain ⟨rfl, ht, hq, hs⟩ := h
    obtain ⟨code, hcode, hqback⟩ := ClockAccuracy.fromPrimitive_toPrimitive p hq
    obtain ⟨source, hsource, hsback⟩ := TimeSource.fromPrimitive_toPrimitive p hs
    obtain ⟨out, hout, houtlen, hback⟩ :=
      AnnounceMessage.serializeContent_spec ht hcode hsource hlen
    refine ⟨out, hout, houtlen, fun rest => ?_⟩
    simp only [contentType, deserialize, hback, ok_bind, pure_eq_ok, AnnounceMessage.decoded, hqback,
      hsback]
  | signaling m =>
    obtain ⟨out, hout, houtlen, hback⟩ := SignalingMessage.serializeContent_spec m hlen
    refine ⟨out, hout, houtlen, fun rest => ?_⟩
    simp only [contentType, deserialize, hback, ok_bind, pure_eq_ok]
  | management m =>
    obtain ⟨out, hout, houtlen, hback⟩ := ManagementMessage.serializeContent_spec m hlen
    refine ⟨out, hout, houtlen, fun rest => ?_⟩
    simp only [contentType, deserialize, hback, ok_bind, pure_eq_ok]

theorem deserializeTimestamp_inRange {b : List UInt8} {t : WireTimestamp}
    (h : deserializeTimestamp b = .ok t) : t.InRange := by
  obtain ⟨s, -, h⟩ := bind_eq_ok.mp h
  rw [← Except.ok.inj h]
  exact WireTimestamp.inRange_ofWire s

theorem deserializeTimestampAndPort_inRange {b : List UInt8} {r : WireTimestamp × PortIdentity}
    (h : deserializeTimestampAndPort b = .ok r) : r.1.InRange := by
  rw [deserializeTimestampAndPort] at h
  split at h
  · cases h
  · obtain ⟨t, -, h⟩ := bind_eq_ok.mp h
    obtain ⟨i, -, h⟩ := bind_eq_ok.mp h
    rw [← Except.ok.inj h]
    exact WireTimestamp.inRange_ofWire t

theorem announce_inRange {header : Header} {b : List UInt8} {m : AnnounceMessage}
    (h : AnnounceMessage.deserializeContent header b = .ok m) : (announce m).InRange header := by
  rw [AnnounceMessage.deserializeContent] at h
  split at h
  · cases h
  · obtain ⟨origin, -, h⟩ := bind_eq_ok.mp h
    obtain ⟨offset, -, h⟩ := bind_eq_ok.mp h
    obtain ⟨priority1, -, h⟩ := bind_eq_ok.mp h
    obtain ⟨quality, -, h⟩ := bind_eq_ok.mp h
    obtain ⟨priority2, -, h⟩ := bind_eq_ok.mp h
    obtain ⟨identity, -, h⟩ := bind_eq_ok.mp h
    obtain ⟨steps, -, h⟩ := bind_eq_ok.mp h
    obtain ⟨source, -, h⟩ := bind_eq_ok.mp h
    rw [← Except.ok.inj h]
    exact ⟨rfl, WireTimestamp.inRange_ofWire origin, ⟨_, rfl⟩, ⟨source, rfl⟩⟩

/-- A body that was read is of the type asked for, and in range. -/
theorem deserialize_spec {t : MessageType} {header : Header} {b : List UInt8} {body : MessageBody}
    (h : deserialize t header b = .ok body) : body.contentType = t ∧ body.InRange header := by
  cases t <;> obtain ⟨m, hm, h⟩ := bind_eq_ok.mp h <;> obtain rfl := Except.ok.inj h <;>
    refine ⟨rfl, ?_⟩
  case sync | delayReq | followUp =>
    obtain ⟨t, ht, hm⟩ := bind_eq_ok.mp hm
    obtain rfl := Except.ok.inj hm
    exact deserializeTimestamp_inRange ht
  case pDelayResp | pDelayRespFollowUp =>
    obtain ⟨r, hr, hm⟩ := bind_eq_ok.mp hm
    obtain rfl := Except.ok.inj hm
    exact deserializeTimestampAndPort_inRange hr
  case pDelayReq =>
    obtain ⟨s, -, hm⟩ := bind_eq_ok.mp hm
    obtain rfl := Except.ok.inj hm
    exact WireTimestamp.inRange_ofWire s
  case delayResp =>
    obtain ⟨s, -, hm⟩ := bind_eq_ok.mp hm
    obtain ⟨t, -, hm⟩ := bind_eq_ok.mp hm
    obtain ⟨i, -, hm⟩ := bind_eq_ok.mp hm
    obtain rfl := Except.ok.inj hm
    exact WireTimestamp.inRange_ofWire t
  case announce => exact announce_inRange hm
  case signaling | management => trivial

end MessageBody

/-! ### Whole messages -/

theorem must_eq_ok {α : Type} {x : Except Panic α} {a : α} : must x = .ok a ↔ x = .ok a := by
  cases x <;> simp [must]

theorem unwrapWire_eq_ok {α : Type} {x : Except Failure α} {a : α} :
    unwrapWire x = .ok a ↔ x = .ok a := by
  rcases x with (e | why) | b <;> simp [unwrapWire]

/-- A body is written in place, whatever its fields hold. -/
theorem MessageBody.length_serialize {p : Profile} {body : MessageBody} {buffer out : List UInt8}
    (h : body.serialize p buffer = .ok out) : out.length = buffer.length := by
  have hfill : ∀ segs, must (fill buffer segs) = .ok out → out.length = buffer.length :=
    fun segs h => length_fill segs _ _ (must_eq_ok.mp h)
  cases body with
  | sync m => exact hfill _ h
  | delayReq m => exact hfill _ h
  | followUp m => exact hfill _ h
  | delayResp m => exact hfill _ h
  | management m => exact hfill _ h
  | pDelayReq m =>
    simp only [serialize, PDelayReqMessage.serializeContent] at h
    split at h
    · cases h
    · exact hfill _ h
  | pDelayResp m =>
    simp only [serialize, PDelayRespMessage.serializeContent, serializeTimestampAndPort] at h
    split at h
    · cases h
    · exact hfill _ h
  | pDelayRespFollowUp m =>
    simp only [serialize, PDelayRespFollowUpMessage.serializeContent,
      serializeTimestampAndPort] at h
    split at h
    · cases h
    · exact hfill _ h
  | signaling m =>
    simp only [serialize, SignalingMessage.serializeContent] at h
    split at h
    · cases h
    · exact hfill _ h
  | announce m =>
    simp only [serialize, AnnounceMessage.serializeContent] at h
    split at h
    · cases h
    · obtain ⟨quality, -, h⟩ := bind_eq_ok.mp h
      obtain ⟨source, -, h⟩ := bind_eq_ok.mp h
      exact hfill _ h

namespace Message

/-- The bytes that a message takes on the wire. -/
def size (m : Message) : Nat := Header.wireSize + m.body.wireSize + m.suffix.bytes.length

/-- The messages that have a wire form. -/
structure InRange (m : Message) : Prop where
  header : m.header.InRange
  body : m.body.InRange m.header
  suffix : TlvSet.Accepted m.suffix.bytes
  size : m.size ≤ 65535

theorem wireSize_of_accepted (p : Profile) {m : Message} (h : TlvSet.Accepted m.suffix.bytes) :
    m.suffix.wireSize p = .ok m.suffix.bytes.length ∧ m.wireSize p = .ok m.size := by
  obtain ⟨s, hs⟩ := h
  have heven : m.suffix.bytes.length % 2 = 0 := (TlvSet.deserialize_bytes hs).2
  have hsuffix : m.suffix.wireSize p = .ok m.suffix.bytes.length := by
    rw [TlvSet.wireSize, decide_eq_true heven, debugAssert_true, ok_bind, pure_eq_ok]
  exact ⟨hsuffix, by rw [wireSize, hsuffix, ok_bind, pure_eq_ok]; rfl⟩

/-- **What is written**: a header, a body and the suffix, and the rest of the buffer stays. -/
theorem serialize_iff {p : Profile} {m : Message} {buffer out : List UInt8} {n : Nat} :
    m.serialize p buffer = .ok (out, n) ↔ ∃ header body, m.size ≤ buffer.length ∧
      m.suffix.wireSize p = .ok m.suffix.bytes.length ∧
      m.header.serializeHeader m.body.contentType (m.body.wireSize + m.suffix.bytes.length)
        (slice buffer 0 34) = .ok header ∧
      m.body.serialize p (slice (buffer.drop 34) 0 m.body.wireSize) = .ok body ∧
      out = header ++ body ++ m.suffix.bytes ++ buffer.drop m.size ∧ n = m.size := by
  have hm : m.size = 34 + m.body.wireSize + m.suffix.bytes.length := rfl
  have hdrop : ((buffer.drop 34).drop m.body.wireSize).drop m.suffix.bytes.length =
      buffer.drop m.size := by
    rw [List.drop_drop, List.drop_drop, hm, Nat.add_assoc]
  constructor
  · intro h
    obtain ⟨header, hheader, h⟩ := bind_eq_ok.mp h
    dsimp only at h
    obtain ⟨body, hbody, h⟩ := bind_eq_ok.mp h
    obtain ⟨suffixSize, hsuffixSize, h⟩ := bind_eq_ok.mp h
    obtain ⟨header', hheader', h⟩ := bind_eq_ok.mp h
    obtain ⟨body', hbody', h⟩ := bind_eq_ok.mp h
    obtain ⟨tlv, htlv, h⟩ := bind_eq_ok.mp h
    obtain ⟨size, hsize, h⟩ := bind_eq_ok.mp h
    obtain ⟨rfl, rfl⟩ := Prod.mk.inj (Except.ok.inj h)
    have hsuffix : suffixSize = m.suffix.bytes.length := by
      obtain ⟨-, -, hsuffix⟩ := bind_eq_ok.mp hsuffixSize
      exact (Except.ok.inj hsuffix).symm
    subst hsuffix
    rw [readAt] at hheader hbody
    split at hheader
    · split at hbody
      · rename_i hfit
        obtain rfl := Except.ok.inj hheader
        obtain rfl := Except.ok.inj hbody
        rw [unwrapWire_eq_ok, okOr_eq_ok, TlvSet.serialize] at htlv
        split at htlv
        · rename_i hsuffix
          obtain rfl := Option.some.inj htlv
          have hfit := hfit.2
          rw [List.length_drop] at hfit
          rw [List.length_drop, List.length_drop] at hsuffix
          refine ⟨header', body', by omega, hsuffixSize, hheader', unwrapWire_eq_ok.mp hbody', ?_, ?_⟩
          · rw [write, List.take_zero, List.nil_append, Nat.zero_add, hdrop,
              List.append_assoc (header' ++ body')]
          · rw [wireSize, hsuffixSize, ok_bind] at hsize
            exact (Except.ok.inj hsize).symm
        · cases htlv
      · cases hbody
    · cases hheader
  · rintro ⟨header, body, hfit, hsuffix, hheader, hbody, rfl, rfl⟩
    rw [serialize, readAt_eq_ok (Nat.zero_le _) (show 34 ≤ buffer.length by omega), ok_bind]
    dsimp only
    rw [readAt_eq_ok (Nat.zero_le _) (by rw [List.length_drop]; omega), ok_bind, hsuffix, ok_bind,
      hheader, ok_bind, hbody, unwrapWire_ok, ok_bind, TlvSet.serialize,
      if_pos (by simp only [List.length_drop]; omega), okOr_some, unwrapWire_ok, ok_bind, wireSize,
      hsuffix, ok_bind, pure_eq_ok, ok_bind, pure_eq_ok, write, List.take_zero, List.nil_append,
      Nat.zero_add, hdrop, ← List.append_assoc]
    rfl

/-- The lengths of the parts. -/
theorem serialize_eq_ok {p : Profile} {m : Message} {buffer out : List UInt8} {n : Nat}
    (h : m.serialize p buffer = .ok (out, n)) :
    ∃ header body, header.length = Header.wireSize ∧ body.length = m.body.wireSize ∧
      out = header ++ body ++ m.suffix.bytes ++ buffer.drop m.size ∧ m.size ≤ buffer.length ∧
      n = m.size := by
  obtain ⟨header, body, hfit, -, hheader, hbody, hout, hn⟩ := serialize_iff.mp h
  have hm : m.size = 34 + m.body.wireSize + m.suffix.bytes.length := rfl
  refine ⟨header, body, ?_, ?_, hout, hfit, hn⟩
  · rw [length_fill _ _ _ hheader, length_slice_of_le (by omega)]
    rfl
  · rw [MessageBody.length_serialize hbody, length_slice_of_le (by rw [List.length_drop]; omega),
      Nat.sub_zero]

/-- **A buffer keeps its length**, whatever message is written to it. -/
theorem length_serialize {p : Profile} {m : Message} {buffer out : List UInt8} {n : Nat}
    (h : m.serialize p buffer = .ok (out, n)) : out.length = buffer.length := by
  obtain ⟨header, body, hheader, hbody, rfl, hfit, -⟩ := serialize_eq_ok h
  have hm : m.size = Header.wireSize + m.body.wireSize + m.suffix.bytes.length := rfl
  simp only [List.length_append, List.length_drop, hheader, hbody]
  omega

/-- The number of bytes that are written. -/
theorem serialize_size {p : Profile} {m : Message} {buffer out : List UInt8} {n : Nat}
    (h : m.serialize p buffer = .ok (out, n)) : n = m.size := by
  obtain ⟨-, -, -, -, -, -, hn⟩ := serialize_eq_ok h
  exact hn

/-- The bytes after the header and the body are those of the suffix. -/
theorem suffix_of_serialize {p : Profile} {m : Message} {buffer out : List UInt8} {n : Nat}
    (h : m.serialize p buffer = .ok (out, n)) :
    (out.take n).drop (Header.wireSize + m.body.wireSize) = m.suffix.bytes := by
  obtain ⟨header, body, hheader, hbody, rfl, -, rfl⟩ := serialize_eq_ok h
  have hsize : m.size = (header ++ body ++ m.suffix.bytes).length := by
    simp only [List.length_append, hheader, hbody]
    rfl
  rw [hsize, List.take_left]
  exact List.drop_left' (by rw [List.length_append, hheader, hbody])

/-- A header, a body and a suffix are read back, with the body that its own bytes read back as. -/
theorem deserialize_parts {m : Message} {readBody : MessageBody} {header body : List UInt8}
    (haccepted : TlvSet.Accepted m.suffix.bytes) (hmax : m.size ≤ 65535)
    (hheaderLen : header.length = 34)
    (htype : MessageType.tryFrom (byteAt header 0 &&& 0x0f) = some m.body.contentType)
    (hheader : Header.ofBytes header = m.header)
    (hlength : ofBE (slice header 2 4) = m.size % 65536)
    (hbodyLen : body.length = m.body.wireSize) (hsame : readBody.wireSize = m.body.wireSize)
    (hbody : MessageBody.deserialize m.body.contentType m.header (body ++ m.suffix.bytes) =
      .ok readBody) :
    deserialize (header ++ (body ++ m.suffix.bytes)) = .ok { m with body := readBody } := by
  have hm : m.size = 34 + m.body.wireSize + m.suffix.bytes.length := rfl
  have hlength' : UInt16.ofNat (ofBE (slice (header ++ (body ++ m.suffix.bytes)) 2 4)) =
      UInt16.ofNat m.size := by
    rw [slice_append_left (by omega), hlength, Nat.mod_eq_of_lt (Nat.lt_succ_of_le hmax)]
  have hnat : (UInt16.ofNat m.size).toNat = m.size :=
    UInt16.toNat_ofNat_of_lt' (Nat.lt_succ_of_le hmax)
  rw [deserialize, Header.deserializeHeader_eq (by simp; omega),
    byteAt_append_left (by omega), htype, okOr_some, ok_bind, ok_bind,
    Header.ofBytes_append _ hheaderLen.ge, hheader, hlength']
  have hcontent : getRange (header ++ (body ++ m.suffix.bytes)) 34 m.size =
      some (body ++ m.suffix.bytes) := by
    refine getRange_eq_some.mpr ⟨⟨by omega, by simp; omega⟩, ?_⟩
    rw [slice_append_right (by omega), hheaderLen, slice_all (by simp; omega)]
  have hlong : ¬ UInt16.ofNat m.size < 34 := by
    rw [UInt16.lt_iff_toNat_lt, hnat, show (34 : UInt16).toNat = 34 by decide]
    omega
  rw [if_neg hlong, hnat, hcontent, okOr_some, ok_bind, hbody, ok_bind]
  have hfrom : getFrom (body ++ m.suffix.bytes) readBody.wireSize = some m.suffix.bytes := by
    rw [hsame, getFrom, if_pos (by simp; omega), ← hbodyLen, List.drop_left]
  rw [hfrom, okOr_some, ok_bind, TlvSet.deserialize_of_accepted haccepted, ok_bind]
  rfl

/-- **A message is read as its body is**: it is written to the front of any buffer that is long
enough, the rest of the buffer stays, and the bytes written read back with the body that its own
bytes read back as. -/
theorem serialize_reads (p : Profile) {m : Message} {readBody : MessageBody}
    (hheaderRange : m.header.InRange) (haccepted : TlvSet.Accepted m.suffix.bytes)
    (hmax : m.size ≤ 65535) (hsame : readBody.wireSize = m.body.wireSize)
    (hreads : ∀ {buffer : List UInt8}, buffer.length = m.body.wireSize →
      ∃ out, m.body.serialize p buffer = .ok out ∧ out.length = m.body.wireSize ∧
        ∀ rest, MessageBody.deserialize m.body.contentType m.header (out ++ rest) = .ok readBody)
    {buffer : List UInt8} (hlen : m.size ≤ buffer.length) :
    ∃ out, m.serialize p buffer = .ok (out, m.size) ∧ out.length = buffer.length ∧
      out.drop m.size = buffer.drop m.size ∧
      deserialize (out.take m.size) = .ok { m with body := readBody } := by
  obtain ⟨hsuffix, -⟩ := wireSize_of_accepted p haccepted
  have hm : m.size = 34 + m.body.wireSize + m.suffix.bytes.length := rfl
  obtain ⟨header, hheader, hheaderLen, htype, hbytes, hlength⟩ :=
    Header.serializeHeader_spec hheaderRange m.body.contentType
      (m.body.wireSize + m.suffix.bytes.length)
      (show (slice buffer 0 34).length = 34 from length_slice_of_le (by omega))
  have hroom : (slice (buffer.drop 34) 0 m.body.wireSize).length = m.body.wireSize := by
    rw [length_slice_of_le (by rw [List.length_drop]; omega), Nat.sub_zero]
  obtain ⟨body, hbody, hbodyLen, hbodyBack⟩ := hreads hroom
  have hout : m.serialize p buffer =
      .ok (header ++ body ++ m.suffix.bytes ++ buffer.drop m.size, m.size) :=
    serialize_iff.mpr ⟨header, body, hlen, hsuffix, hheader, hbody, rfl, rfl⟩
  have hsize : m.size = (header ++ body ++ m.suffix.bytes).length := by
    simp only [List.length_append, hheaderLen, hbodyLen]
    omega
  refine ⟨_, hout, length_serialize hout, ?_, ?_⟩
  · exact List.drop_left' hsize.symm
  · rw [List.take_left' hsize.symm, List.append_assoc]
    refine deserialize_parts haccepted hmax hheaderLen htype hbytes ?_ hbodyLen hsame
      (hbodyBack m.suffix.bytes)
    rw [hlength, hm]
    congr 1
    omega

/-- **A message in range survives the wire.** -/
theorem serialize_spec (p : Profile) {m : Message} (h : m.InRange) {buffer : List UInt8}
    (hlen : m.size ≤ buffer.length) :
    ∃ out, m.serialize p buffer = .ok (out, m.size) ∧ out.length = buffer.length ∧
      out.drop m.size = buffer.drop m.size ∧ deserialize (out.take m.size) = .ok m :=
  serialize_reads p h.header h.suffix h.size rfl (MessageBody.serialize_spec p h.body) hlen

/-- **What is accepted is in range**, and its size is what the length field says. -/
theorem deserialize_spec {b : List UInt8} {m : Message} (h : deserialize b = .ok m) :
    m.InRange ∧ m.size = ofBE (slice b 2 4) ∧ m.size ≤ b.length := by
  obtain ⟨d, hd, h⟩ := bind_eq_ok.mp h
  obtain ⟨hlen, -, hheader, hlength⟩ := Header.deserializeHeader_eq_ok hd
  have hfield : d.messageLength.toNat = ofBE (slice b 2 4) := by
    have hlt := ofBE_lt (slice b 2 4)
    rw [length_slice_of_le (by omega)] at hlt
    rw [hlength]
    exact UInt16.toNat_ofNat_of_lt' hlt
  split at h
  · cases h
  · obtain ⟨content, hcontent, h⟩ := bind_eq_ok.mp h
    obtain ⟨body, hbody, h⟩ := bind_eq_ok.mp h
    obtain ⟨tail, htail, h⟩ := bind_eq_ok.mp h
    obtain ⟨suffix, hsuffix, h⟩ := bind_eq_ok.mp h
    obtain rfl := Except.ok.inj h
    obtain ⟨⟨h34, hfit⟩, rfl⟩ := getRange_eq_some.mp (okOr_eq_ok.mp hcontent)
    obtain ⟨-, hbodyRange⟩ := MessageBody.deserialize_spec hbody
    have hbytes := (TlvSet.deserialize_bytes hsuffix).1
    rw [okOr_eq_ok, getFrom] at htail
    split at htail
    · rename_i hbodyFit
      obtain rfl := Option.some.inj htail
      rw [length_slice_of_le hfit] at hbodyFit
      have hsize : Header.wireSize + body.wireSize + suffix.bytes.length
          = d.messageLength.toNat := by
        rw [hbytes, List.length_drop, length_slice_of_le hfit, Header.wireSize]
        omega
      have hmax := d.messageLength.toNat_lt
      refine ⟨⟨?_, hbodyRange, ?_, ?_⟩, ?_, ?_⟩
      · rw [hheader]
        exact Header.inRange_ofBytes b
      · rw [hbytes]
        exact ⟨suffix, hsuffix⟩
      · simp only [size, hsize]
        omega
      · simp only [size, hsize, hfield]
      · simp only [size, hsize]
        exact hfit
    · cases htail

/-- **The codec is an inverse pair.**  Messages in range go through any buffer that is long
enough unchanged, whatever it held before.  What `deserialize` accepts is in range, is written
as exactly as many bytes as the length field said, and reads back as itself. -/
theorem serialize_deserialize_inverse (p : Profile) :
    (∀ (m : Message) (buffer : List UInt8), m.InRange → m.size ≤ buffer.length →
      ∃ out n, m.serialize p buffer = .ok (out, n) ∧ deserialize (out.take n) = .ok m) ∧
    (∀ (b : List UInt8) (m : Message), deserialize b = .ok m →
      m.InRange ∧ ofBE (slice b 2 4) ≤ b.length ∧
      ∀ buffer : List UInt8, ofBE (slice b 2 4) ≤ buffer.length →
        ∃ out, m.serialize p buffer = .ok (out, ofBE (slice b 2 4)) ∧
          out.length = buffer.length ∧
          out.drop (ofBE (slice b 2 4)) = buffer.drop (ofBE (slice b 2 4)) ∧
          deserialize (out.take (ofBE (slice b 2 4))) = .ok m) := by
  refine ⟨fun m buffer h hlen => ?_, fun b m h => ?_⟩
  · obtain ⟨out, hout, -, -, hback⟩ := serialize_spec p h hlen
    exact ⟨out, m.size, hout, hback⟩
  · obtain ⟨hrange, hsize, hfit⟩ := deserialize_spec h
    rw [← hsize]
    exact ⟨hrange, hfit, fun buffer hlen => serialize_spec p hrange hlen⟩

end Message

/-! ### Announce messages with any header -/

/-- The codes of these two fields do not overflow. -/
def AnnounceMessage.Encodable (p : Profile) (m : AnnounceMessage) : Prop :=
  (∃ code, m.grandmasterClockQuality.clockAccuracy.toPrimitive p = .ok code) ∧
    ∃ code, m.timeSource.toPrimitive p = .ok code

theorem AnnounceMessage.serializeContent_iff (p : Profile) (m : AnnounceMessage)
    {buffer : List UInt8} (hlen : buffer.length = 30) :
    (∃ out, m.serializeContent p buffer = .ok out) ↔ m.Encodable p := by
  constructor
  · rintro ⟨out, h⟩
    rw [serializeContent, if_neg (by omega)] at h
    obtain ⟨quality, hquality, h⟩ := bind_eq_ok.mp h
    obtain ⟨source, hsource, -⟩ := bind_eq_ok.mp h
    obtain ⟨code, hcode, -⟩ := bind_eq_ok.mp (must_eq_ok.mp hquality)
    exact ⟨⟨code, hcode⟩, source, must_eq_ok.mp hsource⟩
  · rintro ⟨⟨code, hcode⟩, source, hsource⟩
    obtain ⟨quality, hquality, hqlen, -⟩ := ClockQuality.ofWire_toWire hcode
    obtain ⟨out, hout, -⟩ := serializeContent_layout hquality hqlen hsource hlen
    exact ⟨out, hout⟩

/-- **An announce message is written** to any buffer that is long enough, unless one of its codes
overflows. -/
theorem Message.serialize_announce_iff (p : Profile) {m : Message} {a : AnnounceMessage}
    (hbody : m.body = .announce a) (heven : m.suffix.bytes.length % 2 = 0) {buffer : List UInt8}
    (hlen : m.size ≤ buffer.length) :
    (∃ r, m.serialize p buffer = .ok r) ↔ a.Encodable p := by
  have hwire : m.body.wireSize = 30 := by rw [hbody]; rfl
  have hsize : m.size = 34 + 30 + m.suffix.bytes.length := by
    rw [Message.size, hwire]
    rfl
  have hsuffix : m.suffix.wireSize p = .ok m.suffix.bytes.length := by
    rw [TlvSet.wireSize, decide_eq_true heven, debugAssert_true, ok_bind, pure_eq_ok]
  have hroom : (slice (buffer.drop 34) 0 30).length = 30 :=
    length_slice_of_le (by rw [List.length_drop]; omega)
  have htail : m.suffix.bytes.length ≤ ((buffer.drop 34).drop 30).length := by
    simp only [List.length_drop]
    omega
  obtain ⟨header, hheader, -⟩ := m.header.serializeHeader_layout m.body.contentType
    (m.body.wireSize + m.suffix.bytes.length)
    (show (slice buffer 0 34).length = 34 from length_slice_of_le (by omega))
  rw [← AnnounceMessage.serializeContent_iff p a hroom, Message.serialize,
    readAt_eq_ok (Nat.zero_le _) (show 34 ≤ buffer.length by omega), ok_bind]
  dsimp only
  rw [hwire, readAt_eq_ok (Nat.zero_le _) (by rw [List.length_drop]; omega), ok_bind, hsuffix,
    ok_bind, ← hwire, hheader, ok_bind, hwire, hbody]
  constructor
  · rintro ⟨out, h⟩
    obtain ⟨body, hb, -⟩ := bind_eq_ok.mp h
    exact ⟨body, unwrapWire_eq_ok.mp hb⟩
  · rintro ⟨body, hb⟩
    have hb' : MessageBody.serialize p (.announce a) (slice (buffer.drop 34) 0 30) = .ok body := hb
    rw [hb', unwrapWire_ok, ok_bind, TlvSet.serialize, if_pos htail, okOr_some, unwrapWire_ok,
      ok_bind, Message.wireSize, hsuffix, ok_bind, pure_eq_ok, ok_bind]
    exact ⟨_, rfl⟩

/-- **An announce message that was written is read**, with what the codes of its accuracy and its time
source stand for. -/
theorem Message.serialize_announce_reads {p : Profile} {m : Message} {a : AnnounceMessage}
    (hbody : m.body = .announce a) (hheader : m.header.InRange) (hsame : a.header = m.header)
    (ht : a.originTimestamp.InRange) (haccepted : TlvSet.Accepted m.suffix.bytes)
    (hmax : m.size ≤ 65535) {buffer out : List UInt8} {n : Nat} (hlen : m.size ≤ buffer.length)
    (h : m.serialize p buffer = .ok (out, n)) :
    ∃ code source, a.grandmasterClockQuality.clockAccuracy.toPrimitive p = .ok code ∧
      a.timeSource.toPrimitive p = .ok source ∧ out.length = buffer.length ∧ n = m.size ∧
      deserialize (out.take n) = .ok { m with body := .announce (a.decoded code source) } := by
  obtain ⟨bytes, hbytes⟩ := haccepted
  have heven := (TlvSet.deserialize_bytes hbytes).2
  obtain ⟨⟨code, hcode⟩, source, hsource⟩ :=
    (serialize_announce_iff p hbody heven hlen).mp ⟨_, h⟩
  have hwire : m.body.wireSize = 30 := by
    rw [hbody]
    rfl
  have hsize : (MessageBody.announce (a.decoded code source)).wireSize = m.body.wireSize :=
    hwire.symm
  have hreads : ∀ {buffer : List UInt8}, buffer.length = m.body.wireSize →
      ∃ out, m.body.serialize p buffer = .ok out ∧ out.length = m.body.wireSize ∧
        ∀ rest, MessageBody.deserialize m.body.contentType m.header (out ++ rest) =
          .ok (.announce (a.decoded code source)) := by
    intro buffer hbuffer
    obtain ⟨content, hcontent, hcontentLen, hread⟩ :=
      AnnounceMessage.serializeContent_spec ht hcode hsource (hbuffer.trans hwire)
    rw [hsame] at hread
    rw [hwire, hbody]
    refine ⟨content, hcontent, hcontentLen, fun rest => ?_⟩
    simp only [MessageBody.contentType, MessageBody.deserialize, hread, ok_bind, pure_eq_ok]
  obtain ⟨out', hout', hlength, -, hback⟩ :=
    serialize_reads p hheader ⟨bytes, hbytes⟩ hmax hsize hreads hlen
  obtain ⟨rfl, rfl⟩ := Prod.mk.inj (Except.ok.inj (hout'.symm.trans h))
  exact ⟨code, source, hcode, hsource, hlength, rfl, hback⟩

end Statime
