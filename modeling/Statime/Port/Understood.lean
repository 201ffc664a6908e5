import Statime.Port.Announce
import Statime.Port.Effects

/-!
# Announce messages that are understood

What a port that speaks the same protocol makes of an announce message with forwarded records.

* `sendAnnounce_packet`: the packet is written from the records that fit one after the other.
* `announceUnderstood_iff`: when the packet is understood.
* `last_record_without_value`: a record that was fine where it came from, and is not where it is
  sent.
-/

namespace Statime

open Rust

variable {A R C F T : Type} [Filter F]

/-! ### The packet -/

namespace Port

variable [ForwardedTLVProvider T] {queue : T → List ForwardedTLV}

/-- **The packet that is sent.** -/
theorem sendAnnounce_packet (hserves : ForwardedTLVProvider.Serves queue) {p : Profile}
    {s : PtpInstanceState} {port port' : Port Running A R C F} {provider provider' : T}
    {actions : PortActionIterator} {data : List UInt8}
    (heven : ∀ tlv ∈ queue provider, tlv.tlv.value.length % 2 = 0)
    (h : port.sendAnnounce p s provider = .ok (port', provider', actions))
    (hdata : data ∈ actions.packets) :
    ∃ buffer, (port.announceWith s (s.announceRecords (queue provider))).size ≤ maxDataLen ∧
      port.packetBuffer.serialize p (port.announceWith s (s.announceRecords (queue provider))) =
        .ok (buffer, data) := by
  unfold sendAnnounce at h
  split at h
  · obtain ⟨⟨message, provider₁⟩, hbuild, h⟩ := bind_eq_ok.mp h
    obtain ⟨⟨buffer, data'⟩, hserialize, h⟩ := bind_eq_ok.mp h
    obtain ⟨duration, -, h⟩ := bind_eq_ok.mp h
    obtain ⟨-, hrest⟩ := Prod.mk.inj (Except.ok.inj h)
    obtain ⟨-, rfl⟩ := Prod.mk.inj hrest
    obtain rfl : data = data' := List.mem_singleton.mp hdata
    obtain ⟨-, rfl, -, hsize⟩ := buildAnnounce_inv hserves heven hbuild
    exact ⟨buffer, hsize, hserialize⟩
  · obtain ⟨-, hrest⟩ := Prod.mk.inj (Except.ok.inj h)
    obtain ⟨-, rfl⟩ := Prod.mk.inj hrest
    cases hdata

end Port

/-! ### The receiver -/

/-- A record of an announce message has the type of its code. -/
theorem ForwardedTLV.FromAnnounce.tlvType {p : Profile} {tlv : ForwardedTLV}
    (h : tlv.FromAnnounce p) : TlvType.fromPrimitive tlv.tlv.tlvType.toPrimitive = tlv.tlv.tlvType := by
  obtain ⟨data, message, announce, actions, tlvs, -, -, htlvs, hmem⟩ := h
  obtain ⟨all, hall, htlvs⟩ := bind_eq_ok.mp htlvs
  rw [← Except.ok.inj htlvs] at hmem
  obtain ⟨t, ht, rfl⟩ := List.mem_map.mp hmem
  exact TlvSet.tlvLoop_types p _ _ _ hall t (List.mem_filter.mp ht).1

/-- **All records of an announce message can be read back.** -/
theorem readable_announceRecords {p : Profile} {s : PtpInstanceState} {queue : List ForwardedTLV}
    (h : ∀ tlv ∈ queue, tlv.FromAnnounce p) : ∀ t ∈ s.announceRecords queue, t.Readable := by
  have hmax : maxDataLen = 1024 := rfl
  intro t ht
  rcases List.mem_append.mp ht with hown | hforwarded
  · unfold PtpInstanceState.ownPathTrace at hown
    split at hown
    · rename_i hadded
      obtain rfl := List.mem_singleton.mp hown
      have hsize := hadded.2.2
      rw [Tlv.wireSize] at hsize
      exact ⟨rfl, by rw [length_pathTraceRecord]; omega, by omega⟩
    · cases hown
  · obtain ⟨tlv, hmem, rfl, hsize⟩ := s.mem_forwardedRecords _ _ t hforwarded
    have hfrom := h tlv hmem
    have hmargin : s.announceMargin ≤ maxDataLen := by
      unfold PtpInstanceState.announceMargin
      omega
    rw [ForwardedTLV.size, Tlv.wireSize] at hsize
    exact ⟨hfrom.tlvType, hfrom.even, by omega⟩

/-- The own path trace has a value, so the last forwarded record decides. -/
theorem lastHasValue_announceRecords (s : PtpInstanceState) (queue : List ForwardedTLV) :
    TlvSet.LastHasValue (s.announceRecords queue) ↔
      TlvSet.LastHasValue (s.forwardedRecords s.announceMargin queue) := by
  unfold PtpInstanceState.announceRecords
  cases hforwarded : s.forwardedRecords s.announceMargin queue with
  | cons first rest =>
    have hlast : (s.ownPathTrace ++ first :: rest).getLast? = (first :: rest).getLast? := by
      rw [List.getLast?_append_of_ne_nil _ (List.cons_ne_nil _ _)]
    constructor
    · intro h last hl
      exact h last (hlast.trans hl)
    · intro h last hl
      exact h last (hlast.symm.trans hl)
  | nil =>
    refine iff_of_true ?_ (fun last hl => by cases hl)
    intro last hl
    rw [List.append_nil] at hl
    have hmem := List.mem_of_getLast? hl
    unfold PtpInstanceState.ownPathTrace at hmem
    split at hmem
    · obtain rfl := List.mem_singleton.mp hmem
      intro hvalue
      have hlength := length_pathTraceRecord s
      rw [hvalue] at hlength
      cases hlength
    · cases hmem

namespace Port

/-- **Another port understands the packet**: it is accepted, with the header and the body of the
message that was announced, and its records are the own path trace and the forwarded ones. -/
def AnnounceUnderstood (p : Profile) (s : PtpInstanceState) (port : Port Running A R C F)
    (queue : List ForwardedTLV) (data : List UInt8) : Prop :=
  ∃ message, Message.deserialize data = .ok message ∧
    message.header = (Message.announce s port.portIdentity port.announceSeqIds.current
      port.config.minorPtpVersion.toUInt8).header ∧
    message.body = (Message.announce s port.portIdentity port.announceSeqIds.current
      port.config.minorPtpVersion.toUInt8).body ∧
    message.suffix.tlv p = .ok (s.announceRecords queue)

variable [ForwardedTLVProvider T] {queue : T → List ForwardedTLV}

/-- **When an announce message is understood.**  The accuracy and the time source must be ones that
the wire has a code for, and the last record that is forwarded must have a value. -/
theorem announceUnderstood_iff (hserves : ForwardedTLVProvider.Serves queue) {p : Profile}
    {s : PtpInstanceState} {port port' : Port Running A R C F} {provider provider' : T}
    {actions : PortActionIterator} {data : List UInt8} (hsdoId : s.defaultDs.sdoId.InRange)
    (hqueue : ∀ tlv ∈ queue provider, tlv.FromAnnounce p)
    (h : port.sendAnnounce p s provider = .ok (port', provider', actions))
    (hdata : data ∈ actions.packets) :
    port.AnnounceUnderstood p s (queue provider) data ↔
      s.parentDs.grandmasterClockQuality.clockAccuracy.OnWire ∧
      s.timePropertiesDs.timeSource.OnWire ∧
      ∀ last, (s.forwardedRecords s.announceMargin (queue provider)).getLast? = some last →
        last.value ≠ [] := by
  obtain ⟨buffer, hsize, hserialize⟩ :=
    sendAnnounce_packet hserves (fun tlv htlv => (hqueue tlv htlv).even) h hdata
  have hreadable := readable_announceRecords (s := s) hqueue
  have hlast := lastHasValue_announceRecords s (queue provider)
  constructor
  · rintro ⟨message, hparse, hheader, hbody, htlvs⟩
    obtain ⟨hrange, -⟩ := Message.deserialize_spec hparse
    have hcodes := hrange.body
    rw [hbody] at hcodes
    exact ⟨hcodes.2.2.1, hcodes.2.2.2, hlast.mp (TlvSet.last_of_accepted hrange.suffix htlvs)⟩
  · rintro ⟨haccuracy, hsource, hvalue⟩
    have hvalues := hlast.mpr hvalue
    have hversion : port.config.minorPtpVersion.toUInt8.toNat < 16 := by
      cases port.config.minorPtpVersion <;> decide
    have hmax : maxDataLen = 1024 := rfl
    have hrange : (port.announceWith s (s.announceRecords (queue provider))).InRange := by
      refine ⟨⟨hsdoId, ?_, hversion⟩, ⟨rfl, ?_, haccuracy, hsource⟩,
        TlvSet.accepted_records hreadable hvalues, by omega⟩
      · show (2 : UInt8).toNat < 16
        decide
      · show (default : WireTimestamp).seconds.toNat < 2 ^ 48
        decide
    obtain ⟨buffer', data', hserialize', hback⟩ :=
      PacketBuffer.serialize_spec p port.packetBuffer hrange hsize
    obtain ⟨-, rfl⟩ := Prod.mk.inj (Except.ok.inj (hserialize'.symm.trans hserialize))
    exact ⟨_, hback, rfl, rfl, TlvSet.tlv_records p hreadable hvalues⟩

/-- Whether the announce is sent, and its packet passes the check. -/
def announces (s : PtpInstanceState) (forwarder : TlvForwarder) (check : List UInt8 → Bool) : Bool :=
  match (testPort default .master).sendAnnounce .debug s forwarder with
  | .ok (_, _, actions) => actions.packets.any check
  | .error _ => false

theorem announces_spec {s : PtpInstanceState} {forwarder : TlvForwarder} {check : List UInt8 → Bool}
    (h : announces s forwarder check = true) :
    ∃ port' forwarder' actions data, (testPort default .master).sendAnnounce .debug s forwarder =
      .ok (port', forwarder', actions) ∧ data ∈ actions.packets ∧ check data = true := by
  unfold announces at h
  split at h
  · rename_i port' forwarder' actions hsent
    obtain ⟨data, hdata, hcheck⟩ := List.any_eq_true.mp h
    exact ⟨port', forwarder', actions, data, hsent, hdata, hcheck⟩
  · cases h

/-- A record with a value is understood. -/
theorem announceUnderstood_small_record :
    ∃ data, (testPort default .master).AnnounceUnderstood .debug (followingState testInstanceConfig)
      [forwardedRecord 16] data := by
  have hsent : announces (followingState testInstanceConfig) (forwarderWith 16) (fun _ => true) =
      true := by
    decide +kernel
  obtain ⟨port', forwarder', actions, data, hsent, hdata, -⟩ := announces_spec hsent
  have hqueue : ∀ tlv ∈ (forwarderWith 16).queue, tlv.FromAnnounce .debug :=
    fromAnnounce_forwarderWith (by decide +kernel)
  have hsdoId : (followingState testInstanceConfig).defaultDs.sdoId.InRange := by
    show (0 : UInt16).toNat < 4096
    decide
  refine ⟨data, (announceUnderstood_iff TlvForwarder.serves hsdoId hqueue hsent hdata).mpr
    ⟨⟨0xfe, rfl⟩, ⟨0xa0, rfl⟩, ?_⟩⟩
  have hrecords : (followingState testInstanceConfig).forwardedRecords
      (followingState testInstanceConfig).announceMargin (forwarderWith 16).queue =
        [(forwardedRecord 16).tlv] := by
    decide +kernel
  intro last hlast
  rw [hrecords] at hlast
  obtain rfl := Option.some.inj hlast
  decide

end Port

/-! ### A record without a value -/

/-- An announce message with a record without a value before another one. -/
def announceWithEmptyRecord : List UInt8 :=
  announceBytes 9 1 74 0 ++ [0x40, 0, 0, 0] ++ [0x80, 0, 0, 2, 0, 0]

/-- Whether this message is accepted, and yields the record. -/
def yieldsEmptyRecord : Bool :=
  match Message.deserialize announceWithEmptyRecord with
  | .ok message =>
    match message.body, ((PortActionIterator.of []).withForwardTlvs message.suffix
        message.header.sourcePortIdentity).forwardedTlvs .debug with
    | .announce _, .ok tlvs => tlvs.contains (forwardedRecord 0)
    | _, _ => false
  | .error _ => false

theorem fromAnnounce_emptyRecord : (forwardedRecord 0).FromAnnounce .debug := by
  have h : yieldsEmptyRecord = true := by decide +kernel
  unfold yieldsEmptyRecord at h
  split at h
  · rename_i message hparse
    split at h
    · rename_i announce tlvs hbody htlvs
      exact ⟨_, message, announce, [], tlvs, hparse, hbody, htlvs, List.contains_iff_mem.mp h⟩
    · cases h
  · cases h

/-- Whether no message is read from the bytes. -/
def isRejected (data : List UInt8) : Bool :=
  match Message.deserialize data with
  | .ok _ => false
  | .error _ => true

/-- **A record without a value at the end.**  The record was accepted where it was followed by another
one; forwarded alone, it makes the whole announce message unreadable. -/
theorem last_record_without_value :
    (∀ tlv ∈ (forwarderWith 0).queue, tlv.FromAnnounce .debug) ∧
    ∃ port' forwarder' actions data,
      (testPort default .master).sendAnnounce .debug (followingState testInstanceConfig)
        (forwarderWith 0) = .ok (port', forwarder', actions) ∧ data ∈ actions.packets ∧
      ¬ (testPort default .master).AnnounceUnderstood .debug (followingState testInstanceConfig)
        [forwardedRecord 0] data := by
  have hsent : Port.announces (followingState testInstanceConfig) (forwarderWith 0) isRejected =
      true := by
    decide +kernel
  obtain ⟨port', forwarder', actions, data, hsent, hdata, hrejected⟩ := Port.announces_spec hsent
  refine ⟨?_, port', forwarder', actions, data, hsent, hdata, ?_⟩
  · intro tlv hmem
    rw [queue_forwarderWith] at hmem
    rw [List.mem_singleton.mp hmem]
    exact fromAnnounce_emptyRecord
  · rintro ⟨message, hparse, -⟩
    rw [isRejected, hparse] at hrejected
    cases hrejected

end Statime
