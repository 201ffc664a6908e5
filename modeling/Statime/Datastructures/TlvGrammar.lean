import Statime.Datastructures.TlvRecords

/-!
# The grammar of a suffix

A suffix should be any number of records laid end to end.  The parser and the iterator stop at four
bytes or fewer, so they lose a last record without a value.

* `TlvSet.records_of_accepted`: an accepted buffer is the records that the iterator yields.
* `TlvSet.accepted_iff_suffix`: the parser accepts the grammar without such a last record.
* `tlv_grammar_iff`: when the parser accepts what it should, and when a built set is read back.
-/

namespace Statime

open Rust

/-! ### Records in a buffer -/

namespace Tlv

/-- A record that was parsed is at the front of the buffer. -/
theorem readable_of_deserialize {buffer : List UInt8} {t : Tlv} (h : deserialize buffer = .ok t)
    (heven : t.value.length % 2 = 0) :
    t.Readable ∧ buffer = t.toBytes ++ buffer.drop t.wireSize := by
  unfold deserialize at h
  split at h
  · cases h
  · rename_i hshort
    dsimp only at h
    split at h
    · cases h
    · rename_i hfit
      have hlen : (slice buffer 4 (4 + ofBE (slice buffer 2 4))).length = ofBE (slice buffer 2 4) := by
        rw [length_slice_of_le (by omega), Nat.add_sub_cancel_left]
      have hfield : (slice buffer 2 4).length = 2 := length_slice_of_le (by omega)
      have htype : (slice buffer 0 2).length = 2 := length_slice_of_le (by omega)
      have hlt := ofBE_lt (slice buffer 2 4)
      have hlt' := ofBE_lt (slice buffer 0 2)
      rw [hfield] at hlt
      rw [htype] at hlt'
      obtain rfl := Except.ok.inj h
      refine ⟨⟨?_, heven, by rw [hlen]; exact hlt⟩, ?_⟩
      · rw [TlvType.toPrimitive_fromPrimitive]
      · have htypeBytes := toBE_ofBE (slice buffer 0 2)
        have hlengthBytes := toBE_ofBE (slice buffer 2 4)
        rw [htype] at htypeBytes
        rw [hfield] at hlengthBytes
        have hnat : (UInt16.ofNat (ofBE (slice buffer 0 2))).toNat = ofBE (slice buffer 0 2) :=
          UInt16.toNat_ofNat_of_lt' (by omega)
        rw [toBytes, wireSize, hlen]
        dsimp only
        rw [TlvType.toPrimitive_fromPrimitive, hnat, htypeBytes, hlengthBytes]
        simp only [slice, List.drop_zero, Nat.sub_zero, Nat.add_sub_cancel_left, Nat.reduceSub]
        have hsplit : buffer = buffer.take 2 ++ ((buffer.drop 2).take 2 ++ buffer.drop 4) := by
          conv_lhs => rw [← List.take_append_drop 2 buffer, ← List.take_append_drop 2 (buffer.drop 2)]
          rw [List.drop_drop]
        conv_lhs => rw [hsplit]
        rw [List.append_assoc, List.append_assoc, ← List.drop_drop, List.take_append_drop]

end Tlv

namespace TlvSet

theorem tlvLoop_bytes (p : Profile) : ∀ (fuel : Nat) (buffer : List UInt8), Accepted buffer →
    buffer.length < fuel → ∃ records, tlvLoop p fuel buffer = .ok records ∧
      (∀ t ∈ records, t.Readable) ∧ records.flatMap Tlv.toBytes = buffer := by
  intro fuel
  induction fuel with
  | zero => intro buffer _ hfuel; omega
  | succ fuel ih =>
    intro buffer haccepted hfuel
    rcases next_of_accepted p haccepted with
      ⟨rfl, hnone⟩ | ⟨t, rest, hsome, hrest, hshort, heven⟩
    · refine ⟨[], ?_, fun t ht => (by cases ht), rfl⟩
      simp only [tlvLoop, hnone, ok_bind, pure_eq_ok]
    · obtain ⟨-, hread, hdrop⟩ := next_eq_some hsome
      obtain ⟨hreadable, hbytes⟩ := Tlv.readable_of_deserialize hread heven
      obtain ⟨records, hrecords, hall, hflat⟩ := ih rest hrest (by omega)
      refine ⟨t :: records, ?_, List.forall_mem_cons.mpr ⟨hreadable, hall⟩, ?_⟩
      · simp only [tlvLoop, hsome, ok_bind, hrecords, pure_eq_ok]
      · rw [List.flatMap_cons, hflat, hdrop]
        exact hbytes.symm

/-- **An accepted buffer is its records**, laid end to end. -/
theorem records_of_accepted (p : Profile) {buffer : List UInt8} (h : Accepted buffer) :
    ∃ records, tlv p ⟨buffer⟩ = .ok records ∧ (∀ t ∈ records, t.Readable) ∧
      records.flatMap Tlv.toBytes = buffer :=
  tlvLoop_bytes p _ buffer h (Nat.lt_succ_self _)

/-- **The records of a buffer are determined.** -/
theorem flatMap_toBytes_inj : ∀ {records records' : List Tlv}, (∀ t ∈ records, t.Readable) →
    (∀ t ∈ records', t.Readable) →
      records.flatMap Tlv.toBytes = records'.flatMap Tlv.toBytes → records = records' := by
  have hpos : ∀ (t : Tlv) (rest : List UInt8), t.toBytes ++ rest ≠ [] := by
    intro t rest hnil
    have hlen := congrArg List.length hnil
    rw [List.length_append, Tlv.length_toBytes, Tlv.wireSize, List.length_nil] at hlen
    omega
  intro records
  induction records with
  | nil =>
    intro records' _ _ h
    cases records' with
    | nil => rfl
    | cons t' records' => exact absurd h.symm (hpos t' _)
  | cons t records ih =>
    intro records' hall hall' h
    cases records' with
    | nil => exact absurd h (hpos t _)
    | cons t' records' =>
      rw [List.forall_mem_cons] at hall hall'
      rw [List.flatMap_cons, List.flatMap_cons] at h
      have hread := Tlv.deserialize_toBytes hall.1 (records.flatMap Tlv.toBytes)
      rw [h, Tlv.deserialize_toBytes hall'.1] at hread
      obtain rfl := Except.ok.inj hread
      rw [ih hall.2 hall'.2 (List.append_cancel_left h)]

end TlvSet

/-! ### The grammar -/

/-- Records laid end to end: a type of two bytes, an even length in two bytes, and so many bytes. -/
inductive IsSuffix : List UInt8 → Prop
  | nil : IsSuffix []
  | record {tlvType value rest : List UInt8} : tlvType.length = 2 → value.length % 2 = 0 →
      value.length < 2 ^ 16 → IsSuffix rest →
      IsSuffix (tlvType ++ toBE 2 value.length ++ value ++ rest)

theorem IsSuffix.exists_records {b : List UInt8} (h : IsSuffix b) :
    ∃ records : List Tlv, (∀ t ∈ records, t.Readable) ∧ records.flatMap Tlv.toBytes = b := by
  induction h with
  | nil => exact ⟨[], fun t ht => (by cases ht), rfl⟩
  | @record tlvType value rest htype heven hlt _ ih =>
    obtain ⟨records, hall, hflat⟩ := ih
    have hcode := ofBE_lt tlvType
    rw [htype] at hcode
    let t : Tlv := { tlvType := TlvType.fromPrimitive (UInt16.ofNat (ofBE tlvType)), value }
    have hreadable : t.Readable := by
      refine ⟨?_, heven, hlt⟩
      rw [TlvType.toPrimitive_fromPrimitive]
    refine ⟨t :: records, List.forall_mem_cons.mpr ⟨hreadable, hall⟩, ?_⟩
    have hbytes := toBE_ofBE tlvType
    rw [htype] at hbytes
    rw [List.flatMap_cons, hflat, Tlv.toBytes, TlvType.toPrimitive_fromPrimitive,
      UInt16.toNat_ofNat_of_lt' (by omega), hbytes]

theorem isSuffix_of_records : ∀ {records : List Tlv}, (∀ t ∈ records, t.Readable) →
    IsSuffix (records.flatMap Tlv.toBytes) := by
  intro records
  induction records with
  | nil => exact fun _ => .nil
  | cons t records ih =>
    intro hall
    rw [List.forall_mem_cons] at hall
    rw [List.flatMap_cons, Tlv.toBytes]
    exact .record (length_toBE _ _) hall.1.even hall.1.length (ih hall.2)

/-- A suffix whose last record has no value. -/
def EndsWithoutValue (b : List UInt8) : Prop :=
  ∃ front tlvType : List UInt8, IsSuffix front ∧ tlvType.length = 2 ∧ b = front ++ tlvType ++ [0, 0]

namespace TlvSet

theorem endsWithoutValue_iff {records : List Tlv} (hall : ∀ t ∈ records, t.Readable) :
    EndsWithoutValue (records.flatMap Tlv.toBytes) ↔ ¬ LastHasValue records := by
  constructor
  · rintro ⟨front, tlvType, hfront, htype, hb⟩ hlast
    obtain ⟨records₁, hall₁, rfl⟩ := hfront.exists_records
    have hempty : IsSuffix (tlvType ++ toBE 2 ([] : List UInt8).length ++ [] ++ []) :=
      .record htype rfl (by decide) .nil
    obtain ⟨records₂, hall₂, hflat₂⟩ := hempty.exists_records
    have hsame : records = records₁ ++ records₂ := by
      refine flatMap_toBytes_inj hall ?_ ?_
      · rw [List.forall_mem_append]
        exact ⟨hall₁, hall₂⟩
      · rw [hb, List.flatMap_append, hflat₂, List.append_assoc]
        simp [toBE]
    have hlen : (records₂.flatMap Tlv.toBytes).length = 4 := by
      rw [hflat₂]
      simp [htype, length_toBE]
    cases records₂ with
    | nil => cases hlen
    | cons t records₂ =>
      rw [List.flatMap_cons, List.length_append, Tlv.length_toBytes, Tlv.wireSize] at hlen
      have hnil : records₂ = [] := by
        cases records₂ with
        | nil => rfl
        | cons t' records₂ =>
          rw [List.flatMap_cons, List.length_append, Tlv.length_toBytes, Tlv.wireSize] at hlen
          omega
      subst hnil
      refine hlast t (by rw [hsame, List.getLast?_concat]) (List.length_eq_zero_iff.mp ?_)
      omega
  · intro hlast
    unfold LastHasValue at hlast
    push Not at hlast
    obtain ⟨last, hlast, hvalue⟩ := hlast
    obtain ⟨front, rfl⟩ := List.getLast?_eq_some_iff.mp hlast
    rw [List.forall_mem_append] at hall
    refine ⟨front.flatMap Tlv.toBytes, toBE 2 last.tlvType.toPrimitive.toNat,
      isSuffix_of_records hall.1, length_toBE _ _, ?_⟩
    rw [List.flatMap_append, List.flatMap_singleton, Tlv.toBytes, hvalue, List.append_nil,
      ← List.append_assoc]
    rfl

/-- **What the parser accepts.** -/
theorem accepted_iff_suffix (b : List UInt8) :
    Accepted b ↔ IsSuffix b ∧ ¬ EndsWithoutValue b := by
  constructor
  · intro h
    obtain ⟨records, hrecords, hall, rfl⟩ := records_of_accepted .debug h
    refine ⟨isSuffix_of_records hall, fun hends => ?_⟩
    exact (endsWithoutValue_iff hall).mp hends (last_of_accepted h hrecords)
  · rintro ⟨hsuffix, hends⟩
    obtain ⟨records, hall, rfl⟩ := hsuffix.exists_records
    exact accepted_records hall (not_not.mp ((endsWithoutValue_iff hall).not.mp hends))

/-- The parser accepts the buffer exactly when it should, and keeps all of it. -/
structure Agrees (b : List UInt8) : Prop where
  accepts : (∃ s, deserialize b = .ok s) ↔ IsSuffix b
  bytes : ∀ s, deserialize b = .ok s → s.bytes = b

end TlvSet

/-! ### Reading back what was built -/

namespace TlvSetBuilder

/-- The records are added, one after the other. -/
def addAll (b : TlvSetBuilder) (records : List Tlv) : Except Panic TlvSetBuilder :=
  records.foldlM add b

/-- The bytes that the records need. -/
def roomFor (records : List Tlv) : Nat := (records.map Tlv.wireSize).sum

theorem addAll_holds : ∀ (records : List Tlv) {b : TlvSetBuilder} {added : List Tlv},
    b.Holds added → b.used + roomFor records ≤ b.buffer.length →
      ∃ b', b.addAll records = .ok b' ∧ b'.Holds (added ++ records) ∧
        b'.used ≤ b'.buffer.length := by
  intro records
  induction records with
  | nil =>
    intro b added h hroom
    rw [roomFor, List.map_nil, List.sum_nil] at hroom
    exact ⟨b, rfl, by rwa [List.append_nil], by omega⟩
  | cons t records ih =>
    intro b added h hroom
    rw [roomFor, List.map_cons, List.sum_cons, ← roomFor] at hroom
    obtain ⟨b₁, hadd, hlen, hused⟩ := add_spec (b := b) (t := t) (by omega)
    obtain ⟨b', hb', hholds, hle⟩ :=
      ih (add_holds h (by omega) hadd) (by omega)
    refine ⟨b', ?_, ?_, hle⟩
    · rw [addAll, List.foldlM_cons, hadd, ok_bind]
      exact hb'
    · rwa [List.append_assoc, List.singleton_append] at hholds

/-- The set is accepted, and the iterator yields the records that were added. -/
def ReadsBack (p : Profile) (buffer : List UInt8) (records : List Tlv) : Prop :=
  ∃ b s, (new buffer).addAll records = .ok b ∧ b.build = .ok s ∧ TlvSet.Accepted s.bytes ∧
    TlvSet.tlv p s = .ok records

theorem exists_build {buffer : List UInt8} {records : List Tlv}
    (hroom : roomFor records ≤ buffer.length) :
    ∃ b, (new buffer).addAll records = .ok b ∧
      b.build = .ok ⟨records.flatMap Tlv.toBytes⟩ := by
  have hempty : (new buffer).Holds [] := by
    rw [Holds, new, List.take_zero]
    rfl
  obtain ⟨b, hb, hholds, hle⟩ := addAll_holds records hempty (by rw [new]; simpa using hroom)
  rw [List.nil_append] at hholds
  obtain ⟨s, hs, -⟩ := build_spec hle
  refine ⟨b, hb, ?_⟩
  rw [hs, ← build_holds hholds hs]

/-- **A built set is read back** when its records can be, and the last one has a value. -/
theorem readsBack_iff (p : Profile) {buffer : List UInt8} {records : List Tlv}
    (heven : ∀ t ∈ records, t.value.length % 2 = 0) (hroom : roomFor records ≤ buffer.length) :
    ReadsBack p buffer records ↔
      (∀ t ∈ records, TlvType.fromPrimitive t.tlvType.toPrimitive = t.tlvType ∧
        t.value.length < 2 ^ 16) ∧ TlvSet.LastHasValue records := by
  obtain ⟨b, hb, hbuild⟩ := exists_build hroom
  constructor
  · rintro ⟨b', s, hb', hbuild', haccepted, htlv⟩
    obtain rfl := Except.ok.inj (hb.symm.trans hb')
    obtain rfl := Except.ok.inj (hbuild.symm.trans hbuild')
    refine ⟨fun t ht => ?_, TlvSet.last_of_accepted haccepted htlv⟩
    obtain ⟨records', hrecords', hall, -⟩ := TlvSet.records_of_accepted p haccepted
    obtain rfl := Except.ok.inj (htlv.symm.trans hrecords')
    exact ⟨(hall t ht).tlvType, (hall t ht).length⟩
  · rintro ⟨hall, hlast⟩
    have hreadable : ∀ t ∈ records, t.Readable :=
      fun t ht => ⟨(hall t ht).1, heven t ht, (hall t ht).2⟩
    exact ⟨b, _, hb, hbuild, TlvSet.accepted_records hreadable hlast,
      TlvSet.tlv_records p hreadable hlast⟩

end TlvSetBuilder

/-- **The parser and the grammar.**  They agree on a buffer unless it is a suffix whose last record has
no value.  Records of even length are read back from a built set when their types are the ones of their
codes, their lengths fit the length field, and the last one has a value. -/
theorem tlv_grammar_iff (p : Profile) (b buffer : List UInt8) (records : List Tlv)
    (heven : ∀ t ∈ records, t.value.length % 2 = 0)
    (hroom : TlvSetBuilder.roomFor records ≤ buffer.length) :
    (TlvSet.Agrees b ↔ ¬ EndsWithoutValue b) ∧
    (TlvSetBuilder.ReadsBack p buffer records ↔
      (∀ t ∈ records, TlvType.fromPrimitive t.tlvType.toPrimitive = t.tlvType ∧
        t.value.length < 2 ^ 16) ∧ TlvSet.LastHasValue records) := by
  refine ⟨?_, TlvSetBuilder.readsBack_iff p heven hroom⟩
  constructor
  · rintro h ⟨front, tlvType, hfront, htype, rfl⟩
    have hsuffix : IsSuffix (front ++ tlvType ++ [0, 0]) := by
      obtain ⟨records, hall, rfl⟩ := hfront.exists_records
      have hempty : IsSuffix (tlvType ++ toBE 2 ([] : List UInt8).length ++ [] ++ []) :=
        .record htype rfl (by decide) .nil
      obtain ⟨records', hall', hflat⟩ := hempty.exists_records
      have happend := isSuffix_of_records (List.forall_mem_append.mpr ⟨hall, hall'⟩)
      rw [List.flatMap_append, hflat, List.append_nil, List.append_nil, ← List.append_assoc] at happend
      exact happend
    exact ((TlvSet.accepted_iff_suffix _).mp (h.accepts.mpr hsuffix)).2
      ⟨front, tlvType, hfront, htype, rfl⟩
  · intro hends
    refine ⟨⟨fun h => ((TlvSet.accepted_iff_suffix b).mp h).1, fun h =>
      (TlvSet.accepted_iff_suffix b).mpr ⟨h, hends⟩⟩, fun s hs => (TlvSet.deserialize_bytes hs).1⟩

/-- A path trace with one identity and an empty record before it are read back. -/
theorem tlv_grammar_two_records :
    TlvSetBuilder.ReadsBack .debug (List.replicate 16 0)
      [⟨.pad, []⟩, ⟨.pathTrace, List.replicate 8 1⟩] :=
  (tlv_grammar_iff .debug [] (List.replicate 16 0) [⟨.pad, []⟩, ⟨.pathTrace, List.replicate 8 1⟩]
    (by decide) (by decide)).2.mpr ⟨by decide, fun last hlast => by
      obtain rfl := Option.some.inj hlast
      decide⟩

/-- **A lost record**: a single one without a value is refused. -/
theorem empty_record_refused :
    IsSuffix [0x80, 0x08, 0, 0] ∧
      TlvSet.deserialize [0x80, 0x08, 0, 0] = .error (.error .bufferTooShort) ∧
      ¬ TlvSet.Agrees [0x80, 0x08, 0, 0] ∧
      ¬ TlvSetBuilder.ReadsBack .debug (List.replicate 4 0) [⟨.pad, []⟩] := by
  have hsuffix : IsSuffix ([0x80, 0x08] ++ toBE 2 ([] : List UInt8).length ++ [] ++ []) :=
    .record rfl rfl (by decide) .nil
  have hrefused : TlvSet.deserialize [0x80, 0x08, 0, 0] = .error (.error .bufferTooShort) := by rfl
  refine ⟨hsuffix, hrefused, fun h => ?_, ?_⟩
  · obtain ⟨s, hs⟩ := h.accepts.mpr hsuffix
    cases hrefused.symm.trans hs
  · rintro ⟨b, s, hb, hbuild, ⟨s', hs'⟩, -⟩
    have hroom : TlvSetBuilder.roomFor [⟨.pad, []⟩] ≤ (List.replicate 4 (0 : UInt8)).length := by decide
    obtain ⟨b₁, hb₁, hbuild₁⟩ := TlvSetBuilder.exists_build hroom
    obtain rfl := Except.ok.inj (hb.symm.trans hb₁)
    obtain rfl := Except.ok.inj (hbuild.symm.trans hbuild₁)
    cases hrefused.symm.trans hs'

end Statime
