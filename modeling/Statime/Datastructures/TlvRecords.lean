import Statime.Datastructures.Tlv

/-!
# Records laid end to end

What a builder writes is its records laid end to end, and what the parser and the iterator make of
such bytes.  Both stop at four bytes or fewer, so a record without a value is read when another one
comes after it, and is not when it is the last one.

* `TlvSetBuilder.add_holds`: a record is added at the end.
* `TlvSet.accepted_records`, `TlvSet.tlv_records`: records whose last one has a value are accepted,
  and the iterator yields them.
* `TlvSet.last_of_accepted`: the last record that the iterator yields has a value.
-/

namespace Statime

open Rust

/-- **The codes of the types are faithful.** -/
theorem TlvType.toPrimitive_fromPrimitive (v : UInt16) : (fromPrimitive v).toPrimitive = v := by
  unfold fromPrimitive
  split
  case h_22 =>
    split
    · rfl
    · split <;> rfl
  all_goals rfl

namespace Tlv

/-- The record as it is written. -/
def toBytes (t : Tlv) : List UInt8 :=
  toBE 2 t.tlvType.toPrimitive.toNat ++ toBE 2 t.value.length ++ t.value

@[simp] theorem length_toBytes (t : Tlv) : t.toBytes.length = t.wireSize := by
  simp only [toBytes, List.length_append, length_toBE, wireSize]

/-- A record that can be read back: its type is the one of its code, and its length is even and fits
the length field. -/
structure Readable (t : Tlv) : Prop where
  tlvType : TlvType.fromPrimitive t.tlvType.toPrimitive = t.tlvType
  even : t.value.length % 2 = 0
  length : t.value.length < 2 ^ 16

/-- **A record is written** to the front of the buffer. -/
theorem serialize_eq (t : Tlv) {buffer : List UInt8} (h : t.wireSize ≤ buffer.length) :
    t.serialize buffer = .ok (t.toBytes ++ buffer.drop t.wireSize) := by
  have htype : (toBE 2 t.tlvType.toPrimitive.toNat).length = 2 := length_toBE _ _
  have hlength : (toBE 2 t.value.length).length = 2 := length_toBE _ _
  rw [wireSize] at h
  have h₁ : write buffer 0 (toBE 2 t.tlvType.toPrimitive.toNat) =
      toBE 2 t.tlvType.toPrimitive.toNat ++ buffer.drop 2 := by
    rw [write, htype, List.take_zero, List.nil_append]
  have h₂ : write (toBE 2 t.tlvType.toPrimitive.toNat ++ buffer.drop 2) 2 (toBE 2 t.value.length) =
      toBE 2 t.tlvType.toPrimitive.toNat ++ toBE 2 t.value.length ++ buffer.drop 4 := by
    rw [write, hlength, List.take_left' htype, List.drop_append, htype,
      List.drop_of_length_le (by omega), List.nil_append, List.drop_drop]
  have hfront : (toBE 2 t.tlvType.toPrimitive.toNat ++ toBE 2 t.value.length).length = 4 := by
    rw [List.length_append, htype, hlength]
  have h₃ : write (toBE 2 t.tlvType.toPrimitive.toNat ++ toBE 2 t.value.length ++ buffer.drop 4) 4
      t.value = t.toBytes ++ buffer.drop t.wireSize := by
    rw [write, List.take_left' hfront, List.drop_append, hfront,
      List.drop_of_length_le (by omega), List.nil_append, List.drop_drop, toBytes, wireSize,
      Nat.add_sub_cancel_left]
  rw [serialize, writeAt_eq_ok (by omega), ok_bind, h₁,
    writeAt_eq_ok (by simp only [List.length_append, htype, hlength, List.length_drop]; omega), ok_bind,
    h₂, writeAt_eq_ok (by simp only [List.length_append, htype, hlength, List.length_drop]; omega), h₃]

/-! ### Reading one record -/

theorem slice_type (t : Tlv) (rest : List UInt8) :
    slice (t.toBytes ++ rest) 0 2 = toBE 2 t.tlvType.toPrimitive.toNat := by
  rw [toBytes, List.append_assoc, List.append_assoc, slice_append_left (by rw [length_toBE]),
    slice_all (by rw [length_toBE])]

theorem slice_length (t : Tlv) (rest : List UInt8) :
    slice (t.toBytes ++ rest) 2 4 = toBE 2 t.value.length := by
  rw [toBytes, List.append_assoc, List.append_assoc, slice_append_right (by rw [length_toBE]),
    length_toBE, slice_append_left (by rw [length_toBE]), slice_all (by rw [length_toBE])]

theorem slice_value (t : Tlv) (rest : List UInt8) :
    slice (t.toBytes ++ rest) 4 (4 + t.value.length) = t.value := by
  have hfront : (toBE 2 t.tlvType.toPrimitive.toNat ++ toBE 2 t.value.length).length = 4 := by
    rw [List.length_append, length_toBE, length_toBE]
  rw [toBytes, List.append_assoc, slice_append_right (by omega), hfront, Nat.sub_self,
    Nat.add_sub_cancel_left, slice_append_left (Nat.le_refl _), slice_all (Nat.le_refl _)]

theorem Readable.lengthField {t : Tlv} (h : t.Readable) (rest : List UInt8) :
    ofBE (slice (t.toBytes ++ rest) 2 4) = t.value.length := by
  rw [slice_length, ofBE_toBE_of_lt h.length]

theorem drop_wireSize (t : Tlv) (rest : List UInt8) :
    (t.toBytes ++ rest).drop (4 + t.value.length) = rest :=
  List.drop_left' t.length_toBytes

/-- **A readable record reads back.** -/
theorem deserialize_toBytes {t : Tlv} (h : t.Readable) (rest : List UInt8) :
    deserialize (t.toBytes ++ rest) = .ok t := by
  have hlen : (t.toBytes ++ rest).length = 4 + t.value.length + rest.length := by
    rw [List.length_append, length_toBytes, wireSize]
  have htype : TlvType.fromPrimitive (UInt16.ofNat (ofBE (slice (t.toBytes ++ rest) 0 2))) =
      t.tlvType := by
    rw [slice_type, ofBE_toBE_of_lt t.tlvType.toPrimitive.toNat_lt, UInt16.ofNat_toNat, h.tlvType]
  rw [deserialize, if_neg (by omega)]
  dsimp only
  rw [h.lengthField, if_neg (by omega), htype, slice_value]

end Tlv

/-! ### Building -/

namespace TlvSetBuilder

/-- The records that were added. -/
def Holds (b : TlvSetBuilder) (records : List Tlv) : Prop :=
  b.buffer.take b.used = records.flatMap Tlv.toBytes

/-- **A record is added at the end.** -/
theorem add_holds {b b' : TlvSetBuilder} {t : Tlv} {records : List Tlv} (h : b.Holds records)
    (hroom : b.used + t.wireSize ≤ b.buffer.length) (hadd : b.add t = .ok b') :
    b'.Holds (records ++ [t]) := by
  have hrest : (slice b.buffer b.used b.buffer.length).length = b.buffer.length - b.used :=
    length_slice_of_le (Nat.le_refl _)
  rw [add, readAt_eq_ok (by omega) (Nat.le_refl _), ok_bind, Tlv.serialize_eq t (by omega), ok_bind]
    at hadd
  obtain rfl := Except.ok.inj hadd
  have hused : (b.buffer.take b.used).length = b.used := by
    rw [List.length_take]
    omega
  have hwritten : (b.buffer.take b.used ++ t.toBytes).length = b.used + t.wireSize := by
    rw [List.length_append, hused, t.length_toBytes]
  rw [Holds, ← List.append_assoc, List.take_left' hwritten, h, List.flatMap_append,
    List.flatMap_singleton]

theorem build_holds {b : TlvSetBuilder} {s : TlvSet} {records : List Tlv} (h : b.Holds records)
    (hbuild : b.build = .ok s) : s.bytes = records.flatMap Tlv.toBytes := by
  obtain ⟨bytes, hbytes, hbuild⟩ := bind_eq_ok.mp hbuild
  obtain rfl := Except.ok.inj hbuild
  rw [readAt] at hbytes
  split at hbytes
  · rw [← Except.ok.inj hbytes, slice_zero, h]
  · cases hbytes

end TlvSetBuilder

/-! ### Reading all records -/

namespace TlvSet

/-- The last record has a value. -/
def LastHasValue (records : List Tlv) : Prop :=
  ∀ last, records.getLast? = some last → last.value ≠ []

theorem LastHasValue.tail {t : Tlv} {records : List Tlv} (h : LastHasValue (t :: records)) :
    LastHasValue records := by
  intro last hlast
  cases records with
  | nil => cases hlast
  | cons first records =>
    refine h last ?_
    rw [List.getLast?_cons_cons, hlast]

/-- With such an end, there are more than four bytes as long as there is a record. -/
theorem LastHasValue.long {t : Tlv} {records : List Tlv} (h : LastHasValue (t :: records)) :
    4 < (t.toBytes ++ records.flatMap Tlv.toBytes).length := by
  rw [List.length_append, Tlv.length_toBytes, Tlv.wireSize]
  cases records with
  | nil =>
    have hpos := List.length_pos_iff.mpr (h t rfl)
    omega
  | cons first records =>
    rw [List.flatMap_cons, List.length_append, Tlv.length_toBytes, Tlv.wireSize]
    omega

theorem deserializeLoop_records : ∀ (records : List Tlv), (∀ t ∈ records, t.Readable) →
    LastHasValue records → ∀ fuel total, (records.flatMap Tlv.toBytes).length < fuel →
      ∃ n, deserializeLoop fuel (records.flatMap Tlv.toBytes) total = .ok n := by
  intro records
  induction records with
  | nil =>
    intro _ _ fuel total hfuel
    obtain ⟨fuel, rfl⟩ : ∃ k, fuel = k + 1 := ⟨fuel - 1, by omega⟩
    exact ⟨total, rfl⟩
  | cons t records ih =>
    intro hreadable hlast fuel total hfuel
    obtain ⟨fuel, rfl⟩ : ∃ k, fuel = k + 1 := ⟨fuel - 1, by omega⟩
    rw [List.forall_mem_cons] at hreadable
    have hlong := hlast.long
    rw [List.flatMap_cons] at hfuel ⊢
    have hfrom : getFrom (t.toBytes ++ records.flatMap Tlv.toBytes) (4 + t.value.length) =
        some (records.flatMap Tlv.toBytes) := by
      rw [getFrom, if_pos (by rw [List.length_append, Tlv.length_toBytes, Tlv.wireSize]; omega),
        Tlv.drop_wireSize]
    have hshort : (records.flatMap Tlv.toBytes).length < fuel := by
      rw [List.length_append, Tlv.length_toBytes, Tlv.wireSize] at hfuel
      omega
    rw [deserializeLoop, if_pos hlong]
    dsimp only
    rw [hreadable.1.lengthField, if_neg (not_not.mpr hreadable.1.even), hfrom, okOr_some, ok_bind]
    exact ih hreadable.2 hlast.tail fuel _ hshort

/-- **Records whose last one has a value are accepted.** -/
theorem accepted_records {records : List Tlv} (hreadable : ∀ t ∈ records, t.Readable)
    (hlast : LastHasValue records) : Accepted (records.flatMap Tlv.toBytes) :=
  accepted_iff.mpr (deserializeLoop_records records hreadable hlast _ 0 (Nat.lt_succ_self _))

theorem tlvLoop_records (p : Profile) : ∀ (records : List Tlv), (∀ t ∈ records, t.Readable) →
    LastHasValue records → ∀ fuel, (records.flatMap Tlv.toBytes).length < fuel →
      tlvLoop p fuel (records.flatMap Tlv.toBytes) = .ok records := by
  intro records
  induction records with
  | nil =>
    intro _ _ fuel hfuel
    obtain ⟨fuel, rfl⟩ : ∃ k, fuel = k + 1 := ⟨fuel - 1, by omega⟩
    cases p <;> rfl
  | cons t records ih =>
    intro hreadable hlast fuel hfuel
    obtain ⟨fuel, rfl⟩ : ∃ k, fuel = k + 1 := ⟨fuel - 1, by omega⟩
    rw [List.forall_mem_cons] at hreadable
    have hlong := hlast.long
    rw [List.flatMap_cons] at hfuel ⊢
    have hshort : (records.flatMap Tlv.toBytes).length < fuel := by
      rw [List.length_append, Tlv.length_toBytes, Tlv.wireSize] at hfuel
      omega
    have hnext : next p (t.toBytes ++ records.flatMap Tlv.toBytes) =
        .ok (some (t, records.flatMap Tlv.toBytes)) := by
      rw [next, if_neg (by omega), Tlv.deserialize_toBytes hreadable.1]
      dsimp only
      rw [Tlv.wireSize, Tlv.drop_wireSize]
    simp only [tlvLoop, hnext, ok_bind, ih hreadable.2 hlast.tail fuel hshort, pure_eq_ok]

/-- **The iterator yields these records.** -/
theorem tlv_records (p : Profile) {records : List Tlv} (hreadable : ∀ t ∈ records, t.Readable)
    (hlast : LastHasValue records) : tlv p ⟨records.flatMap Tlv.toBytes⟩ = .ok records :=
  tlvLoop_records p records hreadable hlast _ (Nat.lt_succ_self _)

/-! ### What the iterator yields -/

theorem next_eq_some {p : Profile} {buffer rest : List UInt8} {t : Tlv}
    (h : next p buffer = .ok (some (t, rest))) :
    4 < buffer.length ∧ Tlv.deserialize buffer = .ok t ∧ rest = buffer.drop t.wireSize := by
  unfold next at h
  split at h
  · obtain ⟨_, -, h⟩ := bind_eq_ok.mp h
    cases h
  · rename_i hlong
    split at h
    · cases h
    · rename_i tlv htlv
      obtain ⟨rfl, rfl⟩ := Prod.mk.inj (Option.some.inj (Except.ok.inj h))
      exact ⟨by omega, htlv, rfl⟩

/-- The type of a record that was read is the one of its code. -/
theorem tlvLoop_types (p : Profile) : ∀ (fuel : Nat) (buffer : List UInt8) (tlvs : List Tlv),
    tlvLoop p fuel buffer = .ok tlvs →
      ∀ t ∈ tlvs, TlvType.fromPrimitive t.tlvType.toPrimitive = t.tlvType := by
  intro fuel
  induction fuel with
  | zero =>
    intro buffer tlvs h t ht
    rw [← Except.ok.inj h] at ht
    cases ht
  | succ fuel ih =>
    intro buffer tlvs h t ht
    obtain ⟨found, hfound, h⟩ := bind_eq_ok.mp h
    cases found with
    | none =>
      rw [← Except.ok.inj h] at ht
      cases ht
    | some r =>
      obtain ⟨first, rest⟩ := r
      obtain ⟨others, hothers, h⟩ := bind_eq_ok.mp h
      obtain rfl := Except.ok.inj h
      rcases List.mem_cons.mp ht with rfl | htail
      · obtain ⟨-, hread, -⟩ := next_eq_some hfound
        unfold Tlv.deserialize at hread
        split at hread
        · cases hread
        · dsimp only at hread
          split at hread
          · cases hread
          · rw [← Except.ok.inj hread, TlvType.toPrimitive_fromPrimitive]
      · exact ih rest others hothers t htail

/-- **The last record that the iterator yields has a value.** -/
theorem tlvLoop_last (p : Profile) : ∀ (fuel : Nat) (buffer : List UInt8) (tlvs : List Tlv),
    Accepted buffer → buffer.length < fuel → tlvLoop p fuel buffer = .ok tlvs →
      LastHasValue tlvs := by
  intro fuel
  induction fuel with
  | zero => intro buffer tlvs _ hfuel; omega
  | succ fuel ih =>
    intro buffer tlvs haccepted hfuel h last hlast
    rcases next_of_accepted p haccepted with
      ⟨-, hnone⟩ | ⟨first, rest, hsome, hrest, hshort, -⟩
    · simp only [tlvLoop, hnone, ok_bind] at h
      rw [← Except.ok.inj h] at hlast
      cases hlast
    · obtain ⟨hlong, -, hdrop⟩ := next_eq_some hsome
      simp only [tlvLoop, hsome, ok_bind] at h
      obtain ⟨others, hothers, h⟩ := bind_eq_ok.mp h
      obtain rfl := Except.ok.inj h
      cases others with
      | cons second others =>
        rw [List.getLast?_cons_cons] at hlast
        exact ih rest _ hrest (by omega) hothers last hlast
      | nil =>
        obtain rfl : first = last := Option.some.inj hlast
        -- nothing is left, so all of the more than four bytes belong to this record
        have hempty : rest = [] := by
          obtain ⟨fuel, rfl⟩ : ∃ k, fuel = k + 1 := ⟨fuel - 1, by omega⟩
          rcases next_of_accepted p hrest with ⟨hnil, -⟩ | ⟨second, rest', hsecond, -⟩
          · exact hnil
          · simp only [tlvLoop, hsecond, ok_bind] at hothers
            obtain ⟨more, -, hothers⟩ := bind_eq_ok.mp hothers
            cases Except.ok.inj hothers
        intro hvalue
        rw [hdrop, List.drop_eq_nil_iff, Tlv.wireSize, hvalue] at hempty
        simp only [List.length_nil] at hempty
        omega

theorem last_of_accepted {p : Profile} {s : TlvSet} {tlvs : List Tlv} (h : Accepted s.bytes)
    (htlvs : tlv p s = .ok tlvs) : LastHasValue tlvs :=
  tlvLoop_last p _ _ _ h (Nat.lt_succ_self _) htlvs

end TlvSet

end Statime
