import Statime.Datastructures.Codec
import Statime.Datastructures.TlvGrammar

/-!
# Parsing any bytes

* `Message.deserialize_clean`: no byte string makes the parser panic.
* `Message.deserialize_append`: what comes after the message and the header is not looked at.
* `Message.records_of_deserialize`: the records of a message that was read make up its suffix.
* `parse_any_bytes`: all of it.
-/

namespace Statime

open Rust

/-! ### Panics -/

/-- The function does not panic. -/
def Clean {α : Type} (x : Except Failure α) : Prop := ∀ why, x ≠ .error (.panic why)

section Clean

variable {α β : Type}

theorem clean_ok (a : α) : Clean (.ok a) := fun why h => by cases h

theorem clean_error (e : WireFormatError) : Clean (.error (.error e) : Except Failure α) :=
  fun why h => by cases h

theorem Clean.bind {x : Except Failure α} {f : α → Except Failure β} (h : Clean x)
    (hnext : ∀ a, x = .ok a → Clean (f a)) : Clean (x >>= f) := by
  intro why hpanic
  rcases bind_eq_error.mp hpanic with hx | ⟨a, ha, hf⟩
  · exact h why hx
  · exact hnext a ha why hf

theorem clean_okOr (x : Option α) (e : WireFormatError) : Clean (okOr x e) := by
  cases x with
  | none => exact clean_error e
  | some a => exact clean_ok a

theorem clean_readAt {b : List UInt8} {i j : Nat} (hij : i ≤ j) (hj : j ≤ b.length) :
    Clean (must (readAt b i j)) := by
  rw [readAt_eq_ok hij hj]
  exact clean_ok _

theorem clean_index {b : List UInt8} {i : Nat} (h : i < b.length) : Clean (must (index b i)) := by
  rw [index_eq_ok h]
  exact clean_ok _

/-- The length is checked first. -/
theorem clean_guarded {b : List UInt8} {n : Nat} {e : WireFormatError} {x : Except Failure α}
    (h : n ≤ b.length → Clean x) : Clean (if b.length < n then .error (.error e) else x) := by
  split
  · exact clean_error e
  · exact h (by omega)

end Clean

/-! ### The bodies -/

theorem deserializeTimestamp_clean (b : List UInt8) : Clean (deserializeTimestamp b) :=
  (clean_okOr _ _).bind fun _ _ => clean_ok _

theorem deserializeTimestampAndPort_clean (b : List UInt8) :
    Clean (deserializeTimestampAndPort b) :=
  clean_guarded fun h => (clean_readAt (by decide) (by omega)).bind fun _ _ =>
    (clean_readAt (by decide) h).bind fun _ _ => clean_ok _

theorem DelayRespMessage.deserializeContent_clean (b : List UInt8) :
    Clean (deserializeContent b) := by
  refine (clean_okOr _ _).bind fun s hs => ?_
  obtain ⟨⟨-, hfit⟩, rfl⟩ := getRange_eq_some.mp (okOr_eq_ok.mp hs)
  have hlen : (slice b 0 20).length = 20 := length_slice_of_le hfit
  exact (clean_readAt (by decide) (by omega)).bind fun _ _ =>
    (clean_readAt (by decide) (by omega)).bind fun _ _ => clean_ok _

theorem AnnounceMessage.deserializeContent_clean (header : Header) (b : List UInt8) :
    Clean (deserializeContent header b) :=
  clean_guarded fun h => (clean_readAt (by decide) (by omega)).bind fun _ _ =>
    (clean_readAt (by decide) (by omega)).bind fun _ _ => (clean_index (by omega)).bind fun _ _ =>
    (clean_readAt (by decide) (by omega)).bind fun _ _ => (clean_index (by omega)).bind fun _ _ =>
    (clean_readAt (by decide) (by omega)).bind fun _ _ =>
    (clean_readAt (by decide) (by omega)).bind fun _ _ => (clean_index (by omega)).bind fun _ _ =>
    clean_ok _

theorem ManagementMessage.deserializeContent_clean (b : List UInt8) :
    Clean (deserializeContent b) :=
  clean_guarded fun h => (clean_readAt (by decide) (by omega)).bind fun _ _ =>
    (clean_index (by omega)).bind fun _ _ => (clean_index (by omega)).bind fun _ _ =>
    (clean_index (by omega)).bind fun _ _ => clean_ok _

theorem MessageBody.deserialize_clean (t : MessageType) (header : Header) (b : List UInt8) :
    Clean (deserialize t header b) := by
  have htimestamp := deserializeTimestamp_clean b
  have hport := deserializeTimestampAndPort_clean b
  cases t with
  | sync | delayReq | followUp =>
    exact (htimestamp.bind fun _ _ => clean_ok _).bind fun _ _ => clean_ok _
  | pDelayResp | pDelayRespFollowUp =>
    exact (hport.bind fun _ _ => clean_ok _).bind fun _ _ => clean_ok _
  | pDelayReq | signaling =>
    exact ((clean_okOr _ _).bind fun _ _ => clean_ok _).bind fun _ _ => clean_ok _
  | delayResp =>
    exact (DelayRespMessage.deserializeContent_clean b).bind fun _ _ => clean_ok _
  | announce =>
    exact (AnnounceMessage.deserializeContent_clean header b).bind fun _ _ => clean_ok _
  | management =>
    exact (ManagementMessage.deserializeContent_clean b).bind fun _ _ => clean_ok _

/-! ### The header and the suffix -/

theorem Header.deserializeHeader_clean (b : List UInt8) : Clean (deserializeHeader b) := by
  rcases Nat.lt_or_ge b.length 34 with hshort | hlong
  · rw [deserializeHeader, if_pos hshort]
    exact clean_error _
  · rw [deserializeHeader_eq hlong]
    exact (clean_okOr _ _).bind fun _ _ => clean_ok _

namespace TlvSet

/-- The loop counts bytes of the buffer only. -/
theorem deserializeLoop_clean : ∀ (fuel : Nat) (b : List UInt8) (total : Nat),
    Clean (deserializeLoop fuel b total) ∧
      ∀ n, deserializeLoop fuel b total = .ok n → n ≤ total + b.length := by
  intro fuel
  induction fuel with
  | zero => exact fun b total => ⟨clean_error _, fun n h => by cases h⟩
  | succ fuel ih =>
    intro b total
    unfold deserializeLoop
    split
    · dsimp only
      split
      · exact ⟨clean_error _, fun n h => by cases h⟩
      · refine ⟨(clean_okOr _ _).bind fun rest _ => (ih rest _).1, fun n h => ?_⟩
        obtain ⟨rest, hrest, h⟩ := bind_eq_ok.mp h
        have hn := (ih rest _).2 n h
        rw [okOr_eq_ok, getFrom] at hrest
        split at hrest
        · obtain rfl := Option.some.inj hrest
          rw [List.length_drop] at hn
          omega
        · cases hrest
    · split
      · refine ⟨clean_ok _, fun n h => ?_⟩
        rw [← Except.ok.inj h]
        exact Nat.le_add_right _ _
      · exact ⟨clean_error _, fun n h => by cases h⟩

theorem deserialize_clean (b : List UInt8) : Clean (deserialize b) := by
  obtain ⟨hclean, hle⟩ := deserializeLoop_clean (b.length + 1) b 0
  refine hclean.bind fun total htotal => (clean_readAt (Nat.zero_le _) ?_).bind fun _ _ => clean_ok _
  have hfit := hle total htotal
  omega

end TlvSet

/-! ### Messages -/

namespace Message

/-- **No byte string makes the parser panic.** -/
theorem deserialize_clean (b : List UInt8) : Clean (deserialize b) := by
  refine (Header.deserializeHeader_clean b).bind fun d _ => ?_
  split
  · exact clean_error _
  · exact (clean_okOr _ _).bind fun _ _ => (MessageBody.deserialize_clean _ _ _).bind fun _ _ =>
      (clean_okOr _ _).bind fun _ _ => (TlvSet.deserialize_clean _).bind fun _ _ => clean_ok _

/-- The length field of a message. -/
def lengthField (b : List UInt8) : Nat := ofBE (slice b 2 4)

/-- **What follows the message is not looked at**, nor what follows the header of one that is too
short. -/
theorem deserialize_append {b : List UInt8} (rest : List UInt8) (h34 : 34 ≤ b.length)
    (hfit : lengthField b ≤ b.length) : deserialize (b ++ rest) = deserialize b := by
  have hlen : (b ++ rest).length = b.length + rest.length := List.length_append
  have hheader : Header.deserializeHeader (b ++ rest) = Header.deserializeHeader b := by
    rw [Header.deserializeHeader_eq h34, Header.deserializeHeader_eq (by omega),
      byteAt_append_left (by omega), Header.ofBytes_append _ h34, slice_append_left (by omega)]
  unfold deserialize
  rw [hheader]
  cases hd : Header.deserializeHeader b with
  | error e => rfl
  | ok d =>
    obtain ⟨-, -, -, hlength⟩ := Header.deserializeHeader_eq_ok hd
    have hle : d.messageLength.toNat ≤ b.length := by
      rw [hlength, UInt16.toNat_ofNat']
      exact Nat.le_trans (Nat.mod_le _ _) hfit
    simp only [ok_bind]
    split
    · rfl
    · rename_i hlong
      rw [UInt16.lt_iff_toNat_lt, show (34 : UInt16).toNat = 34 by decide] at hlong
      have hcontent : getRange (b ++ rest) 34 d.messageLength.toNat =
          getRange b 34 d.messageLength.toNat := by
        rw [getRange_append_left (by omega) hle]
        exact (getRange_eq_some.mpr ⟨⟨by omega, hle⟩, rfl⟩).symm
      rw [hcontent]

/-- Two buffers with the same beginning are read alike. -/
theorem deserialize_congr {b b' : List UInt8} {n : Nat} (hn : max 34 (lengthField b) = n)
    (hlen : n ≤ b.length) (hsame : b'.take n = b.take n) :
    deserialize b' = deserialize b := by
  have htake : (b.take n).length = n := List.length_take_of_le hlen
  have hfield : lengthField (b.take n) = lengthField b := by
    conv_rhs => rw [← List.take_append_drop n b, lengthField, slice_append_left (by omega)]
    rfl
  have hfront (rest : List UInt8) : deserialize (b.take n ++ rest) = deserialize (b.take n) :=
    deserialize_append rest (by omega) (by omega)
  conv_lhs => rw [← List.take_append_drop n b', hsame, hfront]
  conv_rhs => rw [← List.take_append_drop n b, hfront]

/-- The records, written one after the other. -/
def reserialize (records : List Tlv) : Except Panic (List UInt8) := do
  let parts ← records.mapM fun t => t.serialize (List.replicate t.wireSize 0)
  return parts.flatten

theorem reserialize_eq (records : List Tlv) :
    reserialize records = .ok (records.flatMap Tlv.toBytes) := by
  have hparts : ∀ records : List Tlv,
      (records.mapM fun t => t.serialize (List.replicate t.wireSize 0)) =
        .ok (records.map Tlv.toBytes) := by
    intro records
    induction records with
    | nil => rfl
    | cons t records ih =>
      have hroom : t.wireSize ≤ (List.replicate t.wireSize (0 : UInt8)).length := by
        rw [List.length_replicate]
      rw [List.mapM_cons, Tlv.serialize_eq t hroom, ok_bind, ih, ok_bind, List.drop_replicate,
        Nat.sub_self, List.replicate_zero, List.append_nil]
      rfl
  rw [reserialize, hparts, ok_bind, List.flatMap_def]
  rfl

/-- **The records of a message that was read**: the iterator yields them without a panic, for any
amount of fuel that is enough, and they make up the suffix. -/
theorem records_of_deserialize (p : Profile) {b : List UInt8} {m : Message}
    (h : deserialize b = .ok m) :
    ∃ records, (∀ fuel, m.suffix.bytes.length < fuel →
        TlvSet.tlvLoop p fuel m.suffix.bytes = .ok records) ∧
      TlvSet.tlv p m.suffix = .ok records ∧ reserialize records = .ok m.suffix.bytes := by
  have haccepted := (deserialize_spec h).1.suffix
  obtain ⟨records, hrecords, hall, hflat⟩ := TlvSet.records_of_accepted p haccepted
  refine ⟨records, fun fuel hfuel => ?_, hrecords, ?_⟩
  · obtain ⟨records', hrecords', hall', hflat'⟩ := TlvSet.tlvLoop_bytes p fuel _ haccepted hfuel
    rw [hrecords', TlvSet.flatMap_toBytes_inj hall' hall (hflat'.trans hflat.symm)]
  · rw [reserialize_eq, hflat]

end Message

/-- **Parsing any bytes.**  The parser never panics.  What it accepts has a length field between 34 and
the length of the buffer.  The result depends only on the bytes up to the length field, and on the
header.  The iterator yields all records of the suffix, which are its bytes. -/
theorem parse_any_bytes :
    (∀ (b : List UInt8) (why : Panic), Message.deserialize b ≠ .error (.panic why)) ∧
    (∀ (b : List UInt8) (m : Message), Message.deserialize b = .ok m →
      34 ≤ Message.lengthField b ∧ Message.lengthField b ≤ b.length) ∧
    (∀ b b' : List UInt8, max 34 (Message.lengthField b) ≤ b.length →
      b'.take (max 34 (Message.lengthField b)) = b.take (max 34 (Message.lengthField b)) →
        Message.deserialize b' = Message.deserialize b) ∧
    ∀ (p : Profile) (b : List UInt8) (m : Message), Message.deserialize b = .ok m →
      ∃ records, (∀ fuel, m.suffix.bytes.length < fuel →
          TlvSet.tlvLoop p fuel m.suffix.bytes = .ok records) ∧
        TlvSet.tlv p m.suffix = .ok records ∧ Message.reserialize records = .ok m.suffix.bytes := by
  refine ⟨Message.deserialize_clean, fun b m h => ?_,
    fun b b' hlen hsame => Message.deserialize_congr rfl hlen hsame,
    fun p b m h => Message.records_of_deserialize p h⟩
  obtain ⟨-, hsize, hfit⟩ := Message.deserialize_spec h
  rw [Message.lengthField, ← hsize]
  refine ⟨?_, hfit⟩
  rw [Message.size, Header.wireSize]
  omega

/-- A signaling message without records and with two bytes of padding. -/
theorem parse_padded :
    Message.deserialize ([12, 2, 0, 44] ++ List.replicate 40 0 ++ [1, 2]) =
      Message.deserialize ([12, 2, 0, 44] ++ List.replicate 40 0) :=
  parse_any_bytes.2.2.1 ([12, 2, 0, 44] ++ List.replicate 40 0)
    ([12, 2, 0, 44] ++ List.replicate 40 0 ++ [1, 2]) (by decide) (by decide)

/-- **Below the header the result changes**: both buffers begin with the four bytes that the length
field covers, and are refused for different reasons. -/
theorem parse_short_length_field :
    Message.lengthField ([0, 2, 0, 4] ++ List.replicate 30 0) = 4 ∧
      Message.lengthField [0, 2, 0, 4] = 4 ∧
      ([0, 2, 0, 4] ++ List.replicate 30 (0 : UInt8)).take 4 = [0, 2, 0, 4] ∧
      Message.deserialize ([0, 2, 0, 4] ++ List.replicate 30 0) = .error (.error .invalid) ∧
      Message.deserialize [0, 2, 0, 4] = .error (.error .bufferTooShort) :=
  ⟨by decide, by decide, by decide, by decide, by decide⟩

end Statime
