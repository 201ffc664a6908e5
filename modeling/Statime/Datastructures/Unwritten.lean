import Statime.Datastructures.Codec

/-!
# Bytes that are not written

A message that is written to a buffer should leave nothing of what the buffer held before.  An announce
message leaves the byte before its first priority, and a management message the one before its hops.

* `MessageBody.serialize_allBut`: a body writes every other byte.
* `Message.serialize_twice`: when two buffers end up with the same message.
-/

namespace Statime

open Rust

/-! ### Writers -/

section Writers

variable {ε : Type} {kept : List Nat} {n : Nat}

theorem must_allBut {f : List UInt8 → Except Panic (List UInt8)} (h : FillsAllBut kept n f) :
    FillsAllBut kept n fun b => must (f b) := by
  intro b b' out hb hb' hout
  obtain ⟨out', hout', hiff⟩ := h b b' out hb hb' (must_eq_ok.mp hout)
  exact ⟨out', must_eq_ok.mpr hout', hiff⟩

/-- The length is checked first. -/
theorem guarded_allBut {m : Nat} {e : ε} {f : List UInt8 → Except ε (List UInt8)}
    (h : FillsAllBut kept n f) :
    FillsAllBut kept n fun b => if b.length < m then .error e else f b := by
  intro b b' out hb hb' hout
  dsimp only at hout ⊢
  rw [hb] at hout
  rw [hb']
  split at hout
  · cases hout
  · rename_i hlong
    rw [if_neg hlong]
    exact h b b' out hb hb' hout

/-- Something else is computed first. -/
theorem bind_allBut {α : Type} (x : Except ε α) {f : α → List UInt8 → Except ε (List UInt8)}
    (h : ∀ a, x = .ok a → FillsAllBut kept n (f a)) :
    FillsAllBut kept n fun b => x >>= fun a => f a b := by
  intro b b' out hb hb' hout
  obtain ⟨a, rfl, hout⟩ := bind_eq_ok.mp hout
  exact h a rfl b b' out hb hb' hout

end Writers

/-! ### The parts of a message -/

theorem Header.serializeHeader_allBut (h : Header) (t : MessageType) (m : Nat) :
    FillsAllBut [] 34 (h.serializeHeader t m) := by
  refine fill_allBut (by simp) fun j hj => ?_
  simp only [Covered, List.exists_mem_cons_iff, List.length_cons, List.length_nil, length_toBE,
    TimeInterval.length_toWire, PortIdentity.length_toWire, List.not_mem_nil]
  simp only [false_and, exists_false, or_false, not_false_eq_true, iff_true]
  omega

theorem serializeTimestamp_allBut (t : WireTimestamp) :
    FillsAllBut [] 10 (serializeTimestamp t) := by
  refine must_allBut (fill_allBut (by simp) fun j hj => ?_)
  simp [Covered, hj]

theorem fillTimestampAndPort_allBut (t : WireTimestamp) (i : PortIdentity) :
    FillsAllBut [] 20 fun b => must (fill b [(0, t.toWire), (10, i.toWire)]) := by
  refine must_allBut (fill_allBut (by simp) fun j hj => ?_)
  simp [Covered]
  omega

namespace MessageBody

/-- The positions in the body that are not written. -/
def unwritten : MessageBody → List Nat
  | announce _ => [12]
  | management _ => [10]
  | _ => []

/-- **A body writes all other bytes.** -/
theorem serialize_allBut (p : Profile) (body : MessageBody) :
    FillsAllBut body.unwritten body.wireSize (body.serialize p) := by
  cases body with
  | sync m => exact serializeTimestamp_allBut m.originTimestamp
  | delayReq m => exact serializeTimestamp_allBut m.originTimestamp
  | followUp m => exact serializeTimestamp_allBut m.preciseOriginTimestamp
  | pDelayReq m =>
    refine guarded_allBut (must_allBut (fill_allBut (by simp [unwritten]) fun j hj => ?_))
    simp [Covered, unwritten, wireSize] at hj ⊢
    omega
  | pDelayResp m =>
    exact guarded_allBut
      (fillTimestampAndPort_allBut m.requestReceiveTimestamp m.requestingPortIdentity)
  | pDelayRespFollowUp m =>
    exact guarded_allBut
      (fillTimestampAndPort_allBut m.responseOriginTimestamp m.requestingPortIdentity)
  | delayResp m => exact fillTimestampAndPort_allBut m.receiveTimestamp m.requestingPortIdentity
  | signaling m =>
    refine guarded_allBut (must_allBut (fill_allBut (by simp [unwritten]) fun j hj => ?_))
    simp [Covered, unwritten, wireSize] at hj ⊢
    omega
  | management m =>
    refine must_allBut (fill_allBut (by simp [unwritten, wireSize]) fun j hj => ?_)
    simp [Covered, unwritten, wireSize] at hj ⊢
    omega
  | announce m =>
    refine guarded_allBut (bind_allBut _ fun quality hquality => bind_allBut _ fun source _ =>
      must_allBut (fill_allBut (by simp [unwritten, wireSize]) fun j hj => ?_))
    have hlen : quality.length = 4 := by
      obtain ⟨code, hcode, -⟩ := bind_eq_ok.mp (must_eq_ok.mp hquality)
      obtain ⟨bytes, hbytes, hlen, -⟩ := ClockQuality.ofWire_toWire hcode
      rwa [← Except.ok.inj (hbytes.symm.trans (must_eq_ok.mp hquality))]
    simp [Covered, unwritten, wireSize, hlen] at hj ⊢
    omega

end MessageBody

/-! ### Messages -/

namespace Message

/-- The octets of the message that are not written. -/
def unwritten (m : Message) : List Nat := m.body.unwritten.map (Header.wireSize + ·)

theorem byteAt_drop (b : List UInt8) (i j : Nat) : byteAt (b.drop i) j = byteAt b (i + j) := by
  simp [byteAt, List.getD_eq_getElem?_getD]

theorem byteAt_slice {b : List UInt8} {n j : Nat} (h : j < n) :
    byteAt (slice b 0 n) j = byteAt b j := by
  rw [slice_zero]
  simp [byteAt, List.getD_eq_getElem?_getD, h]

/-- The bytes after the message stay. -/
theorem byteAt_rest {p : Profile} {m : Message} {buffer out : List UInt8} {n j : Nat}
    (h : m.serialize p buffer = .ok (out, n)) (hj : n ≤ j) : byteAt out j = byteAt buffer j := by
  obtain ⟨header, body, hheader, hbody, rfl, -, rfl⟩ := serialize_eq_ok h
  have hlen : (header ++ body ++ m.suffix.bytes).length = m.size := by
    simp only [List.length_append, hheader, hbody]
    rfl
  rw [← Nat.add_sub_cancel' hj, ← byteAt_drop, ← byteAt_drop, List.drop_left' hlen]

/-- **A message in two buffers.**  It is written to both or to none, and they hold the same bytes
exactly when they agreed in the octets that are not written. -/
theorem serialize_twice {p : Profile} {m : Message} {buffer buffer' out : List UInt8} {n : Nat}
    (hlen : buffer'.length = buffer.length) (h : m.serialize p buffer = .ok (out, n)) :
    ∃ out', m.serialize p buffer' = .ok (out', n) ∧
      (out'.take n = out.take n ↔ ∀ j ∈ m.unwritten, byteAt buffer' j = byteAt buffer j) := by
  obtain ⟨header, body, hfit, hsuffix, hheader, hbody, rfl, rfl⟩ := serialize_iff.mp h
  have hm : m.size = 34 + m.body.wireSize + m.suffix.bytes.length := rfl
  have hroom {b : List UInt8} (hb : m.size ≤ b.length) : (slice b 0 34).length = 34 ∧
      (slice (b.drop 34) 0 m.body.wireSize).length = m.body.wireSize := by
    refine ⟨length_slice_of_le (by omega), ?_⟩
    rw [length_slice_of_le (by rw [List.length_drop]; omega), Nat.sub_zero]
  obtain ⟨hroom₁, hroom₂⟩ := hroom hfit
  obtain ⟨hroom₁', hroom₂'⟩ := hroom (show m.size ≤ buffer'.length by omega)
  obtain ⟨header', hheader', hsame⟩ :=
    m.header.serializeHeader_allBut _ _ _ _ _ hroom₁ hroom₁' hheader
  obtain rfl := hsame.mpr fun j hj => absurd hj List.not_mem_nil
  obtain ⟨body', hbody', hiff⟩ :=
    m.body.serialize_allBut p _ _ _ hroom₂ hroom₂' hbody
  refine ⟨_, serialize_iff.mpr ⟨header', body', by omega, hsuffix, hheader', hbody', rfl, rfl⟩, ?_⟩
  have hlenHeader : header'.length = 34 := (length_fill _ _ _ hheader).trans hroom₁
  have hlenBody := (MessageBody.length_serialize hbody).trans hroom₂
  have hlenBody' := (MessageBody.length_serialize hbody').trans hroom₂'
  have htake {body : List UInt8} (rest : List UInt8) (hb : body.length = m.body.wireSize) :
      (header' ++ body ++ m.suffix.bytes ++ rest).take m.size =
        header' ++ body ++ m.suffix.bytes :=
    List.take_left' (by simp only [List.length_append]; omega)
  rw [htake _ hlenBody, htake _ hlenBody', List.append_left_inj, List.append_right_inj, hiff]
  simp only [unwritten, List.forall_mem_map, Header.wireSize]
  refine forall₂_congr fun j hj => ?_
  have hlt : j < m.body.wireSize := by
    cases hm : m.body <;> simp [hm, MessageBody.unwritten] at hj <;>
      simp [MessageBody.wireSize] <;> omega
  rw [byteAt_slice hlt, byteAt_slice hlt, byteAt_drop, byteAt_drop]

/-- The same bytes are written to both buffers. -/
def SameBytes (p : Profile) (m : Message) (buffer buffer' : List UInt8) : Prop :=
  ∀ out n, m.serialize p buffer = .ok (out, n) →
    ∃ out', m.serialize p buffer' = .ok (out', n) ∧ out'.take n = out.take n

/-- **When the buffer does not matter**: the buffers agree in the octets that are not written. -/
theorem sameBytes_iff (p : Profile) (m : Message) {buffer buffer' : List UInt8}
    (hlen : buffer'.length = buffer.length) :
    m.SameBytes p buffer buffer' ↔ ((∃ r, m.serialize p buffer = .ok r) →
      ∀ j ∈ m.unwritten, byteAt buffer' j = byteAt buffer j) := by
  constructor
  · rintro h ⟨⟨out, n⟩, hout⟩
    obtain ⟨out', hout', hiff⟩ := serialize_twice hlen hout
    obtain ⟨out₁, hout₁, hsame⟩ := h out n hout
    obtain ⟨rfl, -⟩ := Prod.mk.inj (Except.ok.inj (hout'.symm.trans hout₁))
    exact hiff.mp hsame
  · intro h out n hout
    obtain ⟨out', hout', hiff⟩ := serialize_twice hlen hout
    exact ⟨out', hout', hiff.mpr (h ⟨_, hout⟩)⟩

end Message

end Statime
