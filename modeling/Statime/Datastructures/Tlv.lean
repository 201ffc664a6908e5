import Statime.Datastructures.Common

/-!
# Type-length-value records

`statime/src/datastructures/common/tlv.rs`.  A suffix of a message is a `TlvSet`,
the bytes of records laid end to end.  `TlvSet.deserialize` walks over them and
keeps the bytes; `TlvSet.tlv` lists the records.

Every turn of these walks consumes at least four bytes, so the length of the buffer
bounds the number of turns; it is the `fuel` of the recursions.

* `deserialize_bytes`: an accepted buffer is kept whole, and its length is even.
* `next_of_accepted`: on an accepted buffer the iterator does not panic, and what it
  leaves is accepted again.
-/

namespace Statime

open Rust

inductive TlvType
  | reserved (value : UInt16)
  | management
  | managementErrorStatus
  | organizationExtension
  | requestUnicastTransmission
  | grantUnicastTransmission
  | cancelUnicastTransmission
  | acknowledgeCancelUnicastTransmission
  | pathTrace
  | alternateTimeOffsetIndicator
  | legacy (value : UInt16)
  | experimental (value : UInt16)
  | organizationExtensionPropagate
  | enhancedAccuracyMetrics
  | organizationExtensionDoNotPropagate
  | l1Sync
  | portCommunicationAvailability
  | protocolAddress
  | slaveRxSyncTimingData
  | slaveRxSyncComputedData
  | slaveTxEventTimestamps
  | cumulativeRateRatio
  | pad
  | authentication
  deriving DecidableEq

namespace TlvType

def toPrimitive : TlvType → UInt16
  | reserved value => value
  | management => 0x0001
  | managementErrorStatus => 0x0002
  | organizationExtension => 0x0003
  | requestUnicastTransmission => 0x0004
  | grantUnicastTransmission => 0x0005
  | cancelUnicastTransmission => 0x0006
  | acknowledgeCancelUnicastTransmission => 0x0007
  | pathTrace => 0x0008
  | alternateTimeOffsetIndicator => 0x0009
  | legacy value => value
  | experimental value => value
  | organizationExtensionPropagate => 0x4000
  | enhancedAccuracyMetrics => 0x4001
  | organizationExtensionDoNotPropagate => 0x8000
  | l1Sync => 0x8001
  | portCommunicationAvailability => 0x8002
  | protocolAddress => 0x8003
  | slaveRxSyncTimingData => 0x8004
  | slaveRxSyncComputedData => 0x8005
  | slaveTxEventTimestamps => 0x8006
  | cumulativeRateRatio => 0x8007
  | pad => 0x8008
  | authentication => 0x8009

def fromPrimitive : UInt16 → TlvType
  | 0x0001 => management
  | 0x0002 => managementErrorStatus
  | 0x0003 => organizationExtension
  | 0x0004 => requestUnicastTransmission
  | 0x0005 => grantUnicastTransmission
  | 0x0006 => cancelUnicastTransmission
  | 0x0007 => acknowledgeCancelUnicastTransmission
  | 0x0008 => pathTrace
  | 0x0009 => alternateTimeOffsetIndicator
  | 0x4000 => organizationExtensionPropagate
  | 0x4001 => enhancedAccuracyMetrics
  | 0x8000 => organizationExtensionDoNotPropagate
  | 0x8001 => l1Sync
  | 0x8002 => portCommunicationAvailability
  | 0x8003 => protocolAddress
  | 0x8004 => slaveRxSyncTimingData
  | 0x8005 => slaveRxSyncComputedData
  | 0x8006 => slaveTxEventTimestamps
  | 0x8007 => cumulativeRateRatio
  | 0x8008 => pad
  | 0x8009 => authentication
  | value =>
    if 0x2000 ≤ value ∧ value ≤ 0x2003 then legacy value
    else if (0x2004 ≤ value ∧ value ≤ 0x202f) ∨ (0x7f00 ≤ value ∧ value ≤ 0x7fff) then
      experimental value
    else reserved value

/-- Whether a boundary clock passes the record on in its own announces. -/
def announcePropagate (t : TlvType) : Bool :=
  t.toPrimitive = 0x0008 ∨ t.toPrimitive = 0x0009 ∨
    (0x4000 ≤ t.toPrimitive ∧ t.toPrimitive ≤ 0x7fff)

end TlvType

structure Tlv where
  tlvType : TlvType
  value : List UInt8
  deriving DecidableEq

namespace Tlv

def wireSize (t : Tlv) : Nat := 4 + t.value.length

/-- The length field is `value.len() as u16`, which `toBE` cuts to two bytes. -/
def serialize (t : Tlv) (buffer : List UInt8) : Except Panic (List UInt8) := do
  let b ← writeAt buffer 0 (toBE 2 t.tlvType.toPrimitive.toNat)
  let b ← writeAt b 2 (toBE 2 t.value.length)
  writeAt b 4 t.value

def deserialize (buffer : List UInt8) : Except Failure Tlv :=
  if buffer.length < 4 then .error (.error .bufferTooShort)
  else
    let tlvType := TlvType.fromPrimitive (UInt16.ofNat (ofBE (slice buffer 0 2)))
    let length := ofBE (slice buffer 2 4)
    if buffer.length < 4 + length then .error (.error .bufferTooShort)
    else .ok { tlvType, value := slice buffer 4 (4 + length) }

end Tlv

/-! ### Sets of records -/

/-- The bytes of a list of records. -/
structure TlvSet where
  bytes : List UInt8
  deriving DecidableEq

instance : Inhabited TlvSet := ⟨⟨[]⟩⟩

namespace TlvSet

def wireSize (p : Profile) (s : TlvSet) : Except Panic Nat := do
  debugAssert p (s.bytes.length % 2 = 0)
  return s.bytes.length

/-- Copies the bytes to the front of the buffer; `None` stands for `BufferTooShort`. -/
def serialize (s : TlvSet) (buffer : List UInt8) : Option (List UInt8) :=
  if s.bytes.length ≤ buffer.length then some (write buffer 0 s.bytes) else none

/-- The `while` loop of `deserialize`: the total length of the records, or the error. -/
def deserializeLoop : Nat → List UInt8 → Nat → Except Failure Nat
  | 0, _, _ => .error (.error .invalid)
  | fuel + 1, buffer, total =>
    if 4 < buffer.length then do
      let length := ofBE (slice buffer 2 4)
      if length % 2 ≠ 0 then .error (.error .invalid)
      else
        let rest ← okOr (getFrom buffer (4 + length)) .bufferTooShort
        deserializeLoop fuel rest (total + (4 + length))
    else if buffer.isEmpty then .ok total
    else .error (.error .bufferTooShort)

def deserialize (buffer : List UInt8) : Except Failure TlvSet := do
  let total ← deserializeLoop (buffer.length + 1) buffer 0
  let bytes ← must (readAt buffer 0 total)
  return ⟨bytes⟩

/-- `TlvSetIterator::next`: the next record and the rest of the buffer.  A record that
does not parse panics. -/
def next (p : Profile) (buffer : List UInt8) : Except Panic (Option (Tlv × List UInt8)) :=
  if buffer.length ≤ 4 then do
    debugAssert p (buffer.length = 0)
    return none
  else
    match Tlv.deserialize buffer with
    | .error _ => .error .unwrap
    | .ok tlv => .ok (some (tlv, buffer.drop tlv.wireSize))

/-- The records of a buffer up to its end. -/
def tlvLoop (p : Profile) : Nat → List UInt8 → Except Panic (List Tlv)
  | 0, _ => .ok []
  | fuel + 1, buffer => do
    match ← next p buffer with
    | none => return []
    | some (tlv, buffer) =>
      let rest ← tlvLoop p fuel buffer
      return tlv :: rest

/-- All records of the set, as `tlv()` yields them. -/
def tlv (p : Profile) (s : TlvSet) : Except Panic (List Tlv) :=
  tlvLoop p (s.bytes.length + 1) s.bytes

/-- `tlv().find(..)`, which stops at the first record with the property. -/
def findLoop (p : Profile) (found : Tlv → Bool) : Nat → List UInt8 → Except Panic (Option Tlv)
  | 0, _ => .ok none
  | fuel + 1, buffer => do
    match ← next p buffer with
    | none => return none
    | some (tlv, buffer) => if found tlv then return some tlv else findLoop p found fuel buffer

def find (p : Profile) (s : TlvSet) (found : Tlv → Bool) : Except Panic (Option Tlv) :=
  findLoop p found (s.bytes.length + 1) s.bytes

end TlvSet

/-- Records collected into a buffer. -/
structure TlvSetBuilder where
  buffer : List UInt8
  used : Nat

namespace TlvSetBuilder

def new (buffer : List UInt8) : TlvSetBuilder := { buffer, used := 0 }

def add (b : TlvSetBuilder) (tlv : Tlv) : Except Panic TlvSetBuilder := do
  let rest ← readAt b.buffer b.used b.buffer.length
  let rest ← tlv.serialize rest
  return { buffer := b.buffer.take b.used ++ rest, used := b.used + tlv.wireSize }

def build (b : TlvSetBuilder) : Except Panic TlvSet := do
  let bytes ← readAt b.buffer 0 b.used
  return ⟨bytes⟩

end TlvSetBuilder

/-! ### Accepted buffers -/

namespace TlvSet

theorem deserializeLoop_length : ∀ (fuel : Nat) (buffer : List UInt8) (total n : Nat),
    deserializeLoop fuel buffer total = .ok n → n = total + buffer.length ∧ buffer.length % 2 = 0 := by
  intro fuel
  induction fuel with
  | zero => intro buffer total n h; cases h
  | succ fuel ih =>
    intro buffer total n h
    rw [deserializeLoop] at h
    split at h
    · dsimp only at h
      split at h
      · cases h
      · obtain ⟨rest, hrest, h⟩ := bind_eq_ok.mp h
        rw [okOr_eq_ok, getFrom] at hrest
        split at hrest
        · rename_i hfit
          obtain rfl := Option.some.inj hrest
          obtain ⟨hn, hl⟩ := ih _ _ _ h
          rw [List.length_drop] at hn hl
          omega
        · cases hrest
    · split at h
      · rename_i hempty
        have hnil : buffer = [] := List.isEmpty_iff.mp hempty
        subst hnil
        simpa using (Except.ok.inj h).symm
      · cases h

/-- **An accepted buffer is kept whole**, and its length is even. -/
theorem deserialize_bytes {buffer : List UInt8} {s : TlvSet} (h : deserialize buffer = .ok s) :
    s.bytes = buffer ∧ buffer.length % 2 = 0 := by
  obtain ⟨total, ht, h⟩ := bind_eq_ok.mp h
  obtain ⟨hn, heven⟩ := deserializeLoop_length _ _ _ _ ht
  rw [readAt_eq_ok (Nat.zero_le _) (by omega), must_ok, ok_bind] at h
  refine ⟨?_, heven⟩
  rw [← Except.ok.inj h, slice_zero, hn]
  simp

theorem deserializeLoop_fuel : ∀ (fuel fuel' : Nat) (buffer : List UInt8) (total : Nat),
    buffer.length < fuel → buffer.length < fuel' →
      deserializeLoop fuel buffer total = deserializeLoop fuel' buffer total := by
  intro fuel
  induction fuel with
  | zero => intro fuel' buffer total h _; omega
  | succ fuel ih =>
    intro fuel' buffer total h h'
    obtain ⟨fuel', rfl⟩ : ∃ k, fuel' = k + 1 := ⟨fuel' - 1, by omega⟩
    rw [deserializeLoop, deserializeLoop]
    split
    · dsimp only
      split
      · rfl
      · cases hr : getFrom buffer (4 + ofBE (slice buffer 2 4)) with
        | none => rfl
        | some rest =>
          have hlen : rest.length < buffer.length := by
            rw [getFrom] at hr
            split at hr
            · rw [← Option.some.inj hr, List.length_drop]
              omega
            · cases hr
          exact ih fuel' rest _ (by omega) (by omega)
    · rfl

theorem deserializeLoop_total : ∀ (fuel : Nat) (buffer : List UInt8) (total n : Nat),
    deserializeLoop fuel buffer total = .ok n →
      ∀ total', ∃ n', deserializeLoop fuel buffer total' = .ok n' := by
  intro fuel
  induction fuel with
  | zero => intro buffer total n h; cases h
  | succ fuel ih =>
    intro buffer total n h total'
    rw [deserializeLoop] at h ⊢
    split at h
    · rename_i hlong
      dsimp only at h
      split at h
      · cases h
      · rename_i heven
        obtain ⟨rest, hrest, h⟩ := bind_eq_ok.mp h
        rw [if_pos hlong, if_neg heven, hrest, ok_bind]
        exact ih _ _ _ h _
    · rename_i hshort
      split at h
      · rename_i hempty
        rw [if_neg hshort, if_pos hempty]
        exact ⟨total', rfl⟩
      · cases h

/-- A buffer that `deserialize` accepts. -/
def Accepted (buffer : List UInt8) : Prop := ∃ s, deserialize buffer = .ok s

theorem accepted_iff {buffer : List UInt8} :
    Accepted buffer ↔ ∃ n, deserializeLoop (buffer.length + 1) buffer 0 = .ok n := by
  constructor
  · rintro ⟨s, h⟩
    obtain ⟨n, hn, -⟩ := bind_eq_ok.mp h
    exact ⟨n, hn⟩
  · rintro ⟨n, hn⟩
    have hle := (deserializeLoop_length _ _ _ _ hn).1
    refine ⟨⟨slice buffer 0 n⟩, ?_⟩
    rw [deserialize, hn, ok_bind, readAt_eq_ok (Nat.zero_le _) (by omega)]
    rfl

theorem deserialize_of_accepted {buffer : List UInt8} (h : Accepted buffer) :
    deserialize buffer = .ok ⟨buffer⟩ := by
  obtain ⟨s, hs⟩ := h
  have := (deserialize_bytes hs).1
  rw [hs]
  cases s
  simp_all

/-- **On an accepted buffer the iterator does not panic**, and what it leaves is accepted. -/
theorem next_of_accepted (p : Profile) {buffer : List UInt8} (h : Accepted buffer) :
    (buffer = [] ∧ next p buffer = .ok none) ∨
      ∃ tlv rest, next p buffer = .ok (some (tlv, rest)) ∧ Accepted rest ∧
        rest.length < buffer.length ∧ tlv.value.length % 2 = 0 := by
  obtain ⟨n, hn⟩ := accepted_iff.mp h
  rw [deserializeLoop] at hn
  split at hn
  · rename_i hlong
    dsimp only at hn
    split at hn
    · cases hn
    · rename_i heven
      obtain ⟨rest, hrest, hn⟩ := bind_eq_ok.mp hn
      rw [okOr_eq_ok, getFrom] at hrest
      split at hrest
      · rename_i hfit
        obtain rfl := Option.some.inj hrest
        right
        let tlv : Tlv :=
          { tlvType := TlvType.fromPrimitive (UInt16.ofNat (ofBE (slice buffer 0 2)))
            value := slice buffer 4 (4 + ofBE (slice buffer 2 4)) }
        have htlv : Tlv.deserialize buffer = .ok tlv := by
          rw [Tlv.deserialize, if_neg (by omega)]
          exact if_neg (by omega)
        refine ⟨tlv, buffer.drop (4 + ofBE (slice buffer 2 4)), ?_, ?_, ?_, ?_⟩
        · rw [next, if_neg (by omega), htlv]
          simp only [tlv, Tlv.wireSize, length_slice_of_le hfit, Nat.add_sub_cancel_left]
        · rw [accepted_iff]
          obtain ⟨n', hn'⟩ := deserializeLoop_total _ _ _ _ hn 0
          exact ⟨n', (deserializeLoop_fuel _ _ _ _ (by omega)
            (by rw [List.length_drop]; omega)).trans hn'⟩
        · rw [List.length_drop]
          omega
        · rw [length_slice_of_le hfit]
          omega
      · cases hrest
  · split at hn
    · rename_i hempty
      have hnil : buffer = [] := List.isEmpty_iff.mp hempty
      subst hnil
      exact Or.inl ⟨rfl, by simp [next]⟩
    · cases hn

theorem findLoop_of_accepted (p : Profile) (found : Tlv → Bool) : ∀ (fuel : Nat)
    (buffer : List UInt8), Accepted buffer → ∃ r, findLoop p found fuel buffer = .ok r := by
  intro fuel
  induction fuel with
  | zero => intro buffer _; exact ⟨none, rfl⟩
  | succ fuel ih =>
    intro buffer h
    rw [findLoop]
    rcases next_of_accepted p h with ⟨-, hnone⟩ | ⟨tlv, rest, hsome, hrest, -, -⟩
    · rw [hnone]
      exact ⟨none, rfl⟩
    · rw [hsome]
      simp only [ok_bind]
      split
      · exact ⟨some tlv, rfl⟩
      · exact ih rest hrest

theorem find_of_accepted (p : Profile) {s : TlvSet} (h : Accepted s.bytes) (found : Tlv → Bool) :
    ∃ r, find p s found = .ok r := findLoop_of_accepted p found _ _ h

theorem tlvLoop_of_accepted (p : Profile) : ∀ (fuel : Nat) (buffer : List UInt8), Accepted buffer →
    ∃ tlvs, tlvLoop p fuel buffer = .ok tlvs ∧ ∀ tlv ∈ tlvs, tlv.value.length % 2 = 0 := by
  intro fuel
  induction fuel with
  | zero => intro buffer _; exact ⟨[], rfl, by simp⟩
  | succ fuel ih =>
    intro buffer h
    rw [tlvLoop]
    rcases next_of_accepted p h with ⟨-, hnone⟩ | ⟨tlv, rest, hsome, hrest, -, heven⟩
    · rw [hnone]
      exact ⟨[], rfl, by simp⟩
    · obtain ⟨tlvs, htlvs, hall⟩ := ih rest hrest
      rw [hsome]
      simp only [ok_bind, htlvs]
      exact ⟨tlv :: tlvs, rfl, List.forall_mem_cons.mpr ⟨heven, hall⟩⟩

/-- The records of an accepted buffer have values of even length. -/
theorem tlv_of_accepted (p : Profile) {s : TlvSet} (h : Accepted s.bytes) :
    ∃ tlvs, tlv p s = .ok tlvs ∧ ∀ tlv ∈ tlvs, tlv.value.length % 2 = 0 :=
  tlvLoop_of_accepted p _ _ h

end TlvSet

/-! ### Building a set -/

theorem Tlv.serialize_spec (t : Tlv) {buffer : List UInt8} (h : t.wireSize ≤ buffer.length) :
    ∃ out, t.serialize buffer = .ok out ∧ out.length = buffer.length := by
  rw [Tlv.wireSize] at h
  have h₁ : (write buffer 0 (toBE 2 t.tlvType.toPrimitive.toNat)).length = buffer.length :=
    length_write (by rw [length_toBE]; omega)
  have h₂ : (write (write buffer 0 (toBE 2 t.tlvType.toPrimitive.toNat)) 2
      (toBE 2 t.value.length)).length = buffer.length := by
    rw [length_write (by rw [length_toBE]; omega), h₁]
  rw [Tlv.serialize, writeAt_eq_ok (by rw [length_toBE]; omega), ok_bind,
    writeAt_eq_ok (by rw [length_toBE]; omega), ok_bind, writeAt_eq_ok (by omega)]
  exact ⟨_, rfl, (length_write (by omega)).trans h₂⟩

namespace TlvSetBuilder

/-- **A record is added when there is room for it.** -/
theorem add_spec {b : TlvSetBuilder} {t : Tlv} (h : b.used + t.wireSize ≤ b.buffer.length) :
    ∃ b', b.add t = .ok b' ∧ b'.buffer.length = b.buffer.length ∧
      b'.used = b.used + t.wireSize := by
  have hrest : (slice b.buffer b.used b.buffer.length).length = b.buffer.length - b.used :=
    length_slice_of_le (Nat.le_refl _)
  obtain ⟨out, hout, hlen⟩ := t.serialize_spec (show t.wireSize ≤ (slice b.buffer b.used
    b.buffer.length).length by omega)
  refine ⟨{ buffer := b.buffer.take b.used ++ out, used := b.used + t.wireSize }, ?_, ?_, rfl⟩
  · rw [add, readAt_eq_ok (by omega) (Nat.le_refl _), ok_bind, hout, ok_bind, pure_eq_ok]
  · simp only [List.length_append, List.length_take]
    omega

theorem build_spec {b : TlvSetBuilder} (h : b.used ≤ b.buffer.length) :
    ∃ s, b.build = .ok s ∧ s.bytes.length = b.used := by
  refine ⟨⟨slice b.buffer 0 b.used⟩, ?_, length_slice_of_le h⟩
  rw [build, readAt_eq_ok (Nat.zero_le _) h, ok_bind, pure_eq_ok]

end TlvSetBuilder

end Statime
