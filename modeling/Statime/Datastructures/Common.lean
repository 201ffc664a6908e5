import Statime.Rust.Bytes
import Statime.Time

/-!
# Common data structures

`statime/src/datastructures/common`: identities, clock quality, time source and
the wire form of each.  A `WireFormat::serialize` of these types fills the slice
it is given, so it is modelled by the bytes it writes (`toWire`); `ofWire` reads a
slice of that length back.

Two codes can overflow a byte: `ClockAccuracy::ProfileSpecific` adds its value to
`0x80` and `TimeSource::ProfileSpecific` to `0xf0`.  A value that was read from the
wire never does (`ClockAccuracy.fromPrimitive_toPrimitive`,
`TimeSource.fromPrimitive_toPrimitive`).
-/

namespace Statime

open Rust

/-- Errors of the wire format. -/
inductive WireFormatError
  | enumConversionError
  | bufferTooShort
  | capacityError
  | invalid
  deriving DecidableEq

/-- How a parsing function fails to return a value: with an error, or by a panic. -/
inductive Failure
  | error (e : WireFormatError)
  | panic (why : Panic)
  deriving DecidableEq

/-- A panic inside a parsing function passes through. -/
def must {α : Type} : Except Panic α → Except Failure α
  | .ok a => .ok a
  | .error why => .error (.panic why)

@[simp] theorem must_ok {α : Type} (a : α) : must (.ok a) = .ok a := rfl

/-- `.ok_or(e)?`. -/
def okOr {α : Type} (x : Option α) (e : WireFormatError) : Except Failure α :=
  match x with
  | some a => .ok a
  | none => .error (.error e)

@[simp] theorem okOr_some {α : Type} (a : α) (e : WireFormatError) : okOr (some a) e = .ok a := rfl

theorem okOr_eq_ok {α : Type} {x : Option α} {e : WireFormatError} {a : α} :
    okOr x e = .ok a ↔ x = some a := by
  cases x <;> simp [okOr]

/-! ### Identities -/

/-- The identity of a PTP node. -/
structure ClockIdentity where
  bytes : Vector UInt8 8
  deriving DecidableEq

namespace ClockIdentity

def cmp (a b : ClockIdentity) : Ordering := compare a.bytes.toList b.bytes.toList

def toWire (c : ClockIdentity) : List UInt8 := c.bytes.toList

/-- `buffer[0..8].try_into().unwrap()`. -/
def ofWire (b : List UInt8) : ClockIdentity := ⟨Vector.ofFn fun i => byteAt b i⟩

@[simp] theorem length_toWire (c : ClockIdentity) : c.toWire.length = 8 := by simp [toWire]

@[simp] theorem ofWire_toWire (c : ClockIdentity) : ofWire c.toWire = c := by
  obtain ⟨v⟩ := c
  simp only [ofWire, toWire, mk.injEq]
  ext i hi
  simp [byteAt, List.getD_eq_getElem?_getD]

end ClockIdentity

instance : Inhabited ClockIdentity := ⟨⟨Vector.replicate 8 0⟩⟩

/-- The identity of a single port of a PTP instance. -/
structure PortIdentity where
  clockIdentity : ClockIdentity
  portNumber : UInt16
  deriving DecidableEq, Inhabited

namespace PortIdentity

def toWire (i : PortIdentity) : List UInt8 := i.clockIdentity.toWire ++ toBE 2 i.portNumber.toNat

def ofWire (b : List UInt8) : PortIdentity where
  clockIdentity := ClockIdentity.ofWire (slice b 0 8)
  portNumber := UInt16.ofNat (ofBE (slice b 8 10))

@[simp] theorem length_toWire (i : PortIdentity) : i.toWire.length = 10 := by simp [toWire]

end PortIdentity

/-! ### Clock quality -/

/-- When every value that a byte stands for is written as a byte of the same value, so is every
value that was read. -/
theorem exists_code_of_all {α : Type} {read : UInt8 → α} {write : α → Except Panic UInt8}
    (hall : ∀ v : Fin (2 ^ 8), (write (read ⟨⟨v⟩⟩)).toOption.map read = some (read ⟨⟨v⟩⟩)) {a : α}
    (h : ∃ value, read value = a) : ∃ code, write a = .ok code ∧ read code = a := by
  obtain ⟨value, rfl⟩ := h
  have hvalue := hall value.toBitVec.toFin
  cases hcode : write (read value) with
  | error why =>
    rw [hcode] at hvalue
    cases hvalue
  | ok code =>
    rw [hcode] at hvalue
    exact ⟨code, rfl, Option.some.inj hvalue⟩

/-- How accurate a clock is expected to be when not synchronized. -/
inductive ClockAccuracy
  | reserved
  | ps1 | ps2_5 | ps10 | ps25 | ps100 | ps250
  | ns1 | ns2_5 | ns10 | ns25 | ns100 | ns250
  | us1 | us2_5 | us10 | us25 | us100 | us250
  | ms1 | ms2_5 | ms10 | ms25 | ms100 | ms250
  | s1 | s10 | sgt10
  | profileSpecific (value : UInt8)
  | unknown
  deriving DecidableEq

namespace ClockAccuracy

def toPrimitive (p : Profile) : ClockAccuracy → Except Panic UInt8
  | reserved => .ok 0x00
  | ps1 => .ok 0x17
  | ps2_5 => .ok 0x18
  | ps10 => .ok 0x19
  | ps25 => .ok 0x1a
  | ps100 => .ok 0x1b
  | ps250 => .ok 0x1c
  | ns1 => .ok 0x1d
  | ns2_5 => .ok 0x1e
  | ns10 => .ok 0x1f
  | ns25 => .ok 0x20
  | ns100 => .ok 0x21
  | ns250 => .ok 0x22
  | us1 => .ok 0x23
  | us2_5 => .ok 0x24
  | us10 => .ok 0x25
  | us25 => .ok 0x26
  | us100 => .ok 0x27
  | us250 => .ok 0x28
  | ms1 => .ok 0x29
  | ms2_5 => .ok 0x2a
  | ms10 => .ok 0x2b
  | ms25 => .ok 0x2c
  | ms100 => .ok 0x2d
  | ms250 => .ok 0x2e
  | s1 => .ok 0x2f
  | s10 => .ok 0x30
  | sgt10 => .ok 0x31
  | profileSpecific value => overflow p (decide (128 ≤ value.toNat)) (0x80 + value)
  | unknown => .ok 0xfe

def fromPrimitive : UInt8 → ClockAccuracy
  | 0x17 => ps1
  | 0x18 => ps2_5
  | 0x19 => ps10
  | 0x1a => ps25
  | 0x1b => ps100
  | 0x1c => ps250
  | 0x1d => ns1
  | 0x1e => ns2_5
  | 0x1f => ns10
  | 0x20 => ns25
  | 0x21 => ns100
  | 0x22 => ns250
  | 0x23 => us1
  | 0x24 => us2_5
  | 0x25 => us10
  | 0x26 => us25
  | 0x27 => us100
  | 0x28 => us250
  | 0x29 => ms1
  | 0x2a => ms2_5
  | 0x2b => ms10
  | 0x2c => ms25
  | 0x2d => ms100
  | 0x2e => ms250
  | 0x2f => s1
  | 0x30 => s10
  | 0x31 => sgt10
  | 0xfe => unknown
  | value => if 0x80 ≤ value ∧ value ≤ 0xfd then profileSpecific (value - 0x80) else reserved

/-- The values that some wire code stands for. -/
def OnWire (a : ClockAccuracy) : Prop := ∃ value, fromPrimitive value = a

/-- **What was read from the wire is written back as a code of the same value.** -/
theorem fromPrimitive_toPrimitive (p : Profile) {a : ClockAccuracy} (h : OnWire a) :
    ∃ code, a.toPrimitive p = .ok code ∧ fromPrimitive code = a := by
  have key : ∀ v : Fin (2 ^ 8), ((fromPrimitive ⟨⟨v⟩⟩).toPrimitive p).toOption.map fromPrimitive
      = some (fromPrimitive ⟨⟨v⟩⟩) := by
    cases p <;> decide +kernel
  exact exists_code_of_all key h

end ClockAccuracy

/-- The accuracy and type of a clock. -/
structure ClockQuality where
  clockClass : UInt8
  clockAccuracy : ClockAccuracy
  offsetScaledLogVariance : UInt16
  deriving DecidableEq

namespace ClockQuality

def toWire (p : Profile) (q : ClockQuality) : Except Panic (List UInt8) := do
  let accuracy ← q.clockAccuracy.toPrimitive p
  return [q.clockClass, accuracy] ++ toBE 2 q.offsetScaledLogVariance.toNat

def ofWire (b : List UInt8) : ClockQuality where
  clockClass := byteAt b 0
  clockAccuracy := ClockAccuracy.fromPrimitive (byteAt b 1)
  offsetScaledLogVariance := UInt16.ofNat (ofBE (slice b 2 4))

end ClockQuality

/-! ### Time properties -/

/-- Upcoming leap seconds. -/
inductive LeapIndicator
  | noLeap
  | leap61
  | leap59
  deriving DecidableEq

/-- What the time values of a system are derived from. -/
inductive TimeSource
  | atomicClock
  | gnss
  | terrestrialRadio
  | serialTimeCode
  | ptp
  | ntp
  | handSet
  | other
  | internalOscillator
  | profileSpecific (value : UInt8)
  | reserved
  | unknown (value : UInt8)
  deriving DecidableEq

namespace TimeSource

def toPrimitive (p : Profile) : TimeSource → Except Panic UInt8
  | atomicClock => .ok 0x10
  | gnss => .ok 0x20
  | terrestrialRadio => .ok 0x30
  | serialTimeCode => .ok 0x39
  | ptp => .ok 0x40
  | ntp => .ok 0x50
  | handSet => .ok 0x60
  | other => .ok 0x90
  | internalOscillator => .ok 0xa0
  | profileSpecific value => overflow p (decide (16 ≤ value.toNat)) (0xf0 + value)
  | reserved => .ok 0xff
  | unknown value => .ok value

def fromPrimitive : UInt8 → TimeSource
  | 0x10 => atomicClock
  | 0x20 => gnss
  | 0x30 => terrestrialRadio
  | 0x39 => serialTimeCode
  | 0x40 => ptp
  | 0x50 => ntp
  | 0x60 => handSet
  | 0x90 => other
  | 0xa0 => internalOscillator
  | 0xff => reserved
  | value => if 0xf0 ≤ value ∧ value ≤ 0xfe then profileSpecific (value - 0xf0) else unknown value

/-- The values that some wire code stands for. -/
def OnWire (s : TimeSource) : Prop := ∃ value, fromPrimitive value = s

/-- **What was read from the wire is written back as a code of the same value.** -/
theorem fromPrimitive_toPrimitive (p : Profile) {s : TimeSource} (h : OnWire s) :
    ∃ code, s.toPrimitive p = .ok code ∧ fromPrimitive code = s := by
  have key : ∀ v : Fin (2 ^ 8), ((fromPrimitive ⟨⟨v⟩⟩).toPrimitive p).toOption.map fromPrimitive
      = some (fromPrimitive ⟨⟨v⟩⟩) := by
    cases p <;> decide +kernel
  exact exists_code_of_all key h

end TimeSource

/-! ### Wire forms of the time types -/

def TimeInterval.toWire (i : TimeInterval) : List UInt8 := toBE 8 i.inner.bits.toNat

def TimeInterval.ofWire (b : List UInt8) : TimeInterval := ⟨⟨BitVec.ofNat 64 (ofBE (slice b 0 8))⟩⟩

/-- Six bytes of seconds, the low ones of eight, and four of nanoseconds. -/
def WireTimestamp.toWire (t : WireTimestamp) : List UInt8 :=
  (toBE 8 t.seconds.toNat).drop 2 ++ toBE 4 t.nanos.toNat

def WireTimestamp.ofWire (b : List UInt8) : WireTimestamp where
  seconds := UInt64.ofNat (ofBE ([0, 0] ++ slice b 0 6))
  nanos := UInt32.ofNat (ofBE (slice b 6 10))

end Statime
