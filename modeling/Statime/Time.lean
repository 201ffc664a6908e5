import Mathlib.Data.Rat.Defs
import Statime.Rust.Fixed

/-!
# Time

`statime/src/time`: `Time` is an instant in nanoseconds (`U96F32`), `Duration` a
signed span of nanoseconds (`I96F32`), `Interval` a power of two of seconds.  With
them come the two wire types they convert to and from: `TimeInterval` (`I48F16`
nanoseconds) and `WireTimestamp` (seconds and nanoseconds).

The code turns an `Interval` into a `Duration` through `f64`.  Powers of two and
`10^9` times a power of two are exact there, so the only rounding is the last
step to 32 fractional bits, `roundEven`.  `core::time::Duration` is only ever
handed to the user's timers; it is the exact number of seconds here, without the
rounding to whole nanoseconds.
-/

namespace Statime

open Rust

abbrev U96F32 := UFixed 128 32
abbrev I96F32 := IFixed 128 32
abbrev I48F16 := IFixed 64 16

/-- `core::time::Duration`, in seconds. -/
abbrev CoreDuration := Rat

/-- A span of time, possibly negative. -/
structure Duration where
  inner : I96F32
  deriving DecidableEq

/-- A moment in time. -/
structure Time where
  inner : U96F32
  deriving DecidableEq

/-- A log2 representation of seconds. -/
structure Interval where
  log2 : Int8
  deriving DecidableEq

/-- A time interval on the wire, in units of `2^-16` nanoseconds. -/
structure TimeInterval where
  inner : I48F16
  deriving DecidableEq

/-- A timestamp on the wire: 48 bits of seconds and 32 bits of nanoseconds. -/
structure WireTimestamp where
  seconds : UInt64
  nanos : UInt32
  deriving DecidableEq

instance : Inhabited Time := ⟨⟨⟨0⟩⟩⟩
instance : Inhabited Duration := ⟨⟨⟨0⟩⟩⟩
instance : Inhabited TimeInterval := ⟨⟨⟨0⟩⟩⟩
instance : Inhabited WireTimestamp := ⟨⟨0, 0⟩⟩

/-! ### Durations -/

namespace Duration

/-- In units of `2^-32` nanoseconds. -/
def toInt (d : Duration) : Int := d.inner.toInt

def zero : Duration := ⟨⟨0⟩⟩

def neg (p : Profile) (d : Duration) : Except Panic Duration := do
  let r ← d.inner.neg p
  return ⟨r⟩

def add (p : Profile) (a b : Duration) : Except Panic Duration := do
  let r ← a.inner.add p b.inner
  return ⟨r⟩

def sub (p : Profile) (a b : Duration) : Except Panic Duration := do
  let n ← b.neg p
  a.add p n

/-- `self * n`. -/
def mul (p : Profile) (d : Duration) (n : Int) : Except Panic Duration := do
  let m ← IFixed.toFixed p n
  let r ← d.inner.mul p m
  return ⟨r⟩

/-- `self / n`. -/
def div (p : Profile) (d : Duration) (n : Int) : Except Panic Duration := do
  let m ← IFixed.toFixed p n
  let r ← d.inner.div p m
  return ⟨r⟩

def cmp (a b : Duration) : Ordering := a.inner.cmp b.inner

def lt (a b : Duration) : Bool := decide (a.toInt < b.toInt)

/-- `Duration::from(TimeInterval)`: the sixteen fractional bits become thirty-two. -/
def ofTimeInterval (i : TimeInterval) : Duration := ⟨⟨BitVec.ofInt 128 (i.inner.toInt * 2 ^ 16)⟩⟩

/-- `Duration::from_seconds(2f64.powi(log))`. -/
def fromSecondsLog (p : Profile) (log : Int8) : Except Panic Duration := do
  let secs : I96F32 ← IFixed.wrap p (roundEven 1 (log.toInt + 32))
  let giga ← IFixed.toFixed p 1000000000
  let r ← secs.mul p giga
  return ⟨r⟩

/-- `Duration::from_interval`. -/
def fromInterval (p : Profile) (i : Interval) : Except Panic Duration := do
  let r ← IFixed.wrap p (roundEven 1000000000 (i.log2.toInt + 32))
  return ⟨r⟩

end Duration

namespace TimeInterval

/-- In units of `2^-16` nanoseconds. -/
def toInt (i : TimeInterval) : Int := i.inner.toInt

/-- `TimeInterval::from(Duration)`: `(duration.nanos().to_bits() >> 16) as i64`. -/
def ofDuration (d : Duration) : TimeInterval := ⟨⟨BitVec.ofInt 64 (d.toInt / 2 ^ 16)⟩⟩

end TimeInterval

namespace Interval

def asDuration (p : Profile) (i : Interval) : Except Panic Duration := Duration.fromInterval p i

/-- `2^log` as an exact number. -/
def seconds (i : Interval) : Rat :=
  if 0 ≤ i.log2.toInt then ((2 ^ i.log2.toInt.toNat : Nat) : Rat)
  else mkRat 1 (2 ^ (-i.log2.toInt).toNat)

/-- `Duration::from_secs_f64` refuses what does not fit 64 bits of seconds. -/
def asCoreDuration (i : Interval) : Except Panic CoreDuration :=
  if i.log2.toInt < 64 then .ok i.seconds else .error .range

end Interval

/-- `core::time::Duration::mul_f64`. -/
def CoreDuration.mulF64 (d : CoreDuration) (factor : Rat) : Except Panic CoreDuration :=
  if d * factor < ((2 ^ 64 : Nat) : Rat) then .ok (d * factor) else .error .range

/-! ### Instants -/

namespace Time

/-- In units of `2^-32` nanoseconds. -/
def toInt (t : Time) : Int := t.inner.toInt

/-- The nanoseconds below a second. -/
def subsecNanos (p : Profile) (t : Time) : Except Panic UInt32 := do
  let giga ← UFixed.toFixed p 1000000000
  let r ← t.inner.rem giga
  let n ← r.toNum p 32
  return UInt32.ofBitVec n

/-- The whole seconds. -/
def secs (p : Profile) (t : Time) : Except Panic UInt64 := do
  let giga ← UFixed.toFixed p 1000000000
  let q ← t.inner.div p giga
  let n ← q.toNum p 64
  return UInt64.ofBitVec n

/-- The part below a nanosecond; always less than one, so the conversion to
`I48F16` cannot fail. -/
def subnano (t : Time) : TimeInterval := ⟨⟨BitVec.ofInt 64 (t.inner.frac.toInt / 2 ^ 16)⟩⟩

/-- `Time::from(WireTimestamp)`. -/
def ofWireTimestamp (ts : WireTimestamp) : Time :=
  ⟨⟨BitVec.ofInt 128 ((ts.seconds.toNat * 1000000000 + ts.nanos.toNat) * 2 ^ 32)⟩⟩

/-- `self + rhs`. -/
def add (p : Profile) (t : Time) (d : Duration) : Except Panic Time :=
  if d.toInt < 0 then do
    let r ← t.inner.sub p d.inner.unsignedAbs
    return ⟨r⟩
  else do
    let r ← t.inner.add p d.inner.unsignedAbs
    return ⟨r⟩

/-- `self - rhs` for a duration. -/
def sub (p : Profile) (t : Time) (d : Duration) : Except Panic Time := do
  let n ← d.neg p
  t.add p n

/-- `self - rhs` for two instants. -/
def diff (p : Profile) (a b : Time) : Except Panic Duration := do
  let x : I96F32 ← IFixed.wrap p a.toInt
  let y : I96F32 ← IFixed.wrap p b.toInt
  Duration.sub p ⟨x⟩ ⟨y⟩

end Time

/-- `WireTimestamp::from(Time)`. -/
def WireTimestamp.ofTime (p : Profile) (t : Time) : Except Panic WireTimestamp := do
  let seconds ← t.secs p
  let nanos ← t.subsecNanos p
  return { seconds, nanos }

/-! ### What the operations compute -/

theorem Duration.ext_toInt {a b : Duration} (h : a.toInt = b.toInt) : a = b := by
  cases a
  cases b
  simp only [Duration.mk.injEq]
  exact IFixed.ext_toInt h

theorem TimeInterval.toInt_range (i : TimeInterval) : -2 ^ 63 ≤ i.toInt ∧ i.toInt < 2 ^ 63 := by
  simpa [IFixed.fits, TimeInterval.toInt] using IFixed.fits_toInt (w := 64) (by decide) i.inner

theorem Duration.toInt_range (d : Duration) : -2 ^ 127 ≤ d.toInt ∧ d.toInt < 2 ^ 127 := by
  simpa [IFixed.fits, Duration.toInt] using IFixed.fits_toInt (w := 128) (by decide) d.inner

theorem Time.toInt_range (t : Time) : 0 ≤ t.toInt ∧ t.toInt < 2 ^ 128 :=
  ⟨t.inner.toInt_nonneg, t.inner.toInt_lt⟩

@[simp] theorem Duration.toInt_ofTimeInterval (i : TimeInterval) :
    (Duration.ofTimeInterval i).toInt = i.toInt * 2 ^ 16 := by
  have h := i.toInt_range
  apply IFixed.toInt_ofInt (by decide)
  simp only [IFixed.fits, TimeInterval.toInt] at h ⊢
  simp only [decide_eq_true_eq]
  omega

@[simp] theorem Duration.toInt_zero : Duration.zero.toInt = 0 := by decide

/-- A sum in range is exact. -/
theorem Duration.add_spec (p : Profile) {a b : Duration} (hlo : -2 ^ 127 ≤ a.toInt + b.toInt)
    (hhi : a.toInt + b.toInt < 2 ^ 127) :
    ∃ r, a.add p b = .ok r ∧ r.toInt = a.toInt + b.toInt := by
  have hfits : IFixed.fits 128 (a.toInt + b.toInt) = true := decide_eq_true ⟨hlo, hhi⟩
  refine ⟨⟨⟨BitVec.ofInt 128 (a.toInt + b.toInt)⟩⟩, ?_, IFixed.toInt_ofInt (by decide) hfits⟩
  rw [Duration.add, IFixed.add]
  exact congrArg (· >>= fun r => .ok (⟨r⟩ : Duration)) (IFixed.wrap_of_fits p hfits)

/-- So is a product with an integer. -/
theorem Duration.mul_spec (p : Profile) {d : Duration} {n : Int} (hn : |n| < 2 ^ 95)
    (hlo : -2 ^ 127 ≤ d.toInt * n) (hhi : d.toInt * n < 2 ^ 127) :
    ∃ r, d.mul p n = .ok r ∧ r.toInt = d.toInt * n := by
  have habs := abs_lt.mp hn
  have hfactor : IFixed.fits 128 (n * 2 ^ 32) = true :=
    decide_eq_true ⟨by norm_num; omega, by norm_num; omega⟩
  have hfits : IFixed.fits 128 (d.toInt * n) = true := decide_eq_true ⟨hlo, hhi⟩
  have hprod : d.toInt * (n * 2 ^ 32) / 2 ^ 32 = d.toInt * n := by
    rw [← mul_assoc]
    exact Int.mul_ediv_cancel _ (by decide)
  refine ⟨⟨⟨BitVec.ofInt 128 (d.toInt * n)⟩⟩, ?_, IFixed.toInt_ofInt (by decide) hfits⟩
  rw [Duration.mul, IFixed.toFixed, IFixed.wrap_of_fits p hfactor, ok_bind, IFixed.mul,
    IFixed.toInt_ofInt (by decide) hfactor]
  have hint : d.inner.toInt * (n * 2 ^ 32) / 2 ^ 32 = d.toInt * n := hprod
  rw [hint, IFixed.wrap_of_fits p hfits]
  rfl

/-! ### Instants on the wire -/

@[simp] theorem TimeInterval.toInt_subnano (t : Time) :
    t.subnano.toInt = t.toInt % 2 ^ 32 / 2 ^ 16 := by
  have hfrac : t.inner.frac.toInt = t.toInt % 2 ^ 32 := by
    apply UFixed.toInt_ofInt
    simp only [UFixed.fits, decide_eq_true_eq]
    omega
  rw [Time.subnano, hfrac]
  apply IFixed.toInt_ofInt (by decide)
  simp only [IFixed.fits, decide_eq_true_eq]
  omega

/-- Seconds and nanoseconds always fit. -/
@[simp] theorem Time.toInt_ofWireTimestamp (ts : WireTimestamp) :
    (Time.ofWireTimestamp ts).toInt =
      (ts.seconds.toNat * 1000000000 + ts.nanos.toNat) * 2 ^ 32 := by
  have hs := ts.seconds.toNat_lt
  have hn := ts.nanos.toNat_lt
  apply UFixed.toInt_ofInt
  simp only [UFixed.fits, decide_eq_true_eq]
  omega

/-- `10^9` as a fixed-point number. -/
theorem toFixed_giga (p : Profile) : ∃ giga : U96F32,
    (UFixed.toFixed p 1000000000 : Except Panic U96F32) = .ok giga ∧
      giga.toInt = 1000000000 * 2 ^ 32 := by
  have hfits : UFixed.fits 128 (1000000000 * 2 ^ 32) = true := by decide
  exact ⟨_, UFixed.wrap_of_fits p hfits, UFixed.toInt_ofInt hfits⟩

/-- The seconds below `2 ^ 48` that a timestamp has room for. -/
def Time.InWireRange (t : Time) : Prop := t.toInt < 2 ^ 48 * 1000000000 * 2 ^ 32

theorem Time.secs_spec (p : Profile) {t : Time} (h : t.InWireRange) :
    ∃ n, t.secs p = .ok n ∧ (n.toNat : Int) = t.toInt / 2 ^ 32 / 1000000000 := by
  obtain ⟨giga, hgiga, hint⟩ := toFixed_giga p
  have hnonneg := t.toInt_range.1
  have hquot : t.toInt * 2 ^ 32 / (1000000000 * 2 ^ 32) = t.toInt / 1000000000 :=
    Int.mul_ediv_mul_of_pos_left _ _ (by decide)
  unfold Time.InWireRange at h
  have hfits : UFixed.fits 128 (t.toInt / 1000000000) = true := decide_eq_true (by omega)
  have hfits' : UFixed.fits 64 (t.toInt / 1000000000 / 2 ^ 32) = true := decide_eq_true (by omega)
  have hdiv : t.inner.div p giga = .ok ⟨BitVec.ofInt 128 (t.toInt / 1000000000)⟩ := by
    rw [UFixed.div, hint, if_neg (by decide)]
    have : t.inner.toInt * 2 ^ 32 / (1000000000 * 2 ^ 32) = t.toInt / 1000000000 := hquot
    rw [this, UFixed.wrap_of_fits p hfits]
  refine ⟨UInt64.ofBitVec (BitVec.ofInt 64 (t.toInt / 1000000000 / 2 ^ 32)), ?_, ?_⟩
  · rw [Time.secs, hgiga, ok_bind, hdiv, ok_bind, UFixed.toNum, UFixed.toInt_ofInt hfits, hfits',
      Bool.not_true, overflow_false, ok_bind, pure_eq_ok]
  · have := UFixed.toInt_ofInt (f := 0) hfits'
    rw [UFixed.toInt] at this
    rw [show (UInt64.ofBitVec (BitVec.ofInt 64 (t.toInt / 1000000000 / 2 ^ 32))).toNat =
      (BitVec.ofInt 64 (t.toInt / 1000000000 / 2 ^ 32)).toNat from rfl, this]
    omega

theorem Time.subsecNanos_spec (p : Profile) (t : Time) :
    ∃ n, t.subsecNanos p = .ok n ∧ (n.toNat : Int) = t.toInt / 2 ^ 32 % 1000000000 := by
  obtain ⟨giga, hgiga, hint⟩ := toFixed_giga p
  have hnonneg := t.toInt_range.1
  have hfits : UFixed.fits 128 (t.toInt % (1000000000 * 2 ^ 32)) = true := decide_eq_true (by omega)
  have hfits' : UFixed.fits 32 (t.toInt % (1000000000 * 2 ^ 32) / 2 ^ 32) = true :=
    decide_eq_true (by omega)
  have hrem : t.inner.rem giga = .ok ⟨BitVec.ofInt 128 (t.toInt % (1000000000 * 2 ^ 32))⟩ := by
    rw [UFixed.rem, hint, if_neg (by decide)]
    rfl
  refine ⟨UInt32.ofBitVec (BitVec.ofInt 32 (t.toInt % (1000000000 * 2 ^ 32) / 2 ^ 32)), ?_, ?_⟩
  · rw [Time.subsecNanos, hgiga, ok_bind, hrem, ok_bind, UFixed.toNum, UFixed.toInt_ofInt hfits,
      hfits', Bool.not_true, overflow_false, ok_bind, pure_eq_ok]
  · have := UFixed.toInt_ofInt (f := 0) hfits'
    rw [UFixed.toInt] at this
    rw [show (UInt32.ofBitVec (BitVec.ofInt 32 (t.toInt % (1000000000 * 2 ^ 32) / 2 ^ 32))).toNat =
      (BitVec.ofInt 32 (t.toInt % (1000000000 * 2 ^ 32) / 2 ^ 32)).toNat from rfl, this]
    omega

/-- **A timestamp loses the part below a nanosecond**, and nothing else. -/
theorem WireTimestamp.ofTime_spec (p : Profile) {t : Time} (h : t.InWireRange) :
    ∃ ts, WireTimestamp.ofTime p t = .ok ts ∧ ts.seconds.toNat < 2 ^ 48 ∧
      (Time.ofWireTimestamp ts).toInt = t.toInt / 2 ^ 32 * 2 ^ 32 := by
  obtain ⟨seconds, hseconds, hs⟩ := Time.secs_spec p h
  obtain ⟨nanos, hnanos, hn⟩ := Time.subsecNanos_spec p t
  unfold Time.InWireRange at h
  refine ⟨⟨seconds, nanos⟩, ?_, ?_, ?_⟩
  · rw [WireTimestamp.ofTime, hseconds, ok_bind, hnanos, ok_bind, pure_eq_ok]
  · dsimp only
    omega
  · rw [Time.toInt_ofWireTimestamp]
    dsimp only
    rw [hs, hn]
    omega

/-- The size of a duration always fits. -/
theorem toInt_unsignedAbs (a : I96F32) : a.unsignedAbs.toInt = |a.toInt| := by
  have hrange : -2 ^ 127 ≤ a.toInt ∧ a.toInt < 2 ^ 127 := Duration.toInt_range ⟨a⟩
  apply UFixed.toInt_ofInt
  simp only [UFixed.fits, decide_eq_true_eq]
  exact ⟨abs_nonneg _, by rw [abs_lt]; omega⟩

/-- **A time plus a duration** is stored exactly, or it is out of range. -/
theorem Time.add_eq (p : Profile) (t : Time) (d : Duration) :
    t.add p d = do
      let r ← UFixed.wrap p (t.toInt + d.toInt)
      return ⟨r⟩ := by
  rw [Time.add]
  split
  · rename_i hneg
    rw [UFixed.sub, toInt_unsignedAbs]
    change (UFixed.wrap p (t.toInt - |d.toInt|) >>= _) = _
    rw [abs_of_neg hneg, sub_neg_eq_add]
  · rename_i hnonneg
    rw [UFixed.add, toInt_unsignedAbs]
    change (UFixed.wrap p (t.toInt + |d.toInt|) >>= _) = _
    rw [abs_of_nonneg (not_lt.mp hnonneg)]

/-- A sum in range is exact. -/
theorem Time.add_spec (p : Profile) {t : Time} {d : Duration} (hlo : 0 ≤ t.toInt + d.toInt)
    (hhi : t.toInt + d.toInt < 2 ^ 128) :
    ∃ r, t.add p d = .ok r ∧ r.toInt = t.toInt + d.toInt := by
  have hfits : UFixed.fits 128 (t.toInt + d.toInt) = true := decide_eq_true ⟨hlo, hhi⟩
  refine ⟨⟨⟨BitVec.ofInt 128 (t.toInt + d.toInt)⟩⟩, ?_, UFixed.toInt_ofInt hfits⟩
  rw [Time.add_eq, UFixed.wrap_of_fits p hfits]
  rfl

/-- **A time minus a duration** is stored exactly, or it is out of range. -/
theorem Time.sub_eq (p : Profile) (t : Time) {d : Duration} (hd : -2 ^ 127 < d.toInt) :
    t.sub p d = do
      let r ← UFixed.wrap p (t.toInt - d.toInt)
      return ⟨r⟩ := by
  have hrange := d.toInt_range
  have hneg : IFixed.fits 128 (-d.toInt) = true := decide_eq_true ⟨by omega, by omega⟩
  have hint : (⟨⟨BitVec.ofInt 128 (-d.toInt)⟩⟩ : Duration).toInt = -d.toInt :=
    IFixed.toInt_ofInt (by decide) hneg
  have hnegate : d.neg p = .ok ⟨⟨BitVec.ofInt 128 (-d.toInt)⟩⟩ := by
    rw [Duration.neg, IFixed.neg]
    exact congrArg (· >>= fun r => .ok (⟨r⟩ : Duration)) (IFixed.wrap_of_fits p hneg)
  have habs : (⟨BitVec.ofInt 128 (-d.toInt)⟩ : I96F32).unsignedAbs.toInt = |-d.toInt| := by
    rw [toInt_unsignedAbs]
    exact congrArg _ hint
  rw [Time.sub, hnegate, ok_bind, Time.add, hint]
  split
  · rename_i hlt
    rw [UFixed.sub, habs, abs_of_neg hlt]
    congr 2
    change t.toInt - - - d.toInt = _
    omega
  · rename_i hge
    rw [UFixed.add, habs, abs_of_nonneg (by omega)]
    rfl

theorem Time.ext_toInt {a b : Time} (h : a.toInt = b.toInt) : a = b := by
  cases a
  cases b
  simp only [Time.mk.injEq]
  exact UFixed.ext_toInt h

/-- Nothing is added. -/
theorem Time.add_zero (p : Profile) (t : Time) {d : Duration} (hd : d.toInt = 0) :
    t.add p d = .ok t := by
  have hrange := t.toInt_range
  obtain ⟨r, hr, hint⟩ := Time.add_spec p (t := t) (d := d) (by omega) (by omega)
  obtain rfl : r = t := Time.ext_toInt (by omega)
  exact hr

/-- Nothing is taken off. -/
theorem Time.sub_zero (p : Profile) (t : Time) {d : Duration} (hd : d.toInt = 0) :
    t.sub p d = .ok t := by
  have hrange := t.toInt_range
  have hfits : UFixed.fits 128 t.toInt = true := decide_eq_true hrange
  rw [Time.sub_eq p t (by omega), hd, Int.sub_zero, UFixed.wrap_of_fits p hfits, ok_bind, pure_eq_ok]
  exact congrArg Except.ok (Time.ext_toInt (UFixed.toInt_ofInt hfits))

/-! ### Modulo `2 ^ 128`

Only a debug build refuses a result; a release build stores it modulo `2 ^ 128`. -/

theorem Duration.dvd_sub {p : Profile} {a b r : Duration} (h : a.sub p b = .ok r) :
    2 ^ 128 ∣ r.toInt - (a.toInt - b.toInt) := by
  obtain ⟨n, hn, h⟩ := bind_eq_ok.mp h
  obtain ⟨v, hv, hn⟩ := bind_eq_ok.mp hn
  obtain rfl := Except.ok.inj hn
  obtain ⟨u, hu, h⟩ := bind_eq_ok.mp h
  obtain rfl := Except.ok.inj h
  have hneg : (2 : Int) ^ 128 ∣ v.toInt - -b.toInt := IFixed.dvd_wrap hv
  have hadd : (2 : Int) ^ 128 ∣ u.toInt - (a.toInt + v.toInt) := IFixed.dvd_wrap hu
  change 2 ^ 128 ∣ u.toInt - (a.toInt - b.toInt)
  omega

theorem Duration.sub_ok (p : Profile) {a b : Duration} (h : p = .debug → -2 ^ 127 < b.toInt ∧
    -2 ^ 127 ≤ a.toInt - b.toInt ∧ a.toInt - b.toInt < 2 ^ 127) : ∃ r, a.sub p b = .ok r := by
  have hneg : p = .debug → IFixed.fits 128 (-b.inner.toInt) = true := by
    intro hp
    have hb := b.toInt_range
    have h := h hp
    change decide (-2 ^ 127 ≤ -b.toInt ∧ -b.toInt < 2 ^ 127) = true
    exact decide_eq_true ⟨by omega, by omega⟩
  have hadd : p = .debug → IFixed.fits 128 (a.inner.toInt +
      (⟨BitVec.ofInt 128 (-b.inner.toInt)⟩ : I96F32).toInt) = true := by
    intro hp
    have h := h hp
    rw [IFixed.toInt_ofInt (by decide) (hneg hp)]
    exact decide_eq_true ⟨by rw [← sub_eq_add_neg]; exact h.2.1, by
      rw [← sub_eq_add_neg]; exact h.2.2⟩
  rw [Duration.sub, Duration.neg, IFixed.neg, IFixed.wrap_ok p hneg, ok_bind, pure_eq_ok, ok_bind,
    Duration.add, IFixed.add, IFixed.wrap_ok p hadd]
  exact ⟨_, rfl⟩

theorem Time.dvd_diff {p : Profile} {a b : Time} {r : Duration} (h : a.diff p b = .ok r) :
    2 ^ 128 ∣ r.toInt - (a.toInt - b.toInt) := by
  obtain ⟨x, hx, h⟩ := bind_eq_ok.mp h
  obtain ⟨y, hy, h⟩ := bind_eq_ok.mp h
  have hx : (2 : Int) ^ 128 ∣ x.toInt - a.toInt := IFixed.dvd_wrap hx
  have hy : (2 : Int) ^ 128 ∣ y.toInt - b.toInt := IFixed.dvd_wrap hy
  have hsub : 2 ^ 128 ∣ r.toInt - (x.toInt - y.toInt) := Duration.dvd_sub h
  omega

theorem Time.diff_ok (p : Profile) {a b : Time}
    (h : p = .debug → a.toInt < 2 ^ 127 ∧ b.toInt < 2 ^ 127) : ∃ r, a.diff p b = .ok r := by
  have ha := a.toInt_range
  have hb := b.toInt_range
  have hx : p = .debug → IFixed.fits 128 a.toInt = true := fun hp =>
    decide_eq_true ⟨by omega, (h hp).1⟩
  have hy : p = .debug → IFixed.fits 128 b.toInt = true := fun hp =>
    decide_eq_true ⟨by omega, (h hp).2⟩
  rw [Time.diff, IFixed.wrap_ok p hx, ok_bind, IFixed.wrap_ok p hy, ok_bind]
  refine Duration.sub_ok p fun hp => ?_
  have hxint := IFixed.toInt_ofInt (f := 32) (by decide) (hx hp)
  have hyint := IFixed.toInt_ofInt (f := 32) (by decide) (hy hp)
  have h := h hp
  rw [Duration.toInt, Duration.toInt, hxint, hyint]
  omega

/-- Half of a duration, rounded towards zero, always fits. -/
theorem Duration.div_two (p : Profile) (d : Duration) :
    ∃ r, d.div p 2 = .ok r ∧ r.toInt = d.toInt.tdiv 2 := by
  have hfits : IFixed.fits 128 (2 * 2 ^ 32) = true := by decide
  have htwo : (⟨BitVec.ofInt 128 (2 * 2 ^ 32)⟩ : I96F32).toInt = 2 * 2 ^ 32 :=
    IFixed.toInt_ofInt (by decide) hfits
  have hquot : (d.inner.toInt * 2 ^ 32).tdiv (2 * 2 ^ 32) = d.toInt.tdiv 2 :=
    Int.mul_tdiv_mul_of_pos_left _ _ (by decide)
  have hd := d.toInt_range
  have hsplit := Int.mul_tdiv_add_tmod d.toInt 2
  have hlt := Int.tmod_lt_of_pos d.toInt (by decide : (0 : Int) < 2)
  have hgt := Int.lt_tmod_of_pos d.toInt (by decide : (0 : Int) < 2)
  have hhalf : IFixed.fits 128 (d.toInt.tdiv 2) = true := decide_eq_true ⟨by omega, by omega⟩
  rw [Duration.div, IFixed.toFixed, IFixed.wrap_of_fits p hfits, ok_bind, IFixed.div, htwo,
    if_neg (by decide), hquot, IFixed.wrap_of_fits p hhalf]
  exact ⟨_, rfl, IFixed.toInt_ofInt (by decide) hhalf⟩

/-! ### In a debug build -/

section Debug

theorem Time.diff_debug_lt {a b : Time} {r : Duration} (h : a.diff .debug b = .ok r) :
    a.toInt < 2 ^ 127 ∧ b.toInt < 2 ^ 127 := by
  obtain ⟨x, hx, h⟩ := bind_eq_ok.mp h
  obtain ⟨y, hy, h⟩ := bind_eq_ok.mp h
  exact ⟨(of_decide_eq_true (IFixed.fits_of_wrap_debug hx)).2,
    (of_decide_eq_true (IFixed.fits_of_wrap_debug hy)).2⟩

theorem Duration.neg_debug {d r : Duration} (h : d.neg .debug = .ok r) : r.toInt = -d.toInt := by
  obtain ⟨v, hv, h⟩ := bind_eq_ok.mp h
  obtain rfl := Except.ok.inj h
  exact IFixed.toInt_wrap_debug (by decide) hv

theorem Duration.add_debug {a b r : Duration} (h : a.add .debug b = .ok r) :
    r.toInt = a.toInt + b.toInt := by
  obtain ⟨v, hv, h⟩ := bind_eq_ok.mp h
  obtain rfl := Except.ok.inj h
  exact IFixed.toInt_wrap_debug (by decide) hv

theorem Duration.sub_debug {a b r : Duration} (h : a.sub .debug b = .ok r) :
    r.toInt = a.toInt - b.toInt := by
  obtain ⟨n, hn, h⟩ := bind_eq_ok.mp h
  rw [Duration.add_debug h, Duration.neg_debug hn, Int.sub_eq_add_neg]

/-- A quotient is rounded towards zero. -/
theorem Duration.div_debug {d r : Duration} {n : Int} (h : d.div .debug n = .ok r) :
    r.toInt = d.toInt.tdiv n := by
  obtain ⟨m, hm, h⟩ := bind_eq_ok.mp h
  obtain ⟨v, hv, h⟩ := bind_eq_ok.mp h
  obtain rfl := Except.ok.inj h
  have hm : m.toInt = n * 2 ^ 32 := IFixed.toInt_wrap_debug (by decide) hm
  rw [IFixed.div] at hv
  split at hv
  · cases hv
  · have hv := IFixed.toInt_wrap_debug (by decide) hv
    rw [hm, Int.mul_tdiv_mul_of_pos_left _ _ (by decide)] at hv
    exact hv

theorem Time.add_debug {t r : Time} {d : Duration} (h : t.add .debug d = .ok r) :
    r.toInt = t.toInt + d.toInt := by
  unfold Time.add at h
  split at h
  · rename_i hneg
    obtain ⟨v, hv, h⟩ := bind_eq_ok.mp h
    obtain rfl := Except.ok.inj h
    have hv : v.toInt = t.toInt - |d.toInt| := by
      rw [UFixed.toInt_wrap_debug hv, toInt_unsignedAbs]
      rfl
    change v.toInt = _
    rw [hv, abs_of_neg hneg]
    omega
  · rename_i hnonneg
    obtain ⟨v, hv, h⟩ := bind_eq_ok.mp h
    obtain rfl := Except.ok.inj h
    have hv : v.toInt = t.toInt + |d.toInt| := by
      rw [UFixed.toInt_wrap_debug hv, toInt_unsignedAbs]
      rfl
    change v.toInt = _
    rw [hv, abs_of_nonneg (not_lt.mp hnonneg)]

theorem Time.sub_debug {t r : Time} {d : Duration} (h : t.sub .debug d = .ok r) :
    r.toInt = t.toInt - d.toInt := by
  obtain ⟨n, hn, h⟩ := bind_eq_ok.mp h
  rw [Time.add_debug h, Duration.neg_debug hn, Int.sub_eq_add_neg]

theorem Time.diff_debug {a b : Time} {r : Duration} (h : a.diff .debug b = .ok r) :
    r.toInt = a.toInt - b.toInt := by
  obtain ⟨x, hx, h⟩ := bind_eq_ok.mp h
  obtain ⟨y, hy, h⟩ := bind_eq_ok.mp h
  rw [Duration.sub_debug h, Duration.toInt, Duration.toInt, IFixed.toInt_wrap_debug (by decide) hx,
    IFixed.toInt_wrap_debug (by decide) hy]

/-- A sum is exact, unless it does not fit and the build does not check. -/
theorem Time.toInt_add {p : Profile} {t r : Time} {d : Duration} (h : t.add p d = .ok r)
    (hfits : p = .release → 0 ≤ t.toInt + d.toInt ∧ t.toInt + d.toInt < 2 ^ 128) :
    r.toInt = t.toInt + d.toInt := by
  cases p with
  | debug => exact Time.add_debug h
  | release =>
    obtain ⟨r', hr', hint⟩ := Time.add_spec .release (hfits rfl).1 (hfits rfl).2
    rw [← hint, Except.ok.inj (h.symm.trans hr')]

/-- What has elapsed since an earlier instant, unless it is too long for a build without overflow
checks. -/
theorem Time.toInt_diff {p : Profile} {a b : Time} {r : Duration} (h : a.diff p b = .ok r)
    (hle : b.toInt ≤ a.toInt) (hlt : p = .release → a.toInt - b.toInt < 2 ^ 127) :
    r.toInt = a.toInt - b.toInt := by
  cases p with
  | debug => exact Time.diff_debug h
  | release =>
    have hdvd := Time.dvd_diff h
    have hrange := r.toInt_range
    have hlt := hlt rfl
    omega

theorem Duration.neg_sameInDebug (d : Duration) : SameInDebug fun p => d.neg p :=
  (IFixed.wrap_sameInDebug _).bind fun _ => sameInDebug_const _

theorem Duration.add_sameInDebug (a b : Duration) : SameInDebug fun p => a.add p b :=
  (IFixed.wrap_sameInDebug _).bind fun _ => sameInDebug_const _

theorem Duration.sub_sameInDebug (a b : Duration) : SameInDebug fun p => a.sub p b :=
  (Duration.neg_sameInDebug b).bind fun n => Duration.add_sameInDebug a n

theorem Duration.div_sameInDebug (d : Duration) (n : Int) : SameInDebug fun p => d.div p n := by
  refine (IFixed.wrap_sameInDebug _).bind fun m => SameInDebug.bind ?_ fun _ => sameInDebug_const _
  unfold IFixed.div
  split
  · exact sameInDebug_const _
  · exact IFixed.wrap_sameInDebug _

theorem Time.add_sameInDebug (t : Time) (d : Duration) : SameInDebug fun p => t.add p d := by
  unfold Time.add
  split
  · exact (UFixed.wrap_sameInDebug _).bind fun _ => sameInDebug_const _
  · exact (UFixed.wrap_sameInDebug _).bind fun _ => sameInDebug_const _

theorem Time.sub_sameInDebug (t : Time) (d : Duration) : SameInDebug fun p => t.sub p d :=
  (Duration.neg_sameInDebug d).bind fun n => Time.add_sameInDebug t n

theorem Time.diff_sameInDebug (a b : Time) : SameInDebug fun p => a.diff p b :=
  (IFixed.wrap_sameInDebug _).bind fun x => (IFixed.wrap_sameInDebug _).bind fun y =>
    Duration.sub_sameInDebug ⟨x⟩ ⟨y⟩

end Debug

/-! ### What can go wrong -/

section Overflows

variable (p : Profile)

theorem Duration.neg_onlyOverflows (d : Duration) : OnlyOverflows p (d.neg p) :=
  (IFixed.wrap_onlyOverflows p _).bind fun _ _ => onlyOverflows_ok p _

theorem Duration.add_onlyOverflows (a b : Duration) : OnlyOverflows p (a.add p b) :=
  (IFixed.wrap_onlyOverflows p _).bind fun _ _ => onlyOverflows_ok p _

theorem Duration.sub_onlyOverflows (a b : Duration) : OnlyOverflows p (a.sub p b) :=
  (Duration.neg_onlyOverflows p b).bind fun _ _ => Duration.add_onlyOverflows p a _

theorem Duration.fromSecondsLog_onlyOverflows (log : Int8) :
    OnlyOverflows p (Duration.fromSecondsLog p log) :=
  (IFixed.wrap_onlyOverflows p _).bind fun _ _ => (IFixed.wrap_onlyOverflows p _).bind fun _ _ =>
    (IFixed.wrap_onlyOverflows p _).bind fun _ _ => onlyOverflows_ok p _

theorem Duration.fromInterval_onlyOverflows (i : Interval) :
    OnlyOverflows p (Duration.fromInterval p i) :=
  (IFixed.wrap_onlyOverflows p _).bind fun _ _ => onlyOverflows_ok p _

/-- Half of a duration. -/
theorem Duration.div_two_onlyOverflows (d : Duration) : OnlyOverflows p (d.div p 2) := by
  obtain ⟨r, hr, -⟩ := Duration.div_two p d
  rw [hr]
  exact onlyOverflows_ok p r

theorem Time.add_onlyOverflows (t : Time) (d : Duration) : OnlyOverflows p (t.add p d) := by
  unfold Time.add
  split
  · exact (UFixed.wrap_onlyOverflows p _).bind fun _ _ => onlyOverflows_ok p _
  · exact (UFixed.wrap_onlyOverflows p _).bind fun _ _ => onlyOverflows_ok p _

theorem Time.sub_onlyOverflows (t : Time) (d : Duration) : OnlyOverflows p (t.sub p d) :=
  (Duration.neg_onlyOverflows p d).bind fun _ _ => Time.add_onlyOverflows p t _

theorem Time.diff_onlyOverflows (a b : Time) : OnlyOverflows p (a.diff p b) :=
  (IFixed.wrap_onlyOverflows p _).bind fun _ _ => (IFixed.wrap_onlyOverflows p _).bind fun _ _ =>
    Duration.sub_onlyOverflows p _ _

end Overflows

end Statime
