import Statime.Filters.Matrix
import Statime.Port.Basic

/-!
# The Kalman filter

`statime/src/filters/kalman.rs`: the filter that steers the clock of a port.  It keeps two estimates:
the running one, and one that is only compared with the measurements, to tune the assumed wander of the
clock.  Each has a filter time, up to which it has been progressed.

Overflow checks and debug assertions are switched on separately here (`Build`).  What is only logged is
left out.  The statistics of the measurements and the equations of an estimate are written for any
numbers with the operations they use; the filter runs them with `f64`.
-/

namespace Statime

open Rust

/-- The two halves of a profile. -/
structure Build where
  overflowChecks : Profile
  debugAssertions : Profile

/-! ### Durations and seconds -/

section Numbers

variable {α : Type}

namespace Duration

/-- `Duration::from_seconds`. -/
def fromSeconds [Floating α] (p : Profile) (secs : α) : Except Panic Duration := do
  let fixed : I96F32 ← IFixed.ofF64 p (Floating.value secs)
  let giga ← IFixed.toFixed p 1000000000
  let r ← fixed.mul p giga
  return ⟨r⟩

/-- `Duration::from_millis`. -/
def fromMillis (p : Profile) (millis : Int) : Except Panic Duration := do
  let fixed : I96F32 ← IFixed.toFixed p millis
  let mega ← IFixed.toFixed p 1000000
  let r ← fixed.mul p mega
  return ⟨r⟩

def seconds [Div α] [OfScientific α] [Floating α] (d : Duration) : α :=
  Floating.ofFixed d.inner / 1e9

def abs (p : Profile) (d : Duration) : Except Panic Duration := do
  let r ← IFixed.wrap p |d.toInt|
  return ⟨r⟩

end Duration

/-- `Duration::from_secs_f64` refuses what is negative or does not fit 64 bits of seconds. -/
def CoreDuration.fromSecsF64 (secs : Float) : Except Panic CoreDuration :=
  match F64.value secs with
  | some d => if 0 ≤ d ∧ d < ((2 ^ 64 : Nat) : Rat) then .ok d else .error .range
  | none => .error .range

/-! ### The configuration -/

structure KalmanConfiguration (α : Type) where
  stepThreshold : Duration
  deadzone : α
  steerTime : Duration
  maxSteer : α
  maxFreqOffset : α
  initialFrequencyUncertainty : α
  initialWander : α
  delayWander : α
  precisionLowProbability : α
  precisionHighProbability : α
  precisionHysteresis : UInt8
  estimateThreshold : Duration
  differenceEstimationBoundary : Nat
  statisticalEstimationBoundary : Nat
  peerDelayFactor : α

/-- `KalmanConfiguration::default`. -/
def KalmanConfiguration.default [Div α] [OfScientific α] [Floating α] (p : Profile) :
    Except Panic (KalmanConfiguration α) := do
  let stepThreshold ← Duration.fromSeconds p (1e-3 : α)
  let steerTime ← Duration.fromSeconds p (2.0 : α)
  let estimateThreshold ← Duration.fromMillis p 200
  return {
    stepThreshold
    deadzone := 0.0
    steerTime
    maxSteer := 200.0
    maxFreqOffset := 400.0
    initialFrequencyUncertainty := 100e-6
    initialWander := 1e-16
    delayWander := 1e-4 / 3600.0
    precisionLowProbability := 1.0 / 3.0
    precisionHighProbability := 2.0 / 3.0
    precisionHysteresis := 16
    estimateThreshold
    differenceEstimationBoundary := 4
    statisticalEstimationBoundary := 8
    peerDelayFactor := 2.0 }

/-- `chi_1`. -/
def chi1 (chi : Float) : Float :=
  let p := 0.3275911
  let a1 := 0.254829592
  let a2 := -0.284496736
  let a3 := 1.421413741
  let a4 := -1.453152027
  let a5 := 1.061405429
  let x := (chi / 2.0).sqrt
  let t := 1.0 / (1.0 + p * x)
  (a1 * t + a2 * t * t + a3 * t * t * t + a4 * t * t * t * t + a5 * t * t * t * t * t) *
    (-(x * x)).exp

def sqr [Mul α] (x : α) : α := x * x

/-! ### The error of the measurements -/

variable [Add α] [Sub α] [Mul α] [Div α] [Neg α] [OfScientific α] [LT α] [DecidableLT α] [Floating α]

structure MeasurementErrorEstimator (α : Type) where
  data : Vector α 32
  nextIdx : Fin 32
  fill : Nat
  lastSync : Option (Time × Duration)
  lastDelay : Option (Time × Duration)
  peerDelayDetected : Bool

namespace MeasurementErrorEstimator

def default : MeasurementErrorEstimator α where
  data := Vector.replicate 32 0.0
  nextIdx := 0
  fill := 0
  lastSync := none
  lastDelay := none
  peerDelayDetected := false

/-- `self.data.iter().take(self.fill)`. -/
def entries (self : MeasurementErrorEstimator α) : List α := self.data.toList.take self.fill

def mean (self : MeasurementErrorEstimator α) : α := sum self.entries / 32.0

def variance (self : MeasurementErrorEstimator α) : α :=
  sum (self.entries.map fun v => sqr (v - self.mean)) / 31.0

def rangeSize (self : MeasurementErrorEstimator α) : Except Panic α := spread self.entries

def insertEntry (self : MeasurementErrorEstimator α) (entry : α) : MeasurementErrorEstimator α :=
  { self with
    data := self.data.set self.nextIdx entry
    nextIdx := self.nextIdx + 1
    fill := min (self.fill + 1) 32 }

/-- The sync offset is combined with the last delay offset, which is gone then. -/
def absorbSync (p : Profile) (self : MeasurementErrorEstimator α) (eventTime : Time)
    (syncOffset : Duration) (estimatedFrequency : α) (config : KalmanConfiguration α) :
    Except Panic (MeasurementErrorEstimator α) :=
  match self.lastDelay with
  | some (time, delayOffset) => do
    let self := { self with lastDelay := none }
    let elapsed ← eventTime.diff p time
    let distance ← elapsed.abs p
    if distance.lt config.estimateThreshold then
      let before ← time.diff p eventTime
      return self.insertEntry
        (syncOffset.seconds - delayOffset.seconds + before.seconds * estimatedFrequency)
    else
      return { self with lastSync := some (eventTime, syncOffset) }
  | none => return { self with lastSync := some (eventTime, syncOffset) }

/-- The same with the roles changed. -/
def absorbDelay (p : Profile) (self : MeasurementErrorEstimator α) (eventTime : Time)
    (delayOffset : Duration) (estimatedFrequency : α) (config : KalmanConfiguration α) :
    Except Panic (MeasurementErrorEstimator α) :=
  match self.lastSync with
  | some (time, syncOffset) => do
    let self := { self with lastSync := none }
    let elapsed ← eventTime.diff p time
    let distance ← elapsed.abs p
    if distance.lt config.estimateThreshold then
      let since ← eventTime.diff p time
      return self.insertEntry
        (syncOffset.seconds - delayOffset.seconds + since.seconds * estimatedFrequency)
    else
      return { self with lastDelay := some (eventTime, delayOffset) }
  | none => return { self with lastDelay := some (eventTime, delayOffset) }

def absorbPeerDelay (self : MeasurementErrorEstimator α) (peerDelay : Duration) :
    MeasurementErrorEstimator α :=
  { self with lastDelay := none, lastSync := none, peerDelayDetected := true }.insertEntry
    peerDelay.seconds

def absorbMeasurement (p : Profile) (self : MeasurementErrorEstimator α) (m : Measurement)
    (estimatedFrequency : α) (config : KalmanConfiguration α) :
    Except Panic (MeasurementErrorEstimator α) := do
  let self ← (match m.rawSyncOffset with
    | some syncOffset => self.absorbSync p m.eventTime syncOffset estimatedFrequency config
    | none => .ok self)
  let self ← (match m.rawDelayOffset with
    | some delayOffset => self.absorbDelay p m.eventTime delayOffset estimatedFrequency config
    | none => .ok self)
  match m.peerDelay with
  | some peerDelay => return self.absorbPeerDelay peerDelay
  | none => return self

def measurementVariance (self : MeasurementErrorEstimator α) (config : KalmanConfiguration α) :
    Except Panic α :=
  if self.fill < config.differenceEstimationBoundary then
    .ok (sqr config.steerTime.seconds)
  else if self.fill < config.statisticalEstimationBoundary then do
    let rangeSize ← self.rangeSize
    return sqr rangeSize
  else
    .ok (self.variance / 2.0)

def peerDelay (self : MeasurementErrorEstimator α) : Bool := self.peerDelayDetected

end MeasurementErrorEstimator

/-! ### One estimate -/

/-- Offset, frequency offset and mean delay, at the filter time. -/
structure InnerFilter (α : Type) where
  state : ColumnVector 3 α
  uncertainty : Matrix 3 3 α
  filterTime : Time

namespace InnerFilter

def measurementSync : Matrix 1 3 α := ⟨#v[#v[1.0, 0.0, 1.0]]⟩
def measurementDelay : Matrix 1 3 α := ⟨#v[#v[1.0, 0.0, -1.0]]⟩
def measurementPeerDelay : Matrix 1 3 α := ⟨#v[#v[0.0, 0.0, 1.0]]⟩

def new (initialOffset : α) (time : Time) (config : KalmanConfiguration α) :
    InnerFilter α where
  state := Matrix.newVector #v[initialOffset, 0.0, 0.0]
  uncertainty := ⟨#v[
    #v[sqr config.stepThreshold.seconds, 0.0, 0.0],
    #v[0.0, sqr config.initialFrequencyUncertainty, 0.0],
    #v[0.0, 0.0, sqr config.stepThreshold.seconds]]⟩
  filterTime := time

/-- The state and the uncertainty after `deltaT` seconds. -/
def progressed (self : InnerFilter α) (time : Time) (deltaT wander : α)
    (config : KalmanConfiguration α) : InnerFilter α :=
  let update : Matrix 3 3 α := ⟨#v[#v[1.0, deltaT, 0.0], #v[0.0, 1.0, 0.0], #v[0.0, 0.0, 1.0]]⟩
  let processNoise : Matrix 3 3 α := ⟨#v[
    #v[wander * deltaT * deltaT * deltaT / 3.0, wander * deltaT * deltaT / 2.0, 0.0],
    #v[wander * deltaT * deltaT / 2.0, wander * deltaT, 0.0],
    #v[0.0, 0.0, config.delayWander * deltaT * sqr (self.state.ventry 2)]]⟩
  { state := update * self.state
    uncertainty := update * self.uncertainty * update.transpose + processNoise
    filterTime := time }

/-- A time before the filter time is ignored, but the assertion forbids it. -/
def progressFiltertime (b : Build) (self : InnerFilter α) (time : Time) (wander : α)
    (config : KalmanConfiguration α) : Except Panic (InnerFilter α) := do
  debugAssert b.debugAssertions (decide (self.filterTime.toInt ≤ time.toInt))
  if time.toInt < self.filterTime.toInt then
    return self
  else
    let elapsed ← time.diff b.overflowChecks self.filterTime
    return self.progressed time elapsed.seconds wander config

def predict {n : Nat} (self : InnerFilter α) (measurementTransform : Matrix n 3 α) :
    ColumnVector n α × Matrix n n α :=
  (measurementTransform * self.state,
    measurementTransform * self.uncertainty * measurementTransform.transpose)

def absorbMeasurement (self : InnerFilter α) (measurementVec : ColumnVector 1 α)
    (measurementTransform : Matrix 1 3 α) (measurementNoise : Matrix 1 1 α) : InnerFilter α :=
  let (prediction, uncertainty) := self.predict measurementTransform
  let difference := measurementVec - prediction
  let differenceCovariance := uncertainty + measurementNoise
  let updateStrength : Matrix 3 1 α :=
    self.uncertainty * measurementTransform.transpose * differenceCovariance.inverse
  { self with
    state := self.state + updateStrength * difference
    uncertainty :=
      ((Matrix.unit - updateStrength * measurementTransform) * self.uncertainty).symmetrize }

def absorbSyncOffset (self : InnerFilter α) (syncOffset variance : α) : InnerFilter α :=
  self.absorbMeasurement (Matrix.newVector #v[syncOffset]) measurementSync ⟨#v[#v[variance]]⟩

def absorbDelayOffset (self : InnerFilter α) (delayOffset variance : α) : InnerFilter α :=
  self.absorbMeasurement (Matrix.newVector #v[delayOffset]) measurementDelay ⟨#v[#v[variance]]⟩

def absorbPeerDelay (self : InnerFilter α) (peerDelay variance : α) : InnerFilter α :=
  self.absorbMeasurement (Matrix.newVector #v[peerDelay]) measurementPeerDelay ⟨#v[#v[variance]]⟩

def absorbFrequencySteer (b : Build) (self : InnerFilter α) (steer : α) (time : Time)
    (wander : α) (config : KalmanConfiguration α) : Except Panic (InnerFilter α) := do
  let self ← self.progressFiltertime b time wander config
  return { self with state := self.state + Matrix.newVector #v[0.0, steer * 1e-6, 0.0] }

def absorbOffsetSteer (p : Profile) (self : InnerFilter α) (steer : α) :
    Except Panic (InnerFilter α) := do
  let moved ← Duration.fromSeconds p steer
  let filterTime ← self.filterTime.add p moved
  return { self with state := self.state + Matrix.newVector #v[steer, 0.0, 0.0], filterTime }

def predictSyncOffset (self : InnerFilter α) : α × α :=
  let (prediction, uncertainty) := self.predict measurementSync
  (prediction.ventry ⟨0, Nat.one_pos⟩, uncertainty.ventry ⟨0, Nat.one_pos⟩)

def predictDelayOffset (self : InnerFilter α) : α × α :=
  let (prediction, uncertainty) := self.predict measurementDelay
  (prediction.ventry ⟨0, Nat.one_pos⟩, uncertainty.ventry ⟨0, Nat.one_pos⟩)

end InnerFilter

end Numbers

/-- An estimate, from the first time on. -/
structure BaseFilter where
  inner : Option (InnerFilter Float)

namespace BaseFilter

def new : BaseFilter := ⟨none⟩

def progressFiltertime (b : Build) (self : BaseFilter) (time : Time) (wander : Float)
    (config : KalmanConfiguration Float) : Except Panic BaseFilter :=
  match self.inner with
  | some inner => do
    let inner ← inner.progressFiltertime b time wander config
    return ⟨some inner⟩
  | none => return ⟨some (.new 0.0 time config)⟩

/-- A measurement that is too far from the state resets it. -/
def absorbOffset (self : BaseFilter) (offset : Float) (config : KalmanConfiguration Float)
    (absorb : InnerFilter Float → InnerFilter Float) : BaseFilter where
  inner := self.inner.map fun inner =>
    if config.stepThreshold.seconds < (offset - inner.state.ventry 0).abs then
      .new offset inner.filterTime config
    else
      absorb inner

def absorbSyncOffset (self : BaseFilter) (syncOffset variance : Float)
    (config : KalmanConfiguration Float) : BaseFilter :=
  self.absorbOffset syncOffset config fun inner => inner.absorbSyncOffset syncOffset variance

def absorbDelayOffset (self : BaseFilter) (delayOffset variance : Float)
    (config : KalmanConfiguration Float) : BaseFilter :=
  self.absorbOffset delayOffset config fun inner => inner.absorbDelayOffset delayOffset variance

def absorbPeerDelay (self : BaseFilter) (peerDelay variance : Float) : BaseFilter where
  inner := self.inner.map fun inner => inner.absorbPeerDelay peerDelay variance

def absorbFrequencySteer (b : Build) (self : BaseFilter) (steer : Float) (time : Time)
    (wander : Float) (config : KalmanConfiguration Float) : Except Panic BaseFilter :=
  match self.inner with
  | some inner => do
    let inner ← inner.absorbFrequencySteer b steer time wander config
    return ⟨some inner⟩
  | none => return ⟨some (.new 0.0 time config)⟩

def absorbOffsetSteer (p : Profile) (self : BaseFilter) (steer : Float) :
    Except Panic BaseFilter :=
  match self.inner with
  | some inner => do
    let inner ← inner.absorbOffsetSteer p steer
    return ⟨some inner⟩
  | none => return self

def offset (self : BaseFilter) : Float := (self.inner.map fun inner => inner.state.ventry 0).getD 0.0

def offsetUncertainty (self : BaseFilter) (config : KalmanConfiguration Float) : Float :=
  (self.inner.map fun inner => (inner.uncertainty.entry 0 0).sqrt).getD config.stepThreshold.seconds

def freqOffset (self : BaseFilter) : Float :=
  (self.inner.map fun inner => inner.state.ventry 1).getD 0.0

def meanDelay (self : BaseFilter) : Float :=
  (self.inner.map fun inner => inner.state.ventry 2).getD 0.0

def predictSyncOffset (self : BaseFilter) (config : KalmanConfiguration Float) : Float × Float :=
  (self.inner.map (·.predictSyncOffset)).getD (0.0, sqr config.stepThreshold.seconds)

def predictDelayOffset (self : BaseFilter) (config : KalmanConfiguration Float) : Float × Float :=
  (self.inner.map (·.predictDelayOffset)).getD (0.0, sqr config.stepThreshold.seconds)

def afterFilterTime (self : BaseFilter) (time : Time) : Bool :=
  match self.inner with
  | some inner => decide (inner.filterTime.toInt ≤ time.toInt)
  | none => true

end BaseFilter

def clampAdjustment (current error bound : Float) : Float :=
  if bound < current + error then bound - current
  else if current + error < -bound then -bound - current
  else error

/-! ### The filter -/

structure KalmanFilter where
  config : KalmanConfiguration Float
  runningFilter : BaseFilter
  wanderFilter : BaseFilter
  wanderScore : Int8
  wander : Float
  wanderMeasurementError : Float
  measurementErrorEstimator : MeasurementErrorEstimator Float
  curFrequency : Option Float

namespace KalmanFilter

def new (config : KalmanConfiguration Float) : Except Panic KalmanFilter := do
  let measurementErrorEstimator := MeasurementErrorEstimator.default
  let variance ← measurementErrorEstimator.measurementVariance config
  return {
    config
    runningFilter := .new
    wanderFilter := .new
    wanderScore := 0
    wander := config.initialWander
    wanderMeasurementError := variance.sqrt
    measurementErrorEstimator
    curFrequency := none }

/-- `i8::saturating_sub(1)` and `i8::saturating_add(1)`. -/
def scoreDown (score : Int8) : Int8 := if score = -128 then score else score - 1
def scoreUp (score : Int8) : Int8 := if score = 127 then score else score + 1

/-- `score - score.signum()`. -/
def scoreToZero (score : Int8) : Int8 :=
  if 0 < score then score - 1 else if score < 0 then score + 1 else score

/-- The estimate of the wander filter begins again at the running one. -/
def resetWanderFilter (self : KalmanFilter) : Except Panic KalmanFilter := do
  let variance ← self.measurementErrorEstimator.measurementVariance self.config
  return { self with wanderFilter := self.runningFilter, wanderMeasurementError := variance.sqrt }

def wanderScoreUpdate (self : KalmanFilter) (uncertainty prediction actual : Float) :
    Except Panic KalmanFilter := do
  let variance ← self.measurementErrorEstimator.measurementVariance self.config
  if 10.0 * variance.sqrt < self.wanderMeasurementError then
    self.resetWanderFilter
  else if 10.0 * self.wanderMeasurementError < uncertainty.sqrt then
    let p := 1.0 - chi1 (sqr (actual - prediction) / (uncertainty + sqr self.wanderMeasurementError))
    let wanderScore :=
      if p < self.config.precisionLowProbability then scoreDown self.wanderScore
      else if self.config.precisionHighProbability < p then scoreUp self.wanderScore
      else scoreToZero self.wanderScore
    { self with wanderScore }.resetWanderFilter
  else
    return self

/-- `-(self.config.precision_hysteresis as i8)`. -/
def negHysteresis (p : Profile) (self : KalmanFilter) : Except Panic Int8 :=
  let hysteresis := self.config.precisionHysteresis.toInt8
  overflow p (decide (hysteresis = -128)) (-hysteresis)

/-- The score has become too low or too high: another wander is assumed. -/
def retuneWander (p : Profile) (self : KalmanFilter) : Except Panic KalmanFilter := do
  let lowest ← self.negHysteresis p
  let self := if self.wanderScore < lowest then
    { self with wander := self.wander / 4.0, wanderScore := 0 } else self
  return if self.config.precisionHysteresis.toInt8 < self.wanderScore then
    { self with wander := self.wander * 4.0, wanderScore := 0 } else self

def updateWander (b : Build) (self : KalmanFilter) (m : Measurement) : Except Panic KalmanFilter := do
  let wanderFilter ← self.wanderFilter.progressFiltertime b m.eventTime self.wander self.config
  let self := { self with wanderFilter }
  let self ← (match m.rawSyncOffset with
    | some syncOffset =>
      let (prediction, uncertainty) := self.wanderFilter.predictSyncOffset self.config
      self.wanderScoreUpdate uncertainty prediction syncOffset.seconds
    | none => .ok self)
  let self ← (match m.rawDelayOffset with
    | some delayOffset =>
      let (prediction, uncertainty) := self.wanderFilter.predictDelayOffset self.config
      self.wanderScoreUpdate uncertainty prediction delayOffset.seconds
    | none => .ok self)
  self.retuneWander b.overflowChecks

section Clock

variable {C : Type} [Clock C]

/-- `clock.set_frequency`: the clock is given the number that the `f64` stands for. -/
def setFrequency (clock : C) (ppm : Float) : C × Option Time :=
  Clock.setFrequency clock ((F64.value ppm).getD 0)

def ensureFreqInit (self : KalmanFilter) (clock : C) : KalmanFilter × C :=
  match self.curFrequency with
  | some _ => (self, clock)
  | none =>
    match setFrequency clock 0.0 with
    | (clock, some _) => ({ self with curFrequency := some 0.0 }, clock)
    | (clock, none) => (self, clock)

def changeFrequency (b : Build) (self : KalmanFilter) (target : Float) (clock : C) :
    Except Panic (KalmanFilter × C) :=
  match self.curFrequency with
  | none => .ok (self, clock)
  | some curFrequency =>
    let errorPpm := clampAdjustment curFrequency (target - self.runningFilter.freqOffset * 1e6)
      self.config.maxFreqOffset
    match setFrequency clock (curFrequency + errorPpm) with
    | (clock, none) => .ok (self, clock)
    | (clock, some time) => do
      let runningFilter ←
        self.runningFilter.absorbFrequencySteer b errorPpm time self.wander self.config
      let wanderFilter ←
        self.wanderFilter.absorbFrequencySteer b errorPpm time self.wander self.config
      return ({ self with
        curFrequency := some (curFrequency + errorPpm), runningFilter, wanderFilter }, clock)

def step (p : Profile) (self : KalmanFilter) (clock : C) (offset : Float) :
    Except Panic (KalmanFilter × C) := do
  let moved ← Duration.fromSeconds p (-offset)
  match Clock.stepClock clock moved with
  | (clock, none) => return (self, clock)
  | (clock, some _) =>
    let runningFilter ← self.runningFilter.absorbOffsetSteer p (-offset)
    let wanderFilter ← self.wanderFilter.absorbOffsetSteer p (-offset)
    return ({ self with runningFilter, wanderFilter }, clock)

/-- What the filter answers. -/
def answer (p : Profile) (self : KalmanFilter) (nextUpdate : Option CoreDuration) :
    Except Panic FilterUpdate := do
  let meanDelay ← Duration.fromSeconds p self.runningFilter.meanDelay
  return { nextUpdate, meanDelay := some meanDelay }

def steer (b : Build) (self : KalmanFilter) (clock : C) :
    Except Panic (KalmanFilter × C × FilterUpdate) := do
  let error := self.runningFilter.offset
  if error.abs < self.config.stepThreshold.seconds then
    let desiredAdjust := F64.signum error *
      F64.max (error.abs - self.runningFilter.offsetUncertainty self.config * self.config.deadzone) 0.0
    let target ← F64.clamp (-desiredAdjust * 1e6 / self.config.steerTime.seconds)
      (-self.config.maxSteer) self.config.maxSteer
    let (self, clock) ← self.changeFrequency b target clock
    let nextUpdate ← CoreDuration.fromSecsF64 self.config.steerTime.seconds
    let update ← self.answer b.overflowChecks (some nextUpdate)
    return (self, clock, update)
  else
    let (self, clock) ← self.step b.overflowChecks clock error
    let update ← self.answer b.overflowChecks none
    return (self, clock, update)

/-- The variance of a measurement. -/
def noise (self : KalmanFilter) : Except Panic Float := do
  let variance ← self.measurementErrorEstimator.measurementVariance self.config
  return variance *
    (if self.measurementErrorEstimator.peerDelay then self.config.peerDelayFactor else 1.0)

/-- A sync offset: the filter can start controlling, so it needs a proper frequency. -/
def absorbSync (self : KalmanFilter) (syncOffset : Duration) (clock : C) :
    Except Panic (KalmanFilter × C) := do
  let (self, clock) := self.ensureFreqInit clock
  let noise ← self.noise
  return ({ self with runningFilter :=
    self.runningFilter.absorbSyncOffset syncOffset.seconds noise self.config }, clock)

def absorbDelay (self : KalmanFilter) (delayOffset : Duration) (clock : C) :
    Except Panic (KalmanFilter × C) := do
  let (self, clock) := self.ensureFreqInit clock
  let noise ← self.noise
  return ({ self with runningFilter :=
    self.runningFilter.absorbDelayOffset delayOffset.seconds noise self.config }, clock)

def absorbPeerDelay (self : KalmanFilter) (peerDelay : Duration) : Except Panic KalmanFilter := do
  let noise ← self.noise
  return { self with runningFilter :=
    self.runningFilter.absorbPeerDelay peerDelay.seconds noise }

/-- The parts of the measurement, one after the other. -/
def absorbOffsets (self : KalmanFilter) (m : Measurement) (clock : C) :
    Except Panic (KalmanFilter × C) := do
  let (self, clock) ← (match m.rawSyncOffset with
    | some syncOffset => self.absorbSync syncOffset clock
    | none => .ok (self, clock))
  let (self, clock) ← (match m.rawDelayOffset with
    | some delayOffset => self.absorbDelay delayOffset clock
    | none => .ok (self, clock))
  match m.peerDelay with
  | some peerDelay => do
    let self ← self.absorbPeerDelay peerDelay
    return (self, clock)
  | none => return (self, clock)

/-- `Filter::measurement`.  A measurement from before the filter time is discarded. -/
def measurement (b : Build) (self : KalmanFilter) (m : Measurement) (clock : C) :
    Except Panic (KalmanFilter × C × FilterUpdate) :=
  if self.runningFilter.afterFilterTime m.eventTime then do
    let measurementErrorEstimator ← self.measurementErrorEstimator.absorbMeasurement
      b.overflowChecks m self.runningFilter.freqOffset self.config
    let self ← { self with measurementErrorEstimator }.updateWander b m
    let runningFilter ← self.runningFilter.progressFiltertime b m.eventTime self.wander self.config
    let (self, clock) ← { self with runningFilter }.absorbOffsets m clock
    self.steer b clock
  else
    return (self, clock, { nextUpdate := none, meanDelay := none })

/-- `Filter::update`: the remote has gone away. -/
def update (b : Build) (self : KalmanFilter) (clock : C) :
    Except Panic (KalmanFilter × C × FilterUpdate) := do
  let (self, clock) ← self.changeFrequency b 0.0 clock
  let update ← self.answer b.overflowChecks none
  return (self, clock, update)

/-- `Filter::demobilize`. -/
def demobilize (b : Build) (self : KalmanFilter) (clock : C) : Except Panic C := do
  let (_, clock) ← self.changeFrequency b 0.0 clock
  return clock

end Clock

end KalmanFilter

/-- The Kalman filter of a port.  After a panic nothing more is done. -/
structure Kalman (b : Build) where
  filter : Except Panic KalmanFilter

namespace Kalman

variable {b : Build}

/-- The outcome of a call of the filter with the clock. -/
def ofCall {C : Type} (clock : C) (result : Except Panic (KalmanFilter × C × FilterUpdate)) :
    Kalman b × C × FilterUpdate :=
  match result with
  | .ok (filter, clock, update) => (⟨.ok filter⟩, clock, update)
  | .error why => (⟨.error why⟩, clock, { nextUpdate := none, meanDelay := none })

instance : Filter (Kalman b) where
  Config := KalmanConfiguration Float
  new config := ⟨KalmanFilter.new config⟩
  measurement filter m clock := ofCall clock (filter.filter >>= fun f => f.measurement b m clock)
  update filter clock := ofCall clock (filter.filter >>= fun f => f.update b clock)
  demobilize filter clock :=
    match filter.filter >>= fun f => f.demobilize b clock with
    | .ok clock => clock
    | .error _ => clock

end Kalman

end Statime
