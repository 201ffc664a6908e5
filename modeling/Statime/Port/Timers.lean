import Mathlib.Tactic.Linarith
import Statime.Port.Sent

/-!
# The timers of a port

Which timers a port needs in which state, and which ones its actions ask for.  A call can be made
because a timer expired, which has stopped then.

* `Slot.step_rearms`: after a step a timer that the port needs is asked for, or it was needed before and
  has not expired.  A port that recovers from a fault asks for nothing.
* `Slot.step_inTime`: the durations that are asked for.
-/

namespace Statime

open Rust Machine

/-! ### Timers -/

/-- The fields of `Timers`. -/
inductive TimerName
  | portSyncTimer
  | portAnnounceTimer
  | portAnnounceTimeoutTimer
  | delayRequestTimer
  | filterUpdateTimer
  deriving DecidableEq

/-- The timer that an action resets, and the duration. -/
def PortAction.reset : PortAction → Option (TimerName × CoreDuration)
  | resetAnnounceTimer duration => some (.portAnnounceTimer, duration)
  | resetSyncTimer duration => some (.portSyncTimer, duration)
  | resetDelayRequestTimer duration => some (.delayRequestTimer, duration)
  | resetAnnounceReceiptTimer duration => some (.portAnnounceTimeoutTimer, duration)
  | resetFilterUpdateTimer duration => some (.filterUpdateTimer, duration)
  | sendEvent _ _ _ | sendGeneral _ _ | forwardTLV _ => none

/-- The timer whose expiry is answered by this call. -/
def PortEvent.timer {T : Type} : PortEvent T → Option TimerName
  | announceTimer _ _ => some .portAnnounceTimer
  | syncTimer _ => some .portSyncTimer
  | delayRequestTimer _ => some .delayRequestTimer
  | announceReceiptTimer _ => some .portAnnounceTimeoutTimer
  | filterUpdateTimer => some .filterUpdateTimer
  | _ => none

/-- A call of the best master clock algorithm. -/
def PortEvent.decides {T : Type} : PortEvent T → Bool
  | calculateBest | recommend _ _ | stepAge _ => true
  | _ => false

/-- The timers without which a port does not go on in this state. -/
def PortState.needs : PortState → TimerName → Bool
  | master, .portSyncTimer | master, .portAnnounceTimer => true
  | slave _, .portAnnounceTimeoutTimer | slave _, .delayRequestTimer => true
  | listening, .portAnnounceTimeoutTimer => true
  | _, _ => false

/-- Some of the actions resets the timer. -/
def Resets (actions : List PortAction) (name : TimerName) : Prop :=
  ∃ action ∈ actions, ∃ duration, action.reset = some (name, duration)

theorem not_resets_nil {name : TimerName} : ¬ Resets [] name := by
  rintro ⟨_, hmem, -⟩
  cases hmem

/-- What `Open01` samples are. -/
def Rng.Open01 (R : Type) [Rng R] : Prop :=
  ∀ rng : R, 0 < (Rng.sample rng).1 ∧ (Rng.sample rng).1 < 1

/-! ### Durations -/

namespace PortConfig

variable {A : Type}

/-- The longest time that a port waits on purpose; the filter decides on its own timer. -/
def longest (config : PortConfig A) : TimerName → Rat
  | .portSyncTimer => config.syncInterval.seconds
  | .portAnnounceTimer => config.announceInterval.seconds
  | .portAnnounceTimeoutTimer =>
    2 * (config.announceInterval.seconds * config.announceReceiptTimeout.toNat)
  | .delayRequestTimer => 2 * config.minDelayReqInterval.seconds
  | .filterUpdateTimer => 0

/-- The time without announce messages after which a port no longer waits for one. -/
def silence (config : PortConfig A) : Rat :=
  config.announceInterval.seconds * config.announceReceiptTimeout.toNat

/-- **The duration that an action asks for** is not longer than the interval says, and that of the
announce receipt timer not shorter either. -/
def InTime (config : PortConfig A) (action : PortAction) : Prop :=
  ∀ name duration, action.reset = some (name, duration) →
    (name ≠ .filterUpdateTimer → duration ≤ config.longest name) ∧
      (name = .portAnnounceTimeoutTimer → config.silence ≤ duration)

end PortConfig

theorem Interval.seconds_nonneg (i : Interval) : 0 ≤ i.seconds := by
  unfold seconds
  split
  · exact Nat.cast_nonneg _
  · rw [Rat.mkRat_eq_div]
    exact div_nonneg zero_le_one (Nat.cast_nonneg _)

theorem Interval.asCoreDuration_eq {i : Interval} {duration : CoreDuration}
    (h : i.asCoreDuration = .ok duration) : duration = i.seconds := by
  unfold asCoreDuration at h
  split at h
  · exact (Except.ok.inj h).symm
  · cases h

theorem CoreDuration.mulF64_eq {d duration : CoreDuration} {factor : Rat}
    (h : CoreDuration.mulF64 d factor = .ok duration) : duration = d * factor := by
  unfold CoreDuration.mulF64 at h
  split at h
  · exact (Except.ok.inj h).symm
  · cases h

namespace PortConfig

variable {A R : Type} [Rng R] {config : PortConfig A}

theorem announceDuration_inTime (hrng : Rng.Open01 R) {rng rng' : R} {duration : CoreDuration}
    (h : config.announceDuration rng = .ok (duration, rng')) :
    config.silence ≤ duration ∧ duration ≤ 2 * config.silence := by
  obtain ⟨interval, hinterval, h⟩ := bind_eq_ok.mp h
  obtain ⟨duration', hmul, h⟩ := bind_eq_ok.mp h
  obtain ⟨rfl, -⟩ := Prod.mk.inj (Except.ok.inj h)
  have heq : duration' = (1 + (Rng.sample rng).1) * config.silence := by
    rw [CoreDuration.mulF64_eq hmul, Interval.asCoreDuration_eq hinterval]
    exact mul_left_comm _ _ _
  obtain ⟨hlow, hhigh⟩ := hrng rng
  have hsilence : 0 ≤ config.silence :=
    mul_nonneg (Interval.seconds_nonneg _) (Nat.cast_nonneg _)
  rw [heq]
  constructor <;> nlinarith

end PortConfig

theorem Port.requestDuration_inTime {R : Type} [Rng R] (hrng : Rng.Open01 R) {interval : Interval}
    {rng rng' : R} {duration : CoreDuration}
    (h : Port.requestDuration interval rng = .ok (duration, rng')) :
    duration ≤ 2 * interval.seconds := by
  obtain ⟨seconds, hseconds, h⟩ := bind_eq_ok.mp h
  obtain ⟨duration', hmul, h⟩ := bind_eq_ok.mp h
  obtain ⟨rfl, -⟩ := Prod.mk.inj (Except.ok.inj h)
  have heq : duration' = (Rng.sample rng).1 * (2 * interval.seconds) := by
    rw [CoreDuration.mulF64_eq hmul, Interval.asCoreDuration_eq hseconds, mul_left_comm,
      mul_comm interval.seconds]
    rfl
  obtain ⟨-, hhigh⟩ := hrng rng
  have hnonneg := interval.seconds_nonneg
  rw [heq]
  nlinarith

/-! ### What the calls ask for -/

/-- The durations of all actions. -/
def PortActionIterator.InTime {A : Type} (i : PortActionIterator) (config : PortConfig A) : Prop :=
  ∀ action ∈ i.internal, config.InTime action

namespace PortActionIterator

variable {A : Type} {config : PortConfig A}

theorem inTime_of_none {actions : List PortAction} (h : ∀ action ∈ actions, action.reset = none) :
    (of actions).InTime config := by
  intro action haction name duration hreset
  rw [h action haction] at hreset
  cases hreset

theorem inTime_empty : empty.InTime config := inTime_of_none fun _ h => by cases h

theorem inTime_fromFilter (update : FilterUpdate) : (fromFilter update).InTime config := by
  unfold fromFilter
  split
  · intro action haction name duration hreset
    obtain rfl := List.mem_singleton.mp haction
    obtain ⟨rfl, -⟩ := Prod.mk.inj (Option.some.inj hreset)
    exact ⟨fun hname => absurd rfl hname, fun hname => by cases hname⟩
  · exact inTime_empty

/-- One timer of the port, and what is sent. -/
theorem inTime_of_reset {action : PortAction} {name : TimerName} {duration : CoreDuration}
    {rest : List PortAction} (haction : action.reset = some (name, duration))
    (hlongest : duration ≤ config.longest name)
    (hsilence : name = .portAnnounceTimeoutTimer → config.silence ≤ duration)
    (hrest : (of rest).InTime config) : (of (action :: rest)).InTime config := by
  intro action' haction' name' duration' hreset
  rcases List.mem_cons.mp haction' with rfl | hmem
  · obtain ⟨rfl, rfl⟩ := Prod.mk.inj (Option.some.inj (haction.symm.trans hreset))
    exact ⟨fun _ => hlongest, hsilence⟩
  · exact hrest action' hmem name' duration' hreset

end PortActionIterator

namespace PortConfig

open PortActionIterator

variable {A : Type} {config : PortConfig A}

theorem inTime_start : (of [.resetAnnounceTimer 0, .resetSyncTimer 0]).InTime config :=
  inTime_of_reset rfl (Interval.seconds_nonneg _) (fun h => by cases h)
    (inTime_of_reset rfl (Interval.seconds_nonneg _) (fun h => by cases h) inTime_empty)

theorem inTime_receipt {R : Type} [Rng R] (hrng : Rng.Open01 R) {rng rng' : R}
    {duration : CoreDuration} (h : config.announceDuration rng = .ok (duration, rng'))
    {rest : List PortAction} (hrest : (of rest).InTime config) :
    (of (.resetAnnounceReceiptTimer duration :: rest)).InTime config := by
  obtain ⟨hlow, hhigh⟩ := announceDuration_inTime hrng h
  exact inTime_of_reset rfl hhigh (fun _ => hlow) hrest

end PortConfig

namespace Port

open PortActionIterator

@[simp] theorem config_setForcedPortState {L A R C F : Type} [Filter F] [Clock C] (port : Port L A R C F)
    (state : PortState) : (port.setForcedPortState state).config = port.config := by
  unfold setForcedPortState
  split <;> rfl

section Running

variable {A R C F T : Type} [Filter F] {p : Profile} {s s' : PtpInstanceState}
  {port port' port₁ : Port Running A R C F} {actions : PortActionIterator} {timestamp : Time}
  {config : PortConfig Unit}

theorem inTime_of_same (h : (Except.ok (port, PortActionIterator.empty) : Except Panic _) =
    .ok (port', actions)) : actions.InTime config := by
  obtain ⟨-, rfl⟩ := Prod.mk.inj (Except.ok.inj h)
  exact inTime_empty

theorem handleTimeMeasurement_inTime [Clock C]
    (h : port.handleTimeMeasurement p = .ok (port', actions)) : actions.InTime config := by
  obtain ⟨⟨measurement, port₁⟩, -, h⟩ := bind_eq_ok.mp h
  cases measurement with
  | none => exact inTime_of_same h
  | some measurement =>
    obtain ⟨-, rfl⟩ := Prod.mk.inj (Except.ok.inj h)
    exact inTime_fromFilter _

theorem storeSlave_inTime [Clock C]
    {stored : SlaveState → Except Panic (Option (SlaveState × Bool))}
    (h : port.storeSlave p stored = .ok (port', actions)) : actions.InTime config := by
  unfold storeSlave at h
  split at h
  · obtain ⟨result, -, h⟩ := bind_eq_ok.mp h
    rcases result with _ | ⟨state, _ | _⟩
    · exact inTime_of_same h
    · exact inTime_of_same h
    · exact handleTimeMeasurement_inTime h
  · exact inTime_of_same h

theorem handleAnswer_inTime [Clock C] {header : Header} {requesting : PortIdentity}
    {lacks : PeerDelayState → Bool} {stored : Except Panic PeerDelayState}
    (h : port.handleAnswer p header requesting lacks stored = .ok (port', actions)) :
    actions.InTime config := by
  unfold handleAnswer at h
  split at h
  · exact inTime_of_same h
  · split at h
    · split at h <;> exact inTime_of_same h
    · split at h
      · split at h
        · exact inTime_of_same h
        · split at h
          · obtain ⟨state, -, h⟩ := bind_eq_ok.mp h
            exact handleTimeMeasurement_inTime h
          · exact inTime_of_same h
      · exact inTime_of_same h
    · exact inTime_of_same h

theorem handlePdelayTimestamp_inTime [Clock C] {id : UInt16}
    (h : port.handlePdelayTimestamp p id timestamp = .ok (port', actions)) :
    actions.InTime config := by
  unfold handlePdelayTimestamp at h
  split at h
  · split at h
    · split at h
      · exact inTime_of_same h
      · exact handleTimeMeasurement_inTime h
    · exact inTime_of_same h
  · exact inTime_of_same h

theorem handleSendTimestamp_inTime [Clock C] {context : TimestampContext}
    (h : port.handleSendTimestamp p s context timestamp = .ok (port', actions)) :
    actions.InTime config := by
  cases context with
  | sync id =>
    replace h : port.handleSyncTimestamp p s id timestamp = .ok (port', actions) := h
    unfold handleSyncTimestamp at h
    split at h
    · obtain ⟨message, -, h⟩ := bind_eq_ok.mp h
      obtain ⟨⟨buffer, data⟩, -, h⟩ := bind_eq_ok.mp h
      obtain ⟨-, rfl⟩ := Prod.mk.inj (Except.ok.inj h)
      exact inTime_of_none (by simp [PortAction.reset])
    · exact inTime_of_same h
  | delayReq id =>
    replace h : port.handleDelayTimestamp p id timestamp = .ok (port', actions) := h
    rw [handleDelayTimestamp_eq] at h
    exact storeSlave_inTime h
  | pDelayReq id => exact handlePdelayTimestamp_inTime h
  | pDelayResp id requestor =>
    obtain ⟨message, -, h⟩ := bind_eq_ok.mp h
    obtain ⟨⟨buffer, data⟩, -, h⟩ := bind_eq_ok.mp h
    obtain ⟨-, rfl⟩ := Prod.mk.inj (Except.ok.inj h)
    exact inTime_of_none (by simp [PortAction.reset])

theorem sendAnnounce_inTime [ForwardedTLVProvider T] {provider provider' : T}
    (h : port.sendAnnounce p s provider = .ok (port', provider', actions)) :
    actions.InTime port.config := by
  unfold sendAnnounce at h
  split at h
  · obtain ⟨⟨message, provider₁⟩, -, h⟩ := bind_eq_ok.mp h
    obtain ⟨⟨buffer, data⟩, -, h⟩ := bind_eq_ok.mp h
    obtain ⟨duration, hduration, h⟩ := bind_eq_ok.mp h
    obtain ⟨-, hrest⟩ := Prod.mk.inj (Except.ok.inj h)
    obtain ⟨-, rfl⟩ := Prod.mk.inj hrest
    exact inTime_of_reset rfl (Interval.asCoreDuration_eq hduration).le (fun hname => by cases hname)
      (inTime_of_none (by simp [PortAction.reset]))
  · obtain ⟨-, hrest⟩ := Prod.mk.inj (Except.ok.inj h)
    obtain ⟨-, rfl⟩ := Prod.mk.inj hrest
    exact inTime_empty

theorem sendSync_inTime (h : port.sendSync p s = .ok (port', actions)) :
    actions.InTime port.config := by
  unfold sendSync at h
  split at h
  · obtain ⟨⟨buffer, data⟩, -, h⟩ := bind_eq_ok.mp h
    obtain ⟨duration, hduration, h⟩ := bind_eq_ok.mp h
    obtain ⟨-, rfl⟩ := Prod.mk.inj (Except.ok.inj h)
    exact inTime_of_reset rfl (Interval.asCoreDuration_eq hduration).le (fun hname => by cases hname)
      (inTime_of_none (by simp [PortAction.reset]))
  · exact inTime_of_same h

variable [Rng R]

theorem sendDelayRequest_inTime (hrng : Rng.Open01 R)
    (h : port.sendDelayRequest p s = .ok (port', actions)) : actions.InTime port.config := by
  have hlongest : ∀ interval, port.config.minDelayReqInterval = interval →
      2 * interval.seconds = port.config.longest .delayRequestTimer := by
    rintro _ rfl
    rfl
  unfold sendDelayRequest at h
  split at h
  · rename_i interval hmechanism
    have hinterval : port.config.minDelayReqInterval = interval := by
      rw [PortConfig.minDelayReqInterval, hmechanism]
    unfold sendE2eDelayRequest at h
    split at h
    · obtain ⟨⟨buffer, data⟩, -, h⟩ := bind_eq_ok.mp h
      obtain ⟨⟨duration, rng⟩, hduration, h⟩ := bind_eq_ok.mp h
      obtain ⟨-, rfl⟩ := Prod.mk.inj (Except.ok.inj h)
      exact inTime_of_reset rfl ((requestDuration_inTime hrng hduration).trans_eq (hlongest _ hinterval))
        (fun hname => by cases hname) (inTime_of_none (by simp [PortAction.reset]))
    · exact inTime_of_same h
  · rename_i interval hmechanism
    have hinterval : port.config.minDelayReqInterval = interval := by
      rw [PortConfig.minDelayReqInterval, hmechanism]
    obtain ⟨⟨buffer, data⟩, -, h⟩ := bind_eq_ok.mp h
    obtain ⟨⟨duration, rng⟩, hduration, h⟩ := bind_eq_ok.mp h
    obtain ⟨-, rfl⟩ := Prod.mk.inj (Except.ok.inj h)
    exact inTime_of_reset rfl ((requestDuration_inTime hrng hduration).trans_eq (hlongest _ hinterval))
      (fun hname => by cases hname) (inTime_of_none (by simp [PortAction.reset]))

variable [Clock C]

theorem handleAnnounceReceiptTimer_inTime (hrng : Rng.Open01 R)
    (h : port.handleAnnounceReceiptTimer s = .ok (port', actions)) : actions.InTime port.config := by
  unfold handleAnnounceReceiptTimer at h
  split at h
  · obtain ⟨⟨duration, rng⟩, hduration, h⟩ := bind_eq_ok.mp h
    obtain ⟨-, rfl⟩ := Prod.mk.inj (Except.ok.inj h)
    have hconfig : (if port.portState = .listening then port
        else port.setForcedPortState .listening).config = port.config := by
      split
      · rfl
      · exact config_setForcedPortState _ _
    rw [hconfig] at hduration
    exact PortConfig.inTime_receipt hrng hduration inTime_empty
  · obtain ⟨-, rfl⟩ := Prod.mk.inj (Except.ok.inj h)
    exact PortConfig.inTime_start

variable [AcceptableMasterList A] {message : Message}

omit [Rng R] [AcceptableMasterList A] in
@[simp] theorem config_checkMultiport (port : Port Running A R C F) (message : Message) :
    (port.checkMultiport message).config = port.config := by
  unfold checkMultiport
  split
  · exact config_setForcedPortState _ _
  · rfl

theorem handleAnnounce_inTime (hrng : Rng.Open01 R) {announce : AnnounceMessage}
    (h : port.handleAnnounce p s message announce = .ok (port', s', actions)) :
    actions.InTime port.config := by
  obtain ⟨⟨s₁, loop⟩, -, h⟩ := bind_eq_ok.mp h
  dsimp only at h
  split at h
  · obtain ⟨-, hrest⟩ := Prod.mk.inj (Except.ok.inj h)
    obtain ⟨-, rfl⟩ := Prod.mk.inj hrest
    exact inTime_empty
  · obtain ⟨⟨port₁, actions₁⟩, hregister, h⟩ := bind_eq_ok.mp h
    obtain ⟨-, hrest⟩ := Prod.mk.inj (Except.ok.inj h)
    obtain ⟨-, rfl⟩ := Prod.mk.inj hrest
    obtain ⟨⟨bmca, stored⟩, -, hregister⟩ := bind_eq_ok.mp hregister
    dsimp only at hregister
    split at hregister
    · obtain ⟨⟨duration, rng⟩, hduration, hregister⟩ := bind_eq_ok.mp hregister
      obtain ⟨-, rfl⟩ := Prod.mk.inj (Except.ok.inj hregister)
      rw [config_checkMultiport] at hduration
      exact PortConfig.inTime_receipt hrng hduration inTime_empty
    · obtain ⟨-, rfl⟩ := Prod.mk.inj (Except.ok.inj hregister)
      exact inTime_empty

theorem handleGeneralInternal_inTime (hrng : Rng.Open01 R)
    (h : port.handleGeneralInternal p s message = .ok (port', s', actions)) :
    actions.InTime port.config := by
  unfold handleGeneralInternal at h
  split at h
  · exact handleAnnounce_inTime hrng h
  · obtain ⟨⟨port₁, actions₁⟩, hport, h⟩ := bind_eq_ok.mp h
    obtain ⟨-, hrest⟩ := Prod.mk.inj (Except.ok.inj h)
    obtain ⟨-, rfl⟩ := Prod.mk.inj hrest
    rw [handleFollowUp_eq] at hport
    exact storeSlave_inTime hport
  · obtain ⟨⟨port₁, actions₁⟩, hport, h⟩ := bind_eq_ok.mp h
    obtain ⟨-, hrest⟩ := Prod.mk.inj (Except.ok.inj h)
    obtain ⟨-, rfl⟩ := Prod.mk.inj hrest
    rw [handleDelayResp_eq] at hport
    exact storeSlave_inTime hport
  · obtain ⟨⟨port₁, actions₁⟩, hport, h⟩ := bind_eq_ok.mp h
    obtain ⟨-, hrest⟩ := Prod.mk.inj (Except.ok.inj h)
    obtain ⟨-, rfl⟩ := Prod.mk.inj hrest
    rw [handlePeerDelayResponseFollowUp_eq] at hport
    exact handleAnswer_inTime hport
  all_goals
    obtain ⟨-, hrest⟩ := Prod.mk.inj (Except.ok.inj h)
    obtain ⟨-, rfl⟩ := Prod.mk.inj hrest
    exact inTime_empty

theorem handleEventReceive_inTime (hrng : Rng.Open01 R) {data : List UInt8}
    (h : port.handleEventReceive p s data timestamp = .ok (port', s', actions)) :
    actions.InTime port.config := by
  rcases handleEventReceive_cases h with ⟨-, -, -, rfl⟩ | ⟨request, -, h⟩
  · exact inTime_empty
  unfold handleEventMessage at h
  split at h
  · obtain ⟨⟨port₁, actions₁⟩, hport, h⟩ := bind_eq_ok.mp h
    obtain ⟨-, hrest⟩ := Prod.mk.inj (Except.ok.inj h)
    obtain ⟨-, rfl⟩ := Prod.mk.inj hrest
    rw [handleSync_eq] at hport
    exact storeSlave_inTime hport
  · obtain ⟨⟨port₁, actions₁⟩, hport, h⟩ := bind_eq_ok.mp h
    obtain ⟨-, hrest⟩ := Prod.mk.inj (Except.ok.inj h)
    obtain ⟨-, rfl⟩ := Prod.mk.inj hrest
    unfold handleDelayReq at hport
    split at hport
    · obtain ⟨message, -, hport⟩ := bind_eq_ok.mp hport
      obtain ⟨⟨buffer, data⟩, -, hport⟩ := bind_eq_ok.mp hport
      obtain ⟨-, rfl⟩ := Prod.mk.inj (Except.ok.inj hport)
      exact inTime_of_none (by simp [PortAction.reset])
    · exact inTime_of_same hport
  · obtain ⟨⟨port₁, actions₁⟩, hport, h⟩ := bind_eq_ok.mp h
    obtain ⟨-, hrest⟩ := Prod.mk.inj (Except.ok.inj h)
    obtain ⟨-, rfl⟩ := Prod.mk.inj hrest
    obtain ⟨message, -, hport⟩ := bind_eq_ok.mp hport
    obtain ⟨⟨buffer, data⟩, -, hport⟩ := bind_eq_ok.mp hport
    obtain ⟨-, rfl⟩ := Prod.mk.inj (Except.ok.inj hport)
    exact inTime_of_none (by simp [PortAction.reset])
  · obtain ⟨⟨port₁, actions₁⟩, hport, h⟩ := bind_eq_ok.mp h
    obtain ⟨-, hrest⟩ := Prod.mk.inj (Except.ok.inj h)
    obtain ⟨-, rfl⟩ := Prod.mk.inj hrest
    rw [handlePeerDelayResponse_eq] at hport
    exact handleAnswer_inTime hport
  · exact handleGeneralInternal_inTime hrng h

end Running

/-! ### Announce messages -/

section Hears

variable {A R C F : Type} [AcceptableMasterList A] [Filter F] {p : Profile}

/-- Whether the packet is an announce message that the port takes into its foreign master list.  A
message that closes a clock loop is not taken. -/
def hears (p : Profile) (s : PtpInstanceState) (port : Port Running A R C F) (data : List UInt8) : Bool :=
  match parseAndFilter s data with
  | .ok (some message) =>
    match message.body with
    | .announce announce =>
      match port.updateDatasets p s message announce with
      | .ok (_, clockLoopDetected) => !clockLoopDetected && port.bmca.accepts announce
      | .error _ => false
    | _ => false
  | _ => false

theorem hears_iff {s : PtpInstanceState} {port : Port Running A R C F} {data : List UInt8} :
    port.hears p s data = true ↔ ∃ s' message announce, parseAndFilter s data = .ok (some message) ∧
      message.body = .announce announce ∧ port.updateDatasets p s message announce = .ok (s', false) ∧
        port.bmca.accepts announce = true := by
  unfold hears
  constructor
  · intro h
    split at h
    · rename_i message hparse
      split at h
      · rename_i announce hbody
        split at h
        · rename_i s' loop hupdate
          rw [Bool.and_eq_true, Bool.not_eq_true'] at h
          obtain ⟨rfl, haccepts⟩ := h
          exact ⟨s', message, announce, hparse, hbody, hupdate, haccepts⟩
        · cases h
      · cases h
    · cases h
  · rintro ⟨s', message, announce, hparse, hbody, hupdate, haccepts⟩
    simp only [hparse, hbody, hupdate, haccepts, Bool.not_false, Bool.and_self]

variable [Clock C] [Rng R] {s s₁ s' : PtpInstanceState} {port port' : Port Running A R C F}
  {actions : PortActionIterator}

theorem handleGeneralInternal_resets {message : Message} {announce : AnnounceMessage}
    (hbody : message.body = .announce announce)
    (hupdate : port.updateDatasets p s message announce = .ok (s₁, false))
    (haccepts : port.bmca.accepts announce = true)
    (h : port.handleGeneralInternal p s message = .ok (port', s', actions)) :
    Resets actions.internal .portAnnounceTimeoutTimer := by
  unfold handleGeneralInternal at h
  rw [hbody] at h
  obtain ⟨⟨s₂, loop⟩, hdatasets, h⟩ := bind_eq_ok.mp h
  obtain ⟨rfl, rfl⟩ := Prod.mk.inj (Except.ok.inj (hupdate.symm.trans hdatasets))
  obtain ⟨⟨port₁, actions₁⟩, hregister, h⟩ := bind_eq_ok.mp h
  obtain ⟨-, hrest⟩ := Prod.mk.inj (Except.ok.inj h)
  obtain ⟨-, rfl⟩ := Prod.mk.inj hrest
  obtain ⟨⟨bmca, stored⟩, hstored, hregister⟩ := bind_eq_ok.mp hregister
  have hyes : stored = true := by
    rw [(Bmca.registerAnnounceMessage_owned hstored).2.2, haccepts]
  subst hyes
  obtain ⟨⟨duration, rng⟩, -, hregister⟩ := bind_eq_ok.mp hregister
  obtain ⟨-, rfl⟩ := Prod.mk.inj (Except.ok.inj hregister)
  exact ⟨_, List.mem_cons_self, _, rfl⟩

end Hears

/-! ### The timers of the calls -/

section Expired

variable {A R C F T : Type} [Filter F] {p : Profile} {s : PtpInstanceState}
  {port port' : Port Running A R C F} {actions : PortActionIterator}

theorem sendAnnounce_resets [ForwardedTLVProvider T] {provider provider' : T}
    (h : port.sendAnnounce p s provider = .ok (port', provider', actions))
    (hmaster : port.portState = .master) : Resets actions.internal .portAnnounceTimer := by
  replace h := (if_pos hmaster).symm.trans h
  obtain ⟨⟨message, provider₁⟩, -, h⟩ := bind_eq_ok.mp h
  obtain ⟨⟨buffer, data⟩, -, h⟩ := bind_eq_ok.mp h
  obtain ⟨duration, -, h⟩ := bind_eq_ok.mp h
  obtain ⟨-, hrest⟩ := Prod.mk.inj (Except.ok.inj h)
  obtain ⟨-, rfl⟩ := Prod.mk.inj hrest
  exact ⟨_, List.mem_cons_self, _, rfl⟩

theorem sendSync_resets (h : port.sendSync p s = .ok (port', actions))
    (hmaster : port.portState = .master) : Resets actions.internal .portSyncTimer := by
  replace h := (if_pos hmaster).symm.trans h
  obtain ⟨⟨buffer, data⟩, -, h⟩ := bind_eq_ok.mp h
  obtain ⟨duration, -, h⟩ := bind_eq_ok.mp h
  obtain ⟨-, rfl⟩ := Prod.mk.inj (Except.ok.inj h)
  exact ⟨_, List.mem_cons_self, _, rfl⟩

variable [Rng R]

/-- With the peer delay mechanism every state goes on. -/
theorem sendDelayRequest_resets (h : port.sendDelayRequest p s = .ok (port', actions))
    {state : SlaveState} (hstate : port.portState = .slave state) :
    Resets actions.internal .delayRequestTimer := by
  unfold sendDelayRequest at h
  split at h
  · unfold sendE2eDelayRequest at h
    split at h
    · obtain ⟨⟨buffer, data⟩, -, h⟩ := bind_eq_ok.mp h
      obtain ⟨⟨duration, rng⟩, -, h⟩ := bind_eq_ok.mp h
      obtain ⟨-, rfl⟩ := Prod.mk.inj (Except.ok.inj h)
      exact ⟨_, List.mem_cons_self, _, rfl⟩
    · rename_i hother
      exact absurd hstate (hother state)
  · obtain ⟨⟨buffer, data⟩, -, h⟩ := bind_eq_ok.mp h
    obtain ⟨⟨duration, rng⟩, -, h⟩ := bind_eq_ok.mp h
    obtain ⟨-, rfl⟩ := Prod.mk.inj (Except.ok.inj h)
    exact ⟨_, List.mem_cons_self, _, rfl⟩

/-- The new state is that of a slave-only port, or a master. -/
theorem handleAnnounceReceiptTimer_resets [AcceptableMasterList A] [Clock C] {name : TimerName}
    (h : port.handleAnnounceReceiptTimer s = .ok (port', actions))
    (hneeds : port'.core.portState.needs name = true) : Resets actions.internal name := by
  have hcore := congrArg PortCore.portState (handleAnnounceReceiptTimer_core h)
  rw [hcore] at hneeds
  unfold handleAnnounceReceiptTimer at h
  split at h
  · rename_i hslaveOnly
    rw [if_pos hslaveOnly] at hneeds
    obtain ⟨⟨duration, rng⟩, -, h⟩ := bind_eq_ok.mp h
    obtain ⟨-, rfl⟩ := Prod.mk.inj (Except.ok.inj h)
    cases name with
    | portAnnounceTimeoutTimer => exact ⟨_, List.mem_cons_self, _, rfl⟩
    | portSyncTimer | portAnnounceTimer | delayRequestTimer | filterUpdateTimer => cases hneeds
  · rename_i hslaveOnly
    rw [if_neg hslaveOnly] at hneeds
    obtain ⟨-, rfl⟩ := Prod.mk.inj (Except.ok.inj h)
    cases name with
    | portAnnounceTimer => exact ⟨_, List.mem_cons_self, _, rfl⟩
    | portSyncTimer => exact ⟨_, List.mem_cons_of_mem _ List.mem_cons_self, _, rfl⟩
    | portAnnounceTimeoutTimer | delayRequestTimer | filterUpdateTimer => cases hneeds

end Expired

/-! ### Recommended states -/

section InBmca

variable {A R C F : Type} [Filter F] [Clock C] [Rng R] {p : Profile} {port port' : Port InBmca A R C F}

omit [Rng R] in
theorem lifecycle_setForcedPortState (port : Port InBmca A R C F) (state : PortState) :
    (port.setForcedPortState state).lifecycle = port.lifecycle := by
  unfold setForcedPortState
  split <;> rfl

omit [Rng R] in
theorem portState_setForcedPortState (port : Port InBmca A R C F) (state : PortState) :
    (port.setForcedPortState state).portState = state := by
  unfold setForcedPortState
  split <;> rfl

omit [Rng R] in
theorem needs_of_forced (port : Port InBmca A R C F) {state : PortState} {name : TimerName}
    (h : (port.setForcedPortState state).portState.needs name = true) : state.needs name = true := by
  rwa [portState_setForcedPortState] at h

/-- **A recommendation** leaves the port as it is, or asks for the timers of the new state. -/
structure Rearms (port port' : Port InBmca A R C F) : Prop where
  needed : port'.portState = port.portState ∧
      port'.lifecycle.pendingAction = port.lifecycle.pendingAction ∨
    ∀ name, port'.portState.needs name = true → Resets port'.lifecycle.pendingAction.internal name
  inTime : port.lifecycle.pendingAction.InTime port.config →
    port'.lifecycle.pendingAction.InTime port.config

omit [Clock C] [Rng R] in
theorem rearms_refl (port : Port InBmca A R C F) : port.Rearms port := ⟨Or.inl ⟨rfl, rfl⟩, id⟩

omit [Rng R] in
theorem rearms_passive (port : Port InBmca A R C F) : port.Rearms (port.setForcedPortState .passive) := by
  refine ⟨Or.inr fun name hname => ?_, fun h => ?_⟩
  · rw [portState_setForcedPortState] at hname
    cases hname
  · rw [lifecycle_setForcedPortState]
    exact h

theorem recommendSlave_rearms (hrng : Rng.Open01 R) {announceMessage : AnnounceMessage}
    (h : port.recommendSlave p announceMessage = .ok port') : port.Rearms port' := by
  obtain ⟨_, -, h⟩ := bind_eq_ok.mp h
  dsimp only at h
  split at h
  · obtain ⟨⟨duration, rng⟩, hduration, h⟩ := bind_eq_ok.mp h
    obtain rfl := Except.ok.inj h
    refine ⟨Or.inr fun name hname => ?_, fun _ => ?_⟩
    · have hneeds : (PortState.slave (.new announceMessage.header.sourcePortIdentity)).needs name =
          true := needs_of_forced port hname
      cases name with
      | portAnnounceTimeoutTimer => exact ⟨_, List.mem_cons_self, _, rfl⟩
      | delayRequestTimer => exact ⟨_, List.mem_cons_of_mem _ List.mem_cons_self, _, rfl⟩
      | portSyncTimer | portAnnounceTimer | filterUpdateTimer => cases hneeds
    · rw [config_setForcedPortState] at hduration
      refine PortConfig.inTime_receipt hrng hduration (inTime_of_reset rfl ?_ (fun h => by cases h)
        inTime_empty)
      exact mul_nonneg zero_le_two (Interval.seconds_nonneg _)
  · obtain rfl := Except.ok.inj h
    exact rearms_refl _

theorem recommendMaster_rearms (hrng : Rng.Open01 R) {slaveOnly : Bool}
    (h : port.recommendMaster slaveOnly = .ok port') : port.Rearms port' := by
  unfold recommendMaster at h
  split at h
  · split at h
    case h_1 | h_2 =>
      obtain rfl := Except.ok.inj h
      exact rearms_refl _
    all_goals
      obtain ⟨⟨duration, rng⟩, hduration, h⟩ := bind_eq_ok.mp h
      obtain rfl := Except.ok.inj h
      refine ⟨Or.inr fun name hname => ?_, fun _ => ?_⟩
      · have hneeds : PortState.listening.needs name = true :=
          needs_of_forced port hname
        cases name with
        | portAnnounceTimeoutTimer => exact ⟨_, List.mem_cons_self, _, rfl⟩
        | portSyncTimer | portAnnounceTimer | delayRequestTimer | filterUpdateTimer => cases hneeds
      · rw [config_setForcedPortState] at hduration
        exact PortConfig.inTime_receipt hrng hduration inTime_empty
  · split at h
    · split at h
      · obtain rfl := Except.ok.inj h
        exact rearms_refl _
      · obtain rfl := Except.ok.inj h
        exact rearms_passive _
    · split at h
      case h_4 | h_5 =>
        obtain rfl := Except.ok.inj h
        exact rearms_refl _
      all_goals
        obtain rfl := Except.ok.inj h
        refine ⟨Or.inr fun name hname => ?_, fun _ => PortConfig.inTime_start⟩
        have hneeds : PortState.master.needs name = true :=
          needs_of_forced port hname
        cases name with
        | portAnnounceTimer => exact ⟨_, List.mem_cons_self, _, rfl⟩
        | portSyncTimer => exact ⟨_, List.mem_cons_of_mem _ List.mem_cons_self, _, rfl⟩
        | portAnnounceTimeoutTimer | delayRequestTimer | filterUpdateTimer => cases hneeds

omit [Rng R] in
theorem recommendPassive_rearms (port : Port InBmca A R C F) :
    port.Rearms port.recommendPassive := by
  unfold recommendPassive
  split
  case h_4 | h_5 => exact rearms_refl _
  all_goals exact rearms_passive _

theorem setRecommendedState_rearms (hrng : Rng.Open01 R) {state : RecommendedState}
    {s s' : PtpInstanceState} (h : port.setRecommendedState p s state = .ok (port', s')) :
    port.Rearms port' := by
  obtain ⟨port₁, hport, h⟩ := bind_eq_ok.mp h
  cases state with
  | m1 _ | m2 _ =>
    obtain ⟨_, -, h⟩ := bind_eq_ok.mp h
    obtain ⟨rfl, -⟩ := Prod.mk.inj (Except.ok.inj h)
    exact recommendMaster_rearms hrng hport
  | m3 _ =>
    obtain ⟨rfl, -⟩ := Prod.mk.inj (Except.ok.inj h)
    exact recommendMaster_rearms hrng hport
  | p1 _ | p2 _ =>
    obtain ⟨rfl, -⟩ := Prod.mk.inj (Except.ok.inj h)
    obtain rfl := Except.ok.inj hport
    exact recommendPassive_rearms port
  | s1 message =>
    obtain ⟨_, -, h⟩ := bind_eq_ok.mp h
    obtain ⟨s₁, -, h⟩ := bind_eq_ok.mp h
    obtain ⟨rfl, -⟩ := Prod.mk.inj (Except.ok.inj h)
    have hslave := recommendSlave_rearms hrng hport
    exact ⟨hslave.needed, hslave.inTime⟩

end InBmca

end Port

/-! ### What the states need -/

theorem PortState.needs_portAnnounceTimer {state : PortState}
    (h : state.needs .portAnnounceTimer = true) : state = .master := by
  cases state <;> first | rfl | cases h

theorem PortState.needs_portSyncTimer {state : PortState} (h : state.needs .portSyncTimer = true) :
    state = .master := by
  cases state <;> first | rfl | cases h

theorem PortState.needs_delayRequestTimer {state : PortState}
    (h : state.needs .delayRequestTimer = true) : ∃ slave, state = .slave slave := by
  cases state <;> first | exact ⟨_, rfl⟩ | cases h

theorem PortState.not_needs_filterUpdateTimer {state : PortState} :
    ¬ state.needs .filterUpdateTimer = true := by
  cases state <;> exact fun h => by cases h

theorem PortState.needs_slave (state state' : SlaveState) (name : TimerName) :
    (PortState.slave state).needs name = (PortState.slave state').needs name := by
  cases name <;> rfl

namespace PortCore

variable {T : Type} {p : Profile} {e : PortEvent T} {c c' : PortCore} {name : TimerName}

theorem Stores.portState (h : Stores p e c c') :
    c'.portState = c.portState ∨
      ∃ state state', c.portState = .slave state ∧ c'.portState = .slave state' := by
  cases h with
  | sync hstate | delay hstate => exact Or.inr ⟨_, _, hstate, rfl⟩
  | peerRequest | peerResponse => exact Or.inl rfl

theorem Measures.portState (h : Measures p c c') :
    c'.portState = c.portState ∨ (c.portState = .faulty ∧ c'.portState = .listening) ∨
      ∃ state state', c.portState = .slave state ∧ c'.portState = .slave state' := by
  cases h with
  | idle => exact Or.inl rfl
  | peer =>
    by_cases hfaulty : c.portState = .faulty
    · exact Or.inr (Or.inl ⟨hfaulty, if_pos hfaulty⟩)
    · exact Or.inl (if_neg hfaulty)
  | sync _ hstate | delay _ hstate => exact Or.inr (Or.inr ⟨_, _, hstate, rfl⟩)

/-- **Announce messages that do not come** and recommendations apart, no event leads to a state with
other timers, unless the port recovers from a fault. -/
theorem Step.needs (h : Step p e c c') (htimeout : ∀ s, e ≠ .announceReceiptTimer s)
    (hrecommend : ∀ s state, e ≠ .recommend s state) (hneeds : c'.portState.needs name = true) :
    (c.portState = .faulty ∧ c'.portState = .listening) ∨
      (c.portState.needs name = true ∧ (c.portState = .listening → c'.portState = .listening)) := by
  have hsame : ∀ {c'' : PortCore}, c''.portState = c.portState → c''.portState.needs name = true →
      c.portState.needs name = true ∧ (c.portState = .listening → c''.portState = .listening) := by
    intro c'' heq hname
    rw [heq] at hname ⊢
    exact ⟨hname, id⟩
  have hslave : ∀ {c'' : PortCore} {state state' : SlaveState}, c.portState = .slave state →
      c''.portState = .slave state' → c''.portState.needs name = true →
        c.portState.needs name = true ∧ (c.portState = .listening → c''.portState = .listening) := by
    intro c'' state state' hold hnew hname
    rw [hnew, PortState.needs_slave state' state] at hname
    rw [hold]
    exact ⟨hname, fun heq => by cases heq⟩
  cases h with
  | keep => exact Or.inr (hsame rfl hneeds)
  | @measure c₁ _ hstores hmeasures =>
    rcases hstores.portState with heq | ⟨state, state', hold, hnew⟩
    · rcases hmeasures.portState with heq' | ⟨hfaulty, hlistening⟩ | ⟨state, state', hold', hnew'⟩
      · exact Or.inr (hsame (heq'.trans heq) hneeds)
      · exact Or.inl ⟨heq.symm.trans hfaulty, hlistening⟩
      · exact Or.inr (hslave (heq.symm.trans hold') hnew' hneeds)
    · rcases hmeasures.portState with heq' | ⟨hfaulty, -⟩ | ⟨_, _, -, hnew'⟩
      · exact Or.inr (hslave hold (heq'.trans hnew) hneeds)
      · rw [hnew] at hfaulty
        cases hfaulty
      · exact Or.inr (hslave hold hnew' hneeds)
  | firstSync hstate => exact Or.inr (hslave hstate rfl hneeds)
  | fault | disable => cases hneeds
  | requestDelay _ hstate => exact Or.inr (hslave hstate rfl hneeds)
  | requestPeerDelay => exact Or.inr (hsame rfl hneeds)
  | timeout heq => exact absurd heq (htimeout _)
  | recommended heq => exact absurd heq (hrecommend _ _)
  | age => exact Or.inr (hsame rfl hneeds)

end PortCore

/-! ### The steps of a port -/

namespace Slot

variable {A R C F T : Type} [Filter F] [AcceptableMasterList A] [Clock C] [Rng R]
  [ForwardedTLVProvider T] {p : Profile} {slot slot' : Slot A R C F} {e : PortEvent T}
  {actions : PortActionIterator}

/-- **The durations that a step asks for.** -/
theorem step_inTime (hrng : Rng.Open01 R) (h : slot.step p e = .ok (slot', actions))
    (hpending : slot.pendingAction.InTime slot.core.config) :
    actions.InTime slot.core.config ∧ slot'.pendingAction.InTime slot.core.config := by
  unfold Slot.step at h
  split at h
  · obtain ⟨port', s', rfl, hport⟩ := step_eventReceive (T := T) h
    exact ⟨Port.handleEventReceive_inTime hrng hport, PortActionIterator.inTime_empty⟩
  · obtain ⟨port', s', rfl, hport⟩ := step_generalReceive (T := T) h
    refine ⟨?_, PortActionIterator.inTime_empty⟩
    rcases Port.handleGeneralReceive_cases hport with ⟨-, -, -, rfl⟩ | ⟨message, -, hport⟩
    · exact PortActionIterator.inTime_empty
    · exact Port.handleGeneralInternal_inTime hrng hport
  · obtain ⟨⟨port, actions₁⟩, hport, h⟩ := bind_eq_ok.mp h
    obtain ⟨rfl, rfl⟩ := Prod.mk.inj (Except.ok.inj h)
    exact ⟨Port.handleSendTimestamp_inTime (orPanic_eq_ok.mp hport), PortActionIterator.inTime_empty⟩
  · obtain ⟨⟨port, provider, actions₁⟩, hport, h⟩ := bind_eq_ok.mp h
    obtain ⟨rfl, rfl⟩ := Prod.mk.inj (Except.ok.inj h)
    exact ⟨Port.sendAnnounce_inTime (orPanic_eq_ok.mp hport), PortActionIterator.inTime_empty⟩
  · obtain ⟨⟨port, actions₁⟩, hport, h⟩ := bind_eq_ok.mp h
    obtain ⟨rfl, rfl⟩ := Prod.mk.inj (Except.ok.inj h)
    exact ⟨Port.sendSync_inTime (orPanic_eq_ok.mp hport), PortActionIterator.inTime_empty⟩
  · obtain ⟨⟨port, actions₁⟩, hport, h⟩ := bind_eq_ok.mp h
    obtain ⟨rfl, rfl⟩ := Prod.mk.inj (Except.ok.inj h)
    exact ⟨Port.sendDelayRequest_inTime hrng (orPanic_eq_ok.mp hport),
      PortActionIterator.inTime_empty⟩
  · obtain ⟨⟨port, actions₁⟩, hport, h⟩ := bind_eq_ok.mp h
    obtain ⟨rfl, rfl⟩ := Prod.mk.inj (Except.ok.inj h)
    exact ⟨Port.handleAnnounceReceiptTimer_inTime hrng (orPanic_eq_ok.mp hport),
      PortActionIterator.inTime_empty⟩
  · obtain ⟨rfl, rfl⟩ := Prod.mk.inj (Except.ok.inj h)
    exact ⟨PortActionIterator.inTime_fromFilter _, PortActionIterator.inTime_empty⟩
  · obtain ⟨rfl, rfl⟩ := Prod.mk.inj (Except.ok.inj h)
    exact ⟨PortActionIterator.inTime_empty, PortActionIterator.inTime_empty⟩
  · obtain ⟨rfl, rfl⟩ := Prod.mk.inj (Except.ok.inj h)
    exact ⟨hpending, PortActionIterator.inTime_empty⟩
  · obtain ⟨port, hport, h⟩ := bind_eq_ok.mp h
    obtain ⟨rfl, rfl⟩ := Prod.mk.inj (Except.ok.inj h)
    obtain ⟨⟨best, bmca⟩, -, hport⟩ := bind_eq_ok.mp (orPanic_eq_ok.mp hport)
    obtain rfl := Except.ok.inj hport
    exact ⟨PortActionIterator.inTime_empty, hpending⟩
  · obtain ⟨⟨port, s⟩, hport, h⟩ := bind_eq_ok.mp h
    obtain ⟨rfl, rfl⟩ := Prod.mk.inj (Except.ok.inj h)
    exact ⟨PortActionIterator.inTime_empty,
      (Port.setRecommendedState_rearms hrng (orPanic_eq_ok.mp hport)).inTime hpending⟩
  · obtain ⟨port, hport, h⟩ := bind_eq_ok.mp h
    obtain ⟨rfl, rfl⟩ := Prod.mk.inj (Except.ok.inj h)
    obtain ⟨disable, -, hport⟩ := bind_eq_ok.mp (orPanic_eq_ok.mp hport)
    obtain ⟨bmca, -, hport⟩ := bind_eq_ok.mp hport
    obtain rfl := Except.ok.inj hport
    exact ⟨PortActionIterator.inTime_empty, hpending⟩
  · cases h

/-- The actions of the algorithm are with the port only while it runs. -/
theorem step_pendingAction (h : slot.step p e = .ok (slot', actions)) (he : e.decides = false) :
    slot'.pendingAction = .empty := by
  unfold Slot.step at h
  split at h
  · obtain ⟨port', s', rfl, -⟩ := step_eventReceive (T := T) h
    rfl
  · obtain ⟨port', s', rfl, -⟩ := step_generalReceive (T := T) h
    rfl
  case h_11 | h_12 | h_13 => cases he
  case h_14 => cases h
  case h_8 | h_9 | h_10 =>
    obtain ⟨rfl, -⟩ := Prod.mk.inj (Except.ok.inj h)
    rfl
  all_goals
    obtain ⟨_, -, h⟩ := bind_eq_ok.mp h
    obtain ⟨rfl, -⟩ := Prod.mk.inj (Except.ok.inj h)
    rfl

/-- The port asks for nothing while the algorithm runs. -/
theorem step_decides (h : slot.step p e = .ok (slot', actions))
    (he : e = .startBmca ∨ e.decides = true) : actions = .empty := by
  unfold Slot.step at h
  split at h
  case h_9 =>
    obtain ⟨-, rfl⟩ := Prod.mk.inj (Except.ok.inj h)
    rfl
  case h_11 | h_12 | h_13 =>
    obtain ⟨_, -, h⟩ := bind_eq_ok.mp h
    obtain ⟨-, rfl⟩ := Prod.mk.inj (Except.ok.inj h)
    rfl
  case h_14 => cases h
  all_goals rcases he with heq | heq <;> cases heq

/-- Whether the packet is an announce message for the foreign masters of a running port. -/
def hears (p : Profile) (s : PtpInstanceState) (slot : Slot A R C F) (data : List UInt8) : Bool :=
  match slot with
  | .running port => port.hears p s data
  | .inBmca _ => false

/-- The call brings such a packet. -/
def Hears (p : Profile) (slot : Slot A R C F) (e : PortEvent T) : Prop :=
  ∃ s data, (e = .generalReceive s data ∨ ∃ timestamp, e = .eventReceive s data timestamp) ∧
    slot.hears p s data = true

/-- **An announce message starts the wait for the next one.** -/
theorem step_resets_of_hears (hhears : slot.Hears p e) (h : slot.step p e = .ok (slot', actions)) :
    Resets actions.internal .portAnnounceTimeoutTimer := by
  obtain ⟨s, data, he, hhears⟩ := hhears
  cases slot with
  | inBmca port => cases hhears
  | running port =>
    obtain ⟨s₁, message, announce, hparse, hbody, hupdate, haccepts⟩ := Port.hears_iff.mp hhears
    rcases he with rfl | ⟨timestamp, rfl⟩
    · obtain ⟨port', s', rfl, hport⟩ := step_generalReceive (T := T) h
      rcases Port.handleGeneralReceive_cases hport with ⟨hnone, -⟩ | ⟨message', hparse', hport⟩
      · rw [hparse] at hnone
        cases hnone
      · obtain rfl := Option.some.inj (Except.ok.inj (hparse.symm.trans hparse'))
        exact Port.handleGeneralInternal_resets hbody hupdate haccepts hport
    · obtain ⟨port', s', rfl, hport⟩ := step_eventReceive (T := T) h
      rcases Port.handleEventReceive_cases hport with ⟨hnone, -⟩ | ⟨message', hparse', hport⟩
      · rw [hparse] at hnone
        cases hnone
      · obtain rfl := Option.some.inj (Except.ok.inj (hparse.symm.trans hparse'))
        unfold Port.handleEventMessage at hport
        rw [hbody] at hport
        exact Port.handleGeneralInternal_resets hbody hupdate haccepts hport

/-- The timer was needed before, has not expired, and is still asked for if it was. -/
structure StillNeeds (slot slot' : Slot A R C F) (e : PortEvent T) (actions : PortActionIterator)
    (name : TimerName) : Prop where
  needed : slot.core.portState.needs name = true
  waits : e.timer ≠ some name
  listening : slot.core.portState = .listening → slot'.core.portState = .listening
  asked : Resets slot.pendingAction.internal name →
    Resets actions.internal name ∨ Resets slot'.pendingAction.internal name

/-- **Which timers a port needs after a step**: those that are asked for, and those that it needed
before and that have not expired. -/
theorem step_rearms {name : TimerName} (hrng : Rng.Open01 R)
    (h : slot.step p e = .ok (slot', actions)) (hneeds : slot'.core.portState.needs name = true) :
    (slot.core.portState = .faulty ∧ slot'.core.portState = .listening) ∨
      Resets actions.internal name ∨ Resets slot'.pendingAction.internal name ∨
        slot.StillNeeds slot' e actions name := by
  have hcore := step_core h
  have hother : (∀ s, e ≠ .announceReceiptTimer s) → (∀ s state, e ≠ .recommend s state) →
      (slot.core.portState.needs name = true → e.timer ≠ some name ∨ Resets actions.internal name) →
      (Resets slot.pendingAction.internal name →
        Resets actions.internal name ∨ Resets slot'.pendingAction.internal name) →
      (slot.core.portState = .faulty ∧ slot'.core.portState = .listening) ∨
        Resets actions.internal name ∨ Resets slot'.pendingAction.internal name ∨
          slot.StillNeeds slot' e actions name := by
    intro htimeout hrecommend hwaits hasked
    rcases hcore.needs htimeout hrecommend hneeds with hrecovers | ⟨hneeded, hlistening⟩
    · exact Or.inl hrecovers
    · rcases hwaits hneeded with hwaits | hresets
      · exact Or.inr (Or.inr (Or.inr ⟨hneeded, hwaits, hlistening, hasked⟩))
      · exact Or.inr (Or.inl hresets)
  unfold Slot.step at h
  split at h
  · exact hother (fun _ heq => by cases heq) (fun _ _ heq => by cases heq)
      (fun _ => Or.inl fun heq => by cases heq) fun ⟨_, hmem, _⟩ => by cases hmem
  · exact hother (fun _ heq => by cases heq) (fun _ _ heq => by cases heq)
      (fun _ => Or.inl fun heq => by cases heq) fun ⟨_, hmem, _⟩ => by cases hmem
  · exact hother (fun _ heq => by cases heq) (fun _ _ heq => by cases heq)
      (fun _ => Or.inl fun heq => by cases heq) fun ⟨_, hmem, _⟩ => by cases hmem
  · -- the announce timer
    obtain ⟨⟨port', provider, actions₁⟩, hport, h⟩ := bind_eq_ok.mp h
    obtain ⟨rfl, rfl⟩ := Prod.mk.inj (Except.ok.inj h)
    refine hother (fun _ heq => by cases heq) (fun _ _ heq => by cases heq) (fun hneeded => ?_)
      fun ⟨_, hmem, _⟩ => by cases hmem
    by_cases hname : name = .portAnnounceTimer
    · subst hname
      exact Or.inr (Port.sendAnnounce_resets (orPanic_eq_ok.mp hport)
        (PortState.needs_portAnnounceTimer hneeded))
    · exact Or.inl fun heq => hname (Option.some.inj heq).symm
  · -- the sync timer
    obtain ⟨⟨port', actions₁⟩, hport, h⟩ := bind_eq_ok.mp h
    obtain ⟨rfl, rfl⟩ := Prod.mk.inj (Except.ok.inj h)
    refine hother (fun _ heq => by cases heq) (fun _ _ heq => by cases heq) (fun hneeded => ?_)
      fun ⟨_, hmem, _⟩ => by cases hmem
    by_cases hname : name = .portSyncTimer
    · subst hname
      exact Or.inr (Port.sendSync_resets (orPanic_eq_ok.mp hport)
        (PortState.needs_portSyncTimer hneeded))
    · exact Or.inl fun heq => hname (Option.some.inj heq).symm
  · -- the delay request timer
    obtain ⟨⟨port', actions₁⟩, hport, h⟩ := bind_eq_ok.mp h
    obtain ⟨rfl, rfl⟩ := Prod.mk.inj (Except.ok.inj h)
    refine hother (fun _ heq => by cases heq) (fun _ _ heq => by cases heq) (fun hneeded => ?_)
      fun ⟨_, hmem, _⟩ => by cases hmem
    by_cases hname : name = .delayRequestTimer
    · subst hname
      obtain ⟨state, hstate⟩ := PortState.needs_delayRequestTimer hneeded
      exact Or.inr (Port.sendDelayRequest_resets (orPanic_eq_ok.mp hport) hstate)
    · exact Or.inl fun heq => hname (Option.some.inj heq).symm
  · -- the announce receipt timer
    obtain ⟨⟨port', actions₁⟩, hport, h⟩ := bind_eq_ok.mp h
    obtain ⟨rfl, rfl⟩ := Prod.mk.inj (Except.ok.inj h)
    exact Or.inr (Or.inl (Port.handleAnnounceReceiptTimer_resets (orPanic_eq_ok.mp hport) hneeds))
  · obtain ⟨rfl, rfl⟩ := Prod.mk.inj (Except.ok.inj h)
    refine hother (fun _ heq => by cases heq) (fun _ _ heq => by cases heq) (fun hneeded => ?_)
      fun ⟨_, hmem, _⟩ => by cases hmem
    refine Or.inl fun heq => ?_
    rw [← Option.some.inj heq] at hneeded
    exact PortState.not_needs_filterUpdateTimer hneeded
  · obtain ⟨rfl, rfl⟩ := Prod.mk.inj (Except.ok.inj h)
    exact hother (fun _ heq => by cases heq) (fun _ _ heq => by cases heq)
      (fun _ => Or.inl fun heq => by cases heq) fun ⟨_, hmem, _⟩ => by cases hmem
  · obtain ⟨rfl, rfl⟩ := Prod.mk.inj (Except.ok.inj h)
    exact hother (fun _ heq => by cases heq) (fun _ _ heq => by cases heq)
      (fun _ => Or.inl fun heq => by cases heq) Or.inl
  · obtain ⟨port', hport, h⟩ := bind_eq_ok.mp h
    obtain ⟨rfl, rfl⟩ := Prod.mk.inj (Except.ok.inj h)
    obtain ⟨⟨best, bmca⟩, -, hport⟩ := bind_eq_ok.mp (orPanic_eq_ok.mp hport)
    obtain rfl := Except.ok.inj hport
    exact hother (fun _ heq => by cases heq) (fun _ _ heq => by cases heq)
      (fun _ => Or.inl fun heq => by cases heq) Or.inr
  · -- the recommended state
    obtain ⟨⟨port', s⟩, hport, h⟩ := bind_eq_ok.mp h
    obtain ⟨rfl, rfl⟩ := Prod.mk.inj (Except.ok.inj h)
    rcases (Port.setRecommendedState_rearms hrng (orPanic_eq_ok.mp hport)).needed with
      ⟨hstate, hpending⟩ | hasks
    · refine Or.inr (Or.inr (Or.inr ⟨?_, (fun heq => by cases heq), fun hlistening => ?_,
        fun hasked => Or.inr ?_⟩))
      · rw [← hneeds]
        exact congrArg (PortState.needs · name) hstate.symm
      · exact hstate.trans hlistening
      · rw [pendingAction, hpending]
        exact hasked
    · exact Or.inr (Or.inr (Or.inl (hasks name hneeds)))
  · obtain ⟨port', hport, h⟩ := bind_eq_ok.mp h
    obtain ⟨rfl, rfl⟩ := Prod.mk.inj (Except.ok.inj h)
    obtain ⟨disable, -, hport⟩ := bind_eq_ok.mp (orPanic_eq_ok.mp hport)
    obtain ⟨bmca, -, hport⟩ := bind_eq_ok.mp hport
    obtain rfl := Except.ok.inj hport
    exact hother (fun _ heq => by cases heq) (fun _ _ heq => by cases heq)
      (fun _ => Or.inl fun heq => by cases heq) Or.inr
  · cases h

omit [Clock C] in
/-- A new port waits for announce messages. -/
theorem Initial.resets {name : TimerName} {slot : Slot A R C F} (h : slot.Initial p)
    (hneeds : slot.core.portState.needs name = true) : Resets slot.pendingAction.internal name := by
  obtain ⟨config, filterConfig, clock, identity, rng, port, hnew, rfl⟩ := h
  obtain ⟨⟨duration, rng'⟩, -, hnew⟩ := bind_eq_ok.mp hnew
  obtain ⟨interval, -, hnew⟩ := bind_eq_ok.mp hnew
  obtain rfl := Except.ok.inj hnew
  cases name with
  | portAnnounceTimeoutTimer => exact ⟨_, List.mem_cons_self, _, rfl⟩
  | portSyncTimer | portAnnounceTimer | delayRequestTimer | filterUpdateTimer => cases hneeds

omit [Clock C] in
theorem Initial.inTime (hrng : Rng.Open01 R) {slot : Slot A R C F} (h : slot.Initial p) :
    slot.pendingAction.InTime slot.core.config := by
  obtain ⟨config, filterConfig, clock, identity, rng, port, hnew, rfl⟩ := h
  obtain ⟨⟨duration, rng'⟩, hduration, hnew⟩ := bind_eq_ok.mp hnew
  obtain ⟨interval, -, hnew⟩ := bind_eq_ok.mp hnew
  obtain rfl := Except.ok.inj hnew
  obtain ⟨hlow, hhigh⟩ := PortConfig.announceDuration_inTime hrng hduration
  exact PortActionIterator.inTime_of_reset rfl hhigh (fun _ => hlow) PortActionIterator.inTime_empty

end Slot

end Statime
