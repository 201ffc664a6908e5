import Statime.Port.SlaveArithmetic

/-!
# Overflow on the slave side

Corrections are signed and chosen by the sender, times are not negative, and the asymmetry and the mean
delay are any durations.  `StepFits` says of a port and an event what has to hold of the message, the
asymmetry and the mean delay; everything else fits because the stored times are in range.

* `Port.noOverflow_iff`: the handlers overflow nothing exactly when the step fits.
* `Slot.timesInRange_of_trace`: in a run of such steps the stored times are in range.
* `slave_arithmetic_iff`: no step of such a run overflows, and the next one does unless it fits.
* `early_follow_up_overflows`: a follow-up that does not fit.
-/

namespace Statime

open Rust Machine

variable {A R C F T : Type} [AcceptableMasterList A] [Clock C] [Filter F] [Rng R]
  [ForwardedTLVProvider T]

/-! ### What a debug build returns -/

namespace Port

section SameInDebug

omit [AcceptableMasterList A] [Rng R]

variable (port : Port Running A R C F) (header : Header)

omit [Filter F] [Clock C] in
theorem rawOffset_sameInDebug (a b : Time) (asymmetry : Duration) :
    SameInDebug fun p => rawOffset p a b asymmetry :=
  (Time.diff_sameInDebug a b).bind fun _ => Duration.sub_sameInDebug _ _

omit [Clock C] in
theorem extractSlaveMeasurement_sameInDebug (state : SlaveState) :
    SameInDebug fun p => port.extractSlaveMeasurement p state := by
  have hoffset : ∀ raw, SameInDebug fun p => syncOffset p raw port.meanDelay := by
    intro raw
    cases port.meanDelay with
    | none => exact sameInDebug_const _
    | some m => exact (Duration.sub_sameInDebug raw m).bind fun _ => sameInDebug_const _
  have hdelay : ∀ raw, SameInDebug fun p => linkDelay p raw state.lastRawSyncOffset := by
    intro raw
    cases state.lastRawSyncOffset with
    | none => exact sameInDebug_const _
    | some last =>
      exact (Duration.sub_sameInDebug last raw).bind fun _ =>
        (Duration.div_sameInDebug _ 2).bind fun _ => sameInDebug_const _
  unfold extractSlaveMeasurement
  split
  · exact (rawOffset_sameInDebug _ _ _).bind fun raw => (hoffset raw).bind fun _ =>
      sameInDebug_const _
  · split
    · exact (rawOffset_sameInDebug _ _ _).bind fun raw => (hdelay raw).bind fun _ =>
        sameInDebug_const _
    · exact sameInDebug_const _

theorem handleTimeMeasurement_sameInDebug : SameInDebug fun p => port.handleTimeMeasurement p := by
  refine SameInDebug.bind ?_ fun _ => sameInDebug_const _
  unfold extractMeasurement
  split
  · refine SameInDebug.bind ?_ fun _ => sameInDebug_const _
    exact (Time.diff_sameInDebug _ _).bind fun outer => (Time.diff_sameInDebug _ _).bind fun inner =>
      (Duration.sub_sameInDebug outer inner).bind fun twice => Duration.div_sameInDebug twice 2
  · split
    · exact port.extractSlaveMeasurement_sameInDebug _
    · exact sameInDebug_const _

theorem handleDelayTimestamp_sameInDebug (id : UInt16) (timestamp : Time) :
    SameInDebug fun p => port.handleDelayTimestamp p id timestamp := by
  unfold handleDelayTimestamp
  repeat' split
  all_goals first
    | exact handleTimeMeasurement_sameInDebug _
    | exact sameInDebug_const _

theorem handlePdelayTimestamp_sameInDebug (id : UInt16) (timestamp : Time) :
    SameInDebug fun p => port.handlePdelayTimestamp p id timestamp := by
  unfold handlePdelayTimestamp
  repeat' split
  all_goals first
    | exact handleTimeMeasurement_sameInDebug _
    | exact sameInDebug_const _

theorem handleSync_sameInDebug (message : SyncMessage) (timestamp : Time) :
    SameInDebug fun p => port.handleSync p header message timestamp := by
  unfold handleSync
  split
  · split
    · exact sameInDebug_const _
    · refine (Time.sub_sameInDebug _ _).bind fun arrived => ?_
      repeat' split
      all_goals first
        | exact handleTimeMeasurement_sameInDebug _
        | exact sameInDebug_const _
  · exact sameInDebug_const _

theorem handleFollowUp_sameInDebug (message : FollowUpMessage) :
    SameInDebug fun p => port.handleFollowUp p header message := by
  unfold handleFollowUp
  split
  · split
    · exact sameInDebug_const _
    · refine (Time.add_sameInDebug _ _).bind fun sent => ?_
      repeat' split
      all_goals first
        | exact handleTimeMeasurement_sameInDebug _
        | exact sameInDebug_const _
  · exact sameInDebug_const _

theorem handleDelayResp_sameInDebug (message : DelayRespMessage) :
    SameInDebug fun p => port.handleDelayResp p header message := by
  refine SameInDebug.bind ?_ fun stored => ?_
  · unfold storeDelayResp
    repeat' split
    all_goals first
      | exact (Time.sub_sameInDebug _ _).bind fun _ => sameInDebug_const _
      | exact sameInDebug_const _
  · cases stored with
    | none => exact sameInDebug_const _
    | some port' => exact port'.handleTimeMeasurement_sameInDebug

theorem handleAnswer_sameInDebug (requesting : PortIdentity) (lacks : PeerDelayState → Bool)
    {stored : Profile → Except Panic PeerDelayState} (hstored : SameInDebug stored) :
    SameInDebug fun p => port.handleAnswer p header requesting lacks (stored p) := by
  unfold handleAnswer
  repeat' split
  all_goals first
    | exact hstored.bind fun _ => handleTimeMeasurement_sameInDebug _
    | exact sameInDebug_const _

theorem handlePeerDelayResponse_sameInDebug (message : PDelayRespMessage) (timestamp : Time) :
    SameInDebug fun p => port.handlePeerDelayResponse p header message timestamp := by
  simp only [handlePeerDelayResponse_eq]
  refine port.handleAnswer_sameInDebug header _ _ ?_
  unfold storedResponse
  split
  · exact (Time.sub_sameInDebug _ _).bind fun _ => sameInDebug_const _
  · exact sameInDebug_const _

theorem handlePeerDelayResponseFollowUp_sameInDebug (message : PDelayRespFollowUpMessage) :
    SameInDebug fun p => port.handlePeerDelayResponseFollowUp p header message := by
  simp only [handlePeerDelayResponseFollowUp_eq]
  refine port.handleAnswer_sameInDebug header _ _ ?_
  unfold storedFollowUp
  split
  · exact (Time.add_sameInDebug _ _).bind fun _ => sameInDebug_const _
  · exact sameInDebug_const _

end SameInDebug

/-! ### One step -/

/-- **Nothing overflows** when the port gets the event: the handlers return in a debug build. -/
structure NoOverflow (port : Port Running A R C F) (e : PortEvent T) : Prop where
  sync : ∀ message body t, e.ReceivesAt message t → message.body = .sync body →
    ∃ r, port.handleSync .debug message.header body t = .ok r
  followUp : ∀ message body, e.Receives message → message.body = .followUp body →
    ∃ r, port.handleFollowUp .debug message.header body = .ok r
  delaySent : ∀ id t, e.DelayReqSent id t → ∃ r, port.handleDelayTimestamp .debug id t = .ok r
  delayResp : ∀ message body, e.Receives message → message.body = .delayResp body →
    ∃ r, port.handleDelayResp .debug message.header body = .ok r
  requestSent : ∀ id t, e.PDelayReqSent id t → ∃ r, port.handlePdelayTimestamp .debug id t = .ok r
  pDelayResp : ∀ message body t, e.ReceivesAt message t → message.body = .pDelayResp body →
    ∃ r, port.handlePeerDelayResponse .debug message.header body t = .ok r
  pDelayRespFollowUp : ∀ message body, e.Receives message →
    message.body = .pDelayRespFollowUp body →
    ∃ r, port.handlePeerDelayResponseFollowUp .debug message.header body = .ok r

/-- **The step fits**: the corrections do not move the times of the messages below zero, and the offset
or the delay that the event completes is a duration. -/
structure StepFits (port : Port Running A R C F) (e : PortEvent T) : Prop where
  sync : ∀ message body t state sendTime, e.ReceivesAt message t → message.body = .sync body →
    port.portState = .slave state → state.remoteMaster = message.header.sourcePortIdentity →
    state.syncState.sendTimeFor message.header body = some sendTime →
    port.SyncFits sendTime.toInt (t.toInt - message.header.correctionField.toInt * 2 ^ 16)
  followUp : ∀ message body state, e.Receives message → message.body = .followUp body →
    port.portState = .slave state → state.remoteMaster = message.header.sourcePortIdentity →
    0 ≤ (Time.ofWireTimestamp body.preciseOriginTimestamp).toInt +
      message.header.correctionField.toInt * 2 ^ 16 ∧
    ∀ recvTime, state.syncState = .measuring message.header.sequenceId none (some recvTime) →
      port.SyncFits ((Time.ofWireTimestamp body.preciseOriginTimestamp).toInt +
        message.header.correctionField.toInt * 2 ^ 16) recvTime.toInt
  delaySent : ∀ id t state recvTime, e.DelayReqSent id t → port.portState = .slave state →
    state.delayState = .measuring id none (some recvTime) →
    port.DelayFits state t.toInt recvTime.toInt
  delayResp : ∀ message body, e.Receives message → message.body = .delayResp body →
    port.core.AwaitsDelayResp message.header body.requestingPortIdentity →
    message.header.correctionField.toInt * 2 ^ 16 ≤
      (Time.ofWireTimestamp body.receiveTimestamp).toInt ∧
    ∀ state sendTime, port.portState = .slave state →
      state.delayState = .measuring message.header.sequenceId (some sendTime) none →
      port.DelayFits state sendTime.toInt ((Time.ofWireTimestamp body.receiveTimestamp).toInt -
        message.header.correctionField.toInt * 2 ^ 16)
  pDelayRespFollowUp : ∀ message body, e.Receives message →
    message.body = .pDelayRespFollowUp body →
    port.core.AwaitsAnswer message.header body.requestingPortIdentity
      PeerDelayState.lacksFollowUp →
    0 ≤ (Time.ofWireTimestamp body.responseOriginTimestamp).toInt +
      message.header.correctionField.toInt * 2 ^ 16

section Step

variable {port : Port Running A R C F} {e : PortEvent T} {message : Message}

omit [Rng R] [ForwardedTLVProvider T] in
theorem NoOverflow.stepFits (h : port.NoOverflow e) (hinc : port.core.Incomplete)
    (hr : port.core.TimesInRange) (he : e.LocalTimes) : port.StepFits e := by
  constructor
  case sync =>
    intro message body t state sendTime hm hbody hstate hmaster hsend
    have hrange := hm.inRange.body
    rw [hbody] at hrange
    exact (handleSync_isOk hinc hr hstate hrange (hm.isLocal he)).mp (h.sync _ _ _ hm hbody) hmaster
      sendTime hsend
  case followUp =>
    intro message body state hm hbody hstate hmaster
    have hrange := hm.inRange.body
    rw [hbody] at hrange
    exact (handleFollowUp_isOk hinc hr hstate hrange).mp (h.followUp _ _ hm hbody) hmaster
  case delaySent =>
    intro id t state recvTime hsent hstate hdelay
    exact (handleDelayTimestamp_isOk hinc hr hstate (hsent.isLocal he)).mp (h.delaySent _ _ hsent)
      recvTime hdelay
  case delayResp =>
    intro message body hm hbody
    have hrange := hm.inRange.body
    rw [hbody] at hrange
    exact (handleDelayResp_isOk hinc hr hrange).mp (h.delayResp _ _ hm hbody)
  case pDelayRespFollowUp =>
    intro message body hm hbody
    have hrange := hm.inRange.body
    rw [hbody] at hrange
    exact (handlePeerDelayResponseFollowUp_isOk hinc hr hrange).mp
      (h.pDelayRespFollowUp _ _ hm hbody)

omit [Rng R] [ForwardedTLVProvider T] in
theorem StepFits.noOverflow (h : port.StepFits e) (hinc : port.core.Incomplete)
    (hr : port.core.TimesInRange) (he : e.LocalTimes) : port.NoOverflow e := by
  constructor
  case sync =>
    intro message body t hm hbody
    have hrange := hm.inRange.body
    rw [hbody] at hrange
    cases hstate : port.portState with
    | slave state =>
      exact (handleSync_isOk hinc hr hstate hrange (hm.isLocal he)).mpr fun hmaster sendTime =>
        h.sync message body t state sendTime hm hbody hstate hmaster
    | _ => exact ⟨(port, .empty), by simp only [handleSync, hstate]⟩
  case followUp =>
    intro message body hm hbody
    have hrange := hm.inRange.body
    rw [hbody] at hrange
    cases hstate : port.portState with
    | slave state =>
      exact (handleFollowUp_isOk hinc hr hstate hrange).mpr fun hmaster =>
        h.followUp message body state hm hbody hstate hmaster
    | _ => exact ⟨(port, .empty), by simp only [handleFollowUp, hstate]⟩
  case delaySent =>
    intro id t hsent
    cases hstate : port.portState with
    | slave state =>
      exact (handleDelayTimestamp_isOk hinc hr hstate (hsent.isLocal he)).mpr fun recvTime =>
        h.delaySent id t state recvTime hsent hstate
    | _ => exact ⟨(port, .empty), by simp only [handleDelayTimestamp, hstate]⟩
  case delayResp =>
    intro message body hm hbody
    have hrange := hm.inRange.body
    rw [hbody] at hrange
    exact (handleDelayResp_isOk hinc hr hrange).mpr (h.delayResp message body hm hbody)
  case requestSent => exact fun id t hsent => handlePdelayTimestamp_isOk hinc hr id (hsent.isLocal he)
  case pDelayResp =>
    intro message body t hm hbody
    have hrange := hm.inRange.body
    rw [hbody] at hrange
    exact handlePeerDelayResponse_isOk hinc hr hrange (hm.isLocal he)
  case pDelayRespFollowUp =>
    intro message body hm hbody
    have hrange := hm.inRange.body
    rw [hbody] at hrange
    exact (handlePeerDelayResponseFollowUp_isOk hinc hr hrange).mpr
      (h.pDelayRespFollowUp message body hm hbody)

omit [Rng R] [Clock C] [ForwardedTLVProvider T] in
/-- An event without times fits. -/
theorem stepFits_of_withoutTimes (he : e.WithoutTimes) : port.StepFits e where
  sync _ _ _ _ _ hm hbody := absurd hm (he.not_receivesAt (by rw [hbody]; rfl))
  followUp _ _ _ hm hbody := absurd hm (he.not_receives (by rw [hbody]; rfl))
  delaySent _ _ _ _ hsent := absurd hsent (he.delayReqSent _ _)
  delayResp _ _ hm hbody := absurd hm (he.not_receives (by rw [hbody]; rfl))
  pDelayRespFollowUp _ _ hm hbody := absurd hm (he.not_receives (by rw [hbody]; rfl))

omit [Rng R] [ForwardedTLVProvider T] in
/-- **When nothing overflows**, in a port whose stored times are in range. -/
theorem noOverflow_iff (hinc : port.core.Incomplete) (hr : port.core.TimesInRange)
    (he : e.LocalTimes) : port.NoOverflow e ↔ port.StepFits e :=
  ⟨fun h => h.stepFits hinc hr he, fun h => h.noOverflow hinc hr he⟩

end Step

end Port

/-! ### Runs -/

namespace PortEvent

variable {e : PortEvent T} {message : Message}

omit [ForwardedTLVProvider T]

theorem withoutTimes_of_receives (hm : e.Receives message)
    (hbody : message.body.isOfExchange = false) : e.WithoutTimes := by
  refine ⟨fun message' hm' => hm.inj hm' ▸ hbody, ?_, ?_⟩
  all_goals
    rintro id t ⟨s, rfl⟩
    rcases hm with ⟨_, _, _, heq, -⟩ | ⟨_, _, heq, -⟩ <;> cases heq

end PortEvent

namespace Slot

variable {p : Profile} {slot slot' : Slot A R C F} {e : PortEvent T} {actions : PortActionIterator}
  {log : List (Transition (Slot A R C F) (PortEvent T))}

omit [AcceptableMasterList A] [Clock C] [Rng R] in
theorem ofHandler_debug {handler : Profile → Except Panic (Port Running A R C F × PortActionIterator)}
    (hsame : SameInDebug handler) (hok : ∃ r, handler .debug = .ok r) (p : Profile) :
    ofHandler (handler .debug) = ofHandler (handler p) := by
  obtain ⟨r, hr⟩ := hok
  rw [hr, hsame r hr p]

/-- The message of an exchange. -/
theorem step_receives_debug {port : Port Running A R C F} {message : Message}
    (h : port.NoOverflow e) (hm : e.Receives message) (hbody : message.body.isOfExchange = true)
    (p : Profile) : (Slot.running port).step .debug e = (Slot.running port).step p e := by
  cases hkind : message.body with
  | sync body =>
    rcases hm with ⟨t, hm⟩ | ⟨s, data, rfl, hparse⟩
    · rw [step_sync port hm hkind, step_sync port hm hkind]
      exact ofHandler_debug (port.handleSync_sameInDebug _ _ _) (h.sync _ _ _ hm hkind) p
    · rw [step_general_ignored port hparse (Or.inl ⟨body, hkind⟩),
        step_general_ignored port hparse (Or.inl ⟨body, hkind⟩)]
  | followUp body =>
    rw [step_followUp port hm hkind, step_followUp port hm hkind]
    exact ofHandler_debug (port.handleFollowUp_sameInDebug _ _) (h.followUp _ _ hm hkind) p
  | delayResp body =>
    rw [step_delayResp port hm hkind, step_delayResp port hm hkind]
    exact ofHandler_debug (port.handleDelayResp_sameInDebug _ _) (h.delayResp _ _ hm hkind) p
  | pDelayResp body =>
    rcases hm with ⟨t, hm⟩ | ⟨s, data, rfl, hparse⟩
    · rw [step_pDelayResp port hm hkind, step_pDelayResp port hm hkind]
      exact ofHandler_debug (port.handlePeerDelayResponse_sameInDebug _ _ _)
        (h.pDelayResp _ _ _ hm hkind) p
    · rw [step_general_ignored port hparse (Or.inr ⟨body, hkind⟩),
        step_general_ignored port hparse (Or.inr ⟨body, hkind⟩)]
  | pDelayRespFollowUp body =>
    rw [step_pDelayRespFollowUp port hm hkind, step_pDelayRespFollowUp port hm hkind]
    exact ofHandler_debug (port.handlePeerDelayResponseFollowUp_sameInDebug _ _)
      (h.pDelayRespFollowUp _ _ hm hkind) p
  | _ =>
    rw [hkind] at hbody
    cases hbody

omit [AcceptableMasterList A] [Clock C] [Rng R] in
theorem ofHandler_isOk {result : Except Panic (Port Running A R C F × PortActionIterator)}
    (h : ofHandler result = .ok (slot', actions)) : ∃ r, result = .ok r := by
  obtain ⟨port, hport, -⟩ := ofHandler_eq_ok.mp h
  exact ⟨_, hport⟩

/-- A step that a debug build makes overflows nothing. -/
theorem noOverflow_of_step {port : Port Running A R C F}
    (h : (Slot.running port).step .debug e = .ok (slot', actions)) : port.NoOverflow e where
  sync _ _ _ hm hbody := ofHandler_isOk ((step_sync port hm hbody).symm.trans h)
  followUp _ _ hm hbody := ofHandler_isOk ((step_followUp port hm hbody).symm.trans h)
  delaySent _ _ hsent := ofHandler_isOk ((step_delayTimestamp port hsent).symm.trans h)
  delayResp _ _ hm hbody := ofHandler_isOk ((step_delayResp port hm hbody).symm.trans h)
  requestSent _ _ hsent := ofHandler_isOk ((step_pdelayTimestamp port hsent).symm.trans h)
  pDelayResp _ _ _ hm hbody := ofHandler_isOk ((step_pDelayResp port hm hbody).symm.trans h)
  pDelayRespFollowUp _ _ hm hbody :=
    ofHandler_isOk ((step_pDelayRespFollowUp port hm hbody).symm.trans h)

/-- **A step that overflows nothing** is the step of a debug build, or brings no time. -/
theorem step_debug_or_withoutTimes (h : ∀ port, slot = .running port → port.NoOverflow e)
    (hstep : slot.step p e = .ok (slot', actions)) :
    slot.step .debug e = .ok (slot', actions) ∨ e.WithoutTimes := by
  by_cases hm : ∃ message, e.Receives message
  · obtain ⟨message, hm⟩ := hm
    cases hbody : message.body.isOfExchange with
    | true =>
      cases slot with
      | running port => exact Or.inl ((step_receives_debug (h port rfl) hm hbody p).trans hstep)
      | inBmca port =>
        rcases hm with ⟨_, _, _, rfl, -⟩ | ⟨_, _, rfl, -⟩ <;> cases hstep
    | false => exact Or.inr (PortEvent.withoutTimes_of_receives hm hbody)
  · by_cases hdelay : ∃ id t, e.DelayReqSent id t
    · obtain ⟨id, t, hsent⟩ := hdelay
      cases slot with
      | running port =>
        rw [step_delayTimestamp port hsent] at hstep ⊢
        rw [ofHandler_debug (port.handleDelayTimestamp_sameInDebug id t)
          ((h port rfl).delaySent id t hsent) p]
        exact Or.inl hstep
      | inBmca port =>
        obtain ⟨s, rfl⟩ := hsent
        cases hstep
    · by_cases hpdelay : ∃ id t, e.PDelayReqSent id t
      · obtain ⟨id, t, hsent⟩ := hpdelay
        cases slot with
        | running port =>
          rw [step_pdelayTimestamp port hsent] at hstep ⊢
          rw [ofHandler_debug (port.handlePdelayTimestamp_sameInDebug id t)
            ((h port rfl).requestSent id t hsent) p]
          exact Or.inl hstep
        | inBmca port =>
          obtain ⟨s, rfl⟩ := hsent
          cases hstep
      · exact Or.inr ⟨fun message hmessage => absurd ⟨message, hmessage⟩ hm,
          fun id t hsent => hdelay ⟨id, t, hsent⟩, fun id t hsent => hpdelay ⟨id, t, hsent⟩⟩

/-- The step of the run fits. -/
def FitsAt (t : Transition (Slot A R C F) (PortEvent T)) : Prop :=
  t.event.LocalTimes ∧ ∀ port, t.before = .running port → port.StepFits t.event

/-- **A step that fits** keeps the stored times in range. -/
theorem step_timesInRange (hinc : slot.core.Incomplete) (hr : slot.core.TimesInRange)
    (hfits : FitsAt ⟨slot, e, slot'⟩) (hstep : slot.step p e = .ok (slot', actions)) :
    slot'.core.TimesInRange := by
  have hnone : ∀ port, slot = .running port → port.NoOverflow e := by
    rintro port rfl
    exact (hfits.2 port rfl).noOverflow hinc hr hfits.1
  rcases step_debug_or_withoutTimes hnone hstep with hdebug | hwithout
  · exact (Slot.step_core hdebug).timesInRange hr hinc (PortCore.sourcesInRange hfits.1) (Or.inl rfl)
  · exact (Slot.step_core hstep).timesInRange hr hinc hwithout.sourcesInRange (Or.inr hwithout)

/-- **The stored times along a run** whose steps fit. -/
theorem timesInRange_of_trace (h : Trace (Slot.step p) (Slot.Initial p) log slot)
    (hfits : ∀ t ∈ log, FitsAt t) : slot.core.TimesInRange := by
  induction h with
  | init hinit =>
    obtain ⟨config, filterConfig, clock, identity, rng, port, hnew, rfl⟩ := hinit
    obtain ⟨⟨duration, rng'⟩, -, hnew⟩ := bind_eq_ok.mp hnew
    obtain ⟨interval, -, hnew⟩ := bind_eq_ok.mp hnew
    obtain rfl := Except.ok.inj hnew
    exact PortCore.timesInRange_new (fun state hstate => by cases hstate) rfl
  | step htrace hstep ih =>
    exact step_timesInRange (traced_of_trace htrace).2
      (ih fun t ht => hfits t (List.mem_append_left _ ht))
      (hfits _ (List.mem_append_right _ List.mem_cons_self)) hstep

/-- **The arithmetic of a slave.**  In a run of local times whose steps all fit, no step overflows; and
whatever the port that it reaches receives next, that overflows nothing exactly when it fits. -/
theorem slave_arithmetic_iff (h : Trace (Slot.step p) (Slot.Initial p) log slot)
    (hfits : ∀ t ∈ log, FitsAt t) :
    (∀ t ∈ log, ∀ port, t.before = .running port → port.NoOverflow t.event) ∧
      ∀ (port : Port Running A R C F) (e : PortEvent T), slot = .running port → e.LocalTimes →
        (port.NoOverflow e ↔ port.StepFits e) := by
  constructor
  · intro t ht port hport
    obtain ⟨earlier, later, rfl⟩ := List.append_of_mem ht
    obtain ⟨hearlier, -⟩ := h.split rfl
    have hr := timesInRange_of_trace hearlier fun t' ht' => hfits t' (List.mem_append_left _ ht')
    have hinc := (traced_of_trace hearlier).2
    rw [hport] at hr hinc
    obtain ⟨hlocal, hstep⟩ := hfits t ht
    exact (hstep port hport).noOverflow hinc hr hlocal
  · rintro port e rfl he
    exact Port.noOverflow_iff (traced_of_trace h).2 (timesInRange_of_trace h hfits) he

/-- A slave that received nothing yet. -/
def isNewSlave : TestSlot → Bool
  | running port =>
    decide (port.portState = .slave ⟨testParent, .empty, .empty, none⟩) &&
      decide (port.config.delayAsymmetry = ⟨⟨0⟩⟩) && port.meanDelay.isNone
  | inBmca _ => false

/-- Whether the run ends in such a slave. -/
def becomesSlave (log : List (Transition TestSlot (PortEvent NoForwardedTLVs))) : Bool :=
  log.getLast?.any fun t => isNewSlave t.after

/-- Nothing before that brings a time. -/
theorem becomeSlave_withoutTimes (e : PortEvent NoForwardedTLVs) (he : e ∈ receiveSync.take 2) :
    e.LocalTimes ∧ e.WithoutTimes := by
  rcases List.mem_cons.mp he with rfl | he
  · refine ⟨trivial, ⟨?_, ?_, ?_⟩⟩
    · rintro message (⟨_, _, _, heq, -⟩ | ⟨_, _, heq, -⟩) <;> cases heq
    all_goals
      rintro id t ⟨s, heq⟩
      cases heq
  · obtain rfl := List.mem_singleton.mp he
    refine ⟨trivial, ⟨?_, ?_, ?_⟩⟩
    · rintro message (⟨_, _, _, heq, -⟩ | ⟨_, _, heq, -⟩) <;> cases heq
    all_goals
      rintro id t ⟨s, heq⟩
      cases heq

/-- A one-step sync message that arrives at `t`. -/
def syncAt (t : Time) : PortEvent NoForwardedTLVs :=
  .eventReceive (testSystem testInstanceConfig).state
    (TestSlot.messageBytes 0 0 9 3 (List.replicate 10 0)) t

/-- It overflows nothing at the first local time. -/
theorem slave_arithmetic_first_sync :
    ∃ (log : List (Transition TestSlot (PortEvent NoForwardedTLVs)))
      (port : Port Running AcceptAnyMaster TestRng TestClock TestFilter),
      Trace (Slot.step .debug) (Slot.Initial .debug) log (.running port) ∧
      port.NoOverflow (syncAt (Time.ofNanos (2 ^ 47) 0)) := by
  have hrun : TestSlot.traces testPortConfig (receiveSync.take 2) becomesSlave = true := by
    decide +kernel
  have hparse : Port.parseAndFilter (testSystem testInstanceConfig).state
      (TestSlot.messageBytes 0 0 9 3 (List.replicate 10 0)) =
        .ok (some (TestSlot.message false 9 3 (.sync ⟨default⟩))) := by
    decide +kernel
  obtain ⟨log, slot, htrace, hevents, hcheck⟩ := TestSlot.exists_trace hrun
  obtain ⟨t, hlast, hslave⟩ := (Option.any_eq_true _ _).mp hcheck
  rw [htrace.after_getLast? hlast] at hslave
  have hfits : ∀ t ∈ log, FitsAt t := by
    intro t ht
    have hevent : t.event ∈ receiveSync.take 2 := hevents ▸ List.mem_map_of_mem ht
    obtain ⟨hlocal, hwithout⟩ := becomeSlave_withoutTimes t.event hevent
    exact ⟨hlocal, fun port _ => Port.stepFits_of_withoutTimes hwithout⟩
  cases slot with
  | inBmca port => cases hslave
  | running port =>
    rw [isNewSlave, Bool.and_eq_true, Bool.and_eq_true, decide_eq_true_eq, decide_eq_true_eq,
      Option.isNone_iff_eq_none] at hslave
    obtain ⟨⟨hstate, hasymmetry⟩, hdelay⟩ := hslave
    have hm : (syncAt (Time.ofNanos (2 ^ 47) 0)).ReceivesAt (TestSlot.message false 9 3 (.sync ⟨default⟩))
        (Time.ofNanos (2 ^ 47) 0) :=
      ⟨_, _, rfl, hparse⟩
    refine ⟨log, port, htrace, ((slave_arithmetic_iff htrace hfits).2 port _ rfl ?_).mpr ?_⟩
    · unfold syncAt PortEvent.LocalTimes Time.IsLocal
      decide +kernel
    · have hsame : ∀ message, (syncAt (Time.ofNanos (2 ^ 47) 0)).Receives message →
          message = TestSlot.message false 9 3 (.sync ⟨default⟩) :=
        fun message hm' => PortEvent.Receives.inj hm' (Or.inl ⟨_, hm⟩)
      constructor
      case sync =>
        intro message body t state sendTime hm' hbody hstate' hmaster hsend
        obtain rfl := hsame message (Or.inl ⟨t, hm'⟩)
        obtain ⟨_, _, heq, -⟩ := hm'
        obtain ⟨-, -, rfl⟩ := PortEvent.eventReceive.inj heq
        obtain rfl := MessageBody.sync.inj hbody
        obtain rfl := PortState.slave.inj (hstate.symm.trans hstate')
        obtain rfl := Option.some.inj hsend
        refine ⟨?_, fun m hm => by rw [hdelay] at hm; cases hm⟩
        rw [hasymmetry]
        unfold DiffFits
        decide +kernel
      case delaySent =>
        rintro id t state recvTime ⟨_, heq⟩
        cases heq
      case followUp =>
        intro message body state hm' hbody
        obtain rfl := hsame message hm'
        cases hbody
      all_goals
        intro message body hm' hbody
        obtain rfl := hsame message hm'
        cases hbody

/-- A follow-up that says that the sync message was sent at time zero, less `2^-16` nanoseconds. -/
def earlyFollowUp : List UInt8 :=
  let bytes := TestSlot.messageBytes 8 0 9 3 (List.replicate 10 0)
  bytes.take 8 ++ List.replicate 8 0xff ++ bytes.drop 16

/-- Whether a slave overflows on it. -/
def overflowsOnEarly : TestSlot → Bool
  | running port =>
    match Port.parseAndFilter (testSystem testInstanceConfig).state earlyFollowUp with
    | .ok (some message) =>
      match message.body with
      | .followUp body => raises .overflow (port.handleFollowUp .debug message.header body)
      | _ => false
    | _ => false
  | inBmca _ => false

/-- **A follow-up that overflows**: any master can send it. -/
theorem early_follow_up_overflows :
    ∃ (port : Port Running AcceptAnyMaster TestRng TestClock TestFilter) (message : Message)
      (body : FollowUpMessage) (e : PortEvent NoForwardedTLVs),
      Slot.Reachable NoForwardedTLVs .debug (.running port) ∧ e.LocalTimes ∧ e.Receives message ∧
      message.body = .followUp body ∧
      port.handleFollowUp .debug message.header body = .error .overflow ∧ ¬ port.NoOverflow e := by
  have hrun : TestSlot.endsWith testPortConfig (receiveSync.take 2) overflowsOnEarly = true := by
    decide +kernel
  obtain ⟨slot, hreach, hcheck⟩ := TestSlot.reachable_of_endsWith hrun
  cases slot with
  | inBmca port => cases hcheck
  | running port =>
    simp only [overflowsOnEarly] at hcheck
    split at hcheck
    · rename_i message hparse
      split at hcheck
      · rename_i body hbody
        have hm : (.generalReceive (testSystem testInstanceConfig).state earlyFollowUp :
          PortEvent NoForwardedTLVs).Receives message := Or.inr ⟨_, _, rfl, hparse⟩
        have herror := eq_error_of_raises hcheck
        refine ⟨port, message, body, .generalReceive _ _, hreach, trivial, hm, hbody, herror, fun h => ?_⟩
        obtain ⟨r, hr⟩ := h.followUp message body hm hbody
        cases herror.symm.trans hr
      · cases hcheck
    · cases hcheck

end Slot

end Statime
