import Statime.Port.Duplicates
import Statime.Port.PeerDelay
import Statime.Port.TimeRanges

/-!
# The arithmetic of a slave

When do the handlers of a slave return in a debug build?  The stored times are in range, so what is left
are the corrections of the messages and the offset or delay that is measured.

* `Port.SyncFits`, `Port.DelayFits`: the offset and the delay of an exchange are durations.
* `Port.handleSync_isOk`, `Port.handleFollowUp_isOk`, `Port.handleDelayResp_isOk`,
  `Port.handleDelayTimestamp_isOk`: the handlers of the end-to-end exchanges.
* `Port.handlePdelayTimestamp_isOk`, `Port.handlePeerDelayResponse_isOk`,
  `Port.handlePeerDelayResponseFollowUp_isOk`: those of a peer delay exchange.
-/

namespace Statime

open Rust Machine

variable {A R C F T : Type} [AcceptableMasterList A] [Clock C] [Filter F] [Rng R]
  [ForwardedTLVProvider T]

/-! ### Differences of durations -/

/-- A number minus a duration, when neither the negation nor the sum overflows. -/
def DiffFits (x : Int) (d : Duration) : Prop :=
  -2 ^ 127 < d.toInt ∧ -2 ^ 127 ≤ x - d.toInt ∧ x - d.toInt < 2 ^ 127

theorem exists_bind_eq_ok {ε α β : Type} {x : Except ε α} {f : α → Except ε β} :
    (∃ r, x >>= f = .ok r) ↔ ∃ a, x = .ok a ∧ ∃ r, f a = .ok r := by
  constructor
  · rintro ⟨r, h⟩
    obtain ⟨a, ha, hr⟩ := bind_eq_ok.mp h
    exact ⟨a, ha, r, hr⟩
  · rintro ⟨a, ha, r, hr⟩
    exact ⟨r, bind_eq_ok.mpr ⟨a, ha, hr⟩⟩

theorem Duration.sub_debug_isOk {a b : Duration} :
    (∃ r, a.sub .debug b = .ok r) ↔ DiffFits a.toInt b := by
  constructor
  · rintro ⟨r, h⟩
    have hrange := r.toInt_range
    rw [Duration.sub_debug h] at hrange
    obtain ⟨n, hn, -⟩ := bind_eq_ok.mp h
    obtain ⟨v, hv, -⟩ := bind_eq_ok.mp hn
    have hneg : -2 ^ 127 ≤ -b.toInt ∧ -b.toInt < 2 ^ 127 :=
      of_decide_eq_true (IFixed.fits_of_wrap_debug hv)
    exact ⟨by omega, hrange⟩
  · exact fun h => Duration.sub_ok .debug fun _ => h

/-- The send time with which a sync message completes its exchange. -/
def SyncState.sendTimeFor (header : Header) (message : SyncMessage) (state : SyncState) :
    Option Time :=
  if header.twoStepFlag then
    match state with
    | .measuring id (some sendTime) none =>
      if id = header.sequenceId then some sendTime else none
    | _ => none
  else if state.isMeasuring header.sequenceId then none
  else some (Time.ofWireTimestamp message.originTimestamp)

namespace Port

theorem rawOffset_debug {a b : Time} {asymmetry raw : Duration}
    (h : rawOffset .debug a b asymmetry = .ok raw) :
    raw.toInt = a.toInt - b.toInt - asymmetry.toInt := by
  obtain ⟨offset, hoffset, h⟩ := bind_eq_ok.mp h
  rw [Duration.sub_debug h, Time.diff_debug hoffset]

theorem rawOffset_isOk {a b : Time} (ha : a.toInt < 2 ^ 127) (hb : b.toInt < 2 ^ 127)
    (asymmetry : Duration) :
    (∃ raw, rawOffset .debug a b asymmetry = .ok raw) ↔ DiffFits (a.toInt - b.toInt) asymmetry := by
  obtain ⟨offset, hoffset⟩ := Time.diff_ok .debug (a := a) (b := b) fun _ => ⟨ha, hb⟩
  rw [rawOffset, hoffset, ok_bind, Duration.sub_debug_isOk, Time.diff_debug hoffset]

theorem syncOffset_isOk (raw : Duration) (meanDelay : Option Duration) :
    (∃ offset, syncOffset .debug raw meanDelay = .ok offset) ↔
      ∀ m, meanDelay = some m → DiffFits raw.toInt m := by
  cases meanDelay with
  | none => exact ⟨fun _ m hm => (nomatch hm), fun _ => ⟨none, rfl⟩⟩
  | some m =>
    rw [syncOffset, exists_bind_eq_ok]
    constructor
    · rintro ⟨offset, hoffset, -⟩ m' hm
      obtain rfl := Option.some.inj hm
      exact Duration.sub_debug_isOk.mp ⟨offset, hoffset⟩
    · intro h
      obtain ⟨offset, hoffset⟩ := Duration.sub_debug_isOk.mpr (h m rfl)
      exact ⟨offset, hoffset, some offset, rfl⟩

theorem linkDelay_isOk (raw : Duration) (lastRawSyncOffset : Option Duration) :
    (∃ delay, linkDelay .debug raw lastRawSyncOffset = .ok delay) ↔
      ∀ last, lastRawSyncOffset = some last → DiffFits last.toInt raw := by
  cases lastRawSyncOffset with
  | none => exact ⟨fun _ m hm => (nomatch hm), fun _ => ⟨none, rfl⟩⟩
  | some last =>
    rw [linkDelay, exists_bind_eq_ok]
    constructor
    · rintro ⟨twice, htwice, -⟩ last' hlast
      obtain rfl := Option.some.inj hlast
      exact Duration.sub_debug_isOk.mp ⟨twice, htwice⟩
    · intro h
      obtain ⟨twice, htwice⟩ := Duration.sub_debug_isOk.mpr (h last rfl)
      obtain ⟨delay, hdelay, -⟩ := Duration.div_two .debug twice
      exact ⟨twice, htwice, some delay, by rw [hdelay]; rfl⟩

/-! ### Measurements -/

/-- The offset of a sync exchange fits. -/
structure SyncFits (port : Port Running A R C F) (sendTime recvTime : Int) : Prop where
  raw : DiffFits (recvTime - sendTime) port.config.delayAsymmetry
  offset : ∀ m, port.meanDelay = some m →
    DiffFits (recvTime - sendTime - port.config.delayAsymmetry.toInt) m

/-- The delay of a delay exchange fits. -/
structure DelayFits (port : Port Running A R C F) (state : SlaveState) (sendTime recvTime : Int) :
    Prop where
  raw : DiffFits (sendTime - recvTime) port.config.delayAsymmetry
  delay : state.lastRawSyncOffset ≠ none →
    -2 ^ 127 < sendTime - recvTime - port.config.delayAsymmetry.toInt

section Measure

variable {p : Profile} {port : Port Running A R C F} {state : SlaveState} {id : UInt16}
  {sendTime recvTime : Time}

omit [AcceptableMasterList A] [Rng R] in
theorem handleTimeMeasurement_isOk :
    (∃ r, port.handleTimeMeasurement p = .ok r) ↔ ∃ r, port.extractMeasurement p = .ok r := by
  rw [handleTimeMeasurement, exists_bind_eq_ok]
  constructor
  · rintro ⟨r, hr, -⟩
    exact ⟨r, hr⟩
  · rintro ⟨⟨m, port'⟩, hr⟩
    refine ⟨_, hr, ?_⟩
    cases m with
    | none => exact ⟨_, rfl⟩
    | some m => exact ⟨_, rfl⟩

omit [AcceptableMasterList A] [Rng R] in
theorem extractMeasurement_slave (hpeer : port.peerDelayState.completed = none)
    (state : SlaveState) :
    (port.withSlaveState state).extractMeasurement p =
      (port.withSlaveState state).extractSlaveMeasurement p state := by
  unfold extractMeasurement
  split
  · rename_i hcomplete
    rw [show port.peerDelayState = _ from hcomplete] at hpeer
    cases hpeer
  · rfl

omit [AcceptableMasterList A] [Rng R] in
/-- **A complete sync exchange** is measured when its offset fits. -/
theorem measureSync_isOk (hpeer : port.peerDelayState.completed = none)
    (hsend : sendTime.toInt < 2 ^ 127) (hrecv : recvTime.toInt < 2 ^ 127) :
    (∃ r, (port.withSlaveState { state with
      syncState := .measuring id (some sendTime) (some recvTime) }).handleTimeMeasurement .debug =
        .ok r) ↔ port.SyncFits sendTime.toInt recvTime.toInt := by
  rw [handleTimeMeasurement_isOk, extractMeasurement_slave hpeer, extractSlaveMeasurement]
  dsimp only
  rw [exists_bind_eq_ok]
  constructor
  · rintro ⟨raw, hraw, hrest⟩
    obtain ⟨offset, hoffset, -⟩ := exists_bind_eq_ok.mp hrest
    have hfits := (syncOffset_isOk raw _).mp ⟨offset, hoffset⟩
    rw [rawOffset_debug hraw] at hfits
    exact ⟨(rawOffset_isOk hrecv hsend _).mp ⟨raw, hraw⟩, hfits⟩
  · intro h
    obtain ⟨raw, hraw⟩ := (rawOffset_isOk hrecv hsend _).mpr h.raw
    obtain ⟨offset, hoffset⟩ := (syncOffset_isOk raw port.meanDelay).mpr (by
      rw [rawOffset_debug hraw]
      exact h.offset)
    exact ⟨raw, hraw, exists_bind_eq_ok.mpr ⟨offset, hoffset, _, rfl⟩⟩

omit [AcceptableMasterList A] [Rng R] in
/-- **A complete delay exchange** is measured when its delay fits: the last raw offset cannot be too far
away. -/
theorem measureDelay_isOk (hpeer : port.peerDelayState.completed = none)
    (hsync : state.syncState.completed = none) (hsend : sendTime.NearLocal)
    (hrecv : recvTime.FromWire)
    (hlast : ∀ raw, state.lastRawSyncOffset = some raw →
      PortCore.RawSyncInRange port.config.delayAsymmetry raw) :
    (∃ r, (port.withSlaveState { state with
      delayState := .measuring id (some sendTime) (some recvTime) }).handleTimeMeasurement .debug =
        .ok r) ↔ port.DelayFits state sendTime.toInt recvTime.toInt := by
  have hsend0 := sendTime.toInt_range
  have hrecv0 := recvTime.toInt_range
  unfold Time.NearLocal at hsend
  unfold Time.FromWire at hrecv
  have hextract : (port.withSlaveState { state with
      delayState := .measuring id (some sendTime) (some recvTime) }).extractSlaveMeasurement .debug
        { state with delayState := .measuring id (some sendTime) (some recvTime) } = do
      let rawDelayOffset ← rawOffset .debug sendTime recvTime port.config.delayAsymmetry
      let delay ← linkDelay .debug rawDelayOffset state.lastRawSyncOffset
      return (some { eventTime := sendTime, rawDelayOffset := some rawDelayOffset, delay },
        port.withSlaveState { state with delayState := .empty }) := by
    unfold extractSlaveMeasurement
    dsimp only
    split
    · rename_i hcomplete
      rw [hcomplete] at hsync
      cases hsync
    · rfl
  rw [handleTimeMeasurement_isOk, extractMeasurement_slave hpeer, hextract, exists_bind_eq_ok]
  constructor
  · rintro ⟨raw, hraw, hrest⟩
    obtain ⟨delay, hdelay, -⟩ := exists_bind_eq_ok.mp hrest
    have hfits := (linkDelay_isOk raw _).mp ⟨delay, hdelay⟩
    refine ⟨(rawOffset_isOk (by omega) (by omega) _).mp ⟨raw, hraw⟩, fun hsome => ?_⟩
    obtain ⟨last, hlast⟩ := Option.ne_none_iff_exists'.mp hsome
    have hneg := (hfits last hlast).1
    rw [rawOffset_debug hraw] at hneg
    exact hneg
  · intro h
    obtain ⟨raw, hraw⟩ := (rawOffset_isOk (by omega) (by omega) _).mpr h.raw
    have hint := rawOffset_debug hraw
    obtain ⟨delay, hdelay⟩ := (linkDelay_isOk raw state.lastRawSyncOffset).mpr (by
      intro last hsome
      obtain ⟨s, r, hs, hr, hlastInt⟩ := hlast last hsome
      have hneg := h.delay (by rw [hsome]; simp)
      have hs0 := s.toInt_range
      have hr0 := r.toInt_range
      unfold Time.FromWire at hs
      unfold Time.NearLocal at hr
      unfold DiffFits
      omega)
    exact ⟨raw, hraw, exists_bind_eq_ok.mpr ⟨delay, hdelay, _, rfl⟩⟩

omit [Rng R] in
/-- **A peer delay exchange** never overflows. -/
theorem measurePeer_isOk (hinc : port.core.Incomplete) {exchange : PeerDelayState}
    (htimes : exchange.TimesInRange) :
    ∃ r, (port.withPeerDelayState exchange).handleTimeMeasurement .debug = .ok r := by
  cases hcompleted : exchange.completed with
  | none => exact ⟨_, handleTimeMeasurement_idle .debug (hinc.withPeerDelay hcompleted)⟩
  | some completed =>
    obtain ⟨id, responder, times⟩ := completed
    obtain ⟨h1, h2, h3, h4⟩ := htimes.completed hcompleted
    have h10 := times.requestSendTime.toInt_range
    have h20 := times.requestRecvTime.toInt_range
    have h30 := times.responseSendTime.toInt_range
    have h40 := times.responseRecvTime.toInt_range
    unfold Time.NearLocal at h1 h4
    unfold Time.FromWire at h2 h3
    obtain ⟨delay, hpeer⟩ := peerDelay_ok .debug times.requestSendTime
      times.requestRecvTime times.responseSendTime times.responseRecvTime (by omega) (by omega)
      fun _ => by
        unfold roundTrip
        omega
    rw [handleTimeMeasurement_isOk, extractMeasurement]
    unfold PeerDelayState.completed at hcompleted
    split at hcompleted
    · obtain ⟨rfl, rfl, rfl⟩ : _ ∧ _ ∧ _ := by simpa using hcompleted
      dsimp only [withPeerDelayState]
      rw [hpeer]
      exact ⟨_, rfl⟩
    · cases hcompleted

end Measure

/-! ### The handlers -/

section Handlers

variable {port : Port Running A R C F} {state : SlaveState} {header : Header} {t : Time}

section Sync

variable {message : SyncMessage} {arrived : Time}

omit [Rng R] in
/-- A two-step sync message completes an exchange whose follow-up came first. -/
theorem handleSync_twoStep_isOk (hinc : port.core.Incomplete) (hr : port.core.TimesInRange)
    (hstate : port.portState = .slave state)
    (hmaster : state.remoteMaster = header.sourcePortIdentity) (htwo : header.twoStepFlag = true)
    (harrived : t.sub .debug (Duration.ofTimeInterval header.correctionField) = .ok arrived)
    (hlt : arrived.toInt < 2 ^ 127) :
    (∃ r, port.handleSync .debug header message t = .ok r) ↔
      ∀ sendTime, state.syncState.sendTimeFor header message = some sendTime →
        port.SyncFits sendTime.toInt arrived.toInt := by
  unfold handleSync SyncState.sendTimeFor
  simp only [hstate]
  rw [if_neg (not_not.mpr hmaster), harrived, ok_bind, if_pos htwo, if_pos htwo]
  cases hsync : state.syncState with
  | empty => exact iff_of_true ⟨_, rfl⟩ fun s hs => by cases hs
  | measuring id sendTime recvTime =>
    dsimp only
    by_cases hid : id = header.sequenceId
    · rw [if_pos hid]
      cases recvTime with
      | some r => exact iff_of_true ⟨_, rfl⟩ fun s hs => by cases sendTime <;> cases hs
      | none =>
        rw [if_neg (by simp)]
        cases sendTime with
        | none =>
          refine iff_of_true ⟨_, handleTimeMeasurement_idle .debug ?_⟩ fun s hs => by cases hs
          exact hinc.withSync hstate rfl
        | some s =>
          have hs := hr.syncSent state id s none hstate hsync
          rw [measureSync_isOk hinc.peer (by unfold Time.FromWire at hs; omega) hlt]
          dsimp only
          rw [if_pos hid]
          exact ⟨fun h s' hs' => Option.some.inj hs' ▸ h, fun h => h s rfl⟩
    · rw [if_neg hid]
      refine iff_of_true ⟨_, rfl⟩ fun s hs => ?_
      split at hs
      · rw [if_neg (by simp_all)] at hs
        cases hs
      · cases hs

omit [Rng R] in
/-- A one-step sync message is an exchange of its own. -/
theorem handleSync_oneStep_isOk (hinc : port.core.Incomplete)
    (hstate : port.portState = .slave state)
    (hmaster : state.remoteMaster = header.sourcePortIdentity) (hone : header.twoStepFlag = false)
    (hrange : message.originTimestamp.InRange)
    (harrived : t.sub .debug (Duration.ofTimeInterval header.correctionField) = .ok arrived)
    (hlt : arrived.toInt < 2 ^ 127) :
    (∃ r, port.handleSync .debug header message t = .ok r) ↔
      ∀ sendTime, state.syncState.sendTimeFor header message = some sendTime →
        port.SyncFits sendTime.toInt arrived.toInt := by
  have hwire := Time.fromWire_ofWireTimestamp hrange
  have hcomplete : (∃ r, (port.withSlaveState { state with
      syncState := .measuring header.sequenceId
        (some (Time.ofWireTimestamp message.originTimestamp))
          (some arrived) }).handleTimeMeasurement .debug = .ok r) ↔
      ∀ sendTime, some (Time.ofWireTimestamp message.originTimestamp) = some sendTime →
        port.SyncFits sendTime.toInt arrived.toInt := by
    rw [measureSync_isOk hinc.peer (by unfold Time.FromWire at hwire; omega) hlt]
    exact ⟨fun h s hs => Option.some.inj hs ▸ h, fun h => h _ rfl⟩
  unfold handleSync SyncState.sendTimeFor
  simp only [hstate]
  rw [if_neg (not_not.mpr hmaster), harrived, ok_bind, if_neg (by simp [hone]),
    if_neg (by simp [hone])]
  cases hsync : state.syncState with
  | empty => exact hcomplete
  | measuring id sendTime recvTime =>
    dsimp only
    by_cases hid : id = header.sequenceId
    · rw [if_pos hid, SyncState.isMeasuring, if_pos (decide_eq_true hid)]
      exact iff_of_true ⟨_, rfl⟩ fun s hs => by cases hs
    · rw [if_neg hid, SyncState.isMeasuring, if_neg (by simpa using hid)]
      exact hcomplete

omit [Rng R] in
/-- **A sync message.** -/
theorem handleSync_isOk (hinc : port.core.Incomplete) (hr : port.core.TimesInRange)
    (hstate : port.portState = .slave state) (hrange : message.originTimestamp.InRange)
    (ht : t.IsLocal) :
    (∃ r, port.handleSync .debug header message t = .ok r) ↔
      (state.remoteMaster = header.sourcePortIdentity →
        ∀ sendTime, state.syncState.sendTimeFor header message = some sendTime →
          port.SyncFits sendTime.toInt (t.toInt - header.correctionField.toInt * 2 ^ 16)) := by
  obtain ⟨arrived, harrived⟩ := Time.sub_correction ht header.correctionField
  have hint := Time.sub_debug harrived
  rw [Duration.toInt_ofTimeInterval] at hint
  have hnear := Time.nearLocal_of_sub ht harrived
  have hlt : arrived.toInt < 2 ^ 127 := by
    unfold Time.NearLocal at hnear
    omega
  rw [← hint]
  by_cases hmaster : state.remoteMaster = header.sourcePortIdentity
  · rw [forall_prop_of_true hmaster]
    cases htwo : header.twoStepFlag with
    | true => exact handleSync_twoStep_isOk hinc hr hstate hmaster htwo harrived hlt
    | false => exact handleSync_oneStep_isOk hinc hstate hmaster htwo hrange harrived hlt
  · refine iff_of_true ?_ fun h => absurd h hmaster
    unfold handleSync
    simp only [hstate]
    rw [if_pos hmaster]
    exact ⟨_, rfl⟩

end Sync

omit [Rng R] in
/-- **A follow-up.** -/
theorem handleFollowUp_isOk (hinc : port.core.Incomplete) (hr : port.core.TimesInRange)
    (hstate : port.portState = .slave state) {message : FollowUpMessage}
    (hrange : message.preciseOriginTimestamp.InRange) :
    (∃ r, port.handleFollowUp .debug header message = .ok r) ↔
      (state.remoteMaster = header.sourcePortIdentity →
        0 ≤ (Time.ofWireTimestamp message.preciseOriginTimestamp).toInt +
          header.correctionField.toInt * 2 ^ 16 ∧
        ∀ recvTime, state.syncState = .measuring header.sequenceId none (some recvTime) →
          port.SyncFits ((Time.ofWireTimestamp message.preciseOriginTimestamp).toInt +
            header.correctionField.toInt * 2 ^ 16) recvTime.toInt) := by
  rw [← Time.add_correction_isOk hrange]
  unfold handleFollowUp
  simp only [hstate]
  by_cases hmaster : state.remoteMaster = header.sourcePortIdentity
  · rw [if_neg (not_not.mpr hmaster)]
    cases hsent : (Time.ofWireTimestamp message.preciseOriginTimestamp).add .debug
      (Duration.ofTimeInterval header.correctionField) with
    | error why =>
      refine iff_of_false (fun ⟨r, hr⟩ => by cases hr) fun h => ?_
      obtain ⟨r, hr⟩ := (h hmaster).1
      cases hr
    | ok sent =>
      have hint := Time.add_debug hsent
      have hwire := Time.fromWire_of_add hrange hsent
      rw [Duration.toInt_ofTimeInterval] at hint
      unfold Time.FromWire at hwire
      rw [ok_bind, ← hint]
      have hfresh : ∃ r, (port.withSlaveState { state with
          syncState := .measuring header.sequenceId (some sent) none }).handleTimeMeasurement .debug =
            .ok r := ⟨_, handleTimeMeasurement_idle .debug (hinc.withSync hstate rfl)⟩
      cases hsync : state.syncState with
      | empty => exact iff_of_true hfresh fun _ => ⟨⟨_, rfl⟩, fun _ h => (nomatch h)⟩
      | measuring id sendTime recvTime =>
        dsimp only
        by_cases hid : id = header.sequenceId
        · rw [if_pos hid]
          subst hid
          cases sendTime with
          | some s => exact iff_of_true ⟨_, rfl⟩ fun _ => ⟨⟨_, rfl⟩, fun _ h => (nomatch h)⟩
          | none =>
            rw [if_neg (by simp)]
            cases recvTime with
            | none => exact iff_of_true hfresh fun _ => ⟨⟨_, rfl⟩, fun _ h => (nomatch h)⟩
            | some r =>
              have hnear := hr.syncReceived state header.sequenceId none r hstate hsync
              rw [measureSync_isOk hinc.peer (by omega) (by unfold Time.NearLocal at hnear; omega)]
              refine ⟨fun h _ => ⟨⟨_, rfl⟩, fun r' h' => ?_⟩, fun h => (h hmaster).2 r rfl⟩
              obtain ⟨-, -, hsame⟩ := SyncState.measuring.inj h'
              exact Option.some.inj hsame ▸ h
        · rw [if_neg hid]
          refine iff_of_true hfresh fun _ => ⟨⟨_, rfl⟩, fun r' h' => ?_⟩
          exact absurd (SyncState.measuring.inj h').1 hid
  · rw [if_pos hmaster]
    exact iff_of_true ⟨_, rfl⟩ fun h => absurd h hmaster

omit [Rng R] in
/-- **A delay response.** -/
theorem handleDelayResp_isOk (hinc : port.core.Incomplete) (hr : port.core.TimesInRange)
    {message : DelayRespMessage} (hrange : message.receiveTimestamp.InRange) :
    (∃ r, port.handleDelayResp .debug header message = .ok r) ↔
      (port.core.AwaitsDelayResp header message.requestingPortIdentity →
        header.correctionField.toInt * 2 ^ 16 ≤
          (Time.ofWireTimestamp message.receiveTimestamp).toInt ∧
        ∀ state sendTime, port.portState = .slave state →
          state.delayState = .measuring header.sequenceId (some sendTime) none →
          port.DelayFits state sendTime.toInt
            ((Time.ofWireTimestamp message.receiveTimestamp).toInt -
              header.correctionField.toInt * 2 ^ 16)) := by
  rw [← Time.sub_correction_isOk hrange]
  by_cases hawaits : port.core.AwaitsDelayResp header message.requestingPortIdentity
  · obtain ⟨hidentity, state, sendTime, hstate, hmaster, hdelay⟩ := id hawaits
    rw [handleDelayResp_stores hstate hidentity hmaster hdelay]
    cases hrecv : (Time.ofWireTimestamp message.receiveTimestamp).sub .debug
      (Duration.ofTimeInterval header.correctionField) with
    | error why =>
      refine iff_of_false (fun ⟨r, hr⟩ => by cases hr) fun h => ?_
      obtain ⟨r, hr⟩ := (h hawaits).1
      cases hr
    | ok recvTime =>
      have hint := Time.sub_debug hrecv
      have hwire := Time.fromWire_of_sub hrange hrecv
      rw [Duration.toInt_ofTimeInterval] at hint
      rw [ok_bind, ← hint]
      cases sendTime with
      | none =>
        refine iff_of_true ⟨_, handleTimeMeasurement_idle .debug (hinc.withDelay hstate rfl)⟩
          fun _ => ⟨⟨_, rfl⟩, fun state' s hstate' hs => ?_⟩
        obtain rfl := PortState.slave.inj (hstate.symm.trans hstate')
        cases hdelay.symm.trans hs
      | some s =>
        have hnear := hr.delaySent state header.sequenceId s none hstate hdelay
        rw [measureDelay_isOk hinc.peer (hinc.slave state hstate).1 hnear hwire
          (hr.rawSync state · hstate)]
        refine ⟨fun h _ => ⟨⟨_, rfl⟩, fun state' s' hstate' hs' => ?_⟩, fun h =>
          (h hawaits).2 state s hstate hdelay⟩
        obtain rfl := PortState.slave.inj (hstate.symm.trans hstate')
        obtain ⟨-, hsame, -⟩ := DelayState.measuring.inj (hdelay.symm.trans hs')
        exact Option.some.inj hsame ▸ h
  · refine iff_of_true ?_ fun h => absurd h hawaits
    rw [handleDelayResp, storeDelayResp_settled hawaits]
    exact ⟨_, rfl⟩

omit [Rng R] in
/-- **The transmit timestamp of a delay request.** -/
theorem handleDelayTimestamp_isOk (hinc : port.core.Incomplete) (hr : port.core.TimesInRange)
    (hstate : port.portState = .slave state) {id : UInt16} (ht : t.IsLocal) :
    (∃ r, port.handleDelayTimestamp .debug id t = .ok r) ↔
      ∀ recvTime, state.delayState = .measuring id none (some recvTime) →
        port.DelayFits state t.toInt recvTime.toInt := by
  unfold handleDelayTimestamp
  simp only [hstate]
  cases hdelay : state.delayState with
  | empty => exact iff_of_true ⟨_, rfl⟩ fun _ h => (nomatch h)
  | measuring id' sendTime recvTime =>
    dsimp only
    by_cases hid : id' = id
    · rw [if_pos hid]
      subst hid
      cases sendTime with
      | some s => exact iff_of_true ⟨_, rfl⟩ fun _ h => (nomatch h)
      | none =>
        rw [if_neg (by simp)]
        cases recvTime with
        | none =>
          exact iff_of_true ⟨_, handleTimeMeasurement_idle .debug (hinc.withDelay hstate rfl)⟩
            fun _ h => (nomatch h)
        | some r =>
          have hwire := hr.delayReceived state id' none r hstate hdelay
          rw [measureDelay_isOk hinc.peer (hinc.slave state hstate).1 ht.nearLocal hwire
            (hr.rawSync state · hstate)]
          refine ⟨fun h r' h' => ?_, fun h => h r rfl⟩
          obtain ⟨-, -, hsame⟩ := DelayState.measuring.inj h'
          exact Option.some.inj hsame ▸ h
    · rw [if_neg hid]
      exact iff_of_true ⟨_, rfl⟩ fun r' h' => absurd (DelayState.measuring.inj h').1 hid

omit [Rng R] in
/-- **The transmit timestamp of a peer delay request** never overflows. -/
theorem handlePdelayTimestamp_isOk (hinc : port.core.Incomplete) (hr : port.core.TimesInRange)
    (id : UInt16) (ht : t.IsLocal) : ∃ r, port.handlePdelayTimestamp .debug id t = .ok r := by
  unfold handlePdelayTimestamp
  cases hpeer : port.peerDelayState with
  | empty | postMeasurement => exact ⟨_, rfl⟩
  | measuring id' responder t1 t2 t3 t4 =>
    dsimp only
    split
    · split
      · exact ⟨_, rfl⟩
      · have htimes : port.peerDelayState.TimesInRange := hr.peer
        rw [hpeer] at htimes
        obtain ⟨-, h2, h3, h4⟩ := htimes
        refine measurePeer_isOk hinc ⟨fun t' ht' => ?_, h2, h3, h4⟩
        exact Option.some.inj ht' ▸ ht.nearLocal
    · exact ⟨_, rfl⟩

omit [Rng R] in
/-- **An answer to a peer delay request** fits when what it stores does. -/
theorem handleAnswer_isOk (hinc : port.core.Incomplete) {requesting : PortIdentity}
    {lacks : PeerDelayState → Bool} {stored : Except Panic PeerDelayState}
    (htimes : ∀ exchange, stored = .ok exchange → exchange.TimesInRange) :
    (∃ r, port.handleAnswer .debug header requesting lacks stored = .ok r) ↔
      (port.core.AwaitsAnswer header requesting lacks → ∃ exchange, stored = .ok exchange) := by
  by_cases hawaits : port.core.AwaitsAnswer header requesting lacks
  · obtain ⟨hidentity, hlacks, responder, t1, t2, t3, t4, hpeer, hresponder⟩ := id hawaits
    rw [handleAnswer_stores hpeer hidentity hresponder hlacks, exists_bind_eq_ok]
    constructor
    · rintro ⟨exchange, hexchange, -⟩ -
      exact ⟨exchange, hexchange⟩
    · intro h
      obtain ⟨exchange, hexchange⟩ := h hawaits
      exact ⟨exchange, hexchange, measurePeer_isOk hinc (htimes exchange hexchange)⟩
  · obtain ⟨port', hport', -⟩ := handleAnswer_settled hawaits
    exact iff_of_true ⟨_, hport'⟩ fun h => absurd h hawaits

omit [Rng R] in
/-- **A peer delay response** never overflows. -/
theorem handlePeerDelayResponse_isOk (hinc : port.core.Incomplete) (hr : port.core.TimesInRange)
    {message : PDelayRespMessage} (hrange : message.requestReceiveTimestamp.InRange)
    (ht : t.IsLocal) : ∃ r, port.handlePeerDelayResponse .debug header message t = .ok r := by
  have hwire := Time.fromWire_ofWireTimestamp hrange
  obtain ⟨arrived, harrived⟩ := Time.sub_correction ht header.correctionField
  have hnear := Time.nearLocal_of_sub ht harrived
  have hstored : ∃ exchange, storedResponse .debug header message t port.peerDelayState =
      .ok exchange ∧ exchange.TimesInRange := by
    have hpeer : port.peerDelayState.TimesInRange := hr.peer
    cases hstate : port.peerDelayState with
    | empty | postMeasurement => exact ⟨_, rfl, trivial⟩
    | measuring id responder t1 t2 t3 t4 =>
      rw [hstate] at hpeer
      obtain ⟨h1, -, h3, -⟩ := hpeer
      rw [storedResponse, harrived]
      refine ⟨_, rfl, h1, ?_, ?_, ?_⟩
      · exact fun t' ht' => Option.some.inj ht' ▸ hwire
      · split
        · exact h3
        · exact fun t' ht' => Option.some.inj ht' ▸ hwire
      · exact fun t' ht' => Option.some.inj ht' ▸ hnear
  obtain ⟨exchange, hexchange, htimes⟩ := hstored
  rw [handlePeerDelayResponse_eq, handleAnswer_isOk hinc]
  · exact fun _ => ⟨exchange, hexchange⟩
  · intro exchange' hexchange'
    exact Except.ok.inj (hexchange.symm.trans hexchange') ▸ htimes

omit [Rng R] in
/-- **The follow-up of a peer delay response.** -/
theorem handlePeerDelayResponseFollowUp_isOk (hinc : port.core.Incomplete)
    (hr : port.core.TimesInRange) {message : PDelayRespFollowUpMessage}
    (hrange : message.responseOriginTimestamp.InRange) :
    (∃ r, port.handlePeerDelayResponseFollowUp .debug header message = .ok r) ↔
      (port.core.AwaitsAnswer header message.requestingPortIdentity PeerDelayState.lacksFollowUp →
        0 ≤ (Time.ofWireTimestamp message.responseOriginTimestamp).toInt +
          header.correctionField.toInt * 2 ^ 16) := by
  have hpeer : port.peerDelayState.TimesInRange := hr.peer
  rw [handlePeerDelayResponseFollowUp_eq, handleAnswer_isOk hinc]
  · refine imp_congr_right fun hawaits => ?_
    obtain ⟨-, -, responder, t1, t2, t3, t4, hstate, -⟩ := hawaits
    rw [← Time.add_correction_isOk hrange, show port.peerDelayState = _ from hstate, storedFollowUp,
      exists_bind_eq_ok]
    constructor
    · rintro ⟨sent, hsent, -⟩
      exact ⟨sent, hsent⟩
    · rintro ⟨sent, hsent⟩
      exact ⟨sent, hsent, _, rfl⟩
  · intro exchange hexchange
    cases hstate : port.peerDelayState with
    | empty | postMeasurement =>
      rw [hstate] at hexchange
      exact Except.ok.inj hexchange ▸ trivial
    | measuring id responder t1 t2 t3 t4 =>
      rw [hstate] at hexchange hpeer
      obtain ⟨sent, hsent, hexchange⟩ := bind_eq_ok.mp hexchange
      obtain rfl := Except.ok.inj hexchange
      obtain ⟨h1, h2, -, h4⟩ := hpeer
      refine ⟨h1, h2, fun t' ht' => ?_, h4⟩
      exact Option.some.inj ht' ▸ Time.fromWire_of_add hrange hsent

end Handlers

end Port

end Statime
