import Statime.Port.Duplicates
import Statime.Port.TimedMessages

/-!
# The times that a port stores

The local times of a port are between `2^47` and `2^94` nanoseconds, and those of its peers are the
timestamps of the wire.  A correction field moves a time by less than `2^47` nanoseconds.  So every
stored time is small, and so is the last difference of two of them.

Times are counted in units of `2^-32` nanoseconds.

* `PortCore.SourcesInRange`: the times that an event brings.
* `PortCore.Step.timesInRange`: a step keeps the times in range.
-/

namespace Statime

open Rust Machine

/-! ### The ranges -/

/-- A local time. -/
def Time.IsLocal (t : Time) : Prop := 2 ^ 79 ≤ t.toInt ∧ t.toInt ≤ 2 ^ 126

/-- A local time with its correction. -/
def Time.NearLocal (t : Time) : Prop := t.toInt ≤ 2 ^ 126 + 2 ^ 79

/-- A timestamp with its correction. -/
def Time.FromWire (t : Time) : Prop := t.toInt ≤ 2 ^ 111

theorem Time.IsLocal.nearLocal {t : Time} (h : t.IsLocal) : t.NearLocal := by
  obtain ⟨-, h⟩ := h
  unfold Time.NearLocal
  omega

theorem Time.toInt_ofWireTimestamp_le {ts : WireTimestamp} (h : ts.InRange) :
    (Time.ofWireTimestamp ts).toInt ≤ 2 ^ 110 := by
  have hnanos := ts.nanos.toNat_lt
  unfold WireTimestamp.InRange at h
  rw [Time.toInt_ofWireTimestamp]
  omega

theorem Time.fromWire_ofWireTimestamp {ts : WireTimestamp} (h : ts.InRange) :
    (Time.ofWireTimestamp ts).FromWire := by
  have hle := Time.toInt_ofWireTimestamp_le h
  unfold Time.FromWire
  omega

section Debug

variable {t : Time} {ts : WireTimestamp} {correction : TimeInterval}

theorem Time.nearLocal_of_sub (ht : t.IsLocal) {r : Time}
    (h : t.sub .debug (Duration.ofTimeInterval correction) = .ok r) : r.NearLocal := by
  have hr := Time.sub_debug h
  have hc := correction.toInt_range
  rw [Duration.toInt_ofTimeInterval] at hr
  unfold Time.IsLocal at ht
  unfold Time.NearLocal
  omega

theorem Time.fromWire_of_sub (hts : ts.InRange) {r : Time}
    (h : (Time.ofWireTimestamp ts).sub .debug (Duration.ofTimeInterval correction) = .ok r) :
    r.FromWire := by
  have hr := Time.sub_debug h
  have hc := correction.toInt_range
  have hle := Time.toInt_ofWireTimestamp_le hts
  rw [Duration.toInt_ofTimeInterval] at hr
  unfold Time.FromWire
  omega

theorem Time.fromWire_of_add (hts : ts.InRange) {r : Time}
    (h : (Time.ofWireTimestamp ts).add .debug (Duration.ofTimeInterval correction) = .ok r) :
    r.FromWire := by
  have hr := Time.add_debug h
  have hc := correction.toInt_range
  have hle := Time.toInt_ofWireTimestamp_le hts
  rw [Duration.toInt_ofTimeInterval] at hr
  unfold Time.FromWire
  omega

/-- **A correction cannot move a local time below zero.** -/
theorem Time.sub_correction (ht : t.IsLocal) (correction : TimeInterval) :
    ∃ r, t.sub .debug (Duration.ofTimeInterval correction) = .ok r := by
  have hc := correction.toInt_range
  unfold Time.IsLocal at ht
  rw [Time.sub_eq .debug t (by rw [Duration.toInt_ofTimeInterval]; omega),
    Duration.toInt_ofTimeInterval]
  have hfits : UFixed.fits 128 (t.toInt - correction.toInt * 2 ^ 16) = true :=
    decide_eq_true (by omega)
  rw [UFixed.wrap_of_fits .debug hfits]
  exact ⟨_, rfl⟩

/-- A timestamp is not so large, but it may be too small. -/
theorem Time.sub_correction_isOk (hts : ts.InRange) (correction : TimeInterval) :
    (∃ r, (Time.ofWireTimestamp ts).sub .debug (Duration.ofTimeInterval correction) = .ok r) ↔
      correction.toInt * 2 ^ 16 ≤ (Time.ofWireTimestamp ts).toInt := by
  have hc := correction.toInt_range
  have hle := Time.toInt_ofWireTimestamp_le hts
  constructor
  · rintro ⟨r, hr⟩
    have hint := Time.sub_debug hr
    have hr0 := r.toInt_range
    rw [Duration.toInt_ofTimeInterval] at hint
    omega
  · intro h
    have hfits : UFixed.fits 128 ((Time.ofWireTimestamp ts).toInt - correction.toInt * 2 ^ 16) =
        true := decide_eq_true (by omega)
    rw [Time.sub_eq .debug _ (by rw [Duration.toInt_ofTimeInterval]; omega),
      Duration.toInt_ofTimeInterval, UFixed.wrap_of_fits .debug hfits]
    exact ⟨_, rfl⟩

theorem Time.add_correction_isOk (hts : ts.InRange) (correction : TimeInterval) :
    (∃ r, (Time.ofWireTimestamp ts).add .debug (Duration.ofTimeInterval correction) = .ok r) ↔
      0 ≤ (Time.ofWireTimestamp ts).toInt + correction.toInt * 2 ^ 16 := by
  have hc := correction.toInt_range
  have hle := Time.toInt_ofWireTimestamp_le hts
  constructor
  · rintro ⟨r, hr⟩
    have hint := Time.add_debug hr
    have hr0 := r.toInt_range
    rw [Duration.toInt_ofTimeInterval] at hint
    omega
  · intro h
    obtain ⟨r, hr, -⟩ := Time.add_spec .debug (t := Time.ofWireTimestamp ts)
      (d := Duration.ofTimeInterval correction) (by rw [Duration.toInt_ofTimeInterval]; exact h)
      (by rw [Duration.toInt_ofTimeInterval]; omega)
    exact ⟨r, hr⟩

end Debug

/-! ### The times that an event brings -/

namespace PortEvent

variable {T : Type} {e : PortEvent T} {message : Message} {t : Time}

/-- The receive and transmit timestamps of the event are local times. -/
def LocalTimes : PortEvent T → Prop
  | .eventReceive _ _ timestamp => timestamp.IsLocal
  | .sendTimestamp _ _ timestamp => timestamp.IsLocal
  | _ => True

theorem ReceivesAt.isLocal (h : e.ReceivesAt message t) (he : e.LocalTimes) : t.IsLocal := by
  obtain ⟨s, data, rfl, -⟩ := h
  exact he

theorem DelayReqSent.isLocal {id : UInt16} (h : e.DelayReqSent id t) (he : e.LocalTimes) :
    t.IsLocal := by
  obtain ⟨s, rfl⟩ := h
  exact he

theorem PDelayReqSent.isLocal {id : UInt16} (h : e.PDelayReqSent id t) (he : e.LocalTimes) :
    t.IsLocal := by
  obtain ⟨s, rfl⟩ := h
  exact he

/-- What the parser accepts is in range. -/
theorem Receives.inRange (h : e.Receives message) : message.InRange := by
  rcases h with ⟨timestamp, s, data, -, hparse⟩ | ⟨s, data, -, hparse⟩
  · exact (Message.deserialize_spec (Port.parseAndFilter_eq_some hparse).1).1
  · exact (Message.deserialize_spec (Port.parseAndFilter_eq_some hparse).1).1

theorem ReceivesAt.inRange (h : e.ReceivesAt message t) : message.InRange :=
  Receives.inRange (Or.inl ⟨t, h⟩)

end PortEvent

namespace PortCore

variable {T : Type} {p : Profile} {e : PortEvent T} {c c' c₁ : PortCore}

/-- The times that the event brings are in range. -/
structure SourcesInRange (p : Profile) (e : PortEvent T) : Prop where
  syncSent : ∀ master id t, e.SyncSent p master id t → t.FromWire
  syncReceived : ∀ master id t, e.SyncReceived p master id t → t.NearLocal
  delaySent : ∀ id t, e.DelayReqSent id t → t.NearLocal
  delayReceived : ∀ own master id t, e.DelayReqReceived p own master id t → t.FromWire
  requestSent : ∀ id t, e.PDelayReqSent id t → t.NearLocal
  requestReceived : ∀ own source id t, e.PDelayReqReceived own source id t → t.FromWire
  responseSent : ∀ own source id t, e.PDelayRespSent p own source id t → t.FromWire
  responseArrived : ∀ own source id t, e.PDelayRespArrived p own source id t → t.NearLocal

/-- **In a debug build they are**, whatever the messages say. -/
theorem sourcesInRange (he : e.LocalTimes) : SourcesInRange .debug e := by
  constructor
  case syncSent =>
    rintro master id t (⟨message, body, hm, hbody, -, -, hsum⟩ |
      ⟨message, body, timestamp, hm, hbody, -, -, -, rfl⟩)
    · have hrange := hm.inRange.body
      rw [hbody] at hrange
      exact Time.fromWire_of_add hrange hsum
    · have hrange := hm.inRange.body
      rw [hbody] at hrange
      exact Time.fromWire_ofWireTimestamp hrange
  case syncReceived =>
    rintro master id t ⟨message, body, timestamp, hm, -, -, -, hdiff⟩
    exact Time.nearLocal_of_sub (hm.isLocal he) hdiff
  case delaySent => exact fun id t hsent => (hsent.isLocal he).nearLocal
  case delayReceived =>
    rintro own master id t ⟨message, body, hm, hbody, -, -, -, hdiff⟩
    have hrange := hm.inRange.body
    rw [hbody] at hrange
    exact Time.fromWire_of_sub hrange hdiff
  case requestSent => exact fun id t hsent => (hsent.isLocal he).nearLocal
  case requestReceived =>
    rintro own source id t ⟨message, body, timestamp, ⟨hm, hbody, -⟩, rfl⟩
    have hrange := hm.inRange.body
    rw [hbody] at hrange
    exact Time.fromWire_ofWireTimestamp hrange
  case responseSent =>
    rintro own source id t (⟨message, body, hm, hbody, -, -, -, hsum⟩ |
      ⟨message, body, timestamp, ⟨hm, hbody, -⟩, -, rfl⟩)
    · have hrange := hm.inRange.body
      rw [hbody] at hrange
      exact Time.fromWire_of_add hrange hsum
    · have hrange := hm.inRange.body
      rw [hbody] at hrange
      exact Time.fromWire_ofWireTimestamp hrange
  case responseArrived =>
    rintro own source id t ⟨message, body, timestamp, ⟨hm, -⟩, hdiff⟩
    exact Time.nearLocal_of_sub (hm.isLocal he) hdiff

/-! ### Events without times -/

end PortCore

/-- The event brings no time of an exchange. -/
structure PortEvent.WithoutTimes {T : Type} (e : PortEvent T) : Prop where
  receives : ∀ message, e.Receives message → message.body.isOfExchange = false
  delayReqSent : ∀ id t, ¬ e.DelayReqSent id t
  pDelayReqSent : ∀ id t, ¬ e.PDelayReqSent id t

namespace PortEvent.WithoutTimes

variable {T : Type} {p : Profile} {e : PortEvent T} (h : e.WithoutTimes)

include h

theorem not_receives {message : Message} (hbody : message.body.isOfExchange = true) :
    ¬ e.Receives message := by
  intro hm
  rw [h.receives message hm] at hbody
  cases hbody

theorem not_receivesAt {message : Message} {t : Time} (hbody : message.body.isOfExchange = true) :
    ¬ e.ReceivesAt message t := fun hm => h.not_receives hbody (Or.inl ⟨t, hm⟩)

theorem not_syncSent (master : PortIdentity) (id : UInt16) (t : Time) :
    ¬ e.SyncSent p master id t := by
  rintro (⟨message, body, hm, hbody, -⟩ | ⟨message, body, timestamp, hm, hbody, -⟩)
  · exact h.not_receives (by rw [hbody]; rfl) hm
  · exact h.not_receivesAt (by rw [hbody]; rfl) hm

theorem not_syncReceived (master : PortIdentity) (id : UInt16) (t : Time) :
    ¬ e.SyncReceived p master id t := by
  rintro ⟨message, body, timestamp, hm, hbody, -⟩
  exact h.not_receivesAt (by rw [hbody]; rfl) hm

theorem not_pDelayRespReceived (own responder : PortIdentity) (id : UInt16) (message : Message)
    (body : PDelayRespMessage) (t : Time) :
    ¬ e.PDelayRespReceived own responder id message body t := by
  rintro ⟨hm, hbody, -⟩
  exact h.not_receivesAt (by rw [hbody]; rfl) hm

/-- So nothing that it brings is out of range. -/
theorem sourcesInRange : PortCore.SourcesInRange p e := by
  constructor
  case syncSent => exact fun master id t hsent => absurd hsent (h.not_syncSent master id t)
  case syncReceived =>
    exact fun master id t hreceived => absurd hreceived (h.not_syncReceived master id t)
  case delaySent => exact fun id t hsent => absurd hsent (h.delayReqSent id t)
  case delayReceived =>
    rintro own master id t ⟨message, body, hm, hbody, -⟩
    exact absurd hm (h.not_receives (by rw [hbody]; rfl))
  case requestSent => exact fun id t hsent => absurd hsent (h.pDelayReqSent id t)
  case requestReceived =>
    rintro own source id t ⟨message, body, timestamp, hm, -⟩
    exact absurd hm (h.not_pDelayRespReceived _ _ _ _ _ _)
  case responseSent =>
    rintro own source id t (⟨message, body, hm, hbody, -⟩ | ⟨message, body, timestamp, hm, -⟩)
    · exact absurd hm (h.not_receives (by rw [hbody]; rfl))
    · exact absurd hm (h.not_pDelayRespReceived _ _ _ _ _ _)
  case responseArrived =>
    rintro own source id t ⟨message, body, timestamp, hm, -⟩
    exact absurd hm (h.not_pDelayRespReceived _ _ _ _ _ _)

end PortEvent.WithoutTimes

/-! ### The invariant -/

namespace PortCore

/-- The raw offset is the difference of two such times, less the asymmetry. -/
def RawSyncInRange (asymmetry raw : Duration) : Prop :=
  ∃ sendTime recvTime : Time, sendTime.FromWire ∧ recvTime.NearLocal ∧
    raw.toInt = recvTime.toInt - sendTime.toInt - asymmetry.toInt

/-- **The stored times are in range.** -/
structure TimesInRange (c : PortCore) : Prop where
  syncSent : ∀ state id t r, c.portState = .slave state →
    state.syncState = .measuring id (some t) r → t.FromWire
  syncReceived : ∀ state id s t, c.portState = .slave state →
    state.syncState = .measuring id s (some t) → t.NearLocal
  delaySent : ∀ state id t r, c.portState = .slave state →
    state.delayState = .measuring id (some t) r → t.NearLocal
  delayReceived : ∀ state id s t, c.portState = .slave state →
    state.delayState = .measuring id s (some t) → t.FromWire
  requestSent : ∀ id responder t t2 t3 t4,
    c.peerDelayState = .measuring id responder (some t) t2 t3 t4 → t.NearLocal
  requestReceived : ∀ id responder t1 t t3 t4,
    c.peerDelayState = .measuring id responder t1 (some t) t3 t4 → t.FromWire
  responseSent : ∀ id responder t1 t2 t t4,
    c.peerDelayState = .measuring id responder t1 t2 (some t) t4 → t.FromWire
  responseArrived : ∀ id responder t1 t2 t3 t,
    c.peerDelayState = .measuring id responder t1 t2 t3 (some t) → t.NearLocal
  rawSync : ∀ state raw, c.portState = .slave state → state.lastRawSyncOffset = some raw →
    RawSyncInRange c.config.delayAsymmetry raw

end PortCore

/-- The times of a peer delay exchange are in range. -/
def PeerDelayState.TimesInRange : PeerDelayState → Prop
  | .measuring _ _ t1 t2 t3 t4 =>
    (∀ t, t1 = some t → t.NearLocal) ∧ (∀ t, t2 = some t → t.FromWire) ∧
      (∀ t, t3 = some t → t.FromWire) ∧ ∀ t, t4 = some t → t.NearLocal
  | _ => True

theorem PeerDelayState.TimesInRange.completed {exchange : PeerDelayState} {id : UInt16}
    {responder : PortIdentity} {times : PeerDelayTimes} (h : exchange.TimesInRange)
    (hcompleted : exchange.completed = some (id, responder, times)) :
    times.requestSendTime.NearLocal ∧ times.requestRecvTime.FromWire ∧
      times.responseSendTime.FromWire ∧ times.responseRecvTime.NearLocal := by
  unfold PeerDelayState.completed at hcompleted
  split at hcompleted
  · obtain ⟨rfl, rfl, rfl⟩ : _ ∧ _ ∧ _ := by simpa using hcompleted
    obtain ⟨h1, h2, h3, h4⟩ := h
    exact ⟨h1 _ rfl, h2 _ rfl, h3 _ rfl, h4 _ rfl⟩
  · cases hcompleted

namespace PortCore

variable {T : Type} {p : Profile} {e : PortEvent T} {c c' c₁ : PortCore}

theorem TimesInRange.peer (h : c.TimesInRange) : c.peerDelayState.TimesInRange := by
  cases hpeer : c.peerDelayState with
  | empty | postMeasurement => trivial
  | measuring id responder t1 t2 t3 t4 =>
    refine ⟨fun t ht => ?_, fun t ht => ?_, fun t ht => ?_, fun t ht => ?_⟩
    · exact h.requestSent id responder t t2 t3 t4 (ht ▸ hpeer)
    · exact h.requestReceived id responder t1 t t3 t4 (ht ▸ hpeer)
    · exact h.responseSent id responder t1 t2 t t4 (ht ▸ hpeer)
    · exact h.responseArrived id responder t1 t2 t3 t (ht ▸ hpeer)

/-- The last raw offset was there before. -/
def RawSyncKept (c c' : PortCore) : Prop :=
  c'.config = c.config ∧ ∀ state' raw, c'.portState = .slave state' →
    state'.lastRawSyncOffset = some raw →
    ∃ state, c.portState = .slave state ∧ state.lastRawSyncOffset = some raw

/-- Times from the event or from before stay in range. -/
theorem TimesFrom.timesInRange (h : TimesFrom p e c c') (hraw : c.RawSyncKept c')
    (hc : c.TimesInRange) (he : SourcesInRange p e) : c'.TimesInRange := by
  constructor
  case syncSent =>
    intro state' id t r hstate' hsync
    obtain ⟨state, hstate, -, hsent, -⟩ := h.sync state' id (some t) r hstate' hsync
    rcases hsent t rfl with hnew | ⟨r', hold⟩
    · exact he.syncSent _ _ _ hnew
    · exact hc.syncSent state id t r' hstate hold
  case syncReceived =>
    intro state' id s t hstate' hsync
    obtain ⟨state, hstate, -, -, hreceived⟩ := h.sync state' id s (some t) hstate' hsync
    rcases hreceived t rfl with hnew | ⟨s', hold⟩
    · exact he.syncReceived _ _ _ hnew
    · exact hc.syncReceived state id s' t hstate hold
  case delaySent =>
    intro state' id t r hstate' hdelay
    rcases h.delay state' id (some t) r hstate' hdelay with ⟨hnone, -⟩ |
      ⟨state, s₀, r₀, hstate, -, hold, hsent, -⟩
    · cases hnone
    · rcases hsent t rfl with hnew | rfl
      · exact he.delaySent _ _ hnew
      · exact hc.delaySent state id t r₀ hstate hold
  case delayReceived =>
    intro state' id s t hstate' hdelay
    rcases h.delay state' id s (some t) hstate' hdelay with ⟨-, hnone⟩ |
      ⟨state, s₀, r₀, hstate, -, hold, -, hreceived⟩
    · cases hnone
    · rcases hreceived t rfl with hnew | rfl
      · exact he.delayReceived _ _ _ _ hnew
      · exact hc.delayReceived state id s₀ t hstate hold
  case requestSent =>
    intro id responder t t2 t3 t4 hpeer
    rcases h.peer id responder (some t) t2 t3 t4 hpeer with ⟨hnone, -⟩ |
      ⟨responder₀, u1, u2, u3, u4, hold, -, h1, -⟩
    · cases hnone
    · rcases h1 t rfl with hnew | rfl
      · exact he.requestSent _ _ hnew
      · exact hc.requestSent id responder₀ t u2 u3 u4 hold
  case requestReceived =>
    intro id responder t1 t t3 t4 hpeer
    rcases h.peer id responder t1 (some t) t3 t4 hpeer with ⟨-, hnone, -⟩ |
      ⟨responder₀, u1, u2, u3, u4, hold, -, -, h2, -⟩
    · cases hnone
    · rcases h2 t rfl with ⟨source, -, hnew⟩ | rfl
      · exact he.requestReceived _ _ _ _ hnew
      · exact hc.requestReceived id responder₀ u1 t u3 u4 hold
  case responseSent =>
    intro id responder t1 t2 t t4 hpeer
    rcases h.peer id responder t1 t2 (some t) t4 hpeer with ⟨-, -, hnone, -⟩ |
      ⟨responder₀, u1, u2, u3, u4, hold, -, -, -, h3, -⟩
    · cases hnone
    · rcases h3 t rfl with ⟨source, -, hnew⟩ | rfl
      · exact he.responseSent _ _ _ _ hnew
      · exact hc.responseSent id responder₀ u1 u2 t u4 hold
  case responseArrived =>
    intro id responder t1 t2 t3 t hpeer
    rcases h.peer id responder t1 t2 t3 (some t) hpeer with ⟨-, -, -, hnone⟩ |
      ⟨responder₀, u1, u2, u3, u4, hold, -, -, -, -, h4⟩
    · cases hnone
    · rcases h4 t rfl with ⟨source, -, hnew⟩ | rfl
      · exact he.responseArrived _ _ _ _ hnew
      · exact hc.responseArrived id responder₀ u1 u2 u3 t hold
  case rawSync =>
    intro state' raw hstate' hsome
    obtain ⟨state, hstate, hold⟩ := hraw.2 state' raw hstate' hsome
    rw [hraw.1]
    exact hc.rawSync state raw hstate hold

theorem Stores.rawSyncKept (h : Stores p e c c') : c.RawSyncKept c' := by
  refine ⟨h.sameOwner.config, ?_⟩
  cases h with
  | sync hold | delay hold =>
    intro state' raw hstate' hsome
    obtain rfl := PortState.slave.inj hstate'
    exact ⟨_, hold, hsome⟩
  | peerRequest | peerResponse => exact fun state' raw hstate' hsome => ⟨state', hstate', hsome⟩

/-- Only a sync measurement changes the last raw offset. -/
theorem Step.rawSyncKept (h : Step p e c c') :
    c.RawSyncKept c' ∨ ∃ c₁, Stores p e c c₁ ∧ Measures p c₁ c' := by
  cases h with
  | measure hstores hmeasures => exact Or.inr ⟨_, hstores, hmeasures⟩
  | keep | age => exact Or.inl ⟨rfl, fun state' raw hstate' hsome => ⟨state', hstate', hsome⟩⟩
  | requestPeerDelay => exact Or.inl ⟨rfl, fun state' raw hstate' hsome => ⟨state', hstate', hsome⟩⟩
  | fault | disable => exact Or.inl ⟨rfl, fun state' raw hstate' => by cases hstate'⟩
  | timeout =>
    refine Or.inl ⟨rfl, fun state' raw hstate' => ?_⟩
    dsimp only at hstate'
    split at hstate' <;> cases hstate'
  | recommended =>
    refine Or.inl ⟨rfl, fun state' raw hstate' hsome => ?_⟩
    rcases slave_recommended hstate' with hold | ⟨master, rfl⟩
    · exact ⟨state', hold, hsome⟩
    · cases hsome
  | firstSync hold | requestDelay _ hold =>
    refine Or.inl ⟨rfl, fun state' raw hstate' hsome => ?_⟩
    obtain rfl := PortState.slave.inj hstate'
    exact ⟨_, hold, hsome⟩

/-- The raw offset of a complete sync exchange is exact. -/
def RawSyncExact (p : Profile) (c : PortCore) : Prop :=
  ∀ state id sendTime recvTime raw, c.portState = .slave state →
    state.syncState.completed = some (id, sendTime, recvTime) →
    Port.rawOffset p recvTime sendTime c.config.delayAsymmetry = .ok raw →
    raw.toInt = recvTime.toInt - sendTime.toInt - c.config.delayAsymmetry.toInt

theorem rawSyncExact_debug (c : PortCore) : c.RawSyncExact .debug := by
  intro state id sendTime recvTime raw _ _ hraw
  obtain ⟨offset, hoffset, hraw⟩ := bind_eq_ok.mp hraw
  rw [Duration.sub_debug hraw, Time.diff_debug hoffset]

/-- An event without times completes nothing. -/
theorem Stores.rawSyncExact (h : Stores p e c c₁) (hc : c.Incomplete) (he : e.WithoutTimes) :
    c₁.RawSyncExact p := by
  intro state₁ id sendTime recvTime raw hstate₁ hsync
  obtain ⟨state, hstate, -, hsent, hreceived⟩ : ∃ state, c.portState = .slave state ∧
      state.remoteMaster = state₁.remoteMaster ∧
      (∀ t, some sendTime = some t → e.SyncSent p state₁.remoteMaster id t ∨
        ∃ r, state.syncState = .measuring id (some t) r) ∧
      (∀ t, some recvTime = some t → e.SyncReceived p state₁.remoteMaster id t ∨
        ∃ s, state.syncState = .measuring id s (some t)) := by
    unfold SyncState.completed at hsync
    split at hsync
    · rename_i hmeasuring
      obtain ⟨rfl, rfl, rfl⟩ : _ ∧ _ ∧ _ := by simpa using hsync
      exact h.timesFrom.sync _ _ _ _ hstate₁ hmeasuring
    · cases hsync
  obtain ⟨r, hold⟩ := (hsent sendTime rfl).resolve_left (he.not_syncSent _ _ _)
  obtain ⟨s, hold'⟩ := (hreceived recvTime rfl).resolve_left (he.not_syncReceived _ _ _)
  rw [hold] at hold'
  obtain ⟨-, -, rfl⟩ := SyncState.measuring.inj hold'
  have hnone := (hc.slave state hstate).1
  rw [hold] at hnone
  cases hnone

/-- Closing an exchange keeps the times in range. -/
theorem Measures.timesInRange (h : Measures p c c') (hc : c.TimesInRange)
    (hexact : c.RawSyncExact p) : c'.TimesInRange := by
  cases h with
  | idle => exact hc
  | peer =>
    exact ⟨fun state id t r hstate => hc.syncSent state id t r (slave_of_recovered hstate),
      fun state id s t hstate => hc.syncReceived state id s t (slave_of_recovered hstate),
      fun state id t r hstate => hc.delaySent state id t r (slave_of_recovered hstate),
      fun state id s t hstate => hc.delayReceived state id s t (slave_of_recovered hstate),
      fun _ _ _ _ _ _ hpeer => (nomatch hpeer), fun _ _ _ _ _ _ hpeer => (nomatch hpeer),
      fun _ _ _ _ _ _ hpeer => (nomatch hpeer), fun _ _ _ _ _ _ hpeer => (nomatch hpeer),
      fun state raw hstate => hc.rawSync state raw (slave_of_recovered hstate)⟩
  | @sync state id sendTime recvTime raw _ _ hstate hsync hraw =>
    have hint := hexact state id sendTime recvTime raw hstate hsync hraw
    have htimes : sendTime.FromWire ∧ recvTime.NearLocal := by
      unfold SyncState.completed at hsync
      split at hsync
      · rename_i hmeasuring
        obtain ⟨rfl, rfl, rfl⟩ : _ ∧ _ ∧ _ := by simpa using hsync
        exact ⟨hc.syncSent state _ _ _ hstate hmeasuring,
          hc.syncReceived state _ _ _ hstate hmeasuring⟩
      · cases hsync
    refine ⟨fun state' id t r hstate' hsync => ?_, fun state' id s t hstate' hsync => ?_,
      fun state' id t r hstate' hdelay => ?_, fun state' id s t hstate' hdelay => ?_,
      hc.requestSent, hc.requestReceived, hc.responseSent, hc.responseArrived,
      fun state' raw' hstate' hsome => ?_⟩
    all_goals obtain rfl := PortState.slave.inj hstate'
    · cases hsync
    · cases hsync
    · exact hc.delaySent state id t r hstate hdelay
    · exact hc.delayReceived state id s t hstate hdelay
    · obtain rfl := Option.some.inj hsome
      exact ⟨sendTime, recvTime, htimes.1, htimes.2, hint⟩
  | @delay state _ _ _ _ _ _ hstate =>
    refine ⟨fun state' id t r hstate' hsync => ?_, fun state' id s t hstate' hsync => ?_,
      fun state' id t r hstate' hdelay => ?_, fun state' id s t hstate' hdelay => ?_,
      hc.requestSent, hc.requestReceived, hc.responseSent, hc.responseArrived,
      fun state' raw' hstate' hsome => ?_⟩
    all_goals obtain rfl := PortState.slave.inj hstate'
    · exact hc.syncSent state id t r hstate hsync
    · exact hc.syncReceived state id s t hstate hsync
    · cases hdelay
    · cases hdelay
    · exact hc.rawSync state raw' hstate hsome

/-- A new port stores no times. -/
theorem timesInRange_new (hslave : ∀ state, c.portState ≠ .slave state)
    (hpeer : c.peerDelayState = .empty) : c.TimesInRange := by
  constructor
  case syncSent => exact fun state _ _ _ hstate => absurd hstate (hslave state)
  case syncReceived => exact fun state _ _ _ hstate => absurd hstate (hslave state)
  case delaySent => exact fun state _ _ _ hstate => absurd hstate (hslave state)
  case delayReceived => exact fun state _ _ _ hstate => absurd hstate (hslave state)
  case rawSync => exact fun state _ hstate => absurd hstate (hslave state)
  all_goals
    intro id responder t1 t2 t3 t4 hmeasuring
    rw [hpeer] at hmeasuring
    cases hmeasuring

/-- **A step keeps the times in range**, when the event brings no other times and, in a release build,
no time at all. -/
theorem Step.timesInRange (h : Step p e c c') (hc : c.TimesInRange) (hinc : c.Incomplete)
    (he : SourcesInRange p e) (hexact : p = .debug ∨ e.WithoutTimes) : c'.TimesInRange := by
  have hmeasured : ∀ c₁, Stores p e c c₁ → Measures p c₁ c' → c'.TimesInRange := by
    intro c₁ hstores hmeasures
    have hc₁ := hstores.timesFrom.timesInRange hstores.rawSyncKept hc he
    refine hmeasures.timesInRange hc₁ ?_
    rcases hexact with rfl | hnone
    · exact rawSyncExact_debug c₁
    · exact hstores.rawSyncExact hinc hnone
  rcases h.timesFrom with htimes | ⟨c₁, hstores, hmeasures⟩
  · rcases h.rawSyncKept with hraw | ⟨c₁, hstores, hmeasures⟩
    · exact htimes.timesInRange hraw hc he
    · exact hmeasured c₁ hstores hmeasures
  · exact hmeasured c₁ hstores hmeasures

end PortCore

end Statime
