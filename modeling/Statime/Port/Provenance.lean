import Statime.Port.Machine

/-!
# Where measurements come from

A measurement combines the times of one exchange.  The history of a port is what it was before each
event, and the event; every time in a partly filled exchange comes from an event of the history that
came while the exchange was open.

* `SyncFrom`, `DelayFrom`, `PeerFrom`: where the times of an exchange after a step come from.
* `PortCore.Step.traced`: the invariant.
* `PortCore.Step.incomplete`: a complete exchange is reported at once.
* `Slot.measurement_provenance`: what every measurement of a run combines, and that no exchange is
  complete but unreported.
-/

namespace Statime

open Rust Machine

/-- What a port was before each event, and the event. -/
abbrev History (T : Type) := List (PortCore × PortEvent T)

namespace PortCore

variable {T : Type}

/-- A delay request with this id to this master waits for its answer. -/
def InDelayExchange (master : PortIdentity) (id : UInt16) (c : PortCore) : Prop :=
  ∃ state sendTime recvTime, c.portState = .slave state ∧ state.remoteMaster = master ∧
    state.delayState = .measuring id sendTime recvTime

/-- A peer delay request with this id waits for its answers. -/
def InPeerExchange (id : UInt16) (c : PortCore) : Prop :=
  ∃ responder t1 t2 t3 t4, c.peerDelayState = .measuring id responder t1 t2 t3 t4

/-! ### Where the times of a step come from -/

/-- The times of the sync exchange are from the event, or were there under the same id. -/
def SyncFrom (p : Profile) (e : PortEvent T) (c c' : PortCore) : Prop :=
  ∀ state' id sendTime recvTime, c'.portState = .slave state' →
    state'.syncState = .measuring id sendTime recvTime →
    ∃ state, c.portState = .slave state ∧ state.remoteMaster = state'.remoteMaster ∧
      (∀ t, sendTime = some t → e.SyncSent p state'.remoteMaster id t ∨
        ∃ r, state.syncState = .measuring id (some t) r) ∧
      (∀ t, recvTime = some t → e.SyncReceived p state'.remoteMaster id t ∨
        ∃ s, state.syncState = .measuring id s (some t))

/-- A new delay exchange has no times; those of an open one are from the event, or were there. -/
def DelayFrom (p : Profile) (e : PortEvent T) (c c' : PortCore) : Prop :=
  ∀ state' id sendTime recvTime, c'.portState = .slave state' →
    state'.delayState = .measuring id sendTime recvTime → (sendTime = none ∧ recvTime = none) ∨
    ∃ state s r, c.portState = .slave state ∧ state.remoteMaster = state'.remoteMaster ∧
      state.delayState = .measuring id s r ∧
      (∀ t, sendTime = some t → e.DelayReqSent id t ∨ s = some t) ∧
      (∀ t, recvTime = some t →
        e.DelayReqReceived p c.portIdentity state'.remoteMaster id t ∨ r = some t)

/-- The same for a peer delay exchange, whose responder does not change. -/
def PeerFrom (p : Profile) (e : PortEvent T) (c c' : PortCore) : Prop :=
  ∀ id responder t1 t2 t3 t4, c'.peerDelayState = .measuring id responder t1 t2 t3 t4 →
    (t1 = none ∧ t2 = none ∧ t3 = none ∧ t4 = none) ∨
    ∃ responder₀ u1 u2 u3 u4, c.peerDelayState = .measuring id responder₀ u1 u2 u3 u4 ∧
      (∀ source, responder₀ = some source → responder = some source) ∧
      (∀ t, t1 = some t → e.PDelayReqSent id t ∨ u1 = some t) ∧
      (∀ t, t2 = some t → (∃ source, responder = some source ∧
        e.PDelayReqReceived c.portIdentity source id t) ∨ u2 = some t) ∧
      (∀ t, t3 = some t → (∃ source, responder = some source ∧
        e.PDelayRespSent p c.portIdentity source id t) ∨ u3 = some t) ∧
      (∀ t, t4 = some t → (∃ source, responder = some source ∧
        e.PDelayRespArrived p c.portIdentity source id t) ∨ u4 = some t)

/-- Where all times after a step come from. -/
structure TimesFrom (p : Profile) (e : PortEvent T) (c c' : PortCore) : Prop where
  portIdentity : c'.portIdentity = c.portIdentity
  sync : SyncFrom p e c c'
  delay : DelayFrom p e c c'
  peer : PeerFrom p e c c'

variable {p : Profile} {e : PortEvent T} {c c' c₁ : PortCore}

/-- The sync exchange of a slave that is kept. -/
theorem syncFrom_of_kept (h : ∀ state', c'.portState = .slave state' →
    state'.syncState = .empty ∨ ∃ state, c.portState = .slave state ∧
      state.remoteMaster = state'.remoteMaster ∧ state.syncState = state'.syncState) :
    SyncFrom p e c c' := by
  intro state' id sendTime recvTime hstate' hsync
  rcases h state' hstate' with hempty | ⟨state, hstate, hmaster, hsame⟩
  · rw [hempty] at hsync
    cases hsync
  · rw [hsync] at hsame
    refine ⟨state, hstate, hmaster, ?_, ?_⟩
    · rintro t rfl
      exact Or.inr ⟨recvTime, hsame⟩
    · rintro t rfl
      exact Or.inr ⟨sendTime, hsame⟩

/-- The delay exchange of a slave that is kept. -/
theorem delayFrom_of_kept (h : ∀ state', c'.portState = .slave state' →
    state'.delayState = .empty ∨ ∃ state, c.portState = .slave state ∧
      state.remoteMaster = state'.remoteMaster ∧ state.delayState = state'.delayState) :
    DelayFrom p e c c' := by
  intro state' id sendTime recvTime hstate' hdelay
  rcases h state' hstate' with hempty | ⟨state, hstate, hmaster, hsame⟩
  · rw [hempty] at hdelay
    cases hdelay
  · rw [hdelay] at hsame
    exact Or.inr ⟨state, sendTime, recvTime, hstate, hmaster, hsame, fun t ht => Or.inr ht,
      fun t ht => Or.inr ht⟩

/-- The peer delay exchange that is kept. -/
theorem peerFrom_of_kept (h : c'.peerDelayState = c.peerDelayState) : PeerFrom p e c c' := by
  intro id responder t1 t2 t3 t4 hpeer
  rw [h] at hpeer
  exact Or.inr ⟨responder, t1, t2, t3, t4, hpeer, fun _ hs => hs, fun _ ht => Or.inr ht,
    fun _ ht => Or.inr ht, fun _ ht => Or.inr ht, fun _ ht => Or.inr ht⟩

/-- A step that starts no exchange and stores no time. -/
theorem timesFrom_of_kept (hidentity : c'.portIdentity = c.portIdentity)
    (hslave : ∀ state', c'.portState = .slave state' →
      c.portState = .slave state' ∨ ∃ master, state' = .new master)
    (hpeer : c'.peerDelayState = c.peerDelayState) : TimesFrom p e c c' := by
  refine ⟨hidentity, syncFrom_of_kept fun state' hstate' => ?_,
    delayFrom_of_kept fun state' hstate' => ?_, peerFrom_of_kept hpeer⟩
  · rcases hslave state' hstate' with hsame | ⟨master, rfl⟩
    · exact Or.inr ⟨state', hsame, rfl, rfl⟩
    · exact Or.inl rfl
  · rcases hslave state' hstate' with hsame | ⟨master, rfl⟩
    · exact Or.inr ⟨state', hsame, rfl, rfl⟩
    · exact Or.inl rfl

/-- **What an event writes.** -/
theorem Stores.timesFrom (h : Stores p e c c') : TimesFrom p e c c' := by
  refine ⟨h.sameOwner.portIdentity, ?_, ?_, ?_⟩
  · cases h with
    | @sync state id sendTime recvTime hstate hsent hreceived =>
      intro state' id' sendTime' recvTime' hstate' hsync
      obtain rfl := PortState.slave.inj hstate'
      obtain ⟨rfl, rfl, rfl⟩ := SyncState.measuring.inj hsync
      exact ⟨state, hstate, rfl, hsent, hreceived⟩
    | @delay state id _ _ _ _ hstate =>
      refine syncFrom_of_kept fun state' hstate' => Or.inr ⟨state, hstate, ?_⟩
      obtain rfl := PortState.slave.inj hstate'
      exact ⟨rfl, rfl⟩
    | peerRequest | peerResponse =>
      exact syncFrom_of_kept fun state' hstate' => Or.inr ⟨state', hstate', rfl, rfl⟩
  · cases h with
    | @sync state id _ _ hstate =>
      refine delayFrom_of_kept fun state' hstate' => Or.inr ⟨state, hstate, ?_⟩
      obtain rfl := PortState.slave.inj hstate'
      exact ⟨rfl, rfl⟩
    | @delay state id s r _ _ hstate hdelay hsent hreceived =>
      intro state' id' sendTime' recvTime' hstate' hdelay'
      obtain rfl := PortState.slave.inj hstate'
      obtain ⟨rfl, rfl, rfl⟩ := DelayState.measuring.inj hdelay'
      exact Or.inr ⟨state, s, r, hstate, rfl, hdelay, hsent, hreceived⟩
    | peerRequest | peerResponse =>
      exact delayFrom_of_kept fun state' hstate' => Or.inr ⟨state', hstate', rfl, rfl⟩
  · cases h with
    | sync | delay => exact peerFrom_of_kept rfl
    | @peerRequest id responder t t2 t3 t4 hpeer hsent =>
      intro id' responder' t1' t2' t3' t4' hpeer'
      obtain ⟨rfl, rfl, rfl, rfl, rfl, rfl⟩ := PeerDelayState.measuring.inj hpeer'
      refine Or.inr ⟨_, _, _, _, _, hpeer, fun _ hs => hs, fun t' ht' => ?_,
        fun _ ht => Or.inr ht, fun _ ht => Or.inr ht, fun _ ht => Or.inr ht⟩
      obtain rfl := Option.some.inj ht'
      exact Or.inl hsent
    | @peerResponse id responder source t1 t2 t3 t4 t2' t3' t4' hpeer hsource h2 h3 h4 =>
      intro id' responder' u1 u2 u3 u4 hpeer'
      obtain ⟨rfl, rfl, rfl, rfl, rfl, rfl⟩ := PeerDelayState.measuring.inj hpeer'
      refine Or.inr ⟨_, _, _, _, _, hpeer, fun i hi => ?_, fun _ ht => Or.inr ht,
        fun t ht => ?_, fun t ht => ?_, fun t ht => ?_⟩
      · rw [hsource i hi]
      · exact (h2 t ht).imp_left fun hreceived => ⟨source, rfl, hreceived⟩
      · exact (h3 t ht).imp_left fun hsent => ⟨source, rfl, hsent⟩
      · exact (h4 t ht).imp_left fun harrived => ⟨source, rfl, harrived⟩

/-! ### The invariant -/

/-- **Every time of an open exchange comes from the history**, while the exchange was open or the
port followed the master. -/
structure Traced (p : Profile) (history : History T) (c : PortCore) : Prop where
  syncSent : ∀ state id t r, c.portState = .slave state →
    state.syncState = .measuring id (some t) r →
    Since history (·.Follows state.remoteMaster) (·.SyncSent p state.remoteMaster id t)
  syncReceived : ∀ state id s t, c.portState = .slave state →
    state.syncState = .measuring id s (some t) →
    Since history (·.Follows state.remoteMaster) (·.SyncReceived p state.remoteMaster id t)
  delaySent : ∀ state id t r, c.portState = .slave state →
    state.delayState = .measuring id (some t) r →
    Since history (InDelayExchange state.remoteMaster id) (·.DelayReqSent id t)
  delayReceived : ∀ state id s t, c.portState = .slave state →
    state.delayState = .measuring id s (some t) →
    Since history (InDelayExchange state.remoteMaster id)
      (·.DelayReqReceived p c.portIdentity state.remoteMaster id t)
  requestSent : ∀ id responder t t2 t3 t4,
    c.peerDelayState = .measuring id responder (some t) t2 t3 t4 →
    Since history (InPeerExchange id) (·.PDelayReqSent id t)
  requestReceived : ∀ id responder t1 t t3 t4,
    c.peerDelayState = .measuring id responder t1 (some t) t3 t4 →
    ∃ source, responder = some source ∧
      Since history (InPeerExchange id) (·.PDelayReqReceived c.portIdentity source id t)
  responseSent : ∀ id responder t1 t2 t t4,
    c.peerDelayState = .measuring id responder t1 t2 (some t) t4 →
    ∃ source, responder = some source ∧
      Since history (InPeerExchange id) (·.PDelayRespSent p c.portIdentity source id t)
  responseArrived : ∀ id responder t1 t2 t3 t,
    c.peerDelayState = .measuring id responder t1 t2 t3 (some t) →
    ∃ source, responder = some source ∧
      Since history (InPeerExchange id) (·.PDelayRespArrived p c.portIdentity source id t)

/-- The times of one answer of a peer: now, or before from the same responder. -/
theorem since_source {history : History T} {P : PortIdentity → PortEvent T → Prop} {id : UInt16}
    {responder responder₀ : Option PortIdentity} (hc : c.InPeerExchange id)
    (hsame : ∀ source, responder₀ = some source → responder = some source)
    (h : (∃ source, responder = some source ∧ P source e) ∨
      ∃ source, responder₀ = some source ∧ Since history (InPeerExchange id) (P source)) :
    ∃ source, responder = some source ∧
      Since (history ++ [(c, e)]) (InPeerExchange id) (P source) := by
  rcases h with ⟨source, hsource, he⟩ | ⟨source, hsource, hsince⟩
  · exact ⟨source, hsource, .now hc he⟩
  · exact ⟨source, hsame source hsource, hsince.later hc⟩

/-- **One step keeps the invariant** when all its times come from the event or from before. -/
theorem Traced.step {history : History T} (h : Traced p history c) (hfrom : TimesFrom p e c c') :
    Traced p (history ++ [(c, e)]) c' := by
  constructor
  case syncSent =>
    intro state' id t r hstate' hsync
    obtain ⟨state, hstate, hmaster, hsent, -⟩ := hfrom.sync state' id (some t) r hstate' hsync
    refine .now_or_later ⟨state, hstate, hmaster⟩ ((hsent t rfl).imp_right ?_)
    rintro ⟨r', hold⟩
    rw [← hmaster]
    exact h.syncSent state id t r' hstate hold
  case syncReceived =>
    intro state' id s t hstate' hsync
    obtain ⟨state, hstate, hmaster, -, hreceived⟩ := hfrom.sync state' id s (some t) hstate' hsync
    refine .now_or_later ⟨state, hstate, hmaster⟩ ((hreceived t rfl).imp_right ?_)
    rintro ⟨s', hold⟩
    rw [← hmaster]
    exact h.syncReceived state id s' t hstate hold
  case delaySent =>
    intro state' id t r hstate' hdelay
    rcases hfrom.delay state' id (some t) r hstate' hdelay with ⟨hnone, -⟩ |
      ⟨state, s₀, r₀, hstate, hmaster, hold, hsent, -⟩
    · cases hnone
    · refine .now_or_later ⟨state, s₀, r₀, hstate, hmaster, hold⟩ ((hsent t rfl).imp_right ?_)
      rintro rfl
      rw [← hmaster]
      exact h.delaySent state id t r₀ hstate hold
  case delayReceived =>
    intro state' id s t hstate' hdelay
    rcases hfrom.delay state' id s (some t) hstate' hdelay with ⟨-, hnone⟩ |
      ⟨state, s₀, r₀, hstate, hmaster, hold, -, hreceived⟩
    · cases hnone
    · rw [hfrom.portIdentity]
      refine .now_or_later ⟨state, s₀, r₀, hstate, hmaster, hold⟩ ((hreceived t rfl).imp_right ?_)
      rintro rfl
      rw [← hmaster]
      exact h.delayReceived state id s₀ t hstate hold
  case requestSent =>
    intro id responder t t2 t3 t4 hpeer
    rcases hfrom.peer id responder (some t) t2 t3 t4 hpeer with ⟨hnone, -⟩ |
      ⟨responder₀, u1, u2, u3, u4, hold, -, h1, -⟩
    · cases hnone
    · refine .now_or_later ⟨_, _, _, _, _, hold⟩ ((h1 t rfl).imp_right ?_)
      rintro rfl
      exact h.requestSent id responder₀ t u2 u3 u4 hold
  case requestReceived =>
    intro id responder t1 t t3 t4 hpeer
    rcases hfrom.peer id responder t1 (some t) t3 t4 hpeer with ⟨-, hnone, -⟩ |
      ⟨responder₀, u1, u2, u3, u4, hold, hsame, -, h2, -⟩
    · cases hnone
    · rw [hfrom.portIdentity]
      refine since_source ⟨_, _, _, _, _, hold⟩ hsame ((h2 t rfl).imp_right ?_)
      rintro rfl
      exact h.requestReceived id responder₀ u1 t u3 u4 hold
  case responseSent =>
    intro id responder t1 t2 t t4 hpeer
    rcases hfrom.peer id responder t1 t2 (some t) t4 hpeer with ⟨-, -, hnone, -⟩ |
      ⟨responder₀, u1, u2, u3, u4, hold, hsame, -, -, h3, -⟩
    · cases hnone
    · rw [hfrom.portIdentity]
      refine since_source ⟨_, _, _, _, _, hold⟩ hsame ((h3 t rfl).imp_right ?_)
      rintro rfl
      exact h.responseSent id responder₀ u1 u2 t u4 hold
  case responseArrived =>
    intro id responder t1 t2 t3 t hpeer
    rcases hfrom.peer id responder t1 t2 t3 (some t) hpeer with ⟨-, -, -, hnone⟩ |
      ⟨responder₀, u1, u2, u3, u4, hold, hsame, -, -, -, h4⟩
    · cases hnone
    · rw [hfrom.portIdentity]
      refine since_source ⟨_, _, _, _, _, hold⟩ hsame ((h4 t rfl).imp_right ?_)
      rintro rfl
      exact h.responseArrived id responder₀ u1 u2 u3 t hold

/-- Closing exchanges keeps it too. -/
theorem Measures.traced {history : History T} (h : Measures p c c') (hc : Traced p history c) :
    Traced p history c' := by
  cases h with
  | idle => exact hc
  | peer =>
    exact ⟨fun state id t r hstate => hc.syncSent state id t r (slave_of_recovered hstate),
      fun state id s t hstate => hc.syncReceived state id s t (slave_of_recovered hstate),
      fun state id t r hstate => hc.delaySent state id t r (slave_of_recovered hstate),
      fun state id s t hstate => hc.delayReceived state id s t (slave_of_recovered hstate),
      fun _ _ _ _ _ _ hpeer => (nomatch hpeer), fun _ _ _ _ _ _ hpeer => (nomatch hpeer),
      fun _ _ _ _ _ _ hpeer => (nomatch hpeer), fun _ _ _ _ _ _ hpeer => (nomatch hpeer)⟩
  | @sync state _ _ _ _ _ _ hstate =>
    refine ⟨fun state' id t r hstate' hsync => ?_, fun state' id s t hstate' hsync => ?_,
      fun state' id t r hstate' hdelay => ?_, fun state' id s t hstate' hdelay => ?_,
      hc.requestSent, hc.requestReceived, hc.responseSent, hc.responseArrived⟩
    all_goals obtain rfl := PortState.slave.inj hstate'
    · cases hsync
    · cases hsync
    · exact hc.delaySent state id t r hstate hdelay
    · exact hc.delayReceived state id s t hstate hdelay
  | @delay state _ _ _ _ _ _ hstate =>
    refine ⟨fun state' id t r hstate' hsync => ?_, fun state' id s t hstate' hsync => ?_,
      fun state' id t r hstate' hdelay => ?_, fun state' id s t hstate' hdelay => ?_,
      hc.requestSent, hc.requestReceived, hc.responseSent, hc.responseArrived⟩
    all_goals obtain rfl := PortState.slave.inj hstate'
    · exact hc.syncSent state id t r hstate hsync
    · exact hc.syncReceived state id s t hstate hsync
    · cases hdelay
    · cases hdelay

/-- A recommended state is a new slave, or the slave that it was. -/
theorem slave_recommended {s : PtpInstanceState} {state : RecommendedState} {slave : SlaveState}
    (h : c.recommendedState s state = .slave slave) :
    c.portState = .slave slave ∨ ∃ master, slave = .new master := by
  unfold recommendedState at h
  cases state with
  | s1 message =>
    dsimp only at h
    split at h
    · cases h
    · exact Or.inr ⟨_, (PortState.slave.inj h).symm⟩
    · exact Or.inr ⟨_, (PortState.slave.inj h).symm⟩
    · exact Or.inr ⟨_, (PortState.slave.inj h).symm⟩
    · rename_i old hold
      split at h
      · exact Or.inl (hold.trans h)
      · exact Or.inr ⟨_, (PortState.slave.inj h).symm⟩
  | m1 _ | m2 _ | m3 _ =>
    dsimp only at h
    split at h
    · split at h <;> cases h
    · split at h
      · cases h
      · split at h <;> cases h
  | p1 _ | p2 _ =>
    dsimp only at h
    split at h <;> cases h

/-- **A step stores times from the event**, and may close an exchange after that. -/
theorem Step.timesFrom (h : Step p e c c') :
    TimesFrom p e c c' ∨ ∃ c₁, Stores p e c c₁ ∧ Measures p c₁ c' := by
  cases h with
  | measure hstores hmeasures => exact Or.inr ⟨_, hstores, hmeasures⟩
  | keep | age =>
    exact Or.inl (timesFrom_of_kept rfl (fun state' hstate' => Or.inl hstate') rfl)
  | fault | disable =>
    exact Or.inl (timesFrom_of_kept rfl (fun state' hstate' => by cases hstate') rfl)
  | timeout =>
    refine Or.inl (timesFrom_of_kept rfl (fun state' hstate' => ?_) rfl)
    dsimp only at hstate'
    split at hstate' <;> cases hstate'
  | recommended =>
    exact Or.inl (timesFrom_of_kept rfl (fun state' hstate' => slave_recommended hstate') rfl)
  | @firstSync state id t hstate hreceived =>
    refine Or.inl ⟨rfl, ?_, ?_, peerFrom_of_kept rfl⟩
    · intro state' id' sendTime recvTime hstate' hsync
      obtain rfl := PortState.slave.inj hstate'
      obtain ⟨rfl, rfl, rfl⟩ := SyncState.measuring.inj hsync
      refine ⟨state, hstate, rfl, fun t' ht' => (nomatch ht'), fun t' ht' => ?_⟩
      obtain rfl := Option.some.inj ht'
      exact Or.inl hreceived
    · refine delayFrom_of_kept fun state' hstate' => Or.inr ⟨state, hstate, ?_⟩
      obtain rfl := PortState.slave.inj hstate'
      exact ⟨rfl, rfl⟩
  | @requestDelay s state id _ hstate =>
    refine Or.inl ⟨rfl, ?_, ?_, peerFrom_of_kept rfl⟩
    · refine syncFrom_of_kept fun state' hstate' => Or.inr ⟨state, hstate, ?_⟩
      obtain rfl := PortState.slave.inj hstate'
      exact ⟨rfl, rfl⟩
    · intro state' id' sendTime recvTime hstate' hdelay
      obtain rfl := PortState.slave.inj hstate'
      obtain ⟨rfl, rfl, rfl⟩ := DelayState.measuring.inj hdelay
      exact Or.inl ⟨rfl, rfl⟩
  | requestPeerDelay =>
    refine Or.inl ⟨rfl, ?_, ?_, ?_⟩
    · exact syncFrom_of_kept fun state' hstate' => Or.inr ⟨state', hstate', rfl, rfl⟩
    · exact delayFrom_of_kept fun state' hstate' => Or.inr ⟨state', hstate', rfl, rfl⟩
    · intro id' responder t1 t2 t3 t4 hpeer
      obtain ⟨rfl, rfl, rfl, rfl, rfl, rfl⟩ := PeerDelayState.measuring.inj hpeer
      exact Or.inl ⟨rfl, rfl, rfl, rfl⟩

/-- **Every step keeps the invariant.** -/
theorem Step.traced {history : History T} (h : Step p e c c') (hc : Traced p history c) :
    Traced p (history ++ [(c, e)]) c' := by
  rcases h.timesFrom with htimes | ⟨c₁, hstores, hmeasures⟩
  · exact hc.step htimes
  · exact hmeasures.traced (hc.step hstores.timesFrom)

/-! ### What a measurement combines -/

/-- **The origin of a measurement** that a port `c` makes: which events of the history it
combines. -/
structure Origin (p : Profile) (history : History T) (c : PortCore) (m : Measurement) : Prop where
  sync : ∀ raw, m.rawSyncOffset = some raw → ∃ master id sendTime recvTime, c.Follows master ∧
    Since history (·.Follows master) (·.SyncSent p master id sendTime) ∧
    Since history (·.Follows master) (·.SyncReceived p master id recvTime) ∧
    Port.rawOffset p recvTime sendTime c.config.delayAsymmetry = .ok raw
  delay : ∀ raw, m.rawDelayOffset = some raw → ∃ master id sendTime recvTime, c.Follows master ∧
    Since history (InDelayExchange master id) (·.DelayReqSent id sendTime) ∧
    Since history (InDelayExchange master id)
      (·.DelayReqReceived p c.portIdentity master id recvTime) ∧
    Port.rawOffset p sendTime recvTime c.config.delayAsymmetry = .ok raw
  peer : ∀ delay, m.peerDelay = some delay → ∃ id responder t1 t2 t3 t4,
    Since history (InPeerExchange id) (·.PDelayReqSent id t1) ∧
    Since history (InPeerExchange id) (·.PDelayReqReceived c.portIdentity responder id t2) ∧
    Since history (InPeerExchange id) (·.PDelayRespSent p c.portIdentity responder id t3) ∧
    Since history (InPeerExchange id) (·.PDelayRespArrived p c.portIdentity responder id t4) ∧
    Port.peerDelay p t1 t2 t3 t4 = .ok delay

variable {history : History T} {m : Measurement}

theorem Traced.syncOrigin {state : SlaveState} {id : UInt16} {sendTime recvTime : Time}
    (hc : Traced p history c) (hstate : c.portState = .slave state)
    (hsync : state.syncState.completed = some (id, sendTime, recvTime)) :
    Since history (·.Follows state.remoteMaster) (·.SyncSent p state.remoteMaster id sendTime) ∧
      Since history (·.Follows state.remoteMaster)
        (·.SyncReceived p state.remoteMaster id recvTime) := by
  unfold SyncState.completed at hsync
  split at hsync
  · rename_i hmeasuring
    obtain ⟨rfl, rfl, rfl⟩ : _ ∧ _ ∧ _ := by simpa using hsync
    exact ⟨hc.syncSent _ _ _ _ hstate hmeasuring, hc.syncReceived _ _ _ _ hstate hmeasuring⟩
  · cases hsync

theorem Traced.delayOrigin {state : SlaveState} {id : UInt16} {sendTime recvTime : Time}
    (hc : Traced p history c) (hstate : c.portState = .slave state)
    (hdelay : state.delayState.completed = some (id, sendTime, recvTime)) :
    Since history (InDelayExchange state.remoteMaster id) (·.DelayReqSent id sendTime) ∧
      Since history (InDelayExchange state.remoteMaster id)
        (·.DelayReqReceived p c.portIdentity state.remoteMaster id recvTime) := by
  unfold DelayState.completed at hdelay
  split at hdelay
  · rename_i hmeasuring
    obtain ⟨rfl, rfl, rfl⟩ : _ ∧ _ ∧ _ := by simpa using hdelay
    exact ⟨hc.delaySent _ _ _ _ hstate hmeasuring, hc.delayReceived _ _ _ _ hstate hmeasuring⟩
  · cases hdelay

theorem Traced.peerOrigin {id : UInt16} {responder : PortIdentity} {times : PeerDelayTimes}
    (hc : Traced p history c)
    (hpeer : c.peerDelayState.completed = some (id, responder, times)) :
    Since history (InPeerExchange id) (·.PDelayReqSent id times.requestSendTime) ∧
      Since history (InPeerExchange id)
        (·.PDelayReqReceived c.portIdentity responder id times.requestRecvTime) ∧
      Since history (InPeerExchange id)
        (·.PDelayRespSent p c.portIdentity responder id times.responseSendTime) ∧
      Since history (InPeerExchange id)
        (·.PDelayRespArrived p c.portIdentity responder id times.responseRecvTime) := by
  unfold PeerDelayState.completed at hpeer
  split at hpeer
  · rename_i hmeasuring
    obtain ⟨rfl, rfl, rfl⟩ : _ ∧ _ ∧ _ := by simpa using hpeer
    obtain ⟨source₂, hsource₂, h₂⟩ := hc.requestReceived _ _ _ _ _ _ hmeasuring
    obtain ⟨source₃, hsource₃, h₃⟩ := hc.responseSent _ _ _ _ _ _ hmeasuring
    obtain ⟨source₄, hsource₄, h₄⟩ := hc.responseArrived _ _ _ _ _ _ hmeasuring
    obtain rfl := Option.some.inj hsource₂
    obtain rfl := Option.some.inj hsource₃
    obtain rfl := Option.some.inj hsource₄
    exact ⟨hc.requestSent _ _ _ _ _ _ hmeasuring, h₂, h₃, h₄⟩
  · cases hpeer

/-- A measurement that is handed over. -/
theorem handed_append_inj {handed : List Measurement} {m m' : Measurement}
    (h : handed ++ [m'] = handed ++ [m]) : m' = m :=
  (List.cons.inj (List.append_cancel_left h)).1

/-- The list of measurements did not grow. -/
theorem handed_ne_append (handed : List Measurement) (m : Measurement) : handed ≠ handed ++ [m] := by
  intro h
  have hlength := congrArg List.length h
  simp at hlength

theorem Measures.origin (h : Measures p c c') (hc : Traced p history c)
    (hm : c'.handed = c.handed ++ [m]) : Origin p history c m := by
  cases h with
  | idle => exact absurd hm (handed_ne_append _ _)
  | peer hpeer hdelay =>
    obtain rfl := handed_append_inj hm
    refine ⟨fun raw hraw => (nomatch hraw), fun raw hraw => (nomatch hraw), fun delay hsome => ?_⟩
    obtain rfl := Option.some.inj hsome
    obtain ⟨h₁, h₂, h₃, h₄⟩ := hc.peerOrigin hpeer
    exact ⟨_, _, _, _, _, _, h₁, h₂, h₃, h₄, hdelay⟩
  | sync _ hstate hsync hraw =>
    obtain rfl := handed_append_inj hm
    refine ⟨fun raw hsome => ?_, fun raw hsome => (nomatch hsome), fun delay hsome => (nomatch hsome)⟩
    obtain rfl := Option.some.inj hsome
    obtain ⟨hsent, hreceived⟩ := hc.syncOrigin hstate hsync
    exact ⟨_, _, _, _, follows_of_slave hstate, hsent, hreceived, hraw⟩
  | delay _ hstate _ hdelay hraw =>
    obtain rfl := handed_append_inj hm
    refine ⟨fun raw hsome => (nomatch hsome), fun raw hsome => ?_, fun delay hsome => (nomatch hsome)⟩
    obtain rfl := Option.some.inj hsome
    obtain ⟨hsent, hreceived⟩ := hc.delayOrigin hstate hdelay
    exact ⟨_, _, _, _, follows_of_slave hstate, hsent, hreceived, hraw⟩

theorem Stores.handed (h : Stores p e c c') : c'.handed = c.handed := by
  cases h <;> rfl

/-- **The origin of every measurement.** -/
theorem Step.origin (h : Step p e c c') (hc : Traced p history c)
    (hm : c'.handed = c.handed ++ [m]) : Origin p (history ++ [(c, e)]) c m := by
  cases h with
  | @measure c₁ _ hstores hmeasures =>
    rw [← hstores.handed] at hm
    have horigin := hmeasures.origin (hc.step hstores.timesFrom) hm
    have hsame := hstores.sameOwner
    constructor
    · intro raw hraw
      obtain ⟨master, id, s, r, hfollows, hrest⟩ := horigin.sync raw hraw
      rw [hsame.config] at hrest
      exact ⟨master, id, s, r, hstores.follows hfollows, hrest⟩
    · intro raw hraw
      obtain ⟨master, id, s, r, hfollows, hrest⟩ := horigin.delay raw hraw
      rw [hsame.config, hsame.portIdentity] at hrest
      exact ⟨master, id, s, r, hstores.follows hfollows, hrest⟩
    · intro delay hdelay
      obtain ⟨id, responder, t1, t2, t3, t4, hrest⟩ := horigin.peer delay hdelay
      rw [hsame.portIdentity] at hrest
      exact ⟨id, responder, t1, t2, t3, t4, hrest⟩
  | _ => exact absurd hm (handed_ne_append _ _)

/-! ### Nothing complete is left -/

/-- No exchange is complete. -/
structure Incomplete (c : PortCore) : Prop where
  peer : c.peerDelayState.completed = none
  slave : c.SlaveIncomplete

/-- At most one exchange is complete. -/
structure OneComplete (c : PortCore) : Prop where
  peer : c.peerDelayState.completed = none ∨ c.SlaveIncomplete
  slave : ∀ state, c.portState = .slave state →
    state.syncState.completed = none ∨ state.delayState.completed = none

/-- An event completes at most one exchange. -/
theorem Stores.oneComplete (h : Stores p e c c') (hc : c.Incomplete) : c'.OneComplete := by
  cases h with
  | sync hold =>
    refine ⟨Or.inl hc.peer, fun state hstate => Or.inr ?_⟩
    obtain rfl := PortState.slave.inj hstate
    exact (hc.slave _ hold).2
  | delay hold =>
    refine ⟨Or.inl hc.peer, fun state hstate => Or.inl ?_⟩
    obtain rfl := PortState.slave.inj hstate
    exact (hc.slave _ hold).1
  | peerRequest | peerResponse =>
    exact ⟨Or.inr hc.slave, fun state hstate => Or.inl (hc.slave state hstate).1⟩

/-- And that one is closed. -/
theorem Measures.incomplete (h : Measures p c c') (hc : c.OneComplete) : c'.Incomplete := by
  cases h with
  | idle hpeer hslave => exact ⟨hpeer, hslave⟩
  | peer hpeer =>
    refine ⟨rfl, fun state hstate => ?_⟩
    have hslave : c.SlaveIncomplete := by
      refine hc.peer.resolve_left fun hnone => ?_
      rw [hnone] at hpeer
      cases hpeer
    exact hslave state (slave_of_recovered hstate)
  | sync hpeer hold hsync =>
    refine ⟨hpeer, fun state hstate => ?_⟩
    obtain rfl := PortState.slave.inj hstate
    refine ⟨rfl, (hc.slave _ hold).resolve_left fun hnone => ?_⟩
    rw [hnone] at hsync
    cases hsync
  | delay hpeer hold hsync =>
    refine ⟨hpeer, fun state hstate => ?_⟩
    obtain rfl := PortState.slave.inj hstate
    exact ⟨hsync, rfl⟩

/-- **A complete exchange is reported at once.** -/
theorem Step.incomplete (h : Step p e c c') (hc : c.Incomplete) : c'.Incomplete := by
  cases h with
  | keep => exact hc
  | age => exact ⟨hc.peer, hc.slave⟩
  | fault | disable => exact ⟨hc.peer, fun state hstate => by cases hstate⟩
  | timeout =>
    refine ⟨hc.peer, fun state hstate => ?_⟩
    dsimp only at hstate
    split at hstate <;> cases hstate
  | recommended =>
    refine ⟨hc.peer, fun state hstate => ?_⟩
    rcases slave_recommended hstate with hold | ⟨master, rfl⟩
    · exact hc.slave state hold
    · exact ⟨rfl, rfl⟩
  | firstSync hold =>
    refine ⟨hc.peer, fun state hstate => ?_⟩
    obtain rfl := PortState.slave.inj hstate
    exact ⟨rfl, (hc.slave _ hold).2⟩
  | requestDelay _ hold =>
    refine ⟨hc.peer, fun state hstate => ?_⟩
    obtain rfl := PortState.slave.inj hstate
    exact ⟨(hc.slave _ hold).1, rfl⟩
  | requestPeerDelay => exact ⟨rfl, hc.slave⟩
  | measure hstores hmeasures => exact hmeasures.incomplete (hstores.oneComplete hc)

/-- **No exchange is complete but unreported**, in terms of the times. -/
structure NothingPending (c : PortCore) : Prop where
  sync : ∀ state id sendTime recvTime, c.portState = .slave state →
    state.syncState ≠ .measuring id (some sendTime) (some recvTime)
  delay : ∀ state id sendTime recvTime, c.portState = .slave state →
    state.delayState ≠ .measuring id (some sendTime) (some recvTime)
  peer : ∀ id responder t1 t2 t3 t4,
    c.peerDelayState ≠ .measuring id responder (some t1) (some t2) (some t3) (some t4)

/-- With all four times there is a responder. -/
theorem Incomplete.nothingPending (h : c.Incomplete) (hc : Traced p history c) :
    c.NothingPending := by
  constructor
  · intro state id sendTime recvTime hstate hsync
    have hnone := (h.slave state hstate).1
    rw [hsync] at hnone
    cases hnone
  · intro state id sendTime recvTime hstate hdelay
    have hnone := (h.slave state hstate).2
    rw [hdelay] at hnone
    cases hnone
  · intro id responder t1 t2 t3 t4 hpeer
    obtain ⟨source, rfl, -⟩ := hc.requestReceived _ _ _ _ _ _ hpeer
    have hnone := h.peer
    rw [hpeer] at hnone
    cases hnone

/-- A new port. -/
theorem traced_nil (hslave : ∀ state, c.portState ≠ .slave state)
    (hpeer : c.peerDelayState = .empty) : Traced p ([] : History T) c := by
  constructor
  case syncSent => exact fun state _ _ _ hstate => absurd hstate (hslave state)
  case syncReceived => exact fun state _ _ _ hstate => absurd hstate (hslave state)
  case delaySent => exact fun state _ _ _ hstate => absurd hstate (hslave state)
  case delayReceived => exact fun state _ _ _ hstate => absurd hstate (hslave state)
  all_goals
    intro id responder t1 t2 t3 t4 hmeasuring
    rw [hpeer] at hmeasuring
    cases hmeasuring

end PortCore

/-! ### Runs of a port -/

namespace Slot

variable {A R C F T : Type} [AcceptableMasterList A] [Clock C] [Filter F] [Rng R]
  [ForwardedTLVProvider T] {p : Profile} {slot : Slot A R C F}
  {log : List (Transition (Slot A R C F) (PortEvent T))}

/-- The history that a run leaves. -/
def history (log : List (Transition (Slot A R C F) (PortEvent T))) : History T :=
  log.map fun t => (t.before.core, t.event)

omit [Clock C] [Rng R] [ForwardedTLVProvider T] in
theorem history_append (t : Transition (Slot A R C F) (PortEvent T)) :
    history (log ++ [t]) = history log ++ [(t.before.core, t.event)] :=
  List.map_append

/-- The invariant along a run. -/
theorem traced_of_trace (h : Trace (Slot.step p) (Slot.Initial p) log slot) :
    PortCore.Traced p (history log) slot.core ∧ slot.core.Incomplete := by
  induction h with
  | init hinit =>
    obtain ⟨config, filterConfig, clock, identity, rng, port, hnew, rfl⟩ := hinit
    obtain ⟨⟨duration, rng'⟩, -, hnew⟩ := bind_eq_ok.mp hnew
    obtain ⟨interval, -, hnew⟩ := bind_eq_ok.mp hnew
    obtain rfl := Except.ok.inj hnew
    exact ⟨PortCore.traced_nil (fun state hstate => by cases hstate) rfl, rfl,
      fun state hstate => by cases hstate⟩
  | step _ hstep ih =>
    have hcore := Slot.step_core hstep
    rw [history_append]
    exact ⟨hcore.traced ih.1, hcore.incomplete ih.2⟩

/-- **Provenance and completeness of measurements.**  Whatever a port receives, and in whatever
order: a measurement that a step hands to the filter combines the times of one exchange (a sync
message and its follow-up from the master that the port has followed since, a delay request and the
answer of that master, or a peer delay request and the answers of one responder), and after every
step no exchange is complete but unreported. -/
theorem measurement_provenance (h : Trace (Slot.step p) (Slot.Initial p) log slot) :
    (∀ earlier t later, log = earlier ++ t :: later → ∀ m : Measurement,
      t.after.core.handed = t.before.core.handed ++ [m] →
        PortCore.Origin p (history (earlier ++ [t])) t.before.core m) ∧
    slot.core.NothingPending := by
  constructor
  · intro earlier t later hlog m hm
    obtain ⟨hearlier, o, hstep⟩ := h.split hlog
    rw [history_append]
    exact (Slot.step_core hstep).origin (traced_of_trace hearlier).1 hm
  · obtain ⟨htraced, hincomplete⟩ := traced_of_trace h
    exact hincomplete.nothingPending htraced

/-- The port of `setup_test_port` becomes a slave and receives a one-step sync message. -/
def receiveSync : List (PortEvent NoForwardedTLVs) :=
  let s := (testSystem testInstanceConfig).state
  let announce : AnnounceMessage := {
    header := { Header.new 1 with sourcePortIdentity := testParent }
    originTimestamp := default
    currentUtcOffset := 0
    grandmasterPriority1 := 1
    grandmasterClockQuality := testInstanceConfig.clockQuality
    grandmasterPriority2 := 1
    grandmasterIdentity := default
    stepsRemoved := 0
    timeSource := .internalOscillator }
  [.recommend s (.s1 announce), .endBmca,
    .eventReceive s ([0x00, 0x12] ++ toBE 2 44 ++ List.replicate 16 0 ++ List.replicate 8 9 ++
      [0, 1, 0, 3, 0, 0] ++ List.replicate 10 0) ⟨⟨5⟩⟩]

/-- The measurement of that message. -/
def syncMeasurement : Measurement where
  eventTime := ⟨⟨5⟩⟩
  rawSyncOffset := some ⟨⟨5⟩⟩

/-- Whether a received event message gave this measurement. -/
def measuresSync (t : Transition (Slot AcceptAnyMaster TestRng TestClock TestFilter)
    (PortEvent NoForwardedTLVs)) : Bool :=
  match t.event with
  | .eventReceive .. =>
    decide (t.after.core.handed = t.before.core.handed ++ [syncMeasurement])
  | _ => true

/-- Its offset is measured. -/
theorem measurement_provenance_one_step_sync :
    ∃ (log : List (Transition (Slot AcceptAnyMaster TestRng TestClock TestFilter)
        (PortEvent NoForwardedTLVs))) (slot : Slot AcceptAnyMaster TestRng TestClock TestFilter),
      Trace (Slot.step .debug) (Slot.Initial .debug) log slot ∧ slot.core.NothingPending ∧
      ∃ earlier t m, log = earlier ++ [t] ∧ m.rawSyncOffset.isSome = true ∧
        t.after.core.handed = t.before.core.handed ++ [m] ∧
        PortCore.Origin .debug (history (earlier ++ [t])) t.before.core m := by
  have hrun : (Port.new (A := AcceptAnyMaster) (R := TestRng) (C := TestClock) (F := TestFilter)
      .debug testPortConfig () ⟨⟩ default ⟨⟩).toOption.any (fun port =>
        Machine.checkSteps (Slot.step .debug) measuresSync (.inBmca port) receiveSync) = true := by
    decide +kernel
  obtain ⟨port, hnew, hrun⟩ := (Option.any_eq_true _ _).mp hrun
  have hinit : Slot.Initial .debug (.inBmca port) :=
    ⟨_, _, _, _, _, port, eq_ok_of_toOption hnew, rfl⟩
  obtain ⟨log, slot, htrace, hevents, hall, -⟩ := Machine.Trace.of_checkSteps _ (.init hinit) hrun
  rw [List.nil_append] at htrace
  obtain ⟨horigin, hpending⟩ := measurement_provenance htrace
  refine ⟨log, slot, htrace, hpending, ?_⟩
  rcases List.eq_nil_or_concat log with rfl | ⟨earlier, t, rfl⟩
  · cases hevents
  · rw [List.concat_eq_append] at hevents hall horigin ⊢
    rw [List.map_append, List.map_singleton] at hevents
    have hsplit : earlier.map (·.event) ++ [t.event] = receiveSync.take 2 ++ receiveSync.drop 2 :=
      hevents
    have hlast := (List.append_inj' hsplit rfl).2
    have hcheck := hall t (List.mem_append_right _ List.mem_cons_self)
    rw [measuresSync, (List.cons.inj hlast).1, decide_eq_true_eq] at hcheck
    exact ⟨earlier, t, _, rfl, rfl, hcheck, horigin earlier t [] rfl _ hcheck⟩

end Slot

end Statime
