import Statime.Port.Servo
import Statime.Port.SlaveOverflow

/-!
# Two-way time transfer

The clock of a slave is `θ` ahead of its master, a message takes `d + a` to the slave and `d - a` back,
and what it waits on its way is in the correction fields.  The exchanges of the two are a `World`, which
says what each sequence id stands for.

* `PortCore.InWorld`: the times that the port stores are those of the exchanges that it measures.
* `PortCore.Measured`: what it measures are `θ + d` and `θ - d`.
* `Slot.step_transfers`: a step keeps this, the last raw offset and the mean delay.
* `Slot.two_way_exact`: in every run the delay is `d` and the offset is `θ`.
-/

namespace Statime

open Rust Machine

/-! ### End-to-end ports -/

namespace PortCore

variable {T : Type} {p : Profile} {e : PortEvent T} {c c' c₁ : PortCore} {state state' : SlaveState}

/-- The port measures delays to its master, and none to its neighbours. -/
structure EndToEnd (c : PortCore) : Prop where
  mechanism : ∃ interval, c.config.delayMechanism = .e2e interval
  peer : c.peerDelayState = .empty

/-- Such a port stores no times of its neighbours. -/
theorem EndToEnd.stores (h : Stores p e c c₁) (hc : c.EndToEnd) : c₁.peerDelayState = .empty := by
  cases h with
  | sync | delay => exact hc.peer
  | peerRequest hpeer | peerResponse hpeer =>
    rw [hc.peer] at hpeer
    cases hpeer

/-- Only a request could start an exchange with a neighbour. -/
theorem EndToEnd.step (h : Step p e c c') (hc : c.EndToEnd) :
    c'.peerDelayState = .empty ∨ ∃ s, e = .delayRequestTimer s := by
  cases h with
  | measure hstores hmeasures =>
    have hpeer := hc.stores hstores
    cases hmeasures with
    | idle => exact Or.inl hpeer
    | sync | delay => exact Or.inl hpeer
    | peer hcompleted =>
      rw [hpeer] at hcompleted
      cases hcompleted
  | requestPeerDelay hs => exact Or.inr ⟨_, hs⟩
  | _ => exact Or.inl hc.peer

/-! ### What is kept -/

theorem Measures.eq_of_handed (h : Measures p c c') (hsame : c'.handed = c.handed) : c' = c := by
  cases h with
  | idle => rfl
  | peer | sync | delay => exact absurd hsame.symm (handed_ne_append _ _)

/-- Without a measurement all times are from the event or from before. -/
theorem Step.timesFrom_of_handed (h : Step p e c c') (hsame : c'.handed = c.handed) :
    TimesFrom p e c c' := by
  rcases h.timesFrom with htimes | ⟨c₁, hstores, hmeasures⟩
  · exact htimes
  · rw [hmeasures.eq_of_handed (hsame.trans hstores.handed.symm)]
    exact hstores.timesFrom

/-- A measurement closes an exchange. -/
theorem Step.measures_of_handed {m : Measurement} (h : Step p e c c')
    (hm : c'.handed = c.handed ++ [m]) : ∃ c₁, Stores p e c c₁ ∧ Measures p c₁ c' := by
  cases h with
  | measure hstores hmeasures => exact ⟨_, hstores, hmeasures⟩
  | _ => exact absurd hm (handed_ne_append _ _)

theorem Stores.lastRawSyncOffset (h : Stores p e c c₁) (hstate : c.portState = .slave state)
    (hstate₁ : c₁.portState = .slave state') :
    state'.lastRawSyncOffset = state.lastRawSyncOffset := by
  cases h with
  | sync hold | delay hold =>
    obtain rfl := PortState.slave.inj (hstate.symm.trans hold)
    rw [← PortState.slave.inj hstate₁]
  | peerRequest | peerResponse => rw [PortState.slave.inj (hstate₁.symm.trans hstate)]

/-- A slave of the same master keeps its last raw offset, until it measures the next. -/
theorem Step.lastRawSyncOffset (h : Step p e c c') (hsame : c'.handed = c.handed)
    (hstate : c.portState = .slave state) (hstate' : c'.portState = .slave state')
    (hmaster : state'.remoteMaster = state.remoteMaster) :
    state'.lastRawSyncOffset = state.lastRawSyncOffset := by
  cases h with
  | keep | age => rw [PortState.slave.inj (hstate'.symm.trans hstate)]
  | requestPeerDelay => rw [PortState.slave.inj (hstate'.symm.trans hstate)]
  | measure hstores hmeasures =>
    obtain rfl := hmeasures.eq_of_handed (hsame.trans hstores.handed.symm)
    exact hstores.lastRawSyncOffset hstate hstate'
  | firstSync hold | requestDelay _ hold =>
    obtain rfl := PortState.slave.inj (hstate.symm.trans hold)
    rw [← PortState.slave.inj hstate']
  | fault | disable => cases hstate'
  | timeout =>
    dsimp only at hstate'
    split at hstate' <;> cases hstate'
  | @recommended s recommended =>
    cases recommended with
    | s1 message =>
      simp only [recommendedState, hstate] at hstate'
      split at hstate'
      · rw [PortState.slave.inj hstate']
      · rename_i hnew
        rw [← PortState.slave.inj hstate'] at hmaster
        exact absurd hmaster.symm hnew
    | m1 | m2 | m3 =>
      simp only [recommendedState, hstate] at hstate'
      split at hstate'
      · cases hstate'
      · split at hstate' <;> cases hstate'
    | p1 | p2 =>
      simp only [recommendedState, hstate] at hstate'
      cases hstate'

end PortCore

/-- **An end-to-end port stays one.** -/
theorem Slot.step_endToEnd {A R C F T : Type} [AcceptableMasterList A] [Clock C] [Filter F] [Rng R]
    [ForwardedTLVProvider T] {p : Profile} {slot slot' : Slot A R C F} {e : PortEvent T}
    {actions : PortActionIterator} (h : slot.step p e = .ok (slot', actions))
    (hc : slot.core.EndToEnd) : slot'.core.EndToEnd := by
  have hcore := Slot.step_core h
  refine ⟨by rw [hcore.sameOwner.config]; exact hc.mechanism, ?_⟩
  rcases PortCore.EndToEnd.step hcore hc with hpeer | ⟨s, rfl⟩
  · exact hpeer
  · cases slot with
    | inBmca port => cases h
    | running port =>
      obtain ⟨⟨port', actions'⟩, hport, h⟩ := bind_eq_ok.mp h
      obtain ⟨rfl, -⟩ := Prod.mk.inj (Except.ok.inj h)
      obtain ⟨interval, hmechanism⟩ := hc.mechanism
      have hport := orPanic_eq_ok.mp hport
      rw [Port.handleDelayRequestTimer, Port.sendDelayRequest,
        show port.config.delayMechanism = _ from hmechanism] at hport
      dsimp only [Port.sendE2eDelayRequest] at hport
      split at hport
      · obtain ⟨⟨buffer, data⟩, -, hport⟩ := bind_eq_ok.mp hport
        obtain ⟨⟨duration, rng⟩, -, hport⟩ := bind_eq_ok.mp hport
        rw [← (Prod.mk.inj (Except.ok.inj hport)).1]
        exact hc.peer
      · rw [← (Prod.mk.inj (Except.ok.inj hport)).1]
        exact hc.peer

/-- In particular a reachable port with the end-to-end mechanism is one. -/
theorem Slot.Reachable.endToEnd {A R C F T : Type} [AcceptableMasterList A] [Clock C] [Filter F] [Rng R]
    [ForwardedTLVProvider T] {p : Profile} {slot : Slot A R C F} (h : Slot.Reachable T p slot)
    (hmechanism : ∃ interval, slot.core.config.delayMechanism = .e2e interval) :
    slot.core.EndToEnd := by
  induction h with
  | init hinit =>
    obtain ⟨config, filterConfig, clock, identity, rng, port, hnew, rfl⟩ := hinit
    obtain ⟨⟨duration, rng'⟩, -, hnew⟩ := bind_eq_ok.mp hnew
    obtain ⟨interval, -, hnew⟩ := bind_eq_ok.mp hnew
    obtain rfl := Except.ok.inj hnew
    exact ⟨hmechanism, rfl⟩
  | step _ hstep ih =>
    rw [(Slot.step_core hstep).sameOwner.config] at hmechanism
    exact Slot.step_endToEnd hstep (ih hmechanism)

/-! ### The world -/

/-- The link between a slave and its master, in units of `2^-32` nanoseconds. -/
structure Link where
  offset : Int
  delay : Int
  asymmetry : Int

/-- A sync exchange: when the master sent the message, and the corrections of the two messages, in units
of `2^-16` nanoseconds. -/
structure SyncExchange where
  sent : Int
  syncCorrection : Int
  followUpCorrection : Int

/-- When the sync message arrives at the slave. -/
def SyncExchange.arrived (link : Link) (x : SyncExchange) : Int :=
  x.sent + link.offset + (link.delay + link.asymmetry) +
    (x.syncCorrection + x.followUpCorrection) * 2 ^ 16

/-- A delay exchange: when the slave sent its request, and the correction of the answer. -/
structure DelayExchange where
  sent : Int
  correction : Int

/-- When the request arrives at the master. -/
def DelayExchange.arrived (link : Link) (y : DelayExchange) : Int :=
  y.sent - link.offset + (link.delay - link.asymmetry) + y.correction * 2 ^ 16

/-- The exchanges that the sequence ids stand for. -/
structure World where
  sync : UInt16 → SyncExchange
  delay : UInt16 → DelayExchange

namespace World

variable {T : Type}

/-- **What an event carries**: the messages of the master and the transmit timestamps are those of the
exchanges. -/
structure Carries (w : World) (link : Link) (own master : PortIdentity) (e : PortEvent T) : Prop where
  sync : ∀ message body t, e.ReceivesAt message t → message.body = .sync body →
    message.header.sourcePortIdentity = master →
    message.header.correctionField.toInt = (w.sync message.header.sequenceId).syncCorrection ∧
    t.toInt = (w.sync message.header.sequenceId).arrived link ∧
    (message.header.twoStepFlag = false →
      (Time.ofWireTimestamp body.originTimestamp).toInt = (w.sync message.header.sequenceId).sent ∧
      (w.sync message.header.sequenceId).followUpCorrection = 0)
  followUp : ∀ message body, e.Receives message → message.body = .followUp body →
    message.header.sourcePortIdentity = master →
    message.header.correctionField.toInt = (w.sync message.header.sequenceId).followUpCorrection ∧
    (Time.ofWireTimestamp body.preciseOriginTimestamp).toInt =
      (w.sync message.header.sequenceId).sent
  delayReq : ∀ id t, e.DelayReqSent id t → t.toInt = (w.delay id).sent
  delayResp : ∀ message body, e.Receives message → message.body = .delayResp body →
    message.header.sourcePortIdentity = master → body.requestingPortIdentity = own →
    message.header.correctionField.toInt = (w.delay message.header.sequenceId).correction ∧
    (Time.ofWireTimestamp body.receiveTimestamp).toInt =
      (w.delay message.header.sequenceId).arrived link

/-- **The world of the next moment**: an id may stand for another exchange, unless the port is in the
middle of one with this id. -/
structure Next (w w' : World) (c : PortCore) : Prop where
  sync : ∀ state id s r, c.portState = .slave state → state.syncState = .measuring id s r →
    w'.sync id = w.sync id
  delay : ∀ state id s r, c.portState = .slave state → state.delayState = .measuring id s r →
    w'.delay id = w.delay id

theorem next_refl (w : World) (c : PortCore) : w.Next w c :=
  ⟨fun _ _ _ _ _ _ => rfl, fun _ _ _ _ _ _ => rfl⟩

end World

namespace PortCore

variable {T : Type} {p : Profile} {e : PortEvent T} {c c' c₁ : PortCore} {link : Link} {w w' : World}
  {own master : PortIdentity}

/-- The times that an event brings, corrected. -/
structure Sources (p : Profile) (w : World) (link : Link) (own master : PortIdentity)
    (e : PortEvent T) : Prop where
  syncSent : ∀ id t, e.SyncSent p master id t →
    t.toInt = (w.sync id).sent + (w.sync id).followUpCorrection * 2 ^ 16
  syncReceived : ∀ id t, e.SyncReceived p master id t →
    t.toInt = (w.sync id).arrived link - (w.sync id).syncCorrection * 2 ^ 16
  delaySent : ∀ id t, e.DelayReqSent id t → t.toInt = (w.delay id).sent
  delayReceived : ∀ id t, e.DelayReqReceived p own master id t →
    t.toInt = (w.delay id).arrived link - (w.delay id).correction * 2 ^ 16

/-- Where nothing overflows the corrections are exact. -/
theorem sources_debug (h : w.Carries link own master e) : Sources .debug w link own master e := by
  constructor
  case syncSent =>
    rintro id t (⟨message, body, hm, hbody, hsource, rfl, hsum⟩ |
      ⟨message, body, timestamp, hm, hbody, hsource, rfl, hone, rfl⟩)
    · obtain ⟨hcorrection, hsent⟩ := h.followUp message body hm hbody hsource
      rw [Time.add_debug hsum, Duration.toInt_ofTimeInterval, hsent, hcorrection]
    · obtain ⟨-, -, hsent⟩ := h.sync message body timestamp hm hbody hsource
      obtain ⟨hsent, hzero⟩ := hsent hone
      rw [hsent, hzero]
      omega
  case syncReceived =>
    rintro id t ⟨message, body, timestamp, hm, hbody, hsource, rfl, hdiff⟩
    obtain ⟨hcorrection, harrived, -⟩ := h.sync message body timestamp hm hbody hsource
    rw [Time.sub_debug hdiff, Duration.toInt_ofTimeInterval, harrived, hcorrection]
  case delaySent => exact h.delayReq
  case delayReceived =>
    rintro id t ⟨message, body, hm, hbody, hsource, hown, rfl, hdiff⟩
    obtain ⟨hcorrection, hreceived⟩ := h.delayResp message body hm hbody hsource hown
    rw [Time.sub_debug hdiff, Duration.toInt_ofTimeInterval, hreceived, hcorrection]

theorem sources_of_withoutTimes (h : e.WithoutTimes) : Sources p w link own master e := by
  constructor
  case syncSent => exact fun id t hsent => absurd hsent (h.not_syncSent master id t)
  case syncReceived =>
    exact fun id t hreceived => absurd hreceived (h.not_syncReceived master id t)
  case delaySent => exact fun id t hsent => absurd hsent (h.delayReqSent id t)
  case delayReceived =>
    rintro id t ⟨message, body, hm, hbody, -⟩
    exact absurd hm (h.not_receives (by rw [hbody]; rfl))

/-! ### The invariant -/

/-- **The stored times are those of the world.** -/
structure InWorld (link : Link) (w : World) (c : PortCore) : Prop where
  syncSent : ∀ state id t r, c.portState = .slave state →
    state.syncState = .measuring id (some t) r →
    t.toInt = (w.sync id).sent + (w.sync id).followUpCorrection * 2 ^ 16
  syncReceived : ∀ state id s t, c.portState = .slave state →
    state.syncState = .measuring id s (some t) →
    t.toInt = (w.sync id).arrived link - (w.sync id).syncCorrection * 2 ^ 16
  delaySent : ∀ state id t r, c.portState = .slave state →
    state.delayState = .measuring id (some t) r → t.toInt = (w.delay id).sent
  delayReceived : ∀ state id s t, c.portState = .slave state →
    state.delayState = .measuring id s (some t) →
    t.toInt = (w.delay id).arrived link - (w.delay id).correction * 2 ^ 16

theorem InWorld.next (h : c.InWorld link w) (hw : w.Next w' c) : c.InWorld link w' := by
  constructor
  case syncSent =>
    intro state id t r hstate hsync
    rw [hw.sync state id _ r hstate hsync]
    exact h.syncSent state id t r hstate hsync
  case syncReceived =>
    intro state id s t hstate hsync
    rw [hw.sync state id s _ hstate hsync]
    exact h.syncReceived state id s t hstate hsync
  case delaySent =>
    intro state id t r hstate hdelay
    rw [hw.delay state id _ r hstate hdelay]
    exact h.delaySent state id t r hstate hdelay
  case delayReceived =>
    intro state id s t hstate hdelay
    rw [hw.delay state id s _ hstate hdelay]
    exact h.delayReceived state id s t hstate hdelay

/-- Storing times of the world. -/
theorem TimesFrom.inWorld (h : TimesFrom p e c c') (hc : c.InWorld link w)
    (he : Sources p w link c.portIdentity master e) (hmaster : c'.Follows master) :
    c'.InWorld link w := by
  have hremote : ∀ state, c'.portState = .slave state → state.remoteMaster = master := by
    intro state hstate
    obtain ⟨state', hstate', hremote⟩ := hmaster
    rw [PortState.slave.inj (hstate.symm.trans hstate')]
    exact hremote
  constructor
  case syncSent =>
    intro state' id t r hstate' hsync
    obtain ⟨state, hstate, -, hsent, -⟩ := h.sync state' id (some t) r hstate' hsync
    rw [hremote state' hstate'] at hsent
    rcases hsent t rfl with hnew | ⟨r', hold⟩
    · exact he.syncSent id t hnew
    · exact hc.syncSent state id t r' hstate hold
  case syncReceived =>
    intro state' id s t hstate' hsync
    obtain ⟨state, hstate, -, -, hreceived⟩ := h.sync state' id s (some t) hstate' hsync
    rw [hremote state' hstate'] at hreceived
    rcases hreceived t rfl with hnew | ⟨s', hold⟩
    · exact he.syncReceived id t hnew
    · exact hc.syncReceived state id s' t hstate hold
  case delaySent =>
    intro state' id t r hstate' hdelay
    rcases h.delay state' id (some t) r hstate' hdelay with ⟨hnone, -⟩ |
      ⟨state, s₀, r₀, hstate, -, hold, hsent, -⟩
    · cases hnone
    · rcases hsent t rfl with hnew | rfl
      · exact he.delaySent id t hnew
      · exact hc.delaySent state id t r₀ hstate hold
  case delayReceived =>
    intro state' id s t hstate' hdelay
    rcases h.delay state' id s (some t) hstate' hdelay with ⟨-, hnone⟩ |
      ⟨state, s₀, r₀, hstate, -, hold, -, hreceived⟩
    · cases hnone
    · rw [hremote state' hstate'] at hreceived
      rcases hreceived t rfl with hnew | rfl
      · exact he.delayReceived id t hnew
      · exact hc.delayReceived state id s₀ t hstate hold

/-- **What a slave measures** in this world: the raw offsets are `θ + d` and `θ - d`. -/
inductive Measured (link : Link) (c₁ c' : PortCore) (m : Measurement) : Prop
  | sync {state : SlaveState} {raw : Duration} : c₁.portState = .slave state →
    m.rawSyncOffset = some raw → m.rawDelayOffset = none → m.delay = none → m.peerDelay = none →
    raw.toInt = link.offset + link.delay →
    c'.portState = .slave { state with lastRawSyncOffset := some raw, syncState := .empty } →
    Measured link c₁ c' m
  | delay {state : SlaveState} {raw : Duration} : c₁.portState = .slave state →
    m.rawSyncOffset = none → m.rawDelayOffset = some raw → m.peerDelay = none →
    raw.toInt = link.offset - link.delay →
    c'.portState = .slave { state with delayState := .empty } → Measured link c₁ c' m

theorem Measures.measured {m : Measurement} (h : Measures .debug c₁ c') (hc : c₁.InWorld link w)
    (hpeer : c₁.peerDelayState = .empty) (hlink : c₁.config.delayAsymmetry.toInt = link.asymmetry)
    (hm : c'.handed = c₁.handed ++ [m]) : Measured link c₁ c' m := by
  cases h with
  | idle => exact absurd hm (handed_ne_append _ _)
  | peer hcompleted =>
    rw [hpeer] at hcompleted
    cases hcompleted
  | @sync state id sendTime recvTime raw offset _ hstate hcompleted hraw =>
    obtain rfl := handed_append_inj hm
    refine .sync hstate rfl rfl rfl rfl ?_ rfl
    unfold SyncState.completed at hcompleted
    split at hcompleted
    · rename_i hsync
      obtain ⟨rfl, rfl, rfl⟩ : _ ∧ _ ∧ _ := by simpa using hcompleted
      have hs := hc.syncSent state _ _ _ hstate hsync
      have hr := hc.syncReceived state _ _ _ hstate hsync
      rw [Port.rawOffset_debug hraw, hs, hr, hlink, SyncExchange.arrived]
      ring
    · cases hcompleted
  | @delay state id sendTime recvTime raw delay _ hstate _ hcompleted hraw =>
    obtain rfl := handed_append_inj hm
    refine .delay hstate rfl rfl rfl ?_ rfl
    unfold DelayState.completed at hcompleted
    split at hcompleted
    · rename_i hdelay
      obtain ⟨rfl, rfl, rfl⟩ : _ ∧ _ ∧ _ := by simpa using hcompleted
      have hs := hc.delaySent state _ _ _ hstate hdelay
      have hr := hc.delayReceived state _ _ _ hstate hdelay
      rw [Port.rawOffset_debug hraw, hs, hr, hlink, DelayExchange.arrived]
      ring
    · cases hcompleted

/-- The exchanges that are left. -/
theorem Measured.inWorld {m : Measurement} (h : Measured link c₁ c' m) (hc : c₁.InWorld link w) :
    c'.InWorld link w := by
  cases h with
  | sync hstate₁ _ _ _ _ _ hstate' =>
    refine ⟨fun state id t r hstate hsync => ?_, fun state id s t hstate hsync => ?_,
      fun state id t r hstate hdelay => ?_, fun state id s t hstate hdelay => ?_⟩
    all_goals obtain rfl := PortState.slave.inj (hstate'.symm.trans hstate)
    · cases hsync
    · cases hsync
    · exact hc.delaySent _ id t r hstate₁ hdelay
    · exact hc.delayReceived _ id s t hstate₁ hdelay
  | delay hstate₁ _ _ _ _ hstate' =>
    refine ⟨fun state id t r hstate hsync => ?_, fun state id s t hstate hsync => ?_,
      fun state id t r hstate hdelay => ?_, fun state id s t hstate hdelay => ?_⟩
    all_goals obtain rfl := PortState.slave.inj (hstate'.symm.trans hstate)
    · exact hc.syncSent _ id t r hstate₁ hsync
    · exact hc.syncReceived _ id s t hstate₁ hsync
    · cases hdelay
    · cases hdelay

end PortCore

/-! ### Runs -/

/-- A filter that reports the delay of a measurement as the mean delay, and none by itself. -/
structure ReportsDelay (F C : Type) [Clock C] [Filter F] : Prop where
  measurement : ∀ (filter : F) (m : Measurement) (clock : C), m.peerDelay = none →
    (Filter.measurement filter m clock).2.2.meanDelay = m.delay
  update : ∀ (filter : F) (clock : C), (Filter.update filter clock).2.2.meanDelay = none

namespace Slot

variable {A R C F T : Type} [AcceptableMasterList A] [Clock C] [Filter F] [Rng R]
  [ForwardedTLVProvider T] {p : Profile} {slot slot' : Slot A R C F} {e : PortEvent T}
  {actions : PortActionIterator} {log : List (Transition (Slot A R C F) (PortEvent T))}
  {link : Link} {w w' : World} {master : PortIdentity} {m : Measurement}

/-- The step handed this measurement to the filter. -/
def Hands (t : Transition (Slot A R C F) (PortEvent T)) (m : Measurement) : Prop :=
  t.after.core.handed = t.before.core.handed ++ [m]

/-- A sync exchange was completed. -/
def AfterSync (log : List (Transition (Slot A R C F) (PortEvent T))) : Prop :=
  ∃ t ∈ log, ∃ m, Hands t m ∧ m.rawSyncOffset ≠ none

/-- A delay exchange was completed after a sync exchange. -/
def AfterDelay (log : List (Transition (Slot A R C F) (PortEvent T))) : Prop :=
  ∃ earlier t later m, log = earlier ++ t :: later ∧ AfterSync earlier ∧ Hands t m ∧
    m.rawDelayOffset ≠ none

omit [Clock C] [Rng R] [ForwardedTLVProvider T] in
theorem AfterDelay.afterSync (h : AfterDelay log) : AfterSync log := by
  obtain ⟨earlier, t, later, m, rfl, ⟨t', ht', hm⟩, -⟩ := h
  exact ⟨t', List.mem_append_left _ ht', hm⟩

omit [Clock C] [Rng R] [ForwardedTLVProvider T] in
theorem AfterSync.append {t : Transition (Slot A R C F) (PortEvent T)}
    (h : AfterSync (log ++ [t])) : AfterSync log ∨ ∃ m, Hands t m ∧ m.rawSyncOffset ≠ none := by
  obtain ⟨t', ht', hm⟩ := h
  rcases List.mem_append.mp ht' with hold | hnew
  · exact Or.inl ⟨t', hold, hm⟩
  · obtain rfl := List.mem_singleton.mp hnew
    exact Or.inr hm

omit [Clock C] [Rng R] [ForwardedTLVProvider T] in
theorem AfterDelay.append {t : Transition (Slot A R C F) (PortEvent T)}
    (h : AfterDelay (log ++ [t])) :
    AfterDelay log ∨ AfterSync log ∧ ∃ m, Hands t m ∧ m.rawDelayOffset ≠ none := by
  obtain ⟨earlier, t', later, m, hlog, hsync, hm, hdelay⟩ := h
  rcases List.eq_nil_or_concat later with rfl | ⟨later', last, rfl⟩
  · obtain ⟨rfl, hlast⟩ := List.append_inj' hlog rfl
    obtain rfl := (List.cons.inj hlast).1
    exact Or.inr ⟨hsync, m, hm, hdelay⟩
  · rw [List.concat_eq_append, ← List.cons_append, ← List.append_assoc] at hlog
    exact Or.inl ⟨earlier, t', later', m, (List.append_inj' hlog rfl).1, hsync, hm, hdelay⟩

/-- **The invariant of a run.** -/
structure Transfers (link : Link) (w : World) (master : PortIdentity)
    (log : List (Transition (Slot A R C F) (PortEvent T))) (slot : Slot A R C F) : Prop where
  endToEnd : slot.core.EndToEnd
  follows : slot.core.Follows master
  asymmetry : slot.core.config.delayAsymmetry.toInt = link.asymmetry
  inWorld : slot.core.InWorld link w
  rawSync : AfterSync log → ∀ state, slot.core.portState = .slave state →
    ∃ raw, state.lastRawSyncOffset = some raw ∧ raw.toInt = link.offset + link.delay
  meanDelay : AfterDelay log →
    ∃ delay, slot.servo.meanDelay = some delay ∧ delay.toInt = link.delay

/-- **What a measurement says** when the link is as it is. -/
structure Exact (link : Link) (log : List (Transition (Slot A R C F) (PortEvent T)))
    (m : Measurement) : Prop where
  delay : AfterSync log → m.rawDelayOffset ≠ none →
    ∃ delay, m.delay = some delay ∧ delay.toInt = link.delay
  offset : AfterDelay log → m.rawSyncOffset ≠ none →
    ∃ offset, m.offset = some offset ∧ offset.toInt = link.offset

omit [Clock C] [Rng R] [ForwardedTLVProvider T] in
theorem core_handed (slot : Slot A R C F) : slot.core.handed = slot.servo.handed := by
  cases slot <;> rfl

omit [Clock C] [Rng R] [ForwardedTLVProvider T] in
/-- A step without a measurement. -/
theorem transfers_of_kept {t : Transition (Slot A R C F) (PortEvent T)}
    (h : Transfers link w master log t.before)
    (hcore : PortCore.Step p t.event t.before.core t.after.core)
    (hhanded : t.after.core.handed = t.before.core.handed)
    (hmean : t.after.servo.meanDelay = t.before.servo.meanDelay)
    (hsources : PortCore.Sources p w link t.before.core.portIdentity master t.event)
    (hnext : w.Next w' t.after.core) (hend : t.after.core.EndToEnd)
    (hfollows : t.after.core.Follows master) :
    Transfers link w' master (log ++ [t]) t.after := by
  have hnone : ∀ m, ¬ Hands t m :=
    fun m hm => PortCore.handed_ne_append _ _ (hhanded.symm.trans hm)
  refine ⟨hend, hfollows, by rw [hcore.sameOwner.config]; exact h.asymmetry, ?_, ?_, ?_⟩
  · exact ((hcore.timesFrom_of_handed hhanded).inWorld h.inWorld hsources hfollows).next hnext
  · intro hafter state' hstate'
    rcases hafter.append with hold | ⟨m, hm, -⟩
    · obtain ⟨state, hstate, hremote⟩ := h.follows
      obtain ⟨state₁, hstate₁, hremote'⟩ := hfollows
      obtain rfl := PortState.slave.inj (hstate₁.symm.trans hstate')
      rw [hcore.lastRawSyncOffset hhanded hstate hstate' (hremote'.trans hremote.symm)]
      exact h.rawSync hold state hstate
    · exact absurd hm (hnone m)
  · intro hafter
    rcases hafter.append with hold | ⟨-, m, hm, -⟩
    · rw [hmean]
      exact h.meanDelay hold
    · exact absurd hm (hnone m)

omit [AcceptableMasterList A] [Rng R] in
/-- The mean delay after a measurement that is not of a neighbour. -/
theorem meanDelay_of_hands (hfilter : ReportsDelay F C) {port port' : Port Running A R C F}
    (h : port.Hands p port' m) (hpeer : m.peerDelay = none) :
    port'.meanDelay = m.delay.or port.meanDelay := by
  obtain ⟨servo, hsettles, hservo⟩ := h.servo
  have hmean : port'.meanDelay = (servo.measure m).meanDelay := congrArg Servo.meanDelay hservo
  rw [hmean, Servo.measure]
  dsimp only
  rw [hfilter.measurement _ _ _ hpeer, hsettles.meanDelay]
  rfl

omit [Rng R] [ForwardedTLVProvider T] in
/-- **A step with a measurement.** -/
theorem transfers_of_hands (hfilter : ReportsDelay F C) {port port' : Port Running A R C F}
    (h : Transfers link w master log (running port))
    (hcore : PortCore.Step .debug e port.core port'.core) (hands : port.Hands .debug port' m)
    (hsources : PortCore.Sources .debug w link port.portIdentity master e)
    (hnext : w.Next w' port'.core) (hend : port'.core.EndToEnd)
    (hfollows : port'.core.Follows master) :
    Transfers link w' master (log ++ [⟨running port, e, running port'⟩]) (running port') ∧
      Exact link log m := by
  have hm : port'.core.handed = port.core.handed ++ [m] := hands.handed
  have hsame : ∀ m', Hands ⟨running port, e, running port'⟩ m' → m' = m :=
    fun m' hm' => (PortCore.handed_append_inj (hm.symm.trans hm')).symm
  obtain ⟨c₁, hstores, hmeasures⟩ := hcore.measures_of_handed hm
  have hc₁ := hstores.timesFrom.inWorld h.inWorld hsources (hmeasures.follows hfollows)
  have hmeasured := hmeasures.measured hc₁ (h.endToEnd.stores hstores)
    (by rw [hstores.sameOwner.config]; exact h.asymmetry) (by rw [hm, hstores.handed])
  have hasymmetry : port'.core.config.delayAsymmetry.toInt = link.asymmetry := by
    rw [hcore.sameOwner.config]
    exact h.asymmetry
  have hinWorld := (hmeasured.inWorld hc₁).next hnext
  obtain ⟨state, hstate, -⟩ := h.follows
  cases hmeasured with
  | @sync state₁ raw hstate₁ hrawSync hrawDelay hdelay hpeer hraw hstate' =>
    refine ⟨⟨hend, hfollows, hasymmetry, hinWorld, fun _ state' hslave => ?_, fun hafter => ?_⟩,
      fun _ hsome => absurd hrawDelay hsome, fun hafter _ => ?_⟩
    · obtain rfl := PortState.slave.inj (hstate'.symm.trans hslave)
      exact ⟨raw, rfl, hraw⟩
    · rcases hafter.append with hold | ⟨-, m', hm', hsome⟩
      · rw [show (running port').servo.meanDelay = port'.meanDelay from rfl,
          meanDelay_of_hands hfilter hands hpeer, hdelay]
        exact h.meanDelay hold
      · rw [hsame m' hm'] at hsome
        exact absurd hrawDelay hsome
    · obtain ⟨delay, hmean, hint⟩ := h.meanDelay hafter
      have hoffset := hands.offset raw hrawSync
      rw [show port.meanDelay = some delay from hmean] at hoffset
      obtain ⟨offset, hsub, hoffset⟩ := bind_eq_ok.mp hoffset
      refine ⟨offset, (Except.ok.inj hoffset).symm, ?_⟩
      rw [Duration.sub_debug hsub, hraw, hint]
      omega
  | @delay state₁ raw hstate₁ hrawSync hrawDelay hpeer hraw hstate' =>
    -- the delay that is measured after a sync exchange
    have hexact : AfterSync log → ∃ delay, m.delay = some delay ∧ delay.toInt = link.delay := by
      intro hafter
      obtain ⟨last, hlast, hint⟩ := h.rawSync hafter state hstate
      have hdelay := hands.delay raw state hrawDelay hstate
      rw [hlast] at hdelay
      obtain ⟨twice, htwice, hdelay⟩ := bind_eq_ok.mp hdelay
      obtain ⟨delay, hdiv, hdelay⟩ := bind_eq_ok.mp hdelay
      obtain ⟨half, hhalf, hhalfInt⟩ := Duration.div_two .debug twice
      obtain rfl := Except.ok.inj (hhalf.symm.trans hdiv)
      refine ⟨half, (Except.ok.inj hdelay).symm, ?_⟩
      rw [hhalfInt, Duration.sub_debug htwice, hint, hraw,
        show link.offset + link.delay - (link.offset - link.delay) = 2 * link.delay by ring]
      exact Int.mul_tdiv_cancel_left _ (by decide)
    refine ⟨⟨hend, hfollows, hasymmetry, hinWorld, fun hafter state' hslave => ?_, fun hafter => ?_⟩,
      fun hafter _ => hexact hafter, fun _ hsome => absurd hrawSync hsome⟩
    · obtain rfl := PortState.slave.inj (hstate'.symm.trans hslave)
      rcases hafter.append with hold | ⟨m', hm', hsome⟩
      · rw [show ({ state₁ with delayState := .empty } : SlaveState).lastRawSyncOffset =
          state₁.lastRawSyncOffset from rfl, hstores.lastRawSyncOffset hstate hstate₁]
        exact h.rawSync hold state hstate
      · rw [hsame m' hm'] at hsome
        exact absurd hrawSync hsome
    · rw [show (running port').servo.meanDelay = port'.meanDelay from rfl,
        meanDelay_of_hands hfilter hands hpeer]
      have hsync : AfterSync log := hafter.append.elim AfterDelay.afterSync And.left
      obtain ⟨delay, hdelay, hint⟩ := hexact hsync
      rw [hdelay]
      exact ⟨delay, rfl, hint⟩

/-- **A step in the world.** -/
theorem step_transfers (hfilter : ReportsDelay F C) (h : Transfers link w master log slot)
    (hstep : slot.step p e = .ok (slot', actions))
    (hrange : ∀ port, slot = .running port → port.NoOverflow e)
    (hcarries : w.Carries link slot.core.portIdentity master e) (hnext : w.Next w' slot'.core)
    (hfollows : slot'.core.Follows master) :
    Transfers link w' master (log ++ [⟨slot, e, slot'⟩]) slot' ∧
      ∀ m, Hands ⟨slot, e, slot'⟩ m → Exact link log m := by
  have hend := step_endToEnd hstep h.endToEnd
  obtain ⟨q, hq, hstep, hsources⟩ : ∃ q, (q = .debug ∨ e.WithoutTimes) ∧
      slot.step q e = .ok (slot', actions) ∧
      PortCore.Sources q w link slot.core.portIdentity master e := by
    rcases step_debug_or_withoutTimes hrange hstep with hdebug | hwithout
    · exact ⟨.debug, Or.inl rfl, hdebug, PortCore.sources_debug hcarries⟩
    · exact ⟨p, Or.inr hwithout, hstep, PortCore.sources_of_withoutTimes hwithout⟩
  have hcore := Slot.step_core hstep
  have hkept : slot'.servo.handed = slot.servo.handed →
      slot'.servo.meanDelay = slot.servo.meanDelay →
      Transfers link w' master (log ++ [⟨slot, e, slot'⟩]) slot' ∧
        ∀ m, Hands ⟨slot, e, slot'⟩ m → Exact link log m := by
    intro hhanded hmean
    have hsame : slot'.core.handed = slot.core.handed := by rw [core_handed, core_handed, hhanded]
    exact ⟨transfers_of_kept (t := ⟨slot, e, slot'⟩) h hcore hsame hmean hsources hnext hend hfollows,
      fun m hm => absurd (hsame.symm.trans hm) (PortCore.handed_ne_append _ _)⟩
  cases step_serves hstep with
  | settles hsettles => exact hkept hsettles.handed hsettles.meanDelay
  | updates _ hservo =>
    refine hkept (by rw [hservo]; rfl) ?_
    rw [hservo, Servo.update]
    dsimp only
    rw [hfilter.update]
    rfl
  | @measures port port' m htimes hands =>
    obtain rfl := hq.resolve_right htimes
    obtain ⟨htransfers, hexact⟩ :=
      transfers_of_hands hfilter h hcore hands hsources hnext hend hfollows
    refine ⟨htransfers, fun m' hm' => ?_⟩
    obtain rfl := PortCore.handed_append_inj (hands.handed.symm.trans hm')
    exact hexact

/-- The start: a slave without exchanges, with any mean delay and any last raw offset. -/
def Starts (link : Link) (master : PortIdentity) (port : Port Running A R C F) : Prop :=
  port.core.EndToEnd ∧ port.config.delayAsymmetry.toInt = link.asymmetry ∧
    ∃ last, port.portState = .slave ⟨master, .empty, .empty, last⟩

omit [Clock C] [Rng R] [ForwardedTLVProvider T] in
theorem Starts.transfers {port : Port Running A R C F} (h : Starts link master port) (w : World) :
    Transfers (T := T) link w master [] (running port) := by
  obtain ⟨hend, hasymmetry, last, hstate⟩ := h
  refine ⟨hend, ⟨_, hstate, rfl⟩, hasymmetry, ⟨?_, ?_, ?_, ?_⟩, fun hafter => ?_, fun hafter => ?_⟩
  · intro state id t r hslave hsync
    obtain rfl := PortState.slave.inj (hstate.symm.trans hslave)
    cases hsync
  · intro state id s t hslave hsync
    obtain rfl := PortState.slave.inj (hstate.symm.trans hslave)
    cases hsync
  · intro state id t r hslave hdelay
    obtain rfl := PortState.slave.inj (hstate.symm.trans hslave)
    cases hdelay
  · intro state id s t hslave hdelay
    obtain rfl := PortState.slave.inj (hstate.symm.trans hslave)
    cases hdelay
  · obtain ⟨t, ht, -⟩ := hafter
    cases ht
  · obtain ⟨t, ht, -⟩ := hafter.afterSync
    cases ht

/-- **A run in the world**: at the moment `i` the exchanges are those of `worlds i`, the port goes on to
follow the master, and nothing overflows. -/
structure InWorlds (link : Link) (master : PortIdentity) (worlds : Nat → World)
    (log : List (Transition (Slot A R C F) (PortEvent T))) : Prop where
  carries : ∀ i t, log[i]? = some t →
    (worlds i).Carries link t.before.core.portIdentity master t.event
  next : ∀ i t, log[i]? = some t → (worlds i).Next (worlds (i + 1)) t.after.core
  follows : ∀ t ∈ log, t.after.core.Follows master
  noOverflow : ∀ t ∈ log, ∀ port, t.before = running port → port.NoOverflow t.event

omit [Rng R] [ForwardedTLVProvider T] in
theorem InWorlds.append {worlds : Nat → World}
    {later : List (Transition (Slot A R C F) (PortEvent T))}
    (h : InWorlds link master worlds (log ++ later)) : InWorlds link master worlds log := by
  have hget : ∀ (i : Nat) t, log[i]? = some t → (log ++ later)[i]? = some t := by
    intro i t ht
    rw [List.getElem?_append_left (List.getElem?_eq_some_iff.mp ht).1]
    exact ht
  exact ⟨fun i t ht => h.carries i t (hget i t ht), fun i t ht => h.next i t (hget i t ht),
    fun t ht => h.follows t (List.mem_append_left _ ht),
    fun t ht => h.noOverflow t (List.mem_append_left _ ht)⟩

/-- **The invariant along a run.** -/
theorem transfers_of_trace (hfilter : ReportsDelay F C) {start : Port Running A R C F}
    (hstart : Starts link master start) {worlds : Nat → World}
    (h : Trace (Slot.step p) (· = running start) log slot)
    (hworlds : InWorlds link master worlds log) :
    Transfers link (worlds log.length) master log slot := by
  induction h with
  | init hinit =>
    subst hinit
    exact hstart.transfers _
  | @step log slot slot' e actions htrace hstep ih =>
    have hlast : (log ++ [⟨slot, e, slot'⟩])[log.length]? = some ⟨slot, e, slot'⟩ :=
      List.getElem?_concat_length
    have hmem : (⟨slot, e, slot'⟩ : Transition (Slot A R C F) (PortEvent T)) ∈
        log ++ [⟨slot, e, slot'⟩] := List.mem_append_right _ List.mem_cons_self
    rw [List.length_append]
    exact (step_transfers hfilter (ih hworlds.append) hstep (hworlds.noOverflow _ hmem)
      (hworlds.carries _ _ hlast) (hworlds.next _ _ hlast) (hworlds.follows _ hmem)).1

/-- **Two-way time transfer is exact.**  Whatever the mean delay and the last raw offset are at the start,
and in whatever order the halves of the exchanges arrive: a delay exchange that is completed after a sync
exchange measures the delay `d`, and a sync exchange that is completed after that measures the offset
`θ`. -/
theorem two_way_exact (hfilter : ReportsDelay F C) {start : Port Running A R C F}
    (hstart : Starts link master start) {worlds : Nat → World}
    (h : Trace (Slot.step p) (· = running start) log slot)
    (hworlds : InWorlds link master worlds log)
    {earlier later : List (Transition (Slot A R C F) (PortEvent T))}
    {t : Transition (Slot A R C F) (PortEvent T)} (hlog : log = earlier ++ t :: later)
    (hm : Hands t m) :
    (AfterSync earlier → m.rawDelayOffset ≠ none →
      ∃ delay, m.delay = some delay ∧ delay.toInt = link.delay) ∧
    (AfterDelay earlier → m.rawSyncOffset ≠ none →
      ∃ offset, m.offset = some offset ∧ offset.toInt = link.offset) := by
  subst hlog
  obtain ⟨hearlier, actions, hstep⟩ := h.split rfl
  have htransfers := transfers_of_trace hfilter hstart hearlier hworlds.append
  have hget : (earlier ++ t :: later)[earlier.length]? = some t := by
    rw [List.getElem?_append_right (Nat.le_refl _), Nat.sub_self]
    rfl
  have hmem : t ∈ earlier ++ t :: later := List.mem_append_right _ List.mem_cons_self
  have hexact := (step_transfers hfilter htransfers hstep (hworlds.noOverflow t hmem)
    (hworlds.carries _ t hget) (hworlds.next _ t hget) (hworlds.follows t hmem)).2 m hm
  exact ⟨hexact.delay, hexact.offset⟩

/-! ### A run -/

/-- A slave with a wrong mean delay and a wrong last raw offset, and an asymmetry of 3. -/
def wrongSlave : TestPort :=
  let port := testPort default (.slave ⟨testParent, .empty, .empty, some ⟨⟨7⟩⟩⟩)
  { port with
    config := { port.config with delayAsymmetry := ⟨⟨3⟩⟩ }
    meanDelay := some ⟨⟨5⟩⟩ }

/-- Its link. -/
def testLink : Link where
  offset := 100
  delay := 20
  asymmetry := 3

/-- The exchanges of both masters' messages: they are sent, and a request arrives, at time zero. -/
def testWorld : World where
  sync _ := ⟨0, 0, 0⟩
  delay _ := ⟨83, 0⟩

/-- A sync exchange whose follow-up comes first, a delay exchange whose answer comes first, and a
one-step sync message. -/
def twoWayEvents : List (PortEvent NoForwardedTLVs) :=
  let s := (testSystem testInstanceConfig).state
  [.generalReceive s (TestSlot.messageBytes 8 0 9 3 (List.replicate 10 0)),
    .eventReceive s (TestSlot.messageBytes 0 2 9 3 (List.replicate 10 0)) ⟨⟨123⟩⟩,
    .delayRequestTimer s,
    .generalReceive s (TestSlot.messageBytes 9 0 9 0 (List.replicate 20 0)),
    .sendTimestamp s (.delayReq 0) ⟨⟨83⟩⟩,
    .eventReceive s (TestSlot.messageBytes 0 0 9 4 (List.replicate 10 0)) ⟨⟨123⟩⟩]

/-- Whether the step handed a measurement with this field to the filter. -/
def handsField (field : Measurement → Option Duration)
    (t : Transition TestSlot (PortEvent NoForwardedTLVs)) : Bool :=
  t.after.core.handed.getLast?.any fun m =>
    decide (t.after.core.handed = t.before.core.handed ++ [m]) && (field m).isSome

def followsParent : PortState → Bool
  | .slave state => decide (state.remoteMaster = testParent)
  | _ => false

/-- Whether the port follows its master on, and completes the exchanges. -/
def transfersTime (log : List (Transition TestSlot (PortEvent NoForwardedTLVs))) : Bool :=
  log.all (fun t => decide (t.before.core.portIdentity = default) &&
      followsParent t.after.core.portState) &&
    match log with
    | [_, sync, _, _, delay, sync'] =>
      handsField (·.rawSyncOffset) sync && handsField (·.rawDelayOffset) delay &&
        handsField (·.rawSyncOffset) sync'
    | _ => false

theorem hands_of_handsField {field : Measurement → Option Duration}
    {t : Transition TestSlot (PortEvent NoForwardedTLVs)} (h : handsField field t = true) :
    ∃ m, Hands t m ∧ field m ≠ none := by
  obtain ⟨m, -, h⟩ := (Option.any_eq_true _ _).mp h
  rw [Bool.and_eq_true, decide_eq_true_eq, Option.isSome_iff_ne_none] at h
  exact ⟨m, h⟩

/-- A message of the test world. -/
theorem carries_of_receives {e : PortEvent NoForwardedTLVs} {message : Message}
    (hm : e.Receives message) (hcorrection : message.header.correctionField.toInt = 0)
    (hsync : ∀ body, message.body = .sync body →
      (∀ t, e.ReceivesAt message t → t.toInt = 123) ∧
      (Time.ofWireTimestamp body.originTimestamp).toInt = 0)
    (hfollowUp : ∀ body, message.body = .followUp body →
      (Time.ofWireTimestamp body.preciseOriginTimestamp).toInt = 0)
    (hdelayResp : ∀ body, message.body = .delayResp body →
      (Time.ofWireTimestamp body.receiveTimestamp).toInt = 0) :
    testWorld.Carries testLink default testParent e := by
  constructor
  case sync =>
    intro message' body t hm' hbody _
    obtain rfl := hm.inj (Or.inl ⟨t, hm'⟩)
    obtain ⟨harrived, hsent⟩ := hsync body hbody
    exact ⟨hcorrection, harrived t hm', fun _ => ⟨hsent, rfl⟩⟩
  case followUp =>
    intro message' body hm' hbody _
    obtain rfl := hm.inj hm'
    exact ⟨hcorrection, hfollowUp body hbody⟩
  case delayReq =>
    rintro id t ⟨s, rfl⟩
    rcases hm with ⟨_, _, _, heq, -⟩ | ⟨_, _, heq, -⟩ <;> cases heq
  case delayResp =>
    intro message' body hm' hbody _ _
    obtain rfl := hm.inj hm'
    exact ⟨hcorrection, hdelayResp body hbody⟩

/-- The events are those of the test world. -/
theorem twoWayEvents_carries (e : PortEvent NoForwardedTLVs) (he : e ∈ twoWayEvents) :
    testWorld.Carries testLink default testParent e := by
  have hgeneral : ∀ (data : List UInt8) (message : Message),
      Port.parseAndFilter (testSystem testInstanceConfig).state data = .ok (some message) →
      (.generalReceive (testSystem testInstanceConfig).state data :
        PortEvent NoForwardedTLVs).Receives message := fun _ _ h => Or.inr ⟨_, _, rfl, h⟩
  have hevent : ∀ (data : List UInt8) (message : Message),
      Port.parseAndFilter (testSystem testInstanceConfig).state data = .ok (some message) →
      (.eventReceive (testSystem testInstanceConfig).state data ⟨⟨123⟩⟩ :
        PortEvent NoForwardedTLVs).Receives message := fun _ _ h => Or.inl ⟨_, _, _, rfl, h⟩
  have harrived : ∀ (data : List UInt8) (message : Message) (t : Time),
      (.eventReceive (testSystem testInstanceConfig).state data ⟨⟨123⟩⟩ :
        PortEvent NoForwardedTLVs).ReceivesAt message t → t.toInt = 123 := by
    rintro data message t ⟨_, _, heq, -⟩
    obtain ⟨-, -, rfl⟩ := PortEvent.eventReceive.inj heq
    decide +kernel
  have hquiet : ∀ e : PortEvent NoForwardedTLVs, (∀ message, ¬ e.Receives message) →
      (∀ id t, e.DelayReqSent id t → t.toInt = 83) → testWorld.Carries testLink default testParent e :=
    fun e hnone hsent => ⟨fun _ _ t hm => absurd (Or.inl ⟨t, hm⟩) (hnone _),
      fun _ _ hm => absurd hm (hnone _), hsent, fun _ _ hm => absurd hm (hnone _)⟩
  unfold twoWayEvents at he
  simp only [List.mem_cons, List.not_mem_nil, or_false] at he
  rcases he with rfl | rfl | rfl | rfl | rfl | rfl
  · refine carries_of_receives (hgeneral _ (TestSlot.message false 9 3 (.followUp ⟨default⟩))
      (by decide +kernel)) (by decide +kernel) ?_ ?_ ?_
    all_goals
      intro body hbody
      cases hbody
    decide +kernel
  · refine carries_of_receives (hevent _ (TestSlot.message true 9 3 (.sync ⟨default⟩))
      (by decide +kernel)) (by decide +kernel) ?_ ?_ ?_
    all_goals
      intro body hbody
      cases hbody
    exact ⟨fun t ht => harrived _ _ t ht, by decide +kernel⟩
  · refine hquiet _ ?_ ?_
    · rintro message (⟨_, _, _, heq, -⟩ | ⟨_, _, heq, -⟩) <;> cases heq
    · rintro id t ⟨_, heq⟩
      cases heq
  · refine carries_of_receives (hgeneral _
      (TestSlot.message false 9 0 (.delayResp ⟨default, default⟩)) (by decide +kernel))
      (by decide +kernel) ?_ ?_ ?_
    all_goals
      intro body hbody
      cases hbody
    decide +kernel
  · refine hquiet _ ?_ ?_
    · rintro message (⟨_, _, _, heq, -⟩ | ⟨_, _, heq, -⟩) <;> cases heq
    · rintro id t ⟨_, heq⟩
      obtain ⟨-, -, rfl⟩ := PortEvent.sendTimestamp.inj heq
      decide +kernel
  · refine carries_of_receives (hevent _ (TestSlot.message false 9 4 (.sync ⟨default⟩))
      (by decide +kernel)) (by decide +kernel) ?_ ?_ ?_
    all_goals
      intro body hbody
      cases hbody
    exact ⟨fun t ht => harrived _ _ t ht, by decide +kernel⟩

theorem testFilter_reportsDelay : ReportsDelay TestFilter TestClock where
  measurement _ _ _ _ := rfl
  update _ _ := rfl

/-- The last measurement of the run is exact. -/
theorem two_way_exact_wrong_slave :
    ∃ (log : List (Transition TestSlot (PortEvent NoForwardedTLVs))) (slot : TestSlot)
      (earlier : List (Transition TestSlot (PortEvent NoForwardedTLVs)))
      (t : Transition TestSlot (PortEvent NoForwardedTLVs)) (m : Measurement),
      Trace (Slot.step .debug) (· = running wrongSlave) log slot ∧ log = earlier ++ [t] ∧
      Hands t m ∧ ∃ offset, m.offset = some offset ∧ offset.toInt = 100 := by
  have hrun : (Machine.steps (Slot.step .debug) (running wrongSlave) twoWayEvents).any
      transfersTime = true := by
    decide +kernel
  obtain ⟨log, hsteps, hcheck⟩ := (Option.any_eq_true _ _).mp hrun
  obtain ⟨slot, htrace⟩ := Machine.Trace.of_steps twoWayEvents
    (.init rfl : Trace (Slot.step .debug) (· = running wrongSlave) [] (running wrongSlave)) hsteps
  rw [List.nil_append] at htrace
  have hevents := Machine.map_event_of_steps twoWayEvents hsteps
  unfold transfersTime at hcheck
  obtain ⟨hall, hcheck⟩ := Bool.and_eq_true_iff.mp hcheck
  have hall : ∀ t ∈ log, t.before.core.portIdentity = default ∧ t.after.core.Follows testParent := by
    intro t ht
    obtain ⟨hidentity, hfollows⟩ := Bool.and_eq_true_iff.mp (List.all_eq_true.mp hall t ht)
    refine ⟨of_decide_eq_true hidentity, ?_⟩
    unfold followsParent at hfollows
    split at hfollows
    · rename_i state hstate
      exact ⟨state, hstate, of_decide_eq_true hfollows⟩
    · cases hfollows
  have hworlds : InWorlds testLink testParent (fun _ => testWorld) log := by
    refine ⟨fun i t ht => ?_, fun i t ht => testWorld.next_refl _, fun t ht => (hall t ht).2,
      fun t ht port hport => ?_⟩
    · have hmem := List.mem_of_getElem? ht
      rw [(hall t hmem).1]
      exact twoWayEvents_carries _ (hevents ▸ List.mem_map_of_mem hmem)
    · obtain ⟨-, actions, hstep⟩ := htrace.of_mem t ht
      rw [hport] at hstep
      exact noOverflow_of_step hstep
  have hstart : Starts testLink testParent wrongSlave :=
    ⟨⟨⟨_, rfl⟩, rfl⟩, by decide +kernel, _, rfl⟩
  split at hcheck
  · rename_i t₁ sync t₃ t₄ delay sync' _ _
    obtain ⟨hcheck, hsync'⟩ := Bool.and_eq_true_iff.mp hcheck
    obtain ⟨hsync, hdelay⟩ := Bool.and_eq_true_iff.mp hcheck
    obtain ⟨m, hm, hsome⟩ := hands_of_handsField hsync
    obtain ⟨m', hm', hsome'⟩ := hands_of_handsField hdelay
    obtain ⟨m'', hm'', hsome''⟩ := hands_of_handsField hsync'
    refine ⟨_, slot, [t₁, sync, t₃, t₄, delay], sync', m'', htrace, rfl, hm'', ?_⟩
    exact (two_way_exact testFilter_reportsDelay hstart htrace hworlds
      (rfl : _ = [t₁, sync, t₃, t₄, delay] ++ sync' :: []) hm'').2
      ⟨[t₁, sync, t₃, t₄], delay, [], m', rfl, ⟨sync, by simp, m, hm, hsome⟩, hm', hsome'⟩ hsome''
  · cases hcheck

end Slot

end Statime
