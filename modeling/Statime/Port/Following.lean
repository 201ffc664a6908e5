import Statime.Machine.TwoRuns
import Statime.Port.Steering

/-!
# Ports that measure the same from now on

`Follows`: two ports that differ in the measurements so far, and in clocks that the filter cannot
tell apart.  They stay so, and do the same.

* `handleTimeMeasurement_follows`: the same measurements are handed to both filters.
* `handleEventReceive_follows` and the others: the handlers of both ports.
* `setRecommendedState_follows`: the recommended states.
-/

namespace Statime

open Rust Machine

/-- A relation of clocks that the filter cannot tell apart. -/
structure Indistinguishable (F : Type) {C : Type} [Clock C] [Filter F] (r : C → C → Prop) :
    Prop where
  measurement : ∀ (filter : F) (measurement : Measurement) (clock clock' : C), r clock clock' →
    (Filter.measurement filter measurement clock').1 =
        (Filter.measurement filter measurement clock).1 ∧
      (Filter.measurement filter measurement clock').2.2 =
        (Filter.measurement filter measurement clock).2.2 ∧
      r (Filter.measurement filter measurement clock).2.1
        (Filter.measurement filter measurement clock').2.1
  update : ∀ (filter : F) (clock clock' : C), r clock clock' →
    (Filter.update filter clock').1 = (Filter.update filter clock).1 ∧
      (Filter.update filter clock').2.2 = (Filter.update filter clock).2.2 ∧
      r (Filter.update filter clock).2.1 (Filter.update filter clock').2.1
  demobilize : ∀ (filter : F) (clock clock' : C), r clock clock' →
    r (Filter.demobilize filter clock) (Filter.demobilize filter clock')
  setProperties : ∀ (properties : TimePropertiesDS) (clock clock' : C), r clock clock' →
    r (Clock.setProperties clock properties).1 (Clock.setProperties clock' properties).1

/-- No filter tells a clock from itself. -/
theorem Indistinguishable.eq {F C : Type} [Clock C] [Filter F] :
    Indistinguishable F (fun clock clock' : C => clock = clock') where
  measurement := by
    rintro filter measurement clock _ rfl
    exact ⟨rfl, rfl, rfl⟩
  update := by
    rintro filter clock _ rfl
    exact ⟨rfl, rfl, rfl⟩
  demobilize := by
    rintro filter clock _ rfl
    rfl
  setProperties := by
    rintro properties clock _ rfl
    rfl

/-- The filter cannot tell the clocks apart, whatever happens to both of them. -/
def Alike (F : Type) {C : Type} [Clock C] [Filter F] (clock clock' : C) : Prop :=
  ∃ r, Indistinguishable F r ∧ r clock clock'

namespace Port

section

variable {L A R C F : Type} [Filter F]

/-- The same ports, but for their clocks and the measurements so far. -/
def Follows (r : C → C → Prop) (old old' : List Measurement) (port port' : Port L A R C F) : Prop :=
  ∃ clock new, port' = { port with clock, handed := old' ++ new } ∧ port.handed = old ++ new ∧
    r port.clock clock

/-- The same outcome of a call. -/
def SameOutcome {α : Type} (r : C → C → Prop) (old old' : List Measurement)
    (a b : Port L A R C F × α) : Prop :=
  a.1.Follows r old old' b.1 ∧ a.2 = b.2

namespace Follows

variable {r : C → C → Prop} {old old' : List Measurement} {port port' : Port L A R C F}

theorem withRng (h : port.Follows r old old' port') (rng : R) :
    ({ port with rng } : Port L A R C F).Follows r old old' { port' with rng } := by
  obtain ⟨clock, new, rfl, hhanded, hclock⟩ := h
  exact ⟨clock, new, rfl, hhanded, hclock⟩

theorem withBmca (h : port.Follows r old old' port') (bmca : Bmca A) :
    ({ port with bmca } : Port L A R C F).Follows r old old' { port' with bmca } := by
  obtain ⟨clock, new, rfl, hhanded, hclock⟩ := h
  exact ⟨clock, new, rfl, hhanded, hclock⟩

theorem withMultiportDisable (h : port.Follows r old old' port')
    (multiportDisable : Option Duration) :
    ({ port with multiportDisable } : Port L A R C F).Follows r old old'
      { port' with multiportDisable } := by
  obtain ⟨clock, new, rfl, hhanded, hclock⟩ := h
  exact ⟨clock, new, rfl, hhanded, hclock⟩

theorem withLifecycle {L' : Type} (h : port.Follows r old old' port') (lifecycle : L') :
    (port.withLifecycle lifecycle).Follows r old old' (port'.withLifecycle lifecycle) := by
  obtain ⟨clock, new, rfl, hhanded, hclock⟩ := h
  exact ⟨clock, new, rfl, hhanded, hclock⟩

theorem withPeerDelayState {port port' : Port Running A R C F} (h : port.Follows r old old' port')
    (state : PeerDelayState) :
    (port.withPeerDelayState state).Follows r old old' (port'.withPeerDelayState state) := by
  obtain ⟨clock, new, rfl, hhanded, hclock⟩ := h
  exact ⟨clock, new, rfl, hhanded, hclock⟩

theorem withSlaveState {port port' : Port Running A R C F} (h : port.Follows r old old' port')
    (state : SlaveState) :
    (port.withSlaveState state).Follows r old old' (port'.withSlaveState state) := by
  obtain ⟨clock, new, rfl, hhanded, hclock⟩ := h
  exact ⟨clock, new, rfl, hhanded, hclock⟩

theorem withPendingAction {port port' : Port InBmca A R C F} (h : port.Follows r old old' port')
    (actions : List PortAction) :
    (port.withPendingAction actions).Follows r old old' (port'.withPendingAction actions) := by
  obtain ⟨clock, new, rfl, hhanded, hclock⟩ := h
  exact ⟨clock, new, rfl, hhanded, hclock⟩

theorem portState_eq (h : port.Follows r old old' port') : port'.portState = port.portState := by
  obtain ⟨clock, new, rfl, -, -⟩ := h
  rfl

theorem portIdentity_eq (h : port.Follows r old old' port') :
    port'.portIdentity = port.portIdentity := by
  obtain ⟨clock, new, rfl, -, -⟩ := h
  rfl

theorem peerDelayState_eq (h : port.Follows r old old' port') :
    port'.peerDelayState = port.peerDelayState := by
  obtain ⟨clock, new, rfl, -, -⟩ := h
  rfl

theorem config_eq (h : port.Follows r old old' port') : port'.config = port.config := by
  obtain ⟨clock, new, rfl, -, -⟩ := h
  rfl

theorem multiportDisable_eq (h : port.Follows r old old' port') :
    port'.multiportDisable = port.multiportDisable := by
  obtain ⟨clock, new, rfl, -, -⟩ := h
  rfl

theorem rng_eq (h : port.Follows r old old' port') : port'.rng = port.rng := by
  obtain ⟨clock, new, rfl, -, -⟩ := h
  rfl

theorem bmca_eq (h : port.Follows r old old' port') : port'.bmca = port.bmca := by
  obtain ⟨clock, new, rfl, -, -⟩ := h
  rfl

theorem setForcedPortState [Clock C] (hr : Indistinguishable F r)
    (h : port.Follows r old old' port') (state : PortState) :
    (port.setForcedPortState state).Follows r old old' (port'.setForcedPortState state) := by
  obtain ⟨clock, new, rfl, hhanded, hclock⟩ := h
  unfold Port.setForcedPortState
  rw [show ({ port with clock, handed := old' ++ new } : Port L A R C F).isSteering =
    port.isSteering from rfl]
  dsimp only
  split
  · exact ⟨_, new, rfl, hhanded, hr.demobilize _ _ _ hclock⟩
  · exact ⟨clock, new, rfl, hhanded, hclock⟩

end Follows

/-- A new random timeout. -/
theorem Follows.announceDuration [Rng R] {α β : Type} {r : C → C → Prop} {old old' : List Measurement}
    {port port' : Port L A R C F} {S : α → β → Prop} (h : port.Follows r old old' port')
    {f : CoreDuration × R → Except Panic α} {g : CoreDuration × R → Except Panic β}
    (hnext : ∀ duration, Matches S (f duration) (g duration)) :
    Matches S (port.config.announceDuration port.rng >>= f)
      (port'.config.announceDuration port'.rng >>= g) := by
  rw [h.config_eq, h.rng_eq]
  exact matches_bind _ hnext

/-- A handler that does not look at the clock. -/
theorem DoesNotSteer.follows {α : Type} {r : C → C → Prop} {old old' : List Measurement}
    {port port' : Port L A R C F}
    {handler : Port L A R C F → Except Panic (Port L A R C F × α)} (hsteer : DoesNotSteer handler)
    (h : port.Follows r old old' port') :
    Matches (SameOutcome r old old') (handler port) (handler port') := by
  obtain ⟨clock, new, rfl, hhanded, hclock⟩ := h
  rintro ⟨port₁, out⟩ hport₁
  have hself := hsteer port port.steering Iff.rfl
  have hother := hsteer port
    ⟨port.portState, port.filter, clock, port.meanDelay, old' ++ new⟩ Iff.rfl
  rw [hport₁] at hother
  rw [show port.withSteering port.steering = port from rfl, hport₁] at hself
  have hsame : port₁ = port₁.withSteering port.steering :=
    (Prod.mk.inj (Except.ok.inj hself)).1
  refine ⟨_, hother, ⟨clock, new, ?_, ?_, ?_⟩, rfl⟩
  · rw [hsame]
    rfl
  · rw [hsame]
    exact hhanded
  · rw [hsame]
    exact hclock

end

/-! ### Measurements -/

section

variable {A R C F : Type} [AcceptableMasterList A] [Clock C] [Filter F] [Rng R] {p : Profile}
  {r : C → C → Prop} {old old' : List Measurement} {port port' : Port Running A R C F}

omit [AcceptableMasterList A] [Clock C] [Rng R] in
theorem extractSlaveMeasurement_follows (h : port.Follows r old old' port') (state : SlaveState) :
    Matches (fun a b => a.1 = b.1 ∧ a.2.Follows r old old' b.2)
      (port.extractSlaveMeasurement p state) (port'.extractSlaveMeasurement p state) := by
  have hcleared (state : SlaveState) := h.withSlaveState state
  have hself := h
  obtain ⟨clock, new, rfl, -, -⟩ := h
  unfold extractSlaveMeasurement
  dsimp only
  split
  · exact matches_bind _ fun raw => matches_bind _ fun offset => matches_ok ⟨rfl, hcleared _⟩
  · split
    · exact matches_bind _ fun raw => matches_bind _ fun delay => matches_ok ⟨rfl, hcleared _⟩
    · exact matches_ok ⟨rfl, hself⟩

omit [AcceptableMasterList A] [Rng R] in
theorem extractMeasurement_follows (hr : Indistinguishable F r) (h : port.Follows r old old' port') :
    Matches (fun a b => a.1 = b.1 ∧ a.2.Follows r old old' b.2) (port.extractMeasurement p)
      (port'.extractMeasurement p) := by
  have hslave (state : SlaveState) := extractSlaveMeasurement_follows (p := p) h state
  have hcleared (state : PeerDelayState) := h.withPeerDelayState state
  have hself := h
  obtain ⟨clock, new, rfl, -, -⟩ := h
  unfold extractMeasurement
  dsimp only
  split
  · refine matches_bind _ fun delay => matches_ok ⟨rfl, ?_⟩
    rename_i id responder t1 t2 t3 t4 _
    rw [(hcleared (.postMeasurement id responder)).portState_eq]
    dsimp only
    split
    · exact (hcleared (.postMeasurement id responder)).setForcedPortState hr .listening
    · exact hcleared (.postMeasurement id responder)
  · split
    · exact hslave _
    · exact matches_ok ⟨rfl, hself⟩

omit [AcceptableMasterList A] [Rng R] in
/-- **The same measurements are handed to both filters.** -/
theorem handleTimeMeasurement_follows (hr : Indistinguishable F r)
    (h : port.Follows r old old' port') :
    Matches (SameOutcome r old old') (port.handleTimeMeasurement p)
      (port'.handleTimeMeasurement p) := by
  refine (extractMeasurement_follows hr h).bind ?_
  rintro ⟨measurement, port⟩ ⟨_, port'⟩ ⟨rfl, h⟩
  cases measurement with
  | none => exact matches_ok ⟨h, rfl⟩
  | some measurement =>
    obtain ⟨clock, new, rfl, hhanded, hclock⟩ := h
    have hsame := hr.measurement port.filter measurement port.clock clock hclock
    rcases hone : Filter.measurement port.filter measurement port.clock with ⟨filter, clock₁, update⟩
    rcases htwo : Filter.measurement port.filter measurement clock with ⟨filter', clock₂, update'⟩
    rw [hone, htwo] at hsame
    obtain ⟨rfl, rfl, hclock'⟩ := hsame
    simp only [hone, htwo]
    refine matches_ok ⟨⟨clock₂, new ++ [measurement], ?_, ?_, hclock'⟩, rfl⟩
    · rw [← List.append_assoc]
    · rw [← List.append_assoc, ← hhanded]

omit [AcceptableMasterList A] [Rng R] in
theorem storeSlave_follows (hr : Indistinguishable F r) (h : port.Follows r old old' port')
    (stored : SlaveState → Except Panic (Option (SlaveState × Bool))) :
    Matches (SameOutcome r old old') (port.storeSlave p stored) (port'.storeSlave p stored) := by
  unfold storeSlave
  rw [h.portState_eq]
  split
  · refine matches_bind _ fun result => ?_
    split
    · exact handleTimeMeasurement_follows hr (h.withSlaveState _)
    · exact matches_ok ⟨h.withSlaveState _, rfl⟩
    · exact matches_ok ⟨h, rfl⟩
  · exact matches_ok ⟨h, rfl⟩

omit [AcceptableMasterList A] [Rng R] in
theorem handleAnswer_follows (hr : Indistinguishable F r) (h : port.Follows r old old' port')
    (header : Header) (requesting : PortIdentity) (lacks : PeerDelayState → Bool)
    (stored : Except Panic PeerDelayState) :
    Matches (SameOutcome r old old') (port.handleAnswer p header requesting lacks stored)
      (port'.handleAnswer p header requesting lacks stored) := by
  have hself : Matches (SameOutcome r old old')
      (.ok (port, PortActionIterator.empty) : Except Panic _) (.ok (port', .empty)) :=
    matches_ok ⟨h, rfl⟩
  have hfaulty : Matches (SameOutcome r old old')
      (.ok (port.setForcedPortState .faulty, PortActionIterator.empty) : Except Panic _)
      (.ok (port'.setForcedPortState .faulty, .empty)) :=
    matches_ok ⟨h.setForcedPortState hr .faulty, rfl⟩
  have hstored (state : PeerDelayState) :=
    handleTimeMeasurement_follows (p := p) hr (h.withPeerDelayState state)
  unfold handleAnswer
  rw [h.portIdentity_eq, h.peerDelayState_eq]
  split
  · exact hself
  · split
    · split
      · exact hfaulty
      · exact hself
    · split
      · split
        · exact hfaulty
        · split
          · exact matches_bind _ hstored
          · exact hself
      · exact hself
    · exact hself

omit [AcceptableMasterList A] [Rng R] in
theorem handlePdelayTimestamp_follows (hr : Indistinguishable F r)
    (h : port.Follows r old old' port') (id : UInt16) (timestamp : Time) :
    Matches (SameOutcome r old old') (port.handlePdelayTimestamp p id timestamp)
      (port'.handlePdelayTimestamp p id timestamp) := by
  unfold handlePdelayTimestamp
  rw [h.peerDelayState_eq]
  split
  · split
    · split
      · exact matches_ok ⟨h, rfl⟩
      · exact handleTimeMeasurement_follows hr (h.withPeerDelayState _)
    · exact matches_ok ⟨h, rfl⟩
  · exact matches_ok ⟨h, rfl⟩

/-! ### Timers -/

omit [AcceptableMasterList A] [Clock C] in
theorem sendDelayRequest_follows (h : port.Follows r old old' port') (s : PtpInstanceState) :
    Matches (SameOutcome r old old') (port.sendDelayRequest p s) (port'.sendDelayRequest p s) := by
  unfold sendDelayRequest
  rw [h.config_eq]
  split
  · obtain ⟨clock, new, rfl, hhanded, hclock⟩ := h
    unfold sendE2eDelayRequest
    dsimp only
    split
    · exact matches_bind _ fun buffer => matches_bind _ fun duration =>
        matches_ok ⟨⟨clock, new, rfl, hhanded, hclock⟩, rfl⟩
    · exact matches_ok ⟨⟨clock, new, rfl, hhanded, hclock⟩, rfl⟩
  · exact (sendP2pDelayRequest_doesNotSteer s _).follows h

omit [AcceptableMasterList A] in
theorem handleAnnounceReceiptTimer_follows (hr : Indistinguishable F r)
    (h : port.Follows r old old' port') (s : PtpInstanceState) :
    Matches (SameOutcome r old old') (port.handleAnnounceReceiptTimer s)
      (port'.handleAnnounceReceiptTimer s) := by
  have hforced (state : PortState) :
      (if port.portState = state then port else port.setForcedPortState state).Follows r old old'
        (if port.portState = state then port' else port'.setForcedPortState state) := by
    split
    · exact h
    · exact h.setForcedPortState hr state
  unfold handleAnnounceReceiptTimer
  rw [h.portState_eq]
  split
  · exact (hforced .listening).announceDuration fun duration =>
      matches_ok ⟨(hforced .listening).withRng _, rfl⟩
  · exact matches_ok ⟨hforced .master, rfl⟩

omit [AcceptableMasterList A] [Rng R] in
theorem handleFilterUpdateTimer_follows (hr : Indistinguishable F r)
    (h : port.Follows r old old' port') :
    SameOutcome r old old' port.handleFilterUpdateTimer port'.handleFilterUpdateTimer := by
  obtain ⟨clock, new, rfl, hhanded, hclock⟩ := h
  have hsame := hr.update port.filter port.clock clock hclock
  rcases hone : Filter.update port.filter port.clock with ⟨filter, clock₁, update⟩
  rcases htwo : Filter.update port.filter clock with ⟨filter', clock₂, update'⟩
  rw [hone, htwo] at hsame
  obtain ⟨rfl, rfl, hclock'⟩ := hsame
  simp only [handleFilterUpdateTimer, hone, htwo]
  exact ⟨⟨clock₂, new, rfl, hhanded, hclock'⟩, rfl⟩

/-! ### Announce messages -/

omit [AcceptableMasterList A] [Rng R] in
theorem checkMultiport_follows (hr : Indistinguishable F r) (h : port.Follows r old old' port')
    (message : Message) :
    (port.checkMultiport message).Follows r old old' (port'.checkMultiport message) := by
  have hpassive := (h.withMultiportDisable (some Duration.zero)).setForcedPortState hr .passive
  have hself := h
  obtain ⟨clock, new, rfl, -, -⟩ := h
  unfold checkMultiport
  dsimp only
  split
  · exact hpassive
  · exact hself

theorem registerAnnounce_follows (hr : Indistinguishable F r) (h : port.Follows r old old' port')
    (message : Message) (announce : AnnounceMessage) :
    Matches (SameOutcome r old old') (port.registerAnnounce p message announce)
      (port'.registerAnnounce p message announce) := by
  unfold registerAnnounce
  rw [h.bmca_eq]
  refine matches_bind _ ?_
  rintro ⟨bmca, stored⟩
  cases stored with
  | true =>
    have hpassive := checkMultiport_follows hr (h.withBmca bmca) message
    exact hpassive.announceDuration fun duration => matches_ok ⟨hpassive.withRng _, rfl⟩
  | false => exact matches_ok ⟨h.withBmca bmca, rfl⟩

theorem handleAnnounce_follows (hr : Indistinguishable F r) (h : port.Follows r old old' port')
    (s : PtpInstanceState) (message : Message) (announce : AnnounceMessage) :
    Matches (SameOutcome r old old') (port.handleAnnounce p s message announce)
      (port'.handleAnnounce p s message announce) := by
  have hupdate : port'.updateDatasets p s message announce =
      port.updateDatasets p s message announce := by
    unfold updateDatasets isFromParent isSteering
    rw [h.portState_eq]
  unfold handleAnnounce
  rw [hupdate]
  refine matches_bind _ fun updated => ?_
  dsimp only
  split
  · exact matches_ok ⟨h, rfl⟩
  · refine (registerAnnounce_follows hr h message announce).bind ?_
    rintro ⟨port₁, actions⟩ ⟨port₁', _⟩ ⟨h₁, rfl⟩
    exact matches_ok ⟨h₁, rfl⟩

/-! ### Messages -/

omit [AcceptableMasterList A] [Clock C] [Rng R] in
/-- A handler that leaves the state of the instance alone. -/
theorem Follows.withState {x y : Except Panic (Port Running A R C F × PortActionIterator)}
    (h : Matches (SameOutcome r old old') x y) (s : PtpInstanceState) :
    Matches (SameOutcome r old old') (x >>= fun a => .ok (a.1, s, a.2))
      (y >>= fun a => .ok (a.1, s, a.2)) := by
  refine h.bind ?_
  rintro ⟨port₁, actions⟩ ⟨port₁', _⟩ ⟨h₁, rfl⟩
  exact matches_ok ⟨h₁, rfl⟩

theorem handleGeneralInternal_follows (hr : Indistinguishable F r)
    (h : port.Follows r old old' port') (s : PtpInstanceState) (message : Message) :
    Matches (SameOutcome r old old') (port.handleGeneralInternal p s message)
      (port'.handleGeneralInternal p s message) := by
  unfold handleGeneralInternal
  split
  · exact handleAnnounce_follows hr h s message _
  · rw [handleFollowUp_eq, handleFollowUp_eq]
    exact Follows.withState (storeSlave_follows hr h _) s
  · rw [handleDelayResp_eq, handleDelayResp_eq, h.portIdentity_eq]
    exact Follows.withState (storeSlave_follows hr h _) s
  · rw [handlePeerDelayResponseFollowUp_eq, handlePeerDelayResponseFollowUp_eq, h.peerDelayState_eq]
    exact Follows.withState (handleAnswer_follows hr h _ _ _ _) s
  all_goals exact matches_ok ⟨h, rfl⟩

theorem handleEventMessage_follows (hr : Indistinguishable F r) (h : port.Follows r old old' port')
    (s : PtpInstanceState) (message : Message) (timestamp : Time) :
    Matches (SameOutcome r old old') (port.handleEventMessage p s message timestamp)
      (port'.handleEventMessage p s message timestamp) := by
  unfold handleEventMessage
  split
  · rw [handleSync_eq, handleSync_eq]
    exact Follows.withState (storeSlave_follows hr h _) s
  · exact Follows.withState ((handleDelayReq_doesNotSteer p message.header timestamp).follows h) s
  · exact Follows.withState
      ((handlePdelayReq_doesNotSteer p s message.header timestamp).follows h) s
  · rw [handlePeerDelayResponse_eq, handlePeerDelayResponse_eq, h.peerDelayState_eq]
    exact Follows.withState (handleAnswer_follows hr h _ _ _ _) s
  · exact handleGeneralInternal_follows hr h s message

theorem handleEventReceive_follows (hr : Indistinguishable F r) (h : port.Follows r old old' port')
    (s : PtpInstanceState) (data : List UInt8) (timestamp : Time) :
    Matches (SameOutcome r old old') (port.handleEventReceive p s data timestamp)
      (port'.handleEventReceive p s data timestamp) := by
  refine matches_bind _ fun message => ?_
  cases message with
  | none => exact matches_ok ⟨h, rfl⟩
  | some message => exact handleEventMessage_follows hr h s message timestamp

theorem handleGeneralReceive_follows (hr : Indistinguishable F r)
    (h : port.Follows r old old' port') (s : PtpInstanceState) (data : List UInt8) :
    Matches (SameOutcome r old old') (port.handleGeneralReceive p s data)
      (port'.handleGeneralReceive p s data) := by
  refine matches_bind _ fun message => ?_
  cases message with
  | none => exact matches_ok ⟨h, rfl⟩
  | some message => exact handleGeneralInternal_follows hr h s message

end

/-! ### Ports that take part in the best master clock algorithm -/

section

variable {A R C F : Type} [AcceptableMasterList A] [Clock C] [Filter F] [Rng R] {p : Profile}
  {r : C → C → Prop} {old old' : List Measurement} {port port' : Port InBmca A R C F}

omit [AcceptableMasterList A] [Clock C] [Rng R] in
theorem stepAnnounceAge_follows (h : port.Follows r old old' port') (step : Duration) :
    Matches (Follows r old old') (port.stepAnnounceAge p step) (port'.stepAnnounceAge p step) := by
  obtain ⟨clock, new, rfl, hhanded, hclock⟩ := h
  exact matches_bind _ fun disable => matches_bind _ fun bmca =>
    matches_ok ⟨clock, new, rfl, hhanded, hclock⟩

omit [Clock C] [Rng R] in
theorem calculateBest_follows (h : port.Follows r old old' port') :
    Matches (Follows r old old') (port.calculateBestLocalAnnounceMessage p)
      (port'.calculateBestLocalAnnounceMessage p) := by
  obtain ⟨clock, new, rfl, hhanded, hclock⟩ := h
  exact matches_bind _ fun best => matches_ok ⟨clock, new, rfl, hhanded, hclock⟩

omit [AcceptableMasterList A] in
theorem recommendSlave_follows (hr : Indistinguishable F r) (h : port.Follows r old old' port')
    (message : AnnounceMessage) :
    Matches (Follows r old old') (port.recommendSlave p message)
      (port'.recommendSlave p message) := by
  have hslave := h.setForcedPortState hr (.slave (SlaveState.new message.header.sourcePortIdentity))
  unfold recommendSlave
  rw [h.config_eq, h.portState_eq]
  refine matches_bind _ fun _ => ?_
  dsimp only
  split
  · exact hslave.announceDuration fun duration =>
      matches_ok ((hslave.withRng _).withPendingAction _)
  · exact matches_ok h

omit [AcceptableMasterList A] in
theorem recommendMaster_follows (hr : Indistinguishable F r) (h : port.Follows r old old' port')
    (slaveOnly : Bool) :
    Matches (Follows r old old') (port.recommendMaster slaveOnly)
      (port'.recommendMaster slaveOnly) := by
  have hforced (state : PortState) := h.setForcedPortState hr state
  unfold recommendMaster
  rw [h.portState_eq, h.multiportDisable_eq]
  split
  · cases port.portState with
    | listening | faulty => exact matches_ok h
    | slave _ | passive | master =>
      exact (hforced .listening).announceDuration fun duration =>
        matches_ok (((hforced .listening).withRng _).withPendingAction _)
  · split
    · split
      · exact matches_ok h
      · exact matches_ok (hforced .passive)
    · cases port.portState with
      | listening | slave _ | passive => exact matches_ok ((hforced .master).withPendingAction _)
      | master | faulty => exact matches_ok h

omit [AcceptableMasterList A] [Rng R] in
theorem recommendPassive_follows (hr : Indistinguishable F r) (h : port.Follows r old old' port') :
    port.recommendPassive.Follows r old old' port'.recommendPassive := by
  unfold recommendPassive
  rw [h.portState_eq]
  cases port.portState with
  | listening | slave _ | master => exact h.setForcedPortState hr .passive
  | passive | faulty => exact h

omit [AcceptableMasterList A] in
theorem setRecommendedState_follows (hr : Indistinguishable F r) (h : port.Follows r old old' port')
    (s : PtpInstanceState) (state : RecommendedState) :
    Matches (SameOutcome r old old') (port.setRecommendedState p s state)
      (port'.setRecommendedState p s state) := by
  have hport : Matches (Follows r old old') (port.setRecommendedPortState p state s.defaultDs)
      (port'.setRecommendedPortState p state s.defaultDs) := by
    unfold setRecommendedPortState
    cases state with
    | s1 message => exact recommendSlave_follows hr h message
    | m1 _ | m2 _ | m3 _ => exact recommendMaster_follows hr h _
    | p1 _ | p2 _ => exact matches_ok (recommendPassive_follows hr h)
  refine hport.bind fun port₁ port₁' h₁ => ?_
  cases state with
  | m1 _ | m2 _ => exact matches_bind _ fun _ => matches_ok ⟨h₁, rfl⟩
  | m3 _ | p1 _ | p2 _ => exact matches_ok ⟨h₁, rfl⟩
  | s1 message =>
    dsimp only
    rw [h₁.config_eq]
    refine matches_bind _ fun _ => matches_bind _ fun s => matches_ok ⟨?_, rfl⟩
    obtain ⟨clock, new, rfl, hhanded, hclock⟩ := h₁
    exact ⟨_, new, rfl, hhanded, hr.setProperties _ _ _ hclock⟩

end

end Port

/-! ### Whole runs -/

namespace Slot

variable {A R C F T : Type} [AcceptableMasterList A] [Clock C] [Filter F] [Rng R]
  [ForwardedTLVProvider T] {p : Profile} {r : C → C → Prop} {old old' : List Measurement}

/-- The same ports, but for their clocks and the measurements so far. -/
inductive Follows (r : C → C → Prop) (old old' : List Measurement) :
    Slot A R C F → Slot A R C F → Prop
  | running {port port' : Port Running A R C F} :
      port.Follows r old old' port' → Follows r old old' (.running port) (.running port')
  | inBmca {port port' : Port InBmca A R C F} :
      port.Follows r old old' port' → Follows r old old' (.inBmca port) (.inBmca port')

theorem matches_orPanic {α β : Type} {S : α → β → Prop} {x : Except Panic α} {y : Except Panic β}
    (h : Matches S x y) : Matches S (orPanic x) (orPanic y) := by
  intro a ha
  obtain ⟨b, rfl, hab⟩ := h a (orPanic_eq_ok.mp ha)
  exact ⟨b, rfl, hab⟩

/-- The same outcome of a step. -/
def SameOutcome (r : C → C → Prop) (old old' : List Measurement)
    (a b : Slot A R C F × PortActionIterator) : Prop :=
  a.1.Follows r old old' b.1 ∧ a.2 = b.2

section

variable {port port' : Port Running A R C F}

omit [AcceptableMasterList A] [Clock C] [Rng R]

theorem ofHandler_follows {x y : Except Panic (Port Running A R C F × PortActionIterator)}
    (h : Matches (Port.SameOutcome r old old') x y) :
    Matches (SameOutcome r old old') (ofHandler x) (ofHandler y) := by
  refine (matches_orPanic h).bind ?_
  rintro ⟨port₁, actions⟩ ⟨port₁', _⟩ ⟨h₁, rfl⟩
  exact matches_ok ⟨.running h₁, rfl⟩

/-- A handler that returns something else, too. -/
theorem ofHandler_follows_snd {α : Type}
    {x y : Except Panic (Port Running A R C F × α × PortActionIterator)}
    (h : Matches (Port.SameOutcome r old old') x y) :
    Matches (SameOutcome r old old')
      (orPanic x >>= fun a => (.ok (.running a.1, a.2.2) : Except Stop _))
      (orPanic y >>= fun a => (.ok (.running a.1, a.2.2) : Except Stop _)) := by
  refine (matches_orPanic h).bind ?_
  rintro ⟨port₁, s, actions⟩ ⟨port₁', _⟩ ⟨h₁, rfl⟩
  exact matches_ok ⟨.running h₁, rfl⟩

end

theorem step_running_follows (hr : Indistinguishable F r) {port port' : Port Running A R C F}
    (h : port.Follows r old old' port') (e : PortEvent T) :
    Matches (SameOutcome r old old') ((Slot.running port).step p e)
      ((Slot.running port').step p e) := by
  cases e with
  | eventReceive s data timestamp =>
    exact ofHandler_follows_snd (Port.handleEventReceive_follows hr h s data timestamp)
  | generalReceive s data =>
    exact ofHandler_follows_snd (Port.handleGeneralReceive_follows hr h s data)
  | sendTimestamp s context timestamp =>
    refine ofHandler_follows ?_
    cases context with
    | sync id => exact (Port.handleSyncTimestamp_doesNotSteer p s id timestamp).follows h
    | delayReq id =>
      rw [Port.handleSendTimestamp, Port.handleSendTimestamp, Port.handleDelayTimestamp_eq,
        Port.handleDelayTimestamp_eq]
      exact Port.storeSlave_follows hr h _
    | pDelayReq id => exact Port.handlePdelayTimestamp_follows hr h id timestamp
    | pDelayResp id requestor =>
      exact (Port.handlePdelayResponseTimestamp_doesNotSteer p s id requestor timestamp).follows h
  | announceTimer s provider =>
    exact ofHandler_follows_snd ((Port.sendAnnounce_doesNotSteer p s provider).follows h)
  | syncTimer s => exact ofHandler_follows ((Port.sendSync_doesNotSteer p s).follows h)
  | delayRequestTimer s => exact ofHandler_follows (Port.sendDelayRequest_follows h s)
  | announceReceiptTimer s =>
    exact ofHandler_follows (Port.handleAnnounceReceiptTimer_follows hr h s)
  | filterUpdateTimer =>
    obtain ⟨h₁, hactions⟩ := Port.handleFilterUpdateTimer_follows hr h
    exact matches_ok ⟨.running h₁, hactions⟩
  | startBmca => exact matches_ok ⟨.inBmca (h.withLifecycle _), rfl⟩
  | endBmca | calculateBest | recommend _ _ | stepAge _ =>
    rintro a ha
    cases ha

theorem step_inBmca_follows (hr : Indistinguishable F r) {port port' : Port InBmca A R C F}
    (h : port.Follows r old old' port') (e : PortEvent T) :
    Matches (SameOutcome r old old') ((Slot.inBmca port).step p e)
      ((Slot.inBmca port').step p e) := by
  cases e with
  | endBmca =>
    refine matches_ok ⟨.running (h.withLifecycle _), ?_⟩
    obtain ⟨clock, new, rfl, -, -⟩ := h
    rfl
  | calculateBest =>
    refine (matches_orPanic (Port.calculateBest_follows h)).bind fun port₁ port₁' h₁ => ?_
    exact matches_ok ⟨.inBmca h₁, rfl⟩
  | recommend s state =>
    refine (matches_orPanic (Port.setRecommendedState_follows hr h s state)).bind ?_
    rintro ⟨port₁, s₁⟩ ⟨port₁', _⟩ ⟨h₁, rfl⟩
    exact matches_ok ⟨.inBmca h₁, rfl⟩
  | stepAge step =>
    refine (matches_orPanic (Port.stepAnnounceAge_follows h step)).bind fun port₁ port₁' h₁ => ?_
    exact matches_ok ⟨.inBmca h₁, rfl⟩
  | eventReceive _ _ _ | generalReceive _ _ | sendTimestamp _ _ _ | announceTimer _ _
  | syncTimer _ | delayRequestTimer _ | announceReceiptTimer _ | filterUpdateTimer | startBmca =>
    rintro a ha
    cases ha

/-- **Both ports make the same step.** -/
theorem step_follows (hr : Indistinguishable F r) :
    Lockstep (step (A := A) (R := R) (C := C) (F := F) (T := T) p) (Follows r old old') := by
  intro slot slot' e slot₁ actions hfollows h
  have hstep : Matches (SameOutcome r old old') (slot.step p e) (slot'.step p e) := by
    cases hfollows with
    | running hport => exact step_running_follows hr hport e
    | inBmca hport => exact step_inBmca_follows hr hport e
  obtain ⟨⟨slot₁', _⟩, h', hfollows', rfl⟩ := hstep _ h
  exact ⟨slot₁', h', hfollows'⟩

omit [Clock C] [Rng R] [ForwardedTLVProvider T] in
theorem Follows.handed {slot slot' : Slot A R C F} (h : slot.Follows r old old' slot') :
    ∃ new, slot.core.handed = old ++ new ∧ slot'.core.handed = old' ++ new := by
  cases h with
  | running hport | inBmca hport =>
    obtain ⟨clock, new, rfl, hhanded, -⟩ := hport
    exact ⟨new, hhanded, rfl⟩

end Slot

end Statime
