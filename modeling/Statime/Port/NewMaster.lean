import Statime.Port.Following

/-!
# A slave that gets a new master

What a port measured with its old master must not show in what it measures with a new one.  The mean
delay that the filter of the old master estimated does.

* `Slot.unwinding`: the messages of the master change only what a port measures with it.
* `Slot.new_master`: two runs with different messages of the old master.
-/

namespace Statime

open Rust Machine

/-! ### The messages of the master -/

/-- A message of the end-to-end synchronization with this master. -/
def Message.synchronizes (master : PortIdentity) (message : Message) : Bool :=
  decide (message.header.sourcePortIdentity = master) &&
    match message.body with
    | .sync _ | .followUp _ | .delayResp _ => true
    | _ => false

/-- Such a message is received. -/
def PortEvent.synchronizes {T : Type} [ForwardedTLVProvider T] (master : PortIdentity)
    (e : PortEvent T) : Bool :=
  match e with
  | .eventReceive s data _ | .generalReceive s data =>
    match Port.parseAndFilter s data with
    | .ok (some message) => message.synchronizes master
    | _ => false
  | _ => false

namespace Port

variable {A R C F : Type} [AcceptableMasterList A] [Clock C] [Filter F] [Rng R] {p : Profile}
  {port port' port₁ port₁' : Port Running A R C F} {master : PortIdentity} {s s₁ s₁' : PtpInstanceState}
  {message : Message} {timestamp : Time} {actions actions' : PortActionIterator}

/-! ### Both ports receive a message -/

omit [AcceptableMasterList A] [Clock C] [Rng R] in
/-- A handler that leaves the state of the instance alone. -/
theorem withState_eq_ok {x : Except Panic (Port Running A R C F × PortActionIterator)}
    (h : (x >>= fun a => (.ok (a.1, s, a.2) : Except Panic _)) = .ok (port₁, s₁, actions)) :
    x = .ok (port₁, actions) := by
  obtain ⟨⟨port₂, actions₂⟩, hx, heq⟩ := bind_eq_ok.mp h
  obtain ⟨rfl, hrest⟩ := Prod.mk.inj (Except.ok.inj heq)
  obtain ⟨-, rfl⟩ := Prod.mk.inj hrest
  exact hx

theorem handleGeneralInternal_agrees (hinc : port.core.Incomplete) (hinc' : port'.core.Incomplete)
    (hagree : port.Agrees master port')
    (h : port.handleGeneralInternal p s message = .ok (port₁, s₁, actions))
    (h' : port'.handleGeneralInternal p s message = .ok (port₁', s₁', actions')) :
    port₁.Agrees master port₁' := by
  unfold handleGeneralInternal at h h'
  cases hbody : message.body with
  | announce announce =>
    simp only [hbody] at h h'
    exact handleAnnounce_agrees hagree h h'
  | followUp followUp =>
    simp only [hbody] at h h'
    replace h := withState_eq_ok h
    replace h' := withState_eq_ok h'
    rw [handleFollowUp_eq] at h h'
    exact storeSlave_agrees (SlaveState.storeFollowUp_keepsMaster p _ _) hinc.1 hagree h h'
  | delayResp response =>
    simp only [hbody] at h h'
    replace h := withState_eq_ok h
    replace h' := withState_eq_ok h'
    rw [handleDelayResp_eq] at h h'
    rw [hagree.portIdentity_eq] at h'
    exact storeSlave_agrees (SlaveState.storeDelayResp_keepsMaster p _ _ _) hinc.1 hagree h h'
  | pDelayRespFollowUp followUp =>
    simp only [hbody] at h h'
    replace h := withState_eq_ok h
    replace h' := withState_eq_ok h'
    rw [handlePeerDelayResponseFollowUp_eq] at h h'
    rw [hagree.peerDelayState_eq] at h'
    exact handleAnswer_agrees hinc hinc' hagree h h'
  | sync _ | delayReq _ | pDelayReq _ | pDelayResp _ | management _ | signaling _ =>
    simp only [hbody] at h h'
    obtain ⟨rfl, -⟩ := Prod.mk.inj (Except.ok.inj h)
    obtain ⟨rfl, -⟩ := Prod.mk.inj (Except.ok.inj h')
    exact hagree

theorem handleEventMessage_agrees (hinc : port.core.Incomplete) (hinc' : port'.core.Incomplete)
    (hagree : port.Agrees master port')
    (h : port.handleEventMessage p s message timestamp = .ok (port₁, s₁, actions))
    (h' : port'.handleEventMessage p s message timestamp = .ok (port₁', s₁', actions')) :
    port₁.Agrees master port₁' := by
  unfold handleEventMessage at h h'
  cases hbody : message.body with
  | sync sync =>
    simp only [hbody] at h h'
    replace h := withState_eq_ok h
    replace h' := withState_eq_ok h'
    rw [handleSync_eq] at h h'
    exact storeSlave_agrees (SlaveState.storeSync_keepsMaster p _ _ _) hinc.1 hagree h h'
  | delayReq _ =>
    simp only [hbody] at h h'
    exact (handleDelayReq_doesNotSteer p message.header timestamp).agrees hagree
      (withState_eq_ok h) (withState_eq_ok h')
  | pDelayReq _ =>
    simp only [hbody] at h h'
    exact (handlePdelayReq_doesNotSteer p s message.header timestamp).agrees hagree
      (withState_eq_ok h) (withState_eq_ok h')
  | pDelayResp response =>
    simp only [hbody] at h h'
    replace h := withState_eq_ok h
    replace h' := withState_eq_ok h'
    rw [handlePeerDelayResponse_eq] at h h'
    rw [hagree.peerDelayState_eq] at h'
    exact handleAnswer_agrees hinc hinc' hagree h h'
  | announce _ | followUp _ | delayResp _ | pDelayRespFollowUp _ | management _ | signaling _ =>
    simp only [hbody] at h h'
    exact handleGeneralInternal_agrees hinc hinc' hagree h h'

theorem handleEventReceive_agrees {data : List UInt8} (hinc : port.core.Incomplete)
    (hinc' : port'.core.Incomplete) (hagree : port.Agrees master port')
    (h : port.handleEventReceive p s data timestamp = .ok (port₁, s₁, actions))
    (h' : port'.handleEventReceive p s data timestamp = .ok (port₁', s₁', actions')) :
    port₁.Agrees master port₁' := by
  rcases handleEventReceive_cases h with ⟨hparse, rfl, -, -⟩ | ⟨message, hparse, h⟩
  · rcases handleEventReceive_cases h' with ⟨-, rfl, -, -⟩ | ⟨message', hparse', -⟩
    · exact hagree
    · cases hparse.symm.trans hparse'
  · rcases handleEventReceive_cases h' with ⟨hparse', -⟩ | ⟨message', hparse', h'⟩
    · cases hparse.symm.trans hparse'
    · obtain rfl := Option.some.inj (Except.ok.inj (hparse.symm.trans hparse'))
      exact handleEventMessage_agrees hinc hinc' hagree h h'

theorem handleGeneralReceive_agrees {data : List UInt8} (hinc : port.core.Incomplete)
    (hinc' : port'.core.Incomplete) (hagree : port.Agrees master port')
    (h : port.handleGeneralReceive p s data = .ok (port₁, s₁, actions))
    (h' : port'.handleGeneralReceive p s data = .ok (port₁', s₁', actions')) :
    port₁.Agrees master port₁' := by
  rcases handleGeneralReceive_cases h with ⟨hparse, rfl, -, -⟩ | ⟨message, hparse, h⟩
  · rcases handleGeneralReceive_cases h' with ⟨-, rfl, -, -⟩ | ⟨message', hparse', -⟩
    · exact hagree
    · cases hparse.symm.trans hparse'
  · rcases handleGeneralReceive_cases h' with ⟨hparse', -⟩ | ⟨message', hparse', h'⟩
    · cases hparse.symm.trans hparse'
    · obtain rfl := Option.some.inj (Except.ok.inj (hparse.symm.trans hparse'))
      exact handleGeneralInternal_agrees hinc hinc' hagree h h'

/-! ### One port receives a message of the master -/

theorem handleGeneralInternal_local (hinc : port.core.Incomplete)
    (hmaster : message.synchronizes master = true)
    (h : port.handleGeneralInternal p s message = .ok (port₁, s₁, actions)) :
    port.Agrees master port₁ := by
  rw [Message.synchronizes, Bool.and_eq_true, decide_eq_true_eq] at hmaster
  obtain ⟨hsource, hbody⟩ := hmaster
  unfold handleGeneralInternal at h
  split at h
  · rename_i heq
    rw [heq] at hbody
    cases hbody
  · replace h := withState_eq_ok h
    rw [handleFollowUp_eq] at h
    refine storeSlave_local (SlaveState.storeFollowUp_keepsMaster p _ _) hinc.1 ?_ h
    intro state hother
    rw [SlaveState.storeFollowUp, if_pos (by rw [hsource]; exact hother)]
  · replace h := withState_eq_ok h
    rw [handleDelayResp_eq] at h
    refine storeSlave_local (SlaveState.storeDelayResp_keepsMaster p _ _ _) hinc.1 ?_ h
    intro state hother
    rw [SlaveState.storeDelayResp, if_pos (Or.inr (by rw [hsource]; exact hother))]
  · rename_i heq
    rw [heq] at hbody
    cases hbody
  all_goals
    obtain ⟨rfl, -⟩ := Prod.mk.inj (Except.ok.inj h)
    exact .refl port

theorem handleEventMessage_local (hinc : port.core.Incomplete)
    (hmaster : message.synchronizes master = true)
    (h : port.handleEventMessage p s message timestamp = .ok (port₁, s₁, actions)) :
    port.Agrees master port₁ := by
  have hsync := hmaster
  rw [Message.synchronizes, Bool.and_eq_true, decide_eq_true_eq] at hsync
  obtain ⟨hsource, hbody⟩ := hsync
  unfold handleEventMessage at h
  split at h
  · replace h := withState_eq_ok h
    rw [handleSync_eq] at h
    refine storeSlave_local (SlaveState.storeSync_keepsMaster p _ _ _) hinc.1 ?_ h
    intro state hother
    rw [SlaveState.storeSync, if_pos (by rw [hsource]; exact hother)]
  case h_5 => exact handleGeneralInternal_local hinc hmaster h
  all_goals
    rename_i heq
    rw [heq] at hbody
    cases hbody

end Port

namespace Slot

variable {A R C F T : Type} [AcceptableMasterList A] [Clock C] [Filter F] [Rng R]
  [ForwardedTLVProvider T] {p : Profile} {master : PortIdentity}

/-- The same ports, but for their measurements and the exchanges with the master. -/
inductive Agrees (master : PortIdentity) : Slot A R C F → Slot A R C F → Prop
  | running {port port' : Port Running A R C F} :
      port.Agrees master port' → Agrees master (.running port) (.running port')
  | inBmca {port port' : Port InBmca A R C F} :
      port.Agrees master port' → Agrees master (.inBmca port) (.inBmca port')

omit [AcceptableMasterList A] [Clock C] [Rng R] [ForwardedTLVProvider T] in
theorem Agrees.trans {slot slot' slot'' : Slot A R C F} (h : slot.Agrees master slot')
    (h' : slot'.Agrees master slot'') : slot.Agrees master slot'' := by
  cases h with
  | running hport =>
    cases h' with
    | running hport' => exact .running (hport.trans hport')
  | inBmca hport =>
    cases h' with
    | inBmca hport' => exact .inBmca (hport.trans hport')

omit [AcceptableMasterList A] [Clock C] [Rng R] [ForwardedTLVProvider T] in
theorem Agrees.symm {slot slot' : Slot A R C F} (h : slot.Agrees master slot') :
    slot'.Agrees master slot := by
  cases h with
  | running hport => exact .running hport.symm
  | inBmca hport => exact .inBmca hport.symm

theorem step_running_agrees {port port' : Port Running A R C F} {e : PortEvent T}
    {slot₁ slot₁' : Slot A R C F} {actions actions' : PortActionIterator}
    (hinc : port.core.Incomplete) (hinc' : port'.core.Incomplete) (hagree : port.Agrees master port')
    (h : (Slot.running port).step p e = .ok (slot₁, actions))
    (h' : (Slot.running port').step p e = .ok (slot₁', actions')) : slot₁.Agrees master slot₁' := by
  cases e with
  | eventReceive s data timestamp =>
    obtain ⟨port₁, s₁, rfl, hport⟩ := step_eventReceive h
    obtain ⟨port₁', s₁', rfl, hport'⟩ := step_eventReceive h'
    exact .running (Port.handleEventReceive_agrees hinc hinc' hagree hport hport')
  | generalReceive s data =>
    obtain ⟨port₁, s₁, rfl, hport⟩ := step_generalReceive h
    obtain ⟨port₁', s₁', rfl, hport'⟩ := step_generalReceive h'
    exact .running (Port.handleGeneralReceive_agrees hinc hinc' hagree hport hport')
  | sendTimestamp s context timestamp =>
    obtain ⟨port₁, hport, rfl⟩ := ofHandler_eq_ok.mp h
    obtain ⟨port₁', hport', rfl⟩ := ofHandler_eq_ok.mp h'
    refine .running ?_
    cases context with
    | sync id =>
      exact (Port.handleSyncTimestamp_doesNotSteer p s id timestamp).agrees hagree hport hport'
    | delayReq id =>
      rw [Port.handleSendTimestamp, Port.handleDelayTimestamp_eq] at hport hport'
      exact Port.storeSlave_agrees (SlaveState.storeDelayTimestamp_keepsMaster id timestamp) hinc.1
        hagree hport hport'
    | pDelayReq id => exact Port.handlePdelayTimestamp_agrees hinc hinc' hagree hport hport'
    | pDelayResp id requestor =>
      exact (Port.handlePdelayResponseTimestamp_doesNotSteer p s id requestor timestamp).agrees
        hagree hport hport'
  | announceTimer s provider =>
    obtain ⟨r₁, hport, h⟩ := bind_eq_ok.mp h
    obtain ⟨r₁', hport', h'⟩ := bind_eq_ok.mp h'
    obtain ⟨rfl, -⟩ := Prod.mk.inj (Except.ok.inj h)
    obtain ⟨rfl, -⟩ := Prod.mk.inj (Except.ok.inj h')
    exact .running ((Port.sendAnnounce_doesNotSteer p s provider).agrees hagree
      (orPanic_eq_ok.mp hport) (orPanic_eq_ok.mp hport'))
  | syncTimer s =>
    obtain ⟨port₁, hport, rfl⟩ := ofHandler_eq_ok.mp h
    obtain ⟨port₁', hport', rfl⟩ := ofHandler_eq_ok.mp h'
    exact .running ((Port.sendSync_doesNotSteer p s).agrees hagree hport hport')
  | delayRequestTimer s =>
    obtain ⟨port₁, hport, rfl⟩ := ofHandler_eq_ok.mp h
    obtain ⟨port₁', hport', rfl⟩ := ofHandler_eq_ok.mp h'
    exact .running (Port.sendDelayRequest_agrees hagree hport hport')
  | announceReceiptTimer s =>
    obtain ⟨port₁, hport, rfl⟩ := ofHandler_eq_ok.mp h
    obtain ⟨port₁', hport', rfl⟩ := ofHandler_eq_ok.mp h'
    exact .running (Port.handleAnnounceReceiptTimer_agrees hagree hport hport')
  | filterUpdateTimer =>
    obtain ⟨rfl, -⟩ := Prod.mk.inj (Except.ok.inj h)
    obtain ⟨rfl, -⟩ := Prod.mk.inj (Except.ok.inj h')
    exact .running (Port.handleFilterUpdateTimer_agrees hagree)
  | startBmca =>
    obtain ⟨rfl, -⟩ := Prod.mk.inj (Except.ok.inj h)
    obtain ⟨rfl, -⟩ := Prod.mk.inj (Except.ok.inj h')
    exact .inBmca (hagree.withLifecycle _)
  | endBmca | calculateBest | recommend _ _ | stepAge _ => cases h

theorem step_inBmca_agrees {port port' : Port InBmca A R C F} {e : PortEvent T}
    {slot₁ slot₁' : Slot A R C F} {actions actions' : PortActionIterator}
    (hagree : port.Agrees master port') (h : (Slot.inBmca port).step p e = .ok (slot₁, actions))
    (h' : (Slot.inBmca port').step p e = .ok (slot₁', actions')) : slot₁.Agrees master slot₁' := by
  cases e with
  | endBmca =>
    obtain ⟨rfl, -⟩ := Prod.mk.inj (Except.ok.inj h)
    obtain ⟨rfl, -⟩ := Prod.mk.inj (Except.ok.inj h')
    exact .running (hagree.withLifecycle _)
  | calculateBest =>
    obtain ⟨port₁, hport, h⟩ := bind_eq_ok.mp h
    obtain ⟨port₁', hport', h'⟩ := bind_eq_ok.mp h'
    obtain ⟨rfl, -⟩ := Prod.mk.inj (Except.ok.inj h)
    obtain ⟨rfl, -⟩ := Prod.mk.inj (Except.ok.inj h')
    exact .inBmca (Port.calculateBest_agrees hagree (orPanic_eq_ok.mp hport)
      (orPanic_eq_ok.mp hport'))
  | recommend s state =>
    obtain ⟨⟨port₁, s₁⟩, hport, h⟩ := bind_eq_ok.mp h
    obtain ⟨⟨port₁', s₁'⟩, hport', h'⟩ := bind_eq_ok.mp h'
    obtain ⟨rfl, -⟩ := Prod.mk.inj (Except.ok.inj h)
    obtain ⟨rfl, -⟩ := Prod.mk.inj (Except.ok.inj h')
    exact .inBmca (Port.setRecommendedState_agrees hagree (orPanic_eq_ok.mp hport)
      (orPanic_eq_ok.mp hport'))
  | stepAge step =>
    obtain ⟨port₁, hport, h⟩ := bind_eq_ok.mp h
    obtain ⟨port₁', hport', h'⟩ := bind_eq_ok.mp h'
    obtain ⟨rfl, -⟩ := Prod.mk.inj (Except.ok.inj h)
    obtain ⟨rfl, -⟩ := Prod.mk.inj (Except.ok.inj h')
    exact .inBmca (Port.stepAnnounceAge_agrees hagree (orPanic_eq_ok.mp hport)
      (orPanic_eq_ok.mp hport'))
  | eventReceive _ _ _ | generalReceive _ _ | sendTimestamp _ _ _ | announceTimer _ _
  | syncTimer _ | delayRequestTimer _ | announceReceiptTimer _ | filterUpdateTimer | startBmca =>
    cases h

/-- **A message of the master** changes only what the port measures with it. -/
theorem step_local {slot slot₁ : Slot A R C F} {e : PortEvent T} {actions : PortActionIterator}
    (hinc : slot.core.Incomplete) (hmaster : e.synchronizes master = true)
    (h : slot.step p e = .ok (slot₁, actions)) : slot.Agrees master slot₁ := by
  cases slot with
  | inBmca port =>
    cases e with
    | eventReceive _ _ _ | generalReceive _ _ => cases h
    | _ => cases hmaster
  | running port =>
    unfold PortEvent.synchronizes at hmaster
    split at hmaster
    · split at hmaster
      · rename_i hparse
        obtain ⟨port₁, s₁, rfl, hport⟩ := step_eventReceive h
        rw [Port.handleEventReceive, hparse, ok_bind] at hport
        exact .running (Port.handleEventMessage_local hinc hmaster hport)
      · cases hmaster
    · split at hmaster
      · rename_i hparse
        obtain ⟨port₁, s₁, rfl, hport⟩ := step_generalReceive h
        rw [Port.handleGeneralReceive, hparse, ok_bind] at hport
        exact .running (Port.handleGeneralInternal_local hinc hmaster hport)
      · cases hmaster
    · cases hmaster

/-- Both ports are reachable, and differ in their measurements and the exchanges with the master. -/
def ReachableAgree (T : Type) [ForwardedTLVProvider T] (p : Profile) (master : PortIdentity)
    (slot slot' : Slot A R C F) : Prop :=
  Reachable T p slot ∧ Reachable T p slot' ∧ slot.Agrees master slot'

/-- **What cannot be seen through the messages of the master.** -/
theorem unwinding : Unwinding (step (A := A) (R := R) (C := C) (F := F) (T := T) p)
    (ReachableAgree T p master) (fun e => !e.synchronizes master) where
  both := by
    rintro slot slot' e slot₁ slot₁' actions actions' ⟨hslot, hslot', hagree⟩ - h h'
    refine ⟨.step hslot h, .step hslot' h', ?_⟩
    have hinc := hslot.incomplete
    have hinc' := hslot'.incomplete
    cases hagree with
    | running hport => exact step_running_agrees hinc hinc' hport h h'
    | inBmca hport => exact step_inBmca_agrees hport h h'
  left := by
    rintro slot slot' e slot₁ actions ⟨hslot, hslot', hagree⟩ hhigh h
    rw [Bool.not_eq_false'] at hhigh
    exact ⟨.step hslot h, hslot', (step_local hslot.incomplete hhigh h).symm.trans hagree⟩
  right := by
    rintro slot slot' e slot₁' actions ⟨hslot, hslot', hagree⟩ hhigh h
    rw [Bool.not_eq_false'] at hhigh
    exact ⟨hslot, .step hslot' h, hagree.trans (step_local hslot'.incomplete hhigh h)⟩

/-- Two histories of a port that is a slave of the master in the end.  They differ in the messages of
the master that synchronize the port. -/
structure Histories (p : Profile) (master : PortIdentity) (slot : Slot A R C F)
    (es es' : List (PortEvent T)) (port port' : Port InBmca A R C F) : Prop where
  reachable : Reachable T p slot
  others : es.filter (fun e => !e.synchronizes master) = es'.filter fun e => !e.synchronizes master
  first : ∃ outs, run (step p) slot es = .ok (.inBmca port, outs)
  second : ∃ outs, run (step p) slot es' = .ok (.inBmca port', outs)
  slave : ∃ slave : SlaveState, port.portState = .slave slave ∧ slave.remoteMaster = master

theorem Histories.agrees {slot : Slot A R C F} {es es' : List (PortEvent T)}
    {port port' : Port InBmca A R C F} (h : Histories p master slot es es' port port') :
    port.Agrees master port' := by
  obtain ⟨outs, hfirst⟩ := h.first
  obtain ⟨outs', hsecond⟩ := h.second
  have hself : ReachableAgree T p master slot slot := by
    refine ⟨h.reachable, h.reachable, ?_⟩
    cases slot with
    | running port => exact .running (.refl port)
    | inBmca port => exact .inBmca (.refl port)
  obtain ⟨-, -, hagree⟩ := unwinding.run es es' hself h.others hfirst hsecond
  cases hagree with
  | inBmca hport => exact hport

end Slot

namespace Port

variable {A R C F : Type} [AcceptableMasterList A] [Clock C] [Filter F] [Rng R] {p : Profile}
  {master : PortIdentity} {s s₁ s₁' : PtpInstanceState}

omit [AcceptableMasterList A] in
/-- A slave that leaves its master. -/
theorem setRecommendedState_slave {port port₁ : Port InBmca A R C F} {slave : SlaveState}
    {message : AnnounceMessage} (hslave : port.portState = .slave slave)
    (hnew : message.header.sourcePortIdentity ≠ slave.remoteMaster)
    (h : port.setRecommendedState p s (.s1 message) = .ok (port₁, s₁)) :
    ∃ duration rng clock, port.config.announceDuration port.rng = .ok (duration, rng) ∧
      port₁ = { port with
        portState := .slave (SlaveState.new message.header.sourcePortIdentity)
        filter := Filter.new port.filterConfig
        clock
        rng
        lifecycle := { port.lifecycle with
          pendingAction := .of [.resetAnnounceReceiptTimer duration, .resetDelayRequestTimer 0] } } := by
  obtain ⟨port₂, hport₂, h⟩ := bind_eq_ok.mp h
  obtain ⟨_, -, h⟩ := bind_eq_ok.mp h
  obtain ⟨s₂, -, h⟩ := bind_eq_ok.mp h
  obtain ⟨rfl, -⟩ := Prod.mk.inj (Except.ok.inj h)
  obtain ⟨_, -, hport₂⟩ := bind_eq_ok.mp hport₂
  have henters : port.portState.entersSlave message.header.sourcePortIdentity = true := by
    simp [hslave, PortState.entersSlave, hnew.symm]
  rw [if_pos henters] at hport₂
  have hforced : port.setForcedPortState
      (.slave (SlaveState.new message.header.sourcePortIdentity)) = { port with
        portState := .slave (SlaveState.new message.header.sourcePortIdentity)
        filter := Filter.new port.filterConfig
        clock := Filter.demobilize port.filter port.clock } := by
    rw [setForcedPortState, if_pos (Or.inl (by simp [isSteering, hslave]))]
  rw [hforced] at hport₂
  obtain ⟨⟨duration, rng⟩, hduration, hport₂⟩ := bind_eq_ok.mp hport₂
  obtain rfl := Except.ok.inj hport₂
  exact ⟨duration, rng, _, hduration, rfl⟩

omit [AcceptableMasterList A] in
/-- **A new master**: the exchanges and the filter are new, the mean delay is the old one. -/
theorem setRecommendedState_newMaster {port port' port₁ port₁' : Port InBmca A R C F}
    {slave : SlaveState} {message : AnnounceMessage} {r : C → C → Prop}
    (hagree : port.Agrees master port') (hslave : port.portState = .slave slave)
    (hmaster : slave.remoteMaster = master)
    (hnew : message.header.sourcePortIdentity ≠ master) (hdelay : port.meanDelay = port'.meanDelay)
    (h : port.setRecommendedState p s (.s1 message) = .ok (port₁, s₁))
    (h' : port'.setRecommendedState p s (.s1 message) = .ok (port₁', s₁'))
    (hclock : r port₁.clock port₁'.clock) : port₁.Follows r port.handed port'.handed port₁' := by
  obtain ⟨slave', hslave', hmaster'⟩ :
      ∃ slave' : SlaveState, port'.portState = .slave slave' ∧ slave'.remoteMaster = master := by
    rcases hagree.portState_agrees with heq | ⟨_, slave', -, hslave', -, hmaster'⟩
    · exact ⟨slave, heq.symm.trans hslave, hmaster⟩
    · exact ⟨slave', hslave', hmaster'⟩
  obtain ⟨duration, rng, clock, hduration, rfl⟩ :=
    setRecommendedState_slave hslave (by rw [hmaster]; exact hnew) h
  obtain ⟨duration', rng', clock', hduration', rfl⟩ :=
    setRecommendedState_slave hslave' (by rw [hmaster']; exact hnew) h'
  obtain ⟨m, rfl, -⟩ := hagree
  obtain ⟨rfl, rfl⟩ := Prod.mk.inj (Except.ok.inj (hduration.symm.trans hduration'))
  refine ⟨clock', [], ?_, (List.append_nil _).symm, hclock⟩
  rw [hdelay, List.append_nil]
  rfl

end Port

namespace Slot

variable {A R C F T : Type} [AcceptableMasterList A] [Clock C] [Filter F] [Rng R]
  [ForwardedTLVProvider T] {p : Profile} {master : PortIdentity}

/-- The clock of the port. -/
def clock : Slot A R C F → C
  | .running port => port.clock
  | .inBmca port => port.clock

/-- **Nothing of the old master shows**, when the mean delay at the switch is the same: the same events
make the same outputs and the same measurements. -/
theorem new_master {slot switched switched' last : Slot A R C F} {es es' later : List (PortEvent T)}
    {port port' : Port InBmca A R C F} {s : PtpInstanceState} {message : AnnounceMessage}
    {actions actions' : PortActionIterator} {outs : List PortActionIterator}
    (h : Histories p master slot es es' port port')
    (hnew : message.header.sourcePortIdentity ≠ master)
    (hswitch : (inBmca port).step p (.recommend s (.s1 message) : PortEvent T) =
      .ok (switched, actions))
    (hswitch' : (inBmca port').step p (.recommend s (.s1 message) : PortEvent T) =
      .ok (switched', actions'))
    (hclock : Alike F switched.clock switched'.clock) (hdelay : port.meanDelay = port'.meanDelay)
    (hlater : run (step p) switched later = .ok (last, outs)) :
    ∃ last' measured, run (step p) switched' later = .ok (last', outs) ∧
      last.core.handed = port.handed ++ measured ∧ last'.core.handed = port'.handed ++ measured := by
  obtain ⟨slave, hslave, hmaster⟩ := h.slave
  obtain ⟨⟨port₁, s₁⟩, hport₁, hswitch⟩ := bind_eq_ok.mp hswitch
  obtain ⟨⟨port₁', s₁'⟩, hport₁', hswitch'⟩ := bind_eq_ok.mp hswitch'
  obtain ⟨rfl, -⟩ := Prod.mk.inj (Except.ok.inj hswitch)
  obtain ⟨rfl, -⟩ := Prod.mk.inj (Except.ok.inj hswitch')
  obtain ⟨r, hr, hclock⟩ := hclock
  have hfollows := Port.setRecommendedState_newMaster h.agrees hslave hmaster hnew hdelay
    (orPanic_eq_ok.mp hport₁) (orPanic_eq_ok.mp hport₁') hclock
  obtain ⟨last', hlater', hlast⟩ := (step_follows hr).run later (.inBmca hfollows) hlater
  obtain ⟨measured, hhanded, hhanded'⟩ := hlast.handed
  exact ⟨last', measured, hlater', hhanded, hhanded'⟩

/-! ### Two histories of a test port -/

/-- The message of a master that a test port is to follow. -/
def announceOf (source : PortIdentity) : AnnounceMessage where
  header := { Header.new 1 with sourcePortIdentity := source }
  originTimestamp := default
  currentUtcOffset := 0
  grandmasterPriority1 := 1
  grandmasterClockQuality := testInstanceConfig.clockQuality
  grandmasterPriority2 := 1
  grandmasterIdentity := default
  stepsRemoved := 0
  timeSource := .internalOscillator

/-- Another master than `testParent`. -/
def otherParent : PortIdentity :=
  (TestSlot.message false 8 0 (.sync ⟨default⟩)).header.sourcePortIdentity

/-- The port is to follow this master. -/
def follow (source : PortIdentity) : PortEvent NoForwardedTLVs :=
  .recommend (testSystem testInstanceConfig).state (.s1 (announceOf source))

/-- A slave of `testParent` that received these messages. -/
def slaveHistory (received : List (PortEvent NoForwardedTLVs)) : List (PortEvent NoForwardedTLVs) :=
  [follow testParent, .endBmca, .delayRequestTimer (testSystem testInstanceConfig).state,
    .sendTimestamp (testSystem testInstanceConfig).state (.delayReq 0) ⟨⟨3⟩⟩] ++ received ++ [.startBmca]

/-- A sync message of the new master. -/
def newMasterSync : List (PortEvent NoForwardedTLVs) :=
  [.endBmca, TestSlot.eventReceive 0 0 8 0 (List.replicate 10 0)]

def isSlaveOf (master : PortIdentity) : PortState → Bool
  | .slave slave => decide (slave.remoteMaster = master)
  | _ => false

/-- Whether the histories lead to slaves that take the new master and measure its sync message, with
the property at the end. -/
def switches (received received' : List (PortEvent NoForwardedTLVs))
    (check : Port InBmca AcceptAnyMaster TestRng TestClock TestFilter →
      Port InBmca AcceptAnyMaster TestRng TestClock TestFilter → TestSlot → TestSlot → Bool) : Bool :=
  (TestSlot.new testPortConfig).toOption.any fun port₀ =>
    match run (step .debug) (.inBmca port₀ : TestSlot) (slaveHistory received),
        run (step .debug) (.inBmca port₀ : TestSlot) (slaveHistory received') with
    | .ok (.inBmca port, _), .ok (.inBmca port', _) =>
      match (inBmca port).step .debug (follow otherParent),
          (inBmca port').step .debug (follow otherParent) with
      | .ok (switched, _), .ok (switched', _) =>
        match run (step .debug) switched newMasterSync, run (step .debug) switched' newMasterSync with
        | .ok (last, _), .ok (last', _) =>
          isSlaveOf testParent port.portState && check port port' last last'
        | _, _ => false
      | _, _ => false
    | _, _ => false

/-- Histories that were evaluated. -/
theorem exists_switches {received received' : List (PortEvent NoForwardedTLVs)}
    {check : Port InBmca AcceptAnyMaster TestRng TestClock TestFilter →
      Port InBmca AcceptAnyMaster TestRng TestClock TestFilter → TestSlot → TestSlot → Bool}
    (hreceived : ∀ e ∈ received, e.synchronizes testParent = true)
    (hreceived' : ∀ e ∈ received', e.synchronizes testParent = true)
    (h : switches received received' check = true) :
    ∃ (slot switched switched' last last' : TestSlot)
      (port port' : Port InBmca AcceptAnyMaster TestRng TestClock TestFilter)
      (actions actions' : PortActionIterator) (outs outs' : List PortActionIterator),
      Histories .debug testParent slot (slaveHistory received) (slaveHistory received') port port' ∧
      (inBmca port).step .debug (follow otherParent) = .ok (switched, actions) ∧
      (inBmca port').step .debug (follow otherParent) = .ok (switched', actions') ∧
      run (step .debug) switched newMasterSync = .ok (last, outs) ∧
      run (step .debug) switched' newMasterSync = .ok (last', outs') ∧
      check port port' last last' = true := by
  obtain ⟨port₀, hnew, h⟩ := (Option.any_eq_true _ _).mp h
  have hinit : Initial .debug (.inBmca port₀ : TestSlot) :=
    ⟨_, _, _, _, _, port₀, eq_ok_of_toOption hnew, rfl⟩
  split at h
  · rename_i port outs₁ port' outs₁' hrun hrun'
    split at h
    · rename_i switched actions switched' actions' hswitch hswitch'
      split at h
      · rename_i last outs last' outs' hlater hlater'
        rw [Bool.and_eq_true] at h
        refine ⟨_, switched, switched', last, last', port, port', actions, actions', outs, outs',
          ⟨.init hinit, ?_, ⟨outs₁, hrun⟩, ⟨outs₁', hrun'⟩, ?_⟩, hswitch, hswitch', hlater, hlater',
          h.2⟩
        · have hnone : ∀ {es : List (PortEvent NoForwardedTLVs)},
              (∀ e ∈ es, e.synchronizes testParent = true) →
                es.filter (fun e => !e.synchronizes testParent) = [] := by
            intro es hes
            exact List.filter_eq_nil_iff.mpr fun e he => by simp [hes e he]
          simp only [slaveHistory, List.filter_append, hnone hreceived, hnone hreceived']
        · have hslave := h.1
          unfold isSlaveOf at hslave
          split at hslave
          · rename_i slave hstate
            exact ⟨slave, hstate, of_decide_eq_true hslave⟩
          · cases hslave
      · cases h
    · cases h
  · cases h

/-- Without an estimate of the delay nothing is left of the sync message of the old master. -/
theorem new_master_without_delay :
    ∃ (slot switched switched' last last' : TestSlot)
      (port port' : Port InBmca AcceptAnyMaster TestRng TestClock TestFilter)
      (actions actions' : PortActionIterator) (outs : List PortActionIterator)
      (measured : List Measurement),
      Histories .debug testParent slot (slaveHistory [])
        (slaveHistory [TestSlot.eventReceive 0 0 9 0 (List.replicate 10 0)]) port port' ∧
      (inBmca port).step .debug (follow otherParent) = .ok (switched, actions) ∧
      (inBmca port').step .debug (follow otherParent) = .ok (switched', actions') ∧
      port.handed ≠ port'.handed ∧ port.meanDelay = port'.meanDelay ∧
      run (step .debug) switched newMasterSync = .ok (last, outs) ∧
      run (step .debug) switched' newMasterSync = .ok (last', outs) ∧
      last.core.handed = port.handed ++ measured ∧ last'.core.handed = port'.handed ++ measured := by
  have hrun : switches [] [TestSlot.eventReceive 0 0 9 0 (List.replicate 10 0)]
      (fun port port' _ _ => decide (port.handed ≠ port'.handed ∧ port.meanDelay = port'.meanDelay)) =
        true := by
    decide +kernel
  obtain ⟨slot, switched, switched', last, last₁, port, port', actions, actions', outs, outs₁, h,
      hswitch, hswitch', hlater, -, hcheck⟩ := exists_switches (by simp) (by decide +kernel) hrun
  rw [decide_eq_true_eq] at hcheck
  obtain ⟨last', measured, hlater', hhanded, hhanded'⟩ := new_master h (by decide +kernel) hswitch
    hswitch' ⟨_, Indistinguishable.eq, rfl⟩ hcheck.2 hlater
  exact ⟨slot, switched, switched', last, last', port, port', actions, actions', outs, measured, h,
    hswitch, hswitch', hcheck.1, hcheck.2, hlater, hlater', hhanded, hhanded'⟩

/-- The one-step sync message of the old master, and its response with this receive timestamp. -/
def measuredDelay (nanos : UInt8) : List (PortEvent NoForwardedTLVs) :=
  [TestSlot.eventReceive 0 0 9 0 (List.replicate 10 0),
    TestSlot.eventReceive 9 0 9 0 (List.replicate 9 0 ++ [nanos] ++ List.replicate 10 0)]

/-- **The delay to the old master stays**: two responses of the old master with different timestamps
give different offsets from the new one. -/
theorem new_master_old_delay :
    ∃ (slot switched switched' last last' : TestSlot)
      (port port' : Port InBmca AcceptAnyMaster TestRng TestClock TestFilter)
      (actions actions' : PortActionIterator) (outs outs' : List PortActionIterator)
      (m m' : Measurement),
      Histories .debug testParent slot (slaveHistory (measuredDelay 0))
        (slaveHistory (measuredDelay 7)) port port' ∧
      port.config.delayMechanism = .e2e ⟨1⟩ ∧
      (announceOf otherParent).header.sourcePortIdentity ≠ testParent ∧
      (inBmca port).step .debug (follow otherParent) = .ok (switched, actions) ∧
      (inBmca port').step .debug (follow otherParent) = .ok (switched', actions') ∧
      Alike TestFilter switched.clock switched'.clock ∧
      run (step .debug) switched newMasterSync = .ok (last, outs) ∧
      run (step .debug) switched' newMasterSync = .ok (last', outs') ∧
      last.core.handed = port.handed ++ [m] ∧ last'.core.handed = port'.handed ++ [m'] ∧
      m.offset ≠ m'.offset := by
  have hrun : switches (measuredDelay 0) (measuredDelay 7) (fun port port' last last' =>
      decide (port.config.delayMechanism = .e2e ⟨1⟩) &&
      last.core.handed.getLast?.any fun m => last'.core.handed.getLast?.any fun m' =>
        decide (last.core.handed = port.handed ++ [m] ∧
          last'.core.handed = port'.handed ++ [m'] ∧ m.offset ≠ m'.offset)) = true := by
    decide +kernel
  obtain ⟨slot, switched, switched', last, last', port, port', actions, actions', outs, outs', h,
      hswitch, hswitch', hlater, hlater', hcheck⟩ :=
    exists_switches (by decide +kernel) (by decide +kernel) hrun
  rw [Bool.and_eq_true, decide_eq_true_eq] at hcheck
  obtain ⟨hmechanism, hcheck⟩ := hcheck
  obtain ⟨m, -, hcheck⟩ := (Option.any_eq_true _ _).mp hcheck
  obtain ⟨m', -, hcheck⟩ := (Option.any_eq_true _ _).mp hcheck
  obtain ⟨hhanded, hhanded', hoffset⟩ := of_decide_eq_true hcheck
  exact ⟨slot, switched, switched', last, last', port, port', actions, actions', outs, outs', m, m',
    h, hmechanism, by decide +kernel, hswitch, hswitch', ⟨_, Indistinguishable.eq, rfl⟩, hlater,
    hlater', hhanded, hhanded', hoffset⟩

end Slot

end Statime
