import Statime.Port.Delivery

/-!
# Messages that are delivered twice

A message that an exchange waits for is stored, and with the last one the exchange is measured and
closed.  The same message again finds no place any more, and is ignored or begins an exchange that
nothing completes.  A one-step sync message is different: it is a whole exchange in itself, and once
it was measured nothing of it is left by which it could be recognized.

* `handleSync_again` and the others: the second delivery hands the filter nothing.
* `handleSync_one_step_again`: that of a one-step sync message does.
* `Slot.harmless_again_iff`: when a second delivery is harmless.
-/

namespace Statime

open Rust

variable {A R C F T : Type} [AcceptableMasterList A] [Clock C] [Filter F] [Rng R]
  [ForwardedTLVProvider T]

/-! ### What an exchange waits for -/

namespace PortCore

variable {p : Profile} {c c' : PortCore}

/-- The follow-up came first. -/
def AwaitsSync (c : PortCore) (header : Header) : Prop :=
  ∃ state sendTime, c.portState = .slave state ∧ state.remoteMaster = header.sourcePortIdentity ∧
    state.syncState = .measuring header.sequenceId sendTime none

/-- The sync message came first. -/
def AwaitsFollowUp (c : PortCore) (header : Header) : Prop :=
  ∃ state recvTime, c.portState = .slave state ∧ state.remoteMaster = header.sourcePortIdentity ∧
    state.syncState = .measuring header.sequenceId none recvTime

/-- The delay request has no answer yet. -/
def AwaitsDelayResp (c : PortCore) (header : Header) (requesting : PortIdentity) : Prop :=
  c.portIdentity = requesting ∧ ∃ state sendTime, c.portState = .slave state ∧
    state.remoteMaster = header.sourcePortIdentity ∧
    state.delayState = .measuring header.sequenceId sendTime none

/-- The peer delay request with this id lacks an answer, and no other device answered. -/
def AwaitsAnswer (c : PortCore) (header : Header) (requesting : PortIdentity)
    (lacks : PeerDelayState → Bool) : Prop :=
  c.portIdentity = requesting ∧ lacks c.peerDelayState = true ∧
    ∃ responder t1 t2 t3 t4, c.peerDelayState = .measuring header.sequenceId responder t1 t2 t3 t4 ∧
      ∀ identity, responder = some identity → identity = header.sourcePortIdentity

/-- A measurement leaves the exchanges of a slave as they are, or closes them. -/
theorem Measures.slave {state' : SlaveState} (h : Measures p c c')
    (hstate' : c'.portState = .slave state') :
    ∃ state, c.portState = .slave state ∧ state'.remoteMaster = state.remoteMaster ∧
      (state'.syncState = state.syncState ∨ state'.syncState = .empty) ∧
      (state'.delayState = state.delayState ∨ state'.delayState = .empty) := by
  cases h with
  | idle => exact ⟨state', hstate', rfl, Or.inl rfl, Or.inl rfl⟩
  | peer =>
    dsimp only at hstate'
    split at hstate'
    · cases hstate'
    · exact ⟨state', hstate', rfl, Or.inl rfl, Or.inl rfl⟩
  | sync _ hstate =>
    obtain rfl := PortState.slave.inj hstate'
    exact ⟨_, hstate, rfl, Or.inr rfl, Or.inl rfl⟩
  | delay _ hstate =>
    obtain rfl := PortState.slave.inj hstate'
    exact ⟨_, hstate, rfl, Or.inl rfl, Or.inr rfl⟩

end PortCore

namespace Port

variable {p : Profile} {port port₁ : Port Running A R C F} {actions : PortActionIterator}
  {header : Header}

omit [Rng R]

/-! ### Sync messages and follow-ups -/

omit [AcceptableMasterList A] [Clock C] in
/-- What a call that did nothing does when it is made again. -/
theorem again_of_same
    (handler : Port Running A R C F → Except Panic (Port Running A R C F × PortActionIterator))
    (h : handler port = .ok (port₁, actions)) (hsame : port₁ = port) :
    ∃ port₂ actions', handler port₁ = .ok (port₂, actions') ∧ port₂.handed = port₁.handed := by
  subst hsame
  exact ⟨port₁, actions, h, rfl⟩

theorem handleSync_settles {message : SyncMessage} {recvTime : Time}
    (htwo : header.twoStepFlag = true)
    (h : port.handleSync p header message recvTime = .ok (port₁, actions)) :
    ¬ port₁.core.AwaitsSync header := by
  rintro ⟨state₁, sendTime₁, hstate₁, hmaster₁, hsync₁⟩
  unfold handleSync at h
  split at h
  · rename_i state hstate
    split at h
    · rename_i hother
      obtain ⟨rfl, -⟩ := Prod.mk.inj (Except.ok.inj h)
      obtain rfl := PortState.slave.inj (hstate.symm.trans hstate₁)
      exact hother hmaster₁
    · obtain ⟨corrected, -, h⟩ := bind_eq_ok.mp h
      dsimp only at h
      split at h
      · rename_i id sendTime recvTime' hsync
        split at h
        · rename_i hid
          subst hid
          split at h
          · rename_i hsome
            obtain ⟨rfl, -⟩ := Prod.mk.inj (Except.ok.inj h)
            obtain rfl := PortState.slave.inj (hstate.symm.trans hstate₁)
            cases hsync.symm.trans hsync₁
            cases hsome
          · obtain ⟨state', hstate', -, hkept | hclosed, -⟩ :=
              (handleTimeMeasurement_core h).slave hstate₁
            · obtain rfl := PortState.slave.inj hstate'
              cases hkept.symm.trans hsync₁
            · cases hclosed.symm.trans hsync₁
        · obtain ⟨rfl, -⟩ := Prod.mk.inj (Except.ok.inj h)
          obtain rfl := PortState.slave.inj hstate₁
          cases hsync₁
      · obtain ⟨rfl, -⟩ := Prod.mk.inj (Except.ok.inj h)
        obtain rfl := PortState.slave.inj hstate₁
        cases hsync₁
  · rename_i hstate
    obtain ⟨rfl, -⟩ := Prod.mk.inj (Except.ok.inj h)
    exact hstate state₁ hstate₁

theorem handleSync_settled (message : SyncMessage) {recvTime corrected : Time}
    (htwo : header.twoStepFlag = true) (hnot : ¬ port.core.AwaitsSync header)
    (hsub : recvTime.sub p (Duration.ofTimeInterval header.correctionField) = .ok corrected) :
    ∃ port', port.handleSync p header message recvTime = .ok (port', .empty) ∧
      port'.handed = port.handed := by
  unfold handleSync
  split
  · rename_i state hstate
    split
    · exact ⟨port, rfl, rfl⟩
    · rename_i hmaster
      rw [hsub, ok_bind]
      dsimp only
      split
      · rename_i id sendTime recvTime' hsync
        split
        · rename_i hid
          subst hid
          split
          · exact ⟨port, rfl, rfl⟩
          · rename_i hnone
            obtain rfl : recvTime' = none := by simpa using hnone
            exact absurd ⟨state, sendTime, hstate, not_not.mp hmaster, hsync⟩ hnot
        · exact ⟨_, rfl, rfl⟩
      · exact ⟨_, rfl, rfl⟩
  · exact ⟨port, rfl, rfl⟩

/-- **A two-step sync message again.** -/
theorem handleSync_again {message : SyncMessage} {recvTime : Time}
    (htwo : header.twoStepFlag = true)
    (h : port.handleSync p header message recvTime = .ok (port₁, actions)) :
    ∃ port₂ actions', port₁.handleSync p header message recvTime = .ok (port₂, actions') ∧
      port₂.handed = port₁.handed := by
  have hsettles := handleSync_settles htwo h
  have hcall := h
  unfold handleSync at h
  split at h
  · split at h
    · exact again_of_same (·.handleSync p header message recvTime) hcall
        (Prod.mk.inj (Except.ok.inj h)).1.symm
    · obtain ⟨corrected, hsub, -⟩ := bind_eq_ok.mp h
      obtain ⟨port₂, hport₂, hhanded⟩ := handleSync_settled message htwo hsettles hsub
      exact ⟨port₂, .empty, hport₂, hhanded⟩
  · exact again_of_same (·.handleSync p header message recvTime) hcall
      (Prod.mk.inj (Except.ok.inj h)).1.symm

theorem handleFollowUp_settles {message : FollowUpMessage}
    (h : port.handleFollowUp p header message = .ok (port₁, actions)) :
    ¬ port₁.core.AwaitsFollowUp header := by
  rintro ⟨state₁, recvTime₁, hstate₁, hmaster₁, hsync₁⟩
  -- the send time is there, or was taken out with the whole exchange
  have hmeasured : ∀ (port' : Port Running A R C F) (state : SlaveState) (id : UInt16)
      (sendTime : Time) (recvTime : Option Time), port'.portState = .slave state →
      state.syncState = .measuring id (some sendTime) recvTime →
      port'.handleTimeMeasurement p = .ok (port₁, actions) → False := by
    intro port' state id sendTime recvTime hstate hsync hport'
    obtain ⟨state', hstate', -, hkept | hclosed, -⟩ := (handleTimeMeasurement_core hport').slave hstate₁
    · obtain rfl := PortState.slave.inj (hstate.symm.trans hstate')
      cases (hkept.trans hsync).symm.trans hsync₁
    · cases hclosed.symm.trans hsync₁
  unfold handleFollowUp at h
  split at h
  · rename_i state hstate
    split at h
    · rename_i hother
      obtain ⟨rfl, -⟩ := Prod.mk.inj (Except.ok.inj h)
      obtain rfl := PortState.slave.inj (hstate.symm.trans hstate₁)
      exact hother hmaster₁
    · obtain ⟨sent, -, h⟩ := bind_eq_ok.mp h
      dsimp only at h
      split at h
      · rename_i id sendTime recvTime hsync
        split at h
        · rename_i hid
          subst hid
          split at h
          · rename_i hsome
            obtain ⟨rfl, -⟩ := Prod.mk.inj (Except.ok.inj h)
            obtain rfl := PortState.slave.inj (hstate.symm.trans hstate₁)
            cases hsync.symm.trans hsync₁
            cases hsome
          · exact hmeasured _ _ _ _ _ rfl rfl h
        · exact hmeasured _ _ _ _ _ rfl rfl h
      · exact hmeasured _ _ _ _ _ rfl rfl h
  · rename_i hstate
    obtain ⟨rfl, -⟩ := Prod.mk.inj (Except.ok.inj h)
    exact hstate state₁ hstate₁

theorem handleFollowUp_settled {message : FollowUpMessage} {sent : Time}
    (hincomplete : port.core.Incomplete) (hnot : ¬ port.core.AwaitsFollowUp header)
    (hadd : (Time.ofWireTimestamp message.preciseOriginTimestamp).add p
      (Duration.ofTimeInterval header.correctionField) = .ok sent) :
    ∃ port', port.handleFollowUp p header message = .ok (port', .empty) ∧
      port'.handed = port.handed := by
  unfold handleFollowUp
  split
  · rename_i state hstate
    -- the new exchange has no receive time
    have hfresh : (port.withSlaveState { state with
        syncState := .measuring header.sequenceId (some sent) none }).core.Incomplete :=
      hincomplete.withSync hstate rfl
    split
    · exact ⟨port, rfl, rfl⟩
    · rename_i hmaster
      rw [hadd, ok_bind]
      dsimp only
      split
      · rename_i id sendTime recvTime hsync
        split
        · rename_i hid
          subst hid
          split
          · exact ⟨port, rfl, rfl⟩
          · rename_i hnone
            obtain rfl : sendTime = none := by simpa using hnone
            exact absurd ⟨state, recvTime, hstate, not_not.mp hmaster, hsync⟩ hnot
        · rw [handleTimeMeasurement_idle p hfresh]
          exact ⟨_, rfl, rfl⟩
      · rw [handleTimeMeasurement_idle p hfresh]
        exact ⟨_, rfl, rfl⟩
  · exact ⟨port, rfl, rfl⟩

/-- **A follow-up again.** -/
theorem handleFollowUp_again {message : FollowUpMessage} (hincomplete : port₁.core.Incomplete)
    (h : port.handleFollowUp p header message = .ok (port₁, actions)) :
    ∃ port₂ actions', port₁.handleFollowUp p header message = .ok (port₂, actions') ∧
      port₂.handed = port₁.handed := by
  have hsettles := handleFollowUp_settles h
  have hcall := h
  unfold handleFollowUp at h
  split at h
  · split at h
    · exact again_of_same (·.handleFollowUp p header message) hcall
        (Prod.mk.inj (Except.ok.inj h)).1.symm
    · obtain ⟨sent, hadd, -⟩ := bind_eq_ok.mp h
      obtain ⟨port₂, hport₂, hhanded⟩ := handleFollowUp_settled hincomplete hsettles hadd
      exact ⟨port₂, .empty, hport₂, hhanded⟩
  · exact again_of_same (·.handleFollowUp p header message) hcall
      (Prod.mk.inj (Except.ok.inj h)).1.symm

/-! ### Delay responses -/

theorem storeDelayResp_settles {message : DelayRespMessage} {port' : Port Running A R C F}
    (hstored : port.storeDelayResp p header message = .ok (some port'))
    (h : port'.handleTimeMeasurement p = .ok (port₁, actions)) :
    ¬ port₁.core.AwaitsDelayResp header message.requestingPortIdentity := by
  rintro ⟨-, state₁, sendTime₁, hstate₁, -, hdelay₁⟩
  obtain ⟨state', hstate', -, -, hkept | hclosed⟩ := (handleTimeMeasurement_core h).slave hstate₁
  · unfold storeDelayResp at hstored
    split at hstored
    · split at hstored
      · cases hstored
      · split at hstored
        · split at hstored
          · split at hstored
            · cases hstored
            · obtain ⟨received, -, hstored⟩ := bind_eq_ok.mp hstored
              obtain rfl := Option.some.inj (Except.ok.inj hstored)
              obtain rfl := PortState.slave.inj hstate'
              cases hkept.symm.trans hdelay₁
          · cases hstored
        · cases hstored
    · cases hstored
  · cases hclosed.symm.trans hdelay₁

omit [Clock C] in
theorem storeDelayResp_settled {message : DelayRespMessage}
    (hnot : ¬ port.core.AwaitsDelayResp header message.requestingPortIdentity) :
    port.storeDelayResp p header message = .ok none := by
  unfold storeDelayResp
  split
  · rename_i state hstate
    split
    · rfl
    · rename_i hidentity
      rw [not_or, not_not, not_not] at hidentity
      split
      · rename_i id sendTime recvTime hdelay
        split
        · rename_i hid
          subst hid
          split
          · rfl
          · rename_i hnone
            obtain rfl : recvTime = none := by simpa using hnone
            exact absurd ⟨hidentity.1, state, sendTime, hstate, hidentity.2, hdelay⟩ hnot
        · rfl
      · rfl
  · rfl

/-- **A delay response again.** -/
theorem handleDelayResp_again {message : DelayRespMessage}
    (h : port.handleDelayResp p header message = .ok (port₁, actions)) :
    ∃ port₂ actions', port₁.handleDelayResp p header message = .ok (port₂, actions') ∧
      port₂.handed = port₁.handed := by
  obtain ⟨stored, hstored, hrest⟩ := bind_eq_ok.mp h
  cases stored with
  | none =>
    exact again_of_same (·.handleDelayResp p header message) h
      (Prod.mk.inj (Except.ok.inj hrest)).1.symm
  | some port' =>
    refine ⟨port₁, .empty, ?_, rfl⟩
    unfold handleDelayResp
    rw [storeDelayResp_settled (storeDelayResp_settles hstored hrest), ok_bind]
    rfl

/-! ### Peer delay responses -/

variable {requesting : PortIdentity} {lacks : PeerDelayState → Bool}
  {stored : Except Panic PeerDelayState}

theorem handleAnswer_settles (hstored : ∀ state, stored = .ok state → lacks state = false)
    (h : port.handleAnswer p header requesting lacks stored = .ok (port₁, actions)) :
    ¬ port₁.core.AwaitsAnswer header requesting lacks := by
  rintro ⟨hidentity₁, hlacks₁, responder₁, t1, t2, t3, t4, hpeer₁, hresponder₁⟩
  unfold handleAnswer at h
  split at h
  · rename_i hother
    obtain ⟨rfl, -⟩ := Prod.mk.inj (Except.ok.inj h)
    exact hother hidentity₁
  · split at h
    · rename_i hpost
      split at h
      · obtain ⟨rfl, -⟩ := Prod.mk.inj (Except.ok.inj h)
        rw [core_setForcedPortState] at hpeer₁
        cases hpost.symm.trans hpeer₁
      · obtain ⟨rfl, -⟩ := Prod.mk.inj (Except.ok.inj h)
        cases hpost.symm.trans hpeer₁
    · rename_i id responder s1 s2 s3 s4 hmeasuring
      split at h
      · rename_i hid
        subst hid
        split at h
        · rename_i hconflict
          obtain ⟨rfl, -⟩ := Prod.mk.inj (Except.ok.inj h)
          rw [core_setForcedPortState] at hpeer₁
          cases hmeasuring.symm.trans hpeer₁
          exact conflict_iff.mp hconflict hresponder₁
        · split at h
          · obtain ⟨state, hstate, h⟩ := bind_eq_ok.mp h
            rcases (handleTimeMeasurement_core h).peerDelayState with hkept | ⟨_, _, hclosed⟩
            · rw [hkept] at hlacks₁
              exact Bool.false_ne_true ((hstored state hstate).symm.trans hlacks₁)
            · cases hclosed.symm.trans hpeer₁
          · rename_i hnot
            obtain ⟨rfl, -⟩ := Prod.mk.inj (Except.ok.inj h)
            exact hnot hlacks₁
      · rename_i hid
        obtain ⟨rfl, -⟩ := Prod.mk.inj (Except.ok.inj h)
        cases hmeasuring.symm.trans hpeer₁
        exact hid rfl
    · rename_i hempty
      obtain ⟨rfl, -⟩ := Prod.mk.inj (Except.ok.inj h)
      cases hempty.symm.trans hpeer₁

theorem handleAnswer_settled (hnot : ¬ port.core.AwaitsAnswer header requesting lacks) :
    ∃ port', port.handleAnswer p header requesting lacks stored = .ok (port', .empty) ∧
      port'.handed = port.handed := by
  unfold handleAnswer
  split
  · exact ⟨port, rfl, rfl⟩
  · rename_i hidentity
    split
    · split
      · exact ⟨_, rfl, handed_setForcedPortState _ _⟩
      · exact ⟨port, rfl, rfl⟩
    · rename_i id responder t1 t2 t3 t4 hmeasuring
      split
      · rename_i hid
        subst hid
        split
        · exact ⟨_, rfl, handed_setForcedPortState _ _⟩
        · rename_i hconflict
          split
          · rename_i hlacks
            rw [conflict_iff, not_not] at hconflict
            exact absurd ⟨not_not.mp hidentity, hlacks, responder, t1, t2, t3, t4, hmeasuring,
              hconflict⟩ hnot
          · exact ⟨port, rfl, rfl⟩
      · exact ⟨port, rfl, rfl⟩
    · exact ⟨port, rfl, rfl⟩

/-- **A peer delay response again.**  A conflicting one disables the port once more. -/
theorem handlePeerDelayResponse_again {message : PDelayRespMessage} {recvTime : Time}
    (h : port.handlePeerDelayResponse p header message recvTime = .ok (port₁, actions)) :
    ∃ port₂ actions', port₁.handlePeerDelayResponse p header message recvTime =
      .ok (port₂, actions') ∧ port₂.handed = port₁.handed := by
  rw [handlePeerDelayResponse_eq] at h
  have hsettles := handleAnswer_settles (fun state hstate => ?_) h
  · obtain ⟨port₂, hport₂, hhanded⟩ := handleAnswer_settled hsettles
    rw [handlePeerDelayResponse_eq]
    exact ⟨port₂, .empty, hport₂, hhanded⟩
  · unfold storedResponse at hstate
    split at hstate
    · obtain ⟨arrived, -, hstate⟩ := bind_eq_ok.mp hstate
      rw [← Except.ok.inj hstate]
      rfl
    · rename_i hother
      rw [← Except.ok.inj hstate]
      cases hpeer : port.peerDelayState with
      | measuring => exact absurd hpeer (hother _ _ _ _ _ _)
      | _ => rfl

/-- **The follow-up of a peer delay response again.** -/
theorem handlePeerDelayResponseFollowUp_again {message : PDelayRespFollowUpMessage}
    (h : port.handlePeerDelayResponseFollowUp p header message = .ok (port₁, actions)) :
    ∃ port₂ actions', port₁.handlePeerDelayResponseFollowUp p header message =
      .ok (port₂, actions') ∧ port₂.handed = port₁.handed := by
  rw [handlePeerDelayResponseFollowUp_eq] at h
  have hsettles := handleAnswer_settles (fun state hstate => ?_) h
  · obtain ⟨port₂, hport₂, hhanded⟩ := handleAnswer_settled hsettles
    rw [handlePeerDelayResponseFollowUp_eq]
    exact ⟨port₂, .empty, hport₂, hhanded⟩
  · unfold storedFollowUp at hstate
    split at hstate
    · obtain ⟨sent, -, hstate⟩ := bind_eq_ok.mp hstate
      rw [← Except.ok.inj hstate]
      rfl
    · rename_i hother
      rw [← Except.ok.inj hstate]
      cases hpeer : port.peerDelayState with
      | measuring => exact absurd hpeer (hother _ _ _ _ _ _)
      | _ => rfl

/-! ### One-step sync messages -/

/-- A one-step sync message that begins an exchange is measured at once. -/
theorem handleSync_one_step {message : SyncMessage} {recvTime : Time} {state : SlaveState}
    (hincomplete : port.core.Incomplete) (hone : header.twoStepFlag = false)
    (hstate : port.portState = .slave state)
    (hmaster : state.remoteMaster = header.sourcePortIdentity)
    (hfresh : state.syncState.isMeasuring header.sequenceId = false)
    (h : port.handleSync p header message recvTime = .ok (port₁, actions)) :
    (∃ m, port₁.handed = port.handed ++ [m]) ∧ ∃ state₁, port₁.portState = .slave state₁ ∧
      state₁.remoteMaster = header.sourcePortIdentity ∧ state₁.syncState = .empty := by
  have hmeasured : ∃ corrected, (port.withSlaveState { state with
      syncState := .measuring header.sequenceId
        (some (Time.ofWireTimestamp message.originTimestamp)) (some corrected) }).handleTimeMeasurement p
      = .ok (port₁, actions) := by
    unfold handleSync at h
    split at h
    · rename_i state' hstate'
      obtain rfl := PortState.slave.inj (hstate.symm.trans hstate')
      rw [if_neg (not_not.mpr hmaster)] at h
      obtain ⟨corrected, -, h⟩ := bind_eq_ok.mp h
      refine ⟨corrected, ?_⟩
      rw [hone, if_neg Bool.false_ne_true] at h
      dsimp only at h
      split at h
      · rename_i id _ _ hsync
        rw [hsync] at hfresh
        rwa [if_neg (of_decide_eq_false hfresh)] at h
      · exact h
    · rename_i hno
      exact absurd hstate (hno state)
  obtain ⟨corrected, hmeasured⟩ := hmeasured
  have hmeasures := handleTimeMeasurement_core hmeasured
  generalize hcore₁ : port₁.core = c₁ at hmeasures
  cases hmeasures with
  | idle _ hslave => cases (hslave _ rfl).1
  | peer hpeer => cases hincomplete.peer.symm.trans hpeer
  | sync _ hslave =>
    obtain rfl := PortState.slave.inj hslave
    refine ⟨⟨_, congrArg PortCore.handed hcore₁⟩, _, congrArg PortCore.portState hcore₁, hmaster, rfl⟩
  | delay _ hslave hsync =>
    obtain rfl := PortState.slave.inj hslave
    cases hsync

/-- **A one-step sync message again** is measured again. -/
theorem handleSync_one_step_again {message : SyncMessage} {recvTime : Time} {state : SlaveState}
    {port₂ : Port Running A R C F} {actions₂ : PortActionIterator}
    (hincomplete : port.core.Incomplete) (hincomplete₁ : port₁.core.Incomplete)
    (hone : header.twoStepFlag = false) (hstate : port.portState = .slave state)
    (hmaster : state.remoteMaster = header.sourcePortIdentity)
    (hfresh : state.syncState.isMeasuring header.sequenceId = false)
    (h : port.handleSync p header message recvTime = .ok (port₁, actions))
    (h₂ : port₁.handleSync p header message recvTime = .ok (port₂, actions₂)) :
    port₂.handed ≠ port₁.handed := by
  obtain ⟨-, state₁, hstate₁, hmaster₁, hempty⟩ :=
    handleSync_one_step hincomplete hone hstate hmaster hfresh h
  obtain ⟨⟨m, hhanded⟩, -⟩ := handleSync_one_step hincomplete₁ hone hstate₁ hmaster₁
    (by rw [hempty]; rfl) h₂
  rw [hhanded]
  exact fun hsame => List.cons_ne_nil _ _ (List.append_right_eq_self.mp hsame)

omit [AcceptableMasterList A] in
/-- A one-step sync message that is ignored. -/
theorem handleSync_one_step_ignored {message : SyncMessage} {recvTime : Time}
    (hone : header.twoStepFlag = false)
    (hignored : ∀ state, port.portState = .slave state →
      state.remoteMaster = header.sourcePortIdentity →
        state.syncState.isMeasuring header.sequenceId = true)
    (h : port.handleSync p header message recvTime = .ok (port₁, actions)) : port₁ = port := by
  unfold handleSync at h
  split at h
  · rename_i state hstate
    split at h
    · exact (Prod.mk.inj (Except.ok.inj h)).1.symm
    · rename_i hmaster
      have hmeasuring := hignored state hstate (not_not.mp hmaster)
      obtain ⟨corrected, -, h⟩ := bind_eq_ok.mp h
      rw [hone, if_neg Bool.false_ne_true] at h
      dsimp only at h
      split at h
      · rename_i id _ _ hsync
        rw [hsync] at hmeasuring
        rw [if_pos (of_decide_eq_true hmeasuring)] at h
        exact (Prod.mk.inj (Except.ok.inj h)).1.symm
      · rename_i hsync
        rw [hsync] at hmeasuring
        cases hmeasuring
  · exact (Prod.mk.inj (Except.ok.inj h)).1.symm

end Port

/-! ### Deliveries -/

/-- The messages of the three exchanges. -/
def MessageBody.isOfExchange : MessageBody → Bool
  | .sync _ | .followUp _ | .delayResp _ | .pDelayResp _ | .pDelayRespFollowUp _ => true
  | _ => false

/-- A one-step sync message of the master, that is not ignored as a duplicate. -/
def PortCore.TakesOneStepSync (c : PortCore) (e : PortEvent T) (message : Message) : Prop :=
  ∃ state body timestamp, e.ReceivesAt message timestamp ∧ message.body = .sync body ∧
    message.header.twoStepFlag = false ∧ c.portState = .slave state ∧
    state.remoteMaster = message.header.sourcePortIdentity ∧
    state.syncState.isMeasuring message.header.sequenceId = false

namespace Slot

variable {p : Profile} {e : PortEvent T} {message : Message} {slot slot₁ : Slot A R C F}
  {actions : PortActionIterator}

/-- The message again hands the filter nothing more. -/
def HarmlessAgain (p : Profile) (e : PortEvent T) (slot₁ : Slot A R C F) : Prop :=
  ∃ slot₂ actions, slot₁.step p e = .ok (slot₂, actions) ∧ slot₂.core.handed = slot₁.core.handed

/-- From the handler to the step. -/
theorem harmlessAgain_of_handler {port₁ : Port Running A R C F}
    {result : Except Panic (Port Running A R C F × PortActionIterator)}
    (hstep : (Slot.running port₁).step p e = ofHandler result)
    (h : ∃ port₂ actions', result = .ok (port₂, actions') ∧ port₂.handed = port₁.handed) :
    HarmlessAgain p e (.running port₁) := by
  obtain ⟨port₂, actions', rfl, hhanded⟩ := h
  exact ⟨.running port₂, actions', hstep, hhanded⟩

/-- A sync message. -/
theorem harmless_again_sync_iff {port : Port Running A R C F} {body : SyncMessage}
    (hincomplete : port.core.Incomplete) (hincomplete₁ : slot₁.core.Incomplete)
    (he : e.Receives message) (hbody : message.body = .sync body)
    (h : (Slot.running port).step p e = .ok (slot₁, actions)) :
    HarmlessAgain p e slot₁ ↔ ¬ port.core.TakesOneStepSync e message := by
  rcases he with ⟨timestamp, he⟩ | ⟨s, data, rfl, hparse⟩
  · rw [step_sync port he hbody] at h
    obtain ⟨port₁, hport₁, rfl⟩ := ofHandler_eq_ok.mp h
    have hstep₁ := step_sync (p := p) port₁ he hbody
    cases htwo : message.header.twoStepFlag with
    | true =>
      refine iff_of_true (harmlessAgain_of_handler hstep₁ (Port.handleSync_again htwo hport₁)) ?_
      rintro ⟨_, _, _, _, _, hone, -⟩
      cases htwo.symm.trans hone
    | false =>
      constructor
      · rintro ⟨slot₂, actions₂, h₂, hhanded⟩ ⟨state, _, _, _, _, -, hstate, hmaster, hfresh⟩
        rw [hstep₁] at h₂
        obtain ⟨port₂, hport₂, rfl⟩ := ofHandler_eq_ok.mp h₂
        exact Port.handleSync_one_step_again hincomplete hincomplete₁ htwo hstate hmaster hfresh
          hport₁ hport₂ hhanded
      · intro hnot
        refine harmlessAgain_of_handler hstep₁
          (Port.again_of_same (·.handleSync p message.header body timestamp) hport₁ ?_)
        refine Port.handleSync_one_step_ignored htwo (fun state hstate hmaster => ?_) hport₁
        by_contra hfresh
        exact hnot ⟨state, body, timestamp, he, hbody, htwo, hstate, hmaster, by simpa using hfresh⟩
  · have hignored := step_general_ignored (T := T) (p := p) port hparse (Or.inl ⟨body, hbody⟩)
    obtain ⟨rfl, -⟩ := Prod.mk.inj (Except.ok.inj (hignored.symm.trans h))
    refine iff_of_true ⟨_, _, hignored, rfl⟩ ?_
    rintro ⟨_, _, _, ⟨s', data', hevent, -⟩, -⟩
    cases hevent

/-- **When a second delivery is harmless**: unless a one-step sync message was measured. -/
theorem harmless_again_iff (hr : Slot.Reachable T p slot) (he : e.Receives message)
    (hkind : message.body.isOfExchange = true) (h : slot.step p e = .ok (slot₁, actions)) :
    HarmlessAgain p e slot₁ ↔ ¬ slot.core.TakesOneStepSync e message := by
  have hincomplete := hr.incomplete
  have hincomplete₁ := Slot.Reachable.incomplete (T := T) (.step hr h)
  -- only a sync message can be one
  have hother : (∀ body, message.body ≠ .sync body) → ¬ slot.core.TakesOneStepSync e message := by
    rintro hno ⟨_, body, _, _, hbody, -⟩
    exact hno body hbody
  cases slot with
  | inBmca port =>
    rcases he with ⟨timestamp, s, data, rfl, -⟩ | ⟨s, data, rfl, -⟩ <;> cases h
  | running port =>
    cases hbody : message.body with
    | sync body => exact harmless_again_sync_iff hincomplete hincomplete₁ he hbody h
    | followUp body =>
      rw [step_followUp port he hbody] at h
      obtain ⟨port₁, hport₁, rfl⟩ := ofHandler_eq_ok.mp h
      exact iff_of_true (harmlessAgain_of_handler (step_followUp port₁ he hbody)
        (Port.handleFollowUp_again hincomplete₁ hport₁)) (hother (by simp [hbody]))
    | delayResp body =>
      rw [step_delayResp port he hbody] at h
      obtain ⟨port₁, hport₁, rfl⟩ := ofHandler_eq_ok.mp h
      exact iff_of_true (harmlessAgain_of_handler (step_delayResp port₁ he hbody)
        (Port.handleDelayResp_again hport₁)) (hother (by simp [hbody]))
    | pDelayResp body =>
      refine iff_of_true ?_ (hother (by simp [hbody]))
      rcases he with ⟨timestamp, he⟩ | ⟨s, data, rfl, hparse⟩
      · rw [step_pDelayResp port he hbody] at h
        obtain ⟨port₁, hport₁, rfl⟩ := ofHandler_eq_ok.mp h
        exact harmlessAgain_of_handler (step_pDelayResp port₁ he hbody)
          (Port.handlePeerDelayResponse_again hport₁)
      · have hignored := step_general_ignored (T := T) (p := p) port hparse (Or.inr ⟨body, hbody⟩)
        obtain ⟨rfl, -⟩ := Prod.mk.inj (Except.ok.inj (hignored.symm.trans h))
        exact ⟨_, _, hignored, rfl⟩
    | pDelayRespFollowUp body =>
      rw [step_pDelayRespFollowUp port he hbody] at h
      obtain ⟨port₁, hport₁, rfl⟩ := ofHandler_eq_ok.mp h
      exact iff_of_true (harmlessAgain_of_handler (step_pDelayRespFollowUp port₁ he hbody)
        (Port.handlePeerDelayResponseFollowUp_again hport₁)) (hother (by simp [hbody]))
    | _ =>
      rw [hbody] at hkind
      cases hkind

/-- Whether the step returns. -/
def takes (e : PortEvent NoForwardedTLVs) (slot : TestSlot) : Bool :=
  match slot.step .debug e with
  | .ok _ => true
  | .error _ => false

/-- A two-step sync message, twice. -/
theorem harmless_again_two_step_sync :
    ∃ (slot slot₁ : TestSlot) (e : PortEvent NoForwardedTLVs) (message : Message)
      (actions : PortActionIterator), Slot.Reachable NoForwardedTLVs .debug slot ∧
      e.Receives message ∧ message.body.isOfExchange = true ∧
      slot.step .debug e = .ok (slot₁, actions) ∧ HarmlessAgain .debug e slot₁ := by
  have hrun : TestSlot.endsWith testPortConfig (receiveSync.take 2)
      (takes (TestSlot.eventReceive 0 2 9 3 (List.replicate 10 0))) = true := by
    decide +kernel
  have hparse : Port.parseAndFilter (testSystem testInstanceConfig).state
      (TestSlot.messageBytes 0 2 9 3 (List.replicate 10 0)) =
        .ok (some (TestSlot.message true 9 3 (.sync ⟨default⟩))) := by
    decide +kernel
  have hreceives := TestSlot.receivesAt _ _ _ _ _ hparse
  obtain ⟨slot, hreach, hcheck⟩ := TestSlot.reachable_of_endsWith hrun
  unfold takes at hcheck
  split at hcheck
  · rename_i result hstep
    obtain ⟨slot₁, actions⟩ := result
    refine ⟨slot, slot₁, _, _, actions, hreach, Or.inl ⟨_, hreceives⟩, rfl, hstep, ?_⟩
    refine (harmless_again_iff hreach (Or.inl ⟨_, hreceives⟩) rfl hstep).mpr ?_
    rintro ⟨_, _, _, _, _, hone, -⟩
    cases hone
  · cases hcheck

/-- Whether the event is measured twice. -/
def measuresTwice (e : PortEvent NoForwardedTLVs) (slot : TestSlot) : Bool :=
  match slot.step .debug e with
  | .ok (slot₁, _) =>
    decide (slot₁.core.handed = [syncMeasurement]) &&
      match slot₁.step .debug e with
      | .ok (slot₂, _) => decide (slot₂.core.handed = [syncMeasurement, syncMeasurement])
      | .error _ => false
  | .error _ => false

/-- A one-step sync message, twice: its offset is measured twice. -/
theorem measured_twice_one_step_sync :
    ∃ (slot slot₁ slot₂ : TestSlot) (e : PortEvent NoForwardedTLVs) (message : Message)
      (actions₁ actions₂ : PortActionIterator), Slot.Reachable NoForwardedTLVs .debug slot ∧
      e.Receives message ∧ message.body.isOfExchange = true ∧
      slot.step .debug e = .ok (slot₁, actions₁) ∧ slot₁.step .debug e = .ok (slot₂, actions₂) ∧
      slot₁.core.handed = [syncMeasurement] ∧
      slot₂.core.handed = [syncMeasurement, syncMeasurement] ∧ ¬ HarmlessAgain .debug e slot₁ := by
  have hrun : TestSlot.endsWith testPortConfig (receiveSync.take 2)
      (measuresTwice (TestSlot.eventReceive 0 0 9 3 (List.replicate 10 0))) = true := by
    decide +kernel
  have hparse : Port.parseAndFilter (testSystem testInstanceConfig).state
      (TestSlot.messageBytes 0 0 9 3 (List.replicate 10 0)) =
        .ok (some (TestSlot.message false 9 3 (.sync ⟨default⟩))) := by
    decide +kernel
  obtain ⟨slot, hreach, hcheck⟩ := TestSlot.reachable_of_endsWith hrun
  unfold measuresTwice at hcheck
  split at hcheck
  · rename_i slot₁ actions₁ hstep₁
    rw [Bool.and_eq_true, decide_eq_true_eq] at hcheck
    obtain ⟨hhanded₁, hcheck⟩ := hcheck
    split at hcheck
    · rename_i slot₂ actions₂ hstep₂
      have hhanded₂ := of_decide_eq_true hcheck
      refine ⟨slot, slot₁, slot₂, _, _, actions₁, actions₂, hreach,
        Or.inl ⟨_, TestSlot.receivesAt _ _ _ _ _ hparse⟩, rfl, hstep₁, hstep₂, hhanded₁, hhanded₂, ?_⟩
      rintro ⟨slot', actions', hstep', hsame⟩
      obtain ⟨rfl, -⟩ := Prod.mk.inj (Except.ok.inj (hstep₂.symm.trans hstep'))
      rw [hhanded₁, hhanded₂] at hsame
      cases hsame
    · cases hcheck
  · cases hcheck

end Slot

end Statime
