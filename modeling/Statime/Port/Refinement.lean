import Statime.Port.Answers
import Statime.Port.Core

/-!
# The handlers refine the abstract port

For every method of a port: when it returns, the core of the port made a `PortCore.Step`.

* `handleSync_core` and the others for received messages and timestamps.
* `setRecommendedState_core`, `stepAnnounceAge_core` for the best master clock algorithm.
-/

namespace Statime

open Rust

namespace Port

variable {A R C F T : Type} [AcceptableMasterList A] [Clock C] [Filter F]

/-! ### Timestamps and messages of the exchanges -/

section Exchanges

variable {p : Profile} {e : PortEvent T} {port port' : Port Running A R C F}
  {actions : PortActionIterator} {message : Message} {timestamp : Time}

omit [Clock C] in
/-- Nothing happens. -/
theorem step_of_same (h : (Except.ok (port, PortActionIterator.empty) : Except Panic _) =
    .ok (port', actions)) : PortCore.Step p e port.core port'.core := by
  obtain ⟨rfl, -⟩ := Prod.mk.inj (Except.ok.inj h)
  exact .keep

theorem handleDelayTimestamp_core {id : UInt16} (he : e.DelayReqSent id timestamp)
    (h : port.handleDelayTimestamp p id timestamp = .ok (port', actions)) :
    PortCore.Step p e port.core port'.core := by
  unfold handleDelayTimestamp at h
  split at h
  · rename_i state hstate
    split at h
    · rename_i id' sendTime recvTime hdelay
      split at h
      · rename_i hid
        subst hid
        split at h
        · exact step_of_same h
        · refine .measure (.delay hstate hdelay ?_ ?_) (handleTimeMeasurement_core h)
          · intro t ht
            exact Or.inl (Option.some.inj ht ▸ he)
          · exact fun t ht => Or.inr ht
      · exact step_of_same h
    · exact step_of_same h
  · exact step_of_same h

theorem handlePdelayTimestamp_core {id : UInt16} (he : e.PDelayReqSent id timestamp)
    (h : port.handlePdelayTimestamp p id timestamp = .ok (port', actions)) :
    PortCore.Step p e port.core port'.core := by
  unfold handlePdelayTimestamp at h
  split at h
  · rename_i id' responder t1 t2 t3 t4 hpeer
    split at h
    · rename_i hid
      subst hid
      split at h
      · exact step_of_same h
      · rename_i hnone
        obtain rfl : t1 = none := by simpa using hnone
        exact .measure (.peerRequest hpeer he) (handleTimeMeasurement_core h)
    · exact step_of_same h
  · exact step_of_same h

theorem handleSync_core {body : SyncMessage} (he : e.ReceivesAt message timestamp)
    (hbody : message.body = .sync body)
    (h : port.handleSync p message.header body timestamp = .ok (port', actions)) :
    PortCore.Step p e port.core port'.core := by
  unfold handleSync at h
  split at h
  · rename_i state hstate
    split at h
    · exact step_of_same h
    · rename_i hmaster
      have hmaster' : message.header.sourcePortIdentity = state.remoteMaster := by
        simpa using (not_not.mp hmaster).symm
      obtain ⟨corrected, hcorrected, h⟩ := bind_eq_ok.mp h
      have hreceived : e.SyncReceived p state.remoteMaster message.header.sequenceId corrected :=
        ⟨message, body, timestamp, he, hbody, hmaster', rfl, hcorrected⟩
      have hnew : ∀ t, some corrected = some t →
          e.SyncReceived p state.remoteMaster message.header.sequenceId t ∨
            ∃ s, state.syncState = .measuring message.header.sequenceId s (some t) :=
        fun t ht => Or.inl (Option.some.inj ht ▸ hreceived)
      split at h
      · split at h
        · rename_i id sendTime recvTime hsync
          split at h
          · rename_i hid
            subst hid
            split at h
            · exact step_of_same h
            · refine .measure (.sync hstate (fun t ht => Or.inr ⟨recvTime, ?_⟩) hnew)
                (handleTimeMeasurement_core h)
              rw [hsync, ht]
          · obtain ⟨rfl, -⟩ := Prod.mk.inj (Except.ok.inj h)
            exact .firstSync hstate hreceived
        · obtain ⟨rfl, -⟩ := Prod.mk.inj (Except.ok.inj h)
          exact .firstSync hstate hreceived
      · rename_i hone
        have hsent : ∀ t, some (Time.ofWireTimestamp body.originTimestamp) = some t →
            e.SyncSent p state.remoteMaster message.header.sequenceId t ∨
              ∃ r, state.syncState = .measuring message.header.sequenceId (some t) r :=
          fun t ht => Or.inl (Or.inr ⟨message, body, timestamp, he, hbody, hmaster', rfl,
            by simpa using hone, (Option.some.inj ht).symm⟩)
        split at h
        · split at h
          · exact step_of_same h
          · exact .measure (.sync hstate hsent hnew) (handleTimeMeasurement_core h)
        · exact .measure (.sync hstate hsent hnew) (handleTimeMeasurement_core h)
  · exact step_of_same h

theorem handleFollowUp_core {body : FollowUpMessage} (he : e.Receives message)
    (hbody : message.body = .followUp body)
    (h : port.handleFollowUp p message.header body = .ok (port', actions)) :
    PortCore.Step p e port.core port'.core := by
  unfold handleFollowUp at h
  split at h
  · rename_i state hstate
    split at h
    · exact step_of_same h
    · rename_i hmaster
      obtain ⟨sent, hsent, h⟩ := bind_eq_ok.mp h
      have hnew : ∀ t, some sent = some t →
          e.SyncSent p state.remoteMaster message.header.sequenceId t ∨
            ∃ r, state.syncState = .measuring message.header.sequenceId (some t) r :=
        fun t ht => Or.inl (Or.inl ⟨message, body, he, hbody, (not_not.mp hmaster).symm, rfl,
          Option.some.inj ht ▸ hsent⟩)
      split at h
      · rename_i id sendTime recvTime hsync
        split at h
        · rename_i hid
          subst hid
          split at h
          · exact step_of_same h
          · refine .measure (.sync hstate hnew (fun t ht => Or.inr ⟨sendTime, ?_⟩))
              (handleTimeMeasurement_core h)
            rw [hsync, ht]
        · exact .measure (.sync hstate hnew (fun t ht => by cases ht)) (handleTimeMeasurement_core h)
      · exact .measure (.sync hstate hnew (fun t ht => by cases ht)) (handleTimeMeasurement_core h)
  · exact step_of_same h

omit [Clock C] in
/-- What is stored of a delay response. -/
theorem storeDelayResp_core {body : DelayRespMessage} (he : e.Receives message)
    (hbody : message.body = .delayResp body)
    (h : port.storeDelayResp p message.header body = .ok (some port')) :
    PortCore.Stores p e port.core port'.core := by
  unfold storeDelayResp at h
  split at h
  · rename_i state hstate
    split at h
    · cases h
    · rename_i hidentity
      rw [not_or, not_not, not_not] at hidentity
      split at h
      · rename_i id sendTime recvTime hdelay
        split at h
        · rename_i hid
          subst hid
          split at h
          · cases h
          · obtain ⟨t, ht, h⟩ := bind_eq_ok.mp h
            obtain rfl := Option.some.inj (Except.ok.inj h)
            refine .delay hstate hdelay (fun t ht => Or.inr ht) ?_
            intro t' ht'
            exact Or.inl ⟨message, body, he, hbody, hidentity.2.symm, hidentity.1.symm, rfl,
              Option.some.inj ht' ▸ ht⟩
        · cases h
      · cases h
  · cases h

theorem handleDelayResp_core {body : DelayRespMessage} (he : e.Receives message)
    (hbody : message.body = .delayResp body)
    (h : port.handleDelayResp p message.header body = .ok (port', actions)) :
    PortCore.Step p e port.core port'.core := by
  obtain ⟨stored, hstored, h⟩ := bind_eq_ok.mp h
  cases stored with
  | none => exact step_of_same h
  | some port₁ =>
    exact .measure (storeDelayResp_core he hbody hstored) (handleTimeMeasurement_core h)

/-- Two responders disable the port. -/
theorem step_fault (he : e.Receives message)
    (h : (Except.ok (port.setForcedPortState .faulty, PortActionIterator.empty) : Except Panic _) =
      .ok (port', actions)) : PortCore.Step p e port.core port'.core := by
  obtain ⟨rfl, -⟩ := Prod.mk.inj (Except.ok.inj h)
  rw [core_setForcedPortState]
  exact .fault he

/-- An answer is dropped, disables the port, or is stored. -/
theorem handleAnswer_core {requesting : PortIdentity} {lacks : PeerDelayState → Bool}
    {stored : Except Panic PeerDelayState} (he : e.Receives message)
    (hstored : ∀ responder t1 t2 t3 t4 state, port.portIdentity = requesting →
      port.peerDelayState = .measuring message.header.sequenceId responder t1 t2 t3 t4 →
      (∀ identity, responder = some identity → identity = message.header.sourcePortIdentity) →
      stored = .ok state → PortCore.Stores p e port.core { port.core with peerDelayState := state })
    (h : port.handleAnswer p message.header requesting lacks stored = .ok (port', actions)) :
    PortCore.Step p e port.core port'.core := by
  unfold handleAnswer at h
  split at h
  · exact step_of_same h
  · rename_i hown
    split at h
    · split at h
      · exact step_fault he h
      · exact step_of_same h
    · rename_i id responder t1 t2 t3 t4 hpeer
      split at h
      · rename_i hid
        subst hid
        split at h
        · exact step_fault he h
        · rename_i hconflict
          rw [conflict_iff, not_not] at hconflict
          split at h
          · obtain ⟨state, hstate, h⟩ := bind_eq_ok.mp h
            exact .measure (hstored responder t1 t2 t3 t4 state (not_not.mp hown) hpeer hconflict hstate)
              (handleTimeMeasurement_core h)
          · exact step_of_same h
      · exact step_of_same h
    · exact step_of_same h

theorem handlePeerDelayResponse_core {body : PDelayRespMessage}
    (he : e.ReceivesAt message timestamp) (hbody : message.body = .pDelayResp body)
    (h : port.handlePeerDelayResponse p message.header body timestamp = .ok (port', actions)) :
    PortCore.Step p e port.core port'.core := by
  rw [handlePeerDelayResponse_eq] at h
  refine handleAnswer_core (Or.inl ⟨timestamp, he⟩) ?_ h
  intro responder t1 t2 t3 t4 state hown hpeer hresponder hstate
  rw [hpeer, storedResponse] at hstate
  obtain ⟨arrived, harrived, hstate⟩ := bind_eq_ok.mp hstate
  obtain rfl := Except.ok.inj hstate
  have hresponse : e.PDelayRespReceived port.portIdentity message.header.sourcePortIdentity
      message.header.sequenceId message body timestamp := ⟨he, hbody, rfl, hown.symm, rfl⟩
  refine .peerResponse hpeer hresponder ?_ ?_ ?_
  · intro t ht
    exact Or.inl ⟨message, body, timestamp, hresponse, (Option.some.inj ht).symm⟩
  · intro t ht
    split at ht
    · exact Or.inr ht
    · rename_i hone
      exact Or.inl (Or.inr ⟨message, body, timestamp, hresponse, by simpa using hone,
        (Option.some.inj ht).symm⟩)
  · intro t ht
    exact Or.inl ⟨message, body, timestamp, hresponse, Option.some.inj ht ▸ harrived⟩

theorem handlePeerDelayResponseFollowUp_core {body : PDelayRespFollowUpMessage}
    (he : e.Receives message) (hbody : message.body = .pDelayRespFollowUp body)
    (h : port.handlePeerDelayResponseFollowUp p message.header body = .ok (port', actions)) :
    PortCore.Step p e port.core port'.core := by
  rw [handlePeerDelayResponseFollowUp_eq] at h
  refine handleAnswer_core he ?_ h
  intro responder t1 t2 t3 t4 state hown hpeer hresponder hstate
  rw [hpeer, storedFollowUp] at hstate
  obtain ⟨sent, hsent, hstate⟩ := bind_eq_ok.mp hstate
  obtain rfl := Except.ok.inj hstate
  refine .peerResponse hpeer hresponder (fun t ht => Or.inr ht) ?_ fun t ht => Or.inr ht
  intro t ht
  exact Or.inl (Or.inl ⟨message, body, he, hbody, rfl, hown.symm, rfl, Option.some.inj ht ▸ hsent⟩)

end Exchanges

/-! ### Delay requests -/

section Requests

variable [Rng R] {p : Profile} {s : PtpInstanceState} {port port' : Port Running A R C F}
  {actions : PortActionIterator}

omit [Clock C] in
theorem sendDelayRequest_core (h : port.sendDelayRequest p s = .ok (port', actions)) :
    PortCore.Step p (.delayRequestTimer s : PortEvent T) port.core port'.core := by
  unfold sendDelayRequest at h
  split at h
  · unfold sendE2eDelayRequest at h
    split at h
    · rename_i state hstate
      obtain ⟨⟨buffer, data⟩, -, h⟩ := bind_eq_ok.mp h
      obtain ⟨⟨duration, rng⟩, -, h⟩ := bind_eq_ok.mp h
      obtain ⟨rfl, -⟩ := Prod.mk.inj (Except.ok.inj h)
      exact .requestDelay rfl hstate
    · exact step_of_same h
  · obtain ⟨⟨buffer, data⟩, -, h⟩ := bind_eq_ok.mp h
    obtain ⟨⟨duration, rng⟩, -, h⟩ := bind_eq_ok.mp h
    obtain ⟨rfl, -⟩ := Prod.mk.inj (Except.ok.inj h)
    exact .requestPeerDelay rfl

end Requests

/-! ### The master side leaves the core alone -/

section Master

variable {p : Profile} {s : PtpInstanceState} {port port' : Port Running A R C F}
  {actions : PortActionIterator}

omit [Clock C] in
theorem sendSync_core (h : port.sendSync p s = .ok (port', actions)) : port'.core = port.core := by
  unfold sendSync at h
  split at h
  · obtain ⟨⟨buffer, data⟩, -, h⟩ := bind_eq_ok.mp h
    obtain ⟨duration, -, h⟩ := bind_eq_ok.mp h
    obtain ⟨rfl, -⟩ := Prod.mk.inj (Except.ok.inj h)
    rfl
  · obtain ⟨rfl, -⟩ := Prod.mk.inj (Except.ok.inj h)
    rfl

omit [Clock C] in
theorem handleSyncTimestamp_core {id : UInt16} {timestamp : Time}
    (h : port.handleSyncTimestamp p s id timestamp = .ok (port', actions)) :
    port'.core = port.core := by
  unfold handleSyncTimestamp at h
  split at h
  · obtain ⟨message, -, h⟩ := bind_eq_ok.mp h
    obtain ⟨⟨buffer, data⟩, -, h⟩ := bind_eq_ok.mp h
    obtain ⟨rfl, -⟩ := Prod.mk.inj (Except.ok.inj h)
    rfl
  · obtain ⟨rfl, -⟩ := Prod.mk.inj (Except.ok.inj h)
    rfl

omit [Clock C] in
theorem sendAnnounce_core [ForwardedTLVProvider T] {provider provider' : T}
    (h : port.sendAnnounce p s provider = .ok (port', provider', actions)) :
    port'.core = port.core := by
  unfold sendAnnounce at h
  split at h
  · obtain ⟨⟨message, provider₁⟩, -, h⟩ := bind_eq_ok.mp h
    obtain ⟨⟨buffer, data⟩, -, h⟩ := bind_eq_ok.mp h
    obtain ⟨duration, -, h⟩ := bind_eq_ok.mp h
    obtain ⟨rfl, -⟩ := Prod.mk.inj (Except.ok.inj h)
    rfl
  · obtain ⟨rfl, -⟩ := Prod.mk.inj (Except.ok.inj h)
    rfl

omit [Clock C] in
theorem handleDelayReq_core {header : Header} {timestamp : Time}
    (h : port.handleDelayReq p header timestamp = .ok (port', actions)) :
    port'.core = port.core := by
  unfold handleDelayReq at h
  split at h
  · obtain ⟨message, -, h⟩ := bind_eq_ok.mp h
    obtain ⟨⟨buffer, data⟩, -, h⟩ := bind_eq_ok.mp h
    obtain ⟨rfl, -⟩ := Prod.mk.inj (Except.ok.inj h)
    rfl
  · obtain ⟨rfl, -⟩ := Prod.mk.inj (Except.ok.inj h)
    rfl

omit [Clock C] in
theorem handlePdelayReq_core {header : Header} {timestamp : Time}
    (h : port.handlePdelayReq p s header timestamp = .ok (port', actions)) :
    port'.core = port.core := by
  obtain ⟨message, -, h⟩ := bind_eq_ok.mp h
  obtain ⟨⟨buffer, data⟩, -, h⟩ := bind_eq_ok.mp h
  obtain ⟨rfl, -⟩ := Prod.mk.inj (Except.ok.inj h)
  rfl

omit [Clock C] in
theorem handlePdelayResponseTimestamp_core {id : UInt16} {requestor : PortIdentity}
    {timestamp : Time}
    (h : port.handlePdelayResponseTimestamp p s id requestor timestamp = .ok (port', actions)) :
    port'.core = port.core := by
  obtain ⟨message, -, h⟩ := bind_eq_ok.mp h
  obtain ⟨⟨buffer, data⟩, -, h⟩ := bind_eq_ok.mp h
  obtain ⟨rfl, -⟩ := Prod.mk.inj (Except.ok.inj h)
  rfl

end Master

/-! ### Announce messages and the announce receipt timer -/

section Announces

variable [Rng R] {p : Profile} {e : PortEvent T} {s s' : PtpInstanceState}
  {port port' : Port Running A R C F} {actions : PortActionIterator} {message : Message}
  {announce : AnnounceMessage}

omit [Rng R] in
theorem checkMultiport_core (haccepts : port.core.accepts announce = true) :
    (port.checkMultiport message).core =
      if port.core.isFromLowerPort message announce then port.core.disabled else port.core := by
  rw [PortCore.isFromLowerPort, haccepts, Bool.true_and,
    show port.core.portIdentity = port.portIdentity from rfl]
  unfold checkMultiport
  split
  · rename_i hlower
    rw [core_setForcedPortState, if_pos (decide_eq_true hlower)]
    rfl
  · rename_i hlower
    rw [if_neg (by simpa using hlower)]

/-- **A registered announce message** makes the port passive, or does nothing to it. -/
theorem registerAnnounce_core
    (h : port.registerAnnounce p message announce = .ok (port', actions)) :
    port'.core =
      if port.core.isFromLowerPort message announce then port.core.disabled else port.core := by
  obtain ⟨⟨bmca, stored⟩, hbmca, h⟩ := bind_eq_ok.mp h
  obtain ⟨hlist, hown, hstored⟩ := Bmca.registerAnnounceMessage_owned hbmca
  have hcore : { port with bmca }.core = port.core := by
    simp only [core, hlist, hown]
  dsimp only at h
  split at h
  · rename_i hyes
    obtain ⟨⟨duration, rng⟩, -, h⟩ := bind_eq_ok.mp h
    obtain ⟨rfl, -⟩ := Prod.mk.inj (Except.ok.inj h)
    have haccepts : port.core.accepts announce = true := hstored.symm.trans hyes
    rw [← hcore] at haccepts ⊢
    exact checkMultiport_core haccepts
  · rename_i hno
    obtain ⟨rfl, -⟩ := Prod.mk.inj (Except.ok.inj h)
    have hrefused : port.core.accepts announce = false :=
      hstored.symm.trans (Bool.not_eq_true _ ▸ hno)
    rw [PortCore.isFromLowerPort, hrefused, Bool.false_and, if_neg (by decide)]
    exact hcore

theorem handleAnnounce_core (he : e.Receives message) (hbody : message.body = .announce announce)
    (h : port.handleAnnounce p s message announce = .ok (port', s', actions)) :
    PortCore.Step p e port.core port'.core := by
  obtain ⟨⟨s₁, loop⟩, -, h⟩ := bind_eq_ok.mp h
  dsimp only at h
  split at h
  · obtain ⟨rfl, -⟩ := Prod.mk.inj (Except.ok.inj h)
    exact .keep
  · obtain ⟨⟨port₁, actions₁⟩, hregister, h⟩ := bind_eq_ok.mp h
    obtain ⟨rfl, -⟩ := Prod.mk.inj (Except.ok.inj h)
    rw [registerAnnounce_core hregister]
    split
    · rename_i hlower
      exact .disable he hbody hlower
    · exact .keep

/-- **The announce receipt timer** forgets the old state, whatever it was. -/
theorem handleAnnounceReceiptTimer_core
    (h : port.handleAnnounceReceiptTimer s = .ok (port', actions)) :
    port'.core = { port.core with
      portState := if s.defaultDs.slaveOnly then .listening else .master } := by
  unfold handleAnnounceReceiptTimer at h
  split at h
  · rename_i hslaveOnly
    rw [if_pos hslaveOnly]
    obtain ⟨⟨duration, rng⟩, -, h⟩ := bind_eq_ok.mp h
    obtain ⟨rfl, -⟩ := Prod.mk.inj (Except.ok.inj h)
    change Port.core (ite _ _ _) = _
    split
    · rename_i hlistening
      exact core_of_portState hlistening
    · rw [core_setForcedPortState]
  · rename_i hslaveOnly
    rw [if_neg hslaveOnly]
    obtain ⟨rfl, -⟩ := Prod.mk.inj (Except.ok.inj h)
    split
    · rename_i hmaster
      exact core_of_portState hmaster
    · rw [core_setForcedPortState]

end Announces

/-! ### Received packets -/

section Receives

variable [Rng R] {p : Profile} {s s' : PtpInstanceState} {port port' : Port Running A R C F}
  {actions : PortActionIterator} {data : List UInt8} {timestamp : Time}

theorem handleGeneralInternal_core {e : PortEvent T} {message : Message} (he : e.Receives message)
    (h : port.handleGeneralInternal p s message = .ok (port', s', actions)) :
    PortCore.Step p e port.core port'.core := by
  unfold handleGeneralInternal at h
  split at h
  · rename_i announce hbody
    exact handleAnnounce_core he hbody h
  · rename_i followUp hbody
    obtain ⟨⟨port₁, actions₁⟩, hhandle, h⟩ := bind_eq_ok.mp h
    obtain ⟨rfl, -⟩ := Prod.mk.inj (Except.ok.inj h)
    exact handleFollowUp_core he hbody hhandle
  · rename_i delayResp hbody
    obtain ⟨⟨port₁, actions₁⟩, hhandle, h⟩ := bind_eq_ok.mp h
    obtain ⟨rfl, -⟩ := Prod.mk.inj (Except.ok.inj h)
    exact handleDelayResp_core he hbody hhandle
  · rename_i followUp hbody
    obtain ⟨⟨port₁, actions₁⟩, hhandle, h⟩ := bind_eq_ok.mp h
    obtain ⟨rfl, -⟩ := Prod.mk.inj (Except.ok.inj h)
    exact handlePeerDelayResponseFollowUp_core he hbody hhandle
  all_goals
    obtain ⟨rfl, -⟩ := Prod.mk.inj (Except.ok.inj h)
    exact .keep

theorem handleEventMessage_core {e : PortEvent T} {message : Message}
    (he : e.ReceivesAt message timestamp)
    (h : port.handleEventMessage p s message timestamp = .ok (port', s', actions)) :
    PortCore.Step p e port.core port'.core := by
  unfold handleEventMessage at h
  split at h
  · rename_i sync hbody
    obtain ⟨⟨port₁, actions₁⟩, hhandle, h⟩ := bind_eq_ok.mp h
    obtain ⟨rfl, -⟩ := Prod.mk.inj (Except.ok.inj h)
    exact handleSync_core he hbody hhandle
  · obtain ⟨⟨port₁, actions₁⟩, hhandle, h⟩ := bind_eq_ok.mp h
    obtain ⟨rfl, -⟩ := Prod.mk.inj (Except.ok.inj h)
    rw [handleDelayReq_core hhandle]
    exact .keep
  · obtain ⟨⟨port₁, actions₁⟩, hhandle, h⟩ := bind_eq_ok.mp h
    obtain ⟨rfl, -⟩ := Prod.mk.inj (Except.ok.inj h)
    rw [handlePdelayReq_core hhandle]
    exact .keep
  · rename_i response hbody
    obtain ⟨⟨port₁, actions₁⟩, hhandle, h⟩ := bind_eq_ok.mp h
    obtain ⟨rfl, -⟩ := Prod.mk.inj (Except.ok.inj h)
    exact handlePeerDelayResponse_core he hbody hhandle
  · exact handleGeneralInternal_core (Or.inl ⟨timestamp, he⟩) h

theorem handleEventReceive_core
    (h : port.handleEventReceive p s data timestamp = .ok (port', s', actions)) :
    PortCore.Step p (.eventReceive s data timestamp : PortEvent T) port.core port'.core := by
  rcases handleEventReceive_cases h with ⟨-, rfl, -, -⟩ | ⟨message, hparse, h⟩
  · exact .keep
  · exact handleEventMessage_core ⟨s, data, rfl, hparse⟩ h

theorem handleGeneralReceive_core
    (h : port.handleGeneralReceive p s data = .ok (port', s', actions)) :
    PortCore.Step p (.generalReceive s data : PortEvent T) port.core port'.core := by
  rcases handleGeneralReceive_cases h with ⟨-, rfl, -, -⟩ | ⟨message, hparse, h⟩
  · exact .keep
  · exact handleGeneralInternal_core (Or.inr ⟨s, data, rfl, hparse⟩) h

omit [Rng R] in
theorem handleSendTimestamp_core {context : TimestampContext}
    (h : port.handleSendTimestamp p s context timestamp = .ok (port', actions)) :
    PortCore.Step p (.sendTimestamp s context timestamp : PortEvent T) port.core port'.core := by
  unfold handleSendTimestamp at h
  split at h
  · rw [handleSyncTimestamp_core h]
    exact .keep
  · exact handleDelayTimestamp_core ⟨s, rfl⟩ h
  · exact handlePdelayTimestamp_core ⟨s, rfl⟩ h
  · rw [handlePdelayResponseTimestamp_core h]
    exact .keep

end Receives

/-! ### The best master clock algorithm -/

section Bmca

variable [Rng R] {p : Profile} {s s' : PtpInstanceState} {port port' : Port InBmca A R C F}

omit [Clock C] [Rng R] in
theorem calculateBest_core (h : port.calculateBestLocalAnnounceMessage p = .ok port') :
    port'.core = port.core ∧
      ∀ m, port'.lifecycle.localBest = some m → m.identity = port.bmca.ownPortIdentity := by
  obtain ⟨⟨best, bmca⟩, hbest, h⟩ := bind_eq_ok.mp h
  obtain ⟨hlist, hown, hidentity⟩ := Bmca.takeBestPortAnnounceMessage_owned hbest
  obtain rfl := Except.ok.inj h
  refine ⟨?_, hidentity⟩
  simp only [core, hlist, hown]

omit [Clock C] [Rng R] in
theorem stepAnnounceAge_core {step : Duration} (h : port.stepAnnounceAge p step = .ok port') :
    ∃ multiportDisable, port'.core = { port.core with multiportDisable } := by
  obtain ⟨multiportDisable, -, h⟩ := bind_eq_ok.mp h
  obtain ⟨bmca, hbmca, h⟩ := bind_eq_ok.mp h
  obtain ⟨l, -, hbmca⟩ := bind_eq_ok.mp hbmca
  obtain rfl := Except.ok.inj hbmca
  obtain rfl := Except.ok.inj h
  exact ⟨multiportDisable, rfl⟩

theorem recommendSlave_core {message : AnnounceMessage}
    (h : port.recommendSlave p message = .ok port') :
    port'.core = { port.core with
      portState := port.core.recommendedState s (.s1 message) } := by
  obtain ⟨_, -, h⟩ := bind_eq_ok.mp h
  dsimp only at h
  have hstate : port.core.portState = port.portState := rfl
  split at h
  · rename_i henters
    obtain ⟨⟨duration, rng⟩, -, h⟩ := bind_eq_ok.mp h
    obtain rfl := Except.ok.inj h
    refine (core_setForcedPortState port _).trans ?_
    rw [PortCore.recommendedState, hstate]
    cases hold : port.portState with
    | faulty => rw [hold] at henters; cases henters
    | listening => rfl
    | master => rfl
    | passive => rfl
    | slave state =>
      rw [hold] at henters
      exact congrArg (fun st => { port.core with portState := st })
        (if_neg (of_decide_eq_true henters)).symm
  · rename_i henters
    obtain rfl := Except.ok.inj h
    rw [PortCore.recommendedState, hstate]
    cases hold : port.portState with
    | faulty => exact core_of_portState hold
    | listening => rw [hold] at henters; exact absurd rfl henters
    | master => rw [hold] at henters; exact absurd rfl henters
    | passive => rw [hold] at henters; exact absurd rfl henters
    | slave state =>
      rw [hold] at henters
      have hsame : state.remoteMaster = message.header.sourcePortIdentity := by
        by_contra hne
        exact henters (decide_eq_true hne)
      dsimp only
      rw [if_pos hsame]
      exact core_of_portState hold

theorem recommendMaster_core {state : RecommendedState}
    (hstate : ∀ c : PortCore, c.recommendedState s state =
      c.recommendedState s (.m1 s.defaultDs))
    (h : port.recommendMaster s.defaultDs.slaveOnly = .ok port') :
    port'.core = { port.core with portState := port.core.recommendedState s state } := by
  rw [hstate, PortCore.recommendedState, show port.core.portState = port.portState from rfl,
    show port.core.multiportDisable = port.multiportDisable from rfl]
  unfold recommendMaster at h
  split at h
  · rename_i hslaveOnly
    rw [if_pos hslaveOnly]
    cases hold : port.portState with
    | faulty | listening =>
      rw [hold] at h
      obtain rfl := Except.ok.inj h
      exact core_of_portState hold
    | slave _ | passive | master =>
      rw [hold] at h
      obtain ⟨⟨duration, rng⟩, -, h⟩ := bind_eq_ok.mp h
      obtain rfl := Except.ok.inj h
      exact core_setForcedPortState port _
  · rename_i hslaveOnly
    rw [if_neg hslaveOnly]
    split at h
    · rename_i hdisabled
      rw [if_pos hdisabled]
      split at h
      · rename_i hpassive
        obtain rfl := Except.ok.inj h
        exact core_of_portState hpassive
      · obtain rfl := Except.ok.inj h
        exact core_setForcedPortState port _
    · rename_i hdisabled
      rw [if_neg hdisabled]
      cases hold : port.portState with
      | faulty | master =>
        rw [hold] at h
        obtain rfl := Except.ok.inj h
        exact core_of_portState hold
      | listening | slave _ | passive =>
        rw [hold] at h
        obtain rfl := Except.ok.inj h
        exact core_setForcedPortState port _

omit [Rng R] in
theorem recommendPassive_core (port : Port InBmca A R C F) (message : AnnounceMessage) :
    port.recommendPassive.core = { port.core with
      portState := port.core.recommendedState s (.p1 message) } := by
  rw [recommendPassive, PortCore.recommendedState,
    show port.core.portState = port.portState from rfl]
  cases hold : port.portState with
  | faulty | passive => exact core_of_portState hold
  | listening | slave _ | master => exact core_setForcedPortState port _

theorem setRecommendedPortState_core {state : RecommendedState}
    (h : port.setRecommendedPortState p state s.defaultDs = .ok port') :
    port'.core = { port.core with portState := port.core.recommendedState s state } := by
  cases state with
  | s1 message => exact recommendSlave_core h
  | m1 _ | m2 _ | m3 _ => exact recommendMaster_core (fun _ => rfl) h
  | p1 message | p2 message =>
    obtain rfl := Except.ok.inj h
    exact recommendPassive_core (s := s) port message

theorem setRecommendedState_core {state : RecommendedState}
    (h : port.setRecommendedState p s state = .ok (port', s')) :
    port'.core = { port.core with portState := port.core.recommendedState s state } := by
  obtain ⟨port₁, hport₁, h⟩ := bind_eq_ok.mp h
  rw [← setRecommendedPortState_core hport₁]
  cases state with
  | m1 _ | m2 _ =>
    obtain ⟨_, -, h⟩ := bind_eq_ok.mp h
    obtain ⟨rfl, -⟩ := Prod.mk.inj (Except.ok.inj h)
    rfl
  | m3 _ | p1 _ | p2 _ =>
    obtain ⟨rfl, -⟩ := Prod.mk.inj (Except.ok.inj h)
    rfl
  | s1 message =>
    obtain ⟨_, -, h⟩ := bind_eq_ok.mp h
    obtain ⟨s₁, -, h⟩ := bind_eq_ok.mp h
    obtain ⟨rfl, -⟩ := Prod.mk.inj (Except.ok.inj h)
    rfl

end Bmca

end Port

end Statime
