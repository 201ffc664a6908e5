import Statime.Port.ArrivalOrder

/-!
# Two answers to one peer delay request

When two devices answer a peer delay request, the port becomes faulty, but the exchange with the
first of them stays open.  The part that it still lacks completes it.

* `PortCore.uses_cases`: what gives a peer delay, or brings a faulty port back.
* `Slot.uses_iff`: the exchange is used when its last part comes in.
* `Slot.ambiguous_exchange_iff`: an ambiguous exchange over a whole run.
-/

namespace Statime

open Rust Machine

variable {A R C F T : Type} [AcceptableMasterList A] [Clock C] [Filter F] [Rng R]
  [ForwardedTLVProvider T]

/-! ### The events of an exchange -/

namespace PortEvent

/-- The follow-up of an answer of the responder to the own request with this id. -/
def PDelayRespFollowUpReceived (e : PortEvent T) (own responder : PortIdentity) (id : UInt16)
    (message : Message) (body : PDelayRespFollowUpMessage) : Prop :=
  e.Receives message ∧ message.body = .pDelayRespFollowUp body ∧
    message.header.sourcePortIdentity = responder ∧ body.requestingPortIdentity = own ∧
    message.header.sequenceId = id

/-- The responder answers the own request with this id. -/
def AnswersPDelayReq (e : PortEvent T) (own responder : PortIdentity) (id : UInt16) : Prop :=
  (∃ message body timestamp, e.PDelayRespReceived own responder id message body timestamp) ∨
    ∃ message body, e.PDelayRespFollowUpReceived own responder id message body

/-- The transmit timestamp of the own request with this id, or an answer to it. -/
def OfPeerExchange (e : PortEvent T) (own : PortIdentity) (id : UInt16) : Prop :=
  (∃ t, e.PDelayReqSent id t) ∨ ∃ responder, e.AnswersPDelayReq own responder id

omit [ForwardedTLVProvider T]

variable {e : PortEvent T} {message : Message} {own responder : PortIdentity} {id : UInt16}

theorem AnswersPDelayReq.receives (h : e.AnswersPDelayReq own responder id) :
    ∃ message, e.Receives message ∧ message.header.sourcePortIdentity = responder ∧
      message.header.sequenceId = id ∧ ((∃ body, message.body = .pDelayResp body) ∨
        ∃ body, message.body = .pDelayRespFollowUp body) := by
  rcases h with ⟨message, body, timestamp, hreceived, hbody, hsource, -, hid⟩ |
    ⟨message, body, hreceived, hbody, hsource, -, hid⟩
  · exact ⟨message, Or.inl ⟨timestamp, hreceived⟩, hsource, hid, Or.inl ⟨body, hbody⟩⟩
  · exact ⟨message, hreceived, hsource, hid, Or.inr ⟨body, hbody⟩⟩

theorem OfPeerExchange.id_eq {id' : UInt16} (h : e.OfPeerExchange own id)
    (h' : e.OfPeerExchange own id') : id = id' := by
  rcases h with ⟨t, s, rfl⟩ | ⟨responder, h⟩ <;> rcases h' with ⟨t', s', heq⟩ | ⟨responder', h'⟩
  · cases heq
    rfl
  · obtain ⟨message, hreceives, -⟩ := h'.receives
    rcases hreceives with ⟨_, _, _, heq, -⟩ | ⟨_, _, heq, -⟩ <;> cases heq
  · obtain ⟨message, hreceives, -⟩ := h.receives
    rw [heq] at hreceives
    rcases hreceives with ⟨_, _, _, heq', -⟩ | ⟨_, _, heq', -⟩ <;> cases heq'
  · obtain ⟨message, hreceives, -, rfl, -⟩ := h.receives
    obtain ⟨message', hreceives', -, rfl, -⟩ := h'.receives
    rw [hreceives.inj hreceives']

end PortEvent

/-! ### What gives a peer delay -/

namespace PortCore

omit [ForwardedTLVProvider T]

variable {p : Profile} {e : PortEvent T} {c c' : PortCore} {id : UInt16}

/-- A peer delay is handed over. -/
def MeasuresPeerDelay (c c' : PortCore) : Prop :=
  ∃ m, c'.handed = c.handed ++ [m] ∧ m.peerDelay.isSome = true

/-- The exchange with this id gives a peer delay, or brings a faulty port back. -/
def Uses (id : UInt16) (e : PortEvent T) (c c' : PortCore) : Prop :=
  (c.InPeerExchange id ∧ c.MeasuresPeerDelay c') ∨
    (e.OfPeerExchange c.portIdentity id ∧ c.portState = .faulty ∧ c'.portState ≠ .faulty)

/-- What the exchange with its responder still lacks, the event brings. -/
def LastPart (id : UInt16) (e : PortEvent T) (c : PortCore) : Prop :=
  ∃ source t1 t2 t3 t4, c.peerDelayState = .measuring id (some source) t1 t2 t3 t4 ∧
    ((t1 = none ∧ t2.isSome = true ∧ t3.isSome = true ∧ t4.isSome = true ∧
        ∃ t, e.PDelayReqSent id t) ∨
      (t4 = none ∧ t1.isSome = true ∧ ∃ message body timestamp,
        e.PDelayRespReceived c.portIdentity source id message body timestamp ∧
          (message.header.twoStepFlag = true → t3.isSome = true)) ∨
      (t3 = none ∧ t1.isSome = true ∧ t2.isSome = true ∧ t4.isSome = true ∧ ∃ message body,
        e.PDelayRespFollowUpReceived c.portIdentity source id message body))

theorem not_uses_of_same (hhanded : c'.handed = c.handed) (hstate : c'.portState = c.portState) :
    ¬ Uses id e c c' := by
  rintro (⟨-, m, hm, -⟩ | ⟨-, hfaulty, hrecovered⟩)
  · exact handed_ne_append _ _ (hhanded.symm.trans hm)
  · exact hrecovered (hstate.trans hfaulty)

theorem Measures.peerDelay_of_completed (h : Measures p c c')
    (hc : c.peerDelayState.completed ≠ none) : c.MeasuresPeerDelay c' := by
  cases h with
  | peer => exact ⟨_, rfl, rfl⟩
  | idle hnone | sync hnone | delay hnone => exact absurd hnone hc

/-- A peer delay, or a port that is not faulty any more, comes from a complete exchange. -/
theorem Measures.completed_of_uses (h : Measures p c c')
    (huses : c.MeasuresPeerDelay c' ∨ (c.portState = .faulty ∧ c'.portState ≠ .faulty)) :
    ∃ id responder times, c.peerDelayState.completed = some (id, responder, times) := by
  cases h with
  | peer hcomplete => exact ⟨_, _, _, hcomplete⟩
  | idle =>
    rcases huses with ⟨m, hm, -⟩ | ⟨hfaulty, hrecovered⟩
    · exact absurd hm (handed_ne_append _ _)
    · exact absurd hfaulty hrecovered
  | sync _ hstate | delay _ hstate =>
    rcases huses with ⟨m, hm, hsome⟩ | ⟨hfaulty, -⟩
    · obtain rfl := handed_append_inj hm
      cases hsome
    · cases hstate.symm.trans hfaulty

/-- Every stored answer has a responder. -/
def Attributed (c : PortCore) : Prop :=
  ∀ id t1 t2 t3 t4, c.peerDelayState = .measuring id none t1 t2 t3 t4 →
    t2 = none ∧ t3 = none ∧ t4 = none

theorem Traced.attributed {history : History T} (h : Traced p history c) : c.Attributed := by
  intro id t1 t2 t3 t4 hpeer
  refine ⟨?_, ?_, ?_⟩
  · cases t2 with
    | none => rfl
    | some t2 =>
      obtain ⟨source, hsource, -⟩ := h.requestReceived _ _ _ _ _ _ hpeer
      cases hsource
  · cases t3 with
    | none => rfl
    | some t3 =>
      obtain ⟨source, hsource, -⟩ := h.responseSent _ _ _ _ _ _ hpeer
      cases hsource
  · cases t4 with
    | none => rfl
    | some t4 =>
      obtain ⟨source, hsource, -⟩ := h.responseArrived _ _ _ _ _ _ hpeer
      cases hsource

/-- **An exchange is completed by one of its own events.** -/
theorem Stores.completes (h : Stores p e c c') (hattributed : c.Attributed)
    (hc : c.peerDelayState.completed = none) {id : UInt16} {responder : PortIdentity}
    {times : PeerDelayTimes}
    (hcomplete : c'.peerDelayState.completed = some (id, responder, times)) :
    c.InPeerExchange id ∧ ((∃ t2 t3 t4, c.peerDelayState =
        .measuring id (some responder) none (some t2) (some t3) (some t4) ∧
          ∃ t, e.PDelayReqSent id t) ∨
      (e.AnswersPDelayReq c.portIdentity responder id ∧ ∀ identity t1 t2 t3 t4,
        c.peerDelayState = .measuring id (some identity) t1 t2 t3 t4 → identity = responder)) := by
  unfold PeerDelayState.completed at hcomplete
  split at hcomplete
  · rename_i id' responder' t1 t2 t3 t4 hafter
    obtain ⟨rfl, rfl, -⟩ : id' = id ∧ responder' = responder ∧ _ := by simpa using hcomplete
    cases h with
    | sync | delay =>
      rw [show c.peerDelayState = _ from hafter] at hc
      cases hc
    | peerRequest hpeer hsent =>
      cases hafter
      exact ⟨⟨_, _, _, _, _, hpeer⟩, Or.inl ⟨_, _, _, hpeer, _, hsent⟩⟩
    | @peerResponse _ old _ _ s2 s3 s4 _ _ _ hpeer hsource h2 h3 h4 =>
      cases hafter
      refine ⟨⟨_, _, _, _, _, hpeer⟩, Or.inr ⟨?_, fun identity _ _ _ _ hpeer' => ?_⟩⟩
      rotate_left
      · cases hpeer.symm.trans hpeer'
        exact hsource identity rfl
      rcases h2 t2 rfl with ⟨message, body, timestamp, hnew, -⟩ | rfl
      · exact Or.inl ⟨message, body, timestamp, hnew⟩
      rcases h4 t4 rfl with ⟨message, body, timestamp, hnew, -⟩ | rfl
      · exact Or.inl ⟨message, body, timestamp, hnew⟩
      rcases h3 t3 rfl with
        (⟨message, body, hreceives, hbody, hresponder, hown, hid, -⟩ | ⟨message, body, timestamp, hnew, -⟩) | rfl
      · exact Or.inr ⟨message, body, hreceives, hbody, hresponder, hown, hid⟩
      · exact Or.inl ⟨message, body, timestamp, hnew⟩
      -- otherwise it was complete before
      cases old with
      | none => cases (hattributed _ _ _ _ _ hpeer).1
      | some old =>
        rw [hpeer] at hc
        cases hc
  · cases hcomplete

/-- **What uses an exchange** completes it. -/
theorem Step.completes_of_uses (h : Step p e c c') (hattributed : c.Attributed)
    (hinc : c.Incomplete) (huses : Uses id e c c') :
    c.InPeerExchange id ∧ ∃ responder, (∃ t2 t3 t4, c.peerDelayState =
        .measuring id (some responder) none (some t2) (some t3) (some t4) ∧
          ∃ t, e.PDelayReqSent id t) ∨
      (e.AnswersPDelayReq c.portIdentity responder id ∧ ∀ identity t1 t2 t3 t4,
        c.peerDelayState = .measuring id (some identity) t1 t2 t3 t4 → identity = responder) := by
  cases h with
  | @measure c₁ _ hstores hmeasures =>
    have hstate : c.portState = .faulty → c₁.portState = .faulty := by
      intro hfaulty
      cases hstores with
      | sync hslave | delay hslave => cases hslave.symm.trans hfaulty
      | peerRequest | peerResponse => exact hfaulty
    have hused : c₁.MeasuresPeerDelay c' ∨ (c₁.portState = .faulty ∧ c'.portState ≠ .faulty) := by
      rcases huses with ⟨-, m, hm, hsome⟩ | ⟨-, hfaulty, hrecovered⟩
      · exact Or.inl ⟨m, by rw [hstores.handed]; exact hm, hsome⟩
      · exact Or.inr ⟨hstate hfaulty, hrecovered⟩
    obtain ⟨id', responder, times, hcomplete⟩ := hmeasures.completed_of_uses hused
    obtain ⟨hin, hpart⟩ := hstores.completes hattributed hinc.peer hcomplete
    have hid : id' = id := by
      rcases huses with ⟨⟨_, _, _, _, _, hpeer⟩, -⟩ | ⟨hof, -⟩
      · obtain ⟨_, _, _, _, _, hpeer'⟩ := hin
        cases hpeer.symm.trans hpeer'
        rfl
      · refine PortEvent.OfPeerExchange.id_eq (e := e) (?_ : e.OfPeerExchange c.portIdentity id') hof
        rcases hpart with ⟨_, _, _, -, hsent⟩ | ⟨hanswers, -⟩
        · exact Or.inl hsent
        · exact Or.inr ⟨responder, hanswers⟩
    subst hid
    exact ⟨hin, responder, hpart⟩
  | keep | requestPeerDelay | age => exact absurd huses (not_uses_of_same rfl rfl)
  | firstSync hslave | requestDelay _ hslave =>
    rcases huses with ⟨-, m, hm, -⟩ | ⟨-, hfaulty, -⟩
    · exact absurd hm (handed_ne_append _ _)
    · cases hslave.symm.trans hfaulty
  | fault =>
    rcases huses with ⟨-, m, hm, -⟩ | ⟨-, -, hrecovered⟩
    · exact absurd hm (handed_ne_append _ _)
    · exact absurd rfl hrecovered
  | timeout hevent | recommended hevent =>
    subst hevent
    rcases huses with ⟨-, m, hm, -⟩ | ⟨hof, -⟩
    · exact absurd hm (handed_ne_append _ _)
    · rcases hof with ⟨_, _, heq⟩ | ⟨_, hanswers⟩
      · cases heq
      · obtain ⟨message, hreceives, -⟩ := hanswers.receives
        rcases hreceives with ⟨_, _, _, heq, -⟩ | ⟨_, _, heq, -⟩ <;> cases heq
  | disable hreceives hannounce =>
    rcases huses with ⟨-, m, hm, -⟩ | ⟨hof, -⟩
    · exact absurd hm (handed_ne_append _ _)
    · rcases hof with ⟨_, _, rfl⟩ | ⟨_, hanswers⟩
      · rcases hreceives with ⟨_, _, _, heq, -⟩ | ⟨_, _, heq, -⟩ <;> cases heq
      · obtain ⟨message, hreceives', -, -, hbody⟩ := hanswers.receives
        rw [← hreceives.inj hreceives', hannounce] at hbody
        rcases hbody with ⟨_, hbody⟩ | ⟨_, hbody⟩ <;> cases hbody

/-- The exchange with this id, if it is open, has a responder. -/
def HasResponder (id : UInt16) (c : PortCore) : Prop :=
  ∀ t1 t2 t3 t4, c.peerDelayState ≠ .measuring id none t1 t2 t3 t4

end PortCore

/-! ### The handlers of an answer -/

namespace Port

variable {p : Profile} {port port' : Port Running A R C F} {header : Header}
  {requesting source : PortIdentity} {lacks : PeerDelayState → Bool}
  {stored : Except Panic PeerDelayState} {actions : PortActionIterator}

omit [Rng R] in
/-- After an answer there is a responder. -/
theorem handleAnswer_hasResponder (hattributed : port.core.Attributed)
    (hidentity : port.portIdentity = requesting)
    (hlacks : ∀ t1, lacks (.measuring header.sequenceId none t1 none none none) = true)
    (hstored : ∀ state, stored = .ok state →
      ∀ t1 t2 t3 t4, state ≠ .measuring header.sequenceId none t1 t2 t3 t4)
    (h : port.handleAnswer p header requesting lacks stored = .ok (port', actions)) :
    port'.core.HasResponder header.sequenceId := by
  intro t1 t2 t3 t4 hpeer'
  unfold handleAnswer at h
  rw [if_neg (not_not.mpr hidentity)] at h
  split at h
  · rename_i hpost
    split at h
    · obtain ⟨rfl, -⟩ := Prod.mk.inj (Except.ok.inj h)
      rw [core_setForcedPortState] at hpeer'
      cases hpost.symm.trans hpeer'
    · obtain ⟨rfl, -⟩ := Prod.mk.inj (Except.ok.inj h)
      cases hpost.symm.trans hpeer'
  · rename_i id responder s1 s2 s3 s4 hmeasuring
    split at h
    · rename_i hid
      subst hid
      split at h
      · rename_i hconflict
        obtain ⟨rfl, -⟩ := Prod.mk.inj (Except.ok.inj h)
        rw [core_setForcedPortState] at hpeer'
        cases hmeasuring.symm.trans hpeer'
        cases hconflict
      · split at h
        · obtain ⟨state, hstate, h⟩ := bind_eq_ok.mp h
          rcases (handleTimeMeasurement_core h).peerDelayState with hkept | ⟨_, _, hclosed⟩
          · exact hstored state hstate _ _ _ _ (hkept.symm.trans hpeer')
          · cases hclosed.symm.trans hpeer'
        · rename_i hnot
          obtain ⟨rfl, -⟩ := Prod.mk.inj (Except.ok.inj h)
          cases hmeasuring.symm.trans hpeer'
          obtain ⟨rfl, rfl, rfl⟩ := hattributed _ _ _ _ _ hpeer'
          rw [hmeasuring] at hnot
          exact hnot (hlacks _)
    · rename_i hid
      obtain ⟨rfl, -⟩ := Prod.mk.inj (Except.ok.inj h)
      cases hmeasuring.symm.trans hpeer'
      exact hid rfl
  · rename_i hempty
    obtain ⟨rfl, -⟩ := Prod.mk.inj (Except.ok.inj h)
    cases hempty.symm.trans hpeer'

variable {t1 t2 t3 t4 : Option Time} {e : PortEvent T}

omit [Rng R] [ForwardedTLVProvider T] in
/-- **An answer of the responder is used** when it is the last part. -/
theorem handleAnswer_uses_iff (complete : Prop) (hinc : port.core.Incomplete)
    (hpeer : port.peerDelayState =
      .measuring header.sequenceId (some header.sourcePortIdentity) t1 t2 t3 t4)
    (hidentity : port.portIdentity = requesting)
    (hstored : ∀ state, stored = .ok state → (state.completed ≠ none ↔ complete))
    (h : port.handleAnswer p header requesting lacks stored = .ok (port', actions)) :
    PortCore.Uses header.sequenceId e port.core port'.core ↔
      lacks port.peerDelayState = true ∧ complete := by
  have hresponder : ∀ identity, some header.sourcePortIdentity = some identity →
      identity = header.sourcePortIdentity := fun _ hsame => (Option.some.inj hsame).symm
  cases hlacks : lacks port.peerDelayState with
  | false =>
    have hsame : port' = port := by
      unfold handleAnswer at h
      rw [if_neg (not_not.mpr hidentity)] at h
      simp only [hpeer] at h hlacks
      rw [if_pos trivial, if_neg (fun h => conflict_iff.mp h hresponder), hlacks,
        if_neg Bool.false_ne_true] at h
      exact (Prod.mk.inj (Except.ok.inj h)).1.symm
    rw [hsame]
    exact iff_of_false (PortCore.not_uses_of_same rfl rfl) fun h => Bool.false_ne_true h.1
  | true =>
    rw [handleAnswer_stores hpeer hidentity hresponder hlacks] at h
    obtain ⟨state, hstate, hmeasured⟩ := bind_eq_ok.mp h
    rw [← hstored state hstate]
    by_cases hcomplete : state.completed = none
    · have hidle : (port.withPeerDelayState state).core.Incomplete := hinc.withPeerDelay hcomplete
      rw [handleTimeMeasurement_idle p hidle] at hmeasured
      obtain ⟨rfl, -⟩ := Prod.mk.inj (Except.ok.inj hmeasured)
      exact iff_of_false (PortCore.not_uses_of_same rfl rfl) fun h => h.2 hcomplete
    · refine iff_of_true (Or.inl ⟨⟨_, _, _, _, _, hpeer⟩, ?_⟩) ⟨rfl, hcomplete⟩
      exact (handleTimeMeasurement_core hmeasured).peerDelay_of_completed hcomplete

end Port

/-! ### Steps of a port -/

namespace Slot

variable {p : Profile} {port : Port Running A R C F} {slot slot' : Slot A R C F}
  {actions : PortActionIterator} {e : PortEvent T} {id : UInt16}

theorem Reachable.attributed (h : Slot.Reachable T p slot) : slot.core.Attributed := by
  obtain ⟨log, htrace⟩ := Machine.Reachable.exists_trace h
  exact (traced_of_trace htrace).1.attributed

/-- After an answer the exchange has a responder. -/
theorem hasResponder_of_answers {responder : PortIdentity} (hr : Slot.Reachable T p slot)
    (he : e.AnswersPDelayReq slot.core.portIdentity responder id)
    (h : slot.step p e = .ok (slot', actions)) : slot'.core.HasResponder id := by
  have hattributed := hr.attributed
  cases slot with
  | inBmca port =>
    obtain ⟨message, hreceives, -⟩ := he.receives
    rcases hreceives with ⟨_, _, _, rfl, -⟩ | ⟨_, _, rfl, -⟩ <;> cases h
  | running port =>
    rcases he with ⟨message, body, timestamp, hreceived, hbody, -, hidentity, rfl⟩ |
      ⟨message, body, hreceived, hbody, -, hidentity, rfl⟩
    · rw [step_pDelayResp port hreceived hbody, Port.handlePeerDelayResponse_eq] at h
      obtain ⟨port', hport', rfl⟩ := ofHandler_eq_ok.mp h
      refine Port.handleAnswer_hasResponder hattributed hidentity.symm (fun _ => rfl) ?_ hport'
      intro state hstored t1 t2 t3 t4 hstate
      unfold Port.storedResponse at hstored
      split at hstored
      · obtain ⟨arrived, -, hstored⟩ := bind_eq_ok.mp hstored
        rw [← Except.ok.inj hstored] at hstate
        cases hstate
      · rename_i hother
        rw [Except.ok.inj hstored] at hother
        exact hother _ _ _ _ _ _ hstate
    · rw [step_pDelayRespFollowUp port hreceived hbody, Port.handlePeerDelayResponseFollowUp_eq] at h
      obtain ⟨port', hport', rfl⟩ := ofHandler_eq_ok.mp h
      refine Port.handleAnswer_hasResponder hattributed hidentity.symm (fun _ => rfl) ?_ hport'
      intro state hstored t1 t2 t3 t4 hstate
      unfold Port.storedFollowUp at hstored
      split at hstored
      · obtain ⟨sent, -, hstored⟩ := bind_eq_ok.mp hstored
        rw [← Except.ok.inj hstored] at hstate
        cases hstate
      · rename_i hother
        rw [Except.ok.inj hstored] at hother
        exact hother _ _ _ _ _ _ hstate

/-- A peer delay response of the responder. -/
theorem uses_response_iff {source : PortIdentity} {t1 t2 t3 t4 : Option Time} {message : Message}
    {body : PDelayRespMessage} {timestamp : Time} (hinc : port.core.Incomplete)
    (hpeer : port.peerDelayState = .measuring id (some source) t1 t2 t3 t4)
    (he : e.PDelayRespReceived port.portIdentity source id message body timestamp)
    (h : (running port).step p e = .ok (slot', actions)) :
    PortCore.Uses id e port.core slot'.core ↔
      t4 = none ∧ t1.isSome = true ∧ (message.header.twoStepFlag = true → t3.isSome = true) := by
  obtain ⟨hreceived, hbody, rfl, hidentity, rfl⟩ := he
  rw [step_pDelayResp port hreceived hbody, Port.handlePeerDelayResponse_eq] at h
  obtain ⟨port', hport', rfl⟩ := ofHandler_eq_ok.mp h
  refine (Port.handleAnswer_uses_iff (t1.isSome = true ∧
    (message.header.twoStepFlag = true → t3.isSome = true)) hinc hpeer hidentity.symm ?_ hport').trans ?_
  · intro state hstate
    rw [hpeer] at hstate
    obtain ⟨arrived, -, hstate⟩ := bind_eq_ok.mp hstate
    rw [← Except.ok.inj hstate]
    cases t1 <;> cases t3 <;> cases message.header.twoStepFlag <;> simp [PeerDelayState.completed]
  · rw [hpeer]
    simp [PeerDelayState.lacksResponse]

/-- Its follow-up. -/
theorem uses_followUp_iff {source : PortIdentity} {t1 t2 t3 t4 : Option Time} {message : Message}
    {body : PDelayRespFollowUpMessage} (hinc : port.core.Incomplete)
    (hpeer : port.peerDelayState = .measuring id (some source) t1 t2 t3 t4)
    (he : e.PDelayRespFollowUpReceived port.portIdentity source id message body)
    (h : (running port).step p e = .ok (slot', actions)) :
    PortCore.Uses id e port.core slot'.core ↔
      t3 = none ∧ t1.isSome = true ∧ t2.isSome = true ∧ t4.isSome = true := by
  obtain ⟨hreceived, hbody, rfl, hidentity, rfl⟩ := he
  rw [step_pDelayRespFollowUp port hreceived hbody, Port.handlePeerDelayResponseFollowUp_eq] at h
  obtain ⟨port', hport', rfl⟩ := ofHandler_eq_ok.mp h
  refine (Port.handleAnswer_uses_iff (t1.isSome = true ∧ t2.isSome = true ∧ t4.isSome = true)
    hinc hpeer hidentity.symm ?_ hport').trans ?_
  · intro state hstate
    rw [hpeer] at hstate
    obtain ⟨sent, -, hstate⟩ := bind_eq_ok.mp hstate
    rw [← Except.ok.inj hstate]
    cases t1 <;> cases t2 <;> cases t4 <;> simp [PeerDelayState.completed]
  · rw [hpeer]
    simp [PeerDelayState.lacksFollowUp]

/-- **An exchange with a responder is used when its last part comes in.** -/
theorem uses_iff (hr : Slot.Reachable T p slot) (hresponder : slot.core.HasResponder id)
    (h : slot.step p e = .ok (slot', actions)) :
    PortCore.Uses id e slot.core slot'.core ↔ slot.core.LastPart id e := by
  have hinc := hr.incomplete
  cases slot with
  | inBmca port =>
    have hof : ¬ e.OfPeerExchange port.core.portIdentity id := by
      rintro (⟨_, s, rfl⟩ | ⟨responder, hanswers⟩)
      · cases h
      · obtain ⟨message, hreceives, -⟩ := hanswers.receives
        rcases hreceives with ⟨_, _, _, rfl, -⟩ | ⟨_, _, rfl, -⟩ <;> cases h
    refine iff_of_false (fun huses => ?_) ?_
    · obtain ⟨-, responder, ⟨_, _, _, -, hsent⟩ | ⟨hanswers, -⟩⟩ :=
        (Slot.step_core h).completes_of_uses hr.attributed hinc huses
      · exact hof (Or.inl hsent)
      · exact hof (Or.inr ⟨_, hanswers⟩)
    · rintro ⟨source, t1, t2, t3, t4, -, ⟨-, -, -, -, hsent⟩ | ⟨-, -, message, body, timestamp, he, -⟩ |
        ⟨-, -, -, -, message, body, he⟩⟩
      · exact hof (Or.inl hsent)
      · exact hof (Or.inr ⟨_, Or.inl ⟨_, _, _, he⟩⟩)
      · exact hof (Or.inr ⟨_, Or.inr ⟨_, _, he⟩⟩)
  | running port =>
    constructor
    · intro huses
      obtain ⟨⟨recorded, t1, t2, t3, t4, hpeer⟩, responder, ⟨s2, s3, s4, hpeer', hsent⟩ |
        ⟨hanswers, hsame⟩⟩ := (Slot.step_core h).completes_of_uses hr.attributed hinc huses
      · exact ⟨_, _, _, _, _, hpeer', Or.inl ⟨rfl, rfl, rfl, rfl, hsent⟩⟩
      · cases recorded with
        | none => exact absurd hpeer (hresponder _ _ _ _)
        | some source =>
          obtain rfl := hsame _ _ _ _ _ hpeer
          refine ⟨source, t1, t2, t3, t4, hpeer, ?_⟩
          rcases hanswers with ⟨message, body, timestamp, he⟩ | ⟨message, body, he⟩
          · obtain ⟨h4, h1, h3⟩ := (uses_response_iff hinc hpeer he h).mp huses
            exact Or.inr (Or.inl ⟨h4, h1, message, body, timestamp, he, h3⟩)
          · obtain ⟨h3, h1, h2, h4⟩ := (uses_followUp_iff hinc hpeer he h).mp huses
            exact Or.inr (Or.inr ⟨h3, h1, h2, h4, message, body, he⟩)
    · rintro ⟨source, t1, t2, t3, t4, hpeer, ⟨rfl, h2, h3, h4, timestamp, he⟩ |
        ⟨h4, h1, message, body, timestamp, he, h3⟩ | ⟨h3, h1, h2, h4, message, body, he⟩⟩
      · rw [step_pdelayTimestamp port he, Port.handlePdelayTimestamp_stores hpeer] at h
        obtain ⟨port', hport', rfl⟩ := ofHandler_eq_ok.mp h
        refine Or.inl ⟨⟨_, _, _, _, _, hpeer⟩, ?_⟩
        refine (Port.handleTimeMeasurement_core hport').peerDelay_of_completed ?_
        obtain ⟨t2, rfl⟩ := Option.isSome_iff_exists.mp h2
        obtain ⟨t3, rfl⟩ := Option.isSome_iff_exists.mp h3
        obtain ⟨t4, rfl⟩ := Option.isSome_iff_exists.mp h4
        simp [PeerDelayState.completed]
      · exact (uses_response_iff hinc hpeer he h).mpr ⟨h4, h1, h3⟩
      · exact (uses_followUp_iff hinc hpeer he h).mpr ⟨h3, h1, h2, h4⟩

end Slot

/-! ### Ambiguous exchanges -/

namespace PortCore

omit [ForwardedTLVProvider T]

variable {p : Profile} {e : PortEvent T} {c c' : PortCore} {id : UInt16}

/-- A request with this id is sent. -/
def SendsPDelayReq (id : UInt16) (e : PortEvent T) (c' : PortCore) : Prop :=
  (∃ s, e = .delayRequestTimer s) ∧ c'.peerDelayState = .measuring id none none none none none

/-- Without another request with its id an exchange keeps its responder. -/
theorem Step.hasResponder (h : Step p e c c') (hc : c.HasResponder id)
    (hsame : ¬ SendsPDelayReq id e c') : c'.HasResponder id := by
  cases h with
  | keep | firstSync | fault | requestDelay | timeout | disable | recommended | age => exact hc
  | requestPeerDelay hevent =>
    intro t1 t2 t3 t4 hpeer
    refine hsame ⟨⟨_, hevent⟩, ?_⟩
    cases hpeer
    rfl
  | measure hstores hmeasures =>
    intro t1 t2 t3 t4 hpeer
    rcases hmeasures.peerDelayState with hkept | ⟨_, _, hclosed⟩
    · rw [hkept] at hpeer
      cases hstores with
      | sync | delay => exact hc _ _ _ _ hpeer
      | peerRequest hold =>
        cases hpeer
        exact hc _ _ _ _ hold
      | peerResponse => cases hpeer
    · cases hclosed.symm.trans hpeer

end PortCore

namespace Slot

variable {p : Profile} {slot : Slot A R C F} {id : UInt16}

/-- A second device answers, after an answer of a first one that did not complete the exchange. -/
structure Ambiguous (id : UInt16) (opened : List (Transition (Slot A R C F) (PortEvent T)))
    (second : Transition (Slot A R C F) (PortEvent T)) : Prop where
  answers : ∃ first ∈ opened, ∃ source source', source ≠ source' ∧
    first.event.AnswersPDelayReq first.before.core.portIdentity source id ∧
    second.event.AnswersPDelayReq second.before.core.portIdentity source' id
  unmeasured : ∀ t ∈ opened, ¬ PortCore.Uses id t.event t.before.core t.after.core

/-- **An ambiguous exchange is not used if and only if its last part does not come in any more.** -/
theorem ambiguous_exchange_iff
    {earlier opened later : List (Transition (Slot A R C F) (PortEvent T))}
    {second : Transition (Slot A R C F) (PortEvent T)}
    (h : Trace (Slot.step p) (Slot.Initial p) (earlier ++ (opened ++ second :: later)) slot)
    (hsame : ∀ t ∈ opened ++ second :: later, ¬ PortCore.SendsPDelayReq id t.event t.after.core)
    (hambiguous : Ambiguous id opened second) :
    (∀ t ∈ second :: later, ¬ PortCore.Uses id t.event t.before.core t.after.core) ↔
      ∀ t ∈ second :: later, ¬ t.before.core.LastPart id t.event := by
  obtain ⟨first, hfirst, source, source', -, hanswers, -⟩ := hambiguous.answers
  obtain ⟨before, between, rfl⟩ := List.append_of_mem hfirst
  have hlog : earlier ++ (before ++ first :: between ++ second :: later) =
      (earlier ++ before) ++ first :: (between ++ second :: later) := by simp
  -- from the first answer on there is a responder
  have hresponder : ∀ t ∈ between ++ second :: later, t.before.core.HasResponder id := by
    obtain ⟨hearlierRun, o, hstep⟩ := h.split hlog
    refine h.before_of_step (P := fun slot => slot.core.HasResponder id) hlog
      (hasResponder_of_answers hearlierRun.reachable hanswers hstep) fun t ht hbefore => ?_
    have hmem : t ∈ before ++ first :: between ++ second :: later := by
      rw [List.append_assoc, List.cons_append]
      exact List.mem_append_right _ (List.mem_cons_of_mem _ ht)
    obtain ⟨-, o, hstep⟩ := h.of_mem t (List.mem_append_right _ hmem)
    exact (Slot.step_core hstep).hasResponder hbefore (hsame t hmem)
  refine forall₂_congr fun t ht => not_congr ?_
  obtain ⟨hreach, o, hstep⟩ := h.of_mem t
    (List.mem_append_right _ (List.mem_append_right _ ht))
  exact uses_iff hreach (hresponder t (List.mem_append_right _ ht)) hstep

/-- Two devices answer to a peer delay request; then the follow-up of the first one and the transmit
timestamp come in. -/
def twoResponders : List (PortEvent NoForwardedTLVs) :=
  [.endBmca, .delayRequestTimer (testSystem testInstanceConfig).state,
    TestSlot.eventReceive 3 2 7 0 (List.replicate 20 0),
    TestSlot.eventReceive 3 2 8 0 (List.replicate 20 0),
    TestSlot.eventReceive 10 0 7 0 (List.replicate 20 0),
    .sendTimestamp (testSystem testInstanceConfig).state (.pDelayReq 0) ⟨⟨3⟩⟩]

/-- The responder of the first answer. -/
def firstResponder : PortIdentity :=
  (TestSlot.message true 7 0 (.pDelayResp ⟨default, default⟩)).header.sourcePortIdentity

/-- The exchange with it, as far as its answers came in; it is not known when the request was
sent. -/
def openExchange (responseSendTime : Option Time) : PeerDelayState :=
  .measuring 0 (some firstResponder) none (some ⟨⟨0⟩⟩) responseSendTime (some ⟨⟨5⟩⟩)

/-- The steps of `twoResponders`. -/
def usesTwoResponders : List (Transition TestSlot (PortEvent NoForwardedTLVs)) → Bool
  | [_, _, first, second, _, sent] =>
    decide (first.before.core.portIdentity = default ∧ second.before.core.portIdentity = default ∧
      first.after.core.handed = first.before.core.handed ∧
      first.after.core.portState = first.before.core.portState ∧
      second.before.core.peerDelayState = openExchange none ∧
      sent.before.core.portState = .faulty ∧ sent.after.core.portState = .listening ∧
      sent.before.core.peerDelayState = openExchange (some ⟨⟨0⟩⟩) ∧
      sent.after.core.handed =
        sent.before.core.handed ++ [{ eventTime := ⟨⟨5⟩⟩, peerDelay := some ⟨⟨1⟩⟩ }])
  | _ => false

/-- Two devices answered, and no other request is sent. -/
theorem exists_twoResponders :
    ∃ (first second followUp sent : Transition TestSlot (PortEvent NoForwardedTLVs))
      (earlier : List (Transition TestSlot (PortEvent NoForwardedTLVs))) (slot : TestSlot),
      Trace (Slot.step .debug) (Slot.Initial .debug) (earlier ++ ([first] ++ [second, followUp, sent]))
        slot ∧
      (∀ t ∈ [first] ++ [second, followUp, sent],
        ¬ PortCore.SendsPDelayReq 0 t.event t.after.core) ∧
      Ambiguous 0 [first] second ∧ second.before.core.peerDelayState = openExchange none ∧
      sent.before.core.portState = .faulty ∧ sent.after.core.portState = .listening ∧
      sent.before.core.peerDelayState = openExchange (some ⟨⟨0⟩⟩) ∧
      sent.after.core.handed =
        sent.before.core.handed ++ [{ eventTime := ⟨⟨5⟩⟩, peerDelay := some ⟨⟨1⟩⟩ }] := by
  have hrun : TestSlot.traces { testPortConfig with delayMechanism := .p2p ⟨0⟩ } twoResponders
      usesTwoResponders = true := by
    decide +kernel
  have hfirst := TestSlot.receivesAt (m := TestSlot.message true 7 0 (.pDelayResp ⟨default, default⟩))
    3 2 7 0 (List.replicate 20 0) (by decide +kernel)
  have hsecond := TestSlot.receivesAt (m := TestSlot.message true 8 0 (.pDelayResp ⟨default, default⟩))
    3 2 8 0 (List.replicate 20 0) (by decide +kernel)
  obtain ⟨log, slot, htrace, hevents, hcheck⟩ := TestSlot.exists_trace hrun
  unfold usesTwoResponders at hcheck
  split at hcheck
  · rename_i a b first second followUp sent
    rw [decide_eq_true_eq] at hcheck
    obtain ⟨hown₁, hown₂, hhanded, hstate, hopen, hfaulty, hlistening, hcomplete, hmeasured⟩ := hcheck
    simp only [twoResponders, List.map_cons, List.map_nil, List.cons.injEq, and_true] at hevents
    obtain ⟨-, -, he₁, he₂, he₃, he₄⟩ := hevents
    refine ⟨first, second, followUp, sent, [a, b], slot, htrace, ?_, ⟨?_, ?_⟩, hopen, hfaulty,
      hlistening, hcomplete, hmeasured⟩
    · intro t ht
      rintro ⟨⟨s, hs⟩, -⟩
      simp only [List.cons_append, List.nil_append, List.mem_cons, List.not_mem_nil, or_false] at ht
      rcases ht with rfl | rfl | rfl | rfl
      · cases he₁.symm.trans hs
      · cases he₂.symm.trans hs
      · cases he₃.symm.trans hs
      · cases he₄.symm.trans hs
    · refine ⟨first, List.mem_cons_self, firstResponder, _, ?_, Or.inl ⟨_, _, _, by
        rw [he₁]; exact hfirst, rfl, rfl, hown₁.symm, rfl⟩, Or.inl ⟨_, _, _, by
        rw [he₂]; exact hsecond, rfl, rfl, hown₂.symm, rfl⟩⟩
      decide
    · intro t ht
      obtain rfl := List.mem_singleton.mp ht
      exact PortCore.not_uses_of_same hhanded hstate
  · cases hcheck

/-- As long as the transmit timestamp does not come in. -/
theorem ambiguous_exchange_unsent :
    ∃ (earlier opened : List (Transition TestSlot (PortEvent NoForwardedTLVs)))
      (second : Transition TestSlot (PortEvent NoForwardedTLVs)) (slot : TestSlot),
      Trace (Slot.step .debug) (Slot.Initial .debug) (earlier ++ (opened ++ [second])) slot ∧
      Ambiguous 0 opened second ∧
      ∀ t ∈ [second], ¬ PortCore.Uses 0 t.event t.before.core t.after.core := by
  obtain ⟨first, second, followUp, sent, earlier, slot, htrace, hsame, hambiguous, hopen, -⟩ :=
    exists_twoResponders
  have hlog : earlier ++ ([first] ++ [second, followUp, sent]) =
      (earlier ++ ([first] ++ [second])) ++ followUp :: [sent] := by simp
  have hearlierRun := (htrace.split hlog).1
  refine ⟨earlier, [first], second, _, hearlierRun, hambiguous,
    (ambiguous_exchange_iff hearlierRun (fun t ht => hsame t ?_) hambiguous).mpr fun t ht => ?_⟩
  · rcases List.mem_append.mp ht with hfirst | hsecond
    · exact List.mem_append_left _ hfirst
    · obtain rfl := List.mem_singleton.mp hsecond
      exact List.mem_append_right _ List.mem_cons_self
  · obtain rfl := List.mem_singleton.mp ht
    rintro ⟨source, t1, t2, t3, t4, hpeer, hpart⟩
    cases hopen.symm.trans hpeer
    rcases hpart with ⟨-, -, h3, -⟩ | ⟨-, h1, -⟩ | ⟨-, h1, -⟩
    · cases h3
    · cases h1
    · cases h1

/-- **The timestamp completes the exchange**: although two devices answered, the delay is measured, and
the faulty port is back. -/
theorem ambiguous_exchange_measured :
    ∃ (earlier opened later : List (Transition TestSlot (PortEvent NoForwardedTLVs)))
      (second : Transition TestSlot (PortEvent NoForwardedTLVs)) (slot : TestSlot),
      Trace (Slot.step .debug) (Slot.Initial .debug) (earlier ++ (opened ++ second :: later)) slot ∧
      (∀ t ∈ opened ++ second :: later, ¬ PortCore.SendsPDelayReq 0 t.event t.after.core) ∧
      Ambiguous 0 opened second ∧ ∃ t ∈ later, t.before.core.InPeerExchange 0 ∧
        t.before.core.MeasuresPeerDelay t.after.core ∧ t.before.core.portState = .faulty ∧
        t.after.core.portState = .listening := by
  obtain ⟨first, second, followUp, sent, earlier, slot, htrace, hsame, hambiguous, -, hfaulty,
    hlistening, hcomplete, hmeasured⟩ := exists_twoResponders
  exact ⟨earlier, [first], [followUp, sent], second, slot, htrace, hsame, hambiguous, sent,
    List.mem_cons_of_mem _ List.mem_cons_self, ⟨_, _, _, _, _, hcomplete⟩, ⟨_, hmeasured, rfl⟩,
    hfaulty, hlistening⟩

end Slot

end Statime
