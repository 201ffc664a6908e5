import Statime.Bmc.Kept
import Statime.Port.Effects

/-!
# The foreign masters of a port

The foreign masters of a port are its `Bmca`, and a step of the port makes at most one call of it: an
announce message is registered, the best message is taken, or the messages grow older.

* `Slot.step_bmca`: the call that a step makes.
* `Bmca.timely_stepAge`: a step that no age can overflow with.
-/

namespace Statime

open Rust

/-! ### Steps that no age can overflow with -/

namespace ForeignMaster

variable {interval : TimeInterval} {own : PortIdentity} {fm : ForeignMaster} {step : Duration}

/-- The ages are far from the end of their range. -/
theorem WellFormed.age_lt (h : fm.WellFormed interval own) :
    ∀ m ∈ fm.announceMessages.toList, m.age.toInt < 2 ^ 82 := by
  intro m hm
  rcases h.young with hall | ⟨only, hlist, hage⟩
  · have hyoung := of_decide_eq_true (hall m hm)
    have hrange := interval.toInt_range
    rw [Duration.toInt_ofTimeInterval, foreignMasterTimeWindow] at hyoung
    omega
  · rw [hlist] at hm
    rw [List.mem_singleton.mp hm, hage]
    norm_num

theorem ageAll_total : ∀ ms : List ForeignAnnounceMessage,
    (∀ m ∈ ms, 0 ≤ m.age.toInt ∧ m.age.toInt < 2 ^ 82) → 0 ≤ step.toInt → step.toInt < 2 ^ 126 →
      ∃ ms', ageAll .debug step ms = .ok ms' := by
  intro ms
  induction ms with
  | nil => exact fun _ _ _ => ⟨[], rfl⟩
  | cons m ms ih =>
    intro hages hlo hhi
    rw [List.forall_mem_cons] at hages
    obtain ⟨hm, hms⟩ := hages
    obtain ⟨ms', hms'⟩ := ih hms hlo hhi
    obtain ⟨age, hage, -⟩ := Duration.add_spec .debug (a := m.age) (b := step) (by omega) (by omega)
    exact ⟨{ m with age } :: ms', by rw [ageAll, hage, ok_bind, hms', ok_bind]; rfl⟩

theorem WellFormed.stepAge_total (h : fm.WellFormed interval own) (hlo : 0 ≤ step.toInt)
    (hhi : step.toInt < 2 ^ 126) : ∃ fm', fm.stepAge .debug step interval = .ok fm' := by
  obtain ⟨ms, hms⟩ := ageAll_total fm.announceMessages.toList
    (fun m hm => ⟨h.nonneg m hm, h.age_lt m hm⟩) hlo hhi
  obtain ⟨v, hv⟩ := ArrayVec.updateM_total (length_ageAll .debug step) hms
  exact ⟨_, by rw [ForeignMaster.stepAge, hv, ok_bind, purgeOldMessages_eq]⟩

end ForeignMaster

namespace Bmca

variable {A : Type} [AcceptableMasterList A] {b : Bmca A} {step : Duration}

theorem stepAgeAll_total {interval : TimeInterval} {own : PortIdentity} (hlo : 0 ≤ step.toInt)
    (hhi : step.toInt < 2 ^ 126) : ∀ fms : List ForeignMaster,
      (∀ fm ∈ fms, fm.WellFormed interval own) →
        ∃ fms', ForeignMasterList.stepAgeAll .debug step interval fms = .ok fms' := by
  intro fms
  induction fms with
  | nil => exact fun _ => ⟨[], rfl⟩
  | cons fm fms ih =>
    intro hrecords
    rw [List.forall_mem_cons] at hrecords
    obtain ⟨fms', hfms'⟩ := ih hrecords.2
    obtain ⟨fm', hfm'⟩ := hrecords.1.stepAge_total hlo hhi
    rw [ForeignMasterList.stepAgeAll, hfms', ok_bind, hfm', ok_bind]
    split
    · exact ⟨_, rfl⟩
    · exact ⟨_, rfl⟩

/-- **A step that no age can overflow with.** -/
theorem timely_stepAge (hb : b.WellFormed) (hlo : 0 ≤ step.toInt) (hhi : step.toInt < 2 ^ 126) :
    (Call.stepAge step).Timely b := by
  refine ⟨hlo, ?_⟩
  obtain ⟨fms, hfms⟩ := stepAgeAll_total hlo hhi b.foreignMasterList.foreignMasters.toList
    hb.list.records
  obtain ⟨v, hv⟩ := ArrayVec.updateM_total (ForeignMasterList.length_stepAgeAll .debug step _) hfms
  rw [stepAge, ForeignMasterList.stepAge, hv]
  rfl

end Bmca

/-! ### The call that a step makes -/

namespace Port

variable {A R C F : Type} [AcceptableMasterList A] [Clock C] [Filter F] [Rng R] {p : Profile}
  {s s' : PtpInstanceState} {message : Message} {data : List UInt8} {timestamp : Time}
  {actions : PortActionIterator}

/-- What a received message does to the foreign masters. -/
def RegistersIn (p : Profile) (b b' : Bmca A) (message : Message) : Prop :=
  b' = b ∨ ∃ announce, message.body = .announce announce ∧
    b.call p (.register message.header announce) = .ok (b', none)

section Running

variable {port port' : Port Running A R C F}

theorem handleAnnounce_registersIn {announce : AnnounceMessage} (hbody : message.body = .announce announce)
    (h : port.handleAnnounce p s message announce = .ok (port', s', actions)) :
    RegistersIn p port.bmca port'.bmca message := by
  obtain ⟨⟨s₁, loop⟩, -, h⟩ := bind_eq_ok.mp h
  dsimp only at h
  split at h
  · obtain ⟨rfl, -⟩ := Prod.mk.inj (Except.ok.inj h)
    exact Or.inl rfl
  · obtain ⟨⟨port₁, actions₁⟩, hregister, h⟩ := bind_eq_ok.mp h
    obtain ⟨rfl, -⟩ := Prod.mk.inj (Except.ok.inj h)
    obtain ⟨⟨bmca, stored⟩, hbmca, hregister⟩ := bind_eq_ok.mp hregister
    have hcall : port.bmca.call p (.register message.header announce) = .ok (bmca, none) := by
      rw [Bmca.call, hbmca]
      rfl
    dsimp only at hregister
    split at hregister
    · obtain ⟨⟨duration, rng⟩, -, hregister⟩ := bind_eq_ok.mp hregister
      obtain ⟨rfl, -⟩ := Prod.mk.inj (Except.ok.inj hregister)
      refine Or.inr ⟨announce, hbody, ?_⟩
      rw [bmca_checkMultiport]
      exact hcall
    · obtain ⟨rfl, -⟩ := Prod.mk.inj (Except.ok.inj hregister)
      exact Or.inr ⟨announce, hbody, hcall⟩

theorem handleGeneralInternal_registersIn
    (h : port.handleGeneralInternal p s message = .ok (port', s', actions)) :
    RegistersIn p port.bmca port'.bmca message := by
  rcases handleGeneralInternal_received h with hquiet | ⟨announce, hbody, -⟩
  · exact Or.inl hquiet.bmca
  · unfold handleGeneralInternal at h
    rw [hbody] at h
    exact handleAnnounce_registersIn hbody h

theorem handleEventMessage_registersIn
    (h : port.handleEventMessage p s message timestamp = .ok (port', s', actions)) :
    RegistersIn p port.bmca port'.bmca message := by
  rcases handleEventMessage_received h with hquiet | ⟨announce, hbody, -⟩
  · exact Or.inl hquiet.bmca
  · unfold handleEventMessage at h
    rw [hbody] at h
    exact handleGeneralInternal_registersIn h

end Running

section InBmca

variable {port port' : Port InBmca A R C F}

omit [Clock C] [Rng R] in
theorem calculateBest_call (h : port.calculateBestLocalAnnounceMessage p = .ok port') :
    port.bmca.call p .takeBest = .ok (port'.bmca, port'.lifecycle.localBest) := by
  obtain ⟨⟨best, bmca⟩, hbest, h⟩ := bind_eq_ok.mp h
  obtain rfl := Except.ok.inj h
  rw [Bmca.call, hbest]
  rfl

omit [Clock C] [Rng R] in
theorem stepAnnounceAge_call {step : Duration} (h : port.stepAnnounceAge p step = .ok port') :
    port.bmca.call p (.stepAge step) = .ok (port'.bmca, none) := by
  obtain ⟨disable, -, h⟩ := bind_eq_ok.mp h
  obtain ⟨bmca, hbmca, h⟩ := bind_eq_ok.mp h
  obtain rfl := Except.ok.inj h
  rw [Bmca.call, hbmca]
  rfl

end InBmca

end Port

namespace Slot

variable {A R C F T : Type} [AcceptableMasterList A] [Clock C] [Filter F] [Rng R]
  [ForwardedTLVProvider T] {p : Profile} {slot slot' : Slot A R C F} {e : PortEvent T}
  {actions : PortActionIterator}

/-- What a step of a port does to the foreign masters. -/
inductive BmcaStep (p : Profile) (e : PortEvent T) (b b' : Bmca A) : Prop
  | same : b' = b → BmcaStep p e b b'
  | registered {message : Message} {announce : AnnounceMessage} : e.Receives message →
      message.body = .announce announce →
      b.call p (.register message.header announce) = .ok (b', none) → BmcaStep p e b b'
  | chosen {best : Option BestAnnounceMessage} : e = .calculateBest →
      b.call p .takeBest = .ok (b', best) → BmcaStep p e b b'
  | aged {step : Duration} : e = .stepAge step → b.call p (.stepAge step) = .ok (b', none) →
      BmcaStep p e b b'

omit [ForwardedTLVProvider T] in
theorem bmcaStep_of_registersIn {b b' : Bmca A} {message : Message} (he : e.Receives message)
    (h : Port.RegistersIn p b b' message) : BmcaStep p e b b' := by
  rcases h with hsame | ⟨announce, hbody, hcall⟩
  · exact .same hsame
  · exact .registered he hbody hcall

/-- **A step makes at most one call** of the foreign masters. -/
theorem step_bmca (h : slot.step p e = .ok (slot', actions)) :
    BmcaStep p e slot.bmca slot'.bmca := by
  unfold Slot.step at h
  split at h
  · rename_i s data timestamp
    obtain ⟨port', s', rfl, hport⟩ := step_eventReceive (T := T) h
    rcases Port.handleEventReceive_cases hport with ⟨-, rfl, -⟩ | ⟨message, hmessage, hport⟩
    · exact .same rfl
    · exact bmcaStep_of_registersIn (Or.inl ⟨timestamp, s, data, rfl, hmessage⟩)
        (Port.handleEventMessage_registersIn hport)
  · rename_i s data
    obtain ⟨port', s', rfl, hport⟩ := step_generalReceive (T := T) h
    rcases Port.handleGeneralReceive_cases hport with ⟨-, rfl, -⟩ | ⟨message, hmessage, hport⟩
    · exact .same rfl
    · exact bmcaStep_of_registersIn (Or.inr ⟨s, data, rfl, hmessage⟩)
        (Port.handleGeneralInternal_registersIn hport)
  · rename_i s context timestamp
    obtain ⟨⟨port, actions₁⟩, hport, h⟩ := bind_eq_ok.mp h
    obtain ⟨rfl, -⟩ := Prod.mk.inj (Except.ok.inj h)
    have hport := orPanic_eq_ok.mp hport
    cases context with
    | sync id => exact .same (Port.handleSyncTimestamp_quiet hport).bmca
    | delayReq id => exact .same (Port.handleDelayTimestamp_quiet hport).bmca
    | pDelayReq id => exact .same (Port.handlePdelayTimestamp_quiet hport).bmca
    | pDelayResp id requestor => exact .same (Port.handlePdelayResponseTimestamp_quiet hport).bmca
  · obtain ⟨⟨port, provider, actions₁⟩, hport, h⟩ := bind_eq_ok.mp h
    obtain ⟨rfl, -⟩ := Prod.mk.inj (Except.ok.inj h)
    exact .same (Port.sendAnnounce_quiet (orPanic_eq_ok.mp hport)).bmca
  · obtain ⟨⟨port, actions₁⟩, hport, h⟩ := bind_eq_ok.mp h
    obtain ⟨rfl, -⟩ := Prod.mk.inj (Except.ok.inj h)
    exact .same (Port.sendSync_quiet (orPanic_eq_ok.mp hport)).bmca
  · obtain ⟨⟨port, actions₁⟩, hport, h⟩ := bind_eq_ok.mp h
    obtain ⟨rfl, -⟩ := Prod.mk.inj (Except.ok.inj h)
    exact .same (Port.sendDelayRequest_quiet (orPanic_eq_ok.mp hport)).bmca
  · obtain ⟨⟨port, actions₁⟩, hport, h⟩ := bind_eq_ok.mp h
    obtain ⟨rfl, -⟩ := Prod.mk.inj (Except.ok.inj h)
    exact .same (Port.handleAnnounceReceiptTimer_quiet (orPanic_eq_ok.mp hport)).bmca
  · obtain ⟨rfl, -⟩ := Prod.mk.inj (Except.ok.inj h)
    exact .same (Port.handleFilterUpdateTimer_quiet _).bmca
  · obtain ⟨rfl, -⟩ := Prod.mk.inj (Except.ok.inj h)
    exact .same rfl
  · obtain ⟨rfl, -⟩ := Prod.mk.inj (Except.ok.inj h)
    exact .same rfl
  · obtain ⟨port, hport, h⟩ := bind_eq_ok.mp h
    obtain ⟨rfl, -⟩ := Prod.mk.inj (Except.ok.inj h)
    exact .chosen rfl (Port.calculateBest_call (orPanic_eq_ok.mp hport))
  · obtain ⟨⟨port, s⟩, hport, h⟩ := bind_eq_ok.mp h
    obtain ⟨rfl, -⟩ := Prod.mk.inj (Except.ok.inj h)
    exact .same (Port.setRecommendedState_decides (orPanic_eq_ok.mp hport)).bmca
  · obtain ⟨port, hport, h⟩ := bind_eq_ok.mp h
    obtain ⟨rfl, -⟩ := Prod.mk.inj (Except.ok.inj h)
    exact .aged rfl (Port.stepAnnounceAge_call (orPanic_eq_ok.mp hport))
  · cases h

end Slot

end Statime
