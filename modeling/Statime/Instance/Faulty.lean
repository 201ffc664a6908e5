import Statime.Instance.Round

/-!
# Faulty ports

Responses of several devices to one peer delay request disable a port: it becomes faulty, until a
complete peer delay measurement recovers it.  Three calls take a faulty port out of this state
without such a measurement.

* `Slot.faulty_step_iff`: a step of a faulty port.
* `System.faulty_until_recovered_iff`: in a run all faulty ports stay disabled until they recover
  if and only if none of its steps is such a call.
* `System.faulty_port_becomes_master`: a faulty port becomes master when the announce receipt timer
  expires.
-/

namespace Statime

open Rust

variable {A R C F T : Type} [AcceptableMasterList A] [Clock C] [Filter F] [Rng R]

/-! ### What enables a faulty port again -/

def RecommendedState.isMaster : RecommendedState → Bool
  | .m1 _ | .m2 _ | .m3 _ => true
  | _ => false

namespace PortCore

/-- The bytes are an announce message that makes the port passive. -/
def receivesLowerPort (c : PortCore) (s : PtpInstanceState) (data : List UInt8) : Bool :=
  match Port.parseAndFilter s data with
  | .ok (some message) =>
    match message.body with
    | .announce announce => c.isFromLowerPort message announce
    | _ => false
  | _ => false

/-- **The calls that enable a faulty port** without a measurement: the announce receipt timer, an
announce message of a lower port of the own clock, and the recommendation to be master while the
port is disabled because of such a message. -/
def reenabledBy (c : PortCore) : PortEvent T → Bool
  | .announceReceiptTimer _ => true
  | .eventReceive s data _ | .generalReceive s data => c.receivesLowerPort s data
  | .recommend s state =>
    !s.defaultDs.slaveOnly && c.multiportDisable.isSome && state.isMaster
  | _ => false

/-- A peer delay measurement was completed between the two states. -/
def MeasuredPeerDelay (c c' : PortCore) : Prop :=
  ∃ m : Measurement, c'.handed = c.handed ++ [m] ∧ m.peerDelay.isSome = true

/-- Disabled as before, or recovered. -/
def StaysFaulty (c c' : PortCore) : Prop :=
  c'.portState = .faulty ∨ c.MeasuredPeerDelay c'

variable {p : Profile} {e : PortEvent T} {c c' : PortCore} {s : PtpInstanceState}
  {message : Message} {announce : AnnounceMessage} {data : List UInt8}

theorem receivesLowerPort_of_parse (hparse : Port.parseAndFilter s data = .ok (some message))
    (hbody : message.body = .announce announce) :
    c.receivesLowerPort s data = c.isFromLowerPort message announce := by
  rw [receivesLowerPort, hparse]
  dsimp only
  rw [hbody]

theorem reenabledBy_of_receives (he : e.Receives message)
    (hbody : message.body = .announce announce)
    (hlower : c.isFromLowerPort message announce = true) : c.reenabledBy e = true := by
  rcases he with ⟨timestamp, s, data, rfl, hparse⟩ | ⟨s, data, rfl, hparse⟩
  · rwa [reenabledBy, receivesLowerPort_of_parse hparse hbody]
  · rwa [reenabledBy, receivesLowerPort_of_parse hparse hbody]

theorem Stores.faulty (h : Stores p e c c') (hc : c.portState = .faulty) :
    c'.portState = .faulty ∧ c'.handed = c.handed := by
  cases h with
  | sync hstate | delay hstate => cases hc.symm.trans hstate
  | peerRequest | peerResponse => exact ⟨hc, rfl⟩

theorem Measures.faulty (h : Measures p c c') (hc : c.portState = .faulty) : c.StaysFaulty c' := by
  cases h with
  | idle => exact Or.inl hc
  | peer => exact Or.inr ⟨_, rfl, rfl⟩
  | sync _ hstate | delay _ hstate => cases hc.symm.trans hstate

theorem recommendedState_faulty (hc : c.portState = .faulty) (state : RecommendedState) :
    c.recommendedState s state =
      if c.reenabledBy (.recommend s state : PortEvent T) = true then .passive else .faulty := by
  unfold recommendedState reenabledBy
  rw [hc]
  cases state with
  | s1 | p1 | p2 => simp [RecommendedState.isMaster]
  | m1 | m2 | m3 =>
    by_cases hslaveOnly : s.defaultDs.slaveOnly = true
    · simp [hslaveOnly]
    · by_cases hdisabled : c.multiportDisable.isSome = true
      · simp [hslaveOnly, hdisabled, RecommendedState.isMaster]
      · simp [hslaveOnly, hdisabled]

/-- **A faulty port stays disabled** in every other step. -/
theorem Step.staysFaulty (h : Step p e c c') (hc : c.portState = .faulty)
    (he : c.reenabledBy e = false) : c.StaysFaulty c' := by
  cases h with
  | keep | age | requestPeerDelay => exact Or.inl hc
  | measure hstores hmeasures =>
    obtain ⟨hfaulty, hhanded⟩ := hstores.faulty hc
    rcases hmeasures.faulty hfaulty with hstays | ⟨m, hm, hpeer⟩
    · exact Or.inl hstays
    · exact Or.inr ⟨m, by rw [hm, hhanded], hpeer⟩
  | firstSync hstate | requestDelay _ hstate => cases hc.symm.trans hstate
  | fault => exact Or.inl rfl
  | timeout htimer =>
    rw [htimer] at he
    cases he
  | disable hreceives hbody hlower =>
    rw [reenabledBy_of_receives hreceives hbody hlower] at he
    cases he
  | recommended hrecommend =>
    left
    rw [hrecommend] at he
    dsimp only
    rw [recommendedState_faulty (T := T) hc, if_neg (by rw [he]; decide)]

/-- The state was left without a measurement. -/
theorem not_staysFaulty (hstate : c'.portState ≠ .faulty) (hhanded : c'.handed = c.handed) :
    ¬ c.StaysFaulty c' := by
  rintro (hfaulty | ⟨m, hm, -⟩)
  · exact hstate hfaulty
  · rw [hhanded] at hm
    exact List.cons_ne_nil _ _ (List.self_eq_append_right.mp hm)

end PortCore

/-! ### One port -/

namespace Port

variable {p : Profile} {s s' : PtpInstanceState} {port port' : Port Running A R C F}
  {actions : PortActionIterator} {message : Message} {announce : AnnounceMessage}

/-- A faulty port steers no clock, so the path trace is not looked at. -/
theorem handleAnnounce_faulty (hport : port.portState = .faulty)
    (h : port.handleAnnounce p s message announce = .ok (port', s', actions)) :
    port'.core =
      if port.core.isFromLowerPort message announce then port.core.disabled else port.core := by
  have hparent : port.isFromParent s announce = false := by
    rw [isFromParent, isSteering, hport, Bool.false_and]
  obtain ⟨⟨s₁, loop⟩, hupdate, h⟩ := bind_eq_ok.mp h
  rw [updateDatasets, hparent, if_neg (by decide)] at hupdate
  obtain ⟨rfl, rfl⟩ := Prod.mk.inj (Except.ok.inj hupdate)
  obtain ⟨⟨port₁, actions₁⟩, hregister, h⟩ := bind_eq_ok.mp h
  obtain ⟨rfl, -⟩ := Prod.mk.inj (Except.ok.inj h)
  exact registerAnnounce_core hregister

/-- A received announce message of a lower port. -/
theorem handleGeneralInternal_faulty (hport : port.portState = .faulty)
    (hbody : message.body = .announce announce)
    (hlower : port.core.isFromLowerPort message announce = true)
    (h : port.handleGeneralInternal p s message = .ok (port', s', actions)) :
    ¬ port.core.StaysFaulty port'.core := by
  unfold handleGeneralInternal at h
  rw [hbody] at h
  rw [handleAnnounce_faulty hport h, if_pos hlower]
  exact PortCore.not_staysFaulty (by simp [PortCore.disabled]) rfl

end Port

/-- The announce message that the bytes are. -/
theorem PortCore.announce_of_receivesLowerPort {c : PortCore} {s : PtpInstanceState}
    {data : List UInt8} (h : c.receivesLowerPort s data = true) :
    ∃ message announce, Port.parseAndFilter s data = .ok (some message) ∧
      message.body = .announce announce ∧ c.isFromLowerPort message announce = true := by
  unfold receivesLowerPort at h
  split at h
  · rename_i message hparse
    split at h
    · rename_i announce hbody
      exact ⟨message, announce, hparse, hbody, h⟩
    · cases h
  · cases h

variable [ForwardedTLVProvider T]

/-- Such a call does enable the port. -/
theorem Slot.not_staysFaulty {p : Profile} {slot slot' : Slot A R C F} {e : PortEvent T}
    {actions : PortActionIterator} (hslot : slot.core.portState = .faulty)
    (h : slot.step p e = .ok (slot', actions)) (he : slot.core.reenabledBy e = true) :
    ¬ slot.core.StaysFaulty slot'.core := by
  cases e with
  | sendTimestamp | announceTimer | syncTimer | delayRequestTimer | filterUpdateTimer | startBmca
  | endBmca | calculateBest | stepAge => cases he
  | announceReceiptTimer s =>
    cases slot with
    | inBmca port => cases h
    | running port =>
      obtain ⟨⟨port', actions'⟩, hport, h⟩ := bind_eq_ok.mp h
      obtain ⟨rfl, -⟩ := Prod.mk.inj (Except.ok.inj h)
      rw [Slot.core, Slot.core, Port.handleAnnounceReceiptTimer_core (orPanic_eq_ok.mp hport)]
      refine PortCore.not_staysFaulty ?_ rfl
      dsimp only
      split <;> decide
  | eventReceive s data timestamp =>
    cases slot with
    | inBmca port => cases h
    | running port =>
      obtain ⟨port', s', rfl, hport⟩ := step_eventReceive h
      obtain ⟨message, announce, hparse, hbody, hlower⟩ :=
        PortCore.announce_of_receivesLowerPort he
      rw [Port.handleEventReceive, hparse, ok_bind] at hport
      dsimp only at hport
      unfold Port.handleEventMessage at hport
      rw [hbody] at hport
      exact Port.handleGeneralInternal_faulty hslot hbody hlower hport
  | generalReceive s data =>
    cases slot with
    | inBmca port => cases h
    | running port =>
      obtain ⟨port', s', rfl, hport⟩ := step_generalReceive h
      obtain ⟨message, announce, hparse, hbody, hlower⟩ :=
        PortCore.announce_of_receivesLowerPort he
      rw [Port.handleGeneralReceive, hparse, ok_bind] at hport
      exact Port.handleGeneralInternal_faulty hslot hbody hlower hport
  | recommend s state =>
    cases slot with
    | running port => cases h
    | inBmca port =>
      obtain ⟨⟨port', s'⟩, hport, h⟩ := bind_eq_ok.mp h
      obtain ⟨rfl, -⟩ := Prod.mk.inj (Except.ok.inj h)
      rw [Slot.core, Slot.core, Port.setRecommendedState_core (orPanic_eq_ok.mp hport)]
      refine PortCore.not_staysFaulty ?_ rfl
      dsimp only
      have hfaulty : port.core.portState = .faulty := hslot
      have hreenabled : port.core.reenabledBy (.recommend s state : PortEvent T) = true := he
      rw [PortCore.recommendedState_faulty (T := T) hfaulty, if_pos hreenabled]
      decide

/-- **A step of a faulty port.** -/
theorem Slot.faulty_step_iff {p : Profile} {slot slot' : Slot A R C F} {e : PortEvent T}
    {actions : PortActionIterator} (hslot : slot.core.portState = .faulty)
    (h : slot.step p e = .ok (slot', actions)) :
    slot.core.StaysFaulty slot'.core ↔ slot.core.reenabledBy e = false := by
  constructor
  · intro hstays
    by_contra he
    exact Slot.not_staysFaulty hslot h (by simpa using he) hstays
  · exact (Slot.step_core h).staysFaulty hslot

/-! ### The ports of an instance -/

/-- The port at the first place is at the second one after the step. -/
def Event.Moves (i j : Nat) : Event A R C F T → Prop
  | .reorder order => order[j]? = some i
  | _ => i = j

/-- Related lists, read at one place. -/
theorem forall₂_getElem? {α β : Type} {r : α → β → Prop} {xs : List α} {ys : List β}
    (h : List.Forall₂ r xs ys) : ∀ {i : Nat} {x : α}, xs[i]? = some x →
      ∃ y, ys[i]? = some y ∧ r x y := by
  induction h with
  | nil =>
    intro i x hx
    cases hx
  | cons hr _ ih =>
    intro i x hx
    cases i with
    | zero =>
      obtain rfl := Option.some.inj hx
      exact ⟨_, rfl, hr⟩
    | succ i => exact ih hx

/-- A list read at some of its places. -/
theorem getElem?_filterMap_getElem? {α : Type} (xs : List α) :
    ∀ (order : List Nat) (j : Nat), (∀ k ∈ order, k < xs.length) →
      (order.filterMap (xs[·]?))[j]? = order[j]?.bind (xs[·]?) := by
  intro order
  induction order with
  | nil =>
    intro j _
    rfl
  | cons k order ih =>
    intro j hall
    rw [List.forall_mem_cons] at hall
    rw [List.filterMap_cons, List.getElem?_eq_getElem hall.1]
    cases j with
    | zero => simp [hall.1]
    | succ j => simpa using ih j hall.2

namespace PtpInstanceState

/-- What the algorithm recommends to a port, as the state before a round decides. -/
def recommendation (p : Profile) (s : PtpInstanceState) (ports : List (Port InBmca A R C F))
    (port : Port InBmca A R C F) : Except Panic (Option RecommendedState) :=
  Bmca.calculateRecommendedState p s.defaultDs (ebestOf p ports) (port.erbest p) port.portState

variable {p : Profile} {s s' : PtpInstanceState} {interval : Duration}
  {ports ports' : List (Port InBmca A R C F)}

/-- **A port in a round**: its state is the recommended one, and its messages get older. -/
theorem bmca_getElem? (h : s.bmca p ports interval = .ok (ports', s')) {i : Nat}
    {port port' : Port InBmca A R C F} (hport : ports[i]? = some port)
    (hport' : ports'[i]? = some port') :
    ∃ recommended multiportDisable, s.recommendation p ports port = .ok recommended ∧
      port'.core = { port.core with
        portState := (recommended.map (port.core.recommendedState s)).getD port.portState
        multiportDisable } := by
  obtain ⟨ports₁, ports₂, ebest, hround⟩ := bmca_eq_ok h
  obtain ⟨port₁, hport₁, hbest⟩ := forall₂_getElem? hround.best hport
  obtain ⟨port₂, hport₂, s₁, s₂, hdefault, hdecide⟩ :=
    forall₂_getElem? (decideStates_decided hround.decide).1 hport₁
  obtain ⟨port₃, hport₃, hage⟩ := forall₂_getElem? hround.age hport₂
  obtain rfl := Option.some.inj (hport₃.symm.trans hport')
  obtain ⟨hlocal, hstate, -⟩ := Port.calculateBest_erbest hbest
  have hcore := (Port.calculateBest_core hbest).1
  have hrecommendation : Bmca.calculateRecommendedState p s₁.defaultDs ebest
      port₁.lifecycle.localBest port₁.portState = s.recommendation p ports port := by
    rw [recommendation, hdefault, hlocal, hstate, Prepared.ebestOf_eq hround.best hround.chosen]
  obtain ⟨multiportDisable, hage⟩ := Port.stepAnnounceAge_core hage
  rcases decideState_cases hdecide with ⟨hrecommended, rfl, -⟩ | ⟨state, hrecommended, hset⟩
  · refine ⟨none, multiportDisable, hrecommendation.symm.trans hrecommended, ?_⟩
    rw [hage, hcore]
    rfl
  · refine ⟨some state, multiportDisable, hrecommendation.symm.trans hrecommended, ?_⟩
    rw [hage, Port.setRecommendedState_core hset, hcore, PortCore.recommendedState_congr _ hdefault]
    rfl

end PtpInstanceState

namespace System

variable {p : Profile} {sys sys' : System A R C F} {e : Event A R C F T}
  {actions : PortActionIterator}

/-- Whether the event enables the faulty port at this place without a measurement. -/
def reenables (p : Profile) (sys : System A R C F) (e : Event A R C F T) (i : Nat)
    (slot : Slot A R C F) : Bool :=
  match e.onPort sys.state, e, slot, allInBmca sys.ports with
  | some (j, e'), _, _, _ => decide (i = j) && slot.core.reenabledBy e'
  | none, .bmca, .inBmca port, some ports =>
    match sys.state.recommendation p ports port with
    | .ok (some state) =>
      slot.core.reenabledBy (.recommend sys.state state : PortEvent T)
    | _ => false
  | _, _, _, _ => false

/-- **Faulty ports stay disabled** in the step, until a measurement recovers them. -/
def KeepsFaulty (sys : System A R C F) (e : Event A R C F T) (sys' : System A R C F) : Prop :=
  ∀ i j slot slot', e.Moves i j → sys.ports[i]? = some slot → sys'.ports[j]? = some slot' →
    slot.core.portState = .faulty → slot.core.StaysFaulty slot'.core

/-- No faulty port is enabled by the event. -/
def ReenablesNone (p : Profile) (sys : System A R C F) (e : Event A R C F T) : Prop :=
  ∀ i slot, sys.ports[i]? = some slot → slot.core.portState = .faulty →
    sys.reenables p e i slot = false

instance (p : Profile) (sys : System A R C F) (e : Event A R C F T) :
    Decidable (sys.ReenablesNone p e) :=
  decidable_of_iff (∀ x ∈ sys.ports.zipIdx, x.1.core.portState = .faulty →
      sys.reenables p e x.2 x.1 = false)
    ⟨fun h i slot hi => h (slot, i) (List.mem_zipIdx_iff_getElem?.mpr hi),
      fun h x hx => h x.2 x.1 (List.mem_zipIdx_iff_getElem?.mp hx)⟩

/-- The ports in a step that is neither a call on a port nor a round. -/
theorem step_moves (he : e.onPort sys.state = none) (hbmca : e ≠ .bmca)
    (h : sys.step p e = .ok (sys', actions)) {i j : Nat} (hmoves : e.Moves i j)
    (hi : i < sys.ports.length) : sys'.ports[j]? = sys.ports[i]? := by
  cases e with
  | startBmca | endBmca | eventReceive | generalReceive | announceTimer | syncTimer
  | delayRequestTimer | announceReceiptTimer | filterUpdateTimer | sendTimestamp => cases he
  | bmca => exact absurd rfl hbmca
  | addPort config filterConfig clock rng =>
    obtain rfl : i = j := hmoves
    obtain ⟨sys₁, hsys₁, h⟩ := bind_eq_ok.mp h
    obtain ⟨rfl, -⟩ := Prod.mk.inj (Except.ok.inj h)
    obtain ⟨numberPorts, -, hsys₁⟩ := bind_eq_ok.mp (orPanic_eq_ok.mp hsys₁)
    obtain ⟨port, -, hsys₁⟩ := bind_eq_ok.mp hsys₁
    obtain rfl := Except.ok.inj hsys₁
    exact List.getElem?_append_left hi
  | reorder order =>
    simp only [step] at h
    split at h
    · rename_i hperm
      obtain ⟨rfl, -⟩ := Prod.mk.inj (Except.ok.inj h)
      have hall : ∀ k ∈ order, k < sys.ports.length := fun k hk =>
        List.mem_range.mp (hperm.mem_iff.mp hk)
      have hplace : order[j]? = some i := hmoves
      rw [getElem?_filterMap_getElem? sys.ports order j hall, hplace, Option.bind_some]
    · cases h
  | setClockQuality | setSlaveOnly =>
    obtain rfl : i = j := hmoves
    obtain ⟨rfl, -⟩ := Prod.mk.inj (Except.ok.inj h)
    rfl

/-- Every port has a place after the step. -/
theorem exists_moves (h : sys.step p e = .ok (sys', actions)) {i : Nat}
    (hi : i < sys.ports.length) : ∃ j, e.Moves i j := by
  cases e with
  | reorder order =>
    simp only [step] at h
    split at h
    · rename_i hperm
      exact List.mem_iff_getElem?.mp (hperm.mem_iff.mpr (List.mem_range.mpr hi))
    · cases h
  | _ => exact ⟨i, rfl⟩

omit [AcceptableMasterList A] [Clock C] [Rng R] [ForwardedTLVProvider T] in
/-- Only the caller's own rearrangement moves ports. -/
theorem moves_of_onPort {s : PtpInstanceState} {i j : Nat} {target : Nat × PortEvent T}
    (he : e.onPort s = some target) (hmoves : e.Moves i j) : i = j := by
  cases e with
  | reorder order => cases he
  | _ => exact hmoves

/-- A round keeps the number of ports. -/
theorem length_bmca (h : sys.step p (.bmca : Event A R C F T) = .ok (sys', actions)) :
    sys'.ports.length = sys.ports.length := by
  obtain ⟨ports, interval, ports', hall, hbmca, hports⟩ := step_bmca h
  obtain ⟨ports₁, ports₂, ebest, hround⟩ := PtpInstanceState.bmca_eq_ok hbmca
  have hlength := congrArg List.length hround.portIdentities
  rw [List.length_map, List.length_map] at hlength
  rw [hports, allInBmca_eq_some hall, List.length_map, List.length_map, hlength]

/-- There is a port at its place after the step. -/
theorem exists_slot (h : sys.step p e = .ok (sys', actions)) {i : Nat} {slot : Slot A R C F}
    (hi : sys.ports[i]? = some slot) : ∃ j slot', e.Moves i j ∧ sys'.ports[j]? = some slot' := by
  have hlt := (List.getElem?_eq_some_iff.mp hi).1
  obtain ⟨j, hmoves⟩ := exists_moves h hlt
  suffices hsome : ∃ slot', sys'.ports[j]? = some slot' by
    obtain ⟨slot', hj⟩ := hsome
    exact ⟨j, slot', hmoves, hj⟩
  cases he : e.onPort sys.state with
  | some target =>
    obtain ⟨k, e'⟩ := target
    obtain rfl := moves_of_onPort he hmoves
    obtain ⟨old, new, hport⟩ := step_onPort he h
    exact ⟨_, List.getElem?_eq_getElem (by rwa [hport.set, List.length_set])⟩
  | none =>
    by_cases hbmca : e = .bmca
    · subst hbmca
      obtain rfl : i = j := hmoves
      exact ⟨_, List.getElem?_eq_getElem (by rwa [length_bmca h])⟩
    · exact ⟨slot, (step_moves he hbmca h hmoves hlt).trans hi⟩

/-- A faulty port in a round. -/
theorem staysFaulty_bmca_iff (h : sys.step p (.bmca : Event A R C F T) = .ok (sys', actions))
    {i : Nat} {slot slot' : Slot A R C F} (hi : sys.ports[i]? = some slot)
    (hj : sys'.ports[i]? = some slot') (hslot : slot.core.portState = .faulty) :
    slot.core.StaysFaulty slot'.core ↔
      sys.reenables p (.bmca : Event A R C F T) i slot = false := by
  obtain ⟨ports, interval, ports', hall, hbmca, hports⟩ := step_bmca h
  rw [allInBmca_eq_some hall, List.getElem?_map] at hi
  rw [hports, List.getElem?_map] at hj
  obtain ⟨port, hport, rfl⟩ := Option.map_eq_some_iff.mp hi
  obtain ⟨port', hport', rfl⟩ := Option.map_eq_some_iff.mp hj
  obtain ⟨recommended, multiportDisable, hrecommended, hcore⟩ :=
    PtpInstanceState.bmca_getElem? hbmca hport hport'
  have hreenables : sys.reenables p (.bmca : Event A R C F T) i (.inBmca port) =
      recommended.any fun state => port.core.reenabledBy (.recommend sys.state state : PortEvent T) := by
    simp only [reenables, Event.onPort, hall, hrecommended]
    cases recommended <;> rfl
  rw [Slot.core, Slot.core, hreenables, hcore]
  cases recommended with
  | none => exact ⟨fun _ => rfl, fun _ => Or.inl hslot⟩
  | some state =>
    have hfaulty : port.core.portState = .faulty := hslot
    rw [Option.map_some, Option.getD_some, Option.any_some,
      PortCore.recommendedState_faulty (T := T) hfaulty]
    cases hreenabled : port.core.reenabledBy (.recommend sys.state state : PortEvent T) with
    | true =>
      rw [if_pos rfl]
      refine ⟨fun hstays => absurd hstays (PortCore.not_staysFaulty ?_ rfl), fun h => by cases h⟩
      simp
    | false => exact ⟨fun _ => rfl, fun _ => Or.inl rfl⟩

/-- **One faulty port in one step.** -/
theorem staysFaulty_iff (h : sys.step p e = .ok (sys', actions)) {i j : Nat}
    {slot slot' : Slot A R C F} (hmoves : e.Moves i j) (hi : sys.ports[i]? = some slot)
    (hj : sys'.ports[j]? = some slot') (hslot : slot.core.portState = .faulty) :
    slot.core.StaysFaulty slot'.core ↔ sys.reenables p e i slot = false := by
  cases he : e.onPort sys.state with
  | some target =>
    obtain ⟨k, e'⟩ := target
    obtain rfl := moves_of_onPort he hmoves
    obtain ⟨old, new, hport⟩ := step_onPort he h
    rw [hport.set] at hj
    by_cases hk : k = i
    · subst hk
      obtain rfl := Option.some.inj (hport.get.symm.trans hi)
      rw [List.getElem?_set_self (List.getElem?_eq_some_iff.mp hi).1] at hj
      obtain rfl := Option.some.inj hj
      rw [Slot.faulty_step_iff hslot hport.step]
      simp [reenables, he]
    · rw [List.getElem?_set_ne hk] at hj
      obtain rfl := Option.some.inj (hj.symm.trans hi)
      simp [reenables, he, PortCore.StaysFaulty, hslot, Ne.symm hk]
  | none =>
    by_cases hbmca : e = .bmca
    · subst hbmca
      obtain rfl : i = j := hmoves
      exact staysFaulty_bmca_iff h hi hj hslot
    · have hlt := (List.getElem?_eq_some_iff.mp hi).1
      have hsame : slot' = slot := by
        rw [step_moves he hbmca h hmoves hlt, hi] at hj
        exact (Option.some.inj hj).symm
      have hnone : sys.reenables p e i slot = false := by
        unfold reenables
        rw [he]
        cases e <;> first | rfl | exact absurd rfl hbmca
      rw [hsame, hnone]
      exact ⟨fun _ => rfl, fun _ => Or.inl hslot⟩

/-- **One step of an instance.** -/
theorem keepsFaulty_iff (h : sys.step p e = .ok (sys', actions)) :
    sys.KeepsFaulty e sys' ↔ sys.ReenablesNone p e := by
  constructor
  · intro hkeeps i slot hi hslot
    obtain ⟨j, slot', hmoves, hj⟩ := exists_slot h hi
    exact (staysFaulty_iff h hmoves hi hj hslot).mp (hkeeps i j slot slot' hmoves hi hj hslot)
  · intro hnone i j slot slot' hmoves hi hj hslot
    exact (staysFaulty_iff h hmoves hi hj hslot).mpr (hnone i slot hi hslot)

/-- **Faulty ports stay disabled until they recover**, in all steps of a run, if and only if no step
of the run enables one of them. -/
theorem faulty_until_recovered_iff {log : List (Machine.Transition (System A R C F) (Event A R C F T))}
    (h : Machine.Trace (System.step p) System.Initial log sys) :
    (∀ t ∈ log, t.before.KeepsFaulty t.event t.after) ↔
      ∀ t ∈ log, t.before.ReenablesNone p t.event := by
  constructor
  · intro hkeeps t ht
    obtain ⟨-, o, hstep⟩ := h.of_mem t ht
    exact (keepsFaulty_iff hstep).mp (hkeeps t ht)
  · intro hnone t ht
    obtain ⟨-, o, hstep⟩ := h.of_mem t ht
    exact (keepsFaulty_iff hstep).mpr (hnone t ht)

/-- A port with peer-to-peer delay measurements. -/
def peerToPeerConfig : PortConfig AcceptAnyMaster :=
  { testPortConfig with delayMechanism := .p2p ⟨0⟩ }

/-- The bytes of a response from port 1 of the clock with `id` in all bytes of its identity to the
first peer delay request of port 1 of the clock with identity 0. -/
def pDelayRespBytes (id : UInt8) : List UInt8 :=
  [0x03, 0x12] ++ toBE 2 54 ++ [0, 0, 2] ++ List.replicate 13 0 ++ List.replicate 8 id ++
    [0, 1, 0, 0, 5, 0x7f] ++ List.replicate 10 0 ++ List.replicate 8 0 ++ [0, 1]

/-- Two devices answer to one request: the port becomes faulty. -/
def becomeFaulty : List TestEvent :=
  [.addPort peerToPeerConfig () ⟨⟩ ⟨⟩, .endBmca 0, .delayRequestTimer 0,
    .eventReceive 0 (pDelayRespBytes 7) ⟨⟨0⟩⟩, .eventReceive 0 (pDelayRespBytes 8) ⟨⟨0⟩⟩]

def faultyAt (sys : TestSystem) (i : Nat) : Bool :=
  sys.ports[i]?.any fun slot => decide (slot.core.portState = .faulty)

def isSyncTimer : TestEvent → Bool
  | .syncTimer _ => true
  | _ => false

/-- A faulty port that keeps silent. -/
theorem faulty_until_recovered_sync_timer :
    ∃ (log : List (Machine.Transition TestSystem TestEvent)) (sys : TestSystem),
      Machine.Trace (System.step .debug) System.Initial log sys ∧
      (∃ t ∈ log, faultyAt t.before 0 = true) ∧
      ∀ t ∈ log, t.before.KeepsFaulty t.event t.after := by
  have hrun : Machine.checkSteps (System.step .debug)
      (fun t : Machine.Transition TestSystem TestEvent =>
        decide (t.before.ReenablesNone .debug t.event) &&
          (!isSyncTimer t.event || faultyAt t.before 0))
      (testSystem testInstanceConfig) (becomeFaulty ++ [.syncTimer 0]) = true := by
    decide +kernel
  have hinit : System.Initial (testSystem testInstanceConfig) := ⟨_, _, rfl⟩
  obtain ⟨log, sys, htrace, hevents, hall, -⟩ := Machine.Trace.of_checkSteps _ (.init hinit) hrun
  refine ⟨log, sys, htrace, ?_, (faulty_until_recovered_iff htrace).mpr fun t ht => ?_⟩
  · have hlast : (.syncTimer 0 : TestEvent) ∈ log.map (·.event) := by
      rw [hevents]
      exact List.mem_append_right _ List.mem_cons_self
    obtain ⟨t, ht, hevent⟩ := List.mem_map.mp hlast
    have hcheck := hall t ht
    rw [hevent, Bool.and_eq_true] at hcheck
    exact ⟨t, ht, by simpa [isSyncTimer] using hcheck.2⟩
  · have hcheck := hall t ht
    rw [Bool.and_eq_true, decide_eq_true_eq] at hcheck
    exact hcheck.1

/-- Whether the announce receipt timer makes the faulty port a master. -/
def becomesMaster (sys : TestSystem) : Bool :=
  match sys.ports[0]?, sys.step .debug (.announceReceiptTimer 0 : TestEvent) with
  | some slot, .ok (sys', _) =>
    sys'.ports[0]?.any fun slot' => decide (slot.core.portState = .faulty ∧
      slot'.core.portState = .master ∧ slot'.core.handed = slot.core.handed)
  | _, _ => false

/-- **A faulty port becomes master** when the announce receipt timer expires, without any
measurement. -/
theorem faulty_port_becomes_master :
    ∃ (sys sys' : TestSystem) (actions : PortActionIterator),
      System.Reachable NoForwardedTLVs .debug sys ∧
      sys.step .debug (.announceReceiptTimer 0 : TestEvent) = .ok (sys', actions) ∧
      ¬ sys.KeepsFaulty (.announceReceiptTimer 0 : TestEvent) sys' := by
  have hrun : Machine.endsWith (System.step .debug) (testSystem testInstanceConfig) becomeFaulty
      becomesMaster = true := by
    decide +kernel
  obtain ⟨sys, hreach, hcheck⟩ := System.reachable_of_endsWith hrun
  unfold becomesMaster at hcheck
  split at hcheck
  · rename_i slot sys' actions hslot hstep
    rw [Option.any_eq_true] at hcheck
    obtain ⟨slot', hslot', hafter⟩ := hcheck
    obtain ⟨hfaulty, hmaster, hhanded⟩ := of_decide_eq_true hafter
    refine ⟨sys, sys', actions, hreach, hstep, fun hkeeps => ?_⟩
    refine PortCore.not_staysFaulty ?_ hhanded (hkeeps 0 0 slot slot' rfl hslot hslot' hfaulty)
    rw [hmaster]
    decide
  · cases hcheck

end System

end Statime
