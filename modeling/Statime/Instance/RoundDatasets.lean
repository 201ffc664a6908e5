import Statime.Instance.Faulty
import Statime.Instance.Heard
import Statime.Instance.SingleSlave

/-!
# The datasets after a round

The ports are decided about one after the other, and each decision may write the datasets that all
of them share.  Either there is a better clock to follow, and then no decision makes the instance a
grandmaster and the port that received the best message becomes a slave; or there is none, and then
there is no slave and each new master writes the own data.

* `PtpInstanceState.decideState_datasets`: what one decision writes.
* `PtpInstanceState.decideStates_brings`: what one decision keeps or brings about, all of them do.
* `System.datasets_after_bmca`: the datasets of a whole instance.
-/

namespace Statime

open Rust

variable {A R C F T : Type} [AcceptableMasterList A] [Clock C] [Filter F] [Rng R]
  [ForwardedTLVProvider T]

/-- There is a better clock to follow. -/
def Bmca.Outranked (p : Profile) (ownData : InternalDefaultDS) (ebest : Option BestAnnounceMessage)
    (best : BestAnnounceMessage) : Prop :=
  ¬ Bmca.LowClass ownData ∧ Bmca.SupersededBy p ownData ebest best

theorem Bmca.Outranked.unique {p : Profile} {ownData : InternalDefaultDS}
    {ebest : Option BestAnnounceMessage} {best best' : BestAnnounceMessage}
    (h : Bmca.Outranked p ownData ebest best) (h' : Bmca.Outranked p ownData ebest best') :
    best' = best :=
  Option.some.inj (h'.2.eq_some.symm.trans h.2.eq_some)

/-- **The port that received the best message** is told to follow. -/
theorem Bmca.calculateRecommendedState_best {p : Profile} {ownData : InternalDefaultDS}
    {best : BestAnnounceMessage} {portState : PortState}
    (h : Bmca.Outranked p ownData (some best) best) :
    Bmca.calculateRecommendedState p ownData (some best) (some best) portState =
      .ok (some (.s1 best.message)) := by
  obtain ⟨hclass, hsuperseded⟩ := h
  have hworse : compareD0Best p (ComparisonDataset.fromOwnData ownData) (some best) =
      .ok (.worse best) := hsuperseded
  have hhigh : calculateRecommendedStateHighClass p ownData (some best) (some best) =
      .ok (.s1 best.message) := by
    rw [calculateRecommendedStateHighClass, hworse]
    exact if_pos rfl
  unfold LowClass at hclass
  rw [calculateRecommendedState, if_neg (by simp), if_neg hclass, hhigh]
  rfl

/-- Such a port follows, unless it is faulty. -/
theorem PortCore.follows_s1 {c : PortCore} {s : PtpInstanceState} {message : AnnounceMessage}
    (h : c.portState ≠ .faulty) :
    { c with portState := c.recommendedState s (.s1 message) }.Follows
      message.header.sourcePortIdentity := by
  unfold recommendedState
  cases hstate : c.portState with
  | faulty => exact absurd hstate h
  | listening | master | passive => exact ⟨_, rfl, rfl⟩
  | slave state =>
    dsimp only
    split
    · rename_i hmaster
      exact ⟨state, rfl, hmaster⟩
    · exact ⟨_, rfl, rfl⟩

namespace PtpInstanceState

variable {p : Profile} {s s' : PtpInstanceState} {ebest : Option BestAnnounceMessage}
  {port port' : Port InBmca A R C F} {best : BestAnnounceMessage}

/-! ### One decision -/

/-- **What one decision writes**: nothing, the own data, or the best message. -/
theorem decideState_datasets (h : s.decideState p ebest port = .ok (port', s')) :
    (s' = s ∧ (∀ master, ¬ port'.core.Follows master) ∧
        (port'.core.portState = .master → ∃ best, Bmca.Outranked p s.defaultDs ebest best)) ∨
      (s'.IsGrandmaster ∧ (∀ master, ¬ port'.core.Follows master) ∧
        ∀ best, ¬ Bmca.Outranked p s.defaultDs ebest best) ∨
      ∃ best, Bmca.Outranked p s.defaultDs ebest best ∧ port.lifecycle.localBest = some best ∧
        s'.AsAnnounced best.message := by
  rcases decideState_cases h with ⟨hrecommended, rfl, rfl⟩ | ⟨state, hrecommended, hset⟩
  · cases Bmca.calculateRecommendedState_recommends hrecommended with
    | stay _ hlistening =>
      have hcore : port'.core.portState = .listening := hlistening
      refine Or.inl ⟨rfl, ?_, fun hmaster => by cases hcore.symm.trans hmaster⟩
      rintro master ⟨slave, hslave, -⟩
      cases hcore.symm.trans hslave
  · have hcore := Port.setRecommendedState_core hset
    have hfollows : (∀ message, state ≠ .s1 message) → ∀ master, ¬ port'.core.Follows master := by
      intro hstate master hmaster
      rw [hcore] at hmaster
      obtain ⟨message, hs1, -⟩ := PortCore.follows_recommended hmaster
      exact hstate message hs1
    cases Bmca.calculateRecommendedState_recommends hrecommended with
    | m1 hclass _ =>
      obtain ⟨port₁, -, hset⟩ := bind_eq_ok.mp hset
      obtain ⟨_, -, hset⟩ := bind_eq_ok.mp hset
      obtain ⟨-, rfl⟩ := Prod.mk.inj (Except.ok.inj hset)
      exact Or.inr (Or.inl ⟨becomeGrandmaster_isGrandmaster s, hfollows (fun _ => by simp),
        fun best hbest => hbest.1 hclass⟩)
    | m2 _ hnot =>
      obtain ⟨port₁, -, hset⟩ := bind_eq_ok.mp hset
      obtain ⟨_, -, hset⟩ := bind_eq_ok.mp hset
      obtain ⟨-, rfl⟩ := Prod.mk.inj (Except.ok.inj hset)
      exact Or.inr (Or.inl ⟨becomeGrandmaster_isGrandmaster s, hfollows (fun _ => by simp),
        fun best hbest => hnot best hbest.2⟩)
    | p1 =>
      obtain ⟨port₁, -, hset⟩ := bind_eq_ok.mp hset
      obtain ⟨-, rfl⟩ := Prod.mk.inj (Except.ok.inj hset)
      refine Or.inl ⟨rfl, hfollows (fun _ => by simp), fun hmaster => ?_⟩
      -- a passive port is no master
      rw [hcore] at hmaster
      simp only [PortCore.recommendedState] at hmaster
      split at hmaster <;> cases hmaster
    | m3 hclass hsuperseded | p2 hclass hsuperseded =>
      obtain ⟨port₁, -, hset⟩ := bind_eq_ok.mp hset
      obtain ⟨-, rfl⟩ := Prod.mk.inj (Except.ok.inj hset)
      exact Or.inl ⟨rfl, hfollows (fun _ => by simp), fun _ => ⟨_, hclass, hsuperseded⟩⟩
    | s1 hclass hsuperseded hbest =>
      obtain ⟨port₁, -, hset⟩ := bind_eq_ok.mp hset
      obtain ⟨_, -, hset⟩ := bind_eq_ok.mp hset
      obtain ⟨s₁, hfollow, hset⟩ := bind_eq_ok.mp hset
      obtain ⟨-, rfl⟩ := Prod.mk.inj (Except.ok.inj hset)
      exact Or.inr (Or.inr ⟨_, ⟨hclass, hsuperseded⟩, hbest, (follow_asAnnounced hfollow).1⟩)

/-- With a better clock, a port that follows wrote its message. -/
theorem decideState_asAnnounced (hbest : Bmca.Outranked p s.defaultDs ebest best)
    (h : s.decideState p ebest port = .ok (port', s'))
    (hs : s.AsAnnounced best.message ∨ ∃ master, port'.core.Follows master) :
    s'.AsAnnounced best.message := by
  rcases decideState_datasets h with ⟨rfl, hnot, -⟩ | ⟨-, -, hnone⟩ | ⟨best', hbest', -, hwritten⟩
  · rcases hs with hbefore | ⟨master, hmaster⟩
    · exact hbefore
    · exact absurd hmaster (hnot master)
  · exact absurd hbest (hnone best)
  · rwa [hbest.unique hbest'] at hwritten

/-- Without one, a port that is a master wrote the own data. -/
theorem decideState_isGrandmaster (hnone : ∀ best, ¬ Bmca.Outranked p s.defaultDs ebest best)
    (h : s.decideState p ebest port = .ok (port', s'))
    (hs : s.IsGrandmaster ∨ port'.core.portState = .master) : s'.IsGrandmaster := by
  rcases decideState_datasets h with ⟨rfl, -, hmaster⟩ | ⟨hown, -⟩ | ⟨best, hbest, -⟩
  · rcases hs with hbefore | hstate
    · exact hbefore
    · obtain ⟨best, hbest⟩ := hmaster hstate
      exact absurd hbest (hnone best)
  · exact hown
  · exact absurd hbest (hnone best)

/-! ### All decisions -/

omit [AcceptableMasterList A] in
/-- **What one decision keeps or brings about, all of them do.** -/
theorem decideStates_brings {W : PtpInstanceState → Prop} {B P : Port InBmca A R C F → Prop}
    {d : InternalDefaultDS}
    (hone : ∀ s port port' s', s.defaultDs = d → P port →
      s.decideState p ebest port = .ok (port', s') → W s ∨ B port' → W s') :
    ∀ {ports ports' : List (Port InBmca A R C F)} {s s' : PtpInstanceState}, s.defaultDs = d →
      (∀ port ∈ ports, P port) → decideStates p ebest s ports = .ok (ports', s') →
      (W s ∨ ∃ port' ∈ ports', B port') → W s' := by
  intro ports
  induction ports with
  | nil =>
    intro ports' s s' _ _ h hs
    obtain ⟨rfl, rfl⟩ := Prod.mk.inj (Except.ok.inj h)
    rcases hs with hbefore | ⟨port', hport', -⟩
    · exact hbefore
    · cases hport'
  | cons port ports ih =>
    intro ports' s s' hd hP h hs
    rw [List.forall_mem_cons] at hP
    obtain ⟨first, s₁, rest, hfirst, hrest, rfl⟩ := decideStates_cons_inv h
    have hd₁ : s₁.defaultDs = d := (decideState_defaultDs hfirst).trans hd
    have hfirst' := hone s port first s₁ hd hP.1 hfirst
    refine ih hd₁ hP.2 hrest ?_
    rcases hs with hbefore | ⟨port', hport', hB⟩
    · exact Or.inl (hfirst' (Or.inl hbefore))
    · rcases List.mem_cons.mp hport' with rfl | htail
      · exact Or.inl (hfirst' (Or.inr hB))
      · exact Or.inr ⟨port', htail, hB⟩

namespace Round

variable {interval : Duration} {ports ports' ports₁ ports₂ : List (Port InBmca A R C F)}

/-- The ages do not change what a port is. -/
theorem mem_decided (h : Round p s s' interval ports ports' ports₁ ports₂ ebest) :
    ∀ port' ∈ ports', ∃ port₂ ∈ ports₂, port'.core.portState = port₂.core.portState := by
  have hstart : ∀ port ∈ ports₂, port ∈ ports₂ := fun _ hport => hport
  refine forall_mem_of_forall₂ h.age (fun port₂ port' hport hage => ?_) hstart
  obtain ⟨multiportDisable, hcore⟩ := Port.stepAnnounceAge_core hage
  exact ⟨port₂, hport, by rw [hcore]⟩

theorem asAnnounced (h : Round p s s' interval ports ports' ports₁ ports₂ ebest)
    (hbest : Bmca.Outranked p s.defaultDs ebest best)
    (hslave : ∃ port' ∈ ports', ∃ master, port'.core.Follows master) :
    s'.AsAnnounced best.message := by
  obtain ⟨port', hport', master, state, hstate, hmaster⟩ := hslave
  obtain ⟨port₂, hport₂, hsame⟩ := h.mem_decided port' hport'
  refine decideStates_brings (W := fun s => s.AsAnnounced best.message)
    (B := fun port => ∃ master, port.core.Follows master) (P := fun _ => True) ?_ rfl
    (fun _ _ => trivial) h.decide (Or.inr ⟨port₂, hport₂, master, state, ?_, hmaster⟩)
  · intro s₁ port port' s₂ hd _ hdecide hs
    exact decideState_asAnnounced (by rwa [hd]) hdecide hs
  · rw [← hsame, hstate]

theorem isGrandmaster (h : Round p s s' interval ports ports' ports₁ ports₂ ebest)
    (hnone : ∀ best, ¬ Bmca.Outranked p s.defaultDs ebest best)
    (hmaster : ∃ port' ∈ ports', port'.core.portState = .master) : s'.IsGrandmaster := by
  obtain ⟨port', hport', hstate⟩ := hmaster
  obtain ⟨port₂, hport₂, hsame⟩ := h.mem_decided port' hport'
  refine decideStates_brings (W := IsGrandmaster) (B := fun port => port.core.portState = .master)
    (P := fun _ => True) ?_ rfl (fun _ _ => trivial) h.decide
    (Or.inr ⟨port₂, hport₂, by rw [← hsame, hstate]⟩)
  intro s₁ port port' s₂ hd _ hdecide hs
  exact decideState_isGrandmaster (by rwa [hd]) hdecide hs

/-- **With a better clock to follow there is a slave**: the port that received the best message is
neither master-only nor faulty. -/
theorem exists_slave (h : Round p s s' interval ports ports' ports₁ ports₂ ebest)
    (hbest : Bmca.Outranked p s.defaultDs ebest best) :
    ∃ port' ∈ ports', ∃ master, port'.core.Follows master := by
  obtain rfl := hbest.2.eq_some
  obtain ⟨source, hsource, hfound⟩ := List.mem_filterMap.mp (maxBy_mem h.chosen)
  obtain ⟨hfaulty, hlocal⟩ : source.portState ≠ .faulty ∧ source.lifecycle.localBest = some best := by
    unfold Port.bestLocalAnnounceMessageForBmca at hfound
    split at hfound
    · cases hfound
    · rename_i hnot
      exact ⟨fun heq => hnot (Or.inr heq), hfound⟩
  obtain ⟨i, hi⟩ := List.mem_iff_getElem?.mp hsource
  obtain ⟨port₂, hport₂, s₁, s₂, hd, hdecide⟩ :=
    forall₂_getElem? (decideStates_decided h.decide).1 hi
  obtain ⟨port', hport', hage⟩ := forall₂_getElem? h.age hport₂
  obtain ⟨multiportDisable, hcore⟩ := Port.stepAnnounceAge_core hage
  refine ⟨port', List.mem_of_getElem? hport', best.message.header.sourcePortIdentity, ?_⟩
  have hs1 : Bmca.calculateRecommendedState p s₁.defaultDs (some best) source.lifecycle.localBest
      source.portState = .ok (some (.s1 best.message)) := by
    rw [hlocal, hd]
    exact Bmca.calculateRecommendedState_best hbest
  rcases decideState_cases hdecide with ⟨hrecommended, -⟩ | ⟨state, hrecommended, hset⟩
  · cases Except.ok.inj (hs1.symm.trans hrecommended)
  · obtain rfl := Option.some.inj (Except.ok.inj (hs1.symm.trans hrecommended))
    have hfollows : port₂.core.Follows best.message.header.sourcePortIdentity := by
      rw [Port.setRecommendedState_core hset]
      exact PortCore.follows_s1 hfaulty
    rw [hcore]
    exact hfollows

/-- **A slave after a round** received the best message, and holds it before the round. -/
theorem follows_getElem? (h : Round p s s' interval ports ports' ports₁ ports₂ ebest) {i : Nat}
    {port' : Port InBmca A R C F} (hport' : ports'[i]? = some port') {master : PortIdentity}
    (hmaster : port'.core.Follows master) :
    ∃ (port : Port InBmca A R C F) (best : BestAnnounceMessage), ports[i]? = some port ∧
      Bmca.Outranked p s.defaultDs ebest best ∧ port.erbest p = some best ∧
      port.bmca.Holds best.header best.message := by
  have hlength : ports'.length = ports.length := by
    have hmap := congrArg List.length h.portIdentities
    rwa [List.length_map, List.length_map] at hmap
  have hi : i < ports.length := by
    rw [← hlength]
    exact (List.getElem?_eq_some_iff.mp hport').1
  have hport : ports[i]? = some ports[i] := List.getElem?_eq_getElem hi
  obtain ⟨port₁, hport₁, hbest₁⟩ := forall₂_getElem? h.best hport
  obtain ⟨port₂, hport₂, s₁, s₂, hd, hdecide⟩ :=
    forall₂_getElem? (decideStates_decided h.decide).1 hport₁
  obtain ⟨port₃, hport₃, hage⟩ := forall₂_getElem? h.age hport₂
  obtain rfl := Option.some.inj (hport₃.symm.trans hport')
  obtain ⟨multiportDisable, hcore⟩ := Port.stepAnnounceAge_core hage
  rw [hcore] at hmaster
  have hmaster₂ : port₂.core.Follows master := hmaster
  obtain ⟨best, hclass, hsuperseded, hlocal, -⟩ := decideState_follows hdecide hmaster₂
  rw [hd] at hclass hsuperseded
  refine ⟨ports[i], best, hport, ⟨hclass, hsuperseded⟩, ?_,
    (Port.calculateBest_keeps hbest₁).2 best hlocal⟩
  rw [← (Port.calculateBest_erbest hbest₁).1, hlocal]

end Round

end PtpInstanceState

/-! ### The whole instance -/

namespace System

variable {p : Profile} {sys sys' : System A R C F} {actions : PortActionIterator}

/-- **The datasets after a round of the best master clock algorithm.**  When some port is a slave,
they are those of the best message, which was received on that port; when some port is a master and
none is a slave, the instance is its own grandmaster. -/
theorem datasets_after_bmca {log : List (Machine.Transition (System A R C F) (Event A R C F T))}
    (htrace : Machine.Trace (System.step p) System.Initial log sys)
    (h : sys.step p (.bmca : Event A R C F T) = .ok (sys', actions)) :
    ∃ ports, allInBmca sys.ports = some ports ∧
      (∀ (i : Nat) (slot' : Slot A R C F), sys'.ports[i]? = some slot' → slot'.isSlave = true →
        ∃ (port : Port InBmca A R C F) (best : BestAnnounceMessage), ports[i]? = some port ∧
          port.erbest p = some best ∧ PtpInstanceState.ebestOf p ports = some best ∧
          Heard log port.core best.header best.message ∧ sys'.state.AsAnnounced best.message ∧
          sys'.state.currentDs.stepsRemoved.toNat = best.message.stepsRemoved.toNat + 1) ∧
      ((∃ slot' ∈ sys'.ports, slot'.core.portState = .master) →
        (∀ slot' ∈ sys'.ports, slot'.isSlave = false) → sys'.state.IsGrandmaster) := by
  have hr : System.Reachable T p sys := htrace.reachable
  obtain ⟨ports, interval, ports', hall, hbmca, hports⟩ := step_bmca h
  obtain ⟨ports₁, ports₂, ebest, hround⟩ := PtpInstanceState.bmca_eq_ok hbmca
  refine ⟨ports, hall, ?_, ?_⟩
  · intro i slot' hslot' hslave
    rw [hports, List.getElem?_map] at hslot'
    obtain ⟨port', hport', rfl⟩ := Option.map_eq_some_iff.mp hslot'
    obtain ⟨master, hmaster⟩ := Slot.isSlave_iff.mp hslave
    obtain ⟨port, best, hport, hbest, herbest, hheld⟩ := hround.follows_getElem? hport' hmaster
    have hslot : Slot.inBmca port ∈ sys.ports := by
      rw [allInBmca_eq_some hall]
      exact List.mem_map_of_mem (List.mem_of_getElem? hport)
    have hannounced := hround.asAnnounced hbest
      ⟨port', List.mem_of_getElem? hport', master, hmaster⟩
    refine ⟨port, best, hport, herbest, ?_, heard_of_holds htrace _ hslot _ _ hheld, hannounced, ?_⟩
    · rw [PtpInstanceState.Prepared.ebestOf_eq hround.best hround.chosen, hbest.2.eq_some]
    · have hsteps : best.message.stepsRemoved.toNat < 255 := ((hr.slot _ hslot).held _ _ hheld).2
      have hone : (1 : UInt16).toNat = 1 := rfl
      rw [hannounced.stepsRemoved, UInt16.toNat_add]
      omega
  · rintro ⟨slot', hslot', hmaster⟩ hnoSlave
    rw [hports] at hslot' hnoSlave
    obtain ⟨port', hport', rfl⟩ := List.mem_map.mp hslot'
    refine hround.isGrandmaster (fun best hbest => ?_) ⟨port', hport', hmaster⟩
    obtain ⟨slave, hslave, master, hfollows⟩ := hround.exists_slave hbest
    have hfalse := hnoSlave _ (List.mem_map_of_mem hslave)
    have htrue : (Slot.inBmca slave).isSlave = true := Slot.isSlave_iff.mpr ⟨master, hfollows⟩
    cases htrue.symm.trans hfalse

/-- Whether a round makes the second port a slave. -/
def slaveAfterBmca (sys : TestSystem) : Bool :=
  match System.step .debug sys (.bmca : TestEvent) with
  | .ok (sys', _) => sys'.ports[1]?.any Slot.isSlave
  | .error _ => false

/-- Two ports, the second of which becomes a slave. -/
theorem datasets_after_bmca_two_ports :
    ∃ (log : List (Machine.Transition TestSystem TestEvent)) (sys sys' : TestSystem)
      (ports : List (Port InBmca AcceptAnyMaster TestRng TestClock TestFilter))
      (port : Port InBmca AcceptAnyMaster TestRng TestClock TestFilter) (best : BestAnnounceMessage),
      Machine.Trace (System.step .debug) System.Initial log sys ∧
        allInBmca sys.ports = some ports ∧ ports[1]? = some port ∧
        PtpInstanceState.ebestOf .debug ports = some best ∧
        Heard log port.core best.header best.message ∧ sys'.state.AsAnnounced best.message := by
  have hrun : Machine.endsWith (System.step .debug) (testSystem testInstanceConfig)
      ([.addPort testPortConfig () ⟨⟩ ⟨⟩, .addPort testPortConfig () ⟨⟩ ⟨⟩, .endBmca 1,
        .generalReceive 1 (announceBytes 9 1 64 0), .generalReceive 1 (announceBytes 9 1 64 1),
        .startBmca 1] : List TestEvent) slaveAfterBmca = true := by
    decide +kernel
  obtain ⟨sys, hreach, hcheck⟩ := System.reachable_of_endsWith hrun
  obtain ⟨log, htrace⟩ := Machine.Reachable.exists_trace hreach
  unfold slaveAfterBmca at hcheck
  split at hcheck
  · rename_i sys' actions hstep
    rw [Option.any_eq_true] at hcheck
    obtain ⟨slot', hslot', hslave⟩ := hcheck
    obtain ⟨ports, hall, hslaves, -⟩ := datasets_after_bmca htrace hstep
    obtain ⟨port, best, hport, -, hebest, hheard, hannounced, -⟩ := hslaves 1 slot' hslot' hslave
    exact ⟨log, sys, sys', ports, port, best, htrace, hall, hport, hebest, hheard, hannounced⟩
  · cases hcheck

end System

end Statime
