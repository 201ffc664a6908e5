import Statime.Bmc.Ranking
import Statime.Instance.Round

/-!
# The assertions of the best master clock algorithm

A round of the algorithm has four debug assertions: one about the number of ports, one that a
slave-only instance is never made a grandmaster, and twice the one that a master-only port is never
made a slave.

* `System.Reachable.grandmaster_assertion`: the assertions hold in a round of a reachable instance
  when the instance is not slave-only, or every port has a reason not to become a master; otherwise
  the round panics.
* `slave_only_assertion_fails`: an instance that was made slave-only while it was a master panics.
-/

namespace Statime

open Rust

/-! ### Computations without assertions -/

section Comparison

variable (p : Profile)

theorem ComparisonDataset.compare_avoids (a b : ComparisonDataset) :
    Avoids .debugAssert (a.compare p b) := by
  unfold ComparisonDataset.compare
  split
  · exact avoids_ok _ _
  · refine Avoids.bind (compareFields_avoids (by decide) p a b) fun ordering _ => ?_
    cases ordering with
    | eq => intro h; cases h
    | lt | gt => exact avoids_ok _ _

namespace Bmca

theorem findBestAnnounceMessage_avoids (messages : List BestAnnounceMessage) :
    Avoids .debugAssert (findBestAnnounceMessage p messages) :=
  maxBy_avoids (fun _ _ => (ComparisonDataset.compare_avoids p _ _).bind fun _ _ => avoids_ok _ _)
    messages

theorem compareD0Best_avoids (d0 : ComparisonDataset) (best : Option BestAnnounceMessage) :
    Avoids .debugAssert (compareD0Best p d0 best) := by
  cases best with
  | none => exact avoids_ok _ _
  | some best =>
    refine (ComparisonDataset.compare_avoids p _ _).bind fun ordering _ => ?_
    split <;> exact avoids_ok _ _

theorem compareGlobalAndPort_avoids (globalMessage portMessage : BestAnnounceMessage) :
    Avoids .debugAssert (compareGlobalAndPort p globalMessage portMessage) := by
  unfold compareGlobalAndPort
  split
  · exact avoids_ok _ _
  · refine (ComparisonDataset.compare_avoids p _ _).bind fun ordering _ => ?_
    split <;> exact avoids_ok _ _

theorem calculateRecommendedState_avoids (ownData : InternalDefaultDS)
    (ebest erbest : Option BestAnnounceMessage) (portState : PortState) :
    Avoids .debugAssert (calculateRecommendedState p ownData ebest erbest portState) := by
  unfold calculateRecommendedState
  split
  · exact avoids_ok _ _
  · split
    · refine Avoids.bind ?_ fun _ _ => avoids_ok _ _
      refine (compareD0Best_avoids p _ _).bind fun comparison _ => ?_
      cases comparison <;> exact avoids_ok _ _
    · refine Avoids.bind ?_ fun _ _ => avoids_ok _ _
      refine (compareD0Best_avoids p _ _).bind fun comparison _ => ?_
      cases comparison with
      | better | same => exact avoids_ok _ _
      | worse best =>
        cases erbest with
        | none => exact avoids_ok _ _
        | some portBest => exact compareGlobalAndPort_avoids p best portBest

theorem reregisterAnnounceMessage_avoids {A : Type} [AcceptableMasterList A] (b : Bmca A)
    (header : Header) (message : AnnounceMessage) (age : Duration) :
    Avoids .debugAssert (b.reregisterAnnounceMessage p header message age) := by
  unfold reregisterAnnounceMessage
  split
  · obtain ⟨l, hl⟩ := b.foreignMasterList.registerAnnounceMessage_total p header message age
    rw [hl]
    exact avoids_ok _ _
  · exact avoids_ok _ _

theorem takeBestPortAnnounceMessage_avoids {A : Type} [AcceptableMasterList A] (b : Bmca A) :
    Avoids .debugAssert (b.takeBestPortAnnounceMessage p) := by
  unfold takeBestPortAnnounceMessage
  refine (findBestAnnounceMessage_avoids p _).bind fun erbest _ => ?_
  cases erbest with
  | none => exact avoids_ok _ _
  | some best =>
    exact (reregisterAnnounceMessage_avoids p _ _ _ _).bind fun _ _ => avoids_ok _ _

end Bmca

end Comparison

section Ages

variable (p : Profile) (step : Duration)

theorem Port.stepAnnounceAge_avoids {A R C F : Type} [Filter F] (port : Port InBmca A R C F) :
    Avoids .debugAssert (port.stepAnnounceAge p step) := by
  refine OnlyOverflows.avoids (p := p) ?_ (by decide)
  refine OnlyOverflows.bind ?_ fun _ _ => OnlyOverflows.bind ?_ fun _ _ => onlyOverflows_ok p _
  · unfold Port.stepMultiportDisable
    split
    · exact (Duration.add_onlyOverflows p _ _).bind fun _ _ =>
        (Duration.fromInterval_onlyOverflows p _).bind fun _ _ => onlyOverflows_ok p _
    · exact onlyOverflows_ok p _
  · refine OnlyOverflows.bind ?_ fun _ _ => onlyOverflows_ok p _
    refine OnlyOverflows.bind ?_ fun _ _ => onlyOverflows_ok p _
    exact ArrayVec.updateM_onlyOverflows _ (ForeignMasterList.stepAgeAll_onlyOverflows p step _ _)

theorem PortConfig.announceDuration_avoids {A R : Type} [Rng R] (config : PortConfig A) (rng : R) :
    Avoids .debugAssert (config.announceDuration rng) := by
  intro h
  cases PortConfig.announceDuration_eq_error h

end Ages

variable {A R C F T : Type} [AcceptableMasterList A] [Clock C] [Filter F] [Rng R]
  [ForwardedTLVProvider T]

/-! ### Why a port does not become a master -/

/-- Whether the own dataset is worse than the message. -/
def Bmca.isSuperseded (p : Profile) (ownData : InternalDefaultDS)
    (optBest : Option BestAnnounceMessage) : Bool :=
  match compareD0Best p (ComparisonDataset.fromOwnData ownData) optBest with
  | .ok (.worse _) => true
  | _ => false

theorem Bmca.isSuperseded_iff {p : Profile} {ownData : InternalDefaultDS}
    {optBest : Option BestAnnounceMessage} :
    isSuperseded p ownData optBest = true ↔ ∃ best, SupersededBy p ownData optBest best := by
  unfold isSuperseded SupersededBy
  constructor
  · intro h
    split at h
    · rename_i best hbest
      exact ⟨best, hbest⟩
    · cases h
  · rintro ⟨best, hbest⟩
    rw [hbest]

namespace PtpInstanceState

/-- **Nobody is made a grandmaster against the settings**: the instance may become a master, or
every port listens without a qualified message, or is kept from it by a better clock.  A clock of a
low class only looks at the port itself. -/
def NoGrandmaster (p : Profile) (s : PtpInstanceState) (ports : List (Port InBmca A R C F)) :
    Prop :=
  s.defaultDs.slaveOnly = false ∨
    ∀ port ∈ ports, (port.erbest p = none ∧ port.portState = .listening) ∨
      Bmca.isSuperseded p s.defaultDs
        (if Bmca.LowClass s.defaultDs then port.erbest p else ebestOf p ports) = true

instance (p : Profile) (s : PtpInstanceState) (ports : List (Port InBmca A R C F)) :
    Decidable (s.NoGrandmaster p ports) :=
  inferInstanceAs (Decidable (_ ∨ _))

/-! ### One decision -/

/-- Neither of the two assertions about the port fails. -/
structure SafeDecision (p : Profile) (ownData : InternalDefaultDS)
    (ebest : Option BestAnnounceMessage) (port : Port InBmca A R C F) : Prop where
  master : ownData.slaveOnly = false ∨
    (port.lifecycle.localBest = none ∧ port.portState = .listening) ∨
    ∃ best, Bmca.SupersededBy p ownData
      (if Bmca.LowClass ownData then port.lifecycle.localBest else ebest) best
  slave : ∀ best, ebest = some best → port.lifecycle.localBest = some best →
    port.config.masterOnly = false

variable {p : Profile} {s s' : PtpInstanceState} {port port' : Port InBmca A R C F}
  {ebest : Option BestAnnounceMessage}

omit [AcceptableMasterList A] in
theorem recommendMaster_avoids (slaveOnly : Bool) :
    Avoids .debugAssert (port.recommendMaster slaveOnly) := by
  unfold Port.recommendMaster
  split
  · split
    · exact avoids_ok _ _
    · exact avoids_ok _ _
    all_goals exact (PortConfig.announceDuration_avoids _ _).bind fun _ _ => avoids_ok _ _
  · split
    · split <;> exact avoids_ok _ _
    · split <;> exact avoids_ok _ _

omit [AcceptableMasterList A] in
theorem recommendSlave_avoids {message : AnnounceMessage}
    (h : port.config.masterOnly = false) : Avoids .debugAssert (port.recommendSlave p message) := by
  refine (avoids_debugAssert fun _ => by rw [h]; rfl).bind fun _ _ => ?_
  dsimp only
  split
  · exact (PortConfig.announceDuration_avoids _ _).bind fun _ _ => avoids_ok _ _
  · exact avoids_ok _ _

theorem setRecommendedState_avoids {state : RecommendedState}
    (hmaster : ∀ ds, state = .m1 ds ∨ state = .m2 ds → s.defaultDs.slaveOnly = false)
    (hslave : ∀ message, state = .s1 message → port.config.masterOnly = false) :
    Avoids .debugAssert (port.setRecommendedState p s state) := by
  cases state with
  | m1 ds | m2 ds =>
    refine (recommendMaster_avoids _).bind fun port₁ _ => ?_
    have hfalse := hmaster ds (by simp)
    exact (avoids_debugAssert fun _ => by rw [hfalse]; rfl).bind fun _ _ => avoids_ok _ _
  | m3 message => exact (recommendMaster_avoids _).bind fun _ _ => avoids_ok _ _
  | p1 message | p2 message => exact avoids_ok _ _
  | s1 message =>
    have hfalse := hslave message rfl
    refine (recommendSlave_avoids hfalse).bind fun port₁ hport₁ => ?_
    have hconfig : port₁.config = port.config := by
      have hset : port.setRecommendedPortState p (.s1 message) s.defaultDs = .ok port₁ := hport₁
      exact congrArg PortCore.config (Port.setRecommendedPortState_core hset)
    refine (avoids_debugAssert fun _ => by rw [hconfig, hfalse]; rfl).bind fun _ _ => ?_
    refine Avoids.bind ?_ fun _ _ => avoids_ok _ _
    exact (avoids_overflow (by decide) p _ _).bind fun _ _ => avoids_ok _ _

theorem decideState_avoids (h : SafeDecision p s.defaultDs ebest port) :
    Avoids .debugAssert (s.decideState p ebest port) := by
  refine (Bmca.calculateRecommendedState_avoids p _ _ _ _).bind fun recommended hrecommended => ?_
  cases recommended with
  | none => exact avoids_ok _ _
  | some state =>
    have hcases := Bmca.calculateRecommendedState_recommends hrecommended
    refine setRecommendedState_avoids (fun ds hds => ?_) (fun message hmessage => ?_)
    · by_contra htrue
      rcases h.master with hfalse | ⟨hnone, hlistening⟩ | ⟨best, hbest⟩
      · exact htrue hfalse
      · unfold Bmca.calculateRecommendedState at hrecommended
        rw [if_pos ⟨hnone, hlistening⟩] at hrecommended
        cases hrecommended
      · rcases hds with rfl | rfl
        · cases hcases with
          | m1 hlow hnot =>
            rw [if_pos hlow] at hbest
            exact hnot best hbest
        · cases hcases with
          | m2 hlow hnot =>
            rw [if_neg hlow] at hbest
            exact hnot best hbest
    · subst hmessage
      cases hcases with
      | s1 _ hsuperseded hlocal => exact h.slave _ hsuperseded.eq_some hlocal

theorem decideStates_avoids : ∀ {ports : List (Port InBmca A R C F)} {s : PtpInstanceState},
    (∀ port ∈ ports, SafeDecision p s.defaultDs ebest port) →
      Avoids .debugAssert (decideStates p ebest s ports) := by
  intro ports
  induction ports with
  | nil => exact fun _ => avoids_ok _ _
  | cons port ports ih =>
    intro s h
    rw [List.forall_mem_cons] at h
    refine (decideState_avoids h.1).bind fun ⟨port', s₁⟩ hport => ?_
    refine Avoids.bind (ih ?_) fun _ _ => avoids_ok _ _
    rw [decideState_defaultDs hport]
    exact h.2

omit [AcceptableMasterList A] in
/-- A decision that returned met the assertion about slave-only instances. -/
theorem decideState_debug (h : s.decideState .debug ebest port = .ok (port', s')) :
    s.defaultDs.slaveOnly = false ∨
      (port.lifecycle.localBest = none ∧ port.portState = .listening) ∨
      ∃ best, Bmca.SupersededBy .debug s.defaultDs
        (if Bmca.LowClass s.defaultDs then port.lifecycle.localBest else ebest) best := by
  rcases decideState_cases h with ⟨hrecommended, -, -⟩ | ⟨state, hrecommended, hset⟩
  · cases Bmca.calculateRecommendedState_recommends hrecommended with
    | stay hnone hlistening => exact Or.inr (Or.inl ⟨hnone, hlistening⟩)
  · obtain ⟨port₁, -, hset⟩ := bind_eq_ok.mp hset
    cases Bmca.calculateRecommendedState_recommends hrecommended with
    | m1 | m2 =>
      obtain ⟨_, hassert, -⟩ := bind_eq_ok.mp hset
      left
      simpa using debugAssert_eq_ok.mp hassert rfl
    | p1 hlow hsuperseded =>
      rw [if_pos hlow]
      exact Or.inr (Or.inr ⟨_, hsuperseded⟩)
    | m3 hlow hsuperseded | p2 hlow hsuperseded | s1 hlow hsuperseded =>
      rw [if_neg hlow]
      exact Or.inr (Or.inr ⟨_, hsuperseded⟩)

/-! ### A round -/

section Rounds

variable {interval : Duration} {ports ports₁ : List (Port InBmca A R C F)}

omit [Clock C] [Rng R] in
/-- **Only the port that received the best message can be made a slave**, and it is not
master-only. -/
theorem Prepared.slave (h : Prepared p ports ports₁)
    (hown : ∀ port ∈ ports, port.core.ownPortIdentity = port.core.portIdentity)
    (hnodup : (ports.map (·.core.portIdentity)).Nodup)
    (hebest : Bmca.findBestAnnounceMessage p
      (ports₁.filterMap (·.bestLocalAnnounceMessageForBmca)) = .ok ebest) :
    ∀ port ∈ ports₁, ∀ best, ebest = some best → port.lifecycle.localBest = some best →
      port.config.masterOnly = false := by
  intro port hport best hbest hlocal
  subst hbest
  obtain ⟨source, hsource, hfound⟩ := List.mem_filterMap.mp (maxBy_mem hebest)
  have hconsidered : source.config.masterOnly = false ∧
      source.lifecycle.localBest = some best := by
    unfold Port.bestLocalAnnounceMessageForBmca at hfound
    split at hfound
    · cases hfound
    · rename_i hnot
      rw [not_or, Bool.not_eq_true] at hnot
      exact ⟨hnot.1, hfound⟩
  have hidentity := h.localBest_identity hown
  have hsame : source.core.portIdentity = port.core.portIdentity := by
    rw [← hidentity source hsource best hconsidered.2, hidentity port hport best hlocal]
  have hnodup₁ : (ports₁.map (·.core.portIdentity)).Nodup := by
    have hmap : ports₁.map (·.core.portIdentity) = ports.map (·.core.portIdentity) :=
      map_eq_map_of_forall₂ h fun _ _ hbest =>
        congrArg PortCore.portIdentity (Port.calculateBest_core hbest).1
    rwa [hmap]
  obtain rfl := List.inj_on_of_nodup_map hnodup₁ hsource hport hsame
  exact hconsidered.1

/-- **A round without a forbidden grandmaster** meets its assertions. -/
theorem bmca_avoids (hlength : s.defaultDs.numberPorts.toNat = ports.length)
    (hown : ∀ port ∈ ports, port.core.ownPortIdentity = port.core.portIdentity)
    (hnodup : (ports.map (·.core.portIdentity)).Nodup) (h : s.NoGrandmaster p ports) :
    Avoids .debugAssert (s.bmca p ports interval) := by
  refine (avoids_debugAssert fun _ => decide_eq_true hlength).bind fun _ _ => ?_
  refine Avoids.bind (mapM_avoids fun port _ => ?_) fun ports₁ hports₁ => ?_
  · exact (Bmca.takeBestPortAnnounceMessage_avoids p _).bind fun _ _ => avoids_ok _ _
  have hprepared : Prepared p ports ports₁ := mapM_eq_ok.mp hports₁
  refine (Bmca.findBestAnnounceMessage_avoids p _).bind fun ebest hebest => ?_
  refine Avoids.bind (decideStates_avoids ?_) fun ⟨ports₂, s₁⟩ _ => ?_
  · have hmaster : ∀ port ∈ ports₁, s.defaultDs.slaveOnly = false ∨
        (port.lifecycle.localBest = none ∧ port.portState = .listening) ∨
        ∃ best, Bmca.SupersededBy p s.defaultDs
          (if Bmca.LowClass s.defaultDs then port.lifecycle.localBest else ebest) best := by
      rcases h with hfalse | hall
      · exact fun _ _ => Or.inl hfalse
      · refine forall_mem_of_forall₂ hprepared ?_ hall
        intro port port' hport hbest
        obtain ⟨hlocal, hstate, -⟩ := Port.calculateBest_erbest hbest
        rw [hlocal, hstate, ← Bmca.isSuperseded_iff, ← hprepared.ebestOf_eq hebest]
        exact Or.inr hport
    intro port hport
    exact ⟨hmaster port hport, hprepared.slave hown hnodup hebest port hport⟩
  · exact Avoids.bind (mapM_avoids fun port _ => Port.stepAnnounceAge_avoids p _ port)
      fun _ _ => avoids_ok _ _

/-- **A round that returned had no forbidden grandmaster.** -/
theorem noGrandmaster_of_bmca {ports' : List (Port InBmca A R C F)}
    (h : s.bmca .debug ports interval = .ok (ports', s')) : s.NoGrandmaster .debug ports := by
  obtain ⟨ports₁, ports₂, ebest, hround⟩ := bmca_eq_ok h
  have hdecided : ∀ port ∈ ports₁, s.defaultDs.slaveOnly = false ∨
      (port.lifecycle.localBest = none ∧ port.portState = .listening) ∨
      ∃ best, Bmca.SupersededBy .debug s.defaultDs
        (if Bmca.LowClass s.defaultDs then port.lifecycle.localBest else ebest) best := by
    refine forall_mem_of_forall₂ (P := fun _ => True) (decideStates_decided hround.decide).1.flip
      ?_ (fun _ _ => trivial)
    rintro port' port - ⟨s₁, s₂, hdefault, hdecide⟩
    have hmet := decideState_debug hdecide
    rw [hdefault] at hmet
    exact hmet
  by_cases hslaveOnly : s.defaultDs.slaveOnly = false
  · exact Or.inl hslaveOnly
  · right
    refine forall_mem_of_forall₂ hround.best.flip ?_ hdecided
    intro port' port hmet hbest
    obtain ⟨hlocal, hstate, -⟩ := Port.calculateBest_erbest hbest
    rw [hlocal, hstate, ← Bmca.isSuperseded_iff,
      ← Prepared.ebestOf_eq hround.best hround.chosen] at hmet
    exact hmet.resolve_left hslaveOnly

end Rounds

end PtpInstanceState

/-! ### Every reachable instance -/

namespace System

variable {sys : System A R C F} {ports : List (Port InBmca A R C F)}

/-- **The assertions of a round.**  In every state that a debug build can reach, a round evaluates
no assertion to false when nobody is made a grandmaster against the settings; otherwise it
panics. -/
theorem Reachable.grandmaster_assertion (h : System.Reachable T .debug sys)
    (hports : allInBmca sys.ports = some ports) :
    (sys.state.NoGrandmaster .debug ports →
      sys.step .debug (.bmca : Event A R C F T) ≠ .error (.panic .debugAssert)) ∧
    (¬ sys.state.NoGrandmaster .debug ports →
      ∃ why, sys.step .debug (.bmca : Event A R C F T) = .error (.panic why)) := by
  have hnumbered := h.numbered
  have hslots := allInBmca_eq_some hports
  have hlength : sys.ports.length = ports.length := by rw [hslots, List.length_map]
  have hidentities : sys.portIdentities = ports.map (·.core.portIdentity) := by
    rw [System.portIdentities, hslots, List.map_map]
    rfl
  have hstep : sys.step .debug (.bmca : Event A R C F T) =
      (orPanic (sys.bmca .debug ports) >>= fun sys' => .ok (sys', .empty)) := by
    simp only [step, hports, orIllTyped, ok_bind, pure_eq_ok]
  constructor
  · intro hno
    have havoids : Avoids .debugAssert (sys.bmca .debug ports) := by
      refine ((Duration.fromSecondsLog_onlyOverflows .debug _).avoids (by decide)).bind fun interval _ => ?_
      refine Avoids.bind ?_ fun _ _ => avoids_ok _ _
      refine PtpInstanceState.bmca_avoids ?_ ?_ ?_ hno
      · have hle := hnumbered.length rfl
        rw [hnumbered.numberPorts, ← hlength, UInt16.toNat_ofNat']
        omega
      · intro port hport
        refine (h.slot (.inBmca port) ?_).ownPortIdentity
        rw [hslots]
        exact List.mem_map_of_mem hport
      · rw [← hidentities]
        exact hnumbered.nodup (hnumbered.length rfl)
    intro herror
    rw [hstep] at herror
    cases hbmca : sys.bmca .debug ports with
    | ok sys' =>
      rw [hbmca] at herror
      cases herror
    | error why =>
      rw [hbmca] at herror
      obtain rfl := Stop.panic.inj (Except.error.inj herror)
      exact havoids hbmca
  · intro hforbidden
    cases hbmca : sys.bmca .debug ports with
    | error why => exact ⟨why, by rw [hstep, hbmca]; rfl⟩
    | ok sys' =>
      obtain ⟨interval, -, hbmca⟩ := bind_eq_ok.mp hbmca
      obtain ⟨⟨ports', s'⟩, hround, -⟩ := bind_eq_ok.mp hbmca
      exact absurd (PtpInstanceState.noGrandmaster_of_bmca hround) hforbidden

/-- A slave-only instance that hears of a better clock. -/
theorem Reachable.grandmaster_assertion_better_clock :
    ∃ sys : TestSystem, System.Reachable NoForwardedTLVs .debug sys ∧
      sys.state.defaultDs.slaveOnly = true ∧
      sys.step .debug (.bmca : TestEvent) ≠ .error (.panic .debugAssert) := by
  have hrun : Machine.endsWith (System.step .debug)
      (testSystem { testInstanceConfig with slaveOnly := true })
      (.addPort testPortConfig () ⟨⟩ ⟨⟩ :: (becomeSlave 0).take 4)
      (fun sys => (allInBmca sys.ports).any fun ports =>
        decide (sys.state.defaultDs.slaveOnly = true ∧ sys.state.NoGrandmaster .debug ports)) =
        true := by
    decide +kernel
  obtain ⟨sys, hreach, hcheck⟩ := System.reachable_of_endsWith hrun
  rw [Option.any_eq_true] at hcheck
  obtain ⟨ports, hports, hdecide⟩ := hcheck
  obtain ⟨hslaveOnly, hno⟩ := of_decide_eq_true hdecide
  exact ⟨sys, hreach, hslaveOnly, (Reachable.grandmaster_assertion hreach hports).1 hno⟩

end System

/-- **The assertion about slave-only instances fails**: a port became master when the announce
receipt timer expired, `set_slave_only` was called, and the next round panics. -/
theorem slave_only_assertion_fails :
    ∃ sys : TestSystem, System.Reachable NoForwardedTLVs .debug sys ∧
      (System.allInBmca sys.ports).isSome = true ∧
      sys.step .debug (.bmca : TestEvent) = .error (.panic .debugAssert) := by
  have hrun : Machine.endsWith (System.step .debug) (testSystem testInstanceConfig)
      ([.addPort testPortConfig () ⟨⟩ ⟨⟩, .endBmca 0, .announceReceiptTimer 0, .setSlaveOnly true,
        .startBmca 0] : List TestEvent)
      (fun sys => (System.allInBmca sys.ports).isSome &&
        raises (.panic .debugAssert) (sys.step .debug (.bmca : TestEvent))) = true := by
    decide +kernel
  obtain ⟨sys, hreach, hcheck⟩ := System.reachable_of_endsWith hrun
  rw [Bool.and_eq_true] at hcheck
  exact ⟨sys, hreach, hcheck.1, eq_error_of_raises hcheck.2⟩

end Statime
