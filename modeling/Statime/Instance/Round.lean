import Mathlib.Data.List.Nodup
import Statime.Port.Machine

/-!
# The ports of an instance, and what a round decides about them

* `System.Reachable.numbered`: the ports are numbered from one on, in the order of their creation.
* `System.Numbered.nodup`: their identities are pairwise distinct as long as the
  numbers do not wrap.
* `PtpInstanceState.Round.follows`: a port that follows a master after a round is the one that
  received the best message, and the parent is the sender of it.
-/

namespace Statime

open Rust

variable {A R C F T : Type} [AcceptableMasterList A] [Clock C] [Filter F] [Rng R]
  [ForwardedTLVProvider T]

/-! ### The identity of a port -/

/-- **A port and its foreign master list agree on the identity.** -/
theorem Slot.Reachable.ownPortIdentity {p : Profile} {slot : Slot A R C F}
    (h : Slot.Reachable T p slot) : slot.core.ownPortIdentity = slot.core.portIdentity := by
  refine Machine.Reachable.invariant (P := fun slot : Slot A R C F =>
    slot.core.ownPortIdentity = slot.core.portIdentity) ?_ ?_ h
  · rintro slot ⟨config, filterConfig, clock, identity, rng, port, hnew, rfl⟩
    obtain ⟨⟨duration, rng'⟩, -, hnew⟩ := bind_eq_ok.mp hnew
    obtain ⟨interval, -, hnew⟩ := bind_eq_ok.mp hnew
    obtain rfl := Except.ok.inj hnew
    rfl
  · intro slot e slot' actions hslot hstep
    have hsame := (Slot.step_core hstep).sameOwner
    rw [hsame.ownPortIdentity, hsame.portIdentity, hslot]

omit [Clock C] in
theorem Port.new_portIdentity {p : Profile} {config : PortConfig A}
    {filterConfig : Filter.Config F} {clock : C} {identity : PortIdentity} {rng : R}
    {port : Port InBmca A R C F}
    (h : Port.new p config filterConfig clock identity rng = .ok port) :
    port.core.portIdentity = identity ∧ port.core.portState = .listening := by
  obtain ⟨⟨duration, rng'⟩, -, h⟩ := bind_eq_ok.mp h
  obtain ⟨interval, -, h⟩ := bind_eq_ok.mp h
  obtain rfl := Except.ok.inj h
  exact ⟨rfl, rfl⟩

/-- Related elements with the same image: the same list of images. -/
theorem map_eq_map_of_forall₂ {α β γ : Type} {r : α → β → Prop} {f : α → γ} {g : β → γ}
    {xs : List α} {ys : List β} (h : List.Forall₂ r xs ys) (hstep : ∀ x y, r x y → g y = f x) :
    ys.map g = xs.map f := by
  induction h with
  | nil => rfl
  | cons hr _ ih => rw [List.map_cons, List.map_cons, ih, hstep _ _ hr]

/-! ### The best messages -/

namespace Port

/-- The best qualified message of the port, when the comparison of them does not panic. -/
def erbest (p : Profile) (port : Port InBmca A R C F) : Option BestAnnounceMessage :=
  match port.bmca.takeBestPortAnnounceMessage p with
  | .ok (best, _) => best
  | .error _ => none

/-- Master-only and faulty ports are not considered for the whole instance. -/
def erbestForBmca (p : Profile) (port : Port InBmca A R C F) : Option BestAnnounceMessage :=
  if port.config.masterOnly = true ∨ port.portState = .faulty then none else port.erbest p

variable {p : Profile} {port port' : Port InBmca A R C F}

omit [Clock C] [Rng R] in
theorem calculateBest_erbest (h : port.calculateBestLocalAnnounceMessage p = .ok port') :
    port'.lifecycle.localBest = port.erbest p ∧ port'.portState = port.portState ∧
      port'.config = port.config := by
  obtain ⟨⟨best, bmca⟩, hbest, h⟩ := bind_eq_ok.mp h
  obtain rfl := Except.ok.inj h
  refine ⟨?_, rfl, rfl⟩
  rw [erbest, hbest]

omit [Clock C] [Rng R] in
theorem calculateBest_erbestForBmca (h : port.calculateBestLocalAnnounceMessage p = .ok port') :
    port'.bestLocalAnnounceMessageForBmca = port.erbestForBmca p := by
  obtain ⟨hlocal, hstate, hconfig⟩ := calculateBest_erbest h
  rw [bestLocalAnnounceMessageForBmca, erbestForBmca, hlocal, hstate, hconfig]

end Port

namespace PtpInstanceState

variable {p : Profile} {ebest : Option BestAnnounceMessage}
  {ports ports₁ : List (Port InBmca A R C F)}

/-- The best message of all ports that are considered. -/
def ebestOf (p : Profile) (ports : List (Port InBmca A R C F)) : Option BestAnnounceMessage :=
  match Bmca.findBestAnnounceMessage p (ports.filterMap (·.erbestForBmca p)) with
  | .ok best => best
  | .error _ => none

/-- The best messages, as the decisions find them. -/
def Prepared (p : Profile) (ports ports₁ : List (Port InBmca A R C F)) : Prop :=
  List.Forall₂ (fun port port' => port.calculateBestLocalAnnounceMessage p = .ok port') ports ports₁

omit [Clock C] [Rng R] in
theorem Prepared.forBmca (h : Prepared p ports ports₁) :
    ports₁.filterMap (·.bestLocalAnnounceMessageForBmca) =
      ports.filterMap (·.erbestForBmca p) := by
  induction h with
  | nil => rfl
  | cons hport _ ih =>
    rw [List.filterMap_cons, List.filterMap_cons, ih, Port.calculateBest_erbestForBmca hport]

omit [Clock C] [Rng R] in
theorem Prepared.ebestOf_eq (h : Prepared p ports ports₁)
    (hebest : Bmca.findBestAnnounceMessage p
      (ports₁.filterMap (·.bestLocalAnnounceMessageForBmca)) = .ok ebest) :
    ebestOf p ports = ebest := by
  rw [h.forBmca] at hebest
  rw [ebestOf, hebest]

end PtpInstanceState

/-! ### What one decision does -/

namespace PtpInstanceState

variable {p : Profile} {s s' : PtpInstanceState} {ebest : Option BestAnnounceMessage}
  {port port' : Port InBmca A R C F}

/-- Only the state of the port is decided about. -/
theorem decideState_core (h : s.decideState p ebest port = .ok (port', s')) :
    ∃ recommended, Bmca.Recommends p s.defaultDs ebest port.lifecycle.localBest port.portState
        recommended ∧
      port'.core = { port.core with portState :=
        (recommended.map (port.core.recommendedState s)).getD port.portState } := by
  rcases decideState_cases h with ⟨hrecommended, rfl, rfl⟩ | ⟨state, hrecommended, hset⟩
  · exact ⟨none, Bmca.calculateRecommendedState_recommends hrecommended, rfl⟩
  · exact ⟨some state, Bmca.calculateRecommendedState_recommends hrecommended,
      Port.setRecommendedState_core hset⟩

theorem Decided.sameOwner (h : s.Decided p ebest port port') : port.core.SameOwner port'.core := by
  obtain ⟨s₁, s₂, -, hdecide⟩ := h
  obtain ⟨recommended, -, hcore⟩ := decideState_core hdecide
  rw [hcore]
  exact ⟨rfl, rfl, rfl, rfl⟩

omit [AcceptableMasterList A] in
/-- A port is told to follow, and so is the instance. -/
theorem setRecommendedState_s1 {message : AnnounceMessage}
    (h : port.setRecommendedState p s (.s1 message) = .ok (port', s')) :
    s'.parentDs.parentPortIdentity = message.header.sourcePortIdentity := by
  obtain ⟨port₁, -, h⟩ := bind_eq_ok.mp h
  obtain ⟨_, -, h⟩ := bind_eq_ok.mp h
  obtain ⟨s₁, hfollow, h⟩ := bind_eq_ok.mp h
  obtain ⟨-, rfl⟩ := Prod.mk.inj (Except.ok.inj h)
  obtain ⟨steps, -, hfollow⟩ := bind_eq_ok.mp hfollow
  rw [← Except.ok.inj hfollow]

/-- **A port that follows a master received the best message from it.** -/
theorem decideState_follows {master : PortIdentity}
    (h : s.decideState p ebest port = .ok (port', s')) (hmaster : port'.core.Follows master) :
    ∃ best, ¬ Bmca.LowClass s.defaultDs ∧ Bmca.SupersededBy p s.defaultDs ebest best ∧
      port.lifecycle.localBest = some best ∧ master = best.message.header.sourcePortIdentity ∧
      s'.parentDs.parentPortIdentity = master := by
  rcases decideState_cases h with ⟨hrecommended, rfl, rfl⟩ | ⟨state, hrecommended, hset⟩
  · cases Bmca.calculateRecommendedState_recommends hrecommended with
    | stay _ hlistening =>
      obtain ⟨slave, hslave, -⟩ := hmaster
      cases hlistening.symm.trans hslave
  · rw [Port.setRecommendedState_core hset] at hmaster
    obtain ⟨message, rfl, rfl⟩ := PortCore.follows_recommended hmaster
    cases Bmca.calculateRecommendedState_recommends hrecommended with
    | s1 hclass hsuperseded hbest =>
      exact ⟨_, hclass, hsuperseded, hbest, rfl, setRecommendedState_s1 hset⟩

omit [AcceptableMasterList A] in
/-- When there is a better clock to follow, no port makes the instance a grandmaster. -/
theorem decideState_parent {best : BestAnnounceMessage} (hclass : ¬ Bmca.LowClass s.defaultDs)
    (hsuperseded : Bmca.SupersededBy p s.defaultDs ebest best)
    (hparent : s.parentDs.parentPortIdentity = best.message.header.sourcePortIdentity)
    (h : s.decideState p ebest port = .ok (port', s')) :
    s'.parentDs.parentPortIdentity = best.message.header.sourcePortIdentity := by
  rcases decideState_cases h with ⟨-, rfl, rfl⟩ | ⟨state, hrecommended, hset⟩
  · exact hparent
  · cases Bmca.calculateRecommendedState_recommends hrecommended with
    | m1 hlow | p1 hlow => exact absurd hlow hclass
    | m2 _ hnot => exact absurd hsuperseded (hnot best)
    | m3 | p2 =>
      obtain ⟨port₁, -, hset⟩ := bind_eq_ok.mp hset
      obtain ⟨-, rfl⟩ := Prod.mk.inj (Except.ok.inj hset)
      exact hparent
    | s1 _ hbest _ =>
      rw [setRecommendedState_s1 hset]
      have hsame := hbest.eq_some.symm.trans hsuperseded.eq_some
      rw [Option.some.inj hsame]

/-! ### What the decisions do together -/

omit [AcceptableMasterList A] in
theorem decideStates_parent {best : BestAnnounceMessage} :
    ∀ {ports ports' : List (Port InBmca A R C F)} {s s' : PtpInstanceState},
      ¬ Bmca.LowClass s.defaultDs → Bmca.SupersededBy p s.defaultDs ebest best →
      s.parentDs.parentPortIdentity = best.message.header.sourcePortIdentity →
      decideStates p ebest s ports = .ok (ports', s') →
      s'.parentDs.parentPortIdentity = best.message.header.sourcePortIdentity := by
  intro ports
  induction ports with
  | nil =>
    intro ports' s s' _ _ hparent h
    obtain ⟨-, rfl⟩ := Prod.mk.inj (Except.ok.inj h)
    exact hparent
  | cons port ports ih =>
    intro ports' s s' hclass hsuperseded hparent h
    obtain ⟨port', s₁, rest, hport, hrest, -⟩ := decideStates_cons_inv h
    have hdefault := decideState_defaultDs hport
    exact ih (by rwa [hdefault]) (by rwa [hdefault])
      (decideState_parent hclass hsuperseded hparent hport) hrest

/-- **After all decisions**: a port that follows a master received the best message, and the
master is the parent. -/
theorem decideStates_follows {master : PortIdentity} :
    ∀ {ports ports' : List (Port InBmca A R C F)} {s s' : PtpInstanceState},
      decideStates p ebest s ports = .ok (ports', s') →
      ∀ port' ∈ ports', port'.core.Follows master →
        s'.parentDs.parentPortIdentity = master ∧
          ∃ best, ebest = some best ∧ ∃ port ∈ ports, port.lifecycle.localBest = some best ∧
            port.core.SameOwner port'.core := by
  intro ports
  induction ports with
  | nil =>
    intro ports' s s' h port' hport'
    obtain ⟨rfl, -⟩ := Prod.mk.inj (Except.ok.inj h)
    cases hport'
  | cons port ports ih =>
    intro ports' s s' h port' hport' hmaster
    obtain ⟨first, s₁, rest, hfirst, hrest, rfl⟩ := decideStates_cons_inv h
    rcases List.mem_cons.mp hport' with rfl | htail
    · obtain ⟨best, hclass, hsuperseded, hlocal, rfl, hparent⟩ := decideState_follows hfirst hmaster
      have hdefault := decideState_defaultDs hfirst
      have hlater : s'.parentDs.parentPortIdentity = best.message.header.sourcePortIdentity :=
        decideStates_parent (by rwa [hdefault]) (by rwa [hdefault]) hparent hrest
      exact ⟨hlater, best, hsuperseded.eq_some, port, List.mem_cons_self, hlocal,
        Decided.sameOwner ⟨s, s₁, rfl, hfirst⟩⟩
    · obtain ⟨hparent, best, hbest, old, hold, hlocal, hsame⟩ := ih hrest port' htail hmaster
      exact ⟨hparent, best, hbest, old, List.mem_cons_of_mem _ hold, hlocal, hsame⟩

omit [Clock C] [Rng R] in
/-- The best message of a port carries its identity. -/
theorem Prepared.localBest_identity {ports ports₁ : List (Port InBmca A R C F)}
    (h : Prepared p ports ports₁)
    (hown : ∀ port ∈ ports, port.core.ownPortIdentity = port.core.portIdentity) :
    ∀ port ∈ ports₁, ∀ best, port.lifecycle.localBest = some best →
      best.identity = port.core.portIdentity := by
  refine forall_mem_of_forall₂ h ?_ hown
  intro port port' hport hbest best hlocal
  obtain ⟨hcore, hidentity⟩ := Port.calculateBest_core hbest
  rw [hidentity best hlocal, hcore, ← hport]
  rfl

namespace Round

variable {interval : Duration} {ports ports' ports₁ ports₂ : List (Port InBmca A R C F)}

theorem portIdentities (h : Round p s s' interval ports ports' ports₁ ports₂ ebest) :
    ports'.map (·.core.portIdentity) = ports.map (·.core.portIdentity) := by
  let identity : Port InBmca A R C F → PortIdentity := fun port => port.core.portIdentity
  have h₁ : ports₁.map identity = ports.map identity :=
    map_eq_map_of_forall₂ h.best fun port port' hport =>
      congrArg PortCore.portIdentity (Port.calculateBest_core hport).1
  have h₂ : ports₂.map identity = ports₁.map identity :=
    map_eq_map_of_forall₂ (decideStates_decided h.decide).1 fun port port' hport =>
      hport.sameOwner.portIdentity
  have h₃ : ports'.map identity = ports₂.map identity :=
    map_eq_map_of_forall₂ h.age fun port port' hport => by
      obtain ⟨multiportDisable, hcore⟩ := Port.stepAnnounceAge_core hport
      simp only [identity, hcore]
  exact h₃.trans (h₂.trans h₁)

/-- **After a round**, a port that follows a master has the identity that the best message carries,
and the master is the parent. -/
theorem follows (h : Round p s s' interval ports ports' ports₁ ports₂ ebest)
    (hown : ∀ port ∈ ports, port.core.ownPortIdentity = port.core.portIdentity) :
    ∀ port ∈ ports', ∀ master, port.core.Follows master →
      s'.parentDs.parentPortIdentity = master ∧
        ∃ best, ebest = some best ∧ port.core.portIdentity = best.identity := by
  have hdecided : ∀ port ∈ ports₂, ∀ master, port.core.Follows master →
      s'.parentDs.parentPortIdentity = master ∧
        ∃ best, ebest = some best ∧ port.core.portIdentity = best.identity := by
    intro port hport master hmaster
    obtain ⟨hparent, best, hbest, old, hold, hlocal, hsame⟩ :=
      decideStates_follows h.decide port hport hmaster
    refine ⟨hparent, best, hbest, ?_⟩
    rw [hsame.portIdentity, Prepared.localBest_identity h.best hown old hold best hlocal]
  refine forall_mem_of_forall₂ h.age ?_ hdecided
  intro port port' hport hage master hmaster
  obtain ⟨multiportDisable, hcore⟩ := Port.stepAnnounceAge_core hage
  rw [hcore] at hmaster ⊢
  exact hport master hmaster

end Round

end PtpInstanceState

/-! ### The ports are numbered -/

namespace System

def portIdentities (sys : System A R C F) : List PortIdentity :=
  sys.ports.map (·.core.portIdentity)

/-- The identity of the port that was made after `k` others. -/
def nthIdentity (clockIdentity : ClockIdentity) (k : Nat) : PortIdentity where
  clockIdentity
  portNumber := UInt16.ofNat (k + 1)

/-- The ports have the numbers from one on, modulo `2 ^ 16`. -/
structure Numbered (p : Profile) (sys : System A R C F) : Prop where
  length : p = .debug → sys.ports.length ≤ 0xffff
  numberPorts : sys.state.defaultDs.numberPorts = UInt16.ofNat sys.ports.length
  identities : sys.portIdentities.Perm
    ((List.range sys.ports.length).map (nthIdentity sys.state.defaultDs.clockIdentity))

variable {p : Profile} {sys sys' : System A R C F} {e : Event A R C F T}
  {actions : PortActionIterator}

theorem PortStep.portIdentities {i : Nat} {e' : PortEvent T} {slot slot' : Slot A R C F}
    (h : PortStep p sys sys' i e' slot slot' actions) :
    sys'.portIdentities = sys.portIdentities := by
  have hsame := (Slot.step_core h.step).sameOwner.portIdentity
  obtain ⟨hi, hslot⟩ := List.getElem?_eq_some_iff.mp h.get
  have hget : sys.portIdentities[i]? = some slot'.core.portIdentity := by
    rw [System.portIdentities, List.getElem?_map, h.get, Option.map_some, hsame]
  rw [System.portIdentities, h.set, List.map_set]
  refine List.ext_getElem? fun j => ?_
  by_cases hj : i = j
  · subst hj
    rw [List.getElem?_set_self (by rwa [List.length_map])]
    exact hget.symm
  · rw [List.getElem?_set_ne hj]
    rfl

theorem numbered_step (hsys : sys.Numbered p) (h : sys.step p e = .ok (sys', actions)) :
    sys'.Numbered p := by
  cases he : e.onPort sys.state with
  | some target =>
    obtain ⟨i, e'⟩ := target
    obtain ⟨old, new, hport⟩ := step_onPort he h
    have hlength : sys'.ports.length = sys.ports.length := by rw [hport.set, List.length_set]
    refine ⟨fun hp => hlength ▸ hsys.length hp, ?_, ?_⟩
    · rw [hlength, hport.state.defaultDs, hsys.numberPorts]
    · rw [hlength, hport.state.defaultDs, hport.portIdentities]
      exact hsys.identities
  | none =>
    rcases step_not_onPort he h with
      ⟨numberPorts, config, filterConfig, clock, rng, port, hnumber, hnew, hports, hstate⟩ |
        ⟨hperm, -, hclock, hnumber⟩ | ⟨-, ports, interval, ports', hall, hbmca, hports⟩
    · obtain ⟨hdebug, rfl⟩ := overflow_eq_ok.mp hnumber
      have hlength : sys'.ports.length = sys.ports.length + 1 := by
        rw [hports, List.length_append, List.length_singleton]
      have hnext : sys.state.defaultDs.numberPorts + 1 = UInt16.ofNat (sys.ports.length + 1) := by
        rw [hsys.numberPorts, UInt16.ofNat_add]
        rfl
      refine ⟨fun hp => ?_, ?_, ?_⟩
      · -- the addition is checked, so the old number was not the largest one
        have hlt := hsys.length hp
        have hne := of_decide_eq_false (hdebug hp)
        rw [hsys.numberPorts] at hne
        rw [hlength]
        by_contra hge
        have heq : sys.ports.length = 0xffff := by omega
        rw [heq] at hne
        exact hne rfl
      · rw [hlength, hstate]
        exact hnext
      · rw [hlength, hstate, System.portIdentities, hports, List.map_append, List.range_succ,
          List.map_append]
        refine List.Perm.append hsys.identities ?_
        have hidentity : (Slot.inBmca port).core.portIdentity =
            nthIdentity sys.state.defaultDs.clockIdentity sys.ports.length := by
          rw [Slot.core, (Port.new_portIdentity hnew).1, nthIdentity, hnext]
        rw [List.map_singleton, List.map_singleton, hidentity]
    · have hlength := hperm.length_eq
      refine ⟨fun hp => hlength ▸ hsys.length hp, ?_, ?_⟩
      · rw [hlength, hnumber, hsys.numberPorts]
      · rw [hlength, hclock]
        exact (hperm.map _).trans hsys.identities
    · obtain ⟨ports₁, ports₂, ebest, hround⟩ := PtpInstanceState.bmca_eq_ok hbmca
      have hdefault := (PtpInstanceState.decideStates_decided hround.decide).2
      have hidentities : sys'.portIdentities = sys.portIdentities := by
        rw [System.portIdentities, System.portIdentities, hports, allInBmca_eq_some hall,
          List.map_map, List.map_map]
        exact hround.portIdentities
      have hlength : sys'.ports.length = sys.ports.length := by
        have hmap := congrArg List.length hidentities
        rwa [System.portIdentities, System.portIdentities, List.length_map, List.length_map] at hmap
      refine ⟨fun hp => hlength ▸ hsys.length hp, ?_, ?_⟩
      · rw [hlength, hdefault, hsys.numberPorts]
      · rw [hlength, hdefault, hidentities]
        exact hsys.identities

/-- **The ports of an instance are numbered from one on.** -/
theorem Reachable.numbered (h : System.Reachable T p sys) : sys.Numbered p := by
  refine Machine.Reachable.invariant (P := fun sys : System A R C F => sys.Numbered p) ?_
    (fun _ _ _ _ => numbered_step) h
  rintro sys ⟨config, timeProperties, rfl⟩
  exact ⟨fun _ => Nat.zero_le _, rfl, .nil⟩

omit [Clock C] [Rng R] in
theorem Numbered.nodup (h : sys.Numbered p) (hlength : sys.ports.length ≤ 0xffff) :
    sys.portIdentities.Nodup := by
  refine (List.Perm.nodup_iff h.identities).mpr ?_
  refine List.Nodup.map_on ?_ List.nodup_range
  intro j hj k hk heq
  have hnumber := congrArg (fun i : PortIdentity => i.portNumber.toNat) heq
  rw [List.mem_range] at hj hk
  simp only [nthIdentity, UInt16.toNat_ofNat'] at hnumber
  omega

end System

end Statime
