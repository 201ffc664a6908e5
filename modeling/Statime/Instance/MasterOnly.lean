import Statime.Instance.RoundDatasets
import Statime.Instance.Assertions

/-!
# Master-only ports

The best message of a master-only port takes part in the decision about this port, and could make it
a slave when it is the best message of all.  The two are told apart by the identity of the port that
they carry, and by nothing else.

* `System.MasterOnlyKept`: the invariant, no master-only port is a slave.
* `System.ebest_not_masterOnly`: the best message of all ports was heard on a port that is not
  master-only.
* `System.master_only_never_slave`: as long as there are no more ports than port numbers, all of this
  holds in every run.
* `System.wrapped_port_number`: two ports with one number.
-/

namespace Statime

open Rust

variable {A R C F T : Type} [AcceptableMasterList A] [Clock C] [Filter F] [Rng R]
  [ForwardedTLVProvider T]

namespace System

variable {p : Profile} {sys sys' : System A R C F} {e : Event A R C F T}
  {actions : PortActionIterator}

/-- There is a port number for every port: the numbers of a debug build do not wrap. -/
def NumbersSuffice (p : Profile) (sys : System A R C F) : Prop :=
  p = .release → sys.ports.length ≤ 0xffff

/-- Ports are never removed. -/
theorem length_step (h : sys.step p e = .ok (sys', actions)) :
    sys.ports.length ≤ sys'.ports.length := by
  cases he : e.onPort sys.state with
  | some target =>
    obtain ⟨i, e'⟩ := target
    obtain ⟨old, new, hport⟩ := step_onPort he h
    rw [hport.set, List.length_set]
  | none =>
    rcases step_not_onPort he h with
      ⟨numberPorts, config, filterConfig, clock, rng, port, -, -, hports, -⟩ |
        ⟨hperm, -⟩ | ⟨-, ports, interval, ports', hall, hbmca, hports⟩
    · rw [hports, List.length_append]
      exact Nat.le_add_right _ _
    · rw [hperm.length_eq]
    · obtain ⟨ports₁, ports₂, ebest, hround⟩ := PtpInstanceState.bmca_eq_ok hbmca
      have hlength := congrArg List.length hround.portIdentities
      rw [List.length_map, List.length_map] at hlength
      rw [hports, allInBmca_eq_some hall, List.length_map, List.length_map, hlength]

theorem NumbersSuffice.before (h : sys.step p e = .ok (sys', actions))
    (hsys : sys'.NumbersSuffice p) : sys.NumbersSuffice p :=
  fun hp => (length_step h).trans (hsys hp)

theorem Reachable.nodup (h : System.Reachable T p sys) (hsys : sys.NumbersSuffice p) :
    sys.portIdentities.Nodup := by
  have hnumbered := h.numbered
  refine hnumbered.nodup ?_
  cases p with
  | debug => exact hnumbered.length rfl
  | release => exact hsys rfl

/-- **The invariant**: no master-only port is a slave. -/
def MasterOnlyKept (sys : System A R C F) : Prop :=
  ∀ slot ∈ sys.ports, slot.core.config.masterOnly = true → ∀ master, ¬ slot.core.Follows master

/-- **A round of ports with distinct identities.** -/
theorem masterOnlyKept_bmca {s s' : PtpInstanceState} {ports ports' : List (Port InBmca A R C F)}
    {interval : Duration}
    (hown : ∀ port ∈ ports, port.core.ownPortIdentity = port.core.portIdentity)
    (hnodup : (ports.map (·.core.portIdentity)).Nodup)
    (hbmca : s.bmca p ports interval = .ok (ports', s')) :
    ∀ port ∈ ports', port.core.config.masterOnly = true → ∀ master, ¬ port.core.Follows master := by
  obtain ⟨ports₁, ports₂, ebest, hround⟩ := PtpInstanceState.bmca_eq_ok hbmca
  have hslave := PtpInstanceState.Prepared.slave hround.best hown hnodup hround.chosen
  have hdecided : ∀ port ∈ ports₂, port.core.config.masterOnly = true →
      ∀ master, ¬ port.core.Follows master := by
    refine forall_mem_of_forall₂ (PtpInstanceState.decideStates_decided hround.decide).1 ?_ hslave
    intro port₁ port₂ hport hdecided honly master hmaster
    have hsame := hdecided.sameOwner
    obtain ⟨s₁, s₂, -, hdecide⟩ := hdecided
    obtain ⟨best, -, hsuperseded, hlocal, -⟩ :=
      PtpInstanceState.decideState_follows hdecide hmaster
    have hfalse : port₁.core.config.masterOnly = false := hport best hsuperseded.eq_some hlocal
    rw [hsame.config, hfalse] at honly
    cases honly
  refine forall_mem_of_forall₂ hround.age (fun port₂ port' hport hage => ?_) hdecided
  obtain ⟨multiportDisable, hcore⟩ := Port.stepAnnounceAge_core hage
  rw [hcore]
  exact hport

/-- **One step of an instance.** -/
theorem masterOnlyKept_step (hreachable : System.Reachable T p sys)
    (hnumbers : sys.NumbersSuffice p) (hsys : sys.MasterOnlyKept)
    (h : sys.step p e = .ok (sys', actions)) : sys'.MasterOnlyKept := by
  intro slot hslot honly master hmaster
  cases step_mem h hslot with
  | kept hold => exact hsys slot hold honly master hmaster
  | stepped he hport =>
    have hstep := Slot.step_core hport.step
    rw [hstep.sameOwner.config] at honly
    exact hsys _ (List.mem_of_getElem? hport.get) honly master
      (hstep.follows (onPort_ne_recommend he) hmaster)
  | added hnew hslot =>
    obtain ⟨state, hslave, -⟩ := hmaster
    rw [hslot] at hslave
    cases (Port.new_portIdentity hnew).2.symm.trans hslave
  | decided hall hbmca hport hslot =>
    have hnodup := hreachable.nodup hnumbers
    rw [System.portIdentities, allInBmca_eq_some hall, List.map_map] at hnodup
    rw [hslot] at honly hmaster
    exact masterOnlyKept_bmca
      (fun port hport => (hreachable.inBmca hall port hport).ownPortIdentity) hnodup hbmca _ hport
      honly master hmaster

theorem Reachable.masterOnlyKept (h : System.Reachable T p sys) :
    sys.NumbersSuffice p → sys.MasterOnlyKept := by
  induction h with
  | init hs =>
    obtain ⟨config, timeProperties, rfl⟩ := hs
    intro _ slot hslot
    cases hslot
  | step hr hstep ih =>
    intro hnumbers
    have hbefore := hnumbers.before hstep
    exact masterOnlyKept_step hr hbefore (ih hbefore) hstep

/-! ### The best message, and the datasets -/

/-- **The best message of all ports** was heard on a port that is not master-only, and is the best one
of this port. -/
theorem ebest_not_masterOnly {log : List (Machine.Transition (System A R C F) (Event A R C F T))}
    (htrace : Machine.Trace (System.step p) System.Initial log sys)
    {ports : List (Port InBmca A R C F)} (hall : allInBmca sys.ports = some ports)
    {best : BestAnnounceMessage} (hbest : PtpInstanceState.ebestOf p ports = some best) :
    ∃ port ∈ ports, port.config.masterOnly = false ∧ port.erbest p = some best ∧
      Heard log port.core best.header best.message := by
  unfold PtpInstanceState.ebestOf at hbest
  split at hbest
  · rename_i found hfound
    subst hbest
    obtain ⟨port, hport, herbest⟩ := List.mem_filterMap.mp (maxBy_mem hfound)
    unfold Port.erbestForBmca at herbest
    split at herbest
    · cases herbest
    · rename_i hnot
      rw [not_or, Bool.not_eq_true] at hnot
      refine ⟨port, hport, hnot.1, herbest, ?_⟩
      have hslot : Slot.inBmca port ∈ sys.ports := by
        rw [allInBmca_eq_some hall]
        exact List.mem_map_of_mem hport
      refine heard_of_holds htrace _ hslot _ _ ?_
      unfold Port.erbest at herbest
      split at herbest
      · rename_i best' bmca htake
        exact (Bmca.holds_takeBest htake).2 best herbest
      · cases herbest
  · cases hbest

/-- **A round writes nothing, the own data, or the best message.** -/
theorem bmca_datasets (h : sys.step p (.bmca : Event A R C F T) = .ok (sys', actions)) :
    sys.state.SameDatasets sys'.state ∨ sys'.state.IsGrandmaster ∨
      ∃ ports best, allInBmca sys.ports = some ports ∧
        PtpInstanceState.ebestOf p ports = some best ∧ sys'.state.AsAnnounced best.message := by
  obtain ⟨ports, interval, ports', hall, hbmca, -⟩ := step_bmca h
  obtain ⟨ports₁, ports₂, ebest, hround⟩ := PtpInstanceState.bmca_eq_ok hbmca
  have hebest := PtpInstanceState.Prepared.ebestOf_eq hround.best hround.chosen
  have hwritten : sys.state.SameDatasets sys'.state ∨ sys'.state.IsGrandmaster ∨
      ∃ best, ebest = some best ∧ sys'.state.AsAnnounced best.message := by
    refine PtpInstanceState.decideStates_brings (W := fun s => sys.state.SameDatasets s ∨
      s.IsGrandmaster ∨ ∃ best, ebest = some best ∧ s.AsAnnounced best.message)
      (B := fun _ => False) (P := fun _ => True) ?_ rfl (fun _ _ => trivial) hround.decide
      (Or.inl (Or.inl (.refl _)))
    intro s port port' s' _ _ hdecide hs
    rcases PtpInstanceState.decideState_datasets hdecide with
      ⟨rfl, -⟩ | ⟨hown, -⟩ | ⟨best, hbest, -, hannounced⟩
    · exact hs.resolve_right id
    · exact Or.inr (Or.inl hown)
    · exact Or.inr (Or.inr ⟨best, hbest.2.eq_some, hannounced⟩)
  rcases hwritten with hsame | hown | ⟨best, hbest, hannounced⟩
  · exact Or.inl hsame
  · exact Or.inr (Or.inl hown)
  · exact Or.inr (Or.inr ⟨ports, best, hall, hebest.trans hbest, hannounced⟩)

/-- **Any other step** writes at most what it receives on a port that is not master-only. -/
theorem MasterOnlyKept.datasets (hsys : sys.MasterOnlyKept) (he : e ≠ .bmca)
    (h : sys.step p e = .ok (sys', actions)) :
    sys.state.SameDatasets sys'.state ∨
      ∃ i port message announce, sys.Hears e i port message announce ∧
        port.config.masterOnly = false ∧ sys'.state.AsAnnounced announce := by
  rcases step_datasets he h with hsame | ⟨announce, ⟨i, port, message, hhears, hparent⟩, hannounced⟩
  · exact Or.inl hsame
  · refine Or.inr ⟨i, port, message, announce, hhears, ?_, hannounced⟩
    obtain ⟨data, -, hport, -⟩ := hhears
    rw [Port.isFromParent, Bool.and_eq_true] at hparent
    have hsteering := hparent.1
    unfold Port.isSteering at hsteering
    split at hsteering
    · rename_i state hstate
      by_contra honly
      rw [Bool.not_eq_false] at honly
      exact hsys _ (List.mem_of_getElem? (getRunning_eq_some hport)) honly state.remoteMaster
        (PortCore.follows_of_slave hstate)
    · cases hsteering

/-- **A master-only port never becomes a slave.**  In every run of an instance with no more ports than
port numbers: no master-only port is a slave; the best message of all ports was heard on a port that
is not master-only, and it is the only message that a round writes; and any other step writes at most
what it receives on a port that is not master-only. -/
theorem master_only_never_slave
    {log : List (Machine.Transition (System A R C F) (Event A R C F T))}
    (htrace : Machine.Trace (System.step p) System.Initial log sys)
    (hnumbers : p = .release → sys.ports.length ≤ 0xffff) :
    (∀ slot ∈ sys.ports, slot.core.config.masterOnly = true →
      ∀ state, slot.core.portState ≠ .slave state) ∧
    (∀ ports best, allInBmca sys.ports = some ports →
      PtpInstanceState.ebestOf p ports = some best →
        ∃ port ∈ ports, port.config.masterOnly = false ∧ port.erbest p = some best ∧
          Heard log port.core best.header best.message) ∧
    (∀ sys' actions, sys.step p (.bmca : Event A R C F T) = .ok (sys', actions) →
      sys.state.SameDatasets sys'.state ∨ sys'.state.IsGrandmaster ∨
        ∃ ports best, allInBmca sys.ports = some ports ∧
          PtpInstanceState.ebestOf p ports = some best ∧ sys'.state.AsAnnounced best.message) ∧
    ∀ (e : Event A R C F T) sys' actions, e ≠ .bmca → sys.step p e = .ok (sys', actions) →
      sys.state.SameDatasets sys'.state ∨
        ∃ i port message announce, sys.Hears e i port message announce ∧
          port.config.masterOnly = false ∧ sys'.state.AsAnnounced announce := by
  have hr : System.Reachable T p sys := htrace.reachable
  have hkept := hr.masterOnlyKept hnumbers
  refine ⟨fun slot hslot honly state hstate => ?_, fun ports best hall hbest => ?_,
    fun sys' actions h => bmca_datasets h, fun e sys' actions he h => hkept.datasets he h⟩
  · exact hkept slot hslot honly _ (PortCore.follows_of_slave hstate)
  · exact ebest_not_masterOnly htrace hall hbest

/-- A master-only port and another one, which both hear clock 9. -/
def masterOnlyRun : List TestEvent :=
  [.endBmca 0, .endBmca 1, .generalReceive 0 (announceBytes 9 1 64 0),
    .generalReceive 1 (announceBytes 9 1 64 0), .generalReceive 0 (announceBytes 9 1 64 1),
    .generalReceive 1 (announceBytes 9 1 64 1), .startBmca 0, .startBmca 1, .bmca]

def masterOnlyConfig : PortConfig AcceptAnyMaster := { testPortConfig with masterOnly := true }

/-- Only the other one becomes a slave. -/
theorem master_only_never_slave_two_ports :
    ∃ sys : TestSystem, sys.ports.any (fun slot => slot.core.config.masterOnly) = true ∧
      sys.ports.countP Slot.isSlave = 1 ∧
      ∀ slot ∈ sys.ports, slot.core.config.masterOnly = true →
        ∀ state, slot.core.portState ≠ .slave state := by
  have hrun : Machine.endsWith (System.step .release) (testSystem testInstanceConfig)
      (.addPort masterOnlyConfig () ⟨⟩ ⟨⟩ :: .addPort testPortConfig () ⟨⟩ ⟨⟩ :: masterOnlyRun)
      (fun sys => sys.ports.any (fun slot => slot.core.config.masterOnly) &&
        decide (sys.ports.countP Slot.isSlave = 1 ∧ sys.ports.length ≤ 0xffff)) = true := by
    decide +kernel
  obtain ⟨sys, hreach, hcheck⟩ := System.reachable_of_endsWith hrun
  rw [Bool.and_eq_true, decide_eq_true_eq] at hcheck
  obtain ⟨log, htrace⟩ := Machine.Reachable.exists_trace hreach
  exact ⟨sys, hcheck.1, hcheck.2.1, (master_only_never_slave htrace fun _ => hcheck.2.2).1⟩

end System

/-! ### Ports that take no part in a round -/

/-- A port that has heard nothing yet. -/
structure Port.Idle (p : Profile) (interval : Duration) (port : Port InBmca A R C F) : Prop where
  best : port.calculateBestLocalAnnounceMessage p = .ok port
  localBest : port.lifecycle.localBest = none
  listening : port.portState = .listening
  age : port.stepAnnounceAge p interval = .ok port

omit [Clock C] in
/-- A new port has heard nothing. -/
theorem Port.idle_of_new {p : Profile} {config : PortConfig A} {filterConfig : Filter.Config F}
    {clock : C} {identity : PortIdentity} {rng : R} {port : Port InBmca A R C F}
    (h : Port.new p config filterConfig clock identity rng = .ok port) (interval : Duration) :
    port.Idle p interval := by
  obtain ⟨⟨duration, rng'⟩, -, h⟩ := bind_eq_ok.mp h
  obtain ⟨announceInterval, -, h⟩ := bind_eq_ok.mp h
  obtain rfl := Except.ok.inj h
  exact ⟨rfl, rfl, rfl, rfl⟩

namespace PtpInstanceState

variable {p : Profile} {s s' : PtpInstanceState} {interval : Duration}
  {ports ports' ports₁ ports₂ idles : List (Port InBmca A R C F)}
  {ebest : Option BestAnnounceMessage}

/-- Idle ports are not decided about. -/
theorem decideStates_idle (s : PtpInstanceState) (h : ∀ port ∈ idles, port.Idle p interval) :
    decideStates p ebest s idles = .ok (idles, s) := by
  induction idles with
  | nil => rfl
  | cons port idles ih =>
    rw [List.forall_mem_cons] at h
    refine decideStates_cons ?_ (ih h.2)
    rw [decideState, Port.bestLocalAnnounceMessageForState, h.1.localBest,
      Bmca.calculateRecommendedState, if_pos ⟨rfl, h.1.listening⟩]
    rfl

theorem decideStates_append_idle (h : ∀ port ∈ idles, port.Idle p interval) :
    ∀ {ports ports' : List (Port InBmca A R C F)} {s s' : PtpInstanceState},
      decideStates p ebest s ports = .ok (ports', s') →
      decideStates p ebest s (ports ++ idles) = .ok (ports' ++ idles, s') := by
  intro ports
  induction ports with
  | nil =>
    intro ports' s s' hdecide
    obtain ⟨rfl, rfl⟩ := Prod.mk.inj (Except.ok.inj hdecide)
    exact decideStates_idle s h
  | cons port ports ih =>
    intro ports' s s' hdecide
    obtain ⟨first, s₁, rest, hfirst, hrest, rfl⟩ := decideStates_cons_inv hdecide
    exact decideStates_cons hfirst (ih hrest)

/-- **A round with idle ports** is the round without them. -/
theorem bmca_idle (h : s.bmca .release ports interval = .ok (ports', s'))
    (hidle : ∀ port ∈ idles, port.Idle .release interval) :
    s.bmca .release (ports ++ idles) interval = .ok (ports' ++ idles, s') := by
  obtain ⟨ports₁, ports₂, ebest, hround⟩ := bmca_eq_ok h
  have hnone : idles.filterMap (·.bestLocalAnnounceMessageForBmca) = [] := by
    rw [List.filterMap_eq_nil_iff]
    intro port hport
    rw [Port.bestLocalAnnounceMessageForBmca, (hidle port hport).localBest, ite_self]
  have hwide : Round .release s s' interval (ports ++ idles) (ports' ++ idles) (ports₁ ++ idles)
      (ports₂ ++ idles) ebest := by
    refine ⟨(fun hp => by cases hp), ?_, ?_, decideStates_append_idle hidle hround.decide, ?_⟩
    · exact List.rel_append hround.best
        (List.forall₂_same.mpr fun port hport => (hidle port hport).best)
    · rw [List.filterMap_append, hnone, List.append_nil]
      exact hround.chosen
    · exact List.rel_append hround.age
        (List.forall₂_same.mpr fun port hport => (hidle port hport).age)
  exact hwide.bmca_eq

end PtpInstanceState

namespace System

variable {p : Profile} {sys sys' : System A R C F} {e : Event A R C F T}
  {actions : PortActionIterator} {idles : List (Port InBmca A R C F)}

/-- The same instance with more ports. -/
def wide (sys : System A R C F) (idles : List (Port InBmca A R C F)) : System A R C F :=
  { sys with ports := sys.ports ++ idles.map .inBmca }

omit [AcceptableMasterList A] [Clock C] [Rng R] in
theorem getElem?_wide {i : Nat} {slot : Slot A R C F} (h : sys.ports[i]? = some slot) :
    (sys.wide idles).ports[i]? = some slot := by
  rw [wide, List.getElem?_append_left (List.getElem?_eq_some_iff.mp h).1, h]

omit [AcceptableMasterList A] [Clock C] [Rng R] in
theorem set_wide {i : Nat} {slot slot' : Slot A R C F} (h : sys.ports[i]? = some slot) :
    (sys.wide idles).ports.set i slot' = sys.ports.set i slot' ++ idles.map .inBmca := by
  rw [wide, List.set_append_left _ _ (List.getElem?_eq_some_iff.mp h).1]

omit [AcceptableMasterList A] [Clock C] [Rng R] in
theorem allInBmca_wide {ports : List (Port InBmca A R C F)} (h : sys.ports = ports.map .inBmca) :
    allInBmca (sys.wide idles).ports = some (ports ++ idles) := by
  have hall : ∀ ports : List (Port InBmca A R C F), allInBmca (ports.map .inBmca) = some ports := by
    intro ports
    induction ports with
    | nil => rfl
    | cons port ports ih => rw [List.map_cons, allInBmca, ih, Option.map_some]
  rw [wide, h, ← List.map_append, hall]

/-- The calls that are made below on ports that have idle neighbours. -/
def isBmcaOrGeneral : Event A R C F T → Bool
  | .startBmca _ | .endBmca _ | .bmca | .generalReceive _ _ => true
  | _ => false

/-- **Idle neighbours** change nothing. -/
theorem step_wide (he : isBmcaOrGeneral e = true) (h : sys.step .release e = .ok (sys', actions))
    (hidle : ∀ interval, ∀ port ∈ idles, port.Idle .release interval) :
    (sys.wide idles).step .release e = .ok (sys'.wide idles, actions) := by
  cases e with
  | startBmca i =>
    obtain ⟨port, hport, h⟩ := bind_eq_ok.mp h
    obtain ⟨rfl, rfl⟩ := Prod.mk.inj (Except.ok.inj h)
    have hget := getRunning_eq_some (orIllTyped_eq_ok.mp hport)
    have hwide : (sys.wide idles).getRunning i = some port := by
      rw [getRunning, getElem?_wide hget]
    rw [step, hwide]
    simp only [orIllTyped, ok_bind, pure_eq_ok, set_wide hget]
    rfl
  | endBmca i =>
    obtain ⟨port, hport, h⟩ := bind_eq_ok.mp h
    obtain ⟨rfl, rfl⟩ := Prod.mk.inj (Except.ok.inj h)
    have hget := getInBmca_eq_some (orIllTyped_eq_ok.mp hport)
    have hwide : (sys.wide idles).getInBmca i = some port := by
      rw [getInBmca, getElem?_wide hget]
    rw [step, hwide]
    simp only [orIllTyped, ok_bind, pure_eq_ok, set_wide hget]
    rfl
  | generalReceive i data =>
    obtain ⟨port, hport, h⟩ := bind_eq_ok.mp h
    obtain ⟨⟨port', s', actions'⟩, hhandled, h⟩ := bind_eq_ok.mp h
    obtain ⟨rfl, rfl⟩ := Prod.mk.inj (Except.ok.inj h)
    have hget := getRunning_eq_some (orIllTyped_eq_ok.mp hport)
    have hwide : (sys.wide idles).getRunning i = some port := by
      rw [getRunning, getElem?_wide hget]
    have hsame : port.handleGeneralReceive .release (sys.wide idles).state data =
        .ok (port', s', actions') := orPanic_eq_ok.mp hhandled
    simp only [step, handleWithState, hwide, orIllTyped, ok_bind, hsame, orPanic, pure_eq_ok,
      setRunning, set_wide hget]
    rfl
  | bmca =>
    obtain ⟨ports, hports, h⟩ := bind_eq_ok.mp h
    obtain ⟨sys₁, hsys₁, h⟩ := bind_eq_ok.mp h
    obtain ⟨rfl, rfl⟩ := Prod.mk.inj (Except.ok.inj h)
    obtain ⟨interval, hinterval, hsys₁⟩ := bind_eq_ok.mp (orPanic_eq_ok.mp hsys₁)
    obtain ⟨⟨ports', state⟩, hbmca, hsys₁⟩ := bind_eq_ok.mp hsys₁
    obtain rfl := Except.ok.inj hsys₁
    have hall : allInBmca (sys.wide idles).ports = some (ports ++ idles) :=
      allInBmca_wide (allInBmca_eq_some (orIllTyped_eq_ok.mp hports))
    have hround : (sys.wide idles).state.bmca .release (ports ++ idles) interval =
        .ok (ports' ++ idles, state) :=
      PtpInstanceState.bmca_idle hbmca (hidle interval)
    have hlog : Duration.fromSecondsLog .release (sys.wide idles).logBmcaInterval = .ok interval :=
      hinterval
    simp only [step, hall, orIllTyped, ok_bind, System.bmca, hlog, hround, pure_eq_ok, orPanic,
      List.map_append]
    rfl
  | _ => cases he

theorem run_wide (hidle : ∀ interval, ∀ port ∈ idles, port.Idle .release interval) :
    ∀ {es : List (Event A R C F T)} {sys sys' : System A R C F} {os : List PortActionIterator},
      (∀ e ∈ es, isBmcaOrGeneral e = true) →
      Machine.run (System.step .release) sys es = .ok (sys', os) →
      Machine.run (System.step .release) (sys.wide idles) es = .ok (sys'.wide idles, os) := by
  intro es
  induction es with
  | nil =>
    intro sys sys' os _ h
    obtain ⟨rfl, rfl⟩ := Prod.mk.inj (Except.ok.inj h)
    rfl
  | cons e es ih =>
    intro sys sys' os hes h
    rw [List.forall_mem_cons] at hes
    obtain ⟨sys₁, o, os', hstep, hrest, rfl⟩ := Machine.run_cons_eq_ok.mp h
    exact Machine.run_cons_eq_ok.mpr
      ⟨sys₁.wide idles, o, os', step_wide hes.1 hstep hidle, ih hes.2 hrest, rfl⟩

/-! ### Two ports with one number -/

/-- The ports of the unit tests. -/
abbrev TestPortInBmca := Port InBmca AcceptAnyMaster TestRng TestClock TestFilter

/-- An instance with the default clock identity, whose last port got this number. -/
def numberedState (numberPorts : UInt16) : PtpInstanceState :=
  let s := (testSystem testInstanceConfig).state
  { s with defaultDs := { s.defaultDs with numberPorts } }

/-- The calculations of `Port::new` do not depend on the identity. -/
theorem new_total (config : PortConfig AcceptAnyMaster) (identity : PortIdentity)
    (h : (Port.new .release config () ⟨⟩ identity ⟨⟩ :
      Except Panic TestPortInBmca).toOption.isSome = true) (identity' : PortIdentity) :
    ∃ port : TestPortInBmca, Port.new .release config () ⟨⟩ identity' ⟨⟩ = .ok port := by
  obtain ⟨port, hnew⟩ := Option.isSome_iff_exists.mp h
  obtain ⟨⟨duration, rng⟩, hduration, hnew⟩ := bind_eq_ok.mp (eq_ok_of_toOption hnew)
  obtain ⟨interval, hinterval, -⟩ := bind_eq_ok.mp hnew
  simp only [Port.new, hduration, hinterval, ok_bind, pure_eq_ok]
  exact ⟨_, rfl⟩

/-- A new port, when its number was found. -/
theorem addPort_step {sys : TestSystem} {config : PortConfig AcceptAnyMaster} {n : Nat}
    {port : TestPortInBmca} (hstate : sys.state = numberedState (UInt16.ofNat n))
    (hnew : Port.new .release config () ⟨⟩ (nthIdentity default n) ⟨⟩ = .ok port) :
    sys.step .release (.addPort config () ⟨⟩ ⟨⟩ : TestEvent) = .ok
      ({ state := numberedState (UInt16.ofNat (n + 1))
         logBmcaInterval := min sys.logBmcaInterval config.announceInterval.log2
         ports := sys.ports ++ [.inBmca port] }, .empty) := by
  have hnumber : overflow .release (decide (sys.state.defaultDs.numberPorts = 0xffff))
      (sys.state.defaultDs.numberPorts + 1) = .ok (UInt16.ofNat (n + 1)) := by
    rw [hstate, UInt16.ofNat_add]
    rfl
  have hfresh : Port.new .release config () ⟨⟩
      { clockIdentity := sys.state.defaultDs.clockIdentity, portNumber := UInt16.ofNat (n + 1) } ⟨⟩ =
        .ok port := by
    rw [hstate]
    exact hnew
  rw [step, System.addPort, hnumber, ok_bind, hfresh, ok_bind, hstate]
  rfl

/-- One master-only port and any number of others, in a release build. -/
theorem many_ports (n : Nat) :
    ∃ (sys : TestSystem) (first : TestPortInBmca) (idles : List TestPortInBmca),
      System.Reachable NoForwardedTLVs .release sys ∧
      sys.state = numberedState (UInt16.ofNat (n + 1)) ∧ sys.logBmcaInterval = 1 ∧
      sys.ports = .inBmca first :: idles.map .inBmca ∧ idles.length = n ∧
      Port.new .release masterOnlyConfig () ⟨⟩ (nthIdentity default 0) ⟨⟩ = .ok first ∧
      ∀ interval, ∀ port ∈ idles, port.Idle .release interval := by
  induction n with
  | zero =>
    obtain ⟨first, hfirst⟩ := new_total masterOnlyConfig default
      (by decide +kernel) (nthIdentity default 0)
    have hinit : System.Reachable NoForwardedTLVs .release (testSystem testInstanceConfig) :=
      .init ⟨testInstanceConfig, _, rfl⟩
    refine ⟨_, first, [], hinit.step (addPort_step rfl hfirst), rfl, rfl, rfl, rfl, hfirst, ?_⟩
    intro interval port hport
    cases hport
  | succ n ih =>
    obtain ⟨sys, first, idles, hreach, hstate, hlog, hports, hlength, hfirst, hidle⟩ := ih
    obtain ⟨port, hport⟩ := new_total testPortConfig default
      (by decide +kernel) (nthIdentity default (n + 1))
    refine ⟨_, first, idles ++ [port], hreach.step (addPort_step hstate hport), rfl, ?_, ?_, ?_,
      hfirst, fun interval port' hport' => ?_⟩
    · rw [hlog]
      rfl
    · rw [hports, List.map_append]
      rfl
    · rw [List.length_append, hlength]
      rfl
    · rcases List.mem_append.mp hport' with hold | hlast
      · exact hidle interval port' hold
      · obtain rfl := List.mem_singleton.mp hlast
        exact Port.idle_of_new hport interval

/-- The last port to the second place. -/
def lastToSecond (n : Nat) : List Nat := 0 :: (n + 1) :: (List.range n).map (· + 1)

theorem lastToSecond_perm (n : Nat) : (lastToSecond n).Perm (List.range (n + 2)) := by
  have hrange : List.range (n + 2) = 0 :: ((List.range n).map (· + 1) ++ [n + 1]) := by
    rw [List.range_succ_eq_map, List.range_succ, List.map_append]
    rfl
  rw [hrange, lastToSecond]
  exact List.Perm.cons _ (List.perm_append_singleton _ _).symm

theorem lastToSecond_ports {α : Type} (first last : α) (idles : List α) :
    (lastToSecond idles.length).filterMap ((first :: (idles ++ [last]))[·]?) =
      first :: last :: idles := by
  have hidles : ((List.range idles.length).map (· + 1)).filterMap
      ((first :: (idles ++ [last]))[·]?) = idles := by
    rw [List.filterMap_map]
    refine Eq.trans (List.filterMap_congr fun i hi => ?_) (filterMap_range_getElem? idles)
    rw [Function.comp_apply, List.getElem?_cons_succ,
      List.getElem?_append_left (List.mem_range.mp hi)]
  rw [lastToSecond, List.filterMap_cons, List.filterMap_cons, hidles]
  simp

/-- Two ports of one number, of which the first is master-only. -/
def twins (first last : TestPortInBmca) : TestSystem where
  state := numberedState 1
  logBmcaInterval := 1
  ports := [.inBmca first, .inBmca last]

/-- Whether a master-only port is a slave. -/
def masterOnlySlave (sys : TestSystem) : Bool :=
  sys.ports.any fun slot => slot.core.config.masterOnly && slot.isSlave

/-- The two ports hear the same messages. -/
def twinsCheck : Bool :=
  match Port.new .release masterOnlyConfig () ⟨⟩ (nthIdentity default 0) ⟨⟩,
      Port.new .release testPortConfig () ⟨⟩ (nthIdentity default 0) ⟨⟩ with
  | .ok first, .ok last =>
    Machine.endsWith (System.step .release) (twins first last) masterOnlyRun masterOnlySlave
  | _, _ => false

/-- **The port numbers of a release build wrap.**  The port that is made after 65536 others has the
number of the first one, which is master-only.  Both hear the same clock, and the first one is told
to follow it as well. -/
theorem wrapped_port_number :
    ∃ sys : TestSystem, System.Reachable NoForwardedTLVs .release sys ∧
      ∃ slot ∈ sys.ports, slot.core.config.masterOnly = true ∧ slot.isSlave = true := by
  obtain ⟨sys, first, idles, hreach, hstate, hlog, hports, hlength, hfirst, hidle⟩ := many_ports 65535
  obtain ⟨last, hlast⟩ := new_total testPortConfig default
    (by decide +kernel) (nthIdentity default 65536)
  have hadded := hreach.step (addPort_step hstate hlast)
  have hordered : System.Reachable NoForwardedTLVs .release ((twins first last).wide idles) := by
    refine Machine.Reachable.step (e := .reorder (lastToSecond idles.length)) (o := .empty) hadded ?_
    have hslots : sys.ports ++ [.inBmca last] =
        .inBmca first :: (idles.map .inBmca ++ [.inBmca last]) := by
      rw [hports, List.cons_append]
    have hcount : (sys.ports ++ [Slot.inBmca last]).length = idles.length + 2 := by
      rw [hslots, List.length_cons, List.length_append, List.length_map]
      rfl
    have hreordered : (lastToSecond idles.length).filterMap ((sys.ports ++ [.inBmca last])[·]?) =
        .inBmca first :: .inBmca last :: idles.map .inBmca := by
      rw [hslots, ← lastToSecond_ports, List.length_map]
    rw [step, hcount, if_pos (lastToSecond_perm _), hreordered, hlog]
    rfl
  have hsame : Port.new .release testPortConfig () ⟨⟩ (nthIdentity default 0) ⟨⟩ = .ok last := hlast
  have hcheck : Machine.endsWith (System.step .release) (twins first last) masterOnlyRun
      masterOnlySlave = true := by
    have htwins : twinsCheck = true := by decide +kernel
    simpa only [twinsCheck, hfirst, hsame] using htwins
  unfold Machine.endsWith at hcheck
  split at hcheck
  · rename_i sys' os hrun
    have hwide := Machine.Reachable.run masterOnlyRun hordered
      (run_wide hidle (by decide) hrun)
    obtain ⟨slot, hslot, hboth⟩ := List.any_eq_true.mp hcheck
    rw [Bool.and_eq_true] at hboth
    exact ⟨_, hwide, slot, List.mem_append_left _ hslot, hboth⟩
  · cases hcheck

end System

end Statime
