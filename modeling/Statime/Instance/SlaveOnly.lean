import Statime.Instance.Round
import Statime.Port.Effects

/-!
# A slave-only instance does not act as a master

A round of the best master clock algorithm takes all ports of a slave-only instance out of the
master state.  From then on only the announce receipt timer and a recommended state could bring
one back, and both look at `slave_only`.

* `PortCore.Step.master`: how a port becomes a master.
* `System.noMaster_bmca`, `System.noMaster_step`: a round, and any later step.
* `System.slave_only_never_master`: no master, and no message of a master, in the whole run.
-/

namespace Statime

open Rust

variable {A R C F T : Type} [AcceptableMasterList A] [Clock C] [Filter F] [Rng R]
  [ForwardedTLVProvider T]

/-! ### How a port becomes a master -/

namespace PortCore

variable {p : Profile} {c c' : PortCore}

theorem Measures.master (h : Measures p c c') (hc : c'.portState = .master) :
    c.portState = .master := by
  cases h with
  | idle => exact hc
  | peer =>
    dsimp only at hc
    split at hc
    · cases hc
    · exact hc
  | sync | delay => cases hc

omit [ForwardedTLVProvider T] in
theorem Stores.master {e : PortEvent T} (h : Stores p e c c') (hc : c'.portState = .master) :
    c.portState = .master := by
  cases h with
  | sync | delay => cases hc
  | peerRequest | peerResponse => exact hc

omit [ForwardedTLVProvider T] in
/-- **A port becomes a master** at its announce receipt timer, or when it is recommended to it. -/
theorem Step.master {e : PortEvent T} (h : Step p e c c') (hc : c'.portState = .master) :
    c.portState = .master ∨ (∃ s, e = .announceReceiptTimer s ∧ s.defaultDs.slaveOnly = false) ∨
      ∃ s state, e = .recommend s state := by
  cases h with
  | keep | age | requestPeerDelay => exact Or.inl hc
  | measure hstores hmeasures => exact Or.inl (hstores.master (hmeasures.master hc))
  | firstSync | requestDelay | fault | disable => cases hc
  | @timeout s he =>
    dsimp only at hc
    split at hc
    · cases hc
    · rename_i hslaveOnly
      exact Or.inr (Or.inl ⟨s, he, by simpa using hslaveOnly⟩)
  | recommended he => exact Or.inr (Or.inr ⟨_, _, he⟩)

/-- No recommended state makes a port of a slave-only instance a master. -/
theorem recommendedState_ne_master {s : PtpInstanceState} (hslaveOnly : s.defaultDs.slaveOnly = true)
    (state : RecommendedState) : c.recommendedState s state ≠ .master := by
  intro h
  unfold recommendedState at h
  cases state with
  | s1 message =>
    dsimp only at h
    split at h
    · cases h
    · cases h
    · cases h
    · cases h
    · split at h <;> cases h
  | m1 _ | m2 _ | m3 _ =>
    dsimp only at h
    rw [if_pos hslaveOnly] at h
    split at h <;> cases h
  | p1 _ | p2 _ =>
    dsimp only at h
    split at h <;> cases h

end PortCore

/-! ### The actions that wait for the end of a round -/

theorem Slot.Reachable.pendingAction {p : Profile} {slot : Slot A R C F}
    (h : Slot.Reachable T p slot) : slot.pendingAction.NoMasters := by
  refine Machine.Reachable.invariant (P := fun slot : Slot A R C F =>
    slot.pendingAction.NoMasters) ?_ ?_ h
  · rintro slot ⟨config, filterConfig, clock, identity, rng, port, hnew, rfl⟩
    obtain ⟨⟨duration, rng'⟩, -, hnew⟩ := bind_eq_ok.mp hnew
    obtain ⟨interval, -, hnew⟩ := bind_eq_ok.mp hnew
    obtain rfl := Except.ok.inj hnew
    exact Port.noMasters_timers rfl
  · intro slot e slot' actions hslot hstep
    exact (Slot.step_effect hstep).pending hslot

/-- **A round takes all ports of a slave-only instance out of the master state.** -/
theorem PtpInstanceState.bmca_ne_master {p : Profile} {s s' : PtpInstanceState}
    {ports ports' : List (Port InBmca A R C F)} {interval : Duration}
    (hslaveOnly : s.defaultDs.slaveOnly = true)
    (h : s.bmca p ports interval = .ok (ports', s')) :
    ∀ port ∈ ports', port.core.portState ≠ .master := by
  obtain ⟨ports₁, ports₂, ebest, hround⟩ := bmca_eq_ok h
  obtain ⟨hdecided, -⟩ := decideStates_decided hround.decide
  have h₂ : ∀ port ∈ ports₂, port.core.portState ≠ .master := by
    refine forall_mem_of_forall₂ (P := fun _ => True) hdecided ?_ (fun _ _ => trivial)
    rintro old new - ⟨s₁, s₂, hsame, hdecide⟩
    obtain ⟨recommended, hrecommends, hcore⟩ := decideState_core hdecide
    rw [hcore]
    cases recommended with
    | none =>
      cases hrecommends with
      | stay _ hlistening =>
        intro hmaster
        cases hlistening.symm.trans hmaster
    | some state =>
      exact PortCore.recommendedState_ne_master (by rw [hsame, hslaveOnly]) state
  refine forall_mem_of_forall₂ hround.age (fun old new hold hage => ?_) h₂
  obtain ⟨multiportDisable, hcore⟩ := Port.stepAnnounceAge_core hage
  rw [hcore]
  exact hold

namespace System

/-- No port is a master. -/
def NoMaster (sys : System A R C F) : Prop :=
  ∀ slot ∈ sys.ports, slot.core.portState ≠ .master

variable {p : Profile} {sys sys' : System A R C F} {e : Event A R C F T}
  {actions : PortActionIterator}

theorem noMaster_bmca {ports ports' : List (Port InBmca A R C F)} {interval : Duration}
    (hslaveOnly : sys.state.defaultDs.slaveOnly = true)
    (hbmca : sys.state.bmca p ports interval = .ok (ports', sys'.state))
    (hports : sys'.ports = ports'.map .inBmca) : sys'.NoMaster := by
  intro slot hslot
  rw [hports] at hslot
  obtain ⟨port, hport, rfl⟩ := List.mem_map.mp hslot
  exact PtpInstanceState.bmca_ne_master hslaveOnly hbmca port hport

/-- **A step of a slave-only instance without a master** makes none. -/
theorem noMaster_step (hslaveOnly : sys.state.defaultDs.slaveOnly = true) (hsys : sys.NoMaster)
    (h : sys.step p e = .ok (sys', actions)) : sys'.NoMaster := by
  intro slot hslot hmaster
  cases step_mem h hslot with
  | kept hold => exact hsys slot hold hmaster
  | stepped he hport =>
    rcases (Slot.step_core hport.step).master hmaster with hold | ⟨s, rfl, hnot⟩ | ⟨s, state, rfl⟩
    · exact hsys _ (List.mem_of_getElem? hport.get) hold
    · -- the timer looks at the setting of this very instance
      have hs : s = sys.state := by
        cases e <;> cases he
        rfl
      rw [hs, hslaveOnly] at hnot
      cases hnot
    · cases e <;> cases he
  | added hnew hslot =>
    rw [hslot] at hmaster
    cases (Port.new_portIdentity hnew).2.symm.trans hmaster
  | decided _ hbmca hport hslot =>
    rw [hslot] at hmaster
    exact PtpInstanceState.bmca_ne_master hslaveOnly hbmca _ hport hmaster

/-- Without a call on a port there is nothing to do. -/
theorem actions_not_onPort (he : e.onPort sys.state = none)
    (h : sys.step p e = .ok (sys', actions)) : actions = .empty := by
  cases e with
  | startBmca | endBmca | eventReceive | generalReceive | announceTimer | syncTimer
  | delayRequestTimer | announceReceiptTimer | filterUpdateTimer | sendTimestamp => cases he
  | addPort =>
    obtain ⟨sys₁, -, h⟩ := bind_eq_ok.mp h
    exact (Prod.mk.inj (Except.ok.inj h)).2.symm
  | reorder =>
    simp only [step] at h
    split at h
    · exact (Prod.mk.inj (Except.ok.inj h)).2.symm
    · cases h
  | bmca =>
    obtain ⟨ports, -, h⟩ := bind_eq_ok.mp h
    obtain ⟨sys₁, -, h⟩ := bind_eq_ok.mp h
    exact (Prod.mk.inj (Except.ok.inj h)).2.symm
  | setClockQuality | setSlaveOnly => exact (Prod.mk.inj (Except.ok.inj h)).2.symm

/-- **No message of a master** is sent while no port is one. -/
theorem noMasters_step (hr : System.Reachable T p sys) (hsys : sys.NoMaster)
    (h : sys.step p e = .ok (sys', actions)) : actions.NoMasters := by
  cases he : e.onPort sys.state with
  | some target =>
    obtain ⟨i, e'⟩ := target
    obtain ⟨old, new, hport⟩ := step_onPort he h
    have hmem := List.mem_of_getElem? hport.get
    exact (Slot.step_effect hport.step).packets (hsys old hmem) (hr.slot old hmem).pendingAction
  | none =>
    rw [actions_not_onPort he h]
    exact PortActionIterator.noMasters_empty

/-- The run from a state on: no port is a master in any state of it. -/
theorem noMaster_trace {sys₁ : System A R C F}
    {log : List (Machine.Transition (System A R C F) (Event A R C F T))}
    (h : Machine.Trace (System.step p) (fun s => s = sys₁) log sys')
    (hr : System.Reachable T p sys₁) (hslaveOnly : sys₁.state.defaultDs.slaveOnly = true)
    (hsys : sys₁.NoMaster) (hstays : ∀ t ∈ log, t.after.state.defaultDs.slaveOnly = true) :
    System.Reachable T p sys' ∧ sys'.state.defaultDs.slaveOnly = true ∧ sys'.NoMaster := by
  induction h with
  | init hs =>
    subst hs
    exact ⟨hr, hslaveOnly, hsys⟩
  | step _ hstep ih =>
    obtain ⟨hold, hlast⟩ := List.forall_mem_append.mp hstays
    obtain ⟨hr₁, hslaveOnly₁, hsys₁⟩ := ih hold
    exact ⟨hr₁.step hstep, hlast _ (List.mem_singleton_self _),
      noMaster_step hslaveOnly₁ hsys₁ hstep⟩

/-- **A slave-only instance never acts as a master.**  From a round of the best master clock algorithm
that finds `slave_only` set, and for as long as it stays set: no port is a master, and no step returns
a sync, follow-up, announce or delay response packet. -/
theorem slave_only_never_master {sys₀ sys₁ : System A R C F} {o : PortActionIterator}
    {log : List (Machine.Transition (System A R C F) (Event A R C F T))}
    (hr : System.Reachable T p sys₀) (hslaveOnly : sys₀.state.defaultDs.slaveOnly = true)
    (hbmca : sys₀.step p (.bmca : Event A R C F T) = .ok (sys₁, o))
    (htrace : Machine.Trace (System.step p) (fun s => s = sys₁) log sys')
    (hstays : ∀ t ∈ log, t.after.state.defaultDs.slaveOnly = true) :
    (∀ slot ∈ sys'.ports, slot.core.portState ≠ .master) ∧
      ∀ (e : Event A R C F T) (sys'' : System A R C F) (actions : PortActionIterator),
        sys'.step p e = .ok (sys'', actions) →
          ∀ data ∈ actions.packets, ∀ t, packetType data = some t →
            t ≠ .sync ∧ t ≠ .followUp ∧ t ≠ .announce ∧ t ≠ .delayResp := by
  obtain ⟨ports, interval, ports', -, hround, hports⟩ := step_bmca hbmca
  obtain ⟨ports₁, ports₂, ebest, hphases⟩ := PtpInstanceState.bmca_eq_ok hround
  have hdefault := (PtpInstanceState.decideStates_decided hphases.decide).2
  obtain ⟨hr', -, hsys'⟩ := noMaster_trace htrace (hr.step hbmca) (by rw [hdefault, hslaveOnly])
    (noMaster_bmca hslaveOnly hround hports) hstays
  refine ⟨hsys', fun e sys'' actions hstep data hdata t ht => ?_⟩
  have hmasters := noMasters_step hr' hsys' hstep data hdata t ht
  refine ⟨?_, ?_, ?_, ?_⟩ <;> rintro rfl <;> cases hmasters

/-- Whether a master is told to be slave-only, and the run goes on after a round. -/
def becomesSlaveOnly (es : List TestEvent) (sys : TestSystem) : Bool :=
  sys.state.defaultDs.slaveOnly && sys.ports.any (fun slot => decide (slot.core.portState = .master)) &&
    match System.step .release sys (.bmca : TestEvent) with
    | .ok (sys₁, _) => Machine.checkSteps (System.step .release)
        (fun t => t.after.state.defaultDs.slaveOnly) sys₁ es
    | .error _ => false

/-- A master is told to be slave-only; after the round its timers run out. -/
theorem slave_only_never_master_timers :
    ∃ (sys₀ sys' : TestSystem) (log : List (Machine.Transition TestSystem TestEvent)),
      sys₀.ports.any (fun slot => decide (slot.core.portState = .master)) = true ∧
      log.map (·.event) = [.endBmca 0, .announceReceiptTimer 0, .syncTimer 0] ∧
      (∀ slot ∈ sys'.ports, slot.core.portState ≠ .master) ∧
      ∀ (e : TestEvent) (sys'' : TestSystem) (actions : PortActionIterator),
        sys'.step .release e = .ok (sys'', actions) →
          ∀ data ∈ actions.packets, ∀ t, packetType data = some t →
            t ≠ .sync ∧ t ≠ .followUp ∧ t ≠ .announce ∧ t ≠ .delayResp := by
  have hrun : Machine.endsWith (System.step .release) (testSystem testInstanceConfig)
      ([.addPort testPortConfig () ⟨⟩ ⟨⟩, .endBmca 0, .announceReceiptTimer 0, .setSlaveOnly true,
        .startBmca 0] : List TestEvent)
      (becomesSlaveOnly [.endBmca 0, .announceReceiptTimer 0, .syncTimer 0]) = true := by
    decide +kernel
  obtain ⟨sys₀, hreach, hcheck⟩ := System.reachable_of_endsWith hrun
  unfold becomesSlaveOnly at hcheck
  rw [Bool.and_eq_true, Bool.and_eq_true] at hcheck
  obtain ⟨⟨hslaveOnly, hmaster⟩, hrest⟩ := hcheck
  split at hrest
  · rename_i sys₁ o hbmca
    have hinit : Machine.Trace (System.step .release) (fun s => s = sys₁)
      ([] : List (Machine.Transition TestSystem TestEvent)) sys₁ := .init rfl
    obtain ⟨log, sys', htrace, hevents, hstays, -⟩ := Machine.Trace.of_checkSteps _ hinit hrest
    exact ⟨sys₀, sys', log, hmaster, hevents,
      slave_only_never_master hreach hslaveOnly hbmca htrace hstays⟩
  · cases hrest

end System

end Statime
