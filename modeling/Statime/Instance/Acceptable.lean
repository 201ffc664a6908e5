import Statime.Instance.Heard
import Statime.Instance.SelectedMaster
import Statime.Instance.SingleSlave

/-!
# Unacceptable masters have no influence

The datasets of a slave are written before the list of acceptable masters is asked.  Nothing comes
of it: the parent of an instance is the master of its slave, which that very port accepted.

* `System.AcceptsMasters`: the invariant, a slave accepts the master that it follows.
* `System.step_unacceptable`: an announce message of a master that the port does not accept leaves
  the instance and all ports as they are.
* `System.Reachable.unacceptable_change_nothing`: nor does any number of them in a run.
-/

namespace Statime

open Rust

variable {A R C F T : Type} [AcceptableMasterList A] [Clock C] [Filter F] [Rng R]
  [ForwardedTLVProvider T]

namespace Port

/-- The sender is not in the list of acceptable masters. -/
def rejects (port : Port Running A R C F) (announce : AnnounceMessage) : Bool :=
  !AcceptableMasterList.isAcceptable port.bmca.acceptableMasterList
    announce.header.sourcePortIdentity.clockIdentity

/-- An announce message of such a sender. -/
def isUnacceptable (port : Port Running A R C F) (message : Message) : Bool :=
  match message.body with
  | .announce announce => port.rejects announce
  | _ => false

variable {p : Profile} {s : PtpInstanceState} {port : Port Running A R C F} {message : Message}
  {announce : AnnounceMessage}

omit [Clock C] [Rng R] in
theorem accepts_of_rejects (h : port.rejects announce = true) :
    port.bmca.accepts announce = false := by
  rw [rejects, Bool.not_eq_true'] at h
  rw [Bmca.accepts, h, Bool.and_false]

/-- Neither the datasets nor the foreign masters take the message. -/
theorem handleAnnounce_rejects (h : port.rejects announce = true)
    (hparent : port.isFromParent s announce = false) :
    port.handleAnnounce p s message announce = .ok (port, s, .empty) := by
  have hupdate : port.updateDatasets p s message announce = .ok (s, false) := by
    rw [updateDatasets, hparent]
    rfl
  have hregister : port.bmca.registerAnnounceMessage p message.header announce =
      .ok (port.bmca, false) := by
    rw [Bmca.registerAnnounceMessage, accepts_of_rejects h]
    rfl
  simp only [handleAnnounce, hupdate, ok_bind, registerAnnounce, hregister, pure_eq_ok,
    Bool.false_eq_true, if_false]

theorem handleGeneralInternal_unacceptable (h : port.isUnacceptable message = true)
    (hparent : ∀ announce, port.rejects announce = true → port.isFromParent s announce = false) :
    port.handleGeneralInternal p s message = .ok (port, s, .empty) := by
  unfold isUnacceptable at h
  unfold handleGeneralInternal
  cases hbody : message.body with
  | announce body =>
    rw [hbody] at h
    exact handleAnnounce_rejects h (hparent body h)
  | _ => simp [hbody] at h

/-- The channel over which it comes does not matter. -/
theorem handleEventMessage_unacceptable {timestamp : Time} (h : port.isUnacceptable message = true)
    (hparent : ∀ announce, port.rejects announce = true → port.isFromParent s announce = false) :
    port.handleEventMessage p s message timestamp = .ok (port, s, .empty) := by
  have hgeneral := handleGeneralInternal_unacceptable (p := p) h hparent
  unfold handleEventMessage
  cases hbody : message.body with
  | announce body => exact hgeneral
  | _ => simp [isUnacceptable, hbody] at h

end Port

namespace System

/-- **The invariant**: a slave accepts the master that it follows. -/
def AcceptsMasters (sys : System A R C F) : Prop :=
  ∀ slot ∈ sys.ports, ∀ master, slot.core.Follows master →
    slot.core.isAcceptable master.clockIdentity = true

variable {p : Profile} {sys sys' : System A R C F} {e : Event A R C F T}
  {actions : PortActionIterator}

/-- A round makes a port a slave of a master that it accepted. -/
theorem acceptsMasters_bmca {s s' : PtpInstanceState} {ports ports' : List (Port InBmca A R C F)}
    {interval : Duration} (hreachable : ∀ port ∈ ports, Slot.Reachable T p (.inBmca port))
    (hbmca : s.bmca p ports interval = .ok (ports', s')) :
    ∀ port ∈ ports', ∀ master, port.core.Follows master →
      port.core.isAcceptable master.clockIdentity = true := by
  obtain ⟨ports₁, ports₂, ebest, hround⟩ := PtpInstanceState.bmca_eq_ok hbmca
  have hbest := PtpInstanceState.Prepared.localBest_held hround.best hreachable
  have hdecided : ∀ port ∈ ports₂, ∀ master, port.core.Follows master →
      port.core.isAcceptable master.clockIdentity = true := by
    refine forall_mem_of_forall₂ (PtpInstanceState.decideStates_decided hround.decide).1 ?_ hbest
    intro port₁ port₂ hlocal hport master hmaster
    have hsame := hport.sameOwner
    obtain ⟨s₁, s₂, -, hdecide⟩ := hport
    obtain ⟨best, -, -, hfound, rfl, -⟩ := PtpInstanceState.decideState_follows hdecide hmaster
    have haccepts := (hlocal best hfound).1
    rw [PortCore.accepts, Bool.and_eq_true] at haccepts
    rw [hsame.isAcceptable]
    exact haccepts.2
  refine forall_mem_of_forall₂ hround.age ?_ hdecided
  intro port₂ port' hport₂ hage master hmaster
  obtain ⟨multiportDisable, hcore⟩ := Port.stepAnnounceAge_core hage
  rw [hcore] at hmaster ⊢
  exact hport₂ master hmaster

/-- **One step of an instance.** -/
theorem acceptsMasters_step (hreachable : System.Reachable T p sys) (hsys : sys.AcceptsMasters)
    (h : sys.step p e = .ok (sys', actions)) : sys'.AcceptsMasters := by
  intro slot hslot master hmaster
  cases step_mem h hslot with
  | kept hold => exact hsys slot hold master hmaster
  | stepped he hport =>
    have hstep := Slot.step_core hport.step
    rw [hstep.sameOwner.isAcceptable]
    exact hsys _ (List.mem_of_getElem? hport.get) master
      (hstep.follows (onPort_ne_recommend he) hmaster)
  | added hnew hslot =>
    obtain ⟨state, hslave, -⟩ := hmaster
    rw [hslot] at hslave
    cases (Port.new_portIdentity hnew).2.symm.trans hslave
  | decided hall hbmca hport hslot =>
    rw [hslot] at hmaster ⊢
    exact acceptsMasters_bmca (hreachable.inBmca hall) hbmca _ hport master hmaster

theorem Reachable.acceptsMasters (h : System.Reachable T p sys) : sys.AcceptsMasters := by
  induction h with
  | init hs =>
    obtain ⟨config, timeProperties, rfl⟩ := hs
    intro slot hslot
    cases hslot
  | step hr hstep ih => exact acceptsMasters_step hr ih hstep

/-- **The parent is acceptable**: a message that a port rejects is never taken for one of the
parent. -/
theorem Reachable.not_isFromParent (h : System.Reachable T p sys) {i : Nat}
    {port : Port Running A R C F} (hport : sys.getRunning i = some port)
    {announce : AnnounceMessage} (hrejects : port.rejects announce = true) :
    port.isFromParent sys.state announce = false := by
  by_contra hparent
  rw [Bool.not_eq_false, Port.isFromParent, Bool.and_eq_true, decide_eq_true_eq] at hparent
  obtain ⟨hsteering, hsource⟩ := hparent
  have hmem := List.mem_of_getElem? (getRunning_eq_some hport)
  obtain ⟨state, hstate⟩ : ∃ state, port.portState = .slave state := by
    unfold Port.isSteering at hsteering
    split at hsteering
    · rename_i state hstate
      exact ⟨state, hstate⟩
    · cases hsteering
  have hfollows : (Slot.running port).core.Follows state.remoteMaster :=
    PortCore.follows_of_slave hstate
  obtain ⟨identity, hslaves⟩ := h.slavesFollow
  have hmaster : announce.header.sourcePortIdentity = state.remoteMaster :=
    hsource.trans (hslaves _ hmem _ hfollows).2
  have hacceptable : port.core.isAcceptable state.remoteMaster.clockIdentity = true :=
    h.acceptsMasters _ hmem _ hfollows
  rw [Port.rejects, hmaster, Bool.not_eq_true'] at hrejects
  cases hacceptable.symm.trans hrejects

/-- Whether the event is the arrival of such a message at a running port. -/
def isUnacceptable (sys : System A R C F) : Event A R C F T → Bool
  | .eventReceive i data _ | .generalReceive i data =>
    match sys.getRunning i, Message.deserialize data with
    | some port, .ok message => port.isUnacceptable message
    | _, _ => false
  | _ => false

/-- **An unacceptable master changes nothing.** -/
theorem step_unacceptable (hreachable : System.Reachable T p sys)
    (h : sys.isUnacceptable e = true) : sys.step p e = .ok (sys, .empty) := by
  cases e with
  | eventReceive i data timestamp =>
    unfold isUnacceptable at h
    dsimp only at h
    split at h
    · rename_i port message hport hparse
      exact step_eventReceive_same hport hparse (Port.handleEventMessage_unacceptable h
        fun _ hrejects => hreachable.not_isFromParent hport hrejects)
    · cases h
  | generalReceive i data =>
    unfold isUnacceptable at h
    dsimp only at h
    split at h
    · rename_i port message hport hparse
      exact step_generalReceive_same hport hparse (Port.handleGeneralInternal_unacceptable h
        fun _ hrejects => hreachable.not_isFromParent hport hrejects)
    · cases h
  | _ => cases h

/-- **Unacceptable masters have no influence.**  In every state that an instance can reach, an
announce message from a clock that is not acceptable to the port is handled without any effect; and
from there on, a run with additional messages of this kind and the run without them have the same
result. -/
theorem Reachable.unacceptable_change_nothing (h : System.Reachable T p sys) :
    (∀ i port, sys.getRunning i = some port → ∀ message announce, port.rejects announce = true →
      port.handleAnnounce p sys.state message announce = .ok (port, sys.state, .empty)) ∧
    ∀ es : List (Event A R C F T × Bool),
      Machine.additionalAre (System.step p) System.isUnacceptable sys es = true →
        Machine.runOriginal (System.step p) sys es =
          Machine.run (System.step p) sys (Machine.original es) := by
  refine ⟨fun i port hport message announce hrejects => ?_, fun es hes => ?_⟩
  · exact Port.handleAnnounce_rejects hrejects (h.not_isFromParent hport hrejects)
  · exact Machine.runOriginal_eq (P := System.Reachable T p)
      (fun _ _ _ _ hr hstep => Machine.Reachable.step hr hstep)
      (fun _ _ hr hunacceptable => ⟨.empty, step_unacceptable hr hunacceptable⟩) es sys h hes

/-- A port that accepts clock 9 only follows it, and hears of clock 8 twice. -/
def unacceptableRun : List (Event (List ClockIdentity) TestRng TestClock TestFilter NoForwardedTLVs ×
    Bool) :=
  [(.addPort { testPortConfig with acceptableMasterList := [testParent.clockIdentity] } () ⟨⟩ ⟨⟩,
      false),
    (.endBmca 0, false), (.generalReceive 0 (announceBytes 8 0 64 0), true),
    (.generalReceive 0 (announceBytes 9 1 64 0), false),
    (.generalReceive 0 (announceBytes 9 1 64 1), false), (.startBmca 0, false), (.bmca, false),
    (.endBmca 0, false), (.generalReceive 0 (announceBytes 8 0 64 1), true),
    (.delayRequestTimer 0, false)]

theorem Reachable.unacceptable_change_nothing_two_announces :
    ∃ sys : System (List ClockIdentity) TestRng TestClock TestFilter, sys.ports = [] ∧
      Machine.additionalAre (System.step .debug) System.isUnacceptable sys unacceptableRun = true ∧
      Machine.runOriginal (System.step .debug) sys unacceptableRun =
        Machine.run (System.step .debug) sys (Machine.original unacceptableRun) := by
  have hrun : Machine.additionalAre (System.step .debug) System.isUnacceptable
      (System.new testInstanceConfig (testSystem testInstanceConfig).state.timePropertiesDs)
      unacceptableRun = true := by
    decide +kernel
  exact ⟨_, rfl, hrun, (Reachable.unacceptable_change_nothing
    (.init ⟨testInstanceConfig, _, rfl⟩)).2 unacceptableRun hrun⟩

end System

end Statime
