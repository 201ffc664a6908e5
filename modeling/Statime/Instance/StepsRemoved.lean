import Statime.Instance.RoundDatasets

/-!
# The steps removed

A message that is more than 254 steps away from its grandmaster does not go into a foreign master
list, so a round never writes a number above 255.  An announce message of the parent is written by
its receiver before this check, and without it.

* `System.Increments`: the messages whose steps removed an event adds one to.
* `System.stepsRemoved_in_range`: in a run in which no parent announces 255 steps or more, the
  number stays in range.
* `System.stepsRemoved_out_of_range`: a parent that announces more.
-/

namespace Statime

open Rust

variable {A R C F T : Type} [AcceptableMasterList A] [Clock C] [Filter F] [Rng R]
  [ForwardedTLVProvider T]

/-- One step further away. -/
theorem stepsRemoved_add_one {steps : UInt16} (h : steps < 255) : steps + 1 ≤ 255 := by
  have hlt : steps.toNat < 255 := h
  have hone : (1 : UInt16).toNat = 1 := rfl
  refine UInt16.le_iff_toNat_le.mpr ?_
  rw [UInt16.toNat_add]
  show (steps.toNat + (1 : UInt16).toNat) % 2 ^ 16 ≤ 255
  omega

namespace PtpInstanceState

/-- The number of steps is in range. -/
def StepsInRange (s : PtpInstanceState) : Prop := s.currentDs.stepsRemoved ≤ 255

variable {p : Profile} {s s' : PtpInstanceState} {announce : AnnounceMessage}

theorem SameDatasets.stepsInRange (h : s.SameDatasets s') (hs : s.StepsInRange) :
    s'.StepsInRange := by
  rw [StepsInRange, h.currentDs]
  exact hs

theorem AsAnnounced.stepsInRange (h : s.AsAnnounced announce) (hsteps : announce.stepsRemoved < 255) :
    s.StepsInRange := by
  rw [StepsInRange, h.stepsRemoved]
  exact stepsRemoved_add_one hsteps

theorem IsGrandmaster.stepsInRange (h : s.IsGrandmaster) : s.StepsInRange := by
  rw [StepsInRange, h.stepsRemoved]
  decide

/-- **A round of reachable ports.** -/
theorem stepsInRange_bmca {ports ports' : List (Port InBmca A R C F)} {interval : Duration}
    (hreachable : ∀ port ∈ ports, Slot.Reachable T p (.inBmca port)) (hs : s.StepsInRange)
    (h : s.bmca p ports interval = .ok (ports', s')) : s'.StepsInRange := by
  obtain ⟨ports₁, ports₂, ebest, hround⟩ := bmca_eq_ok h
  have hbest := Prepared.localBest_held hround.best hreachable
  refine decideStates_brings (W := StepsInRange) (B := fun _ => False)
    (P := fun port => ∀ best, port.lifecycle.localBest = some best →
      port.core.accepts best.message = true ∧ best.message.stepsRemoved < 255)
    ?_ rfl hbest hround.decide (Or.inl hs)
  intro s₁ port port' s₂ _ hport hdecide hs₁
  rcases decideState_datasets hdecide with ⟨rfl, -⟩ | ⟨hown, -⟩ | ⟨best, -, hlocal, hwritten⟩
  · exact hs₁.resolve_right id
  · exact hown.stepsInRange
  · exact hwritten.stepsInRange (hport best hlocal).2

end PtpInstanceState

namespace System

variable {p : Profile} {sys sys' : System A R C F} {e : Event A R C F T}
  {actions : PortActionIterator}

/-- The message whose steps removed the event adds one to: a slave hears it from its parent, or a
round recommends a port to follow its sender. -/
def Increments (p : Profile) (sys : System A R C F) (e : Event A R C F T)
    (announce : AnnounceMessage) : Prop :=
  sys.HearsParent e announce ∨
    e = .bmca ∧ ∃ ports, allInBmca sys.ports = some ports ∧ ∃ port ∈ ports,
      sys.state.recommendation p ports port = .ok (some (.s1 announce))

/-- What a parent says is in range. -/
def ParentInRange (sys : System A R C F) (e : Event A R C F T) : Prop :=
  ∀ announce, sys.HearsParent e announce → announce.stepsRemoved < 255

/-- **One step of an instance** whose parent is in range. -/
theorem stepsInRange_step (hr : System.Reachable T p sys) (hsys : sys.state.StepsInRange)
    (hparent : sys.ParentInRange e) (h : sys.step p e = .ok (sys', actions)) :
    sys'.state.StepsInRange := by
  by_cases he : e = .bmca
  · subst he
    obtain ⟨ports, interval, ports', hall, hbmca, -⟩ := step_bmca h
    exact PtpInstanceState.stepsInRange_bmca (hr.inBmca hall) hsys hbmca
  · rcases step_datasets he h with hsame | ⟨announce, hhears, hannounced⟩
    · exact hsame.stepsInRange hsys
    · exact hannounced.stepsInRange (hparent announce hhears)

/-- The message that a port is told to follow is one that it holds. -/
theorem Reachable.recommendation_s1 (hr : System.Reachable T p sys)
    {ports : List (Port InBmca A R C F)} (hall : allInBmca sys.ports = some ports)
    {port : Port InBmca A R C F} (hport : port ∈ ports) {announce : AnnounceMessage}
    (h : sys.state.recommendation p ports port = .ok (some (.s1 announce))) :
    announce.stepsRemoved < 255 := by
  cases Bmca.calculateRecommendedState_recommends h with
  | s1 _ _ hbest =>
    unfold Port.erbest at hbest
    split at hbest
    · rename_i best bmca htake
      exact ((hr.inBmca hall port hport).held _ _ ((Bmca.holds_takeBest htake).2 _ hbest)).2
    · cases hbest

/-- **The steps removed stay in range.**  In every run in which no slave hears 255 steps or more from
its parent, the number of the instance is at most 255, and no event of this kind that may come next
makes an increment overflow. -/
theorem stepsRemoved_in_range
    {log : List (Machine.Transition (System A R C F) (Event A R C F T))}
    (htrace : Machine.Trace (System.step p) System.Initial log sys)
    (hparent : ∀ t ∈ log, t.before.ParentInRange t.event) :
    sys.state.currentDs.stepsRemoved ≤ 255 ∧
      ∀ (e : Event A R C F T) announce, sys.ParentInRange e → sys.Increments p e announce →
        announce.stepsRemoved.toNat + 1 < 2 ^ 16 := by
  have hr : System.Reachable T p sys := htrace.reachable
  constructor
  · clear hr
    induction htrace with
    | init hs =>
      obtain ⟨config, timeProperties, rfl⟩ := hs
      exact UInt16.zero_le
    | step hbefore hstep ih =>
      obtain ⟨hold, hlast⟩ := List.forall_mem_append.mp hparent
      exact stepsInRange_step hbefore.reachable (ih hold) (hlast _ (List.mem_singleton_self _)) hstep
  · rintro e announce hrange (hhears | ⟨-, ports, hall, port, hport, hrecommended⟩)
    · have hlt : announce.stepsRemoved.toNat < 255 := hrange announce hhears
      omega
    · have hlt : announce.stepsRemoved.toNat < 255 := hr.recommendation_s1 hall hport hrecommended
      omega

/-- The announce message of clock 9 with this number of steps. -/
def farAnnounceBytes (steps : Nat) : List UInt8 :=
  (announceBytes 9 1 64 2).take 61 ++ toBE 2 steps ++ [0x20]

/-- A slave whose parent then says that it is this far away. -/
def farParentRun (steps : Nat) : List TestEvent :=
  .addPort testPortConfig () ⟨⟩ ⟨⟩ :: becomeSlave 0 ++ [.generalReceive 0 (farAnnounceBytes steps)]

/-- Whether a message is in range, if it is one of the parent. -/
def parentInRange (sys : System A R C F) (e : Event A R C F T) : Bool :=
  match receivedOn e with
  | some (i, data) =>
    match sys.getRunning i, Port.parseAndFilter sys.state data with
    | some port, .ok (some message) =>
      match message.body with
      | .announce announce =>
        !port.isFromParent sys.state announce || decide (announce.stepsRemoved < 255)
      | _ => true
    | _, _ => true
  | none => true

omit [AcceptableMasterList A] [Clock C] [Rng R] [ForwardedTLVProvider T] in
theorem parentInRange_sound (h : sys.parentInRange e = true) : sys.ParentInRange e := by
  rintro announce ⟨i, port, message, ⟨data, hreceived, hport, hparse, hbody⟩, hparent⟩
  simpa only [parentInRange, hreceived, hport, hparse, hbody, hparent, Bool.not_true,
    Bool.false_or, decide_eq_true_eq] using h

/-- The parent is 254 steps away. -/
theorem stepsRemoved_in_range_far_parent :
    ∃ (log : List (Machine.Transition TestSystem TestEvent)) (sys : TestSystem),
      log.map (·.event) = farParentRun 254 ∧ sys.state.currentDs.stepsRemoved ≤ 255 := by
  have hrun : Machine.checkSteps (System.step .debug) (fun t => t.before.parentInRange t.event)
      (testSystem testInstanceConfig) (farParentRun 254) = true := by
    decide +kernel
  have hinit : Machine.Trace (System.step .debug) System.Initial
      ([] : List (Machine.Transition TestSystem TestEvent)) (testSystem testInstanceConfig) :=
    .init ⟨testInstanceConfig, _, rfl⟩
  obtain ⟨log, sys, htrace, hevents, hrange, -⟩ :=
    Machine.Trace.of_checkSteps (farParentRun 254) hinit hrun
  exact ⟨log, sys, hevents,
    (stepsRemoved_in_range htrace fun t ht => parentInRange_sound (hrange t ht)).1⟩

/-- Whether the event panics because of an overflow. -/
def overflows (sys : TestSystem) (e : TestEvent) : Bool :=
  match System.step .debug sys e with
  | .error (.panic .overflow) => true
  | _ => false

/-- A parent that says that it is 300 or 65535 steps away. -/
theorem stepsRemoved_out_of_range :
    (∃ sys : TestSystem, System.Reachable NoForwardedTLVs .debug sys ∧
      sys.state.currentDs.stepsRemoved = 301) ∧
    (∃ sys : TestSystem, System.Reachable NoForwardedTLVs .debug sys ∧
      sys.overflows (.generalReceive 0 (farAnnounceBytes 0xffff)) = true) ∧
    ∃ sys : TestSystem, System.Reachable NoForwardedTLVs .release sys ∧
      sys.ports.any Slot.isSlave = true ∧ sys.state.currentDs.stepsRemoved = 0 := by
  have hfar : Machine.endsWith (System.step .debug) (testSystem testInstanceConfig)
      (farParentRun 300) (fun sys => decide (sys.state.currentDs.stepsRemoved = 301)) = true := by
    decide +kernel
  have hpanic : Machine.endsWith (System.step .debug) (testSystem testInstanceConfig)
      (.addPort testPortConfig () ⟨⟩ ⟨⟩ :: becomeSlave 0)
      (fun sys => sys.overflows (.generalReceive 0 (farAnnounceBytes 0xffff))) = true := by
    decide +kernel
  have hwrap : Machine.endsWith (System.step .release) (testSystem testInstanceConfig)
      (farParentRun 0xffff) (fun sys => sys.ports.any Slot.isSlave &&
        decide (sys.state.currentDs.stepsRemoved = 0)) = true := by
    decide +kernel
  obtain ⟨sys₁, hreach₁, hcheck₁⟩ := System.reachable_of_endsWith hfar
  obtain ⟨sys₂, hreach₂, hcheck₂⟩ := System.reachable_of_endsWith hpanic
  obtain ⟨sys₃, hreach₃, hcheck₃⟩ := System.reachable_of_endsWith hwrap
  rw [Bool.and_eq_true, decide_eq_true_eq] at hcheck₃
  exact ⟨⟨sys₁, hreach₁, of_decide_eq_true hcheck₁⟩, ⟨sys₂, hreach₂, hcheck₂⟩,
    sys₃, hreach₃, hcheck₃⟩

end System

end Statime
