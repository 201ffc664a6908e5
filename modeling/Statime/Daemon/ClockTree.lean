import Statime.Daemon.ClockModes
import Mathlib.Logic.Relation

/-!
# One clock sets the time

When every clock task has taken the mode that `run` sent last, the clocks of the daemon form a tree.
Its root is the clock of the slave, which follows the network, and every other clock is steered by
exactly one clock task, directly or over the system clock from the root.

* `ClockDaemon.one_root`: the tree.
* `ClockDaemon.round_settles`: every round ends in such a state.
-/

namespace Statime

open Rust Machine

namespace ClockDaemon

variable {A R C F T : Type} [AcceptableMasterList A] [Clock C] [Filter F] [Rng R]
  [ForwardedTLVProvider T] {p : Profile} {config : Filter.Config F} {d d' : ClockDaemon A R C F}
  {portClocks : List (Option UInt32)}

/-! ### The tree -/

/-- Every clock task has taken the mode that `run` sent last. -/
structure Settled (d : ClockDaemon A R C F) : Prop where
  unsent : d.unsent = []
  current : ∀ (id : Nat) (task : ClockTask C F), d.tasks[id]? = some task →
    d.internalSyncSenders[id]? = some task.currentMode

/-- The clocks of the daemon.  `none` is the system clock. -/
def clocks (d : ClockDaemon A R C F) : List (Option UInt32) := none :: d.hwClocks.map some

/-- A clock task steers one of the clocks by the other. -/
def Sets (d : ClockDaemon A R C F) (clock clock' : Option UInt32) : Prop :=
  ∃ task ∈ d.tasks, task.source = clock ∧ task.steers = clock'

omit [AcceptableMasterList A] [Clock C] [Rng R] [ForwardedTLVProvider T] in
theorem clockOf_mem (entry : Option Nat) : d.clockOf entry ∈ d.clocks := by
  unfold clockOf clocks
  cases hentry : entry.bind fun id => d.hwClocks[id]? with
  | none => exact List.mem_cons_self
  | some idx =>
    obtain ⟨id, -, hid⟩ := Option.bind_eq_some_iff.mp hentry
    exact List.mem_cons_of_mem _ (List.mem_map_of_mem (List.mem_of_getElem? hid))

omit [AcceptableMasterList A] [Clock C] [Rng R] [ForwardedTLVProvider T] in
theorem Wired.mem_clocks (h : d.Wired portClocks) {clock : Option UInt32}
    (hclock : clock ∈ portClocks) : clock ∈ d.clocks := by
  rw [h.clocks] at hclock
  obtain ⟨entry, -, rfl⟩ := List.mem_map.mp hclock
  exact clockOf_mem entry

omit [AcceptableMasterList A] [Clock C] [Rng R] [ForwardedTLVProvider T] in
theorem Wired.nodup (h : d.Wired portClocks) : d.hwClocks.Nodup := by
  rw [List.nodup_iff_getElem?_ne_getElem?]
  intro i j hlt hj hsame
  have hget := List.getElem?_eq_getElem hj
  exact Nat.ne_of_lt hlt (h.distinct (hsame.trans hget) hget)

omit [Clock C] [Rng R] [ForwardedTLVProvider T] in
theorem Rooted.mode {root : Option Nat} (h : d.Rooted root) (hsettled : d.Settled) {id : Nat}
    {task : ClockTask C F} (hget : d.tasks[id]? = some task) :
    task.currentMode = .toSystem ↔ root = some id := by
  rw [← h.modes id, target_of_sent hsettled.unsent, hsettled.current id task hget, Option.some.injEq]

omit [Clock C] [Rng R] [ForwardedTLVProvider T] in
theorem Rooted.exists_task {id : Nat} (h : d.Rooted (some id)) : ∃ task, d.tasks[id]? = some task := by
  have hlt := h.inRange id rfl
  rw [hwClocks, List.length_map] at hlt
  exact ⟨_, List.getElem?_eq_getElem hlt⟩

section Tree

variable {root : Option Nat} (hroot : d.Rooted root) (hsettled : d.Settled)

include hroot hsettled

omit [Clock C] [Rng R] [ForwardedTLVProvider T] in
/-- A task sets the system clock by the root, or its own clock by the system clock. -/
theorem sets_of_task {id : Nat} {task : ClockTask C F} (hget : d.tasks[id]? = some task) :
    (root = some id ∧ task.steers = none ∧ d.Sets (d.clockOf root) none) ∨
      (root ≠ some id ∧ task.steers = some task.idx ∧ d.Sets none (some task.idx)) := by
  have htask := List.mem_of_getElem? hget
  by_cases hmode : task.currentMode = .toSystem
  · obtain ⟨hsource, hsteers⟩ := ClockTask.source_steers_of_toSystem hmode
    obtain rfl := (hroot.mode hsettled hget).mp hmode
    exact Or.inl ⟨rfl, hsteers, task, htask, hsource.trans (getElem?_hwClocks hget).symm, hsteers⟩
  · obtain ⟨hsource, hsteers⟩ := ClockTask.source_steers_of_ne hmode
    exact Or.inr ⟨fun hid => hmode ((hroot.mode hsettled hget).mpr hid), hsteers,
      task, htask, hsource, hsteers⟩

omit [Clock C] [Rng R] [ForwardedTLVProvider T] in
/-- The system clock is the root, or is set by it. -/
theorem root_sets_system : Relation.ReflTransGen d.Sets (d.clockOf root) none := by
  cases root with
  | none => exact .refl
  | some id =>
    obtain ⟨task, hget⟩ := hroot.exists_task
    rcases sets_of_task hroot hsettled hget with ⟨-, -, hsets⟩ | ⟨hne, -⟩
    · exact .single hsets
    · exact absurd rfl hne

variable (hwired : d.Wired portClocks)

include hwired

omit [Clock C] [Rng R] [ForwardedTLVProvider T] in
/-- No task steers the root. -/
theorem root_not_steered : d.tasks.countP (fun task => decide (task.steers = d.clockOf root)) = 0 := by
  rw [List.countP_eq_zero]
  intro task htask hsame
  rw [decide_eq_true_eq] at hsame
  obtain ⟨id, hget⟩ := List.mem_iff_getElem?.mp htask
  rcases sets_of_task hroot hsettled hget with ⟨rfl, hsteers, -⟩ | ⟨hne, hsteers, -⟩
  · cases (hsteers.symm.trans hsame).trans (getElem?_hwClocks hget)
  · exact hne (hwired.clockOf_some (getElem?_hwClocks hget) root (hsteers.symm.trans hsame).symm)

/-- **The root is left alone** by the clock tasks. -/
theorem root_kept {id : Nat} {e : ClockTaskEvent} {actions : PortActionIterator}
    (hstep : d.step p config (.clockTask id e : StepEvent A R C F T) = .ok (d', actions)) :
    (d.clockOf root = none → d'.systemClock = d.systemClock) ∧
      ∀ (i : Nat) (task task' : ClockTask C F), d.tasks[i]? = some task → d'.tasks[i]? = some task' →
        d.clockOf root = some task.idx → task'.clock = task.clock := by
  obtain ⟨task, htask, hstep⟩ := bind_eq_ok.mp hstep
  obtain ⟨watch, hwatch, hstep⟩ := bind_eq_ok.mp hstep
  obtain ⟨⟨task', systemClock⟩, hrun, hstep⟩ := bind_eq_ok.mp hstep
  obtain ⟨rfl, rfl⟩ := Prod.mk.inj (Except.ok.inj hstep)
  replace htask := orIllTyped_eq_ok.mp htask
  have hcurrent := hsettled.current id task htask
  obtain rfl := Option.some.inj (hcurrent.symm.trans (orIllTyped_eq_ok.mp hwatch))
  obtain ⟨hsystem, hclock⟩ := ClockTask.step_frame (orPanic_eq_ok.mp hrun)
  have hlt := (List.getElem?_eq_some_iff.mp htask).1
  refine ⟨fun hnone => hsystem fun hsteers => ?_, fun i old new hold hnew hidx => ?_⟩
  · rcases sets_of_task hroot hsettled htask with ⟨rfl, -⟩ | ⟨-, hsome, -⟩
    · cases hnone.symm.trans (getElem?_hwClocks htask)
    · cases hsteers.symm.trans hsome
  · obtain rfl := hwired.clockOf_some (getElem?_hwClocks hold) root hidx
    replace hnew : (d.tasks.set id task')[i]? = some new := hnew
    by_cases hsame : id = i
    · subst hsame
      rw [List.getElem?_set_self hlt] at hnew
      obtain rfl := Option.some.inj hnew
      obtain rfl := Option.some.inj (htask.symm.trans hold)
      rcases sets_of_task hroot hsettled htask with ⟨-, hsteers, -⟩ | ⟨hne, -⟩
      · exact hclock hsteers
      · exact absurd rfl hne
    · rw [List.getElem?_set_ne hsame] at hnew
      rw [Option.some.inj (hold.symm.trans hnew)]

variable {clock : Option UInt32} (hclock : clock ∈ d.clocks) (hne : clock ≠ d.clockOf root)

include hclock hne

omit hwired [Clock C] [Rng R] [ForwardedTLVProvider T] in
/-- The tasks that steer a clock which is not the root have one hardware clock. -/
theorem exists_steering : ∃ task ∈ d.tasks, task.steers = clock ∧
    ∀ task' ∈ d.tasks, task'.steers = clock → task'.idx = task.idx := by
  rcases List.mem_cons.mp hclock with rfl | hhw
  · -- the system clock is steered by the task of the root
    cases root with
    | none => exact absurd rfl hne
    | some id =>
      obtain ⟨task, hget⟩ := hroot.exists_task
      rcases sets_of_task hroot hsettled hget with ⟨-, hsteers, -⟩ | ⟨hother, -⟩
      · refine ⟨task, List.mem_of_getElem? hget, hsteers, fun task' htask' hsteers' => ?_⟩
        obtain ⟨id', hget'⟩ := List.mem_iff_getElem?.mp htask'
        rcases sets_of_task hroot hsettled hget' with ⟨hid, -⟩ | ⟨-, hsome, -⟩
        · obtain rfl := Option.some.inj hid
          rw [Option.some.inj (hget.symm.trans hget')]
        · cases hsome.symm.trans hsteers'
      · exact absurd rfl hother
  · -- a hardware clock is steered by its own task
    obtain ⟨idx, hidx, rfl⟩ := List.mem_map.mp hhw
    obtain ⟨task, htask, rfl⟩ := List.mem_map.mp hidx
    obtain ⟨id, hget⟩ := List.mem_iff_getElem?.mp htask
    rcases sets_of_task hroot hsettled hget with ⟨rfl, -⟩ | ⟨-, hsteers, -⟩
    · exact absurd (getElem?_hwClocks hget).symm hne
    · refine ⟨task, htask, hsteers, fun task' htask' hsteers' => ?_⟩
      obtain ⟨id', hget'⟩ := List.mem_iff_getElem?.mp htask'
      rcases sets_of_task hroot hsettled hget' with ⟨-, hnone, -⟩ | ⟨-, hsome, -⟩
      · cases hnone.symm.trans hsteers'
      · exact Option.some.inj (hsome.symm.trans hsteers')

omit [Clock C] [Rng R] [ForwardedTLVProvider T] in
/-- **Every other clock** is steered by one task, and follows the root. -/
theorem follows_root : d.tasks.countP (fun task => decide (task.steers = clock)) = 1 ∧
    Relation.ReflTransGen d.Sets (d.clockOf root) clock := by
  obtain ⟨task, htask, hsteers, hsame⟩ := exists_steering hroot hsettled hclock hne
  constructor
  · have hmost : d.tasks.countP (fun task => decide (task.steers = clock)) ≤ 1 :=
      countP_le_one_of_nodup_map (b := task.idx) hwired.nodup fun task' htask' hsteers' =>
        hsame task' htask' (of_decide_eq_true hsteers')
    exact Nat.le_antisymm hmost (List.countP_pos_iff.mpr ⟨task, htask, decide_eq_true hsteers⟩)
  · obtain ⟨id, hget⟩ := List.mem_iff_getElem?.mp htask
    have hsystem := root_sets_system hroot hsettled
    rcases sets_of_task hroot hsettled hget with ⟨-, hnone, -⟩ | ⟨-, hsome, hsets⟩
    · rwa [← hsteers, hnone]
    · rw [← hsteers, hsome]
      exact hsystem.tail hsets

end Tree

/-- **One clock sets the time.**  As long as the port numbers suffice, and whenever the clock tasks
have taken the modes that were sent to them, one clock of the daemon is steered by no clock task.  All
slaves use this clock.  Every other clock is steered by exactly one clock task, and gets its time from
the root, directly or over other clocks.  No step of a clock task changes the root. -/
theorem one_root (h : ClockDaemon.Reachable T p config d) (hnumbers : d.system.NumbersSuffice p)
    (hsettled : d.Settled) :
    (∀ clock ∈ d.portClocks, clock ∈ d.clocks) ∧
    ∃ root ∈ d.clocks,
      (∀ (i : Nat) (slot : Slot A R C F), d.system.ports[i]? = some slot → slot.isSlave = true →
        d.portClocks[i]? = some root) ∧
      d.tasks.countP (fun task => decide (task.steers = root)) = 0 ∧
      (∀ clock ∈ d.clocks, clock ≠ root →
        d.tasks.countP (fun task => decide (task.steers = clock)) = 1 ∧
        Relation.ReflTransGen d.Sets root clock) ∧
      ∀ (id : Nat) (e : ClockTaskEvent) (d' : ClockDaemon A R C F) (actions : PortActionIterator),
        d.step p config (.clockTask id e : StepEvent A R C F T) = .ok (d', actions) →
        (root = none → d'.systemClock = d.systemClock) ∧
        ∀ (i : Nat) (task task' : ClockTask C F), d.tasks[i]? = some task →
          d'.tasks[i]? = some task' → root = some task.idx → task'.clock = task.clock := by
  have hinv := h.inv
  obtain ⟨root, hroot⟩ := hinv.rooted hnumbers
  refine ⟨fun clock hclock => hinv.wired.mem_clocks hclock, d.clockOf root,
    clockOf_mem root, fun i slot hslot hslave => ?_,
    root_not_steered hroot hsettled hinv.wired,
    fun clock hclock hne => follows_root hroot hsettled hinv.wired hclock hne,
    fun id e d' actions hstep => root_kept hroot hsettled hinv.wired hstep⟩
  rw [hinv.wired.clocks, List.getElem?_map, hroot.slaves i slot hslot hslave, Option.map_some]

omit [AcceptableMasterList A] [Clock C] [Rng R] [ForwardedTLVProvider T] in
theorem settled_of_modes (hunsent : d.unsent = [])
    (hmodes : d.internalSyncSenders = d.tasks.map (·.currentMode)) : d.Settled where
  unsent := hunsent
  current := by
    intro id task hget
    rw [hmodes, List.getElem?_map, hget, Option.map_some]

abbrev TestDaemon := ClockDaemon AcceptAnyMaster TestRng TestClock TestFilter

/-- Two ports with hardware clocks, and one without. -/
def testSetups : List (PortSetup AcceptAnyMaster TestRng) :=
  [⟨testPortConfig, .auto, some 0, ⟨⟩⟩, ⟨testPortConfig, .specific 1, none, ⟨⟩⟩,
    ⟨testPortConfig, .auto, none, ⟨⟩⟩]

def testDaemon : Except Panic TestDaemon :=
  start .debug () (fun _ => ⟨⟩) ⟨⟩ testInstanceConfig
    (testSystem testInstanceConfig).state.timePropertiesDs testSetups

abbrev TestStepEvent := StepEvent AcceptAnyMaster TestRng TestClock TestFilter NoForwardedTLVs

/-- The second port hears a better clock. -/
def secondPortHears : List TestStepEvent :=
  [.port (.endBmca 1), .port (.generalReceive 1 (announceBytes 9 1 64 0)),
    .port (.generalReceive 1 (announceBytes 9 1 64 1)), .port (.startBmca 1)]

/-- It becomes a slave, and the clock tasks are told so. -/
def secondPortSlave : List TestStepEvent :=
  secondPortHears ++ [.bmca, .send, .send, .clockTask 0 .changed, .clockTask 1 .changed]

/-- The clock of the second port sets the time. -/
theorem one_root_second_port : ∃ d : TestDaemon, d.portClocks = [some 0, some 1, none] ∧
    d.tasks.countP (fun task => decide (task.steers = some 1)) = 0 ∧
    ∀ clock ∈ d.clocks, clock ≠ some 1 →
      d.tasks.countP (fun task => decide (task.steers = clock)) = 1 ∧
      Relation.ReflTransGen d.Sets (some 1) clock := by
  have hrun : testDaemon.toOption.any (fun d =>
      Machine.endsWith (ClockDaemon.step .debug ()) d secondPortSlave fun d =>
        decide (d.portClocks = [some 0, some 1, none] ∧ d.unsent = [] ∧
          d.internalSyncSenders = d.tasks.map (·.currentMode)) &&
        d.system.ports[1]?.any Slot.isSlave) = true := by
    decide +kernel
  obtain ⟨d₀, hstart, hends⟩ := (Option.any_eq_true _ _).mp hrun
  have hinit : Initial .debug () d₀ := ⟨_, _, _, _, testSetups, eq_ok_of_toOption hstart⟩
  obtain ⟨d, hreach, hcheck⟩ := Machine.Reachable.of_endsWith hinit hends
  rw [Bool.and_eq_true, decide_eq_true_eq] at hcheck
  obtain ⟨⟨hclocks, hunsent, hmodes⟩, hslave⟩ := hcheck
  obtain ⟨slot, hslot, hslave⟩ := (Option.any_eq_true _ _).mp hslave
  obtain ⟨-, root, -, hslaves, hnone, hothers, -⟩ :=
    one_root hreach (fun hp => by cases hp) (settled_of_modes hunsent hmodes)
  have hroot := hslaves 1 slot hslot hslave
  rw [hclocks] at hroot
  obtain rfl := Option.some.inj hroot
  exact ⟨d, hclocks, hnone, hothers⟩

/-! ### The daemon settles -/

/-- The modes that are not sent yet, and then every clock task. -/
def settling (T : Type) (d : ClockDaemon A R C F) : List (StepEvent A R C F T) :=
  List.replicate d.unsent.length .send ++
    (List.range d.tasks.length).map fun id => .clockTask id .changed

/-- **All modes are sent.** -/
theorem run_send (config : Filter.Config F) {unsent : List ClockSyncMode} :
    ∀ {d : ClockDaemon A R C F}, d.unsent = unsent → d.unsent.length ≤ d.internalSyncSenders.length →
    ∃ os, Machine.run (ClockDaemon.step (T := T) p config) d (List.replicate unsent.length .send) =
      .ok ({ d with internalSyncSenders := d.target, unsent := [] }, os) := by
  induction unsent with
  | nil =>
    intro d hunsent _
    refine ⟨[], ?_⟩
    have hsame : d = { d with internalSyncSenders := d.target, unsent := [] } := by
      rw [target_of_sent hunsent, ← hunsent]
    exact congrArg (fun d => Except.ok (d, [])) hsame
  | cons mode unsent ih =>
    intro d hunsent hle
    have hsent := target_send hunsent hle
    obtain ⟨os, hrun⟩ := ih (d := { d with
      internalSyncSenders :=
        d.internalSyncSenders.set (d.internalSyncSenders.length - d.unsent.length) mode
      unsent }) rfl (by
        rw [hunsent, List.length_cons] at hle
        rw [List.length_set]
        exact Nat.le_of_succ_le hle)
    rw [hsent] at hrun
    refine ⟨.empty :: os, Machine.run_cons_eq_ok.mpr ⟨_, .empty, os, ?_, hrun, rfl⟩⟩
    simp only [ClockDaemon.step, hunsent]

/-- **The first clock tasks take their modes.** -/
theorem run_changed (config : Filter.Config F)
    (hsenders : d.internalSyncSenders.length = d.tasks.length) :
    ∀ {n : Nat}, n ≤ d.tasks.length → ∃ d' os,
      Machine.run (ClockDaemon.step (T := T) p config) d
        ((List.range n).map fun id => .clockTask id .changed) = .ok (d', os) ∧
      d'.system = d.system ∧ d'.clockPortMap = d.clockPortMap ∧
      d'.internalSyncSenders = d.internalSyncSenders ∧ d'.unsent = d.unsent ∧
      d'.tasks.length = d.tasks.length ∧
      ∀ (id : Nat) (task : ClockTask C F), id < n → d'.tasks[id]? = some task →
        d.internalSyncSenders[id]? = some task.currentMode := by
  intro n
  induction n with
  | zero =>
    intro _
    exact ⟨d, [], rfl, rfl, rfl, rfl, rfl, rfl, fun id task hid => absurd hid (Nat.not_lt_zero id)⟩
  | succ n ih =>
    intro hn
    obtain ⟨d₁, os, hrun, hsystem, hmap, hwatch, hunsent, hlength, hmodes⟩ := ih (Nat.le_of_succ_le hn)
    have hlt : n < d₁.tasks.length := by rw [hlength]; exact hn
    have hlt' : n < d₁.internalSyncSenders.length := by rw [hwatch, hsenders]; exact hn
    obtain ⟨task, htask⟩ : ∃ task, d₁.tasks[n]? = some task := ⟨_, List.getElem?_eq_getElem hlt⟩
    obtain ⟨mode, hmode⟩ : ∃ mode, d₁.internalSyncSenders[n]? = some mode :=
      ⟨_, List.getElem?_eq_getElem hlt'⟩
    let next := task.setMode config d₁.systemClock mode
    have hstep : d₁.step p config (.clockTask n .changed : StepEvent A R C F T) =
        .ok ({ d₁ with tasks := d₁.tasks.set n next.1, systemClock := next.2 }, .empty) := by
      simp only [ClockDaemon.step, runClockTask, htask, hmode, orIllTyped, ok_bind, ClockTask.step,
        orPanic, pure_eq_ok]
      rfl
    refine ⟨{ d₁ with tasks := d₁.tasks.set n next.1, systemClock := next.2 }, os ++ [.empty], ?_,
      hsystem, hmap, hwatch, hunsent, List.length_set.trans hlength, ?_⟩
    · rw [List.range_succ, List.map_append]
      exact Machine.run_append hrun (Machine.run_cons_eq_ok.mpr ⟨_, _, [], hstep, rfl, rfl⟩)
    · intro id task' hid hget
      rw [← hwatch]
      replace hget : (d₁.tasks.set n next.1)[id]? = some task' := hget
      by_cases hsame : n = id
      · subst hsame
        rw [List.getElem?_set_self hlt] at hget
        rw [← Option.some.inj hget, ClockTask.setMode_currentMode]
        exact hmode
      · rw [List.getElem?_set_ne hsame] at hget
        rw [hwatch]
        exact hmodes id task' (by omega) hget

/-- The modes that are not sent yet can be sent, and each clock task can take its own. -/
theorem Inv.settles (hinv : Inv T p d) (config : Filter.Config F) :
    ∃ d' os, Machine.run (ClockDaemon.step (T := T) p config) d (settling T d) = .ok (d', os) ∧
      d'.Settled ∧ d'.system = d.system ∧ d'.clockPortMap = d.clockPortMap ∧
      d'.internalSyncSenders = d.target := by
  obtain ⟨os, hsend⟩ := run_send (T := T) (p := p) config rfl hinv.unsent
  have htarget : d.target.length = d.tasks.length := by
    have hsenders := hinv.wired.senders
    rw [hwClocks, List.length_map] at hsenders
    rw [target, List.length_append, List.length_take, ← hsenders]
    have hle := hinv.unsent
    omega
  obtain ⟨d', os', hchanged, hsystem, hmap, hwatch, hunsent, hlength, hmodes⟩ :=
    run_changed (T := T) (p := p) config
      (d := { d with internalSyncSenders := d.target, unsent := [] }) htarget (Nat.le_refl _)
  refine ⟨d', os ++ os', Machine.run_append hsend hchanged, ⟨hunsent, fun id task hget => ?_⟩,
    hsystem, hmap, hwatch⟩
  rw [hwatch]
  refine hmodes id task ?_ hget
  rw [← hlength]
  exact (List.getElem?_eq_some_iff.mp hget).1

/-- The round of the daemon, when the algorithm returns: no index is out of range. -/
theorem Inv.exists_runBmca (h : Inv T p d) {system : System A R C F} {actions : PortActionIterator}
    (hround : d.system.step p (.bmca : Event A R C F T) = .ok (system, actions)) :
    ∃ ports states, system.ports = ports.map .inBmca ∧
      clockStates d.clockPortMap 0 ports
        (List.replicate d.internalSyncSenders.length .fromSystem) = .ok states ∧
      d.runBmca T p = .ok ({ d with system, unsent := states }, actions) := by
  obtain ⟨before, interval, ports, hbefore, hbmca, hports⟩ := System.step_bmca hround
  have hall : System.allInBmca system.ports = some ports := by
    have hidle : System.allInBmca (system.wide []).ports = some (ports ++ []) :=
      System.allInBmca_wide hports
    rw [List.append_nil] at hidle
    rwa [System.wide, List.map_nil, List.append_nil] at hidle
  have hplaces : 0 + ports.length ≤ d.clockPortMap.length := by
    rw [Nat.zero_add, h.length, ← length_bmca hround, hports, List.length_map]
  have hlength : (List.replicate d.internalSyncSenders.length ClockSyncMode.fromSystem).length =
      d.hwClocks.length := List.length_replicate.trans h.wired.senders
  obtain ⟨states, hstates⟩ := exists_clockStates h.wired.inRange hplaces hlength
  refine ⟨ports, states, hports, hstates, ?_⟩
  simp only [runBmca, hround, hall, hstates, orIllTyped, orPanic, ok_bind, pure_eq_ok]

/-- **After a round** that the algorithm makes, the daemon sends the modes, and the clock tasks take
them.  Then a task steers the system clock if and only if a slave uses the clock of the task. -/
theorem round_settles (h : ClockDaemon.Reachable T p config d) (hunsent : d.unsent = [])
    {system : System A R C F} {actions : PortActionIterator}
    (hround : d.system.step p (.bmca : Event A R C F T) = .ok (system, actions)) :
    ∃ d₁ d' os, d.step p config (.bmca : StepEvent A R C F T) = .ok (d₁, actions) ∧
      Machine.run (ClockDaemon.step (T := T) p config) d₁ (settling T d₁) = .ok (d', os) ∧
      d'.Settled ∧ d'.system = system ∧
      ∀ task ∈ d'.tasks, task.steers = none ↔
        ∃ (i : Nat) (slot : Slot A R C F), system.ports[i]? = some slot ∧ slot.isSlave = true ∧
          d'.portClocks[i]? = some (some task.idx) := by
  have hinv := h.inv
  obtain ⟨ports, states, hports, hstates, hrun⟩ := hinv.exists_runBmca hround
  have hstep : d.step p config (.bmca : StepEvent A R C F T) =
      .ok ({ d with system, unsent := states }, actions) := (if_pos hunsent).trans hrun
  have hinv₁ := hinv.step hstep
  obtain ⟨d', os, hsettle, hsettled, hsystem, hmap, hwatch⟩ := hinv₁.settles config
  refine ⟨_, d', os, hstep, hsettle, hsettled, hsystem, fun task htask => ?_⟩
  have hwired := (Reachable.inv (Machine.Reachable.run _ (h.step hstep) hsettle)).wired
  obtain ⟨id, hget⟩ := List.mem_iff_getElem?.mp htask
  have hidx := getElem?_hwClocks hget
  obtain ⟨hlength, hmodes⟩ := clockStates_spec hstates
  rw [List.length_replicate] at hlength
  have hsteers : task.steers = none ↔ states[id]? = some .toSystem := by
    have hcurrent := hsettled.current id task hget
    rw [hwatch, target_of_round hlength] at hcurrent
    rw [hcurrent, Option.some.injEq]
    exact task.steers_eq_none
  have hbefore : (List.replicate d.internalSyncSenders.length ClockSyncMode.fromSystem)[id]? ≠
      some .toSystem := fun hmode => by cases List.eq_of_mem_replicate (List.mem_of_getElem? hmode)
  rw [hsteers, hmodes, or_iff_right hbefore]
  have hclock : ∀ i : Nat, d'.portClocks[i]? = some (some task.idx) ↔
      d.clockPortMap[0 + i]? = some (some id) := by
    intro i
    rw [hwired.clocks, hmap, List.getElem?_map, Option.map_eq_some_iff, Nat.zero_add]
    constructor
    · rintro ⟨entry, hentry, hclock⟩
      rw [hentry, hwired.clockOf_some hidx entry hclock]
    · exact fun hid => ⟨some id, hid, hidx⟩
  constructor
  · rintro ⟨k, hk, hid⟩
    obtain ⟨slot, hslot, hslave⟩ := (steering_iff hports k).mp hk
    exact ⟨k, slot, hslot, hslave, (hclock k).mpr hid⟩
  · rintro ⟨k, slot, hslot, hslave, hid⟩
    exact ⟨k, (steering_iff hports k).mpr ⟨slot, hslot, hslave⟩, (hclock k).mp hid⟩

/-- The daemon of three ports settles after its second port has heard a better clock. -/
theorem round_settles_second_port : ∃ (d d₁ d' : TestDaemon) (actions : PortActionIterator)
    (os : List PortActionIterator),
    d.step .debug () (.bmca : TestStepEvent) = .ok (d₁, actions) ∧
    Machine.run (ClockDaemon.step .debug ()) d₁ (settling NoForwardedTLVs d₁) = .ok (d', os) ∧
    d'.Settled ∧ ∀ task ∈ d'.tasks, task.steers = none ↔
      ∃ (i : Nat) (slot : Slot AcceptAnyMaster TestRng TestClock TestFilter),
        d'.system.ports[i]? = some slot ∧ slot.isSlave = true ∧
        d'.portClocks[i]? = some (some task.idx) := by
  have hrun : testDaemon.toOption.any (fun d =>
      Machine.endsWith (ClockDaemon.step .debug ()) d secondPortHears fun d =>
        decide (d.unsent = []) && (d.system.step .debug (.bmca : TestEvent)).toOption.isSome) = true := by
    decide +kernel
  obtain ⟨d₀, hstart, hends⟩ := (Option.any_eq_true _ _).mp hrun
  have hinit : Initial .debug () d₀ := ⟨_, _, _, _, testSetups, eq_ok_of_toOption hstart⟩
  obtain ⟨d, hreach, hcheck⟩ := Machine.Reachable.of_endsWith hinit hends
  rw [Bool.and_eq_true, decide_eq_true_eq] at hcheck
  obtain ⟨hunsent, hround⟩ := hcheck
  obtain ⟨⟨system, actions⟩, hround⟩ := Option.isSome_iff_exists.mp hround
  obtain ⟨d₁, d', os, hstep, hsettle, hsettled, hsystem, hsteers⟩ :=
    round_settles hreach hunsent (eq_ok_of_toOption hround)
  refine ⟨d, d₁, d', actions, os, hstep, hsettle, hsettled, ?_⟩
  rw [hsystem]
  exact hsteers

end ClockDaemon

end Statime
