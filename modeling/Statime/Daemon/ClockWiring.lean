import Statime.Daemon.Clocks
import Statime.Instance.SingleSlave

/-!
# Which port uses which clock

The start of the daemon gives every port its clock, and every hardware clock one clock task, also when
several ports use it.

* `ClockTask.steers`, `ClockTask.step_frame`: the clock that a task steers, the only one that it changes.
* `ClockDaemon.Wired`: which port uses which clock, and which task.
* `ClockDaemon.starting_of_start`: the daemon starts wired, without a slave.
-/

namespace Statime

open Rust Machine

/-! ### The clock of a task, and the clock that it steers -/

namespace ClockTask

variable {C F : Type} {task task' : ClockTask C F} {systemClock systemClock' : C}

/-- The clock by which the task steers the other one.  `none` is the system clock. -/
def source (task : ClockTask C F) : Option UInt32 :=
  match task.currentMode with
  | .fromSystem => none
  | .toSystem => some task.idx

/-- The clock that the task steers. -/
def steers (task : ClockTask C F) : Option UInt32 :=
  match task.currentMode with
  | .fromSystem => some task.idx
  | .toSystem => none

theorem source_steers_of_toSystem (h : task.currentMode = .toSystem) :
    task.source = some task.idx ∧ task.steers = none := by
  rw [source, steers, h]
  exact ⟨rfl, rfl⟩

theorem source_steers_of_ne (h : task.currentMode ≠ .toSystem) :
    task.source = none ∧ task.steers = some task.idx := by
  have hmode : task.currentMode = .fromSystem := by
    cases hcurrent : task.currentMode with
    | fromSystem => rfl
    | toSystem => exact absurd hcurrent h
  rw [source, steers, hmode]
  exact ⟨rfl, rfl⟩

theorem steer_idx (call : F → C → F × C × FilterUpdate) :
    (task.steer systemClock call).1.idx = task.idx := by
  unfold steer
  split <;> rfl

theorem steers_eq_none : task.steers = none ↔ task.currentMode = .toSystem := by
  rw [steers]
  cases task.currentMode with
  | fromSystem => exact ⟨(fun h => by cases h), (fun h => by cases h)⟩
  | toSystem => exact ⟨fun _ => rfl, fun _ => rfl⟩

theorem steer_frame (call : F → C → F × C × FilterUpdate) :
    (task.steers ≠ none → (task.steer systemClock call).2 = systemClock) ∧
      (task.steers = none → (task.steer systemClock call).1.clock = task.clock) := by
  rw [steers, steer]
  cases task.currentMode with
  | fromSystem => exact ⟨fun _ => rfl, fun h => by cases h⟩
  | toSystem => exact ⟨fun h => absurd rfl h, fun _ => rfl⟩

variable [Clock C] [Filter F] {config : Filter.Config F} {watch : ClockSyncMode}

theorem setMode_idx : (task.setMode config systemClock watch).1.idx = task.idx := by
  unfold setMode
  split
  · rfl
  · dsimp only
    split <;> rfl

theorem setMode_currentMode :
    (task.setMode config systemClock watch).1.currentMode = watch := by
  unfold setMode
  split
  · rename_i hsame
    exact hsame.symm
  · dsimp only
    split <;> rfl

theorem step_idx {p : Profile} {e : ClockTaskEvent}
    (h : task.step p config systemClock watch e = .ok (task', systemClock')) :
    task'.idx = task.idx := by
  cases e with
  | measurementTimer t1 t2 t3 =>
    obtain ⟨m, -, h⟩ := bind_eq_ok.mp h
    rw [← (Prod.mk.inj (Except.ok.inj h)).1]
    exact steer_idx fun filter clock => Filter.measurement filter m clock
  | updateTimer =>
    rw [← (Prod.mk.inj (Except.ok.inj h)).1]
    exact steer_idx fun filter clock => Filter.update filter clock
  | changed =>
    rw [← (Prod.mk.inj (Except.ok.inj h)).1]
    exact setMode_idx

/-- **A task changes the clock that it steers**, and no other, while its mode stays. -/
theorem step_frame {p : Profile} {e : ClockTaskEvent}
    (h : task.step p config systemClock task.currentMode e = .ok (task', systemClock')) :
    (task.steers ≠ none → systemClock' = systemClock) ∧
      (task.steers = none → task'.clock = task.clock) := by
  cases e with
  | measurementTimer t1 t2 t3 =>
    obtain ⟨m, -, h⟩ := bind_eq_ok.mp h
    have hsteer := Except.ok.inj h
    rw [← (Prod.mk.inj hsteer).1, ← (Prod.mk.inj hsteer).2]
    exact steer_frame fun filter clock => Filter.measurement filter m clock
  | updateTimer =>
    have hsteer := Except.ok.inj h
    rw [← (Prod.mk.inj hsteer).1, ← (Prod.mk.inj hsteer).2]
    exact steer_frame fun filter clock => Filter.update filter clock
  | changed =>
    have hsame : task.setMode config systemClock task.currentMode = (task, systemClock) := if_pos rfl
    obtain ⟨rfl, rfl⟩ := Prod.mk.inj (hsame.symm.trans (Except.ok.inj h))
    exact ⟨fun _ => rfl, fun _ => rfl⟩

end ClockTask

namespace ClockDaemon

variable {A R C F T : Type} [Filter F]

/-! ### Which port uses which clock -/

/-- The hardware clocks of the clock tasks. -/
def hwClocks (d : ClockDaemon A R C F) : List UInt32 := d.tasks.map (·.idx)

/-- The hardware clock of a place of `clock_port_map`. -/
def clockOf (d : ClockDaemon A R C F) (entry : Option Nat) : Option UInt32 :=
  entry.bind fun id => d.hwClocks[id]?

/-- **These clocks of the ports are those of the clock tasks**, and a hardware clock has one task. -/
structure Wired (d : ClockDaemon A R C F) (portClocks : List (Option UInt32)) : Prop where
  senders : d.internalSyncSenders.length = d.hwClocks.length
  named : ∀ idx id, d.clockNameMap.lookup idx = some id ↔ d.hwClocks[id]? = some idx
  inRange : ∀ id, some id ∈ d.clockPortMap → id < d.hwClocks.length
  clocks : portClocks = d.clockPortMap.map d.clockOf

variable {d d' : ClockDaemon A R C F} {portClocks : List (Option UInt32)}

/-- Two tasks with one clock are one. -/
theorem Wired.distinct (h : d.Wired portClocks) {i j : Nat} {idx : UInt32}
    (hi : d.hwClocks[i]? = some idx) (hj : d.hwClocks[j]? = some idx) : i = j :=
  Option.some.inj (((h.named idx i).mpr hi).symm.trans ((h.named idx j).mpr hj))

theorem Wired.clockOf_some (h : d.Wired portClocks) {id : Nat} {idx : UInt32}
    (hid : d.hwClocks[id]? = some idx) : ∀ entry, d.clockOf entry = some idx → entry = some id := by
  intro entry hentry
  obtain ⟨id', rfl, hid'⟩ := Option.bind_eq_some_iff.mp hentry
  rw [h.distinct hid' hid]

theorem getElem?_hwClocks {id : Nat} {task : ClockTask C F} (hget : d.tasks[id]? = some task) :
    d.hwClocks[id]? = some task.idx := by
  rw [hwClocks, List.getElem?_map, hget, Option.map_some]

/-- Another task for the same clock. -/
theorem hwClocks_set {id : Nat} {task task' : ClockTask C F} (systemClock : C)
    (hget : d.tasks[id]? = some task) (hidx : task'.idx = task.idx) :
    ({ d with tasks := d.tasks.set id task', systemClock } : ClockDaemon A R C F).hwClocks =
      d.hwClocks := by
  have hclock := getElem?_hwClocks hget
  obtain ⟨hlt, hsame⟩ := List.getElem?_eq_some_iff.mp hclock
  show (d.tasks.set id task').map (·.idx) = d.hwClocks
  rw [List.map_set, hidx, ← hsame]
  exact List.set_getElem_self hlt

/-- What the wiring is about. -/
theorem Wired.congr (h : d.Wired portClocks) (hclocks : d'.hwClocks = d.hwClocks)
    (hsenders : d'.internalSyncSenders.length = d.internalSyncSenders.length)
    (hnames : d'.clockNameMap = d.clockNameMap) (hmap : d'.clockPortMap = d.clockPortMap) :
    d'.Wired portClocks := by
  have hclockOf : d'.clockOf = d.clockOf := by
    funext entry
    rw [clockOf, hclocks]
    rfl
  exact {
    senders := by rw [hsenders, hclocks, h.senders]
    named := by rw [hnames, hclocks]; exact h.named
    inRange := by rw [hmap, hclocks]; exact h.inRange
    clocks := by rw [hmap, hclockOf]; exact h.clocks }

/-- A port on the system clock. -/
theorem Wired.addSwClock (h : d.Wired portClocks) : d.addSwClock.Wired (portClocks ++ [none]) where
  senders := h.senders
  named := h.named
  inRange := by
    intro id hid
    rcases List.mem_append.mp hid with hold | hlast
    · exact h.inRange id hold
    · cases List.mem_singleton.mp hlast
  clocks := by
    show portClocks ++ [none] = (d.clockPortMap ++ [none]).map d.clockOf
    rw [List.map_append, ← h.clocks]
    rfl

/-- A port on a hardware clock that has a task. -/
theorem Wired.oldClock (h : d.Wired portClocks) {idx : UInt32} {id : Nat}
    (hid : d.clockNameMap.lookup idx = some id) :
    { d with clockPortMap := d.clockPortMap ++ [some id] }.Wired (portClocks ++ [some idx]) where
  senders := h.senders
  named := h.named
  inRange := by
    intro id' hid'
    rcases List.mem_append.mp hid' with hold | hlast
    · exact h.inRange id' hold
    · obtain rfl := Option.some.inj (List.mem_singleton.mp hlast)
      exact (List.getElem?_eq_some_iff.mp ((h.named idx id').mp hid)).1
  clocks := by
    show portClocks ++ [some idx] = (d.clockPortMap ++ [some id]).map d.clockOf
    rw [List.map_append, ← h.clocks, ← (h.named idx id).mp hid]
    rfl

/-- A port on a hardware clock that has none yet. -/
theorem Wired.newClock (h : d.Wired portClocks) {idx : UInt32}
    (hnew : d.clockNameMap.lookup idx = none) (hclocks : d'.hwClocks = d.hwClocks ++ [idx])
    (hsenders : d'.internalSyncSenders.length = d.internalSyncSenders.length + 1)
    (hnames : d'.clockNameMap = (idx, d.internalSyncSenders.length) :: d.clockNameMap)
    (hmap : d'.clockPortMap = d.clockPortMap ++ [some d.internalSyncSenders.length]) :
    d'.Wired (portClocks ++ [some idx]) := by
  have hold : ∀ entry ∈ d.clockPortMap, d'.clockOf entry = d.clockOf entry := by
    intro entry hentry
    cases entry with
    | none => rfl
    | some id =>
      show d'.hwClocks[id]? = d.hwClocks[id]?
      rw [hclocks, List.getElem?_append_left (h.inRange id hentry)]
  refine ⟨?_, fun idx' id => ?_, fun id hid => ?_, ?_⟩
  · rw [hsenders, hclocks, List.length_append, h.senders]
    rfl
  · rw [hnames, hclocks, getElem?_concat_eq_some, ← h.named idx' id, h.senders]
    by_cases hidx : idx' = idx
    · subst hidx
      rw [List.lookup_cons_self, hnew]
      simp only [Option.some.injEq, reduceCtorEq, false_or, and_true, eq_comm]
    · rw [List.lookup_cons, beq_false_of_ne hidx]
      exact ⟨Or.inl, fun hor => hor.elim (fun hfound => hfound) fun hlast => absurd hlast.2.symm hidx⟩
  · rw [hmap] at hid
    rw [hclocks, List.length_append, List.length_singleton]
    rcases List.mem_append.mp hid with hbefore | hlast
    · exact Nat.lt_succ_of_lt (h.inRange id hbefore)
    · obtain rfl := Option.some.inj (List.mem_singleton.mp hlast)
      rw [h.senders]
      exact Nat.lt_succ_self _
  · have hlast : d'.clockOf (some d.internalSyncSenders.length) = some idx := by
      show d'.hwClocks[d.internalSyncSenders.length]? = some idx
      rw [hclocks, h.senders, List.getElem?_concat_length]
    rw [hmap, List.map_append, List.map_congr_left hold, ← h.clocks, List.map_singleton, hlast]

section Start

variable [Clock C] {config : Filter.Config F} {openIdx : UInt32 → C}

/-- **A port on a hardware clock** has the task of this clock. -/
theorem Wired.addHwClock {idx : UInt32} (h : d.Wired portClocks) :
    (d.addHwClock config openIdx idx).Wired (portClocks ++ [some idx]) := by
  unfold ClockDaemon.addHwClock
  split
  · exact h.oldClock ‹_›
  · exact h.newClock ‹_› (List.map_append) (List.length_append) rfl rfl

/-- The rest of the daemon. -/
theorem addHwClock_kept (config : Filter.Config F) (openIdx : UInt32 → C) (idx : UInt32)
    (hmodes : ∀ mode ∈ d.internalSyncSenders, mode = .fromSystem) :
    (d.addHwClock config openIdx idx).system = d.system ∧
      (d.addHwClock config openIdx idx).portClocks = d.portClocks ∧
      (d.addHwClock config openIdx idx).clockPortMap.length = d.clockPortMap.length + 1 ∧
      (∀ mode ∈ (d.addHwClock config openIdx idx).internalSyncSenders, mode = .fromSystem) ∧
      (d.addHwClock config openIdx idx).unsent = d.unsent := by
  unfold ClockDaemon.addHwClock
  split
  · exact ⟨rfl, rfl, List.length_append, hmodes, rfl⟩
  · refine ⟨rfl, rfl, List.length_append, fun mode hmode => ?_, rfl⟩
    exact (List.mem_append.mp hmode).elim (hmodes mode) List.mem_singleton.mp

variable [AcceptableMasterList A] [Rng R] [ForwardedTLVProvider T] {p : Profile}

/-- **While the ports are added**: no port is a slave, and no task steers the system clock. -/
structure Starting (T : Type) [ForwardedTLVProvider T] (p : Profile) (d : ClockDaemon A R C F) :
    Prop where
  reachable : System.Reachable T p d.system
  wired : d.Wired d.portClocks
  length : d.clockPortMap.length = d.system.ports.length
  noSlave : ∀ slot ∈ d.system.ports, slot.isSlave = false
  fromSystem : ∀ mode ∈ d.internalSyncSenders, mode = .fromSystem
  unsent : d.unsent = []

/-- A new port, after its clock. -/
theorem Starting.withPort (h : Starting T p d) {setup : PortSetup A R} {portClock : C}
    {bindPhc : Option UInt32} {system : System A R C F}
    (hsystem : d'.system = d.system) (hclocks : d'.portClocks = d.portClocks)
    (hwired : d'.Wired (d.portClocks ++ [bindPhc]))
    (hlength : d'.clockPortMap.length = d.clockPortMap.length + 1)
    (hmodes : ∀ mode ∈ d'.internalSyncSenders, mode = .fromSystem) (hunsent : d'.unsent = d.unsent)
    (hadd : d'.system.addPort p setup.config config portClock setup.rng = .ok system) :
    Starting T p { d' with system, portClocks := d'.portClocks ++ [bindPhc] } := by
  rw [hsystem] at hadd
  have hstep : d.system.step p (.addPort setup.config config portClock setup.rng : Event A R C F T) =
      .ok (system, .empty) := by
    simp only [System.step, hadd, orPanic, ok_bind, pure_eq_ok]
  obtain ⟨numberPorts, -, hnew⟩ := bind_eq_ok.mp hadd
  obtain ⟨port, hport, hnew⟩ := bind_eq_ok.mp hnew
  obtain rfl := Except.ok.inj hnew
  refine ⟨h.reachable.step hstep, ?_, ?_, fun slot hslot => ?_, hmodes, hunsent.trans h.unsent⟩
  · rw [hclocks]
    exact hwired.congr rfl rfl rfl rfl
  · show d'.clockPortMap.length = (d.system.ports ++ [Slot.inBmca port]).length
    rw [hlength, h.length, List.length_append, List.length_singleton]
  · rcases List.mem_append.mp hslot with hold | hlast
    · exact h.noSlave slot hold
    · obtain rfl := List.mem_singleton.mp hlast
      show Slot.isSlave (.inBmca port) = false
      unfold Slot.isSlave
      rw [show (Slot.inBmca port).core.portState = .listening from (Port.new_portIdentity hport).2]

theorem Starting.addPort (h : Starting T p d) {setup : PortSetup A R}
    (hadd : d.addPort p config openIdx setup = .ok d') : Starting T p d' := by
  obtain ⟨bindPhc, -, hadd⟩ := bind_eq_ok.mp hadd
  cases bindPhc with
  | none =>
    obtain ⟨system, hsystem, hadd⟩ := bind_eq_ok.mp hadd
    obtain rfl := Except.ok.inj hadd
    exact h.withPort rfl rfl h.wired.addSwClock List.length_append h.fromSystem rfl hsystem
  | some idx =>
    obtain ⟨system, hsystem, hadd⟩ := bind_eq_ok.mp hadd
    obtain rfl := Except.ok.inj hadd
    obtain ⟨hsame, hclocks, hlength, hmodes, hunsent⟩ :=
      addHwClock_kept config openIdx idx h.fromSystem
    exact h.withPort hsame hclocks h.wired.addHwClock hlength hmodes hunsent hsystem

theorem Starting.addPorts : ∀ {setups : List (PortSetup A R)} {d d' : ClockDaemon A R C F},
    Starting T p d → d.addPorts p config openIdx setups = .ok d' → Starting T p d' := by
  intro setups
  induction setups with
  | nil =>
    intro d d' h hadd
    obtain rfl := Except.ok.inj hadd
    exact h
  | cons setup setups ih =>
    intro d d' h hadd
    obtain ⟨d₁, hfirst, hrest⟩ := bind_eq_ok.mp hadd
    exact ih (h.addPort hfirst) hrest

/-- **The daemon starts wired.** -/
theorem starting_of_start {systemClock : C} {instanceConfig : InstanceConfig}
    {timePropertiesDs : TimePropertiesDS} {setups : List (PortSetup A R)}
    (h : start p config openIdx systemClock instanceConfig timePropertiesDs setups = .ok d) :
    Starting T p d := by
  refine Starting.addPorts ?_ h
  exact {
    reachable := .init ⟨instanceConfig, timePropertiesDs, rfl⟩
    wired := {
      senders := rfl
      named := fun idx id => by simp [hwClocks]
      inRange := fun id hid => by cases hid
      clocks := rfl }
    length := rfl
    noSlave := fun slot hslot => by cases hslot
    fromSystem := fun mode hmode => by cases hmode
    unsent := rfl }

end Start

end ClockDaemon

end Statime
