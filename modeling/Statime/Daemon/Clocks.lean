import Statime.Port.Machine

/-!
# The clocks of the daemon

`clock_task`, the start of the clocks in `actual_main`, and what `run` says to the clock tasks, of
`statime-linux/src/main.rs`.  A port uses a hardware clock, or the system clock.  Each hardware clock
has a task that compares it with the system clock and steers one of the two: the hardware clock by the
system clock, unless a port that uses the hardware clock is a slave.

A reading of the clocks is an argument of the calls, on the time scale of the system clock.  A clock
task has a clock of its own, and all of them share the system clock.

* `ClockTask.step`: a step of a clock task.
* `ClockDaemon.start`: the tasks, and which port uses which clock.
* `ClockDaemon.step`: a step of a port, of a clock task, or of `run`.
-/

namespace Statime

open Rust Machine

/-! ### The clock tasks -/

/-- Which clock is steered by which. -/
inductive ClockSyncMode
  | fromSystem
  | toSystem
  deriving DecidableEq

instance : Inhabited ClockSyncMode := ⟨.fromSystem⟩

/-- What a clock task measures: `t2` of its own clock, between two readings of the system clock. -/
def interclockMeasurement (p : Profile) (mode : ClockSyncMode) (t1 t2 t3 : Time) :
    Except Panic Measurement := do
  let twice ← t3.diff p t1
  let delay ← twice.div p 2
  let offsetA ← t2.diff p t1
  let offsetB ← t3.diff p t2
  match mode with
  | .fromSystem =>
    let offset ← offsetA.sub p delay
    let rawDelayOffset ← offsetB.neg p
    return {
      eventTime := t2
      offset := some offset
      delay := some delay
      rawSyncOffset := some offsetA
      rawDelayOffset := some rawDelayOffset }
  | .toSystem =>
    let eventTime ← t1.add p delay
    let offset ← offsetB.sub p delay
    let rawDelayOffset ← offsetA.neg p
    return {
      eventTime
      offset := some offset
      delay := some delay
      rawSyncOffset := some offsetB
      rawDelayOffset := some rawDelayOffset }

/-- A clock task with its hardware clock, which has this index. -/
structure ClockTask (C F : Type) where
  idx : UInt32
  clock : C
  currentMode : ClockSyncMode
  filter : F

/-- The branches of `select!`. -/
inductive ClockTaskEvent
  | measurementTimer (t1 t2 t3 : Time)
  | updateTimer
  /-- `mode_receiver.changed()` -/
  | changed

namespace ClockTask

variable {C F : Type} [Clock C] [Filter F]

def new (config : Filter.Config F) (idx : UInt32) (clock : C) : ClockTask C F where
  idx
  clock
  currentMode := .fromSystem
  filter := Filter.new config

/-- A call of the filter, with the clock that the mode says. -/
def steer (task : ClockTask C F) (systemClock : C) (call : F → C → F × C × FilterUpdate) :
    ClockTask C F × C :=
  match task.currentMode with
  | .fromSystem =>
    let (filter, clock, _) := call task.filter task.clock
    ({ task with filter, clock }, systemClock)
  | .toSystem =>
    let (filter, systemClock, _) := call task.filter systemClock
    ({ task with filter }, systemClock)

/-- Another mode: the old filter lets go of its clock. -/
def setMode (config : Filter.Config F) (task : ClockTask C F) (systemClock : C)
    (newMode : ClockSyncMode) : ClockTask C F × C :=
  if newMode = task.currentMode then (task, systemClock)
  else
    let task' := { task with currentMode := newMode, filter := Filter.new config }
    match task.currentMode with
    | .fromSystem => ({ task' with clock := Filter.demobilize task.filter task.clock }, systemClock)
    | .toSystem => (task', Filter.demobilize task.filter systemClock)

/-- A step, when the watch has this mode. -/
def step (p : Profile) (config : Filter.Config F) (task : ClockTask C F) (systemClock : C)
    (watch : ClockSyncMode) : ClockTaskEvent → Except Panic (ClockTask C F × C)
  | .measurementTimer t1 t2 t3 => do
    let m ← interclockMeasurement p task.currentMode t1 t2 t3
    return task.steer systemClock fun filter clock => Filter.measurement filter m clock
  | .updateTimer => .ok (task.steer systemClock fun filter clock => Filter.update filter clock)
  | .changed => .ok (task.setMode config systemClock watch)

end ClockTask

/-! ### The start -/

/-- The configured clock of a port. -/
inductive HardwareClock
  | auto
  | required
  | specific (idx : UInt32)
  | none

/-- The hardware clock of a port whose interface has this one: `expect("No hardware clock found")`. -/
def HardwareClock.bindPhc : HardwareClock → Option UInt32 → Except Panic (Option UInt32)
  | .auto, phc => .ok phc
  | .required, some idx => .ok (some idx)
  | .required, .none => .error .unwrap
  | .specific idx, _ => .ok (some idx)
  | .none, _ => .ok .none

/-- A port of the configuration, and the clock that `lookup_phc` finds. -/
structure PortSetup (A R : Type) where
  config : PortConfig A
  hardwareClock : HardwareClock
  phc : Option UInt32
  rng : R

/-- The instance with its ports and clocks.  `portClocks` are the hardware clocks of the ports, and
`unsent` are the modes that `run` has not sent yet. -/
structure ClockDaemon (A R C F : Type) [Filter F] where
  system : System A R C F
  systemClock : C
  portClocks : List (Option UInt32)
  clockNameMap : List (UInt32 × Nat)
  clockPortMap : List (Option Nat)
  internalSyncSenders : List ClockSyncMode
  tasks : List (ClockTask C F)
  unsent : List ClockSyncMode

namespace ClockDaemon

variable {A R C F T : Type} [Filter F]

def addHwClock [Clock C] (config : Filter.Config F) (openIdx : UInt32 → C) (d : ClockDaemon A R C F)
    (idx : UInt32) : ClockDaemon A R C F :=
  match d.clockNameMap.lookup idx with
  | some id => { d with clockPortMap := d.clockPortMap ++ [some id] }
  | none =>
    let id := d.internalSyncSenders.length
    { d with
      clockPortMap := d.clockPortMap ++ [some id]
      clockNameMap := (idx, id) :: d.clockNameMap
      internalSyncSenders := d.internalSyncSenders ++ [.fromSystem]
      tasks := d.tasks ++ [ClockTask.new config idx (openIdx idx)] }

def addSwClock (d : ClockDaemon A R C F) : ClockDaemon A R C F :=
  { d with clockPortMap := d.clockPortMap ++ [none] }

section Start

variable [AcceptableMasterList A] [Clock C] [Rng R]

/-- One port of the configuration. -/
def addPort (p : Profile) (config : Filter.Config F) (openIdx : UInt32 → C) (d : ClockDaemon A R C F)
    (setup : PortSetup A R) : Except Panic (ClockDaemon A R C F) := do
  let bindPhc ← setup.hardwareClock.bindPhc setup.phc
  let (d, portClock) := match bindPhc with
    | some idx => (d.addHwClock config openIdx idx, openIdx idx)
    | none => (d.addSwClock, d.systemClock)
  let system ← d.system.addPort p setup.config config portClock setup.rng
  return { d with system, portClocks := d.portClocks ++ [bindPhc] }

/-- All ports, one after the other. -/
def addPorts (p : Profile) (config : Filter.Config F) (openIdx : UInt32 → C) :
    ClockDaemon A R C F → List (PortSetup A R) → Except Panic (ClockDaemon A R C F)
  | d, [] => .ok d
  | d, setup :: setups => do
    let d ← d.addPort p config openIdx setup
    addPorts p config openIdx d setups

def start (p : Profile) (config : Filter.Config F) (openIdx : UInt32 → C) (systemClock : C)
    (instanceConfig : InstanceConfig) (timePropertiesDs : TimePropertiesDS)
    (setups : List (PortSetup A R)) : Except Panic (ClockDaemon A R C F) :=
  addPorts p config openIdx {
    system := System.new instanceConfig timePropertiesDs
    systemClock
    portClocks := []
    clockNameMap := []
    clockPortMap := []
    internalSyncSenders := []
    tasks := []
    unsent := [] } setups

end Start

/-! ### The run loop -/

/-- `clock_states[id] = ClockSyncMode::ToSystem` -/
def setToSystem (states : List ClockSyncMode) (id : Nat) : Except Panic (List ClockSyncMode) :=
  if id < states.length then .ok (states.set id .toSystem) else .error .index

/-- The body of the loop, for the port with this number. -/
def clockState (clockPortMap : List (Option Nat)) (idx : Nat) (port : Port InBmca A R C F)
    (states : List ClockSyncMode) : Except Panic (List ClockSyncMode) :=
  if port.isSteering then
    match clockPortMap[idx]? with
    | some (some id) => setToSystem states id
    | some none => .ok states
    | none => .error .index
  else .ok states

/-- The loop over the ports from the one with this number on. -/
def clockStates (clockPortMap : List (Option Nat)) :
    Nat → List (Port InBmca A R C F) → List ClockSyncMode → Except Panic (List ClockSyncMode)
  | _, [], states => .ok states
  | idx, port :: ports, states => do
    let states ← clockState clockPortMap idx port states
    clockStates clockPortMap (idx + 1) ports states

/-- A step of the daemon. -/
inductive StepEvent (A R C F T : Type) [Filter F]
  /-- A call of a port task on its port. -/
  | port (e : Event A R C F T)
  /-- `run` has all ports: the algorithm, and the modes that follow from it. -/
  | bmca
  /-- `run` sends the next mode. -/
  | send
  | clockTask (id : Nat) (e : ClockTaskEvent)

variable [AcceptableMasterList A] [Clock C] [Rng R] [ForwardedTLVProvider T]

/-- A call of a port task on its port. -/
def callPort (p : Profile) (d : ClockDaemon A R C F) (e : Event A R C F T) :
    Except Stop (ClockDaemon A R C F × PortActionIterator) := do
  let (system, actions) ← d.system.step p e
  return ({ d with system }, actions)

/-- The algorithm over all ports, and the modes that follow from it. -/
def runBmca (T : Type) [ForwardedTLVProvider T] (p : Profile) (d : ClockDaemon A R C F) :
    Except Stop (ClockDaemon A R C F × PortActionIterator) := do
  let (system, actions) ← d.system.step p (.bmca : Event A R C F T)
  let ports ← orIllTyped (System.allInBmca system.ports)
  let states ← orPanic (clockStates d.clockPortMap 0 ports
    (List.replicate d.internalSyncSenders.length .fromSystem))
  return ({ d with system, unsent := states }, actions)

def runClockTask (p : Profile) (config : Filter.Config F) (d : ClockDaemon A R C F) (id : Nat)
    (e : ClockTaskEvent) : Except Stop (ClockDaemon A R C F × PortActionIterator) := do
  let task ← orIllTyped d.tasks[id]?
  let watch ← orIllTyped d.internalSyncSenders[id]?
  let (task, systemClock) ← orPanic (task.step p config d.systemClock watch e)
  return ({ d with tasks := d.tasks.set id task, systemClock }, .empty)

/-- The ports are with their tasks when all modes are sent. -/
def step (p : Profile) (config : Filter.Config F) (d : ClockDaemon A R C F) :
    StepEvent A R C F T → Except Stop (ClockDaemon A R C F × PortActionIterator)
  | .port e =>
    if d.unsent = [] ∧ (e.onPort d.system.state).isSome then d.callPort p e else .error .illTyped
  | .bmca => if d.unsent = [] then d.runBmca T p else .error .illTyped
  | .send =>
    match d.unsent with
    | [] => .error .illTyped
    | mode :: unsent =>
      let id := d.internalSyncSenders.length - d.unsent.length
      .ok ({ d with internalSyncSenders := d.internalSyncSenders.set id mode, unsent }, .empty)
  | .clockTask id e => d.runClockTask p config id e

def Initial (p : Profile) (config : Filter.Config F) (d : ClockDaemon A R C F) : Prop :=
  ∃ openIdx systemClock instanceConfig timePropertiesDs setups,
    start p config openIdx systemClock instanceConfig timePropertiesDs setups = .ok d

/-- The states that a daemon with this configuration of its filters can be in. -/
def Reachable (T : Type) [ForwardedTLVProvider T] (p : Profile) (config : Filter.Config F)
    (d : ClockDaemon A R C F) : Prop :=
  Machine.Reachable (step (T := T) p config) (Initial p config) d

end ClockDaemon

end Statime
