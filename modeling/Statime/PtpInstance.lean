import Statime.Machine.Run
import Statime.Port.Handle

/-!
# A PTP instance and its ports

`statime/src/ptp_instance.rs`, and the machine that an instance and its ports are: the state of
the instance together with all ports made by `add_port`, and an event for every call that the
user can make.  The type state of a port says which calls on it are possible; an event that the
types do not allow stops the machine, as a panic does.
-/

namespace Statime

open Rust

variable {A R C F T : Type}

/-! ### The best master clock algorithm over all ports -/

namespace PtpInstanceState

/-- The state of `PtpInstance::new`. -/
def new (config : InstanceConfig) (timePropertiesDs : TimePropertiesDS) : PtpInstanceState where
  defaultDs := InternalDefaultDS.new config
  currentDs := { stepsRemoved := 0 }
  parentDs := InternalParentDS.new (InternalDefaultDS.new config)
  pathTraceDs := PathTraceDS.new config.pathTrace
  timePropertiesDs

variable [AcceptableMasterList A] [Clock C] [Filter F] [Rng R]

/-- The recommended state of one port. -/
def decideState (p : Profile) (ebest : Option BestAnnounceMessage) (s : PtpInstanceState)
    (port : Port InBmca A R C F) : Except Panic (Port InBmca A R C F × PtpInstanceState) := do
  match ← Bmca.calculateRecommendedState p s.defaultDs ebest port.bestLocalAnnounceMessageForState
      port.portState with
  | some recommendedState => port.setRecommendedState p s recommendedState
  | none => return (port, s)

/-- The ports one after the other. -/
def decideStates (p : Profile) (ebest : Option BestAnnounceMessage) :
    PtpInstanceState → List (Port InBmca A R C F) →
      Except Panic (List (Port InBmca A R C F) × PtpInstanceState)
  | s, [] => .ok ([], s)
  | s, port :: ports => do
    let (port, s) ← s.decideState p ebest port
    let (ports, s) ← decideStates p ebest s ports
    return (port :: ports, s)

def bmca (p : Profile) (s : PtpInstanceState) (ports : List (Port InBmca A R C F))
    (bmcaInterval : Duration) : Except Panic (List (Port InBmca A R C F) × PtpInstanceState) := do
  debugAssert p (decide (s.defaultDs.numberPorts.toNat = ports.length))
  let ports ← ports.mapM (·.calculateBestLocalAnnounceMessage p)
  let ebest ← Bmca.findBestAnnounceMessage p
    (ports.filterMap (·.bestLocalAnnounceMessageForBmca))
  let (ports, s) ← decideStates p ebest s ports
  let ports ← ports.mapM (·.stepAnnounceAge p bmcaInterval)
  return (ports, s)

end PtpInstanceState

/-! ### The machine -/

/-- A port in one of its two type states. -/
inductive Slot (A R C F : Type) [Filter F]
  | running (port : Port Running A R C F)
  | inBmca (port : Port InBmca A R C F)

structure System (A R C F : Type) [Filter F] where
  state : PtpInstanceState
  logBmcaInterval : Int8
  ports : List (Slot A R C F)

/-- The calls of the user.  Ports are named by their place in the list; the user may keep them in
any order, and so pass them to `bmca` in any order. -/
inductive Event (A R C F T : Type) [Filter F]
  | addPort (config : PortConfig A) (filterConfig : Filter.Config F) (clock : C) (rng : R)
  | reorder (order : List Nat)
  | startBmca (port : Nat)
  | endBmca (port : Nat)
  | bmca
  | setClockQuality (clockQuality : ClockQuality)
  | setSlaveOnly (slaveOnly : Bool)
  | eventReceive (port : Nat) (data : List UInt8) (timestamp : Time)
  | generalReceive (port : Nat) (data : List UInt8)
  | announceTimer (port : Nat) (provider : T)
  | syncTimer (port : Nat)
  | delayRequestTimer (port : Nat)
  | announceReceiptTimer (port : Nat)
  | filterUpdateTimer (port : Nat)
  | sendTimestamp (port : Nat) (context : TimestampContext) (timestamp : Time)

/-- Why there is no next state. -/
inductive Stop
  | panic (why : Panic)
  | illTyped
  deriving DecidableEq

/-- A panic stops the machine. -/
def orPanic {α : Type} : Except Panic α → Except Stop α
  | .ok a => .ok a
  | .error why => .error (.panic why)

/-- A call that the types do not allow stops it too. -/
def orIllTyped {α : Type} : Option α → Except Stop α
  | some a => .ok a
  | none => .error .illTyped

namespace System

section Defs

variable [Filter F]

/-- `PtpInstance::new`; `AtomicI8::new(i8::MAX)`. -/
def new (config : InstanceConfig) (timePropertiesDs : TimePropertiesDS) : System A R C F where
  state := PtpInstanceState.new config timePropertiesDs
  logBmcaInterval := 127
  ports := []

def getRunning (sys : System A R C F) (i : Nat) : Option (Port Running A R C F) :=
  match sys.ports[i]? with
  | some (.running port) => some port
  | _ => none

def getInBmca (sys : System A R C F) (i : Nat) : Option (Port InBmca A R C F) :=
  match sys.ports[i]? with
  | some (.inBmca port) => some port
  | _ => none

/-- All ports, when all of them take part in the algorithm. -/
def allInBmca : List (Slot A R C F) → Option (List (Port InBmca A R C F))
  | [] => some []
  | .inBmca port :: slots => (allInBmca slots).map (port :: ·)
  | .running _ :: _ => none

/-- The system after a handler of a running port. -/
def setRunning (sys : System A R C F) (i : Nat) (port : Port Running A R C F)
    (state : PtpInstanceState) : System A R C F :=
  { sys with ports := sys.ports.set i (.running port), state }

variable [AcceptableMasterList A] [Clock C] [Rng R]

/-- `PtpInstance::add_port`. -/
def addPort (p : Profile) (sys : System A R C F) (config : PortConfig A)
    (filterConfig : Filter.Config F) (clock : C) (rng : R) : Except Panic (System A R C F) := do
  let numberPorts ← overflow p (decide (sys.state.defaultDs.numberPorts = 0xffff))
    (sys.state.defaultDs.numberPorts + 1)
  let port ← Port.new p config filterConfig clock
    { clockIdentity := sys.state.defaultDs.clockIdentity, portNumber := numberPorts } rng
  return {
    state := { sys.state with defaultDs := { sys.state.defaultDs with numberPorts } }
    logBmcaInterval := min sys.logBmcaInterval config.announceInterval.log2
    ports := sys.ports ++ [.inBmca port] }

/-- `PtpInstance::bmca` over all ports. -/
def bmca (p : Profile) (sys : System A R C F) (ports : List (Port InBmca A R C F)) :
    Except Panic (System A R C F) := do
  let bmcaInterval ← Duration.fromSecondsLog p sys.logBmcaInterval
  let (ports, state) ← sys.state.bmca p ports bmcaInterval
  return { sys with state, ports := ports.map .inBmca }

/-- A handler of a running port that only reads the state of the instance. -/
def handle (sys : System A R C F) (i : Nat)
    (handler : Port Running A R C F → Except Panic (Port Running A R C F × PortActionIterator)) :
    Except Stop (System A R C F × PortActionIterator) := do
  let port ← orIllTyped (sys.getRunning i)
  let (port, actions) ← orPanic (handler port)
  return (sys.setRunning i port sys.state, actions)

/-- A handler of a running port that may change it. -/
def handleWithState (sys : System A R C F) (i : Nat)
    (handler : Port Running A R C F →
      Except Panic (Port Running A R C F × PtpInstanceState × PortActionIterator)) :
    Except Stop (System A R C F × PortActionIterator) := do
  let port ← orIllTyped (sys.getRunning i)
  let (port, state, actions) ← orPanic (handler port)
  return (sys.setRunning i port state, actions)

variable [ForwardedTLVProvider T]

def step (p : Profile) (sys : System A R C F) (e : Event A R C F T) :
    Except Stop (System A R C F × PortActionIterator) :=
  match e with
  | .addPort config filterConfig clock rng => do
    let sys ← orPanic (sys.addPort p config filterConfig clock rng)
    return (sys, .empty)
  | .reorder order =>
    if order.Perm (List.range sys.ports.length) then
      .ok ({ sys with ports := order.filterMap (sys.ports[·]?) }, .empty)
    else .error .illTyped
  | .startBmca i => do
    let port ← orIllTyped (sys.getRunning i)
    return ({ sys with ports := sys.ports.set i (.inBmca port.startBmca) }, .empty)
  | .endBmca i => do
    let port ← orIllTyped (sys.getInBmca i)
    let (port, actions) := port.endBmca
    return ({ sys with ports := sys.ports.set i (.running port) }, actions)
  | .bmca => do
    let ports ← orIllTyped (allInBmca sys.ports)
    let sys ← orPanic (sys.bmca p ports)
    return (sys, .empty)
  | .setClockQuality clockQuality =>
    .ok ({ sys with state :=
      { sys.state with defaultDs := { sys.state.defaultDs with clockQuality } } }, .empty)
  | .setSlaveOnly slaveOnly =>
    .ok ({ sys with state :=
      { sys.state with defaultDs := { sys.state.defaultDs with slaveOnly } } }, .empty)
  | .eventReceive i data timestamp =>
    sys.handleWithState i fun port => port.handleEventReceive p sys.state data timestamp
  | .generalReceive i data =>
    sys.handleWithState i fun port => port.handleGeneralReceive p sys.state data
  | .announceTimer i provider =>
    sys.handle i fun port => do
      let (port, _, actions) ← port.handleAnnounceTimer p sys.state provider
      return (port, actions)
  | .syncTimer i => sys.handle i fun port => port.handleSyncTimer p sys.state
  | .delayRequestTimer i => sys.handle i fun port => port.handleDelayRequestTimer p sys.state
  | .announceReceiptTimer i => sys.handle i fun port => port.handleAnnounceReceiptTimer sys.state
  | .filterUpdateTimer i => sys.handle i fun port => .ok port.handleFilterUpdateTimer
  | .sendTimestamp i context timestamp =>
    sys.handle i fun port => port.handleSendTimestamp p sys.state context timestamp

/-- A system without ports. -/
def Initial (sys : System A R C F) : Prop :=
  ∃ config timePropertiesDs, sys = System.new config timePropertiesDs

/-- The states of an instance and its ports, with announce timers served by providers of type
`T`. -/
def Reachable (T : Type) [ForwardedTLVProvider T] (p : Profile) (sys : System A R C F) : Prop :=
  Machine.Reachable (step (T := T) p) Initial sys

theorem reachable_of_endsWith {p : Profile} {config : InstanceConfig}
    {timePropertiesDs : TimePropertiesDS} {es : List (Event A R C F T)}
    {check : System A R C F → Bool}
    (h : Machine.endsWith (step p) (System.new config timePropertiesDs) es check = true) :
    ∃ sys, System.Reachable T p sys ∧ check sys = true :=
  Machine.Reachable.of_endsWith ⟨config, timePropertiesDs, rfl⟩ h

end Defs

end System

/-! ### The instance of the unit tests -/

abbrev TestSystem := System AcceptAnyMaster TestRng TestClock TestFilter

abbrev TestEvent := Event AcceptAnyMaster TestRng TestClock TestFilter NoForwardedTLVs

/-- An instance with the port of `setup_test_port`. -/
def testSystem (config : InstanceConfig) : TestSystem :=
  System.new config {
    currentUtcOffset := none
    leapIndicator := .noLeap
    timeTraceable := false
    frequencyTraceable := false
    ptpTimescale := false
    timeSource := .internalOscillator }

/-- The bytes of an announce message of `length` bytes from port 1 of the clock with `id` in all
bytes of its identity, which is its own grandmaster. -/
def announceBytes (id priority1 : UInt8) (length : Nat) (sequenceId : UInt8) : List UInt8 :=
  [0x0b, 0x12] ++ toBE 2 length ++ List.replicate 16 0 ++ List.replicate 8 id ++
    [0, 1, 0, sequenceId, 5, 0] ++ List.replicate 10 0 ++
    [0, 37, 0, priority1, 6, 0x21, 0x4e, 0x5d, 128] ++ List.replicate 8 id ++ [0, 0, 0x20]

/-- The sender of these messages for `id = 9`. -/
def testParent : PortIdentity where
  clockIdentity := ClockIdentity.ofWire (List.replicate 8 9)
  portNumber := 1

/-- The state of an instance that follows this sender. -/
def followingState (config : InstanceConfig) : PtpInstanceState :=
  let s := (testSystem config).state
  { s with parentDs := { s.parentDs with parentPortIdentity := testParent } }

/-- Two announce messages of a better clock and a round of the algorithm: the port becomes a
slave. -/
def becomeSlave (port : Nat) : List TestEvent :=
  [.endBmca port, .generalReceive port (announceBytes 9 1 64 0),
    .generalReceive port (announceBytes 9 1 64 1), .startBmca port, .bmca, .endBmca port]

end Statime
