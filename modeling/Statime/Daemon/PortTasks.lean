import Mathlib.Data.List.FinRange
import Mathlib.Logic.Function.Basic
import Statime.Machine.Run

/-!
# The run loop and the port tasks of the daemon

`run`, `port_task` and `ethernet_port_task` of `statime-linux/src/main.rs`.  The best master clock
algorithm stops the world: the run loop asks for all ports with the watch value `bmca_notify`, collects
them, and gives them back.  Each port has a task of its own and two channels of capacity one.

The tasks and the run loop are processes; an event is a step of one of them, in any order.  A port is
the number of its slot.  `wait_for` looks at the value that the watch has, and not at its changes.

* `PortTask.step`: a step of a task.
* `Daemon.step`, `Daemon.step_cases`: a step of any process, and what it can be.
-/

namespace Statime

open Rust Machine

variable {n : Nat}

/-! ### The tasks -/

/-- Where a port task is in its loop; the port that it holds. -/
inductive PortTaskState (n : Nat)
  /-- `port_task_receiver.recv()` -/
  | receiving
  /-- Handling actions. -/
  | handling (port : Fin n)
  /-- `tokio::select!` -/
  | selecting (port : Fin n)
  /-- `port_task_sender.send(port_in_bmca)` -/
  | sending (port : Fin n)
  deriving DecidableEq

/-- A port task with its two channels: `main_task_sender` to `port_task_receiver`, and
`port_task_sender` to `main_task_receiver`. -/
structure PortTask (n : Nat) where
  state : PortTaskState n
  portTaskReceiver : List (Fin n)
  mainTaskReceiver : List (Fin n)
  deriving DecidableEq

def PortTaskState.ports : PortTaskState n → List (Fin n)
  | receiving => []
  | handling port | selecting port | sending port => [port]

/-- The ports that are with the task or in its channels. -/
def PortTask.ports (task : PortTask n) : List (Fin n) :=
  task.state.ports ++ task.portTaskReceiver ++ task.mainTaskReceiver

/-- What a task does next. -/
inductive PortTaskEvent
  | receive
  /-- All actions are handled. -/
  | handled
  /-- `select!` takes a branch that is not the notification. -/
  | handle
  /-- `select!` takes the branch of the notification, and the loop ends. -/
  | notified
  | send
  deriving DecidableEq

/-- A process waits. -/
inductive Blocked
  | blocked

/-- A send waits while the channel is full. -/
def sendTo (channel : List (Fin n)) (port : Fin n) : Except Blocked (List (Fin n)) :=
  if channel.length < 1 then .ok (channel ++ [port]) else .error .blocked

namespace PortTask

def step (bmcaNotify : Bool) (task : PortTask n) : PortTaskEvent → Except Blocked (PortTask n)
  | .receive =>
    match task.state, task.portTaskReceiver with
    | .receiving, port :: rest =>
      .ok { task with state := .handling port, portTaskReceiver := rest }
    | _, _ => .error .blocked
  | .handled =>
    match task.state with
    | .handling port => .ok { task with state := .selecting port }
    | _ => .error .blocked
  | .handle =>
    match task.state with
    | .selecting port => .ok { task with state := .handling port }
    | _ => .error .blocked
  | .notified =>
    match task.state with
    | .selecting port =>
      if bmcaNotify then .ok { task with state := .sending port } else .error .blocked
    | _ => .error .blocked
  | .send =>
    match task.state with
    | .sending port => do
      let mainTaskReceiver ← sendTo task.mainTaskReceiver port
      return { task with state := .receiving, mainTaskReceiver }
    | _ => .error .blocked

end PortTask

/-! ### The run loop -/

/-- Where the run loop is, and the ports that it holds. -/
inductive RunLoop (n : Nat)
  /-- The timer of the algorithm runs. -/
  | waiting
  /-- `bmca_ports.push(receiver.recv())` -/
  | collecting (bmcaPorts : List (Fin n))
  /-- All ports are there, and the notification is taken back. -/
  | stopped (bmcaPorts : List (Fin n))
  /-- The ports that are left to send, from the sender with this index on. -/
  | returning (sender : Nat) (bmcaPorts : List (Fin n))
  deriving DecidableEq

def RunLoop.ports : RunLoop n → List (Fin n)
  | waiting => []
  | collecting bmcaPorts | stopped bmcaPorts | returning _ bmcaPorts => bmcaPorts

structure Daemon (n : Nat) where
  runLoop : RunLoop n
  bmcaNotify : Bool
  tasks : Fin n → PortTask n

inductive DaemonEvent (n : Nat)
  /-- The timer expires; `bmca_notify_sender.send(true)`. -/
  | notify
  | collect
  /-- `bmca_notify_sender.send(false)` -/
  | deassert
  | bmca
  | giveBack
  | reset
  | task (i : Fin n) (e : PortTaskEvent)
  deriving DecidableEq

namespace Daemon

/-- One step; with the ports that `instance.bmca` is called on. -/
def step (d : Daemon n) : DaemonEvent n → Except Blocked (Daemon n × Option (List (Fin n)))
  | .notify =>
    match d.runLoop with
    | .waiting => .ok ({ d with runLoop := .collecting [], bmcaNotify := true }, none)
    | _ => .error .blocked
  | .collect =>
    match d.runLoop with
    | .collecting bmcaPorts =>
      if h : bmcaPorts.length < n then
        let i : Fin n := ⟨bmcaPorts.length, h⟩
        match (d.tasks i).mainTaskReceiver with
        | port :: rest =>
          .ok ({ d with
            runLoop := .collecting (bmcaPorts ++ [port])
            tasks := Function.update d.tasks i { d.tasks i with mainTaskReceiver := rest } }, none)
        | [] => .error .blocked
      else .error .blocked
    | _ => .error .blocked
  | .deassert =>
    match d.runLoop with
    | .collecting bmcaPorts =>
      if bmcaPorts.length < n then .error .blocked
      else .ok ({ d with runLoop := .stopped bmcaPorts, bmcaNotify := false }, none)
    | _ => .error .blocked
  | .bmca =>
    match d.runLoop with
    | .stopped bmcaPorts => .ok ({ d with runLoop := .returning 0 bmcaPorts }, some bmcaPorts)
    | _ => .error .blocked
  | .giveBack =>
    match d.runLoop with
    | .returning sender (port :: bmcaPorts) =>
      if h : sender < n then do
        let i : Fin n := ⟨sender, h⟩
        let portTaskReceiver ← sendTo (d.tasks i).portTaskReceiver port
        return ({ d with
          runLoop := .returning (sender + 1) bmcaPorts
          tasks := Function.update d.tasks i { d.tasks i with portTaskReceiver } }, none)
      else .error .blocked
    | _ => .error .blocked
  | .reset =>
    match d.runLoop with
    | .returning _ [] => .ok ({ d with runLoop := .waiting }, none)
    | _ => .error .blocked
  | .task i e => do
    let task ← (d.tasks i).step d.bmcaNotify e
    return ({ d with tasks := Function.update d.tasks i task }, none)

/-- The ports are created, and the tasks wait for them. -/
def Initial (d : Daemon n) : Prop :=
  d = { runLoop := .returning 0 (List.finRange n), bmcaNotify := false
        tasks := fun _ => { state := .receiving, portTaskReceiver := [], mainTaskReceiver := [] } }

/-- **What a step can be.** -/
inductive Step (d : Daemon n) : DaemonEvent n → Daemon n → Option (List (Fin n)) → Prop
  | notify : d.runLoop = .waiting →
      Step d .notify { d with runLoop := .collecting [], bmcaNotify := true } none
  | collect {bmcaPorts rest : List (Fin n)} {port : Fin n} (h : bmcaPorts.length < n) :
      d.runLoop = .collecting bmcaPorts →
      (d.tasks ⟨bmcaPorts.length, h⟩).mainTaskReceiver = port :: rest →
      Step d .collect { d with
        runLoop := .collecting (bmcaPorts ++ [port])
        tasks := Function.update d.tasks ⟨bmcaPorts.length, h⟩
          { d.tasks ⟨bmcaPorts.length, h⟩ with mainTaskReceiver := rest } } none
  | deassert {bmcaPorts : List (Fin n)} :
      d.runLoop = .collecting bmcaPorts → n ≤ bmcaPorts.length →
      Step d .deassert { d with runLoop := .stopped bmcaPorts, bmcaNotify := false } none
  | bmca {bmcaPorts : List (Fin n)} : d.runLoop = .stopped bmcaPorts →
      Step d .bmca { d with runLoop := .returning 0 bmcaPorts } (some bmcaPorts)
  | giveBack {sender : Nat} {bmcaPorts receiver : List (Fin n)} {port : Fin n} (h : sender < n) :
      d.runLoop = .returning sender (port :: bmcaPorts) →
      sendTo (d.tasks ⟨sender, h⟩).portTaskReceiver port = .ok receiver →
      Step d .giveBack { d with
        runLoop := .returning (sender + 1) bmcaPorts
        tasks := Function.update d.tasks ⟨sender, h⟩
          { d.tasks ⟨sender, h⟩ with portTaskReceiver := receiver } } none
  | reset {sender : Nat} : d.runLoop = .returning sender [] →
      Step d .reset { d with runLoop := .waiting } none
  | task {i : Fin n} {e : PortTaskEvent} {task : PortTask n} :
      (d.tasks i).step d.bmcaNotify e = .ok task →
      Step d (.task i e) { d with tasks := Function.update d.tasks i task } none

theorem step_cases {d d' : Daemon n} {e : DaemonEvent n} {o : Option (List (Fin n))}
    (h : d.step e = .ok (d', o)) : Step d e d' o := by
  cases e with
  | notify =>
    simp only [step] at h
    split at h
    · rename_i hloop
      obtain ⟨rfl, rfl⟩ := Prod.mk.inj (Except.ok.inj h)
      exact .notify hloop
    · cases h
  | collect =>
    simp only [step] at h
    split at h
    · rename_i bmcaPorts hloop
      split at h
      · rename_i hlt
        split at h
        · rename_i port rest hreceiver
          obtain ⟨rfl, rfl⟩ := Prod.mk.inj (Except.ok.inj h)
          exact .collect hlt hloop hreceiver
        · cases h
      · cases h
    · cases h
  | deassert =>
    simp only [step] at h
    split at h
    · rename_i bmcaPorts hloop
      split at h
      · cases h
      · rename_i hall
        obtain ⟨rfl, rfl⟩ := Prod.mk.inj (Except.ok.inj h)
        exact .deassert hloop (Nat.le_of_not_lt hall)
    · cases h
  | bmca =>
    simp only [step] at h
    split at h
    · rename_i bmcaPorts hloop
      obtain ⟨rfl, rfl⟩ := Prod.mk.inj (Except.ok.inj h)
      exact .bmca hloop
    · cases h
  | giveBack =>
    simp only [step] at h
    split at h
    · rename_i sender port bmcaPorts hloop
      split at h
      · rename_i hlt
        obtain ⟨receiver, hsend, h⟩ := bind_eq_ok.mp h
        obtain ⟨rfl, rfl⟩ := Prod.mk.inj (Except.ok.inj h)
        exact .giveBack hlt hloop hsend
      · cases h
    · cases h
  | reset =>
    simp only [step] at h
    split at h
    · rename_i sender hloop
      obtain ⟨rfl, rfl⟩ := Prod.mk.inj (Except.ok.inj h)
      exact .reset hloop
    · cases h
  | task i e =>
    obtain ⟨task, htask, h⟩ := bind_eq_ok.mp h
    obtain ⟨rfl, rfl⟩ := Prod.mk.inj (Except.ok.inj h)
    exact .task htask

end Daemon

end Statime
