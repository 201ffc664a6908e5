import Statime.Instance.SlaveOnly
import Statime.Port.Announce

/-!
# The ethernet port task of the daemon

`ethernet_port_task` of `statime-linux/src/main.rs`.  The task owns a record forwarder.  It gets its
port from the run loop, serves it until the best master clock algorithm is to run again, and hands it
back.  All tasks forward records at any time; the channel is taken not to lag.

When the task gets the port it clears the forwarder, and the test before this is for a master.

* `EthernetPortTask.step`: one step of the task, of the run loop on its port, or of another task.
* `EthernetPortTask.queuedAsMaster`: the records that came since the port became a master.
* `EthernetPortTask.kept_and_cleared_iff`: what is kept for a master and cleared for others, over a
  whole run.
-/

namespace Statime

open Rust Machine

variable {A R C F : Type} [AcceptableMasterList A] [Clock C] [Filter F] [Rng R]

/-! ### The task -/

def Slot.isMaster : Slot A R C F → Bool
  | .running port => port.isMaster
  | .inBmca port => port.isMaster

/-- The port is with the task while it is running. -/
structure EthernetPortTask (A R C F : Type) [Filter F] where
  slot : Slot A R C F
  tlvForwarder : TlvForwarder

/-- What happens to a task. -/
inductive TaskEvent
  /-- Some task forwards a record. -/
  | forward (tlv : ForwardedTLV)
  /-- The task receives its port from the run loop. -/
  | receivePort
  | announceTimer (s : PtpInstanceState)
  /-- Any other call on the port, by the task or by the run loop. -/
  | call (e : PortEvent TlvForwarder)

/-- Whether no record is taken from the forwarder. -/
def TaskEvent.leavesRecords : TaskEvent → Bool
  | receivePort | announceTimer _ => false
  | forward _ | call _ => true

namespace EthernetPortTask

def step (p : Profile) (task : EthernetPortTask A R C F) :
    TaskEvent → Except Stop (EthernetPortTask A R C F × PortActionIterator)
  | .forward tlv => .ok ({ task with tlvForwarder := task.tlvForwarder.forward tlv }, .empty)
  | .receivePort =>
    match task.slot with
    | .inBmca portInBmca =>
      let tlvForwarder :=
        if portInBmca.isMaster then task.tlvForwarder.empty else task.tlvForwarder
      let (port, actions) := portInBmca.endBmca
      .ok ({ slot := .running port, tlvForwarder }, actions)
    | .running _ => .error .illTyped
  | .announceTimer s =>
    match task.slot with
    | .running port => do
      let (port, tlvForwarder, actions) ← orPanic (port.handleAnnounceTimer p s task.tlvForwarder)
      return ({ slot := .running port, tlvForwarder }, actions)
    | .inBmca _ => .error .illTyped
  | .call e =>
    match e with
    | .endBmca | .announceTimer _ _ => .error .illTyped
    | e => do
      let (slot, actions) ← task.slot.step p e
      return ({ task with slot }, actions)

/-- A new port, and a forwarder that was just duplicated. -/
def Initial (p : Profile) (task : EthernetPortTask A R C F) : Prop :=
  Slot.Initial p task.slot ∧ task.tlvForwarder = .new

variable {p : Profile} {task task' : EthernetPortTask A R C F} {actions : PortActionIterator}

/-- The records that wait in the forwarder. -/
def queue (task : EthernetPortTask A R C F) : List ForwardedTLV := task.tlvForwarder.queue

def isMaster (task : EthernetPortTask A R C F) : Bool := task.slot.isMaster

omit [Clock C] [Rng R] in
theorem isMaster_iff : task.isMaster = true ↔ task.slot.core.portState = .master := by
  unfold isMaster
  cases task.slot with
  | running port => exact decide_eq_true_iff
  | inBmca port => exact decide_eq_true_iff

/-! ### What one step does -/

theorem step_forward {tlv : ForwardedTLV} (h : task.step p (.forward tlv) = .ok (task', actions)) :
    task'.slot = task.slot ∧ task'.queue = task.queue ++ [tlv] := by
  obtain ⟨rfl, -⟩ := Prod.mk.inj (Except.ok.inj h)
  exact ⟨rfl, TlvForwarder.queue_forward _ _⟩

/-- **The port comes back**: the forwarder is cleared for a master. -/
theorem step_receivePort (h : task.step p .receivePort = .ok (task', actions)) :
    task'.isMaster = task.isMaster ∧
      task'.queue = if task.isMaster then [] else task.queue := by
  obtain ⟨slot, tlvForwarder⟩ := task
  cases slot with
  | running port => cases h
  | inBmca port =>
    obtain ⟨rfl, -⟩ := Prod.mk.inj (Except.ok.inj h)
    refine ⟨rfl, ?_⟩
    change (if port.isMaster then tlvForwarder.empty else tlvForwarder).queue =
      if port.isMaster then [] else tlvForwarder.queue
    split <;> rfl

/-- An announce takes records from the front of the queue. -/
theorem step_announceTimer {s : PtpInstanceState}
    (h : task.step p (.announceTimer s) = .ok (task', actions)) :
    (∃ port, task.slot = .running port) ∧ task'.isMaster = task.isMaster ∧
      task'.queue <:+ task.queue := by
  obtain ⟨slot, tlvForwarder⟩ := task
  cases slot with
  | inBmca port => cases h
  | running port =>
    obtain ⟨⟨port', forwarder', actions'⟩, hport, h⟩ := bind_eq_ok.mp h
    obtain ⟨rfl, -⟩ := Prod.mk.inj (Except.ok.inj h)
    have hport := orPanic_eq_ok.mp hport
    refine ⟨⟨port, rfl⟩, ?_, Port.sendAnnounce_suffix TlvForwarder.serves hport⟩
    have hcore := congrArg PortCore.portState (Port.sendAnnounce_core hport)
    rw [Bool.eq_iff_iff, isMaster_iff, isMaster_iff]
    exact iff_of_eq (congrArg (· = PortState.master) hcore)

theorem step_call {e : PortEvent TlvForwarder} (h : task.step p (.call e) = .ok (task', actions)) :
    task.slot.step p e = .ok (task'.slot, actions) ∧ task'.queue = task.queue := by
  cases e with
  | endBmca | announceTimer => cases h
  | _ =>
    obtain ⟨⟨slot, actions'⟩, hslot, h⟩ := bind_eq_ok.mp h
    obtain ⟨rfl, rfl⟩ := Prod.mk.inj (Except.ok.inj h)
    exact ⟨hslot, rfl⟩

/-- A call leaves the port where it is: with the task, or with the run loop. -/
theorem step_call_running {e : PortEvent TlvForwarder} {port : Port Running A R C F}
    (h : task.step p (.call e) = .ok (task', actions)) (hrunning : task'.slot = .running port) :
    ∃ before, task.slot = .running before := by
  obtain ⟨slot, tlvForwarder⟩ := task
  cases slot with
  | running before => exact ⟨before, rfl⟩
  | inBmca before =>
    have hslot := (step_call h).1
    rw [hrunning] at hslot
    cases e with
    | endBmca => cases h
    | calculateBest | recommend | stepAge =>
      obtain ⟨r, -, hslot⟩ := bind_eq_ok.mp hslot
      cases (Prod.mk.inj (Except.ok.inj hslot)).1
    | _ => cases hslot

/-- **A running port becomes a master** at its announce receipt timer only. -/
theorem step_call_master {e : PortEvent TlvForwarder} {port : Port Running A R C F}
    (h : task.step p (.call e) = .ok (task', actions)) (hrunning : task'.slot = .running port)
    (hmaster : task'.isMaster = true) :
    task.isMaster = true ∨ ∃ s, e = .announceReceiptTimer s ∧ s.defaultDs.slaveOnly = false := by
  obtain ⟨before, hbefore⟩ := step_call_running h hrunning
  obtain ⟨hslot, -⟩ := step_call h
  rw [isMaster_iff] at hmaster ⊢
  rcases (Slot.step_core hslot).master hmaster with hsame | htimeout | ⟨s, state, rfl⟩
  · exact Or.inl hsame
  · exact Or.inr htimeout
  · rw [hbefore] at hslot
    cases hslot

/-! ### Since the port became a master -/

/-- One step of `queuedAsMaster`. -/
def noteQueued (queued : List ForwardedTLV)
    (t : Transition (EthernetPortTask A R C F) TaskEvent) : List ForwardedTLV :=
  if t.before.isMaster && t.after.isMaster then
    match t.event with
    | .forward tlv => queued ++ [tlv]
    | _ => queued
  else []

/-- The records that came since the port became a master, if it is one. -/
def queuedAsMaster (log : List (Transition (EthernetPortTask A R C F) TaskEvent)) :
    List ForwardedTLV :=
  log.foldl noteQueued []

/-- Those of them that still wait in the forwarder: the last ones of the queue. -/
def waitingAsMaster (log : List (Transition (EthernetPortTask A R C F) TaskEvent))
    (task : EthernetPortTask A R C F) : List ForwardedTLV :=
  task.queue.drop (task.queue.length - (queuedAsMaster log).length)

omit [AcceptableMasterList A] [Clock C] [Rng R] in
@[simp] theorem queuedAsMaster_concat
    (log : List (Transition (EthernetPortTask A R C F) TaskEvent))
    (t : Transition (EthernetPortTask A R C F) TaskEvent) :
    queuedAsMaster (log ++ [t]) = noteQueued (queuedAsMaster log) t := by
  rw [queuedAsMaster, List.foldl_concat]
  rfl

omit [AcceptableMasterList A] [Clock C] [Rng R] in
theorem noteQueued_of_not_master {t : Transition (EthernetPortTask A R C F) TaskEvent}
    (queued : List ForwardedTLV) (h : ¬ (t.before.isMaster = true ∧ t.after.isMaster = true)) :
    noteQueued queued t = [] := by
  rw [← Bool.and_eq_true] at h
  rw [noteQueued, if_neg h]

/-- What a step of a master does to the records that came since it became one, and to the queue. -/
theorem suffix_step {e : TaskEvent} (queued : List ForwardedTLV)
    (h : task.step p e = .ok (task', actions)) (hbefore : task.isMaster = true)
    (hafter : task'.isMaster = true) :
    task'.queue <:+ task.queue ∧ noteQueued queued ⟨task, e, task'⟩ = queued ∨
      ∃ tlv, task'.queue = task.queue ++ [tlv] ∧
        noteQueued queued ⟨task, e, task'⟩ = queued ++ [tlv] := by
  have hboth : (task.isMaster && task'.isMaster) = true := by
    rw [hbefore, hafter]
    rfl
  unfold noteQueued
  rw [if_pos hboth]
  cases e with
  | forward tlv => exact Or.inr ⟨tlv, (step_forward h).2, rfl⟩
  | receivePort =>
    refine Or.inl ⟨?_, rfl⟩
    rw [(step_receivePort h).2, if_pos hbefore]
    exact List.nil_suffix
  | announceTimer s => exact Or.inl ⟨(step_announceTimer h).2.2, rfl⟩
  | call e => exact Or.inl ⟨(step_call h).2 ▸ List.suffix_rfl, rfl⟩

/-- The queue and the records that came since the port became a master have the same end. -/
theorem suffix_or_suffix {log : List (Transition (EthernetPortTask A R C F) TaskEvent)}
    (hrun : Trace (step p) (Initial p) log task) :
    task.queue <:+ queuedAsMaster log ∨ queuedAsMaster log <:+ task.queue := by
  induction hrun with
  | init _ => exact Or.inr List.nil_suffix
  | @step log task task' e actions _ hstep ih =>
    rw [queuedAsMaster_concat]
    by_cases hmaster : task.isMaster = true ∧ task'.isMaster = true
    · rcases suffix_step (queuedAsMaster log) hstep hmaster.1 hmaster.2 with ⟨hqueue, hsame⟩ |
        ⟨tlv, hqueue, hmore⟩
      · rw [hsame]
        rcases ih with ih | ih
        · exact Or.inl (hqueue.trans ih)
        · exact List.suffix_or_suffix_of_suffix hqueue ih
      · rw [hqueue, hmore]
        rwa [List.suffix_append_self_iff, List.suffix_append_self_iff]
    · rw [noteQueued_of_not_master _ hmaster]
      exact Or.inr List.nil_suffix

/-- The records that are said to wait came since the port became a master. -/
theorem waitingAsMaster_suffix {log : List (Transition (EthernetPortTask A R C F) TaskEvent)}
    (hrun : Trace (step p) (Initial p) log task) :
    waitingAsMaster log task <:+ queuedAsMaster log := by
  rcases suffix_or_suffix hrun with hqueue | hqueued
  · exact (List.drop_suffix _ _).trans hqueue
  · obtain ⟨front, hfront⟩ := hqueued
    rw [waitingAsMaster, ← hfront, List.length_append, Nat.add_sub_cancel, List.drop_left]

/-! ### Kept for masters, cleared for others -/

section Runs

variable (earlier : List (Transition (EthernetPortTask A R C F) TaskEvent))
  (t : Transition (EthernetPortTask A R C F) TaskEvent)
  (later : List (Transition (EthernetPortTask A R C F) TaskEvent))

/-- A port that comes back as a master keeps the records that came while it was one: they are still
there, and the next announce timer is offered them. -/
def KeptForMaster : Prop :=
  t.event = .receivePort → t.before.isMaster = true →
    waitingAsMaster earlier t.before <:+ t.after.queue ∧
      ∀ between u rest s, later = between ++ u :: rest → u.event = .announceTimer s →
        (∀ v ∈ between, v.event.leavesRecords = true) →
          waitingAsMaster earlier t.before <:+: u.before.queue

/-- For a port that comes back in another state the forwarder is empty. -/
def ClearedForOthers : Prop :=
  t.event = .receivePort → t.before.isMaster = false → t.after.queue = []

/-- A master is offered records only that came since it became one. -/
def OffersNew : Prop :=
  ∀ s, t.event = .announceTimer s → t.before.isMaster = true →
    t.before.queue <:+ queuedAsMaster earlier

/-- There is nothing to keep or to clear when the port comes back. -/
def NothingWaits : Prop :=
  t.event = .receivePort →
    if t.before.isMaster then waitingAsMaster earlier t.before = [] else t.before.queue = []

/-- The announce receipt timer makes no port a master while records wait. -/
def TimesOutEmpty : Prop :=
  ∀ s, t.event = .call (.announceReceiptTimer s) → s.defaultDs.slaveOnly = false →
    t.before.isMaster = true ∨ t.before.queue = []

end Runs

section Result

variable {log : List (Transition (EthernetPortTask A R C F) TaskEvent)}

/-- **One return of the port**: records are kept and cleared as they should be just when there are
none. -/
theorem kept_and_cleared_step {earlier later : List (Transition (EthernetPortTask A R C F) TaskEvent)}
    {t : Transition (EthernetPortTask A R C F) TaskEvent}
    (hstep : ∃ actions, t.before.step p t.event = .ok (t.after, actions)) :
    KeptForMaster earlier t later ∧ ClearedForOthers t ↔ NothingWaits earlier t := by
  obtain ⟨actions, hstep⟩ := hstep
  unfold KeptForMaster ClearedForOthers NothingWaits
  by_cases he : t.event = .receivePort
  · rw [he] at hstep
    obtain ⟨-, hqueue⟩ := step_receivePort hstep
    cases hmaster : t.before.isMaster with
    | true =>
      rw [hmaster, if_pos rfl] at hqueue
      simp only [he, hqueue, forall_const, Bool.true_eq_false, false_imp_iff, and_true, if_true,
        List.suffix_nil]
      refine ⟨And.left, fun hnone => ⟨hnone, fun _ _ _ _ _ _ _ => ?_⟩⟩
      rw [hnone]
      exact List.nil_infix
    | false =>
      rw [hmaster, if_neg (by decide)] at hqueue
      simp [he, hqueue]
  · simp [he]

/-- **What a running master is offered** came since it became one, if the announce receipt timer makes
no port a master while records wait. -/
theorem queue_suffix (hrun : Trace (step p) (Initial p) log task)
    (htimeout : ∀ t ∈ log, TimesOutEmpty t) {port : Port Running A R C F}
    (hrunning : task.slot = .running port) (hmaster : task.isMaster = true) :
    task.queue <:+ queuedAsMaster log := by
  induction hrun generalizing port with
  | @init task hinit =>
    obtain ⟨⟨_, _, _, _, _, port', -, hslot⟩, -⟩ := hinit
    cases hslot.symm.trans hrunning
  | @step log task task' e actions hrun hstep ih =>
    have hlog : ∀ t ∈ log, TimesOutEmpty t := fun t ht => htimeout t (List.mem_append_left _ ht)
    have hlast := htimeout ⟨task, e, task'⟩ (List.mem_append_right _ List.mem_cons_self)
    rw [queuedAsMaster_concat]
    -- a master that was one before and was running
    have hkeep : (∃ before, task.slot = .running before) → task.isMaster = true →
        task'.queue <:+ noteQueued (queuedAsMaster log) ⟨task, e, task'⟩ := by
      rintro ⟨before, hbefore⟩ hwas
      have hsuffix := ih hlog hbefore hwas
      rcases suffix_step (queuedAsMaster log) hstep hwas hmaster with ⟨hqueue, hsame⟩ |
        ⟨tlv, hqueue, hmore⟩
      · rw [hsame]
        exact hqueue.trans hsuffix
      · rw [hqueue, hmore, List.suffix_append_self_iff]
        exact hsuffix
    cases e with
    | forward tlv =>
      have hslot := (step_forward hstep).1
      refine hkeep ⟨port, hslot ▸ hrunning⟩ ?_
      rwa [isMaster, hslot] at hmaster
    | receivePort =>
      obtain ⟨hsame, hqueue⟩ := step_receivePort hstep
      rw [hqueue, ← hsame, if_pos hmaster]
      exact List.nil_suffix
    | announceTimer s =>
      obtain ⟨hbefore, hsame, -⟩ := step_announceTimer hstep
      exact hkeep hbefore (hsame ▸ hmaster)
    | call e =>
      have hbefore := step_call_running hstep hrunning
      rcases step_call_master hstep hrunning hmaster with hwas | ⟨s, rfl, hslaveOnly⟩
      · exact hkeep hbefore hwas
      · rcases hlast s rfl hslaveOnly with hwas | hempty
        · exact hkeep hbefore hwas
        · rw [(step_call hstep).2, hempty]
          exact List.nil_suffix

/-- **Records are kept for a master and cleared for others** when the port comes back, in all of a
run, if and only if none wait then; and if the announce receipt timer makes no port a master while
records wait, a master is offered no record that came before. -/
theorem kept_and_cleared_iff (hrun : Trace (step p) (Initial p) log task) :
    ((∀ earlier t later, log = earlier ++ t :: later →
        KeptForMaster earlier t later ∧ ClearedForOthers t) ↔
      ∀ earlier t later, log = earlier ++ t :: later → NothingWaits earlier t) ∧
    ((∀ t ∈ log, TimesOutEmpty t) →
      ∀ earlier t later, log = earlier ++ t :: later → OffersNew earlier t) := by
  constructor
  · refine forall₄_congr fun earlier t later hlog => ?_
    exact kept_and_cleared_step (hrun.split hlog).2
  · intro htimeout earlier t later hlog s he hmaster
    obtain ⟨hbefore, actions, hstep⟩ := hrun.split hlog
    rw [he] at hstep
    have hearlier : ∀ t ∈ earlier, TimesOutEmpty t := by
      intro u hu
      exact htimeout u (hlog ▸ List.mem_append_left _ hu)
    obtain ⟨port, hslot⟩ := (step_announceTimer hstep).1
    exact queue_suffix hbefore hearlier hslot hmaster

end Result

/-! ### A record of a master, and one of a listening port -/

abbrev TestTask := EthernetPortTask AcceptAnyMaster TestRng TestClock TestFilter

/-- The steps of a new task. -/
def testTaskSteps (es : List TaskEvent) : Option (List (Transition TestTask TaskEvent)) :=
  (Port.new (A := AcceptAnyMaster) (R := TestRng) (C := TestClock) (F := TestFilter) .debug
    testPortConfig () ⟨⟩ testParent ⟨⟩).toOption.bind fun port =>
      steps (step .debug) { slot := .inBmca port, tlvForwarder := .new } es

/-- Whether the last step passes the check, with the ones before it. -/
def testTaskEndsWith (es : List TaskEvent)
    (check : List (Transition TestTask TaskEvent) → Transition TestTask TaskEvent → Bool) : Bool :=
  (testTaskSteps es).any fun log => log.getLast?.any fun t => check log.dropLast t

theorem exists_testTask {es : List TaskEvent}
    {check : List (Transition TestTask TaskEvent) → Transition TestTask TaskEvent → Bool}
    (h : testTaskEndsWith es check = true) :
    ∃ earlier t task, Trace (step .debug) (Initial .debug) (earlier ++ [t]) task ∧
      (earlier ++ [t]).map (·.event) = es ∧ check earlier t = true := by
  obtain ⟨log, hlog, h⟩ := (Option.any_eq_true _ _).mp h
  obtain ⟨t, hlast, hcheck⟩ := (Option.any_eq_true _ _).mp h
  obtain ⟨port, hport, hsteps⟩ := Option.bind_eq_some_iff.mp hlog
  have hinit : Initial .debug ({ slot := .inBmca port, tlvForwarder := .new } : TestTask) := by
    exact ⟨⟨testPortConfig, (), ⟨⟩, testParent, ⟨⟩, port, eq_ok_of_toOption hport, rfl⟩, rfl⟩
  obtain ⟨task, htrace⟩ := Trace.of_steps _ (.init hinit) hsteps
  have hsplit : log.dropLast ++ [t] = log := List.dropLast_append_getLast? t hlast
  refine ⟨log.dropLast, t, task, ?_, ?_, hcheck⟩
  · rwa [hsplit]
  · rw [hsplit]
    exact map_event_of_steps es hsteps

/-- A port becomes a master, announces a record, and comes back from the algorithm. -/
def announcedBeforeBmca : List TaskEvent :=
  [.receivePort, .call (.announceReceiptTimer (followingState testInstanceConfig)),
    .forward (forwardedRecord 16), .announceTimer (followingState testInstanceConfig),
    .call .startBmca, .receivePort]

/-- Nothing waits when the port comes back or its timer expires. -/
def emptyWhenDecided (t : Transition TestTask TaskEvent) : Bool :=
  match t.event with
  | .receivePort | .call (.announceReceiptTimer _) => t.before.queue.isEmpty
  | _ => true

/-- In this run records are kept and cleared as they should be, and only new ones are offered. -/
theorem kept_and_cleared_announced : ∃ (log : List (Transition TestTask TaskEvent)) (task : TestTask),
    Trace (step .debug) (Initial .debug) log task ∧ log.map (·.event) = announcedBeforeBmca ∧
    (∀ earlier t later, log = earlier ++ t :: later →
      KeptForMaster earlier t later ∧ ClearedForOthers t) ∧
    ∀ earlier t later, log = earlier ++ t :: later → OffersNew earlier t := by
  have hrun : testTaskEndsWith announcedBeforeBmca (fun earlier t =>
      t.before.isMaster && (earlier ++ [t]).all emptyWhenDecided) = true := by
    decide +kernel
  obtain ⟨earlier, t, task, htrace, hevents, hcheck⟩ := exists_testTask hrun
  rw [Bool.and_eq_true, List.all_eq_true] at hcheck
  have hempty : ∀ u ∈ earlier ++ [t], emptyWhenDecided u = true := hcheck.2
  obtain ⟨hkept, hnew⟩ := kept_and_cleared_iff htrace
  refine ⟨_, task, htrace, hevents, hkept.mpr ?_, hnew ?_⟩
  · intro before u later hlog he
    have hu := hempty u (hlog ▸ List.mem_append_right _ List.mem_cons_self)
    rw [emptyWhenDecided, he] at hu
    have hqueue : u.before.queue = [] := List.isEmpty_iff.mp hu
    rw [waitingAsMaster, hqueue, List.drop_nil, ite_self]
  · intro u hu s he _
    have hu := hempty u hu
    rw [emptyWhenDecided, he] at hu
    exact Or.inr (List.isEmpty_iff.mp hu)

/-- **A record of a listening port is not cleared** when the port comes back, **and one of a master is
not kept.** -/
theorem cleared_for_masters :
    (∃ (earlier : List (Transition TestTask TaskEvent)) (t : Transition TestTask TaskEvent)
        (task : TestTask), Trace (step .debug) (Initial .debug) (earlier ++ [t]) task ∧
      (earlier ++ [t]).map (·.event) =
        [.receivePort, .forward (forwardedRecord 16), .call .startBmca, .receivePort] ∧
      ¬ ClearedForOthers t) ∧
    ∃ (earlier : List (Transition TestTask TaskEvent)) (t : Transition TestTask TaskEvent)
        (task : TestTask), Trace (step .debug) (Initial .debug) (earlier ++ [t]) task ∧
      (earlier ++ [t]).map (·.event) =
        [.receivePort, .call (.announceReceiptTimer (followingState testInstanceConfig)),
          .forward (forwardedRecord 16), .call .startBmca, .receivePort] ∧
      ¬ KeptForMaster earlier t [] := by
  have hlistening : testTaskEndsWith
      [.receivePort, .forward (forwardedRecord 16), .call .startBmca, .receivePort] (fun _ t =>
        !t.before.isMaster && !t.after.queue.isEmpty) = true := by
    decide +kernel
  have hmaster : testTaskEndsWith
      [.receivePort, .call (.announceReceiptTimer (followingState testInstanceConfig)),
        .forward (forwardedRecord 16), .call .startBmca, .receivePort] (fun earlier t =>
        t.before.isMaster && !(waitingAsMaster earlier t.before).isEmpty && t.after.queue.isEmpty) =
          true := by
    decide +kernel
  constructor
  · obtain ⟨earlier, t, task, htrace, hevents, hcheck⟩ := exists_testTask hlistening
    refine ⟨earlier, t, task, htrace, hevents, fun hcleared => ?_⟩
    rw [Bool.and_eq_true, Bool.not_eq_true', Bool.not_eq_true'] at hcheck
    have he : t.event = .receivePort := Machine.event_of_map_concat hevents rfl
    rw [hcleared he hcheck.1] at hcheck
    cases hcheck.2
  · obtain ⟨earlier, t, task, htrace, hevents, hcheck⟩ := exists_testTask hmaster
    refine ⟨earlier, t, task, htrace, hevents, fun hkept => ?_⟩
    rw [Bool.and_eq_true, Bool.and_eq_true, Bool.not_eq_true'] at hcheck
    obtain ⟨⟨hbefore, hwaiting⟩, hafter⟩ := hcheck
    have he : t.event = .receivePort := Machine.event_of_map_concat hevents rfl
    have hsuffix := (hkept he hbefore).1
    rw [List.isEmpty_iff.mp hafter, List.suffix_nil] at hsuffix
    rw [hsuffix] at hwaiting
    cases hwaiting

end EthernetPortTask

end Statime
