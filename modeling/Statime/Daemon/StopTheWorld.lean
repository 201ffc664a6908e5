import Mathlib.Algebra.BigOperators.Fin
import Statime.Daemon.PortTasks

/-!
# Stop-the-world

No port is lost or doubled while it goes from its task to the run loop and back.

* `PortTask.Serves.step`, `PortTask.HandsOver.step`: what a task does with its port.
* `Daemon.step_inv`, `Daemon.Reachable.inv`: where the ports are in each phase of the run loop.
* `Daemon.stop_the_world`: every port is in one place, the algorithm gets all of them, every task hands
  its port over once in a cycle, no channel is full, and no task misses the notification.
-/

namespace Statime

open Rust Machine

variable {n : Nat}

/-! ### Where the port of a task is -/

namespace PortTask

/-- The port is with the run loop. -/
def away : PortTask n where
  state := .receiving
  portTaskReceiver := []
  mainTaskReceiver := []

/-- The task serves its port, or is about to. -/
inductive Serves (i : Fin n) : PortTask n → Prop
  | returned : Serves i ⟨.receiving, [i], []⟩
  | handling : Serves i ⟨.handling i, [], []⟩
  | selecting : Serves i ⟨.selecting i, [], []⟩

/-- The task was notified. -/
inductive HandsOver (i : Fin n) : PortTask n → Prop
  | sending : HandsOver i ⟨.sending i, [], []⟩
  | sent : HandsOver i ⟨.receiving, [], [i]⟩

variable {i : Fin n} {bmcaNotify : Bool} {task task' : PortTask n} {e : PortTaskEvent}

/-- A task without its port waits. -/
theorem step_away : (away : PortTask n).step bmcaNotify e ≠ .ok task' := by
  cases e <;> exact fun h => by cases h

/-- **A task that serves its port** goes on with it until it is notified. -/
theorem Serves.step (h : Serves i task) (hstep : task.step bmcaNotify e = .ok task') :
    Serves i task' ∨ bmcaNotify = true ∧ HandsOver i task' := by
  cases h with
  | returned =>
    cases e with
    | receive =>
      obtain rfl := Except.ok.inj hstep
      exact Or.inl .handling
    | _ => cases hstep
  | handling =>
    cases e with
    | handled =>
      obtain rfl := Except.ok.inj hstep
      exact Or.inl .selecting
    | _ => cases hstep
  | selecting =>
    cases e with
    | handle =>
      obtain rfl := Except.ok.inj hstep
      exact Or.inl .handling
    | notified =>
      cases bmcaNotify with
      | true =>
        obtain rfl := Except.ok.inj hstep
        exact Or.inr ⟨rfl, .sending⟩
      | false => cases hstep
    | _ => cases hstep

/-- **A task that was notified** sends its port, and then waits. -/
theorem HandsOver.step (h : HandsOver i task) (hstep : task.step bmcaNotify e = .ok task') :
    e = .send ∧ task = ⟨.sending i, [], []⟩ ∧ task' = ⟨.receiving, [], [i]⟩ := by
  cases h with
  | sending =>
    cases e with
    | send => exact ⟨rfl, rfl, (Except.ok.inj hstep).symm⟩
    | _ => cases hstep
  | sent => cases e <;> cases hstep

end PortTask

namespace Daemon

/-! ### Where the ports are -/

/-- What the run loop expects of the task of a port. -/
def Expected (runLoop : RunLoop n) (i : Fin n) (task : PortTask n) : Prop :=
  match runLoop with
  | .waiting => task.Serves i
  | .collecting bmcaPorts =>
    if i.val < bmcaPorts.length then task = .away else task.Serves i ∨ task.HandsOver i
  | .stopped _ => task = .away
  | .returning sender _ => if i.val < sender then task.Serves i else task = .away

theorem expected_collecting {bmcaPorts : List (Fin n)} {i : Fin n} {task : PortTask n} :
    Expected (.collecting bmcaPorts) i task ↔
      if i.val < bmcaPorts.length then task = .away else task.Serves i ∨ task.HandsOver i := Iff.rfl

theorem expected_returning {sender : Nat} {bmcaPorts : List (Fin n)} {i : Fin n} {task : PortTask n} :
    Expected (.returning sender bmcaPorts) i task ↔
      if i.val < sender then task.Serves i else task = .away := Iff.rfl

/-- The run loop holds its ports in the order of their slots. -/
def InOrder : RunLoop n → Prop
  | .waiting => True
  | .collecting bmcaPorts => bmcaPorts = (List.finRange n).take bmcaPorts.length
  | .stopped bmcaPorts => bmcaPorts = List.finRange n
  | .returning sender bmcaPorts => bmcaPorts = (List.finRange n).drop sender

/-- The notification is set while the run loop collects. -/
def isCollecting : RunLoop n → Bool
  | .collecting _ => true
  | _ => false

structure Inv (d : Daemon n) : Prop where
  bmcaNotify : d.bmcaNotify = isCollecting d.runLoop
  inOrder : InOrder d.runLoop
  tasks : ∀ i, Expected d.runLoop i (d.tasks i)

variable {d d' : Daemon n} {o : Option (List (Fin n))}

theorem inv_initial (h : Initial d) : Inv d := by
  obtain rfl := h
  refine ⟨rfl, rfl, fun i => ?_⟩
  rw [Expected, if_neg (Nat.not_lt_zero _)]
  rfl

/-- The ports that were collected, with the next one. -/
theorem take_concat {k : Nat} (h : k < n) :
    (List.finRange n).take k ++ [⟨k, h⟩] = (List.finRange n).take (k + 1) := by
  rw [List.take_add_one, List.getElem?_eq_getElem (by simpa using h), List.getElem_finRange]
  rfl

/-- The ports that are left to send, with the next one. -/
theorem drop_cons {k : Nat} (h : k < n) :
    (List.finRange n).drop k = ⟨k, h⟩ :: (List.finRange n).drop (k + 1) := by
  rw [List.drop_eq_getElem_cons (by simpa using h), List.getElem_finRange]
  rfl

/-- **A task keeps to what is expected of it.** -/
theorem Expected.step {runLoop : RunLoop n} {i : Fin n} {e : PortTaskEvent} {task task' : PortTask n}
    (hexpected : Expected runLoop i task)
    (h : task.step (isCollecting runLoop) e = .ok task') : Expected runLoop i task' := by
  have hserves (hserving : task.Serves i) (hidle : isCollecting runLoop = false) :
      task'.Serves i := by
    rcases hserving.step h with hserving' | ⟨hnotify, -⟩
    · exact hserving'
    · rw [hidle] at hnotify
      cases hnotify
  have haway (haway : task = .away) : False := by
    rw [haway] at h
    exact PortTask.step_away h
  cases runLoop with
  | waiting => exact hserves hexpected rfl
  | stopped => exact (haway hexpected).elim
  | returning sender =>
    rw [expected_returning] at hexpected ⊢
    split at hexpected
    · rename_i hlt
      rw [if_pos hlt]
      exact hserves hexpected rfl
    · exact (haway hexpected).elim
  | collecting bmcaPorts =>
    rw [expected_collecting] at hexpected ⊢
    split at hexpected
    · exact (haway hexpected).elim
    · rename_i hlt
      rw [if_neg hlt]
      rcases hexpected with hserving | hover
      · exact (hserving.step h).imp id And.right
      · obtain ⟨-, -, rfl⟩ := hover.step h
        exact Or.inr .sent

/-- What is expected of the other tasks, and of the one that changed. -/
theorem expected_update (runLoop : RunLoop n) {runLoop' : RunLoop n} {tasks : Fin n → PortTask n}
    {i : Fin n} {task : PortTask n} (hi : Expected runLoop' i task)
    (hother : ∀ j, j ≠ i → Expected runLoop j (tasks j) → Expected runLoop' j (tasks j))
    (htasks : ∀ j, Expected runLoop j (tasks j)) (j : Fin n) :
    Expected runLoop' j (Function.update tasks i task j) := by
  by_cases hji : j = i
  · subst hji
    rwa [Function.update_self]
  · rw [Function.update_of_ne hji]
    exact hother j hji (htasks j)

/-- The run loop collects the port that it waits for. -/
theorem inv_collect {bmcaPorts rest : List (Fin n)} {tasks : Fin n → PortTask n} {port : Fin n}
    (horder : InOrder (.collecting bmcaPorts)) (hlt : bmcaPorts.length < n)
    (hreceiver : (tasks ⟨bmcaPorts.length, hlt⟩).mainTaskReceiver = port :: rest)
    (htasks : ∀ i, Expected (.collecting bmcaPorts) i (tasks i)) :
    InOrder (.collecting (bmcaPorts ++ [port])) ∧
      ∀ i, Expected (.collecting (bmcaPorts ++ [port])) i
        (Function.update tasks ⟨bmcaPorts.length, hlt⟩
          { tasks ⟨bmcaPorts.length, hlt⟩ with mainTaskReceiver := rest } i) := by
  have hi := htasks ⟨bmcaPorts.length, hlt⟩
  rw [expected_collecting, if_neg (Nat.lt_irrefl _)] at hi
  generalize htask : tasks ⟨bmcaPorts.length, hlt⟩ = task at hi hreceiver
  rcases hi with hserves | hover
  · cases hserves <;> cases hreceiver
  · cases hover with
    | sending => cases hreceiver
    | sent =>
      obtain ⟨rfl, rfl⟩ := List.cons.inj hreceiver
      refine ⟨?_, expected_update (.collecting bmcaPorts) ?_ ?_ htasks⟩
      · rw [InOrder] at horder ⊢
        rw [List.length_append, List.length_singleton, ← take_concat hlt, ← horder]
      · rw [expected_collecting, if_pos (by simp)]
        rfl
      · intro j hj hexpected
        have hne : j.val ≠ bmcaPorts.length := fun h => hj (Fin.ext h)
        rw [expected_collecting] at hexpected ⊢
        rw [List.length_append, List.length_singleton]
        split at hexpected
        · rwa [if_pos (by omega)]
        · rwa [if_neg (by omega)]

/-- The run loop sends a port to the task that it is from. -/
theorem inv_giveBack {sender : Nat} {bmcaPorts receiver : List (Fin n)} {tasks : Fin n → PortTask n}
    {port : Fin n} (horder : InOrder (.returning sender (port :: bmcaPorts))) (hlt : sender < n)
    (hsend : sendTo (tasks ⟨sender, hlt⟩).portTaskReceiver port = .ok receiver)
    (htasks : ∀ i, Expected (.returning sender (port :: bmcaPorts)) i (tasks i)) :
    InOrder (.returning (sender + 1) bmcaPorts) ∧
      ∀ i, Expected (.returning (sender + 1) bmcaPorts) i
        (Function.update tasks ⟨sender, hlt⟩
          { tasks ⟨sender, hlt⟩ with portTaskReceiver := receiver } i) := by
  have hi := htasks ⟨sender, hlt⟩
  rw [expected_returning, if_neg (Nat.lt_irrefl _)] at hi
  rw [InOrder, drop_cons hlt] at horder
  obtain ⟨rfl, hrest⟩ := List.cons.inj horder
  rw [hi] at hsend ⊢
  obtain rfl := Except.ok.inj hsend
  refine ⟨hrest, expected_update (.returning sender (⟨sender, hlt⟩ :: bmcaPorts)) ?_ ?_ htasks⟩
  · rw [expected_returning, if_pos (Nat.lt_succ_self _)]
    exact .returned
  · intro j hj hexpected
    have hne : j.val ≠ sender := fun h => hj (Fin.ext h)
    rw [expected_returning] at hexpected ⊢
    split at hexpected
    · rwa [if_pos (by omega)]
    · rwa [if_neg (by omega)]

/-- **What one step keeps.** -/
theorem step_inv {e : DaemonEvent n} (h : d.step e = .ok (d', o)) (hd : Inv d) : Inv d' := by
  obtain ⟨hnotify, horder, htasks⟩ := hd
  cases step_cases h with
  | notify hloop =>
    refine ⟨rfl, rfl, fun i => ?_⟩
    rw [expected_collecting, if_neg (by simp)]
    have hi := htasks i
    rw [hloop] at hi
    exact Or.inl hi
  | @collect bmcaPorts rest port hlt hloop hreceiver =>
    rw [hloop] at hnotify horder htasks
    obtain ⟨horder', htasks'⟩ := inv_collect horder hlt hreceiver htasks
    exact ⟨hnotify, horder', htasks'⟩
  | @deassert bmcaPorts hloop hall =>
    rw [hloop] at horder htasks
    refine ⟨rfl, ?_, fun i => ?_⟩
    · rw [InOrder, List.take_of_length_le (by simpa using hall)] at horder
      exact horder
    · have hi := htasks i
      rwa [expected_collecting, if_pos (by omega)] at hi
  | @bmca bmcaPorts hloop =>
    rw [hloop] at hnotify horder htasks
    refine ⟨hnotify, horder, fun i => ?_⟩
    rw [expected_returning, if_neg (Nat.not_lt_zero _)]
    exact htasks i
  | @giveBack sender bmcaPorts receiver port hlt hloop hsend =>
    rw [hloop] at hnotify horder htasks
    obtain ⟨horder', htasks'⟩ := inv_giveBack horder hlt hsend htasks
    exact ⟨hnotify, horder', htasks'⟩
  | @reset sender hloop =>
    rw [hloop] at hnotify horder htasks
    refine ⟨hnotify, trivial, fun i => ?_⟩
    have hall : n ≤ sender := by
      rw [InOrder] at horder
      simpa using horder.symm
    have hi := htasks i
    rwa [expected_returning, if_pos (by omega)] at hi
  | @task i e task htask =>
    rw [hnotify] at htask
    exact ⟨hnotify, horder, expected_update _ ((htasks i).step htask) (fun _ _ h => h) htasks⟩

theorem Reachable.inv (h : Reachable step Initial d) : Inv d :=
  h.invariant (fun _ => inv_initial) fun _ _ _ _ hd hstep => step_inv hstep hd

/-! ### Every port is in one place -/

/-- In how many places a port is. -/
def copies (d : Daemon n) (i : Fin n) : Nat :=
  d.runLoop.ports.count i + ∑ j, (d.tasks j).ports.count i

theorem count_take (k : Nat) (i : Fin n) :
    ((List.finRange n).take k).count i = if i.val < k then 1 else 0 := by
  have hmem : i ∈ (List.finRange n).take k ↔ i.val < k := by
    simp only [List.mem_take_iff_getElem, List.getElem_finRange, List.length_finRange]
    constructor
    · rintro ⟨j, hj, rfl⟩
      simp only [Fin.val_cast]
      omega
    · intro h
      exact ⟨i.val, by omega, rfl⟩
  rw [((List.nodup_finRange n).sublist (List.take_sublist _ _)).count]
  simp only [hmem]

theorem count_drop (k : Nat) (i : Fin n) :
    ((List.finRange n).drop k).count i = if i.val < k then 0 else 1 := by
  have hall : (List.finRange n).count i = 1 :=
    List.count_eq_one_of_mem (List.nodup_finRange n) (List.mem_finRange i)
  rw [← List.take_append_drop k (List.finRange n), List.count_append, count_take] at hall
  split at hall <;> rename_i hlt <;> simp only [hlt, if_true, if_false] <;> omega

/-- **A port is with the run loop, or with its own task.** -/
theorem Inv.place (hd : Inv d) (i : Fin n) :
    d.tasks i = .away ∧ d.runLoop.ports.count i = 1 ∨
      (d.tasks i).ports = [i] ∧ d.runLoop.ports.count i = 0 := by
  have hserves (h : (d.tasks i).Serves i) : (d.tasks i).ports = [i] := by
    generalize d.tasks i = task at h
    cases h <;> rfl
  have hover (h : (d.tasks i).HandsOver i) : (d.tasks i).ports = [i] := by
    generalize d.tasks i = task at h
    cases h <;> rfl
  have horder := hd.inOrder
  have hi := hd.tasks i
  cases hloop : d.runLoop with
  | waiting =>
    rw [hloop] at hi
    exact Or.inr ⟨hserves hi, rfl⟩
  | stopped bmcaPorts =>
    rw [hloop] at hi horder
    refine Or.inl ⟨hi, ?_⟩
    rw [RunLoop.ports, horder]
    exact List.count_eq_one_of_mem (List.nodup_finRange n) (List.mem_finRange i)
  | collecting bmcaPorts =>
    rw [hloop] at hi horder
    rw [InOrder] at horder
    rw [expected_collecting] at hi
    rw [RunLoop.ports, horder, count_take]
    split at hi
    · rename_i hlt
      exact Or.inl ⟨hi, if_pos hlt⟩
    · rename_i hlt
      exact Or.inr ⟨hi.elim hserves hover, if_neg hlt⟩
  | returning sender bmcaPorts =>
    rw [hloop] at hi horder
    rw [InOrder] at horder
    rw [expected_returning] at hi
    rw [RunLoop.ports, horder, count_drop]
    split at hi
    · rename_i hlt
      exact Or.inr ⟨hserves hi, if_pos hlt⟩
    · rename_i hlt
      exact Or.inl ⟨hi, if_neg hlt⟩

/-- A task has no port but its own. -/
theorem Inv.own (hd : Inv d) {i j : Fin n} (h : i ∈ (d.tasks j).ports) : j = i := by
  rcases hd.place j with ⟨haway, -⟩ | ⟨hports, -⟩
  · rw [haway] at h
    cases h
  · rw [hports] at h
    exact (List.mem_singleton.mp h).symm

theorem Inv.copies (hd : Inv d) (i : Fin n) : d.copies i = 1 := by
  have hsum : ∑ j, (d.tasks j).ports.count i = (d.tasks i).ports.count i := by
    refine Finset.sum_eq_single i (fun j _ hji => ?_) (fun h => absurd (Finset.mem_univ i) h)
    exact List.count_eq_zero.mpr fun hmem => hji (hd.own hmem)
  rw [Daemon.copies, hsum]
  rcases hd.place i with ⟨haway, hcount⟩ | ⟨hports, hcount⟩
  · rw [haway, hcount]
    rfl
  · rw [hports, hcount, List.count_singleton_self]

/-! ### The channels and the notification -/

/-- The algorithm runs on the ports that the run loop has collected. -/
theorem step_bmca {e : DaemonEvent n} {bmcaPorts : List (Fin n)}
    (h : d.step e = .ok (d', some bmcaPorts)) : d.runLoop = .stopped bmcaPorts := by
  cases step_cases h with
  | bmca hloop => exact hloop

/-- A process that is about to send finds room in its channel. -/
def NoSendWaits (d : Daemon n) : Prop :=
  (∀ i port, (d.tasks i).state = .sending port → (d.tasks i).mainTaskReceiver.length < 1) ∧
    ∀ sender port bmcaPorts, d.runLoop = .returning sender (port :: bmcaPorts) →
      ∃ h : sender < n, (d.tasks ⟨sender, h⟩).portTaskReceiver.length < 1

/-- A task that sends was notified, and the run loop collects. -/
theorem Inv.sending (hd : Inv d) {i port : Fin n} (h : (d.tasks i).state = .sending port) :
    d.tasks i = ⟨.sending i, [], []⟩ ∧ d.bmcaNotify = true := by
  have hserves (hserving : (d.tasks i).Serves i) : False := by
    generalize d.tasks i = task at h hserving
    cases hserving <;> cases h
  have haway (haway : d.tasks i = .away) : False := by
    rw [haway] at h
    cases h
  have hi := hd.tasks i
  rw [hd.bmcaNotify]
  cases hloop : d.runLoop with
  | waiting =>
    rw [hloop] at hi
    exact (hserves hi).elim
  | stopped bmcaPorts =>
    rw [hloop] at hi
    exact (haway hi).elim
  | returning sender bmcaPorts =>
    rw [hloop, expected_returning] at hi
    split at hi
    · exact (hserves hi).elim
    · exact (haway hi).elim
  | collecting bmcaPorts =>
    rw [hloop, expected_collecting] at hi
    split at hi
    · exact (haway hi).elim
    · refine ⟨?_, rfl⟩
      rcases hi with hi | hi
      · exact (hserves hi).elim
      · generalize d.tasks i = task at h hi
        cases hi with
        | sending => rfl
        | sent => cases h

/-- **No send waits.** -/
theorem Inv.noSendWaits (hd : Inv d) : d.NoSendWaits := by
  constructor
  · intro i port h
    rw [(hd.sending h).1]
    exact Nat.zero_lt_one
  · intro sender port bmcaPorts hloop
    have horder := hd.inOrder
    rw [hloop, InOrder] at horder
    have hlt : sender < n := by
      by_contra hge
      rw [List.drop_eq_nil_of_le (by simpa using hge)] at horder
      cases horder
    refine ⟨hlt, ?_⟩
    have hi := hd.tasks ⟨sender, hlt⟩
    rw [hloop, expected_returning, if_neg (Nat.lt_irrefl _)] at hi
    rw [hi]
    exact Nat.zero_lt_one

/-- The task of the port brings it to the run loop by itself. -/
def Brings (d : Daemon n) (i : Fin n) : Prop :=
  ∃ (es : List PortTaskEvent) (d' : Daemon n) (os : List (Option (List (Fin n)))),
    Machine.run step d (es.map (.task i)) = .ok (d', os) ∧ d'.runLoop = d.runLoop ∧
      (d'.tasks i).mainTaskReceiver = [i]

/-- The port that the run loop waits for is yet to come: the notification is set, and the task has not
missed it. -/
def StillComes (d : Daemon n) : Prop :=
  ∀ bmcaPorts, d.runLoop = .collecting bmcaPorts → ∀ h : bmcaPorts.length < n,
    d.bmcaNotify = true ∧ d.Brings ⟨bmcaPorts.length, h⟩

section Brings

variable {i : Fin n}

/-- One more step of the task. -/
theorem Brings.of_step (e : PortTaskEvent) (task : PortTask n)
    (hstep : (d.tasks i).step d.bmcaNotify e = .ok task)
    (h : Brings { d with tasks := Function.update d.tasks i task } i) : d.Brings i := by
  obtain ⟨es, d', os, hrun, hloop, hreceiver⟩ := h
  refine ⟨e :: es, d', none :: os, ?_, hloop, hreceiver⟩
  rw [List.map_cons]
  exact run_cons_eq_ok.mpr ⟨_, none, os, bind_eq_ok.mpr ⟨task, hstep, rfl⟩, hrun, rfl⟩

theorem brings_of_handsOver (h : (d.tasks i).HandsOver i) : d.Brings i := by
  generalize htask : d.tasks i = task at h
  cases h with
  | sent => exact ⟨[], d, [], rfl, rfl, by rw [htask]⟩
  | sending =>
    refine Brings.of_step .send ⟨.receiving, [], [i]⟩ (by rw [htask]; rfl) ?_
    exact ⟨[], _, [], rfl, rfl, by simp⟩

/-- **A task that serves its port sees the notification.** -/
theorem brings_of_serves (hnotify : d.bmcaNotify = true) (h : (d.tasks i).Serves i) : d.Brings i := by
  have hselecting : ∀ d : Daemon n, d.bmcaNotify = true → d.tasks i = ⟨.selecting i, [], []⟩ →
      d.Brings i := by
    intro d hnotify htask
    refine Brings.of_step .notified ⟨.sending i, [], []⟩
      (by rw [htask, hnotify]; rfl) (brings_of_handsOver ?_)
    dsimp only
    rw [Function.update_self]
    exact .sending
  have hhandling : ∀ d : Daemon n, d.bmcaNotify = true → d.tasks i = ⟨.handling i, [], []⟩ →
      d.Brings i := by
    intro d hnotify htask
    refine Brings.of_step .handled ⟨.selecting i, [], []⟩
      (by rw [htask]; rfl) (hselecting _ hnotify ?_)
    exact Function.update_self i _ _
  generalize htask : d.tasks i = task at h
  cases h with
  | returned =>
    refine Brings.of_step .receive ⟨.handling i, [], []⟩
      (by rw [htask]; rfl) (hhandling _ hnotify ?_)
    exact Function.update_self i _ _
  | handling => exact hhandling d hnotify htask
  | selecting => exact hselecting d hnotify htask

end Brings

/-- **No task misses the notification.** -/
theorem Inv.stillComes (hd : Inv d) : d.StillComes := by
  intro bmcaPorts hloop hlt
  have hnotify : d.bmcaNotify = true := by rw [hd.bmcaNotify, hloop, isCollecting]
  have hi := hd.tasks ⟨bmcaPorts.length, hlt⟩
  rw [hloop, expected_collecting, if_neg (Nat.lt_irrefl _)] at hi
  rcases hi with hserves | hover
  · exact ⟨hnotify, brings_of_serves hnotify hserves⟩
  · exact ⟨hnotify, brings_of_handsOver hover⟩

/-! ### Once in a cycle -/

/-- Since the last notification, which was not taken back, the task has not sent its port. -/
def NotYetSent (log : List (Transition (Daemon n) (DaemonEvent n))) (i : Fin n) : Prop :=
  ∃ before u cycle, log = before ++ u :: cycle ∧ u.event = .notify ∧
    ∀ v ∈ cycle, v.event ≠ .notify ∧ v.event ≠ .deassert ∧ v.event ≠ .task i .send

/-- The task has no port, and none comes. -/
def Handed (task : PortTask n) : Prop := task.state = .receiving ∧ task.portTaskReceiver = []

/-- Only the run loop sets the notification. -/
theorem step_bmcaNotify {e : DaemonEvent n} (h : d.step e = .ok (d', o))
    (hnotify : d'.bmcaNotify = true) : e = .notify ∨ d.bmcaNotify = true ∧ e ≠ .deassert := by
  cases step_cases h with
  | notify => exact Or.inl rfl
  | deassert => cases hnotify
  | collect | bmca | giveBack | reset | task =>
    exact Or.inr ⟨hnotify, fun he => by cases he⟩

/-- **A port that was handed over stays away** while the notification is set. -/
theorem handed_step {e : DaemonEvent n} {i : Fin n} (hd : Inv d) (hnotify : d.bmcaNotify = true)
    (h : d.step e = .ok (d', o)) (hi : Handed (d.tasks i)) : Handed (d'.tasks i) := by
  cases step_cases h with
  | notify | deassert | bmca | reset => exact hi
  | giveBack _ hloop =>
    rw [hd.bmcaNotify, hloop] at hnotify
    cases hnotify
  | @collect bmcaPorts rest port hlt hloop hreceiver =>
    dsimp only
    by_cases hiport : i = ⟨bmcaPorts.length, hlt⟩
    · subst hiport
      rw [Function.update_self]
      exact hi
    · rwa [Function.update_of_ne hiport]
  | @task j e task htask =>
    dsimp only
    by_cases hij : i = j
    · subst hij
      obtain ⟨hstate, hreceiver⟩ := hi
      cases e <;> simp only [PortTask.step, hstate, hreceiver] at htask <;> cases htask
    · rwa [Function.update_of_ne hij]

/-- A task that has sent its port has handed it over. -/
theorem handed_of_send {i : Fin n} (hd : Inv d) (h : d.step (.task i .send) = .ok (d', o)) :
    (d.tasks i).state = .sending i ∧ d.bmcaNotify = true ∧ Handed (d'.tasks i) := by
  cases step_cases h with
  | @task _ _ task htask =>
    have hsending : ∃ port, (d.tasks i).state = .sending port := by
      simp only [PortTask.step] at htask
      split at htask
      · rename_i port hstate
        exact ⟨port, hstate⟩
      · cases htask
    obtain ⟨port, hstate⟩ := hsending
    obtain ⟨hi, hnotify⟩ := hd.sending hstate
    rw [hi] at htask ⊢
    obtain rfl := Except.ok.inj htask
    refine ⟨rfl, hnotify, ?_⟩
    dsimp only
    rw [Function.update_self]
    exact ⟨rfl, rfl⟩

/-- **Who has sent its port in this cycle** is without it. -/
theorem exists_cycle {log : List (Transition (Daemon n) (DaemonEvent n))}
    (hrun : Trace step Initial log d) (hnotify : d.bmcaNotify = true) :
    ∃ before u cycle, log = before ++ u :: cycle ∧ u.event = .notify ∧
      ∀ v ∈ cycle, v.event ≠ .notify ∧ v.event ≠ .deassert ∧
        ∀ i, v.event = .task i .send → Handed (d.tasks i) := by
  induction hrun with
  | init hinit =>
    obtain rfl := hinit
    cases hnotify
  | @step log d d' e o hrun hstep ih =>
    by_cases he : e = .notify
    · exact ⟨log, ⟨d, e, d'⟩, [], rfl, he, fun v hv => by cases hv⟩
    · have hd := Reachable.inv hrun.reachable
      obtain ⟨hbefore, hne⟩ := (step_bmcaNotify hstep hnotify).resolve_left he
      obtain ⟨before, u, cycle, rfl, hu, hcycle⟩ := ih hbefore
      refine ⟨before, u, cycle ++ [⟨d, e, d'⟩], by simp, hu, fun v hv => ?_⟩
      rcases List.mem_append.mp hv with hold | hnew
      · obtain ⟨hv₁, hv₂, hv₃⟩ := hcycle v hold
        exact ⟨hv₁, hv₂, fun i hi => handed_step hd hbefore hstep (hv₃ i hi)⟩
      · obtain rfl := List.mem_singleton.mp hnew
        refine ⟨he, hne, fun i hi => ?_⟩
        obtain rfl : e = .task i .send := hi
        exact (handed_of_send hd hstep).2.2

/-- **The algorithm stops the world, and no port is lost.** -/
theorem stop_the_world {log : List (Transition (Daemon n) (DaemonEvent n))}
    (hrun : Trace step Initial log d) :
    (∀ i, d.copies i = 1 ∧ ∀ j, i ∈ (d.tasks j).ports → j = i) ∧
    (∀ t ∈ log, ∀ bmcaPorts, t.before.step t.event = .ok (t.after, some bmcaPorts) →
      t.before.runLoop = .stopped bmcaPorts ∧ bmcaPorts = List.finRange n) ∧
    (∀ earlier t later i, log = earlier ++ t :: later → t.event = .task i .send →
      NotYetSent earlier i) ∧
    d.NoSendWaits ∧ d.StillComes := by
  have hd := Reachable.inv hrun.reachable
  refine ⟨fun i => ⟨hd.copies i, fun j => hd.own⟩, ?_, ?_, hd.noSendWaits, hd.stillComes⟩
  · intro t ht bmcaPorts hbmca
    have hloop := step_bmca hbmca
    have horder := (Reachable.inv (hrun.of_mem t ht).1).inOrder
    rw [hloop] at horder
    exact ⟨hloop, horder⟩
  · intro earlier t later i hlog he
    obtain ⟨hbefore, o, hstep⟩ := hrun.split hlog
    rw [he] at hstep
    obtain ⟨hsending, hnotify, -⟩ := handed_of_send (Reachable.inv hbefore.reachable) hstep
    obtain ⟨before, u, cycle, rfl, hu, hcycle⟩ := exists_cycle hbefore hnotify
    refine ⟨before, u, cycle, rfl, hu, fun v hv => ?_⟩
    obtain ⟨hv₁, hv₂, hv₃⟩ := hcycle v hv
    refine ⟨hv₁, hv₂, fun hsent => ?_⟩
    have hstate := (hv₃ i hsent).1
    rw [hsending] at hstate
    cases hstate

/-- One cycle with two ports, the second of which is still handling actions when it is notified. -/
def twoPorts : List (DaemonEvent 2) :=
  [.giveBack, .task 0 .receive, .giveBack, .reset, .task 0 .handled, .task 1 .receive, .notify,
    .task 0 .notified, .task 0 .send, .collect, .task 1 .handled, .task 1 .notified, .task 1 .send,
    .collect, .deassert, .bmca, .giveBack]

/-- The daemon with two ports before it starts. -/
def start : Daemon 2 where
  runLoop := .returning 0 (List.finRange 2)
  bmcaNotify := false
  tasks := fun _ => { state := .receiving, portTaskReceiver := [], mainTaskReceiver := [] }

/-- In this cycle the ports are where they should be. -/
theorem stop_the_world_two_ports : ∃ (log : List (Transition (Daemon 2) (DaemonEvent 2)))
    (d : Daemon 2), Trace step Initial log d ∧ log.map (·.event) = twoPorts ∧
    (∀ i, d.copies i = 1 ∧ ∀ j, i ∈ (d.tasks j).ports → j = i) ∧ d.NoSendWaits := by
  have hinit : Initial start := rfl
  have hreturns : checkSteps step (fun _ => true) start twoPorts = true := by decide +kernel
  obtain ⟨log, d, hrun, hevents, -⟩ := Trace.of_checkSteps twoPorts (.init hinit) hreturns
  obtain ⟨hcopies, -, -, hsends, -⟩ := stop_the_world hrun
  exact ⟨_, d, hrun, hevents, hcopies, hsends⟩

end Daemon

end Statime
