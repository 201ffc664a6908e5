import Statime.Bmc.Calls

/-!
# The representation of the foreign master list

The code walks through the records by index, from the last one down, and removes elements on the way.
The loops are written here as the code has them, and compared with the functions on lists.

* `ForeignMasterList.takeQualifiedLoop_eq`, `ForeignMasterList.stepAgeLoop_eq`: no index is out of range and
  no vector too small.
* `Bmca.records_invariant`: what holds of the list after any calls.
-/

namespace Statime

open Rust

namespace ForeignMasterList

/-! ### The loops over the indices -/

/-- The loop of `take_qualified_announce_messages` over the indices below `i`. -/
def takeQualifiedLoop (foreignMasters : ArrayVec ForeignMaster maxForeignMasters) :
    (i : Nat) → ArrayVec ForeignAnnounceMessage maxForeignMasters →
      Except Panic (ArrayVec ForeignAnnounceMessage maxForeignMasters ×
        ArrayVec ForeignMaster maxForeignMasters)
  | 0, qualified => .ok (qualified, foreignMasters)
  | i + 1, qualified => do
    let fm ← foreignMasters.index i
    if foreignMasterThreshold ≤ fm.announceMessages.toList.length then
      -- only the most recent message is qualified
      let lastIndex := fm.announceMessages.toList.length - 1
      let (message, announceMessages) ← fm.announceMessages.remove lastIndex
      let foreignMasters ← foreignMasters.setAt i { fm with announceMessages }
      let qualified ← qualified.push message
      takeQualifiedLoop foreignMasters i qualified
    else takeQualifiedLoop foreignMasters i qualified

/-- The loop of `step_age` over the indices below `i`. -/
def stepAgeLoop (p : Profile) (step : Duration) (interval : TimeInterval)
    (foreignMasters : ArrayVec ForeignMaster maxForeignMasters) :
    Nat → Except Panic (ArrayVec ForeignMaster maxForeignMasters)
  | 0 => .ok foreignMasters
  | i + 1 => do
    let fm ← foreignMasters.index i
    let fm ← fm.stepAge p step interval
    let foreignMasters ← foreignMasters.setAt i fm
    if fm.announceMessages.toList.isEmpty then
      let (_, foreignMasters) ← foreignMasters.remove i
      stepAgeLoop p step interval foreignMasters i
    else stepAgeLoop p step interval foreignMasters i

/-- The message that a record gives. -/
def newestQualified (fm : ForeignMaster) : Option ForeignAnnounceMessage :=
  if isQualified fm then fm.announceMessages.toList.getLast? else none

section Loops

variable {v : ArrayVec ForeignMaster maxForeignMasters} {front rest : List ForeignMaster}
  {fm : ForeignMaster}

theorem index_middle (hv : v.toList = front ++ [fm] ++ rest) : v.index front.length = .ok fm :=
  ArrayVec.index_eq_ok (by rw [hv]; simp)

theorem setAt_middle (fm' : ForeignMaster) (hv : v.toList = front ++ [fm] ++ rest) :
    ∃ w, v.setAt front.length fm' = .ok w ∧ w.toList = front ++ [fm'] ++ rest := by
  obtain ⟨w, hw, hlist⟩ := ArrayVec.setAt_eq_ok (v := v) (i := front.length) fm' (by rw [hv]; simp)
  refine ⟨w, hw, ?_⟩
  rw [hlist, hv]
  simp

theorem remove_middle (hv : v.toList = front ++ [fm] ++ rest) :
    ∃ w, v.remove front.length = .ok (fm, w) ∧ w.toList = front ++ rest := by
  obtain ⟨w, hw, hlist⟩ := ArrayVec.remove_eq_ok (v := v) (i := front.length) (x := fm)
    (by rw [hv]; simp)
  refine ⟨w, hw, ?_⟩
  rw [hlist, hv, List.append_assoc, List.eraseIdx_append_of_length_le (Nat.le_refl _)]
  simp

end Loops

/-- What the loop does to the records `front` that are still to come. -/
theorem takeQualifiedLoop_front : ∀ (front : List ForeignMaster)
    {v : ArrayVec ForeignMaster maxForeignMasters}
    {q : ArrayVec ForeignAnnounceMessage maxForeignMasters} {rest : List ForeignMaster},
    v.toList = front ++ rest → q.toList.length ≤ rest.length →
      ∃ q' w, takeQualifiedLoop v front.length q = .ok (q', w) ∧
        q'.toList = q.toList ++ front.reverse.filterMap newestQualified ∧
        w.toList = front.map taken ++ rest := by
  intro front
  induction front using List.reverseRecOn with
  | nil =>
    intro v q rest hv _
    exact ⟨q, v, rfl, (List.append_nil _).symm, hv⟩
  | append_singleton front fm ih =>
    intro v q rest hv hq
    have hlen := v.length_le
    rw [hv, List.length_append, List.length_append, List.length_singleton] at hlen
    rw [List.length_append, List.length_singleton, takeQualifiedLoop, index_middle hv, ok_bind]
    rw [List.reverse_concat, List.filterMap_cons, List.map_append, List.map_singleton]
    by_cases hqualified : isQualified fm = true
    · have hthreshold : foreignMasterThreshold ≤ fm.announceMessages.toList.length :=
        of_decide_eq_true hqualified
      have hne : fm.announceMessages.toList ≠ [] := by
        intro hnil
        rw [hnil] at hthreshold
        exact absurd hthreshold (by decide)
      obtain ⟨m, hm⟩ : ∃ m, fm.announceMessages.toList.getLast? = some m :=
        ⟨_, List.getLast?_eq_some_getLast hne⟩
      obtain ⟨ms, hms, hmsList⟩ := ArrayVec.remove_eq_ok (List.getLast?_eq_getElem?.symm.trans hm)
      rw [List.eraseIdx_length_sub_one] at hmsList
      have hms' : ms = fm.announceMessages.dropLast := ArrayVec.ext hmsList
      obtain ⟨w, hw, hwList⟩ := setAt_middle { fm with announceMessages := ms } hv
      obtain ⟨q', hq', hqList⟩ := ArrayVec.push_eq_ok (v := q) (x := m) (by omega)
      rw [List.append_assoc] at hwList
      obtain ⟨q'', w', hloop, hmessages, hrecords⟩ := ih hwList (q := q')
        (by
          rw [hqList, List.length_append, List.length_append, List.length_singleton,
            List.length_singleton]
          omega)
      refine ⟨q'', w', ?_, ?_, ?_⟩
      · rw [if_pos hthreshold]
        simp only [hms, hw, hq', ok_bind]
        exact hloop
      · rw [hmessages, hqList, newestQualified, if_pos hqualified, hm, List.append_assoc,
          List.singleton_append]
      · rw [hrecords, taken, if_pos hqualified, hms', List.append_assoc]
    · have hthreshold : ¬ foreignMasterThreshold ≤ fm.announceMessages.toList.length := by
        intro hle
        exact hqualified (decide_eq_true hle)
      rw [List.append_assoc] at hv
      obtain ⟨q', w, hloop, hmessages, hrecords⟩ := ih hv (q := q) (by
        rw [List.length_append, List.length_singleton]
        omega)
      refine ⟨q', w, ?_, ?_, ?_⟩
      · rw [if_neg hthreshold]
        exact hloop
      · rw [hmessages, newestQualified, if_neg hqualified]
      · rw [hrecords, taken, if_neg hqualified, List.append_assoc]

/-- **Taking the messages never panics.** -/
theorem takeQualifiedLoop_eq (l : ForeignMasterList) :
    ∃ q, takeQualifiedLoop l.foreignMasters l.foreignMasters.toList.length ArrayVec.new =
        .ok (q, l.takeQualifiedAnnounceMessages.2.foreignMasters) ∧
      q.toList = l.takeQualifiedAnnounceMessages.1 := by
  obtain ⟨q, w, hloop, hmessages, hrecords⟩ := takeQualifiedLoop_front l.foreignMasters.toList
    (v := l.foreignMasters) (q := ArrayVec.new) (List.append_nil _).symm (Nat.le_refl _)
  rw [List.append_nil] at hrecords
  have hw : w = l.takeQualifiedAnnounceMessages.2.foreignMasters := ArrayVec.ext hrecords
  exact ⟨q, hw ▸ hloop, hmessages⟩

theorem stepAgeAll_append {p : Profile} {step : Duration} {interval : TimeInterval}
    (xs ys : List ForeignMaster) :
    stepAgeAll p step interval (xs ++ ys) = do
      let ys ← stepAgeAll p step interval ys
      let xs ← stepAgeAll p step interval xs
      return xs ++ ys := by
  induction xs with
  | nil =>
    rw [List.nil_append]
    cases stepAgeAll p step interval ys <;> rfl
  | cons x xs ih =>
    rw [List.cons_append, stepAgeAll, ih]
    cases stepAgeAll p step interval ys with
    | error why => rfl
    | ok ys =>
      rw [ok_bind, ok_bind, stepAgeAll]
      cases stepAgeAll p step interval xs with
      | error why => rfl
      | ok xs =>
        rw [ok_bind, pure_eq_ok, ok_bind, ok_bind]
        cases x.stepAge p step interval with
        | error why => rfl
        | ok x' =>
          rw [ok_bind, ok_bind]
          split <;> rfl

/-- What the loop does to the records `front` that are still to come. -/
theorem stepAgeLoop_front (p : Profile) (step : Duration) (interval : TimeInterval) :
    ∀ (front : List ForeignMaster) {v : ArrayVec ForeignMaster maxForeignMasters}
      {rest : List ForeignMaster}, v.toList = front ++ rest →
      (stepAgeLoop p step interval v front.length).map (·.toList) =
        (stepAgeAll p step interval front).map (· ++ rest) := by
  intro front
  induction front using List.reverseRecOn with
  | nil =>
    intro v rest hv
    exact congrArg Except.ok hv
  | append_singleton front fm ih =>
    intro v rest hv
    rw [List.length_append, List.length_singleton, stepAgeLoop, index_middle hv, ok_bind,
      stepAgeAll_append, stepAgeAll, stepAgeAll, ok_bind]
    cases fm.stepAge p step interval with
    | error why => rfl
    | ok fm' =>
      obtain ⟨w, hw, hwList⟩ := setAt_middle fm' hv
      rw [ok_bind, ok_bind, hw, ok_bind]
      by_cases hempty : fm'.announceMessages.toList.isEmpty = true
      · obtain ⟨w', hw', hwList'⟩ := remove_middle hwList
        rw [if_pos hempty, if_pos hempty, hw', ok_bind, pure_eq_ok, ok_bind]
        rw [ih hwList']
        cases stepAgeAll p step interval front with
        | error why => rfl
        | ok front' => exact congrArg (fun xs => Except.ok (xs ++ rest)) (List.append_nil _).symm
      · rw [List.append_assoc] at hwList
        rw [if_neg hempty, if_neg hempty, pure_eq_ok, ok_bind, ih hwList]
        cases stepAgeAll p step interval front with
        | error why => rfl
        | ok front' => exact congrArg Except.ok (List.append_assoc _ _ _).symm

/-- What the loop leaves. -/
theorem map_stepAgeLoop (p : Profile) (l : ForeignMasterList) (step : Duration) :
    (stepAgeLoop p step l.ownPortAnnounceInterval l.foreignMasters
      l.foreignMasters.toList.length).map (·.toList) =
      stepAgeAll p step l.ownPortAnnounceInterval l.foreignMasters.toList := by
  rw [stepAgeLoop_front p step _ _ (List.append_nil l.foreignMasters.toList).symm]
  cases stepAgeAll p step l.ownPortAnnounceInterval l.foreignMasters.toList with
  | error why => rfl
  | ok fms => exact congrArg Except.ok (List.append_nil _)

/-- **Stepping through the records** by index is the same as on the list. -/
theorem stepAgeLoop_eq (p : Profile) (l : ForeignMasterList) (step : Duration) :
    l.stepAge p step = do
      let foreignMasters ← stepAgeLoop p step l.ownPortAnnounceInterval l.foreignMasters
        l.foreignMasters.toList.length
      return { l with foreignMasters } := by
  have hall := map_stepAgeLoop p l step
  rw [stepAge]
  cases hloop : stepAgeLoop p step l.ownPortAnnounceInterval l.foreignMasters
      l.foreignMasters.toList.length with
  | error why =>
    rw [hloop] at hall
    rw [ArrayVec.updateM_eq_error hall.symm]
  | ok w =>
    rw [hloop] at hall
    rw [ArrayVec.updateM_eq_ok.mpr hall.symm]

/-- **Nothing but an age can overflow** in the loop. -/
theorem stepAgeLoop_onlyOverflows (p : Profile) (l : ForeignMasterList) (step : Duration) :
    OnlyOverflows p (stepAgeLoop p step l.ownPortAnnounceInterval l.foreignMasters
      l.foreignMasters.toList.length) := by
  refine OnlyOverflows.of_map (fun w => w.toList) ?_
  rw [map_stepAgeLoop]
  exact stepAgeAll_onlyOverflows p step _ _

/-- The invariant of the list, and what it gives for the loops. -/
structure RecordsInvariant (p : Profile) (l : ForeignMasterList) : Prop where
  distinct : (l.foreignMasters.toList.map (·.foreignMasterPortIdentity)).Nodup
  masters : l.foreignMasters.toList.length ≤ 8
  messages : ∀ fm ∈ l.foreignMasters.toList,
    1 ≤ fm.announceMessages.toList.length ∧ fm.announceMessages.toList.length ≤ 8
  source : ∀ fm ∈ l.foreignMasters.toList, ∀ m ∈ fm.announceMessages.toList,
    m.message.header.sourcePortIdentity = fm.foreignMasterPortIdentity ∧
      m.message.header.sourcePortIdentity.clockIdentity ≠ l.ownPortIdentity.clockIdentity ∧
      m.message.stepsRemoved < 255
  ages : ∀ fm ∈ l.foreignMasters.toList,
    (fm.announceMessages.toList.Pairwise fun older newer => newer.age.toInt ≤ older.age.toInt) ∧
      ∀ m ∈ fm.announceMessages.toList,
        m.age.toInt < 4 * (Duration.ofTimeInterval l.ownPortAnnounceInterval).toInt
  /-- One message at most for each master. -/
  onePerMaster : (l.takeQualifiedAnnounceMessages.1.map
    (·.message.header.sourcePortIdentity)).Nodup
  youngest : ∀ m ∈ l.takeQualifiedAnnounceMessages.1, ∃ fm ∈ l.foreignMasters.toList,
    m ∈ fm.announceMessages.toList ∧ ∀ n ∈ fm.announceMessages.toList, m.age.toInt ≤ n.age.toInt
  takeLoop : ∃ q, takeQualifiedLoop l.foreignMasters l.foreignMasters.toList.length ArrayVec.new =
      .ok (q, l.takeQualifiedAnnounceMessages.2.foreignMasters) ∧
    q.toList = l.takeQualifiedAnnounceMessages.1
  stepLoop : ∀ step : Duration, OnlyOverflows p (stepAgeLoop p step l.ownPortAnnounceInterval
    l.foreignMasters l.foreignMasters.toList.length)

namespace WellFormed

variable {l : ForeignMasterList}

/-- The messages that are taken come from different masters. -/
theorem taken_distinct (h : l.WellFormed) :
    (l.takeQualifiedAnnounceMessages.1.map (·.message.header.sourcePortIdentity)).Nodup := by
  have hsub : (l.takeQualifiedAnnounceMessages.1.map (·.message.header.sourcePortIdentity)).Sublist
      (l.foreignMasters.toList.reverse.map (·.foreignMasterPortIdentity)) := by
    have hrecords : ∀ fm ∈ l.foreignMasters.toList.reverse,
        fm.WellFormed l.ownPortAnnounceInterval l.ownPortIdentity :=
      fun fm hfm => h.records fm (List.mem_reverse.mp hfm)
    change ((l.foreignMasters.toList.reverse.filterMap newestQualified).map _).Sublist _
    generalize l.foreignMasters.toList.reverse = fms at hrecords
    induction fms with
    | nil => exact List.Sublist.refl _
    | cons fm fms ih =>
      rw [List.forall_mem_cons] at hrecords
      rw [List.filterMap_cons, List.map_cons]
      cases hm : newestQualified fm with
      | none => exact (ih hrecords.2).cons _
      | some m =>
        have hmem : m ∈ fm.announceMessages.toList := by
          rw [newestQualified] at hm
          split at hm
          · exact List.mem_of_getLast? hm
          · cases hm
        rw [List.map_cons, hrecords.1.source m hmem]
        exact (ih hrecords.2).cons_cons _
  refine List.Nodup.sublist hsub ?_
  rw [List.map_reverse]
  exact List.nodup_reverse.mpr h.distinct

/-- **The invariant**, for an interval that is positive. -/
theorem recordsInvariant (p : Profile) (h : l.WellFormed)
    (hpos : 0 < l.ownPortAnnounceInterval.toInt) : l.RecordsInvariant p where
  distinct := h.distinct
  masters := l.foreignMasters.length_le
  messages := fun fm hfm =>
    ⟨List.length_pos_iff.mpr (h.records fm hfm).nonempty, fm.announceMessages.length_le⟩
  source := fun fm hfm m hm => by
    have hrecord := h.records fm hfm
    refine ⟨hrecord.source m hm, ?_, hrecord.stepsRemoved m hm⟩
    rw [hrecord.source m hm]
    exact hrecord.foreign
  ages := fun fm hfm => by
    refine ⟨(h.records fm hfm).ordered, fun m hm => ?_⟩
    have hyoung : m.isYoung l.ownPortAnnounceInterval = true := by
      rcases (h.records fm hfm).young with hall | ⟨k, hk, hzero⟩
      · exact hall m hm
      · rw [hk] at hm
        rw [List.mem_singleton.mp hm]
        refine decide_eq_true ?_
        rw [hzero, Duration.toInt_ofTimeInterval, foreignMasterTimeWindow]
        omega
    have hlt := of_decide_eq_true hyoung
    rw [foreignMasterTimeWindow] at hlt
    omega
  onePerMaster := h.taken_distinct
  youngest := fun m hm => by
    obtain ⟨fm, hfm, -, hlast⟩ := mem_takeQualifiedAnnounceMessages.mp hm
    refine ⟨fm, hfm, List.mem_of_getLast? hlast, fun n hn => ?_⟩
    have hordered := (h.records fm hfm).ordered
    rw [← List.dropLast_append_getLast? m hlast] at hordered hn
    rcases List.mem_append.mp hn with hinit | hself
    · exact (List.pairwise_append.mp hordered).2.2 n hinit m List.mem_cons_self
    · rw [List.mem_singleton.mp hself]
  takeLoop := takeQualifiedLoop_eq l
  stepLoop := stepAgeLoop_onlyOverflows p l

end WellFormed

end ForeignMasterList

namespace Bmca

variable {A : Type} [AcceptableMasterList A] {p : Profile} {b : Bmca A} {interval : TimeInterval}
  {log : List (Machine.Transition (Bmca A) Call)}

/-- **The invariant holds after any calls.** -/
theorem records_invariant (hpos : 0 < interval.toInt)
    (h : Machine.Trace (call p) (IsNew interval) log b) (ht : Timely log) :
    b.foreignMasterList.RecordsInvariant p := by
  obtain ⟨hb, hinterval⟩ := wellFormed_of_trace h ht
  rw [← hinterval] at hpos
  exact hb.list.recordsInvariant p hpos

/-- Clocks 2 and 3 announce themselves, clock 2 twice. -/
def someCalls : List Call :=
  [.register (selfAnnounce 2 128 0).header (selfAnnounce 2 128 0),
    .register (selfAnnounce 3 127 0).header (selfAnnounce 3 127 0),
    .stepAge (Duration.ofTimeInterval oneSecond),
    .register (selfAnnounce 2 128 1).header (selfAnnounce 2 128 1), .takeBest]

theorem records_invariant_some_calls :
    ∃ log b, Machine.Trace (call .debug) (IsNew (A := AcceptAnyMaster) oneSecond) log b ∧
      log.map (·.event) = someCalls ∧ b.foreignMasterList.RecordsInvariant .debug := by
  have hnew : IsNew oneSecond
      (Bmca.new (⟨⟩ : AcceptAnyMaster) oneSecond ⟨⟨Vector.replicate 8 1⟩, 1⟩) := ⟨_, _, rfl⟩
  have hcheck : Machine.checkSteps (call .debug) (fun t => decide (t.event.Timely t.before))
      (Bmca.new (⟨⟩ : AcceptAnyMaster) oneSecond ⟨⟨Vector.replicate 8 1⟩, 1⟩) someCalls = true := by
    decide +kernel
  obtain ⟨log, b, htrace, hevents, hall, -⟩ := Machine.Trace.of_checkSteps _ (.init hnew) hcheck
  rw [List.nil_append] at htrace
  exact ⟨log, b, htrace, hevents, records_invariant (by decide) htrace
    fun t ht => of_decide_eq_true (hall t ht)⟩

end Bmca

end Statime
