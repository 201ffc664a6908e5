import Mathlib.Algebra.Order.BigOperators.Group.List
import Statime.Bmc.Calls

/-!
# What the calls keep

The stored messages, seen from the registrations of a run: a record holds some of the messages that
its master sent, in their order, each with the time that has passed since it was registered.

* `Bmca.stored_registrations`: the messages of a record are registrations of the run.
* `Bmca.young_since`: with no registration since the last step, what is left is young.
* `Bmca.takeBest_keeps`: taking the best message neither rejuvenates nor loses it.
-/

namespace Statime

open Rust

theorem Registration.later_later (r : Registration) (x y : Int) :
    (r.later x).later y = r.later (x + y) := by
  rw [Registration.later, Registration.later, Registration.later, Int.add_assoc]

theorem Registration.later_zero (r : Registration) : r.later 0 = r := by
  rw [Registration.later, Int.add_zero]

namespace Bmca

variable {A : Type} [AcceptableMasterList A] {p : Profile} {b : Bmca A} {interval : TimeInterval}
  {log earlier later : List (Machine.Transition (Bmca A) Call)}

/-! ### The registrations of a run -/

/-- The time that a call lets pass. -/
def Call.elapsed (c : Call) : Int := (c.step.map Duration.toInt).getD 0

/-- The time that passes during some steps of a run. -/
def elapsed (log : List (Machine.Transition (Bmca A) Call)) : Int := (log.map (·.event.elapsed)).sum

/-- What a call registers. -/
def Call.registered : Call → List Registration
  | .register header a => [⟨header, a, 0⟩]
  | _ => []

/-- The registrations of a run, each with the time since. -/
def registrations : List (Machine.Transition (Bmca A) Call) → List Registration
  | [] => []
  | t :: later => t.event.registered.map (·.later (elapsed later)) ++ registrations later

omit [AcceptableMasterList A] in
theorem elapsed_append : elapsed (earlier ++ later) = elapsed earlier + elapsed later := by
  rw [elapsed, List.map_append, List.sum_append]
  rfl

omit [AcceptableMasterList A] in
theorem registrations_append : ∀ (earlier later : List (Machine.Transition (Bmca A) Call)),
    registrations (earlier ++ later) =
      (registrations earlier).map (·.later (elapsed later)) ++ registrations later := by
  intro earlier later
  induction earlier with
  | nil => rfl
  | cons t earlier ih =>
    rw [List.cons_append, registrations, registrations, ih, elapsed_append, List.map_append,
      List.map_map, List.append_assoc]
    congr 1
    refine List.map_congr_left fun r _ => ?_
    rw [Function.comp_apply, Registration.later_later]

omit [AcceptableMasterList A] in
theorem registrations_concat_of_no_step {t : Machine.Transition (Bmca A) Call}
    (h : t.event.step = none) :
    registrations (log ++ [t]) = registrations log ++ t.event.registered := by
  have hzero : elapsed [t] = 0 := by
    rw [elapsed, List.map_singleton, List.sum_singleton, Call.elapsed, h]
    rfl
  have hid : ∀ rs : List Registration, rs.map (·.later 0) = rs := fun rs =>
    (List.map_congr_left fun r _ => r.later_zero).trans (List.map_id rs)
  rw [registrations_append, hzero, hid, registrations]
  congr 1
  exact (List.append_nil _).trans (hid _)

omit [AcceptableMasterList A] in
theorem registrations_concat_step {t : Machine.Transition (Bmca A) Call} {step : Duration}
    (h : t.event = .stepAge step) :
    registrations (log ++ [t]) = (registrations log).map (·.later step.toInt) := by
  have hstep : elapsed [t] = step.toInt := by
    rw [elapsed, List.map_singleton, List.sum_singleton, h]
    rfl
  rw [registrations_append, hstep, registrations, h]
  exact List.append_nil _

omit [AcceptableMasterList A] in
/-- **A registration** is a step of the run, and its time is the sum of the steps after it. -/
theorem mem_registrations {r : Registration} :
    r ∈ registrations log ↔ ∃ earlier t later, log = earlier ++ t :: later ∧
      t.event = .register r.header r.message ∧ r.elapsed = elapsed later := by
  constructor
  · intro hr
    induction log with
    | nil => cases hr
    | cons t later ih =>
      rcases List.mem_append.mp hr with hnow | hlater
      · obtain ⟨k, hk, rfl⟩ := List.mem_map.mp hnow
        cases hc : t.event with
        | register header a =>
          rw [hc] at hk
          obtain rfl := List.mem_singleton.mp hk
          exact ⟨[], t, later, rfl, hc, Int.zero_add _⟩
        | takeBest | stepAge step =>
          rw [hc] at hk
          cases hk
      · obtain ⟨earlier, u, rest, rfl, hu⟩ := ih hlater
        exact ⟨t :: earlier, u, rest, rfl, hu⟩
  · rintro ⟨earlier, t, later, rfl, ht, helapsed⟩
    rw [registrations_append, registrations, ht]
    refine List.mem_append_right _ (List.mem_append_left _ (List.mem_map.mpr ?_))
    exact ⟨⟨r.header, r.message, 0⟩, List.mem_cons_self, Registration.ext rfl rfl
      ((Int.zero_add _).trans helapsed.symm)⟩

omit [AcceptableMasterList A] in
theorem elapsed_nonneg (ht : Timely log) : 0 ≤ elapsed log := by
  refine List.sum_nonneg fun x hx => ?_
  obtain ⟨t, hmem, rfl⟩ := List.mem_map.mp hx
  have htimely := ht t hmem
  rw [Call.elapsed]
  cases hc : t.event with
  | register header a => exact Int.le_refl 0
  | takeBest => exact Int.le_refl 0
  | stepAge step =>
    rw [hc] at htimely
    exact htimely.1

/-! ### What is stored -/

/-- **The messages of a record** are registrations of the run, in their order. -/
theorem stored_registrations (h : Machine.Trace (call p) (IsNew interval) log b)
    (ht : Timely log) : ∀ fm ∈ b.foreignMasterList.foreignMasters.toList,
      (fm.announceMessages.toList.map (·.registration)).Sublist (registrations log) := by
  induction h with
  | init hnew =>
    obtain ⟨acceptable, own, rfl⟩ := hnew
    intro fm hfm
    cases hfm
  | @step log b b' c best htrace he ih =>
    obtain ⟨hlog, htimely⟩ := ht.concat
    have hb := (wellFormed_of_trace htrace hlog).1
    intro fm hfm
    cases hb.next htimely he fm hfm with
    | same hstep hold =>
      rw [registrations_concat_of_no_step hstep]
      exact (ih hlog fm hold).trans (List.sublist_append_left _ _)
    | first _ _ =>
      rw [registrations_concat_of_no_step rfl]
      exact List.sublist_append_right _ _
    | added _ _ hold _ =>
      obtain ⟨front, -, hfront, hlist⟩ :=
        (hb.list.records _ hold).exists_withMessage ⟨_, _, Duration.zero⟩
      rw [registrations_concat_of_no_step rfl, hlist, List.map_append]
      exact ((hfront.sublist.map _).trans (ih hlog _ hold)).append (List.Sublist.refl _)
    | @taken old hold =>
      rw [registrations_concat_of_no_step rfl]
      refine List.Sublist.trans ?_ (List.sublist_append_left _ _)
      rw [ForeignMasterList.taken]
      split
      · exact ((List.dropLast_sublist _).map _).trans (ih hlog old hold)
      · exact ih hlog old hold
    | aged hold hage hnonempty =>
      obtain ⟨-, -, -, hsuffix⟩ := (hb.list.records _ hold).stepAge htimely.1 hage hnonempty
      rw [registrations_concat_step rfl]
      exact hsuffix.sublist.trans ((ih hlog _ hold).map _)

/-- **With no registration since a step** the messages of a record are young. -/
theorem young_since {identity : PortIdentity} (h : Machine.Trace (call p) (IsNew interval) log b)
    (ht : Timely log) : ∀ {earlier later : List (Machine.Transition (Bmca A) Call)},
      log = earlier ++ later →
      (∀ t ∈ later, ∀ r ∈ t.event.registered,
        r.message.header.sourcePortIdentity ≠ identity) →
      (∃ t ∈ later, t.event.step ≠ none) →
      ∀ fm ∈ b.foreignMasterList.foreignMasters.toList, fm.foreignMasterPortIdentity = identity →
        ∀ m ∈ fm.announceMessages.toList,
          m.isYoung b.foreignMasterList.ownPortAnnounceInterval = true := by
  induction h with
  | init hnew =>
    intro earlier later heq _ hstep
    obtain ⟨t, ht, -⟩ := hstep
    rw [(List.append_eq_nil_iff.mp heq.symm).2] at ht
    cases ht
  | @step log b b' c best htrace he ih =>
    intro earlier later heq hnone hstep fm hfm hid m hm
    obtain ⟨hlog, htimely⟩ := ht.concat
    have hb := (wellFormed_of_trace htrace hlog).1
    have hinterval := (hb.owned_call htimely he).interval
    rcases List.eq_nil_or_concat later with rfl | ⟨rest, t, rfl⟩
    · obtain ⟨t, ht, -⟩ := hstep
      cases ht
    · rw [List.concat_eq_append] at heq hnone hstep
      rw [← List.append_assoc] at heq
      obtain ⟨hbeforeEq, hlast⟩ := List.append_inj' heq rfl
      obtain rfl := (List.cons.inj hlast).1
      have hnow := hnone _ (List.mem_append_right _ List.mem_cons_self)
      have hbefore := ih hlog hbeforeEq fun t ht => hnone t (List.mem_append_left _ ht)
      -- a call that is no step leaves the earlier one to look at
      have hearlier : c.step = none → ∃ t ∈ rest, t.event.step ≠ none := by
        intro hc
        obtain ⟨t, ht, hne⟩ := hstep
        rcases List.mem_append.mp ht with hold | hnew
        · exact ⟨t, hold, hne⟩
        · rw [List.mem_singleton.mp hnew] at hne
          exact absurd hc hne
      rw [hinterval]
      cases hb.next htimely he fm hfm with
      | same hc hold => exact hbefore (hearlier hc) fm hold hid m hm
      | first _ _ => exact absurd hid (hnow _ List.mem_cons_self)
      | added _ _ _ hsource => exact absurd (hsource.trans hid) (hnow _ List.mem_cons_self)
      | @taken old hold =>
        rw [ForeignMasterList.taken_identity] at hid
        refine hbefore (hearlier rfl) old hold hid m ?_
        rw [ForeignMasterList.taken] at hm
        split at hm
        · exact List.dropLast_subset _ hm
        · exact hm
      | aged hold hage hnonempty =>
        exact ((hb.list.records _ hold).stepAge htimely.1 hage hnonempty).2.2.1 m hm

/-- **A master that is not heard for four intervals** is no longer in the list. -/
theorem no_record_after {identity : PortIdentity}
    (h : Machine.Trace (call p) (IsNew interval) log b) (ht : Timely log)
    (hlog : log = earlier ++ later)
    (hnone : ∀ t ∈ later, ∀ r ∈ t.event.registered, r.message.header.sourcePortIdentity ≠ identity)
    (hstep : ∃ t ∈ later, t.event.step ≠ none)
    (htime : 4 * (Duration.ofTimeInterval interval).toInt ≤ elapsed later) :
    b.foreignMasterList.recordsOf identity = [] := by
  obtain ⟨hb, hinterval⟩ := wellFormed_of_trace h ht
  by_contra hsome
  obtain ⟨fm, hfm⟩ := List.exists_mem_of_ne_nil _ hsome
  obtain ⟨hfm, hid⟩ := ForeignMasterList.mem_recordsOf.mp hfm
  have hrecord := hb.list.records fm hfm
  obtain ⟨m, hm⟩ := List.exists_mem_of_ne_nil _ hrecord.nonempty
  have hyoung := of_decide_eq_true (young_since h ht hlog hnone hstep fm hfm hid m hm)
  have hstored := (stored_registrations h ht fm hfm).subset (List.mem_map_of_mem hm)
  rw [hlog, registrations_append] at hstored
  rcases List.mem_append.mp hstored with hold | hnew
  · obtain ⟨r, hr, he⟩ := List.mem_map.mp hold
    have hage : m.age.toInt = r.elapsed + elapsed later := (congrArg Registration.elapsed he).symm
    have hnonneg : 0 ≤ r.elapsed := by
      obtain ⟨first, t, rest, hrest, -, helapsed⟩ := mem_registrations.mp hr
      rw [helapsed]
      refine elapsed_nonneg fun u hu => ht u ?_
      rw [hlog, hrest]
      exact List.mem_append_left _ (List.mem_append_right _ (List.mem_cons_of_mem _ hu))
    rw [hinterval, foreignMasterTimeWindow] at hyoung
    omega
  · obtain ⟨first, t, rest, hrest, hevent, -⟩ := mem_registrations.mp hnew
    have hmem : t ∈ later := by
      rw [hrest]
      exact List.mem_append_right _ List.mem_cons_self
    refine hnone t hmem ⟨m.header, m.message, 0⟩ ?_ ((hrecord.source m hm).trans hid)
    rw [hevent]
    exact List.mem_cons_self

/-- **Taking the best message neither rejuvenates nor loses it.** -/
theorem takeBest_keeps (h : Machine.Trace (call p) (IsNew interval) log b) (ht : Timely log) :
    (∀ best b', b.takeBestPortAnnounceMessage p = .ok (best, b') →
      (best = none ∧ b' = b ∧ ∀ fm ∈ b.foreignMasterList.foreignMasters.toList,
        fm.announceMessages.toList.length < 2) ∨
      ∃ winner m, winner ∈ b.foreignMasterList.foreignMasters.toList ∧
        2 ≤ winner.announceMessages.toList.length ∧
        winner.announceMessages.toList.getLast? = some m ∧ best = some (b.toBest m) ∧
        b'.foreignMasterList.foreignMasters.toList =
          b.foreignMasterList.foreignMasters.toList.map (fun fm =>
            if fm = winner ∨ fm.announceMessages.toList.length < 2 then fm
            else { fm with announceMessages := fm.announceMessages.dropLast })) ∧
      (∀ fm ∈ b.foreignMasterList.foreignMasters.toList,
        (fm.announceMessages.toList.map (·.registration)).Sublist (registrations log) ∧
        ∀ m ∈ fm.announceMessages.toList, ∃ earlier t later, log = earlier ++ t :: later ∧
          t.event = .register m.header m.message ∧ m.age.toInt = elapsed later) ∧
      ∀ earlier later identity, log = earlier ++ later →
        (∀ t ∈ later, ∀ r ∈ t.event.registered,
          r.message.header.sourcePortIdentity ≠ identity) →
        (∃ t ∈ later, t.event.step ≠ none) →
        4 * (Duration.ofTimeInterval interval).toInt ≤ elapsed later →
          b.foreignMasterList.recordsOf identity = [] := by
  have hb := (wellFormed_of_trace h ht).1
  refine ⟨fun best b' htake => ?_, fun fm hfm => ?_, fun earlier later identity hlog hnone hstep =>
    no_record_after h ht hlog hnone hstep⟩
  · rcases hb.takeBest_eq htake with ⟨rfl, rfl, hall⟩ | ⟨winner, m, hwinner, hq, hlast, rfl, rfl⟩
    · exact Or.inl ⟨rfl, rfl, fun fm hfm => Nat.not_le.mp (of_decide_eq_false (hall fm hfm))⟩
    · refine Or.inr ⟨winner, m, hwinner, of_decide_eq_true hq, hlast, rfl, ?_⟩
      refine List.map_congr_left fun fm hfm => ?_
      by_cases hsame : fm = winner
      · rw [if_pos (Or.inl hsame), if_pos (congrArg _ hsame)]
      · rw [if_neg fun hid => hsame (hb.list.eq_of_identity hfm hwinner hid),
          ForeignMasterList.taken]
        by_cases hlong : ForeignMasterList.isQualified fm = true
        · rw [if_pos hlong,
            if_neg fun h => h.elim hsame (Nat.not_lt.mpr (of_decide_eq_true hlong))]
        · have hshort : fm.announceMessages.toList.length < 2 :=
            Nat.not_le.mp fun hle => hlong (decide_eq_true hle)
          rw [if_neg hlong, if_pos (Or.inr hshort)]
  · have hstored := stored_registrations h ht fm hfm
    refine ⟨hstored, fun m hm => ?_⟩
    exact mem_registrations.mp (hstored.subset (List.mem_map_of_mem hm))

/-- Both masters announce themselves twice, and then nothing is heard for four intervals. -/
def silentCalls : List Call :=
  [.register (selfAnnounce 2 128 0).header (selfAnnounce 2 128 0),
    .register (selfAnnounce 3 127 0).header (selfAnnounce 3 127 0),
    .stepAge (Duration.ofTimeInterval oneSecond),
    .register (selfAnnounce 2 128 1).header (selfAnnounce 2 128 1),
    .register (selfAnnounce 3 127 1).header (selfAnnounce 3 127 1), .takeBest] ++
  List.replicate 4 (.stepAge (Duration.ofTimeInterval oneSecond))

theorem takeBest_keeps_silent :
    ∃ log b, Machine.Trace (call .debug) (IsNew (A := AcceptAnyMaster) oneSecond) log b ∧
      log.map (·.event) = silentCalls ∧
      b.foreignMasterList.recordsOf ⟨⟨Vector.replicate 8 2⟩, 1⟩ = [] := by
  have hnew : IsNew oneSecond
      (Bmca.new (⟨⟩ : AcceptAnyMaster) oneSecond ⟨⟨Vector.replicate 8 1⟩, 1⟩) := ⟨_, _, rfl⟩
  have hcheck : Machine.checkSteps (call .debug) (fun t => decide (t.event.Timely t.before))
      (Bmca.new (⟨⟩ : AcceptAnyMaster) oneSecond ⟨⟨Vector.replicate 8 1⟩, 1⟩) silentCalls = true := by
    decide +kernel
  obtain ⟨log, b, htrace, hevents, hall, -⟩ := Machine.Trace.of_checkSteps _ (.init hnew) hcheck
  rw [List.nil_append] at htrace
  have hkeeps := takeBest_keeps htrace fun t ht => of_decide_eq_true (hall t ht)
  have hlater : (log.drop 6).map (·.event) =
      List.replicate 4 (.stepAge (Duration.ofTimeInterval oneSecond)) := by
    rw [List.map_drop, hevents]
    rfl
  have hstep : ∀ t ∈ log.drop 6, t.event = .stepAge (Duration.ofTimeInterval oneSecond) := by
    intro t ht
    have hmem := List.mem_map_of_mem (f := (·.event)) ht
    rw [hlater] at hmem
    exact List.eq_of_mem_replicate hmem
  refine ⟨log, b, htrace, hevents, hkeeps.2.2 (log.take 6) (log.drop 6) _
    (List.take_append_drop 6 log).symm ?_ ?_ ?_⟩
  · intro t ht r hr
    rw [hstep t ht] at hr
    cases hr
  · have hne : log.drop 6 ≠ [] := by
      intro hnil
      rw [hnil] at hlater
      cases hlater
    obtain ⟨t, ht⟩ := List.exists_mem_of_ne_nil _ hne
    exact ⟨t, ht, by rw [hstep t ht]; exact Option.some_ne_none _⟩
  · have helapsed : elapsed (log.drop 6) =
        ((List.replicate 4 (Call.stepAge (Duration.ofTimeInterval oneSecond))).map Call.elapsed).sum := by
      rw [← hlater, List.map_map]
      rfl
    rw [helapsed]
    decide

end Bmca

end Statime
