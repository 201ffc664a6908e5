import Statime.Bmc.Bmca

/-!
# The record of one foreign master

What registering, taking and ageing do to the record that a `ForeignMasterList` keeps for
one master.  Each operation treats the records one by one, so the record of a master depends
on other masters only through the choice of the best message.

* `registerAnnounceMessage_cases`: what a registration can do.
* `recordsOf_register_other`, `recordsOf_take`, `recordsOf_stepAge`: the record of a master
  after each operation.
* `Sourced`: the messages of a record come from its master, which every operation keeps.
-/

namespace Statime

open Rust

namespace ForeignMasterList

variable {p : Profile} {l l' : ForeignMasterList}

/-- The records that belong to a master. -/
def recordsOf (l : ForeignMasterList) (identity : PortIdentity) : List ForeignMaster :=
  l.foreignMasters.toList.filter fun fm => decide (fm.foreignMasterPortIdentity = identity)

theorem mem_recordsOf {identity : PortIdentity} {fm : ForeignMaster} :
    fm ∈ l.recordsOf identity ↔
      fm ∈ l.foreignMasters.toList ∧ fm.foreignMasterPortIdentity = identity := by
  rw [recordsOf, List.mem_filter, decide_eq_true_eq]

theorem getForeignMaster_eq (l : ForeignMasterList) (identity : PortIdentity) :
    l.getForeignMaster identity = (l.recordsOf identity).head? := by
  rw [recordsOf, List.head?_filter, getForeignMaster]

theorem isAnnounceMessageQualified_iff {a : AnnounceMessage} :
    l.isAnnounceMessageQualified a = true ↔
      a.header.sourcePortIdentity.clockIdentity ≠ l.ownPortIdentity.clockIdentity ∧
      (∀ fm last, (l.recordsOf a.header.sourcePortIdentity).head? = some fm →
        fm.announceMessages.toList.getLast? = some last →
          a.header.sequenceId - last.header.sequenceId < 32767) ∧
      a.stepsRemoved < 255 := by
  rw [isAnnounceMessageQualified, getForeignMaster_eq]
  split
  · rename_i hown
    simp [hown]
  · rename_i hown
    split
    · rename_i hold
      obtain ⟨last, hlast, hge⟩ := Option.any_eq_true _ _ |>.mp hold
      obtain ⟨fm, hfm, hlast⟩ := Option.bind_eq_some_iff.mp hlast
      refine ⟨fun h => absurd h (by decide), fun h => ?_⟩
      have hlt := h.2.1 fm last hfm hlast
      exact absurd hlt (UInt16.not_lt.mpr (of_decide_eq_true hge))
    · rename_i hnew
      have hnewer : ∀ fm last, (l.recordsOf a.header.sourcePortIdentity).head? = some fm →
          fm.announceMessages.toList.getLast? = some last →
            a.header.sequenceId - last.header.sequenceId < 32767 := by
        intro fm last hfm hlast
        by_contra hge
        refine hnew ((Option.any_eq_true _ _).mpr ⟨last, ?_, decide_eq_true ?_⟩)
        · exact Option.bind_eq_some_iff.mpr ⟨fm, hfm, hlast⟩
        · exact UInt16.not_lt.mp hge
      split
      · rename_i hsteps
        refine ⟨fun h => absurd h (by decide), fun h => ?_⟩
        exact absurd h.2.2 (UInt16.not_lt.mpr hsteps)
      · rename_i hsteps
        exact ⟨fun _ => ⟨hown, hnewer, UInt16.not_le.mp hsteps⟩, fun _ => rfl⟩

/-- The record after a message was added to it. -/
def withMessage (interval : TimeInterval) (fm : ForeignMaster) (m : ForeignAnnounceMessage) :
    ForeignMaster :=
  { fm with announceMessages := (fm.announceMessages.retain (·.isYoung interval)).pushEvict m }

/-- **What a registration can do**: nothing, when the message is not qualified or there is no
room for its master; add the message to the record of its master; or make a new record. -/
theorem registerAnnounceMessage_cases {header : Header} {a : AnnounceMessage} {age : Duration}
    (h : l.registerAnnounceMessage p header a age = .ok l') :
    (l.isAnnounceMessageQualified a = false ∧ l' = l) ∨
    (l.isAnnounceMessageQualified a = true ∧
      l.recordsOf a.header.sourcePortIdentity ≠ [] ∧
      ∃ fms, l' = { l with foreignMasters := fms } ∧
        modifyFirst (fun fm => decide (fm.foreignMasterPortIdentity = a.header.sourcePortIdentity))
          (fun fm => .ok (withMessage l.ownPortAnnounceInterval fm ⟨header, a, age⟩))
          l.foreignMasters.toList = .ok fms.toList) ∨
    (l.isAnnounceMessageQualified a = true ∧
      l.recordsOf a.header.sourcePortIdentity = [] ∧
      ∃ fms, l' = { l with foreignMasters := fms } ∧
        fms.toList = l.foreignMasters.toList ++ [ForeignMaster.new header a]) ∨
    (l.isAnnounceMessageQualified a = true ∧
      l.recordsOf a.header.sourcePortIdentity = [] ∧ l' = l) := by
  rw [registerAnnounceMessage] at h
  split at h
  · rename_i hq
    exact Or.inl ⟨hq, (Except.ok.inj h).symm⟩
  · rename_i hq
    have hq : l.isAnnounceMessageQualified a = true := by simpa using hq
    dsimp only at h
    split at h
    · rename_i hany
      obtain ⟨fms, hfms, h⟩ := bind_eq_ok.mp h
      rw [ArrayVec.updateM_eq_ok] at hfms
      simp only [ForeignMaster.registerAnnounceMessage_eq] at hfms
      refine Or.inr (Or.inl ⟨hq, ?_, fms, (Except.ok.inj h).symm, hfms⟩)
      obtain ⟨fm, hmem, hfm⟩ := List.any_eq_true.mp hany
      exact List.ne_nil_of_mem (List.mem_filter.mpr ⟨hmem, hfm⟩)
    · rename_i hany
      have hnone : l.recordsOf a.header.sourcePortIdentity = [] := by
        rw [recordsOf, List.filter_eq_nil_iff]
        intro fm hmem hfm
        exact hany (List.any_eq_true.mpr ⟨fm, hmem, hfm⟩)
      split at h
      · rename_i fms hpush
        exact Or.inr (Or.inr (Or.inl ⟨hq, hnone, fms, (Except.ok.inj h).symm,
          ArrayVec.toList_tryPush hpush⟩))
      · exact Or.inr (Or.inr (Or.inr ⟨hq, hnone, (Except.ok.inj h).symm⟩))

theorem registerAnnounceMessage_own {header : Header} {a : AnnounceMessage} {age : Duration}
    (h : l.registerAnnounceMessage p header a age = .ok l') :
    l'.ownPortAnnounceInterval = l.ownPortAnnounceInterval ∧
      l'.ownPortIdentity = l.ownPortIdentity := by
  rcases registerAnnounceMessage_cases h with ⟨-, rfl⟩ | ⟨-, -, fms, rfl, -⟩ |
    ⟨-, -, fms, rfl, -⟩ | ⟨-, -, rfl⟩ <;> exact ⟨rfl, rfl⟩

/-- **A registration leaves the records of other masters alone.** -/
theorem recordsOf_register_other {header : Header} {a : AnnounceMessage} {age : Duration}
    {identity : PortIdentity} (hne : a.header.sourcePortIdentity ≠ identity)
    (h : l.registerAnnounceMessage p header a age = .ok l') :
    l'.recordsOf identity = l.recordsOf identity := by
  rcases registerAnnounceMessage_cases h with ⟨-, rfl⟩ | ⟨-, -, fms, rfl, hfms⟩ |
    ⟨-, -, fms, rfl, hfms⟩ | ⟨-, -, rfl⟩
  · rfl
  · refine filter_modifyFirst_of_not ?_ ?_ _ _ hfms
    · intro fm hfm
      rw [decide_eq_true_eq] at hfm
      rw [decide_eq_false_iff_not, hfm]
      exact hne
    · intro fm fm' hfm
      rw [← Except.ok.inj hfm]
      rfl
  · rw [recordsOf, hfms, List.filter_append, recordsOf]
    have hnew : [ForeignMaster.new header a].filter
        (fun fm => decide (fm.foreignMasterPortIdentity = identity)) = [] := by
      simp [ForeignMaster.new, hne]
    rw [hnew, List.append_nil]
  · rfl

/-- A qualified message is added to the record of its master. -/
theorem recordsOf_register_same {header : Header} {a : AnnounceMessage} {age : Duration}
    {fm : ForeignMaster} (hfm : l.recordsOf a.header.sourcePortIdentity = [fm])
    (hq : l.isAnnounceMessageQualified a = true)
    (h : l.registerAnnounceMessage p header a age = .ok l') :
    l'.recordsOf a.header.sourcePortIdentity =
      [withMessage l.ownPortAnnounceInterval fm ⟨header, a, age⟩] := by
  rcases registerAnnounceMessage_cases h with ⟨hnq, -⟩ | ⟨-, -, fms, rfl, hfms⟩ |
    ⟨-, hnone, -⟩ | ⟨-, hnone, -⟩
  · rw [hnq] at hq
    cases hq
  · obtain ⟨fm', hfm', hfilter⟩ := filter_modifyFirst_head
      (fun x y hxy => by rw [← Except.ok.inj hxy]; rfl) _ _ hfm hfms
    rw [← Except.ok.inj hfm'] at hfilter
    exact hfilter
  · rw [hnone] at hfm
    cases hfm
  · rw [hnone] at hfm
    cases hfm

/-- The first message of a master makes a record of one message, if it is stored at all. -/
theorem recordsOf_register_first {header : Header} {a : AnnounceMessage} {age : Duration}
    (hnone : l.recordsOf a.header.sourcePortIdentity = [])
    (h : l.registerAnnounceMessage p header a age = .ok l') :
    l'.recordsOf a.header.sourcePortIdentity = [] ∨
      l'.recordsOf a.header.sourcePortIdentity = [ForeignMaster.new header a] := by
  rcases registerAnnounceMessage_cases h with ⟨-, rfl⟩ | ⟨-, hsome, -⟩ |
    ⟨-, -, fms, rfl, hfms⟩ | ⟨-, -, rfl⟩
  · exact Or.inl hnone
  · exact absurd hnone hsome
  · right
    rw [recordsOf] at hnone
    rw [recordsOf, hfms, List.filter_append, hnone]
    simp [ForeignMaster.new]
  · exact Or.inl hnone

/-- The record after its newest message was taken. -/
def taken (fm : ForeignMaster) : ForeignMaster :=
  if isQualified fm then { fm with announceMessages := fm.announceMessages.dropLast } else fm

theorem taken_identity (fm : ForeignMaster) :
    (taken fm).foreignMasterPortIdentity = fm.foreignMasterPortIdentity := by
  rw [taken]
  split <;> rfl

theorem recordsOf_take (l : ForeignMasterList) (identity : PortIdentity) :
    l.takeQualifiedAnnounceMessages.2.recordsOf identity = (l.recordsOf identity).map taken := by
  rw [recordsOf, recordsOf]
  show (l.foreignMasters.toList.map taken).filter _ = _
  rw [List.filter_map]
  congr 2
  funext fm
  simp only [Function.comp_apply, taken_identity]

/-- The records of a master age as if there were no others. -/
theorem stepAgeAll_filter {step : Duration} {interval : TimeInterval} {identity : PortIdentity} :
    ∀ (fms fms' : List ForeignMaster), stepAgeAll p step interval fms = .ok fms' →
      stepAgeAll p step interval
          (fms.filter fun fm => decide (fm.foreignMasterPortIdentity = identity)) =
        .ok (fms'.filter fun fm => decide (fm.foreignMasterPortIdentity = identity)) := by
  intro fms
  induction fms with
  | nil => intro fms' h; rw [← Except.ok.inj h]; rfl
  | cons fm fms ih =>
    intro fms' h
    obtain ⟨rest, hrest, h⟩ := bind_eq_ok.mp h
    obtain ⟨fm', hfm', h⟩ := bind_eq_ok.mp h
    obtain ⟨-, -, hid, -⟩ := ForeignMaster.stepAge_eq_ok hfm'
    have ih := ih rest hrest
    by_cases hsel : fm.foreignMasterPortIdentity = identity
    · rw [List.filter_cons, if_pos (decide_eq_true hsel), stepAgeAll, ih, ok_bind, hfm', ok_bind]
      split at h
      · rename_i hempty
        rw [if_pos hempty, ← Except.ok.inj h, pure_eq_ok]
      · rename_i hempty
        rw [if_neg hempty, ← Except.ok.inj h, List.filter_cons,
          if_pos (decide_eq_true (hid.trans hsel)), pure_eq_ok]
    · rw [List.filter_cons, if_neg (by simpa using hsel), ih]
      split at h
      · rw [← Except.ok.inj h]
      · rw [← Except.ok.inj h, List.filter_cons, if_neg (by rw [hid]; simpa using hsel)]

theorem stepAge_own {step : Duration} (h : l.stepAge p step = .ok l') :
    l'.ownPortAnnounceInterval = l.ownPortAnnounceInterval ∧
      l'.ownPortIdentity = l.ownPortIdentity := by
  obtain ⟨fms, -, rfl⟩ := stepAge_eq_ok h
  exact ⟨rfl, rfl⟩

theorem recordsOf_stepAge {step : Duration} (identity : PortIdentity)
    (h : l.stepAge p step = .ok l') :
    stepAgeAll p step l.ownPortAnnounceInterval (l.recordsOf identity) =
      .ok (l'.recordsOf identity) := by
  obtain ⟨fms, hfms, rfl⟩ := stepAge_eq_ok h
  exact stepAgeAll_filter _ _ hfms

/-- The record of a clock that has one. -/
theorem recordsOf_stepAge_singleton {step : Duration} {identity : PortIdentity} {fm : ForeignMaster}
    (hfm : l.recordsOf identity = [fm]) (h : l.stepAge p step = .ok l') :
    ∃ fm' ms, ForeignMaster.ageAll p step fm.announceMessages.toList = .ok ms ∧
      fm'.announceMessages.toList = ms.filter (·.isYoung l.ownPortAnnounceInterval) ∧
      l'.recordsOf identity = if fm'.announceMessages.toList.isEmpty then [] else [fm'] := by
  have hrec := recordsOf_stepAge identity h
  rw [hfm] at hrec
  obtain ⟨rest, hrest, hrec⟩ := bind_eq_ok.mp hrec
  obtain rfl := Except.ok.inj hrest
  obtain ⟨fm', hstep, hrec⟩ := bind_eq_ok.mp hrec
  obtain ⟨ms, hage, -, hlist⟩ := ForeignMaster.stepAge_eq_ok hstep
  refine ⟨fm', ms, hage, hlist, ?_⟩
  split at hrec
  · rename_i hempty
    rw [if_pos hempty, Except.ok.inj hrec]
  · rename_i hempty
    rw [if_neg hempty, Except.ok.inj hrec]

/-! ### Where the messages come from -/

/-- Every message of a record was sent by the record's master. -/
def Sourced (l : ForeignMasterList) : Prop :=
  ∀ fm ∈ l.foreignMasters.toList, ∀ m ∈ fm.announceMessages.toList,
    m.message.header.sourcePortIdentity = fm.foreignMasterPortIdentity

theorem mem_pushEvict {α : Type} {cap : Nat} {v : ArrayVec α (cap + 1)} {x y : α}
    (h : y ∈ (v.pushEvict x).toList) : y ∈ v.toList ∨ y = x := by
  rw [ArrayVec.pushEvict] at h
  split at h
  · simpa using h
  · rcases List.mem_append.mp h with htail | hnew
    · exact Or.inl (List.mem_of_mem_tail htail)
    · exact Or.inr (List.mem_singleton.mp hnew)

theorem Sourced.register {header : Header} {a : AnnounceMessage} {age : Duration}
    (hs : Sourced l) (h : l.registerAnnounceMessage p header a age = .ok l') : Sourced l' := by
  rcases registerAnnounceMessage_cases h with ⟨-, rfl⟩ | ⟨-, -, fms, rfl, hfms⟩ |
    ⟨-, -, fms, rfl, hfms⟩ | ⟨-, -, rfl⟩
  · exact hs
  · intro fm hfm m hm
    rcases mem_modifyFirst _ _ hfms hfm with hold | ⟨old, hold, hknown, hnew⟩
    · exact hs fm hold m hm
    · obtain rfl := Except.ok.inj hnew
      rcases mem_pushEvict hm with hkept | rfl
      · exact hs old hold m (List.mem_filter.mp hkept).1
      · exact (of_decide_eq_true hknown).symm
  · intro fm hfm m hm
    rw [hfms] at hfm
    rcases List.mem_append.mp hfm with hold | hnew
    · exact hs fm hold m hm
    · obtain rfl := List.mem_singleton.mp hnew
      rcases mem_pushEvict hm with hkept | rfl
      · cases hkept
      · rfl
  · exact hs

theorem Sourced.take (hs : Sourced l) : Sourced l.takeQualifiedAnnounceMessages.2 := by
  intro fm hfm m hm
  obtain ⟨old, hold, rfl⟩ := List.mem_map.mp hfm
  refine Eq.trans ?_ (taken_identity old).symm
  have hmem : m ∈ old.announceMessages.toList := by
    split at hm
    · exact List.dropLast_subset _ hm
    · exact hm
  exact hs old hold m hmem

theorem mem_ageAll {step : Duration} : ∀ (ms ms' : List ForeignAnnounceMessage),
    ForeignMaster.ageAll p step ms = .ok ms' →
      ∀ m' ∈ ms', ∃ m ∈ ms, m'.message = m.message ∧ m'.header = m.header := by
  intro ms
  induction ms with
  | nil =>
    intro ms' h m' hm'
    rw [← Except.ok.inj h] at hm'
    cases hm'
  | cons m ms ih =>
    intro ms' h m' hm'
    obtain ⟨age, -, h⟩ := bind_eq_ok.mp h
    obtain ⟨rest, hrest, h⟩ := bind_eq_ok.mp h
    obtain rfl := Except.ok.inj h
    rcases List.mem_cons.mp hm' with rfl | htail
    · exact ⟨m, List.mem_cons_self, rfl, rfl⟩
    · obtain ⟨k, hk, he⟩ := ih rest hrest m' htail
      exact ⟨k, List.mem_cons_of_mem _ hk, he⟩

theorem mem_stepAgeAll {step : Duration} {interval : TimeInterval} :
    ∀ (fms fms' : List ForeignMaster), stepAgeAll p step interval fms = .ok fms' →
      ∀ fm' ∈ fms', ∃ fm ∈ fms, fm.stepAge p step interval = .ok fm' := by
  intro fms
  induction fms with
  | nil =>
    intro fms' h fm' hfm'
    rw [← Except.ok.inj h] at hfm'
    cases hfm'
  | cons fm fms ih =>
    intro fms' h fm' hfm'
    obtain ⟨rest, hrest, h⟩ := bind_eq_ok.mp h
    obtain ⟨new, hnew, h⟩ := bind_eq_ok.mp h
    have hrestMem : fm' ∈ rest → ∃ k ∈ fm :: fms, k.stepAge p step interval = .ok fm' := by
      intro hmem
      obtain ⟨k, hk, he⟩ := ih rest hrest fm' hmem
      exact ⟨k, List.mem_cons_of_mem _ hk, he⟩
    split at h
    · rw [← Except.ok.inj h] at hfm'
      exact hrestMem hfm'
    · rw [← Except.ok.inj h] at hfm'
      rcases List.mem_cons.mp hfm' with rfl | hmem
      · exact ⟨fm, List.mem_cons_self, hnew⟩
      · exact hrestMem hmem

theorem Sourced.stepAge {step : Duration} (hs : Sourced l) (h : l.stepAge p step = .ok l') :
    Sourced l' := by
  obtain ⟨fms, hfms, rfl⟩ := stepAge_eq_ok h
  intro fm' hfm' m' hm'
  obtain ⟨fm, hfm, hstep⟩ := mem_stepAgeAll _ _ hfms fm' hfm'
  obtain ⟨ms, hms, hid, hlist⟩ := ForeignMaster.stepAge_eq_ok hstep
  rw [hlist] at hm'
  obtain ⟨m, hm, hmsg, -⟩ := mem_ageAll _ _ hms m' (List.mem_filter.mp hm').1
  rw [hmsg, hid]
  exact hs fm hfm m hm

end ForeignMasterList

end Statime
