import Mathlib.Data.List.Chain
import Statime.Bmc.Rounds
import Statime.Machine.Run

/-!
# The calls of a port

A port registers announce messages, takes the best one and lets the ages advance, in any order.  What
every record keeps through these calls is `ForeignMaster.WellFormed`.

* `Bmca.WellFormed.takeBest_eq`: taking the best message leaves the record of the winner as it is.
* `Bmca.WellFormed.next`: where a record comes from.
* `Bmca.records_invariant`: what holds of the list after any calls.
-/

namespace Statime

open Rust

/-! ### What a record keeps -/

namespace ForeignMaster

/-- A record of messages that were qualified when they came, from the oldest to the newest. -/
structure WellFormed (interval : TimeInterval) (own : PortIdentity) (fm : ForeignMaster) : Prop where
  nonempty : fm.announceMessages.toList ≠ []
  foreign : fm.foreignMasterPortIdentity.clockIdentity ≠ own.clockIdentity
  source : ∀ m ∈ fm.announceMessages.toList,
    m.message.header.sourcePortIdentity = fm.foreignMasterPortIdentity
  stepsRemoved : ∀ m ∈ fm.announceMessages.toList, m.message.stepsRemoved < 255
  nonneg : ∀ m ∈ fm.announceMessages.toList, 0 ≤ m.age.toInt
  ordered : fm.announceMessages.toList.Pairwise fun m n => n.age.toInt ≤ m.age.toInt
  newer : fm.announceMessages.toList.IsChain fun m n =>
    n.message.header.sequenceId - m.header.sequenceId < 32767
  /-- Only a message that has just come may be too old, for an interval that is not positive. -/
  young : (∀ m ∈ fm.announceMessages.toList, m.isYoung interval = true) ∨
    ∃ m, fm.announceMessages.toList = [m] ∧ m.age.toInt = 0

end ForeignMaster

/-- A registered message, and the time that has passed since. -/
@[ext] structure Registration where
  header : Header
  message : AnnounceMessage
  elapsed : Int

def Registration.later (r : Registration) (step : Int) : Registration :=
  { r with elapsed := r.elapsed + step }

namespace ForeignAnnounceMessage

variable {interval : TimeInterval} {m n : ForeignAnnounceMessage}

theorem isYoung_of_le (h : n.age.toInt ≤ m.age.toInt) (hm : m.isYoung interval = true) :
    n.isYoung interval = true :=
  decide_eq_true (lt_of_le_of_lt h (of_decide_eq_true hm))

/-- Some age is young only if a new message is. -/
theorem isYoung_of_zero (hm : m.isYoung interval = true) (hnonneg : 0 ≤ m.age.toInt)
    (hn : n.age.toInt = 0) : n.isYoung interval = true :=
  isYoung_of_le (by omega) hm

/-- The young messages of a record are the last ones. -/
theorem filter_young_suffix {ms : List ForeignAnnounceMessage}
    (h : ms.Pairwise fun m n => n.age.toInt ≤ m.age.toInt) :
    ms.filter (·.isYoung interval) <:+ ms :=
  filter_suffix (h.imp fun hle => isYoung_of_le hle)

def registration (m : ForeignAnnounceMessage) : Registration := ⟨m.header, m.message, m.age.toInt⟩

/-- **A step that overflows no age** adds to all of them. -/
theorem ageAll_debug {step : Duration} : ∀ (ms ms' : List ForeignAnnounceMessage),
    ForeignMaster.ageAll .debug step ms = .ok ms' →
      ms'.map registration = (ms.map registration).map (·.later step.toInt) := by
  intro ms
  induction ms with
  | nil =>
    intro ms' h
    rw [← Except.ok.inj h]
    rfl
  | cons m ms ih =>
    intro ms' h
    obtain ⟨age, hage, h⟩ := bind_eq_ok.mp h
    obtain ⟨rest, hrest, h⟩ := bind_eq_ok.mp h
    rw [← Except.ok.inj h, List.map_cons, ih rest hrest, List.map_cons, List.map_cons, registration,
      registration, Registration.later, Duration.add_debug hage]

end ForeignAnnounceMessage

namespace ForeignMaster.WellFormed

variable {interval : TimeInterval} {own : PortIdentity} {fm : ForeignMaster}

/-- In a record that is compared all messages are young. -/
theorem young_of_qualified (h : fm.WellFormed interval own)
    (hq : ForeignMasterList.isQualified fm = true) :
    ∀ m ∈ fm.announceMessages.toList, m.isYoung interval = true := by
  rcases h.young with hall | ⟨m, hm, -⟩
  · exact hall
  · rw [ForeignMasterList.isQualified, hm] at hq
    cases hq

/-- Such a record is what remains without the newest message, and that message. -/
theorem split_of_qualified (h : fm.WellFormed interval own)
    (hq : ForeignMasterList.isQualified fm = true) :
    ∃ (init : List ForeignAnnounceMessage) (last m : ForeignAnnounceMessage),
      fm.announceMessages.toList = init ++ [last] ++ [m] := by
  have hlen : 2 ≤ fm.announceMessages.toList.length := of_decide_eq_true hq
  rcases List.eq_nil_or_concat fm.announceMessages.toList with hnil | ⟨rest, m, hrest⟩
  · exact absurd hnil h.nonempty
  · rw [List.concat_eq_append] at hrest
    rcases List.eq_nil_or_concat rest with rfl | ⟨init, last, rfl⟩
    · rw [hrest, List.nil_append, List.length_singleton] at hlen
      omega
    · rw [List.concat_eq_append] at hrest
      exact ⟨init, last, m, hrest⟩

/-- **The newest message put back**: it is newer than the one before, and there is room. -/
theorem withMessage_taken (h : fm.WellFormed interval own)
    (hq : ForeignMasterList.isQualified fm = true) {m : ForeignAnnounceMessage}
    (hm : fm.announceMessages.toList.getLast? = some m) :
    ForeignMasterList.withMessage interval (ForeignMasterList.taken fm) m = fm := by
  have hrest : fm.announceMessages.toList.dropLast ++ [m] = fm.announceMessages.toList :=
    List.dropLast_append_getLast? m hm
  have hyoung : (fm.announceMessages.dropLast.retain (·.isYoung interval)).toList =
      fm.announceMessages.toList.dropLast := by
    rw [ArrayVec.toList_retain, ArrayVec.toList_dropLast, List.filter_eq_self]
    intro n hn
    exact h.young_of_qualified hq n (List.dropLast_subset _ hn)
  have hroom : (fm.announceMessages.dropLast.retain (·.isYoung interval)).toList.length <
      maxAnnounceMessages := by
    have hlen := fm.announceMessages.length_le
    rw [← hrest, List.length_append, List.length_singleton] at hlen
    rw [hyoung]
    omega
  rw [ForeignMasterList.withMessage, ForeignMasterList.taken, if_pos hq]
  cases fm
  simp only [ForeignMaster.mk.injEq, true_and]
  exact ArrayVec.ext ((ArrayVec.toList_pushEvict_of_lt hroom).trans (by rw [hyoung, hrest]))

theorem newer_than_taken (h : fm.WellFormed interval own)
    (hq : ForeignMasterList.isQualified fm = true) {m last : ForeignAnnounceMessage}
    (hm : fm.announceMessages.toList.getLast? = some m)
    (hlast : (ForeignMasterList.taken fm).announceMessages.toList.getLast? = some last) :
    m.message.header.sequenceId - last.header.sequenceId < 32767 := by
  rw [ForeignMasterList.taken, if_pos hq] at hlast
  have hnewer := h.newer
  rw [← List.dropLast_append_getLast? m hm, List.isChain_append] at hnewer
  exact hnewer.2.2 last hlast m rfl

/-- A new record. -/
theorem of_new {header : Header} {a : AnnounceMessage}
    (hforeign : a.header.sourcePortIdentity.clockIdentity ≠ own.clockIdentity)
    (hsteps : a.stepsRemoved < 255) : (ForeignMaster.new header a).WellFormed interval own where
  nonempty := List.cons_ne_nil _ _
  foreign := hforeign
  source := List.forall_mem_singleton.mpr rfl
  stepsRemoved := List.forall_mem_singleton.mpr hsteps
  nonneg := List.forall_mem_singleton.mpr (Int.le_of_eq Duration.toInt_zero.symm)
  ordered := List.pairwise_singleton _ _
  newer := List.isChain_singleton _
  young := Or.inr ⟨_, rfl, Duration.toInt_zero⟩

/-- A record with one more message: the young ones, perhaps without the first of them. -/
theorem exists_withMessage (h : fm.WellFormed interval own) (m : ForeignAnnounceMessage) :
    ∃ front, (∀ n ∈ front, n.isYoung interval = true) ∧ front <:+ fm.announceMessages.toList ∧
      (ForeignMasterList.withMessage interval fm m).announceMessages.toList = front ++ [m] := by
  obtain ⟨front, hsuffix, hlist⟩ :=
    (fm.announceMessages.retain (·.isYoung interval)).exists_toList_pushEvict m
  rw [ArrayVec.toList_retain] at hsuffix
  refine ⟨front, fun n hn => (List.mem_filter.mp (hsuffix.subset hn)).2, ?_, hlist⟩
  exact hsuffix.trans (ForeignAnnounceMessage.filter_young_suffix h.ordered)

/-- A record with a new message. -/
theorem withMessage (h : fm.WellFormed interval own) {header : Header} {a : AnnounceMessage}
    (hsource : a.header.sourcePortIdentity = fm.foreignMasterPortIdentity)
    (hsteps : a.stepsRemoved < 255)
    (hnewer : ∀ last, fm.announceMessages.toList.getLast? = some last →
      a.header.sequenceId - last.header.sequenceId < 32767) :
    (ForeignMasterList.withMessage interval fm ⟨header, a, Duration.zero⟩).WellFormed interval own := by
  obtain ⟨front, hyoung, hfront, hlist⟩ := exists_withMessage h ⟨header, a, Duration.zero⟩
  constructor
  · rw [hlist]
    exact List.append_ne_nil_of_right_ne_nil _ (List.cons_ne_nil _ _)
  · exact h.foreign
  · rw [hlist]
    exact List.forall_mem_append.mpr ⟨fun m hm => h.source m (hfront.subset hm),
      List.forall_mem_singleton.mpr hsource⟩
  · rw [hlist]
    exact List.forall_mem_append.mpr ⟨fun m hm => h.stepsRemoved m (hfront.subset hm),
      List.forall_mem_singleton.mpr hsteps⟩
  · rw [hlist]
    exact List.forall_mem_append.mpr ⟨fun m hm => h.nonneg m (hfront.subset hm),
      List.forall_mem_singleton.mpr (Int.le_of_eq Duration.toInt_zero.symm)⟩
  · rw [hlist, List.pairwise_append]
    refine ⟨h.ordered.sublist hfront.sublist, List.pairwise_singleton _ _, fun m hm n hn => ?_⟩
    rw [List.mem_singleton.mp hn, Duration.toInt_zero]
    exact h.nonneg m (hfront.subset hm)
  · rw [hlist]
    refine (h.newer.suffix hfront).append (List.isChain_singleton _) fun last hlast n hn => ?_
    rw [← Option.some.inj hn]
    exact hnewer last (getLast?_of_suffix hfront hlast)
  · rw [hlist]
    rcases List.eq_nil_or_concat front with rfl | ⟨rest, m, hrest⟩
    · exact Or.inr ⟨_, rfl, Duration.toInt_zero⟩
    · have hm : m ∈ front := by
        rw [hrest, List.concat_eq_append]
        exact List.mem_append_right _ List.mem_cons_self
      refine Or.inl (List.forall_mem_append.mpr ⟨hyoung, List.forall_mem_singleton.mpr ?_⟩)
      exact ForeignAnnounceMessage.isYoung_of_zero (hyoung m hm) (h.nonneg m (hfront.subset hm))
        Duration.toInt_zero

/-- A record without its newest message, when it was compared. -/
theorem taken (h : fm.WellFormed interval own) :
    (ForeignMasterList.taken fm).WellFormed interval own := by
  by_cases hq : ForeignMasterList.isQualified fm = true
  · have hlist : (ForeignMasterList.taken fm).announceMessages.toList =
        fm.announceMessages.toList.dropLast := by
      rw [ForeignMasterList.taken, if_pos hq]
      rfl
    obtain ⟨init, last, m, hsplit⟩ := h.split_of_qualified hq
    have hfront := List.dropLast_subset fm.announceMessages.toList
    constructor
    · rw [hlist, hsplit, List.dropLast_concat]
      exact List.append_ne_nil_of_right_ne_nil _ (List.cons_ne_nil _ _)
    · rw [ForeignMasterList.taken_identity]
      exact h.foreign
    · rw [hlist, ForeignMasterList.taken_identity]
      exact fun m hm => h.source m (hfront hm)
    · rw [hlist]
      exact fun m hm => h.stepsRemoved m (hfront hm)
    · rw [hlist]
      exact fun m hm => h.nonneg m (hfront hm)
    · rw [hlist]
      exact h.ordered.sublist (List.dropLast_sublist _)
    · rw [hlist]
      exact h.newer.dropLast
    · rw [hlist]
      exact Or.inl fun m hm => h.young_of_qualified hq m (hfront hm)
  · rw [ForeignMasterList.taken, if_neg hq]
    exact h

/-- A record some time later, when something is left of it. -/
theorem stepAge (h : fm.WellFormed interval own) {fm' : ForeignMaster} {step : Duration}
    (hstep : 0 ≤ step.toInt) (hage : fm.stepAge .debug step interval = .ok fm')
    (hnonempty : fm'.announceMessages.toList ≠ []) :
    fm'.WellFormed interval own ∧ fm'.foreignMasterPortIdentity = fm.foreignMasterPortIdentity ∧
      (∀ m ∈ fm'.announceMessages.toList, m.isYoung interval = true) ∧
      fm'.announceMessages.toList.map (·.registration) <:+
        (fm.announceMessages.toList.map (·.registration)).map (·.later step.toInt) := by
  obtain ⟨ms, hms, hid, hlist⟩ := ForeignMaster.stepAge_eq_ok hage
  have hmap := ForeignAnnounceMessage.ageAll_debug _ _ hms
  have hold : ∀ m' ∈ ms, ∃ m ∈ fm.announceMessages.toList,
      m'.registration = m.registration.later step.toInt := by
    intro m' hm'
    have hmem := List.mem_map_of_mem (f := (·.registration)) hm'
    rw [hmap, List.map_map] at hmem
    obtain ⟨m, hm, he⟩ := List.mem_map.mp hmem
    exact ⟨m, hm, he.symm⟩
  have hordered : ms.Pairwise fun m n => n.age.toInt ≤ m.age.toInt := by
    have hall : (ms.map (·.registration)).Pairwise fun r s => s.elapsed ≤ r.elapsed := by
      rw [hmap, List.map_map, List.pairwise_map]
      exact h.ordered.imp fun hle => Int.add_le_add_right hle _
    exact List.pairwise_map.mp hall
  have hnewer : ms.IsChain fun m n => n.message.header.sequenceId - m.header.sequenceId < 32767 := by
    have hall : (ms.map (·.registration)).IsChain fun r s =>
        s.message.header.sequenceId - r.header.sequenceId < 32767 := by
      rw [hmap, List.map_map, List.isChain_map]
      exact h.newer
    exact (List.isChain_map _).mp hall
  have hsuffix : fm'.announceMessages.toList <:+ ms := by
    rw [hlist]
    exact ForeignAnnounceMessage.filter_young_suffix hordered
  have hyoung : ∀ m ∈ fm'.announceMessages.toList, m.isYoung interval = true := by
    intro m hm
    rw [hlist] at hm
    exact (List.mem_filter.mp hm).2
  refine ⟨⟨hnonempty, ?_, ?_, ?_, ?_, hordered.sublist hsuffix.sublist, hnewer.suffix hsuffix,
    Or.inl hyoung⟩, hid, hyoung, ?_⟩
  · rw [hid]
    exact h.foreign
  · intro m' hm'
    obtain ⟨m, hm, he⟩ := hold m' (hsuffix.subset hm')
    rw [hid, ← h.source m hm]
    exact congrArg (·.header.sourcePortIdentity) (congrArg Registration.message he)
  · intro m' hm'
    obtain ⟨m, hm, he⟩ := hold m' (hsuffix.subset hm')
    have hmessage : m'.message = m.message := congrArg Registration.message he
    rw [hmessage]
    exact h.stepsRemoved m hm
  · intro m' hm'
    obtain ⟨m, hm, he⟩ := hold m' (hsuffix.subset hm')
    have hage : m'.age.toInt = m.age.toInt + step.toInt := congrArg Registration.elapsed he
    have := h.nonneg m hm
    omega
  · rw [← hmap]
    exact hsuffix.map _

end ForeignMaster.WellFormed

namespace ForeignMasterList

/-- One record for each master, and each record in order. -/
structure WellFormed (l : ForeignMasterList) : Prop where
  distinct : (l.foreignMasters.toList.map (·.foreignMasterPortIdentity)).Nodup
  records : ∀ fm ∈ l.foreignMasters.toList,
    fm.WellFormed l.ownPortAnnounceInterval l.ownPortIdentity

theorem WellFormed.recordsOf_eq {l : ForeignMasterList} (h : l.WellFormed) {fm : ForeignMaster}
    (hfm : fm ∈ l.foreignMasters.toList) : l.recordsOf fm.foreignMasterPortIdentity = [fm] :=
  filter_key_eq_singleton h.distinct hfm

theorem WellFormed.eq_of_identity {l : ForeignMasterList} (h : l.WellFormed) {fm fm' : ForeignMaster}
    (hfm : fm ∈ l.foreignMasters.toList) (hfm' : fm' ∈ l.foreignMasters.toList)
    (hid : fm.foreignMasterPortIdentity = fm'.foreignMasterPortIdentity) : fm = fm' := by
  have hmem : fm ∈ l.recordsOf fm'.foreignMasterPortIdentity := mem_recordsOf.mpr ⟨hfm, hid⟩
  rw [h.recordsOf_eq hfm'] at hmem
  exact List.mem_singleton.mp hmem

theorem ne_nil_of_mem_stepAgeAll {p : Profile} {step : Duration} {interval : TimeInterval} :
    ∀ (fms fms' : List ForeignMaster), stepAgeAll p step interval fms = .ok fms' →
      ∀ fm ∈ fms', fm.announceMessages.toList ≠ [] := by
  intro fms
  induction fms with
  | nil =>
    intro fms' h fm hfm
    rw [← Except.ok.inj h] at hfm
    cases hfm
  | cons fm fms ih =>
    intro fms' h fm' hfm'
    obtain ⟨rest, hrest, h⟩ := bind_eq_ok.mp h
    obtain ⟨new, -, h⟩ := bind_eq_ok.mp h
    split at h
    · rw [← Except.ok.inj h] at hfm'
      exact ih rest hrest fm' hfm'
    · rename_i hempty
      rw [← Except.ok.inj h] at hfm'
      rcases List.mem_cons.mp hfm' with rfl | hmem
      · exact fun hnil => hempty (by rw [hnil]; rfl)
      · exact ih rest hrest fm' hmem

theorem identities_stepAgeAll {p : Profile} {step : Duration} {interval : TimeInterval} :
    ∀ (fms fms' : List ForeignMaster), stepAgeAll p step interval fms = .ok fms' →
      (fms'.map (·.foreignMasterPortIdentity)).Sublist
        (fms.map (·.foreignMasterPortIdentity)) := by
  intro fms
  induction fms with
  | nil =>
    intro fms' h
    rw [← Except.ok.inj h]
  | cons fm fms ih =>
    intro fms' h
    obtain ⟨rest, hrest, h⟩ := bind_eq_ok.mp h
    obtain ⟨new, hnew, h⟩ := bind_eq_ok.mp h
    obtain ⟨-, -, hid, -⟩ := ForeignMaster.stepAge_eq_ok hnew
    split at h
    · rw [← Except.ok.inj h]
      exact (ih rest hrest).cons _
    · rw [← Except.ok.inj h, List.map_cons, List.map_cons, hid]
      exact (ih rest hrest).cons_cons _

end ForeignMasterList

/-! ### The best message, put back -/

namespace Bmca

variable {A : Type} [AcceptableMasterList A] {p : Profile} {b b' : Bmca A}

/-- A list of messages that the port accepted. -/
structure WellFormed (b : Bmca A) : Prop where
  identity : b.foreignMasterList.ownPortIdentity = b.ownPortIdentity
  accepted : ∀ fm ∈ b.foreignMasterList.foreignMasters.toList,
    ∀ m ∈ fm.announceMessages.toList, b.accepts m.message = true
  list : b.foreignMasterList.WellFormed

/-- The state after the best message was taken, when it came from this master: only the others lose
theirs. -/
def afterTaking (b : Bmca A) (winner : PortIdentity) : Bmca A :=
  { b with foreignMasterList := { b.foreignMasterList with
      foreignMasters := b.foreignMasterList.foreignMasters.map fun fm =>
        if fm.foreignMasterPortIdentity = winner then fm else ForeignMasterList.taken fm } }

namespace WellFormed

/-- **The best message is always registered again**, in the record that it was taken from. -/
theorem reregister_best (hb : b.WellFormed) {fm : ForeignMaster} {m : ForeignAnnounceMessage}
    (hfm : fm ∈ b.foreignMasterList.foreignMasters.toList)
    (hq : ForeignMasterList.isQualified fm = true)
    (hm : fm.announceMessages.toList.getLast? = some m)
    (h : ({ b with foreignMasterList := b.foreignMasterList.takeQualifiedAnnounceMessages.2 } :
      Bmca A).reregisterAnnounceMessage p m.header m.message m.age = .ok b') :
    b' = b.afterTaking fm.foreignMasterPortIdentity := by
  have hmem := List.mem_of_getLast? hm
  have hrecord := hb.list.records fm hfm
  have hsource := hrecord.source m hmem
  have htaken := ForeignMasterList.recordsOf_take b.foreignMasterList fm.foreignMasterPortIdentity
  rw [hb.list.recordsOf_eq hfm, List.map_singleton] at htaken
  rcases reregister_cases h with ⟨hno, -⟩ | ⟨-, l, rfl, hl⟩
  · have hyes : b.accepts m.message = false := hno
    rw [hb.accepted fm hfm m hmem] at hyes
    cases hyes
  · have hqualified : b.foreignMasterList.takeQualifiedAnnounceMessages.2.isAnnounceMessageQualified
        m.message = true := by
      rw [ForeignMasterList.isAnnounceMessageQualified_iff, hsource, htaken]
      refine ⟨hrecord.foreign, fun fm' last hfm' hlast => ?_, hrecord.stepsRemoved m hmem⟩
      obtain rfl := Option.some.inj hfm'
      exact hrecord.newer_than_taken hq hm hlast
    have hids : (b.foreignMasterList.foreignMasters.toList.map ForeignMasterList.taken).map
        (·.foreignMasterPortIdentity) =
          b.foreignMasterList.foreignMasters.toList.map (·.foreignMasterPortIdentity) := by
      rw [List.map_map]
      exact List.map_congr_left fun fm _ => ForeignMasterList.taken_identity fm
    rcases ForeignMasterList.registerAnnounceMessage_cases hl with ⟨hno, -⟩ | ⟨-, -, fms, rfl, hfms⟩ |
      ⟨-, hnone, -⟩ | ⟨-, hnone, -⟩
    · rw [hqualified] at hno
      cases hno
    · have hmap := modifyFirst_eq_map (k := m.message.header.sourcePortIdentity)
        (f := fun fm => ForeignMasterList.withMessage b.foreignMasterList.ownPortAnnounceInterval fm m)
        (hids.symm ▸ hb.list.distinct) (by
          rw [hids, hsource]
          exact List.mem_map_of_mem hfm)
      have hfms := Except.ok.inj (hfms.symm.trans hmap)
      have hsame : fms = (b.afterTaking fm.foreignMasterPortIdentity).foreignMasterList.foreignMasters :=
        ArrayVec.ext <| by
          rw [hfms, List.map_map]
          refine List.map_congr_left fun fm' hfm' => ?_
          rw [Function.comp_apply, ForeignMasterList.taken_identity, hsource]
          by_cases hid : fm'.foreignMasterPortIdentity = fm.foreignMasterPortIdentity
          · obtain rfl := hb.list.eq_of_identity hfm' hfm hid
            rw [if_pos rfl, if_pos rfl]
            exact hrecord.withMessage_taken hq hm
          · rw [if_neg hid, if_neg hid]
      rw [hsame]
      rfl
    · rw [hsource, htaken] at hnone
      cases hnone
    · rw [hsource, htaken] at hnone
      cases hnone

/-- **Taking the best message** leaves the record of the winner as it is and takes the newest message
out of every other record with at least two. -/
theorem takeBest_eq (hb : b.WellFormed) {best : Option BestAnnounceMessage}
    (h : b.takeBestPortAnnounceMessage p = .ok (best, b')) :
    (best = none ∧ b' = b ∧ ∀ fm ∈ b.foreignMasterList.foreignMasters.toList,
        ForeignMasterList.isQualified fm = false) ∨
      ∃ fm m, fm ∈ b.foreignMasterList.foreignMasters.toList ∧
        ForeignMasterList.isQualified fm = true ∧ fm.announceMessages.toList.getLast? = some m ∧
        best = some (b.toBest m) ∧ b' = b.afterTaking fm.foreignMasterPortIdentity := by
  obtain ⟨hbest, ⟨rfl, rfl⟩ | ⟨m, rfl, hm⟩⟩ := takeBest_cases h
  · -- no best message: no record has two
    have hnone : ∀ fm ∈ b.foreignMasterList.foreignMasters.toList,
        ForeignMasterList.isQualified fm = false := by
      intro fm hfm
      rw [← Bool.not_eq_true]
      intro hq
      obtain ⟨init, last, m, hsplit⟩ := (hb.list.records fm hfm).split_of_qualified hq
      have hmem : m ∈ b.foreignMasterList.takeQualifiedAnnounceMessages.1 :=
        ForeignMasterList.mem_takeQualifiedAnnounceMessages.mpr
          ⟨fm, hfm, of_decide_eq_true hq, by rw [hsplit, List.getLast?_concat]⟩
      rw [List.map_eq_nil_iff.mp (maxBy_eq_none hbest)] at hmem
      cases hmem
    have hsame : b.foreignMasterList.takeQualifiedAnnounceMessages.2.foreignMasters =
        b.foreignMasterList.foreignMasters := ArrayVec.ext <| by
      refine (List.map_congr_left fun fm hfm => ?_).trans (List.map_id _)
      rw [if_neg (by rw [hnone fm hfm]; exact Bool.false_ne_true)]
      rfl
    refine Or.inl ⟨rfl, ?_, hnone⟩
    change ({ b with foreignMasterList := { b.foreignMasterList with foreignMasters :=
      b.foreignMasterList.takeQualifiedAnnounceMessages.2.foreignMasters } } : Bmca A) = b
    rw [hsame]
  · obtain ⟨k, hk, rfl⟩ := List.mem_map.mp (maxBy_mem hbest)
    obtain ⟨fm, hfm, hq, hlast⟩ := ForeignMasterList.mem_takeQualifiedAnnounceMessages.mp hk
    have hq : ForeignMasterList.isQualified fm = true := decide_eq_true hq
    exact Or.inr ⟨fm, k, hfm, hq, hlast, rfl, hb.reregister_best hfm hq hlast hm⟩

end WellFormed

/-! ### Steps in a debug build -/

theorem ageAll_sameInDebug (step : Duration) : ∀ ms : List ForeignAnnounceMessage,
    SameInDebug fun p => ForeignMaster.ageAll p step ms := by
  intro ms
  induction ms with
  | nil => exact sameInDebug_const _
  | cons m ms ih =>
    exact (Duration.add_sameInDebug _ _).bind fun _ => ih.bind fun _ => sameInDebug_const _

theorem stepAgeAll_sameInDebug (step : Duration) (interval : TimeInterval) :
    ∀ fms : List ForeignMaster,
      SameInDebug fun p => ForeignMasterList.stepAgeAll p step interval fms := by
  intro fms
  induction fms with
  | nil => exact sameInDebug_const _
  | cons fm fms ih =>
    have hstep : SameInDebug fun p => fm.stepAge p step interval := by
      unfold ForeignMaster.stepAge
      simp only [ForeignMaster.purgeOldMessages_eq]
      exact (ArrayVec.updateM_sameInDebug (ageAll_sameInDebug step _)).bind fun _ =>
        sameInDebug_const _
    exact ih.bind fun _ => hstep.bind fun _ => sameInDebug_const _

omit [AcceptableMasterList A] in
theorem stepAge_sameInDebug (b : Bmca A) (step : Duration) :
    SameInDebug fun p => b.stepAge p step := by
  unfold stepAge ForeignMasterList.stepAge
  refine SameInDebug.bind (SameInDebug.bind ?_ fun _ => sameInDebug_const _) fun _ =>
    sameInDebug_const _
  exact ArrayVec.updateM_sameInDebug (stepAgeAll_sameInDebug step _ _)

/-! ### Calls in any order -/

inductive Call
  | register (header : Header) (announceMessage : AnnounceMessage)
  | takeBest
  | stepAge (step : Duration)

/-- The step that a call makes. -/
def Call.step : Call → Option Duration
  | .stepAge step => some step
  | _ => none

/-- A call of the port, with the best message that it returns. -/
def call (p : Profile) (b : Bmca A) : Call → Except Panic (Bmca A × Option BestAnnounceMessage)
  | .register header announceMessage => do
    let (b, _) ← b.registerAnnounceMessage p header announceMessage
    return (b, none)
  | .takeBest => do
    let (best, b) ← b.takeBestPortAnnounceMessage p
    return (b, best)
  | .stepAge step => do
    let b ← b.stepAge p step
    return (b, none)

/-- A step that is not negative, and that no age overflows with.  A debug build panics when one
does. -/
def Call.Timely (b : Bmca A) : Call → Prop
  | .stepAge step => 0 ≤ step.toInt ∧ (b.stepAge .debug step).isOk = true
  | _ => True

section Calls

variable {best : Option BestAnnounceMessage} {header : Header} {a : AnnounceMessage} {step : Duration}

theorem call_register (h : b.call p (.register header a) = .ok (b', best)) :
    best = none ∧ b.reregisterAnnounceMessage p header a Duration.zero = .ok b' := by
  obtain ⟨⟨b₁, stored⟩, hb₁, h⟩ := bind_eq_ok.mp h
  obtain ⟨rfl, rfl⟩ := Prod.mk.inj (Except.ok.inj h)
  exact ⟨rfl, register_reregister hb₁⟩

theorem call_takeBest (h : b.call p .takeBest = .ok (b', best)) :
    b.takeBestPortAnnounceMessage p = .ok (best, b') := by
  obtain ⟨⟨best₁, b₁⟩, hb₁, h⟩ := bind_eq_ok.mp h
  obtain ⟨rfl, rfl⟩ := Prod.mk.inj (Except.ok.inj h)
  exact hb₁

theorem call_stepAge (ht : (Call.stepAge step).Timely b)
    (h : b.call p (.stepAge step) = .ok (b', best)) :
    best = none ∧ b.stepAge .debug step = .ok b' := by
  obtain ⟨b₁, hb₁, h⟩ := bind_eq_ok.mp h
  obtain ⟨rfl, rfl⟩ := Prod.mk.inj (Except.ok.inj h)
  obtain ⟨b₂, hb₂⟩ := exists_of_isOk ht.2
  have hsame := stepAge_sameInDebug b step b₂ hb₂ p
  rw [Except.ok.inj (hb₁.symm.trans hsame)]
  exact ⟨rfl, hb₂⟩

end Calls

/-- Where a record comes from. -/
inductive Next (b : Bmca A) : Call → ForeignMaster → Prop
  | same {c : Call} {fm : ForeignMaster} : c.step = none →
      fm ∈ b.foreignMasterList.foreignMasters.toList → Next b c fm
  | first {header : Header} {a : AnnounceMessage} : b.accepts a = true →
      b.foreignMasterList.isAnnounceMessageQualified a = true →
      Next b (.register header a) (ForeignMaster.new header a)
  | added {header : Header} {a : AnnounceMessage} {fm : ForeignMaster} : b.accepts a = true →
      b.foreignMasterList.isAnnounceMessageQualified a = true →
      fm ∈ b.foreignMasterList.foreignMasters.toList →
      a.header.sourcePortIdentity = fm.foreignMasterPortIdentity →
      Next b (.register header a) (ForeignMasterList.withMessage
        b.foreignMasterList.ownPortAnnounceInterval fm ⟨header, a, Duration.zero⟩)
  | taken {fm : ForeignMaster} : fm ∈ b.foreignMasterList.foreignMasters.toList →
      Next b .takeBest (ForeignMasterList.taken fm)
  | aged {step : Duration} {fm fm' : ForeignMaster} :
      fm ∈ b.foreignMasterList.foreignMasters.toList →
      fm.stepAge .debug step b.foreignMasterList.ownPortAnnounceInterval = .ok fm' →
      fm'.announceMessages.toList ≠ [] → Next b (.stepAge step) fm'

/-- **Where the records come from** that a call leaves. -/
theorem WellFormed.next (hb : b.WellFormed) {c : Call} (ht : c.Timely b)
    {best : Option BestAnnounceMessage} (h : b.call p c = .ok (b', best)) :
    ∀ fm ∈ b'.foreignMasterList.foreignMasters.toList, Next b c fm := by
  intro fm hfm
  cases c with
  | register header a =>
    obtain ⟨-, h⟩ := call_register h
    rcases reregister_cases h with ⟨-, rfl⟩ | ⟨haccepts, l, rfl, hl⟩
    · exact .same rfl hfm
    · rcases ForeignMasterList.registerAnnounceMessage_cases hl with ⟨-, rfl⟩ |
        ⟨hq, -, fms, rfl, hfms⟩ | ⟨hq, -, fms, rfl, hfms⟩ | ⟨-, -, rfl⟩
      · exact .same rfl hfm
      · rcases mem_modifyFirst _ _ hfms hfm with hold | ⟨old, hold, hknown, hnew⟩
        · exact .same rfl hold
        · obtain rfl := Except.ok.inj hnew
          exact .added haccepts hq hold (of_decide_eq_true hknown).symm
      · rw [hfms] at hfm
        rcases List.mem_append.mp hfm with hold | hnew
        · exact .same rfl hold
        · obtain rfl := List.mem_singleton.mp hnew
          exact .first haccepts hq
      · exact .same rfl hfm
  | takeBest =>
    rcases hb.takeBest_eq (call_takeBest h) with ⟨-, rfl, -⟩ | ⟨winner, m, -, -, -, -, rfl⟩
    · exact .same rfl hfm
    · obtain ⟨old, hold, rfl⟩ := List.mem_map.mp hfm
      split
      · exact .same rfl hold
      · exact .taken hold
  | stepAge step =>
    obtain ⟨l, hl, h⟩ := bind_eq_ok.mp (call_stepAge ht h).2
    obtain rfl := Except.ok.inj h
    obtain ⟨fms, hfms, rfl⟩ := ForeignMasterList.stepAge_eq_ok hl
    obtain ⟨old, hold, hstep⟩ := ForeignMasterList.mem_stepAgeAll _ _ hfms fm hfm
    exact .aged hold hstep (ForeignMasterList.ne_nil_of_mem_stepAgeAll _ _ hfms fm hfm)

namespace WellFormed

variable {best : Option BestAnnounceMessage} {c : Call} {fm : ForeignMaster}

omit [AcceptableMasterList A] in
theorem sourced (hb : b.foreignMasterList.WellFormed) : b.foreignMasterList.Sourced :=
  fun fm hfm => (hb.records fm hfm).source

/-- Calls change the records only. -/
theorem owned_call (hb : b.WellFormed) (ht : c.Timely b) (h : b.call p c = .ok (b', best)) :
    b'.Owned b.acceptableMasterList b.foreignMasterList.ownPortAnnounceInterval
      b.ownPortIdentity := by
  have ho : b.Owned b.acceptableMasterList b.foreignMasterList.ownPortAnnounceInterval
      b.ownPortIdentity := ⟨rfl, rfl, hb.identity, rfl, sourced hb.list⟩
  cases c with
  | register header a => exact ho.reregister (call_register h).2
  | takeBest => exact ho.take (call_takeBest h)
  | stepAge step => exact ho.stepAge (call_stepAge ht h).2

/-- A qualified message of a known master is newer than the newest one. -/
theorem newer_of_qualified (hb : b.WellFormed) {a : AnnounceMessage}
    (hq : b.foreignMasterList.isAnnounceMessageQualified a = true)
    (hfm : fm ∈ b.foreignMasterList.foreignMasters.toList)
    (hsource : a.header.sourcePortIdentity = fm.foreignMasterPortIdentity) :
    ∀ last, fm.announceMessages.toList.getLast? = some last →
      a.header.sequenceId - last.header.sequenceId < 32767 := by
  have hnewer := (ForeignMasterList.isAnnounceMessageQualified_iff.mp hq).2.1
  rw [hsource, hb.list.recordsOf_eq hfm] at hnewer
  exact fun last hlast => hnewer fm last rfl hlast

/-- **Each record stays in order.** -/
theorem record_next (hb : b.WellFormed) (ht : c.Timely b) (h : Next b c fm) :
    fm.WellFormed b.foreignMasterList.ownPortAnnounceInterval
      b.foreignMasterList.ownPortIdentity := by
  cases h with
  | same _ hfm => exact hb.list.records _ hfm
  | first _ hq =>
    obtain ⟨hforeign, -, hsteps⟩ := ForeignMasterList.isAnnounceMessageQualified_iff.mp hq
    exact .of_new hforeign hsteps
  | added _ hq hfm hsource =>
    have hsteps := (ForeignMasterList.isAnnounceMessageQualified_iff.mp hq).2.2
    exact (hb.list.records _ hfm).withMessage hsource hsteps (hb.newer_of_qualified hq hfm hsource)
  | taken hfm => exact (hb.list.records _ hfm).taken
  | aged hfm hstep hnonempty => exact ((hb.list.records _ hfm).stepAge ht.1 hstep hnonempty).1

/-- Only accepted messages are in a record. -/
theorem accepted_next (hb : b.WellFormed) (ht : c.Timely b) (h : Next b c fm) :
    ∀ m ∈ fm.announceMessages.toList, b.accepts m.message = true := by
  intro m hm
  cases h with
  | same _ hfm => exact hb.accepted _ hfm m hm
  | first haccepts _ =>
    obtain rfl := List.mem_singleton.mp hm
    exact haccepts
  | added haccepts _ hfm _ =>
    rcases ForeignMasterList.mem_pushEvict hm with hkept | rfl
    · exact hb.accepted _ hfm m (List.mem_filter.mp hkept).1
    · exact haccepts
  | @taken old hfm =>
    rw [ForeignMasterList.taken] at hm
    split at hm
    · exact hb.accepted _ hfm m (List.dropLast_subset _ hm)
    · exact hb.accepted _ hfm m hm
  | aged hfm hstep hnonempty =>
    obtain ⟨ms, hms, -, hlist⟩ := ForeignMaster.stepAge_eq_ok hstep
    rw [hlist] at hm
    obtain ⟨k, hk, hmessage, -⟩ :=
      ForeignMasterList.mem_ageAll _ _ hms m (List.mem_filter.mp hm).1
    rw [hmessage]
    exact hb.accepted _ hfm k hk

/-- **No master gets a second record.** -/
theorem distinct_call (hb : b.WellFormed) (ht : c.Timely b) (h : b.call p c = .ok (b', best)) :
    (b'.foreignMasterList.foreignMasters.toList.map (·.foreignMasterPortIdentity)).Nodup := by
  cases c with
  | register header a =>
    obtain ⟨-, h⟩ := call_register h
    rcases reregister_cases h with ⟨-, rfl⟩ | ⟨-, l, rfl, hl⟩
    · exact hb.list.distinct
    · rcases ForeignMasterList.registerAnnounceMessage_cases hl with ⟨-, rfl⟩ |
        ⟨-, -, fms, rfl, hfms⟩ | ⟨-, hnone, fms, rfl, hfms⟩ | ⟨-, -, rfl⟩
      · exact hb.list.distinct
      · have hsame : fms.toList.map (·.foreignMasterPortIdentity) =
            b.foreignMasterList.foreignMasters.toList.map (·.foreignMasterPortIdentity) :=
          map_modifyFirst (fun x y hxy => by rw [← Except.ok.inj hxy]; rfl) _ _ hfms
        exact hsame ▸ hb.list.distinct
      · have hnew : a.header.sourcePortIdentity ∉
            b.foreignMasterList.foreignMasters.toList.map (·.foreignMasterPortIdentity) := by
          intro hmem
          obtain ⟨old, hold, hid⟩ := List.mem_map.mp hmem
          have := ForeignMasterList.mem_recordsOf.mpr ⟨hold, hid⟩
          rw [hnone] at this
          cases this
        change (fms.toList.map _).Nodup
        rw [hfms, List.map_append, List.map_singleton]
        exact List.concat_eq_append ▸ hb.list.distinct.concat hnew
      · exact hb.list.distinct
  | takeBest =>
    rcases hb.takeBest_eq (call_takeBest h) with ⟨-, rfl, -⟩ | ⟨winner, m, -, -, -, -, rfl⟩
    · exact hb.list.distinct
    · have hsame : (b.afterTaking winner.foreignMasterPortIdentity).foreignMasterList.foreignMasters.toList.map
          (·.foreignMasterPortIdentity) =
            b.foreignMasterList.foreignMasters.toList.map (·.foreignMasterPortIdentity) := by
        rw [afterTaking, ArrayVec.toList_map, List.map_map]
        refine List.map_congr_left fun fm _ => ?_
        rw [Function.comp_apply]
        split
        · rfl
        · exact ForeignMasterList.taken_identity fm
      rw [hsame]
      exact hb.list.distinct
  | stepAge step =>
    obtain ⟨l, hl, h⟩ := bind_eq_ok.mp (call_stepAge ht h).2
    obtain rfl := Except.ok.inj h
    obtain ⟨fms, hfms, rfl⟩ := ForeignMasterList.stepAge_eq_ok hl
    exact hb.list.distinct.sublist (ForeignMasterList.identities_stepAgeAll _ _ hfms)

/-- **The calls keep the list in order.** -/
theorem call (hb : b.WellFormed) (ht : c.Timely b) (h : b.call p c = .ok (b', best)) :
    b'.WellFormed := by
  have howned := hb.owned_call ht h
  constructor
  · rw [howned.identity, howned.listIdentity]
  · intro fm hfm m hm
    have hsame : b'.accepts m.message = b.accepts m.message := by
      rw [accepts, accepts, howned.identity, howned.acceptable]
    rw [hsame]
    exact hb.accepted_next ht (hb.next ht h fm hfm) m hm
  · refine ⟨hb.distinct_call ht h, fun fm hfm => ?_⟩
    rw [howned.interval, howned.listIdentity, ← hb.identity]
    exact hb.record_next ht (hb.next ht h fm hfm)

theorem of_new (acceptable : A) (interval : TimeInterval) (own : PortIdentity) :
    (Bmca.new acceptable interval own).WellFormed :=
  ⟨rfl, fun _ hfm => absurd hfm List.not_mem_nil, List.nodup_nil,
    fun _ hfm => absurd hfm List.not_mem_nil⟩

end WellFormed

instance (b : Bmca A) (c : Call) : Decidable (c.Timely b) :=
  match c with
  | .register _ _ => inferInstanceAs (Decidable True)
  | .takeBest => inferInstanceAs (Decidable True)
  | .stepAge _ => inferInstanceAs (Decidable (_ ∧ _))

/-- All steps of a run are timely. -/
def Timely (log : List (Machine.Transition (Bmca A) Call)) : Prop :=
  ∀ t ∈ log, t.event.Timely t.before

omit [AcceptableMasterList A] in
theorem Timely.concat {log : List (Machine.Transition (Bmca A) Call)}
    {t : Machine.Transition (Bmca A) Call} (h : Timely (log ++ [t])) :
    Timely log ∧ t.event.Timely t.before :=
  ⟨fun u hu => h u (List.mem_append_left _ hu), h t (List.mem_append_right _ List.mem_cons_self)⟩

/-- The state that a port starts with. -/
def IsNew (interval : TimeInterval) (b : Bmca A) : Prop :=
  ∃ acceptable own, b = Bmca.new acceptable interval own

/-- **After any calls** the list is in order, and the port has the interval that it started with. -/
theorem wellFormed_of_trace {interval : TimeInterval} {log : List (Machine.Transition (Bmca A) Call)}
    (h : Machine.Trace (call p) (IsNew interval) log b) (ht : Timely log) :
    b.WellFormed ∧ b.foreignMasterList.ownPortAnnounceInterval = interval := by
  induction h with
  | init hnew =>
    obtain ⟨acceptable, own, rfl⟩ := hnew
    exact ⟨.of_new acceptable interval own, rfl⟩
  | step _ he ih =>
    obtain ⟨hlog, htimely⟩ := ht.concat
    obtain ⟨hb, hinterval⟩ := ih hlog
    exact ⟨hb.call htimely he, (hb.owned_call htimely he).interval.trans hinterval⟩

end Bmca

end Statime
