import Statime.Rust.Iter
import Statime.Datastructures.Messages

/-!
# Foreign masters

`statime/src/bmc/foreign_master.rs`: for each foreign master the announce messages of
the last four announce intervals, at most eight masters with at most eight messages.

* `purgeOldMessages_eq`: dropping the old messages never panics, and what stays is
  what is younger than four intervals.
* `mem_takeQualifiedAnnounceMessages`: a message is compared when it is the newest of
  a record with at least two.
-/

namespace Statime

open Rust

/-- `FOREIGN_MASTER_TIME_WINDOW`, in announce intervals of the port. -/
def foreignMasterTimeWindow : Nat := 4

/-- `FOREIGN_MASTER_THRESHOLD`: the announce messages that must have been received within
the time window for a foreign master to be valid. -/
def foreignMasterThreshold : Nat := 2

abbrev maxAnnounceMessages : Nat := 8

abbrev maxForeignMasters : Nat := 8

structure ForeignAnnounceMessage where
  header : Header
  message : AnnounceMessage
  age : Duration
  deriving DecidableEq

structure ForeignMaster where
  foreignMasterPortIdentity : PortIdentity
  announceMessages : ArrayVec ForeignAnnounceMessage maxAnnounceMessages
  deriving DecidableEq

namespace ForeignMaster

def new (header : Header) (announceMessage : AnnounceMessage) : ForeignMaster where
  foreignMasterPortIdentity := announceMessage.header.sourcePortIdentity
  announceMessages := ArrayVec.new.pushEvict
    { header, message := announceMessage, age := Duration.zero }

/-- The caller sees from the messages left whether there are none. -/
def purgeOldMessages (p : Profile) (fm : ForeignMaster) (announceInterval : TimeInterval) :
    Except Panic ForeignMaster := do
  let cutoffAge ← (Duration.ofTimeInterval announceInterval).mul p foreignMasterTimeWindow
  return { fm with announceMessages := fm.announceMessages.retain fun m => m.age.lt cutoffAge }

def registerAnnounceMessage (p : Profile) (fm : ForeignMaster) (header : Header)
    (announceMessage : AnnounceMessage) (announceInterval : TimeInterval) (age : Duration) :
    Except Panic ForeignMaster := do
  let fm ← fm.purgeOldMessages p announceInterval
  let newMessage : ForeignAnnounceMessage := { header, message := announceMessage, age }
  return { fm with announceMessages := fm.announceMessages.pushEvict newMessage }

/-- `message.age += step` for all messages of the list. -/
def ageAll (p : Profile) (step : Duration) :
    List ForeignAnnounceMessage → Except Panic (List ForeignAnnounceMessage)
  | [] => .ok []
  | m :: ms => do
    let age ← m.age.add p step
    let ms ← ageAll p step ms
    return { m with age } :: ms

theorem length_ageAll (p : Profile) (step : Duration) :
    ∀ (ms ms' : List ForeignAnnounceMessage), ageAll p step ms = .ok ms' →
      ms'.length ≤ ms.length := by
  intro ms
  induction ms with
  | nil =>
    intro ms' h
    exact Nat.le_of_eq (congrArg List.length (Except.ok.inj h).symm)
  | cons m ms ih =>
    intro ms' h
    obtain ⟨age, -, h⟩ := bind_eq_ok.mp h
    obtain ⟨rest, hrest, h⟩ := bind_eq_ok.mp h
    have := ih rest hrest
    rw [← Except.ok.inj h, List.length_cons, List.length_cons]
    omega

def stepAge (p : Profile) (fm : ForeignMaster) (step : Duration)
    (announceInterval : TimeInterval) : Except Panic ForeignMaster := do
  let messages ← fm.announceMessages.updateM (ageAll p step) (length_ageAll p step)
  purgeOldMessages p { fm with announceMessages := messages } announceInterval

end ForeignMaster

structure ForeignMasterList where
  foreignMasters : ArrayVec ForeignMaster maxForeignMasters
  ownPortAnnounceInterval : TimeInterval
  ownPortIdentity : PortIdentity
  deriving DecidableEq

namespace ForeignMasterList

def new (ownPortAnnounceInterval : TimeInterval) (ownPortIdentity : PortIdentity) :
    ForeignMasterList where
  foreignMasters := ArrayVec.new
  ownPortAnnounceInterval
  ownPortIdentity

/-- From the last record to the first; a record without messages is removed. -/
def stepAgeAll (p : Profile) (step : Duration) (interval : TimeInterval) :
    List ForeignMaster → Except Panic (List ForeignMaster)
  | [] => .ok []
  | fm :: fms => do
    let fms ← stepAgeAll p step interval fms
    let fm ← fm.stepAge p step interval
    if fm.announceMessages.toList.isEmpty then return fms else return fm :: fms

theorem length_stepAgeAll (p : Profile) (step : Duration) (interval : TimeInterval) :
    ∀ (fms fms' : List ForeignMaster), stepAgeAll p step interval fms = .ok fms' →
      fms'.length ≤ fms.length := by
  intro fms
  induction fms with
  | nil =>
    intro fms' h
    exact Nat.le_of_eq (congrArg List.length (Except.ok.inj h).symm)
  | cons fm fms ih =>
    intro fms' h
    obtain ⟨rest, hrest, h⟩ := bind_eq_ok.mp h
    obtain ⟨fm', -, h⟩ := bind_eq_ok.mp h
    have := ih rest hrest
    split at h
    · rw [← Except.ok.inj h, List.length_cons]
      omega
    · rw [← Except.ok.inj h, List.length_cons, List.length_cons]
      omega

def stepAge (p : Profile) (l : ForeignMasterList) (step : Duration) :
    Except Panic ForeignMasterList := do
  let fms ← l.foreignMasters.updateM (stepAgeAll p step l.ownPortAnnounceInterval)
    (length_stepAgeAll p step l.ownPortAnnounceInterval)
  return { l with foreignMasters := fms }

/-- Whether a record has enough messages to be considered. -/
def isQualified (fm : ForeignMaster) : Bool :=
  decide (foreignMasterThreshold ≤ fm.announceMessages.toList.length)

/-- The newest message of every qualified record, from the last record to the first, and the
list without these messages. -/
def takeQualifiedAnnounceMessages (l : ForeignMasterList) :
    List ForeignAnnounceMessage × ForeignMasterList :=
  (l.foreignMasters.toList.reverse.filterMap fun fm =>
      if isQualified fm then fm.announceMessages.toList.getLast? else none,
    { l with foreignMasters := l.foreignMasters.map fun fm =>
        if isQualified fm then { fm with announceMessages := fm.announceMessages.dropLast } else fm })

def getForeignMaster (l : ForeignMasterList) (portIdentity : PortIdentity) :
    Option ForeignMaster :=
  l.foreignMasters.toList.find? fun fm => fm.foreignMasterPortIdentity = portIdentity

def isAnnounceMessageQualified (l : ForeignMasterList) (announceMessage : AnnounceMessage) :
    Bool :=
  let sourceIdentity := announceMessage.header.sourcePortIdentity
  -- 1. not from our own ptp instance
  if sourceIdentity.clockIdentity = l.ownPortIdentity.clockIdentity then false
  -- 2. newer than the ones we already have, with rollover of the sequence id
  else if ((l.getForeignMaster sourceIdentity).bind fun fm =>
      fm.announceMessages.toList.getLast?).any fun last =>
        decide (0xffff / 2 ≤ announceMessage.header.sequenceId - last.header.sequenceId) then false
  -- 3. not too many steps removed
  else if 255 ≤ announceMessage.stepsRemoved then false
  else true

def registerAnnounceMessage (p : Profile) (l : ForeignMasterList) (header : Header)
    (announceMessage : AnnounceMessage) (age : Duration) : Except Panic ForeignMasterList :=
  if l.isAnnounceMessageQualified announceMessage = false then .ok l
  else
    let known (fm : ForeignMaster) : Bool :=
      decide (fm.foreignMasterPortIdentity = announceMessage.header.sourcePortIdentity)
    if l.foreignMasters.toList.any known then do
      let fms ← l.foreignMasters.updateM
        (modifyFirst known fun fm =>
          fm.registerAnnounceMessage p header announceMessage l.ownPortAnnounceInterval age)
        (length_modifyFirst _ _)
      return { l with foreignMasters := fms }
    else
      match l.foreignMasters.tryPush (ForeignMaster.new header announceMessage) with
      | some fms => .ok { l with foreignMasters := fms }
      | none => .ok l

end ForeignMasterList

/-! ### Ages -/

/-- The messages that stay: those younger than four intervals. -/
def ForeignAnnounceMessage.isYoung (interval : TimeInterval) (m : ForeignAnnounceMessage) : Bool :=
  decide (m.age.toInt < (Duration.ofTimeInterval interval).toInt * foreignMasterTimeWindow)

namespace ForeignMaster

/-- **Dropping old messages never panics.** -/
theorem purgeOldMessages_eq (p : Profile) (fm : ForeignMaster) (interval : TimeInterval) :
    fm.purgeOldMessages p interval =
      .ok { fm with announceMessages := fm.announceMessages.retain (·.isYoung interval) } := by
  have hrange := interval.toInt_range
  obtain ⟨cutoff, hcutoff, hint⟩ := Duration.mul_spec p
    (d := Duration.ofTimeInterval interval) (n := foreignMasterTimeWindow)
    (by decide) (by rw [Duration.toInt_ofTimeInterval, foreignMasterTimeWindow]; omega)
    (by rw [Duration.toInt_ofTimeInterval, foreignMasterTimeWindow]; omega)
  rw [purgeOldMessages, hcutoff, ok_bind, pure_eq_ok]
  simp only [Duration.lt, hint, ForeignAnnounceMessage.isYoung]

theorem registerAnnounceMessage_eq (p : Profile) (fm : ForeignMaster) (header : Header)
    (message : AnnounceMessage) (interval : TimeInterval) (age : Duration) :
    fm.registerAnnounceMessage p header message interval age =
      .ok { fm with announceMessages :=
        (fm.announceMessages.retain (·.isYoung interval)).pushEvict { header, message, age } } := by
  rw [registerAnnounceMessage, purgeOldMessages_eq, ok_bind, pure_eq_ok]

theorem stepAge_eq_ok {p : Profile} {fm fm' : ForeignMaster} {step : Duration}
    {interval : TimeInterval} (h : fm.stepAge p step interval = .ok fm') :
    ∃ ms, ageAll p step fm.announceMessages.toList = .ok ms ∧
      fm'.foreignMasterPortIdentity = fm.foreignMasterPortIdentity ∧
      fm'.announceMessages.toList = ms.filter (·.isYoung interval) := by
  obtain ⟨v, hv, h⟩ := bind_eq_ok.mp h
  rw [purgeOldMessages_eq] at h
  rw [ArrayVec.updateM_eq_ok] at hv
  obtain rfl := Except.ok.inj h
  exact ⟨v.toList, hv, rfl, rfl⟩

theorem ageAll_onlyOverflows (p : Profile) (step : Duration) (ms : List ForeignAnnounceMessage) :
    OnlyOverflows p (ageAll p step ms) := by
  induction ms with
  | nil => exact onlyOverflows_ok p _
  | cons m ms ih =>
    exact (Duration.add_onlyOverflows p _ _).bind fun _ _ => ih.bind fun _ _ => onlyOverflows_ok p _

theorem stepAge_onlyOverflows (p : Profile) (fm : ForeignMaster) (step : Duration)
    (interval : TimeInterval) : OnlyOverflows p (fm.stepAge p step interval) := by
  refine (ArrayVec.updateM_onlyOverflows _ (ageAll_onlyOverflows p step _)).bind fun ms _ => ?_
  rw [purgeOldMessages_eq]
  exact onlyOverflows_ok p _

end ForeignMaster

theorem ForeignMasterList.stepAge_eq_ok {p : Profile} {l l' : ForeignMasterList} {step : Duration}
    (h : l.stepAge p step = .ok l') :
    ∃ fms, stepAgeAll p step l.ownPortAnnounceInterval l.foreignMasters.toList = .ok fms.toList ∧
      l' = { l with foreignMasters := fms } := by
  obtain ⟨fms, hfms, h⟩ := bind_eq_ok.mp h
  rw [ArrayVec.updateM_eq_ok] at hfms
  exact ⟨fms, hfms, (Except.ok.inj h).symm⟩

/-- **Nothing but an age can overflow.** -/
theorem ForeignMasterList.stepAgeAll_onlyOverflows (p : Profile) (step : Duration)
    (interval : TimeInterval) (fms : List ForeignMaster) :
    OnlyOverflows p (stepAgeAll p step interval fms) := by
  induction fms with
  | nil => exact onlyOverflows_ok p _
  | cons fm fms ih =>
    refine ih.bind fun fms' _ => (fm.stepAge_onlyOverflows p step interval).bind fun fm' _ => ?_
    split <;> exact onlyOverflows_ok p _

/-- **Registering a message never panics.** -/
theorem ForeignMasterList.registerAnnounceMessage_total (p : Profile) (l : ForeignMasterList)
    (header : Header) (announceMessage : AnnounceMessage) (age : Duration) :
    ∃ l', l.registerAnnounceMessage p header announceMessage age = .ok l' := by
  rw [registerAnnounceMessage]
  split
  · exact ⟨l, rfl⟩
  · dsimp only
    split
    · have hg : ∀ fm : ForeignMaster, ∃ fm', fm.registerAnnounceMessage p header announceMessage
          l.ownPortAnnounceInterval age = .ok fm' :=
        fun fm => ⟨_, fm.registerAnnounceMessage_eq p header announceMessage _ age⟩
      obtain ⟨fms, hfms⟩ := modifyFirst_total hg l.foreignMasters.toList
      obtain ⟨w, hw⟩ := ArrayVec.updateM_total (length_modifyFirst _ _) hfms
      exact ⟨{ l with foreignMasters := w }, by rw [hw, ok_bind, pure_eq_ok]⟩
    · split
      · exact ⟨_, rfl⟩
      · exact ⟨l, rfl⟩

/-! ### What is compared -/

/-- **A message is compared when it is the newest of a record with at least two.** -/
theorem ForeignMasterList.mem_takeQualifiedAnnounceMessages {l : ForeignMasterList}
    {m : ForeignAnnounceMessage} :
    m ∈ l.takeQualifiedAnnounceMessages.1 ↔ ∃ fm ∈ l.foreignMasters.toList,
      foreignMasterThreshold ≤ fm.announceMessages.toList.length ∧
        fm.announceMessages.toList.getLast? = some m := by
  simp only [takeQualifiedAnnounceMessages, List.mem_filterMap, List.mem_reverse, isQualified,
    decide_eq_true_eq, Option.ite_none_right_eq_some]

end Statime
