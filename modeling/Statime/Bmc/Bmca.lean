import Statime.Config
import Statime.Port.State
import Statime.Bmc.DatasetComparison
import Statime.Bmc.ForeignMaster

/-!
# The best master clock algorithm

`statime/src/bmc/bmca.rs`: registering announce messages, choosing the best one of a
port and of all ports, and the state decision algorithm.  `Ebest` is the best message of
all ports, `Erbest` the best one of the port that is decided about.
-/

namespace Statime

open Rust

structure BestAnnounceMessage where
  header : Header
  message : AnnounceMessage
  age : Duration
  identity : PortIdentity
  deriving DecidableEq

namespace BestAnnounceMessage

def compareDataset (p : Profile) (a b : BestAnnounceMessage) : Except Panic DatasetOrdering :=
  ComparisonDataset.compare p (ComparisonDataset.fromAnnounceMessage a.message a.identity)
    (ComparisonDataset.fromAnnounceMessage b.message b.identity)

/-- The age breaks ties: newer messages are preferred. -/
def compare (p : Profile) (a b : BestAnnounceMessage) : Except Panic Ordering := do
  let tieBreak := b.age.cmp a.age
  let ordering ← compareDataset p a b
  return ordering.asOrdering.then tieBreak

end BestAnnounceMessage

inductive RecommendedState
  | m1 (defaultDs : InternalDefaultDS)
  | m2 (defaultDs : InternalDefaultDS)
  | m3 (message : AnnounceMessage)
  | p1 (message : AnnounceMessage)
  | p2 (message : AnnounceMessage)
  | s1 (message : AnnounceMessage)

inductive MessageComparison
  | better
  | same
  | worse (message : BestAnnounceMessage)

structure Bmca (A : Type) where
  foreignMasterList : ForeignMasterList
  acceptableMasterList : A
  ownPortIdentity : PortIdentity
  deriving DecidableEq

namespace Bmca

variable {A : Type}

def new (acceptableMasterList : A) (ownPortAnnounceInterval : TimeInterval)
    (ownPortIdentity : PortIdentity) : Bmca A where
  foreignMasterList := ForeignMasterList.new ownPortAnnounceInterval ownPortIdentity
  acceptableMasterList
  ownPortIdentity

def stepAge (p : Profile) (b : Bmca A) (step : Duration) : Except Panic (Bmca A) := do
  let l ← b.foreignMasterList.stepAge p step
  return { b with foreignMasterList := l }

def findBestAnnounceMessage (p : Profile) (announceMessages : List BestAnnounceMessage) :
    Except Panic (Option BestAnnounceMessage) :=
  maxBy (BestAnnounceMessage.compare p) announceMessages

def compareD0Best (p : Profile) (d0 : ComparisonDataset) (optBest : Option BestAnnounceMessage) :
    Except Panic MessageComparison :=
  match optBest with
  | none => .ok .better
  | some best => do
    let ordering ← d0.compare p (ComparisonDataset.fromAnnounceMessage best.message best.identity)
    match ordering.asOrdering with
    | .lt => return .worse best
    | .eq => return .same
    | .gt => return .better

def calculateRecommendedStateLowClass (p : Profile) (ownData : InternalDefaultDS)
    (bestPortAnnounceMessage : Option BestAnnounceMessage) : Except Panic RecommendedState := do
  let d0 := ComparisonDataset.fromOwnData ownData
  match ← compareD0Best p d0 bestPortAnnounceMessage with
  | .better => return .m1 ownData
  | .same => return .m1 ownData
  | .worse port => return .p1 port.message

def compareGlobalAndPort (p : Profile) (globalMessage portMessage : BestAnnounceMessage) :
    Except Panic RecommendedState :=
  if globalMessage = portMessage then .ok (.s1 globalMessage.message)
  else do
    let ebest := ComparisonDataset.fromAnnounceMessage globalMessage.message globalMessage.identity
    let erbest := ComparisonDataset.fromAnnounceMessage portMessage.message portMessage.identity
    match ← ebest.compare p erbest with
    | .betterByTopology => return .p2 portMessage.message
    | _ => return .m3 globalMessage.message

def calculateRecommendedStateHighClass (p : Profile) (ownData : InternalDefaultDS)
    (bestGlobalAnnounceMessage bestPortAnnounceMessage : Option BestAnnounceMessage) :
    Except Panic RecommendedState := do
  let d0 := ComparisonDataset.fromOwnData ownData
  match ← compareD0Best p d0 bestGlobalAnnounceMessage with
  | .better => return .m2 ownData
  | .same => return .m2 ownData
  | .worse globalMessage =>
    match bestPortAnnounceMessage with
    | none => return .m3 globalMessage.message
    | some portMessage => compareGlobalAndPort p globalMessage portMessage

/-- `None` stands for a port that should remain in the same state. -/
def calculateRecommendedState (p : Profile) (ownData : InternalDefaultDS)
    (bestGlobalAnnounceMessage bestPortAnnounceMessage : Option BestAnnounceMessage)
    (portState : PortState) : Except Panic (Option RecommendedState) :=
  if bestPortAnnounceMessage = none ∧ portState = .listening then .ok none
  else if 1 ≤ ownData.clockQuality.clockClass ∧ ownData.clockQuality.clockClass ≤ 127 then do
    let state ← calculateRecommendedStateLowClass p ownData bestPortAnnounceMessage
    return some state
  else do
    let state ← calculateRecommendedStateHighClass p ownData bestGlobalAnnounceMessage
      bestPortAnnounceMessage
    return some state

/-! ### The state decision, case by case -/

/-- A clock class between 1 and 127. -/
def LowClass (ownData : InternalDefaultDS) : Prop :=
  1 ≤ ownData.clockQuality.clockClass ∧ ownData.clockQuality.clockClass ≤ 127

instance (ownData : InternalDefaultDS) : Decidable (LowClass ownData) :=
  inferInstanceAs (Decidable (_ ∧ _))

/-- The own dataset is worse than this message. -/
def SupersededBy (p : Profile) (ownData : InternalDefaultDS) (optBest : Option BestAnnounceMessage)
    (best : BestAnnounceMessage) : Prop :=
  compareD0Best p (ComparisonDataset.fromOwnData ownData) optBest = .ok (.worse best)

/-- The decisions of figure 26. -/
inductive Recommends (p : Profile) (ownData : InternalDefaultDS)
    (ebest erbest : Option BestAnnounceMessage) (portState : PortState) :
    Option RecommendedState → Prop
  | stay : erbest = none → portState = .listening →
      Recommends p ownData ebest erbest portState none
  | m1 : LowClass ownData → (∀ best, ¬ SupersededBy p ownData erbest best) →
      Recommends p ownData ebest erbest portState (some (.m1 ownData))
  | p1 {best : BestAnnounceMessage} : LowClass ownData → SupersededBy p ownData erbest best →
      Recommends p ownData ebest erbest portState (some (.p1 best.message))
  | m2 : ¬ LowClass ownData → (∀ best, ¬ SupersededBy p ownData ebest best) →
      Recommends p ownData ebest erbest portState (some (.m2 ownData))
  | m3 {best : BestAnnounceMessage} : ¬ LowClass ownData → SupersededBy p ownData ebest best →
      Recommends p ownData ebest erbest portState (some (.m3 best.message))
  | p2 {best portBest : BestAnnounceMessage} : ¬ LowClass ownData →
      SupersededBy p ownData ebest best →
      Recommends p ownData ebest erbest portState (some (.p2 portBest.message))
  | s1 {best : BestAnnounceMessage} : ¬ LowClass ownData → SupersededBy p ownData ebest best →
      erbest = some best → Recommends p ownData ebest erbest portState (some (.s1 best.message))

section Decision

variable {p : Profile} {ownData : InternalDefaultDS} {ebest erbest : Option BestAnnounceMessage}
  {portState : PortState}

theorem SupersededBy.eq_some {best : BestAnnounceMessage} (h : SupersededBy p ownData ebest best) :
    ebest = some best := by
  cases ebest with
  | none => cases h
  | some message =>
    obtain ⟨ordering, -, h⟩ := bind_eq_ok.mp h
    split at h
    · rw [MessageComparison.worse.inj (Except.ok.inj h)]
    · cases h
    · cases h

theorem not_supersededBy {comparison : MessageComparison}
    (h : compareD0Best p (ComparisonDataset.fromOwnData ownData) ebest = .ok comparison)
    (hc : ∀ best, comparison ≠ .worse best) : ∀ best, ¬ SupersededBy p ownData ebest best := by
  intro best hbest
  exact hc best (Except.ok.inj (h.symm.trans hbest))

theorem calculateRecommendedStateLowClass_recommends {state : RecommendedState}
    (hclass : LowClass ownData)
    (h : calculateRecommendedStateLowClass p ownData erbest = .ok state) :
    Recommends p ownData ebest erbest portState (some state) := by
  obtain ⟨comparison, hcomparison, h⟩ := bind_eq_ok.mp h
  cases comparison with
  | better | same =>
    obtain rfl := Except.ok.inj h
    exact .m1 hclass (not_supersededBy hcomparison (fun best => by simp))
  | worse best =>
    obtain rfl := Except.ok.inj h
    exact .p1 hclass hcomparison

theorem calculateRecommendedStateHighClass_recommends {state : RecommendedState}
    (hclass : ¬ LowClass ownData)
    (h : calculateRecommendedStateHighClass p ownData ebest erbest = .ok state) :
    Recommends p ownData ebest erbest portState (some state) := by
  obtain ⟨comparison, hcomparison, h⟩ := bind_eq_ok.mp h
  cases comparison with
  | better | same =>
    obtain rfl := Except.ok.inj h
    exact .m2 hclass (not_supersededBy hcomparison (fun best => by simp))
  | worse best =>
    cases erbest with
    | none =>
      obtain rfl := Except.ok.inj h
      exact .m3 hclass hcomparison
    | some portBest =>
      dsimp only at h
      unfold compareGlobalAndPort at h
      split at h
      · rename_i heq
        obtain rfl := Except.ok.inj h
        exact .s1 hclass hcomparison (congrArg some heq.symm)
      · obtain ⟨ordering, -, h⟩ := bind_eq_ok.mp h
        split at h
        · obtain rfl := Except.ok.inj h
          exact .p2 hclass hcomparison
        · obtain rfl := Except.ok.inj h
          exact .m3 hclass hcomparison

/-- **What the algorithm recommends.** -/
theorem calculateRecommendedState_recommends {recommended : Option RecommendedState}
    (h : calculateRecommendedState p ownData ebest erbest portState = .ok recommended) :
    Recommends p ownData ebest erbest portState recommended := by
  unfold calculateRecommendedState at h
  split at h
  · rename_i hstay
    obtain rfl := Except.ok.inj h
    exact .stay hstay.1 hstay.2
  · split at h
    · rename_i hclass
      obtain ⟨state, hstate, h⟩ := bind_eq_ok.mp h
      obtain rfl := Except.ok.inj h
      exact calculateRecommendedStateLowClass_recommends hclass hstate
    · rename_i hclass
      obtain ⟨state, hstate, h⟩ := bind_eq_ok.mp h
      obtain rfl := Except.ok.inj h
      exact calculateRecommendedStateHighClass_recommends hclass hstate

end Decision

variable [AcceptableMasterList A]

/-- Not from the port itself, and acceptable. -/
def accepts (b : Bmca A) (announceMessage : AnnounceMessage) : Bool :=
  decide (announceMessage.header.sourcePortIdentity ≠ b.ownPortIdentity) &&
    AcceptableMasterList.isAcceptable b.acceptableMasterList
      announceMessage.header.sourcePortIdentity.clockIdentity

/-- Both registrations store the message under the same condition. -/
def reregisterAnnounceMessage (p : Profile) (b : Bmca A) (header : Header)
    (announceMessage : AnnounceMessage) (age : Duration) : Except Panic (Bmca A) :=
  if b.accepts announceMessage then do
    let l ← b.foreignMasterList.registerAnnounceMessage p header announceMessage age
    return { b with foreignMasterList := l }
  else .ok b

def registerAnnounceMessage (p : Profile) (b : Bmca A) (header : Header)
    (announceMessage : AnnounceMessage) : Except Panic (Bmca A × Bool) :=
  if b.accepts announceMessage then do
    let l ← b.foreignMasterList.registerAnnounceMessage p header announceMessage Duration.zero
    return ({ b with foreignMasterList := l }, true)
  else .ok (b, false)

theorem registerAnnounceMessage_total (p : Profile) (b : Bmca A) (header : Header)
    (announceMessage : AnnounceMessage) :
    ∃ b', b.registerAnnounceMessage p header announceMessage = .ok (b', b.accepts announceMessage) := by
  rw [registerAnnounceMessage]
  split
  · rename_i haccepts
    obtain ⟨l, hl⟩ := b.foreignMasterList.registerAnnounceMessage_total p header announceMessage
      Duration.zero
    exact ⟨{ b with foreignMasterList := l }, by rw [hl, ok_bind, pure_eq_ok, haccepts]⟩
  · rename_i haccepts
    exact ⟨b, by rw [Bool.not_eq_true] at haccepts; rw [haccepts]⟩

/-- A registration changes the foreign masters only. -/
theorem registerAnnounceMessage_owned {p : Profile} {b b' : Bmca A} {header : Header}
    {announceMessage : AnnounceMessage} {stored : Bool}
    (h : b.registerAnnounceMessage p header announceMessage = .ok (b', stored)) :
    b'.acceptableMasterList = b.acceptableMasterList ∧ b'.ownPortIdentity = b.ownPortIdentity ∧
      stored = b.accepts announceMessage := by
  rw [registerAnnounceMessage] at h
  split at h
  · rename_i haccepts
    obtain ⟨l, -, h⟩ := bind_eq_ok.mp h
    obtain ⟨rfl, rfl⟩ := Prod.mk.inj (Except.ok.inj h)
    exact ⟨rfl, rfl, haccepts.symm⟩
  · rename_i haccepts
    obtain ⟨rfl, rfl⟩ := Prod.mk.inj (Except.ok.inj h)
    exact ⟨rfl, rfl, by simpa using haccepts⟩

/-- The message as it is compared with those of other ports. -/
def toBest (b : Bmca A) (m : ForeignAnnounceMessage) : BestAnnounceMessage where
  header := m.header
  message := m.message
  age := m.age
  identity := b.ownPortIdentity

/-- All messages that were considered are removed from the list; the one selected as the
`Erbest` is registered again. -/
def takeBestPortAnnounceMessage (p : Profile) (b : Bmca A) :
    Except Panic (Option BestAnnounceMessage × Bmca A) := do
  let (announceMessages, l) := b.foreignMasterList.takeQualifiedAnnounceMessages
  let b := { b with foreignMasterList := l }
  let erbest ← findBestAnnounceMessage p (announceMessages.map b.toBest)
  match erbest with
  | some best =>
    let b ← b.reregisterAnnounceMessage p best.header best.message best.age
    return (erbest, b)
  | none => return (erbest, b)

/-- Registering again changes the foreign masters only. -/
theorem reregisterAnnounceMessage_owned {p : Profile} {b b' : Bmca A} {header : Header}
    {announceMessage : AnnounceMessage} {age : Duration}
    (h : b.reregisterAnnounceMessage p header announceMessage age = .ok b') :
    b'.acceptableMasterList = b.acceptableMasterList ∧ b'.ownPortIdentity = b.ownPortIdentity := by
  rw [reregisterAnnounceMessage] at h
  split at h
  · obtain ⟨l, -, h⟩ := bind_eq_ok.mp h
    rw [← Except.ok.inj h]
    exact ⟨rfl, rfl⟩
  · rw [Except.ok.inj h]
    exact ⟨rfl, rfl⟩

/-- **The best message of a port carries the identity of the port.** -/
theorem takeBestPortAnnounceMessage_owned {p : Profile} {b b' : Bmca A}
    {best : Option BestAnnounceMessage} (h : b.takeBestPortAnnounceMessage p = .ok (best, b')) :
    b'.acceptableMasterList = b.acceptableMasterList ∧ b'.ownPortIdentity = b.ownPortIdentity ∧
      ∀ m, best = some m → m.identity = b.ownPortIdentity := by
  rw [takeBestPortAnnounceMessage] at h
  obtain ⟨erbest, hbest, h⟩ := bind_eq_ok.mp h
  cases erbest with
  | none =>
    obtain ⟨rfl, rfl⟩ := Prod.mk.inj (Except.ok.inj h)
    exact ⟨rfl, rfl, fun m hm => by cases hm⟩
  | some m =>
    obtain ⟨b₁, hb₁, h⟩ := bind_eq_ok.mp h
    obtain ⟨rfl, rfl⟩ := Prod.mk.inj (Except.ok.inj h)
    obtain ⟨hlist, hown⟩ := reregisterAnnounceMessage_owned hb₁
    refine ⟨hlist, hown, fun m' hm' => ?_⟩
    obtain rfl := Option.some.inj hm'
    obtain ⟨fm, -, rfl⟩ := List.mem_map.mp (maxBy_mem hbest)
    rfl

end Bmca

end Statime
