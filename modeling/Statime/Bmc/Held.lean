import Statime.Bmc.Rounds

/-!
# The messages that a port holds

Where the messages of a foreign master list come from: an operation never makes one up.

* `Bmca.holds_register`: a new message was accepted, is qualified and is the one registered.
* `Bmca.holds_takeBest`, `Bmca.holds_stepAge`: nothing new comes in, and the best message is one of
  those held.
-/

namespace Statime

open Rust

namespace ForeignMasterList

variable {p : Profile} {l l' : ForeignMasterList} {header header' : Header}
  {a a' : AnnounceMessage}

/-- The list has a record with this message, of whatever age. -/
def Holds (l : ForeignMasterList) (header : Header) (a : AnnounceMessage) : Prop :=
  ∃ fm ∈ l.foreignMasters.toList, ∃ m ∈ fm.announceMessages.toList,
    m.header = header ∧ m.message = a

theorem not_holds_new {interval : TimeInterval} {own : PortIdentity} :
    ¬ (ForeignMasterList.new interval own).Holds header a := by
  rintro ⟨fm, hfm, -⟩
  cases hfm

/-- **A registration** adds at most its own message, and only when it is qualified. -/
theorem holds_register {age : Duration} (h : l.registerAnnounceMessage p header a age = .ok l')
    (hl : l'.Holds header' a') :
    l.Holds header' a' ∨
      (header' = header ∧ a' = a ∧ l.isAnnounceMessageQualified a = true) := by
  obtain ⟨fm, hfm, m, hm, rfl, rfl⟩ := hl
  rcases registerAnnounceMessage_cases h with ⟨-, rfl⟩ | ⟨hq, -, fms, rfl, hfms⟩ |
    ⟨hq, -, fms, rfl, hfms⟩ | ⟨-, -, rfl⟩
  · exact Or.inl ⟨fm, hfm, m, hm, rfl, rfl⟩
  · rcases mem_modifyFirst _ _ hfms hfm with hold | ⟨old, hold, -, hnew⟩
    · exact Or.inl ⟨fm, hold, m, hm, rfl, rfl⟩
    · obtain rfl := Except.ok.inj hnew
      rcases mem_pushEvict hm with hkept | rfl
      · exact Or.inl ⟨old, hold, m, (List.mem_filter.mp hkept).1, rfl, rfl⟩
      · exact Or.inr ⟨rfl, rfl, hq⟩
  · rw [hfms] at hfm
    rcases List.mem_append.mp hfm with hold | hnew
    · exact Or.inl ⟨fm, hold, m, hm, rfl, rfl⟩
    · obtain rfl := List.mem_singleton.mp hnew
      rcases mem_pushEvict hm with hkept | rfl
      · cases hkept
      · exact Or.inr ⟨rfl, rfl, hq⟩
  · exact Or.inl ⟨fm, hfm, m, hm, rfl, rfl⟩

theorem holds_take (hl : l.takeQualifiedAnnounceMessages.2.Holds header a) : l.Holds header a := by
  obtain ⟨fm, hfm, m, hm, hheader, ha⟩ := hl
  obtain ⟨old, hold, rfl⟩ := List.mem_map.mp hfm
  refine ⟨old, hold, m, ?_, hheader, ha⟩
  split at hm
  · exact List.dropLast_subset _ hm
  · exact hm

/-- What is compared is held. -/
theorem holds_of_candidate {m : ForeignAnnounceMessage}
    (h : m ∈ l.takeQualifiedAnnounceMessages.1) : l.Holds m.header m.message := by
  obtain ⟨fm, hfm, -, hlast⟩ := mem_takeQualifiedAnnounceMessages.mp h
  exact ⟨fm, hfm, m, List.mem_of_getLast? hlast, rfl, rfl⟩

theorem holds_stepAge {step : Duration} (h : l.stepAge p step = .ok l')
    (hl : l'.Holds header a) : l.Holds header a := by
  obtain ⟨fms, hfms, rfl⟩ := stepAge_eq_ok h
  obtain ⟨fm', hfm', m', hm', rfl, rfl⟩ := hl
  obtain ⟨fm, hfm, hstep⟩ := mem_stepAgeAll _ _ hfms fm' hfm'
  obtain ⟨ms, hms, -, hlist⟩ := ForeignMaster.stepAge_eq_ok hstep
  rw [hlist] at hm'
  obtain ⟨m, hm, hmessage, hheader⟩ := mem_ageAll _ _ hms m' (List.mem_filter.mp hm').1
  exact ⟨fm, hfm, m, hm, hheader.symm, hmessage.symm⟩

end ForeignMasterList

namespace Bmca

variable {A : Type} {p : Profile} {b b' : Bmca A} {header header' : Header}
  {a a' : AnnounceMessage}

def Holds (b : Bmca A) (header : Header) (a : AnnounceMessage) : Prop :=
  b.foreignMasterList.Holds header a

/-- The part of the qualification that depends on the message and the port only. -/
structure Qualified (b : Bmca A) (a : AnnounceMessage) : Prop where
  foreign : a.header.sourcePortIdentity.clockIdentity ≠
    b.foreignMasterList.ownPortIdentity.clockIdentity
  stepsRemoved : a.stepsRemoved < 255

theorem holds_stepAge {step : Duration} (h : b.stepAge p step = .ok b') (hb : b'.Holds header a) :
    b.Holds header a := by
  obtain ⟨l, hl, h⟩ := bind_eq_ok.mp h
  obtain rfl := Except.ok.inj h
  exact ForeignMasterList.holds_stepAge hl hb

variable [AcceptableMasterList A]

theorem holds_reregister {age : Duration}
    (h : b.reregisterAnnounceMessage p header a age = .ok b') (hb : b'.Holds header' a') :
    b.Holds header' a' ∨
      (header' = header ∧ a' = a ∧ b.accepts a = true ∧ b.Qualified a) := by
  rcases reregister_cases h with ⟨-, rfl⟩ | ⟨haccepts, l, rfl, hl⟩
  · exact Or.inl hb
  · rcases ForeignMasterList.holds_register hl hb with hold | ⟨hheader, ha, hq⟩
    · exact Or.inl hold
    · obtain ⟨hforeign, -, hsteps⟩ := ForeignMasterList.isAnnounceMessageQualified_iff.mp hq
      exact Or.inr ⟨hheader, ha, haccepts, hforeign, hsteps⟩

/-- **A registered message** is accepted and qualified when it is held afterwards. -/
theorem holds_register {stored : Bool}
    (h : b.registerAnnounceMessage p header a = .ok (b', stored)) (hb : b'.Holds header' a') :
    b.Holds header' a' ∨
      (header' = header ∧ a' = a ∧ b.accepts a = true ∧ b.Qualified a) :=
  holds_reregister (register_reregister h) hb

/-- **The best message** is one of those held, and nothing new comes in. -/
theorem holds_takeBest {best : Option BestAnnounceMessage}
    (h : b.takeBestPortAnnounceMessage p = .ok (best, b')) :
    (∀ header a, b'.Holds header a → b.Holds header a) ∧
      ∀ m, best = some m → b.Holds m.header m.message := by
  obtain ⟨hbest, hrest⟩ := takeBest_cases h
  have hheld : ∀ m, best = some m → b.Holds m.header m.message := by
    intro m hm
    rw [hm] at hbest
    obtain ⟨fm, hfm, rfl⟩ := List.mem_map.mp (maxBy_mem hbest)
    exact ForeignMasterList.holds_of_candidate hfm
  refine ⟨fun header a hb => ?_, hheld⟩
  rcases hrest with ⟨-, rfl⟩ | ⟨m, hm, hreregister⟩
  · exact ForeignMasterList.holds_take hb
  · rcases holds_reregister hreregister hb with hold | ⟨rfl, rfl, -⟩
    · exact ForeignMasterList.holds_take hold
    · exact hheld m hm

end Bmca

end Statime
