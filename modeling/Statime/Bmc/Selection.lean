import Statime.Bmc.Ranking
import Statime.Bmc.Rounds

/-!
# The selected message

`find_best_announce_message` takes the maximum of a comparison that is put together from two figures.
On messages of other clocks, which agree on their grandmasters, the comparison is that of the keys:
the fields of figure 34, then those of figure 35, then the age.

* `BestAnnounceMessage.compare_eq_key`: the comparison is that of the keys, the other way round.
* `Bmca.best_is_least`: the selected message has the least key.
-/

namespace Statime

open Rust

namespace BestAnnounceMessage

/-- What the messages are compared by, the most significant part first. -/
def key (m : BestAnnounceMessage) : List Int :=
  [m.message.grandmasterPriority1.toNat,
    m.message.grandmasterClockQuality.clockClass.toNat,
    m.message.grandmasterClockQuality.clockAccuracy.code.toNat,
    m.message.grandmasterClockQuality.offsetScaledLogVariance.toNat,
    m.message.grandmasterPriority2.toNat,
    ofBE m.message.grandmasterIdentity.toWire,
    m.message.stepsRemoved.toNat,
    ofBE m.message.header.sourcePortIdentity.clockIdentity.toWire,
    m.identity.portNumber.toNat,
    m.age.toInt]

/-- The first key is not greater, in the lexicographic order. -/
def KeyLE (a b : BestAnnounceMessage) : Prop := (Ord.compare a.key b.key).isLE = true

instance (a b : BestAnnounceMessage) : Decidable (a.KeyLE b) := inferInstanceAs (Decidable (_ = true))

/-- The first message is not worse. -/
def NotWorse (p : Profile) (a b : BestAnnounceMessage) : Prop :=
  ∃ o, a.compare p b = .ok o ∧ o ≠ .lt

/-- Messages of other clocks that can be compared, and that agree on their grandmasters. -/
structure Consistent (p : Profile) (messages : List BestAnnounceMessage) : Prop where
  comparable : ∀ m ∈ messages, m.dataset.Comparable p
  foreign : ∀ m ∈ messages,
    m.message.header.sourcePortIdentity.clockIdentity ≠ m.identity.clockIdentity
  agree : ∀ a ∈ messages, ∀ b ∈ messages,
    a.message.grandmasterIdentity = b.message.grandmasterIdentity →
      a.message.grandmasterPriority1 = b.message.grandmasterPriority1 ∧
      a.message.grandmasterPriority2 = b.message.grandmasterPriority2 ∧
      a.message.grandmasterClockQuality = b.message.grandmasterClockQuality

/-- The standing of the dataset comes first, and then the age. -/
theorem compare_key (a b : BestAnnounceMessage) :
    Ord.compare a.key b.key =
      (Ord.compare a.dataset.standing b.dataset.standing).then (a.age.cmp b.age) := by
  rw [ComparisonDataset.compare_standing, ComparisonDataset.compare_rank]
  simp only [key, List.compare_cons_cons, compare_natCast, compare_toNat_uint8,
    compare_toNat_uint16, ← ClockIdentity.cmp_eq, Ordering.then_assoc,
    List.compare_nil_nil, Ordering.then_eq]
  rfl

variable {p : Profile} {messages : List BestAnnounceMessage} {a b : BestAnnounceMessage}

/-- **The comparison is that of the keys**, the other way round. -/
theorem compare_eq_key (h : Consistent p messages) (ha : a ∈ messages) (hb : b ∈ messages) :
    a.compare p b = .ok (Ord.compare b.key a.key) := by
  have hrank : a.dataset.gmIdentity = b.dataset.gmIdentity → a.dataset.rank = b.dataset.rank := by
    intro hgm
    obtain ⟨h1, h2, hq⟩ := h.agree a ha b hb hgm
    have hbytes : a.dataset.rankBytes = b.dataset.rankBytes := by
      simp only [dataset, ComparisonDataset.fromAnnounceMessage] at hgm ⊢
      simp only [ComparisonDataset.rankBytes, h1, h2, hq, hgm]
    rw [ComparisonDataset.rank, ComparisonDataset.rank, hbytes]
  obtain ⟨o, ho, hordering⟩ := ComparisonDataset.compare_eq_standing (h.comparable a ha)
    (h.comparable b hb) (fun heq => h.foreign a ha heq.symm) (fun heq => h.foreign b hb heq.symm) hrank
  have hdataset : a.compareDataset p b = .ok o := ho
  have hswap : (Ord.compare a.dataset.standing b.dataset.standing).swap =
      Ord.compare b.dataset.standing a.dataset.standing := (Nat.compare_swap _ _)
  rw [compare, hdataset, ok_bind, hordering, hswap, compare_key, pure_eq_ok]

theorem compare_key_swap (a b : BestAnnounceMessage) :
    Ord.compare a.key b.key = (Ord.compare b.key a.key).swap := Std.OrientedCmp.eq_swap

theorem notWorse_iff (h : Consistent p messages) (ha : a ∈ messages) (hb : b ∈ messages) :
    a.NotWorse p b ↔ a.KeyLE b := by
  unfold NotWorse KeyLE
  rw [compare_eq_key h ha hb, compare_key_swap b a]
  simp only [Except.ok.injEq, exists_eq_left']
  cases Ord.compare a.key b.key <;> decide

end BestAnnounceMessage

namespace Bmca

variable {p : Profile} {messages : List BestAnnounceMessage}

/-- **The selected message has the least key**, and the comparison is a total preorder that is
antisymmetric under swapping. -/
theorem best_is_least (hne : messages ≠ [])
    (h : BestAnnounceMessage.Consistent p messages) :
    (∃ best ∈ messages, findBestAnnounceMessage p messages = .ok (some best) ∧
        ∀ m ∈ messages, best.KeyLE m) ∧
      (∀ a ∈ messages, ∀ b ∈ messages, ∃ o, a.compare p b = .ok o ∧ b.compare p a = .ok o.swap) ∧
      (∀ a ∈ messages, ∀ b ∈ messages, a.NotWorse p b ∨ b.NotWorse p a) ∧
      (∀ a ∈ messages, ∀ b ∈ messages, ∀ c ∈ messages,
        a.NotWorse p b → b.NotWorse p c → a.NotWorse p c) ∧
      ∀ (q : Profile) (a b : ComparisonDataset), a.compare q b ≠ .error .unreachable := by
  refine ⟨?_, ?_, ?_, ?_, fun q a b => ComparisonDataset.compare_reachable q a b⟩
  · obtain ⟨ebest, hfound⟩ := exists_findBest h.comparable
    cases ebest with
    | none => exact absurd (maxBy_eq_none hfound) hne
    | some best =>
      refine ⟨best, maxBy_mem hfound, hfound, fun m hm => ?_⟩
      have hcmp : ∀ a ∈ messages, ∀ b ∈ messages,
          a.compare p b = .ok (compare b.key a.key) :=
        fun a ha b hb => BestAnnounceMessage.compare_eq_key h ha hb
      exact maxBy_isLE hcmp hfound m hm
  · intro a ha b hb
    have ho := BestAnnounceMessage.compare_eq_key h ha hb
    exact ⟨_, ho, BestAnnounceMessage.compare_swap ho⟩
  · intro a ha b hb
    rw [BestAnnounceMessage.notWorse_iff h ha hb, BestAnnounceMessage.notWorse_iff h hb ha]
    unfold BestAnnounceMessage.KeyLE
    rw [BestAnnounceMessage.compare_key_swap b a]
    cases compare a.key b.key <;> decide
  · intro a ha b hb c hc hab hbc
    rw [BestAnnounceMessage.notWorse_iff h ha hb] at hab
    rw [BestAnnounceMessage.notWorse_iff h hb hc] at hbc
    rw [BestAnnounceMessage.notWorse_iff h ha hc]
    exact Std.TransCmp.isLE_trans hab hbc

/-- Clock 2 is heard itself, and through clock 3. -/
def twoWays : List BestAnnounceMessage :=
  [selfAnnounce 2 128 0,
    { selfAnnounce 3 128 0 with grandmasterIdentity := ⟨Vector.replicate 8 2⟩, stepsRemoved := 1 }].map
      fun message =>
        { header := message.header, message, age := Duration.zero
          identity := ⟨⟨Vector.replicate 8 1⟩, 1⟩ }

theorem best_is_least_two_ways :
    ∃ best ∈ twoWays, findBestAnnounceMessage .debug twoWays = .ok (some best) ∧
      (∀ m ∈ twoWays, best.KeyLE m) ∧ best.message.stepsRemoved = 0 := by
  have hconsistent : BestAnnounceMessage.Consistent .debug twoWays := by
    refine ⟨fun m hm => ?_, by decide, by decide⟩
    obtain ⟨message, hmessage, rfl⟩ := List.mem_map.mp hm
    rw [List.mem_pair] at hmessage
    rcases hmessage with rfl | rfl
    · exact ⟨_, rfl⟩
    · exact ⟨_, rfl⟩
  obtain ⟨⟨best, hbest, hfound, hleast⟩, -⟩ := best_is_least (by decide) hconsistent
  refine ⟨best, hbest, hfound, hleast, ?_⟩
  have hsteps : ∀ m ∈ twoWays, (∀ m' ∈ twoWays, m.KeyLE m') → m.message.stepsRemoved = 0 := by
    decide +kernel
  exact hsteps best hbest hleast

end Bmca

end Statime
