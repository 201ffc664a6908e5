import Statime.Bmc.Bmca
import Statime.Rust.Order

/-!
# The order of the datasets

Figure 34 compares six fields one after the other.  Laid end to end as bytes they are one number,
the rank of a dataset, and the comparison is that of the ranks: the smaller one is better.
Figure 35, for two datasets of one grandmaster, looks at the ways that they came instead.

* `ComparisonDataset.compareDifferentIdentity_eq`: figure 34 compares the ranks.
* `ComparisonDataset.compare_reachable`: figure 34 always finds a difference.
* `BestAnnounceMessage.compare_swap`: what is better one way round is worse the other way round.
-/

namespace Statime

open Rust

/-! ### Ranks -/

theorem ClockIdentity.cmp_eq (a b : ClockIdentity) :
    a.cmp b = compare (ofBE a.toWire) (ofBE b.toWire) := by
  rw [compare_ofBE (by simp)]
  rfl

theorem ClockIdentity.cmp_eq_eq {a b : ClockIdentity} : a.cmp b = .eq ↔ a = b := by
  constructor
  · intro h
    have hbytes : a.bytes.toList = b.bytes.toList := Std.LawfulEqOrd.eq_of_compare h
    rw [← ofWire_toWire a, ← ofWire_toWire b, toWire, toWire, hbytes]
  · rintro rfl
    rw [cmp_eq, Nat.compare_eq_eq]

theorem ClockIdentity.cmp_swap (a b : ClockIdentity) : b.cmp a = (a.cmp b).swap := by
  rw [cmp_eq, cmp_eq, Nat.compare_swap]

/-- The code of an accuracy; where the addition overflows, the wrapped one. -/
def ClockAccuracy.code (a : ClockAccuracy) : UInt8 :=
  match a.toPrimitive .release with
  | .ok code => code
  | .error _ => 0

theorem ClockAccuracy.toPrimitive_eq_code {p : Profile} {a : ClockAccuracy} {code : UInt8}
    (h : a.toPrimitive p = .ok code) : code = a.code := by
  cases a with
  | profileSpecific value => exact (overflow_eq_ok.mp h).2.symm
  | _ => exact (Except.ok.inj h).symm

theorem ClockAccuracy.cmpNumeric_eq {p : Profile} {a b : ClockAccuracy} {x y : UInt8}
    (ha : a.toPrimitive p = .ok x) (hb : b.toPrimitive p = .ok y) :
    a.cmpNumeric p b = .ok (compare a.code b.code) := by
  rw [cmpNumeric, ha, ok_bind, hb, ok_bind, toPrimitive_eq_code ha, toPrimitive_eq_code hb,
    pure_eq_ok]

@[simp] theorem thenWith_ok (first second : Ordering) :
    thenWith first (fun _ => .ok second) = .ok (first.then second) := by
  cases first <;> rfl

namespace ComparisonDataset

/-- The fields of figure 34, the most significant one first. -/
def rankBytes (d : ComparisonDataset) : List UInt8 :=
  d.gmPriority1 :: d.gmClockQuality.clockClass :: d.gmClockQuality.clockAccuracy.code ::
    (toBE 2 d.gmClockQuality.offsetScaledLogVariance.toNat ++ d.gmPriority2 :: d.gmIdentity.toWire)

/-- **The rank of a dataset.** -/
def rank (d : ComparisonDataset) : Nat := ofBE d.rankBytes

theorem length_rankBytes (d : ComparisonDataset) : d.rankBytes.length = 14 := by
  simp [rankBytes]

/-- The accuracy can be compared. -/
def Comparable (p : Profile) (d : ComparisonDataset) : Prop :=
  ∃ code, d.gmClockQuality.clockAccuracy.toPrimitive p = .ok code

theorem compare_rank (a b : ComparisonDataset) :
    Ord.compare a.rank b.rank =
      (Ord.compare a.gmPriority1 b.gmPriority1).then
        ((Ord.compare a.gmClockQuality.clockClass b.gmClockQuality.clockClass).then
          ((Ord.compare a.gmClockQuality.clockAccuracy.code b.gmClockQuality.clockAccuracy.code).then
            ((Ord.compare a.gmClockQuality.offsetScaledLogVariance
                b.gmClockQuality.offsetScaledLogVariance).then
              ((Ord.compare a.gmPriority2 b.gmPriority2).then (a.gmIdentity.cmp b.gmIdentity))))) := by
  rw [rank, rank, rankBytes, rankBytes, compare_ofBE_cons (by simp), compare_ofBE_cons (by simp),
    compare_ofBE_cons (by simp), compare_ofBE_append (by simp) (by simp),
    compare_ofBE_cons (by simp), compare_ofBE_uint16, ClockIdentity.cmp_eq]

/-- Different grandmasters have different ranks. -/
theorem rank_ne {a b : ComparisonDataset} (h : a.gmIdentity ≠ b.gmIdentity) : a.rank ≠ b.rank := by
  intro hrank
  have hcompare := (compare_rank a b).symm.trans (Nat.compare_eq_eq.mpr hrank)
  simp only [Ordering.then_eq_eq] at hcompare
  exact h (ClockIdentity.cmp_eq_eq.mp hcompare.2.2.2.2.2)

/-- **Figure 34 compares the ranks.** -/
theorem compareDifferentIdentity_eq {p : Profile} {a b : ComparisonDataset} (ha : a.Comparable p)
    (hb : b.Comparable p) (h : a.gmIdentity ≠ b.gmIdentity) :
    a.compareDifferentIdentity p b = .ok (if a.rank < b.rank then .better else .worse) := by
  obtain ⟨x, hx⟩ := ha
  obtain ⟨y, hy⟩ := hb
  rw [compareDifferentIdentity, ClockAccuracy.cmpNumeric_eq hx hy]
  simp only [ok_bind, thenWith_ok, ← compare_rank]
  rcases Nat.lt_trichotomy a.rank b.rank with hlt | heq | hgt
  · rw [Nat.compare_eq_lt.mpr hlt, if_pos hlt]
  · exact absurd heq (rank_ne h)
  · rw [Nat.compare_eq_gt.mpr hgt, if_neg (by omega)]

end ComparisonDataset

/-! ### What can go wrong -/

section Panics

variable {why : Panic}

theorem ClockAccuracy.toPrimitive_avoids (hwhy : why ≠ .overflow) (p : Profile) (a : ClockAccuracy) :
    Avoids why (a.toPrimitive p) := by
  cases a with
  | profileSpecific value => exact avoids_overflow hwhy p _ _
  | _ => exact avoids_ok _ _

theorem ClockAccuracy.cmpNumeric_avoids (hwhy : why ≠ .overflow) (p : Profile)
    (a b : ClockAccuracy) : Avoids why (a.cmpNumeric p b) :=
  (a.toPrimitive_avoids hwhy p).bind fun _ _ => (b.toPrimitive_avoids hwhy p).bind fun _ _ =>
    avoids_ok _ _

theorem thenWith_avoids {first : Ordering} {second : Unit → Except Panic Ordering}
    (h : Avoids why (second ())) : Avoids why (thenWith first second) := by
  cases first with
  | eq => exact h
  | lt | gt => exact avoids_ok _ _

theorem thenWith_eq_eq {first : Ordering} {second : Unit → Except Panic Ordering} :
    thenWith first second = .ok .eq ↔ first = .eq ∧ second () = .ok .eq := by
  cases first <;> simp [thenWith]

namespace ComparisonDataset

/-- The fields of figure 34, one after the other. -/
def compareFields (p : Profile) (a b : ComparisonDataset) : Except Panic Ordering :=
  thenWith (Ord.compare a.gmPriority1 b.gmPriority1) fun _ =>
    thenWith (Ord.compare a.gmClockQuality.clockClass b.gmClockQuality.clockClass) fun _ => do
      let accuracy ← a.gmClockQuality.clockAccuracy.cmpNumeric p b.gmClockQuality.clockAccuracy
      thenWith accuracy fun _ =>
        thenWith (Ord.compare a.gmClockQuality.offsetScaledLogVariance
            b.gmClockQuality.offsetScaledLogVariance) fun _ =>
          thenWith (Ord.compare a.gmPriority2 b.gmPriority2) fun _ =>
            .ok (a.gmIdentity.cmp b.gmIdentity)

theorem compareFields_avoids (hwhy : why ≠ .overflow) (p : Profile) (a b : ComparisonDataset) :
    Avoids why (a.compareFields p b) := by
  refine thenWith_avoids (thenWith_avoids ?_)
  refine (ClockAccuracy.cmpNumeric_avoids hwhy p _ _).bind fun accuracy _ => ?_
  exact thenWith_avoids (thenWith_avoids (thenWith_avoids (avoids_ok _ _)))

/-- The last field is the identity of the grandmaster. -/
theorem gmIdentity_eq_of_compareFields {p : Profile} {a b : ComparisonDataset}
    (h : a.compareFields p b = .ok .eq) : a.gmIdentity = b.gmIdentity := by
  have h := (thenWith_eq_eq.mp (thenWith_eq_eq.mp h).2).2
  obtain ⟨accuracy, -, h⟩ := bind_eq_ok.mp h
  have h := (thenWith_eq_eq.mp (thenWith_eq_eq.mp (thenWith_eq_eq.mp h).2).2).2
  exact ClockIdentity.cmp_eq_eq.mp (Except.ok.inj h)

/-- **Figure 34 always finds a difference**: it is only used for different grandmasters. -/
theorem compare_reachable (p : Profile) (a b : ComparisonDataset) :
    Avoids .unreachable (a.compare p b) := by
  unfold compare
  split
  · exact avoids_ok _ _
  · rename_i hne
    refine (compareFields_avoids (by decide) p a b).bind fun ordering hfields => ?_
    cases ordering with
    | eq => exact absurd (gmIdentity_eq_of_compareFields hfields) hne
    | lt | gt => exact avoids_ok _ _

end ComparisonDataset

end Panics

/-! ### The other way round -/

/-- The result of the comparison the other way round. -/
def DatasetOrdering.swap : DatasetOrdering → DatasetOrdering
  | better => worse
  | betterByTopology => worseByTopology
  | error1 => error1
  | error2 => error2
  | worseByTopology => betterByTopology
  | worse => better

theorem DatasetOrdering.asOrdering_swap (o : DatasetOrdering) :
    o.swap.asOrdering = o.asOrdering.swap := by
  cases o <;> rfl

theorem thenWith_swap {first result : Ordering} {second second' : Unit → Except Panic Ordering}
    (hsecond : ∀ r, second () = .ok r → second' () = .ok r.swap)
    (h : thenWith first second = .ok result) :
    thenWith first.swap second' = .ok result.swap := by
  cases first with
  | eq => exact hsecond result h
  | lt | gt =>
    rw [← Except.ok.inj h]
    rfl

theorem ClockAccuracy.cmpNumeric_swap {p : Profile} {a b : ClockAccuracy} {o : Ordering}
    (h : a.cmpNumeric p b = .ok o) : b.cmpNumeric p a = .ok o.swap := by
  obtain ⟨x, hx, h⟩ := bind_eq_ok.mp h
  obtain ⟨y, hy, h⟩ := bind_eq_ok.mp h
  have hswap : compare y x = (compare x y).swap := Std.OrientedCmp.eq_swap
  rw [cmpNumeric, hy, ok_bind, hx, ok_bind, ← Except.ok.inj h, pure_eq_ok, hswap]

namespace ComparisonDataset

theorem compareDifferentIdentity_swap {p : Profile} {a b : ComparisonDataset} {o : DatasetOrdering}
    (h : a.compareDifferentIdentity p b = .ok o) :
    b.compareDifferentIdentity p a = .ok o.swap := by
  have hswap8 : ∀ x y : UInt8, Ord.compare y x = (Ord.compare x y).swap :=
    fun x y => Std.OrientedCmp.eq_swap
  have hswap16 : ∀ x y : UInt16, Ord.compare y x = (Ord.compare x y).swap :=
    fun x y => Std.OrientedCmp.eq_swap
  obtain ⟨ordering, hordering, h⟩ := bind_eq_ok.mp h
  refine bind_eq_ok.mpr ⟨ordering.swap, ?_, ?_⟩
  · -- field by field, as far as the comparison went
    rw [hswap8 a.gmPriority1]
    refine thenWith_swap (fun r hr => ?_) hordering
    rw [hswap8 a.gmClockQuality.clockClass]
    refine thenWith_swap (fun r hr => ?_) hr
    obtain ⟨accuracy, haccuracy, hr⟩ := bind_eq_ok.mp hr
    rw [ClockAccuracy.cmpNumeric_swap haccuracy, ok_bind]
    refine thenWith_swap (fun r hr => ?_) hr
    rw [hswap16 a.gmClockQuality.offsetScaledLogVariance]
    refine thenWith_swap (fun r hr => ?_) hr
    rw [hswap8 a.gmPriority2]
    refine thenWith_swap (fun r hr => ?_) hr
    rw [ClockIdentity.cmp_swap a.gmIdentity, Except.ok.inj hr]
  · cases ordering with
    | eq => cases h
    | lt | gt =>
      rw [← Except.ok.inj h]
      rfl

theorem compareSameIdentity_swap (a b : ComparisonDataset) :
    b.compareSameIdentity a = (a.compareSameIdentity b).swap := by
  have hports : Ord.compare b.identityOfReceiver.portNumber a.identityOfReceiver.portNumber =
      (Ord.compare a.identityOfReceiver.portNumber b.identityOfReceiver.portNumber).swap :=
    Std.OrientedCmp.eq_swap
  unfold compareSameIdentity
  dsimp only
  split_ifs <;> try omega
  · rfl
  · rfl
  · cases b.identityOfReceiver.clockIdentity.cmp b.identityOfSenders <;> rfl
  · cases a.identityOfReceiver.clockIdentity.cmp a.identityOfSenders <;> rfl
  · rw [ClockIdentity.cmp_swap a.identityOfSenders, hports, ← Ordering.swap_then]
    cases (a.identityOfSenders.cmp b.identityOfSenders).then
      (Ord.compare a.identityOfReceiver.portNumber b.identityOfReceiver.portNumber) <;> rfl

/-- **The comparison the other way round.** -/
theorem compare_swap {p : Profile} {a b : ComparisonDataset} {o : DatasetOrdering}
    (h : a.compare p b = .ok o) : b.compare p a = .ok o.swap := by
  unfold compare at h ⊢
  split at h
  · rename_i heq
    rw [if_pos heq.symm, compareSameIdentity_swap, Except.ok.inj h]
  · rename_i hne
    rw [if_neg (fun heq => hne heq.symm), compareDifferentIdentity_swap h]

end ComparisonDataset

/-! ### Datasets that agree on their grandmasters -/

namespace ComparisonDataset

/-- The fields of figure 34, and then those of figure 35. -/
def standingBytes (d : ComparisonDataset) : List UInt8 :=
  d.rankBytes ++ (toBE 2 d.stepsRemoved.toNat ++
    (d.identityOfSenders.toWire ++ toBE 2 d.identityOfReceiver.portNumber.toNat))

def standing (d : ComparisonDataset) : Nat := ofBE d.standingBytes

/-- The dataset did not come from the clock that compares it. -/
def Foreign (d : ComparisonDataset) : Prop := d.identityOfReceiver.clockIdentity ≠ d.identityOfSenders

theorem compare_standing (a b : ComparisonDataset) :
    Ord.compare a.standing b.standing =
      (Ord.compare a.rank b.rank).then ((Ord.compare a.stepsRemoved b.stepsRemoved).then
        ((a.identityOfSenders.cmp b.identityOfSenders).then
          (Ord.compare a.identityOfReceiver.portNumber b.identityOfReceiver.portNumber))) := by
  have hlength : a.rankBytes.length = b.rankBytes.length := by
    rw [length_rankBytes, length_rankBytes]
  rw [standing, standing, standingBytes, standingBytes, compare_ofBE_append hlength (by simp),
    compare_ofBE_append (by simp) (by simp), compare_ofBE_append (by simp) (by simp),
    compare_ofBE_uint16, compare_ofBE_uint16, ClockIdentity.cmp_eq]
  rfl

/-- **Figure 35 compares three fields**, when both datasets came from other clocks. -/
theorem compareSameIdentity_asOrdering {a b : ComparisonDataset} (ha : a.Foreign) (hb : b.Foreign) :
    (a.compareSameIdentity b).asOrdering =
      ((Ord.compare a.stepsRemoved b.stepsRemoved).then
        ((a.identityOfSenders.cmp b.identityOfSenders).then
          (Ord.compare a.identityOfReceiver.portNumber b.identityOfReceiver.portNumber))).swap := by
  have hne : ∀ d : ComparisonDataset, d.Foreign →
      d.identityOfReceiver.clockIdentity.cmp d.identityOfSenders ≠ .eq :=
    fun d hd heq => hd (ClockIdentity.cmp_eq_eq.mp heq)
  have hgt : b.stepsRemoved.toNat < a.stepsRemoved.toNat →
      Ord.compare a.stepsRemoved b.stepsRemoved = .gt := fun h => by
    rw [← compare_toNat_uint16, Nat.compare_eq_gt.mpr h]
  have hlt : a.stepsRemoved.toNat < b.stepsRemoved.toNat →
      Ord.compare a.stepsRemoved b.stepsRemoved = .lt := fun h => by
    rw [← compare_toNat_uint16, Nat.compare_eq_lt.mpr h]
  unfold compareSameIdentity
  dsimp only
  split_ifs
  · rw [hgt (by omega)]
    rfl
  · rw [hlt (by omega)]
    rfl
  · rw [hgt (by omega)]
    cases horder : a.identityOfReceiver.clockIdentity.cmp a.identityOfSenders with
    | eq => exact absurd horder (hne a ha)
    | lt | gt => rfl
  · rw [hlt (by omega)]
    cases horder : b.identityOfReceiver.clockIdentity.cmp b.identityOfSenders with
    | eq => exact absurd horder (hne b hb)
    | lt | gt => rfl
  · rw [← compare_toNat_uint16 a.stepsRemoved, Nat.compare_eq_eq.mpr (by omega), Ordering.eq_then]
    cases (a.identityOfSenders.cmp b.identityOfSenders).then
      (Ord.compare a.identityOfReceiver.portNumber b.identityOfReceiver.portNumber) <;> rfl

/-- **Both figures together** compare the standings of datasets that agree on their grandmasters. -/
theorem compare_eq_standing {p : Profile} {a b : ComparisonDataset} (ha : a.Comparable p)
    (hb : b.Comparable p) (haForeign : a.Foreign) (hbForeign : b.Foreign)
    (hagree : a.gmIdentity = b.gmIdentity → a.rank = b.rank) :
    ∃ o, a.compare p b = .ok o ∧ o.asOrdering = (Ord.compare a.standing b.standing).swap := by
  rw [compare, compare_standing]
  split
  · rename_i heq
    refine ⟨_, rfl, ?_⟩
    rw [Nat.compare_eq_eq.mpr (hagree heq), Ordering.eq_then,
      compareSameIdentity_asOrdering haForeign hbForeign]
  · rename_i hne
    refine ⟨_, compareDifferentIdentity_eq ha hb hne, ?_⟩
    rcases Nat.lt_or_gt_of_ne (rank_ne hne) with hlt | hgt
    · rw [if_pos hlt, Nat.compare_eq_lt.mpr hlt]
      rfl
    · rw [if_neg (by omega), Nat.compare_eq_gt.mpr hgt]
      rfl

theorem portNumber_eq_of_standing {a b : ComparisonDataset} (h : a.standing = b.standing) :
    a.identityOfReceiver.portNumber = b.identityOfReceiver.portNumber := by
  have hcompare := (compare_standing a b).symm.trans (Nat.compare_eq_eq.mpr h)
  simp only [Ordering.then_eq_eq] at hcompare
  exact Std.LawfulEqOrd.eq_of_compare hcompare.2.2.2

end ComparisonDataset

namespace BestAnnounceMessage

/-- The dataset of a message on its port. -/
def dataset (m : BestAnnounceMessage) : ComparisonDataset :=
  ComparisonDataset.fromAnnounceMessage m.message m.identity

/-- The comparison of two messages whose accuracies have codes returns. -/
theorem exists_compare {p : Profile} {a b : BestAnnounceMessage} (ha : a.dataset.Comparable p)
    (hb : b.dataset.Comparable p) : ∃ o, a.compare p b = .ok o := by
  obtain ⟨o, ho⟩ : ∃ o, a.compareDataset p b = .ok o := by
    unfold compareDataset ComparisonDataset.compare
    split
    · exact ⟨_, rfl⟩
    · rename_i hne
      exact ⟨_, ComparisonDataset.compareDifferentIdentity_eq ha hb hne⟩
  exact ⟨o.asOrdering.then (b.age.cmp a.age), by rw [compare, ho]; rfl⟩

theorem compare_eq_gt {p : Profile} {a b : BestAnnounceMessage} {o : DatasetOrdering}
    (h : a.dataset.compare p b.dataset = .ok o) (ho : o.asOrdering = .gt) :
    a.compare p b = .ok .gt := by
  have hdataset : a.compareDataset p b = .ok o := h
  rw [compare, hdataset, ok_bind, ho]
  rfl

/-- **The comparison of two messages the other way round.** -/
theorem compare_swap {p : Profile} {a b : BestAnnounceMessage} {o : Ordering}
    (h : a.compare p b = .ok o) : b.compare p a = .ok o.swap := by
  obtain ⟨ordering, hordering, h⟩ := bind_eq_ok.mp h
  have hback : b.compareDataset p a = .ok ordering.swap := ComparisonDataset.compare_swap hordering
  have hage : a.age.cmp b.age = (b.age.cmp a.age).swap := by
    show Ord.compare a.age.inner.toInt b.age.inner.toInt =
      (Ord.compare b.age.inner.toInt a.age.inner.toInt).swap
    exact Std.OrientedCmp.eq_swap
  rw [compare, hback, ok_bind, ← Except.ok.inj h, DatasetOrdering.asOrdering_swap, hage,
    ← Ordering.swap_then]
  rfl

end BestAnnounceMessage

/-! ### The best message -/

namespace Bmca

variable {p : Profile} {messages messages₂ : List BestAnnounceMessage} {best : BestAnnounceMessage}
  {ebest : Option BestAnnounceMessage}

/-- One message beats each other one. -/
def Wins (p : Profile) (messages : List BestAnnounceMessage) (best : BestAnnounceMessage) : Prop :=
  best ∈ messages ∧ ∀ m ∈ messages, m ≠ best → best.compare p m = .ok .gt

/-- **A message that beats each other one is found.** -/
theorem Wins.found (h : Wins p messages best)
    (hfound : findBestAnnounceMessage p messages = .ok ebest) : ebest = some best := by
  refine maxBy_eq_of_beats (fun m hbeats hback => ?_) h.1 h.2 hfound
  cases Except.ok.inj (hback.symm.trans (BestAnnounceMessage.compare_swap hbeats))

theorem Wins.perm (h : Wins p messages best) (hperm : messages.Perm messages₂) :
    Wins p messages₂ best :=
  ⟨hperm.mem_iff.mp h.1, fun m hm => h.2 m (hperm.mem_iff.mpr hm)⟩

/-- The best message is found when the accuracies have codes. -/
theorem exists_findBest (h : ∀ m ∈ messages, m.dataset.Comparable p) :
    ∃ ebest, findBestAnnounceMessage p messages = .ok ebest :=
  exists_maxBy fun a ha b hb => BestAnnounceMessage.exists_compare (h a ha) (h b hb)

end Bmca

end Statime
