import Mathlib.Data.Finset.Max
import Statime.Bmc.Ranking
import Statime.Machine.Election
import Statime.Port.Datasets
import Statime.PtpInstance

/-!
# Agreement on one master

Clocks with one port each announce themselves on one network, and each of them hears all others.
Each compares its own data with what the others announce, so two clocks compare the same two ranks,
one of them as it is and the other one as it was read from the wire.  An accuracy whose code is read
as `Reserved` is announced better than it is.

* `InternalDefaultDS.announced`: the data of a clock as others read them.
* `Network.announce_spec`: what the others read.
* `Network.agreement_iff`: when exactly one clock becomes the master.
* `Network.two_followers`: two clocks that follow one another.
-/

namespace Statime

open Rust

/-! ### Data on the wire -/

/-- The accuracy as it is read from the wire. -/
def InternalDefaultDS.announced (d : InternalDefaultDS) : InternalDefaultDS :=
  { d with clockQuality :=
    { d.clockQuality with clockAccuracy := .fromPrimitive d.clockQuality.clockAccuracy.code } }

/-- A code is read as itself, or as the code zero. -/
theorem ClockAccuracy.code_fromPrimitive (code : UInt8) :
    (fromPrimitive code).code = code ∨ (fromPrimitive code).code = 0 := by
  have key : ∀ v : Fin (2 ^ 8), (fromPrimitive ⟨⟨v⟩⟩).code = ⟨⟨v⟩⟩ ∨
      (fromPrimitive ⟨⟨v⟩⟩).code = 0 := by
    decide +kernel
  exact key code.toBitVec.toFin

/-- **What is announced is not worse than what is meant.** -/
theorem rank_announced_le (d : InternalDefaultDS) :
    (ComparisonDataset.fromOwnData d.announced).rank ≤ (ComparisonDataset.fromOwnData d).rank := by
  -- the two differ in the accuracy only
  have hcompare : compare (ComparisonDataset.fromOwnData d.announced).rank
      (ComparisonDataset.fromOwnData d).rank =
        compare d.announced.clockQuality.clockAccuracy.code d.clockQuality.clockAccuracy.code := by
    have hidentity : d.clockIdentity.cmp d.clockIdentity = .eq := ClockIdentity.cmp_eq_eq.mpr rfl
    rw [ComparisonDataset.compare_rank]
    simp only [ComparisonDataset.fromOwnData, InternalDefaultDS.announced, Std.ReflCmp.compare_self,
      Ordering.eq_then, Ordering.then_eq, hidentity]
  rw [← Nat.isLE_compare, hcompare, ← compare_toNat_uint8, Nat.isLE_compare]
  rcases ClockAccuracy.code_fromPrimitive d.clockQuality.clockAccuracy.code with hsame | hzero
  · rw [InternalDefaultDS.announced, hsame]
  · rw [InternalDefaultDS.announced, hzero]
    exact Nat.zero_le _

/-! ### The network -/

/-- Clocks with one port each, which have announced themselves to one another. -/
structure Network (p : Profile) (ι : Type) where
  state : ι → PtpInstanceState
  portIdentity : ι → PortIdentity
  sequenceId : ι → UInt16
  minorPtpVersion : ι → PtpMinorVersion
  portState : ι → PortState
  /-- What the others read. -/
  announce : ι → AnnounceMessage
  /-- The message of another clock as it is compared. -/
  heard : ι → ι → BestAnnounceMessage
  /-- The order in which the messages of the others are compared. -/
  order : ι → List ι
  distinct : ∀ i j, (state i).defaultDs.clockIdentity = (state j).defaultDs.clockIdentity → i = j
  notSlaveOnly : ∀ i, (state i).defaultDs.slaveOnly = false
  sdoId : ∀ i, (state i).defaultDs.sdoId.InRange
  advertisesItself : ∀ i, (state i).IsGrandmaster
  notListening : ∀ i, portState i ≠ .listening
  sent : ∀ i, ∃ buffer buffer' data message,
    PacketBuffer.serialize p buffer (Message.announce (state i) (portIdentity i) (sequenceId i)
      (minorPtpVersion i).toUInt8) = .ok (buffer', data) ∧
    Message.deserialize data = .ok message ∧ message.body = .announce (announce i)
  heard_message : ∀ j i, (heard j i).message = announce i
  heard_identity : ∀ j i, (heard j i).identity = portIdentity j
  mem_order : ∀ j i, i ∈ order j ↔ i ≠ j
  nodup_order : ∀ j, (order j).Nodup

namespace Network

variable {p : Profile} {ι : Type} (net : Network p ι)

/-- The state that is recommended to a clock, whose only port received the best message. -/
def recommended (j : ι) : Except Panic (Option RecommendedState) := do
  let best ← Bmca.findBestAnnounceMessage p ((net.order j).map (net.heard j))
  Bmca.calculateRecommendedState p (net.state j).defaultDs best best (net.portState j)

/-- The clock is recommended to be a master. -/
def Leads (j : ι) : Prop :=
  net.recommended j = .ok (some (.m1 (net.state j).defaultDs)) ∨
    net.recommended j = .ok (some (.m2 (net.state j).defaultDs))

/-- The clock is recommended to follow another one, or to leave it to lead. -/
def YieldsTo (j i : ι) : Prop :=
  net.recommended j = .ok (some (.s1 (net.announce i))) ∨
    net.recommended j = .ok (some (.p1 (net.announce i)))

/-- **Agreement**: exactly one clock is recommended to be a master, and all others yield to it. -/
def Agreement : Prop := ∃ leader, net.Leads leader ∧ ∀ j, j ≠ leader → net.YieldsTo j leader

/-- The rank of a clock by its own data. -/
def ownRank (i : ι) : Nat := (ComparisonDataset.fromOwnData (net.state i).defaultDs).rank

/-- The rank of a clock by what the others read. -/
def announcedRank (i : ι) : Nat :=
  (ComparisonDataset.fromOwnData (net.state i).defaultDs.announced).rank

/-! ### What the others read -/

/-- **What the others read** is the data of the clock, with the accuracy that its code stands for. -/
theorem announce_spec (i : ι) :
    (ComparisonDataset.fromOwnData (net.state i).defaultDs).Comparable p ∧
      (net.announce i).grandmasterIdentity = (net.state i).defaultDs.clockIdentity ∧
      ∀ receiver, (ComparisonDataset.fromAnnounceMessage (net.announce i) receiver).Comparable p ∧
        (ComparisonDataset.fromAnnounceMessage (net.announce i) receiver).rank =
          net.announcedRank i := by
  obtain ⟨buffer, buffer', data, message, hsent, hread, hbody⟩ := net.sent i
  have hversion : (net.minorPtpVersion i).toUInt8.toNat < 16 := by
    cases net.minorPtpVersion i <;> decide
  have hheader : (Message.announce (net.state i) (net.portIdentity i) (net.sequenceId i)
      (net.minorPtpVersion i).toUInt8).header.InRange := by
    refine ⟨net.sdoId i, ?_, hversion⟩
    show (2 : UInt8).toNat < 16
    decide
  have htime : (default : WireTimestamp).InRange := by
    show (default : WireTimestamp).seconds.toNat < 2 ^ 48
    decide
  have haccepted : TlvSet.Accepted (default : TlvSet).bytes := ⟨_, rfl⟩
  have hsize : (Message.announce (net.state i) (net.portIdentity i) (net.sequenceId i)
      (net.minorPtpVersion i).toUInt8).size ≤ maxDataLen := by
    show 64 ≤ 1024
    decide
  obtain ⟨code, source, hcode, -, hback⟩ := PacketBuffer.serialize_announce_reads rfl hheader rfl
    htime haccepted hsize hsent
  rw [Except.ok.inj (hread.symm.trans hback)] at hbody
  rw [← MessageBody.announce.inj hbody]
  have hparent := (net.advertisesItself i).parentDs
  rw [hparent] at hcode
  have hown : (net.state i).defaultDs.clockQuality.clockAccuracy.toPrimitive p = .ok code := hcode
  have hcodeEq := ClockAccuracy.toPrimitive_eq_code hown
  refine ⟨⟨code, hown⟩, congrArg InternalParentDS.grandmasterIdentity hparent,
    fun receiver => ⟨?_, ?_⟩⟩
  · obtain ⟨code', hcode', -⟩ := ClockAccuracy.fromPrimitive_toPrimitive p ⟨code, rfl⟩
    exact ⟨code', hcode'⟩
  · simp only [announcedRank, ComparisonDataset.rank, ComparisonDataset.rankBytes,
      ComparisonDataset.fromAnnounceMessage, ComparisonDataset.fromOwnData,
      AnnounceMessage.decoded, InternalDefaultDS.announced, hparent, InternalParentDS.new, hcodeEq]

/-- What the others compare. -/
theorem dataset_heard (j i : ι) : (net.heard j i).dataset =
    ComparisonDataset.fromAnnounceMessage (net.announce i) (net.portIdentity j) := by
  rw [BestAnnounceMessage.dataset, net.heard_message, net.heard_identity]

theorem identity_ne {i j : ι} (h : i ≠ j) :
    (net.announce i).grandmasterIdentity ≠ (net.announce j).grandmasterIdentity := by
  rw [(net.announce_spec i).2.1, (net.announce_spec j).2.1]
  exact fun heq => h (net.distinct i j heq)

/-- Two clocks announce different ranks. -/
theorem announcedRank_ne {i j : ι} (h : i ≠ j) : net.announcedRank i ≠ net.announcedRank j := by
  rw [← ((net.announce_spec i).2.2 (net.portIdentity i)).2,
    ← ((net.announce_spec j).2.2 (net.portIdentity i)).2]
  exact ComparisonDataset.rank_ne (net.identity_ne h)

/-! ### The best one of the others -/

/-- The message with the less rank is the better one. -/
theorem compare_heard {j i k : ι} (h : i ≠ k) (hrank : net.announcedRank i < net.announcedRank k) :
    (net.heard j i).compare p (net.heard j k) = .ok .gt := by
  obtain ⟨-, -, hi⟩ := net.announce_spec i
  obtain ⟨-, -, hk⟩ := net.announce_spec k
  refine BestAnnounceMessage.compare_eq_gt (o := .better) ?_ rfl
  have hne : (ComparisonDataset.fromAnnounceMessage (net.announce i) (net.portIdentity j)).gmIdentity ≠
      (ComparisonDataset.fromAnnounceMessage (net.announce k) (net.portIdentity j)).gmIdentity :=
    net.identity_ne h
  rw [dataset_heard, dataset_heard, ComparisonDataset.compare, if_neg hne,
    ComparisonDataset.compareDifferentIdentity_eq (hi _).1 (hk _).1 hne, (hi _).2, (hk _).2,
    if_pos hrank]

/-- **Each clock finds the best one of the others.** -/
theorem exists_best [Nontrivial ι] (j : ι) :
    ∃ i, i ≠ j ∧ (∀ k, k ≠ j → net.announcedRank i ≤ net.announcedRank k) ∧
      Bmca.findBestAnnounceMessage p ((net.order j).map (net.heard j)) =
        .ok (some (net.heard j i)) := by
  classical
  obtain ⟨other, hother⟩ := exists_ne j
  obtain ⟨i, hi, hleast⟩ := Finset.exists_min_image (net.order j).toFinset net.announcedRank
    ⟨other, List.mem_toFinset.mpr ((net.mem_order j other).mpr hother)⟩
  rw [List.mem_toFinset] at hi
  have hmin : ∀ k, k ≠ j → net.announcedRank i ≤ net.announcedRank k := fun k hk =>
    hleast k (List.mem_toFinset.mpr ((net.mem_order j k).mpr hk))
  have hwins : Bmca.Wins p ((net.order j).map (net.heard j)) (net.heard j i) := by
    refine ⟨List.mem_map_of_mem hi, fun m hm hne => ?_⟩
    obtain ⟨k, hk, rfl⟩ := List.mem_map.mp hm
    have hik : i ≠ k := fun heq => hne (by rw [heq])
    have hle := hmin k ((net.mem_order j k).mp hk)
    exact net.compare_heard hik (lt_of_le_of_ne hle (net.announcedRank_ne hik))
  obtain ⟨ebest, hfound⟩ : ∃ ebest,
      Bmca.findBestAnnounceMessage p ((net.order j).map (net.heard j)) = .ok ebest := by
    refine Bmca.exists_findBest fun m hm => ?_
    obtain ⟨k, -, rfl⟩ := List.mem_map.mp hm
    rw [dataset_heard]
    exact ((net.announce_spec k).2.2 _).1
  refine ⟨i, (net.mem_order j i).mp hi, hmin, ?_⟩
  rw [hfound, hwins.found hfound]

/-! ### What is recommended -/

/-- The own data are compared with the rank that the other clock announces. -/
theorem compare_own {j i : ι} (h : i ≠ j) :
    (ComparisonDataset.fromOwnData (net.state j).defaultDs).compare p (net.heard j i).dataset =
      .ok (if net.ownRank j < net.announcedRank i then .better else .worse) := by
  obtain ⟨hown, -, -⟩ := net.announce_spec j
  obtain ⟨-, hidentity, hi⟩ := net.announce_spec i
  have hne : (ComparisonDataset.fromOwnData (net.state j).defaultDs).gmIdentity ≠
      (ComparisonDataset.fromAnnounceMessage (net.announce i) (net.portIdentity j)).gmIdentity := by
    intro heq
    exact h (net.distinct i j (hidentity.symm.trans heq.symm))
  rw [dataset_heard, ComparisonDataset.compare, if_neg hne,
    ComparisonDataset.compareDifferentIdentity_eq hown (hi _).1 hne, (hi _).2]
  rfl

/-- **The two decision tables agree**: whatever its class, a clock that is better than the best one
of the others is to be a master, and one that is worse yields to it. -/
theorem recommended_cases {j i : ι} (hij : i ≠ j)
    (hfound : Bmca.findBestAnnounceMessage p ((net.order j).map (net.heard j)) =
      .ok (some (net.heard j i))) :
    (net.ownRank j < net.announcedRank i → net.Leads j) ∧
      (¬ net.ownRank j < net.announcedRank i → net.YieldsTo j i) := by
  have hcompare := net.compare_own hij
  unfold Leads YieldsTo
  rw [recommended, hfound, ok_bind, Bmca.calculateRecommendedState, if_neg (by simp),
    Bmca.calculateRecommendedStateLowClass, Bmca.calculateRecommendedStateHighClass,
    Bmca.compareD0Best]
  constructor
  · intro hlt
    rw [if_pos hlt] at hcompare
    have hown : (ComparisonDataset.fromOwnData (net.state j).defaultDs).compare p
        (ComparisonDataset.fromAnnounceMessage (net.heard j i).message (net.heard j i).identity) =
          .ok .better := hcompare
    rw [hown]
    split
    · exact Or.inl rfl
    · exact Or.inr rfl
  · intro hge
    rw [if_neg hge] at hcompare
    have hown : (ComparisonDataset.fromOwnData (net.state j).defaultDs).compare p
        (ComparisonDataset.fromAnnounceMessage (net.heard j i).message (net.heard j i).identity) =
          .ok .worse := hcompare
    rw [hown]
    split
    · refine Or.inr ?_
      rw [← net.heard_message j i]
      rfl
    · refine Or.inl ?_
      rw [← net.heard_message j i]
      simp [Bmca.compareGlobalAndPort, DatasetOrdering.asOrdering]

theorem YieldsTo.not_leads {net : Network p ι} {j i : ι} (h : net.YieldsTo j i) : ¬ net.Leads j := by
  rintro (hm | hm) <;> rcases h with hy | hy <;> cases Except.ok.inj (hm.symm.trans hy)

/-- A clock yields to one other only. -/
theorem YieldsTo.unique {net : Network p ι} {j i k : ι} (hi : net.YieldsTo j i)
    (hk : net.YieldsTo j k) : i = k := by
  have hannounce : net.announce i = net.announce k := by
    rcases hi with hi | hi <;> rcases hk with hk | hk <;>
      have hsame := Option.some.inj (Except.ok.inj (hi.symm.trans hk))
    · exact RecommendedState.s1.inj hsame
    · cases hsame
    · cases hsame
    · exact RecommendedState.p1.inj hsame
  by_contra hne
  exact net.identity_ne hne (congrArg AnnounceMessage.grandmasterIdentity hannounce)

/-- **Who all others yield to**: a clock that is better by its own data than what each other one
announces. -/
theorem leads_and_yieldsTo_iff [Nontrivial ι] {leader : ι} :
    (net.Leads leader ∧ ∀ j, j ≠ leader → net.YieldsTo j leader) ↔
      ∀ j, j ≠ leader → net.ownRank leader < net.announcedRank j := by
  choose best hne hmin hfound using net.exists_best
  have hheard : Election.Heard net.announcedRank best := ⟨hne, hmin⟩
  have hle : ∀ i, net.announcedRank i ≤ net.ownRank i := fun i => rank_announced_le _
  have hcases := fun j => net.recommended_cases (hne j) (hfound j)
  have hleads : ∀ j, net.Leads j ↔ Election.Leads net.ownRank net.announcedRank best j := by
    intro j
    refine ⟨fun hleads => ?_, (hcases j).1⟩
    by_contra hnot
    exact ((hcases j).2 hnot).not_leads hleads
  have hyields : ∀ j, net.YieldsTo j leader ↔
      ¬ Election.Leads net.ownRank net.announcedRank best j ∧ best j = leader := by
    intro j
    constructor
    · intro hyields
      have hnot := fun hbetter => hyields.not_leads ((hleads j).mpr hbetter)
      exact ⟨hnot, ((hcases j).2 hnot).unique hyields⟩
    · rintro ⟨hnot, rfl⟩
      exact (hcases j).2 hnot
  rw [← Election.elected_iff hheard hle, Election.Elected, hleads]
  exact and_congr_right fun _ => forall_congr' fun j => imp_congr_right fun _ => hyields j

/-- **When the network agrees on one master**: exactly when one of the clocks is better by its own data
than what each other one announces. -/
theorem agreement_iff [Nontrivial ι] :
    net.Agreement ↔ ∃ leader, ∀ j, j ≠ leader → net.ownRank leader < net.announcedRank j :=
  exists_congr fun _ => net.leads_and_yieldsTo_iff

/-- **No accuracy is lost on the wire**: then there is always one master. -/
theorem agreement_of_faithful [Nontrivial ι]
    (h : ∀ i, (net.state i).defaultDs.announced.clockQuality.clockAccuracy.code =
      (net.state i).defaultDs.clockQuality.clockAccuracy.code) : net.Agreement := by
  classical
  have hsame : ∀ i, net.ownRank i = net.announcedRank i := by
    intro i
    have hcode : (ClockAccuracy.fromPrimitive
        (net.state i).defaultDs.clockQuality.clockAccuracy.code).code =
          (net.state i).defaultDs.clockQuality.clockAccuracy.code := h i
    simp only [ownRank, announcedRank, ComparisonDataset.rank, ComparisonDataset.rankBytes,
      ComparisonDataset.fromOwnData, InternalDefaultDS.announced, hcode]
  obtain ⟨first, -⟩ := exists_pair_ne ι
  obtain ⟨leader, -, hleast⟩ := Finset.exists_min_image (first :: net.order first).toFinset
    net.ownRank ⟨first, List.mem_toFinset.mpr List.mem_cons_self⟩
  refine ⟨leader, net.leads_and_yieldsTo_iff.mpr fun j hj => ?_⟩
  have hmem : j ∈ (first :: net.order first).toFinset := by
    rw [List.mem_toFinset, List.mem_cons, net.mem_order]
    exact em (j = first)
  have hle := hleast j hmem
  rw [hsame leader, hsame j] at hle
  rw [hsame leader]
  exact lt_of_le_of_ne hle (net.announcedRank_ne (Ne.symm hj))

end Network

/-! ### Two clocks -/

/-- The announce message of a clock as it is read from the wire. -/
def announceOnWire (p : Profile) (s : PtpInstanceState) (portIdentity : PortIdentity) :
    Option AnnounceMessage :=
  match PacketBuffer.zero.serialize p (Message.announce s portIdentity 0
      PtpMinorVersion.one.toUInt8) with
  | .ok (_, data) =>
    match Message.deserialize data with
    | .ok message =>
      match message.body with
      | .announce announce => some announce
      | _ => none
    | .error _ => none
  | .error _ => none

theorem announceOnWire_spec {p : Profile} {s : PtpInstanceState} {portIdentity : PortIdentity}
    {announce : AnnounceMessage} (h : announceOnWire p s portIdentity = some announce) :
    ∃ buffer buffer' data message, PacketBuffer.serialize p buffer (Message.announce s portIdentity 0
        PtpMinorVersion.one.toUInt8) = .ok (buffer', data) ∧
      Message.deserialize data = .ok message ∧ message.body = .announce announce := by
  unfold announceOnWire at h
  split at h
  · rename_i buffer' data hsent
    split at h
    · rename_i message hread
      split at h
      · rename_i announce' hbody
        obtain rfl := Option.some.inj h
        exact ⟨_, buffer', data, message, hsent, hread, hbody⟩
      · cases h
    · cases h
  · cases h

/-- One of two clocks that differ in their identity and their accuracy. -/
def pairState (accuracy : Bool → ClockAccuracy) (i : Bool) : PtpInstanceState :=
  (testSystem { testInstanceConfig with
    clockIdentity := ClockIdentity.ofWire (List.replicate 8 (if i then 1 else 2))
    clockQuality := { testInstanceConfig.clockQuality with clockAccuracy := accuracy i } }).state

def pairPort (i : Bool) : PortIdentity where
  clockIdentity := ClockIdentity.ofWire (List.replicate 8 (if i then 1 else 2))
  portNumber := 1

def pairAnnounce (accuracy : Bool → ClockAccuracy)
    (h : ∀ i, (announceOnWire .debug (pairState accuracy i) (pairPort i)).isSome = true) (i : Bool) :
    AnnounceMessage :=
  (announceOnWire .debug (pairState accuracy i) (pairPort i)).get (h i)

/-- The two clocks on one network. -/
def pairNetwork (accuracy : Bool → ClockAccuracy)
    (h : ∀ i, (announceOnWire .debug (pairState accuracy i) (pairPort i)).isSome = true) :
    Network .debug Bool where
  state := pairState accuracy
  portIdentity := pairPort
  sequenceId := fun _ => 0
  minorPtpVersion := fun _ => .one
  portState := fun _ => .master
  announce := pairAnnounce accuracy h
  heard := fun j i => {
    header := (pairAnnounce accuracy h i).header
    message := pairAnnounce accuracy h i
    age := Duration.zero
    identity := pairPort j }
  order := fun j => [!j]
  distinct := by
    intro i j
    show ClockIdentity.ofWire (List.replicate 8 (if i then 1 else 2)) =
      ClockIdentity.ofWire (List.replicate 8 (if j then 1 else 2)) → i = j
    revert i j
    decide
  notSlaveOnly := fun _ => rfl
  sdoId := by
    intro i
    show (0 : UInt16).toNat < 4096
    decide
  advertisesItself := fun _ => ⟨rfl, rfl⟩
  notListening := by
    intro i
    decide
  sent := by
    intro i
    have hwire : announceOnWire .debug (pairState accuracy i) (pairPort i) =
        some (pairAnnounce accuracy h i) :=
      (Option.some_get (h i)).symm
    exact announceOnWire_spec hwire
  heard_message := by
    intro j i
    dsimp only
  heard_identity := by
    intro j i
    dsimp only
  mem_order := by decide
  nodup_order := by decide

namespace Network

/-- The clock with the better accuracy becomes the master. -/
theorem agreement_two_accuracies : ∃ net : Network .debug Bool, net.Agreement := by
  have hwire : ∀ i, (announceOnWire .debug
      (pairState (fun i => if i then .us1 else .unknown) i) (pairPort i)).isSome = true := by
    decide +kernel
  refine ⟨pairNetwork _ hwire, (agreement_iff _).mpr ⟨true, fun j hj => ?_⟩⟩
  obtain rfl : j = false := by simpa using hj
  show (ComparisonDataset.fromOwnData (pairState _ true).defaultDs).rank <
    (ComparisonDataset.fromOwnData (pairState _ false).defaultDs.announced).rank
  decide +kernel

/-- **Two clocks that follow one another.**  The code of their accuracy is read as `Reserved`, which
is better than the accuracy that each of them knows of itself. -/
theorem two_followers :
    ∃ net : Network .debug Bool, net.YieldsTo true false ∧ net.YieldsTo false true ∧
      ¬ net.Agreement := by
  have hwire : ∀ i, (announceOnWire .debug
      (pairState (fun _ => .profileSpecific 127) i) (pairPort i)).isSome = true := by
    decide +kernel
  have hworse : ∀ j i, ¬ (ComparisonDataset.fromOwnData
      (pairState (fun _ => .profileSpecific 127) j).defaultDs).rank <
        (ComparisonDataset.fromOwnData
          (pairState (fun _ => .profileSpecific 127) i).defaultDs.announced).rank := by
    decide +kernel
  have hyields : ∀ j, (pairNetwork _ hwire).YieldsTo j !j := by
    intro j
    obtain ⟨i, hi, -, hfound⟩ := (pairNetwork _ hwire).exists_best j
    obtain rfl : i = !j := Bool.eq_not_iff.mpr hi
    exact ((pairNetwork _ hwire).recommended_cases hi hfound).2 (hworse j !j)
  refine ⟨pairNetwork _ hwire, hyields true, hyields false, ?_⟩
  rintro ⟨leader, hleads, -⟩
  exact (hyields leader).not_leads hleads

end Network

end Statime
