import Mathlib.Data.Finset.Max
import Statime.Bmc.Ranking
import Statime.Instance.RoundDatasets

/-!
# The order of the ports in a round

The ports are compared and decided about in the order in which they are passed.  Once the best
message of all ports is known the order has no say any more: all decisions of one round write the
same datasets or none, and what becomes of a port depends on the port, on the default dataset and
on the best message.  The best message itself is found by comparing one message after the other.
When one of them beats each other one it is found in every order; but the comparison is not
transitive when two messages describe one grandmaster in different ways.

* `PtpInstanceState.decideStates_perm`: the datasets after the decisions.
* `PtpInstanceState.bmca_perm`: the whole round.
* `PtpInstanceState.order_decides`: three messages that beat one another in a circle.
-/

namespace Statime

open Rust

variable {A R C F : Type} [AcceptableMasterList A] [Clock C] [Filter F] [Rng R]

/-! ### Loops as functions -/

/-- What was returned, or the value given. -/
def resultOr {α : Type} (default : α) : Except Panic α → α
  | .ok a => a
  | .error _ => default

/-- **A loop over all elements is a map**, when it returns. -/
theorem forall₂_iff_map {α : Type} {f : α → Except Panic α} : ∀ {xs ys : List α},
    List.Forall₂ (fun x y => f x = .ok y) xs ys ↔
      (∀ x ∈ xs, ∃ y, f x = .ok y) ∧ ys = xs.map (fun x => resultOr x (f x)) := by
  intro xs
  induction xs with
  | nil =>
    intro ys
    rw [List.forall₂_nil_left_iff, List.map_nil]
    exact ⟨fun h => ⟨fun x hx => (by cases hx), h⟩, fun h => h.2⟩
  | cons x xs ih =>
    intro ys
    rw [List.forall_mem_cons, List.map_cons, List.forall₂_cons_left_iff]
    constructor
    · rintro ⟨y, rest, hy, hrest, rfl⟩
      obtain ⟨hall, hmap⟩ := ih.mp hrest
      exact ⟨⟨⟨y, hy⟩, hall⟩, by rw [← hmap, hy, resultOr]⟩
    · rintro ⟨⟨⟨y, hy⟩, hall⟩, rfl⟩
      exact ⟨_, _, by rw [hy, resultOr], ih.mpr ⟨hall, rfl⟩, rfl⟩

/-! ### What the decisions of a round write -/

namespace RecommendedState

/-- The datasets that a recommendation writes. -/
def write (p : Profile) (state : RecommendedState) (s : PtpInstanceState) : PtpInstanceState :=
  match state with
  | .m1 defaultDs | .m2 defaultDs => s.becomeGrandmaster defaultDs
  | .m3 _ | .p1 _ | .p2 _ => s
  | .s1 announceMessage => resultOr s (s.follow p announceMessage)

end RecommendedState

omit [AcceptableMasterList A] in
/-- **The state of the instance has no say**, apart from its default dataset. -/
theorem Port.setRecommendedState_congr {p : Profile} {s s' t : PtpInstanceState}
    {port port' : Port InBmca A R C F} {state : RecommendedState} (ht : t.defaultDs = s.defaultDs)
    (h : port.setRecommendedState p s state = .ok (port', s')) :
    port.setRecommendedState p t state = .ok (port', state.write p t) := by
  obtain ⟨port₁, hport₁, h⟩ := bind_eq_ok.mp h
  rw [setRecommendedState, ht, hport₁, ok_bind]
  cases state with
  | m1 _ | m2 _ =>
    obtain ⟨_, hassert, h⟩ := bind_eq_ok.mp h
    obtain ⟨rfl, -⟩ := Prod.mk.inj (Except.ok.inj h)
    dsimp only
    rw [hassert]
    rfl
  | m3 _ | p1 _ | p2 _ =>
    obtain ⟨rfl, -⟩ := Prod.mk.inj (Except.ok.inj h)
    rfl
  | s1 message =>
    obtain ⟨_, hassert, h⟩ := bind_eq_ok.mp h
    obtain ⟨s₁, hfollow, h⟩ := bind_eq_ok.mp h
    obtain ⟨rfl, -⟩ := Prod.mk.inj (Except.ok.inj h)
    obtain ⟨steps, hsteps, hfollow⟩ := bind_eq_ok.mp hfollow
    obtain rfl := Except.ok.inj hfollow
    dsimp only
    rw [hassert, ok_bind, RecommendedState.write, PtpInstanceState.follow, hsteps]
    rfl

namespace PtpInstanceState

variable {p : Profile} {s s' : PtpInstanceState} {ebest : Option BestAnnounceMessage}
  {d : InternalDefaultDS} {W : PtpInstanceState → PtpInstanceState}
  {port port' : Port InBmca A R C F} {ports ports' ports₂ : List (Port InBmca A R C F)}

/-- The decisions of a round write nothing, or all of them the same. -/
def Writes (p : Profile) (ebest : Option BestAnnounceMessage) (d : InternalDefaultDS)
    (W : PtpInstanceState → PtpInstanceState) : Prop :=
  ∀ erbest portState state, Bmca.Recommends p d ebest erbest portState (some state) →
    state.write p = id ∨ state.write p = W

/-- **There is one such write for each round.** -/
theorem exists_writes (p : Profile) (ebest : Option BestAnnounceMessage) (d : InternalDefaultDS) :
    ∃ W, Writes p ebest d W := by
  by_cases hbest : ∃ best, Bmca.Outranked p d ebest best
  · obtain ⟨best, hbest⟩ := hbest
    refine ⟨RecommendedState.write p (.s1 best.message), fun erbest portState state h => ?_⟩
    cases h with
    | m1 hclass | p1 hclass => exact absurd hclass hbest.1
    | m2 _ hnot => exact absurd hbest.2 (hnot best)
    | m3 | p2 => exact Or.inl rfl
    | s1 hclass hsuperseded => exact Or.inr (by rw [hbest.unique ⟨hclass, hsuperseded⟩])
  · refine ⟨fun s => s.becomeGrandmaster d, fun erbest portState state h => ?_⟩
    cases h with
    | m1 | m2 => exact Or.inr rfl
    | p1 => exact Or.inl rfl
    | m3 hclass hsuperseded | p2 hclass hsuperseded | s1 hclass hsuperseded =>
      exact absurd ⟨_, hclass, hsuperseded⟩ hbest

omit [AcceptableMasterList A] in
/-- **One decision**, in any state with this default dataset. -/
theorem Writes.decideState (hW : Writes p ebest d W) (hs : s.defaultDs = d)
    (h : s.decideState p ebest port = .ok (port', s')) :
    ∃ w, (w = id ∨ w = W) ∧ ∀ t : PtpInstanceState, t.defaultDs = d →
      t.decideState p ebest port = .ok (port', w t) := by
  rcases decideState_cases h with ⟨hrecommended, rfl, rfl⟩ | ⟨state, hrecommended, hset⟩
  · refine ⟨id, Or.inl rfl, fun t ht => ?_⟩
    rw [hs, ← ht] at hrecommended
    rw [PtpInstanceState.decideState, Port.bestLocalAnnounceMessageForState, hrecommended]
    rfl
  · have hwrite := hW _ _ state (hs ▸ Bmca.calculateRecommendedState_recommends hrecommended)
    refine ⟨state.write p, hwrite, fun t ht => ?_⟩
    rw [hs, ← ht] at hrecommended
    rw [PtpInstanceState.decideState, Port.bestLocalAnnounceMessageForState, hrecommended]
    exact Port.setRecommendedState_congr (ht.trans hs.symm) hset

omit [AcceptableMasterList A] in
/-- **The datasets after the decisions** do not depend on the order of the ports. -/
theorem Writes.decideStates_perm (hW : Writes p ebest d W) (hperm : ports.Perm ports₂) :
    ∀ {s s' : PtpInstanceState} {ports' : List (Port InBmca A R C F)}, s.defaultDs = d →
      decideStates p ebest s ports = .ok (ports', s') →
      ∃ ports₂', decideStates p ebest s ports₂ = .ok (ports₂', s') := by
  induction hperm with
  | nil => exact fun {s s' ports'} _ h => ⟨ports', h⟩
  | cons port hperm ih =>
    intro s s' ports' hs h
    obtain ⟨first, s₁, rest, hfirst, hrest, rfl⟩ := decideStates_cons_inv h
    obtain ⟨rest', hrest'⟩ := ih ((decideState_defaultDs hfirst).trans hs) hrest
    exact ⟨_, decideStates_cons hfirst hrest'⟩
  | swap x y ports =>
    intro s s' ports' hs h
    obtain ⟨y', s₁, xs, hy, hxs, rfl⟩ := decideStates_cons_inv h
    obtain ⟨x', s₂, rest, hx, hrest, rfl⟩ := decideStates_cons_inv hxs
    have hs₁ : s₁.defaultDs = d := (decideState_defaultDs hy).trans hs
    obtain ⟨wy, hwy, hdecideY⟩ := hW.decideState hs hy
    obtain ⟨wx, hwx, hdecideX⟩ := hW.decideState hs₁ hx
    obtain rfl : s₁ = wy s := (Prod.mk.inj (Except.ok.inj (hy.symm.trans (hdecideY s hs)))).2
    obtain rfl : s₂ = wx (wy s) :=
      (Prod.mk.inj (Except.ok.inj (hx.symm.trans (hdecideX _ hs₁)))).2
    -- two writes of one round can be exchanged
    have hcomm : wx (wy s) = wy (wx s) := by
      rcases hwx with rfl | rfl <;> rcases hwy with rfl | rfl <;> rfl
    have hfirst := hdecideX s hs
    have hsecond := hdecideY (wx s) ((decideState_defaultDs hfirst).trans hs)
    rw [hcomm] at hrest
    exact ⟨_, decideStates_cons hfirst (decideStates_cons hsecond hrest)⟩
  | trans _ _ ih₁ ih₂ =>
    intro s s' ports' hs h
    obtain ⟨ports₁', h₁⟩ := ih₁ hs h
    exact ih₂ hs h₁

omit [AcceptableMasterList A] in
/-- **What becomes of a port** does not depend on the others. -/
theorem Writes.decideStates_eq_map (hW : Writes p ebest d W) {t : PtpInstanceState}
    (ht : t.defaultDs = d) : ∀ {ports ports' : List (Port InBmca A R C F)} {s s' : PtpInstanceState},
      s.defaultDs = d → decideStates p ebest s ports = .ok (ports', s') →
      ports' = ports.map fun port => (resultOr (port, t) (t.decideState p ebest port)).1 := by
  intro ports
  induction ports with
  | nil =>
    intro ports' s s' _ h
    rw [← (Prod.mk.inj (Except.ok.inj h)).1, List.map_nil]
  | cons port ports ih =>
    intro ports' s s' hs h
    obtain ⟨first, s₁, rest, hfirst, hrest, rfl⟩ := decideStates_cons_inv h
    obtain ⟨w, -, hdecide⟩ := hW.decideState hs hfirst
    have hrest' := ih ((decideState_defaultDs hfirst).trans hs) hrest
    rw [List.map_cons, ← hrest', hdecide t ht, resultOr]

/-! ### The best message in any order -/

/-- The messages that the best one is chosen from. -/
def candidates (p : Profile) (ports : List (Port InBmca A R C F)) : List BestAnnounceMessage :=
  ports.filterMap (·.erbestForBmca p)

/-- No message is better than the own data. -/
def Unrivalled (p : Profile) (ownData : InternalDefaultDS) (messages : List BestAnnounceMessage) :
    Prop :=
  ∀ m ∈ messages, Bmca.compareD0Best p (ComparisonDataset.fromOwnData ownData) (some m) =
      .ok .better ∨
    Bmca.compareD0Best p (ComparisonDataset.fromOwnData ownData) (some m) = .ok .same

/-- The comparisons have a result in any order that the round takes into account. -/
def Decisive (p : Profile) (ownData : InternalDefaultDS) (messages : List BestAnnounceMessage) :
    Prop :=
  Bmca.LowClass ownData ∨ Unrivalled p ownData messages ∨ ∃ best, Bmca.Wins p messages best

variable {messages messages₂ : List BestAnnounceMessage} {best : BestAnnounceMessage}
  {ebest₂ : Option BestAnnounceMessage}

/-- The two best messages make no difference. -/
def SameDecisions (p : Profile) (ownData : InternalDefaultDS)
    (ebest ebest₂ : Option BestAnnounceMessage) : Prop :=
  ∀ erbest portState, Bmca.calculateRecommendedState p ownData ebest erbest portState =
    Bmca.calculateRecommendedState p ownData ebest₂ erbest portState

theorem Unrivalled.m2 (h : Unrivalled p d messages)
    (hfound : Bmca.findBestAnnounceMessage p messages = .ok ebest)
    (erbest : Option BestAnnounceMessage) :
    Bmca.calculateRecommendedStateHighClass p d ebest erbest = .ok (.m2 d) := by
  have hcompare : Bmca.compareD0Best p (ComparisonDataset.fromOwnData d) ebest = .ok .better ∨
      Bmca.compareD0Best p (ComparisonDataset.fromOwnData d) ebest = .ok .same := by
    cases ebest with
    | none => exact Or.inl rfl
    | some m => exact h m (maxBy_mem hfound)
  rcases hcompare with hbetter | hsame
  · rw [Bmca.calculateRecommendedStateHighClass, hbetter]
    rfl
  · rw [Bmca.calculateRecommendedStateHighClass, hsame]
    rfl

/-- **What is found in another order makes no difference.** -/
theorem Decisive.sameDecisions (h : Decisive p d messages) (hperm : messages.Perm messages₂)
    (hfound : Bmca.findBestAnnounceMessage p messages = .ok ebest)
    (hfound₂ : Bmca.findBestAnnounceMessage p messages₂ = .ok ebest₂) :
    SameDecisions p d ebest ebest₂ := by
  intro erbest portState
  rcases h with hlow | hnone | ⟨best, hbest⟩
  · unfold Bmca.LowClass at hlow
    simp only [Bmca.calculateRecommendedState, if_pos hlow]
  · have hnone₂ : Unrivalled p d messages₂ := fun m hm => hnone m (hperm.mem_iff.mpr hm)
    simp only [Bmca.calculateRecommendedState, hnone.m2 hfound, hnone₂.m2 hfound₂]
  · rw [hbest.found hfound, (hbest.perm hperm).found hfound₂]

/-- Messages of other clocks, one for each port, that agree on the grandmasters they name. -/
structure Consistent (p : Profile) (messages : List BestAnnounceMessage) : Prop where
  comparable : ∀ m ∈ messages, m.dataset.Comparable p
  foreign : ∀ m ∈ messages, m.dataset.Foreign
  agree : ∀ a ∈ messages, ∀ b ∈ messages, a.dataset.gmIdentity = b.dataset.gmIdentity →
    a.dataset.rank = b.dataset.rank
  ports : ∀ a ∈ messages, ∀ b ∈ messages, a.identity.portNumber = b.identity.portNumber → a = b

/-- **Among such messages one beats each other one.** -/
theorem Consistent.exists_wins (h : Consistent p messages) (hne : messages ≠ []) :
    ∃ best, Bmca.Wins p messages best := by
  obtain ⟨first, hfirst⟩ := List.exists_mem_of_ne_nil messages hne
  -- the one with the least standing
  obtain ⟨best, hbest, hleast⟩ := Finset.exists_min_image messages.toFinset
    (fun m => m.dataset.standing) ⟨first, List.mem_toFinset.mpr hfirst⟩
  rw [List.mem_toFinset] at hbest
  refine ⟨best, hbest, fun m hm hother => ?_⟩
  obtain ⟨o, ho, horder⟩ := ComparisonDataset.compare_eq_standing (h.comparable best hbest)
    (h.comparable m hm) (h.foreign best hbest) (h.foreign m hm) (h.agree best hbest m hm)
  have hle : best.dataset.standing ≤ m.dataset.standing := hleast m (List.mem_toFinset.mpr hm)
  have hstanding : best.dataset.standing ≠ m.dataset.standing := fun heq =>
    hother (h.ports m hm best hbest (ComparisonDataset.portNumber_eq_of_standing heq.symm))
  refine BestAnnounceMessage.compare_eq_gt ho ?_
  rw [horder, Nat.compare_eq_lt.mpr (by omega)]
  rfl

/-- **Messages that agree on the grandmasters are decisive.** -/
theorem Consistent.decisive (h : Consistent p messages) : Decisive p d messages := by
  by_cases hne : messages = []
  · exact Or.inr (Or.inl fun m hm => (by rw [hne] at hm; cases hm))
  · exact Or.inr (Or.inr (h.exists_wins hne))

omit [AcceptableMasterList A] in
theorem SameDecisions.decideStates (h : SameDecisions p d ebest ebest₂) :
    ∀ {ports ports' : List (Port InBmca A R C F)} {s s' : PtpInstanceState}, s.defaultDs = d →
      PtpInstanceState.decideStates p ebest s ports = .ok (ports', s') →
      PtpInstanceState.decideStates p ebest₂ s ports = .ok (ports', s') := by
  intro ports
  induction ports with
  | nil => exact fun _ hdecide => hdecide
  | cons port ports ih =>
    intro ports' s s' hs hdecide
    obtain ⟨first, s₁, rest, hfirst, hrest, rfl⟩ := decideStates_cons_inv hdecide
    refine decideStates_cons ?_ (ih ((decideState_defaultDs hfirst).trans hs) hrest)
    rw [← hfirst, decideState, decideState, hs, h]

end PtpInstanceState

/-! ### The whole round -/

/-- The port after a round with this best message. -/
def Port.afterRound (p : Profile) (s : PtpInstanceState) (ebest : Option BestAnnounceMessage)
    (interval : Duration) (port : Port InBmca A R C F) : Port InBmca A R C F :=
  let prepared := resultOr port (port.calculateBestLocalAnnounceMessage p)
  let decided := (resultOr (prepared, s) (s.decideState p ebest prepared)).1
  resultOr decided (decided.stepAnnounceAge p interval)

namespace PtpInstanceState

variable {p : Profile} {s s' : PtpInstanceState} {ebest ebest₂ : Option BestAnnounceMessage}
  {interval : Duration} {ports ports' ports₁ ports₂ orderedPorts : List (Port InBmca A R C F)}

theorem Round.found (h : Round p s s' interval ports ports' ports₁ ports₂ ebest) :
    Bmca.findBestAnnounceMessage p (candidates p ports) = .ok ebest := by
  rw [candidates, ← Prepared.forBmca h.best]
  exact h.chosen

/-- **A round as a function of the best message.** -/
theorem Round.eq_map (h : Round p s s' interval ports ports' ports₁ ports₂ ebest) :
    ports' = ports.map (·.afterRound p s ebest interval) := by
  obtain ⟨W, hW⟩ := exists_writes p ebest s.defaultDs
  rw [(forall₂_iff_map.mp h.age).2, hW.decideStates_eq_map rfl rfl h.decide,
    (forall₂_iff_map.mp h.best).2, List.map_map, List.map_map]
  rfl

/-- **The same round in another order.** -/
theorem Round.bmca_perm (h : Round p s s' interval ports ports' ports₁ ports₂ ebest)
    (hperm : ports.Perm orderedPorts) (hsame : SameDecisions p s.defaultDs ebest ebest₂)
    (hfound : Bmca.findBestAnnounceMessage p (candidates p orderedPorts) = .ok ebest₂) :
    s.bmca p orderedPorts interval =
      .ok (orderedPorts.map (·.afterRound p s ebest interval), s') := by
  obtain ⟨W, hW⟩ := exists_writes p ebest s.defaultDs
  obtain ⟨hbest, hports₁⟩ := forall₂_iff_map.mp h.best
  obtain ⟨hage, -⟩ := forall₂_iff_map.mp h.age
  have hbest₂ := forall₂_iff_map.mpr
    ⟨fun port hport => hbest port (hperm.mem_iff.mpr hport), rfl⟩
  have hperm₁ := hperm.map fun port => resultOr port (port.calculateBestLocalAnnounceMessage p)
  rw [← hports₁] at hperm₁
  obtain ⟨decided, hdecided⟩ := hW.decideStates_perm hperm₁ rfl h.decide
  have hdecidedMap := hW.decideStates_eq_map rfl rfl hdecided
  have hperm₂ : ports₂.Perm decided := by
    rw [hW.decideStates_eq_map rfl rfl h.decide, hdecidedMap]
    exact hperm₁.map _
  have hage₂ := forall₂_iff_map.mpr
    ⟨fun port hport => hage port (hperm₂.mem_iff.mpr hport), rfl⟩
  have hround : Round p s s' interval orderedPorts _ _ decided ebest₂ :=
    ⟨fun hp => (h.numberPorts hp).trans hperm.length_eq, hbest₂,
      (congrArg _ (Prepared.forBmca hbest₂)).trans hfound, hsame.decideStates rfl hdecided, hage₂⟩
  rw [hround.bmca_eq, hdecidedMap, List.map_map, List.map_map]
  rfl

/-- **The order of the ports has no say**, when the comparisons of the messages are decisive.  In any
other order in which the round returns each port becomes the same, and so do the datasets; and it
does return in any other order when no comparison of two accuracies overflows. -/
theorem bmca_any_order (hperm : ports.Perm orderedPorts)
    (hdecisive : Decisive p s.defaultDs (candidates p ports))
    (h : s.bmca p ports interval = .ok (ports', s')) :
    ∃ f : Port InBmca A R C F → Port InBmca A R C F, ports' = ports.map f ∧
      (∀ r, s.bmca p orderedPorts interval = .ok r → r = (orderedPorts.map f, s')) ∧
      ((∀ m ∈ candidates p ports, m.dataset.Comparable p) →
        s.bmca p orderedPorts interval = .ok (orderedPorts.map f, s')) := by
  obtain ⟨ports₁, ports₂, ebest, hround⟩ := bmca_eq_ok h
  have hcandidates : (candidates p ports).Perm (candidates p orderedPorts) := hperm.filterMap _
  have hother : ∀ ebest₂, Bmca.findBestAnnounceMessage p (candidates p orderedPorts) = .ok ebest₂ →
      s.bmca p orderedPorts interval =
        .ok (orderedPorts.map (·.afterRound p s ebest interval), s') :=
    fun ebest₂ hfound₂ => hround.bmca_perm hperm
      (hdecisive.sameDecisions hcandidates hround.found hfound₂) hfound₂
  refine ⟨(·.afterRound p s ebest interval), hround.eq_map, ?_, fun hcodes => ?_⟩
  · rintro ⟨orderedPorts', s₂'⟩ hr
    obtain ⟨ports₁', ports₂', ebest₂, hround₂⟩ := bmca_eq_ok hr
    exact Except.ok.inj (hr.symm.trans (hother ebest₂ hround₂.found))
  · obtain ⟨ebest₂, hfound₂⟩ :=
      Bmca.exists_findBest fun m hm => hcodes m (hcandidates.mem_iff.mpr hm)
    exact hother ebest₂ hfound₂

end PtpInstanceState

/-! ### Three messages in a circle -/

/-- The bytes of an announce message that is passed on: the clock with `sender` in all bytes of its
identity is `stepsRemoved` steps away from the grandmaster. -/
def announceVia (sender grandmaster priority1 stepsRemoved sequenceId : UInt8) : List UInt8 :=
  [0x0b, 0x12] ++ toBE 2 64 ++ List.replicate 16 0 ++ List.replicate 8 sender ++
    [0, 1, 0, sequenceId, 5, 0] ++ List.replicate 10 0 ++
    [0, 37, 0, priority1, 6, 0x21, 0x4e, 0x5d, 128] ++ List.replicate 8 grandmaster ++
    [0, stepsRemoved, 0x20]

/-- Three ports that have heard two messages each. -/
def hearThree (first second third : UInt8 → List UInt8) : List TestEvent :=
  [.addPort testPortConfig () ⟨⟩ ⟨⟩, .addPort testPortConfig () ⟨⟩ ⟨⟩,
    .addPort testPortConfig () ⟨⟩ ⟨⟩, .endBmca 0, .endBmca 1, .endBmca 2,
    .generalReceive 0 (first 0), .generalReceive 0 (first 1), .generalReceive 1 (second 0),
    .generalReceive 1 (second 1), .generalReceive 2 (third 0), .generalReceive 2 (third 1),
    .startBmca 0, .startBmca 1, .startBmca 2]

/-- The parents that three ports choose, in their order and with the first one last. -/
def parentsOf (sys : TestSystem) : Option (PortIdentity × PortIdentity) :=
  match System.allInBmca sys.ports, Duration.fromSecondsLog .debug sys.logBmcaInterval with
  | some [a, b, c], .ok interval =>
    match sys.state.bmca .debug [a, b, c] interval, sys.state.bmca .debug [b, c, a] interval with
    | .ok (_, s₁), .ok (_, s₂) => some (s₁.parentDs.parentPortIdentity, s₂.parentDs.parentPortIdentity)
    | _, _ => none
  | _, _ => none

theorem parentsOf_spec {sys : TestSystem} {parents : PortIdentity × PortIdentity}
    (h : parentsOf sys = some parents) :
    ∃ ports orderedPorts interval ports' orderedPorts' s₁ s₂,
      System.allInBmca sys.ports = some ports ∧ ports.Perm orderedPorts ∧
      sys.state.bmca .debug ports interval = .ok (ports', s₁) ∧
      sys.state.bmca .debug orderedPorts interval = .ok (orderedPorts', s₂) ∧
      parents = (s₁.parentDs.parentPortIdentity, s₂.parentDs.parentPortIdentity) := by
  unfold parentsOf at h
  split at h
  · rename_i a b c interval hports _
    split at h
    · rename_i ports' s₁ orderedPorts' s₂ hfirst hsecond
      have hperm : ([a] ++ [b, c]).Perm ([b, c] ++ [a]) := List.perm_append_comm
      exact ⟨_, _, interval, ports', orderedPorts', s₁, s₂, hports, hperm, hfirst, hsecond,
        (Option.some.inj h).symm⟩
    · cases h
  · cases h

/-- Whether one message beats each other one. -/
def hasWinner (p : Profile) (messages : List BestAnnounceMessage) : Bool :=
  messages.any fun best => messages.all fun m => decide (m = best ∨ best.compare p m = .ok .gt)

theorem wins_of_hasWinner {p : Profile} {messages : List BestAnnounceMessage}
    (h : hasWinner p messages = true) : ∃ best, Bmca.Wins p messages best := by
  obtain ⟨best, hbest, hall⟩ := List.any_eq_true.mp h
  refine ⟨best, hbest, fun m hm hother => ?_⟩
  exact (of_decide_eq_true (List.all_eq_true.mp hall m hm)).resolve_left hother

/-- Whether it is so in an instance. -/
def isDecided (sys : TestSystem) : Bool :=
  (System.allInBmca sys.ports).any fun ports =>
    hasWinner .debug (PtpInstanceState.candidates .debug ports)

/-- Three clocks that are their own grandmasters, and two orders of the ports. -/
theorem bmca_any_order_three_clocks :
    ∃ (sys : TestSystem) (ports orderedPorts : List (Port InBmca _ _ _ _)) (interval : Duration)
      (f : Port InBmca _ _ _ _ → Port InBmca _ _ _ _) (s' : PtpInstanceState),
      System.allInBmca sys.ports = some ports ∧ ports.Perm orderedPorts ∧
      sys.state.bmca .debug ports interval = .ok (ports.map f, s') ∧
      sys.state.bmca .debug orderedPorts interval = .ok (orderedPorts.map f, s') := by
  have hrun : Machine.endsWith (System.step .debug) (testSystem testInstanceConfig)
      (hearThree (announceVia 7 7 1 0) (announceVia 8 8 10 0) (announceVia 6 6 5 0))
      (fun sys => isDecided sys && (parentsOf sys).isSome) = true := by
    decide +kernel
  obtain ⟨sys, -, hcheck⟩ := System.reachable_of_endsWith hrun
  rw [Bool.and_eq_true, Option.isSome_iff_exists] at hcheck
  obtain ⟨hdecided, parents, hparents⟩ := hcheck
  obtain ⟨ports, orderedPorts, interval, ports', orderedPorts', s₁, s₂, hports, hperm, hfirst,
    hsecond, -⟩ := parentsOf_spec hparents
  rw [isDecided, hports, Option.any_some] at hdecided
  obtain ⟨f, rfl, hother, -⟩ := PtpInstanceState.bmca_any_order hperm
    (Or.inr (Or.inr (wins_of_hasWinner hdecided))) hfirst
  obtain ⟨rfl, rfl⟩ := Prod.mk.inj (hother _ hsecond)
  exact ⟨sys, ports, orderedPorts, interval, f, s₂, hports, hperm, hfirst, hsecond⟩

/-- **The order can decide.**  The second port hears of the same grandmaster as the first one, nearer
but with a worse priority; the priority that the third port hears is between the two.  The messages
beat one another in a circle, and another order of the ports makes another parent. -/
theorem order_decides :
    ∃ sys : TestSystem, System.Reachable NoForwardedTLVs .debug sys ∧ sys.portIdentities.Nodup ∧
      ∃ ports orderedPorts interval ports' orderedPorts' s₁ s₂,
        System.allInBmca sys.ports = some ports ∧ ports.Perm orderedPorts ∧
        sys.state.bmca .debug ports interval = .ok (ports', s₁) ∧
        sys.state.bmca .debug orderedPorts interval = .ok (orderedPorts', s₂) ∧
        s₁.parentDs.parentPortIdentity ≠ s₂.parentDs.parentPortIdentity := by
  have hrun : Machine.endsWith (System.step .debug) (testSystem testInstanceConfig)
      (hearThree (announceVia 7 9 1 5) (announceVia 8 9 10 1) (announceVia 6 6 5 0))
      (fun sys => decide sys.portIdentities.Nodup &&
        (parentsOf sys).any fun parents => decide (parents.1 ≠ parents.2)) = true := by
    decide +kernel
  obtain ⟨sys, hreachable, hcheck⟩ := System.reachable_of_endsWith hrun
  rw [Bool.and_eq_true, decide_eq_true_eq, Option.any_eq_true] at hcheck
  obtain ⟨hnodup, parents, hparents, hne⟩ := hcheck
  obtain ⟨ports, orderedPorts, interval, ports', orderedPorts', s₁, s₂, hports, hperm, hfirst,
    hsecond, rfl⟩ := parentsOf_spec hparents
  exact ⟨sys, hreachable, hnodup, ports, orderedPorts, interval, ports', orderedPorts', s₁, s₂,
    hports, hperm, hfirst, hsecond, of_decide_eq_true hne⟩

end Statime
