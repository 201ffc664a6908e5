import Mathlib.Data.Finset.Card
import Mathlib.Order.Interval.Finset.Nat
import Mathlib.Tactic.IntervalCases
import Statime.Bmc.Records

/-!
# How long a foreign master stays a candidate

Rounds of one port's `Bmca`: announce messages are registered, the best one is taken, and
the ages advance by one announce interval.  A master that announces itself in every round
has a record, but a round that it loses takes the newest message out of it.  What is left
are the messages of the rounds it won, and of its first round, for as long as they are young.

* `keptRounds`: the rounds whose messages are left, and `Regular.describes`, which says that the
  record is exactly that.
* `Regular.candidate_every_round_iff`: the master is compared in every round from its second on just when
  among any three rounds in a row, from the second on, it wins one.
-/

namespace Statime

open Rust

namespace Bmca

variable {A : Type} [AcceptableMasterList A] {p : Profile}

/-! ### Rounds -/

/-- The announce messages of a round, each with the header it came with. -/
def registerAll (p : Profile) : Bmca A → List (Header × AnnounceMessage) → Except Panic (Bmca A)
  | b, [] => .ok b
  | b, (header, a) :: calls => do
    let (b, _) ← b.registerAnnounceMessage p header a
    registerAll p b calls

/-- The messages that `take_best_port_announce_message` compares. -/
def candidates (b : Bmca A) : List BestAnnounceMessage :=
  b.foreignMasterList.takeQualifiedAnnounceMessages.1.map b.toBest

/-- Taking the best message and letting one announce interval of the port pass. -/
def endRound (p : Profile) (b : Bmca A) : Except Panic (Bmca A) := do
  let (_, b) ← b.takeBestPortAnnounceMessage p
  b.stepAge p (Duration.ofTimeInterval b.foreignMasterList.ownPortAnnounceInterval)

/-- Whether the best of the messages to compare is one of the master's. -/
def wins (p : Profile) (b : Bmca A) (identity : PortIdentity) : Bool :=
  match findBestAnnounceMessage p b.candidates with
  | .ok (some best) => decide (best.message.header.sourcePortIdentity = identity)
  | _ => false

/-- What never changes after `new`, and where the messages come from. -/
structure Owned (acceptable : A) (interval : TimeInterval) (own : PortIdentity) (b : Bmca A) :
    Prop where
  acceptable : b.acceptableMasterList = acceptable
  identity : b.ownPortIdentity = own
  listIdentity : b.foreignMasterList.ownPortIdentity = own
  interval : b.foreignMasterList.ownPortAnnounceInterval = interval
  sourced : b.foreignMasterList.Sourced

/-- The states of a port's `Bmca`. -/
inductive Reached (p : Profile) (acceptable : A) (interval : TimeInterval) (own : PortIdentity) :
    Bmca A → Prop
  | new : Reached p acceptable interval own (Bmca.new acceptable interval own)
  | register {b b' : Bmca A} {header : Header} {a : AnnounceMessage} {stored : Bool} :
      Reached p acceptable interval own b →
      b.registerAnnounceMessage p header a = .ok (b', stored) →
      Reached p acceptable interval own b'
  | take {b b' : Bmca A} {best : Option BestAnnounceMessage} :
      Reached p acceptable interval own b → b.takeBestPortAnnounceMessage p = .ok (best, b') →
      Reached p acceptable interval own b'
  | stepAge {b b' : Bmca A} {step : Duration} :
      Reached p acceptable interval own b → b.stepAge p step = .ok b' →
      Reached p acceptable interval own b'

section Owned

variable {acceptable : A} {interval : TimeInterval} {own : PortIdentity} {b b' : Bmca A}

theorem reregister_cases {header : Header} {a : AnnounceMessage} {age : Duration}
    (h : b.reregisterAnnounceMessage p header a age = .ok b') :
    (b.accepts a = false ∧ b' = b) ∨
      (b.accepts a = true ∧ ∃ l, b' = { b with foreignMasterList := l } ∧
        b.foreignMasterList.registerAnnounceMessage p header a age = .ok l) := by
  rw [reregisterAnnounceMessage] at h
  split at h
  · rename_i hacc
    obtain ⟨l, hl, h⟩ := bind_eq_ok.mp h
    exact Or.inr ⟨hacc, l, (Except.ok.inj h).symm, hl⟩
  · rename_i hacc
    exact Or.inl ⟨by simpa using hacc, (Except.ok.inj h).symm⟩

/-- A first registration is a registration with age zero. -/
theorem register_reregister {header : Header} {a : AnnounceMessage} {stored : Bool}
    (h : b.registerAnnounceMessage p header a = .ok (b', stored)) :
    b.reregisterAnnounceMessage p header a Duration.zero = .ok b' := by
  rw [registerAnnounceMessage] at h
  rw [reregisterAnnounceMessage]
  split at h
  · rename_i hacc
    obtain ⟨l, hl, h⟩ := bind_eq_ok.mp h
    rw [if_pos hacc, hl, ok_bind, pure_eq_ok]
    rw [Except.ok.inj h |> Prod.mk.inj |>.1 |>.symm]
  · rename_i hacc
    rw [if_neg hacc, ← (Prod.mk.inj (Except.ok.inj h)).1]

/-- Taking the best message: the list without the candidates, and the best one back in. -/
theorem takeBest_cases {best : Option BestAnnounceMessage}
    (h : b.takeBestPortAnnounceMessage p = .ok (best, b')) :
    findBestAnnounceMessage p b.candidates = .ok best ∧
      ((best = none ∧
          b' = { b with foreignMasterList := b.foreignMasterList.takeQualifiedAnnounceMessages.2 }) ∨
        ∃ m, best = some m ∧
          ({ b with foreignMasterList := b.foreignMasterList.takeQualifiedAnnounceMessages.2 } :
            Bmca A).reregisterAnnounceMessage p m.header m.message m.age = .ok b') := by
  rw [takeBestPortAnnounceMessage] at h
  obtain ⟨erbest, hbest, h⟩ := bind_eq_ok.mp h
  cases erbest with
  | none =>
    obtain ⟨rfl, rfl⟩ := Prod.mk.inj (Except.ok.inj h)
    exact ⟨hbest, Or.inl ⟨rfl, rfl⟩⟩
  | some m =>
    obtain ⟨b₁, hb₁, h⟩ := bind_eq_ok.mp h
    obtain ⟨rfl, rfl⟩ := Prod.mk.inj (Except.ok.inj h)
    exact ⟨hbest, Or.inr ⟨m, rfl, hb₁⟩⟩

theorem Owned.reregister {header : Header} {a : AnnounceMessage} {age : Duration}
    (ho : b.Owned acceptable interval own)
    (h : b.reregisterAnnounceMessage p header a age = .ok b') :
    b'.Owned acceptable interval own := by
  rcases reregister_cases h with ⟨-, rfl⟩ | ⟨-, l, rfl, hl⟩
  · exact ho
  · obtain ⟨hi, hid⟩ := ForeignMasterList.registerAnnounceMessage_own hl
    exact ⟨ho.acceptable, ho.identity, hid.trans ho.listIdentity, hi.trans ho.interval,
      ho.sourced.register hl⟩

omit [AcceptableMasterList A] in
theorem Owned.taken (ho : b.Owned acceptable interval own) :
    ({ b with foreignMasterList := b.foreignMasterList.takeQualifiedAnnounceMessages.2 } :
      Bmca A).Owned acceptable interval own :=
  ⟨ho.acceptable, ho.identity, ho.listIdentity, ho.interval, ho.sourced.take⟩

theorem Owned.take {best : Option BestAnnounceMessage} (ho : b.Owned acceptable interval own)
    (h : b.takeBestPortAnnounceMessage p = .ok (best, b')) : b'.Owned acceptable interval own := by
  obtain ⟨-, ⟨-, rfl⟩ | ⟨m, -, hm⟩⟩ := takeBest_cases h
  · exact ho.taken
  · exact ho.taken.reregister hm

omit [AcceptableMasterList A] in
theorem Owned.stepAge {step : Duration} (ho : b.Owned acceptable interval own)
    (h : b.stepAge p step = .ok b') : b'.Owned acceptable interval own := by
  obtain ⟨l, hl, h⟩ := bind_eq_ok.mp h
  obtain rfl := Except.ok.inj h
  obtain ⟨hi, hid⟩ := ForeignMasterList.stepAge_own hl
  exact ⟨ho.acceptable, ho.identity, hid.trans ho.listIdentity, hi.trans ho.interval,
    ho.sourced.stepAge hl⟩

theorem Owned.registerAll : ∀ (calls : List (Header × AnnounceMessage)) {b b' : Bmca A},
    b.Owned acceptable interval own → b.registerAll p calls = .ok b' →
      b'.Owned acceptable interval own := by
  intro calls
  induction calls with
  | nil =>
    intro b b' ho h
    obtain rfl := Except.ok.inj h
    exact ho
  | cons c calls ih =>
    intro b b' ho h
    obtain ⟨⟨b₁, stored⟩, hb₁, h⟩ := bind_eq_ok.mp h
    exact ih (ho.reregister (register_reregister hb₁)) h

theorem Reached.owned (h : Reached p acceptable interval own b) :
    b.Owned acceptable interval own := by
  induction h with
  | new => exact ⟨rfl, rfl, rfl, rfl, fun fm hfm => absurd hfm List.not_mem_nil⟩
  | register _ hb ih => exact ih.reregister (register_reregister hb)
  | take _ hb ih => exact ih.take hb
  | stepAge _ hb ih => exact ih.stepAge hb

end Owned

/-! ### One master among the candidates -/

section Candidates

variable {acceptable : A} {interval : TimeInterval} {own identity : PortIdentity} {b b' : Bmca A}

theorem accepts_eq (ho : b.Owned acceptable interval own) {a : AnnounceMessage}
    (hclock : a.header.sourcePortIdentity.clockIdentity ≠ own.clockIdentity)
    (hacc : AcceptableMasterList.isAcceptable acceptable
      a.header.sourcePortIdentity.clockIdentity = true) : b.accepts a = true := by
  have hne : a.header.sourcePortIdentity ≠ b.ownPortIdentity := by
    intro he
    rw [he, ho.identity] at hclock
    exact hclock rfl
  rw [accepts, decide_eq_true hne, ho.acceptable, hacc]
  rfl

theorem recordsOf_reregister_other {header : Header} {a : AnnounceMessage} {age : Duration}
    (hne : a.header.sourcePortIdentity ≠ identity)
    (h : b.reregisterAnnounceMessage p header a age = .ok b') :
    b'.foreignMasterList.recordsOf identity = b.foreignMasterList.recordsOf identity := by
  rcases reregister_cases h with ⟨-, rfl⟩ | ⟨-, l, rfl, hl⟩
  · rfl
  · exact ForeignMasterList.recordsOf_register_other hne hl

theorem recordsOf_registerAll_other : ∀ (calls : List (Header × AnnounceMessage)) {b b' : Bmca A},
    (∀ c ∈ calls, c.2.header.sourcePortIdentity ≠ identity) → b.registerAll p calls = .ok b' →
      b'.foreignMasterList.recordsOf identity = b.foreignMasterList.recordsOf identity := by
  intro calls
  induction calls with
  | nil =>
    intro b b' _ h
    obtain rfl := Except.ok.inj h
    rfl
  | cons c calls ih =>
    intro b b' hne h
    obtain ⟨⟨b₁, stored⟩, hb₁, h⟩ := bind_eq_ok.mp h
    rw [ih (fun c hc => hne c (List.mem_cons_of_mem _ hc)) h]
    exact recordsOf_reregister_other (hne c List.mem_cons_self) (register_reregister hb₁)

theorem registerAll_append : ∀ (calls calls' : List (Header × AnnounceMessage)) {b b' : Bmca A},
    b.registerAll p (calls ++ calls') = .ok b' →
      ∃ b₁, b.registerAll p calls = .ok b₁ ∧ b₁.registerAll p calls' = .ok b' := by
  intro calls
  induction calls with
  | nil => intro calls' b b' h; exact ⟨b, rfl, h⟩
  | cons c calls ih =>
    intro calls' b b' h
    obtain ⟨⟨b₁, stored⟩, hb₁, h⟩ := bind_eq_ok.mp h
    obtain ⟨b₂, hb₂, h⟩ := ih calls' h
    refine ⟨b₂, ?_, h⟩
    rw [registerAll, hb₁]
    exact hb₂

/-- A round with one message of the master, seen from its record. -/
theorem registerAll_one {calls : List (Header × AnnounceMessage)} {header : Header}
    {a : AnnounceMessage}
    (hone : calls.filter (fun c => decide (c.2.header.sourcePortIdentity = identity))
      = [(header, a)]) (ho : b.Owned acceptable interval own) (h : b.registerAll p calls = .ok b') :
    ∃ (b₁ b₂ : Bmca A) (stored : Bool), b₁.Owned acceptable interval own ∧
      b₁.foreignMasterList.recordsOf identity = b.foreignMasterList.recordsOf identity ∧
      b₁.registerAnnounceMessage p header a = .ok (b₂, stored) ∧
      b'.foreignMasterList.recordsOf identity = b₂.foreignMasterList.recordsOf identity := by
  obtain ⟨before, after, rfl, hbefore, -, hafter⟩ := List.filter_eq_cons_iff.mp hone
  obtain ⟨b₁, hb₁, h⟩ := registerAll_append _ _ h
  obtain ⟨⟨b₂, stored⟩, hb₂, h⟩ := bind_eq_ok.mp h
  refine ⟨b₁, b₂, stored, ho.registerAll _ hb₁, ?_, hb₂, ?_⟩
  · exact recordsOf_registerAll_other before (fun c hc => by simpa using hbefore c hc) hb₁
  · refine recordsOf_registerAll_other after (fun c hc hsrc => ?_) h
    exact (List.filter_eq_nil_iff.mp hafter) c hc (decide_eq_true hsrc)

omit [AcceptableMasterList A] in
/-- A message of the master is compared when it is the newest of two or more. -/
theorem mem_candidates (ho : b.Owned acceptable interval own) {a : AnnounceMessage}
    (ha : a.header.sourcePortIdentity = identity) :
    a ∈ b.candidates.map (·.message) ↔ ∃ fm ∈ b.foreignMasterList.recordsOf identity,
      foreignMasterThreshold ≤ fm.announceMessages.toList.length ∧
        ∃ m, fm.announceMessages.toList.getLast? = some m ∧ m.message = a := by
  constructor
  · intro h
    rw [candidates, List.map_map] at h
    obtain ⟨m, hm, rfl⟩ := List.mem_map.mp h
    obtain ⟨fm, hfm, hlen, hlast⟩ := ForeignMasterList.mem_takeQualifiedAnnounceMessages.mp hm
    have hsrc := ho.sourced fm hfm m (List.mem_of_getLast? hlast)
    exact ⟨fm, ForeignMasterList.mem_recordsOf.mpr ⟨hfm, hsrc.symm.trans ha⟩, hlen, m, hlast, rfl⟩
  · rintro ⟨fm, hfm, hlen, m, hlast, rfl⟩
    rw [candidates, List.map_map]
    refine List.mem_map.mpr ⟨m, ?_, rfl⟩
    exact ForeignMasterList.mem_takeQualifiedAnnounceMessages.mpr
      ⟨fm, (ForeignMasterList.mem_recordsOf.mp hfm).1, hlen, hlast⟩

end Candidates

/-! ### Which messages are left -/

/-- The rounds before `r` whose messages are left in the record: of the last three, the first
round of all and those that were won. -/
def keptRounds (won : Nat → Bool) (r : Nat) : List Nat :=
  (List.range r).filter fun j => decide (r ≤ j + 3) && (decide (j = 0) || won j)

theorem mem_keptRounds {won : Nat → Bool} {r j : Nat} :
    j ∈ keptRounds won r ↔ j < r ∧ r ≤ j + 3 ∧ (j = 0 ∨ won j = true) := by
  simp [keptRounds]

theorem length_keptRounds (won : Nat → Bool) (r : Nat) : (keptRounds won r).length ≤ 3 := by
  have hnodup : (keptRounds won r).Nodup := List.nodup_range.filter _
  have hsub : (keptRounds won r).toFinset ⊆ Finset.Ico (r - 3) r := by
    intro j hj
    have hj := mem_keptRounds.mp (List.mem_toFinset.mp hj)
    rw [Finset.mem_Ico]
    omega
  have hcard := Finset.card_le_card hsub
  rw [List.toFinset_card_of_nodup hnodup, Nat.card_Ico] at hcard
  omega

/-- One round adds itself when it is the first or won, and the oldest of the four goes. -/
theorem keptRounds_succ (won : Nat → Bool) (r : Nat) :
    keptRounds won (r + 1) =
      (keptRounds won r ++ if r = 0 ∨ won r = true then [r] else []).filter
        (fun j => decide (r + 1 ≤ j + 3)) := by
  rw [List.filter_append, keptRounds, List.range_succ, List.filter_append, keptRounds,
    List.filter_filter]
  congr 1
  · apply List.filter_congr
    intro j hj
    have := List.mem_range.mp hj
    by_cases h : r + 1 ≤ j + 3
    · simp [h, show r ≤ j + 3 by omega]
    · simp [h]
  · by_cases h : r = 0 ∨ won r = true
    · rw [if_pos h]
      simp [h]
    · rw [if_neg h]
      have h0 : r ≠ 0 := fun he => h (Or.inl he)
      have hw : won r = false := by simpa using fun he => h (Or.inr he)
      simp [h0, hw]

theorem keptRounds_ne_nil {won : Nat → Bool} {r : Nat} (hr : 1 ≤ r) :
    keptRounds won r ≠ [] ↔ r ≤ 3 ∨ ∃ j, j < r ∧ r ≤ j + 3 ∧ won j = true := by
  constructor
  · intro h
    obtain ⟨j, hj⟩ := List.exists_mem_of_ne_nil _ h
    obtain ⟨hlt, hle, rfl | hwon⟩ := mem_keptRounds.mp hj
    · exact Or.inl (by omega)
    · exact Or.inr ⟨j, hlt, hle, hwon⟩
  · rintro (hle | ⟨j, hlt, hle, hwon⟩)
    · exact List.ne_nil_of_mem (mem_keptRounds.mpr ⟨hr, by omega, Or.inl rfl⟩)
    · exact List.ne_nil_of_mem (mem_keptRounds.mpr ⟨hlt, hle, Or.inr hwon⟩)

/-! ### Ages in a record -/

/-- The age of a message after `k` rounds. -/
def ageAfter (interval : TimeInterval) (k : Nat) : Duration :=
  ⟨⟨BitVec.ofInt 128 (k * (Duration.ofTimeInterval interval).toInt)⟩⟩

theorem intervals_range (interval : TimeInterval) {k : Nat} (hk : k ≤ 4) :
    -2 ^ 127 ≤ k * (Duration.ofTimeInterval interval).toInt ∧
      k * (Duration.ofTimeInterval interval).toInt < 2 ^ 127 := by
  have hrange := interval.toInt_range
  rw [Duration.toInt_ofTimeInterval]
  interval_cases k <;> constructor <;> omega

theorem toInt_ageAfter (interval : TimeInterval) {k : Nat} (hk : k ≤ 4) :
    (ageAfter interval k).toInt = k * (Duration.ofTimeInterval interval).toInt := by
  apply IFixed.toInt_ofInt (by decide)
  exact decide_eq_true (intervals_range interval hk)

theorem ageAfter_zero (interval : TimeInterval) : ageAfter interval 0 = Duration.zero := by
  apply Duration.ext_toInt
  rw [toInt_ageAfter interval (by decide), Duration.toInt_zero, Nat.cast_zero, Int.zero_mul]

theorem ageAfter_add (p : Profile) (interval : TimeInterval) {k : Nat} (hk : k ≤ 3) :
    (ageAfter interval k).add p (Duration.ofTimeInterval interval)
      = .ok (ageAfter interval (k + 1)) := by
  have hsum : (ageAfter interval k).toInt + (Duration.ofTimeInterval interval).toInt
      = (k + 1 : Nat) * (Duration.ofTimeInterval interval).toInt := by
    rw [toInt_ageAfter interval (by omega)]
    push_cast
    ring
  have hbound := intervals_range interval (show k + 1 ≤ 4 by omega)
  obtain ⟨d, hd, hint⟩ := Duration.add_spec p (by rw [hsum]; exact hbound.1)
    (by rw [hsum]; exact hbound.2)
  rw [hd]
  congr 1
  apply Duration.ext_toInt
  rw [hint, hsum, toInt_ageAfter interval (by omega)]

/-- The entry that the message of round `j` has in the record at the start of round `r`. -/
def entry (x : Nat → AnnounceMessage) (interval : TimeInterval) (r j : Nat) :
    ForeignAnnounceMessage where
  header := (x j).header
  message := x j
  age := ageAfter interval (r - j)

theorem isYoung_entry {x : Nat → AnnounceMessage} {interval : TimeInterval} {r j : Nat}
    (hpos : 0 < interval.toInt) (hj : r ≤ j + 4) :
    (entry x interval r j).isYoung interval = decide (r ≤ j + 3) := by
  have hstep : 0 < (Duration.ofTimeInterval interval).toInt := by
    rw [Duration.toInt_ofTimeInterval]
    omega
  rw [ForeignAnnounceMessage.isYoung, entry, toInt_ageAfter interval (by omega),
    foreignMasterTimeWindow, Int.mul_comm]
  apply decide_eq_decide.mpr
  constructor
  · intro h
    have := Int.lt_of_mul_lt_mul_left h (Int.le_of_lt hstep)
    omega
  · intro h
    exact Int.mul_lt_mul_of_pos_left (by omega) hstep

theorem ageAll_entry (p : Profile) (x : Nat → AnnounceMessage) (interval : TimeInterval) (r : Nat) :
    ∀ js : List Nat, (∀ j ∈ js, j ≤ r ∧ r ≤ j + 3) →
      ForeignMaster.ageAll p (Duration.ofTimeInterval interval) (js.map (entry x interval r)) =
        .ok (js.map (entry x interval (r + 1))) := by
  intro js
  induction js with
  | nil => intro _; rfl
  | cons j js ih =>
    intro hjs
    obtain ⟨hj, hj3⟩ := hjs j List.mem_cons_self
    have hage := ageAfter_add p interval (k := r - j) (by omega)
    rw [List.map_cons, ForeignMaster.ageAll, ih (fun k hk => hjs k (List.mem_cons_of_mem _ hk))]
    simp only [entry] at hage ⊢
    rw [hage, ok_bind, ok_bind, pure_eq_ok, List.map_cons, show r - j + 1 = r + 1 - j by omega]
    rfl

/-! ### One master through the rounds -/

/-- A master that delivers exactly one announce message in each of `n` rounds, each with the
next sequence id. -/
structure Delivers (identity : PortIdentity) (x : Nat → AnnounceMessage)
    (calls : Nat → List (Header × AnnounceMessage)) (n : Nat) : Prop where
  one : ∀ r < n, (calls r).filter (fun c => decide (c.2.header.sourcePortIdentity = identity))
    = [((x r).header, x r)]
  next : ∀ r, r + 1 < n → (x (r + 1)).header.sequenceId = (x r).header.sequenceId + 1
  steps : ∀ r < n, (x r).stepsRemoved < 255

namespace Delivers

variable {identity : PortIdentity} {x : Nat → AnnounceMessage}
  {calls : Nat → List (Header × AnnounceMessage)} {n : Nat}

theorem source (hx : Delivers identity x calls n) {r : Nat} (hr : r < n) :
    (x r).header.sourcePortIdentity = identity := by
  have hmem : ((x r).header, x r) ∈ (calls r).filter
      (fun c => decide (c.2.header.sourcePortIdentity = identity)) := by
    rw [hx.one r hr]
    exact List.mem_singleton_self _
  exact of_decide_eq_true (List.mem_filter.mp hmem).2

theorem sequenceId (hx : Delivers identity x calls n) : ∀ (k j : Nat), j + k < n →
    (x (j + k)).header.sequenceId = (x j).header.sequenceId + UInt16.ofNat k := by
  intro k
  induction k with
  | zero => intro j _; simp
  | succ k ih =>
    intro j hj
    have hsucc : UInt16.ofNat (k + 1) = UInt16.ofNat k + 1 := by
      apply UInt16.toNat_inj.mp
      simp
    rw [← Nat.add_assoc, hx.next (j + k) hj, ih j (by omega), hsucc, UInt16.add_assoc]

/-- A message is newer than those of the three rounds before. -/
theorem newer (hx : Delivers identity x calls n) {r j : Nat} (hr : r < n) (hj : j < r)
    (hj3 : r ≤ j + 3) : (x r).header.sequenceId - (x j).header.sequenceId < 32767 := by
  obtain ⟨k, rfl⟩ : ∃ k, r = j + k := ⟨r - j, by omega⟩
  rw [hx.sequenceId k j hr, UInt16.add_comm, UInt16.add_sub_cancel]
  have hk : k ≤ 3 := by omega
  interval_cases k <;> decide

end Delivers

section Record

variable {acceptable : A} {interval : TimeInterval} {own identity : PortIdentity} {b b' : Bmca A}
  {x : Nat → AnnounceMessage} {calls : Nat → List (Header × AnnounceMessage)} {n r : Nat}
  {js : List Nat}

/-- The record of the master at the start of round `r` holds the messages of the rounds `js`. -/
def Describes (x : Nat → AnnounceMessage) (interval : TimeInterval) (identity : PortIdentity)
    (r : Nat) (js : List Nat) (b : Bmca A) : Prop :=
  (js = [] ∧ b.foreignMasterList.recordsOf identity = []) ∨
    ∃ fm, b.foreignMasterList.recordsOf identity = [fm] ∧
      fm.announceMessages.toList = js.map (entry x interval r) ∧ js ≠ []

omit [AcceptableMasterList A] in
/-- The next message of the master is qualified. -/
theorem qualified_of_record (ho : b.Owned acceptable interval own)
    (hclock : identity.clockIdentity ≠ own.clockIdentity) (hx : Delivers identity x calls n)
    (hr : r < n) {fm : ForeignMaster} (hfm : b.foreignMasterList.recordsOf identity = [fm])
    (hms : fm.announceMessages.toList = js.map (entry x interval r))
    (hjs : ∀ j ∈ js, j < r ∧ r ≤ j + 3) :
    b.foreignMasterList.isAnnounceMessageQualified (x r) = true := by
  rw [ForeignMasterList.isAnnounceMessageQualified_iff, hx.source hr, ho.listIdentity, hfm]
  refine ⟨hclock, ?_, hx.steps r hr⟩
  intro fm' last hfm' hlast
  obtain rfl := Option.some.inj hfm'
  rw [hms] at hlast
  obtain ⟨j, hj, rfl⟩ := List.mem_map.mp (List.mem_of_getLast? hlast)
  exact hx.newer hr (hjs j hj).1 (hjs j hj).2

/-- A record of young messages with one more added. -/
theorem withMessage_entries (hpos : 0 < interval.toInt) {fm : ForeignMaster}
    (hms : fm.announceMessages.toList = js.map (entry x interval r))
    (hjs : ∀ j ∈ js, j < r ∧ r ≤ j + 3) (hlen : js.length ≤ 3) (m : ForeignAnnounceMessage) :
    (ForeignMasterList.withMessage interval fm m).announceMessages.toList =
      js.map (entry x interval r) ++ [m] := by
  have hyoung : (fm.announceMessages.retain (·.isYoung interval)).toList
      = js.map (entry x interval r) := by
    rw [ArrayVec.toList_retain, hms, List.filter_eq_self]
    intro m hm
    obtain ⟨j, hj, rfl⟩ := List.mem_map.mp hm
    rw [isYoung_entry hpos (by have := (hjs j hj).2; omega)]
    exact decide_eq_true (hjs j hj).2
  rw [ForeignMasterList.withMessage, ArrayVec.toList_pushEvict_of_lt, hyoung]
  rw [hyoung, List.length_map]
  omega

/-- The message of a round is added to the record of the master. -/
theorem reregister_record (ho : b.Owned acceptable interval own)
    (hclock : identity.clockIdentity ≠ own.clockIdentity)
    (hacc : AcceptableMasterList.isAcceptable acceptable identity.clockIdentity = true)
    (hpos : 0 < interval.toInt) (hx : Delivers identity x calls n) (hr : r < n)
    {fm : ForeignMaster} (hfm : b.foreignMasterList.recordsOf identity = [fm])
    (hms : fm.announceMessages.toList = js.map (entry x interval r))
    (hjs : ∀ j ∈ js, j < r ∧ r ≤ j + 3) (hlen : js.length ≤ 3) {header : Header} {age : Duration}
    (h : b.reregisterAnnounceMessage p header (x r) age = .ok b') :
    ∃ fm', b'.foreignMasterList.recordsOf identity = [fm'] ∧
      fm'.announceMessages.toList = js.map (entry x interval r) ++ [⟨header, x r, age⟩] := by
  have hsource := hx.source hr
  have haccepts : b.accepts (x r) = true :=
    accepts_eq ho (by rw [hsource]; exact hclock) (by rw [hsource]; exact hacc)
  have hq := qualified_of_record ho hclock hx hr hfm hms hjs
  rcases reregister_cases h with ⟨hno, -⟩ | ⟨-, l, rfl, hl⟩
  · rw [haccepts] at hno
    cases hno
  · have hsame := ForeignMasterList.recordsOf_register_same (by rw [hsource, hfm]) hq hl
    rw [hsource, ho.interval] at hsame
    exact ⟨_, hsame, withMessage_entries hpos hms hjs hlen _⟩

/-- Registering the messages of a round adds the master's message to its record. -/
theorem registerAll_record (ho : b.Owned acceptable interval own)
    (hclock : identity.clockIdentity ≠ own.clockIdentity)
    (hacc : AcceptableMasterList.isAcceptable acceptable identity.clockIdentity = true)
    (hpos : 0 < interval.toInt) (hx : Delivers identity x calls n) (hr : r < n)
    {fm : ForeignMaster} (hfm : b.foreignMasterList.recordsOf identity = [fm])
    (hms : fm.announceMessages.toList = js.map (entry x interval r))
    (hjs : ∀ j ∈ js, j < r ∧ r ≤ j + 3) (hlen : js.length ≤ 3)
    (h : b.registerAll p (calls r) = .ok b') :
    ∃ fm', b'.foreignMasterList.recordsOf identity = [fm'] ∧
      fm'.announceMessages.toList = js.map (entry x interval r) ++ [entry x interval r r] := by
  obtain ⟨b₁, b₂, stored, ho₁, hrec₁, hreg, hrec₂⟩ := registerAll_one (hx.one r hr) ho h
  obtain ⟨fm', hsame, hentries⟩ := reregister_record ho₁ hclock hacc hpos hx hr (hrec₁.trans hfm) hms
    hjs hlen (register_reregister hreg)
  refine ⟨fm', hrec₂.trans hsame, ?_⟩
  rw [hentries, entry, Nat.sub_self, ageAfter_zero]

omit [AcceptableMasterList A] in
/-- The one message of the master among the candidates is the newest of its record. -/
theorem candidate_of_source (ho : b.Owned acceptable interval own) {fm : ForeignMaster}
    (hfm : b.foreignMasterList.recordsOf identity = [fm]) {best : BestAnnounceMessage}
    (hbest : best ∈ b.candidates) (hsource : best.message.header.sourcePortIdentity = identity) :
    foreignMasterThreshold ≤ fm.announceMessages.toList.length ∧
      ∃ m, fm.announceMessages.toList.getLast? = some m ∧ best = b.toBest m := by
  obtain ⟨m, hm, rfl⟩ := List.mem_map.mp hbest
  obtain ⟨fm', hfm', hlen, hlast⟩ := ForeignMasterList.mem_takeQualifiedAnnounceMessages.mp hm
  have hid := ho.sourced fm' hfm' m (List.mem_of_getLast? hlast)
  have hmem : fm' ∈ b.foreignMasterList.recordsOf identity :=
    ForeignMasterList.mem_recordsOf.mpr ⟨hfm', hid.symm.trans hsource⟩
  rw [hfm, List.mem_singleton] at hmem
  subst hmem
  exact ⟨hlen, m, hlast, rfl⟩

/-- A record that is not compared stays, whoever wins. -/
theorem take_record_unqualified (ho : b.Owned acceptable interval own) {fm : ForeignMaster}
    (hfm : b.foreignMasterList.recordsOf identity = [fm])
    (hnot : ForeignMasterList.isQualified fm = false) {best : Option BestAnnounceMessage}
    (h : b.takeBestPortAnnounceMessage p = .ok (best, b')) :
    b'.foreignMasterList.recordsOf identity = [fm] := by
  obtain ⟨hfind, hcases⟩ := takeBest_cases h
  have hrecords := ForeignMasterList.recordsOf_take b.foreignMasterList identity
  rw [hfm, List.map_singleton, ForeignMasterList.taken, hnot] at hrecords
  rcases hcases with ⟨-, rfl⟩ | ⟨m, rfl, hm⟩
  · exact hrecords
  · refine (recordsOf_reregister_other ?_ hm).trans hrecords
    intro hsource
    have hlong := (candidate_of_source ho hfm (maxBy_mem hfind) hsource).1
    exact of_decide_eq_false hnot hlong

/-- A record that is compared loses its newest message, unless that is the best one. -/
theorem take_record_qualified (ho : b.Owned acceptable interval own)
    (hclock : identity.clockIdentity ≠ own.clockIdentity)
    (hacc : AcceptableMasterList.isAcceptable acceptable identity.clockIdentity = true)
    (hpos : 0 < interval.toInt) (hx : Delivers identity x calls n) (hr : r < n)
    {fm : ForeignMaster} (hfm : b.foreignMasterList.recordsOf identity = [fm])
    (hms : fm.announceMessages.toList = js.map (entry x interval r) ++ [entry x interval r r])
    (hqualified : ForeignMasterList.isQualified fm = true)
    (hjs : ∀ j ∈ js, j < r ∧ r ≤ j + 3) (hlen : js.length ≤ 3)
    {best : Option BestAnnounceMessage}
    (h : b.takeBestPortAnnounceMessage p = .ok (best, b')) :
    ∃ fm', b'.foreignMasterList.recordsOf identity = [fm'] ∧
      fm'.announceMessages.toList =
        (js ++ if b.wins p identity = true then [r] else []).map (entry x interval r) := by
  obtain ⟨hfind, hcases⟩ := takeBest_cases h
  have hrecords := ForeignMasterList.recordsOf_take b.foreignMasterList identity
  rw [hfm, List.map_singleton] at hrecords
  have htaken : (ForeignMasterList.taken fm).announceMessages.toList
      = js.map (entry x interval r) := by
    rw [ForeignMasterList.taken, hqualified, if_pos rfl, ArrayVec.toList_dropLast, hms,
      List.dropLast_concat]
  have hlast : fm.announceMessages.toList.getLast? = some (entry x interval r r) := by
    rw [hms, List.getLast?_concat]
  rcases hcases with ⟨rfl, rfl⟩ | ⟨m, rfl, hm⟩
  · -- its message is compared, so some message is the best
    have hcand : x r ∈ b.candidates.map (·.message) := by
      refine (mem_candidates ho (hx.source hr)).mpr ⟨fm, ?_, of_decide_eq_true hqualified,
        entry x interval r r, hlast, rfl⟩
      rw [hfm]
      exact List.mem_singleton_self _
    rw [maxBy_eq_none hfind] at hcand
    cases hcand
  · by_cases hsource : m.message.header.sourcePortIdentity = identity
    · have hwins : b.wins p identity = true := by
        rw [wins, hfind]
        exact decide_eq_true hsource
      obtain ⟨-, k, hk, rfl⟩ := candidate_of_source ho hfm (maxBy_mem hfind) hsource
      obtain rfl := Option.some.inj (hlast.symm.trans hk)
      obtain ⟨fm', hsame, hentries⟩ := reregister_record ho.taken hclock hacc hpos hx hr hrecords
        htaken hjs hlen hm
      refine ⟨fm', hsame, ?_⟩
      rw [hentries, if_pos hwins, List.map_append]
      rfl
    · have hwins : b.wins p identity = false := by
        rw [wins, hfind]
        exact decide_eq_false hsource
      refine ⟨ForeignMasterList.taken fm, (recordsOf_reregister_other hsource hm).trans hrecords,
        ?_⟩
      rw [htaken, hwins, if_neg Bool.false_ne_true, List.append_nil]

/-- **Taking the best message**: the master's newest message stays in its record when it won,
or when it was alone there and so not compared. -/
theorem take_record (ho : b.Owned acceptable interval own)
    (hclock : identity.clockIdentity ≠ own.clockIdentity)
    (hacc : AcceptableMasterList.isAcceptable acceptable identity.clockIdentity = true)
    (hpos : 0 < interval.toInt) (hx : Delivers identity x calls n) (hr : r < n)
    {fm : ForeignMaster} (hfm : b.foreignMasterList.recordsOf identity = [fm])
    (hms : fm.announceMessages.toList = js.map (entry x interval r) ++ [entry x interval r r])
    (hjs : ∀ j ∈ js, j < r ∧ r ≤ j + 3) (hlen : js.length ≤ 3)
    {best : Option BestAnnounceMessage}
    (h : b.takeBestPortAnnounceMessage p = .ok (best, b')) :
    ∃ fm', b'.foreignMasterList.recordsOf identity = [fm'] ∧
      fm'.announceMessages.toList =
        (js ++ if js = [] ∨ b.wins p identity = true then [r] else []).map (entry x interval r) := by
  by_cases hnil : js = []
  · -- alone in its record: not compared
    subst hnil
    have hnot : ForeignMasterList.isQualified fm = false := by
      rw [ForeignMasterList.isQualified, hms]
      rfl
    refine ⟨fm, take_record_unqualified ho hfm hnot h, ?_⟩
    rw [hms, if_pos (Or.inl rfl)]
    rfl
  · have hqualified : ForeignMasterList.isQualified fm = true := by
      rw [ForeignMasterList.isQualified, hms]
      have : 0 < js.length := List.length_pos_iff.mpr hnil
      simp [foreignMasterThreshold]
      omega
    simp only [hnil, false_or]
    exact take_record_qualified ho hclock hacc hpos hx hr hfm hms hqualified hjs hlen h

omit [AcceptableMasterList A] in
/-- **Ageing**: the messages that become four intervals old go. -/
theorem stepAge_record (ho : b.Owned acceptable interval own) (hpos : 0 < interval.toInt)
    {fm : ForeignMaster} (hfm : b.foreignMasterList.recordsOf identity = [fm])
    (hms : fm.announceMessages.toList = js.map (entry x interval r))
    (hjs : ∀ j ∈ js, j ≤ r ∧ r ≤ j + 3)
    (h : b.stepAge p (Duration.ofTimeInterval interval) = .ok b') :
    Describes x interval identity (r + 1) (js.filter fun j => decide (r + 1 ≤ j + 3)) b' := by
  obtain ⟨l, hl, h⟩ := bind_eq_ok.mp h
  obtain rfl := Except.ok.inj h
  obtain ⟨fm', ms, hage, hlist, hrec⟩ := ForeignMasterList.recordsOf_stepAge_singleton hfm hl
  rw [ho.interval] at hlist
  rw [hms, ageAll_entry p x interval r js hjs] at hage
  obtain rfl := Except.ok.inj hage
  have hentries : fm'.announceMessages.toList =
      (js.filter fun j => decide (r + 1 ≤ j + 3)).map (entry x interval (r + 1)) := by
    rw [hlist, List.filter_map]
    congr 1
    apply List.filter_congr
    intro j hj
    have := hjs j hj
    exact isYoung_entry hpos (by omega)
  split at hrec
  · rename_i hempty
    refine Or.inl ⟨?_, hrec⟩
    rw [hentries] at hempty
    exact List.map_eq_nil_iff.mp (List.isEmpty_iff.mp hempty)
  · rename_i hempty
    refine Or.inr ⟨fm', hrec, hentries, ?_⟩
    intro hnil
    rw [hentries, hnil] at hempty
    exact hempty rfl

omit [AcceptableMasterList A] in
/-- With an interval that is not positive no message survives the round. -/
theorem stepAge_record_of_nonpos (ho : b.Owned acceptable interval own)
    (hneg : interval.toInt ≤ 0) {fm : ForeignMaster}
    (hfm : b.foreignMasterList.recordsOf identity = [fm])
    (hms : fm.announceMessages.toList = [entry x interval r r])
    (h : b.stepAge p (Duration.ofTimeInterval interval) = .ok b') :
    b'.foreignMasterList.recordsOf identity = [] := by
  obtain ⟨l, hl, h⟩ := bind_eq_ok.mp h
  obtain rfl := Except.ok.inj h
  obtain ⟨fm', ms, hage, hlist, hrec⟩ := ForeignMasterList.recordsOf_stepAge_singleton hfm hl
  rw [ho.interval] at hlist
  have hentries := ageAll_entry p x interval r [r] (fun j hj => by
    rw [List.mem_singleton] at hj
    omega)
  rw [List.map_singleton, List.map_singleton] at hentries
  rw [hms, hentries] at hage
  obtain rfl := Except.ok.inj hage
  have hold : (entry x interval (r + 1) r).isYoung interval = false := by
    rw [ForeignAnnounceMessage.isYoung, entry, show r + 1 - r = 1 by omega,
      toInt_ageAfter interval (by decide), foreignMasterTimeWindow, Duration.toInt_ofTimeInterval]
    refine decide_eq_false ?_
    push_cast
    omega
  have hempty : fm'.announceMessages.toList.isEmpty = true := by
    rw [hlist, List.filter_singleton, hold]
    rfl
  rwa [if_pos hempty] at hrec

end Record

/-! ### Runs -/

/-- A run of `n` rounds: `start r` is the state before round `r`, `mid r` the one after its
messages were registered. -/
structure Run (p : Profile) (calls : Nat → List (Header × AnnounceMessage)) (n : Nat)
    (start mid : Nat → Bmca A) : Prop where
  register : ∀ r < n, (start r).registerAll p (calls r) = .ok (mid r)
  finish : ∀ r < n, (mid r).endRound p = .ok (start (r + 1))

/-- The run of a master that is new to the list, may be accepted and found room in its first
round. -/
structure Regular (p : Profile) (acceptable : A) (interval : TimeInterval)
    (own identity : PortIdentity) (x : Nat → AnnounceMessage)
    (calls : Nat → List (Header × AnnounceMessage)) (n : Nat) (start mid : Nat → Bmca A) : Prop
    where
  run : Run p calls n start mid
  reached : Reached p acceptable interval own (start 0)
  foreign : identity.clockIdentity ≠ own.clockIdentity
  isAcceptable : AcceptableMasterList.isAcceptable acceptable identity.clockIdentity = true
  delivers : Delivers identity x calls n
  isNew : (start 0).foreignMasterList.recordsOf identity = []
  foundRoom : 0 < n → (mid 0).foreignMasterList.recordsOf identity ≠ []

namespace Regular

variable {acceptable : A} {interval : TimeInterval} {own identity : PortIdentity}
  {x : Nat → AnnounceMessage} {calls : Nat → List (Header × AnnounceMessage)} {n : Nat}
  {start mid : Nat → Bmca A}

theorem owned (h : Regular p acceptable interval own identity x calls n start mid) :
    ∀ r, r ≤ n → (start r).Owned acceptable interval own := by
  intro r
  induction r with
  | zero => intro _; exact h.reached.owned
  | succ r ih =>
    intro hr
    have hmid := (ih (by omega)).registerAll _ (h.run.register r hr)
    obtain ⟨⟨best, b⟩, hb, hstep⟩ := bind_eq_ok.mp (h.run.finish r hr)
    exact (hmid.take hb).stepAge hstep

theorem mid_owned (h : Regular p acceptable interval own identity x calls n start mid) {r : Nat}
    (hr : r < n) : (mid r).Owned acceptable interval own :=
  (h.owned r (by omega)).registerAll _ (h.run.register r hr)

/-- In the first round the record is the one message. -/
theorem mid_zero (h : Regular p acceptable interval own identity x calls n start mid)
    (hn : 0 < n) :
    ∃ fm, (mid 0).foreignMasterList.recordsOf identity = [fm] ∧
      fm.announceMessages.toList = [entry x interval 0 0] := by
  obtain ⟨b₁, b₂, stored, -, hrec₁, hreg, hrec₂⟩ :=
    registerAll_one (h.delivers.one 0 hn) (h.owned 0 (by omega)) (h.run.register 0 hn)
  have hsource := h.delivers.source hn
  have hroom := h.foundRoom hn
  rcases reregister_cases (register_reregister hreg) with ⟨-, rfl⟩ | ⟨-, l, rfl, hl⟩
  · exact absurd (hrec₂.trans (hrec₁.trans h.isNew)) hroom
  · have hnone : b₁.foreignMasterList.recordsOf (x 0).header.sourcePortIdentity = [] := by
      rw [hsource]
      exact hrec₁.trans h.isNew
    rcases ForeignMasterList.recordsOf_register_first hnone hl with hno | hnew
    · rw [hsource] at hno
      exact absurd (hrec₂.trans hno) hroom
    · rw [hsource] at hnew
      refine ⟨_, hrec₂.trans hnew, ?_⟩
      rw [entry, ageAfter_zero]
      rfl

/-- The record after the messages of a round were registered. -/
theorem mid_record (h : Regular p acceptable interval own identity x calls n start mid)
    (hpos : 0 < interval.toInt) {r : Nat} (hr : r < n) {js : List Nat}
    (hd : Describes x interval identity r js (start r)) (hjs : ∀ j ∈ js, j < r ∧ r ≤ j + 3)
    (hlen : js.length ≤ 3) (hne : r = 0 ∨ js ≠ []) :
    ∃ fm, (mid r).foreignMasterList.recordsOf identity = [fm] ∧
      fm.announceMessages.toList = js.map (entry x interval r) ++ [entry x interval r r] := by
  rcases hd with ⟨rfl, -⟩ | ⟨fm, hfm, hms, -⟩
  · obtain rfl := hne.resolve_right (fun h => h rfl)
    exact h.mid_zero hr
  · exact registerAll_record (h.owned r (by omega)) h.foreign h.isAcceptable hpos h.delivers hr
      hfm hms hjs hlen (h.run.register r hr)

/-- **One round**, for a record that is described. -/
theorem describes_succ (h : Regular p acceptable interval own identity x calls n start mid)
    (hpos : 0 < interval.toInt) {r : Nat} (hr : r < n) {won : Nat → Bool}
    (hwon : won r = (mid r).wins p identity)
    (hd : Describes x interval identity r (keptRounds won r) (start r))
    (hne : r = 0 ∨ keptRounds won r ≠ []) :
    Describes x interval identity (r + 1) (keptRounds won (r + 1)) (start (r + 1)) := by
  have hjs : ∀ j ∈ keptRounds won r, j < r ∧ r ≤ j + 3 := fun j hj =>
    ⟨(mem_keptRounds.mp hj).1, (mem_keptRounds.mp hj).2.1⟩
  obtain ⟨fm, hfm, hms⟩ := h.mid_record hpos hr hd hjs (length_keptRounds won r) hne
  obtain ⟨⟨best, b⟩, hb, hstep⟩ := bind_eq_ok.mp (h.run.finish r hr)
  obtain ⟨fm', hfm', hms'⟩ := take_record (h.mid_owned hr) h.foreign h.isAcceptable hpos
    h.delivers hr hfm hms hjs (length_keptRounds won r) hb
  have hfirst : keptRounds won r = [] ↔ r = 0 :=
    ⟨fun he => hne.resolve_right (fun h => h he), fun he => by subst he; rfl⟩
  simp only [hfirst, ← hwon] at hms'
  have hob := (h.mid_owned hr).take hb
  dsimp only at hstep
  rw [hob.interval] at hstep
  rw [keptRounds_succ]
  refine stepAge_record hob hpos hfm' hms' ?_ hstep
  intro j hj
  rcases List.mem_append.mp hj with hold | hnew
  · have := hjs j hold
    omega
  · have : j = r := by
      split at hnew
      · exact List.mem_singleton.mp hnew
      · cases hnew
    omega

/-- **The record of a regular master** holds the messages of the kept rounds, as long as it was
compared in all rounds before. -/
theorem describes (h : Regular p acceptable interval own identity x calls n start mid)
    (hpos : 0 < interval.toInt) : ∀ r, r ≤ n →
      (∀ r', 1 ≤ r' → r' < r → keptRounds (fun j => (mid j).wins p identity) r' ≠ []) →
      Describes x interval identity r (keptRounds (fun j => (mid j).wins p identity) r)
        (start r) := by
  intro r
  induction r with
  | zero => intro _ _; exact Or.inl ⟨rfl, h.isNew⟩
  | succ r ih =>
    intro hr hkept
    refine h.describes_succ hpos hr rfl
      (ih (by omega) fun r' h1 hlt => hkept r' h1 (by omega)) ?_
    by_cases h0 : r = 0
    · exact Or.inl h0
    · exact Or.inr (hkept r (by omega) (by omega))

/-- A master without a record is not compared in the round that makes one. -/
theorem not_candidate (h : Regular p acceptable interval own identity x calls n start mid)
    {r : Nat} (hr : r < n) (hnone : (start r).foreignMasterList.recordsOf identity = []) :
    x r ∉ (mid r).candidates.map (·.message) := by
  intro hmem
  have hsource := h.delivers.source hr
  obtain ⟨fm, hfm, hlen, -⟩ := (mem_candidates (h.mid_owned hr) hsource).mp hmem
  obtain ⟨b₁, b₂, stored, -, hrec₁, hreg, hrec₂⟩ := registerAll_one (h.delivers.one r hr)
    (h.owned r (by omega)) (h.run.register r hr)
  rw [hrec₂] at hfm
  rcases reregister_cases (register_reregister hreg) with ⟨-, rfl⟩ | ⟨-, l, rfl, hl⟩
  · rw [hrec₁, hnone] at hfm
    cases hfm
  · have hfirst := ForeignMasterList.recordsOf_register_first (by rw [hsource, hrec₁, hnone]) hl
    rw [hsource] at hfirst
    rcases hfirst with hno | hnew
    · rw [hno] at hfm
      cases hfm
    · rw [hnew, List.mem_singleton] at hfm
      subst hfm
      exact absurd hlen (show ¬ 2 ≤ 1 by decide)

/-- The master is compared when its record had a message before the round. -/
theorem candidate_iff_kept (h : Regular p acceptable interval own identity x calls n start mid)
    (hpos : 0 < interval.toInt) {r : Nat} (hr : r < n)
    (hkept : ∀ r', 1 ≤ r' → r' < r → keptRounds (fun j => (mid j).wins p identity) r' ≠ []) :
    x r ∈ (mid r).candidates.map (·.message) ↔
      keptRounds (fun j => (mid j).wins p identity) r ≠ [] := by
  have hd := h.describes hpos r (by omega) hkept
  constructor
  · intro hmem hnil
    rcases hd with ⟨-, hnone⟩ | ⟨-, -, -, hne⟩
    · exact h.not_candidate hr hnone hmem
    · exact hne hnil
  · intro hne
    have hjs : ∀ j ∈ keptRounds (fun j => (mid j).wins p identity) r, j < r ∧ r ≤ j + 3 :=
      fun j hj => ⟨(mem_keptRounds.mp hj).1, (mem_keptRounds.mp hj).2.1⟩
    obtain ⟨fm, hfm, hms⟩ := h.mid_record hpos hr hd hjs (length_keptRounds _ r) (Or.inr hne)
    refine (mem_candidates (h.mid_owned hr) (h.delivers.source hr)).mpr ⟨fm, ?_, ?_, ?_⟩
    · rw [hfm]
      exact List.mem_singleton_self _
    · have hlen : 0 < (keptRounds (fun j => (mid j).wins p identity) r).length :=
        List.length_pos_iff.mpr hne
      rw [hms, List.length_append, List.length_map, foreignMasterThreshold, List.length_singleton]
      omega
    · exact ⟨entry x interval r r, by rw [hms, List.getLast?_concat], rfl⟩

/-- With an interval that is not positive the first message is gone before the second comes. -/
theorem no_record_of_nonpos (h : Regular p acceptable interval own identity x calls n start mid)
    (hneg : interval.toInt ≤ 0) (hn : 0 < n) :
    (start 1).foreignMasterList.recordsOf identity = [] := by
  obtain ⟨fm, hfm, hms⟩ := h.mid_zero hn
  obtain ⟨⟨best, b⟩, hb, hstep⟩ := bind_eq_ok.mp (h.run.finish 0 hn)
  have hob := (h.mid_owned hn).take hb
  dsimp only at hstep
  rw [hob.interval] at hstep
  have hnotQualified : ForeignMasterList.isQualified fm = false := by
    rw [ForeignMasterList.isQualified, hms]
    rfl
  have hrecords := ForeignMasterList.recordsOf_take (mid 0).foreignMasterList identity
  rw [hfm, List.map_singleton, ForeignMasterList.taken, hnotQualified] at hrecords
  refine stepAge_record_of_nonpos hob hneg ?_ hms hstep
  obtain ⟨hfind, ⟨-, rfl⟩ | ⟨m, rfl, hm⟩⟩ := takeBest_cases hb
  · exact hrecords
  · refine (recordsOf_reregister_other ?_ hm).trans hrecords
    intro hsource
    have hlen := (candidate_of_source (h.mid_owned hn) hfm (maxBy_mem hfind) hsource).1
    rw [hms] at hlen
    exact absurd hlen (by simp [foreignMasterThreshold])

/-- **When a regular master stays a candidate.**  It is compared in every round from its second
on just when the announce interval is positive and it wins one of any three rounds in a row
that come before another round, its first one not counted. -/
theorem candidate_every_round_iff
    (h : Regular p acceptable interval own identity x calls n start mid) :
    (∀ r, 1 ≤ r → r < n → x r ∈ (mid r).candidates.map (·.message)) ↔
      (1 < n → 0 < interval.toInt) ∧
      ∀ r, 4 ≤ r → r < n → ∃ j, j < r ∧ r ≤ j + 3 ∧ (mid j).wins p identity = true := by
  constructor
  · intro hall
    have hpos : 1 < n → 0 < interval.toInt := by
      intro hn
      by_contra hneg
      have hnone := h.no_record_of_nonpos (by omega) (by omega)
      exact h.not_candidate hn hnone (hall 1 (Nat.le_refl 1) hn)
    refine ⟨hpos, ?_⟩
    have hkept : ∀ r, 1 ≤ r → r < n →
        keptRounds (fun j => (mid j).wins p identity) r ≠ [] := by
      intro r
      induction r using Nat.strong_induction_on with
      | _ r ih =>
        intro h1 hr
        exact (h.candidate_iff_kept (hpos (by omega)) hr
          fun r' hr' hlt => ih r' hlt hr' (by omega)).mp (hall r h1 hr)
    intro r h4 hr
    rcases (keptRounds_ne_nil (by omega)).mp (hkept r (by omega) hr) with hle | hwon
    · omega
    · exact hwon
  · rintro ⟨hpos, hwins⟩
    have hkept : ∀ r, 1 ≤ r → r < n →
        keptRounds (fun j => (mid j).wins p identity) r ≠ [] := by
      intro r h1 hr
      refine (keptRounds_ne_nil h1).mpr ?_
      by_cases h3 : r ≤ 3
      · exact Or.inl h3
      · exact Or.inr (hwins r (by omega) hr)
    intro r h1 hr
    exact (h.candidate_iff_kept (hpos (by omega)) hr
      fun r' hr' hlt => hkept r' hr' (by omega)).mpr (hkept r h1 hr)

end Regular

/-! ### A master that keeps losing -/

/-- An announce message of port 1 of a clock that is its own grandmaster. -/
def selfAnnounce (clock : UInt8) (priority1 : UInt8) (sequenceId : UInt16) : AnnounceMessage where
  header := { Header.new 1 with
    sourcePortIdentity := ⟨⟨Vector.replicate 8 clock⟩, 1⟩
    sequenceId }
  originTimestamp := default
  currentUtcOffset := 0
  grandmasterPriority1 := priority1
  grandmasterClockQuality := ⟨248, .unknown, 0xffff⟩
  grandmasterPriority2 := 128
  grandmasterIdentity := ⟨Vector.replicate 8 clock⟩
  stepsRemoved := 0
  timeSource := .internalOscillator

/-- Clocks 2 and 3 announce themselves in every round; clock 3 has the better priority. -/
def twoMasters (r : Nat) : List (Header × AnnounceMessage) :=
  [((selfAnnounce 2 128 (UInt16.ofNat r)).header, selfAnnounce 2 128 (UInt16.ofNat r)),
    ((selfAnnounce 3 127 (UInt16.ofNat r)).header, selfAnnounce 3 127 (UInt16.ofNat r))]

/-- One second, in units of `2^-16` nanoseconds. -/
def oneSecond : TimeInterval := ⟨⟨65536000000000⟩⟩

def losingStart : Nat → Bmca AcceptAnyMaster
  | 0 => Bmca.new ⟨⟩ oneSecond ⟨⟨Vector.replicate 8 1⟩, 1⟩
  | r + 1 =>
    match (losingStart r).registerAll .debug (twoMasters r) >>= fun b => b.endRound .debug with
    | .ok b => b
    | .error _ => losingStart r

def losingMid (r : Nat) : Bmca AcceptAnyMaster :=
  match (losingStart r).registerAll .debug (twoMasters r) with
  | .ok b => b
  | .error _ => losingStart r

theorem losing_rounds : ∀ r : Fin 5,
    (losingStart r).registerAll .debug (twoMasters r) = .ok (losingMid r) ∧
      (losingMid r).endRound .debug = .ok (losingStart (r + 1)) := by
  decide +kernel

/-- Five rounds of clock 2, which never wins. -/
theorem losing_regular : Regular .debug (⟨⟩ : AcceptAnyMaster) oneSecond
    ⟨⟨Vector.replicate 8 1⟩, 1⟩ ⟨⟨Vector.replicate 8 2⟩, 1⟩
    (fun r => selfAnnounce 2 128 (UInt16.ofNat r)) twoMasters 5 losingStart losingMid where
  run := ⟨fun r hr => (losing_rounds ⟨r, hr⟩).1, fun r hr => (losing_rounds ⟨r, hr⟩).2⟩
  reached := .new
  foreign := by decide
  isAcceptable := rfl
  delivers := {
    one := fun r _ => by
      have hne : (⟨⟨Vector.replicate 8 3⟩, 1⟩ : PortIdentity) ≠ ⟨⟨Vector.replicate 8 2⟩, 1⟩ := by
        decide
      simp [twoMasters, selfAnnounce, hne]
    next := fun r hr => by
      have hr : r < 4 := by omega
      interval_cases r <;> rfl
    steps := fun _ _ => (by decide : (0 : UInt16) < 255) }
  isNew := rfl
  foundRoom := fun _ => by decide +kernel

/-- **A master that announces itself in every round is not compared in the fifth.** -/
theorem losing_master_not_compared :
    ∃ (x : Nat → AnnounceMessage) (calls : Nat → List (Header × AnnounceMessage))
      (start mid : Nat → Bmca AcceptAnyMaster),
      Regular .debug (⟨⟩ : AcceptAnyMaster) oneSecond ⟨⟨Vector.replicate 8 1⟩, 1⟩
        ⟨⟨Vector.replicate 8 2⟩, 1⟩ x calls 5 start mid ∧
      x 4 ∉ (mid 4).candidates.map (·.message) :=
  ⟨_, _, _, _, losing_regular, by decide +kernel⟩

theorem candidate_every_round_iff_losing :
    (∀ r, 1 ≤ r → r < 5 → selfAnnounce 2 128 (UInt16.ofNat r) ∈
        (losingMid r).candidates.map (·.message)) ↔
      (1 < 5 → 0 < oneSecond.toInt) ∧
      ∀ r, 4 ≤ r → r < 5 → ∃ j, j < r ∧ r ≤ j + 3 ∧
        (losingMid j).wins .debug ⟨⟨Vector.replicate 8 2⟩, 1⟩ = true :=
  losing_regular.candidate_every_round_iff

end Bmca

end Statime
