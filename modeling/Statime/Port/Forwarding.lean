import Mathlib.Data.List.Flatten
import Statime.Port.Announce
import Statime.Port.Effects

/-!
# Forwarding over several announces

A record that is too large for an announce stays in the forwarder, and so do all records after it.

* `PtpInstanceState.Packs`: whether the records fill one announce after the other.
* `PtpInstanceState.packs_iff`: then, and only then, the announces take all the small ones.
* `Port.sendAnnounces_ok`, `Port.sendAnnounces_inv`: the packets of several announces.
* `Port.forwardsSmall_iff`: when all small records are forwarded.
-/

namespace Statime

open Rust

variable {A R C F : Type} [Filter F]

/-! ### Records in announces -/

theorem ForwardedTLV.size_pos (tlv : ForwardedTLV) : 0 < tlv.size := by
  rw [ForwardedTLV.size, Tlv.wireSize]
  omega

namespace PtpInstanceState

variable (s : PtpInstanceState)

/-- The records that are smaller than what a fresh announce leaves. -/
def small (queue : List ForwardedTLV) : List Tlv :=
  (queue.filter fun tlv => decide (tlv.size < s.announceMargin)).map (·.tlv)

/-- The forwarded records of so many announces. -/
def announced : Nat → List ForwardedTLV → List (List Tlv)
  | 0, _ => []
  | n + 1, queue =>
    s.forwardedRecords s.announceMargin queue ::
      announced n (s.leftOver s.announceMargin queue)

/-- No record fits exactly in any of so many announces. -/
def NeverExact : Nat → List ForwardedTLV → Prop
  | 0, _ => True
  | n + 1, queue =>
    NoExactFit s s.announceMargin queue ∧ NeverExact n (s.leftOver s.announceMargin queue)

/-- Up to the last small record, the records are small, are to be forwarded, and fill one announce
after the other without an exact fit. -/
def Packs : Nat → List ForwardedTLV → Prop
  | _, [] => True
  | room, tlv :: queue =>
    (∀ t ∈ tlv :: queue, s.announceMargin ≤ t.size) ∨
      tlv.size ≠ room ∧ tlv.size < s.announceMargin ∧ s.forwards tlv = true ∧
        Packs ((if tlv.size < room then room else s.announceMargin) - tlv.size) queue

theorem small_cons_of_lt {tlv : ForwardedTLV} (queue : List ForwardedTLV)
    (h : tlv.size < s.announceMargin) : s.small (tlv :: queue) = tlv.tlv :: s.small queue := by
  simp [small, h]

theorem small_eq_nil_iff {queue : List ForwardedTLV} :
    s.small queue = [] ↔ ∀ tlv ∈ queue, s.announceMargin ≤ tlv.size := by
  simp only [small, List.map_eq_nil_iff, List.filter_eq_nil_iff, decide_eq_true_eq, not_lt]

/-- What an announce takes, and what is left, are small records of the queue. -/
theorem forwardedRecords_append_sublist : ∀ (queue : List ForwardedTLV) (room : Nat),
    room ≤ s.announceMargin →
      (s.forwardedRecords room queue ++ s.small (s.leftOver room queue)).Sublist (s.small queue) := by
  intro queue
  induction queue with
  | nil => exact fun _ _ => List.Sublist.refl _
  | cons tlv queue ih =>
    intro room hroom
    by_cases hlt : tlv.size < room
    · rw [s.forwardedRecords_cons queue hlt, leftOver, if_pos hlt, s.small_cons_of_lt queue (by omega)]
      split
      · exact (ih _ (by omega)).cons_cons _
      · exact (ih _ (by omega)).cons _
    · rw [s.forwardedRecords_of_not_lt queue hlt, leftOver, if_neg hlt, List.nil_append]

theorem announced_sublist : ∀ (n : Nat) (queue : List ForwardedTLV),
    (s.announced n queue).flatten.Sublist (s.small queue) := by
  intro n
  induction n with
  | zero => exact fun _ => List.nil_sublist _
  | succ n ih =>
    intro queue
    rw [announced, List.flatten_cons]
    exact ((ih _).append_left _).trans (s.forwardedRecords_append_sublist queue _ (Nat.le_refl _))

/-- More announces take more records. -/
theorem announced_mono : ∀ (k n : Nat) (queue : List ForwardedTLV), k ≤ n →
    (s.announced k queue).flatten.Sublist (s.announced n queue).flatten := by
  intro k
  induction k with
  | zero => exact fun _ _ _ => List.nil_sublist _
  | succ k ih =>
    intro n queue hle
    cases n with
    | zero => omega
    | succ n =>
      rw [announced, announced, List.flatten_cons, List.flatten_cons]
      exact (ih n _ (Nat.le_of_succ_le_succ hle)).append_left _

/-- **An announce of a queue that packs**: there is no exact fit, all small records are taken or left,
and what is left packs. -/
theorem Packs.announce : ∀ {queue : List ForwardedTLV} {room : Nat}, s.Packs room queue →
    room < s.announceMargin → NoExactFit s room queue ∧
      s.Packs s.announceMargin (s.leftOver room queue) ∧
      s.forwardedRecords room queue ++ s.small (s.leftOver room queue) = s.small queue := by
  intro queue
  induction queue with
  | nil => exact fun _ _ => ⟨fun before tlv after h => by simp at h, trivial, rfl⟩
  | cons tlv queue ih =>
    intro room hpacks hroom
    by_cases hlt : tlv.size < room
    · rw [noExactFit_cons, s.forwardedRecords_cons queue hlt, leftOver, if_pos hlt,
        s.small_cons_of_lt queue (by omega)]
      rcases hpacks with hlarge | ⟨hne, -, hforwards, hrest⟩
      · have := hlarge tlv List.mem_cons_self
        omega
      · rw [if_pos hlt] at hrest
        obtain ⟨hfit, hpacks', hsmall⟩ := ih hrest (by omega)
        rw [if_pos hforwards, if_pos hforwards, List.append_assoc, hsmall]
        exact ⟨⟨hne, fun _ => hfit⟩, hpacks', rfl⟩
    · rw [noExactFit_cons, s.forwardedRecords_of_not_lt queue hlt, leftOver, if_neg hlt]
      have hne : tlv.size ≠ room := by
        rcases hpacks with hlarge | ⟨hne, -⟩
        · have := hlarge tlv List.mem_cons_self
          omega
        · exact hne
      refine ⟨⟨hne, fun h => absurd h hlt⟩, ?_, rfl⟩
      rcases hpacks with hlarge | ⟨-, hsmall, hforwards, hrest⟩
      · exact Or.inl hlarge
      · rw [if_neg hlt] at hrest
        refine Or.inr ⟨by omega, hsmall, hforwards, ?_⟩
        rwa [ite_self]

/-- **A queue that packs is announced**, all small records of it. -/
theorem Packs.exists_announced : ∀ (length : Nat) {queue : List ForwardedTLV},
    queue.length ≤ length → s.Packs s.announceMargin queue →
      ∃ n, s.NeverExact n queue ∧ (s.announced n queue).flatten = s.small queue := by
  intro length
  induction length with
  | zero =>
    intro queue hlength _
    obtain rfl := List.length_eq_zero_iff.mp (Nat.le_zero.mp hlength)
    exact ⟨0, trivial, rfl⟩
  | succ length ih =>
    intro queue hlength hpacks
    cases queue with
    | nil => exact ⟨0, trivial, rfl⟩
    | cons tlv queue =>
      rcases hpacks with hlarge | ⟨hne, hlt, hforwards, hrest⟩
      · exact ⟨0, trivial, (s.small_eq_nil_iff.mpr hlarge).symm⟩
      · rw [if_pos hlt] at hrest
        obtain ⟨hfit, hpacks', hsmall⟩ := Packs.announce s hrest
          (by have := tlv.size_pos; omega)
        have hshort : (s.leftOver (s.announceMargin - tlv.size) queue).length ≤ length :=
          (s.leftOver_suffix queue _).length_le.trans (Nat.le_of_succ_le_succ hlength)
        obtain ⟨n, hnever, hall⟩ := ih hshort hpacks'
        have hleft : s.leftOver s.announceMargin (tlv :: queue) =
            s.leftOver (s.announceMargin - tlv.size) queue := by
          rw [leftOver, if_pos hlt, if_pos hforwards]
        refine ⟨n + 1, ⟨noExactFit_cons.mpr ⟨hne, fun _ => ?_⟩, hleft ▸ hnever⟩, ?_⟩
        · rw [if_pos hforwards]
          exact hfit
        · rw [announced, hleft, List.flatten_cons, hall, s.forwardedRecords_cons queue hlt,
            if_pos hforwards, if_pos hforwards, List.append_assoc, hsmall, s.small_cons_of_lt queue hlt]
          rfl

/-- A queue packs when what is left does and no small record is lost. -/
theorem Packs.of_announce : ∀ {queue : List ForwardedTLV} {room : Nat}, room ≤ s.announceMargin →
    NoExactFit s room queue → s.Packs s.announceMargin (s.leftOver room queue) →
    s.forwardedRecords room queue ++ s.small (s.leftOver room queue) = s.small queue →
      s.Packs room queue := by
  intro queue
  induction queue with
  | nil => exact fun _ _ _ _ => trivial
  | cons tlv queue ih =>
    intro room hroom hfit hpacks hsmall
    obtain ⟨hne, hfit⟩ := noExactFit_cons.mp hfit
    by_cases hlt : tlv.size < room
    · rw [s.forwardedRecords_cons queue hlt, leftOver, if_pos hlt,
        s.small_cons_of_lt queue (by omega)] at hsmall
      rw [leftOver, if_pos hlt] at hpacks
      have hfit := hfit hlt
      cases hforwards : s.forwards tlv with
      | false =>
        -- the record is small and is not forwarded
        rw [hforwards] at hsmall
        have hshort := (s.forwardedRecords_append_sublist queue room hroom).length_le
        have hlong := congrArg List.length hsmall
        simp only [Bool.false_eq_true, if_false, Nat.sub_zero, List.nil_append] at hlong
        rw [List.length_cons] at hlong
        omega
      | true =>
        rw [hforwards] at hsmall hfit hpacks
        simp only [if_true] at hsmall hfit hpacks
        refine Or.inr ⟨hne, by omega, hforwards, ?_⟩
        rw [if_pos hlt]
        exact ih (by omega) hfit hpacks (List.cons.inj hsmall).2
    · rw [leftOver, if_neg hlt] at hpacks
      rcases hpacks with hlarge | ⟨-, hmargin, hforwards, hrest⟩
      · exact Or.inl hlarge
      · rw [ite_self] at hrest
        refine Or.inr ⟨hne, hmargin, hforwards, ?_⟩
        rwa [if_neg hlt]

/-- **A queue whose small records are all announced** packs. -/
theorem packs_of_announced : ∀ (n : Nat) {queue : List ForwardedTLV}, s.NeverExact n queue →
    (s.announced n queue).flatten = s.small queue → s.Packs s.announceMargin queue := by
  intro n
  induction n with
  | zero =>
    intro queue _ hall
    cases queue with
    | nil => trivial
    | cons tlv queue => exact Or.inl (s.small_eq_nil_iff.mp hall.symm)
  | succ n ih =>
    intro queue hnever hall
    rw [announced, List.flatten_cons] at hall
    have hbelow := s.forwardedRecords_append_sublist queue _ (Nat.le_refl s.announceMargin)
    have hrest : (s.announced n (s.leftOver s.announceMargin queue)).flatten =
        s.small (s.leftOver s.announceMargin queue) := by
      refine (s.announced_sublist n _).eq_of_length_le ?_
      have hlength := congrArg List.length hall
      have hle := hbelow.length_le
      rw [List.length_append] at hlength hle
      omega
    rw [hrest] at hall
    exact Packs.of_announce s (Nat.le_refl _) hnever.1 (ih hnever.2 hrest) hall

/-- **When so many announces are enough** for all small records. -/
theorem packs_iff {queue : List ForwardedTLV} : s.Packs s.announceMargin queue ↔
    ∃ n, s.NeverExact n queue ∧ (s.announced n queue).flatten = s.small queue := by
  constructor
  · exact Packs.exists_announced s _ (Nat.le_refl _)
  · rintro ⟨n, hnever, hall⟩
    exact s.packs_of_announced n hnever hall

end PtpInstanceState

/-! ### Packets -/

/-- Records of a queue with the same bytes as all of it are all of it. -/
theorem eq_of_sublist_of_bytes {some all : List Tlv} (hsublist : some.Sublist all)
    (hbytes : some.flatMap Tlv.toBytes = all.flatMap Tlv.toBytes) : some = all := by
  induction hsublist with
  | slnil => rfl
  | @cons some all t hsublist =>
    -- the record that is left out takes at least four bytes
    have hle := (hsublist.flatMap Tlv.toBytes).length_le
    have hlength := congrArg List.length hbytes
    rw [List.flatMap_cons, List.length_append, Tlv.length_toBytes, Tlv.wireSize] at hlength
    omega
  | @cons_cons some all t _ ih =>
    rw [List.flatMap_cons, List.flatMap_cons] at hbytes
    rw [ih (List.append_cancel_left hbytes)]

/-- The packets carry these records, after the announce and the own path trace. -/
def PtpInstanceState.Carries (s : PtpInstanceState) (packets : List (List UInt8))
    (records : List Tlv) : Prop :=
  ∃ chunks : List (List Tlv), chunks.flatten = records ∧
    List.Forall₂ (fun data chunk => data.drop 64 = (s.ownPathTrace ++ chunk).flatMap Tlv.toBytes)
      packets chunks

/-- What packets carry is known by its bytes. -/
theorem PtpInstanceState.Carries.bytes {s : PtpInstanceState} :
    ∀ {packets : List (List UInt8)} {first second : List Tlv}, s.Carries packets first →
      s.Carries packets second → first.flatMap Tlv.toBytes = second.flatMap Tlv.toBytes := by
  intro packets
  induction packets with
  | nil =>
    rintro first second ⟨chunks, rfl, hchunks⟩ ⟨chunks', rfl, hchunks'⟩
    cases hchunks
    cases hchunks'
    rfl
  | cons data packets ih =>
    rintro first second ⟨chunks, rfl, hchunks⟩ ⟨chunks', rfl, hchunks'⟩
    cases hchunks with
    | cons hdata hrest =>
      cases hchunks' with
      | cons hdata' hrest' =>
        have hsame := hdata.symm.trans hdata'
        rw [List.flatMap_append, List.flatMap_append] at hsame
        rw [List.flatten_cons, List.flatten_cons, List.flatMap_append, List.flatMap_append,
          List.append_cancel_left hsame, ih ⟨_, rfl, hrest⟩ ⟨_, rfl, hrest'⟩]

namespace Port

variable {p : Profile} {s : PtpInstanceState}

/-- The packets of so many announces. -/
def sendAnnounces (p : Profile) (s : PtpInstanceState) : Nat → Port Running A R C F →
    TlvForwarder → Except Panic (List (List UInt8))
  | 0, _, _ => .ok []
  | n + 1, port, forwarder => do
    let (port, forwarder, actions) ← port.sendAnnounce p s forwarder
    let packets ← sendAnnounces p s n port forwarder
    return actions.packets ++ packets

/-- **The packets of several announces** carry the records that are announced. -/
theorem sendAnnounces_ok : ∀ (n : Nat) {port : Port Running A R C F} {forwarder : TlvForwarder},
    port.portState = .master → (∀ tlv ∈ forwarder.queue, tlv.tlv.value.length % 2 = 0) →
    s.NeverExact n forwarder.queue → (n ≠ 0 → port.CanAnnounce p s) →
      ∃ packets, port.sendAnnounces p s n forwarder = .ok packets ∧
        s.Carries packets (s.announced n forwarder.queue).flatten := by
  intro n
  induction n with
  | zero => exact fun _ _ _ _ => ⟨[], rfl, [], rfl, .nil⟩
  | succ n ih =>
    intro port forwarder hmaster heven hnever hcan
    have hcan := hcan (Nat.succ_ne_zero n)
    obtain ⟨port', forwarder', duration, data, hsent, hstate, hconfig, hdata, -, hleft, -⟩ :=
      sendAnnounce_ok TlvForwarder.serves hmaster heven hnever.1 hcan
    have heven' : ∀ tlv ∈ forwarder'.queue, tlv.tlv.value.length % 2 = 0 := by
      rw [hleft]
      exact s.leftOver_even heven
    have hcan' : port'.CanAnnounce p s := by
      unfold CanAnnounce
      rw [hconfig]
      exact hcan
    obtain ⟨packets, hpackets, chunks, hflatten, hchunks⟩ :=
      ih (hstate.trans hmaster) heven' (hleft ▸ hnever.2) fun _ => hcan'
    refine ⟨data :: packets, ?_, s.forwardedRecords s.announceMargin forwarder.queue :: chunks, ?_,
      .cons hdata hchunks⟩
    · rw [sendAnnounces, hsent, ok_bind]
      dsimp only
      rw [hpackets, ok_bind]
      rfl
    · rw [PtpInstanceState.announced, List.flatten_cons, List.flatten_cons, hflatten, hleft]

/-- Announces that are sent have no exact fit. -/
theorem sendAnnounces_inv : ∀ (n : Nat) {port : Port Running A R C F} {forwarder : TlvForwarder}
    {packets : List (List UInt8)}, port.portState = .master →
    (∀ tlv ∈ forwarder.queue, tlv.tlv.value.length % 2 = 0) →
    port.sendAnnounces p s n forwarder = .ok packets →
      s.NeverExact n forwarder.queue ∧ (n ≠ 0 → port.CanAnnounce p s) := by
  intro n
  induction n with
  | zero => exact fun _ _ _ => ⟨trivial, fun h => absurd rfl h⟩
  | succ n ih =>
    intro port forwarder packets hmaster heven h
    obtain ⟨⟨port', forwarder', actions⟩, hsend, h⟩ := bind_eq_ok.mp h
    obtain ⟨packets', hpackets, -⟩ := bind_eq_ok.mp h
    obtain ⟨hfit, hcan⟩ := sendAnnounce_inv TlvForwarder.serves hmaster heven hsend
    obtain ⟨port₁, forwarder₁, duration, data, hsent, hstate, -, -, -, hleft, -⟩ :=
      sendAnnounce_ok TlvForwarder.serves hmaster heven hfit hcan
    obtain ⟨rfl, hrest⟩ := Prod.mk.inj (Except.ok.inj (hsend.symm.trans hsent))
    obtain ⟨rfl, -⟩ := Prod.mk.inj hrest
    have heven' : ∀ tlv ∈ forwarder'.queue, tlv.tlv.value.length % 2 = 0 := by
      rw [hleft]
      exact s.leftOver_even heven
    have hnever := (ih (hstate.trans hmaster) heven' hpackets).1
    exact ⟨⟨hfit, hleft ▸ hnever⟩, fun _ => hcan⟩

/-- What is sent carries the records that are announced. -/
theorem sendAnnounces_carries {n : Nat} {port : Port Running A R C F} {forwarder : TlvForwarder}
    {packets : List (List UInt8)} (hmaster : port.portState = .master)
    (heven : ∀ tlv ∈ forwarder.queue, tlv.tlv.value.length % 2 = 0)
    (h : port.sendAnnounces p s n forwarder = .ok packets) :
    s.Carries packets (s.announced n forwarder.queue).flatten := by
  obtain ⟨hnever, hcan⟩ := sendAnnounces_inv n hmaster heven h
  obtain ⟨packets', hpackets, hcarries⟩ := sendAnnounces_ok n hmaster heven hnever hcan
  rwa [Except.ok.inj (h.symm.trans hpackets)]

/-- **All small records are forwarded**: after some announces the packets carry them, each once and in
their order, and they do so after any more announces. -/
def ForwardsSmall (p : Profile) (s : PtpInstanceState) (port : Port Running A R C F)
    (forwarder : TlvForwarder) : Prop :=
  ∃ k, (∃ packets, port.sendAnnounces p s k forwarder = .ok packets) ∧
    ∀ n packets, k ≤ n → port.sendAnnounces p s n forwarder = .ok packets →
      s.Carries packets (s.small forwarder.queue)

/-- Records that are forwarded fill one announce after the other. -/
theorem packs_of_forwardsSmall {port : Port Running A R C F} {forwarder : TlvForwarder}
    (hmaster : port.portState = .master)
    (heven : ∀ tlv ∈ forwarder.queue, tlv.tlv.value.length % 2 = 0)
    (h : port.ForwardsSmall p s forwarder) :
    s.small forwarder.queue = [] ∨
      port.CanAnnounce p s ∧ s.Packs s.announceMargin forwarder.queue := by
  obtain ⟨k, ⟨packets, hpackets⟩, hcarries⟩ := h
  obtain ⟨hnever, hcan⟩ := sendAnnounces_inv k hmaster heven hpackets
  have hall : (s.announced k forwarder.queue).flatten = s.small forwarder.queue :=
    eq_of_sublist_of_bytes (s.announced_sublist k _)
      ((sendAnnounces_carries hmaster heven hpackets).bytes
        (hcarries k packets (Nat.le_refl k) hpackets))
  by_cases hk : k = 0
  · subst hk
    exact Or.inl hall.symm
  · exact Or.inr ⟨hcan hk, s.packs_iff.mpr ⟨k, hnever, hall⟩⟩

theorem forwardsSmall_of_announced {port : Port Running A R C F} {forwarder : TlvForwarder} {k : Nat}
    (hmaster : port.portState = .master)
    (heven : ∀ tlv ∈ forwarder.queue, tlv.tlv.value.length % 2 = 0)
    (hnever : s.NeverExact k forwarder.queue) (hcan : k ≠ 0 → port.CanAnnounce p s)
    (hall : (s.announced k forwarder.queue).flatten = s.small forwarder.queue) :
    port.ForwardsSmall p s forwarder := by
  obtain ⟨packets, hpackets, -⟩ := sendAnnounces_ok k hmaster heven hnever hcan
  refine ⟨k, ⟨packets, hpackets⟩, fun n packets hle h => ?_⟩
  have hmore := s.announced_mono k n forwarder.queue hle
  rw [hall] at hmore
  rw [← (s.announced_sublist n forwarder.queue).antisymm hmore]
  exact sendAnnounces_carries hmaster heven h

/-- **When all small records are forwarded**: there are none, or an announce can be sent and they fill
one after the other. -/
theorem forwardsSmall_iff (p : Profile) (s : PtpInstanceState) {port : Port Running A R C F}
    {forwarder : TlvForwarder} (hmaster : port.portState = .master)
    (hqueue : ∀ tlv ∈ forwarder.queue, tlv.FromAnnounce p) :
    port.ForwardsSmall p s forwarder ↔ s.small forwarder.queue = [] ∨
      port.CanAnnounce p s ∧ s.Packs s.announceMargin forwarder.queue := by
  have heven : ∀ tlv ∈ forwarder.queue, tlv.tlv.value.length % 2 = 0 :=
    fun tlv h => (hqueue tlv h).even
  constructor
  · exact packs_of_forwardsSmall hmaster heven
  · rintro (hnone | ⟨hcan, hpacks⟩)
    · exact forwardsSmall_of_announced hmaster heven (k := 0) trivial (fun h => absurd rfl h) hnone.symm
    · obtain ⟨k, hnever, hall⟩ := s.packs_iff.mp hpacks
      exact forwardsSmall_of_announced hmaster heven hnever (fun _ => hcan) hall

/-! ### Small and large records -/

/-- A forwarder with records of these lengths. -/
def forwarderOf (lengths : List Nat) : TlvForwarder where
  receiver := lengths.map fun length => .value (forwardedRecord length)
  peek := none

theorem queue_forwarderOf (lengths : List Nat) :
    (forwarderOf lengths).queue = lengths.map forwardedRecord := by
  rw [TlvForwarder.queue, forwarderOf, List.filterMap_map]
  exact congrFun List.filterMap_eq_map lengths

theorem fromAnnounce_forwarderOf {p : Profile} {lengths : List Nat}
    (h : ∀ length ∈ lengths, yieldsRecord p length = true) :
    ∀ tlv ∈ (forwarderOf lengths).queue, tlv.FromAnnounce p := by
  intro tlv htlv
  rw [queue_forwarderOf] at htlv
  obtain ⟨length, hlength, rfl⟩ := List.mem_map.mp htlv
  exact fromAnnounce_of_yields (h length hlength)

/-- Three small records are forwarded in two announces. -/
theorem forwardsSmall_three_records :
    (testPort default .master).ForwardsSmall .debug (followingState testInstanceConfig)
      (forwarderOf [16, 900, 100]) := by
  refine (forwardsSmall_iff .debug _ rfl (fromAnnounce_forwarderOf (by decide +kernel))).mpr
    (Or.inr ⟨⟨⟨_, rfl⟩, ⟨_, rfl⟩, by decide⟩, ?_⟩)
  rw [queue_forwarderOf]
  exact Or.inr ⟨by decide +kernel, by decide +kernel, by decide +kernel,
    Or.inr ⟨by decide +kernel, by decide +kernel, by decide +kernel,
      Or.inr ⟨by decide +kernel, by decide +kernel, by decide +kernel, trivial⟩⟩⟩

/-- **A large record stays in the way** of a small one behind it. -/
theorem large_record_blocks :
    (∀ tlv ∈ (forwarderOf [1000, 16]).queue, tlv.FromAnnounce .debug) ∧
    (∀ tlv ∈ (forwarderOf [1000, 16]).queue,
      tlv.senderIdentity = (followingState testInstanceConfig).parentDs.parentPortIdentity) ∧
    (followingState testInstanceConfig).small (forwarderOf [1000, 16]).queue =
      [(forwardedRecord 16).tlv] ∧
    ¬ (testPort default .master).ForwardsSmall .debug (followingState testInstanceConfig)
      (forwarderOf [1000, 16]) := by
  have hqueue : ∀ tlv ∈ (forwarderOf [1000, 16]).queue, tlv.FromAnnounce .debug :=
    fromAnnounce_forwarderOf (by decide +kernel)
  have hsmall : (followingState testInstanceConfig).small (forwarderOf [1000, 16]).queue =
      [(forwardedRecord 16).tlv] := by
    decide +kernel
  refine ⟨hqueue, by decide +kernel, hsmall, fun h => ?_⟩
  rcases packs_of_forwardsSmall rfl (fun tlv htlv => (hqueue tlv htlv).even) h with hnone | ⟨-, hpacks⟩
  · rw [hsmall] at hnone
    cases hnone
  · rw [queue_forwarderOf] at hpacks
    rcases hpacks with hlarge | ⟨-, hlt, -⟩
    · have := hlarge (forwardedRecord 16) (List.mem_cons_of_mem _ List.mem_cons_self)
      exact absurd this (by decide +kernel)
    · exact absurd hlt (by decide +kernel)

end Port

end Statime
