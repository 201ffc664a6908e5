import Statime.Datastructures.TlvRecords
import Statime.PtpInstance
import Statime.TlvForwarder

/-!
# Announce messages with forwarded records

`send_announce` starts with the margin that the announce itself and the own path trace leave
in a packet, and takes records from the provider until one does not fit.  The forwarder yields
a record of exactly the remaining size, and the loop asserts that this never happens.

* `ForwardedTLVProvider.Serves`: what is asked of a provider of forwarded records.
* `announceLoop_ok`, `announceLoop_panics`: the loop over the queue of a provider.
* `buildAnnounce_spec`: the message that is built.
* `sendAnnounce_ok`, `sendAnnounce_inv`: the packet that is sent, and what can stop it.
* `announceSent_iff`: when the announce is sent.
-/

namespace Statime

open Rust

variable {A R C F T : Type} [Filter F]

/-! ### The margin -/

/-- Whether the loop adds the record to the announce. -/
def PtpInstanceState.forwards (s : PtpInstanceState) (tlv : ForwardedTLV) : Bool :=
  decide (s.parentDs.parentPortIdentity = tlv.senderIdentity ∧
    ¬ (s.pathTraceDs.enable = true ∧ tlv.tlv.tlvType = .pathTrace))

/-- The bytes of the records of a queue that are added. -/
def PtpInstanceState.forwardedSize (s : PtpInstanceState) (tlvs : List ForwardedTLV) : Nat :=
  ((tlvs.filter s.forwards).map (·.size)).sum

/-- The size of the own path trace record, when it is added. -/
def PtpInstanceState.pathTraceSize (s : PtpInstanceState) : Nat :=
  let size := 4 + 8 * (s.pathTraceDs.list.toList.length + 1)
  if s.pathTraceDs.enable = true ∧ s.pathTraceDs.list.toList.length < maxDataLen / 8 ∧
      size < maxDataLen - 64 then size
  else 0

/-- What is left of a packet for forwarded records. -/
def PtpInstanceState.announceMargin (s : PtpInstanceState) : Nat :=
  maxDataLen - 64 - s.pathTraceSize

/-- No record that the loop comes to has exactly the size that is left then. -/
def NoExactFit (s : PtpInstanceState) (margin : Nat) (queue : List ForwardedTLV) : Prop :=
  ∀ before tlv after, queue = before ++ tlv :: after →
    (∀ before' tlv' after', before = before' ++ tlv' :: after' →
      tlv'.size < margin - s.forwardedSize before') →
    tlv.size ≠ margin - s.forwardedSize before

theorem forwardedSize_cons (s : PtpInstanceState) (tlv : ForwardedTLV) (tlvs : List ForwardedTLV) :
    s.forwardedSize (tlv :: tlvs) =
      (if s.forwards tlv then tlv.size else 0) + s.forwardedSize tlvs := by
  unfold PtpInstanceState.forwardedSize
  rw [List.filter_cons]
  split <;> simp

/-- The condition on a queue, one record at a time. -/
theorem noExactFit_cons {s : PtpInstanceState} {margin : Nat} {tlv : ForwardedTLV}
    {queue : List ForwardedTLV} :
    NoExactFit s margin (tlv :: queue) ↔ tlv.size ≠ margin ∧
      (tlv.size < margin →
        NoExactFit s (margin - if s.forwards tlv then tlv.size else 0) queue) := by
  constructor
  · intro h
    refine ⟨h [] tlv queue rfl (by simp), fun hlt before tlv' after hqueue hbefore => ?_⟩
    have := h (tlv :: before) tlv' after (by rw [hqueue, List.cons_append]) ?_
    · rwa [forwardedSize_cons, ← Nat.sub_sub] at this
    · intro before' tlv'' after' hsplit
      cases before' with
      | nil =>
        obtain ⟨rfl, -⟩ := List.cons.inj hsplit
        exact hlt
      | cons first before' =>
        obtain ⟨rfl, hrest⟩ := List.cons.inj hsplit
        rw [forwardedSize_cons, ← Nat.sub_sub]
        exact hbefore before' tlv'' after' hrest
  · rintro ⟨hne, hrest⟩ before tlv' after hqueue hbefore
    cases before with
    | nil =>
      obtain ⟨rfl, -⟩ := List.cons.inj hqueue
      exact hne
    | cons first before =>
      obtain ⟨rfl, htail⟩ := List.cons.inj hqueue
      have hfirst := hbefore [] tlv before rfl
      rw [forwardedSize_cons, ← Nat.sub_sub]
      refine hrest hfirst before tlv' after htail fun before' tlv'' after' hsplit => ?_
      have := hbefore (tlv :: before') tlv'' after' (by rw [hsplit, List.cons_append])
      rwa [forwardedSize_cons, ← Nat.sub_sub] at this

/-! ### The records -/

/-- The provider yields the records of a queue, in their order: the next one, unless it is larger
than asked for. -/
structure ForwardedTLVProvider.Serves [ForwardedTLVProvider T] (queue : T → List ForwardedTLV) :
    Prop where
  nil : ∀ {t : T} (maxSize : Nat), queue t = [] →
    ∃ t', nextIfSmaller t maxSize = (none, t') ∧ queue t' = []
  fits : ∀ {t : T} {maxSize : Nat} {tlv : ForwardedTLV} {rest : List ForwardedTLV},
    queue t = tlv :: rest → tlv.size ≤ maxSize →
      ∃ t', nextIfSmaller t maxSize = (some tlv, t') ∧ queue t' = rest
  large : ∀ {t : T} {maxSize : Nat} {tlv : ForwardedTLV} {rest : List ForwardedTLV},
    queue t = tlv :: rest → maxSize < tlv.size →
      ∃ t', nextIfSmaller t maxSize = (none, t') ∧ queue t' = tlv :: rest

/-- What a provider yields is gone from the front of its queue. -/
theorem ForwardedTLVProvider.Serves.suffix [ForwardedTLVProvider T] {queue : T → List ForwardedTLV}
    (hserves : Serves queue) {t t' : T} {maxSize : Nat} {tlv : Option ForwardedTLV}
    (h : nextIfSmaller t maxSize = (tlv, t')) : queue t' <:+ queue t := by
  cases hqueue : queue t with
  | nil =>
    obtain ⟨t₁, hnext, hrest⟩ := hserves.nil maxSize hqueue
    obtain ⟨-, rfl⟩ := Prod.mk.inj (hnext.symm.trans h)
    exact hrest ▸ List.suffix_rfl
  | cons first rest =>
    by_cases hfits : first.size ≤ maxSize
    · obtain ⟨t₁, hnext, hrest⟩ := hserves.fits hqueue hfits
      obtain ⟨-, rfl⟩ := Prod.mk.inj (hnext.symm.trans h)
      rw [hrest]
      exact List.suffix_cons first rest
    · obtain ⟨t₁, hnext, hrest⟩ := hserves.large hqueue (Nat.lt_of_not_le hfits)
      obtain ⟨-, rfl⟩ := Prod.mk.inj (hnext.symm.trans h)
      exact hrest ▸ List.suffix_rfl

/-- The forwarder of the daemon does. -/
theorem TlvForwarder.serves : ForwardedTLVProvider.Serves TlvForwarder.queue :=
  ⟨fun _ h => nextIfSmaller_nil h, nextIfSmaller_fits, nextIfSmaller_large⟩

namespace PtpInstanceState

/-- The own path trace, with the own identity at its end. -/
def pathTraceRecord (s : PtpInstanceState) : Tlv where
  tlvType := .pathTrace
  value := (s.pathTraceDs.list.toList ++ [s.defaultDs.clockIdentity]).flatMap (·.toWire)

/-- It is added when it is enabled, has room in its list, and fits the packet. -/
def ownPathTrace (s : PtpInstanceState) : List Tlv :=
  if s.pathTraceDs.enable = true ∧ s.pathTraceDs.list.toList.length < maxDataLen / 8 ∧
      s.pathTraceRecord.wireSize < maxDataLen - 64 then [s.pathTraceRecord]
  else []

/-- The records of a queue that are forwarded: as long as each is smaller than what is left of the
packet, those of the parent except for its path trace. -/
def forwardedRecords (s : PtpInstanceState) : Nat → List ForwardedTLV → List Tlv
  | _, [] => []
  | margin, tlv :: queue =>
    if tlv.size < margin then
      if s.forwards tlv then tlv.tlv :: s.forwardedRecords (margin - tlv.size) queue
      else s.forwardedRecords margin queue
    else []

/-- What is left of the queue: the first record that is not smaller, and the ones after it. -/
def leftOver (s : PtpInstanceState) : Nat → List ForwardedTLV → List ForwardedTLV
  | _, [] => []
  | margin, tlv :: queue =>
    if tlv.size < margin then s.leftOver (margin - if s.forwards tlv then tlv.size else 0) queue
    else tlv :: queue

theorem leftOver_suffix (s : PtpInstanceState) : ∀ (queue : List ForwardedTLV) (margin : Nat),
    s.leftOver margin queue <:+ queue := by
  intro queue
  induction queue with
  | nil => exact fun _ => List.suffix_rfl
  | cons tlv queue ih =>
    intro margin
    rw [leftOver]
    split
    · exact (ih _).trans (List.suffix_cons tlv queue)
    · exact List.suffix_rfl

theorem leftOver_even (s : PtpInstanceState) {queue : List ForwardedTLV} {margin : Nat}
    (heven : ∀ tlv ∈ queue, tlv.tlv.value.length % 2 = 0) :
    ∀ tlv ∈ s.leftOver margin queue, tlv.tlv.value.length % 2 = 0 :=
  fun tlv htlv => heven tlv ((s.leftOver_suffix queue margin).mem htlv)

/-- All records of an announce message. -/
def announceRecords (s : PtpInstanceState) (queue : List ForwardedTLV) : List Tlv :=
  s.ownPathTrace ++ s.forwardedRecords s.announceMargin queue

/-- The records of a queue, one record at a time. -/
theorem forwardedRecords_cons (s : PtpInstanceState) {margin : Nat} {tlv : ForwardedTLV}
    (queue : List ForwardedTLV) (hlt : tlv.size < margin) :
    s.forwardedRecords margin (tlv :: queue) = (if s.forwards tlv then [tlv.tlv] else []) ++
      s.forwardedRecords (margin - if s.forwards tlv then tlv.size else 0) queue := by
  rw [forwardedRecords, if_pos hlt]
  split <;> rfl

theorem forwardedRecords_of_not_lt (s : PtpInstanceState) {margin : Nat} {tlv : ForwardedTLV}
    (queue : List ForwardedTLV) (hlt : ¬ tlv.size < margin) :
    s.forwardedRecords margin (tlv :: queue) = [] := by
  rw [forwardedRecords, if_neg hlt]

theorem mem_forwardedRecords (s : PtpInstanceState) : ∀ (queue : List ForwardedTLV) (margin : Nat),
    ∀ t ∈ s.forwardedRecords margin queue, ∃ tlv ∈ queue, t = tlv.tlv ∧ tlv.size < margin := by
  intro queue
  induction queue with
  | nil =>
    intro margin t ht
    cases ht
  | cons tlv queue ih =>
    intro margin t ht
    rw [forwardedRecords] at ht
    split at ht
    · rename_i hlt
      split at ht
      · rcases List.mem_cons.mp ht with rfl | htail
        · exact ⟨tlv, List.mem_cons_self, rfl, hlt⟩
        · obtain ⟨tlv', hmem, ht, hsize⟩ := ih _ t htail
          exact ⟨tlv', List.mem_cons_of_mem _ hmem, ht, by omega⟩
      · obtain ⟨tlv', hmem, ht, hsize⟩ := ih _ t ht
        exact ⟨tlv', List.mem_cons_of_mem _ hmem, ht, hsize⟩
    · cases ht

end PtpInstanceState

/-! ### The builder -/

/-- The builder has used what is not left of the margin, and an even number of bytes. -/
structure BuilderInv (builder : TlvSetBuilder) (margin : Nat) : Prop where
  length : builder.buffer.length = maxDataLen
  used : builder.used + margin = maxDataLen - 64
  even : builder.used % 2 = 0

/-- The builder has room for the margin, and holds these records. -/
structure BuilderHolds (builder : TlvSetBuilder) (margin : Nat) (records : List Tlv) : Prop extends
    BuilderInv builder margin where
  records : builder.Holds records

theorem BuilderHolds.add {builder : TlvSetBuilder} {margin : Nat} {records : List Tlv}
    (h : BuilderHolds builder margin records) {tlv : Tlv} (hfits : tlv.wireSize ≤ margin)
    (heven : tlv.value.length % 2 = 0) :
    ∃ builder', builder.add tlv = .ok builder' ∧
      BuilderHolds builder' (margin - tlv.wireSize) (records ++ [tlv]) := by
  have hused := h.used
  have hmod := h.even
  have hlength := h.length
  have hroom : builder.used + tlv.wireSize ≤ builder.buffer.length := by
    rw [hlength]
    omega
  obtain ⟨builder', hadd, hlen, hnew⟩ := TlvSetBuilder.add_spec hroom
  refine ⟨builder', hadd, ⟨hlen.trans hlength, by omega, ?_⟩,
    TlvSetBuilder.add_holds h.records hroom hadd⟩
  rw [hnew, Tlv.wireSize]
  omega

/-! ### The loop -/

section Loop

variable [ForwardedTLVProvider T] {queue : T → List ForwardedTLV}
  (hserves : ForwardedTLVProvider.Serves queue) (p : Profile) (s : PtpInstanceState)

include hserves

/-- What a record does to the loop. -/
theorem announceLoop_cons {turns margin : Nat} {t : T} {builder : TlvSetBuilder} {records : List Tlv}
    {tlv : ForwardedTLV} {rest : List ForwardedTLV} (hqueue : queue t = tlv :: rest)
    (hturns : ForwardedTLVProvider.pending t < turns + 1)
    (hinv : BuilderHolds builder margin records) (heven : tlv.tlv.value.length % 2 = 0)
    (hlt : tlv.size < margin) :
    ∃ t' builder', queue t' = rest ∧ ForwardedTLVProvider.pending t' < turns ∧
      BuilderHolds builder' (margin - if s.forwards tlv then tlv.size else 0)
        (records ++ if s.forwards tlv then [tlv.tlv] else []) ∧
      Port.announceLoop p s (turns + 1) t margin builder =
        Port.announceLoop p s turns t' (margin - if s.forwards tlv then tlv.size else 0) builder' := by
  obtain ⟨t', hnext, hrest⟩ := hserves.fits hqueue (Nat.le_of_lt hlt)
  have hpending := ForwardedTLVProvider.pending_lt hnext
  have hturns' : ForwardedTLVProvider.pending t' < turns := by omega
  by_cases hforward : s.forwards tlv = true
  · obtain ⟨builder', hadd, hinv'⟩ := hinv.add (Nat.le_of_lt hlt : tlv.tlv.wireSize ≤ margin) heven
    refine ⟨t', builder', hrest, hturns', ?_, ?_⟩
    · rw [if_pos hforward, if_pos hforward]
      exact hinv'
    · obtain ⟨hparent, hpath⟩ := of_decide_eq_true hforward
      rw [Port.announceLoop, hnext, if_pos hforward]
      simp only [decide_eq_true hlt, assert_true, ok_bind]
      rw [if_neg (not_not.mpr hparent), if_neg hpath, hadd, ok_bind]
  · refine ⟨t', builder, hrest, hturns', ?_, ?_⟩
    · rw [if_neg hforward, if_neg hforward, List.append_nil]
      exact hinv
    · rw [Port.announceLoop, hnext, if_neg hforward]
      simp only [decide_eq_true hlt, assert_true, ok_bind]
      by_cases hparent : s.parentDs.parentPortIdentity = tlv.senderIdentity
      · have hpath : s.pathTraceDs.enable = true ∧ tlv.tlv.tlvType = .pathTrace := by
          by_contra hpath
          exact hforward (decide_eq_true ⟨hparent, hpath⟩)
        rw [if_neg (not_not.mpr hparent), if_pos hpath, Nat.sub_zero]
      · rw [if_pos hparent, Nat.sub_zero]

/-- **Without an exact fit the loop ends** when the queue is empty or its head does not fit, and has
added the records that fit one after the other. -/
theorem announceLoop_ok : ∀ (turns margin : Nat) (t : T) (builder : TlvSetBuilder)
    (records : List Tlv), ForwardedTLVProvider.pending t < turns →
    BuilderHolds builder margin records → (∀ tlv ∈ queue t, tlv.tlv.value.length % 2 = 0) →
    NoExactFit s margin (queue t) →
    ∃ t' builder' margin', Port.announceLoop p s turns t margin builder = .ok (t', builder') ∧
      BuilderHolds builder' margin' (records ++ s.forwardedRecords margin (queue t)) ∧
      queue t' = s.leftOver margin (queue t) ∧
      ∀ tlv, (queue t').head? = some tlv → margin' < tlv.size := by
  intro turns
  induction turns with
  | zero => intro margin t builder records hturns; omega
  | succ turns ih =>
    intro margin t builder records hturns hinv heven hfit
    cases hqueue : queue t with
    | nil =>
      obtain ⟨t', hnext, hrest⟩ := hserves.nil margin hqueue
      refine ⟨t', builder, margin, ?_, ?_, hrest, ?_⟩
      · rw [Port.announceLoop, hnext]
      · rw [PtpInstanceState.forwardedRecords, List.append_nil]
        exact hinv
      · intro tlv h
        rw [hrest] at h
        cases h
    | cons tlv rest =>
      rw [hqueue] at heven hfit
      obtain ⟨hne, hfit⟩ := noExactFit_cons.mp hfit
      by_cases hlt : tlv.size < margin
      · obtain ⟨t₁, builder₁, hrest, hturns₁, hinv₁, hloop⟩ := announceLoop_cons hserves p s hqueue
          hturns hinv (heven tlv List.mem_cons_self) hlt
        obtain ⟨t', builder', margin', hok, hinv', hleft, hhead⟩ := ih _ t₁ builder₁ _ hturns₁ hinv₁
          (by rw [hrest]; exact fun tlv' h => heven tlv' (List.mem_cons_of_mem _ h))
          (by rw [hrest]; exact hfit hlt)
        rw [hrest] at hleft hinv'
        refine ⟨t', builder', margin', hloop.trans hok, ?_, ?_, hhead⟩
        · rw [s.forwardedRecords_cons rest hlt, ← List.append_assoc]
          exact hinv'
        · rw [PtpInstanceState.leftOver, if_pos hlt]
          exact hleft
      · obtain ⟨t', hnext, hrest⟩ := hserves.large hqueue (show margin < tlv.size by omega)
        refine ⟨t', builder, margin, ?_, ?_, ?_, ?_⟩
        · rw [Port.announceLoop, hnext]
        · rw [s.forwardedRecords_of_not_lt rest hlt, List.append_nil]
          exact hinv
        · rw [PtpInstanceState.leftOver, if_neg hlt]
          exact hrest
        · intro tlv' h
          rw [hrest] at h
          obtain rfl := Option.some.inj h
          omega

/-- **An exact fit panics.** -/
theorem announceLoop_panics : ∀ (turns margin : Nat) (t : T) (builder : TlvSetBuilder)
    (records : List Tlv), ForwardedTLVProvider.pending t < turns →
    BuilderHolds builder margin records → (∀ tlv ∈ queue t, tlv.tlv.value.length % 2 = 0) →
    ¬ NoExactFit s margin (queue t) →
    Port.announceLoop p s turns t margin builder = .error .assert := by
  intro turns
  induction turns with
  | zero => intro margin t builder records hturns; omega
  | succ turns ih =>
    intro margin t builder records hturns hinv heven hfit
    cases hqueue : queue t with
    | nil =>
      rw [hqueue] at hfit
      exact absurd (fun before tlv after h => by simp at h) hfit
    | cons tlv rest =>
      rw [hqueue] at heven hfit
      rw [noExactFit_cons, not_and_or] at hfit
      by_cases hlt : tlv.size < margin
      · have hrest' : ¬ NoExactFit s (margin - if s.forwards tlv then tlv.size else 0) rest := by
          rcases hfit with hfit | hfit
          · omega
          · exact fun h => hfit fun _ => h
        obtain ⟨t₁, builder₁, hrest, hturns₁, hinv₁, hloop⟩ := announceLoop_cons hserves p s hqueue
          hturns hinv (heven tlv List.mem_cons_self) hlt
        rw [hloop]
        exact ih _ t₁ builder₁ _ hturns₁ hinv₁
          (by rw [hrest]; exact fun tlv' h => heven tlv' (List.mem_cons_of_mem _ h))
          (by rw [hrest]; exact hrest')
      · have hexact : tlv.size = margin := by
          rcases hfit with hfit | hfit
          · exact not_not.mp hfit
          · exact absurd (fun h => absurd h hlt) hfit
        obtain ⟨t', hnext, -⟩ := hserves.fits hqueue (Nat.le_of_eq hexact)
        rw [Port.announceLoop, hnext]
        simp only [decide_eq_false hlt, assert_false, error_bind]

omit [Filter F]

/-- Whatever the records are, the loop takes them from the front of the queue. -/
theorem announceLoop_suffix : ∀ (turns margin : Nat) (t t' : T) (builder builder' : TlvSetBuilder),
    Port.announceLoop p s turns t margin builder = .ok (t', builder') → queue t' <:+ queue t := by
  intro turns
  induction turns with
  | zero =>
    intro margin t t' builder builder' h
    obtain ⟨rfl, -⟩ := Prod.mk.inj (Except.ok.inj h)
    exact List.suffix_rfl
  | succ turns ih =>
    intro margin t t' builder builder' h
    unfold Port.announceLoop at h
    split at h
    · rename_i t₁ hnext
      obtain ⟨rfl, -⟩ := Prod.mk.inj (Except.ok.inj h)
      exact hserves.suffix hnext
    · rename_i tlv t₁ hnext
      obtain ⟨-, -, h⟩ := bind_eq_ok.mp h
      refine List.IsSuffix.trans ?_ (hserves.suffix hnext)
      split at h
      · exact ih _ _ _ _ _ h
      · split at h
        · exact ih _ _ _ _ _ h
        · obtain ⟨builder₁, -, h⟩ := bind_eq_ok.mp h
          exact ih _ _ _ _ _ h

end Loop

/-! ### The message -/

theorem length_pathTraceRecord (s : PtpInstanceState) :
    s.pathTraceRecord.value.length = 8 * (s.pathTraceDs.list.toList.length + 1) := by
  simp [PtpInstanceState.pathTraceRecord, List.length_flatMap]
  omega

theorem pathTraceTlv_eq {s : PtpInstanceState}
    (h : s.pathTraceDs.list.toList.length < maxDataLen / 8) :
    Port.pathTraceTlv s = .ok (some s.pathTraceRecord) := by
  have hpush : s.pathTraceDs.list.tryPush s.defaultDs.clockIdentity =
      some ⟨s.pathTraceDs.list.toList ++ [s.defaultDs.clockIdentity],
        by rw [List.length_append]; exact h⟩ := dif_pos h
  have hlength := length_pathTraceRecord s
  have hmax : maxDataLen = 1024 := rfl
  have hfits : ((s.pathTraceDs.list.toList ++ [s.defaultDs.clockIdentity]).flatMap
      (·.toWire)).length ≤ maxDataLen := by
    rw [PtpInstanceState.pathTraceRecord] at hlength
    dsimp only at hlength
    omega
  rw [Port.pathTraceTlv, hpush]
  dsimp only
  rw [ArrayVec.collect, dif_pos hfits, ok_bind]
  rfl

theorem pathTraceTlv_none {s : PtpInstanceState}
    (h : ¬ s.pathTraceDs.list.toList.length < maxDataLen / 8) :
    Port.pathTraceTlv s = .ok none := by
  have hpush : s.pathTraceDs.list.tryPush s.defaultDs.clockIdentity = none := dif_neg h
  rw [Port.pathTraceTlv, hpush]

/-- **The own path trace** leaves the announce margin. -/
theorem addPathTrace_spec (s : PtpInstanceState) :
    ∃ builder, Port.addPathTrace s (maxDataLen - 64)
      (TlvSetBuilder.new (List.replicate maxDataLen 0)) = .ok (s.announceMargin, builder) ∧
      BuilderHolds builder s.announceMargin s.ownPathTrace := by
  have hinv : BuilderHolds (TlvSetBuilder.new (List.replicate maxDataLen 0)) (maxDataLen - 64) [] :=
    ⟨⟨List.length_replicate, rfl, rfl⟩, rfl⟩
  have hsize : s.pathTraceRecord.wireSize = 4 + 8 * (s.pathTraceDs.list.toList.length + 1) := by
    rw [Tlv.wireSize, length_pathTraceRecord]
  unfold Port.addPathTrace PtpInstanceState.announceMargin PtpInstanceState.pathTraceSize
    PtpInstanceState.ownPathTrace
  rw [← hsize]
  dsimp only
  by_cases hadded : s.pathTraceDs.enable = true ∧
      s.pathTraceDs.list.toList.length < maxDataLen / 8 ∧ s.pathTraceRecord.wireSize < maxDataLen - 64
  · obtain ⟨henable, hroom, hfits⟩ := hadded
    have heven : s.pathTraceRecord.value.length % 2 = 0 := by
      rw [length_pathTraceRecord]
      omega
    obtain ⟨builder, hadd, hinv'⟩ := hinv.add (Nat.le_of_lt hfits) heven
    rw [if_pos henable, pathTraceTlv_eq hroom, ok_bind, if_pos ⟨henable, hroom, hfits⟩,
      if_pos ⟨henable, hroom, hfits⟩]
    refine ⟨builder, ?_, hinv'⟩
    dsimp only
    rw [if_pos hfits, hadd, ok_bind, pure_eq_ok]
  · rw [if_neg hadded, if_neg hadded]
    refine ⟨_, ?_, hinv⟩
    split
    · rename_i henable
      by_cases hroom : s.pathTraceDs.list.toList.length < maxDataLen / 8
      · rw [pathTraceTlv_eq hroom, ok_bind]
        exact if_neg fun hfits => hadded ⟨henable, hroom, hfits⟩
      · rw [pathTraceTlv_none hroom, ok_bind]
        rfl
    · rfl

/-- The record comes from the announce message of some sender. -/
def ForwardedTLV.FromAnnounce (p : Profile) (tlv : ForwardedTLV) : Prop :=
  ∃ data message announce actions tlvs, Message.deserialize data = .ok message ∧
    message.body = .announce announce ∧
    ((PortActionIterator.of actions).withForwardTlvs message.suffix
      message.header.sourcePortIdentity).forwardedTlvs p = .ok tlvs ∧ tlv ∈ tlvs

theorem ForwardedTLV.FromAnnounce.even {p : Profile} {tlv : ForwardedTLV} (h : tlv.FromAnnounce p) :
    tlv.tlv.value.length % 2 = 0 := by
  obtain ⟨data, message, announce, actions, tlvs, hparse, -, htlvs, hmem⟩ := h
  obtain ⟨all, hall, heven⟩ := TlvSet.tlv_of_accepted p (Message.deserialize_spec hparse).1.suffix
  obtain ⟨all', hall', htlvs⟩ := bind_eq_ok.mp htlvs
  obtain rfl := Except.ok.inj (hall.symm.trans hall')
  rw [← Except.ok.inj htlvs] at hmem
  obtain ⟨t, ht, rfl⟩ := List.mem_map.mp hmem
  exact heven t (List.mem_filter.mp ht).1

namespace Port

/-- The announce message without records. -/
theorem wireSize_announce (p : Profile) (s : PtpInstanceState) (portIdentity : PortIdentity)
    (seqId : UInt16) (version : UInt8) :
    (Message.announce s portIdentity seqId version).wireSize p = .ok 64 := by
  cases p <;> rfl

/-- The announce message with these records. -/
def announceWith (s : PtpInstanceState) (port : Port Running A R C F) (records : List Tlv) :
    Message :=
  { Message.announce s port.portIdentity port.announceSeqIds.current
      port.config.minorPtpVersion.toUInt8 with
    suffix := ⟨records.flatMap Tlv.toBytes⟩ }

section Build

variable [ForwardedTLVProvider T] {queue : T → List ForwardedTLV}
  (hserves : ForwardedTLVProvider.Serves queue) (p : Profile) (s : PtpInstanceState)
  (port : Port Running A R C F) {provider : T}
  (heven : ∀ tlv ∈ queue provider, tlv.tlv.value.length % 2 = 0)

include hserves heven

/-- **The message that is built** fills a packet up to a margin that the next record exceeds; with
an exact fit there is none. -/
theorem buildAnnounce_spec :
    (NoExactFit s s.announceMargin (queue provider) →
      ∃ message provider', port.buildAnnounce p s port.announceSeqIds.current provider =
          .ok (message, provider') ∧
        message = port.announceWith s (s.announceRecords (queue provider)) ∧
        message.suffix.bytes.length % 2 = 0 ∧ message.size ≤ maxDataLen ∧
        queue provider' = s.leftOver s.announceMargin (queue provider) ∧
        ∀ tlv, (queue provider').head? = some tlv → maxDataLen - message.size < tlv.size) ∧
    (¬ NoExactFit s s.announceMargin (queue provider) →
      port.buildAnnounce p s port.announceSeqIds.current provider = .error .assert) := by
  obtain ⟨builder, hpath, hinv⟩ := addPathTrace_spec s
  constructor
  · intro hfit
    obtain ⟨provider', builder', margin', hloop, hinv', hleft, hhead⟩ := announceLoop_ok hserves p s
      (ForwardedTLVProvider.pending provider + 1) s.announceMargin provider builder _
      (Nat.lt_succ_self _) hinv heven hfit
    have hused := hinv'.used
    have hlength := hinv'.length
    have hmax : maxDataLen = 1024 := rfl
    obtain ⟨suffix, hsuffixOk, hbytes⟩ := TlvSetBuilder.build_spec (b := builder') (by omega)
    obtain rfl : suffix = ⟨(s.announceRecords (queue provider)).flatMap Tlv.toBytes⟩ := by
      cases suffix
      exact congrArg TlvSet.mk (TlvSetBuilder.build_holds hinv'.records hsuffixOk)
    have hsize : (port.announceWith s (s.announceRecords (queue provider))).size =
        64 + builder'.used := by
      rw [← hbytes]
      rfl
    refine ⟨_, provider', ?_, rfl, ?_, ?_, hleft, ?_⟩
    · rw [buildAnnounce, wireSize_announce, ok_bind, hpath, ok_bind]
      dsimp only
      rw [hloop, ok_bind]
      dsimp only
      rw [hsuffixOk, ok_bind]
      rfl
    · exact (congrArg (· % 2) hbytes).trans hinv'.even
    · omega
    · intro tlv h
      have := hhead tlv h
      omega
  · intro hfit
    rw [buildAnnounce, wireSize_announce, ok_bind, hpath, ok_bind]
    dsimp only
    rw [announceLoop_panics hserves p s _ _ _ _ _ (Nat.lt_succ_self _) hinv heven hfit, error_bind]

variable {p s port}

/-- What a message that is built is. -/
theorem buildAnnounce_inv {message : Message} {provider' : T}
    (h : port.buildAnnounce p s port.announceSeqIds.current provider = .ok (message, provider')) :
    NoExactFit s s.announceMargin (queue provider) ∧
      message = port.announceWith s (s.announceRecords (queue provider)) ∧
      message.suffix.bytes.length % 2 = 0 ∧ message.size ≤ maxDataLen := by
  obtain ⟨hok, hpanic⟩ := buildAnnounce_spec hserves p s port heven
  by_cases hfit : NoExactFit s s.announceMargin (queue provider)
  · obtain ⟨message', provider₁, hbuild, hmessage, hsuffix, hsize, -⟩ := hok hfit
    obtain ⟨rfl, -⟩ := Prod.mk.inj (Except.ok.inj (hbuild.symm.trans h))
    exact ⟨hfit, hmessage, hsuffix, hsize⟩
  · cases (hpanic hfit).symm.trans h

end Build

/-- An announce takes records from the front of the queue. -/
theorem sendAnnounce_suffix [ForwardedTLVProvider T] {queue : T → List ForwardedTLV}
    (hserves : ForwardedTLVProvider.Serves queue) {p : Profile} {s : PtpInstanceState}
    {port port' : Port Running A R C F} {provider provider' : T} {actions : PortActionIterator}
    (h : port.sendAnnounce p s provider = .ok (port', provider', actions)) :
    queue provider' <:+ queue provider := by
  unfold sendAnnounce at h
  split at h
  · obtain ⟨⟨message, provider₁⟩, hbuild, h⟩ := bind_eq_ok.mp h
    obtain ⟨⟨buffer, data⟩, -, h⟩ := bind_eq_ok.mp h
    obtain ⟨duration, -, h⟩ := bind_eq_ok.mp h
    obtain ⟨-, hrest⟩ := Prod.mk.inj (Except.ok.inj h)
    obtain ⟨rfl, -⟩ := Prod.mk.inj hrest
    obtain ⟨size, -, hbuild⟩ := bind_eq_ok.mp hbuild
    obtain ⟨⟨margin, builder⟩, -, hbuild⟩ := bind_eq_ok.mp hbuild
    obtain ⟨⟨provider₂, builder'⟩, hloop, hbuild⟩ := bind_eq_ok.mp hbuild
    obtain ⟨suffix, -, hbuild⟩ := bind_eq_ok.mp hbuild
    obtain ⟨-, rfl⟩ := Prod.mk.inj (Except.ok.inj hbuild)
    exact announceLoop_suffix hserves p s _ _ _ _ _ _ hloop
  · obtain ⟨-, hrest⟩ := Prod.mk.inj (Except.ok.inj h)
    obtain ⟨rfl, -⟩ := Prod.mk.inj hrest
    exact List.suffix_rfl

/-- The wire has codes for the accuracy and the time source, and the announce interval is a duration. -/
def CanAnnounce (p : Profile) (s : PtpInstanceState) (port : Port Running A R C F) : Prop :=
  (∃ code, s.parentDs.grandmasterClockQuality.clockAccuracy.toPrimitive p = .ok code) ∧
    (∃ code, s.timePropertiesDs.timeSource.toPrimitive p = .ok code) ∧
    port.config.announceInterval.log2.toInt < 64

section Send

variable [ForwardedTLVProvider T] {queue : T → List ForwardedTLV}
  (hserves : ForwardedTLVProvider.Serves queue) {p : Profile} {s : PtpInstanceState}
  {port : Port Running A R C F} {provider : T} (hmaster : port.portState = .master)
  (heven : ∀ tlv ∈ queue provider, tlv.tlv.value.length % 2 = 0)

include hserves hmaster heven

/-- **An announce that is sent**: the packet holds the records that fit one after the other. -/
theorem sendAnnounce_ok (hfit : NoExactFit s s.announceMargin (queue provider))
    (hcan : port.CanAnnounce p s) :
    ∃ port' provider' duration data, port.sendAnnounce p s provider = .ok (port', provider',
        .of [.resetAnnounceTimer duration, .sendGeneral data false]) ∧
      port'.portState = port.portState ∧ port'.config = port.config ∧
      data.drop 64 = (s.announceRecords (queue provider)).flatMap Tlv.toBytes ∧
      data.length ≤ maxDataLen ∧
      queue provider' = s.leftOver s.announceMargin (queue provider) ∧
      ∀ tlv, (queue provider').head? = some tlv → maxDataLen - data.length < tlv.size := by
  obtain ⟨haccuracy, hsource, hinterval⟩ := hcan
  obtain ⟨message, provider', hbuild, hmessage, hlen, hsize, hleft, hhead⟩ :=
    (buildAnnounce_spec hserves p s port heven).1 hfit
  have hbody : message.body = .announce _ := congrArg Message.body hmessage
  have hroom : message.size ≤ port.packetBuffer.bytes.length := by
    rw [port.packetBuffer.length_eq]
    exact hsize
  obtain ⟨⟨out, n⟩, hserialize⟩ := (Message.serialize_announce_iff p hbody hlen hroom).mpr
    ⟨haccuracy, hsource⟩
  have hsuffix : (out.take n).drop 64 = message.suffix.bytes := by
    have := Message.suffix_of_serialize hserialize
    rwa [hbody] at this
  obtain rfl := Message.serialize_size hserialize
  have hlength := Message.length_serialize hserialize
  obtain ⟨buffer, hbuffer⟩ := PacketBuffer.serialize_of_ok hserialize (by omega)
  have hdata : (out.take message.size).length = message.size := by
    rw [List.length_take]
    omega
  have hduration : port.config.announceInterval.asCoreDuration =
      .ok port.config.announceInterval.seconds := if_pos hinterval
  refine ⟨{ port with announceSeqIds := port.announceSeqIds.generate.2, packetBuffer := buffer },
    provider', port.config.announceInterval.seconds, out.take message.size, ?_, rfl, rfl, ?_, ?_,
    hleft, ?_⟩
  · rw [sendAnnounce, if_pos hmaster]
    simp only [SequenceIdGenerator.generate, hbuild, ok_bind, hbuffer, hduration, pure_eq_ok]
  · rw [hsuffix, hmessage]
    rfl
  · rw [hdata]
    exact hsize
  · rw [hdata]
    exact hhead

/-- Nothing else can stop it. -/
theorem sendAnnounce_inv {r : Port Running A R C F × T × PortActionIterator}
    (h : port.sendAnnounce p s provider = .ok r) :
    NoExactFit s s.announceMargin (queue provider) ∧ port.CanAnnounce p s := by
  rw [sendAnnounce, if_pos hmaster] at h
  obtain ⟨⟨message, rest⟩, hbuild, h⟩ := bind_eq_ok.mp h
  obtain ⟨⟨buffer, data'⟩, hserialize, h⟩ := bind_eq_ok.mp h
  obtain ⟨duration', hduration, -⟩ := bind_eq_ok.mp h
  obtain ⟨hfit, rfl, hlen, hsize⟩ := buildAnnounce_inv hserves heven hbuild
  have hcodes := (Message.serialize_announce_iff p rfl hlen (by
    rw [port.packetBuffer.length_eq]
    exact hsize)).mp (PacketBuffer.serialize_eq_ok hserialize)
  refine ⟨hfit, hcodes.1, hcodes.2, ?_⟩
  by_contra hlong
  rw [Interval.asCoreDuration, if_neg hlong] at hduration
  cases hduration

end Send

/-- An announce is sent in one packet, and the forwarder is left empty or with a record that
does not fit the packet any more. -/
def AnnounceSent (p : Profile) (s : PtpInstanceState) (port : Port Running A R C F)
    (forwarder : TlvForwarder) : Prop :=
  ∃ port' forwarder' duration data, port.sendAnnounce p s forwarder = .ok (port', forwarder',
      .of [.resetAnnounceTimer duration, .sendGeneral data false]) ∧
    data.length ≤ maxDataLen ∧ forwarder'.queue <:+ forwarder.queue ∧
    ∀ tlv, forwarder'.queue.head? = some tlv → maxDataLen - data.length < tlv.size

/-- **When an announce is sent.**  No record may have exactly the size that is left when the loop
comes to it; besides that only the codes of the clock and the announce interval can stop it. -/
theorem announceSent_iff (p : Profile) (s : PtpInstanceState) {port : Port Running A R C F}
    {forwarder : TlvForwarder} (hmaster : port.portState = .master)
    (hqueue : ∀ tlv ∈ forwarder.queue, tlv.FromAnnounce p) :
    port.AnnounceSent p s forwarder ↔
      NoExactFit s s.announceMargin forwarder.queue ∧
      (∃ code, s.parentDs.grandmasterClockQuality.clockAccuracy.toPrimitive p = .ok code) ∧
      (∃ code, s.timePropertiesDs.timeSource.toPrimitive p = .ok code) ∧
      port.config.announceInterval.log2.toInt < 64 := by
  have hvalues : ∀ tlv ∈ forwarder.queue, tlv.tlv.value.length % 2 = 0 :=
    fun tlv h => (hqueue tlv h).even
  constructor
  · rintro ⟨port', forwarder', duration, data, hsent, -⟩
    exact sendAnnounce_inv TlvForwarder.serves hmaster hvalues hsent
  · rintro ⟨hfit, hcan⟩
    obtain ⟨port', forwarder', duration, data, hsent, -, -, -, hsize, hleft, hhead⟩ :=
      sendAnnounce_ok TlvForwarder.serves hmaster hvalues hfit hcan
    exact ⟨port', forwarder', duration, data, hsent, hsize, hleft ▸ s.leftOver_suffix _ _, hhead⟩

end Port

/-! ### An exact fit -/

/-- An announce message of port 1 of clock 9 with one record of type `0x4000`. -/
def announceWithRecord (length : Nat) : List UInt8 :=
  announceBytes 9 1 (68 + length) 0 ++ [0x40, 0] ++ toBE 2 length ++ List.replicate length 0

/-- This record, as it is forwarded. -/
def forwardedRecord (length : Nat) : ForwardedTLV where
  tlv := { tlvType := .organizationExtensionPropagate, value := List.replicate length 0 }
  senderIdentity := testParent

/-- Whether the iterator of the message yields the record. -/
def yieldsRecord (p : Profile) (length : Nat) : Bool :=
  match Message.deserialize (announceWithRecord length) with
  | .ok message =>
    match message.body, ((PortActionIterator.of []).withForwardTlvs message.suffix
        message.header.sourcePortIdentity).forwardedTlvs p with
    | .announce _, .ok tlvs => tlvs.contains (forwardedRecord length)
    | _, _ => false
  | .error _ => false

theorem fromAnnounce_of_yields {p : Profile} {length : Nat} (h : yieldsRecord p length = true) :
    (forwardedRecord length).FromAnnounce p := by
  unfold yieldsRecord at h
  split at h
  · rename_i message hparse
    split at h
    · rename_i announce tlvs hbody htlvs
      exact ⟨_, message, announce, [], tlvs, hparse, hbody, htlvs, List.contains_iff_mem.mp h⟩
    · cases h
  · cases h

/-- A forwarder with just this record. -/
def forwarderWith (length : Nat) : TlvForwarder where
  receiver := [.value (forwardedRecord length)]
  peek := none

theorem queue_forwarderWith (length : Nat) : (forwarderWith length).queue = [forwardedRecord length] :=
  rfl

theorem fromAnnounce_forwarderWith {p : Profile} {length : Nat} (h : yieldsRecord p length = true) :
    ∀ tlv ∈ (forwarderWith length).queue, tlv.FromAnnounce p := by
  intro tlv hmem
  rw [queue_forwarderWith] at hmem
  rw [List.mem_singleton.mp hmem]
  exact fromAnnounce_of_yields h

namespace Port

/-- A small record is sent along. -/
theorem announceSent_small_record :
    (testPort default .master).AnnounceSent .debug (followingState testInstanceConfig)
      (forwarderWith 16) := by
  refine (announceSent_iff .debug _ rfl (fromAnnounce_forwarderWith (by decide +kernel))).mpr
    ⟨?_, ⟨_, rfl⟩, ⟨_, rfl⟩, by decide⟩
  refine noExactFit_cons.mpr ⟨by decide +kernel, fun _ before tlv after h => ?_⟩
  simp at h

/-- **A record of 960 bytes panics** when it is the first one and there is no path trace: that is
exactly what the announce leaves of a packet. -/
theorem exact_record_not_sent :
    (∀ tlv ∈ (forwarderWith 956).queue, tlv.FromAnnounce .release) ∧
    (testPort default .master).sendAnnounce .release (followingState testInstanceConfig)
      (forwarderWith 956) = .error .assert ∧
    ¬ (testPort default .master).AnnounceSent .release (followingState testInstanceConfig)
      (forwarderWith 956) := by
  have herror : (testPort default .master).sendAnnounce .release (followingState testInstanceConfig)
      (forwarderWith 956) = .error .assert :=
    eq_error_of_raises (by decide +kernel)
  refine ⟨fromAnnounce_forwarderWith (by decide +kernel), herror, ?_⟩
  rintro ⟨port', forwarder', duration, data, hsent, -⟩
  cases herror.symm.trans hsent

end Port

end Statime
