import Mathlib.Data.List.Basic
import Mathlib.Tactic.Ring
import Statime.Rust.Panic

/-!
# Byte buffers

A slice of bytes is a `List UInt8`.  `slice b i j` is `b[i..j]` and
`write b i xs` is `b` after `b[i..][..xs.len()].copy_from_slice(xs)`; `readAt`
and `writeAt` are the same two with their bounds check.  The lemmas say what
reading gives after writing: the bytes written (`slice_write_same`), or what was
there before when the two ranges do not meet (`slice_write_left`,
`slice_write_right`).  `fill` makes several copies; `fill_read` and `fill_frame` are
the same two facts about all of them, and `fill_allBut` says when they leave nothing of the
buffer but some bytes.

`toBE n v` and `ofBE` are `to_be_bytes` and `from_be_bytes` of an integer of `n`
bytes; they are inverse to each other (`ofBE_toBE`, `toBE_ofBE`).
-/

namespace Rust

/-- `b[i..j]`, for ranges inside `b`. -/
def slice (b : List UInt8) (i j : Nat) : List UInt8 := (b.drop i).take (j - i)

/-- `b` with `xs` copied over the bytes from `i` on, for ranges inside `b`. -/
def write (b : List UInt8) (i : Nat) (xs : List UInt8) : List UInt8 :=
  b.take i ++ xs ++ b.drop (i + xs.length)

/-- The byte at `i`, for positions inside `b`. -/
def byteAt (b : List UInt8) (i : Nat) : UInt8 := b.getD i 0

/-- `b[i]`. -/
def index (b : List UInt8) (i : Nat) : Except Panic UInt8 :=
  if i < b.length then .ok (byteAt b i) else .error .index

/-- `b[i..j]`. -/
def readAt (b : List UInt8) (i j : Nat) : Except Panic (List UInt8) :=
  if i ≤ j ∧ j ≤ b.length then .ok (slice b i j) else .error .index

/-- `b[i..][..xs.len()].copy_from_slice(xs)`. -/
def writeAt (b : List UInt8) (i : Nat) (xs : List UInt8) : Except Panic (List UInt8) :=
  if i + xs.length ≤ b.length then .ok (write b i xs) else .error .index

/-- Several such copies, one after the other: pairs of a position and the bytes to put there. -/
def fill (b : List UInt8) : List (Nat × List UInt8) → Except Panic (List UInt8)
  | [] => .ok b
  | (i, xs) :: segs => do
    let b ← writeAt b i xs
    fill b segs

/-- `b.get(i..j)`. -/
def getRange (b : List UInt8) (i j : Nat) : Option (List UInt8) :=
  if i ≤ j ∧ j ≤ b.length then some (slice b i j) else none

/-- `b.get(i..)`. -/
def getFrom (b : List UInt8) (i : Nat) : Option (List UInt8) :=
  if i ≤ b.length then some (b.drop i) else none

/-! ### Lengths and checks -/

theorem length_slice (b : List UInt8) (i j : Nat) :
    (slice b i j).length = min (j - i) (b.length - i) := by
  simp [slice]

theorem length_slice_of_le {b : List UInt8} {i j : Nat} (h : j ≤ b.length) :
    (slice b i j).length = j - i := by
  rw [length_slice]
  omega

theorem length_write {b : List UInt8} {i : Nat} {xs : List UInt8}
    (h : i + xs.length ≤ b.length) : (write b i xs).length = b.length := by
  simp only [write, List.length_append, List.length_take, List.length_drop]
  omega

theorem readAt_eq_ok {b : List UInt8} {i j : Nat} (hij : i ≤ j) (hj : j ≤ b.length) :
    readAt b i j = .ok (slice b i j) := if_pos ⟨hij, hj⟩

theorem writeAt_eq_ok {b : List UInt8} {i : Nat} {xs : List UInt8}
    (h : i + xs.length ≤ b.length) : writeAt b i xs = .ok (write b i xs) := if_pos h

theorem index_eq_ok {b : List UInt8} {i : Nat} (h : i < b.length) :
    index b i = .ok (byteAt b i) := if_pos h

theorem getRange_eq_some {b : List UInt8} {i j : Nat} {s : List UInt8} :
    getRange b i j = some s ↔ (i ≤ j ∧ j ≤ b.length) ∧ slice b i j = s := by
  unfold getRange
  split <;> simp_all

/-! ### Reading what was written -/

theorem slice_write_same {b : List UInt8} {i j : Nat} {xs : List UInt8}
    (h : i ≤ b.length) (hj : j = i + xs.length) : slice (write b i xs) i j = xs := by
  subst hj
  have hlen : (b.take i).length = i := by simp [h]
  rw [slice, write, List.append_assoc, List.drop_append_of_le_length (by omega),
    List.drop_of_length_le (by omega), List.nil_append,
    List.take_append_of_le_length (by omega), List.take_of_length_le (by omega)]

theorem slice_append_left {a b : List UInt8} {i j : Nat} (h : j ≤ a.length) :
    slice (a ++ b) i j = slice a i j := by
  rcases Nat.lt_or_ge j i with hlt | hle
  · simp [slice, show j - i = 0 by omega]
  · rw [slice, slice, List.drop_append_of_le_length (by omega),
      List.take_append_of_le_length (by simp; omega)]

theorem slice_append_right {a b : List UInt8} {i j : Nat} (h : a.length ≤ i) :
    slice (a ++ b) i j = slice b (i - a.length) (j - a.length) := by
  rw [slice, slice, List.drop_append, List.drop_of_length_le h, List.nil_append]
  congr 1
  omega

theorem slice_write_left {b : List UInt8} {i j k : Nat} {xs : List UInt8}
    (hk : k ≤ b.length) (h : j ≤ k) : slice (write b k xs) i j = slice b i j := by
  have hlen : (b.take k).length = k := by simp [hk]
  rw [write, List.append_assoc, slice_append_left (by omega)]
  conv_rhs => rw [← List.take_append_drop k b]
  rw [slice_append_left (by omega)]

theorem slice_write_right {b : List UInt8} {i j k : Nat} {xs : List UInt8}
    (hk : k + xs.length ≤ b.length) (h : k + xs.length ≤ i) :
    slice (write b k xs) i j = slice b i j := by
  have hlen : (b.take k ++ xs).length = k + xs.length := by
    simp; omega
  rw [write, slice_append_right (by omega), hlen]
  simp only [slice, List.drop_drop]
  rw [show k + xs.length + (i - (k + xs.length)) = i by omega]
  congr 1
  omega

theorem byteAt_eq_slice (b : List UInt8) (i : Nat) : byteAt b i = byteAt (slice b i (i + 1)) 0 := by
  simp [byteAt, slice, List.getD_eq_getElem?_getD]

theorem byteAt_append_left {a b : List UInt8} {i : Nat} (h : i < a.length) :
    byteAt (a ++ b) i = byteAt a i := by
  rw [byteAt_eq_slice, byteAt_eq_slice a, slice_append_left (by omega)]

theorem length_fill : ∀ (segs : List (Nat × List UInt8)) (b out : List UInt8),
    fill b segs = .ok out → out.length = b.length := by
  intro segs
  induction segs with
  | nil => intro b out h; rw [← Except.ok.inj h]
  | cons s segs ih =>
    intro b out h
    obtain ⟨b₁, hb₁, h⟩ := bind_eq_ok.mp h
    rw [ih b₁ out h]
    rw [writeAt] at hb₁
    split at hb₁
    · rename_i hfit
      rw [← Except.ok.inj hb₁, length_write hfit]
    · cases hb₁

/-- Copies that fit leave every range they do not meet as it was. -/
theorem fill_frame : ∀ (segs : List (Nat × List UInt8)) (b : List UInt8),
    (∀ s ∈ segs, s.1 + s.2.length ≤ b.length) →
      ∃ out, fill b segs = .ok out ∧ out.length = b.length ∧
        ∀ i j, (∀ s ∈ segs, j ≤ s.1 ∨ s.1 + s.2.length ≤ i) → slice out i j = slice b i j := by
  intro segs
  induction segs with
  | nil => intro b _; exact ⟨b, rfl, rfl, fun _ _ _ => rfl⟩
  | cons s segs ih =>
    intro b hfit
    obtain ⟨k, xs⟩ := s
    have hk : k + xs.length ≤ b.length := hfit _ List.mem_cons_self
    obtain ⟨out, hout, hlen, hframe⟩ := ih (write b k xs) (fun t ht => by
      rw [length_write hk]
      exact hfit t (List.mem_cons_of_mem _ ht))
    refine ⟨out, ?_, by rw [hlen, length_write hk], fun i j hij => ?_⟩
    · rw [fill, writeAt_eq_ok hk, ok_bind, hout]
    · rw [hframe i j (fun t ht => hij t (List.mem_cons_of_mem _ ht))]
      rcases hij _ List.mem_cons_self with h | h
      · exact slice_write_left (by omega) h
      · exact slice_write_right hk h

/-- **Copies that fit and do not overlap can all be read back.** -/
theorem fill_read : ∀ (segs : List (Nat × List UInt8)) (b out : List UInt8),
    (∀ s ∈ segs, s.1 + s.2.length ≤ b.length) →
    segs.Pairwise (fun s t => s.1 + s.2.length ≤ t.1 ∨ t.1 + t.2.length ≤ s.1) →
    fill b segs = .ok out →
      ∀ s ∈ segs, slice out s.1 (s.1 + s.2.length) = s.2 := by
  intro segs
  induction segs with
  | nil => intro b out _ _ _ s hs; cases hs
  | cons s segs ih =>
    intro b out hfit hdisj hfill t ht
    obtain ⟨k, xs⟩ := s
    have hk : k + xs.length ≤ b.length := hfit _ List.mem_cons_self
    have hrest : ∀ t ∈ segs, t.1 + t.2.length ≤ (write b k xs).length := fun t ht => by
      rw [length_write hk]
      exact hfit t (List.mem_cons_of_mem _ ht)
    rw [fill, writeAt_eq_ok hk, ok_bind] at hfill
    rcases List.mem_cons.mp ht with rfl | hmem
    · obtain ⟨out', hout', -, hframe⟩ := fill_frame segs (write b k xs) hrest
      obtain rfl := Except.ok.inj (hout'.symm.trans hfill)
      rw [hframe _ _ (fun u hu => (List.pairwise_cons.mp hdisj).1 u hu)]
      exact slice_write_same (by omega) rfl
    · exact ih (write b k xs) out hrest (List.pairwise_cons.mp hdisj).2 hfill t hmem

/-- What a layout of separate copies leaves in the buffer. -/
theorem fill_layout (segs : List (Nat × List UInt8)) {b : List UInt8}
    (hfit : ∀ s ∈ segs, s.1 + s.2.length ≤ b.length)
    (hdisj : segs.Pairwise (fun s t => s.1 + s.2.length ≤ t.1 ∨ t.1 + t.2.length ≤ s.1)) :
    ∃ out, fill b segs = .ok out ∧ out.length = b.length ∧
      ∀ s ∈ segs, slice out s.1 (s.1 + s.2.length) = s.2 := by
  obtain ⟨out, hout, hlen, -⟩ := fill_frame segs b hfit
  exact ⟨out, hout, hlen, fill_read segs b out hfit hdisj hout⟩

/-! ### What the copies leave out -/

theorem byteAt_write {b xs : List UInt8} {i : Nat} (h : i + xs.length ≤ b.length) (j : Nat) :
    byteAt (write b i xs) j =
      if i ≤ j ∧ j < i + xs.length then byteAt xs (j - i) else byteAt b j := by
  have hlen : (b.take i).length = i := List.length_take_of_le (by omega)
  simp only [byteAt, write, List.append_assoc, List.getD_eq_getElem?_getD]
  rcases Nat.lt_or_ge j i with hlt | hge
  · rw [if_neg (by omega), List.getElem?_append_left (by omega), List.getElem?_take_of_lt hlt]
  · rw [List.getElem?_append_right (by omega), hlen]
    rcases Nat.lt_or_ge j (i + xs.length) with hin | hout
    · rw [if_pos ⟨hge, hin⟩, List.getElem?_append_left (by omega)]
    · rw [if_neg (by omega), List.getElem?_append_right (by omega), List.getElem?_drop]
      congr 2
      omega

theorem ext_byteAt {b b' : List UInt8} (hlen : b'.length = b.length)
    (h : ∀ j < b.length, byteAt b' j = byteAt b j) : b' = b := by
  refine List.ext_getElem hlen fun j hj hj' => ?_
  simpa only [byteAt, List.getD_eq_getElem?_getD, List.getElem?_eq_getElem hj,
    List.getElem?_eq_getElem hj', Option.getD_some] using h j hj'

/-- One of the copies writes this byte. -/
def Covered (segs : List (Nat × List UInt8)) (j : Nat) : Prop :=
  ∃ s ∈ segs, s.1 ≤ j ∧ j < s.1 + s.2.length

/-- **The same copies into two buffers** give the same bytes where they write. -/
theorem fill_twice : ∀ (segs : List (Nat × List UInt8)) {b b' out : List UInt8},
    b'.length = b.length → fill b segs = .ok out →
      ∃ out', fill b' segs = .ok out' ∧ (∀ j, Covered segs j → byteAt out' j = byteAt out j) ∧
        ∀ j, ¬ Covered segs j → byteAt out j = byteAt b j ∧ byteAt out' j = byteAt b' j := by
  intro segs
  induction segs with
  | nil =>
    intro b b' out _ h
    obtain rfl := Except.ok.inj h
    exact ⟨b', rfl, fun j ⟨s, hs, _⟩ => absurd hs List.not_mem_nil, fun j _ => ⟨rfl, rfl⟩⟩
  | cons s segs ih =>
    intro b b' out hlen h
    obtain ⟨i, xs⟩ := s
    obtain ⟨b₁, hb₁, h⟩ := bind_eq_ok.mp h
    rw [writeAt] at hb₁
    split at hb₁
    · rename_i hfit
      obtain rfl := Except.ok.inj hb₁
      have hfit' : i + xs.length ≤ b'.length := by omega
      obtain ⟨out', hout', hsame, hkept⟩ := ih
        (show (write b' i xs).length = (write b i xs).length by
          rw [length_write hfit, length_write hfit', hlen]) h
      refine ⟨out', by rw [fill, writeAt_eq_ok hfit', ok_bind, hout'], fun j hj => ?_, fun j hj => ?_⟩
      · by_cases hlater : Covered segs j
        · exact hsame j hlater
        · obtain ⟨hout₁, hout₂⟩ := hkept j hlater
          obtain ⟨s, hs, hin⟩ := hj
          rcases List.mem_cons.mp hs with rfl | hs
          · rw [hout₁, hout₂, byteAt_write hfit, byteAt_write hfit', if_pos hin, if_pos hin]
          · exact absurd ⟨s, hs, hin⟩ hlater
      · obtain ⟨hout₁, hout₂⟩ := hkept j fun ⟨s, hs, hin⟩ => hj ⟨s, List.mem_cons_of_mem _ hs, hin⟩
        have hfirst : ¬ (i ≤ j ∧ j < i + xs.length) := fun hin =>
          hj ⟨(i, xs), List.mem_cons_self, hin⟩
        rw [hout₁, hout₂, byteAt_write hfit, byteAt_write hfit', if_neg hfirst, if_neg hfirst]
        exact ⟨rfl, rfl⟩
    · cases hb₁

/-- The writer fills a buffer of `n` bytes but for these positions: what it leaves in two buffers is
the same exactly when they agree there. -/
def FillsAllBut {ε : Type} (kept : List Nat) (n : Nat) (f : List UInt8 → Except ε (List UInt8)) : Prop :=
  ∀ b b' out, b.length = n → b'.length = n → f b = .ok out →
    ∃ out', f b' = .ok out' ∧ (out' = out ↔ ∀ j ∈ kept, byteAt b' j = byteAt b j)

theorem fill_allBut {segs : List (Nat × List UInt8)} {kept : List Nat} {n : Nat}
    (hkept : ∀ j ∈ kept, j < n) (h : ∀ j < n, Covered segs j ↔ j ∉ kept) :
    FillsAllBut kept n fun b => fill b segs := by
  intro b b' out hb hb' hout
  obtain ⟨out', hout', hsame, hleft⟩ := fill_twice segs (hb'.trans hb.symm) hout
  refine ⟨out', hout', ?_⟩
  constructor
  · rintro rfl j hj
    obtain ⟨h₁, h₂⟩ := hleft j fun hcovered => (h j (hkept j hj)).mp hcovered hj
    rw [← h₁, ← h₂]
  · intro hagree
    have hlen := length_fill segs b out hout
    have hlen' := length_fill segs b' out' hout'
    refine ext_byteAt (by omega) fun j hj => ?_
    by_cases hin : j ∈ kept
    · obtain ⟨h₁, h₂⟩ := hleft j fun hcovered => (h j (hkept j hin)).mp hcovered hin
      rw [h₁, h₂, hagree j hin]
    · exact hsame j ((h j (by omega)).mpr hin)

theorem slice_of_slice {b : List UInt8} {i j k l : Nat} (h : i + l ≤ j) :
    slice (slice b i j) k l = slice b (i + k) (i + l) := by
  simp only [slice, List.drop_take, List.drop_drop, List.take_take]
  congr 1
  omega

theorem slice_zero (b : List UInt8) (n : Nat) : slice b 0 n = b.take n := by simp [slice]

theorem slice_all {b : List UInt8} {n : Nat} (h : b.length ≤ n) : slice b 0 n = b := by
  rw [slice_zero, List.take_of_length_le h]

theorem getRange_append_left {a b : List UInt8} {i j : Nat} (hij : i ≤ j) (hj : j ≤ a.length) :
    getRange (a ++ b) i j = some (slice a i j) := by
  refine getRange_eq_some.mpr ⟨⟨hij, ?_⟩, slice_append_left hj⟩
  rw [List.length_append]
  omega

/-! ### Big-endian integers -/

/-- `to_be_bytes` of an integer of `n` bytes. -/
def toBE : Nat → Nat → List UInt8
  | 0, _ => []
  | n + 1, v => UInt8.ofNat (v / 256 ^ n) :: toBE n v

/-- `from_be_bytes`. -/
def ofBE (bs : List UInt8) : Nat := bs.foldl (fun acc x => acc * 256 + x.toNat) 0

@[simp] theorem length_toBE (n v : Nat) : (toBE n v).length = n := by
  induction n with
  | zero => rfl
  | succ n ih => rw [toBE, List.length_cons, ih]

theorem foldl_be (bs : List UInt8) (acc : Nat) :
    bs.foldl (fun acc x => acc * 256 + x.toNat) acc = acc * 256 ^ bs.length + ofBE bs := by
  induction bs generalizing acc with
  | nil => simp [ofBE]
  | cons x bs ih =>
    rw [ofBE, List.foldl_cons, List.foldl_cons, ih, ih (0 * 256 + x.toNat), List.length_cons,
      pow_succ]
    ring

theorem ofBE_cons (x : UInt8) (bs : List UInt8) :
    ofBE (x :: bs) = x.toNat * 256 ^ bs.length + ofBE bs := by
  rw [ofBE, List.foldl_cons, foldl_be, Nat.zero_mul, Nat.zero_add]

theorem ofBE_lt (bs : List UInt8) : ofBE bs < 256 ^ bs.length := by
  induction bs with
  | nil => simp [ofBE]
  | cons x bs ih =>
    have hx : x.toNat < 256 := x.toNat_lt
    rw [ofBE_cons, List.length_cons, pow_succ]
    have : (x.toNat + 1) * 256 ^ bs.length ≤ 256 * 256 ^ bs.length :=
      Nat.mul_le_mul_right _ (by omega)
    rw [Nat.add_mul, Nat.one_mul] at this
    omega

/-- **Decoding inverts encoding**, up to the integer's width. -/
theorem ofBE_toBE (n v : Nat) : ofBE (toBE n v) = v % 256 ^ n := by
  induction n with
  | zero => simp [toBE, ofBE, Nat.mod_one]
  | succ n ih =>
    have hmod := Nat.mod_mul (x := v) (a := 256 ^ n) (b := 256)
    have hbyte : (UInt8.ofNat (v / 256 ^ n)).toNat = v / 256 ^ n % 256 := UInt8.toNat_ofNat'
    rw [toBE, ofBE_cons, ih, length_toBE, hbyte, pow_succ, hmod, Nat.add_comm,
      Nat.mul_comm (256 ^ n)]

theorem ofBE_toBE_of_lt {n v : Nat} (h : v < 256 ^ n) : ofBE (toBE n v) = v := by
  rw [ofBE_toBE, Nat.mod_eq_of_lt h]

/-- **Encoding inverts decoding.** -/
theorem toBE_ofBE (bs : List UInt8) : toBE bs.length (ofBE bs) = bs := by
  have key : ∀ (bs : List UInt8) (c : Nat), toBE bs.length (c * 256 ^ bs.length + ofBE bs) = bs := by
    intro bs
    induction bs with
    | nil => intro c; rfl
    | cons x bs ih =>
      intro c
      have hlt := ofBE_lt bs
      rw [List.length_cons, toBE, ofBE_cons]
      have he : c * 256 ^ (bs.length + 1) + (x.toNat * 256 ^ bs.length + ofBE bs)
          = (c * 256 + x.toNat) * 256 ^ bs.length + ofBE bs := by
        rw [pow_succ]; ring
      rw [he, ih, Nat.mul_comm, Nat.mul_add_div (Nat.pow_pos (by decide)), Nat.div_eq_of_lt hlt,
        Nat.add_zero]
      congr 1
      apply UInt8.toNat_inj.mp
      have hx : x.toNat < 256 := x.toNat_lt
      rw [UInt8.toNat_ofNat']
      omega
  simpa using key bs 0

end Rust
