import Statime.Rust.Bytes

/-!
# The request loop of the metrics exporter

The inner loop of `main` in `statime-linux/src/metrics/exporter.rs`, which reads a request up to the end
of its header.  A `continue` in it goes on with the same loop, and nothing looks at the end of the
stream.

* `RequestLoop.step`: one turn of the loop.
* `RequestLoop.Receives`: the buffer holds the beginning of the stream.
* `request_loop_ends_iff`: which requests are read to an end.
-/

namespace Statime

open Rust

/-! ### Reading from a stream -/

/-- `read` with room for so many bytes: what arrives, and what is still to come.  At the end of the
stream, and without room, nothing arrives. -/
def readStream (room : Nat) : List (List UInt8) → List UInt8 × List (List UInt8)
  | [] => ([], [])
  | result :: stream =>
    if result.length ≤ room then (result, stream)
    else (result.take room, result.drop room :: stream)

theorem readStream_flatten (room : Nat) (stream : List (List UInt8)) :
    (readStream room stream).1 ++ (readStream room stream).2.flatten = stream.flatten := by
  cases stream with
  | nil => rfl
  | cons result stream =>
    rw [readStream]
    split
    · rw [List.flatten_cons]
    · rw [List.flatten_cons, ← List.append_assoc, List.take_append_drop, List.flatten_cons]

theorem readStream_length_le (room : Nat) (stream : List (List UInt8)) :
    (readStream room stream).1.length ≤ room := by
  cases stream with
  | nil => exact Nat.zero_le _
  | cons result stream =>
    rw [readStream]
    split
    · assumption
    · exact List.length_take_le _ _

/-- With room for more, a read gets on. -/
theorem readStream_lt {room : Nat} (hroom : 0 < room) {stream : List (List UInt8)}
    (h : stream ≠ []) : (readStream room stream).2.length + (readStream room stream).2.flatten.length <
      stream.length + stream.flatten.length := by
  cases stream with
  | nil => exact absurd rfl h
  | cons result stream =>
    rw [readStream]
    split
    · simp only [List.length_cons, List.flatten_cons, List.length_append]
      omega
    · simp only [List.length_cons, List.flatten_cons, List.length_append, List.length_drop]
      omega

/-! ### The loop -/

/-- The two line ends after a header. -/
def headerEnd : List UInt8 := [13, 10, 13, 10]

/-- `buf.windows(n)`. -/
def windows (n : Nat) (b : List UInt8) : List (List UInt8) :=
  (List.range (b.length + 1 - n)).map fun i => slice b i (i + n)

def hasHeaderEnd (b : List UInt8) : Bool := (windows 4 b).any fun w => decide (w = headerEnd)

theorem hasHeaderEnd_iff {b : List UInt8} : hasHeaderEnd b = true ↔ headerEnd <:+: b := by
  simp only [hasHeaderEnd, windows, List.any_map, List.any_eq_true, List.mem_range, Function.comp,
    decide_eq_true_eq]
  constructor
  · rintro ⟨i, -, hi⟩
    refine ⟨b.take i, b.drop (i + 4), ?_⟩
    rw [← hi, slice, Nat.add_sub_cancel_left, List.append_assoc, ← List.drop_drop,
      List.take_append_drop, List.take_append_drop]
  · rintro ⟨front, back, rfl⟩
    refine ⟨front.length, ?_, ?_⟩
    · simp only [List.length_append, headerEnd, List.length_cons, List.length_nil]
      omega
    · rw [List.append_assoc, slice_append_right (Nat.le_refl _), Nat.sub_self,
        Nat.add_sub_cancel_left, slice_append_left (by decide)]
      rfl

/-- `[0u8; 2048]` and the bytes in it, and what the client still sends. -/
structure RequestLoop where
  buf : List UInt8
  bytesRead : Nat
  stream : List (List UInt8)
  deriving DecidableEq

/-- How a turn of the loop ends. -/
inductive Turn
  | leave (s : RequestLoop)
  | again (s : RequestLoop)

namespace RequestLoop

def start (stream : List (List UInt8)) : RequestLoop where
  buf := List.replicate 2048 0
  bytesRead := 0
  stream

/-- `buf[0..bytes_read]`. -/
def received (s : RequestLoop) : List UInt8 := s.buf.take s.bytesRead

def step (s : RequestLoop) : Except Panic Turn := do
  let rest ← readAt s.buf s.bytesRead s.buf.length
  let (result, stream) := readStream rest.length s.stream
  let buf ← writeAt s.buf s.bytesRead result
  let bytesRead := s.bytesRead + result.length
  let header ← readAt buf 0 bytesRead
  if hasHeaderEnd header then return .leave ⟨buf, bytesRead, stream⟩
  -- the `continue` of a request that is too long is the one of this loop
  else if buf.length ≤ bytesRead then return .again ⟨buf, bytesRead, stream⟩
  else return .again ⟨buf, bytesRead, stream⟩

/-- So many turns of the loop; nothing when they are not enough. -/
def run : Nat → RequestLoop → Except Panic (Option RequestLoop)
  | 0, _ => .ok none
  | turns + 1, s => do
    match ← s.step with
    | .leave s => return some s
    | .again s => run turns s

/-! ### What is received -/

/-- **The buffer holds the beginning of the stream.** -/
structure Receives (stream : List (List UInt8)) (s : RequestLoop) : Prop where
  buf : s.buf.length = 2048
  bytesRead : s.bytesRead ≤ 2048
  stream : s.received ++ s.stream.flatten = stream.flatten

variable {stream : List (List UInt8)} {s : RequestLoop}

theorem receives_start (stream : List (List UInt8)) : (start stream).Receives stream where
  buf := List.length_replicate
  bytesRead := Nat.zero_le _
  stream := rfl

/-- The state after a read. -/
def afterRead (s : RequestLoop) : RequestLoop :=
  let (result, stream) := readStream (2048 - s.bytesRead) s.stream
  ⟨write s.buf s.bytesRead result, s.bytesRead + result.length, stream⟩

namespace Receives

theorem afterRead (h : s.Receives stream) : s.afterRead.Receives stream := by
  have hlen := h.buf
  have hread := h.bytesRead
  have hle := readStream_length_le (2048 - s.bytesRead) s.stream
  have hfit : s.bytesRead + (readStream (2048 - s.bytesRead) s.stream).1.length ≤ s.buf.length := by
    omega
  refine ⟨?_, ?_, ?_⟩
  · exact (length_write hfit).trans hlen
  · exact hfit.trans hlen.le
  · have htake : (s.buf.take s.bytesRead).length = s.bytesRead := List.length_take_of_le (by omega)
    have hreceived : s.afterRead.received =
        s.received ++ (readStream (2048 - s.bytesRead) s.stream).1 := by
      change (write s.buf s.bytesRead (readStream (2048 - s.bytesRead) s.stream).1).take
        (s.bytesRead + (readStream (2048 - s.bytesRead) s.stream).1.length) = s.buf.take s.bytesRead ++ _
      rw [write]
      exact List.take_left' (by rw [List.length_append, htake])
    rw [hreceived, List.append_assoc, RequestLoop.afterRead, readStream_flatten, h.stream]

/-- **A turn of the loop** is a read, and a look for the end of the header. -/
theorem step_eq (h : s.Receives stream) : s.step =
    .ok (if hasHeaderEnd s.afterRead.received then .leave s.afterRead else .again s.afterRead) := by
  have hlen := h.buf
  have hread := h.bytesRead
  have hafter := h.afterRead
  have hrest : (slice s.buf s.bytesRead s.buf.length).length = 2048 - s.bytesRead := by
    rw [length_slice_of_le (Nat.le_refl _), hlen]
  have hle := readStream_length_le (2048 - s.bytesRead) s.stream
  rw [step, readAt_eq_ok (by omega) (Nat.le_refl _), ok_bind, hrest]
  dsimp only
  rw [writeAt_eq_ok (by omega), ok_bind,
    readAt_eq_ok (Nat.zero_le _) (by rw [length_write (by omega)]; omega), ok_bind, slice_zero]
  split
  · rename_i hend
    rw [if_pos (show hasHeaderEnd s.afterRead.received = true from hend)]
    rfl
  · rename_i hend
    rw [if_neg (show ¬ hasHeaderEnd s.afterRead.received = true from hend)]
    split <;> rfl

/-- What was received is in the first 2048 bytes. -/
theorem received_prefix (h : s.Receives stream) : s.received <+: stream.flatten.take 2048 := by
  have hlen : s.received.length ≤ 2048 := by
    rw [received, List.length_take]
    have := h.bytesRead
    omega
  rw [← h.stream, List.prefix_take_iff]
  exact ⟨List.prefix_append _ _, hlen⟩

/-- All of them are received when the stream is at its end, or the buffer is full. -/
theorem received_eq (h : s.Receives stream) (hdone : s.stream = [] ∨ s.bytesRead = 2048) :
    s.received = stream.flatten.take 2048 := by
  have hlen : s.received.length = s.bytesRead := by
    rw [received, List.length_take_of_le (by rw [h.buf]; exact h.bytesRead)]
  rw [← h.stream]
  rcases hdone with hnil | hfull
  · rw [hnil, List.flatten_nil, List.append_nil, List.take_of_length_le (by
      rw [hlen]
      exact h.bytesRead)]
  · rw [List.take_left' (hlen.trans hfull)]

end Receives

/-! ### Which requests are read -/

/-- **A header that ends in time** ends the loop, after as many reads as the stream and its results are
long, and one. -/
theorem run_ends (hend : headerEnd <:+: stream.flatten.take 2048) :
    ∀ (m : Nat) {s : RequestLoop}, s.Receives stream → s.stream.length + s.stream.flatten.length ≤ m →
      ∃ s', run (m + 1) s = .ok (some s') := by
  intro m
  induction m with
  | zero =>
    intro s h hm
    have hnil : s.stream = [] := List.length_eq_zero_iff.mp (by omega)
    have hafter : s.afterRead.stream = [] := by
      rw [afterRead, hnil]
      rfl
    have hfound : hasHeaderEnd s.afterRead.received = true := by
      rw [h.afterRead.received_eq (Or.inl hafter)]
      exact hasHeaderEnd_iff.mpr hend
    rw [run, h.step_eq, if_pos hfound]
    exact ⟨_, rfl⟩
  | succ m ih =>
    intro s h hm
    rw [run, h.step_eq]
    split
    · exact ⟨_, rfl⟩
    · rename_i hnot
      refine ih h.afterRead ?_
      -- the stream goes on and there is room for it, or else the header would have been found
      have hmore : s.stream ≠ [] := by
        intro hnil
        have hafter : s.afterRead.stream = [] := by
          rw [afterRead, hnil]
          rfl
        rw [h.afterRead.received_eq (Or.inl hafter)] at hnot
        exact hnot (hasHeaderEnd_iff.mpr hend)
      have hroom : 0 < 2048 - s.bytesRead := by
        by_contra hfull
        have hread := h.bytesRead
        have hread' := h.afterRead.bytesRead
        have hgrows : s.bytesRead ≤ s.afterRead.bytesRead := Nat.le_add_right _ _
        rw [h.afterRead.received_eq (Or.inr (by omega))] at hnot
        exact hnot (hasHeaderEnd_iff.mpr hend)
      have hlt := readStream_lt hroom hmore
      rw [afterRead]
      dsimp only
      omega

/-- **Without the end of a header** the loop goes on. -/
theorem run_goes_on (hend : ¬ headerEnd <:+: stream.flatten.take 2048) :
    ∀ (turns : Nat) {s : RequestLoop}, s.Receives stream → run turns s = .ok none := by
  intro turns
  induction turns with
  | zero => exact fun _ => rfl
  | succ turns ih =>
    intro s h
    have hnot : ¬ hasHeaderEnd s.afterRead.received = true := fun hfound =>
      hend ((hasHeaderEnd_iff.mp hfound).trans h.afterRead.received_prefix.isInfix)
    rw [run, h.step_eq, if_neg hnot]
    exact ih h.afterRead

/-- The loop never panics. -/
theorem run_ok : ∀ (turns : Nat) {s : RequestLoop}, s.Receives stream →
    ∃ r, run turns s = .ok r := by
  intro turns
  induction turns with
  | zero => exact fun _ => ⟨none, rfl⟩
  | succ turns ih =>
    intro s h
    rw [run, h.step_eq]
    split
    · exact ⟨_, rfl⟩
    · exact ih h.afterRead

/-- The last turn of a loop that ended. -/
theorem run_leaves : ∀ (turns : Nat) {s s' : RequestLoop}, s.Receives stream →
    (hasHeaderEnd s.received = false) → run turns s = .ok (some s') →
      ∃ last : RequestLoop, last.Receives stream ∧ hasHeaderEnd last.received = false ∧
        last.step = .ok (.leave s') ∧ s'.Receives stream ∧ hasHeaderEnd s'.received = true := by
  intro turns
  induction turns with
  | zero =>
    intro s s' _ _ h
    cases h
  | succ turns ih =>
    intro s s' hs hnot h
    have hstep := hs.step_eq
    rw [run, hstep, ok_bind] at h
    by_cases hfound : hasHeaderEnd s.afterRead.received = true
    · rw [if_pos hfound] at h hstep
      obtain rfl := Option.some.inj (Except.ok.inj h)
      exact ⟨s, hs, hnot, hstep, hs.afterRead, hfound⟩
    · rw [if_neg hfound] at h
      exact ih hs.afterRead (Bool.eq_false_iff.mpr hfound) h

/-- The loop is left after some turns. -/
def Ends (stream : List (List UInt8)) : Prop := ∃ turns s, run turns (start stream) = .ok (some s)

end RequestLoop

/-- **Which requests are read to an end**: those with the end of the header in the first 2048 bytes,
however they are split.  The loop is left with the first read that brings it, and it never panics. -/
theorem request_loop_ends_iff (stream : List (List UInt8)) :
    (RequestLoop.Ends stream ↔ headerEnd <:+: stream.flatten.take 2048) ∧
    (∀ turns s, RequestLoop.run turns (.start stream) = .ok (some s) →
      s.received <+: stream.flatten ∧ headerEnd <:+: s.received ∧
        ∃ last : RequestLoop, ¬ headerEnd <:+: last.received ∧ last.step = .ok (.leave s)) ∧
    ∀ turns why, RequestLoop.run turns (.start stream) ≠ .error why := by
  have hstart := RequestLoop.receives_start stream
  refine ⟨⟨?_, fun hend => ?_⟩, fun turns s h => ?_, fun turns why h => ?_⟩
  · rintro ⟨turns, s, h⟩
    by_contra hend
    rw [RequestLoop.run_goes_on hend turns hstart] at h
    cases h
  · obtain ⟨s', h⟩ := RequestLoop.run_ends hend _ hstart (Nat.le_refl _)
    exact ⟨_, s', h⟩
  · obtain ⟨last, -, hnot, hstep, hs, hfound⟩ := RequestLoop.run_leaves turns hstart (by rfl) h
    refine ⟨hs.received_prefix.trans (List.take_prefix _ _), hasHeaderEnd_iff.mp hfound, last, ?_, hstep⟩
    rw [← hasHeaderEnd_iff, hnot]
    exact Bool.false_ne_true
  · obtain ⟨r, hr⟩ := RequestLoop.run_ok turns hstart
    rw [hr] at h
    cases h

/-- A request in two parts. -/
def twoParts : List (List UInt8) := [[71, 69, 84, 32, 47, 13, 10], [13, 10]]

/-- It is read to its end. -/
theorem two_parts_end :
    ∃ turns s, RequestLoop.run turns (.start twoParts) = .ok (some s) ∧
      s.received <+: twoParts.flatten ∧ headerEnd <:+: s.received := by
  obtain ⟨hends, hleaves, -⟩ := request_loop_ends_iff twoParts
  obtain ⟨turns, s, h⟩ := hends.mpr ⟨[71, 69, 84, 32, 47], [], by decide⟩
  obtain ⟨hfront, hfound, -⟩ := hleaves turns s h
  exact ⟨turns, s, h, hfront, hfound⟩

/-- **A client that closes the connection** without a request, and one that sends 2048 bytes without the
end of a header, are never done with. -/
theorem request_loop_goes_on :
    (∀ turns, RequestLoop.run turns (.start []) = .ok none) ∧
      ∀ turns, RequestLoop.run turns (.start [List.replicate 2048 65]) = .ok none := by
  refine ⟨fun turns => RequestLoop.run_goes_on (by decide) turns (RequestLoop.receives_start _),
    fun turns => RequestLoop.run_goes_on (fun hend => ?_) turns (RequestLoop.receives_start _)⟩
  have hmem : (13 : UInt8) ∈ ([List.replicate 2048 65] : List (List UInt8)).flatten.take 2048 :=
    hend.subset List.mem_cons_self
  have hmem' := List.mem_of_mem_take hmem
  rw [List.flatten_singleton] at hmem'
  exact absurd (List.eq_of_mem_replicate hmem') (by decide)

end Statime
