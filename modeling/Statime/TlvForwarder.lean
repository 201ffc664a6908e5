import Statime.Port.Basic

/-!
# The record forwarder of the daemon

`statime-linux/src/tlvforwarder.rs`: the provider of forwarded records that the daemon gives to
`Port::handle_announce_timer`.  It reads from a broadcast channel, which is a queue that may
lose its oldest entries; a reader is told once that it lags.  One record can be waiting in
`peek`.

* `nextIfSmaller_nil`, `nextIfSmaller_fits`, `nextIfSmaller_large`: what a call does to the queue.
-/

namespace Statime

/-- What `try_recv` yields: a record, or that some were lost. -/
inductive Received
  | value (tlv : ForwardedTLV)
  | lagged

def Received.tlv? : Received → Option ForwardedTLV
  | value tlv => some tlv
  | lagged => none

structure TlvForwarder where
  receiver : List Received
  peek : Option ForwardedTLV

namespace TlvForwarder

def new : TlvForwarder := { receiver := [], peek := none }

def empty (_ : TlvForwarder) : TlvForwarder := { receiver := [], peek := none }

/-- A record that any task forwards, as a receiver sees it that does not lag. -/
def forward (t : TlvForwarder) (tlv : ForwardedTLV) : TlvForwarder :=
  { t with receiver := t.receiver ++ [.value tlv] }

/-- `try_recv` until there is a record or the channel is empty. -/
def recv : List Received → Option ForwardedTLV × List Received
  | [] => (none, [])
  | .value tlv :: receiver => (some tlv, receiver)
  | .lagged :: receiver => recv receiver

/-- The loop that fills `peek`. -/
def fillPeek (t : TlvForwarder) : TlvForwarder :=
  match t.peek with
  | some _ => t
  | none => { receiver := (recv t.receiver).2, peek := (recv t.receiver).1 }

def nextIfSmaller (t : TlvForwarder) (maxSize : Nat) : Option ForwardedTLV × TlvForwarder :=
  match t.fillPeek.peek with
  | some v =>
    if v.size ≤ maxSize then (some v, { t.fillPeek with peek := none }) else (none, t.fillPeek)
  | none => (none, t.fillPeek)

/-! ### The queue -/

/-- The records that are still to be yielded, in their order. -/
def queue (t : TlvForwarder) : List ForwardedTLV :=
  t.peek.toList ++ t.receiver.filterMap Received.tlv?

@[simp] theorem queue_new : new.queue = [] := rfl

@[simp] theorem queue_empty (t : TlvForwarder) : t.empty.queue = [] := rfl

@[simp] theorem queue_forward (t : TlvForwarder) (tlv : ForwardedTLV) :
    (t.forward tlv).queue = t.queue ++ [tlv] := by
  rw [queue, forward, List.filterMap_append, ← List.append_assoc]
  rfl

theorem recv_spec : ∀ receiver : List Received,
    (recv receiver).1.toList ++ (recv receiver).2.filterMap Received.tlv? =
        receiver.filterMap Received.tlv? ∧
      ((recv receiver).1 = none → (recv receiver).2.filterMap Received.tlv? = []) := by
  intro receiver
  induction receiver with
  | nil => exact ⟨rfl, fun _ => rfl⟩
  | cons r receiver ih =>
    cases r with
    | value tlv => exact ⟨rfl, fun h => by cases h⟩
    | lagged => exact ih

/-- Filling `peek` keeps the queue, and its head is in `peek` then. -/
theorem fillPeek_spec (t : TlvForwarder) :
    t.fillPeek.queue = t.queue ∧ t.fillPeek.peek = t.queue.head? := by
  unfold fillPeek
  split
  · rename_i tlv hpeek
    refine ⟨rfl, ?_⟩
    rw [queue, hpeek]
    rfl
  · rename_i hpeek
    obtain ⟨hqueue, hnone⟩ := recv_spec t.receiver
    have hold : t.queue = t.receiver.filterMap Received.tlv? := by
      rw [queue, hpeek]
      rfl
    refine ⟨hqueue.trans hold.symm, ?_⟩
    rw [hold, ← hqueue]
    cases hfirst : (recv t.receiver).1 with
    | none =>
      rw [hnone hfirst]
      rfl
    | some tlv => rfl

theorem nextIfSmaller_nil {t : TlvForwarder} {maxSize : Nat} (h : t.queue = []) :
    ∃ t', t.nextIfSmaller maxSize = (none, t') ∧ t'.queue = [] := by
  obtain ⟨hqueue, hpeek⟩ := t.fillPeek_spec
  rw [h] at hqueue hpeek
  refine ⟨t.fillPeek, ?_, hqueue⟩
  rw [nextIfSmaller, hpeek]
  rfl

/-- The rest of the queue, once its head is in `peek`. -/
theorem queue_taken {t : TlvForwarder} {v : ForwardedTLV} {rest : List ForwardedTLV}
    (h : t.queue = v :: rest) : ({ t.fillPeek with peek := none } : TlvForwarder).queue = rest := by
  obtain ⟨hqueue, hpeek⟩ := t.fillPeek_spec
  rw [h] at hqueue hpeek
  rw [queue, hpeek] at hqueue
  exact (List.cons.inj hqueue).2

theorem nextIfSmaller_fits {t : TlvForwarder} {maxSize : Nat} {v : ForwardedTLV}
    {rest : List ForwardedTLV} (h : t.queue = v :: rest) (hv : v.size ≤ maxSize) :
    ∃ t', t.nextIfSmaller maxSize = (some v, t') ∧ t'.queue = rest := by
  refine ⟨{ t.fillPeek with peek := none }, ?_, queue_taken h⟩
  rw [nextIfSmaller, t.fillPeek_spec.2, h]
  exact if_pos hv

theorem nextIfSmaller_large {t : TlvForwarder} {maxSize : Nat} {v : ForwardedTLV}
    {rest : List ForwardedTLV} (h : t.queue = v :: rest) (hv : maxSize < v.size) :
    ∃ t', t.nextIfSmaller maxSize = (none, t') ∧ t'.queue = v :: rest := by
  refine ⟨t.fillPeek, ?_, t.fillPeek_spec.1.trans h⟩
  rw [nextIfSmaller, t.fillPeek_spec.2, h]
  exact if_neg (by omega)

theorem length_queue_lt {t t' : TlvForwarder} {maxSize : Nat} {tlv : ForwardedTLV}
    (h : t.nextIfSmaller maxSize = (some tlv, t')) : t'.queue.length < t.queue.length := by
  cases hq : t.queue with
  | nil =>
    obtain ⟨t₁, h₁, -⟩ := @nextIfSmaller_nil t maxSize hq
    cases h₁.symm.trans h
  | cons v rest =>
    by_cases hv : v.size ≤ maxSize
    · obtain ⟨t₁, h₁, hrest⟩ := nextIfSmaller_fits hq hv
      obtain ⟨-, rfl⟩ := Prod.mk.inj (h₁.symm.trans h)
      rw [hrest]
      exact Nat.lt_succ_self _
    · obtain ⟨t₁, h₁, -⟩ := nextIfSmaller_large hq (Nat.lt_of_not_le hv)
      cases h₁.symm.trans h

instance : ForwardedTLVProvider TlvForwarder where
  nextIfSmaller := nextIfSmaller
  pending t := t.queue.length
  pending_lt := length_queue_lt

end TlvForwarder

end Statime
