import Statime.Network.Basic

/-!
# Transmit timestamps and ids

A port gets at most one timestamp for each packet that asks for one, and asks for it under the id of the
packet.  While a port has sent no more than `2 ^ 16` messages of a type, an id stands for one of them.

* `PortNetwork.answered_le_asked`: the timestamps that a port got, against the packets that asked for them.
* `PortNetwork.sentIds_of_trace`: the ids of a port count up from zero.
* `PortNetwork.asked_le_one`: no id stands for two messages as long as they have not been used up.
-/

namespace Statime

open Rust Machine

namespace TimestampContext

/-- The message that the timestamp belongs to. -/
def type : TimestampContext → MessageType
  | .sync _ => .sync
  | .delayReq _ => .delayReq
  | .pDelayReq _ => .pDelayReq
  | .pDelayResp _ _ => .pDelayResp

def id : TimestampContext → UInt16
  | .sync id | .delayReq id | .pDelayReq id | .pDelayResp id _ => id

/-- A message that is no answer is known by its type and id. -/
theorem eq_of_type_id {c c' : TimestampContext} (h : c.type ≠ .pDelayResp) (htype : c'.type = c.type)
    (hid : c'.id = c.id) : c' = c := by
  cases c <;> cases c' <;> cases htype
  case pDelayResp => exact absurd rfl h
  all_goals exact congrArg _ hid

end TimestampContext

@[simp] theorem Outgoing.context_action (o : Outgoing) (data : List UInt8) :
    (o.action data).context = o.context := by
  unfold Outgoing.action
  split <;> simp_all [PortAction.context]

namespace PortNetwork

variable {A R C F T : Type} [Filter F]

/-! ### The timestamps -/

/-- The packet asks port `x.1` for the timestamp `x.2`. -/
def asks (x : Nat × TimestampContext) (y : Nat × PortAction) : Bool :=
  decide (y.1 = x.1 ∧ y.2.context = some x.2)

theorem count_contexts (i : Nat) (x : Nat × TimestampContext) (actions : List PortAction) :
    ((actions.filterMap PortAction.context).map fun context => (i, context)).count x =
      (actions.map fun action => (i, action)).countP (asks x) := by
  obtain ⟨j, c⟩ := x
  induction actions with
  | nil => rfl
  | cons action actions ih =>
    rw [List.map_cons, List.countP_cons, ← ih]
    cases hcontext : action.context with
    | none => simp [asks, hcontext]
    | some context =>
      rw [List.filterMap_cons_some hcontext, List.map_cons, List.count_cons]
      simp [asks, hcontext]

section Runs

variable [AcceptableMasterList A] [Clock C] [Rng R] [ForwardedTLVProvider T] {p : Profile}
  {net : PortNetwork A R C F} {log : Log A R C F T}

/-- Whether a step brings this timestamp. -/
def brings (x : Nat × TimestampContext) (t : Transition (PortNetwork A R C F) (Nat × PortEvent T)) : Bool :=
  decide (answered t.event.1 t.event.2 = [x])

omit [AcceptableMasterList A] [Clock C] [Rng R] [ForwardedTLVProvider T] in
theorem count_answered (x : Nat × TimestampContext) (i : Nat) (e : PortEvent T) :
    (answered i e).count x = if answered i e = [x] then 1 else 0 := by
  cases e with
  | sendTimestamp s context t =>
    rw [answered, List.count_singleton]
    simp
  | _ => simp [answered]

/-- **A port gets as many timestamps as its packets ask for**, less those that it still waits for. -/
theorem answered_of_trace (h : Trace (step p) (Initial p) log net) (x : Nat × TimestampContext) :
    log.countP (brings x) + net.pending.count x = net.sent.countP (asks x) := by
  induction h with
  | init hinit => simp [hinit.sent, hinit.pending]
  | @step log net net' e actions _ hstep ih =>
    obtain ⟨slot, slot', htook⟩ := step_took hstep
    have hle : (answered e.1 e.2).count x ≤ net.pending.count x := by
      rw [count_answered]
      split
      · rename_i hx
        have hallowed := htook.allowed
        cases he : e.2 with
        | sendTimestamp s context t =>
          rw [he, answered] at hx
          rw [he, allows, decide_eq_true_eq] at hallowed
          rw [← (List.cons.inj hx).1]
          exact List.one_le_count_iff.mpr hallowed
        | _ =>
          rw [he] at hx
          cases hx
      · exact Nat.zero_le _
    have hsent : net'.sent.countP (asks x) = net.sent.countP (asks x) +
        (actions.sends.map fun action => (e.1, action)).countP (asks x) := by
      rw [htook.result, after, List.countP_append]
    have hpending : net'.pending.count x = net.pending.count x - (answered e.1 e.2).count x +
        (actions.sends.map fun action => (e.1, action)).countP (asks x) := by
      rw [htook.result, after, List.count_append, List.count_diff, count_contexts]
    rw [hsent, hpending, ← ih, List.countP_append, List.countP_singleton]
    have hbrings : (if brings x ⟨net, e, net'⟩ = true then 1 else 0) = (answered e.1 e.2).count x := by
      rw [count_answered]
      exact if_congr decide_eq_true_iff rfl rfl
    rw [hbrings]
    omega

theorem answered_le_asked (h : Trace (step p) (Initial p) log net) (x : Nat × TimestampContext) :
    log.countP (brings x) ≤ net.sent.countP (asks x) := by
  have hcount := answered_of_trace h x
  omega

/-! ### The ids -/

/-- The id under which a packet of port `j` of this type asks for its timestamp. -/
def askedId (j : Nat) (t : MessageType) (x : Nat × PortAction) : Option UInt16 :=
  if x.1 = j then x.2.context.bind fun context => if context.type = t then some context.id else none
  else none

/-- The ids under which port `j` sent messages of this type, in their order. -/
def sentIds (j : Nat) (t : MessageType) (sent : List (Nat × PortAction)) : List UInt16 :=
  sent.filterMap (askedId j t)

/-- Sync messages and the two kinds of requests start an exchange. -/
def starts (t : MessageType) : Bool :=
  match t with
  | .sync | .delayReq | .pDelayReq => true
  | _ => false

theorem count_sentIds {j : Nat} {c : TimestampContext} (hc : starts c.type = true)
    (sent : List (Nat × PortAction)) :
    (sentIds j c.type sent).count c.id = sent.countP (asks (j, c)) := by
  have hnot : c.type ≠ .pDelayResp := by
    intro heq
    rw [heq] at hc
    cases hc
  induction sent with
  | nil => rfl
  | cons x sent ih =>
    rw [List.countP_cons, ← ih, sentIds, List.filterMap_cons]
    by_cases hj : x.1 = j
    · cases hcontext : x.2.context with
      | none => simp [askedId, asks, hj, hcontext, sentIds]
      | some context =>
        by_cases htype : context.type = c.type
        · by_cases hid : context.id = c.id
          · obtain rfl := TimestampContext.eq_of_type_id hnot htype hid
            simp [askedId, asks, hj, hcontext, sentIds]
          · have hne : context ≠ c := fun heq => hid (by rw [heq])
            simp [askedId, asks, hj, hcontext, htype, hid, hne, sentIds]
        · have hne : context ≠ c := fun heq => htype (by rw [heq])
          simp [askedId, asks, hj, hcontext, htype, hne, sentIds]
    · simp [askedId, asks, hj, sentIds]

omit [AcceptableMasterList A] [Clock C] [Rng R] in
/-- The context of a message that starts an exchange has the id of the generator. -/
theorem sends_context {port : Port Running A R C F} {t t' : MessageType} {e : PortEvent T} {o : Outgoing}
    {g : SequenceIdGenerator} (h : port.Sends p t' e o) (ht : starts t = true)
    (hg : port.seqIds.generator t = some g) :
    (o.context.bind fun context => if context.type = t then some context.id else none) =
      if t' = t then some g.current else none := by
  cases h <;> cases t <;> try cases ht
  case announce.sync | announce.delayReq | announce.pDelayReq => rfl
  all_goals
    rw [← Option.some.inj hg]
    rfl

/-- **The ids of a port count up**, and the next one is in its generator. -/
theorem sentIds_of_trace (h : Trace (step p) (Initial p) log net) {j : Nat} {slot : Slot A R C F}
    (hj : net.ports[j]? = some slot) {t : MessageType} (ht : starts t = true) :
    sentIds j t net.sent = (List.range (sentIds j t net.sent).length).map UInt16.ofNat ∧
      slot.seqIds.generator t = some ⟨UInt16.ofNat (sentIds j t net.sent).length⟩ := by
  induction h generalizing slot with
  | init hinit =>
    rw [hinit.sent, ((hinit.ports slot (List.mem_of_getElem? hj)).pendingAction).2]
    refine ⟨rfl, ?_⟩
    cases t <;> first | rfl | cases ht
  | @step log net net' e actions htrace hstep ih =>
    obtain ⟨slot₀, slot₁, htook⟩ := step_took hstep
    rcases htook.get_after hj with ⟨rfl, rfl⟩ | ⟨hne, hold⟩
    · obtain ⟨hids, hgen⟩ := ih htook.get
      obtain ⟨plog, hplog, -⟩ := (accounted_of_trace htrace).ports _ _ htook.get
      have hsent : sentIds e.1 t net'.sent = sentIds e.1 t net.sent ++
          actions.sends.filterMap fun action => askedId e.1 t (e.1, action) := by
        rw [htook.result, after, sentIds, List.filterMap_append, List.filterMap_map]
        rfl
      cases Slot.Reachable.emits hplog.reachable htook.step with
      | silent hsends hseqIds =>
        rw [hsent, hsends, List.filterMap_nil, List.append_nil, hseqIds]
        exact ⟨hids, hgen⟩
      | @sent t' port o buffer data hslot hsends hdata hactions hseqIds =>
        subst hslot
        have hcontext := sends_context hsends ht hgen
        have hasked : askedId e.1 t (e.1, o.action data) =
            if t' = t then some (UInt16.ofNat (sentIds e.1 t net.sent).length) else none := by
          rw [askedId, if_pos rfl, Outgoing.context_action, hcontext]
        rw [hsent, hactions, List.filterMap_cons, hasked, hseqIds]
        by_cases hsame : t' = t
        · subst hsame
          rw [if_pos rfl, List.filterMap_nil]
          refine ⟨?_, ?_⟩
          · rw [List.length_append, List.length_singleton, List.range_succ, List.map_append,
              List.map_singleton, ← hids]
          · rw [SeqIds.generator_advance_same hgen, List.length_append, List.length_singleton,
              UInt16.ofNat_add]
            rfl
        · rw [if_neg hsame, List.filterMap_nil, List.append_nil,
            SeqIds.generator_advance_other (Ne.symm hsame)]
          exact ⟨hids, hgen⟩
    · obtain ⟨hids, hgen⟩ := ih hold
      have hsent : sentIds j t net'.sent = sentIds j t net.sent := by
        have hnone : actions.sends.filterMap (fun action => askedId j t (e.1, action)) = [] := by
          rw [List.filterMap_eq_nil_iff]
          exact fun action _ => if_neg (Ne.symm hne)
        rw [htook.result, after, sentIds, List.filterMap_append, List.filterMap_map]
        exact (congrArg _ hnone).trans (List.append_nil _)
      rw [hsent]
      exact ⟨hids, hgen⟩

/-- **While the ids last, each stands for one message.** -/
theorem asked_le_one (h : Trace (step p) (Initial p) log net) {j : Nat} {slot : Slot A R C F}
    (hj : net.ports[j]? = some slot) {c : TimestampContext} (hc : starts c.type = true)
    (hfew : (sentIds j c.type net.sent).length ≤ 65536) : net.sent.countP (asks (j, c)) ≤ 1 := by
  rw [← count_sentIds hc, (sentIds_of_trace h hj hc).1]
  apply List.nodup_iff_count_le_one.mp
  refine (List.nodup_map_iff_inj_on List.nodup_range).mpr fun k hk k' hk' heq => ?_
  rw [List.mem_range] at hk hk'
  have hnat := congrArg UInt16.toNat heq
  rw [UInt16.toNat_ofNat_of_lt' (lt_of_lt_of_le hk hfew),
    UInt16.toNat_ofNat_of_lt' (lt_of_lt_of_le hk' hfew)] at hnat
  exact hnat

end Runs

end PortNetwork

end Statime
