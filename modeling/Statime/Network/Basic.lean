import Statime.Port.Genuine

/-!
# Ports on a network

Any number of ports that only hear what one of them sent.  The network may lose, duplicate, delay and
reorder packets and deliver them over either channel, to any port and also back to the sender; the clocks
say what they want.  Only the transmit timestamps are reliable: a port gets at most one for each packet
that asks for it.

* `PortNetwork.step`: a port makes a step that the network allows.
* `PortNetwork.Sent`: a port sent a message in a run, and with which call.
* `PortNetwork.accounted_of_trace`: every port has a run of its own, and every packet was sent in it.
-/

namespace Statime

open Rust Machine

/-- The ports, what each of them sent, and the timestamps that they still wait for. -/
structure PortNetwork (A R C F : Type) [Filter F] where
  ports : List (Slot A R C F)
  sent : List (Nat × PortAction)
  pending : List (Nat × TimestampContext)

namespace PortNetwork

variable {A R C F T : Type} [Filter F]

/-! ### The machine -/

section Defs

/-- Some port sent these bytes. -/
def carries (net : PortNetwork A R C F) (data : List UInt8) : Bool :=
  net.sent.any fun x => decide (x.2.packet = some data)

/-- What the network can bring to a port. -/
def allows (net : PortNetwork A R C F) (i : Nat) : PortEvent T → Bool
  | .eventReceive _ data _ | .generalReceive _ data => net.carries data
  | .sendTimestamp _ context _ => decide ((i, context) ∈ net.pending)
  | _ => true

/-- The request for a timestamp that an event answers. -/
def answered (i : Nat) : PortEvent T → List (Nat × TimestampContext)
  | .sendTimestamp _ context _ => [(i, context)]
  | _ => []

def after (net : PortNetwork A R C F) (i : Nat) (e : PortEvent T) (slot : Slot A R C F)
    (actions : PortActionIterator) : PortNetwork A R C F where
  ports := net.ports.set i slot
  sent := net.sent ++ actions.sends.map fun action => (i, action)
  pending := net.pending.diff (answered i e) ++
    (actions.sends.filterMap PortAction.context).map fun context => (i, context)

variable [AcceptableMasterList A] [Clock C] [Rng R] [ForwardedTLVProvider T]

def step (p : Profile) (net : PortNetwork A R C F) (e : Nat × PortEvent T) :
    Except Stop (PortNetwork A R C F × PortActionIterator) := do
  let slot ← orIllTyped net.ports[e.1]?
  if net.allows e.1 e.2 then
    let (slot, actions) ← slot.step p e.2
    return (net.after e.1 e.2 slot actions, actions)
  else .error .illTyped

omit [AcceptableMasterList A] [Clock C] [ForwardedTLVProvider T] in
/-- New ports with identities of their own, and nothing on the network. -/
structure Initial (p : Profile) (net : PortNetwork A R C F) : Prop where
  ports : ∀ slot ∈ net.ports, slot.Initial p
  identities : (net.ports.map (·.core.portIdentity)).Nodup
  sent : net.sent = []
  pending : net.pending = []

end Defs

/-- A run of the network. -/
abbrev Log (A R C F T : Type) [Filter F] := List (Transition (PortNetwork A R C F) (Nat × PortEvent T))

/-- Port `i` got this call in the run. -/
def Got (log : Log A R C F T) (i : Nat) (e : PortEvent T) : Prop := ∃ t ∈ log, t.event = (i, e)

/-- All states and times in the run are in range. -/
def InRange (log : Log A R C F T) : Prop := ∀ t ∈ log, t.event.2.InRange

theorem Got.append {log' : Log A R C F T} {i : Nat} {e : PortEvent T} (h : Got log i e) :
    Got (log ++ log') i e := by
  obtain ⟨t, ht, hevent⟩ := h
  exact ⟨t, List.mem_append_left _ ht, hevent⟩

/-- One port makes a step. -/
structure Took [AcceptableMasterList A] [Clock C] [Rng R] [ForwardedTLVProvider T] (p : Profile)
    (net net' : PortNetwork A R C F) (i : Nat) (e : PortEvent T) (slot slot' : Slot A R C F)
    (actions : PortActionIterator) : Prop where
  get : net.ports[i]? = some slot
  allowed : net.allows i e = true
  step : slot.step p e = .ok (slot', actions)
  result : net' = net.after i e slot' actions

section Steps

variable [AcceptableMasterList A] [Clock C] [Rng R] [ForwardedTLVProvider T] {p : Profile}
  {net net' : PortNetwork A R C F} {e : Nat × PortEvent T} {actions : PortActionIterator}

theorem step_took (h : net.step p e = .ok (net', actions)) :
    ∃ slot slot', Took p net net' e.1 e.2 slot slot' actions := by
  obtain ⟨slot, hslot, h⟩ := bind_eq_ok.mp h
  split at h
  · rename_i hallowed
    obtain ⟨⟨slot', actions'⟩, hstep, h⟩ := bind_eq_ok.mp h
    obtain ⟨rfl, rfl⟩ := Prod.mk.inj (Except.ok.inj h)
    exact ⟨slot, slot', orIllTyped_eq_ok.mp hslot, hallowed, hstep, rfl⟩
  · cases h

variable {i : Nat} {e : PortEvent T} {slot slot' : Slot A R C F}

/-- A port after a step of some port. -/
theorem Took.get_after (h : Took p net net' i e slot slot' actions) {j : Nat} {s : Slot A R C F}
    (hj : net'.ports[j]? = some s) : (j = i ∧ s = slot') ∨ (j ≠ i ∧ net.ports[j]? = some s) := by
  rw [h.result] at hj
  by_cases hij : i = j
  · subst hij
    have hlt : i < net.ports.length := (List.getElem?_eq_some_iff.mp h.get).1
    rw [after, List.getElem?_set_self hlt] at hj
    exact Or.inl ⟨rfl, (Option.some.inj hj).symm⟩
  · rw [after, List.getElem?_set_ne hij] at hj
    exact Or.inr ⟨Ne.symm hij, hj⟩

/-- The identities stay. -/
theorem Took.identities (h : Took p net net' i e slot slot' actions) :
    net'.ports.map (·.core.portIdentity) = net.ports.map (·.core.portIdentity) := by
  have hsame := (Slot.step_core h.step).sameOwner.portIdentity
  rw [h.result, after, List.map_set, hsame]
  refine List.ext_getElem? fun j => ?_
  by_cases hij : i = j
  · subst hij
    have hlt : i < net.ports.length := (List.getElem?_eq_some_iff.mp h.get).1
    rw [List.getElem?_set_self (by simpa using hlt), List.getElem?_map, h.get, Option.map_some]
  · rw [List.getElem?_set_ne hij]

end Steps

/-! ### Runs -/

section Runs

variable [AcceptableMasterList A] [Clock C] [Rng R] [ForwardedTLVProvider T] {p : Profile}
  {net : PortNetwork A R C F} {log : Log A R C F T}

/-- **What port `j` sent in a run**: the message as these bytes, with a call of the port that sends it. -/
def Sent (p : Profile) (log : Log A R C F T) (j : Nat) (type : MessageType) (o : Outgoing)
    (data : List UInt8) : Prop :=
  ∃ t ∈ log, ∃ e port buffer, t.event = (j, e) ∧ t.before.ports[j]? = some (.running port) ∧
    port.Sends p type e o ∧ port.packetBuffer.serialize p o.message = .ok (buffer, data)

/-- **Everything on the network is accounted for.** -/
structure Accounted (p : Profile) (log : Log A R C F T) (net : PortNetwork A R C F) : Prop where
  ports : ∀ i slot, net.ports[i]? = some slot → ∃ plog : List (Transition (Slot A R C F) (PortEvent T)),
    Trace (Slot.step p) (Slot.Initial p) plog slot ∧
      ∀ u ∈ plog, ∃ t ∈ log, t.event = (i, u.event) ∧ t.before.ports[i]? = some u.before
  sent : ∀ x ∈ net.sent, ∃ type o data, Sent p log x.1 type o data ∧ x.2 = Outgoing.action o data

omit [AcceptableMasterList A] [Clock C] [Rng R] in
theorem Sent.mono {log' : Log A R C F T} {j : Nat} {type : MessageType} {o : Outgoing}
    {data : List UInt8} (h : Sent p log j type o data) : Sent p (log ++ log') j type o data := by
  obtain ⟨t, ht, hrest⟩ := h
  exact ⟨t, List.mem_append_left _ ht, hrest⟩

theorem accounted_of_trace (h : Trace (step p) (Initial p) log net) : Accounted p log net := by
  induction h with
  | init hinit =>
    refine ⟨fun i slot hslot => ⟨[], .init (hinit.ports slot (List.mem_of_getElem? hslot)), ?_⟩, ?_⟩
    · intro u hu
      cases hu
    · intro x hx
      rw [hinit.sent] at hx
      cases hx
  | @step log net net' e actions htrace hstep ih =>
    obtain ⟨slot, slot', htook⟩ := step_took hstep
    constructor
    · intro j s hs
      rcases htook.get_after hs with ⟨rfl, rfl⟩ | ⟨-, hold⟩
      · obtain ⟨plog, hplog, hmem⟩ := ih.ports _ _ htook.get
        refine ⟨plog ++ [⟨slot, e.2, s⟩], hplog.step htook.step, fun u hu => ?_⟩
        rcases List.mem_append.mp hu with hu | hu
        · obtain ⟨t, ht, hrest⟩ := hmem u hu
          exact ⟨t, List.mem_append_left _ ht, hrest⟩
        · obtain rfl := List.mem_singleton.mp hu
          exact ⟨_, List.mem_append_right _ List.mem_cons_self, rfl, htook.get⟩
      · obtain ⟨plog, hplog, hmem⟩ := ih.ports _ _ hold
        refine ⟨plog, hplog, fun u hu => ?_⟩
        obtain ⟨t, ht, hrest⟩ := hmem u hu
        exact ⟨t, List.mem_append_left _ ht, hrest⟩
    · intro x hx
      rw [htook.result] at hx
      rcases List.mem_append.mp hx with hold | hnew
      · obtain ⟨type, o, data, hsent, haction⟩ := ih.sent x hold
        exact ⟨type, o, data, hsent.mono, haction⟩
      · obtain ⟨plog, hplog, -⟩ := ih.ports _ _ htook.get
        obtain ⟨action, haction, rfl⟩ := List.mem_map.mp hnew
        cases Slot.Reachable.emits hplog.reachable htook.step with
        | silent hsends =>
          rw [hsends] at haction
          cases haction
        | @sent type port o buffer data hslot hsends hdata hactions =>
          rw [hactions, List.mem_singleton] at haction
          refine ⟨type, o, data, ⟨_, List.mem_append_right _ List.mem_cons_self, e.2, port, buffer, rfl,
            ?_, hsends, hdata⟩, haction⟩
          rw [← hslot]
          exact htook.get

/-- The identities are those of the end of the run, at every step of it. -/
theorem identities_of_trace (h : Trace (step p) (Initial p) log net) :
    (net.ports.map (·.core.portIdentity)).Nodup ∧ ∀ t ∈ log,
      t.before.ports.map (·.core.portIdentity) = net.ports.map (·.core.portIdentity) := by
  induction h with
  | init hinit => exact ⟨hinit.identities, fun t ht => by cases ht⟩
  | step _ hstep ih =>
    obtain ⟨slot, slot', htook⟩ := step_took hstep
    have hsame := htook.identities
    refine ⟨by rw [hsame]; exact ih.1, fun t ht => ?_⟩
    rcases List.mem_append.mp ht with hold | hnew
    · rw [hsame]
      exact ih.2 t hold
    · obtain rfl := List.mem_singleton.mp hnew
      exact hsame.symm

/-- What is sent stays on the network. -/
theorem sent_prefix_of_trace (h : Trace (step p) (Initial p) log net) :
    ∀ t ∈ log, t.before.sent <+: net.sent := by
  induction h with
  | init hinit => exact fun t ht => by cases ht
  | @step log net net' e actions _ hstep ih =>
    obtain ⟨slot, slot', htook⟩ := step_took hstep
    have hprefix : net.sent <+: net'.sent := by
      rw [htook.result]
      exact List.prefix_append _ _
    intro t ht
    rcases List.mem_append.mp ht with hold | hnew
    · exact (ih t hold).trans hprefix
    · obtain rfl := List.mem_singleton.mp hnew
      exact hprefix

end Runs

/-! ### Two ports -/

abbrev TestNetwork := PortNetwork AcceptAnyMaster TestRng TestClock TestFilter

/-- The bytes of a message. -/
def packetOf (message : Except Panic Message) : List UInt8 :=
  (message.bind fun message => (PacketBuffer.zero.serialize .debug message).map (·.2)).toOption.getD []

def secondPort : PortIdentity where
  clockIdentity := default
  portNumber := 2

/-- Two ports, the first of them with the default identity. -/
def twoPorts (delayMechanism : DelayMechanism) : Option TestNetwork := do
  let config := { testPortConfig with delayMechanism }
  let first ← (Port.new (A := AcceptAnyMaster) (R := TestRng) (C := TestClock) (F := TestFilter)
    .debug config () ⟨⟩ default ⟨⟩).toOption
  let second ← (Port.new (A := AcceptAnyMaster) (R := TestRng) (C := TestClock) (F := TestFilter)
    .debug config () ⟨⟩ secondPort ⟨⟩).toOption
  return { ports := [.inBmca first, .inBmca second], sent := [], pending := [] }

/-- The first port becomes a master, and the second one its slave. -/
def masterAndSlave (s : PtpInstanceState) : List (Nat × PortEvent NoForwardedTLVs) :=
  let announce : AnnounceMessage := {
    header := Header.new 1
    originTimestamp := default
    currentUtcOffset := 0
    grandmasterPriority1 := 1
    grandmasterClockQuality := testInstanceConfig.clockQuality
    grandmasterPriority2 := 1
    grandmasterIdentity := default
    stepsRemoved := 0
    timeSource := .internalOscillator }
  [(0, .endBmca), (0, .announceReceiptTimer s), (1, .recommend s (.s1 announce)), (1, .endBmca)]

/-- The time that a step hands to the filter of its port. -/
def measured (net net' : TestNetwork) (i : Nat) : Option Measurement := do
  let slot ← net.ports[i]?
  let slot' ← net'.ports[i]?
  let m ← slot'.core.handed.getLast?
  if slot'.core.handed = slot.core.handed ++ [m] then some m else none

/-- Whether these events and the last one are in range, and the last one gives a measurement. -/
def measures (delayMechanism : DelayMechanism) (es : List (Nat × PortEvent NoForwardedTLVs))
    (last : Nat × PortEvent NoForwardedTLVs) (check : TestNetwork → Measurement → Bool) : Bool :=
  (es ++ [last]).all (fun e =>
      e.2.state.all (fun s => decide (s.defaultDs.sdoId.value.toNat < 4096)) &&
        e.2.time.all fun t => decide (t.toInt < 2 ^ 48 * 1000000000 * 2 ^ 32)) &&
    (twoPorts delayMechanism).any fun net =>
      (Machine.run (step .debug) net es).toOption.any fun r =>
        (r.1.step .debug last).toOption.any fun r' => (measured r.1 r'.1 last.1).any (check r'.1)

theorem exists_of_measures {delayMechanism : DelayMechanism}
    {es : List (Nat × PortEvent NoForwardedTLVs)} {last : Nat × PortEvent NoForwardedTLVs}
    {check : TestNetwork → Measurement → Bool} (h : measures delayMechanism es last check = true) :
    ∃ (log : Log AcceptAnyMaster TestRng TestClock TestFilter NoForwardedTLVs) (net net' : TestNetwork)
      (actions : PortActionIterator) (slot slot' : Slot AcceptAnyMaster TestRng TestClock TestFilter)
      (m : Measurement), Trace (step .debug) (Initial .debug) log net ∧
      net.step .debug last = .ok (net', actions) ∧ InRange (log ++ [⟨net, last, net'⟩]) ∧
      net.ports[last.1]? = some slot ∧ net'.ports[last.1]? = some slot' ∧
      slot'.core.handed = slot.core.handed ++ [m] ∧ check net' m = true := by
  rw [measures, Bool.and_eq_true, List.all_eq_true] at h
  obtain ⟨hrange, hrun⟩ := h
  obtain ⟨net₀, hnet₀, hrun⟩ := (Option.any_eq_true _ _).mp hrun
  obtain ⟨⟨net, os⟩, hrun, hstep⟩ := (Option.any_eq_true _ _).mp hrun
  obtain ⟨⟨net', actions⟩, hstep, hmeasured⟩ := (Option.any_eq_true _ _).mp hstep
  obtain ⟨m, hm, hcheck⟩ := (Option.any_eq_true _ _).mp hmeasured
  obtain ⟨slot, hslot, hm⟩ := Option.bind_eq_some_iff.mp hm
  obtain ⟨slot', hslot', hm⟩ := Option.bind_eq_some_iff.mp hm
  obtain ⟨m', -, hm⟩ := Option.bind_eq_some_iff.mp hm
  split at hm
  · rename_i hhanded
    obtain rfl := Option.some.inj hm
    obtain ⟨first, hfirst, hnet₀⟩ := Option.bind_eq_some_iff.mp hnet₀
    obtain ⟨second, hsecond, hnet₀⟩ := Option.bind_eq_some_iff.mp hnet₀
    obtain rfl := Option.some.inj hnet₀
    have hfirst := eq_ok_of_toOption hfirst
    have hsecond := eq_ok_of_toOption hsecond
    have hinit : Initial .debug ({ ports := [.inBmca first, .inBmca second], sent := [], pending := [] } :
        TestNetwork) := by
      refine ⟨fun slot hslot => ?_, ?_, rfl, rfl⟩
      · rcases List.mem_pair.mp hslot with rfl | rfl
        · exact ⟨_, _, _, _, _, first, hfirst, rfl⟩
        · exact ⟨_, _, _, _, _, second, hsecond, rfl⟩
      · have hidentity : ∀ {port : Port InBmca AcceptAnyMaster TestRng TestClock TestFilter}
            {config : PortConfig AcceptAnyMaster} {own : PortIdentity},
            Port.new .debug config () ⟨⟩ own ⟨⟩ = .ok port → port.portIdentity = own := by
          intro port config own hnew
          obtain ⟨_, -, hnew⟩ := bind_eq_ok.mp hnew
          obtain ⟨_, -, hnew⟩ := bind_eq_ok.mp hnew
          rw [← Except.ok.inj hnew]
        show [first.portIdentity, second.portIdentity].Nodup
        rw [hidentity hfirst, hidentity hsecond]
        decide
    obtain ⟨log, htrace, hevents⟩ := Trace.of_run es (.init hinit) (eq_ok_of_toOption hrun)
    refine ⟨log, net, net', actions, slot, slot', m', htrace, eq_ok_of_toOption hstep, fun t ht => ?_,
      hslot, hslot', hhanded, hcheck⟩
    have hmem : t.event ∈ es ++ [last] := by
      rw [← hevents]
      rcases List.mem_append.mp ht with hold | hnew
      · exact List.mem_append_left _ (List.mem_map_of_mem hold)
      · rw [List.mem_singleton.mp hnew]
        exact List.mem_append_right _ List.mem_cons_self
    have hin := hrange _ hmem
    rw [Bool.and_eq_true] at hin
    refine ⟨fun s hs => ?_, fun time htime => ?_⟩
    · rw [hs, Option.all_some, decide_eq_true_eq] at hin
      exact hin.1
    · rw [htime, Option.all_some, decide_eq_true_eq] at hin
      exact hin.2
  · cases hm

end PortNetwork

end Statime
