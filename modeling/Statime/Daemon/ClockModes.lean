import Statime.Daemon.ClockWiring
import Statime.Instance.MasterOnly

/-!
# The modes of the clock tasks

A round of `run` finds the modes of the clock tasks from the slaves, and sends them one after the
other.  At most one port is a slave, so at most one task is told to steer the system clock, and as long
as there is a slave this is the task of its clock.

* `ClockDaemon.clockStates_spec`: the modes of a round.
* `ClockDaemon.Rooted`: the modes since the last round, and the slaves.
* `ClockDaemon.Reachable.inv`: what holds in every state of the daemon.
-/

namespace Statime

open Rust Machine

namespace ClockDaemon

variable {A R C F T : Type} [Filter F] {d d' : ClockDaemon A R C F}
  {portClocks : List (Option UInt32)}

/-! ### The modes of a round -/

theorem setToSystem_eq_ok {states states' : List ClockSyncMode} {id : Nat}
    (h : setToSystem states id = .ok states') :
    id < states.length ∧ states' = states.set id .toSystem := by
  unfold setToSystem at h
  split at h
  · exact ⟨‹_›, (Except.ok.inj h).symm⟩
  · cases h

theorem isSlave_inBmca [AcceptableMasterList A] {port : Port InBmca A R C F} :
    Slot.isSlave (.inBmca port) = port.isSteering := by
  unfold Slot.isSlave Port.isSteering
  rfl

theorem clockState_spec {map : List (Option Nat)} {idx : Nat} {port : Port InBmca A R C F}
    {states states' : List ClockSyncMode} (h : clockState map idx port states = .ok states') :
    states'.length = states.length ∧ ∀ id : Nat, (states'[id]? = some .toSystem ↔
      states[id]? = some .toSystem ∨ port.isSteering = true ∧ map[idx]? = some (some id)) := by
  unfold clockState at h
  split at h
  · rename_i hsteering
    split at h
    · rename_i id hid
      obtain ⟨hlt, rfl⟩ := setToSystem_eq_ok h
      refine ⟨List.length_set, fun id' => ?_⟩
      rw [hid, List.getElem?_set]
      by_cases hsame : id = id'
      · subst hsame
        simp [hlt, hsteering]
      · simp [hsame]
    · rename_i hid
      obtain rfl := Except.ok.inj h
      exact ⟨rfl, fun id' => by simp [hid]⟩
    · cases h
  · rename_i hsteering
    obtain rfl := Except.ok.inj h
    exact ⟨rfl, fun id' => by simp [hsteering]⟩

/-- The port with this number is a slave. -/
def Steering (ports : List (Port InBmca A R C F)) (i : Nat) : Prop :=
  ∃ port, ports[i]? = some port ∧ port.isSteering = true

/-- **A clock task steers the system clock** when it did before, or when a slave uses its clock. -/
theorem clockStates_spec {map : List (Option Nat)} :
    ∀ {ports : List (Port InBmca A R C F)} {idx : Nat} {states states' : List ClockSyncMode},
      clockStates map idx ports states = .ok states' →
      states'.length = states.length ∧ ∀ id : Nat, (states'[id]? = some .toSystem ↔
        states[id]? = some .toSystem ∨ ∃ k, Steering ports k ∧ map[idx + k]? = some (some id)) := by
  intro ports
  induction ports with
  | nil =>
    intro idx states states' h
    obtain rfl := Except.ok.inj h
    refine ⟨rfl, fun id => ⟨Or.inl, ?_⟩⟩
    rintro (hbefore | ⟨k, ⟨port, hport, -⟩, -⟩)
    · exact hbefore
    · cases hport
  | cons port ports ih =>
    intro idx states states' h
    obtain ⟨states₁, hfirst, hrest⟩ := bind_eq_ok.mp h
    obtain ⟨hlength₁, hmodes₁⟩ := clockState_spec hfirst
    obtain ⟨hlength, hmodes⟩ := ih hrest
    refine ⟨hlength.trans hlength₁, fun id => ?_⟩
    rw [hmodes, hmodes₁, or_assoc]
    refine or_congr_right ⟨?_, ?_⟩
    · rintro (⟨hsteering, hid⟩ | ⟨k, hk, hid⟩)
      · exact ⟨0, ⟨port, rfl, hsteering⟩, hid⟩
      · exact ⟨k + 1, hk, by rwa [← Nat.add_assoc, Nat.add_right_comm]⟩
    · rintro ⟨k, ⟨port', hport', hsteering⟩, hid⟩
      cases k with
      | zero =>
        obtain rfl := Option.some.inj hport'
        exact Or.inl ⟨hsteering, hid⟩
      | succ k =>
        exact Or.inr ⟨k, ⟨port', hport', hsteering⟩, by rwa [Nat.add_right_comm, Nat.add_assoc]⟩

/-- The places of the ports and of the clocks exist. -/
theorem exists_clockStates {map : List (Option Nat)} {n : Nat} (hmap : ∀ id, some id ∈ map → id < n) :
    ∀ {ports : List (Port InBmca A R C F)} {idx : Nat} {states : List ClockSyncMode},
      idx + ports.length ≤ map.length → states.length = n →
      ∃ states', clockStates map idx ports states = .ok states' := by
  intro ports
  induction ports with
  | nil => exact fun _ _ => ⟨_, rfl⟩
  | cons port ports ih =>
    intro idx states hports hstates
    rw [List.length_cons] at hports
    have hlt : idx < map.length := by omega
    have hfirst : ∃ states₁, clockState map idx port states = .ok states₁ := by
      unfold clockState
      split
      · rw [List.getElem?_eq_getElem hlt]
        cases hentry : map[idx] with
        | none => exact ⟨_, rfl⟩
        | some id =>
          refine ⟨_, if_pos ?_⟩
          rw [hstates]
          exact hmap id (hentry ▸ List.getElem_mem hlt)
      · exact ⟨_, rfl⟩
    obtain ⟨states₁, hfirst⟩ := hfirst
    have hlater : idx + 1 + ports.length ≤ map.length := by omega
    obtain ⟨states', hrest⟩ := ih hlater ((clockState_spec hfirst).1.trans hstates)
    exact ⟨states', bind_eq_ok.mpr ⟨states₁, hfirst, hrest⟩⟩

/-- The clock of the only slave. -/
theorem exists_root {map : List (Option Nat)} {ports : List (Port InBmca A R C F)}
    (hlength : ports.length ≤ map.length)
    (honly : ∀ i j, Steering ports i → Steering ports j → i = j) :
    ∃ root, (root = none ∨ root ∈ map) ∧ (∀ i, Steering ports i → map[i]? = some root) ∧
      ∀ id, (∃ k, Steering ports k ∧ map[k]? = some (some id)) ↔ root = some id := by
  by_cases hslave : ∃ i, Steering ports i
  · obtain ⟨i, hi⟩ := hslave
    obtain ⟨port, hport, -⟩ := id hi
    have hlt := (List.getElem?_eq_some_iff.mp hport).1.trans_le hlength
    have hget : map[i]? = some map[i] := List.getElem?_eq_getElem hlt
    refine ⟨map[i], Or.inr (List.getElem_mem hlt), fun j hj => ?_, fun id => ⟨?_, fun hroot => ?_⟩⟩
    · rw [honly j i hj hi, hget]
    · rintro ⟨k, hk, hid⟩
      rw [honly k i hk hi, hget] at hid
      exact Option.some.inj hid
    · exact ⟨i, hi, hget.trans (congrArg some hroot)⟩
  · refine ⟨none, Or.inl rfl, fun i hi => absurd ⟨i, hi⟩ hslave, fun id => ⟨?_, fun hroot => ?_⟩⟩
    · rintro ⟨k, hk, -⟩
      exact absurd ⟨k, hk⟩ hslave
    · cases hroot

/-! ### The modes since the last round -/

/-- The modes that the tasks have when `run` has sent all of them. -/
def target (d : ClockDaemon A R C F) : List ClockSyncMode :=
  d.internalSyncSenders.take (d.internalSyncSenders.length - d.unsent.length) ++ d.unsent

theorem target_of_sent (h : d.unsent = []) : d.target = d.internalSyncSenders := by
  rw [target, h, List.append_nil, List.length_nil, Nat.sub_zero, List.take_length]

theorem target_of_round {system : System A R C F} {states : List ClockSyncMode}
    (h : states.length = d.internalSyncSenders.length) :
    ({ d with system, unsent := states } : ClockDaemon A R C F).target = states := by
  rw [target, h, Nat.sub_self, List.take_zero, List.nil_append]

theorem target_send {mode : ClockSyncMode} {unsent : List ClockSyncMode}
    (hunsent : d.unsent = mode :: unsent) (hle : d.unsent.length ≤ d.internalSyncSenders.length) :
    ({ d with
        internalSyncSenders :=
          d.internalSyncSenders.set (d.internalSyncSenders.length - d.unsent.length) mode
        unsent } : ClockDaemon A R C F).target = d.target := by
  rw [hunsent, List.length_cons] at hle
  have hnext : d.internalSyncSenders.length - unsent.length =
      d.internalSyncSenders.length - d.unsent.length + 1 := by
    rw [hunsent, List.length_cons]
    omega
  have hlt : d.internalSyncSenders.length - d.unsent.length < d.internalSyncSenders.length := by
    rw [hunsent, List.length_cons]
    omega
  rw [target, target, List.length_set, hnext, List.take_add_one, List.take_set_of_le (Nat.le_refl _),
    List.getElem?_set_self hlt, Option.toList_some, List.append_assoc, List.singleton_append,
    ← hunsent]

variable [AcceptableMasterList A] [Clock C] [Rng R] [ForwardedTLVProvider T] {p : Profile}
  {config : Filter.Config F}

/-- **The clock that sets the time**: the slaves use it, and its task, if it has one, is the only one
to steer the system clock. -/
structure Rooted (d : ClockDaemon A R C F) (root : Option Nat) : Prop where
  inRange : ∀ id, root = some id → id < d.hwClocks.length
  slaves : ∀ (i : Nat) (slot : Slot A R C F), d.system.ports[i]? = some slot → slot.isSlave = true →
    d.clockPortMap[i]? = some root
  modes : ∀ id : Nat, d.target[id]? = some .toSystem ↔ root = some id

/-- **The invariant of the daemon.** -/
structure Inv (T : Type) [ForwardedTLVProvider T] (p : Profile) (d : ClockDaemon A R C F) : Prop where
  reachable : System.Reachable T p d.system
  wired : d.Wired d.portClocks
  length : d.clockPortMap.length = d.system.ports.length
  unsent : d.unsent.length ≤ d.internalSyncSenders.length
  rooted : d.system.NumbersSuffice p → ∃ root, d.Rooted root

theorem Starting.inv (h : Starting T p d) : Inv T p d where
  reachable := h.reachable
  wired := h.wired
  length := h.length
  unsent := by rw [h.unsent]; exact Nat.zero_le _
  rooted := by
    refine fun _ => ⟨none, ⟨fun id hid => ?_, fun i slot hslot hslave => ?_, fun id => ?_⟩⟩
    · cases hid
    · rw [h.noSlave slot (List.mem_of_getElem? hslot)] at hslave
      cases hslave
    · constructor
      · intro hmode
        rw [target_of_sent h.unsent] at hmode
        cases h.fromSystem _ (List.mem_of_getElem? hmode)
      · intro hroot
        cases hroot

/-! ### The steps -/

/-- A port becomes no slave by a call of its task. -/
theorem Inv.port (h : Inv T p d) {e : Event A R C F T} {system : System A R C F}
    {actions : PortActionIterator} (he : (e.onPort d.system.state).isSome)
    (hstep : d.system.step p e = .ok (system, actions)) : Inv T p { d with system } := by
  obtain ⟨⟨i, e'⟩, he⟩ := Option.isSome_iff_exists.mp he
  obtain ⟨slot, slot', hport⟩ := System.step_onPort he hstep
  have hlength : system.ports.length = d.system.ports.length := by rw [hport.set, List.length_set]
  refine ⟨h.reachable.step hstep, h.wired.congr rfl rfl rfl rfl, h.length.trans hlength.symm,
    h.unsent, fun hnumbers => ?_⟩
  obtain ⟨root, hroot⟩ := h.rooted (hnumbers.before hstep)
  refine ⟨root, ⟨hroot.inRange, fun j slot₁ hslot₁ hslave => ?_, hroot.modes⟩⟩
  replace hslot₁ : (d.system.ports.set i slot')[j]? = some slot₁ := by rw [← hport.set]; exact hslot₁
  by_cases hsame : i = j
  · subst hsame
    obtain rfl : slot' = slot₁ := by
      rw [List.getElem?_set_self (List.getElem?_eq_some_iff.mp hport.get).1] at hslot₁
      exact Option.some.inj hslot₁
    obtain ⟨master, hmaster⟩ := Slot.isSlave_iff.mp hslave
    have hbefore := (Slot.step_core hport.step).follows (System.onPort_ne_recommend he) hmaster
    exact hroot.slaves i slot hport.get (Slot.isSlave_iff.mpr ⟨master, hbefore⟩)
  · rw [List.getElem?_set_ne hsame] at hslot₁
    exact hroot.slaves j slot₁ hslot₁ hslave

/-- Two slaves are one. -/
theorem slave_unique {sys : System A R C F} (h : System.Reachable T p sys)
    (hnumbers : sys.NumbersSuffice p) {i j : Nat} {slot slot' : Slot A R C F}
    (hi : sys.ports[i]? = some slot) (hj : sys.ports[j]? = some slot') (hslot : slot.isSlave = true)
    (hslot' : slot'.isSlave = true) : i = j := by
  obtain ⟨identity, hall⟩ := h.slavesFollow
  obtain ⟨master, hmaster⟩ := Slot.isSlave_iff.mp hslot
  obtain ⟨master', hmaster'⟩ := Slot.isSlave_iff.mp hslot'
  have hsame := (hall slot (List.mem_of_getElem? hi) master hmaster).1
  have hsame' := (hall slot' (List.mem_of_getElem? hj) master' hmaster').1
  have hlt : i < sys.portIdentities.length := by
    rw [System.portIdentities, List.length_map]
    exact (List.getElem?_eq_some_iff.mp hi).1
  refine (List.getElem?_inj hlt (h.nodup hnumbers)).mp ?_
  rw [System.portIdentities, List.getElem?_map, List.getElem?_map, hi, hj, Option.map_some,
    Option.map_some, hsame, hsame']

omit [Clock C] [Rng R] [ForwardedTLVProvider T] in
theorem steering_iff {sys : System A R C F} {ports : List (Port InBmca A R C F)}
    (hports : sys.ports = ports.map .inBmca) (i : Nat) :
    Steering ports i ↔ ∃ slot, sys.ports[i]? = some slot ∧ slot.isSlave = true := by
  rw [hports, List.getElem?_map]
  constructor
  · rintro ⟨port, hport, hsteering⟩
    exact ⟨.inBmca port, by rw [hport, Option.map_some], isSlave_inBmca.trans hsteering⟩
  · rintro ⟨slot, hslot, hslave⟩
    obtain ⟨port, hport, rfl⟩ := Option.map_eq_some_iff.mp hslot
    exact ⟨port, hport, isSlave_inBmca.symm.trans hslave⟩

/-- A round gives back the ports that it got. -/
theorem length_bmca {sys sys' : System A R C F} {actions : PortActionIterator}
    (h : sys.step p (.bmca : Event A R C F T) = .ok (sys', actions)) :
    sys'.ports.length = sys.ports.length := by
  obtain ⟨before, interval, after, hbefore, hbmca, hafter⟩ := System.step_bmca h
  obtain ⟨ports₁, ports₂, ebest, hround⟩ := PtpInstanceState.bmca_eq_ok hbmca
  have hsame := congrArg List.length hround.portIdentities
  rw [List.length_map, List.length_map] at hsame
  rw [hafter, System.allInBmca_eq_some hbefore, List.length_map, List.length_map, hsame]

/-- **The modes of a round** make the clock of the slave the root. -/
theorem Inv.bmca (h : Inv T p d) {system : System A R C F} {actions : PortActionIterator}
    {ports : List (Port InBmca A R C F)} {states : List ClockSyncMode}
    (hstep : d.system.step p (.bmca : Event A R C F T) = .ok (system, actions))
    (hall : System.allInBmca system.ports = some ports)
    (hstates : clockStates d.clockPortMap 0 ports
      (List.replicate d.internalSyncSenders.length .fromSystem) = .ok states) :
    Inv T p { d with system, unsent := states } := by
  have hreachable : System.Reachable T p system := h.reachable.step hstep
  have hports := System.allInBmca_eq_some hall
  have hlength := length_bmca hstep
  have hslave := steering_iff hports
  obtain ⟨hcount, hmodes⟩ := clockStates_spec hstates
  rw [List.length_replicate] at hcount
  refine ⟨hreachable, h.wired.congr rfl rfl rfl rfl, h.length.trans hlength.symm, hcount.le,
    fun hnumbers => ?_⟩
  have honly : ∀ i j, Steering ports i → Steering ports j → i = j := by
    intro i j hi hj
    obtain ⟨slot, hslot, hisSlave⟩ := (hslave i).mp hi
    obtain ⟨slot', hslot', hisSlave'⟩ := (hslave j).mp hj
    exact slave_unique hreachable hnumbers hslot hslot' hisSlave hisSlave'
  have hplaces : ports.length ≤ d.clockPortMap.length := by
    rw [h.length, ← hlength, hports, List.length_map]
  obtain ⟨root, hroot, hclock, hall⟩ := exists_root hplaces honly
  refine ⟨root, ⟨fun id hid => ?_, fun i slot hslot hisSlave => ?_, fun id => ?_⟩⟩
  · subst hid
    exact h.wired.inRange id (hroot.resolve_left (Option.some_ne_none id))
  · exact hclock i ((hslave i).mpr ⟨slot, hslot, hisSlave⟩)
  · rw [target_of_round hcount, hmodes, ← hall id]
    simp only [Nat.zero_add]
    refine or_iff_right fun hbefore => ?_
    cases List.eq_of_mem_replicate (List.mem_of_getElem? hbefore)

/-- A mode is sent. -/
theorem Inv.send (h : Inv T p d) {mode : ClockSyncMode} {unsent : List ClockSyncMode}
    (hunsent : d.unsent = mode :: unsent) :
    Inv T p { d with
      internalSyncSenders :=
        d.internalSyncSenders.set (d.internalSyncSenders.length - d.unsent.length) mode
      unsent } := by
  refine ⟨h.reachable, h.wired.congr rfl List.length_set rfl rfl, h.length, ?_, fun hnumbers => ?_⟩
  · have hle := h.unsent
    rw [hunsent, List.length_cons] at hle
    show unsent.length ≤ (List.set _ _ _).length
    rw [List.length_set]
    exact Nat.le_of_succ_le hle
  · obtain ⟨root, hroot⟩ := h.rooted hnumbers
    refine ⟨root, ⟨hroot.inRange, hroot.slaves, fun id => ?_⟩⟩
    rw [target_send hunsent h.unsent]
    exact hroot.modes id

/-- A step of a clock task. -/
theorem Inv.clockTask (h : Inv T p d) {id : Nat} {task task' : ClockTask C F} {systemClock : C}
    (hget : d.tasks[id]? = some task) (hidx : task'.idx = task.idx) :
    Inv T p { d with tasks := d.tasks.set id task', systemClock } := by
  have hclocks := hwClocks_set systemClock hget hidx
  refine ⟨h.reachable, h.wired.congr hclocks rfl rfl rfl, h.length, h.unsent, fun hnumbers => ?_⟩
  obtain ⟨root, hroot⟩ := h.rooted hnumbers
  refine ⟨root, ⟨fun id' hid' => ?_, hroot.slaves, hroot.modes⟩⟩
  rw [hclocks]
  exact hroot.inRange id' hid'

/-- **One step of the daemon.** -/
theorem Inv.step (h : Inv T p d) {e : StepEvent A R C F T} {actions : PortActionIterator}
    (hstep : d.step p config e = .ok (d', actions)) : Inv T p d' := by
  cases e with
  | port e =>
    by_cases hfree : d.unsent = [] ∧ (e.onPort d.system.state).isSome
    · replace hstep : d.callPort p e = .ok (d', actions) := (if_pos hfree).symm.trans hstep
      obtain ⟨⟨system, actions'⟩, hsystem, hstep⟩ := bind_eq_ok.mp hstep
      obtain ⟨rfl, rfl⟩ := Prod.mk.inj (Except.ok.inj hstep)
      exact h.port hfree.2 hsystem
    · cases (if_neg hfree).symm.trans hstep
  | bmca =>
    by_cases hfree : d.unsent = []
    · replace hstep : d.runBmca T p = .ok (d', actions) := (if_pos hfree).symm.trans hstep
      obtain ⟨⟨system, actions'⟩, hsystem, hstep⟩ := bind_eq_ok.mp hstep
      obtain ⟨ports, hports, hstep⟩ := bind_eq_ok.mp hstep
      obtain ⟨states, hstates, hstep⟩ := bind_eq_ok.mp hstep
      obtain ⟨rfl, rfl⟩ := Prod.mk.inj (Except.ok.inj hstep)
      exact h.bmca hsystem (orIllTyped_eq_ok.mp hports) (orPanic_eq_ok.mp hstates)
    · cases (if_neg hfree).symm.trans hstep
  | send =>
    simp only [ClockDaemon.step] at hstep
    split at hstep
    · cases hstep
    · rename_i mode unsent hunsent
      obtain ⟨rfl, rfl⟩ := Prod.mk.inj (Except.ok.inj hstep)
      exact h.send hunsent
  | clockTask id e =>
    obtain ⟨task, htask, hstep⟩ := bind_eq_ok.mp hstep
    obtain ⟨watch, hwatch, hstep⟩ := bind_eq_ok.mp hstep
    obtain ⟨⟨task', systemClock⟩, hrun, hstep⟩ := bind_eq_ok.mp hstep
    obtain ⟨rfl, rfl⟩ := Prod.mk.inj (Except.ok.inj hstep)
    exact h.clockTask (orIllTyped_eq_ok.mp htask) (ClockTask.step_idx (orPanic_eq_ok.mp hrun))

theorem Reachable.inv (h : ClockDaemon.Reachable T p config d) : Inv T p d := by
  refine Machine.Reachable.invariant (fun d hinit => ?_)
    (fun d e d' actions hd hstep => hd.step hstep) h
  obtain ⟨openIdx, systemClock, instanceConfig, timePropertiesDs, setups, hstart⟩ := hinit
  exact (starting_of_start hstart).inv

end ClockDaemon

end Statime
