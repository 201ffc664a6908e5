import Statime.Instance.Round

/-!
# At most one slave

All slaves of an instance carry one identity, and follow the parent of the instance.  This holds
initially, no running port becomes a slave, and a round of the best master clock algorithm makes
at most the port a slave that received the best message.

* `System.Reachable.single_slave`: at most one port is a slave, and its master is the parent.
-/

namespace Statime

open Rust

variable {A R C F T : Type} [AcceptableMasterList A] [Clock C] [Filter F] [Rng R]
  [ForwardedTLVProvider T]

def Slot.isSlave (slot : Slot A R C F) : Bool :=
  match slot.core.portState with
  | .slave _ => true
  | _ => false

omit [Clock C] [Rng R] in
theorem Slot.isSlave_iff {slot : Slot A R C F} :
    slot.isSlave = true ↔ ∃ master, slot.core.Follows master := by
  unfold Slot.isSlave
  constructor
  · intro h
    split at h
    · rename_i state hstate
      exact ⟨_, PortCore.follows_of_slave hstate⟩
    · cases h
  · rintro ⟨master, state, hstate, -⟩
    rw [hstate]

/-- Elements with one image, in a list of distinct images. -/
theorem countP_le_one_of_nodup_map {α β : Type} {P : α → Bool} {f : α → β} {xs : List α} {b : β}
    (hnodup : (xs.map f).Nodup) (h : ∀ x ∈ xs, P x = true → f x = b) : xs.countP P ≤ 1 := by
  have hfilter : ((xs.filter P).map f).Nodup := hnodup.sublist (List.filter_sublist.map f)
  have hsame : (xs.filter P).map f = List.replicate (xs.filter P).length b := by
    rw [List.eq_replicate_iff, List.length_map]
    refine ⟨rfl, fun y hy => ?_⟩
    obtain ⟨x, hx, rfl⟩ := List.mem_map.mp hy
    obtain ⟨hmem, hP⟩ := List.mem_filter.mp hx
    exact h x hmem hP
  rw [hsame, List.nodup_replicate] at hfilter
  rwa [List.countP_eq_length_filter]

namespace System

/-- **The invariant**: all slaves have one identity, and all of them follow the parent. -/
def SlavesFollow (sys : System A R C F) : Prop :=
  ∃ identity, ∀ slot ∈ sys.ports, ∀ master, slot.core.Follows master →
    slot.core.portIdentity = identity ∧ sys.state.parentDs.parentPortIdentity = master

variable {p : Profile} {sys sys' : System A R C F} {e : Event A R C F T}
  {actions : PortActionIterator}

omit [AcceptableMasterList A] [Clock C] [Rng R] [ForwardedTLVProvider T] in
/-- A call on a running port is no recommendation. -/
theorem onPort_ne_recommend {i : Nat} {s : PtpInstanceState} {e : Event A R C F T}
    {e' : PortEvent T} (h : e.onPort s = some (i, e')) :
    ∀ s' state, e' ≠ .recommend s' state := by
  rintro s' state rfl
  cases e <;> cases h

theorem slavesFollow_onPort {i : Nat} {e' : PortEvent T}
    {slot slot' : Slot A R C F} (hsys : sys.SlavesFollow)
    (hport : PortStep p sys sys' i e' slot slot' actions)
    (he : ∀ s state, e' ≠ .recommend s state) : sys'.SlavesFollow := by
  obtain ⟨identity, hall⟩ := hsys
  refine ⟨identity, fun slot₁ hslot₁ master hmaster => ?_⟩
  rw [hport.state.parent]
  rw [hport.set] at hslot₁
  rcases List.mem_or_eq_of_mem_set hslot₁ with hold | rfl
  · exact hall slot₁ hold master hmaster
  · have hstep := Slot.step_core hport.step
    have hmem := List.mem_of_getElem? hport.get
    obtain ⟨hidentity, hparent⟩ := hall slot hmem master (hstep.follows he hmaster)
    exact ⟨hstep.sameOwner.portIdentity.trans hidentity, hparent⟩

theorem slavesFollow_bmca {ports ports' : List (Port InBmca A R C F)} {interval : Duration}
    (hown : ∀ port ∈ ports, port.core.ownPortIdentity = port.core.portIdentity)
    (hbmca : sys.state.bmca p ports interval = .ok (ports', sys'.state))
    (hports : sys'.ports = ports'.map .inBmca) : sys'.SlavesFollow := by
  obtain ⟨ports₁, ports₂, ebest, hround⟩ := PtpInstanceState.bmca_eq_ok hbmca
  have hfollows := hround.follows hown
  have hmem : ∀ slot ∈ sys'.ports, ∃ port ∈ ports', slot = .inBmca port := by
    intro slot hslot
    rw [hports] at hslot
    obtain ⟨port, hport, rfl⟩ := List.mem_map.mp hslot
    exact ⟨port, hport, rfl⟩
  cases ebest with
  | none =>
    -- without a best message there is no slave at all
    refine ⟨default, fun slot hslot master hmaster => ?_⟩
    obtain ⟨port, hport, rfl⟩ := hmem slot hslot
    obtain ⟨-, best, hbest, -⟩ := hfollows port hport master hmaster
    cases hbest
  | some best =>
    refine ⟨best.identity, fun slot hslot master hmaster => ?_⟩
    obtain ⟨port, hport, rfl⟩ := hmem slot hslot
    obtain ⟨hparent, best', hbest, hidentity⟩ := hfollows port hport master hmaster
    obtain rfl := Option.some.inj hbest
    exact ⟨hidentity, hparent⟩

/-- **One step of an instance.** -/
theorem slavesFollow_step (hreachable : System.Reachable T p sys) (hsys : sys.SlavesFollow)
    (h : sys.step p e = .ok (sys', actions)) : sys'.SlavesFollow := by
  cases he : e.onPort sys.state with
  | some target =>
    obtain ⟨i, e'⟩ := target
    obtain ⟨old, new, hport⟩ := step_onPort he h
    exact slavesFollow_onPort hsys hport (onPort_ne_recommend he)
  | none =>
    rcases step_not_onPort he h with
      ⟨numberPorts, config, filterConfig, clock, rng, port, -, hnew, hports, hstate⟩ |
        ⟨hperm, hparent, -⟩ | ⟨-, ports, interval, ports', hall, hbmca, hports⟩
    · obtain ⟨identity, hslaves⟩ := hsys
      refine ⟨identity, fun slot hslot master hmaster => ?_⟩
      rw [hports] at hslot
      rw [hstate]
      rcases List.mem_append.mp hslot with hold | hlast
      · exact hslaves slot hold master hmaster
      · obtain rfl := List.mem_singleton.mp hlast
        obtain ⟨state, hslave, -⟩ := hmaster
        cases (Port.new_portIdentity hnew).2.symm.trans hslave
    · obtain ⟨identity, hslaves⟩ := hsys
      refine ⟨identity, fun slot hslot master hmaster => ?_⟩
      rw [hparent]
      exact hslaves slot (hperm.mem_iff.mp hslot) master hmaster
    · refine slavesFollow_bmca (fun port hport => ?_) hbmca hports
      have hmem : Slot.inBmca port ∈ sys.ports := by
        rw [allInBmca_eq_some hall]
        exact List.mem_map_of_mem hport
      exact (hreachable.slot _ hmem).ownPortIdentity

theorem Reachable.slavesFollow (h : System.Reachable T p sys) : sys.SlavesFollow := by
  induction h with
  | init hs =>
    obtain ⟨config, timeProperties, rfl⟩ := hs
    exact ⟨default, fun slot hslot => by cases hslot⟩
  | step hr hstep ih => exact slavesFollow_step hr ih hstep

/-- **The single slave.**  In every state that an instance with pairwise distinct port identities
can reach, at most one port is a slave, and a slave follows the parent of the instance. -/
theorem Reachable.single_slave (h : System.Reachable T p sys) (hnodup : sys.portIdentities.Nodup) :
    sys.ports.countP Slot.isSlave ≤ 1 ∧
      ∀ slot ∈ sys.ports, ∀ state, slot.core.portState = .slave state →
        state.remoteMaster = sys.state.parentDs.parentPortIdentity := by
  obtain ⟨identity, hall⟩ := h.slavesFollow
  constructor
  · refine countP_le_one_of_nodup_map hnodup (b := identity) fun slot hslot hslave => ?_
    obtain ⟨master, hmaster⟩ := Slot.isSlave_iff.mp hslave
    exact (hall slot hslot master hmaster).1
  · intro slot hslot state hstate
    exact (hall slot hslot _ (PortCore.follows_of_slave hstate)).2.symm

/-- Two ports, the second of which follows a master. -/
theorem Reachable.single_slave_two_ports :
    ∃ sys : TestSystem, sys.portIdentities.Nodup ∧ sys.ports.length = 2 ∧
      sys.ports.countP Slot.isSlave = 1 ∧
      ∀ slot ∈ sys.ports, ∀ state, slot.core.portState = .slave state →
        state.remoteMaster = sys.state.parentDs.parentPortIdentity := by
  have hrun : Machine.endsWith (System.step .debug) (testSystem testInstanceConfig)
      (.addPort testPortConfig () ⟨⟩ ⟨⟩ :: .addPort testPortConfig () ⟨⟩ ⟨⟩ :: becomeSlave 1)
      (fun sys => decide (sys.portIdentities.Nodup ∧ sys.ports.length = 2) &&
        sys.ports.any Slot.isSlave) = true := by
    decide +kernel
  obtain ⟨sys, hreach, hcheck⟩ := System.reachable_of_endsWith hrun
  rw [Bool.and_eq_true, decide_eq_true_eq] at hcheck
  obtain ⟨⟨hnodup, hlength⟩, hslave⟩ := hcheck
  obtain ⟨hcount, hmaster⟩ := Reachable.single_slave hreach hnodup
  refine ⟨sys, hnodup, hlength, ?_, hmaster⟩
  have hpos : 0 < sys.ports.countP Slot.isSlave := by
    rw [List.countP_pos_iff]
    exact List.any_eq_true.mp hslave
  omega

end System

end Statime
