import Statime.Instance.PathTrace
import Statime.Instance.RoundDatasets
import Statime.Port.Announce

/-!
# The path trace belongs to the parent

The path trace list is written by the announce messages of the parent, and cleared when the instance
becomes its own grandmaster.  A new parent does not clear it, nor does a message of the parent that
has no path trace.

* `System.learned`: what the parent of a slave told about the path, over a whole run.
* `System.step_writesPath`: what a step writes to the list.
* `System.path_trace_of_parent`: when the list is what was learned.
* `System.path_trace_of_old_parent`: a run in which it is not.
-/

namespace Statime

open Rust Machine

variable {A R C F T : Type} [AcceptableMasterList A] [Clock C] [Filter F] [Rng R]
  [ForwardedTLVProvider T]

/-! ### What the parent says -/

/-- The path that a message reports; nothing when it went in a loop. -/
def Message.pathTrace (p : Profile) (own : ClockIdentity) (message : Message) :
    Option (List ClockIdentity) :=
  match message.pathTraceRecord p with
  | .ok (some tlv) =>
    if own ∈ pathTraceEntries tlv.value then none else some (pathTraceEntries tlv.value)
  | _ => some []

/-- The message, when it is an announce message of the parent that a slave follows. -/
def Port.fromParent (s : PtpInstanceState) (port : Port Running A R C F) (message : Message) :
    Option Message :=
  match message.body with
  | .announce announce => if port.isFromParent s announce then some message else none
  | _ => none

/-- The announce message of the parent in a packet. -/
def Port.parentMessage (s : PtpInstanceState) (port : Port Running A R C F) (data : List UInt8) :
    Option Message :=
  match Port.parseAndFilter s data with
  | .ok (some message) => port.fromParent s message
  | _ => none

namespace PtpInstanceState

variable {p : Profile} {s s' : PtpInstanceState} {message : Message} {announce : AnnounceMessage}

/-- What is known about the path after the message of the parent. -/
def knownPath (p : Profile) (s : PtpInstanceState) (known : List ClockIdentity)
    (heard : Option Message) : List ClockIdentity :=
  match heard with
  | some message => (message.pathTrace p s.defaultDs.clockIdentity).getD known
  | none => known

/-- The list keeps nothing when the message has no path trace. -/
def NothingStale (p : Profile) (s : PtpInstanceState) (heard : Option Message) : Prop :=
  ∀ message, heard = some message → message.pathTraceRecord p = .ok none →
    s.pathTraceDs.list.toList = []

/-- What is written to the list. -/
structure WritesPath (p : Profile) (s s' : PtpInstanceState) (heard : Option Message) : Prop where
  enable : s'.pathTraceDs.enable = s.pathTraceDs.enable
  list : s.pathTraceDs.enable = true → s.NothingStale p heard →
    s'.pathTraceDs.list.toList = s.knownPath p s.pathTraceDs.list.toList heard

theorem WritesPath.refl (p : Profile) (s : PtpInstanceState) : s.WritesPath p s none :=
  ⟨rfl, fun _ _ => rfl⟩

theorem updateFromParent_writesPath {loop : Bool}
    (h : s.updateFromParent p message announce = .ok (s', loop)) :
    s.WritesPath p s' (some message) := by
  obtain ⟨steps, -, h⟩ := bind_eq_ok.mp h
  dsimp only at h
  split at h
  · rename_i henable
    obtain ⟨found, hfound, h⟩ := bind_eq_ok.mp h
    replace hfound : message.pathTraceRecord p = .ok found := hfound
    cases found with
    | none =>
      obtain ⟨rfl, -⟩ := Prod.mk.inj (Except.ok.inj h)
      refine ⟨rfl, fun _ hstale => ?_⟩
      simp only [knownPath, Message.pathTrace, hfound, Option.getD_some]
      exact hstale message rfl hfound
    | some tlv =>
      dsimp only at h
      split at h
      · rename_i hloop
        obtain ⟨rfl, -⟩ := Prod.mk.inj (Except.ok.inj h)
        refine ⟨rfl, fun _ _ => ?_⟩
        simp only [knownPath, Message.pathTrace, hfound, if_pos (List.contains_iff_mem.mp hloop),
          Option.getD_none]
      · rename_i hloop
        obtain ⟨list, hlist, h⟩ := bind_eq_ok.mp h
        obtain ⟨rfl, -⟩ := Prod.mk.inj (Except.ok.inj h)
        refine ⟨rfl, fun _ _ => ?_⟩
        simp only [knownPath, Message.pathTrace, hfound,
          if_neg (fun h => hloop (List.contains_iff_mem.mpr h)), Option.getD_some]
        unfold ArrayVec.collect at hlist
        split at hlist
        · rw [← Except.ok.inj hlist]
        · cases hlist
  · rename_i hdisabled
    obtain ⟨rfl, -⟩ := Prod.mk.inj (Except.ok.inj h)
    exact ⟨rfl, fun henable => absurd henable hdisabled⟩

end PtpInstanceState

/-! ### The messages of a port -/

namespace Port

variable {p : Profile} {s s' : PtpInstanceState} {port port' : Port Running A R C F}
  {message : Message} {announce : AnnounceMessage} {actions : PortActionIterator}

omit [AcceptableMasterList A] [Clock C] [Rng R] in
theorem Updates.writesPath (h : port.Updates p s s' message) :
    s.WritesPath p s' (port.fromParent s message) := by
  cases h with
  | parent hbody hparent hupdate =>
    simp only [fromParent, hbody, if_pos hparent]
    exact PtpInstanceState.updateFromParent_writesPath hupdate
  | stranger hbody hparent hs =>
    simp only [fromParent, hbody, hparent, Bool.false_eq_true, if_false, hs]
    exact .refl p s
  | other hbody hs =>
    have hnone : port.fromParent s message = none := by
      unfold fromParent
      split
      · rename_i announce hannounce
        exact absurd hannounce (hbody announce)
      · rfl
    rw [hnone, hs]
    exact .refl p s

omit [AcceptableMasterList A] [Clock C] [Rng R] in
theorem UpdatesFrom.writesPath {data : List UInt8} (h : port.UpdatesFrom p s s' data) :
    s.WritesPath p s' (port.parentMessage s data) := by
  rcases h with ⟨hparse, hs⟩ | ⟨message, hparse, hupdates⟩
  · rw [parentMessage, hparse, hs]
    exact .refl p s
  · rw [parentMessage, hparse]
    exact hupdates.writesPath

end Port

/-! ### Rounds -/

namespace PtpInstanceState

variable {p : Profile} {s s' : PtpInstanceState} {ebest : Option BestAnnounceMessage}

omit [AcceptableMasterList A] in
/-- A decision clears the list only when there is no better clock. -/
theorem decideState_pathTraceDs {port port' : Port InBmca A R C F}
    (h : s.decideState p ebest port = .ok (port', s')) :
    s'.pathTraceDs.enable = s.pathTraceDs.enable ∧
      ∀ best, Bmca.Outranked p s.defaultDs ebest best → s'.pathTraceDs = s.pathTraceDs := by
  rcases decideState_cases h with ⟨-, -, rfl⟩ | ⟨state, hrecommended, hset⟩
  · exact ⟨rfl, fun _ _ => rfl⟩
  · cases Bmca.calculateRecommendedState_recommends hrecommended with
    | m1 hclass _ =>
      obtain ⟨port₁, -, hset⟩ := bind_eq_ok.mp hset
      obtain ⟨_, -, hset⟩ := bind_eq_ok.mp hset
      obtain ⟨-, rfl⟩ := Prod.mk.inj (Except.ok.inj hset)
      exact ⟨rfl, fun best hbest => absurd hclass hbest.1⟩
    | m2 _ hnot =>
      obtain ⟨port₁, -, hset⟩ := bind_eq_ok.mp hset
      obtain ⟨_, -, hset⟩ := bind_eq_ok.mp hset
      obtain ⟨-, rfl⟩ := Prod.mk.inj (Except.ok.inj hset)
      exact ⟨rfl, fun best hbest => absurd hbest.2 (hnot best)⟩
    | p1 | m3 | p2 =>
      obtain ⟨port₁, -, hset⟩ := bind_eq_ok.mp hset
      obtain ⟨-, rfl⟩ := Prod.mk.inj (Except.ok.inj hset)
      exact ⟨rfl, fun _ _ => rfl⟩
    | s1 =>
      obtain ⟨port₁, -, hset⟩ := bind_eq_ok.mp hset
      obtain ⟨_, -, hset⟩ := bind_eq_ok.mp hset
      obtain ⟨s₁, hfollow, hset⟩ := bind_eq_ok.mp hset
      obtain ⟨-, rfl⟩ := Prod.mk.inj (Except.ok.inj hset)
      obtain ⟨steps, -, hfollow⟩ := bind_eq_ok.mp hfollow
      rw [← Except.ok.inj hfollow]
      exact ⟨rfl, fun _ _ => rfl⟩

variable {interval : Duration} {ports ports' ports₁ ports₂ : List (Port InBmca A R C F)}

theorem Round.enable (h : Round p s s' interval ports ports' ports₁ ports₂ ebest) :
    s'.pathTraceDs.enable = s.pathTraceDs.enable := by
  refine decideStates_brings (W := fun s₁ => s₁.pathTraceDs.enable = s.pathTraceDs.enable)
    (B := fun _ => False) (P := fun _ => True) ?_ rfl (fun _ _ => trivial) h.decide (Or.inl rfl)
  rintro s₁ port port' s₂ - - hdecide (hs₁ | hnone)
  · exact (decideState_pathTraceDs hdecide).1.trans hs₁
  · exact hnone.elim

/-- **A round that makes a slave does not clear the list.** -/
theorem Round.pathTraceDs (h : Round p s s' interval ports ports' ports₁ ports₂ ebest)
    {port' : Port InBmca A R C F} (hport' : port' ∈ ports') {master : PortIdentity}
    (hmaster : port'.core.Follows master) : s'.pathTraceDs = s.pathTraceDs := by
  obtain ⟨i, hi⟩ := List.mem_iff_getElem?.mp hport'
  obtain ⟨port, best, -, hbest, -⟩ := h.follows_getElem? hi hmaster
  refine decideStates_brings (W := fun s₁ => s₁.pathTraceDs = s.pathTraceDs) (B := fun _ => False)
    (P := fun _ => True) ?_ rfl (fun _ _ => trivial) h.decide (Or.inl rfl)
  rintro s₁ port port' s₂ hd - hdecide (hs₁ | hnone)
  · rw [← hd] at hbest
    exact ((decideState_pathTraceDs hdecide).2 best hbest).trans hs₁
  · exact hnone.elim

end PtpInstanceState

/-! ### The steps of an instance -/

namespace System

variable {p : Profile} {sys sys' : System A R C F} {e : Event A R C F T}
  {actions : PortActionIterator}

/-- The announce message of the parent that a slave handles in this step, and the identity of the
slave. -/
def parentMessage (sys : System A R C F) (e : Event A R C F T) : Option (PortIdentity × Message) := do
  let (i, data) ← receivedOn e
  let port ← sys.getRunning i
  let message ← port.parentMessage sys.state data
  return (port.portIdentity, message)

/-- **What a step writes to the list**, rounds of the algorithm aside. -/
theorem step_writesPath (he : e ≠ .bmca) (h : sys.step p e = .ok (sys', actions)) :
    sys.state.WritesPath p sys'.state ((sys.parentMessage e).map (·.2)) := by
  rcases step_updates he h with ⟨hnone, defaultDs, hstate⟩ | ⟨i, data, port, hdata, hport, hupdates⟩
  · rw [parentMessage, hnone, hstate]
    exact ⟨rfl, fun _ _ => rfl⟩
  · have hheard : (sys.parentMessage e).map (·.2) = port.parentMessage sys.state data := by
      simp only [parentMessage, hdata, hport, Option.bind_eq_bind, Option.bind_some]
      cases port.parentMessage sys.state data <;> rfl
    rw [hheard]
    exact hupdates.writesPath

/-! ### The slaves -/

/-- The masters that the ports with this identity follow. -/
def followedBy (sys : System A R C F) (identity : PortIdentity) : List PortIdentity :=
  sys.ports.filterMap fun slot =>
    match slot.core.portState with
    | .slave state => if slot.core.portIdentity = identity then some state.remoteMaster else none
    | _ => none

omit [Clock C] [Rng R] [ForwardedTLVProvider T] in
theorem mem_followedBy {identity master : PortIdentity} : master ∈ sys.followedBy identity ↔
    ∃ slot ∈ sys.ports, slot.core.portIdentity = identity ∧ slot.core.Follows master := by
  unfold followedBy
  rw [List.mem_filterMap]
  constructor
  · rintro ⟨slot, hslot, h⟩
    split at h
    · rename_i state hstate
      split at h
      · rename_i hidentity
        exact ⟨slot, hslot, hidentity, state, hstate, Option.some.inj h⟩
      · cases h
    · cases h
  · rintro ⟨slot, hslot, hidentity, state, hstate, hmaster⟩
    refine ⟨slot, hslot, ?_⟩
    rw [hstate]
    dsimp only
    rw [if_pos hidentity, hmaster]

/-- The port with this identity gets a parent that it did not follow before. -/
def selects (before after : System A R C F) (identity : PortIdentity) : Bool :=
  (after.followedBy identity).any fun master => !(before.followedBy identity).contains master

omit [Clock C] [Rng R] [ForwardedTLVProvider T] in
theorem selects_eq_false {identity : PortIdentity} (h : ∀ slot' ∈ sys'.ports, ∀ master,
      slot'.core.portIdentity = identity → slot'.core.Follows master →
        ∃ slot ∈ sys.ports, slot.core.portIdentity = identity ∧ slot.core.Follows master) :
    selects sys sys' identity = false := by
  rw [selects, List.any_eq_false]
  intro master hmaster
  obtain ⟨slot', hslot', hidentity, hfollows⟩ := mem_followedBy.mp hmaster
  have hbefore := mem_followedBy.mpr (h slot' hslot' master hidentity hfollows)
  simp [hbefore]

/-- No step but a round gives a port a new parent. -/
theorem step_follows (he : e ≠ .bmca) (h : sys.step p e = .ok (sys', actions))
    {slot' : Slot A R C F} (hslot' : slot' ∈ sys'.ports) {master : PortIdentity}
    (hmaster : slot'.core.Follows master) : ∃ slot ∈ sys.ports,
      slot.core.portIdentity = slot'.core.portIdentity ∧ slot.core.Follows master := by
  cases hport : e.onPort sys.state with
  | some target =>
    obtain ⟨i, e'⟩ := target
    obtain ⟨old, new, hport'⟩ := step_onPort hport h
    rw [hport'.set] at hslot'
    rcases List.mem_or_eq_of_mem_set hslot' with hold | rfl
    · exact ⟨slot', hold, rfl, hmaster⟩
    · have hstep := Slot.step_core hport'.step
      exact ⟨old, List.mem_of_getElem? hport'.get, hstep.sameOwner.portIdentity.symm,
        hstep.follows (onPort_ne_recommend hport) hmaster⟩
  | none =>
    rcases step_not_onPort hport h with
      ⟨numberPorts, config, filterConfig, clock, rng, port, -, hnew, hports, -⟩ | ⟨hperm, -⟩ |
        ⟨hbmca, -⟩
    · rw [hports] at hslot'
      rcases List.mem_append.mp hslot' with hold | hlast
      · exact ⟨slot', hold, rfl, hmaster⟩
      · obtain rfl := List.mem_singleton.mp hlast
        obtain ⟨state, hslave, -⟩ := hmaster
        cases (Port.new_portIdentity hnew).2.symm.trans hslave
    · exact ⟨slot', hperm.mem_iff.mp hslot', rfl, hmaster⟩
    · exact absurd hbmca he

/-! ### What was learned -/

/-- What the slave with this identity knows about the path after a step. -/
def learn (p : Profile) (identity : PortIdentity) (known : List ClockIdentity)
    (t : Transition (System A R C F) (Event A R C F T)) : List ClockIdentity :=
  if selects t.before t.after identity then []
  else
    match t.before.parentMessage t.event with
    | some (slave, message) =>
      if slave = identity then t.before.state.knownPath p known (some message) else known
    | none => known

/-- **What a slave learned about the path**: the path trace of the latest announce message of its
parent since this parent was selected. -/
def learned (p : Profile) (log : List (Transition (System A R C F) (Event A R C F T)))
    (identity : PortIdentity) : List ClockIdentity :=
  log.foldl (learn p identity) []

/-- The list is empty when a port gets a new parent, and when the parent sends no path trace. -/
structure NothingStale (p : Profile) (t : Transition (System A R C F) (Event A R C F T)) : Prop where
  selected : ∀ identity, selects t.before t.after identity = true →
    t.before.state.pathTraceDs.list.toList = []
  announced : ∀ slave message, t.before.parentMessage t.event = some (slave, message) →
    message.pathTraceRecord p = .ok none → t.before.state.pathTraceDs.list.toList = []

omit [Clock C] [Rng R] [ForwardedTLVProvider T] in
/-- A slave hears its parent. -/
theorem parentMessage_follows {slave : PortIdentity} {message : Message}
    (h : sys.parentMessage e = some (slave, message)) :
    ∃ slot ∈ sys.ports, slot.core.portIdentity = slave ∧ ∃ master, slot.core.Follows master := by
  obtain ⟨⟨i, data⟩, -, h⟩ := Option.bind_eq_some_iff.mp h
  obtain ⟨port, hport, h⟩ := Option.bind_eq_some_iff.mp h
  obtain ⟨message', hmessage, h⟩ := Option.bind_eq_some_iff.mp h
  obtain ⟨rfl, -⟩ := Prod.mk.inj (Option.some.inj h)
  refine ⟨.running port, List.mem_of_getElem? (getRunning_eq_some hport), rfl, ?_⟩
  have hsteering : port.isSteering = true := by
    unfold Port.parentMessage Port.fromParent at hmessage
    split at hmessage
    · split at hmessage
      · split at hmessage
        · rename_i hparent
          rw [Port.isFromParent, Bool.and_eq_true] at hparent
          exact hparent.1
        · cases hmessage
      · cases hmessage
    · cases hmessage
  unfold Port.isSteering at hsteering
  split at hsteering
  · rename_i state hstate
    exact ⟨state.remoteMaster, state, hstate, rfl⟩
  · cases hsteering

/-- **One step.** -/
theorem learn_step {known : PortIdentity → List ClockIdentity} (hreachable : System.Reachable T p sys)
    (henable : sys.state.pathTraceDs.enable = true)
    (hknown : ∀ slot ∈ sys.ports, ∀ master, slot.core.Follows master →
      sys.state.pathTraceDs.list.toList = known slot.core.portIdentity)
    (hstale : NothingStale p ⟨sys, e, sys'⟩) (h : sys.step p e = .ok (sys', actions)) :
    ∀ slot' ∈ sys'.ports, ∀ master, slot'.core.Follows master →
      sys'.state.pathTraceDs.list.toList =
        learn p slot'.core.portIdentity (known slot'.core.portIdentity) ⟨sys, e, sys'⟩ := by
  intro slot' hslot' master hmaster
  by_cases he : e = .bmca
  · subst he
    obtain ⟨ports, interval, ports', hall, hbmca, hports⟩ := step_bmca h
    obtain ⟨ports₁, ports₂, ebest, hround⟩ := PtpInstanceState.bmca_eq_ok hbmca
    have hafter : master ∈ sys'.followedBy slot'.core.portIdentity :=
      mem_followedBy.mpr ⟨slot', hslot', rfl, hmaster⟩
    rw [hports] at hslot'
    obtain ⟨port', hport', rfl⟩ := List.mem_map.mp hslot'
    rw [hround.pathTraceDs hport' hmaster, learn]
    split
    · rename_i hselects
      exact hstale.selected _ hselects
    · -- the parent is the same as before the round
      rename_i hselects
      rw [selects, Bool.not_eq_true, List.any_eq_false] at hselects
      have hbefore := hselects master hafter
      rw [Bool.not_eq_true, Bool.not_eq_false', List.contains_iff_mem] at hbefore
      obtain ⟨slot, hslot, hidentity, hfollows⟩ := mem_followedBy.mp hbefore
      rw [hknown slot hslot master hfollows, hidentity]
      rfl
  · obtain ⟨slot, hslot, hidentity, hfollows⟩ := step_follows he h hslot' hmaster
    have hsame : selects sys sys' slot'.core.portIdentity = false := by
      refine selects_eq_false fun slot₁ hslot₁ master₁ hidentity₁ hmaster₁ => ?_
      rw [← hidentity₁]
      exact step_follows he h hslot₁ hmaster₁
    have hlist := hknown slot hslot master hfollows
    rw [hidentity] at hlist
    have hwrites := (step_writesPath he h).list henable (by
      intro message hheard hnone
      obtain ⟨⟨slave, _⟩, hparent, rfl⟩ := Option.map_eq_some_iff.mp hheard
      exact hstale.announced slave _ hparent hnone)
    rw [hwrites, hlist, learn]
    simp only [hsame, Bool.false_eq_true, if_false]
    cases hparent : sys.parentMessage e with
    | none => rfl
    | some heard =>
      obtain ⟨slave, message⟩ := heard
      -- all slaves of the instance have one identity
      obtain ⟨slot₁, hslot₁, rfl, master₁, hmaster₁⟩ := parentMessage_follows hparent
      obtain ⟨identity, hall⟩ := hreachable.slavesFollow
      have hslave : slot₁.core.portIdentity = slot'.core.portIdentity :=
        (hall slot₁ hslot₁ master₁ hmaster₁).1.trans
          ((hall slot hslot master hfollows).1.symm.trans hidentity)
      dsimp only
      rw [if_pos hslave]
      rfl

/-- The setting does not change. -/
theorem step_enable (h : sys.step p e = .ok (sys', actions)) :
    sys'.state.pathTraceDs.enable = sys.state.pathTraceDs.enable := by
  by_cases he : e = .bmca
  · subst he
    obtain ⟨ports, interval, ports', hall, hbmca, hports⟩ := step_bmca h
    obtain ⟨ports₁, ports₂, ebest, hround⟩ := PtpInstanceState.bmca_eq_ok hbmca
    exact hround.enable
  · exact (step_writesPath he h).enable

/-- **The path trace belongs to the parent**, in every run in which nothing stale is left in the list:
it is what the slave learned from its parent, and the announce messages carry this and the own
identity. -/
theorem path_trace_of_parent {log : List (Transition (System A R C F) (Event A R C F T))}
    (htrace : Trace (System.step p) System.Initial log sys)
    (henable : sys.state.pathTraceDs.enable = true) (hstale : ∀ t ∈ log, NothingStale p t)
    {slot : Slot A R C F} (hslot : slot ∈ sys.ports) (hslave : slot.isSlave = true) :
    sys.state.pathTraceDs.list.toList = learned p log slot.core.portIdentity ∧
      sys.state.pathTraceRecord.value = (learned p log slot.core.portIdentity ++
        [sys.state.defaultDs.clockIdentity]).flatMap (·.toWire) := by
  suffices hlist : ∀ slot ∈ sys.ports, ∀ master, slot.core.Follows master →
      sys.state.pathTraceDs.list.toList = learned p log slot.core.portIdentity by
    obtain ⟨master, hmaster⟩ := Slot.isSlave_iff.mp hslave
    have hlearned := hlist slot hslot master hmaster
    exact ⟨hlearned, by rw [← hlearned]; rfl⟩
  clear hslot hslave slot
  induction htrace with
  | init hinit =>
    obtain ⟨config, timeProperties, rfl⟩ := hinit
    intro slot hslot
    cases hslot
  | @step log sys sys' e actions htrace hstep ih =>
    rw [step_enable hstep] at henable
    have hknown := ih henable fun t ht => hstale t (List.mem_append_left _ ht)
    intro slot' hslot' master hmaster
    rw [learned, List.foldl_append]
    exact learn_step htrace.reachable henable hknown
      (hstale _ (List.mem_append_right _ List.mem_cons_self)) hstep slot' hslot' master hmaster

/-! ### Two runs of a test instance -/

/-- The step passes the check of `NothingStale`. -/
def leavesNothingStale (p : Profile) (t : Transition TestSystem TestEvent) : Bool :=
  decide (t.before.state.pathTraceDs.list.toList = []) ||
    (t.after.ports.all (fun slot => !selects t.before t.after slot.core.portIdentity) &&
      match t.before.parentMessage t.event with
      | some (_, message) =>
        match message.pathTraceRecord p with
        | .ok none => false
        | _ => true
      | none => true)

theorem nothingStale_of_check {t : Transition TestSystem TestEvent}
    (h : leavesNothingStale p t = true) : NothingStale p t := by
  rw [leavesNothingStale, Bool.or_eq_true, decide_eq_true_eq] at h
  rcases h with hempty | h
  · exact ⟨fun _ _ => hempty, fun _ _ _ _ => hempty⟩
  · rw [Bool.and_eq_true, List.all_eq_true] at h
    refine ⟨fun identity hselects => ?_, fun slave message hparent hnone => ?_⟩
    · obtain ⟨master, hmaster, -⟩ := List.any_eq_true.mp hselects
      obtain ⟨slot, hslot, rfl, -⟩ := mem_followedBy.mp hmaster
      have hnot := h.1 slot hslot
      rw [hselects] at hnot
      cases hnot
    · have hrecord := h.2
      rw [hparent] at hrecord
      dsimp only at hrecord
      rw [hnone] at hrecord
      cases hrecord

/-- The steps of a test instance with one port, which takes part in path traces. -/
def traceSteps (es : List TestEvent) : Option (List (Transition TestSystem TestEvent)) :=
  steps (System.step .debug) (testSystem { testInstanceConfig with pathTrace := true })
    (.addPort testPortConfig () ⟨⟩ ⟨⟩ :: (becomeSlave 0 ++ es))

/-- A path trace of two clocks from the parent. -/
def twoClocks : TestEvent :=
  .generalReceive 0 (announceBytes 9 1 84 2 ++ [0, 8, 0, 16] ++ List.replicate 16 7)

/-- Another clock with a higher priority becomes the parent. -/
def otherParent : List TestEvent :=
  [.generalReceive 0 (announceBytes 8 0 64 0), .generalReceive 0 (announceBytes 8 0 64 1),
    .startBmca 0, .bmca]

/-- What the port of the last state learned, and the list. -/
def learnsAndKeeps (check : List ClockIdentity → List ClockIdentity → Bool)
    (log : List (Transition TestSystem TestEvent)) : Bool :=
  log.getLast?.any fun t => t.after.state.pathTraceDs.enable &&
    t.after.ports.any fun slot => slot.isSlave &&
      check (learned .debug log slot.core.portIdentity) t.after.state.pathTraceDs.list.toList

theorem exists_traceSteps {es : List TestEvent}
    {check : List (Transition TestSystem TestEvent) → Bool}
    {known : List ClockIdentity → List ClockIdentity → Bool}
    (h : (traceSteps es).any (fun log => check log && learnsAndKeeps known log) = true) :
    ∃ (log : List (Transition TestSystem TestEvent)) (sys : TestSystem)
      (slot : Slot AcceptAnyMaster TestRng TestClock TestFilter),
      Trace (System.step .debug) System.Initial log sys ∧ check log = true ∧
      sys.state.pathTraceDs.enable = true ∧ slot ∈ sys.ports ∧ slot.isSlave = true ∧
      known (learned .debug log slot.core.portIdentity) sys.state.pathTraceDs.list.toList = true := by
  obtain ⟨log, hlog, h⟩ := (Option.any_eq_true _ _).mp h
  rw [Bool.and_eq_true] at h
  obtain ⟨t, hlast, h'⟩ := (Option.any_eq_true _ _).mp h.2
  rw [Bool.and_eq_true, List.any_eq_true] at h'
  obtain ⟨henable, slot, hslot, hslave⟩ := h'
  rw [Bool.and_eq_true] at hslave
  have hinit : System.Initial (testSystem { testInstanceConfig with pathTrace := true }) :=
    ⟨_, _, rfl⟩
  obtain ⟨sys, htrace⟩ := Trace.of_steps _ (.init hinit) hlog
  rw [List.nil_append] at htrace
  obtain rfl := htrace.after_getLast? hlast
  exact ⟨log, t.after, slot, htrace, h.1, henable, hslot, hslave.1, hslave.2⟩

/-- A slave with the path trace of its first parent. -/
theorem path_trace_of_parent_two_clocks :
    ∃ (log : List (Transition TestSystem TestEvent)) (sys : TestSystem)
      (slot : Slot AcceptAnyMaster TestRng TestClock TestFilter),
      Trace (System.step .debug) System.Initial log sys ∧ sys.state.pathTraceDs.enable = true ∧
      (∀ t ∈ log, NothingStale .debug t) ∧ slot ∈ sys.ports ∧ slot.isSlave = true ∧
      sys.state.pathTraceDs.list.toList = learned .debug log slot.core.portIdentity ∧
      (learned .debug log slot.core.portIdentity).length = 2 := by
  have hrun : (traceSteps [twoClocks]).any (fun log => log.all (leavesNothingStale .debug) &&
      learnsAndKeeps (fun known _ => decide (known.length = 2)) log) = true := by
    decide +kernel
  obtain ⟨log, sys, slot, htrace, hcheck, henable, hslot, hslave, hknown⟩ := exists_traceSteps hrun
  have hstale : ∀ t ∈ log, NothingStale .debug t := fun t ht =>
    nothingStale_of_check (List.all_eq_true.mp hcheck t ht)
  exact ⟨log, sys, slot, htrace, henable, hstale, hslot, hslave,
    (path_trace_of_parent htrace henable hstale hslot hslave).1, of_decide_eq_true hknown⟩

/-- **The path trace of the old parent stays**: the new parent was not heard since it was selected, and
the list is the one of the old parent. -/
theorem path_trace_of_old_parent :
    ∃ (log : List (Transition TestSystem TestEvent)) (sys : TestSystem)
      (slot : Slot AcceptAnyMaster TestRng TestClock TestFilter),
      Trace (System.step .debug) System.Initial log sys ∧ sys.state.pathTraceDs.enable = true ∧
      slot ∈ sys.ports ∧ slot.isSlave = true ∧ learned .debug log slot.core.portIdentity = [] ∧
      sys.state.pathTraceDs.list.toList = pathTraceEntries (List.replicate 16 7) := by
  have hrun : (traceSteps (twoClocks :: otherParent)).any (fun log => true &&
      learnsAndKeeps (fun known list =>
        decide (known = [] ∧ list = pathTraceEntries (List.replicate 16 7))) log) = true := by
    decide +kernel
  obtain ⟨log, sys, slot, htrace, -, henable, hslot, hslave, hknown⟩ := exists_traceSteps hrun
  rw [decide_eq_true_eq] at hknown
  exact ⟨log, sys, slot, htrace, henable, hslot, hslave, hknown.1, hknown.2⟩

end System

end Statime
