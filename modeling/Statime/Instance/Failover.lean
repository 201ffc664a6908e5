import Statime.Instance.Heard
import Statime.Port.BmcaCalls

/-!
# How long a master may be silent

Only the rounds of the best master clock algorithm let time pass for the announce messages.  A port
follows a master that it has heard twice within the last four announce intervals, and when nothing is
heard for so long, the next round makes the instance its own grandmaster.

* `System.Came`: some of the announce messages that a port was given in a run, and the time since.
* `System.trace_calls`: in a whole run, the calls of the foreign masters of every port.
* `PtpInstanceState.decideStates_unheard`: the decisions when no port has a message to compare.
-/

namespace Statime

open Rust

variable {A R C F T : Type} [AcceptableMasterList A] [Clock C] [Filter F] [Rng R]
  [ForwardedTLVProvider T]

/-! ### The time that a round lets pass -/

/-- An interval of at most `2 ^ 60` seconds is stored without overflow. -/
theorem Duration.fromSecondsLog_range {p : Profile} {log : Int8} {d : Duration}
    (h : Duration.fromSecondsLog p log = .ok d) (hlog : log.toInt ≤ 60) :
    0 ≤ d.toInt ∧ d.toInt < 2 ^ 126 := by
  have hround : 0 ≤ roundEven 1 (log.toInt + 32) ∧ roundEven 1 (log.toInt + 32) ≤ 2 ^ 92 := by
    unfold roundEven
    split
    · rename_i hk
      have hle : (2 : Int) ^ (log.toInt + 32).toNat ≤ 2 ^ 92 :=
        pow_le_pow_right₀ (by norm_num) (by omega)
      exact ⟨by positivity, by simpa using hle⟩
    · rename_i hk
      have hdiv : 1 / 2 ^ (-(log.toInt + 32)).toNat = 0 :=
        Nat.div_eq_of_lt (Nat.one_lt_two_pow (by omega))
      dsimp only
      rw [hdiv]
      split <;> norm_num
  obtain ⟨secs, hsecs, h⟩ := bind_eq_ok.mp h
  obtain ⟨giga, hgiga, h⟩ := bind_eq_ok.mp h
  obtain ⟨r, hr, h⟩ := bind_eq_ok.mp h
  obtain rfl := Except.ok.inj h
  have hsecs : secs.toInt = roundEven 1 (log.toInt + 32) :=
    IFixed.toInt_wrap (by decide) hsecs (decide_eq_true ⟨by omega, by omega⟩)
  have hgiga : giga.toInt = 1000000000 * 2 ^ 32 := IFixed.toInt_wrap (by decide) hgiga (by decide)
  have hproduct : secs.toInt * giga.toInt / 2 ^ 32 = roundEven 1 (log.toInt + 32) * 1000000000 := by
    rw [hsecs, hgiga, ← mul_assoc, Int.mul_ediv_cancel _ (by norm_num)]
  have hfits : IFixed.fits 128 (secs.toInt * giga.toInt / 2 ^ 32) = true := by
    rw [hproduct]
    exact decide_eq_true ⟨by omega, by omega⟩
  have hr : r.toInt = secs.toInt * giga.toInt / 2 ^ 32 := IFixed.toInt_wrap (by decide) hr hfits
  rw [Duration.toInt, hr, hproduct]
  omega

namespace System

variable {p : Profile} {sys sys' : System A R C F} {e : Event A R C F T}
  {actions : PortActionIterator} {identity : PortIdentity}
  {log earlier later : List (Machine.Transition (System A R C F) (Event A R C F T))}
  {t : Machine.Transition (System A R C F) (Event A R C F T)}

/-- The time that a step lets pass for the announce messages of all ports. -/
def passes (p : Profile) (t : Machine.Transition (System A R C F) (Event A R C F T)) : Int :=
  match t.event with
  | .bmca => (((Duration.fromSecondsLog p t.before.logBmcaInterval).toOption).map Duration.toInt).getD 0
  | _ => 0

/-- The time that passes during some steps. -/
def elapsed (p : Profile)
    (log : List (Machine.Transition (System A R C F) (Event A R C F T))) : Int :=
  (log.map (passes p)).sum

/-- The rounds are at most `2 ^ 60` seconds apart. -/
def ShortRounds (log : List (Machine.Transition (System A R C F) (Event A R C F T))) : Prop :=
  ∀ t ∈ log, t.event = .bmca → t.before.logBmcaInterval.toInt ≤ 60

/-- An announce message comes to a port with this identity. -/
def GivesTo (t : Machine.Transition (System A R C F) (Event A R C F T)) (identity : PortIdentity)
    (header : Header) (a : AnnounceMessage) : Prop :=
  ∃ i port message, t.before.Hears t.event i port message a ∧ message.header = header ∧
    port.portIdentity = identity

omit [AcceptableMasterList A] [Clock C] [Rng R] [ForwardedTLVProvider T] in
theorem elapsed_append : elapsed p (earlier ++ later) = elapsed p earlier + elapsed p later := by
  rw [elapsed, List.map_append, List.sum_append]
  rfl

omit [AcceptableMasterList A] [Clock C] [Rng R] [ForwardedTLVProvider T] in
theorem elapsed_concat : elapsed p (log ++ [t]) = elapsed p log + passes p t := by
  rw [elapsed_append, elapsed, elapsed, List.map_singleton, List.sum_singleton]

omit [AcceptableMasterList A] [Clock C] [Rng R] [ForwardedTLVProvider T] in
theorem passes_of_ne (h : t.event ≠ .bmca) : passes p t = 0 := by
  unfold passes
  split
  · rename_i he
    exact absurd he h
  · rfl

omit [AcceptableMasterList A] [Clock C] [Rng R] [ForwardedTLVProvider T] in
theorem passes_round {d : Duration} (h : t.event = .bmca)
    (hd : Duration.fromSecondsLog p t.before.logBmcaInterval = .ok d) : passes p t = d.toInt := by
  rw [passes, h, hd]
  rfl

omit [AcceptableMasterList A] [Clock C] [Rng R] [ForwardedTLVProvider T] in
theorem GivesTo.ne_bmca {header : Header} {a : AnnounceMessage} (h : GivesTo t identity header a) :
    t.event ≠ .bmca := by
  obtain ⟨i, port, message, ⟨data, hreceived, -⟩, -⟩ := h
  intro he
  rw [he] at hreceived
  cases hreceived

/-! ### What came to a port -/

/-- Some of the announce messages that came to a port in a run, in their order and each with the time
since. -/
inductive Came (p : Profile) (identity : PortIdentity) :
    List (Machine.Transition (System A R C F) (Event A R C F T)) → List Registration → Prop
  | nothing : Came p identity [] []
  | later {log : List (Machine.Transition (System A R C F) (Event A R C F T))}
      {t : Machine.Transition (System A R C F) (Event A R C F T)} {rs : List Registration} :
      Came p identity log rs → Came p identity (log ++ [t]) (rs.map (·.later (passes p t)))
  | now {log : List (Machine.Transition (System A R C F) (Event A R C F T))}
      {t : Machine.Transition (System A R C F) (Event A R C F T)} {rs : List Registration}
      {header : Header} {a : AnnounceMessage} :
      Came p identity log rs → GivesTo t identity header a →
      Came p identity (log ++ [t]) (rs ++ [⟨header, a, 0⟩])

namespace Came

variable {rs : List Registration}

omit [AcceptableMasterList A] [Clock C] [Rng R] [ForwardedTLVProvider T] in
theorem map_later_zero (rs : List Registration) : rs.map (·.later 0) = rs :=
  (List.map_congr_left fun r _ => r.later_zero).trans (List.map_id rs)

omit [AcceptableMasterList A] [Clock C] [Rng R] [ForwardedTLVProvider T] in
/-- A step without time. -/
theorem quiet (h : Came p identity log rs) (ht : t.event ≠ .bmca) :
    Came p identity (log ++ [t]) rs := by
  have hlater := h.later (t := t)
  rwa [passes_of_ne ht, map_later_zero] at hlater

omit [AcceptableMasterList A] [Clock C] [Rng R] [ForwardedTLVProvider T] in
theorem nil : ∀ log : List (Machine.Transition (System A R C F) (Event A R C F T)),
    Came p identity log [] := by
  intro log
  induction log using List.reverseRecOn with
  | nil => exact .nothing
  | append_singleton log t ih => exact ih.later

omit [AcceptableMasterList A] [Clock C] [Rng R] [ForwardedTLVProvider T] in
/-- Fewer messages came, too. -/
theorem sublist (h : Came p identity log rs) : ∀ {rs' : List Registration}, rs'.Sublist rs →
    Came p identity log rs' := by
  induction h with
  | nothing =>
    intro rs' hsub
    rw [List.eq_nil_of_sublist_nil hsub]
    exact .nothing
  | later _ ih =>
    intro rs' hsub
    obtain ⟨front, hfront, rfl⟩ := List.sublist_map_iff.mp hsub
    exact (ih hfront).later
  | now hcame hgives ih =>
    intro rs' hsub
    obtain ⟨front, last, rfl, hfront, hlast⟩ := List.sublist_append_iff.mp hsub
    rcases List.sublist_singleton.mp hlast with rfl | rfl
    · rw [List.append_nil]
      exact (ih hfront).quiet hgives.ne_bmca
    · exact (ih hfront).now hgives

omit [AcceptableMasterList A] [Clock C] [Rng R] [ForwardedTLVProvider T] in
/-- **The last of them** came in some step, and the others before. -/
theorem concat {r : Registration} (h : Came p identity log rs) :
    ∀ {front : List Registration}, rs = front ++ [r] → ∃ earlier t later older,
      log = earlier ++ t :: later ∧ GivesTo t identity r.header r.message ∧
        r.elapsed = elapsed p later ∧ Came p identity earlier older ∧
        front = older.map (·.later (elapsed p (t :: later))) := by
  induction h generalizing r with
  | nothing =>
    intro front heq
    exact absurd heq.symm (List.append_ne_nil_of_right_ne_nil _ (List.cons_ne_nil _ _))
  | @later log u rs hcame ih =>
    intro front heq
    obtain ⟨before, last, rfl, hfront, hlast⟩ := List.map_eq_append_iff.mp heq
    obtain ⟨r₀, rfl, rfl⟩ := List.map_eq_singleton_iff.mp hlast
    obtain ⟨earlier, t, later, older, rfl, hgives, helapsed, holder, rfl⟩ := ih rfl
    refine ⟨earlier, t, later ++ [u], older, by rw [List.append_assoc, List.cons_append], hgives, ?_,
      holder, ?_⟩
    · rw [elapsed_concat, ← helapsed]
      rfl
    · rw [← hfront, ← List.cons_append, elapsed_concat, List.map_map]
      exact List.map_congr_left fun r _ => r.later_later _ _
  | @now log u rs header a hcame hgives ih =>
    intro front heq
    obtain ⟨rfl, hlast⟩ := List.append_inj' heq rfl
    obtain rfl := (List.cons.inj hlast).1
    refine ⟨log, u, [], rs, rfl, hgives, rfl, hcame, ?_⟩
    have hzero : elapsed p [u] = 0 := by
      rw [elapsed, List.map_singleton, List.sum_singleton, passes_of_ne hgives.ne_bmca]
    rw [hzero, map_later_zero]

omit [AcceptableMasterList A] [Clock C] [Rng R] [ForwardedTLVProvider T] in
/-- **Two of them** came in two steps. -/
theorem pair {r r' : Registration} (h : Came p identity log [r, r']) :
    ∃ l₀ t l₁ t' l₂, log = l₀ ++ t :: l₁ ++ t' :: l₂ ∧ GivesTo t identity r.header r.message ∧
      GivesTo t' identity r'.header r'.message ∧ r.elapsed = elapsed p (l₁ ++ t' :: l₂) ∧
      r'.elapsed = elapsed p l₂ := by
  obtain ⟨earlier, t', l₂, older, rfl, hgives', helapsed', holder, hfront⟩ :=
    h.concat (show [r, r'] = [r] ++ [r'] from rfl)
  obtain ⟨r₀, rfl, rfl⟩ := List.map_eq_singleton_iff.mp hfront.symm
  obtain ⟨l₀, t, l₁, -, rfl, hgives, helapsed, -, -⟩ := holder.concat (List.nil_append _).symm
  refine ⟨l₀, t, l₁, t', l₂, rfl, hgives, hgives', ?_, helapsed'⟩
  rw [elapsed_append, ← helapsed]
  rfl

end Came

/-! ### The calls in a run -/

/-- The foreign masters of a port after some calls, each registration being a message that came. -/
def CalledIn (p : Profile) (log : List (Machine.Transition (System A R C F) (Event A R C F T)))
    (identity : PortIdentity) (b : Bmca A) : Prop :=
  ∃ interval calls, Machine.Trace (Bmca.call p) (Bmca.IsNew interval) calls b ∧ Bmca.Timely calls ∧
    Came p identity log (Bmca.registrations calls)

namespace CalledIn

variable {b b' : Bmca A}

omit [Clock C] [Rng R] [ForwardedTLVProvider T] in
theorem of_new (acceptable : A) (interval : TimeInterval) (own : PortIdentity) :
    CalledIn p log identity (Bmca.new acceptable interval own) :=
  ⟨interval, [], .init ⟨acceptable, own, rfl⟩, (fun _ ht => absurd ht List.not_mem_nil), .nil log⟩

omit [Clock C] [Rng R] [ForwardedTLVProvider T] in
theorem quiet (h : CalledIn p log identity b) (ht : t.event ≠ .bmca) :
    CalledIn p (log ++ [t]) identity b := by
  obtain ⟨interval, calls, htrace, htimely, hcame⟩ := h
  exact ⟨interval, calls, htrace, htimely, hcame.quiet ht⟩

omit [Clock C] [Rng R] [ForwardedTLVProvider T] in
theorem wellFormed (h : CalledIn p log identity b) : b.WellFormed := by
  obtain ⟨interval, calls, htrace, htimely, -⟩ := h
  exact (Bmca.wellFormed_of_trace htrace htimely).1

omit [AcceptableMasterList A] [Clock C] [Rng R] [ForwardedTLVProvider T] in
theorem timely_concat {calls : List (Machine.Transition (Bmca A) Bmca.Call)} {c : Bmca.Call}
    (h : Bmca.Timely calls) (hc : c.Timely b) : Bmca.Timely (calls ++ [⟨b, c, b'⟩]) := by
  intro u hu
  rcases List.mem_append.mp hu with hold | hnew
  · exact h u hold
  · rw [List.mem_singleton.mp hnew]
    exact hc

omit [Clock C] [Rng R] [ForwardedTLVProvider T] in
/-- A message that comes is registered. -/
theorem register {header : Header} {a : AnnounceMessage} (h : CalledIn p log identity b)
    (hgives : GivesTo t identity header a) (hcall : b.call p (.register header a) = .ok (b', none)) :
    CalledIn p (log ++ [t]) identity b' := by
  obtain ⟨interval, calls, htrace, htimely, hcame⟩ := h
  refine ⟨interval, _, htrace.step hcall, timely_concat htimely trivial, ?_⟩
  rw [Bmca.registrations_concat_of_no_step rfl]
  exact hcame.now hgives

omit [Clock C] [Rng R] [ForwardedTLVProvider T] in
/-- In a round the best message is taken, and time passes. -/
theorem round {d : Duration} {b₁ : Bmca A} {best : Option BestAnnounceMessage}
    (h : CalledIn p log identity b) (ht : t.event = .bmca)
    (hd : Duration.fromSecondsLog p t.before.logBmcaInterval = .ok d)
    (hshort : t.before.logBmcaInterval.toInt ≤ 60) (htake : b.call p .takeBest = .ok (b₁, best))
    (hage : b₁.call p (.stepAge d) = .ok (b', none)) : CalledIn p (log ++ [t]) identity b' := by
  obtain ⟨interval, calls, htrace, htimely, hcame⟩ := h
  have htrace₁ := htrace.step htake
  have htimely₁ : Bmca.Timely (calls ++ [⟨b, .takeBest, b₁⟩]) := timely_concat htimely trivial
  obtain ⟨hlo, hhi⟩ := Duration.fromSecondsLog_range hd hshort
  have hstep := Bmca.timely_stepAge (Bmca.wellFormed_of_trace htrace₁ htimely₁).1 hlo hhi
  refine ⟨interval, _, htrace₁.step hage, timely_concat htimely₁ hstep, ?_⟩
  have hnothing : Bmca.registrations (calls ++ [⟨b, .takeBest, b₁⟩]) = Bmca.registrations calls :=
    (Bmca.registrations_concat_of_no_step rfl).trans (List.append_nil _)
  rw [Bmca.registrations_concat_step rfl, hnothing, ← passes_round ht hd]
  exact hcame.later

end CalledIn

/-- **A round**, with the time that it lets pass. -/
theorem step_round (h : sys.step p (.bmca : Event A R C F T) = .ok (sys', actions)) :
    ∃ d ports ports' ports₁ ports₂ ebest,
      Duration.fromSecondsLog p sys.logBmcaInterval = .ok d ∧ sys.ports = ports.map .inBmca ∧
        sys'.ports = ports'.map .inBmca ∧
        PtpInstanceState.Round p sys.state sys'.state d ports ports' ports₁ ports₂ ebest := by
  obtain ⟨ports, hports, h⟩ := bind_eq_ok.mp h
  obtain ⟨sys₁, hsys₁, h⟩ := bind_eq_ok.mp h
  obtain ⟨rfl, -⟩ := Prod.mk.inj (Except.ok.inj h)
  obtain ⟨d, hd, hsys₁⟩ := bind_eq_ok.mp (orPanic_eq_ok.mp hsys₁)
  obtain ⟨⟨ports', state⟩, hbmca, hsys₁⟩ := bind_eq_ok.mp hsys₁
  obtain rfl := Except.ok.inj hsys₁
  obtain ⟨ports₁, ports₂, ebest, hround⟩ := PtpInstanceState.bmca_eq_ok hbmca
  exact ⟨d, ports, ports', ports₁, ports₂, ebest, hd,
    allInBmca_eq_some (orIllTyped_eq_ok.mp hports), rfl, hround⟩

end System

omit [AcceptableMasterList A] in
/-- A decision leaves the foreign masters alone. -/
theorem Port.decided_bmca {p : Profile} {s : PtpInstanceState} {ebest : Option BestAnnounceMessage}
    {port port' : Port InBmca A R C F} (h : s.Decided p ebest port port') : port'.bmca = port.bmca := by
  obtain ⟨s₁, s₂, -, hdecide⟩ := h
  rcases PtpInstanceState.decideState_cases hdecide with ⟨-, rfl, -⟩ | ⟨state, -, hset⟩
  · rfl
  · exact (setRecommendedState_decides hset).bmca

namespace PtpInstanceState.Round

variable {p : Profile} {s s' : PtpInstanceState} {d : Duration}
  {ports ports' ports₁ ports₂ : List (Port InBmca A R C F)} {ebest : Option BestAnnounceMessage}

/-- **What a round does to a port**: the best message is taken, the port may follow its sender, and the
others grow older. -/
theorem calls (h : Round p s s' d ports ports' ports₁ ports₂ ebest) :
    ∀ port' ∈ ports', ∃ port ∈ ports, port.core.SameOwner port'.core ∧
      ∃ b best, port.bmca.call p .takeBest = .ok (b, best) ∧
        b.call p (.stepAge d) = .ok (port'.bmca, none) ∧
        ∀ master, port'.core.Follows master →
          ∃ m, best = some m ∧ m.message.header.sourcePortIdentity = master := by
  have hstart : ∀ port ∈ ports, port ∈ ports := fun _ hport => hport
  have h₁ : ∀ port₁ ∈ ports₁, ∃ port ∈ ports, port.core.SameOwner port₁.core ∧
      port.bmca.call p .takeBest = .ok (port₁.bmca, port₁.lifecycle.localBest) :=
    forall_mem_of_forall₂ h.best (fun port port₁ hport hbest =>
      ⟨port, hport, (Port.calculateBest_keeps hbest).1.sameOwner, Port.calculateBest_call hbest⟩) hstart
  have h₂ : ∀ port₂ ∈ ports₂, ∃ port ∈ ports, port.core.SameOwner port₂.core ∧
      ∃ best, port.bmca.call p .takeBest = .ok (port₂.bmca, best) ∧
        ∀ master, port₂.core.Follows master →
          ∃ m, best = some m ∧ m.message.header.sourcePortIdentity = master := by
    refine forall_mem_of_forall₂ (decideStates_decided h.decide).1 ?_ h₁
    rintro port₁ port₂ ⟨port, hport, hsame, hcall⟩ hdecided
    refine ⟨port, hport, hsame.trans hdecided.sameOwner, port₁.lifecycle.localBest, ?_, ?_⟩
    · rw [hcall, Port.decided_bmca hdecided]
    · intro master hmaster
      obtain ⟨s₁, s₂, -, hdecide⟩ := hdecided
      obtain ⟨m, -, -, hlocal, rfl, -⟩ := decideState_follows hdecide hmaster
      exact ⟨m, hlocal, rfl⟩
  refine forall_mem_of_forall₂ h.age ?_ h₂
  rintro port₂ port' ⟨port, hport, hsame, best, hcall, hfollows⟩ hage
  refine ⟨port, hport, hsame.trans (Port.stepAnnounceAge_keeps hage).sameOwner, _, best, hcall,
    Port.stepAnnounceAge_call hage, fun master hmaster => hfollows master ?_⟩
  obtain ⟨multiportDisable, hcore⟩ := Port.stepAnnounceAge_core hage
  rw [hcore] at hmaster
  exact hmaster

end PtpInstanceState.Round

namespace System

variable {p : Profile} {sys sys' : System A R C F} {e : Event A R C F T} {actions : PortActionIterator}
  {log earlier later : List (Machine.Transition (System A R C F) (Event A R C F T))}
  {t : Machine.Transition (System A R C F) (Event A R C F T)}

/-- The other steps let no time pass. -/
theorem calledIn_step (hbefore : ∀ slot ∈ sys.ports, CalledIn p log slot.core.portIdentity slot.bmca)
    (h : sys.step p e = .ok (sys', actions)) (hne : e ≠ .bmca) :
    ∀ slot' ∈ sys'.ports, CalledIn p (log ++ [⟨sys, e, sys'⟩]) slot'.core.portIdentity slot'.bmca := by
  intro slot' hslot'
  cases he : e.onPort sys.state with
  | some target =>
    obtain ⟨i, e'⟩ := target
    obtain ⟨slot, new, hport⟩ := step_onPort he h
    rw [hport.set] at hslot'
    rcases List.mem_or_eq_of_mem_set hslot' with hold | rfl
    · exact (hbefore slot' hold).quiet hne
    · have hslot := hbefore slot (List.mem_of_getElem? hport.get)
      rw [(Slot.step_core hport.step).sameOwner.portIdentity]
      cases Slot.step_bmca hport.step with
      | same hsame =>
        rw [hsame]
        exact hslot.quiet hne
      | registered hreceives hbody hcall =>
        obtain ⟨port, rfl, hhears⟩ := hears_of_receives he hport hreceives hbody
        exact hslot.register ⟨i, port, _, hhears, rfl, rfl⟩ hcall
      | chosen heq | aged heq =>
        subst heq
        cases e <;> cases he
  | none =>
    rcases step_not_onPort he h with
      ⟨numberPorts, config, filterConfig, clock, rng, port, -, hnew, hports, -⟩ | ⟨hperm, -⟩ |
        ⟨heq, -⟩
    · rw [hports] at hslot'
      rcases List.mem_append.mp hslot' with hold | hlast
      · exact (hbefore slot' hold).quiet hne
      · rw [List.mem_singleton.mp hlast]
        obtain ⟨⟨duration, rng'⟩, -, hnew⟩ := bind_eq_ok.mp hnew
        obtain ⟨interval, -, hnew⟩ := bind_eq_ok.mp hnew
        obtain rfl := Except.ok.inj hnew
        exact .of_new _ _ _
    · exact (hbefore slot' (hperm.mem_iff.mp hslot')).quiet hne
    · exact absurd heq hne

theorem calledIn_round (hbefore : ∀ slot ∈ sys.ports, CalledIn p log slot.core.portIdentity slot.bmca)
    (h : sys.step p (.bmca : Event A R C F T) = .ok (sys', actions))
    (hshort : sys.logBmcaInterval.toInt ≤ 60) :
    ∀ slot' ∈ sys'.ports, CalledIn p (log ++ [⟨sys, .bmca, sys'⟩]) slot'.core.portIdentity slot'.bmca := by
  obtain ⟨d, ports, ports', ports₁, ports₂, ebest, hd, hall, hall', hround⟩ := step_round h
  intro slot' hslot'
  rw [hall'] at hslot'
  obtain ⟨port', hport', rfl⟩ := List.mem_map.mp hslot'
  obtain ⟨port, hport, hsame, b, best, htake, hage, -⟩ := hround.calls port' hport'
  have hslot := hbefore (.inBmca port) (by rw [hall]; exact List.mem_map_of_mem hport)
  have hidentity : (Slot.inBmca port').core.portIdentity = (Slot.inBmca port).core.portIdentity :=
    hsame.portIdentity
  rw [hidentity]
  exact hslot.round rfl hd hshort htake hage

/-- **In a whole run**, the foreign masters of a port are what the messages that came to it made
them. -/
theorem trace_calls (h : Machine.Trace (System.step p) System.Initial log sys)
    (hshort : ShortRounds log) :
    ∀ slot ∈ sys.ports, CalledIn p log slot.core.portIdentity slot.bmca := by
  induction h with
  | init hs =>
    obtain ⟨config, timeProperties, rfl⟩ := hs
    intro slot hslot
    cases hslot
  | @step log sys sys' e actions _ hstep ih =>
    have hbefore := ih fun t ht => hshort t (List.mem_append_left _ ht)
    by_cases he : e = .bmca
    · subst he
      exact calledIn_round hbefore hstep (hshort _ (List.mem_append_right _ List.mem_cons_self) rfl)
    · exact calledIn_step hbefore hstep he

/-! ### A port that follows a master -/

/-- Four announce intervals of a port. -/
def window (b : Bmca A) : Int :=
  foreignMasterTimeWindow * (Duration.ofTimeInterval b.foreignMasterList.ownPortAnnounceInterval).toInt

/-- Two announce messages of the master came to the port, both less than this time ago. -/
def HeardTwice (p : Profile) (log : List (Machine.Transition (System A R C F) (Event A R C F T)))
    (identity master : PortIdentity) (time : Int) : Prop :=
  ∃ l₀ t l₁ t' l₂ header a header' a', log = l₀ ++ t :: l₁ ++ t' :: l₂ ∧
    GivesTo t identity header a ∧ a.header.sourcePortIdentity = master ∧
    GivesTo t' identity header' a' ∧ a'.header.sourcePortIdentity = master ∧
    elapsed p (l₁ ++ t' :: l₂) < time ∧ elapsed p l₂ < time

omit [Clock C] [Rng R] [ForwardedTLVProvider T] in
/-- **The best message of a port** comes from a master that it heard twice. -/
theorem CalledIn.heardTwice {identity : PortIdentity} {b b' : Bmca A} {best : BestAnnounceMessage}
    (h : CalledIn p log identity b) (htake : b.takeBestPortAnnounceMessage p = .ok (some best, b')) :
    HeardTwice p log identity best.message.header.sourcePortIdentity (window b) := by
  have hb := h.wellFormed
  obtain ⟨interval, calls, htrace, htimely, hcame⟩ := h
  rcases hb.takeBest_eq htake with ⟨heq, -⟩ | ⟨winner, m, hwinner, hq, hlast, heq, -⟩
  · cases heq
  · have hrecord := hb.list.records winner hwinner
    obtain rfl := Option.some.inj heq
    obtain ⟨init, first, second, hlist⟩ := hrecord.split_of_qualified hq
    have hpair : [first, second].Sublist winner.announceMessages.toList := by
      rw [hlist, List.append_assoc]
      exact List.sublist_append_right _ _
    have hstored := Bmca.stored_registrations htrace htimely winner hwinner
    have hboth := hcame.sublist ((hpair.map (·.registration)).trans hstored)
    obtain ⟨l₀, t, l₁, t', l₂, hlog, hgives, hgives', helapsed, helapsed'⟩ := hboth.pair
    have hfirst := hpair.subset (List.mem_cons_self (a := first))
    have hsecond := hpair.subset (List.mem_cons_of_mem first (List.mem_cons_self (a := second)))
    have hmaster : m.message.header.sourcePortIdentity = winner.foreignMasterPortIdentity :=
      hrecord.source m (List.mem_of_getLast? hlast)
    have hyoung := hrecord.young_of_qualified hq
    refine ⟨l₀, t, l₁, t', l₂, _, _, _, _, hlog, hgives, (hrecord.source _ hfirst).trans hmaster.symm,
      hgives', (hrecord.source _ hsecond).trans hmaster.symm, ?_, ?_⟩
    · rw [← helapsed, window, mul_comm]
      exact of_decide_eq_true (hyoung first hfirst)
    · rw [← helapsed', window, mul_comm]
      exact of_decide_eq_true (hyoung second hsecond)

omit [Clock C] [Rng R] [ForwardedTLVProvider T] [Filter F] in
/-- The calls leave the announce interval alone. -/
theorem window_call {b b' : Bmca A} {c : Bmca.Call} {best : Option BestAnnounceMessage}
    (hb : b.WellFormed) (hc : c.Timely b) (h : b.call p c = .ok (b', best)) : window b' = window b := by
  rw [window, window, (hb.owned_call hc h).interval]

/-- A port that follows a master after another step than a round did so before. -/
theorem follows_before (hbefore : ∀ slot ∈ sys.ports, slot.bmca.WellFormed)
    (h : sys.step p e = .ok (sys', actions)) (hne : e ≠ .bmca) {slot' : Slot A R C F}
    (hslot' : slot' ∈ sys'.ports) {master : PortIdentity} (hmaster : slot'.core.Follows master) :
    ∃ slot ∈ sys.ports, slot.core.Follows master ∧ slot.core.portIdentity = slot'.core.portIdentity ∧
      window slot'.bmca = window slot.bmca := by
  cases he : e.onPort sys.state with
  | some target =>
    obtain ⟨i, e'⟩ := target
    obtain ⟨slot, new, hport⟩ := step_onPort he h
    rw [hport.set] at hslot'
    rcases List.mem_or_eq_of_mem_set hslot' with hold | rfl
    · exact ⟨slot', hold, hmaster, rfl, rfl⟩
    · have hslot := List.mem_of_getElem? hport.get
      have hcore := Slot.step_core hport.step
      have hrecommend : ∀ s state, e' ≠ .recommend s state := by
        rintro s state rfl
        cases e <;> cases he
      refine ⟨slot, hslot, hcore.follows hrecommend hmaster, hcore.sameOwner.portIdentity.symm, ?_⟩
      cases Slot.step_bmca hport.step with
      | same hsame => rw [hsame]
      | registered _ _ hcall => exact window_call (c := .register _ _) (hbefore slot hslot) trivial hcall
      | chosen heq | aged heq =>
        subst heq
        cases e <;> cases he
  | none =>
    rcases step_not_onPort he h with
      ⟨numberPorts, config, filterConfig, clock, rng, port, -, hnew, hports, -⟩ | ⟨hperm, -⟩ |
        ⟨heq, -⟩
    · rw [hports] at hslot'
      rcases List.mem_append.mp hslot' with hold | hlast
      · exact ⟨slot', hold, hmaster, rfl, rfl⟩
      · -- a new port listens
        rw [List.mem_singleton.mp hlast] at hmaster
        obtain ⟨state, hstate, -⟩ := hmaster
        rw [Slot.core, (Port.new_portIdentity hnew).2] at hstate
        cases hstate
    · exact ⟨slot', hperm.mem_iff.mp hslot', hmaster, rfl, rfl⟩
    · exact absurd heq hne

/-- The rounds of a test are two seconds apart, like the announce messages. -/
def everyTwoSeconds (t : Machine.Transition TestSystem TestEvent) : Bool :=
  match t.event with
  | .bmca => decide (t.before.logBmcaInterval = 1 ∧ passes .debug t = 2000000000 * 2 ^ 32) &&
      t.before.ports.all fun slot => decide (window slot.bmca = 4 * (2000000000 * 2 ^ 32))
  | _ => true

theorem everyTwoSeconds_round {t : Machine.Transition TestSystem TestEvent}
    (h : everyTwoSeconds t = true) (ht : t.event = .bmca) :
    t.before.logBmcaInterval = 1 ∧ passes .debug t = 2000000000 * 2 ^ 32 ∧
      ∀ slot ∈ t.before.ports, window slot.bmca = 4 * (2000000000 * 2 ^ 32) := by
  rw [everyTwoSeconds, ht] at h
  obtain ⟨htime, hwindow⟩ := (Bool.and_eq_true _ _).mp h
  obtain ⟨hlog, hpasses⟩ := of_decide_eq_true htime
  exact ⟨hlog, hpasses, fun slot hslot => of_decide_eq_true (List.all_eq_true.mp hwindow slot hslot)⟩

theorem shortRounds_of_everyTwoSeconds {log : List (Machine.Transition TestSystem TestEvent)}
    (h : ∀ t ∈ log, everyTwoSeconds t = true) : ShortRounds log := by
  intro t ht he
  rw [(everyTwoSeconds_round (h t ht) he).1]
  decide

/-- The round after which the port follows the sender of the messages. -/
def makesSlave (t : Machine.Transition TestSystem TestEvent) : Bool :=
  match t.event with
  | .bmca => decide (t.after.ports.map (·.core.portState) = [.slave (SlaveState.new testParent)])
  | _ => true

end System

/-! ### A round without any master -/

/-- The state of a port after a round in which no port had a message to compare. -/
def PortCore.unheard (c : PortCore) (slaveOnly : Bool) : PortState :=
  if c.portState = .listening then .listening
  else if slaveOnly then
    if c.portState = .faulty then .faulty else .listening
  else if c.multiportDisable.isSome then .passive
  else if c.portState = .faulty then .faulty else .master

theorem PortCore.recommendedState_unheard {c : PortCore} {s : PtpInstanceState}
    (h : c.portState ≠ .listening) (d : InternalDefaultDS) :
    c.recommendedState s (.m1 d) = c.unheard s.defaultDs.slaveOnly ∧
      c.recommendedState s (.m2 d) = c.unheard s.defaultDs.slaveOnly := by
  unfold PortCore.recommendedState PortCore.unheard
  rw [if_neg h]
  cases hstate : c.portState <;> simp

namespace PtpInstanceState

variable {p : Profile} {s s' : PtpInstanceState} {port port' : Port InBmca A R C F}

omit [ForwardedTLVProvider T] in
/-- **A decision without any message**: a port that listens goes on, any other makes the instance a
grandmaster. -/
theorem decideState_unheard (hbest : port.lifecycle.localBest = none)
    (h : s.decideState p none port = .ok (port', s')) :
    port'.core.portState = port.core.unheard s.defaultDs.slaveOnly ∧
      (port.portState = .listening → s' = s) ∧
      (port.portState ≠ .listening → s' = s.becomeGrandmaster s.defaultDs) := by
  by_cases hlistening : port.portState = .listening
  · have hstay : Bmca.calculateRecommendedState p s.defaultDs none port.lifecycle.localBest
        port.portState = .ok none := if_pos ⟨hbest, hlistening⟩
    rw [decideState, Port.bestLocalAnnounceMessageForState, hstay] at h
    obtain ⟨rfl, rfl⟩ := Prod.mk.inj (Except.ok.inj h)
    have hcore : port.core.portState = .listening := hlistening
    refine ⟨?_, fun _ => rfl, fun hne => absurd hlistening hne⟩
    rw [PortCore.unheard, if_pos hcore]
    exact hcore
  · obtain ⟨hm1, hm2⟩ := PortCore.recommendedState_unheard (c := port.core) (s := s) hlistening
      s.defaultDs
    rcases decideState_cases h with ⟨hrecommended, -, -⟩ | ⟨state, hrecommended, hset⟩
    · cases Bmca.calculateRecommendedState_recommends hrecommended with
      | stay _ hstate => exact absurd hstate hlistening
    · have hcore := Port.setRecommendedState_core hset
      cases Bmca.calculateRecommendedState_recommends hrecommended with
      | m1 | m2 =>
        obtain ⟨port₁, -, hset⟩ := bind_eq_ok.mp hset
        obtain ⟨_, -, hset⟩ := bind_eq_ok.mp hset
        obtain ⟨rfl, rfl⟩ := Prod.mk.inj (Except.ok.inj hset)
        refine ⟨?_, fun hl => absurd hl hlistening, fun _ => rfl⟩
        rw [hcore]
        assumption
      | p1 _ hsuperseded =>
        rw [hbest] at hsuperseded
        cases hsuperseded.eq_some
      | m3 _ hsuperseded | p2 _ hsuperseded | s1 _ hsuperseded => cases hsuperseded.eq_some

omit [ForwardedTLVProvider T] in
/-- **The decisions without any message.** -/
theorem decideStates_unheard : ∀ {ports ports' : List (Port InBmca A R C F)} {s s' : PtpInstanceState},
    (∀ port ∈ ports, port.lifecycle.localBest = none) →
    decideStates p none s ports = .ok (ports', s') →
      ports'.map (·.core.portState) = ports.map (·.core.unheard s.defaultDs.slaveOnly) ∧
      ((∀ port ∈ ports, port.portState = .listening) → s' = s) ∧
      ((∃ port ∈ ports, port.portState ≠ .listening) → s' = s.becomeGrandmaster s.defaultDs) := by
  intro ports
  induction ports with
  | nil =>
    intro ports' s s' _ h
    obtain ⟨rfl, rfl⟩ := Prod.mk.inj (Except.ok.inj h)
    exact ⟨rfl, fun _ => rfl, fun ⟨port, hport, _⟩ => absurd hport List.not_mem_nil⟩
  | cons port ports ih =>
    intro ports' s s' hbest h
    rw [List.forall_mem_cons] at hbest
    obtain ⟨port', s₁, rest, hport, hrest, rfl⟩ := decideStates_cons_inv h
    obtain ⟨hstate, hlisten, hother⟩ := decideState_unheard hbest.1 hport
    obtain ⟨hstates, hlistens, hothers⟩ := ih hbest.2 hrest
    rw [decideState_defaultDs hport] at hstates
    refine ⟨?_, fun hall => ?_, fun ⟨other, hmem, hne⟩ => ?_⟩
    · rw [List.map_cons, List.map_cons, hstate, hstates]
    · rw [List.forall_mem_cons] at hall
      rw [hlistens hall.2, hlisten hall.1]
    · by_cases hfirst : port.portState = .listening
      · rcases List.mem_cons.mp hmem with rfl | hlater
        · exact absurd hfirst hne
        · rw [hothers ⟨other, hlater, hne⟩, hlisten hfirst]
      · have hs₁ := hother hfirst
        by_cases hall : ∀ port ∈ ports, port.portState = .listening
        · rw [hlistens hall, hs₁]
        · push Not at hall
          rw [hothers hall, hs₁]
          rfl

omit [ForwardedTLVProvider T] in
/-- **A round without any message.** -/
theorem Round.unheard {d : Duration} {ports ports' ports₁ ports₂ : List (Port InBmca A R C F)}
    {ebest : Option BestAnnounceMessage} (h : Round p s s' d ports ports' ports₁ ports₂ ebest)
    (hbest : ∀ port₁ ∈ ports₁, port₁.lifecycle.localBest = none) :
    ports'.map (·.core.portState) = ports.map (·.core.unheard s.defaultDs.slaveOnly) ∧
      ((∀ port ∈ ports, port.core.portState = .listening) → s' = s) ∧
      ((∃ port ∈ ports, port.core.portState ≠ .listening) →
        s' = s.becomeGrandmaster s.defaultDs) := by
  have hnone : ports₁.filterMap (·.bestLocalAnnounceMessageForBmca) = [] := by
    rw [List.filterMap_eq_nil_iff]
    intro port hport
    unfold Port.bestLocalAnnounceMessageForBmca
    split
    · rfl
    · exact hbest port hport
  have hchosen := h.chosen
  rw [hnone] at hchosen
  obtain rfl := Except.ok.inj hchosen
  have hcores : ports₁.map (·.core) = ports.map (·.core) :=
    map_eq_map_of_forall₂ h.best fun port port₁ hport => (Port.calculateBest_core hport).1
  have hmap : ∀ {α : Type} (f : PortCore → α), ports₁.map (fun port => f port.core) =
      ports.map fun port => f port.core := fun f => by
    have hsame := congrArg (List.map f) hcores
    rwa [List.map_map, List.map_map] at hsame
  obtain ⟨hstates, hlisten, hother⟩ := decideStates_unheard hbest h.decide
  have hage : ports'.map (·.core.portState) = ports₂.map (·.core.portState) :=
    map_eq_map_of_forall₂ h.age fun port port' hport => by
      obtain ⟨multiportDisable, hcore⟩ := Port.stepAnnounceAge_core hport
      rw [hcore]
  have hmem : ∀ state, state ∈ ports₁.map (·.core.portState) ↔ state ∈ ports.map (·.core.portState) :=
    fun state => by rw [hmap PortCore.portState]
  refine ⟨hage.trans (hstates.trans (hmap (·.unheard s.defaultDs.slaveOnly))), fun hall => hlisten fun port hport => ?_,
    fun ⟨port, hport, hne⟩ => hother ?_⟩
  · obtain ⟨old, hold, hsame⟩ := List.mem_map.mp ((hmem _).mp (List.mem_map_of_mem hport))
    exact hsame.symm.trans (hall old hold)
  · obtain ⟨new, hnew, hsame⟩ := List.mem_map.mp ((hmem _).mpr (List.mem_map_of_mem hport))
    exact ⟨new, hnew, fun heq => hne (hsame.symm.trans heq)⟩

end PtpInstanceState

namespace System

variable {p : Profile} {sys sys' : System A R C F}
  {log earlier later : List (Machine.Transition (System A R C F) (Event A R C F T))}
  {t : Machine.Transition (System A R C F) (Event A R C F T)}

omit [AcceptableMasterList A] [Clock C] [Rng R] [ForwardedTLVProvider T] in
theorem passes_nonneg (h : t.event = .bmca → t.before.logBmcaInterval.toInt ≤ 60) : 0 ≤ passes p t := by
  unfold passes
  split
  · rename_i he
    cases hd : Duration.fromSecondsLog p t.before.logBmcaInterval with
    | error why => exact Int.le_refl 0
    | ok d => exact (Duration.fromSecondsLog_range hd (h he)).1
  · exact Int.le_refl 0

omit [AcceptableMasterList A] [Clock C] [Rng R] [ForwardedTLVProvider T] in
theorem elapsed_nonneg (h : ShortRounds log) : 0 ≤ elapsed p log := by
  refine List.sum_nonneg fun x hx => ?_
  obtain ⟨t, ht, rfl⟩ := List.mem_map.mp hx
  exact passes_nonneg (h t ht)

omit [AcceptableMasterList A] [Clock C] [Rng R] [ForwardedTLVProvider T] in
/-- What was heard twice in the time was heard in a part of the run that takes so long. -/
theorem HeardTwice.not_silent {identity master : PortIdentity} {time : Int}
    (h : HeardTwice p (earlier ++ later) identity master time) (hshort : ShortRounds (earlier ++ later))
    (htime : time ≤ elapsed p later) :
    ∃ u ∈ later, ∃ header a, GivesTo u identity header a ∧ a.header.sourcePortIdentity = master := by
  obtain ⟨l₀, t, l₁, t', l₂, header, a, header', a', hlog, -, -, hgives, hmaster, -, hlast⟩ := h
  have hmem : t' ∈ later := by
    rcases List.append_eq_append_iff.mp hlog with ⟨middle, -, hlater⟩ | ⟨middle, -, hlater⟩
    · rw [hlater]
      exact List.mem_append_right _ List.mem_cons_self
    · rcases middle with _ | ⟨u, middle⟩
      · rw [List.nil_append] at hlater
        rw [← hlater]
        exact List.mem_cons_self
      · -- the message came before the silent part
        rw [List.cons_append] at hlater
        obtain ⟨-, rfl⟩ := List.cons.inj hlater
        rw [elapsed_append] at hlast
        have hnonneg : 0 ≤ elapsed p middle := elapsed_nonneg fun v hv => hshort v (by
          rw [hlog]
          exact List.mem_append_right _ (List.mem_cons_of_mem _ (List.mem_append_left _ hv)))
        omega
  exact ⟨t', hmem, header', a', hgives, hmaster⟩

/-- **When nothing is heard** for four announce intervals of every port, the next round leaves no slave:
a port that took part is a master again, and the instance its own grandmaster. -/
theorem takeover (h : Machine.Trace (System.step p) System.Initial (earlier ++ later ++ [t]) sys)
    (ht : t.event = .bmca) (hshort : ShortRounds (earlier ++ later ++ [t]))
    (hsilent : ∀ u ∈ later, ∀ identity header a, ¬ GivesTo u identity header a)
    (htime : ∀ slot ∈ t.before.ports, window slot.bmca ≤ elapsed p later) :
    sys.ports.map (·.core.portState) =
        t.before.ports.map (·.core.unheard t.before.state.defaultDs.slaveOnly) ∧
      ((∃ slot ∈ t.before.ports, slot.core.portState ≠ .listening) →
        sys.state = t.before.state.becomeGrandmaster t.before.state.defaultDs) ∧
      ((∀ slot ∈ t.before.ports, slot.core.portState = .listening) → sys.state = t.before.state) := by
  obtain ⟨htrace, actions, hstep⟩ := h.split rfl
  obtain rfl := h.after_getLast? List.getLast?_concat
  rw [ht] at hstep
  have hbefore : ShortRounds (earlier ++ later) := fun u hu => hshort u (List.mem_append_left _ hu)
  have hcalls := trace_calls htrace hbefore
  obtain ⟨d, ports, ports', ports₁, ports₂, ebest, -, hall, hall', hround⟩ := step_round hstep
  have hbest : ∀ port₁ ∈ ports₁, port₁.lifecycle.localBest = none := by
    have hstart : ∀ port ∈ ports, Slot.inBmca port ∈ t.before.ports := fun port hport => by
      rw [hall]
      exact List.mem_map_of_mem hport
    refine forall_mem_of_forall₂ hround.best (fun port port₁ hport hbest => ?_) hstart
    cases hlocal : port₁.lifecycle.localBest with
    | none => rfl
    | some m =>
      have htake := Bmca.call_takeBest (Port.calculateBest_call hbest)
      rw [hlocal] at htake
      obtain ⟨u, hu, header, a, hgives, -⟩ :=
        ((hcalls _ hport).heardTwice htake).not_silent hbefore (htime _ hport)
      exact absurd hgives (hsilent u hu _ header a)
  obtain ⟨hstates, hlisten, hother⟩ := hround.unheard hbest
  refine ⟨?_, fun ⟨slot, hslot, hne⟩ => hother ?_, fun hlistening => hlisten fun port hport => ?_⟩
  · rw [hall', hall, List.map_map, List.map_map]
    exact hstates
  · rw [hall] at hslot
    obtain ⟨port, hport, rfl⟩ := List.mem_map.mp hslot
    exact ⟨port, hport, hne⟩
  · exact hlistening (.inBmca port) (by rw [hall]; exact List.mem_map_of_mem hport)

/-- A round that makes the port a master when nothing is heard. -/
def mayTakeOver (t : Machine.Transition TestSystem TestEvent) : Bool :=
  match t.event with
  | .bmca => decide (t.before.ports.map (·.core.unheard t.before.state.defaultDs.slaveOnly) = [.master])
  | _ => true

/-- A master becomes a slave, and then nothing is heard for four rounds. -/
def silentRounds : List TestEvent :=
  [.addPort testPortConfig () ⟨⟩ ⟨⟩, .endBmca 0, .announceReceiptTimer 0, .startBmca 0] ++
    becomeSlave 0 ++ [.startBmca 0] ++ List.replicate 4 .bmca ++ [.bmca]

theorem takeover_silentRounds :
    ∃ (log : List (Machine.Transition TestSystem TestEvent)) (sys : TestSystem),
      Machine.Trace (System.step .debug) System.Initial log sys ∧ log.map (·.event) = silentRounds ∧
        sys.ports.map (·.core.portState) = [.master] := by
  have hcheck : Machine.checkSteps (System.step .debug) (fun t => everyTwoSeconds t && mayTakeOver t)
      (testSystem testInstanceConfig) silentRounds = true := by
    decide +kernel
  have hinit : System.Initial (testSystem testInstanceConfig) := ⟨_, _, rfl⟩
  obtain ⟨log, sys, htrace, hevents, hall, -⟩ := Machine.Trace.of_checkSteps _ (.init hinit) hcheck
  rw [List.nil_append] at htrace
  have hboth : ∀ t ∈ log, everyTwoSeconds t = true ∧ mayTakeOver t = true := fun t ht =>
    (Bool.and_eq_true _ _).mp (hall t ht)
  obtain ⟨before, last, rfl, hbefore, hlast⟩ := List.map_eq_append_iff.mp hevents
  obtain ⟨t, rfl, ht⟩ := List.map_eq_singleton_iff.mp hlast
  obtain ⟨earlier, later, rfl, -, hlater⟩ := List.map_eq_append_iff.mp hbefore
  have hround : ∀ u ∈ later, u.event = .bmca := fun u hu =>
    List.eq_of_mem_replicate (hlater ▸ List.mem_map_of_mem hu)
  have hmem : ∀ u ∈ later, u ∈ earlier ++ later ++ [t] := fun u hu =>
    List.mem_append_left _ (List.mem_append_right _ hu)
  have hlength : later.length = 4 := by
    rw [← List.length_map (f := (·.event)), hlater, List.length_replicate]
  have htime : elapsed .debug later = 4 * (2000000000 * 2 ^ 32) := by
    have hsame : later.map (passes .debug) = List.replicate 4 (2000000000 * 2 ^ 32) := by
      rw [← hlength, ← List.map_const']
      exact List.map_congr_left fun u hu =>
        (everyTwoSeconds_round (hboth u (hmem u hu)).1 (hround u hu)).2.1
    rw [elapsed, hsame]
    rfl
  have htlast := hboth t (List.mem_append_right _ List.mem_cons_self)
  have hwindow := (everyTwoSeconds_round htlast.1 ht).2.2
  have htakeover := takeover htrace ht (shortRounds_of_everyTwoSeconds fun t ht => (hboth t ht).1)
    (fun u hu identity header a hgives => hgives.ne_bmca (hround u hu))
    (fun slot hslot => by rw [hwindow slot hslot, htime])
  refine ⟨_, sys, htrace, hevents, ?_⟩
  have hslave := htlast.2
  rw [mayTakeOver, ht] at hslave
  rw [htakeover.1]
  exact of_decide_eq_true hslave

end System

end Statime
