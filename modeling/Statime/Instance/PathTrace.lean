import Statime.PtpInstance

/-!
# The path trace of the parent

A slave copies the `PATH_TRACE` record of its parent into a list of `MAX_DATA_LEN / 8` entries.
A received message is not bounded by `MAX_DATA_LEN`, so the record can be longer than the list.

* `Port.collectsPathTrace_iff`: exactly when the list is large enough.
* `long_path_trace_panics`: a run that a record of 129 entries ends.
-/

namespace Statime

open Rust

/-- The record that a slave copies: the first one of its type. -/
def Message.pathTraceRecord (p : Profile) (message : Message) : Except Panic (Option Tlv) :=
  message.suffix.find p fun tlv => decide (tlv.tlvType = .pathTrace)

@[simp] theorem length_pathTraceEntries (value : List UInt8) :
    (pathTraceEntries value).length = value.length / 8 := by
  rw [pathTraceEntries, List.length_map, length_chunksExact]

namespace PtpInstanceState

/-- **What the path trace can do to the update**: nothing, stop it at a loop, or overrun the
list. -/
theorem updateFromParent_cases (p : Profile) (s : PtpInstanceState) {message : Message}
    (announce : AnnounceMessage) (henable : s.pathTraceDs.enable = true)
    (haccepted : TlvSet.Accepted message.suffix.bytes) :
    (p = .debug ∧ announce.stepsRemoved = 0xffff ∧
      s.updateFromParent p message announce = .error .overflow) ∨
    ((p = .debug → announce.stepsRemoved ≠ 0xffff) ∧
      ((message.pathTraceRecord p = .ok none ∧
        ∃ s', s.updateFromParent p message announce = .ok (s', false)) ∨
      ∃ tlv, message.pathTraceRecord p = .ok (some tlv) ∧
        ((s.defaultDs.clockIdentity ∈ pathTraceEntries tlv.value ∧
          ∃ s', s.updateFromParent p message announce = .ok (s', true)) ∨
        (s.defaultDs.clockIdentity ∉ pathTraceEntries tlv.value ∧ maxDataLen / 8 < tlv.value.length / 8 ∧
          s.updateFromParent p message announce = .error .capacity) ∨
        (s.defaultDs.clockIdentity ∉ pathTraceEntries tlv.value ∧ tlv.value.length / 8 ≤ maxDataLen / 8 ∧
          ∃ s', s.updateFromParent p message announce = .ok (s', false) ∧
            s'.pathTraceDs.list.toList = pathTraceEntries tlv.value)))) := by
  obtain ⟨found, hfound⟩ := TlvSet.find_of_accepted p haccepted
    fun tlv => decide (tlv.tlvType = .pathTrace)
  by_cases hsteps : p = .debug ∧ announce.stepsRemoved = 0xffff
  · left
    refine ⟨hsteps.1, hsteps.2, ?_⟩
    rw [updateFromParent, overflow, if_pos ⟨hsteps.1, decide_eq_true hsteps.2⟩, error_bind]
  · right
    refine ⟨fun hp he => hsteps ⟨hp, he⟩, ?_⟩
    have hok : overflow p (decide (announce.stepsRemoved = 0xffff)) (announce.stepsRemoved + 1) =
        .ok (announce.stepsRemoved + 1) := by
      rw [overflow, if_neg]
      rintro ⟨hp, he⟩
      exact hsteps ⟨hp, of_decide_eq_true he⟩
    rw [updateFromParent, hok, ok_bind]
    dsimp only
    rw [if_pos henable]
    cases found with
    | none =>
      left
      rw [hfound, ok_bind]
      exact ⟨hfound, _, rfl⟩
    | some tlv =>
      right
      refine ⟨tlv, hfound, ?_⟩
      rw [hfound, ok_bind]
      dsimp only
      by_cases hloop : s.defaultDs.clockIdentity ∈ pathTraceEntries tlv.value
      · left
        rw [if_pos (List.contains_iff_mem.mpr hloop)]
        exact ⟨hloop, _, rfl⟩
      · right
        rw [if_neg (fun h => hloop (List.contains_iff_mem.mp h))]
        by_cases hfits : tlv.value.length / 8 ≤ maxDataLen / 8
        · right
          rw [ArrayVec.collect, dif_pos (by rw [length_pathTraceEntries]; exact hfits), ok_bind]
          exact ⟨hloop, hfits, _, rfl, rfl⟩
        · left
          refine ⟨hloop, by omega, ?_⟩
          rw [ArrayVec.collect, dif_neg (by rw [length_pathTraceEntries]; exact hfits), error_bind]

end PtpInstanceState

namespace Port

variable {A R C F : Type} [AcceptableMasterList A] [Clock C] [Filter F] [Rng R]

theorem registerAnnounce_eq_error {p : Profile} {port : Port Running A R C F} {message : Message}
    {announce : AnnounceMessage} {why : Panic}
    (h : port.registerAnnounce p message announce = .error why) : why = .range := by
  obtain ⟨bmca, hbmca⟩ := port.bmca.registerAnnounceMessage_total p message.header announce
  rw [registerAnnounce, hbmca, ok_bind] at h
  dsimp only at h
  split at h
  · rcases bind_eq_error.mp h with h | ⟨duration, -, h⟩
    · exact PortConfig.announceDuration_eq_error h
    · cases h
  · cases h

/-- The path trace of the message ends up in the list, or the message is one of a clock loop. -/
structure CollectsPathTrace (p : Profile) (s : PtpInstanceState) (port : Port Running A R C F)
    (message : Message) (announce : AnnounceMessage) : Prop where
  fits : port.handleAnnounce p s message announce ≠ .error .capacity
  collected : ∀ tlv port' s' actions, message.pathTraceRecord p = .ok (some tlv) →
    port.handleAnnounce p s message announce = .ok (port', s', actions) →
    s.defaultDs.clockIdentity ∉ pathTraceEntries tlv.value →
    s'.pathTraceDs.list.toList = pathTraceEntries tlv.value

theorem handleAnnounce_of_update {p : Profile} {s s' : PtpInstanceState}
    {port : Port Running A R C F} {message : Message} {announce : AnnounceMessage}
    (hparent : port.isFromParent s announce = true)
    (h : s.updateFromParent p message announce = .ok (s', false)) :
    port.handleAnnounce p s message announce = do
      let (port, actions) ← port.registerAnnounce p message announce
      return (port, s', actions) := by
  rw [handleAnnounce, updateDatasets, if_pos hparent, h, ok_bind]
  rfl

theorem handleAnnounce_ne_capacity {p : Profile} {s s' : PtpInstanceState}
    {port : Port Running A R C F} {message : Message} {announce : AnnounceMessage}
    (hparent : port.isFromParent s announce = true)
    (h : s.updateFromParent p message announce = .ok (s', false)) :
    port.handleAnnounce p s message announce ≠ .error .capacity := by
  intro herror
  rw [handleAnnounce_of_update hparent h] at herror
  rcases bind_eq_error.mp herror with herror | ⟨_, -, herror⟩
  · cases registerAnnounce_eq_error herror
  · cases herror

/-- **When the path trace of the parent fits the list.**  The record is at most as long as the
list, or it contains the own identity; or the overflow of the steps removed comes first. -/
theorem collectsPathTrace_iff (p : Profile) (s : PtpInstanceState) (port : Port Running A R C F)
    {data : List UInt8} {message : Message} {announce : AnnounceMessage}
    (henable : s.pathTraceDs.enable = true) (hslave : port.isSteering = true)
    (hparse : Message.deserialize data = .ok message)
    (hsource : announce.header.sourcePortIdentity = s.parentDs.parentPortIdentity) :
    port.CollectsPathTrace p s message announce ↔
      (p = .debug ∧ announce.stepsRemoved = 0xffff) ∨
        ∀ tlv, message.pathTraceRecord p = .ok (some tlv) →
          s.defaultDs.clockIdentity ∈ pathTraceEntries tlv.value ∨
            tlv.value.length / 8 ≤ maxDataLen / 8 := by
  have hparent : port.isFromParent s announce = true := by
    rw [isFromParent, hslave, decide_eq_true hsource]
    rfl
  have haccepted := (Message.deserialize_spec hparse).1.suffix
  rcases s.updateFromParent_cases p announce henable haccepted with
    ⟨hp, hsteps, hupdate⟩ | ⟨hsteps, ⟨hnone, s', hupdate⟩ | ⟨tlv, hsome, hcases⟩⟩
  · have herror : port.handleAnnounce p s message announce = .error .overflow := by
      rw [handleAnnounce, updateDatasets, if_pos hparent, hupdate, error_bind]
    refine iff_of_true ⟨?_, ?_⟩ (Or.inl ⟨hp, hsteps⟩)
    · rw [herror]
      exact fun h => by cases h
    · intro tlv port' s' actions _ h
      rw [herror] at h
      cases h
  · refine iff_of_true ⟨handleAnnounce_ne_capacity hparent hupdate, ?_⟩ (Or.inr ?_)
    · intro tlv port' s'' actions htlv
      rw [hnone] at htlv
      cases htlv
    · intro tlv htlv
      rw [hnone] at htlv
      cases htlv
  · -- the record is unique, so its length and its entries decide
    have hunique : ∀ tlv', message.pathTraceRecord p = .ok (some tlv') → tlv' = tlv := by
      intro tlv' h
      exact (Option.some.inj (Except.ok.inj (hsome.symm.trans h))).symm
    rcases hcases with ⟨hloop, s', hupdate⟩ | ⟨hloop, hlong, hupdate⟩ |
      ⟨hloop, hfits, s', hupdate, hlist⟩
    · have hok : port.handleAnnounce p s message announce = .ok (port, s', .empty) := by
        rw [handleAnnounce, updateDatasets, if_pos hparent, hupdate, ok_bind]
        rfl
      refine iff_of_true ⟨?_, ?_⟩ (Or.inr ?_)
      · rw [hok]
        exact fun h => by cases h
      · intro tlv' port' s'' actions htlv _ hnot
        exact absurd (hunique tlv' htlv ▸ hloop) hnot
      · intro tlv' htlv
        exact Or.inl (hunique tlv' htlv ▸ hloop)
    · have herror : port.handleAnnounce p s message announce = .error .capacity := by
        rw [handleAnnounce, updateDatasets, if_pos hparent, hupdate, error_bind]
      refine iff_of_false (fun h => h.fits herror) ?_
      rintro (⟨hp, h⟩ | h)
      · exact hsteps hp h
      · rcases h tlv hsome with h | h
        · exact hloop h
        · omega
    · refine iff_of_true ⟨handleAnnounce_ne_capacity hparent hupdate, ?_⟩ (Or.inr ?_)
      · intro tlv' port' s'' actions htlv h _
        rw [handleAnnounce_of_update hparent hupdate] at h
        obtain ⟨⟨port₁, actions₁⟩, -, h⟩ := bind_eq_ok.mp h
        obtain ⟨-, h⟩ := Prod.mk.inj (Except.ok.inj h)
        obtain ⟨rfl, -⟩ := Prod.mk.inj h
        rw [hlist, hunique tlv' htlv]
      · intro tlv' htlv
        exact Or.inr (hunique tlv' htlv ▸ hfits)

/-- Whether the bytes are an announce message of `testParent` with a path trace of two clocks. -/
def hasTwoClocks (data : List UInt8) : Bool :=
  match Message.deserialize data with
  | .ok message =>
    match message.body, message.pathTraceRecord .debug with
    | .announce announce, .ok (some tlv) =>
      decide (announce.header.sourcePortIdentity = testParent ∧ tlv.value.length = 16)
    | _, _ => false
  | .error _ => false

/-- A path trace of two clocks fits. -/
theorem collectsPathTrace_two_clocks :
    ∃ message, Message.deserialize (announceBytes 9 1 84 0 ++ [0, 8, 0, 16] ++ List.replicate 16 7) =
      .ok message ∧ ∃ announce, message.body = .announce announce ∧
        (testPort default (.slave (.new testParent))).CollectsPathTrace .debug
          (followingState { testInstanceConfig with pathTrace := true }) message announce := by
  have hcheck : hasTwoClocks (announceBytes 9 1 84 0 ++ [0, 8, 0, 16] ++ List.replicate 16 7) =
      true := by
    decide +kernel
  unfold hasTwoClocks at hcheck
  split at hcheck
  · rename_i message hparse
    split at hcheck
    · rename_i announce tlv hbody htlv
      obtain ⟨hsource, hlength⟩ := of_decide_eq_true hcheck
      refine ⟨message, hparse, announce, hbody, ?_⟩
      refine (collectsPathTrace_iff .debug _ _ rfl rfl hparse hsource).mpr (Or.inr ?_)
      intro tlv' htlv'
      obtain rfl := Option.some.inj (Except.ok.inj (htlv.symm.trans htlv'))
      right
      rw [hlength]
      decide
    · cases hcheck
  · cases hcheck

end Port

/-- An announce message of 1100 bytes with a path trace of 129 clocks. -/
def longPathTrace : List UInt8 :=
  announceBytes 9 1 1100 2 ++ [0, 8, 4, 8] ++ List.replicate 1032 7

/-- Whether the port is the slave of the sender and the message overruns the list. -/
def overrunsPathTrace (data : List UInt8) (sys : TestSystem) : Bool :=
  match sys.getRunning 0, Message.deserialize data with
  | some port, .ok message =>
    match message.body with
    | .announce announce =>
      sys.state.pathTraceDs.enable && port.isSteering &&
        decide (announce.header.sourcePortIdentity = sys.state.parentDs.parentPortIdentity) &&
        (match port.handleAnnounce .release sys.state message announce with
          | .error .capacity => true
          | _ => false)
    | _ => false
  | _, _ => false

/-- **A path trace of 129 clocks panics**: some reachable slave does not collect the path trace of
its parent. -/
theorem long_path_trace_panics :
    ∃ sys : TestSystem, System.Reachable NoForwardedTLVs .release sys ∧
      sys.state.pathTraceDs.enable = true ∧
      ∃ port message announce, sys.getRunning 0 = some port ∧ port.isSteering = true ∧
        Message.deserialize longPathTrace = .ok message ∧ message.body = .announce announce ∧
        announce.header.sourcePortIdentity = sys.state.parentDs.parentPortIdentity ∧
        ¬ port.CollectsPathTrace .release sys.state message announce := by
  have hrun : Machine.endsWith (System.step .release)
      (testSystem { testInstanceConfig with pathTrace := true })
      (.addPort testPortConfig () ⟨⟩ ⟨⟩ :: becomeSlave 0) (overrunsPathTrace longPathTrace) = true := by
    decide +kernel
  obtain ⟨sys, hreach, hcheck⟩ := System.reachable_of_endsWith hrun
  unfold overrunsPathTrace at hcheck
  split at hcheck
  · rename_i port message hport hparse
    split at hcheck
    · rename_i announce hbody
      simp only [Bool.and_eq_true, decide_eq_true_eq] at hcheck
      obtain ⟨⟨⟨henable, hslave⟩, hsource⟩, hpanics⟩ := hcheck
      refine ⟨sys, hreach, henable, port, message, announce, hport, hslave, hparse, hbody, hsource,
        fun h => ?_⟩
      split at hpanics
      · rename_i herror
        exact h.fits herror
      · cases hpanics
    · cases hcheck
  · cases hcheck

end Statime
