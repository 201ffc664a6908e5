import Statime.Port.TimedMessages

/-!
# The peer delay between two ports

A port `P` sends a peer delay request at `t1`; a port `Q` receives it at `t2` and sends its response at
`t3`, which arrives at `t4`.  The times of `Q` go over the wire as whole nanoseconds: its response has
the correction field of the request, and the follow-up has none.

Times are counted in units of `2^-32` nanoseconds.

* `Port.peerDelay_spec`, `Port.peerDelay_ok`: the delay of four times.
* `PeerExchange.parts`: what the messages of `Q` bring to `P`, in whatever order.
* `peerDelayExact_iff`: when the delay that `P` reports is exact.
* `peer_delay_inexact`: an exchange in which it is not.
-/

namespace Statime

open Rust

/-! ### The delay of four times -/

/-- Twice the delay, when nothing is rounded. -/
def roundTrip (t1 t2 t3 t4 : Time) : Int := (t4.toInt - t1.toInt) - (t3.toInt - t2.toInt)

namespace Port

variable {p : Profile} {t1 t2 t3 t4 : Time} {delay : Duration}

/-- **The delay is half of the round trip**, modulo `2 ^ 128`. -/
theorem peerDelay_spec (h : peerDelay p t1 t2 t3 t4 = .ok delay) :
    ∃ twice : Duration, 2 ^ 128 ∣ twice.toInt - roundTrip t1 t2 t3 t4 ∧
      delay.toInt = twice.toInt.tdiv 2 := by
  obtain ⟨outer, houter, h⟩ := bind_eq_ok.mp h
  obtain ⟨inner, hinner, h⟩ := bind_eq_ok.mp h
  obtain ⟨twice, htwice, h⟩ := bind_eq_ok.mp h
  obtain ⟨r, hr, hint⟩ := Duration.div_two p twice
  obtain rfl := Except.ok.inj (hr.symm.trans h)
  have houter := Time.dvd_diff houter
  have hinner := Time.dvd_diff hinner
  have htwice := Duration.dvd_sub htwice
  refine ⟨twice, ?_, hint⟩
  unfold roundTrip
  omega

/-- A debug build panics on times from `2 ^ 95` nanoseconds on. -/
theorem peerDelay_debug_lt (h : peerDelay .debug t1 t2 t3 t4 = .ok delay) :
    t1.toInt < 2 ^ 127 ∧ t4.toInt < 2 ^ 127 := by
  obtain ⟨outer, houter, -⟩ := bind_eq_ok.mp h
  exact (Time.diff_debug_lt houter).symm

/-- There is a delay unless a debug build sees an overflow. -/
theorem peerDelay_ok (p : Profile) (t1 t2 t3 t4 : Time) (h2 : t2.toInt < 2 ^ 127) (h3 : t3.toInt < 2 ^ 127)
    (h : p = .debug → t1.toInt < 2 ^ 127 ∧ t4.toInt < 2 ^ 127 ∧ -2 ^ 127 ≤ roundTrip t1 t2 t3 t4 ∧
      roundTrip t1 t2 t3 t4 < 2 ^ 127) : ∃ delay, peerDelay p t1 t2 t3 t4 = .ok delay := by
  obtain ⟨outer, houter⟩ := Time.diff_ok p (a := t4) (b := t1) fun hp => ⟨(h hp).2.1, (h hp).1⟩
  obtain ⟨inner, hinner⟩ := Time.diff_ok p (a := t3) (b := t2) fun _ => ⟨h3, h2⟩
  obtain ⟨twice, htwice⟩ := Duration.sub_ok p (a := outer) (b := inner) fun hp => by
    have hrange := h hp
    subst hp
    have h2' := t2.toInt_range
    have h3' := t3.toInt_range
    have houter := Time.diff_debug houter
    have hinner := Time.diff_debug hinner
    unfold roundTrip at hrange
    omega
  obtain ⟨delay, hdelay, -⟩ := Duration.div_two p twice
  exact ⟨delay, by rw [peerDelay, houter, ok_bind, hinner, ok_bind, htwice, ok_bind, hdelay]⟩

end Port

/-- Twice the delay that is left of the whole nanoseconds of `t2` and `t3`. -/
def wholeRoundTrip (t1 t2 t3 t4 : Time) : Int :=
  (t4.toInt - t1.toInt) - (t3.toInt / 2 ^ 32 * 2 ^ 32 - t2.toInt / 2 ^ 32 * 2 ^ 32)

/-- The four times are in the range of the fixed-point numbers, and the parts of `t2` and `t3` below a
nanosecond differ by at most `2 * 2^-16` nanoseconds, up to the half unit that the division by two may
drop. -/
structure PeerDelayCondition (p : Profile) (t1 t2 t3 t4 : Time) : Prop where
  times : p = .debug → t1.toInt < 2 ^ 127 ∧ t4.toInt < 2 ^ 127
  roundTrip : -2 ^ 127 ≤ wholeRoundTrip t1 t2 t3 t4 ∧ wholeRoundTrip t1 t2 t3 t4 < 2 ^ 127
  subnano : |t3.toInt % 2 ^ 32 - t2.toInt % 2 ^ 32 - (wholeRoundTrip t1 t2 t3 t4).tmod 2| ≤ 2 * 2 ^ 16

/-- **When the delay of the times on the wire is exact.** -/
theorem peerDelay_exact_iff (p : Profile) {t1 t2 t3 t4 t2' t3' : Time}
    (h2 : t2'.toInt = t2.toInt / 2 ^ 32 * 2 ^ 32) (h3 : t3'.toInt = t3.toInt / 2 ^ 32 * 2 ^ 32)
    (ht2 : t2.InWireRange) (ht3 : t3.InWireRange) :
    (∃ delay, Port.peerDelay p t1 t2' t3' t4 = .ok delay ∧
      |2 * delay.toInt - roundTrip t1 t2 t3 t4| ≤ 2 * 2 ^ 16) ↔ PeerDelayCondition p t1 t2 t3 t4 := by
  have hwhole : roundTrip t1 t2' t3' t4 = wholeRoundTrip t1 t2 t3 t4 := by
    rw [roundTrip, wholeRoundTrip, h2, h3]
  have h2range := t2.toInt_range
  have h3range := t3.toInt_range
  unfold Time.InWireRange at ht2 ht3
  -- what the wire and the division leave out
  have herror : ∀ delay : Duration, delay.toInt = (wholeRoundTrip t1 t2 t3 t4).tdiv 2 →
      2 * delay.toInt - roundTrip t1 t2 t3 t4 =
        t3.toInt % 2 ^ 32 - t2.toInt % 2 ^ 32 - (wholeRoundTrip t1 t2 t3 t4).tmod 2 := by
    intro delay hdelay
    have hsplit := Int.mul_tdiv_add_tmod (wholeRoundTrip t1 t2 t3 t4) 2
    rw [← hdelay] at hsplit
    unfold roundTrip
    unfold wholeRoundTrip at hsplit ⊢
    omega
  constructor
  · rintro ⟨delay, hdelay, hexact⟩
    obtain ⟨twice, hdvd, hhalf⟩ := Port.peerDelay_spec hdelay
    rw [hwhole] at hdvd
    have hrange := twice.toInt_range
    -- an exact delay leaves no room for a multiple of `2 ^ 128`
    have heq : twice.toInt = wholeRoundTrip t1 t2 t3 t4 := by
      have hsplit := Int.mul_tdiv_add_tmod twice.toInt 2
      have hlt := Int.tmod_lt_of_pos twice.toInt (by decide : (0 : Int) < 2)
      have hgt := Int.lt_tmod_of_pos twice.toInt (by decide : (0 : Int) < 2)
      have habs := abs_le.mp hexact
      unfold roundTrip at habs
      unfold wholeRoundTrip at hdvd ⊢
      omega
    rw [heq] at hhalf hrange
    rw [herror delay hhalf] at hexact
    exact ⟨fun hp => Port.peerDelay_debug_lt (hp ▸ hdelay), hrange, hexact⟩
  · rintro ⟨htimes, hrange, hsubnano⟩
    obtain ⟨delay, hdelay⟩ := Port.peerDelay_ok p t1 t2' t3' t4 (by omega)
      (by omega) fun hp => ⟨(htimes hp).1, (htimes hp).2, by rw [hwhole]; exact hrange⟩
    obtain ⟨twice, hdvd, hhalf⟩ := Port.peerDelay_spec hdelay
    have htwice := twice.toInt_range
    rw [hwhole] at hdvd
    have heq : twice.toInt = wholeRoundTrip t1 t2 t3 t4 := by omega
    rw [heq] at hhalf
    exact ⟨delay, hdelay, by rw [herror delay hhalf]; exact hsubnano⟩

/-! ### The exchange -/

section Exchange

variable {A R C F A' R' C' F' T : Type} [AcceptableMasterList A] [Clock C] [Filter F] [Rng R]
  [AcceptableMasterList A'] [Clock C'] [Filter F'] [Rng R'] [ForwardedTLVProvider T]

/-- **A peer delay exchange**: `P` sends a request and becomes `P'`, `Q` receives it at `t2` and sends a
response, and when that was sent at `t3` its follow-up. -/
def PeerExchange (p q : Profile) (sP sQ : PtpInstanceState) (P P' : Port Running A R C F)
    (Q : Port Running A' R' C' F') (t2 t3 : Time) (id : UInt16) (response followUp : List UInt8) :
    Prop :=
  ∃ interval duration request requestor Q₁ Q₂,
    P.config.delayMechanism = .p2p interval ∧
    P.handleDelayRequestTimer p sP = .ok (P', .of [.resetDelayRequestTimer duration,
      .sendEvent (.pDelayReq id) request true]) ∧
    Q.handleEventReceive q sQ request t2 = .ok (Q₁, sQ, .of
      [.sendEvent (.pDelayResp id requestor) response true]) ∧
    Q₁.handleSendTimestamp q sQ (.pDelayResp id requestor) t3 =
      .ok (Q₂, .of [.sendGeneral followUp true])

/-- What `P` gets of it: the time `t1` of its request, the response at `t4`, and the follow-up. -/
structure PeerEvents (sP : PtpInstanceState) (id : UInt16) (t1 t4 : Time)
    (responseData followUpData : List UInt8) (sent response followUp : PortEvent T) : Prop where
  sent : ∃ s, sent = .sendTimestamp s (.pDelayReq id) t1
  response : ∃ s : PtpInstanceState, s.defaultDs = sP.defaultDs ∧
    response = .eventReceive s responseData t4
  followUp : ∃ s : PtpInstanceState, s.defaultDs = sP.defaultDs ∧
    followUp = .generalReceive s followUpData

/-- **The port reports one peer delay, and it is exact**, in whatever order the events come. -/
def PeerDelayExact (p : Profile) (port : Port Running A R C F) (events : List (PortEvent T))
    (t1 t2 t3 t4 : Time) : Prop :=
  ∀ es : List (PortEvent T), es.Perm events → ∃ slot outputs m delay,
    Machine.run (Slot.step p) (.running port) es = .ok (slot, outputs) ∧
    slot.core.handed = port.handed ++ [m] ∧ m.peerDelay = some delay ∧
    |2 * delay.toInt - roundTrip t1 t2 t3 t4| ≤ 2 * 2 ^ 16

/-! ### The measurement -/

namespace Slot.PeerDelayParts

omit [AcceptableMasterList A] [Rng R]

variable {p : Profile} {port' : Port Running A R C F} {t1 t2 t3 t4 : Time} {delay : Duration}
  {actions : PortActionIterator} (port : Port Running A R C F) (id : UInt16) (source : PortIdentity)

theorem complete_of_delay (h : Port.peerDelay p t1 t2 t3 t4 = .ok delay) :
    ∃ port' actions, complete p port id source t1 t2 t4 t3 = .ok (port', actions) ∧
      port'.handed = port.handed ++ [{ eventTime := t4, peerDelay := some delay }] := by
  rw [complete, Port.handleTimeMeasurement, Port.extractMeasurement]
  simp only [Port.peerDelayState_withPeerDelayState]
  rw [h, ok_bind]
  refine ⟨_, _, rfl, ?_⟩
  dsimp only
  split
  · rw [Port.handed_setForcedPortState]
    rfl
  · rfl

/-- The complete exchange hands over the delay of its times. -/
theorem complete_eq_ok (h : complete p port id source t1 t2 t4 t3 = .ok (port', actions)) :
    ∃ delay, Port.peerDelay p t1 t2 t3 t4 = .ok delay ∧
      port'.handed = port.handed ++ [{ eventTime := t4, peerDelay := some delay }] := by
  have hmeasured := h
  rw [complete, Port.handleTimeMeasurement, Port.extractMeasurement] at hmeasured
  simp only [Port.peerDelayState_withPeerDelayState] at hmeasured
  obtain ⟨extracted, hextracted, -⟩ := bind_eq_ok.mp hmeasured
  obtain ⟨delay, hdelay, -⟩ := bind_eq_ok.mp hextracted
  obtain ⟨port'', actions', hport'', hhanded⟩ :=
    complete_of_delay port id source hdelay
  obtain ⟨rfl, -⟩ := Prod.mk.inj (Except.ok.inj (h.symm.trans hport''))
  exact ⟨delay, hdelay, hhanded⟩

end Slot.PeerDelayParts

namespace Slot

variable {p : Profile} {port : Port Running A R C F} {id : UInt16} {source : PortIdentity}
  {t1 t2' t3' t4' : Time} {sent response followUp : PortEvent T}

omit [AcceptableMasterList A] [Clock C] [Rng R] in
theorem afterLast_eq_ok {n : Nat} {slot : Slot A R C F} {outputs : List PortActionIterator}
    {result : Except Panic (Port Running A R C F × PortActionIterator)}
    (h : afterLast n result = .ok (slot, outputs)) :
    ∃ port actions, result = .ok (port, actions) ∧ slot = .running port := by
  obtain ⟨⟨slot', actions⟩, hresult, h⟩ := bind_eq_ok.mp h
  obtain ⟨port, hport, rfl⟩ := ofHandler_eq_ok.mp hresult
  obtain ⟨rfl, -⟩ := Prod.mk.inj (Except.ok.inj h)
  exact ⟨port, actions, hport, rfl⟩

/-- What is reported depends on the stored times only. -/
theorem PeerDelayParts.exact_iff
    (h : PeerDelayParts p port id source t1 t2' (.ok t4') (.ok t3') sent response followUp)
    (hinc : port.core.Incomplete)
    (hpeer : port.peerDelayState = .measuring id none none none none none) (t2 t3 t4 : Time) :
    PeerDelayExact p port [sent, response, followUp] t1 t2 t3 t4 ↔
      ∃ delay, Port.peerDelay p t1 t2' t3' t4' = .ok delay ∧
        |2 * delay.toInt - roundTrip t1 t2 t3 t4| ≤ 2 * 2 ^ 16 := by
  constructor
  · intro hexact
    obtain ⟨slot, outputs, m, delay, hrun, hhanded, hm, hclose⟩ := hexact _ (.refl _)
    rw [h.run_perm hinc hpeer (.refl _), ok_bind, ok_bind] at hrun
    obtain ⟨port', actions, hcomplete, rfl⟩ := afterLast_eq_ok hrun
    obtain ⟨delay', hdelay', hhanded'⟩ := complete_eq_ok port id source hcomplete
    have hsame := PortCore.handed_append_inj (hhanded'.symm.trans hhanded)
    rw [← hsame] at hm
    obtain rfl := Option.some.inj hm
    exact ⟨delay', hdelay', hclose⟩
  · rintro ⟨delay, hdelay, hclose⟩ es hes
    obtain ⟨port', actions, hcomplete, hhanded⟩ :=
      complete_of_delay port id source hdelay
    rw [h.run_perm hinc hpeer hes, ok_bind, ok_bind, hcomplete]
    exact ⟨_, _, _, delay, rfl, hhanded, rfl, hclose⟩

end Slot

/-! ### The messages -/

namespace Port

variable {p : Profile} {s : PtpInstanceState} {port port' : Port Running A R C F} {t : Time}

omit [Clock C] in
/-- **A peer delay request is sent**, and the packet reads back as the request. -/
theorem sendP2pDelayRequest_spec (p : Profile) (port : Port Running A R C F)
    (hsdo : s.defaultDs.sdoId.InRange) {interval : Interval} {duration : CoreDuration} {rng : R}
    (hduration : requestDuration interval port.rng = .ok (duration, rng)) :
    ∃ port' id data message body,
      port.sendP2pDelayRequest p s interval = .ok (port', .of [.resetDelayRequestTimer duration,
        .sendEvent (.pDelayReq id) data true]) ∧
      port'.core = { port.core with peerDelayState := .measuring id none none none none none } ∧
      Message.deserialize data = .ok message ∧ message.body = .pDelayReq body ∧
      message.header.sourcePortIdentity = port.portIdentity ∧ message.header.sequenceId = id ∧
      message.header.correctionField.toInt = 0 ∧ message.header.Passes s.defaultDs := by
  rcases hgenerate : port.pdelaySeqIds.generate with ⟨seqId, seqIds⟩
  have hrange : (Message.pdelayReq s.defaultDs port.portIdentity seqId
      port.config.minorPtpVersion.toUInt8).InRange :=
    Message.inRange_of_noSuffix (baseHeader_inRange hsdo _ _ _)
      (by exact (by decide : (0 : UInt64).toNat < 2 ^ 48)) (by decide : 20 ≤ 1000)
  obtain ⟨buffer, data, hdata, hback⟩ := port.packetBuffer.serialize_spec p hrange
    (by decide : 54 ≤ maxDataLen)
  rw [sendP2pDelayRequest, hgenerate]
  dsimp only
  rw [hdata, ok_bind]
  dsimp only
  rw [hduration, ok_bind]
  exact ⟨_, _, data, _, _, rfl, rfl, hback, rfl, rfl, rfl,
    (by decide : (⟨⟨0⟩⟩ : TimeInterval).toInt = 0), rfl, rfl, rfl⟩

/-- A peer delay request that is answered passed the filter. -/
theorem handleEventReceive_pDelayReq {data : List UInt8} {message : Message}
    {body : PDelayReqMessage} {s' : PtpInstanceState} {action : PortAction}
    (hread : Message.deserialize data = .ok message) (hbody : message.body = .pDelayReq body)
    (h : port.handleEventReceive p s data t = .ok (port', s', .of [action])) :
    message.header.sdoId = s.defaultDs.sdoId ∧
      message.header.domainNumber = s.defaultDs.domainNumber ∧
      port.handlePdelayReq p s message.header t = .ok (port', .of [action]) := by
  obtain ⟨filtered, hfilter, h⟩ := bind_eq_ok.mp h
  cases filtered with
  | none =>
    have hactions := congrArg (fun r => r.2.2.internal) (Except.ok.inj h)
    cases hactions
  | some m =>
    obtain ⟨hm, hsdo, hdomain⟩ := parseAndFilter_eq_some hfilter
    obtain rfl := Except.ok.inj (hm.symm.trans hread)
    simp only [handleEventMessage, hbody] at h
    obtain ⟨⟨port₁, actions⟩, hport₁, h⟩ := bind_eq_ok.mp h
    obtain ⟨hsame, hrest⟩ := Prod.mk.inj (Except.ok.inj h)
    obtain ⟨-, hactions⟩ := Prod.mk.inj hrest
    dsimp only at hsame hactions
    rw [hsame, hactions] at hport₁
    exact ⟨hsdo, hdomain, hport₁⟩

end Port

/-! ### What `P` gets -/

variable {p q : Profile} {sP sQ : PtpInstanceState} {P P' : Port Running A R C F}
  {Q : Port Running A' R' C' F'} {t1 t2 t3 t4 : Time} {id : UInt16}
  {responseData followUpData : List UInt8} {sent response followUp : PortEvent T}

/-- **What the messages of `Q` bring to `P`**: the whole nanoseconds of `t2` and `t3`. -/
theorem PeerExchange.parts (h : PeerExchange p q sP sQ P P' Q t2 t3 id responseData followUpData)
    (hsdo : sP.defaultDs.sdoId.InRange) (ht2 : t2.InWireRange) (ht3 : t3.InWireRange)
    (he : PeerEvents sP id t1 t4 responseData followUpData sent response followUp) :
    P'.core = { P.core with peerDelayState := .measuring id none none none none none } ∧
    ∃ source t2' t3', t2'.toInt = t2.toInt / 2 ^ 32 * 2 ^ 32 ∧
      t3'.toInt = t3.toInt / 2 ^ 32 * 2 ^ 32 ∧
      Slot.PeerDelayParts p P' id source t1 t2' (.ok t4) (.ok t3') sent response followUp := by
  obtain ⟨interval, duration, request, requestor, Q₁, Q₂, hmechanism, hrequest, hresponse,
    hfollowUp⟩ := h
  obtain ⟨s₁, rfl⟩ := he.sent
  obtain ⟨s₂, hs₂, rfl⟩ := he.response
  obtain ⟨s₃, hs₃, rfl⟩ := he.followUp
  -- the request
  rw [Port.handleDelayRequestTimer, Port.sendDelayRequest, hmechanism] at hrequest
  obtain ⟨⟨buffer, packet⟩, -, hduration⟩ := bind_eq_ok.mp hrequest
  obtain ⟨⟨duration', rng⟩, hduration, -⟩ := bind_eq_ok.mp hduration
  obtain ⟨P₁, id₁, request₁, message, body, hsent, hcore, hread, hbody, hrequester, hid, hcorrection,
    hpasses⟩ := Port.sendP2pDelayRequest_spec p P hsdo hduration
  obtain ⟨rfl, hactions⟩ := Prod.mk.inj (Except.ok.inj (hsent.symm.trans hrequest))
  obtain ⟨-, rfl, rfl⟩ : _ ∧ id₁ = id ∧ request₁ = request := by
    simpa [PortActionIterator.of] using hactions
  -- the response
  obtain ⟨hsdoQ, hdomainQ, hanswer⟩ := Port.handleEventReceive_pDelayReq hread hbody hresponse
  have hsdoQ' : sQ.defaultDs.sdoId.InRange := by
    rw [← hsdoQ, hpasses.sdoId]
    exact hsdo
  obtain ⟨Q₁', data₁, m₁, ts₁, hanswer', hQ, hread₁, hts₁, hbody₁, hsource₁, hid₁, htwo, hcorrection₁,
    hpasses₁⟩ := Q.handlePdelayReq_spec q hsdoQ' message.header ht2
  obtain ⟨rfl, hactions⟩ := Prod.mk.inj (Except.ok.inj (hanswer'.symm.trans hanswer))
  obtain ⟨⟨-, rfl⟩, rfl⟩ : (_ ∧ message.header.sourcePortIdentity = requestor) ∧
      data₁ = responseData := by
    simpa [PortActionIterator.of] using hactions
  -- the follow-up
  obtain ⟨Q₂', data₂, m₂, ts₂, htimed, hread₂, hts₂, hbody₂, hsource₂, hid₂, hcorrection₂, hpasses₂⟩ :=
    Q₁'.handlePdelayResponseTimestamp_spec q hsdoQ' id₁ message.header.sourcePortIdentity ht3
  obtain ⟨-, hactions⟩ := Prod.mk.inj (Except.ok.inj (htimed.symm.trans hfollowUp))
  obtain rfl : data₂ = followUpData := by simpa [PortActionIterator.of] using hactions
  -- `P` accepts both
  have haccepts : ∀ {m : Message} {s : PtpInstanceState}, m.header.Passes sQ.defaultDs →
      s.defaultDs = sP.defaultDs → m.header.Passes s.defaultDs := by
    intro m s hm hs
    refine ⟨hm.version, ?_, ?_⟩
    · rw [hm.sdoId, ← hsdoQ, hpasses.sdoId, hs]
    · rw [hm.domainNumber, ← hdomainQ, hpasses.domainNumber, hs]
  have hP : P₁.portIdentity = P.portIdentity := congrArg PortCore.portIdentity hcore
  have hsent₁ : (.sendTimestamp s₁ (.pDelayReq id₁) t1 : PortEvent T).PDelayReqSent
      m₁.header.sequenceId t1 := ⟨s₁, by rw [hid₁, hid]⟩
  have hreceived₁ : (.eventReceive s₂ data₁ t4 : PortEvent T).ReceivesAt m₁ t4 :=
    ⟨s₂, data₁, rfl, Port.parseAndFilter_of_passes hread₁ (haccepts hpasses₁ hs₂)⟩
  have hreceived₂ : (.generalReceive s₃ data₂ : PortEvent T).Receives m₂ :=
    .inr ⟨s₃, data₂, rfl, Port.parseAndFilter_of_passes hread₂ (haccepts hpasses₂ hs₃)⟩
  have hparts : Slot.PeerDelayParts p P₁ _ _ _ _ _ _ _ _ _ :=
    Slot.peerDelayParts_of_messages hsent₁ hreceived₁ hbody₁ htwo hreceived₂ hbody₂
      (by rw [hid₂, hid₁, hid]) (by rw [hsource₂, hsource₁, hQ]) (by rw [hP, hrequester])
      (by rw [hP, hrequester])
  have hzero₁ : (Duration.ofTimeInterval m₁.header.correctionField).toInt = 0 := by
    rw [Duration.toInt_ofTimeInterval, hcorrection₁, hcorrection, Int.zero_mul]
  have hzero₂ : (Duration.ofTimeInterval m₂.header.correctionField).toInt = 0 := by
    rw [Duration.toInt_ofTimeInterval, hcorrection₂, Int.zero_mul]
  rw [hid₁, hid, Time.sub_zero p t4 hzero₁, Time.add_zero p _ hzero₂] at hparts
  obtain ⟨ts₁', hts₁', -, hint₁⟩ := WireTimestamp.ofTime_spec q ht2
  obtain ⟨ts₂', hts₂', -, hint₂⟩ := WireTimestamp.ofTime_spec q ht3
  obtain rfl := Except.ok.inj (hts₁'.symm.trans hts₁)
  obtain rfl := Except.ok.inj (hts₂'.symm.trans hts₂)
  exact ⟨hcore, _, _, _, hint₁, hint₂, hparts⟩

theorem PeerExchange.exact_iff
    (h : PeerExchange p q sP sQ P P' Q t2 t3 id responseData followUpData)
    (hinc : P.core.Incomplete) (hsdo : sP.defaultDs.sdoId.InRange) (ht2 : t2.InWireRange)
    (ht3 : t3.InWireRange)
    (he : PeerEvents sP id t1 t4 responseData followUpData sent response followUp) :
    PeerDelayExact p P' [sent, response, followUp] t1 t2 t3 t4 ↔
      PeerDelayCondition p t1 t2 t3 t4 := by
  obtain ⟨hcore, source, t2', t3', h2, h3, hparts⟩ := h.parts hsdo ht2 ht3 he
  have hinc' : P'.core.Incomplete := by
    rw [hcore]
    exact hinc.withPeerDelay rfl
  have hpeer : P'.peerDelayState = .measuring id none none none none none :=
    congrArg PortCore.peerDelayState hcore
  rw [hparts.exact_iff hinc' hpeer t2 t3 t4]
  exact peerDelay_exact_iff p h2 h3 ht2 ht3

/-- **When the peer delay is exact**: for every port `P` and every exchange with another port, with the
events at `P` in every order. -/
theorem peer_delay_exact_iff (hP : Slot.Reachable T p (.running P))
    (h : PeerExchange p q sP sQ P P' Q t2 t3 id responseData followUpData)
    (hsdo : sP.defaultDs.sdoId.InRange) (ht2 : t2.InWireRange) (ht3 : t3.InWireRange)
    (he : PeerEvents sP id t1 t4 responseData followUpData sent response followUp) :
    PeerDelayExact p P' [sent, response, followUp] t1 t2 t3 t4 ↔
      PeerDelayCondition p t1 t2 t3 t4 :=
  h.exact_iff hP.incomplete hsdo ht2 ht3 he

omit [Clock C] in
/-- **There is such an exchange** between any two ports of one domain. -/
theorem exists_peerExchange (p q : Profile) {interval : Interval} {duration : CoreDuration} {rng : R}
    (hmechanism : P.config.delayMechanism = .p2p interval)
    (hduration : Port.requestDuration interval P.rng = .ok (duration, rng))
    (hsdo : sP.defaultDs.sdoId.InRange) (hsame : sQ.defaultDs.sdoId = sP.defaultDs.sdoId)
    (hdomain : sQ.defaultDs.domainNumber = sP.defaultDs.domainNumber)
    (ht2 : t2.InWireRange) (ht3 : t3.InWireRange) (Q : Port Running A' R' C' F') :
    ∃ P' id responseData followUpData,
      PeerExchange p q sP sQ P P' Q t2 t3 id responseData followUpData := by
  have hsdoQ : sQ.defaultDs.sdoId.InRange := by
    rw [hsame]
    exact hsdo
  obtain ⟨P', id, request, message, body, hsent, -, hread, hbody, -, hid, -, hpasses⟩ :=
    Port.sendP2pDelayRequest_spec p P hsdo hduration
  have hparse : Port.parseAndFilter sQ request = .ok (some message) :=
    Port.parseAndFilter_of_passes hread ⟨hpasses.version, hpasses.sdoId.trans hsame.symm,
      hpasses.domainNumber.trans hdomain.symm⟩
  obtain ⟨Q₁, response, -, -, hanswer, -⟩ := Q.handlePdelayReq_spec q hsdoQ message.header ht2
  obtain ⟨Q₂, followUp, -, -, htimed, -⟩ := Q₁.handlePdelayResponseTimestamp_spec q hsdoQ id
    message.header.sourcePortIdentity ht3
  rw [hid] at hanswer
  refine ⟨P', id, response, followUp, interval, duration, request, _, Q₁, Q₂, hmechanism, ?_, ?_,
    htimed⟩
  · rw [Port.handleDelayRequestTimer, Port.sendDelayRequest, hmechanism]
    exact hsent
  · rw [Port.handleEventReceive, hparse, ok_bind]
    simp only [Port.handleEventMessage, hbody]
    rw [hanswer]
    rfl

end Exchange

/-! ### Two exchanges -/

/-- A running port that measures peer delays. -/
def runsP2p : TestSlot → Bool
  | .running port => decide (port.config.delayMechanism = .p2p ⟨1⟩)
  | .inBmca _ => false

theorem testSdoId_inRange : (testSystem testInstanceConfig).state.defaultDs.sdoId.InRange :=
  testInstanceConfig_sdoId_inRange

/-- An exchange of two such ports, when the answer is sent at `t3`. -/
theorem exists_testExchange (p : Profile) {t2 t3 : Time} (ht2 : t2.InWireRange) (ht3 : t3.InWireRange) :
    ∃ (P P' : TestPort) (id : UInt16) (responseData followUpData : List UInt8),
      Slot.Reachable NoForwardedTLVs .debug (.running P) ∧
      PeerExchange p p (testSystem testInstanceConfig).state (testSystem testInstanceConfig).state
        P P' (testPort testParent .listening) t2 t3 id responseData followUpData := by
  have hrun : TestSlot.endsWith { testPortConfig with delayMechanism := .p2p ⟨1⟩ } [.endBmca]
      runsP2p = true := by
    decide +kernel
  obtain ⟨slot, hreach, hcheck⟩ := TestSlot.reachable_of_endsWith hrun
  cases slot with
  | inBmca port => cases hcheck
  | running port =>
    have hmechanism := of_decide_eq_true hcheck
    have hsome : (Port.requestDuration ⟨1⟩ port.rng).toOption.isSome = true :=
      (by decide +kernel : (Port.requestDuration ⟨1⟩ (⟨⟩ : TestRng)).toOption.isSome = true)
    obtain ⟨⟨duration, rng⟩, hduration⟩ := Option.isSome_iff_exists.mp hsome
    obtain ⟨P', id, responseData, followUpData, hexchange⟩ := exists_peerExchange p p hmechanism
      (eq_ok_of_toOption hduration) testSdoId_inRange rfl rfl ht2 ht3 (testPort testParent .listening)
    exact ⟨port, P', id, responseData, followUpData, hreach, hexchange⟩

/-- The times of the exchange, when the answer is sent at `t3`: the events that `P` gets, with its
request sent at `t1` and the response arriving at `t4`. -/
def testPeerEvents (id : UInt16) (t1 t4 : Time) (responseData followUpData : List UInt8) :
    List (PortEvent NoForwardedTLVs) :=
  let s := (testSystem testInstanceConfig).state
  [.sendTimestamp s (.pDelayReq id) t1, .eventReceive s responseData t4,
    .generalReceive s followUpData]

theorem peerEvents_test (id : UInt16) (t1 t4 : Time) (responseData followUpData : List UInt8) :
    let s := (testSystem testInstanceConfig).state
    PeerEvents s id t1 t4 responseData followUpData
      (.sendTimestamp s (.pDelayReq id) t1 : PortEvent NoForwardedTLVs)
      (.eventReceive s responseData t4) (.generalReceive s followUpData) :=
  ⟨⟨_, rfl⟩, ⟨_, rfl, rfl⟩, _, rfl, rfl⟩

/-- The delay of an exchange on whole nanoseconds is exact. -/
theorem peer_delay_exact_whole_nanoseconds :
    ∃ (P P' : TestPort) (id : UInt16) (responseData followUpData : List UInt8),
      PeerExchange .debug .debug (testSystem testInstanceConfig).state
        (testSystem testInstanceConfig).state P P' (testPort testParent .listening)
        (Time.ofNanos 2000 0) (Time.ofNanos 3000 0) id responseData followUpData ∧
      PeerDelayExact .debug P'
        (testPeerEvents id (Time.ofNanos 1000 7) (Time.ofNanos 4000 0) responseData followUpData)
        (Time.ofNanos 1000 7) (Time.ofNanos 2000 0) (Time.ofNanos 3000 0) (Time.ofNanos 4000 0) := by
  have ht2 : (Time.ofNanos 2000 0).InWireRange := by
    unfold Time.InWireRange
    decide +kernel
  have ht3 : (Time.ofNanos 3000 0).InWireRange := by
    unfold Time.InWireRange
    decide +kernel
  obtain ⟨P, P', id, responseData, followUpData, hreach, hexchange⟩ :=
    exists_testExchange .debug ht2 ht3
  refine ⟨P, P', id, responseData, followUpData, hexchange, ?_⟩
  exact (peer_delay_exact_iff hreach hexchange testSdoId_inRange ht2 ht3
    (peerEvents_test id _ _ _ _)).mpr
    ⟨fun _ => by decide +kernel, by decide +kernel, by decide +kernel⟩

/-- **An answer that is sent half a nanosecond later**: the delay that is reported is a quarter of a
nanosecond too long. -/
theorem peer_delay_inexact :
    ∃ (P P' : TestPort) (id : UInt16) (responseData followUpData : List UInt8),
      Slot.Reachable NoForwardedTLVs .debug (.running P) ∧
      PeerExchange .debug .debug (testSystem testInstanceConfig).state
        (testSystem testInstanceConfig).state P P' (testPort testParent .listening)
        (Time.ofNanos 2000 0) (Time.ofNanos 3000 (2 ^ 31)) id responseData followUpData ∧
      (Time.ofNanos 2000 0).InWireRange ∧ (Time.ofNanos 3000 (2 ^ 31)).InWireRange ∧
      ¬ PeerDelayExact .debug P'
        (testPeerEvents id (Time.ofNanos 1000 0) (Time.ofNanos 4000 0) responseData followUpData)
        (Time.ofNanos 1000 0) (Time.ofNanos 2000 0) (Time.ofNanos 3000 (2 ^ 31))
        (Time.ofNanos 4000 0) := by
  have ht2 : (Time.ofNanos 2000 0).InWireRange := by
    unfold Time.InWireRange
    decide +kernel
  have ht3 : (Time.ofNanos 3000 (2 ^ 31)).InWireRange := by
    unfold Time.InWireRange
    decide +kernel
  obtain ⟨P, P', id, responseData, followUpData, hreach, hexchange⟩ :=
    exists_testExchange .debug ht2 ht3
  refine ⟨P, P', id, responseData, followUpData, hreach, hexchange, ht2, ht3, fun hexact => ?_⟩
  have hsubnano := ((hexchange.exact_iff hreach.incomplete testSdoId_inRange ht2 ht3
    (peerEvents_test id _ _ _ _)).mp hexact).subnano
  exact absurd hsubnano (by decide +kernel)

end Statime
