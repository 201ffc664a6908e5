import Statime.Port.Steering
import Statime.Port.TimeRanges

/-!
# The servo of a port

The filter of a port with its clock, the mean delay and the measurements so far.  Few calls touch it.

* `Servo.Settles`: a change of the port state replaces the filter, and a recommended master sets the
  properties of the clock.
* `Port.Hands`: a complete exchange is handed to the filter.
* `Slot.step_servo`: what a step of a port does to the servo.
-/

namespace Statime

open Rust

structure Servo (C F : Type) where
  filter : F
  clock : C
  meanDelay : Option Duration
  handed : List Measurement

namespace Servo

variable {C F : Type} [Clock C] [Filter F]

/-- The filter gets a measurement. -/
def measure (servo : Servo C F) (m : Measurement) : Servo C F :=
  let (filter, clock, update) := Filter.measurement servo.filter m servo.clock
  { filter, clock, meanDelay := update.meanDelay.or servo.meanDelay, handed := servo.handed ++ [m] }

/-- The filter asked to be updated. -/
def update (servo : Servo C F) : Servo C F :=
  let (filter, clock, update) := Filter.update servo.filter servo.clock
  { servo with filter, clock, meanDelay := update.meanDelay.or servo.meanDelay }

/-- What a new state of the port does. -/
inductive Settles : Servo C F → Servo C F → Prop
  | refl (servo : Servo C F) : Settles servo servo
  | demobilized {servo servo' : Servo C F} (config : Filter.Config F) : Settles servo servo' →
    Settles servo { servo' with
      filter := Filter.new config
      clock := Filter.demobilize servo'.filter servo'.clock }
  | properties {servo servo' : Servo C F} (properties : TimePropertiesDS) : Settles servo servo' →
    Settles servo { servo' with clock := (Clock.setProperties servo'.clock properties).1 }

variable {servo servo' : Servo C F}

theorem Settles.handed (h : servo.Settles servo') : servo'.handed = servo.handed := by
  induction h with
  | refl => rfl
  | demobilized _ _ ih | properties _ _ ih => exact ih

theorem Settles.meanDelay (h : servo.Settles servo') : servo'.meanDelay = servo.meanDelay := by
  induction h with
  | refl => rfl
  | demobilized _ _ ih | properties _ _ ih => exact ih

end Servo

namespace Port

variable {L L' A R C F T : Type} [Filter F]

def servo (port : Port L A R C F) : Servo C F where
  filter := port.filter
  clock := port.clock
  meanDelay := port.meanDelay
  handed := port.handed

/-- A handler that does not steer leaves the servo alone. -/
theorem DoesNotSteer.servo_eq {α : Type}
    {handler : Port L A R C F → Except Panic (Port L A R C F × α)} (hsteer : DoesNotSteer handler)
    {port : Port L A R C F} {r : Port L A R C F × α} (h : handler port = .ok r) :
    r.1.servo = port.servo := by
  have hself := hsteer port port.steering Iff.rfl
  rw [show port.withSteering port.steering = port from rfl, h] at hself
  have hsame : r.1 = r.1.withSteering port.steering := (Prod.mk.inj (Except.ok.inj hself)).1
  rw [hsame]
  rfl

variable [AcceptableMasterList A] [Clock C] [Rng R]

/-- **The port hands a measurement to its filter.**  A faulty port that measures a peer delay gets a new
filter before. -/
structure Hands (p : Profile) (port port' : Port Running A R C F) (m : Measurement) : Prop where
  servo : ∃ servo, port.servo.Settles servo ∧ port'.servo = servo.measure m
  offset : ∀ raw, m.rawSyncOffset = some raw → syncOffset p raw port.meanDelay = .ok m.offset
  delay : ∀ raw state, m.rawDelayOffset = some raw → port.portState = .slave state →
    linkDelay p raw state.lastRawSyncOffset = .ok m.delay

omit [AcceptableMasterList A] [Rng R] in
theorem Hands.handed {p : Profile} {port port' : Port Running A R C F} {m : Measurement}
    (h : port.Hands p port' m) : port'.handed = port.handed ++ [m] := by
  obtain ⟨servo, hsettles, hservo⟩ := h.servo
  have hhanded : port'.handed = servo.handed ++ [m] := congrArg Servo.handed hservo
  rw [hhanded, hsettles.handed]
  rfl

section Measurements

variable {p : Profile} {port port' : Port Running A R C F} {actions : PortActionIterator}
  {s s' : PtpInstanceState}

omit [AcceptableMasterList A] [Rng R]

theorem setForcedPortState_settles {L : Type} (port : Port L A R C F) (state : PortState) :
    port.servo.Settles (port.setForcedPortState state).servo := by
  unfold setForcedPortState
  split
  · exact .demobilized _ (.refl _)
  · exact .refl _

/-- **A look for a complete exchange.** -/
theorem handleTimeMeasurement_hands (h : port.handleTimeMeasurement p = .ok (port', actions)) :
    port' = port ∨ ∃ m, port.Hands p port' m := by
  obtain ⟨⟨measurement, port₁⟩, hextract, h⟩ := bind_eq_ok.mp h
  unfold extractMeasurement at hextract
  split at hextract
  · rename_i id responder t1 t2 t3 t4 _
    obtain ⟨delay, -, hextract⟩ := bind_eq_ok.mp hextract
    obtain ⟨rfl, hport₁⟩ := Prod.mk.inj (Except.ok.inj hextract)
    obtain ⟨rfl, -⟩ := Prod.mk.inj (Except.ok.inj h)
    refine Or.inr ⟨_, ⟨port₁.servo, ?_, rfl⟩, fun raw hraw => (nomatch hraw),
      fun raw state hraw => (nomatch hraw)⟩
    rw [← hport₁]
    split
    · exact setForcedPortState_settles (port.withPeerDelayState (.postMeasurement id responder)) _
    · exact .refl _
  · split at hextract
    · rename_i state hstate
      unfold extractSlaveMeasurement at hextract
      split at hextract
      · obtain ⟨raw, -, hextract⟩ := bind_eq_ok.mp hextract
        obtain ⟨offset, hoffset, hextract⟩ := bind_eq_ok.mp hextract
        obtain ⟨rfl, rfl⟩ := Prod.mk.inj (Except.ok.inj hextract)
        obtain ⟨rfl, -⟩ := Prod.mk.inj (Except.ok.inj h)
        refine Or.inr ⟨_, ⟨port.servo, .refl _, rfl⟩, fun raw' hraw' => ?_,
          fun raw' state' hraw' => (nomatch hraw')⟩
        obtain rfl := Option.some.inj hraw'
        exact hoffset
      · split at hextract
        · obtain ⟨raw, -, hextract⟩ := bind_eq_ok.mp hextract
          obtain ⟨delay, hdelay, hextract⟩ := bind_eq_ok.mp hextract
          obtain ⟨rfl, rfl⟩ := Prod.mk.inj (Except.ok.inj hextract)
          obtain ⟨rfl, -⟩ := Prod.mk.inj (Except.ok.inj h)
          refine Or.inr ⟨_, ⟨port.servo, .refl _, rfl⟩, fun raw' hraw' => (nomatch hraw'),
            fun raw' state' hraw' hstate' => ?_⟩
          obtain rfl := Option.some.inj hraw'
          obtain rfl := PortState.slave.inj (hstate.symm.trans hstate')
          exact hdelay
        · obtain ⟨rfl, rfl⟩ := Prod.mk.inj (Except.ok.inj hextract)
          obtain ⟨rfl, -⟩ := Prod.mk.inj (Except.ok.inj h)
          exact Or.inl rfl
    · obtain ⟨rfl, rfl⟩ := Prod.mk.inj (Except.ok.inj hextract)
      obtain ⟨rfl, -⟩ := Prod.mk.inj (Except.ok.inj h)
      exact Or.inl rfl

/-- What an event does to the servo of a running port. -/
def Serves (p : Profile) (port port' : Port Running A R C F) : Prop :=
  port.servo.Settles port'.servo ∨ ∃ m, port.Hands p port' m

theorem serves_of_servo_eq (h : port'.servo = port.servo) : port.Serves p port' := by
  left
  rw [h]
  exact .refl _

theorem serves_of_same {actions₁ : PortActionIterator}
    (h : (Except.ok (port, actions₁) : Except Panic _) = .ok (port', actions)) :
    port.Serves p port' := by
  rw [← (Prod.mk.inj (Except.ok.inj h)).1]
  exact serves_of_servo_eq rfl

theorem serves_of_forced {state : PortState} {actions₁ : PortActionIterator}
    (h : (Except.ok (port.setForcedPortState state, actions₁) : Except Panic _) =
      .ok (port', actions)) : port.Serves p port' := by
  rw [← (Prod.mk.inj (Except.ok.inj h)).1]
  exact Or.inl (port.setForcedPortState_settles state)

/-- The handlers of a slave keep the last raw offset. -/
theorem handleTimeMeasurement_serves_slave {state state₁ : SlaveState}
    (hstate : port.portState = .slave state)
    (hlast : state₁.lastRawSyncOffset = state.lastRawSyncOffset)
    (h : (port.withSlaveState state₁).handleTimeMeasurement p = .ok (port', actions)) :
    port.Serves p port' := by
  rcases handleTimeMeasurement_hands h with rfl | ⟨m, hm⟩
  · exact serves_of_servo_eq rfl
  · refine Or.inr ⟨m, hm.servo, hm.offset, fun raw state' hraw hstate' => ?_⟩
    obtain rfl := PortState.slave.inj (hstate.symm.trans hstate')
    rw [← hlast]
    exact hm.delay raw state₁ hraw rfl

theorem handleTimeMeasurement_serves_peer {exchange : PeerDelayState}
    (h : (port.withPeerDelayState exchange).handleTimeMeasurement p = .ok (port', actions)) :
    port.Serves p port' := by
  rcases handleTimeMeasurement_hands h with rfl | ⟨m, hm⟩
  · exact serves_of_servo_eq rfl
  · exact Or.inr ⟨m, hm.servo, hm.offset, hm.delay⟩

theorem storeSlave_serves {stored : SlaveState → Except Panic (Option (SlaveState × Bool))}
    (hstored : ∀ state state₁ began, stored state = .ok (some (state₁, began)) →
      state₁.lastRawSyncOffset = state.lastRawSyncOffset)
    (h : port.storeSlave p stored = .ok (port', actions)) : port.Serves p port' := by
  unfold storeSlave at h
  split at h
  · rename_i state hstate
    obtain ⟨result, hresult, h⟩ := bind_eq_ok.mp h
    split at h
    · exact handleTimeMeasurement_serves_slave hstate (hstored _ _ _ hresult) h
    · obtain ⟨rfl, -⟩ := Prod.mk.inj (Except.ok.inj h)
      exact serves_of_servo_eq rfl
    · obtain ⟨rfl, -⟩ := Prod.mk.inj (Except.ok.inj h)
      exact serves_of_servo_eq rfl
  · obtain ⟨rfl, -⟩ := Prod.mk.inj (Except.ok.inj h)
    exact serves_of_servo_eq rfl

/-! ### The handlers -/

theorem handleSync_serves {header : Header} {message : SyncMessage} {recvTime : Time}
    (h : port.handleSync p header message recvTime = .ok (port', actions)) :
    port.Serves p port' := by
  rw [handleSync_eq] at h
  refine storeSlave_serves (fun state state₁ began hstored => ?_) h
  unfold SlaveState.storeSync at hstored
  split at hstored
  · cases hstored
  · obtain ⟨arrived, -, hstored⟩ := bind_eq_ok.mp hstored
    obtain ⟨taken, -, htaken⟩ := Option.map_eq_some_iff.mp (Except.ok.inj hstored)
    rw [← (Prod.mk.inj htaken).1]

theorem handleFollowUp_serves {header : Header} {message : FollowUpMessage}
    (h : port.handleFollowUp p header message = .ok (port', actions)) : port.Serves p port' := by
  rw [handleFollowUp_eq] at h
  refine storeSlave_serves (fun state state₁ began hstored => ?_) h
  unfold SlaveState.storeFollowUp at hstored
  split at hstored
  · cases hstored
  · obtain ⟨sent, -, hstored⟩ := bind_eq_ok.mp hstored
    replace hstored := Except.ok.inj hstored
    split at hstored
    · cases hstored
    · rw [← (Prod.mk.inj (Option.some.inj hstored)).1]

theorem handleDelayTimestamp_serves {id : UInt16} {timestamp : Time}
    (h : port.handleDelayTimestamp p id timestamp = .ok (port', actions)) : port.Serves p port' := by
  rw [handleDelayTimestamp_eq] at h
  refine storeSlave_serves (fun state state₁ began hstored => ?_) h
  unfold SlaveState.storeDelayTimestamp at hstored
  split at hstored
  · replace hstored := Except.ok.inj hstored
    split at hstored
    · rw [← (Prod.mk.inj (Option.some.inj hstored)).1]
    · cases hstored
  · cases hstored

theorem handleDelayResp_serves {header : Header} {message : DelayRespMessage}
    (h : port.handleDelayResp p header message = .ok (port', actions)) : port.Serves p port' := by
  rw [handleDelayResp_eq] at h
  refine storeSlave_serves (fun state state₁ began hstored => ?_) h
  unfold SlaveState.storeDelayResp at hstored
  split at hstored
  · cases hstored
  · split at hstored
    · split at hstored
      · obtain ⟨recvTime, -, hstored⟩ := bind_eq_ok.mp hstored
        rw [← (Prod.mk.inj (Option.some.inj (Except.ok.inj hstored))).1]
      · cases hstored
    · cases hstored

theorem handlePdelayTimestamp_serves {id : UInt16} {timestamp : Time}
    (h : port.handlePdelayTimestamp p id timestamp = .ok (port', actions)) : port.Serves p port' := by
  unfold handlePdelayTimestamp at h
  split at h
  · split at h
    · split at h
      · exact serves_of_same h
      · exact handleTimeMeasurement_serves_peer h
    · exact serves_of_same h
  · exact serves_of_same h

theorem handleAnswer_serves {header : Header} {requesting : PortIdentity}
    {lacks : PeerDelayState → Bool} {stored : Except Panic PeerDelayState}
    (h : port.handleAnswer p header requesting lacks stored = .ok (port', actions)) :
    port.Serves p port' := by
  unfold handleAnswer at h
  split at h
  · exact serves_of_same h
  · split at h
    · split at h
      · exact serves_of_forced h
      · exact serves_of_same h
    · split at h
      · split at h
        · exact serves_of_forced h
        · split at h
          · obtain ⟨exchange, -, h⟩ := bind_eq_ok.mp h
            exact handleTimeMeasurement_serves_peer h
          · exact serves_of_same h
      · exact serves_of_same h
    · exact serves_of_same h

omit [Clock C] in
theorem sendE2eDelayRequest_servo [Rng R] {interval : Interval}
    (h : port.sendE2eDelayRequest p s interval = .ok (port', actions)) :
    port'.servo = port.servo := by
  unfold sendE2eDelayRequest at h
  split at h
  · obtain ⟨⟨buffer, data⟩, -, h⟩ := bind_eq_ok.mp h
    obtain ⟨⟨duration, rng⟩, -, h⟩ := bind_eq_ok.mp h
    rw [← (Prod.mk.inj (Except.ok.inj h)).1]
    rfl
  · rw [← (Prod.mk.inj (Except.ok.inj h)).1]

omit [Clock C] in
theorem sendDelayRequest_servo [Rng R] (h : port.sendDelayRequest p s = .ok (port', actions)) :
    port'.servo = port.servo := by
  unfold sendDelayRequest at h
  split at h
  · exact sendE2eDelayRequest_servo h
  · exact (sendP2pDelayRequest_doesNotSteer s _).servo_eq h

theorem handleAnnounceReceiptTimer_settles [Rng R]
    (h : port.handleAnnounceReceiptTimer s = .ok (port', actions)) :
    port.servo.Settles port'.servo := by
  have hforced : ∀ state, port.servo.Settles
      (if port.portState = state then port else port.setForcedPortState state).servo := by
    intro state
    split
    · exact .refl _
    · exact port.setForcedPortState_settles state
  unfold handleAnnounceReceiptTimer at h
  split at h
  · obtain ⟨⟨duration, rng⟩, -, h⟩ := bind_eq_ok.mp h
    rw [← (Prod.mk.inj (Except.ok.inj h)).1]
    exact hforced .listening
  · rw [← (Prod.mk.inj (Except.ok.inj h)).1]
    exact hforced .master

theorem checkMultiport_settles (port : Port Running A R C F) (message : Message) :
    port.servo.Settles (port.checkMultiport message).servo := by
  unfold checkMultiport
  split
  · exact setForcedPortState_settles { port with multiportDisable := some Duration.zero } .passive
  · exact .refl _

theorem handleAnnounce_settles [AcceptableMasterList A] [Rng R] {message : Message}
    {announce : AnnounceMessage}
    (h : port.handleAnnounce p s message announce = .ok (port', s', actions)) :
    port.servo.Settles port'.servo := by
  obtain ⟨⟨s₁, loop⟩, -, h⟩ := bind_eq_ok.mp h
  dsimp only at h
  split at h
  · rw [← (Prod.mk.inj (Except.ok.inj h)).1]
    exact .refl _
  · obtain ⟨⟨port₁, actions₁⟩, hport₁, h⟩ := bind_eq_ok.mp h
    rw [← (Prod.mk.inj (Except.ok.inj h)).1]
    obtain ⟨⟨bmca, stored⟩, -, hport₁⟩ := bind_eq_ok.mp hport₁
    dsimp only at hport₁
    split at hport₁
    · obtain ⟨⟨duration, rng⟩, -, hport₁⟩ := bind_eq_ok.mp hport₁
      rw [← (Prod.mk.inj (Except.ok.inj hport₁)).1]
      exact checkMultiport_settles { port with bmca } message
    · rw [← (Prod.mk.inj (Except.ok.inj hport₁)).1]
      exact .refl _

end Measurements

/-! ### Recommended states -/

section Recommended

variable {p : Profile} {port port' : Port InBmca A R C F} {s s' : PtpInstanceState}

omit [AcceptableMasterList A]

theorem recommendSlave_settles {announceMessage : AnnounceMessage}
    (h : port.recommendSlave p announceMessage = .ok port') :
    port.servo.Settles port'.servo := by
  obtain ⟨-, -, h⟩ := bind_eq_ok.mp h
  dsimp only at h
  split at h
  · obtain ⟨⟨duration, rng⟩, -, h⟩ := bind_eq_ok.mp h
    rw [← Except.ok.inj h]
    exact port.setForcedPortState_settles _
  · rw [← Except.ok.inj h]
    exact .refl _

theorem recommendMaster_settles {slaveOnly : Bool} (h : port.recommendMaster slaveOnly = .ok port') :
    port.servo.Settles port'.servo := by
  unfold recommendMaster at h
  split at h
  · split at h
    case h_1 | h_2 =>
      rw [← Except.ok.inj h]
      exact .refl _
    all_goals
      obtain ⟨⟨duration, rng⟩, -, h⟩ := bind_eq_ok.mp h
      rw [← Except.ok.inj h]
      exact port.setForcedPortState_settles .listening
  · split at h
    · split at h
      · rw [← Except.ok.inj h]
        exact .refl _
      · rw [← Except.ok.inj h]
        exact port.setForcedPortState_settles .passive
    · split at h
      case h_4 | h_5 =>
        rw [← Except.ok.inj h]
        exact .refl _
      all_goals
        rw [← Except.ok.inj h]
        exact port.setForcedPortState_settles .master

omit [Rng R] in
theorem recommendPassive_settles (port : Port InBmca A R C F) :
    port.servo.Settles port.recommendPassive.servo := by
  unfold recommendPassive
  split
  case h_4 | h_5 => exact .refl _
  all_goals exact port.setForcedPortState_settles .passive

theorem setRecommendedState_settles {state : RecommendedState}
    (h : port.setRecommendedState p s state = .ok (port', s')) :
    port.servo.Settles port'.servo := by
  obtain ⟨port₁, hport₁, h⟩ := bind_eq_ok.mp h
  have hsettles : port.servo.Settles port₁.servo := by
    unfold setRecommendedPortState at hport₁
    split at hport₁
    · exact recommendSlave_settles hport₁
    case h_5 | h_6 =>
      rw [← Except.ok.inj hport₁]
      exact recommendPassive_settles port
    all_goals exact recommendMaster_settles hport₁
  cases state with
  | s1 announceMessage =>
    obtain ⟨-, -, h⟩ := bind_eq_ok.mp h
    obtain ⟨s₁, -, h⟩ := bind_eq_ok.mp h
    rw [← (Prod.mk.inj (Except.ok.inj h)).1]
    exact .properties _ hsettles
  | m1 _ | m2 _ =>
    obtain ⟨-, -, h⟩ := bind_eq_ok.mp h
    rw [← (Prod.mk.inj (Except.ok.inj h)).1]
    exact hsettles
  | m3 _ | p1 _ | p2 _ =>
    rw [← (Prod.mk.inj (Except.ok.inj h)).1]
    exact hsettles

end Recommended

end Port

/-! ### The steps of a port -/

namespace Slot

variable {A R C F T : Type} [AcceptableMasterList A] [Clock C] [Filter F] [Rng R]
  [ForwardedTLVProvider T] {p : Profile} {slot slot' : Slot A R C F} {e : PortEvent T}
  {actions : PortActionIterator}

def servo : Slot A R C F → Servo C F
  | running port => port.servo
  | inBmca port => port.servo

/-- What a step does. -/
inductive Serves (p : Profile) (e : PortEvent T) : Slot A R C F → Slot A R C F → Prop
  | settles {slot slot' : Slot A R C F} : slot.servo.Settles slot'.servo → Serves p e slot slot'
  | updates {slot slot' : Slot A R C F} : e = .filterUpdateTimer →
    slot'.servo = slot.servo.update → Serves p e slot slot'
  | measures {port port' : Port Running A R C F} {m : Measurement} : ¬ e.WithoutTimes →
    port.Hands p port' m → Serves p e (running port) (running port')

omit [AcceptableMasterList A] [Rng R] [ForwardedTLVProvider T] in
theorem serves_of_port {port port' : Port Running A R C F} (he : ¬ e.WithoutTimes)
    (h : port.Serves p port') : Serves p e (running port) (running port') := by
  rcases h with hsettles | ⟨m, hm⟩
  · exact .settles hsettles
  · exact .measures he hm

omit [AcceptableMasterList A] [Rng R] [ForwardedTLVProvider T] in
/-- A call that leaves the servo alone. -/
theorem serves_of_servo_eq (h : slot'.servo = slot.servo) : Serves p e slot slot' := by
  refine .settles ?_
  rw [h]
  exact .refl _

omit [ForwardedTLVProvider T] in
theorem handleGeneralInternal_serves {port port' : Port Running A R C F} {message : Message}
    {s s' : PtpInstanceState} (hm : e.Receives message)
    (h : port.handleGeneralInternal p s message = .ok (port', s', actions)) :
    Serves p e (running port) (running port') := by
  have he : message.body.isOfExchange = true → ¬ e.WithoutTimes :=
    fun hbody hwithout => hwithout.not_receives hbody hm
  unfold Port.handleGeneralInternal at h
  split at h
  · exact .settles (Port.handleAnnounce_settles h)
  · rename_i body hbody
    obtain ⟨⟨port₁, actions₁⟩, hport₁, h⟩ := bind_eq_ok.mp h
    obtain ⟨rfl, -⟩ := Prod.mk.inj (Except.ok.inj h)
    exact serves_of_port (he (by rw [hbody]; rfl)) (Port.handleFollowUp_serves hport₁)
  · rename_i body hbody
    obtain ⟨⟨port₁, actions₁⟩, hport₁, h⟩ := bind_eq_ok.mp h
    obtain ⟨rfl, -⟩ := Prod.mk.inj (Except.ok.inj h)
    exact serves_of_port (he (by rw [hbody]; rfl)) (Port.handleDelayResp_serves hport₁)
  · rename_i body hbody
    obtain ⟨⟨port₁, actions₁⟩, hport₁, h⟩ := bind_eq_ok.mp h
    obtain ⟨rfl, -⟩ := Prod.mk.inj (Except.ok.inj h)
    rw [Port.handlePeerDelayResponseFollowUp_eq] at hport₁
    exact serves_of_port (he (by rw [hbody]; rfl)) (Port.handleAnswer_serves hport₁)
  all_goals
    obtain ⟨rfl, -⟩ := Prod.mk.inj (Except.ok.inj h)
    exact .settles (.refl _)

omit [ForwardedTLVProvider T] in
theorem handleEventMessage_serves {port port' : Port Running A R C F} {message : Message}
    {timestamp : Time} {s s' : PtpInstanceState} (hm : e.ReceivesAt message timestamp)
    (h : port.handleEventMessage p s message timestamp = .ok (port', s', actions)) :
    Serves p e (running port) (running port') := by
  have he : message.body.isOfExchange = true → ¬ e.WithoutTimes :=
    fun hbody hwithout => hwithout.not_receivesAt hbody hm
  unfold Port.handleEventMessage at h
  split at h
  case h_5 => exact handleGeneralInternal_serves (Or.inl ⟨timestamp, hm⟩) h
  all_goals
    rename_i hbody
    obtain ⟨⟨port₁, actions₁⟩, hport₁, h⟩ := bind_eq_ok.mp h
    obtain ⟨rfl, -⟩ := Prod.mk.inj (Except.ok.inj h)
  · exact serves_of_port (he (by rw [hbody]; rfl)) (Port.handleSync_serves hport₁)
  · exact serves_of_servo_eq ((Port.handleDelayReq_doesNotSteer p _ _).servo_eq hport₁)
  · exact serves_of_servo_eq ((Port.handlePdelayReq_doesNotSteer p s _ _).servo_eq hport₁)
  · rw [Port.handlePeerDelayResponse_eq] at hport₁
    exact serves_of_port (he (by rw [hbody]; rfl)) (Port.handleAnswer_serves hport₁)

/-- **What a step does to the servo.** -/
theorem step_serves (h : slot.step p e = .ok (slot', actions)) : Serves p e slot slot' := by
  unfold Slot.step at h
  split at h
  · rename_i port s data timestamp
    obtain ⟨port', s', rfl, hport⟩ := step_eventReceive (T := T) h
    rcases Port.handleEventReceive_cases hport with ⟨-, rfl, -, -⟩ | ⟨message, hparse, hport⟩
    · exact serves_of_servo_eq rfl
    · exact handleEventMessage_serves ⟨s, data, rfl, hparse⟩ hport
  · rename_i port s data
    obtain ⟨port', s', rfl, hport⟩ := step_generalReceive (T := T) h
    rcases Port.handleGeneralReceive_cases hport with ⟨-, rfl, -, -⟩ | ⟨message, hparse, hport⟩
    · exact serves_of_servo_eq rfl
    · exact handleGeneralInternal_serves (Or.inr ⟨s, data, rfl, hparse⟩) hport
  · rename_i port s context timestamp
    obtain ⟨⟨port', actions₁⟩, hport, h⟩ := bind_eq_ok.mp h
    obtain ⟨rfl, -⟩ := Prod.mk.inj (Except.ok.inj h)
    have hport := orPanic_eq_ok.mp hport
    cases context with
    | sync id =>
      exact serves_of_servo_eq ((Port.handleSyncTimestamp_doesNotSteer p s id _).servo_eq hport)
    | delayReq id =>
      exact serves_of_port (fun he => he.delayReqSent id timestamp ⟨s, rfl⟩)
        (Port.handleDelayTimestamp_serves hport)
    | pDelayReq id =>
      exact serves_of_port (fun he => he.pDelayReqSent id timestamp ⟨s, rfl⟩)
        (Port.handlePdelayTimestamp_serves hport)
    | pDelayResp id requestor =>
      exact serves_of_servo_eq
        ((Port.handlePdelayResponseTimestamp_doesNotSteer p s id requestor _).servo_eq hport)
  · obtain ⟨⟨port', provider, actions₁⟩, hport, h⟩ := bind_eq_ok.mp h
    obtain ⟨rfl, -⟩ := Prod.mk.inj (Except.ok.inj h)
    exact serves_of_servo_eq
      ((Port.sendAnnounce_doesNotSteer p _ _).servo_eq (orPanic_eq_ok.mp hport))
  · obtain ⟨⟨port', actions₁⟩, hport, h⟩ := bind_eq_ok.mp h
    obtain ⟨rfl, -⟩ := Prod.mk.inj (Except.ok.inj h)
    exact serves_of_servo_eq ((Port.sendSync_doesNotSteer p _).servo_eq (orPanic_eq_ok.mp hport))
  · obtain ⟨⟨port', actions₁⟩, hport, h⟩ := bind_eq_ok.mp h
    obtain ⟨rfl, -⟩ := Prod.mk.inj (Except.ok.inj h)
    exact serves_of_servo_eq (Port.sendDelayRequest_servo (orPanic_eq_ok.mp hport))
  · obtain ⟨⟨port', actions₁⟩, hport, h⟩ := bind_eq_ok.mp h
    obtain ⟨rfl, -⟩ := Prod.mk.inj (Except.ok.inj h)
    exact .settles (Port.handleAnnounceReceiptTimer_settles (orPanic_eq_ok.mp hport))
  · obtain ⟨rfl, -⟩ := Prod.mk.inj (Except.ok.inj h)
    exact .updates rfl rfl
  · obtain ⟨rfl, -⟩ := Prod.mk.inj (Except.ok.inj h)
    exact serves_of_servo_eq rfl
  · obtain ⟨rfl, -⟩ := Prod.mk.inj (Except.ok.inj h)
    exact serves_of_servo_eq rfl
  · obtain ⟨port', hport, h⟩ := bind_eq_ok.mp h
    obtain ⟨rfl, -⟩ := Prod.mk.inj (Except.ok.inj h)
    obtain ⟨⟨best, bmca⟩, -, hport⟩ := bind_eq_ok.mp (orPanic_eq_ok.mp hport)
    obtain rfl := Except.ok.inj hport
    exact serves_of_servo_eq rfl
  · obtain ⟨⟨port', s'⟩, hport, h⟩ := bind_eq_ok.mp h
    obtain ⟨rfl, -⟩ := Prod.mk.inj (Except.ok.inj h)
    exact .settles (Port.setRecommendedState_settles (orPanic_eq_ok.mp hport))
  · obtain ⟨port', hport, h⟩ := bind_eq_ok.mp h
    obtain ⟨rfl, -⟩ := Prod.mk.inj (Except.ok.inj h)
    obtain ⟨disable, -, hport⟩ := bind_eq_ok.mp (orPanic_eq_ok.mp hport)
    obtain ⟨bmca, -, hport⟩ := bind_eq_ok.mp hport
    obtain rfl := Except.ok.inj hport
    exact serves_of_servo_eq rfl
  · cases h

end Slot

end Statime
