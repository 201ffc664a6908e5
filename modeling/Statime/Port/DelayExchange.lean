import Statime.Port.Handle

/-!
# The delay response between two ports

A master answers a delay request with the time `t4` of its arrival, and the slave takes the
correction field off that time.  A timestamp has whole nanoseconds only, so the master puts the
rest of `t4` into the correction field: it is *added* there, and the slave *subtracts* it.

Times are counted in units of `2^-32` nanoseconds and correction fields in units of `2^-16`.

* `delayResp_spec`: the answer, and that it survives the wire.
* `storeDelayResp_spec`: the time that the slave stores.
* `delayRespExact_iff`: when that is `t4` minus the correction field of the request.
-/

namespace Statime

open Rust

/-- **The answer to a delay request** is a message in range. -/
theorem Message.delayResp_spec (p : Profile) {header : Header} (hheader : header.InRange)
    (portIdentity : PortIdentity) (interval : Interval) {t4 : Time} (ht4 : t4.InWireRange)
    (hc : header.correctionField.toInt + t4.toInt % 2 ^ 32 / 2 ^ 16 < 2 ^ 63) :
    ∃ message body, Message.delayResp p header portIdentity interval t4 = .ok message ∧
      message.InRange ∧ message.size = 54 ∧ message.body = .delayResp body ∧
      message.header.sourcePortIdentity = portIdentity ∧
      message.header.sequenceId = header.sequenceId ∧
      body.requestingPortIdentity = header.sourcePortIdentity ∧
      message.header.correctionField.toInt =
        header.correctionField.toInt + t4.toInt % 2 ^ 32 / 2 ^ 16 ∧
      (Time.ofWireTimestamp body.receiveTimestamp).toInt = t4.toInt / 2 ^ 32 * 2 ^ 32 := by
  obtain ⟨ts, hts, hrange, hint⟩ := WireTimestamp.ofTime_spec p ht4
  have hc' := header.correctionField.toInt_range
  have hfits : IFixed.fits 64 (header.correctionField.toInt + t4.toInt % 2 ^ 32 / 2 ^ 16) = true :=
    decide_eq_true ⟨by omega, by omega⟩
  have hadd : header.correctionField.inner.add p t4.subnano.inner =
      .ok ⟨BitVec.ofInt 64 (header.correctionField.toInt + t4.toInt % 2 ^ 32 / 2 ^ 16)⟩ := by
    rw [← TimeInterval.toInt_subnano] at hfits ⊢
    exact IFixed.wrap_of_fits p hfits
  rw [Message.delayResp, hadd, ok_bind, hts, ok_bind, pure_eq_ok]
  refine ⟨_, _, rfl, ?_, rfl, rfl, rfl, rfl, rfl, ?_, hint⟩
  · refine ⟨⟨hheader.sdoId, hheader.version⟩, hrange, ⟨⟨[]⟩, rfl⟩, ?_⟩
    exact (by decide : 54 ≤ 65535)
  · exact IFixed.toInt_ofInt (by decide) hfits

namespace Port

variable {A R C F : Type} [Filter F]

/-- **A master answers**, and the packet reads back as the answer. -/
theorem handleDelayReq_spec (p : Profile) {master : Port Running A R C F} {header : Header}
    (hmaster : master.portState = .master) (hheader : header.InRange) {t4 : Time}
    (ht4 : t4.InWireRange)
    (hc : header.correctionField.toInt + t4.toInt % 2 ^ 32 / 2 ^ 16 < 2 ^ 63) :
    ∃ master' data message body,
      master.handleDelayReq p header t4 = .ok (master', .of [.sendGeneral data false]) ∧
      Message.deserialize data = .ok message ∧ message.body = .delayResp body ∧
      message.header.sourcePortIdentity = master.portIdentity ∧
      message.header.sequenceId = header.sequenceId ∧
      body.requestingPortIdentity = header.sourcePortIdentity ∧
      message.header.correctionField.toInt =
        header.correctionField.toInt + t4.toInt % 2 ^ 32 / 2 ^ 16 ∧
      (Time.ofWireTimestamp body.receiveTimestamp).toInt = t4.toInt / 2 ^ 32 * 2 ^ 32 := by
  obtain ⟨message, body, hmessage, hrange, hsize, hfacts⟩ := Message.delayResp_spec p hheader
    master.portIdentity master.config.minDelayReqInterval ht4 hc
  obtain ⟨buffer, data, hdata, hback⟩ := master.packetBuffer.serialize_spec p hrange
    (by rw [hsize]; decide)
  refine ⟨{ master with packetBuffer := buffer }, data, message, body, ?_, hback, hfacts⟩
  rw [handleDelayReq, if_pos hmaster, hmessage, ok_bind, hdata, ok_bind]
  rfl

/-- The slave waits for the answer of `master` to the request with this header. -/
structure Awaits (port : Port Running A R C F) (state : SlaveState) (master : PortIdentity)
    (header : Header) (sendTime : Option Time) : Prop where
  slave : port.portState = .slave state
  remoteMaster : state.remoteMaster = master
  requester : port.portIdentity = header.sourcePortIdentity
  outstanding : state.delayState = .measuring header.sequenceId sendTime none

/-- The slave with the receive time of the answer. -/
def withDelayRecvTime (slave : Port Running A R C F) (state : SlaveState) (id : UInt16)
    (sendTime : Option Time) (recvTime : Time) : Port Running A R C F :=
  slave.withSlaveState { state with delayState := .measuring id sendTime (some recvTime) }

theorem withDelayRecvTime_inj {slave : Port Running A R C F} {state : SlaveState} {id : UInt16}
    {sendTime : Option Time} {t t' : Time}
    (h : slave.withDelayRecvTime state id sendTime t = slave.withDelayRecvTime state id sendTime t') :
    t = t' := by
  have hstate := congrArg Port.portState h
  simpa [withDelayRecvTime, withSlaveState] using hstate

/-- **What the slave stores of the answer**: the timestamp minus the correction field. -/
theorem storeDelayResp_spec (p : Profile) {slave : Port Running A R C F} {state : SlaveState}
    {master : PortIdentity} {request header : Header} {sendTime : Option Time}
    {body : DelayRespMessage} (h : slave.Awaits state master request sendTime)
    (hsource : header.sourcePortIdentity = master) (hid : header.sequenceId = request.sequenceId)
    (hrequester : body.requestingPortIdentity = request.sourcePortIdentity) :
    slave.storeDelayResp p header body = do
      let recvTime ← UFixed.wrap p ((Time.ofWireTimestamp body.receiveTimestamp).toInt -
        header.correctionField.toInt * 2 ^ 16)
      return some (slave.withDelayRecvTime state request.sequenceId sendTime ⟨recvTime⟩) := by
  have hidentity : ¬ (slave.portIdentity ≠ body.requestingPortIdentity ∨
      state.remoteMaster ≠ header.sourcePortIdentity) := by
    rw [h.requester, hrequester, h.remoteMaster, hsource]
    simp
  have hc := header.correctionField.toInt_range
  have hsub := Time.sub_eq p (Time.ofWireTimestamp body.receiveTimestamp)
    (d := Duration.ofTimeInterval header.correctionField)
    (by rw [Duration.toInt_ofTimeInterval]; omega)
  rw [Duration.toInt_ofTimeInterval] at hsub
  rw [storeDelayResp, h.slave]
  dsimp only
  rw [if_neg hidentity, h.outstanding]
  dsimp only
  rw [if_pos hid.symm, if_neg (by simp), hsub]
  cases hwrap : (UFixed.wrap p ((Time.ofWireTimestamp body.receiveTimestamp).toInt -
    header.correctionField.toInt * 2 ^ 16) : Except Panic U96F32) with
  | error why => rfl
  | ok r => rfl

end Port

/-! ### The whole exchange -/

section Exchange

variable {A R C F A' R' C' F' : Type} [Filter F] [Filter F']

/-- The slave stores `t4` minus the correction field of the request, up to the resolution of a
correction field. -/
def DelayRespExact (p : Profile) (master : Port Running A R C F) (slave : Port Running A' R' C' F')
    (state : SlaveState) (sendTime : Option Time) (header : Header) (t4 : Time) : Prop :=
  ∃ master' data message body recvTime,
    master.handleDelayReq p header t4 = .ok (master', .of [.sendGeneral data false]) ∧
    Message.deserialize data = .ok message ∧ message.body = .delayResp body ∧
    slave.storeDelayResp p message.header body =
      .ok (some (slave.withDelayRecvTime state header.sequenceId sendTime recvTime)) ∧
    |recvTime.toInt - (t4.toInt - header.correctionField.toInt * 2 ^ 16)| < 2 ^ 16

/-- **What the slave stores**, with the part of `t4` below a nanosecond taken off once more. -/
theorem storeDelayResp_of_answer (p : Profile) {master : Port Running A R C F}
    {slave : Port Running A' R' C' F'} {state : SlaveState} {sendTime : Option Time}
    {header : Header} {t4 : Time} (hheader : header.InRange) (hmaster : master.portState = .master)
    (hslave : slave.Awaits state master.portIdentity header sendTime) (ht4 : t4.InWireRange)
    (hc : header.correctionField.toInt + 2 ^ 16 < 2 ^ 63) :
    ∃ master' data message body,
      master.handleDelayReq p header t4 = .ok (master', .of [.sendGeneral data false]) ∧
      Message.deserialize data = .ok message ∧ message.body = .delayResp body ∧
      slave.storeDelayResp p message.header body = do
        let recvTime ← UFixed.wrap p (t4.toInt / 2 ^ 32 * 2 ^ 32 -
          (header.correctionField.toInt + t4.toInt % 2 ^ 32 / 2 ^ 16) * 2 ^ 16)
        return some (slave.withDelayRecvTime state header.sequenceId sendTime ⟨recvTime⟩) := by
  obtain ⟨master', data, answer, body, hanswer, hback, hbody, hsource, hid, hrequester, hcorrection,
    htime⟩ := Port.handleDelayReq_spec p hmaster hheader ht4 (by omega)
  have hstore := Port.storeDelayResp_spec p hslave hsource hid hrequester
  rw [htime, hcorrection] at hstore
  exact ⟨master', data, answer, body, hanswer, hback, hbody, hstore⟩

/-- An exact response has no part of `t4` below a nanosecond to carry. -/
theorem DelayRespExact.subnano {p : Profile} {master : Port Running A R C F}
    {slave : Port Running A' R' C' F'} {state : SlaveState} {sendTime : Option Time}
    {header : Header} {t4 : Time} (h : DelayRespExact p master slave state sendTime header t4)
    (hheader : header.InRange) (hmaster : master.portState = .master)
    (hslave : slave.Awaits state master.portIdentity header sendTime) (ht4 : t4.InWireRange)
    (hc : header.correctionField.toInt + 2 ^ 16 < 2 ^ 63) :
    t4.subnano.toInt = 0 ∧ header.correctionField.toInt * 2 ^ 16 ≤ t4.toInt := by
  obtain ⟨master'', data', answer', body', recvTime, hanswer', hback', hbody', hstored, hexact⟩ := h
  obtain ⟨master', data, answer, body, hanswer, hback, hbody, hstore⟩ :=
    storeDelayResp_of_answer p hheader hmaster hslave ht4 hc
  obtain ⟨-, hactions⟩ := Prod.mk.inj (Except.ok.inj (hanswer.symm.trans hanswer'))
  obtain rfl : data = data' := by simpa [PortActionIterator.of] using hactions
  obtain rfl := Except.ok.inj (hback.symm.trans hback')
  obtain rfl : body = body' := by simpa using hbody.symm.trans hbody'
  -- whatever the profile, the time is stored modulo `2 ^ 128`
  obtain ⟨r, hwrap, hr⟩ := bind_eq_ok.mp (hstore.symm.trans hstored)
  have hint := UFixed.toInt_wrap_mod hwrap
  obtain rfl := Port.withDelayRecvTime_inj (Option.some.inj (Except.ok.inj hr))
  have habs := abs_lt.mp hexact
  change -2 ^ 16 < r.toInt - _ ∧ r.toInt - _ < 2 ^ 16 at habs
  have ht4' := t4.toInt_range
  have hc' := header.correctionField.toInt_range
  unfold Time.InWireRange at ht4
  rw [TimeInterval.toInt_subnano]
  omega

/-- **When the delay response is exact.**  The part of `t4` below a nanosecond is counted twice,
so it has to be below the resolution of the correction field; and the result must not be
negative. -/
theorem delayRespExact_iff (p : Profile) {master : Port Running A R C F}
    {slave : Port Running A' R' C' F'} {state : SlaveState} {sendTime : Option Time}
    {request : List UInt8} {message : Message} {t4 : Time}
    (hrequest : Message.deserialize request = .ok message)
    (hmaster : master.portState = .master)
    (hslave : slave.Awaits state master.portIdentity message.header sendTime)
    (ht4 : t4.InWireRange) (hc : message.header.correctionField.toInt + 2 ^ 16 < 2 ^ 63) :
    DelayRespExact p master slave state sendTime message.header t4 ↔
      t4.subnano.toInt = 0 ∧ message.header.correctionField.toInt * 2 ^ 16 ≤ t4.toInt := by
  have hheader := (Message.deserialize_spec hrequest).1.header
  refine ⟨fun h => h.subnano hheader hmaster hslave ht4 hc, ?_⟩
  rintro ⟨hsub, hle⟩
  obtain ⟨master', data, answer, body, hanswer, hback, hbody, hstore⟩ :=
    storeDelayResp_of_answer p hheader hmaster hslave ht4 hc
  have ht4' := t4.toInt_range
  have hc' := message.header.correctionField.toInt_range
  unfold Time.InWireRange at ht4
  rw [TimeInterval.toInt_subnano] at hsub
  rw [hsub] at hstore
  have hfits : UFixed.fits 128 (t4.toInt / 2 ^ 32 * 2 ^ 32 -
      (message.header.correctionField.toInt + 0) * 2 ^ 16) = true := decide_eq_true (by omega)
  rw [UFixed.wrap_of_fits p hfits] at hstore
  refine ⟨master', data, answer, body, _, hanswer, hback, hbody, hstore, ?_⟩
  have hint := UFixed.toInt_ofInt (f := 32) hfits
  rw [Time.toInt, hint, abs_lt]
  omega

end Exchange

/-! ### An inexact response -/

/-- A delay request with sequence id 7 and no correction. -/
def delayReqBytes : List UInt8 :=
  [0x01, 0x12, 0, 44] ++ List.replicate 16 0 ++ List.replicate 8 5 ++ [0, 1, 0, 7, 1, 0x7f] ++
    List.replicate 10 0

/-- The port that sent it. -/
def delayRequester : PortIdentity where
  clockIdentity := ClockIdentity.ofWire (List.replicate 8 5)
  portNumber := 1

def delayReqMessage : Message where
  header := Header.ofBytes delayReqBytes
  body := .delayReq { originTimestamp := default }
  suffix := default

def awaitingState : SlaveState :=
  { SlaveState.new default with delayState := .measuring 7 none none }

/-- A slave that waits for the answer to it. -/
def awaitingPort : TestPort := testPort delayRequester (.slave awaitingState)

theorem awaitingPort_awaits : awaitingPort.Awaits awaitingState default delayReqMessage.header none :=
  ⟨rfl, rfl, by decide +kernel, by decide +kernel⟩

/-- The time of `nanos` nanoseconds and `bits` units of `2^-32` nanoseconds. -/
def Time.ofNanos (nanos bits : Nat) : Time := ⟨⟨BitVec.ofNat 128 (nanos * 2 ^ 32 + bits)⟩⟩

/-- A request that arrives on a whole second is answered exactly. -/
theorem delayRespExact_whole_second :
    DelayRespExact .debug (testPort default .master) awaitingPort awaitingState none
      delayReqMessage.header (Time.ofNanos 1000000000 0) :=
  (delayRespExact_iff .debug (by decide +kernel : Message.deserialize delayReqBytes = .ok delayReqMessage) rfl awaitingPort_awaits
    (by unfold Time.InWireRange; decide +kernel) (by decide +kernel)).mpr (by decide +kernel)

/-- **A request that arrives half a nanosecond later is not**: the slave stores a time that is a
nanosecond too early. -/
theorem delayResp_half_nanosecond_inexact :
    Message.deserialize delayReqBytes = .ok delayReqMessage ∧
    awaitingPort.Awaits awaitingState default delayReqMessage.header none ∧
    (Time.ofNanos 1000000000 (2 ^ 31)).InWireRange ∧
    delayReqMessage.header.correctionField.toInt + 2 ^ 16 < 2 ^ 63 ∧
    ¬ DelayRespExact .debug (testPort default .master) awaitingPort awaitingState none
      delayReqMessage.header (Time.ofNanos 1000000000 (2 ^ 31)) := by
  have hparse : Message.deserialize delayReqBytes = .ok delayReqMessage := by decide +kernel
  have hrange : (Time.ofNanos 1000000000 (2 ^ 31)).InWireRange := by
    unfold Time.InWireRange
    decide +kernel
  have hc : delayReqMessage.header.correctionField.toInt + 2 ^ 16 < 2 ^ 63 := by decide +kernel
  refine ⟨hparse, awaitingPort_awaits, hrange, hc, fun h => ?_⟩
  have hsub := (h.subnano (Message.deserialize_spec hparse).1.header rfl awaitingPort_awaits hrange
    hc).1
  exact absurd hsub (by decide +kernel)

end Statime
