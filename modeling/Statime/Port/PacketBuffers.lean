import Statime.Datastructures.Unwritten
import Statime.Port.Effects
import Statime.Port.Following

/-!
# What the packet buffer held before

A port writes all of its packets to one buffer.

* `PacketBuffer.serialize_alike`: a packet from two buffers that agree in octet 46.
* `IgnoresBuffer`: the handlers that send nothing do not look at the buffer.
* `Slot.step_sameBut`: two ports with such buffers send the same packets from now on.
* `encoding_buffer_iff`: when the buffer does not matter.
-/

namespace Statime

open Rust Machine

/-! ### Packets -/

namespace PacketBuffer

/-- The buffers agree in the octet of an announce message that is not written. -/
def Alike (buffer buffer' : PacketBuffer) : Prop := byteAt buffer'.bytes 46 = byteAt buffer.bytes 46

/-- A packet and the buffer after it, from a message that was written. -/
theorem serialize_iff {p : Profile} {buffer buffer' : PacketBuffer} {message : Message}
    {data : List UInt8} : buffer.serialize p message = .ok (buffer', data) ↔
      ∃ n, message.serialize p buffer.bytes = .ok (buffer'.bytes, n) ∧ data = buffer'.bytes.take n := by
  constructor
  · intro h
    unfold serialize at h
    split at h
    · rename_i out n hout
      obtain ⟨data', hdata, h⟩ := bind_eq_ok.mp h
      obtain ⟨rfl, rfl⟩ := Prod.mk.inj (Except.ok.inj h)
      refine ⟨n, hout, ?_⟩
      rw [readAt] at hdata
      split at hdata
      · rw [← Except.ok.inj hdata, slice_zero]
      · cases hdata
    · cases h
  · rintro ⟨n, hout, rfl⟩
    obtain ⟨header, body, -, -, -, hfit, rfl⟩ := Message.serialize_eq_ok hout
    obtain ⟨buffer₁, hbuffer₁⟩ := serialize_of_ok hout (by rw [Message.length_serialize hout]; exact hfit)
    rw [hbuffer₁]
    unfold serialize at hbuffer₁
    split at hbuffer₁
    · rename_i out n hout'
      obtain ⟨data', -, h⟩ := bind_eq_ok.mp hbuffer₁
      obtain ⟨rfl, -⟩ := Prod.mk.inj (Except.ok.inj h)
      have hsame := (Prod.mk.inj (Except.ok.inj (hout.symm.trans hout'))).1
      obtain ⟨bytes, hlen⟩ := buffer'
      subst hsame
      rfl
    · cases hbuffer₁

/-- **A packet from two buffers**: they differ when the buffers do in an octet that is not written. -/
theorem serialize_twice {p : Profile} {buffer buffer₁ : PacketBuffer} (buffer' : PacketBuffer)
    {message : Message} {data : List UInt8} (h : buffer.serialize p message = .ok (buffer₁, data)) :
    ∃ buffer₁' data', buffer'.serialize p message = .ok (buffer₁', data') ∧
      (data' = data ↔ ∀ j ∈ message.unwritten, byteAt buffer'.bytes j = byteAt buffer.bytes j) := by
  obtain ⟨n, hout, rfl⟩ := serialize_iff.mp h
  obtain ⟨out', hout', hiff⟩ :=
    Message.serialize_twice (buffer'.length_eq.trans buffer.length_eq.symm) hout
  exact ⟨⟨out', (Message.length_serialize hout').trans buffer'.length_eq⟩, _,
    serialize_iff.mpr ⟨n, hout', rfl⟩, hiff⟩

/-- **Buffers that agree stay so**, and give the same packet. -/
theorem serialize_alike {p : Profile} {buffer buffer' : PacketBuffer} (h : buffer.Alike buffer')
    {message : Message} (hunwritten : ∀ j ∈ message.unwritten, j = 46) :
    Matches (fun a b => a.1.Alike b.1 ∧ a.2 = b.2) (buffer.serialize p message)
      (buffer'.serialize p message) := by
  rintro ⟨buffer₁, data⟩ hdata
  obtain ⟨buffer₁', data', hdata', hiff⟩ := serialize_twice buffer' hdata
  have hsame : data' = data := hiff.mpr fun j hj => by rw [hunwritten j hj]; exact h
  subst hsame
  refine ⟨_, hdata', ?_, rfl⟩
  obtain ⟨n, hout, hn⟩ := serialize_iff.mp hdata
  obtain ⟨n', hout', hn'⟩ := serialize_iff.mp hdata'
  rw [Alike]
  rcases Nat.lt_or_ge 46 n with hlt | hge
  · obtain rfl : n' = n := (Message.serialize_size hout').trans (Message.serialize_size hout).symm
    rw [← Message.byteAt_slice hlt, ← Message.byteAt_slice (b := buffer₁.bytes) hlt, slice_zero,
      slice_zero, ← hn, ← hn']
  · rw [Message.byteAt_rest hout hge, Message.byteAt_rest hout' (by
      rwa [Message.serialize_size hout', ← Message.serialize_size hout])]
    exact h

end PacketBuffer

/-! ### Handlers that send nothing -/

namespace Port

section

variable {L A R C F : Type} [Filter F]

def withBuffer (port : Port L A R C F) (packetBuffer : PacketBuffer) : Port L A R C F :=
  { port with packetBuffer }

/-- The handler does the same with any packet buffer, and leaves it as it is. -/
def IgnoresBuffer {α : Type} (handler : Port L A R C F → Except Panic (Port L A R C F × α)) : Prop :=
  ∀ port buffer, handler (port.withBuffer buffer) =
    (fun r => (r.1.withBuffer buffer, r.2)) <$> handler port

section

variable (port : Port L A R C F) (buffer : PacketBuffer)

theorem withBuffer_portState : (port.withBuffer buffer).portState = port.portState := rfl

theorem withBuffer_portIdentity : (port.withBuffer buffer).portIdentity = port.portIdentity := rfl

theorem withBuffer_peerDelayState :
    (port.withBuffer buffer).peerDelayState = port.peerDelayState := rfl

theorem withBuffer_config : (port.withBuffer buffer).config = port.config := rfl

theorem withBuffer_bmca : (port.withBuffer buffer).bmca = port.bmca := rfl

theorem withBuffer_multiportDisable :
    (port.withBuffer buffer).multiportDisable = port.multiportDisable := rfl

theorem setForcedPortState_withBuffer [Clock C] (state : PortState) :
    (port.withBuffer buffer).setForcedPortState state =
      (port.setForcedPortState state).withBuffer buffer := by
  unfold setForcedPortState
  rw [apply_ite (fun port : Port L A R C F => port.withBuffer buffer)]
  rfl

end

end

section

variable {A R C F : Type} [Clock C] [Filter F] {p : Profile} (port : Port Running A R C F)
  (buffer : PacketBuffer)

omit [Clock C] in
theorem extractSlaveMeasurement_withBuffer (state : SlaveState) :
    (port.withBuffer buffer).extractSlaveMeasurement p state =
      (fun r => (r.1, r.2.withBuffer buffer)) <$> port.extractSlaveMeasurement p state := by
  unfold extractSlaveMeasurement
  split
  · simp only [map_bind]
    rfl
  · split
    · simp only [map_bind]
      rfl
    · rfl

theorem extractMeasurement_withBuffer :
    (port.withBuffer buffer).extractMeasurement p =
      (fun r => (r.1, r.2.withBuffer buffer)) <$> port.extractMeasurement p := by
  unfold extractMeasurement
  rw [withBuffer_peerDelayState, withBuffer_portState]
  split
  · rename_i id responder t1 t2 t3 t4 _
    rw [map_bind]
    refine bind_congr fun delay => ?_
    have hforced := setForcedPortState_withBuffer
      (port.withPeerDelayState (.postMeasurement id responder)) buffer .listening
    rw [map_pure, apply_ite (fun port : Port Running A R C F => port.withBuffer buffer), ← hforced]
    rfl
  · split
    · exact extractSlaveMeasurement_withBuffer port buffer _
    · rfl

variable (p)

theorem handleTimeMeasurement_ignores :
    IgnoresBuffer (fun port : Port Running A R C F => port.handleTimeMeasurement p) := by
  intro port buffer
  unfold handleTimeMeasurement
  dsimp only
  rw [extractMeasurement_withBuffer, bind_map_left, map_bind]
  refine bind_congr ?_
  rintro ⟨measurement, port⟩
  cases measurement <;> rfl

theorem storeSlave_ignores (stored : SlaveState → Except Panic (Option (SlaveState × Bool))) :
    IgnoresBuffer (fun port : Port Running A R C F => port.storeSlave p stored) := by
  intro port buffer
  unfold storeSlave
  dsimp only
  rw [withBuffer_portState]
  split
  · rw [map_bind]
    refine bind_congr fun result => ?_
    split
    · exact handleTimeMeasurement_ignores p (port.withSlaveState _) buffer
    · rfl
    · rfl
  · rfl

theorem handleAnswer_ignores (header : Header) (requesting : PortIdentity)
    (lacks : PeerDelayState → Bool) (stored : Except Panic PeerDelayState) :
    IgnoresBuffer (fun port : Port Running A R C F =>
      port.handleAnswer p header requesting lacks stored) := by
  intro port buffer
  have hfaulty := setForcedPortState_withBuffer port buffer .faulty
  unfold handleAnswer
  dsimp only
  rw [withBuffer_portIdentity, withBuffer_peerDelayState, hfaulty]
  split
  · rfl
  · split
    · split <;> rfl
    · split
      · split
        · rfl
        · split
          · rw [map_bind]
            exact bind_congr fun state =>
              handleTimeMeasurement_ignores p (port.withPeerDelayState state) buffer
          · rfl
      · rfl
    · rfl

theorem handlePdelayTimestamp_ignores (id : UInt16) (timestamp : Time) :
    IgnoresBuffer (fun port : Port Running A R C F => port.handlePdelayTimestamp p id timestamp) := by
  intro port buffer
  unfold handlePdelayTimestamp
  dsimp only
  rw [withBuffer_peerDelayState]
  split
  · split
    · split
      · rfl
      · exact handleTimeMeasurement_ignores p (port.withPeerDelayState _) buffer
    · rfl
  · rfl

variable [AcceptableMasterList A] [Rng R]

omit [AcceptableMasterList A] in
theorem handleAnnounceReceiptTimer_ignores (s : PtpInstanceState) :
    IgnoresBuffer (fun port : Port Running A R C F => port.handleAnnounceReceiptTimer s) := by
  intro port buffer
  have hforced (state : PortState) :
      (if port.portState = state then port.withBuffer buffer
        else (port.withBuffer buffer).setForcedPortState state) =
      (if port.portState = state then port else port.setForcedPortState state).withBuffer buffer := by
    rw [setForcedPortState_withBuffer, apply_ite (fun port : Port Running A R C F =>
      port.withBuffer buffer)]
  unfold handleAnnounceReceiptTimer
  dsimp only
  rw [withBuffer_portState, hforced, hforced]
  split
  · rw [map_bind]
    rfl
  · rfl

theorem registerAnnounce_ignores (message : Message) (announce : AnnounceMessage) :
    IgnoresBuffer (fun port : Port Running A R C F => port.registerAnnounce p message announce) := by
  intro port buffer
  have hmultiport (bmca : Bmca A) :
      ({ port.withBuffer buffer with bmca } : Port Running A R C F).checkMultiport message =
        (({ port with bmca } : Port Running A R C F).checkMultiport message).withBuffer buffer := by
    unfold checkMultiport
    rw [apply_ite (fun port : Port Running A R C F => port.withBuffer buffer),
      ← setForcedPortState_withBuffer]
    rfl
  unfold registerAnnounce
  dsimp only
  rw [withBuffer_bmca, map_bind]
  refine bind_congr ?_
  rintro ⟨bmca, stored⟩
  cases stored with
  | true =>
    dsimp only
    rw [hmultiport, if_pos rfl, if_pos rfl, map_bind]
    rfl
  | false => rfl

theorem handleAnnounce_ignores (s : PtpInstanceState) (message : Message)
    (announce : AnnounceMessage) :
    IgnoresBuffer (fun port : Port Running A R C F => port.handleAnnounce p s message announce) := by
  intro port buffer
  unfold handleAnnounce
  dsimp only
  rw [map_bind]
  refine bind_congr ?_
  rintro ⟨s, loop⟩
  cases loop with
  | true => rfl
  | false =>
    have hregister := registerAnnounce_ignores p message announce port buffer
    dsimp only at hregister ⊢
    rw [if_neg Bool.false_ne_true, if_neg Bool.false_ne_true, hregister, bind_map_left, map_bind]
    rfl

end

/-! ### Ports that take part in the best master clock algorithm -/

section

variable {A R C F : Type} [AcceptableMasterList A] [Clock C] [Filter F] [Rng R] {p : Profile}
  (port : Port InBmca A R C F) (buffer : PacketBuffer)

omit [Clock C] [Rng R] in
theorem calculateBest_withBuffer :
    (port.withBuffer buffer).calculateBestLocalAnnounceMessage p =
      (·.withBuffer buffer) <$> port.calculateBestLocalAnnounceMessage p := by
  unfold calculateBestLocalAnnounceMessage
  rw [map_bind]
  rfl

omit [AcceptableMasterList A] [Clock C] [Rng R] in
theorem stepAnnounceAge_withBuffer (step : Duration) :
    (port.withBuffer buffer).stepAnnounceAge p step =
      (·.withBuffer buffer) <$> port.stepAnnounceAge p step := by
  unfold stepAnnounceAge
  simp only [map_bind]
  rfl

omit [AcceptableMasterList A] in
theorem setRecommendedPortState_withBuffer (state : RecommendedState) (defaultDs : InternalDefaultDS) :
    (port.withBuffer buffer).setRecommendedPortState p state defaultDs =
      (·.withBuffer buffer) <$> port.setRecommendedPortState p state defaultDs := by
  have hforced (state : PortState) := setForcedPortState_withBuffer port buffer state
  have hslave (message : AnnounceMessage) : (port.withBuffer buffer).recommendSlave p message =
      (·.withBuffer buffer) <$> port.recommendSlave p message := by
    unfold recommendSlave
    rw [withBuffer_config, withBuffer_portState, map_bind]
    refine bind_congr fun _ => ?_
    dsimp only
    rw [hforced]
    split
    · rw [map_bind]
      rfl
    · rfl
  have hmaster (slaveOnly : Bool) : (port.withBuffer buffer).recommendMaster slaveOnly =
      (·.withBuffer buffer) <$> port.recommendMaster slaveOnly := by
    unfold recommendMaster
    rw [withBuffer_portState, withBuffer_multiportDisable, hforced, hforced, hforced]
    split
    · cases port.portState with
      | listening | faulty => rfl
      | slave _ | passive | master =>
        dsimp only
        rw [map_bind]
        rfl
    · split
      · split <;> rfl
      · cases port.portState <;> rfl
  cases state with
  | s1 message => exact hslave message
  | m1 _ | m2 _ | m3 _ => exact hmaster _
  | p1 _ | p2 _ =>
    unfold setRecommendedPortState recommendPassive
    dsimp only
    rw [withBuffer_portState, hforced]
    cases port.portState <;> rfl

omit [AcceptableMasterList A] in
theorem setRecommendedState_ignores (s : PtpInstanceState) (state : RecommendedState) :
    IgnoresBuffer (fun port : Port InBmca A R C F => port.setRecommendedState p s state) := by
  intro port buffer
  unfold setRecommendedState
  dsimp only
  rw [setRecommendedPortState_withBuffer, bind_map_left, map_bind]
  refine bind_congr fun port => ?_
  cases state with
  | m1 _ | m2 _ =>
    dsimp only
    rw [map_bind]
    rfl
  | m3 _ | p1 _ | p2 _ => rfl
  | s1 message =>
    simp only [map_bind]
    rfl

end

end Port

/-! ### Handlers that send a packet -/

namespace Message

theorem followUp_unwritten {p : Profile} {defaultDs : InternalDefaultDS} {identity : PortIdentity}
    {id : UInt16} {timestamp : Time} {minor : UInt8} {message : Message}
    (h : Message.followUp p defaultDs identity id timestamp minor = .ok message) :
    message.unwritten = [] := by
  obtain ⟨ts, -, h⟩ := bind_eq_ok.mp h
  obtain rfl := Except.ok.inj h
  rfl

theorem delayResp_unwritten {p : Profile} {request : Header} {identity : PortIdentity}
    {interval : Interval} {timestamp : Time} {message : Message}
    (h : Message.delayResp p request identity interval timestamp = .ok message) :
    message.unwritten = [] := by
  obtain ⟨correction, -, h⟩ := bind_eq_ok.mp h
  obtain ⟨ts, -, h⟩ := bind_eq_ok.mp h
  obtain rfl := Except.ok.inj h
  rfl

theorem pdelayResp_unwritten {p : Profile} {defaultDs : InternalDefaultDS} {identity : PortIdentity}
    {request : Header} {timestamp : Time} {minor : UInt8} {message : Message}
    (h : Message.pdelayResp p defaultDs identity request timestamp minor = .ok message) :
    message.unwritten = [] := by
  obtain ⟨ts, -, h⟩ := bind_eq_ok.mp h
  obtain rfl := Except.ok.inj h
  rfl

theorem pdelayRespFollowUp_unwritten {p : Profile} {defaultDs : InternalDefaultDS}
    {identity requestor : PortIdentity} {id : UInt16} {timestamp : Time} {minor : UInt8}
    {message : Message}
    (h : Message.pdelayRespFollowUp p defaultDs identity requestor id timestamp minor = .ok message) :
    message.unwritten = [] := by
  obtain ⟨ts, -, h⟩ := bind_eq_ok.mp h
  obtain rfl := Except.ok.inj h
  rfl

end Message

namespace Port

section

variable {L A R C F : Type} [Filter F]

/-- The same ports, but for packet buffers that agree. -/
def SameBut (port port' : Port L A R C F) : Prop :=
  ∃ buffer, port' = port.withBuffer buffer ∧ port.packetBuffer.Alike buffer

/-- The same outcome of a call. -/
def SameActions {α : Type} (a b : Port L A R C F × α) : Prop := a.1.SameBut b.1 ∧ a.2 = b.2

theorem IgnoresBuffer.matches {α : Type}
    {handler : Port L A R C F → Except Panic (Port L A R C F × α)} (h : IgnoresBuffer handler)
    {port port' : Port L A R C F} (hsame : port.SameBut port') :
    Matches SameActions (handler port) (handler port') := by
  obtain ⟨buffer, rfl, halike⟩ := hsame
  rintro ⟨port₁, out⟩ hport₁
  have hself := h port port.packetBuffer
  have hother := h port buffer
  rw [hport₁] at hother
  rw [show port.withBuffer port.packetBuffer = port from rfl, hport₁] at hself
  have hkept : port₁ = port₁.withBuffer port.packetBuffer := (Prod.mk.inj (Except.ok.inj hself)).1
  refine ⟨_, hother, ⟨buffer, rfl, ?_⟩, rfl⟩
  rw [hkept]
  exact halike

/-- A call that returns nothing else. -/
theorem SameBut.matches (handler : Port L A R C F → Except Panic (Port L A R C F))
    {port port' : Port L A R C F} (hsame : port.SameBut port')
    (h : ∀ port buffer, handler (port.withBuffer buffer) = (·.withBuffer buffer) <$> handler port) :
    Matches SameBut (handler port) (handler port') := by
  have hignores : IgnoresBuffer fun port => (fun port => (port, ())) <$> handler port := by
    intro port buffer
    dsimp only
    rw [h, Functor.map_map, Functor.map_map]
  intro port₁ hport₁
  obtain ⟨⟨port₁', _⟩, hport₁', hsame₁, -⟩ := hignores.matches hsame (port₁, ()) (by
    rw [hport₁]
    rfl)
  cases hresult : handler port' with
  | error why =>
    rw [hresult] at hport₁'
    cases hport₁'
  | ok port₂ =>
    rw [hresult] at hport₁'
    cases hport₁'
    exact ⟨_, rfl, hsame₁⟩

/-- A packet, and what comes after it. -/
theorem SameBut.serialize {p : Profile} {port port' : Port L A R C F} {α β : Type}
    {S : α → β → Prop} (h : port.SameBut port') {message : Message}
    (hunwritten : ∀ j ∈ message.unwritten, j = 46)
    {f : PacketBuffer × List UInt8 → Except Panic α} {g : PacketBuffer × List UInt8 → Except Panic β}
    (hnext : ∀ buffer buffer' data, buffer.Alike buffer' → Matches S (f (buffer, data)) (g (buffer', data))) :
    Matches S (port.packetBuffer.serialize p message >>= f)
      (port'.packetBuffer.serialize p message >>= g) := by
  obtain ⟨buffer, rfl, halike⟩ := h
  refine (PacketBuffer.serialize_alike halike hunwritten).bind ?_
  rintro ⟨buffer₁, data⟩ ⟨buffer₁', _⟩ ⟨halike₁, rfl⟩
  exact hnext _ _ _ halike₁

end

section

variable {A R C F T : Type} [Filter F] {p : Profile} {port port' : Port Running A R C F}

theorem sendSync_sameBut (h : port.SameBut port') (s : PtpInstanceState) :
    Matches SameActions (port.sendSync p s) (port'.sendSync p s) := by
  have hsame := h
  obtain ⟨buffer, rfl, -⟩ := h
  unfold sendSync
  rw [withBuffer_portState]
  split
  · exact hsame.serialize (fun j hj => by cases hj) fun buffer buffer' data halike =>
      matches_bind _ fun duration => matches_ok ⟨⟨buffer', rfl, halike⟩, rfl⟩
  · exact matches_ok ⟨hsame, rfl⟩

theorem handleSyncTimestamp_sameBut (h : port.SameBut port') (s : PtpInstanceState) (id : UInt16)
    (timestamp : Time) :
    Matches SameActions (port.handleSyncTimestamp p s id timestamp)
      (port'.handleSyncTimestamp p s id timestamp) := by
  have hsame := h
  obtain ⟨buffer, rfl, -⟩ := h
  unfold handleSyncTimestamp
  rw [withBuffer_portState]
  split
  · refine matches_bind_ok _ fun message hmessage => hsame.serialize ?_
      fun buffer buffer' data halike => matches_ok ⟨⟨buffer', rfl, halike⟩, rfl⟩
    rw [Message.followUp_unwritten hmessage]
    exact fun j hj => by cases hj
  · exact matches_ok ⟨hsame, rfl⟩

theorem handleDelayReq_sameBut (h : port.SameBut port') (header : Header) (timestamp : Time) :
    Matches SameActions (port.handleDelayReq p header timestamp)
      (port'.handleDelayReq p header timestamp) := by
  have hsame := h
  obtain ⟨buffer, rfl, -⟩ := h
  unfold handleDelayReq
  rw [withBuffer_portState]
  split
  · refine matches_bind_ok _ fun message hmessage => hsame.serialize ?_
      fun buffer buffer' data halike => matches_ok ⟨⟨buffer', rfl, halike⟩, rfl⟩
    rw [Message.delayResp_unwritten hmessage]
    exact fun j hj => by cases hj
  · exact matches_ok ⟨hsame, rfl⟩

theorem handlePdelayReq_sameBut (h : port.SameBut port') (s : PtpInstanceState) (header : Header)
    (timestamp : Time) :
    Matches SameActions (port.handlePdelayReq p s header timestamp)
      (port'.handlePdelayReq p s header timestamp) := by
  have hsame := h
  obtain ⟨buffer, rfl, -⟩ := h
  refine matches_bind_ok _ fun message hmessage => hsame.serialize ?_
    fun buffer buffer' data halike => matches_ok ⟨⟨buffer', rfl, halike⟩, rfl⟩
  rw [Message.pdelayResp_unwritten hmessage]
  exact fun j hj => by cases hj

theorem handlePdelayResponseTimestamp_sameBut (h : port.SameBut port') (s : PtpInstanceState)
    (id : UInt16) (requestor : PortIdentity) (timestamp : Time) :
    Matches SameActions (port.handlePdelayResponseTimestamp p s id requestor timestamp)
      (port'.handlePdelayResponseTimestamp p s id requestor timestamp) := by
  have hsame := h
  obtain ⟨buffer, rfl, -⟩ := h
  refine matches_bind_ok _ fun message hmessage => hsame.serialize ?_
    fun buffer buffer' data halike => matches_ok ⟨⟨buffer', rfl, halike⟩, rfl⟩
  rw [Message.pdelayRespFollowUp_unwritten hmessage]
  exact fun j hj => by cases hj

theorem sendDelayRequest_sameBut [Rng R] (h : port.SameBut port') (s : PtpInstanceState) :
    Matches SameActions (port.sendDelayRequest p s) (port'.sendDelayRequest p s) := by
  have hsame := h
  obtain ⟨buffer, rfl, -⟩ := h
  unfold sendDelayRequest
  rw [withBuffer_config]
  split
  · unfold sendE2eDelayRequest
    rw [withBuffer_portState]
    split
    · exact hsame.serialize (fun j hj => by cases hj) fun buffer buffer' data halike =>
        matches_bind _ fun duration => matches_ok ⟨⟨buffer', rfl, halike⟩, rfl⟩
    · exact matches_ok ⟨hsame, rfl⟩
  · exact hsame.serialize (fun j hj => by cases hj) fun buffer buffer' data halike =>
      matches_bind _ fun duration => matches_ok ⟨⟨buffer', rfl, halike⟩, rfl⟩

variable [ForwardedTLVProvider T]

/-- An announce message leaves one octet. -/
theorem buildAnnounce_unwritten {s : PtpInstanceState} {id : UInt16} {provider provider' : T}
    {message : Message} (h : port.buildAnnounce p s id provider = .ok (message, provider')) :
    message.unwritten = [46] := by
  obtain ⟨size, -, h⟩ := bind_eq_ok.mp h
  obtain ⟨path, -, h⟩ := bind_eq_ok.mp h
  obtain ⟨records, -, h⟩ := bind_eq_ok.mp h
  obtain ⟨suffix, -, h⟩ := bind_eq_ok.mp h
  obtain ⟨rfl, -⟩ := Prod.mk.inj (Except.ok.inj h)
  rfl

theorem sendAnnounce_sameBut (h : port.SameBut port') (s : PtpInstanceState) (provider : T) :
    Matches SameActions (port.sendAnnounce p s provider) (port'.sendAnnounce p s provider) := by
  have hsame := h
  obtain ⟨buffer, rfl, -⟩ := h
  unfold sendAnnounce
  rw [withBuffer_portState]
  split
  · refine matches_bind_ok (port.buildAnnounce p s port.announceSeqIds.generate.1 provider) ?_
    rintro ⟨message, provider'⟩ hmessage
    refine hsame.serialize ?_ fun buffer buffer' data halike =>
      matches_bind _ fun duration => matches_ok ⟨⟨buffer', rfl, halike⟩, rfl⟩
    rw [buildAnnounce_unwritten hmessage]
    exact fun j hj => List.mem_singleton.mp hj
  · exact matches_ok ⟨hsame, rfl⟩

/-- **An announce message shows the octet** that the buffer held. -/
theorem sendAnnounce_twice {s : PtpInstanceState} {provider provider₁ : T}
    {port₁ : Port Running A R C F} {actions : PortActionIterator} (buffer : PacketBuffer)
    (hmaster : port.portState = .master)
    (h : port.sendAnnounce p s provider = .ok (port₁, provider₁, actions)) :
    ∃ port₂ actions₂, (port.withBuffer buffer).sendAnnounce p s provider =
        .ok (port₂, provider₁, actions₂) ∧
      (actions₂ = actions ↔ port.packetBuffer.Alike buffer) := by
  unfold sendAnnounce at h ⊢
  rw [withBuffer_portState]
  rw [if_pos hmaster] at h ⊢
  obtain ⟨⟨message, provider₁⟩, hmessage, h⟩ := bind_eq_ok.mp h
  obtain ⟨⟨buffer₁, data⟩, hdata, h⟩ := bind_eq_ok.mp h
  obtain ⟨duration, hduration, h⟩ := bind_eq_ok.mp h
  obtain ⟨rfl, hrest⟩ := Prod.mk.inj (Except.ok.inj h)
  obtain ⟨rfl, rfl⟩ := Prod.mk.inj hrest
  obtain ⟨buffer₁', data', hdata', hiff⟩ := PacketBuffer.serialize_twice buffer hdata
  rw [buildAnnounce_unwritten hmessage] at hiff
  have hmessage' : (port.withBuffer buffer).buildAnnounce p s port.announceSeqIds.generate.1 provider =
      .ok (message, provider₁) := hmessage
  have hdata'' : (port.withBuffer buffer).packetBuffer.serialize p message = .ok (buffer₁', data') :=
    hdata'
  refine ⟨{ port with
      announceSeqIds := port.announceSeqIds.generate.2
      packetBuffer := buffer₁' },
    .of [.resetAnnounceTimer duration, .sendGeneral data' false], ?_, ?_⟩
  · change ((port.withBuffer buffer).buildAnnounce p s port.announceSeqIds.generate.1 provider >>= _) = _
    rw [hmessage', ok_bind]
    dsimp only
    rw [hdata'', ok_bind, withBuffer_config, hduration]
    rfl
  · rw [List.forall_mem_singleton] at hiff
    rw [PacketBuffer.Alike, ← hiff]
    simp [PortActionIterator.of]

end

/-! ### Messages -/

section

variable {A R C F : Type} [AcceptableMasterList A] [Clock C] [Filter F] [Rng R] {p : Profile}
  {port port' : Port Running A R C F}

omit [AcceptableMasterList A] [Clock C] [Rng R] in
/-- A handler that leaves the state of the instance alone. -/
theorem SameActions.withState {x y : Except Panic (Port Running A R C F × PortActionIterator)}
    (h : Matches SameActions x y) (s : PtpInstanceState) :
    Matches SameActions (x >>= fun a => .ok (a.1, s, a.2)) (y >>= fun a => .ok (a.1, s, a.2)) := by
  refine h.bind ?_
  rintro ⟨port₁, actions⟩ ⟨port₁', _⟩ ⟨h₁, rfl⟩
  exact matches_ok ⟨h₁, rfl⟩

theorem handleGeneralInternal_sameBut (h : port.SameBut port') (s : PtpInstanceState)
    (message : Message) :
    Matches SameActions (port.handleGeneralInternal p s message)
      (port'.handleGeneralInternal p s message) := by
  have hidentity : port'.portIdentity = port.portIdentity := by
    obtain ⟨buffer, rfl, -⟩ := h
    rfl
  have hpeer : port'.peerDelayState = port.peerDelayState := by
    obtain ⟨buffer, rfl, -⟩ := h
    rfl
  unfold handleGeneralInternal
  split
  · exact (handleAnnounce_ignores p s message _).matches h
  · rw [handleFollowUp_eq, handleFollowUp_eq]
    exact SameActions.withState ((storeSlave_ignores p _).matches h) s
  · rw [handleDelayResp_eq, handleDelayResp_eq, hidentity]
    exact SameActions.withState ((storeSlave_ignores p _).matches h) s
  · rw [handlePeerDelayResponseFollowUp_eq, handlePeerDelayResponseFollowUp_eq, hpeer]
    exact SameActions.withState ((handleAnswer_ignores p _ _ _ _).matches h) s
  all_goals exact matches_ok ⟨h, rfl⟩

theorem handleEventMessage_sameBut (h : port.SameBut port') (s : PtpInstanceState)
    (message : Message) (timestamp : Time) :
    Matches SameActions (port.handleEventMessage p s message timestamp)
      (port'.handleEventMessage p s message timestamp) := by
  have hpeer : port'.peerDelayState = port.peerDelayState := by
    obtain ⟨buffer, rfl, -⟩ := h
    rfl
  unfold handleEventMessage
  split
  · rw [handleSync_eq, handleSync_eq]
    exact SameActions.withState ((storeSlave_ignores p _).matches h) s
  · exact SameActions.withState (handleDelayReq_sameBut h message.header timestamp) s
  · exact SameActions.withState (handlePdelayReq_sameBut h s message.header timestamp) s
  · rw [handlePeerDelayResponse_eq, handlePeerDelayResponse_eq, hpeer]
    exact SameActions.withState ((handleAnswer_ignores p _ _ _ _).matches h) s
  · exact handleGeneralInternal_sameBut h s message

end

end Port

/-! ### Whole runs -/

namespace Slot

variable {A R C F T : Type} [AcceptableMasterList A] [Clock C] [Filter F] [Rng R]
  [ForwardedTLVProvider T] {p : Profile}

/-- The same ports, but for packet buffers that agree. -/
inductive SameBut : Slot A R C F → Slot A R C F → Prop
  | running {port port' : Port Running A R C F} :
      port.SameBut port' → SameBut (.running port) (.running port')
  | inBmca {port port' : Port InBmca A R C F} :
      port.SameBut port' → SameBut (.inBmca port) (.inBmca port')

/-- The same outcome of a step. -/
def SameActions (a b : Slot A R C F × PortActionIterator) : Prop := a.1.SameBut b.1 ∧ a.2 = b.2

section

omit [AcceptableMasterList A] [Clock C] [Rng R]

theorem ofHandler_sameBut {x y : Except Panic (Port Running A R C F × PortActionIterator)}
    (h : Matches Port.SameActions x y) : Matches SameActions (ofHandler x) (ofHandler y) := by
  refine (matches_orPanic h).bind ?_
  rintro ⟨port₁, actions⟩ ⟨port₁', _⟩ ⟨h₁, rfl⟩
  exact matches_ok ⟨.running h₁, rfl⟩

/-- A handler that returns something else, too. -/
theorem ofHandler_sameBut_snd {α : Type}
    {x y : Except Panic (Port Running A R C F × α × PortActionIterator)}
    (h : Matches Port.SameActions x y) :
    Matches SameActions
      (orPanic x >>= fun a => (.ok (.running a.1, a.2.2) : Except Stop _))
      (orPanic y >>= fun a => (.ok (.running a.1, a.2.2) : Except Stop _)) := by
  refine (matches_orPanic h).bind ?_
  rintro ⟨port₁, s, actions⟩ ⟨port₁', _⟩ ⟨h₁, rfl⟩
  exact matches_ok ⟨.running h₁, rfl⟩

end

theorem step_running_sameBut {port port' : Port Running A R C F} (h : port.SameBut port')
    (e : PortEvent T) :
    Matches SameActions ((Slot.running port).step p e) ((Slot.running port').step p e) := by
  cases e with
  | eventReceive s data timestamp =>
    refine ofHandler_sameBut_snd (matches_bind _ fun message => ?_)
    cases message with
    | none => exact matches_ok ⟨h, rfl⟩
    | some message => exact Port.handleEventMessage_sameBut h s message timestamp
  | generalReceive s data =>
    refine ofHandler_sameBut_snd (matches_bind _ fun message => ?_)
    cases message with
    | none => exact matches_ok ⟨h, rfl⟩
    | some message => exact Port.handleGeneralInternal_sameBut h s message
  | sendTimestamp s context timestamp =>
    refine ofHandler_sameBut ?_
    cases context with
    | sync id => exact Port.handleSyncTimestamp_sameBut h s id timestamp
    | delayReq id =>
      rw [Port.handleSendTimestamp, Port.handleSendTimestamp, Port.handleDelayTimestamp_eq,
        Port.handleDelayTimestamp_eq]
      exact (Port.storeSlave_ignores p _).matches h
    | pDelayReq id => exact (Port.handlePdelayTimestamp_ignores p id timestamp).matches h
    | pDelayResp id requestor =>
      exact Port.handlePdelayResponseTimestamp_sameBut h s id requestor timestamp
  | announceTimer s provider => exact ofHandler_sameBut_snd (Port.sendAnnounce_sameBut h s provider)
  | syncTimer s => exact ofHandler_sameBut (Port.sendSync_sameBut h s)
  | delayRequestTimer s => exact ofHandler_sameBut (Port.sendDelayRequest_sameBut h s)
  | announceReceiptTimer s =>
    exact ofHandler_sameBut ((Port.handleAnnounceReceiptTimer_ignores s).matches h)
  | filterUpdateTimer =>
    obtain ⟨buffer, rfl, halike⟩ := h
    exact matches_ok ⟨.running ⟨buffer, rfl, halike⟩, rfl⟩
  | startBmca =>
    obtain ⟨buffer, rfl, -⟩ := h
    exact matches_ok ⟨.inBmca ⟨_, rfl, rfl⟩, rfl⟩
  | endBmca | calculateBest | recommend _ _ | stepAge _ =>
    rintro a ha
    cases ha

theorem step_inBmca_sameBut {port port' : Port InBmca A R C F} (h : port.SameBut port')
    (e : PortEvent T) :
    Matches SameActions ((Slot.inBmca port).step p e) ((Slot.inBmca port').step p e) := by
  cases e with
  | endBmca =>
    obtain ⟨buffer, rfl, -⟩ := h
    exact matches_ok ⟨.running ⟨_, rfl, rfl⟩, rfl⟩
  | calculateBest =>
    refine (matches_orPanic (h.matches _ Port.calculateBest_withBuffer)).bind fun port₁ port₁' h₁ => ?_
    exact matches_ok ⟨.inBmca h₁, rfl⟩
  | recommend s state =>
    refine (matches_orPanic ((Port.setRecommendedState_ignores s state).matches h)).bind ?_
    rintro ⟨port₁, s₁⟩ ⟨port₁', _⟩ ⟨h₁, rfl⟩
    exact matches_ok ⟨.inBmca h₁, rfl⟩
  | stepAge step =>
    have hstep : Matches Port.SameBut (port.stepAnnounceAge p step) (port'.stepAnnounceAge p step) :=
      h.matches (fun port => port.stepAnnounceAge p step) fun port buffer =>
        Port.stepAnnounceAge_withBuffer port buffer step
    refine (matches_orPanic hstep).bind fun port₁ port₁' h₁ => ?_
    exact matches_ok ⟨.inBmca h₁, rfl⟩
  | eventReceive _ _ _ | generalReceive _ _ | sendTimestamp _ _ _ | announceTimer _ _
  | syncTimer _ | delayRequestTimer _ | announceReceiptTimer _ | filterUpdateTimer | startBmca =>
    rintro a ha
    cases ha

/-- **Both ports make the same step.** -/
theorem step_sameBut :
    Lockstep (step (A := A) (R := R) (C := C) (F := F) (T := T) p) SameBut := by
  intro slot slot' e slot₁ actions hsame h
  have hstep : Matches SameActions (slot.step p e) (slot'.step p e) := by
    cases hsame with
    | running hport => exact step_running_sameBut hport e
    | inBmca hport => exact step_inBmca_sameBut hport e
  obtain ⟨⟨slot₁', _⟩, h', hsame', rfl⟩ := hstep _ h
  exact ⟨slot₁', h', hsame'⟩

end Slot

/-- **When the buffer does not matter.**  A message leaves the same bytes in two buffers of the same
length exactly when they agree in the octets that are not written.  Two ports that are the same but for
packet buffers that agree in octet 46 send the same packets in a whole run, and when they do not agree
there, the next announce message shows it. -/
theorem encoding_buffer_iff {A R C F T : Type} [AcceptableMasterList A] [Clock C] [Filter F] [Rng R]
    [ForwardedTLVProvider T] :
    (∀ (p : Profile) (m : Message) (buffer buffer' : List UInt8), buffer'.length = buffer.length →
      (m.SameBytes p buffer buffer' ↔ ((∃ r, m.serialize p buffer = .ok r) →
        ∀ j ∈ m.unwritten, byteAt buffer' j = byteAt buffer j))) ∧
    (∀ (p : Profile) (slot slot' slot₁ : Slot A R C F) (es : List (PortEvent T))
      (outs : List PortActionIterator), slot.SameBut slot' →
      run (Slot.step p) slot es = .ok (slot₁, outs) →
        ∃ slot₁', run (Slot.step p) slot' es = .ok (slot₁', outs)) ∧
    ∀ (p : Profile) (s : PtpInstanceState) (port port₁ : Port Running A R C F) (provider provider₁ : T)
      (actions : PortActionIterator) (buffer : PacketBuffer), port.portState = .master →
      port.sendAnnounce p s provider = .ok (port₁, provider₁, actions) →
        ∃ port₂ actions₂, (port.withBuffer buffer).sendAnnounce p s provider =
            .ok (port₂, provider₁, actions₂) ∧
          (actions₂ = actions ↔ port.packetBuffer.Alike buffer) := by
  refine ⟨fun p m buffer buffer' hlen => m.sameBytes_iff p hlen, ?_, ?_⟩
  · intro p slot slot' slot₁ es outs hsame hrun
    obtain ⟨slot₁', hrun', -⟩ := Slot.step_sameBut.run es hsame hrun
    exact ⟨slot₁', hrun'⟩
  · intro p s port port₁ provider provider₁ actions buffer hmaster hsend
    exact Port.sendAnnounce_twice buffer hmaster hsend

/-- A sync message leaves nothing of the buffer. -/
theorem encoding_buffer_sync :
    (Message.sync (followingState testInstanceConfig).defaultDs default 0 1).SameBytes .debug
      (List.replicate 44 0) (List.replicate 44 7) :=
  ((encoding_buffer_iff (A := AcceptAnyMaster) (R := TestRng) (C := TestClock) (F := TestFilter)
    (T := NoForwardedTLVs)).1 .debug _ (List.replicate 44 0) (List.replicate 44 7)
    (by rw [List.length_replicate, List.length_replicate])).mpr fun _ j hj => by cases hj

/-- A delay request of the clock with the identity 1, .., 8. -/
def requestOfEight : List UInt8 :=
  [0x01, 0x12, 0, 44] ++ List.replicate 16 0 ++ [1, 2, 3, 4, 5, 6, 7, 8, 0, 1, 0, 0, 1, 0x7f] ++
    List.replicate 10 0

/-- Octet 46 of each packet that a master sends, or the zero that stands for it. -/
def octetsSent (es : List (PortEvent NoForwardedTLVs)) : Option (List UInt8) :=
  match run (Slot.step .debug) (.running (testPort default .master)) es with
  | .ok (_, outs) => some ((outs.flatMap PortActionIterator.packets).map (byteAt · 46))
  | .error _ => none

/-- **An octet of another clock's identity**: the delay response holds it, and so does the next announce
message, which has a zero there when it is the first packet. -/
theorem announce_shows_identity :
    octetsSent [.eventReceive (followingState testInstanceConfig) requestOfEight ⟨⟨0⟩⟩,
        .announceTimer (followingState testInstanceConfig) ⟨⟩] = some [3, 3] ∧
      octetsSent [.announceTimer (followingState testInstanceConfig) ⟨⟩] = some [0] ∧
      ¬ (Message.announce (followingState testInstanceConfig) default 0 1).SameBytes .debug
        (List.replicate 64 0) (List.replicate 64 7) := by
  refine ⟨by decide +kernel, by decide +kernel, fun h => ?_⟩
  have hok : ((Message.announce (followingState testInstanceConfig) default 0 1).serialize .debug
      (List.replicate 64 0)).isOk = true := by decide +kernel
  have hlen : (List.replicate 64 (7 : UInt8)).length = (List.replicate 64 (0 : UInt8)).length := by
    rw [List.length_replicate, List.length_replicate]
  have hsame := ((Message.sameBytes_iff .debug _ hlen).mp h) (exists_of_isOk hok) 46
    List.mem_cons_self
  exact absurd hsame (by decide)

end Statime
