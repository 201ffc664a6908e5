import Statime.Bmc.Held
import Statime.Port.Delivery

/-!
# Foreign masters and packets

What a call on a port does to the messages that the port holds, and which packets it sends.

* `packetType_serialize`: the first byte of a packet says of which type it is.
* `Port.Quiet`: the foreign masters stay, and only a master sends messages of a master.
* `Slot.step_holds`: a message that is held was received over the port, accepted and qualified.
* `Slot.step_packets`: a port that is no master sends none of the messages of a master.
-/

namespace Statime

open Rust

/-! ### The type of a packet -/

/-- The message type in the first byte of a packet. -/
def packetType (data : List UInt8) : Option MessageType :=
  MessageType.tryFrom (byteAt data 0 &&& 0x0f)

/-- The messages that a master sends. -/
def MessageType.isMasters : MessageType → Bool
  | .sync | .followUp | .delayResp | .announce => true
  | _ => false

theorem lowNibble (high : UInt8) (t : MessageType) :
    ((high <<< 4) ||| (t.toByte &&& 0x0f)) &&& 0x0f = t.toByte &&& 0x0f := by
  have hnibbles : ∀ hi : Fin 256, ((UInt8.ofNat hi <<< 4) ||| (t.toByte &&& 0x0f)) &&& 0x0f =
      t.toByte &&& 0x0f := by
    cases t <;> decide +kernel
  have h := hnibbles ⟨high.toNat, high.toNat_lt⟩
  rwa [UInt8.ofNat_toNat] at h

theorem byteAt_serializeHeader {h : Header} {t : MessageType} {n : Nat} {buffer out : List UInt8}
    (hlen : buffer.length = 34) (hout : h.serializeHeader t n buffer = .ok out) :
    byteAt out 0 = (h.sdoId.highByte <<< 4) ||| (t.toByte &&& 0x0f) := by
  obtain ⟨out', hout', -, hread⟩ := h.serializeHeader_layout t n hlen
  obtain rfl := Except.ok.inj (hout.symm.trans hout')
  exact byteAt_of_slice ((List.forall_mem_cons.mp hread).1)

/-- **A packet says of which type it is.** -/
theorem packetType_serialize {p : Profile} {buffer buffer' : PacketBuffer} {message : Message}
    {data : List UInt8} (h : buffer.serialize p message = .ok (buffer', data)) :
    packetType data = some message.body.contentType := by
  unfold PacketBuffer.serialize at h
  split at h
  · rename_i out length hout
    obtain ⟨data', hdata, h⟩ := bind_eq_ok.mp h
    obtain ⟨-, rfl⟩ := Prod.mk.inj (Except.ok.inj h)
    have hsize := Message.serialize_size hout
    obtain ⟨header, hheader, hout⟩ := bind_eq_ok.mp hout
    dsimp only at hout
    obtain ⟨body, -, hout⟩ := bind_eq_ok.mp hout
    obtain ⟨suffixSize, -, hout⟩ := bind_eq_ok.mp hout
    obtain ⟨header', hheader', hout⟩ := bind_eq_ok.mp hout
    obtain ⟨body', -, hout⟩ := bind_eq_ok.mp hout
    obtain ⟨tlv, -, hout⟩ := bind_eq_ok.mp hout
    obtain ⟨size, -, hout⟩ := bind_eq_ok.mp hout
    obtain ⟨rfl, -⟩ := Prod.mk.inj (Except.ok.inj hout)
    have hlen : header.length = 34 := by
      rw [readAt] at hheader
      split at hheader
      · rename_i hroom
        rw [← Except.ok.inj hheader, length_slice_of_le hroom.2]
      · cases hheader
    have hlen' : header'.length = 34 := (length_fill _ _ _ hheader').trans hlen
    have hbyte : byteAt data' 0 = byteAt header' 0 := by
      rw [readAt] at hdata
      split at hdata
      · obtain rfl := Except.ok.inj hdata
        have hpos : 0 < length := by
          rw [hsize, Message.size, Header.wireSize]
          omega
        rw [slice_zero, byteAt, List.getD_eq_getElem?_getD, List.getElem?_take_of_lt hpos,
          ← List.getD_eq_getElem?_getD, ← byteAt, List.append_assoc,
          byteAt_append_left (by omega)]
      · cases hdata
    rw [packetType, hbyte, byteAt_serializeHeader hlen hheader', lowNibble,
      MessageType.tryFrom_toByte]
  · cases h

/-- The packet that an action sends. -/
def PortAction.packet : PortAction → Option (List UInt8)
  | .sendEvent _ data _ | .sendGeneral data _ => some data
  | _ => none

/-- The packets that the actions send; forwarded records are none. -/
def PortActionIterator.packets (i : PortActionIterator) : List (List UInt8) :=
  i.internal.filterMap PortAction.packet

/-- No packet is a message of a master. -/
def PortActionIterator.NoMasters (i : PortActionIterator) : Prop :=
  ∀ data ∈ i.packets, ∀ t, packetType data = some t → t.isMasters = false

theorem PortActionIterator.noMasters_empty : PortActionIterator.empty.NoMasters := by
  intro data hdata
  cases hdata

theorem PortActionIterator.noMasters_fromFilter (update : FilterUpdate) :
    (PortActionIterator.fromFilter update).NoMasters := by
  intro data hdata
  unfold PortActionIterator.fromFilter at hdata
  split at hdata <;> cases hdata

/-- One packet of a type that not only a master sends. -/
theorem PortActionIterator.noMasters_packet {i : PortActionIterator} {data : List UInt8}
    {t : MessageType} (hpackets : i.packets = [data]) (htype : packetType data = some t)
    (ht : t.isMasters = false) : i.NoMasters := by
  intro data' hdata' t' ht'
  rw [hpackets, List.mem_singleton] at hdata'
  rw [hdata', htype] at ht'
  rw [← Option.some.inj ht', ht]

/-! ### The handlers -/

namespace Port

variable {A R C F T : Type} [Filter F]

/-- **What most calls have in common**: the foreign masters stay, and a port that is no master sends
none of the messages of a master. -/
structure Quiet (port port' : Port Running A R C F) (actions : PortActionIterator) : Prop where
  bmca : port'.bmca = port.bmca
  packets : port.portState ≠ .master → actions.NoMasters

variable {p : Profile} {s : PtpInstanceState} {port port' : Port Running A R C F}
  {actions : PortActionIterator} {header : Header} {timestamp : Time}

theorem quiet_of_same (h : (Except.ok (port, PortActionIterator.empty) : Except Panic _) =
    .ok (port', actions)) : port.Quiet port' actions := by
  obtain ⟨rfl, rfl⟩ := Prod.mk.inj (Except.ok.inj h)
  exact ⟨rfl, fun _ => PortActionIterator.noMasters_empty⟩

section Exchanges

variable [Clock C]

theorem bmca_setForcedPortState {L : Type} (port : Port L A R C F) (state : PortState) :
    (port.setForcedPortState state).bmca = port.bmca := by
  unfold setForcedPortState
  split <;> rfl

theorem extractMeasurement_bmca {measurement : Option Measurement}
    (h : port.extractMeasurement p = .ok (measurement, port')) : port'.bmca = port.bmca := by
  unfold extractMeasurement at h
  split at h
  · obtain ⟨delay, -, h⟩ := bind_eq_ok.mp h
    obtain ⟨-, rfl⟩ := Prod.mk.inj (Except.ok.inj h)
    split
    · exact bmca_setForcedPortState _ _
    · rfl
  · split at h
    · unfold extractSlaveMeasurement at h
      split at h
      · obtain ⟨raw, -, h⟩ := bind_eq_ok.mp h
        obtain ⟨offset, -, h⟩ := bind_eq_ok.mp h
        obtain ⟨-, rfl⟩ := Prod.mk.inj (Except.ok.inj h)
        rfl
      · split at h
        · obtain ⟨raw, -, h⟩ := bind_eq_ok.mp h
          obtain ⟨delay, -, h⟩ := bind_eq_ok.mp h
          obtain ⟨-, rfl⟩ := Prod.mk.inj (Except.ok.inj h)
          rfl
        · obtain ⟨-, rfl⟩ := Prod.mk.inj (Except.ok.inj h)
          rfl
    · obtain ⟨-, rfl⟩ := Prod.mk.inj (Except.ok.inj h)
      rfl

/-- A measurement sends no packet. -/
theorem quiet_of_measurement {port₁ : Port Running A R C F}
    (h : port₁.handleTimeMeasurement p = .ok (port', actions)) (hbmca : port₁.bmca = port.bmca) :
    port.Quiet port' actions := by
  obtain ⟨⟨measurement, port₂⟩, hextract, h⟩ := bind_eq_ok.mp h
  have hbmca₂ := (extractMeasurement_bmca hextract).trans hbmca
  cases measurement with
  | none =>
    obtain ⟨rfl, rfl⟩ := Prod.mk.inj (Except.ok.inj h)
    exact ⟨hbmca₂, fun _ => PortActionIterator.noMasters_empty⟩
  | some measurement =>
    obtain ⟨rfl, rfl⟩ := Prod.mk.inj (Except.ok.inj h)
    exact ⟨hbmca₂, fun _ => PortActionIterator.noMasters_fromFilter _⟩

theorem quiet_of_faulty (h : (Except.ok (port.setForcedPortState .faulty, PortActionIterator.empty) :
    Except Panic _) = .ok (port', actions)) : port.Quiet port' actions := by
  obtain ⟨rfl, rfl⟩ := Prod.mk.inj (Except.ok.inj h)
  exact ⟨bmca_setForcedPortState _ _, fun _ => PortActionIterator.noMasters_empty⟩

theorem handleDelayTimestamp_quiet {id : UInt16}
    (h : port.handleDelayTimestamp p id timestamp = .ok (port', actions)) :
    port.Quiet port' actions := by
  unfold handleDelayTimestamp at h
  split at h
  · split at h
    · split at h
      · split at h
        · exact quiet_of_same h
        · exact quiet_of_measurement h rfl
      · exact quiet_of_same h
    · exact quiet_of_same h
  · exact quiet_of_same h

theorem handlePdelayTimestamp_quiet {id : UInt16}
    (h : port.handlePdelayTimestamp p id timestamp = .ok (port', actions)) :
    port.Quiet port' actions := by
  unfold handlePdelayTimestamp at h
  split at h
  · split at h
    · split at h
      · exact quiet_of_same h
      · exact quiet_of_measurement h rfl
    · exact quiet_of_same h
  · exact quiet_of_same h

theorem handleSync_quiet {body : SyncMessage}
    (h : port.handleSync p header body timestamp = .ok (port', actions)) :
    port.Quiet port' actions := by
  unfold handleSync at h
  split at h
  · split at h
    · exact quiet_of_same h
    · obtain ⟨corrected, -, h⟩ := bind_eq_ok.mp h
      split at h
      · split at h
        · split at h
          · split at h
            · exact quiet_of_same h
            · exact quiet_of_measurement h rfl
          · obtain ⟨rfl, rfl⟩ := Prod.mk.inj (Except.ok.inj h)
            exact ⟨rfl, fun _ => PortActionIterator.noMasters_empty⟩
        · obtain ⟨rfl, rfl⟩ := Prod.mk.inj (Except.ok.inj h)
          exact ⟨rfl, fun _ => PortActionIterator.noMasters_empty⟩
      · split at h
        · split at h
          · exact quiet_of_same h
          · exact quiet_of_measurement h rfl
        · exact quiet_of_measurement h rfl
  · exact quiet_of_same h

theorem handleFollowUp_quiet {body : FollowUpMessage}
    (h : port.handleFollowUp p header body = .ok (port', actions)) : port.Quiet port' actions := by
  unfold handleFollowUp at h
  split at h
  · split at h
    · exact quiet_of_same h
    · obtain ⟨sent, -, h⟩ := bind_eq_ok.mp h
      split at h
      · split at h
        · split at h
          · exact quiet_of_same h
          · exact quiet_of_measurement h rfl
        · exact quiet_of_measurement h rfl
      · exact quiet_of_measurement h rfl
  · exact quiet_of_same h

omit [Clock C] in
theorem storeDelayResp_bmca {body : DelayRespMessage} {port₁ : Port Running A R C F}
    (h : port.storeDelayResp p header body = .ok (some port₁)) : port₁.bmca = port.bmca := by
  unfold storeDelayResp at h
  split at h
  · split at h
    · cases h
    · split at h
      · split at h
        · split at h
          · cases h
          · obtain ⟨recvTime, -, h⟩ := bind_eq_ok.mp h
            rw [← Option.some.inj (Except.ok.inj h)]
            rfl
        · cases h
      · cases h
  · cases h

theorem handleDelayResp_quiet {body : DelayRespMessage}
    (h : port.handleDelayResp p header body = .ok (port', actions)) : port.Quiet port' actions := by
  obtain ⟨stored, hstored, h⟩ := bind_eq_ok.mp h
  cases stored with
  | none => exact quiet_of_same h
  | some port₁ => exact quiet_of_measurement h (storeDelayResp_bmca hstored)

theorem handleAnswer_quiet {requesting : PortIdentity} {lacks : PeerDelayState → Bool}
    {stored : Except Panic PeerDelayState}
    (h : port.handleAnswer p header requesting lacks stored = .ok (port', actions)) :
    port.Quiet port' actions := by
  unfold handleAnswer at h
  split at h
  · exact quiet_of_same h
  · split at h
    · split at h
      · exact quiet_of_faulty h
      · exact quiet_of_same h
    · split at h
      · split at h
        · exact quiet_of_faulty h
        · split at h
          · obtain ⟨state, -, h⟩ := bind_eq_ok.mp h
            exact quiet_of_measurement h rfl
          · exact quiet_of_same h
      · exact quiet_of_same h
    · exact quiet_of_same h

theorem handlePeerDelayResponse_quiet {body : PDelayRespMessage}
    (h : port.handlePeerDelayResponse p header body timestamp = .ok (port', actions)) :
    port.Quiet port' actions := by
  rw [handlePeerDelayResponse_eq] at h
  exact handleAnswer_quiet h

theorem handlePeerDelayResponseFollowUp_quiet {body : PDelayRespFollowUpMessage}
    (h : port.handlePeerDelayResponseFollowUp p header body = .ok (port', actions)) :
    port.Quiet port' actions := by
  rw [handlePeerDelayResponseFollowUp_eq] at h
  exact handleAnswer_quiet h

theorem handleFilterUpdateTimer_quiet (port : Port Running A R C F) :
    port.Quiet port.handleFilterUpdateTimer.1 port.handleFilterUpdateTimer.2 :=
  ⟨rfl, fun _ => PortActionIterator.noMasters_fromFilter _⟩

variable [Rng R]

theorem handleAnnounceReceiptTimer_quiet
    (h : port.handleAnnounceReceiptTimer s = .ok (port', actions)) : port.Quiet port' actions := by
  unfold handleAnnounceReceiptTimer at h
  split at h
  · obtain ⟨⟨duration, rng⟩, -, h⟩ := bind_eq_ok.mp h
    obtain ⟨rfl, rfl⟩ := Prod.mk.inj (Except.ok.inj h)
    refine ⟨?_, fun _ data hdata => by cases hdata⟩
    change Port.bmca (ite _ _ _) = _
    split
    · rfl
    · exact bmca_setForcedPortState _ _
  · obtain ⟨rfl, rfl⟩ := Prod.mk.inj (Except.ok.inj h)
    refine ⟨?_, fun _ data hdata => by cases hdata⟩
    split
    · rfl
    · exact bmca_setForcedPortState _ _

end Exchanges

theorem sendDelayRequest_quiet [Rng R] (h : port.sendDelayRequest p s = .ok (port', actions)) :
    port.Quiet port' actions := by
  unfold sendDelayRequest at h
  split at h
  · unfold sendE2eDelayRequest at h
    split at h
    · obtain ⟨⟨buffer, data⟩, hdata, h⟩ := bind_eq_ok.mp h
      obtain ⟨⟨duration, rng⟩, -, h⟩ := bind_eq_ok.mp h
      obtain ⟨rfl, rfl⟩ := Prod.mk.inj (Except.ok.inj h)
      exact ⟨rfl, fun _ => PortActionIterator.noMasters_packet rfl (packetType_serialize hdata) rfl⟩
    · exact quiet_of_same h
  · obtain ⟨⟨buffer, data⟩, hdata, h⟩ := bind_eq_ok.mp h
    obtain ⟨⟨duration, rng⟩, -, h⟩ := bind_eq_ok.mp h
    obtain ⟨rfl, rfl⟩ := Prod.mk.inj (Except.ok.inj h)
    exact ⟨rfl, fun _ => PortActionIterator.noMasters_packet rfl (packetType_serialize hdata) rfl⟩

/-! ### The master side -/

/-- A call that only a master answers. -/
theorem quiet_of_master (hmaster : port.portState = .master) (hbmca : port'.bmca = port.bmca) :
    port.Quiet port' actions :=
  ⟨hbmca, fun hnot => absurd hmaster hnot⟩

theorem sendSync_quiet (h : port.sendSync p s = .ok (port', actions)) :
    port.Quiet port' actions := by
  unfold sendSync at h
  split at h
  · rename_i hmaster
    obtain ⟨⟨buffer, data⟩, -, h⟩ := bind_eq_ok.mp h
    obtain ⟨duration, -, h⟩ := bind_eq_ok.mp h
    obtain ⟨rfl, -⟩ := Prod.mk.inj (Except.ok.inj h)
    exact quiet_of_master hmaster rfl
  · exact quiet_of_same h

theorem handleSyncTimestamp_quiet {id : UInt16}
    (h : port.handleSyncTimestamp p s id timestamp = .ok (port', actions)) :
    port.Quiet port' actions := by
  unfold handleSyncTimestamp at h
  split at h
  · rename_i hmaster
    obtain ⟨message, -, h⟩ := bind_eq_ok.mp h
    obtain ⟨⟨buffer, data⟩, -, h⟩ := bind_eq_ok.mp h
    obtain ⟨rfl, -⟩ := Prod.mk.inj (Except.ok.inj h)
    exact quiet_of_master hmaster rfl
  · exact quiet_of_same h

theorem sendAnnounce_quiet [ForwardedTLVProvider T] {provider provider' : T}
    (h : port.sendAnnounce p s provider = .ok (port', provider', actions)) :
    port.Quiet port' actions := by
  unfold sendAnnounce at h
  split at h
  · rename_i hmaster
    obtain ⟨⟨message, provider₁⟩, -, h⟩ := bind_eq_ok.mp h
    obtain ⟨⟨buffer, data⟩, -, h⟩ := bind_eq_ok.mp h
    obtain ⟨duration, -, h⟩ := bind_eq_ok.mp h
    obtain ⟨rfl, -⟩ := Prod.mk.inj (Except.ok.inj h)
    exact quiet_of_master hmaster rfl
  · obtain ⟨rfl, hrest⟩ := Prod.mk.inj (Except.ok.inj h)
    obtain ⟨-, rfl⟩ := Prod.mk.inj hrest
    exact ⟨rfl, fun _ => PortActionIterator.noMasters_empty⟩

theorem handleDelayReq_quiet (h : port.handleDelayReq p header timestamp = .ok (port', actions)) :
    port.Quiet port' actions := by
  unfold handleDelayReq at h
  split at h
  · rename_i hmaster
    obtain ⟨message, -, h⟩ := bind_eq_ok.mp h
    obtain ⟨⟨buffer, data⟩, -, h⟩ := bind_eq_ok.mp h
    obtain ⟨rfl, -⟩ := Prod.mk.inj (Except.ok.inj h)
    exact quiet_of_master hmaster rfl
  · exact quiet_of_same h

theorem handlePdelayReq_quiet
    (h : port.handlePdelayReq p s header timestamp = .ok (port', actions)) :
    port.Quiet port' actions := by
  obtain ⟨message, hmessage, h⟩ := bind_eq_ok.mp h
  obtain ⟨⟨buffer, data⟩, hdata, h⟩ := bind_eq_ok.mp h
  obtain ⟨rfl, rfl⟩ := Prod.mk.inj (Except.ok.inj h)
  obtain ⟨received, -, hmessage⟩ := bind_eq_ok.mp hmessage
  obtain rfl := Except.ok.inj hmessage
  exact ⟨rfl, fun _ => PortActionIterator.noMasters_packet rfl (packetType_serialize hdata) rfl⟩

theorem handlePdelayResponseTimestamp_quiet {id : UInt16} {requestor : PortIdentity}
    (h : port.handlePdelayResponseTimestamp p s id requestor timestamp = .ok (port', actions)) :
    port.Quiet port' actions := by
  obtain ⟨message, hmessage, h⟩ := bind_eq_ok.mp h
  obtain ⟨⟨buffer, data⟩, hdata, h⟩ := bind_eq_ok.mp h
  obtain ⟨rfl, rfl⟩ := Prod.mk.inj (Except.ok.inj h)
  obtain ⟨sent, -, hmessage⟩ := bind_eq_ok.mp hmessage
  obtain rfl := Except.ok.inj hmessage
  exact ⟨rfl, fun _ => PortActionIterator.noMasters_packet rfl (packetType_serialize hdata) rfl⟩

/-! ### Received packets -/

section Receives

variable [AcceptableMasterList A] [Clock C] [Rng R] {s' : PtpInstanceState} {message : Message}
  {announce : AnnounceMessage} {data : List UInt8}

/-- **An announce message**: no packet is sent, and at most this message is new. -/
structure Registers (port port' : Port Running A R C F) (actions : PortActionIterator)
    (message : Message) (announce : AnnounceMessage) : Prop where
  packets : actions.NoMasters
  holds : ∀ header a, port'.bmca.Holds header a → port.bmca.Holds header a ∨
    (header = message.header ∧ a = announce ∧ port.bmca.accepts announce = true ∧
      port.bmca.Qualified announce)

omit [AcceptableMasterList A] [Rng R] in
theorem bmca_checkMultiport (port : Port Running A R C F) (message : Message) :
    (port.checkMultiport message).bmca = port.bmca := by
  unfold checkMultiport
  split
  · exact bmca_setForcedPortState _ _
  · rfl

theorem registerAnnounce_registers
    (h : port.registerAnnounce p message announce = .ok (port', actions)) :
    port.Registers port' actions message announce := by
  obtain ⟨⟨bmca, stored⟩, hbmca, h⟩ := bind_eq_ok.mp h
  dsimp only at h
  split at h
  · obtain ⟨⟨duration, rng⟩, -, h⟩ := bind_eq_ok.mp h
    obtain ⟨rfl, rfl⟩ := Prod.mk.inj (Except.ok.inj h)
    refine ⟨(fun data hdata => by cases hdata), fun header a hheld => ?_⟩
    rw [bmca_checkMultiport] at hheld
    exact Bmca.holds_register hbmca hheld
  · obtain ⟨rfl, rfl⟩ := Prod.mk.inj (Except.ok.inj h)
    exact ⟨PortActionIterator.noMasters_empty, fun header a hheld =>
      Bmca.holds_register hbmca hheld⟩

theorem handleAnnounce_registers
    (h : port.handleAnnounce p s message announce = .ok (port', s', actions)) :
    port.Registers port' actions message announce := by
  obtain ⟨⟨s₁, loop⟩, -, h⟩ := bind_eq_ok.mp h
  dsimp only at h
  split at h
  · obtain ⟨rfl, hrest⟩ := Prod.mk.inj (Except.ok.inj h)
    obtain ⟨-, rfl⟩ := Prod.mk.inj hrest
    exact ⟨PortActionIterator.noMasters_empty, fun header a hheld => Or.inl hheld⟩
  · obtain ⟨⟨port₁, actions₁⟩, hregister, h⟩ := bind_eq_ok.mp h
    obtain ⟨rfl, hrest⟩ := Prod.mk.inj (Except.ok.inj h)
    obtain ⟨-, rfl⟩ := Prod.mk.inj hrest
    exact registerAnnounce_registers hregister

/-- What a received message does. -/
def Received (port port' : Port Running A R C F) (actions : PortActionIterator)
    (message : Message) : Prop :=
  port.Quiet port' actions ∨
    ∃ announce, message.body = .announce announce ∧ port.Registers port' actions message announce

theorem handleGeneralInternal_received
    (h : port.handleGeneralInternal p s message = .ok (port', s', actions)) :
    port.Received port' actions message := by
  unfold handleGeneralInternal at h
  split at h
  · rename_i announce hbody
    exact Or.inr ⟨announce, hbody, handleAnnounce_registers h⟩
  · obtain ⟨⟨port₁, actions₁⟩, hport, h⟩ := bind_eq_ok.mp h
    obtain ⟨rfl, hrest⟩ := Prod.mk.inj (Except.ok.inj h)
    obtain ⟨-, rfl⟩ := Prod.mk.inj hrest
    exact Or.inl (handleFollowUp_quiet hport)
  · obtain ⟨⟨port₁, actions₁⟩, hport, h⟩ := bind_eq_ok.mp h
    obtain ⟨rfl, hrest⟩ := Prod.mk.inj (Except.ok.inj h)
    obtain ⟨-, rfl⟩ := Prod.mk.inj hrest
    exact Or.inl (handleDelayResp_quiet hport)
  · obtain ⟨⟨port₁, actions₁⟩, hport, h⟩ := bind_eq_ok.mp h
    obtain ⟨rfl, hrest⟩ := Prod.mk.inj (Except.ok.inj h)
    obtain ⟨-, rfl⟩ := Prod.mk.inj hrest
    exact Or.inl (handlePeerDelayResponseFollowUp_quiet hport)
  all_goals
    obtain ⟨rfl, hrest⟩ := Prod.mk.inj (Except.ok.inj h)
    obtain ⟨-, rfl⟩ := Prod.mk.inj hrest
    exact Or.inl ⟨rfl, fun _ => PortActionIterator.noMasters_empty⟩

theorem handleEventMessage_received
    (h : port.handleEventMessage p s message timestamp = .ok (port', s', actions)) :
    port.Received port' actions message := by
  unfold handleEventMessage at h
  split at h
  · obtain ⟨⟨port₁, actions₁⟩, hport, h⟩ := bind_eq_ok.mp h
    obtain ⟨rfl, hrest⟩ := Prod.mk.inj (Except.ok.inj h)
    obtain ⟨-, rfl⟩ := Prod.mk.inj hrest
    exact Or.inl (handleSync_quiet hport)
  · obtain ⟨⟨port₁, actions₁⟩, hport, h⟩ := bind_eq_ok.mp h
    obtain ⟨rfl, hrest⟩ := Prod.mk.inj (Except.ok.inj h)
    obtain ⟨-, rfl⟩ := Prod.mk.inj hrest
    exact Or.inl (handleDelayReq_quiet hport)
  · obtain ⟨⟨port₁, actions₁⟩, hport, h⟩ := bind_eq_ok.mp h
    obtain ⟨rfl, hrest⟩ := Prod.mk.inj (Except.ok.inj h)
    obtain ⟨-, rfl⟩ := Prod.mk.inj hrest
    exact Or.inl (handlePdelayReq_quiet hport)
  · obtain ⟨⟨port₁, actions₁⟩, hport, h⟩ := bind_eq_ok.mp h
    obtain ⟨rfl, hrest⟩ := Prod.mk.inj (Except.ok.inj h)
    obtain ⟨-, rfl⟩ := Prod.mk.inj hrest
    exact Or.inl (handlePeerDelayResponse_quiet hport)
  · exact handleGeneralInternal_received h

theorem handleEventReceive_received
    (h : port.handleEventReceive p s data timestamp = .ok (port', s', actions)) :
    port.Quiet port' actions ∨ ∃ message, parseAndFilter s data = .ok (some message) ∧
      port.Received port' actions message := by
  rcases handleEventReceive_cases h with ⟨-, rfl, -, rfl⟩ | ⟨message, hmessage, h⟩
  · exact Or.inl ⟨rfl, fun _ => PortActionIterator.noMasters_empty⟩
  · exact Or.inr ⟨message, hmessage, handleEventMessage_received h⟩

theorem handleGeneralReceive_received
    (h : port.handleGeneralReceive p s data = .ok (port', s', actions)) :
    port.Quiet port' actions ∨ ∃ message, parseAndFilter s data = .ok (some message) ∧
      port.Received port' actions message := by
  rcases handleGeneralReceive_cases h with ⟨-, rfl, -, rfl⟩ | ⟨message, hmessage, h⟩
  · exact Or.inl ⟨rfl, fun _ => PortActionIterator.noMasters_empty⟩
  · exact Or.inr ⟨message, hmessage, handleGeneralInternal_received h⟩

end Receives

/-! ### The best master clock algorithm -/

section InBmca

variable [Clock C] [Rng R] {port port' : Port InBmca A R C F}

/-- A recommendation leaves the foreign masters alone, and asks for timers only. -/
structure Decides (port port' : Port InBmca A R C F) : Prop where
  bmca : port'.bmca = port.bmca
  pending : port.lifecycle.pendingAction.NoMasters → port'.lifecycle.pendingAction.NoMasters

omit [Clock C] [Rng R] in
theorem decides_refl (port : Port InBmca A R C F) : port.Decides port := ⟨rfl, id⟩

omit [Rng R] in
theorem decides_forced (port : Port InBmca A R C F) (state : PortState) :
    port.Decides (port.setForcedPortState state) := by
  refine ⟨bmca_setForcedPortState _ _, fun h => ?_⟩
  unfold setForcedPortState
  split <;> exact h

omit [Clock C] [Rng R] in
theorem noMasters_timers {actions : List PortAction} (h : actions.filterMap PortAction.packet = []) :
    (PortActionIterator.of actions).NoMasters := by
  intro data hdata
  rw [PortActionIterator.packets, PortActionIterator.of, h] at hdata
  cases hdata

theorem recommendSlave_decides {announceMessage : AnnounceMessage}
    (h : port.recommendSlave p announceMessage = .ok port') : port.Decides port' := by
  obtain ⟨_, -, h⟩ := bind_eq_ok.mp h
  dsimp only at h
  split at h
  · obtain ⟨⟨duration, rng⟩, -, h⟩ := bind_eq_ok.mp h
    obtain rfl := Except.ok.inj h
    exact ⟨bmca_setForcedPortState _ _, fun _ => noMasters_timers rfl⟩
  · obtain rfl := Except.ok.inj h
    exact decides_refl _

theorem recommendMaster_decides {slaveOnly : Bool}
    (h : port.recommendMaster slaveOnly = .ok port') : port.Decides port' := by
  unfold recommendMaster at h
  split at h
  · split at h
    · obtain rfl := Except.ok.inj h
      exact decides_refl _
    · obtain rfl := Except.ok.inj h
      exact decides_refl _
    all_goals
      obtain ⟨⟨duration, rng⟩, -, h⟩ := bind_eq_ok.mp h
      obtain rfl := Except.ok.inj h
      exact ⟨bmca_setForcedPortState _ _, fun _ => noMasters_timers rfl⟩
  · split at h
    · split at h
      · obtain rfl := Except.ok.inj h
        exact decides_refl _
      · obtain rfl := Except.ok.inj h
        exact decides_forced _ _
    · split at h
      case h_4 | h_5 =>
        obtain rfl := Except.ok.inj h
        exact decides_refl _
      all_goals
        obtain rfl := Except.ok.inj h
        exact ⟨bmca_setForcedPortState _ _, fun _ => noMasters_timers rfl⟩

omit [Rng R] in
theorem recommendPassive_decides (port : Port InBmca A R C F) :
    port.Decides port.recommendPassive := by
  unfold recommendPassive
  split
  case h_4 | h_5 => exact decides_refl _
  all_goals exact decides_forced _ _

theorem setRecommendedState_decides {state : RecommendedState} {s' : PtpInstanceState}
    (h : port.setRecommendedState p s state = .ok (port', s')) : port.Decides port' := by
  obtain ⟨port₁, hport, h⟩ := bind_eq_ok.mp h
  cases state with
  | m1 _ | m2 _ =>
    obtain ⟨_, -, h⟩ := bind_eq_ok.mp h
    obtain ⟨rfl, -⟩ := Prod.mk.inj (Except.ok.inj h)
    exact recommendMaster_decides hport
  | m3 _ =>
    obtain ⟨rfl, -⟩ := Prod.mk.inj (Except.ok.inj h)
    exact recommendMaster_decides hport
  | p1 _ | p2 _ =>
    obtain ⟨rfl, -⟩ := Prod.mk.inj (Except.ok.inj h)
    obtain rfl := Except.ok.inj hport
    exact recommendPassive_decides port
  | s1 message =>
    obtain ⟨_, -, h⟩ := bind_eq_ok.mp h
    obtain ⟨s₁, -, h⟩ := bind_eq_ok.mp h
    obtain ⟨rfl, -⟩ := Prod.mk.inj (Except.ok.inj h)
    have hdecides := recommendSlave_decides hport
    exact ⟨hdecides.bmca, hdecides.pending⟩

end InBmca

end Port

/-! ### The steps of a port -/

namespace Slot

variable {A R C F T : Type} [Filter F]

def bmca : Slot A R C F → Bmca A
  | .running port => port.bmca
  | .inBmca port => port.bmca

/-- The actions that the end of the algorithm will return. -/
def pendingAction : Slot A R C F → PortActionIterator
  | .running _ => .empty
  | .inBmca port => port.lifecycle.pendingAction

variable [AcceptableMasterList A] [Clock C] [Rng R] [ForwardedTLVProvider T] {p : Profile}
  {slot slot' : Slot A R C F} {e : PortEvent T} {actions : PortActionIterator}

/-- What a step does to the messages that are held, and which packets it sends. -/
structure StepEffect (slot slot' : Slot A R C F) (e : PortEvent T) (actions : PortActionIterator) :
    Prop where
  holds : ∀ header a, slot'.bmca.Holds header a → slot.bmca.Holds header a ∨
    ∃ message, e.Receives message ∧ message.body = .announce a ∧ header = message.header ∧
      slot.bmca.accepts a = true ∧ slot.bmca.Qualified a
  packets : slot.core.portState ≠ .master → slot.pendingAction.NoMasters → actions.NoMasters
  pending : slot.pendingAction.NoMasters → slot'.pendingAction.NoMasters

omit [Clock C] [Rng R] [ForwardedTLVProvider T] in
theorem stepEffect_of_quiet {port port' : Port Running A R C F} (h : port.Quiet port' actions) :
    StepEffect (.running port) (.running port') e actions := by
  refine ⟨fun header a hheld => Or.inl ?_, fun hmaster _ => h.packets hmaster, fun hpending => hpending⟩
  have hsame : (Slot.running port').bmca = (Slot.running port).bmca := h.bmca
  rwa [hsame] at hheld

omit [Clock C] [Rng R] [ForwardedTLVProvider T] in
theorem stepEffect_of_received {port port' : Port Running A R C F} {message : Message}
    (he : e.Receives message) (h : port.Received port' actions message) :
    StepEffect (.running port) (.running port') e actions := by
  rcases h with hquiet | ⟨announce, hbody, hregisters⟩
  · exact stepEffect_of_quiet hquiet
  · refine ⟨fun header a hheld => ?_, fun _ _ => hregisters.packets, fun hpending => hpending⟩
    rcases hregisters.holds header a hheld with hold | ⟨rfl, rfl, haccepts, hqualified⟩
    · exact Or.inl hold
    · exact Or.inr ⟨message, he, hbody, rfl, haccepts, hqualified⟩

/-- **The effect of a step.** -/
theorem step_effect (h : slot.step p e = .ok (slot', actions)) :
    StepEffect slot slot' e actions := by
  unfold Slot.step at h
  split at h
  · rename_i s data timestamp
    obtain ⟨port', s', rfl, hport⟩ := step_eventReceive (T := T) h
    rcases Port.handleEventReceive_received hport with hquiet | ⟨message, hmessage, hreceived⟩
    · exact stepEffect_of_quiet hquiet
    · exact stepEffect_of_received (Or.inl ⟨timestamp, s, data, rfl, hmessage⟩) hreceived
  · rename_i s data
    obtain ⟨port', s', rfl, hport⟩ := step_generalReceive (T := T) h
    rcases Port.handleGeneralReceive_received hport with hquiet | ⟨message, hmessage, hreceived⟩
    · exact stepEffect_of_quiet hquiet
    · exact stepEffect_of_received (Or.inr ⟨s, data, rfl, hmessage⟩) hreceived
  · rename_i s context timestamp
    obtain ⟨⟨port, actions₁⟩, hport, h⟩ := bind_eq_ok.mp h
    obtain ⟨rfl, rfl⟩ := Prod.mk.inj (Except.ok.inj h)
    have hport := orPanic_eq_ok.mp hport
    cases context with
    | sync id => exact stepEffect_of_quiet (Port.handleSyncTimestamp_quiet hport)
    | delayReq id => exact stepEffect_of_quiet (Port.handleDelayTimestamp_quiet hport)
    | pDelayReq id => exact stepEffect_of_quiet (Port.handlePdelayTimestamp_quiet hport)
    | pDelayResp id requestor =>
      exact stepEffect_of_quiet (Port.handlePdelayResponseTimestamp_quiet hport)
  · obtain ⟨⟨port, provider, actions₁⟩, hport, h⟩ := bind_eq_ok.mp h
    obtain ⟨rfl, rfl⟩ := Prod.mk.inj (Except.ok.inj h)
    exact stepEffect_of_quiet (Port.sendAnnounce_quiet (orPanic_eq_ok.mp hport))
  · obtain ⟨⟨port, actions₁⟩, hport, h⟩ := bind_eq_ok.mp h
    obtain ⟨rfl, rfl⟩ := Prod.mk.inj (Except.ok.inj h)
    exact stepEffect_of_quiet (Port.sendSync_quiet (orPanic_eq_ok.mp hport))
  · obtain ⟨⟨port, actions₁⟩, hport, h⟩ := bind_eq_ok.mp h
    obtain ⟨rfl, rfl⟩ := Prod.mk.inj (Except.ok.inj h)
    exact stepEffect_of_quiet (Port.sendDelayRequest_quiet (orPanic_eq_ok.mp hport))
  · obtain ⟨⟨port, actions₁⟩, hport, h⟩ := bind_eq_ok.mp h
    obtain ⟨rfl, rfl⟩ := Prod.mk.inj (Except.ok.inj h)
    exact stepEffect_of_quiet (Port.handleAnnounceReceiptTimer_quiet (orPanic_eq_ok.mp hport))
  · obtain ⟨rfl, rfl⟩ := Prod.mk.inj (Except.ok.inj h)
    exact stepEffect_of_quiet (Port.handleFilterUpdateTimer_quiet _)
  · obtain ⟨rfl, rfl⟩ := Prod.mk.inj (Except.ok.inj h)
    exact ⟨fun _ _ hheld => Or.inl hheld, fun _ _ => PortActionIterator.noMasters_empty,
      fun hpending => hpending⟩
  · obtain ⟨rfl, rfl⟩ := Prod.mk.inj (Except.ok.inj h)
    exact ⟨fun _ _ hheld => Or.inl hheld, fun _ hpending => hpending,
      fun _ => PortActionIterator.noMasters_empty⟩
  · obtain ⟨port, hport, h⟩ := bind_eq_ok.mp h
    obtain ⟨rfl, rfl⟩ := Prod.mk.inj (Except.ok.inj h)
    obtain ⟨⟨best, bmca⟩, hbest, hport⟩ := bind_eq_ok.mp (orPanic_eq_ok.mp hport)
    obtain rfl := Except.ok.inj hport
    exact ⟨fun header a hheld => Or.inl ((Bmca.holds_takeBest hbest).1 header a hheld),
      fun _ _ => PortActionIterator.noMasters_empty, fun hpending => hpending⟩
  · obtain ⟨⟨port, s⟩, hport, h⟩ := bind_eq_ok.mp h
    obtain ⟨rfl, rfl⟩ := Prod.mk.inj (Except.ok.inj h)
    have hdecides := Port.setRecommendedState_decides (orPanic_eq_ok.mp hport)
    refine ⟨fun header a hheld => Or.inl ?_, fun _ _ => PortActionIterator.noMasters_empty,
      hdecides.pending⟩
    rw [Slot.bmca, hdecides.bmca] at hheld
    exact hheld
  · obtain ⟨port, hport, h⟩ := bind_eq_ok.mp h
    obtain ⟨rfl, rfl⟩ := Prod.mk.inj (Except.ok.inj h)
    obtain ⟨disable, -, hport⟩ := bind_eq_ok.mp (orPanic_eq_ok.mp hport)
    obtain ⟨bmca, hbmca, hport⟩ := bind_eq_ok.mp hport
    obtain rfl := Except.ok.inj hport
    exact ⟨fun header a hheld => Or.inl (Bmca.holds_stepAge hbmca hheld),
      fun _ _ => PortActionIterator.noMasters_empty, fun hpending => hpending⟩
  · cases h

end Slot

end Statime
