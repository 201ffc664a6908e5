import Statime.Bmc.Bmca
import Statime.Datastructures.Codec

/-!
# Ports

`statime/src/port/mod.rs` and `actions.rs`: the port, the actions its methods return, and
the traits that a port is generic in.

A handler takes the port and returns it, together with the actions.  The state of the
instance is shared by the ports and is passed in and out separately.

`Port.handed` is a history variable: the measurements that were given to the filter, in
their order.  No part of the code reads it.
-/

namespace Statime

open Rust

/-! ### Filters -/

structure FilterUpdate where
  nextUpdate : Option CoreDuration
  meanDelay : Option Duration

/-- `Filter`.  A filter steers the clock that it is given, of whatever type it is. -/
class Filter (F : Type) where
  Config : Type
  new : Config → F
  measurement {C : Type} [Clock C] : F → Measurement → C → F × C × FilterUpdate
  update {C : Type} [Clock C] : F → C → F × C × FilterUpdate
  demobilize {C : Type} [Clock C] : F → C → C

/-! ### Actions -/

structure ForwardedTLV where
  tlv : Tlv
  senderIdentity : PortIdentity
  deriving DecidableEq

def ForwardedTLV.size (t : ForwardedTLV) : Nat := t.tlv.wireSize

/-- `ForwardedTLVProvider`.  A provider holds finitely many records, and each is yielded once;
`pending` bounds how many are left. -/
class ForwardedTLVProvider (T : Type) where
  nextIfSmaller : T → Nat → Option ForwardedTLV × T
  pending : T → Nat
  pending_lt {t t' : T} {maxSize : Nat} {tlv : ForwardedTLV} :
    nextIfSmaller t maxSize = (some tlv, t') → pending t' < pending t

structure NoForwardedTLVs where

instance : ForwardedTLVProvider NoForwardedTLVs where
  nextIfSmaller t _ := (none, t)
  pending _ := 0
  pending_lt h := by cases h

inductive TimestampContext
  | sync (id : UInt16)
  | delayReq (id : UInt16)
  | pDelayReq (id : UInt16)
  | pDelayResp (id : UInt16) (requestorIdentity : PortIdentity)
  deriving DecidableEq

inductive PortAction
  | sendEvent (context : TimestampContext) (data : List UInt8) (linkLocal : Bool)
  | sendGeneral (data : List UInt8) (linkLocal : Bool)
  | resetAnnounceTimer (duration : CoreDuration)
  | resetSyncTimer (duration : CoreDuration)
  | resetDelayRequestTimer (duration : CoreDuration)
  | resetAnnounceReceiptTimer (duration : CoreDuration)
  | resetFilterUpdateTimer (duration : CoreDuration)
  | forwardTLV (tlv : ForwardedTLV)
  deriving DecidableEq

/-- The actions themselves, and the bytes of the records that are still to be forwarded. -/
structure PortActionIterator where
  internal : List PortAction
  tlvs : List UInt8
  senderIdentity : PortIdentity
  deriving DecidableEq

namespace PortActionIterator

/-- `actions![..]`. -/
def of (internal : List PortAction) : PortActionIterator where
  internal
  tlvs := []
  senderIdentity := default

def empty : PortActionIterator := of []

def fromFilter (update : FilterUpdate) : PortActionIterator :=
  match update.nextUpdate with
  | some duration => of [.resetFilterUpdateTimer duration]
  | none => empty

def withForwardTlvs (i : PortActionIterator) (tlvs : TlvSet) (senderIdentity : PortIdentity) :
    PortActionIterator :=
  { i with tlvs := tlvs.bytes, senderIdentity }

/-- The records that are forwarded, up to the end of the iterator. -/
def forwardedTlvs (p : Profile) (i : PortActionIterator) : Except Panic (List ForwardedTLV) := do
  let tlvs ← TlvSet.tlv p ⟨i.tlvs⟩
  return (tlvs.filter fun tlv => tlv.tlvType.announcePropagate).map fun tlv =>
    { tlv, senderIdentity := i.senderIdentity }

/-- All actions that the iterator yields. -/
def actions (p : Profile) (i : PortActionIterator) : Except Panic (List PortAction) := do
  let tlvs ← i.forwardedTlvs p
  return i.internal ++ tlvs.map .forwardTLV

end PortActionIterator

/-! ### The port -/

/-- `[u8; MAX_DATA_LEN]`. -/
structure PacketBuffer where
  bytes : List UInt8
  length_eq : bytes.length = maxDataLen

namespace PacketBuffer

def zero : PacketBuffer := ⟨List.replicate maxDataLen 0, List.length_replicate⟩

/-- `message.serialize(&mut self.packet_buffer)` and the packet `&self.packet_buffer[..length]`. -/
def serialize (p : Profile) (buffer : PacketBuffer) (message : Message) :
    Except Panic (PacketBuffer × List UInt8) :=
  match h : message.serialize p buffer.bytes with
  | .ok (out, length) => do
    let data ← readAt out 0 length
    return (⟨out, (Message.length_serialize h).trans buffer.length_eq⟩, data)
  | .error why => .error why

theorem serialize_of_ok {p : Profile} {buffer : PacketBuffer} {message : Message}
    {out : List UInt8} {n : Nat} (h : message.serialize p buffer.bytes = .ok (out, n))
    (hn : n ≤ out.length) : ∃ buffer', buffer.serialize p message = .ok (buffer', out.take n) := by
  unfold serialize
  split
  · rename_i out' length hout
    obtain ⟨rfl, rfl⟩ := Prod.mk.inj (Except.ok.inj (h.symm.trans hout))
    rw [readAt_eq_ok (Nat.zero_le _) hn, slice_zero, ok_bind]
    exact ⟨_, rfl⟩
  · rename_i why hout
    cases h.symm.trans hout

theorem serialize_eq_ok {p : Profile} {buffer buffer' : PacketBuffer} {message : Message}
    {data : List UInt8} (h : buffer.serialize p message = .ok (buffer', data)) :
    ∃ r, message.serialize p buffer.bytes = .ok r := by
  unfold serialize at h
  split at h
  · rename_i out length hout
    exact ⟨_, hout⟩
  · cases h

/-- **A packet that fits the buffer reads back as the message.** -/
theorem serialize_spec (p : Profile) (buffer : PacketBuffer) {message : Message}
    (h : message.InRange) (hsize : message.size ≤ maxDataLen) :
    ∃ buffer' data, buffer.serialize p message = .ok (buffer', data) ∧
      Message.deserialize data = .ok message := by
  have hroom : message.size ≤ buffer.bytes.length := by
    rw [buffer.length_eq]
    exact hsize
  obtain ⟨out, hout, hlength, -, hback⟩ := Message.serialize_spec p h hroom
  obtain ⟨buffer', hbuffer⟩ := serialize_of_ok hout (by rw [hlength]; exact hroom)
  exact ⟨buffer', _, hbuffer, hback⟩

/-- **A packet with an announce message** is read with what its codes stand for. -/
theorem serialize_announce_reads {p : Profile} {buffer buffer' : PacketBuffer} {message : Message}
    {announce : AnnounceMessage} {data : List UInt8} (hbody : message.body = .announce announce)
    (hheader : message.header.InRange) (hsame : announce.header = message.header)
    (ht : announce.originTimestamp.InRange) (haccepted : TlvSet.Accepted message.suffix.bytes)
    (hsize : message.size ≤ maxDataLen) (h : buffer.serialize p message = .ok (buffer', data)) :
    ∃ code source, announce.grandmasterClockQuality.clockAccuracy.toPrimitive p = .ok code ∧
      announce.timeSource.toPrimitive p = .ok source ∧
      Message.deserialize data = .ok { message with body := .announce (announce.decoded code source) } := by
  have hroom : message.size ≤ buffer.bytes.length := by
    rw [buffer.length_eq]
    exact hsize
  have hmax : maxDataLen = 1024 := rfl
  obtain ⟨⟨out, n⟩, hout⟩ := serialize_eq_ok h
  obtain ⟨code, source, hcode, hsource, hlength, rfl, hback⟩ :=
    Message.serialize_announce_reads hbody hheader hsame ht haccepted (by omega) hroom hout
  obtain ⟨buffer₁, hbuffer₁⟩ := serialize_of_ok hout (by rw [hlength]; exact hroom)
  obtain ⟨-, rfl⟩ := Prod.mk.inj (Except.ok.inj (hbuffer₁.symm.trans h))
  exact ⟨code, source, hcode, hsource, hback⟩

end PacketBuffer

/-- The type state of a port whose handlers can be called. -/
structure Running where

/-- The type state of a port that takes part in the best master clock algorithm. -/
structure InBmca where
  pendingAction : PortActionIterator
  localBest : Option BestAnnounceMessage

structure Port (L A R C F : Type) [Filter F] where
  config : PortConfig Unit
  filterConfig : Filter.Config F
  clock : C
  portIdentity : PortIdentity
  portState : PortState
  bmca : Bmca A
  packetBuffer : PacketBuffer
  lifecycle : L
  rng : R
  multiportDisable : Option Duration
  announceSeqIds : SequenceIdGenerator
  syncSeqIds : SequenceIdGenerator
  delaySeqIds : SequenceIdGenerator
  pdelaySeqIds : SequenceIdGenerator
  filter : F
  meanDelay : Option Duration
  peerDelayState : PeerDelayState
  handed : List Measurement

namespace Port

variable {L A R C F : Type} [Filter F]

/-- The other type state, with a fresh packet buffer. -/
def withLifecycle {L' : Type} (port : Port L A R C F) (lifecycle : L') : Port L' A R C F :=
  { port with packetBuffer := PacketBuffer.zero, lifecycle }

def startBmca (port : Port Running A R C F) : Port InBmca A R C F :=
  port.withLifecycle { pendingAction := .empty, localBest := none }

def endBmca (port : Port InBmca A R C F) : Port Running A R C F × PortActionIterator :=
  (port.withLifecycle ⟨⟩, port.lifecycle.pendingAction)

/-- Whether the port is steering its clock. -/
def isSteering (port : Port L A R C F) : Bool :=
  match port.portState with
  | .slave _ => true
  | _ => false

def isMaster (port : Port L A R C F) : Bool := decide (port.portState = .master)

/-- The filter is replaced when the old state is a slave, or when either state is faulty. -/
def setForcedPortState [Clock C] (port : Port L A R C F) (state : PortState) : Port L A R C F :=
  if port.isSteering = true ∨ port.portState = .faulty ∨ state = .faulty then
    { port with
      portState := state
      filter := Filter.new port.filterConfig
      clock := Filter.demobilize port.filter port.clock }
  else { port with portState := state }

/-- `Port::new`. -/
def new [Rng R] (p : Profile) (config : PortConfig A) (filterConfig : Filter.Config F) (clock : C)
    (portIdentity : PortIdentity) (rng : R) : Except Panic (Port InBmca A R C F) := do
  let (duration, rng) ← config.announceDuration rng
  let announceInterval ← config.announceInterval.asDuration p
  return {
    config := { config with acceptableMasterList := () }
    filterConfig
    clock
    portIdentity
    portState := .listening
    bmca := Bmca.new config.acceptableMasterList (TimeInterval.ofDuration announceInterval)
      portIdentity
    packetBuffer := PacketBuffer.zero
    lifecycle := {
      pendingAction := .of [.resetAnnounceReceiptTimer duration]
      localBest := none }
    rng
    multiportDisable := none
    announceSeqIds := .new
    syncSeqIds := .new
    delaySeqIds := .new
    pdelaySeqIds := .new
    filter := Filter.new filterConfig
    meanDelay := none
    peerDelayState := .empty
    handed := [] }

end Port

/-! ### The port of the unit tests -/

/-- A clock whose calls succeed and do nothing. -/
structure TestClock where

instance : Clock TestClock where
  now _ := default
  stepClock clock _ := (clock, some default)
  setFrequency clock _ := (clock, some default)
  setProperties clock _ := (clock, some ())

/-- A filter that keeps the last measurement. -/
structure TestFilter where
  lastMeasurement : Option Measurement

instance : Filter TestFilter where
  Config := Unit
  new _ := { lastMeasurement := none }
  measurement _ m clock :=
    ({ lastMeasurement := some m }, clock, { nextUpdate := none, meanDelay := m.delay })
  update filter clock := (filter, clock, { nextUpdate := none, meanDelay := none })
  demobilize _ clock := clock

/-- A generator that always yields the same number. -/
structure TestRng where

instance : Rng TestRng := ⟨fun rng => (1 / 2, rng)⟩

/-- The port configuration of `setup_test_port`. -/
def testPortConfig : PortConfig AcceptAnyMaster where
  acceptableMasterList := ⟨⟩
  delayMechanism := .e2e ⟨1⟩
  announceInterval := ⟨1⟩
  announceReceiptTimeout := 3
  syncInterval := ⟨0⟩
  masterOnly := false
  delayAsymmetry := Duration.zero
  minorPtpVersion := .one

/-- The instance configuration of `setup_test_state`. -/
def testInstanceConfig : InstanceConfig where
  clockIdentity := default
  priority1 := 255
  priority2 := 255
  domainNumber := 0
  sdoId := default
  slaveOnly := false
  pathTrace := false
  clockQuality := {
    clockClass := 248
    clockAccuracy := .unknown
    offsetScaledLogVariance := 0x8000 - 23 * 256 }

abbrev TestPort := Port Running AcceptAnyMaster TestRng TestClock TestFilter

/-- The port of `setup_test_port` with this identity, in this state. -/
def testPort (portIdentity : PortIdentity) (portState : PortState) : TestPort where
  config := { testPortConfig with acceptableMasterList := () }
  filterConfig := ()
  clock := ⟨⟩
  portIdentity
  portState
  bmca := Bmca.new ⟨⟩ ⟨⟨0⟩⟩ portIdentity
  packetBuffer := PacketBuffer.zero
  lifecycle := ⟨⟩
  rng := ⟨⟩
  multiportDisable := none
  announceSeqIds := .new
  syncSeqIds := .new
  delaySeqIds := .new
  pdelaySeqIds := .new
  filter := { lastMeasurement := none }
  meanDelay := none
  peerDelayState := .empty
  handed := []

end Statime
