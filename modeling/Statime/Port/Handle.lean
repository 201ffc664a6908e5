import Statime.Port.Bmca
import Statime.Port.Master
import Statime.Port.Slave

/-!
# The handlers of a running port

The public methods of `Port<Running>` in `statime/src/port/mod.rs`: received packets, timers
and transmit timestamps.
-/

namespace Statime

open Rust

namespace Port

variable {A R C F T : Type} [AcceptableMasterList A] [Clock C] [Filter F] [Rng R]

def handleSendTimestamp (p : Profile) (s : PtpInstanceState) (port : Port Running A R C F)
    (context : TimestampContext) (timestamp : Time) :
    Except Panic (Port Running A R C F × PortActionIterator) :=
  match context with
  | .sync id => port.handleSyncTimestamp p s id timestamp
  | .delayReq id => port.handleDelayTimestamp p id timestamp
  | .pDelayReq id => port.handlePdelayTimestamp p id timestamp
  | .pDelayResp id requestorIdentity =>
    port.handlePdelayResponseTimestamp p s id requestorIdentity timestamp

def handleAnnounceTimer [ForwardedTLVProvider T] (p : Profile) (s : PtpInstanceState)
    (port : Port Running A R C F) (provider : T) :
    Except Panic (Port Running A R C F × T × PortActionIterator) :=
  port.sendAnnounce p s provider

def handleSyncTimer (p : Profile) (s : PtpInstanceState) (port : Port Running A R C F) :
    Except Panic (Port Running A R C F × PortActionIterator) := port.sendSync p s

def handleDelayRequestTimer (p : Profile) (s : PtpInstanceState) (port : Port Running A R C F) :
    Except Panic (Port Running A R C F × PortActionIterator) := port.sendDelayRequest p s

/-- Without announce messages a slave-only port listens again, and any other port becomes a
master and starts to send at once. -/
def handleAnnounceReceiptTimer (s : PtpInstanceState) (port : Port Running A R C F) :
    Except Panic (Port Running A R C F × PortActionIterator) :=
  if s.defaultDs.slaveOnly then do
    let port := if port.portState = .listening then port else port.setForcedPortState .listening
    let (duration, rng) ← port.config.announceDuration port.rng
    return ({ port with rng }, .of [.resetAnnounceReceiptTimer duration])
  else
    let port := if port.portState = .master then port else port.setForcedPortState .master
    .ok (port, .of [.resetAnnounceTimer 0, .resetSyncTimer 0])

def handleFilterUpdateTimer (port : Port Running A R C F) :
    Port Running A R C F × PortActionIterator :=
  let (filter, clock, update) := Filter.update port.filter port.clock
  ({ port with filter, clock, meanDelay := update.meanDelay.or port.meanDelay },
    .fromFilter update)

/-- The message, unless it is of another version, does not parse or is of another domain.  A
panic of the parser passes through. -/
def parseAndFilter (s : PtpInstanceState) (data : List UInt8) : Except Panic (Option Message) :=
  if isCompatible data = false then .ok none
  else
    match Message.deserialize data with
    | .error (.panic why) => .error why
    | .error (.error _) => .ok none
    | .ok message =>
      if message.header.sdoId = s.defaultDs.sdoId ∧
          message.header.domainNumber = s.defaultDs.domainNumber then .ok (some message)
      else .ok none

/-- Event messages over the general interface are ignored. -/
def handleGeneralInternal (p : Profile) (s : PtpInstanceState) (port : Port Running A R C F)
    (message : Message) :
    Except Panic (Port Running A R C F × PtpInstanceState × PortActionIterator) :=
  match message.body with
  | .announce announce => port.handleAnnounce p s message announce
  | .followUp followUp => do
    let (port, actions) ← port.handleFollowUp p message.header followUp
    return (port, s, actions)
  | .delayResp delayResponse => do
    let (port, actions) ← port.handleDelayResp p message.header delayResponse
    return (port, s, actions)
  | .pDelayRespFollowUp followUp => do
    let (port, actions) ← port.handlePeerDelayResponseFollowUp p message.header followUp
    return (port, s, actions)
  | .sync _ | .delayReq _ | .pDelayReq _ | .pDelayResp _ => .ok (port, s, .empty)
  | .management _ | .signaling _ => .ok (port, s, .empty)

/-- A message over the event channel. -/
def handleEventMessage (p : Profile) (s : PtpInstanceState) (port : Port Running A R C F)
    (message : Message) (timestamp : Time) :
    Except Panic (Port Running A R C F × PtpInstanceState × PortActionIterator) :=
  match message.body with
  | .sync sync => do
    let (port, actions) ← port.handleSync p message.header sync timestamp
    return (port, s, actions)
  | .delayReq _ => do
    let (port, actions) ← port.handleDelayReq p message.header timestamp
    return (port, s, actions)
  | .pDelayReq _ => do
    let (port, actions) ← port.handlePdelayReq p s message.header timestamp
    return (port, s, actions)
  | .pDelayResp response => do
    let (port, actions) ← port.handlePeerDelayResponse p message.header response timestamp
    return (port, s, actions)
  | _ => port.handleGeneralInternal p s message

def handleEventReceive (p : Profile) (s : PtpInstanceState) (port : Port Running A R C F)
    (data : List UInt8) (timestamp : Time) :
    Except Panic (Port Running A R C F × PtpInstanceState × PortActionIterator) := do
  match ← parseAndFilter s data with
  | none => return (port, s, .empty)
  | some message => port.handleEventMessage p s message timestamp

def handleGeneralReceive (p : Profile) (s : PtpInstanceState) (port : Port Running A R C F)
    (data : List UInt8) :
    Except Panic (Port Running A R C F × PtpInstanceState × PortActionIterator) := do
  match ← parseAndFilter s data with
  | none => return (port, s, .empty)
  | some message => port.handleGeneralInternal p s message

section Received

variable {p : Profile} {s s' : PtpInstanceState} {port port' : Port Running A R C F} {data : List UInt8}
  {timestamp : Time} {actions : PortActionIterator}

/-- **A message** is dropped, or handled. -/
theorem handleEventReceive_cases
    (h : port.handleEventReceive p s data timestamp = .ok (port', s', actions)) :
    (parseAndFilter s data = .ok none ∧ port' = port ∧ s' = s ∧ actions = .empty) ∨
      ∃ message, parseAndFilter s data = .ok (some message) ∧
        port.handleEventMessage p s message timestamp = .ok (port', s', actions) := by
  obtain ⟨message, hparse, h⟩ := bind_eq_ok.mp h
  cases message with
  | none =>
    obtain ⟨rfl, rfl, rfl⟩ := Except.ok.inj h
    exact Or.inl ⟨hparse, rfl, rfl, rfl⟩
  | some message => exact Or.inr ⟨message, hparse, h⟩

theorem handleGeneralReceive_cases
    (h : port.handleGeneralReceive p s data = .ok (port', s', actions)) :
    (parseAndFilter s data = .ok none ∧ port' = port ∧ s' = s ∧ actions = .empty) ∨
      ∃ message, parseAndFilter s data = .ok (some message) ∧
        port.handleGeneralInternal p s message = .ok (port', s', actions) := by
  obtain ⟨message, hparse, h⟩ := bind_eq_ok.mp h
  cases message with
  | none =>
    obtain ⟨rfl, rfl, rfl⟩ := Except.ok.inj h
    exact Or.inl ⟨hparse, rfl, rfl, rfl⟩
  | some message => exact Or.inr ⟨message, hparse, h⟩

end Received

end Port

end Statime
