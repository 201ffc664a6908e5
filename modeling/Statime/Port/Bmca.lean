import Statime.Rust.Iter
import Statime.Port.Basic

/-!
# A port and the best master clock algorithm

`statime/src/port/bmca.rs`: announce messages that a running port receives, and what a port
does with the state that the algorithm recommends for it.
-/

namespace Statime

open Rust

/-! ### Receiving announce messages -/

/-- `<[u8; 8]>::try_from(ci)` of an entry of the path trace. -/
def pathTraceEntries (value : List UInt8) : List ClockIdentity :=
  (chunksExact 8 value).map ClockIdentity.ofWire

namespace PtpInstanceState

/-- The updates that an announce message of the parent makes to the datasets of a slave, and
whether a clock loop was detected.  The datasets are written before the path trace is looked
at. -/
def updateFromParent (p : Profile) (s : PtpInstanceState) (message : Message)
    (announce : AnnounceMessage) : Except Panic (PtpInstanceState × Bool) := do
  let stepsRemoved ← overflow p (decide (announce.stepsRemoved = 0xffff)) (announce.stepsRemoved + 1)
  let s := { s with
    currentDs := { stepsRemoved }
    parentDs := {
      parentPortIdentity := announce.header.sourcePortIdentity
      grandmasterIdentity := announce.grandmasterIdentity
      grandmasterClockQuality := announce.grandmasterClockQuality
      grandmasterPriority1 := announce.grandmasterPriority1
      grandmasterPriority2 := announce.grandmasterPriority2 }
    timePropertiesDs := announce.timeProperties }
  if s.pathTraceDs.enable then
    match ← message.suffix.find p fun tlv => decide (tlv.tlvType = .pathTrace) with
    | some tlv =>
      if (pathTraceEntries tlv.value).contains s.defaultDs.clockIdentity then return (s, true)
      else
        let list ← ArrayVec.collect (pathTraceEntries tlv.value)
        return ({ s with pathTraceDs := { s.pathTraceDs with list } }, false)
    | none => return (s, false)
  else return (s, false)

end PtpInstanceState

namespace Port

section Announces

variable {A R C F : Type} [AcceptableMasterList A] [Clock C] [Filter F] [Rng R]

/-- Whether the announce message is the one of the parent that a slave follows. -/
def isFromParent (s : PtpInstanceState) (port : Port Running A R C F) (announce : AnnounceMessage) :
    Bool :=
  port.isSteering &&
    decide (announce.header.sourcePortIdentity = s.parentDs.parentPortIdentity)

/-- Announce messages of the parent update the datasets of a slave. -/
def updateDatasets (p : Profile) (s : PtpInstanceState) (port : Port Running A R C F)
    (message : Message) (announce : AnnounceMessage) : Except Panic (PtpInstanceState × Bool) :=
  if port.isFromParent s announce then s.updateFromParent p message announce else .ok (s, false)

/-- A message of a lower port of the same clock makes the port passive. -/
def checkMultiport (port : Port Running A R C F) (message : Message) : Port Running A R C F :=
  if port.portIdentity.clockIdentity = message.header.sourcePortIdentity.clockIdentity ∧
      message.header.sourcePortIdentity.portNumber < port.portIdentity.portNumber then
    { port with multiportDisable := some Duration.zero }.setForcedPortState .passive
  else port

/-- The message goes to the foreign master list.  The check for multiple ports on one network
comes after it, so that the acceptable master list can block it. -/
def registerAnnounce (p : Profile) (port : Port Running A R C F) (message : Message)
    (announce : AnnounceMessage) : Except Panic (Port Running A R C F × PortActionIterator) := do
  let (bmca, stored) ← port.bmca.registerAnnounceMessage p message.header announce
  if stored then
    let port := { port with bmca }.checkMultiport message
    let (duration, rng) ← port.config.announceDuration port.rng
    return ({ port with rng },
      (PortActionIterator.of [.resetAnnounceReceiptTimer duration]).withForwardTlvs message.suffix
        message.header.sourcePortIdentity)
  else return ({ port with bmca }, .empty)

def handleAnnounce (p : Profile) (s : PtpInstanceState) (port : Port Running A R C F)
    (message : Message) (announce : AnnounceMessage) :
    Except Panic (Port Running A R C F × PtpInstanceState × PortActionIterator) := do
  let (s, clockLoopDetected) ← port.updateDatasets p s message announce
  if clockLoopDetected then return (port, s, .empty)
  else
    let (port, actions) ← port.registerAnnounce p message announce
    return (port, s, actions)

/-! ### Recommended states -/

def calculateBestLocalAnnounceMessage (p : Profile) (port : Port InBmca A R C F) :
    Except Panic (Port InBmca A R C F) := do
  let (localBest, bmca) ← port.bmca.takeBestPortAnnounceMessage p
  return { port with bmca, lifecycle := { port.lifecycle with localBest } }

end Announces

section Recommended

variable {A R C F : Type} [Filter F]

/-- The age since the port was disabled, for as long as it is shorter than the announce
interval. -/
def stepMultiportDisable (p : Profile) (announceInterval : Interval) (step : Duration) :
    Option Duration → Except Panic (Option Duration)
  | some age => do
    let age ← age.add p step
    let interval ← announceInterval.asDuration p
    return if age.lt interval then some age else none
  | none => .ok none

def stepAnnounceAge (p : Profile) (port : Port InBmca A R C F) (step : Duration) :
    Except Panic (Port InBmca A R C F) := do
  let multiportDisable ← stepMultiportDisable p port.config.announceInterval step
    port.multiportDisable
  let bmca ← port.bmca.stepAge p step
  return { port with multiportDisable, bmca }

/-- Announce messages of a master-only or faulty port are not considered for the whole
instance. -/
def bestLocalAnnounceMessageForBmca (port : Port InBmca A R C F) : Option BestAnnounceMessage :=
  if port.config.masterOnly = true ∨ port.portState = .faulty then none
  else port.lifecycle.localBest

def bestLocalAnnounceMessageForState (port : Port InBmca A R C F) : Option BestAnnounceMessage :=
  port.lifecycle.localBest

variable [Clock C] [Rng R]

/-- Forget the pending actions for these. -/
def withPendingAction (port : Port InBmca A R C F) (actions : List PortAction) :
    Port InBmca A R C F :=
  { port with lifecycle := { port.lifecycle with pendingAction := .of actions } }

def recommendSlave (p : Profile) (port : Port InBmca A R C F) (announceMessage : AnnounceMessage) :
    Except Panic (Port InBmca A R C F) := do
  debugAssert p (!port.config.masterOnly)
  let remoteMaster := announceMessage.header.sourcePortIdentity
  if port.portState.entersSlave remoteMaster then
    let port := port.setForcedPortState (.slave (SlaveState.new remoteMaster))
    let (duration, rng) ← port.config.announceDuration port.rng
    return { port with rng }.withPendingAction
      [.resetAnnounceReceiptTimer duration, .resetDelayRequestTimer 0]
  else return port

def recommendMaster (port : Port InBmca A R C F) (slaveOnly : Bool) :
    Except Panic (Port InBmca A R C F) :=
  if slaveOnly then
    match port.portState with
    | .listening | .faulty => .ok port
    | .slave _ | .passive | .master => do
      let port := port.setForcedPortState .listening
      let (duration, rng) ← port.config.announceDuration port.rng
      return { port with rng }.withPendingAction [.resetAnnounceReceiptTimer duration]
  else if port.multiportDisable.isSome then
    if port.portState = .passive then .ok port else .ok (port.setForcedPortState .passive)
  else
    match port.portState with
    | .listening | .slave _ | .passive =>
      .ok ((port.setForcedPortState .master).withPendingAction
        [.resetAnnounceTimer 0, .resetSyncTimer 0])
    | .master | .faulty => .ok port

def recommendPassive (port : Port InBmca A R C F) : Port InBmca A R C F :=
  match port.portState with
  | .listening | .slave _ | .master => port.setForcedPortState .passive
  | .passive | .faulty => port

def setRecommendedPortState (p : Profile) (port : Port InBmca A R C F)
    (recommendedState : RecommendedState) (defaultDs : InternalDefaultDS) :
    Except Panic (Port InBmca A R C F) :=
  match recommendedState with
  | .s1 announceMessage => port.recommendSlave p announceMessage
  | .m1 _ | .m2 _ | .m3 _ => port.recommendMaster defaultDs.slaveOnly
  | .p1 _ | .p2 _ => .ok port.recommendPassive

end Recommended

end Port

/-- The datasets of an instance that is its own grandmaster. -/
def PtpInstanceState.becomeGrandmaster (s : PtpInstanceState) (defaultDs : InternalDefaultDS) :
    PtpInstanceState :=
  { s with
    currentDs := { stepsRemoved := 0 }
    parentDs := {
      parentPortIdentity := { clockIdentity := defaultDs.clockIdentity, portNumber := 0 }
      grandmasterIdentity := defaultDs.clockIdentity
      grandmasterClockQuality := defaultDs.clockQuality
      grandmasterPriority1 := defaultDs.priority1
      grandmasterPriority2 := defaultDs.priority2 }
    timePropertiesDs := {
      leapIndicator := .noLeap
      currentUtcOffset := none
      ptpTimescale := true
      timeTraceable := false
      frequencyTraceable := false
      timeSource := .internalOscillator }
    pathTraceDs := { s.pathTraceDs with list := ArrayVec.new } }

/-- The datasets of an instance that follows the sender of the message. -/
def PtpInstanceState.follow (p : Profile) (s : PtpInstanceState)
    (announceMessage : AnnounceMessage) : Except Panic PtpInstanceState := do
  let stepsRemoved ← overflow p (decide (announceMessage.stepsRemoved = 0xffff))
    (announceMessage.stepsRemoved + 1)
  return { s with
    currentDs := { stepsRemoved }
    parentDs := {
      parentPortIdentity := announceMessage.header.sourcePortIdentity
      grandmasterIdentity := announceMessage.grandmasterIdentity
      grandmasterClockQuality := announceMessage.grandmasterClockQuality
      grandmasterPriority1 := announceMessage.grandmasterPriority1
      grandmasterPriority2 := announceMessage.grandmasterPriority2 }
    timePropertiesDs := announceMessage.timeProperties }

namespace Port

variable {A R C F : Type} [Clock C] [Filter F] [Rng R]

def setRecommendedState (p : Profile) (s : PtpInstanceState) (port : Port InBmca A R C F)
    (recommendedState : RecommendedState) :
    Except Panic (Port InBmca A R C F × PtpInstanceState) := do
  let port ← port.setRecommendedPortState p recommendedState s.defaultDs
  match recommendedState with
  | .m1 defaultDs | .m2 defaultDs =>
    debugAssert p (!s.defaultDs.slaveOnly)
    return (port, s.becomeGrandmaster defaultDs)
  | .m3 _ | .p1 _ | .p2 _ => return (port, s)
  | .s1 announceMessage =>
    debugAssert p (!port.config.masterOnly)
    let s ← s.follow p announceMessage
    let (clock, _) := Clock.setProperties port.clock s.timePropertiesDs
    return ({ port with clock }, s)

end Port

end Statime
