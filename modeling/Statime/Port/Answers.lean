import Statime.Port.Handle

/-!
# The answers to a peer delay request

The response and its follow-up are handled alike: both are checked in the same way, and stored when the
exchange lacks them.

* `handlePeerDelayResponse_eq`, `handlePeerDelayResponseFollowUp_eq`: the two handlers are one.
-/

namespace Statime

open Rust

/-! ### What an exchange lacks -/

/-- There was no peer delay response yet. -/
def PeerDelayState.lacksResponse : PeerDelayState → Bool
  | .measuring _ _ _ _ _ responseRecvTime => responseRecvTime.isNone
  | _ => false

/-- It is not known yet when the response was sent. -/
def PeerDelayState.lacksFollowUp : PeerDelayState → Bool
  | .measuring _ _ _ _ responseSendTime _ => responseSendTime.isNone
  | _ => false

namespace Port

variable {A R C F : Type} [Clock C] [Filter F]

/-- Two devices answered. -/
theorem conflict_iff {responder : Option PortIdentity} {source : PortIdentity} :
    responder.any (fun identity => decide (identity ≠ source)) = true ↔
      ¬ ∀ identity, responder = some identity → identity = source := by
  cases responder <;> simp

/-- What a port does with an answer to its peer delay request: both kinds of answers are checked
alike, and stored when the exchange lacks them. -/
def handleAnswer (p : Profile) (port : Port Running A R C F) (header : Header)
    (requesting : PortIdentity) (lacks : PeerDelayState → Bool)
    (stored : Except Panic PeerDelayState) :
    Except Panic (Port Running A R C F × PortActionIterator) :=
  if port.portIdentity ≠ requesting then .ok (port, .empty)
  else
    match port.peerDelayState with
    | .postMeasurement id responder =>
      if id = header.sequenceId ∧ responder ≠ header.sourcePortIdentity then
        .ok (port.setForcedPortState .faulty, .empty)
      else .ok (port, .empty)
    | .measuring id responder _ _ _ _ =>
      if id = header.sequenceId then
        if responder.any (fun identity => decide (identity ≠ header.sourcePortIdentity)) then
          .ok (port.setForcedPortState .faulty, .empty)
        else if lacks port.peerDelayState then do
          let state ← stored
          (port.withPeerDelayState state).handleTimeMeasurement p
        else .ok (port, .empty)
      else .ok (port, .empty)
    | .empty => .ok (port, .empty)

/-- The exchange with a peer delay response. -/
def storedResponse (p : Profile) (header : Header) (message : PDelayRespMessage) (recvTime : Time) :
    PeerDelayState → Except Panic PeerDelayState
  | .measuring id _ requestSendTime _ responseSendTime _ => do
    let recvTime ← recvTime.sub p (Duration.ofTimeInterval header.correctionField)
    let requestRecvTime := Time.ofWireTimestamp message.requestReceiveTimestamp
    return .measuring id (some header.sourcePortIdentity) requestSendTime (some requestRecvTime)
      (if header.twoStepFlag then responseSendTime else some requestRecvTime) (some recvTime)
  | state => .ok state

/-- The exchange with the follow-up of a peer delay response. -/
def storedFollowUp (p : Profile) (header : Header) (message : PDelayRespFollowUpMessage) :
    PeerDelayState → Except Panic PeerDelayState
  | .measuring id _ requestSendTime requestRecvTime _ responseRecvTime => do
    let responseSendTime ← (Time.ofWireTimestamp message.responseOriginTimestamp).add p
      (Duration.ofTimeInterval header.correctionField)
    return .measuring id (some header.sourcePortIdentity) requestSendTime requestRecvTime
      (some responseSendTime) responseRecvTime
  | state => .ok state

theorem handlePeerDelayResponse_eq (p : Profile) (port : Port Running A R C F) (header : Header)
    (message : PDelayRespMessage) (recvTime : Time) :
    port.handlePeerDelayResponse p header message recvTime =
      port.handleAnswer p header message.requestingPortIdentity PeerDelayState.lacksResponse
        (storedResponse p header message recvTime port.peerDelayState) := by
  unfold handlePeerDelayResponse handleAnswer
  cases hpeer : port.peerDelayState with
  | empty => rfl
  | postMeasurement id responder => rfl
  | measuring id responder t1 t2 t3 t4 =>
    cases t4 with
    | some t4 => rfl
    | none =>
      simp only [PeerDelayState.lacksResponse, storedResponse]
      cases recvTime.sub p (Duration.ofTimeInterval header.correctionField) <;> rfl

theorem handlePeerDelayResponseFollowUp_eq (p : Profile) (port : Port Running A R C F)
    (header : Header) (message : PDelayRespFollowUpMessage) :
    port.handlePeerDelayResponseFollowUp p header message =
      port.handleAnswer p header message.requestingPortIdentity PeerDelayState.lacksFollowUp
        (storedFollowUp p header message port.peerDelayState) := by
  unfold handlePeerDelayResponseFollowUp handleAnswer
  cases hpeer : port.peerDelayState with
  | empty => rfl
  | postMeasurement id responder => rfl
  | measuring id responder t1 t2 t3 t4 =>
    cases t3 with
    | some t3 => rfl
    | none =>
      simp only [PeerDelayState.lacksFollowUp, storedFollowUp]
      cases (Time.ofWireTimestamp message.responseOriginTimestamp).add p
        (Duration.ofTimeInterval header.correctionField) <;> rfl

end Port

end Statime
