import Mbv.Queue.PlaybackQueue

namespace Mbv.Player

open Mbv.Queue

abbrev PlaybackRequestId := UInt64

abbrev PlaybackGeneration := UInt64

abbrev Instant := Nat

def inFlightTransitionTimeout : Nat := 5000000000

inductive Direction where
  | next
  | previous
deriving DecidableEq

inductive TransitionCause where
  | jump
  | step (direction : Direction)
deriving DecidableEq

structure Transition where
  requestId : PlaybackRequestId
  generation : PlaybackGeneration
  target : QueueSlotId
  cause : TransitionCause
deriving DecidableEq

def Transition.new (requestId : PlaybackRequestId) (generation : PlaybackGeneration)
    (target : QueueSlotId) : Transition :=
  ⟨requestId, generation, target, .jump⟩

inductive DispatchDecision where
  | dispatchNow (transition : Transition)
  | queued (superseded : Option Transition)

inductive SettleOutcome where
  | settled (dispatchNext : Option Transition)
  | ignored

inductive ExpireOutcome where
  | pending
  | expired (expired : Transition) (dispatchNext : Option Transition)

structure OwnerTransitionState where
  inFlight : Option Transition := none
  queuedLatest : Option Transition := none
  inFlightDeadline : Option Instant := none
  nextLocalId : UInt64 := 0
deriving DecidableEq

namespace OwnerTransitionState

def accept (state : OwnerTransitionState) (transition : Transition) :
    DispatchDecision × OwnerTransitionState :=
  if state.inFlight.isNone then
    (.dispatchNow transition,
      { state with inFlight := some transition, inFlightDeadline := none })
  else
    (.queued state.queuedLatest, { state with queuedLatest := some transition })

def mintLocalId (state : OwnerTransitionState) :
    (PlaybackRequestId × PlaybackGeneration) × OwnerTransitionState :=
  ((state.nextLocalId + 1, state.nextLocalId + 1),
    { state with nextLocalId := state.nextLocalId + 1 })

/-- The queued transition, if any, goes in flight; its deadline is not armed yet. -/
def promote (state : OwnerTransitionState) : OwnerTransitionState :=
  { state with inFlight := state.queuedLatest, queuedLatest := none, inFlightDeadline := none }

def settle (state : OwnerTransitionState) (observedRequestId : PlaybackRequestId)
    (observedSlot : QueueSlotId) : SettleOutcome × OwnerTransitionState :=
  match state.inFlight with
  | some transition =>
    if transition.requestId = observedRequestId ∧ transition.target = observedSlot then
      (.settled state.queuedLatest, state.promote)
    else
      (.ignored, state)
  | none => (.ignored, state)

def clearUnconfirmable (state : OwnerTransitionState) : OwnerTransitionState :=
  { state with queuedLatest := none }

def reset (state : OwnerTransitionState) : OwnerTransitionState :=
  { state with inFlight := none, queuedLatest := none, inFlightDeadline := none }

def expire (state : OwnerTransitionState) (now : Instant) :
    ExpireOutcome × OwnerTransitionState :=
  match state.inFlight with
  | none => (.pending, state)
  | some expired =>
    match state.inFlightDeadline with
    | none =>
      (.pending, { state with inFlightDeadline := some (now + inFlightTransitionTimeout) })
    | some deadline =>
      if deadline ≤ now then
        (.expired expired state.queuedLatest, state.promote)
      else
        (.pending, state)

def expireNow (state : OwnerTransitionState) :
    Option (Transition × Option Transition) × OwnerTransitionState :=
  match state.inFlight with
  | none => (none, state)
  | some expired => (some (expired, state.queuedLatest), state.promote)

end OwnerTransitionState

end Mbv.Player
