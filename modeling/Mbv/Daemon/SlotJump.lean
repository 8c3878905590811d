import Mbv.Player.OwnerState
import Mbv.Daemon.QueueEdit

namespace Mbv.Daemon

open Mbv.Queue Mbv.Player

inductive Delivery where
  | liveRun
  /-- No run is alive, so the queue is submitted from the target on. -/
  | coldStart (accepted : Bool)
  /-- A receiver or a Session is told to load the target. -/
  | remote (started : Bool)
  /-- The Session does not play the target; what its expiry promotes is delivered next. -/
  | refused (next : Delivery)

def resetSlotJumps (owner : PlayerOwnerState) : PlayerOwnerState :=
  { owner with transitions := owner.transitions.reset }

def coldStartAtSlot (owner : PlayerOwnerState) (accepted : Bool) (target : QueueSlotId) :
    PlayerOwnerState :=
  match owner.queue.slotIndex target with
  | none => owner
  | some _ =>
    if accepted then
      { owner with queue := (owner.queue.setActiveSlot target).2 }.noteObservedActiveSlot none
    else owner

def sendJumpOrColdStart (owner : PlayerOwnerState) (transition : Transition) :
    Delivery → PlayerOwnerState
  | .liveRun => owner
  | .coldStart accepted => coldStartAtSlot (resetSlotJumps owner) accepted transition.target
  | .remote started =>
    if started then
      { owner with queue := (owner.queue.setActiveSlot transition.target).2 }
    else owner
  | .refused next =>
    match owner.transitions.expireNow with
    | (some (_, some promoted), transitions) =>
      sendJumpOrColdStart { owner with transitions := transitions } promoted next
    | (_, transitions) => { owner with transitions := transitions }

def sendPromoted (owner : PlayerOwnerState) (dispatchNext : Option Transition)
    (delivery : Delivery) : PlayerOwnerState :=
  match dispatchNext with
  | some next => sendJumpOrColdStart owner next delivery
  | none => owner

def dispatchSlotJump (owner : PlayerOwnerState) (transition : Transition) (delivery : Delivery) :
    PlayerOwnerState :=
  match owner.transitions.accept transition with
  | (.dispatchNow transition, transitions) =>
    sendJumpOrColdStart { owner with transitions := transitions } transition delivery
  | (.queued _, transitions) => { owner with transitions := transitions }

def settleAndRedispatch (owner : PlayerOwnerState) (observedRequestId : PlaybackRequestId)
    (observedSlot : QueueSlotId) (delivery : Delivery) : PlayerOwnerState :=
  match owner.transitions.settle observedRequestId observedSlot with
  | (.settled dispatchNext, transitions) =>
    sendPromoted { owner with transitions := transitions } dispatchNext delivery
  | (.ignored, transitions) => { owner with transitions := transitions }

/-- A remote output shows the loaded slot; only a transition in flight to it settles. -/
def settleRemote (owner : PlayerOwnerState) (loadedSlot : QueueSlotId) (delivery : Delivery) :
    PlayerOwnerState :=
  match owner.transitions.inFlight.filter fun transition => transition.target = loadedSlot with
  | none => owner
  | some inFlight =>
    settleAndRedispatch (owner.noteObservedActiveSlot (some loadedSlot)) inFlight.requestId
      loadedSlot delivery

def handleTrackChanged (owner : PlayerOwnerState) (slotId : QueueSlotId)
    (transition : Option (PlaybackRequestId × PlaybackGeneration)) (delivery : Delivery) :
    PlayerOwnerState :=
  match owner.observeTrackChange slotId with
  | (none, owner) => owner
  | (some (_, resolved), owner) =>
    match transition with
    | some (requestId, _) => settleAndRedispatch owner requestId resolved delivery
    | none => owner

def expireAndRedispatch (owner : PlayerOwnerState) (now : Instant) (delivery : Delivery) :
    PlayerOwnerState :=
  match owner.transitions.expire now with
  | (.expired _ dispatchNext, transitions) =>
    sendPromoted { owner with transitions := transitions } dispatchNext delivery
  | (.pending, transitions) => { owner with transitions := transitions }

def expireRemote (owner : PlayerOwnerState) (delivery : Delivery) : PlayerOwnerState :=
  match owner.transitions.expireNow with
  | (some (_, dispatchNext), transitions) =>
    sendPromoted { owner with transitions := transitions } dispatchNext delivery
  | (none, transitions) => { owner with transitions := transitions }

def identify (owner : PlayerOwnerState)
    (request : Option (PlaybackRequestId × PlaybackGeneration)) :
    (PlaybackRequestId × PlaybackGeneration) × PlayerOwnerState :=
  match request with
  | some identity => (identity, owner)
  | none =>
    let (identity, transitions) := owner.transitions.mintLocalId
    (identity, { owner with transitions := transitions })

def stepToNeighborSlot (owner : PlayerOwnerState)
    (request : Option (PlaybackRequestId × PlaybackGeneration)) (direction : Direction)
    (delivery : Delivery) : PlayerOwnerState :=
  match owner.relativeStepTarget direction with
  | .jump slotId =>
    let (identity, owner) := identify owner request
    dispatchSlotJump owner ⟨identity.1, identity.2, slotId, .step direction⟩ delivery
  | .coalesced | .atEdge => owner

def handleQueuePlaySlot (owner : PlayerOwnerState) (slotId : QueueSlotId) (delivery : Delivery) :
    PlayerOwnerState :=
  if (owner.queue.slot slotId).isNone then owner
  else
    let (identity, owner) := identify owner none
    dispatchSlotJump owner (.new identity.1 identity.2 slotId) delivery

/-! ### What the owner names stays in its queue -/

section Live

variable {owner : PlayerOwnerState}

theorem live_promote (live : owner.Live) : { owner with transitions := owner.transitions.promote }.Live :=
  ⟨live.observed, live.active, live.queued, fun _ => nofun⟩

theorem live_coldStart (live : owner.Live) (accepted : Bool) (target : QueueSlotId) :
    (coldStartAtSlot owner accepted target).Live := by
  unfold coldStartAtSlot
  split
  · exact live
  · split
    · exact (live.setActiveSlot target).note fun _ => (by simp)
    · exact live

theorem expireNow_spec (transitions : OwnerTransitionState) :
    (transitions.expireNow).2 = transitions ∨ (transitions.expireNow).2 = transitions.promote := by
  unfold OwnerTransitionState.expireNow
  split
  · exact .inl rfl
  · exact .inr rfl

theorem live_expireNow (live : owner.Live) : { owner with transitions := owner.transitions.expireNow.2 }.Live := by
  rcases expireNow_spec owner.transitions with same | promoted
  · rw [same]
    exact live
  · rw [promoted]
    exact live_promote live

theorem live_send (live : owner.Live) (transition : Transition) (delivery : Delivery) :
    (sendJumpOrColdStart owner transition delivery).Live := by
  induction delivery generalizing owner transition with
  | liveRun => exact live
  | coldStart accepted => exact live_coldStart live.reset accepted transition.target
  | remote started =>
    unfold sendJumpOrColdStart
    split
    · exact live.setActiveSlot transition.target
    · exact live
  | refused next ih =>
    have expired := live_expireNow live
    unfold sendJumpOrColdStart
    split
    · rename_i promoted transitions outcome
      rw [outcome] at expired
      exact ih expired promoted
    · rename_i transitions other outcome
      rw [outcome] at expired
      exact expired

theorem live_sendPromoted (live : owner.Live) (dispatchNext : Option Transition)
    (delivery : Delivery) : (sendPromoted owner dispatchNext delivery).Live := by
  cases dispatchNext with
  | none => exact live
  | some next => exact live_send live next delivery

theorem accept_spec (transitions : OwnerTransitionState) (transition : Transition) :
    transitions.accept transition = (.dispatchNow transition,
        { transitions with inFlight := some transition, inFlightDeadline := none }) ∨
      transitions.accept transition = (.queued transitions.queuedLatest,
        { transitions with queuedLatest := some transition }) := by
  unfold OwnerTransitionState.accept
  split
  · exact .inl rfl
  · exact .inr rfl

theorem settle_spec (transitions : OwnerTransitionState) (requestId : PlaybackRequestId) (slotId : QueueSlotId) :
    transitions.settle requestId slotId = (.ignored, transitions) ∨ transitions.settle requestId slotId =
        (.settled transitions.queuedLatest, transitions.promote) := by
  unfold OwnerTransitionState.settle
  split
  · split
    · exact .inr rfl
    · exact .inl rfl
  · exact .inl rfl

theorem expire_spec (transitions : OwnerTransitionState) (now : Instant) : (∃ deadline, transitions.expire now =
        (.pending, { transitions with inFlightDeadline := deadline })) ∨
      ∃ expired, transitions.expire now = (.expired expired transitions.queuedLatest, transitions.promote) := by
  unfold OwnerTransitionState.expire
  split
  · exact .inl ⟨transitions.inFlightDeadline, rfl⟩
  · rename_i expired flying
    split
    · exact .inl ⟨some (now + inFlightTransitionTimeout), rfl⟩
    · split
      · exact .inr ⟨expired, rfl⟩
      · exact .inl ⟨transitions.inFlightDeadline, rfl⟩

theorem live_dispatch (live : owner.Live) {transition : Transition} (delivery : Delivery)
    (held : transition.target ∈ owner.queue.slotIds) :
    (dispatchSlotJump owner transition delivery).Live := by
  have target : ∀ accepted ∈ some transition, accepted.target ∈ owner.queue.slotIds :=
    fun accepted same => Option.some.inj same ▸ held
  unfold dispatchSlotJump
  rcases accept_spec owner.transitions transition with accepted | accepted
  · have flying : { owner with transitions := { owner.transitions with
        inFlight := some transition, inFlightDeadline := none } }.Live :=
      ⟨live.observed, live.active, target, live.queued⟩
    rw [accepted]
    exact live_send flying transition delivery
  · rw [accepted]
    exact ⟨live.observed, live.active, live.inFlight, target⟩

theorem live_settle (live : owner.Live) (observedRequestId : PlaybackRequestId)
    (observedSlot : QueueSlotId) (delivery : Delivery) :
    (settleAndRedispatch owner observedRequestId observedSlot delivery).Live := by
  unfold settleAndRedispatch
  rcases settle_spec owner.transitions observedRequestId observedSlot with outcome | outcome
  · rw [outcome]
    exact live
  · rw [outcome]
    exact live_sendPromoted (live_promote live) _ delivery

theorem live_settleRemote (live : owner.Live) (loadedSlot : QueueSlotId) (delivery : Delivery) :
    (settleRemote owner loadedSlot delivery).Live := by
  unfold settleRemote
  split
  · exact live
  · rename_i inFlight flying
    rw [Option.filter_eq_some_iff] at flying
    have held : loadedSlot ∈ owner.queue.slotIds := of_decide_eq_true flying.2 ▸ live.inFlight inFlight flying.1
    exact live_settle (live.note fun id same => Option.some.inj same ▸ held) _ _ delivery

theorem live_trackChanged (live : owner.Live) (slotId : QueueSlotId)
    (transition : Option (PlaybackRequestId × PlaybackGeneration)) (delivery : Delivery) :
    (handleTrackChanged owner slotId transition delivery).Live := by
  have observed := live.observeTrackChange slotId
  unfold handleTrackChanged
  split
  · rename_i next outcome
    rw [outcome] at observed
    exact observed
  · rename_i place resolved next outcome
    rw [outcome] at observed
    cases transition with
    | none => exact observed
    | some request => exact live_settle observed request.1 resolved delivery

theorem live_expire (live : owner.Live) (now : Instant) (delivery : Delivery) :
    (expireAndRedispatch owner now delivery).Live := by
  unfold expireAndRedispatch
  rcases expire_spec owner.transitions now with ⟨deadline, outcome⟩ | ⟨expired, outcome⟩
  · rw [outcome]
    exact ⟨live.observed, live.active, live.inFlight, live.queued⟩
  · rw [outcome]
    exact live_sendPromoted (live_promote live) _ delivery

theorem live_expireRemote (live : owner.Live) (delivery : Delivery) : (expireRemote owner delivery).Live := by
  have expired := live_expireNow live
  unfold expireRemote
  split
  · rename_i gone dispatchNext transitions outcome
    rw [outcome] at expired
    exact live_sendPromoted expired dispatchNext delivery
  · rename_i transitions outcome
    rw [outcome] at expired
    exact expired

theorem identify_spec (owner : PlayerOwnerState) (request : Option (PlaybackRequestId × PlaybackGeneration)) :
    ∃ minted, (identify owner request).2 = { owner with transitions := { owner.transitions with nextLocalId := minted } } := by
  cases request with
  | none => exact ⟨_, rfl⟩
  | some identity => exact ⟨owner.transitions.nextLocalId, rfl⟩

theorem live_identify (live : owner.Live) (request : Option (PlaybackRequestId × PlaybackGeneration)) :
    (identify owner request).2.Live ∧ (identify owner request).2.queue = owner.queue := by
  obtain ⟨minted, same⟩ := identify_spec owner request
  rw [same]
  exact ⟨⟨live.observed, live.active, live.inFlight, live.queued⟩, rfl⟩

theorem relativeStepTarget_mem {direction : Direction} {slotId : QueueSlotId}
    (target : owner.relativeStepTarget direction = .jump slotId) :
    slotId ∈ owner.queue.slotIds := by
  unfold PlayerOwnerState.relativeStepTarget at target
  split at target
  · cases target
  · split at target
    · cases target
    · dsimp only at target
      split at target
      · rename_i slot there
        cases target
        obtain ⟨place, -, found⟩ := Option.bind_eq_some_iff.mp there
        exact List.mem_map_of_mem (List.mem_of_getElem? found)
      · cases target

theorem live_step (live : owner.Live) (request : Option (PlaybackRequestId × PlaybackGeneration)) (direction : Direction)
    (delivery : Delivery) : (stepToNeighborSlot owner request direction delivery).Live := by
  unfold stepToNeighborSlot
  split
  · rename_i slotId target
    obtain ⟨identified, queue⟩ := live_identify live request
    refine live_dispatch identified delivery ?_
    rw [queue]
    exact relativeStepTarget_mem target
  · exact live
  · exact live

theorem live_playSlot (live : owner.Live) (slotId : QueueSlotId) (delivery : Delivery) :
    (handleQueuePlaySlot owner slotId delivery).Live := by
  unfold handleQueuePlaySlot
  split
  · exact live
  · rename_i held
    rw [slot_isNone, not_not] at held
    obtain ⟨identified, queue⟩ := live_identify live none
    refine live_dispatch identified delivery ?_
    rw [queue]
    exact held

end Live

end Mbv.Daemon
