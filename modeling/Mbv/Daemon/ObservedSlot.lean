import Mbv.Machine.Run
import Mbv.Daemon.SlotJump

namespace Mbv.Daemon

open Mbv.Queue Mbv.Player List

/-! ### What an edit takes out of the queue -/

def MarkerLive (queue : PlaybackQueue) : Prop :=
  ∀ slotId ∈ queue.activeSlotId, slotId ∈ queue.slotIds

/-- Every slot but the ones named stays, and the marker stays on a slot. -/
structure TakesOut (queue next : PlaybackQueue) (gone : List QueueSlotId) : Prop where
  kept : ∀ id ∈ queue.slotIds, id ∉ gone → id ∈ next.slotIds
  marker : MarkerLive queue → MarkerLive next

section Edits

variable {queue : PlaybackQueue}

theorem TakesOut.refl (gone : List QueueSlotId) : TakesOut queue queue gone := ⟨fun _ held _ => held, id⟩

theorem TakesOut.of_mem {next : PlaybackQueue} (kept : ∀ id ∈ queue.slotIds, id ∈ next.slotIds)
    (marker : next.activeSlotId = queue.activeSlotId) : TakesOut queue next [] := by
  refine ⟨fun id held _ => kept id held, fun live id marked => ?_⟩
  rw [marker] at marked
  exact kept id (live id marked)

theorem takesOut_erase {next : PlaybackQueue} {slotId : QueueSlotId} (ids : next.slotIds = queue.slotIds.erase slotId)
    (marker : ∀ id ∈ next.activeSlotId, id ≠ slotId ∧ queue.activeSlotId = some id ∨
      id ∈ next.slotIds) : TakesOut queue next [slotId] := by
  have others (id : QueueSlotId) (held : id ∈ queue.slotIds) (other : id ≠ slotId) :
      id ∈ next.slotIds := ids ▸ (mem_erase_of_ne other).mpr held
  refine ⟨fun id held spared => others id held (by simpa using spared), fun live id marked => ?_⟩
  rcases marker id marked with ⟨other, before⟩ | there
  · exact others id (live id before) other
  · exact there

theorem removeExistingSlot_takesOut (slotId : QueueSlotId) : TakesOut queue (queue.removeExistingSlot slotId).2 [slotId] := by
  have ids := @removeExistingSlot_slotIds queue slotId
  unfold PlaybackQueue.removeExistingSlot at ids ⊢
  cases found : queue.slotIndex slotId with
  | none => exact TakesOut.refl _
  | some index =>
    rw [found] at ids
    refine takesOut_erase ids fun id marked => ?_
    dsimp only [PlaybackQueue.bump_active] at marked
    split at marked
    · -- The marker went with its slot: its successor, else the last slot, takes it.
      obtain ⟨slot, place, rfl⟩ := Option.map_eq_some_iff.mp marked
      refine .inr (mem_map_of_mem ?_)
      rcases Option.or_eq_some_iff.mp place with successor | ⟨-, last⟩
      · exact mem_of_getElem? successor
      · exact mem_of_getLast? last
    · rename_i other
      exact .inl ⟨fun same => other (same ▸ marked), marked⟩

theorem removeActiveSlotConfirmed_takesOut (slotId : QueueSlotId) :
    TakesOut queue (queue.removeActiveSlotConfirmed slotId).2 [slotId] := by
  have ids := @removeActiveSlotConfirmed_slotIds queue slotId
  unfold PlaybackQueue.removeActiveSlotConfirmed at ids ⊢
  cases found : queue.slotIndex slotId with
  | none => exact TakesOut.refl _
  | some index =>
    rw [found] at ids
    refine takesOut_erase ids fun id marked => ?_
    dsimp only [PlaybackQueue.bump_active] at marked
    split at marked
    · cases marked
    · rename_i other
      exact .inl ⟨fun same => other (same ▸ marked), marked⟩

theorem removeSlot_takesOut (slotId : QueueSlotId) : TakesOut queue (queue.removeSlot slotId).2 [slotId] := by
  unfold PlaybackQueue.removeSlot
  split
  · exact TakesOut.refl _
  · exact removeExistingSlot_takesOut slotId

theorem removeHeldSlot_takesOut (slotId : QueueSlotId) : TakesOut queue (removeHeldSlot queue slotId) [slotId] := by
  unfold removeHeldSlot
  split
  · exact removeActiveSlotConfirmed_takesOut slotId
  · exact removeSlot_takesOut slotId

theorem removeHeldSlots_takesOut (slotIds : List QueueSlotId) : TakesOut queue (removeHeldSlots queue slotIds).2 slotIds := by
  refine ⟨fun id held spared => mem_removeHeldSlots held spared, ?_⟩
  induction slotIds generalizing queue with
  | nil => exact id
  | cons slotId slotIds ih =>
    intro live
    unfold removeHeldSlots
    split
    · exact ih live
    · exact ih ((removeHeldSlot_takesOut slotId).marker live)

theorem insertAll_marker (queue : PlaybackQueue) (index : Nat) (items : List QueueItem) :
    (queue.insertAll index items).2.activeSlotId = queue.activeSlotId := by
  induction items generalizing queue index with
  | nil => rfl
  | cons item items ih => exact ih _ (index + 1)

theorem handleQueueAppend_takesOut (ctx : ControlContext) (request : QueueAppend) :
    TakesOut queue (handleQueueAppend ctx queue request).queue [] := by
  cases accepted : request.accepted ctx queue with
  | false =>
    rw [(handleQueueAppend_refused accepted).1]
    exact TakesOut.refl _
  | true =>
    obtain ⟨slots, placed, rest, ids, -, -, -, order, -⟩ := handleQueueAppend_accepted accepted
    refine TakesOut.of_mem (fun id held => ?_) ?_
    · rw [ids] at held
      rw [order]
      simp only [mem_append] at held ⊢
      tauto
    · unfold handleQueueAppend
      split
      · rfl
      · split
        · rfl
        · split
          · rfl
          · exact insertAll_marker ..

theorem mem_takeInOrder {slotId : QueueSlotId} {order : List QueueSlotId} {slots : List QueueSlot}
    (held : slotId ∈ slots.map (·.slotId)) (named : slotId ∈ order) :
    slotId ∈ (PlaybackQueue.takeInOrder slots order).map (·.slotId) := by
  induction order generalizing slots with
  | nil => exact absurd named not_mem_nil
  | cons first order ih =>
    unfold PlaybackQueue.takeInOrder
    split
    · rename_i slot found
      rw [map_cons, mem_cons, (Keyed.get_key found).1]
      refine or_iff_not_imp_left.mpr fun other => ih ?_ ?_
      · obtain ⟨entry, member, rfl⟩ := mem_map.mp held
        exact mem_map_of_mem (mem_filter.mpr ⟨member, by simpa using other⟩)
      · exact (mem_cons.mp named).resolve_left other
    · rename_i absent
      refine ih held ((mem_cons.mp named).resolve_left ?_)
      rintro rfl
      rw [Keyed.get_none, map_reverse, mem_reverse] at absent
      exact absent held

theorem reorderSlots_takesOut (order : List QueueSlotId) : TakesOut queue (queue.reorderSlots order).2 [] := by
  refine TakesOut.of_mem (fun id held => ?_) (PlaybackQueue.reorderSlots_active order)
  unfold PlaybackQueue.reorderSlots
  split
  · exact held
  · split
    · exact held
    · rename_i named
      rw [Bool.not_eq_true', Bool.not_eq_false, PlaybackQueue.isSlotPermutation_iff] at named
      exact mem_takeInOrder held (named.mem_iff.mp held)

end Edits

def TrackCompleted.consumes (completed : TrackCompleted) (queue : PlaybackQueue)
    (sequenceGeneration : PlaybackGeneration) (policy : ConsumePolicy) : Bool :=
  completed.runIdentity = sequenceGeneration &&
    (queue.slot completed.slotId).any fun slot => policy.allows completed.consume slot.item

def QueueEdit.gone (queue : PlaybackQueue) : QueueEdit → List QueueSlotId
  | .removeSlot slotId => [slotId]
  | .removeSlots slotIds => slotIds
  | .trackCompleted sequenceGeneration completed policy =>
    if completed.consumes queue sequenceGeneration policy then [completed.slotId] else []
  | .append .. | .moveSlot .. | .shuffle .. => []

theorem rewriteItem_takesOut {queue : PlaybackQueue} (slotId : QueueSlotId)
    (rewrite : QueueItem → QueueItem) : TakesOut queue (queue.rewriteItem slotId rewrite).2 [] := by
  have frame := @PlaybackQueue.rewriteItem_frame queue slotId rewrite
  exact TakesOut.of_mem (fun id held => frame.1 ▸ held) frame.2.1

theorem trackCompleted_takesOut {queue : PlaybackQueue} (sequenceGeneration : PlaybackGeneration)
    (completed : TrackCompleted) (policy : ConsumePolicy) :
    TakesOut queue (applyTrackCompletedObservation queue sequenceGeneration completed policy).queue
      (QueueEdit.gone queue (.trackCompleted sequenceGeneration completed policy)) := by
  unfold applyTrackCompletedObservation recordCompletedSlot QueueEdit.gone
  dsimp only
  by_cases current : completed.runIdentity = sequenceGeneration
  · cases held : queue.slot completed.slotId with
    | none =>
      simp only [current, if_true, consumeCompletedSlot, held]
      exact TakesOut.refl _
    | some slot =>
      have recorded := applyProgress_slot ((ProgressObservation.completed completed.positionTicks
          completed.wasPlayed).positionToRecord slot.item)
        (ProgressObservation.completed completed.positionTicks completed.wasPlayed).played held
      have progress := @rewriteItem_takesOut queue completed.slotId fun item =>
        applyProgressToQueueItem item ((ProgressObservation.completed completed.positionTicks
            completed.wasPlayed).positionToRecord slot.item)
          (ProgressObservation.completed completed.positionTicks completed.wasPlayed).played
      simp only [current, if_true, consumeCompletedSlot, recorded, applyProgress_allows,
        TrackCompleted.consumes, held, Option.any_some, decide_true, Bool.true_and]
      split
      · have removed := @removeExistingSlot_takesOut (queue.applyProgress completed.slotId
          ((ProgressObservation.completed completed.positionTicks completed.wasPlayed).positionToRecord slot.item)
          (ProgressObservation.completed completed.positionTicks completed.wasPlayed).played).2 completed.slotId
        exact ⟨fun id there spared => removed.kept id (progress.kept id there not_mem_nil)
          spared, fun live => removed.marker (progress.marker live)⟩
      · exact progress
  · rw [if_neg current]
    exact TakesOut.refl _

theorem QueueEdit.handle_takesOut {queue : PlaybackQueue} (change : QueueEdit) :
    TakesOut queue (change.handle queue).queue (change.gone queue) := by
  cases change with
  | append ctx request => exact handleQueueAppend_takesOut ctx request
  | removeSlot slotId =>
    unfold QueueEdit.handle handleQueueRemoveSlot
    dsimp only
    split
    · exact TakesOut.refl _
    · split
      · exact removeActiveSlotConfirmed_takesOut slotId
      · exact removeSlot_takesOut slotId
  | removeSlots slotIds =>
    have removed := @removeHeldSlots_takesOut queue slotIds
    unfold QueueEdit.handle handleQueueRemoveSlots
    dsimp only
    split <;> exact removed
  | moveSlot slotId toIndex =>
    unfold QueueEdit.handle handleQueueMoveSlot
    dsimp only
    split
    · exact TakesOut.refl _
    · refine TakesOut.of_mem (fun id held => ?_) (PlaybackQueue.moveSlot_active slotId toIndex)
      rw [PlaybackQueue.moveSlot_slotIds]
      exact mem_moveTo.mpr held
  | shuffle draw pinActiveFirst =>
    have reordered := @reorderSlots_takesOut queue (shuffledSlotOrder queue draw pinActiveFirst)
    unfold QueueEdit.handle handleQueueShuffle
    dsimp only
    split
    · exact TakesOut.refl _
    · revert reordered
      rcases queue.reorderSlots (shuffledSlotOrder queue draw pinActiveFirst) with ⟨_ | _, next⟩
      · exact id
      · exact id
  | trackCompleted sequenceGeneration completed policy =>
    exact trackCompleted_takesOut sequenceGeneration completed policy

/-! ### The owner's observation over whole runs -/

def removesActive (queue : PlaybackQueue) : List QueueSlotId → Bool
  | [] => false
  | slotId :: slotIds =>
    if (queue.slot slotId).isNone then removesActive queue slotIds
    else
      decide (queue.activeSlotId = some slotId) ||
        removesActive (removeHeldSlot queue slotId) slotIds

def QueueEdit.interrupts (queue : PlaybackQueue) : QueueEdit → Bool
  | .removeSlot slotId =>
    (queue.slot slotId).isSome && decide (queue.activeSlotId = some slotId)
  | .removeSlots slotIds =>
    let (removed, left) := removeHeldSlots queue slotIds
    !removed.isEmpty && (removesActive queue slotIds || left.isEmpty)
  | .append .. | .moveSlot .. | .shuffle .. | .trackCompleted .. => false

def purgeQueue (queue : PlaybackQueue) (dropped : QueueItem → Bool) : PlaybackQueue :=
  let retained := queue.slots.filter fun slot => !dropped slot.item
  if retained.length = queue.len then queue
  else
    PlaybackQueue.fromSlotItems (retained.map fun slot => (slot.slotId, slot.item))
      (queue.activeSlotId.filter fun id => retained.any fun slot => slot.slotId == id) queue.mint

/-- What changes an owner's queue, its observation or its transitions. -/
inductive OwnerEvent where
  | edit (change : QueueEdit)
  | clear
  /-- On a remote output the start slot is then loaded as a jump. -/
  | replace (ctx : ControlContext) (request : QueueReplace) (load : Option Delivery)
  /-- A Play whose items were looked up; on a remote output the start slot is loaded as a jump under
      the request's identity. -/
  | playResolved (items : List QueueItem) (startIdx : Nat)
      (load : Option (PlaybackRequestId × PlaybackGeneration × Delivery))
  | websocketPlay (items : List QueueItem) (startIdx : Nat)
  | reconcile (dropped : QueueItem → Bool)
  | playSlot (slotId : QueueSlotId) (delivery : Delivery)
  | step (request : Option (PlaybackRequestId × PlaybackGeneration)) (direction : Direction)
      (delivery : Delivery)
  | trackChanged (slotId : QueueSlotId)
      (transition : Option (PlaybackRequestId × PlaybackGeneration)) (delivery : Delivery)
  | remoteLoaded (slotId : QueueSlotId) (delivery : Delivery)
  /-- A remote output moves to a slot on its own. -/
  | remoteMoved (slotId : QueueSlotId)
  | remoteLoadFailed (delivery : Delivery)
  | expire (now : Instant) (delivery : Delivery)
  /-- The playing slot goes to another output. -/
  | handOff (slotId : QueueSlotId)

def handleQueueClear (owner : PlayerOwnerState) : PlayerOwnerState :=
  resetSlotJumps { owner with queue := owner.queue.clear }

/-- A remote output loads only the start slot, as a jump. -/
def replaceOnRemote (owner : PlayerOwnerState) (delivery : Delivery) : PlayerOwnerState :=
  match owner.queue.activeSlotId with
  | none => owner
  | some start =>
    let (identity, owner) := identify owner none
    (dispatchSlotJump owner (.new identity.1 identity.2 start)
      delivery).noteObservedActiveSlot none

def handleOwnerQueueReplace (owner : PlayerOwnerState) (ctx : ControlContext)
    (request : QueueReplace) (load : Option Delivery) : PlayerOwnerState :=
  match request.prepareReplacementSlots ctx with
  | .error _ => owner
  | .ok (slots, nextCursor) =>
    let owner := resetSlotJumps
      { owner with queue := installReplacedQueue owner.queue slots nextCursor }
    match load with
    | none => owner.noteObservedActiveSlot none
    | some delivery => replaceOnRemote owner delivery

def playResolvedItems (owner : PlayerOwnerState) (items : List QueueItem) (startIdx : Nat)
    (load : Option (PlaybackRequestId × PlaybackGeneration × Delivery)) : PlayerOwnerState :=
  let start := min startIdx (items.length - 1)
  let owner := { owner with queue := .fromQueueItems items (some start) owner.queue.mint }
  match load, owner.queue.activeSlotId with
  | some (requestId, generation, delivery), some start =>
    dispatchSlotJump owner (.new requestId generation start) delivery
  | _, _ => owner

namespace PlayerOwner

def step (owner : PlayerOwnerState) : OwnerEvent → PlayerOwnerState
  | .edit change =>
    let edited := { owner with queue := (change.handle owner.queue).queue }
    if change.interrupts owner.queue then resetSlotJumps edited else edited
  | .clear => handleQueueClear owner
  | .replace ctx request load => handleOwnerQueueReplace owner ctx request load
  | .playResolved items startIdx load => playResolvedItems owner items startIdx load
  | .websocketPlay items startIdx =>
    resetSlotJumps
      { owner with queue := .fromQueueItems items (some startIdx) owner.queue.mint }
  | .reconcile dropped => resetSlotJumps { owner with queue := purgeQueue owner.queue dropped }
  | .playSlot slotId delivery => handleQueuePlaySlot owner slotId delivery
  | .step request direction delivery => stepToNeighborSlot owner request direction delivery
  | .trackChanged slotId transition delivery =>
    handleTrackChanged owner slotId transition delivery
  | .remoteLoaded slotId delivery => settleRemote owner slotId delivery
  | .remoteMoved slotId => owner.noteObservedActiveSlot (some slotId)
  | .remoteLoadFailed delivery => expireRemote owner delivery
  | .expire now delivery => expireAndRedispatch owner now delivery
  | .handOff slotId =>
    { owner with queue := (owner.queue.setActiveSlot slotId).2 }.noteObservedActiveSlot none

def machine : Machine PlayerOwnerState OwnerEvent := ⟨step⟩

/-- The jumps the output has not confirmed are to slots for which `P` holds. -/
def JumpsTo (owner : PlayerOwnerState) (P : QueueSlotId → Prop) : Prop :=
  (∀ transition ∈ owner.transitions.inFlight, P transition.target) ∧
    ∀ transition ∈ owner.transitions.queuedLatest, P transition.target

/-- The event spares what the owner names: it takes out neither the observed slot nor, unless it
    interrupts every jump, a slot an unconfirmed jump is to; and a remote output moves to a slot of
    the queue. -/
def Spares (owner : PlayerOwnerState) : OwnerEvent → Prop
  | .edit change =>
    (∀ slotId ∈ owner.observedActiveSlot, slotId ∉ change.gone owner.queue) ∧
      (change.interrupts owner.queue = true ∨ JumpsTo owner (· ∉ change.gone owner.queue))
  | .clear => owner.observedActiveSlot = none
  | .playResolved items _ _ =>
    (∀ slotId ∈ owner.observedActiveSlot, slotId ∈ allocated 1 items.length) ∧
      JumpsTo owner (· ∈ allocated 1 items.length)
  | .websocketPlay items _ =>
    ∀ slotId ∈ owner.observedActiveSlot, slotId ∈ allocated 1 items.length
  | .reconcile dropped =>
    ∀ slotId ∈ owner.observedActiveSlot, slotId ∈ (purgeQueue owner.queue dropped).slotIds
  | .remoteMoved slotId => slotId ∈ owner.queue.slotIds
  | .replace .. | .playSlot .. | .step .. | .trackChanged .. | .remoteLoaded .. |
      .remoteLoadFailed .. | .expire .. | .handOff .. => True

variable {owner : PlayerOwnerState}

theorem pushAll_slotIds (queue : PlaybackQueue) (items : List QueueItem) :
    (queue.pushAll items).slotIds = queue.slotIds ++ allocated queue.nextSlotId items.length := by
  induction items generalizing queue with
  | nil => simp [PlaybackQueue.pushAll, allocated]
  | cons item items ih =>
    unfold PlaybackQueue.pushAll
    simp only [PlaybackQueue.allocateSlotId]
    rw [ih]
    simp [PlaybackQueue.slotIds, allocated]

theorem fromQueueItems_slotIds (items : List QueueItem) (activeIndex : Option Nat) (mint : UInt64) :
    (PlaybackQueue.fromQueueItems items activeIndex mint).slotIds = allocated 1 items.length := by
  unfold PlaybackQueue.fromQueueItems
  exact (pushAll_slotIds _ items).trans (nil_append _)

theorem fromQueueItems_marker (items : List QueueItem) (activeIndex : Option Nat)
    (mint : UInt64) : MarkerLive (PlaybackQueue.fromQueueItems items activeIndex mint) := by
  intro slotId marked
  unfold PlaybackQueue.fromQueueItems at marked
  obtain ⟨index, -, there⟩ := Option.bind_eq_some_iff.mp marked
  obtain ⟨slot, found, rfl⟩ := Option.map_eq_some_iff.mp there
  exact mem_map_of_mem (mem_of_getElem? found)

theorem fromSlotItems_marker (slots : List (QueueSlotId × QueueItem)) (activeSlotId : Option QueueSlotId) (mint : UInt64) :
    MarkerLive (PlaybackQueue.fromSlotItems slots activeSlotId mint) := by
  intro slotId marked
  obtain ⟨-, held⟩ := Option.filter_eq_some_iff.mp marked
  obtain ⟨slot, member, same⟩ := any_eq_true.mp held
  rw [← eq_of_beq same]
  simp only [PlaybackQueue.slotIds, PlaybackQueue.fromSlotItems, map_map, mem_map]
  exact ⟨slot, member, rfl⟩

theorem purgeQueue_marker {queue : PlaybackQueue} (live : MarkerLive queue)
    (dropped : QueueItem → Bool) : MarkerLive (purgeQueue queue dropped) := by
  unfold purgeQueue
  dsimp only
  split
  · exact live
  · exact fromSlotItems_marker _ _ _

/-- The queue is swapped and every jump interrupted; only the observation has to be still there. -/
theorem live_interrupted {queue : PlaybackQueue} (observed : ∀ slotId ∈ owner.observedActiveSlot, slotId ∈ queue.slotIds)
    (marker : MarkerLive queue) : (resetSlotJumps { owner with queue := queue }).Live :=
  ⟨observed, marker, fun _ => nofun, fun _ => nofun⟩

theorem live_edit (live : owner.Live) {change : QueueEdit} (spares : Spares owner (.edit change)) :
    (step owner (.edit change)).Live := by
  have taken := @QueueEdit.handle_takesOut owner.queue change
  have observed : ∀ slotId ∈ owner.observedActiveSlot, slotId ∈ (change.handle owner.queue).queue.slotIds :=
    fun slotId seen => taken.kept slotId (live.observed slotId seen) (spares.1 slotId seen)
  have marker := taken.marker live.active
  unfold step
  dsimp only
  split
  · exact live_interrupted observed marker
  · rename_i uninterrupted
    obtain ⟨inFlight, queued⟩ := spares.2.resolve_left uninterrupted
    exact ⟨observed, marker, fun transition flying => taken.kept _ (live.inFlight transition flying)
        (inFlight transition flying),
      fun transition waits => taken.kept _ (live.queued transition waits) (queued transition waits)⟩

theorem send_forgets (owner : PlayerOwnerState) (transition : Transition) (delivery : Delivery) :
    (sendJumpOrColdStart owner transition delivery).noteObservedActiveSlot none =
      (sendJumpOrColdStart (owner.noteObservedActiveSlot none) transition delivery).noteObservedActiveSlot none := by
  induction delivery generalizing owner transition with
  | liveRun => rfl
  | coldStart accepted =>
    unfold sendJumpOrColdStart coldStartAtSlot resetSlotJumps
    simp only [PlayerOwnerState.noteObservedActiveSlot]
    cases owner.queue.slotIndex transition.target <;> cases accepted <;> rfl
  | remote started => cases started <;> rfl
  | refused next ih =>
    unfold sendJumpOrColdStart
    simp only [PlayerOwnerState.noteObservedActiveSlot] at ih ⊢
    rcases owner.transitions.expireNow with ⟨_ | ⟨expired, _ | promoted⟩, transitions⟩
    · rfl
    · rfl
    · exact ih _ promoted

theorem dispatch_forgets (owner : PlayerOwnerState) (transition : Transition) (delivery : Delivery) :
    (dispatchSlotJump owner transition delivery).noteObservedActiveSlot none =
      (dispatchSlotJump (owner.noteObservedActiveSlot none) transition delivery).noteObservedActiveSlot none := by
  unfold dispatchSlotJump
  have same : (owner.noteObservedActiveSlot none).transitions = owner.transitions := rfl
  rw [same]
  rcases owner.transitions.accept transition with ⟨_ | _, transitions⟩
  · exact send_forgets ..
  · rfl

theorem live_replaceOnRemote (cleared : (owner.noteObservedActiveSlot none).Live)
    {start : QueueSlotId} (active : owner.queue.activeSlotId = some start) (delivery : Delivery) :
    (replaceOnRemote owner delivery).Live := by
  unfold replaceOnRemote
  rw [active]
  show ((dispatchSlotJump _ _ _).noteObservedActiveSlot none).Live
  rw [dispatch_forgets]
  refine (live_dispatch (live_identify cleared none).1 delivery ?_).note fun _ => (by simp)
  exact cleared.active start active

theorem live_replace (live : owner.Live) (ctx : ControlContext) (request : QueueReplace)
    (load : Option Delivery) : (handleOwnerQueueReplace owner ctx request load).Live := by
  unfold handleOwnerQueueReplace
  cases prepared : request.prepareReplacementSlots ctx with
  | error reason => exact live
  | ok result =>
    obtain ⟨slots, nextCursor⟩ := result
    obtain ⟨start, marked⟩ := QueueReplace.prepareReplacementSlots_start prepared owner.queue
    have marker : MarkerLive (installReplacedQueue owner.queue slots nextCursor) := fromSlotItems_marker _ _ _
    have cleared : ((resetSlotJumps { owner with
        queue := installReplacedQueue owner.queue slots nextCursor }).noteObservedActiveSlot none).Live :=
      ⟨fun _ => nofun, marker, fun _ => nofun, fun _ => nofun⟩
    cases load with
    | none => exact cleared
    | some delivery => exact live_replaceOnRemote cleared marked delivery

theorem live_playResolved {items : List QueueItem} {startIdx : Nat}
    {load : Option (PlaybackRequestId × PlaybackGeneration × Delivery)}
    (spares : Spares owner (.playResolved items startIdx load)) :
    (playResolvedItems owner items startIdx load).Live := by
  set rebuilt : PlaybackQueue := .fromQueueItems items (some (min startIdx (items.length - 1))) owner.queue.mint with queue
  have ids : rebuilt.slotIds = allocated 1 items.length := fromQueueItems_slotIds ..
  have marker : MarkerLive rebuilt := fromQueueItems_marker _ _ _
  have installed : { owner with queue := rebuilt }.Live := by
    obtain ⟨observed, inFlight, queued⟩ := spares
    rw [← ids] at observed inFlight queued
    exact ⟨observed, marker, inFlight, queued⟩
  unfold playResolvedItems
  simp only [← queue]
  split
  · rename_i requestId generation delivery start active
    exact live_dispatch installed delivery (marker start active)
  · exact installed

theorem step_live (live : owner.Live) {event : OwnerEvent} (spares : Spares owner event) : (step owner event).Live := by
  cases event with
  | edit change => exact live_edit live spares
  | clear =>
    refine live_interrupted (fun slotId observed => ?_) ?_
    · rw [spares] at observed
      cases observed
    · unfold PlaybackQueue.clear
      split
      · exact live.active
      · exact fun _ => (by simp)
  | replace ctx request load => exact live_replace live ctx request load
  | playResolved items startIdx load => exact live_playResolved spares
  | websocketPlay items startIdx =>
    refine live_interrupted (fun slotId observed => ?_) (fromQueueItems_marker _ _ _)
    rw [fromQueueItems_slotIds]
    exact spares slotId observed
  | reconcile dropped => exact live_interrupted spares (purgeQueue_marker live.active dropped)
  | playSlot slotId delivery => exact live_playSlot live slotId delivery
  | step request direction delivery => exact live_step live request direction delivery
  | trackChanged slotId transition delivery =>
    exact live_trackChanged live slotId transition delivery
  | remoteLoaded slotId delivery => exact live_settleRemote live slotId delivery
  | remoteMoved slotId => exact live.note fun id same => Option.some.inj same ▸ spares
  | remoteLoadFailed delivery => exact live_expireRemote live delivery
  | expire now delivery => exact live_expire live now delivery
  | handOff slotId =>
    have moved := live.setActiveSlot slotId
    exact ⟨fun _ => nofun, moved.active, moved.inFlight, moved.queued⟩

def threeStreams : PlaybackQueue :=
  .fromQueueItems (List.replicate 3 (.twitch ⟨"", ""⟩)) (some 0) 0

end PlayerOwner

end Mbv.Daemon
