import Mbv.Daemon.QueueSetup

namespace Mbv.Daemon

open Mbv.Queue Mbv.Player List

structure ConsumePolicy where
  videos : Bool := false
  audio : Bool := false
deriving DecidableEq

def clearPlayerQueue : PlayerCommand := .submitQueue [] 0

/-- The removal of a held slot, whether or not it is the active one. -/
def removeHeldSlot (queue : PlaybackQueue) (slotId : QueueSlotId) : PlaybackQueue :=
  if queue.activeSlotId = some slotId then (queue.removeActiveSlotConfirmed slotId).2
  else (queue.removeSlot slotId).2

def handleQueueRemoveSlot (queue : PlaybackQueue) (slotId : QueueSlotId) : ControlReply :=
  if (queue.slot slotId).isNone then
    { queue := queue, rejection := some "slot not found; remove skipped" }
  else if queue.activeSlotId = some slotId then
    let removed := (queue.removeActiveSlotConfirmed slotId).2
    { queue := removed
      sent := if removed.isEmpty then [clearPlayerQueue] else [.queueRemove slotId] }
  else { queue := (queue.removeSlot slotId).2, sent := [.queueRemove slotId] }

def removeHeldSlots (queue : PlaybackQueue) :
    List QueueSlotId → List QueueSlotId × PlaybackQueue
  | [] => ([], queue)
  | slotId :: slotIds =>
    if (queue.slot slotId).isNone then removeHeldSlots queue slotIds
    else
      let (removed, queue) := removeHeldSlots (removeHeldSlot queue slotId) slotIds
      (slotId :: removed, queue)

def handleQueueRemoveSlots (queue : PlaybackQueue) (slotIds : List QueueSlotId) : ControlReply :=
  let (removed, queue) := removeHeldSlots queue slotIds
  if removed.isEmpty then { queue := queue }
  else
    { queue := queue
      sent := if queue.isEmpty then [clearPlayerQueue] else removed.map .queueRemove }

/-- The active slot first when it is pinned, the rest in the order the draw gives them. -/
def shuffledSlotOrder (queue : PlaybackQueue) (draw : List QueueSlotId → List QueueSlotId)
    (pinActiveFirst : Bool) : List QueueSlotId :=
  let active := queue.activeSlotId.filter fun _ => pinActiveFirst
  active.toList ++ draw (queue.slotIds.filter fun slotId => some slotId != active)

def handleQueueShuffle (queue : PlaybackQueue) (draw : List QueueSlotId → List QueueSlotId)
    (pinActiveFirst : Bool) : ControlReply :=
  let order := shuffledSlotOrder queue draw pinActiveFirst
  if queue.slotIds = order then { queue := queue }
  else
    match queue.reorderSlots order with
    | (.applied (), queue) => { queue := queue, sent := [.queueReorder order] }
    | (.notFound, queue) => { queue := queue }

def handleQueueMoveSlot (queue : PlaybackQueue) (slotId : QueueSlotId) (toIndex : Nat) :
    ControlReply :=
  if (queue.slot slotId).isNone then
    { queue := queue, rejection := some "slot not found; move skipped" }
  else { queue := (queue.moveSlot slotId toIndex).2, sent := [.queueMove slotId toIndex] }

def ConsumePolicy.allows (policy : ConsumePolicy) (consume : Bool) (item : QueueItem) : Bool :=
  consume && ((item.isVideo && policy.videos) || (item.isAudio && policy.audio))

def consumeCompletedSlot (queue : PlaybackQueue) (slotId : QueueSlotId) (consume : Bool)
    (policy : ConsumePolicy) : PlaybackQueue :=
  match queue.slot slotId with
  | none => queue
  | some slot => if policy.allows consume slot.item then (queue.consumeSlot slotId).2 else queue

structure TrackCompleted where
  runIdentity : PlaybackGeneration
  slotId : QueueSlotId
  positionTicks : Int
  wasPlayed : Bool
  consume : Bool

def recordCompletedSlot (queue : PlaybackQueue) (completed : TrackCompleted)
    (policy : ConsumePolicy) : PlaybackQueue :=
  let recorded :=
    match queue.slot completed.slotId with
    | none => queue
    | some slot =>
      let observation := ProgressObservation.completed completed.positionTicks completed.wasPlayed
      (queue.applyProgress completed.slotId (observation.positionToRecord slot.item)
        observation.played).2
  consumeCompletedSlot recorded completed.slotId completed.consume policy

def applyTrackCompletedObservation (queue : PlaybackQueue) (sequenceGeneration : PlaybackGeneration)
    (completed : TrackCompleted) (policy : ConsumePolicy) : ControlReply :=
  { queue :=
      if completed.runIdentity = sequenceGeneration then recordCompletedSlot queue completed policy
      else queue }

inductive QueueEdit where
  | append (ctx : ControlContext) (request : QueueAppend)
  | removeSlot (slotId : QueueSlotId)
  | removeSlots (slotIds : List QueueSlotId)
  | moveSlot (slotId : QueueSlotId) (toIndex : Nat)
  | shuffle (draw : List QueueSlotId → List QueueSlotId) (pinActiveFirst : Bool)
  | trackCompleted (sequenceGeneration : PlaybackGeneration) (completed : TrackCompleted)
      (policy : ConsumePolicy)

def QueueEdit.handle (queue : PlaybackQueue) : QueueEdit → ControlReply
  | append ctx request => handleQueueAppend ctx queue request
  | removeSlot slotId => handleQueueRemoveSlot queue slotId
  | removeSlots slotIds => handleQueueRemoveSlots queue slotIds
  | moveSlot slotId toIndex => handleQueueMoveSlot queue slotId toIndex
  | .shuffle draw pinActiveFirst => handleQueueShuffle queue draw pinActiveFirst
  | trackCompleted sequenceGeneration completed policy =>
    applyTrackCompletedObservation queue sequenceGeneration completed policy

variable {queue : PlaybackQueue}

theorem slot_isNone {slotId : QueueSlotId} : (queue.slot slotId).isNone = true ↔ slotId ∉ queue.slotIds := by
  rw [Option.isNone_iff_eq_none]
  exact Keyed.get_none

theorem isEmpty_iff : queue.isEmpty = true ↔ queue.slotIds = [] := by
  simp [PlaybackQueue.isEmpty, PlaybackQueue.slotIds]

theorem removeExistingSlot_slotIds (slotId : QueueSlotId) :
    (queue.removeExistingSlot slotId).2.slotIds = queue.slotIds.erase slotId := by
  unfold PlaybackQueue.removeExistingSlot
  cases found : queue.slotIndex slotId with
  | none => exact (erase_of_not_mem (PlaybackQueue.slotIndex_none found)).symm
  | some index => exact PlaybackQueue.slotIds_eraseIdx found

theorem removeActiveSlotConfirmed_slotIds (slotId : QueueSlotId) :
    (queue.removeActiveSlotConfirmed slotId).2.slotIds = queue.slotIds.erase slotId := by
  unfold PlaybackQueue.removeActiveSlotConfirmed
  cases found : queue.slotIndex slotId with
  | none => exact (erase_of_not_mem (PlaybackQueue.slotIndex_none found)).symm
  | some index => exact PlaybackQueue.slotIds_eraseIdx found

theorem removeSlot_slotIds {slotId : QueueSlotId} (other : queue.activeSlotId ≠ some slotId) :
    (queue.removeSlot slotId).2.slotIds = queue.slotIds.erase slotId := by
  unfold PlaybackQueue.removeSlot
  rw [if_neg other]
  exact removeExistingSlot_slotIds slotId

theorem removeHeldSlot_slotIds (slotId : QueueSlotId) : (removeHeldSlot queue slotId).slotIds = queue.slotIds.erase slotId := by
  unfold removeHeldSlot
  split
  · exact removeActiveSlotConfirmed_slotIds slotId
  · rename_i other
    exact removeSlot_slotIds other

theorem removeHeldSlots_slotIds (slotIds : List QueueSlotId) : (removeHeldSlots queue slotIds).2.slotIds =
      (removeHeldSlots queue slotIds).1.foldl List.erase queue.slotIds := by
  induction slotIds generalizing queue with
  | nil => rfl
  | cons slotId slotIds ih =>
    unfold removeHeldSlots
    split
    · exact ih
    · rw [foldl_cons, ← removeHeldSlot_slotIds]
      exact ih

theorem mem_removeHeldSlots {slotIds : List QueueSlotId} {id : QueueSlotId} (held : id ∈ queue.slotIds) (spared : id ∉ slotIds) :
    id ∈ (removeHeldSlots queue slotIds).2.slotIds := by
  induction slotIds generalizing queue with
  | nil => exact held
  | cons slotId slotIds ih =>
    rw [mem_cons, not_or] at spared
    unfold removeHeldSlots
    split
    · exact ih held spared.2
    · refine ih ?_ spared.2
      rw [removeHeldSlot_slotIds]
      exact (mem_erase_of_ne spared.1).mpr held

theorem removeHeldSlots_of_empty (empty : queue.slotIds = []) (slotIds : List QueueSlotId) :
    removeHeldSlots queue slotIds = ([], queue) := by
  induction slotIds with
  | nil => rfl
  | cons slotId slotIds ih =>
    rw [removeHeldSlots, if_pos (slot_isNone.mpr (by rw [empty]; exact not_mem_nil))]
    exact ih

theorem applyProgress_slot {slotId : QueueSlotId} {slot : QueueSlot} (positionTicks : Int)
    (played : Bool) (held : queue.slot slotId = some slot) :
    (queue.applyProgress slotId positionTicks played).2.slot slotId =
      some { slot with item := applyProgressToQueueItem slot.item positionTicks played } := by
  unfold PlaybackQueue.slot at held
  rw [Keyed.get_eq_getElem?, Option.bind_eq_some_iff] at held
  obtain ⟨index, found, there⟩ := held
  set updated : QueueSlot := { slot with item := applyProgressToQueueItem slot.item positionTicks played } with written
  have place : index < queue.slots.length := (List.getElem?_eq_some_iff.mp there).1
  have kept := PlaybackQueue.map_slotId_set updated there rfl
  have slots : (queue.applyProgress slotId positionTicks played).2.slots = queue.slots.set index updated := by
    unfold PlaybackQueue.applyProgress PlaybackQueue.rewriteItem PlaybackQueue.slotIndex
    simp only [found, there]
    split <;> rfl
  unfold PlaybackQueue.slot
  rw [slots, Keyed.get_eq_getElem?, Keyed.indexOf_eq_idxOf, kept, ← Keyed.indexOf_eq_idxOf, found]
  simp [place]

@[simp] theorem applyProgress_allows (policy : ConsumePolicy) (consume : Bool) (item : QueueItem)
    (positionTicks : Int) (played : Bool) :
    policy.allows consume (applyProgressToQueueItem item positionTicks played) = policy.allows consume item := by
  rcases item with _ | _ | (_ | _) | _ <;> rfl

theorem applyTrackCompleted_slotIds {sequenceGeneration : PlaybackGeneration}
    {completed : TrackCompleted} {policy : ConsumePolicy}
    (kept : completed.runIdentity = sequenceGeneration → ∀ slot, queue.slot completed.slotId = some slot →
        policy.allows completed.consume slot.item = false) :
    (applyTrackCompletedObservation queue sequenceGeneration completed policy).queue.slotIds =
      queue.slotIds := by
  unfold applyTrackCompletedObservation recordCompletedSlot
  dsimp only
  split
  · rename_i current
    cases held : queue.slot completed.slotId with
    | none => simp [consumeCompletedSlot, held]
    | some slot =>
      have spared := kept current slot held
      have recorded := applyProgress_slot ((ProgressObservation.completed completed.positionTicks
          completed.wasPlayed).positionToRecord slot.item)
        (ProgressObservation.completed completed.positionTicks completed.wasPlayed).played held
      simp only [consumeCompletedSlot, recorded, applyProgress_allows, spared, Bool.false_eq_true, if_false]
      exact (PlaybackQueue.rewriteItem_frame completed.slotId _).1
  · rfl

theorem reorderSlots_applied {order : List QueueSlotId} (moves : queue.slotIds ≠ order) :
    (queue.reorderSlots order).1 = .applied () ↔ queue.slotIds.Perm order := by
  unfold PlaybackQueue.reorderSlots
  rw [if_neg moves, ← PlaybackQueue.isSlotPermutation_iff]
  cases isSlotPermutation queue.slotIds order <;> simp

/-- The commands an edit other than an append sends hand the run no slot. -/
def HandsNothing : PlayerCommand → Prop
  | .queueRemove _ | .queueMove _ _ | .queueReorder _ => True
  | .submitQueue items _ => items = []
  | .queueAppend _ | .togglePause | .jumpTo .. | .loadNew _ => False

theorem applyTrackCompleted_subperm (sequenceGeneration : PlaybackGeneration)
    (completed : TrackCompleted) (policy : ConsumePolicy) :
    (applyTrackCompletedObservation queue sequenceGeneration completed policy).queue.slotIds.Subperm queue.slotIds := by
  have consumed (recorded : PlaybackQueue) : (consumeCompletedSlot recorded completed.slotId completed.consume
        policy).slotIds.Subperm recorded.slotIds := by
    unfold consumeCompletedSlot
    split
    · exact List.Subperm.refl _
    · split
      · show (recorded.removeExistingSlot completed.slotId).2.slotIds.Subperm _
        rw [removeExistingSlot_slotIds]
        exact erase_sublist.subperm
      · exact List.Subperm.refl _
  unfold applyTrackCompletedObservation recordCompletedSlot
  dsimp only
  split
  · refine (consumed _).trans ?_
    split
    · exact List.Subperm.refl _
    · rename_i slot _
      have kept := (@PlaybackQueue.rewriteItem_frame queue completed.slotId fun item =>
        applyProgressToQueueItem item ((ProgressObservation.completed completed.positionTicks
            completed.wasPlayed).positionToRecord slot.item)
          (ProgressObservation.completed completed.positionTicks completed.wasPlayed).played).1
      exact (List.Perm.of_eq kept).subperm
  · exact List.Subperm.refl _

theorem QueueEdit.handle_keeps {change : QueueEdit} (distinct : queue.slotIds.Nodup)
    (brings : ∀ ctx request, change ≠ .append ctx request) :
    (change.handle queue).queue.slotIds.Subperm queue.slotIds ∧
      ∀ command ∈ (change.handle queue).sent, HandsNothing command := by
  cases change with
  | append ctx request => exact absurd rfl (brings ctx request)
  | removeSlot slotId =>
    unfold QueueEdit.handle handleQueueRemoveSlot
    dsimp only
    split
    · exact ⟨List.Subperm.refl _, by simp⟩
    · split
      · refine ⟨?_, ?_⟩
        · dsimp only
          rw [removeActiveSlotConfirmed_slotIds]
          exact erase_sublist.subperm
        · dsimp only
          split <;> simp [HandsNothing, clearPlayerQueue]
      · rename_i other
        refine ⟨?_, by simp [HandsNothing]⟩
        dsimp only
        rw [removeSlot_slotIds other]
        exact erase_sublist.subperm
  | removeSlots slotIds =>
    have erased := @removeHeldSlots_slotIds queue slotIds
    have smaller (removed held : List QueueSlotId) : (removed.foldl List.erase held).Sublist held := by
      induction removed generalizing held with
      | nil => exact List.Sublist.refl _
      | cons slotId removed ih => exact (ih _).trans erase_sublist
    unfold QueueEdit.handle handleQueueRemoveSlots
    dsimp only
    split
    · refine ⟨?_, by simp⟩
      dsimp only
      rw [erased]
      exact (smaller _ _).subperm
    · refine ⟨?_, ?_⟩
      · dsimp only
        rw [erased]
        exact (smaller _ _).subperm
      · dsimp only
        split
        · simp [HandsNothing, clearPlayerQueue]
        · intro command member
          obtain ⟨id, -, rfl⟩ := mem_map.mp member
          trivial
  | moveSlot slotId toIndex =>
    unfold QueueEdit.handle handleQueueMoveSlot
    dsimp only
    split
    · exact ⟨List.Subperm.refl _, by simp⟩
    · refine ⟨?_, by simp [HandsNothing]⟩
      dsimp only
      rw [PlaybackQueue.moveSlot_slotIds]
      exact (moveTo_perm _ slotId toIndex).subperm
  | shuffle draw pinActiveFirst =>
    have order := PlaybackQueue.reorderSlots_slotIds distinct (shuffledSlotOrder queue draw pinActiveFirst)
    have reordered : (queue.reorderSlots (shuffledSlotOrder queue draw pinActiveFirst)).2.slotIds.Perm queue.slotIds := by
      rw [order]
      split
      · rename_i perm
        exact perm.symm
      · exact List.Perm.refl _
    unfold QueueEdit.handle handleQueueShuffle
    dsimp only
    split
    · exact ⟨List.Subperm.refl _, by simp⟩
    · revert reordered
      rcases queue.reorderSlots (shuffledSlotOrder queue draw pinActiveFirst) with ⟨_ | _, next⟩
      · exact fun reordered => ⟨reordered.subperm, by simp [HandsNothing]⟩
      · exact fun reordered => ⟨reordered.subperm, by simp⟩
  | trackCompleted sequenceGeneration completed policy =>
    exact ⟨applyTrackCompleted_subperm sequenceGeneration completed policy, by
      simp [QueueEdit.handle, applyTrackCompletedObservation]⟩

end Mbv.Daemon
