import Mbv.Machine.Replica
import Mbv.Player.Run.Playlist
import Mbv.Daemon.QueueEdit

namespace Mbv.Daemon

open Mbv.Queue Mbv.Player List

def mirrored (slotIds : List QueueSlotId) : PlayerCommand → List QueueSlotId
  | .queueAppend items => slotIds ++ items.map (·.slotId)
  | .queueRemove slotId => slotIds.erase slotId
  | .queueMove slotId toIndex =>
    if toIndex < slotIds.length then slotIds.moveTo slotId toIndex else slotIds
  | .queueReorder order => if isSlotPermutation slotIds order then order else slotIds
  | _ => slotIds

def slotOrder : Machine (List QueueSlotId) PlayerCommand := ⟨mirrored⟩

def CarriedOut (slotIds : List QueueSlotId) : PlayerCommand → Prop
  | .queueAppend items =>
    (items.map (·.slotId)).Nodup ∧
      ∀ slot ∈ items, slot.slotId ∉ slotIds ∧ slot.item.hasMpvUrlSource = true
  | .queueRemove _ | .queueMove _ _ | .queueReorder _ => True
  | .submitQueue items _ => items = []
  | .togglePause | .jumpTo .. | .loadNew _ => False

theorem mirrored_nodup {slotIds : List QueueSlotId} {command : PlayerCommand}
    (distinct : slotIds.Nodup) (carried : CarriedOut slotIds command) :
    (mirrored slotIds command).Nodup := by
  cases command with
  | queueAppend items =>
    refine nodup_append.mpr ⟨distinct, carried.1, ?_⟩
    rintro id old other new rfl
    obtain ⟨slot, member, rfl⟩ := mem_map.mp new
    exact (carried.2 slot member).1 old
  | queueRemove slotId => exact distinct.erase slotId
  | queueMove slotId toIndex =>
    simp only [mirrored]
    split
    · exact distinct.moveTo slotId toIndex
    · exact distinct
  | queueReorder order =>
    simp only [mirrored]
    split
    · rename_i permutation
      exact (PlaybackQueue.isSlotPermutation_iff.mp permutation).nodup_iff.mp distinct
    · exact distinct
  | togglePause | jumpTo | loadNew | submitQueue => exact distinct

/-! ### The run carries out what it is sent -/

section Run

variable {run : PlaybackRun}

structure PlaysPlaylist (run : PlaybackRun) : Prop where
  wellFormed : run.queue.WellFormed
  playlist : run.runLifecycle.projection = .playlist

theorem cmdQueueMove_mirrored (plays : PlaysPlaylist run) (slotId : QueueSlotId) (toIndex : Nat) :
    (run.cmdQueueMove slotId toIndex).queue.slotIds =
        (if toIndex < run.queue.slotIds.length then run.queue.slotIds.moveTo slotId toIndex
        else run.queue.slotIds) ∧
      PlaysPlaylist (run.cmdQueueMove slotId toIndex) := by
  unfold PlaybackRun.cmdQueueMove
  cases found : run.queue.slotIndex slotId with
  | none =>
    rw [moveTo_of_notMem (ExecutionSequence.slotIndex_none.mp found), ite_self]
    exact ⟨rfl, plays⟩
  | some source =>
    obtain ⟨member, inside⟩ := ExecutionSequence.slotIndex_some found
    rw [ExecutionSequence.slotIndex_of_mem member, Option.some.injEq] at found
    rw [ExecutionSequence.slotIds_length]
    dsimp only
    split
    · rename_i unmoved
      refine ⟨?_, plays⟩
      split
      · -- The target is in range, so the slot stands there already.
        rename_i inRange
        have same : source = toIndex := by
          simp [PlaybackRun.queueLen, Nat.not_le.mpr inside, Nat.not_le.mpr inRange] at unmoved
          exact unmoved
        rw [← same, ← found, moveTo_idxOf plays.wellFormed.distinct member]
      · rfl
    · rename_i useful
      have inRange : toIndex < run.queue.len := by
        simp [PlaybackRun.queueLen] at useful
        exact useful.1.2
      simp only [PlaybackRun.inactive_of_playlist plays.playlist, inRange, if_true]
      exact ⟨ExecutionSequence.moveSlot_slotIds slotId toIndex, plays.wellFormed.moveSlot slotId toIndex, plays.playlist⟩

theorem reorderMovesFrom_lt (index : Nat) (order target : List QueueSlotId) :
    ∀ move ∈ reorderMovesFrom index order target, move.2 < index + target.length := by
  induction target generalizing index order with
  | nil => exact fun move member => absurd member not_mem_nil
  | cons slotId target ih =>
    have later (order : List QueueSlotId) (move : QueueSlotId × Nat)
        (member : move ∈ reorderMovesFrom (index + 1) order target) :
        move.2 < index + (slotId :: target).length := by
      have bound := ih (index + 1) order move member
      rw [length_cons]
      omega
    intro move member
    unfold reorderMovesFrom at member
    split at member
    · exact later order move member
    · split at member
      · exact later order move member
      · rcases mem_cons.mp member with rfl | member
        · simp
        · exact later _ move member

theorem applyMoves_mirrored {moves : List (QueueSlotId × Nat)} (plays : PlaysPlaylist run)
    (inside : ∀ move ∈ moves, move.2 < run.queue.slotIds.length) :
    (moves.foldl (fun run move => run.cmdQueueMove move.1 move.2) run).queue.slotIds = applyMoves run.queue.slotIds moves ∧
      PlaysPlaylist (moves.foldl (fun run move => run.cmdQueueMove move.1 move.2) run) := by
  induction moves generalizing run with
  | nil => exact ⟨rfl, plays⟩
  | cons move moves ih =>
    obtain ⟨moved, plays⟩ := cmdQueueMove_mirrored plays move.1 move.2
    rw [if_pos (inside move mem_cons_self)] at moved
    have later := ih plays fun other member => by
      rw [moved, length_moveTo]
      exact inside other (mem_cons_of_mem _ member)
    rw [moved] at later
    exact later

theorem cmdQueueReorder_mirrored (plays : PlaysPlaylist run) (order : List QueueSlotId) :
    (run.cmdQueueReorder order).queue.slotIds =
        (if isSlotPermutation run.queue.slotIds order then order else run.queue.slotIds) ∧
      PlaysPlaylist (run.cmdQueueReorder order) := by
  unfold PlaybackRun.cmdQueueReorder
  split
  · rename_i permutation
    have perm := PlaybackQueue.isSlotPermutation_iff.mp permutation
    have inside (move : QueueSlotId × Nat) (member : move ∈ reorderMovePlan run.queue.slotIds order) :
        move.2 < run.queue.slotIds.length := by
      have bound := reorderMovesFrom_lt 0 run.queue.slotIds order move member
      rw [perm.length_eq]
      omega
    obtain ⟨applied, still⟩ := applyMoves_mirrored plays inside
    rw [reorderMovePlan_spec plays.wellFormed.distinct perm] at applied
    exact ⟨applied, still⟩
  · exact ⟨rfl, plays⟩

theorem cmdQueueRemove_mirrored (plays : PlaysPlaylist run) (answers : Answers) (slotId : QueueSlotId) :
    (run.cmdQueueRemove answers slotId).queue.slotIds = run.queue.slotIds.erase slotId ∧
      PlaysPlaylist (run.cmdQueueRemove answers slotId) := by
  unfold PlaybackRun.cmdQueueRemove
  cases found : run.queue.slotIndex slotId with
  | none =>
    exact ⟨(erase_of_not_mem (ExecutionSequence.slotIndex_none.mp found)).symm, plays⟩
  | some idx =>
    dsimp only
    rw [if_neg (by simp [PlaybackRun.inactive_of_playlist plays.playlist])]
    have place := run.removePlaylistSlot_place slotId idx
    have queue : (run.removePlaylistSlot slotId idx).queue =
        if run.activeSlotId = some slotId then run.queue.removeActiveSlotConfirmed slotId
        else run.queue.removeSlot slotId := congrArg Place.queue place
    have projection := congrArg Place.projection place
    refine ⟨?_, ?_, projection.trans plays.playlist⟩
    · rw [queue]
      split
      · exact ExecutionSequence.removeActiveSlotConfirmed_slotIds slotId
      · rename_i other
        exact (ExecutionSequence.removeSlot_slotIds slotId).trans (if_neg other)
    · rw [queue]
      split
      · exact plays.wellFormed.removeActiveSlotConfirmed slotId
      · exact plays.wellFormed.removeSlot slotId

theorem refreshResume_hasMpvUrlSource (refreshed : List (String × (Int × Bool)))
    (item : QueueItem) : (refreshResume refreshed item).hasMpvUrlSource = item.hasMpvUrlSource := by
  cases item with
  | emby item =>
    unfold refreshResume
    dsimp only
    split <;> rfl
  | feed | audiobookshelf | twitch => rfl

theorem cmdAppendQueue_mirrored (plays : PlaysPlaylist run) (answers : Answers)
    {items : List ExecSlot} (carried : CarriedOut run.queue.slotIds (.queueAppend items)) :
    ∃ next, run.cmdAppendQueue answers items = some next ∧
      next.queue.slotIds = run.queue.slotIds ++ items.map (·.slotId) ∧ PlaysPlaylist next := by
  obtain ⟨distinct, fresh⟩ := carried
  have plain : (items.any fun slot => slot.item.isAudiobookshelf) = false := by
    rw [any_eq_false]
    intro slot member bad
    have direct := (fresh slot member).2
    cases source : slot.item <;> simp_all [QueueItem.isAudiobookshelf, QueueItem.hasMpvUrlSource]
  unfold PlaybackRun.cmdAppendQueue
  rw [PlaybackRun.inactive_of_playlist plays.playlist, plain]
  cases nothing : items.isEmpty with
  | true =>
    rw [List.isEmpty_iff] at nothing
    subst nothing
    exact ⟨run, rfl, by simp, plays⟩
  | false =>
    set loaded := items.map fun slot =>
      { slot with item := refreshResume answers.refreshed slot.item } with refreshed
    have ids : loaded.map (·.slotId) = items.map (·.slotId) := by simp [refreshed]
    have direct : (loaded.all fun slot => slot.item.hasMpvUrlSource) = true := by
      simp only [refreshed, all_map, Function.comp_def, refreshResume_hasMpvUrlSource]
      exact all_eq_true.mpr fun slot member => (fresh slot member).2
    have passes : (PlaybackRun.appendSlots run.queue loaded).isSome := by
      rw [PlaybackRun.appendSlots_isSome, ids]
      refine ⟨distinct, fun id member => ?_⟩
      obtain ⟨slot, there, rfl⟩ := mem_map.mp member
      exact (fresh slot there).1
    obtain ⟨longer, appended⟩ := Option.isSome_iff_exists.mp passes
    obtain ⟨order, wellFormed⟩ := PlaybackRun.appendSlots_slotIds plays.wellFormed appended
    simp only [Bool.false_eq_true, if_false, PlaybackRun.appendItemsViaMpv, ← refreshed, direct,
      if_true, PlaybackRun.appendItemsToQueue, appended, Option.map_some]
    exact ⟨_, rfl, by rw [← ids]; exact order, wellFormed, plays.playlist⟩

/-- A carried-out command leaves the run with the order `mirrored` says, still playing a playlist. -/
theorem handleCommand_mirrored (plays : PlaysPlaylist run) (answers : Answers)
    {command : PlayerCommand} (carried : CarriedOut run.queue.slotIds command) :
    ∃ cancels next, run.handleCommand answers command = some (cancels, next) ∧
      next.queue.slotIds = mirrored run.queue.slotIds command ∧ PlaysPlaylist next := by
  cases command with
  | queueAppend items =>
    obtain ⟨next, appended, order, still⟩ := cmdAppendQueue_mirrored plays answers carried
    exact ⟨false, next, by simp [PlaybackRun.handleCommand, appended], order, still⟩
  | queueRemove slotId => exact ⟨_, _, rfl, cmdQueueRemove_mirrored plays answers slotId⟩
  | queueMove slotId toIndex => exact ⟨_, _, rfl, cmdQueueMove_mirrored plays slotId toIndex⟩
  | queueReorder order => exact ⟨_, _, rfl, cmdQueueReorder_mirrored plays order⟩
  | submitQueue items startIdx =>
    cases carried
    have ignored : run.cmdSubmitQueue answers [] startIdx = some run.cancelPendingQuit := by
      simp [PlaybackRun.cmdSubmitQueue, PlaybackRun.inactive_of_playlist plays.playlist]
    refine ⟨true, run.cancelPendingQuit, by simp [PlaybackRun.handleCommand, ignored], rfl, ?_⟩
    exact ⟨plays.wellFormed, plays.playlist⟩
  | togglePause | jumpTo | loadNew => exact carried.elim

end Run

/-! ### What each edit sends takes the order where the owner's is -/

section Edits

variable {queue : PlaybackQueue}

theorem moves_insert {placed rest : List QueueSlotId} (slots : List ExecSlot)
    (distinct : (placed ++ rest ++ slots.map (·.slotId)).Nodup) :
    slotOrder.run (placed ++ rest ++ slots.map (·.slotId))
        (slots.mapIdx fun offset slot => .queueMove slot.slotId (placed.length + offset)) =
      placed ++ slots.map (·.slotId) ++ rest := by
  induction slots generalizing placed with
  | nil => simp
  | cons slot slots ih =>
    have split : placed ++ rest ++ (slot :: slots).map (·.slotId) =
        placed ++ (rest ++ slot.slotId :: slots.map (·.slotId)) := by simp
    rw [split] at distinct ⊢
    obtain ⟨-, tail, apart⟩ := nodup_append.mp distinct
    have fresh : slot.slotId ∉ placed := fun early => apart _ early _ (by simp) rfl
    have new : slot.slotId ∉ rest := fun early =>
      (nodup_append.mp tail).2.2 _ early _ mem_cons_self rfl
    have moved : mirrored (placed ++ (rest ++ slot.slotId :: slots.map (·.slotId))) (.queueMove slot.slotId placed.length) =
        placed ++ [slot.slotId] ++ rest ++ slots.map (·.slotId) := by
      simp only [mirrored]
      have inside : placed.length < (placed ++ (rest ++ slot.slotId :: slots.map (·.slotId))).length := by
        simp only [length_append, length_cons]
        omega
      rw [if_pos inside, moveTo_append fresh (by simp), erase_append_right _ new, erase_cons_head]
      simp
    have kept : (placed ++ [slot.slotId] ++ rest ++ slots.map (·.slotId)).Nodup := moved ▸ mirrored_nodup distinct trivial
    have later := ih kept
    rw [length_append, length_singleton] at later
    have places (offset : Nat) (moved : ExecSlot) : PlayerCommand.queueMove moved.slotId (placed.length + (offset + 1)) =
          .queueMove moved.slotId (placed.length + 1 + offset) := by
      rw [show placed.length + (offset + 1) = placed.length + 1 + offset by omega]
    rw [mapIdx_cons, Machine.run_cons]
    simp only [places]
    show slotOrder.run (mirrored _ (.queueMove slot.slotId placed.length)) _ = _
    rw [moved, later]
    simp

theorem append_behind {ctx : ControlContext} {request : QueueAppend} (distinct : queue.slotIds.Nodup)
    (direct : ∀ item ∈ request.items, item.hasMpvUrlSource = true)
    (room : request.accepted ctx queue = true → Room queue.nextSlotId (request.admitted ctx).length queue.slotIds) :
    slotOrder.Behind CarriedOut (handleQueueAppend ctx queue request).queue.slotIds
      queue.slotIds (handleQueueAppend ctx queue request).sent := by
  cases accepted : request.accepted ctx queue with
  | false =>
    obtain ⟨kept, silent⟩ := handleQueueAppend_refused accepted
    rw [kept, silent]
    exact Machine.Behind.refl _
  | true =>
    obtain ⟨slots, placed, rest, ids, last, handed, items, order, sent⟩ := handleQueueAppend_accepted accepted
    obtain ⟨separate, fresh⟩ := room_iff.mp (room accepted)
    rw [← handed] at separate fresh
    have carried : CarriedOut queue.slotIds (.queueAppend slots) := by
      refine ⟨separate, fun slot member => ⟨fresh _ (mem_map_of_mem member), ?_⟩⟩
      have there : slot.item ∈ request.admitted ctx := items ▸ mem_map_of_mem member
      exact direct _ (mem_of_mem_filter there)
    rw [order, sent, forwardQueueAppend]
    cases anchor : request.before with
    | none =>
      refine ⟨⟨carried, trivial⟩, ?_⟩
      show queue.slotIds ++ slots.map (·.slotId) = _
      rw [ids, last anchor]
      simp
    | some slotId =>
      have appended : (placed ++ rest ++ slots.map (·.slotId)).Nodup := ids ▸ mirrored_nodup distinct carried
      refine ⟨⟨carried, Machine.along_of_forall fun command member order => ?_⟩, ?_⟩
      · obtain ⟨offset, inside, rfl⟩ := mem_mapIdx.mp member
        trivial
      · show slotOrder.run (queue.slotIds ++ slots.map (·.slotId)) _ = _
        rw [ids]
        exact moves_insert slots appended

theorem removeSlot_behind {slotId : QueueSlotId} (last : queue.slotIds = [slotId] → queue.activeSlotId ≠ some slotId) :
    slotOrder.Behind CarriedOut (handleQueueRemoveSlot queue slotId).queue.slotIds
      queue.slotIds (handleQueueRemoveSlot queue slotId).sent := by
  unfold handleQueueRemoveSlot
  split
  · exact Machine.Behind.refl _
  · rename_i held
    rw [slot_isNone, not_not] at held
    split
    · rename_i active
      have remains : ¬ (queue.removeActiveSlotConfirmed slotId).2.isEmpty = true := by
        rw [isEmpty_iff, removeActiveSlotConfirmed_slotIds, erase_eq_nil_iff]
        rintro (nothing | only)
        · rw [nothing] at held
          exact absurd held not_mem_nil
        · exact last only active
      dsimp only
      rw [if_neg remains]
      exact ⟨⟨trivial, trivial⟩, (removeActiveSlotConfirmed_slotIds slotId).symm⟩
    · rename_i other
      exact ⟨⟨trivial, trivial⟩, (removeSlot_slotIds other).symm⟩

theorem run_queueRemove (slotIds removed : List QueueSlotId) :
    slotOrder.run slotIds (removed.map .queueRemove) = removed.foldl List.erase slotIds := by
  induction removed generalizing slotIds with
  | nil => rfl
  | cons slotId removed ih => exact ih (slotIds.erase slotId)

theorem removeSlots_behind {slotIds : List QueueSlotId} (partly : (∀ id ∈ queue.slotIds, id ∈ slotIds) → queue.slotIds = []) :
    slotOrder.Behind CarriedOut (handleQueueRemoveSlots queue slotIds).queue.slotIds
      queue.slotIds (handleQueueRemoveSlots queue slotIds).sent := by
  have erased := @removeHeldSlots_slotIds queue slotIds
  unfold handleQueueRemoveSlots
  dsimp only
  split
  · rename_i nothing
    rw [List.isEmpty_iff] at nothing
    rw [nothing] at erased
    exact ⟨trivial, erased.symm⟩
  · rename_i removed
    have remains : ¬ (removeHeldSlots queue slotIds).2.isEmpty = true := by
      rw [isEmpty_iff]
      intro empty
      have everything : ∀ id ∈ queue.slotIds, id ∈ slotIds := by
        intro id held
        by_contra spared
        have there := mem_removeHeldSlots held spared
        rw [empty] at there
        exact absurd there not_mem_nil
      rw [removeHeldSlots_of_empty (partly everything)] at removed
      exact removed rfl
    rw [if_neg remains]
    refine ⟨Machine.along_of_forall fun command member order => ?_, ?_⟩
    · obtain ⟨id, -, rfl⟩ := mem_map.mp member
      trivial
    · rw [erased]
      exact run_queueRemove ..

theorem moveSlot_behind {slotId : QueueSlotId} {toIndex : Nat} (distinct : queue.slotIds.Nodup)
    (inside : slotId ∈ queue.slotIds → toIndex < queue.len ∨ queue.slotIds.getLast? = some slotId) :
    slotOrder.Behind CarriedOut (handleQueueMoveSlot queue slotId toIndex).queue.slotIds
      queue.slotIds (handleQueueMoveSlot queue slotId toIndex).sent := by
  unfold handleQueueMoveSlot
  split
  · exact Machine.Behind.refl _
  · rename_i held
    rw [slot_isNone, not_not] at held
    refine ⟨⟨trivial, trivial⟩, ?_⟩
    show mirrored queue.slotIds (.queueMove slotId toIndex) = _
    have length : queue.slotIds.length = queue.len := by
      simp [PlaybackQueue.slotIds, PlaybackQueue.len]
    rw [PlaybackQueue.moveSlot_slotIds]
    simp only [mirrored, length]
    split
    · rfl
    · rename_i beyond
      -- Past the end the owner clamps, which moves nothing only of the last slot.
      have last := (inside held).resolve_left beyond
      exact (moveTo_last distinct last (by omega)).symm

theorem shuffle_behind (draw : List QueueSlotId → List QueueSlotId) (pinActiveFirst : Bool) (distinct : queue.slotIds.Nodup) :
    slotOrder.Behind CarriedOut (handleQueueShuffle queue draw pinActiveFirst).queue.slotIds
      queue.slotIds (handleQueueShuffle queue draw pinActiveFirst).sent := by
  unfold handleQueueShuffle
  dsimp only
  split
  · exact Machine.Behind.refl _
  · rename_i moves
    have order := PlaybackQueue.reorderSlots_slotIds distinct (shuffledSlotOrder queue draw pinActiveFirst)
    have applied := reorderSlots_applied moves
    revert order applied
    rcases queue.reorderSlots (shuffledSlotOrder queue draw pinActiveFirst) with ⟨_ | _, reordered⟩
    · intro order applied
      have perm := applied.mp rfl
      rw [if_pos perm] at order
      refine ⟨⟨trivial, trivial⟩, ?_⟩
      show mirrored queue.slotIds (.queueReorder _) = reordered.slotIds
      rw [order, mirrored, if_pos (PlaybackQueue.isSlotPermutation_iff.mpr perm)]
    · intro order applied
      have foreign : ¬ queue.slotIds.Perm (shuffledSlotOrder queue draw pinActiveFirst) := fun perm => nomatch applied.mpr perm
      rw [if_neg foreign] at order
      exact ⟨trivial, order.symm⟩

end Edits

/-- The slots an edit brings are slots mpv can be handed a URL for. -/
def QueueEdit.Direct : QueueEdit → Prop
  | .append _ request => ∀ item ∈ request.items, item.hasMpvUrlSource = true
  | _ => True

/-- The run makes of the edit's commands what the owner makes of the edit: an append finds new ids,
    no edit empties the queue, a move stays inside it, and a completion is not consumed. -/
def QueueEdit.Faithful (queue : PlaybackQueue) : QueueEdit → Prop
  | .append ctx request =>
    request.accepted ctx queue = true →
      Room queue.nextSlotId (request.admitted ctx).length queue.slotIds
  | .removeSlot slotId => queue.slotIds = [slotId] → queue.activeSlotId ≠ some slotId
  | .removeSlots slotIds => (∀ id ∈ queue.slotIds, id ∈ slotIds) → queue.slotIds = []
  | .moveSlot slotId toIndex =>
    slotId ∈ queue.slotIds → toIndex < queue.len ∨ queue.slotIds.getLast? = some slotId
  | .shuffle _ _ => True
  | .trackCompleted sequenceGeneration completed policy =>
    completed.runIdentity = sequenceGeneration → ∀ slot ∈ queue.slot completed.slotId,
      policy.allows completed.consume slot.item = false

theorem QueueEdit.handle_behind {queue : PlaybackQueue} {edit : QueueEdit}
    (distinct : queue.slotIds.Nodup) (direct : edit.Direct) (faithful : edit.Faithful queue) :
    slotOrder.Behind CarriedOut (edit.handle queue).queue.slotIds queue.slotIds (edit.handle queue).sent := by
  cases edit with
  | append ctx request => exact append_behind distinct direct faithful
  | removeSlot slotId => exact removeSlot_behind faithful
  | removeSlots slotIds => exact removeSlots_behind faithful
  | moveSlot slotId toIndex => exact moveSlot_behind distinct faithful
  | shuffle draw pinActiveFirst => exact shuffle_behind draw pinActiveFirst distinct
  | trackCompleted sequenceGeneration completed policy =>
    exact ⟨trivial, (applyTrackCompleted_slotIds fun current slot held =>
      faithful current slot held).symm⟩

/-! ### The owner's queue, the run's copy of it, and the commands between them -/

structure QueueMirror where
  owner : PlaybackQueue
  run : PlaybackRun
  pending : List PlayerCommand := []

inductive MirrorInput where
  | edit (change : QueueEdit)
  /-- The run executes the oldest command it was sent. -/
  | execute (answers : Answers)

namespace QueueMirror

def step (mirror : QueueMirror) : MirrorInput → QueueMirror
  | .edit change =>
    let reply := change.handle mirror.owner
    { mirror with owner := reply.queue, pending := mirror.pending ++ reply.sent }
  | .execute answers =>
    match mirror.pending with
    | [] => mirror
    | command :: pending =>
      match mirror.run.handleCommand answers command with
      | some (_, run) => { mirror with run := run, pending := pending }
      | none => { mirror with pending := pending }

def machine : Machine QueueMirror MirrorInput := ⟨step⟩

/-- Nothing is on its way, and both queues hold the same slots in the same order. -/
structure Aligned (mirror : QueueMirror) : Prop where
  settled : mirror.pending = []
  order : mirror.owner.slotIds = mirror.run.queue.slotIds
  plays : PlaysPlaylist mirror.run

structure InStep (mirror : QueueMirror) : Prop where
  behind : slotOrder.Behind CarriedOut mirror.owner.slotIds mirror.run.queue.slotIds mirror.pending
  plays : PlaysPlaylist mirror.run

variable {mirror : QueueMirror}

theorem Aligned.inStep (aligned : mirror.Aligned) : mirror.InStep := by
  refine ⟨?_, aligned.plays⟩
  rw [aligned.settled, aligned.order]
  exact Machine.Behind.refl _

theorem InStep.owner_distinct (inStep : mirror.InStep) : mirror.owner.slotIds.Nodup := by
  rw [← inStep.behind.reach]
  exact Machine.run_invariant (fun _ _ => mirrored_nodup) inStep.plays.wellFormed.distinct inStep.behind.along

end QueueMirror

def MirrorInput.Direct : MirrorInput → Prop
  | .edit change => change.Direct
  | .execute _ => True

def MirrorInput.Faithful (mirror : QueueMirror) : MirrorInput → Prop
  | .edit change => change.Faithful mirror.owner
  | .execute _ => True

namespace QueueMirror

variable {mirror : QueueMirror}

theorem step_inStep (inStep : mirror.InStep) {input : MirrorInput} (direct : input.Direct)
    (faithful : input.Faithful mirror) : (mirror.step input).InStep := by
  cases input with
  | edit change =>
    have sent := QueueEdit.handle_behind inStep.owner_distinct direct faithful
    exact ⟨inStep.behind.publish sent, inStep.plays⟩
  | execute answers =>
    cases waiting : mirror.pending with
    | nil => simpa [step, waiting] using inStep
    | cons command pending =>
      have behind := inStep.behind
      rw [waiting] at behind
      obtain ⟨carried, rest⟩ := behind.deliver
      obtain ⟨cancels, next, handled, order, plays⟩ := handleCommand_mirrored inStep.plays answers carried
      have stepped : mirror.step (.execute answers) = { mirror with run := next, pending := pending } := by
        simp [step, waiting, handled]
      rw [stepped]
      refine ⟨?_, plays⟩
      show slotOrder.Behind CarriedOut mirror.owner.slotIds next.queue.slotIds pending
      rw [order]
      exact rest

/-- Whatever the edits and whenever the run gets to them, it holds the owner's slots in the owner's
    order once it has executed every command sent, if every edit is one it follows. -/
theorem queues_stay_aligned (aligned : mirror.Aligned) {inputs : List MirrorInput}
    (direct : machine.Along (fun _ input => input.Direct) mirror inputs)
    (faithful : machine.Along (fun mirror input => input.Faithful mirror) mirror inputs)
    (executed : (machine.run mirror inputs).pending = []) :
    (machine.run mirror inputs).run.queue.slotIds =
      (machine.run mirror inputs).owner.slotIds := by
  have keep (mirror : QueueMirror) (input : MirrorInput) (inStep : mirror.InStep)
      (both : input.Direct ∧ input.Faithful mirror) : (mirror.step input).InStep :=
    step_inStep inStep both.1 both.2
  have inStep : (machine.run mirror inputs).InStep :=
    Machine.run_invariant keep aligned.inStep (direct.and faithful)
  have behind := inStep.behind
  rw [executed] at behind
  exact behind.settled

def twoStreams : QueueMirror where
  owner := PlaybackQueue.fromSlotItems ([1, 2].map fun raw => (⟨raw⟩, .twitch ⟨"", ""⟩)) none 0
  run := { queue := ⟨[1, 2].map fun raw => ⟨⟨raw⟩, .twitch ⟨"", ""⟩⟩, some ⟨1⟩⟩ }

theorem twoStreams_aligned : twoStreams.Aligned := ⟨rfl, rfl, ⟨by decide, by decide⟩, rfl⟩

def lateExecution : List MirrorInput :=
  [.edit (.append { queueTransport := { twitch := true } } ⟨[.twitch ⟨"", ""⟩], some ⟨2⟩⟩),
    .edit (.moveSlot ⟨1⟩ 2), .execute {}, .execute {}, .edit (.removeSlot ⟨2⟩), .execute {},
    .execute {}]

theorem queues_stay_aligned_late :
    (machine.run twoStreams lateExecution).run.queue.slotIds =
      (machine.run twoStreams lateExecution).owner.slotIds :=
  queues_stay_aligned twoStreams_aligned
    ⟨by simp [MirrorInput.Direct, QueueEdit.Direct, QueueItem.hasMpvUrlSource], trivial, trivial,
      trivial, trivial, trivial, trivial, trivial⟩
    ⟨fun _ => by decide, fun _ => by decide, trivial, trivial,
      fun only => absurd only (by decide), trivial, trivial, trivial⟩
    (by decide)

/-- A move past the end: the owner puts the slot last, the run leaves it where it is. -/
theorem move_past_end_misaligns :
    let moved := machine.run twoStreams [.edit (.moveSlot ⟨1⟩ 2), .execute {}]
    twoStreams.Aligned ∧ moved.pending = [] ∧ moved.owner.slotIds = [⟨2⟩, ⟨1⟩] ∧
      moved.run.queue.slotIds = [⟨1⟩, ⟨2⟩] :=
  ⟨twoStreams_aligned, by decide⟩

end QueueMirror

end Mbv.Daemon
