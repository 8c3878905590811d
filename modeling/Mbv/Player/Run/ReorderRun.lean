import Mbv.Queue.MovePlan
import Mbv.Player.Run.PlayingItem

namespace Mbv.Player

open Mbv.Queue List

section Plan

variable {placed rest target : List QueueSlotId}

/-- Whatever part of a plan has been carried out, the places it has reached hold the target. -/
theorem plan_settles (distinct : (placed ++ rest).Nodup) (perm : rest.Perm target) {done later : List (QueueSlotId × Nat)}
    (plan : reorderMovesFrom placed.length (placed ++ rest) target = done ++ later) :
    (applyMoves (placed ++ rest) done).take placed.length = placed ∧
      ∀ move ∈ done, (applyMoves (placed ++ rest) done).take (move.2 + 1) = (placed ++ target).take (move.2 + 1) := by
  induction target generalizing placed rest done with
  | nil =>
    obtain ⟨rfl, -⟩ := append_eq_nil_iff.mp plan.symm
    refine ⟨?_, by simp⟩
    simp [applyMoves]
  | cons slotId target ih =>
    have step := planStep distinct perm
    have whole : placed ++ [slotId] ++ target = placed ++ slotId :: target := by simp
    have shorter {order : List QueueSlotId} (kept : order.take (placed ++ [slotId]).length = placed ++ [slotId]) :
        order.take placed.length = placed := by
      have front := congrArg (List.take placed.length) kept
      rw [take_take, length_append, length_singleton, Nat.min_eq_left (Nat.le_succ _), take_left] at front
      exact front
    rw [step.plan] at plan
    by_cases here : (placed ++ rest).idxOf slotId = placed.length
    · rw [if_pos here, nil_append] at plan
      obtain ⟨kept, settled⟩ := ih step.distinct step.perm plan
      rw [step.settled here, ← whole]
      exact ⟨shorter kept, settled⟩
    · rw [if_neg here, singleton_append] at plan
      cases done with
      | nil =>
        refine ⟨?_, by simp⟩
        simp [applyMoves]
      | cons move done =>
        rw [cons_append] at plan
        obtain ⟨same, rest'⟩ := List.cons.inj plan
        subst same
        obtain ⟨kept, settled⟩ := ih step.distinct step.perm rest'
        have first : applyMoves (placed ++ rest) ((slotId, placed.length) :: done) =
            applyMoves (placed ++ [slotId] ++ rest.erase slotId) done := by
          rw [← step.moved]
          rfl
        rw [first, ← whole]
        refine ⟨shorter kept, ?_⟩
        intro move there
        rcases mem_cons.mp there with rfl | there
        · have length : (placed ++ [slotId]).length = placed.length + 1 := by simp
          rw [length] at kept
          rw [kept, ← length, take_left]
        · exact settled move there

theorem moveCommands_entries (distinct : (placed ++ rest).Nodup) (perm : rest.Perm target) :
    (moveCommands (placed ++ rest) (reorderMovesFrom placed.length (placed ++ rest) target)).foldl
      (fun entries command => (mpvEdit entries command).getD entries) (placed ++ rest) =
      placed ++ target := by
  induction target generalizing placed rest with
  | nil => simp [reorderMovesFrom, moveCommands, perm.eq_nil]
  | cons slotId target ih =>
    have step := planStep distinct perm
    have later := ih step.distinct step.perm
    have whole : placed ++ [slotId] ++ target = placed ++ slotId :: target := by simp
    rw [step.plan, ← whole]
    by_cases here : (placed ++ rest).idxOf slotId = placed.length
    · rw [if_pos here, nil_append, step.settled here]
      exact later
    · have inside : placed.length < (placed ++ rest).length := by
        have bound := idxOf_lt_length_of_mem step.member
        have behind := step.behind
        omega
      have moved := mpvMove_eq_moveTo step.member inside
      rw [if_neg here, singleton_append, moveCommands, foldl_cons, step.moved]
      have edit : mpvEdit (placed ++ rest) (moveCommand (placed ++ rest) slotId placed.length) =
          some (placed ++ [slotId] ++ rest.erase slotId) := by
        rw [← step.moved, ← moved]
        rfl
      rw [edit, Option.getD_some]
      exact later

end Plan

namespace PlaybackRun

variable {run : PlaybackRun}

theorem cmdQueueMove_ordinal (slotId : QueueSlotId) (toIndex : Nat) :
    (run.cmdQueueMove slotId toIndex).queue.slotIds[(run.cmdQueueMove slotId toIndex).currentIdx]? =
      run.queue.slotIds[run.currentIdx]? := by
  cases moves : run.movesTo slotId toIndex with
  | false => rw [cmdQueueMove_idle moves]
  | true =>
    obtain ⟨member, inside, elsewhere⟩ := movesTo_iff.mp moves
    have ids := (cmdQueueMove_spec moves).2
    have carried := MpvPlayer.getElem?_mpvMove (mpvMove_eq_moveTo member inside) run.currentIdx
    have landed : (if (playlistMoveArgs (run.queue.slotIds.idxOf slotId) toIndex).1 <
        (playlistMoveArgs (run.queue.slotIds.idxOf slotId) toIndex).2 then
        (playlistMoveArgs (run.queue.slotIds.idxOf slotId) toIndex).2 - 1
        else (playlistMoveArgs (run.queue.slotIds.idxOf slotId) toIndex).2) = toIndex := by
      unfold playlistMoveArgs
      dsimp only
      by_cases later : run.queue.slotIds.idxOf slotId < toIndex
      · rw [if_pos later, if_pos (by omega), Nat.add_sub_cancel]
      · rw [if_neg later, if_neg later]
    rw [landed] at carried
    have ordinal : (run.cmdQueueMove slotId toIndex).currentIdx =
        shiftIndexForMove run.currentIdx (run.queue.slotIds.idxOf slotId) toIndex := by
      have bound := idxOf_lt_length_of_mem member
      rw [ExecutionSequence.slotIds_length] at bound inside
      unfold cmdQueueMove
      rw [ExecutionSequence.slotIndex_of_mem member]
      dsimp only
      rw [if_neg (by simp [queueLen, bound, inside, elsewhere])]
      rfl
    rw [ids, ordinal]
    exact carried

theorem cmdQueueReorder_ordinal (order : List QueueSlotId) :
    (run.cmdQueueReorder order).queue.slotIds[(run.cmdQueueReorder order).currentIdx]? = run.queue.slotIds[run.currentIdx]? := by
  unfold cmdQueueReorder
  split
  · rename_i permutation
    clear permutation
    generalize reorderMovePlan run.queue.slotIds order = moves
    induction moves generalizing run with
    | nil => rfl
    | cons move moves ih => exact ih.trans (cmdQueueMove_ordinal move.1 move.2)
  · rfl

end PlaybackRun

/-- A plan carried out move by move: it ends at the target, and never disturbs a place it has
    reached. -/
structure ExactPlan (current target : List QueueSlotId) (moves : List (QueueSlotId × Nat)) : Prop where
  reaches : ∀ queue : PlaybackQueue, queue.slotIds = current →
    (queue.moveSlots moves).slotIds = target
  settles : ∀ done later, moves = done ++ later →
    ∀ queue : PlaybackQueue, queue.slotIds = current → ∀ move ∈ done,
      (queue.moveSlots done).slotIds.take (move.2 + 1) = target.take (move.2 + 1)

structure ReorderedExactly (run : PlaybackRun) (target : List QueueSlotId) : Prop where
  queue : (run.cmdQueueReorder target).queue.slotIds = target
  playlist : ∃ commands, (run.cmdQueueReorder target).mpv = run.mpv ++ commands ∧
    ∀ playlist : MpvPlaylist, playlist.entries = run.queue.slotIds →
      (commands.foldl MpvPlaylist.carryOut playlist).entries = target
  ordinal : target[(run.cmdQueueReorder target).currentIdx]? = run.queue.slotIds[run.currentIdx]?

theorem exactPlan {current target : List QueueSlotId} (distinct : current.Nodup)
    (perm : current.Perm target) : ExactPlan current target (reorderMovePlan current target) := by
  constructor
  · rintro queue rfl
    rw [moveSlots_slotIds, reorderMovePlan_spec distinct perm]
  · rintro done later plan queue rfl move there
    rw [moveSlots_slotIds]
    exact (@plan_settles [] queue.slotIds target distinct perm done later plan).2 move there

theorem reorderedExactly {run : PlaybackRun} {target : List QueueSlotId}
    (playlist : run.runLifecycle.isActiveFile = false) (distinct : run.queue.slotIds.Nodup)
    (perm : run.queue.slotIds.Perm target) : ReorderedExactly run target := by
  obtain ⟨edits, queue⟩ := @PlaybackRun.reorder_edits run playlist [] run.queue.slotIds target distinct perm rfl
  have plan : run.cmdQueueReorder target = (reorderMovePlan run.queue.slotIds target).foldl
      (fun run move => run.cmdQueueMove move.1 move.2) run := by
    unfold PlaybackRun.cmdQueueReorder
    rw [if_pos (PlaybackQueue.isSlotPermutation_iff.mpr perm)]
  have ids : (run.cmdQueueReorder target).queue.slotIds = target := by
    rw [plan]
    exact queue
  refine ⟨ids, ⟨moveCommands run.queue.slotIds (reorderMovePlan run.queue.slotIds target), ?_, ?_⟩, ?_⟩
  · rw [plan]
    exact edits.mpv
  · intro playlist entries
    rw [entries_carryOut, entries]
    exact @moveCommands_entries [] run.queue.slotIds target distinct perm
  · have ordinal := @PlaybackRun.cmdQueueReorder_ordinal run target
    rw [ids] at ordinal
    exact ordinal

/-- A reorder is exact on every level: the plan on a queue, and the command on a run that plays its
    queue as mpv's playlist; an order of other slots changes nothing. -/
theorem reorder_is_exact :
    (∀ current target : List QueueSlotId, current.Nodup → current.Perm target →
      ∃ moves, checkedReorderMovePlan current target = some moves ∧ ExactPlan current target moves) ∧
    (∀ (run : PlaybackRun) (target : List QueueSlotId), run.runLifecycle.isActiveFile = false →
      run.queue.slotIds.Nodup → run.queue.slotIds.Perm target → ReorderedExactly run target) ∧
    ∀ (run : PlaybackRun) (target : List QueueSlotId), ¬ run.queue.slotIds.Perm target →
      run.cmdQueueReorder target = run := by
  refine ⟨?_, ?_, ?_⟩
  · intro current target distinct perm
    exact ⟨_, checked_of_perm perm, exactPlan distinct perm⟩
  · intro run target playlist distinct perm
    exact reorderedExactly playlist distinct perm
  · intro run target stale
    unfold PlaybackRun.cmdQueueReorder
    rw [if_neg fun named => stale (PlaybackQueue.isSlotPermutation_iff.mp named)]

def threeStreams : PlaybackRun where
  queue := ⟨[⟨⟨1⟩, .twitch ⟨"", ""⟩⟩, ⟨⟨2⟩, .twitch ⟨"", ""⟩⟩, ⟨⟨3⟩, .twitch ⟨"", ""⟩⟩], some ⟨2⟩⟩
  currentIdx := 1

theorem reorder_is_exact_of_three :
    ExactPlan threeStreams.queue.slotIds [⟨2⟩, ⟨3⟩, ⟨1⟩] [(⟨2⟩, 0), (⟨3⟩, 1)] ∧
      ReorderedExactly threeStreams [⟨2⟩, ⟨3⟩, ⟨1⟩] := by
  constructor
  · obtain ⟨moves, returned, exact⟩ := reorder_is_exact.1 threeStreams.queue.slotIds
      [⟨2⟩, ⟨3⟩, ⟨1⟩] (by decide) (by decide)
    cases returned
    exact exact
  · exact reorder_is_exact.2.1 threeStreams [⟨2⟩, ⟨3⟩, ⟨1⟩] rfl (by decide) (by decide)

end Mbv.Player
