import Mbv.Queue.SlotIdentity
import Mbv.Player.Run.QueueStart
import Mbv.Player.Run.PlayingRun

namespace Mbv.Player

open Mbv.Queue List

/-! ### What mpv makes of an edit -/

/-- The command of a move, for a run whose slots stand in `order`. -/
def moveCommand (order : List QueueSlotId) (slotId : QueueSlotId) (target : Nat) : MpvCommand :=
  let (index1, index2) := playlistMoveArgs (order.idxOf slotId) target
  .playlistMove index1 index2

def moveCommands : List QueueSlotId → List (QueueSlotId × Nat) → List MpvCommand
  | _, [] => []
  | order, (slotId, target) :: plan =>
    moveCommand order slotId target :: moveCommands (order.moveTo slotId target) plan

namespace MpvPlayer

section Commands

variable {player : MpvPlayer} {starts : QueueSlotId → Int} {refuses : Nat → MpvCommand → Bool}
  {n : Nat}

@[simp] theorem carryOut_nil : carryOut starts refuses n player [] = player := rfl

theorem getElem?_mpvMove {entries moved : List QueueSlotId} {index1 index2 : Nat}
    (moves : mpvMove entries index1 index2 = some moved) (place : Nat) :
    moved[shiftIndexForMove place index1 (if index1 < index2 then index2 - 1 else index2)]? = entries[place]? := by
  unfold mpvMove at moves
  cases found : entries[index1]? with
  | none => simp [found] at moves
  | some entry =>
    rw [found] at moves
    dsimp only at moves
    split at moves
    · rename_i inside
      cases moves
      have bound := (List.getElem?_eq_some_iff.mp found).1
      have length := length_eraseIdx_of_lt bound
      generalize goal : (if index1 < index2 then index2 - 1 else index2) = target
      have room : target ≤ (entries.eraseIdx index1).length := by
        rw [length]
        split at goal <;> omega
      unfold shiftIndexForMove
      rw [List.getElem?_insertIdx, List.getElem?_eraseIdx, List.getElem?_eraseIdx]
      by_cases same : place = index1
      · subst same
        simp [room, found]
      · grind
    · cases moves

theorem playing_move (index1 index2 : Nat) : (player.apply starts (.playlistMove index1 index2)).playing = player.playing := by
  unfold apply
  dsimp only
  cases moves : mpvMove player.entries index1 index2 with
  | none => rfl
  | some moved =>
    unfold playing
    dsimp only
    cases player.current with
    | none => rfl
    | some place =>
      have same := getElem?_mpvMove moves place
      simp only [Option.map_some, Option.bind_some, same]

theorem playing_moves {commands : List MpvCommand}
    (moves : ∀ command ∈ commands, ∃ index1 index2, command = .playlistMove index1 index2) :
    (carryOut starts refuses n player commands).playing = player.playing := by
  induction commands generalizing player n with
  | nil => rfl
  | cons command commands ih =>
    obtain ⟨index1, index2, rfl⟩ := moves _ mem_cons_self
    have later := @ih (if refuses n (.playlistMove index1 index2) then player
      else player.apply starts (.playlistMove index1 index2)) (n + 1)
      (fun command member => moves command (mem_cons_of_mem _ member))
    refine later.trans ?_
    split
    · rfl
    · exact playing_move index1 index2

theorem playing_appendPlay {file : QueueSlotId × Int} (plays : player.playing = some file) (slotId : QueueSlotId) :
    (player.apply starts (.loadfile slotId .appendPlay)).playing = some file := by
  unfold playing at plays
  unfold apply
  dsimp only
  cases current : player.current with
  | none =>
    rw [current] at plays
    cases plays
  | some place =>
    rw [current, Option.bind_some] at plays
    cases found : player.entries[place]? with
    | none =>
      rw [found] at plays
      cases plays
    | some entry =>
      rw [found] at plays
      have bound := (List.getElem?_eq_some_iff.mp found).1
      unfold playing
      simp only [Option.bind_some]
      rw [List.getElem?_append_left bound, found]
      exact plays

theorem entries_appendPlay (slotId : QueueSlotId) :
    (player.apply starts (.loadfile slotId .appendPlay)).entries = player.entries ++ [slotId] := by
  unfold apply
  dsimp only
  split <;> rfl

def appends (slotIds : List QueueSlotId) : List MpvCommand :=
  slotIds.map fun slotId => .loadfile slotId .appendPlay

theorem playing_appends {file : QueueSlotId × Int} (plays : player.playing = some file) (slotIds : List QueueSlotId) :
    (carryOut starts refuses n player (appends slotIds)).playing = some file := by
  induction slotIds generalizing player n with
  | nil => exact plays
  | cons slotId slotIds ih =>
    apply ih
    split
    · exact plays
    · exact playing_appendPlay plays slotId

theorem length_appends (slotIds : List QueueSlotId) :
    (carryOut starts refuses n player (appends slotIds)).entries.length ≤ player.entries.length + slotIds.length := by
  induction slotIds generalizing player n with
  | nil => exact Nat.le_refl _
  | cons slotId slotIds ih =>
    have later := @ih (if refuses n (.loadfile slotId .appendPlay) then player
      else player.apply starts (.loadfile slotId .appendPlay)) (n + 1)
    refine later.trans ?_
    rw [length_cons]
    split
    · omega
    · rw [entries_appendPlay, length_append, length_singleton]
      omega

theorem entries_appends {refused : List Nat} {slotIds : List QueueSlotId}
    (loads : ∀ n slotId, refuses n (.loadfile slotId .appendPlay) = refused.contains n) :
    (carryOut starts refuses n player (appends slotIds)).entries = player.entries ++ slotIds ↔
      ∀ k < slotIds.length, n + k ∉ refused := by
  induction slotIds generalizing player n with
  | nil => simp [appends]
  | cons slotId slotIds ih =>
    change (carryOut starts refuses (n + 1) (if refuses n (.loadfile slotId .appendPlay) then player
      else player.apply starts (.loadfile slotId .appendPlay)) (appends slotIds)).entries = _ ↔ _
    rw [loads]
    by_cases first : n ∈ refused
    · have short := @length_appends player starts refuses (n + 1) slotIds
      rw [if_pos (by simpa using first)]
      constructor
      · intro all
        rw [all, length_append, length_cons] at short
        omega
      · intro none
        exact absurd first (none 0 (Nat.succ_pos _))
    · have later := @ih (player.apply starts (.loadfile slotId .appendPlay)) (n + 1)
      rw [entries_appendPlay, append_assoc, singleton_append] at later
      rw [if_neg (by simpa using first), later]
      constructor
      · intro rest k bound
        cases k with
        | zero => exact first
        | succ k =>
          have := rest k (by simpa using bound)
          rwa [Nat.add_assoc, Nat.add_comm 1 k] at this
      · intro all k bound
        have := all (k + 1) (by simpa using bound)
        rwa [Nat.add_comm k 1, ← Nat.add_assoc] at this

theorem entries_move {slotId : QueueSlotId} {target : Nat} (member : slotId ∈ player.entries)
    (inside : target < player.entries.length) :
    (player.apply starts (moveCommand player.entries slotId target)).entries = player.entries.moveTo slotId target := by
  unfold apply moveCommand
  dsimp only
  rw [mpvMove_eq_moveTo member inside]

theorem entries_before {index1 index2 place : Nat} (front : index2 ≤ index1) (before : place < index2) :
    (player.apply starts (.playlistMove index1 index2)).entries[place]? = player.entries[place]? := by
  unfold apply
  dsimp only
  cases moves : mpvMove player.entries index1 index2 with
  | none => rfl
  | some moved =>
    have kept := getElem?_mpvMove moves place
    rw [if_neg (by omega)] at kept
    have same : shiftIndexForMove place index1 index2 = place := by
      unfold shiftIndexForMove
      rw [if_neg (by omega), if_neg (by omega), if_neg (by omega)]
    rw [same] at kept
    exact kept

end Commands

end MpvPlayer

section Reorder

variable {placed rest target : List QueueSlotId} {slotId : QueueSlotId}

structure PlanStep (placed rest : List QueueSlotId) (slotId : QueueSlotId)
    (target : List QueueSlotId) : Prop where
  member : slotId ∈ placed ++ rest
  behind : placed.length ≤ (placed ++ rest).idxOf slotId
  moved : (placed ++ rest).moveTo slotId placed.length = placed ++ [slotId] ++ rest.erase slotId
  distinct : (placed ++ [slotId] ++ rest.erase slotId).Nodup
  perm : (rest.erase slotId).Perm target
  plan : reorderMovesFrom placed.length (placed ++ rest) (slotId :: target) =
    (if (placed ++ rest).idxOf slotId = placed.length then [] else [(slotId, placed.length)]) ++
      reorderMovesFrom (placed ++ [slotId]).length (placed ++ [slotId] ++ rest.erase slotId) target
  settled : (placed ++ rest).idxOf slotId = placed.length →
    placed ++ rest = placed ++ [slotId] ++ rest.erase slotId

theorem planStep (distinct : (placed ++ rest).Nodup) (perm : rest.Perm (slotId :: target)) :
    PlanStep placed rest slotId target := by
  have member : slotId ∈ rest := perm.mem_iff.mpr mem_cons_self
  have whole : slotId ∈ placed ++ rest := mem_append_right placed member
  have fresh : slotId ∉ placed := fun early =>
    (nodup_append.mp distinct).2.2 slotId early slotId member rfl
  have moved : (placed ++ rest).moveTo slotId placed.length = placed ++ [slotId] ++ rest.erase slotId := by
    rw [moveTo_append fresh member]
    simp
  have settled : (placed ++ rest).idxOf slotId = placed.length → placed ++ rest = placed ++ [slotId] ++ rest.erase slotId := by
    intro here
    rw [← moved, ← here, moveTo_idxOf distinct whole]
  refine ⟨whole, ?_, moved, moved ▸ distinct.moveTo slotId placed.length, ?_, ?_, settled⟩
  · rw [idxOf_append_of_notMem fresh]
    exact Nat.le_add_right ..
  · simpa using perm.erase slotId
  · rw [reorderMovesFrom, List.idxOf?_of_mem whole]
    dsimp only
    split
    · rename_i here
      rw [settled here, length_append, length_singleton]
      rfl
    · have edited : ((placed ++ rest).eraseIdx ((placed ++ rest).idxOf slotId)).insertIdx
          placed.length slotId = placed ++ [slotId] ++ rest.erase slotId := by
        rw [eraseIdx_idxOf_eq_erase, erase_append_right rest fresh, insertIdx_append_length]
        simp
      rw [edited, length_append, length_singleton]
      rfl

variable {player : MpvPlayer} {starts : QueueSlotId → Int} {refuses : Nat → MpvCommand → Bool}
  {n : Nat}

theorem entries_placed (distinct : (placed ++ rest).Nodup) (perm : rest.Perm target) {place : Nat}
    (early : place < placed.length) :
    (MpvPlayer.carryOut starts refuses n player (moveCommands (placed ++ rest)
      (reorderMovesFrom placed.length (placed ++ rest) target))).entries[place]? =
      player.entries[place]? := by
  induction target generalizing placed rest player n with
  | nil => rfl
  | cons slotId target ih =>
    have step := planStep distinct perm
    have within : place < (placed ++ [slotId]).length := by
      rw [length_append]
      omega
    rw [step.plan]
    by_cases here : (placed ++ rest).idxOf slotId = placed.length
    · rw [if_pos here, step.settled here]
      exact ih step.distinct step.perm within
    · rw [if_neg here]
      simp only [singleton_append, moveCommands, step.moved, MpvPlayer.carryOut]
      refine (ih step.distinct step.perm within).trans ?_
      have front : placed.length ≤ (placed ++ rest).idxOf slotId := step.behind
      split
      · rfl
      · unfold moveCommand playlistMoveArgs
        dsimp only
        rw [if_neg (by omega)]
        exact MpvPlayer.entries_before front early

/-- mpv's playlist takes the order asked for exactly when mpv refuses no move of the plan. -/
theorem entries_reorder {refused : List Nat} (distinct : (placed ++ rest).Nodup)
    (perm : rest.Perm target) (entries : player.entries = placed ++ rest)
    (moves : ∀ n index1 index2, refuses n (.playlistMove index1 index2) = refused.contains n) :
    (MpvPlayer.carryOut starts refuses n player (moveCommands (placed ++ rest)
      (reorderMovesFrom placed.length (placed ++ rest) target))).entries = placed ++ target ↔
      ∀ k < (reorderMovesFrom placed.length (placed ++ rest) target).length, n + k ∉ refused := by
  induction target generalizing placed rest player n with
  | nil => simp [reorderMovesFrom, moveCommands, entries, perm.eq_nil]
  | cons slotId target ih =>
    have step := planStep distinct perm
    rw [step.plan]
    by_cases here : (placed ++ rest).idxOf slotId = placed.length
    · have later := @ih (placed ++ [slotId]) (rest.erase slotId) player n step.distinct step.perm
        (entries.trans (step.settled here))
      rw [if_pos here, step.settled here]
      simpa using later
    · rw [if_neg here]
      simp only [singleton_append, moveCommands, step.moved, MpvPlayer.carryOut]
      have refusal : refuses n (moveCommand (placed ++ rest) slotId placed.length) = refused.contains n := moves n _ _
      rw [refusal]
      by_cases first : n ∈ refused
      · -- The slot is not put in its place, and no later move goes there.
        rw [if_pos (by simpa using first)]
        constructor
        · intro all
          have stays := @entries_placed (placed ++ [slotId]) (rest.erase slotId) target player
            starts refuses (n + 1) step.distinct step.perm placed.length (by simp)
          rw [all, entries] at stays
          have there : (placed ++ slotId :: target)[placed.length]? = some slotId := by simp
          rw [there] at stays
          exact absurd (idxOf_eq_of_getElem? distinct stays.symm) here
        · intro none
          exact absurd first (none 0 (Nat.succ_pos _))
      · have inside : placed.length < player.entries.length := by
          have bound := idxOf_lt_length_of_mem step.member
          have behind := step.behind
          rw [entries]
          omega
        have carried : (player.apply starts (moveCommand (placed ++ rest) slotId placed.length)).entries =
            placed ++ [slotId] ++ rest.erase slotId := by
          rw [← step.moved, ← entries]
          exact MpvPlayer.entries_move (entries ▸ step.member) inside
        have later := @ih (placed ++ [slotId]) (rest.erase slotId)
          (player.apply starts (moveCommand (placed ++ rest) slotId placed.length)) (n + 1)
          step.distinct step.perm carried
        have whole : placed ++ [slotId] ++ target = placed ++ slotId :: target := by simp
        rw [whole] at later
        rw [if_neg (by simpa using first), later]
        constructor
        · intro rest k bound
          cases k with
          | zero => exact first
          | succ k =>
            have := rest k (by simpa using bound)
            rwa [Nat.add_assoc, Nat.add_comm 1 k] at this
        · intro all k bound
          have := all (k + 1) (by simpa using bound)
          rwa [Nat.add_comm k 1, ← Nat.add_assoc] at this

end Reorder

/-! ### What the run makes of an edit -/

namespace PlaybackRun

variable {run next : PlaybackRun}

/-- What an edit of its queue leaves of a run: the active slot, its session, whether its stop is
    reported, and that the run goes on. -/
def face (run : PlaybackRun) :
    Option QueueSlotId × SessionReporter × StopReport × Option PlaybackGeneration × Bool :=
  (run.activeSlotId, run.reporter, run.itemLifecycle.stopReport, run.runLifecycle.ended,
    run.status.active)

def Plain (run : PlaybackRun) : Prop :=
  ∀ slot ∈ run.queue.slots, slot.item.isAudiobookshelf = false

/-- The run edits its queue, tells mpv `commands` and is otherwise as before. -/
structure Edits (run next : PlaybackRun) (commands : List MpvCommand) : Prop where
  face : next.face = run.face
  projection : next.runLifecycle.projection = run.runLifecycle.projection
  mpv : next.mpv = run.mpv ++ commands
  wellFormed : run.queue.WellFormed → next.queue.WellFormed
  plain : run.runLifecycle.isActiveFile = false → run.Plain → next.Plain

theorem Edits.refl (run : PlaybackRun) : Edits run run [] := ⟨rfl, rfl, (append_nil _).symm, id, fun _ => id⟩

theorem isActiveFile_of_edits {commands : List MpvCommand} (edits : Edits run next commands) :
    next.runLifecycle.isActiveFile = run.runLifecycle.isActiveFile := by
  unfold RunLifecycle.isActiveFile
  rw [edits.projection]

theorem Edits.trans {middle : PlaybackRun} {first second : List MpvCommand}
    (before : Edits run middle first) (after : Edits middle next second) :
    Edits run next (first ++ second) where
  face := after.face.trans before.face
  projection := after.projection.trans before.projection
  mpv := by rw [after.mpv, before.mpv, append_assoc]
  wellFormed := after.wellFormed ∘ before.wellFormed
  plain playlist plain := after.plain ((isActiveFile_of_edits before).trans playlist) (before.plain playlist plain)

variable {slotId : QueueSlotId} {slot : ExecSlot} {target : Nat}

theorem plain_moveSlot {sequence : ExecutionSequence} (member : slot ∈ (sequence.moveSlot slotId target).2.slots) :
    slot ∈ sequence.slots := by
  unfold ExecutionSequence.moveSlot at member
  split at member
  · exact member
  · dsimp only at member
    unfold Keyed.move at member
    split at member
    · exact member
    · split at member
      · exact member
      · rename_i found
        rcases eq_or_mem_of_mem_insertIdx member with rfl | kept
        · exact mem_of_getElem? found
        · exact mem_of_mem_eraseIdx kept

theorem plain_removeSlot {sequence : ExecutionSequence}
    (member : slot ∈ (sequence.removeSlot slotId).slots) : slot ∈ sequence.slots := by
  unfold ExecutionSequence.removeSlot at member
  split at member
  · exact member
  · split at member
    · exact member
    · exact mem_of_mem_eraseIdx member

theorem plain_removeActive {sequence : ExecutionSequence} (member : slot ∈ (sequence.removeActiveSlotConfirmed slotId).slots) :
    slot ∈ sequence.slots := by
  unfold ExecutionSequence.removeActiveSlotConfirmed at member
  split at member
  · exact member
  · exact mem_of_mem_eraseIdx member

/-- A move that changes something: its slot is here, and not at its target. -/
def movesTo (run : PlaybackRun) (slotId : QueueSlotId) (target : Nat) : Bool :=
  run.queue.slotIds.contains slotId && target < run.queue.slotIds.length &&
    run.queue.slotIds.idxOf slotId ≠ target

theorem movesTo_iff : run.movesTo slotId target = true ↔ slotId ∈ run.queue.slotIds ∧
      target < run.queue.slotIds.length ∧ run.queue.slotIds.idxOf slotId ≠ target := by
  simp [movesTo, and_assoc]

theorem cmdQueueMove_idle (idle : run.movesTo slotId target = false) : run.cmdQueueMove slotId target = run := by
  unfold cmdQueueMove
  cases found : run.queue.slotIndex slotId with
  | none => rfl
  | some source =>
    obtain ⟨member, inside⟩ := ExecutionSequence.slotIndex_some found
    rw [ExecutionSequence.slotIndex_of_mem member, Option.some.injEq] at found
    have unmoved : ¬ (source < run.queueLen ∧ target < run.queueLen ∧ source ≠ target) := by
      intro useful
      rw [← found, queueLen, ← ExecutionSequence.slotIds_length] at useful
      rw [movesTo_iff.mpr ⟨member, useful.2⟩] at idle
      cases idle
    dsimp only
    rw [if_pos]
    simp only [Bool.or_eq_true, decide_eq_true_eq]
    omega

theorem cmdQueueMove_spec (moves : run.movesTo slotId target = true) : Edits run (run.cmdQueueMove slotId target)
        (if run.runLifecycle.isActiveFile then []
          else [moveCommand run.queue.slotIds slotId target]) ∧
      (run.cmdQueueMove slotId target).queue.slotIds = run.queue.slotIds.moveTo slotId target := by
  obtain ⟨member, inside, elsewhere⟩ := movesTo_iff.mp moves
  have ids : (run.queue.moveSlot slotId target).2.slotIds = run.queue.slotIds.moveTo slotId target :=
    ExecutionSequence.moveSlot_slotIds slotId target
  have marker : (run.queue.moveSlot slotId target).2.activeSlotId = run.queue.activeSlotId :=
    ExecutionSequence.moveSlot_active slotId target
  have shown : ∀ moved : PlaybackRun, moved.reporter = run.reporter → moved.itemLifecycle = run.itemLifecycle →
      moved.runLifecycle = run.runLifecycle → moved.status.active = run.status.active →
      moved.queue = (run.queue.moveSlot slotId target).2 → moved.face = run.face := by
    intro moved reporter item lifecycle active queue
    simp only [face, activeSlotId, reporter, item, lifecycle, active, queue, marker]
  unfold cmdQueueMove
  rw [ExecutionSequence.slotIndex_of_mem member]
  dsimp only
  have bound := idxOf_lt_length_of_mem member
  rw [ExecutionSequence.slotIds_length] at bound inside
  rw [if_neg (by simp [queueLen, bound, inside, elsewhere])]
  cases projected : run.runLifecycle.isActiveFile with
  | true =>
    simp only [if_true]
    refine ⟨⟨shown _ rfl rfl rfl rfl rfl, rfl, (append_nil _).symm, fun wellFormed =>
      wellFormed.moveSlot slotId target, fun _ plain slot there => ?_⟩, ids⟩
    exact plain slot (plain_moveSlot there)
  | false =>
    refine ⟨⟨shown _ rfl rfl rfl rfl rfl, rfl, rfl, fun wellFormed =>
      wellFormed.moveSlot slotId target, fun _ plain slot there => ?_⟩, ids⟩
    exact plain slot (plain_moveSlot there)

theorem cmdQueueMove_activeFile (activeFile : run.runLifecycle.isActiveFile = true)
    (slotId : QueueSlotId) (target : Nat) : Edits run (run.cmdQueueMove slotId target) [] := by
  cases moves : run.movesTo slotId target with
  | false =>
    rw [cmdQueueMove_idle moves]
    exact .refl run
  | true =>
    have edits := (cmdQueueMove_spec moves).1
    rw [activeFile, if_pos rfl] at edits
    exact edits

theorem cmdQueueReorder_activeFile (activeFile : run.runLifecycle.isActiveFile = true)
    (order : List QueueSlotId) : Edits run (run.cmdQueueReorder order) [] := by
  unfold cmdQueueReorder
  split
  · rename_i permutation
    clear permutation
    generalize reorderMovePlan run.queue.slotIds order = plan
    induction plan generalizing run with
    | nil => exact .refl run
    | cons move plan ih =>
      have first := cmdQueueMove_activeFile activeFile move.1 move.2
      exact first.trans (ih ((isActiveFile_of_edits first).trans activeFile))
  · exact .refl run

theorem reorder_edits (playlist : run.runLifecycle.isActiveFile = false)
    {placed rest target : List QueueSlotId} (distinct : (placed ++ rest).Nodup)
    (perm : rest.Perm target) (order : run.queue.slotIds = placed ++ rest) :
    let plan := reorderMovesFrom placed.length (placed ++ rest) target
    let next := plan.foldl (fun run move => run.cmdQueueMove move.1 move.2) run
    Edits run next (moveCommands (placed ++ rest) plan) ∧ next.queue.slotIds = placed ++ target := by
  induction target generalizing placed rest run with
  | nil =>
    refine ⟨.refl run, ?_⟩
    rw [perm.eq_nil] at order
    exact order
  | cons slotId target ih =>
    have step := planStep distinct perm
    have whole : placed ++ [slotId] ++ target = placed ++ slotId :: target := by simp
    dsimp only
    rw [step.plan]
    by_cases here : (placed ++ rest).idxOf slotId = placed.length
    · have later := ih playlist step.distinct step.perm (order.trans (step.settled here))
      rw [if_pos here, step.settled here, ← whole]
      exact later
    · have inside : placed.length < (placed ++ rest).length := by
        have bound := idxOf_lt_length_of_mem step.member
        have behind := step.behind
        omega
      obtain ⟨edits, ids⟩ := cmdQueueMove_spec (movesTo_iff.mpr (by rw [order]; exact ⟨step.member, inside, here⟩ :
          slotId ∈ run.queue.slotIds ∧ placed.length < run.queue.slotIds.length ∧
            run.queue.slotIds.idxOf slotId ≠ placed.length))
      rw [playlist, if_neg Bool.false_ne_true, order] at edits
      rw [order, step.moved] at ids
      have later := ih ((isActiveFile_of_edits edits).trans playlist) step.distinct step.perm ids
      rw [if_neg here]
      simp only [singleton_append, moveCommands, step.moved, foldl_cons]
      rw [← whole]
      exact ⟨edits.trans later.1, later.2⟩

theorem cmdQueueReorder_spec (playlist : run.runLifecycle.isActiveFile = false)
    (wellFormed : run.queue.WellFormed) {order : List QueueSlotId}
    (permutation : isSlotPermutation run.queue.slotIds order = true) :
    Edits run (run.cmdQueueReorder order) (moveCommands run.queue.slotIds (reorderMovePlan run.queue.slotIds order)) ∧
      (run.cmdQueueReorder order).queue.slotIds = order := by
  unfold cmdQueueReorder
  rw [if_pos permutation]
  exact @reorder_edits run playlist [] run.queue.slotIds order wellFormed.distinct
    (PlaybackQueue.isSlotPermutation_iff.mp permutation) rfl

def withoutSlot (run : PlaybackRun) (slotId : QueueSlotId) : ExecutionSequence :=
  if run.activeSlotId = some slotId then run.queue.removeActiveSlotConfirmed slotId
  else run.queue.removeSlot slotId

theorem withoutSlot_slotIds (run : PlaybackRun) (slotId : QueueSlotId) :
    (run.withoutSlot slotId).slotIds = run.queue.slotIds.erase slotId := by
  unfold withoutSlot
  split
  · exact ExecutionSequence.removeActiveSlotConfirmed_slotIds slotId
  · rename_i other
    exact (ExecutionSequence.removeSlot_slotIds slotId).trans (if_neg other)

theorem withoutSlot_wellFormed (wellFormed : run.queue.WellFormed) (slotId : QueueSlotId) :
    (run.withoutSlot slotId).WellFormed := by
  unfold withoutSlot
  split
  · exact wellFormed.removeActiveSlotConfirmed slotId
  · exact wellFormed.removeSlot slotId

theorem withoutSlot_mem (member : slot ∈ (run.withoutSlot slotId).slots) : slot ∈ run.queue.slots := by
  unfold withoutSlot at member
  split at member
  · exact plain_removeActive member
  · exact plain_removeSlot member

theorem removePlaylistSlot_spec (run : PlaybackRun) (slotId : QueueSlotId) (idx : Nat) :
    (run.removePlaylistSlot slotId idx).queue = run.withoutSlot slotId ∧
      (run.removePlaylistSlot slotId idx).mpv = run.mpv ++ [.playlistRemove idx] ∧
      (run.removePlaylistSlot slotId idx).runLifecycle.projection = run.runLifecycle.projection := by
  have place := run.removePlaylistSlot_place slotId idx
  refine ⟨congrArg Place.queue place, ?_, congrArg Place.projection place⟩
  by_cases jumped : run.runLifecycle.jumpTargetSlot = some slotId
  · by_cases own : run.activeSlotId = some slotId <;>
      simp [removePlaylistSlot, PlaybackRun.command, syncStatusPosition, jumped, own]
  · by_cases own : run.activeSlotId = some slotId <;>
      simp [removePlaylistSlot, PlaybackRun.command, syncStatusPosition, jumped, own]

theorem removePlaylistSlot_edits (other : run.activeSlotId ≠ some slotId) (idx : Nat) :
    Edits run (run.removePlaylistSlot slotId idx) [.playlistRemove idx] := by
  obtain ⟨queue, mpv, projection⟩ := run.removePlaylistSlot_spec slotId idx
  have marker : (run.withoutSlot slotId).activeSlotId = run.queue.activeSlotId := by
    unfold withoutSlot
    rw [if_neg other]
    exact ExecutionSequence.removeSlot_active slotId
  have rest : (run.removePlaylistSlot slotId idx).reporter = run.reporter ∧
      (run.removePlaylistSlot slotId idx).itemLifecycle = run.itemLifecycle ∧
      (run.removePlaylistSlot slotId idx).runLifecycle.ended = run.runLifecycle.ended ∧
      (run.removePlaylistSlot slotId idx).status.active = run.status.active := by
    by_cases jumped : run.runLifecycle.jumpTargetSlot = some slotId <;>
      simp [removePlaylistSlot, PlaybackRun.command, syncStatusPosition, jumped, other, RunLifecycle.disarmJump]
  refine ⟨?_, projection, mpv, fun wellFormed => ?_, fun _ plain slot member => ?_⟩
  · simp only [face, activeSlotId, queue, marker, rest]
  · rw [queue]
    exact withoutSlot_wellFormed wellFormed slotId
  · rw [queue] at member
    exact plain slot (withoutSlot_mem member)

theorem removeActiveFileSlot_edits (answers : Answers) (other : run.activeSlotId ≠ some slotId) (idx : Nat) :
    Edits run (run.removeActiveFileSlot answers slotId idx) [] ∧
      (run.removeActiveFileSlot answers slotId idx).queue = run.withoutSlot slotId := by
  have marker : (run.queue.removeSlot slotId).activeSlotId = run.queue.activeSlotId := ExecutionSequence.removeSlot_active slotId
  unfold removeActiveFileSlot withoutSlot
  rw [if_pos other, if_neg other]
  refine ⟨⟨?_, rfl, (append_nil _).symm, fun wellFormed => wellFormed.removeSlot slotId,
    fun _ plain slot member => plain slot (plain_removeSlot member)⟩, rfl⟩
  simp only [face, activeSlotId, syncStatusPosition, rederiveCurrentIdx, marker]

theorem appendSlots_slots {queue longer : ExecutionSequence} {items : List ExecSlot}
    (appended : appendSlots queue items = some longer) :
    longer.slots = queue.slots ++ items ∧ longer.activeSlotId = queue.activeSlotId := by
  induction items generalizing queue with
  | nil =>
    cases appended
    exact ⟨(append_nil _).symm, rfl⟩
  | cons slot items ih =>
    rw [appendSlots, Option.bind_eq_some_iff] at appended
    obtain ⟨first, appendedFirst, rest⟩ := appended
    obtain ⟨slots, marker⟩ := ih rest
    unfold ExecutionSequence.appendWithId at appendedFirst
    split at appendedFirst
    · cases appendedFirst
      exact ⟨slots.trans (by simp), marker⟩
    · cases appendedFirst

theorem appendItemsToQueue_spec {items : List ExecSlot} (fresh : (items.map (·.slotId)).Nodup ∧
      ∀ id ∈ items.map (·.slotId), id ∉ run.queue.slotIds) :
    ∃ next, run.appendItemsToQueue items = some next ∧ next.queue.slots = run.queue.slots ++ items ∧
      next.queue.activeSlotId = run.queue.activeSlotId ∧
      (run.queue.WellFormed → next.queue.WellFormed) ∧
      next = { run with
        queue := next.queue
        status := { run.status with queueLen := next.queue.len } } := by
  obtain ⟨longer, appended⟩ := Option.isSome_iff_exists.mp (appendSlots_isSome.mpr fresh)
  obtain ⟨slots, marker⟩ := appendSlots_slots appended
  refine ⟨{ run with queue := longer, status := { run.status with queueLen := longer.len } }, ?_,
    slots, marker, fun wellFormed => (appendSlots_slotIds wellFormed appended).2, rfl⟩
  rw [appendItemsToQueue, appended]
  rfl

theorem appended_edits {items : List ExecSlot} (slots : next.queue.slots = run.queue.slots ++ items)
    (marker : next.queue.activeSlotId = run.queue.activeSlotId)
    (wellFormed : run.queue.WellFormed → next.queue.WellFormed)
    (plain : run.runLifecycle.isActiveFile = false → ∀ slot ∈ items, slot.item.isAudiobookshelf = false)
    (same : next = { run with
      queue := next.queue
      mpv := next.mpv
      status := { run.status with queueLen := next.queue.len } })
    {commands : List MpvCommand} (mpv : next.mpv = run.mpv ++ commands) :
    Edits run next commands := by
  refine ⟨?_, ?_, mpv, wellFormed, fun playlist before slot member => ?_⟩
  · rw [same]
    simp only [face, activeSlotId, marker]
  · rw [same]
  · rw [slots] at member
    rcases mem_append.mp member with old | new
    · exact before slot old
    · exact plain playlist slot new

section Append

variable {items : List ExecSlot}
  (fresh : (items.map (·.slotId)).Nodup ∧ ∀ id ∈ items.map (·.slotId), id ∉ run.queue.slotIds)
include fresh

theorem cmdAppendQueue_activeFile (activeFile : run.runLifecycle.isActiveFile = true) (answers : Answers) :
    ∃ next, run.cmdAppendQueue answers items = some next ∧ Edits run next [] ∧
      next.queue.slotIds = run.queue.slotIds ++ items.map (·.slotId) := by
  unfold cmdAppendQueue
  split
  · rename_i empty
    rw [isEmpty_iff.mp empty]
    exact ⟨run, rfl, .refl run, (append_nil _).symm⟩
  · obtain ⟨next, appended, slots, marker, wellFormed, same⟩ := appendItemsToQueue_spec fresh
    refine ⟨next, appended, ?_, ?_⟩
    · refine appended_edits slots marker wellFormed (fun playlist => ?_) ?_ ?_
      · rw [activeFile] at playlist
        cases playlist
      · rw [same]
      · rw [same]
        exact (append_nil _).symm
    · rw [ExecutionSequence.slotIds, slots, map_append]
      rfl

theorem cmdAppendQueue_playlist (playlist : run.runLifecycle.isActiveFile = false)
    (plain : items.any (·.item.isAudiobookshelf) = false) (answers : Answers) :
    ∃ next, run.cmdAppendQueue answers items = some next ∧ Edits run next (MpvPlayer.appends (items.map (·.slotId))) ∧
      next.queue.slotIds = run.queue.slotIds ++ items.map (·.slotId) := by
  unfold cmdAppendQueue
  split
  · rename_i empty
    rw [isEmpty_iff.mp empty]
    exact ⟨run, rfl, .refl run, (append_nil _).symm⟩
  · let refreshed := items.map fun slot =>
      { slot with item := refreshResume answers.refreshed slot.item }
    have ids : refreshed.map (·.slotId) = items.map (·.slotId) := by simp [refreshed]
    have kinds : ∀ slot ∈ refreshed, slot.item.isAudiobookshelf = false := by
      intro slot member
      obtain ⟨before, there, rfl⟩ := mem_map.mp member
      rw [refreshResume_isAudiobookshelf]
      simpa using any_eq_false.mp plain before there
    have sources : (refreshed.all fun slot => slot.item.hasMpvUrlSource) = true := by
      rw [all_eq_true]
      intro slot member
      rw [hasMpvUrlSource_eq, kinds slot member]
      rfl
    have loads : (refreshed.map fun slot => MpvCommand.loadfile slot.slotId .appendPlay) =
        MpvPlayer.appends (items.map (·.slotId)) := by
      simp [refreshed, MpvPlayer.appends]
    let told : PlaybackRun := { run with
      mpv := run.mpv ++ MpvPlayer.appends (items.map (·.slotId)) }
    obtain ⟨next, appended, slots, marker, wellFormed, same⟩ :=
      @appendItemsToQueue_spec told refreshed (by rw [ids]; exact fresh)
    rw [if_neg (by simp [playlist]), if_neg (by simp [plain])]
    refine ⟨next, ?_, ?_, ?_⟩
    · unfold appendItemsViaMpv
      dsimp only
      rw [if_pos sources, loads]
      exact appended
    · refine @appended_edits run next refreshed slots marker wellFormed (fun _ => kinds) ?_ _ ?_
      · rw [same]
      · rw [same]
    · rw [ExecutionSequence.slotIds, slots, map_append, ids]
      rfl

theorem promote_loaded {active : ExecSlot} (marked : run.queue.activeSlot = some active)
    {answers : Answers} (prepared : answers.prepareSource = none)
    (loaded : answers.loadfile = none) :
    ∃ next, run.promoteToActiveFile answers items = some next ∧ next.face = run.face ∧ next.runLifecycle.isActiveFile = true ∧
      next.mpv = run.mpv ++ [.playlistClear, .loadfile active.slotId .replace] ∧
      next.queue.slotIds = run.queue.slotIds ++ items.map (·.slotId) := by
  let installed : PlaybackRun := { ((run.command .playlistClear).command
    (.loadfile active.slotId .replace)).acceptReplacement with pendingInitialPlaylistLayout := false }
  obtain ⟨next, appended, slots, marker, -, same⟩ := @appendItemsToQueue_spec installed items fresh
  refine ⟨{ next with runLifecycle := next.runLifecycle.enterActiveFile }, ?_, ?_, rfl, ?_, ?_⟩
  · unfold promoteToActiveFile installActiveProjection
    rw [marked, prepared, loaded]
    dsimp only
    exact congrArg (Option.map _) appended
  · have lifecycle : next.runLifecycle = run.runLifecycle := by rw [same]; rfl
    have item : next.itemLifecycle.stopReport = run.itemLifecycle.stopReport := by rw [same]; rfl
    have reporter : next.reporter = run.reporter := by rw [same]; rfl
    have active : next.status.active = run.status.active := by rw [same]; rfl
    have marker : next.queue.activeSlotId = run.queue.activeSlotId := marker
    simp only [face, activeSlotId, RunLifecycle.enterActiveFile, lifecycle, item, reporter, active, marker]
  · show next.mpv = _
    rw [same]
    exact append_assoc run.mpv [.playlistClear] [.loadfile active.slotId .replace]
  · show next.queue.slotIds = _
    rw [ExecutionSequence.slotIds, slots, map_append]
    rfl

end Append

theorem mpv_endRun (outcome : StopOutcome) : (run.endRun outcome).mpv = run.mpv := by
  unfold endRun
  split <;> rfl

theorem mpv_stopForActiveFileFailure (failedSlot : Option QueueSlotId) (positionTicks : Int) (error : String) :
    (run.stopForActiveFileFailure failedSlot positionTicks error).mpv = run.mpv ++ [.stop, .playlistClear] := by
  have reported : run.reportStopIfUnreported.mpv = run.mpv := by
    unfold reportStopIfUnreported
    split <;> rfl
  unfold stopForActiveFileFailure
  rw [mpv_endRun]
  show run.reportStopIfUnreported.mpv ++ [.stop] ++ [.playlistClear] = _
  rw [reported, append_assoc]
  rfl

theorem promote_refused {active : ExecSlot} (marked : run.queue.activeSlot = some active)
    {answers : Answers} (prepared : answers.prepareSource = none) {error : String}
    (refused : answers.loadfile = some error) (items : List ExecSlot) :
    ∃ next, run.promoteToActiveFile answers items = some next ∧ next.runLifecycle.isActiveFile = run.runLifecycle.isActiveFile ∧
      next.mpv = run.mpv ++ [.playlistClear, .loadfile active.slotId .replace, .stop, .playlistClear] ∧
      next.queue = run.queue := by
  let told : PlaybackRun := { (run.command .playlistClear).command
    (.loadfile active.slotId .replace) with status := { run.status with active := false } }
  have place := place_stopForActiveFileFailure told told.activeSlotId told.lastValidPos
    ("failed to load media: " ++ "service unavailable")
  refine ⟨told.stopForActiveFileFailure told.activeSlotId told.lastValidPos
    ("failed to load media: " ++ "service unavailable"), ?_, ?_, ?_, congrArg Place.queue place⟩
  · unfold promoteToActiveFile installActiveProjection
    rw [marked, prepared, refused]
    rfl
  · have projection := congrArg Place.projection place
    unfold RunLifecycle.isActiveFile
    exact congrArg (fun projection => decide (projection = Projection.activeFile)) projection
  · rw [mpv_stopForActiveFileFailure]
    show run.mpv ++ [.playlistClear] ++ [.loadfile active.slotId .replace] ++ _ = _
    simp only [append_assoc, cons_append, nil_append]

end PlaybackRun

/-! ### The law, and when it holds -/

/-- An edit that does not take the active slot away. -/
def QueueEdit.spares (run : PlaybackRun) : QueueEdit → Bool
  | remove slotId => run.activeSlotId ≠ some slotId
  | _ => true

/-- The edit leaves the playing item alone: the run's active slot and reports, the open Service
    session, and the file mpv plays with its position. Queue and playlist are as before, or both
    have the edit; the active-file projection keeps one file in mpv's. -/
structure LeavesAlone (before after : PlayingRun) (edit : QueueEdit) : Prop where
  run : after.run.face = before.run.face
  session : after.session = before.session
  playing : ∀ file ∈ before.player.playing, after.player.playing = some file
  together :
    ((before.run.runLifecycle.isActiveFile = true ∨
        after.run.queue.slotIds = before.run.queue.slotIds) ∧
      after.player.entries = before.player.entries) ∨
    (after.run.queue.slotIds = edit.applied before.run.queue.slotIds ∧
      (after.run.runLifecycle.isActiveFile = true ∨
        after.player.entries = edit.applied before.player.entries))

instance (before after : PlayingRun) (edit : QueueEdit) :
    Decidable (LeavesAlone before after edit) :=
  decidable_of_iff _ ⟨fun ⟨run, session, playing, together⟩ => ⟨run, session, playing, together⟩,
    fun leaves => And.intro leaves.run
      (And.intro leaves.session (And.intro leaves.playing leaves.together))⟩

namespace PlayingRun

variable (playing : PlayingRun)

/-- What an edit of mpv's own playlist takes: mpv accepts each of its commands, does not play the
    slot that is removed, and plays the file that is reloaded just where its load starts. -/
def TakesEdit (answers : EditAnswers) : QueueEdit → Prop
  | .append items =>
    if items.any (·.item.isAudiobookshelf) then
      ∀ active ∈ playing.run.queue.activeSlot, answers.loadfile = none ∧
        ∀ file ∈ playing.player.playing, file = (active.slotId, answers.startTicks active.item)
    else ∀ k < items.length, k ∉ answers.refused
  | .remove slotId =>
    slotId ∈ playing.run.queue.slotIds →
      0 ∉ answers.refused ∧ ∀ file ∈ playing.player.playing, file.1 ≠ slotId
  | .move slotId toIndex => playing.run.movesTo slotId toIndex = true → 0 ∉ answers.refused
  | .reorder order =>
    isSlotPermutation playing.run.queue.slotIds order = true →
      ∀ k < (reorderMovePlan playing.run.queue.slotIds order).length, k ∉ answers.refused

instance (answers : EditAnswers) (edit : QueueEdit) :
    Decidable (playing.TakesEdit answers edit) := by
  cases edit <;> unfold TakesEdit <;> infer_instance

def Leaves : PlayingInput → Prop
  | .edit answers edit =>
    edit.spares playing.run = true → LeavesAlone playing (playing.edited answers edit) edit
  | _ => True

instance (input : PlayingInput) : Decidable (playing.Leaves input) := by
  cases input <;> unfold Leaves <;> infer_instance

def Takes : PlayingInput → Prop
  | .edit answers edit =>
    edit.spares playing.run = true → playing.run.runLifecycle.isActiveFile = false →
      playing.TakesEdit answers edit
  | _ => True

instance (input : PlayingInput) : Decidable (playing.Takes input) := by
  cases input <;> unfold Takes <;> infer_instance

structure LaidOut : Prop where
  wellFormed : playing.run.queue.WellFormed
  entries : playing.player.entries = playing.run.queue.slotIds
  plain : playing.run.Plain
  session : playing.session = none

def Brings : QueueEdit → Prop
  | .append items =>
    (items.map (·.slotId)).Nodup ∧ ∀ id ∈ items.map (·.slotId), id ∉ playing.run.queue.slotIds
  | _ => True

instance (edit : QueueEdit) : Decidable (playing.Brings edit) := by
  cases edit <;> unfold Brings <;> infer_instance

variable {playing}

variable {answers : EditAnswers} {next : PlaybackRun} {edit : QueueEdit}

theorem edited_eq {cancels : Bool}
    (handled : playing.run.handleCommand (answers.preparing (playing.run.preparedItem edit))
      edit.command = some (cancels, next)) :
    playing.edited answers edit =
      { run := next
        session :=
          if playing.run.closesSource edit then answers.opens (playing.run.preparedItem edit)
          else playing.session
        player := playing.tell answers next } := by
  unfold edited
  dsimp only
  rw [handled]

/-- mpv after the `commands` of a step to `next`. -/
def told (playing : PlayingRun) (answers : EditAnswers) (next : PlaybackRun)
    (commands : List MpvCommand) : MpvPlayer :=
  MpvPlayer.carryOut (answers.startOf playing.run next) answers.refuses 0 playing.player commands

theorem tell_eq {commands : List MpvCommand} (mpv : next.mpv = playing.run.mpv ++ commands) :
    playing.tell answers next = playing.told answers next commands := by
  unfold tell told
  rw [mpv, drop_left]

theorem leaves_of_untold {cancels : Bool}
    (activeFile : playing.run.runLifecycle.isActiveFile = true)
    (handled : playing.run.handleCommand (answers.preparing (playing.run.preparedItem edit))
      edit.command = some (cancels, next))
    (edits : PlaybackRun.Edits playing.run next [])
    (keeps : playing.run.closesSource edit = false) :
    LeavesAlone playing (playing.edited answers edit) edit := by
  have player : playing.tell answers next = playing.player := tell_eq edits.mpv
  rw [edited_eq handled, keeps, player]
  exact ⟨edits.face, rfl, fun file plays => plays, Or.inl ⟨Or.inl activeFile, rfl⟩⟩

theorem activeFile_leaves (activeFile : playing.run.runLifecycle.isActiveFile = true)
    (brings : playing.Brings edit) (spares : edit.spares playing.run = true) :
    LeavesAlone playing (playing.edited answers edit) edit := by
  cases edit with
  | append items =>
    have promotes : playing.run.promotes items = false := by
      simp [PlaybackRun.promotes, activeFile]
    obtain ⟨next, appended, edits, -⟩ := PlaybackRun.cmdAppendQueue_activeFile brings activeFile
      (answers.preparing (playing.run.preparedItem (.append items)))
    have handled : playing.run.handleCommand (answers.preparing (playing.run.preparedItem (.append items)))
        (QueueEdit.append items).command = some (false, next) := by
      show Option.map _ _ = _
      rw [appended]
      rfl
    exact leaves_of_untold activeFile handled edits promotes
  | remove slotId =>
    have other : playing.run.activeSlotId ≠ some slotId := by
      simpa [QueueEdit.spares] using spares
    have keeps : playing.run.closesSource (.remove slotId) = false := by
      simp [PlaybackRun.closesSource, other]
    have edits : PlaybackRun.Edits playing.run (playing.run.cmdQueueRemove
        (answers.preparing (playing.run.preparedItem (.remove slotId))) slotId) [] := by
      unfold PlaybackRun.cmdQueueRemove
      cases playing.run.queue.slotIndex slotId with
      | none => exact .refl _
      | some idx =>
        dsimp only
        rw [if_pos activeFile]
        exact (PlaybackRun.removeActiveFileSlot_edits _ other idx).1
    exact leaves_of_untold activeFile rfl edits keeps
  | move slotId toIndex =>
    exact leaves_of_untold activeFile rfl (PlaybackRun.cmdQueueMove_activeFile activeFile slotId toIndex) rfl
  | reorder order =>
    exact leaves_of_untold activeFile rfl (PlaybackRun.cmdQueueReorder_activeFile activeFile order) rfl

theorem leaves_iff {after : PlayingRun} (laidOut : playing.LaidOut) (playlist : playing.run.runLifecycle.isActiveFile = false)
    (face : after.run.face = playing.run.face) (stays : after.run.runLifecycle.isActiveFile = false)
    (session : after.session = playing.session)
    (queue : after.run.queue.slotIds = edit.applied playing.run.queue.slotIds) :
    LeavesAlone playing after edit ↔ after.player.entries = edit.applied playing.run.queue.slotIds ∧
        ∀ file ∈ playing.player.playing, after.player.playing = some file := by
  constructor
  · intro leaves
    refine ⟨?_, leaves.playing⟩
    rcases leaves.together with ⟨before, entries⟩ | ⟨-, projected | entries⟩
    · rcases before with projected | same
      · rw [playlist] at projected
        cases projected
      · rw [entries, laidOut.entries, ← queue, same]
    · rw [stays] at projected
      cases projected
    · rw [entries, laidOut.entries]
  · rintro ⟨entries, plays⟩
    refine ⟨face, session, plays, Or.inr ⟨queue, Or.inr ?_⟩⟩
    rw [entries, laidOut.entries]

theorem playlist_of_edits {commands : List MpvCommand} (playlist : playing.run.runLifecycle.isActiveFile = false)
    (edits : PlaybackRun.Edits playing.run next commands) :
    next.runLifecycle.isActiveFile = false :=
  (PlaybackRun.isActiveFile_of_edits edits).trans playlist

/-- An edit that tells mpv `commands` leaves the playing item alone if mpv makes of them what the
    run makes of its queue, and plays on. -/
theorem edited_leaves_iff {cancels : Bool} {commands : List MpvCommand} (laidOut : playing.LaidOut)
    (playlist : playing.run.runLifecycle.isActiveFile = false)
    (handled : playing.run.handleCommand (answers.preparing (playing.run.preparedItem edit))
      edit.command = some (cancels, next))
    (edits : PlaybackRun.Edits playing.run next commands)
    (keeps : playing.run.closesSource edit = false)
    (queue : next.queue.slotIds = edit.applied playing.run.queue.slotIds) :
    LeavesAlone playing (playing.edited answers edit) edit ↔
      (playing.told answers next commands).entries = edit.applied playing.run.queue.slotIds ∧
        ∀ file ∈ playing.player.playing,
          (playing.told answers next commands).playing = some file := by
  have session : (playing.edited answers edit).session = playing.session := by
    rw [edited_eq handled, keeps]
    rfl
  rw [leaves_iff laidOut playlist (by rw [edited_eq handled]; exact edits.face)
    (by rw [edited_eq handled]; exact playlist_of_edits playlist edits) session
    (by rw [edited_eq handled]; exact queue), edited_eq handled, tell_eq edits.mpv]

theorem append_leaves_iff {items : List ExecSlot} (laidOut : playing.LaidOut)
    (playlist : playing.run.runLifecycle.isActiveFile = false)
    (brings : playing.Brings (.append items))
    (plain : items.any (·.item.isAudiobookshelf) = false) :
    LeavesAlone playing (playing.edited answers (.append items)) (.append items) ↔ ∀ k < items.length, k ∉ answers.refused := by
  have promotes : playing.run.promotes items = false := by
    simp [PlaybackRun.promotes, plain]
  obtain ⟨next, appended, edits, queue⟩ := PlaybackRun.cmdAppendQueue_playlist brings playlist plain
    (answers.preparing (playing.run.preparedItem (.append items)))
  have handled : playing.run.handleCommand (answers.preparing (playing.run.preparedItem (.append items)))
      (QueueEdit.append items).command = some (false, next) := by
    show Option.map _ _ = _
    rw [appended]
    rfl
  have entries := @MpvPlayer.entries_appends playing.player (answers.startOf playing.run next) answers.refuses 0 answers.refused
    (items.map (·.slotId)) (fun n slotId => rfl)
  rw [laidOut.entries, length_map] at entries
  rw [edited_leaves_iff laidOut playlist handled edits promotes queue]
  refine (and_iff_left fun file plays => ?_).trans ?_
  · exact MpvPlayer.playing_appends plays _
  · simp only [Nat.zero_add] at entries
    exact entries

variable {slotId : QueueSlotId}

theorem LaidOut.move_idle {toIndex : Nat} (laidOut : playing.LaidOut) (idle : playing.run.movesTo slotId toIndex = false) :
    (QueueEdit.move slotId toIndex).applied playing.run.queue.slotIds =
      playing.run.queue.slotIds := by
  unfold QueueEdit.applied
  dsimp only
  split
  · rename_i inside
    by_cases member : slotId ∈ playing.run.queue.slotIds
    · by_cases there : playing.run.queue.slotIds.idxOf slotId = toIndex
      · rw [← there, moveTo_idxOf laidOut.wellFormed.distinct member]
      · rw [PlaybackRun.movesTo_iff.mpr ⟨member, inside, there⟩] at idle
        cases idle
    · exact moveTo_of_notMem member toIndex
  · rfl

theorem move_leaves_iff {toIndex : Nat} (laidOut : playing.LaidOut) (playlist : playing.run.runLifecycle.isActiveFile = false) :
    LeavesAlone playing (playing.edited answers (.move slotId toIndex)) (.move slotId toIndex) ↔
      (playing.run.movesTo slotId toIndex = true → 0 ∉ answers.refused) := by
  cases moves : playing.run.movesTo slotId toIndex with
  | false =>
    have idle := laidOut.move_idle moves
    have handled : playing.run.handleCommand (answers.preparing (playing.run.preparedItem (.move slotId toIndex)))
        (QueueEdit.move slotId toIndex).command = some (false, playing.run) :=
      congrArg (fun run => some (false, run)) (PlaybackRun.cmdQueueMove_idle moves)
    rw [edited_leaves_iff laidOut playlist handled (.refl playing.run) rfl idle.symm, idle]
    refine ⟨fun _ useful => absurd useful Bool.false_ne_true, fun _ => ?_⟩
    exact ⟨laidOut.entries, fun file plays => plays⟩
  | true =>
    obtain ⟨member, inside, elsewhere⟩ := PlaybackRun.movesTo_iff.mp moves
    obtain ⟨edits, queue⟩ := PlaybackRun.cmdQueueMove_spec moves
    rw [playlist, if_neg Bool.false_ne_true] at edits
    have applied : (QueueEdit.move slotId toIndex).applied playing.run.queue.slotIds =
        playing.run.queue.slotIds.moveTo slotId toIndex := if_pos inside
    have plays : ∀ next, (playing.told answers next [moveCommand playing.run.queue.slotIds slotId toIndex]).playing =
        playing.player.playing := fun next =>
      MpvPlayer.playing_moves fun command told => ⟨_, _, mem_singleton.mp told⟩
    rw [edited_leaves_iff laidOut playlist rfl edits rfl (queue.trans applied.symm), plays, applied]
    have carried : ∀ starts, (playing.player.apply starts (moveCommand playing.run.queue.slotIds slotId toIndex)).entries =
        playing.run.queue.slotIds.moveTo slotId toIndex := by
      intro starts
      rw [← laidOut.entries] at member inside ⊢
      exact MpvPlayer.entries_move member inside
    rw [eq_self, true_implies]
    refine (and_iff_left fun file plays => plays).trans ?_
    show (if answers.refused.contains 0 then playing.player else _).entries = _ ↔ _
    by_cases refused : 0 ∈ answers.refused
    · rw [if_pos (by simpa using refused), laidOut.entries]
      refine ⟨fun same => absurd ?_ elsewhere, fun accepted => absurd refused accepted⟩
      have there := idxOf_moveTo laidOut.wellFormed.distinct member member inside
      rw [if_pos rfl, ← same] at there
      exact there
    · rw [if_neg (by simpa using refused), carried]
      exact ⟨fun _ => refused, fun _ => rfl⟩

theorem reorder_leaves_iff {order : List QueueSlotId} (laidOut : playing.LaidOut)
    (playlist : playing.run.runLifecycle.isActiveFile = false) :
    LeavesAlone playing (playing.edited answers (.reorder order)) (.reorder order) ↔
      (isSlotPermutation playing.run.queue.slotIds order = true →
        ∀ k < (reorderMovePlan playing.run.queue.slotIds order).length, k ∉ answers.refused) := by
  cases permutation : isSlotPermutation playing.run.queue.slotIds order with
  | false =>
    have idle : (QueueEdit.reorder order).applied playing.run.queue.slotIds =
        playing.run.queue.slotIds := by
      simp [QueueEdit.applied, permutation]
    have handled : playing.run.handleCommand (answers.preparing (playing.run.preparedItem (.reorder order)))
        (QueueEdit.reorder order).command = some (false, playing.run) := by
      show some (false, playing.run.cmdQueueReorder order) = _
      unfold PlaybackRun.cmdQueueReorder
      rw [permutation]
      rfl
    rw [edited_leaves_iff laidOut playlist handled (.refl playing.run) rfl idle.symm, idle]
    refine ⟨fun _ useful => absurd useful Bool.false_ne_true, fun _ => ?_⟩
    exact ⟨laidOut.entries, fun file plays => plays⟩
  | true =>
    obtain ⟨edits, queue⟩ := PlaybackRun.cmdQueueReorder_spec playlist laidOut.wellFormed permutation
    have applied : (QueueEdit.reorder order).applied playing.run.queue.slotIds = order := if_pos permutation
    have entries := @entries_reorder [] playing.run.queue.slotIds order playing.player
      (answers.startOf playing.run (playing.run.cmdQueueReorder order)) answers.refuses 0
      answers.refused laidOut.wellFormed.distinct
      (PlaybackQueue.isSlotPermutation_iff.mp permutation) laidOut.entries (fun _ _ _ => rfl)
    have plays : ∀ next plan, (playing.told answers next
        (moveCommands playing.run.queue.slotIds plan)).playing = playing.player.playing := by
      intro next plan
      apply MpvPlayer.playing_moves
      generalize playing.run.queue.slotIds = ids
      induction plan generalizing ids with
      | nil => exact fun command told => absurd told not_mem_nil
      | cons move plan ih =>
        intro command told
        rcases mem_cons.mp told with rfl | told
        · exact ⟨_, _, rfl⟩
        · exact ih _ command told
    rw [edited_leaves_iff laidOut playlist rfl edits rfl (queue.trans applied.symm), plays, applied]
    rw [eq_self, true_implies]
    refine (and_iff_left fun file plays => plays).trans ?_
    simp only [Nat.zero_add] at entries
    exact entries

theorem playing_remove {player : MpvPlayer} {starts : QueueSlotId → Int}
    (distinct : player.entries.Nodup) (member : slotId ∈ player.entries) :
    (∀ file ∈ player.playing, (player.apply starts (.playlistRemove (player.entries.idxOf slotId))).playing = some file) ↔
      ∀ file ∈ player.playing, file.1 ≠ slotId := by
  have bound := idxOf_lt_length_of_mem member
  unfold MpvPlayer.playing MpvPlayer.apply
  dsimp only
  rw [if_pos bound]
  cases current : player.current with
  | none => simp
  | some place =>
    cases there : player.entries[place]? with
    | none => simp [there]
    | some entry =>
      have inside := (List.getElem?_eq_some_iff.mp there).1
      by_cases own : place = player.entries.idxOf slotId
      · have same : entry = slotId := by
          rw [own, List.getElem?_idxOf member] at there
          exact (Option.some.inj there).symm
        have gone : slotId ∉ player.entries.eraseIdx (player.entries.idxOf slotId) := by
          rw [eraseIdx_idxOf_eq_erase]
          exact distinct.not_mem_erase
        rw [if_pos (by rw [own])]
        simp only [Option.bind_some, there, Option.map_some, Option.mem_def, Option.some.injEq,
          forall_eq', same, ne_eq, not_true_eq_false, iff_false]
        intro plays
        unfold MpvPlayer.loads at plays
        dsimp only at plays
        split at plays
        · rw [Option.bind_some, Option.map_eq_some_iff] at plays
          obtain ⟨other, found, file⟩ := plays
          have same : other = slotId := congrArg Prod.fst file
          rw [same] at found
          exact gone (mem_of_getElem? found)
        · cases plays
      · have other : entry ≠ slotId := by
          rintro rfl
          exact own (idxOf_eq_of_getElem? distinct there).symm
        rw [if_neg (by simpa using own)]
        simp only [Option.bind_some, there, Option.map_some, Option.mem_def, Option.some.injEq,
          forall_eq', ne_eq, other, not_false_eq_true, iff_true]
        have kept : (player.entries.eraseIdx (player.entries.idxOf slotId))[
            if player.entries.idxOf slotId < place then place - 1 else place]? = some entry := by
          rw [List.getElem?_eraseIdx]
          split
          · rw [if_neg (by omega), Nat.sub_add_cancel (by omega)]
            exact there
          · rw [if_pos (by omega)]
            exact there
        rw [kept]
        rfl

theorem remove_leaves_iff (laidOut : playing.LaidOut) (playlist : playing.run.runLifecycle.isActiveFile = false)
    (other : playing.run.activeSlotId ≠ some slotId) :
    LeavesAlone playing (playing.edited answers (.remove slotId)) (.remove slotId) ↔ (slotId ∈ playing.run.queue.slotIds →
        0 ∉ answers.refused ∧ ∀ file ∈ playing.player.playing, file.1 ≠ slotId) := by
  have keeps : playing.run.closesSource (.remove slotId) = false := by
    simp [PlaybackRun.closesSource, other]
  have applied : (QueueEdit.remove slotId).applied playing.run.queue.slotIds = playing.run.queue.slotIds.erase slotId := rfl
  by_cases member : slotId ∈ playing.run.queue.slotIds
  · have found := ExecutionSequence.slotIndex_of_mem member
    have edits := PlaybackRun.removePlaylistSlot_edits other (playing.run.queue.slotIds.idxOf slotId)
    have queue : (playing.run.removePlaylistSlot slotId (playing.run.queue.slotIds.idxOf slotId)).queue.slotIds =
        playing.run.queue.slotIds.erase slotId := by
      rw [(PlaybackRun.removePlaylistSlot_spec _ _ _).1, PlaybackRun.withoutSlot_slotIds]
    have handled : playing.run.handleCommand (answers.preparing (playing.run.preparedItem (.remove slotId)))
        (QueueEdit.remove slotId).command = some (false, playing.run.removePlaylistSlot slotId
          (playing.run.queue.slotIds.idxOf slotId)) := by
      show some (false, playing.run.cmdQueueRemove _ slotId) = _
      unfold PlaybackRun.cmdQueueRemove
      rw [found]
      dsimp only
      rw [playlist, if_neg Bool.false_ne_true]
    rw [edited_leaves_iff laidOut playlist handled edits keeps queue, applied]
    have erased : playing.run.queue.slotIds ≠ playing.run.queue.slotIds.erase slotId := by
      intro same
      have shorter := length_erase_add_one member
      rw [← same] at shorter
      omega
    have told : playing.told answers (playing.run.removePlaylistSlot slotId (playing.run.queue.slotIds.idxOf slotId))
        [.playlistRemove (playing.run.queue.slotIds.idxOf slotId)] =
        if answers.refused.contains 0 then playing.player
        else playing.player.apply (answers.startOf playing.run (playing.run.removePlaylistSlot slotId
          (playing.run.queue.slotIds.idxOf slotId)))
          (.playlistRemove (playing.run.queue.slotIds.idxOf slotId)) := rfl
    rw [told]
    by_cases refused : 0 ∈ answers.refused
    · rw [if_pos (by simpa using refused), laidOut.entries]
      refine ⟨fun both => absurd both.1 erased, fun takes => absurd refused (takes member).1⟩
    · rw [if_neg (by simpa using refused)]
      have distinct : playing.player.entries.Nodup := laidOut.entries ▸ laidOut.wellFormed.distinct
      have there : slotId ∈ playing.player.entries := laidOut.entries ▸ member
      have inside := idxOf_lt_length_of_mem there
      have files := @playing_remove slotId playing.player (answers.startOf playing.run
        (playing.run.removePlaylistSlot slotId (playing.run.queue.slotIds.idxOf slotId)))
        distinct there
      rw [laidOut.entries] at files inside
      have carried : (playing.player.apply (answers.startOf playing.run
          (playing.run.removePlaylistSlot slotId (playing.run.queue.slotIds.idxOf slotId)))
          (.playlistRemove (playing.run.queue.slotIds.idxOf slotId))).entries =
          playing.run.queue.slotIds.erase slotId := by
        rw [← eraseIdx_idxOf_eq_erase]
        unfold MpvPlayer.apply
        dsimp only
        rw [laidOut.entries, if_pos inside]
        split <;> rfl
      rw [files]
      exact ⟨fun both _ => ⟨refused, both.2⟩, fun takes => ⟨carried, (takes member).2⟩⟩
  · have handled : playing.run.handleCommand (answers.preparing (playing.run.preparedItem (.remove slotId)))
        (QueueEdit.remove slotId).command = some (false, playing.run) := by
      show some (false, playing.run.cmdQueueRemove _ slotId) = _
      unfold PlaybackRun.cmdQueueRemove
      rw [ExecutionSequence.slotIndex_none.mpr member]
    have idle := erase_of_not_mem member
    rw [edited_leaves_iff laidOut playlist handled (.refl playing.run) keeps (idle.symm.trans applied.symm), applied, idle]
    refine ⟨fun _ useful => absurd useful member, fun _ => ?_⟩
    exact ⟨laidOut.entries, fun file plays => plays⟩

theorem activeSlot_slot {sequence : ExecutionSequence} {active : ExecSlot} (marked : sequence.activeSlot = some active) :
    sequence.activeSlotId = some active.slotId ∧ sequence.slot active.slotId = some active := by
  unfold ExecutionSequence.activeSlot at marked
  rw [Option.bind_eq_some_iff] at marked
  obtain ⟨id, marker, found⟩ := marked
  have same : active.slotId = id := (Keyed.get_key found).1
  rw [same]
  exact ⟨marker, found⟩

section Promote

variable {answers : EditAnswers} {items : List ExecSlot}
  (playlist : playing.run.runLifecycle.isActiveFile = false)
  (service : items.any (·.item.isAudiobookshelf) = true)
include playlist service

theorem append_promotes (given : Answers) : playing.run.handleCommand given (QueueEdit.append items).command =
      (playing.run.promoteToActiveFile given items).map (false, ·) := by
  have filled : items.isEmpty = false := by
    cases items with
    | nil => cases service
    | cons => rfl
  show Option.map _ (playing.run.cmdAppendQueue given items) = _
  unfold PlaybackRun.cmdAppendQueue
  rw [filled, if_neg Bool.false_ne_true, playlist, if_neg Bool.false_ne_true, if_pos service]

theorem promotes_unmarked (marked : playing.run.queue.activeSlot = none) :
    playing.edited answers (.append items) = playing := by
  have promotes : playing.run.promotes items = false := by
    simp [PlaybackRun.promotes, marked]
  have handled : playing.run.handleCommand
      (answers.preparing (playing.run.preparedItem (.append items)))
      (QueueEdit.append items).command = some (false, playing.run) := by
    rw [append_promotes playlist service]
    unfold PlaybackRun.promoteToActiveFile
    rw [marked]
    rfl
  have keeps : playing.run.closesSource (.append items) = false := promotes
  rw [edited_eq handled, keeps, tell_eq (append_nil _).symm]
  rfl

/-- The source of a playlist run's active slot is prepared without a Service. -/
theorem promotes_prepared (laidOut : playing.LaidOut) {active : ExecSlot} (marked : playing.run.queue.activeSlot = some active) :
    playing.run.closesSource (.append items) = true ∧ playing.run.preparedItem (.append items) = some active.item ∧
      (answers.preparing (some active.item)).prepareSource = none ∧
      answers.opens (some active.item) = none := by
  obtain ⟨marker, found⟩ := activeSlot_slot marked
  have promotes : playing.run.promotes items = true := by
    simp [PlaybackRun.promotes, marked, playlist, service]
  have kind : active.item.isAudiobookshelf = false := laidOut.plain active (Keyed.get_key found).2
  refine ⟨promotes, ?_, ?_, ?_⟩
  · simp [PlaybackRun.preparedItem, promotes, PlaybackRun.activeItem, marked]
  · simp [EditAnswers.preparing, kind]
  · simp [EditAnswers.opens, kind]

/-- A promotion mpv takes loads the active slot's file anew, where the source starts. -/
theorem promotes_loaded (laidOut : playing.LaidOut) (brings : playing.Brings (.append items))
    {active : ExecSlot} (marked : playing.run.queue.activeSlot = some active)
    (accepted : answers.loadfile = none) :
    (playing.edited answers (.append items)).run.face = playing.run.face ∧
      (playing.edited answers (.append items)).run.runLifecycle.isActiveFile = true ∧
      (playing.edited answers (.append items)).run.queue.slotIds =
        playing.run.queue.slotIds ++ items.map (·.slotId) ∧
      (playing.edited answers (.append items)).session = none ∧
      (playing.edited answers (.append items)).player.playing =
        some (active.slotId, answers.startTicks active.item) := by
  obtain ⟨closes, item, prepared, opened⟩ :=
    @promotes_prepared playing answers items playlist service laidOut active marked
  obtain ⟨next, promoted, face, activeFile, mpv, queue⟩ :=
    @PlaybackRun.promote_loaded playing.run items brings active marked
      (answers.preparing (some active.item)) prepared accepted
  have handled : playing.run.handleCommand
      (answers.preparing (playing.run.preparedItem (.append items)))
      (QueueEdit.append items).command = some (false, next) := by
    rw [item, append_promotes playlist service, promoted]
    rfl
  have start : answers.startOf playing.run next active.slotId = answers.startTicks active.item := by
    simp [EditAnswers.startOf, (activeSlot_slot marked).2]
  rw [edited_eq handled, item, closes, opened]
  refine ⟨face, activeFile, queue, rfl, ?_⟩
  show (playing.tell answers next).playing = _
  rw [tell_eq mpv, ← start]
  unfold told
  simp [MpvPlayer.carryOut, EditAnswers.refuses, accepted, MpvPlayer.apply, MpvPlayer.loads,
    MpvPlayer.playing]

theorem promotes_refused (laidOut : playing.LaidOut) {active : ExecSlot}
    (marked : playing.run.queue.activeSlot = some active) {error : String}
    (refused : answers.loadfile = some error) :
    (playing.edited answers (.append items)).run.queue = playing.run.queue ∧
      (playing.edited answers (.append items)).player.entries = [] := by
  obtain ⟨-, item, prepared, -⟩ :=
    @promotes_prepared playing answers items playlist service laidOut active marked
  obtain ⟨next, promoted, -, mpv, queue⟩ :=
    @PlaybackRun.promote_refused playing.run active marked
      (answers.preparing (some active.item)) prepared error refused items
  have handled : playing.run.handleCommand
      (answers.preparing (playing.run.preparedItem (.append items)))
      (QueueEdit.append items).command = some (false, next) := by
    rw [item, append_promotes playlist service, promoted]
    rfl
  rw [edited_eq handled]
  refine ⟨queue, ?_⟩
  show (playing.tell answers next).entries = _
  rw [tell_eq mpv]
  unfold told
  simp [MpvPlayer.carryOut, EditAnswers.refuses, MpvPlayer.apply]

theorem promote_leaves_iff (laidOut : playing.LaidOut) (brings : playing.Brings (.append items)) :
    LeavesAlone playing (playing.edited answers (.append items)) (.append items) ↔
      ∀ active ∈ playing.run.queue.activeSlot, answers.loadfile = none ∧
        ∀ file ∈ playing.player.playing, file = (active.slotId, answers.startTicks active.item) := by
  cases marked : playing.run.queue.activeSlot with
  | none =>
    refine ⟨fun _ active absent => (nomatch absent), fun _ => ?_⟩
    rw [promotes_unmarked playlist service marked]
    exact ⟨rfl, rfl, fun file plays => plays, Or.inl ⟨Or.inr rfl, rfl⟩⟩
  | some active =>
    cases refused : answers.loadfile with
    | none =>
      obtain ⟨face, activeFile, queue, session, plays⟩ := promotes_loaded playlist service laidOut brings marked refused
      constructor
      · intro leaves other same
        cases same
        refine ⟨rfl, fun file there => ?_⟩
        have kept := leaves.playing file there
        rw [plays] at kept
        exact (Option.some.inj kept).symm
      · intro takes
        refine ⟨face, session.trans laidOut.session.symm, fun file there => ?_, Or.inr ⟨queue, Or.inl activeFile⟩⟩
        rw [(takes active rfl).2 file there]
        exact plays
    | some error =>
      obtain ⟨queue, emptied⟩ := promotes_refused playlist service laidOut marked refused
      refine ⟨fun leaves => ?_, fun takes => nomatch (takes active rfl).1⟩
      rcases leaves.together with ⟨-, entries⟩ | ⟨lengthened, -⟩
      · have there : active.slotId ∈ playing.player.entries := by
          rw [laidOut.entries]
          exact laidOut.wellFormed.active _ (activeSlot_slot marked).1
        rw [← entries, emptied] at there
        cases there
      · rw [queue] at lengthened
        have nothing : items.map (·.slotId) = [] := self_eq_append_right.mp lengthened
        rw [map_eq_nil_iff.mp nothing] at service
        cases service

end Promote

theorem leaves_iff_takes {input : PlayingInput} (inv : playing.run.runLifecycle.isActiveFile = false → playing.LaidOut)
    (brings : ∀ answers edit, input = .edit answers edit → playing.Brings edit) :
    playing.Leaves input ↔ playing.Takes input := by
  cases input with
  | other | plays => exact Iff.rfl
  | edit answers edit =>
    have brings := brings answers edit rfl
    refine imp_congr_right fun spares => ?_
    cases projected : playing.run.runLifecycle.isActiveFile with
    | true =>
      refine ⟨fun _ playlist => (nomatch playlist), fun _ => ?_⟩
      exact activeFile_leaves projected brings spares
    | false =>
      have laidOut := inv projected
      rw [eq_self, true_implies]
      cases edit with
      | append items =>
        unfold TakesEdit
        dsimp only
        split
        · rename_i service
          exact promote_leaves_iff projected service laidOut brings
        · rename_i plain
          exact append_leaves_iff laidOut projected brings (by simpa using plain)
      | remove slotId =>
        exact remove_leaves_iff laidOut projected (by simpa [QueueEdit.spares] using spares)
      | move slotId toIndex => exact move_leaves_iff laidOut projected
      | reorder order => exact reorder_leaves_iff laidOut projected

end PlayingRun

end Mbv.Player
