import Mathlib.Logic.Relation
import Mbv.Player.Run.Effects

namespace Mbv.Player

open Mbv.Queue List

def PlayerCommand.accepts : PlayerCommand → Bool
  | loadNew _ => true
  | submitQueue items _ => !items.isEmpty
  | _ => false

namespace PlaybackRun

variable (run : PlaybackRun)

def replaces (answers : Answers) (items : List ExecSlot) : Bool :=
  !items.isEmpty &&
    (run.runLifecycle.isActiveFile || items.any (fun slot => slot.item.isAudiobookshelf) ||
      items.all fun slot => (refreshResume answers.refreshed slot.item).hasMpvUrlSource)

def reloads (slotId : QueueSlotId) : Bool :=
  run.runLifecycle.isActiveFile && (run.queue.slotIndex slotId).isSome

/-- The commands of one replacement: a load in place of the playlist, the teardown of a parked run,
    with or without a load that failed first, or a playlist built after a stop. -/
inductive DisplacingCommands (answers : Answers) : (builds : Bool) → List MpvCommand → Prop where
  | install (slotId : QueueSlotId) (loads : answers.loadfile.isNone = true) :
      DisplacingCommands answers false [.playlistClear, .loadfile slotId .replace]
  | park : DisplacingCommands answers false [.stop, .playlistClear]
  | installFails (slotId : QueueSlotId) (fails : answers.loadfile.isNone = false) :
      DisplacingCommands answers false
        [.playlistClear, .loadfile slotId .replace, .stop, .playlistClear]
  | playlist (loads : List MpvCommand)
      (appends : ∀ load ∈ loads, ∃ slotId mode, load = .loadfile slotId mode ∧ mode ≠ .replace) :
      DisplacingCommands answers true (.stop :: loads)

/-- What a command acts on: an accepted submission's identity is the run's, and reopens it. -/
def acceptedView (command : PlayerCommand) : RunView :=
  { run.view with
    identity := command.identityDuring run
    ended := if command.accepts then none else run.runLifecycle.ended }

end PlaybackRun

namespace RunView

variable (view : RunView)

/-- The command puts a file in place of what mpv has, or parks the run. -/
def displaces (answers : Answers) : PlayerCommand → Bool
  | .jumpTo slotId _ _ _ => view.projection = .activeFile && (view.queue.slotIndex slotId).isSome
  | .submitQueue items _ =>
    !items.isEmpty &&
      (view.projection = .activeFile || items.any (fun slot => slot.item.isAudiobookshelf) ||
        items.all fun slot => (refreshResume answers.refreshed slot.item).hasMpvUrlSource)
  | .loadNew _ => true
  | _ => false

def displace (added : List MpvCommand) : RunView :=
  { view with loadState := .drainingReplacedFile, mpv := view.mpv ++ added, nearEnd := false }

def startOn (queue : ExecutionSequence) (idx : Nat) (projection : Projection)
    (added : List MpvCommand) : RunView :=
  { view.displace added with
    queue := queue
    currentIdx := idx
    projection := projection
    quitAt := none }

def withoutSlot (slotId : QueueSlotId) : ExecutionSequence :=
  if view.queue.activeSlotId = some slotId then view.queue.removeActiveSlotConfirmed slotId
  else view.queue.removeSlot slotId

/-- One entry of the queue moves, and its entry of mpv's playlist with it. -/
inductive Shifts (view : RunView) : RunView → Prop
  | moves {slotId : QueueSlotId} {source target : Nat}
    (found : view.queue.slotIndex slotId = some source) (inside : target < view.queue.len) :
    Shifts view
      { view with
        queue := (view.queue.moveSlot slotId target).2
        currentIdx := shiftIndexForMove view.currentIdx source target
        mpv := view.mpv ++
          if view.projection = .activeFile then []
          else [.playlistMove (playlistMoveArgs source target).1 (playlistMoveArgs source target).2] }

/-- All that a command does to the view it acts on. -/
inductive Obeys (answers : Answers) (view : RunView) : PlayerCommand → RunView → Prop
  | keeps {command : PlayerCommand} (told : List PlayerEvent)
    (plain : ∀ event ∈ told, event.Plain view.identity)
    (spares : view.displaces answers command = false) :
    Obeys answers view command (view.tell told)
  | jumps {slotId : QueueSlotId} {requestId : PlaybackRequestId} {generation : PlaybackGeneration}
    {resumeTicks : Option Int} (idx : Nat)
    (transition : Option (PlaybackRequestId × PlaybackGeneration))
    (displaces : view.displaces answers (.jumpTo slotId requestId generation resumeTicks) = true)
    (loads : answers.loadfile.isNone = true) :
    Obeys answers view (.jumpTo slotId requestId generation resumeTicks)
      (((view.load .drainingReplacedFile slotId).activate idx slotId).tell
        [.trackChanged slotId transition])
  | jumpFails {slotId : QueueSlotId} {requestId : PlaybackRequestId}
    {generation : PlaybackGeneration} {resumeTicks : Option Int} {added : List MpvCommand}
    (outcome : StopOutcome)
    (displaces : view.displaces answers (.jumpTo slotId requestId generation resumeTicks) = true)
    (displacing : PlaybackRun.DisplacingCommands answers false added) :
    Obeys answers view (.jumpTo slotId requestId generation resumeTicks)
      ((view.displace added).stop outcome)
  | appends {items slots : List ExecSlot} {longer : ExecutionSequence}
    (named : slots.map (·.slotId) = items.map (·.slotId))
    (built : PlaybackRun.appendSlots view.queue slots = some longer) :
    Obeys answers view (.queueAppend items)
      { view with
        queue := longer
        mpv := view.mpv ++
          if view.projection = .activeFile then []
          else slots.map fun slot => .loadfile slot.slotId .appendPlay }
  /-- A provider's item cannot be a playlist entry: the run loads its files one by one from now. -/
  | promotes {items : List ExecSlot} {longer : ExecutionSequence} (slotId : QueueSlotId)
    (provided : items.any (fun slot => slot.item.isAudiobookshelf) = true)
    (built : PlaybackRun.appendSlots view.queue items = some longer) :
    Obeys answers view (.queueAppend items)
      { view.load .drainingReplacedFile slotId with queue := longer, projection := .activeFile }
  | promoteFails {items : List ExecSlot} {added : List MpvCommand} (outcome : StopOutcome)
    (provided : items.any (fun slot => slot.item.isAudiobookshelf) = true) :
    Obeys answers view (.queueAppend items) ((view.displace added).stop outcome)
  | removes {slotId : QueueSlotId} {idx : Nat} (playlist : view.projection = .playlist)
    (found : view.queue.slotIndex slotId = some idx) :
    Obeys answers view (.queueRemove slotId)
      { view with queue := view.withoutSlot slotId, mpv := view.mpv ++ [.playlistRemove idx] }
  | removesLoaded {slotId : QueueSlotId} (currentIdx : Nat) (mpv : List MpvCommand)
    (activeFile : view.projection = .activeFile) (member : slotId ∈ view.queue.slotIds) :
    Obeys answers view (.queueRemove slotId)
      { view with queue := view.withoutSlot slotId, currentIdx := currentIdx, mpv := mpv }
  /-- The neighbour of the removed slot is loaded in its place. -/
  | reloads {slotId : QueueSlotId} (queue : ExecutionSequence) (currentIdx : Nat)
    (neighbor : QueueSlotId) (activeFile : view.projection = .activeFile)
    (active : view.queue.activeSlotId = some slotId) (others : 1 < view.queue.len)
    (prepared : answers.prepareSource = none) (loads : answers.loadfile = none) :
    Obeys answers view (.queueRemove slotId)
      { view.load .drainingReplacedFile neighbor with queue := queue, currentIdx := currentIdx }
  | reloadFails {slotId : QueueSlotId} (neighbor : QueueSlotId)
    (activeFile : view.projection = .activeFile) :
    Obeys answers view (.queueRemove slotId) (view.load view.loadState neighbor)
  | moves {slotId : QueueSlotId} {toIndex : Nat} {after : RunView}
    (shifts : Relation.ReflTransGen Shifts view after) :
    Obeys answers view (.queueMove slotId toIndex) after
  | reorders {order : List QueueSlotId} {after : RunView}
    (shifts : Relation.ReflTransGen Shifts view after) :
    Obeys answers view (.queueReorder order) after
  | loadsNew {item : EmbyItem} {queue : ExecutionSequence}
    (built : PlaybackRun.buildQueue [⟨⟨1⟩, .emby item⟩] 0 = some queue) :
    Obeys answers view (.loadNew item)
      (view.startOn queue 0 view.projection [.loadfile ⟨1⟩ .replace])
  /-- An empty submission clears a run that loads its files one by one. -/
  | clears {startIdx : Nat} (activeFile : view.projection = .activeFile) :
    Obeys answers view (.submitQueue [] startIdx)
      { view with
        queue := view.queue.clear
        currentIdx := 0
        mpv := view.mpv ++ [.playlistClear]
        quitAt := none }
  | relents {startIdx : Nat} : Obeys answers view (.submitQueue [] startIdx) { view with quitAt := none }
  /-- The submitted items are the queue, from their start slot on; the run that cannot load them is
      parked and ended on them. -/
  | submits {items slots : List ExecSlot} {startIdx : Nat} {queue : ExecutionSequence}
    {builds : Bool} {added : List MpvCommand} {after : RunView} (projection : Projection)
    (displaces : view.displaces answers (.submitQueue items startIdx) = true)
    (named : slots.map (·.slotId) = items.map (·.slotId))
    (built : PlaybackRun.buildQueue slots (min startIdx (items.length - 1)) = some queue)
    (displacing : PlaybackRun.DisplacingCommands answers builds added)
    (playlist : builds = true → projection = .playlist)
    (ends : after = view.startOn queue (min startIdx (items.length - 1)) projection added ∨
      ∃ outcome, after =
        (view.startOn queue (min startIdx (items.length - 1)) projection added).stop outcome) :
    Obeys answers view (.submitQueue items startIdx) after

variable {view} {answers : Answers} {command : PlayerCommand}

theorem Obeys.quiet (spares : view.displaces answers command = false) : view.Obeys answers command view := by
  have kept := Obeys.keeps [] (fun _ member => absurd member not_mem_nil) spares
  rwa [tell, append_nil] at kept

theorem Obeys.rejects (message : String) (spares : view.displaces answers command = false) :
    view.Obeys answers command (view.tell [.commandRejected message]) := by
  refine .keeps _ (fun event member => ?_) spares
  rw [mem_singleton.mp member]
  exact ⟨rfl, rfl, by simp [PlayerEvent.label?]⟩

end RunView

namespace PlaybackRun

variable (run : PlaybackRun)

theorem view_parkForFailedLoad : run.parkForFailedLoad.view = run.view.displace [.stop, .playlistClear] := by
  rw [← run.view_reportStopIfUnreported]
  unfold parkForFailedLoad
  generalize run.reportStopIfUnreported = reported
  simp [view, RunView.displace, beginItemLifecycle, acceptReplacement, markReported, command, RunLifecycle.disarmJump]

theorem view_stopForActiveFileFailure (failedSlot : Option QueueSlotId) (positionTicks : Int) (error : String) :
    ∃ outcome, (run.stopForActiveFileFailure failedSlot positionTicks error).view =
      (run.view.displace [.stop, .playlistClear]).stop outcome :=
  ⟨_, (view_endRun _ _).trans (congrArg (RunView.stop · _) run.view_parkForFailedLoad)⟩

theorem view_initializeQueueStart (hadPreviousQueue : Bool) (active : QueueItem) :
    (run.initializeQueueStart hadPreviousQueue active).view = run.view.displace [] := by
  rw [RunView.displace, append_nil]
  cases hadPreviousQueue <;> rfl

theorem view_reportJumpedItem : run.reportJumpedItem.view = run.view := by
  unfold reportJumpedItem
  split <;> rfl

variable {run} {next : PlaybackRun} {answers : Answers} {slotId : QueueSlotId}

theorem installed_view {installed : PlaybackRun} {error : Option String}
    (result : run.installActiveProjection answers slotId = (error, installed)) :
    error.isNone = answers.loadfile.isNone ∧ installed.view = run.view.load
      (if answers.loadfile.isNone then .drainingReplacedFile else run.itemLifecycle.loadState)
      slotId := by
  have loaded := run.view_installActiveProjection answers slotId
  rwa [result] at loaded

theorem parked_displaces {failed : PlaybackRun} {view : RunView} (missed : failed.view = view ∨
      answers.loadfile.isNone = false ∧ ∃ loadState, failed.view = view.load loadState slotId) :
    ∃ added, DisplacingCommands answers false added ∧ failed.view.displace [.stop, .playlistClear] = view.displace added := by
  rcases missed with kept | ⟨fails, loadState, loaded⟩
  · exact ⟨_, .park, by rw [kept]⟩
  · refine ⟨_, .installFails slotId fails, ?_⟩
    rw [loaded]
    simp [RunView.displace, RunView.load]

theorem cmdJumpTo_obeys (run : PlaybackRun) (answers : Answers) (slotId : QueueSlotId)
    (requestId : PlaybackRequestId) (generation : PlaybackGeneration) (resumeTicks : Option Int) :
    run.view.Obeys answers (.jumpTo slotId requestId generation resumeTicks)
      (run.cmdJumpTo answers slotId requestId generation).view := by
  unfold cmdJumpTo
  cases found : run.queue.slotIndex slotId with
  | none => exact .rejects _ (by simp [RunView.displaces, view, found])
  | some idx =>
    dsimp only
    split
    · rename_i active
      have displaces : run.view.displaces answers (.jumpTo slotId requestId generation resumeTicks) = true := by
        have projection : run.view.projection = .activeFile := (RunLifecycle.isActiveFile_iff _).mp active
        simp [RunView.displaces, projection, show run.view.queue.slotIndex slotId = _ from found]
      unfold cmdJumpToActiveFile
      split <;> rename_i chosen selected
      · rcases view_selectActiveSlot selected with ⟨-, -, loads, -, idx, taken⟩ | ⟨failed, -⟩
        · obtain ⟨shown, told⟩ := chosen.reportJumpedItem.view_emitTrackChanged slotId
            (some (Transition.new requestId generation slotId))
          rw [told, view_reportJumpedItem, taken]
          exact .jumps idx shown displaces (Option.isNone_iff_eq_none.mpr loads)
        · cases failed
      · rcases view_selectActiveSlot selected with ⟨other, -⟩ | ⟨-, missed⟩
        · cases other
        · obtain ⟨added, displacing, parked⟩ := @parked_displaces answers slotId _ _
            (missed.imp id fun failed => ⟨failed.1, _, failed.2⟩)
          obtain ⟨outcome, stopped⟩ := chosen.view_stopForActiveFileFailure (some slotId) 0
            ("failed to select slot QueueSlotId(" ++ toString slotId.raw ++ "): " ++ _)
          rw [stopped, parked]
          exact .jumpFails outcome displaces displacing
    · rename_i inactive
      have kept (armed : PlaybackRun) : (armed.cmdJumpToPlaylist answers slotId answers.jumpTicks).view = armed.view := by
        unfold cmdJumpToPlaylist
        dsimp only
        split <;> rfl
      rw [kept]
      refine .quiet ?_
      simp [RunView.displaces, view, playlist_of_not (show ¬ run.runLifecycle.isActiveFile = true from inactive)]

variable {items : List ExecSlot}

theorem appendItemsToQueue_view (appended : run.appendItemsToQueue items = some next) :
    ∃ longer, appendSlots run.queue items = some longer ∧ next.view = { run.view with queue := longer } := by
  rw [appendItemsToQueue, Option.map_eq_some_iff] at appended
  obtain ⟨longer, built, rfl⟩ := appended
  exact ⟨longer, built, rfl⟩

theorem cmdAppendQueue_obeys (appended : run.cmdAppendQueue answers items = some next) :
    run.view.Obeys answers (.queueAppend items) next.view := by
  unfold cmdAppendQueue at appended
  split at appended
  · cases appended
    exact .quiet rfl
  · split at appended
    · rename_i active
      obtain ⟨longer, built, same⟩ := appendItemsToQueue_view appended
      have appends := @RunView.Obeys.appends answers run.view _ _ _ rfl built
      have projection : run.view.projection = .activeFile := (RunLifecycle.isActiveFile_iff _).mp active
      rw [if_pos projection, append_nil] at appends
      exact same ▸ appends
    · rename_i inactive
      split at appended
      · rename_i provided
        unfold promoteToActiveFile at appended
        split at appended
        · cases appended
          exact .quiet rfl
        · rename_i active _
          split at appended
          · cases appended
            exact .quiet rfl
          · have loaded := run.view_installActiveProjection answers active.slotId
            split at appended <;> rename_i result <;> rw [result] at loaded
            · cases appended
              rename_i failed
              obtain ⟨outcome, stopped⟩ := failed.view_stopForActiveFileFailure failed.activeSlotId failed.lastValidPos _
              obtain ⟨added, -, parked⟩ := @parked_displaces answers active.slotId failed run.view
                (.inr ⟨loaded.1.symm, _, loaded.2⟩)
              rw [stopped, parked]
              exact .promoteFails outcome provided
            · rw [Option.map_eq_some_iff] at appended
              obtain ⟨grown, appended, rfl⟩ := appended
              obtain ⟨longer, built, same⟩ := appendItemsToQueue_view appended
              have taken : answers.loadfile.isNone = true := loaded.1.symm
              rw [if_pos taken] at loaded
              have queue := congrArg RunView.queue loaded.2
              have longest : appendSlots run.view.queue items = some longer := queue ▸ built
              have promotes := @RunView.Obeys.promotes answers run.view _ _ active.slotId provided longest
              rw [← loaded.2] at promotes
              show run.view.Obeys answers _ { grown.view with projection := .activeFile }
              rw [same]
              exact promotes
      · unfold appendItemsViaMpv at appended
        dsimp only at appended
        split at appended
        · obtain ⟨longer, built, same⟩ := appendItemsToQueue_view appended
          have appends := @RunView.Obeys.appends answers run.view items _ _ (by simp [Function.comp_def]) built
          rw [if_neg (by simp [view, playlist_of_not inactive])] at appends
          rw [same]
          exact appends
        · cases appended
          exact .rejects _ rfl

theorem removeNeighborSlot_isSome {idx : Nat} (inside : idx < run.queueLen)
    (neighbor : run.removeNeighborSlot idx = some slotId) : 1 < run.queueLen := by
  unfold removeNeighborSlot at neighbor
  split at neighbor
  · rename_i next
    omega
  · split at neighbor
    · rename_i back
      omega
    · cases neighbor

theorem view_removePlaylistSlot (run : PlaybackRun) (slotId : QueueSlotId) (idx : Nat) :
    (run.removePlaylistSlot slotId idx).view = { run.view with
        queue := run.view.withoutSlot slotId
        mpv := run.mpv ++ [.playlistRemove idx] } := by
  by_cases jumped : run.runLifecycle.jumpTargetSlot = some slotId <;> by_cases own : run.queue.activeSlotId = some slotId <;>
    simp [removePlaylistSlot, command, syncStatusPosition, activeSlotId, view,
      RunView.withoutSlot, RunLifecycle.disarmJump, jumped, own]

theorem cmdQueueRemove_obeys (run : PlaybackRun) (answers : Answers) (slotId : QueueSlotId) :
    run.view.Obeys answers (.queueRemove slotId) (run.cmdQueueRemove answers slotId).view := by
  unfold cmdQueueRemove
  cases found : run.queue.slotIndex slotId with
  | none => exact .quiet rfl
  | some idx =>
    obtain ⟨member, inside⟩ := ExecutionSequence.slotIndex_some found
    dsimp only
    split
    · rename_i active
      have activeFile : run.view.projection = .activeFile := (RunLifecycle.isActiveFile_iff _).mp active
      have removes := @RunView.Obeys.removesLoaded answers run.view slotId
      unfold removeActiveFileSlot
      split
      · rename_i other
        have dropped : run.view.withoutSlot slotId = run.queue.removeSlot slotId := if_neg other
        have effect := removes (PlaybackRun.rederiveCurrentIdx { run with queue := run.queue.removeSlot slotId }).currentIdx
          run.mpv activeFile member
        rw [dropped] at effect
        exact effect
      · rename_i own
        have marker : run.activeSlotId = some slotId := not_not.mp own
        split
        · have dropped : run.view.withoutSlot slotId = run.queue.removeActiveSlotConfirmed slotId := if_pos marker
          have effect := removes run.currentIdx (run.mpv ++ [.playlistClear]) activeFile member
          rw [dropped] at effect
          exact effect
        · rename_i next neighbor
          have others := removeNeighborSlot_isSome inside neighbor
          split <;> rename_i chosen selected
          · rcases view_selectActiveSlot selected with
              ⟨-, prepared, loads, -, idx, taken⟩ | ⟨failed, -⟩
            · have reloads := @RunView.Obeys.reloads answers run.view slotId
                (chosen.queue.removeSlot slotId) idx next activeFile marker others prepared loads
              show run.view.Obeys answers _ { chosen.view with queue := chosen.queue.removeSlot slotId }
              rw [taken]
              exact reloads
            · cases failed
          · rcases view_selectActiveSlot selected with ⟨other, -⟩ | ⟨-, kept | ⟨-, loaded⟩⟩
            · cases other
            · exact (show chosen.syncStatusPosition.view = run.view from kept) ▸ .quiet rfl
            · exact (show chosen.syncStatusPosition.view = _ from loaded) ▸ .reloadFails next activeFile
    · rename_i inactive
      rw [view_removePlaylistSlot]
      exact .removes (playlist_of_not inactive) found

theorem cmdQueueMove_shifts (run : PlaybackRun) (slotId : QueueSlotId) (toIndex : Nat) :
    Relation.ReflTransGen RunView.Shifts run.view (run.cmdQueueMove slotId toIndex).view := by
  unfold cmdQueueMove
  cases found : run.queue.slotIndex slotId with
  | none => exact .refl
  | some source =>
    dsimp only
    split
    · exact .refl
    · rename_i useful
      simp only [Bool.or_eq_true, decide_eq_true_eq, not_or, Nat.not_le] at useful
      have moves := @RunView.Shifts.moves run.view _ _ _ found useful.1.2
      refine .single ?_
      split
      · rename_i active
        rw [if_pos (show run.view.projection = .activeFile from
          (RunLifecycle.isActiveFile_iff _).mp active), append_nil] at moves
        exact moves
      · rename_i inactive
        rw [if_neg (by simp [view, playlist_of_not inactive])] at moves
        exact moves

theorem cmdQueueReorder_shifts (run : PlaybackRun) (order : List QueueSlotId) :
    Relation.ReflTransGen RunView.Shifts run.view (run.cmdQueueReorder order).view := by
  unfold cmdQueueReorder
  split
  · rename_i permutation
    clear permutation
    generalize reorderMovePlan run.queue.slotIds order = moves
    induction moves generalizing run with
    | nil => exact .refl
    | cons move moves ih => exact (run.cmdQueueMove_shifts move.1 move.2).trans (ih _)
  · exact .refl

variable {startIdx : Nat}

theorem acceptStoppedReplacement_view {activeItem : QueueItem} {error : String}
    (accepted : run.acceptStoppedReplacement items startIdx activeItem error = some next) :
    ∃ queue outcome, (if items.isEmpty then some run.parkForFailedLoad.queue else buildQueue items startIdx) = some queue ∧
      next.view = { run.view.displace [.stop, .playlistClear] with
        queue := queue
        currentIdx := startIdx
        projection := .activeFile }.stop outcome := by
  unfold acceptStoppedReplacement at accepted
  dsimp only at accepted
  rw [Option.map_eq_some_iff] at accepted
  obtain ⟨queue, chosen, rfl⟩ := accepted
  have parked := congrArg (fun view : RunView =>
    { view with queue := queue, currentIdx := startIdx, projection := .activeFile })
    run.view_parkForFailedLoad
  exact ⟨queue, _, chosen, (view_endRun _ _).trans (congrArg (RunView.stop · _) parked)⟩

theorem queueLoads_append {indices : List Nat} : ∀ load ∈ indices.filterMap (fun i => items[i]?.map fun slot =>
        MpvCommand.loadfile slot.slotId (queueLoadLocation i startIdx)),
      ∃ slotId mode, load = .loadfile slotId mode ∧ mode ≠ .replace := by
  intro load member
  obtain ⟨i, -, loaded⟩ := mem_filterMap.mp member
  obtain ⟨slot, -, same⟩ := Option.map_eq_some_iff.mp loaded
  refine ⟨slot.slotId, queueLoadLocation i startIdx, same.symm, ?_⟩
  unfold queueLoadLocation
  split <;> simp

theorem replaceWithQueueItems_obeys (unclosed : items ≠ [] → run.runLifecycle.ended = none)
    (displaces : items ≠ [] → run.view.displaces answers (.submitQueue items startIdx) = true)
    (activeFile : items = [] → run.view.projection = .activeFile)
    (replaced : run.replaceWithQueueItems answers items startIdx = some next) :
    run.view.Obeys answers (.submitQueue items startIdx) next.view := by
  unfold replaceWithQueueItems at replaced
  dsimp only at replaced
  split at replaced
  · rename_i missing
    have empty : items = [] := by
      rw [List.getElem?_eq_none_iff] at missing
      exact eq_nil_of_length_eq_zero (by omega)
    subst empty
    cases replaced
    exact .clears (activeFile rfl)
  · rename_i active found
    have filled : items ≠ [] := by
      rintro rfl
      simp at found
    have some_ : ¬ items.isEmpty = true := fun empty => filled (isEmpty_iff.mp empty)
    have closed := unclosed filled
    have submits {queue : ExecutionSequence} {added : List MpvCommand} {after : RunView} :=
      @RunView.Obeys.submits answers run.view items items startIdx queue false added after .activeFile (displaces filled) rfl
    split at replaced
    · obtain ⟨queue, outcome, built, same⟩ := acceptStoppedReplacement_view replaced
      rw [if_neg some_] at built
      refine submits built .park (by simp) (.inr ⟨outcome, ?_⟩)
      rw [same]
      simp [view, cancelPendingQuit, RunLifecycle.submissionAccepted, RunView.startOn, RunView.displace, closed]
    · obtain ⟨queue, built, installed⟩ := Option.bind_eq_some_iff.mp replaced
      have reopened {base : PlaybackRun} {loadState : LoadState} (based : base.view = { run.view with
            queue := queue
            currentIdx := min startIdx (items.length - 1)
            projection := .activeFile
            ended := none
            quitAt := none }) : base.view.load loadState active.slotId =
          { run.view.load loadState active.slotId with
            queue := queue
            currentIdx := min startIdx (items.length - 1)
            projection := .activeFile
            quitAt := none } := by
        rw [based]
        simp [RunView.load, view, closed]
      split at installed <;> rename_i chosen result
      · obtain ⟨fails, loaded⟩ := installed_view result
        rw [reopened rfl] at loaded
        obtain ⟨_, outcome, kept, same⟩ := acceptStoppedReplacement_view installed
        have parked : chosen.parkForFailedLoad.queue = queue := by
          rw [show chosen.parkForFailedLoad.queue = chosen.queue from congrArg RunView.queue chosen.view_parkForFailedLoad]
          exact congrArg RunView.queue loaded
        cases kept.symm.trans (congrArg some parked)
        refine submits built (.installFails active.slotId fails.symm) (by simp) (.inr ⟨outcome, ?_⟩)
        rw [same, loaded]
        simp [RunView.startOn, RunView.displace, RunView.load]
      · obtain ⟨loads, loaded⟩ := installed_view result
        rw [reopened rfl] at loaded
        cases installed
        refine submits built (.install active.slotId loads.symm) (by simp) (.inl ?_)
        have unread (run : PlaybackRun) (status : PlayerStatus) : view { run with status := status } = run.view := rfl
        have begun (origin : PlaybackOrigin) : (loadActiveItemState { chosen with origin := origin }).view = chosen.view := rfl
        rw [unread, view_initializeQueueStart, begun, loaded]
        simp [RunView.startOn, RunView.displace, RunView.load]

theorem cmdSubmitQueue_obeys (unclosed : items ≠ [] → run.runLifecycle.ended = none)
    (submitted : run.cmdSubmitQueue answers items startIdx = some next) :
    run.view.Obeys answers (.submitQueue items startIdx) next.view := by
  have same (items : List ExecSlot) : run.view.displaces answers (.submitQueue items startIdx) =
    run.replaces answers items := rfl
  unfold cmdSubmitQueue at submitted
  dsimp only at submitted
  split at submitted
  · rename_i provided
    refine replaceWithQueueItems_obeys unclosed (fun filled => ?_) (fun empty => ?_) submitted
    · rw [same, replaces, provided]
      simpa using filled
    · subst empty
      exact (RunLifecycle.isActiveFile_iff _).mp (by simpa using provided)
  · rename_i playlist
    split at submitted
    · rename_i sourceless
      cases submitted
      refine .rejects _ ?_
      rw [all_map, Bool.not_eq_true'] at sourceless
      rw [same, replaces, (Bool.not_eq_true _).mp playlist, Bool.false_or]
      exact Bool.and_eq_false_iff.mpr (.inr sourceless)
    · rename_i sourced
      rw [all_map, Bool.not_eq_true', Bool.not_eq_false] at sourced
      split at submitted
      · rename_i missing
        cases submitted
        have empty : items = [] := by
          rw [List.getElem?_eq_none_iff, length_map] at missing
          exact eq_nil_of_length_eq_zero (by omega)
        subst empty
        exact .relents
      · rename_i active found
        generalize sent : filterMap _ (queueLoadIndices _ _) = loads at submitted
        have appends := @queueLoads_append (items.map fun slot =>
          { slot with item := refreshResume answers.refreshed slot.item })
          (min startIdx (items.length - 1)) (queueLoadIndices items.length (min startIdx (items.length - 1)))
        rw [length_map] at submitted sent found
        rw [sent] at appends
        obtain ⟨queue, built, rfl⟩ := Option.map_eq_some_iff.mp submitted
        have filled : items ≠ [] := by
          rintro rfl
          cases found
        refine .submits run.runLifecycle.projection ?_ ?_ built (.playlist loads appends) (fun _ => ?_) (.inl ?_)
        · rw [same, replaces, Bool.and_eq_true, Bool.or_eq_true]
          exact ⟨by simpa using filled, .inr sourced⟩
        · simp [Function.comp_def]
        · rw [Bool.or_eq_true, not_or] at playlist
          exact playlist_of_not playlist.1
        · rw [view_initializeQueueStart]
          simp [RunView.startOn, RunView.displace, view, loadActiveItemState, cancelPendingQuit]

/-- What handling a command does to a run shows in its view as one of the effects. -/
theorem handleCommand_obeys {command : PlayerCommand} {cancels : Bool}
    (handled : run.handleCommand answers command = some (cancels, next)) :
    (run.acceptedView command).Obeys answers command next.view := by
  cases command with
  | togglePause =>
    cases handled
    exact .quiet rfl
  | jumpTo slotId requestId generation resumeTicks =>
    cases handled
    exact run.cmdJumpTo_obeys answers slotId requestId generation resumeTicks
  | queueAppend items =>
    simp only [handleCommand, Option.map_eq_some_iff, Prod.mk.injEq] at handled
    obtain ⟨_, result, -, rfl⟩ := handled
    exact cmdAppendQueue_obeys result
  | queueRemove slotId =>
    cases handled
    exact run.cmdQueueRemove_obeys answers slotId
  | queueMove slotId toIndex =>
    cases handled
    exact .moves (run.cmdQueueMove_shifts slotId toIndex)
  | queueReorder order =>
    cases handled
    exact .reorders (run.cmdQueueReorder_shifts order)
  | loadNew item =>
    simp only [handleCommand, cmdLoadNew, Option.map_eq_some_iff, Prod.mk.injEq] at handled
    obtain ⟨_, ⟨queue, built, rfl⟩, -, rfl⟩ := handled
    exact .loadsNew built
  | submitQueue items startIdx =>
    simp only [handleCommand, Option.map_eq_some_iff, Prod.mk.injEq] at handled
    obtain ⟨_, result, -, rfl⟩ := handled
    by_cases empty : items.isEmpty = true
    · rw [if_pos empty] at result
      have obeys := cmdSubmitQueue_obeys (fun filled => absurd (isEmpty_iff.mp empty) filled) result
      have accepted : run.acceptedView (.submitQueue items startIdx) = run.view := by
        simp [acceptedView, PlayerCommand.accepts, PlayerCommand.identityDuring, empty, view]
      exact accepted ▸ obeys
    · rw [if_neg empty] at result
      have obeys := cmdSubmitQueue_obeys (fun _ => rfl) result
      have accepted : run.acceptedView (.submitQueue items startIdx) = view { run with
            runIdentity := run.status.sequenceGeneration
            runLifecycle := run.runLifecycle.submissionAccepted } := by
        simp [acceptedView, PlayerCommand.accepts, PlayerCommand.identityDuring, empty, view, RunLifecycle.submissionAccepted]
      exact accepted ▸ obeys

end PlaybackRun

end Mbv.Player
