import Mbv.Queue.Reorder
import Mbv.Player.Run.State

namespace Mbv.Player

open Mbv.Queue

inductive PlayerCommand where
  | togglePause
  | jumpTo (slotId : QueueSlotId) (requestId : PlaybackRequestId)
      (generation : PlaybackGeneration) (resumeTicks : Option Int)
  | queueAppend (items : List ExecSlot)
  | queueRemove (slotId : QueueSlotId)
  | queueMove (slotId : QueueSlotId) (toIndex : Nat)
  | queueReorder (order : List QueueSlotId)
  | loadNew (item : EmbyItem)
  | submitQueue (items : List ExecSlot) (startIdx : Nat)
deriving DecidableEq

/-- Where index `idx` ends up after the entry at `source` moves to `target`. -/
def shiftIndexForMove (idx source target : Nat) : Nat :=
  if idx = source then target
  else if source < idx ∧ idx ≤ target then idx - 1
  else if target ≤ idx ∧ idx < source then idx + 1
  else idx

/-- mpv's second index names the entry to land before, not the index to land on. -/
def playlistMoveArgs (source target : Nat) : Nat × Nat :=
  (source, if source < target then target + 1 else target)

/-- The start entry loads first, the earlier ones before it, the later ones after. -/
def queueLoadIndices (len startIdx : Nat) : List Nat :=
  [startIdx] ++ List.range startIdx ++ (List.range (len - (startIdx + 1))).map (startIdx + 1 + ·)

def queueLoadLocation (index startIdx : Nat) : LoadMode :=
  if index < startIdx then .insertAt index else .append

namespace PlaybackRun

variable (run : PlaybackRun)

def removeNeighborSlot (idx : Nat) : Option QueueSlotId :=
  if idx + 1 < run.queueLen then run.slotIdAt (idx + 1)
  else if idx > 0 then run.slotIdAt (idx - 1)
  else none

/-- The ordinal follows the active slot's identity, and stays when no slot is active. -/
def rederiveCurrentIdx : PlaybackRun :=
  { run with currentIdx := (run.activeSlotId.bind run.queue.slotIndex).getD run.currentIdx }

def removeActiveFileSlot (answers : Answers) (slotId : QueueSlotId) (idx : Nat) : PlaybackRun :=
  if run.activeSlotId ≠ some slotId then
    { run with queue := run.queue.removeSlot slotId }.rederiveCurrentIdx.syncStatusPosition
  else
    match run.removeNeighborSlot idx with
    | none =>
      ({ run with queue := run.queue.removeActiveSlotConfirmed slotId }.command
        .playlistClear).syncStatusPosition
    | some next =>
      match run.selectActiveSlot answers next with
      | (none, run) => { run with queue := run.queue.removeSlot slotId }.syncStatusPosition
      | (some _, run) => run.syncStatusPosition

def removePlaylistSlot (slotId : QueueSlotId) (idx : Nat) : PlaybackRun :=
  let removed := run.command (.playlistRemove idx)
  let removed :=
    { removed with
      queue :=
        if run.activeSlotId = some slotId then run.queue.removeActiveSlotConfirmed slotId
        else run.queue.removeSlot slotId }.syncStatusPosition
  let disarmed :=
    if removed.runLifecycle.jumpTargetSlot = some slotId then
      { removed with runLifecycle := removed.runLifecycle.disarmJump }
    else removed
  if run.activeSlotId ≠ some slotId then disarmed
  else { disarmed with reporter := { disarmed.reporter with itemId := "" } }

def cmdQueueRemove (answers : Answers) (slotId : QueueSlotId) : PlaybackRun :=
  match run.queue.slotIndex slotId with
  | none => run
  | some idx =>
    if run.runLifecycle.isActiveFile then run.removeActiveFileSlot answers slotId idx
    else run.removePlaylistSlot slotId idx

def cmdQueueMove (slotId : QueueSlotId) (toIndex : Nat) : PlaybackRun :=
  match run.queue.slotIndex slotId with
  | none => run
  | some source =>
    if source ≥ run.queueLen || toIndex ≥ run.queueLen || source = toIndex then run
    else
      let (index1, index2) := playlistMoveArgs source toIndex
      let moved :=
        if run.runLifecycle.isActiveFile then run else run.command (.playlistMove index1 index2)
      { moved with
        queue := (run.queue.moveSlot slotId toIndex).2
        currentIdx := shiftIndexForMove run.currentIdx source toIndex }.syncStatusPosition

def cmdQueueReorder (order : List QueueSlotId) : PlaybackRun :=
  if isSlotPermutation run.queue.slotIds order then
    (reorderMovePlan run.queue.slotIds order).foldl
      (fun run move => run.cmdQueueMove move.1 move.2) run
  else run

def stopForActiveFileFailure (failedSlot : Option QueueSlotId) (positionTicks : Int)
    (error : String) : PlaybackRun :=
  run.parkForFailedLoad.endRun ⟨failedSlot, positionTicks, false, false, some error⟩

def reportJumpedItem : PlaybackRun :=
  match run.activeItem with
  | none => run
  | some item =>
    (({ run with tracksInitialized := false }.setNextItemStatus item).startReporting
      item).markReported .notSent

def cmdJumpToActiveFile (answers : Answers) (slotId : QueueSlotId) (transition : Transition) :
    PlaybackRun :=
  match run.selectActiveSlot answers slotId with
  | (none, run) => run.reportJumpedItem.emitTrackChanged slotId (some transition)
  | (some error, run) =>
    run.stopForActiveFileFailure (some slotId) 0
      ("failed to select slot QueueSlotId(" ++ toString slotId.raw ++ "): " ++ error)

def cmdJumpToPlaylist (answers : Answers) (slotId : QueueSlotId) (resumeTicks : Option Int) :
    PlaybackRun :=
  let fromIdle := !run.status.active
  let transition :=
    match run.runLifecycle.jump with
    | .pending jump => jump.transition
    | .idle | .resumeOnly _ _ => none
  let armed :=
    { run with
      tracksInitialized := run.tracksInitialized && !fromIdle
      runLifecycle := run.runLifecycle.armJump ⟨slotId, transition, resumeTicks, fromIdle⟩ }
  match answers.writePlaylistPos with
  | some _ => { armed with runLifecycle := armed.runLifecycle.disarmJump }
  | none => armed

def cmdJumpTo (answers : Answers) (slotId : QueueSlotId) (requestId : PlaybackRequestId)
    (generation : PlaybackGeneration) : PlaybackRun :=
  match run.queue.slotIndex slotId with
  | none =>
    run.send (.commandRejected
      ("Playback selection rejected: stale slot QueueSlotId(" ++ toString slotId.raw ++ ")"))
  | some _ =>
    let transition := Transition.new requestId generation slotId
    let armed :=
      { run with
        runLifecycle :=
          run.runLifecycle.armJump ⟨slotId, some transition, answers.jumpTicks, false⟩ }
    if armed.runLifecycle.isActiveFile then armed.cmdJumpToActiveFile answers slotId transition
    else armed.cmdJumpToPlaylist answers slotId answers.jumpTicks

/-- `none` is the failed uniqueness assertion. -/
def appendSlots (queue : ExecutionSequence) : List ExecSlot → Option ExecutionSequence
  | [] => some queue
  | slot :: slots => (queue.appendWithId slot.slotId slot.item).bind fun queue =>
      appendSlots queue slots

def appendItemsToQueue (items : List ExecSlot) : Option PlaybackRun :=
  (appendSlots run.queue items).map fun queue =>
    { run with queue := queue, status := { run.status with queueLen := queue.len } }

def promoteToActiveFile (answers : Answers) (newItems : List ExecSlot) : Option PlaybackRun :=
  match run.queue.activeSlot with
  | none => some run
  | some active =>
    match answers.prepareSource with
    | some _ => some run
    | none =>
      match run.installActiveProjection answers active.slotId with
      | (some error, run) =>
        some (run.stopForActiveFileFailure run.activeSlotId run.lastValidPos
          ("failed to load media: " ++ error))
      | (none, run) =>
        (run.appendItemsToQueue newItems).map fun run =>
          { run with runLifecycle := run.runLifecycle.enterActiveFile }

def appendItemsViaMpv (answers : Answers) (newItems : List ExecSlot) : Option PlaybackRun :=
  let items := newItems.map fun slot =>
    { slot with item := refreshResume answers.refreshed slot.item }
  if items.all fun slot => slot.item.hasMpvUrlSource then
    let loads := items.map fun slot => MpvCommand.loadfile slot.slotId .appendPlay
    { run with mpv := run.mpv ++ loads }.appendItemsToQueue items
  else
    some (run.send (.commandRejected
      "Queue append rejected: item has no direct mpv URL source"))

def cmdAppendQueue (answers : Answers) (newItems : List ExecSlot) : Option PlaybackRun :=
  if newItems.isEmpty then some run
  else if run.runLifecycle.isActiveFile then run.appendItemsToQueue newItems
  else if newItems.any fun slot => slot.item.isAudiobookshelf then
    run.promoteToActiveFile answers newItems
  else run.appendItemsViaMpv answers newItems

def cmdLoadNew (item : EmbyItem) : Option PlaybackRun :=
  let slotId : QueueSlotId := ⟨1⟩
  (ExecutionSequence.fromSlotItems [(slotId, .emby item)] (some slotId)).map fun queue =>
    let run :=
      { run.cancelPendingQuit with
        runLifecycle := run.runLifecycle.submissionAccepted
        origin := .standalone
        queue := queue
        currentIdx := 0
        reporter := run.reporter.startItem item }.loadActiveItemState
    let run := { run with pendingInitialPlaylistLayout := false }.beginItemLifecycle .deferred
    { run with
      status :=
        { run.status with
          runtimeTicks := item.runtimeTicks
          currentIdx := 0
          queueLen := 1 } }.command (.loadfile slotId .replace)

def initializeQueueStart (hadPreviousQueue : Bool) (active : QueueItem) : PlaybackRun :=
  let action := if hadPreviousQueue then StopAction.reportedNow .sent else .nothingPlaying
  let run := run.beginItemLifecycle action
  ({ run with pendingInitialPlaylistLayout := false }.startReporting active).setNextItemStatus
    active

def originOf (items : List ExecSlot) : PlaybackOrigin :=
  if items.length = 1 then .standalone else .queue

def buildQueue (items : List ExecSlot) (startIdx : Nat) : Option ExecutionSequence :=
  ExecutionSequence.fromSlotItems (items.map fun slot => (slot.slotId, slot.item))
    (items[startIdx]?.map (·.slotId))

/-- The run takes the items but stays parked: one `Stopped` names what could not load. -/
def acceptStoppedReplacement (items : List ExecSlot) (startIdx : Nat) (activeItem : QueueItem)
    (error : String) : Option PlaybackRun :=
  let run := run.parkForFailedLoad
  (if items.isEmpty then some run.queue else buildQueue items startIdx).map fun queue =>
    let run :=
      { run with
        queue := queue
        currentIdx := startIdx
        runLifecycle := run.runLifecycle.enterActiveFile
        origin := if queue.len = 1 then .standalone else .queue }.loadActiveItemState
    let run :=
      { run with
        pendingInitialPlaylistLayout := false
        status :=
          { run.status with
            runtimeTicks := activeItem.runtimeTicks
            currentIdx := startIdx
            queueLen := run.queueLen } }
    run.endRun ⟨run.activeSlotId, activeItem.playbackPositionTicks, false, false, some error⟩

def replaceWithQueueItems (answers : Answers) (items : List ExecSlot) (startIdx : Nat) :
    Option PlaybackRun :=
  let run := run.cancelPendingQuit
  match items[min startIdx (items.length - 1)]? with
  | none =>
    some ({ run.command .playlistClear with queue := run.queue.clear, currentIdx := 0
      }.syncStatusPosition)
  | some active =>
    let run := { run with runLifecycle := run.runLifecycle.submissionAccepted }
    let startIdx := min startIdx (items.length - 1)
    match answers.prepareSource with
    | some error =>
      run.acceptStoppedReplacement items startIdx active.item
        ("failed to prepare media: " ++ error)
    | none =>
      let hadPreviousQueue := run.queueLen > 0
      (buildQueue items startIdx).bind fun queue =>
        let run :=
          { run with
            queue := queue
            currentIdx := startIdx
            runLifecycle := run.runLifecycle.enterActiveFile }
        match run.installActiveProjection answers active.slotId with
        | (some error, run) =>
          run.acceptStoppedReplacement [] startIdx active.item
            ("failed to load media: " ++ error)
        | (none, run) =>
          let run := { run with origin := if run.queueLen = 1 then .standalone else .queue }
          let run := run.loadActiveItemState.initializeQueueStart hadPreviousQueue active.item
          some { run with status := { run.status with active := true } }

def cmdSubmitQueue (answers : Answers) (items : List ExecSlot) (startIdx : Nat) :
    Option PlaybackRun :=
  if run.runLifecycle.isActiveFile || items.any fun slot => slot.item.isAudiobookshelf then
    run.replaceWithQueueItems answers items startIdx
  else
    let items := items.map fun slot =>
      { slot with item := refreshResume answers.refreshed slot.item }
    if !items.all fun slot => slot.item.hasMpvUrlSource then
      some (run.send (.commandRejected
        "Queue submission rejected: item has no direct mpv URL source"))
    else
      let run := run.cancelPendingQuit
      let startIdx := min startIdx (items.length - 1)
      match items[startIdx]? with
      | none => some run
      | some active =>
        let hadPreviousQueue := run.queueLen > 0
        let loads := (queueLoadIndices items.length startIdx).filterMap fun i =>
          items[i]?.map fun slot => MpvCommand.loadfile slot.slotId (queueLoadLocation i startIdx)
        let run := { run with mpv := run.mpv ++ [MpvCommand.stop] ++ loads }
        (buildQueue items startIdx).map fun queue =>
          ({ run with
            origin := originOf items
            queue := queue
            currentIdx := startIdx }.loadActiveItemState.initializeQueueStart hadPreviousQueue
            active.item)

/-- The command's effect, and whether it cancels a pending stop; `none` is a panic. -/
def handleCommand (answers : Answers) : PlayerCommand → Option (Bool × PlaybackRun)
  | .togglePause => some (false, run)
  | .jumpTo slotId requestId generation _ =>
    some (false, run.cmdJumpTo answers slotId requestId generation)
  | .queueAppend items => (run.cmdAppendQueue answers items).map (false, ·)
  | .queueRemove slotId => some (false, run.cmdQueueRemove answers slotId)
  | .queueMove slotId toIndex => some (false, run.cmdQueueMove slotId toIndex)
  | .queueReorder order => some (false, run.cmdQueueReorder order)
  | .loadNew item => (run.cmdLoadNew item).map (true, ·)
  | .submitQueue items startIdx =>
    let accepted :=
      if items.isEmpty then run
      else
        { run with
          runIdentity := run.status.sequenceGeneration
          runLifecycle := run.runLifecycle.submissionAccepted }
    (accepted.cmdSubmitQueue answers items startIdx).map (true, ·)

end PlaybackRun

end Mbv.Player
