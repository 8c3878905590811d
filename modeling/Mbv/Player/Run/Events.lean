import Mbv.Player.Run.Commands

namespace Mbv.Player

open Mbv.Queue

inductive MpvEvent where
  | playlistPos (pos : Int)
  | playlistCount (count : Int)
  /-- A new position, whether it is past the start, and mpv's duration of the file when it has one. -/
  | timePos (ticks : Int) (started : Bool) (duration : Option Int)
  | playbackRestart
  | endFile (reason : EndFileReason)
  | nextUpPlay
  | shutdown
  | failed (failure : MpvFailure)

inductive FinishReason where
  | natural
  | nearEnd
  | nextUp
  | unfinished
deriving DecidableEq

structure AdvanceDecision where
  trackFinished : Bool
  playedOut : Bool
  consumeTrack : Bool
  completedPos : Int

def queueCompletedPos (isAudio : Bool) (lastValidPos : Int) : Int :=
  if isAudio then 0 else lastValidPos

def advanceDecision (isAudio : Bool) (finish : FinishReason) (lastValidPos : Int) :
    AdvanceDecision where
  trackFinished := finish ≠ .unfinished
  playedOut := finish ≠ .unfinished && !isAudio
  consumeTrack := finish ≠ .unfinished
  completedPos := queueCompletedPos isAudio lastValidPos

def divergentEntry (pos : Int) (currentIdx queueLen : Nat) : Option Nat :=
  if pos < 0 then none
  else if pos.toNat < queueLen ∧ pos.toNat ≠ currentIdx then some pos.toNat
  else none

/-- A stop with no marker left to announce is debris of a superseded jump. -/
def isSupersededJumpEndFile (reason : EndFileReason) (arm : JumpArm) (trackFinished : Bool) : Bool :=
  (reason = .stop || reason = .redirect) && !trackFinished &&
    match arm with
    | .pending jump => jump.transition.isNone
    | .idle | .resumeOnly _ _ => true

def isClockedAudioError (failure : MpvFailure) (audioDeviceConfigured : Bool) : Bool :=
  audioDeviceConfigured && failure = .audioOutputInit

def quitTimeoutStopFlags (origin : PlaybackOrigin) (isAudio : Bool)
    (lastValidPos runtimeTicks : Int) (stoppedNearEnd : Bool) : Bool × Bool :=
  match origin with
  | .standalone => (isNearEnd isAudio false lastValidPos runtimeTicks, false)
  | .queue => (stoppedNearEnd, stoppedNearEnd)

namespace PlaybackRun

variable (run : PlaybackRun)

def adoptMpvEntry (index : Nat) (mpvPosTicks : Int) : Bool × PlaybackRun :=
  match run.setActiveIndex index with
  | (false, run) => (false, run)
  | (true, run) =>
    let run := run.loadActiveItemState
    let run := if mpvPosTicks > 0 then { run with lastValidPos := mpvPosTicks } else run
    match run.activeItem with
    | none => (true, run)
    | some item =>
      let run := (run.setNextItemStatus item).reportActiveItem
      (true, { run with
        tracksInitialized := false
        runLifecycle := run.runLifecycle.disarmJump })

def announceAdoptedEntry (abandonedSlot : Option QueueSlotId) (abandonedPos : Int) : PlaybackRun :=
  let completed :=
    match abandonedSlot with
    | some slotId => run.send (.trackCompleted slotId run.runIdentity abandonedPos false false)
    | none => run
  match completed.activeSlotId with
  | some slotId => completed.send (.trackChanged slotId none)
  | none => completed

def reportStoppedAndAdoptMpvEntry (abandonedSlot : Option QueueSlotId) (abandonedPos : Int)
    (index : Nat) (mpvPosTicks : Int) : PlaybackRun :=
  match (run.markReported .sent).adoptMpvEntry index mpvPosTicks with
  | (false, run) => run
  | (true, run) => run.announceAdoptedEntry abandonedSlot abandonedPos

def onPlaylistPosChanged (pos : Int) (mpvPosTicks : Int) : PlaybackRun :=
  if run.runLifecycle.isActiveFile then run
  else if run.pendingInitialPlaylistLayout || !run.loadIsReady || !run.runLifecycle.jump.isIdle then
    run
  else
    match divergentEntry pos run.currentIdx run.queueLen with
    | none => run
    | some index =>
      run.reportStoppedAndAdoptMpvEntry (run.slotIdAt run.currentIdx) run.lastValidPos index
        mpvPosTicks

def dropSlot (slotId : QueueSlotId) : PlaybackRun :=
  { run with
    queue :=
      if run.activeSlotId = some slotId then run.queue.removeActiveSlotConfirmed slotId
      else run.queue.removeSlot slotId }

def onPlaylistCountChanged (count : Nat) : PlaybackRun :=
  if run.runLifecycle.isActiveFile then run
  else if count = run.queueLen then run
  else if count < run.queueLen then
    let removed := run.queueLen - count
    let shrunk := (run.queue.slotIds.drop count).foldl (fun run slotId => run.dropSlot slotId) run
    shrunk.rederiveCurrentIdx.syncStatusPosition.send (.queueDesynced
      ("Queue desynced: " ++ toString removed ++ " item(s) removed externally"))
  else
    let added := count - run.queueLen
    let clamped :=
      if run.currentIdx ≥ run.queueLen ∧ run.queueLen > 0 then
        { run with currentIdx := run.queueLen - 1 }
      else run
    clamped.syncStatusPosition.send (.queueDesynced
      ("Queue desynced: " ++ toString added ++ " item(s) added externally"))

def handleQueueQuit (completedSlotId : Option QueueSlotId) (completedIsAudio : Bool) :
    PlaybackRun :=
  let completedRuntime := (run.activeItem.map (·.runtimeTicks)).getD 0
  { run.reportStopIfUnreported with
    stopRuntime := some completedRuntime
    stoppedNearEnd := isNearEnd completedIsAudio false run.lastValidPos completedRuntime
    stopSlot := completedSlotId }

def onEndFileStandalone (reason : EndFileReason) : PlaybackRun :=
  let pinned := if reason = .quit then run.pinStopRuntime else run
  let naturalEnd := reason = .eof && pinned.status.runtimeTicks > 0
  let played := naturalEnd && !pinned.reporter.isAudio && pinned.reporter.hasSession
  (pinned.markReported .sent).endRun ⟨run.activeSlotId, 0, played, false, none⟩

def stopForMissingCompleted (completedSlotId : Option QueueSlotId) : PlaybackRun :=
  (run.markReported .sent).endRun ⟨completedSlotId, run.lastValidPos, false, false, none⟩

def handleSupersededJump (answers : Answers) (completedSlotId : Option QueueSlotId) :
    PlaybackRun :=
  if run.runLifecycle.isActiveFile then run
  else
    match divergentEntry answers.playlistPos run.currentIdx run.queueLen with
    | none => run
    | some index =>
      run.reportStoppedAndAdoptMpvEntry completedSlotId run.lastValidPos index
        answers.positionTicks

def settleForcedJump : (Nat × Option Transition) × PlaybackRun :=
  let targetIndex := run.runLifecycle.jumpTargetSlot.bind run.queue.slotIndex
  let (settled, lifecycle) :=
    run.runLifecycle.jumpSettledOnEndFile targetIndex run.currentIdx run.queueLen
  (settled, { run with runLifecycle := lifecycle })

structure QueueEndStop where
  completedSlotId : QueueSlotId
  decision : AdvanceDecision

def stopAtQueueEnd (stop : QueueEndStop) : PlaybackRun :=
  (run.markReported .sent).endRun
    ⟨some stop.completedSlotId, stop.decision.completedPos, stop.decision.playedOut,
      stop.decision.consumeTrack, none⟩

def stopForFailedAdvance (completedSlotId : QueueSlotId) : PlaybackRun :=
  run.endRun ⟨some completedSlotId, 0, false, false,
    some "failed to prepare media: service unavailable"⟩

def selectNext (answers : Answers) (nextIdx : Nat) : Bool × PlaybackRun :=
  if run.runLifecycle.isActiveFile then
    match run.slotIdAt nextIdx with
    | none => (false, run)
    | some slotId =>
      match run.selectActiveSlot answers slotId with
      | (none, run) => (true, run.onDrained)
      | (some _, run) => (false, run)
  else run.setActiveIndex nextIdx

def completeTrack (stop : QueueEndStop) (nextItem : QueueItem) : PlaybackRun :=
  (({ run with tracksInitialized := false }.setNextItemStatus nextItem).startReporting
    nextItem).send (.trackCompleted stop.completedSlotId run.runIdentity stop.decision.completedPos
      stop.decision.playedOut stop.decision.consumeTrack)

/-- `none` is the failed expectation that an item is active. -/
def advanceToNextTrack (answers : Answers) (stop : QueueEndStop) (nextIdx : Nat)
    (settlingTransition : Option Transition) : Option PlaybackRun :=
  let (advanced, run) := run.selectNext answers nextIdx
  match run.activeItem with
  | none => none
  | some nextItem =>
    let run := run.loadActiveItemState
    if run.runLifecycle.isActiveFile && !advanced then
      some (run.stopForFailedAdvance stop.completedSlotId)
    else
      let run := run.completeTrack stop nextItem
      match run.activeSlotId with
      | some nextSlotId => some (run.emitTrackChanged nextSlotId settlingTransition)
      | none => some run

def endedTrackDecision (reason : EndFileReason) (item : QueueItem) : AdvanceDecision :=
  let natural := reason = .eof && item.runtimeTicks > 0
  let nearEnd := isNearEnd run.reporter.isAudio natural run.lastValidPos item.runtimeTicks
  advanceDecision run.reporter.isAudio
    (if natural then .natural
      else if nearEnd then .nearEnd
      else if run.nextUpJump then .nextUp
      else .unfinished)
    run.lastValidPos

/-- Whether the run loop should go on without a second look, and the run; `none` is a panic. -/
def onEndFileQueue (answers : Answers) (reason : EndFileReason)
    (completedSlotId : Option QueueSlotId) : Option (Bool × PlaybackRun) :=
  match completedSlotId.bind fun slotId => run.queue.slot slotId with
  | none => some (false, run.stopForMissingCompleted completedSlotId)
  | some completed =>
    let decision := run.endedTrackDecision reason completed.item
    let run := { run with nextUpJump := false }
    if isSupersededJumpEndFile reason run.runLifecycle.jump decision.trackFinished then
      some (true, run.handleSupersededJump answers completedSlotId)
    else
      let ((nextIdx, settlingTransition), run) := run.settleForcedJump
      let stop : QueueEndStop := ⟨completed.slotId, decision⟩
      if nextIdx ≥ run.queueLen then some (false, run.stopAtQueueEnd stop)
      else (run.advanceToNextTrack answers stop nextIdx settlingTransition).map (false, ·)

def onEndFile (answers : Answers) (reason : EndFileReason) : Option (Bool × PlaybackRun) :=
  if run.quitAt.isSome then some (true, run)
  else if !run.loadIsReady then some (true, run.onDrained)
  else
    match run.origin with
    | .queue =>
      if reason = .quit then
        some (true, run.handleQueueQuit run.activeSlotId run.reporter.isAudio)
      else run.onEndFileQueue answers reason run.activeSlotId
    | .standalone => some (false, run.onEndFileStandalone reason)

def stopRunWithError (failedSlot : Option QueueSlotId) (positionTicks : Int) (error : String) :
    PlaybackRun :=
  run.endRun ⟨failedSlot, positionTicks, false, false, some error⟩

def runPosition : RunPosition where
  currentIdx := run.currentIdx
  queueLen := run.queueLen
  currentSlot := run.slotIdAt run.currentIdx
  jumpTargetIdx := run.runLifecycle.jumpTargetSlot.bind run.queue.slotIndex

def onMpvError (failure : MpvFailure) : Bool × PlaybackRun :=
  match failure with
  | .processExited =>
    (true, run.stopRunWithError run.activeSlotId run.lastValidPos
      "mpv process exited unexpectedly")
  | .other text =>
    match run.runLifecycle.loadFailed run.runPosition with
    | (.continues, lifecycle) => (false, { run with runLifecycle := lifecycle })
    | (.endRun failedSlot phase, lifecycle) =>
      let error :=
        match phase with
        | .beforeStart => "failed to start media: " ++ text
        | .afterStart => "failed to play media: " ++ text
      (true, { run with runLifecycle := lifecycle }.stopRunWithError failedSlot run.lastValidPos
        error)
  | .audioOutputInit =>
    if isClockedAudioError failure run.audioDevice.isSome then
      (true, run.stopRunWithError run.activeSlotId 0
        ("audio output failed to start (device: " ++ run.audioDevice.getD "" ++ ")"))
    else (false, run)

def shutdownStandalone (stoppedSlot : Option QueueSlotId) : PlaybackRun :=
  let completedRuntime :=
    (run.stopRuntime.or (run.activeItem.map (·.runtimeTicks))).getD 0
  let nearEnd := run.reporter.hasSession &&
    isNearEnd run.reporter.isAudio false run.lastValidPos completedRuntime
  run.endRun ⟨stoppedSlot, run.lastValidPos, nearEnd, false, none⟩

def shutdownQueue (stoppedSlot : Option QueueSlotId) : PlaybackRun :=
  run.endRun ⟨stoppedSlot, run.lastValidPos, run.stoppedNearEnd, run.stoppedNearEnd, none⟩

def shutdownRun (stoppedSlot : Option QueueSlotId) : PlaybackRun :=
  match run.origin with
  | .standalone => run.shutdownStandalone stoppedSlot
  | .queue => run.shutdownQueue stoppedSlot

def onShutdown : PlaybackRun :=
  let ended :=
    { run with stopSlot := none }.reportStopIfUnreported.shutdownRun
      (run.stopSlot.or run.activeSlotId)
  if run.quitAt.isNone then ended.send .mpvQuit else ended

def settleIdleJumpOnRestart (positionTicks : Int) :
    Option (QueueSlotId × Option Transition) × PlaybackRun :=
  match run.runLifecycle.jumpSettledOnRestart with
  | (none, _) => (none, run)
  | (some (slotId, transition), lifecycle) =>
    let run := { run with runLifecycle := lifecycle }
    match run.queue.slotIndex slotId with
    | none => (none, { run with runLifecycle := run.runLifecycle.disarmJump })
    | some index =>
      match run.setActiveIndex index with
      | (false, run) => (none, run)
      | (true, run) =>
        let run := { run with lastValidPos := positionTicks }.reportActiveItem.markReported .notSent
        (some (slotId, transition),
          { run with
            status :=
              { run.status with
                active := true
                runtimeTicks := (run.activeItem.map (·.runtimeTicks)).getD 0 } })

def initTracksOnce : PlaybackRun :=
  if run.tracksInitialized then run
  else
    { run with
      tracksInitialized := true
      runLifecycle := run.runLifecycle.takeResumeTicks.2 }

def onPlaybackRestart (answers : Answers) : PlaybackRun :=
  let run := { run with runLifecycle := run.runLifecycle.playbackStarted }
  let (settled, run) := run.settleIdleJumpOnRestart answers.positionTicks
  let run :=
    { run.send .outputStarted with pendingInitialPlaylistLayout := false }.initTracksOnce
  match settled with
  | some (slotId, transition) => run.emitTrackChanged slotId transition
  | none => run

def onTimePos (ticks : Int) (started : Bool) (duration : Option Int) : PlaybackRun :=
  let runtimeTicks := (duration.filter (· > 0)).getD run.status.runtimeTicks
  { run with
    lastValidPos := if started then ticks else run.lastValidPos
    status := { run.status with runtimeTicks := runtimeTicks } }

/-- Whether the run loop returns, and the run; `none` is a panic. -/
def handleMpvEvent (answers : Answers) : MpvEvent → Option (Bool × PlaybackRun)
  | .playlistPos pos => some (false, run.onPlaylistPosChanged pos answers.positionTicks)
  | .playlistCount count =>
    some (false,
      if run.loadIsReady then
        run.onPlaylistCountChanged (if count < 0 then u64Max else count.toNat)
      else run)
  | .timePos ticks started duration => some (false, run.onTimePos ticks started duration)
  | .playbackRestart => some (false, run.onPlaybackRestart answers)
  | .endFile reason =>
    (run.onEndFile answers reason).map fun (shouldContinue, run) =>
      (!shouldContinue && !run.status.active, run)
  | .nextUpPlay => some (false, { run with nextUpJump := true }.send .nextUpPlay)
  | .shutdown => some (true, run.onShutdown)
  | .failed failure => some (run.onMpvError failure)

def handleStopRequest (now : Instant) : PlaybackRun :=
  { run with quitAt := some now, stopSlot := run.activeSlotId }.pinStopRuntime

def finalizeQuit : PlaybackRun :=
  let run := if run.stopReportSent then run else run.markReported .sent
  let runtime := (run.stopRuntime.or (run.activeItem.map (·.runtimeTicks))).getD 0
  let (played, consume) :=
    quitTimeoutStopFlags run.origin run.reporter.isAudio run.lastValidPos runtime
      run.stoppedNearEnd
  run.endRun ⟨run.stopSlot.or run.activeSlotId, run.lastValidPos, played, consume, none⟩

end PlaybackRun

end Mbv.Player
