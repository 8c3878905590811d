import Mbv.Player.Lifecycle

namespace Mbv.Player

open Mbv.Queue

inductive PlaybackOrigin where
  | standalone
  | queue
deriving DecidableEq

inductive EndFileReason where
  | eof
  | stop
  | quit
  | redirect
deriving DecidableEq

inductive MpvFailure where
  | audioOutputInit
  | processExited
  | other (text : String)
deriving DecidableEq

def MpvFailure.text : MpvFailure → String
  | audioOutputInit => "audio output initialization failed"
  | processExited => "mpv process exited"
  | other text => text

inductive LoadState where
  | ready
  | drainingReplacedFile
deriving DecidableEq

inductive StopReport where
  | notSent
  | sent
deriving DecidableEq

structure ItemLifecycleState where
  loadState : LoadState := .ready
  stopReport : StopReport := .notSent
deriving DecidableEq

def ItemLifecycleState.onDrained (item : ItemLifecycleState) : ItemLifecycleState :=
  match item.loadState with
  | .ready => item
  | .drainingReplacedFile => { loadState := .ready, stopReport := .notSent }

inductive StopAction where
  | reportedNow (report : StopReport)
  | deferred
  | nothingPlaying

structure SessionReporter where
  itemId : String := ""
  isAudio : Bool := false
deriving DecidableEq

namespace SessionReporter

def hasSession (reporter : SessionReporter) : Bool := reporter.itemId != ""

def startItem (_reporter : SessionReporter) (item : EmbyItem) : SessionReporter :=
  { itemId := item.id, isAudio := item.isAudio }

def clearSession (reporter : SessionReporter) : SessionReporter := { reporter with itemId := "" }

end SessionReporter

structure PlayerStatus where
  active : Bool := true
  currentIdx : Nat := 0
  queueLen : Nat := 0
  runtimeTicks : Int := 0
  sequenceGeneration : PlaybackGeneration := 0
deriving DecidableEq

def PlayerStatus.seedFromItem (status : PlayerStatus) (item : QueueItem) (idx queueLen : Nat) :
    PlayerStatus :=
  { status with runtimeTicks := item.runtimeTicks, currentIdx := idx, queueLen := queueLen }

structure StopOutcome where
  slotId : Option QueueSlotId
  positionTicks : Int
  played : Bool
  consume : Bool
  error : Option String
deriving DecidableEq

inductive PlayerEvent where
  | stopped (runIdentity : PlaybackGeneration) (outcome : StopOutcome)
  | trackChanged (slotId : QueueSlotId)
      (transition : Option (PlaybackRequestId × PlaybackGeneration))
  | trackCompleted (slotId : QueueSlotId) (runIdentity : PlaybackGeneration) (positionTicks : Int)
      (played consume : Bool)
  | outputStarted
  | nextUpPlay
  | queueDesynced (message : String)
  | commandRejected (message : String)
  | mpvQuit
deriving DecidableEq

inductive LoadMode where
  | replace
  | append
  | appendPlay
  | insertAt (index : Nat)
deriving DecidableEq

/-- The commands that edit mpv's playlist, with each load named by the slot it is for. -/
inductive MpvCommand where
  | stop
  | playlistClear
  | playlistRemove (index : Nat)
  | playlistMove (index1 index2 : Nat)
  | loadfile (slotId : QueueSlotId) (mode : LoadMode)
deriving DecidableEq

/-- What mpv and the services answer while the run handles one input: a failed call carries its
    error text. -/
structure Answers where
  prepareSource : Option String := none
  loadfile : Option String := none
  writePlaylistPos : Option String := none
  playlistPos : Int := -1
  positionTicks : Int := 0
  /-- The resume position the seam resolves for a jump's target. -/
  jumpTicks : Option Int := none
  /-- Emby's position and played state for an item id. -/
  refreshed : List (String × (Int × Bool)) := []

structure PlaybackRun where
  origin : PlaybackOrigin := .queue
  runIdentity : PlaybackGeneration := 0
  audioDevice : Option String := none
  reporter : SessionReporter := {}
  events : List PlayerEvent := []
  mpv : List MpvCommand := []
  status : PlayerStatus := {}
  queue : ExecutionSequence := {}
  runLifecycle : RunLifecycle := {}
  currentIdx : Nat := 0
  stopSlot : Option QueueSlotId := none
  stopRuntime : Option Int := none
  quitAt : Option Instant := none
  lastValidPos : Int := 0
  tracksInitialized : Bool := false
  itemLifecycle : ItemLifecycleState := {}
  pendingInitialPlaylistLayout : Bool := false
  nextUpJump : Bool := false
  stoppedNearEnd : Bool := false
deriving DecidableEq

def shouldResume (positionTicks runtimeTicks : Int) : Bool :=
  if positionTicks ≤ 0 then false
  else if runtimeTicks > 0 then positionTicks * 100 ≥ runtimeTicks * 1
  else true

/-- `i64::try_from(duration.unwrap_or(0)).unwrap_or(i64::MAX)`. -/
def durationAsRuntime (duration : Option UInt64) : Int :=
  min (duration.getD 0).toNat (2 ^ 63 - 1 : Nat)

def activeItemLastValidPos : Option QueueItem → Int
  | some (.emby item) => if item.isAudio then 0 else item.playbackPositionTicks
  | some (.feed entry) =>
    if shouldResume entry.positionTicks (durationAsRuntime entry.durationTicks) then
      entry.positionTicks
    else 0
  | some (.audiobookshelf item) =>
    if shouldResume item.playbackPositionTicks (durationAsRuntime item.duration) then
      item.playbackPositionTicks
    else 0
  | some (.twitch _) | none => 0

def isNearEnd (isAudio natural : Bool) (lastValidPos runtimeTicks : Int) : Bool :=
  !natural && !isAudio && runtimeTicks > 0 && (lastValidPos * 20).tdiv runtimeTicks ≥ 19

/-- Emby's position for every video of its own, the beginning for one it does not answer for; every
    other item keeps its position. -/
def refreshResume (refreshed : List (String × (Int × Bool))) : QueueItem → QueueItem
  | .emby item =>
    if item.isAudio then .emby item
    else
      let (positionTicks, played) := (refreshed.lookup item.id).getD (0, false)
      .emby { item with playbackPositionTicks := positionTicks, played := played }
  | other => other

namespace PlaybackRun

variable (run : PlaybackRun)

def queueLen : Nat := run.queue.len

def slotIdAt (idx : Nat) : Option QueueSlotId := run.queue.slots[idx]?.map (·.slotId)

def activeItem : Option QueueItem := run.queue.activeSlot.map (·.item)

def activeSlotId : Option QueueSlotId := run.queue.activeSlotId

def send (event : PlayerEvent) : PlaybackRun := { run with events := run.events ++ [event] }

def command (command : MpvCommand) : PlaybackRun := { run with mpv := run.mpv ++ [command] }

def markReported (report : StopReport) : PlaybackRun :=
  { run with itemLifecycle := { run.itemLifecycle with stopReport := report } }

def isUnreported : Bool := run.itemLifecycle.stopReport = .notSent

def reportStopIfUnreported : PlaybackRun :=
  if run.isUnreported then run.markReported .sent else run

def stopReportSent : Bool := run.itemLifecycle.stopReport = .sent

def loadIsReady : Bool := run.itemLifecycle.loadState = .ready

def acceptReplacement : PlaybackRun :=
  { run with itemLifecycle := { run.itemLifecycle with loadState := .drainingReplacedFile } }

def onDrained : PlaybackRun := { run with itemLifecycle := run.itemLifecycle.onDrained }

def syncStatusPosition : PlaybackRun :=
  { run with status := { run.status with currentIdx := run.currentIdx, queueLen := run.queueLen } }

/-- The run's single exit: only the first close of a run identity sends `Stopped`. -/
def endRun (outcome : StopOutcome) : PlaybackRun :=
  match run.runLifecycle.close run.runIdentity with
  | (false, _) => run
  | (true, lifecycle) =>
    { run with
      runLifecycle := lifecycle
      status := { run.status with active := false } }.send (.stopped run.runIdentity outcome)

def setActiveIndex (idx : Nat) : Bool × PlaybackRun :=
  match run.slotIdAt idx with
  | none => (false, run)
  | some slotId =>
    match run.queue.setActiveSlot slotId with
    | (false, _) => (false, run)
    | (true, queue) => (true, { run with queue := queue, currentIdx := idx }.syncStatusPosition)

def loadActiveItemState : PlaybackRun :=
  { run with lastValidPos := activeItemLastValidPos run.activeItem }

def cancelPendingQuit : PlaybackRun :=
  { run with quitAt := none, stopSlot := none, stopRuntime := none }

def pinStopRuntime : PlaybackRun :=
  { run with
    stopRuntime := ((run.activeItem.map (·.runtimeTicks)).filter (· > 0)).or
      (if run.status.runtimeTicks > 0 then some run.status.runtimeTicks else none) }

def beginItemLifecycle (action : StopAction) : PlaybackRun :=
  let report :=
    match action with
    | .reportedNow report => report
    | .deferred | .nothingPlaying => .notSent
  let run := (run.markReported report).acceptReplacement
  { run with
    tracksInitialized := false
    runLifecycle := run.runLifecycle.disarmJump
    nextUpJump := false
    stoppedNearEnd := false }

def startReporting (item : QueueItem) : PlaybackRun :=
  { run with
    reporter :=
      match item with
      | .emby emby => run.reporter.startItem emby
      | _ => run.reporter.clearSession }

def reportActiveItem : PlaybackRun :=
  match run.activeItem with
  | some item => run.startReporting item
  | none => { run with reporter := run.reporter.clearSession }

def setNextItemStatus (nextItem : QueueItem) : PlaybackRun :=
  { run with
    status :=
      { run.status with
        runtimeTicks := nextItem.runtimeTicks
        currentIdx := run.currentIdx
        queueLen := run.queueLen } }

def emitTrackChanged (slotId : QueueSlotId) (transition : Option Transition) : PlaybackRun :=
  run.send (.trackChanged slotId ((transition.filter (·.target = slotId)).map fun transition =>
    (transition.requestId, transition.generation)))

/-- Park the run after a failed load: report the outgoing item, stop mpv, clear its playlist and
    wait for the teardown's end-file. -/
def parkForFailedLoad : PlaybackRun :=
  let run := (run.reportStopIfUnreported.command .stop).command .playlistClear
  let run := run.beginItemLifecycle (.reportedNow run.itemLifecycle.stopReport)
  { run with reporter := run.reporter.clearSession }

def installActiveProjection (answers : Answers) (slotId : QueueSlotId) :
    Option String × PlaybackRun :=
  let run := (run.command .playlistClear).command (.loadfile slotId .replace)
  match answers.loadfile with
  | some _ =>
    (some "service unavailable", { run with status := { run.status with active := false } })
  | none => (none, { run.acceptReplacement with pendingInitialPlaylistLayout := false })

def selectActiveSlot (answers : Answers) (slotId : QueueSlotId) : Option String × PlaybackRun :=
  match run.queue.slot slotId with
  | none => (some "unexpected server response", run)
  | some _ =>
    match answers.prepareSource with
    | some error => (some error, run)
    | none =>
      match run.installActiveProjection answers slotId with
      | (some error, run) => (some error, run)
      | (none, run) =>
        let run := { run with queue := (run.queue.setActiveSlot slotId).2 }
        let run :=
          { run with currentIdx := (run.queue.slotIndex slotId).getD run.currentIdx }
        (none, run.syncStatusPosition.loadActiveItemState)

end PlaybackRun

end Mbv.Player
