import Mbv.Machine.Run
import Mbv.Player.Run.Events

namespace Mbv.Player

open Mbv.Queue

structure RunInit where
  startIdx : Nat
  origin : PlaybackOrigin
  reporter : SessionReporter := {}
  audioDevice : Option String := none
  status : PlayerStatus := {}

namespace PlaybackRun

/-- `none` is the failed expectation that the queue has an active slot. -/
def initFromQueue (queue : ExecutionSequence) (init : RunInit) : Option PlaybackRun :=
  queue.activeSlot.map fun initial =>
    { origin := init.origin
      runIdentity := init.status.sequenceGeneration
      audioDevice := init.audioDevice
      reporter := init.reporter
      status := init.status
      queue := queue
      runLifecycle := .forQueue queue
      currentIdx := min init.startIdx (queue.len - 1)
      lastValidPos := activeItemLastValidPos (some initial.item)
      pendingInitialPlaylistLayout := min init.startIdx (queue.len - 1) > 0 }

def newFromSlotItems (items : List ExecSlot) (init : RunInit) : Option PlaybackRun :=
  (buildQueue items init.startIdx).bind fun queue => initFromQueue queue init

/-- The teardown of a panicked run names no slot. -/
def panicked (run : PlaybackRun) (identity : PlaybackGeneration) (message : String) : PlaybackRun :=
  run.send (.stopped identity ⟨none, 0, false, false, some message⟩)

end PlaybackRun

structure RunThread where
  run : PlaybackRun
  exited : Bool := false

inductive RunInput where
  | command (answers : Answers) (command : PlayerCommand)
  | stopRequest (now : Instant)
  | quitTimer (now : Instant)
  | event (answers : Answers) (event : MpvEvent)
  /-- The Controller moves the shared status to a new sequence generation. -/
  | advanceSequenceGeneration
  /-- The Controller seeds the shared status of a submission the live run was sent. -/
  | seedStatus (item : QueueItem) (idx queueLen : Nat)

def quitTimeout : Nat := 200000000

def PlayerCommand.identityDuring (command : PlayerCommand) (run : PlaybackRun) :
    PlaybackGeneration :=
  match command with
  | .submitQueue items _ =>
    if items.isEmpty then run.runIdentity else run.status.sequenceGeneration
  | _ => run.runIdentity

namespace RunThread

def step (thread : RunThread) (input : RunInput) : RunThread :=
  if thread.exited then thread
  else
    let run := thread.run
    match input with
    | .command answers command =>
      match run.handleCommand answers command with
      | some (_, run) => { run := run }
      | none =>
        { run := run.panicked (command.identityDuring run)
            "execution sequence slot identities must be unique"
          exited := true }
    | .stopRequest now =>
      { run := if run.quitAt.isNone then run.handleStopRequest now else run }
    | .quitTimer now =>
      match run.quitAt with
      | some since =>
        if now - since > quitTimeout then { run := run.finalizeQuit, exited := true }
        else { run := run }
      | none => { run := run }
    | .event answers event =>
      match run.handleMpvEvent answers event with
      | some (exits, run) => { run := run, exited := exits }
      | none =>
        { run := run.panicked run.runIdentity
            "active item must exist after successful set_active_index"
          exited := true }
    | .advanceSequenceGeneration =>
      { run :=
          { run with
            status :=
              { run.status with
                sequenceGeneration := saturatingSucc run.status.sequenceGeneration } } }
    | .seedStatus item idx queueLen =>
      { run := { run with status := run.status.seedFromItem item idx queueLen } }

def machine : Machine RunThread RunInput := ⟨step⟩

end RunThread

end Mbv.Player
