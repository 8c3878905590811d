import Mbv.Machine.Pending
import Mbv.Daemon.PlaybackIntent

namespace Mbv.Daemon

open Mbv.Queue Mbv.Player

inductive PlaybackOutput where
  | localPlayer
  | cast
  | embySession
deriving DecidableEq

/-- The player events that settle guarded intents, in the order the run sent them. A Stopped is
    owned unless it names a run the owner has left behind. -/
inductive PlayerReport where
  | trackChanged (slotId : QueueSlotId)
      (transition : Option (PlaybackRequestId × PlaybackGeneration))
  | outputStarted
  | pausedChanged (paused : Bool)
  | stopped (owned : Bool)
deriving DecidableEq

inductive RunCommand where
  | togglePause
  | submitQueue

/-- A live local run: mpv's pause flag, the pause events its startup gate still swallows, and
    whether it has yet to report that what was submitted started. -/
structure LocalRun where
  paused : Bool := false
  eventsToSkip : Nat := 0
  startPending : Bool := true
  commands : List RunCommand := []

/-- A Play whose item ids are being looked up off the event loop. -/
structure IntentLookup where
  connectionId : CtrlClientId
  requestId : PlaybackRequestId
  generation : PlaybackGeneration
  startIdx : Nat
deriving DecidableEq

def IntentLookup.identity (lookup : IntentLookup) : IntentIdentity :=
  ⟨lookup.connectionId, lookup.requestId, lookup.generation⟩

/-- What a submission to the player finds: a live run that can take it, or else a cold start whose
    startup gate swallows this many pause events. -/
structure Submission where
  reuses : Bool
  eventsToSkip : Nat

/-- The part of the daemon's event loop that guarded intents live in. -/
structure IntentLoop where
  intents : PlaybackIntentState := {}
  output : PlaybackOutput := .localPlayer
  hasEmby : Bool := true
  audioOnly : Bool := false
  queue : PlaybackQueue := .fromQueueItems [] none 0
  transitions : OwnerTransitionState := {}
  lookups : List IntentLookup := []
  statusPaused : Bool := false
  run : Option LocalRun := none
  reports : List PlayerReport := []

inductive RunMove where
  | started
  | restarted
  | executed
  | pauseChanged (paused : Bool)
  | moved (slotId : QueueSlotId) (transition : Option (PlaybackRequestId × PlaybackGeneration))
  | ended (stopped : Option Bool)

inductive LoopInput where
  | intent (connectionId : CtrlClientId) (intent : PlaybackIntent) (pipeOutput : Bool)
  | resolved (lookup : IntentLookup) (hasClient : Bool) (fetched : Option (List EmbyItem))
      (submission : Submission)
  | delivered (delay : Option Nat) (now : Instant)
  | recvTimeout (now : Instant) (connected : Bool)
  | disconnected (connectionId : CtrlClientId)
  | remoteLoaded (slotId : QueueSlotId)
  | remoteExpired
  | remoteRejected (transition : Transition)
  | jump (transition : Transition)
  | resetJumps
  | outputSelected (output : PlaybackOutput)
  | reconciled (hasEmby : Bool)
  | queueChanged (queue : PlaybackQueue)
  | submitted (submission : Submission)
  | togglePause
  | run (move : RunMove)

namespace IntentLoop

variable (loop : IntentLoop)

/-- `submit_queue_slots`: a live run takes the queue as a command, otherwise a fresh run starts.
    Either way the status mirror is seeded unpaused at once. -/
def submit (submission : Submission) : IntentLoop :=
  match loop.run, submission.reuses with
  | some run, true =>
    { loop with
      statusPaused := false
      run := some { run with
        startPending := true
        commands := run.commands ++ [.submitQueue] } }
  | replaced, _ =>
    { loop with
      statusPaused := false
      run := some { eventsToSkip := submission.eventsToSkip }
      reports := loop.reports ++ if replaced.isSome then [.stopped false] else [] }

/-- `Player::send_command(TogglePause)`: dropped when no run is alive. -/
def sendTogglePause : IntentLoop :=
  { loop with run := loop.run.map fun run =>
      { run with commands := run.commands ++ [.togglePause] } }

def resetSlotJumps : IntentLoop := { loop with transitions := loop.transitions.reset }

/-- `send_jump_or_cold_start` of a promoted transition. A remote output resolves it off the loop and
    a live run takes the jump; without a run the jumps are reset, and the cold start that follows is
    a submission of its own. -/
def sendJumpOrColdStart (dispatchNext : Option Transition) : IntentLoop :=
  if dispatchNext.isSome ∧ loop.output = .localPlayer ∧ loop.run.isNone then loop.resetSlotJumps
  else loop

def applyCurrent (asked : CurrentPlaybackIntent → Bool) : IntentLoop :=
  match loop.intents.current.filter asked with
  | none => loop
  | some current =>
    { loop with
      intents := (loop.intents.appliedIfCurrent current.connectionId current.requestId
        current.generation).2 }

def rejectCurrent (asked : CurrentPlaybackIntent → Bool) (reason : PlaybackIntentRejection) :
    IntentLoop :=
  match loop.intents.current.filter asked with
  | none => loop
  | some current =>
    { loop with
      intents := (loop.intents.rejectedIfCurrent current.connectionId current.requestId
        current.generation reason).2 }

/-- `handle_playback_intent`; the step a Next or Previous asks for is a `jump` of its own. -/
def handlePlaybackIntent (connectionId : CtrlClientId) (intent : PlaybackIntent)
    (pipeOutput : Bool) : IntentLoop :=
  let (intents, events) := loop.intents.accept connectionId intent pipeOutput
  let accepted := { loop with intents := intents }
  if events.any (·.outcome.isCoalesced) then accepted
  else
    match intent.action with
    | .play _ startIdx _ _ =>
      if loop.hasEmby then
        { accepted with
          intents := intents.markResolving intent.requestId
          lookups := loop.lookups ++
            [⟨connectionId, intent.requestId, intent.generation, startIdx⟩] }
      else accepted
    | .stop =>
      let stopped := accepted.resetSlotJumps
      { stopped with
        intents :=
          (intents.appliedIfCurrent connectionId intent.requestId intent.generation).2 }
    | .setPaused paused =>
      if loop.output ≠ .localPlayer then
        { accepted with
          intents :=
            (intents.appliedIfCurrent connectionId intent.requestId intent.generation).2 }
      else if loop.statusPaused ≠ paused then accepted.sendTogglePause
      else accepted
    | .next | .previous => accepted

def installResolvedQueue (startIdx : Nat) (fetched : List EmbyItem) : IntentLoop :=
  { loop with
    queue := .fromQueueItems (fetched.map .emby) (some (min startIdx (fetched.length - 1)))
      loop.queue.mint }

/-- `play_resolved_items`: a remote output takes the start slot, the local player the whole queue. -/
def playResolvedItems (lookup : IntentLookup) (fetched : List EmbyItem) (submission : Submission) :
    IntentLoop :=
  let installed := loop.installResolvedQueue lookup.startIdx fetched
  if loop.output = .localPlayer then installed.submit submission
  else
    match installed.queue.activeSlotId with
    | none => installed
    | some startSlot =>
      { installed with
        transitions := (loop.transitions.accept
          (.new lookup.requestId lookup.generation startSlot)).2 }

def handlePlaybackResolved (lookup : IntentLookup) (hasClient : Bool)
    (fetched : Option (List EmbyItem)) (submission : Submission) : IntentLoop :=
  let arrived := { loop with lookups := loop.lookups.erase lookup }
  let reject (reason : PlaybackIntentRejection) : IntentLoop :=
    { arrived with
      intents := (loop.intents.rejectedIfCurrent lookup.connectionId lookup.requestId
        lookup.generation reason).2 }
  if hasClient = false then
    { arrived with intents := loop.intents.invalidateConnection lookup.connectionId }
  else if loop.intents.isCurrent lookup.connectionId lookup.requestId lookup.generation = false then
    arrived
  else
    match fetched with
    | none => reject .resolutionFailed
    | some items =>
      if items.isEmpty then reject .emptyTarget
      else if loop.audioOnly ∧ ¬ items.all (·.isAudio) then reject .audioOnly
      else
        let starting := { arrived with intents := loop.intents.markStarting lookup.requestId }
        starting.resetSlotJumps.playResolvedItems lookup items submission

/-- `handle_track_changed`: a report of a slot the queue no longer holds is discarded. -/
def handleTrackChanged (slotId : QueueSlotId)
    (transition : Option (PlaybackRequestId × PlaybackGeneration)) : IntentLoop :=
  match loop.queue.slot slotId with
  | none => loop
  | some slot =>
    let settled :=
      match transition with
      | none => loop
      | some (requestId, _) =>
        match loop.transitions.settle requestId slotId with
        | (.settled dispatchNext, transitions) =>
          { loop with transitions := transitions }.sendJumpOrColdStart dispatchNext
        | (.ignored, _) => loop
    settled.applyCurrent (·.action.plays slot.item.id)

def handlePlayerReport (delay : Option Nat) (now : Instant) : PlayerReport → IntentLoop
  | .trackChanged slotId transition => loop.handleTrackChanged slotId transition
  | .outputStarted => { loop with intents := (loop.intents.outputStartedIfCurrent delay now).2 }
  | .pausedChanged paused => loop.applyCurrent (·.action = .setPaused paused)
  | .stopped owned => if owned then loop.applyCurrent (·.action = .stop) else loop

/-- `expire_and_redispatch` and `expire_remote_transition`: the expired transition takes the intent
    it belongs to, by request alone, with it. -/
def expired (expiry : Option (Transition × Option Transition)) : IntentLoop :=
  match expiry with
  | none => loop
  | some (expired, dispatchNext) =>
    (loop.rejectCurrent (·.requestId = expired.requestId) .unavailable).sendJumpOrColdStart
      dispatchNext

def expireAndRedispatch (now : Instant) : IntentLoop :=
  match loop.transitions.expire now with
  | (.pending, transitions) => { loop with transitions := transitions }
  | (.expired expired dispatchNext, transitions) =>
    { loop with transitions := transitions }.expired (some (expired, dispatchNext))

/-- `on_recv_timeout`: an intent whose connection is gone by its deadline is dropped. -/
def onRecvTimeout (now : Instant) (connected : Bool) : IntentLoop :=
  let settled :=
    match loop.intents.settleBufferingIfDue now with
    | (none, _) => loop
    | (some (connectionId, _), intents) =>
      { loop with
        intents := if connected then intents else intents.invalidateConnection connectionId }
  settled.expireAndRedispatch now

/-- `settle_remote_transition`: only the transition the loaded item belongs to settles. -/
def settleRemoteTransition (loadedSlot : QueueSlotId) : IntentLoop :=
  match loop.transitions.inFlight.filter (·.target = loadedSlot) with
  | none => loop
  | some inFlight =>
    let settled :=
      match loop.transitions.settle inFlight.requestId loadedSlot with
      | (.settled dispatchNext, transitions) =>
        { loop with transitions := transitions }.sendJumpOrColdStart dispatchNext
      | (.ignored, _) => loop
    settled.applyCurrent fun current =>
      current.requestId = inFlight.requestId && current.action.isPlay

def dispatchSlotJump (transition : Transition) : IntentLoop :=
  match loop.transitions.accept transition with
  | (.dispatchNow sent, transitions) =>
    { loop with transitions := transitions }.sendJumpOrColdStart (some sent)
  | (.queued _, transitions) => { loop with transitions := transitions }

/-- mpv's pause flag moved: the status mirror follows, and the event goes out unless the startup
    gate swallows it. -/
def pauseTo (run : LocalRun) (paused : Bool) : IntentLoop :=
  if run.paused = paused then { loop with run := some run }
  else
    { loop with
      statusPaused := paused
      run := some { run with paused := paused, eventsToSkip := run.eventsToSkip - 1 }
      reports := if run.eventsToSkip = 0 then loop.reports ++ [.pausedChanged paused]
        else loop.reports }

def runMove (move : RunMove) : IntentLoop :=
  match loop.run with
  | none => loop
  | some run =>
    match move with
    | .started =>
      { loop with
        run := some { run with startPending := false, eventsToSkip := 0 }
        reports := loop.reports ++ [.outputStarted] }
    | .restarted =>
      { loop with
        run := some { run with eventsToSkip := 0 }
        reports := loop.reports ++ [.outputStarted] }
    | .executed =>
      match run.commands with
      | [] => loop
      | .togglePause :: commands =>
        loop.pauseTo { run with commands := commands } (!run.paused)
      | .submitQueue :: commands => loop.pauseTo { run with commands := commands } false
    | .pauseChanged paused => loop.pauseTo run paused
    | .moved slotId transition =>
      { loop with reports := loop.reports ++ [.trackChanged slotId transition] }
    | .ended stopped =>
      { loop with run := none, reports := loop.reports ++ (stopped.map .stopped).toList }

def step (loop : IntentLoop) : LoopInput → IntentLoop
  | .intent connectionId intent pipeOutput =>
    loop.handlePlaybackIntent connectionId intent pipeOutput
  | .resolved lookup hasClient fetched submission =>
    if lookup ∈ loop.lookups then loop.handlePlaybackResolved lookup hasClient fetched submission
    else loop
  | .delivered delay now =>
    match loop.reports with
    | [] => loop
    | report :: reports => { loop with reports := reports }.handlePlayerReport delay now report
  | .recvTimeout now connected => loop.onRecvTimeout now connected
  | .disconnected connectionId =>
    { loop with intents := loop.intents.invalidateConnection connectionId }
  | .remoteLoaded slotId => loop.settleRemoteTransition slotId
  | .remoteExpired =>
    let (expiry, transitions) := loop.transitions.expireNow
    { loop with transitions := transitions }.expired expiry
  | .remoteRejected transition =>
    loop.rejectCurrent
      (fun current => current.requestId = transition.requestId &&
        current.generation = transition.generation) .resolutionFailed
  | .jump transition => loop.dispatchSlotJump transition
  | .resetJumps => loop.resetSlotJumps
  | .outputSelected output => { loop.resetSlotJumps with output := output }
  | .reconciled hasEmby => { loop with hasEmby := hasEmby }
  | .queueChanged queue => { loop with queue := queue }
  | .submitted submission => loop.submit submission
  | .togglePause => loop.sendTogglePause
  | .run move => loop.runMove move

def machine : Machine IntentLoop LoopInput := ⟨step⟩

end IntentLoop

end Mbv.Daemon
