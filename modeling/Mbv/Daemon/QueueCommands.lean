import Mbv.Daemon.ObservedSlot
import Mbv.Daemon.ClientRegistry
import Mbv.Output.SessionOwner

namespace Mbv.Daemon

open Mbv.Queue Mbv.Player Mbv.Output

abbrev QueueLineage := Nat

abbrev QueueOpId := UInt64

inductive DaemonRole where
  | local
  | packaged
deriving DecidableEq

structure PendingCastResolve where
  transition : Transition
  startTicks : Int
  origin : Option CtrlClientId

inductive OwnerOutput where
  | local
  | cast
  | embySession (session : EmbySessionOutput)

inductive PlayerCall where
  | sendCommand (command : PlayerCommand)
  | submitQueueSlots (items : List ExecSlot) (startIdx : Nat) (startTicks : Option Int)
  | setInitialQueue (items : List QueueItem) (cursor : Nat)
  | playQueue (items : List QueueItem) (startIdx : Nat)
  | advanceSequenceGeneration
  | stop

/-- What a handler tells Clients. A slot the Session cannot play is a `CommandRejected` too, to the
    client the load is for or to every client. -/
inductive OwnerMessage where
  | commandRejected (client : CtrlClientId) (reason : String)
  | queueOpResult (client : CtrlClientId) (op : QueueOpId) (rejection : Option String)
  | queueSnapshot (client : CtrlClientId)
  | slotRejected (client : Option CtrlClientId) (admission : SessionAdmission)
  | playbackIntent (client : CtrlClientId) (event : PlaybackIntentEvent)
  | queueState (except : Option CtrlClientId)

/-- The owner, with what it asked of the player, of the outputs and told Clients so far. `op` is the
    op that the command in hand has still to answer. -/
structure QueueOwner where
  core : PlayerOwnerState
  op : Option QueueOpId := none
  source : QueueSource := .unknown
  lineage : QueueLineage := 0
  queuedTransitionOrigin : Option (PlaybackRequestId × CtrlClientId) := none
  intents : PlaybackIntentState := {}
  output : OwnerOutput := .local
  pendingCastResolve : Option PendingCastResolve := none
  calls : List PlayerCall := []
  resolves : List PendingCastResolve := []
  jobs : List SessionJob := []
  sent : List OwnerMessage := []

/-- The peer a command came from and what the daemon reads while it handles it. -/
structure CommandContext where
  client : CtrlClientId
  control : ControlContext := {}
  supportsSourceUpdate : Bool := false
  role : DaemonRole := .local
  op : Option QueueOpId := none
  /-- A live run takes commands. -/
  live : Bool := true
  now : Ticks := 0

namespace CommandContext

variable (ctx : CommandContext)

def exceptOpClient : Option CtrlClientId := ctx.op.map fun _ => ctx.client

def admitsSubmission (items : List ExecSlot) : Bool :=
  !(submitQueueSlots ctx.control items 0).isEmpty

end CommandContext

def resumeTicksForReplaceStart (queue : PlaybackQueue) (slotId : QueueSlotId)
    (startTicks : Option Int) : Option Int :=
  match startTicks with
  | some ticks => if 0 < ticks then some ticks else none
  | none => resumeTicksForSlot queue slotId

namespace QueueOwner

variable (owner : QueueOwner)

def tell (message : OwnerMessage) : QueueOwner := { owner with sent := owner.sent ++ [message] }

def call (call : PlayerCall) : QueueOwner := { owner with calls := owner.calls ++ [call] }

def setQueue (queue : PlaybackQueue) : QueueOwner :=
  { owner with core := { owner.core with queue := queue } }

def setTransitions (transitions : OwnerTransitionState) : QueueOwner :=
  { owner with core := { owner.core with transitions := transitions } }

def noteObservedActiveSlot (slotId : Option QueueSlotId) : QueueOwner :=
  { owner with core := owner.core.noteObservedActiveSlot slotId }

def broadcastQueueState (except : Option CtrlClientId) : QueueOwner :=
  owner.tell (.queueState except)

/-- The rejection; without an op the Client's view is resynced too. -/
def rejectCommand (ctx : CommandContext) (reason : String) : QueueOwner :=
  match owner.op with
  | some op => { owner with op := none }.tell (.queueOpResult ctx.client op (some reason))
  | none => (owner.tell (.commandRejected ctx.client reason)).tell (.queueSnapshot ctx.client)

/-- The source dies when a `u64` no longer holds the lineage. -/
def mintQueueLineage : QueueOwner := { owner with lineage := owner.lineage + 1 }

def resetSlotJumps : QueueOwner :=
  { owner with core := Daemon.resetSlotJumps owner.core, queuedTransitionOrigin := none }

def rejectIntent (asked : CurrentPlaybackIntent → Bool) (reason : PlaybackIntentRejection) :
    QueueOwner :=
  match owner.intents.current.filter asked with
  | none => owner
  | some current =>
    match owner.intents.rejectedIfCurrent current.connectionId current.requestId
        current.generation reason with
    | (some event, intents) =>
      { owner with intents := intents }.tell (.playbackIntent current.connectionId event)
    | (none, intents) => { owner with intents := intents }

def takePromotedOrigin (promoted : Option Transition) : Option CtrlClientId × QueueOwner :=
  ((owner.queuedTransitionOrigin.filter fun origin =>
      promoted.any fun transition => transition.requestId = origin.1).map (·.2),
    { owner with queuedTransitionOrigin := none })

/-! ### Loads on a remote output -/

/-- The target becomes the active slot while its source is resolved. -/
def dispatchCastLoad (transition : Transition) (startTicks : Int)
    (origin : Option CtrlClientId) : QueueOwner :=
  match owner.core.queue.slot transition.target with
  | none => owner
  | some _ =>
    let pending : PendingCastResolve := ⟨transition, startTicks, origin⟩
    { owner.setQueue (owner.core.queue.setActiveSlot transition.target).2 with
      pendingCastResolve := some pending
      resolves := owner.resolves ++ [pending] }

def onSession (session : EmbySessionOutput) : SessionOwner :=
  { core := owner.core, session := session }

def takeLoad (loaded : SessionOwner) : QueueOwner :=
  { owner with
    core := loaded.core
    output := .embySession loaded.session
    jobs := owner.jobs ++ loaded.jobs
    sent := owner.sent ++ loaded.records.filterMap fun
      | .rejected admission => some (.slotRejected none admission)
      | _ => none }

/-- A slot the Session cannot play is reported and expires its transition; what that promotes is
    loaded in its turn, which `promotions` bounds. -/
def dispatchWithin : Nat → QueueOwner → EmbySessionOutput → Transition → Int →
    Option CtrlClientId → Ticks → QueueOwner
  | promotions, owner, session, transition, startTicks, origin, now =>
    match (owner.onSession session).loadTarget transition.target with
    | .absent => owner
    | .plays itemId runtimeTicks sessionId =>
      owner.takeLoad ((owner.onSession session).putOnDevice transition.target startTicks itemId
        runtimeTicks sessionId now)
    | .rejected admission =>
      let rejected := (owner.rejectIntent (fun current =>
        current.requestId = transition.requestId && current.generation = transition.generation)
        .resolutionFailed).tell (.slotRejected origin admission)
      match rejected.core.transitions.expireNow with
      | (none, transitions) => (rejected.setTransitions transitions).broadcastQueueState none
      | (some (expired, promoted), transitions) =>
        let (origin, expired) := ((rejected.setTransitions transitions).rejectIntent (fun current =>
          current.requestId = expired.requestId) .unavailable).takePromotedOrigin promoted
        match promoted with
        | none => expired.broadcastQueueState none
        | some next =>
          match promotions with
          | 0 => expired
          | promotions + 1 =>
            dispatchWithin promotions expired session next
              ((resumeTicksForSlot expired.core.queue next.target).getD 0) origin now

def dispatchSession (session : EmbySessionOutput) (transition : Transition) (startTicks : Int)
    (origin : Option CtrlClientId) (now : Ticks) : QueueOwner :=
  dispatchWithin (if owner.core.transitions.queuedLatest.isSome then 1 else 0) owner session
    transition startTicks origin now

def dispatchAccepted (transition : Transition) (startTicks : Int)
    (origin : Option CtrlClientId) (now : Ticks) : QueueOwner :=
  match owner.core.transitions.accept transition with
  | (.queued _, transitions) => owner.setTransitions transitions
  | (.dispatchNow accepted, transitions) =>
    let owner := owner.setTransitions transitions
    match owner.output with
    | .local => owner
    | .cast => owner.dispatchCastLoad accepted startTicks origin
    | .embySession session => owner.dispatchSession session accepted startTicks origin now

def jumpOrColdStart (ctx : CommandContext) (transition : Transition) : QueueOwner :=
  let target := transition.target
  if ctx.live then
    owner.call (.sendCommand (.jumpTo target transition.requestId transition.generation
      (resumeTicksForSlot owner.core.queue target)))
  else
    let owner := owner.resetSlotJumps
    match owner.core.queue.slotIndex target with
    | none => owner
    | some startIdx =>
      let items := slotPairs owner.core.queue
      let submitted := owner.call (.submitQueueSlots items startIdx none)
      if ctx.admitsSubmission items then
        (submitted.setQueue (submitted.core.queue.setActiveSlot target).2).noteObservedActiveSlot
          none
      else submitted

def sendJumpOrColdStart (ctx : CommandContext) (transition : Transition)
    (origin : Option CtrlClientId) : QueueOwner :=
  let resumeTicks := (resumeTicksForSlot owner.core.queue transition.target).getD 0
  match owner.output with
  | .local => owner.jumpOrColdStart ctx transition
  | .cast => owner.dispatchCastLoad transition resumeTicks origin
  | .embySession session => owner.dispatchSession session transition resumeTicks origin ctx.now

def dispatchSlotJump (ctx : CommandContext) (transition : Transition)
    (except : Option CtrlClientId) : QueueOwner :=
  let dispatched :=
    match owner.core.transitions.accept transition with
    | (.dispatchNow accepted, transitions) =>
      (owner.setTransitions transitions).sendJumpOrColdStart ctx accepted (some ctx.client)
    | (.queued superseded, transitions) =>
      let queued := owner.setTransitions transitions
      let told :=
        match superseded, owner.queuedTransitionOrigin with
        | some old, some (requestId, client) =>
          if requestId = old.requestId then
            queued.tell (.playbackIntent client ⟨old.requestId, old.generation, .superseded⟩)
          else queued
        | _, _ => queued
      { told with queuedTransitionOrigin := some (transition.requestId, ctx.client) }
  dispatched.broadcastQueueState except

/-! ### The queue commands -/

def handleAdoptQueue (ctx : CommandContext) (items : List QueueItem) (cursor : Nat)
    (newSource : QueueSource) : QueueOwner :=
  if !owner.core.queue.isEmpty then
    owner.rejectCommand ctx "daemon already has a queue; adoption skipped"
  else
    match ctx.control.transportRejection items with
    | some reason => owner.rejectCommand ctx reason
    | none =>
      let (items, nextCursor) := ctx.control.admitQueue items (some cursor) id
      let owner := (owner.call (.setInitialQueue items nextCursor)).resetSlotJumps
      let owner := owner.setQueue (.fromQueueItems items (some nextCursor) owner.core.queue.mint)
      { owner with source := newSource }.mintQueueLineage.broadcastQueueState none

def handleQueueSourceUpdate (ctx : CommandContext) (newSource : QueueSource)
    (cmdLineage : QueueLineage) : QueueOwner :=
  if !ctx.supportsSourceUpdate then
    owner.rejectCommand ctx "peer did not negotiate owner queue-load capability"
  else if cmdLineage ≠ owner.lineage then
    owner.rejectCommand ctx "queue source update rejected: owner queue lineage changed"
  else { owner with source := newSource }.broadcastQueueState ctx.exceptOpClient

def installReplacedQueue (slots : List (QueueSlotId × QueueItem)) (nextCursor : Nat)
    (newSource : QueueSource) : QueueOwner :=
  let owner := owner.setQueue (Daemon.installReplacedQueue owner.core.queue slots nextCursor)
  { owner with source := newSource }.mintQueueLineage.resetSlotJumps

/-- A remote output loads only the start slot, as a transition the owner names. -/
def replaceOnRemote (ctx : CommandContext) (startTicks : Option Int) : QueueOwner :=
  match owner.core.queue.activeSlotId with
  | none => owner
  | some startSlot =>
    let (identity, transitions) := owner.core.transitions.mintLocalId
    let loaded := (owner.setTransitions transitions).dispatchAccepted
      (.new identity.1 identity.2 startSlot)
      ((resumeTicksForReplaceStart owner.core.queue startSlot startTicks).getD 0)
      (some ctx.client) ctx.now
    (loaded.noteObservedActiveSlot none).broadcastQueueState ctx.exceptOpClient

def handleQueueReplace (ctx : CommandContext) (request : QueueReplace) (startTicks : Option Int)
    (newSource : QueueSource) : QueueOwner :=
  match request.prepareReplacementSlots ctx.control with
  | .error reason => owner.rejectCommand ctx reason
  | .ok (slots, nextCursor) =>
    let owner := owner.installReplacedQueue slots nextCursor newSource
    match owner.output with
    | .cast | .embySession _ => owner.replaceOnRemote ctx startTicks
    | .local =>
      let owner := owner.call
        (.submitQueueSlots (slotPairs owner.core.queue) nextCursor startTicks)
      (owner.noteObservedActiveSlot none).broadcastQueueState ctx.exceptOpClient

def publishes (queue : PlaybackQueue) : QueueEdit → Bool
  | .append _ request => !request.items.isEmpty
  | .removeSlots slotIds => !(removeHeldSlots queue slotIds).1.isEmpty
  | .shuffle draw pinActiveFirst =>
    !(handleQueueShuffle queue draw pinActiveFirst).sent.isEmpty
  | .removeSlot _ | .moveSlot .. | .trackCompleted .. => true

/-- An edit that leaves no slot submits the empty queue and stops the player. -/
def sendEdit (queue : PlaybackQueue) (sent : List PlayerCommand) : List PlayerCall :=
  if sent = [clearPlayerQueue] ∧ queue.isEmpty then
    [.advanceSequenceGeneration, .sendCommand clearPlayerQueue, .stop]
  else sent.map .sendCommand

def handleQueueEdit (ctx : CommandContext) (edit : QueueEdit) : QueueOwner :=
  let reply := edit.handle owner.core.queue
  match reply.rejection with
  | some reason => owner.rejectCommand ctx reason
  | none =>
    if publishes owner.core.queue edit then
      let edited := (owner.setQueue reply.queue).broadcastQueueState ctx.exceptOpClient
      let settled := if edit.interrupts owner.core.queue then edited.resetSlotJumps else edited
      { settled with calls := settled.calls ++ sendEdit reply.queue reply.sent }
    else owner

def handleQueueAppend (ctx : CommandContext) (request : QueueAppend) : QueueOwner :=
  owner.handleQueueEdit ctx (.append ctx.control request)

def handleQueueRemoveSlot (ctx : CommandContext) (slotId : QueueSlotId) : QueueOwner :=
  owner.handleQueueEdit ctx (.removeSlot slotId)

def handleQueueRemoveSlots (ctx : CommandContext) (slotIds : List QueueSlotId) : QueueOwner :=
  owner.handleQueueEdit ctx (.removeSlots slotIds)

def handleQueueMoveSlot (ctx : CommandContext) (slotId : QueueSlotId) (toIndex : Nat) :
    QueueOwner :=
  owner.handleQueueEdit ctx (.moveSlot slotId toIndex)

def handleQueueShuffle (ctx : CommandContext) (draw : List QueueSlotId → List QueueSlotId)
    (pinActiveFirst : Bool) : QueueOwner :=
  owner.handleQueueEdit ctx (.shuffle draw pinActiveFirst)

def handleQueuePlaySlot (ctx : CommandContext) (slotId : QueueSlotId) : QueueOwner :=
  if (owner.core.queue.slot slotId).isNone then
    owner.rejectCommand ctx "slot not found; play skipped"
  else
    let (identity, transitions) := owner.core.transitions.mintLocalId
    (owner.setTransitions transitions).dispatchSlotJump ctx (.new identity.1 identity.2 slotId)
      ctx.exceptOpClient

def handleQueueClear (ctx : CommandContext) : QueueOwner :=
  let owner := owner.setQueue owner.core.queue.clear
  let owner := { owner with source := .unknown }.mintQueueLineage
  let owner := ((owner.call .advanceSequenceGeneration).call
    (.sendCommand clearPlayerQueue)).call .stop
  owner.resetSlotJumps.broadcastQueueState ctx.exceptOpClient

end QueueOwner

inductive QueueCommand where
  | adopt (items : List QueueItem) (cursor : Nat) (newSource : QueueSource)
  | replace (request : QueueReplace) (startTicks : Option Int) (newSource : QueueSource)
  | append (request : QueueAppend)
  | removeSlot (slotId : QueueSlotId)
  | removeSlots (slotIds : List QueueSlotId)
  | moveSlot (slotId : QueueSlotId) (toIndex : Nat)
  | shuffle (draw : List QueueSlotId → List QueueSlotId) (pinActiveFirst : Bool)
  | sourceUpdate (newSource : QueueSource) (lineage : QueueLineage)
  | playSlot (slotId : QueueSlotId)
  | clear

namespace QueueCommand

def requiresOwner (role : DaemonRole) : QueueCommand → Option String
  | .sourceUpdate .. =>
    if role = .local then none
    else some "queue source updates are supported only by the Stay-alive owner"
  | .adopt .. =>
    if role = .local then some "Stay-alive owner queues cannot be adopted by Clients" else none
  | _ => none

/-- An adoption carries no op. -/
def context (ctx : CommandContext) : QueueCommand → CommandContext
  | .adopt .. => { ctx with op := none }
  | _ => ctx

end QueueCommand

namespace QueueOwner

variable (owner : QueueOwner)

def dispatchCtrlCommand (ctx : CommandContext) : QueueCommand → QueueOwner
  | .adopt items cursor newSource => owner.handleAdoptQueue ctx items cursor newSource
  | .replace request startTicks newSource =>
    owner.handleQueueReplace ctx request startTicks newSource
  | .append request => owner.handleQueueAppend ctx request
  | .removeSlot slotId => owner.handleQueueRemoveSlot ctx slotId
  | .removeSlots slotIds => owner.handleQueueRemoveSlots ctx slotIds
  | .moveSlot slotId toIndex => owner.handleQueueMoveSlot ctx slotId toIndex
  | .shuffle draw pinActiveFirst => owner.handleQueueShuffle ctx draw pinActiveFirst
  | .sourceUpdate newSource lineage => owner.handleQueueSourceUpdate ctx newSource lineage
  | .playSlot slotId => owner.handleQueuePlaySlot ctx slotId
  | .clear => owner.handleQueueClear ctx

def answerQueueOp (ctx : CommandContext) : QueueOwner :=
  match owner.op with
  | some op => { owner with op := none }.tell (.queueOpResult ctx.client op none)
  | none => owner

def handleCtrlForRole (ctx : CommandContext) (command : QueueCommand) : QueueOwner :=
  let ctx := command.context ctx
  let owner := { owner with op := ctx.op }
  match command.requiresOwner ctx.role with
  | some reason => owner.rejectCommand ctx reason
  | none => (owner.dispatchCtrlCommand ctx command).answerQueueOp ctx

end QueueOwner

end Mbv.Daemon
