import Mbv.Client.PlaylistMutations

namespace Mbv.Client

open Mbv.Queue

/-- What an Owner sends on a link. `progress` stands for the reports that only refresh library
    content. -/
inductive OwnerEvent where
  | unifiedQueueUpdated (state : QueueState)
  | queueOpResult (op : Nat) (applied : Option QueueState)
  | trackChanged (slotId : QueueSlotId)
  | trackCompleted (slotId : QueueSlotId) (positionTicks : Int) (played consume : Bool)
  | stopped (slotId : Option QueueSlotId) (positionTicks : Int) (played consume : Bool)
  | progress (itemId : String) (positionTicks : Int)
  | remoteDisconnected
  | daemonShutdownAnnounced
deriving DecidableEq

namespace OwnerEvent

/-- The queue an event shows. -/
def state : OwnerEvent → Option QueueState
  | .unifiedQueueUpdated state => some state
  | .queueOpResult _ applied => applied
  | _ => none

def isInline : OwnerEvent → Bool
  | .unifiedQueueUpdated _ | .queueOpResult .. => true
  | _ => false

/-- The last event of a connection. -/
def isDisconnect : OwnerEvent → Bool
  | .remoteDisconnected | .daemonShutdownAnnounced => true
  | _ => false

def isStopped : OwnerEvent → Bool
  | .stopped .. => true
  | _ => false

end OwnerEvent

/-- An event that waits. `connection` and `seen` are ghosts: the link that carried it, and the last
    queue that link had shown when it arrived. -/
structure Arrival where
  event : OwnerEvent
  connection : Nat
  seen : QueueState
deriving DecidableEq

/-- What an event makes the Client do beyond its own display. -/
inductive Reaction where
  | feedState (feedId guid : String) (positionTicks : Int) (played : Bool)
  | audioConsumed
  | videoConsumed
  | removeSlots (connection : Nat) (slotIds : List QueueSlotId)
  | removeSlot (connection : Nat) (slotId : QueueSlotId)
deriving DecidableEq

structure ReactionContext where
  consumeVideos : Bool
  consumeAudio : Bool
  deletedSlot : Option QueueSlotId
  deletedSelection : Option (List QueueSlotId)
deriving DecidableEq

def ReactionContext.isDelete (context : ReactionContext) : Bool :=
  context.deletedSlot.isSome || context.deletedSelection.any (!·.isEmpty)

/-! ### Reactions -/

def QueueState.slot (queue : QueueState) (slotId : QueueSlotId) : Option QueueSlot :=
  Keyed.get (·.slotId) slotId queue.slots

section

variable (feedId : FeedEntry → Option String) (context : ReactionContext) (queue : QueueState)

def persistFeedSlotLifecycle (slotId : QueueSlotId) (positionTicks : Int) (completed : Bool) :
    List Reaction :=
  match queue.slot slotId with
  | some ⟨_, .feed entry⟩ =>
    match feedId entry with
    | none => []
    | some feedId =>
      let runtime := (QueueItem.feed entry).runtimeTicks
      if completed && decide (0 < runtime) then [.feedState feedId entry.guid 0 true]
      else [.feedState feedId entry.guid positionTicks false]
  | _ => []

def shouldConsumeSlot (slotId : QueueSlotId) (consume : Bool) : Bool × Bool :=
  let item := (queue.slot slotId).map (·.item)
  let isVideo := item.any QueueItem.isVideo
  let isAudio := item.any QueueItem.isAudio
  (consume && (isVideo && context.consumeVideos || isAudio && context.consumeAudio), isAudio)

def consumeReaction (slotId : QueueSlotId) (consume : Bool) : List Reaction :=
  match shouldConsumeSlot context queue slotId consume with
  | (false, _) => []
  | (true, true) => [.audioConsumed]
  | (true, false) => [.videoConsumed]

def applyStoppedSlotProgress (slotId : QueueSlotId) (positionTicks : Int) (played : Bool) :
    List Reaction :=
  match queue.slot slotId with
  | none => []
  | some slot =>
    let position := (ProgressObservation.stopped positionTicks played).positionToRecord slot.item
    match slot.item with
    | .feed entry =>
      let runtime := (QueueItem.feed entry).runtimeTicks
      let completed := played || decide (0 < runtime) && decide (runtime * 95 / 100 ≤ position)
      persistFeedSlotLifecycle feedId queue slotId position completed
    | _ => []

def finishStoppedConsumption (connection : Nat) (slotId : Option QueueSlotId) (consume : Bool) :
    List Reaction :=
  match context.deletedSelection.filter (!·.isEmpty), context.deletedSlot with
  | some selection, _ => [.removeSlots connection selection]
  | none, some slotId => [.removeSlot connection slotId]
  | none, none => slotId.elim [] fun slotId => consumeReaction context queue slotId consume

def stoppedReactions (connection : Nat) (slotId : Option QueueSlotId) (positionTicks : Int)
    (played consume : Bool) : List Reaction :=
  (match slotId with
    | some slotId =>
      if context.isDelete then []
      else applyStoppedSlotProgress feedId queue slotId positionTicks played
    | none => []) ++
  finishStoppedConsumption context queue connection slotId consume

def trackCompletedReactions (slotId : QueueSlotId) (positionTicks : Int) (played consume : Bool) :
    List Reaction :=
  match queue.slot slotId with
  | none => []
  | some slot =>
    let position := (ProgressObservation.completed positionTicks played).positionToRecord slot.item
    (match slot.item with
      | .feed entry =>
        let completed := played && decide (0 < (QueueItem.feed entry).runtimeTicks)
        persistFeedSlotLifecycle feedId queue slotId position completed
      | _ => []) ++
    consumeReaction context queue slotId consume

/-- What an event of a link makes the Client do when `queue` is the one it shows. -/
def OwnerEvent.reactions (connection : Nat) : OwnerEvent → List Reaction
  | .trackCompleted slotId positionTicks played consume =>
    trackCompletedReactions feedId context queue slotId positionTicks played consume
  | .stopped slotId positionTicks played consume =>
    stoppedReactions feedId context queue connection slotId positionTicks played consume
  | _ => []

end

/-- An event handled by a drain. The home drain has no context: it only follows the queue. -/
structure Acted where
  arrival : Arrival
  context : Option ReactionContext
  reactions : List Reaction
deriving DecidableEq

/-- One connection to an Owner: `rx` is its receiver and `disconnected` what its reader thread has
    found. The others are ghosts: the queue the handshake and the last event showed, what arrived,
    and what was handled as an event of this link. -/
structure EventLink where
  connection : Nat
  initial : QueueState
  shown : QueueState
  rx : List Arrival := []
  disconnected : Bool := false
  arrived : List Arrival := []
  adopted : List Arrival := []
  acted : List Acted := []

namespace EventLink

variable (link : EventLink)

def receive (event : OwnerEvent) : EventLink :=
  if link.disconnected then link
  else
    let arrival : Arrival := ⟨event, link.connection, link.shown⟩
    { link with
      rx := link.rx ++ [arrival]
      arrived := link.arrived ++ [arrival]
      shown := event.state.getD link.shown
      disconnected := event.isDisconnect }

def receiveAll (events : List OwnerEvent) : EventLink := events.foldl receive link

def recordAdopted (arrival : Arrival) : EventLink :=
  { link with adopted := link.adopted ++ [arrival] }

def recordActed (acted : Acted) : EventLink := { link with acted := link.acted ++ [acted] }

end EventLink

structure Connected where
  initial : QueueState
  received : List OwnerEvent := []

def Connected.link (connected : Connected) (connection : Nat) : EventLink :=
  EventLink.receiveAll ⟨connection, connected.initial, connected.initial, [], false, [], [], []⟩
    connected.received

inductive QueueOpSend where
  | failed
  | legacy
  | answered (op : Nat) (during : List OwnerEvent)

structure Recovery where
  reattach : Option Connected := none
  reconnect : Option Connected := none

structure EventApp where
  player : EventLink
  isLocalDaemon : Bool := true
  suspendedLocal : Option EventLink := none
  localView : QueueState
  remoteView : Option QueueState := none
  deferredPlayerEvents : List Arrival := []
  deferredHomeEvents : List Arrival := []
  pendingDeleteSlot : Option QueueSlotId := none
  pendingDeleteSelection : Option (List QueueSlotId) := none
  consumeVideos : Bool := false
  consumeAudio : Bool := false
  autoReconnect : Bool := false
  nextConnection : Nat := 1

namespace EventApp

variable (feedId : FeedEntry → Option String) (app : EventApp)

/-! ### Links and views -/

def hasRemoteQueue : Bool := app.remoteView.isSome

def playingQueueLink : QueueLink := if app.hasRemoteQueue then .peer else .localOwner

def playbackQueue : QueueState := app.remoteView.getD app.localView

def queueLink : QueueLink → EventLink
  | .localOwner => app.suspendedLocal.getD app.player
  | .peer => app.player

def setQueueLink (link : QueueLink) (value : EventLink) : EventApp :=
  match link, app.suspendedLocal with
  | .localOwner, some _ => { app with suspendedLocal := some value }
  | _, _ => { app with player := value }

def adoptInto (link : QueueLink) (state : QueueState) : EventApp :=
  match link with
  | .localOwner => { app with localView := state }
  | .peer => { app with remoteView := app.remoteView.map fun _ => state }

def handleUnifiedQueueUpdated (state : QueueState) : EventApp :=
  app.adoptInto app.playingQueueLink state

def adoptHomeSnapshot (state : QueueState) : EventApp := app.adoptInto .localOwner state

/-! ### The answer pump -/

def deferredHome (link : QueueLink) : Bool :=
  link == .localOwner && app.suspendedLocal.isSome

def defer (link : QueueLink) (arrival : Arrival) : EventApp :=
  if app.deferredHome link then
    { app with deferredHomeEvents := app.deferredHomeEvents ++ [arrival] }
  else { app with deferredPlayerEvents := app.deferredPlayerEvents ++ [arrival] }

def adoptQueueOpSnapshot (link : QueueLink) (state : QueueState) (ownAnswer : Bool) : EventApp :=
  if ownAnswer then app.adoptInto link state
  else if app.deferredHome link then app.adoptHomeSnapshot state
  else app.handleUnifiedQueueUpdated state

/-- The pump takes `arrival` off the link, of which `rx` is left. -/
def takeOff (link : QueueLink) (rx : List Arrival) : EventApp :=
  app.setQueueLink link { app.queueLink link with rx }

/-- An inline event is adopted as one of its link. -/
def takeInline (link : QueueLink) (arrival : Arrival) (rx : List Arrival) (ownAnswer : Bool) :
    EventApp :=
  let app := app.setQueueLink link ({ app.queueLink link with rx }.recordAdopted arrival)
  arrival.event.state.elim app fun state => app.adoptQueueOpSnapshot link state ownAnswer

def pumpQueueOpAnswer (link : QueueLink) (op : Nat) : List Arrival → EventApp → EventApp × Bool
  | [], app => (app, false)
  | arrival :: rx, app =>
    match arrival.event with
    | .unifiedQueueUpdated _ => pumpQueueOpAnswer link op rx (app.takeInline link arrival rx false)
    | .queueOpResult answered applied =>
      if answered = op then (app.takeInline link arrival rx true, applied.isSome)
      else pumpQueueOpAnswer link op rx (app.takeInline link arrival rx false)
    | _ => pumpQueueOpAnswer link op rx ((app.takeOff link rx).defer link arrival)

def receiveOn (link : QueueLink) (events : List OwnerEvent) : EventApp :=
  app.setQueueLink link ((app.queueLink link).receiveAll events)

def queueOp (link : QueueLink) : QueueOpSend → EventApp × QueueOpEdit
  | .failed => (app, .notApplied)
  | .legacy => (app, .sentLegacy)
  | .answered op during =>
    let app := app.receiveOn link during
    match pumpQueueOpAnswer link op (app.queueLink link).rx app with
    | (app, applied) => (app, if applied then .applied else .notApplied)

/-! ### Attaching and losing links -/

def newLink (connected : Connected) : EventLink := connected.link app.nextConnection

def finishLocalMode (reconnected : Option QueueState) : EventApp :=
  { app with localView := reconnected.getD app.localView, remoteView := none }

def liveHome : Option EventLink := app.suspendedLocal.filter (!·.disconnected)

def restoreLocalMode (reconnect : Option Connected) : EventApp :=
  if app.isLocalDaemon && app.suspendedLocal.isNone then app.finishLocalMode none
  else
    let restored : EventApp := { app with suspendedLocal := none }
    match app.liveHome, reconnect with
    | some home, _ => { restored with player := home, isLocalDaemon := true }.finishLocalMode none
    | none, some connected =>
      let link := app.newLink connected
      let restored : EventApp :=
        { restored with
          player := link
          isLocalDaemon := true
          nextConnection := app.nextConnection + 1 }
      restored.finishLocalMode (some link.shown)
    | none, none => restored.finishLocalMode none

def attachRemoteOwner (isLocal : Bool) (connected : Connected) (reconnect : Option Connected) :
    EventApp :=
  if isLocal && (app.suspendedLocal.isSome || app.isLocalDaemon) then
    app.restoreLocalMode reconnect
  else
    let link := app.newLink connected
    let attached : EventApp :=
      { app with
        suspendedLocal := if app.isLocalDaemon then some app.player else app.suspendedLocal
        player := link
        isLocalDaemon := isLocal
        nextConnection := app.nextConnection + 1 }
    if isLocal then { attached with localView := link.shown, remoteView := none }
    else { attached with remoteView := some link.shown }

def tryReattachRemoteDaemon (reattach : Option Connected) : Option EventApp :=
  if app.isLocalDaemon || !app.autoReconnect then none
  else
    reattach.map fun connected =>
      let link := app.newLink connected
      { app with
        player := link
        remoteView := some link.shown
        nextConnection := app.nextConnection + 1 }

def handleStoppedRemoteDisconnected (recovery : Recovery) : EventApp :=
  if app.isLocalDaemon then app
  else (app.tryReattachRemoteDaemon recovery.reattach).getD
    (app.restoreLocalMode recovery.reconnect)

def handleRemoteDisconnected (recovery : Recovery) : EventApp :=
  if app.isLocalDaemon then { app with suspendedLocal := none }
  else (app.tryReattachRemoteDaemon recovery.reattach).getD
    (app.restoreLocalMode recovery.reconnect)

def handleDaemonShutdownAnnounced (fromHomeLink : Bool) (recovery : Recovery) : EventApp :=
  if fromHomeLink || app.isLocalDaemon then { app with suspendedLocal := none }
  else app.restoreLocalMode recovery.reconnect

def restartLocalDaemon (connected : Connected) : EventApp :=
  let link := app.newLink connected
  { app with
    player := link
    suspendedLocal := none
    localView := link.shown
    remoteView := none
    isLocalDaemon := true
    nextConnection := app.nextConnection + 1 }

/-! ### The drains -/

def context : ReactionContext where
  consumeVideos := app.consumeVideos
  consumeAudio := app.consumeAudio
  deletedSlot := app.pendingDeleteSlot
  deletedSelection := app.pendingDeleteSelection

def act (acted : Acted) : EventApp := { app with player := app.player.recordActed acted }

/-- An event of the active link, with what it makes the Client do. -/
def react (arrival : Arrival) : EventApp :=
  app.act ⟨arrival, some app.context,
    arrival.event.reactions feedId app.context app.playbackQueue app.player.connection⟩

def handleStoppedEvent (arrival : Arrival) (send : QueueOpSend) (recovery : Recovery) : EventApp :=
  if app.player.disconnected then
    (app.act ⟨arrival, some app.context, []⟩).handleStoppedRemoteDisconnected recovery
  else
    let context := app.context
    let app : EventApp :=
      { app.react feedId arrival with pendingDeleteSlot := none, pendingDeleteSelection := none }
    if context.isDelete then (app.queueOp app.playingQueueLink send).1 else app

def handlePlayerEvent (arrival : Arrival) (send : QueueOpSend) (recovery : Recovery) : EventApp :=
  match arrival.event with
  | .unifiedQueueUpdated state =>
    { app with player := app.player.recordAdopted arrival }.handleUnifiedQueueUpdated state
  | .queueOpResult _ applied =>
    let app : EventApp := { app with player := app.player.recordAdopted arrival }
    applied.elim app app.handleUnifiedQueueUpdated
  | .stopped .. => app.handleStoppedEvent feedId arrival send recovery
  | .remoteDisconnected => (app.react feedId arrival).handleRemoteDisconnected recovery
  | .daemonShutdownAnnounced =>
    (app.react feedId arrival).handleDaemonShutdownAnnounced false recovery
  | _ => app.react feedId arrival

/-- The next event of the active link, and what is left without it. -/
def nextPlayerEvent : Option (Arrival × EventApp) :=
  match app.deferredPlayerEvents, app.player.rx with
  | arrival :: deferred, _ => some (arrival, { app with deferredPlayerEvents := deferred })
  | [], arrival :: rx => some (arrival, { app with player := { app.player with rx } })
  | [], [] => none

def drainPlayerEvent (send : QueueOpSend) (recovery : Recovery) : EventApp :=
  app.nextPlayerEvent.elim app fun (arrival, app) =>
    app.handlePlayerEvent feedId arrival send recovery

def handleHomeEvent (home : EventLink) (arrival : Arrival) : EventApp :=
  match arrival.event with
  | .unifiedQueueUpdated state =>
    { app with suspendedLocal := some (home.recordAdopted arrival) }.adoptHomeSnapshot state
  | .queueOpResult _ applied =>
    let app : EventApp := { app with suspendedLocal := some (home.recordAdopted arrival) }
    applied.elim app app.adoptHomeSnapshot
  | .remoteDisconnected => { app with suspendedLocal := none }
  | .daemonShutdownAnnounced => app.handleDaemonShutdownAnnounced true {}
  | _ => { app with suspendedLocal := some (home.recordActed ⟨arrival, none, []⟩) }

/-- The suspended home link has no other consumer. -/
def drainHomeEvent : EventApp :=
  match app.suspendedLocal with
  | none => app
  | some home =>
    match app.deferredHomeEvents, home.rx with
    | arrival :: deferred, _ =>
      { app with deferredHomeEvents := deferred }.handleHomeEvent home arrival
    | [], arrival :: rx =>
      { app with suspendedLocal := some { home with rx } }.handleHomeEvent { home with rx } arrival
    | [], [] => app

end EventApp

inductive OwnerInput where
  /-- An event reaches the link a queue link resolves to. -/
  | arrived (link : QueueLink) (event : OwnerEvent)
  | sentOp (link : QueueLink) (send : QueueOpSend)
  | drainedPlayer (send : QueueOpSend) (recovery : Recovery)
  | drainedHome
  | attached (isLocal : Bool) (connected : Connected) (reconnect : Option Connected)
  | restored (reconnect : Option Connected)
  | restarted (connected : Connected)
  | confirmedRemoval (slot : Option QueueSlotId) (selection : Option (List QueueSlotId))
  | configured (consumeVideos consumeAudio autoReconnect : Bool)

namespace EventApp

variable (feedId : FeedEntry → Option String) (app : EventApp)

def handle : OwnerInput → EventApp
  | .arrived link event => app.receiveOn link [event]
  | .sentOp link send => (app.queueOp link send).1
  | .drainedPlayer send recovery => app.drainPlayerEvent feedId send recovery
  | .drainedHome => app.drainHomeEvent
  | .attached isLocal connected reconnect => app.attachRemoteOwner isLocal connected reconnect
  | .restored reconnect => app.restoreLocalMode reconnect
  | .restarted connected => app.restartLocalDaemon connected
  | .confirmedRemoval slot selection =>
    { app with pendingDeleteSlot := slot, pendingDeleteSelection := selection }
  | .configured consumeVideos consumeAudio autoReconnect =>
    { app with consumeVideos, consumeAudio, autoReconnect }

def machine : Machine EventApp OwnerInput := ⟨handle feedId⟩

def start (initial : QueueState) : EventApp where
  player := Connected.link ⟨initial, []⟩ 0
  localView := initial

end EventApp

end Mbv.Client
