import Mbv.Client.OwnerLink

namespace Mbv.Client

open Mbv.Queue

abbrev SessionId := String

/-- Where endpoints lead: the local Owner, the direct endpoint of an Emby Session, and the daemon
    of a library route. -/
structure Endpoints where
  home : OwnerId
  session : SessionId → OwnerId
  route : String → OwnerId

inductive QueueLink where
  | localOwner
  | peer
deriving DecidableEq

inductive QueueTransferDirection where
  | handOff
  | take
deriving DecidableEq

namespace QueueTransferDirection

def targetLink : QueueTransferDirection → QueueLink
  | handOff => .peer
  | take => .localOwner

def sourceLink : QueueTransferDirection → QueueLink
  | handOff => .localOwner
  | take => .peer

end QueueTransferDirection

/-- `number` is a ghost: which queue copy the transfer sent. -/
structure PendingQueueTransfer where
  direction : QueueTransferDirection
  target : SessionId
  startSlot : QueueSlotId
  sourceLink : Option OwnerLink
  number : Nat

structure StagedQueueTransfer where
  direction : QueueTransferDirection
  target : SessionId
  link : Option OwnerLink

structure QueueCopy where
  number : Nat
  source : OwnerId
  target : OwnerId
  slots : List QueueSlot
  startSlot : QueueSlotId
  startIdx : Nat
  positionTicks : Int

/-- A `Stop` a transfer sent, with the target's view and status it was decided on. -/
structure SentStop where
  transfer : Nat
  owner : OwnerId
  view : QueueView
  status : PlayerStatus

/-- `isLocalDaemon` says that `player_endpoint` is the local one. `copies`, `stops` and `ended` are
    a record of the transfers, which no function reads but for the number of the next copy. -/
structure App where
  player : OwnerLink
  isLocalDaemon : Bool
  suspendedLocal : Option OwnerLink := none
  localView : QueueView
  remoteView : Option QueueView := none
  directRemoteConnected : Bool := false
  directRemoteSessionId : Option SessionId := none
  activeRoute : Option String := none
  autoReconnect : Bool := false
  stagedQueueTransfer : Option StagedQueueTransfer := none
  pendingQueueTransfer : Option PendingQueueTransfer := none
  copies : List QueueCopy := []
  stops : List SentStop := []
  ended : List Nat := []

namespace App

variable (endpoints : Endpoints) (app : App)

def hasRemoteQueue : Bool := app.remoteView.isSome

def queueLink : QueueLink → OwnerLink
  | .localOwner => app.suspendedLocal.getD app.player
  | .peer => app.player

def mapQueueLink (link : QueueLink) (change : OwnerLink → OwnerLink) : App :=
  match link, app.suspendedLocal with
  | .localOwner, some home => { app with suspendedLocal := some (change home) }
  | _, _ => { app with player := change app.player }

/-- The peer's view is asked for only where there is one. -/
def queueForLink : QueueLink → QueueView
  | .localOwner => app.localView
  | .peer => app.remoteView.getD QueueView.default

def playingQueueLink : QueueLink := if app.hasRemoteQueue then .peer else .localOwner

def adoptInto (link : QueueLink) (snapshot : QueueSnapshot) : App :=
  match link with
  | .localOwner => { app with localView := QueueView.adopt snapshot }
  | .peer => { app with remoteView := app.remoteView.map fun _ => QueueView.adopt snapshot }

def setStatus (status : PlayerStatus) : App :=
  { app with player := { app.player with status } }

def handleUnifiedQueueUpdated (snapshot : QueueSnapshot) : App :=
  (app.setStatus snapshot.status).adoptInto app.playingQueueLink snapshot

def adoptHomeSnapshot (snapshot : QueueSnapshot) : App := app.adoptInto .localOwner snapshot

/-- One queued event of the active link. -/
def drainPlayerEvent : App :=
  match app.player.events with
  | [] => app
  | snapshot :: events =>
    { app with player := { app.player with events } }.handleUnifiedQueueUpdated snapshot

/-- One queued event of the suspended home link. -/
def drainHomeEvent : App :=
  match app.suspendedLocal with
  | none => app
  | some home =>
    match home.events with
    | [] => app
    | snapshot :: events =>
      { app with suspendedLocal := some { home with events } }.adoptHomeSnapshot snapshot

def drainLink : QueueLink → App
  | .localOwner => if app.suspendedLocal.isSome then app.drainHomeEvent else app.drainPlayerEvent
  | .peer => app.drainPlayerEvent

def drainTimes (link : QueueLink) : Nat → App → App
  | 0, app => app
  | n + 1, app => drainTimes link n (app.drainLink link)

def localQueuePlayer : OwnerLink := app.suspendedLocal.getD app.player

def queueTransferPeerLinkIsCurrent (target : SessionId) : Bool :=
  app.directRemoteConnected && app.directRemoteSessionId == some target

/-! ### Attaching, restoring and tearing down -/

def dropStagedQueueTransfer : App := { app with stagedQueueTransfer := none }

/-- Cancelling and failing both end the pending transfer; only the report differs. -/
def endPendingQueueTransfer : App :=
  { app with
    pendingQueueTransfer := none
    ended := app.ended ++ (app.pendingQueueTransfer.map (·.number)).toList }

def failPendingQueueTransfer : App := app.endPendingQueueTransfer

def cancelPendingQueueTransfer : App := app.endPendingQueueTransfer.dropStagedQueueTransfer

def attachRemoteOwner (remote : OwnerLink) : App :=
  let app :=
    if app.isLocalDaemon then
      { app with suspendedLocal := some app.player, player := remote, isLocalDaemon := false }
    else { app with player := remote }
  { app with remoteView := some (QueueView.replacementView remote.unifiedQueue) }

def switchToDirectRemote (target : SessionId) (remote : OwnerLink) : App :=
  { app.attachRemoteOwner remote with
    directRemoteConnected := true
    directRemoteSessionId := some target }

def switchToLibraryRoute (name : String) (remote : OwnerLink) : App :=
  { app.attachRemoteOwner remote with
    directRemoteConnected := false
    directRemoteSessionId := none
    activeRoute := some name }

def finishLocalMode (reconnected : Option QueueView) : App :=
  { app with
    localView := reconnected.getD app.localView
    remoteView := none
    directRemoteConnected := false
    directRemoteSessionId := none
    activeRoute := none }

/-- `reconnect` is what a connect to the local Owner's endpoint would find, if it answers. -/
def restoreLocalMode (reconnect : Option Opened) : App :=
  if app.isLocalDaemon && app.suspendedLocal.isNone then app.finishLocalMode none
  else
    match app.suspendedLocal.filter (!·.disconnected) with
    | some home =>
      { app with player := home, suspendedLocal := none, isLocalDaemon := true }.finishLocalMode
        none
    | none =>
      match reconnect with
      | some opened =>
        { app with
          player := OwnerLink.connect endpoints.home none opened
          suspendedLocal := none
          isLocalDaemon := true }.finishLocalMode (some (QueueView.adopt opened.snapshot))
      | none =>
        { app with player := app.player.drop, suspendedLocal := none }.finishLocalMode none

def disconnectRemote (reconnect : Option Opened) : App :=
  if app.directRemoteConnected then
    app.cancelPendingQueueTransfer.restoreLocalMode endpoints reconnect
  else app

/-- The owner's playback output is not modelled: with it or without, the same links are severed. -/
def severConnections (reconnect : Option Opened) : App :=
  let app :=
    if app.activeRoute.isSome then app.restoreLocalMode endpoints reconnect else app
  if app.directRemoteConnected then app.disconnectRemote endpoints reconnect else app

/-- `connect_to_session` for a Session row with a direct endpoint that is not the local one. -/
def connectToSession (target : SessionId) (opened reconnect : Option Opened) : App :=
  let app := app.severConnections endpoints reconnect
  match opened with
  | some opened =>
    app.switchToDirectRemote target (OwnerLink.connect (endpoints.session target) none opened)
  | none => app

/-- `apply_route_for_playback`, which play actions skip while no route is active. -/
def applyRouteForPlayback (resolved : Option String) (opened reconnect : Option Opened) : App :=
  if app.activeRoute.isNone then app
  else
    match resolved with
    | none => app.restoreLocalMode endpoints reconnect
    | some name =>
      if app.activeRoute = some name then app
      else
        match opened with
        | some opened =>
          app.switchToLibraryRoute name (OwnerLink.connect (endpoints.route name) none opened)
        | none => app.restoreLocalMode endpoints reconnect

/-- The Client's start: attached to the local Owner, or through it to the library route it was on
    when it last exited. -/
def launch (opened : Opened) (autoReconnect : Bool) (lastRoute : Option (String × Opened)) : App :=
  let app : App :=
    { player := OwnerLink.connect endpoints.home none opened
      isLocalDaemon := true
      localView := QueueView.adopt opened.snapshot
      autoReconnect }
  match lastRoute with
  | none => app
  | some (name, opened) =>
    app.switchToLibraryRoute name (OwnerLink.connect (endpoints.route name) none opened)

def attachReattachedDaemon (opened : Opened) : App :=
  { app with
    player := OwnerLink.connect app.player.owner app.player.copy opened
    remoteView := some (QueueView.adopt { opened.snapshot with copy := app.player.copy })
    directRemoteConnected := true }

def loseActiveLink : App := { app with player := app.player.drop }.dropStagedQueueTransfer

/-- `handle_remote_disconnected`: the modal of a lost local Owner changes nothing here. -/
def handleRemoteDisconnected (reattach reconnect : Option Opened) : App :=
  let app := app.loseActiveLink
  if app.isLocalDaemon then { app with suspendedLocal := none }
  else
    match reattach.filter fun _ => app.autoReconnect with
    | some opened => app.attachReattachedDaemon opened
    | none => app.restoreLocalMode endpoints reconnect

def handleHomeDisconnected : App :=
  if app.suspendedLocal.isSome then
    { app with suspendedLocal := none }.dropStagedQueueTransfer
  else app

def handleDaemonShutdownAnnounced (fromHomeLink : Bool) (reconnect : Option Opened) : App :=
  if fromHomeLink then app.handleHomeDisconnected
  else
    let app := app.loseActiveLink
    if app.isLocalDaemon then { app with suspendedLocal := none }
    else app.restoreLocalMode endpoints reconnect

end App

end Mbv.Client
