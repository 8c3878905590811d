import Mbv.Client.Attachment

namespace Mbv.Client

open Mbv.Queue

/-- What follows a sent queue operation, up to its answer or the bound: the messages the link
    delivers before the answer, the answer, and those that reach the link before the App has
    adopted it. A legacy owner sends no answer, and none is awaited. -/
inductive Awaited where
  | sendFailed
  | legacy
  | unanswered (before : List LinkMessage)
  | rejected (before : List LinkMessage)
  | applied (before : List LinkMessage) (snapshot : QueueSnapshot) (late : List LinkMessage)

inductive QueueOpEdit where
  | applied
  | sentLegacy
  | notApplied
deriving DecidableEq

/-- The Take source's copy inputs read from one link. -/
structure QueueTakeSource where
  slots : List QueueSlot
  activeSlot : Option QueueSlotId
  status : PlayerStatus

def QueueTakeSource.start (read : QueueTakeSource) : Option (QueueSlotId × Nat × Int) :=
  if !read.status.active || read.status.paused then none
  else
    read.activeSlot.bind fun startSlot =>
      (Keyed.indexOf (·.slotId) startSlot read.slots).map fun startIdx =>
        (startSlot, startIdx, read.status.positionTicks)

namespace App

variable (endpoints : Endpoints) (app : App)

def pumpBefore (link : QueueLink) (before : List LinkMessage) : App :=
  let app := app.mapQueueLink link (·.receiveAll before)
  drainTimes link (app.queueLink link).events.length app

def adoptOwnAnswer (link : QueueLink) (snapshot : QueueSnapshot) : App :=
  (if link = app.playingQueueLink then app.setStatus snapshot.status else app).adoptInto link
    snapshot

def adoptAnswer (link : QueueLink) (snapshot : QueueSnapshot) (late : List LinkMessage) : App :=
  let number := app.copies.length
  let app := app.mapQueueLink link fun owner =>
    ({ owner with copy := some number }.receive (.queueState snapshot)).receiveAll late
  (app.drainLink link).adoptOwnAnswer link { snapshot with copy := some number }

def queueOp (link : QueueLink) (awaited : Awaited) : App × QueueOpEdit :=
  if (app.queueLink link).disconnected then (app, .notApplied)
  else
    match awaited with
    | .sendFailed => (app, .notApplied)
    | .legacy => (app, .sentLegacy)
    | .unanswered before | .rejected before => (app.pumpBefore link before, .notApplied)
    | .applied before snapshot late =>
      ((app.pumpBefore link before).adoptAnswer link snapshot late, .applied)

/-- The shared tail of both flows: send the replacement, and arm the transfer unless the answer
    says that the copy was not taken. -/
def sendQueueCopy (direction : QueueTransferDirection) (target : SessionId)
    (sourceLink : Option OwnerLink) (copy : QueueCopy) (awaited : Awaited) : App :=
  match app.queueOp direction.targetLink awaited with
  | (app, .notApplied) => app.failPendingQueueTransfer
  | (app, _) =>
    { app with
      pendingQueueTransfer :=
        some { direction, target, startSlot := copy.startSlot, sourceLink, number := copy.number }
      copies := app.copies ++ [copy] }

/-! ### Hand off -/

def queueHandOffSourceStatus : Option PlayerStatus :=
  match app.suspendedLocal with
  | some home => some home.status
  | none => if app.isLocalDaemon then some app.player.status else none

def queueHandOffSourceStart : Option (QueueSlotId × Nat × Int) :=
  app.queueHandOffSourceStatus.bind fun status =>
    if !status.active || status.paused then none
    else
      app.localView.activeSlotId.bind fun startSlot =>
        (app.localView.queue.slotIndex startSlot).map fun startIdx =>
          (startSlot, startIdx, status.positionTicks)

def queueHandOffSourceIsPlaying : Bool := app.queueHandOffSourceStart.isSome

def queueHandOffTargetLinkPresent : Bool := app.hasRemoteQueue && !app.player.disconnected

def queueHandOffActiveItemIsAudio : Bool :=
  app.localView.activeSlotId.any fun slotId =>
    (app.localView.queue.slot slotId).any fun slot => slot.item.isAudio

def sendQueueHandOffCopy (target : SessionId) (awaited : Awaited) : App :=
  if !app.queueHandOffTargetLinkPresent then app
  else
    match app.queueHandOffSourceStart with
    | none => app
    | some (startSlot, startIdx, positionTicks) =>
      app.sendQueueCopy .handOff target none
        { number := app.copies.length
          source := (app.queueLink .localOwner).owner
          target := app.player.owner
          slots := app.localView.queue.slots, startSlot, startIdx, positionTicks } awaited

def runStagedQueueHandOff (staged : StagedQueueTransfer) (reconnect : Option Opened)
    (awaited : Awaited) : App :=
  match staged.link with
  | none => app.sendQueueHandOffCopy staged.target awaited
  | some link =>
    if link.disconnected then app
    else
      ((app.severConnections endpoints reconnect).switchToDirectRemote staged.target
        link).sendQueueHandOffCopy staged.target awaited

/-! ### Take -/

def queueTakeTargetLinkPresent : Bool := app.suspendedLocal.isSome || app.isLocalDaemon

def queueTakeSourceRead : Option OwnerLink → Option QueueTakeSource
  | some link => link.unifiedQueue.map fun state => ⟨state.slots, state.activeSlot, link.status⟩
  | none =>
    if !app.hasRemoteQueue then none
    else
      let view := app.queueForLink .peer
      some ⟨view.queue.slots, view.activeSlotId, app.player.status⟩

def queueTakeSourceIsPlaying (sourceLink : Option OwnerLink) : Bool :=
  ((app.queueTakeSourceRead sourceLink).bind (·.start)).isSome

def sendQueueTakeCopy (target : SessionId) (sourceLink : Option OwnerLink) (awaited : Awaited) :
    App :=
  if !app.queueTakeTargetLinkPresent then app
  else
    match app.queueTakeSourceRead sourceLink with
    | none => app
    | some read =>
      match read.start with
      | none => app
      | some (startSlot, startIdx, positionTicks) =>
        app.sendQueueCopy .take target sourceLink
          { number := app.copies.length
            source := (sourceLink.getD app.player).owner
            target := (app.queueLink .localOwner).owner
            slots := read.slots, startSlot, startIdx, positionTicks } awaited

def runStagedQueueTake (staged : StagedQueueTransfer) (awaited : Awaited) : App :=
  if staged.link.any (·.disconnected) then app
  else app.sendQueueTakeCopy staged.target staged.link awaited

/-! ### Begin, confirm and cancel -/

def runStagedQueueTransfer (reconnect : Option Opened) (awaited : Awaited) : App :=
  match app.stagedQueueTransfer with
  | none => app
  | some staged =>
    let app := app.dropStagedQueueTransfer
    match staged.direction with
    | .handOff => app.runStagedQueueHandOff endpoints staged reconnect awaited
    | .take => app.runStagedQueueTake staged awaited

/-- Stage the transfer; a populated target queue asks first, an empty one runs it at once. -/
def stageQueueTransfer (staged : StagedQueueTransfer) (targetQueueLen : Nat)
    (reconnect : Option Opened) (awaited : Awaited) : App :=
  let app := { app with stagedQueueTransfer := some staged }
  if targetQueueLen > 0 then app else app.runStagedQueueTransfer endpoints reconnect awaited

/-- The link a transfer reads: `some none` for the current attachment, `none` when the probe
    connect fails. -/
def openTransferLink (target : SessionId) (opened : Option Opened) : Option (Option OwnerLink) :=
  if app.queueTransferPeerLinkIsCurrent target then some none
  else opened.map fun opened => some (OwnerLink.connect (endpoints.session target) none opened)

def beginQueueHandOff (target : SessionId) (opened reconnect : Option Opened)
    (awaited : Awaited) : App :=
  match app.openTransferLink endpoints target opened with
  | none => app
  | some link =>
    let capabilities := (link.getD app.player).capabilities
    let peerQueueLen :=
      match link with
      | none => (app.queueForLink .peer).totalQueueLen
      | some link => link.unifiedQueue.elim 0 (·.slots.length)
    if !capabilities.queueReplaceStartPosition then app
    else if !app.queueHandOffSourceIsPlaying then app
    else if capabilities.audioOnly && !app.queueHandOffActiveItemIsAudio then app
    else
      app.stageQueueTransfer endpoints ⟨.handOff, target, link⟩ peerQueueLen reconnect awaited

def beginQueueTake (target : SessionId) (opened reconnect : Option Opened)
    (awaited : Awaited) : App :=
  if !app.queueTakeTargetLinkPresent then app
  else if !app.localQueuePlayer.capabilities.queueReplaceStartPosition then app
  else
    match app.openTransferLink endpoints target opened with
    | none => app
    | some link =>
      if !app.queueTakeSourceIsPlaying link then app
      else
        app.stageQueueTransfer endpoints ⟨.take, target, link⟩ app.localView.totalQueueLen
          reconnect awaited

/-- A target that does not resolve to a live row with a direct endpoint only cancels. -/
def beginQueueTransfer (direction : QueueTransferDirection) (target : SessionId) (resolved : Bool)
    (opened reconnect : Option Opened) (awaited : Awaited) : App :=
  let app := app.cancelPendingQueueTransfer
  if !resolved then app
  else
    match direction with
    | .handOff => app.beginQueueHandOff endpoints target opened reconnect awaited
    | .take => app.beginQueueTake endpoints target opened reconnect awaited

/-! ### Settlement -/

def transferTargetLinkLost : QueueTransferDirection → Bool
  | .handOff => !app.hasRemoteQueue || app.player.disconnected
  | .take =>
    match app.suspendedLocal with
    | some home => home.disconnected
    | none => app.hasRemoteQueue || app.player.disconnected

def transferTargetStatus : QueueTransferDirection → PlayerStatus
  | .handOff => app.player.status
  | .take =>
    match app.suspendedLocal with
    | some home => home.status
    | none => app.player.status

def transferTargetPlaying (direction : QueueTransferDirection) : Bool :=
  (app.transferTargetStatus direction).audible

/-- Send a `Stop` over a link; a transfer's `Stop` is recorded with what its target showed. -/
def sendStop (transfer : PendingQueueTransfer) (link : OwnerLink) : App :=
  { app with
    stops := app.stops ++
      [{ transfer := transfer.number
         owner := link.owner
         view := app.queueForLink transfer.direction.targetLink
         status := app.transferTargetStatus transfer.direction }] }

def stopHandOffSource (transfer : PendingQueueTransfer) : App :=
  match app.suspendedLocal, app.isLocalDaemon with
  | some home, _ => app.sendStop transfer home
  | none, true => app.sendStop transfer app.player
  | none, false => app

def stopAttachedTakeSource (transfer : PendingQueueTransfer) : App :=
  if !app.queueTransferPeerLinkIsCurrent transfer.target || app.player.disconnected then app
  else app.sendStop transfer (app.queueLink .peer)

def stopTakeSource (transfer : PendingQueueTransfer) : App :=
  match transfer.sourceLink with
  | none => app.stopAttachedTakeSource transfer
  | some link => if link.disconnected then app else app.sendStop transfer link

def stopTransferSource (transfer : PendingQueueTransfer) : App :=
  match transfer.direction with
  | .handOff => app.stopHandOffSource transfer
  | .take => app.stopTakeSource transfer

def stopTransferTarget (transfer : PendingQueueTransfer) : App :=
  app.sendStop transfer (app.queueLink transfer.direction.targetLink)

def runQueueTransferFollowUp (transfer : PendingQueueTransfer) (reconnect : Option Opened) : App :=
  match transfer.direction with
  | .handOff => app
  | .take =>
    if app.queueTransferPeerLinkIsCurrent transfer.target then
      app.disconnectRemote endpoints reconnect
    else app

/-- The settlement holds the transfer out of the App while it judges, so that what runs inside it
    ends nothing; here `pendingQueueTransfer` is already taken. -/
def settleTargetObservation (transfer : PendingQueueTransfer) (reconnect : Option Opened) : App :=
  let view := app.queueForLink transfer.direction.targetLink
  let targetActive := view.activeSlotId == some transfer.startSlot
  let targetPending := view.pendingPlaybackSlot == some transfer.startSlot
  let startSlotPresent := (view.queue.slot transfer.startSlot).isSome
  if targetActive && app.transferTargetPlaying transfer.direction then
    let app :=
      (app.stopTransferSource transfer).runQueueTransferFollowUp endpoints transfer reconnect
    { app with pendingQueueTransfer := none, ended := app.ended ++ [transfer.number] }
  else if targetPending || startSlotPresent then
    { app with pendingQueueTransfer := some transfer }
  else
    { (app.stopTransferTarget transfer).failPendingQueueTransfer with
      ended := app.ended ++ [transfer.number] }

def settlePendingQueueTransfer (reconnect : Option Opened) : App :=
  match app.pendingQueueTransfer with
  | none => app
  | some transfer =>
    let app := { app with pendingQueueTransfer := none }
    if app.transferTargetLinkLost transfer.direction then
      { app.failPendingQueueTransfer with ended := app.ended ++ [transfer.number] }
    else app.settleTargetObservation endpoints transfer reconnect

end App

end Mbv.Client
