import Mathlib.Logic.Function.Basic
import Mbv.Client.QueueTransfer
import Mbv.Daemon.QueueCommands

namespace Mbv.Client

open Mbv.Queue
open Mbv.Daemon (QueueSource QueueLineage)

structure QueueState where
  slots : List QueueSlot := []
  source : QueueSource := .unknown
  lineage : QueueLineage := 0
deriving DecidableEq

namespace QueueState

variable (queue : QueueState)

def embyIds : List String :=
  queue.slots.filterMap fun slot =>
    match slot.item with
    | .emby item => some item.id
    | _ => none

def playlistId : Option String :=
  match queue.source with
  | .playlist id _ => id
  | _ => none

end QueueState

structure QueueOrigin where
  epoch : Nat
  lineage : QueueLineage

inductive PlaylistMutation where
  | save (mutationId : Nat) (origin : QueueOrigin) (sourcePlaylistId : String)
      (itemIds : Option (List String))
  | createAs (mutationId : Nat) (coordinatorKey name : String) (origin : QueueOrigin)
      (sourcePlaylistId : Option String) (itemIds : Option (List String))
  | replace (mutationId : Nat) (origin : QueueOrigin) (name : String)
      (itemIds : Option (List String))

/-- The background requests, as `spawn_playlist_save`, `_create` and `_replace` take them. -/
inductive PlaylistRequest where
  | save (mutationId : Nat) (playlistId : String) (origin : QueueOrigin) (sourcePlaylistId : String)
      (ids : List String)
  | create (mutationId : Nat) (name coordinatorKey : String) (sourcePlaylistId : Option String)
      (origin : QueueOrigin) (ids : List String)
  | replace (mutationId : Nat) (playlistId name : String) (origin : QueueOrigin)
      (ids : List String)

namespace PlaylistMutation

def mutationId : PlaylistMutation → Nat
  | .save mutationId .. | .createAs mutationId .. | .replace mutationId .. => mutationId

def origin : PlaylistMutation → QueueOrigin
  | .save _ origin .. | .createAs _ _ _ origin .. | .replace _ origin .. => origin

def withItems (ids : List String) : PlaylistMutation → PlaylistMutation
  | .save mutationId origin source _ => .save mutationId origin source (some ids)
  | .createAs mutationId key name origin source _ =>
    .createAs mutationId key name origin source (some ids)
  | .replace mutationId origin name _ => .replace mutationId origin name (some ids)

def request (playlistId : String) (ids : List String) : PlaylistMutation → PlaylistRequest
  | .save mutationId origin source _ => .save mutationId playlistId origin source ids
  | .createAs mutationId key name origin source _ => .create mutationId name key source origin ids
  | .replace mutationId origin name _ => .replace mutationId playlistId name origin ids

@[simp] theorem withItems_mutationId (ids : List String) (mutation : PlaylistMutation) :
    (mutation.withItems ids).mutationId = mutation.mutationId := by
  cases mutation <;> rfl

end PlaylistMutation

namespace PlaylistRequest

def mutationId : PlaylistRequest → Nat
  | .save mutationId .. | .create mutationId .. | .replace mutationId .. => mutationId

def key : PlaylistRequest → String
  | .save _ key .. | .create _ _ key .. | .replace _ key .. => key

def origin : PlaylistRequest → QueueOrigin
  | .save _ _ origin .. | .create _ _ _ _ origin _ | .replace _ _ _ origin _ => origin

def ids : PlaylistRequest → List String
  | .save _ _ _ _ ids | .create _ _ _ _ _ ids | .replace _ _ _ _ ids => ids

end PlaylistRequest

structure PlaylistMutationState where
  active : Option PlaylistMutation := none
  queued : List PlaylistMutation := []

inductive PendingQueueAction where
  | playItems
  | clearQueue
deriving DecidableEq

inductive SaveDeferral where
  | awaitingAnswer (action : PendingQueueAction)
  | awaitingSave (mutationId : Nat) (action : PendingQueueAction)
deriving DecidableEq

/-- What an answered queue operation brings: the snapshots adopted while it waits, each into the
    queue of its link, and the Owner's answer. A connection known to be lost takes no play. -/
structure OwnerAnswer where
  adopted : List (QueueLink × QueueState) := []
  edit : QueueOpEdit := .applied
  disconnected : Bool := false

inductive MutationFate where
  | dispatched
  | discarded

/-- What became of the mutations of one key: those requested, those dispatched or discarded, and the
    requests whose completion has not been handled. -/
structure KeyRecord where
  requested : List Nat := []
  settled : List (Nat × MutationFate) := []
  outstanding : List Nat := []

structure PlaylistWrite where
  request : PlaylistRequest
  queue : QueueState

/-- `ownerLineage` is the lineage of the last state the Local queue's link delivered, which the view
    may not have adopted yet. `writes` and `record` are a record, which no function reads. -/
structure PlaylistApp where
  localView : QueueState := {}
  remoteView : Option QueueState := none
  ownerLineage : Option QueueLineage := none
  embyClient : Bool := true
  queueEpoch : Nat := 0
  queueDirty : Bool := false
  pendingOwnerSourceUpdate : Option (QueueSource × QueueLineage) := none
  playlistMutations : String → Option PlaylistMutationState := fun _ => none
  nextPlaylistMutation : Nat := 1
  save : Option SaveDeferral := none
  writes : List PlaylistWrite := []
  record : String → KeyRecord := fun _ => {}

namespace PlaylistApp

variable (app : PlaylistApp)

/-! ### The queues -/

def playbackQueue : QueueState := app.remoteView.getD app.localView

def queuePlaylistId : Option String := app.playbackQueue.playlistId

def queueOrigin : Option QueueOrigin := app.ownerLineage.map fun lineage => ⟨app.queueEpoch, lineage⟩

def originIsCurrent (origin : QueueOrigin) : Bool := origin.epoch == app.queueEpoch

def playingQueueLink : QueueLink := if app.remoteView.isSome then .peer else .localOwner

def localQueueMetadataApplies (link : QueueLink) : Bool :=
  link == .localOwner || app.remoteView.isNone

def queueForLink : QueueLink → QueueState
  | .localOwner => app.localView
  | .peer => app.remoteView.getD {}

def advanceQueueEpoch : PlaylistApp := { app with queueEpoch := min (app.queueEpoch + 1) u64Max }

def adoptOwnerSource (unified : QueueState) : PlaylistApp :=
  match app.pendingOwnerSourceUpdate with
  | none => app
  | some (source, lineage) =>
    if unified.lineage ≠ lineage then { app with pendingOwnerSourceUpdate := none }
    else if unified.source = source then
      { app with pendingOwnerSourceUpdate := none, queueDirty := false }
    else app

def adopt (link : QueueLink) (unified : QueueState) : PlaylistApp :=
  match link with
  | .localOwner => { app with localView := unified }.adoptOwnerSource unified
  | .peer => { app with remoteView := app.remoteView.map fun _ => unified }

def adoptAll (adopted : List (QueueLink × QueueState)) : PlaylistApp :=
  adopted.foldl (fun app (link, unified) => app.adopt link unified) app

def queueOp (answer : OwnerAnswer) : PlaylistApp × QueueOpEdit :=
  (app.adoptAll answer.adopted, answer.edit)

/-! ### Mutations of a key -/

def setMutations (key : String) (state : Option PlaylistMutationState) : PlaylistApp :=
  { app with playlistMutations := Function.update app.playlistMutations key state }

def recordKey (key : String) (change : KeyRecord → KeyRecord) : PlaylistApp :=
  { app with record := Function.update app.record key (change (app.record key)) }

def isStale : PlaylistMutation → Bool
  | .save _ origin source _ =>
    !app.originIsCurrent origin || app.queuePlaylistId != some source
  | .createAs _ _ _ origin source _ =>
    !app.originIsCurrent origin || app.queuePlaylistId != source
  | .replace _ origin _ _ => !app.originIsCurrent origin

def dispatchPlaylistMutation (key : String) : PlaylistApp :=
  if app.embyClient then
    match app.playlistMutations key with
    | some ⟨some mutation, queued⟩ =>
      let ids := app.localView.embyIds
      let sent := app.setMutations key (some ⟨some (mutation.withItems ids), queued⟩)
      let sent : PlaylistApp :=
        { sent with writes := app.writes ++ [⟨mutation.request key ids, app.localView⟩] }
      sent.recordKey key fun record =>
        { record with
          settled := record.settled ++ [(mutation.mutationId, .dispatched)]
          outstanding := record.outstanding ++ [mutation.mutationId] }
    | _ => app
  else app

def recordDiscard (key : String) (mutation : PlaylistMutation) : PlaylistApp :=
  app.recordKey key fun record =>
    { record with settled := record.settled ++ [(mutation.mutationId, .discarded)] }

/-- A finished key starts its next mutation; a stale one finishes at once. -/
def startNext (key : String) : List PlaylistMutation → PlaylistApp → PlaylistApp
  | [], app => app.setMutations key none
  | next :: queued, app =>
    let app : PlaylistApp := app.setMutations key (some ⟨some next, queued⟩)
    if app.isStale next then startNext key queued (app.recordDiscard key next)
    else app.dispatchPlaylistMutation key

def finishPlaylistMutation (key : String) (mutationId : Nat) : PlaylistApp :=
  match app.playlistMutations key with
  | none => app
  | some state =>
    if state.active.map (·.mutationId) ≠ some mutationId then app
    else app.startNext key state.queued

def startPlaylistMutation (key : String) : PlaylistApp :=
  match (app.playlistMutations key).bind (·.active) with
  | some mutation =>
    if app.isStale mutation then
      (app.recordDiscard key mutation).finishPlaylistMutation key mutation.mutationId
    else app.dispatchPlaylistMutation key
  | none => app.dispatchPlaylistMutation key

def enqueuePlaylistMutation (key : String) (mutation : PlaylistMutation) : PlaylistApp :=
  let app := app.recordKey key fun record =>
    { record with requested := record.requested ++ [mutation.mutationId] }
  let state := (app.playlistMutations key).getD {}
  if state.active.isSome then
    app.setMutations key (some { state with queued := state.queued ++ [mutation] })
  else (app.setMutations key (some { state with active := some mutation })).startPlaylistMutation key

def takeMutationId : PlaylistApp :=
  { app with nextPlaylistMutation := min (app.nextPlaylistMutation + 1) u64Max }

def savePlaylistToEmby : Option Nat × PlaylistApp :=
  match app.queuePlaylistId, app.queueOrigin with
  | some playlistId, some origin =>
    let mutationId := app.nextPlaylistMutation
    (some mutationId, app.takeMutationId.enqueuePlaylistMutation playlistId
      (.save mutationId origin playlistId none))
  | _, _ => (none, app)

def playlistMutationPending (playlistId : String) : Bool :=
  (app.playlistMutations playlistId).any fun state => state.active.isSome || !state.queued.isEmpty

def saveQueueAsPlaylist (name : String) : PlaylistApp :=
  match app.queueOrigin with
  | none => app
  | some origin =>
    let source := app.queuePlaylistId
    let mutationId := app.nextPlaylistMutation
    let key := (source.filter app.playlistMutationPending).getD s!"create:{mutationId}"
    app.takeMutationId.enqueuePlaylistMutation key (.createAs mutationId key name origin source none)

def doOverwritePlaylist (existingId name : String) : PlaylistApp :=
  match app.queueOrigin with
  | none => app
  | some origin =>
    let mutationId := app.nextPlaylistMutation
    app.takeMutationId.enqueuePlaylistMutation existingId (.replace mutationId origin name none)

/-! ### Queue actions, and those that wait for a save -/

def clearLocalQueueMetadata : PlaylistApp := { app with queueDirty := false }

def onQueueReplaceSilent : PlaylistApp := { app with queueDirty := false }

def executePendingPlayItems (answer : OwnerAnswer) : PlaylistApp :=
  if answer.disconnected then app else (app.queueOp answer).1

def executePendingQueueClear (answer : OwnerAnswer) : PlaylistApp :=
  let link := app.playingQueueLink
  if (app.queueForLink link).slots.isEmpty then app
  else
    match app.queueOp answer with
    | (app, .notApplied) => app
    | (app, _) =>
      (if app.localQueueMetadataApplies link then app.clearLocalQueueMetadata else app)
        |>.advanceQueueEpoch

def executePendingQueueAction (action : PendingQueueAction) (answer : OwnerAnswer) : PlaylistApp :=
  let app :=
    if app.localQueueMetadataApplies app.playingQueueLink then { app with queueDirty := false }
    else app
  match action with
  | .playItems => app.executePendingPlayItems answer
  | .clearQueue => app.executePendingQueueClear answer

def playItemsRouted (answer : OwnerAnswer) : PlaylistApp :=
  if answer.disconnected then app
  else ((if app.remoteView.isSome then app else app.onQueueReplaceSilent).queueOp answer).1

def queueEdit (link : QueueLink) (answer : OwnerAnswer) : PlaylistApp :=
  match app.queueOp answer with
  | (app, .notApplied) => app
  | (app, _) =>
    (if app.localQueueMetadataApplies link then { app with queueDirty := true } else app)
      |>.advanceQueueEpoch

def deferForSaveAnswer (action : PendingQueueAction) : PlaylistApp :=
  { app with save := some (.awaitingAnswer action) }

def takeOnDiscard : Option PendingQueueAction × PlaylistApp :=
  match app.save with
  | some (.awaitingAnswer action) => (some action, { app with save := none })
  | _ => (none, app)

def bindToSave (mutationId : Option Nat) : PlaylistApp :=
  match app.save, mutationId with
  | some (.awaitingAnswer action), some mutationId =>
    { app with save := some (.awaitingSave mutationId action) }
  | _, _ => { app with save := none }

def cancelSaveAnswer : PlaylistApp := { app with save := none }

def takeOnSaveComplete (mutationId : Nat) : Option PendingQueueAction × PlaylistApp :=
  match app.save with
  | some (.awaitingSave bound action) =>
    if bound = mutationId then (some action, { app with save := none }) else (none, app)
  | _ => (none, app)

def answerSave : PlaylistApp :=
  let (mutationId, app) := app.savePlaylistToEmby
  app.bindToSave mutationId

def answerDiscard (answer : OwnerAnswer) : PlaylistApp :=
  match app.takeOnDiscard with
  | (some action, app) => app.executePendingQueueAction action answer
  | (none, app) => app

/-- An item was consumed; `saveOnConsume` is the setting of its kind. -/
def onConsumed (saveOnConsume : Bool) : PlaylistApp :=
  if app.localQueueMetadataApplies app.playingQueueLink then
    let app := { app with queueDirty := true }
    if saveOnConsume && app.queuePlaylistId.isSome then
      { app with queueDirty := false }.savePlaylistToEmby.2
    else app
  else app

/-! ### Completions -/

def applySavedPlaylistSource (source : QueueSource) (origin : QueueOrigin) (answer : OwnerAnswer) :
    PlaylistApp :=
  match app.queueOp answer with
  | (app, .notApplied) => app
  | (app, _) => { app with pendingOwnerSourceUpdate := some (source, origin.lineage) }

def handlePlaylistMutationComplete (mutationId : Nat) (playlistId : String) (origin : QueueOrigin)
    (sourcePlaylistId : String) (succeeded : Bool) (answer : OwnerAnswer) : PlaylistApp :=
  let (deferred, app) := app.takeOnSaveComplete mutationId
  let app :=
    if succeeded && app.originIsCurrent origin && app.queuePlaylistId == some sourcePlaylistId then
      { app with queueDirty := false }
    else app
  let app := app.finishPlaylistMutation playlistId mutationId
  match deferred with
  | some action =>
    if succeeded && app.originIsCurrent origin && app.queuePlaylistId == some playlistId then
      app.executePendingQueueAction action answer
    else app
  | none => app

def handlePlaylistReplacementComplete (mutationId : Nat) (playlistId : String)
    (origin : QueueOrigin) (name : String) (result : Option String) (answer : OwnerAnswer) :
    PlaylistApp :=
  let app :=
    match result with
    | some id =>
      if app.originIsCurrent origin then
        app.applySavedPlaylistSource (.playlist (some id) name) origin answer
      else app
    | none => app
  app.finishPlaylistMutation playlistId mutationId

def handlePlaylistCreateComplete (mutationId : Nat) (coordinatorKey name : String)
    (origin : QueueOrigin) (sourcePlaylistId : Option String) (result : Option String)
    (answer : OwnerAnswer) : PlaylistApp :=
  let app :=
    match result with
    | some id =>
      if app.originIsCurrent origin && app.queuePlaylistId == sourcePlaylistId then
        app.applySavedPlaylistSource (.playlist (some id) name) origin answer
      else app
    | none => app
  app.finishPlaylistMutation coordinatorKey mutationId

end PlaylistApp

inductive PlaylistInput where
  | saved
  | savedAs (name : String)
  | overwritten (existingId name : String)
  | consumed (saveOnConsume : Bool)
  | prompted (action : PendingQueueAction)
  | answeredSave
  | answeredDiscard (answer : OwnerAnswer)
  | answeredCancel
  /-- A request that was sent completes, perhaps again; one that fails has no result. -/
  | completed (index : Nat) (result : Option String) (answer : OwnerAnswer)
  | edited (link : QueueLink) (answer : OwnerAnswer)
  /-- An undo, a transfer and the removal of a service leave the flag and the epoch. -/
  | otherOp (answer : OwnerAnswer)
  | played (answer : OwnerAnswer)
  | acted (action : PendingQueueAction) (answer : OwnerAnswer)
  | snapshot (link : QueueLink) (unified : QueueState)
  | ownerState (lineage : Option QueueLineage)
  | switched (localView : QueueState) (remoteView : Option QueueState)
  | emby (present : Bool)

namespace PlaylistApp

variable (app : PlaylistApp)

def handleCompletion (result : Option String) (answer : OwnerAnswer) : PlaylistRequest → PlaylistApp
  | .save mutationId playlistId origin source _ =>
    app.handlePlaylistMutationComplete mutationId playlistId origin source result.isSome answer
  | .create mutationId name key source origin _ =>
    app.handlePlaylistCreateComplete mutationId key name origin source result answer
  | .replace mutationId playlistId name origin _ =>
    app.handlePlaylistReplacementComplete mutationId playlistId origin name result answer

def requestCompleted (request : PlaylistRequest) : PlaylistApp :=
  app.recordKey request.key fun record =>
    { record with outstanding := record.outstanding.erase request.mutationId }

def handle : PlaylistInput → PlaylistApp
  | .saved => app.savePlaylistToEmby.2
  | .savedAs name => app.saveQueueAsPlaylist name
  | .overwritten existingId name => app.doOverwritePlaylist existingId name
  | .consumed saveOnConsume => app.onConsumed saveOnConsume
  | .prompted action => app.deferForSaveAnswer action
  | .answeredSave => app.answerSave
  | .answeredDiscard answer => app.answerDiscard answer
  | .answeredCancel => app.cancelSaveAnswer
  | .completed index result answer =>
    match app.writes[index]? with
    | none => app
    | some write =>
      (app.requestCompleted write.request).handleCompletion result answer write.request
  | .edited link answer => app.queueEdit link answer
  | .otherOp answer => (app.queueOp answer).1
  | .played answer => app.playItemsRouted answer
  | .acted action answer => app.executePendingQueueAction action answer
  | .snapshot link unified => app.adopt link unified
  | .ownerState lineage => { app with ownerLineage := lineage }
  | .switched localView remoteView => { app with localView, remoteView }.advanceQueueEpoch
  | .emby present => { app with embyClient := present }

def machine : Machine PlaylistApp PlaylistInput := ⟨handle⟩

end PlaylistApp

end Mbv.Client
