import Mbv.Client.PlaylistOrder

namespace Mbv.Client

open Mbv.Queue
open Mbv.Daemon (QueueSource)

/-- What an adopted state brings the Local queue: another queue, or so many edits and consumes that
    the view did not show yet. -/
inductive QueueNews where
  | loaded
  | edited (count : Nat)
deriving DecidableEq

structure ShownState where
  state : QueueState
  news : QueueNews

structure ShownAnswer where
  adopted : List (QueueLink × ShownState) := []
  edit : QueueOpEdit := .applied
  disconnected : Bool := false

/-- The Client's playlist state, with a record of its edits that no function reads. `edits` counts
    those the Local queue shows since it was loaded, and `settled` how many of them a playlist holds
    or the user gave up. `carried` says for each write which load and how many edits its list shows,
    `autosaves` which slot's consumption asked for a save, and `refusals` what `queue_dirty` would
    have been and was after an operation its Owner did not apply. -/
structure SavedApp where
  app : PlaylistApp
  load : Nat := 0
  edits : Nat := 0
  settled : String → Nat := fun _ => 0
  carried : List (Nat × Nat) := []
  autosaves : List (Nat × QueueSlotId) := []
  refusals : List (Bool × Bool) := []

namespace SavedApp

variable (saved : SavedApp)

def bring : QueueNews → SavedApp
  | .loaded => { saved with load := saved.load + 1, edits := 0, settled := fun _ => 0 }
  | .edited count => { saved with edits := saved.edits + count }

def withApp (app : PlaylistApp) : SavedApp := { saved with app }

def adopt (link : QueueLink) (shown : ShownState) : SavedApp :=
  match link with
  | .localOwner => (saved.withApp (saved.app.adopt .localOwner shown.state)).bring shown.news
  | .peer => saved.withApp (saved.app.adopt .peer shown.state)

def adoptAll (adopted : List (QueueLink × ShownState)) : SavedApp :=
  adopted.foldl (fun saved (link, shown) => saved.adopt link shown) saved

def queueOp (answer : ShownAnswer) : SavedApp × QueueOpEdit :=
  (saved.adoptAll answer.adopted, answer.edit)

/-- The requests sent on the way to `next` carry the queue that is shown. -/
def send (next : PlaylistApp) : SavedApp :=
  { saved with
    app := next
    carried := saved.carried ++
      List.replicate (next.writes.length - saved.app.writes.length) (saved.load, saved.edits) }

def settle (playlistId : String) (count : Nat) : SavedApp :=
  { saved with
    settled := Function.update saved.settled playlistId (max (saved.settled playlistId) count) }

def settleCarried (index : Nat) (playlistId : String) : SavedApp :=
  match saved.carried[index]? with
  | some (load, count) => if load = saved.load then saved.settle playlistId count else saved
  | none => saved

def settleShown : SavedApp :=
  saved.app.localView.playlistId.elim saved fun playlistId => saved.settle playlistId saved.edits

def refuse (untouched : Bool) : SavedApp :=
  { saved with refusals := saved.refusals ++ [(untouched, saved.app.queueDirty)] }

def cleared : SavedApp := saved.withApp { saved.app with queueDirty := false }

/-! ### Queue actions -/

def executePendingPlayItems (touched : SavedApp) (answer : ShownAnswer) : SavedApp :=
  if answer.disconnected then touched.refuse saved.app.queueDirty
  else
    match touched.queueOp answer with
    | (next, .notApplied) => next.refuse (saved.queueOp answer).1.app.queueDirty
    | (next, _) => next

def executePendingQueueClear (touched : SavedApp) (answer : ShownAnswer) : SavedApp :=
  let link := saved.app.playingQueueLink
  if (saved.app.queueForLink link).slots.isEmpty then touched
  else
    match touched.queueOp answer with
    | (next, .notApplied) => next.refuse (saved.queueOp answer).1.app.queueDirty
    | (next, _) =>
      next.withApp <|
        (if next.app.localQueueMetadataApplies link then next.app.clearLocalQueueMetadata
          else next.app).advanceQueueEpoch

/-- `touched` is the state once the flag is cleared, `saved` the one before. -/
def executePendingQueueAction (action : PendingQueueAction) (answer : ShownAnswer) : SavedApp :=
  let touched :=
    if saved.app.localQueueMetadataApplies saved.app.playingQueueLink then saved.cleared else saved
  match action with
  | .playItems => saved.executePendingPlayItems touched answer
  | .clearQueue => saved.executePendingQueueClear touched answer

def playItemsRouted (answer : ShownAnswer) : SavedApp :=
  if answer.disconnected then saved
  else
    let touched := if saved.app.remoteView.isSome then saved else saved.cleared
    match touched.queueOp answer with
    | (next, .notApplied) => next.refuse (saved.queueOp answer).1.app.queueDirty
    | (next, _) => next

def queueEdit (link : QueueLink) (answer : ShownAnswer) : SavedApp :=
  match saved.queueOp answer with
  | (next, .notApplied) => next
  | (next, _) =>
    next.withApp <|
      (if next.app.localQueueMetadataApplies link then { next.app with queueDirty := true }
        else next.app).advanceQueueEpoch

def answerDiscard (answer : ShownAnswer) : SavedApp :=
  match saved.app.takeOnDiscard with
  | (some action, app) => (saved.withApp app).settleShown.executePendingQueueAction action answer
  | (none, app) => saved.withApp app

/-- The completion of a slot that is not shown any more is dropped. -/
def consumed (slotId : QueueSlotId) (saveOnConsume : Bool) : SavedApp :=
  if saved.app.playbackQueue.slots.any (·.slotId == slotId) then
    let next := saved.send (saved.app.onConsumed saveOnConsume)
    if (saved.app.requestKey (.consumed saveOnConsume)).isSome then
      { next with autosaves := saved.autosaves ++ [(saved.app.nextPlaylistMutation, slotId)] }
    else next
  else saved

/-! ### Completions -/

def applySavedPlaylistSource (source : QueueSource) (origin : QueueOrigin) (answer : ShownAnswer) :
    SavedApp :=
  match saved.queueOp answer with
  | (next, .notApplied) => next
  | (next, _) =>
    next.withApp { next.app with pendingOwnerSourceUpdate := some (source, origin.lineage) }

def clears (origin : QueueOrigin) (sourcePlaylistId : String) (succeeded : Bool) : Bool :=
  succeeded && saved.app.originIsCurrent origin &&
    saved.app.queuePlaylistId == some sourcePlaylistId

/-- Whether a completed request gives the queue another source. -/
def appliesSource (result : Option String) : PlaylistRequest → Bool
  | .save .. => false
  | .create _ _ _ source origin _ =>
    result.isSome && saved.app.originIsCurrent origin && saved.app.queuePlaylistId == source
  | .replace _ _ _ origin _ => result.isSome && saved.app.originIsCurrent origin

def concluded (index : Nat) (result : Option String) (answer : ShownAnswer)
    (request : PlaylistRequest) : SavedApp :=
  match request with
  | .save mutationId playlistId origin source _ =>
    let saved := saved.withApp (saved.app.takeOnSaveComplete mutationId).2
    let saved := if result.isSome then saved.settleCarried index playlistId else saved
    if saved.clears origin source result.isSome then saved.cleared else saved
  | .create _ name _ _ origin _ | .replace _ _ name origin _ =>
    match result with
    | none => saved
    | some id =>
      let applies := saved.appliesSource result request
      let saved := saved.settleCarried index id
      if applies then saved.applySavedPlaylistSource (.playlist (some id) name) origin answer
      else saved

def finish (request : PlaylistRequest) : SavedApp :=
  saved.send (saved.app.finishPlaylistMutation request.key request.mutationId)

/-- The action that waited for a save, once it is written. -/
def deferred (result : Option String) (request : PlaylistRequest) (finished : SavedApp) :
    Option PendingQueueAction :=
  match request with
  | .save mutationId playlistId origin _ _ =>
    if result.isSome && finished.app.originIsCurrent origin &&
        finished.app.queuePlaylistId == some playlistId then
      (saved.app.takeOnSaveComplete mutationId).1
    else none
  | _ => none

def complete (index : Nat) (result : Option String) (answer : ShownAnswer)
    (request : PlaylistRequest) : SavedApp :=
  let saved := saved.withApp (saved.app.requestCompleted request)
  let finished := (saved.concluded index result answer request).finish request
  (saved.deferred result request finished).elim finished fun action =>
    finished.executePendingQueueAction action answer

end SavedApp

inductive SavedInput where
  | saved
  | savedAs (name : String)
  | overwritten (existingId name : String)
  | consumed (slotId : QueueSlotId) (saveOnConsume : Bool)
  | prompted (action : PendingQueueAction)
  | answeredSave
  | answeredDiscard (answer : ShownAnswer)
  | answeredCancel
  | completed (index : Nat) (result : Option String) (answer : ShownAnswer)
  | edited (link : QueueLink) (answer : ShownAnswer)
  | otherOp (answer : ShownAnswer)
  | played (answer : ShownAnswer)
  | acted (action : PendingQueueAction) (answer : ShownAnswer)
  | snapshot (link : QueueLink) (shown : ShownState)
  | ownerState (lineage : Option Daemon.QueueLineage)
  /-- A link is attached or given up; one that is new shows its own queue. -/
  | switched (shown : Option ShownState) (remoteView : Option QueueState)
  | emby (present : Bool)

namespace SavedApp

variable (saved : SavedApp)

def handle : SavedInput → SavedApp
  | .saved => saved.send (saved.app.savePlaylistToEmby.2)
  | .savedAs name => saved.send (saved.app.saveQueueAsPlaylist name)
  | .overwritten existingId name => saved.send (saved.app.doOverwritePlaylist existingId name)
  | .consumed slotId saveOnConsume => saved.consumed slotId saveOnConsume
  | .prompted action => saved.withApp (saved.app.deferForSaveAnswer action)
  | .answeredSave => saved.send saved.app.answerSave
  | .answeredDiscard answer => saved.answerDiscard answer
  | .answeredCancel => saved.withApp saved.app.cancelSaveAnswer
  | .completed index result answer =>
    match saved.app.writes[index]? with
    | none => saved
    | some write => saved.complete index result answer write.request
  | .edited link answer => saved.queueEdit link answer
  | .otherOp answer => (saved.queueOp answer).1
  | .played answer => saved.playItemsRouted answer
  | .acted action answer => saved.executePendingQueueAction action answer
  | .snapshot link shown => saved.adopt link shown
  | .ownerState lineage => saved.withApp { saved.app with ownerLineage := lineage }
  | .switched shown remoteView =>
    let localView := (shown.map (·.state)).getD saved.app.localView
    let switched := saved.withApp { saved.app with localView, remoteView }.advanceQueueEpoch
    shown.elim switched fun shown => switched.bring shown.news
  | .emby present => saved.withApp { saved.app with embyClient := present }

def machine : Machine SavedApp SavedInput := ⟨handle⟩

/-! ### The record is beside the Client's state -/

variable {saved}

@[simp] theorem bring_app (news : QueueNews) : (saved.bring news).app = saved.app := by
  cases news <;> rfl

@[simp] theorem adopt_app (link : QueueLink) (shown : ShownState) :
    (saved.adopt link shown).app = saved.app.adopt link shown.state := by
  cases link
  · exact bring_app shown.news
  · rfl

end SavedApp

end Mbv.Client
