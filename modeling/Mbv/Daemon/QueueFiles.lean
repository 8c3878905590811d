import Mbv.Queue.History
import Mbv.Daemon.SavedQueue
import Mbv.Daemon.RemotePlay

/-! The files an owner saves its queue in, and the queue its next process starts with. -/

namespace Mbv.Daemon

open Mbv.Queue

def clearServicePosition : QueueItem → QueueItem
  | .emby emby => .emby { emby with playbackPositionTicks := 0 }
  | .audiobookshelf (.episode episode) => .audiobookshelf (.episode { episode with positionTicks := 0 })
  | .audiobookshelf (.book book) => .audiobookshelf (.book { book with positionTicks := 0 })
  | item => item

def QueueState.withoutServicePositions (state : QueueState) : QueueState :=
  { state with items := state.items.map clearServicePosition }

/-- What a snapshot reads of the player's status. -/
structure SnapshotStatus where
  active : Bool
  videoHeight : Int
  lastValidPos : Int
  positionTicks : Int

/-- The map has one entry for an id, the last one inserted. -/
def insertPosition (id : String) (ticks : Int) (positions : List (String × Int)) :
    List (String × Int) :=
  (id, ticks) :: positions.filter (·.1 ≠ id)

def slotPositions (slots : List QueueSlot) : List (String × Int) :=
  slots.foldl (fun positions slot =>
    if slot.item.isVideo && slot.localProgress.positionTicks > 0 then
      insertPosition slot.item.id slot.localProgress.positionTicks positions
    else positions) []

def projectQueueState (queue : PlaybackQueue) (source : QueueSource) (status : SnapshotStatus) :
    QueueState :=
  let activeIdx := queue.activeIndex.getD 0
  let active := queue.slots[activeIdx]?
  { source := source
    items := queue.slots.map (·.item)
    cursor := activeIdx
    lastPlayedContentId := if status.active then active.map (·.item.contentId) else none
    lastPlayedItemId := if status.active then active.map (·.item.id) else none
    lastPlayedCompleted := false
    positions :=
      match active.filter fun slot => status.active && status.videoHeight > 0 && slot.item.isVideo with
      | none => slotPositions queue.slots
      | some slot =>
        insertPosition slot.item.id
          (if status.lastValidPos > 0 then status.lastValidPos else status.positionTicks)
          (slotPositions queue.slots) }

structure StayAliveQueueState where
  queue : QueueState
  lineage : QueueLineage

structure SavedOwner where
  queue : PlaybackQueue
  source : QueueSource
  lineage : QueueLineage

def stayAliveOwnerQueueSnapshot (owner : SavedOwner) (status : SnapshotStatus) :
    StayAliveQueueState :=
  ⟨projectQueueState owner.queue owner.source status, owner.lineage⟩

/-- An owner file that cannot be read is there and loads nothing. -/
structure QueueFiles where
  stayAlive : Option (Option StayAliveQueueState) := none
  queueState : Option QueueState := none

namespace QueueFiles

variable (files : QueueFiles)

/-- A write that fails leaves the file as it was: the new text is renamed over it. -/
def saveQueueState (fails : Bool) (state : QueueState) : QueueFiles :=
  if fails then files else { files with queueState := some state.withoutServicePositions }

def loadQueueState : Option QueueState := files.queueState.map (·.withoutServicePositions)

def saveStayAliveQueueState (fails : Bool) (state : StayAliveQueueState) : QueueFiles :=
  if fails then files
  else
    { files with
      stayAlive := some (some { state with queue := state.queue.withoutServicePositions }) }

def loadStayAliveQueueState : Option StayAliveQueueState :=
  files.stayAlive.join.map fun state => { state with queue := state.queue.withoutServicePositions }

def legacyQueueForOwnerIfAbsent (legacy : Option QueueState) : Option StayAliveQueueState :=
  if files.stayAlive.isSome then none else legacy.map (⟨·, 0⟩)

def initializeQueue (role : DaemonRole) : SavedOwner :=
  let ownerState :=
    if role = .local then
      files.loadStayAliveQueueState.or (files.legacyQueueForOwnerIfAbsent files.loadQueueState)
    else none
  match ownerState with
  | none => ⟨.fromQueueItems [] none 0, .unknown, 0⟩
  | some state =>
    ⟨.fromQueueItems state.queue.items (some state.queue.cursor) 0, state.queue.source, state.lineage⟩

def shutdownQueueState (role : DaemonRole) (state : QueueState) : QueueState :=
  if role ≠ .local && state.items.isEmpty then
    (files.loadQueueState.filter fun existing => !existing.items.isEmpty).getD state
  else state

end QueueFiles

/-! ### An owner's processes, one after the other -/

structure PersistedOwner where
  owner : SavedOwner
  files : QueueFiles
  /-- The worker's requests, each beside the owner it is a snapshot of. -/
  requests : List (StayAliveQueueState × SavedOwner) := []
  /-- The owner of the last snapshot written. -/
  saved : Option SavedOwner := none

inductive PersistInput where
  | edit (owner : SavedOwner)
  /-- A dirty queue is sent to the persistence worker. -/
  | persist (status : SnapshotStatus)
  | write (fails : Bool)
  | shutdown (status : SnapshotStatus) (fails : Bool)
  /-- The process ends, with whatever the worker has not written, and another one starts. -/
  | restart (status : SnapshotStatus) (fails : Bool)

namespace PersistedOwner

def step (role : DaemonRole) (s : PersistedOwner) : PersistInput → PersistedOwner
  | .edit owner => { s with owner := owner }
  | .persist status =>
    if role = .local then
      { s with requests := s.requests ++ [(stayAliveOwnerQueueSnapshot s.owner status, s.owner)] }
    else s
  | .write fails =>
    match s.requests with
    | [] => s
    | (state, owner) :: requests =>
      { s with
        files := s.files.saveStayAliveQueueState fails state
        requests := requests
        saved := if fails then s.saved else some owner }
  | .shutdown status fails =>
    let state := projectQueueState s.owner.queue s.owner.source status
    { s with files := s.files.saveQueueState fails (s.files.shutdownQueueState role state) }
  | .restart status fails =>
    let owner := s.files.initializeQueue role
    if role = .local then
      { owner := owner
        files := s.files.saveStayAliveQueueState fails (stayAliveOwnerQueueSnapshot owner status)
        saved := if fails then s.saved else some owner }
    else { s with owner := owner, requests := [] }

def machine (role : DaemonRole) : Machine PersistedOwner PersistInput := ⟨step role⟩

end PersistedOwner

/-- The same items in the same order without a service's positions, at the same place and under the
    same name; a queue too long for its ids would repeat one. -/
structure Restores (owner restarted : SavedOwner) : Prop where
  items : restarted.queue.slots.map (·.item) =
    owner.queue.slots.map fun slot => clearServicePosition slot.item
  active : owner.queue.slots.length < u64Max → restarted.queue.activeIndex =
    if owner.queue.slots = [] then none else some (owner.queue.activeIndex.getD 0)
  source : restarted.source = owner.source
  lineage : restarted.lineage = owner.lineage

theorem clearServicePosition_clear (item : QueueItem) :
    clearServicePosition (clearServicePosition item) = clearServicePosition item := by
  rcases item with _ | _ | (_ | _) | _ <;> rfl

theorem withoutServicePositions_again (state : QueueState) :
    state.withoutServicePositions.withoutServicePositions = state.withoutServicePositions := by
  simp [QueueState.withoutServicePositions, Function.comp_def, clearServicePosition_clear]

theorem fromQueueItems_activeIndex {items : List QueueItem} (room : items.length < u64Max)
    {cursor : Nat} (inside : cursor < items.length) :
    (PlaybackQueue.fromQueueItems items (some cursor) 0).activeIndex = some cursor := by
  generalize built : PlaybackQueue.fromQueueItems items (some cursor) 0 = queue
  have distinct : queue.slotIds.Nodup := built ▸ (fromQueueItems_wellFormed (some cursor) 0 room).distinct
  have marker : queue.activeSlotId = queue.slotIds[cursor]? := by
    rw [← built]
    exact (List.getElem?_map ..).symm
  have count : queue.slotIds.length = items.length := by
    rw [← fromQueueItems_items items (some cursor) 0, built, PlaybackQueue.slotIds, List.length_map, List.length_map]
  have there := List.getElem?_eq_getElem (count ▸ inside)
  rw [PlaybackQueue.activeIndex, marker, there, Option.bind_some]
  exact Keyed.indexOf_of_key_at distinct there

/-- What is projected and cleared starts the owner it was projected from again. -/
theorem restores_snapshot (owner : SavedOwner) (status : SnapshotStatus) :
    let state := (stayAliveOwnerQueueSnapshot owner status).queue.withoutServicePositions
    Restores owner ⟨.fromQueueItems state.items (some state.cursor) 0, state.source,
        (stayAliveOwnerQueueSnapshot owner status).lineage⟩ := by
  have items : (projectQueueState owner.queue owner.source status).withoutServicePositions.items =
      owner.queue.slots.map fun slot => clearServicePosition slot.item := by
    simp [QueueState.withoutServicePositions, projectQueueState, Function.comp_def]
  refine ⟨(fromQueueItems_items _ _ _).trans items, fun room => ?_, rfl, rfl⟩
  show (PlaybackQueue.fromQueueItems (projectQueueState owner.queue owner.source
    status).withoutServicePositions.items (some (owner.queue.activeIndex.getD 0)) 0).activeIndex = _
  rw [items]
  split
  · rename_i empty
    rw [empty]
    rfl
  · rename_i filled
    refine fromQueueItems_activeIndex (by simpa using room) ?_
    rw [List.length_map]
    cases active : owner.queue.activeIndex with
    | none => exact List.length_pos_iff.mpr filled
    | some index =>
      obtain ⟨slotId, -, found⟩ := Option.bind_eq_some_iff.mp active
      exact Keyed.indexOf_lt found

namespace PersistedOwner

/-- The owner file is that of the last snapshot written, and the worker's requests are snapshots. -/
structure Saves (s : PersistedOwner) : Prop where
  requests : ∀ request ∈ s.requests, ∃ status, request.1 = stayAliveOwnerQueueSnapshot request.2 status
  file : ∀ owner ∈ s.saved, ∃ status, s.files.stayAlive =
    (s.files.saveStayAliveQueueState false (stayAliveOwnerQueueSnapshot owner status)).stayAlive

theorem Saves.initializes {s : PersistedOwner} (saves : s.Saves) {owner : SavedOwner}
    (saved : s.saved = some owner) : Restores owner (s.files.initializeQueue .local) := by
  obtain ⟨status, file⟩ := saves.file owner saved
  have restores := restores_snapshot owner status
  rw [← withoutServicePositions_again] at restores
  simpa [QueueFiles.initializeQueue, QueueFiles.loadStayAliveQueueState, file, QueueFiles.saveStayAliveQueueState] using restores

theorem step_saves {s : PersistedOwner} (saves : s.Saves) (input : PersistInput) : (s.step .local input).Saves := by
  cases input with
  | edit owner => exact ⟨saves.requests, saves.file⟩
  | persist status =>
    refine ⟨fun request member => ?_, saves.file⟩
    rcases List.mem_append.mp member with before | last
    · exact saves.requests request before
    · rw [List.mem_singleton.mp last]
      exact ⟨status, rfl⟩
  | write fails =>
    unfold step
    cases waiting : s.requests with
    | nil => exact saves
    | cons request requests =>
      obtain ⟨status, same⟩ := saves.requests request (waiting ▸ List.mem_cons_self)
      refine ⟨fun later member => saves.requests later (waiting ▸ List.mem_cons_of_mem _ member), ?_⟩
      cases fails with
      | true => exact saves.file
      | false =>
        rintro owner ⟨⟩
        exact ⟨status, by simp [QueueFiles.saveStayAliveQueueState, same]⟩
  | shutdown status fails =>
    have kept (state : QueueState) : (s.files.saveQueueState fails state).stayAlive =
        s.files.stayAlive := by
      unfold QueueFiles.saveQueueState
      split <;> rfl
    exact ⟨saves.requests, fun owner saved => (saves.file owner saved).imp fun _ => (kept _).trans⟩
  | restart status fails =>
    refine ⟨fun _ member => absurd member List.not_mem_nil, ?_⟩
    cases fails with
    | true => exact saves.file
    | false =>
      rintro owner ⟨⟩
      exact ⟨status, rfl⟩

/-- However an owner's process ends, the next one starts with the queue of the last snapshot that
    was written. -/
theorem restart_restores_saved (owner : SavedOwner) (files : QueueFiles) (inputs : List PersistInput) :
    (machine .local).Along (fun s input => ∀ status fails, input = .restart status fails →
      ∀ saved ∈ s.saved, Restores saved (s.step .local input).owner) { owner := owner, files := files } inputs := by
  have start : Saves { owner := owner, files := files } := ⟨by simp, by simp⟩
  have keep (s : PersistedOwner) (input : PersistInput) (saves : s.Saves) (_ : True) :
      ((machine .local).step s input).Saves := step_saves saves input
  refine Machine.along_of_invariant keep (fun s input saves _ => ?_) start (Machine.along_of_forall fun _ _ _ => trivial)
  rintro status fails rfl owner saved
  exact saves.initializes saved

/-- The queue file of the packaged owner holds a queue that is not empty. -/
def Holds (s : PersistedOwner) : Prop := ∃ state ∈ s.files.loadQueueState, state.items ≠ []

theorem shutdown_holds {files : QueueFiles} (state : QueueState)
    (held : ∃ existing ∈ files.loadQueueState, existing.items ≠ []) :
    (files.shutdownQueueState .packaged state).items ≠ [] := by
  obtain ⟨existing, loaded, filled⟩ := held
  rw [Option.mem_def] at loaded
  unfold QueueFiles.shutdownQueueState
  split
  · have kept : files.loadQueueState.filter (fun existing => !existing.items.isEmpty) =
        some existing := Option.filter_eq_some_iff.mpr ⟨loaded, by simpa using filled⟩
    rw [kept]
    exact filled
  · rename_i loads
    simpa using loads

/-- A packaged owner starts empty, and its shutdowns never empty what an earlier one saved. -/
theorem packaged_queue_never_emptied {s : PersistedOwner} (held : s.Holds)
    (inputs : List PersistInput) : ((machine .packaged).run s inputs).Holds := by
  have keep (s : PersistedOwner) (input : PersistInput) (held : s.Holds) : ((machine .packaged).step s input).Holds := by
    cases input with
    | edit | persist | restart => exact held
    | write fails =>
      show (step .packaged s (.write fails)).Holds
      unfold step
      cases s.requests with
      | nil => exact held
      | cons => cases fails <;> exact held
    | shutdown status fails =>
      cases fails with
      | true => exact held
      | false =>
        have filled := shutdown_holds (projectQueueState s.owner.queue s.owner.source status) held
        exact ⟨_, rfl, by simpa [QueueState.withoutServicePositions] using filled⟩
  exact Machine.run_holds keep inputs held

def oneStreamSaved : PersistedOwner where
  owner := ⟨.fromQueueItems [] none 0, .unknown, 0⟩
  files := { queueState := some { items := [.twitch ⟨"first", ""⟩] } }

theorem packaged_queue_never_emptied_at_restart : ((machine .packaged).run oneStreamSaved
      [.restart ⟨false, 0, 0, 0⟩ false, .shutdown ⟨false, 0, 0, 0⟩ false]).Holds :=
  packaged_queue_never_emptied ⟨_, rfl, by decide⟩ _

end PersistedOwner

end Mbv.Daemon
