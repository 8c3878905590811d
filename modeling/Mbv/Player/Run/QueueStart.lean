import Mbv.Player.Run.Thread
import Mbv.Queue.Resume

namespace Mbv.Queue

def AudiobookshelfItem.title : AudiobookshelfItem → String
  | .episode item => item.title
  | .book item => item.title

end Mbv.Queue

namespace Mbv.Player

open Mbv.Queue List

structure ShownItem where
  osdTitle : String := ""
  seriesId : String := ""
  season : Int := 0
  episode : Int := 0

section Shown

-- the series name, which the record keeps in its `detail`
variable (seriesNameOf : String → String)

def displayName (item : EmbyItem) : String :=
  if item.itemType = "Episode" ∧ seriesNameOf item.detail ≠ "" then
    seriesNameOf item.detail ++ " " ++ item.name
  else item.name

/-- `initial_item_state`, of a fresh run. -/
def initialItemState : QueueItem → ShownItem
  | .emby item =>
    { osdTitle := displayName seriesNameOf item
      seriesId := if item.itemType = "Episode" then item.seriesId else ""
      season := item.parentIndexNumber
      episode := item.indexNumber }
  | .feed entry => { osdTitle := entry.title }
  | .twitch item => { osdTitle := item.title }
  | .audiobookshelf item => { osdTitle := item.title }

/-- `active_item_state`, of a live run. -/
def activeItemState : Option QueueItem → ShownItem
  | some (.emby item) =>
    if item.itemType = "Episode" then
      { osdTitle := displayName seriesNameOf item
        seriesId := item.seriesId
        season := item.parentIndexNumber
        episode := item.indexNumber }
    else { osdTitle := displayName seriesNameOf item }
  | some (.feed entry) => { osdTitle := entry.title }
  | some (.audiobookshelf item) => { osdTitle := item.title }
  | some (.twitch item) => { osdTitle := item.title }
  | none => {}

end Shown

/-! ### What mpv is told -/

structure PlaylistEntry where
  slotId : QueueSlotId
  file : Nat := 0
  start : Option Int
deriving DecidableEq

structure MpvQueue where
  playlist : List PlaylistEntry := []
  seek : Option Int := none
deriving DecidableEq

/-- The playlist a command leaves; `playlist-clear` keeps the file that plays. -/
def MpvQueue.apply (starts : QueueSlotId → Option Int) (mpv : MpvQueue) : MpvCommand → MpvQueue
  | .stop => {}
  | .playlistClear => { mpv with playlist := mpv.playlist.take 1 }
  | .playlistRemove index => { mpv with playlist := mpv.playlist.eraseIdx index }
  | .playlistMove index1 index2 =>
    { mpv with
      playlist :=
        match mpv.playlist[index1]? with
        | some entry =>
          (mpv.playlist.eraseIdx index1).insertIdx
            (if index1 < index2 then index2 - 1 else index2) entry
        | none => mpv.playlist }
  | .loadfile slotId mode =>
    let entry : PlaylistEntry := { slotId := slotId, start := starts slotId }
    match mode with
    | .replace => { playlist := [entry] }
    | .append | .appendPlay => { mpv with playlist := mpv.playlist ++ [entry] }
    | .insertAt index => { mpv with playlist := mpv.playlist.insertIdx index entry }

/-- The `start=` option of a position; the beginning needs none. -/
def startOption (ticks : Int) : Option Int := if 0 < ticks then some ticks else none

theorem startOption_eq_none {ticks : Int} : startOption ticks = none ↔ ticks ≤ 0 := by
  unfold startOption
  split <;> simp <;> omega

/-- `source_start_seconds`: a carried position is not gated. -/
def sourceStartTicks (carried : Option Int) (item : QueueItem) : Int :=
  carried.getD ((resumeTicksForItem item).getD 0)

/-- What Emby, Audiobookshelf and mpv answer while a queue starts: with the position of the session
    a start at an Audiobookshelf item opens, and how many further files a book has. -/
structure StartAnswers extends Answers where
  sessionTicks : Int := 0
  furtherFiles : Nat := 0

structure PreparedSource where
  startTicks : Int
  extraSources : Nat := 0
  mergedTimeline : Bool := false

def prepareSource (answers : StartAnswers) : QueueItem → PreparedSource
  | .audiobookshelf (.episode _) => { startTicks := answers.sessionTicks }
  | .audiobookshelf (.book _) =>
    { startTicks := answers.sessionTicks
      extraSources := answers.furtherFiles
      mergedTimeline := true }
  | item => { startTicks := (resumeTicksForItem item).getD 0 }

namespace PreparedSource

variable (prepared : PreparedSource)

def overrideStart (carried : Option Int) : PreparedSource :=
  { prepared with startTicks := carried.getD prepared.startTicks }

/-- A merged timeline takes no start option; it is sought over the whole book. -/
def loadOption : Option Int :=
  if prepared.mergedTimeline then none else startOption prepared.startTicks

def mergeInto (slotId : QueueSlotId) (mpv : MpvQueue) : MpvQueue :=
  if prepared.mergedTimeline then
    { playlist := mpv.playlist ++ (List.range prepared.extraSources).map fun file =>
        { slotId := slotId, file := file + 1, start := none }
      seek := startOption prepared.startTicks }
  else mpv

end PreparedSource

section Starts

variable (answers : StartAnswers) (items : List ExecSlot) (startIdx : Nat) (carried : Option Int)

def refreshSlots : List ExecSlot :=
  items.map fun slot => { slot with item := refreshResume answers.refreshed slot.item }

/-- The position carried for the slot, which only the start slot is. -/
def carriedFor (slotId : QueueSlotId) : Option Int :=
  carried.filter fun _ => items[startIdx]?.any (·.slotId = slotId)

def itemFor (slotId : QueueSlotId) : Option QueueItem :=
  (Keyed.get (·.slotId) slotId items).map fun slot : ExecSlot => slot.item

/-- The loads of `load_queue_sources`: the whole queue, or the start slot as the active file. -/
def coldLoads : List MpvCommand :=
  if items.any fun slot => slot.item.isAudiobookshelf then
    (items[startIdx]?.map fun slot => MpvCommand.loadfile slot.slotId .replace).toList
  else
    (queueLoadIndices items.length startIdx).filterMap fun i =>
      items[i]?.map fun slot => MpvCommand.loadfile slot.slotId (queueLoadLocation i startIdx)

/-- The start a cold load is given, of the refreshed item's source. -/
def coldStartOf (slotId : QueueSlotId) : Option Int :=
  (itemFor (refreshSlots answers items) slotId).bind fun item =>
    ((prepareSource answers item).overrideStart
      (carriedFor items startIdx carried slotId)).loadOption

/-- `load_queue_sources`, into a fresh mpv; `none` is a failed preparation or load. -/
def loadQueueSources : Option MpvQueue :=
  if answers.prepareSource.isSome || answers.loadfile.isSome then none
  else
    some ((coldLoads items startIdx).foldl
      (MpvQueue.apply (coldStartOf answers items startIdx carried)) {})

def liveStartOf (slotId : QueueSlotId) : Option Int :=
  (itemFor (refreshSlots answers items) slotId).bind fun item =>
    startOption (sourceStartTicks (carriedFor items startIdx carried slotId) item)

end Starts

/-- Everything a queue start leaves that the next one starts from. -/
structure QueueStart where
  queue : ExecutionSequence
  currentIdx : Nat
  origin : PlaybackOrigin
  projection : Projection
  lastValidPos : Int
  shown : ShownItem
  mpv : MpvQueue

section Paths

variable (seriesNameOf : String → String) (answers : StartAnswers) (items : List ExecSlot)
  (startIdx : Nat) (carried : Option Int)

def QueueStart.of (run : PlaybackRun) (shown : ShownItem) (mpv : MpvQueue) : QueueStart where
  queue := run.queue
  currentIdx := run.currentIdx
  origin := run.origin
  projection := run.runLifecycle.projection
  lastValidPos := run.lastValidPos
  shown := shown
  mpv := mpv

def coldStart (init : RunInit) : Option QueueStart :=
  let startIdx := min startIdx (items.length - 1)
  (loadQueueSources answers items startIdx carried).bind fun mpv =>
    (PlaybackRun.newFromSlotItems items
        { init with startIdx := startIdx, origin := PlaybackRun.originOf items }).bind fun run =>
      run.activeItem.map fun item => .of run (initialItemState seriesNameOf item) mpv

/-- `SubmitQueue` into a live run, whose mpv already holds a playlist. -/
def submitLive (run : PlaybackRun) (mpv : MpvQueue) : Option QueueStart :=
  (run.handleCommand answers.toAnswers (.submitQueue items startIdx)).map fun (_, next) =>
    let commands := next.mpv.drop run.mpv.length
    let startIdx := min startIdx (items.length - 1)
    let mpv :=
      match items[startIdx]?.filter fun _ =>
          run.runLifecycle.isActiveFile || items.any fun slot => slot.item.isAudiobookshelf with
      | some active =>
        -- the active-file branch prepares the item as it was submitted
        let prepared := (prepareSource answers active.item).overrideStart carried
        prepared.mergeInto active.slotId
          (commands.foldl (MpvQueue.apply fun _ => prepared.loadOption) mpv)
      | none =>
        commands.foldl (MpvQueue.apply (liveStartOf answers items startIdx carried)) mpv
    .of next (activeItemState seriesNameOf next.activeItem) mpv

end Paths

/-! ### What both paths leave -/

section Items

variable {items : List ExecSlot} {startIdx : Nat} {active : ExecSlot}

theorem buildQueue_eq (distinct : (items.map (·.slotId)).Nodup) (found : items[startIdx]? = some active) :
    PlaybackRun.buildQueue items startIdx = some ⟨items, some active.slotId⟩ := by
  have pairs : (items.map fun slot => (slot.slotId, slot.item)).map (·.1) = items.map (·.slotId) := by simp
  have held : (items.map fun slot => (slot.slotId, slot.item)).any (fun slot => slot.1 == active.slotId) = true := by
    simp only [any_map, any_eq_true]
    exact ⟨active, mem_of_getElem? found, by simp⟩
  obtain ⟨queue, built⟩ := Option.isSome_iff_exists.mp (ExecutionSequence.fromSlotItems_isSome.mpr (pairs ▸ distinct) :
      (ExecutionSequence.fromSlotItems _ (items[startIdx]?.map (·.slotId))).isSome)
  unfold PlaybackRun.buildQueue
  unfold ExecutionSequence.fromSlotItems at built ⊢
  split at built
  · rename_i unique
    rw [if_pos unique, found]
    simp [Option.filter, held, Function.comp_def]
  · cases built

theorem slotFor_eq (distinct : (items.map (·.slotId)).Nodup) (found : items[startIdx]? = some active) :
    Keyed.get (·.slotId) active.slotId items = some active := by
  have there : (items.map (·.slotId))[startIdx]? = some active.slotId := by simp [found]
  rw [Keyed.get_eq_getElem?, Keyed.indexOf_of_key_at distinct there]
  exact found

theorem activeItem_eq (run : PlaybackRun) (distinct : (items.map (·.slotId)).Nodup)
    (found : items[startIdx]? = some active) (queue : run.queue = ⟨items, some active.slotId⟩) :
    run.activeItem = some active.item := by
  unfold PlaybackRun.activeItem ExecutionSequence.activeSlot ExecutionSequence.slot
  rw [queue]
  simp [slotFor_eq distinct found]

theorem refreshSlots_slotIds (answers : StartAnswers) (items : List ExecSlot) :
    (refreshSlots answers items).map (·.slotId) = items.map (·.slotId) := by
  simp [refreshSlots]

theorem refreshResume_isAudiobookshelf (refreshed : List (String × (Int × Bool))) (item : QueueItem) :
    (refreshResume refreshed item).isAudiobookshelf = item.isAudiobookshelf := by
  cases item with
  | emby item =>
    unfold refreshResume
    dsimp only
    split <;> rfl
  | feed entry => rfl
  | audiobookshelf item => rfl
  | twitch item => rfl

theorem hasMpvUrlSource_eq (item : QueueItem) : item.hasMpvUrlSource = !item.isAudiobookshelf := by
  cases item <;> rfl

theorem refreshSlots_getElem? (answers : StartAnswers) (items : List ExecSlot) (i : Nat) :
    (refreshSlots answers items)[i]? = items[i]?.map fun slot =>
      { slot with item := refreshResume answers.refreshed slot.item } := by
  simp [refreshSlots]

end Items

section Specs

variable {seriesNameOf : String → String} {answers : StartAnswers} {items : List ExecSlot}
  {startIdx : Nat} {carried : Option Int} {active : ExecSlot}

def StartAnswers.Succeed (answers : StartAnswers) : Prop :=
  answers.prepareSource = none ∧ answers.loadfile = none

instance (answers : StartAnswers) : Decidable answers.Succeed :=
  inferInstanceAs (Decidable (_ ∧ _))

theorem coldStart_spec (distinct : (items.map (·.slotId)).Nodup)
    (found : items[min startIdx (items.length - 1)]? = some active) (succeed : answers.Succeed)
    (init : RunInit) :
    coldStart seriesNameOf answers items startIdx carried init = some
      { queue := ⟨items, some active.slotId⟩
        currentIdx := min startIdx (items.length - 1)
        origin := PlaybackRun.originOf items
        projection :=
          if items.any fun slot => slot.item.isAudiobookshelf then .activeFile else .playlist
        lastValidPos := activeItemLastValidPos (some active.item)
        shown := initialItemState seriesNameOf active.item
        mpv := (coldLoads items (min startIdx (items.length - 1))).foldl (MpvQueue.apply
          (coldStartOf answers items (min startIdx (items.length - 1)) carried)) {} } := by
  obtain ⟨prepared, loaded⟩ := succeed
  have slot := slotFor_eq distinct found
  simp [coldStart, loadQueueSources, prepared, loaded, PlaybackRun.newFromSlotItems,
    buildQueue_eq distinct found, PlaybackRun.initFromQueue, PlaybackRun.activeItem,
    ExecutionSequence.activeSlot, ExecutionSequence.slot, slot, QueueStart.of,
    RunLifecycle.forQueue, ExecutionSequence.hasAudiobookshelfEntries, ExecutionSequence.len]

variable {run : PlaybackRun}

variable (answers) in
theorem takes_playlist (distinct : (items.map (·.slotId)).Nodup) (found : items[min startIdx (items.length - 1)]? = some active)
    (playlist : run.runLifecycle.isActiveFile = false)
    (plain : items.any (fun slot => slot.item.isAudiobookshelf) = false) :
    ∃ next, run.handleCommand answers.toAnswers (.submitQueue items startIdx) = some (true, next) ∧
      next.queue = ⟨refreshSlots answers items, some active.slotId⟩ ∧
      next.currentIdx = min startIdx (items.length - 1) ∧
      next.origin = PlaybackRun.originOf items ∧
      next.runLifecycle.projection = .playlist ∧
      next.lastValidPos = activeItemLastValidPos (some (refreshResume answers.refreshed active.item)) ∧
      next.mpv = run.mpv ++ .stop :: coldLoads items (min startIdx (items.length - 1)) := by
  have ids : ((refreshSlots answers items).map (·.slotId)).Nodup := by
    rw [refreshSlots_slotIds]
    exact distinct
  have start := refreshSlots_getElem? answers items (min startIdx (items.length - 1))
  rw [found, Option.map_some] at start
  have sources : (refreshSlots answers items).all (·.item.hasMpvUrlSource) = true := by
    rw [any_eq_false] at plain
    simp only [refreshSlots, all_map, all_eq_true]
    intro slot member
    simpa [hasMpvUrlSource_eq, refreshResume_isAudiobookshelf] using plain slot member
  have loads : (queueLoadIndices items.length (min startIdx (items.length - 1))).filterMap
      (fun i => (refreshSlots answers items)[i]?.map fun slot =>
        MpvCommand.loadfile slot.slotId (queueLoadLocation i (min startIdx (items.length - 1)))) =
      coldLoads items (min startIdx (items.length - 1)) := by
    simp only [coldLoads, plain, Bool.false_eq_true, if_false, refreshSlots_getElem?, Option.map_map]
    rfl
  have filled : items.isEmpty = false := by
    cases items with
    | nil => simp at found
    | cons => rfl
  have length : (refreshSlots answers items).length = items.length := by simp [refreshSlots]
  have built := buildQueue_eq ids start
  have shown (next : PlaybackRun) (queue : next.queue = ⟨refreshSlots answers items, some active.slotId⟩) :
      activeItemLastValidPos next.activeItem = activeItemLastValidPos (some (refreshResume answers.refreshed active.item)) := by
    rw [activeItem_eq next ids start queue]
  rw [← length] at start built loads ⊢
  unfold PlaybackRun.handleCommand PlaybackRun.cmdSubmitQueue
  simp only [filled, plain, Bool.false_eq_true, if_false, Bool.or_false]
  rw [if_neg (by exact Bool.eq_false_iff.mp playlist)]
  change ∃ next, (if (!(refreshSlots answers items).all (·.item.hasMpvUrlSource)) = true then _
    else _ : Option PlaybackRun).map (true, ·) = _ ∧ _
  rw [if_neg (by simp [sources])]
  unfold refreshSlots at start
  rw [start]
  change ∃ next, ((PlaybackRun.buildQueue (refreshSlots answers items) (min startIdx
      ((refreshSlots answers items).length - 1))).map _ : Option PlaybackRun).map (true, ·) = _ ∧ _
  rw [built]
  refine ⟨_, rfl, rfl, rfl, ?_, ?_, ?_, ?_⟩
  · show PlaybackRun.originOf (refreshSlots answers items) = _
    simp [PlaybackRun.originOf, length]
  · show run.runLifecycle.projection = .playlist
    cases projected : run.runLifecycle.projection with
    | playlist => rfl
    | activeFile => simp [RunLifecycle.isActiveFile, projected] at playlist
  · exact shown _ rfl
  · exact (append_assoc run.mpv [.stop] _).trans (congrArg (fun loads => run.mpv ++ MpvCommand.stop :: loads) loads)

theorem takes_activeFile (distinct : (items.map (·.slotId)).Nodup)
    (found : items[min startIdx (items.length - 1)]? = some active) (succeed : answers.Succeed)
    (activeFile : run.runLifecycle.isActiveFile = true) :
    ∃ next, run.handleCommand answers.toAnswers (.submitQueue items startIdx) = some (true, next) ∧
      next.queue = ⟨items, some active.slotId⟩ ∧
      next.currentIdx = min startIdx (items.length - 1) ∧
      next.origin = PlaybackRun.originOf items ∧
      next.runLifecycle.projection = .activeFile ∧
      next.lastValidPos = activeItemLastValidPos (some active.item) ∧
      next.mpv = run.mpv ++ [.playlistClear, .loadfile active.slotId .replace] := by
  obtain ⟨prepared, loaded⟩ := succeed
  have filled : items.isEmpty = false := by
    cases items with
    | nil => simp at found
    | cons => rfl
  have built := buildQueue_eq distinct found
  have shown (next : PlaybackRun) (queue : next.queue = ⟨items, some active.slotId⟩) :
      activeItemLastValidPos next.activeItem = activeItemLastValidPos (some active.item) := by
    rw [activeItem_eq next distinct found queue]
  unfold PlaybackRun.handleCommand PlaybackRun.cmdSubmitQueue PlaybackRun.replaceWithQueueItems
    PlaybackRun.installActiveProjection
  simp only [filled, Bool.false_eq_true, if_false]
  rw [if_pos (by
    rw [Bool.or_eq_true]
    exact Or.inl activeFile)]
  simp only [found, prepared, built, loaded, Option.bind_some, Option.map_some]
  refine ⟨_, rfl, rfl, rfl, ?_, rfl, shown _ rfl, ?_⟩
  · show (if items.length = 1 then PlaybackOrigin.standalone else .queue) = _
    rfl
  · exact append_assoc run.mpv [.playlistClear] [.loadfile active.slotId .replace]

theorem coldStart_inv {init : RunInit} {fresh : QueueStart}
    (cold : coldStart seriesNameOf answers items startIdx carried init = some fresh) :
    (items.map (·.slotId)).Nodup ∧ answers.Succeed := by
  unfold coldStart at cold
  obtain ⟨mpv, loads, built⟩ := Option.bind_eq_some_iff.mp cold
  obtain ⟨run, started, -⟩ := Option.bind_eq_some_iff.mp built
  obtain ⟨queue, sequence, -⟩ := Option.bind_eq_some_iff.mp started
  have unique := ExecutionSequence.fromSlotItems_isSome.mp (Option.isSome_of_mem sequence)
  refine ⟨by simpa [Function.comp_def] using unique, ?_⟩
  unfold loadQueueSources at loads
  split at loads
  · cases loads
  · rename_i answered
    simpa [StartAnswers.Succeed] using answered

theorem itemFor_refreshed (distinct : (items.map (·.slotId)).Nodup)
    (found : items[min startIdx (items.length - 1)]? = some active) :
    itemFor (refreshSlots answers items) active.slotId = some (refreshResume answers.refreshed active.item) := by
  have start := refreshSlots_getElem? answers items (min startIdx (items.length - 1))
  rw [found, Option.map_some] at start
  have slot := slotFor_eq (by rw [refreshSlots_slotIds]; exact distinct) start
  unfold itemFor
  dsimp only at slot
  rw [slot]
  rfl

theorem carriedFor_start (found : items[min startIdx (items.length - 1)]? = some active) :
    carriedFor items (min startIdx (items.length - 1)) carried active.slotId = carried := by
  cases carried <;> simp [carriedFor, found, Option.filter]

theorem coldStartOf_plain (plain : items.any (fun slot => slot.item.isAudiobookshelf) = false)
    (startIdx : Nat) (carried : Option Int) :
    coldStartOf answers items startIdx carried = liveStartOf answers items startIdx carried := by
  funext slotId
  unfold coldStartOf liveStartOf itemFor
  cases held : Keyed.get (·.slotId) slotId (refreshSlots answers items) with
  | none => rfl
  | some slot =>
    have kind : slot.item.isAudiobookshelf = false := by
      obtain ⟨before, member, rfl⟩ := mem_map.mp (Keyed.get_key held).2
      rw [refreshResume_isAudiobookshelf]
      simpa using any_eq_false.mp plain before member
    simp only [Option.map_some, Option.bind_some]
    cases item : slot.item with
    | audiobookshelf _ => simp [item, QueueItem.isAudiobookshelf] at kind
    | _ => rfl

theorem apply_starts {starts : QueueSlotId → Option Int} {mpv : MpvQueue}
    (told : ∀ entry ∈ mpv.playlist, entry.start = starts entry.slotId) (command : MpvCommand) :
    ∀ entry ∈ (mpv.apply starts command).playlist, entry.start = starts entry.slotId := by
  intro entry member
  cases command with
  | stop => cases member
  | playlistClear => exact told entry (mem_of_mem_take member)
  | playlistRemove index => exact told entry (mem_of_mem_eraseIdx member)
  | playlistMove index1 index2 =>
    unfold MpvQueue.apply at member
    dsimp only at member
    split at member
    · rename_i moved there
      rcases eq_or_mem_of_mem_insertIdx member with rfl | kept
      · exact told entry (mem_of_getElem? there)
      · exact told entry (mem_of_mem_eraseIdx kept)
    · exact told entry member
  | loadfile slotId mode =>
    cases mode with
    | replace =>
      rw [mem_singleton.mp member]
    | append =>
      rcases mem_append.mp member with before | added
      · exact told entry before
      · rw [mem_singleton.mp added]
    | appendPlay =>
      rcases mem_append.mp member with before | added
      · exact told entry before
      · rw [mem_singleton.mp added]
    | insertAt index =>
      rcases eq_or_mem_of_mem_insertIdx member with rfl | kept
      · rfl
      · exact told entry kept

theorem foldl_starts {starts : QueueSlotId → Option Int} {mpv : MpvQueue}
    (told : ∀ entry ∈ mpv.playlist, entry.start = starts entry.slotId)
    (commands : List MpvCommand) :
    ∀ entry ∈ (commands.foldl (MpvQueue.apply starts) mpv).playlist, entry.start = starts entry.slotId := by
  induction commands generalizing mpv with
  | nil => exact told
  | cons command commands ih => exact ih (apply_starts told command)

def serverStart (answers : StartAnswers) (item : QueueItem) : Option Int :=
  startOption ((resumeTicksForItem (refreshResume answers.refreshed item)).getD 0)

/-- mpv is told the server's position for a start at an Emby video that carries no position. -/
def ToldServers (answers : StartAnswers) (carried : Option Int) (active : ExecSlot)
    (mpv : MpvQueue) : Prop :=
  carried = none → resumeSource active.item = .server → ∀ entry ∈ mpv.playlist,
    entry.slotId = active.slotId → entry.start = serverStart answers active.item

variable (answers carried) in
theorem coldStartOf_server (distinct : (items.map (·.slotId)).Nodup)
    (found : items[min startIdx (items.length - 1)]? = some active) :
    ToldServers answers carried active ((coldLoads items (min startIdx (items.length - 1))).foldl
      (MpvQueue.apply (coldStartOf answers items (min startIdx (items.length - 1)) carried))
      {}) := by
  rintro rfl source entry member own
  rw [foldl_starts (by simp) _ entry member, own]
  unfold coldStartOf
  rw [itemFor_refreshed distinct found, carriedFor_start found, Option.bind_some]
  cases item : active.item with
  | emby video =>
    unfold serverStart refreshResume
    dsimp only
    split <;> rfl
  | feed entry => simp [item, resumeSource] at source
  | audiobookshelf book => simp [item, resumeSource] at source
  | twitch stream => simp [item, resumeSource] at source

theorem activeItemState_refreshed (refreshed : List (String × (Int × Bool))) (item : QueueItem) :
    activeItemState seriesNameOf (some (refreshResume refreshed item)) = activeItemState seriesNameOf (some item) := by
  cases item with
  | emby item =>
    unfold refreshResume
    dsimp only
    split <;> rfl
  | feed entry => rfl
  | audiobookshelf item => rfl
  | twitch item => rfl

theorem shown_alike (item : QueueItem) : activeItemState seriesNameOf (some item) = initialItemState seriesNameOf item ↔
      ∀ emby, item = .emby emby → emby.itemType ≠ "Episode" → emby.parentIndexNumber = 0 ∧ emby.indexNumber = 0 := by
  cases item with
  | emby item =>
    by_cases episode : item.itemType = "Episode"
    · simp [activeItemState, initialItemState, episode]
    · have other : "Episode" ≠ item.itemType := Ne.symm episode
      simp [activeItemState, initialItemState, episode, other, eq_comm]
  | feed entry => simp [activeItemState, initialItemState]
  | audiobookshelf item => simp [activeItemState, initialItemState]
  | twitch item => simp [activeItemState, initialItemState]

theorem refreshSlots_eq_iff : refreshSlots answers items = items ↔
    ∀ slot ∈ items, refreshResume answers.refreshed slot.item = slot.item := by
  unfold refreshSlots
  constructor
  · intro same slot member
    have each := map_inj_left.mp (same.trans (map_id items).symm) slot member
    exact congrArg ExecSlot.item each
  · intro same
    refine (map_congr_left fun slot member => ?_).trans (map_id items)
    rw [same slot member]
    rfl

theorem submitLive_playlist (distinct : (items.map (·.slotId)).Nodup)
    (found : items[min startIdx (items.length - 1)]? = some active)
    (playlist : run.runLifecycle.isActiveFile = false)
    (plain : items.any (fun slot => slot.item.isAudiobookshelf) = false) (mpv : MpvQueue) :
    submitLive seriesNameOf answers items startIdx carried run mpv = some
      { queue := ⟨refreshSlots answers items, some active.slotId⟩
        currentIdx := min startIdx (items.length - 1)
        origin := PlaybackRun.originOf items
        projection := .playlist
        lastValidPos :=
          activeItemLastValidPos (some (refreshResume answers.refreshed active.item))
        shown := activeItemState seriesNameOf (some active.item)
        mpv := (coldLoads items (min startIdx (items.length - 1))).foldl (MpvQueue.apply
          (coldStartOf answers items (min startIdx (items.length - 1)) carried)) {} } := by
  obtain ⟨next, taken, queue, place, origin, projection, position, sent⟩ := takes_playlist answers distinct found playlist plain
  have ids : ((refreshSlots answers items).map (·.slotId)).Nodup := by
    rw [refreshSlots_slotIds]
    exact distinct
  have start := refreshSlots_getElem? answers items (min startIdx (items.length - 1))
  rw [found, Option.map_some] at start
  have shown : activeItemState seriesNameOf next.activeItem = activeItemState seriesNameOf (some active.item) := by
    rw [activeItem_eq next ids start queue]
    exact activeItemState_refreshed answers.refreshed active.item
  unfold submitLive
  rw [taken, Option.map_some, coldStartOf_plain plain]
  simp [found, playlist, plain, Option.filter, QueueStart.of, queue, place, origin, projection,
    position, sent, shown, MpvQueue.apply]

theorem submitLive_activeFile (distinct : (items.map (·.slotId)).Nodup)
    (found : items[min startIdx (items.length - 1)]? = some active) (succeed : answers.Succeed)
    (activeFile : run.runLifecycle.isActiveFile = true) (mpv : MpvQueue) :
    submitLive seriesNameOf answers items startIdx carried run mpv = some
      { queue := ⟨items, some active.slotId⟩
        currentIdx := min startIdx (items.length - 1)
        origin := PlaybackRun.originOf items
        projection := .activeFile
        lastValidPos := activeItemLastValidPos (some active.item)
        shown := activeItemState seriesNameOf (some active.item)
        mpv := ((prepareSource answers active.item).overrideStart carried).mergeInto active.slotId
          { playlist := [{
              slotId := active.slotId
              start := ((prepareSource answers active.item).overrideStart carried).loadOption }] } } := by
  obtain ⟨next, taken, queue, place, origin, projection, position, sent⟩ :=
    takes_activeFile distinct found succeed activeFile
  have item := activeItem_eq next distinct found queue
  unfold submitLive
  rw [taken, Option.map_some]
  simp [found, activeFile, Option.filter, QueueStart.of, queue, place, origin, projection,
    position, sent, item, MpvQueue.apply]

variable (answers items carried active) in
/-- What a submission and its answers must be for both paths to start it alike. -/
structure StartsAlike : Prop where
  -- a live run keeps the refreshed items, a fresh one the submitted ones
  refreshed : items.any (fun slot => slot.item.isAudiobookshelf) = false →
    ∀ slot ∈ items, refreshResume answers.refreshed slot.item = slot.item
  -- a fresh run keeps the numbers of items that are not episodes
  numbered : ∀ item, active.item = .emby item → item.itemType ≠ "Episode" →
    item.parentIndexNumber = 0 ∧ item.indexNumber = 0
  -- a live active file loads the item as it was submitted
  server : items.any (fun slot => slot.item.isAudiobookshelf) = true → carried = none →
    serverStart answers active.item = startOption ((resumeTicksForItem active.item).getD 0)
  -- a fresh run leaves the further files of a book, and the seek, to nobody
  book : ∀ item, active.item = .audiobookshelf (.book item) →
    answers.furtherFiles = 0 ∧ carried.getD answers.sessionTicks ≤ 0

theorem coldLoads_activeFile (found : items[startIdx]? = some active)
    (activeFile : items.any (fun slot => slot.item.isAudiobookshelf) = true) :
    coldLoads items startIdx = [.loadfile active.slotId .replace] := by
  simp [coldLoads, activeFile, found]

/-- An active file is told the same by both paths unless the refresh moved it or it is a book with
    more to load than its first file. -/
theorem activeFile_told_iff : ((prepareSource answers active.item).overrideStart carried).mergeInto active.slotId
        { playlist := [{
            slotId := active.slotId
            start := ((prepareSource answers active.item).overrideStart carried).loadOption }] } =
      { playlist := [{
          slotId := active.slotId
          start := ((prepareSource answers (refreshResume answers.refreshed
            active.item)).overrideStart carried).loadOption }] } ↔
    (carried = none → serverStart answers active.item = startOption ((resumeTicksForItem active.item).getD 0)) ∧
    ∀ item, active.item = .audiobookshelf (.book item) → answers.furtherFiles = 0 ∧ carried.getD answers.sessionTicks ≤ 0 := by
  cases item : active.item with
  | emby video =>
    have kind : ∃ moved, refreshResume answers.refreshed (.emby video) = .emby moved := by
      unfold refreshResume
      dsimp only
      split <;> exact ⟨_, rfl⟩
    obtain ⟨moved, refresh⟩ := kind
    cases carried <;> simp [prepareSource, PreparedSource.overrideStart, PreparedSource.mergeInto,
        PreparedSource.loadOption, serverStart, refresh, eq_comm]
  | feed entry =>
    simp [prepareSource, PreparedSource.overrideStart, PreparedSource.mergeInto,
      PreparedSource.loadOption, serverStart, refreshResume]
  | twitch stream =>
    simp [prepareSource, PreparedSource.overrideStart, PreparedSource.mergeInto,
      PreparedSource.loadOption, serverStart, refreshResume]
  | audiobookshelf entry =>
    cases entry with
    | episode episode =>
      simp [prepareSource, PreparedSource.overrideStart, PreparedSource.mergeInto,
        PreparedSource.loadOption, serverStart, refreshResume]
    | book book =>
      simp [prepareSource, PreparedSource.overrideStart, PreparedSource.mergeInto,
        PreparedSource.loadOption, serverStart, refreshResume, startOption_eq_none]

theorem queue_starts_alike {init : RunInit} {mpv : MpvQueue} {fresh taken : QueueStart}
    (found : items[min startIdx (items.length - 1)]? = some active)
    (same : run.runLifecycle.isActiveFile = items.any fun slot => slot.item.isAudiobookshelf)
    (cold : coldStart seriesNameOf answers items startIdx carried init = some fresh)
    (live : submitLive seriesNameOf answers items startIdx carried run mpv = some taken) :
    (taken = fresh ∧ ToldServers answers carried active taken.mpv) ↔
      StartsAlike answers items carried active := by
  obtain ⟨distinct, succeed⟩ := coldStart_inv cold
  rw [coldStart_spec distinct found succeed, Option.some.injEq] at cold
  have told := coldStartOf_server answers carried distinct found
  have both : (taken = fresh ∧ ToldServers answers carried active taken.mpv) ↔ taken = fresh := by
    refine and_iff_left_of_imp fun equal => ?_
    rw [equal, ← cold]
    exact told
  rw [both]
  cases kind : items.any (fun slot => slot.item.isAudiobookshelf) with
  | false =>
    rw [submitLive_playlist distinct found (same.trans kind) kind, Option.some.injEq] at live
    subst live cold
    have plain := any_eq_false.mp kind
    have other : active.item.isAudiobookshelf = false := by
      simpa using plain active (mem_of_getElem? found)
    simp only [QueueStart.mk.injEq, ExecutionSequence.mk.injEq, kind, Bool.false_eq_true, if_false,
      and_true, true_and, shown_alike, refreshSlots_eq_iff]
    constructor
    · rintro ⟨refreshed, -, numbered⟩
      refine ⟨fun _ => refreshed, numbered, fun held => ?_, fun book held => ?_⟩
      · rw [kind] at held
        cases held
      · rw [held] at other
        cases other
    · intro alike
      have refreshed := alike.refreshed kind
      refine ⟨refreshed, ?_, alike.numbered⟩
      rw [refreshed active (mem_of_getElem? found)]
  | true =>
    rw [submitLive_activeFile distinct found succeed (same.trans kind), Option.some.injEq] at live
    subst live cold
    rw [coldLoads_activeFile found kind, foldl_cons, foldl_nil]
    have start : coldStartOf answers items (min startIdx (items.length - 1)) carried
        active.slotId = ((prepareSource answers (refreshResume answers.refreshed
          active.item)).overrideStart carried).loadOption := by
      unfold coldStartOf
      rw [itemFor_refreshed distinct found, carriedFor_start found, Option.bind_some]
    simp only [QueueStart.mk.injEq, kind, if_true, true_and, shown_alike, MpvQueue.apply, start,
      activeFile_told_iff]
    constructor
    · rintro ⟨numbered, server, book⟩
      refine ⟨fun plain => ?_, numbered, fun _ => server, book⟩
      rw [kind] at plain
      cases plain
    · intro alike
      exact ⟨alike.numbered, alike.server kind, alike.book⟩

end Specs

def series (positionTicks : Int) : List ExecSlot :=
  ["a", "b"].mapIdx fun i id =>
    { slotId := ⟨(i + 1).toUInt64⟩
      item := .emby ⟨id, id, "Episode", "Video", 1000, false, positionTicks, "s", 1 + i, 2, ""⟩ }

def halfSeen : StartAnswers := { refreshed := [("a", (500, false)), ("b", (500, false))] }

def bookAndFilm (positionTicks : Int) : List ExecSlot :=
  [⟨⟨1⟩, .audiobookshelf (.book ⟨"l", "l", none, 0, false, false, ""⟩)⟩,
    ⟨⟨2⟩, .emby ⟨"a", "a", "Movie", "Video", 1000, false, positionTicks, "", 0, 0, ""⟩⟩]

def filmRun : Option PlaybackRun :=
  PlaybackRun.newFromSlotItems
    [⟨⟨7⟩, .emby ⟨"f", "f", "Movie", "Video", 1000, false, 0, "", 0, 0, ""⟩⟩]
    { startIdx := 0, origin := .standalone }

def bookRun : Option PlaybackRun :=
  PlaybackRun.newFromSlotItems [⟨⟨7⟩, .audiobookshelf (.book ⟨"m", "m", none, 0, false, false, ""⟩)⟩]
    { startIdx := 0, origin := .standalone }

/-- Two episodes submitted at the positions Emby has. -/
theorem queue_starts_alike_at_series :
    ∃ run start, filmRun = some run ∧
      coldStart id halfSeen (series 500) 1 none { startIdx := 1, origin := .queue } = some start ∧
      submitLive id halfSeen (series 500) 1 none run {} = some start ∧
      ToldServers halfSeen none ⟨⟨2⟩, .emby ⟨"b", "b", "Episode", "Video", 1000, false, 500, "s",
        2, 2, ""⟩⟩ start.mpv := by
  obtain ⟨run, playing⟩ := Option.isSome_iff_exists.mp (show filmRun.isSome by decide)
  obtain ⟨fresh, cold⟩ := Option.isSome_iff_exists.mp
    (show (coldStart id halfSeen (series 500) 1 none
      { startIdx := 1, origin := .queue }).isSome by decide)
  have projected : ∀ run ∈ filmRun, run.runLifecycle.isActiveFile =
      (series 500).any (fun slot => slot.item.isAudiobookshelf) ∧
      (submitLive id halfSeen (series 500) 1 none run {}).isSome := by decide
  obtain ⟨same, accepted⟩ := projected run playing
  obtain ⟨taken, live⟩ := Option.isSome_iff_exists.mp accepted
  have alike := (queue_starts_alike rfl same cold live).mpr
    { refreshed := fun _ => by decide
      numbered := by
        intro item held other
        cases held
        exact absurd rfl other
      server := by decide
      book := by
        intro item held
        cases held }
  exact ⟨run, fresh, playing, cold, alike.1 ▸ live, alike.1 ▸ alike.2⟩

/-- Two episodes submitted as unseen: only the live run keeps Emby's positions. A film beside a book
    then starts where Emby has it in a fresh run, and at its beginning in a live one. -/
theorem queue_starts_differ :
    (∃ run ∈ filmRun, run.runLifecycle.isActiveFile = false ∧
      ∃ fresh ∈ coldStart id halfSeen (series 0) 0 none { startIdx := 0, origin := .queue },
      ∃ taken ∈ submitLive id halfSeen (series 0) 0 none run {},
        fresh.queue.slots = series 0 ∧ fresh.lastValidPos = 0 ∧
        taken.queue.slots = series 500 ∧ taken.lastValidPos = 500) ∧
    ∃ run ∈ bookRun, run.runLifecycle.isActiveFile = true ∧
      ∃ fresh ∈ coldStart id halfSeen (bookAndFilm 0) 1 none { startIdx := 1, origin := .queue },
      ∃ taken ∈ submitLive id halfSeen (bookAndFilm 0) 1 none run {},
        fresh.mpv = { playlist := [⟨⟨2⟩, 0, some 500⟩] } ∧
        taken.mpv = { playlist := [⟨⟨2⟩, 0, none⟩] } := by
  decide

end Mbv.Player
