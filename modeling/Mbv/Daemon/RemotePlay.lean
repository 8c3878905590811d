import Mbv.Daemon.ObservedSlot
import Mbv.Daemon.QueueLineage
import Mbv.Player.Run.PlayingHistory

/-! A Play command of the Emby server: which item it starts, and where. -/

namespace Mbv.Daemon

open Mbv.Queue Mbv.Player List

def sequentialSlotIds (items : List QueueItem) : List ExecSlot :=
  items.mapIdx fun i item => ⟨⟨UInt64.ofNat (i + 1)⟩, item⟩

/-- Where a submission goes: to a fresh run, or into the live one. -/
inductive SubmitPath where
  | fresh (init : RunInit)
  | live (run : PlaybackRun) (mpv : MpvQueue)

namespace SubmitPath

def submit (seriesNameOf : String → String) (answers : StartAnswers) (items : List ExecSlot)
    (startIdx : Nat) : SubmitPath → Option QueueStart
  | .fresh init => coldStart seriesNameOf answers items startIdx none init
  | .live run mpv => submitLive seriesNameOf answers items startIdx none run mpv

/-- The live run plays an active file, which loads its item as it was submitted. -/
def isActiveFile : SubmitPath → Bool
  | .fresh _ => false
  | .live run _ => run.runLifecycle.isActiveFile

end SubmitPath

/-! ### The submitted slots -/

theorem saturatingSucc_ofNat {n : Nat} (room : n + 1 < 2 ^ 64) : saturatingSucc (UInt64.ofNat n) = UInt64.ofNat (n + 1) := by
  apply UInt64.toNat_inj.mp
  rw [saturatingSucc_toNat, UInt64.toNat_ofNat', UInt64.toNat_ofNat']
  simp only [u64Max]
  omega

theorem numbered_slotIds (items : List QueueItem) (first : Nat) (fits : first + items.length ≤ 2 ^ 64) :
    (items.mapIdx fun i item => (ExecSlot.mk ⟨UInt64.ofNat (i + first)⟩ item)).map (·.slotId) =
      allocated (UInt64.ofNat first) items.length := by
  induction items generalizing first with
  | nil => rfl
  | cons item items ih =>
    rw [length_cons] at fits ⊢
    rw [mapIdx_cons, map_cons, allocated, Nat.zero_add]
    congr 1
    cases items with
    | nil => rfl
    | cons second items =>
      rw [length_cons] at fits
      rw [saturatingSucc_ofNat (by omega), ← ih (first + 1) (by rw [length_cons]; omega)]
      have same : (fun (i : Nat) (item : QueueItem) =>
          ExecSlot.mk ⟨UInt64.ofNat (i + 1 + first)⟩ item) =
          fun i item => ⟨⟨UInt64.ofNat (i + (first + 1))⟩, item⟩ := by
        funext i item
        rw [Nat.add_assoc, Nat.add_comm 1 first]
      rw [same]

theorem sequentialSlotIds_slotIds {items : List QueueItem} (fits : items.length < 2 ^ 64) :
    (sequentialSlotIds items).map (·.slotId) = allocated 1 items.length :=
  numbered_slotIds items 1 (by omega)

theorem sequentialSlotIds_items (items : List QueueItem) : (sequentialSlotIds items).map (·.item) = items := by
  apply ext_getElem?
  intro i
  rw [sequentialSlotIds, List.getElem?_map, List.getElem?_mapIdx, Option.map_map]
  cases items[i]? <;> rfl

theorem pushAll_items (queue : PlaybackQueue) (items : List QueueItem) :
    (queue.pushAll items).slots.map (·.item) = queue.slots.map (·.item) ++ items := by
  induction items generalizing queue with
  | nil => exact (append_nil _).symm
  | cons item items ih =>
    unfold PlaybackQueue.pushAll
    dsimp only
    rw [ih]
    simp [PlaybackQueue.allocateSlotId]

theorem fromQueueItems_items (items : List QueueItem) (activeIndex : Option Nat) (mint : UInt64) :
    (PlaybackQueue.fromQueueItems items activeIndex mint).slots.map (·.item) = items := by
  unfold PlaybackQueue.fromQueueItems
  exact (pushAll_items _ items).trans (nil_append _)

theorem fromQueueItems_activeSlotId (items : List QueueItem) (activeIndex : Nat) (mint : UInt64) :
    (PlaybackQueue.fromQueueItems items (some activeIndex) mint).activeSlotId = (allocated 1 items.length)[activeIndex]? := by
  rw [← PlayerOwner.fromQueueItems_slotIds items (some activeIndex) mint]
  exact (List.getElem?_map ..).symm

/-! ### Where a start begins -/

theorem startOption_resume {item : EmbyItem} {ticks : Int} (positive : 0 < ticks) :
    startOption ((resumeTicksForItem (.emby item)).getD 0) = some ticks ↔
      item.isAudio = false ∧ Queue.shouldResume ticks item.runtimeTicks = true ∧ item.playbackPositionTicks = ticks := by
  unfold resumeTicksForItem resumeSource
  cases audio : item.isAudio with
  | true =>
    simp [audio, startOption]
  | false =>
    cases resumes : Queue.shouldResume item.playbackPositionTicks item.runtimeTicks with
    | true =>
      have kept : (some item.runtimeTicks).filter (Queue.shouldResume item.playbackPositionTicks) = some item.runtimeTicks := by
        rw [Option.filter_some, resumes]
        rfl
      simp only [audio, Bool.false_eq_true, if_false, QueueItem.runtimeTicks,
        QueueItem.playbackPositionTicks, kept, Option.map_some, Option.getD_some, true_and]
      unfold startOption
      constructor
      · intro starts
        split at starts
        · cases starts
          exact ⟨resumes, rfl⟩
        · cases starts
      · rintro ⟨-, rfl⟩
        rw [if_pos positive]
    | false =>
      have dropped : (some item.runtimeTicks).filter (Queue.shouldResume item.playbackPositionTicks) = none := by
        rw [Option.filter_some, resumes]
        rfl
      simp only [audio, Bool.false_eq_true, if_false, QueueItem.runtimeTicks,
        QueueItem.playbackPositionTicks, dropped, Option.map_none, Option.getD_none, true_and]
      constructor
      · intro starts
        cases starts
      · rintro ⟨still, rfl⟩
        rw [resumes] at still
        cases still

theorem serverStart_eq {answers : StartAnswers} {item : EmbyItem} {ticks : Int} (positive : 0 < ticks) :
    serverStart answers (.emby item) = some ticks ↔ item.isAudio = false ∧ Queue.shouldResume ticks item.runtimeTicks = true ∧
        ∃ played, answers.refreshed.lookup item.id = some (ticks, played) := by
  unfold serverStart refreshResume
  dsimp only
  cases audio : item.isAudio with
  | true =>
    rw [if_pos rfl, startOption_resume positive, audio]
    simp
  | false =>
    rw [if_neg Bool.false_ne_true, startOption_resume positive]
    refine and_congr (iff_of_true audio rfl) (and_congr_right fun _ => ?_)
    cases found : answers.refreshed.lookup item.id with
    | none =>
      simp only [Option.getD_none]
      constructor
      · rintro rfl
        exact absurd positive (by decide)
      · rintro ⟨played, none⟩
        cases none
    | some answer =>
      obtain ⟨position, played⟩ := answer
      simp only [Option.getD_some, Option.some.injEq, Prod.mk.injEq]
      constructor
      · rintro rfl
        exact ⟨played, rfl, rfl⟩
      · rintro ⟨_, same, -⟩
        exact same

/-! ### Both paths -/

theorem foldl_loads_keep {starts : QueueSlotId → Option Int} {mpv : MpvQueue} {slotId : QueueSlotId}
    (there : ∃ entry ∈ mpv.playlist, entry.slotId = slotId) {commands : List MpvCommand}
    (loads : ∀ command ∈ commands, ∃ other mode, command = .loadfile other mode ∧ mode ≠ .replace) :
    ∃ entry ∈ (commands.foldl (MpvQueue.apply starts) mpv).playlist, entry.slotId = slotId := by
  induction commands generalizing mpv with
  | nil => exact there
  | cons command commands ih =>
    refine ih ?_ fun later member => loads later (mem_cons_of_mem command member)
    obtain ⟨other, mode, rfl, placed⟩ := loads command mem_cons_self
    obtain ⟨entry, member, own⟩ := there
    refine ⟨entry, ?_, own⟩
    cases mode with
    | replace => exact absurd rfl placed
    | append => exact mem_append_left _ member
    | appendPlay => exact mem_append_left _ member
    | insertAt index =>
      show entry ∈ mpv.playlist.insertIdx index _
      by_cases inside : index ≤ mpv.playlist.length
      · exact (mem_insertIdx inside).mpr (.inr member)
      · rw [insertIdx_of_length_lt (by omega)]
        exact member

variable {seriesNameOf : String → String} {answers : StartAnswers} {items : List ExecSlot}
  {startIdx : Nat} {active : ExecSlot} {path : SubmitPath}

theorem coldLoads_start (plain : items.any (·.item.isAudiobookshelf) = false)
    (found : items[startIdx]? = some active) (starts : QueueSlotId → Option Int) :
    ∃ entry ∈ ((coldLoads items startIdx).foldl (MpvQueue.apply starts) {}).playlist, entry.slotId = active.slotId := by
  have placed := PlaybackRun.coldLoads_placed plain startIdx
  have first : ∃ rest, coldLoads items startIdx = .loadfile active.slotId (queueLoadLocation startIdx startIdx) :: rest := by
    unfold coldLoads queueLoadIndices
    rw [plain, if_neg Bool.false_ne_true, append_assoc, singleton_append, filterMap_cons, found]
    exact ⟨_, rfl⟩
  obtain ⟨rest, loads⟩ := first
  rw [loads] at placed ⊢
  have here : queueLoadLocation startIdx startIdx = .append := by simp [queueLoadLocation]
  rw [here, foldl_cons]
  apply foldl_loads_keep
  · exact ⟨{ slotId := active.slotId, start := starts active.slotId }, by simp [MpvQueue.apply], rfl⟩
  · exact fun command member => placed command (mem_cons_of_mem _ member)

/-- What a submission of Emby items starts: its slots under their ids, the start slot active, and the
    start entry loaded at the position of the path. -/
structure StartsAt (answers : StartAnswers) (items : List ExecSlot) (active : ExecSlot)
    (activeFile : Bool) (start : QueueStart) : Prop where
  activeSlotId : start.queue.activeSlotId = some active.slotId
  slots : start.queue.slots = items ∨ start.queue.slots = refreshSlots answers items
  loaded : ∃ entry ∈ start.mpv.playlist, entry.slotId = active.slotId
  position : ∀ entry ∈ start.mpv.playlist, entry.slotId = active.slotId → entry.start =
    if activeFile then startOption ((resumeTicksForItem active.item).getD 0)
    else serverStart answers active.item

theorem coldStartOf_emby (distinct : (items.map (·.slotId)).Nodup)
    (found : items[min startIdx (items.length - 1)]? = some active) {item : EmbyItem}
    (emby : active.item = .emby item) :
    coldStartOf answers items (min startIdx (items.length - 1)) none active.slotId = serverStart answers active.item := by
  unfold coldStartOf
  rw [itemFor_refreshed distinct found, carriedFor_start found, Option.bind_some, emby]
  unfold serverStart refreshResume
  dsimp only
  split <;> rfl

theorem submit_startsAt (distinct : (items.map (·.slotId)).Nodup)
    (found : items[min startIdx (items.length - 1)]? = some active) (succeed : answers.Succeed)
    {item : EmbyItem} (emby : active.item = .emby item)
    (plain : items.any (·.item.isAudiobookshelf) = false) (path : SubmitPath) :
    ∃ start, path.submit seriesNameOf answers items startIdx = some start ∧
      StartsAt answers items active path.isActiveFile start := by
  have loaded := coldLoads_start plain found (coldStartOf answers items (min startIdx (items.length - 1)) none)
  have position : ∀ entry ∈ ((coldLoads items (min startIdx (items.length - 1))).foldl
      (MpvQueue.apply (coldStartOf answers items (min startIdx (items.length - 1)) none))
        {}).playlist, entry.slotId = active.slotId → entry.start = serverStart answers active.item := by
    intro entry member own
    rw [foldl_starts (by simp) _ entry member, own]
    exact coldStartOf_emby distinct found emby
  cases path with
  | fresh init =>
    exact ⟨_, coldStart_spec distinct found succeed init, rfl, .inl rfl, loaded, position⟩
  | live run mpv =>
    cases projected : run.runLifecycle.isActiveFile with
    | false =>
      refine ⟨_, submitLive_playlist distinct found projected plain mpv, rfl, .inr rfl, loaded, ?_⟩
      intro entry member own
      rw [show (SubmitPath.live run mpv).isActiveFile = false from projected]
      exact position entry member own
    | true =>
      refine ⟨_, submitLive_activeFile distinct found succeed projected mpv, rfl, .inl rfl, ?_, ?_⟩
      all_goals rw [emby]
      · exact ⟨_, mem_singleton_self _, rfl⟩
      · intro entry member _
        rw [show (SubmitPath.live run mpv).isActiveFile = true from projected, mem_singleton.mp member]
        rfl

/-! ### A Play command plays what it asks for -/

namespace WsPlay

variable {play : WsPlay} {fetched : List EmbyItem} {item : EmbyItem}

def positioned (play : WsPlay) (item : EmbyItem) : EmbyItem :=
  if 0 < play.startPositionTicks then
    { item with playbackPositionTicks := play.startPositionTicks }
  else item

def identity (slot : ExecSlot) : QueueSlotId × QueueItemContentId :=
  (slot.slotId, slot.item.contentId)

/-- The item asked for starts where the event says, and the owner's queue is the one that plays. -/
structure PlaysAsAsked (play : WsPlay) (owner : PlaybackQueue) (start : QueueStart) : Prop where
  item : start.queue.activeSlot.map (·.item.contentId) =
    play.itemIds[play.startIndex]?.map .emby
  position : 0 < play.startPositionTicks → ∀ active, start.queue.activeSlot = some active →
    ∀ item, active.item = .emby item → item.isVideo = true →
      ∃ entry ∈ start.mpv.playlist,
        entry.slotId = active.slotId ∧ entry.start = some play.startPositionTicks
  sequence : start.queue.slots.map identity =
    owner.slots.map fun slot => (slot.slotId, slot.item.contentId)
  active : start.queue.activeSlotId = owner.activeSlotId

/-- The index names the same item among those fetched; and the position asked for is one a resume
    takes, and either the one the server holds or one the live run does not ask the server about. -/
structure StartsWhereAsked (play : WsPlay) (answers : StartAnswers) (path : SubmitPath)
    (fetched : List EmbyItem) : Prop where
  item : fetched[min play.startIndex (fetched.length - 1)]?.map (·.id) =
    play.itemIds[play.startIndex]?
  position : 0 < play.startPositionTicks →
    ∀ item, fetched[min play.startIndex (fetched.length - 1)]? = some item → item.isVideo = true →
      item.isAudio = false ∧
      Queue.shouldResume play.startPositionTicks item.runtimeTicks = true ∧
      (path.isActiveFile = true ∨
        ∃ played, answers.refreshed.lookup item.id = some (play.startPositionTicks, played))

theorem positioned_id (play : WsPlay) (item : EmbyItem) : (play.positioned item).id = item.id := by
  unfold positioned
  split <;> rfl

theorem positioned_isVideo (play : WsPlay) (item : EmbyItem) : (play.positioned item).isVideo = item.isVideo := by
  unfold positioned
  split <;> rfl

theorem startingAt_eq (play : WsPlay) (fetched : List EmbyItem) (i : Nat) :
    startingAt fetched i play.startPositionTicks = (fetched.modify i play.positioned).map .emby := by
  unfold startingAt positioned
  split
  · rfl
  · exact congrArg (List.map QueueItem.emby) (modify_id i fetched).symm

theorem sequentialSlotIds_found {items : List EmbyItem} {i : Nat} (found : items[i]? = some item) (play : WsPlay) :
    (sequentialSlotIds ((items.modify i play.positioned).map .emby))[i]? =
      some ⟨⟨UInt64.ofNat (i + 1)⟩, .emby (play.positioned item)⟩ := by
  simp [sequentialSlotIds, List.getElem?_mapIdx, found]

theorem modify_contentIds (items : List EmbyItem) (i : Nat) (play : WsPlay) :
    ((items.modify i play.positioned).map QueueItem.emby).map (·.contentId) = (items.map QueueItem.emby).map (·.contentId) := by
  apply ext_getElem?
  intro j
  simp only [List.getElem?_map, List.getElem?_modify]
  cases items[j]? with
  | none => rfl
  | some item =>
    split
    · exact congrArg (fun id => some (QueueItemContentId.emby id)) (positioned_id play item)
    · rfl

theorem map_identity (slots : List ExecSlot) : slots.map identity =
      (slots.map (·.slotId)).zip ((slots.map (·.item)).map (·.contentId)) := by
  rw [map_map, zip_map']
  rfl

theorem map_slots (slots : List QueueSlot) : (slots.map fun slot => (slot.slotId, slot.item.contentId)) =
      (slots.map (·.slotId)).zip ((slots.map (·.item)).map (·.contentId)) := by
  rw [map_map, zip_map']
  rfl

theorem refreshResume_contentId (refreshed : List (String × (Int × Bool))) (item : QueueItem) :
    (refreshResume refreshed item).contentId = item.contentId := by
  cases item with
  | emby item =>
    unfold refreshResume
    dsimp only
    split <;> rfl
  | _ => rfl

theorem refreshSlots_identity (answers : StartAnswers) (slots : List ExecSlot) :
    (refreshSlots answers slots).map identity = slots.map identity := by
  unfold refreshSlots
  rw [map_map]
  apply map_congr_left
  intro slot _
  unfold identity
  exact congrArg (Prod.mk slot.slotId) (refreshResume_contentId answers.refreshed slot.item)

theorem submitted_identity (play : WsPlay) (mint : UInt64) (i : Nat) (fits : fetched.length < 2 ^ 64) :
    (sequentialSlotIds ((fetched.modify i play.positioned).map .emby)).map identity =
      (PlaybackQueue.fromQueueItems (fetched.map .emby) (some i) mint).slots.map
        fun slot => (slot.slotId, slot.item.contentId) := by
  have owned : (PlaybackQueue.fromQueueItems (fetched.map .emby) (some i) mint).slots.map
      (·.slotId) = allocated 1 fetched.length := by
    have ids := PlayerOwner.fromQueueItems_slotIds (fetched.map .emby) (some i) mint
    rwa [length_map] at ids
  rw [map_identity, map_slots, sequentialSlotIds_items, fromQueueItems_items, modify_contentIds,
    owned, sequentialSlotIds_slotIds (by simpa using fits), length_map, length_modify]

variable {seriesNameOf : String → String} {answers : StartAnswers} {path : SubmitPath}

theorem refreshResume_emby (refreshed : List (String × (Int × Bool))) (item : EmbyItem) :
    ∃ current, refreshResume refreshed (.emby item) = .emby current ∧ current.id = item.id ∧ current.isVideo = item.isVideo := by
  unfold refreshResume
  dsimp only
  split
  · exact ⟨item, rfl, rfl, rfl⟩
  · exact ⟨_, rfl, rfl, rfl⟩

theorem active_submitted {slots : List ExecSlot} {i : Nat} {slotId : QueueSlotId}
    {activeFile : Bool} {start : QueueStart} (distinct : (slots.map (·.slotId)).Nodup)
    (found : slots[i]? = some ⟨slotId, .emby item⟩)
    (starts : StartsAt answers slots ⟨slotId, .emby item⟩ activeFile start) :
    ∃ current, start.queue.activeSlot = some ⟨slotId, .emby current⟩ ∧ current.id = item.id ∧
      current.isVideo = item.isVideo := by
  unfold ExecutionSequence.activeSlot ExecutionSequence.slot
  rw [starts.activeSlotId, Option.bind_some]
  rcases starts.slots with kept | refreshed
  · rw [kept]
    exact ⟨item, slotFor_eq distinct found, rfl, rfl⟩
  · obtain ⟨current, position, id, video⟩ := refreshResume_emby answers.refreshed item
    have there := refreshSlots_getElem? answers slots i
    rw [found, Option.map_some, position] at there
    refine ⟨current, ?_, id, video⟩
    rw [refreshed]
    exact slotFor_eq (by rwa [refreshSlots_slotIds]) there

theorem asked_position (positive : 0 < play.startPositionTicks) (activeFile : Bool) :
    (if activeFile then startOption ((resumeTicksForItem (.emby (play.positioned item))).getD 0)
      else serverStart answers (.emby (play.positioned item))) = some play.startPositionTicks ↔
    item.isAudio = false ∧ Queue.shouldResume play.startPositionTicks item.runtimeTicks = true ∧ (activeFile = true ∨
        ∃ played, answers.refreshed.lookup item.id = some (play.startPositionTicks, played)) := by
  have placed : play.positioned item = { item with playbackPositionTicks := play.startPositionTicks } := if_pos positive
  have kind : (play.positioned item).isAudio = item.isAudio := by
    rw [placed]
    rfl
  have runtime : (play.positioned item).runtimeTicks = item.runtimeTicks := by rw [placed]
  have position : (play.positioned item).playbackPositionTicks = play.startPositionTicks := by
    rw [placed]
  cases activeFile with
  | true =>
    rw [if_pos rfl, startOption_resume positive, kind, runtime]
    simp [position]
  | false =>
    rw [if_neg Bool.false_ne_true, serverStart_eq positive, kind, runtime, positioned_id]
    simp

theorem handleWsPlay_spec {audioOnly : Bool} (owner : QueueOwner) (got : play.fetched = some fetched)
    (now : play.playNow = true) (inside : play.startIndex < play.itemIds.length)
    (nonempty : fetched ≠ []) (plays : audioOnlyRejection audioOnly (fetched.map .emby) = none) :
    (owner.handleWsPlay audioOnly play).core.queue = .fromQueueItems (fetched.map .emby)
      (some (min play.startIndex (fetched.length - 1))) owner.core.queue.mint ∧
    (owner.handleWsPlay audioOnly play).calls = owner.calls ++
      [.playQueue ((fetched.modify (min play.startIndex (fetched.length - 1)) play.positioned).map
        .emby) (min play.startIndex (fetched.length - 1))] := by
  have long : 0 < fetched.length := length_pos_iff.mpr nonempty
  have admitted : play.admitted audioOnly = some (fetched, min play.startIndex (fetched.length - 1)) := by
    unfold admitted websocketPlayStartIndex
    simp [got, now, plays, long, show 0 < play.itemIds.length by omega]
  unfold QueueOwner.handleWsPlay
  rw [admitted]
  dsimp only
  rw [startingAt_eq]
  exact ⟨rfl, rfl⟩

def film (id : String) : EmbyItem where
  id := id
  name := id
  itemType := "Movie"
  mediaType := "Video"
  runtimeTicks := 72000000000
  played := false
  playbackPositionTicks := 0
  seriesId := ""
  indexNumber := 0
  parentIndexNumber := 0
  detail := ""

def tenMinutesIn (fetched : List EmbyItem) : WsPlay where
  itemIds := ["a", "b"]
  playNow := true
  startPositionTicks := 6000000000
  startIndex := 1
  fetched := some fetched

def emptyOwner : QueueOwner where
  core := .new (.fromQueueItems [] none 0)

end WsPlay

end Mbv.Daemon
