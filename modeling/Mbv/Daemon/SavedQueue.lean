import Mbv.Daemon.PlaybackIntent
import Mbv.Queue.Item
import Mbv.Sequence.Kept

/-! The queue as it is saved, and what is left of it when a service is removed. -/

namespace Mbv.Daemon

open Mbv.Queue Kept

/-- The id a content id has without its provider. -/
def rawId : QueueItemContentId → String
  | .emby id => id
  | .feed guid => guid
  | .audiobookshelf _ episodeId => episodeId
  | .audiobookshelfBook libraryItemId => libraryItemId
  | .twitch url => url

structure QueueState where
  source : QueueSource := .unknown
  items : List QueueItem := []
  cursor : Nat := 0
  lastPlayedContentId : Option QueueItemContentId := none
  lastPlayedItemId : Option String := none
  lastPlayedCompleted : Bool := false
  positions : List (String × Int) := []

namespace QueueState

variable (state : QueueState)

def withoutItems (keep : QueueItem → Bool) : QueueState :=
  let items := state.items.filter keep
  { source := if items.isEmpty then .unknown else state.source
    items := items
    cursor := min state.cursor (items.length - 1)
    lastPlayedContentId :=
      state.lastPlayedContentId.filter fun id => items.any fun item => item.contentId == id
    lastPlayedItemId := state.lastPlayedItemId.filter fun id => items.any fun item => item.id == id
    lastPlayedCompleted := state.lastPlayedCompleted && !items.isEmpty
    positions := state.positions.filter fun entry => items.any fun item => item.id == entry.1 }

def withoutEmby : QueueState := state.withoutItems fun item => !item.isEmby

def withoutAudiobookshelf : QueueState := state.withoutItems fun item => !item.isAudiobookshelf

def NamedByItemId (item : QueueItem) : Prop :=
  state.lastPlayedItemId = some item.id ∧
    ∀ id ∈ state.lastPlayedContentId, rawId id = item.id → item.contentId = id

def LastPlayed (item : QueueItem) : Prop :=
  state.lastPlayedContentId = some item.contentId ∨ state.NamedByItemId item

end QueueState

/-- What is left is the kept items and what was known of them, with the cursor on its item. -/
structure Stripped (keep : QueueItem → Bool) (state result : QueueState) : Prop where
  items : result.items = state.items.filter keep
  positions : ∀ entry, entry ∈ result.positions ↔
    entry ∈ state.positions ∧ ∃ item ∈ state.items.filter keep, item.id = entry.1
  contentId : ∀ id, result.lastPlayedContentId = some id ↔
    state.lastPlayedContentId = some id ∧ ∃ item ∈ state.items.filter keep, item.contentId = id
  itemId : ∀ id, result.lastPlayedItemId = some id ↔
    state.lastPlayedItemId = some id ∧ ∃ item ∈ state.items.filter keep, state.NamedByItemId item
  completed : (∃ item ∈ state.items.filter keep, state.LastPlayed item) →
    result.lastPlayedCompleted = state.lastPlayedCompleted
  forgotten : (∃ item ∈ state.items, keep item = false ∧ state.LastPlayed item) →
    (∀ item ∈ state.items.filter keep, ¬ state.LastPlayed item) →
    result.lastPlayedCompleted = false
  cursor : state.cursor ∈ places keep state.items →
    (places keep state.items)[result.cursor]? = some state.cursor

/-- A kept cursor item has only kept items before it or none after it, the raw id of the last played
    item is no kept item's of another provider, and a completed item is not removed from among items
    that stay. -/
structure Spared (keep : QueueItem → Bool) (state : QueueState) : Prop where
  cursor : state.cursor ∈ places keep state.items →
    (∀ item ∈ state.items.take state.cursor, keep item = true) ∨
      ∀ item ∈ state.items.drop (state.cursor + 1), keep item = false
  itemId : (∃ item ∈ state.items.filter keep, state.lastPlayedItemId = some item.id) →
    ∃ item ∈ state.items.filter keep, state.NamedByItemId item
  completed : state.lastPlayedCompleted = true →
    (∃ item ∈ state.items, keep item = false ∧ state.LastPlayed item) →
    state.items.filter keep ≠ [] → ∃ item ∈ state.items.filter keep, state.LastPlayed item

variable {keep : QueueItem → Bool} {state : QueueState}

theorem any_id_iff (items : List QueueItem) (id : String) :
    (items.any fun item => item.id == id) = true ↔ ∃ item ∈ items, item.id = id := by
  simp only [List.any_eq_true, beq_iff_eq]

theorem any_contentId_iff (items : List QueueItem) (id : QueueItemContentId) :
    (items.any fun item => item.contentId == id) = true ↔ ∃ item ∈ items, item.contentId = id := by
  simp only [List.any_eq_true, beq_iff_eq]

theorem withoutItems_positions (entry : String × Int) : entry ∈ (state.withoutItems keep).positions ↔
      entry ∈ state.positions ∧ ∃ item ∈ state.items.filter keep, item.id = entry.1 := by
  show entry ∈ List.filter _ _ ↔ _
  rw [List.mem_filter, any_id_iff]

theorem withoutItems_contentId (id : QueueItemContentId) : (state.withoutItems keep).lastPlayedContentId = some id ↔
      state.lastPlayedContentId = some id ∧ ∃ item ∈ state.items.filter keep, item.contentId = id := by
  show Option.filter _ _ = _ ↔ _
  rw [Option.filter_eq_some_iff, any_contentId_iff]

theorem withoutItems_itemId (id : String) : (state.withoutItems keep).lastPlayedItemId = some id ↔
      state.lastPlayedItemId = some id ∧ ∃ item ∈ state.items.filter keep, item.id = id := by
  show Option.filter _ _ = _ ↔ _
  rw [Option.filter_eq_some_iff, any_id_iff]

theorem withoutItems_completed : (state.withoutItems keep).lastPlayedCompleted = true ↔
      state.lastPlayedCompleted = true ∧ state.items.filter keep ≠ [] := by
  show (_ && _) = true ↔ _
  rw [Bool.and_eq_true, Bool.not_eq_true', List.isEmpty_eq_false_iff]

theorem withoutItems_cursor (kept : state.cursor ∈ places keep state.items) :
    (places keep state.items)[(state.withoutItems keep).cursor]? = some state.cursor ↔
      (∀ item ∈ state.items.take state.cursor, keep item = true) ∨
        ∀ item ∈ state.items.drop (state.cursor + 1), keep item = false := by
  have below := rank_lt kept
  have small := @rank_le _ keep state.items state.cursor
  have cut : (state.withoutItems keep).cursor = min state.cursor ((places keep state.items).length - 1) := by
    rw [length_places]
    rfl
  rw [get_eq_iff kept, cut, ← rank_eq_self_iff kept, ← rank_eq_last_iff kept]
  omega

theorem stripped_iff : Stripped keep state (state.withoutItems keep) ↔ Spared keep state := by
  constructor
  · intro stripped
    refine ⟨fun kept => (withoutItems_cursor kept).mp (stripped.cursor kept), ?_, ?_⟩
    · rintro ⟨item, member, named⟩
      have stays := (withoutItems_itemId item.id).mpr ⟨named, item, member, rfl⟩
      exact ((stripped.itemId item.id).mp stays).2
    · intro completed removed some_
      by_contra gone
      have off := stripped.forgotten removed fun item member played => gone ⟨item, member, played⟩
      rw [withoutItems_completed.mpr ⟨completed, some_⟩] at off
      cases off
  · intro spared
    exact
      { items := rfl
        positions := withoutItems_positions
        contentId := withoutItems_contentId
        itemId := fun id => by
          rw [withoutItems_itemId]
          constructor
          · rintro ⟨own, item, member, same⟩
            exact ⟨own, spared.itemId ⟨item, member, same ▸ own⟩⟩
          · rintro ⟨own, item, member, named⟩
            exact ⟨own, item, member, Option.some.inj (named.1.symm.trans own)⟩
        completed := by
          rintro ⟨item, member, -⟩
          rw [Bool.eq_iff_iff, withoutItems_completed]
          exact and_iff_left (List.ne_nil_of_mem member)
        forgotten := fun removed gone => by
          rw [← Bool.not_eq_true, withoutItems_completed]
          rintro ⟨completed, some_⟩
          obtain ⟨item, member, played⟩ := spared.completed completed removed some_
          exact gone item member played
        cursor := fun kept => (withoutItems_cursor kept).mpr (spared.cursor kept) }

/-- A provider is stripped well from exactly the states that are spared. -/
theorem provider_stripped_iff (state : QueueState) :
    (Stripped (fun item => !item.isEmby) state state.withoutEmby ↔
      Spared (fun item => !item.isEmby) state) ∧
    (Stripped (fun item => !item.isAudiobookshelf) state state.withoutAudiobookshelf ↔
      Spared (fun item => !item.isAudiobookshelf) state) :=
  ⟨stripped_iff, stripped_iff⟩

/-- An Emby film, and two streams of which the first is the cursor's. -/
def filmThenStreams : QueueState where
  items := [.emby ⟨"film", "", "Movie", "Video", 0, false, 0, "", 0, 0, ""⟩,
    .twitch ⟨"first", ""⟩, .twitch ⟨"second", ""⟩]
  cursor := 1

/-- The cursor stays at one, where the second stream is now. -/
theorem stripped_cursor_moves_on :
    ¬ Stripped (fun item => !item.isEmby) filmThenStreams filmThenStreams.withoutEmby := by
  intro stripped
  have there := stripped.cursor (by decide)
  revert there
  decide

end Mbv.Daemon
