import Mbv.Sequence.Keyed
import Mbv.Queue.Item

namespace Mbv.Queue

structure QueueSlotId where
  raw : UInt64
deriving DecidableEq

def u64Max : Nat := 2 ^ 64 - 1

/-- `u64::saturating_add(1)`. -/
def saturatingSucc (n : UInt64) : UInt64 := if n.toNat = u64Max then n else n + 1

theorem saturatingSucc_toNat (n : UInt64) : (saturatingSucc n).toNat = min (n.toNat + 1) u64Max := by
  have bound := n.toNat_lt
  unfold saturatingSucc
  split
  · rename_i full
    rw [full]; decide
  · rename_i room
    rw [UInt64.toNat_add]
    simp only [u64Max] at *
    have one : (1 : UInt64).toNat = 1 := rfl
    omega

structure QueueSlot where
  slotId : QueueSlotId
  item : QueueItem
deriving DecidableEq

def QueueSlot.localProgress (slot : QueueSlot) : SlotProgress :=
  SlotProgress.fromQueueItem slot.item

inductive RemoveSlotResult where
  | removed (slot : QueueSlot)
  | requiresActiveConfirmation (slotId : QueueSlotId)
  | notFound

inductive QueueMutationResult (α : Type) where
  | applied (value : α)
  | notFound

structure RefreshMergeResult where
  updatedSlots : List QueueSlotId := []
  prunedSlots : List QueueSlotId := []
  protectedSlots : List QueueSlotId := []

/-- `mint` is the next revision the owner's shared counter hands out. -/
structure PlaybackQueue where
  slots : List QueueSlot
  activeSlotId : Option QueueSlotId
  revision : UInt64
  mint : UInt64
  nextSlotId : UInt64
deriving DecidableEq

namespace PlaybackQueue

def slotIds (queue : PlaybackQueue) : List QueueSlotId := queue.slots.map (·.slotId)

def len (queue : PlaybackQueue) : Nat := queue.slots.length

def isEmpty (queue : PlaybackQueue) : Bool := queue.slots.isEmpty

def slot (queue : PlaybackQueue) (slotId : QueueSlotId) : Option QueueSlot :=
  Keyed.get (·.slotId) slotId queue.slots

def slotIndex (queue : PlaybackQueue) (slotId : QueueSlotId) : Option Nat :=
  Keyed.indexOf (·.slotId) slotId queue.slots

def bump (queue : PlaybackQueue) : PlaybackQueue :=
  { queue with revision := queue.mint, mint := queue.mint + 1 }

def allocateSlotId (queue : PlaybackQueue) : QueueSlotId × PlaybackQueue :=
  (⟨queue.nextSlotId⟩, { queue with nextSlotId := saturatingSucc queue.nextSlotId })

def pushAll (queue : PlaybackQueue) : List QueueItem → PlaybackQueue
  | [] => queue
  | item :: items =>
    let (slotId, queue) := queue.allocateSlotId
    { queue with slots := queue.slots ++ [QueueSlot.mk slotId item] }.pushAll items

def fromQueueItems (items : List QueueItem) (activeIndex : Option Nat) (mint : UInt64) :
    PlaybackQueue :=
  let queue : PlaybackQueue :=
    { slots := [], activeSlotId := none, revision := mint, mint := mint + 1, nextSlotId := 1 }
  let queue := queue.pushAll items
  { queue with activeSlotId := activeIndex.bind fun index => queue.slots[index]?.map (·.slotId) }

/-- `slots.iter().map(raw).max().unwrap_or(0)`. -/
def maxRaw (slots : List (QueueSlotId × QueueItem)) : UInt64 :=
  slots.foldr (fun slot best => max slot.1.raw best) 0

def fromSlotItems (slots : List (QueueSlotId × QueueItem)) (activeSlotId : Option QueueSlotId)
    (mint : UInt64) : PlaybackQueue where
  slots := slots.map fun slot => ⟨slot.1, slot.2⟩
  activeSlotId := activeSlotId.filter fun id => slots.any fun slot => slot.1 == id
  revision := mint
  mint := mint + 1
  nextSlotId := saturatingSucc (maxRaw slots)

def activeIndex (queue : PlaybackQueue) : Option Nat :=
  queue.activeSlotId.bind queue.slotIndex

def clearActiveSlot (queue : PlaybackQueue) : PlaybackQueue :=
  if queue.activeSlotId.isSome then { queue with activeSlotId := none }.bump else queue

def insert (queue : PlaybackQueue) (index : Nat) (item : QueueItem) :
    QueueSlotId × PlaybackQueue :=
  let (slotId, queue) := queue.allocateSlotId
  let index := min index queue.slots.length
  (slotId, { queue with slots := queue.slots.insertIdx index ⟨slotId, item⟩ }.bump)

def append (queue : PlaybackQueue) (item : QueueItem) : QueueSlotId × PlaybackQueue :=
  queue.insert queue.slots.length item

def mintSlotId (queue : PlaybackQueue) : QueueSlotId × PlaybackQueue := queue.allocateSlotId

def appendWithId (queue : PlaybackQueue) (slotId : QueueSlotId) (item : QueueItem) :
    PlaybackQueue :=
  { queue with
    slots := queue.slots ++ [QueueSlot.mk slotId item]
    nextSlotId := max queue.nextSlotId (saturatingSucc slotId.raw) }.bump

def replace (queue : PlaybackQueue) (items : List QueueItem) : Option Nat × PlaybackQueue :=
  let oldActive := queue.activeSlotId.bind queue.slotIndex
  (oldActive, ({ queue with slots := [], activeSlotId := none }.pushAll items).bump)

def clear (queue : PlaybackQueue) : PlaybackQueue :=
  if queue.slots.isEmpty then queue
  else { queue with slots := [], activeSlotId := none }.bump

/-- Drop an active marker that no longer names a slot. -/
def dropDeadActive (queue : PlaybackQueue) : PlaybackQueue :=
  match queue.activeSlotId with
  | some active =>
    if (queue.slotIndex active).isNone then { queue with activeSlotId := none } else queue
  | none => queue

def truncateSlots (queue : PlaybackQueue) (len : Nat) : PlaybackQueue :=
  if len ≥ queue.slots.length then queue
  else { queue with slots := queue.slots.take len }.bump.dropDeadActive

def setActiveSlot (queue : PlaybackQueue) (slotId : QueueSlotId) :
    QueueMutationResult Unit × PlaybackQueue :=
  if (queue.slotIndex slotId).isNone then (.notFound, queue)
  else if queue.activeSlotId ≠ some slotId then
    (.applied (), { queue with activeSlotId := some slotId }.bump)
  else (.applied (), queue)

def removeExistingSlot (queue : PlaybackQueue) (slotId : QueueSlotId) :
    Option QueueSlot × PlaybackQueue :=
  match queue.slotIndex slotId with
  | none => (none, queue)
  | some index =>
    let slots := queue.slots.eraseIdx index
    let active :=
      if queue.activeSlotId = some slotId then
        (slots[index]?.or slots.getLast?).map (·.slotId)
      else queue.activeSlotId
    (queue.slots[index]?, { queue with slots := slots, activeSlotId := active }.bump)

def removeSlot (queue : PlaybackQueue) (slotId : QueueSlotId) :
    RemoveSlotResult × PlaybackQueue :=
  if queue.activeSlotId = some slotId then (.requiresActiveConfirmation slotId, queue)
  else
    let (removed, queue) := queue.removeExistingSlot slotId
    (removed.elim .notFound .removed, queue)

def removeActiveSlotConfirmed (queue : PlaybackQueue) (slotId : QueueSlotId) :
    RemoveSlotResult × PlaybackQueue :=
  match queue.slotIndex slotId with
  | none => (.notFound, queue)
  | some index =>
    let active := if queue.activeSlotId = some slotId then none else queue.activeSlotId
    (queue.slots[index]?.elim .notFound .removed,
      { queue with slots := queue.slots.eraseIdx index, activeSlotId := active }.bump)

def consumeSlot (queue : PlaybackQueue) (slotId : QueueSlotId) :
    QueueMutationResult QueueSlot × PlaybackQueue :=
  let (removed, queue) := queue.removeExistingSlot slotId
  (removed.elim .notFound .applied, queue)

end PlaybackQueue

/-- `order` names exactly the slots in `current`, each once. The source sorts both and compares. -/
def isSlotPermutation (current order : List QueueSlotId) : Bool :=
  if current.length ≠ order.length then false else current.isPerm order

namespace PlaybackQueue

/-- The source drains the slots into a map by id, where a later slot overwrites an earlier one of
    its id, and takes them out in the requested order. -/
def takeInOrder (slots : List QueueSlot) : List QueueSlotId → List QueueSlot
  | [] => []
  | slotId :: order =>
    match Keyed.get (·.slotId) slotId slots.reverse with
    | some slot => slot :: takeInOrder (slots.filter (·.slotId ≠ slotId)) order
    | none => takeInOrder slots order

def reorderSlots (queue : PlaybackQueue) (order : List QueueSlotId) :
    QueueMutationResult Unit × PlaybackQueue :=
  if queue.slotIds = order then (.applied (), queue)
  else if !isSlotPermutation queue.slotIds order then (.notFound, queue)
  else (.applied (), { queue with slots := takeInOrder queue.slots order }.bump)

def moveSlot (queue : PlaybackQueue) (slotId : QueueSlotId) (toIndex : Nat) :
    QueueMutationResult Unit × PlaybackQueue :=
  match queue.slotIndex slotId with
  | none => (.notFound, queue)
  | some _ =>
    (.applied (),
      { queue with slots := Keyed.move (·.slotId) slotId toIndex queue.slots }.bump)

/-- Rewrite the item of the first slot named `slotId`, bumping when its serialization changes. -/
def rewriteItem (queue : PlaybackQueue) (slotId : QueueSlotId) (rewrite : QueueItem → QueueItem) :
    QueueMutationResult Unit × PlaybackQueue :=
  match queue.slotIndex slotId with
  | none => (.notFound, queue)
  | some index =>
    match queue.slots[index]? with
    | none => (.notFound, queue)
    | some slot =>
      let item := rewrite slot.item
      let changed := { queue with slots := queue.slots.set index { slot with item := item } }
      (.applied (), if queueItemsEqual item slot.item then changed else changed.bump)

def updateSlotItem (queue : PlaybackQueue) (slotId : QueueSlotId) (item : QueueItem) :
    QueueMutationResult Unit × PlaybackQueue :=
  queue.rewriteItem slotId fun _ => item

def applyProgress (queue : PlaybackQueue) (slotId : QueueSlotId) (positionTicks : Int)
    (played : Bool) : QueueMutationResult Unit × PlaybackQueue :=
  queue.rewriteItem slotId fun item => applyProgressToQueueItem item positionTicks played

def mergeFetchedSlot (slot : QueueSlot) (fetched : EmbyItem) (activeSlotId : Option QueueSlotId)
    (result : RefreshMergeResult) : QueueSlot × RefreshMergeResult :=
  if activeSlotId = some slot.slotId then
    let progress := slot.localProgress
    ({ slot with
        item := applyProgressToQueueItem (.emby fetched) progress.positionTicks progress.played },
      { result with
        protectedSlots := result.protectedSlots ++ [slot.slotId]
        updatedSlots := result.updatedSlots ++ [slot.slotId] })
  else
    ({ slot with item := .emby fetched },
      { result with updatedSlots := result.updatedSlots ++ [slot.slotId] })

structure MergeState where
  slots : List QueueSlot
  result : RefreshMergeResult
  changed : Bool

def mergeForSlot (activeSlotId : Option QueueSlotId) (state : MergeState)
    (fetched : QueueSlotId × EmbyItem) : MergeState :=
  match Keyed.indexOf (·.slotId) fetched.1 state.slots with
  | none => state
  | some index =>
    match state.slots[index]? with
    | none => state
    | some slot =>
      if slot.item.contentId ≠ .emby fetched.2.id then state
      else
        let (merged, result) := mergeFetchedSlot slot fetched.2 activeSlotId state.result
        let slots := state.slots.set index merged
        if queueItemsEqual merged.item slot.item then
          -- The source truncates `updated_slots` back, and keeps a protected mark.
          { state with
            slots := slots
            result := { result with updatedSlots := state.result.updatedSlots } }
        else { slots := slots, result := result, changed := true }

def mergeRefreshForSlots (queue : PlaybackQueue) (fetched : List (QueueSlotId × EmbyItem)) :
    RefreshMergeResult × PlaybackQueue :=
  let state := fetched.foldl (mergeForSlot queue.activeSlotId) ⟨queue.slots, {}, false⟩
  let queue := { queue with slots := state.slots }
  (state.result, if state.changed then queue.bump else queue)

structure FetchedItemMatches where
  items : List EmbyItem
  nextIndex : Nat

def FetchedItemMatches.nextMatch (found : FetchedItemMatches) :
    Option EmbyItem × FetchedItemMatches :=
  (found.items[min found.nextIndex (found.items.length - 1)]?,
    { found with nextIndex := found.nextIndex + 1 })

abbrev FetchedItems := List (QueueItemContentId × FetchedItemMatches)

def groupFetchedItemsByItemId (items : List EmbyItem) : FetchedItems :=
  items.foldl
    (fun grouped item =>
      let id := QueueItemContentId.emby item.id
      match grouped.lookup id with
      | some found =>
        grouped.map fun entry =>
          if entry.1 = id then (id, { found with items := found.items ++ [item] }) else entry
      | none => grouped ++ [(id, ⟨[item], 0⟩)])
    []

def shouldProtectMissingSlot (slot : QueueSlot) (activeSlotId : Option QueueSlotId) : Bool :=
  activeSlotId = some slot.slotId

structure RefreshState where
  fetched : FetchedItems
  merged : MergeState

/-- One slot of a whole-queue refresh: kept as it is, merged with its next fetched item, protected
    because it plays, or pruned. -/
def refreshSlot (activeSlotId : Option QueueSlotId) (state : RefreshState) (slot : QueueSlot) :
    RefreshState :=
  let merged := state.merged
  let keep (result : RefreshMergeResult) : RefreshState :=
    { state with merged := { merged with slots := merged.slots ++ [slot], result := result } }
  let protectIt : RefreshMergeResult :=
    { merged.result with protectedSlots := merged.result.protectedSlots ++ [slot.slotId] }
  if !slot.item.isEmby then
    keep (if shouldProtectMissingSlot slot activeSlotId then protectIt else merged.result)
  else
    match (state.fetched.lookup slot.item.contentId).map FetchedItemMatches.nextMatch with
    | some (some item, found) =>
      let (updated, result) := mergeFetchedSlot slot item activeSlotId merged.result
      { fetched := state.fetched.map fun entry =>
          if entry.1 = slot.item.contentId then (entry.1, found) else entry
        merged :=
          { slots := merged.slots ++ [updated]
            result := result
            changed := merged.changed || !queueItemsEqual updated.item slot.item } }
    | _ =>
      if shouldProtectMissingSlot slot activeSlotId then keep protectIt
      else
        { state with
          merged :=
            { merged with
              result :=
                { merged.result with prunedSlots := merged.result.prunedSlots ++ [slot.slotId] }
              changed := true } }

def mergeRefresh (queue : PlaybackQueue) (items : List EmbyItem) :
    RefreshMergeResult × PlaybackQueue :=
  let state := queue.slots.foldl (refreshSlot queue.activeSlotId)
    ⟨groupFetchedItemsByItemId items, ⟨[], {}, false⟩⟩
  let queue := { queue with slots := state.merged.slots }.dropDeadActive
  (state.merged.result, if state.merged.changed then queue.bump else queue)

end PlaybackQueue

end Mbv.Queue
