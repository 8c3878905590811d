import Mbv.Queue.Allocation
import Mbv.Player.Run.Commands

namespace Mbv.Daemon

open Mbv.Queue Mbv.Player

structure QueueTransport where
  absEpisode : Bool := false
  absBook : Bool := false
  twitch : Bool := false
deriving DecidableEq

/-- What a handler reads of its peer, of the daemon and of the player. -/
structure ControlContext where
  queueTransport : QueueTransport := {}
  audioOnly : Bool := false
  hasEmby : Bool := false
  hasAudiobookshelf : Bool := false
  playerAdmitsAudiobookshelf : Bool := false
deriving DecidableEq

/-- What a handler leaves: the owner's queue, what it sent the run, and why it refused. -/
structure ControlReply where
  queue : PlaybackQueue
  sent : List PlayerCommand := []
  rejection : Option String := none

def asAudiobookshelf : QueueItem → Option AudiobookshelfQueueItem
  | .audiobookshelf (.episode item) => some item
  | _ => none

def asAudiobookshelfBook : QueueItem → Option AudiobookshelfBookQueueItem
  | .audiobookshelf (.book item) => some item
  | _ => none

def isTwitch : QueueItem → Bool
  | .twitch _ => true
  | _ => false

def absQueueTransportRejection (items : List QueueItem) (transport : QueueTransport) :
    Option String :=
  if !transport.absEpisode && items.any fun item => (asAudiobookshelf item).isSome then
    some "peer did not negotiate Audiobookshelf queue transport"
  else if !transport.absBook && items.any fun item => (asAudiobookshelfBook item).isSome then
    some "peer did not negotiate Audiobookshelf book queue transport"
  else none

def twitchQueueTransportRejection (items : List QueueItem) (transport : QueueTransport) :
    Option String :=
  if !transport.twitch && items.any isTwitch then
    some "peer did not negotiate Twitch queue transport"
  else none

def allAudio (items : List QueueItem) : Bool := items.all QueueItem.isAudio

def audioOnlyRejection (audioOnly : Bool) (items : List QueueItem) : Option String :=
  if audioOnly && !allAudio items then
    some "Daemon is running in audio-only mode; can't play video items"
  else none

namespace ControlContext

variable (ctx : ControlContext)

def daemonAdmits (item : QueueItem) : Bool :=
  if item.isEmby && !ctx.hasEmby then false
  else
    item.admissibleForOwnerWithAudiobookshelf ctx.audioOnly
      (fun kind => kind != .emby || ctx.hasEmby) ctx.hasAudiobookshelf

def admitQueue {α : Type} (original : List α) (requestedCursor : Option Nat)
    (itemOf : α → QueueItem) : List α × Nat :=
  let requested := requestedCursor.getD 0
  let admitted := original.filter fun entry => ctx.daemonAdmits (itemOf entry)
  let rebased := ((original.take requested).filter fun entry =>
    ctx.daemonAdmits (itemOf entry)).length
  (admitted, if admitted.isEmpty then 0 else min rebased (admitted.length - 1))

def admitQueueSlots (original : List (QueueSlotId × QueueItem)) (requestedCursor : Option Nat) :
    List (QueueSlotId × QueueItem) × Nat :=
  ctx.admitQueue original requestedCursor (·.2)

def transportRejection (items : List QueueItem) : Option String :=
  (absQueueTransportRejection items ctx.queueTransport).or
    (twitchQueueTransportRejection items ctx.queueTransport)

end ControlContext

/-- A client's replacement: bare items, or slots under the client's own numbers. -/
structure QueueReplace where
  items : List QueueItem := []
  slots : List (UInt64 × QueueItem) := []
  startIdx : Option Nat := none

namespace QueueReplace

variable (request : QueueReplace)

def submittedSlots : List (QueueSlotId × QueueItem) :=
  if request.slots.isEmpty then
    request.items.mapIdx fun index item => (⟨UInt64.ofNat (index + 1)⟩, item)
  else request.slots.map fun slot => (⟨slot.1⟩, slot.2)

def admitted (ctx : ControlContext) : List (QueueSlotId × QueueItem) :=
  request.submittedSlots.filter fun slot => ctx.daemonAdmits slot.2

def prepareReplacementSlots (ctx : ControlContext) :
    Except String (List (QueueSlotId × QueueItem) × Nat) :=
  let submitted := request.submittedSlots
  match ctx.transportRejection (submitted.map (·.2)) with
  | some reason => .error reason
  | none =>
    let (slots, nextCursor) := ctx.admitQueueSlots submitted request.startIdx
    if slots.isEmpty then .error "Playback owner rejected the queue replacement"
    else
      match audioOnlyRejection ctx.audioOnly (slots.map (·.2)) with
      | some reason => .error reason
      | none => .ok (slots, nextCursor)

def accepted (ctx : ControlContext) : Bool := (request.prepareReplacementSlots ctx).isOk

end QueueReplace

def installReplacedQueue (queue : PlaybackQueue) (slots : List (QueueSlotId × QueueItem))
    (nextCursor : Nat) : PlaybackQueue :=
  PlaybackQueue.fromSlotItems slots (slots[nextCursor]?.map (·.1)) queue.mint

def slotPairs (queue : PlaybackQueue) : List ExecSlot :=
  queue.slots.map fun slot => ⟨slot.slotId, slot.item⟩

/-- What the player hands a run; it takes no Audiobookshelf item it has no context for. -/
def submitQueueSlots (ctx : ControlContext) (items : List ExecSlot) (startIdx : Nat) :
    List PlayerCommand :=
  if items.isEmpty || (items.any (fun slot => slot.item.isAudiobookshelf) &&
      !ctx.playerAdmitsAudiobookshelf) then []
  else [.submitQueue items (min startIdx (items.length - 1))]

def handleQueueReplace (ctx : ControlContext) (queue : PlaybackQueue) (request : QueueReplace) :
    ControlReply :=
  match request.prepareReplacementSlots ctx with
  | .error reason => { queue := queue, rejection := some reason }
  | .ok (slots, nextCursor) =>
    let queue := installReplacedQueue queue slots nextCursor
    { queue := queue, sent := submitQueueSlots ctx (slotPairs queue) nextCursor }

structure QueueAppend where
  items : List QueueItem
  before : Option QueueSlotId := none

namespace QueueAppend

variable (request : QueueAppend)

/-- `none` is a stale anchor. -/
def appendIndex (queue : PlaybackQueue) : Option Nat :=
  match request.before with
  | none => some queue.len
  | some slotId => queue.slotIndex slotId

def admitted (ctx : ControlContext) : List QueueItem := request.items.filter ctx.daemonAdmits

def admitAppendItems (ctx : ControlContext) : Except String (List QueueItem) :=
  match ctx.transportRejection request.items with
  | some reason => .error reason
  | none =>
    let items := request.admitted ctx
    if items.isEmpty then .error "Playback owner rejected the queue append"
    else
      match audioOnlyRejection ctx.audioOnly items with
      | some reason => .error reason
      | none => .ok items

def accepted (ctx : ControlContext) (queue : PlaybackQueue) : Bool :=
  !request.items.isEmpty && (request.appendIndex queue).isSome && (request.admitAppendItems ctx).isOk

end QueueAppend

/-- The run only appends, so an anchored append moves each new slot to its place after it. -/
def forwardQueueAppend (items : List ExecSlot) (before : Option QueueSlotId) (index : Nat) :
    List PlayerCommand :=
  .queueAppend items ::
    (if before.isSome then
      items.mapIdx fun offset slot => .queueMove slot.slotId (index + offset)
    else [])

def handleQueueAppend (ctx : ControlContext) (queue : PlaybackQueue) (request : QueueAppend) :
    ControlReply :=
  if request.items.isEmpty then { queue := queue }
  else
    match request.appendIndex queue with
    | none =>
      { queue := queue, rejection := some "slot not found; append anchor is stale" }
    | some index =>
      match request.admitAppendItems ctx with
      | .error reason => { queue := queue, rejection := some reason }
      | .ok items =>
        let (slots, queue) := queue.insertAll index items
        { queue := queue, sent := forwardQueueAppend slots request.before index }

namespace QueueReplace

variable {request : QueueReplace} {ctx : ControlContext}

theorem prepareReplacementSlots_ok {slots : List (QueueSlotId × QueueItem)} {nextCursor : Nat}
    (prepared : request.prepareReplacementSlots ctx = .ok (slots, nextCursor)) :
    slots = request.admitted ctx ∧ slots ≠ [] := by
  unfold prepareReplacementSlots at prepared
  dsimp only at prepared
  split at prepared
  · cases prepared
  · split at prepared
    · cases prepared
    · rename_i nonempty
      split at prepared
      · cases prepared
      · cases prepared
        exact ⟨rfl, by simpa using nonempty⟩

theorem prepareReplacementSlots_start {slots : List (QueueSlotId × QueueItem)} {nextCursor : Nat}
    (prepared : request.prepareReplacementSlots ctx = .ok (slots, nextCursor))
    (queue : PlaybackQueue) :
    ∃ start, (installReplacedQueue queue slots nextCursor).activeSlotId = some start := by
  have nonempty := (prepareReplacementSlots_ok prepared).2
  have inside : nextCursor < slots.length := by
    unfold prepareReplacementSlots at prepared
    dsimp only at prepared
    split at prepared
    · cases prepared
    · split at prepared
      · cases prepared
      · split at prepared
        · cases prepared
        · cases prepared
          have filled := List.length_pos_iff.mpr nonempty
          simp only [ControlContext.admitQueueSlots, ControlContext.admitQueue] at filled ⊢
          split <;> omega
  refine ⟨slots[nextCursor].1, ?_⟩
  simp only [installReplacedQueue, PlaybackQueue.fromSlotItems, List.getElem?_eq_getElem inside,
    Option.map_some, Option.filter_eq_some_iff, true_and]
  exact List.any_eq_true.mpr ⟨slots[nextCursor], List.getElem_mem inside, beq_self_eq_true _⟩

end QueueReplace

namespace QueueAppend

variable {request : QueueAppend} {ctx : ControlContext}

theorem admitAppendItems_ok {items : List QueueItem}
    (admits : request.admitAppendItems ctx = .ok items) : items = request.admitted ctx := by
  unfold admitAppendItems at admits
  dsimp only at admits
  split at admits
  · cases admits
  · split at admits
    · cases admits
    · split at admits
      · cases admits
      · cases admits
        rfl

theorem appendIndex_split {queue : PlaybackQueue} {index : Nat} (there : request.appendIndex queue = some index) :
    ∃ placed rest, queue.slotIds = placed ++ rest ∧ placed.length = index ∧ (request.before = none → rest = []) := by
  have inside : index ≤ queue.slotIds.length := by
    unfold appendIndex at there
    cases anchor : request.before with
    | none =>
      rw [anchor] at there
      cases there
      simp [PlaybackQueue.slotIds, PlaybackQueue.len]
    | some slotId =>
      rw [anchor] at there
      have bound := Keyed.indexOf_lt there
      simpa [PlaybackQueue.slotIds] using Nat.le_of_lt bound
  refine ⟨queue.slotIds.take index, queue.slotIds.drop index, (List.take_append_drop ..).symm,
    by simpa using inside, fun anchor => ?_⟩
  unfold appendIndex at there
  rw [anchor] at there
  cases there
  simp [PlaybackQueue.slotIds, PlaybackQueue.len]

end QueueAppend

theorem handleQueueAppend_accepted {ctx : ControlContext} {queue : PlaybackQueue}
    {request : QueueAppend} (accepted : request.accepted ctx queue = true) :
    ∃ (slots : List ExecSlot) (placed rest : List QueueSlotId),
      queue.slotIds = placed ++ rest ∧ (request.before = none → rest = []) ∧
      slots.map (·.slotId) = allocated queue.nextSlotId (request.admitted ctx).length ∧
      slots.map (·.item) = request.admitted ctx ∧
      (handleQueueAppend ctx queue request).queue.slotIds = placed ++ slots.map (·.slotId) ++ rest ∧
      (handleQueueAppend ctx queue request).sent = forwardQueueAppend slots request.before placed.length := by
  unfold QueueAppend.accepted at accepted
  rw [Bool.and_eq_true, Bool.and_eq_true, Bool.not_eq_true'] at accepted
  obtain ⟨⟨nonempty, anchored⟩, admits⟩ := accepted
  obtain ⟨index, there⟩ := Option.isSome_iff_exists.mp anchored
  cases admission : request.admitAppendItems ctx with
  | error reason => rw [admission] at admits; cases admits
  | ok items =>
    have items_eq := QueueAppend.admitAppendItems_ok admission
    obtain ⟨placed, rest, ids, rfl, last⟩ := QueueAppend.appendIndex_split there
    obtain ⟨handed, kept, stand⟩ := PlaybackQueue.insertAll_spec items ids
    refine ⟨(queue.insertAll placed.length items).1, placed, rest, ids, last, ?_, ?_, ?_, ?_⟩
    · rw [handed, items_eq]
    · rw [kept, items_eq]
    · simpa [handleQueueAppend, nonempty, there, admission, handed] using stand
    · simp [handleQueueAppend, nonempty, there, admission]

theorem handleQueueAppend_refused {ctx : ControlContext} {queue : PlaybackQueue}
    {request : QueueAppend} (refused : request.accepted ctx queue = false) :
    (handleQueueAppend ctx queue request).queue = queue ∧ (handleQueueAppend ctx queue request).sent = [] := by
  unfold handleQueueAppend
  split
  · exact ⟨rfl, rfl⟩
  · rename_i nonempty
    split
    · exact ⟨rfl, rfl⟩
    · rename_i index there
      split
      · exact ⟨rfl, rfl⟩
      · rename_i items admission
        simp [QueueAppend.accepted, nonempty, there, admission, Except.isOk, Except.toBool] at refused

end Mbv.Daemon
