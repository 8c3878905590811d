import Mathlib.Data.List.Destutter
import Mbv.Daemon.QueueEdit
import Mbv.Machine.Run
import Mbv.Queue.SlotIdentity
import Mbv.Sequence.Placed

namespace Mbv.Client

open Mbv.Queue Mbv.Daemon List

/-! ### Undoable queue edits

The view shows the owner's queue as its last answer left it. -/

inductive UndoEntry where
  | remove (item : QueueItem) (index : Nat)
  | move (slotId : QueueSlotId) (source : Nat)

structure UndoLink where
  queue : PlaybackQueue
  undoStack : List UndoEntry := []

/-- What the player reports of the link when an edit is asked for. -/
structure LinkStatus where
  playback : Bool
  active : Bool
  currentIdx : Nat

inductive ClientEdit where
  | remove (pos : Nat)
  | removeSlots (slotIds : List QueueSlotId)
  | moveTo (source target : Nat)
  | moveUp (source : Nat)
  | moveDown (source : Nat)

def slotIdAt (queue : PlaybackQueue) (pos : Nat) : Option QueueSlotId :=
  queue.slots[pos]?.map (·.slotId)

def itemAt (queue : PlaybackQueue) (pos : Nat) : Option QueueItem :=
  queue.slots[pos]?.map (·.item)

def queueSlotNeedsActiveConfirm (status : LinkStatus) (queue : PlaybackQueue)
    (slotId : QueueSlotId) : Bool :=
  if !status.playback || !status.active then false
  else
    match queue.activeSlotId with
    | some active => active = slotId
    | none => (queue.slotIndex slotId).any fun pos => pos = status.currentIdx

namespace UndoLink

def queueOp (s : UndoLink) (reply : ControlReply) (entries : List UndoEntry) : UndoLink :=
  match reply.rejection with
  | some _ => s
  | none => { queue := reply.queue, undoStack := entries ++ s.undoStack }

def removeFromQueue (s : UndoLink) (status : LinkStatus) (pos : Nat) : UndoLink :=
  match s.queue.slots[pos]? with
  | none => s
  | some slot =>
    if queueSlotNeedsActiveConfirm status s.queue slot.slotId then s
    else s.queueOp (handleQueueRemoveSlot s.queue slot.slotId) [.remove slot.item pos]

def targets (queue : PlaybackQueue) (slotIds : List QueueSlotId) : List (QueueSlotId × Nat) :=
  let found := slotIds.filterMap fun slotId => (queue.slotIndex slotId).map fun pos => (slotId, pos)
  (found.mergeSort fun one other => one.2 ≤ other.2).destutter fun one other => one.2 ≠ other.2

def removeSlotsFromQueue (s : UndoLink) (status : LinkStatus) (slotIds : List QueueSlotId) :
    UndoLink :=
  if slotIds.any (queueSlotNeedsActiveConfirm status s.queue) then s
  else
    let targets := targets s.queue slotIds
    if targets.isEmpty then s
    else
      s.queueOp (handleQueueRemoveSlots s.queue (targets.map Prod.fst))
        (targets.filterMap fun target => (itemAt s.queue target.2).map fun item =>
          .remove item target.2)

def moveQueueItemTo (s : UndoLink) (source target : Nat) : UndoLink :=
  if s.queue.len ≤ source || s.queue.len ≤ target || source = target then s
  else
    match slotIdAt s.queue source with
    | none => s
    | some slotId =>
      s.queueOp (handleQueueMoveSlot s.queue slotId target) [.move slotId source]

def moveQueueItemUp (s : UndoLink) (source : Nat) : UndoLink :=
  if source = 0 then s else s.moveQueueItemTo source (source - 1)

def moveQueueItemDown (s : UndoLink) (source : Nat) : UndoLink :=
  if s.queue.len ≤ source + 1 then s else s.moveQueueItemTo source (source + 1)

def edit (s : UndoLink) (status : LinkStatus) : ClientEdit → UndoLink
  | .remove pos => s.removeFromQueue status pos
  | .removeSlots slotIds => s.removeSlotsFromQueue status slotIds
  | .moveTo source target => s.moveQueueItemTo source target
  | .moveUp source => s.moveQueueItemUp source
  | .moveDown source => s.moveQueueItemDown source

end UndoLink

def UndoEntry.reply (ctx : ControlContext) (queue : PlaybackQueue) : UndoEntry → ControlReply
  | .remove item index => handleQueueAppend ctx queue ⟨[item], slotIdAt queue index⟩
  | .move slotId source => handleQueueMoveSlot queue slotId source

/-- The entry is popped whether or not the owner takes the undo. -/
def UndoLink.undoLastQueueEdit (ctx : ControlContext) (s : UndoLink) : UndoLink :=
  match s.undoStack with
  | [] => s
  | entry :: entries =>
    match (entry.reply ctx s.queue).rejection with
    | some _ => { s with undoStack := entries }
    | none => { queue := (entry.reply ctx s.queue).queue, undoStack := entries }

/-! ### Queues with the same items -/

/-- The same items in the same order, the slots of `kept` under the same ids. -/
def Alike (kept : List QueueSlotId) (slots others : List QueueSlot) : Prop :=
  List.Forall₂ (fun slot other => slot.item = other.item ∧
    (other.slotId ∈ kept → slot.slotId = other.slotId)) slots others

def moved (entries : List UndoEntry) : List QueueSlotId :=
  entries.filterMap fun entry => match entry with
    | .remove _ _ => none
    | .move slotId _ => some slotId

def Readmits (ctx : ControlContext) (item : QueueItem) : Prop :=
  (⟨[item], none⟩ : QueueAppend).admitAppendItems ctx = .ok [item]

def undoEntries (ctx : ControlContext) : List UndoEntry → PlaybackQueue → Option PlaybackQueue
  | [], queue => some queue
  | entry :: entries, queue =>
    match (entry.reply ctx queue).rejection with
    | some _ => none
    | none => undoEntries ctx entries (entry.reply ctx queue).queue

theorem Alike.refl (kept : List QueueSlotId) (slots : List QueueSlot) : Alike kept slots slots :=
  forall₂_same.mpr fun _ _ => ⟨rfl, fun _ => rfl⟩

theorem Alike.fewer {kept others : List QueueSlotId} {slots slots' : List QueueSlot}
    (alike : Alike kept slots slots') (fewer : ∀ id ∈ others, id ∈ kept) :
    Alike others slots slots' :=
  alike.imp fun _ _ same => ⟨same.1, fun member => same.2 (fewer _ member)⟩

variable {kept : List QueueSlotId}

theorem Alike.items {slots slots' : List QueueSlot} (alike : Alike kept slots slots') :
    slots.map (·.item) = slots'.map (·.item) := by
  induction alike with
  | nil => rfl
  | cons first _ ih => rw [map_cons, map_cons, first.1, ih]

variable {slots : List QueueSlot} {slot : QueueSlot}

theorem undo_move (ctx : ControlContext) {queue : PlaybackQueue} {source target : Nat}
    (valid : queue.WellFormed) (here : slots[source]? = some slot) (inside : target < slots.length)
    (alike : Alike kept queue.slots ((slots.eraseIdx source).insertIdx target slot))
    (named : slot.slotId ∈ kept) :
    ∃ queue', undoEntries ctx [.move slot.slotId source] queue = some queue' ∧ queue'.WellFormed ∧
      queue'.nextSlotId = queue.nextSlotId ∧ Alike kept queue'.slots slots := by
  have bound := (List.getElem?_eq_some_iff.mp here).1
  have there : ((slots.eraseIdx source).insertIdx target slot)[target]? = some slot := by
    rw [List.getElem?_insertIdx_self, if_pos (by rw [length_eraseIdx_of_lt bound]; omega)]
  obtain ⟨found, at_, item, id⟩ := alike.getElem?_right there
  have index : queue.slotIndex slot.slotId = some target :=
    Keyed.indexOf_of_key_at valid.distinct (by rw [List.getElem?_map, at_, Option.map_some, id named])
  have held : ¬ (queue.slot slot.slotId).isNone = true := by
    rw [slot_isNone]
    exact fun absent => absent (PlaybackQueue.slotIndex_some index)
  have length : queue.slots.length = slots.length := by
    rw [alike.length_eq, length_insertIdx, length_eraseIdx_of_lt bound]
    split <;> omega
  have line : (queue.moveSlot slot.slotId source).2.slots = (queue.slots.eraseIdx target).insertIdx source found := by
    rw [PlaybackQueue.moveSlot, index]
    exact Keyed.move_at index at_ (by omega)
  refine ⟨(queue.moveSlot slot.slotId source).2, ?_, valid.moveSlot _ _, ?_, ?_⟩
  · simp [undoEntries, UndoEntry.reply, handleQueueMoveSlot, held]
  · rw [PlaybackQueue.moveSlot, index]
    rfl
  · have back := alike.eraseIdx target
    rw [eraseIdx_insertIdx_self] at back
    rw [line, ← insertIdx_eraseIdx_of_getElem? here]
    exact back.insertIdx ⟨item, id⟩ source

variable {ctx : ControlContext}

theorem undo_remove {queue : PlaybackQueue} {pos : Nat} (valid : queue.WellFormed)
    (room : queue.nextSlotId.toNat < u64Max) (here : slots[pos]? = some slot)
    (alike : Alike kept queue.slots (slots.eraseIdx pos)) (unnamed : slot.slotId ∉ kept)
    (readmits : Readmits ctx slot.item) :
    ∃ queue', undoEntries ctx [.remove slot.item pos] queue = some queue' ∧ queue'.WellFormed ∧
      queue'.nextSlotId = saturatingSucc queue.nextSlotId ∧ Alike kept queue'.slots slots := by
  have bound := (List.getElem?_eq_some_iff.mp here).1
  have length : queue.slots.length = slots.length - 1 := by
    rw [alike.length_eq, length_eraseIdx_of_lt bound]
  have anchor : (⟨[slot.item], slotIdAt queue pos⟩ : QueueAppend).appendIndex queue = some pos := by
    unfold QueueAppend.appendIndex slotIdAt
    cases after : queue.slots[pos]? with
    | none =>
      have past := List.getElem?_eq_none_iff.mp after
      have last : queue.len = pos := by
        rw [PlaybackQueue.len]
        omega
      simp [last]
    | some next =>
      exact Keyed.indexOf_of_key_at valid.distinct (by rw [List.getElem?_map, after, Option.map_some])
  have admits : (⟨[slot.item], slotIdAt queue pos⟩ : QueueAppend).admitAppendItems ctx = .ok [slot.item] := readmits
  have line : (queue.insert pos slot.item).2.slots = queue.slots.insertIdx pos ⟨⟨queue.nextSlotId⟩, slot.item⟩ := by
    have short : min pos queue.slots.length = pos := Nat.min_eq_left (by omega)
    simp only [PlaybackQueue.insert, PlaybackQueue.allocateSlotId, PlaybackQueue.bump_slots, short]
  refine ⟨(queue.insert pos slot.item).2, ?_, valid.insert room _ _, rfl, ?_⟩
  · simp [undoEntries, UndoEntry.reply, handleQueueAppend, anchor, admits, PlaybackQueue.insertAll]
  · rw [line, ← insertIdx_eraseIdx_of_getElem? here]
    have put : (⟨⟨queue.nextSlotId⟩, slot.item⟩ : QueueSlot).item = slot.item ∧
        (slot.slotId ∈ kept → (⟨queue.nextSlotId⟩ : QueueSlotId) = slot.slotId) :=
      ⟨rfl, fun member => absurd member unnamed⟩
    exact alike.insertIdx put pos

theorem undoEntries_append (entries others : List UndoEntry) (queue : PlaybackQueue) :
    undoEntries ctx (entries ++ others) queue = (undoEntries ctx entries queue).bind (undoEntries ctx others) := by
  induction entries generalizing queue with
  | nil => rfl
  | cons entry entries ih =>
    simp only [cons_append, undoEntries]
    cases (entry.reply ctx queue).rejection with
    | none => exact ih _
    | some reason => rfl

/-- Undoing the entries takes any queue alike to `slots` to one alike to `before`. -/
def Reverts (ctx : ControlContext) (entries : List UndoEntry) (named kept : List QueueSlotId)
    (slots before : List QueueSlot) : Prop :=
  ∀ queue : PlaybackQueue, queue.WellFormed → queue.nextSlotId.toNat + entries.length ≤ u64Max →
    Alike named queue.slots slots →
    ∃ queue', undoEntries ctx entries queue = some queue' ∧ queue'.WellFormed ∧
      queue'.nextSlotId.toNat ≤ queue.nextSlotId.toNat + entries.length ∧
      Alike kept queue'.slots before

theorem Reverts.refl (ctx : ControlContext) (kept : List QueueSlotId) (slots : List QueueSlot) :
    Reverts ctx [] kept kept slots slots :=
  fun queue valid _ alike => ⟨queue, rfl, valid, Nat.le_refl _, alike⟩

theorem Reverts.trans {first second : List UndoEntry} {named kept older : List QueueSlotId}
    {slots before earliest : List QueueSlot} (later : Reverts ctx first named kept slots before)
    (earlier : Reverts ctx second kept older before earliest) :
    Reverts ctx (first ++ second) named older slots earliest := by
  intro queue valid room alike
  rw [length_append] at room
  obtain ⟨between, undone, valid', next, alike'⟩ := later queue valid (by omega) alike
  obtain ⟨queue', undone', valid'', next', alike''⟩ := earlier between valid' (by omega) alike'
  refine ⟨queue', ?_, valid'', ?_, alike''⟩
  · rw [undoEntries_append, undone]
    exact undone'
  · rw [length_append]
    omega

theorem reverts_move (ctx : ControlContext) {source target : Nat}
    (here : slots[source]? = some slot) (inside : target < slots.length) :
    Reverts ctx [.move slot.slotId source] (slot.slotId :: kept) kept ((slots.eraseIdx source).insertIdx target slot) slots := by
  intro queue valid _ alike
  obtain ⟨queue', undone, valid', next, alike'⟩ := undo_move ctx valid here inside alike mem_cons_self
  refine ⟨queue', undone, valid', ?_, alike'.fewer fun id member => mem_cons_of_mem _ member⟩
  rw [next]
  exact Nat.le_add_right _ _

theorem reverts_remove {pos : Nat} (here : slots[pos]? = some slot) (unnamed : slot.slotId ∉ kept)
    (readmits : Readmits ctx slot.item) :
    Reverts ctx [.remove slot.item pos] kept kept (slots.eraseIdx pos) slots := by
  intro queue valid room alike
  rw [length_singleton] at room
  obtain ⟨queue', undone, valid', next, alike'⟩ := undo_remove valid (by omega) here alike unnamed readmits
  refine ⟨queue', undone, valid', ?_, alike'⟩
  rw [next, saturatingSucc_toNat, length_singleton]
  omega

theorem reverts_removeAll (removed : List (Nat × QueueSlot)) (ascending : removed.Pairwise fun one other => one.1 < other.1)
    (here : ∀ entry ∈ removed, slots[entry.1]? = some entry.2)
    (unnamed : ∀ entry ∈ removed, entry.2.slotId ∉ kept)
    (readmits : ∀ entry ∈ removed, Readmits ctx entry.2.item) :
    Reverts ctx (removed.map fun entry => .remove entry.2.item entry.1) kept kept
      (List.eraseAll (removed.map Prod.fst) slots) slots := by
  induction removed with
  | nil => exact .refl ctx kept slots
  | cons first removed ih =>
    obtain ⟨later, ascending'⟩ := pairwise_cons.mp ascending
    have rest := ih ascending' (fun entry member => here entry (mem_cons_of_mem _ member))
      (fun entry member => unnamed entry (mem_cons_of_mem _ member))
      (fun entry member => readmits entry (mem_cons_of_mem _ member))
    have places : ∀ place ∈ removed.map Prod.fst, first.1 < place := by
      intro place member
      obtain ⟨entry, inside, rfl⟩ := mem_map.mp member
      exact later entry inside
    have there : (List.eraseAll (removed.map Prod.fst) slots)[first.1]? = some first.2 := by
      rw [List.getElem?_eraseAll places]
      exact here first mem_cons_self
    exact (reverts_remove there (unnamed first mem_cons_self) (readmits first mem_cons_self)).trans rest

/-! ### What an edit leaves to undo -/

section

variable {queue : PlaybackQueue}

theorem slotIndex_of_here (valid : queue.WellFormed) {pos : Nat} {slot : QueueSlot}
    (here : queue.slots[pos]? = some slot) : queue.slotIndex slot.slotId = some pos :=
  Keyed.indexOf_of_key_at valid.distinct (by rw [List.getElem?_map, here, Option.map_some])

theorem removeHeldSlot_slots {slotId : QueueSlotId} {pos : Nat} (found : queue.slotIndex slotId = some pos) :
    (removeHeldSlot queue slotId).slots = queue.slots.eraseIdx pos := by
  unfold removeHeldSlot
  split
  · rw [PlaybackQueue.removeActiveSlotConfirmed, found]
    rfl
  · rename_i other
    rw [PlaybackQueue.removeSlot, if_neg other, PlaybackQueue.removeExistingSlot, found]
    rfl

theorem removeHeldSlot_next (slotId : QueueSlotId) : (removeHeldSlot queue slotId).nextSlotId = queue.nextSlotId := by
  unfold removeHeldSlot
  split
  · exact PlaybackQueue.removeActiveSlotConfirmed_next slotId
  · exact PlaybackQueue.removeSlot_next slotId

theorem removeHeldSlot_wellFormed (valid : queue.WellFormed) (slotId : QueueSlotId) :
    (removeHeldSlot queue slotId).WellFormed := by
  unfold removeHeldSlot
  split
  · exact valid.removeActiveSlotConfirmed slotId
  · exact valid.removeSlot slotId

theorem handleQueueRemoveSlot_held {slotId : QueueSlotId} {pos : Nat} (found : queue.slotIndex slotId = some pos) :
    (handleQueueRemoveSlot queue slotId).rejection = none ∧
      (handleQueueRemoveSlot queue slotId).queue = removeHeldSlot queue slotId := by
  have held : ¬ (queue.slot slotId).isNone = true := by
    rw [slot_isNone]
    exact fun absent => absent (PlaybackQueue.slotIndex_some found)
  unfold handleQueueRemoveSlot removeHeldSlot
  rw [if_neg held]
  split <;> exact ⟨rfl, rfl⟩

theorem removeHeldSlots_spec (valid : queue.WellFormed) (slotIds : List QueueSlotId) :
    (removeHeldSlots queue slotIds).2.slots = queue.slots.filter (fun slot => slot.slotId ∉ slotIds) ∧
      (removeHeldSlots queue slotIds).2.WellFormed ∧
      (removeHeldSlots queue slotIds).2.nextSlotId = queue.nextSlotId := by
  induction slotIds generalizing queue with
  | nil => exact ⟨(filter_eq_self.mpr (by simp)).symm, valid, rfl⟩
  | cons slotId slotIds ih =>
    unfold removeHeldSlots
    split
    · rename_i absent
      obtain ⟨slots, valid', next⟩ := ih valid
      refine ⟨?_, valid', next⟩
      rw [slots]
      apply filter_congr
      intro slot member
      have other : slot.slotId ≠ slotId := fun same =>
        slot_isNone.mp absent (same ▸ mem_map_of_mem member)
      simp [other]
    · rename_i present
      have held : (queue.slotIndex slotId).isSome = true := by
        rw [Option.isSome_iff_ne_none]
        intro none_
        exact present (slot_isNone.mpr (PlaybackQueue.slotIndex_none none_))
      obtain ⟨pos, found⟩ := Option.isSome_iff_exists.mp held
      obtain ⟨slots, valid', next⟩ := ih (removeHeldSlot_wellFormed valid slotId)
      refine ⟨?_, valid', next.trans (removeHeldSlot_next slotId)⟩
      rw [slots, removeHeldSlot_slots found, Keyed.eraseIdx_eq_filter valid.distinct found, filter_filter]
      apply filter_congr
      intro slot _
      by_cases same : slot.slotId = slotId <;> simp [same]

theorem handleQueueRemoveSlots_reply (slotIds : List QueueSlotId) : (handleQueueRemoveSlots queue slotIds).rejection = none ∧
      (handleQueueRemoveSlots queue slotIds).queue = (removeHeldSlots queue slotIds).2 := by
  unfold handleQueueRemoveSlots
  dsimp only
  split <;> exact ⟨rfl, rfl⟩

theorem targets_spec (slotIds : List QueueSlotId) :
    (UndoLink.targets queue slotIds).Pairwise (fun one other => one.2 < other.2) ∧
      ∀ target ∈ UndoLink.targets queue slotIds, target.1 ∈ slotIds ∧ queue.slotIndex target.1 = some target.2 := by
  unfold UndoLink.targets
  generalize located : slotIds.filterMap (fun slotId =>
    (queue.slotIndex slotId).map fun pos => (slotId, pos)) = found
  have sorted := @pairwise_mergeSort _ (fun one other : QueueSlotId × Nat => one.2 ≤ other.2) (fun a b c first second => by
      rw [decide_eq_true_eq] at first second ⊢
      exact Nat.le_trans first second)
    (fun a b => by simp [Nat.le_total]) found
  constructor
  · apply pairwise_lt_of_isChain_ne _ (isChain_destutter _ _)
    exact (sorted.imp fun le => of_decide_eq_true le).sublist (destutter_sublist _ _)
  · intro target member
    have inside := mem_mergeSort.mp ((destutter_sublist _ _).subset member)
    rw [← located] at inside
    obtain ⟨slotId, asked, here⟩ := mem_filterMap.mp inside
    obtain ⟨pos, index, rfl⟩ := Option.map_eq_some_iff.mp here
    exact ⟨asked, index⟩

theorem eraseAll_targets (valid : queue.WellFormed) (removed : List (Nat × QueueSlot))
    (ascending : removed.Pairwise fun one other => one.1 < other.1)
    (here : ∀ entry ∈ removed, queue.slots[entry.1]? = some entry.2) :
    List.eraseAll (removed.map Prod.fst) queue.slots =
      queue.slots.filter fun slot => slot.slotId ∉ removed.map fun entry => entry.2.slotId := by
  induction removed with
  | nil => exact (filter_eq_self.mpr (by simp)).symm
  | cons first removed ih =>
    obtain ⟨later, ascending'⟩ := pairwise_cons.mp ascending
    have rest := ih ascending' fun entry member => here entry (mem_cons_of_mem _ member)
    have places : ∀ place ∈ removed.map Prod.fst, first.1 < place := by
      intro place member
      obtain ⟨entry, inside, rfl⟩ := mem_map.mp member
      exact later entry inside
    have there := (List.getElem?_eraseAll places).trans (here first mem_cons_self)
    rw [rest] at there
    have distinct : ((queue.slots.filter fun slot =>
        slot.slotId ∉ removed.map fun entry => entry.2.slotId).map (·.slotId)).Nodup :=
      valid.distinct.sublist (filter_sublist.map _)
    have found := Keyed.indexOf_of_key_at distinct (by rw [List.getElem?_map, there, Option.map_some])
    rw [map_cons, List.eraseAll, foldr_cons, ← List.eraseAll, rest, Keyed.eraseIdx_eq_filter distinct found, filter_filter]
    apply filter_congr
    intro slot _
    by_cases same : slot.slotId = first.2.slotId <;> simp [same]

end

/-! ### Runs of edits -/

/-- The queue keeps its slot ids apart, and the owner takes any of its items back. -/
structure UndoLink.Sound (ctx : ControlContext) (s : UndoLink) : Prop where
  valid : s.queue.WellFormed
  readmits : ∀ slot ∈ s.queue.slots, Readmits ctx slot.item

/-- The edit removes no slot that an entry below it moves back. -/
def KeepsMoved (s : UndoLink) : ClientEdit → Prop
  | .remove pos => ∀ slotId ∈ slotIdAt s.queue pos, slotId ∉ moved s.undoStack
  | .removeSlots slotIds => ∀ slotId ∈ slotIds, slotId ∉ moved s.undoStack
  | .moveTo _ _ | .moveUp _ | .moveDown _ => True

/-- What `t` holds over `s` are entries that lead back to it. -/
def Leads (ctx : ControlContext) (s t : UndoLink) : Prop :=
  ∃ entries, t.undoStack = entries ++ s.undoStack ∧
    Reverts ctx entries (moved t.undoStack) (moved s.undoStack) t.queue.slots s.queue.slots ∧
    t.queue.nextSlotId = s.queue.nextSlotId

theorem Leads.refl (ctx : ControlContext) (s : UndoLink) : Leads ctx s s := ⟨[], rfl, .refl ctx _ _, rfl⟩

theorem Leads.trans {s t u : UndoLink} (earlier : Leads ctx s t) (later : Leads ctx t u) : Leads ctx s u := by
  obtain ⟨entries, stack, reverts, next⟩ := earlier
  obtain ⟨entries', stack', reverts', next'⟩ := later
  refine ⟨entries' ++ entries, ?_, reverts'.trans reverts, next'.trans next⟩
  rw [stack', stack, append_assoc]

section

variable {ctx : ControlContext} {s : UndoLink}

theorem UndoLink.Sound.removed (sound : s.Sound ctx) {queue : PlaybackQueue}
    (valid : queue.WellFormed) (fewer : ∀ slot ∈ queue.slots, slot ∈ s.queue.slots)
    (entries : List UndoEntry) : UndoLink.Sound ctx ⟨queue, entries⟩ :=
  ⟨valid, fun slot member => sound.readmits slot (fewer slot member)⟩

theorem removeFromQueue_leads (sound : s.Sound ctx) (status : LinkStatus) {pos : Nat} (keeps : KeepsMoved s (.remove pos)) :
    (s.removeFromQueue status pos).Sound ctx ∧ Leads ctx s (s.removeFromQueue status pos) := by
  unfold UndoLink.removeFromQueue
  cases here : s.queue.slots[pos]? with
  | none => exact ⟨sound, .refl ctx s⟩
  | some slot =>
    dsimp only
    split
    · exact ⟨sound, .refl ctx s⟩
    · have unnamed : slot.slotId ∉ moved s.undoStack := keeps _ (by simp [slotIdAt, here])
      have found := slotIndex_of_here sound.valid here
      obtain ⟨taken, answer⟩ := handleQueueRemoveSlot_held found
      have readmits := sound.readmits slot (mem_of_getElem? here)
      simp only [UndoLink.queueOp, taken, answer]
      constructor
      · apply sound.removed (removeHeldSlot_wellFormed sound.valid _)
        rw [removeHeldSlot_slots found]
        exact fun _ member => mem_of_mem_eraseIdx member
      · refine ⟨_, rfl, ?_, removeHeldSlot_next _⟩
        dsimp only
        rw [removeHeldSlot_slots found]
        exact reverts_remove here unnamed readmits

theorem moveQueueItemTo_leads (sound : s.Sound ctx) (source target : Nat) :
    (s.moveQueueItemTo source target).Sound ctx ∧ Leads ctx s (s.moveQueueItemTo source target) := by
  unfold UndoLink.moveQueueItemTo
  split
  · exact ⟨sound, .refl ctx s⟩
  · rename_i within
    simp only [Bool.or_eq_true, decide_eq_true_eq, not_or, Nat.not_le] at within
    change (source < s.queue.slots.length ∧ target < s.queue.slots.length) ∧ source ≠ target at within
    have here := List.getElem?_eq_getElem within.1.1
    generalize s.queue.slots[source] = slot at here
    have found := slotIndex_of_here sound.valid here
    have held : ¬ (s.queue.slot slot.slotId).isNone = true := by
      rw [slot_isNone]
      exact fun absent => absent (PlaybackQueue.slotIndex_some found)
    have line : (s.queue.moveSlot slot.slotId target).2.slots = (s.queue.slots.eraseIdx source).insertIdx target slot := by
      rw [PlaybackQueue.moveSlot, found]
      exact Keyed.move_at found here within.1.2
    simp only [slotIdAt, here, Option.map_some, UndoLink.queueOp, handleQueueMoveSlot, if_neg held]
    constructor
    · apply sound.removed (sound.valid.moveSlot _ _)
      rw [line]
      intro other member
      rcases eq_or_mem_of_mem_insertIdx member with rfl | rest
      · exact mem_of_getElem? here
      · exact mem_of_mem_eraseIdx rest
    · refine ⟨_, rfl, ?_, ?_⟩
      · rw [line]
        exact reverts_move ctx here within.1.2
      · rw [PlaybackQueue.moveSlot, found]
        rfl

theorem exists_removed {queue : PlaybackQueue} (targets : List (QueueSlotId × Nat))
    (each : ∀ target ∈ targets, queue.slotIndex target.1 = some target.2) :
    ∃ removed : List (Nat × QueueSlot), targets = removed.map (fun entry => (entry.2.slotId, entry.1)) ∧
        ∀ entry ∈ removed, queue.slots[entry.1]? = some entry.2 := by
  induction targets with
  | nil => exact ⟨[], rfl, by simp⟩
  | cons target targets ih =>
    obtain ⟨removed, rfl, here⟩ := ih fun other member => each other (mem_cons_of_mem _ member)
    have at_ := Keyed.key_at_index (each target mem_cons_self)
    rw [List.getElem?_map] at at_
    obtain ⟨slot, there, named⟩ := Option.map_eq_some_iff.mp at_
    refine ⟨(target.2, slot) :: removed, by rw [map_cons, named], ?_⟩
    intro entry member
    rcases mem_cons.mp member with rfl | rest
    · exact there
    · exact here entry rest

theorem removeSlotsFromQueue_leads (sound : s.Sound ctx) (status : LinkStatus)
    {slotIds : List QueueSlotId} (keeps : KeepsMoved s (.removeSlots slotIds)) :
    (s.removeSlotsFromQueue status slotIds).Sound ctx ∧ Leads ctx s (s.removeSlotsFromQueue status slotIds) := by
  unfold UndoLink.removeSlotsFromQueue
  split
  · exact ⟨sound, .refl ctx s⟩
  dsimp only
  split
  · exact ⟨sound, .refl ctx s⟩
  obtain ⟨ascending, each⟩ := @targets_spec s.queue slotIds
  obtain ⟨removed, shape, here⟩ := exists_removed _ fun target member => (each target member).2
  obtain ⟨taken, answer⟩ := @handleQueueRemoveSlots_reply s.queue ((UndoLink.targets s.queue slotIds).map Prod.fst)
  obtain ⟨left, valid, next⟩ := removeHeldSlots_spec sound.valid ((UndoLink.targets s.queue slotIds).map Prod.fst)
  have asked : ∀ entry ∈ removed, entry.2.slotId ∈ slotIds := by
    intro entry member
    have inside : (entry.2.slotId, entry.1) ∈ UndoLink.targets s.queue slotIds := by
      rw [shape]
      exact mem_map_of_mem member
    exact (each _ inside).1
  have entries : (UndoLink.targets s.queue slotIds).filterMap (fun target =>
      (itemAt s.queue target.2).map fun item => UndoEntry.remove item target.2) =
      removed.map fun entry => .remove entry.2.item entry.1 := by
    rw [shape, filterMap_map]
    apply filterMap_eq_map_iff_forall_eq_some.mpr
    intro entry member
    simp [itemAt, here entry member]
  rw [shape, pairwise_map] at ascending
  have erased := eraseAll_targets sound.valid removed ascending here
  simp only [UndoLink.queueOp, taken, answer, entries]
  constructor
  · apply sound.removed valid
    rw [left]
    exact fun _ member => mem_of_mem_filter member
  · refine ⟨_, rfl, ?_, next⟩
    have ids : (UndoLink.targets s.queue slotIds).map Prod.fst = removed.map fun entry => entry.2.slotId := by
      rw [shape, map_map]
      rfl
    have unnamed : moved (removed.map (fun entry => UndoEntry.remove entry.2.item entry.1) ++
        s.undoStack) = moved s.undoStack := by
      simp [moved, filterMap_append, filterMap_map]
    dsimp only
    rw [left, ids, ← erased, unnamed]
    exact reverts_removeAll removed ascending here (fun entry member => keeps _ (asked entry member))
      fun entry member => sound.readmits _ (mem_of_getElem? (here entry member))

theorem edit_leads (sound : s.Sound ctx) (status : LinkStatus) {edit : ClientEdit} (keeps : KeepsMoved s edit) :
    (s.edit status edit).Sound ctx ∧ Leads ctx s (s.edit status edit) := by
  cases edit with
  | remove pos => exact removeFromQueue_leads sound status keeps
  | removeSlots slotIds => exact removeSlotsFromQueue_leads sound status keeps
  | moveTo source target => exact moveQueueItemTo_leads sound source target
  | moveUp source =>
    unfold UndoLink.edit UndoLink.moveQueueItemUp
    dsimp only
    split
    · exact ⟨sound, .refl ctx s⟩
    · exact moveQueueItemTo_leads sound source (source - 1)
  | moveDown source =>
    unfold UndoLink.edit UndoLink.moveQueueItemDown
    dsimp only
    split
    · exact ⟨sound, .refl ctx s⟩
    · exact moveQueueItemTo_leads sound source (source + 1)

end

def editMachine : Machine UndoLink (LinkStatus × ClientEdit) where
  step s input := s.edit input.1 input.2

def KeepsMovedSlots (s : UndoLink) (input : LinkStatus × ClientEdit) : Prop := KeepsMoved s input.2

instance KeepsMovedSlots.decide (s : UndoLink) :
    ∀ input, Decidable (KeepsMovedSlots s input)
  | (_, .remove pos) =>
    inferInstanceAs (Decidable (∀ slotId ∈ slotIdAt s.queue pos, slotId ∉ moved s.undoStack))
  | (_, .removeSlots slotIds) =>
    inferInstanceAs (Decidable (∀ slotId ∈ slotIds, slotId ∉ moved s.undoStack))
  | (_, .moveTo _ _) | (_, .moveUp _) | (_, .moveDown _) => isTrue trivial

theorem run_leads {s : UndoLink} (sound : s.Sound ctx) (edits : List (LinkStatus × ClientEdit))
    (keeps : editMachine.Along KeepsMovedSlots s edits) :
    (editMachine.run s edits).Sound ctx ∧ Leads ctx s (editMachine.run s edits) := by
  induction edits generalizing s with
  | nil => exact ⟨sound, .refl ctx s⟩
  | cons input edits ih =>
    obtain ⟨sound', leads⟩ := edit_leads sound input.1 keeps.1
    obtain ⟨sound'', leads'⟩ := ih sound' keeps.2
    exact ⟨sound'', leads.trans leads'⟩

/-! ### Entries left from before -/

def UndoLink.above (s : UndoLink) (older : List UndoEntry) : UndoLink :=
  { s with undoStack := s.undoStack ++ older }

@[simp] theorem above_queue (s : UndoLink) (older : List UndoEntry) : (s.above older).queue = s.queue := rfl

theorem queueOp_above (s : UndoLink) (older : List UndoEntry) (reply : ControlReply) (entries : List UndoEntry) :
    (s.above older).queueOp reply entries = (s.queueOp reply entries).above older := by
  unfold UndoLink.queueOp
  cases reply.rejection with
  | none => simp [UndoLink.above]
  | some reason => rfl

theorem ite_above {c : Prop} [Decidable c] (s t : UndoLink) (older : List UndoEntry) :
    (if c then s else t).above older = if c then s.above older else t.above older :=
  apply_ite (fun s => s.above older) c s t

theorem moveQueueItemTo_above (s : UndoLink) (older : List UndoEntry) (source target : Nat) :
    (s.above older).moveQueueItemTo source target = (s.moveQueueItemTo source target).above older := by
  simp only [UndoLink.moveQueueItemTo, above_queue]
  cases slotIdAt s.queue source with
  | none => exact (ite_above s s older).symm
  | some slotId =>
    dsimp only
    rw [queueOp_above]
    exact (ite_above s _ older).symm

theorem edit_above (s : UndoLink) (older : List UndoEntry) (status : LinkStatus)
    (edit : ClientEdit) : (s.above older).edit status edit = (s.edit status edit).above older := by
  cases edit with
  | remove pos =>
    simp only [UndoLink.edit, UndoLink.removeFromQueue, above_queue]
    cases s.queue.slots[pos]? with
    | none => rfl
    | some slot => simp only [ite_above, queueOp_above]
  | removeSlots slotIds =>
    simp only [UndoLink.edit, UndoLink.removeSlotsFromQueue, above_queue, ite_above, queueOp_above]
  | moveTo source target => exact moveQueueItemTo_above s older source target
  | moveUp source =>
    simp only [UndoLink.edit, UndoLink.moveQueueItemUp, ite_above, moveQueueItemTo_above]
  | moveDown source =>
    simp only [UndoLink.edit, UndoLink.moveQueueItemDown, above_queue, ite_above, moveQueueItemTo_above]

theorem run_above (s : UndoLink) (older : List UndoEntry) (edits : List (LinkStatus × ClientEdit)) :
    editMachine.run (s.above older) edits = (editMachine.run s edits).above older := by
  induction edits generalizing s with
  | nil => rfl
  | cons input edits ih =>
    rw [Machine.run_cons, Machine.run_cons]
    exact (congrArg (fun t => editMachine.run t edits) (edit_above s older input.1 input.2)).trans (ih _)

/-! ### Undoing -/

def UndoLink.undoTimes (ctx : ControlContext) : Nat → UndoLink → Option UndoLink
  | 0, s => some s
  | count + 1, s =>
    match s.undoStack with
    | [] => none
    | entry :: _ =>
      match (entry.reply ctx s.queue).rejection with
      | some _ => none
      | none => undoTimes ctx count (s.undoLastQueueEdit ctx)

theorem undoTimes_entries (ctx : ControlContext) (entries rest : List UndoEntry) (queue : PlaybackQueue) :
    UndoLink.undoTimes ctx entries.length ⟨queue, entries ++ rest⟩ =
      (undoEntries ctx entries queue).map fun queue' => ⟨queue', rest⟩ := by
  induction entries generalizing queue with
  | nil => rfl
  | cons entry entries ih =>
    simp only [length_cons, UndoLink.undoTimes, cons_append, undoEntries, UndoLink.undoLastQueueEdit]
    cases (entry.reply ctx queue).rejection with
    | some reason => rfl
    | none => exact ih _

/-- Whatever the link held to undo before, the undos of the edits made since, in which no edit
    removes a slot an earlier one moved, are all taken, and each number of them gives back the
    items from before the edits it undoes. -/
theorem undo_gives_back (ctx : ControlContext) (queue : PlaybackQueue) (older : List UndoEntry)
    (done later : List (LinkStatus × ClientEdit)) (valid : queue.WellFormed)
    (readmits : ∀ slot ∈ queue.slots, Readmits ctx slot.item)
    (keeps : editMachine.Along KeepsMovedSlots ⟨queue, []⟩ (done ++ later))
    (room : queue.nextSlotId.toNat +
      (editMachine.run ⟨queue, []⟩ (done ++ later)).undoStack.length ≤ u64Max) :
    ∃ count undone,
      (editMachine.run ⟨queue, older⟩ (done ++ later)).undoStack.length =
          count + (editMachine.run ⟨queue, older⟩ done).undoStack.length ∧
        UndoLink.undoTimes ctx count (editMachine.run ⟨queue, older⟩ (done ++ later)) =
          some undone ∧
        undone.undoStack = (editMachine.run ⟨queue, older⟩ done).undoStack ∧
        undone.queue.slots.map (·.item) =
          (editMachine.run ⟨queue, older⟩ done).queue.slots.map (·.item) := by
  have bottom : (⟨queue, older⟩ : UndoLink) = UndoLink.above ⟨queue, []⟩ older := rfl
  rw [bottom, run_above, run_above]
  obtain ⟨first, second⟩ := Machine.along_append.mp keeps
  obtain ⟨sound, before⟩ := run_leads ⟨valid, readmits⟩ done first
  obtain ⟨sound', entries, stack, reverts, next⟩ := run_leads sound later second
  rw [← Machine.run_append] at sound' stack reverts next
  obtain ⟨_, _, _, allocated⟩ := before
  generalize editMachine.run ⟨queue, []⟩ (done ++ later) = t at *
  generalize editMachine.run ⟨queue, []⟩ done = s at *
  have ids : t.queue.nextSlotId.toNat = queue.nextSlotId.toNat := by rw [next, allocated]
  rw [stack, length_append] at room
  obtain ⟨queue', undone, -, -, alike⟩ :=
    reverts t.queue sound'.valid (by omega) (.refl _ _)
  refine ⟨entries.length, ⟨queue', s.undoStack ++ older⟩, ?_, ?_, rfl, alike.items⟩
  · simp only [UndoLink.above, stack, length_append]
    omega
  · rw [UndoLink.above, stack, append_assoc, undoTimes_entries, undone]
    rfl

def threeStreams : PlaybackQueue :=
  PlaybackQueue.fromQueueItems [.twitch ⟨"a", "a"⟩, .twitch ⟨"b", "b"⟩, .twitch ⟨"c", "c"⟩] none 0

theorem readmits_stream {item : QueueItem} (stream : isTwitch item = true) :
    Readmits ⟨⟨false, false, true⟩, false, false, false, false⟩ item := by
  cases item with
  | twitch item => rfl
  | emby item | feed item | audiobookshelf item => cases stream

theorem threeStreams_streams : ∀ slot ∈ threeStreams.slots, isTwitch slot.item = true := by
  decide

def idleLink : LinkStatus := ⟨false, false, 0⟩

theorem undo_gives_back_streams :
    ∃ count undone,
      (editMachine.run ⟨threeStreams, []⟩
          [(idleLink, .remove 1), (idleLink, .moveTo 0 1)]).undoStack.length = count + 0 ∧
        UndoLink.undoTimes ⟨⟨false, false, true⟩, false, false, false, false⟩ count
          (editMachine.run ⟨threeStreams, []⟩
            [(idleLink, .remove 1), (idleLink, .moveTo 0 1)]) = some undone ∧
        undone.undoStack = [] ∧
        undone.queue.slots.map (·.item) = threeStreams.slots.map (·.item) :=
  undo_gives_back ⟨⟨false, false, true⟩, false, false, false, false⟩ threeStreams [] []
    [(idleLink, .remove 1), (idleLink, .moveTo 0 1)] ⟨by decide, by decide, by decide⟩
    (fun slot member => readmits_stream (threeStreams_streams slot member)) (by decide) (by decide)

/-- A slot moved and then removed is back under a new id, so its move is not undone; and a stream
    is not taken back from a client that never negotiated them. -/
theorem undo_not_taken :
    (editMachine.run ⟨threeStreams, []⟩
        [(idleLink, .moveTo 0 2), (idleLink, .remove 2)]).undoStack.length = 2 ∧
      UndoLink.undoTimes ⟨⟨false, false, true⟩, false, false, false, false⟩ 2
        (editMachine.run ⟨threeStreams, []⟩
          [(idleLink, .moveTo 0 2), (idleLink, .remove 2)]) = none ∧
      (editMachine.run ⟨threeStreams, []⟩ [(idleLink, .remove 2)]).undoStack.length = 1 ∧
      UndoLink.undoTimes {} 1 (editMachine.run ⟨threeStreams, []⟩ [(idleLink, .remove 2)]) =
        none := by
  decide

end Mbv.Client
