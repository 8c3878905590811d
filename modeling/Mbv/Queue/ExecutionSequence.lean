import Mathlib.Data.List.Nodup
import Mbv.Queue.PlaybackQueue

namespace Mbv.Queue

open List

/-- One entry of the execution sequence: an owner-assigned slot id and its item. -/
structure ExecSlot where
  slotId : QueueSlotId
  item : QueueItem
deriving DecidableEq

structure ExecutionSequence where
  slots : List ExecSlot := []
  activeSlotId : Option QueueSlotId := none
deriving DecidableEq

/-- The condition the source asserts of each incoming id: it repeats no `earlier` incoming one and no
    existing one. -/
def uniqueAfter (earlier existing : List QueueSlotId) : List (QueueSlotId × QueueItem) → Bool
  | [] => true
  | (slotId, _) :: incoming =>
    !earlier.contains slotId && !existing.contains slotId &&
      uniqueAfter (earlier ++ [slotId]) existing incoming

def uniqueSlotIds (incoming : List (QueueSlotId × QueueItem)) (existing : List QueueSlotId) :
    Bool :=
  uniqueAfter [] existing incoming

namespace ExecutionSequence

/-- `none` is the failed assertion. -/
def fromSlotItems (slots : List (QueueSlotId × QueueItem)) (activeSlotId : Option QueueSlotId) :
    Option ExecutionSequence :=
  if uniqueSlotIds slots [] then
    some
      { slots := slots.map fun slot => ⟨slot.1, slot.2⟩
        activeSlotId := activeSlotId.filter fun id => slots.any fun slot => slot.1 == id }
  else none

def slotIds (sequence : ExecutionSequence) : List QueueSlotId := sequence.slots.map (·.slotId)

def len (sequence : ExecutionSequence) : Nat := sequence.slots.length

def isEmpty (sequence : ExecutionSequence) : Bool := sequence.slots.isEmpty

def slot (sequence : ExecutionSequence) (slotId : QueueSlotId) : Option ExecSlot :=
  Keyed.get (·.slotId) slotId sequence.slots

def slotIndex (sequence : ExecutionSequence) (slotId : QueueSlotId) : Option Nat :=
  Keyed.indexOf (·.slotId) slotId sequence.slots

def activeSlot (sequence : ExecutionSequence) : Option ExecSlot :=
  sequence.activeSlotId.bind sequence.slot

def hasAudiobookshelfEntries (sequence : ExecutionSequence) : Bool :=
  sequence.slots.any fun slot => slot.item.isAudiobookshelf

/-- `none` is the failed assertion. -/
def appendWithId (sequence : ExecutionSequence) (slotId : QueueSlotId) (item : QueueItem) :
    Option ExecutionSequence :=
  if uniqueSlotIds [(slotId, item)] sequence.slotIds then
    some { sequence with slots := sequence.slots ++ [ExecSlot.mk slotId item] }
  else none

def setActiveSlot (sequence : ExecutionSequence) (slotId : QueueSlotId) :
    Bool × ExecutionSequence :=
  if (sequence.slotIndex slotId).isNone then (false, sequence)
  else (true, { sequence with activeSlotId := some slotId })

def moveSlot (sequence : ExecutionSequence) (slotId : QueueSlotId) (toIndex : Nat) :
    Bool × ExecutionSequence :=
  match sequence.slotIndex slotId with
  | none => (false, sequence)
  | some _ =>
    (true, { sequence with slots := Keyed.move (·.slotId) slotId toIndex sequence.slots })

def removeSlot (sequence : ExecutionSequence) (slotId : QueueSlotId) : ExecutionSequence :=
  if sequence.activeSlotId = some slotId then sequence
  else
    match sequence.slotIndex slotId with
    | none => sequence
    | some index => { sequence with slots := sequence.slots.eraseIdx index }

def removeActiveSlotConfirmed (sequence : ExecutionSequence) (slotId : QueueSlotId) :
    ExecutionSequence :=
  match sequence.slotIndex slotId with
  | none => sequence
  | some index =>
    { slots := sequence.slots.eraseIdx index
      activeSlotId :=
        if sequence.activeSlotId = some slotId then none else sequence.activeSlotId }

def clear (_sequence : ExecutionSequence) : ExecutionSequence := {}

end ExecutionSequence

theorem uniqueAfter_iff {earlier existing : List QueueSlotId} {incoming : List (QueueSlotId × QueueItem)} :
    uniqueAfter earlier existing incoming = true ↔ (incoming.map (·.1)).Nodup ∧
        ∀ id ∈ incoming.map (·.1), id ∉ earlier ∧ id ∉ existing := by
  induction incoming generalizing earlier with
  | nil => simp [uniqueAfter]
  | cons slot incoming ih =>
    obtain ⟨slotId, item⟩ := slot
    simp only [uniqueAfter, Bool.and_eq_true, Bool.not_eq_true', contains_eq_mem,
      decide_eq_false_iff_not, ih, mem_append, mem_cons, not_mem_nil, or_false,
      not_or, map_cons, nodup_cons, forall_eq_or_imp]
    constructor
    · rintro ⟨first, distinct, later⟩
      exact ⟨⟨fun repeated => (later slotId repeated).1.2 rfl, distinct⟩, first,
        fun id member => ⟨(later id member).1.1, (later id member).2⟩⟩
    · rintro ⟨⟨absent, distinct⟩, first, later⟩
      refine ⟨first, distinct, fun id member => ⟨⟨(later id member).1, ?_⟩, (later id member).2⟩⟩
      rintro rfl
      exact absent member

theorem uniqueSlotIds_iff {incoming : List (QueueSlotId × QueueItem)} {existing : List QueueSlotId} :
    uniqueSlotIds incoming existing = true ↔ (incoming.map (·.1)).Nodup ∧ ∀ id ∈ incoming.map (·.1), id ∉ existing := by
  simp [uniqueSlotIds, uniqueAfter_iff]

namespace ExecutionSequence

variable {sequence : ExecutionSequence}

structure WellFormed (sequence : ExecutionSequence) : Prop where
  distinct : sequence.slotIds.Nodup
  active : ∀ id, sequence.activeSlotId = some id → id ∈ sequence.slotIds

variable {slotId : QueueSlotId}

theorem slotIndex_none : sequence.slotIndex slotId = none ↔ slotId ∉ sequence.slotIds := Keyed.indexOf_none

theorem slotIndex_some {index : Nat} (found : sequence.slotIndex slotId = some index) :
    slotId ∈ sequence.slotIds ∧ index < sequence.len :=
  ⟨(Keyed.indexOf_some found).1, Keyed.indexOf_lt found⟩

theorem slotIndex_of_mem (member : slotId ∈ sequence.slotIds) :
    sequence.slotIndex slotId = some (sequence.slotIds.idxOf slotId) :=
  Keyed.indexOf_of_mem member

theorem slotIds_length : sequence.slotIds.length = sequence.len := by
  simp [slotIds, len]

theorem fromSlotItems_isSome {slots : List (QueueSlotId × QueueItem)} {activeSlotId : Option QueueSlotId} :
    (fromSlotItems slots activeSlotId).isSome ↔ (slots.map (·.1)).Nodup := by
  unfold fromSlotItems
  split
  · rename_i unique
    simpa using (uniqueSlotIds_iff.mp unique).1
  · rename_i repeated
    rw [uniqueSlotIds_iff] at repeated
    simpa using repeated

theorem fromSlotItems_spec {slots : List (QueueSlotId × QueueItem)} {activeSlotId : Option QueueSlotId}
    (built : fromSlotItems slots activeSlotId = some sequence) :
    sequence.WellFormed ∧ sequence.slotIds = slots.map (·.1) := by
  have distinct := fromSlotItems_isSome.mp (Option.isSome_of_mem built)
  unfold fromSlotItems at built
  split at built
  · cases built
    have ids : slotIds ⟨slots.map fun slot => ⟨slot.1, slot.2⟩,
        activeSlotId.filter fun id => slots.any fun slot => slot.1 == id⟩ = slots.map (·.1) := by
      simp [slotIds]
    refine ⟨⟨by rw [ids]; exact distinct, fun id marker => ?_⟩, ids⟩
    have kept := (Option.filter_eq_some_iff.mp marker).2
    rw [ids]
    simpa using kept
  · cases built

theorem appendWithId_isSome {item : QueueItem} : (sequence.appendWithId slotId item).isSome ↔ slotId ∉ sequence.slotIds := by
  unfold appendWithId
  split
  · rename_i unique
    simpa using (uniqueSlotIds_iff.mp unique).2
  · rename_i repeated
    rw [uniqueSlotIds_iff] at repeated
    simpa using repeated

theorem appendWithId_spec {next : ExecutionSequence} {item : QueueItem}
    (appended : sequence.appendWithId slotId item = some next) :
    next.slotIds = sequence.slotIds ++ [slotId] ∧ next.activeSlotId = sequence.activeSlotId := by
  unfold appendWithId at appended
  split at appended
  · cases appended
    simp [slotIds]
  · cases appended

theorem setActiveSlot_slotIds (slotId : QueueSlotId) : (sequence.setActiveSlot slotId).2.slotIds = sequence.slotIds := by
  unfold setActiveSlot
  split <;> rfl

theorem setActiveSlot_of_mem (member : slotId ∈ sequence.slotIds) :
    sequence.setActiveSlot slotId = (true, { sequence with activeSlotId := some slotId }) := by
  simp [setActiveSlot, slotIndex_of_mem member]

theorem setActiveSlot_of_notMem (absent : slotId ∉ sequence.slotIds) : sequence.setActiveSlot slotId = (false, sequence) := by
  simp [setActiveSlot, slotIndex_none.mpr absent]

theorem moveSlot_slotIds (slotId : QueueSlotId) (toIndex : Nat) :
    (sequence.moveSlot slotId toIndex).2.slotIds = sequence.slotIds.moveTo slotId toIndex := by
  unfold moveSlot
  cases found : sequence.slotIndex slotId with
  | none => exact (moveTo_of_notMem (slotIndex_none.mp found) toIndex).symm
  | some _ => exact Keyed.keys_move slotId toIndex sequence.slots

theorem moveSlot_active (slotId : QueueSlotId) (toIndex : Nat) :
    (sequence.moveSlot slotId toIndex).2.activeSlotId = sequence.activeSlotId := by
  unfold moveSlot
  cases sequence.slotIndex slotId <;> rfl

theorem removeSlot_slotIds (slotId : QueueSlotId) : (sequence.removeSlot slotId).slotIds =
      if sequence.activeSlotId = some slotId then sequence.slotIds
      else sequence.slotIds.erase slotId := by
  unfold removeSlot
  split
  · rfl
  · cases found : sequence.slotIndex slotId with
    | none => exact (erase_of_not_mem (slotIndex_none.mp found)).symm
    | some index => exact Keyed.keys_eraseIdx found

theorem removeSlot_active (slotId : QueueSlotId) : (sequence.removeSlot slotId).activeSlotId = sequence.activeSlotId := by
  unfold removeSlot
  split
  · rfl
  · cases sequence.slotIndex slotId <;> rfl

theorem removeActiveSlotConfirmed_slotIds (slotId : QueueSlotId) :
    (sequence.removeActiveSlotConfirmed slotId).slotIds = sequence.slotIds.erase slotId := by
  unfold removeActiveSlotConfirmed
  cases found : sequence.slotIndex slotId with
  | none => exact (erase_of_not_mem (slotIndex_none.mp found)).symm
  | some index => exact Keyed.keys_eraseIdx found

theorem removeActiveSlotConfirmed_active (member : slotId ∈ sequence.slotIds) :
    (sequence.removeActiveSlotConfirmed slotId).activeSlotId =
      if sequence.activeSlotId = some slotId then none else sequence.activeSlotId := by
  simp [removeActiveSlotConfirmed, slotIndex_of_mem member]

theorem wellFormed_clear (sequence : ExecutionSequence) : sequence.clear.WellFormed :=
  ⟨nodup_nil, fun _ marker => nomatch marker⟩

theorem WellFormed.setActiveSlot (wellFormed : sequence.WellFormed) (slotId : QueueSlotId) :
    (sequence.setActiveSlot slotId).2.WellFormed := by
  by_cases member : slotId ∈ sequence.slotIds
  · rw [setActiveSlot_of_mem member]
    refine ⟨wellFormed.distinct, fun id marker => ?_⟩
    cases marker
    exact member
  · rw [setActiveSlot_of_notMem member]
    exact wellFormed

theorem WellFormed.moveSlot (wellFormed : sequence.WellFormed) (slotId : QueueSlotId)
    (toIndex : Nat) : (sequence.moveSlot slotId toIndex).2.WellFormed := by
  refine ⟨?_, fun id marker => ?_⟩
  · rw [moveSlot_slotIds]
    exact wellFormed.distinct.moveTo slotId toIndex
  · rw [moveSlot_active] at marker
    rw [moveSlot_slotIds, mem_moveTo]
    exact wellFormed.active id marker

theorem WellFormed.removeSlot (wellFormed : sequence.WellFormed) (slotId : QueueSlotId) :
    (sequence.removeSlot slotId).WellFormed := by
  refine ⟨?_, fun id marker => ?_⟩
  · rw [removeSlot_slotIds]
    split
    · exact wellFormed.distinct
    · exact wellFormed.distinct.erase slotId
  · rw [removeSlot_active] at marker
    rw [removeSlot_slotIds, marker]
    split
    · exact wellFormed.active id marker
    · rename_i other
      have apart : id ≠ slotId := fun same => other (congrArg some same)
      exact (mem_erase_of_ne apart).mpr (wellFormed.active id marker)

theorem WellFormed.removeActiveSlotConfirmed (wellFormed : sequence.WellFormed)
    (slotId : QueueSlotId) : (sequence.removeActiveSlotConfirmed slotId).WellFormed := by
  by_cases member : slotId ∈ sequence.slotIds
  · refine ⟨?_, fun id marker => ?_⟩
    · rw [removeActiveSlotConfirmed_slotIds]
      exact wellFormed.distinct.erase slotId
    · rw [removeActiveSlotConfirmed_active member] at marker
      rw [removeActiveSlotConfirmed_slotIds]
      split at marker
      · cases marker
      · rename_i other
        have apart : id ≠ slotId := fun same => other (same ▸ marker)
        exact (mem_erase_of_ne apart).mpr (wellFormed.active id marker)
  · have unchanged : sequence.removeActiveSlotConfirmed slotId = sequence := by
      simp [ExecutionSequence.removeActiveSlotConfirmed, slotIndex_none.mpr member]
    rw [unchanged]
    exact wellFormed

theorem WellFormed.appendWithId (wellFormed : sequence.WellFormed) {item : QueueItem}
    {next : ExecutionSequence} (appended : sequence.appendWithId slotId item = some next) :
    next.WellFormed := by
  have fresh := appendWithId_isSome.mp (Option.isSome_of_mem appended)
  obtain ⟨ids, active⟩ := appendWithId_spec appended
  refine ⟨?_, fun id marker => ?_⟩
  · rw [ids, ← concat_eq_append]
    exact wellFormed.distinct.concat fresh
  · rw [ids]
    exact mem_append_left _ (wellFormed.active id (active ▸ marker))

end ExecutionSequence

end Mbv.Queue
