import Mbv.Daemon.QueueEdit
import Mbv.Player.RelativeSteps
import Mbv.Output.SessionOwner

namespace Mbv.Queue.PlaybackQueue

open List

variable {queue changed : PlaybackQueue} {front rest : List QueueSlot} {slot : QueueSlot}

structure Stands (queue : PlaybackQueue) (front : List QueueSlot) (slot : QueueSlot)
    (rest : List QueueSlot) : Prop where
  slots : queue.slots = front ++ slot :: rest
  distinct : queue.slotIds.Nodup

variable {slotId : QueueSlotId}

theorem exists_stands (distinct : queue.slotIds.Nodup) (held : slotId ∈ queue.slotIds) :
    ∃ front slot rest, slot.slotId = slotId ∧ queue.Stands front slot rest := by
  obtain ⟨slot, member, rfl⟩ := mem_map.mp held
  obtain ⟨front, rest, slots⟩ := append_of_mem member
  exact ⟨front, slot, rest, rfl, slots, distinct⟩

namespace Stands

variable (stands : queue.Stands front slot rest)
include stands

theorem of_slots (same : changed.slots = queue.slots) : changed.Stands front slot rest where
  slots := same.trans stands.slots
  distinct := by
    unfold slotIds
    rw [same]
    exact stands.distinct

theorem ids : (front.map (·.slotId) ++ slot.slotId :: rest.map (·.slotId)).Nodup := by
  have distinct := stands.distinct
  rw [slotIds, stands.slots, map_append, map_cons] at distinct
  exact distinct

theorem fresh : ∀ before ∈ front, before.slotId ≠ slot.slotId := by
  intro before member same
  exact disjoint_of_nodup_append stands.ids (mem_map_of_mem member) (by simp [same])

theorem index : queue.slotIndex slot.slotId = some front.length := by
  apply Keyed.indexOf_of_key_at stands.distinct
  simp [stands.slots]

theorem held : queue.slot slot.slotId = some slot := by
  unfold PlaybackQueue.slot
  have found : Keyed.indexOf (·.slotId) slot.slotId queue.slots = some front.length := stands.index
  rw [Keyed.get_eq_getElem?, found, Option.bind_some, stands.slots]
  simp

theorem after : Output.slotsAfter queue slot.slotId = rest := by
  unfold Output.slotsAfter
  rw [stands.index, stands.slots]
  simp

theorem mem : slot.slotId ∈ queue.slotIds := slotIndex_some stands.index

end Stands

variable {following : QueueSlot}

theorem Stands.next (stands : queue.Stands front slot (following :: rest)) : queue.Stands (front ++ [slot]) following rest :=
  ⟨by simp [stands.slots], stands.distinct⟩

theorem Stands.without (stands : queue.Stands front slot rest) (other : slot.slotId ≠ slotId)
    (slots : changed.slots = queue.slots.filter (·.slotId ≠ slotId)) :
    changed.Stands (front.filter (·.slotId ≠ slotId)) slot (rest.filter (·.slotId ≠ slotId)) where
  slots := by
    rw [slots, stands.slots, filter_append, filter_cons_of_pos (by simpa using other)]
  distinct := by
    unfold slotIds
    rw [slots]
    exact stands.distinct.sublist (filter_sublist.map _)

theorem eraseIdx_slots (distinct : queue.slotIds.Nodup) {index : Nat} (found : queue.slotIndex slotId = some index) :
    queue.slots.eraseIdx index = queue.slots.filter (·.slotId ≠ slotId) := by
  obtain ⟨front, slot, rest, rfl, stands⟩ := exists_stands distinct (slotIndex_some found)
  have place : index = front.length := Option.some.inj (found.symm.trans stands.index)
  have ids := stands.ids
  have before : front.filter (·.slotId ≠ slot.slotId) = front :=
    filter_eq_self.mpr fun entry member => by simpa using stands.fresh entry member
  have after : rest.filter (·.slotId ≠ slot.slotId) = rest := filter_eq_self.mpr fun entry member => by
      have apart := (nodup_cons.mp (List.Nodup.of_append_right ids)).1
      have other : entry.slotId ≠ slot.slotId := fun same =>
        apart (same ▸ mem_map_of_mem member)
      simpa using other
  rw [place, stands.slots, filter_append, filter_cons_of_neg (by simp), before, after, eraseIdx_append_of_length_le (by omega)]
  simp

theorem removeHeldSlot_slots (distinct : queue.slotIds.Nodup) (slotId : QueueSlotId) :
    (Daemon.removeHeldSlot queue slotId).slots = queue.slots.filter (·.slotId ≠ slotId) := by
  have absent (none_ : queue.slotIndex slotId = none) : queue.slots = queue.slots.filter (·.slotId ≠ slotId) := by
    symm
    apply filter_eq_self.mpr
    intro entry member
    have other : entry.slotId ≠ slotId := fun same =>
      slotIndex_none none_ (same ▸ mem_map_of_mem member)
    simpa using other
  unfold Daemon.removeHeldSlot removeActiveSlotConfirmed removeSlot removeExistingSlot
  cases found : queue.slotIndex slotId with
  | none => split <;> exact absent found
  | some index =>
    have erased := eraseIdx_slots distinct found
    split
    · exact erased
    · exact erased

theorem Stands.rewritten (stands : queue.Stands front slot rest)
    (rewrite : QueueItem → QueueItem) : (queue.rewriteItem slot.slotId rewrite).2.Stands front
      { slot with item := rewrite slot.item } rest := by
  have there : queue.slots[front.length]? = some slot := by simp [stands.slots]
  have slots : (queue.rewriteItem slot.slotId rewrite).2.slots =
      queue.slots.set front.length { slot with item := rewrite slot.item } := by
    unfold rewriteItem
    simp only [stands.index, there]
    split <;> rfl
  constructor
  · rw [slots, stands.slots]
    simp
  · rw [(rewriteItem_frame slot.slotId rewrite).1]
    exact stands.distinct

theorem Stands.consumed (stands : queue.Stands front slot (following :: rest)) :
    (queue.consumeSlot slot.slotId).2.Stands front following rest := by
  have ids := stands.next.ids
  have slots : (queue.consumeSlot slot.slotId).2.slots = queue.slots.eraseIdx front.length := by
    unfold consumeSlot removeExistingSlot
    rw [stands.index]
    rfl
  constructor
  · rw [slots, stands.slots, eraseIdx_append_of_length_le le_rfl]
    simp
  · unfold slotIds
    rw [slots]
    exact stands.distinct.sublist ((eraseIdx_sublist _ _).map _)

theorem Stands.recorded (stands : queue.Stands front slot (following :: rest))
    {completed : Daemon.TrackCompleted} (policy : Daemon.ConsumePolicy)
    (same : completed.slotId = slot.slotId) :
    ∃ front, (Daemon.recordCompletedSlot queue completed policy).Stands front following rest := by
  unfold Daemon.recordCompletedSlot Daemon.consumeCompletedSlot
  rw [same, stands.held]
  have progressed := stands.rewritten fun item => applyProgressToQueueItem item
    ((ProgressObservation.completed completed.positionTicks completed.wasPlayed).positionToRecord slot.item)
    (ProgressObservation.completed completed.positionTicks completed.wasPlayed).played
  have held := progressed.held
  unfold applyProgress
  dsimp only at held ⊢
  rw [held]
  dsimp only
  split
  · exact ⟨front, progressed.consumed⟩
  · exact ⟨_, progressed.next⟩

theorem exists_stands_before (distinct : queue.slotIds.Nodup)
    (line : Output.slotsAfter queue slotId = rest) (some_ : rest ≠ []) :
    ∃ front ended, ended.slotId = slotId ∧ queue.Stands front ended rest := by
  have held : slotId ∈ queue.slotIds := by
    by_contra absent
    have none_ : queue.slotIndex slotId = none := Keyed.indexOf_none.mpr absent
    exact some_ (by simp [← line, Output.slotsAfter, none_])
  obtain ⟨front, ended, after, same, stands⟩ := exists_stands distinct held
  obtain rfl : after = rest := by
    rw [← stands.after, same]
    exact line
  exact ⟨front, ended, same, stands⟩

theorem recorded_after (distinct : queue.slotIds.Nodup) {completed : Daemon.TrackCompleted} (policy : Daemon.ConsumePolicy)
    (line : Output.slotsAfter queue completed.slotId = slot :: rest) :
    ∃ front, (Daemon.recordCompletedSlot queue completed policy).Stands front slot rest := by
  obtain ⟨front, ended, same, stands⟩ := exists_stands_before distinct line (cons_ne_nil _ _)
  exact stands.recorded policy same.symm

theorem line_length {line : List QueueSlot}
    (standing : ∀ slot rest, line = slot :: rest → ∃ front, queue.Stands front slot rest) :
    line.length ≤ queue.len := by
  cases line with
  | nil => exact Nat.zero_le _
  | cons slot rest =>
    obtain ⟨front, stands⟩ := standing slot rest rfl
    rw [len, stands.slots, length_append]
    omega

theorem Stands.same_after {front' : List QueueSlot} (stands : queue.Stands front slot rest)
    (other : changed.Stands front' slot rest) (member : following ∈ slot :: rest) :
    Output.slotsAfter changed following.slotId = Output.slotsAfter queue following.slotId := by
  induction rest generalizing front front' slot with
  | nil =>
    obtain rfl := mem_singleton.mp member
    rw [stands.after, other.after]
  | cons later rest ih =>
    rcases mem_cons.mp member with rfl | member
    · rw [stands.after, other.after]
    · exact ih stands.next other.next member

theorem recorded_slotIds (completed : Daemon.TrackCompleted) (policy : Daemon.ConsumePolicy) :
    (Daemon.recordCompletedSlot queue completed policy).slotIds = queue.slotIds ∨
      (Daemon.recordCompletedSlot queue completed policy).slotIds = queue.slotIds.erase completed.slotId := by
  have consumed (recorded : PlaybackQueue) (same : recorded.slotIds = queue.slotIds) :
      (Daemon.consumeCompletedSlot recorded completed.slotId completed.consume policy).slotIds = queue.slotIds ∨
        (Daemon.consumeCompletedSlot recorded completed.slotId completed.consume policy).slotIds =
          queue.slotIds.erase completed.slotId := by
    unfold Daemon.consumeCompletedSlot
    split
    · exact .inl same
    · split
      · exact .inr (same ▸ Daemon.removeExistingSlot_slotIds completed.slotId)
      · exact .inl same
  unfold Daemon.recordCompletedSlot
  dsimp only
  split
  · exact consumed queue rfl
  · exact consumed _ (rewriteItem_frame completed.slotId _).1

theorem recorded_len (completed : Daemon.TrackCompleted) (policy : Daemon.ConsumePolicy) :
    queue.len ≤ (Daemon.recordCompletedSlot queue completed policy).len + 1 := by
  have len (held : PlaybackQueue) : held.len = held.slotIds.length := (List.length_map ..).symm
  have erased := le_length_erase (l := queue.slotIds) (a := completed.slotId)
  rw [len, len]
  rcases @recorded_slotIds queue completed policy with same | same <;> rw [same] <;> omega

end Mbv.Queue.PlaybackQueue

namespace Mbv.Player

open Mbv.Queue

def StepTarget.onto : List QueueSlot → StepTarget
  | [] => .atEdge
  | slot :: _ => .jump slot.slotId

namespace PlayerOwnerState

theorem relativeStepTarget_observed {core : PlayerOwnerState} {slotId : QueueSlotId}
    (settled : core.latestTransition = none) (observed : core.observedActiveSlot = some slotId) :
    core.relativeStepTarget .next = .onto (Output.slotsAfter core.queue slotId) := by
  have base : core.stepBase = some slotId := by simp [stepBase, settled, observed]
  unfold relativeStepTarget Output.slotsAfter
  rw [settled, base]
  simp only [Option.any_none, Bool.false_eq_true, if_false, Option.bind_some]
  cases found : core.queue.slotIndex slotId with
  | none => rfl
  | some index =>
    have head : core.queue.slots[index + 1]? = (core.queue.slots.drop (index + 1)).head? := by
      rw [List.head?_drop]
    dsimp only
    rw [head]
    cases core.queue.slots.drop (index + 1) <;> rfl

theorem jump_len {core : PlayerOwnerState} {slotId : QueueSlotId}
    (jumps : core.relativeStepTarget .next = .jump slotId) : 2 ≤ core.queue.len := by
  rw [relativeStepTarget_neighbor] at jumps
  split at jumps
  · cases jumps
  · cases beside : core.neighbor .next with
    | none => rw [beside] at jumps; cases jumps
    | some other =>
      obtain ⟨base, -, index, -, place, next, there⟩ := neighbor_eq_some.mp beside
      have inside := (List.getElem?_eq_some_iff.mp there).1
      rw [PlaybackQueue.slotIds, List.length_map] at inside
      have later : place = index + 1 := Direction.beside_iff.mp next
      unfold PlaybackQueue.len
      omega

end PlayerOwnerState

end Mbv.Player
