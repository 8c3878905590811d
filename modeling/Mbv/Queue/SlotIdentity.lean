import Mathlib.Data.List.Nodup
import Mbv.Machine.Run
import Mbv.Queue.PlaybackQueue

namespace Mbv.Queue

open List

namespace PlaybackQueue

variable (queue : PlaybackQueue)

@[simp] theorem bump_slots : queue.bump.slots = queue.slots := rfl
@[simp] theorem bump_slotIds : queue.bump.slotIds = queue.slotIds := rfl
@[simp] theorem bump_active : queue.bump.activeSlotId = queue.activeSlotId := rfl
@[simp] theorem bump_next : queue.bump.nextSlotId = queue.nextSlotId := rfl
@[simp] theorem bump_slotIndex (slotId : QueueSlotId) : queue.bump.slotIndex slotId = queue.slotIndex slotId := rfl

variable {queue}

variable {slotId : QueueSlotId}

theorem slotIndex_isNone : (queue.slotIndex slotId).isNone = true ↔ slotId ∉ queue.slotIds := by
  rw [Option.isNone_iff_eq_none]
  exact Keyed.indexOf_none

theorem slotIndex_none (absent : queue.slotIndex slotId = none) : slotId ∉ queue.slotIds := Keyed.indexOf_none.mp absent

variable {index : Nat}

theorem slotIndex_some (found : queue.slotIndex slotId = some index) : slotId ∈ queue.slotIds := (Keyed.indexOf_some found).1

/-- The three facts every mutation restores: ids are distinct, the active marker names a slot, and
    the allocator is ahead of every id. -/
structure WellFormed (queue : PlaybackQueue) : Prop where
  distinct : queue.slotIds.Nodup
  active : ∀ id, queue.activeSlotId = some id → id ∈ queue.slotIds
  ahead : ∀ id ∈ queue.slotIds, id.raw < queue.nextSlotId

theorem WellFormed.restrict {next : PlaybackQueue} (valid : queue.WellFormed) (ids : next.slotIds.Subperm queue.slotIds)
    (active : ∀ id, next.activeSlotId = some id → id ∈ next.slotIds)
    (allocator : next.nextSlotId = queue.nextSlotId) : next.WellFormed where
  distinct := by
    obtain ⟨ids', perm, sub⟩ := ids
    exact perm.nodup_iff.mp (valid.distinct.sublist sub)
  active := active
  ahead := fun id member => by
    rw [allocator]
    exact valid.ahead id (ids.subset member)

theorem WellFormed.bump (valid : queue.WellFormed) : queue.bump.WellFormed := ⟨valid.distinct, valid.active, valid.ahead⟩

theorem WellFormed.withoutActive (valid : queue.WellFormed) : ({ queue with activeSlotId := none } : PlaybackQueue).WellFormed :=
  ⟨valid.distinct, fun _ h => by simp at h, valid.ahead⟩

theorem dropDeadActive_wellFormed (distinct : queue.slotIds.Nodup) (ahead : ∀ id ∈ queue.slotIds, id.raw < queue.nextSlotId) :
    queue.dropDeadActive.WellFormed := by
  unfold dropDeadActive
  cases marker : queue.activeSlotId with
  | none => exact ⟨distinct, fun id h => by simp [marker] at h, ahead⟩
  | some active =>
    dsimp only
    split
    · exact ⟨distinct, fun id h => by simp at h, ahead⟩
    · rename_i live
      rw [slotIndex_isNone, not_not] at live
      refine ⟨distinct, fun id h => ?_, ahead⟩
      rw [marker] at h
      cases h
      exact live

theorem WellFormed.clearActiveSlot (valid : queue.WellFormed) :
    queue.clearActiveSlot.WellFormed := by
  unfold PlaybackQueue.clearActiveSlot
  split
  · exact valid.withoutActive.bump
  · exact valid

theorem WellFormed.clear (valid : queue.WellFormed) : queue.clear.WellFormed := by
  unfold PlaybackQueue.clear
  split
  · exact valid
  · exact WellFormed.bump ⟨nodup_nil, fun _ h => by simp at h, fun _ h => by simp [slotIds] at h⟩

theorem WellFormed.truncateSlots (valid : queue.WellFormed) (len : Nat) : (queue.truncateSlots len).WellFormed := by
  unfold PlaybackQueue.truncateSlots
  split
  · exact valid
  · have ids : ({ queue with slots := queue.slots.take len } : PlaybackQueue).bump.slotIds =
        queue.slotIds.take len := by simp [slotIds, PlaybackQueue.bump, map_take]
    apply dropDeadActive_wellFormed
    · rw [ids]
      exact valid.distinct.sublist (take_sublist _ _)
    · intro id member
      rw [ids] at member
      exact valid.ahead id (mem_of_mem_take member)

theorem WellFormed.setActiveSlot (valid : queue.WellFormed) (slotId : QueueSlotId) :
    (queue.setActiveSlot slotId).2.WellFormed := by
  unfold PlaybackQueue.setActiveSlot
  split
  · exact valid
  · rename_i live
    rw [slotIndex_isNone, not_not] at live
    split
    · refine WellFormed.bump ⟨valid.distinct, fun id h => ?_, valid.ahead⟩
      cases h
      exact live
    · exact valid

theorem slotIds_eraseIdx (found : queue.slotIndex slotId = some index) :
    (queue.slots.eraseIdx index).map (·.slotId) = queue.slotIds.erase slotId :=
  Keyed.keys_eraseIdx found

theorem removed_wellFormed (valid : queue.WellFormed) (found : queue.slotIndex slotId = some index) {active : Option QueueSlotId}
    (live : ∀ id, active = some id → id ∈ queue.slotIds.erase slotId) :
    ({ queue with slots := queue.slots.eraseIdx index, activeSlotId := active } : PlaybackQueue).bump.WellFormed := by
  have ids : ({ queue with slots := queue.slots.eraseIdx index, activeSlotId := active } :
      PlaybackQueue).bump.slotIds = queue.slotIds.erase slotId := slotIds_eraseIdx found
  refine valid.restrict ?_ (fun id h => ?_) rfl
  · rw [ids]; exact erase_sublist.subperm
  · rw [ids]; exact live id h

theorem WellFormed.kept_active (valid : queue.WellFormed) (other : queue.activeSlotId ≠ some slotId)
    (id : QueueSlotId) (marker : queue.activeSlotId = some id) :
    id ∈ queue.slotIds.erase slotId := by
  refine (mem_erase_of_ne ?_).mpr (valid.active id marker)
  rintro rfl
  exact other marker

theorem WellFormed.removeExistingSlot (valid : queue.WellFormed) (slotId : QueueSlotId) :
    (queue.removeExistingSlot slotId).2.WellFormed := by
  unfold PlaybackQueue.removeExistingSlot
  cases found : queue.slotIndex slotId with
  | none => exact valid
  | some index =>
    refine removed_wellFormed valid found fun id marker => ?_
    split at marker
    · -- The active slot went: its successor, else the last slot, is the marker.
      rw [← slotIds_eraseIdx found]
      obtain ⟨slot, place, rfl⟩ := Option.map_eq_some_iff.mp marker
      refine mem_map_of_mem ?_
      rcases Option.or_eq_some_iff.mp place with successor | ⟨-, last⟩
      · exact mem_of_getElem? successor
      · exact mem_of_getLast? last
    · rename_i other
      exact valid.kept_active other id marker

theorem WellFormed.removeSlot (valid : queue.WellFormed) (slotId : QueueSlotId) : (queue.removeSlot slotId).2.WellFormed := by
  unfold PlaybackQueue.removeSlot
  split
  · exact valid
  · exact valid.removeExistingSlot slotId

theorem WellFormed.removeActiveSlotConfirmed (valid : queue.WellFormed) (slotId : QueueSlotId) :
    (queue.removeActiveSlotConfirmed slotId).2.WellFormed := by
  unfold PlaybackQueue.removeActiveSlotConfirmed
  cases found : queue.slotIndex slotId with
  | none => exact valid
  | some index =>
    refine removed_wellFormed valid found fun id marker => ?_
    split at marker
    · exact absurd marker (by simp)
    · rename_i other
      exact valid.kept_active other id marker

theorem takeInOrder_slotIds (order : List QueueSlotId) (slots : List QueueSlot)
    (distinct : (slots.map (·.slotId)).Nodup) (perm : (slots.map (·.slotId)).Perm order) :
    (takeInOrder slots order).map (·.slotId) = order := by
  induction order generalizing slots with
  | nil => rfl
  | cons slotId order ih =>
    have member : slotId ∈ slots.reverse.map (·.slotId) := by
      rw [map_reverse, mem_reverse, perm.mem_iff]
      exact mem_cons_self
    obtain ⟨slot, found⟩ := Option.isSome_iff_exists.mp (Keyed.get_isSome.mpr member)
    have rest : (slots.filter (·.slotId ≠ slotId)).map (·.slotId) = (slots.map (·.slotId)).erase slotId := by
      rw [distinct.erase_eq_filter, filter_map]
      refine congrArg _ (filter_congr fun slot _ => ?_)
      by_cases same : slot.slotId = slotId <;> simp [same]
    simp only [takeInOrder, found, map_cons, (Keyed.get_key found).1, List.cons.injEq, true_and]
    apply ih
    · rw [rest]; exact distinct.erase slotId
    · rw [rest]; simpa using perm.erase slotId

theorem takeInOrder_subset (slots : List QueueSlot) (order : List QueueSlotId) : takeInOrder slots order ⊆ slots := by
  induction order generalizing slots with
  | nil => exact nil_subset slots
  | cons slotId order ih =>
    unfold takeInOrder
    split
    · rename_i slot found
      have member := (Keyed.get_key found).2
      rw [mem_reverse] at member
      refine cons_subset.mpr ⟨member, ?_⟩
      exact fun other later => mem_of_mem_filter (ih _ later)
    · exact ih slots

theorem takeInOrder_nodup (slots : List QueueSlot) (order : List QueueSlotId) :
    ((takeInOrder slots order).map (·.slotId)).Nodup := by
  induction order generalizing slots with
  | nil => exact nodup_nil
  | cons slotId order ih =>
    unfold takeInOrder
    split
    · rename_i slot found
      rw [map_cons, (Keyed.get_key found).1]
      refine nodup_cons.mpr ⟨fun again => ?_, ih _⟩
      obtain ⟨other, later, same⟩ := mem_map.mp again
      have left := of_mem_filter (takeInOrder_subset _ _ later)
      simp [same] at left
    · exact ih slots

theorem takeInOrder_perm {slots : List QueueSlot} {order : List QueueSlotId}
    (distinct : (slots.map (·.slotId)).Nodup) (perm : (slots.map (·.slotId)).Perm order) :
    (takeInOrder slots order).Perm slots := by
  have ids := takeInOrder_slotIds order slots distinct perm
  have taken : (takeInOrder slots order).Nodup := List.Nodup.of_map _ (takeInOrder_nodup slots order)
  apply (subperm_of_subset taken (takeInOrder_subset slots order)).perm_of_length_le
  have length := congrArg List.length ids
  have count := perm.length_eq
  simp only [length_map] at length count
  omega

theorem isSlotPermutation_iff {current order : List QueueSlotId} :
    isSlotPermutation current order = true ↔ current.Perm order := by
  unfold isSlotPermutation
  split
  · rename_i lengths
    simp only [Bool.false_eq_true, false_iff]
    exact fun perm => lengths perm.length_eq
  · exact isPerm_iff

theorem reorderSlots_slotIds (distinct : queue.slotIds.Nodup) (order : List QueueSlotId) :
    (queue.reorderSlots order).2.slotIds = if queue.slotIds.Perm order then order else queue.slotIds := by
  unfold reorderSlots
  split
  · rename_i same
    rw [if_pos (same ▸ List.Perm.refl _)]
    exact same
  · split
    · rename_i foreign
      rw [Bool.not_eq_true', ← Bool.not_eq_true, isSlotPermutation_iff] at foreign
      rw [if_neg foreign]
    · rename_i named
      rw [Bool.not_eq_true', Bool.not_eq_false, isSlotPermutation_iff] at named
      rw [if_pos named]
      exact takeInOrder_slotIds order queue.slots distinct named

@[simp] theorem reorderSlots_active (order : List QueueSlotId) :
    (queue.reorderSlots order).2.activeSlotId = queue.activeSlotId := by
  unfold reorderSlots
  repeat' split
  all_goals rfl

@[simp] theorem reorderSlots_next (order : List QueueSlotId) : (queue.reorderSlots order).2.nextSlotId = queue.nextSlotId := by
  unfold reorderSlots
  repeat' split
  all_goals rfl

theorem WellFormed.of_perm {next : PlaybackQueue} (valid : queue.WellFormed)
    (perm : next.slotIds.Perm queue.slotIds) (active : next.activeSlotId = queue.activeSlotId)
    (allocator : next.nextSlotId = queue.nextSlotId) : next.WellFormed := by
  refine valid.restrict perm.subperm (fun id marker => ?_) allocator
  rw [active] at marker
  exact perm.mem_iff.mpr (valid.active id marker)

theorem WellFormed.reorderSlots (valid : queue.WellFormed) (order : List QueueSlotId) :
    (queue.reorderSlots order).2.WellFormed := by
  refine valid.of_perm ?_ (reorderSlots_active order) (reorderSlots_next order)
  rw [reorderSlots_slotIds valid.distinct]
  split
  · rename_i perm; exact perm.symm
  · exact List.Perm.refl _

theorem moveSlot_slotIds (slotId : QueueSlotId) (toIndex : Nat) :
    (queue.moveSlot slotId toIndex).2.slotIds = queue.slotIds.moveTo slotId toIndex := by
  unfold moveSlot
  cases found : queue.slotIndex slotId with
  | none => exact (moveTo_of_notMem (slotIndex_none found) toIndex).symm
  | some _ => exact Keyed.keys_move slotId toIndex queue.slots

@[simp] theorem moveSlot_active (slotId : QueueSlotId) (toIndex : Nat) :
    (queue.moveSlot slotId toIndex).2.activeSlotId = queue.activeSlotId := by
  unfold moveSlot
  cases queue.slotIndex slotId <;> rfl

@[simp] theorem moveSlot_next (slotId : QueueSlotId) (toIndex : Nat) :
    (queue.moveSlot slotId toIndex).2.nextSlotId = queue.nextSlotId := by
  unfold moveSlot
  cases queue.slotIndex slotId <;> rfl

theorem WellFormed.moveSlot (valid : queue.WellFormed) (slotId : QueueSlotId) (toIndex : Nat) :
    (queue.moveSlot slotId toIndex).2.WellFormed := by
  refine valid.of_perm ?_ (moveSlot_active ..) (moveSlot_next ..)
  rw [moveSlot_slotIds]
  exact moveTo_perm ..

theorem map_slotId_set {slots : List QueueSlot} {slot : QueueSlot} (updated : QueueSlot)
    (there : slots[index]? = some slot) (same : updated.slotId = slot.slotId) :
    (slots.set index updated).map (·.slotId) = slots.map (·.slotId) := by
  obtain ⟨bound, hit⟩ := List.getElem?_eq_some_iff.mp there
  have inside : index < (slots.map (·.slotId)).length := by simpa using bound
  have keyed : (slots.map (·.slotId))[index] = slot.slotId := by
    rw [getElem_map, hit]
  rw [map_set, same, ← keyed, set_getElem_self]

theorem rewriteItem_frame (slotId : QueueSlotId) (rewrite : QueueItem → QueueItem) :
    (queue.rewriteItem slotId rewrite).2.slotIds = queue.slotIds ∧
      (queue.rewriteItem slotId rewrite).2.activeSlotId = queue.activeSlotId ∧
      (queue.rewriteItem slotId rewrite).2.nextSlotId = queue.nextSlotId := by
  unfold rewriteItem
  cases queue.slotIndex slotId with
  | none => exact ⟨rfl, rfl, rfl⟩
  | some index =>
    dsimp only
    cases there : queue.slots[index]? with
    | none => exact ⟨rfl, rfl, rfl⟩
    | some slot =>
      have ids := map_slotId_set { slot with item := rewrite slot.item } there rfl
      dsimp only
      split
      · exact ⟨ids, rfl, rfl⟩
      · exact ⟨ids, rfl, rfl⟩

theorem WellFormed.rewriteItem (valid : queue.WellFormed) (slotId : QueueSlotId)
    (rewrite : QueueItem → QueueItem) : (queue.rewriteItem slotId rewrite).2.WellFormed := by
  obtain ⟨ids, active, allocator⟩ := @rewriteItem_frame queue slotId rewrite
  exact valid.of_perm (by rw [ids]) active allocator

@[simp] theorem mergeFetchedSlot_slotId (slot : QueueSlot) (fetched : EmbyItem)
    (activeSlotId : Option QueueSlotId) (result : RefreshMergeResult) :
    (mergeFetchedSlot slot fetched activeSlotId result).1.slotId = slot.slotId := by
  unfold mergeFetchedSlot
  split <;> rfl

theorem mergeForSlot_slotIds (activeSlotId : Option QueueSlotId) (state : MergeState) (fetched : QueueSlotId × EmbyItem) :
    (mergeForSlot activeSlotId state fetched).slots.map (·.slotId) = state.slots.map (·.slotId) := by
  unfold mergeForSlot
  split
  · rfl
  · split
    · rfl
    · rename_i index _ slot there
      split
      · rfl
      · dsimp only
        split
        · exact map_slotId_set _ there (mergeFetchedSlot_slotId ..)
        · exact map_slotId_set _ there (mergeFetchedSlot_slotId ..)

theorem mergeRefreshForSlots_slotIds (fetched : List (QueueSlotId × EmbyItem)) :
    (queue.mergeRefreshForSlots fetched).2.slotIds = queue.slotIds := by
  have folded (state : MergeState) : (fetched.foldl (mergeForSlot queue.activeSlotId) state).slots.map (·.slotId) =
        state.slots.map (·.slotId) := by
    induction fetched generalizing state with
    | nil => rfl
    | cons one rest ih => rw [foldl_cons, ih, mergeForSlot_slotIds]
  unfold mergeRefreshForSlots
  dsimp only
  split <;> exact folded _

theorem WellFormed.mergeRefreshForSlots (valid : queue.WellFormed)
    (fetched : List (QueueSlotId × EmbyItem)) :
    (queue.mergeRefreshForSlots fetched).2.WellFormed := by
  refine valid.of_perm (by rw [mergeRefreshForSlots_slotIds]) ?_ ?_
  all_goals
    unfold PlaybackQueue.mergeRefreshForSlots
    dsimp only
    split <;> rfl

theorem refreshSlot_slotIds (activeSlotId : Option QueueSlotId) (state : RefreshState) (slot : QueueSlot) :
    (refreshSlot activeSlotId state slot).merged.slots.map (·.slotId) = state.merged.slots.map (·.slotId) ++ [slot.slotId] ∨
      (refreshSlot activeSlotId state slot).merged.slots.map (·.slotId) = state.merged.slots.map (·.slotId) := by
  unfold refreshSlot
  dsimp only
  split
  · left; simp
  · split
    · left; simp
    · split
      · left; simp
      · right; rfl

theorem refreshed_sublist (activeSlotId : Option QueueSlotId) (slots : List QueueSlot) (state : RefreshState) :
    (slots.foldl (refreshSlot activeSlotId) state).merged.slots.map (·.slotId) |>.Sublist
      (state.merged.slots.map (·.slotId) ++ slots.map (·.slotId)) := by
  induction slots generalizing state with
  | nil => simp
  | cons slot slots ih =>
    rw [foldl_cons, map_cons]
    refine (ih _).trans ?_
    rcases refreshSlot_slotIds activeSlotId state slot with kept | pruned
    · rw [kept]; simp
    · rw [pruned]
      exact List.Sublist.append_left (sublist_cons_self ..) _

theorem WellFormed.mergeRefresh (valid : queue.WellFormed) (items : List EmbyItem) :
    (queue.mergeRefresh items).2.WellFormed := by
  unfold PlaybackQueue.mergeRefresh
  dsimp only
  set state := queue.slots.foldl (refreshSlot queue.activeSlotId) ⟨groupFetchedItemsByItemId items, ⟨[], {}, false⟩⟩ with folded
  have ids : (state.merged.slots.map (·.slotId)).Sublist queue.slotIds := by
    simpa [folded, slotIds] using refreshed_sublist queue.activeSlotId queue.slots
      ⟨groupFetchedItemsByItemId items, ⟨[], {}, false⟩⟩
  have merged : ({ queue with slots := state.merged.slots } : PlaybackQueue).dropDeadActive.WellFormed :=
    dropDeadActive_wellFormed (valid.distinct.sublist ids) (fun id member => valid.ahead id (ids.subset member))
  split
  · exact merged.bump
  · exact merged

/-! ### Mutations that leave the allocator alone -/

@[simp] theorem dropDeadActive_next : queue.dropDeadActive.nextSlotId = queue.nextSlotId := by
  unfold dropDeadActive
  repeat' split
  all_goals rfl

theorem clear_next : queue.clear.nextSlotId = queue.nextSlotId := by
  unfold clear
  split <;> rfl

theorem clearActiveSlot_next : queue.clearActiveSlot.nextSlotId = queue.nextSlotId := by
  unfold clearActiveSlot
  split <;> rfl

theorem truncateSlots_next (len : Nat) : (queue.truncateSlots len).nextSlotId = queue.nextSlotId := by
  unfold truncateSlots
  split
  · rfl
  · rw [dropDeadActive_next]; rfl

theorem setActiveSlot_next (slotId : QueueSlotId) : (queue.setActiveSlot slotId).2.nextSlotId = queue.nextSlotId := by
  unfold setActiveSlot
  repeat' split
  all_goals rfl

theorem removeExistingSlot_next (slotId : QueueSlotId) : (queue.removeExistingSlot slotId).2.nextSlotId = queue.nextSlotId := by
  unfold removeExistingSlot
  cases queue.slotIndex slotId <;> rfl

theorem removeSlot_next (slotId : QueueSlotId) : (queue.removeSlot slotId).2.nextSlotId = queue.nextSlotId := by
  unfold removeSlot
  split
  · rfl
  · exact removeExistingSlot_next slotId

theorem removeActiveSlotConfirmed_next (slotId : QueueSlotId) :
    (queue.removeActiveSlotConfirmed slotId).2.nextSlotId = queue.nextSlotId := by
  unfold removeActiveSlotConfirmed
  cases queue.slotIndex slotId <;> rfl

theorem mergeRefreshForSlots_next (fetched : List (QueueSlotId × EmbyItem)) :
    (queue.mergeRefreshForSlots fetched).2.nextSlotId = queue.nextSlotId := by
  unfold mergeRefreshForSlots
  dsimp only
  split <;> rfl

theorem mergeRefresh_next (items : List EmbyItem) : (queue.mergeRefresh items).2.nextSlotId = queue.nextSlotId := by
  unfold mergeRefresh
  dsimp only
  split
  · rw [bump_next, dropDeadActive_next]
  · rw [dropDeadActive_next]

/-! ### Allocation -/

theorem saturatingSucc_lt {n : UInt64} (room : n.toNat < u64Max) : n < saturatingSucc n := by
  rw [UInt64.lt_iff_toNat_lt, saturatingSucc_toNat]
  omega

theorem le_saturatingSucc (n : UInt64) : n ≤ saturatingSucc n := by
  have bound := n.toNat_lt
  rw [UInt64.le_iff_toNat_le, saturatingSucc_toNat]
  simp only [u64Max]
  omega

theorem u64_le_max_left (a b : UInt64) : a ≤ max a b := by
  change a ≤ if a ≤ b then b else a
  split
  · assumption
  · exact UInt64.le_refl a

theorem u64_le_max_right (a b : UInt64) : b ≤ max a b := by
  change b ≤ if a ≤ b then b else a
  split
  · exact UInt64.le_refl b
  · rename_i above
    exact UInt64.le_of_lt (UInt64.not_le.mp above)

theorem WellFormed.next_fresh (valid : queue.WellFormed) : (⟨queue.nextSlotId⟩ : QueueSlotId) ∉ queue.slotIds := fun member =>
  absurd (valid.ahead _ member) (UInt64.lt_irrefl _)

theorem WellFormed.allocated (valid : queue.WellFormed) (room : queue.nextSlotId.toNat < u64Max) (slots : List QueueSlot)
    (ids : (slots.map (·.slotId)).Perm (⟨queue.nextSlotId⟩ :: queue.slotIds)) :
    ({ queue with slots := slots, nextSlotId := saturatingSucc queue.nextSlotId } : PlaybackQueue).WellFormed where
  distinct := ids.nodup_iff.mpr (nodup_cons.mpr ⟨valid.next_fresh, valid.distinct⟩)
  active := fun id marker =>
    ids.mem_iff.mpr (mem_cons_of_mem _ (valid.active id marker))
  ahead := fun id member => by
    rcases mem_cons.mp (ids.mem_iff.mp member) with rfl | old
    · exact saturatingSucc_lt room
    · exact UInt64.lt_trans (valid.ahead id old) (saturatingSucc_lt room)

theorem WellFormed.insert (valid : queue.WellFormed) (room : queue.nextSlotId.toNat < u64Max)
    (index : Nat) (item : QueueItem) : (queue.insert index item).2.WellFormed := by
  refine WellFormed.bump (valid.allocated room _ ?_)
  rw [map_insertIdx]
  exact perm_insertIdx _ _ (by simp)

theorem WellFormed.mintSlotId (valid : queue.WellFormed) : queue.mintSlotId.2.WellFormed where
  distinct := valid.distinct
  active := valid.active
  ahead := fun id member =>
    UInt64.lt_of_lt_of_le (valid.ahead id member) (le_saturatingSucc queue.nextSlotId)

theorem WellFormed.appendWithId (valid : queue.WellFormed) (absent : slotId ∉ queue.slotIds)
    (room : slotId.raw.toNat < u64Max) (item : QueueItem) :
    (queue.appendWithId slotId item).WellFormed := by
  have ids : (queue.appendWithId slotId item).slotIds = queue.slotIds ++ [slotId] := by
    simp [PlaybackQueue.appendWithId, slotIds, PlaybackQueue.bump]
  have next : (queue.appendWithId slotId item).nextSlotId = max queue.nextSlotId (saturatingSucc slotId.raw) := rfl
  refine ⟨?_, fun id marker => ?_, fun id member => ?_⟩
  · rw [ids, nodup_append]
    refine ⟨valid.distinct, by simp, ?_⟩
    rintro id old other new rfl
    rw [mem_singleton] at new
    exact absent (new ▸ old)
  · rw [ids]
    exact mem_append_left _ (valid.active id marker)
  · rw [ids] at member
    rw [next]
    rcases mem_append.mp member with old | new
    · exact UInt64.lt_of_lt_of_le (valid.ahead id old) (u64_le_max_left _ _)
    · rw [mem_singleton.mp new]
      exact UInt64.lt_of_lt_of_le (saturatingSucc_lt room) (u64_le_max_right _ _)

theorem WellFormed.pushAll (items : List QueueItem) (valid : queue.WellFormed)
    (room : queue.nextSlotId.toNat + items.length ≤ u64Max) :
    (queue.pushAll items).WellFormed ∧ queue.nextSlotId ≤ (queue.pushAll items).nextSlotId ∧
      ∃ fresh, (queue.pushAll items).slotIds = queue.slotIds ++ fresh ∧ ∀ id ∈ fresh, queue.nextSlotId ≤ id.raw := by
  induction items generalizing queue with
  | nil => exact ⟨valid, UInt64.le_refl _, [], by simp [PlaybackQueue.pushAll], by simp⟩
  | cons item items ih =>
    rw [length_cons] at room
    have step := valid.allocated (by omega) (queue.slots ++ [⟨⟨queue.nextSlotId⟩, item⟩]) (by simp [slotIds])
    have grown := saturatingSucc_toNat queue.nextSlotId
    obtain ⟨pushed, above, fresh, ids, later⟩ := ih step (by dsimp only; omega)
    have first := le_saturatingSucc queue.nextSlotId
    refine ⟨pushed, UInt64.le_trans first above, ⟨queue.nextSlotId⟩ :: fresh, ?_, ?_⟩
    · simpa [PlaybackQueue.pushAll, allocateSlotId, slotIds] using ids
    · intro id member
      rcases mem_cons.mp member with rfl | old
      · exact UInt64.le_refl _
      · exact UInt64.le_trans first (later id old)

end PlaybackQueue

end Mbv.Queue
