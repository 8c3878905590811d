import Mbv.Queue.SlotIdentity
import Mbv.Queue.Reorder
import Mathlib.Data.List.Dedup

namespace Mbv.Queue

open List

/-! ### The plan as the source computes it, with the panic of an insert past the end -/

/-- The loop of `reorder_move_plan` from `index` on; `none` is the panic of `Vec::insert`. -/
def checkedMovesFrom (index : Nat) (order : List QueueSlotId) :
    List QueueSlotId → Option (List (QueueSlotId × Nat))
  | [] => some []
  | slotId :: target =>
    match order.idxOf? slotId with
    | none => checkedMovesFrom (index + 1) order target
    | some place =>
      if place = index then checkedMovesFrom (index + 1) order target
      else
        let order := order.eraseIdx place
        if index ≤ order.length then
          (checkedMovesFrom (index + 1) (order.insertIdx index slotId) target).map
            ((slotId, index) :: ·)
        else none

def checkedReorderMovePlan (current target : List QueueSlotId) :
    Option (List (QueueSlotId × Nat)) :=
  checkedMovesFrom 0 current target

/-- The pairs of a plan carried out with `move_slot`. -/
def PlaybackQueue.moveSlots (queue : PlaybackQueue) (moves : List (QueueSlotId × Nat)) :
    PlaybackQueue :=
  moves.foldl (fun queue move => (queue.moveSlot move.1 move.2).2) queue

theorem moveSlots_slotIds (queue : PlaybackQueue) (moves : List (QueueSlotId × Nat)) :
    (queue.moveSlots moves).slotIds = applyMoves queue.slotIds moves := by
  unfold PlaybackQueue.moveSlots applyMoves
  induction moves generalizing queue with
  | nil => rfl
  | cons move moves ih => rw [foldl_cons, foldl_cons, ih, PlaybackQueue.moveSlot_slotIds]

variable {order target placed : List QueueSlotId} {slotId : QueueSlotId} {index : Nat}

inductive PlanCase (index : Nat) (order : List QueueSlotId) (slotId : QueueSlotId)
    (target : List QueueSlotId) : Prop
  | foreign (absent : slotId ∉ order)
      (plan : checkedMovesFrom index order (slotId :: target) = checkedMovesFrom (index + 1) order target)
  | inPlace (member : slotId ∈ order) (here : order.idxOf slotId = index)
      (plan : checkedMovesFrom index order (slotId :: target) = checkedMovesFrom (index + 1) order target)
  | moved (member : slotId ∈ order) (room : index < order.length)
      (plan : checkedMovesFrom index order (slotId :: target) =
        (checkedMovesFrom (index + 1) (order.moveTo slotId index) target).map ((slotId, index) :: ·))
  | pastEnd (member : slotId ∈ order) (beyond : order.length ≤ index)
      (plan : checkedMovesFrom index order (slotId :: target) = none)

theorem planCase (index : Nat) (order : List QueueSlotId) (slotId : QueueSlotId)
    (target : List QueueSlotId) : PlanCase index order slotId target := by
  by_cases member : slotId ∈ order
  · have found := List.idxOf?_of_mem member
    have inside := idxOf_lt_length_of_mem member
    by_cases here : order.idxOf slotId = index
    · apply PlanCase.inPlace member here
      rw [checkedMovesFrom, found]
      dsimp only
      rw [if_pos here]
    · have length := length_eraseIdx_of_lt inside
      by_cases room : index < order.length
      · apply PlanCase.moved member room
        rw [checkedMovesFrom, found]
        dsimp only
        rw [if_neg here, if_pos (by omega), List.moveTo, if_pos member, Nat.min_eq_left (by omega), eraseIdx_idxOf_eq_erase]
      · apply PlanCase.pastEnd member (by omega)
        rw [checkedMovesFrom, found]
        dsimp only
        rw [if_neg here, if_neg (by omega)]
  · apply PlanCase.foreign member
    rw [checkedMovesFrom, List.idxOf?_eq_none_iff.mpr member]

theorem checkedMovesFrom_none_iff : checkedMovesFrom index order target = none ↔
    ∃ slotId ∈ target.drop (order.length - index), slotId ∈ order := by
  induction target generalizing index order with
  | nil => simp [checkedMovesFrom]
  | cons slotId target ih =>
    have split : (slotId :: target).drop (order.length - index) =
        if index < order.length then target.drop (order.length - (index + 1)) else slotId :: target := by
      split
      · rw [show order.length - index = order.length - (index + 1) + 1 by omega, drop_succ_cons]
      · rw [show order.length - index = 0 by omega, drop_zero]
    have later : ¬ index < order.length → order.length - (index + 1) = 0 := by omega
    rcases planCase index order slotId target with ⟨absent, plan⟩ | ⟨member, here, plan⟩ |
      ⟨member, room, plan⟩ | ⟨member, beyond, plan⟩
    · rw [plan, ih, split]
      split
      · exact Iff.rfl
      · rename_i past
        simp [later past, absent]
    · have room : index < order.length := here ▸ idxOf_lt_length_of_mem member
      rw [plan, ih, split, if_pos room]
    · rw [plan, Option.map_eq_none_iff, ih, split, if_pos room, length_moveTo]
      simp only [mem_moveTo]
    · rw [plan, split, if_neg (by omega)]
      simp [member]

theorem reorderMovesFrom_of_checked {moves : List (QueueSlotId × Nat)}
    (returned : checkedMovesFrom index order target = some moves) :
    reorderMovesFrom index order target = moves := by
  induction target generalizing index order moves with
  | nil => exact Option.some.inj returned
  | cons slotId target ih =>
    unfold checkedMovesFrom at returned
    unfold reorderMovesFrom
    cases found : order.idxOf? slotId with
    | none =>
      rw [found] at returned
      exact ih returned
    | some place =>
      rw [found] at returned
      dsimp only at returned ⊢
      split at returned
      · rename_i here
        rw [if_pos here]
        exact ih returned
      · rename_i elsewhere
        rw [if_neg elsewhere]
        split at returned
        · obtain ⟨rest, later, rfl⟩ := Option.map_eq_some_iff.mp returned
          rw [ih later]
        · cases returned

theorem checked_of_perm {current : List QueueSlotId} (perm : current.Perm target) :
    checkedReorderMovePlan current target = some (reorderMovePlan current target) := by
  unfold checkedReorderMovePlan reorderMovePlan
  cases returned : checkedMovesFrom 0 current target with
  | none =>
    obtain ⟨slotId, past, -⟩ := checkedMovesFrom_none_iff.mp returned
    rw [Nat.sub_zero, perm.length_eq, drop_length] at past
    cases past
  | some moves => rw [reorderMovesFrom_of_checked returned]

/-! ### What the plan makes of any target -/

theorem filter_sublist_erase (order : List QueueSlotId) : (order.filter (· ≠ slotId)).Sublist (order.erase slotId) := by
  induction order with
  | nil => exact .slnil
  | cons first order ih =>
    by_cases same : first = slotId
    · subst same
      simp
    · rw [filter_cons_of_pos (by simpa using same), erase_cons_tail (by simpa using same)]
      exact ih.cons_cons first

theorem filter_sublist_take_erase (order : List QueueSlotId) (index : Nat) :
    ((order.take index).filter (· ≠ slotId)).Sublist ((order.erase slotId).take index) := by
  have length : (order.take index).length ≤ index := length_take_le index order
  have front (first rest : List QueueSlotId) (short : first.length ≤ index) : first.Sublist ((first ++ rest).take index) := by
    rw [take_append, take_of_length_le short]
    exact sublist_append_left ..
  by_cases member : slotId ∈ order.take index
  · have erased : order.erase slotId = (order.take index).erase slotId ++ order.drop index := by
      rw [← erase_append_left _ member, take_append_drop]
    have shorter := length_erase_of_mem member
    rw [erased]
    exact (filter_sublist_erase _).trans (front _ _ (by omega))
  · have erased : order.erase slotId = order.take index ++ (order.drop index).erase slotId := by
      rw [← erase_append_right _ member, take_append_drop]
    rw [erased]
    exact filter_sublist.trans (front _ _ length)

theorem placed_moveTo (front : placed.Sublist (order.take index)) (member : slotId ∈ order) (room : index < order.length) :
    (placed.filter (· ≠ slotId) ++ [slotId]).Sublist ((order.moveTo slotId index).take (index + 1)) := by
  have length := length_erase_of_mem member
  have kept : (placed.filter (· ≠ slotId)).Sublist ((order.erase slotId).take index) :=
    (front.filter _).trans (filter_sublist_take_erase order index)
  have size : ((order.erase slotId).take index).length = index := by
    rw [length_take]
    omega
  have put := insertIdx_append_length ((order.erase slotId).take index) ((order.erase slotId).drop index) slotId
  rw [take_append_drop, size] at put
  rw [List.moveTo, if_pos member, Nat.min_eq_left (by omega), put, take_append, size,
    Nat.add_sub_cancel_left, take_of_length_le (by omega)]
  exact kept.append (List.Sublist.refl _)

theorem placed_inPlace (front : placed.Sublist (order.take index)) (member : slotId ∈ order)
    (here : order.idxOf slotId = index) :
    (placed.filter (· ≠ slotId) ++ [slotId]).Sublist (order.take (index + 1)) := by
  have there := List.getElem?_idxOf member
  rw [here] at there
  rw [take_add_one, there]
  exact (filter_sublist.trans front).append (List.Sublist.refl _)

def namedIn (order target : List QueueSlotId) : List QueueSlotId :=
  (target.filter (· ∈ order)).dedup

theorem namedIn_cons_of_mem (member : slotId ∈ order) :
    (placed.filter (· ≠ slotId) ++ [slotId]).filter (· ∉ namedIn order target) ++ namedIn order target =
      placed.filter (· ∉ namedIn order (slotId :: target)) ++ namedIn order (slotId :: target) := by
  have named : namedIn order (slotId :: target) =
      if slotId ∈ namedIn order target then namedIn order target else slotId :: namedIn order target := by
    unfold namedIn
    rw [filter_cons_of_pos (by simpa using member)]
    split
    · rename_i again
      exact dedup_cons_of_mem (mem_dedup.mp again)
    · rename_i last
      exact dedup_cons_of_notMem fun again => last (mem_dedup.mpr again)
  rw [named, filter_append, filter_filter]
  by_cases again : slotId ∈ namedIn order target
  · rw [if_pos again, filter_cons_of_neg (by simpa using again), filter_nil, append_nil]
    congr 1
    apply filter_congr
    intro id _
    by_cases same : id = slotId
    · simp [same, again]
    · simp [same]
  · rw [if_neg again, filter_cons_of_pos (by simpa using again), filter_nil, append_assoc, singleton_append]
    congr 1
    apply filter_congr
    intro id _
    simp [Bool.and_comm]

theorem namedIn_cons_of_notMem (absent : slotId ∉ order) : namedIn order (slotId :: target) = namedIn order target := by
  unfold namedIn
  rw [filter_cons_of_neg (by simpa using absent)]

theorem namedIn_moveTo : namedIn (order.moveTo slotId index) target = namedIn order target := by
  unfold namedIn
  simp only [mem_moveTo]

theorem checkedMovesFrom_spec {moves : List (QueueSlotId × Nat)} (returned : checkedMovesFrom index order target = some moves)
    (front : placed.Sublist (order.take index)) :
    (∀ move ∈ moves, move.1 ∈ order) ∧ (applyMoves order moves).Perm order ∧
      (placed.filter (· ∉ namedIn order target) ++ namedIn order target).Sublist (applyMoves order moves) := by
  induction target generalizing index order placed moves with
  | nil =>
    cases returned
    refine ⟨by simp, List.Perm.refl _, ?_⟩
    have all := front.trans (take_sublist index order)
    simpa [namedIn, applyMoves] using all
  | cons slotId target ih =>
    rcases planCase index order slotId target with ⟨absent, plan⟩ | ⟨member, here, plan⟩ |
      ⟨member, room, plan⟩ | ⟨member, beyond, plan⟩
    · rw [plan] at returned
      rw [namedIn_cons_of_notMem absent]
      exact ih returned (front.trans (take_sublist_take_left (Nat.le_succ index)))
    · rw [plan] at returned
      rw [← namedIn_cons_of_mem member]
      exact ih returned (placed_inPlace front member here)
    · rw [plan] at returned
      obtain ⟨rest, later, rfl⟩ := Option.map_eq_some_iff.mp returned
      obtain ⟨own, perm, ordered⟩ := ih later (placed_moveTo front member room)
      rw [namedIn_moveTo, namedIn_cons_of_mem member] at ordered
      refine ⟨?_, perm.trans (moveTo_perm ..), ordered⟩
      intro move there
      rcases mem_cons.mp there with rfl | there
      · exact member
      · exact mem_moveTo.mp (own move there)
    · rw [plan] at returned
      cases returned

/-- Nothing is lost or added, and the ids that the target names stand in the target's order. -/
structure InTargetOrder (current target result : List QueueSlotId) : Prop where
  perm : result.Perm current
  ordered : (namedIn current target).Sublist result
  exactly : current.Nodup → result.filter (· ∈ target) = namedIn current target

theorem inTargetOrder_of_sublist {current result : List QueueSlotId} (perm : result.Perm current)
    (ordered : (namedIn current target).Sublist result) : InTargetOrder current target result := by
  refine ⟨perm, ordered, fun distinct => ?_⟩
  have inside : (namedIn current target).Sublist (result.filter (· ∈ target)) := by
    have kept : (namedIn current target).filter (· ∈ target) = namedIn current target := by
      apply filter_eq_self.mpr
      intro id named
      unfold namedIn at named
      rw [mem_dedup, mem_filter] at named
      simpa using named.1
    rw [← kept]
    exact ordered.filter _
  symm
  apply inside.eq_of_length_le
  apply (subperm_of_subset ((perm.nodup_iff.mpr distinct).filter _) ?_).length_le
  intro id named
  rw [mem_filter] at named
  unfold namedIn
  rw [mem_dedup, mem_filter]
  exact ⟨by simpa using named.2, by simpa using perm.mem_iff.mp named.1⟩

/-- The plan of any two lists returns, skips the foreign ids and carries out the target's order of
    the others, exactly when the target names no id of the queue past the queue's length. -/
theorem reorder_move_plan_tolerates_iff (current target : List QueueSlotId) :
    (∃ moves, checkedReorderMovePlan current target = some moves ∧
      (∀ move ∈ moves, move.1 ∈ current) ∧
      ∀ queue : PlaybackQueue, queue.slotIds = current →
        InTargetOrder current target (queue.moveSlots moves).slotIds) ↔
      ∀ slotId ∈ target.drop current.length, slotId ∉ current := by
  constructor
  · rintro ⟨moves, returned, -⟩ slotId past member
    have failed := (@checkedMovesFrom_none_iff current target 0).mpr ⟨slotId, past, member⟩
    rw [checkedReorderMovePlan, failed] at returned
    cases returned
  · intro tolerated
    cases returned : checkedReorderMovePlan current target with
    | none =>
      obtain ⟨slotId, past, member⟩ := checkedMovesFrom_none_iff.mp returned
      exact absurd member (tolerated slotId past)
    | some moves =>
      obtain ⟨own, perm, ordered⟩ := @checkedMovesFrom_spec current target [] 0 moves returned
        (nil_sublist _)
      refine ⟨moves, rfl, own, ?_⟩
      rintro queue rfl
      rw [moveSlots_slotIds]
      exact inTargetOrder_of_sublist perm (by simpa using ordered)

/-- One foreign id in front of the queue's only slot. -/
theorem reorder_move_plan_panics : checkedReorderMovePlan [⟨1⟩] [⟨2⟩, ⟨1⟩] = none := by decide

end Mbv.Queue
