import Mbv.Queue.PlaybackQueue

namespace Mbv.Queue

open List

/-- The plan's loop from `index` on, with the order its moves have reached. -/
def reorderMovesFrom (index : Nat) (order : List QueueSlotId) :
    List QueueSlotId → List (QueueSlotId × Nat)
  | [] => []
  | slotId :: target =>
    match order.idxOf? slotId with
    | none => reorderMovesFrom (index + 1) order target
    | some place =>
      if place = index then reorderMovesFrom (index + 1) order target
      else
        (slotId, index) ::
          reorderMovesFrom (index + 1) ((order.eraseIdx place).insertIdx index slotId) target

def reorderMovePlan (current target : List QueueSlotId) : List (QueueSlotId × Nat) :=
  reorderMovesFrom 0 current target

def applyMoves (order : List QueueSlotId) (moves : List (QueueSlotId × Nat)) : List QueueSlotId :=
  moves.foldl (fun order move => order.moveTo move.1 move.2) order

theorem reorderMovesFrom_spec {placed rest target : List QueueSlotId}
    (distinct : (placed ++ rest).Nodup) (perm : rest.Perm target) :
    applyMoves (placed ++ rest) (reorderMovesFrom placed.length (placed ++ rest) target) = placed ++ target := by
  induction target generalizing placed rest with
  | nil => simp [reorderMovesFrom, applyMoves, perm.eq_nil]
  | cons slotId target ih =>
    have member : slotId ∈ rest := perm.mem_iff.mpr mem_cons_self
    have fresh : slotId ∉ placed := fun early =>
      (nodup_append.mp distinct).2.2 slotId early slotId member rfl
    have place : (placed ++ rest).idxOf slotId = placed.length + rest.idxOf slotId := by
      rw [idxOf_append_of_notMem fresh, Nat.add_comm]
    have found := List.idxOf?_of_mem (mem_append_right placed member)
    have moved : (placed ++ rest).moveTo slotId placed.length =
        placed ++ slotId :: rest.erase slotId := moveTo_append fresh member
    have next : (placed ++ slotId :: rest.erase slotId).Nodup := moved ▸ distinct.moveTo slotId placed.length
    have shape : placed ++ slotId :: rest.erase slotId = (placed ++ [slotId]) ++ rest.erase slotId := by simp
    have tail : (rest.erase slotId).Perm target := by simpa using perm.erase slotId
    have later := @ih (placed ++ [slotId]) (rest.erase slotId) (shape ▸ next) tail
    rw [← shape, length_append, length_singleton, append_assoc, singleton_append] at later
    rw [reorderMovesFrom, found]
    by_cases here : (placed ++ rest).idxOf slotId = placed.length
    · have settled : placed ++ slotId :: rest.erase slotId = placed ++ rest := by
        rw [← moved, ← here, moveTo_idxOf distinct (mem_append_right placed member)]
      rw [settled] at later
      simpa only [here, if_true] using later
    · have edited : ((placed ++ rest).eraseIdx ((placed ++ rest).idxOf slotId)).insertIdx
          placed.length slotId = placed ++ slotId :: rest.erase slotId := by
        rw [eraseIdx_idxOf_eq_erase, erase_append_right rest fresh, insertIdx_append_length]
      simp only [here, if_false, edited, applyMoves, foldl_cons, moved]
      exact later

theorem reorderMovePlan_spec {current target : List QueueSlotId} (distinct : current.Nodup)
    (perm : current.Perm target) : applyMoves current (reorderMovePlan current target) = target :=
  @reorderMovesFrom_spec [] current target distinct perm

end Mbv.Queue
