import Mathlib.Data.List.Count
import Mathlib.Data.List.Nodup

/-! ### Entries numbered among those of their own key -/

namespace Occurrences

open List

variable {α κ : Type*} [DecidableEq κ] {key : α → κ}

def numberFrom (key : α → κ) (seen : List κ) : List α → List (α × Nat)
  | [] => []
  | entry :: rest => (entry, seen.count (key entry)) :: numberFrom key (key entry :: seen) rest

def number (key : α → κ) (entries : List α) : List (α × Nat) := numberFrom key [] entries

theorem seen_le {seen : List κ} {entries : List α} {numbered : α × Nat}
    (member : numbered ∈ numberFrom key seen entries) : seen.count (key numbered.1) ≤ numbered.2 := by
  induction entries generalizing seen with
  | nil => cases member
  | cons entry rest ih =>
    rcases mem_cons.mp member with rfl | later
    · exact Nat.le_refl _
    · exact Nat.le_trans count_le_count_cons (ih later)

theorem numberFrom_nodup (seen : List κ) (entries : List α) :
    ((numberFrom key seen entries).map fun numbered => (key numbered.1, numbered.2)).Nodup := by
  induction entries generalizing seen with
  | nil => exact .nil
  | cons entry rest ih =>
    rw [numberFrom, map_cons, nodup_cons]
    refine ⟨fun again => ?_, ih _⟩
    obtain ⟨numbered, later, same⟩ := mem_map.mp again
    have more := seen_le later
    simp only [Prod.mk.injEq] at same
    rw [same.1, count_cons_self] at more
    omega

theorem number_nodup (key : α → κ) (entries : List α) :
    ((number key entries).map fun numbered => (key numbered.1, numbered.2)).Nodup :=
  numberFrom_nodup [] entries

theorem numberFrom_of_single {seen : List κ} {entries : List α} {entry : α} (member : entry ∈ entries)
    (single : (entries.map key).count (key entry) = 1) :
    (entry, seen.count (key entry)) ∈ numberFrom key seen entries := by
  induction entries generalizing seen with
  | nil => cases member
  | cons first rest ih =>
    rw [map_cons] at single
    rcases mem_cons.mp member with rfl | later
    · exact mem_cons_self
    · have again : 0 < (rest.map key).count (key entry) := count_pos_iff.mpr (mem_map_of_mem later)
      have other : key first ≠ key entry := by
        intro same
        rw [same, count_cons_self] at single
        omega
      rw [count_cons_of_ne other] at single
      have below := @ih (key first :: seen) later single
      rw [count_cons_of_ne other] at below
      exact mem_cons_of_mem _ below

theorem number_of_single {entries : List α} {entry : α} (member : entry ∈ entries)
    (single : (entries.map key).count (key entry) = 1) : (entry, 0) ∈ number key entries :=
  numberFrom_of_single member single

omit [DecidableEq κ] in
theorem nodup_flatMap_of_mark {β : Type*} {entries : List α} {block : α → List β} {mark : β → κ}
    (distinct : (entries.map key).Nodup) (each : ∀ entry ∈ entries, (block entry).Nodup)
    (marked : ∀ entry ∈ entries, ∀ b ∈ block entry, mark b = key entry) :
    (entries.flatMap block).Nodup := by
  rw [nodup_flatMap]
  refine ⟨each, ?_⟩
  rw [List.Nodup, pairwise_map] at distinct
  apply distinct.imp_of_mem
  intro one other here there apart
  apply disjoint_left.mpr
  intro b left right
  exact apart ((marked one here b left).symm.trans (marked other there b right))

end Occurrences
