import Mathlib.Data.List.Nodup
import Mathlib.Data.List.Basic

/-! The places of the entries a filter keeps, in order. -/

namespace Kept

open List

variable {α : Type*} (keep : α → Bool) (entries : List α)

def places : List Nat := entries.findIdxs keep

def rank (place : Nat) : Nat := (entries.take place).countP keep

variable {keep entries}

theorem length_places : (places keep entries).length = (entries.filter keep).length := by
  rw [places, length_findIdxs, countP_eq_length_filter]

theorem mem_places {place : Nat} : place ∈ places keep entries ↔ ∃ entry, entries[place]? = some entry ∧ keep entry = true := by
  unfold places
  rw [mem_findIdxs_iff_exists_getElem_pos]
  constructor
  · rintro ⟨inside, kept⟩
    exact ⟨entries[place], List.getElem?_eq_getElem inside, kept⟩
  · rintro ⟨entry, there, kept⟩
    obtain ⟨inside, same⟩ := List.getElem?_eq_some_iff.mp there
    exact ⟨inside, same ▸ kept⟩

theorem rank_le (place : Nat) : rank keep entries place ≤ place := by
  have counted : (entries.take place).countP keep ≤ (entries.take place).length := countP_le_length
  rw [length_take] at counted
  unfold rank
  omega

theorem filter_get (index : Nat) : (entries.filter keep)[index]? = (places keep entries)[index]?.bind (entries[·]?) := by
  by_cases inside : index < (places keep entries).length
  · have kept : index < (entries.filter keep).length := length_places ▸ inside
    rw [List.getElem?_eq_getElem kept, List.getElem?_eq_getElem inside, Option.bind_some]
    rw [getElem_filter_eq_getElem_getElem_findIdxs kept]
    exact (List.getElem?_eq_getElem _).symm
  · have outside : ¬ index < (entries.filter keep).length := by
      rw [← length_places]
      exact inside
    rw [List.getElem?_eq_none (by omega), List.getElem?_eq_none (by omega)]
    rfl

theorem places_split (place : Nat) : places keep entries = places keep (entries.take place) ++
      (entries.drop place).findIdxs keep (entries.take place).length := by
  have split : entries = entries.take place ++ entries.drop place := (take_append_drop place entries).symm
  unfold places
  conv_lhs => rw [split]
  rw [findIdxs_append, Nat.zero_add]

theorem length_front (place : Nat) : (places keep (entries.take place)).length = rank keep entries place := by
  rw [places, length_findIdxs, rank]

theorem get_rank (place : Nat) : (places keep entries)[rank keep entries place]? =
      (places keep entries).find? fun kept => decide (place ≤ kept) := by
  have front : ∀ kept ∈ places keep (entries.take place), ¬ place ≤ kept := by
    intro kept member
    have bound := lt_add_of_mem_findIdxs kept member
    rw [length_take] at bound
    omega
  have none : (places keep (entries.take place)).find? (fun kept => decide (place ≤ kept)) = none := by
    rw [List.find?_eq_none]
    intro kept member
    simpa using front kept member
  rw [places_split place, List.find?_append, none, Option.none_or]
  rw [List.getElem?_append_right (Nat.le_of_eq (length_front place)), length_front, Nat.sub_self]
  rw [← List.head?_eq_getElem?]
  cases rest : (entries.drop place).findIdxs keep (entries.take place).length with
  | nil => rfl
  | cons first others =>
    have member : first ∈ (entries.drop place).findIdxs keep (entries.take place).length := by
      rw [rest]
      exact mem_cons_self
    have bound := ge_of_mem_findIdxs first member
    have behind := lt_add_of_mem_findIdxs first member
    rw [length_drop, length_take] at behind
    rw [length_take] at bound
    have later : place ≤ first := by omega
    simp [later]

theorem get_rank_of_mem {place : Nat} (kept : place ∈ places keep entries) :
    (places keep entries)[rank keep entries place]? = some place := by
  have ordered : (places keep entries).Pairwise (· < ·) := pairwise_findIdxs
  obtain ⟨front, rear, split⟩ := append_of_mem kept
  have earlier : ∀ other ∈ front, ¬ place ≤ other := by
    intro other member
    rw [split, pairwise_append] at ordered
    have before := ordered.2.2 other member place mem_cons_self
    omega
  have none : front.find? (fun other => decide (place ≤ other)) = none := by
    rw [List.find?_eq_none]
    intro other member
    simpa using earlier other member
  rw [get_rank, split, List.find?_append, none]
  simp

theorem get_eq_iff {place index : Nat} (kept : place ∈ places keep entries) :
    (places keep entries)[index]? = some place ↔ index = rank keep entries place := by
  have distinct : (places keep entries).Nodup := nodup_findIdxs
  constructor
  · intro there
    have inside := (List.getElem?_eq_some_iff.mp there).1
    exact (List.getElem?_inj inside distinct).mp (there.trans (get_rank_of_mem kept).symm)
  · intro same
    rw [same]
    exact get_rank_of_mem kept

theorem rank_lt {place : Nat} (kept : place ∈ places keep entries) : rank keep entries place < (places keep entries).length :=
  (List.getElem?_eq_some_iff.mp (get_rank_of_mem kept)).1

theorem rank_eq_self_iff {place : Nat} (kept : place ∈ places keep entries) :
    rank keep entries place = place ↔ ∀ entry ∈ entries.take place, keep entry = true := by
  obtain ⟨entry, there, -⟩ := mem_places.mp kept
  have inside := (List.getElem?_eq_some_iff.mp there).1
  have length : (entries.take place).length = place := by
    rw [length_take]
    omega
  unfold rank
  rw [← countP_eq_length, length]

theorem rank_eq_last_iff {place : Nat} (kept : place ∈ places keep entries) :
    rank keep entries place = (places keep entries).length - 1 ↔ ∀ entry ∈ entries.drop (place + 1), keep entry = false := by
  obtain ⟨entry, there, own⟩ := mem_places.mp kept
  have inside := (List.getElem?_eq_some_iff.mp there).1
  have split : entries = entries.take place ++ entry :: entries.drop (place + 1) := by
    rw [← (List.getElem?_eq_some_iff.mp there).2, getElem_cons_drop, take_append_drop]
  have counted : (places keep entries).length = rank keep entries place + ((entries.drop (place + 1)).countP keep + 1) := by
    rw [places, length_findIdxs, rank]
    conv_lhs => rw [split]
    rw [countP_append, countP_cons, own]
    rfl
  rw [counted]
  constructor
  · intro last other member
    have none : (entries.drop (place + 1)).countP keep = 0 := by omega
    simpa using countP_eq_zero.mp none other member
  · intro none
    have zero : (entries.drop (place + 1)).countP keep = 0 := countP_eq_zero.mpr fun other member => by simp [none other member]
    omega

end Kept
