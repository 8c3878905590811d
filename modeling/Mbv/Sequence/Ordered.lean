import Mathlib.Data.List.Pairwise
import Mathlib.Order.Lattice

/-! A map kept as the list of its entries in the order of their keys. -/

namespace Ordered

open List

variable {κ α β : Type*} [LinearOrder κ]

def get (k : κ) : List (κ × α) → Option α
  | [] => none
  | entry :: entries => if entry.1 = k then some entry.2 else get k entries

def insert (k : κ) (a : α) : List (κ × α) → List (κ × α)
  | [] => [(k, a)]
  | entry :: entries =>
    if k < entry.1 then (k, a) :: entry :: entries
    else if k = entry.1 then (k, a) :: entries
    else entry :: insert k a entries

def remove (k : κ) (entries : List (κ × α)) : List (κ × α) :=
  entries.filter fun entry => entry.1 ≠ k

def Sorted (entries : List (κ × α)) : Prop := entries.Pairwise fun one other => one.1 < other.1

def collect (entries : List (κ × α)) : List (κ × α) :=
  entries.foldl (fun map entry => insert entry.1 entry.2 map) []

variable {k l : κ} {a b : α} {entries : List (κ × α)}

@[simp] theorem get_nil : get k ([] : List (κ × α)) = none := rfl

@[simp] theorem get_insert : get l (insert k a entries) = if l = k then some a else get l entries := by
  induction entries with
  | nil => simp [insert, get, eq_comm]
  | cons entry entries ih =>
    unfold insert
    by_cases same : l = k
    · subst same
      rw [if_pos rfl] at ih ⊢
      split
      · simp [get]
      · split
        · simp [get]
        · rename_i apart
          rw [get, if_neg (Ne.symm apart), ih]
    · rw [if_neg same] at ih ⊢
      split
      · rw [get, if_neg (Ne.symm same)]
      · split
        · rename_i here
          rw [get, get, if_neg (Ne.symm same), if_neg (here ▸ Ne.symm same)]
        · rw [get, get, ih]

@[simp] theorem get_remove : get l (remove k entries) = if l = k then none else get l entries := by
  induction entries with
  | nil => simp [remove, get]
  | cons entry entries ih =>
    unfold remove at ih ⊢
    by_cases here : entry.1 = k
    · rw [filter_cons_of_neg (by simp [here]), ih]
      by_cases same : l = k
      · simp [same]
      · have apart : entry.1 ≠ l := here ▸ fun equal => same equal.symm
        simp [get, same, apart]
    · rw [filter_cons_of_pos (by simp [here]), get, ih]
      by_cases same : l = k
      · simp [same, here]
      · simp [get, same]

theorem mem_of_get (found : get k entries = some a) : (k, a) ∈ entries := by
  induction entries with
  | nil => cases found
  | cons entry entries ih =>
    unfold get at found
    split at found
    · rename_i here
      cases found
      exact here ▸ mem_cons_self
    · exact mem_cons_of_mem _ (ih found)

theorem mem_insert {entry : κ × α} (member : entry ∈ insert k a entries) : entry = (k, a) ∨ entry ∈ entries := by
  induction entries with
  | nil => exact .inl (mem_singleton.mp member)
  | cons head entries ih =>
    unfold insert at member
    split at member
    · exact (mem_cons.mp member)
    · split at member
      · rcases mem_cons.mp member with here | later
        · exact .inl here
        · exact .inr (mem_cons_of_mem _ later)
      · rcases mem_cons.mp member with here | later
        · exact .inr (here ▸ mem_cons_self)
        · exact (ih later).imp_right (mem_cons_of_mem _)

theorem insert_sorted (sorted : Sorted entries) : Sorted (insert k a entries) := by
  induction entries with
  | nil => exact pairwise_singleton _ _
  | cons head entries ih =>
    obtain ⟨least, rest⟩ := pairwise_cons.mp sorted
    unfold insert
    split
    · rename_i before
      refine pairwise_cons.mpr ⟨?_, sorted⟩
      intro entry member
      rcases mem_cons.mp member with here | later
      · exact here ▸ before
      · exact before.trans (least entry later)
    · split
      · rename_i here
        exact pairwise_cons.mpr ⟨fun entry later => here ▸ least entry later, rest⟩
      · rename_i after apart
        refine pairwise_cons.mpr ⟨?_, ih rest⟩
        intro entry member
        rcases mem_insert member with here | later
        · rw [here]
          exact lt_of_le_of_ne (not_lt.mp after) (Ne.symm apart)
        · exact least entry later

theorem insert_of_greater (greater : ∀ entry ∈ entries, entry.1 < k) : insert k a entries = entries ++ [(k, a)] := by
  induction entries with
  | nil => rfl
  | cons head entries ih =>
    have before := greater head mem_cons_self
    unfold insert
    rw [if_neg (not_lt.mpr before.le), if_neg before.ne', cons_append,
      ih fun entry member => greater entry (mem_cons_of_mem _ member)]

theorem insert_comm (apart : k ≠ l) : insert k a (insert l b entries) = insert l b (insert k a entries) := by
  induction entries with
  | nil =>
    rcases lt_or_gt_of_ne apart with before | after
    · simp [insert, before, apart.symm, not_lt.mpr before.le]
    · simp [insert, after, apart, not_lt.mpr after.le]
  | cons head entries ih =>
    unfold insert
    grind [insert]

theorem foldl_insert_sorted {later : List (κ × α)} (sorted : Sorted (entries ++ later)) :
    later.foldl (fun map entry => insert entry.1 entry.2 map) entries = entries ++ later := by
  induction later generalizing entries with
  | nil => simp
  | cons head later ih =>
    have before : ∀ entry ∈ entries, entry.1 < head.1 := fun entry member =>
      (pairwise_append.mp sorted).2.2 entry member head mem_cons_self
    rw [foldl_cons, insert_of_greater before]
    have shifted : entries ++ [head] ++ later = entries ++ head :: later := by simp
    rw [ih (shifted ▸ sorted), shifted]

theorem collect_sorted (sorted : Sorted entries) : collect entries = entries := by
  have none : Sorted ([] ++ entries) := sorted
  exact foldl_insert_sorted none

theorem sorted_foldl {given : List (κ × α)} (sorted : Sorted entries) :
    Sorted (given.foldl (fun map entry => insert entry.1 entry.2 map) entries) := by
  induction given generalizing entries with
  | nil => exact sorted
  | cons head given ih => exact ih (insert_sorted sorted)

theorem sorted_collect (given : List (κ × α)) : Sorted (collect given) := sorted_foldl List.Pairwise.nil

theorem mem_foldl {given : List (κ × α)} {found : κ × α}
    (member : found ∈ given.foldl (fun map entry => insert entry.1 entry.2 map) entries) :
    found ∈ entries ∨ found ∈ given := by
  induction given generalizing entries with
  | nil => exact .inl member
  | cons head given ih =>
    rcases ih member with before | later
    · rcases mem_insert before with here | old
      · exact .inr (here ▸ mem_cons_self)
      · exact .inl old
    · exact .inr (mem_cons_of_mem _ later)

theorem foldl_insert_comm {given : List (κ × α)} (apart : ∀ entry ∈ given, entry.1 ≠ k) :
    given.foldl (fun map entry => insert entry.1 entry.2 map) (insert k a entries) =
      insert k a (given.foldl (fun map entry => insert entry.1 entry.2 map) entries) := by
  induction given generalizing entries with
  | nil => rfl
  | cons head given ih =>
    rw [foldl_cons, foldl_cons, insert_comm (apart head mem_cons_self)]
    exact ih fun entry member => apart entry (mem_cons_of_mem _ member)

end Ordered
