import Mathlib.Data.List.InsertIdx
import Mathlib.Data.List.Perm.Basic
import Mathlib.Data.List.Lemmas

/-- Put `k` at place `target`, or last when `target` is past the end; an absent `k` moves nothing. -/
def List.moveTo {κ : Type*} [DecidableEq κ] (ks : List κ) (k : κ) (target : Nat) : List κ :=
  if k ∈ ks then (ks.erase k).insertIdx (min target (ks.length - 1)) k else ks

namespace Keyed

open List

variable {α κ : Type*} [DecidableEq κ] (key : α → κ)

/-- The place of the first entry with key `k`. -/
def indexOf (k : κ) (entries : List α) : Option Nat :=
  entries.findIdx? fun a => key a == k

/-- The first entry with key `k`. -/
def get (k : κ) (entries : List α) : Option α :=
  entries.find? fun a => key a == k

/-- Take the entry with key `k` out and put it back at `target`, or last when `target` is past the end. -/
def move (k : κ) (target : Nat) (entries : List α) : List α :=
  match indexOf key k entries with
  | none => entries
  | some place =>
    match entries[place]? with
    | none => entries
    | some entry =>
      let rest := entries.eraseIdx place
      rest.insertIdx (min target rest.length) entry

variable {key}

theorem indexOf_eq_idxOf (k : κ) (entries : List α) : indexOf key k entries = (entries.map key).idxOf? k := by
  simp only [indexOf, List.idxOf?, List.findIdx?_map]
  rfl

variable {entries : List α} {k : κ}

theorem indexOf_none : indexOf key k entries = none ↔ k ∉ entries.map key := by
  rw [indexOf_eq_idxOf, List.idxOf?_eq_none_iff]

theorem indexOf_isSome : (indexOf key k entries).isSome ↔ k ∈ entries.map key := by
  rw [Option.isSome_iff_ne_none, ne_eq, indexOf_none, not_not]

theorem indexOf_of_mem (member : k ∈ entries.map key) : indexOf key k entries = some ((entries.map key).idxOf k) := by
  simp only [indexOf, List.idxOf, findIdx_map]
  rw [List.findIdx?_eq_some_iff_findIdx_eq]
  refine ⟨?_, rfl⟩
  have inside := idxOf_lt_length_of_mem member
  simpa [List.idxOf, findIdx_map] using inside

variable {place : Nat}

theorem indexOf_some (found : indexOf key k entries = some place) : k ∈ entries.map key ∧ place = (entries.map key).idxOf k := by
  have member : k ∈ entries.map key := by
    rw [← indexOf_isSome, found]; rfl
  rw [indexOf_of_mem member] at found
  exact ⟨member, (Option.some.inj found).symm⟩

theorem indexOf_lt (found : indexOf key k entries = some place) : place < entries.length := by
  obtain ⟨member, rfl⟩ := indexOf_some found
  simpa using idxOf_lt_length_of_mem member

theorem key_at_index (found : indexOf key k entries = some place) : (entries.map key)[place]? = some k := by
  obtain ⟨member, rfl⟩ := indexOf_some found
  exact List.getElem?_idxOf member

theorem indexOf_of_key_at (distinct : (entries.map key).Nodup) (there : (entries.map key)[place]? = some k) :
    indexOf key k entries = some place := by
  obtain ⟨bound, same⟩ := List.getElem?_eq_some_iff.mp there
  rw [indexOf_of_mem (by rw [← same]; exact getElem_mem bound), ← same, distinct.idxOf_getElem place bound]

theorem get_isSome : (get key k entries).isSome ↔ k ∈ entries.map key := by
  simp [get, mem_map]

theorem get_none : get key k entries = none ↔ k ∉ entries.map key := by
  rw [← get_isSome, Option.not_isSome_iff_eq_none]

theorem get_key {entry : α} (found : get key k entries = some entry) : key entry = k ∧ entry ∈ entries := by
  have hit := List.find?_some found
  exact ⟨by simpa using hit, mem_of_find?_eq_some found⟩

theorem get_eq_getElem? (k : κ) (entries : List α) : get key k entries = (indexOf key k entries).bind (entries[·]?) := by
  unfold get indexOf
  induction entries with
  | nil => rfl
  | cons entry entries ih =>
    rw [List.find?_cons, List.findIdx?_cons]
    cases key entry == k with
    | true => simp
    | false => simp [ih, Option.bind_map]

theorem keys_eraseIdx (found : indexOf key k entries = some place) :
    (entries.eraseIdx place).map key = (entries.map key).erase k := by
  obtain ⟨-, rfl⟩ := indexOf_some found
  rw [← eraseIdx_map, eraseIdx_idxOf_eq_erase]

theorem keys_move (k : κ) (target : Nat) (entries : List α) :
    (move key k target entries).map key = (entries.map key).moveTo k target := by
  unfold move List.moveTo
  cases found : indexOf key k entries with
  | none => rw [if_neg (indexOf_none.mp found)]
  | some place =>
    have bound := indexOf_lt found
    have there := key_at_index found
    have shape := keys_eraseIdx found
    obtain ⟨member, -⟩ := indexOf_some found
    rw [List.getElem?_map, List.getElem?_eq_getElem bound] at there
    have same : key entries[place] = k := by simpa using there
    simp only [List.getElem?_eq_getElem bound, if_pos member, map_insertIdx, shape, same,
      length_eraseIdx_of_lt bound, length_map]

end Keyed

namespace List

variable {κ : Type*} [DecidableEq κ] {ks : List κ} {k : κ}

theorem idxOf?_of_mem (member : k ∈ ks) : ks.idxOf? k = some (ks.idxOf k) := by
  rw [idxOf?, findIdx?_eq_some_iff_findIdx_eq]
  exact ⟨idxOf_lt_length_of_mem member, rfl⟩

theorem moveTo_of_notMem (absent : k ∉ ks) (target : Nat) : ks.moveTo k target = ks := by
  simp [moveTo, absent]

theorem moveTo_perm (ks : List κ) (k : κ) (target : Nat) : (ks.moveTo k target).Perm ks := by
  unfold moveTo
  split
  · rename_i member
    have place : min target (ks.length - 1) ≤ (ks.erase k).length := by
      rw [length_erase_of_mem member]; omega
    exact (perm_insertIdx k (ks.erase k) place).trans (perm_cons_erase member).symm
  · exact Perm.refl ks

variable {target : Nat} {a : κ}

@[simp] theorem mem_moveTo : a ∈ ks.moveTo k target ↔ a ∈ ks := (moveTo_perm ks k target).mem_iff

@[simp] theorem length_moveTo : (ks.moveTo k target).length = ks.length := (moveTo_perm ks k target).length_eq

omit [DecidableEq κ] in
theorem insertIdx_append_length (placed rest : List κ) (k : κ) :
    (placed ++ rest).insertIdx placed.length k = placed ++ k :: rest := by
  induction placed with
  | nil => simp
  | cons first placed ih => simp [ih]

theorem moveTo_append {placed rest : List κ} (fresh : k ∉ placed) (member : k ∈ rest) :
    (placed ++ rest).moveTo k placed.length = placed ++ k :: rest.erase k := by
  have whole : k ∈ placed ++ rest := mem_append_right placed member
  have room : placed.length ≤ (placed ++ rest).length - 1 := by
    have positive := length_pos_of_mem member
    rw [length_append]
    omega
  rw [moveTo, if_pos whole, Nat.min_eq_left room, erase_append_right rest fresh, insertIdx_append_length]

theorem moveTo_idxOf (distinct : ks.Nodup) (member : k ∈ ks) : ks.moveTo k (ks.idxOf k) = ks := by
  obtain ⟨placed, rest, rfl⟩ := append_of_mem member
  have fresh : k ∉ placed := fun early =>
    (nodup_append.mp distinct).2.2 k early k mem_cons_self rfl
  have place : (placed ++ k :: rest).idxOf k = placed.length := by
    simp [idxOf_append, fresh]
  rw [place, moveTo_append fresh mem_cons_self, erase_cons_head]

theorem moveTo_last (distinct : ks.Nodup) (last : ks.getLast? = some k)
    (beyond : ks.length ≤ target + 1) : ks.moveTo k target = ks := by
  obtain ⟨placed, rfl⟩ := getLast?_eq_some_iff.mp last
  have fresh : k ∉ placed := fun early =>
    (nodup_append.mp distinct).2.2 k early k (mem_singleton.mpr rfl) rfl
  rw [length_append, length_singleton] at beyond
  rw [moveTo, if_pos (by simp), erase_append_right _ fresh, erase_cons_head, append_nil,
    length_append, length_singleton, Nat.add_sub_cancel, Nat.min_eq_right (by omega)]
  simp

theorem idxOf_eq_of_getElem? (distinct : ks.Nodup) {place : Nat} (there : ks[place]? = some a) : ks.idxOf a = place := by
  obtain ⟨bound, rfl⟩ := getElem?_eq_some_iff.mp there
  exact distinct.idxOf_getElem place bound

theorem Nodup.moveTo (distinct : ks.Nodup) (k : κ) (target : Nat) : (ks.moveTo k target).Nodup :=
  (moveTo_perm ks k target).nodup_iff.mpr distinct

/-- A move carries its own entry to `target` and shifts the entries it passes over by one. -/
theorem idxOf_moveTo (distinct : ks.Nodup) (member : a ∈ ks) (moved : k ∈ ks) (inside : target < ks.length) :
    (ks.moveTo k target).idxOf a = if ks.idxOf a = ks.idxOf k then target
      else if ks.idxOf k < ks.idxOf a ∧ ks.idxOf a ≤ target then ks.idxOf a - 1
      else if target ≤ ks.idxOf a ∧ ks.idxOf a < ks.idxOf k then ks.idxOf a + 1
      else ks.idxOf a := by
  apply idxOf_eq_of_getElem? (distinct.moveTo k target)
  have here := getElem?_idxOf member
  have source := idxOf_lt_length_of_mem moved
  have room : (ks.erase k).length = ks.length - 1 := length_erase_of_mem moved
  have at_source : ks.idxOf a = ks.idxOf k → a = k := fun same => (idxOf_inj member).mp same
  rw [List.moveTo, if_pos moved, Nat.min_eq_left (by omega), getElem?_insertIdx]
  rw [← eraseIdx_idxOf_eq_erase] at room ⊢
  simp only [getElem?_eraseIdx, room]
  by_cases own : ks.idxOf a = ks.idxOf k
  · simp only [own, if_true]
    rw [if_neg (by omega), if_pos (by omega), at_source own]
  · rw [if_neg own]
    by_cases passed : ks.idxOf k < ks.idxOf a ∧ ks.idxOf a ≤ target
    · rw [if_pos passed, if_pos (by omega), if_neg (by omega), show ks.idxOf a - 1 + 1 = ks.idxOf a by omega, here]
    · rw [if_neg passed]
      by_cases pushed : target ≤ ks.idxOf a ∧ ks.idxOf a < ks.idxOf k
      · rw [if_pos pushed, if_neg (by omega), if_neg (by omega), Nat.add_sub_cancel, if_pos (by omega), here]
      · rw [if_neg pushed]
        by_cases early : ks.idxOf a < target
        · rw [if_pos early, if_pos (by omega), here]
        · rw [if_neg early, if_neg (by omega), if_neg (by omega), show ks.idxOf a - 1 + 1 = ks.idxOf a by omega, here]

theorem idxOf_erase_of_ne (distinct : ks.Nodup) (member : a ∈ ks) (other : a ≠ k) : (ks.erase k).idxOf a =
      if ks.idxOf k < ks.idxOf a then ks.idxOf a - 1 else ks.idxOf a := by
  apply idxOf_eq_of_getElem? (distinct.erase k)
  have here := getElem?_idxOf member
  have apart : ks.idxOf a ≠ ks.idxOf k := fun same => other ((idxOf_inj member).mp same)
  rw [← eraseIdx_idxOf_eq_erase, getElem?_eraseIdx]
  by_cases later : ks.idxOf k < ks.idxOf a
  · rw [if_pos later, if_neg (by omega), show ks.idxOf a - 1 + 1 = ks.idxOf a by omega, here]
  · rw [if_neg later, if_pos (by omega), here]

end List
