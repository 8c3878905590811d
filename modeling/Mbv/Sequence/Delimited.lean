import Mathlib.Data.List.Basic

/-! Records of a sequence, each closed by a delimiter. -/

namespace Delimited

variable {α : Type*} [DecidableEq α] {sep : α} {record rest xs : List α}

def joined (sep : α) (records : List (List α)) : List α := records.flatMap (· ++ [sep])

omit [DecidableEq α] in
@[simp] theorem joined_nil : joined sep [] = [] := rfl

omit [DecidableEq α] in
@[simp] theorem joined_cons (records : List (List α)) :
    joined sep (record :: records) = record ++ sep :: joined sep records := by
  simp [joined]

omit [DecidableEq α] in
theorem joined_append (first second : List (List α)) : joined sep (first ++ second) = joined sep first ++ joined sep second :=
  List.flatMap_append

def takeRecord (sep : α) (xs : List α) : Option (List α × List α) :=
  (xs.findIdx? (· == sep)).map fun stop => (xs.take stop, xs.drop (stop + 1))

omit [DecidableEq α] in
theorem record_unique {record' rest' : List α} (plain : sep ∉ record) (plain' : sep ∉ record')
    (same : record ++ sep :: rest = record' ++ sep :: rest') : record = record' ∧ rest = rest' := by
  induction record generalizing record' with
  | nil =>
    cases record' with
    | nil => exact ⟨rfl, (List.cons.inj same).2⟩
    | cons x record' => exact absurd ((List.cons.inj same).1 ▸ List.mem_cons_self) plain'
  | cons x record ih =>
    cases record' with
    | nil => exact absurd ((List.cons.inj same).1 ▸ List.mem_cons_self) plain
    | cons y record' =>
      obtain ⟨rfl, tails⟩ := List.cons.inj same
      obtain ⟨rfl, rests⟩ := ih (fun member => plain (List.mem_cons_of_mem x member))
        (fun member => plain' (List.mem_cons_of_mem x member)) tails
      exact ⟨rfl, rests⟩

theorem findIdx?_sep_none : xs.findIdx? (· == sep) = none ↔ sep ∉ xs := by
  rw [List.findIdx?_eq_none_iff]
  constructor
  · intro other member
    exact absurd (other sep member) (by simp)
  · intro missing x member
    exact beq_eq_false_iff_ne.mpr fun same => missing (same ▸ member)

theorem takeRecord_none : takeRecord sep xs = none ↔ sep ∉ xs := by
  unfold takeRecord
  rw [Option.map_eq_none_iff, findIdx?_sep_none]

theorem takeRecord_append (plain : sep ∉ record) : takeRecord sep (record ++ sep :: rest) = some (record, rest) := by
  have stop : (record ++ sep :: rest).findIdx? (· == sep) = some record.length := by
    rw [List.findIdx?_append, findIdx?_sep_none.mpr plain, List.findIdx?_cons, beq_self_eq_true]
    simp
  unfold takeRecord
  rw [stop]
  simp

theorem takeRecord_some : takeRecord sep xs = some (record, rest) ↔ xs = record ++ sep :: rest ∧ sep ∉ record := by
  constructor
  · intro taken
    have there : sep ∈ xs := by
      apply Decidable.byContradiction
      intro missing
      rw [takeRecord_none.mpr missing] at taken
      cases taken
    obtain ⟨before, after, rfl, plain⟩ := List.eq_append_cons_of_mem there
    rw [takeRecord_append plain] at taken
    cases taken
    exact ⟨rfl, plain⟩
  · rintro ⟨rfl, plain⟩
    exact takeRecord_append plain

theorem takeRecord_length (taken : takeRecord sep xs = some (record, rest)) : rest.length < xs.length := by
  obtain ⟨rfl, -⟩ := takeRecord_some.mp taken
  simp
  omega

end Delimited
