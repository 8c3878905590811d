import Mathlib.Data.List.Infix
import Mathlib.Data.List.Lemmas

/-! ### The first place a pattern stands in a line -/

namespace Search

open List

variable {α : Type*} [DecidableEq α]

/-- What stands before the first `pattern` and after it. -/
def splitFirst (pattern : List α) : List α → Option (List α × List α)
  | [] => if pattern = [] then some ([], []) else none
  | a :: line =>
    if pattern <+: a :: line then some ([], (a :: line).drop pattern.length)
    else (splitFirst pattern line).map fun found => (a :: found.1, found.2)

theorem splitFirst_none {pattern line : List α} : splitFirst pattern line = none ↔ ¬ pattern <:+: line := by
  induction line with
  | nil =>
    rw [splitFirst]
    split <;> simp_all
  | cons a line ih =>
    rw [splitFirst, infix_cons_iff]
    split
    · simp_all
    · simp_all

/-- A pattern that stands nowhere earlier, not even across its own beginning, is found in place. -/
theorem splitFirst_append {pattern before : List α} (first : ¬ pattern <:+: before ++ pattern.dropLast) (after : List α) :
    splitFirst pattern (before ++ pattern ++ after) = some (before, after) := by
  have present : pattern ≠ [] := by
    rintro rfl
    exact first (List.nil_infix)
  induction before with
  | nil =>
    cases pattern with
    | nil => exact absurd rfl present
    | cons a pattern =>
      rw [nil_append, cons_append, splitFirst, if_pos (by simp)]
      simp
  | cons a before ih =>
    have away : ¬ pattern <+: a :: (before ++ pattern ++ after) := by
      intro here
      have short : a :: before ++ pattern.dropLast <+: a :: (before ++ pattern ++ after) := by
        obtain ⟨last, same⟩ := dropLast_prefix pattern
        refine ⟨last ++ after, ?_⟩
        rw [append_assoc, ← append_assoc _ last, same]
        simp
      refine first (prefix_of_prefix_length_le here short ?_).isInfix
      simp
      omega
    rw [cons_append, cons_append, splitFirst, if_neg away, ih fun later => first (later.trans (suffix_cons a _).isInfix)]
    rfl

end Search
