import Mbv.Text
import Mbv.Sequence.Assignment

namespace Mbv.Text

open Assignment List

variable {fuzzyMatch : String → String → Option Int}

def Matches (fuzzyMatch : String → String → Option Int) (queryWord word : String) : Prop :=
  (fuzzyMatch word queryWord).isSome = true

instance Matches.decidable (queryWord word : String) :
    Decidable (Matches fuzzyMatch queryWord word) :=
  inferInstanceAs (Decidable ((fuzzyMatch word queryWord).isSome = true))

theorem findWord_none {queryWord : String} {words : List String} (absent : findWord fuzzyMatch queryWord words = none) :
    ∀ word ∈ words, ¬ Matches fuzzyMatch queryWord word := by
  induction words with
  | nil =>
    intro word member
    cases member
  | cons word words ih =>
    unfold findWord at absent
    cases scored : fuzzyMatch word queryWord with
    | some score =>
      rw [scored] at absent
      cases absent
    | none =>
      rw [scored] at absent
      intro other member
      rcases mem_cons.mp member with rfl | member
      · simp [Matches, scored]
      · exact ih absent other member

theorem findWord_some {queryWord : String} {words rest : List String} {score : Int}
    (found : findWord fuzzyMatch queryWord words = some (score, rest)) :
    ∃ skipped word, words = skipped ++ word :: rest ∧ Matches fuzzyMatch queryWord word ∧
      ∀ other ∈ skipped, ¬ Matches fuzzyMatch queryWord other := by
  induction words with
  | nil => cases found
  | cons word words ih =>
    unfold findWord at found
    cases scored : fuzzyMatch word queryWord with
    | some first =>
      rw [scored] at found
      cases found
      exact ⟨[], word, rfl, by simp [Matches, scored], by simp⟩
    | none =>
      rw [scored] at found
      obtain ⟨skipped, next, rfl, matched, unmatched⟩ := ih found
      refine ⟨word :: skipped, next, rfl, matched, fun other member => ?_⟩
      rcases mem_cons.mp member with rfl | member
      · simp [Matches, scored]
      · exact unmatched other member

theorem sublistForall₂_first {queryWord word : String} {queryWords skipped rest : List String}
    (matched : Matches fuzzyMatch queryWord word)
    (unmatched : ∀ other ∈ skipped, ¬ Matches fuzzyMatch queryWord other) :
    List.SublistForall₂ (Matches fuzzyMatch) (queryWord :: queryWords) (skipped ++ word :: rest) ↔
      List.SublistForall₂ (Matches fuzzyMatch) queryWords rest := by
  constructor
  · intro assigned
    induction skipped with
    | nil =>
      cases assigned with
      | cons _ later => exact later
      | cons_right later =>
        exact sublistForall₂_sublist later (sublist_cons_self _ _) (List.Sublist.refl rest)
    | cons other skipped ih =>
      cases assigned with
      | cons here => exact absurd here (unmatched other mem_cons_self)
      | cons_right later =>
        exact ih (fun next member => unmatched next (mem_cons_of_mem other member)) later
  · intro later
    exact sublistForall₂_sublist (.cons matched later) (List.Sublist.refl _) (sublist_append_right skipped (word :: rest))

theorem scoreWords_isSome_iff (queryWords words : List String) : (scoreWords fuzzyMatch queryWords words).isSome = true ↔
      List.SublistForall₂ (Matches fuzzyMatch) queryWords words := by
  induction queryWords generalizing words with
  | nil => exact iff_of_true rfl .nil
  | cons queryWord queryWords ih =>
    unfold scoreWords
    cases found : findWord fuzzyMatch queryWord words with
    | none =>
      have absent := findWord_none found
      refine iff_of_false (by simp) fun assigned => ?_
      obtain ⟨_, related, kept⟩ := sublistForall₂_iff.mp assigned
      cases related with
      | cons here => exact absent _ (kept.subset mem_cons_self) here
    | some next =>
      obtain ⟨score, rest⟩ := next
      obtain ⟨skipped, word, rfl, matched, unmatched⟩ := findWord_some found
      rw [sublistForall₂_first matched unmatched, ← ih rest]
      simp

theorem wordMatchScore_isSome_iff (text query : String) :
    (wordMatchScore fuzzyMatch text query).isSome = true ↔ splitWhitespace query ≠ [] ∧
      List.SublistForall₂ (Matches fuzzyMatch) (splitWhitespace query) (splitWhitespace text) := by
  unfold wordMatchScore
  split
  · rename_i empty
    exact iff_of_false (by simp) fun matched => matched.1 empty
  · rename_i queryWords nonempty
    rw [scoreWords_isSome_iff]
    exact ⟨fun assigned => ⟨nonempty, assigned⟩, fun matched => matched.2⟩

/-- A text is accepted exactly when the query's words have places in it in order, so further words
    in the text and fewer in the query never lose a match. -/
theorem word_match_score_assigns (fuzzyMatch : String → String → Option Int)
    (text query : String) :
    ((wordMatchScore fuzzyMatch text query).isSome = true ↔ splitWhitespace query ≠ [] ∧
      Assigns (Matches fuzzyMatch) (splitWhitespace query) (splitWhitespace text)) ∧
    ∀ longer shorter, (splitWhitespace text).Sublist (splitWhitespace longer) →
      (splitWhitespace shorter).Sublist (splitWhitespace query) → splitWhitespace shorter ≠ [] →
      (wordMatchScore fuzzyMatch text query).isSome = true →
      (wordMatchScore fuzzyMatch longer shorter).isSome = true := by
  refine ⟨?_, fun longer shorter inserts drops left matched => ?_⟩
  · rw [wordMatchScore_isSome_iff, assigns_iff]
  · rw [wordMatchScore_isSome_iff] at matched ⊢
    exact ⟨left, sublistForall₂_sublist matched.2 drops inserts⟩

theorem word_match_score_keeps :
    (wordMatchScore (fun word queryWord => if word = queryWord then some 1 else none)
      "the velvet underground live" "velvet").isSome = true := by
  refine (word_match_score_assigns _ "velvet live" "velvet live").2 "the velvet underground live"
    "velvet" ?_ ?_ ?_ ?_ <;> decide

end Mbv.Text
