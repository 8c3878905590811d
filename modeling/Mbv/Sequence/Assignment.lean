import Mathlib.Data.List.NodupEquivFin

/-! ### Words assigned to words in order -/

namespace Assignment

open List

variable {α β : Type*} {R : α → β → Prop}

/-- Every entry of `pattern` has a place of its own in `line`, further on than the one before. -/
def Assigns (R : α → β → Prop) (pattern : List α) (line : List β) : Prop :=
  ∃ place : Fin pattern.length → Fin line.length, StrictMono place ∧
    ∀ i, R (pattern.get i) (line.get (place i))

theorem assigns_iff {pattern : List α} {line : List β} : Assigns R pattern line ↔ List.SublistForall₂ R pattern line := by
  rw [sublistForall₂_iff]
  constructor
  · rintro ⟨place, increasing, related⟩
    refine ⟨List.ofFn fun i => line.get (place i), ?_, ?_⟩
    · rw [forall₂_iff_get]
      refine ⟨(length_ofFn).symm, fun i here there => ?_⟩
      rw [get_ofFn]
      exact related ⟨i, here⟩
    · rw [sublist_iff_exists_fin_orderEmbedding_get_eq]
      have length := @length_ofFn _ _ fun i => line.get (place i)
      refine ⟨(Fin.castOrderIso length).toOrderEmbedding.trans (OrderEmbedding.ofStrictMono place increasing), fun i => ?_⟩
      rw [get_ofFn]
      rfl
  · rintro ⟨chosen, related, kept⟩
    obtain ⟨length, each⟩ := forall₂_iff_get.mp related
    obtain ⟨embed, same⟩ := sublist_iff_exists_fin_orderEmbedding_get_eq.mp kept
    refine ⟨fun i => embed (Fin.cast length i), fun i j before => ?_, fun i => ?_⟩
    · exact embed.strictMono before
    · rw [← same]
      exact each i i.isLt (length ▸ i.isLt)

theorem sublistForall₂_sublist {pattern shorter : List α} {line longer : List β}
    (found : List.SublistForall₂ R pattern line) (drops : shorter.Sublist pattern)
    (inserts : line.Sublist longer) : List.SublistForall₂ R shorter longer := by
  obtain ⟨chosen, related, kept⟩ := sublistForall₂_iff.mp found
  have whole : List.SublistForall₂ R pattern longer := sublistForall₂_iff.mpr ⟨chosen, related, kept.trans inserts⟩
  clear found related kept inserts
  induction whole generalizing shorter with
  | nil => exact sublist_nil.mp drops ▸ .nil
  | cons here rest ih =>
    cases drops with
    | cons _ drops => exact (ih drops).cons_right
    | cons_cons _ drops => exact .cons here (ih drops)
  | cons_right rest ih => exact (ih drops).cons_right

end Assignment
