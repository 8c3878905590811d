import Mathlib.Data.List.Basic
import Mathlib.Data.List.Nodup

/-! A search along a line of places that shortens while each of them is asked. -/

variable {α : Type*} [DecidableEq α]

structure Sought (α : Type*) where
  asked : List α := []
  found : Option α := none

/-- Each place in turn is asked until one accepts. `gone` has what leaves the line while each place
    is asked: a place that leaves before it has answered ends the search. -/
def seek (accepts : α → Bool) : List (List α) → List α → Sought α
  | _, [] => {}
  | [], place :: _ => { asked := [place] }
  | gone :: later, place :: ahead =>
    if place ∈ gone then { asked := [place] }
    else if accepts place then { asked := [place], found := some place }
    else
      let rest := seek accepts later (ahead.filter (· ∉ gone))
      { rest with asked := place :: rest.asked }

def Sought.left (sought : Sought α) (gone : List (List α)) : List α :=
  (gone.take sought.asked.length).flatten

def Sought.Undisturbed (sought : Sought α) (gone : List (List α)) : Prop :=
  ∀ pair ∈ sought.asked.zip gone, pair.1 ∉ pair.2

instance (sought : Sought α) (gone : List (List α)) : Decidable (sought.Undisturbed gone) :=
  inferInstanceAs (Decidable (∀ _ ∈ _, _))

namespace Seek

open List

variable {accepts : α → Bool}

@[simp] theorem seek_nil (gone : List (List α)) : seek accepts gone [] = {} := by
  cases gone <;> rfl

theorem asked_sublist (gone : List (List α)) (line : List α) : (seek accepts gone line).asked.Sublist line := by
  fun_induction seek accepts gone line with
  | case1 => exact .slnil
  | case2 place ahead => exact (nil_sublist ahead).cons_cons place
  | case3 gone later place ahead left => exact (nil_sublist ahead).cons_cons place
  | case4 gone later place ahead stays accepted => exact (nil_sublist ahead).cons_cons place
  | case5 gone later place ahead stays refused rest ih =>
    exact (ih.trans filter_sublist).cons_cons place

theorem left_cons (place : α) (sought : Sought α) (gone : List α) (later : List (List α)) :
    Sought.left { sought with asked := place :: sought.asked } (gone :: later) = gone ++ sought.left later := by
  simp [Sought.left]

theorem undisturbed_cons {place : α} {sought : Sought α} {gone : List α} {later : List (List α)}
    (undisturbed : Sought.Undisturbed { sought with asked := place :: sought.asked }
      (gone :: later)) : sought.Undisturbed later :=
  fun pair member => undisturbed pair (mem_cons_of_mem _ member)

theorem found_first {gone : List (List α)} {line : List α} (enough : line.length ≤ gone.length)
    (undisturbed : (seek accepts gone line).Undisturbed gone) :
    (seek accepts gone line).found = (line.filter (· ∉ (seek accepts gone line).left gone)).find? accepts := by
  fun_induction seek accepts gone line with
  | case1 => rfl
  | case2 place ahead => simp at enough
  | case3 gone later place ahead left => exact absurd left (undisturbed (place, gone) (by simp))
  | case4 gone later place ahead stays accepted =>
    have kept : place ∉ Sought.left { asked := [place], found := some place } (gone :: later) := by
      simpa [Sought.left] using stays
    simp [filter_cons, kept, accepted]
  | case5 gone later place ahead stays refused rest ih =>
    have shorter : (ahead.filter (· ∉ gone)).length ≤ later.length := by
      have bound := length_filter_le (fun other => decide (other ∉ gone)) ahead
      simp only [length_cons] at enough
      omega
    have found := ih shorter (undisturbed_cons undisturbed)
    have both : ahead.filter (· ∉ gone ++ rest.left later) = (ahead.filter (· ∉ gone)).filter (· ∉ rest.left later) := by
      rw [filter_filter]
      apply filter_congr
      intro other _
      rw [← Bool.decide_and, decide_eq_decide, mem_append, not_or, and_comm]
    rw [left_cons, filter_cons]
    split
    · rw [List.find?_cons_of_neg refused, both]
      exact found
    · rw [both]
      exact found

end Seek
