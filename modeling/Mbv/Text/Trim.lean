import Mbv.Text
import Mathlib.Data.List.DropRight

namespace Mbv.Text

def Trimmed (chars : List Char) : Prop :=
  (∀ c ∈ chars.head?, isWhitespace c = false) ∧ ∀ c ∈ chars.getLast?, isWhitespace c = false

instance (chars : List Char) : Decidable (Trimmed chars) :=
  decidable_of_decidable_of_iff (p := (chars.head?.all fun c => !isWhitespace c) = true ∧
    (chars.getLast?.all fun c => !isWhitespace c) = true)
    (by simp [Trimmed, Option.all_eq_true])

theorem toList_trim (text : String) : (trim text).toList = (text.toList.dropWhile isWhitespace).rdropWhile isWhitespace := by
  simp [trim, List.rdropWhile]

theorem trimmed_trim (text : String) : Trimmed (trim text).toList := by
  rw [toList_trim]
  constructor
  · intro c first
    obtain ⟨rest, split⟩ := List.rdropWhile_prefix isWhitespace (text.toList.dropWhile isWhitespace)
    have head : c ∈ (text.toList.dropWhile isWhitespace).head? := by
      rw [← split]
      cases kept : (text.toList.dropWhile isWhitespace).rdropWhile isWhitespace with
      | nil => simp [kept] at first
      | cons d kept' => simpa [kept] using first
    have found := List.head?_dropWhile_not isWhitespace text.toList
    rw [Option.mem_def.mp head] at found
    simpa using found
  · intro c last
    obtain ⟨present, here⟩ := List.mem_getLast?_eq_getLast last
    have stops := List.rdropWhile_last_not isWhitespace (text.toList.dropWhile isWhitespace) present
    rw [← here] at stops
    simpa using stops

theorem trim_of_trimmed {text : String} (trimmed : Trimmed text.toList) : trim text = text := by
  rw [← String.toList_inj, toList_trim]
  have front : text.toList.dropWhile isWhitespace = text.toList := by
    cases chars : text.toList with
    | nil => rfl
    | cons c rest => simp [trimmed.1 c (by simp [chars])]
  rw [front, List.rdropWhile_eq_self_iff]
  intro present
  simp [trimmed.2 _ (List.getLast?_eq_some_getLast present)]

theorem trim_trim (text : String) : trim (trim text) = trim text := trim_of_trimmed (trimmed_trim text)

theorem mem_of_mem_trim {text : String} {c : Char} (member : c ∈ (trim text).toList) : c ∈ text.toList := by
  rw [toList_trim] at member
  exact (List.dropWhile_suffix _).subset ((List.rdropWhile_prefix _ _).subset member)

end Mbv.Text
