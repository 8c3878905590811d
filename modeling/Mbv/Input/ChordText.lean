import Mbv.Input.Chord
import Mbv.Text.Trim

namespace Mbv.Input

open Text List

/-! A chord that was read is written as a text that reads back as the same chord. -/

def ChordKey.Readable (mods : KeyMods) : ChordKey → Prop
  | .f number => 1 ≤ number.toNat ∧ number.toNat ≤ 12
  | .char c => c = ' ' ∨ isWhitespace c = false ∧ (c = '+' → mods = {})
  | _ => True

def Chord.Readable (chord : Chord) : Prop := chord.key.Readable chord.mods

/-! ### What is read is readable -/

variable {mods : KeyMods}

theorem named_readable : ∀ named ∈ namedKeys, named.2.Readable mods := by
  intro named member
  simp only [namedKeys, mem_cons, not_mem_nil, or_false] at member
  rcases member with rfl | rfl | rfl | rfl | rfl | rfl | rfl | rfl | rfl | rfl | rfl | rfl | rfl |
    rfl | rfl | rfl | rfl | rfl | rfl
  all_goals simp [ChordKey.Readable]

variable {key : ChordKey}

theorem functionKey_readable {chars : List Char} (found : functionKey chars = some key) : key.Readable mods := by
  unfold functionKey at found
  split at found
  · rename_i number
    cases parsed : parseU8 number with
    | none => simp [parsed] at found
    | some number =>
      simp only [parsed] at found
      split at found
      · rename_i inside
        cases found
        simp only [Bool.and_eq_true, decide_eq_true_eq] at inside
        have small : (UInt8.ofNat number).toNat = number := by
          rw [UInt8.toNat_ofNat']
          omega
        simpa [ChordKey.Readable, small] using inside
      · cases found
  · cases found

theorem parseKey_readable {token : String} (clean : '+' ∉ token.toList)
    (read : parseKey token = .ok key) : key.Readable mods := by
  unfold parseKey at read
  dsimp only at read
  split at read
  · cases read
  · rename_i c chars
    cases read
    have inside : c ∈ (trim token).toList := by simp [chars]
    have edge := (trimmed_trim token).1 c (by simp [chars])
    refine .inr ⟨edge, fun plus => ?_⟩
    exact absurd (mem_of_mem_trim (plus ▸ inside)) clean
  · split at read
    · rename_i named found
      cases read
      exact named_readable named (mem_of_find?_eq_some found)
    · split at read
      · rename_i key' found
        cases read
        exact functionKey_readable found
      · cases read

theorem splitPlus_clean {text token : String} (member : token ∈ splitPlus text) : '+' ∉ token.toList := by
  obtain ⟨chars, here, rfl⟩ := mem_map.mp member
  rw [String.toList_ofList]
  have clean : ∀ whole : List Char, ∀ part ∈ whole.splitOn '+', '+' ∉ part := by
    intro whole
    induction whole with
    | nil => simp
    | cons c rest ih =>
      rw [splitOn_cons_eq_if_modifyHead]
      split
      · intro part member
        rcases mem_cons.mp member with here | later
        · simp [here]
        · exact ih part later
      · rename_i other
        intro part member
        obtain ⟨head, tail, parts⟩ := exists_cons_of_ne_nil (splitOn_ne_nil '+' rest)
        rw [parts] at ih member
        rcases mem_cons.mp member with here | later
        · have first := ih head mem_cons_self
          have apart : c ≠ '+' := by simpa using other
          rw [here, mem_cons, not_or]
          exact ⟨fun plus => apart plus.symm, first⟩
        · exact ih part (mem_cons_of_mem _ later)
  exact clean text.toList chars here

variable {chord : Chord}

theorem parse_readable {text : String} (read : Chord.parse text = .ok chord) :
    chord.Readable := by
  unfold Chord.parse at read
  dsimp only at read
  split at read
  · cases read
  · rename_i c chars
    cases read
    exact .inr ⟨(trimmed_trim text).1 c (by simp [chars]), fun _ => rfl⟩
  · obtain ⟨token, last⟩ : ∃ token, (splitPlus (trim text)).getLastD "" = token := ⟨_, rfl⟩
    rw [last] at read
    cases mods : parseModifiers (splitPlus (trim text)).dropLast {} with
    | error error => simp [mods] at read
    | ok mods' =>
      cases key : parseKey token with
      | error error => simp [mods, key] at read
      | ok key' =>
        simp only [mods, key, Except.ok.injEq] at read
        subst read
        refine parseKey_readable ?_ key
        have present : splitPlus (trim text) ≠ [] := by simp [splitPlus]
        obtain ⟨head, tokens, parts⟩ := exists_cons_of_ne_nil present
        refine @splitPlus_clean (trim text) token ?_
        rw [parts, ← last, parts, getLastD_cons]
        exact getLastD_mem_cons

/-! ### What is readable reads back -/

def modifierTokens (mods : KeyMods) : List (List Char) :=
  (if mods.ctrl then ["Ctrl".toList] else []) ++ (if mods.shift then ["Shift".toList] else []) ++
    if mods.alt then ["Alt".toList] else []

def modifierText (mods : KeyMods) : String :=
  (if mods.ctrl then "Ctrl+" else "") ++ (if mods.shift then "Shift+" else "") ++
    if mods.alt then "Alt+" else ""

theorem toList_display (chord : Chord) :
    chord.display.toList = (modifierText chord.mods).toList ++ (Chord.keyText chord.key).toList := by
  simp [Chord.display, modifierText]

theorem modifierText_tokens {chars : List Char} :
    (modifierText mods).toList ++ chars = ['+'].intercalate (modifierTokens mods ++ [chars]) := by
  obtain ⟨ctrl, shift, alt⟩ := mods
  cases ctrl <;> cases shift <;> cases alt <;> simp [modifierText, modifierTokens, intercalate_cons_cons]

theorem modifierTokens_clean : ∀ token ∈ modifierTokens mods, '+' ∉ token := by
  obtain ⟨ctrl, shift, alt⟩ := mods
  cases ctrl <;> cases shift <;> cases alt <;> decide

theorem parseModifiers_tokens (mods : KeyMods) : parseModifiers ((modifierTokens mods).map String.ofList) {} = .ok mods := by
  obtain ⟨ctrl, shift, alt⟩ := mods
  cases ctrl <;> cases shift <;> cases alt <;> decide

/-- The texts of the keys that are no characters, and of the space. -/
def nameable : List ChordKey :=
  [.backspace, .enter, .esc, .left, .right, .up, .down, .home, .endKey, .pageUp, .pageDown, .tab,
    .backTab, .delete, .insert, .f 1, .f 2, .f 3, .f 4, .f 5, .f 6, .f 7, .f 8, .f 9, .f 10, .f 11,
    .f 12, .char ' ']

theorem nameable_parse : ∀ key ∈ nameable, parseKey (Chord.keyText key) = .ok key := by
  decide +kernel

theorem nameable_text : ∀ key ∈ nameable, '+' ∉ (Chord.keyText key).toList ∧
    2 ≤ (Chord.keyText key).toList.length ∧ Trimmed (Chord.keyText key).toList := by decide +kernel

theorem readable_cases (readable : key.Readable mods) :
    key ∈ nameable ∨ ∃ c, key = .char c ∧ c ≠ ' ' ∧ isWhitespace c = false ∧ (c = '+' → mods = {}) := by
  cases key with
  | f number =>
    left
    obtain ⟨low, high⟩ := readable
    have cases12 : number = 1 ∨ number = 2 ∨ number = 3 ∨ number = 4 ∨ number = 5 ∨ number = 6 ∨
        number = 7 ∨ number = 8 ∨ number = 9 ∨ number = 10 ∨ number = 11 ∨ number = 12 := by
      simp only [← UInt8.toNat_inj]
      simp
      omega
    rcases cases12 with rfl | rfl | rfl | rfl | rfl | rfl | rfl | rfl | rfl | rfl | rfl | rfl <;> decide
  | char c =>
    by_cases space : c = ' '
    · left
      rw [space]
      decide
    · exact .inr ⟨c, rfl, space, readable.resolve_left space⟩
  | _ => left; decide

theorem keyText_char {c : Char} (letter : c ≠ ' ') : (Chord.keyText (.char c)).toList = [c] := by
  simp [Chord.keyText, letter]

theorem parseKey_char {c : Char} (letter : c ≠ ' ') (visible : isWhitespace c = false) :
    parseKey (Chord.keyText (.char c)) = .ok (.char c) := by
  have fixed : trim (Chord.keyText (.char c)) = Chord.keyText (.char c) :=
    trim_of_trimmed (by simp [Trimmed, keyText_char letter, visible])
  unfold parseKey
  simp only [fixed, keyText_char letter]

theorem keyText_trimmed (readable : key.Readable mods) :
    (Chord.keyText key).toList ≠ [] ∧ Trimmed (Chord.keyText key).toList := by
  rcases readable_cases readable with name | ⟨c, rfl, letter, visible, -⟩
  · obtain ⟨-, long, trimmed⟩ := nameable_text key name
    exact ⟨ne_nil_of_length_pos (by omega), trimmed⟩
  · simp [Trimmed, keyText_char letter, visible]

theorem display_trimmed (readable : chord.Readable) : Trimmed chord.display.toList := by
  obtain ⟨present, first, last⟩ := keyText_trimmed readable
  rw [toList_display]
  constructor
  · obtain ⟨⟨ctrl, shift, alt⟩, key⟩ := chord
    cases ctrl <;> cases shift <;> cases alt <;> simp [modifierText] <;> first | decide | exact first
  · rw [List.getLast?_append_of_ne_nil _ present]
    exact last

theorem splitPlus_display (clean : '+' ∉ (Chord.keyText chord.key).toList) : splitPlus chord.display =
      (modifierTokens chord.mods).map String.ofList ++ [Chord.keyText chord.key] := by
  unfold splitPlus
  rw [toList_display, modifierText_tokens, splitOn_intercalate]
  · simp
  · intro token member
    rcases mem_append.mp member with modifier | last
    · exact modifierTokens_clean token modifier
    · rw [mem_singleton.mp last]
      exact clean
  · simp

theorem parse_tokens {text : String} {tokens : List String} {last : String}
    (trimmed : Trimmed text.toList) (long : 2 ≤ text.toList.length)
    (split : splitPlus text = tokens ++ [last]) (read : parseModifiers tokens {} = .ok mods)
    (named : parseKey last = .ok key) : Chord.parse text = .ok ⟨mods, key⟩ := by
  unfold Chord.parse
  rw [trim_of_trimmed trimmed]
  dsimp only
  split
  · rename_i empty
    simp [empty] at long
  · rename_i single
    simp [single] at long
  · simp [split, read, named]

theorem parse_single {c : Char} (visible : isWhitespace c = false) : Chord.parse (String.ofList [c]) = .ok ⟨{}, .char c⟩ := by
  have fixed : trim (String.ofList [c]) = String.ofList [c] := trim_of_trimmed (by simp [Trimmed, visible])
  unfold Chord.parse
  rw [fixed]
  simp

theorem parse_display (readable : chord.Readable) : Chord.parse chord.display = .ok chord := by
  have trimmed := display_trimmed readable
  obtain ⟨mods, key⟩ := chord
  rcases readable_cases readable with name | ⟨c, rfl, letter, visible, plus⟩
  · obtain ⟨clean, long, -⟩ := nameable_text key name
    refine parse_tokens trimmed ?_ (splitPlus_display clean) (parseModifiers_tokens mods) (nameable_parse key name)
    rw [toList_display, length_append]
    exact Nat.le_add_left_of_le long
  · by_cases bare : mods = {}
    · subst bare
      have text : Chord.display ⟨{}, .char c⟩ = String.ofList [c] := by
        rw [← String.toList_inj, toList_display]
        simp [modifierText, keyText_char letter]
      rw [text]
      exact parse_single visible
    · have clean : '+' ∉ (Chord.keyText (.char c)).toList := by
        rw [keyText_char letter, mem_singleton]
        exact fun same => bare (plus same.symm)
      refine parse_tokens trimmed ?_ (splitPlus_display clean) (parseModifiers_tokens mods) (parseKey_char letter visible)
      rw [toList_display, keyText_char letter]
      obtain ⟨ctrl, shift, alt⟩ := mods
      revert bare
      cases ctrl <;> cases shift <;> cases alt <;> simp [modifierText]

end Mbv.Input
