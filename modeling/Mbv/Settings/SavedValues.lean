import Mbv.Settings.Save
import Mbv.Text.Trim

namespace Mbv.Settings

open Text Queue

/-! A value that is written is read back as it was. -/

/-! ### Numbers -/

theorem toInt_tryI64 {value : Nat} (small : value < 2 ^ 63) : (tryI64 value).toInt = value := by
  unfold tryI64
  rw [if_pos small, Int64.toInt_ofInt_of_le]
  · omega
  · omega

theorem asInteger_number {width : Nat} {value : BitVec width} (small : value.toNat < 2 ^ 63) :
    (number value).asInteger = some (value.toNat : Int) := by
  simp [number, Value.asInteger, toInt_tryI64 small]

theorem tryUnsigned_toNat {width : Nat} (value : BitVec width) : tryUnsigned width (value.toNat : Int) = some value := by
  have small := value.isLt
  unfold tryUnsigned
  rw [if_pos]
  · simp
  · exact ⟨by omega, by exact_mod_cast small⟩

theorem tryUnsigned_some {width : Nat} {value : Int} {found : BitVec width}
    (read : tryUnsigned width value = some found) : (found.toNat : Int) = value := by
  unfold tryUnsigned at read
  split at read
  · rename_i inside
    cases read
    have small : value.toNat < 2 ^ width := (Int.toNat_lt inside.1).mpr (by exact_mod_cast inside.2)
    rw [BitVec.toNat_ofNat, Nat.mod_eq_of_lt small, Int.toNat_of_nonneg inside.1]
  · cases read

theorem atLeastOne_toNat {width : Nat} {value : BitVec width} (positive : 1 ≤ value.toNat) :
    atLeastOne width (value.toNat : Int) = value := by
  unfold atLeastOne
  rw [max_eq_left (by omega), tryUnsigned_toNat]
  rfl

theorem asInteger_bounds {value : Value} {number : Int} (read : value.asInteger = some number) :
    -2 ^ 63 ≤ number ∧ number < 2 ^ 63 := by
  cases value with
  | integer value =>
    cases read
    exact ⟨Int64.le_toInt value, Int64.toInt_lt value⟩
  | _ => cases read

theorem atLeastOne_bounds {value : Int} (small : value < 2 ^ 63) :
    1 ≤ (atLeastOne 64 value).toNat ∧ (atLeastOne 64 value).toNat < 2 ^ 63 := by
  have inside : 0 ≤ max value 1 ∧ max value 1 < 2 ^ 64 := by omega
  have read : tryUnsigned 64 (max value 1) = some (atLeastOne 64 value) := by
    unfold atLeastOne tryUnsigned
    rw [if_pos inside]
    rfl
  have same := tryUnsigned_some read
  omega

theorem asInteger_integer32 (value : Int32) : (integer32 value).asInteger.bind tryI32 = some value := by
  have low := Int32.le_toInt value
  have high := Int32.toInt_lt value
  have kept : (Int64.ofInt value.toInt).toInt = value.toInt := Int64.toInt_ofInt_of_le (by omega) (by omega)
  simp only [integer32, Value.asInteger, Option.bind_some, kept, tryI32]
  rw [if_pos ⟨low, high⟩]
  simp

/-! ### Words -/

theorem panelSide_asStr (side : PanelSide) : PanelSide.parse side.asStr = some side := by
  cases side <;> decide

theorem feedKind_asStr (kind : FeedKind) : FeedKind.parse (FeedKind.asStr kind) = some kind := by
  cases kind <;> decide

theorem hexDigitValue_hexDigit : ∀ digit : Fin 16, hexDigitValue (hexDigit digit) = some digit.val := by
  decide

theorem hexDigits_of (byte : BitVec 8) : (hexByte byte).mapM hexDigitValue = some [byte.toNat / 16, byte.toNat % 16] := by
  have small := byte.isLt
  have high := hexDigitValue_hexDigit ⟨byte.toNat / 16, by omega⟩
  have low := hexDigitValue_hexDigit ⟨byte.toNat % 16, by omega⟩
  simp only at high low
  simp [hexByte, high, low]

theorem panelAccentColor_display (color : PanelAccentColor) : PanelAccentColor.parse color.display = some color := by
  obtain ⟨red, green, blue⟩ := color
  have first := red.isLt
  have second := green.isLt
  have third := blue.isLt
  have digits : (hexByte red ++ hexByte green ++ hexByte blue).mapM hexDigitValue =
      some [red.toNat / 16, red.toNat % 16, green.toNat / 16, green.toNat % 16, blue.toNat / 16, blue.toNat % 16] := by
    rw [List.mapM_append, List.mapM_append, hexDigits_of, hexDigits_of, hexDigits_of]
    rfl
  have length : (hexByte red ++ hexByte green ++ hexByte blue).length = 6 := rfl
  unfold PanelAccentColor.parse PanelAccentColor.display
  have stripped (rest : List Char) : stripHash ('#' :: rest) = rest := rfl
  rw [String.toList_ofList, stripped]
  dsimp only
  rw [if_pos length, digits]
  simp only [Option.map_some, List.foldl_cons, List.foldl_nil, Option.some.injEq, PanelAccentColor.mk.injEq]
  refine ⟨?_, ?_, ?_⟩ <;>
  · apply BitVec.eq_of_toNat_eq
    rw [BitVec.toNat_ofNat]
    omega

/-! ### Lists -/

theorem asStr_strings (texts : List String) : (texts.map Value.string).filterMap Value.asStr = texts := by
  induction texts with
  | nil => rfl
  | cons text texts ih => simp [Value.asStr, ih]

theorem mapM_strings (texts : List String) : (texts.map Value.string).mapM Value.asStr = some texts := by
  induction texts with
  | nil => rfl
  | cons text texts ih => simp [Value.asStr, ih]

end Mbv.Settings
