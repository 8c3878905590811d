import Mbv.Sequence.Delimited

/-! ### Texts behind their byte lengths -/

namespace Framed

theorem repr_injective {m n : Nat} (same : m.repr = n.repr) : m = n := by
  have digits : Nat.toDigits 10 m = Nat.toDigits 10 n := by
    rw [← Nat.toList_repr, ← Nat.toList_repr, same]
  rw [← Nat.ofDigitChars_ten_toDigits (n := m), digits, Nat.ofDigitChars_ten_toDigits]

theorem notMem_repr {c : Char} (plain : c.isDigit = false) (n : Nat) : c ∉ n.repr.toList := by
  intro member
  rw [Nat.toList_repr] at member
  have digit := Nat.isDigit_of_mem_toDigits (by omega) (by omega) member
  rw [plain] at digit
  cases digit

theorem append_inj_of_size {one other rest rest' : String}
    (same : one ++ rest = other ++ rest') (size : one.utf8ByteSize = other.utf8ByteSize) :
    one = other ∧ rest = rest' := by
  have bytes : one.toByteArray ++ rest.toByteArray = other.toByteArray ++ rest'.toByteArray := by
    rw [← String.toByteArray_append, ← String.toByteArray_append, same]
  obtain rfl := String.toByteArray_inj.mp (ByteArray.append_inj_left bytes size)
  exact ⟨rfl, (String.append_right_inj one).mp same⟩

def frame (text : String) : String := text.utf8ByteSize.repr ++ ":" ++ text

theorem frame_append_inj {one other rest rest' : String}
    (same : frame one ++ rest = frame other ++ rest') : one = other ∧ rest = rest' := by
  have chars := congrArg String.toList same
  simp only [frame, String.toList_append, List.append_assoc] at chars
  obtain ⟨digits, after⟩ := Delimited.record_unique (notMem_repr (by decide) _) (notMem_repr (by decide) _) chars
  have size := repr_injective (String.toList_injective digits)
  rw [← String.toList_append, ← String.toList_append] at after
  exact append_inj_of_size (String.toList_injective after) size

end Framed
