import Mathlib.Algebra.Group.Nat.Defs
import Mathlib.Algebra.Order.Ring.Nat
import Mathlib.Data.Nat.Init

/-! Unsigned machine words that remember whether every operation that led to them stayed in range. -/

structure Word (width : Nat) where
  bits : BitVec width
  inRange : Bool := true

namespace Word

variable {width : Nat}

def value (word : Word width) : Nat := word.bits.toNat

def literal (n : Nat) : Word width := ⟨BitVec.ofNat width n, decide (n < 2 ^ width)⟩

def add (one other : Word width) : Word width :=
  ⟨one.bits + other.bits,
    one.inRange && other.inRange && decide (one.value + other.value < 2 ^ width)⟩

def mul (one other : Word width) : Word width :=
  ⟨one.bits * other.bits,
    one.inRange && other.inRange && decide (one.value * other.value < 2 ^ width)⟩

/-- The word stands for `exact` as far as the width can say it, and it says so itself when it
    cannot. -/
structure Computes (word : Word width) (exact : Nat) : Prop where
  fits : word.inRange = true ↔ exact < 2 ^ width
  value : word.inRange = true → word.value = exact

theorem computes_literal (n : Nat) : (literal n : Word width).Computes n := by
  constructor
  · simp [literal]
  · intro inRange
    have small : n < 2 ^ width := by simpa [literal] using inRange
    simp [literal, Word.value, Nat.mod_eq_of_lt small]

theorem Computes.add {one other : Word width} {m n : Nat} (left : one.Computes m)
    (right : other.Computes n) : (one.add other).Computes (m + n) := by
  have fits : (one.add other).inRange = true ↔ m + n < 2 ^ width := by
    constructor
    · intro inRange
      simp only [Word.add, Bool.and_eq_true, decide_eq_true_eq] at inRange
      obtain ⟨⟨here, there⟩, sum⟩ := inRange
      rwa [left.value here, right.value there] at sum
    · intro sum
      have here := left.fits.mpr (by omega)
      have there := right.fits.mpr (by omega)
      simp [Word.add, here, there, left.value here, right.value there, sum]
  refine ⟨fits, fun inRange => ?_⟩
  have sum := fits.mp inRange
  have here := left.value (left.fits.mpr (by omega))
  have there := right.value (right.fits.mpr (by omega))
  simp only [Word.value] at here there
  simp only [Word.value, Word.add, BitVec.toNat_add, here, there, Nat.mod_eq_of_lt sum]

theorem Computes.mul {one other : Word width} {m n : Nat} (left : one.Computes m)
    (right : other.Computes n) (positive : 0 < m ∧ 0 < n ∨ m < 2 ^ width ∧ n < 2 ^ width) :
    (one.mul other).Computes (m * n) := by
  have factors (product : m * n < 2 ^ width) : m < 2 ^ width ∧ n < 2 ^ width := by
    rcases positive with ⟨first, second⟩ | small
    · exact ⟨lt_of_le_of_lt (Nat.le_mul_of_pos_right m second) product, lt_of_le_of_lt (Nat.le_mul_of_pos_left n first) product⟩
    · exact small
  have fits : (one.mul other).inRange = true ↔ m * n < 2 ^ width := by
    constructor
    · intro inRange
      simp only [Word.mul, Bool.and_eq_true, decide_eq_true_eq] at inRange
      obtain ⟨⟨here, there⟩, product⟩ := inRange
      rwa [left.value here, right.value there] at product
    · intro product
      have here := left.fits.mpr (factors product).1
      have there := right.fits.mpr (factors product).2
      simp [Word.mul, here, there, left.value here, right.value there, product]
  refine ⟨fits, fun inRange => ?_⟩
  have product := fits.mp inRange
  have here := left.value (left.fits.mpr (factors product).1)
  have there := right.value (right.fits.mpr (factors product).2)
  simp only [Word.value] at here there
  simp only [Word.value, Word.mul, BitVec.toNat_mul, here, there, Nat.mod_eq_of_lt product]

theorem Computes.scale {word : Word width} {m : Nat} (computes : word.Computes m) (factor : Nat)
    (nonzero : 0 < factor) (small : factor < 2 ^ width) :
    (word.mul (literal factor)).Computes (m * factor) := by
  rcases Nat.eq_zero_or_pos m with rfl | positive
  · exact computes.mul (computes_literal factor) (.inr ⟨Nat.two_pow_pos width, small⟩)
  · exact computes.mul (computes_literal factor) (.inl ⟨positive, nonzero⟩)

end Word
