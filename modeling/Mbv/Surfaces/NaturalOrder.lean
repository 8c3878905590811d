import Mbv.Surfaces.TvTree

namespace Mbv.Surfaces

open List

/-! ### Runs of digits by value -/

inductive Symbol where
  | char (c : Char)
  | run (digits : List Char)
deriving DecidableEq

def value (digits : List Char) : Nat := Nat.ofDigitChars 10 digits 0

namespace Symbol

/-- A run stands by its value among the runs, and by its first digit among the other characters. -/
def compare : Symbol → Symbol → Ordering
  | char c, char d => Ord.compare c d
  | char c, run digits => Ord.compare c (digits.headD '0')
  | run digits, char d => Ord.compare (digits.headD '0') d
  | run digits, run others => Ord.compare (value digits) (value others)

def spell : Symbol → List Char
  | char c => [c]
  | run digits => padDigits digits

instance : Std.OrientedCmp compare where
  eq_swap {one other} := by
    cases one <;> cases other
    · exact @Std.OrientedCmp.eq_swap Char Ord.compare _ _ _
    · exact @Std.OrientedCmp.eq_swap Char Ord.compare _ _ _
    · exact @Std.OrientedCmp.eq_swap Char Ord.compare _ _ _
    · exact @Std.OrientedCmp.eq_swap Nat Ord.compare _ _ _

end Symbol

def closeRun (digits : List Char) : List Symbol := if digits.isEmpty then [] else [.run digits]

/-- The characters of a text in lower case, with each maximal run of digits as one symbol. -/
def symbolsFrom (digits : List Char) : List Char → List Symbol
  | [] => closeRun digits
  | c :: rest =>
    if c.isDigit then symbolsFrom (digits ++ [c]) rest
    else closeRun digits ++ .char c.toLower :: symbolsFrom [] rest

def symbols (s : String) : List Symbol := symbolsFrom [] s.toList

def naturalCompare (a b : String) : Ordering := (symbols a).compareLex Symbol.compare (symbols b)

/-! ### Where the keys sort by value -/

def width (digits : List Char) : Nat := max 8 digits.length

/-- How what follows a run compares with a further digit. -/
def follows : List Symbol → Ordering
  | .char c :: _ => compare c '0'
  | _ => .lt

/-- A run that is shorter in the key stands to the leading digits of the longer one, and what
    follows it to the others, as by value. -/
def Leads (short : List Char) (rest : List Symbol) (long : List Char) (others : List Symbol) :
    Prop :=
  (compare (value short) (value (long.take (width short)))).then (follows rest) =
    (compare (value short) (value long)).then (rest.compareLex Symbol.compare others)

/-- The texts part where not two runs of different lengths in the key stand, or the longer run's
    leading digits decide as its value does. -/
def Sorts : List Symbol → List Symbol → Prop
  | .char c :: xs, .char d :: ys => c = d → Sorts xs ys
  | .run digits :: xs, .run others :: ys =>
    if width digits = width others then value digits = value others → Sorts xs ys
    else if width digits < width others then Leads digits xs others ys
    else Leads others ys digits xs
  | _, _ => True

/-! ### Digits in the key -/

structure Digits (digits : List Char) : Prop where
  filled : digits ≠ []
  all : ∀ c ∈ digits, c.isDigit = true

/-- Symbols as a text has them: no digit beside the runs, and no two runs side by side. -/
def Split : List Symbol → Prop
  | [] => True
  | .char c :: rest => c.isDigit = false ∧ Split rest
  | .run digits :: rest =>
    Digits digits ∧ (∀ others rest', rest ≠ .run others :: rest') ∧ Split rest

theorem isDigit_iff (c : Char) : c.isDigit = true ↔ 48 ≤ c.toNat ∧ c.toNat ≤ 57 := Char.isDigit_iff_toNat

theorem toLower_isDigit (c : Char) : c.toLower.isDigit = c.isDigit := by
  unfold Char.toLower
  split
  · rename_i upper
    have bounds : 65 ≤ c.val.toNat ∧ c.val.toNat ≤ 90 := upper
    have other : ¬ c.isDigit = true := by
      rw [isDigit_iff]
      exact fun digit => absurd digit.2 (Nat.not_le.mpr (Nat.lt_of_lt_of_le (by omega) bounds.1))
    rw [Bool.eq_false_iff.mpr other, Bool.eq_false_iff, ne_eq, isDigit_iff]
    show ¬ (48 ≤ (c.val + 32).toNat ∧ (c.val + 32).toNat ≤ 57)
    rw [UInt32.toNat_add]
    have wide : (32 : UInt32).toNat = 32 := rfl
    omega
  · rfl

theorem compare_char_lt {c d : Char} (less : c.toNat < d.toNat) : compare c d = .lt := by
  show compareOfLessAndEq c d = .lt
  exact if_pos less

theorem compare_char_gt {c d : Char} (less : d.toNat < c.toNat) : compare c d = .gt := by
  rw [@Std.OrientedCmp.eq_swap Char compare, compare_char_lt less]
  rfl

theorem naturalSortKeyFrom_eq (digits text : List Char) :
    naturalSortKeyFrom digits text = (symbolsFrom digits text).flatMap Symbol.spell := by
  have closed (digits : List Char) : (closeRun digits).flatMap Symbol.spell = padDigits digits := by
    cases digits <;> simp [closeRun, padDigits, Symbol.spell]
  induction text generalizing digits with
  | nil => exact (closed digits).symm
  | cons c rest ih =>
    rw [naturalSortKeyFrom, symbolsFrom]
    split
    · exact ih _
    · rw [flatMap_append, closed, List.flatMap_cons, ih]
      rfl

theorem symbolsFrom_split {digits : List Char} (all : ∀ c ∈ digits, c.isDigit = true)
    (text : List Char) : Split (symbolsFrom digits text) := by
  have closed {digits : List Char} (all : ∀ c ∈ digits, c.isDigit = true) {rest : List Symbol}
      (plain : ∀ others rest', rest ≠ .run others :: rest') (split : Split rest) :
      Split (closeRun digits ++ rest) := by
    cases digits with
    | nil => exact split
    | cons c digits => exact ⟨⟨cons_ne_nil _ _, all⟩, plain, split⟩
  induction text generalizing digits with
  | nil =>
    have ended := @closed _ all [] (by simp) trivial
    rwa [append_nil] at ended
  | cons c rest ih =>
    rw [symbolsFrom]
    split
    · rename_i digit
      refine ih fun d member => ?_
      rcases mem_append.mp member with early | last
      · exact all d early
      · rw [mem_singleton.mp last]
        exact digit
    · rename_i other
      refine closed all (by simp) ⟨?_, ih (by simp)⟩
      rw [toLower_isDigit]
      simpa using other

variable {digits others : List Char}

theorem value_append (digits others : List Char) :
    value (digits ++ others) = 10 ^ others.length * value digits + value others := by
  unfold value
  rw [Nat.ofDigitChars_append, Nat.ofDigitChars_eq_ofDigitChars_zero]

theorem value_lt (all : ∀ c ∈ digits, c.isDigit = true) : value digits < 10 ^ digits.length := by
  induction digits with
  | nil => exact Nat.one_pos
  | cons c digits ih =>
    have digit := (isDigit_iff c).mp (all c mem_cons_self)
    have rest := ih fun d member => all d (mem_cons_of_mem c member)
    have head : value [c] = c.toNat - 48 := by
      simp [value, Nat.ofDigitChars_cons]
    rw [← List.singleton_append, value_append, head, length_append, length_singleton, Nat.pow_add, Nat.pow_one]
    have more : 10 ^ digits.length * (c.toNat - 48) ≤ 10 ^ digits.length * 9 := Nat.mul_le_mul_left _ (by omega)
    omega

theorem compare_digits {rest rest' : List Char} (all : ∀ c ∈ digits, c.isDigit = true)
    (all' : ∀ c ∈ others, c.isDigit = true) (same : digits.length = others.length) :
    compare (digits ++ rest) (others ++ rest') = (compare (value digits) (value others)).then (compare rest rest') := by
  induction digits generalizing others with
  | nil =>
    cases others with
    | nil => simp
    | cons => cases same
  | cons c digits ih =>
    cases others with
    | nil => cases same
    | cons d others =>
      have digit := (isDigit_iff c).mp (all c mem_cons_self)
      have digit' := (isDigit_iff d).mp (all' d mem_cons_self)
      have later := fun e member => all e (mem_cons_of_mem c member)
      have later' := fun e member => all' e (mem_cons_of_mem d member)
      have lengths : digits.length = others.length := Nat.succ.inj same
      have head (c : Char) : value [c] = c.toNat - 48 := by
        simp [value, Nat.ofDigitChars_cons]
      have least := value_lt later
      have least' := value_lt later'
      rw [List.cons_append, List.cons_append, List.compare_cons_cons, ih later later' lengths,
        ← List.singleton_append (x := c), ← List.singleton_append (x := d), value_append,
        value_append, head, head, lengths]
      rw [lengths] at least
      rcases Nat.lt_trichotomy c.toNat d.toNat with less | equal | more
      · have below : 10 ^ others.length * (c.toNat - 48) + value digits <
            10 ^ others.length * (d.toNat - 48) + value others := by
          have step : 10 ^ others.length * (c.toNat - 48 + 1) ≤ 10 ^ others.length * (d.toNat - 48) :=
            Nat.mul_le_mul_left _ (by omega)
          rw [Nat.mul_add, Nat.mul_one] at step
          omega
        rw [compare_char_lt less, Nat.compare_eq_lt.mpr below]
        rfl
      · have char : c = d := Char.toNat_inj.mp equal
        rw [char, Std.ReflOrd.compare_self]
        simp only [Ordering.then, Nat.compare_eq_ite_lt, Nat.add_lt_add_iff_left]
      · have below : 10 ^ others.length * (d.toNat - 48) + value others <
            10 ^ others.length * (c.toNat - 48) + value digits := by
          have step : 10 ^ others.length * (d.toNat - 48 + 1) ≤ 10 ^ others.length * (c.toNat - 48) :=
            Nat.mul_le_mul_left _ (by omega)
          rw [Nat.mul_add, Nat.mul_one] at step
          omega
        rw [compare_char_gt more, Nat.compare_eq_gt.mpr below]
        rfl

theorem compare_beside {c d e : Char} (other : c.isDigit = false) (digit : d.isDigit = true)
    (digit' : e.isDigit = true) : compare c d = compare c e ∧ compare c d ≠ .eq := by
  have bounds := (isDigit_iff d).mp digit
  have bounds' := (isDigit_iff e).mp digit'
  rcases Nat.lt_or_ge c.toNat 48 with low | high
  · rw [compare_char_lt (show c.toNat < d.toNat by omega), compare_char_lt (show c.toNat < e.toNat by omega)]
    exact ⟨rfl, by simp⟩
  · have above : 57 < c.toNat := by
      by_contra within
      rw [(isDigit_iff c).mpr ⟨high, Nat.not_lt.mp within⟩] at other
      cases other
    rw [compare_char_gt (show d.toNat < c.toNat by omega), compare_char_gt (show e.toNat < c.toNat by omega)]
    exact ⟨rfl, by simp⟩

namespace Digits

theorem padded (run : Digits digits) : (∀ c ∈ padDigits digits, c.isDigit = true) ∧
    (padDigits digits).length = width digits ∧ value (padDigits digits) = value digits := by
  have filled : digits.isEmpty = false := by
    rw [Bool.eq_false_iff, ne_eq, List.isEmpty_iff]
    exact run.filled
  rw [padDigits, filled]
  refine ⟨fun c member => ?_, ?_, ?_⟩
  · rcases mem_append.mp member with zero | own
    · rw [(mem_replicate.mp zero).2]
      rfl
    · exact run.all c own
  · simp only [Bool.false_eq_true, if_false, length_append, length_replicate, width]
    omega
  · have zeros : value (List.replicate (8 - digits.length) '0') = 0 := by
      simp [value]
    rw [if_neg (by simp), value_append, zeros, Nat.mul_zero, Nat.zero_add]

theorem head (run : Digits digits) : (digits.headD '0').isDigit = true := by
  cases digits with
  | nil => exact absurd rfl run.filled
  | cons c digits => exact run.all c mem_cons_self

theorem padded_cons (run : Digits digits) : ∃ c rest, padDigits digits = c :: rest ∧ c.isDigit = true := by
  obtain ⟨all, length, -⟩ := run.padded
  cases spelled : padDigits digits with
  | nil =>
    rw [spelled] at length
    simp only [width, length_nil] at length
    omega
  | cons c rest => exact ⟨c, rest, rfl, all c (spelled ▸ mem_cons_self)⟩

end Digits

variable {rest : List Symbol}

theorem compare_follows (split : Split rest) (plain : ∀ others rest', rest ≠ .run others :: rest')
    {d : Char} (digit : d.isDigit = true) (tail : List Char) :
    compare (rest.flatMap Symbol.spell) (d :: tail) = follows rest := by
  cases rest with
  | nil => rfl
  | cons first rest =>
    cases first with
    | run others => exact absurd rfl (plain others rest)
    | char c =>
      obtain ⟨same, apart⟩ := @compare_beside c d '0' split.1 digit rfl
      rw [List.flatMap_cons, Symbol.spell, List.singleton_append, List.compare_cons_cons, follows, ← same]
      cases side : compare c d with
      | eq => exact absurd side apart
      | lt | gt => rfl

theorem compare_shorter (split : Split (.run digits :: rest)) (run : Digits others)
    (shorter : width digits < width others) (tail : List Char) :
    compare (padDigits digits ++ rest.flatMap Symbol.spell) (padDigits others ++ tail) =
      (compare (value digits) (value (others.take (width digits)))).then (follows rest) := by
  obtain ⟨digitsRun, plain, split⟩ := split
  obtain ⟨all, length, same⟩ := digitsRun.padded
  have long : width digits < others.length := by
    unfold width at shorter ⊢
    omega
  have bare : padDigits others = others := by
    have eight : 8 - others.length = 0 := by
      unfold width at long
      omega
    rw [padDigits, eight]
    split <;> simp_all
  have leads : (others.take (width digits)).length = width digits := by
    rw [length_take]
    omega
  rw [bare, ← take_append_drop (width digits) others, append_assoc]
  cases behind : others.drop (width digits) with
  | nil =>
    rw [drop_eq_nil_iff] at behind
    omega
  | cons d more =>
    have digit : d.isDigit = true := run.all d (mem_of_mem_drop (behind ▸ mem_cons_self))
    rw [compare_digits all (fun c member => run.all c (mem_of_mem_take member))
      (length.trans leads.symm), same, List.cons_append, compare_follows split plain digit,
      take_left' leads]

theorem then_right_iff {first second third : Ordering} :
    first.then second = first.then third ↔ (first = .eq → second = third) := by
  cases first <;> simp

theorem compare_spelled_iff {xs ys : List Symbol} (split : Split xs) (split' : Split ys) :
    compare (xs.flatMap Symbol.spell) (ys.flatMap Symbol.spell) = xs.compareLex Symbol.compare ys ↔ Sorts xs ys := by
  have opened {run : List Char} {rest : List Symbol} (split : Split (.run run :: rest)) :
      ∃ c tail, (Symbol.run run :: rest).flatMap Symbol.spell = c :: tail ∧ c.isDigit = true ∧
        (run.headD '0').isDigit = true := by
    obtain ⟨c, tail, spelled, digit⟩ := split.1.padded_cons
    exact ⟨c, tail ++ rest.flatMap Symbol.spell, by simp [Symbol.spell, spelled], digit, split.1.head⟩
  induction xs generalizing ys with
  | nil =>
    cases ys with
    | nil => exact iff_of_true rfl trivial
    | cons y ys =>
      cases y with
      | char d => exact iff_of_true rfl trivial
      | run others =>
        obtain ⟨c, tail, spelled, -⟩ := opened split'
        rw [spelled]
        exact iff_of_true rfl trivial
  | cons x xs ih =>
    cases x with
    | char c =>
      cases ys with
      | nil => exact iff_of_true rfl trivial
      | cons y ys =>
        cases y with
        | char d =>
          simp only [List.flatMap_cons, Symbol.spell, List.singleton_append,
            List.compare_cons_cons, List.compareLex_cons_cons, Symbol.compare, then_right_iff,
            Sorts, Std.LawfulEqOrd.compare_eq_iff_eq, ih split.2 split'.2]
        | run others =>
          obtain ⟨d, tail, spelled, digit, head⟩ := opened split'
          obtain ⟨same, apart⟩ := compare_beside split.1 digit head
          rw [spelled, List.flatMap_cons, Symbol.spell, List.singleton_append,
            List.compare_cons_cons, List.compareLex_cons_cons, Symbol.compare, ← same,
            then_right_iff]
          exact iff_of_true (fun equal => absurd equal apart) trivial
    | run digits =>
      cases ys with
      | nil =>
        obtain ⟨c, tail, spelled, -⟩ := opened split
        rw [spelled]
        exact iff_of_true rfl trivial
      | cons y ys =>
        cases y with
        | char d =>
          obtain ⟨c, tail, spelled, digit, head⟩ := opened split
          obtain ⟨same, apart⟩ := compare_beside split'.1 digit head
          rw [spelled, List.flatMap_cons, Symbol.spell, List.singleton_append,
            List.compare_cons_cons, List.compareLex_cons_cons, Symbol.compare,
            @Std.OrientedCmp.eq_swap Char compare _ c d,
            @Std.OrientedCmp.eq_swap Char compare _ (digits.headD '0') d, ← same, then_right_iff]
          refine iff_of_true (fun equal => absurd ?_ apart) trivial
          exact Ordering.swap_eq_eq.mp equal
        | run others =>
          obtain ⟨all, length, kept⟩ := split.1.padded
          obtain ⟨all', length', kept'⟩ := split'.1.padded
          simp only [List.flatMap_cons, Symbol.spell, List.compareLex_cons_cons, Symbol.compare, Sorts]
          split
          · rename_i same
            rw [compare_digits all all' (length.trans (same.trans length'.symm)), kept, kept', then_right_iff]
            exact imp_congr Nat.compare_eq_eq (ih split.2.2 split'.2.2)
          · split
            · rename_i shorter
              rw [compare_shorter split split'.1 shorter]
              rfl
            · have shorter : width others < width digits := by omega
              rw [@Std.OrientedCmp.eq_swap (List Char) compare, compare_shorter split' split.1 shorter,
                @Std.OrientedCmp.eq_swap _ (List.compareLex Symbol.compare) _ xs ys,
                @Std.OrientedCmp.eq_swap Nat compare _ (value digits) (value others),
                ← Ordering.swap_then, Ordering.swap_inj]
              rfl

end Mbv.Surfaces
