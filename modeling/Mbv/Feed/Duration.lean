import Mbv.Machine.Word
import Mbv.Queue.Item
import Mbv.Text
import Mathlib.Data.List.Basic

namespace Mbv.Feed

open Mbv.Queue Mbv.Text

def isAsciiDigit (c : Char) : Bool := 0x30 ≤ c.toNat && c.toNat ≤ 0x39

def digitsValue (digits : List Char) : Nat :=
  digits.foldl (fun value digit => value * 10 + (digit.toNat - 0x30)) 0

def unsignedDecimal (field : List Char) : Option Nat :=
  let digits := match field with
    | '+' :: digits => digits
    | _ => field
  if digits ≠ [] && digits.all isAsciiDigit then some (digitsValue digits) else none

/-- `u64::from_str`: a number of 2^64 or more is refused. -/
def parseU64 (field : List Char) : Option (Word 64) :=
  match unsignedDecimal field with
  | some value => if value < 2 ^ 64 then some (Word.literal value) else none
  | none => none

def durationSecs (text : String) : Option (Word 64) :=
  match (trim text).toList.splitOn ':' with
  | [s] => parseU64 s
  | [m, s] => do
    let m ← parseU64 m
    let s ← parseU64 s
    if s.value > 59 then none else some ((m.mul (Word.literal 60)).add s)
  | [h, m, s] => do
    let h ← parseU64 h
    let m ← parseU64 m
    let s ← parseU64 s
    if m.value > 59 || s.value > 59 then none
    else some (((h.mul (Word.literal 3600)).add (m.mul (Word.literal 60))).add s)
  | _ => none

def durationTicks (text : String) : Option (Word 64) :=
  (durationSecs text).map fun secs => secs.mul (Word.literal ticksPerSecond.toNat)

/-! ### What the text denotes -/

def durationFields (text : String) : Option (List Nat) :=
  ((trim text).toList.splitOn ':').mapM unsignedDecimal

def sexagesimal (fields : List Nat) : Nat := fields.foldl (fun total field => total * 60 + field) 0

def DenotesSeconds (text : String) (seconds : Nat) : Prop :=
  ∃ fields, durationFields text = some fields ∧ fields.length ≤ 3 ∧ sexagesimal fields = seconds

/-- What the parser takes: each field a `u64`, the minutes and seconds after another field at most
    59. -/
structure Accepted (fields : List Nat) : Prop where
  few : fields.length ≤ 3
  words : ∀ field ∈ fields, field < 2 ^ 64
  sixtieths : ∀ field ∈ fields.tail, field ≤ 59

theorem parseU64_eq_some {field : List Char} {word : Word 64} : parseU64 field = some word ↔
      ∃ value, unsignedDecimal field = some value ∧ value < 2 ^ 64 ∧ word = Word.literal value := by
  cases decimal : unsignedDecimal field with
  | none => simp [parseU64, decimal]
  | some value =>
    by_cases small : value < 2 ^ 64
    · have parsed : parseU64 field = some (Word.literal value) := by
        simp only [parseU64, decimal, if_pos small]
      rw [parsed]
      constructor
      · rintro ⟨⟩
        exact ⟨value, rfl, small, rfl⟩
      · rintro ⟨other, same, -, rfl⟩
        rw [Option.some.inj same]
    · have refused : parseU64 field = none := by simp only [parseU64, decimal, if_neg small]
      rw [refused]
      constructor
      · rintro ⟨⟩
      · rintro ⟨other, same, below, -⟩
        rw [← Option.some.inj same] at below
        exact absurd below small

theorem literal_value {value : Nat} (small : value < 2 ^ 64) : (Word.literal value : Word 64).value = value :=
  (Word.computes_literal value).value ((Word.computes_literal value).fits.mpr small)

theorem minutes_computes (m s : Nat) :
    (((Word.literal m).mul (Word.literal 60)).add (Word.literal s) : Word 64).Computes (sexagesimal [m, s]) := by
  have computes := ((Word.computes_literal m).scale 60 (by decide) (by decide)).add (@Word.computes_literal 64 s)
  simpa [sexagesimal] using computes

theorem hours_computes (h m s : Nat) : ((((Word.literal h).mul (Word.literal 3600)).add
      ((Word.literal m).mul (Word.literal 60))).add (Word.literal s) : Word 64).Computes
      (sexagesimal [h, m, s]) := by
  have hours := (@Word.computes_literal 64 h).scale 3600 (by decide) (by decide)
  have minutes := (@Word.computes_literal 64 m).scale 60 (by decide) (by decide)
  have computes := (hours.add minutes).add (Word.computes_literal s)
  have total : sexagesimal [h, m, s] = h * 3600 + m * 60 + s := by
    simp only [sexagesimal, List.foldl_cons, List.foldl_nil]
    omega
  rwa [total]

theorem durationSecs_some {text : String} {secs : Word 64} (parsed : durationSecs text = some secs) :
    ∃ fields, durationFields text = some fields ∧ Accepted fields ∧ secs.Computes (sexagesimal fields) := by
  unfold durationSecs at parsed
  unfold durationFields
  generalize (trim text).toList.splitOn ':' = parts at parsed
  split at parsed
  · rename_i s
    obtain ⟨value, decimal, small, rfl⟩ := parseU64_eq_some.mp parsed
    refine ⟨[value], by simp [decimal], ⟨by simp, by simpa using small, by simp⟩, ?_⟩
    simpa [sexagesimal] using @Word.computes_literal 64 value
  · rename_i m s
    simp only [Option.bind_eq_bind, Option.bind_eq_some_iff, parseU64_eq_some] at parsed
    obtain ⟨-, ⟨m, minutes, smallM, rfl⟩, -, ⟨s, seconds, smallS, rfl⟩, inside⟩ := parsed
    rw [literal_value smallS] at inside
    split at inside
    · simp at inside
    · rename_i within
      obtain rfl := Option.some.inj inside
      refine ⟨[m, s], by simp [minutes, seconds], ⟨by simp, ?_, ?_⟩, minutes_computes m s⟩
      · simpa using ⟨smallM, smallS⟩
      · simpa using within
  · rename_i h m s
    simp only [Option.bind_eq_bind, Option.bind_eq_some_iff, parseU64_eq_some] at parsed
    obtain ⟨-, ⟨h, hours, smallH, rfl⟩, -, ⟨m, minutes, smallM, rfl⟩, -, ⟨s, seconds, smallS, rfl⟩, inside⟩ := parsed
    rw [literal_value smallS, literal_value smallM] at inside
    split at inside
    · simp at inside
    · rename_i within
      obtain rfl := Option.some.inj inside
      refine ⟨[h, m, s], by simp [hours, minutes, seconds], ⟨by simp, ?_, ?_⟩, hours_computes h m s⟩
      · simpa using ⟨smallH, smallM, smallS⟩
      · simpa using within
  · simp at parsed

theorem mapM_cons_some {first : List Char} {rest : List (List Char)} {fields : List Nat} :
    (first :: rest).mapM unsignedDecimal = some fields ↔ ∃ value values,
      unsignedDecimal first = some value ∧ rest.mapM unsignedDecimal = some values ∧ fields = value :: values := by
  simp only [List.mapM_cons, Option.bind_eq_bind, Option.bind_eq_some_iff, Option.pure_def, Option.some.injEq]
  constructor
  · rintro ⟨value, here, values, there, rfl⟩
    exact ⟨value, values, here, there, rfl⟩
  · rintro ⟨value, values, here, there, rfl⟩
    exact ⟨value, here, values, there, rfl⟩

theorem durationSecs_of_accepted {text : String} {fields : List Nat}
    (read : durationFields text = some fields) (accepted : Accepted fields) :
    ∃ secs, durationSecs text = some secs := by
  unfold durationFields at read
  unfold durationSecs
  have nonempty := List.splitOn_ne_nil ':' (trim text).toList
  generalize (trim text).toList.splitOn ':' = parts at read nonempty
  have word {field : List Char} {value : Nat} (decimal : unsignedDecimal field = some value)
      (member : value ∈ fields) : parseU64 field = some (Word.literal value) :=
    parseU64_eq_some.mpr ⟨value, decimal, accepted.words value member, rfl⟩
  have small {value : Nat} (member : value ∈ fields) : (Word.literal value : Word 64).value = value :=
    literal_value (accepted.words value member)
  have within {value : Nat} (member : value ∈ fields.tail) : value ≤ 59 := accepted.sixtieths value member
  rcases parts with _ | ⟨first, _ | ⟨second, _ | ⟨third, _ | ⟨fourth, others⟩⟩⟩⟩
  · exact absurd rfl nonempty
  · obtain ⟨s, values, here, -, rfl⟩ := mapM_cons_some.mp read
    exact ⟨_, word here (by simp)⟩
  · obtain ⟨m, values, minutes, rest, rfl⟩ := mapM_cons_some.mp read
    obtain ⟨s, values, seconds, -, rfl⟩ := mapM_cons_some.mp rest
    have sixtieth : s ≤ 59 := within (by simp)
    simp [word minutes, word seconds, small, sixtieth]
  · obtain ⟨h, _, hours, rest, rfl⟩ := mapM_cons_some.mp read
    obtain ⟨m, _, minutes, last, rfl⟩ := mapM_cons_some.mp rest
    obtain ⟨s, values, seconds, -, rfl⟩ := mapM_cons_some.mp last
    have sixtiethM : m ≤ 59 := within (by simp)
    have sixtiethS : s ≤ 59 := within (by simp)
    simp [word hours, word minutes, word seconds, small, sixtiethM, sixtiethS]
  · obtain ⟨a, _, -, rest, rfl⟩ := mapM_cons_some.mp read
    obtain ⟨b, _, -, more, rfl⟩ := mapM_cons_some.mp rest
    obtain ⟨c, _, -, last, rfl⟩ := mapM_cons_some.mp more
    obtain ⟨d, values, -, -, rfl⟩ := mapM_cons_some.mp last
    have few := accepted.few
    simp only [List.length_cons] at few
    omega

theorem durationTicks_computes {text : String} {secs : Word 64} {seconds : Nat}
    (parsed : durationSecs text = some secs) (computes : secs.Computes seconds) :
    ∃ ticks, durationTicks text = some ticks ∧ ticks.Computes (seconds * ticksPerSecond.toNat) :=
  ⟨_, by rw [durationTicks, parsed, Option.map_some], computes.scale _ (by decide) (by decide)⟩

/-! ### The runtime of a stored entry -/

def storedDurationTicks (text : String) : Option UInt64 :=
  (durationTicks text).map fun ticks => UInt64.ofBitVec ticks.bits

theorem ticks_cast (seconds : Nat) : ((seconds * ticksPerSecond.toNat : Nat) : Int) = seconds * ticksPerSecond := by
  simp [ticksPerSecond]

theorem durationTicksAsI64_eq_iff (ticks : UInt64) : durationTicksAsI64 ticks = ticks.toNat ↔ ticks.toNat < 2 ^ 63 := by
  have signed : durationTicksAsI64 ticks = ticks.toBitVec.toInt := rfl
  have value : ticks.toBitVec.toNat = ticks.toNat := rfl
  rw [signed, BitVec.toInt_eq_toNat_cond, value]
  split <;> omega

/-- Absent, or the seconds and the runtime are what the text denotes and no operation on the way left
    its range. -/
def ExactOrAbsent (text : String) : Prop :=
  ∀ secs, durationSecs text = some secs →
    secs.inRange = true ∧ DenotesSeconds text secs.value ∧
    (∃ ticks, durationTicks text = some ticks ∧ ticks.inRange = true) ∧
    ∃ stored, storedDurationTicks text = some stored ∧
      stored.toNat = secs.value * ticksPerSecond.toNat ∧
      durationTicksAsI64 stored = secs.value * ticksPerSecond

/-- The runtime of what the parser takes fits an `i64`. -/
def RuntimeFits (text : String) : Prop :=
  ∀ fields, durationFields text = some fields → Accepted fields →
    sexagesimal fields * ticksPerSecond.toNat < 2 ^ 63

theorem feed_duration_exact_iff (text : String) : ExactOrAbsent text ↔ RuntimeFits text := by
  constructor
  · intro exact fields read accepted
    obtain ⟨secs, parsed⟩ := durationSecs_of_accepted read accepted
    obtain ⟨_, read', -, computes⟩ := durationSecs_some parsed
    obtain rfl := Option.some.inj (read.symm.trans read')
    obtain ⟨inRange, -, -, stored, -, unsigned, signed⟩ := exact secs parsed
    rw [computes.value inRange] at unsigned signed
    rw [← unsigned]
    apply (durationTicksAsI64_eq_iff stored).mp
    rw [signed, unsigned, ticks_cast]
  · intro fits secs parsed
    obtain ⟨fields, read, accepted, computes⟩ := durationSecs_some parsed
    have small := fits fields read accepted
    have seconds64 : sexagesimal fields < 2 ^ 64 := by
      rw [show ticksPerSecond.toNat = 10000000 from rfl] at small
      omega
    have inRange := computes.fits.mpr seconds64
    have seconds := computes.value inRange
    obtain ⟨ticks, scaled, ticksComputes⟩ := durationTicks_computes parsed computes
    have ticksInRange := ticksComputes.fits.mpr (by omega)
    have unsigned : (UInt64.ofBitVec ticks.bits).toNat = secs.value * ticksPerSecond.toNat := by
      rw [seconds]
      exact ticksComputes.value ticksInRange
    have signed := (durationTicksAsI64_eq_iff (UInt64.ofBitVec ticks.bits)).mpr
      (by rw [unsigned, seconds]; exact small)
    refine ⟨inRange, ⟨fields, read, accepted.few, seconds.symm⟩, ⟨ticks, scaled, ticksInRange⟩,
      UInt64.ofBitVec ticks.bits, by rw [storedDurationTicks, scaled, Option.map_some], unsigned, ?_⟩
    rw [signed, unsigned, ticks_cast]

/-- The seconds fit a `u64`, but their ticks wrap around to less than a tenth of a second. -/
theorem feed_duration_wraps : ¬ ExactOrAbsent "1844674407371" := by
  have parsed : (durationSecs "1844674407371").map Word.value = some 1844674407371 := by decide
  have wraps : (storedDurationTicks "1844674407371").map UInt64.toNat = some 448384 := by decide
  intro exact
  obtain ⟨secs, here, value⟩ := Option.map_eq_some_iff.mp parsed
  obtain ⟨-, -, -, stored, kept, unsigned, -⟩ := exact secs here
  rw [kept] at wraps
  rw [value] at unsigned
  simp [unsigned, ticksPerSecond] at wraps

end Mbv.Feed
