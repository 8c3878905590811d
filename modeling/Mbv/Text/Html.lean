import Mbv.Text
import Mbv.Sequence.Escapes
import Mbv.Sequence.Search
import Mathlib.Algebra.Group.Nat.Defs
import Mathlib.Data.List.DropRight
import Mathlib.Data.List.SplitOn

namespace Mbv.Text

open Delimited

/-! ### Entities -/

def digitValue (radix : Nat) (c : Char) : Option Nat :=
  let code := c.toNat
  (if 0x30 ≤ code ∧ code ≤ 0x39 then some (code - 0x30)
    else if 0x41 ≤ code ∧ code ≤ 0x5A then some (code - 0x41 + 10)
    else if 0x61 ≤ code ∧ code ≤ 0x7A then some (code - 0x61 + 10)
    else none).filter (· < radix)

def parseDigits (radix : Nat) (digits : List Char) : Option Nat :=
  if digits = [] then none
  else (digits.mapM (digitValue radix)).bind fun values =>
    let number := values.foldl (fun number value => number * radix + value) 0
    if number < 2 ^ 32 then some number else none

/-- `u32::from_str_radix`, which takes a leading `+`. -/
def parseU32 (radix : Nat) : List Char → Option Nat
  | '+' :: digits => parseDigits radix digits
  | digits => parseDigits radix digits

def charFromU32 (code : Nat) : Option Char := if code.isValidChar then some (Char.ofNat code) else none

def codePoint : List Char → Option Nat
  | 'x' :: hex | 'X' :: hex => parseU32 16 hex
  | digits => parseU32 10 digits

def entityChar : List Char → Option Char
  | ['a', 'm', 'p'] => some '&'
  | ['l', 't'] => some '<'
  | ['g', 't'] => some '>'
  | ['q', 'u', 'o', 't'] => some '"'
  | ['a', 'p', 'o', 's'] => some '\''
  | '#' :: numPart => (codePoint numPart).bind charFromU32
  | _ => none

theorem digitValue_some {radix value : Nat} {c : Char} (digit : digitValue radix c = some value) : 0x30 ≤ c.toNat := by
  by_contra low
  have none_ : digitValue radix c = none := by
    unfold digitValue
    dsimp only
    rw [if_neg (by omega), if_neg (by omega), if_neg (by omega)]
    rfl
  rw [none_] at digit
  cases digit

theorem mapM_digits {radix : Nat} {text : List Char} {values : List Nat}
    (read : text.mapM (digitValue radix) = some values) {c : Char} (member : c ∈ text) :
    0x30 ≤ c.toNat := by
  induction text generalizing values with
  | nil => cases member
  | cons d text ih =>
    simp only [List.mapM_cons, Option.bind_eq_bind, Option.bind_eq_some_iff] at read
    obtain ⟨value, digit, others, rest, -⟩ := read
    rcases List.mem_cons.mp member with rfl | later
    · exact digitValue_some digit
    · exact ih rest later

theorem parseDigits_some {radix number : Nat} {text : List Char} (parsed : parseDigits radix text = some number) :
    ∃ values, text.mapM (digitValue radix) = some values := by
  unfold parseDigits at parsed
  split at parsed
  · cases parsed
  · obtain ⟨values, read, -⟩ := Option.bind_eq_some_iff.mp parsed
    exact ⟨values, read⟩

theorem parseU32_lead {radix number : Nat} {text : List Char} (parsed : parseU32 radix text = some number) : '&' ∉ text := by
  intro member
  unfold parseU32 at parsed
  split at parsed <;> obtain ⟨values, read⟩ := parseDigits_some parsed
  · rcases List.mem_cons.mp member with plus | later
    · cases plus
    · exact absurd (mapM_digits read later) (by decide)
  · exact absurd (mapM_digits read member) (by decide)

theorem entityChar_lead {body : List Char} (known : (entityChar body).isSome) : '&' ∉ body := by
  obtain ⟨c, known⟩ := Option.isSome_iff_exists.mp known
  unfold entityChar at known
  split at known
  iterate 5 decide
  · rw [Option.bind_eq_some_iff] at known
    obtain ⟨code, parsed, -⟩ := known
    unfold codePoint at parsed
    split at parsed
    · simpa using parseU32_lead parsed
    · simpa using parseU32_lead parsed
    · simpa using parseU32_lead parsed
  · cases known

def entities : Escapes.Code Char where
  lead := '&'
  close := ';'
  symbol := entityChar
  distinct := by decide
  lead_outside := fun _ => entityChar_lead

def decodeEntities (text : List Char) : List Char := Escapes.decode entities text

/-! ### The scan of the tags -/

def trimChars (text : List Char) : List Char :=
  (text.dropWhile isWhitespace).rdropWhile isWhitespace

def words (line : List Char) : List (List Char) :=
  (line.splitOnP isWhitespace).filter fun word => !word.isEmpty

def trimBlankLines (text : List Char) : List Char :=
  ['\n'].intercalate (((text.splitOn '\n').map fun line => [' '].intercalate (words line)).filter
    fun line => !line.isEmpty)

def isBlockTag (name : List Char) : Bool :=
  name ∈ [['p'], ['d', 'i', 'v'], ['l', 'i'], ['u', 'l'], ['o', 'l'], ['b', 'r']]

def extractHref (tagBody : List Char) : Option (List Char) :=
  (Search.splitFirst ['h', 'r', 'e', 'f', '=', '"'] tagBody).bind fun found =>
    (takeRecord '"' found.2).map fun value => decodeEntities value.1

structure HtmlScan where
  result : List Char := []
  pendingLink : Option (List Char) := none

namespace HtmlScan

def push (s : HtmlScan) (text : List Char) : HtmlScan := { s with result := s.result ++ text }

def closeTag (s : HtmlScan) (name : List Char) : HtmlScan :=
  if isBlockTag (trimChars name) then s.push ['\n']
  else
    match trimChars name, s.pendingLink with
    | ['a'], some href =>
      let space := if s.result ≠ [] ∧ s.result.getLast? ≠ some ' ' then [' '] else []
      { s with pendingLink := none }.push (space ++ '(' :: href ++ [')'])
    | _, _ => s

def openTag (s : HtmlScan) (lower : List Char) : HtmlScan :=
  match (words (lower.rdropWhile (· == '/'))).headD [] with
  | ['a'] => { s with pendingLink := extractHref lower }
  | name => if isBlockTag name then s.push ['\n'] else s

def tag (s : HtmlScan) (tag : List Char) : HtmlScan :=
  match (trimChars tag).map toAsciiLowercase with
  | '/' :: name => s.closeTag name
  | lower => s.openTag lower

/-- A `<` that no `>` follows ends the scan, and the text from the last tag on is pushed again. -/
def scan : Nat → HtmlScan → List Char → List Char
  | 0, s, rest => s.result ++ rest
  | fuel + 1, s, rest =>
    match takeRecord '<' rest with
    | none => s.result ++ rest
    | some (text, after) =>
      match takeRecord '>' after with
      | none => s.result ++ text ++ '<' :: after ++ rest
      | some (body, rest) => scan fuel ((s.push text).tag body) rest

end HtmlScan

def htmlToText (html : List Char) : List Char :=
  trimChars (trimBlankLines (decodeEntities (HtmlScan.scan html.length {} html)))

end Mbv.Text
