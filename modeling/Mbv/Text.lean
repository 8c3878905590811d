import Mathlib.Logic.Basic

namespace Mbv.Text

/-! ### Characters and strings -/

def isWhitespace (c : Char) : Bool :=
  let code := c.toNat
  (0x9 ≤ code && code ≤ 0xD) || code = 0x20 || code = 0x85 || code = 0xA0 || code = 0x1680 ||
    (0x2000 ≤ code && code ≤ 0x200A) || code = 0x2028 || code = 0x2029 || code = 0x202F ||
    code = 0x205F || code = 0x3000

def isBlank (text : String) : Bool := text.toList.all isWhitespace

def trim (text : String) : String :=
  String.ofList ((text.toList.dropWhile isWhitespace).reverse.dropWhile isWhitespace).reverse

def isAsciiUppercase (c : Char) : Bool := 0x41 ≤ c.toNat && c.toNat ≤ 0x5A

def toAsciiLowercase (c : Char) : Char :=
  if isAsciiUppercase c then Char.ofNat (c.toNat + 0x20) else c

def asciiLowercase (text : String) : String := String.ofList (text.toList.map toAsciiLowercase)

def eqIgnoreAsciiCase (one other : String) : Bool := asciiLowercase one = asciiLowercase other

/-! ### The client-side word search -/

def splitWhitespace (text : String) : List String :=
  (text.toList.splitOnP isWhitespace).filterMap fun word =>
    if word.isEmpty then none else some (String.ofList word)

def findWord (fuzzyMatch : String → String → Option Int) (queryWord : String) :
    List String → Option (Int × List String)
  | [] => none
  | word :: words =>
    match fuzzyMatch word queryWord with
    | some score => some (score, words)
    | none => findWord fuzzyMatch queryWord words

def scoreWords (fuzzyMatch : String → String → Option Int) :
    List String → List String → Option Int
  | [], _ => some 0
  | queryWord :: queryWords, words =>
    match findWord fuzzyMatch queryWord words with
    | none => none
    | some (score, words) => (scoreWords fuzzyMatch queryWords words).map (score + ·)

/-- `fuzzyMatch` is the score the shared matcher gives a pattern inside one word. -/
def wordMatchScore (fuzzyMatch : String → String → Option Int) (text query : String) : Option Int :=
  match splitWhitespace query with
  | [] => none
  | queryWords => scoreWords fuzzyMatch queryWords (splitWhitespace text)

end Mbv.Text
