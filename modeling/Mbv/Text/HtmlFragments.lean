import Mbv.Text.Html

namespace Mbv.Text

open Delimited Escapes List

/-! ### Fragments of HTML -/

abbrev Run := List (Atom entities)

def lower (text : List Char) : List Char := text.map toAsciiLowercase

structure IsName (name : List Char) : Prop where
  present : name ≠ []
  plain : ∀ c ∈ name, isWhitespace c = false ∧ c ≠ '/' ∧ c ≠ '>'

def OpensAfter (rest : List Char) : Prop := ∀ c ∈ rest.head?, isWhitespace c = true

structure Tag where
  closing : Bool
  name : List Char
  rest : List Char
  named : IsName name
  notLink : lower name ≠ ['a']
  spaced : if closing then ∀ c ∈ rest, isWhitespace c = true else OpensAfter rest ∨ rest = ['/']
  inside : '>' ∉ rest

def Tag.body (tag : Tag) : List Char := (if tag.closing then ['/'] else []) ++ tag.name ++ tag.rest

structure TextRun where
  atoms : Run
  noTag : '<' ∉ encode atoms

inductive Piece where
  | text (run : TextRun)
  | tag (tag : Tag)

def quoteMark (single : Bool) : Char := if single then '\'' else '"'

def hrefKey : List Char := ['h', 'r', 'e', 'f', '=', '"']

/-- An anchor's tags. Its first `href` is the one with the value, in either quotes. -/
structure Anchor where
  name : Char
  before : List Char
  key : List Char
  single : Bool
  href : Run
  after : List Char
  closeName : Char
  named : toAsciiLowercase name = 'a' ∧ toAsciiLowercase closeName = 'a'
  spaced : OpensAfter before ∧ before ≠ []
  keyed : lower key = ['h', 'r', 'e', 'f']
  quoted : quoteMark single ∉ encode href
  inside : '>' ∉ before ++ key ++ encode href ++ after
  first : ¬ hrefKey <:+: lower (name :: before) ++ hrefKey.dropLast
  absent : single = true →
    ¬ hrefKey <:+: lower (name :: before ++ key ++ '=' :: '\'' :: encode href ++ '\'' :: after)

namespace Anchor

variable (anchor : Anchor)

def body : List Char :=
  anchor.name :: anchor.before ++ anchor.key ++ '=' :: quoteMark anchor.single ::
    encode anchor.href ++ quoteMark anchor.single :: anchor.after

end Anchor

inductive Segment where
  | piece (piece : Piece)
  | link (anchor : Anchor) (content : List Piece)

def bracketed (body : List Char) : List Char := '<' :: body ++ ['>']

def Piece.render : Piece → List Char
  | .text run => encode run.atoms
  | .tag mark => bracketed mark.body

def Segment.render : Segment → List Char
  | .piece part => part.render
  | .link anchor content =>
    bracketed anchor.body ++ content.flatMap Piece.render ++ bracketed ['/', anchor.closeName]

def render (fragment : List Segment) : List Char := fragment.flatMap Segment.render

/-! What a fragment says: its texts in order, a line break for a block tag, and each anchor's
target in parentheses after its text. `target` is how a target is written down. -/

def plainRun (text : List Char) : Run := text.map (ofSymbol entities)

def Piece.said : Piece → Run
  | .text run => run.atoms
  | .tag mark => if isBlockTag (lower mark.name) then plainRun ['\n'] else []

def spaceAfter (text : List Char) : List Char :=
  if text ≠ [] ∧ text.getLast? ≠ some ' ' then [' '] else []

def Segment.write (target : Anchor → Option Run) (run : Run) : Segment → Run
  | .piece part => run ++ part.said
  | .link anchor content =>
    let run := run ++ content.flatMap Piece.said
    match target anchor with
    | some href => run ++ plainRun (spaceAfter (encode run)) ++ plainRun ['('] ++ href ++ plainRun [')']
    | none => run

def write (target : Anchor → Option Run) (fragment : List Segment) : Run :=
  fragment.foldl (Segment.write target) []

def Anchor.denoted (anchor : Anchor) : Option Run := some (plainRun (anchor.href.map Atom.value))

def said (fragment : List Segment) : List Char := (write Anchor.denoted fragment).map Atom.value

/-- The target the code takes: decoded once from its lower-cased text. -/
def Anchor.taken (anchor : Anchor) : Option Run :=
  if anchor.single then none else some (plainRun (decodeEntities (lower (encode anchor.href))))

def printed (fragment : List Segment) : Run := write Anchor.taken fragment

def layout (text : List Char) : List Char := trimChars (trimBlankLines text)

/-! ### The scan of a fragment -/

inductive Token where
  | text (run : List Char) (outside : '<' ∉ run)
  | tag (body : List Char) (inside : '>' ∉ body)

def Token.render : Token → List Char
  | text run _ => run
  | tag body _ => bracketed body

def Token.act (s : HtmlScan) : Token → HtmlScan
  | text run _ => s.push run
  | tag body _ => s.tag body

theorem push_push (s : HtmlScan) (first second : List Char) : (s.push first).push second = s.push (first ++ second) := by
  simp [HtmlScan.push]

theorem scan_tokens (tokens : List Token) {fuel : Nat} {s : HtmlScan} {text : List Char}
    (outside : '<' ∉ text) (enough : (tokens.flatMap Token.render).length ≤ fuel) :
    HtmlScan.scan fuel s (text ++ tokens.flatMap Token.render) = (tokens.foldl Token.act (s.push text)).result := by
  induction tokens generalizing fuel s text with
  | nil =>
    rw [flatMap_nil, append_nil]
    cases fuel with
    | zero => rfl
    | succ fuel =>
      rw [HtmlScan.scan, takeRecord_none.mpr outside]
      rfl
  | cons token tokens ih =>
    rw [flatMap_cons] at enough ⊢
    cases token with
    | text run plain =>
      have none_ : '<' ∉ text ++ run := by simp [outside, plain]
      rw [Token.render] at enough ⊢
      rw [← append_assoc, ih none_ (by rw [length_append] at enough; omega), ← push_push]
      rfl
    | tag body inside =>
      rw [Token.render, bracketed] at enough ⊢
      cases fuel with
      | zero => simp at enough
      | succ fuel =>
        have opened : takeRecord '<' (text ++ ('<' :: body ++ ['>'] ++
            tokens.flatMap Token.render)) = some (text, body ++ '>' :: tokens.flatMap Token.render) := by
          rw [append_assoc, cons_append]
          exact takeRecord_append outside
        rw [HtmlScan.scan, opened]
        dsimp only
        rw [takeRecord_append inside]
        have rest := @ih fuel ((s.push text).tag body) []
          not_mem_nil (by simp only [length_append, length_cons] at enough; omega)
        rw [nil_append] at rest
        dsimp only
        rw [rest]
        simp [HtmlScan.push, Token.act]

/-! ### What a tag does -/

theorem upper_induction {P : Char → Char → Prop}
    (letters : ∀ n < 26, P (Char.ofNat (n + 0x41)) (Char.ofNat (n + 0x61))) {c : Char}
    (upper : isAsciiUppercase c = true) : P c (toAsciiLowercase c) := by
  rw [toAsciiLowercase, if_pos upper]
  simp only [isAsciiUppercase, Bool.and_eq_true, decide_eq_true_eq] at upper
  have letter := letters (c.toNat - 0x41) (by omega)
  rw [show c.toNat - 0x41 + 0x41 = c.toNat by omega, Char.ofNat_toNat,
    show c.toNat - 0x41 + 0x61 = c.toNat + 0x20 by omega] at letter
  exact letter

theorem lower_induction {P : Char → Char → Prop} (same : ∀ c, P c c)
    (letters : ∀ n < 26, P (Char.ofNat (n + 0x41)) (Char.ofNat (n + 0x61))) (c : Char) :
    P c (toAsciiLowercase c) := by
  by_cases upper : isAsciiUppercase c = true
  · exact upper_induction letters upper
  · rw [toAsciiLowercase, if_neg upper]
    exact same c

theorem isWhitespace_lower (c : Char) : isWhitespace (toAsciiLowercase c) = isWhitespace c :=
  lower_induction (P := fun c l => isWhitespace l = isWhitespace c) (fun _ => rfl) (by decide) c

theorem lower_eq_iff {d : Char} (fixed : isAsciiUppercase d = false ∧ ¬ (0x61 ≤ d.toNat ∧ d.toNat ≤ 0x7A))
    (c : Char) : toAsciiLowercase c = d ↔ c = d := by
  refine lower_induction (P := fun c l => l = d ↔ c = d) (fun _ => Iff.rfl) (fun n small => ?_) c
  constructor
  · rintro rfl
    exact absurd fixed.2 (by revert n; decide)
  · rintro rfl
    exact absurd fixed.1 (by revert n; decide)

theorem rdropWhile_front {p : Char → Bool} {front : List Char} (present : front ≠ [])
    (last : p (front.getLast present) = false) (rest : List Char) :
    (front ++ rest).rdropWhile p = front ++ rest.rdropWhile p := by
  have stops : (front.reverse).dropWhile p = front.reverse := by
    rw [dropWhile_eq_self_iff]
    intro some_
    simpa [getLast_eq_getElem] using last
  unfold List.rdropWhile
  rw [reverse_append, dropWhile_append]
  split
  · rename_i empty
    rw [isEmpty_iff.mp empty, stops]
    simp
  · simp

theorem opensAfter_rdrop {rest : List Char} (opens : OpensAfter rest) (p : Char → Bool) : OpensAfter (rest.rdropWhile p) := by
  intro c first
  obtain ⟨dropped, same⟩ := List.rdropWhile_prefix p rest
  refine opens c ?_
  rw [← same]
  cases kept : rest.rdropWhile p with
  | nil => simp [kept] at first
  | cons d kept' => simpa [kept] using first

theorem words_head {name rest : List Char} (present : name ≠ [])
    (plain : ∀ c ∈ name, isWhitespace c = false) (opens : OpensAfter rest) :
    (words (name ++ rest)).headD [] = name := by
  unfold words
  cases rest with
  | nil =>
    rw [append_nil, splitOnP_eq_singleton plain]
    simp [present]
  | cons c rest =>
    rw [splitOnP_append_cons_of_forall_mem plain c (opens c rfl)]
    simp [present]

theorem trim_named {name : List Char} (present : name ≠ []) (plain : ∀ c ∈ name, isWhitespace c = false) (rest : List Char) :
    trimChars (name ++ rest) = name ++ rest.rdropWhile isWhitespace := by
  have front : (name ++ rest).dropWhile isWhitespace = name ++ rest := by
    cases name with
    | nil => exact absurd rfl present
    | cons c name => simp [plain c mem_cons_self]
  unfold trimChars
  rw [front, rdropWhile_front present (plain _ (getLast_mem present))]

theorem tag_open {s : HtmlScan} {body name rest : List Char} (named : IsName name)
    (opens : OpensAfter rest ∨ rest = ['/']) (same : body = name ++ rest) :
    s.tag body = s.openTag (lower (name ++ rest.rdropWhile isWhitespace)) ∧
      (words ((lower (name ++ rest.rdropWhile isWhitespace)).rdropWhile (· == '/'))).headD [] = lower name := by
  have plain := fun c member => (named.plain c member).1
  have slash : ∀ c ∈ name, toAsciiLowercase c ≠ '/' := fun c member letter =>
    (named.plain c member).2.1 ((lower_eq_iff (by decide) c).mp letter)
  have present : lower name ≠ [] := by simpa [lower] using named.present
  refine ⟨?_, ?_⟩
  · rw [same, HtmlScan.tag, trim_named named.present plain]
    cases name with
    | nil => exact absurd rfl named.present
    | cons c name =>
      have front := slash c mem_cons_self
      simp only [lower, cons_append, map_cons]
      split
      · rename_i start
        exact absurd (List.cons.inj start).1 front
      · rfl
  · have last : ((lower name).getLast present == '/') = false := by
      obtain ⟨c, member, here⟩ := mem_map.mp (getLast_mem present)
      rw [← here]
      simpa using slash c member
    have word : ∀ c ∈ lower name, isWhitespace c = false := by
      intro d member
      obtain ⟨c, there, rfl⟩ := mem_map.mp member
      rw [isWhitespace_lower, plain c there]
    rw [lower, map_append, ← lower, rdropWhile_front present last]
    refine words_head present word ?_
    rcases opens with opens | rfl
    · refine opensAfter_rdrop ?_ _
      intro d first
      have kept := opensAfter_rdrop opens isWhitespace
      cases shape : rest.rdropWhile isWhitespace with
      | nil => simp [shape] at first
      | cons c tail =>
        simp only [shape, map_cons, List.head?_cons, Option.mem_some_iff] at first
        rw [← first, isWhitespace_lower]
        exact kept c (by rw [shape]; rfl)
    · simp [OpensAfter, List.rdropWhile, isWhitespace, toAsciiLowercase, isAsciiUppercase]

theorem tag_mark (s : HtmlScan) (mark : Tag) : s.tag mark.body = s.push (encode (Piece.tag mark).said) := by
  have said : encode (Piece.tag mark).said = if isBlockTag (lower mark.name) then ['\n'] else [] := by
    dsimp only [Piece.said]
    split
    · simp [plainRun, encode]
    · rfl
  have plain := fun c member => (mark.named.plain c member).1
  have spaced := mark.spaced
  rw [said]
  unfold Tag.body
  cases closing : mark.closing with
  | false =>
    rw [closing, if_neg (by simp)] at spaced
    obtain ⟨opened, word⟩ := tag_open (s := s) mark.named spaced rfl
    rw [if_neg (by simp), nil_append, opened, HtmlScan.openTag, word]
    split
    · rename_i link
      exact absurd link mark.notLink
    · split <;> simp [HtmlScan.push]
  | true =>
    rw [closing, if_pos rfl] at spaced
    have trimmed : trimChars ('/' :: mark.name ++ mark.rest) = '/' :: mark.name := by
      rw [trim_named (by simp) (by simpa [isWhitespace] using plain)]
      rw [rdropWhile_eq_nil_iff.mpr spaced, append_nil]
    have word : trimChars (lower mark.name) = lower mark.name := by
      have named := @trim_named (lower mark.name) (by simpa [lower] using mark.named.present) (by
          intro d member
          obtain ⟨c, there, rfl⟩ := mem_map.mp member
          rw [isWhitespace_lower, plain c there]) []
      simpa using named
    rw [if_pos rfl, singleton_append, HtmlScan.tag, trimmed, map_cons]
    change s.closeTag (lower mark.name) = _
    rw [HtmlScan.closeTag, word]
    split
    · rfl
    · split
      · rename_i link _
        exact absurd link mark.notLink
      · simp [HtmlScan.push]

theorem not_mem_lower {d : Char} (fixed : isAsciiUppercase d = false ∧ ¬ (0x61 ≤ d.toNat ∧ d.toNat ≤ 0x7A))
    {text : List Char} (absent : d ∉ text) : d ∉ lower text := by
  intro member
  obtain ⟨c, there, same⟩ := mem_map.mp member
  exact absent ((lower_eq_iff fixed c).mp same ▸ there)

theorem plainRun_value (text : List Char) : (plainRun text).map Atom.value = text := by
  simp [plainRun, Function.comp_def]

theorem plainRun_encode (text : List Char) : encode (plainRun text) = text := by
  induction text with
  | nil => rfl
  | cons c text ih =>
    rw [plainRun, map_cons, encode_cons, ofSymbol_encode, ← plainRun, ih]
    rfl

theorem quoteMark_plain (single : Bool) : isWhitespace (quoteMark single) = false := by
  cases single <;> decide

theorem extractHref_anchor (anchor : Anchor) {rest : List Char} (end_ : rest <+: anchor.after) :
    extractHref (lower (anchor.name :: anchor.before ++ anchor.key ++ '=' :: quoteMark anchor.single ::
      encode anchor.href ++ quoteMark anchor.single :: rest)) =
      anchor.taken.map fun run => run.map Atom.value := by
  cases single : anchor.single with
  | true =>
    have absent : ¬ hrefKey <:+: lower (anchor.name :: anchor.before ++ anchor.key ++ '=' ::
        quoteMark true :: encode anchor.href ++ quoteMark true :: rest) := by
      intro found
      refine anchor.absent single (found.trans (List.IsPrefix.isInfix ?_))
      refine List.IsPrefix.map _ ?_
      obtain ⟨more, same⟩ := end_
      exact ⟨more, by simp [quoteMark, ← same]⟩
    have missed : Search.splitFirst hrefKey _ = none := Search.splitFirst_none.mpr absent
    rw [extractHref, ← hrefKey, missed, Anchor.taken, single]
    rfl
  | false =>
    have quoted := anchor.quoted
    rw [single] at quoted
    have split : lower (anchor.name :: anchor.before ++ anchor.key ++ '=' :: quoteMark false ::
        encode anchor.href ++ quoteMark false :: rest) =
        lower (anchor.name :: anchor.before) ++ hrefKey ++ (lower (encode anchor.href) ++ '"' :: lower rest) := by
      have key := anchor.keyed
      simp only [lower] at key ⊢
      simp [key, hrefKey, quoteMark, toAsciiLowercase, isAsciiUppercase]
    have value : takeRecord '"' (lower (encode anchor.href) ++ '"' :: lower rest) =
        some (lower (encode anchor.href), lower rest) :=
      takeRecord_append (not_mem_lower (by decide) quoted)
    rw [split, extractHref, ← hrefKey, Search.splitFirst_append anchor.first, Option.bind_some, value, Anchor.taken, single]
    simp [plainRun_value]

theorem tag_anchor (s : HtmlScan) (anchor : Anchor) :
    s.tag anchor.body = { s with pendingLink := anchor.taken.map fun run => run.map Atom.value } := by
  have letter := anchor.named.1
  have named : IsName [anchor.name] := by
    refine ⟨by simp, fun c member => ?_⟩
    rw [mem_singleton.mp member, ← isWhitespace_lower, letter]
    refine ⟨by decide, ?_, ?_⟩ <;> intro same <;> rw [same] at letter <;> revert letter <;> decide
  have opens : OpensAfter (anchor.before ++ anchor.key ++ '=' :: quoteMark anchor.single ::
      encode anchor.href ++ quoteMark anchor.single :: anchor.after) := by
    obtain ⟨opens, present⟩ := anchor.spaced
    cases shape : anchor.before with
    | nil => exact absurd shape present
    | cons c before =>
      rw [shape] at opens
      exact opens
  have kept : (anchor.before ++ anchor.key ++ '=' :: quoteMark anchor.single ::
      encode anchor.href ++ quoteMark anchor.single :: anchor.after).rdropWhile isWhitespace =
      anchor.before ++ anchor.key ++ '=' :: quoteMark anchor.single :: encode anchor.href ++
        quoteMark anchor.single :: anchor.after.rdropWhile isWhitespace := by
    have front := @rdropWhile_front isWhitespace (anchor.before ++ anchor.key ++ '=' ::
      quoteMark anchor.single :: encode anchor.href ++ [quoteMark anchor.single]) (by simp)
      (by simpa using quoteMark_plain _) anchor.after
    simpa using front
  obtain ⟨opened, word⟩ := tag_open (s := s) named (.inl opens) (Eq.refl anchor.body)
  have link : lower [anchor.name] = ['a'] := by rw [lower, map_cons, letter]; rfl
  rw [opened, HtmlScan.openTag, word, link, kept]
  rw [← extractHref_anchor anchor (List.rdropWhile_prefix isWhitespace anchor.after)]
  rfl

/-! ### The scan of a fragment, tag by tag -/

theorem name_inside {name : Char} (letter : toAsciiLowercase name = 'a') : name ≠ '>' := by
  rintro rfl
  revert letter
  decide

theorem Tag.inside_body (mark : Tag) : '>' ∉ mark.body := by
  have name : '>' ∉ mark.name := fun member => (mark.named.plain _ member).2.2 rfl
  unfold Tag.body
  split <;> simp [name, mark.inside]

theorem Anchor.inside_body (anchor : Anchor) : '>' ∉ anchor.body := by
  have inside := anchor.inside
  have name := (name_inside anchor.named.1).symm
  have mark : '>' ≠ quoteMark anchor.single := by cases anchor.single <;> decide
  simp only [mem_append, not_or] at inside
  simp [Anchor.body, name, mark, inside]

def Piece.token : Piece → Token
  | .text run => .text (encode run.atoms) run.noTag
  | .tag mark => .tag mark.body mark.inside_body

theorem close_inside (anchor : Anchor) : '>' ∉ ['/', anchor.closeName] := by
  have name := name_inside anchor.named.2
  simp [name.symm]

def Segment.tokens : Segment → List Token
  | .piece part => [part.token]
  | .link anchor content =>
    .tag anchor.body anchor.inside_body :: content.map Piece.token ++
      [.tag ['/', anchor.closeName] (close_inside anchor)]

theorem Piece.token_render (part : Piece) : part.token.render = part.render := by
  cases part <;> rfl

theorem render_tokens (fragment : List Segment) : render fragment = (fragment.flatMap Segment.tokens).flatMap Token.render := by
  rw [flatMap_assoc]
  refine flatMap_congr fun segment _ => ?_
  cases segment with
  | piece part => simp [Segment.render, Segment.tokens, part.token_render]
  | link anchor content =>
    have parts : (content.map Piece.token).flatMap Token.render = content.flatMap Piece.render := by
      rw [flatMap_map]
      exact flatMap_congr fun part _ => part.token_render
    rw [Segment.tokens, flatMap_append, flatMap_cons, parts]
    simp [Segment.render, Token.render]

theorem fold_pieces (s : HtmlScan) (content : List Piece) : (content.map Piece.token).foldl Token.act s =
      s.push (encode (content.flatMap Piece.said)) := by
  induction content generalizing s with
  | nil => simp [HtmlScan.push]
  | cons part content ih =>
    have one : part.token.act s = s.push (encode part.said) := by
      cases part with
      | text run => rfl
      | tag mark => exact tag_mark s mark
    rw [map_cons, foldl_cons, one, ih, push_push, flatMap_cons, encode_append]

theorem fold_segment (run : Run) (segment : Segment) : segment.tokens.foldl Token.act { result := encode run } =
      { result := encode (segment.write Anchor.taken run) } := by
  cases segment with
  | piece part =>
    have one := fold_pieces { result := encode run } [part]
    simpa [Segment.tokens, Segment.write, HtmlScan.push, encode_append] using one
  | link anchor content =>
    have closed : ∀ s : HtmlScan, s.tag ['/', anchor.closeName] = s.closeTag ['a'] := by
      intro s
      have trimmed := @trim_named ['/', anchor.closeName] (by simp) (by
        intro c member
        rcases mem_cons.mp member with rfl | last
        · rfl
        · rw [mem_singleton.mp last, ← isWhitespace_lower, anchor.named.2]
          rfl) []
      rw [append_nil, rdropWhile_nil, append_nil] at trimmed
      rw [HtmlScan.tag, trimmed, map_cons, map_cons, anchor.named.2]
      rfl
    rw [Segment.tokens, foldl_append, foldl_cons, foldl_cons, foldl_nil]
    simp only [Token.act]
    rw [tag_anchor, fold_pieces, closed]
    have block : isBlockTag (trimChars ['a']) = false := by decide
    have name : trimChars ['a'] = ['a'] := by decide
    rw [HtmlScan.closeTag, block, name, if_neg (by simp)]
    dsimp only [Segment.write, HtmlScan.push]
    cases taken : anchor.taken with
    | none => simp [encode_append]
    | some target =>
      have text : encode target = target.map Atom.value := by
        unfold Anchor.taken at taken
        split at taken
        · cases taken
        · cases taken
          rw [plainRun_encode, plainRun_value]
      simp [encode_append, plainRun_encode, spaceAfter, text]

theorem htmlToText_render (fragment : List Segment) :
    htmlToText (render fragment) = layout (decodeEntities (encode (printed fragment))) := by
  have folded (run : Run) : (fragment.flatMap Segment.tokens).foldl Token.act
      { result := encode run } = { result := encode (fragment.foldl (Segment.write Anchor.taken) run) } := by
    induction fragment generalizing run with
    | nil => rfl
    | cons segment fragment ih =>
      rw [flatMap_cons, foldl_append, fold_segment, ih]
      rfl
  have scanned := scan_tokens (fragment.flatMap Segment.tokens) (s := {}) not_mem_nil (Nat.le_refl _)
  rw [nil_append, ← render_tokens] at scanned
  rw [htmlToText, scanned]
  have start := folded []
  simp only [HtmlScan.push, encode_nil, append_nil] at start ⊢
  rw [start]
  rfl

end Mbv.Text
