import Mbv.Text.HtmlFragments

namespace Mbv.Text

open Delimited Escapes List

/-! ### What the layout keeps -/

def squeeze (text : List Char) : List Char := text.filter fun c => !isWhitespace c

theorem squeeze_eq_nil {text : List Char} (blank : ∀ c ∈ text, isWhitespace c = true) : squeeze text = [] := by
  simpa [squeeze, filter_eq_nil_iff] using blank

theorem squeeze_append (first second : List Char) :
    squeeze (first ++ second) = squeeze first ++ squeeze second := filter_append _ _

theorem squeeze_trimChars (text : List Char) : squeeze (trimChars text) = squeeze text := by
  have front (text : List Char) : squeeze (text.dropWhile isWhitespace) = squeeze text := by
    have parts := takeWhile_append_dropWhile (p := isWhitespace) (l := text)
    have blank : squeeze (text.takeWhile isWhitespace) = [] := squeeze_eq_nil fun c member => mem_takeWhile_imp member
    rw [← parts, squeeze_append, parts, blank, nil_append]
  have back (text : List Char) : squeeze (text.rdropWhile isWhitespace) = squeeze text := by
    have reversed := front text.reverse
    unfold List.rdropWhile
    unfold squeeze at reversed ⊢
    rw [filter_reverse, reversed, filter_reverse, reverse_reverse]
  rw [trimChars, back, front]

theorem squeeze_splitOnP {p : Char → Bool} (blank : ∀ c, p c = true → isWhitespace c = true)
    (text : List Char) : (text.splitOnP p).flatMap squeeze = squeeze text := by
  induction text with
  | nil => rfl
  | cons c text ih =>
    rw [splitOnP_cons]
    split
    · rename_i here
      rw [flatMap_cons, ih]
      simp [squeeze, blank c here]
    · cases shape : text.splitOnP p with
      | nil => exact absurd shape (splitOnP_ne_nil _ _)
      | cons line lines =>
        rw [shape, flatMap_cons] at ih
        rw [modifyHead_cons, flatMap_cons, ← singleton_append, squeeze_append,
          append_assoc, ih, ← squeeze_append, singleton_append]

theorem squeeze_intercalate {mark : Char} (blank : isWhitespace mark = true)
    (lines : List (List Char)) : squeeze ([mark].intercalate lines) = lines.flatMap squeeze := by
  induction lines with
  | nil => rfl
  | cons line lines ih =>
    cases lines with
    | nil => simp [List.intercalate]
    | cons next lines =>
      rw [intercalate_cons_cons, squeeze_append, squeeze_append, ih, flatMap_cons]
      simp [squeeze, blank]

theorem squeeze_present (lines : List (List Char)) :
    (lines.filter fun line => !line.isEmpty).flatMap squeeze = lines.flatMap squeeze := by
  induction lines with
  | nil => rfl
  | cons line lines ih => cases line <;> simp [ih, squeeze]

theorem squeeze_layout (text : List Char) : squeeze (layout text) = squeeze text := by
  have one (line : List Char) : squeeze ([' '].intercalate (words line)) = squeeze line := by
    rw [squeeze_intercalate rfl, words, squeeze_present, squeeze_splitOnP fun _ => id]
  rw [layout, squeeze_trimChars, trimBlankLines, squeeze_intercalate rfl, squeeze_present,
    flatMap_map, flatMap_congr fun part _ => one part]
  exact squeeze_splitOnP (fun c here => by rw [beq_iff_eq.mp here]; rfl) text

/-! ### A lower-cased target -/

theorem digitValue_lower (radix : Nat) (c : Char) : digitValue radix (toAsciiLowercase c) = digitValue radix c := by
  refine lower_induction (P := fun c l => digitValue radix l = digitValue radix c) (fun _ => rfl) (fun n small => ?_) c
  unfold digitValue
  refine congrArg (Option.filter _) ?_
  revert n
  decide

theorem parseU32_lower (radix : Nat) (text : List Char) : parseU32 radix (lower text) = parseU32 radix text := by
  have digits (text : List Char) : parseDigits radix (lower text) = parseDigits radix text := by
    have same : (lower text).mapM (digitValue radix) = text.mapM (digitValue radix) := by
      induction text with
      | nil => rfl
      | cons c text ih =>
        rw [lower, map_cons, mapM_cons, mapM_cons, digitValue_lower, ← lower, ih]
    unfold parseDigits
    rw [same]
    simp [lower]
  cases text with
  | nil => rfl
  | cons c text =>
    by_cases plus : c = '+'
    · rw [plus]
      exact digits text
    · have other : toAsciiLowercase c ≠ '+' := fun same => plus ((lower_eq_iff (by decide) c).mp same)
      rw [parseU32, parseU32, digits]
      · simpa using plus
      · simpa [lower] using other

theorem codePoint_lower (text : List Char) : codePoint (lower text) = codePoint text := by
  cases text with
  | nil => rfl
  | cons c text =>
    by_cases small : c = 'x'
    · rw [small]
      exact parseU32_lower 16 text
    · by_cases capital : c = 'X'
      · rw [capital]
        exact parseU32_lower 16 text
      · have other : toAsciiLowercase c ≠ 'x' :=
          lower_induction (P := fun c l => c ≠ 'x' → c ≠ 'X' → l ≠ 'x') (fun _ same _ => same) (by decide) c small capital
        have upper : toAsciiLowercase c ≠ 'X' :=
          lower_induction (P := fun c l => c ≠ 'X' → l ≠ 'X') (fun _ same => same) (by decide) c capital
        rw [codePoint, codePoint, parseU32_lower]
        · simpa using small
        · simpa using capital
        · simpa [lower] using other
        · simpa [lower] using upper

theorem entityChar_lower {body : List Char} {c : Char} (known : entityChar body = some c) :
    entityChar (lower body) = some c := by
  unfold entityChar at known
  split at known
  iterate 5 exact known
  · rename_i text
    rw [← known, ← codePoint_lower]
    rfl
  · cases known

def lowerAtom : Atom entities → Atom entities
  | .plain c other => .plain (toAsciiLowercase c) (mt (lower_eq_iff (by decide) c).mp other)
  | .escape body c known closed =>
    .escape (lower body) c (entityChar_lower known) (not_mem_lower (by decide) closed)
  | .bare => .bare

theorem encode_lower (run : Run) : encode (run.map lowerAtom) = lower (encode run) := by
  induction run with
  | nil => rfl
  | cons atom run ih =>
    rw [map_cons, encode_cons, encode_cons, ih]
    cases atom <;> simp [lowerAtom, Atom.encode, lower, entities, toAsciiLowercase, isAsciiUppercase]

theorem lowerAtom_blank (atom : Atom entities) : isWhitespace (lowerAtom atom).value = isWhitespace atom.value := by
  cases atom with
  | plain c other => exact isWhitespace_lower c
  | escape body c known closed => rfl
  | bare => rfl

/-- The target is read as it is denoted. -/
structure Anchor.Kept (anchor : Anchor) : Prop where
  double : anchor.single = false
  small : ∀ c other, .plain c other ∈ anchor.href → isAsciiUppercase c = false
  settled : Settled (anchor.href.map lowerAtom)

theorem Anchor.Kept.taken {anchor : Anchor} (kept : anchor.Kept) : anchor.taken = anchor.denoted := by
  have values : (anchor.href.map lowerAtom).map Atom.value = anchor.href.map Atom.value := by
    rw [map_map]
    refine map_congr_left fun atom member => ?_
    cases atom with
    | plain c other =>
      have small := kept.small c other member
      simp [lowerAtom, Atom.value, toAsciiLowercase, small]
    | escape body c known closed => rfl
    | bare => rfl
  rw [Anchor.taken, kept.double, ← encode_lower, decodeEntities, decode_encode kept.settled, values]
  rfl

/-! ### What is written, blanks aside -/

def written (run : Run) : List Char := squeeze (run.map Atom.value)

theorem written_append (first second : Run) : written (first ++ second) = written first ++ written second := by
  rw [written, map_append, squeeze_append]
  rfl

theorem written_plainRun (text : List Char) : written (plainRun text) = squeeze text := by
  rw [written, plainRun_value]

def mark : Option Run → List Char
  | some href => '(' :: written href ++ [')']
  | none => []

def Segment.marks (target : Anchor → Option Run) : Segment → List Char
  | .piece part => written part.said
  | .link anchor content => written (content.flatMap Piece.said) ++ mark (target anchor)

theorem written_write (target : Anchor → Option Run) (fragment : List Segment) :
    written (write target fragment) = fragment.flatMap (Segment.marks target) := by
  have one (run : Run) (segment : Segment) : written (segment.write target run) = written run ++ segment.marks target := by
    cases segment with
    | piece part => exact written_append run part.said
    | link anchor content =>
      dsimp only [Segment.write, Segment.marks]
      cases target anchor with
      | none =>
        rw [mark, append_nil]
        exact written_append _ _
      | some href =>
        have space (text : List Char) : squeeze (spaceAfter text) = [] := by
          unfold spaceAfter
          split <;> rfl
        simp only [written_append, written_plainRun, space, append_nil, append_assoc, mark]
        rfl
  have all (run : Run) : written (fragment.foldl (Segment.write target) run) =
      written run ++ fragment.flatMap (Segment.marks target) := by
    induction fragment generalizing run with
    | nil => simp
    | cons segment fragment ih =>
      rw [foldl_cons, ih, one, flatMap_cons, append_assoc]
  exact (all []).trans (nil_append _)

theorem squeeze_length (text : List Char) : (squeeze text).length = text.countP fun c => !isWhitespace c :=
  countP_eq_length_filter.symm

theorem decoded_fewer (run : Run) : (squeeze (decodeEntities (encode run))).length ≤ (written run).length ∧
      ((squeeze (decodeEntities (encode run))).length = (written run).length → Settled run) := by
  rw [written, squeeze_length, squeeze_length]
  exact decode_countP rfl rfl run

theorem filter_map_aligned {α β : Type} {p : β → Bool} {f g : α → β} {items : List α} (aligned : ∀ x ∈ items, p (f x) = p (g x))
    (same : (items.map f).filter p = (items.map g).filter p) :
    ∀ x ∈ items, p (g x) = true → f x = g x := by
  induction items with
  | nil => exact fun x member => absurd member not_mem_nil
  | cons a items ih =>
    have head := aligned a mem_cons_self
    rw [map_cons, map_cons, filter_cons, filter_cons, head] at same
    have later := ih fun x member => aligned x (mem_cons_of_mem a member)
    rw [forall_mem_cons]
    split at same
    · obtain ⟨first, rest⟩ := List.cons.inj same
      exact ⟨fun _ => first, later rest⟩
    · rename_i out
      exact ⟨fun inside => absurd inside out, later same⟩

theorem mark_taken (anchor : Anchor) : (mark anchor.taken).length ≤ (mark anchor.denoted).length ∧
      (mark anchor.taken = mark anchor.denoted → anchor.Kept) := by
  cases double : anchor.single with
  | true =>
    rw [Anchor.taken, double]
    exact ⟨Nat.zero_le _, fun same => by cases same⟩
  | false =>
    obtain ⟨fewer, settled⟩ := decoded_fewer (anchor.href.map lowerAtom)
    have aligned : ∀ atom ∈ anchor.href, (!isWhitespace (lowerAtom atom).value) =
        !isWhitespace atom.value := fun atom _ => by rw [lowerAtom_blank]
    have length : (written (anchor.href.map lowerAtom)).length = (written anchor.href).length := by
      rw [written, written, squeeze_length, squeeze_length, map_map, countP_map, countP_map]
      exact countP_congr fun atom member => by
        rw [Function.comp_apply, Function.comp_apply, Function.comp_apply, aligned atom member]
    have target : anchor.taken = some (plainRun (decodeEntities (encode (anchor.href.map lowerAtom)))) := by
      rw [Anchor.taken, double, encode_lower]
      rfl
    rw [target, Anchor.denoted, mark, mark, written_plainRun, written_plainRun, ← written]
    refine ⟨by simpa using le_of_le_of_eq fewer length, fun same => ?_⟩
    have read : squeeze (decodeEntities (encode (anchor.href.map lowerAtom))) = written anchor.href := by
      simpa using same
    have kept := settled (by rw [read, length])
    rw [decodeEntities, decode_encode kept, map_map] at read
    refine ⟨double, fun c other member => ?_, kept⟩
    by_contra capital
    have letter := upper_induction (P := fun c l => isWhitespace c = false ∧ l ≠ c) (by decide) (Bool.of_not_eq_false capital)
    refine letter.2 (filter_map_aligned (p := fun c => !isWhitespace c) aligned read (.plain c other) member ?_)
    exact congrArg (!·) letter.1

/-- Parts no longer than others, and as long in all, are as long each. -/
theorem flatMap_aligned {α β : Type} {f g : α → List β} {items : List α} (fewer : ∀ x ∈ items, (f x).length ≤ (g x).length) :
    (items.flatMap f).length ≤ (items.flatMap g).length ∧ ((items.flatMap g).length ≤ (items.flatMap f).length →
        ∀ x ∈ items, (f x).length = (g x).length) := by
  induction items with
  | nil => exact ⟨Nat.le_refl _, fun _ x member => absurd member not_mem_nil⟩
  | cons a items ih =>
    have head := fewer a mem_cons_self
    obtain ⟨least, lengths⟩ := ih fun x member => fewer x (mem_cons_of_mem a member)
    simp only [flatMap_cons, length_append]
    refine ⟨by omega, fun most => ?_⟩
    rw [forall_mem_cons]
    exact ⟨by omega, lengths (by omega)⟩

theorem flatMap_inj {α β : Type} {f g : α → List β} {items : List α} (lengths : ∀ x ∈ items, (f x).length = (g x).length)
    (same : items.flatMap f = items.flatMap g) : ∀ x ∈ items, f x = g x := by
  induction items with
  | nil => exact fun x member => absurd member not_mem_nil
  | cons a items ih =>
    obtain ⟨head, rest⟩ := append_inj same (lengths a mem_cons_self)
    rw [forall_mem_cons]
    exact ⟨head, ih (fun x member => lengths x (mem_cons_of_mem a member)) rest⟩

/-! ### Fragments that are kept -/

/-- Each target is read as it is denoted, and no `&` of the text and targets together reads as an
    entity with what follows it. -/
structure Kept (fragment : List Segment) : Prop where
  anchors : ∀ anchor content, .link anchor content ∈ fragment → anchor.Kept
  settled : Settled (write Anchor.denoted fragment)

theorem write_congr {target target' : Anchor → Option Run} {fragment : List Segment}
    (same : ∀ anchor content, .link anchor content ∈ fragment → target anchor = target' anchor) :
    write target fragment = write target' fragment := by
  refine foldl_ext _ _ _ fun run segment member => ?_
  cases segment with
  | piece part => rfl
  | link anchor content =>
    dsimp only [Segment.write]
    rw [same anchor content member]

theorem Kept.of_layout {fragment : List Segment}
    (same : htmlToText (render fragment) = layout (said fragment)) : Kept fragment := by
  rw [htmlToText_render] at same
  have squeezed := congrArg squeeze same
  rw [squeeze_layout, squeeze_layout, said, ← written] at squeezed
  obtain ⟨fewer, settled⟩ := decoded_fewer (printed fragment)
  have marks : ∀ segment ∈ fragment, (segment.marks Anchor.taken).length ≤ (segment.marks Anchor.denoted).length := by
    intro segment _
    cases segment with
    | piece part => exact Nat.le_refl _
    | link anchor content =>
      rw [Segment.marks, Segment.marks, length_append, length_append]
      exact Nat.add_le_add_left (mark_taken anchor).1 _
  rw [squeezed, printed, written_write, written_write] at fewer settled
  have lengths := (flatMap_aligned marks).2 fewer
  have total : (fragment.flatMap (Segment.marks Anchor.denoted)).length =
      (fragment.flatMap (Segment.marks Anchor.taken)).length := by
    rw [length_flatMap, length_flatMap, map_congr_left lengths]
  have kept := settled total
  have equal : fragment.flatMap (Segment.marks Anchor.taken) = fragment.flatMap (Segment.marks Anchor.denoted) := by
    rw [← written_write, ← written_write, ← squeezed, printed, decodeEntities, decode_encode kept]
    rfl
  have anchors : ∀ anchor content, .link anchor content ∈ fragment → anchor.Kept := by
    intro anchor content member
    have here := flatMap_inj lengths equal _ member
    exact (mark_taken anchor).2 (append_cancel_left here)
  refine ⟨anchors, ?_⟩
  rwa [← write_congr fun anchor content member => (anchors anchor content member).taken]

def escapeAtom : Char → Atom entities
  | '&' => .escape ['a', 'm', 'p'] '&' rfl (by decide)
  | '<' => .escape ['l', 't'] '<' rfl (by decide)
  | '>' => .escape ['g', 't'] '>' rfl (by decide)
  | '"' => .escape ['q', 'u', 'o', 't'] '"' rfl (by decide)
  | c => ofSymbol entities c

/-- A text with `&`, `<`, `>` and `"` escaped. -/
def escapeText (text : List Char) : List Char := encode (text.map escapeAtom)

theorem escapeAtom_spec (c : Char) : (escapeAtom c).value = c ∧ '<' ∉ (escapeAtom c).encode ∧
    ∀ run, Settled run → Settled (escapeAtom c :: run) := by
  unfold escapeAtom
  split
  iterate 4 exact ⟨rfl, by decide, fun _ settled => settled⟩
  rename_i lead less _ _
  have plain : c ≠ entities.lead := lead
  refine ⟨ofSymbol_value c, by simpa using fun same => less same.symm, fun run settled => ?_⟩
  rwa [ofSymbol, dif_pos plain]

theorem html_escaped (text : List Char) : htmlToText (escapeText text) = layout text := by
  have noTag : '<' ∉ encode (text.map escapeAtom) := by
    rw [encode, mem_flatMap]
    rintro ⟨atom, member, inside⟩
    obtain ⟨c, -, rfl⟩ := mem_map.mp member
    exact (escapeAtom_spec c).2.1 inside
  have settled : Settled (text.map escapeAtom) := by
    clear noTag
    induction text with
    | nil => trivial
    | cons c text ih => exact (escapeAtom_spec c).2.2 _ ih
  have values : (text.map escapeAtom).map Atom.value = text := by
    rw [map_map]
    exact (map_congr_left fun c _ => (escapeAtom_spec c).1).trans (map_id _)
  have read := htmlToText_render [.piece (.text ⟨text.map escapeAtom, noTag⟩)]
  have same : encode (text.map escapeAtom) = render [.piece (.text ⟨text.map escapeAtom, noTag⟩)] := (append_nil _).symm
  have one : printed [.piece (.text ⟨text.map escapeAtom, noTag⟩)] = text.map escapeAtom := rfl
  rw [escapeText, same, read, one, decodeEntities, decode_encode settled, values]

def capitalAnchor : Anchor where
  name := 'a'
  before := [' ']
  key := ['h', 'r', 'e', 'f']
  single := false
  href := plainRun ['Q']
  after := []
  closeName := 'a'
  named := by decide
  spaced := by simp [OpensAfter, isWhitespace]
  keyed := by decide
  quoted := by decide
  inside := by decide
  first := by decide
  absent := by decide

/-- `<a href="Q">T</a>` -/
def capitalLink : List Segment := [.link capitalAnchor [.text ⟨plainRun ['T'], by decide⟩]]

end Mbv.Text
