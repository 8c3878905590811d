import Mbv.Settings.SavedKeys

namespace Mbv.Settings

open Text Input List

/-! ### What reading a table keeps of its order -/

structure SectionInOrder (bindings : SectionBindings) : Prop where
  router : Ordered.Sorted bindings.router
  prefixNamespace : Ordered.Sorted bindings.prefixNamespace
  named : ∀ binding ∈ bindings.router, binding.1 ≠ "prefix"

variable {table : Table}

theorem chordsOf_keys {message : String → String} {chords : List (String × String)}
    (read : chordsOf message table = .ok chords) : chords.map Prod.fst = table.map Prod.fst := by
  induction table generalizing chords with
  | nil =>
    cases read
    rfl
  | cons entry table ih =>
    obtain ⟨id, value⟩ := entry
    unfold chordsOf at read
    split at read
    · cases read
    · obtain ⟨rest, later, read⟩ := bind_ok read
      cases read
      simp [ih later]

theorem sorted_of_keys {α β : Type} {entries : List (String × α)} {others : List (String × β)}
    (sorted : Ordered.Sorted others) (keys : entries.map Prod.fst = others.map Prod.fst) :
    Ordered.Sorted entries := by
  have strict : (others.map Prod.fst).Pairwise (· < ·) := pairwise_map.mpr sorted
  rw [← keys] at strict
  exact pairwise_map.mp strict

variable {name : String}

theorem rawSection_keys {raw : RawSection} (read : rawSection name table = .ok raw) :
    raw.router.map Prod.fst = (table.map Prod.fst).filter (· ≠ "prefix") ∧
      ((∀ entry ∈ table, entry.1 ≠ "prefix") → raw.prefixNamespace = []) := by
  induction table generalizing raw with
  | nil =>
    cases read
    exact ⟨rfl, fun _ => rfl⟩
  | cons entry table ih =>
    obtain ⟨key, value⟩ := entry
    unfold rawSection at read
    split at read
    · rename_i nested
      split at read
      · cases read
      · obtain ⟨chords, -, read⟩ := bind_ok read
        obtain ⟨rest, later, read⟩ := bind_ok read
        cases read
        refine ⟨by simp [(ih later).1, nested], fun apart => ?_⟩
        exact absurd nested (apart (key, value) mem_cons_self)
    · rename_i plain
      split at read
      · cases read
      · obtain ⟨rest, later, read⟩ := bind_ok read
        cases read
        refine ⟨by simp [(ih later).1, plain], fun apart => ?_⟩
        exact (ih later).2 fun entry member => apart entry (mem_cons_of_mem _ member)

theorem rawSection_prefix_sorted {raw : RawSection} (read : rawSection name table = .ok raw)
    (sorted : Ordered.Sorted table) (each : ∀ entry ∈ table, entry.2.InOrder) :
    Ordered.Sorted raw.prefixNamespace := by
  induction table generalizing raw with
  | nil =>
    cases read
    exact List.Pairwise.nil
  | cons entry table ih =>
    obtain ⟨key, value⟩ := entry
    obtain ⟨first, rest⟩ := pairwise_cons.mp sorted
    unfold rawSection at read
    split at read
    · rename_i nested
      split at read
      · cases read
      · rename_i assigned found
        obtain ⟨chords, listed, read⟩ := bind_ok read
        obtain ⟨others, later, read⟩ := bind_ok read
        cases read
        have none := (rawSection_keys later).2 fun entry member => by
          have after := first entry member
          rw [nested] at after
          exact after.ne'
        have inner : Ordered.Sorted assigned := by
          have order := each (key, value) mem_cons_self
          cases value with
          | table entries =>
            cases found
            cases order with
            | table inside _ => exact inside
          | _ => cases found
        rw [none, append_nil]
        exact sorted_of_keys inner (chordsOf_keys listed)
    · split at read
      · cases read
      · obtain ⟨others, later, read⟩ := bind_ok read
        cases read
        have kept := ih later rest fun entry member => each entry (mem_cons_of_mem _ member)
        exact kept

theorem prefix_no_action : ∀ action ∈ keybindActions, action.id ≠ "prefix" := by decide

theorem named_sorted {entries : List (String × String)} {bindings : List (KeybindAction × Chord)}
    (compiles : Compiles entries bindings) (sorted : Ordered.Sorted entries) :
    Ordered.Sorted (named bindings) := by
  rw [compiles.named]
  refine List.Pairwise.filterMap entryChord ?_ sorted
  intro one other before first found second found'
  have key (entry : String × String) (chord : String × Chord) (given : entryChord entry = some chord) : chord.1 = entry.1 := by
    unfold entryChord at given
    split at given
    · cases given
    · obtain ⟨parsed, -, rfl⟩ := Option.map_eq_some_iff.mp given
      rfl
  rw [key one first found, key other second found']
  exact before

theorem loadSections_inOrder {seen : List String} {sections : List (String × RawSection)}
    {loaded : LoadedSections} (ok : loadSections seen sections = .ok loaded)
    (sorted : ∀ raw ∈ sections, Ordered.Sorted raw.2.router ∧ Ordered.Sorted raw.2.prefixNamespace) :
    ∀ entry ∈ loaded.sections, SectionInOrder entry.2 := by
  induction sections generalizing seen loaded with
  | nil =>
    cases ok
    simp
  | cons raw sections ih =>
    obtain ⟨name, raw⟩ := raw
    unfold loadSections at ok
    obtain ⟨keySection, found, ok⟩ := bind_ok ok
    obtain ⟨router, routed, ok⟩ := bind_ok ok
    obtain ⟨prefixNamespace, assigned, ok⟩ := bind_ok ok
    obtain ⟨rest, compiled, ok⟩ := bind_ok ok
    cases ok
    intro entry member
    obtain ⟨first, second⟩ := sorted (name, raw) mem_cons_self
    rcases mem_cons.mp member with rfl | later
    · refine ⟨named_sorted (loadRouter_ok routed) first, named_sorted (loadPrefixNamespace_ok assigned) second, ?_⟩
      intro binding there
      obtain ⟨given, here, rfl⟩ := mem_map.mp there
      exact prefix_no_action given.1 ((loadRouter_ok routed).declared given here)
    · exact ih compiled (fun raw there => sorted raw (mem_cons_of_mem _ there)) entry later

theorem rawEntries_sorted {raw : RawKeybinds} (read : rawEntries table = .ok raw) (each : ∀ entry ∈ table, entry.2.InOrder) :
    ∀ found ∈ raw.sections, Ordered.Sorted found.2.router ∧ Ordered.Sorted found.2.prefixNamespace := by
  induction table generalizing raw with
  | nil =>
    cases read
    simp
  | cons entry table ih =>
    obtain ⟨name, value⟩ := entry
    have rest := fun entry member => each entry (mem_cons_of_mem (name, value) member)
    unfold rawEntries at read
    split at read
    · split at read
      · cases read
      · obtain ⟨others, later, read⟩ := bind_ok read
        cases read
        have kept := ih later rest
        exact kept
    · split at read
      · cases read
      · rename_i inner found
        obtain ⟨raw, section', read⟩ := bind_ok read
        obtain ⟨others, later, read⟩ := bind_ok read
        cases read
        intro entry member
        rcases mem_cons.mp member with rfl | there
        · have order := each (name, value) mem_cons_self
          cases value with
          | table entries =>
            cases found
            cases order with
            | table inside values =>
              refine ⟨?_, rawSection_prefix_sorted section' inside values⟩
              have strict : (inner.map Prod.fst).Pairwise (· < ·) := pairwise_map.mpr inside
              have kept := strict.filter (· ≠ "prefix")
              rw [← (rawSection_keys section').1] at kept
              exact pairwise_map.mp kept
          | _ => cases found
        · exact ih later rest entry there

variable {keybinds : Keybinds}

theorem load_of_parseKeys {keys : Value} (parsed : parseKeys (some keys) = .ok keybinds) :
    ∃ raw, parseRawKeybinds keys = .ok raw ∧ load raw = .ok keybinds := by
  obtain ⟨raw, read, loaded⟩ := bind_ok parsed
  refine ⟨raw, read, ?_⟩
  cases result : load raw with
  | error error => simp [result, Except.mapError] at loaded
  | ok found => simpa [result, Except.mapError] using loaded

theorem parseKeys_inOrder {given : Option Value} (parsed : parseKeys given = .ok keybinds)
    (order : ∀ value ∈ given, value.InOrder) :
    (∃ raw, load raw = .ok keybinds) ∧ ∀ entry ∈ keybinds.sections, SectionInOrder entry.2 := by
  cases given with
  | none =>
    cases parsed
    exact ⟨⟨{}, rfl⟩, by simp⟩
  | some keys =>
    obtain ⟨raw, read, accepted⟩ := load_of_parseKeys parsed
    refine ⟨⟨raw, accepted⟩, ?_⟩
    have sorted : ∀ found ∈ raw.sections, Ordered.Sorted found.2.router ∧ Ordered.Sorted found.2.prefixNamespace := by
      have order := order keys rfl
      cases keys with
      | table entries =>
        cases order with
        | table inside values => exact rawEntries_sorted read values
      | _ => cases read
    obtain ⟨prefixChord, -, accepted⟩ := bind_ok accepted
    obtain ⟨configured, compiled, accepted⟩ := bind_ok accepted
    obtain ⟨⟨⟩, -, accepted⟩ := bind_ok accepted
    obtain ⟨⟨⟩, -, accepted⟩ := bind_ok accepted
    obtain ⟨⟨⟩, -, accepted⟩ := bind_ok accepted
    cases accepted
    exact loadSections_inOrder compiled sorted

/-! ### Reading what was written -/

theorem chordsOf_entries {message : String → String} (bindings : List (String × Chord)) :
    chordsOf message (chordEntries bindings) = .ok (chordTexts bindings) := by
  induction bindings with
  | nil => rfl
  | cons binding bindings ih =>
    unfold chordEntries chordTexts at ih ⊢
    simp only [map_cons, chordsOf, Value.asStr]
    rw [ih]
    rfl

theorem rawSection_chords {router : List (String × Chord)} (plain : ∀ binding ∈ router, binding.1 ≠ "prefix") :
    rawSection name (chordEntries router) = .ok ⟨chordTexts router, []⟩ := by
  induction router with
  | nil => rfl
  | cons binding router ih =>
    have later := ih fun other member => plain other (mem_cons_of_mem _ member)
    unfold chordEntries chordTexts at later ⊢
    simp only [map_cons, rawSection, Value.asStr]
    rw [if_neg (plain binding mem_cons_self), later]
    rfl

theorem rawSection_nested {router assigned : List (String × Chord)} (plain : ∀ binding ∈ router, binding.1 ≠ "prefix") :
    rawSection name (Ordered.insert "prefix" (.table (chordEntries assigned)) (chordEntries router)) =
      .ok ⟨chordTexts router, chordTexts assigned⟩ := by
  have here {entries : Table} {rest : RawSection} (read : rawSection name entries = .ok rest) :
      rawSection name (("prefix", .table (chordEntries assigned)) :: entries) =
        .ok { rest with prefixNamespace := chordTexts assigned ++ rest.prefixNamespace } := by
    simp only [rawSection, Value.asTable, if_true]
    rw [chordsOf_entries, read]
    rfl
  induction router with
  | nil =>
    have alone := @here [] {} rfl
    simpa [chordEntries, chordTexts, Ordered.insert] using alone
  | cons binding router ih =>
    have apart := plain binding mem_cons_self
    have rest : ∀ other ∈ router, other.1 ≠ "prefix" := fun other member =>
      plain other (mem_cons_of_mem _ member)
    simp only [chordEntries, map_cons, Ordered.insert]
    split
    · have whole := here (@rawSection_chords name _ plain)
      simpa [chordEntries] using whole
    · rw [if_neg (Ne.symm apart)]
      have later := ih rest
      unfold chordEntries at later
      simp only [rawSection, Value.asStr]
      rw [if_neg apart, later]
      rfl

theorem rawSection_saved {bindings : SectionBindings} (order : SectionInOrder bindings) :
    rawSection name (sectionTable bindings) = .ok (rawOfBindings bindings) := by
  have router : Ordered.collect (chordEntries bindings.router) = chordEntries bindings.router :=
    Ordered.collect_sorted (pairwise_map.mpr order.router)
  have assigned : Ordered.collect (chordEntries bindings.prefixNamespace) = chordEntries bindings.prefixNamespace :=
    Ordered.collect_sorted (pairwise_map.mpr order.prefixNamespace)
  unfold sectionTable
  dsimp only
  rw [router, assigned]
  split
  · rename_i none
    rw [rawSection_chords order.named]
    simp [rawOfBindings, chordTexts, none]
  · exact rawSection_nested order.named

/-! ### The whole table -/

def HasBindings (entry : KeySection × SectionBindings) : Prop :=
  entry.2.router ≠ [] ∨ entry.2.prefixNamespace ≠ []

instance (entry : KeySection × SectionBindings) : Decidable (HasBindings entry) :=
  inferInstanceAs (Decidable (_ ∨ _))

def sectionEntries (sections : List (KeySection × SectionBindings)) : Table :=
  sections.map fun entry => (fileName entry.1, .table (sectionTable entry.2))

def prefixEntries (chord : Option Chord) : Table :=
  chord.elim [] fun chord => [("prefix", .string chord.display)]

theorem fileName_plain (keySection : KeySection) : fileName keySection ≠ "prefix" := by
  cases keySection <;> decide

theorem sectionEntries_plain {sections : List (KeySection × SectionBindings)} :
    ∀ entry ∈ sectionEntries sections, entry.1 ≠ "prefix" := by
  intro entry member
  obtain ⟨given, -, rfl⟩ := mem_map.mp member
  exact fileName_plain given.1

theorem keysTable_foldl (keybinds : Keybinds) : keysTable keybinds =
      (sectionEntries (keybinds.sections.filter fun entry => decide (HasBindings entry))).foldl
        (fun map entry => Ordered.insert entry.1 entry.2 map) (prefixEntries keybinds.prefixChord) := by
  have run : ∀ (sections : List (KeySection × SectionBindings)) (start : Table), sections.foldl (fun keys entry =>
          if entry.2.router = [] ∧ entry.2.prefixNamespace = [] then keys
          else keys.put (fileName entry.1) (.table (sectionTable entry.2))) start =
      (sectionEntries (sections.filter fun entry => decide (HasBindings entry))).foldl
        (fun map entry => Ordered.insert entry.1 entry.2 map) start := by
    intro sections
    induction sections with
    | nil => exact fun _ => rfl
    | cons entry sections ih =>
      intro start
      rw [foldl_cons]
      split
      · rename_i bare
        rw [filter_cons_of_neg (by simp [HasBindings, bare]), ih]
      · rename_i bound
        have some : HasBindings entry := by
          unfold HasBindings
          exact Classical.not_and_iff_not_or_not.mp bound
        rw [filter_cons_of_pos (by simpa using some), ih]
        rfl
  unfold keysTable prefixEntries
  dsimp only
  rw [← run]
  cases keybinds.prefixChord <;> rfl

theorem keysTable_sorted (keybinds : Keybinds) : Ordered.Sorted (keysTable keybinds) := by
  rw [keysTable_foldl]
  apply Ordered.sorted_foldl
  cases keybinds.prefixChord with
  | none => exact List.Pairwise.nil
  | some chord => exact pairwise_singleton _ _

theorem keysTable_mem {entry : String × Value} (member : entry ∈ keysTable keybinds) :
    entry ∈ prefixEntries keybinds.prefixChord ∨
      ∃ given ∈ keybinds.sections, HasBindings given ∧ entry.1 = fileName given.1 := by
  rw [keysTable_foldl] at member
  rcases Ordered.mem_foldl member with first | later
  · exact .inl first
  · obtain ⟨given, there, rfl⟩ := mem_map.mp later
    obtain ⟨present, bound⟩ := mem_filter.mp there
    exact .inr ⟨given, present, by simpa using bound, rfl⟩

theorem rawEntries_names {raw : RawKeybinds} (read : rawEntries table = .ok raw) :
    raw.sections.map Prod.fst = (table.map Prod.fst).filter (· ≠ "prefix") := by
  induction table generalizing raw with
  | nil =>
    cases read
    rfl
  | cons entry table ih =>
    obtain ⟨name, value⟩ := entry
    unfold rawEntries at read
    split at read
    · rename_i chord
      split at read
      · cases read
      · obtain ⟨others, later, read⟩ := bind_ok read
        cases read
        simp [ih later, chord]
    · rename_i plain
      split at read
      · cases read
      · obtain ⟨found, -, read⟩ := bind_ok read
        obtain ⟨others, later, read⟩ := bind_ok read
        cases read
        simp [ih later, plain]

theorem loadSections_names {seen : List String} {sections : List (String × RawSection)}
    {loaded : LoadedSections} (ok : loadSections seen sections = .ok loaded) :
    loaded.sections.map (fun entry => fileName entry.1) = sections.map fun raw => asciiLowercase raw.1 := by
  induction sections generalizing seen loaded with
  | nil =>
    cases ok
    rfl
  | cons raw sections ih =>
    obtain ⟨name, raw⟩ := raw
    unfold loadSections at ok
    obtain ⟨keySection, found, ok⟩ := bind_ok ok
    obtain ⟨router, -, ok⟩ := bind_ok ok
    obtain ⟨prefixNamespace, -, ok⟩ := bind_ok ok
    obtain ⟨rest, compiled, ok⟩ := bind_ok ok
    cases ok
    simp [ih compiled, (newSection_ok found).1]

section Saved

variable {sections : List (KeySection × SectionBindings)}

theorem rawEntries_sections (order : ∀ entry ∈ sections, SectionInOrder entry.2) : rawEntries (sectionEntries sections) =
      .ok ⟨none, sections.map fun entry => (fileName entry.1, rawOfBindings entry.2)⟩ := by
  induction sections with
  | nil => rfl
  | cons entry sections ih =>
    have later := ih fun other member => order other (mem_cons_of_mem _ member)
    unfold sectionEntries at later ⊢
    simp only [map_cons, rawEntries, Value.asTable]
    rw [if_neg (fileName_plain entry.1), rawSection_saved (order entry mem_cons_self), later]
    rfl

theorem rawEntries_prefixed {text : String} (order : ∀ entry ∈ sections, SectionInOrder entry.2) :
    rawEntries (Ordered.insert "prefix" (.string text) (sectionEntries sections)) =
      .ok ⟨some text, sections.map fun entry => (fileName entry.1, rawOfBindings entry.2)⟩ := by
  have here {entries : Table} {found : List (String × RawSection)} (read : rawEntries entries = .ok ⟨none, found⟩) :
      rawEntries (("prefix", .string text) :: entries) = .ok ⟨some text, found⟩ := by
    simp only [rawEntries, Value.asStr, if_true]
    rw [read]
    rfl
  induction sections with
  | nil =>
    have alone := @here [] [] rfl
    simpa [sectionEntries, Ordered.insert] using alone
  | cons entry sections ih =>
    have apart := fileName_plain entry.1
    have rest : ∀ other ∈ sections, SectionInOrder other.2 := fun other member =>
      order other (mem_cons_of_mem _ member)
    simp only [sectionEntries, map_cons, Ordered.insert]
    split
    · have whole := here (rawEntries_sections order)
      simpa [sectionEntries] using whole
    · rw [if_neg (Ne.symm apart)]
      have later := ih rest
      unfold sectionEntries at later
      simp only [rawEntries, Value.asTable]
      rw [if_neg apart, rawSection_saved (order entry mem_cons_self), later]
      rfl

end Saved

/-- What the `[keys]` table of the saved file is. -/
def savedKeys (keybinds : Keybinds) : Option Value :=
  if (keysTable keybinds).isEmpty then none else some (.table (keysTable keybinds))

structure SavedInOrder (keybinds : Keybinds) : Prop where
  bound : ∀ entry ∈ keybinds.sections, HasBindings entry
  sorted : (keybinds.sections.map fun entry => fileName entry.1).Pairwise (· < ·)

theorem rawEntries_saved (saved : SavedInOrder keybinds) (order : ∀ entry ∈ keybinds.sections, SectionInOrder entry.2) :
    rawEntries (keysTable keybinds) = .ok (rawOf keybinds) := by
  have all : (keybinds.sections.filter fun entry => decide (HasBindings entry)) = keybinds.sections :=
    filter_eq_self.mpr fun entry member => by simpa using saved.bound entry member
  have sorted : Ordered.Sorted (sectionEntries keybinds.sections) := by
    have strict := saved.sorted
    rw [pairwise_map] at strict
    exact pairwise_map.mpr strict
  rw [keysTable_foldl, all]
  cases chord : keybinds.prefixChord with
  | none =>
    have kept := Ordered.collect_sorted sorted
    unfold Ordered.collect at kept
    have read := rawEntries_sections order
    simp only [prefixEntries, Option.elim_none]
    rw [kept, read]
    simp [rawOf, chord]
  | some chord' =>
    have kept := Ordered.collect_sorted sorted
    unfold Ordered.collect at kept
    have first := @Ordered.foldl_insert_comm _ _ _ "prefix" (.string chord'.display) []
      (sectionEntries keybinds.sections) sectionEntries_plain
    simp only [prefixEntries, Option.elim_some]
    rw [kept] at first
    rw [show [("prefix", Value.string chord'.display)] =
      Ordered.insert "prefix" (.string chord'.display) [] from rfl, first, rawEntries_prefixed order]
    simp [rawOf, chord]

theorem savedInOrder_of_parsed (parsed : parseKeys (savedKeys keybinds) = .ok keybinds) : SavedInOrder keybinds := by
  unfold savedKeys at parsed
  split at parsed
  · cases parsed
    exact ⟨by simp, List.Pairwise.nil⟩
  · obtain ⟨raw, read, loaded⟩ := load_of_parseKeys parsed
    have names := rawEntries_names read
    have opened : keybinds.sections.map (fun entry => fileName entry.1) =
        raw.sections.map fun found => asciiLowercase found.1 := by
      obtain ⟨prefixChord, -, loaded⟩ := bind_ok loaded
      obtain ⟨configured, compiled, loaded⟩ := bind_ok loaded
      obtain ⟨⟨⟩, -, loaded⟩ := bind_ok loaded
      obtain ⟨⟨⟩, -, loaded⟩ := bind_ok loaded
      obtain ⟨⟨⟩, -, loaded⟩ := bind_ok loaded
      cases loaded
      exact loadSections_names compiled
    -- every section that was read was written under its own name, by a section with bindings
    have written : ∀ name ∈ raw.sections.map Prod.fst, ∃ given ∈ keybinds.sections,
        HasBindings given ∧ name = fileName given.1 := by
      intro name member
      rw [names, mem_filter] at member
      obtain ⟨entry, here, rfl⟩ := mem_map.mp member.1
      rcases keysTable_mem here with first | later
      · have named : entry.1 = "prefix" := by
          unfold prefixEntries at first
          cases chord : keybinds.prefixChord with
          | none => simp [chord] at first
          | some chord' =>
            rw [chord, Option.elim_some, mem_singleton] at first
            rw [first]
        simp [named] at member
      · exact later
    have lowered : (raw.sections.map fun found => asciiLowercase found.1) = raw.sections.map Prod.fst := by
      apply map_congr_left
      intro found member
      obtain ⟨given, -, -, name⟩ := written found.1 (mem_map_of_mem member)
      rw [name, fileName_twice]
    have sorted : (keybinds.sections.map fun entry => fileName entry.1).Pairwise (· < ·) := by
      rw [opened, lowered, names]
      exact List.Pairwise.filter _ (pairwise_map.mpr (keysTable_sorted keybinds))
    refine ⟨fun entry member => ?_, sorted⟩
    have listed : fileName entry.1 ∈ raw.sections.map Prod.fst := by
      rw [← lowered, ← opened]
      exact mem_map_of_mem member
    obtain ⟨given, there, bound, same⟩ := written _ listed
    have once : (keybinds.sections.map fun entry => fileName entry.1).Nodup := sorted.imp fun before => before.ne
    rw [inj_on_of_nodup_map once member there same]
    exact bound

theorem parseKeys_saved_iff (accepted : ∃ raw, load raw = .ok keybinds)
    (order : ∀ entry ∈ keybinds.sections, SectionInOrder entry.2) :
    parseKeys (savedKeys keybinds) = .ok keybinds ↔ SavedInOrder keybinds := by
  refine ⟨savedInOrder_of_parsed, fun saved => ?_⟩
  have read := rawEntries_saved saved order
  unfold savedKeys
  split
  · rename_i empty
    rw [isEmpty_iff.mp empty] at read
    have none : rawOf keybinds = {} := (Except.ok.inj read).symm
    obtain ⟨prefixChord, sections⟩ := keybinds
    simp only [rawOf, RawKeybinds.mk.injEq, Option.map_eq_none_iff, map_eq_nil_iff] at none
    rw [none.1, none.2]
    rfl
  · obtain ⟨raw, loaded⟩ := accepted
    have again := load_again loaded
    simp only [parseKeys, parseRawKeybinds, Value.asTable]
    rw [read, ok_bind, again]
    rfl

end Mbv.Settings
