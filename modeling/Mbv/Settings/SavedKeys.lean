import Mbv.Settings.Save
import Mbv.Input.ChordText
import Mbv.Input.KeyRouting

namespace Mbv.Settings

open Text Input List

/-! The `[keys]` table that is saved loads to the key bindings it was saved from. -/

/-! ### The texts of the bindings -/

def chordTexts (bindings : List (String × Chord)) : List (String × String) :=
  bindings.map fun binding => (binding.1, binding.2.display)

def rawOfBindings (bindings : SectionBindings) : RawSection :=
  ⟨chordTexts bindings.router, chordTexts bindings.prefixNamespace⟩

def rawOf (keybinds : Keybinds) : RawKeybinds :=
  ⟨keybinds.prefixChord.map Chord.display,
    keybinds.sections.map fun entry => (fileName entry.1, rawOfBindings entry.2)⟩

/-! ### Loading them again -/

theorem ok_bind {ε α β : Type} (a : α) (f : α → Except ε β) : ((.ok a : Except ε α) >>= f) = f a := rfl

theorem parseConfigured_display {text entry other : String} {chord : Chord} (parsed : parseConfigured text entry = .ok chord) :
    parseConfigured chord.display other = .ok chord := by
  have read := parse_display (parse_readable (parseConfigured_ok parsed))
  have free : chord ∉ reservedChords := by
    unfold parseConfigured at parsed
    rw [parseConfigured_ok parsed] at parsed
    intro reserved
    simp [reserved] at parsed
  unfold parseConfigured
  simp [read, free]

theorem lookupInSection_again {id name other : String} {action : KeybindAction}
    (found : lookupInSection id name = .ok action) (alike : asciiLowercase other = asciiLowercase name) :
    lookupInSection action.id other = .ok action := by
  obtain ⟨member, rfl⟩ := lookupInSection_ok found
  unfold lookupInSection at found ⊢
  rw [actionById_self member] at found ⊢
  have here : eqIgnoreAsciiCase action.keySection.name name = true := by
    cases same : eqIgnoreAsciiCase action.keySection.name name with
    | true => rfl
    | false => simp [same] at found
  have there : eqIgnoreAsciiCase action.keySection.name other = true := by
    unfold eqIgnoreAsciiCase at here ⊢
    rw [alike]
    exact here
  simp [there]

theorem not_retired {action : KeybindAction} (declared : action ∈ keybindActions) : action.id ∉ retiredActionIds := by
  revert action
  decide

theorem loadRouter_again {name other : String} {entries : List (String × String)}
    {bindings : List (KeybindAction × Chord)} (loaded : loadRouter name entries = .ok bindings)
    (alike : asciiLowercase other = asciiLowercase name) :
    loadRouter other (chordTexts (named bindings)) = .ok bindings := by
  induction entries generalizing bindings with
  | nil =>
    cases loaded
    rfl
  | cons entry entries ih =>
    obtain ⟨id, text⟩ := entry
    unfold loadRouter at loaded
    split at loaded
    · exact ih loaded
    · obtain ⟨action, found, loaded⟩ := bind_ok loaded
      obtain ⟨chord, parsed, loaded⟩ := bind_ok loaded
      obtain ⟨rest, compiled, loaded⟩ := bind_ok loaded
      cases loaded
      have current := not_retired (lookupInSection_ok found).1
      have later := ih compiled
      unfold chordTexts named at later
      simp only [named, chordTexts, map_cons, loadRouter]
      rw [if_neg current, lookupInSection_again found alike, ok_bind, parseConfigured_display parsed, ok_bind, later]
      rfl

theorem loadPrefixNamespace_again {name other : String} {entries : List (String × String)}
    {bindings : List (KeybindAction × Chord)}
    (loaded : loadPrefixNamespace name entries = .ok bindings)
    (alike : asciiLowercase other = asciiLowercase name) :
    loadPrefixNamespace other (chordTexts (named bindings)) = .ok bindings := by
  induction entries generalizing bindings with
  | nil =>
    cases loaded
    rfl
  | cons entry entries ih =>
    obtain ⟨id, text⟩ := entry
    unfold loadPrefixNamespace at loaded
    split at loaded
    · exact ih loaded
    · obtain ⟨action, found, loaded⟩ := bind_ok loaded
      obtain ⟨⟨⟩, addressed, loaded⟩ := bind_ok loaded
      obtain ⟨chord, parsed, loaded⟩ := bind_ok loaded
      obtain ⟨rest, compiled, loaded⟩ := bind_ok loaded
      cases loaded
      have current := not_retired (lookupInSection_ok found).1
      have addressed' : addressable action action.id other = .ok () := by
        unfold addressable at addressed ⊢
        cases addressable : action.prefixAddressable with
        | true => simp
        | false => simp [addressable] at addressed
      have later := ih compiled
      unfold chordTexts named at later
      simp only [named, chordTexts, map_cons, loadPrefixNamespace]
      rw [if_neg current, lookupInSection_again found alike, ok_bind, addressed', ok_bind,
        parseConfigured_display parsed, ok_bind, later]
      rfl

theorem fileName_twice (keySection : KeySection) : asciiLowercase (fileName keySection) = fileName keySection := by
  cases keySection <;> decide

theorem fileName_injective : Function.Injective fileName := by
  intro one other same
  cases one <;> cases other <;> first | rfl | exact absurd same (by decide)

theorem newSection_ok {seen : List String} {name : String} {keySection : KeySection}
    (opened : newSection seen name = .ok keySection) :
    asciiLowercase name = fileName keySection ∧ ∀ other ∈ seen, asciiLowercase other ≠ asciiLowercase name := by
  unfold newSection at opened
  split at opened
  · cases opened
  · rename_i fresh
    split at opened
    · cases opened
    · rename_i declared found
      cases opened
      have alike := List.find?_some found
      simp only [eqIgnoreAsciiCase, decide_eq_true_eq] at alike
      refine ⟨alike.symm, fun other member same => ?_⟩
      have absent := List.find?_eq_none.mp fresh other member
      simp [eqIgnoreAsciiCase, same] at absent

theorem newSection_again {opened : List KeySection} {keySection : KeySection} (fresh : keySection ∉ opened) :
    newSection (opened.map fileName) (fileName keySection) = .ok keySection := by
  have none : (opened.map fileName).find? (fun other => eqIgnoreAsciiCase other (fileName keySection)) =
      none := by
    rw [List.find?_eq_none]
    intro name member
    obtain ⟨other, here, rfl⟩ := mem_map.mp member
    simp only [eqIgnoreAsciiCase, fileName_twice, decide_eq_true_eq]
    intro same
    exact fresh (fileName_injective same ▸ here)
  have found : KeySection.fromName (fileName keySection) = some keySection := by
    cases keySection <;> decide
  unfold newSection
  rw [none, found]

theorem loadSections_again {seen : List String} {opened : List KeySection}
    {sections : List (String × RawSection)} {loaded : LoadedSections}
    (ok : loadSections seen sections = .ok loaded)
    (alike : seen.map asciiLowercase = opened.map fileName) :
    loadSections (opened.map fileName)
      (loaded.sections.map fun entry => (fileName entry.1, rawOfBindings entry.2)) = .ok loaded := by
  induction sections generalizing seen opened loaded with
  | nil =>
    cases ok
    rfl
  | cons raw sections ih =>
    obtain ⟨name, raw⟩ := raw
    unfold loadSections at ok
    obtain ⟨keySection, found, ok⟩ := bind_ok ok
    obtain ⟨router, routed, ok⟩ := bind_ok ok
    obtain ⟨prefixNamespace, assigned, ok⟩ := bind_ok ok
    obtain ⟨rest, compiled, ok⟩ := bind_ok ok
    cases ok
    obtain ⟨same, unseen⟩ := newSection_ok found
    have fresh : keySection ∉ opened := by
      intro member
      have listed : fileName keySection ∈ seen.map asciiLowercase := by
        rw [alike]
        exact mem_map_of_mem member
      obtain ⟨other, there, equal⟩ := mem_map.mp listed
      exact unseen other there (equal.trans same.symm)
    have lowered : asciiLowercase (fileName keySection) = asciiLowercase name := (fileName_twice keySection).trans same.symm
    have later := @ih (seen ++ [name]) (opened ++ [keySection]) rest compiled (by simp [alike, same])
    rw [map_append] at later
    simp only [map_cons, loadSections, rawOfBindings]
    rw [newSection_again fresh, ok_bind, loadRouter_again routed lowered, ok_bind,
      loadPrefixNamespace_again assigned lowered, ok_bind]
    simp only [map_cons, map_nil, rawOfBindings] at later
    rw [later]
    rfl

theorem load_again {raw : RawKeybinds} {keybinds : Keybinds} (loaded : load raw = .ok keybinds) :
    load (rawOf keybinds) = .ok keybinds := by
  obtain ⟨prefixChord, parsed, loaded⟩ := bind_ok loaded
  obtain ⟨configured, compiled, loaded⟩ := bind_ok loaded
  obtain ⟨⟨⟩, unprefixed, loaded⟩ := bind_ok loaded
  obtain ⟨⟨⟩, unrouted, loaded⟩ := bind_ok loaded
  obtain ⟨⟨⟩, assigned, loaded⟩ := bind_ok loaded
  cases loaded
  have again : loadPrefix (prefixChord.map Chord.display) = .ok prefixChord := by
    cases given : raw.prefixChord with
    | none =>
      rw [given] at parsed
      cases parsed
      rfl
    | some text =>
      rw [given] at parsed
      obtain ⟨chord, read, same⟩ := bind_ok parsed
      cases same
      simp only [Option.map_some, loadPrefix]
      rw [parseConfigured_display read]
      rfl
  have sections := @loadSections_again [] [] raw.sections configured compiled rfl
  unfold load rawOf
  simp only
  rw [again, ok_bind, show ([] : List String) = [].map fileName from rfl, sections, ok_bind, unprefixed,
    ok_bind, unrouted, ok_bind, assigned]
  rfl

end Mbv.Settings
