import Mbv.Input.Keybinds
import Mathlib.Data.List.Pairwise

namespace Mbv.Input

open Text Surfaces List

/-! ### What a configuration says -/

def entryChord (entry : String × String) : Option (String × Chord) :=
  if entry.1 ∈ retiredActionIds then none else (Chord.parse entry.2).toOption.map (entry.1, ·)

namespace RawKeybinds

variable (raw : RawKeybinds)

def routerEntries : List (String × Chord) :=
  raw.sections.flatMap fun keySection => keySection.2.router.filterMap entryChord

def assignments : List (String × Chord) :=
  raw.sections.flatMap fun keySection => keySection.2.prefixNamespace.filterMap entryChord

def parsedPrefix : Option Chord := raw.prefixChord.bind fun text => (Chord.parse text).toOption

def effectiveChords (action : KeybindAction) : List Chord :=
  match raw.routerEntries.find? fun entry => entry.1 = action.id with
  | some entry => [entry.2]
  | none => action.parsedDefaultChords

end RawKeybinds

/-! ### Two spellings of one press -/

/-- Two spellings of one key press: `BackTab` with and without shift, or a letter under shift in
    either case. -/
structure Folds (one other : Chord) : Prop where
  different : one ≠ other
  ctrl : one.mods.ctrl = other.mods.ctrl
  alt : one.mods.alt = other.mods.alt
  folded : (one.key = .backTab ∧ other.key = .backTab) ∨
    (one.mods.shift = true ∧ other.mods.shift = true ∧ ∃ x y, one.key = .char x ∧
      other.key = .char y ∧ toAsciiLowercase x = toAsciiLowercase y)

theorem keyOf_injective : Function.Injective KeyChord.keyOf := by
  intro one other same
  cases one <;> cases other <;> cases same <;> rfl

theorem modifiersOf_eq {one other : KeyMods} : KeyChord.modifiersOf one = KeyChord.modifiersOf other ↔
      one.shift = other.shift ∧ one.ctrl = other.ctrl ∧ one.alt = other.alt := by
  unfold KeyChord.modifiersOf
  rw [KeyModifiers.mk.injEq]

theorem toAsciiLowercase_of_not {c : Char} (lower : isAsciiUppercase c = false) : toAsciiLowercase c = c := by
  unfold toAsciiLowercase
  rw [lower]
  rfl

theorem foldUnderShift_char (mods : KeyModifiers) (c : Char) : KeyChord.foldUnderShift mods (.char c) =
      .char (if mods.shift then toAsciiLowercase c else c) := by
  unfold KeyChord.foldUnderShift
  cases mods.shift with
  | false => simp
  | true =>
    cases upper : isAsciiUppercase c with
    | false => simp [toAsciiLowercase_of_not upper]
    | true => simp [upper]

theorem fromKeybindsChord_char (mods : KeyMods) (c : Char) : KeyChord.fromKeybindsChord ⟨mods, .char c⟩ =
      ⟨.char (if mods.shift then toAsciiLowercase c else c), KeyChord.modifiersOf mods⟩ := by
  show KeyChord.mk (KeyChord.foldUnderShift (KeyChord.modifiersOf mods) (.char c)) _ = _
  rw [foldUnderShift_char]
  rfl

theorem fromKeybindsChord_backTab (mods : KeyMods) :
    KeyChord.fromKeybindsChord ⟨mods, .backTab⟩ = ⟨.backTab, ⟨false, mods.ctrl, mods.alt⟩⟩ := rfl

theorem fromKeybindsChord_other {chord : Chord} (notTab : chord.key ≠ .backTab)
    (notChar : ∀ c, chord.key ≠ .char c) : KeyChord.fromKeybindsChord chord =
      ⟨KeyChord.keyOf chord.key, KeyChord.modifiersOf chord.mods⟩ := by
  obtain ⟨mods, key⟩ := chord
  cases key <;> first
    | rfl
    | exact absurd rfl notTab
    | exact absurd rfl (notChar _)

theorem chord_ext {one other : Chord} (key : one.key = other.key)
    (mods : KeyChord.modifiersOf one.mods = KeyChord.modifiersOf other.mods) : one = other := by
  obtain ⟨⟨ctrl, shift, alt⟩, first⟩ := one
  obtain ⟨⟨ctrl', shift', alt'⟩, second⟩ := other
  obtain ⟨rfl, rfl, rfl⟩ := modifiersOf_eq.mp mods
  rw [show first = second from key]

theorem fromKeybindsChord_code (chord : Chord) : (chord.key = .backTab ↔ (KeyChord.fromKeybindsChord chord).code = .backTab) ∧
      ((∃ c, chord.key = .char c) ↔ ∃ c, (KeyChord.fromKeybindsChord chord).code = .char c) := by
  obtain ⟨mods, key⟩ := chord
  cases key with
  | char c =>
    rw [fromKeybindsChord_char]
    exact ⟨⟨fun wrong => (nomatch wrong), fun wrong => (nomatch wrong)⟩, ⟨fun _ => ⟨_, rfl⟩, fun _ => ⟨_, rfl⟩⟩⟩
  | backTab =>
    exact ⟨⟨fun _ => rfl, fun _ => rfl⟩, ⟨fun ⟨_, wrong⟩ => (nomatch wrong), fun ⟨_, wrong⟩ => (nomatch wrong)⟩⟩
  | _ =>
    exact ⟨⟨fun wrong => (nomatch wrong), fun wrong => (nomatch wrong)⟩,
      ⟨fun ⟨_, wrong⟩ => (nomatch wrong), fun ⟨_, wrong⟩ => (nomatch wrong)⟩⟩

theorem fromKeybindsChord_eq {one other : Chord} : KeyChord.fromKeybindsChord one = KeyChord.fromKeybindsChord other ↔
      one = other ∨ Folds one other := by
  constructor
  · intro same
    by_cases equal : one = other
    · exact Or.inl equal
    · refine Or.inr ?_
      obtain ⟨oneTab, oneChar⟩ := fromKeybindsChord_code one
      obtain ⟨otherTab, otherChar⟩ := fromKeybindsChord_code other
      by_cases tab : one.key = .backTab
      · have tab' : other.key = .backTab := otherTab.mpr (same ▸ oneTab.mp tab)
        obtain ⟨mods, key⟩ := one
        obtain ⟨mods', key'⟩ := other
        cases (show key = .backTab from tab)
        cases (show key' = .backTab from tab')
        rw [fromKeybindsChord_backTab, fromKeybindsChord_backTab, KeyChord.mk.injEq, KeyModifiers.mk.injEq] at same
        exact ⟨equal, same.2.2.1, same.2.2.2, Or.inl ⟨rfl, rfl⟩⟩
      · by_cases char : ∃ c, one.key = .char c
        · have char' : ∃ c, other.key = .char c := otherChar.mpr (same ▸ oneChar.mp char)
          obtain ⟨mods, key⟩ := one
          obtain ⟨mods', key'⟩ := other
          obtain ⟨x, named⟩ := char
          obtain ⟨y, named'⟩ := char'
          cases (show key = .char x from named)
          cases (show key' = .char y from named')
          rw [fromKeybindsChord_char, fromKeybindsChord_char, KeyChord.mk.injEq, Key.char.injEq, modifiersOf_eq] at same
          obtain ⟨letter, shift, ctrl, alt⟩ := same
          cases shifted : mods.shift with
          | false =>
            rw [← shift, shifted, if_neg Bool.false_ne_true, if_neg Bool.false_ne_true] at letter
            have again := @chord_ext ⟨mods, .char x⟩ ⟨mods', .char y⟩
              (congrArg ChordKey.char letter) (modifiersOf_eq.mpr ⟨shift, ctrl, alt⟩)
            exact absurd again equal
          | true =>
            rw [← shift, shifted, if_pos rfl, if_pos rfl] at letter
            exact ⟨equal, ctrl, alt, Or.inr ⟨shifted, shift ▸ shifted, x, y, rfl, rfl, letter⟩⟩
        · have tab' : other.key ≠ .backTab := fun wrong => tab (oneTab.mpr (same ▸ otherTab.mp wrong))
          have char' : ¬ ∃ c, other.key = .char c := fun wrong => char (oneChar.mpr (same ▸ otherChar.mp wrong))
          rw [fromKeybindsChord_other tab (not_exists.mp char),
            fromKeybindsChord_other tab' (not_exists.mp char'), KeyChord.mk.injEq] at same
          exact absurd (chord_ext (keyOf_injective same.1) same.2) equal
  · rintro (rfl | folds)
    · rfl
    · obtain ⟨⟨ctrl, shift, alt⟩, first⟩ := one
      obtain ⟨⟨ctrl', shift', alt'⟩, second⟩ := other
      obtain ⟨-, rfl, rfl, folded⟩ := folds
      rcases folded with ⟨rfl, rfl⟩ | ⟨rfl, rfl, x, y, rfl, rfl, lower⟩
      · rfl
      · rw [fromKeybindsChord_char, fromKeybindsChord_char, if_pos rfl, if_pos rfl, lower]

/-! ### What loading leaves -/

theorem bind_ok {ε α β : Type} {x : Except ε α} {f : α → Except ε β} {b : β}
    (result : x >>= f = .ok b) : ∃ a, x = .ok a ∧ f a = .ok b := by
  cases x with
  | error error => cases result
  | ok a => exact ⟨a, rfl, result⟩

theorem lookupInSection_ok {id sectionName : String} {action : KeybindAction}
    (found : lookupInSection id sectionName = .ok action) :
    action ∈ keybindActions ∧ action.id = id := by
  unfold lookupInSection at found
  split at found
  · cases found
  · rename_i declared looked
    split at found
    · cases found
      exact actionById_mem looked
    · cases found

theorem parseConfigured_ok {text entry : String} {chord : Chord}
    (parsed : parseConfigured text entry = .ok chord) : Chord.parse text = .ok chord := by
  unfold parseConfigured at parsed
  split at parsed
  · cases parsed
  · rename_i other found
    split at parsed
    · cases parsed
    · cases parsed
      exact found

structure Compiles (entries : List (String × String)) (bindings : List (KeybindAction × Chord)) :
    Prop where
  named : named bindings = entries.filterMap entryChord
  declared : ∀ binding ∈ bindings, binding.1 ∈ keybindActions

variable {bindings : List (KeybindAction × Chord)} {entries : List (String × String)}

theorem Compiles.skip (compiles : Compiles entries bindings) {id chord : String} (retired : id ∈ retiredActionIds) :
    Compiles ((id, chord) :: entries) bindings := by
  have none : entryChord (id, chord) = none := if_pos retired
  refine ⟨?_, compiles.declared⟩
  rw [filterMap_cons_none none]
  exact compiles.named

theorem Compiles.cons (compiles : Compiles entries bindings) {id text sectionName entry : String}
    (current : id ∉ retiredActionIds) {action : KeybindAction} {chord : Chord}
    (found : lookupInSection id sectionName = .ok action)
    (parsed : parseConfigured text entry = .ok chord) :
    Compiles ((id, text) :: entries) ((action, chord) :: bindings) := by
  obtain ⟨member, rfl⟩ := lookupInSection_ok found
  have some : entryChord (action.id, text) = some (action.id, chord) := by
    unfold entryChord
    rw [if_neg current, parseConfigured_ok parsed]
    rfl
  refine ⟨?_, fun binding there => ?_⟩
  · rw [filterMap_cons_some some, ← compiles.named]
    rfl
  · rcases mem_cons.mp there with rfl | later
    · exact member
    · exact compiles.declared binding later

theorem compiles_nil : Compiles [] [] := ⟨rfl, fun _ none => nomatch none⟩

theorem loadRouter_ok {sectionName : String}
    (loaded : loadRouter sectionName entries = .ok bindings) : Compiles entries bindings := by
  induction entries generalizing bindings with
  | nil =>
    cases loaded
    exact compiles_nil
  | cons entry entries ih =>
    obtain ⟨id, text⟩ := entry
    unfold loadRouter at loaded
    split at loaded
    · rename_i retired
      exact (ih loaded).skip retired
    · rename_i current
      obtain ⟨action, found, loaded⟩ := bind_ok loaded
      obtain ⟨chord, parsed, loaded⟩ := bind_ok loaded
      obtain ⟨rest, compiled, loaded⟩ := bind_ok loaded
      cases loaded
      exact (ih compiled).cons current found parsed

theorem loadPrefixNamespace_ok {sectionName : String} (loaded : loadPrefixNamespace sectionName entries = .ok bindings) :
    Compiles entries bindings := by
  induction entries generalizing bindings with
  | nil =>
    cases loaded
    exact compiles_nil
  | cons entry entries ih =>
    obtain ⟨id, text⟩ := entry
    unfold loadPrefixNamespace at loaded
    split at loaded
    · rename_i retired
      exact (ih loaded).skip retired
    · rename_i current
      obtain ⟨action, found, loaded⟩ := bind_ok loaded
      obtain ⟨-, -, loaded⟩ := bind_ok loaded
      obtain ⟨chord, parsed, loaded⟩ := bind_ok loaded
      obtain ⟨rest, compiled, loaded⟩ := bind_ok loaded
      cases loaded
      exact (ih compiled).cons current found parsed

theorem named_find (bindings : List (KeybindAction × Chord)) (id : String) : ((named bindings).find? fun entry => entry.1 = id) =
      (bindings.find? fun binding => binding.1.id = id).map fun binding => (binding.1.id, binding.2) :=
  find?_map ..

theorem named_append (first second : List (KeybindAction × Chord)) :
    named (first ++ second) = named first ++ named second := map_append

structure CompilesSections (sections : List (String × RawSection)) (loaded : LoadedSections) :
    Prop where
  router : named loaded.router = sections.flatMap fun raw => raw.2.router.filterMap entryChord
  prefixNamespace : named loaded.prefixNamespace =
    sections.flatMap fun raw => raw.2.prefixNamespace.filterMap entryChord
  routerSections : loaded.sections.flatMap (·.2.router) = named loaded.router
  prefixSections : loaded.sections.flatMap (·.2.prefixNamespace) = named loaded.prefixNamespace
  declared : ∀ binding ∈ loaded.router ++ loaded.prefixNamespace, binding.1 ∈ keybindActions

theorem loadSections_ok {seen : List String} {sections : List (String × RawSection)}
    {loaded : LoadedSections} (ok : loadSections seen sections = .ok loaded) :
    CompilesSections sections loaded := by
  induction sections generalizing seen loaded with
  | nil =>
    cases ok
    exact ⟨rfl, rfl, rfl, rfl, fun _ none => nomatch none⟩
  | cons raw sections ih =>
    obtain ⟨sectionName, raw⟩ := raw
    unfold loadSections at ok
    obtain ⟨keySection, -, ok⟩ := bind_ok ok
    obtain ⟨router, routed, ok⟩ := bind_ok ok
    obtain ⟨prefixNamespace, assigned, ok⟩ := bind_ok ok
    obtain ⟨rest, compiled, ok⟩ := bind_ok ok
    cases ok
    have first := loadRouter_ok routed
    have second := loadPrefixNamespace_ok assigned
    have later := ih compiled
    refine ⟨?_, ?_, ?_, ?_, fun binding member => ?_⟩
    · rw [named_append, flatMap_cons, first.named, later.router]
    · rw [named_append, flatMap_cons, second.named, later.prefixNamespace]
    · rw [named_append, flatMap_cons, later.routerSections]
    · rw [named_append, flatMap_cons, later.prefixSections]
    · simp only [mem_append] at member
      rcases member with (old | new) | (old | new)
      · exact first.declared binding old
      · exact later.declared binding (mem_append_left _ new)
      · exact second.declared binding old
      · exact later.declared binding (mem_append_right _ new)

/-! ### What the rejections leave -/

section Rejections

variable {router prefixNamespace : List (KeybindAction × Chord)}

theorem rejectRouterCollisions_ok (accepted : rejectRouterCollisions router = .ok ()) :
    ∀ binding ∈ router, ∀ other ∈ keybindActions, other.id ≠ binding.1.id → binding.2 ∉ effectiveChords router other := by
  unfold rejectRouterCollisions at accepted
  split at accepted
  · cases accepted
  · rename_i none
    intro binding member other declared apart shared
    have missed := List.findSome?_eq_none_iff.mp none binding member
    have absent := List.find?_eq_none.mp (Option.map_eq_none_iff.mp missed) other declared
    simp [apart, shared] at absent

variable {chord : Chord}

theorem effectiveChords_configured {action : KeybindAction} (effective : chord ∈ effectiveChords router action) :
    (∃ binding ∈ router, binding.1.id = action.id ∧ binding.2 = chord) ∨
      (isConfigured router action = false ∧ chord ∈ action.parsedDefaultChords) := by
  unfold effectiveChords at effective
  split at effective
  · rename_i binding found
    have same := List.find?_some found
    exact Or.inl ⟨binding, mem_of_find?_eq_some found, by simpa using same, (mem_singleton.mp effective).symm⟩
  · rename_i none
    refine Or.inr ⟨?_, effective⟩
    unfold isConfigured
    rw [any_eq_false]
    exact List.find?_eq_none.mp none

theorem rejectPrefixCollisions_ok (accepted : rejectPrefixCollisions (some chord) router prefixNamespace = .ok ()) :
    ∀ action ∈ keybindActions, chord ∉ effectiveChords router action := by
  unfold rejectPrefixCollisions at accepted
  dsimp only at accepted
  split at accepted
  · cases accepted
  · rename_i none
    unfold prefixCollision at none
    simp only [Option.or_eq_none_iff, Option.map_eq_none_iff] at none
    obtain ⟨routed, -, declared⟩ := none
    intro action member effective
    rcases effectiveChords_configured effective with ⟨binding, there, -, same⟩ | ⟨free, default⟩
    · have absent := List.find?_eq_none.mp routed binding there
      simp [same] at absent
    · have absent := List.find?_eq_none.mp declared action member
      simp [free, default] at absent

theorem rejectPrefixNamespaceCollisions_ok (accepted : rejectPrefixNamespaceCollisions prefixNamespace = .ok ()) :
    prefixNamespace.Pairwise fun first second => first.1.id ≠ second.1.id → first.2 ≠ second.2 := by
  induction prefixNamespace with
  | nil => exact List.Pairwise.nil
  | cons first later ih =>
    obtain ⟨action, chord⟩ := first
    unfold rejectPrefixNamespaceCollisions at accepted
    split at accepted
    · cases accepted
    · rename_i none
      refine pairwise_cons.mpr ⟨fun second member apart same => ?_, ih accepted⟩
      have absent := List.find?_eq_none.mp none second member
      simp only [ne_eq, apart, not_false_eq_true, decide_true, Bool.true_and, decide_eq_true_eq] at absent
      exact absent same

theorem defaults_nodup : (keybindActions.flatMap (·.parsedDefaultChords)).Nodup := by
  decide +kernel

theorem defaults_apart {one other : KeybindAction} (first : one ∈ keybindActions)
    (second : other ∈ keybindActions) (apart : one ≠ other)
    (default : chord ∈ one.parsedDefaultChords) : chord ∉ other.parsedDefaultChords := by
  have pairs := (nodup_flatMap.mp defaults_nodup).2
  have symmetric : Std.Symm (Function.onFun List.Disjoint KeybindAction.parsedDefaultChords) :=
    ⟨fun _ _ disjoint _ member other => disjoint other member⟩
  have disjoint := List.Pairwise.forall pairs first second apart
  exact fun default' => disjoint default default'

theorem effectiveChords_apart (accepted : rejectRouterCollisions router = .ok ())
    {one other : KeybindAction} (first : one ∈ keybindActions) (second : other ∈ keybindActions)
    (apart : one ≠ other) (effective : chord ∈ effectiveChords router one) :
    chord ∉ effectiveChords router other := by
  have ids : one.id ≠ other.id := fun same => apart (action_ext first second same)
  have checked := rejectRouterCollisions_ok accepted
  intro shared
  rcases effectiveChords_configured effective with ⟨binding, there, named, rfl⟩ | ⟨free, default⟩
  · exact checked binding there other second (fun same => ids (named ▸ same).symm) shared
  · rcases effectiveChords_configured shared with ⟨binding, there, named, rfl⟩ | ⟨-, default'⟩
    · exact checked binding there one first (fun same => ids (same.trans named)) effective
    · exact defaults_apart first second apart default default'

end Rejections

/-! ### Accepted configurations -/

variable {raw : RawKeybinds}

theorem effectiveChords_eq {configured : LoadedSections}
    (compiles : CompilesSections raw.sections configured) (action : KeybindAction) :
    effectiveChords configured.router action = raw.effectiveChords action := by
  have entries : raw.routerEntries = named configured.router := compiles.router.symm
  unfold effectiveChords RawKeybinds.effectiveChords
  rw [entries, named_find]
  cases configured.router.find? fun binding => binding.1.id = action.id <;> rfl

structure Accepts (raw : RawKeybinds) (keybinds : Keybinds) : Prop where
  prefixChord : keybinds.prefixChord = raw.parsedPrefix
  routerChords : ∀ action, keybinds.routerChords action = raw.effectiveChords action
  assignments : named keybinds.prefixAssignments = raw.assignments
  apart : ∀ one ∈ keybindActions, ∀ other ∈ keybindActions, one ≠ other →
    ∀ chord ∈ raw.effectiveChords one, chord ∉ raw.effectiveChords other
  unprefixed : ∀ chord ∈ raw.parsedPrefix, ∀ action ∈ keybindActions,
    chord ∉ raw.effectiveChords action
  assigned : raw.assignments.Pairwise fun first second => first.1 ≠ second.1 → first.2 ≠ second.2

variable {keybinds : Keybinds}

theorem load_accepts (loaded : load raw = .ok keybinds) : Accepts raw keybinds := by
  obtain ⟨prefixChord, parsed, loaded⟩ := bind_ok loaded
  obtain ⟨configured, compiled, loaded⟩ := bind_ok loaded
  obtain ⟨⟨⟩, unprefixed, loaded⟩ := bind_ok loaded
  obtain ⟨⟨⟩, unrouted, loaded⟩ := bind_ok loaded
  obtain ⟨⟨⟩, assigned, loaded⟩ := bind_ok loaded
  cases loaded
  have compiles := loadSections_ok compiled
  have effective := effectiveChords_eq compiles
  have chord : prefixChord = raw.parsedPrefix := by
    unfold RawKeybinds.parsedPrefix
    cases given : raw.prefixChord with
    | none =>
      rw [given] at parsed
      cases parsed
      rfl
    | some text =>
      rw [given] at parsed
      obtain ⟨chord, read, same⟩ := bind_ok parsed
      cases same
      rw [Option.bind_some, parseConfigured_ok read]
      rfl
  have listed : ∀ bindings : List (KeybindAction × Chord), (∀ binding ∈ bindings, binding.1 ∈ keybindActions) →
      (named bindings).filterMap (fun entry => (actionById entry.1).map (·, entry.2)) = bindings := by
    intro bindings declared
    unfold named
    rw [filterMap_map]
    induction bindings with
    | nil => rfl
    | cons binding bindings ih =>
      have found := actionById_self (declared binding mem_cons_self)
      have rest := ih fun other member => declared other (mem_cons_of_mem _ member)
      rw [filterMap_cons, rest]
      simp [found]
  refine ⟨chord, fun action => ?_, ?_, ?_, ?_, ?_⟩
  · rw [← effective action]
    unfold Keybinds.routerChords Keybinds.routerOverride effectiveChords
    rw [compiles.routerSections, named_find]
    cases configured.router.find? fun binding => binding.1.id = action.id <;> rfl
  · unfold Keybinds.prefixAssignments
    rw [compiles.prefixSections, listed _ fun binding member =>
      compiles.declared binding (mem_append_right _ member), compiles.prefixNamespace]
    rfl
  · intro one first other second apart chord member
    rw [← effective] at member ⊢
    exact effectiveChords_apart unrouted first second apart member
  · intro chord' held action member
    rw [← chord, Option.mem_def] at held
    rw [held] at unprefixed
    rw [← effective]
    exact rejectPrefixCollisions_ok unprefixed action member
  · have entries : raw.assignments = named configured.prefixNamespace := compiles.prefixNamespace.symm
    rw [entries]
    unfold named
    rw [pairwise_map]
    exact rejectPrefixNamespaceCollisions_ok assigned

/-! ### Routing a key -/

/-- At most one action is fired by an event, none by one that arms the prefix, and no two prefix
    assignments are for one event. -/
structure Unambiguous (keybinds : Keybinds) : Prop where
  fires : ∀ event, ∀ one ∈ keybindActions, ∀ other ∈ keybindActions,
    keybinds.fires one event = true → keybinds.fires other event = true → one = other
  arms : ∀ event, keybinds.arms event = true → ∀ action ∈ keybindActions,
    keybinds.fires action event = false
  assigns : ∀ event, keybinds.prefixAssignments.Pairwise fun one other =>
    ¬ (Keybinds.assigns one event = true ∧ Keybinds.assigns other event = true)

/-- No key press is spelt in two ways, nor assigned to one action twice. -/
structure SpeltOnce (raw : RawKeybinds) : Prop where
  router : ∀ one ∈ keybindActions, ∀ other ∈ keybindActions, one ≠ other →
    ∀ chord ∈ raw.effectiveChords one, ∀ chord' ∈ raw.effectiveChords other, ¬ Folds chord chord'
  armed : ∀ chord ∈ raw.parsedPrefix, ∀ action ∈ keybindActions,
    ∀ chord' ∈ raw.effectiveChords action, ¬ Folds chord chord'
  assigned : raw.assignments.Pairwise fun one other =>
    ¬ Folds one.2 other.2 ∧ (one.1 = other.1 → one.2 ≠ other.2)

def Chord.event (chord : Chord) : KeyEvent :=
  ⟨KeyChord.keyOf chord.key, KeyChord.modifiersOf chord.mods⟩

theorem fromKey_event (chord : Chord) : KeyChord.fromKey chord.event = KeyChord.fromKeybindsChord chord := rfl

theorem fires_iff {action : KeybindAction} {event : KeyEvent} :
    keybinds.fires action event = true ↔ ∃ chord ∈ keybinds.routerChords action,
      KeyChord.fromKeybindsChord chord = KeyChord.fromKey event := by
  unfold Keybinds.fires
  simp

theorem arms_iff {event : KeyEvent} : keybinds.arms event = true ↔ ∃ chord ∈ keybinds.prefixChord,
      KeyChord.fromKeybindsChord chord = KeyChord.fromKey event := by
  unfold Keybinds.arms
  rw [decide_eq_true_eq, Option.map_eq_some_iff]
  rfl

theorem Accepts.unambiguous (accepts : Accepts raw keybinds) (spelt : SpeltOnce raw) : Unambiguous keybinds := by
  refine ⟨fun event one first other second fires fires' => ?_, fun event armed action member => ?_, fun event => ?_⟩
  · obtain ⟨chord, bound, pressed⟩ := fires_iff.mp fires
    obtain ⟨chord', bound', pressed'⟩ := fires_iff.mp fires'
    rw [accepts.routerChords] at bound bound'
    by_contra apart
    rcases fromKeybindsChord_eq.mp (pressed.trans pressed'.symm) with rfl | folds
    · exact accepts.apart one first other second apart chord bound bound'
    · exact spelt.router one first other second apart chord bound chord' bound' folds
  · obtain ⟨chord, held, pressed⟩ := arms_iff.mp armed
    rw [accepts.prefixChord] at held
    rw [← Bool.not_eq_true, fires_iff]
    rintro ⟨chord', bound, pressed'⟩
    rw [accepts.routerChords] at bound
    rcases fromKeybindsChord_eq.mp (pressed.trans pressed'.symm) with rfl | folds
    · exact accepts.unprefixed chord held action member bound
    · exact spelt.armed chord held action member chord' bound folds
  · have pairs := accepts.assigned.and spelt.assigned
    rw [← accepts.assignments] at pairs
    unfold named at pairs
    rw [pairwise_map] at pairs
    refine pairs.imp fun {one other} both => ?_
    obtain ⟨distinct, unfolded, twice⟩ := both
    rintro ⟨first, second⟩
    unfold Keybinds.assigns at first second
    rw [decide_eq_true_eq] at first second
    rcases fromKeybindsChord_eq.mp (first.trans second.symm) with same | folds
    · by_cases ids : one.1.id = other.1.id
      · exact twice ids same
      · exact distinct ids same
    · exact unfolded folds

theorem Accepts.speltOnce (accepts : Accepts raw keybinds) (unambiguous : Unambiguous keybinds) : SpeltOnce raw := by
  have fires : ∀ action, ∀ chord ∈ raw.effectiveChords action, ∀ event,
      KeyChord.fromKeybindsChord chord = KeyChord.fromKey event → keybinds.fires action event = true := by
    intro action chord bound event pressed
    rw [← accepts.routerChords] at bound
    exact fires_iff.mpr ⟨chord, bound, pressed⟩
  refine ⟨fun one first other second apart chord bound chord' bound' folds => ?_,
    fun chord held action member chord' bound folds => ?_, ?_⟩
  · have press := fromKeybindsChord_eq.mpr (Or.inr folds)
    exact apart (unambiguous.fires chord.event one first other second (fires one chord bound _ (fromKey_event chord).symm)
      (fires other chord' bound' _ (press.symm.trans (fromKey_event chord).symm)))
  · have press := fromKeybindsChord_eq.mpr (Or.inr folds)
    rw [← accepts.prefixChord] at held
    have armed : keybinds.arms chord.event = true := arms_iff.mpr ⟨chord, held, (fromKey_event chord).symm⟩
    have silent := unambiguous.arms chord.event armed action member
    rw [fires action chord' bound _ (press.symm.trans (fromKey_event chord).symm)] at silent
    cases silent
  · rw [← accepts.assignments]
    unfold named
    rw [pairwise_map, pairwise_iff_getElem]
    intro i j left right before
    have assigned : ∀ event, ¬ (Keybinds.assigns keybinds.prefixAssignments[i] event = true ∧
        Keybinds.assigns keybinds.prefixAssignments[j] event = true) := fun event =>
      pairwise_iff_getElem.mp (unambiguous.assigns event) i j left right before
    have apart : KeyChord.fromKeybindsChord keybinds.prefixAssignments[i].2 ≠
        KeyChord.fromKeybindsChord keybinds.prefixAssignments[j].2 := by
      intro press
      refine assigned keybinds.prefixAssignments[i].2.event ⟨?_, ?_⟩
      · exact decide_eq_true (fromKey_event _).symm
      · exact decide_eq_true (press.symm.trans (fromKey_event _).symm)
    refine ⟨fun folds => apart (fromKeybindsChord_eq.mpr (Or.inr folds)), fun _ same => ?_⟩
    exact apart (fromKeybindsChord_eq.mpr (Or.inl same))

def shiftedHelp : RawKeybinds :=
  { sections := [("global", { router := [("help_open", "Shift+n")] })] }

end Mbv.Input
