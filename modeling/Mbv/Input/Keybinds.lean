import Mbv.Input.Chord

namespace Mbv.Input

open Text Surfaces

structure SectionBindings where
  router : List (String × Chord) := []
  prefixNamespace : List (String × Chord) := []
deriving DecidableEq

structure Keybinds where
  prefixChord : Option Chord := none
  sections : List (KeySection × SectionBindings) := []
deriving DecidableEq

structure RawSection where
  router : List (String × String) := []
  prefixNamespace : List (String × String) := []

/-- The `[keys]` table as read from the file. -/
structure RawKeybinds where
  prefixChord : Option String := none
  sections : List (String × RawSection) := []

namespace Keybinds

variable (keybinds : Keybinds)

def routerOverride (id : String) : Option Chord :=
  ((keybinds.sections.flatMap (·.2.router)).find? fun entry => entry.1 = id).map (·.2)

def routerChords (action : KeybindAction) : List Chord :=
  match keybinds.routerOverride action.id with
  | some chord => [chord]
  | none => action.parsedDefaultChords

def prefixAssignments : List (KeybindAction × Chord) :=
  (keybinds.sections.flatMap (·.2.prefixNamespace)).filterMap fun entry =>
    (actionById entry.1).map (·, entry.2)

end Keybinds

/-! ### Loading -/

inductive KeybindsError where
  | reservedChord (chord entry : String)
  | unparseableChord (chord entry reason : String)
  | unknownAction (action sectionName : String)
  | unknownSection (sectionName : String)
  | duplicateSection (first second : String)
  | sectionMismatch (action sectionName : String) (declared : KeySection)
  | notPrefixAddressable (action sectionName : String)
  | prefixCollision (chord entry : String)
  | routerCollision (chord first second : String)
  | prefixNamespaceCollision (chord first second : String)
deriving DecidableEq

def retiredActionIds : List String := ["pinned_width_toggle"]

def lookupInSection (id sectionName : String) : Except KeybindsError KeybindAction :=
  match actionById id with
  | none => .error (.unknownAction id sectionName)
  | some action =>
    if eqIgnoreAsciiCase action.keySection.name sectionName then .ok action
    else .error (.sectionMismatch id sectionName action.keySection)

def parseConfigured (chord entry : String) : Except KeybindsError Chord :=
  match Chord.parse chord with
  | .error reason => .error (.unparseableChord chord entry reason.message)
  | .ok parsed =>
    if parsed ∈ reservedChords then .error (.reservedChord chord entry) else .ok parsed

def loadRouter (sectionName : String) :
    List (String × String) → Except KeybindsError (List (KeybindAction × Chord))
  | [] => .ok []
  | (id, chord) :: entries =>
    if id ∈ retiredActionIds then loadRouter sectionName entries
    else do
      let action ← lookupInSection id sectionName
      let parsed ← parseConfigured chord ("keys." ++ sectionName ++ "." ++ id)
      let rest ← loadRouter sectionName entries
      .ok ((action, parsed) :: rest)

def addressable (action : KeybindAction) (id sectionName : String) : Except KeybindsError Unit :=
  if action.prefixAddressable then .ok () else .error (.notPrefixAddressable id sectionName)

def loadPrefixNamespace (sectionName : String) :
    List (String × String) → Except KeybindsError (List (KeybindAction × Chord))
  | [] => .ok []
  | (id, chord) :: entries =>
    if id ∈ retiredActionIds then loadPrefixNamespace sectionName entries
    else do
      let action ← lookupInSection id sectionName
      addressable action id sectionName
      let parsed ← parseConfigured chord ("keys." ++ sectionName ++ ".prefix." ++ id)
      let rest ← loadPrefixNamespace sectionName entries
      .ok ((action, parsed) :: rest)

structure LoadedSections where
  sections : List (KeySection × SectionBindings) := []
  router : List (KeybindAction × Chord) := []
  prefixNamespace : List (KeybindAction × Chord) := []

def newSection (seen : List String) (sectionName : String) : Except KeybindsError KeySection :=
  match seen.find? fun other => eqIgnoreAsciiCase other sectionName with
  | some first => .error (.duplicateSection first sectionName)
  | none =>
    match KeySection.fromName sectionName with
    | none => .error (.unknownSection sectionName)
    | some keySection => .ok keySection

def named (bindings : List (KeybindAction × Chord)) : List (String × Chord) :=
  bindings.map fun binding => (binding.1.id, binding.2)

def loadSections : List String → List (String × RawSection) → Except KeybindsError LoadedSections
  | _, [] => .ok {}
  | seen, (sectionName, raw) :: sections => do
    let keySection ← newSection seen sectionName
    let router ← loadRouter sectionName raw.router
    let prefixNamespace ← loadPrefixNamespace sectionName raw.prefixNamespace
    let rest ← loadSections (seen ++ [sectionName]) sections
    .ok
      { sections := (keySection, ⟨named router, named prefixNamespace⟩) :: rest.sections
        router := router ++ rest.router
        prefixNamespace := prefixNamespace ++ rest.prefixNamespace }

def routerEntry (action : KeybindAction) : String := "keys." ++ action.keySection.name ++ "." ++ action.id

def prefixEntry (action : KeybindAction) : String :=
  "keys." ++ action.keySection.name ++ ".prefix." ++ action.id

def isConfigured (configured : List (KeybindAction × Chord)) (action : KeybindAction) : Bool :=
  configured.any fun binding => binding.1.id = action.id

def prefixCollision (chord : Chord) (router prefixNamespace : List (KeybindAction × Chord)) :
    Option String :=
  ((router.find? fun binding => binding.2 = chord).map fun binding => routerEntry binding.1).or
    (((prefixNamespace.find? fun binding => binding.2 = chord).map fun binding =>
        prefixEntry binding.1).or
      ((keybindActions.find? fun action =>
        !isConfigured router action && chord ∈ action.parsedDefaultChords).map routerEntry))

def rejectPrefixCollisions (prefixChord : Option Chord)
    (router prefixNamespace : List (KeybindAction × Chord)) : Except KeybindsError Unit :=
  match prefixChord with
  | none => .ok ()
  | some chord =>
    match prefixCollision chord router prefixNamespace with
    | some entry => .error (.prefixCollision chord.display entry)
    | none => .ok ()

def effectiveChords (router : List (KeybindAction × Chord)) (action : KeybindAction) : List Chord :=
  match router.find? fun binding => binding.1.id = action.id with
  | some binding => [binding.2]
  | none => action.parsedDefaultChords

def rejectRouterCollisions (router : List (KeybindAction × Chord)) : Except KeybindsError Unit :=
  match router.findSome? fun binding =>
      (keybindActions.find? fun other =>
        other.id ≠ binding.1.id && binding.2 ∈ effectiveChords router other).map (binding, ·) with
  | some ((action, chord), other) => .error (.routerCollision chord.display action.id other.id)
  | none => .ok ()

def rejectPrefixNamespaceCollisions :
    List (KeybindAction × Chord) → Except KeybindsError Unit
  | [] => .ok ()
  | (first, chord) :: later =>
    match later.find? fun second => first.id ≠ second.1.id && chord = second.2 with
    | some second => .error (.prefixNamespaceCollision chord.display first.id second.1.id)
    | none => rejectPrefixNamespaceCollisions later

def loadPrefix : Option String → Except KeybindsError (Option Chord)
  | none => .ok none
  | some text => do
    let chord ← parseConfigured text "keys.prefix"
    .ok (some chord)

def load (raw : RawKeybinds) : Except KeybindsError Keybinds := do
  let prefixChord ← loadPrefix raw.prefixChord
  let configured ← loadSections [] raw.sections
  rejectPrefixCollisions prefixChord configured.router configured.prefixNamespace
  rejectRouterCollisions configured.router
  rejectPrefixNamespaceCollisions configured.prefixNamespace
  .ok { prefixChord := prefixChord, sections := configured.sections }

/-! ### The router's chords -/

structure KeyChord where
  code : Key
  mods : KeyModifiers
deriving DecidableEq

namespace KeyChord

def withoutShiftOnBackTab (code : Key) (mods : KeyModifiers) : KeyModifiers :=
  if code = .backTab then { mods with shift := false } else mods

def foldUnderShift (mods : KeyModifiers) : Key → Key
  | .char c => if mods.shift && isAsciiUppercase c then .char (toAsciiLowercase c) else .char c
  | code => code

/-- `BackTab` is Shift+Tab already, and a shifted letter is its lowercase letter under shift. -/
def new (code : Key) (mods : KeyModifiers) : KeyChord :=
  let mods := withoutShiftOnBackTab code mods
  ⟨foldUnderShift mods code, mods⟩

def fromKey (event : KeyEvent) : KeyChord := new event.code event.modifiers

def keyOf : ChordKey → Key
  | .backspace => .backspace
  | .enter => .enter
  | .esc => .esc
  | .left => .left
  | .right => .right
  | .up => .up
  | .down => .down
  | .home => .home
  | .endKey => .endKey
  | .pageUp => .pageUp
  | .pageDown => .pageDown
  | .tab => .tab
  | .backTab => .backTab
  | .delete => .delete
  | .insert => .insert
  | .f number => .function number
  | .char c => .char c

def modifiersOf (mods : KeyMods) : KeyModifiers := ⟨mods.shift, mods.ctrl, mods.alt⟩

def fromKeybindsChord (chord : Chord) : KeyChord := new (keyOf chord.key) (modifiersOf chord.mods)

end KeyChord

namespace Keybinds

variable (keybinds : Keybinds)

/-- The router matches the event against the action's chords. -/
def fires (action : KeybindAction) (event : KeyEvent) : Bool :=
  (keybinds.routerChords action).any fun configured =>
    KeyChord.fromKeybindsChord configured = KeyChord.fromKey event

def arms (event : KeyEvent) : Bool :=
  keybinds.prefixChord.map KeyChord.fromKeybindsChord = some (KeyChord.fromKey event)

def assigns (assignment : KeybindAction × Chord) (event : KeyEvent) : Bool :=
  KeyChord.fromKeybindsChord assignment.2 = KeyChord.fromKey event

end Keybinds

end Mbv.Input
