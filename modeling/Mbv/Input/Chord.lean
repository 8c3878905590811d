import Mbv.Surfaces.Key
import Mbv.Text
import Mathlib.Data.List.Lemmas
import Mathlib.Data.List.Nodup

namespace Mbv.Input

open Text

/-! ### Chords -/

structure KeyMods where
  ctrl : Bool := false
  shift : Bool := false
  alt : Bool := false
deriving DecidableEq

def KeyMods.union (one other : KeyMods) : KeyMods :=
  ⟨one.ctrl || other.ctrl, one.shift || other.shift, one.alt || other.alt⟩

inductive ChordKey where
  | backspace | enter | esc | left | right | up | down | home | endKey | pageUp | pageDown | tab
  | backTab | delete | insert
  | f (number : UInt8)
  | char (c : Char)
deriving DecidableEq

structure Chord where
  mods : KeyMods
  key : ChordKey
deriving DecidableEq

inductive ChordParseError where
  | empty
  | emptyToken
  | unknownModifier (name : String)
  | unknownKey (name : String)
deriving DecidableEq

def ChordParseError.message : ChordParseError → String
  | empty => "empty chord"
  | emptyToken => "empty chord token"
  | unknownModifier name => "unknown modifier `" ++ name ++ "`"
  | unknownKey name => "unknown key `" ++ name ++ "`"

def namedKeys : List (String × ChordKey) :=
  [("esc", .esc), ("escape", .esc), ("tab", .tab), ("backtab", .backTab), ("enter", .enter),
    ("return", .enter), ("space", .char ' '), ("left", .left), ("right", .right), ("up", .up),
    ("down", .down), ("home", .home), ("end", .endKey), ("pageup", .pageUp),
    ("pagedown", .pageDown), ("delete", .delete), ("del", .delete), ("insert", .insert),
    ("backspace", .backspace)]

def parseU8 (digits : List Char) : Option Nat :=
  let value := digits.foldl (fun value digit => value * 10 + (digit.toNat - 0x30)) 0
  if digits ≠ [] && digits.all (fun digit => 0x30 ≤ digit.toNat && digit.toNat ≤ 0x39) &&
      value < 256 then some value
  else none

def functionKey : List Char → Option ChordKey
  | 'f' :: number =>
    match parseU8 number with
    | some number => if 1 ≤ number && number ≤ 12 then some (.f (UInt8.ofNat number)) else none
    | none => none
  | _ => none

def parseKey (token : String) : Except ChordParseError ChordKey :=
  let token := trim token
  match token.toList with
  | [] => .error .emptyToken
  | [c] => .ok (.char c)
  | _ =>
    let lower := asciiLowercase token
    match namedKeys.find? fun named => named.1 = lower with
    | some named => .ok named.2
    | none =>
      match functionKey lower.toList with
      | some key => .ok key
      | none => .error (.unknownKey token)

def modifierNamed (token : String) : Option KeyMods :=
  let lower := asciiLowercase token
  if lower = "ctrl" || lower = "control" then some { ctrl := true }
  else if lower = "shift" then some { shift := true }
  else if lower = "alt" then some { alt := true }
  else none

def parseModifiers : List String → KeyMods → Except ChordParseError KeyMods
  | [], mods => .ok mods
  | token :: tokens, mods =>
    let token := trim token
    if token.isEmpty then .error .emptyToken
    else
      match modifierNamed token with
      | none => .error (.unknownModifier token)
      | some modifier => parseModifiers tokens (mods.union modifier)

def splitPlus (text : String) : List String := (text.toList.splitOn '+').map String.ofList

namespace Chord

def parse (text : String) : Except ChordParseError Chord :=
  let text := trim text
  match text.toList with
  | [] => .error .empty
  | [c] => .ok ⟨{}, .char c⟩
  | _ =>
    let tokens := splitPlus text
    match parseModifiers tokens.dropLast {} with
    | .error error => .error error
    | .ok mods =>
      match parseKey (tokens.getLastD "") with
      | .error error => .error error
      | .ok key => .ok ⟨mods, key⟩

def keyText : ChordKey → String
  | .backspace => "Backspace"
  | .enter => "Enter"
  | .esc => "Esc"
  | .left => "Left"
  | .right => "Right"
  | .up => "Up"
  | .down => "Down"
  | .home => "Home"
  | .endKey => "End"
  | .pageUp => "PageUp"
  | .pageDown => "PageDown"
  | .tab => "Tab"
  | .backTab => "BackTab"
  | .delete => "Delete"
  | .insert => "Insert"
  | .f number => "F" ++ toString number.toNat
  | .char c => if c = ' ' then "Space" else String.ofList [c]

def display (chord : Chord) : String :=
  (if chord.mods.ctrl then "Ctrl+" else "") ++ (if chord.mods.shift then "Shift+" else "") ++
    (if chord.mods.alt then "Alt+" else "") ++ keyText chord.key

end Chord

/-! ### The declared actions -/

inductive KeySection where
  | services | playback | display | session | library | queue | mpv | feeds | actions | global
deriving DecidableEq

namespace KeySection

def name : KeySection → String
  | services => "Services"
  | playback => "Playback"
  | display => "Display"
  | session => "Session"
  | library => "Library"
  | queue => "Queue"
  | mpv => "Mpv"
  | feeds => "Feeds"
  | actions => "Actions"
  | global => "Global"

def all : List KeySection :=
  [services, playback, display, session, library, queue, mpv, feeds, actions, global]

def fromName (name : String) : Option KeySection :=
  all.find? fun declared => eqIgnoreAsciiCase declared.name name

end KeySection

structure KeybindAction where
  id : String
  keySection : KeySection
  defaultChords : List String
  prefixAddressable : Bool := true
deriving DecidableEq

def KeybindAction.parsedDefaultChords (action : KeybindAction) : List Chord :=
  action.defaultChords.filterMap fun text => (Chord.parse text).toOption

def reservedChords : List Chord := ["Ctrl+q"].filterMap fun text => (Chord.parse text).toOption

def keybindActions : List KeybindAction :=
  [{ id := "help_open", keySection := .global, defaultChords := ["F1"] },
    { id := "settings_open", keySection := .global, defaultChords := ["F2"] },
    { id := "twitch_url_open", keySection := .global, defaultChords := ["Shift+T"] },
    { id := "quit", keySection := .session, defaultChords := ["q"] },
    { id := "sessions_open", keySection := .session, defaultChords := ["F3"] },
    { id := "search_open", keySection := .library, defaultChords := ["Ctrl+/", "Ctrl+_"] },
    { id := "next_library_tab", keySection := .library, defaultChords := ["Tab"] },
    { id := "previous_library_tab", keySection := .library, defaultChords := ["BackTab"] },
    { id := "library_tab_jump"
      keySection := .library
      defaultChords := ["1", "2", "3", "4", "5", "6", "7", "8", "9"]
      prefixAddressable := false },
    { id := "f5_refresh", keySection := .library, defaultChords := ["F5"] },
    { id := "alt_next_library_tab", keySection := .library, defaultChords := ["Alt+Down"] },
    { id := "alt_previous_library_tab", keySection := .library, defaultChords := ["Alt+Up"] },
    { id := "playlists_open", keySection := .queue, defaultChords := ["F4"] },
    { id := "clear_queue_prompt_c", keySection := .queue, defaultChords := ["c"] },
    { id := "visualizer", keySection := .playback, defaultChords := ["v"] },
    { id := "hide_visual_slot", keySection := .playback, defaultChords := ["h"] },
    { id := "toggle_play_pause", keySection := .playback, defaultChords := ["Space"] },
    { id := "stop"
      keySection := .playback
      defaultChords := ["Shift+S"]
      prefixAddressable := false },
    { id := "seek_back", keySection := .playback, defaultChords := ["<"] },
    { id := "seek_forward", keySection := .playback, defaultChords := [">"] },
    { id := "next_track", keySection := .playback, defaultChords := ["Shift+N"] },
    { id := "previous_track", keySection := .playback, defaultChords := ["Shift+P"] },
    { id := "volume_down", keySection := .playback, defaultChords := ["-"] },
    { id := "volume_up", keySection := .playback, defaultChords := ["+", "="] },
    { id := "toggle_mute", keySection := .playback, defaultChords := ["m"] },
    { id := "cycle_audio", keySection := .playback, defaultChords := ["#"] },
    { id := "cycle_subtitle", keySection := .playback, defaultChords := ["z"] },
    { id := "open_idle_feed_link", keySection := .playback, defaultChords := ["o"] },
    { id := "panel_mode_cycle_x", keySection := .display, defaultChords := ["x"] },
    { id := "panel_right", keySection := .display, defaultChords := ["Ctrl+Right"] },
    { id := "panel_left", keySection := .display, defaultChords := ["Ctrl+Left"] },
    { id := "ctrl_l_force_clear", keySection := .display, defaultChords := ["Ctrl+l"] }]

def actionById (id : String) : Option KeybindAction :=
  keybindActions.find? fun action => action.id = id

theorem actionById_mem {id : String} {action : KeybindAction} (found : actionById id = some action) :
    action ∈ keybindActions ∧ action.id = id :=
  ⟨List.mem_of_find?_eq_some found, by simpa using List.find?_some found⟩

theorem ids_nodup : (keybindActions.map (·.id)).Nodup := by decide +kernel

theorem action_ext {one other : KeybindAction} (first : one ∈ keybindActions)
    (second : other ∈ keybindActions) (same : one.id = other.id) : one = other :=
  List.inj_on_of_nodup_map ids_nodup first second same

theorem actionById_self {action : KeybindAction} (member : action ∈ keybindActions) : actionById action.id = some action := by
  cases found : actionById action.id with
  | none =>
    have absent := List.find?_eq_none.mp found action member
    simp at absent
  | some other =>
    obtain ⟨there, same⟩ := actionById_mem found
    rw [action_ext there member same]

end Mbv.Input
