import Mbv.Settings.Document
import Mbv.Input.Keybinds
import Mbv.Queue.Item

namespace Mbv.Settings

open Text Input Queue

structure Platform where
  toLowercase : String → String
  toLowercase_idem : ∀ text, toLowercase (toLowercase text) = toLowercase text
  toLowercase_ascii : ∀ text : String, (∀ c ∈ text.toList, c.toNat < 128) →
    toLowercase text = asciiLowercase text
  defaultAudioPipePath : String
  isSystemInstance : Bool
  debug : Value → String

/-! ### Machine integers -/

/-- `try_from` into an unsigned type of `width` bits. -/
def tryUnsigned (width : Nat) (value : Int) : Option (BitVec width) :=
  if 0 ≤ value ∧ value < 2 ^ width then some (BitVec.ofNat width value.toNat) else none

def tryI32 (value : Int) : Option Int32 :=
  if -2 ^ 31 ≤ value ∧ value < 2 ^ 31 then some (Int32.ofInt value) else none

/-- `u64::try_from(v.max(1)).unwrap_or(u64::MAX)`, at any width. -/
def atLeastOne (width : Nat) (value : Int) : BitVec width :=
  (tryUnsigned width (max value 1)).getD (BitVec.allOnes width)

/-! ### The settings -/

/-- `trim_end_matches('/')`. -/
def trimEndSlashes (text : String) : String :=
  String.ofList (text.toList.reverse.dropWhile (· = '/')).reverse

structure EmbySetup where
  serverUrl : String
  userId : String
  revision : BitVec 64 := 1

def EmbySetup.new (serverUrl userId : String) : EmbySetup :=
  { serverUrl := trimEndSlashes (trim serverUrl), userId := trim userId }

structure AudiobookshelfSetup where
  serverUrl : String
  revision : BitVec 64 := 1

def AudiobookshelfSetup.new (serverUrl : String) : AudiobookshelfSetup :=
  { serverUrl := trimEndSlashes (trim serverUrl) }

structure FeedSubscription where
  name : String
  url : String
  kind : FeedKind

inductive PanelSide where
  | left
  | right
deriving DecidableEq

def PanelSide.asStr : PanelSide → String
  | left => "left"
  | right => "right"

def PanelSide.parse (text : String) : Option PanelSide :=
  let lower := asciiLowercase (trim text)
  if lower = "left" then some left else if lower = "right" then some right else none

structure PanelAccentColor where
  red : BitVec 8
  green : BitVec 8
  blue : BitVec 8

def hexDigitValue (digit : Char) : Option Nat :=
  let code := digit.toNat
  if 0x30 ≤ code ∧ code ≤ 0x39 then some (code - 0x30)
  else if 0x41 ≤ code ∧ code ≤ 0x46 then some (code - 0x41 + 10)
  else if 0x61 ≤ code ∧ code ≤ 0x66 then some (code - 0x61 + 10)
  else none

/-- `strip_prefix('#')`, or the whole text. -/
def stripHash : List Char → List Char
  | '#' :: rest => rest
  | other => other

/-- Six hex digits after an optional `#`, the first byte the highest. -/
def PanelAccentColor.parse (text : String) : Option PanelAccentColor :=
  let hex := stripHash text.toList
  if hex.length = 6 then
    (hex.mapM hexDigitValue).map fun digits =>
      let value := digits.foldl (fun value digit => value * 16 + digit) 0
      ⟨BitVec.ofNat 8 (value / 65536), BitVec.ofNat 8 (value / 256), BitVec.ofNat 8 value⟩
  else none

def hexDigit (value : Nat) : Char :=
  if value < 10 then Char.ofNat (value + 0x30) else Char.ofNat (value - 10 + 0x61)

def hexByte (byte : BitVec 8) : List Char := [hexDigit (byte.toNat / 16), hexDigit (byte.toNat % 16)]

def PanelAccentColor.display (color : PanelAccentColor) : String :=
  String.ofList ('#' :: (hexByte color.red ++ hexByte color.green ++ hexByte color.blue))

structure PanelConfig where
  side : PanelSide := .left
  width : BitVec 16 := 400
  widthExpanded : BitVec 16 := 1100
  reserve : Bool := true
  gutterTop : Int32 := 0
  gutterBottom : Int32 := 0
  gutterLeft : Int32 := 0
  gutterRight : Int32 := 0
  accent : Bool := true
  accentColor : PanelAccentColor := ⟨0xda, 0xbc, 0x7f⟩
  accentWidth : { width : BitVec 16 // width ≠ 0 } := ⟨1, by decide⟩
  terminal : Option (List String) := none
  pinTerminal : Option (List String) := none

structure Config where
  embySetup : Option EmbySetup
  audiobookshelfSetup : Option AudiobookshelfSetup
  serverUrl : String
  username : String
  password : String
  apiKey : String
  hiddenLibraries : List String
  showAudioWindow : Bool
  useMpvConfig : Bool
  videoCacheForwardMb : BitVec 32
  videoCacheBackMb : BitVec 32
  audioPipeEnabled : Bool
  audioPipePath : String
  audioPipeSamplerate : BitVec 32
  audioPipeBitdepth : BitVec 8
  audioPipePlayoutDelayMs : Option (BitVec 64)
  audioDevice : String
  alwaysPlayNext : Bool
  consumeVideos : Bool
  consumeAudio : Bool
  alwaysSkipIntro : Bool
  showSystrayIcon : Bool
  noScripts : Bool
  stayAlive : Bool
  savePlaylistOnQuit : Bool
  autoload : Bool
  musicLevels : List String
  systemNotifications : Bool
  mouseSupport : Bool
  savePlaylistOnConsume : Bool
  savePlaylistOnConsumeAudio : Bool
  subtitleMode : String
  subtitleLang : String
  audioLang : String
  myLanguages : List String
  feedViewLibraries : List String
  libraryRoutes : List (String × String)
  progressIntervalSecs : BitVec 64
  quitTimeoutSecs : BitVec 64
  daemonBroadcastMs : BitVec 64
  daemonServerTcpListen : String
  autoReconnect : Bool
  idleFeedRssUrl : String
  idleFeedRotationSecs : BitVec 64
  feeds : List FeedSubscription
  keybinds : Keybinds
  panel : PanelConfig

inductive ConfigError where
  | parse (message : String)
  | keybinds (error : KeybindsError)

end Mbv.Settings
