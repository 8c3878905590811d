import Mbv.Settings.Config

namespace Mbv.Settings

open Text Input Queue

/-! ### Keys read alike in several sections -/

/-- `section.get(key)` with no section standing for an absent one. -/
def keyOf (given : Option Value) (key : String) : Option Value := given.bind (·.get key)

def getBool (given : Option Value) (key : String) (absent : Bool) : Bool :=
  ((keyOf given key).bind Value.asBool).getD absent

/-- `get_str`, at an absent section too. -/
def getStr (given : Option Value) (key : String) : String :=
  ((keyOf given key).bind Value.asStr).getD ""

def getStrings (given : Option Value) (key : String) : Option (List String) :=
  ((keyOf given key).bind Value.asArray).map fun values => values.filterMap Value.asStr

def getSecs (given : Option Value) (key : String) (absent : BitVec 64) : BitVec 64 :=
  (((keyOf given key).bind Value.asInteger).map (atLeastOne 64)).getD absent

/-! ### mpv -/

structure MpvSettings where
  showAudioWindow : Bool
  useMpvConfig : Bool
  videoCacheForwardMb : BitVec 32
  videoCacheBackMb : BitVec 32
  audioPipeEnabled : Bool
  audioPipePath : String
  audioPipeSamplerate : BitVec 32
  audioPipeBitdepth : BitVec 8
  audioPipePlayoutDelayMs : Option (BitVec 64)
  audioDevice : String
  noScripts : Bool
  autoload : Bool

def mpvBool (misc : Option Value) (key : String) : Bool := getBool misc key false

def mpvCacheSize (misc : Option Value) (key : String) (default : BitVec 32) : BitVec 32 :=
  ((((keyOf misc key).bind Value.asInteger).bind (tryUnsigned 32)).filter (0 < ·)).getD default

def mpvAudioPipePath (platform : Platform) (misc : Option Value) : String :=
  ((keyOf misc "audio_pipe_path").bind Value.asStr).getD platform.defaultAudioPipePath

def mpvAudioPipeSamplerate (misc : Option Value) : BitVec 32 :=
  (((keyOf misc "audio_pipe_samplerate").bind Value.asInteger).map (atLeastOne 32)).getD 192000

def mpvAudioPipeBitdepth (misc : Option Value) : BitVec 8 :=
  (((keyOf misc "audio_pipe_bitdepth").bind Value.asInteger).map fun value =>
    if value = 16 then 16 else if value = 24 then 24 else 32).getD 32

def mpvAudioPipePlayoutDelay (misc : Option Value) : Except ConfigError (Option (BitVec 64)) :=
  match (keyOf misc "audio_pipe_playout_delay_ms").bind Value.asInteger with
  | some value =>
    if value < 0 then .error (.parse "mpv.audio_pipe_playout_delay_ms must be nonnegative")
    else .ok (some (BitVec.ofNat 64 value.toNat))
  | none => .ok none

def isValidAudioDevice (value : String) : Bool :=
  value = "alsa" || "alsa/".toList.isPrefixOf value.toList

def audioDeviceError (platform : Platform) (value : Value) : ConfigError :=
  .parse ("mpv.audio_device must be \"alsa\" or start with \"alsa/\", got " ++ platform.debug value)

def mpvAudioDevice (platform : Platform) (misc : Option Value) : Except ConfigError String :=
  match keyOf misc "audio_device" with
  | none => .ok "alsa"
  | some value =>
    match value.asStr with
    | some text =>
      if isValidAudioDevice text then .ok text else .error (audioDeviceError platform value)
    | none => .error (audioDeviceError platform value)

def parseMpvSection (platform : Platform) (misc : Option Value) :
    Except ConfigError MpvSettings := do
  let playoutDelay ← mpvAudioPipePlayoutDelay misc
  let device ← mpvAudioDevice platform misc
  .ok
    { showAudioWindow := mpvBool misc "show_audio_window"
      useMpvConfig := mpvBool misc "use_mpv_config"
      videoCacheForwardMb := mpvCacheSize misc "video_cache_forward_mb" 50
      videoCacheBackMb := mpvCacheSize misc "video_cache_back_mb" 100
      audioPipeEnabled := mpvBool misc "audio_pipe_enabled"
      audioPipePath := mpvAudioPipePath platform misc
      audioPipeSamplerate := mpvAudioPipeSamplerate misc
      audioPipeBitdepth := mpvAudioPipeBitdepth misc
      audioPipePlayoutDelayMs := playoutDelay
      audioDevice := device
      noScripts := mpvBool misc "no_scripts"
      autoload := mpvBool misc "autoload" }

/-! ### Queue, session, playback, display -/

structure QueueSettings where
  alwaysPlayNext : Bool
  consumeVideos : Bool
  consumeAudio : Bool
  savePlaylistOnConsume : Bool
  savePlaylistOnConsumeAudio : Bool

def parseQueueSection (queue : Option Value) : QueueSettings :=
  { alwaysPlayNext := getBool queue "always_play_next" false
    consumeVideos := getBool queue "consume_videos" false
    consumeAudio := getBool queue "consume_audio" false
    savePlaylistOnConsume := getBool queue "save_playlist_on_consume" false
    savePlaylistOnConsumeAudio := getBool queue "save_playlist_on_consume_audio" false }

structure SessionSettings where
  alwaysSkipIntro : Bool
  stayAlive : Bool
  autoReconnect : Bool
  savePlaylistOnQuit : Bool
  progressIntervalSecs : BitVec 64
  quitTimeoutSecs : BitVec 64

def parseSessionSection (session : Option Value) : SessionSettings :=
  { alwaysSkipIntro := getBool session "always_skip_intro" false
    stayAlive := getBool session "stay_alive" false
    autoReconnect := getBool session "auto_reconnect" false
    savePlaylistOnQuit := getBool session "save_playlist_on_quit" false
    progressIntervalSecs := getSecs session "progress_interval_secs" 10
    quitTimeoutSecs := getSecs session "quit_timeout_secs" 5 }

structure PlaybackSettings where
  showSystrayIcon : Bool
  subtitleMode : String
  subtitleLang : String
  audioLang : String
  myLanguages : List String

def parsePlaybackSection (playback : Option Value) : PlaybackSettings :=
  { showSystrayIcon := getBool playback "show_systray_icon" false
    subtitleMode := getStr playback "subtitle_mode"
    subtitleLang := getStr playback "subtitle_lang"
    audioLang := getStr playback "audio_lang"
    myLanguages := (getStrings playback "my_languages").getD [] }

structure DisplaySettings where
  systemNotifications : Bool
  mouseSupport : Bool

def parseDisplaySection (display : Option Value) : DisplaySettings :=
  { systemNotifications := getBool display "system_notifications" false
    mouseSupport := getBool display "mouse_support" true }

/-! ### mbvd -/

structure MbvdSettings where
  broadcastMs : BitVec 64
  serverTcpListen : String

def defaultDaemonServerTcpListen (platform : Platform) : String :=
  if platform.isSystemInstance then "0.0.0.0:47788" else ""

/-- The warning about a removed `[mbvd.client]` reads no setting. -/
def parseMbvdSection (platform : Platform) (mbvd : Option Value) : MbvdSettings :=
  { broadcastMs := (((keyOf mbvd "broadcast_ms").bind Value.asInteger).map fun value =>
      (tryUnsigned 64 (min (max value 100) 60000)).getD (BitVec.allOnes 64)).getD 500
    serverTcpListen := ((((keyOf (keyOf mbvd "server") "tcp_listen").bind Value.asStr).map trim).filter
      (· ≠ "")).getD (defaultDaemonServerTcpListen platform) }

/-! ### panel -/

def panelKey {α : Type} (panel : Value) (key : String) (default : α) (read : Value → Option α) : α :=
  ((panel.get key).bind read).getD default

def panelSide (panel : Value) (default : PanelSide) : PanelSide :=
  panelKey panel "side" default fun value => value.asStr.bind PanelSide.parse

def panelWidth (panel : Value) (key : String) (default : BitVec 16) : BitVec 16 :=
  panelKey panel key default fun value =>
    (value.asInteger.bind (tryUnsigned 16)).filter (1 ≤ ·)

def panelGutter (panel : Value) (key : String) (default : Int32) : Int32 :=
  panelKey panel key default fun value => value.asInteger.bind tryI32

def panelBool (panel : Value) (key : String) (default : Bool) : Bool :=
  panelKey panel key default Value.asBool

def panelAccentColor (panel : Value) (key : String) (default : PanelAccentColor) : PanelAccentColor :=
  panelKey panel key default fun value => value.asStr.bind PanelAccentColor.parse

/-- `NonZeroU16::new`. -/
def nonZero (width : BitVec 16) : Option { width : BitVec 16 // width ≠ 0 } :=
  if apart : width ≠ 0 then some ⟨width, apart⟩ else none

def panelAccentWidth (panel : Value) (key : String) (default : { width : BitVec 16 // width ≠ 0 }) :
    { width : BitVec 16 // width ≠ 0 } :=
  panelKey panel key default fun value => (value.asInteger.bind (tryUnsigned 16)).bind nonZero

/-- A prefix that is not a list of strings, or is empty, is none. -/
def panelArgvPrefix (panel : Value) (key : String) : Option (List String) :=
  ((panel.get key).bind fun value => value.asArray.bind fun argv => argv.mapM Value.asStr).filter
    (· ≠ [])

def parsePanelSection : Option Value → PanelConfig
  | none => {}
  | some panel =>
    let defaults : PanelConfig := {}
    { side := panelSide panel defaults.side
      width := panelWidth panel "width" defaults.width
      widthExpanded := panelWidth panel "width_expanded" defaults.widthExpanded
      reserve := panelBool panel "reserve" defaults.reserve
      gutterTop := panelGutter panel "gutter_top" defaults.gutterTop
      gutterBottom := panelGutter panel "gutter_bottom" defaults.gutterBottom
      gutterLeft := panelGutter panel "gutter_left" defaults.gutterLeft
      gutterRight := panelGutter panel "gutter_right" defaults.gutterRight
      accent := panelBool panel "accent" defaults.accent
      accentColor := panelAccentColor panel "accent_color" defaults.accentColor
      accentWidth := panelAccentWidth panel "accent_width" defaults.accentWidth
      terminal := panelArgvPrefix panel "terminal"
      pinTerminal := panelArgvPrefix panel "pin_terminal" }

/-! ### library, idle feed, services -/

structure LibrarySettings where
  hiddenLibraries : List String
  musicLevels : List String
  feedViewLibraries : List String

def parseLibrarySection (platform : Platform) (library : Option Value) : LibrarySettings :=
  { hiddenLibraries :=
      ((getStrings library "hidden_libraries").map fun names => names.map platform.toLowercase).getD
        ["live tv"]
    musicLevels := (getStrings (keyOf library "music") "levels").getD []
    feedViewLibraries :=
      ((getStrings library "feed_view_libraries").map fun names =>
        names.map platform.toLowercase).getD [] }

structure IdleFeedSettings where
  rssUrl : String
  rotationSecs : BitVec 64

def parseIdleFeedSection (idleFeed : Option Value) : IdleFeedSettings :=
  { rssUrl := ((keyOf idleFeed "rss_url").bind Value.asStr).getD "https://novaramedia.com/feed/"
    rotationSecs := getSecs idleFeed "rotation_interval_secs" 10 }

def setupRevision (given : Option Value) : BitVec 64 :=
  ((((keyOf given "revision").bind Value.asInteger).bind (tryUnsigned 64)).filter (0 < ·)).getD 1

def parseServerSection (server : Option Value) : String × Option EmbySetup :=
  let serverUrl := trimEndSlashes (getStr server "url")
  let userId := getStr server "user_id"
  (serverUrl,
    if serverUrl ≠ "" ∧ userId ≠ "" then
      some { EmbySetup.new serverUrl userId with revision := setupRevision server }
    else none)

def parseAudiobookshelfSection (audiobookshelf : Option Value) : Option AudiobookshelfSetup :=
  let url := getStr audiobookshelf "url"
  if trim url ≠ "" then
    some { AudiobookshelfSetup.new url with revision := setupRevision audiobookshelf }
  else none

def parseLibraryRoutesSection (platform : Platform) (value : Option Value) : List (String × String) :=
  ((value.bind Value.asTable).map fun table =>
    Ordered.collect (table.filterMap fun entry =>
      entry.2.asStr.map (platform.toLowercase entry.1, ·))).getD []

/-! ### feeds -/

def FeedKind.asStr : FeedKind → String
  | .audio => "audio"
  | .video => "video"

def FeedKind.parse (text : String) : Option FeedKind :=
  let lower := asciiLowercase (trim text)
  if lower = "audio" then some .audio else if lower = "video" then some .video else none

/-- `split("://")`. -/
def splitScheme : List Char → List (List Char)
  | [] => [[]]
  | ':' :: '/' :: '/' :: rest => [] :: splitScheme rest
  | c :: rest =>
    match splitScheme rest with
    | [] => [[c]]
    | part :: parts => (c :: part) :: parts

def defaultFeedName (url : String) : String :=
  let address := ((splitScheme url.toList)[1]?).getD url.toList
  String.ofList (address.takeWhile fun c => c ≠ '/' && c ≠ '?' && c ≠ '#')

/-- A row without a URL is skipped. -/
def parseFeed (item : Value) : Option FeedSubscription :=
  item.asTable.bind fun table =>
    let text (key : String) := trim (((Ordered.get key table).bind Value.asStr).getD "")
    let url := text "url"
    if url = "" then none
    else
      let name := text "name"
      let kind := (((Ordered.get "kind" table).bind Value.asStr).bind FeedKind.parse).getD .video
      some { name := if name = "" then defaultFeedName url else name, url, kind }

def parseFeeds (value : Option Value) : List FeedSubscription :=
  match value.bind Value.asArray with
  | none => []
  | some values => values.filterMap parseFeed

/-! ### keys -/

def chordsOf (message : String → String) : Table → Except ConfigError (List (String × String))
  | [] => .ok []
  | (id, value) :: entries =>
    match value.asStr with
    | none => .error (.parse (message id))
    | some chord => do
      let rest ← chordsOf message entries
      .ok ((id, chord) :: rest)

def rawSection (name : String) : Table → Except ConfigError RawSection
  | [] => .ok {}
  | (key, value) :: entries =>
    if key = "prefix" then
      match value.asTable with
      | none => .error (.parse ("keys." ++ name ++ ".prefix must be a table"))
      | some assigned => do
        let chords ←
          chordsOf (fun id => "keys." ++ name ++ ".prefix." ++ id ++ " must be a string chord") assigned
        let rest ← rawSection name entries
        .ok { rest with prefixNamespace := chords ++ rest.prefixNamespace }
    else
      match value.asStr with
      | none => .error (.parse ("keys." ++ name ++ "." ++ key ++ " must be a string chord"))
      | some chord => do
        let rest ← rawSection name entries
        .ok { rest with router := (key, chord) :: rest.router }

def rawEntries : Table → Except ConfigError RawKeybinds
  | [] => .ok {}
  | (name, entry) :: entries =>
    if name = "prefix" then
      match entry.asStr with
      | none => .error (.parse "keys.prefix must be a string chord")
      | some chord => do
        let rest ← rawEntries entries
        .ok { rest with prefixChord := rest.prefixChord.or (some chord) }
    else
      match entry.asTable with
      | none => .error (.parse ("keys." ++ name ++ " must be a table"))
      | some table => do
        let found ← rawSection name table
        let rest ← rawEntries entries
        .ok { rest with sections := (name, found) :: rest.sections }

def parseRawKeybinds (keys : Value) : Except ConfigError RawKeybinds :=
  match keys.asTable with
  | none => .error (.parse "keys must be a table")
  | some table => rawEntries table

def parseKeys : Option Value → Except ConfigError Keybinds
  | none => .ok {}
  | some keys => do
    let raw ← parseRawKeybinds keys
    (load raw).mapError ConfigError.keybinds

/-! ### The whole file -/

def parseConfig (platform : Platform) (doc : Table) : Except ConfigError Config := do
  let feeds := parseFeeds (Ordered.get "feeds" doc)
  let mpv ← parseMpvSection platform (Ordered.get "mpv" doc)
  let queue := parseQueueSection (Ordered.get "queue" doc)
  let session := parseSessionSection (Ordered.get "session" doc)
  let playback := parsePlaybackSection (Ordered.get "playback" doc)
  let display := parseDisplaySection (Ordered.get "display" doc)
  let mbvd := parseMbvdSection platform (Ordered.get "mbvd" doc)
  let library := parseLibrarySection platform (Ordered.get "library" doc)
  let idleFeed := parseIdleFeedSection (Ordered.get "idle_feed" doc)
  let panel := parsePanelSection (Ordered.get "panel" doc)
  let (serverUrl, embySetup) := parseServerSection (Ordered.get "server" doc)
  let audiobookshelfSetup := parseAudiobookshelfSection (Ordered.get "audiobookshelf" doc)
  let libraryRoutes := parseLibraryRoutesSection platform (Ordered.get "library_routes" doc)
  let keybinds ← parseKeys (Ordered.get "keys" doc)
  .ok
    { embySetup, audiobookshelfSetup, serverUrl
      username := ""
      password := ""
      apiKey := ""
      hiddenLibraries := library.hiddenLibraries
      showAudioWindow := mpv.showAudioWindow
      useMpvConfig := mpv.useMpvConfig
      videoCacheForwardMb := mpv.videoCacheForwardMb
      videoCacheBackMb := mpv.videoCacheBackMb
      audioPipeEnabled := mpv.audioPipeEnabled
      audioPipePath := mpv.audioPipePath
      audioPipeSamplerate := mpv.audioPipeSamplerate
      audioPipeBitdepth := mpv.audioPipeBitdepth
      audioPipePlayoutDelayMs := mpv.audioPipePlayoutDelayMs
      audioDevice := mpv.audioDevice
      alwaysPlayNext := queue.alwaysPlayNext
      consumeVideos := queue.consumeVideos
      consumeAudio := queue.consumeAudio
      alwaysSkipIntro := session.alwaysSkipIntro
      showSystrayIcon := playback.showSystrayIcon
      noScripts := mpv.noScripts
      stayAlive := session.stayAlive
      savePlaylistOnQuit := session.savePlaylistOnQuit
      autoload := mpv.autoload
      musicLevels := library.musicLevels
      systemNotifications := display.systemNotifications
      mouseSupport := display.mouseSupport
      savePlaylistOnConsume := queue.savePlaylistOnConsume
      savePlaylistOnConsumeAudio := queue.savePlaylistOnConsumeAudio
      subtitleMode := playback.subtitleMode
      subtitleLang := playback.subtitleLang
      audioLang := playback.audioLang
      myLanguages := playback.myLanguages
      feedViewLibraries := library.feedViewLibraries
      libraryRoutes
      progressIntervalSecs := session.progressIntervalSecs
      quitTimeoutSecs := session.quitTimeoutSecs
      daemonBroadcastMs := mbvd.broadcastMs
      daemonServerTcpListen := mbvd.serverTcpListen
      autoReconnect := session.autoReconnect
      idleFeedRssUrl := idleFeed.rssUrl
      idleFeedRotationSecs := idleFeed.rotationSecs
      feeds, keybinds, panel }

end Mbv.Settings
