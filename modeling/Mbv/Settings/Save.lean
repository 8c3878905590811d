import Mbv.Settings.Parse

namespace Mbv.Settings

open Text Input Queue

/-! ### Writing a section -/

def Table.put (table : Table) (key : String) (value : Value) : Table := Ordered.insert key value table

def Table.drop (table : Table) (key : String) : Table := Ordered.remove key table

/-- `section`: the table a name stands for, made when there is none. A name that stands for anything
    else panics, which is `none`. -/
def opened : Option Value → Option Table
  | none => some []
  | some (.table entries) => some entries
  | some _ => none

def Table.patch (table : Table) (name : String) (change : Table → Option Table) : Option Table :=
  (opened (Ordered.get name table)).bind fun found =>
    (change found).map fun next => table.put name (.table next)

/-- `i64::try_from(v).unwrap_or(i64::MAX)`, and `i64::from` at the narrower widths. -/
def tryI64 (value : Nat) : Int64 :=
  if value < 2 ^ 63 then Int64.ofInt value else Int64.maxValue

def number {width : Nat} (value : BitVec width) : Value := .integer (tryI64 value.toNat)

def strings (texts : List String) : Value := .array (texts.map .string)

def Table.putText (table : Table) (key text : String) : Table :=
  if text = "" then table.drop key else table.put key (.string text)

/-! ### The writers -/

variable (cfg : Config)

def Config.writtenSetup : Option EmbySetup := cfg.embySetup.filter fun setup => setup.serverUrl ≠ ""

def Config.writtenUrl : String := (cfg.writtenSetup.map (·.serverUrl)).getD cfg.serverUrl

def serverKeys (server : Table) : Table :=
  let addressed := server.put "url" (.string cfg.writtenUrl)
  match cfg.writtenSetup with
  | some setup => addressed.put "user_id" (.string setup.userId)
  | none => addressed.drop "user_id"

def writeServerSection (table : Table) : Option Table :=
  if cfg.writtenUrl = "" then some table
  else table.patch "server" fun server => some (serverKeys cfg server)

def audiobookshelfKeys (setup : AudiobookshelfSetup) (found : Table) : Table :=
  (found.put "url" (.string setup.serverUrl)).put "revision" (number setup.revision)

def writeAudiobookshelfSection (table : Table) : Option Table :=
  match cfg.audiobookshelfSetup.filter fun setup => setup.serverUrl ≠ "" with
  | some setup => table.patch "audiobookshelf" fun found => some (audiobookshelfKeys setup found)
  | none => some (table.drop "audiobookshelf")

def sessionKeys (session : Table) : Table :=
  (((((session.put "stay_alive" (.boolean cfg.stayAlive)).put
    "auto_reconnect" (.boolean cfg.autoReconnect)).put
    "save_playlist_on_quit" (.boolean cfg.savePlaylistOnQuit)).put
    "always_skip_intro" (.boolean cfg.alwaysSkipIntro)).put
    "quit_timeout_secs" (number cfg.quitTimeoutSecs)).put
    "progress_interval_secs" (number cfg.progressIntervalSecs)

def writeSessionSection (table : Table) : Option Table :=
  table.patch "session" fun session => some (sessionKeys cfg session)

def libraryKeys (library : Table) : Table :=
  ((library.put "hidden_libraries" (strings cfg.hiddenLibraries)).drop "hidden_latest").put
    "feed_view_libraries" (strings cfg.feedViewLibraries)

def writeLibrarySection (table : Table) : Option Table :=
  table.patch "library" fun library =>
    if cfg.musicLevels = [] then some (libraryKeys cfg library)
    else Table.patch (libraryKeys cfg library) "music" fun music =>
      some (music.put "levels" (strings cfg.musicLevels))

def displayKeys (display : Table) : Table :=
  (display.put "system_notifications" (.boolean cfg.systemNotifications)).put
    "mouse_support" (.boolean cfg.mouseSupport)

def writeDisplaySection (table : Table) : Option Table :=
  table.patch "display" fun display => some (displayKeys cfg display)

def textEntries (entries : List (String × String)) : Table :=
  entries.map fun entry => (entry.1, Value.string entry.2)

def writeLibraryRoutesSection (table : Table) : Option Table :=
  if cfg.libraryRoutes = [] then some (table.drop "library_routes")
  else some (table.put "library_routes" (.table (Ordered.collect (textEntries cfg.libraryRoutes))))

def FeedSubscription.row (feed : FeedSubscription) : Value :=
  .table (((Table.put [] "name" (.string feed.name)).put "url" (.string feed.url)).put
    "kind" (.string (FeedKind.asStr feed.kind)))

def writeFeedsSection (table : Table) : Option Table :=
  if cfg.feeds = [] then some (table.drop "feeds")
  else some (table.put "feeds" (.array (cfg.feeds.map FeedSubscription.row)))

def queueKeys (queue : Table) : Table :=
  ((((queue.put "always_play_next" (.boolean cfg.alwaysPlayNext)).put
    "consume_videos" (.boolean cfg.consumeVideos)).put
    "consume_audio" (.boolean cfg.consumeAudio)).put
    "save_playlist_on_consume" (.boolean cfg.savePlaylistOnConsume)).put
    "save_playlist_on_consume_audio" (.boolean cfg.savePlaylistOnConsumeAudio)

def writeQueueSection (table : Table) : Option Table :=
  table.patch "queue" fun queue => some (queueKeys cfg queue)

def mpvKeys (mpv : Table) : Table :=
  ((((((mpv.put "show_audio_window" (.boolean cfg.showAudioWindow)).put
    "use_mpv_config" (.boolean cfg.useMpvConfig)).put
    "video_cache_forward_mb" (number cfg.videoCacheForwardMb)).put
    "video_cache_back_mb" (number cfg.videoCacheBackMb)).put
    "no_scripts" (.boolean cfg.noScripts)).put
    "autoload" (.boolean cfg.autoload)).put
    "audio_device" (.string cfg.audioDevice)

def writeMpvSection (table : Table) : Option Table :=
  table.patch "mpv" fun mpv => some (mpvKeys cfg mpv)

def idleFeedKeys (idleFeed : Table) : Table :=
  (idleFeed.put "rss_url" (.string cfg.idleFeedRssUrl)).put
    "rotation_interval_secs" (number cfg.idleFeedRotationSecs)

def writeIdleFeedSection (table : Table) : Option Table :=
  table.patch "idle_feed" fun idleFeed => some (idleFeedKeys cfg idleFeed)

def mbvdKeys (mbvd : Table) : Table :=
  let piped := ((((mbvd.put "broadcast_ms" (number cfg.daemonBroadcastMs)).put
    "audio_pipe_enabled" (.boolean cfg.audioPipeEnabled)).put
    "audio_pipe_path" (.string cfg.audioPipePath)).put
    "audio_pipe_samplerate" (number cfg.audioPipeSamplerate)).put
    "audio_pipe_bitdepth" (number cfg.audioPipeBitdepth)
  let delayed := match cfg.audioPipePlayoutDelayMs with
    | some delay => piped.put "audio_pipe_playout_delay_ms" (number delay)
    | none => piped.drop "audio_pipe_playout_delay_ms"
  delayed.drop "client"

def mbvdServerKeys (server : Table) : Table :=
  if trim cfg.daemonServerTcpListen = "" then server.drop "tcp_listen"
  else server.put "tcp_listen" (.string cfg.daemonServerTcpListen)

def writeMbvdSection (table : Table) : Option Table :=
  table.patch "mbvd" fun mbvd =>
    Table.patch (mbvdKeys cfg mbvd) "server" fun server => some (mbvdServerKeys cfg server)

def playbackKeys (playback : Table) : Table :=
  let spoken := (((playback.put "show_systray_icon" (.boolean cfg.showSystrayIcon)).putText
    "subtitle_mode" cfg.subtitleMode).putText
    "subtitle_lang" cfg.subtitleLang).putText "audio_lang" cfg.audioLang
  if cfg.myLanguages = [] then spoken.drop "my_languages"
  else spoken.put "my_languages" (strings cfg.myLanguages)

def writePlaybackSection (table : Table) : Option Table :=
  table.patch "playback" fun playback => some (playbackKeys cfg playback)

/-! ### keys -/

def chordEntries (bindings : List (String × Chord)) : Table :=
  bindings.map fun binding => (binding.1, Value.string binding.2.display)

def sectionTable (bindings : SectionBindings) : Table :=
  let chords : Table := Ordered.collect (chordEntries bindings.router)
  if bindings.prefixNamespace = [] then chords
  else chords.put "prefix" (.table (Ordered.collect (chordEntries bindings.prefixNamespace)))

def fileName (keySection : KeySection) : String := asciiLowercase keySection.name

def keysTable (keybinds : Keybinds) : Table :=
  let start : Table := match keybinds.prefixChord with
    | some chord => Table.put [] "prefix" (.string chord.display)
    | none => []
  keybinds.sections.foldl
    (fun keys (keySection, bindings) =>
      if bindings.router = [] ∧ bindings.prefixNamespace = [] then keys
      else keys.put (fileName keySection) (.table (sectionTable bindings)))
    start

def writeKeysSection (table : Table) : Option Table :=
  if (keysTable cfg.keybinds).isEmpty then some (table.drop "keys")
  else some (table.put "keys" (.table (keysTable cfg.keybinds)))

/-! ### panel -/

def putArgv (panel : Table) (key : String) (argv : Option (List String)) : Table :=
  match argv with
  | some argv => panel.put key (strings argv)
  | none => panel

def integer32 (value : Int32) : Value := .integer (Int64.ofInt value.toInt)

def panelKeys (panel : Table) : Table :=
  let placed := (((((((((((((panel.drop "cols").drop "cols_expanded").put
    "side" (.string cfg.panel.side.asStr)).put
    "width" (number cfg.panel.width)).put
    "width_expanded" (number cfg.panel.widthExpanded)).put
    "reserve" (.boolean cfg.panel.reserve)).put
    "gutter_top" (integer32 cfg.panel.gutterTop)).put
    "gutter_bottom" (integer32 cfg.panel.gutterBottom)).put
    "gutter_left" (integer32 cfg.panel.gutterLeft)).put
    "gutter_right" (integer32 cfg.panel.gutterRight)).put
    "accent" (.boolean cfg.panel.accent)).put
    "accent_color" (.string cfg.panel.accentColor.display)).put
    "accent_width" (number cfg.panel.accentWidth.val))
  putArgv (putArgv placed "terminal" cfg.panel.terminal) "pin_terminal" cfg.panel.pinTerminal

def writePanelSection (table : Table) : Option Table :=
  table.patch "panel" fun panel => some (panelKeys cfg panel)

/-! ### The whole file -/

/-- The document that `save_config_settings_at` writes; a panic on the way is `none`. -/
def saveConfigSettings (doc : Table) : Option Table := do
  let table ← writeServerSection cfg doc
  let table ← writeAudiobookshelfSection cfg table
  let table ← writeSessionSection cfg table
  let table ← writeLibrarySection cfg table
  let table ← writeDisplaySection cfg table
  let table ← writeLibraryRoutesSection cfg table
  let table ← writeFeedsSection cfg table
  let table ← writeQueueSection cfg table
  let table ← writeMpvSection cfg table
  let table ← writeIdleFeedSection cfg table
  let table ← writeMbvdSection cfg (table.drop "shared_data")
  let table ← writePlaybackSection cfg table
  let table ← writeKeysSection cfg table
  writePanelSection cfg table

end Mbv.Settings
