import Mbv.Input.KeyRouting
import Mbv.Settings.SavedValues

namespace Mbv.Settings

open Text Input Queue

/-! ### The settings of one section -/

namespace Config

variable (c : Config)

def mpvSettings : MpvSettings :=
  { showAudioWindow := c.showAudioWindow
    useMpvConfig := c.useMpvConfig
    videoCacheForwardMb := c.videoCacheForwardMb
    videoCacheBackMb := c.videoCacheBackMb
    audioPipeEnabled := c.audioPipeEnabled
    audioPipePath := c.audioPipePath
    audioPipeSamplerate := c.audioPipeSamplerate
    audioPipeBitdepth := c.audioPipeBitdepth
    audioPipePlayoutDelayMs := c.audioPipePlayoutDelayMs
    audioDevice := c.audioDevice
    noScripts := c.noScripts
    autoload := c.autoload }

def queueSettings : QueueSettings :=
  ⟨c.alwaysPlayNext, c.consumeVideos, c.consumeAudio, c.savePlaylistOnConsume,
    c.savePlaylistOnConsumeAudio⟩

def sessionSettings : SessionSettings :=
  ⟨c.alwaysSkipIntro, c.stayAlive, c.autoReconnect, c.savePlaylistOnQuit, c.progressIntervalSecs,
    c.quitTimeoutSecs⟩

def playbackSettings : PlaybackSettings :=
  ⟨c.showSystrayIcon, c.subtitleMode, c.subtitleLang, c.audioLang, c.myLanguages⟩

def displaySettings : DisplaySettings := ⟨c.systemNotifications, c.mouseSupport⟩

def mbvdSettings : MbvdSettings := ⟨c.daemonBroadcastMs, c.daemonServerTcpListen⟩

def librarySettings : LibrarySettings := ⟨c.hiddenLibraries, c.musicLevels, c.feedViewLibraries⟩

def idleFeedSettings : IdleFeedSettings := ⟨c.idleFeedRssUrl, c.idleFeedRotationSecs⟩

end Config

structure ReadsAs (platform : Platform) (table : Table) (c : Config) : Prop where
  feeds : parseFeeds (Ordered.get "feeds" table) = c.feeds
  mpv : parseMpvSection platform (Ordered.get "mpv" table) = .ok c.mpvSettings
  queue : parseQueueSection (Ordered.get "queue" table) = c.queueSettings
  session : parseSessionSection (Ordered.get "session" table) = c.sessionSettings
  playback : parsePlaybackSection (Ordered.get "playback" table) = c.playbackSettings
  display : parseDisplaySection (Ordered.get "display" table) = c.displaySettings
  mbvd : parseMbvdSection platform (Ordered.get "mbvd" table) = c.mbvdSettings
  library : parseLibrarySection platform (Ordered.get "library" table) = c.librarySettings
  idleFeed : parseIdleFeedSection (Ordered.get "idle_feed" table) = c.idleFeedSettings
  panel : parsePanelSection (Ordered.get "panel" table) = c.panel
  server : parseServerSection (Ordered.get "server" table) = (c.serverUrl, c.embySetup)
  audiobookshelf :
    parseAudiobookshelfSection (Ordered.get "audiobookshelf" table) = c.audiobookshelfSetup
  libraryRoutes :
    parseLibraryRoutesSection platform (Ordered.get "library_routes" table) = c.libraryRoutes
  keybinds : parseKeys (Ordered.get "keys" table) = .ok c.keybinds
  credentials : c.username = "" ∧ c.password = "" ∧ c.apiKey = ""

theorem parseConfig_iff {platform : Platform} {table : Table} {c : Config} :
    parseConfig platform table = .ok c ↔ ReadsAs platform table c := by
  constructor
  · intro parsed
    obtain ⟨mpv, read, parsed⟩ := bind_ok parsed
    obtain ⟨keybinds, keys, parsed⟩ := bind_ok parsed
    cases parsed
    exact ⟨rfl, read, rfl, rfl, rfl, rfl, rfl, rfl, rfl, rfl, rfl, rfl, rfl, keys, rfl, rfl, rfl⟩
  · intro reads
    unfold parseConfig
    simp only [reads.mpv, reads.keybinds, reads.feeds, reads.queue, reads.session, reads.playback,
      reads.display, reads.mbvd, reads.library, reads.idleFeed, reads.panel, reads.server,
      reads.audiobookshelf, reads.libraryRoutes]
    have credentials := reads.credentials
    cases c
    obtain ⟨rfl, rfl, rfl⟩ := credentials
    rfl

/-! ### Reading a section that was written -/

@[simp] theorem keyOf_table {entries : Table} {key : String} : keyOf (some (.table entries)) key = Ordered.get key entries := rfl

theorem keyOf_opened {given : Option Value} {found : Table} (isOpen : opened given = some found)
    (key : String) : keyOf given key = Ordered.get key found := by
  cases given with
  | none =>
    cases isOpen
    rfl
  | some value =>
    cases value with
    | table entries =>
      cases isOpen
      rfl
    | _ => cases isOpen

section Reads

variable (platform : Platform) (c : Config) (found : Table)

theorem queue_read : parseQueueSection (some (.table (queueKeys c found))) = c.queueSettings := by
  simp [parseQueueSection, queueKeys, getBool, Table.put, Value.asBool, Config.queueSettings]

theorem display_read : parseDisplaySection (some (.table (displayKeys c found))) = c.displaySettings := by
  simp [parseDisplaySection, displayKeys, getBool, Table.put, Value.asBool, Config.displaySettings]

def Storable (secs : BitVec 64) : Prop := 1 ≤ secs.toNat ∧ secs.toNat < 2 ^ 63

variable {c}

theorem getSecs_stored {section' : Table} {key : String} {secs absent : BitVec 64}
    (storable : Storable secs) (stored : Ordered.get key section' = some (number secs)) :
    getSecs (some (.table section')) key absent = secs := by
  simp [getSecs, stored, asInteger_number storable.2, atLeastOne_toNat storable.1]

theorem session_read (progress : Storable c.progressIntervalSecs) (quit : Storable c.quitTimeoutSecs) :
    parseSessionSection (some (.table (sessionKeys c found))) = c.sessionSettings := by
  have progressed := @getSecs_stored (sessionKeys c found) "progress_interval_secs" _ 10 progress
    (by simp [sessionKeys, Table.put])
  have quitted := @getSecs_stored (sessionKeys c found) "quit_timeout_secs" _ 5 quit (by simp [sessionKeys, Table.put])
  unfold parseSessionSection
  rw [progressed, quitted]
  simp [sessionKeys, getBool, Table.put, Value.asBool, Config.sessionSettings]

theorem idleFeed_read (rotation : Storable c.idleFeedRotationSecs) :
    parseIdleFeedSection (some (.table (idleFeedKeys c found))) = c.idleFeedSettings := by
  have rotated := @getSecs_stored (idleFeedKeys c found) "rotation_interval_secs" _ 10 rotation
    (by simp [idleFeedKeys, Table.put])
  unfold parseIdleFeedSection
  rw [rotated]
  simp [idleFeedKeys, Table.put, Value.asStr, Config.idleFeedSettings]

theorem get_putText {table : Table} {key other text : String} :
    ((Ordered.get other (table.putText key text)).bind Value.asStr).getD "" =
      if other = key then text else ((Ordered.get other table).bind Value.asStr).getD "" := by
  unfold Table.putText
  by_cases same : other = key
  · subst same
    by_cases empty : text = ""
    · simp [empty, Table.drop]
    · simp [empty, Table.put, Value.asStr]
  · split <;> simp [Table.drop, Table.put, same]

theorem get_putText_of_ne {table : Table} {key other text : String} (apart : other ≠ key) :
    Ordered.get other (table.putText key text) = Ordered.get other table := by
  unfold Table.putText
  split <;> simp [Table.drop, Table.put, apart]

variable (c)

theorem getStrings_stored {table : Table} {key : String} {texts : List String}
    (stored : Ordered.get key table = some (strings texts)) :
    getStrings (some (.table table)) key = some texts := by
  simp only [getStrings, keyOf_table, stored, strings, Option.bind_some, Value.asArray, Option.map_some, asStr_strings]

theorem getBool_stored {table : Table} {key : String} {flag absent : Bool}
    (stored : Ordered.get key table = some (.boolean flag)) :
    getBool (some (.table table)) key absent = flag := by
  simp [getBool, stored, Value.asBool]

theorem playback_read : parsePlaybackSection (some (.table (playbackKeys c found))) = c.playbackSettings := by
  have spoken {table : Table} {languages : List String}
      (texts : ∀ key, key ≠ "my_languages" → Ordered.get key table = Ordered.get key
        ((((Table.put found "show_systray_icon" (.boolean c.showSystrayIcon)).putText
          "subtitle_mode" c.subtitleMode).putText "subtitle_lang" c.subtitleLang).putText
          "audio_lang" c.audioLang))
      (listed : (getStrings (some (.table table)) "my_languages").getD [] = languages) :
      parsePlaybackSection (some (.table table)) =
        ⟨c.showSystrayIcon, c.subtitleMode, c.subtitleLang, c.audioLang, languages⟩ := by
    unfold parsePlaybackSection getStr getBool
    rw [listed]
    simp [texts, get_putText, get_putText_of_ne, Table.put, Value.asBool]
  unfold playbackKeys Config.playbackSettings
  dsimp only
  by_cases none : c.myLanguages = []
  · rw [if_pos none, none]
    apply spoken
    · intro key apart
      simp [Table.drop, apart]
    · simp [getStrings, Table.drop]
  · rw [if_neg none]
    apply spoken
    · intro key apart
      simp [Table.put, apart]
    · rw [@getStrings_stored _ _ c.myLanguages (by simp [Table.put])]
      rfl

/-! mpv: the audio pipe's keys are those of the section as it was found. -/

structure AudioPipeKept (given : Option Value) : Prop where
  enabled : mpvBool given "audio_pipe_enabled" = c.audioPipeEnabled
  path : mpvAudioPipePath platform given = c.audioPipePath
  samplerate : mpvAudioPipeSamplerate given = c.audioPipeSamplerate
  bitdepth : mpvAudioPipeBitdepth given = c.audioPipeBitdepth
  playoutDelay : mpvAudioPipePlayoutDelay given = .ok c.audioPipePlayoutDelayMs

theorem audioPipe_of_keys {one other : Option Value}
    (same : ∀ key ∈ ["audio_pipe_enabled", "audio_pipe_path", "audio_pipe_samplerate",
      "audio_pipe_bitdepth", "audio_pipe_playout_delay_ms"], keyOf one key = keyOf other key) :
    AudioPipeKept platform c one ↔ AudioPipeKept platform c other := by
  have enabled := same "audio_pipe_enabled" (by decide)
  have path := same "audio_pipe_path" (by decide)
  have samplerate := same "audio_pipe_samplerate" (by decide)
  have bitdepth := same "audio_pipe_bitdepth" (by decide)
  have playoutDelay := same "audio_pipe_playout_delay_ms" (by decide)
  constructor
  · rintro ⟨first, second, third, fourth, fifth⟩
    refine ⟨?_, ?_, ?_, ?_, ?_⟩
    · simpa [mpvBool, getBool, enabled] using first
    · simpa [mpvAudioPipePath, path] using second
    · simpa [mpvAudioPipeSamplerate, samplerate] using third
    · simpa [mpvAudioPipeBitdepth, bitdepth] using fourth
    · simpa [mpvAudioPipePlayoutDelay, playoutDelay] using fifth
  · rintro ⟨first, second, third, fourth, fifth⟩
    refine ⟨?_, ?_, ?_, ?_, ?_⟩
    · simpa [mpvBool, getBool, enabled] using first
    · simpa [mpvAudioPipePath, path] using second
    · simpa [mpvAudioPipeSamplerate, samplerate] using third
    · simpa [mpvAudioPipeBitdepth, bitdepth] using fourth
    · simpa [mpvAudioPipePlayoutDelay, playoutDelay] using fifth

theorem mpvCacheSize_stored {table : Table} {key : String} {size absent : BitVec 32}
    (positive : 0 < size) (stored : Ordered.get key table = some (number size)) :
    mpvCacheSize (some (.table table)) key absent = size := by
  have small := size.isLt
  have read := @asInteger_number 32 size (by omega)
  have shown : decide (0 < size) = true := decide_eq_true positive
  unfold mpvCacheSize
  rw [keyOf_table, stored, Option.bind_some, read, Option.bind_some, tryUnsigned_toNat,
    Option.filter_some, if_pos shown, Option.getD_some]

theorem mpv_read_iff (forward : 0 < c.videoCacheForwardMb) (back : 0 < c.videoCacheBackMb)
    (device : isValidAudioDevice c.audioDevice = true) :
    parseMpvSection platform (some (.table (mpvKeys c found))) = .ok c.mpvSettings ↔
      AudioPipeKept platform c (some (.table (mpvKeys c found))) := by
  have forwarded := @mpvCacheSize_stored (mpvKeys c found) "video_cache_forward_mb" _ 50 forward (by simp [mpvKeys, Table.put])
  have backed := @mpvCacheSize_stored (mpvKeys c found) "video_cache_back_mb" _ 100 back (by simp [mpvKeys, Table.put])
  have named : mpvAudioDevice platform (some (.table (mpvKeys c found))) = .ok c.audioDevice := by
    simp [mpvAudioDevice, mpvKeys, Table.put, Value.asStr, device]
  have window : mpvBool (some (.table (mpvKeys c found))) "show_audio_window" = c.showAudioWindow :=
    getBool_stored (by simp [mpvKeys, Table.put])
  have config : mpvBool (some (.table (mpvKeys c found))) "use_mpv_config" = c.useMpvConfig :=
    getBool_stored (by simp [mpvKeys, Table.put])
  have scripts : mpvBool (some (.table (mpvKeys c found))) "no_scripts" = c.noScripts :=
    getBool_stored (by simp [mpvKeys, Table.put])
  have autoload : mpvBool (some (.table (mpvKeys c found))) "autoload" = c.autoload :=
    getBool_stored (by simp [mpvKeys, Table.put])
  unfold parseMpvSection Config.mpvSettings
  cases delay : mpvAudioPipePlayoutDelay (some (.table (mpvKeys c found))) with
  | error error =>
    constructor
    · intro read
      cases read
    · intro kept
      rw [kept.playoutDelay] at delay
      cases delay
  | ok delay' =>
    rw [named, forwarded, backed, window, config, scripts, autoload]
    constructor
    · intro read
      injection read with read
      injection read with _ _ _ _ enabled path samplerate bitdepth playoutDelay _ _ _
      exact ⟨enabled, path, samplerate, bitdepth, delay.trans (congrArg Except.ok playoutDelay)⟩
    · intro kept
      have same := kept.playoutDelay
      rw [delay] at same
      injection same with same
      rw [kept.enabled, kept.path, kept.samplerate, kept.bitdepth, same]
      rfl

theorem audioPipe_opened {given : Option Value} (isOpen : opened given = some found) :
    AudioPipeKept platform c (some (.table (mpvKeys c found))) ↔ AudioPipeKept platform c given := by
  apply audioPipe_of_keys
  intro key member
  rw [keyOf_table, keyOf_opened isOpen]
  simp only [List.mem_cons, List.not_mem_nil, or_false] at member
  rcases member with rfl | rfl | rfl | rfl | rfl <;> simp [mpvKeys, Table.put]

end Reads

end Mbv.Settings
