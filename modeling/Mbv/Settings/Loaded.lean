import Mbv.Settings.SavedSections
import Mbv.Settings.SavedServices
import Mbv.Settings.KeysTable

namespace Mbv.Settings

open Text Input Queue

variable {platform : Platform} {c : Config}

/-! ### What every section that was read is like -/

variable {given : Option Value} {key : String}

theorem getSecs_storable {absent : BitVec 64} (default : Storable absent) : Storable (getSecs given key absent) := by
  unfold getSecs
  cases found : (keyOf given key).bind Value.asInteger with
  | none => exact default
  | some value =>
    obtain ⟨stored, -, read⟩ := Option.bind_eq_some_iff.mp found
    exact atLeastOne_bounds (asInteger_bounds read).2

theorem mpvCacheSize_positive {absent : BitVec 32} (default : 0 < absent) : 0 < mpvCacheSize given key absent := by
  unfold mpvCacheSize
  cases found : (((keyOf given key).bind Value.asInteger).bind (tryUnsigned 32)).filter (0 < ·) with
  | none => exact default
  | some size =>
    have kept := (Option.filter_eq_some_iff.mp found).2
    simpa using kept

theorem mpvAudioDevice_valid {device : String} (read : mpvAudioDevice platform given = .ok device) :
    isValidAudioDevice device = true := by
  unfold mpvAudioDevice at read
  split at read
  · cases read
    decide
  · split at read
    · split at read
      · rename_i valid
        cases read
        exact valid
      · cases read
    · cases read

theorem mbvd_listen : ListenRead platform (parseMbvdSection platform given).serverTcpListen := by
  unfold parseMbvdSection
  dsimp only
  cases found : (((keyOf (keyOf given "server") "tcp_listen").bind Value.asStr).map trim).filter (· ≠ "") with
  | none =>
    refine ⟨?_, fun empty => empty⟩
    rw [Option.getD_none]
    unfold defaultDaemonServerTcpListen
    split <;> decide
  | some listen =>
    obtain ⟨given, present⟩ := Option.filter_eq_some_iff.mp found
    obtain ⟨text, -, rfl⟩ := Option.map_eq_some_iff.mp given
    refine ⟨trim_trim text, fun empty => ?_⟩
    rw [Option.getD_some] at empty
    simp [empty] at present

theorem mbvd_broadcast : 100 ≤ (parseMbvdSection platform given).broadcastMs.toNat ∧
      (parseMbvdSection platform given).broadcastMs.toNat ≤ 60000 := by
  unfold parseMbvdSection
  dsimp only
  cases (keyOf given "broadcast_ms").bind Value.asInteger with
  | none => decide
  | some value => exact broadcast_read

theorem lowercase_names (given : Option (List String)) {absent : List String}
    (default : absent.map platform.toLowercase = absent) :
    (((given.map fun names => names.map platform.toLowercase).getD absent).map platform.toLowercase) =
      (given.map fun names => names.map platform.toLowercase).getD absent := by
  cases given with
  | none => exact default
  | some names => simp [platform.toLowercase_idem]

theorem panelWidth_positive {panel : Value} {absent : BitVec 16} (default : 1 ≤ absent) : 1 ≤ panelWidth panel key absent := by
  unfold panelWidth panelKey
  cases found : (panel.get key).bind fun value =>
      (value.asInteger.bind (tryUnsigned 16)).filter (1 ≤ ·) with
  | none => exact default
  | some width =>
    obtain ⟨value, -, read⟩ := Option.bind_eq_some_iff.mp found
    simpa using (Option.filter_eq_some_iff.mp read).2

theorem panelArgvPrefix_ne_nil {panel : Value} : panelArgvPrefix panel key ≠ some [] := by
  intro empty
  have kept := (Option.filter_eq_some_iff.mp empty).2
  simp at kept

theorem panel_read (given : Option Value) : PanelRead (parsePanelSection given) := by
  cases given with
  | none => exact ⟨by decide, by decide, by decide, by decide⟩
  | some panel =>
    exact ⟨panelWidth_positive (by decide), panelWidth_positive (by decide), panelArgvPrefix_ne_nil, panelArgvPrefix_ne_nil⟩

theorem server_read (read : parseServerSection given = (c.serverUrl, c.embySetup)) : ServerRead c := by
  obtain ⟨url, setup⟩ := Prod.mk.inj read
  constructor
  · rw [← url, trimEndSlashes_twice]
  · intro held member
    rw [Option.mem_def.mp member] at setup
    split at setup
    · rename_i present
      have made := Option.some.inj setup
      rw [← url, ← made]
      simp only [EmbySetup.new, trim_trim, and_true]
      exact present.1
    · cases setup

theorem setupRevision_bounds (given : Option Value) : 0 < setupRevision given ∧ (setupRevision given).toNat < 2 ^ 63 := by
  unfold setupRevision
  cases found : (((keyOf given "revision").bind Value.asInteger).bind (tryUnsigned 64)).filter (0 < ·) with
  | none => decide
  | some revision =>
    obtain ⟨read, positive⟩ := Option.filter_eq_some_iff.mp found
    obtain ⟨value, read, same⟩ := Option.bind_eq_some_iff.mp read
    obtain ⟨stored, -, read⟩ := Option.bind_eq_some_iff.mp read
    have small := (asInteger_bounds read).2
    have equal := tryUnsigned_some same
    rw [Option.getD_some]
    exact ⟨by simpa using positive, by omega⟩

theorem audiobookshelf_read : ∀ setup ∈ parseAudiobookshelfSection given, AudiobookshelfRead setup := by
  intro setup member
  unfold parseAudiobookshelfSection at member
  dsimp only at member
  split at member
  · have made := Option.some.inj member
    rw [← made]
    constructor
    · exact (setupRevision_bounds given).1
    · exact (setupRevision_bounds given).2
  · cases member

theorem feed_read {item : Value} {feed : FeedSubscription} (read : parseFeed item = some feed) : FeedRead feed := by
  obtain ⟨table, -, read⟩ := Option.bind_eq_some_iff.mp read
  dsimp only at read
  split at read
  · cases read
  · rename_i present
    cases read
    refine ⟨trim_trim _, present, ?_⟩
    dsimp only
    split
    · exact .inl rfl
    · rename_i named
      exact .inr ⟨trim_trim _, named⟩

theorem feeds_read : ∀ feed ∈ parseFeeds given, FeedRead feed := by
  intro feed member
  unfold parseFeeds at member
  split at member
  · cases member
  · obtain ⟨item, -, read⟩ := List.mem_filterMap.mp member
    exact feed_read read

theorem libraryRoutes_read : RoutesRead platform (parseLibraryRoutesSection platform given) := by
  unfold parseLibraryRoutesSection
  cases given.bind Value.asTable with
  | none => exact ⟨List.Pairwise.nil, by simp⟩
  | some table =>
    refine ⟨Ordered.sorted_collect _, ?_⟩
    intro route member
    rcases Ordered.mem_foldl member with none | there
    · cases none
    · obtain ⟨entry, -, read⟩ := List.mem_filterMap.mp there
      obtain ⟨text, -, rfl⟩ := Option.map_eq_some_iff.mp read
      exact platform.toLowercase_idem entry.1

/-! ### A configuration that was read -/

structure Loaded (platform : Platform) (c : Config) : Prop where
  cacheForward : 0 < c.videoCacheForwardMb
  cacheBack : 0 < c.videoCacheBackMb
  device : isValidAudioDevice c.audioDevice = true
  progress : Storable c.progressIntervalSecs
  quit : Storable c.quitTimeoutSecs
  rotation : Storable c.idleFeedRotationSecs
  broadcast : 100 ≤ c.daemonBroadcastMs.toNat ∧ c.daemonBroadcastMs.toNat ≤ 60000
  listen : ListenRead platform c.daemonServerTcpListen
  hidden : c.hiddenLibraries.map platform.toLowercase = c.hiddenLibraries
  feedView : c.feedViewLibraries.map platform.toLowercase = c.feedViewLibraries
  panel : PanelRead c.panel
  server : ServerRead c
  audiobookshelf : ∀ setup ∈ c.audiobookshelfSetup, AudiobookshelfRead setup
  feeds : ∀ feed ∈ c.feeds, FeedRead feed
  routes : RoutesRead platform c.libraryRoutes
  accepted : ∃ raw, load raw = .ok c.keybinds
  order : ∀ entry ∈ c.keybinds.sections, SectionInOrder entry.2
  credentials : c.username = "" ∧ c.password = "" ∧ c.apiKey = ""

theorem mpv_of_reads (read : parseMpvSection platform given = .ok c.mpvSettings) :
    0 < c.videoCacheForwardMb ∧ 0 < c.videoCacheBackMb ∧ isValidAudioDevice c.audioDevice = true := by
  obtain ⟨delay, -, read⟩ := bind_ok read
  obtain ⟨device, found, read⟩ := bind_ok read
  have forward := congrArg MpvSettings.videoCacheForwardMb (Except.ok.inj read)
  have back := congrArg MpvSettings.videoCacheBackMb (Except.ok.inj read)
  have named := congrArg MpvSettings.audioDevice (Except.ok.inj read)
  simp only [Config.mpvSettings] at forward back named
  rw [← forward, ← back, ← named]
  exact ⟨mpvCacheSize_positive (by decide), mpvCacheSize_positive (by decide), mpvAudioDevice_valid found⟩

theorem session_of_reads (read : parseSessionSection given = c.sessionSettings) :
    Storable c.progressIntervalSecs ∧ Storable c.quitTimeoutSecs := by
  have progress := congrArg SessionSettings.progressIntervalSecs read
  have quit := congrArg SessionSettings.quitTimeoutSecs read
  simp only [parseSessionSection, Config.sessionSettings] at progress quit
  rw [← progress, ← quit]
  exact ⟨getSecs_storable ⟨by decide, by decide⟩, getSecs_storable ⟨by decide, by decide⟩⟩

theorem idleFeed_of_reads (read : parseIdleFeedSection given = c.idleFeedSettings) : Storable c.idleFeedRotationSecs := by
  have rotation := congrArg IdleFeedSettings.rotationSecs read
  simp only [parseIdleFeedSection, Config.idleFeedSettings] at rotation
  rw [← rotation]
  exact getSecs_storable ⟨by decide, by decide⟩

theorem mbvd_of_reads (read : parseMbvdSection platform given = c.mbvdSettings) :
    (100 ≤ c.daemonBroadcastMs.toNat ∧ c.daemonBroadcastMs.toNat ≤ 60000) ∧ ListenRead platform c.daemonServerTcpListen := by
  have broadcast := congrArg MbvdSettings.broadcastMs read
  have listen := congrArg MbvdSettings.serverTcpListen read
  simp only [Config.mbvdSettings] at broadcast listen
  rw [← broadcast, ← listen]
  exact ⟨mbvd_broadcast, mbvd_listen⟩

theorem library_of_reads (read : parseLibrarySection platform given = c.librarySettings) :
    c.hiddenLibraries.map platform.toLowercase = c.hiddenLibraries ∧
      c.feedViewLibraries.map platform.toLowercase = c.feedViewLibraries := by
  have hidden := congrArg LibrarySettings.hiddenLibraries read
  have feedView := congrArg LibrarySettings.feedViewLibraries read
  simp only [parseLibrarySection, Config.librarySettings] at hidden feedView
  have live : platform.toLowercase "live tv" = "live tv" := by
    rw [platform.toLowercase_ascii _ (by simp)]
    decide
  rw [← hidden, ← feedView]
  exact ⟨lowercase_names _ (by simp [live]), lowercase_names _ rfl⟩

theorem loaded_of_parsed {other : Document} (parsed : parseConfig platform other.val = .ok c) :
    Loaded platform c := by
  have reads := parseConfig_iff.mp parsed
  obtain ⟨forward, back, device⟩ := mpv_of_reads reads.mpv
  obtain ⟨progress, quit⟩ := session_of_reads reads.session
  obtain ⟨broadcast, listen⟩ := mbvd_of_reads reads.mbvd
  obtain ⟨hidden, feedView⟩ := library_of_reads reads.library
  obtain ⟨accepted, order⟩ := parseKeys_inOrder reads.keybinds (other.get_inOrder "keys")
  exact
    { cacheForward := forward
      cacheBack := back
      device
      progress
      quit
      rotation := idleFeed_of_reads reads.idleFeed
      broadcast
      listen
      hidden
      feedView
      panel := reads.panel ▸ panel_read _
      server := server_read reads.server
      audiobookshelf := reads.audiobookshelf ▸ audiobookshelf_read
      feeds := reads.feeds ▸ feeds_read
      routes := reads.libraryRoutes ▸ libraryRoutes_read
      accepted
      order
      credentials := reads.credentials }

end Mbv.Settings
