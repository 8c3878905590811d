import Mbv.Settings.Loaded

namespace Mbv.Settings

open Text Input Queue List

variable {platform : Platform} {c : Config}

/-! ### Sections that are always written -/

theorem section_kept_iff {name : String} {keys : Table → Table} {given : Option Value} {P : Option Value → Prop} {Q : Prop}
    (reads : ∀ found, opened given = some found → (P (some (.table (keys found))) ↔ Q)) :
    (∃ next, (sectionWriter name fun found => some (keys found)).effect given = some next ∧ P next) ↔
      (opened given).isSome = true ∧ Q := by
  rw [sectionWriter_effect_iff]
  constructor
  · rintro ⟨found, isOpen, inner, change, read⟩
    cases change
    exact ⟨Option.isSome_iff_exists.mpr ⟨found, isOpen⟩, (reads found isOpen).mp read⟩
  · rintro ⟨isOpen, kept⟩
    obtain ⟨found, isOpen⟩ := Option.isSome_iff_exists.mp isOpen
    exact ⟨found, isOpen, _, rfl, (reads found isOpen).mpr kept⟩

theorem nested_kept_iff {name inside : String} {keys nestedKeys : Table → Table} {given : Option Value} {P : Option Value → Prop}
    (same : ∀ found, Ordered.get inside (keys found) = Ordered.get inside found)
    (reads : ∀ found nested, P (some (.table ((keys found).put inside (.table (nestedKeys nested)))))) :
    (∃ next, (sectionWriter name fun found =>
        (keys found).patch inside fun nested => some (nestedKeys nested)).effect given = some next ∧
        P next) ↔
      (opened given).isSome = true ∧ (opened (keyOf given inside)).isSome = true := by
  rw [sectionWriter_effect_iff]
  constructor
  · rintro ⟨found, isOpen, inner, change, -⟩
    obtain ⟨nested, isOpen', -⟩ := Option.bind_eq_some_iff.mp change
    rw [same] at isOpen'
    refine ⟨Option.isSome_iff_exists.mpr ⟨found, isOpen⟩, Option.isSome_iff_exists.mpr ⟨nested, ?_⟩⟩
    rw [keyOf_opened isOpen, isOpen']
  · rintro ⟨isOpen, isOpen'⟩
    obtain ⟨found, isOpen⟩ := Option.isSome_iff_exists.mp isOpen
    obtain ⟨nested, isOpen'⟩ := Option.isSome_iff_exists.mp isOpen'
    rw [keyOf_opened isOpen, ← same] at isOpen'
    refine ⟨found, isOpen, (keys found).put inside (.table (nestedKeys nested)), ?_, reads found nested⟩
    unfold Table.patch
    rw [isOpen', Option.bind_some, Option.map_some]
    exact rfl

def mbvdWriter (c : Config) : Ordered.Writer String Value :=
  sectionWriter "mbvd" fun mbvd =>
    Table.patch (mbvdKeys c mbvd) "server" fun server => some (mbvdServerKeys c server)

theorem mbvd_kept_iff {given : Option Value} (loaded : Loaded platform c) :
    (∃ next, (mbvdWriter c).effect given = some next ∧ parseMbvdSection platform next = c.mbvdSettings) ↔
      (opened given).isSome = true ∧ (opened (keyOf given "server")).isSome = true := by
  apply nested_kept_iff
  · intro found
    unfold mbvdKeys
    cases c.audioPipePlayoutDelayMs <;> simp [Table.put, Table.drop]
  · intro found server
    refine @mbvd_read platform c _ server loaded.broadcast.1 loaded.broadcast.2 loaded.listen ?_ ?_
    · unfold mbvdKeys
      cases c.audioPipePlayoutDelayMs <;> simp [Table.put, Table.drop]
    · simp [Table.put]

def libraryWriter (c : Config) : Ordered.Writer String Value :=
  sectionWriter "library" fun library =>
    if c.musicLevels = [] then some (libraryKeys c library)
    else Table.patch (libraryKeys c library) "music" fun music =>
      some (music.put "levels" (strings c.musicLevels))

/-- An emptied list of levels is not written: none were found there. -/
def MusicKept (platform : Platform) (c : Config) (given : Option Value) : Prop :=
  if c.musicLevels = [] then (parseLibrarySection platform given).musicLevels = []
  else (opened (keyOf given "music")).isSome = true

theorem library_kept_iff {given : Option Value} (loaded : Loaded platform c) :
    (∃ next, (libraryWriter c).effect given = some next ∧ parseLibrarySection platform next = c.librarySettings) ↔
      (opened given).isSome = true ∧ MusicKept platform c given := by
  unfold libraryWriter MusicKept
  by_cases levels : c.musicLevels = []
  · simp only [if_pos levels]
    apply section_kept_iff
    intro found isOpen
    have read := @library_read platform c (libraryKeys c found) _ loaded.hidden loaded.feedView
      (by simp [libraryKeys, Table.put, Table.drop]) (by simp [libraryKeys, Table.put]) rfl
    have music : Ordered.get "music" (libraryKeys c found) = keyOf given "music" := by
      rw [keyOf_opened isOpen]
      simp [libraryKeys, Table.put, Table.drop]
    rw [read, music]
    simp [parseLibrarySection, Config.librarySettings, levels]
  · simp only [if_neg levels]
    apply nested_kept_iff
    · intro found
      simp [libraryKeys, Table.put, Table.drop]
    · intro found music
      apply library_read loaded.hidden loaded.feedView
      · simp [libraryKeys, Table.put, Table.drop]
      · simp [libraryKeys, Table.put]
      · have written : Ordered.get "music" ((libraryKeys c found).put "music"
            (.table (music.put "levels" (strings c.musicLevels)))) =
            some (.table (music.put "levels" (strings c.musicLevels))) := by simp [Table.put]
        rw [written, @getStrings_stored _ _ c.musicLevels (by simp [Table.put])]
        rfl

def keysWriter (c : Config) : Ordered.Writer String Value :=
  if (keysTable c.keybinds).isEmpty then .drop "keys"
  else .put "keys" (.table (keysTable c.keybinds))

theorem keys_kept_iff {given : Option Value} (loaded : Loaded platform c) :
    (∃ next, (keysWriter c).effect given = some next ∧ parseKeys next = .ok c.keybinds) ↔ SavedInOrder c.keybinds := by
  rw [← parseKeys_saved_iff loaded.accepted loaded.order]
  unfold keysWriter savedKeys
  split <;> simp [Ordered.Writer.drop, Ordered.Writer.put]

/-! ### The whole file -/

def saveJobs (platform : Platform) (c : Config) :
    List (Ordered.Writer String Value × (Option Value → Prop)) :=
  [(serverWriter c, fun read => parseServerSection read = (c.serverUrl, c.embySetup)),
    (audiobookshelfWriter c, fun read => parseAudiobookshelfSection read = c.audiobookshelfSetup),
    (sectionWriter "session" fun found => some (sessionKeys c found),
      fun read => parseSessionSection read = c.sessionSettings),
    (libraryWriter c, fun read => parseLibrarySection platform read = c.librarySettings),
    (sectionWriter "display" fun found => some (displayKeys c found),
      fun read => parseDisplaySection read = c.displaySettings),
    (libraryRoutesWriter c, fun read => parseLibraryRoutesSection platform read = c.libraryRoutes),
    (feedsWriter c, fun read => parseFeeds read = c.feeds),
    (sectionWriter "queue" fun found => some (queueKeys c found),
      fun read => parseQueueSection read = c.queueSettings),
    (sectionWriter "mpv" fun found => some (mpvKeys c found),
      fun read => parseMpvSection platform read = .ok c.mpvSettings),
    (sectionWriter "idle_feed" fun found => some (idleFeedKeys c found),
      fun read => parseIdleFeedSection read = c.idleFeedSettings),
    (.drop "shared_data", fun _ => True),
    (mbvdWriter c, fun read => parseMbvdSection platform read = c.mbvdSettings),
    (sectionWriter "playback" fun found => some (playbackKeys c found),
      fun read => parsePlaybackSection read = c.playbackSettings),
    (keysWriter c, fun read => parseKeys read = .ok c.keybinds),
    (sectionWriter "panel" fun found => some (panelKeys c found),
      fun read => parsePanelSection read = c.panel)]

@[simp] theorem serverWriter_key : (serverWriter c).key = "server" := by
  unfold serverWriter
  split <;> rfl

@[simp] theorem audiobookshelfWriter_key : (audiobookshelfWriter c).key = "audiobookshelf" := by
  unfold audiobookshelfWriter
  split <;> rfl

@[simp] theorem libraryRoutesWriter_key : (libraryRoutesWriter c).key = "library_routes" := by
  unfold libraryRoutesWriter
  split <;> rfl

@[simp] theorem feedsWriter_key : (feedsWriter c).key = "feeds" := by
  unfold feedsWriter
  split <;> rfl

@[simp] theorem keysWriter_key : (keysWriter c).key = "keys" := by
  unfold keysWriter
  split <;> rfl

@[simp] theorem sectionWriter_key {name : String} {change : Table → Option Table} : (sectionWriter name change).key = name := rfl

theorem saveJobs_distinct : ((saveJobs platform c).map fun job => job.1.key).Nodup := by
  have names : (saveJobs platform c).map (fun job => job.1.key) =
      ["server", "audiobookshelf", "session", "library", "display", "library_routes", "feeds", "queue",
        "mpv", "idle_feed", "shared_data", "mbvd", "playback", "keys", "panel"] := by
    simp [saveJobs, libraryWriter, mbvdWriter, Ordered.Writer.drop]
  rw [names]
  decide

theorem serverWriter_write (table : Table) : (serverWriter c).write table = writeServerSection c table := by
  unfold serverWriter writeServerSection
  split <;> rfl

theorem audiobookshelfWriter_write (table : Table) :
    (audiobookshelfWriter c).write table = writeAudiobookshelfSection c table := by
  unfold audiobookshelfWriter writeAudiobookshelfSection
  cases c.audiobookshelfSetup.filter fun setup => setup.serverUrl ≠ "" <;> rfl

theorem libraryRoutesWriter_write (table : Table) : (libraryRoutesWriter c).write table = writeLibraryRoutesSection c table := by
  unfold libraryRoutesWriter writeLibraryRoutesSection
  split <;> rfl

theorem feedsWriter_write (table : Table) : (feedsWriter c).write table = writeFeedsSection c table := by
  unfold feedsWriter writeFeedsSection
  split <;> rfl

theorem keysWriter_write (table : Table) : (keysWriter c).write table = writeKeysSection c table := by
  unfold keysWriter writeKeysSection
  split <;> rfl

theorem sectionWriter_write {name : String} {change : Table → Option Table} (table : Table) :
    (sectionWriter name change).write table = table.patch name change := rfl

theorem saveConfigSettings_run (table : Table) :
    saveConfigSettings c table = Ordered.Writer.run ((saveJobs platform c).map Prod.fst) table := by
  have dropped (table : Table) (next : Table → Option Table) :
      ((Ordered.Writer.drop "shared_data").write table >>= next) = next (table.drop "shared_data") := rfl
  unfold saveJobs Ordered.Writer.run libraryWriter mbvdWriter
  simp only [map_cons, map_nil, foldlM_cons, foldlM_nil, serverWriter_write,
    audiobookshelfWriter_write, libraryRoutesWriter_write, feedsWriter_write, keysWriter_write,
    sectionWriter_write, dropped, bind_pure]
  simp only [saveConfigSettings, writeSessionSection, writeLibrarySection, writeDisplaySection,
    writeQueueSection, writeMpvSection, writeIdleFeedSection, writeMbvdSection, writePlaybackSection,
    writePanelSection]

theorem readsAs_iff {saved : Table} (loaded : Loaded platform c) :
    ReadsAs platform saved c ↔
      ∀ job ∈ saveJobs platform c, job.2 (Ordered.get job.1.key saved) := by
  simp only [saveJobs, libraryWriter, mbvdWriter, forall_mem_cons, serverWriter_key,
    audiobookshelfWriter_key, libraryRoutesWriter_key, feedsWriter_key, keysWriter_key,
    sectionWriter_key]
  constructor
  · intro reads
    exact ⟨reads.server, reads.audiobookshelf, reads.session, reads.library, reads.display,
      reads.libraryRoutes, reads.feeds, reads.queue, reads.mpv, reads.idleFeed, trivial, reads.mbvd,
      reads.playback, reads.keybinds, reads.panel, by simp⟩
  · rintro ⟨server, audiobookshelf, session, library, display, libraryRoutes, feeds, queue, mpv, idleFeed,
      -, mbvd, playback, keybinds, panel, -⟩
    exact
      { feeds, mpv, queue, session, playback, display, mbvd, library, idleFeed, panel, server,
        audiobookshelf, libraryRoutes, keybinds
        credentials := loaded.credentials }

/-- When a document, patched with a configuration, is read as that configuration. -/
structure SettingsKept (platform : Platform) (c : Config) (doc : Table) : Prop where
  tables : ∀ name ∈ ["session", "library", "display", "queue", "mpv", "idle_feed", "mbvd", "playback",
    "panel"], (opened (Ordered.get name doc)).isSome = true
  server : ServerKept c (Ordered.get "server" doc)
  audiobookshelf : AudiobookshelfKept c (Ordered.get "audiobookshelf" doc)
  music : MusicKept platform c (Ordered.get "library" doc)
  audioPipe : AudioPipeKept platform c (Ordered.get "mpv" doc)
  mbvdServer : (opened (keyOf (Ordered.get "mbvd" doc) "server")).isSome = true
  terminal : c.panel.terminal = none → (parsePanelSection (Ordered.get "panel" doc)).terminal = none
  pinTerminal :
    c.panel.pinTerminal = none → (parsePanelSection (Ordered.get "panel" doc)).pinTerminal = none
  feeds : ∀ feed ∈ c.feeds, FeedKept feed
  keys : SavedInOrder c.keybinds

theorem terminalKept_opened {argv : Option (List String)} {given : Option Value} {found : Table}
    {key : String} (isOpen : opened given = some found) :
    TerminalKept argv found key ↔ (argv = none → (given.elim none fun panel => panelArgvPrefix panel key) = none) := by
  unfold TerminalKept
  cases given with
  | none =>
    cases isOpen
    exact Iff.rfl
  | some value =>
    cases value with
    | table entries =>
      cases isOpen
      exact Iff.rfl
    | _ => cases isOpen

theorem panel_kept_iff {given : Option Value} (loaded : Loaded platform c) :
    (∃ next, (sectionWriter "panel" fun found => some (panelKeys c found)).effect given = some next ∧
      parsePanelSection next = c.panel) ↔
      (opened given).isSome = true ∧ (c.panel.terminal = none → (parsePanelSection given).terminal = none) ∧
        (c.panel.pinTerminal = none → (parsePanelSection given).pinTerminal = none) := by
  have terminal : (parsePanelSection given).terminal = given.elim none fun panel => panelArgvPrefix panel "terminal" := by
    cases given <;> rfl
  have pinTerminal : (parsePanelSection given).pinTerminal =
      given.elim none fun panel => panelArgvPrefix panel "pin_terminal" := by
    cases given <;> rfl
  apply section_kept_iff
  intro found isOpen
  rw [panel_read_iff loaded.panel, terminal, pinTerminal, terminalKept_opened isOpen, terminalKept_opened isOpen]

theorem mpv_kept_iff {given : Option Value} (loaded : Loaded platform c) :
    (∃ next, (sectionWriter "mpv" fun found => some (mpvKeys c found)).effect given = some next ∧
      parseMpvSection platform next = .ok c.mpvSettings) ↔
      (opened given).isSome = true ∧ AudioPipeKept platform c given := by
  apply section_kept_iff
  intro found isOpen
  rw [mpv_read_iff platform c found loaded.cacheForward loaded.cacheBack loaded.device]
  exact audioPipe_opened platform c found isOpen

theorem plain_kept_iff {name : String} {keys : Table → Table} {given : Option Value}
    {P : Option Value → Prop} (reads : ∀ found, P (some (.table (keys found)))) :
    (∃ next, (sectionWriter name fun found => some (keys found)).effect given = some next ∧ P next) ↔
      (opened given).isSome = true := by
  rw [section_kept_iff fun found _ => iff_true_intro (reads found)]
  simp

theorem jobs_kept_iff {doc : Table} (loaded : Loaded platform c) : (∀ job ∈ saveJobs platform c,
      ∃ value, job.1.effect (Ordered.get job.1.key doc) = some value ∧ job.2 value) ↔
      SettingsKept platform c doc := by
  have dropped : ∃ value : Option Value,
      (Ordered.Writer.drop "shared_data").effect (Ordered.get "shared_data" doc) = some value ∧ True :=
    ⟨none, rfl, trivial⟩
  have routes := @routes_kept platform c (Ordered.get "library_routes" doc) loaded.routes
  have session := @plain_kept_iff "session" _ (Ordered.get "session" doc)
    (fun read => parseSessionSection read = c.sessionSettings)
    fun found => session_read found loaded.progress loaded.quit
  have display := @plain_kept_iff "display" _ (Ordered.get "display" doc)
    (fun read => parseDisplaySection read = c.displaySettings) (display_read c)
  have queue := @plain_kept_iff "queue" _ (Ordered.get "queue" doc)
    (fun read => parseQueueSection read = c.queueSettings) (queue_read c)
  have idleFeed := @plain_kept_iff "idle_feed" _ (Ordered.get "idle_feed" doc)
    (fun read => parseIdleFeedSection read = c.idleFeedSettings)
    fun found => idleFeed_read found loaded.rotation
  have playback := @plain_kept_iff "playback" _ (Ordered.get "playback" doc)
    (fun read => parsePlaybackSection read = c.playbackSettings) (playback_read c)
  have libraryKey : (libraryWriter c).key = "library" := rfl
  have mbvdKey : (mbvdWriter c).key = "mbvd" := rfl
  have dropKey : (Ordered.Writer.drop "shared_data" : Ordered.Writer String Value).key = "shared_data" := rfl
  simp only [saveJobs, forall_mem_cons, serverWriter_key, audiobookshelfWriter_key,
    libraryRoutesWriter_key, feedsWriter_key, keysWriter_key, sectionWriter_key, libraryKey, mbvdKey, dropKey,
    server_kept_iff loaded.server, audiobookshelf_kept_iff loaded.audiobookshelf, session,
    library_kept_iff loaded, display, routes, feeds_kept_iff loaded.feeds, queue, mpv_kept_iff loaded,
    idleFeed, dropped, mbvd_kept_iff loaded, playback, keys_kept_iff loaded, panel_kept_iff loaded]
  constructor
  · rintro ⟨server, audiobookshelf, session, ⟨library, music⟩, display, -, feeds, queue, ⟨mpv, audioPipe⟩,
      idleFeed, -, ⟨mbvd, mbvdServer⟩, playback, keys, ⟨panel, terminal, pinTerminal⟩, -⟩
    refine ⟨?_, server, audiobookshelf, music, audioPipe, mbvdServer, terminal, pinTerminal, feeds, keys⟩
    simp only [forall_mem_cons]
    exact ⟨session, library, display, queue, mpv, idleFeed, mbvd, playback, panel, by simp⟩
  · rintro ⟨tables, server, audiobookshelf, music, audioPipe, mbvdServer, terminal, pinTerminal, feeds, keys⟩
    simp only [forall_mem_cons] at tables
    obtain ⟨session, library, display, queue, mpv, idleFeed, mbvd, playback, panel, -⟩ := tables
    exact ⟨server, audiobookshelf, session, ⟨library, music⟩, display, trivial, feeds, queue,
      ⟨mpv, audioPipe⟩, idleFeed, trivial, ⟨mbvd, mbvdServer⟩, playback, keys,
      ⟨panel, terminal, pinTerminal⟩, by simp⟩

theorem toAsciiLowercase_twice (c : Char) : toAsciiLowercase (toAsciiLowercase c) = toAsciiLowercase c := by
  have lower : ∀ n : Fin 26, isAsciiUppercase (Char.ofNat (0x41 + n.val + 0x20)) = false := by decide
  cases upper : isAsciiUppercase c with
  | false => rw [toAsciiLowercase_of_not upper, toAsciiLowercase_of_not upper]
  | true =>
    apply toAsciiLowercase_of_not
    have inside : 0x41 ≤ c.toNat ∧ c.toNat ≤ 0x5A := by simpa [isAsciiUppercase] using upper
    have same := lower ⟨c.toNat - 0x41, by omega⟩
    rw [show 0x41 + (⟨c.toNat - 0x41, by omega⟩ : Fin 26).val = c.toNat by simp only; omega] at same
    unfold toAsciiLowercase
    rw [if_pos upper]
    exact same

theorem asciiLowercase_twice (text : String) : asciiLowercase (asciiLowercase text) = asciiLowercase text := by
  have twice : toAsciiLowercase ∘ toAsciiLowercase = toAsciiLowercase := funext toAsciiLowercase_twice
  unfold asciiLowercase
  simp [twice]

def plainPlatform : Platform where
  toLowercase := asciiLowercase
  toLowercase_idem := asciiLowercase_twice
  toLowercase_ascii _ _ := rfl
  defaultAudioPipePath := "/run/mbv/audio.pipe"
  isSystemInstance := false
  debug _ := ""

def emptyDocument : Document := ⟨[], .table List.Pairwise.nil (by simp)⟩

/-- `[mpv]` with the audio pipe turned on. -/
def pipedDocument : Document :=
  ⟨[("mpv", .table [("audio_pipe_enabled", .boolean true)])],
    .table (pairwise_singleton _ _) (by
      simp only [forall_mem_cons]
      refine ⟨.table (pairwise_singleton _ _) ?_, by simp⟩
      simp only [forall_mem_cons]
      exact ⟨.boolean, by simp⟩)⟩

theorem audioPipe_of_saved {doc saved : Table} (loaded : Loaded platform c)
    (wrote : saveConfigSettings c doc = some saved) (read : parseConfig platform saved = .ok c) :
    AudioPipeKept platform c (Ordered.get "mpv" doc) := by
  rw [@saveConfigSettings_run platform c] at wrote
  have reads := (readsAs_iff loaded).mp (parseConfig_iff.mp read)
  exact ((jobs_kept_iff loaded).mp ((Ordered.Writer.run_meets_iff saveJobs_distinct).mp ⟨saved, wrote, reads⟩)).audioPipe

end Mbv.Settings
