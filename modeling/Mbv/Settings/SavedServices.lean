import Mbv.Settings.SectionReads
import Mbv.Sequence.Writers

namespace Mbv.Settings

open Text Input Queue List

variable {platform : Platform} {c : Config}

theorem trimEndSlashes_twice (text : String) : trimEndSlashes (trimEndSlashes text) = trimEndSlashes text := by
  unfold trimEndSlashes
  simp [dropWhile_idempotent]

theorem trim_empty : trim "" = "" := by decide

theorem trimEndSlashes_empty : trimEndSlashes "" = "" := by decide

/-! ### Emby -/

structure ServerRead (c : Config) : Prop where
  url : trimEndSlashes c.serverUrl = c.serverUrl
  setup : ∀ setup ∈ c.embySetup, c.serverUrl ≠ "" ∧
    setup.serverUrl = trimEndSlashes (trim c.serverUrl) ∧ trim setup.userId = setup.userId

def ServerKept (c : Config) (given : Option Value) : Prop :=
  match c.embySetup with
  | some setup => setup.serverUrl = c.serverUrl ∧ setup.userId ≠ "" ∧
      setup.revision = setupRevision given ∧ (opened given).isSome = true
  | none =>
    if c.serverUrl = "" then (parseServerSection given).1 = "" else (opened given).isSome = true

def sectionWriter (name : String) (change : Table → Option Table) : Ordered.Writer String Value :=
  .patch name opened change .table

variable {given : Option Value}

theorem sectionWriter_effect_iff {name : String} {change : Table → Option Table} {P : Option Value → Prop} :
    (∃ next, (sectionWriter name change).effect given = some next ∧ P next) ↔
      ∃ found ∈ opened given, ∃ inner ∈ change found, P (some (.table inner)) := by
  constructor
  · rintro ⟨next, effect, holds⟩
    obtain ⟨found, isOpen, effect⟩ := Option.bind_eq_some_iff.mp effect
    obtain ⟨inner, changed, rfl⟩ := Option.map_eq_some_iff.mp effect
    exact ⟨found, isOpen, inner, changed, holds⟩
  · rintro ⟨found, isOpen, inner, changed, holds⟩
    refine ⟨some (.table inner), ?_, holds⟩
    have first : opened given = some found := isOpen
    have second : change found = some inner := changed
    simp [sectionWriter, Ordered.Writer.patch, first, second]

def serverWriter (c : Config) : Ordered.Writer String Value :=
  if c.writtenUrl = "" then .keep "server" else sectionWriter "server" fun server => some (serverKeys c server)

theorem server_unset : parseServerSection given = ("", none) ↔ (parseServerSection given).1 = "" := by
  constructor
  · intro read
    rw [read]
  · intro empty
    have none : (parseServerSection given).2 = none := by
      unfold parseServerSection at empty ⊢
      dsimp only at empty ⊢
      rw [empty]
      simp
    exact Prod.ext empty none

theorem server_read_bare {found : Table} (read : ServerRead c) (bare : c.writtenSetup = none) :
    parseServerSection (some (.table (serverKeys c found))) = (c.serverUrl, none) := by
  have url : c.writtenUrl = c.serverUrl := by simp [Config.writtenUrl, bare]
  unfold parseServerSection serverKeys getStr
  rw [url, bare]
  simp [Table.put, Table.drop, Value.asStr, read.url]

theorem setupRevision_of_keys {found inner : Table} (isOpen : opened given = some found)
    (same : Ordered.get "revision" inner = Ordered.get "revision" found) :
    setupRevision (some (.table inner)) = setupRevision given := by
  unfold setupRevision
  rw [keyOf_table, same, keyOf_opened isOpen]

theorem server_read_setup {found : Table} {setup : EmbySetup} (isOpen : opened given = some found)
    (read : ServerRead c) (held : c.embySetup = some setup) (written : setup.serverUrl ≠ "") :
    parseServerSection (some (.table (serverKeys c found))) = (c.serverUrl, some setup) ↔
      setup.serverUrl = c.serverUrl ∧ setup.userId ≠ "" ∧ setup.revision = setupRevision given := by
  obtain ⟨-, made, trimmed⟩ := read.setup setup held
  have writes : c.writtenSetup = some setup := by simp [Config.writtenSetup, held, Option.filter, written]
  have url : c.writtenUrl = setup.serverUrl := by simp [Config.writtenUrl, writes]
  have kept : trimEndSlashes setup.serverUrl = setup.serverUrl := by
    rw [made, trimEndSlashes_twice]
  have revision := @setupRevision_of_keys given found (serverKeys c found) isOpen (by simp [serverKeys, writes, Table.put])
  have gotUrl : getStr (some (.table (serverKeys c found))) "url" = setup.serverUrl := by
    simp [getStr, serverKeys, writes, url, Table.put, Value.asStr]
  have gotUser : getStr (some (.table (serverKeys c found))) "user_id" = setup.userId := by
    simp [getStr, serverKeys, writes, Table.put, Value.asStr]
  unfold parseServerSection
  dsimp only
  rw [gotUrl, gotUser, kept, revision, Prod.mk.injEq]
  constructor
  · rintro ⟨same, found⟩
    by_cases user : setup.userId = ""
    · simp [user] at found
    · rw [if_pos ⟨written, user⟩, Option.some.injEq] at found
      exact ⟨same, user, (congrArg EmbySetup.revision found).symm⟩
  · rintro ⟨same, user, stored⟩
    refine ⟨same, ?_⟩
    rw [if_pos ⟨written, user⟩, Option.some.injEq]
    obtain ⟨serverUrl, userId, revision⟩ := setup
    simp only [EmbySetup.new, EmbySetup.mk.injEq]
    simp only at same trimmed made stored
    exact ⟨by rw [same, ← made, same], trimmed, stored.symm⟩

theorem server_kept_iff (read : ServerRead c) : (∃ next, (serverWriter c).effect given = some next ∧
      parseServerSection next = (c.serverUrl, c.embySetup)) ↔ ServerKept c given := by
  have opens (found : Option Table) : (∃ table ∈ found, True) ↔ found.isSome = true := by
    cases found <;> simp
  unfold serverWriter ServerKept
  cases held : c.embySetup with
  | none =>
    have bare : c.writtenSetup = none := by simp [Config.writtenSetup, held]
    have url : c.writtenUrl = c.serverUrl := by simp [Config.writtenUrl, bare]
    rw [url]
    dsimp only
    split
    · rename_i empty
      rw [empty, ← server_unset]
      simp [Ordered.Writer.keep]
    · rw [sectionWriter_effect_iff, ← opens]
      simp [server_read_bare read bare]
  | some setup =>
    obtain ⟨present, made, -⟩ := read.setup setup held
    dsimp only
    by_cases written : setup.serverUrl = ""
    · have bare : c.writtenSetup = none := by simp [Config.writtenSetup, held, Option.filter, written]
      have url : c.writtenUrl = c.serverUrl := by simp [Config.writtenUrl, bare]
      rw [url, if_neg present, sectionWriter_effect_iff]
      have apart : setup.serverUrl ≠ c.serverUrl := fun same => present (same ▸ written)
      simp [server_read_bare read bare, apart]
    · have writes : c.writtenSetup = some setup := by
        simp [Config.writtenSetup, held, Option.filter, written]
      have url : c.writtenUrl = setup.serverUrl := by simp [Config.writtenUrl, writes]
      rw [url, if_neg written, sectionWriter_effect_iff]
      constructor
      · rintro ⟨found, isOpen, inner, change, same⟩
        cases change
        obtain ⟨first, second, third⟩ := (server_read_setup isOpen read held written).mp same
        have isOpen' : opened given = some found := isOpen
        exact ⟨first, second, third, by simp [isOpen']⟩
      · rintro ⟨first, second, third, isOpen⟩
        obtain ⟨found, isOpen⟩ := Option.isSome_iff_exists.mp isOpen
        exact ⟨found, isOpen, _, rfl, (server_read_setup isOpen read held written).mpr ⟨first, second, third⟩⟩

/-! ### Audiobookshelf -/

structure AudiobookshelfRead (setup : AudiobookshelfSetup) : Prop where
  positive : 0 < setup.revision
  small : setup.revision.toNat < 2 ^ 63

def AudiobookshelfKept (c : Config) (given : Option Value) : Prop :=
  ∀ setup ∈ c.audiobookshelfSetup, setup.serverUrl ≠ "" ∧
    trimEndSlashes (trim setup.serverUrl) = setup.serverUrl ∧ (opened given).isSome = true

def audiobookshelfWriter (c : Config) : Ordered.Writer String Value :=
  match c.audiobookshelfSetup.filter fun setup => setup.serverUrl ≠ "" with
  | some setup => sectionWriter "audiobookshelf" fun found => some (audiobookshelfKeys setup found)
  | none => .drop "audiobookshelf"

theorem audiobookshelf_absent : parseAudiobookshelfSection none = none := by
  simp [parseAudiobookshelfSection, getStr, keyOf, trim_empty]

theorem audiobookshelf_read_iff {setup : AudiobookshelfSetup} {found : Table}
    (read : AudiobookshelfRead setup) (present : setup.serverUrl ≠ "") :
    parseAudiobookshelfSection (some (.table (audiobookshelfKeys setup found))) = some setup ↔
      trimEndSlashes (trim setup.serverUrl) = setup.serverUrl := by
  have url : getStr (some (.table (audiobookshelfKeys setup found))) "url" = setup.serverUrl := by
    simp [getStr, audiobookshelfKeys, Table.put, Value.asStr]
  have shown : decide (0 < setup.revision) = true := decide_eq_true read.positive
  have revision : setupRevision (some (.table (audiobookshelfKeys setup found))) = setup.revision := by
    unfold setupRevision
    rw [keyOf_table, show Ordered.get "revision" (audiobookshelfKeys setup found) =
      some (number setup.revision) by simp [audiobookshelfKeys, Table.put], Option.bind_some,
      asInteger_number read.small, Option.bind_some, tryUnsigned_toNat, Option.filter_some,
      if_pos shown, Option.getD_some]
  unfold parseAudiobookshelfSection
  dsimp only
  rw [url, revision]
  constructor
  · intro same
    by_cases blank : trim setup.serverUrl = ""
    · simp [blank] at same
    · rw [if_pos blank, Option.some.injEq] at same
      have made := congrArg AudiobookshelfSetup.serverUrl same
      simp only [AudiobookshelfSetup.new] at made
      exact made
  · intro kept
    have visible : trim setup.serverUrl ≠ "" := by
      intro blank
      rw [blank] at kept
      rw [trimEndSlashes_empty] at kept
      exact present kept.symm
    rw [if_pos visible]
    unfold AudiobookshelfSetup.new
    rw [kept]

theorem audiobookshelf_kept_iff (read : ∀ setup ∈ c.audiobookshelfSetup, AudiobookshelfRead setup) :
    (∃ next, (audiobookshelfWriter c).effect given = some next ∧
      parseAudiobookshelfSection next = c.audiobookshelfSetup) ↔ AudiobookshelfKept c given := by
  unfold audiobookshelfWriter AudiobookshelfKept
  cases held : c.audiobookshelfSetup with
  | none => simp [Ordered.Writer.drop, audiobookshelf_absent]
  | some setup =>
    simp only [Option.mem_some_iff, forall_eq']
    by_cases present : setup.serverUrl = ""
    · have dropped : (some setup).filter (fun setup => decide (setup.serverUrl ≠ "")) = none := by
        simp [Option.filter, present]
      rw [dropped]
      simp [Ordered.Writer.drop, audiobookshelf_absent, present]
    · have written : (some setup).filter (fun setup => decide (setup.serverUrl ≠ "")) = some setup := by
        simp [Option.filter, present]
      rw [written]
      dsimp only
      rw [sectionWriter_effect_iff]
      have reads (found : Table) := @audiobookshelf_read_iff setup found (read setup held) present
      constructor
      · rintro ⟨found, isOpen, inner, change, same⟩
        cases change
        have isOpen' : opened given = some found := isOpen
        exact ⟨present, (reads found).mp same, by simp [isOpen']⟩
      · rintro ⟨-, kept, isOpen⟩
        obtain ⟨found, isOpen⟩ := Option.isSome_iff_exists.mp isOpen
        exact ⟨found, isOpen, _, rfl, (reads found).mpr kept⟩

/-! ### Feeds and routes -/

structure FeedRead (feed : FeedSubscription) : Prop where
  url : trim feed.url = feed.url
  present : feed.url ≠ ""
  name : feed.name = defaultFeedName feed.url ∨ trim feed.name = feed.name ∧ feed.name ≠ ""

def FeedKept (feed : FeedSubscription) : Prop := trim feed.name = feed.name ∨ trim feed.name = ""

theorem parseFeed_row {feed : FeedSubscription} (read : FeedRead feed) : parseFeed feed.row =
    some { feed with name := if trim feed.name = "" then defaultFeedName feed.url else trim feed.name } := by
  simp [parseFeed, FeedSubscription.row, Table.put, Value.asTable, Value.asStr, read.url, read.present, feedKind_asStr]

theorem feed_read_iff {feed : FeedSubscription} (read : FeedRead feed) : parseFeed feed.row = some feed ↔ FeedKept feed := by
  rw [parseFeed_row read, Option.some.injEq]
  obtain ⟨name, url, kind⟩ := feed
  have named := read.name
  unfold FeedKept
  simp only [FeedSubscription.mk.injEq, and_true] at named ⊢
  by_cases blank : trim name = ""
  · rw [if_pos blank]
    refine iff_of_true ?_ (.inr blank)
    rcases named with host | ⟨kept, present⟩
    · exact host.symm
    · exact absurd (kept.symm.trans blank) present
  · rw [if_neg blank]
    simp [blank]

def feedsWriter (c : Config) : Ordered.Writer String Value :=
  if c.feeds = [] then .drop "feeds"
  else .put "feeds" (.array (c.feeds.map FeedSubscription.row))

theorem feeds_read_iff {feeds : List FeedSubscription} (read : ∀ feed ∈ feeds, FeedRead feed) :
    (feeds.map FeedSubscription.row).filterMap parseFeed = feeds ↔ ∀ feed ∈ feeds, FeedKept feed := by
  induction feeds with
  | nil => simp
  | cons feed feeds ih =>
    have later := ih fun other member => read other (mem_cons_of_mem _ member)
    have first := feed_read_iff (read feed mem_cons_self)
    have given := parseFeed_row (read feed mem_cons_self)
    rw [given, Option.some.injEq] at first
    rw [map_cons, filterMap_cons, given, List.cons.injEq, later, first, forall_mem_cons]

theorem feeds_kept_iff (read : ∀ feed ∈ c.feeds, FeedRead feed) :
    (∃ next, (feedsWriter c).effect given = some next ∧ parseFeeds next = c.feeds) ↔ ∀ feed ∈ c.feeds, FeedKept feed := by
  unfold feedsWriter
  by_cases none : c.feeds = []
  · rw [if_pos none]
    simp [Ordered.Writer.drop, parseFeeds, none]
  · rw [if_neg none, ← feeds_read_iff read]
    simp [Ordered.Writer.put, parseFeeds, Value.asArray]

structure RoutesRead (platform : Platform) (routes : List (String × String)) : Prop where
  sorted : Ordered.Sorted routes
  lowercase : ∀ route ∈ routes, platform.toLowercase route.1 = route.1

def libraryRoutesWriter (c : Config) : Ordered.Writer String Value :=
  if c.libraryRoutes = [] then .drop "library_routes"
  else .put "library_routes" (.table (Ordered.collect (textEntries c.libraryRoutes)))

theorem routes_read {routes : List (String × String)} (read : RoutesRead platform routes) :
    parseLibraryRoutesSection platform (some (.table (Ordered.collect (textEntries routes)))) = routes := by
  have entries : Ordered.collect (textEntries routes) = textEntries routes :=
    Ordered.collect_sorted (pairwise_map.mpr read.sorted)
  have texts : (textEntries routes).filterMap (fun entry =>
      entry.2.asStr.map (platform.toLowercase entry.1, ·)) = routes := by
    have lowercase := read.lowercase
    clear entries read
    unfold textEntries
    induction routes with
    | nil => rfl
    | cons route routes ih =>
      rw [map_cons, @filterMap_cons_some _ _ _ _ _ route, ih fun other member => lowercase other (mem_cons_of_mem _ member)]
      simp [Value.asStr, lowercase route mem_cons_self]
  rw [entries]
  simp only [parseLibraryRoutesSection, Option.bind_some, Value.asTable, Option.map_some, texts, Option.getD_some]
  exact Ordered.collect_sorted read.sorted

theorem routes_kept (read : RoutesRead platform c.libraryRoutes) : ∃ next, (libraryRoutesWriter c).effect given = some next ∧
      parseLibraryRoutesSection platform next = c.libraryRoutes := by
  unfold libraryRoutesWriter
  by_cases none : c.libraryRoutes = []
  · rw [if_pos none, none]
    exact ⟨_, rfl, rfl⟩
  · rw [if_neg none]
    exact ⟨_, rfl, routes_read read⟩

end Mbv.Settings
