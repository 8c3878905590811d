import Mbv.Library.BrowseLevel

/-! The browser of one Emby library: its stack of levels, and the requests it has started. An answer
    comes back as an event that names the library and the parent it was asked for, not the level. -/

namespace Mbv.Library

/-- What a worker thread fetches. `tvUpcomingLevel` is the second event of an Upcoming fetch: the
    level, after the premieres. -/
inductive Fetch where
  | browse (key : LevelFetchKey)
  | tvLatest (parentId : String)
  | tvUpcoming (parentId : String)
  | tvUpcomingLevel (parentId : String)
  | tvUpcomingSnapshot (libraryId : String)
  | page (startIndex limit : Nat) (key : LevelFetchKey)
  | refresh (limit : Nat) (key : LevelFetchKey)

structure Request where
  id : Nat
  fetch : Fetch

/-- `request` is a ghost: the fetch that is under way. -/
inductive TvUpcomingFetchState where
  | inFlight (request : Nat)
  | failed

/-- `stack` has the visible level first and the root last. `client` is whether the Emby client is
    available. `outstanding` holds the requests not answered yet; `awaited` is a ghost that counts the
    requests that levels were made to wait for, those that could not be started included. -/
structure BrowseApp where
  kind : LibraryKind
  libraryId : String
  musicLevels : List String := []
  client : Bool := true
  stack : List BrowseLevel := []
  libraryTotal : Option Nat := none
  tvContentMode : Option TvContentMode := none
  upcomingSnapshot : Option (List UpcomingPremiere) := none
  upcomingFetch : Option TvUpcomingFetchState := none
  outstanding : List Request := []
  nextRequest : Nat := 0
  awaited : Nat := 0

inductive BrowseInput where
  /-- The library's tab is selected. -/
  | activate
  | selectItem (item : EmbyItem)
  | goBack
  | selectLetterPill (pillIndex : Nat)
  | cycleLetterPill (delta : Int)
  | clearLetterFilter
  | selectMusicGroup (groupCursor : Nat)
  | switchMusicGroup (delta : Int)
  | ensureMusicGroupAlbumLevel
  /-- The selection of the visible level moves. -/
  | selectRow (cursor : Nat)
  | refreshLib
  | refreshAfterStop
  /-- An outstanding request succeeds; `selected` is whether the tab is the selected one. -/
  | complete (index : Nat) (selected : Bool)
  /-- An outstanding request fails. -/
  | fail (index : Nat)
  | setClient (available : Bool)
  /-- A Home refresh rebuilds the tabs. Where that moves this one, the answers still to come go to
      another tab. -/
  | rebuildLibraryTabs (moved : Bool)

def wrappedIndex (current : Nat) (delta : Int) (count : Nat) : Nat :=
  ((current + delta) % count).toNat

namespace BrowseApp

variable (server : EmbyServer) (app : BrowseApp)

/-! ### The library -/

def isTv : Bool := app.kind == .tvShows

def isGroupedMusicLibrary : Bool := app.kind == .music && app.musicLevels.head? == some "group"

def isMusicGroupView : Bool :=
  app.isGroupedMusicLibrary && decide (2 ≤ app.stack.length) &&
    app.musicLevels[app.stack.length - 1]? == some "album"

def isViewingAlbumFolders : Bool :=
  app.kind == .music && decide (1 ≤ app.stack.length) &&
    app.musicLevels[app.stack.length - 1]? == some "album"

def isTvSeriesRootView : Bool :=
  app.isTv &&
    match app.stack with
    | [root] =>
      match root.tvContentMode with
      | some .all | some (.range _) => true
      | _ => false
    | _ => false

def isTvRootInMode (mode : TvContentMode) : Bool :=
  app.isTv &&
    match app.stack with
    | [root] => app.tvContentMode == some mode || root.tvContentMode == some mode
    | _ => false

def shouldShowLetterPills : Bool :=
  app.kind != .music && app.kind != .homeVideos && app.stack.length == 1 && app.libraryTotal.isSome

/-! ### Levels and requests -/

def updateTop (update : BrowseLevel → BrowseLevel) : BrowseApp :=
  match app.stack with
  | top :: below => { app with stack := update top :: below }
  | [] => app

def ticket : Option Nat := if app.client then some app.nextRequest else none

def spawn (fetch : Fetch) : BrowseApp :=
  if app.client then
    { app with
      outstanding := app.outstanding ++ [⟨app.nextRequest, fetch⟩]
      nextRequest := app.nextRequest + 1 }
  else app

def markLoading : BrowseApp := app.updateTop fun level => { level with loading := true }

def await : BrowseApp :=
  { app.updateTop fun level => { level with waits := app.ticket } with awaited := app.awaited + 1 }

def pushAndBrowse (key : LevelFetchKey) : BrowseApp :=
  { app with stack := .placeholder key :: app.stack }.await.spawn (.browse key)

def spawnRefresh (loadedCount : Nat) (key : LevelFetchKey) : BrowseApp :=
  app.spawn (.refresh (max loadedCount pageSize) key)

def spawnTvLatest (parentId : String) : BrowseApp :=
  (app.updateTop (·.alignToTvMode .latest)).spawn (.tvLatest parentId)

def spawnTvUpcoming (parentId : String) : BrowseApp :=
  let app := app.updateTop (·.alignToTvMode .upcoming)
  let app :=
    if app.client then { app with upcomingFetch := some (.inFlight app.nextRequest) } else app
  app.spawn (.tvUpcoming parentId)

/-- A level that is neither loading nor whole asks for its next page: at the edge, or at once where
    the client sorts and groups the rows itself. -/
def maybeFetchNextPage (cursor : Nat) : BrowseApp :=
  match app.stack with
  | [] => app
  | top :: _ =>
    if top.loading || top.rows.isFullyLoaded then app
    else if !(app.isMusicGroupView || app.isTvSeriesRootView) &&
        decide (cursor + prefetchAhead < top.items.length) then app
    else app.markLoading.await.spawn (.page top.rows.nextPageStart pageSize top.key)

def fetchNextPageAtCursor : BrowseApp :=
  app.maybeFetchNextPage ((app.stack.head?.map (·.cursor)).getD 0)

/-! ### User actions -/

def ensureLibLoaded : BrowseApp :=
  if app.stack.isEmpty then app.pushAndBrowse (defaultLibraryLevelKey app.kind app.libraryId) else app

def topAwaitsUpcoming : Bool :=
  app.stack.head?.any fun top => top.loading && top.tvContentMode == some .upcoming

def maybeSpawnTvUpcomingSnapshot : BrowseApp :=
  let inFlight :=
    match app.upcomingFetch with
    | some (.inFlight _) => true
    | _ => false
  if app.isTv && app.upcomingSnapshot.isNone && !inFlight && !app.topAwaitsUpcoming && app.client then
    { app with upcomingFetch := some (.inFlight app.nextRequest) }.spawn
      (.tvUpcomingSnapshot app.libraryId)
  else app

def activate : BrowseApp := app.ensureLibLoaded.maybeSpawnTvUpcomingSnapshot

def selectItem (item : EmbyItem) : BrowseApp :=
  if item.isFolder then app.pushAndBrowse { parentId := item.id } else app

def popLevel : BrowseApp :=
  match app.stack with
  | child :: parent :: below =>
    let cursor := parent.items.findIdx? fun item => item.id == child.key.parentId
    { app with stack := { parent with cursor := cursor.getD parent.cursor } :: below }
  | _ => app

def goBack : BrowseApp :=
  if app.stack.length == 2 && app.isMusicGroupView then app
  else if app.stack.length ≤ 1 then app
  else
    let app := app.popLevel
    let exposedSeasons :=
      app.stack.head?.any fun top => top.items.head?.any fun item => item.itemType == "Season"
    if exposedSeasons then app.popLevel else app

/-- The Upcoming rows of this session are shown at once, where they are there or on their way. -/
def refreshTvUpcoming (parentId : String) : BrowseApp :=
  match app.upcomingSnapshot, app.upcomingFetch with
  | some premieres, _ =>
    app.updateTop fun level =>
      { level.alignToTvMode .upcoming with
        items := [], rows := .complete premieres.length, loading := false, received := true }
  | none, some (.inFlight request) => app.updateTop fun level => { level with waits := some request }
  | none, _ => app.await.spawnTvUpcoming parentId

def refreshTvLetterMode (mode : TvContentMode) (parentId : String) : BrowseApp :=
  let app := app.updateTop (·.alignToTvMode mode)
  match mode with
  | .latest => app.await.spawnTvLatest parentId
  | .upcoming => app.refreshTvUpcoming parentId
  | .all =>
    match app.stack with
    | top :: _ => app.await.spawnRefresh 0 top.key
    | [] => app
  | .range index =>
    match LetterFilter.forIndexForKind index .tv with
    | none => app
    | some filter =>
      let app := app.updateTop fun level =>
        { level with key := { level.key with letterFilter := some filter } }
      match app.stack with
      | top :: _ => app.await.spawnRefresh 0 top.key
      | [] => app

def applyTvLetterMode (mode : TvContentMode) : BrowseApp :=
  match app.stack with
  | [] => app
  | top :: _ =>
    if app.tvContentMode == some mode && mode != .upcoming then app
    else
      let app := { app with tvContentMode := some mode }.updateTop fun level =>
        { level.cleared with
          tvContentMode := some mode, key := { level.key with letterFilter := none } }
      app.refreshTvLetterMode mode top.key.parentId

def tvModeForPill (pillIndex : Nat) (large : Bool) : Option TvContentMode :=
  match pillIndex with
  | 0 => some .latest
  | 1 => some .upcoming
  | index + 2 => if large then some (.range index) else if index = 0 then some .all else none

def setLetterFilter (filter : Option LetterFilter) : BrowseApp :=
  match app.stack with
  | [] => app
  | top :: _ =>
    let key := { top.key with letterFilter := filter }
    (app.updateTop fun level => { level.cleared with key }).await.spawnRefresh 0 key

def isLarge : Bool := app.libraryTotal.any (libraryPillThreshold < ·)

/-- A library without a mode takes its level's. -/
def resolveTvMode : BrowseApp :=
  { app with tvContentMode := app.tvContentMode.or (app.stack.head?.bind (·.tvContentMode)) }

def selectTvLetterPill (pillIndex : Nat) : BrowseApp :=
  let app := app.resolveTvMode
  if app.tvContentMode.isNone then
    match LetterFilter.forIndexForKind pillIndex .tv with
    | some filter => app.setLetterFilter (some filter)
    | none => app
  else
    match tvModeForPill pillIndex app.isLarge with
    | none => app
    | some (.range index) =>
      if LetterFilter.countForKind .tv ≤ index then app else app.applyTvLetterMode (.range index)
    | some mode => app.applyTvLetterMode mode

def selectLibraryLetterPill (pillIndex : Nat) : BrowseApp :=
  match LetterFilter.forIndexForKind pillIndex (.ofLibrary app.kind) with
  | none => app
  | some filter =>
    if app.stack.head?.any fun top => top.key.letterFilter == some filter then app
    else app.setLetterFilter (some filter)

def selectLetterPill (pillIndex : Nat) : BrowseApp :=
  if !app.shouldShowLetterPills then app
  else if app.isTv then app.selectTvLetterPill pillIndex
  else app.selectLibraryLetterPill pillIndex

def tvPillOfMode : TvContentMode → Nat
  | .latest => 0
  | .upcoming => 1
  | .all => 2
  | .range index => index + 2

def currentFilterIndex : Nat :=
  ((app.stack.head?.bind (·.key.letterFilter)).map (·.index)).getD 0

def cycleLetterPill (delta : Int) : BrowseApp :=
  if !app.shouldShowLetterPills then app
  else if app.isTv then
    let app := app.resolveTvMode
    match app.tvContentMode with
    | none =>
      app.selectLetterPill (wrappedIndex app.currentFilterIndex delta (LetterFilter.countForKind .tv))
    | some mode =>
      app.selectLetterPill (wrappedIndex (tvPillOfMode mode) delta (if app.isLarge then 5 else 3))
  else
    app.selectLetterPill (wrappedIndex app.currentFilterIndex delta
      (LetterFilter.countForKind (.ofLibrary app.kind)))

def clearLetterFilter : BrowseApp :=
  if app.shouldShowLetterPills && app.stack.head?.any (·.key.letterFilter.isSome) then
    app.setLetterFilter none
  else app

def showMusicGroup (groupCursor : Nat) : BrowseApp :=
  match app.stack with
  | _ :: groups :: below =>
    let app := { app with stack := { groups with cursor := groupCursor } :: below }
    match groups.items[groupCursor]? with
    | some group => if group.id = "" then app else app.pushAndBrowse { parentId := group.id }
    | none => app
  | _ => app

def selectMusicGroup (groupCursor : Nat) : BrowseApp :=
  match app.stack with
  | _ :: groups :: _ =>
    if groups.items.length ≤ groupCursor then app else app.showMusicGroup groupCursor
  | _ => app

def switchMusicGroup (delta : Int) : BrowseApp :=
  match app.stack with
  | _ :: groups :: _ =>
    if groups.items.length < 2 then app
    else app.showMusicGroup (wrappedIndex groups.cursor delta groups.items.length)
  | _ => app

def ensureMusicGroupAlbumLevel : BrowseApp :=
  match app.stack with
  | [root] =>
    if app.isGroupedMusicLibrary then
      match root.items[root.cursor]? with
      | some group => app.pushAndBrowse { parentId := group.id }
      | none => app
    else app
  | _ => app

def selectRow (cursor : Nat) : BrowseApp :=
  (app.updateTop fun level =>
    if cursor < level.items.length then { level with cursor := cursor } else level).maybeFetchNextPage
      cursor

def refreshLib : BrowseApp :=
  match app.stack with
  | [] => app
  | top :: _ =>
    if app.isTvRootInMode .latest then app.markLoading.await.spawnTvLatest top.key.parentId
    else if app.isTvRootInMode .upcoming then
      app.markLoading.await.spawnTvUpcoming top.key.parentId
    else app.markLoading.await.spawnRefresh top.items.length top.key

/-- A refresh that does not mark the level. -/
def refreshAfterStop : BrowseApp :=
  match app.stack with
  | [] => app
  | top :: below =>
    let mode := if app.isTv && below.isEmpty then top.tvContentMode.or app.tvContentMode else none
    match mode with
    | some .latest => app.spawnTvLatest top.key.parentId
    | some .upcoming => app.spawnTvUpcoming top.key.parentId
    | _ => app.spawnRefresh top.items.length top.key

/-! ### Answers -/

def updateCurrentBrowseLevel (parentId : String) (requireLoading : Bool)
    (update : BrowseLevel → BrowseLevel) : BrowseApp :=
  match app.stack with
  | top :: below =>
    if top.key.parentId ≠ parentId || requireLoading && !top.loading then app
    else { app with stack := update top :: below }
  | [] => app

def normalizeCurrentBrowseLevelItems : BrowseApp := app.updateTop (·.normalized)

def snapGroupedAlbumCursorToDisplayOrder : BrowseApp :=
  if app.isViewingAlbumFolders then
    app.updateTop fun level =>
      if level.items.isEmpty then level else { level with cursor := firstAlbum level.items }
  else app

/-- The only level is the parent's, and has another fetch key than an answer. -/
def isStaleRoot (key : LevelFetchKey) : Bool :=
  match app.stack with
  | [root] => root.key.parentId == key.parentId && root.key != key
  | _ => false

def reissueRoot : BrowseApp :=
  match app.stack with
  | [root] =>
    if root.loading && root.key.letterFilter.isNone then app.spawn (.browse root.key) else app
  | _ => app

def handleLoadedLevel (level : BrowseLevel) : BrowseApp :=
  (app.updateCurrentBrowseLevel level.key.parentId true fun _ =>
    level).normalizeCurrentBrowseLevelItems.snapGroupedAlbumCursorToDisplayOrder

def assignTvContentMode : BrowseApp :=
  match app.tvContentMode with
  | some mode => app.updateTop fun level => { level with tvContentMode := some mode }
  | none => app

def captureLibraryTotal : BrowseApp :=
  match app.stack with
  | [root] =>
    if app.libraryTotal.isSome || app.kind == .music || root.loading ||
        root.key.letterFilter.isSome then app
    else
      let total := root.rows.total
      let app := { app with libraryTotal := some total }
      if app.isTv then
        let mode := resolveTvContentMode total none
        let app := { app with tvContentMode := some mode }
        if mode = .latest then
          (app.updateTop fun level =>
            { level with
              tvContentMode := some mode, items := [], loading := true
              received := false }).await.spawnTvLatest root.key.parentId
        else app.updateTop fun level => { level with tvContentMode := some mode }
      else if total ≤ libraryPillThreshold then app
      else
        let key := { root.key with
          letterFilter := some (LetterFilter.defaultFilterForKind (.ofLibrary app.kind)) }
        (app.updateTop fun level =>
          { level with key, loading := true, received := false }).await.spawnRefresh 0 key
  | _ => app

def maybeAutoPushTvSeasonLevel (selected : Bool) : BrowseApp :=
  match app.stack with
  | top :: _ =>
    if selected && app.isTv && top.items.head?.any fun item => item.itemType == "Season" then
      match top.items[top.cursor]? with
      | some season =>
        if season.id = "" then app
        else app.pushAndBrowse { parentId := season.id, itemTypes := some "Episode" }
      | none => app
    else app
  | [] => app

def maybeAutoPushMusicGroupLevel (selected : Bool) : BrowseApp :=
  match app.stack with
  | [root] =>
    if selected && app.isGroupedMusicLibrary then
      match root.items[root.cursor]? with
      | some group => if group.id = "" then app else app.pushAndBrowse { parentId := group.id }
      | none => app
    else app
  | _ => app

def handleLibLoaded (level : BrowseLevel) (selected : Bool) : BrowseApp :=
  if app.isStaleRoot level.key then app.reissueRoot
  else
    let app := app.handleLoadedLevel (level.retainGroupedMusic app.isGroupedMusicLibrary)
    let app := app.assignTvContentMode.captureLibraryTotal
    ((app.maybeAutoPushTvSeasonLevel selected).maybeAutoPushMusicGroupLevel
      selected).fetchNextPageAtCursor

def handleLibPageAppended (parentId : String) (items : List EmbyItem) (totalCount : Nat) :
    BrowseApp :=
  let retained := retainGroupedMusicItems app.isGroupedMusicLibrary items
  (app.updateCurrentBrowseLevel parentId true fun last =>
    { last with
      items := last.items ++ retained
      rows := last.rows.page items.length totalCount
      loading := false }).normalizeCurrentBrowseLevelItems.fetchNextPageAtCursor

def handleLibRefreshed (parentId : String) (items : List EmbyItem) (totalCount : Nat) : BrowseApp :=
  let app := app.updateCurrentBrowseLevel parentId false fun last =>
    { last with
      items := items, rows := ⟨items.length, totalCount⟩, loading := false
      received := true }.retainGroupedMusic app.isGroupedMusicLibrary
  let app := app.normalizeCurrentBrowseLevelItems
  if app.isMusicGroupView || app.isTvSeriesRootView then app.maybeFetchNextPage 0 else app

def acceptTvUpcomingSnapshot (premieres : List UpcomingPremiere) : BrowseApp :=
  let app := { app with upcomingSnapshot := some premieres, upcomingFetch := none }
  if !app.isTv then app
  else
    app.updateTop fun level =>
      if level.tvContentMode = some .upcoming then
        { level.alignToTvMode .upcoming with
          rows := .complete premieres.length, loading := false, received := true }
      else level

def tvUpcomingSnapshotFailed : BrowseApp :=
  let app := { app with upcomingFetch := some .failed }
  if !app.isTv then app
  else
    app.updateTop fun level =>
      if level.tvContentMode = some .upcoming then { level with loading := false } else level

/-- The event of a request that succeeded. -/
def answer (request : Request) (selected : Bool) : BrowseApp :=
  match request.fetch with
  | .browse key =>
    let items := server.slice key 0 pageSize
    app.handleLibLoaded (.loaded key items ⟨items.length, (server.items key).length⟩) selected
  | .tvLatest parentId =>
    let items := server.latestEpisodes parentId
    app.handleLibLoaded (.loaded (LevelFetchKey.align { parentId } .latest) items
      (.complete items.length)) selected
  | .tvUpcoming parentId =>
    let app := app.acceptTvUpcomingSnapshot (server.upcoming parentId)
    { app with outstanding := app.outstanding ++ [⟨request.id, .tvUpcomingLevel parentId⟩] }
  | .tvUpcomingLevel parentId =>
    app.handleLibLoaded (.loaded (LevelFetchKey.align { parentId } .upcoming) []
      (.complete (server.upcoming parentId).length)) selected
  | .tvUpcomingSnapshot libraryId => app.acceptTvUpcomingSnapshot (server.upcoming libraryId)
  | .page startIndex limit key =>
    app.handleLibPageAppended key.parentId (server.slice key startIndex limit)
      (server.items key).length
  | .refresh limit key =>
    app.handleLibRefreshed key.parentId (server.slice key 0 limit) (server.items key).length

/-- The event of a request that failed: only the Upcoming ones look at a level. -/
def failure (request : Request) : BrowseApp :=
  match request.fetch with
  | .tvUpcoming _ | .tvUpcomingSnapshot _ => app.tvUpcomingSnapshotFailed
  | _ => app

/-! ### The tabs -/

def rebuildLibraryTabs (moved : Bool) : BrowseApp :=
  { app with
    stack := app.stack.map fun level => { level with loading := false }
    tvContentMode :=
      if app.isTv then some (resolveTvContentMode (app.libraryTotal.getD 0) app.tvContentMode)
      else none
    outstanding := if moved then [] else app.outstanding }

def step : BrowseInput → BrowseApp
  | .activate => app.activate
  | .selectItem item => app.selectItem item
  | .goBack => app.goBack
  | .selectLetterPill pillIndex => app.selectLetterPill pillIndex
  | .cycleLetterPill delta => app.cycleLetterPill delta
  | .clearLetterFilter => app.clearLetterFilter
  | .selectMusicGroup groupCursor => app.selectMusicGroup groupCursor
  | .switchMusicGroup delta => app.switchMusicGroup delta
  | .ensureMusicGroupAlbumLevel => app.ensureMusicGroupAlbumLevel
  | .selectRow cursor => app.selectRow cursor
  | .refreshLib => app.refreshLib
  | .refreshAfterStop => app.refreshAfterStop
  | .complete index selected =>
    match app.outstanding[index]? with
    | some request =>
      { app with outstanding := app.outstanding.eraseIdx index }.answer server request selected
    | none => app
  | .fail index =>
    match app.outstanding[index]? with
    | some request =>
      { app with outstanding := app.outstanding.eraseIdx index }.failure request
    | none => app
  | .setClient available => { app with client := available }
  | .rebuildLibraryTabs moved => app.rebuildLibraryTabs moved

def machine : Machine BrowseApp BrowseInput := ⟨BrowseApp.step server⟩

def initial (kind : LibraryKind) (libraryId : String) (musicLevels : List String) : BrowseApp where
  kind := kind
  libraryId := libraryId
  musicLevels := musicLevels
  tvContentMode := if kind = .tvShows then some (resolveTvContentMode 0 none) else none

end BrowseApp

end Mbv.Library
