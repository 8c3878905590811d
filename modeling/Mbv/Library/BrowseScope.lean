import Mbv.Library.Browse

/-! Which rows a level may show. A level is filled by whatever answer names its parent; the answers
    that are of its present scope are the ones that keep it right. -/

namespace Mbv.Library

open List

/-! ### What a level must show -/

inductive Scope where
  | listing (key : LevelFetchKey)
  | latest (parentId : String)
  | upcoming (parentId : String)

structure LibraryScene where
  isTv : Bool
  grouped : Bool
  libraryId : String
  tvContentMode : Option TvContentMode
  upcomingSnapshot : Option (List UpcomingPremiere)

def BrowseApp.scene (app : BrowseApp) : LibraryScene :=
  ⟨app.isTv, app.isGroupedMusicLibrary, app.libraryId, app.tvContentMode, app.upcomingSnapshot⟩

/-- Only the root of a TV library has a mode. -/
def LibraryScene.scope (scene : LibraryScene) (isRoot : Bool) (key : LevelFetchKey) : Scope :=
  if isRoot && scene.isTv then
    match scene.tvContentMode with
    | some .latest => .latest key.parentId
    | some .upcoming => .upcoming key.parentId
    | _ => .listing key
  else .listing key

def HoldsFirst (grouped : Bool) (list : List EmbyItem) (level : BrowseLevel) : Prop :=
  level.items.Perm (retainGroupedMusicItems grouped (list.take level.rows.nextPageStart)) ∧
  level.rows.nextPageStart ≤ list.length

/-- A level shows the rows its row count stands for. The Upcoming rows are premieres, which the level
    leaves in the snapshot of the session. -/
def Shows (server : EmbyServer) (scene : LibraryScene) (isRoot : Bool) (level : BrowseLevel) : Prop :=
  match scene.scope isRoot level.key with
  | .listing key => HoldsFirst scene.grouped (server.items key) level
  | .latest parentId => HoldsFirst scene.grouped (server.latestEpisodes parentId) level
  | .upcoming parentId =>
    level.items = [] ∧ scene.upcomingSnapshot = some (server.upcoming parentId) ∧
    level.rows.nextPageStart = (server.upcoming parentId).length

def EachLevel (P : Bool → BrowseLevel → Prop) : List BrowseLevel → Prop
  | [] => True
  | level :: below => P below.isEmpty level ∧ EachLevel P below

/-- Every level that is not loading shows the rows of its scope. -/
def BrowseApp.InScope (server : EmbyServer) (app : BrowseApp) : Prop :=
  EachLevel (fun isRoot level => level.loading = false → Shows server app.scene isRoot level)
    app.stack

/-! ### Which answers may be taken -/

def BrowseInput.Browses : BrowseInput → Prop
  | .fail _ | .rebuildLibraryTabs _ => False
  | _ => True

instance BrowseInput.Browses.decide : ∀ input : BrowseInput, Decidable input.Browses
  | .fail _ | .rebuildLibraryTabs _ => isFalse id
  | .activate | .selectItem _ | .goBack | .selectLetterPill _ | .cycleLetterPill _
  | .clearLetterFilter | .selectMusicGroup _ | .switchMusicGroup _ | .ensureMusicGroupAlbumLevel
  | .selectRow _ | .refreshLib | .refreshAfterStop | .complete _ _ | .setClient _ =>
    isTrue True.intro

namespace BrowseApp

variable (app : BrowseApp)

/-- The visible level takes an answer of its parent; a whole level only while it is loading. -/
def Takes (parentId : String) (requireLoading : Bool) : Prop :=
  ∃ top ∈ app.stack.head?,
    top.key.parentId = parentId ∧ (requireLoading = true → top.loading = true)

def topScope : Option Scope :=
  match app.stack with
  | top :: below => some (app.scene.scope below.isEmpty top.key)
  | [] => none

/-- The first answer of a TV library only tells the size of the library. -/
def tellsSize : Bool := app.isTv && app.libraryTotal.isNone && app.stack.length == 1

/-- An answer that the visible level takes may be taken: it was asked for under the scope the level
    has, or brings the scope along, and a page starts where the rows the level has received end. -/
def AnswerSound : Fetch → Prop
  | .browse key =>
    app.Takes key.parentId true → app.isStaleRoot key = false → app.tellsSize = false →
      ∀ scope ∈ app.topScope, ∃ own, scope = .listing own
  | .tvLatest parentId =>
    app.Takes parentId true → app.isStaleRoot (LevelFetchKey.align { parentId } .latest) = false →
      app.tellsSize = false → app.topScope = some (.latest parentId)
  | .tvUpcomingLevel parentId =>
    app.Takes parentId true → app.isStaleRoot (LevelFetchKey.align { parentId } .upcoming) = false →
      app.tellsSize = false → app.topScope = some (.upcoming parentId)
  | .tvUpcoming _ | .tvUpcomingSnapshot _ =>
    ∀ top ∈ app.stack.head?, top.tvContentMode = some .upcoming → app.stack.length = 1
  | .page startIndex _ key =>
    app.Takes key.parentId true →
      app.topScope = some (.listing key) ∧
      ∀ top ∈ app.stack.head?, top.received = true ∧ top.rows.nextPageStart = startIndex
  | .refresh _ key => app.Takes key.parentId false → app.topScope = some (.listing key)

def Sound : BrowseInput → Prop
  | .complete index _ => ∀ request ∈ app.outstanding[index]?, app.AnswerSound request.fetch
  | .selectItem _ => app.stack ≠ []
  | _ => True

end BrowseApp

/-! ### What keeps a level right -/

structure Kept (server : EmbyServer) (scene : LibraryScene) (isRoot : Bool) (level : BrowseLevel) :
    Prop where
  live : level.loading = true ∨ level.received = true
  shows : level.received = true → Shows server scene isRoot level
  mode : isRoot = true → scene.isTv = true →
    level.tvContentMode = none ∨ level.tvContentMode = scene.tvContentMode
  empty : isRoot = true → scene.isTv = true → scene.tvContentMode = some .upcoming →
    level.items = []
  parent : isRoot = true → level.key.parentId = scene.libraryId

variable {server : EmbyServer} {scene : LibraryScene} {isRoot : Bool} {level : BrowseLevel}

theorem Kept.congr {other : BrowseLevel} (kept : Kept server scene isRoot level)
    (key : other.key = level.key) (items : other.items = level.items)
    (rows : other.rows = level.rows) (received : other.received = level.received)
    (loading : level.loading = true → other.loading = true)
    (mode : other.tvContentMode = level.tvContentMode ∨
      other.tvContentMode = scene.tvContentMode) : Kept server scene isRoot other where
  live := by
    rcases kept.live with busy | has
    · exact .inl (loading busy)
    · exact .inr (received ▸ has)
  shows has := by
    have shows := kept.shows (received ▸ has)
    unfold Shows HoldsFirst at shows ⊢
    rw [key, items, rows]
    exact shows
  mode root tv := by
    rcases mode with same | own
    · rw [same]
      exact kept.mode root tv
    · exact .inr own
  empty root tv upcoming := items ▸ kept.empty root tv upcoming
  parent root := key ▸ kept.parent root

theorem Kept.fresh {other : BrowseLevel} (kept : Kept server scene isRoot level)
    (loading : other.loading = true) (received : other.received = false)
    (items : other.items = [] ∨ other.items = level.items)
    (parent : other.key.parentId = level.key.parentId)
    (mode : other.tvContentMode = level.tvContentMode ∨
      other.tvContentMode = scene.tvContentMode) : Kept server scene isRoot other where
  live := .inl loading
  shows has := by
    rw [received] at has
    cases has
  mode root tv := by
    rcases mode with same | own
    · rw [same]
      exact kept.mode root tv
    · exact .inr own
  empty root tv upcoming := by
    rcases items with none | same
    · exact none
    · rw [same]
      exact kept.empty root tv upcoming
  parent root := parent ▸ kept.parent root

theorem shows_upcoming (tv : scene.isTv = true) (mode : scene.tvContentMode = some .upcoming) :
    Shows server scene true level ↔ level.items = [] ∧ scene.upcomingSnapshot = some (server.upcoming level.key.parentId) ∧
      level.rows.nextPageStart = (server.upcoming level.key.parentId).length := by
  simp [Shows, LibraryScene.scope, tv, mode]

theorem shows_of_listing {key : LevelFetchKey} (own : scene.scope isRoot level.key = .listing key) :
    Shows server scene isRoot level ↔ HoldsFirst scene.grouped (server.items key) level := by
  unfold Shows
  rw [own]

theorem shows_of_latest {parentId : String} (own : scene.scope isRoot level.key = .latest parentId) :
    Shows server scene isRoot level ↔ HoldsFirst scene.grouped (server.latestEpisodes parentId) level := by
  unfold Shows
  rw [own]

theorem Shows.align (shows : Shows server scene true level) (tv : scene.isTv = true)
    (special : scene.tvContentMode = some .latest ∨ scene.tvContentMode = some .upcoming)
    (mode : TvContentMode) : Shows server scene true (level.alignToTvMode mode) := by
  unfold Shows LibraryScene.scope at shows ⊢
  rcases special with latest | upcoming
  · simp only [tv, latest] at shows ⊢
    cases mode <;> exact shows
  · simp only [tv, upcoming] at shows ⊢
    cases mode <;> exact shows

theorem Kept.align (kept : Kept server scene true level) (tv : scene.isTv = true)
    (special : scene.tvContentMode = some .latest ∨ scene.tvContentMode = some .upcoming)
    (mode : TvContentMode) : Kept server scene true (level.alignToTvMode mode) where
  live := kept.live
  shows has := (kept.shows has).align tv special mode
  mode := kept.mode
  empty := kept.empty
  parent root := by
    rw [← kept.parent root]
    cases mode <;> rfl

theorem perm_normalized (level : BrowseLevel) : level.normalized.items.Perm level.items := by
  unfold BrowseLevel.normalized
  split
  · exact mergeSort_perm _ _
  · exact List.Perm.refl _

theorem normalized_same (level : BrowseLevel) : level.normalized = { level with items := level.normalized.items } := by
  unfold BrowseLevel.normalized
  split <;> rfl

theorem Shows.perm {other : BrowseLevel} (shows : Shows server scene isRoot level)
    (key : other.key = level.key) (items : other.items.Perm level.items)
    (rows : other.rows = level.rows) : Shows server scene isRoot other := by
  unfold Shows HoldsFirst at shows ⊢
  rw [key, rows]
  split at shows
  · exact ⟨items.trans shows.1, shows.2⟩
  · exact ⟨items.trans shows.1, shows.2⟩
  · exact ⟨(shows.1 ▸ items).eq_nil, shows.2⟩

theorem Kept.normalized (kept : Kept server scene isRoot level) :
    Kept server scene isRoot level.normalized := by
  have perm := perm_normalized level
  rw [normalized_same]
  exact
    { live := kept.live
      shows := fun has => (kept.shows has).perm rfl perm rfl
      mode := kept.mode
      empty := fun root tv upcoming => (kept.empty root tv upcoming ▸ perm).eq_nil
      parent := kept.parent }

/-! ### A library that is right -/

/-- A first load has no letter range; the Upcoming requests are the library's own, and its level
    follows its premieres. -/
def Fetch.Proper (libraryId : String) (upcomingSnapshot : Option (List UpcomingPremiere)) :
    Fetch → Prop
  | .browse key => key.letterFilter = none
  | .tvUpcoming parentId | .tvUpcomingSnapshot parentId => parentId = libraryId
  | .tvUpcomingLevel parentId => parentId = libraryId ∧ upcomingSnapshot.isSome = true
  | _ => True

structure BrowseApp.Right (server : EmbyServer) (app : BrowseApp) : Prop where
  levels : EachLevel (Kept server app.scene) app.stack
  mode : app.isTv = true → app.tvContentMode.isSome = true
  snapshot : ∀ premieres ∈ app.upcomingSnapshot, premieres = server.upcoming app.libraryId
  requests : ∀ request ∈ app.outstanding,
    request.fetch.Proper app.libraryId app.upcomingSnapshot

namespace BrowseApp

variable {app : BrowseApp}

theorem Right.congr {other : BrowseApp} (right : app.Right server) (scene : other.scene = app.scene)
    (levels : EachLevel (Kept server app.scene) other.stack)
    (requests : other.outstanding ⊆ app.outstanding) : other.Right server := by
  obtain ⟨tv, -, library, mode, snapshot⟩ := LibraryScene.mk.inj scene
  refine ⟨scene ▸ levels, ?_, ?_, ?_⟩
  · rw [tv, mode]
    exact right.mode
  · rw [snapshot, library]
    exact right.snapshot
  · rw [snapshot, library]
    exact fun request member => right.requests request (requests member)

theorem Right.withFetch (right : app.Right server) (fetch : Option TvUpcomingFetchState) :
    ({ app with upcomingFetch := fetch } : BrowseApp).Right server :=
  right.congr rfl right.levels (List.Subset.refl _)

theorem Right.spawn (right : app.Right server) {fetch : Fetch}
    (proper : fetch.Proper app.libraryId app.upcomingSnapshot) : (app.spawn fetch).Right server := by
  unfold BrowseApp.spawn
  split
  · refine ⟨right.levels, right.mode, right.snapshot, fun request member => ?_⟩
    rcases mem_append.mp member with old | new
    · exact right.requests request old
    · rw [mem_singleton.mp new]
      exact proper
  · exact right

theorem Right.updateTop (right : app.Right server) {update : BrowseLevel → BrowseLevel}
    (kept : ∀ top below, app.stack = top :: below → Kept server app.scene below.isEmpty top →
      Kept server app.scene below.isEmpty (update top)) : (app.updateTop update).Right server := by
  unfold BrowseApp.updateTop
  split
  · rename_i top below visible
    have levels := right.levels
    rw [visible] at levels
    exact right.congr rfl ⟨kept top below visible levels.1, levels.2⟩ (List.Subset.refl _)
  · exact right

theorem Right.markLoading (right : app.Right server) : app.markLoading.Right server :=
  right.updateTop fun _ _ _ kept => kept.congr rfl rfl rfl rfl (fun _ => rfl) (.inl rfl)

theorem Right.await (right : app.Right server) : app.await.Right server := by
  have waiting : (app.updateTop fun level => { level with waits := app.ticket }).Right server :=
    right.updateTop fun _ _ _ kept => kept.congr rfl rfl rfl rfl id (.inl rfl)
  exact waiting.congr rfl waiting.levels (List.Subset.refl _)

theorem Right.spawnRefresh (right : app.Right server) (loadedCount : Nat) (key : LevelFetchKey) :
    (app.spawnRefresh loadedCount key).Right server :=
  right.spawn True.intro

theorem Right.pushAndBrowse (right : app.Right server) {key : LevelFetchKey}
    (root : app.stack = [] → key.parentId = app.libraryId) (whole : key.letterFilter = none) :
    (app.pushAndBrowse key).Right server := by
  have pushed : ({ app with stack := .placeholder key :: app.stack } : BrowseApp).Right server := by
    refine right.congr rfl ⟨?_, right.levels⟩ (List.Subset.refl _)
    exact
      { live := .inl rfl
        shows := fun has => by cases has
        mode := fun _ _ => .inl rfl
        empty := fun _ _ _ => rfl
        parent := fun isRoot => root (isEmpty_iff.mp isRoot) }
  exact pushed.await.spawn whole

theorem Right.maybeFetchNextPage (right : app.Right server) (cursor : Nat) : (app.maybeFetchNextPage cursor).Right server := by
  unfold BrowseApp.maybeFetchNextPage
  split
  · exact right
  · split
    · exact right
    · split
      · exact right
      · exact right.markLoading.await.spawn True.intro

theorem Right.fetchNextPageAtCursor (right : app.Right server) : app.fetchNextPageAtCursor.Right server :=
  right.maybeFetchNextPage _

theorem Right.normalize (right : app.Right server) : app.normalizeCurrentBrowseLevelItems.Right server :=
  right.updateTop fun _ _ _ kept => kept.normalized

theorem Right.snap (right : app.Right server) : app.snapGroupedAlbumCursorToDisplayOrder.Right server := by
  unfold BrowseApp.snapGroupedAlbumCursorToDisplayOrder
  split
  · refine right.updateTop fun top _ _ kept => ?_
    split
    · exact kept
    · exact kept.congr rfl rfl rfl rfl id (.inl rfl)
  · exact right

theorem Right.assignTvContentMode (right : app.Right server) : app.assignTvContentMode.Right server := by
  unfold BrowseApp.assignTvContentMode
  split
  · rename_i mode own
    exact right.updateTop fun _ _ _ kept => kept.congr rfl rfl rfl rfl id (.inr own.symm)
  · exact right

/-- In a TV library that shows the newest episodes or the premieres, the root's fetch fields do not
    matter. -/
theorem Right.alignTop (right : app.Right server) (tv : app.isTv = true) (root : app.stack.length = 1)
    (special : app.tvContentMode = some .latest ∨ app.tvContentMode = some .upcoming)
    (mode : TvContentMode) : (app.updateTop (·.alignToTvMode mode)).Right server := by
  refine right.updateTop fun top below visible kept => ?_
  have alone : below = [] := by
    rw [visible] at root
    simpa using root
  subst alone
  exact kept.align tv special mode

variable {parentId : String}

theorem spawnTvUpcoming_right (aligned : (app.updateTop (·.alignToTvMode .upcoming)).Right server)
    (library : parentId = app.libraryId) : (app.spawnTvUpcoming parentId).Right server := by
  have keeps : (app.updateTop (·.alignToTvMode .upcoming)).libraryId = app.libraryId := by
    unfold BrowseApp.updateTop
    split <;> rfl
  unfold BrowseApp.spawnTvUpcoming
  dsimp only
  split
  · refine Right.spawn (aligned.withFetch _) ?_
    exact library.trans keeps.symm
  · refine aligned.spawn ?_
    exact library.trans keeps.symm

/-! ### User actions -/

theorem Right.rootParent (right : app.Right server) {root : BrowseLevel}
    (alone : app.stack = [root]) : root.key.parentId = app.libraryId := by
  have levels := right.levels
  rw [alone] at levels
  exact levels.1.parent rfl

theorem Right.activate (right : app.Right server) : app.activate.Right server := by
  have loaded : app.ensureLibLoaded.Right server := by
    unfold BrowseApp.ensureLibLoaded
    split
    · refine right.pushAndBrowse (fun _ => ?_) ?_ <;> cases app.kind <;> rfl
    · exact right
  unfold BrowseApp.activate maybeSpawnTvUpcomingSnapshot
  dsimp only
  generalize app.ensureLibLoaded = app at loaded ⊢
  split <;> split
  · refine Right.spawn (loaded.withFetch _) ?_
    exact rfl
  · exact loaded
  · refine Right.spawn (loaded.withFetch _) ?_
    exact rfl
  · exact loaded

theorem Right.selectItem (right : app.Right server) (item : EmbyItem)
    (open_ : app.stack ≠ []) : (app.selectItem item).Right server := by
  unfold BrowseApp.selectItem
  split
  · exact right.pushAndBrowse (fun empty => absurd empty open_) rfl
  · exact right

theorem Right.popLevel (right : app.Right server) : app.popLevel.Right server := by
  unfold BrowseApp.popLevel
  split
  · rename_i child parent below visible
    have levels := right.levels
    rw [visible] at levels
    refine right.congr rfl ⟨?_, levels.2.2⟩ (List.Subset.refl _)
    exact levels.2.1.congr rfl rfl rfl rfl id (.inl rfl)
  · exact right

theorem Right.goBack (right : app.Right server) : app.goBack.Right server := by
  unfold BrowseApp.goBack
  dsimp only
  split
  · exact right
  · split
    · exact right
    · split
      · exact right.popLevel.popLevel
      · exact right.popLevel

theorem Right.setLetterFilter (right : app.Right server) (filter : Option LetterFilter) :
    (app.setLetterFilter filter).Right server := by
  unfold BrowseApp.setLetterFilter
  split
  · exact right
  · rename_i top below visible
    refine Right.spawnRefresh (Right.await (right.updateTop fun other rest same kept => ?_)) _ _
    rw [visible] at same
    cases same
    exact kept.fresh rfl rfl (.inl rfl) rfl (.inl rfl)

/-- The visible level is loading for a scope it has received nothing of. -/
def Fresh (app : BrowseApp) : Prop :=
  ∀ top ∈ app.stack.head?, top.loading = true ∧ top.received = false

theorem Fresh.updateTop (fresh : app.Fresh) {update : BrowseLevel → BrowseLevel}
    (keeps : ∀ level, (update level).loading = level.loading ∧
      (update level).received = level.received) : (app.updateTop update).Fresh := by
  unfold BrowseApp.updateTop
  split
  · rename_i top below visible
    rintro level (same : some _ = some level)
    cases same
    rw [(keeps top).1, (keeps top).2]
    exact fresh top (by rw [visible]; rfl)
  · exact fresh

theorem Fresh.await (fresh : app.Fresh) : app.await.Fresh := fresh.updateTop fun _ => ⟨rfl, rfl⟩

theorem Right.rekey (right : app.Right server) (fresh : app.Fresh) {update : BrowseLevel → BrowseLevel}
    (only : ∀ level, ∃ key : LevelFetchKey, key.parentId = level.key.parentId ∧
      update level = { level with key := key }) : (app.updateTop update).Right server := by
  refine right.updateTop fun top below visible kept => ?_
  obtain ⟨loading, received⟩ := fresh top (by rw [visible]; rfl)
  obtain ⟨key, parent, same⟩ := only top
  rw [same]
  exact kept.fresh loading received (.inr rfl) parent (.inl rfl)

theorem alignToTvMode_only (mode : TvContentMode) (level : BrowseLevel) :
    ∃ key : LevelFetchKey, key.parentId = level.key.parentId ∧ level.alignToTvMode mode = { level with key := key } :=
  ⟨level.key.align mode, by cases mode <;> rfl, rfl⟩

@[simp] theorem updateTop_libraryId (update : BrowseLevel → BrowseLevel) : (app.updateTop update).libraryId = app.libraryId := by
  unfold BrowseApp.updateTop
  split <;> rfl

@[simp] theorem updateTop_scene (update : BrowseLevel → BrowseLevel) : (app.updateTop update).scene = app.scene := by
  unfold BrowseApp.updateTop
  split <;> rfl

theorem Right.refreshTvUpcoming (right : app.Right server) (fresh : app.Fresh)
    (tv : app.isTv = true) (root : app.stack.length = 1) (own : app.tvContentMode = some .upcoming) :
    (app.refreshTvUpcoming app.libraryId).Right server := by
  unfold BrowseApp.refreshTvUpcoming
  split
  · rename_i premieres there
    refine right.updateTop fun top below visible kept => ?_
    have alone : below = [] := by
      rw [visible] at root
      simpa using root
    subst alone
    have snapshot : premieres = server.upcoming app.libraryId := right.snapshot premieres there
    exact
      { live := .inr rfl
        shows := fun _ => by
          have library : top.key.parentId = app.libraryId := kept.parent rfl
          refine (shows_upcoming tv own).mpr ⟨rfl, ?_, ?_⟩
          · exact there.trans (congrArg some (library.symm ▸ snapshot))
          · exact congrArg List.length (library.symm ▸ snapshot)
        mode := kept.mode
        empty := fun _ _ _ => rfl
        parent := kept.parent }
  · exact right.updateTop fun _ _ _ kept => kept.congr rfl rfl rfl rfl id (.inl rfl)
  · exact spawnTvUpcoming_right (right.await.rekey fresh.await (alignToTvMode_only .upcoming))
      (updateTop_libraryId _).symm

theorem updateTop_length (update : BrowseLevel → BrowseLevel) : (app.updateTop update).stack.length = app.stack.length := by
  unfold BrowseApp.updateTop
  split
  · rename_i visible
    rw [visible]
    rfl
  · rfl

theorem updateTop_isTv (update : BrowseLevel → BrowseLevel) : (app.updateTop update).isTv = app.isTv :=
  congrArg LibraryScene.isTv (updateTop_scene update)

theorem updateTop_tvContentMode (update : BrowseLevel → BrowseLevel) :
    (app.updateTop update).tvContentMode = app.tvContentMode :=
  congrArg LibraryScene.tvContentMode (updateTop_scene update)

theorem Right.spawnTopRefresh (right : app.Right server) : (match app.stack with
      | top :: _ => app.await.spawnRefresh 0 top.key
      | [] => app).Right server := by
  split
  · exact right.await.spawnRefresh _ _
  · exact right

theorem Right.refreshTvLetterMode (right : app.Right server) (fresh : app.Fresh)
    (tv : app.isTv = true) (root : app.stack.length = 1) (mode : TvContentMode)
    (own : app.tvContentMode = some mode) :
    (app.refreshTvLetterMode mode app.libraryId).Right server := by
  have aligned := right.rekey fresh (alignToTvMode_only mode)
  have stillFresh : (app.updateTop (·.alignToTvMode mode)).Fresh := fresh.updateTop fun _ => ⟨rfl, rfl⟩
  cases mode with
  | latest =>
    exact Right.spawn (aligned.await.rekey stillFresh.await (alignToTvMode_only .latest)) True.intro
  | upcoming =>
    have filled := aligned.refreshTvUpcoming stillFresh ((updateTop_isTv _).trans tv)
      ((updateTop_length _).trans root) ((updateTop_tvContentMode _).trans own)
    rw [updateTop_libraryId] at filled
    exact filled
  | all => exact aligned.spawnTopRefresh
  | range index =>
    unfold BrowseApp.refreshTvLetterMode
    dsimp only
    split
    · exact aligned
    · rename_i filter _
      refine Right.spawnTopRefresh (aligned.rekey stillFresh fun level => ?_)
      exact ⟨{ level.key with letterFilter := some filter }, rfl, rfl⟩

theorem Right.applyTvLetterMode (right : app.Right server) (tv : app.isTv = true)
    (root : app.stack.length = 1) (mode : TvContentMode) :
    (app.applyTvLetterMode mode).Right server := by
  unfold BrowseApp.applyTvLetterMode
  split
  · exact right
  · rename_i top below visible
    have alone : below = [] := by
      rw [visible] at root
      simpa using root
    subst alone
    split
    · exact right
    · have parent : top.key.parentId = app.libraryId := right.rootParent visible
      let cleared : BrowseLevel :=
        { top.cleared with
          tvContentMode := some mode, key := { top.key with letterFilter := none } }
      let emptied : BrowseApp := { app with tvContentMode := some mode, stack := [cleared] }
      have same : ({ app with tvContentMode := some mode } : BrowseApp).updateTop (fun level =>
          { level.cleared with
            tvContentMode := some mode, key := { level.key with letterFilter := none } }) =
          emptied := by
        unfold BrowseApp.updateTop
        rw [visible]
      have rightEmptied : emptied.Right server := by
        refine ⟨⟨?_, True.intro⟩, fun _ => rfl, right.snapshot, right.requests⟩
        exact
          { live := .inl rfl
            shows := fun has => by cases has
            mode := fun _ _ => .inr rfl
            empty := fun _ _ _ => rfl
            parent := fun _ => parent }
      have fresh : emptied.Fresh := by
        rintro level (visible : some cleared = some level)
        cases visible
        exact ⟨rfl, rfl⟩
      dsimp only
      rw [same, parent]
      exact rightEmptied.refreshTvLetterMode fresh tv rfl mode rfl

theorem root_of_pills (pills : app.shouldShowLetterPills = true) : app.stack.length = 1 := by
  simp only [shouldShowLetterPills, Bool.and_eq_true, beq_iff_eq] at pills
  exact pills.1.2

theorem Right.resolved (right : app.Right server) (tv : app.isTv = true) : app.resolveTvMode = app := by
  obtain ⟨mode, own⟩ := Option.isSome_iff_exists.mp (right.mode tv)
  have same : app.tvContentMode.or (app.stack.head?.bind (·.tvContentMode)) = app.tvContentMode := by
    rw [own]
    rfl
  unfold resolveTvMode
  rw [same]

theorem Right.selectTvLetterPill (right : app.Right server) (tv : app.isTv = true)
    (root : app.stack.length = 1) (pillIndex : Nat) :
    (app.selectTvLetterPill pillIndex).Right server := by
  unfold BrowseApp.selectTvLetterPill
  dsimp only
  rw [right.resolved tv]
  split
  · split
    · exact right.setLetterFilter _
    · exact right
  · split
    · exact right
    · split
      · exact right
      · exact right.applyTvLetterMode tv root _
    · exact right.applyTvLetterMode tv root _

theorem Right.selectLetterPill (right : app.Right server) (pillIndex : Nat) : (app.selectLetterPill pillIndex).Right server := by
  unfold BrowseApp.selectLetterPill
  split
  · exact right
  · rename_i pills
    have root := root_of_pills (by simpa using pills)
    split
    · rename_i tv
      exact right.selectTvLetterPill tv root pillIndex
    · unfold BrowseApp.selectLibraryLetterPill
      split
      · exact right
      · split
        · exact right
        · exact right.setLetterFilter _

theorem Right.cycleLetterPill (right : app.Right server) (delta : Int) : (app.cycleLetterPill delta).Right server := by
  unfold BrowseApp.cycleLetterPill
  split
  · exact right
  · split
    · rename_i tv
      dsimp only
      rw [right.resolved tv]
      split <;> exact right.selectLetterPill _
    · exact right.selectLetterPill _

theorem Right.clearLetterFilter (right : app.Right server) : app.clearLetterFilter.Right server := by
  unfold BrowseApp.clearLetterFilter
  split
  · exact right.setLetterFilter _
  · exact right

theorem Right.showMusicGroup (right : app.Right server) (groupCursor : Nat) : (app.showMusicGroup groupCursor).Right server := by
  unfold BrowseApp.showMusicGroup
  split
  · rename_i child groups below visible
    have levels := right.levels
    rw [visible] at levels
    have shown : ({ app with stack := { groups with cursor := groupCursor } :: below } : BrowseApp).Right server := by
      refine right.congr rfl ⟨?_, levels.2.2⟩ (List.Subset.refl _)
      exact levels.2.1.congr rfl rfl rfl rfl id (.inl rfl)
    dsimp only
    split
    · split
      · exact shown
      · exact shown.pushAndBrowse (fun empty => by cases empty) rfl
    · exact shown
  · exact right

theorem Right.selectMusicGroup (right : app.Right server) (groupCursor : Nat) :
    (app.selectMusicGroup groupCursor).Right server := by
  unfold BrowseApp.selectMusicGroup
  split
  · split
    · exact right
    · exact right.showMusicGroup _
  · exact right

theorem Right.switchMusicGroup (right : app.Right server) (delta : Int) : (app.switchMusicGroup delta).Right server := by
  unfold BrowseApp.switchMusicGroup
  split
  · split
    · exact right
    · exact right.showMusicGroup _
  · exact right

theorem Right.ensureMusicGroupAlbumLevel (right : app.Right server) : app.ensureMusicGroupAlbumLevel.Right server := by
  unfold BrowseApp.ensureMusicGroupAlbumLevel
  split
  · rename_i root alone
    split
    · split
      · exact right.pushAndBrowse (fun empty => by simp [alone] at empty) rfl
      · exact right
    · exact right
  · exact right

theorem Right.selectRow (right : app.Right server) (cursor : Nat) : (app.selectRow cursor).Right server := by
  refine Right.maybeFetchNextPage (right.updateTop fun top _ _ kept => ?_) cursor
  split
  · exact kept.congr rfl rfl rfl rfl id (.inl rfl)
  · exact kept

theorem Right.modeOfRoot (right : app.Right server) {mode : TvContentMode} (shown : app.isTvRootInMode mode = true) :
    app.isTv = true ∧ app.stack.length = 1 ∧ app.tvContentMode = some mode := by
  simp only [isTvRootInMode, Bool.and_eq_true] at shown
  obtain ⟨tv, shown⟩ := shown
  split at shown
  · rename_i root alone
    refine ⟨tv, by rw [alone]; rfl, ?_⟩
    simp only [Bool.or_eq_true, beq_iff_eq] at shown
    rcases shown with own | atRoot
    · exact own
    · have levels := right.levels
      rw [alone] at levels
      rcases levels.1.mode rfl tv with none | same
      · rw [none] at atRoot
        cases atRoot
      · exact same.symm.trans atRoot
  · cases shown

theorem Right.alignMarked (right : app.Right server) {mode : TvContentMode}
    (shown : app.isTvRootInMode mode = true) (special : mode = .latest ∨ mode = .upcoming) :
    (app.markLoading.await.updateTop (·.alignToTvMode mode)).Right server := by
  obtain ⟨tv, root, own⟩ := right.modeOfRoot shown
  refine right.markLoading.await.alignTop ?_ ?_ ?_ mode
  · exact (updateTop_isTv _).trans ((updateTop_isTv _).trans tv)
  · exact (updateTop_length _).trans ((updateTop_length _).trans root)
  · have kept : app.markLoading.await.tvContentMode = some mode :=
      (updateTop_tvContentMode _).trans ((updateTop_tvContentMode _).trans own)
    rcases special with rfl | rfl
    · exact .inl kept
    · exact .inr kept

theorem alone_of_length {top : BrowseLevel} {below : List BrowseLevel}
    (visible : app.stack = top :: below) (root : app.stack.length = 1) : app.stack = [top] := by
  rw [visible] at root ⊢
  rw [length_eq_zero_iff.mp (Nat.succ.inj root)]

theorem Right.refreshLib (right : app.Right server) : app.refreshLib.Right server := by
  unfold BrowseApp.refreshLib
  split
  · exact right
  · rename_i top below visible
    split
    · rename_i latest
      exact (right.alignMarked latest (.inl rfl)).spawn True.intro
    · split
      · rename_i upcoming
        have alone := alone_of_length visible (right.modeOfRoot upcoming).2.1
        refine spawnTvUpcoming_right (right.alignMarked upcoming (.inr rfl)) ?_
        exact (right.rootParent alone).trans ((updateTop_libraryId _).trans (updateTop_libraryId _)).symm
      · exact right.markLoading.await.spawnRefresh _ _

theorem Right.refreshAfterStop (right : app.Right server) : app.refreshAfterStop.Right server := by
  unfold BrowseApp.refreshAfterStop
  split
  · exact right
  · rename_i top below visible
    -- the mode looked at is the library's
    have ownMode : ∀ mode, (if app.isTv && below.isEmpty then top.tvContentMode.or app.tvContentMode
        else none) = some mode → app.isTv = true ∧ app.stack = [top] ∧ app.tvContentMode = some mode := by
      intro mode looked
      split at looked
      · rename_i root
        simp only [Bool.and_eq_true, List.isEmpty_iff] at root
        obtain ⟨tv, rfl⟩ := root
        have levels := right.levels
        rw [visible] at levels
        refine ⟨tv, visible, ?_⟩
        rcases levels.1.mode rfl tv with none | same
        · rw [none] at looked
          exact looked
        · rw [show top.tvContentMode = app.tvContentMode from same, Option.or_self] at looked
          exact looked
      · cases looked
    dsimp only
    split
    · rename_i latest
      obtain ⟨tv, alone, own⟩ := ownMode _ latest
      exact (right.alignTop tv (by rw [alone]; rfl) (.inl own) .latest).spawn True.intro
    · rename_i upcoming
      obtain ⟨tv, alone, own⟩ := ownMode _ upcoming
      exact spawnTvUpcoming_right (right.alignTop tv (by rw [alone]; rfl) (.inr own) .upcoming) (right.rootParent alone)
    · exact right.spawnRefresh _ _

/-! ### Answers -/

theorem Right.maybeAutoPushTvSeasonLevel (right : app.Right server) (selected : Bool) :
    (app.maybeAutoPushTvSeasonLevel selected).Right server := by
  unfold BrowseApp.maybeAutoPushTvSeasonLevel
  split
  · rename_i top below visible
    split
    · split
      · split
        · exact right
        · exact right.pushAndBrowse (fun empty => by simp [visible] at empty) rfl
      · exact right
    · exact right
  · exact right

theorem Right.maybeAutoPushMusicGroupLevel (right : app.Right server) (selected : Bool) :
    (app.maybeAutoPushMusicGroupLevel selected).Right server := by
  unfold BrowseApp.maybeAutoPushMusicGroupLevel
  split
  · rename_i root alone
    split
    · split
      · split
        · exact right
        · exact right.pushAndBrowse (fun empty => by simp [alone] at empty) rfl
      · exact right
    · exact right
  · exact right

/-- Whatever a TV library's first answer brings, the root goes on to the newest episodes. -/
theorem Right.captureTv (right : app.Right server) (tv : app.isTv = true)
    (unsized : app.libraryTotal = none) {root : BrowseLevel} (loading : root.loading = false)
    (whole : root.key.letterFilter = none) (parent : root.key.parentId = app.libraryId) :
    ({ app with stack := [root] } : BrowseApp).captureLibraryTotal.Right server := by
  have kind : app.kind = .tvShows := beq_iff_eq.mp tv
  let emptied : BrowseApp :=
    { app with
      libraryTotal := some root.rows.total
      tvContentMode := some .latest
      stack := [{ root with
        tvContentMode := some .latest, items := [], loading := true, received := false }] }
  have same : ({ app with stack := [root] } : BrowseApp).captureLibraryTotal =
      emptied.await.spawnTvLatest root.key.parentId := by
    simp [BrowseApp.captureLibraryTotal, unsized, loading, whole, isTv, kind,
      resolveTvContentMode, emptied]
    rfl
  have rightEmptied : emptied.Right server := by
    refine ⟨⟨?_, True.intro⟩, fun _ => rfl, right.snapshot, right.requests⟩
    exact
      { live := .inl rfl
        shows := fun has => by cases has
        mode := fun _ _ => .inr rfl
        empty := fun _ _ _ => rfl
        parent := fun _ => parent }
  have fresh : emptied.Fresh := by
    rintro level visible
    cases visible
    exact ⟨rfl, rfl⟩
  rw [same]
  exact (rightEmptied.await.rekey fresh.await (alignToTvMode_only .latest)).spawn True.intro

theorem Right.captureOther (right : app.Right server) (other : app.isTv = false)
    (unsized : app.libraryTotal = none) (notMusic : app.kind ≠ .music) {root : BrowseLevel}
    (alone : app.stack = [root]) (loading : root.loading = false)
    (whole : root.key.letterFilter = none) : app.captureLibraryTotal.Right server := by
  have sized : ({ app with libraryTotal := some root.rows.total } : BrowseApp).Right server :=
    right.congr rfl right.levels (List.Subset.refl _)
  have otherSized : ({ app with libraryTotal := some root.rows.total } : BrowseApp).isTv = false := other
  unfold BrowseApp.captureLibraryTotal
  simp only [alone, unsized, beq_false_of_ne notMusic, loading, whole, Option.isSome_none,
    Bool.or_self, Bool.false_eq_true, if_false]
  rw [← alone, otherSized]
  simp only [Bool.false_eq_true, if_false]
  split
  · exact sized
  · refine Right.spawnRefresh (Right.await (sized.updateTop fun top below visible kept => ?_)) _ _
    cases alone.symm.trans visible
    exact kept.fresh rfl rfl (.inr rfl) rfl (.inl rfl)

theorem captureLibraryTotal_skips (skips : ∀ root, app.stack = [root] → app.libraryTotal = none → app.kind ≠ .music →
      root.loading = false → root.key.letterFilter ≠ none) : app.captureLibraryTotal = app := by
  unfold BrowseApp.captureLibraryTotal
  split
  · rename_i root alone
    split
    · rfl
    · rename_i captures
      simp only [Bool.or_eq_true, not_or, Bool.not_eq_true, Option.isSome_eq_false_iff,
        Option.isNone_iff_eq_none, beq_eq_false_iff_ne] at captures
      exact absurd captures.2 (skips root alone captures.1.1.1 captures.1.1.2 captures.1.2)
  · rfl

theorem Right.captureLibraryTotal (right : app.Right server) : app.captureLibraryTotal.Right server := by
  by_cases captures : ∃ root, app.stack = [root] ∧ app.libraryTotal = none ∧ app.kind ≠ .music ∧
      root.loading = false ∧ root.key.letterFilter = none
  · obtain ⟨root, alone, unsized, notMusic, loading, whole⟩ := captures
    by_cases tv : app.isTv
    · have captured := right.captureTv tv unsized loading whole (right.rootParent alone)
      rw [← alone] at captured
      exact captured
    · exact right.captureOther (by simpa using tv) unsized notMusic alone loading whole
  · rw [captureLibraryTotal_skips]
    · exact right
    · intro root alone unsized notMusic loading whole
      exact captures ⟨root, alone, unsized, notMusic, loading, whole⟩

theorem Right.reissueRoot (right : app.Right server) : app.reissueRoot.Right server := by
  unfold BrowseApp.reissueRoot
  split
  · split
    · rename_i reissues
      simp only [Bool.and_eq_true, Option.isNone_iff_eq_none] at reissues
      exact right.spawn reissues.2
    · exact right
  · exact right

theorem Right.afterLoaded (right : app.Right server) (selected : Bool) :
    ((app.assignTvContentMode.captureLibraryTotal.maybeAutoPushTvSeasonLevel
      selected).maybeAutoPushMusicGroupLevel selected).fetchNextPageAtCursor.Right server :=
  ((right.assignTvContentMode.captureLibraryTotal.maybeAutoPushTvSeasonLevel
    selected).maybeAutoPushMusicGroupLevel selected).fetchNextPageAtCursor

theorem Takes.visible {requireLoading : Bool} (takes : app.Takes parentId requireLoading) :
    ∃ top below, app.stack = top :: below ∧ top.key.parentId = parentId ∧ (requireLoading = true → top.loading = true) := by
  obtain ⟨top, there, parent, loading⟩ := takes
  cases stack : app.stack with
  | nil => simp [stack] at there
  | cons first below =>
    rw [stack] at there
    cases there
    exact ⟨top, below, rfl, parent, loading⟩

theorem updateCurrentBrowseLevel_taken {top : BrowseLevel} {below : List BrowseLevel}
    (visible : app.stack = top :: below) {requireLoading : Bool}
    (takes : app.Takes parentId requireLoading) (update : BrowseLevel → BrowseLevel) :
    app.updateCurrentBrowseLevel parentId requireLoading update = { app with stack := update top :: below } := by
  obtain ⟨same, there, parent, loading⟩ := takes
  rw [visible] at there
  cases there
  unfold updateCurrentBrowseLevel
  rw [visible]
  dsimp only
  rw [if_neg]
  simp only [Bool.or_eq_true, decide_eq_true_eq, Bool.and_eq_true, Bool.not_eq_true', not_or, not_and, Bool.not_eq_false]
  exact ⟨not_not.mpr parent, loading⟩

theorem updateCurrentBrowseLevel_dropped {requireLoading : Bool}
    (dropped : ¬ app.Takes parentId requireLoading) (update : BrowseLevel → BrowseLevel) :
    app.updateCurrentBrowseLevel parentId requireLoading update = app := by
  unfold updateCurrentBrowseLevel
  split
  · rename_i top below visible
    split
    · rfl
    · rename_i taken
      simp only [Bool.or_eq_true, decide_eq_true_eq, Bool.and_eq_true, Bool.not_eq_true', not_or,
        not_and, Bool.not_eq_false, not_not] at taken
      exact absurd ⟨top, by rw [visible]; rfl, taken⟩ dropped
  · rfl

theorem handleLoadedLevel_taken {top : BrowseLevel} {below : List BrowseLevel}
    (visible : app.stack = top :: below) (loaded : BrowseLevel)
    (takes : app.Takes loaded.key.parentId true) :
    ∃ cursor, app.handleLoadedLevel loaded = { app with stack := { loaded.normalized with cursor := cursor } :: below } := by
  unfold handleLoadedLevel
  rw [updateCurrentBrowseLevel_taken visible takes]
  unfold snapGroupedAlbumCursorToDisplayOrder
  split
  · by_cases none : loaded.normalized.items.isEmpty
    · exact ⟨loaded.normalized.cursor, by
        simp [normalizeCurrentBrowseLevelItems, updateTop, none]⟩
    · exact ⟨firstAlbum loaded.normalized.items, by
        simp [normalizeCurrentBrowseLevelItems, updateTop, none]⟩
  · exact ⟨loaded.normalized.cursor, rfl⟩

theorem handleLoadedLevel_dropped (loaded : BrowseLevel) (dropped : ¬ app.Takes loaded.key.parentId true) :
    app.handleLoadedLevel loaded =
      app.normalizeCurrentBrowseLevelItems.snapGroupedAlbumCursorToDisplayOrder := by
  unfold handleLoadedLevel
  rw [updateCurrentBrowseLevel_dropped dropped]

end BrowseApp

/-! ### Slices -/

theorem take_append_page {α : Type*} (list : List α) (start limit : Nat) :
    list.take start ++ (list.drop start).take limit = list.take (start + ((list.drop start).take limit).length) := by
  rw [take_add, append_cancel_left_eq, take_eq_take_iff, length_take]
  omega

theorem retain_append (grouped : Bool) (front back : List EmbyItem) : retainGroupedMusicItems grouped (front ++ back) =
      retainGroupedMusicItems grouped front ++ retainGroupedMusicItems grouped back := by
  unfold retainGroupedMusicItems
  split
  · exact filter_append ..
  · rfl

theorem holdsFirst_slice (grouped : Bool) (list : List EmbyItem) (limit : Nat)
    (items : level.items = retainGroupedMusicItems grouped (list.take limit))
    (rows : level.rows.nextPageStart = (list.take limit).length) :
    HoldsFirst grouped list level := by
  have whole := take_append_page list 0 limit
  simp only [take_zero, nil_append, drop_zero, Nat.zero_add] at whole
  constructor
  · rw [items, rows, ← whole]
  · rw [rows, length_take]
    exact Nat.min_le_right _ _

theorem holdsFirst_whole (grouped : Bool) (list : List EmbyItem) (items : level.items = retainGroupedMusicItems grouped list)
    (rows : level.rows.nextPageStart = list.length) : HoldsFirst grouped list level := by
  refine holdsFirst_slice grouped list list.length ?_ ?_
  · rw [take_length]
    exact items
  · rw [take_length]
    exact rows

theorem HoldsFirst.page {grouped : Bool} {list : List EmbyItem} (holds : HoldsFirst grouped list level) {start limit total : Nat}
    (starts : level.rows.nextPageStart = start) :
    HoldsFirst grouped list { level with
      items := level.items ++ retainGroupedMusicItems grouped ((list.drop start).take limit)
      rows := level.rows.page ((list.drop start).take limit).length total
      loading := false } := by
  have next : (level.rows.page ((list.drop start).take limit).length total).nextPageStart =
      start + ((list.drop start).take limit).length := by
    rw [← starts]
    rfl
  constructor
  · dsimp only
    rw [next, ← take_append_page, retain_append]
    exact (starts ▸ holds.1).append_right _
  · dsimp only
    rw [next, length_take, length_drop]
    have bound := holds.2
    rw [starts] at bound
    omega

namespace BrowseApp

variable {app : BrowseApp}

theorem Right.handleLibLoaded (right : app.Right server) {loaded : BrowseLevel} (selected : Bool)
    (brought : loaded.loading = false ∧ loaded.received = true ∧ loaded.tvContentMode = none ∧ loaded.key.letterFilter = none)
    (sound : app.Takes loaded.key.parentId true → app.isStaleRoot loaded.key = false →
      app.tellsSize = false → ∀ top below, app.stack = top :: below → Shows server app.scene below.isEmpty
          (loaded.retainGroupedMusic app.isGroupedMusicLibrary) ∧
        (below.isEmpty = true → app.isTv = true → app.tvContentMode = some .upcoming →
          loaded.items = [])) : (app.handleLibLoaded loaded selected).Right server := by
  obtain ⟨idle, received, noMode, whole⟩ := brought
  unfold BrowseApp.handleLibLoaded
  cases stale : app.isStaleRoot loaded.key with
  | true => exact right.reissueRoot
  | false =>
    simp only [Bool.false_eq_true, if_false]
    by_cases takes : app.Takes loaded.key.parentId true
    · obtain ⟨top, below, visible, parent, -⟩ := takes.visible
      obtain ⟨cursor, same⟩ := handleLoadedLevel_taken visible (loaded.retainGroupedMusic app.isGroupedMusicLibrary) takes
      rw [same]
      have rootParent : below.isEmpty = true → loaded.key.parentId = app.libraryId := by
        intro root
        rw [← parent]
        exact right.rootParent (isEmpty_iff.mp root ▸ visible)
      have keys : (loaded.retainGroupedMusic app.isGroupedMusicLibrary).normalized.key =
          loaded.key := by
        rw [normalized_same]
        rfl
      cases tells : app.tellsSize with
      | false =>
        obtain ⟨shows, empty⟩ := sound takes stale tells top below visible
        have kept : Kept server app.scene below.isEmpty (loaded.retainGroupedMusic app.isGroupedMusicLibrary) :=
          { live := .inr received
            shows := fun _ => shows
            mode := fun _ _ => .inl noMode
            empty := fun root tv upcoming => by
              unfold BrowseLevel.retainGroupedMusic retainGroupedMusicItems
              simp [empty root tv upcoming]
            parent := rootParent }
        have levels := right.levels
        rw [visible] at levels
        have taken : ({ app with stack := { (loaded.retainGroupedMusic
            app.isGroupedMusicLibrary).normalized with cursor := cursor } :: below } : BrowseApp).Right server := by
          refine right.congr rfl ⟨?_, levels.2⟩ (List.Subset.refl _)
          exact kept.normalized.congr rfl rfl rfl rfl id (.inl rfl)
        exact taken.afterLoaded selected
      | true =>
        simp only [tellsSize, Bool.and_eq_true, Option.isNone_iff_eq_none, beq_iff_eq] at tells
        obtain ⟨⟨tv, unsized⟩, root⟩ := tells
        cases visible.symm.trans (alone_of_length visible root)
        obtain ⟨mode, own⟩ := Option.isSome_iff_exists.mp (right.mode tv)
        have captured := right.captureTv tv unsized (show BrowseLevel.loading { (loaded.retainGroupedMusic
            app.isGroupedMusicLibrary).normalized with
              cursor := cursor, tvContentMode := some mode } = false by
            rw [normalized_same]
            exact idle)
          (by rw [← whole, ← keys]) (keys ▸ rootParent rfl)
        have assigned : ∀ level : BrowseLevel, ({ app with stack := [level] } : BrowseApp).assignTvContentMode =
              { app with stack := [{ level with tvContentMode := some mode }] } := by
          intro level
          unfold BrowseApp.assignTvContentMode
          simp only [own]
          rfl
        rw [assigned]
        exact ((captured.maybeAutoPushTvSeasonLevel selected).maybeAutoPushMusicGroupLevel selected).fetchNextPageAtCursor
    · rw [handleLoadedLevel_dropped (loaded.retainGroupedMusic app.isGroupedMusicLibrary) takes]
      exact right.normalize.snap.afterLoaded selected

theorem shows_listing {top : BrowseLevel} {below : List BrowseLevel} {key : LevelFetchKey}
    (visible : app.stack = top :: below) (scope : app.topScope = some (.listing key))
    (level : BrowseLevel) (same : level.key = top.key) :
    Shows server app.scene below.isEmpty level ↔ HoldsFirst app.scene.grouped (server.items key) level := by
  unfold topScope at scope
  rw [visible] at scope
  exact shows_of_listing (same ▸ Option.some.inj scope)

theorem not_upcoming_of_listing {top : BrowseLevel} {below : List BrowseLevel} {key : LevelFetchKey}
    (visible : app.stack = top :: below) (scope : app.topScope = some (.listing key))
    (root : below.isEmpty = true) (tv : app.isTv = true) :
    app.tvContentMode ≠ some .upcoming := by
  intro upcoming
  have shown : app.topScope = some (.upcoming top.key.parentId) := by
    unfold topScope LibraryScene.scope
    simp [visible, root, scene, tv, upcoming]
  rw [scope] at shown
  cases shown

theorem Right.handleLibPageAppended (right : app.Right server) (start limit : Nat)
    (key : LevelFetchKey) (sound : app.AnswerSound (.page start limit key)) :
    (app.handleLibPageAppended key.parentId (server.slice key start limit)
      (server.items key).length).Right server := by
  unfold BrowseApp.handleLibPageAppended
  refine Right.fetchNextPageAtCursor (Right.normalize ?_)
  by_cases takes : app.Takes key.parentId true
  · obtain ⟨top, below, visible, -, -⟩ := takes.visible
    obtain ⟨scope, continues⟩ := sound takes
    obtain ⟨received, starts⟩ := continues top (by rw [visible]; rfl)
    have levels := right.levels
    rw [visible] at levels
    have kept := levels.1
    have holds := (shows_listing visible scope top rfl).mp (kept.shows received)
    rw [updateCurrentBrowseLevel_taken visible takes]
    refine right.congr rfl ⟨?_, levels.2⟩ (List.Subset.refl _)
    exact
      { live := .inr received
        shows := fun _ => (shows_listing visible scope _ (by rfl)).mpr (holds.page starts)
        mode := kept.mode
        empty := fun root tv upcoming =>
          absurd upcoming (not_upcoming_of_listing visible scope root tv)
        parent := kept.parent }
  · rw [updateCurrentBrowseLevel_dropped takes]
    exact right

theorem Right.handleLibRefreshed (right : app.Right server) (limit : Nat)
    (key : LevelFetchKey) (sound : app.AnswerSound (.refresh limit key)) :
    (app.handleLibRefreshed key.parentId (server.slice key 0 limit)
      (server.items key).length).Right server := by
  have refreshed : (app.updateCurrentBrowseLevel key.parentId false fun last =>
      { last with
        items := server.slice key 0 limit
        rows := ⟨(server.slice key 0 limit).length, (server.items key).length⟩, loading := false
        received := true }.retainGroupedMusic app.isGroupedMusicLibrary).Right server := by
    by_cases takes : app.Takes key.parentId false
    · obtain ⟨top, below, visible, -, -⟩ := takes.visible
      have scope := sound takes
      have levels := right.levels
      rw [visible] at levels
      have kept := levels.1
      rw [updateCurrentBrowseLevel_taken visible takes]
      refine right.congr rfl ⟨?_, levels.2⟩ (List.Subset.refl _)
      exact
        { live := .inr rfl
          shows := fun _ => (shows_listing visible scope _ (by rfl)).mpr
            (holdsFirst_slice _ _ limit rfl rfl)
          mode := kept.mode
          empty := fun root tv upcoming =>
            absurd upcoming (not_upcoming_of_listing visible scope root tv)
          parent := kept.parent }
    · rw [updateCurrentBrowseLevel_dropped takes]
      exact right
  unfold BrowseApp.handleLibRefreshed
  dsimp only
  split
  · exact refreshed.normalize.maybeFetchNextPage 0
  · exact refreshed.normalize

end BrowseApp

theorem Kept.premieres (kept : Kept server scene isRoot level) :
    Kept server { scene with upcomingSnapshot := some (server.upcoming scene.libraryId) } isRoot level where
  live := kept.live
  shows has := by
    have shows := kept.shows has
    unfold Shows at shows ⊢
    change match scene.scope isRoot level.key with
      | .listing key => HoldsFirst scene.grouped (server.items key) level
      | .latest parentId => HoldsFirst scene.grouped (server.latestEpisodes parentId) level
      | .upcoming parentId => level.items = [] ∧ some (server.upcoming scene.libraryId) = some (server.upcoming parentId) ∧
        level.rows.nextPageStart = (server.upcoming parentId).length
    split
    · rename_i own
      rw [own] at shows
      exact shows
    · rename_i own
      rw [own] at shows
      exact shows
    · rename_i parentId own
      rw [own] at shows
      have library : parentId = scene.libraryId := by
        unfold LibraryScene.scope at own
        split at own
        · rename_i root
          simp only [Bool.and_eq_true] at root
          split at own <;> cases own
          exact kept.parent root.1
        · cases own
      exact ⟨shows.1, by rw [library], shows.2.2⟩
  mode := kept.mode
  empty := kept.empty
  parent := kept.parent

theorem EachLevel.mono {P Q : Bool → BrowseLevel → Prop} (each : ∀ isRoot level, P isRoot level → Q isRoot level) :
    ∀ {stack : List BrowseLevel}, EachLevel P stack → EachLevel Q stack
  | [], _ => True.intro
  | _ :: _, levels => ⟨each _ _ levels.1, EachLevel.mono each levels.2⟩

theorem Kept.filled (kept : Kept server scene true level) (tv : scene.isTv = true)
    (mode : level.tvContentMode = some .upcoming) :
    Kept server { scene with upcomingSnapshot := some (server.upcoming scene.libraryId) } true
      { level.alignToTvMode .upcoming with
        rows := .complete (server.upcoming scene.libraryId).length
        loading := false
        received := true } := by
  have own : scene.tvContentMode = some .upcoming := by
    rcases kept.mode rfl tv with none | same
    · rw [none] at mode
      cases mode
    · exact same.symm.trans mode
  have library : level.key.parentId = scene.libraryId := kept.parent rfl
  exact
    { live := .inr rfl
      shows := fun _ => by
        refine (shows_upcoming ?_ ?_).mpr ⟨kept.empty rfl tv own, ?_, ?_⟩
        · exact tv
        · exact own
        · exact congrArg (fun parentId => some (server.upcoming parentId)) library.symm
        · exact congrArg (fun parentId => (server.upcoming parentId).length) library.symm
      mode := kept.mode
      empty := kept.empty
      parent := kept.parent }

namespace BrowseApp

variable {app : BrowseApp}

theorem Right.acceptTvUpcomingSnapshot (right : app.Right server)
    (root : ∀ top ∈ app.stack.head?, top.tvContentMode = some .upcoming → app.stack.length = 1) :
    (app.acceptTvUpcomingSnapshot (server.upcoming app.libraryId)).Right server := by
  let scene : LibraryScene := { app.scene with upcomingSnapshot := some (server.upcoming app.libraryId) }
  let there : BrowseApp := { app with upcomingSnapshot := some (server.upcoming app.libraryId), upcomingFetch := none }
  have kept : there.Right server := by
    refine ⟨right.levels.mono fun _ _ kept => kept.premieres, right.mode, ?_, fun request member => ?_⟩
    · rintro premieres (same : some _ = some premieres)
      cases same
      rfl
    · have proper := right.requests request member
      cases fetch : request.fetch <;> rw [fetch] at proper
      case tvUpcomingLevel => exact ⟨proper.1, rfl⟩
      all_goals exact proper
  unfold BrowseApp.acceptTvUpcomingSnapshot
  dsimp only
  split
  · exact kept
  · rename_i other
    have tv : app.isTv = true := by
      simp only [Bool.not_eq_true', Bool.not_eq_false] at other
      exact other
    unfold BrowseApp.updateTop
    dsimp only
    split
    · rename_i top below visible
      have levels := right.levels
      rw [visible] at levels
      have others := kept.levels
      change EachLevel (Kept server there.scene) app.stack at others
      rw [visible] at others
      refine kept.congr rfl ⟨?_, others.2⟩ (List.Subset.refl _)
      split
      · rename_i mode
        have alone := alone_of_length visible (root top (by rw [visible]; rfl) mode)
        cases visible.symm.trans alone
        exact levels.1.filled tv mode
      · exact others.1
    · exact kept

theorem scope_of_listing {key own : LevelFetchKey} (listing : scene.scope isRoot key = .listing own)
    (other : LevelFetchKey) : scene.scope isRoot other = .listing other := by
  unfold LibraryScene.scope at listing ⊢
  split at listing
  · rename_i root
    rw [if_pos root]
    split at listing <;> cases listing
    rfl
  · rename_i inner
    rw [if_neg inner]

variable {key : LevelFetchKey} {parentId : String}

theorem scope_of_latest (latest : scene.scope isRoot key = .latest parentId) (other : LevelFetchKey) :
    scene.scope isRoot other = .latest other.parentId := by
  unfold LibraryScene.scope at latest ⊢
  split at latest
  · rename_i root
    rw [if_pos root]
    split at latest <;> cases latest
    rfl
  · cases latest

theorem scope_of_upcoming (upcoming : scene.scope isRoot key = .upcoming parentId) :
    isRoot = true ∧ scene.isTv = true ∧ scene.tvContentMode = some .upcoming := by
  unfold LibraryScene.scope at upcoming
  split at upcoming
  · rename_i root
    simp only [Bool.and_eq_true] at root
    split at upcoming <;> cases upcoming
    exact ⟨root.1, root.2, ‹_›⟩
  · cases upcoming

theorem scope_upcoming (root : isRoot = true) (tv : scene.isTv = true) (own : scene.tvContentMode = some .upcoming) :
    scene.scope isRoot key = .upcoming key.parentId := by
  unfold LibraryScene.scope
  simp [root, tv, own]

theorem Right.answerBrowse (right : app.Right server) (whole : key.letterFilter = none)
    (sound : app.AnswerSound (.browse key)) (selected : Bool) :
    (app.handleLibLoaded (.loaded key (server.slice key 0 pageSize)
      ⟨(server.slice key 0 pageSize).length, (server.items key).length⟩) selected).Right server := by
  refine right.handleLibLoaded selected ⟨rfl, rfl, rfl, whole⟩ ?_
  intro takes fits sized top below visible
  have there : app.topScope = some (app.scene.scope below.isEmpty top.key) := by
    unfold topScope
    rw [visible]
  obtain ⟨own, listing⟩ := sound takes fits sized _ there
  constructor
  · refine (shows_of_listing (scope_of_listing listing _)).mpr ?_
    exact holdsFirst_slice _ _ pageSize rfl rfl
  · intro root tv upcoming
    rw [scope_upcoming root tv upcoming] at listing
    cases listing

theorem Right.answerLatest (right : app.Right server) (sound : app.AnswerSound (.tvLatest parentId)) (selected : Bool) :
    (app.handleLibLoaded (.loaded (LevelFetchKey.align { parentId } .latest)
      (server.latestEpisodes parentId) (.complete (server.latestEpisodes parentId).length))
      selected).Right server := by
  refine right.handleLibLoaded selected ⟨rfl, rfl, rfl, rfl⟩ ?_
  intro takes fits sized top below visible
  have latest : app.scene.scope below.isEmpty top.key = .latest parentId := by
    have own := sound takes fits sized
    unfold topScope at own
    rw [visible] at own
    exact Option.some.inj own
  constructor
  · refine (shows_of_latest (scope_of_latest latest _)).mpr ?_
    exact holdsFirst_whole _ _ rfl rfl
  · intro root tv upcoming
    rw [scope_upcoming root tv upcoming] at latest
    cases latest

theorem Right.answerUpcoming (right : app.Right server) (own : parentId = app.libraryId)
    (there : app.upcomingSnapshot.isSome = true)
    (sound : app.AnswerSound (.tvUpcomingLevel parentId)) (selected : Bool) :
    (app.handleLibLoaded (.loaded (LevelFetchKey.align { parentId } .upcoming) []
      (.complete (server.upcoming parentId).length)) selected).Right server := by
  refine right.handleLibLoaded selected ⟨rfl, rfl, rfl, rfl⟩ ?_
  intro takes fits sized top below visible
  have upcoming : app.scene.scope below.isEmpty top.key = .upcoming parentId := by
    have own := sound takes fits sized
    unfold topScope at own
    rw [visible] at own
    exact Option.some.inj own
  obtain ⟨premieres, known⟩ := Option.isSome_iff_exists.mp there
  have snapshot := right.snapshot premieres known
  obtain ⟨root, tv, mode⟩ := scope_of_upcoming upcoming
  have empty : retainGroupedMusicItems app.isGroupedMusicLibrary [] = [] := by
    unfold retainGroupedMusicItems
    split <;> rfl
  refine ⟨?_, fun _ _ _ => rfl⟩
  rw [root]
  refine (shows_upcoming tv mode).mpr ⟨empty, ?_, rfl⟩
  exact known.trans (congrArg some (snapshot.trans (congrArg server.upcoming own.symm)))

theorem acceptTvUpcomingSnapshot_keeps (app : BrowseApp) (premieres : List UpcomingPremiere) :
    (app.acceptTvUpcomingSnapshot premieres).libraryId = app.libraryId ∧
      (app.acceptTvUpcomingSnapshot premieres).upcomingSnapshot = some premieres := by
  unfold BrowseApp.acceptTvUpcomingSnapshot
  dsimp only
  split
  · exact ⟨rfl, rfl⟩
  · exact ⟨updateTop_libraryId _, congrArg LibraryScene.upcomingSnapshot (updateTop_scene _)⟩

theorem Right.answer (right : app.Right server) {request : Request}
    (proper : request.fetch.Proper app.libraryId app.upcomingSnapshot)
    (sound : app.AnswerSound request.fetch) (selected : Bool) :
    (app.answer server request selected).Right server := by
  unfold BrowseApp.answer
  dsimp only
  split
  case h_1 key asked =>
    rw [asked] at proper sound
    exact right.answerBrowse proper sound selected
  case h_2 parentId asked =>
    rw [asked] at sound
    exact right.answerLatest sound selected
  case h_3 parentId asked =>
    rw [asked] at proper sound
    cases (proper : parentId = app.libraryId)
    have taken := right.acceptTvUpcomingSnapshot sound
    refine ⟨taken.levels, taken.mode, taken.snapshot, fun asked member => ?_⟩
    rcases mem_append.mp member with old | new
    · exact taken.requests asked old
    · rw [mem_singleton.mp new]
      obtain ⟨library, snapshot⟩ := acceptTvUpcomingSnapshot_keeps app (server.upcoming app.libraryId)
      exact ⟨library.symm, by rw [snapshot]; rfl⟩
  case h_4 parentId asked =>
    rw [asked] at proper sound
    exact right.answerUpcoming proper.1 proper.2 sound selected
  case h_5 libraryId asked =>
    rw [asked] at proper sound
    cases (proper : libraryId = app.libraryId)
    exact right.acceptTvUpcomingSnapshot sound
  case h_6 startIndex limit key asked =>
    rw [asked] at sound
    exact right.handleLibPageAppended startIndex limit key sound
  case h_7 limit key asked =>
    rw [asked] at sound
    exact right.handleLibRefreshed limit key sound

theorem Right.step (right : app.Right server) {input : BrowseInput} (browses : input.Browses)
    (sound : app.Sound input) : (app.step server input).Right server := by
  cases input with
  | activate => exact right.activate
  | selectItem item => exact right.selectItem item sound
  | goBack => exact right.goBack
  | selectLetterPill pillIndex => exact right.selectLetterPill pillIndex
  | cycleLetterPill delta => exact right.cycleLetterPill delta
  | clearLetterFilter => exact right.clearLetterFilter
  | selectMusicGroup groupCursor => exact right.selectMusicGroup groupCursor
  | switchMusicGroup delta => exact right.switchMusicGroup delta
  | ensureMusicGroupAlbumLevel => exact right.ensureMusicGroupAlbumLevel
  | selectRow cursor => exact right.selectRow cursor
  | refreshLib => exact right.refreshLib
  | refreshAfterStop => exact right.refreshAfterStop
  | complete index selected =>
    unfold BrowseApp.step
    dsimp only
    split
    · rename_i request there
      have kept : ({ app with outstanding := app.outstanding.eraseIdx index } : BrowseApp).Right
          server := right.congr rfl right.levels (eraseIdx_subset ..)
      exact kept.answer (right.requests request (mem_of_getElem? there)) (sound request there) selected
    · exact right
  | setClient available => exact right.congr rfl right.levels (List.Subset.refl _)
  | fail _ => exact browses.elim
  | rebuildLibraryTabs _ => exact browses.elim

theorem initial_right (kind : LibraryKind) (libraryId : String) (musicLevels : List String) :
    (initial kind libraryId musicLevels).Right server where
  levels := True.intro
  mode tv := by
    have shows : kind = .tvShows := beq_iff_eq.mp tv
    unfold initial
    rw [if_pos shows]
    rfl
  snapshot premieres none := by cases none
  requests request member := by cases member

theorem Right.inScope (right : app.Right server) : app.InScope server := by
  refine right.levels.mono fun isRoot level kept idle => ?_
  rcases kept.live with loading | received
  · rw [loading] at idle
    cases idle
  · exact kept.shows received

/-- A level that is not loading shows the first rows of its own list, in every state that answers of
    its scope lead to. -/
theorem levels_in_scope (server : EmbyServer) (kind : LibraryKind) (libraryId : String)
    (musicLevels : List String) (inputs : List BrowseInput)
    (browses : ∀ input ∈ inputs, input.Browses)
    (sound : (machine server).Along Sound (initial kind libraryId musicLevels) inputs) :
    ((machine server).run (initial kind libraryId musicLevels) inputs).InScope server := by
  have offered : (machine server).Along (fun _ input => input.Browses)
      (initial kind libraryId musicLevels) inputs :=
    Machine.along_of_forall fun input member _ => browses input member
  have keeps : ∀ (app : BrowseApp) (input : BrowseInput), app.Right server →
      input.Browses ∧ app.Sound input → ((machine server).step app input).Right server :=
    fun _ _ right taken => right.step taken.1 taken.2
  exact (Machine.run_invariant keeps (initial_right kind libraryId musicLevels)
    (offered.and sound)).inScope

def twoFilms : EmbyServer where
  items key :=
    match key.letterFilter.map (·.index) with
    | none => [{ id := "alien", itemType := "Movie" }, { id := "metropolis", itemType := "Movie" }]
    | some 0 => [{ id := "alien", itemType := "Movie" }]
    | some 4 => [{ id := "metropolis", itemType := "Movie" }]
    | some _ => []
  latestEpisodes _ := []
  upcoming _ := []

/-- The letter range is changed twice and the answers come in order. -/
theorem letter_range_in_scope :
    ((machine twoFilms).run (initial .movies "films" [])
      [.activate, .complete 0 true, .selectLetterPill 0, .complete 0 true, .selectLetterPill 4,
        .complete 0 true]).InScope twoFilms :=
  levels_in_scope twoFilms .movies "films" [] _ (by decide) (by
    refine ⟨True.intro, ?_, True.intro, ?_, True.intro, ?_, True.intro⟩
    · rintro _ (asked : some _ = some _)
      cases asked
      intro _ _ _ scope own
      exact ⟨_, (Option.some.inj own).symm⟩
    · rintro _ (asked : some _ = some _)
      cases asked
      exact fun _ => rfl
    · rintro _ (asked : some _ = some _)
      cases asked
      exact fun _ => rfl)

/-- The first range's answer comes last, and fills the level of the second. -/
theorem overtaken_range_shows_other_rows :
    (∀ input ∈ ([.activate, .complete 0 true, .selectLetterPill 0, .selectLetterPill 4,
      .complete 1 true, .complete 0 true] : List BrowseInput), input.Browses) ∧
    ¬ ((machine twoFilms).run (initial .movies "films" [])
      [.activate, .complete 0 true, .selectLetterPill 0, .selectLetterPill 4, .complete 1 true,
        .complete 0 true]).InScope twoFilms := by
  refine ⟨by decide, fun inScope => ?_⟩
  have holds := (shows_of_listing (by rfl)).mp (inScope.1 (by decide))
  exact absurd holds.1 (by decide)

end BrowseApp

end Mbv.Library
