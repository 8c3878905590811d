import Mbv.Audiobookshelf.Browse

/-! The podcast and the book browse state refine one catalog: what each makes of a page, a failure
    and a refresh is the catalog's own step, whatever it keeps beside it. -/

namespace Mbv.Audiobookshelf

variable {Row : Type}

namespace Listing

variable {kind : RowKind Row} {listing : Listing Row} {page : Page Row}

@[simp] theorem sortRows_total : (listing.sortRows kind).total = listing.total := rfl
@[simp] theorem sortRows_nextPage : (listing.sortRows kind).nextPage = listing.nextPage := rfl
@[simp] theorem sortRows_loadingPages : (listing.sortRows kind).loadingPages = listing.loadingPages := rfl
@[simp] theorem land_total : (listing.land kind page).total = page.total := rfl
@[simp] theorem land_nextPage : (listing.land kind page).nextPage = max listing.nextPage (page.page + 1) := rfl
@[simp] theorem land_loadingPages : (listing.land kind page).loadingPages = listing.loadingPages.erase page.page := rfl

@[simp] theorem length_sortRows : (listing.sortRows kind).rows.length = listing.rows.length := by
  simp [sortRows]

theorem lists_iff {id : String} : listing.lists kind id = true ↔ ∃ row ∈ listing.rows, kind.id row = id := by
  simp [lists]

end Listing

namespace Catalog

variable (kind : RowKind Row)

def keepSelection (catalog : Catalog Row) : Catalog Row :=
  match catalog.selectedId with
  | none => catalog.select kind 0
  | some selected =>
    if catalog.total ≤ catalog.rows.length ∧ ¬ catalog.toListing.lists kind selected then
      catalog.select kind 0
    else catalog

def appendPage (catalog : Catalog Row) (page : Page Row) : Catalog Row :=
  keepSelection kind { catalog with toListing := catalog.toListing.land kind page }

def applyPage (catalog : Catalog Row) (page : Page Row) : Catalog Row × Option Nat :=
  match catalog.replacement with
  | none =>
    let appended := catalog.appendPage kind page
    (appended, appended.needsPage)
  | some staged =>
    match (staged.land kind page).needsPage with
    | some next => ({ catalog with replacement := some (staged.land kind page) }, some next)
    | none => (catalog.publish kind (staged.land kind page), none)

def failPage (catalog : Catalog Row) (error : String) : Catalog Row × Option Nat :=
  let aborted := { catalog with error := some error, replacement := none }
  (aborted, if catalog.replacement.isSome then aborted.needsPage else none)

def fetched (catalog : Catalog Row) (request : Nat) (result : Except String (Page Row)) :
    Catalog Row × Option Nat :=
  if catalog.catalogRequest ≠ request then (catalog, none)
  else
    match result with
    | .ok page => catalog.applyPage kind page
    | .error error => catalog.failPage error

def refreshed (catalog : Catalog Row) : Catalog Row :=
  beginCatalogReplacement { catalog with error := none }

def commits (catalog : Catalog Row) (request : Nat) :
    Except String (Page Row) → Option (Listing Row)
  | .error _ => none
  | .ok page =>
    if catalog.catalogRequest ≠ request then none
    else
      (catalog.replacement.map fun staged => staged.toListing.land kind page).filter fun landed =>
        landed.needsPage.isNone

variable {kind} {catalog : Catalog Row} {page : Page Row} {request : Nat}

theorem fetched_superseded {result : Except String (Page Row)} (superseded : catalog.catalogRequest ≠ request) :
    catalog.fetched kind request result = (catalog, none) := by
  simp [fetched, superseded]

@[simp] theorem publish_listing {staged : CatalogReplacement Row} :
    (catalog.publish kind staged).toListing = staged.sortRows kind := rfl

@[simp] theorem publish_replacement {staged : CatalogReplacement Row} : (catalog.publish kind staged).replacement = none := rfl

theorem publish_selected {staged : CatalogReplacement Row} : (∃ row ∈ (staged.sortRows kind).rows,
      (catalog.publish kind staged).selectedId = some (kind.id row)) ∨
    (staged.sortRows kind).rows = [] ∧ (catalog.publish kind staged).selectedId = none := by
  unfold publish
  dsimp only
  by_cases present : catalog.selectedId.any ((staged.sortRows kind).lists kind) = true
  · rw [if_pos present]
    cases selection : catalog.selectedId with
    | none => simp [selection] at present
    | some selected =>
      rw [selection, Option.any_some] at present
      obtain ⟨row, member, same⟩ := Listing.lists_iff.mp present
      exact .inl ⟨row, member, by rw [same]⟩
  · rw [if_neg present]
    cases rows : (staged.sortRows kind).rows with
    | nil => exact .inr ⟨rfl, rfl⟩
    | cons first rest => exact .inl ⟨first, by simp, rfl⟩

theorem keepSelection_eq : ∃ selected, keepSelection kind catalog = { catalog with selectedId := selected } := by
  unfold keepSelection select
  split
  · exact ⟨_, rfl⟩
  · split
    · exact ⟨_, rfl⟩
    · exact ⟨catalog.selectedId, rfl⟩

theorem appendPage_eq : ∃ selected, catalog.appendPage kind page =
    { catalog with toListing := catalog.toListing.land kind page, selectedId := selected } := by
  obtain ⟨selected, kept⟩ := @keepSelection_eq _ kind { catalog with toListing := catalog.toListing.land kind page }
  exact ⟨selected, kept⟩

theorem cursor_lt {selected : String} (selection : catalog.selectedId = some selected)
    (listed : catalog.toListing.lists kind selected = true) :
    catalog.cursor kind < catalog.rows.length := by
  unfold cursor
  rw [selection, Option.bind_some]
  cases found : catalog.rows.findIdx? fun row => kind.id row == selected with
  | none =>
    obtain ⟨row, member, same⟩ := Listing.lists_iff.mp listed
    have missed := List.findIdx?_eq_none_iff.mp found row member
    simp [same] at missed
  | some place =>
    rw [Option.getD_some]
    exact (List.findIdx?_eq_some_iff_findIdx_eq.mp found).1

end Catalog

structure Scope where
  committedShowPill : Option String := none
  selectedEpisode : Option (String × String) := none
  refreshPending : Finset String := ∅

namespace Scope

structure Retires (scope next : Scope) : Prop where
  committedShowPill : next.committedShowPill = scope.committedShowPill
  selectedEpisode : next.selectedEpisode = scope.selectedEpisode
  refreshPending : next.refreshPending ⊆ scope.refreshPending

variable {scope next last : Scope}

theorem Retires.refl : scope.Retires scope := ⟨rfl, rfl, subset_rfl⟩

theorem Retires.trans (first : scope.Retires next) (second : next.Retires last) : scope.Retires last :=
  ⟨second.committedShowPill.trans first.committedShowPill, second.selectedEpisode.trans first.selectedEpisode,
    second.refreshPending.trans first.refreshPending⟩

structure Names (kind : RowKind Row) (listing : Listing Row) (scope : Scope) : Prop where
  committedShowPill :
    ∀ id, scope.committedShowPill = some id → ∃ row ∈ listing.rows, kind.id row = id
  selectedEpisode :
    ∀ episode, scope.selectedEpisode = some episode → ∃ row ∈ listing.rows, kind.id row = episode.1
  refreshPending : ∀ id ∈ scope.refreshPending, ∃ row ∈ listing.rows, kind.id row = id

theorem Names.retires {kind : RowKind Row} {listing : Listing Row}
    (names : scope.Names kind listing) (retires : scope.Retires next) : next.Names kind listing where
  committedShowPill id held := names.committedShowPill id (retires.committedShowPill ▸ held)
  selectedEpisode episode held := names.selectedEpisode episode (retires.selectedEpisode ▸ held)
  refreshPending id member := names.refreshPending id (retires.refreshPending member)

theorem names_empty {kind : RowKind Row} {listing : Listing Row} : ({} : Scope).Names kind listing := ⟨by simp, by simp, by simp⟩

end Scope

namespace Catalog

def Selects (next catalog : Catalog Row) : Prop :=
  ∃ selected, next = { catalog with selectedId := selected }

/-- What a user's action may do: move the selection and ask for nothing, or start a replacement when
    none is pending and ask for its first page. -/
inductive Operates (catalog : Catalog Row) (scope : Scope) (next : Catalog Row) (nextScope : Scope) :
    Option Nat → Prop where
  | selects (selects : next.Selects catalog) : Operates catalog scope next nextScope none
  | refreshes (idle : catalog.replacement = none) (refreshed : next = catalog.refreshed)
      (pill : nextScope.committedShowPill = scope.committedShowPill)
      (episode : nextScope.selectedEpisode = scope.selectedEpisode) :
      Operates catalog scope next nextScope (some 0)

end Catalog

/-! ### The podcast sibling -/

namespace AudiobookshelfBrowseState

variable {toLowercase : String → String} {state : AudiobookshelfBrowseState}

theorem keepSelection_catalog {selected : String} (selection : state.selectedId = some selected) :
    (state.keepSelection toLowercase).toCatalog = state.toCatalog.keepSelection (showKind toLowercase) := by
  have listing : state.listsShow toLowercase selected = state.toCatalog.toListing.lists (showKind toLowercase) selected := rfl
  unfold keepSelection Catalog.keepSelection
  rw [selection]
  dsimp only
  by_cases listed : state.listsShow toLowercase selected = true
  · have inside := @Catalog.cursor_lt _ (showKind toLowercase) state.toCatalog _ selection (listing ▸ listed)
    rw [if_neg fun both => absurd both.2 (Nat.not_le.mpr inside), if_neg fun both => both.2 listed,
      if_neg fun both => both.2 (listing ▸ listed)]
  · rw [if_neg fun both => listed both.1]
    by_cases whole : state.total ≤ state.rows.length
    · rw [if_pos ⟨whole, listed⟩, if_pos ⟨whole, listing ▸ listed⟩]
      rfl
    · rw [if_neg fun both => whole both.1, if_neg fun both => whole both.1]

theorem selectFirst_keepSelection : ((state.selectFirst toLowercase).keepSelection toLowercase).toCatalog =
      state.toCatalog.keepSelection (showKind toLowercase) := by
  cases selection : state.selectedId with
  | some selected =>
    have same : state.selectFirst toLowercase = state := by simp [selectFirst, selection]
    rw [same]
    exact keepSelection_catalog selection
  | none =>
    cases rows : state.rows with
    | nil =>
      have same : state.selectFirst toLowercase = state := by simp [selectFirst, rows]
      have kept : state.keepSelection toLowercase = state := by simp [keepSelection, selection]
      rw [same, kept]
      unfold Catalog.keepSelection Catalog.select
      rw [selection]
      simp only [rows, List.getElem?_nil, Option.map_none]
      rw [← selection]
    | cons first rest =>
      have moved : state.selectFirst toLowercase = state.select toLowercase 0 := by
        simp [selectFirst, selection, rows]
      have chosen : (state.select toLowercase 0).selectedId = some first.libraryItemId := by
        simp [select, Catalog.select, rows, showKind]
      rw [moved, keepSelection_catalog chosen]
      unfold Catalog.keepSelection
      rw [chosen, selection]
      have listed : (state.select toLowercase 0).toCatalog.toListing.lists (showKind toLowercase) first.libraryItemId = true :=
        Listing.lists_iff.mpr ⟨first, by simp [select, Catalog.select, rows], rfl⟩
      dsimp only
      rw [if_neg fun both => both.2 listed]
      rfl

variable {page : Page AudiobookshelfShow}

theorem appendPage_catalog : (state.appendPage toLowercase page).toCatalog =
      state.toCatalog.appendPage (showKind toLowercase) page :=
  selectFirst_keepSelection

def scope (state : AudiobookshelfBrowseState) : Scope :=
  ⟨state.committedShowPill, state.selectedEpisode, state.refreshPending⟩

/-- What the fan-out leaves alone; it only retires refresh marks. -/
structure Fans (state next : AudiobookshelfBrowseState) : Prop where
  catalog : next.toCatalog = state.toCatalog
  scope : state.scope.Retires next.scope

theorem Fans.refl : Fans state state := ⟨rfl, Scope.Retires.refl⟩

theorem Fans.trans {next last : AudiobookshelfBrowseState} (first : Fans state next)
    (second : Fans next last) : Fans state last :=
  ⟨second.catalog.trans first.catalog, first.scope.trans second.scope⟩

theorem startAudiobookshelfDetail_fans {ready force : Bool} {id : String} :
    Fans state (state.startAudiobookshelfDetail ready id force) := by
  unfold startAudiobookshelfDetail
  split
  · exact Fans.refl
  · split
    · exact Fans.refl
    · exact ⟨rfl, Scope.Retires.refl⟩

theorem requireDetail_fans {ready : Bool} {id : String} : Fans state (state.requireDetail ready id) := by
  unfold requireDetail
  split
  · have retired : Fans state (state.retireDetailRefresh id) := ⟨rfl, rfl, rfl, Finset.erase_subset id state.refreshPending⟩
    exact retired.trans startAudiobookshelfDetail_fans
  · exact startAudiobookshelfDetail_fans

theorem requireDetails_fans {ready : Bool} {ids : List String} : Fans state (requireDetails ready ids state) := by
  induction ids generalizing state with
  | nil => exact Fans.refl
  | cons id ids ih =>
    unfold requireDetails
    split
    · exact Fans.refl
    · exact requireDetail_fans.trans ih

variable {shell : Shell}

theorem startAudiobookshelfPodcastFanOut_fans : Fans state (state.startAudiobookshelfPodcastFanOut shell) := by
  unfold startAudiobookshelfPodcastFanOut
  split
  · exact Fans.refl
  · exact requireDetails_fans

theorem appendPage_scope : (state.appendPage toLowercase page).scope = state.scope := by
  have first : ∀ state : AudiobookshelfBrowseState, (state.selectFirst toLowercase).scope = state.scope := by
    intro state
    unfold selectFirst
    split <;> rfl
  have kept : ∀ state : AudiobookshelfBrowseState, (state.keepSelection toLowercase).scope = state.scope := by
    intro state
    unfold keepSelection
    split
    · rfl
    · split
      · rfl
      · split <;> rfl
  unfold appendPage
  rw [kept, first]
  rfl

theorem reconcile_names : (state.reconcile toLowercase).scope.Names (showKind toLowercase) state.toListing where
  committedShowPill id held := by
    have kept := (Option.filter_eq_some_iff.mp held).2
    exact Listing.lists_iff.mp kept
  selectedEpisode episode held := by
    have kept := (Option.filter_eq_some_iff.mp held).2
    exact Listing.lists_iff.mp kept
  refreshPending id member := Listing.lists_iff.mp (Finset.mem_filter.mp member).2

variable {request : Nat}

theorem appendReplacementPage_eq {staged : CatalogReplacement AudiobookshelfShow}
    (current : state.catalogRequest = request) (pending : state.replacement = some staged) :
    state.appendReplacementPage toLowercase request page =
      ({ state with replacement := some (staged.land (showKind toLowercase) page) }, true) := by
  simp [appendReplacementPage, Catalog.appendReplacementPage, current, pending]

theorem commitCatalogReplacement_eq {staged : CatalogReplacement AudiobookshelfShow}
    (current : state.catalogRequest = request) (pending : state.replacement = some staged) :
    state.commitCatalogReplacement toLowercase request =
      (reconcile toLowercase (state.publishShows toLowercase staged), true) := by
  simp [commitCatalogReplacement, current, pending]

theorem applyShowPage_staged {staged : CatalogReplacement AudiobookshelfShow}
    (current : state.catalogRequest = request) (pending : state.replacement = some staged) :
    state.applyShowPage toLowercase request page = match (staged.land (showKind toLowercase) page).needsPage with
      | some next =>
        ({ state with replacement := some (staged.land (showKind toLowercase) page) }, some next)
      | none =>
        (reconcile toLowercase (state.publishShows toLowercase (staged.land (showKind toLowercase) page)), none) := by
  subst current
  have committed := @commitCatalogReplacement_eq toLowercase
    { state with replacement := some (staged.land (showKind toLowercase) page) } _ _ rfl rfl
  unfold applyShowPage
  rw [pending]
  dsimp only
  rw [appendReplacementPage_eq rfl pending]
  dsimp only
  rw [committed]
  simp only [Catalog.replacementNeedsPage, ne_eq, not_true_eq_false, if_false, Option.bind_some]
  cases (staged.land (showKind toLowercase) page).needsPage <;> rfl

theorem applyShowPage_catalog (current : state.catalogRequest = request) :
    ((state.applyShowPage toLowercase request page).1.toCatalog, (state.applyShowPage toLowercase request page).2) =
      state.toCatalog.applyPage (showKind toLowercase) page := by
  cases pending : state.replacement with
  | none =>
    simp only [applyShowPage, Catalog.applyPage, pending, appendPage_catalog]
  | some staged =>
    rw [applyShowPage_staged current pending]
    unfold Catalog.applyPage
    rw [pending]
    dsimp only
    cases (staged.land (showKind toLowercase) page).needsPage <;> rfl

theorem abortShowReplacement_catalog {error : String} (current : state.catalogRequest = request) :
    ((abortShowReplacement { state with error := some error } request).1.toCatalog,
        (abortShowReplacement { state with error := some error } request).2) =
      state.toCatalog.failPage error := by
  simp [abortShowReplacement, abortCatalogReplacement, Catalog.abortCatalogReplacement, current, Catalog.failPage]

theorem handleAudiobookshelfShowsFetched_catalog {result : Except String (Page AudiobookshelfShow)} :
    ((state.handleAudiobookshelfShowsFetched toLowercase shell request result).1.toCatalog,
        (state.handleAudiobookshelfShowsFetched toLowercase shell request result).2) =
      state.toCatalog.fetched (showKind toLowercase) request result := by
  unfold handleAudiobookshelfShowsFetched Catalog.fetched
  by_cases current : state.catalogRequest = request
  · rw [if_neg (not_not_intro current), if_neg (not_not_intro current)]
    cases result with
    | ok page =>
      dsimp only
      rw [startAudiobookshelfPodcastFanOut_fans.catalog]
      exact applyShowPage_catalog current
    | error error =>
      dsimp only
      rw [startAudiobookshelfPodcastFanOut_fans.catalog]
      exact abortShowReplacement_catalog current
  · rw [if_pos current, if_pos current]

theorem applyShowPage_scope (current : state.catalogRequest = request) :
    let next := (state.applyShowPage toLowercase request page).1
    if (state.toCatalog.commits (showKind toLowercase) request (.ok page)).isSome then
      next.scope.Names (showKind toLowercase) next.toListing
    else next.scope = state.scope := by
  cases pending : state.replacement with
  | none =>
    simp only [Catalog.commits, current, pending, applyShowPage]
    simpa using appendPage_scope
  | some staged =>
    rw [applyShowPage_staged current pending]
    have landed : (staged.land (showKind toLowercase) page).toListing = staged.toListing.land (showKind toLowercase) page := rfl
    simp only [Catalog.commits, current, pending, landed]
    cases needs : (staged.toListing.land (showKind toLowercase) page).needsPage with
    | some next => simp [scope, needs]
    | none =>
      rw [if_pos (by simp [needs])]
      exact @reconcile_names toLowercase (state.publishShows toLowercase (staged.land (showKind toLowercase) page))

theorem handleAudiobookshelfShowsFetched_scope {result : Except String (Page AudiobookshelfShow)} :
    let next := (state.handleAudiobookshelfShowsFetched toLowercase shell request result).1
    if (state.toCatalog.commits (showKind toLowercase) request result).isSome then
      next.scope.Names (showKind toLowercase) next.toListing
    else state.scope.Retires next.scope := by
  unfold handleAudiobookshelfShowsFetched
  by_cases current : state.catalogRequest = request
  · rw [if_neg (not_not_intro current)]
    cases result with
    | error error =>
      have fans := @startAudiobookshelfPodcastFanOut_fans
        (abortShowReplacement { state with error := some error } request).1 shell
      have kept : (abortShowReplacement { state with error := some error } request).1.scope =
          state.scope := rfl
      simpa [Catalog.commits, kept] using fans.scope
    | ok page =>
      have fans := (@startAudiobookshelfPodcastFanOut_fans (state.applyShowPage toLowercase request page).1 shell)
      have applied := @applyShowPage_scope toLowercase state page request current
      dsimp only at applied ⊢
      split at applied
      · rw [if_pos ‹_›, fans.catalog]
        exact applied.retires fans.scope
      · rw [if_neg ‹_›, ← applied]
        exact fans.scope
  · rw [if_pos current]
    cases result with
    | error error => exact Scope.Retires.refl
    | ok page => simpa [Catalog.commits, current] using Scope.Retires.refl

theorem selectAudiobookshelfShow_catalog {cursor : Nat} :
    (state.selectAudiobookshelfShow toLowercase shell cursor).toCatalog.Selects state.toCatalog := by
  unfold selectAudiobookshelfShow
  split
  · exact ⟨_, rfl⟩
  · dsimp only
    split
    · exact ⟨_, rfl⟩
    · rw [startAudiobookshelfDetail_fans.catalog]
      exact ⟨_, rfl⟩

theorem audiobookshelfRefresh_fans (idle : state.replacement = none) :
    Fans ((beginCatalogReplacement { state with error := none }).beginDetailRefresh state.requiredShows)
      (state.audiobookshelfRefresh shell).1 ∧
    (state.audiobookshelfRefresh shell).2 = some 0 := by
  unfold audiobookshelfRefresh
  rw [if_neg (by simp [idle])]
  exact ⟨startAudiobookshelfPodcastFanOut_fans, rfl⟩

theorem operate_catalog {op : PodcastOp} : state.toCatalog.Operates state.scope (state.operate toLowercase shell op).1.toCatalog
      (state.operate toLowercase shell op).1.scope (state.operate toLowercase shell op).2 := by
  cases op with
  | refresh =>
    cases pending : state.replacement with
    | some staged =>
      have coalesced : state.audiobookshelfRefresh shell = (state, none) := by
        simp [audiobookshelfRefresh, pending]
      unfold operate
      rw [coalesced]
      exact .selects ⟨_, rfl⟩
    | none =>
      obtain ⟨fans, asks⟩ := @audiobookshelfRefresh_fans _ shell pending
      unfold operate
      rw [asks, fans.catalog]
      exact .refreshes pending rfl fans.scope.committedShowPill fans.scope.selectedEpisode
  | selectShow cursor => exact .selects selectAudiobookshelfShow_catalog
  | selectTarget target =>
    unfold operate selectAudiobookshelfShowTarget
    dsimp only
    split
    · exact .selects ⟨_, rfl⟩
    · exact .selects (@selectAudiobookshelfShow_catalog toLowercase { state with committedShowPill := some target } shell _)
  | stateScope =>
    unfold operate commitAudiobookshelfPodcastStateScope
    dsimp only
    rw [startAudiobookshelfPodcastFanOut_fans.catalog]
    exact .selects ⟨_, rfl⟩
  | resetScope => exact .selects ⟨_, rfl⟩
  | selectEpisode episode => exact .selects ⟨_, rfl⟩

end AudiobookshelfBrowseState

/-! ### The book sibling -/

namespace AudiobookshelfBookBrowseState

variable {toLowercase : String → String} {state : AudiobookshelfBookBrowseState}

theorem keepSelection_catalog : (state.keepSelection toLowercase).toCatalog =
      state.toCatalog.keepSelection (bookKind toLowercase) := by
  unfold keepSelection Catalog.keepSelection
  cases selection : state.selectedId with
  | none =>
    dsimp only
    cases rows : state.rows with
    | nil =>
      rw [if_neg (not_not_intro rfl)]
      unfold Catalog.select
      simp only [rows, List.getElem?_nil, Option.map_none]
      rw [← selection]
    | cons first rest =>
      rw [if_pos (List.cons_ne_nil first rest)]
      rfl
  | some selected =>
    have listing : state.listsBook toLowercase selected = state.toCatalog.toListing.lists (bookKind toLowercase) selected := rfl
    dsimp only
    rw [listing]
    by_cases gone : ¬ state.toCatalog.toListing.lists (bookKind toLowercase) selected = true ∧ state.total ≤ state.rows.length
    · rw [if_pos gone, if_pos gone.symm]
      rfl
    · rw [if_neg gone, if_neg fun both => gone both.symm]

theorem appendPageBooks_catalog {page : Page AudiobookshelfBook} : (state.appendPageBooks toLowercase page).toCatalog =
      state.toCatalog.appendPage (bookKind toLowercase) page :=
  keepSelection_catalog

variable {request : Nat}

theorem appendReplacementPage_eq {page : Page AudiobookshelfBook}
    {staged : CatalogReplacement AudiobookshelfBook} (current : state.catalogRequest = request)
    (pending : state.replacement = some staged) :
    state.appendReplacementPage toLowercase request page =
      ({ state with replacement := some (staged.land (bookKind toLowercase) page) }, true) := by
  simp [appendReplacementPage, Catalog.appendReplacementPage, current, pending]

theorem commitCatalogReplacement_catalog {staged : CatalogReplacement AudiobookshelfBook}
    (current : state.catalogRequest = request) (pending : state.replacement = some staged) :
    (state.commitCatalogReplacement toLowercase request).1.toCatalog =
      state.toCatalog.publish (bookKind toLowercase) staged := by
  simp [commitCatalogReplacement, current, pending, publishBooks]

theorem applyBookPage_catalog {page : Page AudiobookshelfBook} (current : state.catalogRequest = request) :
    ((state.applyBookPage toLowercase request page).1.toCatalog, (state.applyBookPage toLowercase request page).2) =
      state.toCatalog.applyPage (bookKind toLowercase) page := by
  subst current
  unfold applyBookPage Catalog.applyPage
  cases pending : state.replacement with
  | none =>
    dsimp only
    rw [appendPageBooks_catalog]
  | some staged =>
    have committed := @commitCatalogReplacement_catalog toLowercase
      { state with replacement := some (staged.land (bookKind toLowercase) page) } _ _ rfl rfl
    dsimp only
    rw [appendReplacementPage_eq rfl pending]
    simp only [Catalog.replacementNeedsPage, ne_eq, not_true_eq_false, if_false, Option.bind_some]
    cases (staged.land (bookKind toLowercase) page).needsPage with
    | some next => rfl
    | none => exact Prod.ext committed rfl

@[simp] theorem startAudiobookshelfBookDetail_catalog {active force : Bool} {id : String} :
    (state.startAudiobookshelfBookDetail active id force).toCatalog = state.toCatalog := by
  unfold startAudiobookshelfBookDetail
  split
  · rfl
  · split <;> rfl

theorem startSelectedDetail_catalog {active : Bool} : (state.startSelectedDetail active).toCatalog = state.toCatalog := by
  unfold startSelectedDetail
  split
  · rfl
  · split
    · rfl
    · exact startAudiobookshelfBookDetail_catalog

variable {shell : Shell}

theorem handleAudiobookshelfBooksFetched_catalog {result : Except String (Page AudiobookshelfBook)} :
    ((state.handleAudiobookshelfBooksFetched toLowercase shell request result).1.toCatalog,
        (state.handleAudiobookshelfBooksFetched toLowercase shell request result).2) =
      state.toCatalog.fetched (bookKind toLowercase) request result := by
  unfold handleAudiobookshelfBooksFetched Catalog.fetched
  by_cases current : state.catalogRequest = request
  · rw [if_neg (not_not_intro current), if_neg (not_not_intro current)]
    cases result with
    | ok page =>
      dsimp only
      rw [startSelectedDetail_catalog]
      exact applyBookPage_catalog current
    | error error =>
      simp [abortBookReplacement, abortCatalogReplacement, Catalog.abortCatalogReplacement, current, Catalog.failPage]
  · rw [if_pos current, if_pos current]

theorem select_catalog {cursor : Nat} : (state.select toLowercase cursor).toCatalog.Selects state.toCatalog := ⟨_, rfl⟩

theorem selectAudiobookshelfBook_catalog {cursor : Nat} :
    (state.selectAudiobookshelfBook toLowercase shell cursor).toCatalog.Selects state.toCatalog := by
  unfold selectAudiobookshelfBook
  split
  · exact ⟨_, rfl⟩
  · dsimp only
    split
    · exact select_catalog
    · rw [startAudiobookshelfBookDetail_catalog]
      exact select_catalog

theorem activateAudiobookshelfBookPosition_catalog {saved : Option String} :
    (state.activateAudiobookshelfBookPosition toLowercase shell saved).toCatalog.Selects
      state.toCatalog := by
  unfold activateAudiobookshelfBookPosition
  dsimp only
  split
  · split
    · exact ⟨_, rfl⟩
    · exact ⟨_, rfl⟩
  · split
    · rw [startAudiobookshelfBookDetail_catalog]
      exact ⟨_, rfl⟩
    · exact ⟨_, rfl⟩

theorem audiobookshelfBookRefresh_catalog (idle : state.replacement = none) :
    (state.audiobookshelfBookRefresh shell).1.toCatalog = state.toCatalog.refreshed ∧
      (state.audiobookshelfBookRefresh shell).2 = some 0 := by
  unfold audiobookshelfBookRefresh
  rw [if_neg (by simp [idle])]
  dsimp only
  split
  · exact ⟨rfl, rfl⟩
  · exact ⟨startAudiobookshelfBookDetail_catalog, rfl⟩

theorem operate_catalog {op : BookOp} : state.toCatalog.Operates {} (state.operate toLowercase shell op).1.toCatalog {}
      (state.operate toLowercase shell op).2 := by
  cases op with
  | refresh =>
    cases pending : state.replacement with
    | some staged =>
      have coalesced : state.audiobookshelfBookRefresh shell = (state, none) := by
        simp [audiobookshelfBookRefresh, pending]
      unfold operate
      rw [coalesced]
      exact .selects ⟨_, rfl⟩
    | none =>
      obtain ⟨refreshed, asks⟩ := @audiobookshelfBookRefresh_catalog _ shell pending
      unfold operate
      rw [asks]
      exact .refreshes pending refreshed rfl rfl
  | selectBook cursor => exact .selects selectAudiobookshelfBook_catalog
  | selectTarget target =>
    unfold operate selectAudiobookshelfBookTarget
    dsimp only
    split
    · exact .selects ⟨_, rfl⟩
    · exact .selects selectAudiobookshelfBook_catalog
  | activatePosition saved => exact .selects activateAudiobookshelfBookPosition_catalog

end AudiobookshelfBookBrowseState

end Mbv.Audiobookshelf
