import Mathlib.Data.Prod.Lex
import Mathlib.Data.String.Basic
import Mbv.Audiobookshelf.Catalog

namespace Mbv.Audiobookshelf

structure AudiobookshelfShow where
  libraryItemId : String
  title : String

structure AudiobookshelfBook where
  libraryItemId : String
  title : String
  authorSortKey : String

/-- What a handler reads of the App: whether the library's tab is the active one, and whether the
    Service setup and its key resolve. -/
structure Shell where
  active : Bool
  ready : Bool

abbrev InFlight := List (String × Nat)

def InFlight.contains (inFlight : InFlight) (id : String) : Bool :=
  inFlight.any fun entry => entry.1 == id

def InFlight.insert (inFlight : InFlight) (id : String) (request : Nat) : InFlight :=
  (id, request) :: inFlight.filter fun entry => entry.1 != id

variable (toLowercase : String → String)

/-! ### The podcast sibling -/

def showKind : RowKind AudiobookshelfShow where
  Rank := String
  order := inferInstance
  id := AudiobookshelfShow.libraryItemId
  rank podcast := toLowercase podcast.title

structure AudiobookshelfBrowseState extends Catalog AudiobookshelfShow where
  detailCache : Finset String := ∅
  detailLoadingIds : InFlight := []
  refreshPending : Finset String := ∅
  nextDetailRequest : Nat := 0
  committedShowPill : Option String := none
  selectedEpisode : Option (String × String) := none

def maxPodcastDetailsInFlight : Nat := 4

namespace AudiobookshelfBrowseState

variable (state : AudiobookshelfBrowseState)

def listsShow (id : String) : Bool := state.toListing.lists (showKind toLowercase) id

def select (cursor : Nat) : AudiobookshelfBrowseState :=
  { state with toCatalog := state.toCatalog.select (showKind toLowercase) cursor }

/-- The first selection of `append_page`, made when nothing is selected yet. -/
def selectFirst : AudiobookshelfBrowseState :=
  if state.selectedId.isNone ∧ state.rows ≠ [] then state.select toLowercase 0 else state

/-- Its second: the selection is moved only off a show that the whole list does not hold. -/
def keepSelection : AudiobookshelfBrowseState :=
  match state.selectedId with
  | none => state
  | some selected =>
    if state.listsShow toLowercase selected ∧
        state.rows.length ≤ state.toCatalog.cursor (showKind toLowercase) then
      state.select toLowercase (state.rows.length - 1)
    else if state.total ≤ state.rows.length ∧ ¬ state.listsShow toLowercase selected then
      state.select toLowercase 0
    else state

def appendPage (page : Page AudiobookshelfShow) : AudiobookshelfBrowseState :=
  let landed := { state with toListing := state.toListing.land (showKind toLowercase) page }
  (landed.selectFirst toLowercase).keepSelection toLowercase

def beginCatalogReplacement : AudiobookshelfBrowseState :=
  { state with toCatalog := state.toCatalog.beginCatalogReplacement }

def beginDetailRefresh (shows : List String) : AudiobookshelfBrowseState :=
  { state with refreshPending := state.refreshPending ∪ shows.toFinset }

def needsDetailRefresh (id : String) : Bool := decide (id ∈ state.refreshPending)

def retireDetailRefresh (id : String) : AudiobookshelfBrowseState :=
  { state with refreshPending := state.refreshPending.erase id }

def appendReplacementPage (request : Nat) (page : Page AudiobookshelfShow) :
    AudiobookshelfBrowseState × Bool :=
  let staged := state.toCatalog.appendReplacementPage (showKind toLowercase) request page
  ({ state with toCatalog := staged.1 }, staged.2)

/-- The pill, the selected episode and the pending refreshes that the published shows still hold. -/
def reconcile : AudiobookshelfBrowseState :=
  { state with
    committedShowPill := state.committedShowPill.filter (state.listsShow toLowercase)
    selectedEpisode := state.selectedEpisode.filter fun episode =>
      state.listsShow toLowercase episode.1
    refreshPending := state.refreshPending.filter fun id => state.listsShow toLowercase id }

def publishShows (staged : CatalogReplacement AudiobookshelfShow) : AudiobookshelfBrowseState :=
  { state with toCatalog := state.toCatalog.publish (showKind toLowercase) staged }

def commitCatalogReplacement (request : Nat) : AudiobookshelfBrowseState × Bool :=
  if state.catalogRequest ≠ request then (state, false)
  else
    match state.replacement with
    | none => (state, false)
    | some staged =>
      (reconcile toLowercase (state.publishShows toLowercase staged), true)

def abortCatalogReplacement (request : Nat) : AudiobookshelfBrowseState × Bool :=
  let aborted := state.toCatalog.abortCatalogReplacement request
  ({ state with toCatalog := aborted.1 }, aborted.2)

/-! The App's side: the fan-out of episode requests and the completion handlers. -/

def startAudiobookshelfDetail (ready : Bool) (id : String) (force : Bool) :
    AudiobookshelfBrowseState :=
  if !ready then state
  else if !force && (decide (id ∈ state.detailCache) || state.detailLoadingIds.contains id) then state
  else
    { state with
      nextDetailRequest := state.nextDetailRequest + 1
      detailLoadingIds := state.detailLoadingIds.insert id (state.nextDetailRequest + 1) }

def requireDetail (ready : Bool) (id : String) : AudiobookshelfBrowseState :=
  if state.needsDetailRefresh id then
    (state.retireDetailRefresh id).startAudiobookshelfDetail ready id true
  else state.startAudiobookshelfDetail ready id false

def requireDetails (ready : Bool) :
    List String → AudiobookshelfBrowseState → AudiobookshelfBrowseState
  | [], state => state
  | id :: ids, state =>
    if maxPodcastDetailsInFlight ≤ state.detailLoadingIds.length then state
    else requireDetails ready ids (state.requireDetail ready id)

def requiredShows : List String :=
  match state.committedShowPill with
  | some id => [id]
  | none => state.rows.map AudiobookshelfShow.libraryItemId

def startAudiobookshelfPodcastFanOut (shell : Shell) : AudiobookshelfBrowseState :=
  if !shell.active then state else requireDetails shell.ready state.requiredShows state

def applyShowPage (request : Nat) (page : Page AudiobookshelfShow) :
    AudiobookshelfBrowseState × Option Nat :=
  match state.replacement with
  | none =>
    let appended := state.appendPage toLowercase page
    (appended, appended.toCatalog.needsPage)
  | some _ =>
    let staged := (state.appendReplacementPage toLowercase request page).1
    match staged.toCatalog.replacementNeedsPage request with
    | some next => (staged, some next)
    | none => ((staged.commitCatalogReplacement toLowercase request).1, none)

def abortShowReplacement (request : Nat) : AudiobookshelfBrowseState × Option Nat :=
  let aborted := state.abortCatalogReplacement request
  (aborted.1, if aborted.2 then aborted.1.toCatalog.needsPage else none)

def handleAudiobookshelfShowsFetched (shell : Shell) (request : Nat)
    (result : Except String (Page AudiobookshelfShow)) : AudiobookshelfBrowseState × Option Nat :=
  if state.catalogRequest ≠ request then (state, none)
  else
    let applied := match result with
      | .ok page => state.applyShowPage toLowercase request page
      | .error error => abortShowReplacement { state with error := some error } request
    (applied.1.startAudiobookshelfPodcastFanOut shell, applied.2)

def audiobookshelfRefresh (shell : Shell) : AudiobookshelfBrowseState × Option Nat :=
  if state.replacement.isSome then (state, none)
  else
    let begun := beginCatalogReplacement { state with error := none }
    ((begun.beginDetailRefresh begun.requiredShows).startAudiobookshelfPodcastFanOut shell, some 0)

def selectAudiobookshelfShow (shell : Shell) (cursor : Nat) : AudiobookshelfBrowseState :=
  if state.rows = [] then state
  else
    let selected := state.select toLowercase (min cursor (state.rows.length - 1))
    match selected.selectedId with
    | none => selected
    | some id => selected.startAudiobookshelfDetail shell.ready id false

def selectAudiobookshelfShowTarget (shell : Shell) (target : String) : AudiobookshelfBrowseState :=
  match state.rows.findIdx? fun podcast => podcast.libraryItemId == target with
  | none => state
  | some cursor =>
    selectAudiobookshelfShow toLowercase { state with committedShowPill := some target } shell cursor

def commitAudiobookshelfPodcastStateScope (shell : Shell) : AudiobookshelfBrowseState :=
  startAudiobookshelfPodcastFanOut { state with committedShowPill := none } shell

end AudiobookshelfBrowseState

/-- What the user does on a podcast tab. `resetScope` is the part `reset_browse_root_defaults` has in
    it; the selected episode is written by the tab directly. -/
inductive PodcastOp where
  | refresh
  | selectShow (cursor : Nat)
  | selectTarget (target : String)
  | stateScope
  | resetScope
  | selectEpisode (episode : Option (String × String))

def AudiobookshelfBrowseState.operate (state : AudiobookshelfBrowseState) (shell : Shell) :
    PodcastOp → AudiobookshelfBrowseState × Option Nat
  | .refresh => state.audiobookshelfRefresh shell
  | .selectShow cursor => (state.selectAudiobookshelfShow toLowercase shell cursor, none)
  | .selectTarget target => (state.selectAudiobookshelfShowTarget toLowercase shell target, none)
  | .stateScope => (state.commitAudiobookshelfPodcastStateScope shell, none)
  | .resetScope => ({ state with committedShowPill := none }, none)
  | .selectEpisode episode => ({ state with selectedEpisode := episode }, none)

/-! ### The book sibling -/

def bookKind : RowKind AudiobookshelfBook where
  Rank := String ×ₗ String
  order := inferInstance
  id := AudiobookshelfBook.libraryItemId
  rank book := toLex (toLowercase book.authorSortKey, toLowercase book.title)

structure AudiobookshelfBookBrowseState extends Catalog AudiobookshelfBook where
  detailCache : Finset String := ∅
  detailLoadingIds : InFlight := []
  nextDetailRequest : Nat := 0
  detailLoading : Bool := false

namespace AudiobookshelfBookBrowseState

variable (state : AudiobookshelfBookBrowseState)

def listsBook (id : String) : Bool := state.toListing.lists (bookKind toLowercase) id

def selectedDetailLoading : Bool := state.selectedId.any state.detailLoadingIds.contains

def select (cursor : Nat) : AudiobookshelfBookBrowseState :=
  let selected := { state with toCatalog := state.toCatalog.select (bookKind toLowercase) cursor }
  { selected with detailLoading := selected.selectedDetailLoading }

/-- The selection `append_page_books` makes once the rows have landed. -/
def keepSelection : AudiobookshelfBookBrowseState :=
  match state.selectedId with
  | none => if state.rows ≠ [] then state.select toLowercase 0 else state
  | some selected =>
    if ¬ state.listsBook toLowercase selected ∧ state.total ≤ state.rows.length then
      state.select toLowercase 0
    else { state with detailLoading := state.detailLoadingIds.contains selected }

def appendPageBooks (page : Page AudiobookshelfBook) : AudiobookshelfBookBrowseState :=
  keepSelection toLowercase
    { state with toListing := state.toListing.land (bookKind toLowercase) page }

def beginCatalogReplacement : AudiobookshelfBookBrowseState :=
  { state with toCatalog := state.toCatalog.beginCatalogReplacement }

def appendReplacementPage (request : Nat) (page : Page AudiobookshelfBook) :
    AudiobookshelfBookBrowseState × Bool :=
  let staged := state.toCatalog.appendReplacementPage (bookKind toLowercase) request page
  ({ state with toCatalog := staged.1 }, staged.2)

def publishBooks (staged : CatalogReplacement AudiobookshelfBook) : AudiobookshelfBookBrowseState :=
  { state with toCatalog := state.toCatalog.publish (bookKind toLowercase) staged }

def commitCatalogReplacement (request : Nat) : AudiobookshelfBookBrowseState × Bool :=
  if state.catalogRequest ≠ request then (state, false)
  else
    match state.replacement with
    | none => (state, false)
    | some staged =>
      let published := state.publishBooks toLowercase staged
      ({ published with detailLoading := published.selectedDetailLoading }, true)

def abortCatalogReplacement (request : Nat) : AudiobookshelfBookBrowseState × Bool :=
  let aborted := state.toCatalog.abortCatalogReplacement request
  ({ state with toCatalog := aborted.1 }, aborted.2)

def startAudiobookshelfBookDetail (active : Bool) (id : String) (force : Bool) :
    AudiobookshelfBookBrowseState :=
  if !active then state
  else if !force && (decide (id ∈ state.detailCache) || state.detailLoadingIds.contains id) then
    { state with detailLoading := state.selectedDetailLoading }
  else
    { state with
      nextDetailRequest := state.nextDetailRequest + 1
      detailLoadingIds := state.detailLoadingIds.insert id (state.nextDetailRequest + 1)
      detailLoading := true }

def applyBookPage (request : Nat) (page : Page AudiobookshelfBook) :
    AudiobookshelfBookBrowseState × Option Nat :=
  match state.replacement with
  | none =>
    let appended := state.appendPageBooks toLowercase page
    (appended, appended.toCatalog.needsPage)
  | some _ =>
    let staged := (state.appendReplacementPage toLowercase request page).1
    match staged.toCatalog.replacementNeedsPage request with
    | some next => (staged, some next)
    | none => ((staged.commitCatalogReplacement toLowercase request).1, none)

def abortBookReplacement (request : Nat) : AudiobookshelfBookBrowseState × Option Nat :=
  let aborted := state.abortCatalogReplacement request
  (aborted.1, if aborted.2 then aborted.1.toCatalog.needsPage else none)

/-- The detail request of `handle_audiobookshelf_books_fetched`, for the selected book unless one is
    already loading. -/
def startSelectedDetail (active : Bool) : AudiobookshelfBookBrowseState :=
  match state.selectedId with
  | none => state
  | some id => if state.detailLoading then state else state.startAudiobookshelfBookDetail active id false

def handleAudiobookshelfBooksFetched (shell : Shell) (request : Nat)
    (result : Except String (Page AudiobookshelfBook)) :
    AudiobookshelfBookBrowseState × Option Nat :=
  if state.catalogRequest ≠ request then (state, none)
  else
    match result with
    | .ok page =>
      let applied := state.applyBookPage toLowercase request page
      (applied.1.startSelectedDetail shell.active, applied.2)
    | .error error => abortBookReplacement { state with error := some error } request

def audiobookshelfBookRefresh (shell : Shell) : AudiobookshelfBookBrowseState × Option Nat :=
  if state.replacement.isSome then (state, none)
  else
    let begun := beginCatalogReplacement { state with error := none }
    match begun.selectedId with
    | none => (begun, some 0)
    | some id => (begun.startAudiobookshelfBookDetail shell.active id true, some 0)

def selectAudiobookshelfBook (shell : Shell) (cursor : Nat) : AudiobookshelfBookBrowseState :=
  if state.rows = [] then state
  else
    let selected := state.select toLowercase (min cursor (state.rows.length - 1))
    match selected.selectedId with
    | none => selected
    | some id => selected.startAudiobookshelfBookDetail shell.active id false

def selectAudiobookshelfBookTarget (shell : Shell) (target : String) :
    AudiobookshelfBookBrowseState :=
  match state.rows.findIdx? fun book => book.libraryItemId == target with
  | none => state
  | some cursor => state.selectAudiobookshelfBook toLowercase shell cursor

/-- `saved` is the focused book of a saved position of the book library. -/
def activateAudiobookshelfBookPosition (shell : Shell) (saved : Option String) :
    AudiobookshelfBookBrowseState :=
  let restored := { state with selectedId := state.selectedId.or saved }
  match restored.selectedId with
  | none => if restored.rows ≠ [] then restored.select toLowercase 0 else restored
  | some id =>
    if shell.active && !restored.rows.isEmpty && !decide (id ∈ restored.detailCache) then
      restored.startAudiobookshelfBookDetail true id false
    else restored

end AudiobookshelfBookBrowseState

inductive BookOp where
  | refresh
  | selectBook (cursor : Nat)
  | selectTarget (target : String)
  | activatePosition (saved : Option String)

def AudiobookshelfBookBrowseState.operate (state : AudiobookshelfBookBrowseState) (shell : Shell) :
    BookOp → AudiobookshelfBookBrowseState × Option Nat
  | .refresh => state.audiobookshelfBookRefresh shell
  | .selectBook cursor => (state.selectAudiobookshelfBook toLowercase shell cursor, none)
  | .selectTarget target => (state.selectAudiobookshelfBookTarget toLowercase shell target, none)
  | .activatePosition saved => (state.activateAudiobookshelfBookPosition toLowercase shell saved, none)

end Mbv.Audiobookshelf
