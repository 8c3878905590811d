import Mbv.Machine.Run

/-! A level of a library browser: what it asks the server for, the rows it holds, and how many rows
    of the server they stand for. -/

namespace Mbv.Library

/-- What browsing reads of an item; `artistSortKey` is the key its album is displayed by. -/
structure EmbyItem where
  id : String
  itemType : String := ""
  indexNumber : Int := 0
  isFolder : Bool := false
  childCount : Option Nat := none
  artistSortKey : String := ""
deriving DecidableEq

structure UpcomingPremiere where
  seriesId : String
  title : String

inductive LibraryKind where
  | generic
  | movies
  | tvShows
  | music
  | homeVideos
deriving DecidableEq

inductive TvContentMode where
  | latest
  | upcoming
  | all
  | range (index : Nat)
deriving DecidableEq

inductive LetterFilterKind where
  | movie
  | tv

structure LetterFilter where
  index : Nat
  label : String
  nameGe : Option String
  nameLt : Option String
deriving DecidableEq

namespace LetterFilter

def buckets : LetterFilterKind → List (String × Option String × Option String)
  | .movie =>
    [("A–C", some "A", some "D"), ("D–F", some "D", some "G"), ("G–I", some "G", some "J"),
      ("J–L", some "J", some "M"), ("M–O", some "M", some "P"), ("P–R", some "P", some "S"),
      ("S–U", some "S", some "V"), ("V–Z", some "V", none), ("#", none, some "A")]
  | .tv => [("A-I", none, some "J"), ("J-R", some "J", some "S"), ("S-Z", some "S", none)]

def countForKind (kind : LetterFilterKind) : Nat := (buckets kind).length

def forIndexForKind (index : Nat) (kind : LetterFilterKind) : Option LetterFilter :=
  (buckets kind)[index]?.map fun bucket => ⟨index, bucket.1, bucket.2.1, bucket.2.2⟩

def defaultFilterForKind (kind : LetterFilterKind) : LetterFilter :=
  (forIndexForKind 0 kind).get (by cases kind <;> rfl)

end LetterFilter

def LetterFilterKind.ofLibrary : LibraryKind → LetterFilterKind
  | .tvShows => .tv
  | _ => .movie

def libraryPillThreshold : Nat := 300

def pageSize : Nat := 100

def prefetchAhead : Nat := 25

def resolveTvContentMode (total : Nat) : Option TvContentMode → TvContentMode
  | some .all => if libraryPillThreshold < total then .latest else .all
  | some (.range index) => if libraryPillThreshold < total then .range index else .all
  | some mode => mode
  | none => .latest

/-! ### What is fetched -/

structure LevelFetchKey where
  parentId : String
  itemTypes : Option String := none
  unplayedOnly : Bool := false
  sortBy : String := "SortName"
  sortOrder : String := "Ascending"
  letterFilter : Option LetterFilter := none
deriving DecidableEq

def LevelFetchKey.align (key : LevelFetchKey) : TvContentMode → LevelFetchKey
  | .latest =>
    { key with itemTypes := some "Episode", sortBy := "DateCreated", sortOrder := "Descending" }
  | .upcoming =>
    { key with itemTypes := some "Episode", sortBy := "PremiereDate", sortOrder := "Ascending" }
  | .all | .range _ =>
    { key with itemTypes := some "Series", sortBy := "SortName", sortOrder := "Ascending" }

def defaultLibraryLevelKey (kind : LibraryKind) (libraryId : String) : LevelFetchKey :=
  match kind with
  | .movies => { parentId := libraryId, itemTypes := some "Movie" }
  | .tvShows => { parentId := libraryId, itemTypes := some "Series" }
  | .generic | .music | .homeVideos => { parentId := libraryId }

/-- The lists of a server: one for each fetch key, and the endpoints of the two TV modes that are not
    a listing of the library. -/
structure EmbyServer where
  items : LevelFetchKey → List EmbyItem
  latestEpisodes : String → List EmbyItem
  upcoming : String → List UpcomingPremiere

def EmbyServer.slice (server : EmbyServer) (key : LevelFetchKey) (startIndex limit : Nat) :
    List EmbyItem :=
  ((server.items key).drop startIndex).take limit

/-! ### Rows -/

structure ServerRows where
  consumed : Nat
  total : Nat

namespace ServerRows

def complete (rows : Nat) : ServerRows := ⟨rows, rows⟩

variable (rows : ServerRows)

def page (more total : Nat) : ServerRows := ⟨rows.consumed + more, total⟩

def isFullyLoaded : Bool := rows.total ≤ rows.consumed

def nextPageStart : Nat := rows.consumed

end ServerRows

/-- One level of the stack. `received` and `waits` are ghosts: whether the rows are of the scope the
    level has now, and the request it was last made to wait for. -/
structure BrowseLevel where
  key : LevelFetchKey
  items : List EmbyItem := []
  rows : ServerRows := ⟨0, 0⟩
  cursor : Nat := 0
  loading : Bool := false
  tvContentMode : Option TvContentMode := none
  received : Bool := false
  waits : Option Nat := none

/-- A level whose rows have not arrived. -/
def BrowseLevel.placeholder (key : LevelFetchKey) : BrowseLevel := { key := key, loading := true }

def BrowseLevel.loaded (key : LevelFetchKey) (items : List EmbyItem) (rows : ServerRows) :
    BrowseLevel :=
  { key := key, items := items, rows := rows, received := true }

/-- Grouped music shows no empty folders. -/
def retainGroupedMusicItems (groupedMusic : Bool) (items : List EmbyItem) : List EmbyItem :=
  if groupedMusic then items.filter fun item => !(item.isFolder && item.childCount == some 0)
  else items

def sortEpisodes (items : List EmbyItem) : List EmbyItem :=
  items.mergeSort fun left right => decide (left.indexNumber ≤ right.indexNumber)

def firstAlbum (items : List EmbyItem) : Nat :=
  let order := items.zipIdx.mergeSort fun left right =>
    decide (left.1.artistSortKey ≤ right.1.artistSortKey)
  (order.head?.map (·.2)).getD 0

namespace BrowseLevel

variable (level : BrowseLevel)

def alignToTvMode (mode : TvContentMode) : BrowseLevel := { level with key := level.key.align mode }

def retainGroupedMusic (groupedMusic : Bool) : BrowseLevel :=
  let items := retainGroupedMusicItems groupedMusic level.items
  { level with items := items, cursor := min level.cursor (items.length - 1) }

def normalized : BrowseLevel :=
  if level.items.head?.any fun item => item.itemType == "Episode" then
    { level with items := sortEpisodes level.items }
  else level

def cleared : BrowseLevel :=
  { level with items := [], cursor := 0, loading := true, received := false }

end BrowseLevel

end Mbv.Library
