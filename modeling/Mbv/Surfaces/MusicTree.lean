import Mathlib.Data.List.Duplicate
import Mathlib.Data.List.NodupEquivFin
import Mbv.Surfaces.TvTree

namespace Mbv.Surfaces

open List

/-! ### The settled music catalog and its cached tracks -/

inductive ArtistKey where
  | service (id : String)
  | fallback (artist : String)
deriving DecidableEq

inductive MusicTreeTarget where
  | artist (key : ArtistKey)
  | album (target : String)
  | track (album track : String)
deriving DecidableEq

structure MusicWideRenderCtx where
  items : List EmbyItem
  albumTargets : List String
  albumInfo : List (String × String × String)
  albumArtistKeys : List ArtistKey
  albumOrder : List Nat

def albumTargetsOf (items : List EmbyItem) : List String :=
  items.mapIdx fun index album =>
    if 1 < (items.map (·.id)).count album.id then album.id ++ "\x00" ++ index.repr else album.id

def MusicWideRenderCtx.new (items : List EmbyItem) (albumInfo : List (String × String × String))
    (albumArtistKeys : List ArtistKey) (albumOrder : List Nat) : MusicWideRenderCtx where
  items := items
  albumTargets := albumTargetsOf items
  albumInfo := albumInfo
  albumArtistKeys := albumArtistKeys
  albumOrder := albumOrder

structure MusicContent where
  context : MusicWideRenderCtx
  treeTracks : String → Option (List EmbyItem) := fun _ => none

structure ListedAlbum where
  index : Nat
  artist : String
  year : String
  name : String
  artistKey : ArtistKey
  target : String

def MusicWideRenderCtx.listedAlbum (context : MusicWideRenderCtx) (index : Nat) :
    Option ListedAlbum := do
  let (artist, year, name) ← context.albumInfo[index]?
  let artistKey ← context.albumArtistKeys[index]?
  let target ← context.albumTargets[index]?
  return { index, artist, year, name, artistKey, target }

def MusicWideRenderCtx.listedAlbums (context : MusicWideRenderCtx) : List ListedAlbum :=
  context.albumOrder.filterMap context.listedAlbum

/-! ### The music projection -/

def trackRowLabel (track : EmbyItem) (index : Nat) : String :=
  let number :=
    if 0 < track.indexNumber then track.indexNumber else min ((index : Int) + 1) (2 ^ 63 - 1)
  toString number ++ ". " ++ track.name

namespace MusicContent

variable (content : MusicContent)

def tracks (target : String) : List EmbyItem := (content.treeTracks target).getD []

def artistNode (album : ListedAlbum) : TreeNode MusicTreeTarget where
  target := .artist album.artistKey
  title := album.artist
  searchText := album.artist
  titleRole := .heading
  markPolicy := .aggregate
  expandable := true

def albumNode (album : ListedAlbum) : TreeNode MusicTreeTarget where
  target := .album album.target
  parent := some (.artist album.artistKey)
  title := album.name
  searchText := album.name ++ " " ++ album.year
  titleRole := .secondary
  trailing := if album.year = "" then none else some album.year
  semanticState := (content.context.items[album.index]?).elim .ordinary fun item =>
    .fromProgress false item.playbackPositionTicks item.runtimeTicks
  expandable := !(content.tracks album.target).isEmpty

def trackNodes (target : String) : List (TreeNode MusicTreeTarget) :=
  (content.tracks target).mapIdx fun index track =>
    { target := .track target track.id
      parent := some (.album target)
      title := trackRowLabel track index
      searchText := track.name
      markPolicy := .excluded }

def albumBlock (album : ListedAlbum) : List (TreeNode MusicTreeTarget) :=
  content.albumNode album :: content.trackNodes album.target

def treeProjectionFrom : List ArtistKey → List ListedAlbum → List (TreeNode MusicTreeTarget)
  | _, [] => []
  | roots, album :: albums =>
    if album.artistKey ∈ roots then content.albumBlock album ++ treeProjectionFrom roots albums
    else
      artistNode album ::
        (content.albumBlock album ++ treeProjectionFrom (album.artistKey :: roots) albums)

def treeProjection : List (TreeNode MusicTreeTarget) :=
  content.treeProjectionFrom [] content.context.listedAlbums

end MusicContent

/-! ### When the projection is a forest -/

def MusicTreeTarget.rank : MusicTreeTarget → Nat
  | .artist _ => 0
  | .album _ => 1
  | .track _ _ => 2

/-- The artists of the albums that have no root yet. -/
def newArtists : List ArtistKey → List ListedAlbum → List ArtistKey
  | _, [] => []
  | roots, album :: albums =>
    if album.artistKey ∈ roots then newArtists roots albums
    else album.artistKey :: newArtists (album.artistKey :: roots) albums

theorem newArtists_fresh {roots : List ArtistKey} {albums : List ListedAlbum} {key : ArtistKey}
    (member : key ∈ newArtists roots albums) : key ∉ roots := by
  induction albums generalizing roots with
  | nil => cases member
  | cons album albums ih =>
    unfold newArtists at member
    split at member
    · exact ih member
    · rename_i fresh
      rcases mem_cons.mp member with rfl | later
      · exact fresh
      · exact fun held => ih later (mem_cons_of_mem _ held)

theorem newArtists_nodup (roots : List ArtistKey) (albums : List ListedAlbum) : (newArtists roots albums).Nodup := by
  induction albums generalizing roots with
  | nil => exact .nil
  | cons album albums ih =>
    unfold newArtists
    split
    · exact ih roots
    · exact nodup_cons.mpr ⟨fun again => newArtists_fresh again mem_cons_self, ih _⟩

theorem mem_newArtists {roots : List ArtistKey} {albums : List ListedAlbum} {album : ListedAlbum} (member : album ∈ albums) :
    album.artistKey ∈ roots ∨ album.artistKey ∈ newArtists roots albums := by
  induction albums generalizing roots with
  | nil => cases member
  | cons first albums ih =>
    unfold newArtists
    split
    · rename_i held
      rcases mem_cons.mp member with rfl | later
      · exact .inl held
      · exact ih later
    · rcases mem_cons.mp member with rfl | later
      · exact .inr mem_cons_self
      · rcases @ih (first.artistKey :: roots) later with held | fresh
        · rcases mem_cons.mp held with same | older
          · exact .inr (same ▸ mem_cons_self)
          · exact .inl older
        · exact .inr (mem_cons_of_mem _ fresh)

section

variable (content : MusicContent)

def blockTargets (target : String) : List MusicTreeTarget :=
  .album target :: (content.tracks target).map fun track => .track target track.id

theorem albumBlock_targets (album : ListedAlbum) :
    (content.albumBlock album).map (·.target) = blockTargets content album.target := by
  rw [MusicContent.albumBlock, map_cons, blockTargets]
  congr 1
  apply ext_getElem?
  intro place
  simp only [MusicContent.trackNodes, List.getElem?_map, List.getElem?_mapIdx, Option.map_map]
  rfl

theorem treeProjectionFrom_targets (roots : List ArtistKey) (albums : List ListedAlbum) :
    ((content.treeProjectionFrom roots albums).map (·.target)).Perm ((newArtists roots albums).map .artist ++
        (albums.map (·.target)).flatMap (blockTargets content)) := by
  induction albums generalizing roots with
  | nil => exact .refl _
  | cons album albums ih =>
    have swap : ∀ artists rest : List MusicTreeTarget, (blockTargets content album.target ++ (artists ++ rest)).Perm
          (artists ++ (blockTargets content album.target ++ rest)) := by
      intro artists rest
      rw [← append_assoc, ← append_assoc]
      exact (perm_append_comm).append_right rest
    unfold MusicContent.treeProjectionFrom newArtists
    rw [map_cons, flatMap_cons]
    split
    · rw [map_append, albumBlock_targets]
      exact ((ih roots).append_left _).trans (swap _ _)
    · rw [map_cons, map_append, albumBlock_targets, map_cons, cons_append]
      exact (((ih _).append_left _).trans (swap _ _)).cons _

end

section

variable (content : MusicContent)

theorem blockTargets_nodup (target : String) :
    (blockTargets content target).Nodup ↔ ((content.tracks target).map (·.id)).Nodup := by
  have apart : MusicTreeTarget.album target ∉
      (content.tracks target).map fun track => MusicTreeTarget.track target track.id := by
    intro member
    obtain ⟨track, -, same⟩ := mem_map.mp member
    cases same
  rw [blockTargets, nodup_cons, and_iff_right apart, List.Nodup, List.Nodup, pairwise_map, pairwise_map]
  simp

theorem blockTargets_disjoint {one other : String} :
    List.Disjoint (blockTargets content one) (blockTargets content other) ↔ one ≠ other := by
  constructor
  · rintro disjoint rfl
    exact disjoint mem_cons_self mem_cons_self
  · intro apart target left right
    rcases mem_cons.mp left with rfl | left
    · rcases mem_cons.mp right with same | right
      · injection same with same
        exact apart same
      · obtain ⟨track, -, same⟩ := mem_map.mp right
        cases same
    · obtain ⟨track, -, rfl⟩ := mem_map.mp left
      rcases mem_cons.mp right with same | right
      · cases same
      · obtain ⟨track', -, same⟩ := mem_map.mp right
        injection same with same _
        exact apart same.symm

/-- The albums listed under distinct targets, none with a cached track twice. -/
def DistinctRows (content : MusicContent) : Prop :=
  (content.context.listedAlbums.map (·.target)).Nodup ∧
    ∀ album ∈ content.context.listedAlbums, ((content.tracks album.target).map (·.id)).Nodup

theorem treeProjection_nodup : (content.treeProjection.map (·.target)).Nodup ↔ DistinctRows content := by
  have perm := treeProjectionFrom_targets content [] content.context.listedAlbums
  have artists : ((newArtists [] content.context.listedAlbums).map MusicTreeTarget.artist).Nodup :=
    (newArtists_nodup _ _).map fun _ _ same => MusicTreeTarget.artist.inj same
  have apart : List.Disjoint ((newArtists [] content.context.listedAlbums).map
      MusicTreeTarget.artist) ((content.context.listedAlbums.map (·.target)).flatMap (blockTargets content)) := by
    intro target left right
    obtain ⟨key, -, rfl⟩ := mem_map.mp left
    obtain ⟨album, -, inside⟩ := mem_flatMap.mp right
    simp [blockTargets] at inside
  rw [MusicContent.treeProjection, perm.nodup_iff, nodup_append', and_iff_right artists,
    and_iff_left apart, nodup_flatMap, DistinctRows, and_comm]
  refine and_congr ?_ ?_
  · exact ⟨fun pairs => pairs.imp fun disjoint => (blockTargets_disjoint content).mp disjoint,
      fun pairs => pairs.imp fun apart => (blockTargets_disjoint content).mpr apart⟩
  · rw [forall_mem_map]
    exact forall₂_congr fun album _ => blockTargets_nodup content album.target

theorem mem_treeProjectionFrom {roots : List ArtistKey} {albums : List ListedAlbum}
    {node : TreeNode MusicTreeTarget} (member : node ∈ content.treeProjectionFrom roots albums) :
    node.parent = none ∨ ∃ album ∈ albums, node ∈ content.albumBlock album := by
  induction albums generalizing roots with
  | nil => cases member
  | cons album albums ih =>
    have later : ∀ {roots : List ArtistKey}, node ∈ content.treeProjectionFrom roots albums →
        node.parent = none ∨ ∃ album' ∈ album :: albums, node ∈ content.albumBlock album' := by
      intro roots below
      rcases ih below with root | ⟨album', listed, inside⟩
      · exact .inl root
      · exact .inr ⟨album', mem_cons_of_mem _ listed, inside⟩
    unfold MusicContent.treeProjectionFrom at member
    split at member
    · rcases mem_append.mp member with here | below
      · exact .inr ⟨album, mem_cons_self, here⟩
      · exact later below
    · rcases mem_cons.mp member with rfl | member
      · exact .inl rfl
      · rcases mem_append.mp member with here | below
        · exact .inr ⟨album, mem_cons_self, here⟩
        · exact later below

theorem treeProjection_parented {node : TreeNode MusicTreeTarget}
    (member : node ∈ content.treeProjection) {parent : MusicTreeTarget}
    (parented : node.parent = some parent) :
    parent ∈ content.treeProjection.map (·.target) ∧ parent.rank < node.target.rank := by
  have perm := treeProjectionFrom_targets content [] content.context.listedAlbums
  rw [MusicContent.treeProjection] at member ⊢
  rw [perm.mem_iff]
  rcases mem_treeProjectionFrom content member with root | ⟨album, listed, inside⟩
  · rw [root] at parented
    cases parented
  · rcases mem_cons.mp inside with rfl | below
    · injection parented with same
      subst same
      refine ⟨mem_append_left _ (mem_map_of_mem ?_), Nat.zero_lt_one⟩
      rcases @mem_newArtists [] _ _ listed with held | fresh
      · cases held
      · exact fresh
    · obtain ⟨index, inside', rfl⟩ := mem_mapIdx.mp below
      injection parented with same
      subst same
      refine ⟨mem_append_right _ (mem_flatMap.mpr ⟨album.target, ?_, mem_cons_self⟩), Nat.one_lt_two⟩
      exact mem_map_of_mem listed

theorem treeProjection_isForest : IsForest content.treeProjection ↔ DistinctRows content := by
  rw [← treeProjection_nodup]
  constructor
  · exact fun isForest => isForest.distinct
  · exact fun distinct => isForest_of_rank MusicTreeTarget.rank distinct
      fun node member parent parented => treeProjection_parented content member parented

end

/-! ### The targets of a settled catalog -/

theorem not_single_twice {l : List String} {x : String} {i j : Nat} (before : i < j)
    (here : l[i]? = some x) (there : l[j]? = some x) : 1 < l.count x := by
  obtain ⟨inside, rfl⟩ := List.getElem?_eq_some_iff.mp here
  obtain ⟨inside', same⟩ := List.getElem?_eq_some_iff.mp there
  apply duplicate_iff_two_le_count.mp
  exact duplicate_iff_exists_distinct_get.mpr ⟨⟨i, inside⟩, ⟨j, inside'⟩, before, rfl, same.symm⟩

theorem placed_injective {one other : String} {i j : Nat} (plain : '\x00' ∉ one.toList) (plain' : '\x00' ∉ other.toList)
    (same : one ++ "\x00" ++ i.repr = other ++ "\x00" ++ j.repr) : i = j := by
  have chars := congrArg String.toList same
  simp only [String.toList_append, append_assoc] at chars
  exact Framed.repr_injective (String.toList_injective (Delimited.record_unique plain plain' chars).2)

theorem placed_ne {one other : String} (plain : '\x00' ∉ other.toList) (place : String) : one ++ "\x00" ++ place ≠ other := by
  rintro rfl
  exact plain (by simp)

theorem albumTargetsOf_nodup {items : List EmbyItem}
    (plain : ∀ item ∈ items, '\x00' ∉ item.id.toList) : (albumTargetsOf items).Nodup := by
  rw [nodup_iff_getElem?_ne_getElem?]
  intro i j before inside same
  rw [albumTargetsOf, length_mapIdx] at inside
  have here := List.getElem?_eq_getElem (Nat.lt_trans before inside)
  have there := List.getElem?_eq_getElem inside
  generalize items[i] = one at here
  generalize items[j] = other at there
  have plainOne := plain one (mem_of_getElem? here)
  have plainOther := plain other (mem_of_getElem? there)
  simp only [albumTargetsOf, List.getElem?_mapIdx, here, there, Option.map_some, Option.some.injEq] at same
  split at same
  · split at same
    · exact absurd (placed_injective plainOne plainOther same) (by omega)
    · exact placed_ne plainOther _ same
  · split at same
    · exact placed_ne plainOne _ same.symm
    · rename_i single _
      apply single
      apply not_single_twice before
      · rw [List.getElem?_map, here, Option.map_some]
      · rw [List.getElem?_map, there, Option.map_some, same]

theorem listedAlbum_target {context : MusicWideRenderCtx} {index : Nat} {album : ListedAlbum}
    (listed : context.listedAlbum index = some album) :
    context.albumTargets[index]? = some album.target := by
  simp only [MusicWideRenderCtx.listedAlbum, Option.bind_eq_bind, Option.bind_eq_some_iff] at listed
  obtain ⟨info, -, key, -, target, found, same⟩ := listed
  injection same with same
  rw [found, ← same]

theorem listedAlbums_nodup {context : MusicWideRenderCtx} (targets : context.albumTargets.Nodup)
    (order : context.albumOrder.Nodup) : (context.listedAlbums.map (·.target)).Nodup := by
  rw [MusicWideRenderCtx.listedAlbums, map_filterMap]
  apply order.filterMap
  intro one other target here there
  obtain ⟨album, listed, rfl⟩ := Option.map_eq_some_iff.mp here
  obtain ⟨album', listed', same⟩ := Option.map_eq_some_iff.mp there
  have found := listedAlbum_target listed
  have found' := listedAlbum_target listed'
  rw [same] at found'
  have inside := (List.getElem?_eq_some_iff.mp found).1
  exact (List.getElem?_inj inside targets).mp (found.trans found'.symm)

/-- Every TV projection is reconciled, its show targets resolve to their shows, and a show alone
    with its id keeps its target; a music projection is reconciled exactly when its albums are
    listed under distinct targets, as a catalog of plain ids lists them, and none of them has a
    cached track twice. -/
theorem tree_projections_reconciled (fuzzyMatch : String → String → Option Int)
    (tv : TreeBrowser TvTreeTarget) (music : TreeBrowser MusicTreeTarget) :
    (∀ context, (tv.reconcile fuzzyMatch (tvTreeProjection context)).2 = .ok ()) ∧
      (∀ items, ∀ pair ∈ showTargets items, resolveShowTarget items pair.1 = some pair.2) ∧
      (∀ items others : List EmbyItem, ∀ item, item ∈ items → item ∈ others →
        (items.map (·.id)).count item.id = 1 → (others.map (·.id)).count item.id = 1 →
        ∃ target, (target, item) ∈ showTargets items ∧ (target, item) ∈ showTargets others) ∧
      (∀ content : MusicContent,
        (music.reconcile fuzzyMatch (content.treeProjection.map .node)).2 = .ok () ↔
          DistinctRows content) ∧
      ∀ items albumInfo albumArtistKeys albumOrder,
        (∀ item ∈ items, '\x00' ∉ item.id.toList) → albumOrder.Nodup →
        ((MusicWideRenderCtx.new items albumInfo albumArtistKeys albumOrder).listedAlbums.map
          (·.target)).Nodup := by
  refine ⟨fun context => ?_, fun items pair member => resolveShowTarget_member member,
    fun items others item here there single single' => ?_, fun content => ?_, ?_⟩
  · exact (reconcile_ok tv fuzzyMatch _).mpr (tvTreeProjection_isForest context)
  · exact ⟨_, showTargets_single here single, showTargets_single there single'⟩
  · rw [reconcile_ok, projectNodes_nodes]
    exact treeProjection_isForest content
  · intro items albumInfo albumArtistKeys albumOrder plain order
    exact listedAlbums_nodup (albumTargetsOf_nodup plain) order

def repeatedTrack : MusicContent where
  context := .new [{ id := "album", name := "Album" }] [("Artist", "", "Album")]
    [.fallback "Artist"] [0]
  treeTracks target :=
    if target = "album" then some [{ id := "track", name := "One" }, { id := "track", name := "Two" }]
    else none

/-- A track listed twice keeps its whole catalog out of the tree. -/
theorem repeatedTrack_refused :
    ((({} : TreeBrowser MusicTreeTarget).reconcile (fun _ _ => none)
      (repeatedTrack.treeProjection.map .node)).2 =
        .error (.duplicateTarget (.track "album" "track"))) := by
  decide

end Mbv.Surfaces
