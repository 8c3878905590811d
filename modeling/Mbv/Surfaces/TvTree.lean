import Mathlib.Data.List.Perm.Basic
import Mbv.Sequence.Framed
import Mbv.Sequence.Occurrences
import Mbv.Surfaces.TreeForest

namespace Mbv.Surfaces

open List

/-! ### What a row says of an item -/

structure EmbyItem where
  id : String
  name : String
  itemType : String := ""
  mediaType : String := ""
  seriesName : String := ""
  sortName : String := ""
  indexNumber : Int := 0
  played : Bool := false
  playbackPositionTicks : Int := 0
  runtimeTicks : Int := 0

def EmbyItem.displayName (item : EmbyItem) : String :=
  if item.itemType = "Episode" ∧ item.seriesName ≠ "" then item.seriesName ++ " " ++ item.name
  else item.name

def EmbyItem.isAudio (item : EmbyItem) : Bool :=
  item.mediaType = "Audio" || item.itemType = "Audio"

def EmbyItem.isMusic (item : EmbyItem) : Bool :=
  item.itemType = "MusicAlbum" || item.itemType = "MusicArtist" || item.isAudio

namespace MediaSemanticState

def fromProgress (played : Bool) (positionTicks runtimeTicks : Int) : MediaSemanticState :=
  if 0 < positionTicks then
    .active (if 0 < runtimeTicks then
      some ⟨min (positionTicks.toNat * 100 / runtimeTicks.toNat) 100, by omega⟩ else none)
  else if played then .played
  else .ordinary

def fromEmby (item : EmbyItem) : MediaSemanticState :=
  if item.isMusic then .ordinary
  else fromProgress item.played item.playbackPositionTicks item.runtimeTicks

end MediaSemanticState

/-! ### Sort keys and letter buckets -/

/-- Without its leading article, whatever the article's case. -/
def stripArticle (s : String) : String :=
  match ["the ", "a ", "an "].find? fun article =>
    (s.toList.take article.length).map Char.toLower = article.toList with
  | some article => String.ofList (s.toList.drop article.length)
  | none => s

def effectiveSortStr (item : EmbyItem) : String :=
  if item.sortName = "" then stripArticle item.name else item.sortName

def padDigits (digits : List Char) : List Char :=
  if digits.isEmpty then [] else List.replicate (8 - digits.length) '0' ++ digits

def naturalSortKeyFrom (digits : List Char) : List Char → List Char
  | [] => padDigits digits
  | c :: rest =>
    if c.isDigit then naturalSortKeyFrom (digits ++ [c]) rest
    else padDigits digits ++ c.toLower :: naturalSortKeyFrom [] rest

def naturalSortKey (s : String) : String := String.ofList (naturalSortKeyFrom [] s.toList)

def letterBucketLabel (key : String) (total : Nat) : String :=
  match key.toList.head? with
  | none => "#"
  | some c =>
    let first := c.toUpper
    if !first.isAlpha then "#"
    else if 250 ≤ total then String.singleton first
    else if first ≤ 'C' then "A–C"
    else if first ≤ 'F' then "D–F"
    else if first ≤ 'I' then "G–I"
    else if first ≤ 'L' then "J–L"
    else if first ≤ 'O' then "M–O"
    else if first ≤ 'R' then "P–R"
    else if first ≤ 'U' then "S–U"
    else "V–Z"

def letterBucket (item : EmbyItem) (total : Nat) : String :=
  letterBucketLabel (effectiveSortStr item) total

/-! ### Shows and their targets -/

inductive TvTreeTarget where
  | «show» (showId : String)
  | season (showId season : String) (occurrence : Nat)
  | episode (showId season : String) (seasonOccurrence : Nat) (episode : String) (occurrence : Nat)
deriving DecidableEq

def stableShowTarget (item : EmbyItem) (duplicateId : Bool) (occurrence : Nat) : String :=
  let base :=
    if item.id = "" then "tv-name:" ++ Framed.frame item.name
    else if duplicateId then "tv-id:" ++ Framed.frame item.id ++ ":" ++ Framed.frame item.name
    else "tv-id:" ++ Framed.frame item.id
  if occurrence = 0 then base else base ++ ":" ++ occurrence.repr

def sortedShows (items : List EmbyItem) : List EmbyItem :=
  items.mergeSort fun one other =>
    naturalSortKey (effectiveSortStr one) ≤ naturalSortKey (effectiveSortStr other)

def duplicateId (items : List EmbyItem) (item : EmbyItem) : Bool :=
  1 < (items.map (·.id)).count item.id

/-- The shows in natural order, each with the target it keeps among those of its own id. -/
def showTargets (items : List EmbyItem) : List (String × EmbyItem) :=
  let shows := sortedShows items
  (Occurrences.number (fun item => stableShowTarget item (duplicateId shows item) 0) shows).map
    fun numbered =>
      (stableShowTarget numbered.1 (duplicateId shows numbered.1) numbered.2, numbered.1)

def resolveShowTarget (items : List EmbyItem) (showTarget : String) : Option EmbyItem :=
  ((showTargets items).find? fun pair => pair.1 = showTarget).map (·.2)

/-! ### The TV projection -/

structure SeriesDetail where
  seasons : List EmbyItem
  episodes : String → Option (List EmbyItem)

structure TvWideRenderCtx where
  items : List EmbyItem
  totalCount : Nat := 0
  libraryTotal : Option Nat := none
  hasLetterFilter : Bool := false
  selectedSeries : Option EmbyItem := none
  seriesDetail : Option SeriesDetail := none
  seriesDetails : String → Option SeriesDetail := fun _ => none
  showLetterPills : Bool := false

namespace TvWideRenderCtx

variable (context : TvWideRenderCtx)

def trueTotal : Nat := context.libraryTotal.getD context.totalCount

def grouped : Bool :=
  context.showLetterPills || context.hasLetterFilter || 50 ≤ context.trueTotal

def bucketTotal : Nat := if context.hasLetterFilter then 2 ^ 64 - 1 else context.trueTotal

def detailForProjection (item : EmbyItem) : Option SeriesDetail :=
  (context.seriesDetails item.id).or
    ((context.selectedSeries.filter fun selected =>
      selected.id = item.id && selected.name = item.name).bind fun _ => context.seriesDetail)

end TvWideRenderCtx

def episodeNodes (showId : String) (season : EmbyItem) (seasonOccurrence : Nat)
    (seasonTarget : TvTreeTarget) (episodes : List EmbyItem) : List (TreeNode TvTreeTarget) :=
  (Occurrences.number (·.id) episodes).mapIdx fun index numbered =>
    let number := if 0 < numbered.1.indexNumber then numbered.1.indexNumber else (index : Int) + 1
    { target := .episode showId season.id seasonOccurrence numbered.1.id numbered.2
      parent := some seasonTarget
      title := toString number ++ ". " ++ numbered.1.name
      searchText := numbered.1.name
      semanticState := .fromEmby numbered.1 }

def seasonBlock (showId : String) (detail : SeriesDetail) (numbered : EmbyItem × Nat) :
    List (TreeNode TvTreeTarget) :=
  let episodes := detail.episodes numbered.1.id
  { target := .season showId numbered.1.id numbered.2
    parent := some (.«show» showId)
    title := numbered.1.displayName
    searchText := numbered.1.name
    semanticState := .fromEmby numbered.1
    expandable := episodes.all fun episodes => !episodes.isEmpty } ::
    episodeNodes showId numbered.1 numbered.2 (.season showId numbered.1.id numbered.2)
      (episodes.getD [])

def seasonNodes (showId : String) (detail : SeriesDetail) : List (TreeNode TvTreeTarget) :=
  (Occurrences.number (·.id) detail.seasons).flatMap (seasonBlock showId detail)

def showNodes (context : TvWideRenderCtx) (pair : String × EmbyItem) :
    List (TreeNode TvTreeTarget) :=
  let detail := context.detailForProjection pair.2
  { target := .«show» pair.1
    title := pair.2.displayName
    searchText := effectiveSortStr pair.2
    semanticState := .fromEmby pair.2
    expandable := detail.all fun detail => !detail.seasons.isEmpty } ::
    detail.elim [] (seasonNodes pair.1)

/-- The heading a new bucket opens, behind a spacer unless it is the first. -/
def bucketHeading (previousBucket : Option String) (bucket : String) :
    List (TreeEntry TvTreeTarget) :=
  if previousBucket = some bucket then []
  else (if previousBucket.isSome then [.spacer] else []) ++ [.heading bucket]

def projectShows (context : TvWideRenderCtx) :
    Option String → List (String × EmbyItem) → List (TreeEntry TvTreeTarget)
  | _, [] => []
  | previousBucket, pair :: shows =>
    if context.grouped then
      let bucket := letterBucket pair.2 context.bucketTotal
      bucketHeading previousBucket bucket ++ (showNodes context pair).map .node ++
        projectShows context (some bucket) shows
    else (showNodes context pair).map .node ++ projectShows context previousBucket shows

def tvTreeProjection (context : TvWideRenderCtx) : List (TreeEntry TvTreeTarget) :=
  projectShows context none (showTargets context.items)

/-! ### Each show under a target of its own -/

def occurrenceSuffix (occurrence : Nat) : String :=
  if occurrence = 0 then "" else ":" ++ occurrence.repr

theorem stableShowTarget_eq (item : EmbyItem) (duplicate : Bool) (occurrence : Nat) :
    stableShowTarget item duplicate occurrence = stableShowTarget item duplicate 0 ++ occurrenceSuffix occurrence := by
  unfold stableShowTarget occurrenceSuffix
  dsimp only
  rw [if_pos rfl]
  by_cases first : occurrence = 0
  · rw [if_pos first, if_pos first, String.append_empty]
  · rw [if_neg first, if_neg first, String.append_assoc]

theorem occurrenceSuffix_injective {m n : Nat} (same : occurrenceSuffix m = occurrenceSuffix n) : m = n := by
  have written : ∀ k : Nat, k ≠ 0 → occurrenceSuffix k = ":" ++ k.repr := fun k later => if_neg later
  have colon : ∀ k : Nat, k ≠ 0 → occurrenceSuffix k ≠ "" := by
    intro k later empty
    rw [written k later] at empty
    exact absurd (congrArg String.length empty) (by simp)
  by_cases left : m = 0
  · by_cases right : n = 0
    · rw [left, right]
    · exact absurd (same.symm.trans (if_pos left)) (colon n right)
  · by_cases right : n = 0
    · exact absurd (same.trans (if_pos right)) (colon m left)
    · rw [written m left, written n right] at same
      exact Framed.repr_injective ((String.append_right_inj ":").mp same)

theorem base_named {item : EmbyItem} (unnamed : item.id = "") (duplicate : Bool) :
    stableShowTarget item duplicate 0 = "tv-name:" ++ Framed.frame item.name := by
  unfold stableShowTarget
  dsimp only
  rw [if_pos rfl, if_pos unnamed]

theorem base_identified {item : EmbyItem} (identified : item.id ≠ "") (duplicate : Bool) :
    stableShowTarget item duplicate 0 = "tv-id:" ++ (Framed.frame item.id ++
      if duplicate then ":" ++ Framed.frame item.name else "") := by
  unfold stableShowTarget
  dsimp only
  rw [if_pos rfl, if_neg identified]
  cases duplicate
  · rw [if_neg Bool.false_ne_true, if_neg Bool.false_ne_true, String.append_empty]
  · rw [if_pos rfl, if_pos rfl, String.append_assoc, String.append_assoc]

theorem name_ne_id (one other : String) : "tv-name:" ++ one ≠ "tv-id:" ++ other := by
  intro same
  have chars := congrArg String.toList same
  rw [String.toList_append, String.toList_append] at chars
  exact absurd (congrArg (fun l => l[3]?) chars) (by simp)

theorem stableShowTarget_injective {one other : EmbyItem} {here there : Bool} {m n : Nat}
    (marked : one.id = other.id → here = there)
    (same : stableShowTarget one here m = stableShowTarget other there n) :
    one.id = other.id ∧ stableShowTarget one here 0 = stableShowTarget other there 0 ∧ m = n := by
  rw [stableShowTarget_eq one, stableShowTarget_eq other] at same
  by_cases unnamed : one.id = ""
  · by_cases unnamed' : other.id = ""
    · rw [base_named unnamed, base_named unnamed'] at same ⊢
      simp only [String.append_assoc, String.append_right_inj] at same
      obtain ⟨name, suffix⟩ := Framed.frame_append_inj same
      exact ⟨unnamed.trans unnamed'.symm, by rw [name], occurrenceSuffix_injective suffix⟩
    · rw [base_named unnamed, base_identified unnamed'] at same
      simp only [String.append_assoc] at same
      exact absurd same (name_ne_id _ _)
  · by_cases unnamed' : other.id = ""
    · rw [base_identified unnamed, base_named unnamed'] at same
      simp only [String.append_assoc] at same
      exact absurd same.symm (name_ne_id _ _)
    · rw [base_identified unnamed, base_identified unnamed'] at same ⊢
      simp only [String.append_assoc, String.append_right_inj] at same
      obtain ⟨id, rest⟩ := Framed.frame_append_inj same
      obtain rfl := marked id
      cases here with
      | false =>
        simp only [Bool.false_eq_true, if_false, String.empty_append] at rest ⊢
        exact ⟨id, by rw [id], occurrenceSuffix_injective rest⟩
      | true =>
        simp only [if_true, String.append_assoc, String.append_right_inj] at rest ⊢
        obtain ⟨name, suffix⟩ := Framed.frame_append_inj rest
        exact ⟨id, by rw [id, name], occurrenceSuffix_injective suffix⟩

theorem duplicateId_congr (items : List EmbyItem) {one other : EmbyItem} (same : one.id = other.id) :
    duplicateId items one = duplicateId items other := by
  rw [duplicateId, duplicateId, same]

theorem showTargets_nodup (items : List EmbyItem) : ((showTargets items).map Prod.fst).Nodup := by
  have distinct := Occurrences.number_nodup (fun item =>
    stableShowTarget item (duplicateId (sortedShows items) item) 0) (sortedShows items)
  rw [List.Nodup, pairwise_map] at distinct
  rw [showTargets, map_map, List.Nodup, pairwise_map]
  apply distinct.imp
  intro one other apart same
  obtain ⟨-, base, occurrence⟩ := stableShowTarget_injective (duplicateId_congr _) same
  exact apart (Prod.ext base occurrence)

theorem resolveShowTarget_member {items : List EmbyItem} {pair : String × EmbyItem}
    (member : pair ∈ showTargets items) : resolveShowTarget items pair.1 = some pair.2 := by
  unfold resolveShowTarget
  cases found : (showTargets items).find? fun other => decide (other.1 = pair.1) with
  | none => exact absurd (List.find?_eq_none.mp found pair member) (by simp)
  | some other =>
    have there := mem_of_find?_eq_some found
    have same : other.1 = pair.1 := by simpa using List.find?_some found
    rw [inj_on_of_nodup_map (showTargets_nodup items) there member same, Option.map_some]

theorem sortedShows_perm (items : List EmbyItem) : (sortedShows items).Perm items := mergeSort_perm items _

theorem showTargets_single {items : List EmbyItem} {item : EmbyItem} (member : item ∈ items)
    (single : (items.map (·.id)).count item.id = 1) :
    (stableShowTarget item false 0, item) ∈ showTargets items := by
  have perm := sortedShows_perm items
  have counted : ((sortedShows items).map (·.id)).count item.id = 1 := by
    rw [(perm.map _).count_eq, single]
  have unrepeated : duplicateId (sortedShows items) item = false := by
    rw [duplicateId, counted]
    rfl
  generalize shows : sortedShows items = sorted at *
  have here : item ∈ sorted := perm.mem_iff.mpr member
  have alone : (sorted.map fun other => stableShowTarget other (duplicateId sorted other) 0).count
      (stableShowTarget item (duplicateId sorted item) 0) = 1 := by
    apply Nat.le_antisymm
    · rw [← counted, count_eq_countP, count_eq_countP, countP_map, countP_map]
      apply countP_mono_left
      intro other _ same
      have base := (stableShowTarget_injective (duplicateId_congr sorted) (beq_iff_eq.mp same)).1
      exact beq_iff_eq.mpr base
    · exact count_pos_iff.mpr (mem_map_of_mem here)
  have numbered := @Occurrences.number_of_single _ _ _
    (fun other => stableShowTarget other (duplicateId sorted other) 0) sorted item here alone
  rw [showTargets, shows]
  refine mem_map.mpr ⟨(item, 0), numbered, ?_⟩
  rw [unrepeated]

/-! ### The projection is a forest -/

theorem isForest_of_rank {Target : Type*} {nodes : List (TreeNode Target)} (rank : Target → Nat)
    (distinct : (nodes.map (·.target)).Nodup)
    (parented : ∀ node ∈ nodes, ∀ parent, node.parent = some parent →
      parent ∈ nodes.map (·.target) ∧ rank parent < rank node.target) : IsForest nodes where
  distinct := distinct
  projected := by
    rintro target parent ⟨node, member, -, named⟩
    exact (parented node member parent named).1
  acyclic := by
    have falls : ∀ target parent, Relation.TransGen (Declares nodes) target parent → rank parent < rank target := by
      intro target parent chain
      induction chain with
      | single declared =>
        obtain ⟨node, member, rfl, named⟩ := declared
        exact (parented node member _ named).2
      | tail _ declared ih =>
        obtain ⟨node, member, rfl, named⟩ := declared
        exact Nat.lt_trans (parented node member _ named).2 ih
    intro target chain
    exact Nat.lt_irrefl _ (falls target target chain)

theorem projectNodes_append {Target : Type*} (first second : List (TreeEntry Target)) :
    TreeBrowser.projectNodes (first ++ second) = TreeBrowser.projectNodes first ++ TreeBrowser.projectNodes second :=
  filterMap_append

theorem projectNodes_nodes {Target : Type*} (nodes : List (TreeNode Target)) :
    TreeBrowser.projectNodes (nodes.map .node) = nodes := by
  unfold TreeBrowser.projectNodes
  rw [filterMap_map]
  exact filterMap_some

theorem projectNodes_heading (previousBucket : Option String) (bucket : String) :
    TreeBrowser.projectNodes (bucketHeading previousBucket bucket) = [] := by
  unfold bucketHeading
  split
  · rfl
  · split <;> rfl

theorem projectNodes_shows (context : TvWideRenderCtx) (previousBucket : Option String) (shows : List (String × EmbyItem)) :
    TreeBrowser.projectNodes (projectShows context previousBucket shows) = shows.flatMap (showNodes context) := by
  induction shows generalizing previousBucket with
  | nil => rfl
  | cons pair shows ih =>
    rw [projectShows, flatMap_cons]
    dsimp only
    split
    · rw [projectNodes_append, projectNodes_append, projectNodes_heading, projectNodes_nodes, ih, nil_append]
    · rw [projectNodes_append, projectNodes_nodes, ih]

namespace TvTreeTarget

def showOf : TvTreeTarget → String
  | .«show» showId | .season showId _ _ | .episode showId _ _ _ _ => showId

def seasonOf : TvTreeTarget → Option (String × Nat)
  | .«show» _ => none
  | .season _ id occurrence | .episode _ id occurrence _ _ => some (id, occurrence)

def rank : TvTreeTarget → Nat
  | .«show» _ => 0
  | .season _ _ _ => 1
  | .episode _ _ _ _ _ => 2

end TvTreeTarget

section

variable {showId : String} {season : EmbyItem} {seasonOccurrence : Nat}
  {seasonTarget : TvTreeTarget} {episodes : List EmbyItem} {detail : SeriesDetail}

theorem episodeNodes_targets : (episodeNodes showId season seasonOccurrence seasonTarget episodes).map (·.target) =
      (Occurrences.number (·.id) episodes).map fun numbered =>
        .episode showId season.id seasonOccurrence numbered.1.id numbered.2 := by
  apply ext_getElem?
  intro place
  simp only [episodeNodes, List.getElem?_map, List.getElem?_mapIdx, Option.map_map]
  rfl

theorem episodeNodes_parent {node : TreeNode TvTreeTarget}
    (member : node ∈ episodeNodes showId season seasonOccurrence seasonTarget episodes) :
    node.parent = some seasonTarget ∧ ∃ id occurrence,
      node.target = .episode showId season.id seasonOccurrence id occurrence := by
  obtain ⟨index, inside, rfl⟩ := mem_mapIdx.mp member
  exact ⟨rfl, _, _, rfl⟩

theorem episodeNodes_nodup : ((episodeNodes showId season seasonOccurrence seasonTarget episodes).map (·.target)).Nodup := by
  have distinct := Occurrences.number_nodup (fun episode : EmbyItem => episode.id) episodes
  rw [List.Nodup, pairwise_map] at distinct
  rw [episodeNodes_targets, List.Nodup, pairwise_map]
  apply distinct.imp
  intro one other apart same
  injection same with _ _ _ id occurrence
  exact apart (Prod.ext id occurrence)

end

section

variable {showId : String} {detail : SeriesDetail}

theorem seasonBlock_nodup (numbered : EmbyItem × Nat) : ((seasonBlock showId detail numbered).map (·.target)).Nodup := by
  rw [seasonBlock, map_cons, nodup_cons]
  refine ⟨fun member => ?_, episodeNodes_nodup⟩
  obtain ⟨node, inside, same⟩ := mem_map.mp member
  obtain ⟨-, id, occurrence, named⟩ := episodeNodes_parent inside
  rw [named] at same
  cases same

theorem seasonBlock_marks {numbered : EmbyItem × Nat} {target : TvTreeTarget}
    (member : target ∈ (seasonBlock showId detail numbered).map (·.target)) :
    target.showOf = showId ∧ target.seasonOf = some (numbered.1.id, numbered.2) := by
  rw [seasonBlock, map_cons] at member
  rcases mem_cons.mp member with rfl | below
  · exact ⟨rfl, rfl⟩
  · obtain ⟨node, inside, rfl⟩ := mem_map.mp below
    obtain ⟨-, id, occurrence, named⟩ := episodeNodes_parent inside
    rw [named]
    exact ⟨rfl, rfl⟩

theorem seasonNodes_targets : (seasonNodes showId detail).map (·.target) =
    (Occurrences.number (·.id) detail.seasons).flatMap fun numbered =>
      (seasonBlock showId detail numbered).map (·.target) :=
  map_flatMap

theorem seasonNodes_nodup : ((seasonNodes showId detail).map (·.target)).Nodup := by
  have distinct := Occurrences.number_nodup (fun season : EmbyItem => season.id) detail.seasons
  have marked : ((Occurrences.number (fun season : EmbyItem => season.id) detail.seasons).map
      fun numbered => some (numbered.1.id, numbered.2)).Nodup := by
    have lifted := distinct.map (Option.some_injective _)
    rw [map_map] at lifted
    exact lifted
  rw [seasonNodes_targets]
  exact Occurrences.nodup_flatMap_of_mark marked (fun numbered _ => seasonBlock_nodup numbered)
    fun numbered _ target member => (seasonBlock_marks member).2

theorem seasonNodes_marks {target : TvTreeTarget} (member : target ∈ (seasonNodes showId detail).map (·.target)) :
    target.showOf = showId ∧ target.seasonOf.isSome = true := by
  rw [seasonNodes_targets] at member
  obtain ⟨numbered, -, inside⟩ := mem_flatMap.mp member
  obtain ⟨shown, season⟩ := seasonBlock_marks inside
  exact ⟨shown, by rw [season]; rfl⟩

theorem seasonNodes_parent {node : TreeNode TvTreeTarget} (member : node ∈ seasonNodes showId detail) :
    ∃ parent, node.parent = some parent ∧ parent.rank < node.target.rank ∧
      (parent = .«show» showId ∨ parent ∈ (seasonNodes showId detail).map (·.target)) := by
  obtain ⟨numbered, counted, inside⟩ := mem_flatMap.mp member
  rw [seasonBlock] at inside
  rcases mem_cons.mp inside with rfl | below
  · exact ⟨_, rfl, Nat.zero_lt_one, .inl rfl⟩
  · obtain ⟨named, id, occurrence, target⟩ := episodeNodes_parent below
    refine ⟨_, named, ?_, .inr ?_⟩
    · rw [target]
      exact Nat.one_lt_two
    · rw [seasonNodes_targets]
      exact mem_flatMap.mpr ⟨numbered, counted, mem_cons_self⟩

end

section

variable {context : TvWideRenderCtx} {pair : String × EmbyItem}

theorem showNodes_below {node : TreeNode TvTreeTarget} (member : node ∈ showNodes context pair) :
    (node.target = .«show» pair.1 ∧ node.parent = none) ∨ ∃ detail, context.detailForProjection pair.2 = some detail ∧
        node ∈ seasonNodes pair.1 detail := by
  unfold showNodes at member
  cases loaded : context.detailForProjection pair.2 with
  | none =>
    rw [loaded] at member
    rw [mem_singleton.mp member]
    exact .inl ⟨rfl, rfl⟩
  | some detail =>
    rw [loaded] at member
    rcases mem_cons.mp member with rfl | below
    · exact .inl ⟨rfl, rfl⟩
    · exact .inr ⟨detail, rfl, below⟩

theorem showNodes_nodup : ((showNodes context pair).map (·.target)).Nodup := by
  unfold showNodes
  cases context.detailForProjection pair.2 with
  | none => exact nodup_singleton _
  | some detail =>
    dsimp only [Option.elim_some]
    rw [map_cons, nodup_cons]
    refine ⟨fun member => ?_, seasonNodes_nodup⟩
    have season := (seasonNodes_marks member).2
    cases season

theorem showNodes_marks {target : TvTreeTarget}
    (member : target ∈ (showNodes context pair).map (·.target)) : target.showOf = pair.1 := by
  obtain ⟨node, inside, rfl⟩ := mem_map.mp member
  rcases showNodes_below inside with ⟨root, -⟩ | ⟨detail, -, below⟩
  · rw [root]
    rfl
  · exact (seasonNodes_marks (mem_map_of_mem below)).1

theorem showNodes_parent {node : TreeNode TvTreeTarget} (member : node ∈ showNodes context pair)
    {parent : TvTreeTarget} (parented : node.parent = some parent) :
    parent ∈ (showNodes context pair).map (·.target) ∧ parent.rank < node.target.rank := by
  rcases showNodes_below member with ⟨-, root⟩ | ⟨detail, loaded, below⟩
  · rw [root] at parented
    cases parented
  · obtain ⟨found, named, falls, place⟩ := seasonNodes_parent below
    obtain rfl := Option.some.inj (named.symm.trans parented)
    refine ⟨?_, falls⟩
    unfold showNodes
    rw [loaded, map_cons]
    rcases place with rfl | beside
    · exact mem_cons_self
    · exact mem_cons_of_mem _ beside

end

theorem tvTreeProjection_isForest (context : TvWideRenderCtx) :
    IsForest (TreeBrowser.projectNodes (tvTreeProjection context)) := by
  rw [tvTreeProjection, projectNodes_shows]
  apply isForest_of_rank TvTreeTarget.rank
  · rw [map_flatMap]
    exact Occurrences.nodup_flatMap_of_mark (showTargets_nodup context.items)
      (fun pair _ => showNodes_nodup) fun pair _ target member => showNodes_marks member
  · intro node member parent parented
    obtain ⟨pair, listed, inside⟩ := mem_flatMap.mp member
    obtain ⟨there, falls⟩ := showNodes_parent inside parented
    refine ⟨?_, falls⟩
    rw [map_flatMap]
    exact mem_flatMap.mpr ⟨pair, listed, there⟩

section

variable {Target : Type*} [DecidableEq Target]

theorem reconcile_ok (browser : TreeBrowser Target) (fuzzyMatch : String → String → Option Int)
    (entries : List (TreeEntry Target)) :
    (browser.reconcile fuzzyMatch entries).2 = .ok () ↔ IsForest (TreeBrowser.projectNodes entries) := by
  rw [← validateForest_ok]
  unfold TreeBrowser.reconcile
  dsimp only
  cases validateForest (TreeBrowser.projectNodes entries) with
  | error error => exact Iff.rfl.trans ⟨fun wrong => (by cases wrong), fun wrong => (by cases wrong)⟩
  | ok accepted =>
    dsimp only
    split <;> simp

end

end Mbv.Surfaces
