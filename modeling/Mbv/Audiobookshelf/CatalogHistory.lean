import Mbv.Audiobookshelf.CatalogRefresh
import Mbv.Machine.Run

namespace Mbv.Audiobookshelf

/-- A browse state that refines the catalog: both siblings are instances, and every result below is
    about any. -/
structure Browse (State Row Op : Type) where
  kind : RowKind Row
  initial : State
  catalog : State → Catalog Row
  scope : State → Scope
  fetched : State → Shell → Nat → Except String (Page Row) → State × Option Nat
  beginCatalogReplacement : State → State
  operate : State → Shell → Op → State × Option Nat
  initial_catalog : catalog initial = {}
  fetched_catalog : ∀ state shell request result,
    (catalog (fetched state shell request result).1, (fetched state shell request result).2) =
      (catalog state).fetched kind request result
  fetched_superseded : ∀ state shell request result, (catalog state).catalogRequest ≠ request →
    fetched state shell request result = (state, none)
  fetched_scope : ∀ state shell request result,
    let next := (fetched state shell request result).1
    if ((catalog state).commits kind request result).isSome then
      (scope next).Names kind (catalog next).toListing
    else (scope state).Retires (scope next)
  begin_catalog : ∀ state,
    catalog (beginCatalogReplacement state) = (catalog state).beginCatalogReplacement
  begin_scope : ∀ state, scope (beginCatalogReplacement state) = scope state
  operate_catalog : ∀ state shell op,
    (catalog state).Operates (scope state) (catalog (operate state shell op).1)
      (scope (operate state shell op).1) (operate state shell op).2

def podcastBrowse (toLowercase : String → String) :
    Browse AudiobookshelfBrowseState AudiobookshelfShow PodcastOp where
  kind := showKind toLowercase
  initial := {}
  catalog := AudiobookshelfBrowseState.toCatalog
  scope := AudiobookshelfBrowseState.scope
  fetched state := state.handleAudiobookshelfShowsFetched toLowercase
  beginCatalogReplacement := AudiobookshelfBrowseState.beginCatalogReplacement
  operate state := state.operate toLowercase
  initial_catalog := rfl
  fetched_catalog _ _ _ _ := AudiobookshelfBrowseState.handleAudiobookshelfShowsFetched_catalog
  fetched_superseded _ _ _ _ superseded := if_pos superseded
  fetched_scope _ _ _ _ := AudiobookshelfBrowseState.handleAudiobookshelfShowsFetched_scope
  begin_catalog _ := rfl
  begin_scope _ := rfl
  operate_catalog _ _ _ := AudiobookshelfBrowseState.operate_catalog

def bookBrowse (toLowercase : String → String) :
    Browse AudiobookshelfBookBrowseState AudiobookshelfBook BookOp where
  kind := bookKind toLowercase
  initial := {}
  catalog := AudiobookshelfBookBrowseState.toCatalog
  scope _ := {}
  fetched state := state.handleAudiobookshelfBooksFetched toLowercase
  beginCatalogReplacement := AudiobookshelfBookBrowseState.beginCatalogReplacement
  operate state := state.operate toLowercase
  initial_catalog := rfl
  fetched_catalog _ _ _ _ := AudiobookshelfBookBrowseState.handleAudiobookshelfBooksFetched_catalog
  fetched_superseded _ _ _ _ superseded := if_pos superseded
  fetched_scope _ _ _ _ := by
    dsimp only
    split
    · exact Scope.names_empty
    · exact Scope.Retires.refl
  begin_catalog _ := rfl
  begin_scope _ := rfl
  operate_catalog _ _ _ := AudiobookshelfBookBrowseState.operate_catalog

/-- Anything that can reach a browse state: a page result or a failure of any serial, a replacement
    begun at any moment, and a user's action. -/
inductive BrowseEvent (Row Op : Type) where
  | fetched (request : Nat) (result : Except String (Page Row))
  | beginCatalogReplacement
  | operate (op : Op)

namespace Browse

variable {State Row Op : Type} (browse : Browse State Row Op)

def step (state : State) (shell : Shell) : BrowseEvent Row Op → State × Option Nat
  | .fetched request result => browse.fetched state shell request result
  | .beginCatalogReplacement => (browse.beginCatalogReplacement state, none)
  | .operate op => browse.operate state shell op

def machine : Machine State (Shell × BrowseEvent Row Op) where
  step state event := (browse.step state event.1 event.2).1

def View (state next : State) : Prop :=
  (browse.catalog next).rows = (browse.catalog state).rows ∧
  (browse.catalog next).selectedId = (browse.catalog state).selectedId ∧
  (browse.scope next).committedShowPill = (browse.scope state).committedShowPill ∧
  (browse.scope next).selectedEpisode = (browse.scope state).selectedEpisode

/-- A traversal that never got a page, or not as many rows as were announced. -/
def Unfinished (listing : Listing Row) : Prop :=
  listing.nextPage = 0 ∨ listing.rows.length < listing.total

def Complete (listing : Listing Row) : Prop :=
  listing.loadingPages = ∅ ∧ listing.total ≤ listing.rows.length

def Reconciled (next : State) : Prop :=
  ((∃ row ∈ (browse.catalog next).rows, (browse.catalog next).selectedId = some (browse.kind.id row)) ∨
    (browse.catalog next).rows = []) ∧
  (browse.scope next).Names browse.kind (browse.catalog next).toListing

/-- What one step promises: the list is a sorted one of distinct entries, what the user sees changes
    by the selections, by a page of the current chain or by a complete replacement only, and each
    result is taken as its chain stands. -/
structure Promise (state : State) (shell : Shell) (event : BrowseEvent Row Op) : Prop where
  distinct : ((browse.catalog (browse.step state shell event).1).rows.map browse.kind.id).Nodup
  sorted : (browse.catalog (browse.step state shell event).1).rows.Pairwise fun left right =>
    browse.kind.before left right = true
  changes :
    browse.View state (browse.step state shell event).1 ∨
    (∃ op, event = .operate op ∧ (browse.step state shell event).2 = none ∧
      (browse.catalog (browse.step state shell event).1).rows = (browse.catalog state).rows) ∨
    ∃ page, event = .fetched (browse.catalog state).catalogRequest (.ok page) ∧
      (browse.catalog (browse.step state shell event).1).replacement = none
  superseded : ∀ request result, event = .fetched request result →
    (browse.catalog state).catalogRequest ≠ request → browse.step state shell event = (state, none)
  completed : ∀ page staged, event = .fetched (browse.catalog state).catalogRequest (.ok page) →
    (browse.catalog state).replacement = some staged →
    (browse.catalog (browse.step state shell event).1).replacement = none →
    Complete (browse.catalog (browse.step state shell event).1).toListing
  reconciled : ∀ page staged, event = .fetched (browse.catalog state).catalogRequest (.ok page) →
    (browse.catalog state).replacement = some staged →
    (browse.catalog (browse.step state shell event).1).replacement = none →
    browse.Reconciled (browse.step state shell event).1
  failed : ∀ error, event = .fetched (browse.catalog state).catalogRequest (.error error) →
    (browse.catalog state).replacement.isSome →
    browse.View state (browse.step state shell event).1 ∧
    (browse.catalog (browse.step state shell event).1).toListing = (browse.catalog state).toListing ∧
    (browse.catalog (browse.step state shell event).1).replacement = none ∧
    (Unfinished (browse.catalog state).toListing →
      (browse.step state shell event).2 = some (browse.catalog state).nextPage)

/-- The first page result of a replacement is that of its first page, and no replacement fails before
    the published list has got a page. -/
def InTurn (state : State) : BrowseEvent Row Op → Prop
  | .fetched request (.ok page) => (browse.catalog state).catalogRequest = request →
      ∀ staged, (browse.catalog state).replacement = some staged →
        0 ∈ staged.loadingPages → page.page = 0
  | .fetched request (.error _) => (browse.catalog state).catalogRequest = request →
      (browse.catalog state).replacement.isSome → (browse.catalog state).nextPage ≠ 0
  | .beginCatalogReplacement => True
  | .operate _ => True

end Browse

/-! ### What every catalog keeps -/

theorem Listing.sorted_sortRows {Row : Type} {kind : RowKind Row} {listing : Listing Row} :
    (listing.sortRows kind).rows.Pairwise fun left right => kind.before left right = true := by
  refine List.pairwise_mergeSort ?_ ?_ listing.rows
  · intro left middle right first second
    simp only [RowKind.before, decide_eq_true_eq] at first second ⊢
    exact le_trans first second
  · intro left right
    simp only [RowKind.before, Bool.or_eq_true, decide_eq_true_eq]
    exact le_total _ _

theorem Listing.ids_sortRows {Row : Type} {kind : RowKind Row} {listing : Listing Row} :
    ((listing.sortRows kind).rows.map kind.id).Perm (listing.rows.map kind.id) :=
  (List.mergeSort_perm listing.rows kind.before).map kind.id

theorem Listing.nodup_land {Row : Type} {kind : RowKind Row} {listing : Listing Row}
    {page : Page Row} (nodup : (listing.rows.map kind.id).Nodup) :
    ((listing.land kind page).rows.map kind.id).Nodup := by
  unfold land
  rw [ids_sortRows.nodup_iff]
  exact Gathering.nodup_gather nodup

namespace Catalog

variable {Row : Type} {kind : RowKind Row} {catalog next : Catalog Row}

structure Sound (kind : RowKind Row) (catalog : Catalog Row) : Prop where
  distinct : (catalog.rows.map kind.id).Nodup
  sorted : catalog.rows.Pairwise fun left right => kind.before left right = true
  unloaded : catalog.nextPage = 0 → catalog.total = 0
  staged : ∀ staged, catalog.replacement = some staged →
    (staged.rows.map kind.id).Nodup ∧ staged.loadingPages ⊆ {0} ∧ catalog.loadingPages = ∅

theorem sound_empty : Sound kind {} := ⟨List.nodup_nil, List.Pairwise.nil, fun _ => rfl, by simp⟩

theorem Sound.selects (sound : Sound kind catalog) (selects : next.Selects catalog) : Sound kind next := by
  obtain ⟨selected, rfl⟩ := selects
  exact ⟨sound.distinct, sound.sorted, sound.unloaded, sound.staged⟩

theorem Sound.begin (sound : Sound kind catalog) : Sound kind catalog.beginCatalogReplacement where
  distinct := sound.distinct
  sorted := sound.sorted
  unloaded := sound.unloaded
  staged staged begun := by
    cases begun
    exact ⟨List.nodup_nil, subset_rfl, rfl⟩

theorem Sound.refreshed (sound : Sound kind catalog) : Sound kind catalog.refreshed :=
  Sound.begin ⟨sound.distinct, sound.sorted, sound.unloaded, sound.staged⟩

theorem Sound.failPage (sound : Sound kind catalog) {error : String} : Sound kind (catalog.failPage error).1 :=
  ⟨sound.distinct, sound.sorted, sound.unloaded, fun _ none => by cases none⟩

theorem Sound.publish (sound : Sound kind catalog) {staged : CatalogReplacement Row}
    {page : Page Row} (pending : catalog.replacement = some staged) :
    Sound kind (catalog.publish kind (staged.land kind page)) where
  distinct := by
    rw [publish_listing, Listing.ids_sortRows.nodup_iff]
    exact Listing.nodup_land (sound.staged staged pending).1
  sorted := Listing.sorted_sortRows
  unloaded none := absurd none (Nat.ne_of_gt (Nat.lt_of_lt_of_le (Nat.succ_pos page.page) (le_max_right _ _)))
  staged := by simp

theorem Sound.applyPage (sound : Sound kind catalog) {page : Page Row} : Sound kind (catalog.applyPage kind page).1 := by
  unfold Catalog.applyPage
  split
  · rename_i idle
    obtain ⟨selected, appended⟩ := @appendPage_eq _ kind catalog page
    dsimp only
    rw [appended]
    refine ⟨Listing.nodup_land sound.distinct, Listing.sorted_sortRows, ?_, ?_⟩
    · intro none
      exact absurd none (Nat.ne_of_gt (Nat.lt_of_lt_of_le (Nat.succ_pos page.page) (le_max_right _ _)))
    · intro staged pending
      simp [idle] at pending
  · rename_i staged pending
    split
    · obtain ⟨nodup, loading, cleared⟩ := sound.staged staged pending
      refine ⟨sound.distinct, sound.sorted, sound.unloaded, ?_⟩
      intro next landed
      cases landed
      exact ⟨Listing.nodup_land nodup, (Finset.erase_subset _ _).trans loading, cleared⟩
    · exact sound.publish pending

theorem Sound.fetched (sound : Sound kind catalog) {request : Nat}
    {result : Except String (Page Row)} : Sound kind (catalog.fetched kind request result).1 := by
  unfold Catalog.fetched
  split
  · exact sound
  · cases result with
    | ok page => exact sound.applyPage
    | error error => exact sound.failPage

end Catalog

/-! ### One step -/

namespace Browse

variable {State Row Op : Type} {browse : Browse State Row Op} {state : State} {shell : Shell}

variable {result : Except String (Page Row)} {request : Nat}

theorem catalog_fetched : browse.catalog (browse.fetched state shell request result).1 =
      ((browse.catalog state).fetched browse.kind request result).1 :=
  congrArg Prod.fst (browse.fetched_catalog state shell request result)

theorem asks_fetched : (browse.fetched state shell request result).2 =
      ((browse.catalog state).fetched browse.kind request result).2 :=
  congrArg Prod.snd (browse.fetched_catalog state shell request result)

theorem scope_retires (stays : (browse.catalog state).commits browse.kind request result = none) :
    (browse.scope state).Retires (browse.scope (browse.fetched state shell request result).1) := by
  have kept := browse.fetched_scope state shell request result
  dsimp only at kept
  rwa [stays, if_neg (by simp)] at kept

theorem view_of_retires {next : State} (rows : (browse.catalog next).rows = (browse.catalog state).rows)
    (selected : (browse.catalog next).selectedId = (browse.catalog state).selectedId)
    (retires : (browse.scope state).Retires (browse.scope next)) : browse.View state next :=
  ⟨rows, selected, retires.committedShowPill, retires.selectedEpisode⟩

theorem step_sound {event : BrowseEvent Row Op} (sound : (browse.catalog state).Sound browse.kind) :
    (browse.catalog (browse.step state shell event).1).Sound browse.kind := by
  cases event with
  | fetched request result =>
    unfold step
    dsimp only
    rw [catalog_fetched]
    exact sound.fetched
  | beginCatalogReplacement =>
    unfold step
    dsimp only
    rw [browse.begin_catalog]
    exact sound.begin
  | operate op =>
    have operates := browse.operate_catalog state shell op
    unfold step
    dsimp only
    cases asked : (browse.operate state shell op).2 with
    | none =>
      rw [asked] at operates
      cases operates with
      | selects selects => exact sound.selects selects
    | some page =>
      rw [asked] at operates
      cases operates with
      | refreshes idle refreshed pill episode =>
        rw [refreshed]
        exact sound.refreshed

theorem promise_superseded (sound : (browse.catalog state).Sound browse.kind)
    (superseded : (browse.catalog state).catalogRequest ≠ request) :
    browse.Promise state shell (.fetched request result) := by
  have stays : browse.step state shell (.fetched request result) = (state, none) :=
    browse.fetched_superseded state shell request result superseded
  have after := @step_sound _ _ _ browse state shell (.fetched request result) sound
  refine ⟨after.distinct, after.sorted, ?_, ?_, ?_, ?_, ?_⟩
  · rw [stays]
    exact .inl ⟨rfl, rfl, rfl, rfl⟩
  · intro request result _ _
    exact stays
  · intro page staged same
    cases same
    exact absurd rfl superseded
  · intro page staged same
    cases same
    exact absurd rfl superseded
  · intro error same
    cases same
    exact absurd rfl superseded

theorem promise_begin (sound : (browse.catalog state).Sound browse.kind) :
    browse.Promise state shell .beginCatalogReplacement := by
  have after := @step_sound _ _ _ browse state shell .beginCatalogReplacement sound
  refine ⟨after.distinct, after.sorted, .inl ?_, by simp, by simp, by simp, by simp⟩
  unfold View step
  dsimp only
  rw [browse.begin_catalog, browse.begin_scope]
  exact ⟨rfl, rfl, rfl, rfl⟩

theorem promise_operate {op : Op} (sound : (browse.catalog state).Sound browse.kind) :
    browse.Promise state shell (.operate op) := by
  have after := @step_sound _ _ _ browse state shell (.operate op) sound
  refine ⟨after.distinct, after.sorted, ?_, by simp, by simp, by simp, by simp⟩
  have operates := browse.operate_catalog state shell op
  unfold step
  dsimp only
  cases asked : (browse.operate state shell op).2 with
  | none =>
    rw [asked] at operates
    cases operates with
    | selects selects =>
      obtain ⟨selected, moved⟩ := selects
      exact .inr (.inl ⟨op, rfl, rfl, by rw [moved]⟩)
  | some page =>
    rw [asked] at operates
    cases operates with
    | refreshes idle refreshed pill episode =>
      exact .inl ⟨by rw [refreshed]; rfl, by rw [refreshed]; rfl, pill, episode⟩

theorem promise_error_iff {error : String} (sound : (browse.catalog state).Sound browse.kind) :
    browse.Promise state shell (.fetched (browse.catalog state).catalogRequest (.error error)) ↔
      ((browse.catalog state).replacement.isSome → (browse.catalog state).nextPage ≠ 0) := by
  have reached : browse.catalog (browse.fetched state shell (browse.catalog state).catalogRequest
      (.error error)).1 = ((browse.catalog state).failPage error).1 := by
    rw [catalog_fetched]
    simp [Catalog.fetched]
  have asks : (browse.fetched state shell (browse.catalog state).catalogRequest (.error error)).2 =
      ((browse.catalog state).failPage error).2 := by
    rw [asks_fetched]
    simp [Catalog.fetched]
  have view : browse.View state (browse.fetched state shell (browse.catalog state).catalogRequest (.error error)).1 :=
    view_of_retires (by rw [reached]; rfl) (by rw [reached]; rfl) (scope_retires rfl)
  constructor
  · intro promise pending unloaded
    obtain ⟨-, -, -, resumed⟩ := promise.failed error rfl pending
    have none := sound.unloaded unloaded
    have asked := resumed (.inl unloaded)
    unfold step at asked
    rw [asks] at asked
    simp [Catalog.failPage, Catalog.needsPage, Listing.needsPage, none] at asked
  · intro loaded
    have after := @step_sound _ _ _ browse state shell (.fetched (browse.catalog state).catalogRequest (.error error)) sound
    refine ⟨after.distinct, after.sorted, .inl view, ?_, fun _ _ same => (by cases same), fun _ _ same => (by cases same), ?_⟩
    · intro request result same superseded
      cases same
      exact absurd rfl superseded
    · intro error' same pending
      unfold step
      dsimp only
      refine ⟨view, by rw [reached]; rfl, by rw [reached]; rfl, ?_⟩
      intro unfinished
      have short := unfinished.resolve_left (loaded pending)
      obtain ⟨staged, held⟩ := Option.isSome_iff_exists.mp pending
      rw [asks]
      simp [Catalog.failPage, Catalog.needsPage, Listing.needsPage, pending, short, (sound.staged staged held).2.2]

theorem promise_idle {page : Page Row} (sound : (browse.catalog state).Sound browse.kind)
    (idle : (browse.catalog state).replacement = none) :
    browse.Promise state shell (.fetched (browse.catalog state).catalogRequest (.ok page)) := by
  have after := @step_sound _ _ _ browse state shell (.fetched (browse.catalog state).catalogRequest (.ok page)) sound
  refine ⟨after.distinct, after.sorted, .inr (.inr ⟨page, rfl, ?_⟩), ?_, ?_, ?_, by simp⟩
  · unfold step
    dsimp only
    rw [catalog_fetched]
    obtain ⟨selected, appended⟩ := @Catalog.appendPage_eq _ browse.kind (browse.catalog state) page
    simp [Catalog.fetched, Catalog.applyPage, idle, appended]
  · intro request result same superseded
    cases same
    exact absurd rfl superseded
  · intro page staged _ pending
    rw [idle] at pending
    cases pending
  · intro page staged _ pending
    rw [idle] at pending
    cases pending

theorem promise_staging {page : Page Row} {staged : CatalogReplacement Row} {next : Nat}
    (sound : (browse.catalog state).Sound browse.kind)
    (pending : (browse.catalog state).replacement = some staged)
    (needs : (staged.land browse.kind page).needsPage = some next) :
    browse.Promise state shell (.fetched (browse.catalog state).catalogRequest (.ok page)) := by
  have reached : browse.catalog (browse.fetched state shell (browse.catalog state).catalogRequest (.ok page)).1 =
      { browse.catalog state with replacement := some (staged.land browse.kind page) } := by
    rw [catalog_fetched]
    simp [Catalog.fetched, Catalog.applyPage, pending, needs]
  have stays : (browse.catalog state).commits browse.kind (browse.catalog state).catalogRequest (.ok page) = none := by
    have landed : (staged.toListing.land browse.kind page).needsPage = some next := needs
    simp [Catalog.commits, pending, landed]
  have after := @step_sound _ _ _ browse state shell (.fetched (browse.catalog state).catalogRequest (.ok page)) sound
  refine ⟨after.distinct, after.sorted, .inl ?_, ?_, ?_, ?_, fun _ same => by cases same⟩
  · exact view_of_retires (by unfold step; rw [reached]) (by unfold step; rw [reached]) (scope_retires stays)
  · intro request result same superseded
    cases same
    exact absurd rfl superseded
  · intro page' staged' same _ committed
    cases same
    unfold step at committed
    rw [reached] at committed
    cases committed
  · intro page' staged' same _ committed
    cases same
    unfold step at committed
    rw [reached] at committed
    cases committed

theorem promise_commit_iff {page : Page Row} {staged : CatalogReplacement Row} (sound : (browse.catalog state).Sound browse.kind)
    (pending : (browse.catalog state).replacement = some staged)
    (done : (staged.land browse.kind page).needsPage = none) :
    browse.Promise state shell (.fetched (browse.catalog state).catalogRequest (.ok page)) ↔
      staged.loadingPages.erase page.page = ∅ := by
  have reached : browse.catalog (browse.fetched state shell (browse.catalog state).catalogRequest
      (.ok page)).1 = (browse.catalog state).publish browse.kind (staged.land browse.kind page) := by
    rw [catalog_fetched]
    simp [Catalog.fetched, Catalog.applyPage, pending, done]
  have landed : (staged.toListing.land browse.kind page).needsPage = none := done
  have committed : (browse.catalog state).commits browse.kind (browse.catalog state).catalogRequest
      (.ok page) = some (staged.toListing.land browse.kind page) := by
    simp [Catalog.commits, pending, landed]
  constructor
  · intro promise
    have complete := promise.completed page staged rfl pending (by unfold step; rw [reached]; rfl)
    unfold step at complete
    rw [reached] at complete
    exact complete.1
  · intro cleared
    have after := @step_sound _ _ _ browse state shell (.fetched (browse.catalog state).catalogRequest (.ok page)) sound
    refine ⟨after.distinct, after.sorted, .inr (.inr ⟨page, rfl, ?_⟩), ?_, ?_, ?_, fun _ same => by cases same⟩
    · unfold step
      dsimp only
      rw [reached]
      rfl
    · intro request result same superseded
      cases same
      exact absurd rfl superseded
    · intro page' staged' same _ _
      cases same
      unfold step
      dsimp only
      rw [reached]
      refine ⟨cleared, ?_⟩
      simp only [CatalogReplacement.land, Listing.needsPage, Listing.land_loadingPages, cleared,
        and_true, ite_eq_right_iff, reduceCtorEq, imp_false, not_lt] at done
      have rows := @Listing.length_sortRows _ browse.kind (staged.land browse.kind page).toListing
      exact done.trans (le_of_eq rows.symm)
    · intro page' staged' same _ _
      cases same
      have kept := browse.fetched_scope state shell (browse.catalog state).catalogRequest (.ok page)
      dsimp only at kept
      rw [committed, if_pos (by simp)] at kept
      unfold step
      refine ⟨?_, kept⟩
      dsimp only
      rw [reached]
      rcases @Catalog.publish_selected _ browse.kind (browse.catalog state) (staged.land browse.kind page) with named | empty
      · exact .inl named
      · exact .inr empty.1

theorem promise_iff {event : BrowseEvent Row Op} (sound : (browse.catalog state).Sound browse.kind) :
    browse.Promise state shell event ↔ browse.InTurn state event := by
  cases event with
  | beginCatalogReplacement => exact iff_of_true (promise_begin sound) trivial
  | operate op => exact iff_of_true (promise_operate sound) trivial
  | fetched request result =>
    by_cases current : (browse.catalog state).catalogRequest = request
    · subst current
      cases result with
      | error error =>
        rw [promise_error_iff sound]
        exact ⟨fun loaded _ => loaded, fun loaded => loaded rfl⟩
      | ok page =>
        cases pending : (browse.catalog state).replacement with
        | none =>
          refine iff_of_true (promise_idle sound pending) ?_
          intro _ staged held
          rw [pending] at held
          cases held
        | some staged =>
          have inTurn_iff : browse.InTurn state (.fetched (browse.catalog state).catalogRequest (.ok page)) ↔
                staged.loadingPages.erase page.page = ∅ := by
            have loading := (sound.staged staged pending).2.1
            simp only [InTurn, pending, Option.some.injEq, forall_eq', true_implies]
            constructor
            · intro inTurn
              rw [Finset.erase_eq_empty_iff]
              by_cases first : 0 ∈ staged.loadingPages
              · rw [inTurn first]
                exact .inr (subset_antisymm loading (by simpa using first))
              · refine .inl (Finset.eq_empty_of_forall_notMem fun place member => ?_)
                have zero := Finset.mem_singleton.mp (loading member)
                exact first (zero ▸ member)
            · intro cleared first
              by_contra other
              have left := Finset.mem_erase.mpr ⟨Ne.symm other, first⟩
              rw [cleared] at left
              exact absurd left (Finset.notMem_empty 0)
          rw [inTurn_iff]
          cases needs : (staged.land browse.kind page).needsPage with
          | none => exact promise_commit_iff sound pending needs
          | some next =>
            refine iff_of_true (promise_staging sound pending needs) ?_
            by_contra other
            simp [CatalogReplacement.land, Listing.needsPage, other] at needs
    · refine iff_of_true (promise_superseded sound current) ?_
      cases result <;> exact fun same => absurd same current

theorem promises_iff (events : List (Shell × BrowseEvent Row Op)) :
    browse.machine.Along (fun state event => browse.Promise state event.1 event.2) browse.initial events ↔
      browse.machine.Along (fun state event => browse.InTurn state event.2) browse.initial events := by
  have start : (browse.catalog browse.initial).Sound browse.kind := by
    rw [browse.initial_catalog]
    exact Catalog.sound_empty
  have keep : ∀ state (event : Shell × BrowseEvent Row Op),
      (browse.catalog state).Sound browse.kind → browse.InTurn state event.2 →
      (browse.catalog (browse.machine.step state event)).Sound browse.kind :=
    fun _ _ sound _ => step_sound sound
  exact Machine.along_iff keep (fun _ _ sound => promise_iff sound) start

end Browse

end Mbv.Audiobookshelf
