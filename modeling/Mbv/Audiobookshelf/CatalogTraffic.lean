import Mbv.Audiobookshelf.CatalogHistory

namespace Mbv.Audiobookshelf

open List

/-- One page request: the serial it was issued under, and whether it was asked for the replacement or
    for the published list. Serial and list together name a chain. -/
structure Request where
  serial : Nat
  staged : Bool
  page : Nat
deriving DecidableEq

structure Traffic (State : Type) where
  state : State
  waiting : List Request
  asked : List Request

inductive TrafficEvent (Row Op : Type) where
  | answered (request : Request) (page : Page Row)
  | failed (request : Request) (error : String)
  | operate (op : Op)

def Catalog.asking {Row : Type} (catalog : Catalog Row) (asks : Option Nat) : List Request :=
  (asks.map fun page => ⟨catalog.catalogRequest, catalog.replacement.isSome, page⟩).toList

namespace Browse

variable {State Row Op : Type} (browse : Browse State Row Op)

def launched : Traffic State :=
  ⟨browse.initial, [⟨0, false, 0⟩], [⟨0, false, 0⟩]⟩

def settle (traffic : Traffic State) (waiting : List Request) (after : State × Option Nat) :
    Traffic State :=
  { state := after.1
    waiting := waiting ++ (browse.catalog after.1).asking after.2
    asked := traffic.asked ++ (browse.catalog after.1).asking after.2 }

def resolve (traffic : Traffic State) (shell : Shell) (request : Request)
    (result : Except String (Page Row)) : Traffic State :=
  if request ∈ traffic.waiting then
    browse.settle traffic (traffic.waiting.erase request)
      (browse.fetched traffic.state shell request.serial result)
  else traffic

def serve (traffic : Traffic State) (shell : Shell) : TrafficEvent Row Op → Traffic State
  | .answered request page => browse.resolve traffic shell request (.ok page)
  | .failed request error => browse.resolve traffic shell request (.error error)
  | .operate op => browse.settle traffic traffic.waiting (browse.operate traffic.state shell op)

def traffic : Machine (Traffic State) (Shell × TrafficEvent Row Op) where
  step traffic event := browse.serve traffic event.1 event.2

/-- A server whose answers name the page they were asked for and are empty from `bound` on. -/
def Served (bound : Nat) : TrafficEvent Row Op → Prop
  | .answered request page => page.page = request.page ∧ (bound ≤ page.page → page.items = [])
  | .failed _ _ => True
  | .operate _ => True

def loading (state : State) : Listing Row :=
  match (browse.catalog state).replacement with
  | some staged => staged.toListing
  | none => (browse.catalog state).toListing

/-- An empty page of the current chain announces no more rows than the chain has listed. -/
def Honest (traffic : Traffic State) : TrafficEvent Row Op → Prop
  | .answered request page => (browse.catalog traffic.state).catalogRequest = request.serial →
      page.items = [] → page.total ≤ (browse.loading traffic.state).rows.length
  | .failed _ _ => True
  | .operate _ => True

/-- What a chain of requests promises: no request is made twice, a chain makes at most one more than
    the server has pages for, and a replacement is pending only while an answer to it is. -/
structure Ends (bound : Nat) (traffic : Traffic State) : Prop where
  once : traffic.asked.Nodup
  finite : ∀ serial staged,
    (traffic.asked.filter fun request => request.serial == serial && request.staged == staged).length ≤
      bound + 1
  pending : (browse.catalog traffic.state).replacement.isSome →
    ∃ request ∈ traffic.waiting,
      request.serial = (browse.catalog traffic.state).catalogRequest ∧ request.staged = true

end Browse

/-! ### The chains -/

namespace Catalog

variable {Row : Type} {kind : RowKind Row} {catalog next : Catalog Row} {bound : Nat}
  {waiting asked : List Request}

/-- The request whose answer the catalog is waiting for, if it waits for any. -/
def current (catalog : Catalog Row) : Request :=
  match catalog.replacement with
  | some staged => ⟨catalog.catalogRequest, true, staged.nextPage⟩
  | none => ⟨catalog.catalogRequest, false, catalog.nextPage⟩

theorem current_staged : catalog.current.staged = catalog.replacement.isSome := by
  unfold current
  cases catalog.replacement <;> rfl

theorem current_serial : catalog.current.serial = catalog.catalogRequest := by
  unfold current
  cases catalog.replacement <;> rfl

/-- The requests made and awaited are those of a traversal that goes up page by page. -/
structure Orderly (bound : Nat) (catalog : Catalog Row) (waiting asked : List Request) : Prop where
  serials : catalog.nextCatalogRequest = catalog.catalogRequest
  cleared : catalog.loadingPages = ∅
  short : catalog.rows.length < catalog.total → catalog.nextPage ≤ bound
  marks : ∀ staged, catalog.replacement = some staged →
    staged.loadingPages = if staged.nextPage = 0 then {0} else ∅
  asked_serial : ∀ request ∈ asked, request.serial ≤ catalog.catalogRequest
  asked_page : ∀ request ∈ asked, request.page ≤ bound
  asked_nodup : asked.Nodup
  asked_chain : ∀ request ∈ asked, request.serial = catalog.catalogRequest →
    (catalog.replacement.isSome → request.staged = true) ∧
    (request.staged = catalog.current.staged → request.page ≤ catalog.current.page)
  waiting_asked : ∀ request ∈ waiting, request ∈ asked
  waiting_nodup : waiting.Nodup
  waiting_current : ∀ request ∈ waiting, request.serial = catalog.catalogRequest →
    request = catalog.current
  awaited : catalog.replacement.isSome → catalog.current ∈ waiting

theorem orderly_launched : ({} : Catalog Row).Orderly bound [⟨0, false, 0⟩] [⟨0, false, 0⟩] where
  serials := rfl
  cleared := rfl
  short := by simp
  marks := by simp
  asked_serial := by simp
  asked_page := by simp
  asked_nodup := nodup_singleton _
  asked_chain := by simp [current]
  waiting_asked _ member := member
  waiting_nodup := nodup_singleton _
  waiting_current := by simp [current]
  awaited := by simp

theorem Orderly.ignore (orderly : catalog.Orderly bound waiting asked) {request : Request}
    (superseded : catalog.catalogRequest ≠ request.serial) :
    catalog.Orderly bound (waiting.erase request) asked :=
  { orderly with
    waiting_asked := fun other member => orderly.waiting_asked other (mem_of_mem_erase member)
    waiting_nodup := orderly.waiting_nodup.erase request
    waiting_current := fun other member =>
      orderly.waiting_current other (mem_of_mem_erase member)
    awaited := fun pending => by
      have other : catalog.current ≠ request := fun same => superseded (same ▸ current_serial.symm)
      exact (mem_erase_of_ne other).mpr (orderly.awaited pending) }

theorem Orderly.resolve (orderly : catalog.Orderly bound waiting asked) {asks : Option Nat}
    {request : Request} (member : request ∈ waiting) (ours : request.serial = catalog.catalogRequest)
    (serial : next.catalogRequest = catalog.catalogRequest)
    (serials : next.nextCatalogRequest = catalog.nextCatalogRequest)
    (cleared : next.loadingPages = ∅)
    (short : next.rows.length < next.total → next.nextPage ≤ bound)
    (marks : ∀ staged, next.replacement = some staged →
      staged.loadingPages = if staged.nextPage = 0 then {0} else ∅)
    (chain : ∀ request ∈ asked, request.serial = catalog.catalogRequest →
      (next.replacement.isSome → request.staged = true) ∧
      (request.staged = next.current.staged → request.page ≤ next.current.page))
    (asked_next : ∀ page, asks = some page →
      page = next.current.page ∧ page ≤ bound ∧ next.current ∉ asked)
    (awaits : next.replacement.isSome → asks.isSome) :
    next.Orderly bound (waiting.erase request ++ next.asking asks) (asked ++ next.asking asks) := by
  have gone : ∀ other ∈ waiting.erase request, other.serial ≠ catalog.catalogRequest := by
    intro other left same
    have both := orderly.waiting_current other (mem_of_mem_erase left) same
    rw [← orderly.waiting_current request member ours] at both
    exact orderly.waiting_nodup.not_mem_erase (both ▸ left)
  have new : ∀ other ∈ next.asking asks, other = next.current ∧ other.page ≤ bound ∧ other ∉ asked := by
    intro other made
    unfold asking at made
    cases asks with
    | none => simp at made
    | some page =>
      obtain ⟨isPage, within, fresh⟩ := asked_next page rfl
      have same : other = next.current := by
        have listed : other = ⟨next.catalogRequest, next.replacement.isSome, page⟩ := by simpa using made
        rw [listed, isPage]
        unfold current
        cases next.replacement <;> rfl
      exact ⟨same, by rw [same, ← isPage]; exact within, same ▸ fresh⟩
  have single : (next.asking asks).Nodup := by
    unfold asking
    cases asks <;> simp
  have apart : ∀ other ∈ next.asking asks, other.serial = catalog.catalogRequest := by
    intro other made
    rw [(new other made).1, current_serial, serial]
  refine
    { serials := by rw [serials, serial, orderly.serials]
      cleared := cleared
      short := short
      marks := marks
      asked_serial := ?_
      asked_page := ?_
      asked_nodup := ?_
      asked_chain := ?_
      waiting_asked := ?_
      waiting_nodup := ?_
      waiting_current := ?_
      awaited := ?_ }
  · intro other listed
    rcases mem_append.mp listed with before | made
    · exact serial ▸ orderly.asked_serial other before
    · exact le_of_eq ((apart other made).trans serial.symm)
  · intro other listed
    rcases mem_append.mp listed with before | made
    · exact orderly.asked_page other before
    · exact (new other made).2.1
  · rw [nodup_append]
    refine ⟨orderly.asked_nodup, single, ?_⟩
    intro other before made isMade same
    exact (new made isMade).2.2 (same ▸ before)
  · intro other listed same
    rcases mem_append.mp listed with before | made
    · exact chain other before (same.trans serial)
    · rw [(new other made).1]
      exact ⟨fun pending => by rw [current_staged, pending], fun _ => le_rfl⟩
  · intro other listed
    rcases mem_append.mp listed with left | made
    · exact mem_append_left _ (orderly.waiting_asked other (mem_of_mem_erase left))
    · exact mem_append_right _ made
  · rw [nodup_append]
    refine ⟨orderly.waiting_nodup.erase request, single, ?_⟩
    intro other left made isMade same
    exact gone other left (same ▸ apart made isMade)
  · intro other listed same
    rcases mem_append.mp listed with left | made
    · exact absurd (same.trans serial) (gone other left)
    · exact (new other made).1
  · intro pending
    obtain ⟨page, asksPage⟩ := Option.isSome_iff_exists.mp (awaits pending)
    have made : next.asking asks ≠ [] := by simp [asking, asksPage]
    obtain ⟨other, listed⟩ := exists_mem_of_ne_nil _ made
    exact mem_append_right _ ((new other listed).1 ▸ listed)

theorem needsPage_cleared {listing : Listing Row} (cleared : listing.loadingPages = ∅) : listing.needsPage =
      if listing.rows.length < listing.total then some listing.nextPage else none := by
  simp [Listing.needsPage, cleared]

theorem short_land {listing : Listing Row} {page : Page Row} (turn : page.page = listing.nextPage)
    (served : bound ≤ page.page → page.items = [])
    (honest : page.items = [] → page.total ≤ listing.rows.length)
    (short : (listing.land kind page).rows.length < (listing.land kind page).total) :
    (listing.land kind page).nextPage ≤ bound := by
  have filled : page.items ≠ [] := by
    intro empty
    have rows : (listing.land kind page).rows.length = listing.rows.length := by
      simp [Listing.land, empty]
    have enough := honest empty
    rw [rows, Listing.land_total] at short
    omega
  have below : page.page < bound := by
    by_contra reached
    exact filled (served (Nat.not_lt.mp reached))
  rw [Listing.land_nextPage]
  omega

theorem Orderly.page_idle (orderly : catalog.Orderly bound waiting asked) {request : Request}
    {page : Page Row} (member : request ∈ waiting) (ours : request.serial = catalog.catalogRequest)
    (echo : page.page = request.page) (served : bound ≤ page.page → page.items = [])
    (idle : catalog.replacement = none) (honest : page.items = [] → page.total ≤ catalog.rows.length) :
    (catalog.appendPage kind page).Orderly bound (waiting.erase request ++ (catalog.appendPage kind page).asking
        (catalog.appendPage kind page).needsPage)
      (asked ++ (catalog.appendPage kind page).asking (catalog.appendPage kind page).needsPage) := by
  obtain ⟨selected, appended⟩ := @appendPage_eq _ kind catalog page
  have isCurrent := orderly.waiting_current request member ours
  have turn : page.page = catalog.nextPage := by
    rw [echo, isCurrent]
    simp [current, idle]
  have cleared : (catalog.toListing.land kind page).loadingPages = ∅ := by
    rw [Listing.land_loadingPages, orderly.cleared]
    rfl
  have next : (catalog.toListing.land kind page).nextPage = catalog.nextPage + 1 := by
    rw [Listing.land_nextPage, turn]
    omega
  have here : ({ catalog with
      toListing := catalog.toListing.land kind page, selectedId := selected } : Catalog Row).current =
      ⟨catalog.catalogRequest, false, catalog.nextPage + 1⟩ := by
    unfold current
    dsimp only
    rw [idle, next]
  rw [appended]
  unfold needsPage
  dsimp only
  rw [needsPage_cleared cleared]
  refine orderly.resolve member ours rfl rfl cleared (short_land turn served honest) ?_ ?_ ?_ ?_
  · intro staged pending
    simp [idle] at pending
  · intro other before same
    rw [here]
    refine ⟨by simp [idle], fun unstaged => ?_⟩
    have reached := (orderly.asked_chain other before same).2
    simp only [current, idle] at reached
    exact (reached unstaged).trans (Nat.le_succ _)
  · intro asked' asks
    split at asks
    · rename_i lacking
      cases asks
      rw [here]
      refine ⟨next, short_land turn served honest lacking, fun before => ?_⟩
      have reached := (orderly.asked_chain _ before rfl).2
      simp only [current, idle, true_implies] at reached
      exact absurd reached (Nat.not_succ_le_self _)
    · cases asks
  · intro pending
    simp [idle] at pending

theorem erase_marks {staged : CatalogReplacement Row} {page : Page Row}
    (marks : staged.loadingPages = if staged.nextPage = 0 then {0} else ∅)
    (turn : page.page = staged.nextPage) : (staged.land kind page).loadingPages = ∅ := by
  unfold CatalogReplacement.land
  rw [Listing.land_loadingPages, marks, turn]
  split
  · rename_i first
    rw [first]
    rfl
  · rfl

theorem Orderly.page_staged (orderly : catalog.Orderly bound waiting asked) {request : Request}
    {page : Page Row} {staged : CatalogReplacement Row} (member : request ∈ waiting)
    (ours : request.serial = catalog.catalogRequest) (echo : page.page = request.page)
    (served : bound ≤ page.page → page.items = []) (pending : catalog.replacement = some staged)
    (honest : page.items = [] → page.total ≤ staged.rows.length) :
    (catalog.applyPage kind page).1.Orderly bound (waiting.erase request ++ (catalog.applyPage kind page).1.asking
        (catalog.applyPage kind page).2)
      (asked ++ (catalog.applyPage kind page).1.asking (catalog.applyPage kind page).2) := by
  have isCurrent := orderly.waiting_current request member ours
  have turn : page.page = staged.nextPage := by
    rw [echo, isCurrent]
    simp [current, pending]
  have cleared := @erase_marks _ kind staged page (orderly.marks staged pending) turn
  have next : (staged.land kind page).nextPage = staged.nextPage + 1 := by
    unfold CatalogReplacement.land
    rw [Listing.land_nextPage, turn]
    omega
  have reached : ∀ other ∈ asked, other.serial = catalog.catalogRequest →
      other.staged = true ∧ other.page ≤ staged.nextPage := by
    intro other before same
    obtain ⟨isStaged, below⟩ := orderly.asked_chain other before same
    simp only [current, pending, Option.isSome_some, forall_const] at isStaged below
    exact ⟨isStaged, below isStaged⟩
  unfold applyPage
  rw [pending]
  dsimp only
  rw [needsPage_cleared cleared]
  by_cases lacking : (staged.land kind page).rows.length < (staged.land kind page).total
  · have here : ({ catalog with
        replacement := some (staged.land kind page) } : Catalog Row).current =
        ⟨catalog.catalogRequest, true, staged.nextPage + 1⟩ := by
      simp [current, next]
    rw [if_pos lacking]
    refine orderly.resolve member ours rfl rfl orderly.cleared orderly.short ?_ ?_ ?_ fun _ => rfl
    · intro landed held
      cases held
      rw [cleared, next, if_neg (Nat.succ_ne_zero _)]
    · intro other before same
      rw [here]
      obtain ⟨isStaged, below⟩ := reached other before same
      exact ⟨fun _ => isStaged, fun _ => below.trans (Nat.le_succ _)⟩
    · intro asked' asks
      cases asks
      rw [here]
      refine ⟨next, short_land turn served honest lacking, fun before => ?_⟩
      exact absurd (reached _ before rfl).2 (Nat.not_succ_le_self _)
  · have idle : (catalog.publish kind (staged.land kind page)).replacement = none := rfl
    rw [if_neg lacking]
    refine orderly.resolve member ours rfl rfl cleared ?_ (by simp) ?_ (by simp) ?_
    · intro short
      have rows := @Listing.length_sortRows _ kind (staged.land kind page).toListing
      exact absurd (lt_of_eq_of_lt rows.symm short) lacking
    · intro other before same
      refine ⟨by simp, fun unstaged => ?_⟩
      rw [(reached other before same).1, current_staged, idle] at unstaged
      cases unstaged
    · intro pending
      rw [idle] at pending
      cases pending

theorem Orderly.fail (orderly : catalog.Orderly bound waiting asked) {request : Request}
    {error : String} (member : request ∈ waiting) (ours : request.serial = catalog.catalogRequest) :
    (catalog.failPage error).1.Orderly bound
      (waiting.erase request ++ (catalog.failPage error).1.asking (catalog.failPage error).2)
      (asked ++ (catalog.failPage error).1.asking (catalog.failPage error).2) := by
  have here : (catalog.failPage error).1.current = ⟨catalog.catalogRequest, false, catalog.nextPage⟩ := rfl
  refine orderly.resolve member ours rfl rfl orderly.cleared orderly.short (fun _ none => by cases none) ?_ ?_ nofun
  · intro other before same
    refine ⟨nofun, fun unstaged => ?_⟩
    rw [here] at unstaged ⊢
    obtain ⟨isStaged, below⟩ := orderly.asked_chain other before same
    cases pending : catalog.replacement with
    | some staged =>
      rw [pending] at isStaged
      exact absurd (isStaged rfl) (by simpa using unstaged)
    | none =>
      simp only [current, pending] at below
      exact below unstaged
  · intro page asks
    unfold failPage needsPage at asks
    dsimp only at asks
    split at asks
    · rename_i pending
      rw [needsPage_cleared orderly.cleared] at asks
      split at asks
      · rename_i lacking
        cases asks
        refine ⟨rfl, orderly.short lacking, fun before => ?_⟩
        have isStaged := (orderly.asked_chain _ before rfl).1 pending
        cases isStaged
      · cases asks
    · cases asks

theorem Orderly.selects (orderly : catalog.Orderly bound waiting asked)
    (selects : next.Selects catalog) : next.Orderly bound waiting asked := by
  obtain ⟨selected, rfl⟩ := selects
  exact ⟨orderly.serials, orderly.cleared, orderly.short, orderly.marks, orderly.asked_serial,
    orderly.asked_page, orderly.asked_nodup, orderly.asked_chain, orderly.waiting_asked,
    orderly.waiting_nodup, orderly.waiting_current, orderly.awaited⟩

theorem Orderly.refreshed (orderly : catalog.Orderly bound waiting asked) :
    catalog.refreshed.Orderly bound (waiting ++ catalog.refreshed.asking (some 0))
      (asked ++ catalog.refreshed.asking (some 0)) := by
  have here : catalog.refreshed.current = ⟨catalog.nextCatalogRequest + 1, true, 0⟩ := rfl
  have opens : catalog.refreshed.asking (some 0) = [catalog.refreshed.current] := rfl
  have newer : catalog.refreshed.catalogRequest = catalog.catalogRequest + 1 :=
    congrArg (· + 1) orderly.serials
  have older : ∀ other ∈ asked, other.serial ≠ catalog.refreshed.catalogRequest := by
    intro other before same
    have bounded := orderly.asked_serial other before
    omega
  have fresh : catalog.refreshed.current ∉ asked := fun before =>
    older _ before current_serial
  rw [opens]
  refine
    { serials := rfl
      cleared := rfl
      short := orderly.short
      marks := ?_
      asked_serial := ?_
      asked_page := ?_
      asked_nodup := ?_
      asked_chain := ?_
      waiting_asked := ?_
      waiting_nodup := ?_
      waiting_current := ?_
      awaited := fun _ => by simp }
  · intro staged begun
    cases begun
    rfl
  · intro other listed
    rcases mem_append.mp listed with before | made
    · exact (orderly.asked_serial other before).trans (by omega)
    · rw [mem_singleton.mp made]
      exact le_of_eq current_serial
  · intro other listed
    rcases mem_append.mp listed with before | made
    · exact orderly.asked_page other before
    · rw [mem_singleton.mp made, here]
      exact Nat.zero_le bound
  · rw [← concat_eq_append]
    exact orderly.asked_nodup.concat fresh
  · intro other listed same
    rcases mem_append.mp listed with before | made
    · exact absurd same (older other before)
    · rw [mem_singleton.mp made]
      exact ⟨fun _ => rfl, fun _ => le_rfl⟩
  · intro other listed
    rcases mem_append.mp listed with before | made
    · exact mem_append_left _ (orderly.waiting_asked other before)
    · exact mem_append_right _ made
  · rw [← concat_eq_append]
    exact orderly.waiting_nodup.concat fun before => fresh (orderly.waiting_asked _ before)
  · intro other listed same
    rcases mem_append.mp listed with before | made
    · exact absurd same (older other (orderly.waiting_asked other before))
    · exact mem_singleton.mp made

end Catalog

namespace Browse

variable {State Row Op : Type} {browse : Browse State Row Op} {bound : Nat} {current : Traffic State}
  {shell : Shell}

theorem resolve_orderly {request : Request} {result : Except String (Page Row)}
    (orderly : (browse.catalog current.state).Orderly bound current.waiting current.asked)
    (kept : request ∈ current.waiting → request.serial = (browse.catalog current.state).catalogRequest →
      let after := (browse.catalog current.state).fetched browse.kind request.serial result
      after.1.Orderly bound (current.waiting.erase request ++ after.1.asking after.2)
        (current.asked ++ after.1.asking after.2)) :
    (browse.catalog (browse.resolve current shell request result).state).Orderly bound
      (browse.resolve current shell request result).waiting
      (browse.resolve current shell request result).asked := by
  unfold resolve
  by_cases member : request ∈ current.waiting
  · rw [if_pos member]
    unfold settle
    by_cases ours : (browse.catalog current.state).catalogRequest = request.serial
    · dsimp only
      rw [catalog_fetched, asks_fetched]
      exact kept member ours.symm
    · rw [browse.fetched_superseded current.state shell request.serial result ours]
      simpa [Catalog.asking] using orderly.ignore ours
  · rw [if_neg member]
    exact orderly

theorem serve_orderly {event : TrafficEvent Row Op}
    (orderly : (browse.catalog current.state).Orderly bound current.waiting current.asked)
    (served : Served bound event) (honest : browse.Honest current event) :
    (browse.catalog (browse.serve current shell event).state).Orderly bound
      (browse.serve current shell event).waiting (browse.serve current shell event).asked := by
  cases event with
  | answered request page =>
    refine resolve_orderly orderly fun member ours => ?_
    have announced := honest ours.symm
    unfold loading at announced
    simp only [Catalog.fetched, ours, ne_eq, not_true_eq_false, if_false]
    cases pending : (browse.catalog current.state).replacement with
    | none =>
      rw [pending] at announced
      have applied : (browse.catalog current.state).applyPage browse.kind page =
          ((browse.catalog current.state).appendPage browse.kind page,
            ((browse.catalog current.state).appendPage browse.kind page).needsPage) := by
        simp only [Catalog.applyPage, pending]
      rw [applied]
      exact orderly.page_idle member ours served.1 served.2 pending announced
    | some staged =>
      rw [pending] at announced
      exact orderly.page_staged member ours served.1 served.2 pending announced
  | failed request error =>
    refine resolve_orderly orderly fun member ours => ?_
    simp only [Catalog.fetched, ours, ne_eq, not_true_eq_false, if_false]
    exact orderly.fail member ours
  | operate op =>
    have operates := browse.operate_catalog current.state shell op
    unfold serve settle
    dsimp only
    cases asked : (browse.operate current.state shell op).2 with
    | none =>
      rw [asked] at operates
      cases operates with
      | selects selects => simpa [Catalog.asking] using orderly.selects selects
    | some page =>
      rw [asked] at operates
      cases operates with
      | refreshes idle refreshed pill episode =>
        rw [refreshed]
        exact orderly.refreshed

theorem ends_of_orderly (orderly : (browse.catalog current.state).Orderly bound current.waiting current.asked) :
    browse.Ends bound current where
  once := orderly.asked_nodup
  finite serial staged := by
    have pages : ((current.asked.filter fun request =>
        request.serial == serial && request.staged == staged).map Request.page).Nodup := by
      refine List.Nodup.map_on ?_ (orderly.asked_nodup.filter _)
      intro left leftIn right rightIn same
      simp only [mem_filter, Bool.and_eq_true, beq_iff_eq] at leftIn rightIn
      cases left
      cases right
      simp_all
    have within : ((current.asked.filter fun request =>
        request.serial == serial && request.staged == staged).map Request.page) ⊆
        List.range (bound + 1) := by
      intro page listed
      obtain ⟨request, member, rfl⟩ := mem_map.mp listed
      exact mem_range.mpr (Nat.lt_succ_of_le (orderly.asked_page request (mem_of_mem_filter member)))
    have fewer := (pages.subperm within).length_le
    rwa [length_map, length_range] at fewer
  pending pending := ⟨_, orderly.awaited pending, Catalog.current_serial, Catalog.current_staged.trans pending⟩

theorem ends_of_honest (events : List (Shell × TrafficEvent Row Op))
    (served : browse.traffic.Along (fun _ event => Served bound event.2) browse.launched events)
    (honest : browse.traffic.Along (fun current event => browse.Honest current event.2) browse.launched events) :
    browse.Ends bound (browse.traffic.run browse.launched events) := by
  have start : (browse.catalog browse.launched.state).Orderly bound browse.launched.waiting
      browse.launched.asked := by
    have empty : browse.catalog browse.launched.state = {} := browse.initial_catalog
    rw [empty]
    exact Catalog.orderly_launched
  have keep : ∀ (current : Traffic State) (event : Shell × TrafficEvent Row Op),
      (browse.catalog current.state).Orderly bound current.waiting current.asked →
      (Served bound event.2 ∧ browse.Honest current event.2) →
      (browse.catalog (browse.serve current event.1 event.2).state).Orderly bound (browse.serve current event.1 event.2).waiting
        (browse.serve current event.1 event.2).asked :=
    fun _ _ orderly both => serve_orderly orderly both.1 both.2
  exact ends_of_orderly (browse.traffic.run_invariant keep start (served.and honest))

end Browse

structure Refreshes {State Row Op : Type} (browse : Browse State Row Op) : Prop where
  promises : ∀ events : List (Shell × BrowseEvent Row Op),
    browse.machine.Along (fun state event => browse.Promise state event.1 event.2) browse.initial
        events ↔
      browse.machine.Along (fun state event => browse.InTurn state event.2) browse.initial events
  ends : ∀ (bound : Nat) (events : List (Shell × TrafficEvent Row Op)),
    browse.traffic.Along (fun _ event => Browse.Served bound event.2) browse.launched events →
    browse.traffic.Along (fun current event => browse.Honest current event.2) browse.launched events →
    browse.Ends bound (browse.traffic.run browse.launched events)

/-- The refresh of both catalogs: any sequence of results keeps every step's promise exactly when each
    result is in its turn, and every chain ends against a server whose empty pages announce no more
    rows than have come. -/
theorem catalog_refresh_ends (toLowercase : String → String) :
    Refreshes (podcastBrowse toLowercase) ∧ Refreshes (bookBrowse toLowercase) :=
  ⟨⟨Browse.promises_iff, fun _ => Browse.ends_of_honest⟩,
    ⟨Browse.promises_iff, fun _ => Browse.ends_of_honest⟩⟩

def loadAndRefresh : List (Shell × TrafficEvent AudiobookshelfShow PodcastOp) :=
  [(⟨true, true⟩, .answered ⟨0, false, 0⟩ ⟨0, 1, [⟨"a", "A"⟩]⟩), (⟨true, true⟩, .operate .refresh),
    (⟨true, true⟩, .answered ⟨1, true, 0⟩ ⟨0, 1, [⟨"b", "B"⟩]⟩)]

theorem catalog_refresh_ends_loadAndRefresh :
    (podcastBrowse id).Ends 1
      ((podcastBrowse id).traffic.run (podcastBrowse id).launched loadAndRefresh) := by
  refine (catalog_refresh_ends id).1.ends 1 loadAndRefresh ?_ ?_
  · simp [loadAndRefresh, Browse.Served]
  · simp [loadAndRefresh, Browse.Honest]

namespace OverReported

def answer (page : Nat) : Page AudiobookshelfShow :=
  ⟨page, 2, if page = 0 then [⟨"a", "A"⟩] else []⟩

def answers (count : Nat) : List (Shell × TrafficEvent AudiobookshelfShow PodcastOp) :=
  (List.range count).map fun page => (⟨true, true⟩, .answered ⟨1, true, page⟩ (answer page))

def events (count : Nat) : List (Shell × TrafficEvent AudiobookshelfShow PodcastOp) :=
  (⟨true, true⟩, .operate .refresh) :: answers count

def browse : Browse AudiobookshelfBrowseState AudiobookshelfShow PodcastOp := podcastBrowse id

/-- The replacement has taken `count` pages and asked for the next one. -/
def Loading (count : Nat) (current : Traffic AudiobookshelfBrowseState) : Prop :=
  current.state.catalogRequest = 1 ∧
  (∃ staged, current.state.replacement = some staged ∧ staged.nextPage = count ∧
    staged.loadingPages = (if count = 0 then {0} else ∅) ∧
    staged.rows.length = if count = 0 then 0 else 1) ∧
  ⟨1, true, count⟩ ∈ current.waiting ∧
  count < (current.asked.filter fun request => request.serial == 1 && request.staged == true).length

theorem loading_answered {count : Nat} {current : Traffic AudiobookshelfBrowseState} (loading : Loading count current) :
    Loading (count + 1) (browse.serve current ⟨true, true⟩ (.answered ⟨1, true, count⟩ (answer count))) := by
  obtain ⟨serial, ⟨staged, pending, next, marks, rows⟩, waiting, asked⟩ := loading
  have turn : (answer count).page = staged.nextPage := next.symm
  have cleared := @Catalog.erase_marks _ (showKind id) staged (answer count) (next ▸ marks) turn
  have one : (staged.land (showKind id) (answer count)).rows.length = 1 := by
    unfold CatalogReplacement.land Listing.land
    rw [Listing.length_sortRows]
    dsimp only
    cases count with
    | zero =>
      have none := length_eq_zero_iff.mp (rows.trans (if_pos rfl))
      rw [none]
      rfl
    | succ count => simpa [answer] using rows
  have needs : (staged.land (showKind id) (answer count)).needsPage = some (count + 1) := by
    rw [Catalog.needsPage_cleared cleared, one]
    have reached : (staged.land (showKind id) (answer count)).nextPage = count + 1 := by
      unfold CatalogReplacement.land
      rw [Listing.land_nextPage, next]
      exact max_eq_right (Nat.le_succ count)
    rw [reached]
    rfl
  have fetched := browse.fetched_catalog current.state ⟨true, true⟩ 1 (.ok (answer count))
  have catalog : (browse.catalog current.state).fetched browse.kind 1 (.ok (answer count)) = ({ current.state.toCatalog with
          replacement := some (staged.land (showKind id) (answer count)) }, some (count + 1)) := by
    have idle : (browse.catalog current.state).catalogRequest = 1 := serial
    have held : (browse.catalog current.state).replacement = some staged := pending
    have kind : browse.kind = showKind id := rfl
    unfold Catalog.fetched Catalog.applyPage
    rw [if_neg (not_not_intro idle), held, kind]
    dsimp only
    rw [needs]
    rfl
  rw [catalog] at fetched
  have reached := congrArg Prod.fst fetched
  have asks := congrArg Prod.snd fetched
  dsimp only at reached asks
  unfold Browse.serve Browse.resolve
  dsimp only
  rw [if_pos waiting]
  unfold Browse.settle
  rw [asks, reached]
  refine ⟨?_, ⟨staged.land (showKind id) (answer count), ?_, ?_, ?_, ?_⟩, ?_, ?_⟩
  · exact (congrArg Catalog.catalogRequest reached).trans serial
  · exact congrArg Catalog.replacement reached
  · unfold CatalogReplacement.land
    rw [Listing.land_nextPage, next]
    exact max_eq_right (Nat.le_succ count)
  · rw [cleared, if_neg (Nat.succ_ne_zero count)]
  · rw [one, if_neg (Nat.succ_ne_zero count)]
  · simp [Catalog.asking, serial]
  · simp only [Catalog.asking, Option.map_some, Option.toList_some, filter_append, length_append, serial, Option.isSome_some]
    simpa using asked

theorem loading_events (count : Nat) : Loading count (browse.traffic.run browse.launched (events count)) := by
  induction count with
  | zero =>
    refine ⟨rfl, ⟨_, rfl, rfl, rfl, rfl⟩, ?_, ?_⟩
    · decide
    · decide
  | succ count ih =>
    have last : events (count + 1) = events count ++ [(⟨true, true⟩, .answered ⟨1, true, count⟩ (answer count))] := by
      simp [events, answers, range_succ]
    rw [last, Machine.run_append]
    exact loading_answered ih

theorem served_events (count : Nat) :
    browse.traffic.Along (fun _ event => Browse.Served 1 event.2) browse.launched (events count) := by
  refine Machine.along_of_forall fun event member _ => ?_
  rcases mem_cons.mp member with first | answered
  · rw [first]
    trivial
  · obtain ⟨page, -, rfl⟩ := mem_map.mp answered
    exact ⟨rfl, fun beyond => if_neg (Nat.ne_of_gt beyond)⟩

end OverReported

/-- Against one show announced as two, no number bounds the requests a refresh makes. -/
theorem over_reported_refresh_never_ends :
    ¬ ∃ limit, ∀ events : List (Shell × TrafficEvent AudiobookshelfShow PodcastOp),
      (podcastBrowse id).traffic.Along (fun _ event => Browse.Served 1 event.2)
        (podcastBrowse id).launched events →
      (((podcastBrowse id).traffic.run (podcastBrowse id).launched events).asked.filter
        fun request => request.serial == 1 && request.staged == true).length ≤ limit := by
  rintro ⟨limit, bounded⟩
  have fewer := bounded (OverReported.events limit) (OverReported.served_events limit)
  obtain ⟨-, -, -, more⟩ := OverReported.loading_events limit
  exact absurd more (Nat.not_lt.mpr fewer)

end Mbv.Audiobookshelf
