import Mbv.Images.Cache
import Mbv.Machine.Run
import Mbv.Sequence.Recency
import Mathlib.Data.List.Perm.Basic

namespace Mbv.Images

open List

variable {π : Type}

/-! ### The cache with the fetches that run -/

/-- `stale` once a clear covered the key after the fetch started. -/
structure RunningFetch where
  key : String
  stale : Bool := false

/-- `recent` are the keys completed with pixels, the oldest first, less those removed, replaced or
    cleared since. -/
structure FetchRun (π : Type) where
  cache : ImageCache π
  running : List RunningFetch := []
  recent : List String := []

/-- `place` is the place of the answered fetch among those that run. -/
inductive CacheOp (π : Type) where
  | reserve (req : ImageFetchReq) (now : Nat)
  | takePending
  | complete (place : Nat) (img : Option π)
  | interrupted (place now : Nat)
  | insert (key : String) (img : Option π)
  | insertDerived (key : String) (img : Option π)
  | remove (key : String)
  | clearAudiobookshelf
  | clearSession

def others (keys : List String) (key : String) : List String := keys.filter fun other => other ≠ key

namespace FetchRun

def spawn (s : FetchRun π) (req : ImageFetchReq) : FetchRun π :=
  { s with cache := s.cache.startFetch, running := s.running ++ [⟨req.cacheKey, false⟩] }

def clear (s : FetchRun π) (cache : ImageCache π) (covers : String → Bool) : FetchRun π :=
  { cache
    running := s.running.map fun fetch => { fetch with stale := fetch.stale || covers fetch.key }
    recent := s.recent.filter fun key => !covers key }

end FetchRun

def underAudiobookshelf (key : String) : Bool := startsWith key audiobookshelfCacheKeyPrefix

def cacheMachine (limit : Nat) : Machine (FetchRun π) (CacheOp π) where
  step s op := match op with
    | .reserve req now =>
      match s.cache.reserveFetch req limit now with
      | (.start req, cache) => { s with cache }.spawn req
      | (_, cache) => { s with cache }
    | .takePending =>
      match s.cache.takePendingFetch limit with
      | (some req, cache) => { s with cache }.spawn req
      | (none, cache) => { s with cache }
    | .complete place img =>
      match s.running[place]? with
      | none => s
      | some fetch =>
        { cache := s.cache.completeFetch fetch.key ⟨img, true⟩
          running := s.running.eraseIdx place
          recent :=
            if img.isSome then Recency.touch fetch.key s.recent else others s.recent fetch.key }
    | .interrupted place now =>
      match s.running[place]? with
      | none => s
      | some fetch =>
        { s with
          cache := s.cache.fetchInterrupted fetch.key now
          running := s.running.eraseIdx place }
    | .insert key img =>
      { s with cache := s.cache.insertImage key ⟨img, false⟩, recent := others s.recent key }
    | .insertDerived key img =>
      { s with cache := s.cache.insertDerivedImage key ⟨img, false⟩, recent := others s.recent key }
    | .remove key => { s with cache := s.cache.removeImage key, recent := others s.recent key }
    | .clearAudiobookshelf => s.clear s.cache.clearAudiobookshelfImages underAudiobookshelf
    | .clearSession => s.clear s.cache.clearSessionImageWork fun _ => true

/-! ### What balances -/

def ImageCache.keeps (cache : ImageCache π) (key : String) : Bool :=
  (cache.cardImageStates key).any fun entry => entry.fetched && entry.img.isSome

def FetchRun.queuedKeys (s : FetchRun π) : List String :=
  s.cache.pendingImageFetches.map ImageFetchReq.cacheKey

structure Balanced (limit : Nat) (s : FetchRun π) : Prop where
  active : s.cache.imageFetchesActive = s.running.length
  bounded : s.running.length ≤ limit
  loading : ∀ key, s.cache.isLoading key = true ↔
    key ∈ s.queuedKeys ∨ ∃ fetch ∈ s.running, fetch.key = key ∧ fetch.stale = false
  once : (s.queuedKeys ++ s.running.map RunningFetch.key).Nodup
  /-- No key completed later than one of `kept` has gone. -/
  newest : ∃ kept, kept <:+ s.recent ∧ kept.Nodup ∧ kept.length ≤ s.cache.cacheSizeTotal ∧
    ∀ key, key ∈ kept ↔ s.cache.keeps key = true

def CacheOp.Clears (op : CacheOp π) (key : String) : Prop :=
  match op with
  | .clearAudiobookshelf => underAudiobookshelf key = true
  | .clearSession => True
  | _ => False

structure Settles (limit : Nat) (s : FetchRun π) (op : CacheOp π) : Prop where
  /-- A reserved key ends resolved, interrupted or cleared. -/
  ends : ∀ key, s.cache.isLoading key = true →
    ((cacheMachine limit).step s op).cache.isLoading key = false →
    ((cacheMachine limit).step s op).cache.isCached key = true ∨
    ((cacheMachine limit).step s op).cache.isFetchInterrupted key = true ∨ op.Clears key
  /-- A completion from before a clear puts nothing back. -/
  cleared : ∀ place img fetch, op = .complete place img → s.running[place]? = some fetch →
    fetch.stale = true → s.cache.isCached fetch.key = false →
    ((cacheMachine limit).step s op).cache.isCached fetch.key = false

def HasDerivedSep (key : String) : Prop := derivedSep.toList <:+: key.toList

/-- A fetch is reserved for a base key, under the Audiobookshelf prefix if that is its source, and
    no clear covers a fetch that runs. -/
def Orderly (s : FetchRun π) (op : CacheOp π) : Prop :=
  match op with
  | .reserve req _ =>
    (req.source = .emby ↔ underAudiobookshelf req.cacheKey = false) ∧ ¬ HasDerivedSep req.cacheKey
  | .clearAudiobookshelf => ∀ fetch ∈ s.running, underAudiobookshelf fetch.key = false
  | .clearSession => s.running = []
  | _ => True

/-! ### The entries kept -/

structure Kept (cache : ImageCache π) (recent : List String) : Prop where
  recency : Recency cache.imageLru cache.keeps recent
  room : cache.imageLru.length ≤ cache.cacheSizeTotal
  positive : 0 < cache.cacheSizeTotal
  base : ∀ key ∈ cache.imageLru, ¬ HasDerivedSep key

theorem hasDerivedSep_of_startsWith {key identity : String}
    (starts : startsWith key (identity ++ derivedSep) = true) : HasDerivedSep key := by
  obtain ⟨rest, split⟩ := isPrefixOf_iff_prefix.mp starts
  rw [String.toList_append] at split
  exact ⟨identity.toList, rest, split⟩

variable {cache : ImageCache π} {recent : List String}

theorem Kept.keepsBase (kept : Kept cache recent) (key : String) (keeps : cache.keeps key = true) : ¬ HasDerivedSep key :=
  kept.base key (kept.recency.covered key keeps)

theorem filter_variants {keys : List String} (base : ∀ key ∈ keys, ¬ HasDerivedSep key) (identity : String) :
    keys.filter (fun key => !startsWith key (identity ++ derivedSep)) = keys := by
  apply filter_eq_self.mpr
  intro key member
  cases starts : startsWith key (identity ++ derivedSep)
  · rfl
  · exact absurd (hasDerivedSep_of_startsWith starts) (base key member)

theorem variants_keeps (base : ∀ key, cache.keeps key = true → ¬ HasDerivedSep key) (identity : String) :
    (cache.removeDerivedVariantsForIdentity identity).keeps = cache.keeps := by
  funext key
  simp only [ImageCache.keeps, ImageCache.removeDerivedVariantsForIdentity]
  split
  · rename_i starts
    cases keeps : cache.keeps key with
    | false => exact keeps.symm
    | true => exact absurd (hasDerivedSep_of_startsWith starts) (base key keeps)
  · rfl

theorem Kept.variants (kept : Kept cache recent) (identity : String) :
    Kept (cache.removeDerivedVariantsForIdentity identity) recent := by
  have line : (cache.removeDerivedVariantsForIdentity identity).imageLru = cache.imageLru := filter_variants kept.base identity
  constructor
  · rw [line, variants_keeps kept.keepsBase]
    exact kept.recency
  · rw [line]
    exact kept.room
  · exact kept.positive
  · rw [line]
    exact kept.base

theorem insertState_keeps (cache : ImageCache π) (key : String) (entry : CachedImage π) :
    (cache.insertState key entry).keeps = fun other =>
      cache.keeps other && decide (other ≠ key) || decide (other = key) && (entry.fetched && entry.img.isSome) := by
  funext other
  simp only [ImageCache.keeps, ImageCache.insertState]
  by_cases same : other = key
  · subst same
    simp
  · simp [same]

theorem Kept.drop (kept : Kept cache recent) {cache' : ImageCache π} {keeps names : String → Bool}
    (weaker : ∀ key, keeps key = true → names key = true)
    (line : cache'.imageLru = cache.imageLru.filter names)
    (left : cache'.keeps = fun key => cache.keeps key && keeps key)
    (capacity : cache'.cacheSizeTotal = cache.cacheSizeTotal) :
    Kept cache' (recent.filter keeps) := by
  constructor
  · rw [line, left]
    exact kept.recency.drop weaker
  · rw [line, capacity]
    exact le_trans (length_filter_le _ _) kept.room
  · rw [capacity]
    exact kept.positive
  · intro key member
    rw [line] at member
    exact kept.base key (mem_filter.mp member).1

theorem Kept.replaced (kept : Kept cache recent) (key : String) {entry : CachedImage π}
    (other_ : (entry.fetched && entry.img.isSome) = false) :
    Kept (cache.insertState key entry) (others recent key) := by
  have weaker : ∀ other, decide (other ≠ key) = true → (fun _ : String => true) other = true := fun _ _ => rfl
  have line : (cache.insertState key entry).imageLru = cache.imageLru.filter fun _ => true :=
    (filter_eq_self.mpr fun _ _ => rfl).symm
  have left : (cache.insertState key entry).keeps = fun other =>
      cache.keeps other && decide (other ≠ key) := by
    rw [insertState_keeps, other_]
    simp
  exact kept.drop weaker line left rfl

theorem Kept.insertImage (kept : Kept cache recent) (key : String) (img : Option π) :
    Kept (cache.insertImage key ⟨img, false⟩) (others recent key) :=
  (kept.variants (cacheIdentity key)).replaced key rfl

theorem Kept.insertDerivedImage (kept : Kept cache recent) (key : String) (img : Option π) :
    Kept (cache.insertDerivedImage key ⟨img, false⟩) (others recent key) := by
  unfold ImageCache.insertDerivedImage
  split
  · exact kept.replaced key rfl
  · exact (kept.variants _).replaced key rfl

theorem removeImage_imageLru (base : ∀ key ∈ cache.imageLru, ¬ HasDerivedSep key) (key : String) :
    (cache.removeImage key).imageLru = others cache.imageLru key := by
  apply filter_variants
  intro other member
  exact base other (mem_filter.mp member).1

theorem removeImage_keeps (base : ∀ key, cache.keeps key = true → ¬ HasDerivedSep key) (key : String) :
    (cache.removeImage key).keeps = fun other => cache.keeps other && decide (other ≠ key) := by
  funext other
  by_cases same : other = key
  · subst same
    simp [ImageCache.keeps, ImageCache.removeImage]
  · have elsewhere : (cache.removeImage key).keeps other =
        (cache.removeDerivedVariantsForIdentity (cacheIdentity key)).keeps other := by
      simp only [ImageCache.keeps, ImageCache.removeImage, ImageCache.removeDerivedVariantsFor,
        ImageCache.removeDerivedVariantsForIdentity, Function.update_of_ne same]
    rw [elsewhere, variants_keeps base]
    simp [same]

theorem Kept.removeImage (kept : Kept cache recent) (key : String) : Kept (cache.removeImage key) (others recent key) :=
  kept.drop (fun _ keep => keep) (removeImage_imageLru kept.base key) (removeImage_keeps kept.keepsBase key) rfl

theorem Kept.clearAudiobookshelfImages (kept : Kept cache recent) :
    Kept cache.clearAudiobookshelfImages (recent.filter fun key => !underAudiobookshelf key) := by
  have weaker : ∀ key, (!underAudiobookshelf key) = true →
      (!startsWith key audiobookshelfCacheKeyPrefix) = true := fun _ keep => keep
  have left : cache.clearAudiobookshelfImages.keeps = fun key =>
      cache.keeps key && !underAudiobookshelf key := by
    funext key
    simp only [ImageCache.keeps, ImageCache.clearAudiobookshelfImages, underAudiobookshelf]
    split <;> simp_all
  exact kept.drop weaker rfl left rfl

theorem Kept.clearSessionImageWork (kept : Kept cache recent) :
    Kept cache.clearSessionImageWork (recent.filter fun _ => false) := by
  have weaker : ∀ key, (fun _ : String => false) key = true → (fun _ : String => false) key = true := fun _ keep => keep
  have line : cache.clearSessionImageWork.imageLru = cache.imageLru.filter fun _ => false := by
    simp [ImageCache.clearSessionImageWork]
  have left : cache.clearSessionImageWork.keeps = fun key => cache.keeps key && false := by
    funext key
    simp [ImageCache.keeps, ImageCache.clearSessionImageWork, ImageCache.clearImagesAndLoading]
  exact kept.drop weaker line left rfl

/-! ### A completed fetch -/

theorem evictOldest_of_room (room : cache.imageLru.length ≤ cache.cacheSizeTotal) : cache.evictOldest = cache := by
  unfold ImageCache.evictOldest
  split
  · rfl
  · exact if_neg (Nat.not_lt.mpr room)

theorem evictOldest_of_full {oldest : String} {rest : List String}
    (line : cache.imageLru = oldest :: rest) (full : cache.cacheSizeTotal < cache.imageLru.length) :
    cache.evictOldest = ({ cache with imageLru := rest }.removeImage oldest).evictOldest := by
  rw [ImageCache.evictOldest]
  split
  · simp_all
  · rename_i evict others split
    obtain ⟨rfl, rfl⟩ := List.cons.inj (line.symm.trans split)
    exact if_pos full

structure SameWork (cache cache' : ImageCache π) : Prop where
  loading : cache'.cardImageLoading = cache.cardImageLoading
  interrupted : cache'.interruptedFetches = cache.interruptedFetches
  pending : cache'.pendingImageFetches = cache.pendingImageFetches
  active : cache'.imageFetchesActive = cache.imageFetchesActive
  capacity : cache'.cacheSizeTotal = cache.cacheSizeTotal

theorem evictOldest_sameWork (cache : ImageCache π) : SameWork cache cache.evictOldest := by
  induction cache using ImageCache.evictOldest.induct with
  | case1 cache line =>
    rw [ImageCache.evictOldest]
    split
    · exact ⟨rfl, rfl, rfl, rfl, rfl⟩
    · simp_all
  | case2 cache evict others line full ih =>
    rw [evictOldest_of_full line full]
    exact ⟨ih.loading, ih.interrupted, ih.pending, ih.active, ih.capacity⟩
  | case3 cache evict others line room =>
    rw [evictOldest_of_room (Nat.not_lt.mp room)]
    exact ⟨rfl, rfl, rfl, rfl, rfl⟩

theorem Kept.completed (kept : Kept cache recent) {key : String} (base : ¬ HasDerivedSep key) (img : π) :
    Kept ((ImageCache.evictOldest { cache with imageLru := Recency.touch key cache.imageLru }).insertState key ⟨some img, true⟩)
      (Recency.touch key recent) := by
  have touched := kept.recency.touched key
  have bases : ∀ other ∈ Recency.touch key cache.imageLru, ¬ HasDerivedSep other := by
    intro other member
    rcases mem_append.mp member with older | newest
    · exact kept.base other (mem_filter.mp older).1
    · exact mem_singleton.mp newest ▸ base
  by_cases room : (Recency.touch key cache.imageLru).length ≤ cache.cacheSizeTotal
  · rw [evictOldest_of_room room]
    have left : ({ cache with imageLru := Recency.touch key cache.imageLru }.insertState key
        ⟨some img, true⟩).keeps = fun other =>
          cache.keeps other && decide (other ≠ key) || decide (other = key) := by
      rw [insertState_keeps]
      simp [ImageCache.keeps]
    refine ⟨?_, room, kept.positive, bases⟩
    rw [left]
    exact touched
  · have full := Nat.not_le.mp room
    have length := Recency.length_touch_le kept.recency.nodup key
    have capacity := kept.room
    have positive := kept.positive
    cases older : cache.imageLru.filter fun other => other ≠ key with
    | nil =>
      have alone : Recency.touch key cache.imageLru = [key] := by rw [Recency.touch, older]; rfl
      rw [alone, length_singleton] at full
      omega
    | cons oldest between =>
      have line : Recency.touch key cache.imageLru = oldest :: (between ++ [key]) := by
        rw [Recency.touch, older]
        rfl
      have distinct : oldest ≠ key := by
        have member : oldest ∈ cache.imageLru.filter fun other => other ≠ key := by
          rw [older]
          exact mem_cons_self
        exact of_decide_eq_true (mem_filter.mp member).2
      have absent : oldest ∉ between ++ [key] := (nodup_cons.mp (line ▸ touched.nodup)).1
      have rest : others (between ++ [key]) oldest = between ++ [key] := by
        apply filter_eq_self.mpr
        intro other member
        exact decide_eq_true (ne_of_mem_of_not_mem member absent)
      have restBases : ∀ other ∈ between ++ [key], ¬ HasDerivedSep other := fun other member =>
        bases other (line ▸ mem_cons_of_mem oldest member)
      rw [@evictOldest_of_full π { cache with imageLru := Recency.touch key cache.imageLru } oldest (between ++ [key]) line full]
      have removedLru := @removeImage_imageLru π { cache with imageLru := between ++ [key] } restBases oldest
      have removedKeeps := @removeImage_keeps π { cache with imageLru := between ++ [key] } kept.keepsBase oldest
      have left : ((ImageCache.removeImage { cache with imageLru := between ++ [key] }
          oldest).insertState key ⟨some img, true⟩).keeps = fun other =>
            (cache.keeps other && decide (other ≠ key) || decide (other = key)) && decide (other ≠ oldest) := by
        rw [insertState_keeps, removedKeeps]
        funext other
        by_cases same : other = key
        · simp [same, distinct.symm]
        · simp [same, ImageCache.keeps]
      have short : (between ++ [key]).length ≤ cache.cacheSizeTotal := by
        rw [line, length_cons] at length
        omega
      have stops := @evictOldest_of_room π (ImageCache.removeImage { cache with imageLru := between ++ [key] } oldest)
        (by rw [removedLru, rest]; exact short)
      have final : ((ImageCache.removeImage { cache with imageLru := between ++ [key] }
          oldest).insertState key ⟨some img, true⟩).imageLru = between ++ [key] :=
        removedLru.trans rest
      refine ⟨?_, ?_, ?_, ?_⟩
      · rw [stops, left, final]
        exact (line ▸ touched).evict
      · rw [stops, final]
        exact short
      · rw [stops]
        exact positive
      · rw [stops, final]
        exact restBases

theorem Kept.completeFetch (kept : Kept cache recent) {key : String} (base : ¬ HasDerivedSep key) (img : Option π) :
    Kept (cache.completeFetch key ⟨img, true⟩) (if img.isSome then Recency.touch key recent else others recent key) := by
  have settled : Kept { cache with
      cardImageLoading := cache.cardImageLoading.filter fun loading => loading ≠ key
      interruptedFetches := Function.update cache.interruptedFetches key none
      imageFetchesActive := cache.imageFetchesActive - 1 } recent :=
    ⟨kept.recency, kept.room, kept.positive, kept.base⟩
  have variants := settled.variants (cacheIdentity key)
  cases img with
  | none => exact variants.replaced key rfl
  | some img => exact variants.completed base img

/-! ### The fetches queued and running -/

structure Ledger (limit : Nat) (loading : List String) (pending : List ImageFetchReq) (active : Nat)
    (running : List RunningFetch) : Prop where
  active : active = running.length
  bounded : running.length ≤ limit
  fresh : ∀ fetch ∈ running, fetch.stale = false
  work : List.Perm loading
    (pending.map ImageFetchReq.cacheKey ++ running.map RunningFetch.key)
  once : List.Nodup loading
  sources : ∀ req ∈ pending, req.source = .emby ↔ underAudiobookshelf req.cacheKey = false
  base : ∀ key : String, key ∈ loading → ¬ HasDerivedSep key

section

variable {limit active : Nat} {loading : List String} {pending : List ImageFetchReq}
  {running : List RunningFetch}

theorem Ledger.queue (ledger : Ledger limit loading pending active running) {req : ImageFetchReq}
    (absent : req.cacheKey ∉ loading)
    (source : req.source = .emby ↔ underAudiobookshelf req.cacheKey = false)
    (base : ¬ HasDerivedSep req.cacheKey) :
    Ledger limit (req.cacheKey :: loading) (pending ++ [req]) active running := by
  refine ⟨ledger.active, ledger.bounded, ledger.fresh, ?_, nodup_cons.mpr ⟨absent, ledger.once⟩, ?_, ?_⟩
  · rw [map_append, map_singleton, append_assoc]
    exact (ledger.work.cons req.cacheKey).trans perm_middle.symm
  · intro other member
    rcases mem_append.mp member with member | member
    · exact ledger.sources other member
    · rw [mem_singleton.mp member]
      exact source
  · intro key member
    rcases mem_cons.mp member with rfl | member
    · exact base
    · exact ledger.base key member

theorem fresh_concat (fresh : ∀ fetch ∈ running, fetch.stale = false) (key : String) :
    ∀ fetch ∈ running ++ [⟨key, false⟩], fetch.stale = false := by
  intro fetch member
  rcases mem_append.mp member with member | member
  · exact fresh fetch member
  · rw [mem_singleton.mp member]

theorem Ledger.start (ledger : Ledger limit loading pending active running) (room : active < limit)
    {req : ImageFetchReq} (absent : req.cacheKey ∉ loading) (base : ¬ HasDerivedSep req.cacheKey) :
    Ledger limit (req.cacheKey :: loading) pending (active + 1) (running ++ [⟨req.cacheKey, false⟩]) := by
  have count := ledger.active
  refine ⟨by simp [count], by simp; omega, fresh_concat ledger.fresh _, ?_,
    nodup_cons.mpr ⟨absent, ledger.once⟩, ledger.sources, ?_⟩
  · rw [map_append, map_singleton, ← append_assoc]
    exact (ledger.work.cons req.cacheKey).trans (perm_append_singleton _ _).symm
  · intro key member
    rcases mem_cons.mp member with rfl | member
    · exact base
    · exact ledger.base key member

theorem Ledger.take {req : ImageFetchReq}
    (ledger : Ledger limit loading (req :: pending) active running) (room : active < limit) :
    Ledger limit loading pending (active + 1) (running ++ [⟨req.cacheKey, false⟩]) := by
  have count := ledger.active
  refine ⟨by simp [count], by simp; omega, fresh_concat ledger.fresh _, ?_, ledger.once,
    fun other member => ledger.sources other (mem_cons_of_mem _ member), ledger.base⟩
  rw [map_append, map_singleton, ← append_assoc]
  exact ledger.work.trans (perm_append_singleton _ _).symm

theorem Ledger.finish (ledger : Ledger limit loading pending active running) {place : Nat}
    {fetch : RunningFetch} (here : running[place]? = some fetch) :
    Ledger limit (others loading fetch.key) pending (active - 1) (running.eraseIdx place) := by
  obtain ⟨inside, same⟩ := List.getElem?_eq_some_iff.mp here
  have split : List.Perm running (fetch :: running.eraseIdx place) := by
    rw [← same]
    exact (getElem_cons_eraseIdx_perm inside).symm
  have count := ledger.active
  have bounded := ledger.bounded
  refine ⟨?_, ?_, ?_, ?_, ledger.once.filter _, ledger.sources, ?_⟩
  · rw [length_eraseIdx_of_lt inside, count]
  · rw [length_eraseIdx_of_lt inside]
    omega
  · intro other member
    exact ledger.fresh other (mem_of_mem_eraseIdx member)
  · have work := ledger.work.trans ((split.map RunningFetch.key).append_left (pending.map ImageFetchReq.cacheKey))
    have front := work.trans perm_middle
    have left := front.erase fetch.key
    have same : (loading.filter fun key => key != fetch.key) = others loading fetch.key := by
      apply filter_congr
      intro key _
      by_cases equal : key = fetch.key <;> simp [equal]
    rw [erase_cons_head, ledger.once.erase_eq_filter, same] at left
    exact left
  · intro key member
    exact ledger.base key (mem_filter.mp member).1

theorem Ledger.clearAudiobookshelf (ledger : Ledger limit loading pending active running)
    (uncovered : ∀ fetch ∈ running, underAudiobookshelf fetch.key = false) :
    Ledger limit (loading.filter fun key => !underAudiobookshelf key)
      (pending.filter fun req => req.source = .emby) active running := by
  refine ⟨ledger.active, ledger.bounded, ledger.fresh, ?_, ledger.once.filter _,
    fun req member => ledger.sources req (mem_filter.mp member).1,
    fun key member => ledger.base key (mem_filter.mp member).1⟩
  have queued : (pending.filter fun req => req.source = .emby).map ImageFetchReq.cacheKey =
      (pending.map ImageFetchReq.cacheKey).filter fun key => !underAudiobookshelf key := by
    rw [filter_map]
    congr 1
    apply filter_congr
    intro req member
    have source := ledger.sources req member
    cases under : underAudiobookshelf req.cacheKey <;> simp_all
  have runs : (running.map RunningFetch.key).filter (fun key => !underAudiobookshelf key) = running.map RunningFetch.key := by
    apply filter_eq_self.mpr
    intro key member
    obtain ⟨fetch, here, rfl⟩ := mem_map.mp member
    simp [uncovered fetch here]
  rw [queued, ← runs, ← filter_append]
  exact ledger.work.filter _

end

theorem clear_running {running : List RunningFetch} {covers : String → Bool}
    (uncovered : ∀ fetch ∈ running, covers fetch.key = false) :
    running.map (fun fetch => { fetch with stale := fetch.stale || covers fetch.key }) = running := by
  conv => rhs; rw [← map_id running]
  apply map_congr_left
  intro fetch member
  rw [uncovered fetch member, Bool.or_false]
  rfl

structure Sound (limit : Nat) (s : FetchRun π) : Prop where
  ledger : Ledger limit s.cache.cardImageLoading s.cache.pendingImageFetches
    s.cache.imageFetchesActive s.running
  kept : Kept s.cache s.recent

theorem reserveFetch_cases (cache : ImageCache π) (req : ImageFetchReq) (limit now : Nat) :
    cache.reserveFetch req limit now = (.duplicate, cache) ∨
    req.cacheKey ∉ cache.cardImageLoading ∧ (cache.reserveFetch req limit now = (.queued, { cache with
        cardImageLoading := req.cacheKey :: cache.cardImageLoading
        pendingImageFetches := cache.pendingImageFetches ++ [req] }) ∨
      cache.imageFetchesActive < limit ∧ cache.reserveFetch req limit now = (.start req, { cache with
          cardImageLoading := req.cacheKey :: cache.cardImageLoading })) := by
  unfold ImageCache.reserveFetch
  split
  · exact .inl rfl
  · rename_i free
    have absent : req.cacheKey ∉ cache.cardImageLoading := by
      intro member
      simp [ImageCache.isLoading, member] at free
    refine .inr ⟨absent, ?_⟩
    dsimp only
    split
    · exact .inl rfl
    · rename_i room
      exact .inr ⟨Nat.not_le.mp room, rfl⟩

theorem takePendingFetch_cases (cache : ImageCache π) (limit : Nat) : cache.takePendingFetch limit = (none, cache) ∨
    cache.imageFetchesActive < limit ∧ ∃ req pending, cache.pendingImageFetches = req :: pending ∧
      cache.takePendingFetch limit = (some req, { cache with pendingImageFetches := pending }) := by
  unfold ImageCache.takePendingFetch
  split
  · exact .inl rfl
  · rename_i room
    split
    · exact .inl rfl
    · rename_i req pending queue
      exact .inr ⟨Nat.not_le.mp room, req, pending, queue, rfl⟩

theorem completeFetch_sameWork (cache : ImageCache π) (key : String) (entry : CachedImage π) : SameWork { cache with
      cardImageLoading := others cache.cardImageLoading key
      interruptedFetches := Function.update cache.interruptedFetches key none
      imageFetchesActive := cache.imageFetchesActive - 1 } (cache.completeFetch key entry) := by
  unfold ImageCache.completeFetch
  dsimp only
  split
  · exact ⟨(evictOldest_sameWork _).loading, (evictOldest_sameWork _).interrupted,
      (evictOldest_sameWork _).pending, (evictOldest_sameWork _).active,
      (evictOldest_sameWork _).capacity⟩
  · exact ⟨rfl, rfl, rfl, rfl, rfl⟩

theorem insertDerivedImage_sameWork (cache : ImageCache π) (key : String) (entry : CachedImage π) :
    SameWork cache (cache.insertDerivedImage key entry) := by
  unfold ImageCache.insertDerivedImage
  split <;> exact ⟨rfl, rfl, rfl, rfl, rfl⟩

variable {limit : Nat}

theorem Ledger.same {cache cache' : ImageCache π} {running : List RunningFetch}
    (ledger : Ledger limit cache.cardImageLoading cache.pendingImageFetches cache.imageFetchesActive
      running) (work : SameWork cache cache') :
    Ledger limit cache'.cardImageLoading cache'.pendingImageFetches cache'.imageFetchesActive
      running := by
  rw [work.loading, work.pending, work.active]
  exact ledger

variable {s : FetchRun π}

theorem Sound.reserve (sound : Sound limit s) {req : ImageFetchReq} {now : Nat} (orderly : Orderly s (.reserve req now)) :
    Sound limit ((cacheMachine limit).step s (.reserve req now)) := by
  obtain ⟨source, base⟩ := orderly
  have kept := sound.kept
  rcases reserveFetch_cases s.cache req limit now with
    refused | ⟨absent, queued | ⟨room, starts⟩⟩
  · simp only [cacheMachine, refused]
    exact sound
  · simp only [cacheMachine, queued]
    exact ⟨sound.ledger.queue absent source base, ⟨kept.recency, kept.room, kept.positive, kept.base⟩⟩
  · simp only [cacheMachine, starts]
    exact ⟨sound.ledger.start room absent base, ⟨kept.recency, kept.room, kept.positive, kept.base⟩⟩

theorem Sound.takePending (sound : Sound limit s) : Sound limit ((cacheMachine limit).step s .takePending) := by
  have kept := sound.kept
  rcases takePendingFetch_cases s.cache limit with nothing | ⟨room, req, pending, queue, taken⟩
  · simp only [cacheMachine, nothing]
    exact sound
  · simp only [cacheMachine, taken]
    have ledger := sound.ledger
    rw [queue] at ledger
    exact ⟨ledger.take room, ⟨kept.recency, kept.room, kept.positive, kept.base⟩⟩

theorem Sound.base_of_running (sound : Sound limit s) {place : Nat} {fetch : RunningFetch}
    (here : s.running[place]? = some fetch) : ¬ HasDerivedSep fetch.key := by
  apply sound.ledger.base
  rw [sound.ledger.work.mem_iff]
  exact mem_append_right _ (mem_map_of_mem (mem_of_getElem? here))

theorem Sound.complete (sound : Sound limit s) (place : Nat) (img : Option π) :
    Sound limit ((cacheMachine limit).step s (.complete place img)) := by
  simp only [cacheMachine]
  split
  · exact sound
  · rename_i fetch here
    have base := sound.base_of_running here
    have work := completeFetch_sameWork s.cache fetch.key ⟨img, true⟩
    have ledger := sound.ledger.finish here
    constructor
    · rw [work.loading, work.pending, work.active]
      exact ledger
    · exact sound.kept.completeFetch base img

theorem Sound.interrupted (sound : Sound limit s) (place now : Nat) :
    Sound limit ((cacheMachine limit).step s (.interrupted place now)) := by
  have kept := sound.kept
  simp only [cacheMachine]
  split
  · exact sound
  · rename_i fetch here
    exact ⟨sound.ledger.finish here, ⟨kept.recency, kept.room, kept.positive, kept.base⟩⟩

theorem Sound.step (sound : Sound limit s) {op : CacheOp π} (orderly : Orderly s op) :
    Sound limit ((cacheMachine limit).step s op) := by
  cases op with
  | reserve req now => exact sound.reserve orderly
  | takePending => exact sound.takePending
  | complete place img => exact sound.complete place img
  | interrupted place now => exact sound.interrupted place now
  | insert key img => exact ⟨sound.ledger, sound.kept.insertImage key img⟩
  | insertDerived key img =>
    exact ⟨sound.ledger.same (insertDerivedImage_sameWork s.cache key _), sound.kept.insertDerivedImage key img⟩
  | remove key => exact ⟨sound.ledger, sound.kept.removeImage key⟩
  | clearAudiobookshelf =>
    have running := clear_running orderly
    constructor
    · simp only [cacheMachine, FetchRun.clear, running]
      exact sound.ledger.clearAudiobookshelf orderly
    · exact sound.kept.clearAudiobookshelfImages
  | clearSession =>
    constructor
    · have none_ : s.running = [] := orderly
      simp only [cacheMachine, FetchRun.clear, none_]
      refine ⟨rfl, Nat.zero_le _, ?_, .refl _, nodup_nil, ?_, ?_⟩
      · intro fetch member
        cases member
      · intro req member
        cases member
      · intro key member
        cases member
    · exact sound.kept.clearSessionImageWork

theorem Sound.balanced (sound : Sound limit s) : Balanced limit s := by
  have ledger := sound.ledger
  have kept := sound.kept
  refine ⟨ledger.active, ledger.bounded, ?_, ledger.work.nodup_iff.mp ledger.once, ?_⟩
  · intro key
    rw [ImageCache.isLoading, contains_iff_mem, ledger.work.mem_iff, mem_append]
    apply or_congr_right
    constructor
    · intro member
      obtain ⟨fetch, here, rfl⟩ := mem_map.mp member
      exact ⟨fetch, here, rfl, ledger.fresh fetch here⟩
    · rintro ⟨fetch, here, rfl, -⟩
      exact mem_map_of_mem here
  · refine ⟨s.cache.imageLru.filter s.cache.keeps, kept.recency.suffix, kept.recency.nodup.filter _,
      le_trans (length_filter_le _ _) kept.room, fun key => ?_⟩
    rw [mem_filter]
    exact ⟨fun member => member.2, fun keeps => ⟨kept.recency.covered key keeps, keeps⟩⟩

theorem completeFetch_isCached (cache : ImageCache π) (key : String) (entry : CachedImage π) :
    (cache.completeFetch key entry).isCached key = true := by
  simp [ImageCache.isCached, ImageCache.completeFetch, ImageCache.insertState]

theorem isLoading_iff (cache : ImageCache π) (key : String) : cache.isLoading key = true ↔ key ∈ cache.cardImageLoading := by
  rw [ImageCache.isLoading, contains_iff_mem]

theorem settles_of_loading {op : CacheOp π} (keeps : ∀ key, key ∈ s.cache.cardImageLoading →
      key ∈ ((cacheMachine limit).step s op).cache.cardImageLoading)
    (other : ∀ place img, op ≠ .complete place img) : Settles limit s op := by
  constructor
  · intro key here gone
    have loading := (isLoading_iff _ key).mpr (keeps key ((isLoading_iff _ key).mp here))
    rw [loading] at gone
    cases gone
  · intro place img fetch same
    exact absurd same (other place img)

theorem eq_of_gone {loading : List String} {key other : String} (here : key ∈ loading)
    (gone : key ∉ others loading other) : key = other := by
  by_contra different
  exact gone (mem_filter.mpr ⟨here, decide_eq_true different⟩)

theorem Sound.settles (sound : Sound limit s) {op : CacheOp π} (orderly : Orderly s op) : Settles limit s op := by
  cases op with
  | reserve req now =>
    apply settles_of_loading _ (by intros; simp)
    intro key here
    rcases reserveFetch_cases s.cache req limit now with refused | ⟨-, queued | ⟨-, starts⟩⟩
    · simp only [cacheMachine, refused]
      exact here
    · simp only [cacheMachine, queued]
      exact mem_cons_of_mem req.cacheKey here
    · simp only [cacheMachine, starts]
      exact mem_cons_of_mem req.cacheKey here
  | takePending =>
    apply settles_of_loading _ (by intros; simp)
    intro key here
    rcases takePendingFetch_cases s.cache limit with nothing | ⟨-, req, pending, -, taken⟩
    · simp only [cacheMachine, nothing]
      exact here
    · simp only [cacheMachine, taken]
      exact here
  | complete place img =>
    constructor
    · intro key here gone
      cases runs : s.running[place]? with
      | none =>
        simp only [cacheMachine, runs] at gone
        exact absurd here (Bool.eq_false_iff.mp gone)
      | some fetch =>
        simp only [cacheMachine, runs] at gone ⊢
        have work := completeFetch_sameWork s.cache fetch.key ⟨img, true⟩
        have absent := mt (isLoading_iff _ key).mpr (Bool.eq_false_iff.mp gone)
        rw [work.loading] at absent
        obtain rfl := eq_of_gone ((isLoading_iff _ key).mp here) absent
        exact .inl (completeFetch_isCached s.cache fetch.key ⟨img, true⟩)
    · intro place img fetch _ here stale
      have fresh := sound.ledger.fresh fetch (mem_of_getElem? here)
      rw [stale] at fresh
      cases fresh
  | interrupted place now =>
    constructor
    · intro key here gone
      cases runs : s.running[place]? with
      | none =>
        simp only [cacheMachine, runs] at gone
        exact absurd here (Bool.eq_false_iff.mp gone)
      | some fetch =>
        simp only [cacheMachine, runs] at gone ⊢
        have absent := mt (isLoading_iff _ key).mpr (Bool.eq_false_iff.mp gone)
        obtain rfl := eq_of_gone ((isLoading_iff _ key).mp here) absent
        simp [ImageCache.isFetchInterrupted, ImageCache.fetchInterrupted]
    · intro place img fetch same
      cases same
  | insert key img => exact settles_of_loading (fun _ here => here) (by intros; simp)
  | insertDerived key img =>
    apply settles_of_loading _ (by intros; simp)
    intro other here
    have work := insertDerivedImage_sameWork s.cache key ⟨img, false⟩
    exact work.loading.symm ▸ here
  | remove key => exact settles_of_loading (fun _ here => here) (by intros; simp)
  | clearAudiobookshelf =>
    constructor
    · intro key here gone
      refine .inr (.inr ?_)
      by_contra uncovered
      have left : startsWith key audiobookshelfCacheKeyPrefix = false := Bool.eq_false_iff.mpr uncovered
      apply Bool.eq_false_iff.mp gone
      have loading := (isLoading_iff _ key).mp here
      exact (isLoading_iff _ key).mpr (mem_filter.mpr ⟨loading, by rw [left]; rfl⟩)
    · intro place img fetch same
      cases same
  | clearSession =>
    constructor
    · intro key _ _
      exact .inr (.inr trivial)
    · intro place img fetch same
      cases same

theorem sound_new {cacheSize : Nat} (positive : 0 < cacheSize) (limit retryDelay : Nat) :
    Sound limit ({ cache := ImageCache.new cacheSize retryDelay } : FetchRun π) := by
  constructor
  · refine ⟨rfl, Nat.zero_le _, ?_, .refl _, nodup_nil, ?_, ?_⟩
    · intro fetch member
      cases member
    · intro req member
      cases member
    · intro key member
      cases member
  · refine ⟨Recency.nil, Nat.zero_le _, ?_, ?_⟩
    · simp only [ImageCache.new, usizeMax]
      omega
    · intro key member
      cases member

theorem image_fetches_balance {cacheSize : Nat} (positive : 0 < cacheSize) (limit retryDelay : Nat)
    (ops : List (CacheOp π))
    (orderly : (cacheMachine limit).Along Orderly { cache := ImageCache.new cacheSize retryDelay } ops) :
    Balanced limit ((cacheMachine limit).run { cache := ImageCache.new cacheSize retryDelay } ops) ∧
    (cacheMachine limit).Along (Settles limit) { cache := ImageCache.new cacheSize retryDelay } ops := by
  have start : Sound limit ({ cache := ImageCache.new cacheSize retryDelay } : FetchRun π) :=
    sound_new positive limit retryDelay
  have keep : ∀ s (op : CacheOp π), Sound limit s → Orderly s op →
      Sound limit ((cacheMachine limit).step s op) := fun s op sound orderly => sound.step orderly
  constructor
  · exact (Machine.run_invariant keep start orderly).balanced
  · exact Machine.along_of_invariant keep (fun s op sound orderly => sound.settles orderly) start
      orderly

def cardReq : ImageFetchReq := ⟨"item:P", "item", "", ["Primary"], .emby⟩

def quietClear : List (CacheOp Unit) :=
  [.reserve cardReq 0, .complete 0 (some ()), .clearSession]

theorem quietClear_orderly : (cacheMachine 6).Along Orderly { cache := .new 50 10 } quietClear := by
  refine ⟨⟨by decide, ?_⟩, trivial, rfl, trivial⟩
  unfold HasDerivedSep
  decide

theorem image_fetches_balance_quietClear :
    Balanced 6 ((cacheMachine 6).run { cache := .new 50 10 } quietClear) ∧
    (cacheMachine 6).Along (Settles 6) { cache := .new 50 10 } quietClear :=
  image_fetches_balance (by decide) 6 10 quietClear quietClear_orderly

/-- The session ends with a fetch under way: its slot is given away, and its image is put back. -/
theorem image_fetches_unbalanced :
    ¬ Balanced 6 ((cacheMachine 6).run ({ cache := .new 50 10 } : FetchRun Unit)
      [.reserve cardReq 0, .clearSession]) ∧
    ¬ (cacheMachine 6).Along (Settles 6) ({ cache := .new 50 10 } : FetchRun Unit)
      [.reserve cardReq 0, .clearSession, .complete 0 (some ())] := by
  constructor
  · intro balanced
    exact absurd balanced.active (by decide)
  · rintro ⟨-, -, settles, -⟩
    have put := settles.cleared 0 (some ()) ⟨"item:P", true⟩ rfl rfl rfl rfl
    exact absurd (completeFetch_isCached _ "item:P" ⟨some (), true⟩) (Bool.eq_false_iff.mp put)

end Mbv.Images
