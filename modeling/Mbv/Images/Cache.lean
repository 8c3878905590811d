import Mathlib.Algebra.Group.Nat.Defs
import Mathlib.Data.List.Infix
import Mathlib.Logic.Function.Basic
import Mbv.Sequence.Search

namespace Mbv.Images

def audiobookshelfCacheKeyPrefix : String := "audiobookshelf:"

def derivedSep : String := ":t:"

def startsWith (key text : String) : Bool := text.toList.isPrefixOf key.toList

def beforeLast (separator : Char) (text : List Char) : Option (List Char) :=
  match text.reverse.dropWhile (· ≠ separator) with
  | [] => none
  | _ :: base => some base.reverse

/-- A cache key without its Audiobookshelf protocol suffix; other keys are identities already. -/
def cacheIdentity (key : String) : String :=
  if startsWith key audiobookshelfCacheKeyPrefix then
    ((beforeLast ':' key.toList).map String.ofList).getD key
  else key

inductive ImageSource where
  | emby
  | audiobookshelf (serverUrl apiKey : String)
deriving DecidableEq

structure ImageFetchReq where
  cacheKey : String
  itemId : String
  seriesId : String
  types : List String
  source : ImageSource

/-- `fetched` marks what a fetch resolved to. -/
structure CachedImage (π : Type) where
  img : Option π
  fetched : Bool

structure ImageCache (π : Type) where
  cardImageStates : String → Option (CachedImage π) := fun _ => none
  imageLru : List String := []
  cardImageLoading : List String := []
  interruptedFetches : String → Option Nat := fun _ => none
  interruptedFetchRetryDelay : Nat
  pendingImageFetches : List ImageFetchReq := []
  imageFetchesActive : Nat := 0
  cacheSizeTotal : Nat

inductive FetchReservation where
  | duplicate
  | queued
  | start (req : ImageFetchReq)

def usizeMax : Nat := 2 ^ 64 - 1

namespace ImageCache

variable {π : Type}

def new (cacheSize retryDelay : Nat) : ImageCache π :=
  { interruptedFetchRetryDelay := retryDelay, cacheSizeTotal := min (cacheSize * 2) usizeMax }

def isCached (cache : ImageCache π) (key : String) : Bool := (cache.cardImageStates key).isSome

def isLoading (cache : ImageCache π) (key : String) : Bool := cache.cardImageLoading.contains key

def isFetchInterrupted (cache : ImageCache π) (key : String) : Bool :=
  (cache.interruptedFetches key).isSome

def isFetchRetryWaiting (cache : ImageCache π) (key : String) (now : Nat) : Bool :=
  (cache.interruptedFetches key).any fun retryAt => now < retryAt

def insertState (cache : ImageCache π) (key : String) (entry : CachedImage π) : ImageCache π :=
  { cache with cardImageStates := Function.update cache.cardImageStates key (some entry) }

def removeDerivedVariantsForIdentity (cache : ImageCache π) (identity : String) : ImageCache π :=
  { cache with
    cardImageStates := fun key =>
      if startsWith key (identity ++ derivedSep) then none else cache.cardImageStates key
    imageLru := cache.imageLru.filter fun key => !startsWith key (identity ++ derivedSep) }

def removeDerivedVariantsFor (cache : ImageCache π) (cacheKey : String) : ImageCache π :=
  cache.removeDerivedVariantsForIdentity (cacheIdentity cacheKey)

def insertImage (cache : ImageCache π) (key : String) (entry : CachedImage π) : ImageCache π :=
  (cache.removeDerivedVariantsFor key).insertState key entry

def removeImage (cache : ImageCache π) (key : String) : ImageCache π :=
  let cache := { cache with imageLru := cache.imageLru.filter fun cached => cached ≠ key }
  let cache := cache.removeDerivedVariantsFor key
  { cache with cardImageStates := Function.update cache.cardImageStates key none }

def insertDerivedImage (cache : ImageCache π) (key : String) (entry : CachedImage π) :
    ImageCache π :=
  match Search.splitFirst derivedSep.toList key.toList with
  | none => cache.insertState key entry
  | some (identity, _) =>
    (cache.removeDerivedVariantsForIdentity (String.ofList identity)).insertState key entry

def clearImagesAndLoading (cache : ImageCache π) : ImageCache π :=
  { cache with
    cardImageStates := fun _ => none
    cardImageLoading := []
    interruptedFetches := fun _ => none }

def clearAudiobookshelfImages (cache : ImageCache π) : ImageCache π :=
  { cache with
    cardImageStates := fun key =>
      if startsWith key audiobookshelfCacheKeyPrefix then none else cache.cardImageStates key
    cardImageLoading := cache.cardImageLoading.filter fun key =>
      !startsWith key audiobookshelfCacheKeyPrefix
    interruptedFetches := fun key =>
      if startsWith key audiobookshelfCacheKeyPrefix then none else cache.interruptedFetches key
    imageLru := cache.imageLru.filter fun key => !startsWith key audiobookshelfCacheKeyPrefix
    pendingImageFetches := cache.pendingImageFetches.filter fun req => req.source = .emby }

def clearSessionImageWork (cache : ImageCache π) : ImageCache π :=
  { cache.clearImagesAndLoading with
    imageLru := []
    pendingImageFetches := []
    imageFetchesActive := 0 }

def reserveFetch (cache : ImageCache π) (req : ImageFetchReq) (limit now : Nat) :
    FetchReservation × ImageCache π :=
  if cache.isLoading req.cacheKey || cache.isCached req.cacheKey ||
      cache.isFetchRetryWaiting req.cacheKey now then (.duplicate, cache)
  else
    let cache := { cache with cardImageLoading := req.cacheKey :: cache.cardImageLoading }
    if limit ≤ cache.imageFetchesActive then
      (.queued, { cache with pendingImageFetches := cache.pendingImageFetches ++ [req] })
    else (.start req, cache)

def startFetch (cache : ImageCache π) : ImageCache π :=
  { cache with imageFetchesActive := cache.imageFetchesActive + 1 }

def takePendingFetch (cache : ImageCache π) (limit : Nat) : Option ImageFetchReq × ImageCache π :=
  if limit ≤ cache.imageFetchesActive then (none, cache)
  else
    match cache.pendingImageFetches with
    | [] => (none, cache)
    | req :: others => (some req, { cache with pendingImageFetches := others })

/-- A fetch that got no answer writes no entry. -/
def fetchInterrupted (cache : ImageCache π) (key : String) (now : Nat) : ImageCache π :=
  { cache with
    cardImageLoading := cache.cardImageLoading.filter fun loading => loading ≠ key
    imageFetchesActive := cache.imageFetchesActive - 1
    interruptedFetches :=
      Function.update cache.interruptedFetches key (some (now + cache.interruptedFetchRetryDelay)) }

@[simp] theorem removeImage_imageLru_length_le (cache : ImageCache π) (key : String) :
    (cache.removeImage key).imageLru.length ≤ cache.imageLru.length :=
  le_trans (List.length_filter_le _ _) (List.length_filter_le _ _)

def evictOldest (cache : ImageCache π) : ImageCache π :=
  match lru : cache.imageLru with
  | [] => cache
  | evict :: others =>
    if cache.cacheSizeTotal < cache.imageLru.length then
      evictOldest ({ cache with imageLru := others }.removeImage evict)
    else cache
termination_by cache.imageLru.length
decreasing_by
  have shrinks := removeImage_imageLru_length_le { cache with imageLru := others } evict
  rw [lru, List.length_cons]
  exact Nat.lt_succ_of_le shrinks

def completeFetch (cache : ImageCache π) (key : String) (entry : CachedImage π) : ImageCache π :=
  let cache := { cache with
    cardImageLoading := cache.cardImageLoading.filter fun loading => loading ≠ key
    interruptedFetches := Function.update cache.interruptedFetches key none
    imageFetchesActive := cache.imageFetchesActive - 1 }
  let cache := cache.removeDerivedVariantsFor key
  let cache :=
    if entry.img.isSome then
      evictOldest { cache with
        imageLru := (cache.imageLru.filter fun cached => cached ≠ key) ++ [key] }
    else cache
  cache.insertState key entry

end ImageCache

end Mbv.Images
