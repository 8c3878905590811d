import Mathlib.Algebra.Group.Int.Defs
import Mathlib.Algebra.Group.Nat.Defs
import Mathlib.Logic.Basic

namespace Mbv.Queue

/-- An Emby snapshot. `detail` is the serialized rest of the record, which only the comparison of
    whole items reads. -/
structure EmbyItem where
  id : String
  name : String
  itemType : String
  mediaType : String
  runtimeTicks : Int
  played : Bool
  playbackPositionTicks : Int
  seriesId : String
  indexNumber : Int
  parentIndexNumber : Int
  detail : String
deriving DecidableEq

def EmbyItem.isAudio (item : EmbyItem) : Bool :=
  item.mediaType == "Audio" || item.itemType == "Audio"

def EmbyItem.isVideo (item : EmbyItem) : Bool := item.mediaType == "Video"

inductive FeedKind where
  | audio
  | video
deriving DecidableEq

structure FeedEntry where
  guid : String
  title : String
  mimeType : Option String
  durationTicks : Option UInt64
  feedKind : Option FeedKind
  positionTicks : Int
  played : Bool
  detail : String
deriving DecidableEq

structure AudiobookshelfQueueItem where
  libraryItemId : String
  episodeId : String
  title : String
  durationTicks : Option UInt64
  positionTicks : Int
  played : Bool
  isFinished : Bool
  detail : String
deriving DecidableEq

structure AudiobookshelfBookQueueItem where
  libraryItemId : String
  title : String
  durationTicks : Option UInt64
  positionTicks : Int
  played : Bool
  isFinished : Bool
  detail : String
deriving DecidableEq

inductive AudiobookshelfItem where
  | episode (item : AudiobookshelfQueueItem)
  | book (item : AudiobookshelfBookQueueItem)
deriving DecidableEq

structure TwitchItem where
  url : String
  title : String
deriving DecidableEq

inductive QueueItem where
  | emby (item : EmbyItem)
  | feed (entry : FeedEntry)
  | audiobookshelf (item : AudiobookshelfItem)
  | twitch (item : TwitchItem)
deriving DecidableEq

inductive QueueItemContentId where
  | emby (id : String)
  | feed (guid : String)
  | audiobookshelf (libraryItemId episodeId : String)
  | audiobookshelfBook (libraryItemId : String)
  | twitch (url : String)
deriving DecidableEq

inductive ServiceKind where
  | emby
  | audiobookshelf
deriving DecidableEq

def durationTicksAsI64 (ticks : UInt64) : Int := ticks.toInt64.toInt

namespace AudiobookshelfItem

def duration : AudiobookshelfItem → Option UInt64
  | .episode item => item.durationTicks
  | .book item => item.durationTicks

def runtimeTicks (item : AudiobookshelfItem) : Int :=
  durationTicksAsI64 (item.duration.getD 0)

def playbackPositionTicks : AudiobookshelfItem → Int
  | .episode item => item.positionTicks
  | .book item => item.positionTicks

def played : AudiobookshelfItem → Bool
  | .episode item => item.played || item.isFinished
  | .book item => item.played || item.isFinished

def id : AudiobookshelfItem → String
  | .episode item => item.episodeId
  | .book item => item.libraryItemId

def contentId : AudiobookshelfItem → QueueItemContentId
  | .episode item => .audiobookshelf item.libraryItemId item.episodeId
  | .book item => .audiobookshelfBook item.libraryItemId

end AudiobookshelfItem

namespace QueueItem

def isAudiobookshelf : QueueItem → Bool
  | .audiobookshelf _ => true
  | _ => false

def isEmby : QueueItem → Bool
  | .emby _ => true
  | _ => false

def hasMpvUrlSource : QueueItem → Bool
  | .audiobookshelf _ => false
  | .emby _ | .feed _ | .twitch _ => true

def isAudio : QueueItem → Bool
  | .emby item => item.isAudio
  | .feed entry =>
    match entry.mimeType with
    | some mime =>
      if mime.startsWith "audio/" then true
      else if mime.startsWith "video/" then false
      else entry.feedKind == some .audio
    | none => entry.feedKind == some .audio
  | .audiobookshelf _ => true
  | .twitch _ => false

def isVideo : QueueItem → Bool
  | .emby item => item.isVideo
  | .feed entry =>
    match entry.mimeType with
    | some mime =>
      if mime.startsWith "video/" then true
      else if mime.startsWith "audio/" then false
      else entry.feedKind == some .video
    | none => entry.feedKind == some .video
  | .audiobookshelf _ => false
  | .twitch _ => true

def id : QueueItem → String
  | .emby item => item.id
  | .feed entry => entry.guid
  | .audiobookshelf item => item.id
  | .twitch item => item.url

def contentId : QueueItem → QueueItemContentId
  | .emby item => .emby item.id
  | .feed entry => .feed entry.guid
  | .audiobookshelf item => item.contentId
  | .twitch item => .twitch item.url

def runtimeTicks : QueueItem → Int
  | .emby item => item.runtimeTicks
  | .feed entry => durationTicksAsI64 (entry.durationTicks.getD 0)
  | .audiobookshelf item => item.runtimeTicks
  | .twitch _ => 0

def playbackPositionTicks : QueueItem → Int
  | .emby item => item.playbackPositionTicks
  | .feed entry => entry.positionTicks
  | .audiobookshelf item => item.playbackPositionTicks
  | .twitch _ => 0

def played : QueueItem → Bool
  | .emby item => item.played
  | .feed entry => entry.played
  | .audiobookshelf item => item.played
  | .twitch _ => false

def requiredService : QueueItem → Option ServiceKind
  | .audiobookshelf _ => some .audiobookshelf
  | .emby _ | .feed _ | .twitch _ => none

def admissibleForOwnerWithAudiobookshelf (item : QueueItem) (audioOnly : Bool)
    (hasService : ServiceKind → Bool) (canAdmitAudiobookshelf : Bool) : Bool :=
  if item.isAudiobookshelf && !canAdmitAudiobookshelf then false
  else (!audioOnly || item.isAudio) && item.requiredService.all hasService

end QueueItem

def queueItemsEqual (left right : QueueItem) : Bool := left == right

def ticksPerSecond : Int := 10000000

def meaningfulTrackCompletedProgressTicks : Int := 30 * ticksPerSecond

/-- Only an Emby video keeps the observed position of a played occurrence. -/
def playedEmbyVideo (item : QueueItem) : Bool :=
  (match item with
    | .feed _ | .twitch _ => false
    | _ => true) && !item.isAudio

inductive ProgressObservation where
  | completed (positionTicks : Int) (played : Bool)
  | stopped (positionTicks : Int) (played : Bool)

def ProgressObservation.positionToRecord (item : QueueItem) : ProgressObservation → Int
  | .completed positionTicks played =>
    if played then
      if playedEmbyVideo item then positionTicks else 0
    else if positionTicks ≥ meaningfulTrackCompletedProgressTicks && !item.isAudio then
      positionTicks
    else item.playbackPositionTicks
  | .stopped positionTicks played =>
    if played then
      if playedEmbyVideo item && positionTicks > 0 then positionTicks else 0
    else if positionTicks > 0 && !item.isAudio then positionTicks
    else item.playbackPositionTicks

def ProgressObservation.played : ProgressObservation → Bool
  | .completed _ played | .stopped _ played => played

structure SlotProgress where
  positionTicks : Int
  played : Bool

def SlotProgress.fromQueueItem (item : QueueItem) : SlotProgress where
  positionTicks := item.playbackPositionTicks
  played := item.played

def applyProgressToQueueItem (item : QueueItem) (positionTicks : Int) (played : Bool) : QueueItem :=
  match item with
  | .emby emby => .emby { emby with playbackPositionTicks := positionTicks, played := played }
  | .feed entry => .feed { entry with positionTicks := positionTicks, played := played }
  | .audiobookshelf (.episode episode) =>
    .audiobookshelf (.episode
      { episode with positionTicks := positionTicks, played := played, isFinished := played })
  | .audiobookshelf (.book book) =>
    .audiobookshelf (.book
      { book with positionTicks := positionTicks, played := played, isFinished := played })
  | .twitch twitch => .twitch twitch

@[simp] theorem applyProgress_hasMpvUrlSource (item : QueueItem) (positionTicks : Int) (played : Bool) :
    (applyProgressToQueueItem item positionTicks played).hasMpvUrlSource = item.hasMpvUrlSource := by
  rcases item with _ | _ | (_ | _) | _ <;> rfl

@[simp] theorem applyProgress_contentId (item : QueueItem) (positionTicks : Int) (played : Bool) :
    (applyProgressToQueueItem item positionTicks played).contentId = item.contentId := by
  rcases item with _ | _ | (_ | _) | _ <;> rfl

theorem fromQueueItem_applyProgress (item : QueueItem) (positionTicks : Int) (played : Bool)
    (keeps : ∀ twitch, item ≠ .twitch twitch) :
    SlotProgress.fromQueueItem (applyProgressToQueueItem item positionTicks played) = ⟨positionTicks, played⟩ := by
  rcases item with _ | _ | (_ | _) | twitch
  case twitch => exact absurd rfl (keeps twitch)
  all_goals simp [applyProgressToQueueItem, SlotProgress.fromQueueItem, QueueItem.playbackPositionTicks,
      QueueItem.played, AudiobookshelfItem.playbackPositionTicks, AudiobookshelfItem.played]

end Mbv.Queue
