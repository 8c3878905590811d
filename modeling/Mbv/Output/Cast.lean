import Mbv.Queue.Resume
import Mbv.Output.Session

namespace Mbv.Output

open Mbv.Queue Mbv.Player

def castStatusPollInterval : Ticks := 70000000

def castJobAnswerBound : Ticks := 200000000

/-- `NEAR_END_SECONDS`. -/
def castNearEndTicks : Int := 15 * ticksPerSecond

inductive CastPlaybackState where
  | idle
  | playing
  | buffering
  | paused
deriving DecidableEq

inductive CastIdleReason where
  | finished
  | cancelled
  | interrupted
  | error

structure CastStatus where
  state : CastPlaybackState
  playingContentId : Option String := none
  idleReason : Option CastIdleReason := none
  positionTicks : Option Int := none
  durationTicks : Option Int := none

structure CastMediaItem where
  url : String
  contentType : String

/-- `opening` numbers the sessions that were opened; no decision reads it. -/
inductive CastProgressTarget where
  | emby (itemId mediaSourceId sessionId : String) (runtimeTicks : Int)
  | feed (guid : String)
  | audiobookshelfEpisode (sessionId : String) (opening : Nat)

def CastProgressTarget.session? : CastProgressTarget → Option Nat
  | .audiobookshelfEpisode _ opening => some opening
  | .emby .. | .feed _ => none

structure CastSource where
  media : CastMediaItem
  progress : CastProgressTarget

structure Uncastable where
  item : QueueItem
  reason : String
deriving DecidableEq

/-! ### Resolving an item's source -/

inductive AudiobookshelfSourceMethod where
  | direct
  | hls

structure AudiobookshelfPlaybackSession where
  id : String
  method : AudiobookshelfSourceMethod
  url : String
  mimeType : String

/-- What becomes of the bounded creation of a session. The client closes a session whose answer it
    cannot decode, or that is opened too late for it. -/
inductive SessionCreation where
  | opened (session : AudiobookshelfPlaybackSession)
  | undecoded (error : String)
  | failed (error : String)

structure CastAnswers where
  playbackInfo : Except String (CastMediaItem × String × String) := .error ""
  primarySource : Option String := none
  session : SessionCreation := .failed ""

inductive SessionTrace where
  | none
  | opened
  | closed

def feedContentType (entry : FeedEntry) : String :=
  match entry.mimeType.filter fun mime => mime != "" with
  | some mime => mime
  | none =>
    match entry.feedKind.getD .video with
    | .audio => "audio/mpeg"
    | .video => "video/mp4"

def appendToken (url apiKey : String) : String :=
  url ++ (if url.toList.contains '?' then "&" else "?") ++ "token=" ++ apiKey

def resolveAudiobookshelfEpisodeDispatch (session : AudiobookshelfPlaybackSession)
    (apiKey : String) : Except String CastMediaItem :=
  match session.method with
  | .hls => .error "Audiobookshelf HLS renditions are not castable"
  | .direct => .ok ⟨appendToken session.url apiKey, session.mimeType⟩

def quoted (title text : String) : String := "\"" ++ title ++ "\" " ++ text

/-- A session is opened under number `opening` for an episode, whatever its rendition. -/
def resolveAbsEpisodeCastItem (episode : AudiobookshelfQueueItem) (credential : Option String)
    (creation : SessionCreation) (opening : Nat) : SessionTrace × Except String CastSource :=
  match credential with
  | none => (.none, .error (quoted episode.title "needs Audiobookshelf, which isn't connected"))
  | some credential =>
    match creation with
    | .failed error =>
      (.none, .error (quoted episode.title "Audiobookshelf session failed: " ++ error))
    | .undecoded error =>
      (.closed, .error (quoted episode.title "Audiobookshelf session failed: " ++ error))
    | .opened session =>
      (.opened, (resolveAudiobookshelfEpisodeDispatch session credential).map fun media =>
        ⟨media, .audiobookshelfEpisode session.id opening⟩)

def prepareCastSource (item : QueueItem) (credential : Option String) (answers : CastAnswers)
    (opening : Nat) : SessionTrace × Except Uncastable CastSource :=
  match item with
  | .emby embyItem =>
    (.none, (answers.playbackInfo.mapError (Uncastable.mk item)).map fun info =>
      ⟨info.1, .emby embyItem.id info.2.1 info.2.2 embyItem.runtimeTicks⟩)
  | .feed entry =>
    (.none, match answers.primarySource with
      | some url => .ok ⟨⟨url, feedContentType entry⟩, .feed entry.guid⟩
      | none => .error ⟨item, quoted entry.title "has no media URL to cast"⟩)
  | .audiobookshelf (.episode episode) =>
    let (trace, result) :=
      resolveAbsEpisodeCastItem episode credential answers.session opening
    (trace, result.mapError (Uncastable.mk item))
  | .audiobookshelf (.book book) =>
    (.none, .error ⟨item, quoted book.title "is a multi-file audiobook and can't be cast"⟩)
  | .twitch twitch =>
    (.none, .error ⟨item, quoted twitch.title "is a Twitch URL and can't be cast"⟩)

/-! ### The output -/

inductive CastReporting where
  | emby
  | episode (opening : Nat)

def CastReporting.session? : CastReporting → Option Nat
  | .episode opening => some opening
  | .emby => none

/-- `load` numbers the loads of a run; no decision reads it. -/
structure CastLoadedItem where
  load : Nat
  slot : QueueSlotId
  contentId : String
  progress : CastProgressTarget
  endHandled : Bool := false
  reporting : Option CastReporting
  startReported : Bool := false

structure PendingHandoffLoad where
  slot : QueueSlotId
  startTicks : Int
  paused : Bool

structure PendingCastResolve where
  transition : Transition
  startTicks : Int

structure HandoffPlayback where
  slot : QueueSlotId
  startTicks : Int
  paused : Bool

structure PendingCastConnect where
  receiverId : String
  handoff : Option HandoffPlayback

structure CastOutput where
  receiverId : String
  connection : OutputConnection := .connected
  lastStatus : Option CastStatus := none
  loaded : Option CastLoadedItem := none
  lastPoll : Option Ticks := none
  pollSent : Option (Nat × Ticks) := none
  nextPollId : Nat := 0
  reconnecting : Bool := false
  advance : Option OutputAdvance := none
  pendingHandoffLoad : Option PendingHandoffLoad := none

structure Presentation where
  active : Bool := false
  paused : Bool := false
  positionTicks : Int := 0

def presentsLoadedItem (loaded : CastLoadedItem) (status : CastStatus) : Bool :=
  (match status.state with
    | .playing | .buffering | .paused => true
    | .idle => false) && status.playingContentId == some loaded.contentId

/-- A receiver that plays, the loaded item or another, is presented by what it reports; only the
    loaded item's slot has a position of its own. -/
def presentedPlayerStatus (queue : PlaybackQueue) (loaded : Option CastLoadedItem)
    (lastStatus : Option CastStatus) : Presentation :=
  match lastStatus.filter fun status => status.state ≠ .idle with
  | none => {}
  | some status =>
    let slot := (loaded.filter fun loaded => presentsLoadedItem loaded status).bind fun loaded =>
      queue.slot loaded.slot
    { active := true
      paused := status.state = .paused
      positionTicks :=
        status.positionTicks.getD (slot.elim 0 fun slot => slot.item.playbackPositionTicks) }

inductive EndReport where
  | step
  | reportError
deriving DecidableEq

def CastStatus.nearEnd (status : CastStatus) : Bool :=
  match status.positionTicks, status.durationTicks with
  | some position, some duration => duration - position ≤ castNearEndTicks
  | _, _ => false

/-- The end table: an idle report that names the loaded item, and an end not acted on yet. -/
def endReport (loaded : CastLoadedItem) (status : CastStatus) : Option EndReport :=
  if status.state ≠ .idle ∨ status.playingContentId ≠ some loaded.contentId ∨
      loaded.endHandled then none
  else
    match status.idleReason with
    | some .finished => some .step
    | some .error => some (if status.nearEnd then .step else .reportError)
    | some .cancelled | some .interrupted | none => none

end Mbv.Output
