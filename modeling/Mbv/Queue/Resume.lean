import Mbv.Queue.PlaybackQueue

namespace Mbv.Queue

def resumeThresholdPercent : Int := 1

def shouldResume (positionTicks runtimeTicks : Int) : Bool :=
  if positionTicks ≤ 0 then false
  else if 0 < runtimeTicks then
    decide (runtimeTicks * resumeThresholdPercent ≤ positionTicks * 100)
  else true

inductive ResumeSource where
  | server
  | session
  | local
  | beginning

def resumeSource : QueueItem → ResumeSource
  | .emby item => if item.isAudio then .beginning else .server
  | .feed _ => .local
  | .twitch _ => .beginning
  | .audiobookshelf _ => .session

/-- `i64::try_from(duration).unwrap_or(i64::MAX)`. -/
def localRuntimeTicks : QueueItem → Int
  | .feed entry => min (entry.durationTicks.getD 0).toNat (2 ^ 63 - 1)
  | item => item.runtimeTicks

/-- Where a start of the item begins, when not at its beginning. -/
def resumeTicksForItem (item : QueueItem) : Option Int :=
  let runtimeTicks :=
    match resumeSource item with
    | .server | .session => some item.runtimeTicks
    | .local => some (localRuntimeTicks item)
    | .beginning => none
  (runtimeTicks.filter (shouldResume item.playbackPositionTicks)).map fun _ =>
    item.playbackPositionTicks

def resumeTicksForSlot (queue : PlaybackQueue) (slotId : QueueSlotId) : Option Int :=
  (queue.slot slotId).bind fun slot => resumeTicksForItem slot.item

end Mbv.Queue
