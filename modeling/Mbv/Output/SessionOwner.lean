import Mbv.Machine.Run
import Mbv.Queue.Resume
import Mbv.Player.OwnerState
import Mbv.Output.Session

namespace Mbv.Output

open Mbv.Queue Mbv.Player Mbv.Daemon

/-- A job on the output's worker, which runs them in order. `load` and `serial` are the history's. -/
inductive SessionJob where
  | poll (pollId : Nat)
  | play (load : Nat) (slot : QueueSlotId) (sessionId : String) (itemIds : List String)
      (startTicks : Int)
  | playLast (sessionId itemId : String)
  | transport (sessionId command : String)
  | lookup (serial : Nat) (itemId : String)
deriving DecidableEq

structure SessionAdmission where
  item : QueueItem
  reason : String
deriving DecidableEq

/-- A Session that advertises no kinds may play every Emby item. -/
def sessionAdmit (item : QueueItem) (playableMediaTypes : List String) :
    Except SessionAdmission EmbyItem :=
  match item with
  | .emby embyItem =>
    let kind := embyItem.mediaType
    if playableMediaTypes.isEmpty ||
        playableMediaTypes.any fun advertised => advertised.toLower == kind.toLower then
      .ok embyItem
    else .error ⟨item, "the Session does not play " ++ kind ++ " items"⟩
  | _ => .error ⟨item, "the Emby Session output plays only Emby items"⟩

def firstAdmissible (playableMediaTypes : List String) :
    List QueueSlot → Option (QueueSlotId × String) × List SessionAdmission
  | [] => (none, [])
  | slot :: slots =>
    match sessionAdmit slot.item playableMediaTypes with
    | .ok item => (some (slot.slotId, item.id), [])
    | .error rejected =>
      let (next, stepped) := firstAdmissible playableMediaTypes slots
      (next, rejected :: stepped)

def slotsAfter (queue : PlaybackQueue) (loaded : QueueSlotId) : List QueueSlot :=
  match queue.slotIndex loaded with
  | some index => queue.slots.drop (index + 1)
  | none => []

def slotRuntimeTicks (queue : PlaybackQueue) (slotId : QueueSlotId) : Int :=
  match queue.slot slotId with
  | some ⟨_, .emby item⟩ => item.runtimeTicks
  | _ => 0

/-- Everything one `play` job puts on the device. -/
structure SessionLoad where
  slot : QueueSlotId
  itemId : String
  runtimeTicks : Int
  sessionId : String
  startTicks : Int
  next : Option (QueueSlotId × String)

inductive SessionRecord where
  /-- The item is taken to have played to its end; `held` says that the queue has its slot. -/
  | ended (load : Nat) (held : Bool)
  | completed (load : Nat) (slot : QueueSlotId)
  /-- The owner moves on from the item, by its own advance or following the device's. -/
  | advanced (load : Nat)
  /-- Every client is told that the load did not start. -/
  | failed (load : Nat)
  | rejected (admission : SessionAdmission)
  | lookup (start : ContinuationStart) (presentedAt : Ticks)
  /-- The answer to lookup `answered` is adopted while `pending` is the one awaited. -/
  | adopted (answered pending load : Nat) (slot : QueueSlotId)
deriving DecidableEq

structure SessionSettings where
  control : ControlContext := { hasEmby := true }
  consume : ConsumePolicy := {}
deriving DecidableEq

/-- An owner whose output is one Emby Session. `records`, `loads` and `lookups` are its history. -/
structure SessionOwner where
  core : PlayerOwnerState
  session : EmbySessionOutput
  jobs : List SessionJob := []
  records : List SessionRecord := []
  loads : Nat := 0
  lookups : Nat := 0

namespace SessionOwner

variable (owner : SessionOwner)

def record (entry : SessionRecord) : SessionOwner :=
  { owner with records := owner.records ++ [entry] }

def reportSteppedSlots (stepped : List SessionAdmission) : SessionOwner :=
  { owner with records := owner.records ++ stepped.map .rejected }

def submit (job : SessionJob) : SessionOwner :=
  if owner.session.workerRuns then { owner with jobs := owner.jobs ++ [job] } else owner

def transport (command : String) : SessionOwner :=
  match owner.session.sessionId with
  | some sessionId => owner.submit (.transport sessionId command)
  | none => owner

def observeSlot (slotId : QueueSlotId) : SessionOwner :=
  { owner with core := owner.core.noteObservedActiveSlot (some slotId) }

def setActiveSlot (slotId : QueueSlotId) : SessionOwner :=
  { owner with core := { owner.core with queue := (owner.core.queue.setActiveSlot slotId).2 } }

def setAdvance (advance : Option OutputAdvance) : SessionOwner :=
  { owner with session := { owner.session with advance := advance } }

def clearAdvance : SessionOwner := owner.setAdvance none

def setTransitions (transitions : OwnerTransitionState) : SessionOwner :=
  { owner with core := { owner.core with transitions := transitions } }

def install (item : EmbySessionLoadedItem) : SessionOwner :=
  { owner with
    session := { owner.session with loaded := some { item with load := owner.loads } }
    loads := owner.loads + 1 }

def window (slotId : QueueSlotId) : Option (QueueSlotId × String) × List SessionAdmission :=
  firstAdmissible owner.session.playableMediaTypes (slotsAfter owner.core.queue slotId)

/-! ### Loading -/

def submitPlay (load : SessionLoad) (now : Ticks) : Option SessionOwner :=
  if owner.session.workerRuns then
    let itemIds := load.itemId :: load.next.toList.map (·.2)
    let owner :=
      owner.submit (.play owner.loads load.slot load.sessionId itemIds load.startTicks)
    let owner := { owner with
      session := { owner.session with
        queuedNext := load.next.map fun (slot, itemId) => { slot := slot, itemId := itemId }
        continuation := none } }
    some (owner.install
      { load := 0, slot := load.slot, itemId := load.itemId, runtimeTicks := load.runtimeTicks
        loadedAt := now })
  else none

def submitPlayLast (slot : QueueSlotId) (itemId : String) : Option SessionOwner :=
  match owner.session.sessionId with
  | none => none
  | some sessionId =>
    if owner.session.workerRuns then
      let owner := owner.submit (.playLast sessionId itemId)
      some { owner with
        session := { owner.session with queuedNext := some { slot := slot, itemId := itemId } } }
    else none

inductive LoadTarget where
  | absent
  | rejected (admission : SessionAdmission)
  | plays (itemId : String) (runtimeTicks : Int) (sessionId : String)

def loadTarget (slotId : QueueSlotId) : LoadTarget :=
  match owner.core.queue.slot slotId with
  | none => .absent
  | some slot =>
    match sessionAdmit slot.item owner.session.playableMediaTypes with
    | .error rejected => .rejected rejected
    | .ok item =>
      match owner.session.sessionId with
      | none => .absent
      | some sessionId => .plays item.id item.runtimeTicks sessionId

/-- One `play` job for the target and the next admissible slot. A new load replaces whatever the
    item before it had under way. -/
def putOnDevice (target : QueueSlotId) (startTicks : Int) (itemId : String) (runtimeTicks : Int)
    (sessionId : String) (now : Ticks) : SessionOwner :=
  let (next, stepped) := owner.window target
  match owner.submitPlay { slot := target, itemId, runtimeTicks, sessionId, startTicks, next }
      now with
  | none => owner
  | some owner =>
    let owner := (owner.reportSteppedSlots stepped).setActiveSlot target
    { owner with session := { owner.session with advance := none, pendingPause := false } }

/-- A transition's target is loaded. A slot the Session does not play expires the transition, and
    the one that promotes is loaded in its turn; `promotions` bounds those. -/
def dispatchWithin : Nat → SessionOwner → QueueSlotId → Int → Ticks → SessionOwner
  | promotions, owner, target, startTicks, now =>
    match owner.loadTarget target with
    | .absent => owner
    | .rejected admission =>
      let owner := owner.record (.rejected admission)
      match owner.core.transitions.expireNow with
      | (some (_, some next), transitions) =>
        let owner := owner.setTransitions transitions
        match promotions with
        | 0 => owner
        | promotions + 1 =>
          dispatchWithin promotions owner next.target
            ((resumeTicksForSlot owner.core.queue next.target).getD 0) now
      | (_, transitions) => owner.setTransitions transitions
    | .plays itemId runtimeTicks sessionId =>
      owner.putOnDevice target startTicks itemId runtimeTicks sessionId now

def dispatch (target : QueueSlotId) (startTicks : Int) (now : Ticks) : SessionOwner :=
  dispatchWithin (if owner.core.transitions.queuedLatest.isSome then 1 else 0) owner target
    startTicks now

def dispatchResuming (transition : Transition) (now : Ticks) : SessionOwner :=
  owner.dispatch transition.target
    ((resumeTicksForSlot owner.core.queue transition.target).getD 0) now

def dispatchAccepted (transition : Transition) (startTicks : Int) (now : Ticks) : SessionOwner :=
  match owner.core.transitions.accept transition with
  | (.dispatchNow accepted, transitions) =>
    (owner.setTransitions transitions).dispatch accepted.target startTicks now
  | (.queued _, transitions) => owner.setTransitions transitions

def dispatchSlotJump (transition : Transition) (now : Ticks) : SessionOwner :=
  match owner.core.transitions.accept transition with
  | (.dispatchNow accepted, transitions) =>
    (owner.setTransitions transitions).dispatchResuming accepted now
  | (.queued _, transitions) => owner.setTransitions transitions

def dispatchPromoted (promoted : Option Transition) (now : Ticks) : SessionOwner :=
  match promoted with
  | some next => owner.dispatchResuming next now
  | none => owner

def expireRemoteTransition (now : Ticks) : SessionOwner :=
  match owner.core.transitions.expireNow with
  | (some (_, promoted), transitions) =>
    (owner.setTransitions transitions).dispatchPromoted promoted now
  | (none, transitions) => owner.setTransitions transitions

/-- Only a transition in flight to the loaded slot settles. -/
def settleRemoteTransition (loadedSlot : QueueSlotId) (now : Ticks) : SessionOwner :=
  match owner.core.transitions.inFlight.filter fun transition =>
      transition.target = loadedSlot with
  | none => owner
  | some inFlight =>
    let owner := owner.observeSlot loadedSlot
    match owner.core.transitions.settle inFlight.requestId loadedSlot with
    | (.settled promoted, transitions) =>
      (owner.setTransitions transitions).dispatchPromoted promoted now
    | (.ignored, transitions) => owner.setTransitions transitions

def expireAndRedispatch (deadline : Instant) (now : Ticks) : SessionOwner :=
  match owner.core.transitions.expire deadline with
  | (.expired _ promoted, transitions) =>
    (owner.setTransitions transitions).dispatchPromoted promoted now
  | (.pending, transitions) => owner.setTransitions transitions

def dispatchStepTarget (slotId : QueueSlotId)
    (request : Option (PlaybackRequestId × PlaybackGeneration)) (direction : Direction)
    (now : Ticks) : PlaybackRequestId × SessionOwner :=
  let (identity, transitions) :=
    match request with
    | some identity => (identity, owner.core.transitions)
    | none => owner.core.transitions.mintLocalId
  (identity.1, (owner.setTransitions transitions).dispatchSlotJump
    ⟨identity.1, identity.2, slotId, .step direction⟩ now)

/-- A step on content the owner did not load is the device's own. -/
def dispatchRelativeStep (request : Option (PlaybackRequestId × PlaybackGeneration))
    (direction : Direction) (now : Ticks) : SessionOwner :=
  if owner.session.playsForeignItem then
    owner.transport (match direction with | .next => "NextTrack" | .previous => "PreviousTrack")
  else
    match owner.core.relativeStepTarget direction with
    | .jump slotId => (owner.dispatchStepTarget slotId request direction now).2
    | .coalesced | .atEdge => owner

/-! ### The advance -/

/-- The ended slot's completion, recorded as a run's `TrackCompleted` is. -/
def recordNaturalEnd (policy : ConsumePolicy) (ended : QueueSlotId) (consume : Bool) :
    SessionOwner :=
  let played := (owner.core.queue.slot ended).all fun slot => !slot.item.isAudio
  { owner with core := { owner.core with
      queue := recordCompletedSlot owner.core.queue ⟨0, ended, 0, played, consume⟩ policy } }

def recordLoadedEnd (policy : ConsumePolicy) (loaded : EmbySessionLoadedItem) (consume : Bool) :
    SessionOwner :=
  (owner.recordNaturalEnd policy loaded.slot consume).record (.completed loaded.load loaded.slot)

def noteNaturalEnd (loaded : EmbySessionLoadedItem) : SessionOwner :=
  owner.record (.ended loaded.load (owner.core.queue.slot loaded.slot).isSome)

/-- Why the Session cannot play the step's target. -/
def unplayableStepTarget (slotId : QueueSlotId) : Option SessionAdmission :=
  match owner.core.queue.slot slotId with
  | none => none
  | some slot =>
    match sessionAdmit slot.item owner.session.playableMediaTypes with
    | .error rejected => some rejected
    | .ok _ => none

def rebaseOnFailedStep : SessionOwner :=
  match owner.session.advance.bind (·.failedSlot) with
  | none => owner
  | some failed =>
    if (owner.core.queue.slot failed).isNone then owner.clearAdvance
    else owner.observeSlot failed

def takeStep (slotId : QueueSlotId) (now : Ticks) : SessionOwner :=
  let (requestId, owner) := owner.dispatchStepTarget slotId none .next now
  match owner.session.advance with
  | none => owner
  | some advance =>
    owner.setAdvance (some { advance with
      remaining := advance.remaining - 1
      stepRequest := some requestId })

def stepPast (remaining : Nat) (slotId : QueueSlotId) : SessionOwner :=
  match owner.session.advance with
  | none => owner
  | some advance =>
    (owner.setAdvance (some { advance with
      remaining := remaining
      failedSlot := some slotId })).rebaseOnFailedStep

/-- A target the Session cannot play is reported and stepped past; `remaining`, the attempts the
    advance has left, bounds that. -/
def stepTargetAdvance : Nat → SessionOwner → StepTarget → Ticks → SessionOwner
  | _, owner, .coalesced, _ | _, owner, .atEdge, _ => owner.clearAdvance
  | remaining, owner, .jump slotId, now =>
    match owner.unplayableStepTarget slotId with
    | none => owner.takeStep slotId now
    | some rejected =>
      let owner := owner.record (.rejected rejected)
      match remaining with
      | 0 | 1 => owner.clearAdvance
      | remaining + 2 =>
        let owner := owner.stepPast (remaining + 1) slotId
        if owner.session.advance.isNone then owner
        else stepTargetAdvance (remaining + 1) owner (owner.core.relativeStepTarget .next) now

def beginAdvance (policy : ConsumePolicy) (now : Ticks) : SessionOwner :=
  match owner.session.loaded with
  | none => owner
  | some loaded =>
    let owner := (owner.noteNaturalEnd loaded).observeSlot loaded.slot
    let target := owner.core.relativeStepTarget .next
    let consume := match target with | .jump _ => true | .coalesced | .atEdge => false
    let owner :=
      (owner.recordLoadedEnd policy loaded consume).record (.advanced loaded.load)
    let remaining := owner.core.queue.len
    stepTargetAdvance remaining (owner.setAdvance (some { remaining := remaining })) target now

def advanceFromNaturalEnd (policy : ConsumePolicy) (endedAt now : Ticks) : SessionOwner :=
  let owner := owner.beginAdvance policy now
  if owner.session.advance.isNone && owner.session.queuedNext.isNone &&
      owner.session.loaded.any (·.endHandled) then
    { owner with session := { owner.session with
        continuation := some (.window (endedAt + embySessionAdoptionWindow)) } }
  else owner

def resetLoadedItem (now : Ticks) : SessionOwner :=
  match owner.session.queuedNext with
  | none => owner
  | some queued =>
    let owner := { owner with session := { owner.session with
      queuedNext := none
      continuation := none
      advance := none
      pendingPause := false } }
    owner.install
      { load := 0, slot := queued.slot, itemId := queued.itemId
        runtimeTicks := slotRuntimeTicks owner.core.queue queued.slot
        loadedAt := now, seenPlaying := true }

def appendNextSlot (active : QueueSlotId) : SessionOwner :=
  match owner.window active with
  | (none, _) => owner
  | (some (slot, itemId), stepped) =>
    match owner.submitPlayLast slot itemId with
    | some owner => owner.reportSteppedSlots stepped
    | none => owner

def stopStaleAdvance : SessionOwner :=
  let owner := owner.transport "Stop"
  { owner with session := { owner.session with
      loaded := none
      queuedNext := none
      advance := none
      pendingPause := false
      continuation := none
      lastObservation := none
      observedAt := none } }

/-- The device moved to a slot the queue no longer picks; the slot it does pick is loaded. -/
def correctStaleDeviceAdvance (policy : ConsumePolicy) (advance : DeviceAdvance)
    (loaded : EmbySessionLoadedItem) (now : Ticks) : SessionOwner :=
  let (correct, stepped) := owner.window loaded.slot
  let owner := if advance.completes then owner.recordLoadedEnd policy loaded true else owner
  match correct, owner.session.sessionId with
  | none, _ => owner.stopStaleAdvance
  | some _, none => owner
  | some (slot, itemId), some sessionId =>
    let owner := owner.observeSlot slot
    let (after, afterStepped) := owner.window slot
    let load : SessionLoad :=
      { slot, itemId, runtimeTicks := slotRuntimeTicks owner.core.queue slot, sessionId
        startTicks := (resumeTicksForSlot owner.core.queue slot).getD 0, next := after }
    match owner.submitPlay load now with
    | none => owner
    | some owner =>
      let owner := (owner.reportSteppedSlots (stepped ++ afterStepped)).setActiveSlot slot
      { owner with session := { owner.session with advance := none, pendingPause := false } }

def applyDeviceAdvance (policy : ConsumePolicy) (advance : DeviceAdvance) (now : Ticks) :
    SessionOwner :=
  match owner.session.loaded with
  | none => owner
  | some loaded =>
    let owner := if advance.completes then owner.noteNaturalEnd loaded else owner
    let owner := owner.record (.advanced loaded.load)
    if advance.stale then owner.correctStaleDeviceAdvance policy advance loaded now
    else
      let owner := owner.observeSlot advance.queued
      let owner := if advance.completes then owner.recordLoadedEnd policy loaded true else owner
      (owner.resetLoadedItem now).appendNextSlot advance.queued

/-! ### The queue's end -/

def continuationStarted (policy : ConsumePolicy) (start : ContinuationStart) (now : Ticks) :
    SessionOwner :=
  let owner :=
    match owner.session.loaded.filter fun _ => start.recordsCompletion with
    | some loaded =>
      let owner := owner.noteNaturalEnd loaded
      if (owner.core.queue.slot loaded.slot).isSome then owner.recordLoadedEnd policy loaded true
      else owner
    | none => owner
  let owner := (owner.submit (.lookup start.serial start.itemId)).record (.lookup start now)
  let owner := { owner with lookups := owner.lookups + 1 }
  if owner.session.workerRuns then owner
  else { owner with session := { owner.session with continuation := none } }

def clearContinuation : SessionOwner :=
  { owner with session := { owner.session with continuation := none } }

def admissionVerdict (settings : SessionSettings) (candidate : QueueItem) : Bool :=
  settings.control.daemonAdmits candidate &&
    (sessionAdmit candidate owner.session.playableMediaTypes).isOk

def commitAdoption (answered pending : Nat) (ended : EmbySessionLoadedItem) (itemId : String)
    (item : EmbyItem) (now : Ticks) : SessionOwner :=
  let (slot, queue) := owner.core.queue.append (.emby item)
  let owner := ({ owner with core := { owner.core with queue := queue } }).observeSlot slot
  let owner := { owner with session := { owner.session with
    continuation := none
    advance := none
    pendingPause := false } }
  (owner.record (.adopted answered pending ended.load slot)).install
    { load := 0, slot := slot, itemId := itemId, runtimeTicks := item.runtimeTicks
      loadedAt := now, seenPlaying := true }

/-- A lookup's answer is adopted while it is awaited, something is tracked and the device still
    presents its item. -/
def handleLookup (settings : SessionSettings) (answered : Nat) (itemId : String)
    (result : Except String EmbyItem) (now : Ticks) : SessionOwner :=
  match owner.session.continuation with
  | some (.lookup awaited pending) =>
    if awaited = itemId then
      match result, owner.session.loaded with
      | .error _, _ | .ok _, none => owner.clearContinuation
      | .ok item, some ended =>
        if presentsItem owner.session.lastObservation itemId &&
            owner.admissionVerdict settings (.emby item) then
          owner.commitAdoption answered pending ended itemId item now
        else owner.clearContinuation
    else owner
  | _ => owner

/-! ### Failed loads -/

/-- The load is reported once, and its transition expires. -/
def failLoadedItem (now : Ticks) : SessionOwner :=
  match owner.session.loaded with
  | none => owner
  | some loaded =>
    if loaded.failureReported then owner
    else
      let owner := { owner with session := { owner.session with
        loaded := some { loaded with failureReported := true } } }
      (owner.record (.failed loaded.load)).expireRemoteTransition now

def expireUnseenLoad (now : Ticks) : SessionOwner :=
  if owner.session.loaded.any fun loaded =>
      !loaded.seenPlaying && !loaded.failureReported && decide (loaded.loadedAt ≤ now) &&
        decide (embySessionLoadTimeout ≤ now - loaded.loadedAt) then
    owner.failLoadedItem now
  else owner

def handlePlayFailed (slot : QueueSlotId) (now : Ticks) : SessionOwner :=
  if owner.session.loaded.any fun loaded => loaded.slot = slot then owner.failLoadedItem now
  else owner

/-! ### Polls and ticks -/

def setQueuedNextStale (stale : Bool) : SessionOwner :=
  { owner with session := { owner.session with
      queuedNext := owner.session.queuedNext.map fun queued => { queued with stale := stale } } }

def checkQueuedNext : SessionOwner :=
  match owner.session.loaded with
  | none => owner
  | some loaded =>
    match (owner.window loaded.slot).1, owner.session.queuedNext with
    | some (slot, itemId), none => (owner.submitPlayLast slot itemId).getD owner
    | none, none => owner
    | some (slot, _), some queued => owner.setQueuedNextStale (slot != queued.slot)
    | none, some _ => owner.setQueuedNextStale true

def setPaused (paused : Bool) : SessionOwner :=
  if owner.session.lastObservation.map (·.isPaused) = some paused then owner
  else owner.transport (if paused then "Pause" else "Unpause")

def applyPendingPause : SessionOwner :=
  if owner.session.pendingPause then
    { owner with session := { owner.session with pendingPause := false } }.setPaused true
  else owner

def applyObservation (policy : ConsumePolicy) (observation : Observation) (now : Ticks) :
    SessionOwner :=
  let owner := owner.checkQueuedNext
  let owner :=
    match observation.deviceAdvance, observation.presented with
    | some advance, _ => owner.applyDeviceAdvance policy advance now
    | none, some loadedSlot => (owner.settleRemoteTransition loadedSlot now).applyPendingPause
    | none, none => owner
  let owner :=
    match observation.endedNaturally with
    | some endedAt => owner.advanceFromNaturalEnd policy endedAt now
    | none => owner
  match observation.continuation with
  | some start => owner.continuationStarted policy start now
  | none => owner

/-- Only the result of the poll in flight is applied. -/
def handleSessions (settings : SessionSettings) (pollId : Nat)
    (result : Except String (List SessionInfo)) (now : Ticks) : SessionOwner :=
  if owner.session.pollSent.map (·.1) = some pollId then
    let owner := { owner with session := { owner.session with pollSent := none } }
    let owner :=
      match result with
      | .error _ => owner
      | .ok sessions =>
        let (observation, session) := owner.session.observe sessions owner.lookups now
        ({ owner with session := session }).applyObservation settings.consume observation now
    owner.expireUnseenLoad now
  else owner

def submitDuePoll (now : Ticks) : SessionOwner :=
  if owner.session.pollSent.isNone &&
      owner.session.lastPoll.all fun at_ => decide (embySessionPollInterval ≤ now - at_) then
    let pollId := owner.session.nextPollId
    let owner := owner.submit (.poll pollId)
    { owner with session := { owner.session with
        nextPollId := pollId + 1
        pollSent := some (pollId, now)
        lastPoll := some now } }
  else owner

def tick (now : Ticks) : SessionOwner :=
  (owner.submitDuePoll now).checkQueuedNext.expireUnseenLoad now

/-- A client's stop acts on whatever the device plays. -/
def stop : SessionOwner :=
  let owner := owner.transport "Stop"
  { owner with
    core := { owner.core with transitions := owner.core.transitions.reset }
    session := { owner.session with
      loaded := none
      advance := none
      pendingPause := false
      lastObservation := none
      observedAt := none } }

end SessionOwner

end Mbv.Output
