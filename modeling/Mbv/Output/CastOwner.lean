import Mbv.Machine.Run
import Mbv.Player.OwnerState
import Mbv.Output.Cast

namespace Mbv.Output

open Mbv.Queue Mbv.Player Mbv.Daemon

inductive ResolvePurpose where
  | step (slot : QueueSlotId) (generation : PlaybackGeneration)
  | handoff (slot : QueueSlotId)

structure CastResolve where
  purpose : ResolvePurpose
  item : QueueItem
  credential : Option String

structure CastOutcome where
  purpose : ResolvePurpose
  result : Except Uncastable CastSource

/-- The session a source was opened with. -/
def CastOutcome.session? (outcome : CastOutcome) : Option Nat :=
  match outcome.result with
  | .ok source => source.progress.session?
  | .error _ => none

inductive CastRecord where
  | opened (session : Nat)
  | closed (session : Nat)
  | started (load : Nat)
  | progressed (load : Nat)
  | stopped (load : Nat)
  /-- An end report of the load is acted on. -/
  | ended (load : Nat) (report : EndReport)
  /-- The item's name and the reason reach the clients, or the one that asked. -/
  | uncastable (slot : QueueSlotId) (refusal : Uncastable)
deriving DecidableEq

/-- An owner that may have a receiver as its output; otherwise the run or a Session is it.
    `resolving` are the threads at work and `outcomes` what they sent, `records`, `loads` and
    `opened` the history. -/
structure CastOwner where
  core : PlayerOwnerState
  credential : Option String := none
  cast : Option CastOutput := none
  pendingCastResolve : Option PendingCastResolve := none
  pendingCastConnect : Option PendingCastConnect := none
  presented : Presentation := {}
  resolving : List CastResolve := []
  outcomes : List CastOutcome := []
  records : List CastRecord := []
  loads : Nat := 0
  opened : Nat := 0

namespace CastOwner

variable (owner : CastOwner)

def record (entries : List CastRecord) : CastOwner :=
  { owner with records := owner.records ++ entries }

def onCast (change : CastOutput → CastOutput) : CastOwner :=
  { owner with cast := owner.cast.map change }

def loaded : Option CastLoadedItem := owner.cast.bind (·.loaded)

def advance : Option OutputAdvance := owner.cast.bind (·.advance)

def setAdvance (advance : Option OutputAdvance) : CastOwner :=
  owner.onCast fun cast => { cast with advance := advance }

def clearAdvance : CastOwner := owner.setAdvance none

def setLoaded (loaded : Option CastLoadedItem) : CastOwner :=
  owner.onCast fun cast => { cast with loaded := loaded }

def setTransitions (transitions : OwnerTransitionState) : CastOwner :=
  { owner with core := { owner.core with transitions := transitions } }

def observeSlot (slotId : QueueSlotId) : CastOwner :=
  { owner with core := owner.core.noteObservedActiveSlot (some slotId) }

def setActiveSlot (slotId : QueueSlotId) : CastOwner :=
  { owner with core := { owner.core with queue := (owner.core.queue.setActiveSlot slotId).2 } }

def refreshPresentation : CastOwner :=
  match owner.cast with
  | none => owner
  | some cast =>
    { owner with presented := presentedPlayerStatus owner.core.queue cast.loaded cast.lastStatus }

/-! ### Reporting -/

def closeReporting (reporting : Option CastReporting) : CastOwner :=
  owner.record ((reporting.bind (·.session?)).toList.map .closed)

def dropLoaded : CastOwner :=
  match owner.loaded with
  | none => owner
  | some loaded => (owner.setLoaded none).closeReporting loaded.reporting

def stopLoadedReporting : CastOwner :=
  match owner.loaded with
  | none => owner
  | some loaded =>
    if loaded.startReported && loaded.reporting.isSome then
      ((owner.setLoaded (some { loaded with reporting := none })).record
        [.stopped loaded.load]).closeReporting loaded.reporting
    else owner

def buildProgressReporting (slotId : QueueSlotId) (progress : CastProgressTarget) :
    Option CastReporting :=
  match progress with
  | .emby .. => some .emby
  | .feed _ => none
  | .audiobookshelfEpisode _ opening =>
    if owner.credential.isNone then none
    else
      match owner.core.queue.slot slotId with
      | some ⟨_, .audiobookshelf (.episode _)⟩ => some (.episode opening)
      | _ => none

def reportPresentingStatus : CastOwner :=
  match owner.cast with
  | none => owner
  | some cast =>
    match cast.loaded, cast.lastStatus with
    | some loaded, some status =>
      if presentsLoadedItem loaded status && loaded.reporting.isSome then
        let owner :=
          if loaded.startReported then owner
          else (owner.setLoaded (some { loaded with startReported := true })).record
            [.started loaded.load]
        owner.record [.progressed loaded.load]
      else owner
    | _, _ => owner

/-! ### Resolving and loading -/

/-- The target's source is resolved on a thread; a newer dispatch takes the pending record over. -/
def dispatchCastLoad (transition : Transition) (startTicks : Int) : CastOwner :=
  match owner.core.queue.slot transition.target with
  | none => owner
  | some slot =>
    let owner := owner.setActiveSlot transition.target
    { owner with
      pendingCastResolve := some { transition, startTicks }
      resolving := owner.resolving ++
        [{ purpose := .step transition.target transition.generation, item := slot.item
           credential := owner.credential }] }

def sendJump (transition : Transition) : CastOwner :=
  if owner.cast.isSome then
    owner.dispatchCastLoad transition
      ((resumeTicksForSlot owner.core.queue transition.target).getD 0)
  else owner

def sendPromoted (promoted : Option Transition) : CastOwner :=
  match promoted with
  | some next => owner.sendJump next
  | none => owner

def dispatchSlotJump (transition : Transition) : CastOwner :=
  match owner.core.transitions.accept transition with
  | (.dispatchNow accepted, transitions) => (owner.setTransitions transitions).sendJump accepted
  | (.queued _, transitions) => owner.setTransitions transitions

def dispatchAccepted (transition : Transition) (startTicks : Int) : CastOwner :=
  match owner.core.transitions.accept transition with
  | (.dispatchNow accepted, transitions) =>
    let owner := owner.setTransitions transitions
    if owner.cast.isSome then owner.dispatchCastLoad accepted startTicks else owner
  | (.queued _, transitions) => owner.setTransitions transitions

def expireRemoteTransition : Bool × CastOwner :=
  match owner.core.transitions.expireNow with
  | (some (_, promoted), transitions) =>
    (promoted.isSome, (owner.setTransitions transitions).sendPromoted promoted)
  | (none, transitions) => (false, owner.setTransitions transitions)

def settleRemoteTransition (loadedSlot : QueueSlotId) : CastOwner :=
  match owner.core.transitions.inFlight.filter fun transition =>
      transition.target = loadedSlot with
  | none => owner
  | some inFlight =>
    let owner := owner.observeSlot loadedSlot
    match owner.core.transitions.settle inFlight.requestId loadedSlot with
    | (.settled promoted, transitions) => (owner.setTransitions transitions).sendPromoted promoted
    | (.ignored, transitions) => owner.setTransitions transitions

def expireAndRedispatch (now : Instant) : CastOwner :=
  match owner.core.transitions.expire now with
  | (.expired _ promoted, transitions) => (owner.setTransitions transitions).sendPromoted promoted
  | (.pending, transitions) => owner.setTransitions transitions

/-- The item the output still has reports its stop before the new one can report its start. Without
    a receiver the reporting just built goes at once. -/
def loadResolvedSource (slotId : QueueSlotId) (source : CastSource) : CastOwner :=
  let owner := owner.stopLoadedReporting
  let reporting := owner.buildProgressReporting slotId source.progress
  if owner.cast.isSome then
    let owner := owner.dropLoaded
    let owner := owner.onCast fun cast =>
      { cast with
        loaded := some { load := owner.loads, slot := slotId, contentId := source.media.url
                         progress := source.progress, reporting := reporting }
        advance := none }
    { owner with loads := owner.loads + 1 }
  else owner.closeReporting reporting

/-! ### The advance -/

def dispatchStepTarget (slotId : QueueSlotId) (direction : Direction) :
    PlaybackRequestId × CastOwner :=
  let (identity, transitions) := owner.core.transitions.mintLocalId
  (identity.1, (owner.setTransitions transitions).dispatchSlotJump
    ⟨identity.1, identity.2, slotId, .step direction⟩)

def dispatchRelativeStep (direction : Direction) : CastOwner :=
  match owner.core.relativeStepTarget direction with
  | .jump slotId => (owner.dispatchStepTarget slotId direction).2
  | .coalesced | .atEdge => owner

/-- A receiver refuses an item only by its resolve, so every target is tried. -/
def stepTargetAdvance (target : StepTarget) : CastOwner :=
  match target with
  | .coalesced | .atEdge => owner.clearAdvance
  | .jump slotId =>
    let (requestId, owner) := owner.dispatchStepTarget slotId .next
    match owner.advance with
    | none => owner
    | some advance =>
      owner.setAdvance (some { advance with
        remaining := advance.remaining - 1
        stepRequest := some requestId })

def rebaseOnFailedStep : CastOwner :=
  match owner.advance.bind (·.failedSlot) with
  | none => owner
  | some failed =>
    if (owner.core.queue.slot failed).isNone then owner.clearAdvance
    else owner.observeSlot failed

def stepAdvance : CastOwner :=
  let owner := owner.rebaseOnFailedStep
  if owner.advance.all fun advance => advance.remaining = 0 then owner.clearAdvance
  else owner.stepTargetAdvance (owner.core.relativeStepTarget .next)

def recordNaturalEnd (policy : ConsumePolicy) (ended : QueueSlotId) (consume : Bool) : CastOwner :=
  let played := (owner.core.queue.slot ended).all fun slot => !slot.item.isAudio
  { owner with core := { owner.core with
      queue := recordCompletedSlot owner.core.queue ⟨0, ended, 0, played, consume⟩ policy } }

def beginAdvance (policy : ConsumePolicy) : CastOwner :=
  match owner.loaded with
  | none => owner
  | some loaded =>
    let owner := owner.observeSlot loaded.slot
    let target := owner.core.relativeStepTarget .next
    let consume := match target with | .jump _ => true | .coalesced | .atEdge => false
    let owner := owner.recordNaturalEnd policy loaded.slot consume
    (owner.setAdvance (some { remaining := owner.core.queue.len })).stepTargetAdvance target

def stepFailed (requestId : PlaybackRequestId) : Bool × CastOwner :=
  match owner.advance with
  | some advance =>
    if advance.stepRequest = some requestId then
      (true, owner.setAdvance (some { advance with stepRequest := none }))
    else (false, owner)
  | none => (false, owner)

def continueAfterFailedStep (failedSlot : QueueSlotId) : CastOwner :=
  match owner.advance with
  | none => owner
  | some advance =>
    (owner.setAdvance (some { advance with failedSlot := some failedSlot })).stepAdvance

def resolveFailed (pending : PendingCastResolve) (refusal : Uncastable) : CastOwner :=
  let target := pending.transition.target
  let (ownStep, owner) := owner.stepFailed pending.transition.requestId
  let owner := owner.record [.uncastable target refusal]
  let (promoted, owner) := owner.expireRemoteTransition
  if !ownStep then owner
  else if promoted then owner.clearAdvance
  else owner.continueAfterFailedStep target

/-! ### Events -/

/-- An outcome that no pending record names, or whose transition has expired, loads nothing. -/
def handleCastResolved (slotId : QueueSlotId) (generation : PlaybackGeneration)
    (result : Except Uncastable CastSource) : CastOwner :=
  match owner.pendingCastResolve.filter fun pending =>
      pending.transition.target = slotId ∧ pending.transition.generation = generation with
  | none => owner
  | some pending =>
    let owner := { owner with pendingCastResolve := none }
    match result with
    | .error refusal => owner.resolveFailed pending refusal
    | .ok source =>
      if owner.core.transitions.inFlight = some pending.transition then
        owner.loadResolvedSource slotId source
      else owner

def handleHandoffResolved (slotId : QueueSlotId) (result : Except Uncastable CastSource) :
    CastOwner :=
  match (owner.cast.bind (·.pendingHandoffLoad)).filter fun pending => pending.slot = slotId with
  | none => owner
  | some _ =>
    let owner := owner.onCast fun cast => { cast with pendingHandoffLoad := none }
    match result with
    | .ok source => owner.loadResolvedSource slotId source
    | .error refusal => owner.record [.uncastable slotId refusal]

def handleOutcome (outcome : CastOutcome) : CastOwner :=
  match outcome.purpose with
  | .step slotId generation => owner.handleCastResolved slotId generation outcome.result
  | .handoff slotId => owner.handleHandoffResolved slotId outcome.result

def applyEndReport (policy : ConsumePolicy) : CastOwner :=
  match owner.cast with
  | none => owner
  | some cast =>
    match cast.loaded, cast.lastStatus with
    | some loaded, some status =>
      match endReport loaded status with
      | none => owner
      | some report =>
        let owner := (owner.setLoaded (some { loaded with endHandled := true })).record
          [.ended loaded.load report]
        let owner := owner.stopLoadedReporting
        match report with
        | .step => owner.beginAdvance policy
        | .reportError => owner
    | _, _ => owner

def disconnectAndReconnect : CastOwner :=
  owner.onCast fun cast =>
    if cast.connection = .connected then
      { cast with connection := .disconnected, pollSent := none, reconnecting := true }
    else cast

def settleCheck (cast : CastOutput) : Option QueueSlotId :=
  match cast.loaded, cast.lastStatus with
  | some loaded, some status => if presentsLoadedItem loaded status then some loaded.slot else none
  | _, _ => none

def applyStatus (policy : ConsumePolicy) (status : CastStatus) (now : Ticks) : CastOwner :=
  let owner := owner.onCast fun cast =>
    { cast with lastStatus := some status, pollSent := none, lastPoll := some now }
  let owner :=
    match owner.cast.bind settleCheck with
    | some loadedSlot => owner.settleRemoteTransition loadedSlot
    | none => owner
  ((owner.applyEndReport policy).refreshPresentation).reportPresentingStatus

/-- Only the poll in flight of the connected receiver is answered. -/
def handleCastStatus (policy : ConsumePolicy) (receiverId : String) (pollId : Nat)
    (result : Except String CastStatus) (now : Ticks) : CastOwner :=
  if owner.cast.any fun cast => cast.receiverId = receiverId ∧ cast.connection = .connected ∧
      cast.pollSent.map (·.1) = some pollId then
    match result with
    | .ok status => owner.applyStatus policy status now
    | .error _ =>
      (owner.onCast fun cast => { cast with pollSent := none }).disconnectAndReconnect
  else owner

def handleLoadFailed (slotId : QueueSlotId) : CastOwner :=
  if owner.loaded.any fun loaded => loaded.slot = slotId then
    owner.dropLoaded.refreshPresentation.expireRemoteTransition.2
  else owner

def tickCast (now : Ticks) : CastOwner :=
  let owner := owner.onCast fun cast =>
    if cast.connection = .connected ∧ cast.pollSent.isNone ∧
        cast.lastPoll.all fun at_ => castStatusPollInterval ≤ now - at_ then
      { cast with nextPollId := cast.nextPollId + 1, pollSent := some (cast.nextPollId, now) }
    else cast
  let wedged := owner.cast.any fun cast => cast.pollSent.any fun sent =>
    castJobAnswerBound ≤ now - sent.2
  if wedged then owner.disconnectAndReconnect
  else if owner.cast.any fun cast => cast.connection = .connected then owner.refreshPresentation
  else owner

/-! ### Stops and output changes -/

def stopActiveOutput : CastOwner :=
  let owner := owner.stopLoadedReporting.dropLoaded
  let owner := owner.onCast fun cast =>
    { cast with lastStatus := none, advance := none, pendingHandoffLoad := none }
  owner.refreshPresentation

def resetSlotJumps : CastOwner := owner.setTransitions owner.core.transitions.reset

def stop : CastOwner := owner.stopActiveOutput.resetSlotJumps

def leaveReceiver : CastOwner := { owner.stop with cast := none }

def captureCastHandoff : Option HandoffPlayback :=
  match owner.loaded with
  | some loaded =>
    if owner.presented.active then
      some ⟨loaded.slot, owner.presented.positionTicks, owner.presented.paused⟩
    else none
  | none => none

def selectLocal : CastOwner :=
  let owner := { owner with pendingCastConnect := none }
  if owner.cast.isSome then owner.leaveReceiver else owner

/-- A newer selection displaces a connect under way, and the output's own receiver is not connected
    again; `elsewhere` is what another output hands over. -/
def selectReceiver (receiverId : String) (elsewhere : Option HandoffPlayback) : CastOwner :=
  let owner := { owner with pendingCastConnect := none }
  if owner.cast.any fun cast => cast.receiverId = receiverId then owner
  else
    let owner := owner.refreshPresentation
    let handoff := if owner.cast.isSome then owner.captureCastHandoff else elsewhere
    { owner with pendingCastConnect := some ⟨receiverId, handoff⟩ }

def spawnHandoffResolve (handoff : HandoffPlayback) : CastOwner :=
  match owner.core.queue.slot handoff.slot with
  | none => owner
  | some slot =>
    { owner with resolving := owner.resolving ++
        [{ purpose := .handoff handoff.slot, item := slot.item, credential := owner.credential }] }

def applyConnectedOutput (receiverId : String) (handoff : Option HandoffPlayback) : CastOwner :=
  if handoff.isNone && owner.presented.active then owner
  else
    let output : CastOutput :=
      { receiverId := receiverId
        pendingHandoffLoad := handoff.map fun handoff =>
          ⟨handoff.slot, handoff.startTicks, handoff.paused⟩ }
    let owner := { owner.leaveReceiver with cast := some output }.refreshPresentation
    match handoff with
    | some handoff => (owner.setActiveSlot handoff.slot).spawnHandoffResolve handoff
    | none => owner

def handleConnectOutcome (receiverId : String) (connected : Bool) : CastOwner :=
  match owner.pendingCastConnect.filter fun pending => pending.receiverId = receiverId with
  | none => owner
  | some pending =>
    let owner := { owner with pendingCastConnect := none }
    if connected then owner.applyConnectedOutput receiverId pending.handoff else owner

def handleReconnectOutcome (receiverId : String) (connected : Bool) (now : Ticks) : CastOwner :=
  owner.onCast fun cast =>
    if cast.receiverId = receiverId ∧ cast.reconnecting then
      if connected then
        { cast with
          reconnecting := false
          connection := .connected
          pollSent := none
          lastPoll := some now }
      else { cast with reconnecting := false }
    else cast

/-! ### The machine -/

def finishResolve (index : Nat) (answers : CastAnswers) : CastOwner :=
  match owner.resolving[index]? with
  | none => owner
  | some resolve =>
    let prepared := prepareCastSource resolve.item resolve.credential answers owner.opened
    let owner := { owner with
      resolving := owner.resolving.eraseIdx index
      outcomes := owner.outcomes ++ [⟨resolve.purpose, prepared.2⟩] }
    match prepared.1 with
    | .none => owner
    | .opened => { owner with opened := owner.opened + 1 }.record [.opened owner.opened]
    | .closed =>
      { owner with opened := owner.opened + 1 }.record [.opened owner.opened, .closed owner.opened]

def takeOutcome : CastOwner :=
  match owner.outcomes with
  | [] => owner
  | outcome :: outcomes => { owner with outcomes := outcomes }.handleOutcome outcome

end CastOwner

inductive CastInput where
  | status (policy : ConsumePolicy) (receiverId : String) (pollId : Nat)
      (result : Except String CastStatus) (now : Ticks)
  | tick (now : Ticks)
  | expire (now : Instant)
  | jump (transition : Transition)
  | play (transition : Transition) (startTicks : Int)
  | step (direction : Direction)
  | finishes (index : Nat) (answers : CastAnswers)
  | outcome
  | loadFailed (slotId : QueueSlotId)
  | stop
  | selectLocal
  | selectReceiver (receiverId : String) (elsewhere : Option HandoffPlayback)
  | connect (receiverId : String) (connected : Bool)
  | reconnect (receiverId : String) (connected : Bool) (now : Ticks)
  | sessionSelected
  /-- The queue is edited, a service is set up or goes, or another output plays. -/
  | changes (core : PlayerOwnerState) (credential : Option String) (elsewhere : Presentation)

namespace CastOwner

def step (owner : CastOwner) : CastInput → CastOwner
  | .status policy receiverId pollId result now =>
    owner.handleCastStatus policy receiverId pollId result now
  | .tick now => owner.tickCast now
  | .expire now => owner.expireAndRedispatch now
  | .jump transition => owner.dispatchSlotJump transition
  | .play transition startTicks => owner.dispatchAccepted transition startTicks
  | .step direction => owner.dispatchRelativeStep direction
  | .finishes index answers => owner.finishResolve index answers
  | .outcome => owner.takeOutcome
  | .loadFailed slotId => owner.handleLoadFailed slotId
  | .stop => owner.stop
  | .selectLocal => owner.selectLocal
  | .selectReceiver receiverId elsewhere => owner.selectReceiver receiverId elsewhere
  | .connect receiverId connected => owner.handleConnectOutcome receiverId connected
  | .reconnect receiverId connected now => owner.handleReconnectOutcome receiverId connected now
  | .sessionSelected => owner.leaveReceiver
  | .changes core credential elsewhere =>
    { owner with
      core := core
      credential := credential
      presented := if owner.cast.isSome then owner.presented else elsewhere }

def machine : Machine CastOwner CastInput := ⟨step⟩

end CastOwner

end Mbv.Output
