import Mbv.Queue.ExecutionSequence
import Mbv.Player.Transition

namespace Mbv.Player

open Mbv.Queue

structure ForcedJump where
  slotId : QueueSlotId
  transition : Option Transition
  resumeTicks : Option Int
  fromIdle : Bool
deriving DecidableEq

inductive Projection where
  | playlist
  | activeFile
deriving DecidableEq

inductive JumpArm where
  | idle
  | pending (jump : ForcedJump)
  | resumeOnly (slotId : QueueSlotId) (resumeTicks : Int)
deriving DecidableEq

def JumpArm.isIdle : JumpArm → Bool
  | idle => true
  | _ => false

inductive FailurePhase where
  | beforeStart
  | afterStart
deriving DecidableEq

inductive FailureVerdict where
  | continues
  | endRun (failedSlot : Option QueueSlotId) (phase : FailurePhase)
deriving DecidableEq

structure RunPosition where
  currentIdx : Nat
  queueLen : Nat
  currentSlot : Option QueueSlotId
  jumpTargetIdx : Option Nat

structure RunLifecycle where
  began : Bool := false
  projection : Projection := .playlist
  jump : JumpArm := .idle
  /-- The run identity that already reported its `Stopped`. -/
  ended : Option PlaybackGeneration := none
deriving DecidableEq

def neighborFallback (targetIdx : Option Nat) (currentIdx : Nat) : Nat :=
  targetIdx.getD (currentIdx + 1)

def resolvedTargetIdx (position : RunPosition) : Nat :=
  neighborFallback position.jumpTargetIdx position.currentIdx

namespace RunLifecycle

def playbackStarted (lifecycle : RunLifecycle) : RunLifecycle := { lifecycle with began := true }

def forQueue (queue : ExecutionSequence) : RunLifecycle where
  projection := if queue.hasAudiobookshelfEntries then .activeFile else .playlist

def enterActiveFile (lifecycle : RunLifecycle) : RunLifecycle :=
  { lifecycle with projection := .activeFile, jump := .idle }

def isActiveFile (lifecycle : RunLifecycle) : Bool := lifecycle.projection = .activeFile

def submissionAccepted (lifecycle : RunLifecycle) : RunLifecycle :=
  { lifecycle with began := false, jump := .idle, ended := none }

def failedEntry (arm : JumpArm) (position : RunPosition) : Nat × Option QueueSlotId :=
  match arm with
  | .idle => (position.currentIdx, position.currentSlot)
  | .pending jump => (resolvedTargetIdx position, some jump.slotId)
  | .resumeOnly slotId _ => (resolvedTargetIdx position, some slotId)

def loadFailed (lifecycle : RunLifecycle) (position : RunPosition) :
    FailureVerdict × RunLifecycle :=
  let (failedIdx, failedSlot) := failedEntry lifecycle.jump position
  let disarmed := { lifecycle with jump := .idle }
  if !lifecycle.began then
    (.endRun failedSlot .beforeStart, disarmed)
  else if lifecycle.isActiveFile || failedIdx + 1 ≥ position.queueLen then
    (.endRun failedSlot .afterStart, disarmed)
  else (.continues, disarmed)

def close (lifecycle : RunLifecycle) (identity : PlaybackGeneration) : Bool × RunLifecycle :=
  if lifecycle.ended = some identity then (false, lifecycle)
  else (true, { lifecycle with ended := some identity })

def armJump (lifecycle : RunLifecycle) (jump : ForcedJump) : RunLifecycle :=
  { lifecycle with jump := if lifecycle.isActiveFile then .idle else .pending jump }

def disarmJump (lifecycle : RunLifecycle) : RunLifecycle := { lifecycle with jump := .idle }

def jumpTargetSlot (lifecycle : RunLifecycle) : Option QueueSlotId :=
  match lifecycle.jump with
  | .pending jump => some jump.slotId
  | .resumeOnly slotId _ => some slotId
  | .idle => none

/-- The marker a settled arm announces, and the resume seek it still owes. -/
def settledArm : JumpArm → Option Transition × Option (QueueSlotId × Int)
  | .idle => (none, none)
  | .pending jump => (jump.transition, jump.resumeTicks.map fun ticks => (jump.slotId, ticks))
  | .resumeOnly slotId resumeTicks => (none, some (slotId, resumeTicks))

def jumpSettledOnEndFile (lifecycle : RunLifecycle) (targetIndex : Option Nat)
    (currentIdx queueLen : Nat) : (Nat × Option Transition) × RunLifecycle :=
  let nextIdx := neighborFallback targetIndex currentIdx
  let (transition, resume) := settledArm lifecycle.jump
  let jump :=
    match resume with
    | some (slotId, resumeTicks) =>
      if nextIdx < queueLen then .resumeOnly slotId resumeTicks else .idle
    | none => .idle
  ((nextIdx, transition), { lifecycle with jump := jump })

/-- Only a jump that armed from idle settles on a restart. -/
def jumpSettledOnRestart (lifecycle : RunLifecycle) :
    Option (QueueSlotId × Option Transition) × RunLifecycle :=
  match lifecycle.jump with
  | .pending jump =>
    if jump.fromIdle then
      (some (jump.slotId, jump.transition),
        { lifecycle with
          jump :=
            match jump.resumeTicks with
            | some resumeTicks => .resumeOnly jump.slotId resumeTicks
            | none => .idle })
    else (none, lifecycle)
  | _ => (none, lifecycle)

def resumeTicks : JumpArm → Option Int
  | .pending jump => jump.resumeTicks
  | .resumeOnly _ resumeTicks => some resumeTicks
  | .idle => none

def takeResumeTicks (lifecycle : RunLifecycle) : Option Int × RunLifecycle :=
  match resumeTicks lifecycle.jump with
  | some ticks => (some ticks, { lifecycle with jump := .idle })
  | none => (none, lifecycle)

end RunLifecycle

end Mbv.Player
