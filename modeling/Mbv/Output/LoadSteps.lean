import Mathlib.Logic.Relation
import Mbv.Output.SessionOwner

namespace Mbv.Output

open Mbv.Queue Mbv.Player Mbv.Daemon SessionOwner

/-- What a load is made of: what it may leave of the queue, the transitions and the advance, the
    reports of what it steps past, and what it puts on the device. -/
inductive LoadStep (now : Ticks) : SessionOwner → SessionOwner → Prop where
  | core (owner : SessionOwner) (core : PlayerOwnerState) :
      LoadStep now owner { owner with core := core }
  | advance (owner : SessionOwner) (advance : Option OutputAdvance) (pendingPause : Bool) :
      LoadStep now owner { owner with session := { owner.session with
        advance := advance, pendingPause := pendingPause } }
  | stepped (owner : SessionOwner) (admissions : List SessionAdmission) :
      LoadStep now owner (owner.reportSteppedSlots admissions)
  | transport (owner : SessionOwner) (command : String) :
      LoadStep now owner (owner.transport command)
  | marked (owner : SessionOwner) (stale : Bool) :
      LoadStep now owner (owner.setQueuedNextStale stale)
  | play {owner after : SessionOwner} {load : SessionLoad}
      (taken : owner.submitPlay load now = some after) : LoadStep now owner after
  | playLast {owner after : SessionOwner} {slot : QueueSlotId} {itemId : String}
      (unqueued : owner.session.queuedNext = none)
      (taken : owner.submitPlayLast slot itemId = some after) : LoadStep now owner after

def Loading (now : Ticks) : SessionOwner → SessionOwner → Prop :=
  Relation.ReflTransGen (LoadStep now)

variable {owner before middle after : SessionOwner} {now : Ticks}

namespace Loading

theorem refl (owner : SessionOwner) : Loading now owner owner := Relation.ReflTransGen.refl

theorem step (step : LoadStep now before after) : Loading now before after := Relation.ReflTransGen.single step

theorem trans (left : Loading now before middle) (right : Loading now middle after) :
    Loading now before after := Relation.ReflTransGen.trans left right

theorem andThen (left : Loading now before middle) (right : LoadStep now middle after) :
    Loading now before after := left.trans (.step right)

theorem transitions (owner : SessionOwner) (transitions : OwnerTransitionState) :
    Loading now owner (owner.setTransitions transitions) := .step (.core owner _)

theorem rejected (owner : SessionOwner) (admission : SessionAdmission) :
    Loading now owner (owner.record (.rejected admission)) := .step (.stepped owner [admission])

end Loading

theorem putOnDevice_steps (owner : SessionOwner) (target : QueueSlotId) (startTicks : Int)
    (itemId : String) (runtimeTicks : Int) (sessionId : String) :
    Loading now owner (owner.putOnDevice target startTicks itemId runtimeTicks sessionId now) := by
  unfold putOnDevice
  dsimp only
  split
  · exact .refl owner
  · rename_i played taken
    have stepped : Loading now owner (played.reportSteppedSlots (owner.window target).2) :=
      (Loading.step (.play taken)).andThen (.stepped played _)
    exact (stepped.andThen (.core _ _)).andThen (.advance _ none false)

theorem dispatchWithin_steps (promotions : Nat) (owner : SessionOwner) (target : QueueSlotId) (startTicks : Int) :
    Loading now owner (owner.dispatchWithin promotions target startTicks now) := by
  induction promotions generalizing owner target startTicks with
  | zero =>
    unfold dispatchWithin
    split
    · exact .refl owner
    · rename_i admission _
      have rejected : Loading now owner _ := .rejected owner admission
      dsimp only
      split <;> exact rejected.trans (.transitions _ _)
    · exact putOnDevice_steps ..
  | succ promotions ih =>
    unfold dispatchWithin
    split
    · exact .refl owner
    · rename_i admission _
      have rejected : Loading now owner _ := .rejected owner admission
      dsimp only
      split
      · exact (rejected.trans (.transitions _ _)).trans (ih _ _ _)
      · exact rejected.trans (.transitions _ _)
    · exact putOnDevice_steps ..

theorem dispatch_steps (owner : SessionOwner) (target : QueueSlotId) (startTicks : Int) :
    Loading now owner (owner.dispatch target startTicks now) := dispatchWithin_steps ..

theorem dispatchResuming_steps (owner : SessionOwner) (transition : Transition) :
    Loading now owner (owner.dispatchResuming transition now) := dispatch_steps ..

theorem dispatchAccepted_steps (owner : SessionOwner) (transition : Transition)
    (startTicks : Int) : Loading now owner (owner.dispatchAccepted transition startTicks now) := by
  unfold dispatchAccepted
  split
  · exact (Loading.transitions owner _).trans (dispatch_steps ..)
  · exact .transitions owner _

theorem dispatchSlotJump_steps (owner : SessionOwner) (transition : Transition) :
    Loading now owner (owner.dispatchSlotJump transition now) := by
  unfold SessionOwner.dispatchSlotJump
  split
  · exact (Loading.transitions owner _).trans (dispatchResuming_steps ..)
  · exact .transitions owner _

theorem dispatchPromoted_steps (owner : SessionOwner) (promoted : Option Transition) :
    Loading now owner (owner.dispatchPromoted promoted now) := by
  unfold dispatchPromoted
  split
  · exact dispatchResuming_steps ..
  · exact .refl owner

theorem expireRemoteTransition_steps (owner : SessionOwner) : Loading now owner (owner.expireRemoteTransition now) := by
  unfold expireRemoteTransition
  split
  · exact (Loading.transitions owner _).trans (dispatchPromoted_steps ..)
  · exact .transitions owner _

theorem settleRemoteTransition_steps (owner : SessionOwner) (loadedSlot : QueueSlotId) :
    Loading now owner (owner.settleRemoteTransition loadedSlot now) := by
  have observed : Loading now owner (owner.observeSlot loadedSlot) := .step (.core owner _)
  unfold settleRemoteTransition
  split
  · exact .refl owner
  · dsimp only
    split
    · exact (observed.trans (.transitions _ _)).trans (dispatchPromoted_steps ..)
    · exact observed.trans (.transitions _ _)

theorem expireAndRedispatch_steps (owner : SessionOwner) (deadline : Instant) :
    Loading now owner (owner.expireAndRedispatch deadline now) := by
  unfold SessionOwner.expireAndRedispatch
  split
  · exact (Loading.transitions owner _).trans (dispatchPromoted_steps ..)
  · exact .transitions owner _

theorem dispatchStepTarget_steps (owner : SessionOwner) (slotId : QueueSlotId)
    (request : Option (PlaybackRequestId × PlaybackGeneration)) (direction : Direction) :
    Loading now owner (owner.dispatchStepTarget slotId request direction now).2 :=
  (Loading.transitions owner _).trans (dispatchSlotJump_steps ..)

theorem dispatchRelativeStep_steps (owner : SessionOwner)
    (request : Option (PlaybackRequestId × PlaybackGeneration)) (direction : Direction) :
    Loading now owner (owner.dispatchRelativeStep request direction now) := by
  unfold dispatchRelativeStep
  split
  · exact .step (.transport owner _)
  · split
    · exact dispatchStepTarget_steps ..
    · exact .refl owner
    · exact .refl owner

theorem takeStep_steps (owner : SessionOwner) (slotId : QueueSlotId) : Loading now owner (owner.takeStep slotId now) := by
  have dispatched := @dispatchStepTarget_steps now owner slotId none .next
  unfold takeStep
  dsimp only
  split
  · exact dispatched
  · exact dispatched.andThen (.advance _ _ _)

theorem stepPast_steps (owner : SessionOwner) (remaining : Nat) (slotId : QueueSlotId) :
    Loading now owner (owner.stepPast remaining slotId) := by
  unfold stepPast
  split
  · exact .refl owner
  · rename_i advance _
    have failed : Loading now owner (owner.setAdvance (some { advance with
        remaining := remaining, failedSlot := some slotId })) := .step (.advance owner _ _)
    unfold rebaseOnFailedStep
    split
    · exact failed
    · split
      · exact failed.andThen (.advance _ none _)
      · exact failed.andThen (.core _ _)

theorem stepTargetAdvance_steps (remaining : Nat) (owner : SessionOwner) (target : StepTarget) :
    Loading now owner (owner.stepTargetAdvance remaining target now) := by
  induction remaining generalizing owner target with
  | zero =>
    cases target with
    | coalesced => exact .step (.advance owner none _)
    | atEdge => exact .step (.advance owner none _)
    | jump slotId =>
      unfold stepTargetAdvance
      split
      · exact takeStep_steps owner slotId
      · exact (Loading.rejected owner _).andThen (.advance _ none _)
  | succ remaining ih =>
    cases target with
    | coalesced => exact .step (.advance owner none _)
    | atEdge => exact .step (.advance owner none _)
    | jump slotId =>
      unfold stepTargetAdvance
      split
      · exact takeStep_steps owner slotId
      · rename_i admission _
        have rejected : Loading now owner _ := .rejected owner admission
        cases remaining with
        | zero => exact rejected.andThen (.advance _ none _)
        | succ remaining =>
          have past := rejected.trans (stepPast_steps _ (remaining + 1) slotId)
          dsimp only
          split
          · exact past
          · exact past.trans (ih _ _)

theorem resetLoadedItem_unqueued (owner : SessionOwner) : (owner.resetLoadedItem now).session.queuedNext = none := by
  unfold resetLoadedItem
  split
  · assumption
  · rfl

theorem appendNextSlot_steps (active : QueueSlotId) (unqueued : owner.session.queuedNext = none) :
    Loading now owner (owner.appendNextSlot active) := by
  unfold appendNextSlot
  split
  · exact .refl owner
  · split
    · rename_i taken
      exact (Loading.step (.playLast unqueued taken)).andThen (.stepped _ _)
    · exact .refl owner

theorem checkQueuedNext_steps (owner : SessionOwner) : Loading now owner owner.checkQueuedNext := by
  unfold checkQueuedNext
  split
  · exact .refl owner
  · split
    · rename_i slot itemId _ unqueued
      cases taken : owner.submitPlayLast slot itemId with
      | none => exact .refl owner
      | some after => exact .step (.playLast unqueued taken)
    · exact .refl owner
    · exact .step (.marked owner _)
    · exact .step (.marked owner _)

theorem setPaused_steps (owner : SessionOwner) (paused : Bool) : Loading now owner (owner.setPaused paused) := by
  unfold setPaused
  split
  · exact .refl owner
  · exact .step (.transport owner _)

theorem applyPendingPause_steps (owner : SessionOwner) : Loading now owner owner.applyPendingPause := by
  unfold applyPendingPause
  split
  · exact (Loading.step (.advance owner _ false)).trans (setPaused_steps _ true)
  · exact .refl owner

end Mbv.Output
