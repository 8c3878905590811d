import Mbv.Queue.SlotIdentity
import Mbv.Player.Transition

namespace Mbv.Player

open Mbv.Queue

inductive StepTarget where
  | jump (slotId : QueueSlotId)
  | coalesced
  | atEdge
deriving DecidableEq

/-- The owner's authority over its queue. The observed slot follows a run's observations, never the
    acceptance of a command. -/
structure PlayerOwnerState where
  queue : PlaybackQueue
  observedActiveSlot : Option QueueSlotId := none
  transitions : OwnerTransitionState := {}
deriving DecidableEq

namespace PlayerOwnerState

def new (queue : PlaybackQueue) : PlayerOwnerState := { queue := queue }

variable (owner : PlayerOwnerState)

def noteObservedActiveSlot (slotId : Option QueueSlotId) : PlayerOwnerState :=
  { owner with
    observedActiveSlot := slotId
    queue :=
      match slotId with
      | some slotId => (owner.queue.setActiveSlot slotId).2
      | none => owner.queue }

/-- A slot the queue no longer holds is a stale report; it is not repaired by position. -/
def observeTrackChange (slotId : QueueSlotId) :
    Option (Nat × QueueSlotId) × PlayerOwnerState :=
  match owner.queue.slotIndex slotId with
  | none => (none, owner)
  | some index =>
    match owner.queue.slots[index]? with
    | none => (none, owner)
    | some slot =>
      (some (index, slot.slotId), owner.noteObservedActiveSlot (some slot.slotId))

def syncCanonicalQueue (queue : PlaybackQueue) : PlayerOwnerState :=
  let observed := owner.observedActiveSlot.filter fun slotId => (queue.slot slotId).isSome
  { owner with
    observedActiveSlot := observed
    queue :=
      match observed with
      | some slotId => (queue.setActiveSlot slotId).2
      | none => queue.clearActiveSlot }

/-- The newest transition the output has not confirmed. -/
def latestTransition : Option Transition :=
  owner.transitions.queuedLatest.or owner.transitions.inFlight

def stepBase : Option QueueSlotId :=
  ((owner.latestTransition.map (·.target)).or owner.observedActiveSlot).or
    owner.queue.activeSlotId

def relativeStepTarget (direction : Direction) : StepTarget :=
  if owner.latestTransition.any fun transition => transition.cause = .step direction then
    .coalesced
  else
    match owner.stepBase.bind owner.queue.slotIndex with
    | none => .atEdge
    | some index =>
      let neighbor :=
        match direction with
        | .next => some (index + 1)
        | .previous => if index = 0 then none else some (index - 1)
      match neighbor.bind fun index => owner.queue.slots[index]? with
      | some slot => .jump slot.slotId
      | none => .atEdge

structure Live : Prop where
  observed : ∀ slotId ∈ owner.observedActiveSlot, slotId ∈ owner.queue.slotIds
  active : ∀ slotId ∈ owner.queue.activeSlotId, slotId ∈ owner.queue.slotIds
  inFlight : ∀ transition ∈ owner.transitions.inFlight, transition.target ∈ owner.queue.slotIds
  queued : ∀ transition ∈ owner.transitions.queuedLatest,
    transition.target ∈ owner.queue.slotIds

/-- A step in this direction has no slot to go to: nothing is playing or selected, or what is stands
    at that end of the queue. -/
def LeavesQueue (direction : Direction) : Prop :=
  ∀ slotId ∈ owner.stepBase, ∃ index, owner.queue.slotIndex slotId = some index ∧
    match direction with
    | .next => index + 1 = owner.queue.len
    | .previous => index = 0

end PlayerOwnerState

end Mbv.Player

namespace Mbv.Queue.PlaybackQueue

variable {queue : PlaybackQueue}

@[simp] theorem setActiveSlot_slots (slotId : QueueSlotId) : (queue.setActiveSlot slotId).2.slots = queue.slots := by
  unfold setActiveSlot
  split
  · rfl
  · split <;> rfl

@[simp] theorem setActiveSlot_slotIds (slotId : QueueSlotId) : (queue.setActiveSlot slotId).2.slotIds = queue.slotIds := by
  simp [slotIds]

theorem setActiveSlot_active {slotId active : QueueSlotId} (marked : (queue.setActiveSlot slotId).2.activeSlotId = some active) :
    queue.activeSlotId = some active ∨ active = slotId ∧ slotId ∈ queue.slotIds := by
  unfold setActiveSlot at marked
  split at marked
  · exact .inl marked
  · rename_i held
    split at marked
    · refine .inr ⟨(Option.some.inj marked).symm, ?_⟩
      by_contra absent
      exact held (slotIndex_isNone.mpr absent)
    · exact .inl marked

theorem setActiveSlot_live (live : ∀ slotId ∈ queue.activeSlotId, slotId ∈ queue.slotIds) (slotId : QueueSlotId) :
    ∀ active ∈ (queue.setActiveSlot slotId).2.activeSlotId, active ∈ queue.slotIds := by
  intro active marked
  rcases setActiveSlot_active marked with before | ⟨rfl, held⟩
  · exact live active before
  · exact held

end Mbv.Queue.PlaybackQueue

namespace Mbv.Player.PlayerOwnerState

open Mbv.Queue

variable {owner : PlayerOwnerState}

theorem Live.stepBase (live : owner.Live) : ∀ slotId ∈ owner.stepBase, slotId ∈ owner.queue.slotIds := by
  intro slotId base
  unfold PlayerOwnerState.stepBase latestTransition at base
  rw [Option.mem_def, Option.or_eq_some_iff, Option.or_eq_some_iff] at base
  rcases base with (desired | ⟨-, observed⟩) | ⟨-, active⟩
  · obtain ⟨transition, latest, rfl⟩ := Option.map_eq_some_iff.mp desired
    rcases Option.or_eq_some_iff.mp latest with queued | ⟨-, inFlight⟩
    · exact live.queued transition queued
    · exact live.inFlight transition inFlight
  · exact live.observed slotId observed
  · exact live.active slotId active

theorem Live.atEdge (live : owner.Live) {direction : Direction}
    (edge : owner.relativeStepTarget direction = .atEdge) : owner.LeavesQueue direction := by
  intro slotId base
  have held := live.stepBase slotId base
  obtain ⟨index, found⟩ := Option.isSome_iff_exists.mp (Keyed.indexOf_isSome.mpr held)
  have inside := Keyed.indexOf_lt found
  refine ⟨index, found, ?_⟩
  rw [Option.mem_def] at base
  have at_index : owner.stepBase.bind owner.queue.slotIndex = some index := by
    rw [base]
    exact found
  unfold relativeStepTarget at edge
  rw [at_index] at edge
  split at edge
  · cases edge
  · cases direction with
    | next =>
      cases beyond : owner.queue.slots[index + 1]? with
      | some slot => simp [beyond] at edge
      | none =>
        have past := List.getElem?_eq_none_iff.mp beyond
        show index + 1 = owner.queue.slots.length
        omega
    | previous =>
      by_contra interior
      have before : index - 1 < owner.queue.slots.length := by omega
      simp [show index ≠ 0 from interior, List.getElem?_eq_getElem before] at edge

theorem live_new {queue : PlaybackQueue} (active : ∀ slotId ∈ queue.activeSlotId, slotId ∈ queue.slotIds) : (new queue).Live :=
  ⟨by simp [new], active, by simp [new], by simp [new]⟩

theorem Live.note (live : owner.Live) {slotId : Option QueueSlotId} (held : ∀ id ∈ slotId, id ∈ owner.queue.slotIds) :
    (owner.noteObservedActiveSlot slotId).Live := by
  cases slotId with
  | none => exact ⟨fun _ => nofun, live.active, live.inFlight, live.queued⟩
  | some slotId =>
    unfold noteObservedActiveSlot
    refine ⟨?_, ?_, ?_, ?_⟩ <;> simp only [PlaybackQueue.setActiveSlot_slotIds]
    · exact held
    · exact PlaybackQueue.setActiveSlot_live live.active slotId
    · exact live.inFlight
    · exact live.queued

theorem Live.withQueue (live : owner.Live) {queue : PlaybackQueue} (kept : ∀ id ∈ owner.queue.slotIds, id ∈ queue.slotIds)
    (active : ∀ slotId ∈ queue.activeSlotId, slotId ∈ queue.slotIds) :
    { owner with queue := queue }.Live :=
  ⟨fun id observed => kept id (live.observed id observed), active,
    fun transition flying => kept _ (live.inFlight transition flying),
    fun transition queued => kept _ (live.queued transition queued)⟩

theorem Live.setActiveSlot (live : owner.Live) (slotId : QueueSlotId) :
    { owner with queue := (owner.queue.setActiveSlot slotId).2 }.Live := by
  refine live.withQueue (by simp) ?_
  rw [PlaybackQueue.setActiveSlot_slotIds]
  exact PlaybackQueue.setActiveSlot_live live.active slotId

theorem Live.reset (live : owner.Live) : { owner with transitions := owner.transitions.reset }.Live :=
  ⟨live.observed, live.active, fun _ => nofun, fun _ => nofun⟩

theorem Live.observeTrackChange (live : owner.Live) (slotId : QueueSlotId) : (owner.observeTrackChange slotId).2.Live := by
  unfold PlayerOwnerState.observeTrackChange
  split
  · exact live
  · split
    · exact live
    · rename_i slot there
      have held : slot.slotId ∈ owner.queue.slotIds := List.mem_map_of_mem (List.mem_of_getElem? there)
      exact live.note fun id same => Option.some.inj same ▸ held

end Mbv.Player.PlayerOwnerState
