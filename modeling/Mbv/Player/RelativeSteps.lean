import Mbv.Player.OwnerState
import Mbv.Queue.History

namespace Mbv.Player

open Mbv.Queue

/-! ### One step -/

def Direction.beside : Direction → Nat → Option Nat
  | next, index => some (index + 1)
  | previous, index => if index = 0 then none else some (index - 1)

def Direction.opposite : Direction → Direction
  | next => previous
  | previous => next

theorem Direction.opposite_ne (direction : Direction) : direction.opposite ≠ direction := by
  cases direction <;> decide

theorem Direction.beside_iff {direction : Direction} {index place : Nat} : direction.beside index = some place ↔
      match direction with
      | .next => place = index + 1
      | .previous => place + 1 = index := by
  cases direction with
  | next => simp [beside, eq_comm]
  | previous =>
    by_cases first : index = 0
    · simp [beside, first]
    · simp only [beside, first, if_false, Option.some.injEq]
      omega

namespace PlayerOwnerState

variable (owner : PlayerOwnerState)

def Repeats (direction : Direction) : Prop :=
  ∃ transition ∈ owner.latestTransition, transition.cause = .step direction

instance (direction : Direction) : Decidable (owner.Repeats direction) :=
  match latest : owner.latestTransition with
  | none => .isFalse fun ⟨_, member, _⟩ => by rw [latest] at member; cases member
  | some transition =>
    decidable_of_iff (transition.cause = .step direction)
      ⟨fun cause => ⟨transition, latest, cause⟩, fun ⟨other, member, cause⟩ => by
        rw [latest] at member
        exact Option.some.inj member ▸ cause⟩

/-- The reference slot of a step that is not repeated is still in the queue. -/
def ReferenceHeld (direction : Direction) : Prop :=
  owner.Repeats direction ∨ ∀ base ∈ owner.stepBase, base ∈ owner.queue.slotIds

structure StepResolved (direction : Direction) : Prop where
  coalesced : owner.relativeStepTarget direction = .coalesced ↔ owner.Repeats direction
  jump : ∀ slotId, owner.relativeStepTarget direction = .jump slotId ↔
    ¬ owner.Repeats direction ∧ ∃ base ∈ owner.stepBase, ∃ index,
      owner.queue.slotIndex base = some index ∧ ∃ place, direction.beside index = some place ∧
        owner.queue.slotIds[place]? = some slotId
  edge : owner.relativeStepTarget direction = .atEdge → owner.LeavesQueue direction

variable {owner} {direction : Direction}

theorem relativeStepTarget_eq : owner.relativeStepTarget direction = if owner.Repeats direction then .coalesced
    else
      match (owner.stepBase.bind owner.queue.slotIndex).bind fun index =>
        (direction.beside index).bind fun place => owner.queue.slotIds[place]? with
      | some slotId => .jump slotId
      | none => .atEdge := by
  have repeats : (owner.latestTransition.any fun transition =>
      decide (transition.cause = .step direction)) = true ↔ owner.Repeats direction := by
    unfold Repeats
    cases owner.latestTransition <;> simp
  unfold relativeStepTarget
  by_cases again : owner.Repeats direction
  · rw [if_pos again, if_pos (repeats.mpr again)]
  · rw [if_neg again, if_neg (mt repeats.mp again)]
    cases owner.stepBase.bind owner.queue.slotIndex with
    | none => rfl
    | some index =>
      have placed : ∀ place : Nat, owner.queue.slotIds[place]? =
          owner.queue.slots[place]?.map (·.slotId) := fun place => List.getElem?_map ..
      cases direction with
      | next =>
        simp only [Option.bind_some, Direction.beside, placed]
        cases owner.queue.slots[index + 1]? <;> rfl
      | previous =>
        by_cases first : index = 0
        · simp [Direction.beside, first]
        · simp only [Option.bind_some, Direction.beside, first, if_false, placed]
          cases owner.queue.slots[index - 1]? <;> rfl

/-- The neighbour a step goes to when it is not coalesced. -/
def neighbor (owner : PlayerOwnerState) (direction : Direction) : Option QueueSlotId :=
  (owner.stepBase.bind owner.queue.slotIndex).bind fun index =>
    (direction.beside index).bind fun place => owner.queue.slotIds[place]?

theorem neighbor_eq_some {slotId : QueueSlotId} : owner.neighbor direction = some slotId ↔
    ∃ base ∈ owner.stepBase, ∃ index, owner.queue.slotIndex base = some index ∧
      ∃ place, direction.beside index = some place ∧ owner.queue.slotIds[place]? = some slotId := by
  unfold neighbor
  constructor
  · intro chosen
    obtain ⟨index, found, chosen⟩ := Option.bind_eq_some_iff.mp chosen
    obtain ⟨base, reference, found⟩ := Option.bind_eq_some_iff.mp found
    obtain ⟨place, beside, there⟩ := Option.bind_eq_some_iff.mp chosen
    exact ⟨base, reference, index, found, place, beside, there⟩
  · rintro ⟨base, reference, index, found, place, beside, there⟩
    rw [Option.mem_def] at reference
    simp [reference, found, beside, there]

theorem relativeStepTarget_neighbor : owner.relativeStepTarget direction = if owner.Repeats direction then .coalesced
    else (owner.neighbor direction).elim .atEdge .jump := by
  rw [relativeStepTarget_eq, neighbor]
  split
  · rfl
  · split <;> rename_i chosen <;> rw [chosen] <;> rfl

theorem leavesQueue_of_held (held : ∀ base ∈ owner.stepBase, base ∈ owner.queue.slotIds)
    (none : owner.neighbor direction = none) : owner.LeavesQueue direction := by
  intro base reference
  obtain ⟨index, found⟩ := Option.isSome_iff_exists.mp (Keyed.indexOf_isSome.mpr (held base reference))
  have inside := Keyed.indexOf_lt found
  refine ⟨index, found, ?_⟩
  have alone : ∀ place, direction.beside index = some place → owner.queue.slots.length ≤ place := by
    intro place beside
    apply Nat.le_of_not_lt
    intro within
    have there : owner.queue.slotIds[place]? = some owner.queue.slots[place].slotId := by
      rw [PlaybackQueue.slotIds, List.getElem?_map, List.getElem?_eq_getElem within]
      rfl
    have some' := neighbor_eq_some.mpr ⟨base, reference, index, found, place, beside, there⟩
    rw [none] at some'
    cases some'
  cases direction with
  | next =>
    have past := alone (index + 1) rfl
    show index + 1 = owner.queue.slots.length
    omega
  | previous =>
    show index = 0
    apply Classical.byContradiction
    intro interior
    have past := alone (index - 1) (if_neg interior)
    omega

theorem relativeStepTarget_jump {slotId : QueueSlotId} : owner.relativeStepTarget direction = .jump slotId ↔
      ¬ owner.Repeats direction ∧ ∃ base ∈ owner.stepBase, ∃ index,
        owner.queue.slotIndex base = some index ∧ ∃ place, direction.beside index = some place ∧
          owner.queue.slotIds[place]? = some slotId := by
  rw [relativeStepTarget_neighbor, ← neighbor_eq_some]
  by_cases again : owner.Repeats direction
  · simp [again]
  · cases owner.neighbor direction <;> simp [again]

theorem stepResolved_iff : owner.StepResolved direction ↔ owner.ReferenceHeld direction := by
  have rule := @relativeStepTarget_neighbor owner direction
  by_cases again : owner.Repeats direction
  · rw [if_pos again] at rule
    refine iff_of_true ⟨iff_of_true rule again, fun _ => relativeStepTarget_jump, fun edge => ?_⟩ (.inl again)
    rw [rule] at edge
    cases edge
  · rw [if_neg again] at rule
    have edge : owner.relativeStepTarget direction = .atEdge ↔ owner.neighbor direction = none := by
      rw [rule]
      cases owner.neighbor direction <;> simp
    have coalesced : owner.relativeStepTarget direction ≠ .coalesced := by
      rw [rule]
      cases owner.neighbor direction <;> simp
    constructor
    · intro resolved
      refine .inr fun base reference => ?_
      apply Classical.byContradiction
      intro gone
      have absent : owner.queue.slotIndex base = none := Keyed.indexOf_none.mpr gone
      have none : owner.neighbor direction = none := by
        rw [Option.mem_def] at reference
        simp [neighbor, reference, absent]
      obtain ⟨index, found, -⟩ := resolved.edge (edge.mpr none) base reference
      rw [absent] at found
      cases found
    · rintro (repeated | held)
      · exact absurd repeated again
      · refine ⟨iff_of_false coalesced again, fun _ => relativeStepTarget_jump, fun answered => ?_⟩
        exact leavesQueue_of_held held (edge.mp answered)

end PlayerOwnerState

/-! ### Every command, observation and edit -/

/-- What reaches an owner's queue and transitions. A step or a jump carries its request identity. -/
inductive StepInput where
  | step (direction : Direction) (requestId : PlaybackRequestId) (generation : PlaybackGeneration)
  | jump (slotId : QueueSlotId) (requestId : PlaybackRequestId) (generation : PlaybackGeneration)
  | settle (requestId : PlaybackRequestId) (slotId : QueueSlotId)
  | expire (now : Instant)
  | expireNow
  | clearUnconfirmable
  | reset
  | observe (slotId : Option QueueSlotId)
  | observeTrackChange (slotId : QueueSlotId)
  | edit (op : QueueOp)
  | syncCanonicalQueue (queue : PlaybackQueue)

/-- The input asks for no jump, reports no observation and edits no queue. -/
def StepInput.Quiet : StepInput → Prop
  | step _ _ _ | settle _ _ | expire _ | expireNow | clearUnconfirmable | reset => True
  | jump _ _ _ | observe _ | observeTrackChange _ | edit _ | syncCanonicalQueue _ => False

namespace PlayerOwnerState

def accept (owner : PlayerOwnerState) (transition : Transition) : PlayerOwnerState :=
  { owner with transitions := (owner.transitions.accept transition).2 }

def takes (owner : PlayerOwnerState) : StepInput → PlayerOwnerState
  | .step direction requestId generation =>
    match owner.relativeStepTarget direction with
    | .jump slotId => owner.accept ⟨requestId, generation, slotId, .step direction⟩
    | .coalesced | .atEdge => owner
  | .jump slotId requestId generation =>
    if (owner.queue.slot slotId).isSome then owner.accept (.new requestId generation slotId)
    else owner
  | .settle requestId slotId =>
    { owner with transitions := (owner.transitions.settle requestId slotId).2 }
  | .expire now => { owner with transitions := (owner.transitions.expire now).2 }
  | .expireNow => { owner with transitions := owner.transitions.expireNow.2 }
  | .clearUnconfirmable => { owner with transitions := owner.transitions.clearUnconfirmable }
  | .reset => { owner with transitions := owner.transitions.reset }
  | .observe slotId => owner.noteObservedActiveSlot slotId
  | .observeTrackChange slotId => (owner.observeTrackChange slotId).2
  | .edit op => { owner with queue := (op.apply owner.queue).2 }
  | .syncCanonicalQueue queue => owner.syncCanonicalQueue queue

def machine : Machine PlayerOwnerState StepInput := ⟨takes⟩

/-- A transition is queued only behind one in flight. -/
def Ordered (owner : PlayerOwnerState) : Prop :=
  owner.transitions.inFlight = none → owner.transitions.queuedLatest = none

def Idle (owner : PlayerOwnerState) : Prop :=
  owner.transitions.inFlight = none ∧ owner.transitions.queuedLatest = none

variable {owner : PlayerOwnerState}

/-! What an operation on the transitions leaves of them. -/

theorem accept_cases (owner : PlayerOwnerState) (transition : Transition) : (owner.transitions.inFlight = none ∧
        (owner.accept transition).transitions.inFlight = some transition ∧
        (owner.accept transition).transitions.queuedLatest = owner.transitions.queuedLatest) ∨
      (owner.transitions.inFlight ≠ none ∧ (owner.accept transition).transitions.inFlight = owner.transitions.inFlight ∧
        (owner.accept transition).transitions.queuedLatest = some transition) := by
  unfold accept OwnerTransitionState.accept
  by_cases free : owner.transitions.inFlight = none
  · exact .inl ⟨free, by simp [free], by simp [free]⟩
  · refine .inr ⟨free, ?_, ?_⟩ <;> simp [Option.isNone_iff_eq_none, free]

inductive Promoted (before after : OwnerTransitionState) : Prop
  | kept (inFlight : after.inFlight = before.inFlight)
      (queuedLatest : after.queuedLatest = before.queuedLatest)
  | promoted (inFlight : after.inFlight = before.queuedLatest) (queuedLatest : after.queuedLatest = none)
  | cleared (inFlight : after.inFlight = before.inFlight ∨ after.inFlight = none)
      (queuedLatest : after.queuedLatest = none)

theorem settle_promoted (state : OwnerTransitionState) (requestId : PlaybackRequestId)
    (slotId : QueueSlotId) : Promoted state (state.settle requestId slotId).2 := by
  unfold OwnerTransitionState.settle
  split
  · split
    · exact .promoted rfl rfl
    · exact .kept rfl rfl
  · exact .kept rfl rfl

theorem expire_promoted (state : OwnerTransitionState) (now : Instant) : Promoted state (state.expire now).2 := by
  unfold OwnerTransitionState.expire
  split
  · exact .kept rfl rfl
  · split
    · exact .kept rfl rfl
    · split
      · exact .promoted rfl rfl
      · exact .kept rfl rfl

theorem expireNow_promoted (state : OwnerTransitionState) : Promoted state state.expireNow.2 := by
  unfold OwnerTransitionState.expireNow
  split
  · exact .kept rfl rfl
  · exact .promoted rfl rfl

theorem Promoted.mem {before after : OwnerTransitionState} (promoted : Promoted before after)
    {P : Transition → Prop} (inFlight : ∀ transition ∈ before.inFlight, P transition)
    (queued : ∀ transition ∈ before.queuedLatest, P transition) :
    (∀ transition ∈ after.inFlight, P transition) ∧ ∀ transition ∈ after.queuedLatest, P transition := by
  cases promoted with
  | kept inFlight' queued' =>
    rw [inFlight', queued']
    exact ⟨inFlight, queued⟩
  | promoted inFlight' queued' =>
    rw [inFlight', queued']
    exact ⟨queued, by simp⟩
  | cleared inFlight' queued' =>
    rw [queued']
    refine ⟨?_, by simp⟩
    rcases inFlight' with same | none
    · rw [same]
      exact inFlight
    · rw [none]
      simp

theorem Promoted.ordered {before after : OwnerTransitionState} (promoted : Promoted before after)
    (ordered : before.inFlight = none → before.queuedLatest = none) :
    after.inFlight = none → after.queuedLatest = none := by
  cases promoted with
  | kept inFlight queued =>
    rw [inFlight, queued]
    exact ordered
  | promoted _ queued => exact fun _ => queued
  | cleared _ queued => exact fun _ => queued

theorem takes_ordered (ordered : owner.Ordered) (input : StepInput) : (owner.takes input).Ordered := by
  have accepted : ∀ transition, (owner.accept transition).Ordered := by
    intro transition idle
    rcases owner.accept_cases transition with ⟨-, flying, -⟩ | ⟨busy, flying, -⟩
    · rw [flying] at idle
      cases idle
    · rw [flying] at idle
      exact absurd idle busy
  have observed : ∀ slotId, (owner.noteObservedActiveSlot slotId).Ordered := fun slotId => ordered
  cases input with
  | step direction requestId generation =>
    unfold takes
    dsimp only
    split
    · exact accepted _
    · exact ordered
    · exact ordered
  | jump slotId requestId generation =>
    unfold takes
    dsimp only
    split
    · exact accepted _
    · exact ordered
  | settle requestId slotId => exact (settle_promoted _ requestId slotId).ordered ordered
  | expire now => exact (expire_promoted _ now).ordered ordered
  | expireNow => exact (expireNow_promoted _).ordered ordered
  | clearUnconfirmable => exact fun _ => rfl
  | reset => exact fun _ => rfl
  | observe slotId => exact observed slotId
  | observeTrackChange slotId =>
    unfold takes observeTrackChange
    dsimp only
    split
    · exact ordered
    · split
      · exact ordered
      · exact observed _
  | edit op => exact ordered
  | syncCanonicalQueue queue => exact ordered

/-! ### Steps around one slot -/

def Around (queue : PlaybackQueue) (anchor : Nat) (transition : Transition) : Prop :=
  ∃ direction, transition.cause = .step direction ∧ ∃ place,
    queue.slotIndex transition.target = some place ∧
      (place = anchor ∨ direction.beside anchor = some place)

/-- While nothing but steps is asked for, every unsettled target stays around the anchor. -/
structure Anchored (anchor : Nat) (owner : PlayerOwnerState) : Prop where
  distinct : owner.queue.slotIds.Nodup
  stands : (owner.observedActiveSlot.or owner.queue.activeSlotId).bind owner.queue.slotIndex =
    some anchor
  inFlight : ∀ transition ∈ owner.transitions.inFlight, Around owner.queue anchor transition
  queued : ∀ transition ∈ owner.transitions.queuedLatest, Around owner.queue anchor transition

def WithinOne (anchor : Nat) (owner : PlayerOwnerState) : Prop :=
  ∀ transition ∈ owner.latestTransition, ∃ place,
    owner.queue.slotIndex transition.target = some place ∧ place ≤ anchor + 1 ∧ anchor ≤ place + 1

variable {anchor : Nat} {direction : Direction} {slotId : QueueSlotId}

theorem Anchored.latest (anchored : owner.Anchored anchor) :
    ∀ transition ∈ owner.latestTransition, Around owner.queue anchor transition := by
  intro transition latest
  rcases Option.or_eq_some_iff.mp latest with queued | ⟨-, flying⟩
  · exact anchored.queued transition queued
  · exact anchored.inFlight transition flying

theorem Anchored.withinOne (anchored : owner.Anchored anchor) : owner.WithinOne anchor := by
  intro transition latest
  obtain ⟨direction, -, place, found, here | beside⟩ := anchored.latest transition latest
  · exact ⟨place, found, by omega, by omega⟩
  · refine ⟨place, found, ?_⟩
    have sides := Direction.beside_iff.mp beside
    cases direction <;> dsimp only at sides <;> omega

theorem Anchored.step (anchored : owner.Anchored anchor) (requestId : PlaybackRequestId) (generation : PlaybackGeneration)
    (target : owner.relativeStepTarget direction = .jump slotId) :
    Around owner.queue anchor ⟨requestId, generation, slotId, .step direction⟩ := by
  obtain ⟨again, base, reference, index, found, place, beside, there⟩ := relativeStepTarget_jump.mp target
  have placed : owner.queue.slotIndex slotId = some place := Keyed.indexOf_of_key_at anchored.distinct there
  refine ⟨direction, rfl, place, placed, ?_⟩
  rw [Option.mem_def, stepBase] at reference
  cases latest : owner.latestTransition with
  | none =>
    rw [latest, Option.map_none, Option.none_or] at reference
    have here := anchored.stands
    rw [reference, Option.bind_some, found] at here
    obtain rfl := Option.some.inj here
    exact .inr beside
  | some transition =>
    rw [latest, Option.map_some, Option.some_or, Option.some_or] at reference
    obtain rfl := Option.some.inj reference
    obtain ⟨side, cause, held, found', stands⟩ := anchored.latest transition latest
    obtain rfl : index = held := Option.some.inj (found.symm.trans found')
    rcases stands with rfl | stands
    · exact .inr beside
    · -- The target stands beside the anchor, and a step the other way leads back to it.
      have other : direction ≠ side := fun same => again ⟨transition, latest, same ▸ cause⟩
      have back := Direction.beside_iff.mp beside
      have out := Direction.beside_iff.mp stands
      left
      cases direction <;> cases side <;> first | exact absurd rfl other | skip
      all_goals dsimp only at back out; omega

theorem Anchored.accept (anchored : owner.Anchored anchor) {transition : Transition}
    (around : Around owner.queue anchor transition) : (owner.accept transition).Anchored anchor := by
  refine ⟨anchored.distinct, anchored.stands, ?_, ?_⟩ <;> intro other member
  · rcases owner.accept_cases transition with ⟨-, flying, -⟩ | ⟨-, flying, -⟩
    · rw [flying] at member
      exact Option.some.inj member ▸ around
    · rw [flying] at member
      exact anchored.inFlight other member
  · rcases owner.accept_cases transition with ⟨-, -, queued⟩ | ⟨-, -, queued⟩
    · rw [queued] at member
      exact anchored.queued other member
    · rw [queued] at member
      exact Option.some.inj member ▸ around

theorem Anchored.promoted (anchored : owner.Anchored anchor) {transitions : OwnerTransitionState}
    (promoted : Promoted owner.transitions transitions) :
    { owner with transitions := transitions }.Anchored anchor := by
  obtain ⟨inFlight, queued⟩ := promoted.mem anchored.inFlight anchored.queued
  exact ⟨anchored.distinct, anchored.stands, inFlight, queued⟩

theorem Anchored.takes (anchored : owner.Anchored anchor) {input : StepInput} (quiet : input.Quiet) :
    (owner.takes input).Anchored anchor := by
  cases input with
  | step direction requestId generation =>
    unfold PlayerOwnerState.takes
    dsimp only
    split
    · rename_i slotId target
      exact anchored.accept (anchored.step requestId generation target)
    · exact anchored
    · exact anchored
  | settle requestId slotId => exact anchored.promoted (settle_promoted _ requestId slotId)
  | expire now => exact anchored.promoted (expire_promoted _ now)
  | expireNow => exact anchored.promoted (expireNow_promoted _)
  | clearUnconfirmable => exact anchored.promoted (.cleared (.inl rfl) rfl)
  | reset => exact anchored.promoted (.cleared (.inr rfl) rfl)
  | _ => exact quiet.elim

theorem beside_opposite {index place : Nat} (beside : direction.beside index = some place) :
    direction.opposite.beside place = some index := by
  have out := Direction.beside_iff.mp beside
  apply Direction.beside_iff.mpr
  cases direction with
  | next => exact out.symm
  | previous => exact out.symm

theorem step_back (ordered : owner.Ordered) (distinct : owner.queue.slotIds.Nodup)
    (requestId : PlaybackRequestId) (generation : PlaybackGeneration)
    (target : owner.relativeStepTarget direction = .jump slotId) :
    ∀ base ∈ owner.stepBase,
      (owner.takes (.step direction requestId generation)).relativeStepTarget direction.opposite = .jump base := by
  intro base reference
  have taken : owner.takes (.step direction requestId generation) =
      owner.accept ⟨requestId, generation, slotId, .step direction⟩ := by
    unfold takes
    dsimp only
    rw [target]
  have newest : (owner.accept ⟨requestId, generation, slotId, .step direction⟩).latestTransition =
      some ⟨requestId, generation, slotId, .step direction⟩ := by
    unfold latestTransition
    rcases owner.accept_cases ⟨requestId, generation, slotId, .step direction⟩ with
      ⟨free, flying, queued⟩ | ⟨-, -, queued⟩
    · rw [flying, queued, ordered free]
      rfl
    · rw [queued]
      rfl
  obtain ⟨-, held, reference', index, found, place, beside, there⟩ := relativeStepTarget_jump.mp target
  obtain rfl : base = held := Option.some.inj (reference.symm.trans reference')
  have other : ¬ (owner.accept ⟨requestId, generation, slotId, .step direction⟩).Repeats
      direction.opposite := by
    rintro ⟨transition, latest, cause⟩
    rw [newest] at latest
    obtain rfl := Option.some.inj latest
    exact direction.opposite_ne (TransitionCause.step.inj cause).symm
  rw [taken]
  refine relativeStepTarget_jump.mpr ⟨other, slotId, ?_, place,
    Keyed.indexOf_of_key_at distinct there, index, beside_opposite beside, Keyed.key_at_index found⟩
  unfold stepBase
  rw [newest]
  rfl

/-! ### Runs -/

def StepsResolve (owner : PlayerOwnerState) : StepInput → Prop
  | .step direction _ _ => owner.StepResolved direction
  | _ => True

/-- When a step is resolved, its reference slot has not left the queue. -/
def ReferencesHeld (owner : PlayerOwnerState) : StepInput → Prop
  | .step direction _ _ => owner.ReferenceHeld direction
  | _ => True

instance (owner : PlayerOwnerState) (direction : Direction) :
    Decidable (owner.ReferenceHeld direction) := by
  unfold ReferenceHeld
  infer_instance

instance (owner : PlayerOwnerState) (input : StepInput) : Decidable (owner.ReferencesHeld input) := by
  unfold ReferencesHeld
  split <;> infer_instance

def threeSlots : PlaybackQueue :=
  .fromQueueItems (["a", "b", "c"].map fun url => .twitch ⟨url, url⟩) none 0

end PlayerOwnerState

end Mbv.Player
