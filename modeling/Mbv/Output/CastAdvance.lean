import Mbv.Sequence.Seek
import Mbv.Output.CastReporting
import Mbv.Output.SessionAdvance

namespace Mbv.Output

open Mbv.Queue Mbv.Player Mbv.Daemon List

def ResolvePurpose.stepped : ResolvePurpose → Option QueueSlotId
  | .step slotId _ => some slotId
  | .handoff _ => none

def CastRecord.refused : CastRecord → Option QueueSlotId
  | .uncastable slotId _ => some slotId
  | _ => none

namespace CastOwner

def stepped (owner : CastOwner) : List QueueSlotId :=
  owner.resolving.filterMap (·.purpose.stepped)

def refusals (owner : CastOwner) : List QueueSlotId :=
  owner.records.filterMap (·.refused)

def onReceiver (owner : CastOwner) : Option (Nat × QueueSlotId) :=
  owner.loaded.map fun item => (item.load, item.slot)

def ownStep (owner : CastOwner) : Option PendingCastResolve :=
  owner.pendingCastResolve.filter fun pending =>
    owner.advance.any fun advance => advance.stepRequest = some pending.transition.requestId

/-- A client takes a slot out of the queue. Nothing in flight can settle once that is the active
    slot. -/
def removeSlot (owner : CastOwner) (slotId : QueueSlotId) : CastOwner :=
  if (owner.core.queue.slot slotId).isNone then owner
  else
    let removed := { owner with
      core := { owner.core with queue := removeHeldSlot owner.core.queue slotId } }
    if owner.core.queue.activeSlotId = some slotId then removed.resetSlotJumps else removed

def answer (owner : CastOwner) (pending : PendingCastResolve)
    (result : Except Uncastable CastSource) : CastOwner :=
  owner.handleOutcome
    ⟨.step pending.transition.target pending.transition.generation, result⟩

/-- The advance goes on until it waits for no resolve, or `gone`, which has the slots taken out while
    each of its resolves is under way, has no more. -/
def answerSteps (verdict : QueueSlotId → Except Uncastable CastSource) :
    List (List QueueSlotId) → CastOwner → CastOwner
  | [], owner => owner
  | gone :: later, owner =>
    match owner.ownStep with
    | none => owner
    | some pending =>
      answerSteps verdict later
        ((gone.foldl removeSlot owner).answer pending (verdict pending.transition.target))

variable {owner : CastOwner} {pending : PendingCastResolve} {slot : QueueSlot}
  {rest : List QueueSlot}

/-- What the advance waits for, whether or not its target is still in the queue. -/
structure Waiting (owner : CastOwner) (pending : PendingCastResolve) (room : Nat) : Prop where
  resolve : owner.pendingCastResolve = some pending
  advance : ∃ advance, owner.advance = some advance ∧
    advance.stepRequest = some pending.transition.requestId ∧ room ≤ advance.remaining
  queued : owner.core.transitions.queuedLatest = none

/-- The advance's step to a slot is under way, and what stands after it is still to be tried. -/
structure Trying (owner : CastOwner) (pending : PendingCastResolve) (slot : QueueSlot)
    (rest : List QueueSlot) : Prop extends Waiting owner pending rest.length where
  target : pending.transition.target = slot.slotId
  inFlight : owner.core.transitions.inFlight = some pending.transition
  stands : ∃ front, owner.core.queue.Stands front slot rest
  active : owner.core.queue.activeSlotId = some slot.slotId

structure Dropped (owner : CastOwner) (pending : PendingCastResolve) : Prop
    extends Waiting owner pending 0 where
  inFlight : owner.core.transitions.inFlight = none
  gone : pending.transition.target ∉ owner.core.queue.slotIds

theorem Waiting.ownStep {room : Nat} (waiting : owner.Waiting pending room) : owner.ownStep = some pending := by
  obtain ⟨advance, tries, request, -⟩ := waiting.advance
  unfold CastOwner.ownStep
  rw [waiting.resolve, tries]
  simp [request]

theorem ownStep_of_idle (idle : owner.advance = none) : owner.ownStep = none := by
  unfold ownStep
  rw [idle]
  simp

/-! ### Removals -/

/-- Only the queue and the transitions are touched. -/
structure Spared (before after : CastOwner) : Prop where
  cast : after.cast = before.cast
  resolve : after.pendingCastResolve = before.pendingCastResolve
  resolving : after.resolving = before.resolving
  records : after.records = before.records
  loads : after.loads = before.loads

theorem spared_removeSlot (slotId : QueueSlotId) : Spared owner (owner.removeSlot slotId) := by
  unfold removeSlot
  dsimp only
  split
  · exact ⟨rfl, rfl, rfl, rfl, rfl⟩
  · split <;> exact ⟨rfl, rfl, rfl, rfl, rfl⟩

theorem Spared.trans {first second third : CastOwner} (left : Spared first second)
    (right : Spared second third) : Spared first third :=
  ⟨right.cast.trans left.cast, right.resolve.trans left.resolve,
    right.resolving.trans left.resolving, right.records.trans left.records,
    right.loads.trans left.loads⟩

theorem spared_removals (gone : List QueueSlotId) : Spared owner (gone.foldl removeSlot owner) := by
  induction gone generalizing owner with
  | nil => exact ⟨rfl, rfl, rfl, rfl, rfl⟩
  | cons slotId gone ih => exact (spared_removeSlot slotId).trans ih

theorem removeSlot_slots (distinct : owner.core.queue.slotIds.Nodup) (slotId : QueueSlotId) :
    (owner.removeSlot slotId).core.queue.slots = owner.core.queue.slots.filter (·.slotId ≠ slotId) := by
  have removed := PlaybackQueue.removeHeldSlot_slots distinct slotId
  unfold removeSlot
  dsimp only
  split
  · rename_i absent
    symm
    apply filter_eq_self.mpr
    intro entry member
    have other : entry.slotId ≠ slotId := fun same =>
      slot_isNone.mp absent (same ▸ mem_map_of_mem member)
    simpa using other
  · split <;> exact removed

theorem removeHeldSlot_active {queue : PlaybackQueue} {active slotId : QueueSlotId}
    (marked : queue.activeSlotId = some active) (other : active ≠ slotId) :
    (removeHeldSlot queue slotId).activeSlotId = some active := by
  have apart : queue.activeSlotId ≠ some slotId := by
    rw [marked]
    exact fun same => other (Option.some.inj same)
  unfold removeHeldSlot PlaybackQueue.removeSlot PlaybackQueue.removeExistingSlot
  rw [if_neg apart, if_neg apart]
  cases queue.slotIndex slotId with
  | none => exact marked
  | some index =>
    dsimp only [PlaybackQueue.bump]
    rw [if_neg apart]
    exact marked

theorem Waiting.removes {room : Nat} (waiting : owner.Waiting pending room) (slotId : QueueSlotId) :
    (owner.removeSlot slotId).Waiting pending room := by
  have spared := @spared_removeSlot owner slotId
  obtain ⟨advance, tries, request, enough⟩ := waiting.advance
  refine ⟨spared.resolve.trans waiting.resolve, ⟨advance, ?_, request, enough⟩, ?_⟩
  · unfold CastOwner.advance at tries ⊢
    rw [spared.cast]
    exact tries
  · unfold removeSlot
    dsimp only
    split
    · exact waiting.queued
    · split
      · rfl
      · exact waiting.queued

theorem Waiting.mono {room less : Nat} (waiting : owner.Waiting pending room)
    (fewer : less ≤ room) : owner.Waiting pending less := by
  obtain ⟨advance, tries, request, enough⟩ := waiting.advance
  exact ⟨waiting.resolve, ⟨advance, tries, request, fewer.trans enough⟩, waiting.queued⟩

theorem Trying.removes_other (trying : owner.Trying pending slot rest) {slotId : QueueSlotId}
    (other : slot.slotId ≠ slotId) :
    (owner.removeSlot slotId).Trying pending slot (rest.filter (·.slotId ≠ slotId)) := by
  obtain ⟨front, stands⟩ := trying.stands
  have slots := removeSlot_slots stands.distinct slotId
  have apart : owner.core.queue.activeSlotId ≠ some slotId := by
    rw [trying.active]
    exact fun same => other (Option.some.inj same)
  have kept : (owner.removeSlot slotId).core.transitions = owner.core.transitions ∧
      (owner.removeSlot slotId).core.queue.activeSlotId = some slot.slotId := by
    unfold removeSlot
    dsimp only
    rw [if_neg apart]
    split
    · exact ⟨rfl, trying.active⟩
    · exact ⟨rfl, removeHeldSlot_active trying.active other⟩
  exact
    { toWaiting := (trying.toWaiting.removes slotId).mono (length_filter_le _ rest)
      target := trying.target
      inFlight := by rw [kept.1, trying.inFlight]
      stands := ⟨_, stands.without other slots⟩
      active := kept.2 }

theorem Trying.removes_own (trying : owner.Trying pending slot rest) :
    (owner.removeSlot slot.slotId).Dropped pending := by
  obtain ⟨front, stands⟩ := trying.stands
  have slots := removeSlot_slots stands.distinct slot.slotId
  have held : (owner.core.queue.slot slot.slotId).isNone = false := by
    rw [stands.held]
    rfl
  exact
    { toWaiting := (trying.toWaiting.removes slot.slotId).mono (Nat.zero_le _)
      inFlight := by
        unfold removeSlot
        rw [held, if_neg Bool.false_ne_true, if_pos trying.active]
        rfl
      gone := by
        rw [trying.target, PlaybackQueue.slotIds, slots, mem_map]
        rintro ⟨entry, member, same⟩
        exact of_decide_eq_true (mem_filter.mp member).2 same }

theorem Dropped.removes (dropped : owner.Dropped pending) (slotId : QueueSlotId) :
    (owner.removeSlot slotId).Dropped pending where
  toWaiting := dropped.toWaiting.removes slotId
  inFlight := by
    unfold removeSlot
    dsimp only
    split
    · exact dropped.inFlight
    · split
      · rfl
      · exact dropped.inFlight
  gone := by
    unfold removeSlot
    dsimp only
    split
    · exact dropped.gone
    · have fewer : pending.transition.target ∉ (removeHeldSlot owner.core.queue slotId).slotIds := by
        rw [removeHeldSlot_slotIds]
        exact fun member => dropped.gone (mem_of_mem_erase member)
      split <;> exact fewer

theorem Dropped.removals (dropped : owner.Dropped pending) (gone : List QueueSlotId) :
    (gone.foldl removeSlot owner).Dropped pending := by
  induction gone generalizing owner with
  | nil => exact dropped
  | cons slotId gone ih => exact ih (dropped.removes slotId)

theorem Trying.removals (trying : owner.Trying pending slot rest) (gone : List QueueSlotId) :
    if slot.slotId ∈ gone then (gone.foldl removeSlot owner).Dropped pending
    else (gone.foldl removeSlot owner).Trying pending slot (rest.filter (·.slotId ∉ gone)) := by
  induction gone generalizing owner rest with
  | nil => simpa using trying
  | cons slotId gone ih =>
    rw [foldl_cons]
    by_cases own : slot.slotId = slotId
    · rw [if_pos (own ▸ mem_cons_self)]
      exact (own ▸ trying.removes_own).removals gone
    · have left := ih (trying.removes_other own)
      rw [filter_filter] at left
      by_cases later : slot.slotId ∈ gone
      · rw [if_pos later] at left
        rw [if_pos (mem_cons_of_mem slotId later)]
        exact left
      · rw [if_neg later] at left
        rw [if_neg (by simp [own, later])]
        have same : (rest.filter fun entry => decide (entry.slotId ∉ gone) &&
            decide (entry.slotId ≠ slotId)) = rest.filter (·.slotId ∉ slotId :: gone) := by
          apply filter_congr
          intro entry _
          rw [← Bool.decide_and, decide_eq_decide, mem_cons, not_or, and_comm]
        rw [← same]
        exact left

/-! ### Steps -/

theorem dispatchStepTarget_idle (settled : owner.core.latestTransition = none)
    (receiver : owner.cast.isSome = true) (held : owner.core.queue.slot slot.slotId = some slot) :
    ∃ (pending : PendingCastResolve) (transitions : OwnerTransitionState), pending.transition.target = slot.slotId ∧
      transitions.inFlight = some pending.transition ∧ transitions.queuedLatest = none ∧
      owner.dispatchStepTarget slot.slotId .next = (pending.transition.requestId,
        { (owner.setTransitions transitions).setActiveSlot slot.slotId with
          pendingCastResolve := some pending
          resolving := owner.resolving ++
            [{ purpose := .step slot.slotId pending.transition.generation, item := slot.item
               credential := owner.credential }] }) := by
  obtain ⟨queued, idle⟩ := Option.or_eq_none_iff.mp settled
  set number := owner.core.transitions.nextLocalId + 1 with numbered
  refine ⟨⟨⟨number, number, slot.slotId, .step .next⟩, (resumeTicksForSlot owner.core.queue slot.slotId).getD 0⟩,
    { owner.core.transitions with
      nextLocalId := number
      inFlight := some ⟨number, number, slot.slotId, .step .next⟩
      inFlightDeadline := none }, rfl, rfl, queued, ?_⟩
  unfold dispatchStepTarget dispatchSlotJump OwnerTransitionState.mintLocalId OwnerTransitionState.accept
  simp only [setTransitions, idle, Option.isNone_none, if_true, sendJump, receiver, dispatchCastLoad, held]
  rfl

theorem stepTargetAdvance_tries {front : List QueueSlot} {advance : OutputAdvance}
    (settled : owner.core.latestTransition = none) (tries : owner.advance = some advance)
    (stands : owner.core.queue.Stands front slot rest) (enough : rest.length < advance.remaining) :
    ∃ pending, (owner.stepTargetAdvance (.jump slot.slotId)).Trying pending slot rest ∧
      (owner.stepTargetAdvance (.jump slot.slotId)).stepped = owner.stepped ++ [slot.slotId] ∧
      (owner.stepTargetAdvance (.jump slot.slotId)).refusals = owner.refusals := by
  have receiver : owner.cast.isSome = true := by
    unfold CastOwner.advance at tries
    cases there : owner.cast with
    | none => rw [there] at tries; cases tries
    | some cast => rfl
  obtain ⟨pending, transitions, target, inFlight, queued, dispatched⟩ :=
    dispatchStepTarget_idle settled receiver stands.held
  obtain ⟨cast, there⟩ := Option.isSome_iff_exists.mp receiver
  have started : cast.advance = some advance := by
    simpa [CastOwner.advance, there] using tries
  obtain ⟨left, counted⟩ : ∃ left, advance.remaining = left + 1 :=
    Nat.exists_eq_succ_of_ne_zero (by omega)
  have marked : (owner.core.queue.setActiveSlot slot.slotId).2.activeSlotId = some slot.slotId := by
    have here : (owner.core.queue.slotIndex slot.slotId).isNone = false := by
      rw [stands.index]
      rfl
    unfold PlaybackQueue.setActiveSlot
    rw [here, if_neg Bool.false_ne_true]
    split
    · rfl
    · rename_i same
      exact not_not.mp same
  refine ⟨pending, ?_, ?_, ?_⟩
  · unfold stepTargetAdvance
    dsimp only
    rw [dispatched]
    simp only [CastOwner.advance, setTransitions, setActiveSlot, there, started, setAdvance, onCast,
      Option.bind_some, Option.map_some]
    exact
      { resolve := rfl
        advance := ⟨_, rfl, rfl, by dsimp only; omega⟩
        queued := queued
        target := target
        inFlight := inFlight
        stands := ⟨front, stands.of_slots (PlaybackQueue.setActiveSlot_slots slot.slotId)⟩
        active := marked }
  · unfold stepTargetAdvance
    dsimp only
    rw [dispatched]
    simp only [CastOwner.advance, setTransitions, setActiveSlot, there, started, setAdvance, onCast,
      Option.bind_some, Option.map_some, CastOwner.stepped, filterMap_append]
    rfl
  · unfold stepTargetAdvance
    dsimp only
    rw [dispatched]
    simp only [CastOwner.advance, setTransitions, setActiveSlot, there, started, setAdvance, onCast,
      Option.bind_some, Option.map_some]
    rfl

theorem clearAdvance_idle : owner.clearAdvance.advance = none := by
  unfold clearAdvance setAdvance onCast CastOwner.advance
  cases owner.cast <;> rfl

structure GoesOn (before after : CastOwner) (rest : List QueueSlot) : Prop where
  refusals : after.refusals = before.refusals
  edge : rest = [] → after.ownStep = none ∧ after.stepped = before.stepped
  further : ∀ next later, rest = next :: later → ∃ pending, after.Trying pending next later ∧
    after.stepped = before.stepped ++ [next.slotId]

theorem stepTargetAdvance_goesOn {advance : OutputAdvance}
    (settled : owner.core.latestTransition = none) (tries : owner.advance = some advance)
    (standing : ∀ next later, rest = next :: later →
      ∃ front, owner.core.queue.Stands front next later)
    (enough : rest.length ≤ advance.remaining) :
    GoesOn owner (owner.stepTargetAdvance (.onto rest)) rest := by
  cases rest with
  | nil =>
    exact
      { refusals := rfl
        edge := fun _ => ⟨ownStep_of_idle clearAdvance_idle, rfl⟩
        further := fun next later shape => by cases shape }
  | cons slot rest =>
    obtain ⟨front, stands⟩ := standing slot rest rfl
    obtain ⟨pending, trying, stepped, refusals⟩ :=
      stepTargetAdvance_tries settled tries stands enough
    exact
      { refusals := refusals
        edge := fun shape => by cases shape
        further := fun next later shape => by
          cases shape
          exact ⟨pending, trying, stepped⟩ }

theorem GoesOn.of_before {before middle after : CastOwner} (goesOn : GoesOn middle after rest)
    (refusals : middle.refusals = before.refusals) (stepped : middle.stepped = before.stepped) :
    GoesOn before after rest where
  refusals := goesOn.refusals.trans refusals
  edge shape := stepped ▸ goesOn.edge shape
  further next later shape := stepped ▸ goesOn.further next later shape

theorem stepAdvance_goesOn {front : List QueueSlot} {advance : OutputAdvance}
    (settled : owner.core.latestTransition = none) (tries : owner.advance = some advance)
    (failed : advance.failedSlot = some slot.slotId)
    (stands : owner.core.queue.Stands front slot rest) (enough : rest.length ≤ advance.remaining) :
    GoesOn owner owner.stepAdvance rest := by
  have rebased : owner.rebaseOnFailedStep = owner.observeSlot slot.slotId := by
    unfold rebaseOnFailedStep
    rw [tries, Option.bind_some, failed]
    dsimp only
    rw [stands.held]
    rfl
  set observed := owner.observeSlot slot.slotId with observes
  have slots : observed.core.queue.slots = owner.core.queue.slots :=
    PlaybackQueue.setActiveSlot_slots slot.slotId
  have unsettled : observed.core.latestTransition = none := settled
  have target : observed.core.relativeStepTarget .next = .onto rest := by
    rw [PlayerOwnerState.relativeStepTarget_observed unsettled rfl, (stands.of_slots slots).after]
  have standing : ∀ next later, rest = next :: later →
      ∃ front, observed.core.queue.Stands front next later := by
    rintro next later rfl
    exact ⟨_, (stands.of_slots slots).next⟩
  have goesOn := @stepTargetAdvance_goesOn observed rest advance unsettled tries standing enough
  unfold stepAdvance
  rw [rebased]
  dsimp only
  split
  · rename_i spent
    have none_ : rest = [] := by
      have kept : observed.advance = some advance := tries
      rw [kept] at spent
      have zero : advance.remaining = 0 := by simpa using spent
      exact eq_nil_of_length_eq_zero (by omega)
    subst none_
    exact
      { refusals := rfl
        edge := fun _ => ⟨ownStep_of_idle clearAdvance_idle, rfl⟩
        further := fun next later shape => by cases shape }
  · rw [target]
    exact goesOn.of_before rfl rfl

theorem beginAdvance_goesOn {loaded : CastLoadedItem} (policy : ConsumePolicy)
    (held : owner.loaded = some loaded) (settled : owner.core.latestTransition = none)
    (distinct : owner.core.queue.slotIds.Nodup) :
    GoesOn owner (owner.beginAdvance policy) (slotsAfter owner.core.queue loaded.slot) := by
  unfold beginAdvance
  rw [held]
  dsimp only
  set observed := owner.observeSlot loaded.slot with observes
  have slots : observed.core.queue.slots = owner.core.queue.slots := PlaybackQueue.setActiveSlot_slots loaded.slot
  have unsettled : observed.core.latestTransition = none := settled
  have target : observed.core.relativeStepTarget .next = .onto (slotsAfter owner.core.queue loaded.slot) := by
    rw [PlayerOwnerState.relativeStepTarget_observed unsettled rfl, slotsAfter_of_slots slots]
  rw [target]
  set line := slotsAfter owner.core.queue loaded.slot with lined
  set recorded := observed.recordNaturalEnd policy loaded.slot _ with records
  set begun := recorded.setAdvance (some { remaining := recorded.core.queue.len }) with begins
  have observedDistinct : observed.core.queue.slotIds.Nodup := by
    rw [PlaybackQueue.slotIds, slots]
    exact distinct
  have standing : ∀ next later, line = next :: later → ∃ front, begun.core.queue.Stands front next later := by
    intro next later shape
    exact PlaybackQueue.recorded_after observedDistinct policy ((slotsAfter_of_slots slots).trans (lined.symm.trans shape))
  have enough : line.length ≤ recorded.core.queue.len := PlaybackQueue.line_length standing
  obtain ⟨cast, there⟩ := Option.isSome_iff_exists.mp (cast_of_loaded held)
  have tries : begun.advance = some { remaining := recorded.core.queue.len } := by
    have kept : recorded.cast = some cast := there
    rw [begins]
    simp [CastOwner.advance, setAdvance, onCast, kept]
  have goesOn := @stepTargetAdvance_goesOn begun line _ settled tries standing enough
  exact goesOn.of_before rfl rfl

/-! ### Answers -/

theorem Waiting.answer_error {room : Nat} (waiting : owner.Waiting pending room)
    (refusal : Uncastable) : owner.answer pending (.error refusal) =
      { owner with pendingCastResolve := none }.resolveFailed pending refusal := by
  unfold answer handleOutcome handleCastResolved
  dsimp only
  rw [waiting.resolve]
  simp only [Option.filter, and_self, decide_true, if_true]

theorem Waiting.answer_ok {room : Nat} (waiting : owner.Waiting pending room)
    (source : CastSource) : owner.answer pending (.ok source) = if owner.core.transitions.inFlight = some pending.transition then
        { owner with pendingCastResolve := none }.loadResolvedSource pending.transition.target source
      else { owner with pendingCastResolve := none } := by
  unfold answer handleOutcome handleCastResolved
  dsimp only
  rw [waiting.resolve]
  simp only [Option.filter, and_self, decide_true, if_true]

structure Steady (before after : CastOwner) : Prop where
  cast : after.cast.isSome = before.cast.isSome
  resolve : after.pendingCastResolve = before.pendingCastResolve
  resolving : after.resolving = before.resolving
  loads : after.loads = before.loads
  refusals : after.refusals = before.refusals

theorem steady_closeReporting (reporting : Option CastReporting) : Steady owner (owner.closeReporting reporting) := by
  refine ⟨rfl, rfl, rfl, rfl, ?_⟩
  unfold closeReporting record CastOwner.refusals
  rw [filterMap_append]
  cases reporting.bind (·.session?) <;> simp [CastRecord.refused]

theorem steady_setLoaded (loaded : Option CastLoadedItem) : Steady owner (owner.setLoaded loaded) := by
  refine ⟨?_, rfl, rfl, rfl, rfl⟩
  simp [setLoaded, onCast]

theorem Steady.trans {first second third : CastOwner} (left : Steady first second)
    (right : Steady second third) : Steady first third :=
  ⟨right.cast.trans left.cast, right.resolve.trans left.resolve,
    right.resolving.trans left.resolving, right.loads.trans left.loads,
    right.refusals.trans left.refusals⟩

theorem steady_dropLoaded : Steady owner owner.dropLoaded := by
  unfold dropLoaded
  split
  · exact ⟨rfl, rfl, rfl, rfl, rfl⟩
  · exact (steady_setLoaded none).trans (steady_closeReporting _)

theorem steady_stopLoadedReporting : Steady owner owner.stopLoadedReporting := by
  unfold stopLoadedReporting
  split
  · exact ⟨rfl, rfl, rfl, rfl, rfl⟩
  · split
    · rename_i loaded _ _
      have stopped : ∀ owner : CastOwner, Steady owner (owner.record [.stopped loaded.load]) :=
        fun owner => ⟨rfl, rfl, rfl, rfl, by
          unfold record CastOwner.refusals
          rw [filterMap_append]
          exact append_nil _⟩
      exact ((steady_setLoaded _).trans (stopped _)).trans (steady_closeReporting _)
    · exact ⟨rfl, rfl, rfl, rfl, rfl⟩

theorem loadResolvedSource_loads (slotId : QueueSlotId) (source : CastSource) (receiver : owner.cast.isSome = true) :
    (owner.loadResolvedSource slotId source).onReceiver = some (owner.loads, slotId) ∧
      (owner.loadResolvedSource slotId source).pendingCastResolve = owner.pendingCastResolve ∧
      (owner.loadResolvedSource slotId source).stepped = owner.stepped ∧
      (owner.loadResolvedSource slotId source).refusals = owner.refusals := by
  have stopped := @steady_stopLoadedReporting owner
  have steady := stopped.trans steady_dropLoaded
  rw [loadResolvedSource_eq]
  dsimp only
  rw [if_pos (stopped.cast.trans receiver)]
  obtain ⟨cast, there⟩ := Option.isSome_iff_exists.mp (steady.cast.trans receiver)
  refine ⟨?_, steady.resolve, ?_, steady.refusals⟩
  · simp [CastOwner.onReceiver, CastOwner.loaded, onCast, there, steady.loads]
  · exact congrArg (List.filterMap fun resolve => resolve.purpose.stepped) steady.resolving

theorem Trying.accepted (trying : owner.Trying pending slot rest) (source : CastSource) :
    (owner.answer pending (.ok source)).onReceiver = some (owner.loads, slot.slotId) ∧
      (owner.answer pending (.ok source)).ownStep = none ∧
      (owner.answer pending (.ok source)).stepped = owner.stepped ∧
      (owner.answer pending (.ok source)).refusals = owner.refusals := by
  have receiver : owner.cast.isSome = true := by
    obtain ⟨advance, tries, -⟩ := trying.advance
    unfold CastOwner.advance at tries
    cases there : owner.cast with
    | none => rw [there] at tries; cases tries
    | some cast => rfl
  obtain ⟨loads, pending', stepped, refusals⟩ :=
    @loadResolvedSource_loads { owner with pendingCastResolve := none } slot.slotId source receiver
  rw [trying.answer_ok, if_pos trying.inFlight, trying.target]
  refine ⟨loads, ?_, stepped, refusals⟩
  unfold CastOwner.ownStep
  rw [pending']
  rfl

theorem expireRemoteTransition_lone (queued : owner.core.transitions.queuedLatest = none) :
    ∃ transitions : OwnerTransitionState, owner.expireRemoteTransition = (false, owner.setTransitions transitions) ∧
      transitions.inFlight = none ∧ transitions.queuedLatest = none := by
  unfold expireRemoteTransition OwnerTransitionState.expireNow
  cases inFlight : owner.core.transitions.inFlight with
  | none => exact ⟨owner.core.transitions, rfl, inFlight, queued⟩
  | some expired =>
    refine ⟨owner.core.transitions.promote, ?_, queued, rfl⟩
    dsimp only
    rw [queued]
    rfl

theorem Waiting.refused {room : Nat} (waiting : owner.Waiting pending room) (refusal : Uncastable) :
    ∃ (advance : OutputAdvance) (asked : CastOwner), owner.answer pending (.error refusal) = asked.stepAdvance ∧
      asked.advance = some advance ∧ advance.failedSlot = some pending.transition.target ∧
      room ≤ advance.remaining ∧ asked.core.queue = owner.core.queue ∧
      asked.core.latestTransition = none ∧ asked.pendingCastResolve = none ∧
      asked.stepped = owner.stepped ∧
      asked.refusals = owner.refusals ++ [pending.transition.target] := by
  obtain ⟨advance, tries, request, enough⟩ := waiting.advance
  obtain ⟨cast, there⟩ : ∃ cast, owner.cast = some cast := by
    unfold CastOwner.advance at tries
    cases there : owner.cast with
    | none => rw [there] at tries; cases tries
    | some cast => exact ⟨cast, rfl⟩
  have set_ : ∀ (other : CastOwner) (next : OutputAdvance), other.cast.isSome = true →
      (other.setAdvance (some next)).advance = some next := by
    intro other next receiver
    obtain ⟨cast, there⟩ := Option.isSome_iff_exists.mp receiver
    simp [CastOwner.advance, setAdvance, onCast, there]
  set free : CastOwner := { owner with pendingCastResolve := none } with frees
  set spent := free.setAdvance (some { advance with stepRequest := none }) with spends
  have failed : free.stepFailed pending.transition.requestId = (true, spent) := by
    have kept : free.advance = some advance := tries
    unfold stepFailed
    rw [kept]
    dsimp only
    rw [if_pos request]
  set reported := spent.record [.uncastable pending.transition.target refusal] with reports
  obtain ⟨transitions, expired, inFlight, queued⟩ := @expireRemoteTransition_lone reported waiting.queued
  set cleared := reported.setTransitions transitions with clears
  have kept : cleared.advance = some { advance with stepRequest := none } := set_ free _ (by simp [frees, there])
  refine ⟨{ advance with stepRequest := none, failedSlot := some pending.transition.target },
    cleared.setAdvance (some { advance with
      stepRequest := none, failedSlot := some pending.transition.target }), ?_,
    set_ cleared _ (by simp [clears, reports, spends, frees, setAdvance, onCast, setTransitions,
      record, there]), rfl, enough, rfl, ?_, rfl, rfl, ?_⟩
  · rw [waiting.answer_error]
    unfold resolveFailed
    dsimp only
    rw [failed]
    dsimp only
    rw [expired]
    simp only [Bool.not_true, Bool.false_eq_true, if_false, continueAfterFailedStep]
    rw [kept]
  · exact Option.or_eq_none_iff.mpr ⟨queued, inFlight⟩
  · exact filterMap_append

theorem quiet_answer_error {room : Nat} (waiting : owner.Waiting pending room)
    (refusal : Uncastable) : Quiet owner (owner.answer pending (.error refusal)) := by
  have free : Quiet owner { owner with pendingCastResolve := none } := ⟨rfl, rfl, rfl, rfl, rfl⟩
  rw [waiting.answer_error]
  exact free.trans (quiet_resolveFailed pending refusal)

theorem Trying.refused (trying : owner.Trying pending slot rest) (refusal : Uncastable) :
    ∃ asked : CastOwner, GoesOn asked (owner.answer pending (.error refusal)) rest ∧
      asked.stepped = owner.stepped ∧ asked.refusals = owner.refusals ++ [slot.slotId] := by
  obtain ⟨advance, asked, answered, tries, failed, enough, queue, settled, -, stepped, refusals⟩ :=
    trying.toWaiting.refused refusal
  obtain ⟨front, stands⟩ := trying.stands
  rw [trying.target] at failed refusals
  rw [answered]
  exact ⟨asked, stepAdvance_goesOn settled tries failed (queue ▸ stands) enough, stepped, refusals⟩

theorem Dropped.refused (dropped : owner.Dropped pending) (refusal : Uncastable) :
    (owner.answer pending (.error refusal)).ownStep = none ∧ (owner.answer pending (.error refusal)).stepped = owner.stepped ∧
      (owner.answer pending (.error refusal)).refusals = owner.refusals ++ [pending.transition.target] := by
  obtain ⟨advance, asked, answered, tries, failed, -, queue, -, -, stepped, refusals⟩ := dropped.toWaiting.refused refusal
  have rebased : asked.rebaseOnFailedStep = asked.clearAdvance := by
    have gone : (asked.core.queue.slot pending.transition.target).isNone = true := by
      rw [queue]
      exact slot_isNone.mpr dropped.gone
    unfold rebaseOnFailedStep
    rw [tries, Option.bind_some, failed]
    dsimp only
    rw [gone, if_pos rfl]
  have ended : asked.stepAdvance = asked.clearAdvance.clearAdvance := by
    unfold stepAdvance
    rw [rebased]
    dsimp only
    rw [clearAdvance_idle]
    rfl
  rw [answered, ended]
  exact ⟨ownStep_of_idle clearAdvance_idle, stepped, refusals⟩

theorem Dropped.accepted (dropped : owner.Dropped pending) (source : CastSource) :
    owner.answer pending (.ok source) = { owner with pendingCastResolve := none } := by
  rw [dropped.answer_ok, dropped.inFlight, if_neg (by simp)]

/-! ### The whole advance -/

theorem answerSteps_idle {verdict : QueueSlotId → Except Uncastable CastSource}
    (idle : owner.ownStep = none) (gone : List (List QueueSlotId)) :
    answerSteps verdict gone owner = owner := by
  cases gone with
  | nil => rfl
  | cons gone later =>
    unfold answerSteps
    rw [idle]

/-- What an advance did, once it is over. -/
structure Settles (before after : CastOwner) (accepts : QueueSlotId → Bool)
    (sought : Sought QueueSlotId) : Prop where
  ended : after.ownStep = none
  refusals : after.refusals = before.refusals ++ sought.asked.filter fun slotId => !accepts slotId
  onReceiver : after.onReceiver =
    (sought.found.map fun slotId => (before.loads, slotId)).or before.onReceiver

theorem Quiet.onReceiver {before after : CastOwner} (quiet : Quiet before after) : after.onReceiver = before.onReceiver := by
  unfold CastOwner.onReceiver
  rw [quiet.loaded]

theorem Trying.seeks (verdict : QueueSlotId → Except Uncastable CastSource)
    (gone : List (List QueueSlotId)) : ∀ (owner : CastOwner) (pending : PendingCastResolve)
      (slot : QueueSlot) (rest : List QueueSlot), owner.Trying pending slot rest →
      let sought := seek (fun slotId => (verdict slotId).isOk) gone ((slot :: rest).map (·.slotId))
      (∃ asked, sought.asked = slot.slotId :: asked ∧ (answerSteps verdict gone owner).stepped = owner.stepped ++ asked) ∧
      (rest.length < gone.length → Settles owner (answerSteps verdict gone owner)
        (fun slotId => (verdict slotId).isOk) sought) := by
  induction gone with
  | nil =>
    intro owner pending slot rest trying
    refine ⟨⟨[], rfl, (append_nil _).symm⟩, fun short => ?_⟩
    simp at short
  | cons gone later ih =>
    intro owner pending slot rest trying
    have spared := @spared_removals owner gone
    have removed := trying.removals gone
    set left := gone.foldl removeSlot owner with lefts
    have stepped : left.stepped = owner.stepped := congrArg (List.filterMap _) spared.resolving
    have refusals : left.refusals = owner.refusals := congrArg (List.filterMap _) spared.records
    have onReceiver : left.onReceiver = owner.onReceiver := by
      unfold CastOwner.onReceiver CastOwner.loaded
      rw [spared.cast]
    have steps : answerSteps verdict (gone :: later) owner =
        answerSteps verdict later (left.answer pending (verdict slot.slotId)) := by
      rw [answerSteps, trying.ownStep, ← trying.target]
    rw [steps]
    dsimp only
    rw [map_cons, seek]
    by_cases own : slot.slotId ∈ gone
    · rw [if_pos own] at removed ⊢
      cases result : verdict slot.slotId with
      | ok source =>
        have freed := removed.accepted source
        have idle : (left.answer pending (.ok source)).ownStep = none := by
          rw [freed]
          rfl
        have none_ : [slot.slotId].filter (fun slotId => !(verdict slotId).isOk) = [] := by
          simp [result, Except.isOk, Except.toBool]
        rw [answerSteps_idle idle]
        refine ⟨⟨[], rfl, ?_⟩, fun _ => ⟨idle, ?_, ?_⟩⟩
        · rw [freed, append_nil]
          exact stepped
        · rw [freed, none_, append_nil]
          exact refusals
        · rw [freed]
          exact onReceiver
      | error refusal =>
        obtain ⟨idle, noMore, reported⟩ := removed.refused refusal
        have quiet := quiet_answer_error removed.toWaiting refusal
        rw [answerSteps_idle idle]
        refine ⟨⟨[], rfl, ?_⟩, fun _ => ⟨idle, ?_, quiet.onReceiver.trans onReceiver⟩⟩
        · rw [noMore, stepped, append_nil]
        · rw [reported, refusals, trying.target]
          simp [result, Except.isOk, Except.toBool]
    · rw [if_neg own] at removed ⊢
      cases result : verdict slot.slotId with
      | ok source =>
        obtain ⟨loads, idle, noMore, reported⟩ := removed.accepted source
        have accepted : (Except.ok source : Except Uncastable CastSource).isOk = true := rfl
        rw [answerSteps_idle idle, if_pos accepted]
        refine ⟨⟨[], rfl, ?_⟩, fun _ => ⟨idle, ?_, ?_⟩⟩
        · rw [noMore, stepped, append_nil]
        · rw [reported, refusals]
          simp [result, Except.isOk, Except.toBool]
        · rw [loads, spared.loads]
          rfl
      | error refusal =>
        obtain ⟨asked, goesOn, noMore, reported⟩ := removed.refused refusal
        have quiet := quiet_answer_error removed.toWaiting refusal
        have refused : ¬ (Except.error refusal : Except Uncastable CastSource).isOk = true := Bool.false_ne_true
        have line : (rest.map (·.slotId)).filter (· ∉ gone) = (rest.filter (·.slotId ∉ gone)).map (·.slotId) := filter_map
        have fewer : (rest.filter (·.slotId ∉ gone)).length ≤ rest.length := length_filter_le _ rest
        rw [if_neg refused, line]
        cases shape : rest.filter (·.slotId ∉ gone) with
        | nil =>
          obtain ⟨idle, ended⟩ := goesOn.edge shape
          rw [answerSteps_idle idle, map_nil, Seek.seek_nil]
          refine ⟨⟨[], rfl, ?_⟩, fun _ => ⟨idle, ?_, quiet.onReceiver.trans onReceiver⟩⟩
          · rw [ended, noMore, stepped, append_nil]
          · rw [goesOn.refusals, reported, refusals]
            simp [result, Except.isOk, Except.toBool]
        | cons next rest =>
          obtain ⟨pending', trying', further⟩ := goesOn.further next rest shape
          obtain ⟨⟨asked', first, steps⟩, settles⟩ := ih _ pending' next rest trying'
          refine ⟨⟨_, rfl, ?_⟩, fun enough => ?_⟩
          · rw [steps, further, noMore, stepped, first, append_assoc, singleton_append]
          · rw [shape, length_cons] at fewer
            rw [length_cons] at enough
            obtain ⟨ended, refusals', onReceiver'⟩ := settles (by omega)
            refine ⟨ended, ?_, ?_⟩
            · rw [refusals', goesOn.refusals, reported, refusals]
              simp [result, Except.isOk, Except.toBool]
            · rw [onReceiver', quiet.onReceiver, onReceiver, quiet.loads, spared.loads]

end CastOwner

end Mbv.Output
