import Mbv.Output.SessionAdvance
import Mbv.Output.SessionEnds

namespace Mbv.Output

open Mbv.Queue Mbv.Player Mbv.Daemon List

def admittedSlot (playableMediaTypes : List String) (slot : QueueSlot) :
    Option (QueueSlotId × String) :=
  match sessionAdmit slot.item playableMediaTypes with
  | .ok item => some (slot.slotId, item.id)
  | .error _ => none

inductive ExitHandover where
  | playLast (slots : List (QueueSlotId × String))
  | play (slots : List (QueueSlotId × String)) (startTicks : Int)

/-- What a device that holds `slots` goes on with after the call. -/
def ExitHandover.leaves (slots : List (QueueSlotId × String)) :
    Option ExitHandover → List (QueueSlotId × String)
  | none => slots
  | some (.playLast more) => slots ++ more
  | some (.play instead _) => instead

theorem ExitHandover.leaves_playLast (slots more : List (QueueSlotId × String)) :
    leaves slots (if more.isEmpty then none else some (.playLast more)) = slots ++ more := by
  cases more with
  | nil => exact (append_nil slots).symm
  | cons => rfl

namespace SessionOwner

variable (owner : SessionOwner)

/-! ### The hand-over at exit -/

def admissibleAfter (slotId : QueueSlotId) : List (QueueSlotId × String) :=
  (slotsAfter owner.core.queue slotId).filterMap (admittedSlot owner.session.playableMediaTypes)

/-- The rest of the queue goes behind the item the device holds next. A stale one is not appended
    behind: the loaded item is played again where it is, with what is right behind it. -/
def exitHandover (loaded : EmbySessionLoadedItem) (now : Ticks) : Option ExitHandover :=
  if owner.session.queuedNext.any (·.stale) then
    some (.play ((loaded.slot, loaded.itemId) :: owner.admissibleAfter loaded.slot)
      (owner.session.estimateTicks now))
  else
    let after := owner.session.queuedNext.elim loaded.slot (·.slot)
    let slots := owner.admissibleAfter after
    if slots.isEmpty then none else some (.playLast slots)

def plan (now : Ticks) : Option ExitHandover :=
  match owner.session.loaded with
  | none => none
  | some loaded =>
    if !presentsItem owner.session.lastObservation loaded.itemId then none
    else if owner.session.sessionId.isNone then none
    else owner.exitHandover loaded now

def queued : List (QueueSlotId × String) :=
  owner.session.queuedNext.toList.map fun queued => (queued.slot, queued.itemId)

/-- What the device goes on with once the owner has exited, from the loaded item on. -/
def leavesDevice (loaded : EmbySessionLoadedItem) (now : Ticks) : List (QueueSlotId × String) :=
  ExitHandover.leaves ((loaded.slot, loaded.itemId) :: owner.queued) (owner.plan now)

def QueuedMarked (loaded : EmbySessionLoadedItem) : Prop :=
  ∀ queued ∈ owner.session.queuedNext, queued.stale = true ∨
    (owner.window loaded.slot).1 = some (queued.slot, queued.itemId)

instance QueuedMarked.decidable (loaded : EmbySessionLoadedItem) :
    Decidable (owner.QueuedMarked loaded) :=
  match queued : owner.session.queuedNext with
  | none => .isTrue fun _ member => by rw [queued] at member; cases member
  | some item =>
    decidable_of_iff (item.stale = true ∨
      (owner.window loaded.slot).1 = some (item.slot, item.itemId))
      ⟨fun marked other member => by
        rw [queued] at member
        exact Option.some.inj member ▸ marked, fun marked => marked item queued⟩

variable {owner}

theorem admissibleAfter_window (slotId : QueueSlotId) : (owner.admissibleAfter slotId).head? = (owner.window slotId).1 := by
  unfold admissibleAfter window
  induction slotsAfter owner.core.queue slotId with
  | nil => rfl
  | cons slot slots ih =>
    unfold firstAdmissible
    cases verdict : sessionAdmit slot.item owner.session.playableMediaTypes with
    | ok item => simp [admittedSlot, verdict]
    | error refused => simpa [admittedSlot, verdict] using ih

theorem firstAdmissible_split {types : List String} {line : List QueueSlot}
    {next : QueueSlotId × String} (first : (firstAdmissible types line).1 = some next) :
    ∃ skipped slot rest, line = skipped ++ slot :: rest ∧
      skipped.filterMap (admittedSlot types) = [] ∧ admittedSlot types slot = some next ∧
      next.1 = slot.slotId := by
  induction line with
  | nil => cases first
  | cons slot line ih =>
    unfold firstAdmissible at first
    cases verdict : sessionAdmit slot.item types with
    | ok item =>
      rw [verdict] at first
      cases first
      exact ⟨[], slot, line, rfl, rfl, by simp [admittedSlot, verdict], rfl⟩
    | error refused =>
      rw [verdict] at first
      obtain ⟨skipped, next, rest, rfl, none_, admitted, same⟩ := ih first
      refine ⟨slot :: skipped, next, rest, rfl, ?_, admitted, same⟩
      rw [filterMap_cons_none (by simp [admittedSlot, verdict]), none_]

theorem admissibleAfter_next (distinct : owner.core.queue.slotIds.Nodup) {slotId : QueueSlotId}
    {next : QueueSlotId × String} (first : (owner.window slotId).1 = some next) :
    owner.admissibleAfter slotId = next :: owner.admissibleAfter next.1 := by
  obtain ⟨skipped, slot, rest, line, none_, admitted, same⟩ := firstAdmissible_split first
  obtain ⟨front, ended, -, stands⟩ := PlaybackQueue.exists_stands_before distinct line (by simp)
  have behind : owner.core.queue.Stands (front ++ ended :: skipped) slot rest := ⟨by simp [stands.slots], distinct⟩
  unfold admissibleAfter
  rw [line, same, behind.after, filterMap_append, none_, nil_append, filterMap_cons_some admitted]

variable {loaded : EmbySessionLoadedItem}

theorem plan_eq (held : owner.session.loaded = some loaded)
    (plays : owner.session.playsLoadedItem = true) (known : owner.session.sessionId.isSome = true)
    (now : Ticks) : owner.plan now = owner.exitHandover loaded now := by
  have shows : presentsItem owner.session.lastObservation loaded.itemId = true := by
    simpa [EmbySessionOutput.playsLoadedItem, held] using plays
  have named : owner.session.sessionId.isNone = false := by
    simpa [Option.isNone_iff_eq_none, Option.isSome_iff_ne_none] using known
  unfold plan
  rw [held]
  dsimp only
  rw [shows, named]
  rfl

theorem exitHandover_unqueued (now : Ticks) (unqueued : owner.session.queuedNext = none) :
    owner.exitHandover loaded now = if (owner.admissibleAfter loaded.slot).isEmpty then none
      else some (.playLast (owner.admissibleAfter loaded.slot)) := by
  unfold exitHandover
  rw [unqueued]
  rfl

theorem exitHandover_unmarked {queued : EmbySessionQueuedItem} (now : Ticks)
    (holds : owner.session.queuedNext = some queued) (unmarked : queued.stale = false) :
    owner.exitHandover loaded now = if (owner.admissibleAfter queued.slot).isEmpty then none
      else some (.playLast (owner.admissibleAfter queued.slot)) := by
  unfold exitHandover
  rw [holds, Option.any_some, unmarked]
  rfl

theorem exitHandover_marked {queued : EmbySessionQueuedItem} (now : Ticks)
    (holds : owner.session.queuedNext = some queued) (marked : queued.stale = true) :
    owner.exitHandover loaded now = some (.play ((loaded.slot, loaded.itemId) :: owner.admissibleAfter loaded.slot)
        (owner.session.estimateTicks now)) := by
  unfold exitHandover
  rw [holds, Option.any_some, marked]
  rfl

theorem leavesDevice_iff (distinct : owner.core.queue.slotIds.Nodup)
    (held : owner.session.loaded = some loaded) (plays : owner.session.playsLoadedItem = true)
    (known : owner.session.sessionId.isSome = true) (now : Ticks) :
    owner.leavesDevice loaded now = (loaded.slot, loaded.itemId) :: owner.admissibleAfter loaded.slot ↔
      owner.QueuedMarked loaded := by
  unfold leavesDevice
  rw [plan_eq held plays known]
  cases holds : owner.session.queuedNext with
  | none =>
    have unmarked : owner.QueuedMarked loaded := by simp [QueuedMarked, holds]
    have bare : owner.queued = [] := by simp [queued, holds]
    rw [exitHandover_unqueued now holds, ExitHandover.leaves_playLast, bare]
    exact iff_of_true rfl unmarked
  | some item =>
    have behind : owner.queued = [(item.slot, item.itemId)] := by simp [queued, holds]
    have marks : owner.QueuedMarked loaded ↔ item.stale = true ∨
        (owner.window loaded.slot).1 = some (item.slot, item.itemId) := by
      simp [QueuedMarked, holds]
    rw [marks, behind]
    cases marked : item.stale with
    | true =>
      rw [exitHandover_marked now holds marked]
      exact iff_of_true rfl (.inl rfl)
    | false =>
      rw [exitHandover_unmarked now holds marked, ExitHandover.leaves_playLast, cons_append, cons_inj_right, singleton_append]
      constructor
      · intro same
        rw [← admissibleAfter_window, ← same]
        exact .inr rfl
      · rintro (stale | first)
        · cases stale
        · exact (admissibleAfter_next distinct first).symm

end SessionOwner

end Mbv.Output
