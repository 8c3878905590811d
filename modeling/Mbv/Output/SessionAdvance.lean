import Mathlib.Data.Nat.PSub
import Mbv.Output.AdvanceOrder

namespace Mbv.Output

open Mbv.Queue Mbv.Player Mbv.Daemon List

/-! ### The first admissible slot -/

theorem slotsAfter_of_slots {queue changed : PlaybackQueue} {slotId : QueueSlotId}
    (slots : changed.slots = queue.slots) : slotsAfter changed slotId = slotsAfter queue slotId := by
  unfold slotsAfter PlaybackQueue.slotIndex
  rw [slots]

def admits (playableMediaTypes : List String) (slot : QueueSlot) : Bool :=
  (sessionAdmit slot.item playableMediaTypes).isOk

variable {types : List String}

theorem firstAdmissible_found (slots : List QueueSlot) :
    (firstAdmissible types slots).1.map (·.1) = (slots.find? (admits types)).map (·.slotId) := by
  induction slots with
  | nil => rfl
  | cons slot slots ih =>
    unfold firstAdmissible
    cases verdict : sessionAdmit slot.item types with
    | ok item => simp [admits, verdict, Except.isOk, Except.toBool]
    | error refused => simp [admits, verdict, Except.isOk, Except.toBool, ih]

theorem firstAdmissible_mem {slots : List QueueSlot} {target : QueueSlotId × String}
    (found : (firstAdmissible types slots).1 = some target) :
    ∃ slot ∈ slots, target.1 = slot.slotId := by
  have first := @firstAdmissible_found types slots
  rw [found] at first
  obtain ⟨slot, found, same⟩ := Option.map_eq_some_iff.mp first.symm
  exact ⟨slot, mem_of_find?_eq_some found, same.symm⟩

theorem sessionAdmit_item {item : QueueItem} {refused : SessionAdmission}
    (verdict : sessionAdmit item types = .error refused) : refused.item = item := by
  unfold sessionAdmit at verdict
  split at verdict
  · dsimp only at verdict
    split at verdict
    · cases verdict
    · cases verdict
      rfl
  · cases verdict
    rfl

theorem firstAdmissible_stepped (slots : List QueueSlot) : (firstAdmissible types slots).2.map (·.item) =
      (slots.takeWhile fun slot => !admits types slot).map (·.item) := by
  induction slots with
  | nil => rfl
  | cons slot slots ih =>
    unfold firstAdmissible
    cases verdict : sessionAdmit slot.item types with
    | ok item => simp [admits, verdict, Except.isOk, Except.toBool]
    | error refused =>
      simp [admits, verdict, Except.isOk, Except.toBool, ih, sessionAdmit_item verdict]

theorem firstAdmissible_length (slots : List QueueSlot) :
    (firstAdmissible types slots).2.length + (firstAdmissible types slots).1.toList.length ≤
      slots.length := by
  induction slots with
  | nil => exact le_rfl
  | cons slot slots ih =>
    unfold firstAdmissible
    cases sessionAdmit slot.item types with
    | ok item => simp
    | error refused =>
      simp only [length_cons]
      omega

def SessionJob.puts : SessionJob → Option (QueueSlotId × String)
  | .play _ slot _ itemIds _ => itemIds.head?.map fun itemId => (slot, itemId)
  | .poll _ | .playLast .. | .transport .. | .lookup .. => none

/-- The report of an item the Session does not play. -/
def SessionRecord.refusal : SessionRecord → Option SessionAdmission
  | .rejected admission => some admission
  | _ => none

namespace SessionOwner

def refusals (owner : SessionOwner) : List SessionAdmission :=
  owner.records.filterMap SessionRecord.refusal

def onDevice (owner : SessionOwner) : Option (QueueSlotId × String) :=
  owner.session.loaded.map fun item => (item.slot, item.itemId)

/-- What a load of `next` steps past on the way to the slot after it. -/
def steppedAfter (owner : SessionOwner) (next : Option (QueueSlotId × String)) :
    List SessionAdmission :=
  next.elim [] fun target => (owner.window target.1).2

/-- An advance is over: it reported what it stepped past and loaded `next`, if there is one. -/
structure Walked (before after : SessionOwner) (next : Option (QueueSlotId × String))
    (stepped : List SessionAdmission) : Prop where
  ended : after.session.advance = none
  onDevice : after.onDevice = next.or before.onDevice
  jobs : after.jobs.map SessionJob.puts = before.jobs.map SessionJob.puts ++ next.toList.map some
  refusals : after.refusals = before.refusals ++ stepped ++ before.steppedAfter next

variable {owner : SessionOwner} {now : Ticks}

@[simp] theorem refusal_rejected (admission : SessionAdmission) :
    (SessionRecord.rejected admission).refusal = some admission := rfl

@[simp] theorem refusals_rejected (owner : SessionOwner) (refused : SessionAdmission) :
    (owner.record (.rejected refused)).refusals = owner.refusals ++ [refused] := by
  simp [SessionOwner.refusals, record]

theorem putOnDevice_walked (runs : owner.session.workerRuns = true) (target : QueueSlotId)
    (startTicks : Int) (itemId : String) (runtimeTicks : Int) (sessionId : String) :
    Walked owner (owner.putOnDevice target startTicks itemId runtimeTicks sessionId now) (some (target, itemId)) [] := by
  unfold putOnDevice submitPlay
  simp only [runs, if_true]
  constructor
  · rfl
  · rfl
  · simp [reportSteppedSlots, SessionOwner.setActiveSlot, install, submit, runs, SessionJob.puts]
  · have reported : ∀ stepped : List SessionAdmission,
        (stepped.map SessionRecord.rejected).filterMap SessionRecord.refusal = stepped := by
      intro stepped
      rw [filterMap_map]
      exact filterMap_some
    simp only [SessionOwner.refusals, reportSteppedSlots, SessionOwner.setActiveSlot, install, submit,
      runs, if_true, steppedAfter, filterMap_append, reported, append_nil, Option.elim]

theorem loadTarget_plays {slot : QueueSlot} {item : EmbyItem} {sessionId : String}
    (known : owner.session.sessionId = some sessionId)
    (held : owner.core.queue.slot slot.slotId = some slot)
    (admitted : sessionAdmit slot.item owner.session.playableMediaTypes = .ok item) :
    owner.loadTarget slot.slotId = .plays item.id item.runtimeTicks sessionId := by
  unfold loadTarget
  rw [held]
  dsimp only
  rw [admitted, known]

theorem dispatch_walked {slot : QueueSlot} {item : EmbyItem} {sessionId : String}
    (runs : owner.session.workerRuns = true) (known : owner.session.sessionId = some sessionId)
    (held : owner.core.queue.slot slot.slotId = some slot)
    (admitted : sessionAdmit slot.item owner.session.playableMediaTypes = .ok item)
    (startTicks : Int) : Walked owner (owner.dispatch slot.slotId startTicks now) (some (slot.slotId, item.id)) [] := by
  unfold dispatch dispatchWithin
  rw [loadTarget_plays known held admitted]
  exact putOnDevice_walked runs slot.slotId startTicks item.id item.runtimeTicks sessionId

theorem dispatchStepTarget_idle (settled : owner.core.latestTransition = none)
    (slotId : QueueSlotId) : ∃ transitions startTicks, (owner.dispatchStepTarget slotId none .next now).2 =
        (owner.setTransitions transitions).dispatch slotId startTicks now := by
  have idle : owner.core.transitions.inFlight = none := (Option.or_eq_none_iff.mp settled).2
  unfold dispatchStepTarget dispatchSlotJump OwnerTransitionState.mintLocalId OwnerTransitionState.accept
  simp only [setTransitions, idle, Option.isNone_none, if_true]
  exact ⟨_, _, rfl⟩

theorem takeStep_walked {slot : QueueSlot} {item : EmbyItem} {sessionId : String}
    (runs : owner.session.workerRuns = true) (known : owner.session.sessionId = some sessionId)
    (settled : owner.core.latestTransition = none)
    (held : owner.core.queue.slot slot.slotId = some slot)
    (admitted : sessionAdmit slot.item owner.session.playableMediaTypes = .ok item) :
    Walked owner (owner.takeStep slot.slotId now) (some (slot.slotId, item.id)) [] := by
  obtain ⟨transitions, startTicks, dispatched⟩ := @dispatchStepTarget_idle owner now settled slot.slotId
  have loads : Walked (owner.setTransitions transitions)
      (owner.dispatchStepTarget slot.slotId none .next now).2 (some (slot.slotId, item.id)) [] := by
    rw [dispatched]
    exact @dispatch_walked (owner.setTransitions transitions) now slot item sessionId runs known held admitted startTicks
  unfold takeStep
  dsimp only
  rw [loads.ended]
  exact ⟨loads.ended, loads.onDevice, loads.jobs, loads.refusals⟩

theorem Walked.after_rejection {before middle after : SessionOwner}
    {next : Option (QueueSlotId × String)} {stepped : List SessionAdmission}
    (walked : Walked middle after next stepped) (refused : SessionAdmission)
    (onDevice : middle.onDevice = before.onDevice) (jobs : middle.jobs = before.jobs)
    (refusals : middle.refusals = before.refusals ++ [refused])
    (reports : middle.steppedAfter next = before.steppedAfter next) :
    Walked before after next (refused :: stepped) where
  ended := walked.ended
  onDevice := by rw [walked.onDevice, onDevice]
  jobs := by rw [walked.jobs, jobs]
  refusals := by
    rw [walked.refusals, refusals, reports]
    simp

theorem steppedAfter_of_slots {other : SessionOwner} (next : Option (QueueSlotId × String))
    (slots : other.core.queue.slots = owner.core.queue.slots)
    (types : other.session.playableMediaTypes = owner.session.playableMediaTypes) :
    other.steppedAfter next = owner.steppedAfter next := by
  have same (slotId : QueueSlotId) : slotsAfter other.core.queue slotId =
      slotsAfter owner.core.queue slotId := slotsAfter_of_slots slots
  unfold steppedAfter window
  rw [types]
  simp only [same]

theorem unplayableStepTarget_ok {slot : QueueSlot} {item : EmbyItem} (held : owner.core.queue.slot slot.slotId = some slot)
    (admitted : sessionAdmit slot.item owner.session.playableMediaTypes = .ok item) :
    owner.unplayableStepTarget slot.slotId = none := by
  unfold unplayableStepTarget
  rw [held]
  dsimp only
  rw [admitted]

theorem unplayableStepTarget_error {slot : QueueSlot} {refused : SessionAdmission}
    (held : owner.core.queue.slot slot.slotId = some slot)
    (rejected : sessionAdmit slot.item owner.session.playableMediaTypes = .error refused) :
    owner.unplayableStepTarget slot.slotId = some refused := by
  unfold unplayableStepTarget
  rw [held]
  dsimp only
  rw [rejected]

theorem stepPast_held {advance : OutputAdvance} {slotId : QueueSlotId} (remaining : Nat)
    (tries : owner.session.advance = some advance) (held : slotId ∈ owner.core.queue.slotIds) :
    owner.stepPast remaining slotId = (owner.setAdvance (some { advance with
        remaining := remaining
        failedSlot := some slotId })).observeSlot slotId := by
  have here : (owner.core.queue.slot slotId).isNone = false := by
    rw [Bool.eq_false_iff, Ne, slot_isNone, not_not]
    exact held
  unfold stepPast rebaseOnFailedStep
  rw [tries]
  simp [setAdvance, here]

theorem stepTargetAdvance_walks {sessionId : String} (line : List QueueSlot) :
    ∀ (owner : SessionOwner) (remaining : Nat) (advance : OutputAdvance),
      owner.session.workerRuns = true → owner.session.sessionId = some sessionId →
      owner.core.latestTransition = none → owner.session.advance = some advance →
      (∀ slot rest, line = slot :: rest → ∃ front, owner.core.queue.Stands front slot rest) →
      line.length ≤ remaining →
      Walked owner (owner.stepTargetAdvance remaining (.onto line) now) (firstAdmissible owner.session.playableMediaTypes line).1
        (firstAdmissible owner.session.playableMediaTypes line).2 := by
  induction line with
  | nil =>
    intro owner remaining advance runs known settled tries stands enough
    have idle : owner.stepTargetAdvance remaining (.onto []) now = owner.clearAdvance := by
      cases remaining <;> rfl
    rw [idle]
    exact ⟨rfl, rfl, by simp [clearAdvance, setAdvance, firstAdmissible],
      by simp [clearAdvance, setAdvance, firstAdmissible, steppedAfter, SessionOwner.refusals]⟩
  | cons slot rest ih =>
    intro owner remaining advance runs known settled tries stands enough
    obtain ⟨front, stands⟩ := stands slot rest rfl
    obtain ⟨remaining, rfl⟩ : ∃ left, remaining = left + 1 := by
      rw [length_cons] at enough
      exact ⟨remaining - 1, by omega⟩
    unfold stepTargetAdvance StepTarget.onto firstAdmissible
    dsimp only
    cases verdict : sessionAdmit slot.item owner.session.playableMediaTypes with
    | ok item =>
      rw [unplayableStepTarget_ok stands.held verdict]
      exact takeStep_walked runs known settled stands.held verdict
    | error refused =>
      rw [unplayableStepTarget_error stands.held verdict]
      dsimp only
      cases remaining with
      | zero =>
        obtain rfl : rest = [] := eq_nil_of_length_eq_zero (by simpa using enough)
        exact ⟨rfl, rfl, by simp [clearAdvance, setAdvance, record, firstAdmissible],
          (owner.refusals_rejected refused).trans (by simp [firstAdmissible, steppedAfter])⟩
      | succ remaining =>
        have tries' : (owner.record (.rejected refused)).session.advance = some advance := tries
        dsimp only
        rw [stepPast_held (remaining + 1) tries' stands.mem]
        set past := ((owner.record (.rejected refused)).setAdvance _).observeSlot slot.slotId with passed
        have slots : past.core.queue.slots = owner.core.queue.slots := PlaybackQueue.setActiveSlot_slots slot.slotId
        have goesOn : past.core.relativeStepTarget .next = .onto rest := by
          have unsettled : past.core.latestTransition = none := settled
          rw [PlayerOwnerState.relativeStepTarget_observed unsettled rfl, (stands.of_slots slots).after]
        have standing : ∀ following later, rest = following :: later →
            ∃ front, past.core.queue.Stands front following later := by
          rintro following later rfl
          exact ⟨_, (stands.of_slots slots).next⟩
        have walked := ih past (remaining + 1) _ runs known settled rfl standing (by simpa using enough)
        have tried : past.session.advance.isNone = false := rfl
        rw [tried, if_neg Bool.false_ne_true, goesOn]
        exact walked.after_rejection refused rfl rfl (owner.refusals_rejected refused) (steppedAfter_of_slots _ slots rfl)

theorem beginAdvance_walks {loaded : EmbySessionLoadedItem} {sessionId : String}
    (policy : ConsumePolicy) (held : owner.session.loaded = some loaded)
    (runs : owner.session.workerRuns = true) (known : owner.session.sessionId = some sessionId)
    (settled : owner.core.latestTransition = none) (distinct : owner.core.queue.slotIds.Nodup) :
    Walked owner (owner.beginAdvance policy now) (owner.window loaded.slot).1 (owner.window loaded.slot).2 := by
  unfold beginAdvance
  rw [held]
  dsimp only
  set observed := (owner.noteNaturalEnd loaded).observeSlot loaded.slot with observes
  have slots : observed.core.queue.slots = owner.core.queue.slots := PlaybackQueue.setActiveSlot_slots loaded.slot
  have target : observed.core.relativeStepTarget .next = .onto (slotsAfter owner.core.queue loaded.slot) := by
    have unsettled : observed.core.latestTransition = none := settled
    rw [PlayerOwnerState.relativeStepTarget_observed unsettled rfl, slotsAfter_of_slots slots]
  rw [target]
  set line := slotsAfter owner.core.queue loaded.slot with lined
  have after : slotsAfter observed.core.queue loaded.slot = line := slotsAfter_of_slots slots
  set recorded := (observed.recordLoadedEnd policy loaded _).record (.advanced loaded.load) with records
  set begun := recorded.setAdvance (some { remaining := recorded.core.queue.len }) with begins
  have observedDistinct : observed.core.queue.slotIds.Nodup := by
    rw [PlaybackQueue.slotIds, slots]
    exact distinct
  have standing : ∀ slot rest, line = slot :: rest → ∃ front, begun.core.queue.Stands front slot rest := by
    intro slot rest shape
    exact PlaybackQueue.recorded_after observedDistinct policy (after.trans shape)
  have enough : line.length ≤ recorded.core.queue.len := PlaybackQueue.line_length standing
  have walked := @stepTargetAdvance_walks now _ line begun recorded.core.queue.len _ runs known settled rfl standing enough
  have reported : begun.refusals = owner.refusals := by
    simp [SessionOwner.refusals, begins, records, observes, setAdvance, record, recordLoadedEnd,
      recordNaturalEnd, noteNaturalEnd, observeSlot, SessionRecord.refusal]
  have later : begun.steppedAfter (firstAdmissible owner.session.playableMediaTypes line).1 =
      owner.steppedAfter (firstAdmissible owner.session.playableMediaTypes line).1 := by
    cases found : (firstAdmissible owner.session.playableMediaTypes line).1 with
    | none => rfl
    | some target =>
      obtain ⟨slot, member, same⟩ := firstAdmissible_mem found
      cases shape : line with
      | nil => rw [shape] at member; cases member
      | cons first rest =>
        obtain ⟨_, _, _, stands⟩ := PlaybackQueue.exists_stands_before distinct (lined.symm.trans shape) (cons_ne_nil first rest)
        obtain ⟨_, now⟩ := standing first rest shape
        have after := stands.next.same_after now (shape ▸ member)
        rw [← same] at after
        exact congrArg (fun line => (firstAdmissible owner.session.playableMediaTypes line).2) after
  have refusals := walked.refusals
  rw [reported, show begun.session.playableMediaTypes = owner.session.playableMediaTypes from rfl, later] at refusals
  exact ⟨walked.ended, walked.onDevice, walked.jobs, refusals⟩

theorem beginAdvance_coalesces {loaded : EmbySessionLoadedItem} (policy : ConsumePolicy)
    (held : owner.session.loaded = some loaded) (again : owner.core.Repeats .next) :
    Walked owner (owner.beginAdvance policy now) none [] := by
  unfold beginAdvance
  rw [held]
  dsimp only
  set observed := (owner.noteNaturalEnd loaded).observeSlot loaded.slot with observes
  have repeats : observed.core.Repeats .next := again
  have target : observed.core.relativeStepTarget .next = .coalesced := by
    rw [PlayerOwnerState.relativeStepTarget_neighbor, if_pos repeats]
  rw [target]
  dsimp only
  set recorded := (observed.recordLoadedEnd policy loaded false).record (.advanced loaded.load) with records
  have idle : ∀ remaining (begun : SessionOwner), begun.stepTargetAdvance remaining .coalesced now = begun.clearAdvance := by
    intro remaining begun
    cases remaining <;> rfl
  rw [idle]
  refine ⟨rfl, rfl, by simp [records, observes, clearAdvance, setAdvance, record, recordLoadedEnd,
    recordNaturalEnd, noteNaturalEnd, observeSlot], ?_⟩
  simp [SessionOwner.refusals, records, observes, clearAdvance, setAdvance, record, recordLoadedEnd,
    recordNaturalEnd, noteNaturalEnd, observeSlot, SessionRecord.refusal, steppedAfter]

/-! ### The counter -/

section Counter

/-- The step with the counter's subtraction as the source has it, which fails at zero. -/
def takeStepChecked (owner : SessionOwner) (slotId : QueueSlotId) (now : Ticks) :
    Option SessionOwner :=
  let (requestId, owner) := owner.dispatchStepTarget slotId none .next now
  match owner.session.advance with
  | none => some owner
  | some advance =>
    advance.remaining.ppred.map fun remaining =>
      owner.setAdvance (some { advance with
        remaining := remaining
        stepRequest := some requestId })

def stepTargetAdvanceChecked : Nat → SessionOwner → StepTarget → Ticks → Option SessionOwner
  | _, owner, .coalesced, _ | _, owner, .atEdge, _ => some owner.clearAdvance
  | remaining, owner, .jump slotId, now =>
    match owner.unplayableStepTarget slotId with
    | none => owner.takeStepChecked slotId now
    | some rejected =>
      let owner := owner.record (.rejected rejected)
      match remaining with
      | 0 | 1 => some owner.clearAdvance
      | remaining + 2 =>
        let owner := owner.stepPast (remaining + 1) slotId
        if owner.session.advance.isNone then some owner
        else
          stepTargetAdvanceChecked (remaining + 1) owner (owner.core.relativeStepTarget .next) now

def beginAdvanceChecked (owner : SessionOwner) (policy : ConsumePolicy) (now : Ticks) :
    Option SessionOwner :=
  match owner.session.loaded with
  | none => some owner
  | some loaded =>
    let owner := (owner.noteNaturalEnd loaded).observeSlot loaded.slot
    let target := owner.core.relativeStepTarget .next
    let consume := match target with | .jump _ => true | .coalesced | .atEdge => false
    let owner :=
      (owner.recordLoadedEnd policy loaded consume).record (.advanced loaded.load)
    let remaining := owner.core.queue.len
    stepTargetAdvanceChecked remaining (owner.setAdvance (some { remaining := remaining })) target now

theorem putOnDevice_advance (target : QueueSlotId) (startTicks : Int) (itemId : String)
    (runtimeTicks : Int) (sessionId : String) :
    ∀ advance ∈ (owner.putOnDevice target startTicks itemId runtimeTicks sessionId
      now).session.advance, owner.session.advance = some advance := by
  unfold putOnDevice
  dsimp only
  split
  · exact fun advance => id
  · intro advance tries
    cases tries

theorem dispatchWithin_advance (promotions : Nat) (owner : SessionOwner) (target : QueueSlotId) (startTicks : Int) :
    ∀ advance ∈ (owner.dispatchWithin promotions target startTicks now).session.advance,
      owner.session.advance = some advance := by
  induction promotions generalizing owner target startTicks with
  | zero =>
    unfold dispatchWithin
    split
    · exact fun advance => id
    · dsimp only
      split <;> exact fun advance => id
    · exact putOnDevice_advance target startTicks _ _ _
  | succ promotions ih =>
    unfold dispatchWithin
    split
    · exact fun advance => id
    · dsimp only
      split
      · exact ih _ _ _
      · exact fun advance => id
    · exact putOnDevice_advance target startTicks _ _ _

theorem dispatchStepTarget_advance (slotId : QueueSlotId) :
    ∀ advance ∈ (owner.dispatchStepTarget slotId none .next now).2.session.advance, owner.session.advance = some advance := by
  unfold dispatchStepTarget dispatchSlotJump
  dsimp only
  split
  · exact dispatchWithin_advance _ _ _ _
  · exact fun advance => id

theorem takeStepChecked_eq (slotId : QueueSlotId) (positive : ∀ advance ∈ owner.session.advance, 0 < advance.remaining) :
    owner.takeStepChecked slotId now = some (owner.takeStep slotId now) := by
  have same := @dispatchStepTarget_advance owner now slotId
  unfold takeStepChecked takeStep
  dsimp only
  cases tries : (owner.dispatchStepTarget slotId none .next now).2.session.advance with
  | none => rfl
  | some advance =>
    obtain ⟨remaining, counted⟩ : ∃ remaining, advance.remaining = remaining + 1 :=
      Nat.exists_eq_succ_of_ne_zero (positive advance (same advance tries)).ne'
    simp [counted, Nat.ppred]

theorem rebaseOnFailedStep_advance :
    ∀ advance ∈ owner.rebaseOnFailedStep.session.advance, owner.session.advance = some advance := by
  unfold rebaseOnFailedStep
  split
  · exact fun advance => id
  · split
    · intro advance tried
      cases tried
    · exact fun advance => id

theorem stepPast_advance (remaining : Nat) (slotId : QueueSlotId) :
    ∀ advance ∈ (owner.stepPast remaining slotId).session.advance, advance.remaining = remaining := by
  intro advance tried
  unfold stepPast at tried
  split at tried
  · rename_i none_
    rw [Option.mem_def, none_] at tried
    cases tried
  · have same := rebaseOnFailedStep_advance advance tried
    cases same
    rfl

theorem stepTargetAdvanceChecked_eq (remaining : Nat) (owner : SessionOwner) (target : StepTarget)
    (counts : ∀ advance ∈ owner.session.advance, advance.remaining = remaining)
    (positive : ∀ slotId, target = .jump slotId → 0 < remaining) :
    stepTargetAdvanceChecked remaining owner target now = some (owner.stepTargetAdvance remaining target now) := by
  induction remaining generalizing owner target with
  | zero =>
    cases target with
    | coalesced => rfl
    | atEdge => rfl
    | jump slotId => exact absurd (positive slotId rfl) (by omega)
  | succ remaining ih =>
    cases target with
    | coalesced => rfl
    | atEdge => rfl
    | jump slotId =>
      unfold stepTargetAdvanceChecked stepTargetAdvance
      cases owner.unplayableStepTarget slotId with
      | none =>
        have room : ∀ advance ∈ owner.session.advance, 0 < advance.remaining := by
          intro advance tries
          rw [counts advance tries]
          omega
        exact takeStepChecked_eq slotId room
      | some rejected =>
        cases remaining with
        | zero => rfl
        | succ remaining =>
          dsimp only
          split
          · rfl
          · exact ih _ _ (stepPast_advance (remaining + 1) slotId) fun _ _ => Nat.succ_pos remaining

theorem beginAdvanceChecked_eq (policy : ConsumePolicy) :
    owner.beginAdvanceChecked policy now = some (owner.beginAdvance policy now) := by
  unfold beginAdvanceChecked beginAdvance
  cases owner.session.loaded with
  | none => rfl
  | some loaded =>
    apply stepTargetAdvanceChecked_eq
    · intro advance tries
      cases tries
      rfl
    · intro slotId jumps
      have room := PlayerOwnerState.jump_len jumps
      have left := @PlaybackQueue.recorded_len ((owner.noteNaturalEnd loaded).observeSlot loaded.slot).core.queue
      exact Nat.lt_of_succ_lt_succ (lt_of_lt_of_le room (left _ policy))

end Counter

end SessionOwner

end Mbv.Output
