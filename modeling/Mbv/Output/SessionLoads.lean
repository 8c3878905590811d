import Mbv.Output.LoadSteps

namespace Mbv.Output

open Mbv.Queue Mbv.Player Mbv.Daemon List

def SessionJob.isPoll : SessionJob → Bool
  | .poll _ => true
  | _ => false

def SessionRecord.isRejection : SessionRecord → Bool
  | .rejected _ => true
  | _ => false

/-- What the ends of the loaded items are accounted on: the tracked item, what the device was last
    seen to do, the polls to come, and the history. -/
structure Ledger where
  runs : Bool
  sessionId : Option String
  pollSent : Option Nat
  polls : List SessionJob
  observation : Option SessionInfo
  observedAt : Option Ticks
  loaded : Option EmbySessionLoadedItem
  queued : Bool
  continuation : Option ContinuationWatch
  records : List SessionRecord
  loads : Nat
  lookups : Nat

namespace SessionOwner

variable (owner : SessionOwner)

def ledger : Ledger where
  runs := owner.session.workerRuns
  sessionId := owner.session.sessionId
  pollSent := owner.session.pollSent.map (·.1)
  polls := owner.jobs.filter SessionJob.isPoll
  observation := owner.session.lastObservation
  observedAt := owner.session.observedAt
  loaded := owner.session.loaded
  queued := owner.session.queuedNext.isSome
  continuation := owner.session.continuation
  records := owner.records
  loads := owner.loads
  lookups := owner.lookups

variable {owner}

@[simp] theorem ledger_observeSlot (slotId : QueueSlotId) : (owner.observeSlot slotId).ledger = owner.ledger := rfl

@[simp] theorem ledger_setActiveSlot (slotId : QueueSlotId) : (owner.setActiveSlot slotId).ledger = owner.ledger := rfl

@[simp] theorem ledger_setAdvance (advance : Option OutputAdvance) : (owner.setAdvance advance).ledger = owner.ledger := rfl

@[simp] theorem ledger_clearAdvance : owner.clearAdvance.ledger = owner.ledger := rfl

@[simp] theorem ledger_setTransitions (transitions : OwnerTransitionState) :
    (owner.setTransitions transitions).ledger = owner.ledger := rfl

@[simp] theorem ledger_recordNaturalEnd (policy : ConsumePolicy) (ended : QueueSlotId)
    (consume : Bool) : (owner.recordNaturalEnd policy ended consume).ledger = owner.ledger := rfl

@[simp] theorem ledger_record (entry : SessionRecord) : (owner.record entry).ledger =
    { owner.ledger with records := owner.records ++ [entry] } := rfl

theorem ledger_submit {job : SessionJob} (other : job.isPoll = false) : (owner.submit job).ledger = owner.ledger := by
  unfold submit
  split
  · simp [ledger, filter_append, other]
  · rfl

@[simp] theorem ledger_transport (command : String) : (owner.transport command).ledger = owner.ledger := by
  unfold transport
  split
  · exact ledger_submit rfl
  · rfl

end SessionOwner

open SessionOwner

namespace Ledger

/-- No end is acted on: the history says only what was rejected, and the tracked item is the one
    before, or the last of some loads since. -/
inductive Loads (before : Ledger) : Ledger → Prop where
  | kept (rejections : List SessionRecord) (queued : Bool)
      (only : ∀ entry ∈ rejections, entry.isRejection = true)
      (holds : before.queued = true → queued = true) :
      Loads before { before with records := before.records ++ rejections, queued := queued }
  | loaded (rejections : List SessionRecord) (queued : Bool) (item : EmbySessionLoadedItem)
      (loads : Nat) (only : ∀ entry ∈ rejections, entry.isRejection = true)
      (runs : before.runs = true) (later : before.loads ≤ item.load) (below : item.load < loads)
      (unseen : item.seenPlaying = false) (unended : item.endHandled = false)
      (unreported : item.failureReported = false) :
      Loads before { before with
        records := before.records ++ rejections
        queued := queued
        loaded := some item
        continuation := none
        loads := loads }

theorem Loads.refl (ledger : Ledger) : Loads ledger ledger := by
  have kept : Loads ledger _ := .kept [] ledger.queued (by simp) id
  rwa [append_nil] at kept

theorem Loads.of_eq {before after : Ledger} (same : after = before) : Loads before after := same ▸ Loads.refl before

theorem Loads.trans {first second third : Ledger} (left : Loads first second)
    (right : Loads second third) : Loads first third := by
  cases left with
  | kept rejections queued only holds =>
    cases right with
    | kept more queued' only' holds' =>
      rw [append_assoc]
      exact .kept _ _ (fun entry member => (mem_append.mp member).elim (only entry) (only' entry)) (holds' ∘ holds)
    | loaded more queued' item loads only' runs later below unseen unended unreported =>
      rw [append_assoc]
      exact .loaded _ _ item loads (fun entry member => (mem_append.mp member).elim
        (only entry) (only' entry)) runs later below unseen unended unreported
  | loaded rejections queued item loads only runs later below unseen unended unreported =>
    cases right with
    | kept more queued' only' holds' =>
      rw [append_assoc]
      exact .loaded _ _ item loads (fun entry member => (mem_append.mp member).elim
        (only entry) (only' entry)) runs later below unseen unended unreported
    | loaded more queued' item' loads' only' runs' later' below' unseen' unended' unreported' =>
      rw [append_assoc]
      refine .loaded _ _ item' loads' (fun entry member => (mem_append.mp member).elim
        (only entry) (only' entry)) runs ?_ below' unseen' unended' unreported'
      exact later.trans (below.le.trans later')

end Ledger

def LoadsTo (before after : SessionOwner) : Prop := Ledger.Loads before.ledger after.ledger

namespace LoadsTo

variable {before middle after : SessionOwner}

theorem of_ledger (same : after.ledger = before.ledger) : LoadsTo before after := .of_eq same

theorem trans (left : LoadsTo before middle) (right : LoadsTo middle after) :
    LoadsTo before after := Ledger.Loads.trans left right

theorem then_ledger (left : LoadsTo before middle) (same : after.ledger = middle.ledger) :
    LoadsTo before after := left.trans (of_ledger same)

theorem rejected (owner : SessionOwner) (admission : SessionAdmission) : LoadsTo owner (owner.record (.rejected admission)) :=
  .kept [.rejected admission] _ (by simp [SessionRecord.isRejection]) id

theorem stepped (owner : SessionOwner) (admissions : List SessionAdmission) :
    LoadsTo owner (owner.reportSteppedSlots admissions) :=
  .kept (admissions.map .rejected) _ (by simp [SessionRecord.isRejection]) id

end LoadsTo

section Loading

variable {owner after : SessionOwner} {now : Ticks}

theorem submitPlay_ledger {load : SessionLoad} (taken : owner.submitPlay load now = some after) :
    owner.session.workerRuns = true ∧ ∃ item : EmbySessionLoadedItem,
      item.load = owner.loads ∧ item.seenPlaying = false ∧ item.endHandled = false ∧
      item.failureReported = false ∧
      after.ledger = { owner.ledger with
        queued := load.next.isSome
        loaded := some item
        continuation := none
        loads := owner.loads + 1 } := by
  unfold submitPlay at taken
  split at taken
  · rename_i runs
    cases taken
    refine ⟨runs, { load := owner.loads, slot := load.slot, itemId := load.itemId
                    runtimeTicks := load.runtimeTicks, loadedAt := now }, rfl, rfl, rfl, rfl, ?_⟩
    simp [SessionOwner.ledger, install, submit, runs, filter_append, SessionJob.isPoll]
  · cases taken

theorem submitPlay_loads {load : SessionLoad} (taken : owner.submitPlay load now = some after) : LoadsTo owner after := by
  obtain ⟨runs, item, number, unseen, unended, unreported, same⟩ := submitPlay_ledger taken
  have loaded : Ledger.Loads owner.ledger _ := .loaded [] load.next.isSome item
    (owner.loads + 1) (by simp) runs number.ge (by omega) unseen unended unreported
  rw [append_nil] at loaded
  unfold LoadsTo
  rwa [same]

theorem submitPlay_gone {load : SessionLoad} (untaken : owner.submitPlay load now = none) :
    owner.session.workerRuns = false := by
  unfold submitPlay at untaken
  split at untaken
  · cases untaken
  · rename_i gone
    simpa using gone

theorem submitPlayLast_ledger {slot : QueueSlotId} {itemId : String} (taken : owner.submitPlayLast slot itemId = some after) :
    after.ledger = { owner.ledger with queued := true } := by
  unfold submitPlayLast at taken
  split at taken
  · cases taken
  · rename_i sessionId _
    split at taken
    · rename_i runs
      cases taken
      simp [SessionOwner.ledger, submit, runs, filter_append, SessionJob.isPoll]
    · cases taken

theorem submitPlayLast_loads {slot : QueueSlotId} {itemId : String}
    (taken : owner.submitPlayLast slot itemId = some after) : LoadsTo owner after := by
  have kept : Ledger.Loads owner.ledger _ := .kept [] true (by simp) fun _ => rfl
  rw [append_nil] at kept
  unfold LoadsTo
  rwa [submitPlayLast_ledger taken]

theorem setQueuedNextStale_ledger (owner : SessionOwner) (stale : Bool) :
    (owner.setQueuedNextStale stale).ledger = owner.ledger := by
  simp [setQueuedNextStale, SessionOwner.ledger]

theorem checkQueuedNext_ledger (owner : SessionOwner) : ∃ queued,
    owner.checkQueuedNext.ledger = { owner.ledger with queued := queued } ∧
      (owner.session.queuedNext.isSome = true → queued = true) := by
  unfold checkQueuedNext
  split
  · exact ⟨_, rfl, id⟩
  · split
    · rename_i slot itemId _ _
      cases taken : owner.submitPlayLast slot itemId with
      | none => exact ⟨_, rfl, id⟩
      | some after => exact ⟨true, submitPlayLast_ledger taken, fun _ => rfl⟩
    · exact ⟨_, rfl, id⟩
    · exact ⟨_, setQueuedNextStale_ledger _ _, id⟩
    · exact ⟨_, setQueuedNextStale_ledger _ _, id⟩

theorem LoadStep.loads {before : SessionOwner} (step : LoadStep now before after) : LoadsTo before after := by
  cases step with
  | core => exact .of_ledger rfl
  | advance => exact .of_ledger rfl
  | stepped admissions => exact .stepped before admissions
  | transport command => exact .of_ledger (ledger_transport command)
  | marked stale => exact .of_ledger (setQueuedNextStale_ledger before stale)
  | play taken => exact submitPlay_loads taken
  | playLast _ taken => exact submitPlayLast_loads taken

theorem Loading.loads {before : SessionOwner} (steps : Loading now before after) : LoadsTo before after := by
  induction steps with
  | refl => exact .of_ledger rfl
  | tail _ step ih => exact ih.trans step.loads

theorem checkQueuedNext_loads (owner : SessionOwner) : LoadsTo owner owner.checkQueuedNext :=
  (@checkQueuedNext_steps 0 owner).loads

theorem setPaused_ledger (owner : SessionOwner) (paused : Bool) : (owner.setPaused paused).ledger = owner.ledger := by
  unfold setPaused
  split
  · rfl
  · exact ledger_transport _

theorem applyPendingPause_ledger (owner : SessionOwner) : owner.applyPendingPause.ledger = owner.ledger := by
  unfold applyPendingPause
  split
  · exact setPaused_ledger _ true
  · rfl

end Loading

end Mbv.Output
