import Mbv.Player.Run.Trail
import Mbv.Player.Run.Coherence

namespace Mbv.Player

open Mbv.Queue List

def stopsIn (events : List PlayerEvent) : List (PlaybackGeneration × StopOutcome) :=
  events.filterMap (·.stop?)

structure Tally where
  stops : List (PlaybackGeneration × StopOutcome)
  identity : PlaybackGeneration
  ended : Option PlaybackGeneration

inductive Tally.Moves : Tally → Tally → Prop
  | quiet (tally : Tally) : Moves tally tally
  | stop (tally : Tally) (outcome : StopOutcome) (unclosed : tally.ended ≠ some tally.identity) :
    Moves tally ⟨tally.stops ++ [(tally.identity, outcome)], tally.identity, some tally.identity⟩

def PlaybackRun.tally (run : PlaybackRun) : Tally :=
  ⟨stopsIn run.events, run.runIdentity, run.runLifecycle.ended⟩

theorem Tally.Moves.of_eq {before after : Tally} (same : after = before) : before.Moves after := same ▸ .quiet after

theorem Tally.Moves.trans {before middle after : Tally} (first : before.Moves middle)
    (second : middle.Moves after) : before.Moves after := by
  cases first with
  | quiet => exact second
  | stop outcome unclosed =>
    cases second with
    | quiet => exact .stop before outcome unclosed
    | stop _ reopened => exact absurd rfl reopened

def Record.tally (record : Record) : Tally :=
  ⟨stopsIn record.events, record.identity, record.ended⟩

theorem Record.Moves.tallies {before after : Record} (moves : before.Moves after) : before.tally.Moves after.tally := by
  induction moves with
  | quiet record => exact .quiet _
  | sends record event plain _ =>
    refine .of_eq ?_
    simp [Record.tally, stopsIn, filterMap_append, plain]
  | stop record outcome unclosed =>
    have stopped := Tally.Moves.stop record.tally outcome unclosed
    simpa [Record.tally, stopsIn, filterMap_append, PlayerEvent.stop?] using stopped
  | clears record => exact .quiet _
  | trans _ _ first second => exact first.trans second

namespace PlaybackRun

variable (run : PlaybackRun)

theorem tally_send {event : PlayerEvent} (quiet : event.stop? = none) : (run.send event).tally = run.tally := by
  simp [tally, send, stopsIn, filterMap_append, quiet]

theorem endRun_open (unclosed : run.runLifecycle.ended ≠ some run.runIdentity) (outcome : StopOutcome) :
    (run.endRun outcome).events = run.events ++ [.stopped run.runIdentity outcome] ∧
      (run.endRun outcome).runIdentity = run.runIdentity ∧
      (run.endRun outcome).runLifecycle.ended = some run.runIdentity := by
  simp [endRun, RunLifecycle.close, unclosed, send]

theorem endRun_closed (closed : run.runLifecycle.ended = some run.runIdentity)
    (outcome : StopOutcome) : run.endRun outcome = run := by
  simp [endRun, RunLifecycle.close, closed]

end PlaybackRun

def PlaybackRun.tallyDuring (run : PlaybackRun) (command : PlayerCommand) : Tally :=
  if command.accepts then ⟨stopsIn run.events, command.identityDuring run, none⟩ else run.tally

namespace PlaybackRun

variable {run next : PlaybackRun}

variable {answers : Answers}

theorem handleCommand_moves {command : PlayerCommand} {cancels : Bool}
    (handled : run.handleCommand answers command = some (cancels, next)) :
    (run.tallyDuring command).Moves next.tally := by
  have moves := (record_handleCommand handled).tallies
  have same : (run.recordDuring command).tally = run.tallyDuring command := by
    cases command with
    | submitQueue items startIdx =>
      by_cases empty : items.isEmpty = true <;>
        simp [recordDuring, tallyDuring, Record.tally, record, tally, PlayerCommand.accepts, PlayerCommand.identityDuring, empty]
    | _ => rfl
  rw [same] at moves
  exact moves

def Closed (run : PlaybackRun) : Prop := run.runLifecycle.ended = some run.runIdentity

instance (run : PlaybackRun) : Decidable run.Closed :=
  inferInstanceAs (Decidable (run.runLifecycle.ended = some run.runIdentity))

theorem endRun_closes (run : PlaybackRun) (outcome : StopOutcome) : (run.endRun outcome).Closed := by
  by_cases closed : run.runLifecycle.ended = some run.runIdentity
  · rw [endRun_closed run closed outcome]
    exact closed
  · obtain ⟨-, identity, ended⟩ := run.endRun_open closed outcome
    rw [Closed, ended, identity]

theorem tally_of_record (same : next.record = run.record) : next.tally = run.tally := congrArg Record.tally same

theorem closed_of_tally (same : next.tally = run.tally) : next.Closed ↔ run.Closed := by
  have ended : next.runLifecycle.ended = run.runLifecycle.ended := congrArg Tally.ended same
  have identity : next.runIdentity = run.runIdentity := congrArg Tally.identity same
  rw [Closed, Closed, ended, identity]

def selects (run : PlaybackRun) (answers : Answers) : Bool :=
  !run.runLifecycle.isActiveFile || (answers.prepareSource.isNone && answers.loadfile.isNone)

variable {chosen : PlaybackRun}

theorem selectActiveSlot_ok {slotId : QueueSlotId} (selected : run.selectActiveSlot answers slotId = (none, chosen)) :
    answers.prepareSource = none ∧ answers.loadfile = none ∧
      chosen.status.active = run.status.active ∧ chosen.activeItem.isSome := by
  unfold selectActiveSlot at selected
  split at selected
  · cases selected
  · rename_i slot found
    split at selected
    · cases selected
    · rename_i prepared
      unfold installActiveProjection at selected
      dsimp only at selected
      cases loaded : answers.loadfile with
      | some error =>
        simp only [loaded] at selected
        cases selected
      | none =>
        simp only [loaded] at selected
        cases selected
        refine ⟨prepared, rfl, rfl, ?_⟩
        have member : slotId ∈ run.queue.slotIds := Keyed.get_isSome.mp (Option.isSome_of_mem found)
        have marked : (run.queue.setActiveSlot slotId).2 = { run.queue with activeSlotId := some slotId } := by
          rw [ExecutionSequence.setActiveSlot_of_mem member]
        have there : ExecutionSequence.slot { run.queue with activeSlotId := some slotId } slotId = some slot := found
        show (Option.map _ (run.queue.setActiveSlot slotId).2.activeSlot).isSome = true
        rw [marked]
        simp [ExecutionSequence.activeSlot, there]

theorem selectActiveSlot_error {slotId : QueueSlotId} {error : String}
    (failed : run.selectActiveSlot answers slotId = (some error, chosen)) :
    chosen.queue = run.queue := by
  unfold selectActiveSlot at failed
  split at failed
  · cases failed
    rfl
  · split at failed
    · cases failed
      rfl
    · split at failed <;> rename_i result
      · cases failed
        exact congrArg Place.queue (installActiveProjection_place result)
      · cases failed

theorem selectNext_true {nextIdx : Nat} (selected : run.selectNext answers nextIdx = (true, chosen)) :
    run.selects answers = true ∧ chosen.status.active = run.status.active := by
  unfold selectNext at selected
  split at selected
  · rename_i active
    split at selected
    · cases selected
    · split at selected <;> rename_i result
      · cases selected
        obtain ⟨prepared, loaded, kept, -⟩ := selectActiveSlot_ok result
        exact ⟨by simp [selects, prepared, loaded], kept⟩
      · cases selected
  · rename_i inactive
    refine ⟨by simpa [selects] using Or.inl inactive, ?_⟩
    rcases setActiveIndex_spec run nextIdx with ⟨-, same⟩ | ⟨id, -, same⟩
    · rw [same] at selected
      cases selected
    · rw [same] at selected
      cases selected
      rfl

theorem selectNext_false {nextIdx : Nat} (missed : run.selectNext answers nextIdx = (false, chosen))
    (inactive : chosen.runLifecycle.isActiveFile = false) :
    run.selects answers = true ∧ chosen.status.active = run.status.active := by
  unfold selectNext at missed
  split at missed
  · rename_i active
    have stays : chosen.runLifecycle.projection = run.runLifecycle.projection := by
      split at missed
      · cases missed
        rfl
      · rename_i slotId _
        have kept := selectActiveSlot_projection run answers slotId
        split at missed <;> rename_i result
        · cases missed
        · cases missed
          rw [result] at kept
          exact kept
    rw [RunLifecycle.isActiveFile, stays] at inactive
    exact absurd active (by simpa [RunLifecycle.isActiveFile] using inactive)
  · rename_i playlist
    refine ⟨by simpa [selects] using Or.inl playlist, ?_⟩
    rcases setActiveIndex_spec run nextIdx with ⟨-, same⟩ | ⟨id, -, same⟩ <;> rw [same] at missed
    · cases missed
      rfl
    · cases missed

theorem selectNext_activeItem (active : run.activeItem.isSome) (answers : Answers)
    (nextIdx : Nat) : (run.selectNext answers nextIdx).2.activeItem.isSome := by
  unfold selectNext
  split
  · split
    · exact active
    · split <;> rename_i result
      · exact (selectActiveSlot_ok result).2.2.2
      · have kept := selectActiveSlot_error result
        rw [activeItem, ExecutionSequence.activeSlot] at active ⊢
        rw [kept]
        exact active
  · cases there : run.slotIdAt nextIdx with
    | none =>
      have same : run.setActiveIndex nextIdx = (false, run) := by simp [setActiveIndex, there]
      rw [same]
      exact active
    | some id =>
      rw [slotIdAt_eq] at there
      obtain ⟨chosen, set, -, ⟨item, found⟩, -⟩ := setActiveIndex_moves there
      rw [set, found]
      rfl

theorem advanceToNextTrack_outcome {stop : QueueEndStop} {nextIdx : Nat} {settlingTransition : Option Transition}
    (advanced : run.advanceToNextTrack answers stop nextIdx settlingTransition = some next) :
    next.Closed ∨ run.selects answers = true ∧ next.status.active = run.status.active ∧ next.tally = run.tally := by
  have kept := tally_of_record (record_selectNext run answers nextIdx)
  unfold advanceToNextTrack at advanced
  cases selected : run.selectNext answers nextIdx with
  | mk ok chosen =>
    rw [selected] at advanced kept
    dsimp only at advanced kept
    split at advanced
    · cases advanced
    · rename_i item _
      split at advanced
      · cases advanced
        exact Or.inl (chosen.loadActiveItemState.endRun_closes _)
      · rename_i goes
        have result : next.tally = run.tally ∧ next.status.active = chosen.status.active := by
          have completed : (chosen.loadActiveItemState.completeTrack stop item).tally =
              run.tally := (tally_send _ rfl).trans kept
          split at advanced <;> cases advanced
          · exact ⟨(tally_send _ rfl).trans completed, rfl⟩
          · exact ⟨completed, rfl⟩
        have selects : run.selects answers = true ∧ chosen.status.active = run.status.active := by
          cases ok with
          | true => exact selectNext_true selected
          | false =>
            refine selectNext_false selected ?_
            simpa [loadActiveItemState] using goes
        exact Or.inr ⟨selects.1, result.2.trans selects.2, result.1⟩

theorem advanceToNextTrack_isSome (active : run.activeItem.isSome) (answers : Answers)
    (stop : QueueEndStop) (nextIdx : Nat) (settlingTransition : Option Transition) :
    (run.advanceToNextTrack answers stop nextIdx settlingTransition).isSome := by
  have chosen := selectNext_activeItem active answers nextIdx
  unfold advanceToNextTrack
  generalize run.selectNext answers nextIdx = selected at chosen ⊢
  obtain ⟨ok, chosenRun⟩ := selected
  obtain ⟨item, found⟩ := Option.isSome_iff_exists.mp chosen
  dsimp only at found ⊢
  rw [found]
  dsimp only
  split
  · rfl
  · split <;> rfl

def advancesOnEndFile (run : PlaybackRun) (answers : Answers) (reason : EndFileReason) : Bool :=
  run.quitAt.isNone && run.loadIsReady && run.origin = .queue && reason ≠ .quit &&
    match run.activeSlotId.bind fun slotId => run.queue.slot slotId with
    | none => false
    | some completed =>
      !isSupersededJumpEndFile reason run.runLifecycle.jump
          (run.endedTrackDecision reason completed.item).trackFinished &&
        run.settleForcedJump.1.1 < run.queueLen && run.selects answers

theorem onEndFileQueue_outcome {reason : EndFileReason}
    (ended : run.onEndFileQueue answers reason run.activeSlotId = some (false, next))
    (taken : run.quitAt = none ∧ run.loadIsReady = true ∧ run.origin = .queue ∧ reason ≠ .quit)
    (inactive : next.status.active = false) :
    next.Closed ∨ run.status.active = false ∧ run.advancesOnEndFile answers reason = true ∧ (next.Closed ↔ run.Closed) := by
  unfold onEndFileQueue at ended
  split at ended
  · cases ended
    exact Or.inl ((run.markReported .sent).endRun_closes _)
  · rename_i completed found
    dsimp only at ended
    split at ended
    · cases ended
    · rename_i kept
      split at ended
      · cases ended
        left
        unfold stopAtQueueEnd
        exact endRun_closes _ _
      · rename_i short
        rw [Option.map_eq_some_iff] at ended
        obtain ⟨advanced, result, same⟩ := ended
        cases same
        rcases advanceToNextTrack_outcome result with closed | ⟨selects, active, tally⟩
        · exact Or.inl closed
        · refine Or.inr ⟨active ▸ inactive, ?_, closed_of_tally tally⟩
          have inside : run.settleForcedJump.1.1 < run.queueLen := Nat.not_le.mp short
          have chosen : run.selects answers = true := selects
          simp [advancesOnEndFile, taken, found, kept, inside, chosen]

theorem onEndFileQueue_isSome (answers : Answers) (reason : EndFileReason) :
    (run.onEndFileQueue answers reason run.activeSlotId).isSome := by
  unfold onEndFileQueue
  split
  · rfl
  · rename_i completed found
    have active : run.activeItem.isSome := by
      have there : run.queue.activeSlot = some completed := found
      rw [activeItem, there]
      rfl
    dsimp only
    split
    · rfl
    · split
      · rfl
      · rw [Option.isSome_map]
        apply advanceToNextTrack_isSome
        exact active

theorem onEndFile_isSome (run : PlaybackRun) (answers : Answers) (reason : EndFileReason) :
    (run.onEndFile answers reason).isSome := by
  unfold onEndFile
  split
  · rfl
  · split
    · rfl
    · split
      · split
        · rfl
        · exact onEndFileQueue_isSome answers reason
      · rfl

theorem onEndFile_outcome {reason : EndFileReason} (ended : run.onEndFile answers reason = some (false, next))
    (inactive : next.status.active = false) :
    next.Closed ∨ run.status.active = false ∧ run.advancesOnEndFile answers reason = true ∧ (next.Closed ↔ run.Closed) := by
  unfold onEndFile at ended
  split at ended
  · cases ended
  · rename_i quitting
    split at ended
    · cases ended
    · rename_i loading
      split at ended
      · rename_i queue
        split at ended
        · cases ended
        · rename_i reason
          refine onEndFileQueue_outcome ended ⟨?_, by simpa using loading, queue, reason⟩ inactive
          simpa using quitting
      · cases ended
        exact Or.inl (endRun_closes _ _)

theorem onMpvError_closes (failure : MpvFailure) (failed : (run.onMpvError failure).1 = true) :
    (run.onMpvError failure).2.Closed := by
  unfold onMpvError stopRunWithError at failed ⊢
  split
  · exact endRun_closes _ _
  · split
    · simp_all
    · exact endRun_closes _ _
  · split
    · exact endRun_closes _ _
    · simp_all

theorem onShutdown_closes (run : PlaybackRun) : run.onShutdown.Closed := by
  have stopped (start : PlaybackRun) (slot : Option QueueSlotId) : (start.shutdownRun slot).Closed := by
    unfold shutdownRun
    split <;> exact endRun_closes _ _
  unfold onShutdown
  dsimp only
  split <;> exact stopped _ _

theorem finalizeQuit_closes (run : PlaybackRun) : run.finalizeQuit.Closed := endRun_closes _ _

theorem handleMpvEvent_isSome (run : PlaybackRun) (answers : Answers) (event : MpvEvent) :
    (run.handleMpvEvent answers event).isSome := by
  cases event with
  | endFile reason => simpa [handleMpvEvent] using run.onEndFile_isSome answers reason
  | _ => rfl

theorem handleMpvEvent_moves {event : MpvEvent} {exits : Bool}
    (handled : run.handleMpvEvent answers event = some (exits, next)) :
    run.tally.Moves next.tally := by
  rcases record_handleMpvEvent handled with moves | ⟨-, marked⟩
  · exact moves.tallies
  · exact .of_eq (congrArg Record.tally marked)

/-- An event ends the run with its stop told, unless the end of a track finds the run inactive. -/
theorem handleMpvEvent_outcome {event : MpvEvent} (handled : run.handleMpvEvent answers event = some (true, next)) :
    next.Closed ∨ ∃ reason, event = .endFile reason ∧ run.status.active = false ∧
      run.advancesOnEndFile answers reason = true ∧ (next.Closed ↔ run.Closed) := by
  cases event with
  | playlistPos pos => cases handled
  | playlistCount count => cases handled
  | timePos ticks started duration => cases handled
  | playbackRestart => cases handled
  | nextUpPlay => cases handled
  | endFile reason =>
    simp only [handleMpvEvent, Option.map_eq_some_iff, Prod.mk.injEq, Prod.exists] at handled
    obtain ⟨goesOn, ended, result, exit, rfl⟩ := handled
    rw [Bool.and_eq_true, Bool.not_eq_true', Bool.not_eq_true'] at exit
    rw [exit.1] at result
    rcases onEndFile_outcome result exit.2 with closed | silent
    · exact Or.inl closed
    · exact Or.inr ⟨reason, rfl, silent⟩
  | shutdown =>
    cases handled
    exact Or.inl run.onShutdown_closes
  | failed failure =>
    have same : run.onMpvError failure = (true, next) := Option.some.inj handled
    have closed := run.onMpvError_closes failure
    rw [same] at closed
    exact Or.inl (closed rfl)

/-! The appends that reach the queue, and the ids they may not repeat. -/

def appends (run : PlaybackRun) (answers : Answers) (items : List ExecSlot) : Bool :=
  !items.isEmpty && (run.runLifecycle.isActiveFile ||
    if items.any fun slot => slot.item.isAudiobookshelf then
      run.queue.activeSlot.isSome && answers.prepareSource.isNone && answers.loadfile.isNone
    else
      items.all fun slot => (refreshResume answers.refreshed slot.item).hasMpvUrlSource)

def repeatsSlot (run : PlaybackRun) (items : List ExecSlot) : Bool :=
  !uniqueSlotIds (items.map fun slot => (slot.slotId, slot.item)) run.queue.slotIds

theorem repeatsSlot_iff {items : List ExecSlot} : run.repeatsSlot items = true ↔ ¬ ((items.map (·.slotId)).Nodup ∧
      ∀ id ∈ items.map (·.slotId), id ∉ run.queue.slotIds) := by
  rw [repeatsSlot, Bool.not_eq_true', ← Bool.not_eq_true, uniqueSlotIds_iff, map_map]
  rfl

theorem repeatsSlot_of_none {items : List ExecSlot}
    (panicked : run.appendItemsToQueue items = none) : run.repeatsSlot items = true := by
  rw [appendItemsToQueue, Option.map_eq_none_iff] at panicked
  refine repeatsSlot_iff.mpr fun unique => ?_
  have appended := appendSlots_isSome.mpr unique
  rw [panicked] at appended
  cases appended

theorem cmdAppendQueue_none {items : List ExecSlot} (panicked : run.cmdAppendQueue answers items = none) :
    run.appends answers items = true ∧ run.repeatsSlot items = true := by
  unfold cmdAppendQueue at panicked
  split at panicked
  · cases panicked
  · rename_i some
    split at panicked
    · rename_i active
      exact ⟨by simp [appends, some, active], repeatsSlot_of_none panicked⟩
    · rename_i playlist
      split at panicked
      · rename_i book
        unfold promoteToActiveFile at panicked
        split at panicked
        · cases panicked
        · rename_i active found
          split at panicked
          · cases panicked
          · rename_i prepared
            split at panicked <;> rename_i result
            · cases panicked
            · rw [Option.map_eq_none_iff] at panicked
              have loaded : answers.loadfile = none := by
                unfold installActiveProjection at result
                dsimp only at result
                split at result
                · cases result
                · rename_i loaded
                  exact loaded
              have same : run.queue = _ := (congrArg Place.queue (installActiveProjection_place result)).symm
              refine ⟨by simp [appends, some, book, found, prepared, loaded], ?_⟩
              rw [repeatsSlot, same]
              exact repeatsSlot_of_none panicked
      · rename_i plain
        unfold appendItemsViaMpv at panicked
        dsimp only at panicked
        split at panicked
        · rename_i direct
          refine ⟨?_, ?_⟩
          · simp only [all_map] at direct
            simp only [appends, some, plain, Bool.not_false, Bool.true_and]
            simpa [Function.comp_def] using Or.inr direct
          · have repeated := repeatsSlot_of_none panicked
            rw [repeatsSlot_iff, map_map] at repeated
            exact repeatsSlot_iff.mpr repeated
        · cases panicked

theorem handleCommand_none {command : PlayerCommand} (panicked : run.handleCommand answers command = none) :
    command.accepts = true ∨ ∃ items, command = .queueAppend items ∧
      run.appends answers items = true ∧ run.repeatsSlot items = true := by
  cases command with
  | queueAppend items =>
    exact Or.inr ⟨items, rfl, cmdAppendQueue_none (Option.map_eq_none_iff.mp panicked)⟩
  | loadNew item => exact Or.inl rfl
  | submitQueue items startIdx =>
    refine Or.inl ?_
    cases items with
    | cons slot items => rfl
    | nil =>
      by_cases active : run.runLifecycle.isActiveFile = true <;>
        simp [handleCommand, cmdSubmitQueue, replaceWithQueueItems, active] at panicked
  | _ => cases panicked

end PlaybackRun

structure Submission where
  identity : PlaybackGeneration
  stops : List (PlaybackGeneration × StopOutcome) := []

structure StopHistory where
  thread : RunThread
  latest : Submission
  earlier : List Submission := []

def RunInput.submission? (thread : RunThread) : RunInput → Option PlaybackGeneration
  | .command _ sent =>
    if !thread.exited && sent.accepts then some (sent.identityDuring thread.run) else none
  | _ => none

def RunThread.stopsSent (thread next : RunThread) : List (PlaybackGeneration × StopOutcome) :=
  (stopsIn next.run.events).drop (stopsIn thread.run.events).length

namespace StopHistory

def step (history : StopHistory) (input : RunInput) : StopHistory :=
  let next := history.thread.step input
  let sent := history.thread.stopsSent next
  match input.submission? history.thread with
  | some identity =>
    { thread := next
      latest := ⟨identity, sent⟩
      earlier := history.latest :: history.earlier }
  | none =>
    { thread := next
      latest := { history.latest with stops := history.latest.stops ++ sent }
      earlier := history.earlier }

def machine : Machine StopHistory RunInput := ⟨step⟩

def start (run : PlaybackRun) : StopHistory where
  thread := { run := run }
  latest := ⟨run.runIdentity, []⟩

end StopHistory

/-- The inputs whose end path tells its stop: no track ends with a next entry to select while the
    run is inactive and unended, and no append to an ended run repeats a slot. -/
def RunInput.tellsStop (thread : RunThread) : RunInput → Bool
  | .event answers (.endFile reason) =>
    thread.run.Closed || thread.run.status.active || !thread.run.advancesOnEndFile answers reason
  | .command answers (.queueAppend items) =>
    !decide thread.run.Closed || !thread.run.appends answers items || !thread.run.repeatsSlot items
  | _ => true

def Submission.Once (submission : Submission) : Prop :=
  submission.stops = [] ∨ ∃ outcome, submission.stops = [(submission.identity, outcome)]

/-- The guard is open exactly while the latest submission has no stop. -/
structure Tally.Fits (tally : Tally) (latest : Submission) (earlier : List Submission) :
    Prop where
  once : ∀ submission ∈ latest :: earlier, submission.Once
  current : tally.identity = latest.identity
  guard : latest.stops = [] ↔ tally.ended ≠ some tally.identity
  told : tally.stops = (latest :: earlier).reverse.flatMap (·.stops)

theorem Tally.Fits.moves {tally after : Tally} {latest : Submission} {earlier : List Submission}
    (fits : tally.Fits latest earlier) (moves : tally.Moves after) :
    after.Fits { latest with stops := latest.stops ++ after.stops.drop tally.stops.length }
      earlier := by
  cases moves with
  | quiet => simpa using fits
  | stop outcome unclosed =>
    have fresh := fits.guard.mpr unclosed
    have current := fits.current
    simp only [fresh, nil_append, drop_left]
    refine ⟨?_, current, by simp, ?_⟩
    · rintro submission (_ | ⟨_, later⟩)
      · exact Or.inr ⟨outcome, by rw [current]⟩
      · exact fits.once submission (mem_cons_of_mem _ later)
    · have told := fits.told
      simp only [reverse_cons, flatMap_append, flatMap_cons, flatMap_nil, append_nil, fresh] at told ⊢
      rw [told]

theorem Tally.Fits.accept {tally : Tally} {latest : Submission} {earlier : List Submission}
    (fits : tally.Fits latest earlier) (identity : PlaybackGeneration) :
    Fits ⟨tally.stops, identity, none⟩ ⟨identity, []⟩ (latest :: earlier) := by
  refine ⟨?_, rfl, by simp, ?_⟩
  · rintro submission (_ | ⟨_, later⟩)
    · exact Or.inl rfl
    · exact fits.once submission later
  · simp [fits.told]

/-- A sound history; after an exit the latest submission has its stop. -/
structure StopHistory.Sound (history : StopHistory) : Prop where
  once : ∀ submission ∈ history.latest :: history.earlier, submission.Once
  told : stopsIn history.thread.run.events =
    (history.latest :: history.earlier).reverse.flatMap (·.stops)
  live : history.thread.exited = false →
    history.thread.run.tally.Fits history.latest history.earlier
  exit : history.thread.exited = true → history.latest.stops ≠ []

namespace StopHistory

variable {history : StopHistory}

variable {run : PlaybackRun}

theorem sound_start {items : List ExecSlot} {init : RunInit}
    (started : PlaybackRun.newFromSlotItems items init = some run) : (start run).Sound := by
  rw [PlaybackRun.newFromSlotItems, Option.bind_eq_some_iff] at started
  obtain ⟨queue, -, started⟩ := started
  rw [PlaybackRun.initFromQueue, Option.map_eq_some_iff] at started
  obtain ⟨initial, -, rfl⟩ := started
  have once : Submission.Once ⟨init.status.sequenceGeneration, []⟩ := Or.inl rfl
  refine ⟨?_, rfl, fun _ => ⟨?_, rfl, ?_, rfl⟩, fun exited => by cases exited⟩
  · rintro submission (_ | ⟨_, later⟩)
    · exact once
    · cases later
  · rintro submission (_ | ⟨_, later⟩)
    · exact once
    · cases later
  · simp [start, PlaybackRun.tally, RunLifecycle.forQueue]

theorem sound_of_fits {thread : RunThread} {latest : Submission} {earlier : List Submission}
    {tally : Tally} (fits : tally.Fits latest earlier)
    (same : tally.stops = stopsIn thread.run.events)
    (live : thread.exited = false → tally = thread.run.tally)
    (exit : thread.exited = true → tally.ended = some tally.identity) :
    Sound ⟨thread, latest, earlier⟩ where
  once := fits.once
  told := same ▸ fits.told
  live stays := live stays ▸ fits
  exit gone := fun fresh => fits.guard.mp fresh (exit gone)

def startTally (thread : RunThread) : RunInput → Tally
  | .command _ sent => thread.run.tallyDuring sent
  | _ => thread.run.tally

theorem tallyDuring_spec (run : PlaybackRun) (command : PlayerCommand) : (run.tallyDuring command).stops = stopsIn run.events ∧
      (run.tallyDuring command).identity = command.identityDuring run := by
  unfold PlaybackRun.tallyDuring
  split
  · exact ⟨rfl, rfl⟩
  · refine ⟨rfl, ?_⟩
    cases command with
    | submitQueue items startIdx =>
      rename_i refused
      have empty : items = [] := by simpa [PlayerCommand.accepts] using refused
      simp [PlayerCommand.identityDuring, empty, PlaybackRun.tally]
    | _ => rfl

theorem panicked_moves {command : PlayerCommand} (unclosed : (run.tallyDuring command).ended ≠ some (command.identityDuring run))
    (message : String) :
    ∃ after, (run.tallyDuring command).Moves after ∧
      after.stops = stopsIn (run.panicked (command.identityDuring run) message).events ∧
      after.ended = some after.identity := by
  obtain ⟨stops, identity⟩ := tallyDuring_spec run command
  rw [← identity] at unclosed ⊢
  refine ⟨_, .stop _ ⟨none, 0, false, false, some message⟩ unclosed, ?_, rfl⟩
  simp [PlaybackRun.panicked, PlaybackRun.send, stopsIn, filterMap_append, PlayerEvent.stop?, stops]

theorem command_moves {answers : Answers} {command : PlayerCommand}
    (tells : (RunInput.command answers command).tellsStop { run := run } = true)
    (panics : run.handleCommand answers command = none) :
    (run.tallyDuring command).ended ≠ some (command.identityDuring run) := by
  rcases PlaybackRun.handleCommand_none panics with accepts | ⟨items, rfl, appends, repeats⟩
  · simp [PlaybackRun.tallyDuring, accepts]
  · have unclosed : ¬ run.Closed := by
      simpa [RunInput.tellsStop, appends, repeats] using tells
    exact unclosed

theorem step_moves {input : RunInput} (tells : input.tellsStop { run := run } = true) :
    ∃ after, (startTally { run := run } input).Moves after ∧
      after.stops = stopsIn (RunThread.step { run := run } input).run.events ∧
      ((RunThread.step { run := run } input).exited = false → after = (RunThread.step { run := run } input).run.tally) ∧
      ((RunThread.step { run := run } input).exited = true → after.ended = some after.identity) := by
  cases input with
  | command answers sent =>
    cases handled : run.handleCommand answers sent with
    | some result =>
      obtain ⟨cancels, next⟩ := result
      have stepped : RunThread.step { run := run } (.command answers sent) = { run := next } := by
        simp [RunThread.step, handled]
      rw [stepped]
      exact ⟨next.tally, PlaybackRun.handleCommand_moves handled, rfl, fun _ => rfl, fun exited => nomatch exited⟩
    | none =>
      have stepped : RunThread.step { run := run } (.command answers sent) =
          { run := run.panicked (sent.identityDuring run)
              "execution sequence slot identities must be unique"
            exited := true } := by
        simp [RunThread.step, handled]
      rw [stepped]
      obtain ⟨after, moves, stops, ended⟩ := panicked_moves (command_moves tells handled)
        "execution sequence slot identities must be unique"
      exact ⟨after, moves, stops, fun live => (nomatch live), fun _ => ended⟩
  | stopRequest now =>
    refine ⟨run.tally, .quiet _, ?_, fun _ => ?_, fun exited => nomatch exited⟩
    · show _ = stopsIn (if run.quitAt.isNone then run.handleStopRequest now else run).events
      split <;> rfl
    · show _ = (if run.quitAt.isNone then run.handleStopRequest now else run).tally
      split <;> rfl
  | quitTimer now =>
    cases quit : run.quitAt with
    | none =>
      have stepped : RunThread.step { run := run } (.quitTimer now) = { run := run } := by
        simp [RunThread.step, quit]
      rw [stepped]
      exact ⟨run.tally, .quiet _, rfl, fun _ => rfl, fun exited => nomatch exited⟩
    | some since =>
      by_cases late : now - since > quitTimeout
      · have stepped : RunThread.step { run := run } (.quitTimer now) =
            { run := run.finalizeQuit, exited := true } := by
          simp [RunThread.step, quit, late]
        rw [stepped]
        exact ⟨_, run.record_finalizeQuit.tallies, rfl, fun _ => rfl, fun _ => run.finalizeQuit_closes⟩
      · have stepped : RunThread.step { run := run } (.quitTimer now) = { run := run } := by
          simp [RunThread.step, quit, late]
        rw [stepped]
        exact ⟨run.tally, .quiet _, rfl, fun _ => rfl, fun exited => nomatch exited⟩
  | event answers event =>
    obtain ⟨⟨exits, next⟩, handled⟩ := Option.isSome_iff_exists.mp (run.handleMpvEvent_isSome answers event)
    have stepped : RunThread.step { run := run } (.event answers event) = { run := next, exited := exits } := by
      simp [RunThread.step, handled]
    rw [stepped]
    refine ⟨next.tally, PlaybackRun.handleMpvEvent_moves handled, rfl, fun _ => rfl, ?_⟩
    rintro rfl
    rcases PlaybackRun.handleMpvEvent_outcome handled with closed | ⟨reason, rfl, inactive, advances, same⟩
    · exact closed
    · refine same.mpr ?_
      simpa [RunInput.tellsStop, inactive, advances] using tells
  | advanceSequenceGeneration =>
    exact ⟨run.tally, .quiet _, rfl, fun _ => rfl, fun exited => nomatch exited⟩
  | seedStatus item idx queueLen =>
    exact ⟨run.tally, .quiet _, rfl, fun _ => rfl, fun exited => nomatch exited⟩

theorem Sound.step (sound : history.Sound) {input : RunInput}
    (tells : input.tellsStop history.thread = true) : (history.step input).Sound := by
  obtain ⟨⟨run, exited⟩, latest, earlier⟩ := history
  cases exited with
  | true =>
    -- A thread that returned takes no input: nothing is added and nothing is accepted.
    have stays : RunThread.step { run := run, exited := true } input = { run := run, exited := true } := by simp [RunThread.step]
    have refuses : input.submission? { run := run, exited := true } = none := by
      cases input <;> simp [RunInput.submission?]
    unfold StopHistory.step
    simp only [refuses, stays, RunThread.stopsSent, drop_length, append_nil]
    exact sound
  | false =>
    have fits := sound.live rfl
    obtain ⟨after, moves, stops, live, exit⟩ := step_moves tells
    have known : (startTally { run := run } input).stops = stopsIn run.events := by
      cases input with
      | command answers sent => exact (tallyDuring_spec run sent).1
      | _ => rfl
    have added : after.stops.drop (startTally { run := run } input).stops.length =
        RunThread.stopsSent { run := run } (RunThread.step { run := run } input) := by
      rw [stops, known]
      rfl
    unfold StopHistory.step
    cases accepted : input.submission? { run := run } with
    | none =>
      have same : startTally { run := run } input = run.tally := by
        cases input with
        | command answers sent =>
          have refused : sent.accepts = false := by simpa [RunInput.submission?] using accepted
          simp [startTally, PlaybackRun.tallyDuring, refused]
        | _ => rfl
      have moved := Tally.Fits.moves (same ▸ fits) moves
      rw [added] at moved
      exact sound_of_fits moved stops live exit
    | some identity =>
      have same : startTally { run := run } input = ⟨run.tally.stops, identity, none⟩ := by
        cases input with
        | command answers sent =>
          have started : sent.accepts = true ∧ sent.identityDuring run = identity := by
            simpa [RunInput.submission?] using accepted
          simp [startTally, PlaybackRun.tallyDuring, started, PlaybackRun.tally]
        | _ => cases accepted
      have moved := Tally.Fits.moves (same ▸ fits.accept identity) moves
      rw [added, nil_append] at moved
      exact sound_of_fits moved stops live exit

end StopHistory

/-- One `Stopped` for each accepted submission: never a second one, always under the submission's
    own identity, always sent by the first end path and by none after it, and sent before the run
    returns. -/
structure OneStopEach (history : StopHistory) : Prop where
  once : ∀ submission ∈ history.latest :: history.earlier,
    submission.stops = [] ∨ ∃ outcome, submission.stops = [(submission.identity, outcome)]
  told : stopsIn history.thread.run.events =
    (history.latest :: history.earlier).reverse.flatMap (·.stops)
  sends : history.thread.exited = false → history.latest.stops = [] → ∀ outcome,
    (history.thread.run.endRun outcome).events =
      history.thread.run.events ++ [.stopped history.latest.identity outcome]
  mutes : history.thread.exited = false → history.latest.stops ≠ [] → ∀ outcome,
    history.thread.run.endRun outcome = history.thread.run
  exit : history.thread.exited = true →
    ∃ outcome, history.latest.stops = [(history.latest.identity, outcome)]

theorem StopHistory.Sound.oneStopEach {history : StopHistory} (sound : history.Sound) : OneStopEach history where
  once := sound.once
  told := sound.told
  sends live fresh outcome := by
    have fits := sound.live live
    have unclosed := fits.guard.mp fresh
    rw [(history.thread.run.endRun_open unclosed outcome).1, show history.thread.run.runIdentity = _ from fits.current]
  mutes live stopped outcome := by
    have fits := sound.live live
    have closed := not_not.mp fun unclosed => stopped (fits.guard.mpr unclosed)
    exact history.thread.run.endRun_closed closed outcome
  exit gone := by
    rcases sound.once history.latest mem_cons_self with none | stopped
    · exact absurd none (sound.exit gone)
    · exact stopped

/-- Every run that takes no silent way out reports each of its submissions exactly once. -/
theorem one_stopped_per_submission {items : List ExecSlot} {init : RunInit} {run : PlaybackRun}
    {inputs : List RunInput} (started : PlaybackRun.newFromSlotItems items init = some run)
    (tells : StopHistory.machine.Along
      (fun history input => input.tellsStop history.thread = true) (.start run) inputs) :
    OneStopEach (StopHistory.machine.run (.start run) inputs) := by
  have sound := Machine.run_invariant
    (fun history input sound tells => @StopHistory.Sound.step history sound input tells)
    (StopHistory.sound_start started) tells
  exact sound.oneStopEach

/-- Two episodes, the first of them playing as mpv's active file. -/
def firstOfTwoEpisodes : List ExecSlot × RunInit :=
  ([1, 2].map fun raw =>
      ⟨⟨raw⟩, .audiobookshelf (.episode ⟨"", "", "", some 600000000, 0, false, false, ""⟩)⟩,
    ⟨0, .queue, {}, none, {}⟩)

/-- The first episode ends, the second is replaced by a failing submission, and mpv quits. -/
theorem one_stopped_per_submission_at_replacement :
    ∃ run, PlaybackRun.newFromSlotItems firstOfTwoEpisodes.1 firstOfTwoEpisodes.2 = some run ∧
      OneStopEach (StopHistory.machine.run (.start run)
        [.event {} (.endFile .eof), .advanceSequenceGeneration,
          .command { loadfile := some "error" } (.submitQueue firstOfTwoEpisodes.1 1),
          .event {} .shutdown]) :=
  ⟨(PlaybackRun.newFromSlotItems firstOfTwoEpisodes.1 firstOfTwoEpisodes.2).get rfl,
    Option.eq_some_of_isSome rfl,
    one_stopped_per_submission (Option.eq_some_of_isSome rfl) (by decide)⟩

/-- Removing the playing episode while its neighbour's load fails marks the run inactive without
    ending it; the end of the episode then selects the neighbour and the run returns with no
    `Stopped`. -/
theorem failed_neighbor_load_loses_stopped :
    ∃ run, PlaybackRun.newFromSlotItems firstOfTwoEpisodes.1 firstOfTwoEpisodes.2 = some run ∧
      let final := StopHistory.machine.run (.start run)
        [.command { loadfile := some "error" } (.queueRemove ⟨1⟩), .event {} (.endFile .eof)]
      final.thread.exited = true ∧ final.latest.stops = [] ∧
        stopsIn final.thread.run.events = [] :=
  ⟨(PlaybackRun.newFromSlotItems firstOfTwoEpisodes.1 firstOfTwoEpisodes.2).get rfl,
    Option.eq_some_of_isSome rfl, by decide⟩

end Mbv.Player
