import Mbv.Player.Run.Stops

namespace Mbv.Player

open Mbv.Queue List

/-! ### The near-end mark

Only mpv's own Quit end-file sets it; a new item lifecycle clears it, and nothing else touches it. -/

namespace PlaybackRun

/-- A run that was not marked near its end is not marked afterwards. -/
def KeepsUnmarked (run next : PlaybackRun) : Prop :=
  run.stoppedNearEnd = false → next.stoppedNearEnd = false

end PlaybackRun

theorem Record.Moves.unmarked {before after : Record} (moves : before.Moves after)
    (unmarked : before.nearEnd = false) : after.nearEnd = false := by
  induction moves with
  | quiet record => exact unmarked
  | sends record event _ _ => exact unmarked
  | stop record outcome _ => exact unmarked
  | clears record => rfl
  | trans _ _ first second => exact second (first unmarked)

/-- mpv reports the end of a file because it quits. -/
def RunInput.isQuitEndFile : RunInput → Prop
  | .event _ (.endFile .quit) => True
  | _ => False

namespace RunThread

theorem step_unmarked {thread : RunThread} {input : RunInput} (notQuit : ¬ input.isQuitEndFile) :
    PlaybackRun.KeepsUnmarked thread.run (thread.step input).run := by
  intro unmarked
  unfold step
  split
  · exact unmarked
  · cases input with
    | command answers command =>
      dsimp only
      split
      · rename_i result
        exact (PlaybackRun.record_handleCommand result).unmarked unmarked
      · exact unmarked
    | event answers event =>
      dsimp only
      split
      · rename_i exits next result
        rcases PlaybackRun.record_handleMpvEvent result with moves | ⟨rfl, -⟩
        · exact moves.unmarked unmarked
        · exact absurd trivial notQuit
      · exact unmarked
    | stopRequest now =>
      dsimp only
      split <;> exact unmarked
    | quitTimer now =>
      dsimp only
      split
      · split
        · exact (PlaybackRun.record_finalizeQuit _).unmarked unmarked
        · exact unmarked
      · exact unmarked
    | advanceSequenceGeneration => exact unmarked
    | seedStatus item idx queueLen => exact unmarked

theorem run_unmarked {thread : RunThread} {inputs : List RunInput}
    (notQuit : ∀ input ∈ inputs, ¬ input.isQuitEndFile) (start : thread.run.stoppedNearEnd = false) :
    (machine.run thread inputs).run.stoppedNearEnd = false :=
  @Machine.run_invariant _ _ machine (fun thread => thread.run.stoppedNearEnd = false)
    (fun _ input => ¬ input.isQuitEndFile) (fun _ _ unmarked notQuit => step_unmarked notQuit unmarked)
    _ _ start (Machine.along_of_forall fun input member _ => notQuit input member)

end RunThread

/-! ### The verdict an occurrence ends with -/

/-- The played and consume flags an event reports of the occurrence that ended. -/
def PlayerEvent.verdict? : PlayerEvent → Option (Bool × Bool)
  | stopped _ outcome => some (outcome.played, outcome.consume)
  | trackCompleted _ _ _ played consume => some (played, consume)
  | _ => none

namespace PlaybackRun

/-- Whatever is reported between the two runs carries the one verdict. -/
def Reports (verdict : Bool × Bool) (run next : PlaybackRun) : Prop :=
  ∃ sent, next.events = run.events ++ sent ∧
    ∀ event ∈ sent, ∀ reported ∈ event.verdict?, reported = verdict

namespace Reports

variable {verdict : Bool × Bool} {run middle next : PlaybackRun}

theorem of_events (same : next.events = run.events) : Reports verdict run next := ⟨[], by simpa using same, by simp⟩

theorem trans (first : Reports verdict run middle) (second : Reports verdict middle next) : Reports verdict run next := by
  obtain ⟨sent, events, early⟩ := first
  obtain ⟨more, events', late⟩ := second
  refine ⟨sent ++ more, by rw [events', events, append_assoc], fun event member => ?_⟩
  rcases mem_append.mp member with before | after
  · exact early event before
  · exact late event after

theorem send {event : PlayerEvent} (agrees : ∀ reported ∈ event.verdict?, reported = verdict) :
    Reports verdict run (run.send event) := by
  refine ⟨[event], rfl, fun other member => ?_⟩
  rw [mem_singleton.mp member]
  exact agrees

theorem quiet {event : PlayerEvent} (quiet : event.verdict? = none) : Reports verdict run (run.send event) :=
  send fun reported member => by rw [quiet] at member; cases member

theorem endRun {outcome : StopOutcome} (agrees : (outcome.played, outcome.consume) = verdict) :
    Reports verdict run (run.endRun outcome) := by
  unfold PlaybackRun.endRun
  split
  · exact of_events rfl
  · refine ⟨[.stopped run.runIdentity outcome], rfl, fun event member reported told => ?_⟩
    rw [mem_singleton.mp member] at told
    rw [← agrees]
    exact (Option.some.inj told).symm

end Reports

section Advance

variable {verdict : Bool × Bool} (run : PlaybackRun)

theorem setActiveIndex_events (idx : Nat) : (run.setActiveIndex idx).2.events = run.events := by
  rcases setActiveIndex_spec run idx with ⟨-, same⟩ | ⟨id, -, same⟩ <;> exact congrArg (fun result => result.2.events) same

theorem adopt_reports (abandonedSlot : Option QueueSlotId) (abandonedPos : Int) (index : Nat)
    (mpvPosTicks : Int) : Reports (false, false) run
      (run.reportStoppedAndAdoptMpvEntry abandonedSlot abandonedPos index mpvPosTicks) := by
  have adopted : ((run.markReported .sent).adoptMpvEntry index mpvPosTicks).2.events =
      run.events := by
    have set := (run.markReported .sent).setActiveIndex_events index
    unfold adoptMpvEntry
    split <;> rename_i chosen result <;> rw [result] at set
    · exact set
    · have positioned (ticks : Int) : (if ticks > 0 then { chosen.loadActiveItemState with lastValidPos := ticks }
            else chosen.loadActiveItemState).events = chosen.events := by
        split <;> rfl
      have reporting (start : PlaybackRun) : start.reportActiveItem.events = start.events := by
        unfold reportActiveItem
        split <;> rfl
      dsimp only
      split
      · exact (positioned mpvPosTicks).trans set
      · exact (reporting _).trans ((positioned mpvPosTicks).trans set)
  unfold reportStoppedAndAdoptMpvEntry
  split <;> rename_i result <;> rw [result] at adopted
  · exact .of_events adopted
  · refine .trans (.of_events adopted) ?_
    have abandoned (start : PlaybackRun) (slotId : QueueSlotId) : Reports (false, false) start
        (start.send (.trackCompleted slotId start.runIdentity abandonedPos false false)) :=
      .send fun reported told => (Option.some.inj told).symm
    unfold announceAdoptedEntry
    cases abandonedSlot <;> dsimp only <;> split
    · exact .quiet rfl
    · exact .of_events rfl
    · exact (abandoned _ _).trans (.quiet rfl)
    · exact abandoned _ _

variable {run} {next : PlaybackRun}

theorem advance_reports {answers : Answers} {stop : QueueEndStop} {nextIdx : Nat} {settlingTransition : Option Transition}
    (unfinished : (stop.decision.playedOut, stop.decision.consumeTrack) = (false, false))
    (advanced : run.advanceToNextTrack answers stop nextIdx settlingTransition = some next) :
    Reports (false, false) run next := by
  have kept := congrArg Record.events (record_selectNext run answers nextIdx)
  unfold advanceToNextTrack at advanced
  cases selected : run.selectNext answers nextIdx with
  | mk ok chosen =>
    rw [selected] at advanced kept
    dsimp only at advanced kept
    refine .trans (.of_events kept) ?_
    split at advanced
    · cases advanced
    · rename_i item _
      split at advanced
      · cases advanced
        exact .trans (.of_events rfl) (.endRun rfl)
      · have completed : Reports (false, false) chosen (chosen.loadActiveItemState.completeTrack stop item) :=
          .trans (.of_events rfl) (.send fun reported told =>
            (Option.some.inj told).symm.trans unfinished)
        split at advanced <;> cases advanced
        · exact completed.trans (.quiet rfl)
        · exact completed

end Advance

/-- What `is_near_end` says of the occurrence that plays. -/
def nearEnd (run : PlaybackRun) : Bool :=
  isNearEnd run.reporter.isAudio false run.lastValidPos
    ((run.activeItem.map (·.runtimeTicks)).getD 0)

variable {run next : PlaybackRun}

theorem onEndFile_reports {answers : Answers} {reason : EndFileReason} {goesOn : Bool}
    (queue : run.origin = .queue) (notEof : reason ≠ .eof) (notQuit : reason ≠ .quit)
    (noNextUp : run.nextUpJump = false) (early : run.nearEnd = false)
    (ended : run.onEndFile answers reason = some (goesOn, next)) :
    Reports (false, false) run next := by
  unfold onEndFile at ended
  split at ended
  · cases ended
    exact .of_events rfl
  · split at ended
    · cases ended
      unfold onDrained
      exact .of_events rfl
    · rw [queue] at ended
      dsimp only at ended
      unfold onEndFileQueue at ended
      split at ended
      · cases ended
        exact .trans (.of_events rfl) (.endRun rfl)
      · rename_i completed found
        have item : run.activeItem = some completed.item := by
          have there : run.queue.activeSlot = some completed := found
          rw [activeItem, there]
          rfl
        have unfinished : run.endedTrackDecision reason completed.item =
            advanceDecision run.reporter.isAudio .unfinished run.lastValidPos := by
          unfold nearEnd at early
          rw [item, Option.map_some, Option.getD_some] at early
          unfold endedTrackDecision
          simp [notEof, early, noNextUp]
        rw [unfinished] at ended
        dsimp only at ended
        split at ended
        · cases ended
          unfold handleSupersededJump
          split
          · exact .of_events rfl
          · split
            · exact .of_events rfl
            · exact .trans (.of_events rfl) (adopt_reports _ _ _ _ _)
        · split at ended
          · cases ended
            exact .trans (.of_events rfl) (.endRun rfl)
          · rw [Option.map_eq_some_iff] at ended
            obtain ⟨advanced, result, same⟩ := ended
            cases same
            have later := advance_reports rfl result
            refine .trans ?_ later
            exact .of_events rfl

def Tells (verdict : Bool × Bool) (run next : PlaybackRun) : Prop :=
  ∃ sent, next.events = run.events ++ sent ∧ sent.filterMap (·.verdict?) = [verdict]

theorem Tells.reports {verdict : Bool × Bool} (tells : Tells verdict run next) : Reports verdict run next := by
  obtain ⟨sent, events, told⟩ := tells
  refine ⟨sent, events, fun event member reported spoken => ?_⟩
  have listed : reported ∈ sent.filterMap (·.verdict?) := mem_filterMap.mpr ⟨event, member, spoken⟩
  rw [told] at listed
  exact mem_singleton.mp listed

theorem Tells.agrees {told reported : Bool × Bool} (tells : Tells told run next)
    (reports : Reports reported run next) : told = reported := by
  obtain ⟨sent, events, verdicts⟩ := tells
  obtain ⟨sent', events', every⟩ := reports
  obtain rfl : sent = sent' := append_cancel_left (events.symm.trans events')
  have listed : told ∈ sent.filterMap (·.verdict?) := by
    rw [verdicts]
    exact mem_singleton_self told
  obtain ⟨event, member, spoken⟩ := mem_filterMap.mp listed
  exact every event member told spoken

theorem endRun_tells {run : PlaybackRun} (untold : ¬ run.Closed) (outcome : StopOutcome) :
    Tells (outcome.played, outcome.consume) run (run.endRun outcome) :=
  ⟨[.stopped run.runIdentity outcome], (run.endRun_open untold outcome).1, rfl⟩

theorem Tells.of_events {verdict : Bool × Bool} {run middle next : PlaybackRun}
    (same : middle.events = run.events) (tells : Tells verdict middle next) :
    Tells verdict run next := by
  obtain ⟨sent, events, told⟩ := tells
  exact ⟨sent, by rw [events, same], told⟩

theorem Tells.quiet {verdict : Bool × Bool} {event : PlayerEvent} (tells : Tells verdict run next)
    (quiet : event.verdict? = none) :
    Tells verdict run (next.send event) := by
  obtain ⟨sent, events, told⟩ := tells
  refine ⟨sent ++ [event], ?_, by simp [filterMap_append, told, quiet]⟩
  rw [send, events, append_assoc]

theorem onShutdown_tells {run : PlaybackRun} (queue : run.origin = .queue) (untold : ¬ run.Closed) :
    Tells (run.stoppedNearEnd, run.stoppedNearEnd) run run.onShutdown := by
  have stopped (start : PlaybackRun) (queue : start.origin = .queue) (untold : ¬ start.Closed) (slot : Option QueueSlotId) :
      Tells (start.stoppedNearEnd, start.stoppedNearEnd) start (start.shutdownRun slot) := by
    unfold shutdownRun
    rw [queue]
    exact endRun_tells untold _
  have stopping : Tells (run.stoppedNearEnd, run.stoppedNearEnd) run
      ({ run with stopSlot := none }.reportStopIfUnreported.shutdownRun (run.stopSlot.or run.activeSlotId)) := by
    unfold reportStopIfUnreported
    split
    · refine .of_events ?_ (stopped ({ run with stopSlot := none }.markReported .sent) queue untold _)
      rfl
    · refine .of_events ?_ (stopped { run with stopSlot := none } queue untold _)
      rfl
  unfold onShutdown
  dsimp only
  split
  · exact stopping.quiet rfl
  · exact stopping

theorem finalizeQuit_tells {run : PlaybackRun} (queue : run.origin = .queue) (untold : ¬ run.Closed) :
    Tells (run.stoppedNearEnd, run.stoppedNearEnd) run run.finalizeQuit := by
  unfold finalizeQuit quitTimeoutStopFlags
  dsimp only
  split
  · rw [queue]
    exact endRun_tells untold _
  · have origin : (run.markReported .sent).origin = .queue := queue
    rw [origin]
    exact .of_events rfl (@endRun_tells (run.markReported .sent) untold _)

end PlaybackRun

/-- The ways an occurrence of the queue stops being played without coming to its own end. -/
inductive Exit where
  | advanced (answers : Answers) (reason : EndFileReason)
  | mpvQuit (quitting closing : Answers)
  | userStopped (now : Instant) (reason : EndFileReason) (ending closing : Answers)
  | timedOut (now later : Instant)

namespace Exit

def inputs : Exit → List RunInput
  | advanced answers reason => [.event answers (.endFile reason)]
  | mpvQuit quitting closing => [.event quitting (.endFile .quit), .event closing .shutdown]
  | userStopped now reason ending closing =>
    [.stopRequest now, .event ending (.endFile reason), .event closing .shutdown]
  | timedOut now later => [.stopRequest now, .quitTimer later]

def Taken : Exit → Prop
  | advanced _ reason => reason ≠ .eof ∧ reason ≠ .quit
  | timedOut now later => quitTimeout < later - now
  | mpvQuit _ _ | userStopped _ _ _ _ => True

/-- The run once the exit has been taken. -/
def after (exit : Exit) (thread : RunThread) : PlaybackRun :=
  (RunThread.machine.run thread exit.inputs).run

end Exit

/-- An occurrence of the queue plays: its file is loaded, no stop was asked for and no next-up jump,
    and its run has not told its stop. -/
structure RunThread.Playing (thread : RunThread) : Prop where
  running : thread.exited = false
  queue : thread.run.origin = .queue
  loaded : thread.run.loadIsReady = true
  unstopped : thread.run.quitAt = none
  noNextUp : thread.run.nextUpJump = false
  untold : ¬ thread.run.Closed

namespace Exit

open PlaybackRun

variable {thread : RunThread}

theorem advanced_reports (playing : thread.Playing) (early : thread.run.nearEnd = false)
    {answers : Answers} {reason : EndFileReason} (taken : (advanced answers reason).Taken) :
    Reports (false, false) thread.run ((advanced answers reason).after thread) := by
  obtain ⟨⟨goesOn, next⟩, ended⟩ := Option.isSome_iff_exists.mp (thread.run.onEndFile_isSome answers reason)
  have reports := onEndFile_reports playing.queue taken.1 taken.2 playing.noNextUp early ended
  have ends : (advanced answers reason).after thread = next := by
    simp [after, inputs, RunThread.machine, RunThread.step, playing.running, handleMpvEvent, ended]
  rw [ends]
  exact reports

theorem mpvQuit_tells (playing : thread.Playing) (quitting closing : Answers) :
    Tells (thread.run.nearEnd, thread.run.nearEnd) thread.run ((mpvQuit quitting closing).after thread) := by
  have quit : thread.run.onEndFile quitting .quit = some (true,
      thread.run.handleQueueQuit thread.run.activeSlotId thread.run.reporter.isAudio) := by
    simp [onEndFile, playing.unstopped, playing.loaded, playing.queue]
  have ends : (mpvQuit quitting closing).after thread = (thread.run.handleQueueQuit
      thread.run.activeSlotId thread.run.reporter.isAudio).onShutdown := by
    simp [after, inputs, RunThread.machine, RunThread.step, playing.running, handleMpvEvent, quit]
  have left : (thread.run.handleQueueQuit thread.run.activeSlotId thread.run.reporter.isAudio).events = thread.run.events := by
    unfold handleQueueQuit reportStopIfUnreported
    dsimp only
    split <;> rfl
  have kept : (thread.run.handleQueueQuit thread.run.activeSlotId thread.run.reporter.isAudio).origin = .queue ∧
      ¬ (thread.run.handleQueueQuit thread.run.activeSlotId thread.run.reporter.isAudio).Closed := by
    unfold handleQueueQuit reportStopIfUnreported
    dsimp only
    split <;> exact ⟨playing.queue, playing.untold⟩
  have marked : (thread.run.handleQueueQuit thread.run.activeSlotId
      thread.run.reporter.isAudio).stoppedNearEnd = thread.run.nearEnd := rfl
  rw [ends]
  have told := onShutdown_tells kept.1 kept.2
  rw [marked] at told
  exact .of_events left told

theorem userStopped_tells (playing : thread.Playing) (now : Instant) (reason : EndFileReason) (ending closing : Answers) :
    Tells (thread.run.stoppedNearEnd, thread.run.stoppedNearEnd) thread.run
      ((userStopped now reason ending closing).after thread) := by
  have ignored : (thread.run.handleStopRequest now).onEndFile ending reason =
      some (true, thread.run.handleStopRequest now) := rfl
  have ends : (userStopped now reason ending closing).after thread = (thread.run.handleStopRequest now).onShutdown := by
    simp [after, inputs, RunThread.machine, RunThread.step, playing.running, playing.unstopped, handleMpvEvent, ignored]
  rw [ends]
  exact .of_events rfl (@onShutdown_tells (thread.run.handleStopRequest now) playing.queue playing.untold)

theorem timedOut_tells (playing : thread.Playing) {now later : Instant} (taken : (timedOut now later).Taken) :
    Tells (thread.run.stoppedNearEnd, thread.run.stoppedNearEnd) thread.run ((timedOut now later).after thread) := by
  have late : quitTimeout < later - now := taken
  have quitting : (thread.run.handleStopRequest now).quitAt = some now := rfl
  have ends : (timedOut now later).after thread = (thread.run.handleStopRequest now).finalizeQuit := by
    simp [after, inputs, RunThread.machine, RunThread.step, playing.running, playing.unstopped, quitting, late]
  rw [ends]
  exact .of_events rfl (@finalizeQuit_tells (thread.run.handleStopRequest now) playing.queue playing.untold)

end Exit

/-- The exits agree on an occurrence exactly when it does not stand near its end: a run that was asked
    to stop no longer listens to the end-file that would have told it so. -/
theorem near_end_verdict_agrees_iff {items : List ExecSlot} {init : RunInit} {run : PlaybackRun}
    (started : PlaybackRun.newFromSlotItems items init = some run) {inputs : List RunInput}
    (notQuit : ∀ input ∈ inputs, ¬ input.isQuitEndFile)
    (playing : (RunThread.machine.run { run := run } inputs).Playing) :
    let thread := RunThread.machine.run { run := run } inputs
    (∃ verdict, ∀ exit : Exit, exit.Taken → PlaybackRun.Reports verdict thread.run (exit.after thread)) ↔
      thread.run.nearEnd = false := by
  have start : run.stoppedNearEnd = false := by
    obtain ⟨queue, -, built⟩ := Option.bind_eq_some_iff.mp started
    obtain ⟨initial, -, rfl⟩ := Option.map_eq_some_iff.mp built
    rfl
  have unmarked := @RunThread.run_unmarked { run := run } inputs notQuit start
  intro thread
  constructor
  · rintro ⟨verdict, agree⟩
    have quit := (Exit.mpvQuit_tells playing {} {}).agrees (agree (.mpvQuit {} {}) trivial)
    have late : (Exit.timedOut 0 (quitTimeout + 1)).Taken := by
      unfold Exit.Taken
      omega
    have timed := (Exit.timedOut_tells playing late).agrees (agree _ late)
    rw [unmarked] at timed
    exact congrArg Prod.fst (quit.trans timed.symm)
  · intro early
    refine ⟨(false, false), fun exit taken => ?_⟩
    cases exit with
    | advanced answers reason => exact Exit.advanced_reports playing early taken
    | mpvQuit quitting closing =>
      have told := (Exit.mpvQuit_tells playing quitting closing).reports
      rwa [early] at told
    | userStopped now reason ending closing =>
      have told := (Exit.userStopped_tells playing now reason ending closing).reports
      rwa [unmarked] at told
    | timedOut now later =>
      have told := (Exit.timedOut_tells playing taken).reports
      rwa [unmarked] at told

def twoFilms : List ExecSlot :=
  ["a", "b"].mapIdx fun idx id =>
    ⟨⟨.ofNat (idx + 1)⟩, .emby ⟨id, id, "Movie", "Video", 100, false, 0, "", 0, 0, ""⟩⟩

def firstFilm : RunInit where
  startIdx := 0
  origin := .queue

theorem near_end_verdict_agrees_at_94 :
    ∃ run, PlaybackRun.newFromSlotItems twoFilms firstFilm = some run ∧
      let thread := RunThread.machine.run { run := run } [.event {} (.timePos 94 true none)]
      (∃ verdict, ∀ exit : Exit, exit.Taken →
        PlaybackRun.Reports verdict thread.run (exit.after thread)) ↔ thread.run.nearEnd = false :=
  ⟨(PlaybackRun.newFromSlotItems twoFilms firstFilm).get rfl, Option.eq_some_of_isSome rfl,
    near_end_verdict_agrees_iff (Option.eq_some_of_isSome rfl)
      (fun input member => by
        rw [mem_singleton.mp member]
        exact id)
      ⟨by decide, by decide, by decide, by decide, by decide, by decide⟩⟩

/-- At 96 of 100 ticks mpv's own end-files report the film played, a stop the user asked for reports
    it unplayed. -/
theorem near_end_lost_on_user_stop :
    ∃ run, PlaybackRun.newFromSlotItems twoFilms firstFilm = some run ∧
      let thread := RunThread.machine.run { run := run } [.event {} (.timePos 96 true none)]
      let told := fun exit : Exit => (exit.after thread).events.filterMap (·.verdict?)
      told (.advanced {} .stop) = [(true, true)] ∧ told (.mpvQuit {} {}) = [(true, true)] ∧
        told (.userStopped 0 .quit {} {}) = [(false, false)] ∧
        told (.timedOut 0 300000000) = [(false, false)] :=
  ⟨(PlaybackRun.newFromSlotItems twoFilms firstFilm).get rfl, Option.eq_some_of_isSome rfl,
    by decide, by decide, by decide, by decide⟩

end Mbv.Player
