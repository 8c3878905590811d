import Mbv.Player.Run.NearEnd

namespace Mbv.Player

open Mbv.Queue

/-! ### Removing the entry that plays -/

/-- Playback passed to the slot after the removed one: the run goes on with that slot and its ordinal,
    and told no stop. -/
structure HandsOver (before after : PlaybackRun) (successor : QueueSlotId) : Prop where
  active : after.status.active = true
  slot : after.activeSlotId = some successor
  index : after.slotIdAt after.currentIdx = some successor
  silent : stopsIn after.events = stopsIn before.events

namespace PlaybackRun

/-- Whatever decides how the run takes an end-file, apart from its queue. -/
structure Kept (run next : PlaybackRun) : Prop where
  origin : next.origin = run.origin
  quitAt : next.quitAt = run.quitAt
  loaded : next.loadIsReady = run.loadIsReady
  position : next.lastValidPos = run.lastValidPos
  tally : next.tally = run.tally

variable {run : PlaybackRun}

theorem removePlaylistSlot_playing {slotId : QueueSlotId} {idx : Nat}
    (active : run.activeSlotId = some slotId) (found : run.queue.slotIndex slotId = some idx) :
    (run.removePlaylistSlot slotId idx).activeSlotId = none ∧ Kept run (run.removePlaylistSlot slotId idx) := by
  have dropped : (run.queue.removeActiveSlotConfirmed slotId).activeSlotId = none := by
    rw [ExecutionSequence.removeActiveSlotConfirmed, found]
    exact if_pos active
  constructor
  · unfold activeSlotId at dropped ⊢
    by_cases jumped : run.runLifecycle.jumpTargetSlot = some slotId <;>
      simp [removePlaylistSlot, command, syncStatusPosition, jumped, active, dropped]
  · by_cases jumped : run.runLifecycle.jumpTargetSlot = some slotId <;> constructor <;>
      simp [removePlaylistSlot, command, syncStatusPosition, loadIsReady, tally, jumped, active, RunLifecycle.disarmJump]

theorem endRun_inactive (untold : ¬ run.Closed) (outcome : StopOutcome) : (run.endRun outcome).status.active = false := by
  unfold Closed at untold
  simp [endRun, RunLifecycle.close, untold, send]

theorem onEndFile_slotless (slotless : run.activeSlotId = none) (answers : Answers) :
    ∃ goesOn next, run.onEndFile answers .stop = some (goesOn, next) ∧ next.activeSlotId = none ∧
      (run.origin = .queue → run.quitAt = none → run.loadIsReady = true → next = run.stopForMissingCompleted none) := by
  have ended : ∀ (start : PlaybackRun) (outcome : StopOutcome), start.activeSlotId = none →
      (start.endRun outcome).activeSlotId = none := by
    intro start outcome slotless
    unfold endRun
    split <;> exact slotless
  unfold onEndFile
  by_cases quitting : run.quitAt.isSome = true
  · refine ⟨true, run, if_pos quitting, slotless, fun _ unstopped => ?_⟩
    rw [unstopped] at quitting
    cases quitting
  · rw [if_neg quitting]
    by_cases draining : (!run.loadIsReady) = true
    · refine ⟨true, run.onDrained, if_pos draining, slotless, fun _ _ loaded => ?_⟩
      rw [loaded] at draining
      cases draining
    · rw [if_neg draining]
      cases origin : run.origin with
      | queue =>
        refine ⟨false, run.stopForMissingCompleted none, ?_, ended _ _ slotless, fun _ _ _ => rfl⟩
        unfold onEndFileQueue
        rw [slotless]
        rfl
      | standalone =>
        refine ⟨false, run.onEndFileStandalone .stop, rfl, ended _ _ slotless, by simp⟩

end PlaybackRun

/-- Once the playing slot is removed, the end-file of its entry finds no slot that completed: the run
    goes on with no successor, and one that was playing tells a stop that names no slot. -/
theorem removed_playing_slot_never_hands_over {thread : RunThread} {slotId : QueueSlotId} {idx : Nat}
    (running : thread.exited = false) (playlist : thread.run.runLifecycle.isActiveFile = false)
    (active : thread.run.activeSlotId = some slotId)
    (found : thread.run.queue.slotIndex slotId = some idx) (removal ending : Answers) :
    let after := (RunThread.machine.run thread
      [.command removal (.queueRemove slotId), .event ending (.endFile .stop)]).run
    (∀ successor, ¬ HandsOver thread.run after successor) ∧
      (thread.run.origin = .queue → thread.run.quitAt = none → thread.run.loadIsReady = true →
        ¬ thread.run.Closed →
        after.status.active = false ∧ after.activeSlotId = none ∧
          stopsIn after.events = stopsIn thread.run.events ++
            [(thread.run.runIdentity, ⟨none, thread.run.lastValidPos, false, false, none⟩)]) := by
  obtain ⟨slotless, kept⟩ := PlaybackRun.removePlaylistSlot_playing active found
  have removed : thread.run.cmdQueueRemove removal slotId = thread.run.removePlaylistSlot slotId idx := by
    unfold PlaybackRun.cmdQueueRemove
    rw [found]
    simp [playlist]
  obtain ⟨goesOn, ended, handled, still, stops⟩ := PlaybackRun.onEndFile_slotless slotless ending
  have result : (RunThread.machine.run thread
      [.command removal (.queueRemove slotId), .event ending (.endFile .stop)]).run = ended := by
    simp [RunThread.machine, RunThread.step, running, PlaybackRun.handleCommand, removed,
      PlaybackRun.handleMpvEvent, handled]
  intro after
  have same : after = ended := result
  rw [same]
  refine ⟨fun successor handed => ?_, fun queue unstopped loaded untold => ?_⟩
  · have slot := handed.slot
    rw [still] at slot
    cases slot
  · have missing := stops (kept.origin.trans queue) (kept.quitAt.trans unstopped)
      (kept.loaded.trans loaded)
    have closed : ¬ ((thread.run.removePlaylistSlot slotId idx).markReported .sent).Closed :=
      mt (PlaybackRun.closed_of_tally kept.tally).mp untold
    obtain ⟨told, -, -⟩ := PlaybackRun.endRun_open _ closed
      ⟨none, (thread.run.removePlaylistSlot slotId idx).lastValidPos, false, false, none⟩
    refine ⟨?_, still, ?_⟩
    · rw [missing, PlaybackRun.stopForMissingCompleted]
      exact PlaybackRun.endRun_inactive closed _
    · have before : stopsIn (thread.run.removePlaylistSlot slotId idx).events =
          stopsIn thread.run.events := congrArg Tally.stops kept.tally
      have identity : (thread.run.removePlaylistSlot slotId idx).runIdentity =
          thread.run.runIdentity := congrArg Tally.identity kept.tally
      rw [missing, PlaybackRun.stopForMissingCompleted, told, ← before, ← identity, ← kept.position]
      exact List.filterMap_append

theorem removed_film_never_hands_over :
    ∃ run, PlaybackRun.newFromSlotItems twoFilms firstFilm = some run ∧
      let after := (RunThread.machine.run { run := run }
        [.command {} (.queueRemove ⟨1⟩), .event { playlistPos := 0 } (.endFile .stop)]).run
      ∀ successor, ¬ HandsOver run after successor :=
  ⟨(PlaybackRun.newFromSlotItems twoFilms firstFilm).get rfl, Option.eq_some_of_isSome rfl,
    (@removed_playing_slot_never_hands_over
      { run := (PlaybackRun.newFromSlotItems twoFilms firstFilm).get rfl } ⟨1⟩ 0 rfl
      (by decide) (by decide) (by decide) {} { playlistPos := 0 }).1⟩

/-- The second film stands where mpv goes on, but the run ends and tells a stop. -/
theorem removed_film_stops_the_run :
    ∃ run, PlaybackRun.newFromSlotItems twoFilms firstFilm = some run ∧
      let after := (RunThread.machine.run { run := run }
        [.command {} (.queueRemove ⟨1⟩), .event { playlistPos := 0 } (.endFile .stop)]).run
      after.slotIdAt 0 = some ⟨2⟩ ∧ after.status.active = false ∧ after.activeSlotId = none ∧
        stopsIn after.events = [(0, ⟨none, 0, false, false, none⟩)] :=
  ⟨(PlaybackRun.newFromSlotItems twoFilms firstFilm).get rfl, Option.eq_some_of_isSome rfl,
    by decide⟩

end Mbv.Player
