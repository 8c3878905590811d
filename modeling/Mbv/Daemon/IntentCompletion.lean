import Mbv.Daemon.IntentSettlement

namespace Mbv.Daemon

open Mbv.Queue Mbv.Player

/-- What can still be outstanding while the event loop waits. -/
inductive LoopEvent where
  | lookup (lookup : IntentLookup)
  | runStart
  | command
  | report
  | timer

namespace IntentLoop

def Outstanding (loop : IntentLoop) : LoopEvent → Prop
  | .lookup lookup => lookup ∈ loop.lookups
  | .runStart => ∃ run ∈ loop.run, run.startPending = true
  | .command => ∃ run ∈ loop.run, run.commands ≠ []
  | .report => loop.reports ≠ []
  | .timer =>
    loop.transitions.inFlight ≠ none ∨
      ∃ current ∈ loop.intents.current, current.phase = .outputBuffering

/-- The inputs that deliver an event: a lookup with any result, a command as the run executes it, a
    report as the loop receives it, a timer at any instant its armed deadlines are due. -/
def Delivers (loop : IntentLoop) : LoopEvent → LoopInput → Prop
  | .lookup lookup, .resolved delivered _ _ _ => delivered = lookup
  | .runStart, .run .started => True
  | .command, .run .executed => True
  | .report, .delivered _ _ => True
  | .timer, .recvTimeout now _ =>
    (∀ deadline ∈ loop.transitions.inFlightDeadline, deadline ≤ now) ∧
      ∀ current ∈ loop.intents.current, ∀ deadline ∈ current.bufferingDeadline, deadline ≤ now
  | _, _ => False

def Ended (loop : IntentLoop) : Prop :=
  ∀ current, loop.intents.current = some current → current.phase = .applied

/-- Nothing is unresolved, or an outstanding event ends it or leads on to the one that does. -/
def WillSettle : IntentLoop → Prop := machine.Pending Outstanding Delivers Ended

variable {loop next : IntentLoop}

theorem Ended.resolves (ended : loop.Ended) (resolves : Resolves loop.intents next.intents) :
    next.Ended := by
  intro current latched
  rcases resolves with same | gone | ⟨-, final, -, found, applied, -⟩
  · exact ended current (same ▸ latched)
  · rw [gone] at latched
    cases latched
  · cases found.symm.trans latched
    exact applied

theorem Resolves.same_or_ended (resolves : Resolves loop.intents next.intents) : next.intents = loop.intents ∨ next.Ended := by
  rcases resolves with same | gone | ⟨-, final, -, found, applied, -⟩
  · exact Or.inl same
  · refine Or.inr fun current latched => ?_
    rw [gone] at latched
    cases latched
  · refine Or.inr fun current latched => ?_
    cases found.symm.trans latched
    exact applied

theorem willSettle_playoutDeadline {current : CurrentPlaybackIntent}
    (latched : loop.intents.current = some current) (buffering : current.phase = .outputBuffering)
    (armed : current.bufferingDeadline.isSome = true) : loop.WillSettle := by
  refine .delivered .timer (Or.inr ⟨current, latched, buffering⟩) ?_
  intro input delivers
  obtain ⟨deadline, at_⟩ := Option.isSome_iff_exists.mp armed
  cases input with
  | recvTimeout now connected =>
    have due := delivers.2 current latched deadline at_
    have ended : (loop.settleBuffering now connected).Ended := settleBuffering_due latched buffering at_ due connected
    exact .reached (ended.resolves (handles_expireAndRedispatch now).resolves)
  | _ => exact delivers.elim

theorem ended_at_expiry {current : CurrentPlaybackIntent} {inFlight : Transition} (latched : loop.intents.current = some current)
    (flying : loop.transitions.inFlight = some inFlight)
    (driven : inFlight.requestId = current.requestId) {deadline now : Instant}
    (armed : loop.transitions.inFlightDeadline = some deadline) (due : deadline ≤ now) :
    (loop.expireAndRedispatch now).Ended := by
  intro other found
  simp only [expireAndRedispatch, OwnerTransitionState.expire, flying, armed, due, if_true] at found
  rw [@expired_current { loop with transitions := loop.transitions.promote } _ _ _ latched driven] at found
  cases found

theorem willSettle_armed {current : CurrentPlaybackIntent} {inFlight : Transition}
    (latched : loop.intents.current = some current)
    (flying : loop.transitions.inFlight = some inFlight)
    (driven : inFlight.requestId = current.requestId) {deadline : Instant}
    (armed : loop.transitions.inFlightDeadline = some deadline) : loop.WillSettle := by
  refine .delivered .timer (Or.inl (by simp [flying])) ?_
  intro input delivers
  cases input with
  | recvTimeout now connected =>
    have due := delivers.1 deadline armed
    have buffering := @handles_settleBuffering loop now connected
    rcases Resolves.same_or_ended buffering.resolves with same | ended
    · have transitions : (loop.settleBuffering now connected).transitions = loop.transitions := by
        unfold settleBuffering
        split <;> rfl
      refine .reached (@ended_at_expiry (loop.settleBuffering now connected) _ _
        (same ▸ latched) (transitions ▸ flying) driven _ _ (transitions ▸ armed) due)
    · exact .reached (ended.resolves (handles_expireAndRedispatch now).resolves)
  | _ => exact delivers.elim

theorem willSettle_transition {current : CurrentPlaybackIntent}
    (latched : loop.intents.current = some current) (settles : loop.Settles current .transition) :
    loop.WillSettle := by
  obtain ⟨-, inFlight, flying, driven⟩ := settles
  cases armed : loop.transitions.inFlightDeadline with
  | some deadline => exact willSettle_armed latched flying driven armed
  | none =>
    -- the first timeout arms the deadline, the next due one expires it
    refine .delivered .timer (Or.inl (by rw [flying]; simp)) ?_
    intro input delivers
    cases input with
    | recvTimeout now connected =>
      have buffering := @handles_settleBuffering loop now connected
      rcases Resolves.same_or_ended buffering.resolves with same | ended
      · have transitions : (loop.settleBuffering now connected).transitions =
            loop.transitions := by
          unfold settleBuffering
          split <;> rfl
        have flying' : loop.transitions.inFlight = some inFlight := flying
        have arms : (loop.settleBuffering now connected).expireAndRedispatch now =
            { loop.settleBuffering now connected with transitions :=
              { loop.transitions with
                inFlightDeadline := some (now + inFlightTransitionTimeout) } } := by
          simp [expireAndRedispatch, OwnerTransitionState.expire, transitions, flying', armed]
        refine (show machine.step loop (.recvTimeout now connected) = _ from arms) ▸ ?_
        exact willSettle_armed (same ▸ latched) flying' driven rfl
      · exact .reached (ended.resolves (handles_expireAndRedispatch now).resolves)
    | _ => exact delivers.elim

theorem handlePlayerReport_frame (delay : Option Nat) (now : Instant) {report : PlayerReport} (other : report ≠ .outputStarted) :
    Beside loop (loop.handlePlayerReport delay now report) ∧
      Resolves loop.intents (loop.handlePlayerReport delay now report).intents := by
  cases report with
  | trackChanged slotId transition => exact handleTrackChanged_frame slotId transition
  | outputStarted => exact absurd rfl other
  | pausedChanged paused =>
    have spec := @applyCurrent_spec loop (·.action = .setPaused paused)
    exact ⟨spec.1, spec.2.2⟩
  | stopped owned =>
    cases owned with
    | false => exact ⟨.refl, .refl⟩
    | true =>
      have spec := @applyCurrent_spec loop (·.action = .stop)
      exact ⟨spec.1, spec.2.2⟩

theorem willSettle_report {current : CurrentPlaybackIntent} {awaited : PlayerReport}
    (latched : loop.intents.current = some current) (queued : awaited ∈ loop.reports)
    (starts : ∀ loop : IntentLoop, loop.intents.current = some current →
      ∀ delay now, (loop.handlePlayerReport delay now .outputStarted).WillSettle ∨
        (loop.handlePlayerReport delay now .outputStarted).intents = loop.intents)
    (settles : ∀ loop : IntentLoop, loop.intents.current = some current →
      ∀ delay now, (loop.handlePlayerReport delay now awaited).WillSettle) : loop.WillSettle := by
  generalize size : loop.reports = reports at queued
  induction reports generalizing loop with
  | nil => cases queued
  | cons report rest ih =>
    refine .delivered .report (by rw [Outstanding, size]; simp) ?_
    intro input delivers
    cases input with
    | delivered delay now =>
      have handled : machine.step loop (.delivered delay now) =
          { loop with reports := rest }.handlePlayerReport delay now report := by
        simp [machine, step, size]
      rw [handled]
      by_cases arrived : report = awaited
      · exact arrived ▸ settles { loop with reports := rest } latched delay now
      have later : awaited ∈ rest := by
        rcases List.mem_cons.mp queued with head | tail
        · exact absurd head.symm arrived
        · exact tail
      by_cases start : report = .outputStarted
      · subst start
        rcases starts { loop with reports := rest } latched delay now with settles' | same
        · exact settles'
        · exact ih ((congrArg _ same).trans latched) rfl later
      · obtain ⟨beside, resolves⟩ := @handlePlayerReport_frame { loop with reports := rest } delay now _ start
        rcases Resolves.same_or_ended resolves with same | ended
        · exact ih ((congrArg _ same).trans latched) beside.reports later
        · exact .reached ended
    | _ => exact delivers.elim

theorem outputStarted_settles {current : CurrentPlaybackIntent}
    (latched : loop.intents.current = some current) (play : current.action.isPlay = true)
    (pipe : current.pipeOutput = true) (delay : Option Nat) (now : Instant) :
    (loop.handlePlayerReport delay now .outputStarted).WillSettle := by
  cases delay with
  | none =>
    refine .reached fun ended found => ?_
    simp only [handlePlayerReport, PlaybackIntentState.outputStartedIfCurrent, latched,
      if_pos (And.intro pipe play), Option.some.injEq] at found
    rw [← found]
  | some delay =>
    have buffering : (loop.handlePlayerReport (some delay) now .outputStarted).intents.current = some { current with
          phase := .outputBuffering
          bufferingDeadline := some (now + delay * 1000000) } := by
      simp only [handlePlayerReport, PlaybackIntentState.outputStartedIfCurrent, latched, if_pos (And.intro pipe play)]
    exact willSettle_playoutDeadline buffering rfl rfl

theorem willSettle_startReport {current : CurrentPlaybackIntent} (latched : loop.intents.current = some current)
    (settles : loop.Settles current .startReport) : loop.WillSettle := by
  obtain ⟨play, pipe, queued⟩ := settles
  refine willSettle_report latched queued ?_ ?_
  · exact fun loop latched delay now =>
      Or.inl (outputStarted_settles latched play pipe delay now)
  · exact fun loop latched delay now => outputStarted_settles latched play pipe delay now

theorem willSettle_runStart {current : CurrentPlaybackIntent}
    (latched : loop.intents.current = some current) (settles : loop.Settles current .runStart) :
    loop.WillSettle := by
  obtain ⟨play, pipe, run, live, pending⟩ := settles
  refine .delivered .runStart ⟨run, live, pending⟩ ?_
  intro input delivers
  cases input with
  | run move =>
    cases move with
    | started =>
      have started : machine.step loop (.run .started) = { loop with
          run := some { run with startPending := false, eventsToSkip := 0 }
          reports := loop.reports ++ [.outputStarted] } := by
        have live' : loop.run = some run := live
        simp [machine, step, runMove, live']
      rw [started]
      exact willSettle_startReport latched ⟨play, pipe, by simp⟩
    | _ => exact delivers.elim
  | _ => exact delivers.elim

theorem willSettle_pauseReport {current : CurrentPlaybackIntent} (latched : loop.intents.current = some current)
    (settles : loop.Settles current .pauseReport) : loop.WillSettle := by
  obtain ⟨desired, wanted, queued⟩ := settles
  have asked : current.action = .setPaused desired := by
    cases action : current.action <;> simp [PlaybackIntentAction.pauseTarget, action] at wanted
    rw [wanted]
  refine willSettle_report latched queued ?_ ?_
  · intro loop latched delay now
    refine Or.inr ?_
    have other : ¬ (current.pipeOutput = true ∧ current.action.isPlay = true) := by
      simp [asked, PlaybackIntentAction.isPlay]
    simp only [handlePlayerReport, PlaybackIntentState.outputStartedIfCurrent, latched, if_neg other]
  · intro loop latched delay now
    refine .reached fun ended found => ?_
    have applied := @applyCurrent_asked _ _ (·.action = .setPaused desired) latched (by simp [asked])
    cases applied.symm.trans found
    rfl

theorem willSettle_pauseCommand {current : CurrentPlaybackIntent} (latched : loop.intents.current = some current)
    (settles : loop.Settles current .pauseCommand) : loop.WillSettle := by
  obtain ⟨desired, wanted, run, live, reports⟩ := settles
  generalize queued : run.commands = commands
  induction commands generalizing loop run with
  | nil =>
    have none := reports.2
    rw [queued] at none
    cases none
  | cons command rest ih =>
    refine .delivered .command ⟨run, live, by simp [queued]⟩ ?_
    intro input delivers
    have live' : loop.run = some run := live
    cases input with
    | run move =>
      cases move with
      | executed =>
        have next (paused : Bool) (covers : ∀ desired ∈ pauseReports run.paused run.commands,
              desired = paused ∧ run.paused ≠ paused ∨ desired ∈ pauseReports paused rest) :
            (loop.pauseTo { run with commands := rest } paused).WillSettle := by
          have frame := @pauseTo_frame loop { run with commands := rest } paused
          have latched' := frame.1 ▸ latched
          rcases @pauseTo_reports loop run { run with commands := rest } paused desired rfl rfl
            covers reports with out | ⟨moved, found, left, later⟩
          · exact willSettle_pauseReport latched' ⟨desired, wanted, out⟩
          · exact ih latched' moved found later left
        cases command with
        | togglePause =>
          have executed : machine.step loop (.run .executed) = loop.pauseTo { run with commands := rest } (!run.paused) := by
            simp [machine, step, runMove, live', queued]
          rw [executed]
          refine next _ fun wanted reported => ?_
          rw [queued] at reported
          rcases List.mem_cons.mp reported with head | later
          · exact Or.inl ⟨head, by simp⟩
          · exact Or.inr later
        | submitQueue =>
          have executed : machine.step loop (.run .executed) = loop.pauseTo { run with commands := rest } false := by
            simp [machine, step, runMove, live', queued]
          rw [executed]
          refine next _ fun wanted reported => ?_
          rw [queued] at reported
          cases flag : run.paused with
          | false =>
            rw [flag] at reported
            exact Or.inr reported
          | true =>
            rw [flag] at reported
            rcases List.mem_cons.mp reported with head | later
            · exact Or.inl ⟨head, by simp⟩
            · exact Or.inr later
      | _ => exact delivers.elim
    | _ => exact delivers.elim

theorem willSettle_lookup {current : CurrentPlaybackIntent}
    (mirrored : loop.Mirrored) (latched : loop.intents.current = some current)
    (settles : loop.Settles current .lookup) : loop.WillSettle := by
  obtain ⟨play, out, fits⟩ := settles
  obtain ⟨lookup, member, same⟩ := List.mem_map.mp out
  refine .delivered (.lookup lookup) member ?_
  intro input delivers
  cases input with
  | resolved delivered hasClient fetched submission =>
    obtain rfl : delivered = lookup := delivers
    have handled : machine.step loop (.resolved delivered hasClient fetched submission) =
        loop.handlePlaybackResolved delivered hasClient fetched submission := by
      simp [machine, step, member]
    rw [handled]
    obtain ⟨-, -, -, gone | ⟨opening, kind, which, settles⟩⟩ := handlePlaybackResolved_own mirrored
      latched same.symm play fits hasClient fetched submission
    · refine .reached fun other found => ?_
      rw [gone] at found
      cases found
    · rcases which with rfl | rfl
      · exact willSettle_transition opening settles
      · exact willSettle_runStart opening settles
  | _ => exact delivers.elim

theorem Awaited.willSettle (awaited : loop.Awaited) : loop.WillSettle := by
  by_cases ended : loop.Ended
  · exact .reached ended
  obtain ⟨current, latched, unresolved⟩ : ∃ current, loop.intents.current = some current ∧ current.phase ≠ .applied := by
    simpa [Ended] using ended
  obtain ⟨kind, settles⟩ := awaited.settles current latched unresolved
  cases kind with
  | lookup => exact willSettle_lookup awaited.mirrored latched settles
  | transition => exact willSettle_transition latched settles
  | runStart => exact willSettle_runStart latched settles
  | startReport => exact willSettle_startReport latched settles
  | playoutDeadline => exact willSettle_playoutDeadline latched settles.1 settles.2
  | pauseCommand => exact willSettle_pauseCommand latched settles
  | pauseReport => exact willSettle_pauseReport latched settles

end IntentLoop

end Mbv.Daemon
