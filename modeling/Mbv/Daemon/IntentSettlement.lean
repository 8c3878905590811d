import Mbv.Daemon.IntentLoop

namespace Mbv.Daemon

open Mbv.Queue Mbv.Player List

/-- The pause values a run will report once it has executed its commands, in order. -/
def pauseReports : Bool → List RunCommand → List Bool
  | _, [] => []
  | paused, .togglePause :: commands => (!paused) :: pauseReports (!paused) commands
  | true, .submitQueue :: commands => false :: pauseReports false commands
  | false, .submitQueue :: commands => pauseReports false commands

def pauseAfter : Bool → List RunCommand → Bool
  | paused, [] => paused
  | paused, .togglePause :: commands => pauseAfter (!paused) commands
  | _, .submitQueue :: commands => pauseAfter false commands

theorem pauseReports_append (paused : Bool) (first second : List RunCommand) : pauseReports paused (first ++ second) =
      pauseReports paused first ++ pauseReports (pauseAfter paused first) second := by
  induction first generalizing paused with
  | nil => rfl
  | cons command commands ih =>
    cases command with
    | togglePause => simp [pauseReports, pauseAfter, ih]
    | submitQueue => cases paused <;> simp [pauseReports, pauseAfter, ih]

theorem mem_pauseReports_of_ne {paused : Bool} {commands : List RunCommand} (moved : pauseAfter paused commands ≠ paused) :
    pauseAfter paused commands ∈ pauseReports paused commands := by
  induction commands generalizing paused with
  | nil => exact absurd rfl moved
  | cons command commands ih =>
    cases command with
    | togglePause =>
      simp only [pauseAfter, pauseReports] at moved ⊢
      by_cases stays : pauseAfter (!paused) commands = !paused
      · rw [stays]
        exact mem_cons_self
      · exact mem_cons_of_mem _ (ih stays)
    | submitQueue =>
      cases paused with
      | false => exact ih moved
      | true =>
        simp only [pauseAfter, pauseReports] at moved ⊢
        by_cases stays : pauseAfter false commands = false
        · rw [stays]
          exact mem_cons_self
        · exact mem_cons_of_mem _ (ih stays)

theorem mem_pauseReports_of_submit {paused : Bool} {commands : List RunCommand}
    (submits : RunCommand.submitQueue ∈ commands) (ends : pauseAfter paused commands = true) :
    true ∈ pauseReports paused commands := by
  induction commands generalizing paused with
  | nil => cases submits
  | cons command commands ih =>
    cases command with
    | togglePause =>
      have later : RunCommand.submitQueue ∈ commands := by simpa using submits
      exact mem_cons_of_mem _ (ih later ends)
    | submitQueue =>
      have moved : pauseAfter false commands ≠ false := by
        rw [show pauseAfter false commands = true from ends]
        decide
      have reported := mem_pauseReports_of_ne moved
      rw [show pauseAfter false commands = true from ends] at reported
      cases paused with
      | false => exact reported
      | true => exact mem_cons_of_mem _ reported

theorem mem_pauseReports_flip {desired : Bool} {commands : List RunCommand}
    (reported : desired ∈ pauseReports desired commands) :
    desired ∈ pauseReports (!desired) commands := by
  induction commands with
  | nil => cases reported
  | cons command commands ih =>
    cases command with
    | togglePause => simp [pauseReports]
    | submitQueue =>
      cases desired with
      | false => simp [pauseReports]
      | true =>
        have later : true ∈ pauseReports false commands := by simpa [pauseReports] using reported
        simpa [pauseReports] using later

namespace PlaybackIntentAction

def pauseTarget : PlaybackIntentAction → Option Bool
  | setPaused paused => some paused
  | _ => none

end PlaybackIntentAction

inductive Settler where
  | lookup
  | transition
  | runStart
  | startReport
  | playoutDeadline
  | pauseCommand
  | pauseReport
deriving DecidableEq

def Settler.all : List Settler :=
  [.lookup, .transition, .runStart, .startReport, .playoutDeadline, .pauseCommand, .pauseReport]

namespace IntentLoop

def WillReportPause (run : LocalRun) (paused : Bool) : Prop :=
  run.eventsToSkip = 0 ∧ paused ∈ pauseReports run.paused run.commands

instance (run : LocalRun) (paused : Bool) : Decidable (WillReportPause run paused) :=
  inferInstanceAs (Decidable (_ ∧ _))

/-- The latched intent is settled by an event of this kind that is still outstanding. -/
def Settles (loop : IntentLoop) (current : CurrentPlaybackIntent) : Settler → Prop
  | .lookup =>
    current.action.isPlay = true ∧ current.identity ∈ loop.lookups.map (·.identity) ∧
      (loop.output = .localPlayer → current.pipeOutput = true)
  | .transition =>
    current.action.isPlay = true ∧
      ∃ inFlight ∈ loop.transitions.inFlight, inFlight.requestId = current.requestId
  | .runStart =>
    current.action.isPlay = true ∧ current.pipeOutput = true ∧
      ∃ run ∈ loop.run, run.startPending = true
  | .startReport =>
    current.action.isPlay = true ∧ current.pipeOutput = true ∧ .outputStarted ∈ loop.reports
  | .playoutDeadline =>
    current.phase = .outputBuffering ∧ current.bufferingDeadline.isSome = true
  | .pauseCommand =>
    ∃ desired ∈ current.action.pauseTarget, ∃ run ∈ loop.run, WillReportPause run desired
  | .pauseReport =>
    ∃ desired ∈ current.action.pauseTarget, .pausedChanged desired ∈ loop.reports

instance (loop : IntentLoop) (current : CurrentPlaybackIntent) (kind : Settler) :
    Decidable (loop.Settles current kind) := by
  cases kind <;> unfold Settles <;> infer_instance

/-- An unresolved intent is settled by something other than the kinds a step does away with. -/
def Spared (loop : IntentLoop) (lost : List Settler) : Prop :=
  ∀ current ∈ loop.intents.current, current.phase ≠ .applied →
    ∃ kind ∈ Settler.all, kind ∉ lost ∧ loop.Settles current kind

instance (loop : IntentLoop) (lost : List Settler) : Decidable (loop.Spared lost) :=
  inferInstanceAs (Decidable (∀ current ∈ loop.intents.current, _ → _))

def Coalesces (loop : IntentLoop) (connectionId : CtrlClientId) (intent : PlaybackIntent) : Prop :=
  ∃ current ∈ loop.intents.current, current.phase ≠ .applied ∧
    current.connectionId = connectionId ∧ current.action = intent.action

instance (loop : IntentLoop) (connectionId : CtrlClientId) (intent : PlaybackIntent) :
    Decidable (loop.Coalesces connectionId intent) :=
  inferInstanceAs (Decidable (∃ current ∈ loop.intents.current, _))

/-- What an intent needs to find so that something will settle it: a Play needs Emby, and on the
    local player the pipe output; a SetPaused on the local player needs a live run in another pause
    state, or that pause state already on its way. -/
def CanSettle (loop : IntentLoop) (pipeOutput : Bool) : PlaybackIntentAction → Prop
  | .play .. => loop.hasEmby = true ∧ (loop.output = .localPlayer → pipeOutput = true)
  | .setPaused paused =>
    loop.output ≠ .localPlayer ∨ .pausedChanged paused ∈ loop.reports ∨
      ∃ run ∈ loop.run, run.eventsToSkip = 0 ∧
        (loop.statusPaused ≠ paused ∨ paused ∈ pauseReports run.paused run.commands)
  | _ => True

instance (loop : IntentLoop) (pipeOutput : Bool) (action : PlaybackIntentAction) :
    Decidable (loop.CanSettle pipeOutput action) := by
  cases action <;> unfold CanSettle <;> infer_instance

/-- No step takes away the only thing that would settle an unresolved intent. -/
def Permits (loop : IntentLoop) : LoopInput → Prop
  | .intent connectionId intent pipeOutput =>
    loop.Coalesces connectionId intent ∨ intent.action.isRelative = true ∨
      -- a connection numbers its intents, so none repeats one whose lookup is still out
      (IntentIdentity.mk connectionId intent.requestId intent.generation ∉
          loop.lookups.map (·.identity) ∧
        loop.CanSettle pipeOutput intent.action)
  | .delivered _ _ =>
    match loop.reports.head? with
    | some (.trackChanged slotId (some (requestId, _))) =>
      loop.Spared [.transition] ∨
        (∀ inFlight ∈ loop.transitions.inFlight,
          ¬ (inFlight.requestId = requestId ∧ inFlight.target = slotId)) ∨
        ∀ current ∈ loop.intents.current, ∀ slot ∈ loop.queue.slot slotId,
          current.action.plays slot.item.id = true
    | _ => True
  | .resetJumps => loop.Spared [.transition]
  | .outputSelected output =>
    loop.Spared [.transition] ∧
      (output = .localPlayer → ∀ current ∈ loop.intents.current,
        current.identity ∈ loop.lookups.map (·.identity) → current.pipeOutput = true)
  | .submitted submission => submission.reuses = true ∨ loop.Spared [.pauseCommand]
  | .run (.ended _) => loop.Spared [.runStart, .pauseCommand]
  | _ => True

instance (loop : IntentLoop) (input : LoopInput) : Decidable (loop.Permits input) := by
  unfold Permits
  repeat' split
  all_goals infer_instance

def Mirrored (loop : IntentLoop) : Prop :=
  ∀ run, loop.run = some run →
    run.paused = loop.statusPaused ∨ loop.statusPaused = false ∧ .submitQueue ∈ run.commands

structure Awaited (loop : IntentLoop) : Prop where
  settles : ∀ current, loop.intents.current = some current → current.phase ≠ .applied →
    ∃ kind, loop.Settles current kind
  /-- A lookup still out for the latched intent was asked for by a Play that can start. -/
  looked : ∀ current, loop.intents.current = some current →
    current.identity ∈ loop.lookups.map (·.identity) →
      current.action.isPlay = true ∧ (loop.output = .localPlayer → current.pipeOutput = true)
  mirrored : loop.Mirrored

def Resolves (before after : PlaybackIntentState) : Prop :=
  after = before ∨ after.current = none ∨
    ∃ current next, before.current = some current ∧ after.current = some next ∧
      next.phase = .applied ∧ next.identity = current.identity ∧
        next.action = current.action ∧ next.pipeOutput = current.pipeOutput

structure Beside (loop next : IntentLoop) : Prop where
  lookups : next.lookups = loop.lookups
  output : next.output = loop.output
  run : next.run = loop.run
  statusPaused : next.statusPaused = loop.statusPaused
  reports : next.reports = loop.reports

variable {loop next last : IntentLoop}

theorem Resolves.refl {state : PlaybackIntentState} : Resolves state state := Or.inl rfl

theorem Resolves.trans {first second third : PlaybackIntentState} (early : Resolves first second)
    (late : Resolves second third) : Resolves first third := by
  rcases late with rfl | gone | ⟨current, next, latched, ended, applied, identity, action, pipe⟩
  · exact early
  · exact Or.inr (Or.inl gone)
  · rcases early with rfl | gone | ⟨older, middle, latched', ended', -, identity', action', pipe'⟩
    · exact Or.inr (Or.inr ⟨current, next, latched, ended, applied, identity, action, pipe⟩)
    · rw [gone] at latched
      cases latched
    · cases ended'.symm.trans latched
      exact Or.inr (Or.inr ⟨older, next, latched', ended, applied, identity.trans identity',
        action.trans action', pipe.trans pipe'⟩)

theorem resolves_applied (state : PlaybackIntentState) (connectionId : CtrlClientId)
    (requestId : PlaybackRequestId) (generation : PlaybackGeneration) :
    Resolves state (state.appliedIfCurrent connectionId requestId generation).2 := by
  unfold PlaybackIntentState.appliedIfCurrent
  split
  · exact .refl
  · rename_i current latched
    split
    · exact Or.inr (Or.inr ⟨current, _, latched, rfl, rfl, rfl, rfl, rfl⟩)
    · exact .refl

theorem resolves_rejected (state : PlaybackIntentState) (connectionId : CtrlClientId)
    (requestId : PlaybackRequestId) (generation : PlaybackGeneration)
    (reason : PlaybackIntentRejection) :
    Resolves state (state.rejectedIfCurrent connectionId requestId generation reason).2 := by
  unfold PlaybackIntentState.rejectedIfCurrent
  split
  · exact .refl
  · split
    · exact Or.inr (Or.inl rfl)
    · exact .refl

theorem resolves_invalidated (state : PlaybackIntentState) (connectionId : CtrlClientId) :
    Resolves state (state.invalidateConnection connectionId) := by
  unfold PlaybackIntentState.invalidateConnection
  split
  · exact Or.inr (Or.inl rfl)
  · exact .refl

theorem Beside.refl : Beside loop loop := ⟨rfl, rfl, rfl, rfl, rfl⟩

theorem beside_transitions (transitions : OwnerTransitionState) :
    Beside loop { loop with transitions := transitions } := ⟨rfl, rfl, rfl, rfl, rfl⟩

theorem Beside.trans (early : Beside loop next) (late : Beside next last) : Beside loop last :=
  ⟨late.lookups.trans early.lookups, late.output.trans early.output, late.run.trans early.run,
    late.statusPaused.trans early.statusPaused, late.reports.trans early.reports⟩

variable {current : CurrentPlaybackIntent} {kind : Settler}

theorem Beside.settles (beside : Beside loop next) (other : kind ≠ .transition) (settles : loop.Settles current kind) :
    next.Settles current kind := by
  cases kind with
  | transition => exact absurd rfl other
  | lookup => simpa only [Settles, beside.lookups, beside.output] using settles
  | runStart => simpa only [Settles, beside.run] using settles
  | startReport => simpa only [Settles, beside.reports] using settles
  | playoutDeadline => exact settles
  | pauseCommand => simpa only [Settles, beside.run] using settles
  | pauseReport => simpa only [Settles, beside.reports] using settles

theorem settles_of_more (off : kind ≠ .runStart ∧ kind ≠ .pauseCommand) (settles : loop.Settles current kind)
    (more : loop.reports ⊆ next.reports) (lookups : next.lookups = loop.lookups) (output : next.output = loop.output)
    (transitions : next.transitions = loop.transitions) : next.Settles current kind := by
  cases kind with
  | runStart => exact absurd rfl off.1
  | pauseCommand => exact absurd rfl off.2
  | lookup => simpa only [Settles, lookups, output] using settles
  | transition => simpa only [Settles, transitions] using settles
  | startReport => exact ⟨settles.1, settles.2.1, more settles.2.2⟩
  | pauseReport =>
    obtain ⟨desired, wanted, member⟩ := settles
    exact ⟨desired, wanted, more member⟩
  | playoutDeadline => exact settles

theorem Beside.mirrored (beside : Beside loop next) (mirrored : loop.Mirrored) :
    next.Mirrored := by
  intro run live
  rw [beside.statusPaused]
  exact mirrored run (beside.run ▸ live)

theorem applyCurrent_spec (asked : CurrentPlaybackIntent → Bool) : Beside loop (loop.applyCurrent asked) ∧
      (loop.applyCurrent asked).transitions = loop.transitions ∧
      Resolves loop.intents (loop.applyCurrent asked).intents := by
  unfold applyCurrent
  split
  · exact ⟨.refl, rfl, .refl⟩
  · exact ⟨⟨rfl, rfl, rfl, rfl, rfl⟩, rfl, resolves_applied _ _ _ _⟩

theorem applyCurrent_asked {asked : CurrentPlaybackIntent → Bool}
    (latched : loop.intents.current = some current) (named : asked current = true) :
    (loop.applyCurrent asked).intents.current = some { current with phase := .applied } := by
  simp [applyCurrent, latched, Option.filter, named, PlaybackIntentState.appliedIfCurrent_named latched]

theorem rejectCurrent_spec (asked : CurrentPlaybackIntent → Bool) (reason : PlaybackIntentRejection) :
    Beside loop (loop.rejectCurrent asked reason) ∧ (loop.rejectCurrent asked reason).transitions = loop.transitions ∧
      Resolves loop.intents (loop.rejectCurrent asked reason).intents := by
  unfold rejectCurrent
  split
  · exact ⟨.refl, rfl, .refl⟩
  · exact ⟨⟨rfl, rfl, rfl, rfl, rfl⟩, rfl, resolves_rejected _ _ _ _ _⟩

theorem rejectCurrent_asked {asked : CurrentPlaybackIntent → Bool}
    (latched : loop.intents.current = some current) (named : asked current = true)
    (reason : PlaybackIntentRejection) :
    (loop.rejectCurrent asked reason).intents.current = none := by
  simp [rejectCurrent, latched, Option.filter, named, PlaybackIntentState.rejectedIfCurrent_named latched]

theorem sendJumpOrColdStart_spec (dispatchNext : Option Transition) : Beside loop (loop.sendJumpOrColdStart dispatchNext) ∧
      (loop.sendJumpOrColdStart dispatchNext).intents = loop.intents := by
  unfold sendJumpOrColdStart
  split
  · exact ⟨⟨rfl, rfl, rfl, rfl, rfl⟩, rfl⟩
  · exact ⟨.refl, rfl⟩

theorem expired_spec (expiry : Option (Transition × Option Transition)) :
    Beside loop (loop.expired expiry) ∧ Resolves loop.intents (loop.expired expiry).intents := by
  cases expiry with
  | none => exact ⟨.refl, .refl⟩
  | some expiry =>
    obtain ⟨rejected, -, resolves⟩ := @rejectCurrent_spec loop (·.requestId = expiry.1.requestId) .unavailable
    obtain ⟨sent, same⟩ := @sendJumpOrColdStart_spec
      (loop.rejectCurrent (·.requestId = expiry.1.requestId) .unavailable) expiry.2
    refine ⟨rejected.trans sent, ?_⟩
    simp only [expired, same]
    exact resolves

theorem expired_current {expired : Transition} {dispatchNext : Option Transition} (latched : loop.intents.current = some current)
    (driven : expired.requestId = current.requestId) :
    (loop.expired (some (expired, dispatchNext))).intents.current = none := by
  simp only [IntentLoop.expired, (sendJumpOrColdStart_spec dispatchNext).2]
  exact rejectCurrent_asked latched (by simp [driven]) .unavailable

/-- What one piece of handling beside the run does: the latched intent is resolved or left alone,
    and if it is left alone, what drives it stays in flight. -/
structure Handles (loop next : IntentLoop) : Prop where
  beside : Beside loop next
  resolves : Resolves loop.intents next.intents
  driven : ∀ current, loop.intents.current = some current → current.phase ≠ .applied →
    next.intents = loop.intents → loop.Settles current .transition →
      ∃ kind, next.Settles current kind

theorem Handles.refl : Handles loop loop := ⟨.refl, .refl, fun _ _ _ _ settles => ⟨.transition, settles⟩⟩

theorem Handles.awaited (handles : Handles loop next) (awaited : loop.Awaited) :
    next.Awaited := by
  rcases handles.resolves with same | gone | ⟨current, ended, latched, final, applied, identity, action, pipe⟩
  · constructor
    case settles =>
      intro current latched unresolved
      rw [same] at latched
      obtain ⟨kind, settles⟩ := awaited.settles current latched unresolved
      by_cases driven : kind = .transition
      · subst driven
        exact handles.driven current latched unresolved same settles
      · exact ⟨kind, handles.beside.settles driven settles⟩
    case looked =>
      intro current latched out
      rw [same] at latched
      rw [handles.beside.lookups] at out
      rw [handles.beside.output]
      exact awaited.looked current latched out
    case mirrored => exact handles.beside.mirrored awaited.mirrored
  · constructor
    case settles => simp [gone]
    case looked => simp [gone]
    case mirrored => exact handles.beside.mirrored awaited.mirrored
  · constructor
    case settles =>
      intro other latched' unresolved
      cases final.symm.trans latched'
      exact absurd applied unresolved
    case looked =>
      intro other latched' out
      cases final.symm.trans latched'
      rw [handles.beside.lookups, identity] at out
      rw [handles.beside.output, action, pipe]
      exact awaited.looked current latched out
    case mirrored => exact handles.beside.mirrored awaited.mirrored

theorem handles_of_transitions_eq (beside : Beside loop next) (resolves : Resolves loop.intents next.intents)
    (inFlight : next.transitions.inFlight = loop.transitions.inFlight) : Handles loop next :=
  ⟨beside, resolves, fun _ _ _ _ settles =>
    ⟨.transition, by simpa only [Settles, inFlight] using settles⟩⟩

theorem handles_invalidated (connectionId : CtrlClientId) :
    Handles loop { loop with intents := loop.intents.invalidateConnection connectionId } :=
  handles_of_transitions_eq ⟨rfl, rfl, rfl, rfl, rfl⟩ (resolves_invalidated _ _) rfl

theorem Resolves.untouched {first second third : PlaybackIntentState}
    (early : Resolves first second) (late : Resolves second third)
    (latched : third.current = some current) (unresolved : current.phase ≠ .applied) :
    second = first := by
  rcases early with same | gone | ⟨-, ended, -, final, applied, -⟩
  · exact same
  · rcases late with rfl | gone' | ⟨older, -, latched', -⟩
    · rw [gone] at latched
      cases latched
    · rw [gone'] at latched
      cases latched
    · rw [gone] at latched'
      cases latched'
  · rcases late with rfl | gone' | ⟨older, newer, -, final', applied', -⟩
    · cases final.symm.trans latched
      exact absurd applied unresolved
    · rw [gone'] at latched
      cases latched
    · cases final'.symm.trans latched
      exact absurd applied' unresolved

theorem Handles.trans (early : Handles loop next) (late : Handles next last) : Handles loop last := by
  refine ⟨early.beside.trans late.beside, early.resolves.trans late.resolves, ?_⟩
  intro current latched unresolved same settles
  have mid : next.intents = loop.intents := early.resolves.untouched late.resolves (same ▸ latched) unresolved
  obtain ⟨kind, settles'⟩ := early.driven current latched unresolved mid settles
  by_cases driven : kind = .transition
  · subst driven
    exact late.driven current (mid ▸ latched) unresolved (same.trans mid.symm) settles'
  · exact ⟨kind, late.beside.settles driven settles'⟩

theorem handles_expired {inFlight : Transition} (flying : loop.transitions.inFlight = some inFlight) :
    Handles loop (({ loop with transitions := loop.transitions.promote } : IntentLoop).expired
      (some (inFlight, loop.transitions.queuedLatest))) := by
  have spec := @expired_spec { loop with transitions := loop.transitions.promote }
    (some (inFlight, loop.transitions.queuedLatest))
  refine ⟨(beside_transitions _).trans spec.1, spec.2, ?_⟩
  intro current latched _ same settles
  obtain ⟨-, other, found, driven⟩ := settles
  cases flying.symm.trans found
  have gone := @expired_current { loop with transitions := loop.transitions.promote } _ _
    loop.transitions.queuedLatest latched driven
  rw [same, latched] at gone
  cases gone

theorem handles_expireAndRedispatch (now : Instant) : Handles loop (loop.expireAndRedispatch now) := by
  unfold expireAndRedispatch OwnerTransitionState.expire
  cases flying : loop.transitions.inFlight with
  | none => exact handles_of_transitions_eq ⟨rfl, rfl, rfl, rfl, rfl⟩ .refl rfl
  | some inFlight =>
    cases armed : loop.transitions.inFlightDeadline with
    | none => exact handles_of_transitions_eq ⟨rfl, rfl, rfl, rfl, rfl⟩ .refl flying.symm
    | some deadline =>
      by_cases due : deadline ≤ now
      · simp only [due, if_true]
        exact handles_expired flying
      · simp only [due, if_false]
        exact handles_of_transitions_eq ⟨rfl, rfl, rfl, rfl, rfl⟩ .refl rfl

theorem handles_remoteExpired : Handles loop (loop.step .remoteExpired) := by
  simp only [step, OwnerTransitionState.expireNow]
  cases flying : loop.transitions.inFlight with
  | none => exact .refl
  | some inFlight =>
    exact handles_expired flying

def settleBuffering (loop : IntentLoop) (now : Instant) (connected : Bool) : IntentLoop :=
  match loop.intents.settleBufferingIfDue now with
  | (none, _) => loop
  | (some (connectionId, _), intents) =>
    { loop with
      intents := if connected then intents else intents.invalidateConnection connectionId }

theorem settleBuffering_due {now : Instant} (latched : loop.intents.current = some current)
    (buffering : current.phase = .outputBuffering) {deadline : Instant}
    (armed : current.bufferingDeadline = some deadline) (due : deadline ≤ now) (connected : Bool) :
    ∀ ended, (loop.settleBuffering now connected).intents.current = some ended → ended.phase = .applied := by
  have waiting : ¬ (current.phase ≠ .outputBuffering ∨ current.bufferingDeadline.all (now < ·) = true) := by
    simp [buffering, armed, due]
  intro ended found
  simp only [settleBuffering, PlaybackIntentState.settleBufferingIfDue, latched, waiting, if_false] at found
  cases connected with
  | true =>
    cases found
    rfl
  | false => simp [PlaybackIntentState.invalidateConnection] at found

theorem handles_settleBuffering (now : Instant) (connected : Bool) : Handles loop (loop.settleBuffering now connected) := by
  unfold settleBuffering PlaybackIntentState.settleBufferingIfDue
  cases latched : loop.intents.current with
  | none => exact .refl
  | some current =>
    by_cases waiting : current.phase ≠ .outputBuffering ∨ current.bufferingDeadline.all (now < ·) = true
    · simp only [waiting, if_true]
      exact .refl
    · simp only [waiting, if_false]
      refine handles_of_transitions_eq ⟨rfl, rfl, rfl, rfl, rfl⟩ ?_ rfl
      cases connected with
      | true => exact Or.inr (Or.inr ⟨current, _, latched, rfl, rfl, rfl, rfl, rfl⟩)
      | false => exact Or.inr (Or.inl (by simp [PlaybackIntentState.invalidateConnection]))

theorem handles_recvTimeout (now : Instant) (connected : Bool) : Handles loop (loop.onRecvTimeout now connected) :=
  (handles_settleBuffering now connected).trans (handles_expireAndRedispatch now)

theorem handles_dispatchSlotJump (transition : Transition) : Handles loop (loop.dispatchSlotJump transition) := by
  unfold dispatchSlotJump OwnerTransitionState.accept
  cases flying : loop.transitions.inFlight with
  | none =>
    simp only [Option.isNone_none, if_true]
    have spec := @sendJumpOrColdStart_spec { loop with transitions :=
        { loop.transitions with inFlight := some transition, inFlightDeadline := none } }
      (some transition)
    refine ⟨(beside_transitions _).trans spec.1, Or.inl spec.2, ?_⟩
    intro current _ _ _ settles
    obtain ⟨-, inFlight, found, -⟩ := settles
    rw [flying] at found
    cases found
  | some inFlight =>
    simp only [Option.isNone_some, Bool.false_eq_true, if_false]
    exact handles_of_transitions_eq ⟨rfl, rfl, rfl, rfl, rfl⟩ .refl flying.symm

theorem settle_frame (transitions : OwnerTransitionState) (dispatchNext : Option Transition)
    (asked : CurrentPlaybackIntent → Bool) :
    Beside loop (({ loop with transitions := transitions }.sendJumpOrColdStart dispatchNext).applyCurrent asked) ∧
      Resolves loop.intents (({ loop with transitions := transitions }.sendJumpOrColdStart
        dispatchNext).applyCurrent asked).intents := by
  have sent := @sendJumpOrColdStart_spec { loop with transitions := transitions } dispatchNext
  have applied := @applyCurrent_spec ({ loop with transitions := transitions }.sendJumpOrColdStart dispatchNext) asked
  have resolves := applied.2.2
  rw [sent.2] at resolves
  exact ⟨(beside_transitions transitions).trans (sent.1.trans applied.1), resolves⟩

theorem handles_settle {transitions : OwnerTransitionState} (dispatchNext : Option Transition)
    (asked : CurrentPlaybackIntent → Bool)
    (confirmed : ∀ current, loop.intents.current = some current → current.phase ≠ .applied →
      loop.Settles current .transition → asked current = true ∨ ∃ kind, kind ≠ .transition ∧ loop.Settles current kind) :
    Handles loop (({ loop with transitions := transitions }.sendJumpOrColdStart dispatchNext).applyCurrent asked) := by
  obtain ⟨beside, resolves⟩ := @settle_frame loop transitions dispatchNext asked
  refine ⟨beside, resolves, ?_⟩
  intro current latched unresolved same settles
  rcases confirmed current latched unresolved settles with named | ⟨kind, other, settles'⟩
  · have sent := (@sendJumpOrColdStart_spec { loop with transitions := transitions } dispatchNext).2
    have ended := @applyCurrent_asked _ _ asked (show
      ({ loop with transitions := transitions }.sendJumpOrColdStart dispatchNext).intents.current =
        some current by rw [sent]; exact latched) named
    rw [same, latched] at ended
    have phase := congrArg CurrentPlaybackIntent.phase (Option.some.inj ended)
    exact absurd phase unresolved
  · exact ⟨kind, beside.settles other settles'⟩

theorem handles_remoteLoaded (slotId : QueueSlotId) : Handles loop (loop.settleRemoteTransition slotId) := by
  unfold settleRemoteTransition
  cases flying : loop.transitions.inFlight.filter (·.target = slotId) with
  | none => exact .refl
  | some inFlight =>
    obtain ⟨found, target⟩ : loop.transitions.inFlight = some inFlight ∧
        inFlight.target = slotId := by simpa [Option.filter_eq_some_iff] using flying
    simp only [OwnerTransitionState.settle, found, target, and_self, if_true]
    refine handles_settle _ _ fun current _ _ settles => Or.inl ?_
    obtain ⟨play, other, found', driven⟩ := settles
    cases found.symm.trans found'
    simp [play, driven]

/-- The condition a tagged track change meets in `Permits`. -/
def TrackPermitted (loop : IntentLoop) (slotId : QueueSlotId) (requestId : PlaybackRequestId) :
    Prop :=
  loop.Spared [.transition] ∨
    (∀ inFlight ∈ loop.transitions.inFlight,
      ¬ (inFlight.requestId = requestId ∧ inFlight.target = slotId)) ∨
    ∀ current ∈ loop.intents.current, ∀ slot ∈ loop.queue.slot slotId,
      current.action.plays slot.item.id = true

theorem handleTrackChanged_frame (slotId : QueueSlotId) (transition : Option (PlaybackRequestId × PlaybackGeneration)) :
    Beside loop (loop.handleTrackChanged slotId transition) ∧
      Resolves loop.intents (loop.handleTrackChanged slotId transition).intents := by
  unfold handleTrackChanged
  cases loop.queue.slot slotId with
  | none => exact ⟨.refl, .refl⟩
  | some slot =>
    have untagged := @applyCurrent_spec loop (·.action.plays slot.item.id)
    cases transition with
    | none => exact ⟨untagged.1, untagged.2.2⟩
    | some tag =>
      cases settled : loop.transitions.settle tag.1 slotId with
      | mk outcome transitions =>
        cases outcome with
        | settled dispatchNext =>
          simp only [settled]
          exact settle_frame transitions dispatchNext _
        | ignored =>
          simp only [settled]
          exact ⟨untagged.1, untagged.2.2⟩

theorem handles_trackChanged (slotId : QueueSlotId) (transition : Option (PlaybackRequestId × PlaybackGeneration))
    (permitted : ∀ tag ∈ transition, loop.TrackPermitted slotId tag.1) :
    Handles loop (loop.handleTrackChanged slotId transition) := by
  unfold handleTrackChanged
  cases held : loop.queue.slot slotId with
  | none => exact .refl
  | some slot =>
    have untagged : Handles loop (loop.applyCurrent (·.action.plays slot.item.id)) :=
      have spec := @applyCurrent_spec loop (·.action.plays slot.item.id)
      handles_of_transitions_eq spec.1 spec.2.2 (by rw [spec.2.1])
    cases transition with
    | none => exact untagged
    | some tag =>
      obtain ⟨requestId, generation⟩ := tag
      cases flying : loop.transitions.inFlight with
      | none =>
        simp only [OwnerTransitionState.settle, flying]
        exact untagged
      | some inFlight =>
        by_cases confirms : inFlight.requestId = requestId ∧ inFlight.target = slotId
        · simp only [OwnerTransitionState.settle, flying, confirms, and_self, if_true]
          refine handles_settle _ _ fun current latched unresolved _ => ?_
          rcases permitted _ rfl with spared | other | named
          · obtain ⟨kind, -, kept, settles⟩ := spared current latched unresolved
            exact Or.inr ⟨kind, fun driven => kept (by simp [driven]), settles⟩
          · exact absurd confirms (other inFlight flying)
          · exact Or.inl (named current latched slot held)
        · simp only [OwnerTransitionState.settle, flying, confirms, if_false]
          exact untagged

/-- The report is not the one the latched intent is waiting for. -/
def Indifferent (loop : IntentLoop) (report : PlayerReport) : Prop :=
  ∀ current, loop.intents.current = some current → current.phase ≠ .applied →
    (report = .outputStarted → ¬ (current.action.isPlay = true ∧ current.pipeOutput = true)) ∧
      ∀ desired ∈ current.action.pauseTarget, report ≠ .pausedChanged desired

theorem popped_settles {report : PlayerReport} {rest : List PlayerReport}
    (queued : loop.reports = report :: rest) (indifferent : loop.Indifferent report)
    (latched : loop.intents.current = some current) (unresolved : current.phase ≠ .applied)
    (settles : loop.Settles current kind) :
    { loop with reports := rest }.Settles current kind := by
  obtain ⟨noStart, noPause⟩ := indifferent current latched unresolved
  cases kind with
  | startReport =>
    obtain ⟨play, pipe, member⟩ := settles
    rw [queued] at member
    rcases mem_cons.mp member with head | tail
    · exact absurd ⟨play, pipe⟩ (noStart head.symm)
    · exact ⟨play, pipe, tail⟩
  | pauseReport =>
    obtain ⟨desired, wanted, member⟩ := settles
    rw [queued] at member
    rcases mem_cons.mp member with head | tail
    · exact absurd head.symm (noPause desired wanted)
    · exact ⟨desired, wanted, tail⟩
  | lookup => exact settles
  | transition => exact settles
  | runStart => exact settles
  | playoutDeadline => exact settles
  | pauseCommand => exact settles

theorem popped_awaited (awaited : loop.Awaited) {report : PlayerReport} {rest : List PlayerReport}
    (queued : loop.reports = report :: rest) (indifferent : loop.Indifferent report) :
    { loop with reports := rest }.Awaited := by
  refine ⟨fun current latched unresolved => ?_, awaited.looked, awaited.mirrored⟩
  obtain ⟨kind, settles⟩ := awaited.settles current latched unresolved
  exact ⟨kind, popped_settles queued indifferent latched unresolved settles⟩

theorem Awaited.ended (awaited : loop.Awaited) (beside : Beside loop next) (resolves : Resolves loop.intents next.intents)
    (ended : ∀ current, next.intents.current = some current → current.phase = .applied) :
    next.Awaited := by
  refine ⟨fun current latched unresolved => absurd (ended current latched) unresolved, ?_, beside.mirrored awaited.mirrored⟩
  intro other latched out
  rw [beside.lookups] at out
  rw [beside.output]
  rcases resolves with same | gone | ⟨current, final, latched', found, -, identity, action, pipe⟩
  · exact awaited.looked other (same ▸ latched) out
  · rw [gone] at latched
    cases latched
  · cases found.symm.trans latched
    rw [identity] at out
    rw [action, pipe]
    exact awaited.looked current latched' out

theorem awaited_outputStarted (awaited : loop.Awaited) {rest : List PlayerReport}
    (queued : loop.reports = .outputStarted :: rest) (delay : Option Nat) (now : Instant) :
    ({ loop with reports := rest }.handlePlayerReport delay now .outputStarted).Awaited := by
  simp only [handlePlayerReport, PlaybackIntentState.outputStartedIfCurrent]
  cases latched : loop.intents.current with
  | none => exact ⟨by simp [latched], by simp [latched], awaited.mirrored⟩
  | some current =>
    by_cases starts : current.pipeOutput = true ∧ current.action.isPlay = true
    · simp only [if_pos starts]
      have looked := awaited.looked current latched
      cases delay with
      | none =>
        refine ⟨?_, ?_, awaited.mirrored⟩
        · rintro ended ⟨rfl⟩ unresolved
          exact absurd rfl unresolved
        · rintro ended ⟨rfl⟩ out
          exact looked out
      | some delay =>
        refine ⟨?_, ?_, awaited.mirrored⟩
        · rintro buffering ⟨rfl⟩ -
          exact ⟨.playoutDeadline, rfl, rfl⟩
        · rintro buffering ⟨rfl⟩ out
          exact looked out
    · simp only [starts, if_false]
      refine popped_awaited awaited queued ?_
      intro other latched' _
      cases latched.symm.trans latched'
      exact ⟨fun _ both => starts ⟨both.2, both.1⟩, fun _ _ => (by simp)⟩

theorem awaited_delivered (awaited : loop.Awaited) (delay : Option Nat) (now : Instant)
    (permitted : loop.Permits (.delivered delay now)) :
    (loop.step (.delivered delay now)).Awaited := by
  simp only [step]
  cases queued : loop.reports with
  | nil => exact awaited
  | cons report rest =>
    cases report with
    | trackChanged slotId transition =>
      have indifferent : loop.Indifferent (.trackChanged slotId transition) := fun _ _ _ => ⟨by simp, fun _ _ => (by simp)⟩
      refine (handles_trackChanged slotId transition ?_).awaited (popped_awaited awaited queued indifferent)
      rintro ⟨requestId, generation⟩ ⟨rfl⟩
      simp only [Permits, queued, List.head?_cons] at permitted
      rcases permitted with spared | rest
      · refine Or.inl fun current latched unresolved => ?_
        obtain ⟨kind, listed, kept, settles⟩ := spared current latched unresolved
        exact ⟨kind, listed, kept, popped_settles queued indifferent latched unresolved settles⟩
      · exact Or.inr rest
    | outputStarted => exact awaited_outputStarted awaited queued delay now
    | pausedChanged paused =>
      have spec := @applyCurrent_spec { loop with reports := rest } (·.action = .setPaused paused)
      by_cases asked : ∃ current, loop.intents.current = some current ∧ current.action = .setPaused paused
      · obtain ⟨current, latched, names⟩ := asked
        have ended := @applyCurrent_asked { loop with reports := rest }
          _ (·.action = .setPaused paused) latched (by simp [names])
        refine ⟨fun other latched' unresolved => ?_, ?_, spec.1.mirrored awaited.mirrored⟩
        · cases ended.symm.trans latched'
          exact absurd rfl unresolved
        · intro other latched' out
          cases ended.symm.trans latched'
          simp only [handlePlayerReport, spec.1.lookups] at out
          simp only [handlePlayerReport, spec.1.output]
          exact awaited.looked current latched out
      · refine (handles_of_transitions_eq spec.1 spec.2.2 (by rw [spec.2.1])).awaited
          (popped_awaited awaited queued fun current latched _ => ⟨by simp, ?_⟩)
        rintro desired wanted ⟨rfl⟩
        refine asked ⟨current, latched, ?_⟩
        cases action : current.action <;> simp [PlaybackIntentAction.pauseTarget, action] at wanted
        rw [wanted]
    | stopped owned =>
      have popped := popped_awaited awaited queued fun _ _ _ => ⟨by simp, fun _ _ => (by simp)⟩
      cases owned with
      | false => exact popped
      | true =>
        have spec := @applyCurrent_spec { loop with reports := rest } (·.action = .stop)
        exact (handles_of_transitions_eq spec.1 spec.2.2 (by rw [spec.2.1])).awaited popped

theorem Awaited.moved (awaited : loop.Awaited) (intents : next.intents = loop.intents)
    (lookups : next.lookups = loop.lookups) (output : next.output = loop.output)
    (mirrored : next.Mirrored)
    (keeps : ∀ current, loop.intents.current = some current → current.phase ≠ .applied →
      ∃ kind, next.Settles current kind) : next.Awaited := by
  refine ⟨fun current latched unresolved => ?_, fun current latched out => ?_, mirrored⟩
  · exact keeps current (intents ▸ latched) unresolved
  · rw [output]
    exact awaited.looked current (intents ▸ latched) (lookups ▸ out)

theorem pauseTo_frame (run : LocalRun) (paused : Bool) : (loop.pauseTo run paused).intents = loop.intents ∧
      (loop.pauseTo run paused).lookups = loop.lookups ∧
      (loop.pauseTo run paused).output = loop.output ∧
      (loop.pauseTo run paused).transitions = loop.transitions := by
  unfold pauseTo
  split <;> exact ⟨rfl, rfl, rfl, rfl⟩

theorem pauseTo_reports {run left : LocalRun} {paused desired : Bool}
    (flag : left.paused = run.paused) (skip : left.eventsToSkip = run.eventsToSkip)
    (covers : ∀ desired ∈ pauseReports run.paused run.commands,
      desired = paused ∧ run.paused ≠ paused ∨ desired ∈ pauseReports paused left.commands)
    (reports : WillReportPause run desired) :
    .pausedChanged desired ∈ (loop.pauseTo left paused).reports ∨
      ∃ moved, (loop.pauseTo left paused).run = some moved ∧ moved.commands = left.commands ∧ WillReportPause moved desired := by
  obtain ⟨heard, reported⟩ := reports
  by_cases still : left.paused = paused
  · rcases covers desired reported with ⟨-, moved⟩ | later
    · exact absurd (flag.symm.trans still) moved
    · exact Or.inr ⟨left, by simp [pauseTo, still], rfl, skip.trans heard, still.symm ▸ later⟩
  · simp only [pauseTo, still, if_false]
    rcases covers desired reported with ⟨rfl, -⟩ | later
    · exact Or.inl (by simp [skip.trans heard])
    · exact Or.inr ⟨_, rfl, rfl, by simp [skip.trans heard], later⟩

variable {paused : Bool}

theorem pauseTo_settles {run left : LocalRun} (live : loop.run = some run)
    (flag : left.paused = run.paused) (skip : left.eventsToSkip = run.eventsToSkip)
    (start : left.startPending = run.startPending)
    (covers : ∀ desired ∈ pauseReports run.paused run.commands,
      desired = paused ∧ run.paused ≠ paused ∨ desired ∈ pauseReports paused left.commands)
    (settles : loop.Settles current kind) :
    ∃ kind, (loop.pauseTo left paused).Settles current kind := by
  by_cases commanded : kind = .pauseCommand
  · subst commanded
    obtain ⟨desired, wanted, other, found, reports⟩ := settles
    cases live.symm.trans found
    rcases pauseTo_reports flag skip covers reports with out | ⟨moved, live', -, later⟩
    · exact ⟨.pauseReport, desired, wanted, out⟩
    · exact ⟨.pauseCommand, desired, wanted, moved, live', later⟩
  by_cases starts : kind = .runStart
  · subst starts
    obtain ⟨play, pipe, other, found, pending⟩ := settles
    cases live.symm.trans found
    refine ⟨.runStart, play, pipe, ?_⟩
    unfold pauseTo
    split <;> exact ⟨_, rfl, start.trans pending⟩
  · obtain ⟨-, lookups, output, transitions⟩ := @pauseTo_frame loop left paused
    refine ⟨kind, settles_of_more ⟨starts, commanded⟩ settles ?_ lookups output transitions⟩
    unfold pauseTo
    split
    · exact List.Subset.refl _
    · dsimp only
      split
      · exact subset_append_left _ _
      · exact List.Subset.refl _

theorem pauseTo_mirrored {left : LocalRun} (still : left.paused = paused →
      left.paused = loop.statusPaused ∨ loop.statusPaused = false ∧ .submitQueue ∈ left.commands) :
    (loop.pauseTo left paused).Mirrored := by
  intro run live
  by_cases same : left.paused = paused
  · simp only [pauseTo, same, if_true, Option.some.injEq] at live ⊢
    subst live
    exact still same
  · simp only [pauseTo, same, if_false, Option.some.injEq] at live ⊢
    subst live
    exact Or.inl rfl

theorem awaited_pauseTo (awaited : loop.Awaited) {run left : LocalRun}
    (live : loop.run = some run) (flag : left.paused = run.paused)
    (skip : left.eventsToSkip = run.eventsToSkip) (start : left.startPending = run.startPending)
    (covers : ∀ desired ∈ pauseReports run.paused run.commands,
      desired = paused ∧ run.paused ≠ paused ∨ desired ∈ pauseReports paused left.commands)
    (still : left.paused = paused → left.paused = loop.statusPaused ∨ loop.statusPaused = false ∧ .submitQueue ∈ left.commands) :
    (loop.pauseTo left paused).Awaited := by
  obtain ⟨intents, lookups, output, -⟩ := @pauseTo_frame loop left paused
  refine awaited.moved intents lookups output (pauseTo_mirrored still) ?_
  intro current latched unresolved
  obtain ⟨kind, settles⟩ := awaited.settles current latched unresolved
  exact pauseTo_settles live flag skip start covers settles

variable {run : LocalRun}

theorem awaited_executed (awaited : loop.Awaited) (live : loop.run = some run) : (loop.runMove .executed).Awaited := by
  have mirrored := awaited.mirrored run live
  simp only [runMove, live]
  cases queued : run.commands with
  | nil => exact awaited
  | cons command commands =>
    cases command with
    | togglePause =>
      refine awaited_pauseTo awaited live rfl rfl rfl ?_ ?_
      · intro desired reported
        rw [queued] at reported
        rcases mem_cons.mp reported with head | later
        · exact Or.inl ⟨head, by simp⟩
        · exact Or.inr later
      · intro same
        exact absurd same (by simp)
    | submitQueue =>
      refine awaited_pauseTo awaited live rfl rfl rfl ?_ ?_
      · intro desired reported
        rw [queued] at reported
        cases flag : run.paused with
        | false =>
          rw [flag] at reported
          exact Or.inr reported
        | true =>
          rw [flag] at reported
          rcases mem_cons.mp reported with head | later
          · exact Or.inl ⟨head, by simp⟩
          · exact Or.inr later
      · intro unpaused
        rcases mirrored with same | ⟨seeded, -⟩
        · exact Or.inl same
        · exact Or.inl ((show run.paused = false from unpaused).trans seeded.symm)

theorem awaited_pauseChanged (awaited : loop.Awaited) (live : loop.run = some run) (paused : Bool) :
    (loop.runMove (.pauseChanged paused)).Awaited := by
  simp only [runMove, live]
  refine awaited_pauseTo awaited live rfl rfl rfl ?_ fun _ => awaited.mirrored run live
  intro desired reported
  by_cases same : run.paused = paused
  · exact Or.inr (same ▸ reported)
  · by_cases wanted : desired = paused
    · exact Or.inl ⟨wanted, same⟩
    · have flipped : paused = !desired := Bool.eq_not.mpr (Ne.symm wanted)
      have before : run.paused = desired := (Bool.eq_not.mpr same).trans (Bool.eq_not.mpr wanted).symm
      rw [before] at reported
      exact Or.inr (flipped ▸ mem_pauseReports_flip reported)

theorem awaited_started (awaited : loop.Awaited) (live : loop.run = some run) (pending : Bool) : Awaited { loop with
      run := some { run with startPending := pending, eventsToSkip := 0 }
      reports := loop.reports ++ [.outputStarted] } := by
  refine awaited.moved rfl rfl rfl ?_ ?_
  · rintro other ⟨rfl⟩
    exact awaited.mirrored run live
  · intro current latched unresolved
    obtain ⟨kind, settles⟩ := awaited.settles current latched unresolved
    by_cases starts : kind = .runStart
    · obtain ⟨play, pipe, -⟩ := starts ▸ settles
      exact ⟨.startReport, play, pipe, by simp⟩
    by_cases commanded : kind = .pauseCommand
    · obtain ⟨desired, wanted, other, found, -, reported⟩ := commanded ▸ settles
      cases live.symm.trans found
      exact ⟨.pauseCommand, desired, wanted, _, rfl, rfl, reported⟩
    exact ⟨kind, settles_of_more ⟨starts, commanded⟩ settles (subset_append_left _ _) rfl rfl rfl⟩

theorem Spared.settles {lost : List Settler} (spared : loop.Spared lost)
    (latched : loop.intents.current = some current) (unresolved : current.phase ≠ .applied) :
    ∃ kind, kind ∉ lost ∧ loop.Settles current kind := by
  obtain ⟨kind, -, kept, settles⟩ := spared current latched unresolved
  exact ⟨kind, kept, settles⟩

theorem awaited_runMove (awaited : loop.Awaited) (move : RunMove)
    (permitted : loop.Permits (.run move)) : (loop.runMove move).Awaited := by
  cases live : loop.run with
  | none => simpa only [runMove, live] using awaited
  | some run =>
    cases move with
    | started =>
      simp only [runMove, live]
      exact awaited_started awaited live false
    | restarted =>
      simp only [runMove, live]
      exact awaited_started awaited live run.startPending
    | executed => exact awaited_executed awaited live
    | pauseChanged paused => exact awaited_pauseChanged awaited live paused
    | moved slotId transition =>
      simp only [runMove, live]
      refine awaited.moved rfl rfl rfl (fun _ found => awaited.mirrored _ (live.trans found))
        fun current latched unresolved => ?_
      obtain ⟨kind, settles⟩ := awaited.settles current latched unresolved
      refine ⟨kind, ?_⟩
      by_cases off : kind ≠ .runStart ∧ kind ≠ .pauseCommand
      · exact settles_of_more off settles (subset_append_left _ _) rfl rfl rfl
      · cases kind with
        | runStart | pauseCommand => simpa only [Settles, live] using settles
        | _ => simp at off
    | ended stopped =>
      simp only [runMove, live]
      refine awaited.moved rfl rfl rfl (fun _ none => by cases none) fun current latched unresolved => ?_
      obtain ⟨kind, kept, settles⟩ := Spared.settles permitted latched unresolved
      have off : kind ≠ .runStart ∧ kind ≠ .pauseCommand := by
        constructor <;> rintro rfl <;> exact kept (by simp)
      exact ⟨kind, settles_of_more off settles (subset_append_left _ _) rfl rfl rfl⟩

theorem willReportPause_append (reports : WillReportPause run paused) (command : RunCommand) (startPending : Bool) :
    WillReportPause { run with
      startPending := startPending
      commands := run.commands ++ [command] } paused := by
  refine ⟨reports.1, ?_⟩
  rw [pauseReports_append]
  exact mem_append_left _ reports.2

theorem awaited_togglePause (awaited : loop.Awaited) : loop.sendTogglePause.Awaited := by
  unfold sendTogglePause
  cases live : loop.run with
  | none =>
    have same : { loop with run := none } = loop := by rw [← live]
    simpa only [Option.map_none, same] using awaited
  | some run =>
    refine awaited.moved rfl rfl rfl ?_ fun current latched unresolved => ?_
    · rintro other ⟨rfl⟩
      rcases awaited.mirrored run live with same | ⟨seeded, queued⟩
      · exact Or.inl same
      · exact Or.inr ⟨seeded, mem_append_left _ queued⟩
    · obtain ⟨kind, settles⟩ := awaited.settles current latched unresolved
      refine ⟨kind, ?_⟩
      cases kind with
      | runStart =>
        obtain ⟨play, pipe, other, found, pending⟩ := settles
        cases live.symm.trans found
        exact ⟨play, pipe, _, rfl, pending⟩
      | pauseCommand =>
        obtain ⟨desired, wanted, other, found, reported⟩ := settles
        cases live.symm.trans found
        exact ⟨desired, wanted, _, rfl, willReportPause_append reported _ _⟩
      | lookup | transition | startReport | playoutDeadline | pauseReport => exact settles

/-- A submission seeds the mirror at once; a run that takes it over has it among its commands. -/
theorem submit_frame (submission : Submission) : (loop.submit submission).intents = loop.intents ∧
      (loop.submit submission).lookups = loop.lookups ∧
      (loop.submit submission).output = loop.output ∧ (loop.submit submission).Mirrored ∧
      ∃ run, (loop.submit submission).run = some run ∧ run.startPending = true := by
  unfold submit
  split
  · refine ⟨rfl, rfl, rfl, ?_, _, rfl, rfl⟩
    rintro other ⟨rfl⟩
    exact Or.inr ⟨rfl, by simp⟩
  · refine ⟨rfl, rfl, rfl, ?_, _, rfl, rfl⟩
    rintro other ⟨rfl⟩
    exact Or.inl rfl

theorem submit_settles (submission : Submission)
    (kept : submission.reuses = true ∨ kind ≠ .pauseCommand) (settles : loop.Settles current kind) :
    (loop.submit submission).Settles current kind := by
  by_cases starts : kind = .runStart
  · obtain ⟨play, pipe, -⟩ := starts ▸ settles
    obtain ⟨-, -, -, -, run, live, pending⟩ := @submit_frame loop submission
    exact starts ▸ ⟨play, pipe, run, live, pending⟩
  by_cases commanded : kind = .pauseCommand
  · subst commanded
    obtain ⟨desired, wanted, run, live, reported⟩ := settles
    simp only [submit, Option.mem_def.mp live, kept.resolve_right (by simp)]
    exact ⟨desired, wanted, _, rfl, willReportPause_append reported _ _⟩
  · obtain ⟨-, lookups, output, -⟩ := @submit_frame loop submission
    refine settles_of_more ⟨starts, commanded⟩ settles ?_ lookups output ?_ <;> unfold submit <;> split
    · exact List.Subset.refl _
    · exact subset_append_left _ _
    · rfl
    · rfl

theorem awaited_submit (awaited : loop.Awaited) (submission : Submission)
    (permitted : loop.Permits (.submitted submission)) : (loop.submit submission).Awaited := by
  obtain ⟨intents, lookups, output, mirrored, -⟩ := @submit_frame loop submission
  refine awaited.moved intents lookups output mirrored fun current latched unresolved => ?_
  rcases permitted with reused | spared
  · obtain ⟨kind, settles⟩ := awaited.settles current latched unresolved
    exact ⟨kind, submit_settles submission (Or.inl reused) settles⟩
  · obtain ⟨kind, kept, settles⟩ := Spared.settles spared latched unresolved
    exact ⟨kind, submit_settles submission (Or.inr fun lost => kept (by simp [lost])) settles⟩

theorem awaited_resetSlotJumps (awaited : loop.Awaited) (spared : loop.Spared [.transition]) :
    loop.resetSlotJumps.Awaited := by
  refine awaited.moved rfl rfl rfl awaited.mirrored fun current latched unresolved => ?_
  obtain ⟨kind, kept, settles⟩ := Spared.settles spared latched unresolved
  exact ⟨kind, (beside_transitions _).settles (fun lost => kept (by simp [lost])) settles⟩

theorem awaited_outputSelected (awaited : loop.Awaited) (output : PlaybackOutput)
    (permitted : loop.Permits (.outputSelected output)) :
    Awaited { loop.resetSlotJumps with output := output } := by
  obtain ⟨spared, fits⟩ := permitted
  refine ⟨fun current latched unresolved => ?_, fun current latched out => ?_, awaited.mirrored⟩
  · obtain ⟨kind, kept, settles⟩ := Spared.settles spared latched unresolved
    refine ⟨kind, ?_⟩
    cases kind with
    | transition => exact absurd (by simp) kept
    | lookup => exact ⟨settles.1, settles.2.1, fun here => fits here current latched settles.2.1⟩
    | runStart | startReport | playoutDeadline | pauseCommand | pauseReport => exact settles
  · exact ⟨(awaited.looked current latched out).1, fun here => fits here current latched out⟩

theorem toggle_reports (live : loop.run = some run) (mirrored : loop.Mirrored) {desired : Bool}
    (differs : loop.statusPaused ≠ desired) :
    desired ∈ pauseReports run.paused (run.commands ++ [.togglePause]) := by
  rw [pauseReports_append]
  by_cases elsewhere : pauseAfter run.paused run.commands = desired
  · refine mem_append_left _ ?_
    rcases mirrored run live with same | ⟨seeded, queued⟩
    · have moved : pauseAfter run.paused run.commands ≠ run.paused := by
        rw [elsewhere, same]
        exact Ne.symm differs
      exact elsewhere ▸ mem_pauseReports_of_ne moved
    · have asked : desired = true := by
        cases desired with
        | true => rfl
        | false => exact absurd seeded differs
      subst asked
      exact mem_pauseReports_of_submit queued elsewhere
  · refine mem_append_right _ ?_
    simp only [pauseReports, mem_singleton]
    exact Bool.eq_not.mpr (Ne.symm elsewhere)

theorem awaited_latched {connectionId : CtrlClientId} {intent : PlaybackIntent} (latched : next.intents.current = some current)
    (identity : current.identity = ⟨connectionId, intent.requestId, intent.generation⟩)
    (unused : IntentIdentity.mk connectionId intent.requestId intent.generation ∉ next.lookups.map (·.identity))
    (mirrored : next.Mirrored)
    (settles : current.phase ≠ .applied → ∃ kind, next.Settles current kind) : next.Awaited := by
  refine ⟨fun other latched' unresolved => ?_, fun other latched' out => ?_, mirrored⟩
  · cases latched.symm.trans latched'
    exact settles unresolved
  · cases latched.symm.trans latched'
    exact absurd (identity ▸ out) unused

theorem awaited_handled (awaited : loop.Awaited) (connectionId : CtrlClientId)
    (intent : PlaybackIntent) (pipeOutput : Bool) {events : List PlaybackIntentEvent}
    (answer : loop.intents.accept connectionId intent pipeOutput =
      ((PlaybackIntentState.latch connectionId intent pipeOutput).1, events))
    (accepted : events.any (·.outcome.isCoalesced) = false)
    (direct : intent.action.isRelative = false)
    (unused : IntentIdentity.mk connectionId intent.requestId intent.generation ∉
      loop.lookups.map (·.identity))
    (able : loop.CanSettle pipeOutput intent.action) :
    (loop.handlePlaybackIntent connectionId intent pipeOutput).Awaited := by
  simp only [handlePlaybackIntent, answer, accepted, Bool.false_eq_true, if_false]
  have applied : ((PlaybackIntentState.latch connectionId intent pipeOutput).1.appliedIfCurrent
      connectionId intent.requestId intent.generation).2.current =
        some { connectionId := connectionId
               requestId := intent.requestId
               generation := intent.generation
               action := intent.action
               phase := .applied
               pipeOutput := pipeOutput
               bufferingDeadline := none } := by
    simp [PlaybackIntentState.latch, PlaybackIntentState.appliedIfCurrent,
      CurrentPlaybackIntent.Named]
  cases asked : intent.action with
  | next => simp [asked, PlaybackIntentAction.isRelative] at direct
  | previous => simp [asked, PlaybackIntentAction.isRelative] at direct
  | stop =>
    exact awaited_latched applied rfl unused awaited.mirrored fun unresolved =>
      absurd rfl unresolved
  | play itemIds startIdx startTicks source =>
    rw [asked] at able
    obtain ⟨emby, fits⟩ := able
    simp only [emby, if_true]
    have resolving : ((PlaybackIntentState.latch connectionId intent pipeOutput).1.markResolving
        intent.requestId).current =
          some { connectionId := connectionId
                 requestId := intent.requestId
                 generation := intent.generation
                 action := intent.action
                 phase := .resolving
                 pipeOutput := pipeOutput
                 bufferingDeadline := none } := by
      simp [PlaybackIntentState.latch, PlaybackIntentState.markResolving, PlaybackIntentState.mark]
    have play : intent.action.isPlay = true := by rw [asked]; rfl
    refine ⟨fun current latched _ => ?_, fun current latched _ => ?_, awaited.mirrored⟩
    · cases resolving.symm.trans latched
      exact ⟨.lookup, play, by simp [CurrentPlaybackIntent.identity, IntentLookup.identity], fits⟩
    · cases resolving.symm.trans latched
      exact ⟨play, fits⟩
  | setPaused paused =>
    rw [asked] at able
    by_cases remote : loop.output ≠ .localPlayer
    · simp only [remote, ne_eq, not_false_eq_true, if_true]
      exact awaited_latched applied rfl unused awaited.mirrored fun unresolved =>
        absurd rfl unresolved
    · simp only [remote, if_false]
      have desired : paused ∈ (PlaybackIntentAction.setPaused paused).pauseTarget := rfl
      rcases able with elsewhere | heard | ⟨run, live, heard, moving⟩
      · exact absurd elsewhere remote
      · split
        · refine @awaited_latched _ _ connectionId intent rfl rfl unused
            ?_ fun _ => ⟨.pauseReport, paused, by rw [asked]; exact desired, heard⟩
          exact (awaited_togglePause awaited).mirrored
        · exact @awaited_latched _ _ connectionId intent rfl rfl unused
            awaited.mirrored fun _ => ⟨.pauseReport, paused, by rw [asked]; exact desired, heard⟩
      · by_cases differs : loop.statusPaused ≠ paused
        · simp only [differs, ne_eq, not_false_eq_true, if_true]
          refine @awaited_latched _ _ connectionId intent rfl rfl unused
            (awaited_togglePause awaited).mirrored fun _ => ?_
          refine ⟨.pauseCommand, paused, by rw [asked]; exact desired,
            { run with commands := run.commands ++ [.togglePause] }, ?_, heard,
            toggle_reports live awaited.mirrored differs⟩
          have found : loop.run = some run := live
          simp [sendTogglePause, found]
        · simp only [differs, if_false]
          refine @awaited_latched _ _ connectionId intent rfl rfl unused
            awaited.mirrored fun _ => ?_
          rcases moving with differs' | later
          · exact absurd differs' differs
          · exact ⟨.pauseCommand, paused, by rw [asked]; exact desired, run, live, heard, later⟩

theorem awaited_intent (awaited : loop.Awaited) (connectionId : CtrlClientId) (intent : PlaybackIntent) (pipeOutput : Bool)
    (permitted : loop.Permits (.intent connectionId intent pipeOutput)) :
    (loop.handlePlaybackIntent connectionId intent pipeOutput).Awaited := by
  rcases @PlaybackIntentState.accept_cases loop.intents connectionId intent pipeOutput
    with ⟨relative, answer⟩ | ⟨direct, coalesced | superseded | fresh⟩
  · simp only [handlePlaybackIntent, answer, any_cons, PlaybackIntentOutcome.isCoalesced,
      any_nil, Bool.or_self, Bool.false_eq_true, if_false]
    cases asked : intent.action with
    | next => exact awaited
    | previous => exact awaited
    | play | stop | setPaused => simp [asked, PlaybackIntentAction.isRelative] at relative
  · obtain ⟨current, -, -, -, -, answer⟩ := coalesced
    simp only [handlePlaybackIntent, answer, any_cons, PlaybackIntentOutcome.isCoalesced, Bool.true_or, if_true]
    exact awaited
  · obtain ⟨current, latched, -, -, other, -, answer⟩ := superseded
    rcases permitted with ⟨same, found, -, -, equal⟩ | relative | ⟨unused, able⟩
    · cases latched.symm.trans found
      exact absurd equal other
    · rw [direct] at relative
      cases relative
    · exact awaited_handled awaited connectionId intent pipeOutput answer rfl direct unused able
  · obtain ⟨other, answer⟩ := fresh
    rcases permitted with ⟨current, latched, unresolved, own, equal⟩ | relative | ⟨unused, able⟩
    · exact absurd equal (other current latched unresolved own).1
    · rw [direct] at relative
      cases relative
    · exact awaited_handled awaited connectionId intent pipeOutput answer rfl direct unused able

theorem awaited_arrived (awaited : loop.Awaited) {lookup : IntentLookup}
    (other : ∀ current, loop.intents.current = some current → current.identity ≠ lookup.identity) :
    { loop with lookups := loop.lookups.erase lookup }.Awaited := by
  refine ⟨fun current latched unresolved => ?_, fun current latched out => ?_, awaited.mirrored⟩
  · obtain ⟨kind, settles⟩ := awaited.settles current latched unresolved
    refine ⟨kind, ?_⟩
    cases kind with
    | lookup =>
      obtain ⟨play, out, fits⟩ := settles
      obtain ⟨asked, member, same⟩ := mem_map.mp out
      have kept : asked ≠ lookup := by
        rintro rfl
        exact other current latched same.symm
      exact ⟨play, mem_map.mpr ⟨asked, (mem_erase_of_ne kept).mpr member, same⟩, fits⟩
    | transition | runStart | startReport | playoutDeadline | pauseCommand | pauseReport =>
      exact settles
  · obtain ⟨asked, member, same⟩ := mem_map.mp out
    exact awaited.looked current latched (mem_map.mpr ⟨asked, mem_of_mem_erase member, same⟩)

theorem pushAll_length (queue : PlaybackQueue) (items : List QueueItem) :
    (queue.pushAll items).slots.length = queue.slots.length + items.length := by
  induction items generalizing queue with
  | nil => rfl
  | cons item items ih =>
    rw [PlaybackQueue.pushAll, ih]
    simp [PlaybackQueue.allocateSlotId]
    omega

theorem fromQueueItems_active {items : List QueueItem} {startIdx : Nat} (inside : startIdx < items.length) (mint : UInt64) :
    ∃ slotId, (PlaybackQueue.fromQueueItems items (some startIdx) mint).activeSlotId = some slotId := by
  have size := pushAll_length (PlaybackQueue.mk [] none mint (mint + 1) 1) items
  simp only [length_nil, Nat.zero_add] at size
  simp only [PlaybackQueue.fromQueueItems, Option.bind_some]
  rw [List.getElem?_eq_getElem (size ▸ inside)]
  exact ⟨_, rfl⟩

theorem playResolvedItems_settles (lookup : IntentLookup) {fetched : List EmbyItem}
    (submission : Submission) (found : fetched ≠ []) (idle : loop.transitions.inFlight = none)
    (play : current.action.isPlay = true)
    (fits : loop.output = .localPlayer → current.pipeOutput = true)
    (named : current.requestId = lookup.requestId) :
    ∃ kind, (kind = .transition ∨ kind = .runStart) ∧
      (loop.playResolvedItems lookup fetched submission).Settles current kind := by
  by_cases here : loop.output = .localPlayer
  · obtain ⟨-, -, -, -, run, live, pending⟩ := @submit_frame (loop.installResolvedQueue lookup.startIdx fetched) submission
    refine ⟨.runStart, Or.inr rfl, play, fits here, run, ?_, pending⟩
    simp only [playResolvedItems, here, if_true]
    exact live
  · have inside : min lookup.startIdx (fetched.length - 1) < (fetched.map QueueItem.emby).length := by
      have some_ := length_pos_of_ne_nil found
      rw [length_map]
      omega
    obtain ⟨slotId, active⟩ := fromQueueItems_active inside loop.queue.mint
    refine ⟨.transition, Or.inl rfl, play, .new lookup.requestId lookup.generation slotId, ?_, named.symm⟩
    simp [playResolvedItems, installResolvedQueue, here, active, OwnerTransitionState.accept, idle]

theorem playResolvedItems_frame (mirrored : loop.Mirrored) (lookup : IntentLookup)
    (fetched : List EmbyItem) (submission : Submission) :
    (loop.playResolvedItems lookup fetched submission).intents = loop.intents ∧
      (loop.playResolvedItems lookup fetched submission).lookups = loop.lookups ∧
      (loop.playResolvedItems lookup fetched submission).output = loop.output ∧
      (loop.playResolvedItems lookup fetched submission).Mirrored := by
  unfold playResolvedItems
  split
  · obtain ⟨intents, lookups, output, mirrored', -⟩ := @submit_frame
      (loop.installResolvedQueue lookup.startIdx fetched) submission
    exact ⟨intents, lookups, output, mirrored'⟩
  · simp only
    split <;> exact ⟨rfl, rfl, rfl, mirrored⟩

theorem handlePlaybackResolved_own {lookup : IntentLookup} (mirrored : loop.Mirrored)
    (latched : loop.intents.current = some current) (own : current.identity = lookup.identity)
    (play : current.action.isPlay = true)
    (fits : loop.output = .localPlayer → current.pipeOutput = true) (hasClient : Bool)
    (fetched : Option (List EmbyItem)) (submission : Submission) :
    let next := loop.handlePlaybackResolved lookup hasClient fetched submission
    next.Mirrored ∧ next.output = loop.output ∧ next.lookups = loop.lookups.erase lookup ∧
      (next.intents.current = none ∨ next.intents.current = some { current with phase := .playerOpening } ∧
          ∃ kind, (kind = .transition ∨ kind = .runStart) ∧ next.Settles { current with phase := .playerOpening } kind) := by
  have same : current.connectionId = lookup.connectionId ∧ current.requestId = lookup.requestId ∧
      current.generation = lookup.generation := by
    simpa [CurrentPlaybackIntent.identity, IntentLookup.identity] using own
  obtain ⟨connection, request, generation⟩ := same
  have isCurrent : loop.intents.isCurrent lookup.connectionId lookup.requestId lookup.generation =
      true := PlaybackIntentState.isCurrent_iff.mpr
    ⟨current, latched, connection, request, generation⟩
  have reject (reason : PlaybackIntentRejection) : (loop.intents.rejectedIfCurrent
      lookup.connectionId lookup.requestId lookup.generation reason).2.current = none := by
    rw [← connection, ← request, ← generation, PlaybackIntentState.rejectedIfCurrent_named latched]
  unfold handlePlaybackResolved
  cases hasClient with
  | false =>
    refine ⟨mirrored, rfl, rfl, Or.inl ?_⟩
    simp [PlaybackIntentState.invalidateConnection, latched, connection]
  | true =>
    simp only [Bool.true_eq_false, if_false, isCurrent]
    cases fetched with
    | none => exact ⟨mirrored, rfl, rfl, Or.inl (reject _)⟩
    | some items =>
      simp only
      split
      · exact ⟨mirrored, rfl, rfl, Or.inl (reject _)⟩
      · rename_i nonempty
        split
        · exact ⟨mirrored, rfl, rfl, Or.inl (reject _)⟩
        · have starting : (loop.intents.markStarting lookup.requestId).current =
              some { current with phase := .playerOpening } := by
            simp [PlaybackIntentState.markStarting, PlaybackIntentState.mark, latched, request]
          obtain ⟨intents, lookups, output, mirrored'⟩ := @playResolvedItems_frame ({ loop with
              lookups := loop.lookups.erase lookup
              intents := loop.intents.markStarting lookup.requestId }.resetSlotJumps)
            mirrored lookup items submission
          refine ⟨mirrored', output, lookups, Or.inr ⟨?_, ?_⟩⟩
          · rw [intents]
            exact starting
          · refine playResolvedItems_settles lookup submission ?_ rfl play fits request
            rintro rfl
            exact nonempty rfl

theorem awaited_resolved (awaited : loop.Awaited) {lookup : IntentLookup}
    (out : lookup ∈ loop.lookups) (hasClient : Bool) (fetched : Option (List EmbyItem))
    (submission : Submission) :
    (loop.handlePlaybackResolved lookup hasClient fetched submission).Awaited := by
  by_cases own : ∃ current, loop.intents.current = some current ∧ current.identity = lookup.identity
  · obtain ⟨current, latched, identity⟩ := own
    have asked : current.identity ∈ loop.lookups.map (·.identity) := mem_map.mpr ⟨lookup, out, identity.symm⟩
    obtain ⟨play, fits⟩ := awaited.looked current latched asked
    obtain ⟨mirrored, output, -, gone | ⟨opening, kind, -, settles⟩⟩ :=
      handlePlaybackResolved_own awaited.mirrored latched identity play fits hasClient fetched submission
    · exact ⟨by simp [gone], by simp [gone], mirrored⟩
    · refine ⟨fun other latched' _ => ?_, fun other latched' _ => ?_, mirrored⟩
      · cases opening.symm.trans latched'
        exact ⟨kind, settles⟩
      · cases opening.symm.trans latched'
        rw [output]
        exact ⟨play, fits⟩
  · have other : ∀ current, loop.intents.current = some current → current.identity ≠ lookup.identity :=
      fun current latched identity => own ⟨current, latched, identity⟩
    have arrived := awaited_arrived awaited other
    have stale : loop.intents.isCurrent lookup.connectionId lookup.requestId lookup.generation =
        false := by
      by_contra current
      obtain ⟨current, latched, named⟩ := PlaybackIntentState.isCurrent_iff.mp (Bool.not_eq_false _ ▸ current)
      refine other current latched ?_
      simp [CurrentPlaybackIntent.identity, IntentLookup.identity, named.1, named.2.1, named.2.2]
    unfold handlePlaybackResolved
    cases hasClient with
    | false =>
      exact (handles_invalidated lookup.connectionId).awaited arrived
    | true =>
      simp only [Bool.true_eq_false, if_false, stale, if_true]
      exact arrived

theorem step_awaited (loop : IntentLoop) (input : LoopInput) (awaited : loop.Awaited)
    (permitted : loop.Permits input) : (machine.step loop input).Awaited := by
  cases input with
  | intent connectionId intent pipeOutput =>
    exact awaited_intent awaited connectionId intent pipeOutput permitted
  | resolved lookup hasClient fetched submission =>
    simp only [machine, step]
    split
    · rename_i out
      exact awaited_resolved awaited out hasClient fetched submission
    · exact awaited
  | delivered delay now => exact awaited_delivered awaited delay now permitted
  | recvTimeout now connected => exact (handles_recvTimeout now connected).awaited awaited
  | disconnected connectionId =>
    exact (handles_invalidated connectionId).awaited awaited
  | remoteLoaded slotId => exact (handles_remoteLoaded slotId).awaited awaited
  | remoteExpired => exact handles_remoteExpired.awaited awaited
  | remoteRejected transition =>
    have spec := @rejectCurrent_spec loop (fun current => current.requestId = transition.requestId &&
        current.generation = transition.generation) .resolutionFailed
    exact (handles_of_transitions_eq spec.1 spec.2.2 (by rw [spec.2.1])).awaited awaited
  | jump transition => exact (handles_dispatchSlotJump transition).awaited awaited
  | resetJumps => exact awaited_resetSlotJumps awaited permitted
  | outputSelected output => exact awaited_outputSelected awaited output permitted
  | reconciled hasEmby => exact ⟨awaited.settles, awaited.looked, awaited.mirrored⟩
  | queueChanged queue => exact ⟨awaited.settles, awaited.looked, awaited.mirrored⟩
  | submitted submission => exact awaited_submit awaited submission permitted
  | togglePause => exact awaited_togglePause awaited
  | run move => exact awaited_runMove awaited move permitted

end IntentLoop

end Mbv.Daemon
