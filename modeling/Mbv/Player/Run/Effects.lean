import Mbv.Player.Run.Thread

namespace Mbv.Player

open Mbv.Queue

/-- The run identity an event is labelled with, when its kind carries one. -/
def PlayerEvent.label? : PlayerEvent → Option PlaybackGeneration
  | stopped runIdentity _ => some runIdentity
  | trackCompleted _ runIdentity _ _ _ => some runIdentity
  | _ => none

def PlayerEvent.stop? : PlayerEvent → Option (PlaybackGeneration × StopOutcome)
  | stopped runIdentity outcome => some (runIdentity, outcome)
  | _ => none

def PlayerEvent.changed? : PlayerEvent → Option QueueSlotId
  | trackChanged slotId _ => some slotId
  | _ => none

/-- Neither a stop nor a change of track, and under the run's own identity if under any. -/
def PlayerEvent.Plain (identity : PlaybackGeneration) (event : PlayerEvent) : Prop :=
  event.stop? = none ∧ event.changed? = none ∧ ∀ label ∈ event.label?, label = identity

/-- What a run is read for: all of it but its jump, its status and its reporter. -/
structure RunView where
  queue : ExecutionSequence
  currentIdx : Nat
  projection : Projection
  mpv : List MpvCommand
  loadState : LoadState
  quitAt : Option Instant
  events : List PlayerEvent
  identity : PlaybackGeneration
  ended : Option PlaybackGeneration
  nearEnd : Bool

namespace RunView

variable (view : RunView)

def tell (events : List PlayerEvent) : RunView := { view with events := view.events ++ events }

def activate (idx : Nat) (slotId : QueueSlotId) : RunView :=
  { view with queue := { view.queue with activeSlotId := some slotId }, currentIdx := idx }

def load (loadState : LoadState) (slotId : QueueSlotId) : RunView :=
  { view with
    loadState := loadState
    mpv := view.mpv ++ [.playlistClear, .loadfile slotId .replace] }

def stop (outcome : StopOutcome) : RunView :=
  if view.ended = some view.identity then view
  else
    { view with
      events := view.events ++ [.stopped view.identity outcome]
      ended := some view.identity }

theorem tell_tell (first second : List PlayerEvent) : (view.tell first).tell second = view.tell (first ++ second) := by
  simp [tell]

/-- All that an mpv event does to the view of a run. -/
inductive Handles (view : RunView) : MpvEvent → RunView → Prop
  | quiet {event : MpvEvent} : Handles view event view
  | tells {event : MpvEvent} (told : PlayerEvent) (plain : told.Plain view.identity) :
    Handles view event (view.tell [told])
  /-- The end-file of a replaced file clears the drain. -/
  | drains {reason : EndFileReason} : Handles view (.endFile reason) { view with loadState := .ready }
  | marks (mark : Bool) : Handles view (.endFile .quit) { view with nearEnd := mark }
  | stops {event : MpvEvent} (outcome : StopOutcome) : Handles view event (view.stop outcome)
  | quits (outcome : StopOutcome) : Handles view .shutdown ((view.stop outcome).tell [.mpvQuit])
  /-- Another entry is made the active one: mpv moved to it, or a jump or the end of a track did. -/
  | moves {event : MpvEvent} {idx : Nat} {slotId : QueueSlotId} (told : List PlayerEvent)
    (transition : Option (PlaybackRequestId × PlaybackGeneration))
    (there : view.queue.slotIds[idx]? = some slotId)
    (plain : ∀ event ∈ told, event.Plain view.identity) :
    Handles view event ((view.activate idx slotId).tell (told ++ [.trackChanged slotId transition]))
  /-- The end of an active file loads the next one. -/
  | loads {reason : EndFileReason} (idx : Nat) {slotId : QueueSlotId} (told : PlayerEvent)
    (transition : Option (PlaybackRequestId × PlaybackGeneration))
    (activeFile : view.projection = .activeFile) (ready : view.loadState = .ready)
    (plain : told.Plain view.identity) :
    Handles view (.endFile reason)
      (((view.load .ready slotId).activate idx slotId).tell [told, .trackChanged slotId transition])
  | loadFails {reason : EndFileReason} (slotId : QueueSlotId) (outcome : StopOutcome)
    (activeFile : view.projection = .activeFile) (ready : view.loadState = .ready) :
    Handles view (.endFile reason) ((view.load .ready slotId).stop outcome)
  /-- mpv counts more entries than the run has, whose ordinal was past its last. -/
  | clamps {event : MpvEvent} (told : PlayerEvent) (plain : told.Plain view.identity)
    (past : view.queue.len ≤ view.currentIdx) :
    Handles view event ({ view with currentIdx := view.queue.len - 1 }.tell [told])
  /-- mpv counts fewer entries than the run has, which drops its last ones. -/
  | prunes {count : Int} (queue : ExecutionSequence) (told : PlayerEvent)
    (plain : told.Plain view.identity) (playlist : view.projection = .playlist)
    (ready : view.loadState = .ready)
    (short : (if count < 0 then u64Max else count.toNat) < view.queue.len)
    (wellFormed : view.queue.WellFormed → queue.WellFormed)
    (active : queue.activeSlotId = view.queue.activeSlotId ∨ queue.activeSlotId = none) :
    Handles view (.playlistCount count)
      ({ view with
        queue := queue
        currentIdx := (queue.activeSlotId.bind queue.slotIndex).getD view.currentIdx }.tell [told])

end RunView

namespace RunLifecycle

variable (lifecycle : RunLifecycle)

/-- What of the lifecycle the view shows. -/
def shown : Projection × Option PlaybackGeneration := (lifecycle.projection, lifecycle.ended)

theorem loadFailed_shown (position : RunPosition) : (lifecycle.loadFailed position).2.shown = lifecycle.shown := by
  unfold loadFailed
  dsimp only
  split
  · rfl
  · split <;> rfl

theorem jumpSettledOnRestart_shown : lifecycle.jumpSettledOnRestart.2.shown = lifecycle.shown := by
  unfold jumpSettledOnRestart
  split
  · split <;> rfl
  · rfl

theorem takeResumeTicks_shown : lifecycle.takeResumeTicks.2.shown = lifecycle.shown := by
  unfold takeResumeTicks
  split <;> rfl

theorem isActiveFile_iff : lifecycle.isActiveFile = true ↔ lifecycle.projection = .activeFile := by
  simp [isActiveFile]

end RunLifecycle

namespace PlaybackRun

def view (run : PlaybackRun) : RunView where
  queue := run.queue
  currentIdx := run.currentIdx
  projection := run.runLifecycle.projection
  mpv := run.mpv
  loadState := run.itemLifecycle.loadState
  quitAt := run.quitAt
  events := run.events
  identity := run.runIdentity
  ended := run.runLifecycle.ended
  nearEnd := run.stoppedNearEnd

variable (run : PlaybackRun)

theorem playlist_of_not {run : PlaybackRun} (inactive : ¬ run.runLifecycle.isActiveFile = true) :
    run.runLifecycle.projection = .playlist := by
  cases projection : run.runLifecycle.projection with
  | playlist => rfl
  | activeFile => exact absurd (by simp [RunLifecycle.isActiveFile, projection]) inactive

theorem slotIdAt_eq (idx : Nat) : run.slotIdAt idx = run.queue.slotIds[idx]? := by
  simp [slotIdAt, ExecutionSequence.slotIds]

theorem setActiveIndex_spec (idx : Nat) : (run.slotIdAt idx = none ∧ run.setActiveIndex idx = (false, run)) ∨
      ∃ id, run.slotIdAt idx = some id ∧ run.setActiveIndex idx = (true, { run with
            queue := { run.queue with activeSlotId := some id }
            currentIdx := idx }.syncStatusPosition) := by
  unfold setActiveIndex
  cases there : run.slotIdAt idx with
  | none => exact Or.inl ⟨rfl, rfl⟩
  | some id =>
    have member : id ∈ run.queue.slotIds := by
      rw [slotIdAt_eq] at there
      exact List.mem_of_getElem? there
    refine Or.inr ⟨id, rfl, ?_⟩
    simp only [ExecutionSequence.setActiveSlot_of_mem member]

/-! What each function does to the view. -/

theorem view_lifecycle {lifecycle : RunLifecycle} (same : lifecycle.shown = run.runLifecycle.shown) :
    view { run with runLifecycle := lifecycle } = run.view := by
  have projection : lifecycle.projection = run.runLifecycle.projection := congrArg (·.1) same
  have ended : lifecycle.ended = run.runLifecycle.ended := congrArg (·.2) same
  simp [view, projection, ended]

theorem view_endRun (outcome : StopOutcome) : (run.endRun outcome).view = run.view.stop outcome := by
  by_cases closed : run.runLifecycle.ended = some run.runIdentity <;>
    simp [endRun, RunLifecycle.close, RunView.stop, view, send, closed]

theorem view_emitTrackChanged (slotId : QueueSlotId) (transition : Option Transition) :
    ∃ shown, (run.emitTrackChanged slotId transition).view = run.view.tell [.trackChanged slotId shown] := ⟨_, rfl⟩

theorem view_reportStopIfUnreported : run.reportStopIfUnreported.view = run.view := by
  unfold reportStopIfUnreported
  split <;> rfl

theorem view_reportActiveItem : run.reportActiveItem.view = run.view := by
  unfold reportActiveItem
  split <;> rfl

theorem view_initTracksOnce : run.initTracksOnce.view = run.view := by
  unfold initTracksOnce
  split
  · rfl
  · exact run.view_lifecycle run.runLifecycle.takeResumeTicks_shown

theorem view_setActiveIndex {run chosen : PlaybackRun} {idx : Nat} {moved : Bool}
    (set : run.setActiveIndex idx = (moved, chosen)) :
    moved = false ∧ chosen = run ∨ ∃ slotId, run.queue.slotIds[idx]? = some slotId ∧
      moved = true ∧ chosen.view = run.view.activate idx slotId := by
  rcases setActiveIndex_spec run idx with ⟨-, same⟩ | ⟨slotId, there, same⟩ <;> rw [same] at set <;> cases set
  · exact .inl ⟨rfl, rfl⟩
  · exact .inr ⟨slotId, (slotIdAt_eq run idx).symm.trans there, rfl, rfl⟩

theorem view_installActiveProjection (answers : Answers) (slotId : QueueSlotId) :
    (run.installActiveProjection answers slotId).1.isNone = answers.loadfile.isNone ∧
      (run.installActiveProjection answers slotId).2.view = run.view.load
        (if answers.loadfile.isNone then .drainingReplacedFile else run.itemLifecycle.loadState)
        slotId := by
  unfold installActiveProjection
  cases answers.loadfile with
  | none => simp [view, RunView.load, acceptReplacement, command]
  | some error => simp [view, RunView.load, command]

/-- A selected entry is loaded, and made the active one if mpv takes it; one that cannot be prepared
    changes nothing. -/
theorem view_selectActiveSlot {run chosen : PlaybackRun} {answers : Answers} {slotId : QueueSlotId}
    {error : Option String} (selected : run.selectActiveSlot answers slotId = (error, chosen)) :
    error = none ∧ answers.prepareSource = none ∧ answers.loadfile = none ∧ slotId ∈ run.queue.slotIds ∧
        (∃ idx, chosen.view = (run.view.load .drainingReplacedFile slotId).activate idx slotId) ∨
      error.isSome = true ∧ (chosen.view = run.view ∨ answers.loadfile.isNone = false ∧
        chosen.view = run.view.load run.itemLifecycle.loadState slotId) := by
  obtain ⟨fails, loaded⟩ := run.view_installActiveProjection answers slotId
  unfold selectActiveSlot at selected
  split at selected
  · cases selected
    exact .inr ⟨rfl, .inl rfl⟩
  · rename_i slot found
    split at selected
    · cases selected
      exact .inr ⟨rfl, .inl rfl⟩
    · rename_i prepared
      split at selected <;> rename_i installed <;> rw [installed] at fails loaded <;> cases selected
      · have refused : answers.loadfile.isNone = false := fails.symm
        rw [if_neg (by simp [refused])] at loaded
        exact .inr ⟨rfl, .inr ⟨refused, loaded⟩⟩
      · rename_i base
        have taken : answers.loadfile.isNone = true := fails.symm
        rw [if_pos taken] at loaded
        have member : slotId ∈ run.queue.slotIds := Keyed.get_isSome.mp (Option.isSome_of_mem found)
        have queue : base.queue = run.queue := congrArg RunView.queue loaded
        have marked := ExecutionSequence.setActiveSlot_of_mem member
        refine .inl ⟨rfl, prepared, Option.isNone_iff_eq_none.mp taken, member,
          (run.queue.slotIndex slotId).getD base.currentIdx, ?_⟩
        rw [RunView.activate, ← loaded]
        simp only [view, syncStatusPosition, loadActiveItemState, queue, marked]
        rfl

theorem view_finalizeQuit : ∃ outcome, run.finalizeQuit.view = run.view.stop outcome := by
  unfold finalizeQuit
  dsimp only
  have reported : (if run.stopReportSent then run else run.markReported .sent).view = run.view := by
    split <;> rfl
  exact ⟨_, (view_endRun _ _).trans (congrArg (RunView.stop · _) reported)⟩

/-! What each mpv event does to the view. -/

variable {run next : PlaybackRun} {answers : Answers} {event : MpvEvent}

theorem adoptMpvEntry_view {index : Nat} {mpvPosTicks : Int} {adopted : Bool}
    (result : run.adoptMpvEntry index mpvPosTicks = (adopted, next)) :
    adopted = false ∧ next.view = run.view ∨ ∃ slotId, run.queue.slotIds[index]? = some slotId ∧
      adopted = true ∧ next.view = run.view.activate index slotId := by
  unfold adoptMpvEntry at result
  split at result <;> rename_i moved set
  · cases result
    rcases view_setActiveIndex set with ⟨-, rfl⟩ | ⟨slotId, -, other, -⟩
    · exact .inl ⟨rfl, rfl⟩
    · cases other
  · rcases view_setActiveIndex set with ⟨other, -⟩ | ⟨slotId, there, -, taken⟩
    · cases other
    · have positioned : (if mpvPosTicks > 0 then
            { moved.loadActiveItemState with lastValidPos := mpvPosTicks }
          else moved.loadActiveItemState).view = moved.view := by
        split <;> rfl
      refine .inr ⟨slotId, there, ?_⟩
      dsimp only at result
      split at result <;> cases result
      · exact ⟨rfl, positioned.trans taken⟩
      · exact ⟨rfl, (view_reportActiveItem _).trans (positioned.trans taken)⟩

theorem plain_completed {identity : PlaybackGeneration} (slotId : QueueSlotId) (positionTicks : Int) (played consume : Bool) :
    (PlayerEvent.trackCompleted slotId identity positionTicks played consume).Plain identity :=
  ⟨rfl, rfl, fun _ own => (Option.some.inj own).symm⟩

theorem announceAdoptedEntry_view {slotId : QueueSlotId} (active : run.activeSlotId = some slotId)
    (abandonedSlot : Option QueueSlotId) (abandonedPos : Int) :
    ∃ told, (∀ event ∈ told, event.Plain run.runIdentity) ∧ (run.announceAdoptedEntry abandonedSlot abandonedPos).view =
        run.view.tell (told ++ [.trackChanged slotId none]) := by
  unfold announceAdoptedEntry
  cases abandonedSlot with
  | none =>
    refine ⟨[], by simp, ?_⟩
    simp only [active]
    rfl
  | some abandoned =>
    refine ⟨[.trackCompleted abandoned run.runIdentity abandonedPos false false], ?_, ?_⟩
    · rintro _ (_ | ⟨_, ⟨⟩⟩)
      exact plain_completed ..
    · have marked : (run.send (.trackCompleted abandoned run.runIdentity abandonedPos false
          false)).activeSlotId = some slotId := active
      simp only [marked]
      simp [view, send, RunView.tell]

theorem reportStoppedAndAdoptMpvEntry_handles (run : PlaybackRun)
    (abandonedSlot : Option QueueSlotId) (abandonedPos : Int) (index : Nat) (mpvPosTicks : Int) :
    run.view.Handles event (run.reportStoppedAndAdoptMpvEntry abandonedSlot abandonedPos index mpvPosTicks).view := by
  unfold reportStoppedAndAdoptMpvEntry
  split <;> rename_i adopted result
  · rcases adoptMpvEntry_view result with ⟨-, kept⟩ | ⟨slotId, -, other, -⟩
    · rw [kept]
      exact .quiet
    · cases other
  · rcases adoptMpvEntry_view result with ⟨other, -⟩ | ⟨slotId, there, -, taken⟩
    · cases other
    · have active : adopted.activeSlotId = some slotId := congrArg (·.queue.activeSlotId) taken
      have own : adopted.runIdentity = run.runIdentity := congrArg RunView.identity taken
      obtain ⟨told, plain, same⟩ := announceAdoptedEntry_view active abandonedSlot abandonedPos
      rw [same, taken]
      rw [own] at plain
      exact .moves told none there plain

theorem onPlaylistPosChanged_handles (run : PlaybackRun) (pos mpvPosTicks : Int) :
    run.view.Handles event (run.onPlaylistPosChanged pos mpvPosTicks).view := by
  unfold onPlaylistPosChanged
  split
  · exact .quiet
  · split
    · exact .quiet
    · split
      · exact .quiet
      · exact reportStoppedAndAdoptMpvEntry_handles ..

theorem dropSlots_view (slotIds : List QueueSlotId) (run : PlaybackRun) :
    ∃ queue, (slotIds.foldl (fun run slotId => run.dropSlot slotId) run).view =
        { run.view with queue := queue } ∧ (run.queue.WellFormed → queue.WellFormed) ∧
      (queue.activeSlotId = run.queue.activeSlotId ∨ queue.activeSlotId = none) := by
  induction slotIds generalizing run with
  | nil => exact ⟨run.queue, rfl, id, .inl rfl⟩
  | cons slotId slotIds ih =>
    obtain ⟨queue, same, wellFormed, active⟩ := ih (run.dropSlot slotId)
    have dropped : (run.queue.WellFormed → (run.dropSlot slotId).queue.WellFormed) ∧
        ((run.dropSlot slotId).queue.activeSlotId = run.queue.activeSlotId ∨
          (run.dropSlot slotId).queue.activeSlotId = none) := by
      unfold dropSlot
      dsimp only
      split
      · rename_i own
        have marker : run.queue.activeSlotId = some slotId := own
        refine ⟨fun well => well.removeActiveSlotConfirmed slotId, ?_⟩
        cases found : run.queue.slotIndex slotId with
        | none => simp [ExecutionSequence.removeActiveSlotConfirmed, found]
        | some index => simp [ExecutionSequence.removeActiveSlotConfirmed, found, marker]
      · exact ⟨fun well => well.removeSlot slotId, .inl (ExecutionSequence.removeSlot_active slotId)⟩
    refine ⟨queue, same, wellFormed ∘ dropped.1, ?_⟩
    rcases active with kept | gone
    · rw [kept]
      exact dropped.2
    · exact .inr gone

theorem onPlaylistCountChanged_handles {count : Int} (ready : run.loadIsReady = true) {read : Nat}
    (reads : (if count < 0 then u64Max else count.toNat) = read) :
    run.view.Handles (.playlistCount count) (run.onPlaylistCountChanged read).view := by
  have plain (message : String) : (PlayerEvent.queueDesynced message).Plain run.view.identity :=
    ⟨rfl, rfl, by simp [PlayerEvent.label?]⟩
  unfold onPlaylistCountChanged
  split
  · exact .quiet
  · rename_i inactive
    split
    · exact .quiet
    · split
      · rename_i short
        obtain ⟨queue, dropped, wellFormed, active⟩ := dropSlots_view (run.queue.slotIds.drop read) run
        have clear : run.itemLifecycle.loadState = .ready := by simpa [loadIsReady] using ready
        have pruned (message : String) := RunView.Handles.prunes queue _ (plain message)
          (playlist_of_not inactive) clear (reads ▸ short) wellFormed active
        dsimp only
        generalize (run.queue.slotIds.drop read).foldl _ run = shrunk at dropped ⊢
        show run.view.Handles _ (RunView.tell { shrunk.view with
          currentIdx := (shrunk.view.queue.activeSlotId.bind shrunk.view.queue.slotIndex).getD
            shrunk.view.currentIdx } _)
        rw [dropped]
        exact pruned _
      · dsimp only
        split
        · rename_i past
          exact .clamps _ (plain _) past.1
        · exact .tells _ (plain _)

theorem selectNext_view {nextIdx : Nat} {selected : Bool} (inside : nextIdx < run.queueLen) (ready : run.loadIsReady = true)
    (result : run.selectNext answers nextIdx = (selected, next)) :
    (∃ slotId, selected = true ∧ next.queue.activeSlotId = some slotId ∧
        (run.queue.slotIds[nextIdx]? = some slotId ∧ next.view = run.view.activate nextIdx slotId ∨
          run.runLifecycle.projection = .activeFile ∧ ∃ idx, next.view = (run.view.load .ready slotId).activate idx slotId)) ∨
      selected = false ∧ next.runLifecycle.isActiveFile = true ∧ (next.view = run.view ∨
        ∃ slotId, next.view = run.view.load .ready slotId) := by
  have clear : run.itemLifecycle.loadState = .ready := by simpa [loadIsReady] using ready
  unfold selectNext at result
  split at result
  · rename_i activeFile
    have projected := (RunLifecycle.isActiveFile_iff _).mp activeFile
    have stays {chosen : PlaybackRun} (same : chosen.view.projection = run.view.projection) :
        chosen.runLifecycle.isActiveFile = true :=
      (RunLifecycle.isActiveFile_iff _).mpr (same.trans projected)
    split at result
    · cases result
      exact .inr ⟨rfl, activeFile, .inl rfl⟩
    · rename_i slotId _
      split at result <;> rename_i chosen choice <;> cases result
      · rcases view_selectActiveSlot choice with ⟨-, -, -, -, idx, taken⟩ | ⟨failed, -⟩
        · have draining : chosen.itemLifecycle.loadState = .drainingReplacedFile := congrArg RunView.loadState taken
          refine .inl ⟨slotId, rfl, congrArg (·.queue.activeSlotId) taken, .inr ⟨projected, idx, ?_⟩⟩
          have drained := congrArg (fun view : RunView => { view with loadState := .ready }) taken
          refine Eq.trans ?_ drained
          simp [view, onDrained, ItemLifecycleState.onDrained, draining]
        · cases failed
      · rcases view_selectActiveSlot choice with ⟨other, -⟩ | ⟨-, kept | ⟨-, loaded⟩⟩
        · cases other
        · exact .inr ⟨rfl, stays (congrArg RunView.projection kept), .inl kept⟩
        · rw [clear] at loaded
          exact .inr ⟨rfl, stays (Eq.trans (congrArg RunView.projection loaded) rfl), .inr ⟨slotId, loaded⟩⟩
  · have there : run.slotIdAt nextIdx ≠ none := by
      rw [slotIdAt_eq, Ne, List.getElem?_eq_none_iff, ExecutionSequence.slotIds_length]
      exact Nat.not_le.mpr inside
    rcases setActiveIndex_spec run nextIdx with ⟨absent, -⟩ | ⟨slotId, found, set⟩
    · exact absurd absent there
    · rw [set] at result
      cases result
      exact .inl ⟨slotId, rfl, rfl, .inl ⟨(slotIdAt_eq run nextIdx).symm.trans found, rfl⟩⟩

theorem advanceToNextTrack_handles {reason : EndFileReason} {stop : QueueEndStop} {nextIdx : Nat}
    {settlingTransition : Option Transition} (inside : nextIdx < run.queueLen)
    (ready : run.loadIsReady = true)
    (advanced : run.advanceToNextTrack answers stop nextIdx settlingTransition = some next) :
    run.view.Handles (.endFile reason) next.view := by
  have clear : run.itemLifecycle.loadState = .ready := by simpa [loadIsReady] using ready
  unfold advanceToNextTrack at advanced
  cases selected : run.selectNext answers nextIdx with
  | mk ok chosen =>
    rw [selected] at advanced
    dsimp only at advanced
    split at advanced
    · cases advanced
    · rename_i item _
      rcases selectNext_view inside ready selected with
        ⟨slotId, rfl, marker, taken⟩ | ⟨rfl, activeFile, missed⟩
      · rw [if_neg (by simp)] at advanced
        have active : (chosen.loadActiveItemState.completeTrack stop item).activeSlotId = some slotId := marker
        rw [active] at advanced
        cases advanced
        obtain ⟨shown, told⟩ := (chosen.loadActiveItemState.completeTrack stop
          item).view_emitTrackChanged slotId settlingTransition
        have completed : (chosen.loadActiveItemState.completeTrack stop item).view =
            chosen.view.tell [.trackCompleted stop.completedSlotId chosen.runIdentity
              stop.decision.completedPos stop.decision.playedOut stop.decision.consumeTrack] := rfl
        have own : chosen.view.identity = run.view.identity := by
          rcases taken with ⟨-, taken⟩ | ⟨-, idx, taken⟩ <;> rw [taken] <;> rfl
        have plain := @plain_completed run.view.identity stop.completedSlotId
          stop.decision.completedPos stop.decision.playedOut stop.decision.consumeTrack
        rw [told, completed, RunView.tell_tell, show chosen.runIdentity = run.view.identity from own]
        rcases taken with ⟨there, taken⟩ | ⟨projection, idx, taken⟩ <;> rw [taken]
        · refine .moves [_] _ there fun event member => ?_
          rw [List.mem_singleton.mp member]
          exact plain
        · exact .loads idx _ shown projection clear plain
      · have stays : chosen.loadActiveItemState.runLifecycle.isActiveFile = true := activeFile
        rw [if_pos (by simp [stays])] at advanced
        cases advanced
        have ended := chosen.loadActiveItemState.view_endRun ⟨some stop.completedSlotId, 0, false, false,
            some "failed to prepare media: service unavailable"⟩
        unfold stopForFailedAdvance
        rw [ended]
        rcases missed with kept | ⟨slotId, loaded⟩
        · rw [show chosen.loadActiveItemState.view = run.view from kept]
          exact .stops _
        · have projection := (congrArg RunView.projection loaded).symm.trans ((RunLifecycle.isActiveFile_iff _).mp activeFile)
          rw [show chosen.loadActiveItemState.view = _ from loaded]
          exact .loadFails slotId _ projection clear

theorem onEndFileQueue_handles {reason : EndFileReason} {completedSlotId : Option QueueSlotId}
    {goesOn : Bool} (ready : run.loadIsReady = true)
    (ended : run.onEndFileQueue answers reason completedSlotId = some (goesOn, next)) :
    run.view.Handles (.endFile reason) next.view := by
  unfold onEndFileQueue at ended
  split at ended
  · cases ended
    exact view_endRun (run.markReported .sent) _ ▸ .stops _
  · dsimp only at ended
    split at ended
    · cases ended
      unfold handleSupersededJump
      split
      · exact .quiet
      · split
        · exact .quiet
        · exact reportStoppedAndAdoptMpvEntry_handles { run with nextUpJump := false } ..
    · split at ended
      · cases ended
        exact view_endRun (PlaybackRun.markReported (settleForcedJump { run with nextUpJump := false }).2 .sent) _ ▸ .stops _
      · rename_i inside
        obtain ⟨_, result, same⟩ := Option.map_eq_some_iff.mp ended
        cases same
        have told := @advanceToNextTrack_handles _ next answers reason _ _ _ (Nat.not_le.mp inside) ready result
        exact told

theorem onEndFile_handles {reason : EndFileReason} {goesOn : Bool} (ended : run.onEndFile answers reason = some (goesOn, next)) :
    run.view.Handles (.endFile reason) next.view := by
  unfold onEndFile at ended
  split at ended
  · cases ended
    exact .quiet
  · split at ended
    · rename_i waits
      cases ended
      have draining : run.itemLifecycle.loadState = .drainingReplacedFile := by
        cases state : run.itemLifecycle.loadState with
        | ready => simp [loadIsReady, state] at waits
        | drainingReplacedFile => rfl
      have drained : run.onDrained.view = { run.view with loadState := .ready } := by
        simp [view, onDrained, ItemLifecycleState.onDrained, draining]
      exact drained ▸ .drains
    · rename_i ready
      split at ended
      · split at ended
        · rename_i quit
          cases ended
          subst quit
          have marked := run.view_reportStopIfUnreported
          exact marked ▸ .marks _
        · exact onEndFileQueue_handles (by simpa using ready) ended
      · cases ended
        unfold onEndFileStandalone
        dsimp only
        rw [view_endRun]
        have pinned : (if reason = .quit then run.pinStopRuntime else run).view = run.view := by
          split <;> rfl
        exact pinned ▸ .stops _

theorem onMpvError_handles (run : PlaybackRun) (failure : MpvFailure) :
    run.view.Handles event (run.onMpvError failure).2.view := by
  have judged := run.view_lifecycle (run.runLifecycle.loadFailed_shown run.runPosition)
  unfold onMpvError stopRunWithError
  split
  · exact run.view_endRun _ ▸ .stops _
  · split <;> rename_i result <;> rw [result] at judged
    · exact judged ▸ .quiet
    · rw [view_endRun]
      exact judged ▸ .stops _
  · split
    · exact run.view_endRun _ ▸ .stops _
    · exact .quiet

theorem onShutdown_handles (run : PlaybackRun) : run.view.Handles .shutdown run.onShutdown.view := by
  have ended (stopping : PlaybackRun) (slot : Option QueueSlotId) :
      ∃ outcome, (stopping.shutdownRun slot).view = stopping.view.stop outcome := by
    unfold shutdownRun
    split <;> exact ⟨_, view_endRun _ _⟩
  obtain ⟨outcome, stopped⟩ := ended { run with stopSlot := none }.reportStopIfUnreported (run.stopSlot.or run.activeSlotId)
  rw [view_reportStopIfUnreported] at stopped
  unfold onShutdown
  dsimp only
  split
  · show run.view.Handles .shutdown (RunView.tell (view _) [.mpvQuit])
    rw [stopped]
    exact .quits outcome
  · rw [stopped]
    exact .stops outcome

theorem settleIdleJumpOnRestart_view {positionTicks : Int} {settled : Option (QueueSlotId × Option Transition)}
    (result : run.settleIdleJumpOnRestart positionTicks = (settled, next)) :
    settled = none ∧ next.view = run.view ∨ ∃ idx slotId transition,
      settled = some (slotId, transition) ∧ run.queue.slotIds[idx]? = some slotId ∧
        next.view = run.view.activate idx slotId := by
  have shown := run.runLifecycle.jumpSettledOnRestart_shown
  unfold settleIdleJumpOnRestart at result
  split at result
  · cases result
    exact .inl ⟨rfl, rfl⟩
  · rename_i slotId transition lifecycle judged
    rw [judged] at shown
    have kept := run.view_lifecycle shown
    dsimp only at result
    split at result
    · cases result
      exact .inl ⟨rfl, kept⟩
    · rename_i index found
      have there : run.queue.slotIds[index]? = some slotId := Keyed.key_at_index found
      split at result <;> rename_i moved set <;> cases result
      · rcases view_setActiveIndex set with ⟨-, rfl⟩ | ⟨_, -, other, -⟩
        · exact .inl ⟨rfl, kept⟩
        · cases other
      · rcases view_setActiveIndex set with ⟨other, -⟩ | ⟨named, found', -, taken⟩
        · cases other
        · cases there.symm.trans found'
          refine .inr ⟨index, slotId, transition, rfl, there, ?_⟩
          rw [kept] at taken
          exact (view_reportActiveItem { moved with lastValidPos := positionTicks }).trans taken

theorem onPlaybackRestart_handles (run : PlaybackRun) (answers : Answers) :
    run.view.Handles event (run.onPlaybackRestart answers).view := by
  have started (chosen : PlaybackRun) : ({ chosen.send .outputStarted with
      pendingInitialPlaylistLayout := false }.initTracksOnce).view = chosen.view.tell [.outputStarted] :=
    view_initTracksOnce _
  have plain : PlayerEvent.outputStarted.Plain run.view.identity := ⟨rfl, rfl, by simp [PlayerEvent.label?]⟩
  unfold onPlaybackRestart
  dsimp only
  cases result : settleIdleJumpOnRestart { run with runLifecycle := run.runLifecycle.playbackStarted } answers.positionTicks with
  | mk settled chosen =>
    rcases settleIdleJumpOnRestart_view result with
      ⟨rfl, kept⟩ | ⟨idx, slotId, transition, rfl, there, taken⟩
    · dsimp only
      rw [started, kept]
      exact .tells _ plain
    · dsimp only
      obtain ⟨shown, told⟩ := ({ chosen.send .outputStarted with
          pendingInitialPlaylistLayout := false }.initTracksOnce).view_emitTrackChanged slotId
        transition
      rw [told, started, taken, RunView.tell_tell]
      refine .moves [.outputStarted] _ there fun event member => ?_
      rw [List.mem_singleton.mp member]
      exact plain

/-- What handling an event does to a run shows in its view as one of the effects. -/
theorem handleMpvEvent_handles {exits : Bool} (handled : run.handleMpvEvent answers event = some (exits, next)) :
    run.view.Handles event next.view := by
  cases event with
  | playlistPos pos =>
    cases handled
    exact run.onPlaylistPosChanged_handles pos _
  | playlistCount count =>
    cases handled
    split
    · rename_i ready
      exact onPlaylistCountChanged_handles ready rfl
    · exact .quiet
  | timePos ticks started duration =>
    cases handled
    exact .quiet
  | playbackRestart =>
    cases handled
    exact run.onPlaybackRestart_handles answers
  | endFile reason =>
    simp only [handleMpvEvent, Option.map_eq_some_iff, Prod.mk.injEq] at handled
    obtain ⟨⟨goesOn, ended⟩, result, -, rfl⟩ := handled
    exact onEndFile_handles result
  | nextUpPlay =>
    cases handled
    exact .tells _ ⟨rfl, rfl, by simp [PlayerEvent.label?]⟩
  | shutdown =>
    cases handled
    exact run.onShutdown_handles
  | failed failure =>
    have told := @onMpvError_handles (.failed failure) run failure
    rw [show run.onMpvError failure = (exits, next) from Option.some.inj handled] at told
    exact told

end PlaybackRun

end Mbv.Player
