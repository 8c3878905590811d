import Mbv.Player.Run.CommandEffects

namespace Mbv.Player

open Mbv.Queue List

structure Place where
  queue : ExecutionSequence
  currentIdx : Nat
  projection : Projection

def Place.Coherent (place : Place) : Prop :=
  place.projection = .playlist →
    place.queue.WellFormed ∧
      ∀ id, place.queue.activeSlotId = some id →
        place.queue.slotIndex id = some place.currentIdx

def PlaybackRun.place (run : PlaybackRun) : Place :=
  ⟨run.queue, run.currentIdx, run.runLifecycle.projection⟩

def PlaybackRun.Coherent (run : PlaybackRun) : Prop := run.place.Coherent

namespace Place

variable {place : Place} {queue : ExecutionSequence} {idx : Nat} {projection : Projection}

theorem Coherent.intro (wellFormed : queue.WellFormed)
    (located : ∀ id, queue.activeSlotId = some id → queue.slotIds.idxOf id = idx) :
    Coherent ⟨queue, idx, projection⟩ := by
  refine fun _ => ⟨wellFormed, fun id marker => ?_⟩
  rw [ExecutionSequence.slotIndex_of_mem (wellFormed.active id marker)]
  exact congrArg some (located id marker)

theorem Coherent.wellFormed (coherent : place.Coherent) (playlist : place.projection = .playlist) : place.queue.WellFormed :=
  (coherent playlist).1

theorem Coherent.located (coherent : place.Coherent) (playlist : place.projection = .playlist)
    {id : QueueSlotId} (marker : place.queue.activeSlotId = some id) :
    id ∈ place.queue.slotIds ∧ place.queue.slotIds.idxOf id = place.currentIdx := by
  obtain ⟨wellFormed, located⟩ := coherent playlist
  have member := wellFormed.active id marker
  have index := located id marker
  rw [ExecutionSequence.slotIndex_of_mem member] at index
  exact ⟨member, Option.some.inj index⟩

theorem coherent_setActive (wellFormed : queue.WellFormed) {id : QueueSlotId} (there : queue.slotIds[idx]? = some id) :
    Coherent ⟨{ queue with activeSlotId := some id }, idx, projection⟩ := by
  have same := idxOf_eq_of_getElem? wellFormed.distinct there
  refine Coherent.intro ⟨wellFormed.distinct, ?_⟩ ?_
  · rintro other marker
    cases marker
    exact mem_of_getElem? there
  · rintro other marker
    cases marker
    exact same

theorem Coherent.moveSlot (coherent : place.Coherent) (playlist : place.projection = .playlist)
    {slotId : QueueSlotId} {source target : Nat}
    (found : place.queue.slotIndex slotId = some source) (inside : target < place.queue.len) :
    Coherent ⟨(place.queue.moveSlot slotId target).2, shiftIndexForMove place.currentIdx source target, place.projection⟩ := by
  have wellFormed := coherent.wellFormed playlist
  have moved := (ExecutionSequence.slotIndex_some found).1
  refine Coherent.intro (wellFormed.moveSlot slotId target) fun id marker => ?_
  rw [ExecutionSequence.moveSlot_active] at marker
  obtain ⟨member, index⟩ := coherent.located playlist marker
  have start : place.queue.slotIds.idxOf slotId = source := by
    rw [ExecutionSequence.slotIndex_of_mem moved] at found
    exact Option.some.inj found
  rw [← ExecutionSequence.slotIds_length] at inside
  rw [ExecutionSequence.moveSlot_slotIds, idxOf_moveTo wellFormed.distinct member moved inside, index, start]
  rfl

theorem Coherent.removeActive (coherent : place.Coherent) (playlist : place.projection = .playlist) {slotId : QueueSlotId}
    (marker : place.queue.activeSlotId = some slotId) :
    Coherent ⟨place.queue.removeActiveSlotConfirmed slotId, place.currentIdx, place.projection⟩ := by
  have wellFormed := coherent.wellFormed playlist
  refine Coherent.intro (wellFormed.removeActiveSlotConfirmed slotId) fun id left => ?_
  rw [ExecutionSequence.removeActiveSlotConfirmed_active (wellFormed.active slotId marker), if_pos marker] at left
  cases left

/-- Removing another slot leaves the ordinal right exactly when that slot is not before the
    active one. -/
theorem Coherent.removeSlot_iff (coherent : place.Coherent) (playlist : place.projection = .playlist) {slotId id : QueueSlotId}
    (marker : place.queue.activeSlotId = some id) (other : id ≠ slotId) :
    (place.queue.removeSlot slotId).slotIds.idxOf id = place.currentIdx ↔
      ¬ place.queue.slotIds.idxOf slotId < place.queue.slotIds.idxOf id := by
  have wellFormed := coherent.wellFormed playlist
  obtain ⟨member, index⟩ := coherent.located playlist marker
  have kept : place.queue.activeSlotId ≠ some slotId := by simpa [marker] using other
  rw [ExecutionSequence.removeSlot_slotIds, if_neg kept, idxOf_erase_of_ne wellFormed.distinct member other, index]
  split <;> omega

theorem Coherent.append (coherent : place.Coherent) (playlist : place.projection = .playlist)
    {slotId : QueueSlotId} {item : QueueItem} {next : ExecutionSequence}
    (appended : place.queue.appendWithId slotId item = some next) :
    Coherent ⟨next, place.currentIdx, place.projection⟩ := by
  have wellFormed := coherent.wellFormed playlist
  obtain ⟨ids, active⟩ := ExecutionSequence.appendWithId_spec appended
  refine Coherent.intro (wellFormed.appendWithId appended) fun id marker => ?_
  obtain ⟨member, index⟩ := coherent.located playlist (active ▸ marker)
  rw [ids, idxOf_append_of_mem member]
  exact index

end Place

namespace RunView

variable {view after : RunView} {event : MpvEvent}

def place (view : RunView) : Place := ⟨view.queue, view.currentIdx, view.projection⟩

theorem place_stop (outcome : StopOutcome) : (view.stop outcome).place = view.place := by
  unfold stop
  split <;> rfl

theorem coherent_of_activeFile (active : view.projection = .activeFile) : view.place.Coherent :=
  fun playlist => by cases active.symm.trans playlist

theorem coherent_shifted (shifts : Relation.ReflTransGen Shifts view after)
    (coherent : view.place.Coherent) : after.place.Coherent := by
  induction shifts with
  | refl => exact coherent
  | tail _ moved ih =>
    cases moved with
    | moves found inside => exact fun playlist => ih.moveSlot playlist found inside playlist

theorem Handles.coherent (handles : view.Handles event after) (coherent : view.place.Coherent) :
    after.place.Coherent := by
  cases handles with
  | quiet | tells | drains | marks => exact coherent
  | stops outcome => exact (place_stop outcome).symm ▸ coherent
  | quits outcome =>
    have kept : ((view.stop outcome).tell [.mpvQuit]).place = view.place := place_stop outcome
    exact kept.symm ▸ coherent
  | moves told transition there =>
    exact fun playlist => Place.coherent_setActive (coherent.wellFormed playlist) there playlist
  | loads idx told transition activeFile =>
    exact fun playlist => nomatch activeFile.symm.trans playlist
  | loadFails slotId outcome activeFile =>
    intro playlist
    rw [place_stop] at playlist
    cases activeFile.symm.trans playlist
  | clamps told plain past =>
    intro playlist
    refine Place.Coherent.intro (coherent.wellFormed playlist) (fun id marker => ?_) playlist
    obtain ⟨member, index⟩ := coherent.located playlist marker
    have inside := idxOf_lt_length_of_mem member
    rw [ExecutionSequence.slotIds_length] at inside
    change view.queue.slotIds.idxOf id = view.currentIdx at index
    change view.queue.slotIds.idxOf id < view.queue.len at inside
    omega
  | prunes queue told plain playlist ready short wellFormed =>
    have pruned := wellFormed (coherent.wellFormed playlist)
    refine Place.Coherent.intro pruned fun id marker => ?_
    change queue.activeSlotId = some id at marker
    change _ = (queue.activeSlotId.bind queue.slotIndex).getD view.currentIdx
    rw [marker, Option.bind_some, ExecutionSequence.slotIndex_of_mem (pruned.active id marker)]
    rfl

end RunView

namespace PlaybackRun

variable {run : PlaybackRun}

theorem installActiveProjection_place {next : PlaybackRun} {answers : Answers} {slotId : QueueSlotId} {error : Option String}
    (installed : run.installActiveProjection answers slotId = (error, next)) :
    next.place = run.place := congrArg RunView.place (installed_view installed).2

theorem place_endRun (run : PlaybackRun) (outcome : StopOutcome) : (run.endRun outcome).place = run.place :=
  (congrArg RunView.place (run.view_endRun outcome)).trans (RunView.place_stop outcome)

theorem place_initializeQueueStart (run : PlaybackRun) (hadPreviousQueue : Bool) (active : QueueItem) :
    (run.initializeQueueStart hadPreviousQueue active).place = run.place :=
  congrArg RunView.place (run.view_initializeQueueStart hadPreviousQueue active)

theorem place_stopForActiveFileFailure (run : PlaybackRun) (failedSlot : Option QueueSlotId)
    (positionTicks : Int) (error : String) :
    (run.stopForActiveFileFailure failedSlot positionTicks error).place = run.place := by
  obtain ⟨outcome, stopped⟩ := run.view_stopForActiveFileFailure failedSlot positionTicks error
  exact (congrArg RunView.place stopped).trans (RunView.place_stop outcome)

theorem reportJumpedItem_place (run : PlaybackRun) : run.reportJumpedItem.place = run.place :=
  congrArg RunView.place run.view_reportJumpedItem

theorem removePlaylistSlot_place (run : PlaybackRun) (slotId : QueueSlotId) (idx : Nat) :
    (run.removePlaylistSlot slotId idx).place =
      ⟨if run.activeSlotId = some slotId then run.queue.removeActiveSlotConfirmed slotId
        else run.queue.removeSlot slotId, run.currentIdx, run.runLifecycle.projection⟩ :=
  congrArg RunView.place (run.view_removePlaylistSlot slotId idx)

theorem selectActiveSlot_projection (run : PlaybackRun) (answers : Answers) (slotId : QueueSlotId) :
    (run.selectActiveSlot answers slotId).2.runLifecycle.projection =
      run.runLifecycle.projection := by
  cases selected : run.selectActiveSlot answers slotId with
  | mk error chosen =>
    rcases view_selectActiveSlot selected with ⟨-, -, -, -, idx, taken⟩ | ⟨-, kept | ⟨-, loaded⟩⟩
    · exact congrArg RunView.projection taken
    · exact congrArg RunView.projection kept
    · exact congrArg RunView.projection loaded

theorem removeActiveFileSlot_projection (run : PlaybackRun) (answers : Answers) (slotId : QueueSlotId) (idx : Nat) :
    (run.removeActiveFileSlot answers slotId idx).runLifecycle.projection =
      run.runLifecycle.projection := by
  unfold removeActiveFileSlot
  split
  · rfl
  · split
    · rfl
    · rename_i next _
      have selected := selectActiveSlot_projection run answers next
      split <;> rename_i result <;> rw [result] at selected <;> exact selected

def removesBeforeActive (run : PlaybackRun) (slotId : QueueSlotId) : Bool :=
  match run.queue.slotIndex slotId, run.activeSlotId.bind run.queue.slotIndex with
  | some removed, some active => removed < active
  | _, _ => false

theorem removesBeforeActive_iff {slotId id : QueueSlotId} (removed : slotId ∈ run.queue.slotIds)
    (member : id ∈ run.queue.slotIds) (marker : run.activeSlotId = some id) :
    run.removesBeforeActive slotId = true ↔ run.queue.slotIds.idxOf slotId < run.queue.slotIds.idxOf id := by
  simp [removesBeforeActive, marker, ExecutionSequence.slotIndex_of_mem removed, ExecutionSequence.slotIndex_of_mem member]

variable {items : List ExecSlot}

theorem appendSlots_isSome {queue : ExecutionSequence} : (appendSlots queue items).isSome ↔
      (items.map (·.slotId)).Nodup ∧ ∀ id ∈ items.map (·.slotId), id ∉ queue.slotIds := by
  induction items generalizing queue with
  | nil => simp [appendSlots]
  | cons slot items ih =>
    rw [appendSlots, map_cons, nodup_cons, forall_mem_cons]
    cases appended : queue.appendWithId slot.slotId slot.item with
    | none =>
      have repeated : ¬ slot.slotId ∉ queue.slotIds := by
        rw [← @ExecutionSequence.appendWithId_isSome queue slot.slotId slot.item, appended]
        exact Bool.false_ne_true
      simp [repeated]
    | some longer =>
      have fresh := ExecutionSequence.appendWithId_isSome.mp (Option.isSome_of_mem appended)
      rw [Option.bind_some, ih, (ExecutionSequence.appendWithId_spec appended).1]
      simp only [mem_append, mem_singleton, not_or]
      constructor
      · rintro ⟨distinct, later⟩
        exact ⟨⟨fun member => (later _ member).2 rfl, distinct⟩, fresh, fun id member => (later id member).1⟩
      · rintro ⟨⟨other, distinct⟩, -, later⟩
        refine ⟨distinct, fun id member => ⟨later id member, ?_⟩⟩
        rintro rfl
        exact other member

theorem appendSlots_coherent {queue next : ExecutionSequence} {idx : Nat} (coherent : Place.Coherent ⟨queue, idx, .playlist⟩)
    (appended : appendSlots queue items = some next) :
    Place.Coherent ⟨next, idx, .playlist⟩ := by
  induction items generalizing queue with
  | nil =>
    cases appended
    exact coherent
  | cons slot items ih =>
    rw [appendSlots, Option.bind_eq_some_iff] at appended
    obtain ⟨longer, first, rest⟩ := appended
    exact ih (Place.Coherent.append coherent rfl first) rest

theorem buildQueue_coherent {queue : ExecutionSequence} {projection : Projection}
    (built : buildQueue items startIdx = some queue) :
    Place.Coherent ⟨queue, startIdx, projection⟩ := by
  obtain ⟨wellFormed, ids⟩ := ExecutionSequence.fromSlotItems_spec built
  refine Place.Coherent.intro wellFormed fun id marker => ?_
  unfold buildQueue ExecutionSequence.fromSlotItems at built
  split at built
  · cases built
    have start := (Option.filter_eq_some_iff.mp marker).1
    apply idxOf_eq_of_getElem? wellFormed.distinct
    rw [ids]
    simpa using start
  · cases built

theorem handleCommand_coherent (coherent : run.Coherent) {next : PlaybackRun} {answers : Answers}
    {command : PlayerCommand} {cancels : Bool}
    (behind : ∀ slotId, command = .queueRemove slotId → run.runLifecycle.projection = .playlist →
      run.removesBeforeActive slotId = false)
    (handled : run.handleCommand answers command = some (cancels, next)) : next.Coherent := by
  have obeys := handleCommand_obeys handled
  change next.view.place.Coherent
  have started : (run.acceptedView command).place.Coherent := coherent
  generalize next.view = after at obeys ⊢
  cases obeys with
  | keeps | reloadFails | relents => exact coherent
  | jumps idx transition displaces =>
    refine RunView.coherent_of_activeFile ?_
    rw [RunView.displaces, Bool.and_eq_true, decide_eq_true_eq] at displaces
    exact displaces.1
  | @jumpFails _ _ _ _ added outcome | @promoteFails _ added outcome =>
    exact (@RunView.place_stop (RunView.displace _ added) outcome).symm ▸ coherent
  | appends named built =>
    cases projection : run.runLifecycle.projection with
    | activeFile => exact RunView.coherent_of_activeFile projection
    | playlist =>
      unfold Coherent place at coherent
      rw [projection] at coherent
      exact fun playlist => appendSlots_coherent coherent built rfl
  | promotes => exact RunView.coherent_of_activeFile rfl
  | @removes slotId idx playlist found =>
    have wellFormed := started.wellFormed playlist
    have removed := (ExecutionSequence.slotIndex_some found).1
    by_cases own : run.activeSlotId = some slotId
    · have dropped : run.view.withoutSlot slotId = run.queue.removeActiveSlotConfirmed slotId := if_pos own
      show Place.Coherent ⟨run.view.withoutSlot slotId, run.currentIdx, _⟩
      rw [dropped]
      exact started.removeActive playlist own
    · have dropped : run.view.withoutSlot slotId = run.queue.removeSlot slotId := if_neg own
      show Place.Coherent ⟨run.view.withoutSlot slotId, run.currentIdx, _⟩
      rw [dropped]
      refine Place.Coherent.intro (wellFormed.removeSlot slotId) fun id marker => ?_
      rw [ExecutionSequence.removeSlot_active] at marker
      have member := wellFormed.active id marker
      have other : id ≠ slotId := fun same => own (same ▸ marker)
      refine (started.removeSlot_iff playlist marker other).mpr fun before => ?_
      have ahead := (removesBeforeActive_iff removed member marker).mpr before
      exact Bool.false_ne_true ((behind slotId rfl playlist).symm.trans ahead)
  | removesLoaded currentIdx mpv activeFile | reloads queue currentIdx neighbor activeFile =>
    exact RunView.coherent_of_activeFile activeFile
  | moves shifts | reorders shifts => exact RunView.coherent_shifted shifts coherent
  | loadsNew built => exact buildQueue_coherent built
  | clears =>
    exact Place.Coherent.intro (ExecutionSequence.wellFormed_clear run.queue) fun id marker => by cases marker
  | submits projection _ _ built _ _ ends =>
    rcases ends with rfl | ⟨outcome, rfl⟩
    · exact buildQueue_coherent built
    · rw [RunView.place_stop]
      exact buildQueue_coherent built

end PlaybackRun

/-- The inputs that leave the ordinal on the active slot: every input but a playlist removal of a
    slot in front of it. -/
def RunInput.keepsOrdinal (thread : RunThread) : RunInput → Bool
  | .command _ (.queueRemove slotId) =>
    thread.run.runLifecycle.isActiveFile || !thread.run.removesBeforeActive slotId
  | _ => true

theorem RunThread.step_coherent {thread : RunThread} {input : RunInput}
    (coherent : thread.run.Coherent) (keeps : input.keepsOrdinal thread = true) :
    (thread.step input).run.Coherent := by
  unfold RunThread.step
  split
  · exact coherent
  · cases input with
    | command answers command =>
      dsimp only
      split <;> rename_i handled
      · refine PlaybackRun.handleCommand_coherent coherent ?_ handled
        rintro slotId rfl playlist
        simpa [RunInput.keepsOrdinal, RunLifecycle.isActiveFile, playlist] using keeps
      · exact coherent
    | stopRequest now =>
      dsimp only
      split <;> exact coherent
    | quitTimer now =>
      dsimp only
      split
      · split
        · obtain ⟨outcome, stopped⟩ := thread.run.view_finalizeQuit
          have kept : thread.run.finalizeQuit.place = thread.run.place :=
            (congrArg RunView.place stopped).trans (RunView.place_stop outcome)
          exact (congrArg Place.Coherent kept).mpr coherent
        · exact coherent
      · exact coherent
    | event answers event =>
      dsimp only
      split <;> rename_i handled
      · exact (PlaybackRun.handleMpvEvent_handles handled).coherent coherent
      · exact coherent
    | advanceSequenceGeneration => exact coherent
    | seedStatus item idx queueLen => exact coherent

namespace PlaybackRun

variable {run : PlaybackRun}

theorem newFromSlotItems_coherent {items : List ExecSlot} {init : RunInit}
    (started : newFromSlotItems items init = some run) : run.Coherent := by
  rw [newFromSlotItems, Option.bind_eq_some_iff] at started
  obtain ⟨queue, built, started⟩ := started
  rw [initFromQueue, Option.map_eq_some_iff] at started
  obtain ⟨initial, -, rfl⟩ := started
  have wellFormed := (ExecutionSequence.fromSlotItems_spec built).1
  refine Place.Coherent.intro wellFormed fun other same => ?_
  -- An active start entry lies inside the queue, so the clamp leaves the start index alone.
  have located := @buildQueue_coherent _ _ _ Projection.playlist built
  obtain ⟨member, index⟩ := located.located rfl same
  have inside := idxOf_lt_length_of_mem member
  rw [ExecutionSequence.slotIds_length] at inside
  change queue.slotIds.idxOf other = init.startIdx at index
  change queue.slotIds.idxOf other < queue.len at inside
  show queue.slotIds.idxOf other = min init.startIdx (queue.len - 1)
  omega

/-- The slot after `slotId` in queue order. -/
def following (run : PlaybackRun) (slotId : QueueSlotId) : Option QueueSlotId :=
  run.queue.slotIds[run.queue.slotIds.idxOf slotId + 1]?

/-- Nothing but the end of the track is left to handle: no jump, no quit, no load in flight. -/
structure Settled (run : PlaybackRun) : Prop where
  playlist : run.runLifecycle.projection = .playlist
  idle : run.runLifecycle.jump = .idle
  ready : run.loadIsReady = true

variable {id : QueueSlotId}

theorem slot_isSome (member : id ∈ run.queue.slotIds) : ∃ slot, run.queue.slot id = some slot ∧ slot.slotId = id := by
  obtain ⟨slot, found⟩ := Option.isSome_iff_exists.mp (Keyed.get_isSome.mpr member)
  exact ⟨slot, found, (Keyed.get_key found).1⟩

theorem settleForcedJump_idle (idle : run.runLifecycle.jump = .idle) :
    run.settleForcedJump = ((run.currentIdx + 1, none), run) := by
  have lifecycle : { run.runLifecycle with jump := .idle } = run.runLifecycle := by
    rw [← idle]
  simp [settleForcedJump, RunLifecycle.jumpTargetSlot, RunLifecycle.jumpSettledOnEndFile,
    RunLifecycle.settledArm, neighborFallback, idle, lifecycle]

theorem setActiveIndex_moves {idx : Nat} (there : run.queue.slotIds[idx]? = some id) :
    ∃ chosen, run.setActiveIndex idx = (true, chosen) ∧ chosen.activeSlotId = some id ∧
      (∃ item, chosen.activeItem = some item) ∧ chosen.events = run.events ∧
      chosen.runIdentity = run.runIdentity ∧ chosen.runLifecycle = run.runLifecycle := by
  rcases setActiveIndex_spec run idx with ⟨absent, -⟩ | ⟨found, same, set⟩
  · rw [slotIdAt_eq, there] at absent
    cases absent
  · rw [slotIdAt_eq, there] at same
    cases same
    obtain ⟨slot, known, -⟩ := @slot_isSome run id (mem_of_getElem? there)
    refine ⟨_, set, rfl, ⟨slot.item, ?_⟩, rfl, rfl, rfl⟩
    have kept : ExecutionSequence.slot { run.queue with activeSlotId := some id } id = some slot := known
    simp [activeItem, syncStatusPosition, ExecutionSequence.activeSlot, kept]

theorem advanceToNextTrack_spec (playlist : run.runLifecycle.projection = .playlist) {nextIdx : Nat}
    (there : run.queue.slotIds[nextIdx]? = some id) (answers : Answers) (stop : QueueEndStop) :
    ∃ next, run.advanceToNextTrack answers stop nextIdx none = some next ∧ next.activeSlotId = some id ∧
      next.events = run.events ++ [.trackCompleted stop.completedSlotId run.runIdentity stop.decision.completedPos
            stop.decision.playedOut stop.decision.consumeTrack,
          .trackChanged id none] := by
  have inactive : run.runLifecycle.isActiveFile = false := by
    simp [RunLifecycle.isActiveFile, playlist]
  obtain ⟨chosen, set, marker, ⟨item, active⟩, events, identity, lifecycle⟩ := setActiveIndex_moves there
  have selected : run.selectNext answers nextIdx = (true, chosen) := by
    simp [selectNext, inactive, set]
  have completed (stop : QueueEndStop) : (chosen.loadActiveItemState.completeTrack stop item).activeSlotId = some id := marker
  refine ⟨(chosen.loadActiveItemState.completeTrack stop item).emitTrackChanged id none, ?_, marker, ?_⟩
  · simp [advanceToNextTrack, selected, active, completed]
  · simp [emitTrackChanged, completeTrack, send, startReporting, setNextItemStatus, loadActiveItemState, events, identity]

theorem naturalEnd_follows (coherent : run.Coherent) (settled : run.Settled)
    (queue : run.origin = .queue) (running : run.quitAt = none) {id next : QueueSlotId}
    (marker : run.activeSlotId = some id) (follows : run.following id = some next)
    (answers : Answers) :
    ∃ advanced completedPos played consume,
      run.onEndFile answers .eof = some (false, advanced) ∧ advanced.activeSlotId = some next ∧
        advanced.events = run.events ++ [.trackCompleted id run.runIdentity completedPos played consume,
            .trackChanged next none] := by
  obtain ⟨member, index⟩ := Place.Coherent.located coherent settled.playlist marker
  obtain ⟨completed, known, own⟩ := slot_isSome member
  have there : run.queue.slotIds[run.currentIdx + 1]? = some next := by
    rw [← show run.queue.slotIds.idxOf id = run.currentIdx from index]
    exact follows
  have inside : run.currentIdx + 1 < run.queueLen := by
    have bound := (List.getElem?_eq_some_iff.mp there).1
    rwa [ExecutionSequence.slotIds_length] at bound
  have cleared := @settleForcedJump_idle { run with nextUpJump := false } settled.idle
  obtain ⟨advanced, result, moved, events⟩ :=
    @advanceToNextTrack_spec { run with nextUpJump := false } _ settled.playlist _ there answers
      ⟨completed.slotId, run.endedTrackDecision .eof completed.item⟩
  refine ⟨advanced, _, _, _, ?_, moved, own ▸ events⟩
  have active : (run.activeSlotId.bind fun slotId => run.queue.slot slotId) = some completed := by
    rw [marker, Option.bind_some, known]
  have shown (arm : JumpArm) (finished : Bool) : isSupersededJumpEndFile .eof arm finished = false := by
    simp [isSupersededJumpEndFile]
  have short : ¬ run.currentIdx + 1 ≥ queueLen { run with nextUpJump := false } := Nat.not_le.mpr inside
  have ended : run.onEndFileQueue answers .eof run.activeSlotId = some (false, advanced) := by
    unfold onEndFileQueue
    rw [active]
    simp only [shown, cleared]
    rw [if_neg (by simp), if_neg short, result]
    rfl
  simpa [onEndFile, running, settled.ready, queue] using ended

theorem adoptMpvEntry_spec {index : Nat} (there : run.queue.slotIds[index]? = some id) (mpvPosTicks : Int) :
    ∃ next, run.adoptMpvEntry index mpvPosTicks = (true, next) ∧ next.activeSlotId = some id ∧
      next.events = run.events ∧ next.runIdentity = run.runIdentity := by
  obtain ⟨chosen, set, marker, ⟨item, active⟩, events, identity, -⟩ := setActiveIndex_moves there
  unfold adoptMpvEntry
  rw [set]
  dsimp only
  generalize positioned : (if mpvPosTicks > 0 then
    { chosen.loadActiveItemState with lastValidPos := mpvPosTicks }
    else chosen.loadActiveItemState) = next
  have kept : next.activeItem = some item ∧ next.activeSlotId = some id ∧
      next.events = run.events ∧ next.runIdentity = run.runIdentity := by
    rw [← positioned]
    split <;> exact ⟨active, marker, events, identity⟩
  obtain ⟨same, marker, events, identity⟩ := kept
  have reported : (next.setNextItemStatus item).reportActiveItem = (next.setNextItemStatus item).startReporting item := by
    have shown : (next.setNextItemStatus item).activeItem = some item := same
    simp [reportActiveItem, shown]
  rw [same]
  dsimp only
  rw [reported]
  exact ⟨_, rfl, marker, events, identity⟩

theorem adoption_names_active (coherent : run.Coherent) (settled : run.Settled)
    (laidOut : run.pendingInitialPlaylistLayout = false) (marker : run.activeSlotId = some id)
    {pos : Int} {index : Nat}
    (diverged : divergentEntry pos run.currentIdx run.queueLen = some index) (mpvPosTicks : Int) :
    ∃ adopted, run.slotIdAt index = some adopted ∧ (run.onPlaylistPosChanged pos mpvPosTicks).events = run.events ++
        [.trackCompleted id run.runIdentity run.lastValidPos false false, .trackChanged adopted none] := by
  obtain ⟨member, here⟩ := Place.Coherent.located coherent settled.playlist marker
  have abandoned : run.slotIdAt run.currentIdx = some id := by
    rw [slotIdAt_eq, ← show run.queue.slotIds.idxOf id = run.currentIdx from here]
    exact List.getElem?_idxOf member
  have inside : index < run.queueLen := by
    unfold divergentEntry at diverged
    split at diverged
    · cases diverged
    · split at diverged
      · rename_i apart
        cases diverged
        exact apart.1
      · cases diverged
  have bound : index < run.queue.slotIds.length := by
    rw [ExecutionSequence.slotIds_length]
    exact inside
  have there : run.queue.slotIds[index]? = some run.queue.slotIds[index] := List.getElem?_eq_getElem bound
  refine ⟨run.queue.slotIds[index], by rw [slotIdAt_eq, there], ?_⟩
  obtain ⟨next, adopted, active, events, identity⟩ := @adoptMpvEntry_spec (run.markReported .sent) _ _ there mpvPosTicks
  have inactive : run.runLifecycle.isActiveFile = false := by
    simp [RunLifecycle.isActiveFile, settled.playlist]
  have announced : run.onPlaylistPosChanged pos mpvPosTicks = next.announceAdoptedEntry (some id) run.lastValidPos := by
    simp [onPlaylistPosChanged, inactive, laidOut, settled.ready, settled.idle, JumpArm.isIdle,
      diverged, reportStoppedAndAdoptMpvEntry, adopted, abandoned]
  have told : (next.send (.trackCompleted id next.runIdentity run.lastValidPos false
      false)).activeSlotId = some run.queue.slotIds[index] := active
  have before : next.events = run.events := events
  have same : next.runIdentity = run.runIdentity := identity
  rw [announced]
  unfold announceAdoptedEntry
  dsimp only
  rw [told]
  simp [send, before, same]

structure OnCourse (run : PlaybackRun) : Prop where
  located : run.runLifecycle.projection = .playlist → ∀ id, run.activeSlotId = some id →
    run.queue.slotIndex id = some run.currentIdx
  follows : run.Settled → run.origin = .queue → run.quitAt = none →
    ∀ id next, run.activeSlotId = some id → run.following id = some next → ∀ answers,
      ∃ advanced completedPos played consume,
        run.onEndFile answers .eof = some (false, advanced) ∧
          advanced.activeSlotId = some next ∧
          advanced.events = run.events ++
            [.trackCompleted id run.runIdentity completedPos played consume,
              .trackChanged next none]
  named : run.Settled → run.pendingInitialPlaylistLayout = false →
    ∀ id, run.activeSlotId = some id → ∀ pos index,
      divergentEntry pos run.currentIdx run.queueLen = some index → ∀ mpvPosTicks,
        ∃ adopted, run.slotIdAt index = some adopted ∧
          (run.onPlaylistPosChanged pos mpvPosTicks).events = run.events ++
            [.trackCompleted id run.runIdentity run.lastValidPos false false,
              .trackChanged adopted none]

theorem Coherent.onCourse (coherent : run.Coherent) : run.OnCourse where
  located playlist := (coherent playlist).2
  follows settled queue running _ _ marker next answers := naturalEnd_follows coherent settled queue running marker next answers
  named settled laidOut _ marker _ _ diverged mpvPosTicks :=
    adoption_names_active coherent settled laidOut marker diverged mpvPosTicks

/-- Every run that removes no slot in front of the active one stays on course. -/
theorem run_coordinate_coherence {items : List ExecSlot} {init : RunInit}
    {inputs : List RunInput} (started : newFromSlotItems items init = some run)
    (keeps : RunThread.machine.Along (fun thread input => input.keepsOrdinal thread = true)
      { run := run } inputs) :
    (RunThread.machine.run { run := run } inputs).run.OnCourse := by
  have start : run.Coherent := newFromSlotItems_coherent started
  have stays := Machine.run_invariant
    (fun thread input coherent keeps => @RunThread.step_coherent thread input coherent keeps)
    start keeps
  exact Coherent.onCourse stays

def middleOfThree : List ExecSlot × RunInit :=
  ([1, 2, 3].map fun raw => ⟨⟨raw⟩, .twitch ⟨"", ""⟩⟩, ⟨1, .queue, {}, none, {}⟩)

theorem run_coordinate_coherence_at_edits :
    ∃ run, newFromSlotItems middleOfThree.1 middleOfThree.2 = some run ∧
      (RunThread.machine.run { run := run }
        [.command {} (.queueRemove ⟨3⟩), .command {} (.queueAppend [⟨⟨4⟩, .twitch ⟨"", ""⟩⟩]),
          .command {} (.queueMove ⟨1⟩ 1), .event {} (.endFile .eof)]).run.OnCourse :=
  ⟨(newFromSlotItems middleOfThree.1 middleOfThree.2).get rfl, Option.eq_some_of_isSome rfl,
    run_coordinate_coherence (Option.eq_some_of_isSome rfl) (by decide)⟩

/-- Removing the slot in front of the active one leaves the ordinal one too high, and the natural
    end that follows stops the run with a slot left to play. -/
theorem queue_remove_leaves_stale_ordinal :
    ∃ run removed ended,
      newFromSlotItems middleOfThree.1 middleOfThree.2 = some run ∧
      RunThread.machine.run { run := run } [.command {} (.queueRemove ⟨1⟩)] = { run := removed } ∧
      removed.Settled ∧ removed.activeSlotId = some ⟨2⟩ ∧ removed.queue.slotIndex ⟨2⟩ = some 0 ∧
      removed.currentIdx = 1 ∧ removed.following ⟨2⟩ = some ⟨3⟩ ∧
      removed.onEndFile {} .eof = some (false, ended) ∧
      ended.events = [.stopped 0 ⟨some ⟨2⟩, 0, false, false, none⟩] := by
  refine ⟨_, _, _, rfl, rfl, ⟨rfl, rfl, rfl⟩, rfl, ?_, rfl, ?_, rfl, ?_⟩
  · decide
  · decide
  · decide

end PlaybackRun

end Mbv.Player
