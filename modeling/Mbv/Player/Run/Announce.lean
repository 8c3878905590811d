import Mbv.Player.Run.Stops

namespace Mbv.Player

open Mbv.Queue List

def changesIn (events : List PlayerEvent) : List QueueSlotId := events.filterMap (·.changed?)

structure Notice where
  changes : List QueueSlotId
  active : Option QueueSlotId

inductive Notice.Moves (notice : Notice) : Notice → Prop
  | kept : Moves notice notice
  | left : Moves notice ⟨notice.changes, none⟩
  | named (slotId : QueueSlotId) : Moves notice ⟨notice.changes ++ [slotId], some slotId⟩

def PlaybackRun.notice (run : PlaybackRun) : Notice :=
  ⟨changesIn run.events, run.queue.activeSlotId⟩

theorem Notice.Moves.of_eq {before after : Notice} (same : after = before) : before.Moves after := same ▸ .kept

namespace RunView

variable {view after : RunView} {event : MpvEvent} {answers : Answers} {command : PlayerCommand}

def notice (view : RunView) : Notice := ⟨changesIn view.events, view.queue.activeSlotId⟩

theorem notice_tell {told : List PlayerEvent}
    (plain : ∀ event ∈ told, event.Plain view.identity) : (view.tell told).notice = view.notice := by
  have quiet : changesIn told = [] := filterMap_eq_nil_iff.mpr fun event member => (plain event member).2.1
  simp only [notice, tell, changesIn, filterMap_append] at quiet ⊢
  rw [quiet, append_nil]

theorem notice_told {told : PlayerEvent} (plain : told.Plain view.identity) : (view.tell [told]).notice = view.notice :=
  notice_tell fun _ member => mem_singleton.mp member ▸ plain

theorem notice_stop (outcome : StopOutcome) : (view.stop outcome).notice = view.notice := by
  unfold stop
  split
  · rfl
  · simp [notice, changesIn, PlayerEvent.changed?]

theorem notice_changed {told : List PlayerEvent} (idx : Nat) (slotId : QueueSlotId)
    (transition : Option (PlaybackRequestId × PlaybackGeneration))
    (plain : ∀ event ∈ told, event.Plain view.identity) :
    view.notice.Moves ((view.activate idx slotId).tell (told ++ [.trackChanged slotId transition])).notice := by
  have quiet := notice_tell plain
  have named : ((view.activate idx slotId).tell (told ++ [.trackChanged slotId transition])).notice =
      ⟨(view.tell told).notice.changes ++ [slotId], some slotId⟩ := by
    simp [notice, activate, tell, changesIn, PlayerEvent.changed?]
  rw [named, quiet]
  exact .named slotId

theorem notice_displaced (added : List MpvCommand) (outcome : StopOutcome) :
    ((view.displace added).stop outcome).notice = view.notice :=
  @notice_stop (view.displace added) outcome

theorem notice_shifted (shifts : Relation.ReflTransGen Shifts view after) : after.notice = view.notice := by
  induction shifts with
  | refl => rfl
  | @tail middle _ _ moved ih =>
    cases moved
    exact (congrArg (Notice.mk _) (middle.queue.moveSlot_active _ _)).trans ih

theorem Handles.notice (handles : view.Handles event after) : view.notice.Moves after.notice := by
  cases handles with
  | quiet | drains | marks => exact .kept
  | tells told plain | clamps told plain => exact .of_eq (notice_told plain)
  | stops outcome => exact .of_eq (notice_stop outcome)
  | quits outcome =>
    have quiet := @notice_told (view.stop outcome) .mpvQuit ⟨rfl, rfl, by simp [PlayerEvent.label?]⟩
    exact .of_eq (quiet.trans (notice_stop outcome))
  | moves told transition there plain => exact notice_changed _ _ transition plain
  | loads idx told transition activeFile ready plain =>
    refine @notice_changed view [told] idx _ transition fun event member => ?_
    rw [mem_singleton.mp member]
    exact plain
  | loadFails slotId outcome => exact .of_eq (@notice_stop (view.load .ready slotId) outcome)
  | prunes queue told plain playlist ready short wellFormed active =>
    have changes : changesIn (view.events ++ [told]) = changesIn view.events := congrArg Notice.changes (notice_told plain)
    rcases active with kept | gone
    · exact .of_eq (by simp [RunView.notice, tell, changes, kept])
    · refine Eq.mp (congrArg view.notice.Moves ?_) Notice.Moves.left
      simp [RunView.notice, tell, changes, gone]

end RunView

namespace PlaybackRun

/-- The removal of the active file's slot that takes its neighbour without saying so. -/
def takesNeighbor (run : PlaybackRun) (answers : Answers) : PlayerCommand → Bool
  | .queueRemove slotId =>
    run.runLifecycle.isActiveFile && run.activeSlotId = some slotId && 1 < run.queueLen &&
      answers.prepareSource.isNone && answers.loadfile.isNone
  | _ => false

def takes (run : PlaybackRun) (answers : Answers) (items : List ExecSlot) : Bool :=
  run.runLifecycle.isActiveFile || (items.any fun slot => slot.item.isAudiobookshelf) ||
    (items.map fun slot => { slot with item := refreshResume answers.refreshed slot.item }).all
      fun slot => slot.item.hasMpvUrlSource

def startSlot (run : PlaybackRun) (answers : Answers) : PlayerCommand → Option QueueSlotId
  | .loadNew _ => some ⟨1⟩
  | .submitQueue items startIdx =>
    if run.takes answers items then
      items[min startIdx (items.length - 1)]?.map (·.slotId)
    else none
  | _ => none

variable {run next : PlaybackRun} {answers : Answers} {items : List ExecSlot}

theorem notice_send {event : PlayerEvent} (quiet : event.changed? = none) : (run.send event).notice = run.notice := by
  simp [notice, send, changesIn, filterMap_append, quiet]

theorem appendSlots_active {queue longer : ExecutionSequence} (appended : appendSlots queue items = some longer) :
    longer.activeSlotId = queue.activeSlotId := by
  induction items generalizing queue with
  | nil =>
    cases appended
    rfl
  | cons slot items ih =>
    rw [appendSlots, Option.bind_eq_some_iff] at appended
    obtain ⟨first, one, rest⟩ := appended
    exact (ih rest).trans (ExecutionSequence.appendWithId_spec one).2

theorem buildQueue_active {startIdx : Nat} {queue : ExecutionSequence} (built : buildQueue items startIdx = some queue) :
    queue.activeSlotId = items[startIdx]?.map (·.slotId) := by
  unfold buildQueue ExecutionSequence.fromSlotItems at built
  split at built
  · cases built
    cases found : items[startIdx]? with
    | none => rfl
    | some active =>
      have member : active ∈ items := mem_of_getElem? found
      have listed : (items.map fun slot => (slot.slotId, slot.item)).any (fun slot => slot.1 == active.slotId) = true := by
        simp only [any_map, any_eq_true]
        exact ⟨active, member, by simp⟩
      simp only [Option.map_some, Option.filter, listed, if_true]
  · cases built

theorem withoutSlot_moves {slotId : QueueSlotId} {view after : RunView}
    (member : slotId ∈ view.queue.slotIds) (events : after.events = view.events)
    (queue : after.queue = view.withoutSlot slotId) : view.notice.Moves after.notice := by
  have removed : after.notice = ⟨view.notice.changes, (view.withoutSlot slotId).activeSlotId⟩ :=
    congrArg₂ (fun events (queue : ExecutionSequence) =>
      Notice.mk (changesIn events) queue.activeSlotId) events queue
  rw [removed]
  by_cases own : view.queue.activeSlotId = some slotId
  · rw [RunView.withoutSlot, if_pos own, ExecutionSequence.removeActiveSlotConfirmed_active member, if_pos own]
    exact .left
  · rw [RunView.withoutSlot, if_neg own, ExecutionSequence.removeSlot_active]
    exact .kept

theorem startSlot_displaces {startIdx : Nat} (displaces : run.view.displaces answers (.submitQueue items startIdx) = true) :
    ∃ slotId, items[min startIdx (items.length - 1)]?.map (·.slotId) = some slotId ∧
      run.startSlot answers (.submitQueue items startIdx) = some slotId := by
  have replaces : run.replaces answers items = true := displaces
  rw [PlaybackRun.replaces, Bool.and_eq_true] at replaces
  have filled : items ≠ [] := by simpa using replaces.1
  have taken : run.takes answers items = true := by
    rw [takes, all_map]
    exact replaces.2
  have inside : min startIdx (items.length - 1) < items.length := by
    have := length_pos_of_ne_nil filled
    omega
  refine ⟨items[min startIdx (items.length - 1)].slotId, ?_, ?_⟩
  · rw [List.getElem?_eq_getElem inside]
    rfl
  · rw [startSlot, if_pos taken, List.getElem?_eq_getElem inside]
    rfl

theorem startSlot_spares {command : PlayerCommand} (spares : run.view.displaces answers command = false) :
    run.startSlot answers command = none := by
  cases command with
  | submitQueue items startIdx =>
    have spared : run.replaces answers items = false := spares
    rw [startSlot]
    split
    · rename_i taken
      rw [takes, all_map] at taken
      have empty : items = [] := by
        by_contra filled
        rw [replaces, Bool.and_eq_false_iff] at spared
        rcases spared with empty | untaken
        · exact filled (by simpa using empty)
        · exact absurd (untaken.symm.trans taken) Bool.false_ne_true
      subst empty
      rfl
    · rfl
  | loadNew item => cases spares
  | togglePause | jumpTo | queueAppend | queueRemove | queueMove | queueReorder => rfl

theorem handleCommand_notice {command : PlayerCommand} {cancels : Bool} (announced : run.takesNeighbor answers command = false)
    (handled : run.handleCommand answers command = some (cancels, next)) :
    (∃ slotId, run.startSlot answers command = some slotId ∧ next.notice = ⟨run.notice.changes, some slotId⟩) ∨
      run.startSlot answers command = none ∧ run.notice.Moves next.notice := by
  have obeys := handleCommand_obeys handled
  change _ ∨ _ ∧ (run.acceptedView command).notice.Moves next.view.notice
  change (∃ slotId, _ ∧ next.view.notice = ⟨(run.acceptedView command).notice.changes, _⟩) ∨ _
  generalize next.view = after at obeys ⊢
  cases obeys with
  | keeps told plain spares =>
    exact .inr ⟨startSlot_spares spares, .of_eq (RunView.notice_tell plain)⟩
  | @jumps slotId _ _ _ idx transition =>
    exact .inr ⟨rfl, @RunView.notice_changed _ [] idx slotId transition fun _ member => absurd member not_mem_nil⟩
  | jumpFails outcome | promoteFails outcome =>
    exact .inr ⟨rfl, .of_eq (RunView.notice_displaced _ outcome)⟩
  | appends named built | promotes slotId provided built =>
    exact .inr ⟨rfl, .of_eq (congrArg (Notice.mk _) (appendSlots_active built))⟩
  | removes playlist found =>
    exact .inr ⟨rfl, withoutSlot_moves (ExecutionSequence.slotIndex_some found).1 rfl rfl⟩
  | removesLoaded currentIdx mpv activeFile member =>
    exact .inr ⟨rfl, withoutSlot_moves member rfl rfl⟩
  | reloads queue currentIdx neighbor activeFile active others prepared loads =>
    have taken : run.runLifecycle.isActiveFile = true := (RunLifecycle.isActiveFile_iff _).mpr activeFile
    have marker : run.activeSlotId = some _ := active
    have longer : 1 < run.queueLen := others
    simp [takesNeighbor, taken, marker, longer, prepared, loads] at announced
  | reloadFails => exact .inr ⟨rfl, .kept⟩
  | moves shifts | reorders shifts =>
    exact .inr ⟨rfl, .of_eq (RunView.notice_shifted shifts)⟩
  | loadsNew built =>
    exact .inl ⟨⟨1⟩, rfl, congrArg (Notice.mk _) (buildQueue_active built)⟩
  | clears => exact .inr ⟨startSlot_spares rfl, .left⟩
  | relents => exact .inr ⟨startSlot_spares rfl, .kept⟩
  | @submits _ slots startIdx queue _ added _ projection displaces named built _ _ ends =>
    obtain ⟨slotId, first, starts⟩ := startSlot_displaces displaces
    have marker : queue.activeSlotId = some slotId := by
      rw [buildQueue_active built, ← List.getElem?_map, named, List.getElem?_map, first]
    refine .inl ⟨slotId, starts, ?_⟩
    rcases ends with rfl | ⟨outcome, rfl⟩
    · exact congrArg (Notice.mk _) marker
    · exact (RunView.notice_stop outcome).trans (congrArg (Notice.mk _) marker)

end PlaybackRun

/-- A run beside the slot it announced last: by a `TrackChanged` since its last submission, or by
    that submission's start. -/
structure AnnounceHistory where
  thread : RunThread
  announced : Option QueueSlotId

def RunInput.startSlot (thread : RunThread) : RunInput → Option QueueSlotId
  | .command answers sent =>
    if !thread.exited && (thread.run.handleCommand answers sent).isSome then
      thread.run.startSlot answers sent
    else none
  | _ => none

/-- The input removes the active file's slot and the run takes a neighbour instead. -/
def RunInput.takesNeighbor (thread : RunThread) : RunInput → Bool
  | .command answers sent => thread.run.takesNeighbor answers sent
  | _ => false

namespace AnnounceHistory

def announcedBetween (before after : RunThread) : List QueueSlotId :=
  (changesIn after.run.events).drop (changesIn before.run.events).length

def step (history : AnnounceHistory) (input : RunInput) : AnnounceHistory where
  thread := history.thread.step input
  announced :=
    (announcedBetween history.thread (history.thread.step input)).getLast?.or
      ((input.startSlot history.thread).or history.announced)

def machine : Machine AnnounceHistory RunInput := ⟨step⟩

def Announced (history : AnnounceHistory) : Prop :=
  ∀ slotId, history.thread.run.activeSlotId = some slotId → history.announced = some slotId

theorem thread_notice {thread : RunThread} {input : RunInput} (announced : input.takesNeighbor thread = false) :
    (∃ slotId, input.startSlot thread = some slotId ∧
        (thread.step input).run.notice = ⟨thread.run.notice.changes, some slotId⟩) ∨
      input.startSlot thread = none ∧ thread.run.notice.Moves (thread.step input).run.notice := by
  by_cases exited : thread.exited = true
  · have same : thread.step input = thread := if_pos exited
    rw [same]
    refine .inr ⟨?_, .kept⟩
    cases input <;> simp [RunInput.startSlot, exited]
  · unfold RunThread.step
    rw [if_neg exited]
    cases input with
    | command answers command =>
      dsimp only
      cases handled : thread.run.handleCommand answers command with
      | none =>
        refine .inr ⟨by simp [RunInput.startSlot, handled], .of_eq ?_⟩
        exact PlaybackRun.notice_send rfl
      | some result =>
        obtain ⟨cancels, next⟩ := result
        have moves := PlaybackRun.handleCommand_notice announced handled
        have starts : RunInput.startSlot thread (.command answers command) = thread.run.startSlot answers command := by
          simp [RunInput.startSlot, exited, handled]
        rw [starts]
        exact moves
    | stopRequest now =>
      refine .inr ⟨rfl, .of_eq ?_⟩
      dsimp only
      split <;> rfl
    | quitTimer now =>
      refine .inr ⟨rfl, .of_eq ?_⟩
      dsimp only
      split
      · split
        · obtain ⟨outcome, stopped⟩ := thread.run.view_finalizeQuit
          exact (congrArg RunView.notice stopped).trans (RunView.notice_stop outcome)
        · rfl
      · rfl
    | event answers event =>
      refine .inr ⟨rfl, ?_⟩
      dsimp only
      cases handled : thread.run.handleMpvEvent answers event with
      | none => exact .of_eq (PlaybackRun.notice_send rfl)
      | some result => exact (PlaybackRun.handleMpvEvent_handles handled).notice
    | advanceSequenceGeneration => exact .inr ⟨rfl, .kept⟩
    | seedStatus item idx queueLen => exact .inr ⟨rfl, .kept⟩

theorem announcedBetween_kept {before after : RunThread} (kept : after.run.notice.changes = before.run.notice.changes) :
    announcedBetween before after = [] := by
  have same : changesIn after.run.events = changesIn before.run.events := kept
  simp [announcedBetween, same]

theorem announcedBetween_named {before after : RunThread} {slotId : QueueSlotId}
    (named : after.run.notice.changes = before.run.notice.changes ++ [slotId]) :
    announcedBetween before after = [slotId] := by
  have grown : changesIn after.run.events = changesIn before.run.events ++ [slotId] := named
  simp [announcedBetween, grown]

theorem step_announced {history : AnnounceHistory} {input : RunInput}
    (announced : history.Announced) (outside : input.takesNeighbor history.thread = false) :
    (history.step input).Announced ∧ ∀ slotId ∈ announcedBetween history.thread (history.thread.step input),
        (history.thread.step input).run.activeSlotId = some slotId := by
  rcases thread_notice outside with ⟨start, starts, same⟩ | ⟨none_, moves⟩
  · have quiet : announcedBetween history.thread (history.thread.step input) = [] := announcedBetween_kept (by rw [same])
    refine ⟨fun slotId active => ?_, by simp [quiet]⟩
    have marker : (history.thread.step input).run.activeSlotId = some start := congrArg Notice.active same
    have is : start = slotId := Option.some.inj (marker.symm.trans active)
    simp [step, quiet, starts, is]
  · generalize after : (history.thread.step input).run.notice = notice at moves
    cases moves with
    | kept =>
      have quiet : announcedBetween history.thread (history.thread.step input) = [] := announcedBetween_kept (by rw [after])
      refine ⟨fun slotId active => ?_, by simp [quiet]⟩
      have marker : (history.thread.step input).run.activeSlotId =
          history.thread.run.activeSlotId := congrArg Notice.active after
      have before := announced slotId (marker ▸ active)
      simp [step, quiet, none_, before]
    | left =>
      have quiet : announcedBetween history.thread (history.thread.step input) = [] := announcedBetween_kept (by rw [after])
      refine ⟨fun slotId active => ?_, by simp [quiet]⟩
      have marker : (history.thread.step input).run.activeSlotId = none := congrArg Notice.active after
      rw [show (history.step input).thread.run.activeSlotId = none from marker] at active
      cases active
    | named slotId =>
      have grows : announcedBetween history.thread (history.thread.step input) = [slotId] :=
        announcedBetween_named (by rw [after])
      have marker : (history.thread.step input).run.activeSlotId = some slotId := congrArg Notice.active after
      refine ⟨fun other active => ?_, by simpa [grows] using marker⟩
      have is : slotId = other := Option.some.inj (marker.symm.trans active)
      simp [step, grows, is]

/-- A run and the start slot of the submission it was started with. -/
def start (items : List ExecSlot) (init : RunInit) (run : PlaybackRun) : AnnounceHistory where
  thread := { run := run }
  announced := items[init.startIdx]?.map (·.slotId)

theorem start_announced {items : List ExecSlot} {init : RunInit} {run : PlaybackRun}
    (started : PlaybackRun.newFromSlotItems items init = some run) :
    (start items init run).Announced := by
  rw [PlaybackRun.newFromSlotItems, Option.bind_eq_some_iff] at started
  obtain ⟨queue, built, started⟩ := started
  rw [PlaybackRun.initFromQueue, Option.map_eq_some_iff] at started
  obtain ⟨initial, -, rfl⟩ := started
  intro slotId active
  have marker : queue.activeSlotId = some slotId := active
  exact (PlaybackRun.buildQueue_active built).symm.trans marker

/-- The owner learns every change of the playing slot, in every run that takes no neighbour of a
    removed active file. -/
theorem track_changes_announced {items : List ExecSlot} {init : RunInit} {run : PlaybackRun}
    (started : PlaybackRun.newFromSlotItems items init = some run) {inputs : List RunInput}
    (outside : machine.Along (fun history input => input.takesNeighbor history.thread = false)
      (start items init run) inputs) :
    (machine.run (start items init run) inputs).Announced ∧
    machine.Along (fun history input =>
        ∀ slotId ∈ announcedBetween history.thread (machine.step history input).thread,
          (machine.step history input).thread.run.activeSlotId = some slotId)
      (start items init run) inputs := by
  have keep : ∀ history input, history.Announced → RunInput.takesNeighbor history.thread input = false →
      (machine.step history input).Announced :=
    fun history input announced outside => (step_announced announced outside).1
  have first := start_announced started
  exact ⟨Machine.run_invariant keep first outside, Machine.along_of_invariant keep
    (fun history input announced outside => (step_announced announced outside).2) first outside⟩

def twoBooks : List ExecSlot :=
  [("a", 1), ("b", 2)].map fun (id, raw) =>
    ⟨⟨raw⟩, .audiobookshelf (.book ⟨id, id, none, 0, false, false, ""⟩)⟩

def firstBook : RunInit where
  startIdx := 0
  origin := .queue

theorem track_changes_announced_at_jump :
    ∃ run, PlaybackRun.newFromSlotItems twoBooks firstBook = some run ∧
      (machine.run (start twoBooks firstBook run)
        [.event {} .playbackRestart, .command {} (.jumpTo ⟨2⟩ 0 0 none),
          .command {} (.queueRemove ⟨1⟩)]).Announced :=
  ⟨(PlaybackRun.newFromSlotItems twoBooks firstBook).get rfl, Option.eq_some_of_isSome rfl,
    (track_changes_announced (Option.eq_some_of_isSome rfl) (by decide)).1⟩

/-- Removing the book that plays starts the other one, which the owner is not told of. -/
theorem neighbor_taken_unannounced :
    ∃ run after, PlaybackRun.newFromSlotItems twoBooks firstBook = some run ∧
      machine.run (start twoBooks firstBook run)
        [.event {} .playbackRestart, .command {} (.queueRemove ⟨1⟩)] = after ∧
      after.thread.run.runLifecycle.ended = none ∧ after.thread.run.runLifecycle.jump = .idle ∧
      after.thread.run.activeSlotId = some ⟨2⟩ ∧ changesIn after.thread.run.events = [] ∧
      after.announced = some ⟨1⟩ := by
  refine ⟨_, _, rfl, rfl, rfl, rfl, ?_, ?_, ?_⟩
  · decide
  · decide
  · decide

end AnnounceHistory

end Mbv.Player
