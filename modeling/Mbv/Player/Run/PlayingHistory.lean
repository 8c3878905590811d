import Mbv.Player.Run.PlayingItem

namespace Mbv.Player

open Mbv.Queue List

/-! ### The layout over a run -/

namespace PlaybackRun

variable {run next : PlaybackRun}

def layout (run : PlaybackRun) : ExecutionSequence × Projection × List MpvCommand :=
  (run.queue, run.runLifecycle.projection, run.mpv)

/-- A step that leaves mpv's playlist to play was taken from one that did, edits neither queue nor
    playlist, and moves the active slot at most. -/
def Keeps (run next : PlaybackRun) : Prop :=
  next.runLifecycle.isActiveFile = false → run.runLifecycle.isActiveFile = false ∧
    next.queue.slots = run.queue.slots ∧ (run.queue.WellFormed → next.queue.WellFormed) ∧
    next.mpv = run.mpv

theorem Keeps.trans {middle : PlaybackRun} (before : Keeps run middle) (after : Keeps middle next) : Keeps run next := by
  intro playlist
  obtain ⟨stays, slots, wellFormed, mpv⟩ := after playlist
  obtain ⟨first, firstSlots, firstWellFormed, firstMpv⟩ := before stays
  exact ⟨first, slots.trans firstSlots, wellFormed ∘ firstWellFormed, mpv.trans firstMpv⟩

theorem keeps_of_layout (same : next.layout = run.layout) : Keeps run next := by
  have queue : next.queue = run.queue := congrArg (·.1) same
  have projection : next.runLifecycle.projection = run.runLifecycle.projection := congrArg (·.2.1) same
  have mpv : next.mpv = run.mpv := congrArg (·.2.2) same
  intro playlist
  unfold RunLifecycle.isActiveFile at playlist ⊢
  rw [projection] at playlist
  rw [queue]
  exact ⟨playlist, rfl, id, mpv⟩

theorem keeps_of_activeFile (activeFile : next.runLifecycle.projection = .activeFile) : Keeps run next := by
  intro playlist
  unfold RunLifecycle.isActiveFile at playlist
  rw [activeFile] at playlist
  cases playlist

end PlaybackRun

namespace RunView

variable {view after : RunView} {event : MpvEvent}

def layout (view : RunView) : ExecutionSequence × Projection × List MpvCommand :=
  (view.queue, view.projection, view.mpv)

theorem layout_stop (outcome : StopOutcome) : (view.stop outcome).layout = view.layout := by
  unfold stop
  split <;> rfl

theorem Handles.keeps (handles : view.Handles event after)
    (onTime : ∀ count, event = .playlistCount count → view.projection = .activeFile ∨
      view.loadState ≠ .ready ∨ count = view.queue.len) (playlist : after.projection = .playlist) :
    view.projection = .playlist ∧ after.queue.slots = view.queue.slots ∧
      (view.queue.WellFormed → after.queue.WellFormed) ∧ after.mpv = view.mpv := by
  have stopped (outcome : StopOutcome) (stays : (view.stop outcome).projection = .playlist) :
      view.projection = .playlist ∧ (view.stop outcome).queue.slots = view.queue.slots ∧
        (view.queue.WellFormed → (view.stop outcome).queue.WellFormed) ∧
        (view.stop outcome).mpv = view.mpv := by
    have same := @layout_stop view outcome
    have queue : (view.stop outcome).queue = view.queue := congrArg (·.1) same
    rw [queue]
    exact ⟨(congrArg (·.2.1) same).symm.trans stays, rfl, id, congrArg (·.2.2) same⟩
  cases handles with
  | quiet | tells | drains | marks | clamps => exact ⟨playlist, rfl, id, rfl⟩
  | stops outcome | quits outcome => exact stopped outcome playlist
  | moves told transition there =>
    refine ⟨playlist, rfl, fun wellFormed => ⟨wellFormed.distinct, fun other marker => ?_⟩, rfl⟩
    cases marker
    exact mem_of_getElem? there
  | loads idx told transition activeFile => cases activeFile.symm.trans playlist
  | loadFails slotId outcome activeFile =>
    have same := congrArg (·.2.1) (@layout_stop (view.load .ready slotId) outcome)
    cases activeFile.symm.trans (same.symm.trans playlist)
  | prunes queue told plain listed ready short =>
    rcases onTime _ rfl with activeFile | draining | rfl
    · cases activeFile.symm.trans listed
    · exact absurd ready draining
    · rw [if_neg (by omega), Int.toNat_natCast] at short
      exact absurd short (Nat.lt_irrefl _)

end RunView

namespace PlaybackRun

variable {run next : PlaybackRun} {answers : Answers}

theorem layout_finalizeQuit : run.finalizeQuit.layout = run.layout := by
  obtain ⟨outcome, stopped⟩ := run.view_finalizeQuit
  exact (congrArg RunView.layout stopped).trans (RunView.layout_stop outcome)

theorem handleMpvEvent_keeps {event : MpvEvent} {exits : Bool} (handled : run.handleMpvEvent answers event = some (exits, next))
    (onTime : ∀ count, event = .playlistCount count → run.runLifecycle.isActiveFile = true ∨
      run.loadIsReady = false ∨ count = run.queueLen) : Keeps run next := by
  have shown (chosen : PlaybackRun) : chosen.runLifecycle.isActiveFile = false ↔ chosen.runLifecycle.projection = .playlist := by
    cases projection : chosen.runLifecycle.projection <;> simp [RunLifecycle.isActiveFile, projection]
  unfold Keeps
  rw [shown, shown]
  refine (handleMpvEvent_handles handled).keeps fun count counted => ?_
  rcases onTime count counted with activeFile | draining | same
  · exact .inl ((RunLifecycle.isActiveFile_iff _).mp activeFile)
  · refine .inr (.inl fun ready => ?_)
    have clear : run.itemLifecycle.loadState = .ready := ready
    simp [loadIsReady, clear] at draining
  · exact .inr (.inr same)

theorem cmdJumpTo_keeps (run : PlaybackRun) (answers : Answers) (slotId : QueueSlotId)
    (requestId : PlaybackRequestId) (generation : PlaybackGeneration) :
    Keeps run (run.cmdJumpTo answers slotId requestId generation) := by
  unfold cmdJumpTo
  split
  · exact keeps_of_layout rfl
  · dsimp only
    split
    · rename_i active
      have armed : (run.runLifecycle.armJump ⟨slotId, some (Transition.new requestId generation slotId), answers.jumpTicks,
            false⟩).projection = .activeFile := (RunLifecycle.isActiveFile_iff _).mp active
      apply keeps_of_activeFile
      have selected := selectActiveSlot_projection { run with
        runLifecycle := run.runLifecycle.armJump
          ⟨slotId, some (Transition.new requestId generation slotId), answers.jumpTicks, false⟩ }
        answers slotId
      unfold cmdJumpToActiveFile
      split <;> rename_i result <;> rw [result] at selected
      · exact (congrArg Place.projection (reportJumpedItem_place _)).trans (selected.trans armed)
      · exact (congrArg Place.projection (place_stopForActiveFileFailure _ _ _ _)).trans (selected.trans armed)
    · refine keeps_of_layout ?_
      unfold cmdJumpToPlaylist
      dsimp only
      split <;> rfl

theorem projection_initializeQueueStart (run : PlaybackRun) (hadPreviousQueue : Bool) (active : QueueItem) :
    (run.initializeQueueStart hadPreviousQueue active).runLifecycle.projection =
      run.runLifecycle.projection :=
  congrArg Place.projection (run.place_initializeQueueStart hadPreviousQueue active)

theorem replaceWithQueueItems_activeFile {items : List ExecSlot} {startIdx : Nat}
    (takes : run.runLifecycle.isActiveFile = true ∨ items ≠ [])
    (replaced : run.replaceWithQueueItems answers items startIdx = some next) :
    next.runLifecycle.projection = .activeFile := by
  have stopped : ∀ {run next : PlaybackRun} {items startIdx activeItem error},
      run.acceptStoppedReplacement items startIdx activeItem error = some next →
      next.runLifecycle.projection = .activeFile := by
    intro run next items startIdx activeItem error accepted
    rw [acceptStoppedReplacement, Option.map_eq_some_iff] at accepted
    obtain ⟨queue, -, rfl⟩ := accepted
    exact congrArg Place.projection (place_endRun _ _)
  unfold replaceWithQueueItems at replaced
  dsimp only at replaced
  split at replaced
  · rename_i missing
    cases replaced
    rcases takes with activeFile | filled
    · exact (RunLifecycle.isActiveFile_iff run.runLifecycle).mp activeFile
    · have bound : min startIdx (items.length - 1) < items.length := by
        have positive := length_pos_iff.mpr filled
        omega
      exact absurd (List.getElem?_eq_none_iff.mp missing) (by omega)
  · rename_i active _
    split at replaced
    · exact stopped replaced
    · rw [Option.bind_eq_some_iff] at replaced
      obtain ⟨queue, -, replaced⟩ := replaced
      split at replaced <;> rename_i result
      · exact stopped replaced
      · have place := installActiveProjection_place result
        cases replaced
        rename_i installed
        have projection : installed.runLifecycle.projection = .activeFile := congrArg Place.projection place
        refine Eq.trans ?_ projection
        exact projection_initializeQueueStart _ _ active.item

end PlaybackRun

/-! ### A submission lays mpv's playlist out anew -/

namespace MpvPlayer

variable {player : MpvPlayer} {starts : QueueSlotId → Int} {refuses : Nat → MpvCommand → Bool}

theorem carryOut_accepted {n : Nat} {commands : List MpvCommand}
    (accepts : ∀ k < n + commands.length, ∀ command ∈ commands, refuses k command = false) :
    carryOut starts refuses n player commands = commands.foldl (apply · starts) player := by
  induction commands generalizing player n with
  | nil => rfl
  | cons command commands ih =>
    have first := accepts n (by simp) command mem_cons_self
    unfold carryOut
    rw [first, if_neg Bool.false_ne_true, foldl_cons]
    refine ih fun k bound other told => accepts k ?_ other (mem_cons_of_mem command told)
    rw [length_cons]
    omega

variable {items : List ExecSlot}

theorem entries_inserts {start : QueueSlotId} (begins : player.entries = [start]) {count : Nat} (inside : count ≤ items.length) :
    (((List.range count).filterMap fun i => items[i]?.map fun slot =>
      MpvCommand.loadfile slot.slotId (.insertAt i)).foldl (apply · starts) player).entries =
      (items.map (·.slotId)).take count ++ [start] := by
  induction count with
  | zero => simpa using begins
  | succ count ih =>
    obtain ⟨slot, found⟩ : ∃ slot, items[count]? = some slot := ⟨_, List.getElem?_eq_getElem (by omega)⟩
    have before := ih (by omega)
    have there : (items.map (·.slotId))[count]? = some slot.slotId := by simp [found]
    have length : ((items.map (·.slotId)).take count).length = count := by
      rw [length_take, length_map]
      omega
    rw [range_succ, filterMap_append, foldl_append]
    simp only [filterMap_cons, filterMap_nil, found, Option.map_some, foldl_cons, foldl_nil]
    show List.insertIdx _ count slot.slotId = _
    rw [before, take_add_one, there]
    have inserted := insertIdx_append_length ((items.map (·.slotId)).take count) [start] slot.slotId
    rw [length] at inserted
    rw [inserted]
    simp

theorem entries_after (first : Nat) {count : Nat} (inside : first + count ≤ items.length) :
    ((((List.range count).map (first + ·)).filterMap fun i => items[i]?.map fun slot =>
      MpvCommand.loadfile slot.slotId .append).foldl (apply · starts) player).entries =
      player.entries ++ ((items.map (·.slotId)).drop first).take count := by
  induction count with
  | zero => simp
  | succ count ih =>
    obtain ⟨slot, found⟩ : ∃ slot, items[first + count]? = some slot := ⟨_, List.getElem?_eq_getElem (by omega)⟩
    have there : ((items.map (·.slotId)).drop first)[count]? = some slot.slotId := by
      simp [found]
    rw [range_succ, map_append, filterMap_append, foldl_append]
    simp only [map_cons, map_nil, filterMap_cons, filterMap_nil, found, Option.map_some, foldl_cons, foldl_nil]
    show _ ++ [slot.slotId] = _
    rw [ih (by omega), take_add_one, there]
    simp

theorem entries_queueLoads {startIdx : Nat} (inside : startIdx < items.length)
    (empty : player.entries = []) (starts : QueueSlotId → Int) :
    (((queueLoadIndices items.length startIdx).filterMap fun i => items[i]?.map fun slot =>
      MpvCommand.loadfile slot.slotId (queueLoadLocation i startIdx)).foldl (apply · starts)
        player).entries = items.map (·.slotId) := by
  obtain ⟨active, found⟩ : ∃ active, items[startIdx]? = some active := ⟨_, List.getElem?_eq_getElem inside⟩
  let load := fun (i : Nat) => items[i]?.map fun slot =>
    MpvCommand.loadfile slot.slotId (queueLoadLocation i startIdx)
  have loads : (queueLoadIndices items.length startIdx).filterMap load = [MpvCommand.loadfile active.slotId .append] ++
      (List.range startIdx).filterMap (fun i => items[i]?.map fun slot =>
        MpvCommand.loadfile slot.slotId (.insertAt i)) ++
      ((List.range (items.length - (startIdx + 1))).map (startIdx + 1 + ·)).filterMap
        (fun i => items[i]?.map fun slot => MpvCommand.loadfile slot.slotId .append) := by
    have here : load startIdx = some (.loadfile active.slotId .append) := by
      simp [load, found, queueLoadLocation]
    have early : ∀ i ∈ List.range startIdx, load i = items[i]?.map fun slot =>
        MpvCommand.loadfile slot.slotId (.insertAt i) := by
      intro i member
      simp [load, queueLoadLocation, mem_range.mp member]
    have late : ∀ i ∈ (List.range (items.length - (startIdx + 1))).map (startIdx + 1 + ·),
        load i = items[i]?.map fun slot => MpvCommand.loadfile slot.slotId .append := by
      intro i member
      obtain ⟨j, -, rfl⟩ := mem_map.mp member
      have behind : ¬ startIdx + 1 + j < startIdx := by omega
      simp [load, queueLoadLocation, behind]
    unfold queueLoadIndices
    rw [filterMap_append, filterMap_append]
    rw [← filterMap_congr early, ← filterMap_congr late]
    simp only [filterMap_cons, filterMap_nil]
    rw [here]
  have there : (items.map (·.slotId))[startIdx]? = some active.slotId := by simp [found]
  have first : ([MpvCommand.loadfile active.slotId .append].foldl (apply · starts) player).entries = [active.slotId] := by
    show player.entries ++ [active.slotId] = [active.slotId]
    rw [empty, nil_append]
  rw [loads, foldl_append, foldl_append, entries_after _ (by omega), entries_inserts first (by omega)]
  have taken := take_add_one (l := items.map (·.slotId)) (i := startIdx)
  rw [there] at taken
  have rest : ((items.map (·.slotId)).drop (startIdx + 1)).take (items.length - (startIdx + 1)) =
      (items.map (·.slotId)).drop (startIdx + 1) := take_of_length_le (by simp)
  rw [rest, ← Option.toList_some, ← taken]
  exact take_append_drop ..

theorem entries_coldLoads {startIdx : Nat} {active : ExecSlot}
    (plain : items.any (·.item.isAudiobookshelf) = false) (found : items[startIdx]? = some active)
    (player : MpvPlayer) (starts : QueueSlotId → Int) :
    ((MpvCommand.stop :: coldLoads items startIdx).foldl (apply · starts) player).entries = items.map (·.slotId) := by
  unfold coldLoads
  rw [plain, if_neg Bool.false_ne_true, foldl_cons]
  exact entries_queueLoads (List.getElem?_eq_some_iff.mp found).1 rfl starts

theorem queueLoadIndices_perm {len startIdx : Nat} (inside : startIdx < len) :
    (queueLoadIndices len startIdx).Perm (List.range len) := by
  have whole : List.range len = List.range startIdx ++ [startIdx] ++
      (List.range (len - (startIdx + 1))).map (startIdx + 1 + ·) := by
    rw [← range_succ, ← range_add]
    congr 1
    omega
  rw [whole]
  exact perm_append_comm.append_right _

/-- Every entry of a queue is loaded once, the start first, and mpv's playlist ends in the queue's
    order with the start in its place. -/
theorem initial_playlist_in_order (items : List ExecSlot) (startIdx : Nat)
    (inside : startIdx < items.length) (starts : QueueSlotId → Int) :
    (queueLoadIndices items.length startIdx).Perm (List.range items.length) ∧
    (queueLoadIndices items.length startIdx).head? = some startIdx ∧
    (((queueLoadIndices items.length startIdx).filterMap fun i => items[i]?.map fun slot =>
      MpvCommand.loadfile slot.slotId (queueLoadLocation i startIdx)).foldl (apply · starts)
        {}).entries = items.map (·.slotId) ∧
    (((queueLoadIndices items.length startIdx).filterMap fun i => items[i]?.map fun slot =>
      MpvCommand.loadfile slot.slotId (queueLoadLocation i startIdx)).foldl (apply · starts)
        {}).entries[startIdx]? = some items[startIdx].slotId := by
  have laid := @entries_queueLoads {} items startIdx inside rfl starts
  refine ⟨queueLoadIndices_perm inside, rfl, laid, ?_⟩
  rw [laid, List.getElem?_map, List.getElem?_eq_getElem inside]
  rfl

def threeStreams : List ExecSlot :=
  [⟨⟨4⟩, .twitch ⟨"a", ""⟩⟩, ⟨⟨7⟩, .twitch ⟨"b", ""⟩⟩, ⟨⟨2⟩, .twitch ⟨"c", ""⟩⟩]

/-- Three streams are loaded from the second one on. -/
theorem initial_playlist_of_three :
    queueLoadIndices 3 1 = [1, 0, 2] ∧
    (((queueLoadIndices 3 1).filterMap fun i => threeStreams[i]?.map fun slot =>
      MpvCommand.loadfile slot.slotId (queueLoadLocation i 1)).foldl (apply · fun _ => 0)
        {}).entries = threeStreams.map (·.slotId) :=
  ⟨rfl, (initial_playlist_in_order threeStreams 1 (by decide) fun _ => 0).2.2.1⟩

end MpvPlayer

/-! ### A run stays laid out -/

namespace PlaybackRun

variable {run next : PlaybackRun} {answers : Answers}

variable {items : List ExecSlot}

theorem cmdSubmitQueue_lays {startIdx : Nat} (submitted : run.cmdSubmitQueue answers items startIdx = some next) :
    Keeps run next ∨ run.runLifecycle.isActiveFile = false ∧
      items.any (·.item.isAudiobookshelf) = false ∧ (items.map (·.slotId)).Nodup ∧
        (items[min startIdx (items.length - 1)]?).isSome := by
  unfold cmdSubmitQueue at submitted
  dsimp only at submitted
  split at submitted
  · rename_i replaces
    rw [Bool.or_eq_true] at replaces
    refine Or.inl (keeps_of_activeFile (replaceWithQueueItems_activeFile ?_ submitted))
    rcases replaces with activeFile | service
    · exact Or.inl activeFile
    · refine Or.inr fun empty => ?_
      rw [empty] at service
      cases service
  · rename_i plays
    rw [Bool.or_eq_true, not_or, Bool.not_eq_true, Bool.not_eq_true] at plays
    split at submitted
    · cases submitted
      exact Or.inl (keeps_of_layout rfl)
    · split at submitted
      · cases submitted
        exact Or.inl (keeps_of_layout rfl)
      · rename_i active found
        rw [Option.map_eq_some_iff] at submitted
        obtain ⟨queue, built, -⟩ := submitted
        have distinct := ExecutionSequence.fromSlotItems_isSome.mp (Option.isSome_of_mem built)
        rw [length_map, List.getElem?_map, Option.map_eq_some_iff] at found
        obtain ⟨slot, there, -⟩ := found
        refine Or.inr ⟨plays.1, plays.2, ?_, by rw [there]; rfl⟩
        simpa [Function.comp_def] using distinct

theorem submit_lays {startIdx : Nat} {cancels : Bool}
    (handled : run.handleCommand answers (.submitQueue items startIdx) = some (cancels, next)) :
    Keeps run next ∨ run.runLifecycle.isActiveFile = false ∧ items.any (·.item.isAudiobookshelf) = false ∧
        (items.map (·.slotId)).Nodup ∧
        ∃ active, items[min startIdx (items.length - 1)]? = some active ∧
          next.queue = ⟨refreshSlots ⟨answers, 0, 0⟩ items, some active.slotId⟩ ∧
          next.mpv = run.mpv ++ .stop :: coldLoads items (min startIdx (items.length - 1)) := by
  have submitted := handled
  rw [handleCommand, Option.map_eq_some_iff] at submitted
  obtain ⟨_, submitted, same⟩ := submitted
  cases same
  have accepted : ∀ accepted : PlaybackRun, accepted = (if items.isEmpty = true then run else
        { run with
          runIdentity := run.status.sequenceGeneration
          runLifecycle := run.runLifecycle.submissionAccepted }) →
      Keeps run accepted ∧ accepted.runLifecycle.isActiveFile = run.runLifecycle.isActiveFile := by
    rintro _ rfl
    split <;> exact ⟨keeps_of_layout rfl, rfl⟩
  obtain ⟨before, projection⟩ := accepted _ rfl
  rcases cmdSubmitQueue_lays submitted with keeps | ⟨playlist, plain, distinct, there⟩
  · exact Or.inl (before.trans keeps)
  · rw [projection] at playlist
    obtain ⟨active, found⟩ := Option.isSome_iff_exists.mp there
    obtain ⟨taken, takes, queue, -, -, -, -, mpv⟩ := takes_playlist ⟨answers, 0, 0⟩ distinct found playlist plain
    rw [takes] at handled
    cases handled
    exact Or.inr ⟨playlist, plain, distinct, active, found, queue, mpv⟩

theorem loadNew_lays {item : EmbyItem} {cancels : Bool}
    (handled : run.handleCommand answers (.loadNew item) = some (cancels, next)) :
    next.runLifecycle.isActiveFile = run.runLifecycle.isActiveFile ∧ next.queue = ⟨[⟨⟨1⟩, .emby item⟩], some ⟨1⟩⟩ ∧
      next.mpv = run.mpv ++ [.loadfile ⟨1⟩ .replace] := by
  rw [handleCommand, Option.map_eq_some_iff] at handled
  obtain ⟨_, loaded, same⟩ := handled
  cases same
  cases loaded
  exact ⟨rfl, rfl, rfl⟩

theorem coldLoads_placed (plain : items.any (·.item.isAudiobookshelf) = false) (startIdx : Nat) :
    ∀ command ∈ coldLoads items startIdx, ∃ slotId mode, command = .loadfile slotId mode ∧ mode ≠ .replace := by
  intro command told
  unfold coldLoads at told
  rw [plain, if_neg Bool.false_ne_true] at told
  obtain ⟨i, -, loaded⟩ := mem_filterMap.mp told
  obtain ⟨slot, -, rfl⟩ := Option.map_eq_some_iff.mp loaded
  refine ⟨slot.slotId, _, rfl, ?_⟩
  unfold queueLoadLocation
  split <;> exact fun other => nomatch other

theorem length_coldLoads (plain : items.any (·.item.isAudiobookshelf) = false) {startIdx : Nat}
    (inside : startIdx < items.length) : (coldLoads items startIdx).length ≤ items.length := by
  unfold coldLoads
  rw [plain, if_neg Bool.false_ne_true]
  refine (length_filterMap_le _ _).trans ?_
  simp only [queueLoadIndices, length_append, length_map, length_range, length_singleton]
  omega

end PlaybackRun

namespace PlayingRun

variable (playing : PlayingRun)

/-- mpv takes what else the run loads into its playlist, and counts no other playlist than the
    one the run has. -/
def OrderlyInput (answers : EditAnswers) : RunInput → Prop
  | .command _ (.queueAppend _) | .command _ (.queueRemove _) | .command _ (.queueMove _ _)
  | .command _ (.queueReorder _) => False
  | .command _ (.submitQueue items _) =>
    playing.run.runLifecycle.isActiveFile = true ∨ ∀ k ≤ items.length, k ∉ answers.refused
  | .command _ (.loadNew _) =>
    playing.run.runLifecycle.isActiveFile = true ∨ answers.loadfile = none
  | .event _ (.playlistCount count) =>
    playing.run.runLifecycle.isActiveFile = true ∨ playing.run.loadIsReady = false ∨
      count = playing.run.queueLen
  | _ => True

instance (answers : EditAnswers) (input : RunInput) :
    Decidable (playing.OrderlyInput answers input) := by
  unfold OrderlyInput
  split <;> infer_instance

def Orderly : PlayingInput → Prop
  | .edit answers edit =>
    playing.Brings edit ∧ (edit.spares playing.run = false →
      playing.run.runLifecycle.isActiveFile = false → 0 ∉ answers.refused)
  | .other answers _ input => playing.OrderlyInput answers input
  | .plays _ _ => True

instance : ∀ input, Decidable (playing.Orderly input)
  | .edit _ _ => inferInstanceAs (Decidable (_ ∧ _))
  | .other answers _ input => inferInstanceAs (Decidable (playing.OrderlyInput answers input))
  | .plays _ _ => isTrue trivial

variable {playing}

variable {answers : EditAnswers}

theorem laidOut_of_keeps {next : PlaybackRun} {session : Option Nat}
    (inv : playing.run.runLifecycle.isActiveFile = false → playing.LaidOut)
    (keeps : PlaybackRun.Keeps playing.run next) (playlist : next.runLifecycle.isActiveFile = false)
    (closed : session = none) :
    LaidOut ⟨next, session, playing.tell answers next⟩ := by
  obtain ⟨stays, slots, wellFormed, mpv⟩ := keeps playlist
  have laidOut := inv stays
  have player : playing.tell answers next = playing.player := by
    refine @tell_eq _ _ _ [] ?_
    rw [mpv, append_nil]
  refine ⟨wellFormed laidOut.wellFormed, ?_, ?_, closed⟩
  · rw [player, laidOut.entries]
    exact congrArg (List.map (·.slotId)) slots.symm
  · intro slot member
    rw [slots] at member
    exact laidOut.plain slot member

theorem submitted_laidOut {next : PlaybackRun} {given : Answers} {items : List ExecSlot} {startIdx : Nat} {cancels : Bool}
    (inv : playing.run.runLifecycle.isActiveFile = false → playing.LaidOut)
    (handled : playing.run.handleCommand given (.submitQueue items startIdx) = some (cancels, next))
    (takes : playing.run.runLifecycle.isActiveFile = true ∨ ∀ k ≤ items.length, k ∉ answers.refused)
    (playlist : next.runLifecycle.isActiveFile = false) :
    LaidOut ⟨next, none, playing.tell answers next⟩ := by
  rcases PlaybackRun.submit_lays handled with
    keeps | ⟨stays, plain, distinct, active, found, queue, mpv⟩
  · exact laidOut_of_keeps inv keeps playlist rfl
  · have ids := refreshSlots_slotIds ⟨given, 0, 0⟩ items
    have accepts : ∀ k ≤ items.length, k ∉ answers.refused := by
      rcases takes with activeFile | accepts
      · rw [stays] at activeFile
        cases activeFile
      · exact accepts
    have places := PlaybackRun.coldLoads_placed plain (min startIdx (items.length - 1))
    have count := PlaybackRun.length_coldLoads plain (List.getElem?_eq_some_iff.mp found).1
    have player : playing.tell answers next = (MpvCommand.stop :: coldLoads items (min startIdx (items.length - 1))).foldl
          (MpvPlayer.apply · (answers.startOf playing.run next)) playing.player := by
      rw [tell_eq mpv]
      refine MpvPlayer.carryOut_accepted fun k bound command told => ?_
      rcases mem_cons.mp told with rfl | told
      · rfl
      · obtain ⟨slotId, mode, rfl, placed⟩ := places command told
        rw [length_cons] at bound
        have refused : answers.refused.contains k = false := by
          simpa using accepts k (by omega)
        cases mode with
        | replace => exact absurd rfl placed
        | append | appendPlay | insertAt => exact refused
    have slotIds : next.queue.slotIds = items.map (·.slotId) := by
      rw [queue]
      exact ids
    refine ⟨?_, ?_, fun slot member => ?_, rfl⟩
    · refine ⟨?_, fun id marker => ?_⟩
      · rw [slotIds]
        exact distinct
      · rw [queue] at marker
        cases marker
        rw [slotIds]
        exact mem_map_of_mem (mem_of_getElem? found)
    · show (playing.tell answers next).entries = _
      rw [player, MpvPlayer.entries_coldLoads plain found, slotIds]
    · have member : slot ∈ next.queue.slots := member
      rw [queue] at member
      obtain ⟨before, there, rfl⟩ := mem_map.mp member
      rw [refreshResume_isAudiobookshelf]
      simpa using any_eq_false.mp plain before there

theorem loaded_laidOut {next : PlaybackRun} {given : Answers} {item : EmbyItem} {cancels : Bool}
    (handled : playing.run.handleCommand given (.loadNew item) = some (cancels, next))
    (takes : playing.run.runLifecycle.isActiveFile = true ∨ answers.loadfile = none)
    (playlist : next.runLifecycle.isActiveFile = false) :
    LaidOut ⟨next, none, playing.tell answers next⟩ := by
  obtain ⟨projection, queue, mpv⟩ := PlaybackRun.loadNew_lays handled
  have accepted : answers.loadfile = none := by
    rcases takes with activeFile | accepted
    · rw [projection, activeFile] at playlist
      cases playlist
    · exact accepted
  have slotIds : next.queue.slotIds = [⟨1⟩] := by
    rw [queue]
    rfl
  refine ⟨⟨?_, fun id marker => ?_⟩, ?_, fun slot member => ?_, rfl⟩
  · rw [slotIds]
    exact nodup_singleton _
  · rw [queue] at marker
    cases marker
    rw [slotIds]
    exact mem_singleton.mpr rfl
  · show (playing.tell answers next).entries = _
    rw [slotIds, tell_eq mpv]
    unfold told
    simp [MpvPlayer.carryOut, EditAnswers.refuses, accepted, MpvPlayer.apply, MpvPlayer.loads]
  · have member : slot ∈ next.queue.slots := member
    rw [queue] at member
    rw [mem_singleton.mp member]
    rfl

theorem step_laidOut {input : RunInput} (inv : playing.run.runLifecycle.isActiveFile = false → playing.LaidOut)
    (orderly : playing.OrderlyInput answers input)
    (playlist : ((RunThread.mk playing.run false).step input).run.runLifecycle.isActiveFile = false) :
    LaidOut ⟨((RunThread.mk playing.run false).step input).run, none,
      playing.tell answers ((RunThread.mk playing.run false).step input).run⟩ := by
  have stays : ∀ next : PlaybackRun, PlaybackRun.Keeps playing.run next → next.runLifecycle.isActiveFile = false →
      LaidOut ⟨next, none, playing.tell answers next⟩ :=
    fun next keeps playlist => laidOut_of_keeps inv keeps playlist rfl
  cases input with
  | command given command =>
    unfold RunThread.step at playlist ⊢
    dsimp only at playlist ⊢
    rw [if_neg Bool.false_ne_true] at playlist ⊢
    cases handled : playing.run.handleCommand given command with
    | none =>
      rw [handled] at playlist
      exact stays _ (PlaybackRun.keeps_of_layout rfl) playlist
    | some result =>
      obtain ⟨cancels, next⟩ := result
      rw [handled] at playlist
      dsimp only at playlist ⊢
      cases command with
      | togglePause =>
        cases handled
        exact stays _ (PlaybackRun.keeps_of_layout rfl) playlist
      | jumpTo slotId requestId generation resumeTicks =>
        cases handled
        exact stays _ (PlaybackRun.cmdJumpTo_keeps _ _ _ _ _) playlist
      | queueAppend | queueRemove | queueMove | queueReorder => exact orderly.elim
      | loadNew item => exact loaded_laidOut handled orderly playlist
      | submitQueue items startIdx => exact submitted_laidOut inv handled orderly playlist
  | stopRequest now =>
    refine stays _ (PlaybackRun.keeps_of_layout ?_) playlist
    show (if playing.run.quitAt.isNone then playing.run.handleStopRequest now else _).layout = _
    split <;> rfl
  | quitTimer now =>
    refine stays _ (PlaybackRun.keeps_of_layout ?_) playlist
    unfold RunThread.step
    dsimp only
    rw [if_neg Bool.false_ne_true]
    split
    · split
      · exact PlaybackRun.layout_finalizeQuit
      · rfl
    · rfl
  | event given event =>
    refine stays _ ?_ playlist
    unfold RunThread.step
    dsimp only
    rw [if_neg Bool.false_ne_true]
    cases handled : playing.run.handleMpvEvent given event with
    | none => exact PlaybackRun.keeps_of_layout rfl
    | some result =>
      refine PlaybackRun.handleMpvEvent_keeps handled fun count counted => ?_
      rw [counted] at orderly
      exact orderly
  | advanceSequenceGeneration => exact stays _ (PlaybackRun.keeps_of_layout rfl) playlist
  | seedStatus item idx queueLen => exact stays _ (PlaybackRun.keeps_of_layout rfl) playlist

end PlayingRun

namespace PlayingRun

variable {playing : PlayingRun} {answers : EditAnswers} {edit : QueueEdit}

theorem spared_edits (laidOut : playing.LaidOut)
    (playlist : playing.run.runLifecycle.isActiveFile = false) (brings : playing.Brings edit)
    (spares : edit.spares playing.run = true)
    (plain : ∀ items, edit = .append items → items.any (·.item.isAudiobookshelf) = false)
    (given : Answers) :
    ∃ cancels next commands, playing.run.handleCommand given edit.command = some (cancels, next) ∧
      PlaybackRun.Edits playing.run next commands ∧
      next.queue.slotIds = edit.applied playing.run.queue.slotIds := by
  cases edit with
  | append items =>
    obtain ⟨next, appended, edits, queue⟩ := PlaybackRun.cmdAppendQueue_playlist brings playlist (plain items rfl) given
    refine ⟨false, next, _, ?_, edits, queue⟩
    show Option.map _ _ = _
    rw [appended]
    rfl
  | remove slotId =>
    have other : playing.run.activeSlotId ≠ some slotId := by
      simpa [QueueEdit.spares] using spares
    refine ⟨false, playing.run.cmdQueueRemove given slotId, ?_⟩
    by_cases member : slotId ∈ playing.run.queue.slotIds
    · refine ⟨[.playlistRemove (playing.run.queue.slotIds.idxOf slotId)], rfl, ?_⟩
      unfold PlaybackRun.cmdQueueRemove
      rw [ExecutionSequence.slotIndex_of_mem member]
      dsimp only
      rw [playlist, if_neg Bool.false_ne_true, (PlaybackRun.removePlaylistSlot_spec _ _ _).1, PlaybackRun.withoutSlot_slotIds]
      exact ⟨PlaybackRun.removePlaylistSlot_edits other _, rfl⟩
    · refine ⟨[], rfl, ?_⟩
      unfold PlaybackRun.cmdQueueRemove
      rw [ExecutionSequence.slotIndex_none.mpr member]
      exact ⟨.refl _, (erase_of_not_mem member).symm⟩
  | move slotId toIndex =>
    refine ⟨false, playing.run.cmdQueueMove slotId toIndex, ?_⟩
    cases moves : playing.run.movesTo slotId toIndex with
    | true =>
      obtain ⟨edits, queue⟩ := PlaybackRun.cmdQueueMove_spec moves
      refine ⟨_, rfl, edits, queue.trans ?_⟩
      exact (if_pos (PlaybackRun.movesTo_iff.mp moves).2.1).symm
    | false =>
      refine ⟨[], rfl, ?_⟩
      rw [PlaybackRun.cmdQueueMove_idle moves]
      exact ⟨.refl _, (laidOut.move_idle moves).symm⟩
  | reorder order =>
    refine ⟨false, playing.run.cmdQueueReorder order, ?_⟩
    cases permutation : isSlotPermutation playing.run.queue.slotIds order with
    | true =>
      obtain ⟨edits, queue⟩ := PlaybackRun.cmdQueueReorder_spec playlist laidOut.wellFormed permutation
      refine ⟨_, rfl, edits, queue.trans ?_⟩
      exact (if_pos permutation).symm
    | false =>
      refine ⟨[], rfl, ?_⟩
      unfold PlaybackRun.cmdQueueReorder QueueEdit.applied
      dsimp only
      rw [permutation, if_neg Bool.false_ne_true, if_neg Bool.false_ne_true]
      exact ⟨.refl _, rfl⟩

theorem edited_activeFile (activeFile : playing.run.runLifecycle.isActiveFile = true) (brings : playing.Brings edit) :
    (playing.edited answers edit).run.runLifecycle.isActiveFile = true := by
  have kept : ∀ {next cancels}, playing.run.handleCommand
      (answers.preparing (playing.run.preparedItem edit)) edit.command = some (cancels, next) →
      next.runLifecycle.projection = playing.run.runLifecycle.projection →
      (playing.edited answers edit).run.runLifecycle.isActiveFile = true := by
    intro next cancels handled same
    rw [edited_eq handled]
    unfold RunLifecycle.isActiveFile at activeFile ⊢
    rw [same]
    exact activeFile
  cases edit with
  | append items =>
    obtain ⟨next, appended, edits, -⟩ := PlaybackRun.cmdAppendQueue_activeFile brings activeFile
        (answers.preparing (playing.run.preparedItem (.append items)))
    refine @kept next false ?_ edits.projection
    show Option.map _ _ = _
    rw [appended]
    rfl
  | remove slotId =>
    refine kept rfl ?_
    unfold PlaybackRun.cmdQueueRemove
    split
    · rfl
    · rw [if_pos activeFile]
      exact PlaybackRun.removeActiveFileSlot_projection _ _ _ _
  | move slotId toIndex =>
    exact kept rfl (PlaybackRun.cmdQueueMove_activeFile activeFile slotId toIndex).projection
  | reorder order =>
    exact kept rfl (PlaybackRun.cmdQueueReorder_activeFile activeFile order).projection

theorem spared_keepsSource (spares : edit.spares playing.run = true)
    (plain : ∀ items, edit = .append items → items.any (·.item.isAudiobookshelf) = false) :
    playing.run.closesSource edit = false := by
  cases edit with
  | append items => simp [PlaybackRun.closesSource, PlaybackRun.promotes, plain items rfl]
  | remove slotId =>
    have other : playing.run.activeSlotId ≠ some slotId := by
      simpa [QueueEdit.spares] using spares
    simp [PlaybackRun.closesSource, other]
  | move | reorder => rfl

theorem laidOut_of_edits {next : PlaybackRun} {session : Option Nat} {commands : List MpvCommand}
    (laidOut : playing.LaidOut) (playlist : playing.run.runLifecycle.isActiveFile = false)
    (edits : PlaybackRun.Edits playing.run next commands)
    (entries : (playing.tell answers next).entries = next.queue.slotIds) (closed : session = none) :
    LaidOut ⟨next, session, playing.tell answers next⟩ :=
  ⟨edits.wellFormed laidOut.wellFormed, entries, edits.plain playlist laidOut.plain, closed⟩

theorem removed_laidOut {slotId : QueueSlotId} (laidOut : playing.LaidOut)
    (playlist : playing.run.runLifecycle.isActiveFile = false)
    (active : playing.run.activeSlotId = some slotId) (accepted : 0 ∉ answers.refused) :
    (playing.edited answers (.remove slotId)).LaidOut := by
  have member : slotId ∈ playing.run.queue.slotIds := laidOut.wellFormed.active slotId active
  let idx := playing.run.queue.slotIds.idxOf slotId
  obtain ⟨queue, mpv, -⟩ := playing.run.removePlaylistSlot_spec slotId idx
  have handled : playing.run.handleCommand (answers.preparing (playing.run.preparedItem (.remove slotId)))
      (QueueEdit.remove slotId).command = some (false, playing.run.removePlaylistSlot slotId idx) := by
    show some (false, playing.run.cmdQueueRemove _ slotId) = _
    unfold PlaybackRun.cmdQueueRemove
    rw [ExecutionSequence.slotIndex_of_mem member]
    dsimp only
    rw [playlist, if_neg Bool.false_ne_true]
  have item : playing.run.preparedItem (.remove slotId) = none := by
    simp [PlaybackRun.preparedItem, playlist]
  rw [edited_eq handled, item]
  refine ⟨?_, ?_, fun slot there => ?_, ?_⟩
  · rw [queue]
    exact PlaybackRun.withoutSlot_wellFormed laidOut.wellFormed slotId
  · have inside : idx < playing.player.entries.length := by
      rw [laidOut.entries]
      exact idxOf_lt_length_of_mem member
    rw [queue, PlaybackRun.withoutSlot_slotIds, ← eraseIdx_idxOf_eq_erase, ← laidOut.entries]
    show (playing.tell answers _).entries = _
    rw [tell_eq mpv]
    unfold told MpvPlayer.carryOut MpvPlayer.carryOut
    have taken : answers.refuses 0 (.playlistRemove idx) = false := by
      simpa [EditAnswers.refuses] using accepted
    rw [taken, if_neg Bool.false_ne_true]
    unfold MpvPlayer.apply
    dsimp only
    rw [if_pos inside]
    have same : playing.player.entries.idxOf slotId = idx := by rw [laidOut.entries]
    rw [same]
    split <;> rfl
  · have there : slot ∈ (playing.run.removePlaylistSlot slotId idx).queue.slots := there
    rw [queue] at there
    exact laidOut.plain slot (PlaybackRun.withoutSlot_mem there)
  · have kept := laidOut.session
    dsimp only
    split
    · rfl
    · exact kept

theorem edited_laidOut (inv : playing.run.runLifecycle.isActiveFile = false → playing.LaidOut)
    (orderly : playing.Orderly (.edit answers edit)) (takes : playing.Takes (.edit answers edit))
    (stays : (playing.edited answers edit).run.runLifecycle.isActiveFile = false) :
    (playing.edited answers edit).LaidOut := by
  obtain ⟨brings, accepted⟩ := orderly
  cases playlist : playing.run.runLifecycle.isActiveFile with
  | true =>
    rw [edited_activeFile playlist brings] at stays
    cases stays
  | false =>
    have laidOut := inv playlist
    cases spares : edit.spares playing.run with
    | false =>
      cases edit with
      | remove slotId =>
        have active : playing.run.activeSlotId = some slotId := by
          simpa [QueueEdit.spares] using spares
        exact removed_laidOut laidOut playlist active (accepted spares playlist)
      | append | move | reorder => cases spares
    | true =>
      have leaves : LeavesAlone playing (playing.edited answers edit) edit := by
        refine (leaves_iff_takes inv fun _ _ same => ?_).mpr takes spares
        cases same
        exact brings
      by_cases service : ∃ items, edit = .append items ∧ items.any (·.item.isAudiobookshelf) = true
      · obtain ⟨items, rfl, service⟩ := service
        cases marked : playing.run.queue.activeSlot with
        | none =>
          rw [promotes_unmarked playlist service marked]
          exact laidOut
        | some active =>
          have taken := (promote_leaves_iff playlist service laidOut brings).mp leaves active marked
          have activeFile := (promotes_loaded playlist service laidOut brings marked taken.1).2.1
          rw [activeFile] at stays
          cases stays
      · have plain : ∀ items, edit = .append items → items.any (·.item.isAudiobookshelf) = false := by
          intro items same
          cases holds : items.any (·.item.isAudiobookshelf) with
          | false => rfl
          | true => exact absurd ⟨items, same, holds⟩ service
        obtain ⟨cancels, next, commands, handled, edits, queue⟩ := spared_edits laidOut playlist
          brings spares plain (answers.preparing (playing.run.preparedItem edit))
        have keeps : playing.run.closesSource edit = false := spared_keepsSource spares plain
        have entries := ((edited_leaves_iff laidOut playlist handled edits keeps queue).mp leaves).1
        rw [edited_eq handled, keeps]
        refine laidOut_of_edits laidOut playlist edits ?_ laidOut.session
        rw [queue, tell_eq edits.mpv]
        exact entries

theorem step_keeps_laidOut {input : PlayingInput} (inv : playing.run.runLifecycle.isActiveFile = false → playing.LaidOut)
    (orderly : playing.Orderly input) (takes : playing.Takes input)
    (stays : (playing.step input).run.runLifecycle.isActiveFile = false) :
    (playing.step input).LaidOut := by
  cases input with
  | edit answers edit => exact edited_laidOut inv orderly takes stays
  | other answers session input =>
    have closed : (playing.handled answers session input).session = none := by
      show (if _ then session else none) = none
      rw [show ((RunThread.mk playing.run false).step input).run.runLifecycle.isActiveFile = false from stays]
      rfl
    have laidOut := step_laidOut inv orderly stays
    exact ⟨laidOut.wellFormed, laidOut.entries, laidOut.plain, closed⟩
  | plays current position =>
    have laidOut := inv stays
    exact ⟨laidOut.wellFormed, laidOut.entries, laidOut.plain, laidOut.session⟩

/-- A run as it is started: mpv has loaded its sources, and an active file's alone may be open. -/
structure Begins (items : List ExecSlot) (init : RunInit) (playing : PlayingRun) : Prop where
  started : PlaybackRun.newFromSlotItems items init = some playing.run
  entries : playing.run.runLifecycle.isActiveFile = false →
    playing.player.entries = items.map (·.slotId)
  session : playing.run.runLifecycle.isActiveFile = false → playing.session = none

instance (items : List ExecSlot) (init : RunInit) (playing : PlayingRun) :
    Decidable (Begins items init playing) :=
  decidable_of_iff _ ⟨fun ⟨started, entries, session⟩ => ⟨started, entries, session⟩,
    fun begins => And.intro begins.started (And.intro begins.entries begins.session)⟩

theorem Begins.laidOut {items : List ExecSlot} {init : RunInit} (begins : Begins items init playing)
    (playlist : playing.run.runLifecycle.isActiveFile = false) : playing.LaidOut := by
  have started := begins.started
  rw [PlaybackRun.newFromSlotItems, Option.bind_eq_some_iff] at started
  obtain ⟨queue, built, started⟩ := started
  obtain ⟨wellFormed, ids⟩ := ExecutionSequence.fromSlotItems_spec built
  rw [PlaybackRun.initFromQueue, Option.map_eq_some_iff] at started
  obtain ⟨initial, -, same⟩ := started
  have queueIs : playing.run.queue = queue := by rw [← same]
  have projection : playing.run.runLifecycle.projection =
      if queue.hasAudiobookshelfEntries then .activeFile else .playlist := by rw [← same]; rfl
  have slotIds : queue.slotIds = items.map (·.slotId) := by
    rw [ids, map_map]
    rfl
  refine ⟨?_, ?_, fun slot member => ?_, begins.session playlist⟩
  · rw [queueIs]
    exact wellFormed
  · rw [begins.entries playlist, queueIs, slotIds]
  · rw [queueIs] at member
    unfold RunLifecycle.isActiveFile at playlist
    rw [projection] at playlist
    cases service : slot.item.isAudiobookshelf with
    | false => rfl
    | true =>
      have held : queue.hasAudiobookshelfEntries = true := any_eq_true.mpr ⟨slot, member, service⟩
      rw [held] at playlist
      cases playlist

/-- Every edit of a run leaves the playing item alone exactly if mpv takes every edit. -/
theorem queue_edits_leave_playing_item {items : List ExecSlot} {init : RunInit}
    {inputs : List PlayingInput} (begins : Begins items init playing)
    (orderly : machine.Along Orderly playing inputs) :
    machine.Along Leaves playing inputs ↔ machine.Along Takes playing inputs := by
  have keep : ∀ (playing : PlayingRun) (input : PlayingInput),
      (playing.run.runLifecycle.isActiveFile = false → playing.LaidOut) →
      playing.Orderly input ∧ playing.Takes input →
      ((playing.step input).run.runLifecycle.isActiveFile = false →
        (playing.step input).LaidOut) :=
    fun playing input inv meets => step_keeps_laidOut inv meets.1 meets.2
  have each : ∀ (playing : PlayingRun) (input : PlayingInput),
      (playing.run.runLifecycle.isActiveFile = false → playing.LaidOut) →
      (playing.Orderly input ∧ playing.Leaves input ↔
        playing.Orderly input ∧ playing.Takes input) := by
    refine fun playing input inv => and_congr_right fun orderly => ?_
    refine leaves_iff_takes inv fun answers edit same => ?_
    cases same
    exact orderly.1
  have agree := @Machine.along_iff _ _ machine _ _ _ keep each playing inputs begins.laidOut
  constructor
  · intro leaves
    exact (agree.mp (orderly.and leaves)).mono fun _ _ both => both.2
  · intro takes
    exact (agree.mpr (orderly.and takes)).mono fun _ _ both => both.2

end PlayingRun

/-! ### A film with a book behind it -/

namespace PlayingRun

def film (slot : UInt64) (id : String) (positionTicks : Int) : ExecSlot :=
  ⟨⟨slot⟩, .emby ⟨id, id, "Movie", "Video", 1000, false, positionTicks, "", 0, 0, ""⟩⟩

def book (slot : UInt64) : ExecSlot :=
  ⟨⟨slot⟩, .audiobookshelf (.book ⟨"m", "m", none, 0, false, false, ""⟩)⟩

/-- Two films, of which mpv has the first loaded where its item left off. -/
def films : PlayingRun where
  run := (PlaybackRun.newFromSlotItems [film 1 "a" 400, film 2 "b" 0]
    { startIdx := 0, origin := .queue }).getD {}
  player := { entries := [⟨1⟩, ⟨2⟩], current := some 0, position := 400 }

theorem queue_edits_leave_playing_item_of_films :
    machine.Along Leaves films
        [.plays (some 0) 700, .edit {} (.append [film 3 "c" 0]), .edit {} (.move ⟨3⟩ 0),
          .edit {} (.remove ⟨2⟩), .plays (some 1) 400, .edit {} (.append [book 4])] ↔
      machine.Along Takes films
        [.plays (some 0) 700, .edit {} (.append [film 3 "c" 0]), .edit {} (.move ⟨3⟩ 0),
          .edit {} (.remove ⟨2⟩), .plays (some 1) 400, .edit {} (.append [book 4])] :=
  @queue_edits_leave_playing_item _ [film 1 "a" 400, film 2 "b" 0]
    { startIdx := 0, origin := .queue } _ (by decide) (by decide)

/-- A book appended while the film plays on reloads the film where its item left off. A load that
    mpv refuses ends the run with mpv's playlist emptied; an append, a removal and a move it
    refuses edit the run's queue alone; and a removal takes the slot mpv has already gone to. -/
theorem queue_edit_disturbs_playing_item :
    Begins [film 1 "a" 400, film 2 "b" 0] { startIdx := 0, origin := .queue } films ∧
      ∀ inputs ∈ ([
        [.plays (some 0) 700, .edit {} (.append [book 3])],
        [.edit { loadfile := some "" } (.append [book 3])],
        [.edit { refused := [0] } (.append [film 3 "c" 0])],
        [.edit { refused := [0] } (.remove ⟨2⟩)],
        [.edit { refused := [0] } (.move ⟨2⟩ 0)],
        [.plays (some 1) 0, .edit {} (.remove ⟨2⟩)]] : List (List PlayingInput)),
        machine.Along Orderly films inputs ∧ ¬ machine.Along Leaves films inputs := by
  decide

end PlayingRun

end Mbv.Player
