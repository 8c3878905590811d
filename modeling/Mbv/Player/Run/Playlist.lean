import Mbv.Player.Run.Coherence

namespace Mbv.Player

open Mbv.Queue List

/-- mpv moves the entry at `index1` to stand before the entry at `index2`. -/
def mpvMove (entries : List QueueSlotId) (index1 index2 : Nat) : Option (List QueueSlotId) :=
  match entries[index1]? with
  | none => none
  | some entry =>
    if index2 ≤ entries.length then
      some ((entries.eraseIdx index1).insertIdx
        (if index1 < index2 then index2 - 1 else index2) entry)
    else none

/-- The playlist after a command mpv carries out on it; `none` is a command that edits no entry. -/
def mpvEdit (entries : List QueueSlotId) : MpvCommand → Option (List QueueSlotId)
  | .loadfile slotId .append | .loadfile slotId .appendPlay => some (entries ++ [slotId])
  | .playlistRemove index =>
    if index < entries.length then some (entries.eraseIdx index) else none
  | .playlistMove index1 index2 => mpvMove entries index1 index2
  | _ => none

/-- mpv's playlist and the playlist counts it has not delivered yet, oldest first. -/
structure MpvPlaylist where
  entries : List QueueSlotId
  counts : List Nat := []
deriving DecidableEq

def MpvPlaylist.carryOut (playlist : MpvPlaylist) (command : MpvCommand) : MpvPlaylist :=
  match mpvEdit playlist.entries command with
  | some entries => ⟨entries, playlist.counts ++ [entries.length]⟩
  | none => playlist

structure PlaylistSystem where
  run : PlaybackRun
  playlist : MpvPlaylist

inductive PlaylistInput where
  | edit (answers : Answers) (command : PlayerCommand)
  | deliver (answers : Answers)

namespace PlaylistSystem

def step (system : PlaylistSystem) : PlaylistInput → PlaylistSystem
  | .edit answers command =>
    match system.run.handleCommand answers command with
    | none => system
    | some (_, run) =>
      { run := run
        playlist :=
          (run.mpv.drop system.run.mpv.length).foldl MpvPlaylist.carryOut system.playlist }
  | .deliver answers =>
    match system.playlist.counts with
    | [] => system
    | count :: counts =>
      match system.run.handleMpvEvent answers (.playlistCount count) with
      | none => system
      | some (_, run) => { run := run, playlist := { system.playlist with counts := counts } }

def machine : Machine PlaylistSystem PlaylistInput := ⟨step⟩

end PlaylistSystem

/-- Laid out: the run plays its queue as mpv's own playlist, with mpv's entries in mpv's order. -/
structure PlaylistSystem.Mirrors (system : PlaylistSystem) : Prop where
  entries : system.run.queue.slotIds = system.playlist.entries
  wellFormed : system.run.queue.WellFormed
  playlist : system.run.runLifecycle.projection = .playlist
  ready : system.run.loadIsReady = true

/-- The run's own queue edits: batches of fresh slots mpv plays from a URL of its own, removals,
    moves and reorders. -/
def PlaylistInput.OwnEdit (system : PlaylistSystem) : PlaylistInput → Prop
  | .deliver _ => True
  | .edit _ (.queueAppend items) =>
    (items.map (·.slotId)).Nodup ∧
      (∀ slot ∈ items, slot.slotId ∉ system.run.queue.slotIds ∧
        slot.item.isAudiobookshelf = false)
  | .edit _ (.queueRemove _) | .edit _ (.queueMove _ _) | .edit _ (.queueReorder _) => True
  | .edit _ _ => False

def PlaylistInput.OnTime (system : PlaylistSystem) : PlaylistInput → Prop
  | .edit _ _ => True
  | .deliver _ => ∀ count ∈ system.playlist.counts.head?, count = system.run.queueLen

instance PlaylistInput.OwnEdit.decide (system : PlaylistSystem) :
    ∀ input : PlaylistInput, Decidable (input.OwnEdit system)
  | .deliver _ => isTrue trivial
  | .edit _ (.queueAppend _) => inferInstanceAs (Decidable (_ ∧ _))
  | .edit _ (.queueRemove _) | .edit _ (.queueMove _ _) | .edit _ (.queueReorder _) =>
    isTrue trivial
  | .edit _ .togglePause | .edit _ (.jumpTo ..) | .edit _ (.loadNew _)
  | .edit _ (.submitQueue ..) => isFalse not_false

instance PlaylistInput.OnTime.decide (system : PlaylistSystem) :
    ∀ input : PlaylistInput, Decidable (input.OnTime system)
  | .edit _ _ => isTrue trivial
  | .deliver _ => inferInstanceAs (Decidable (∀ count ∈ system.playlist.counts.head?, _))

/-- A delivery drops no slot mpv still holds and reports no desync. -/
def PlaylistInput.Harmless (system : PlaylistSystem) : PlaylistInput → Prop
  | .edit _ _ => True
  | .deliver answers =>
    (∀ id ∈ system.run.queue.slotIds, id ∈ system.playlist.entries →
      id ∈ (system.step (.deliver answers)).run.queue.slotIds) ∧
      ∀ message, .queueDesynced message ∉
        (system.step (.deliver answers)).run.events.drop system.run.events.length

theorem entries_carryOut (playlist : MpvPlaylist) (commands : List MpvCommand) :
    (commands.foldl MpvPlaylist.carryOut playlist).entries =
      commands.foldl (fun entries command => (mpvEdit entries command).getD entries)
        playlist.entries := by
  induction commands generalizing playlist with
  | nil => rfl
  | cons command commands ih =>
    rw [foldl_cons, foldl_cons, ih]
    unfold MpvPlaylist.carryOut
    cases mpvEdit playlist.entries command <;> rfl

/-- The run's `playlist-move` arguments make mpv's move land where the run's own move does. -/
theorem mpvMove_eq_moveTo {entries : List QueueSlotId} {slotId : QueueSlotId} {target : Nat}
    (member : slotId ∈ entries) (inside : target < entries.length) :
    mpvMove entries (playlistMoveArgs (entries.idxOf slotId) target).1 (playlistMoveArgs (entries.idxOf slotId) target).2 =
      some (entries.moveTo slotId target) := by
  have there := List.getElem?_idxOf member
  have short : min target (entries.length - 1) = target := by omega
  unfold mpvMove playlistMoveArgs
  rw [there]
  dsimp only
  rw [List.moveTo, if_pos member, short, eraseIdx_idxOf_eq_erase]
  by_cases later : entries.idxOf slotId < target
  · rw [if_pos later, if_pos (by omega), if_pos (by omega), Nat.add_sub_cancel]
  · rw [if_neg later, if_pos (by omega), if_neg later]

structure Emits (run next : PlaybackRun) (commands : List MpvCommand) : Prop where
  mpv : next.mpv = run.mpv ++ commands
  entries : next.queue.slotIds =
    commands.foldl (fun entries command => (mpvEdit entries command).getD entries)
      run.queue.slotIds
  wellFormed : next.queue.WellFormed
  playlist : next.runLifecycle.projection = .playlist
  ready : next.loadIsReady = true

theorem Emits.refl {run : PlaybackRun} (wellFormed : run.queue.WellFormed)
    (playlist : run.runLifecycle.projection = .playlist) (ready : run.loadIsReady = true) :
    Emits run run [] :=
  ⟨by simp, rfl, wellFormed, playlist, ready⟩

theorem Emits.trans {run middle next : PlaybackRun} {first second : List MpvCommand}
    (before : Emits run middle first) (after : Emits middle next second) :
    Emits run next (first ++ second) := by
  refine ⟨?_, ?_, after.wellFormed, after.playlist, after.ready⟩
  · rw [after.mpv, before.mpv, append_assoc]
  · rw [after.entries, before.entries, foldl_append]

namespace PlaybackRun

variable {run next : PlaybackRun}

theorem inactive_of_playlist (playlist : run.runLifecycle.projection = .playlist) : run.runLifecycle.isActiveFile = false := by
  simp [RunLifecycle.isActiveFile, playlist]

theorem cmdQueueMove_emits (wellFormed : run.queue.WellFormed)
    (playlist : run.runLifecycle.projection = .playlist) (ready : run.loadIsReady = true)
    (slotId : QueueSlotId) (toIndex : Nat) :
    ∃ commands, Emits run (run.cmdQueueMove slotId toIndex) commands := by
  have unmoved := Emits.refl wellFormed playlist ready
  unfold cmdQueueMove
  cases found : run.queue.slotIndex slotId with
  | none => exact ⟨_, unmoved⟩
  | some source =>
    have member := (ExecutionSequence.slotIndex_some found).1
    rw [ExecutionSequence.slotIndex_of_mem member, Option.some.injEq] at found
    dsimp only
    split
    · exact ⟨_, unmoved⟩
    · rename_i useful
      simp only [Bool.or_eq_true, decide_eq_true_eq, not_or, Nat.not_le] at useful
      have inside : toIndex < run.queue.slotIds.length := by
        rw [ExecutionSequence.slotIds_length]
        exact useful.1.2
      have moved := mpvMove_eq_moveTo member inside
      rw [found] at moved
      simp only [inactive_of_playlist playlist]
      refine ⟨[.playlistMove _ _], rfl, ?_, wellFormed.moveSlot slotId toIndex, playlist, ready⟩
      show (run.queue.moveSlot slotId toIndex).2.slotIds = _
      rw [ExecutionSequence.moveSlot_slotIds, foldl_cons, foldl_nil, mpvEdit, moved, Option.getD_some]

theorem cmdQueueReorder_emits (wellFormed : run.queue.WellFormed)
    (playlist : run.runLifecycle.projection = .playlist) (ready : run.loadIsReady = true)
    (order : List QueueSlotId) :
    ∃ commands, Emits run (run.cmdQueueReorder order) commands := by
  unfold cmdQueueReorder
  split
  · rename_i permutation
    clear permutation
    generalize reorderMovePlan run.queue.slotIds order = moves
    induction moves generalizing run with
    | nil => exact ⟨_, Emits.refl wellFormed playlist ready⟩
    | cons move moves ih =>
      obtain ⟨first, moved⟩ := cmdQueueMove_emits wellFormed playlist ready move.1 move.2
      obtain ⟨rest, reordered⟩ := ih moved.wellFormed moved.playlist moved.ready
      exact ⟨first ++ rest, moved.trans reordered⟩
  · exact ⟨_, Emits.refl wellFormed playlist ready⟩

theorem cmdQueueRemove_emits (wellFormed : run.queue.WellFormed)
    (playlist : run.runLifecycle.projection = .playlist) (ready : run.loadIsReady = true)
    (answers : Answers) (slotId : QueueSlotId) :
    ∃ commands, Emits run (run.cmdQueueRemove answers slotId) commands := by
  unfold cmdQueueRemove
  cases found : run.queue.slotIndex slotId with
  | none => exact ⟨_, Emits.refl wellFormed playlist ready⟩
  | some idx =>
    have member := (ExecutionSequence.slotIndex_some found).1
    rw [ExecutionSequence.slotIndex_of_mem member, Option.some.injEq] at found
    dsimp only
    rw [if_neg (by simp [inactive_of_playlist playlist])]
    have place := run.removePlaylistSlot_place slotId idx
    have queue := congrArg Place.queue place
    have projection := congrArg Place.projection place
    have kept : (run.removePlaylistSlot slotId idx).mpv = run.mpv ++ [.playlistRemove idx] ∧
        (run.removePlaylistSlot slotId idx).itemLifecycle = run.itemLifecycle := by
      by_cases jumped : run.runLifecycle.jumpTargetSlot = some slotId
      · by_cases own : run.activeSlotId = some slotId <;> simp [removePlaylistSlot, command, syncStatusPosition, jumped, own]
      · by_cases own : run.activeSlotId = some slotId <;> simp [removePlaylistSlot, command, syncStatusPosition, jumped, own]
    have inside : idx < run.queue.slotIds.length := by
      rw [← found]
      exact idxOf_lt_length_of_mem member
    have queue : (run.removePlaylistSlot slotId idx).queue =
        if run.activeSlotId = some slotId then run.queue.removeActiveSlotConfirmed slotId
        else run.queue.removeSlot slotId := queue
    have erased : (run.removePlaylistSlot slotId idx).queue.slotIds = run.queue.slotIds.erase slotId := by
      rw [queue]
      split
      · exact ExecutionSequence.removeActiveSlotConfirmed_slotIds slotId
      · rename_i other
        exact (ExecutionSequence.removeSlot_slotIds slotId).trans (if_neg other)
    refine ⟨[.playlistRemove idx], kept.1, ?_, ?_, projection.trans playlist, ?_⟩
    · rw [erased, foldl_cons, foldl_nil, mpvEdit, if_pos inside, Option.getD_some, ← found, eraseIdx_idxOf_eq_erase]
    · rw [queue]
      split
      · exact wellFormed.removeActiveSlotConfirmed slotId
      · exact wellFormed.removeSlot slotId
    · rw [loadIsReady, kept.2]
      exact ready

theorem appendSlots_slotIds {queue longer : ExecutionSequence} {items : List ExecSlot}
    (wellFormed : queue.WellFormed) (appended : appendSlots queue items = some longer) :
    longer.slotIds = queue.slotIds ++ items.map (·.slotId) ∧ longer.WellFormed := by
  induction items generalizing queue with
  | nil =>
    cases appended
    simpa using wellFormed
  | cons slot items ih =>
    rw [appendSlots, Option.bind_eq_some_iff] at appended
    obtain ⟨first, appendedFirst, rest⟩ := appended
    obtain ⟨ids, wellFormed⟩ := ih (wellFormed.appendWithId appendedFirst) rest
    rw [(ExecutionSequence.appendWithId_spec appendedFirst).1] at ids
    exact ⟨by rw [ids, map_cons, append_assoc, singleton_append], wellFormed⟩

theorem loads_entries (entries : List QueueSlotId) (items : List ExecSlot) :
    (items.map fun slot => MpvCommand.loadfile slot.slotId .appendPlay).foldl
        (fun entries command => (mpvEdit entries command).getD entries) entries =
      entries ++ items.map (·.slotId) := by
  induction items generalizing entries with
  | nil => simp
  | cons slot items ih => exact (ih (entries ++ [slot.slotId])).trans (by simp)

theorem cmdAppendQueue_emits (wellFormed : run.queue.WellFormed)
    (playlist : run.runLifecycle.projection = .playlist) (ready : run.loadIsReady = true)
    {answers : Answers} {items : List ExecSlot}
    (plain : ∀ slot ∈ items, slot.item.isAudiobookshelf = false)
    (appended : run.cmdAppendQueue answers items = some next) :
    ∃ commands, Emits run next commands := by
  have direct : (items.any fun slot => slot.item.isAudiobookshelf) = false := by
    simpa using plain
  unfold cmdAppendQueue at appended
  rw [inactive_of_playlist playlist, direct] at appended
  split at appended
  · cases appended
    exact ⟨_, Emits.refl wellFormed playlist ready⟩
  · simp only [Bool.false_eq_true, if_false] at appended
    unfold appendItemsViaMpv at appended
    dsimp only at appended
    split at appended
    · rw [appendItemsToQueue, Option.map_eq_some_iff] at appended
      obtain ⟨longer, built, rfl⟩ := appended
      obtain ⟨ids, kept⟩ := appendSlots_slotIds wellFormed built
      refine ⟨_, rfl, ?_, kept, playlist, ready⟩
      show longer.slotIds = _
      rw [ids]
      exact (loads_entries _ _).symm
    · cases appended
      exact ⟨[], by simp [send], rfl, wellFormed, playlist, ready⟩

end PlaybackRun

namespace PlaylistSystem

variable {system : PlaylistSystem}

theorem handleCommand_emits (mirrors : system.Mirrors) {answers : Answers}
    {command : PlayerCommand} {cancels : Bool} {next : PlaybackRun}
    (own : (PlaylistInput.edit answers command).OwnEdit system)
    (handled : system.run.handleCommand answers command = some (cancels, next)) :
    ∃ commands, Emits system.run next commands := by
  obtain ⟨-, wellFormed, playlist, ready⟩ := mirrors
  cases command with
  | queueAppend items =>
    simp only [PlaybackRun.handleCommand, Option.map_eq_some_iff, Prod.mk.injEq] at handled
    obtain ⟨_, result, -, rfl⟩ := handled
    exact PlaybackRun.cmdAppendQueue_emits wellFormed playlist ready (fun slot member => (own.2 slot member).2) result
  | queueRemove slotId =>
    cases handled
    exact PlaybackRun.cmdQueueRemove_emits wellFormed playlist ready answers slotId
  | queueMove slotId toIndex =>
    cases handled
    exact PlaybackRun.cmdQueueMove_emits wellFormed playlist ready slotId toIndex
  | queueReorder order =>
    cases handled
    exact PlaybackRun.cmdQueueReorder_emits wellFormed playlist ready order
  | togglePause | jumpTo | loadNew | submitQueue => exact own.elim

theorem edit_mirrors (mirrors : system.Mirrors) {answers : Answers} {command : PlayerCommand}
    (own : (PlaylistInput.edit answers command).OwnEdit system) :
    (system.step (.edit answers command)).Mirrors := by
  cases handled : system.run.handleCommand answers command with
  | none => simpa [step, handled] using mirrors
  | some result =>
    obtain ⟨cancels, next⟩ := result
    obtain ⟨commands, emits⟩ := handleCommand_emits mirrors own handled
    have stepped : system.step (.edit answers command) =
        { run := next, playlist := commands.foldl MpvPlaylist.carryOut system.playlist } := by
      simp [step, handled, emits.mpv]
    rw [stepped]
    refine ⟨?_, emits.wellFormed, emits.playlist, emits.ready⟩
    rw [emits.entries, mirrors.entries]
    exact (entries_carryOut system.playlist commands).symm

theorem deliver_step (ready : system.run.loadIsReady = true) (answers : Answers) {count : Nat}
    {counts : List Nat} (oldest : system.playlist.counts = count :: counts) :
    system.step (.deliver answers) =
      { run := system.run.onPlaylistCountChanged count
        playlist := { system.playlist with counts := counts } } := by
  have counted : ¬ (count : Int) < 0 := by omega
  simp [step, oldest, PlaybackRun.handleMpvEvent, ready, counted]

theorem onPlaylistCountChanged_onTime {run : PlaybackRun} : run.onPlaylistCountChanged run.queueLen = run := by
  simp [PlaybackRun.onPlaylistCountChanged]

theorem onPlaylistCountChanged_late {run : PlaybackRun} {count : Nat}
    (playlist : run.runLifecycle.projection = .playlist) (late : count ≠ run.queueLen) :
    ∃ message, (run.onPlaylistCountChanged count).events = run.events ++ [.queueDesynced message] := by
  have shrunk (slotIds : List QueueSlotId) (start : PlaybackRun) :
      (slotIds.foldl (fun run slotId => run.dropSlot slotId) start).events = start.events := by
    induction slotIds generalizing start with
    | nil => rfl
    | cons slotId slotIds ih => exact (ih _).trans rfl
  unfold PlaybackRun.onPlaylistCountChanged
  rw [if_neg (by simp [PlaybackRun.inactive_of_playlist playlist]), if_neg late]
  split
  · refine ⟨"Queue desynced: " ++ toString (run.queueLen - count) ++ " item(s) removed externally", ?_⟩
    exact congrArg (· ++ [_]) (shrunk (run.queue.slotIds.drop count) run)
  · dsimp only
    split <;> exact ⟨_, rfl⟩

theorem deliver_mirrors (mirrors : system.Mirrors) {answers : Answers} (onTime : (PlaylistInput.deliver answers).OnTime system) :
    (system.step (.deliver answers)).Mirrors := by
  cases oldest : system.playlist.counts with
  | nil => simpa [step, oldest] using mirrors
  | cons count counts =>
    have same : count = system.run.queueLen := onTime count (by simp [oldest])
    rw [deliver_step mirrors.ready answers oldest, same, onPlaylistCountChanged_onTime]
    exact ⟨mirrors.entries, mirrors.wellFormed, mirrors.playlist, mirrors.ready⟩

theorem harmless_iff (mirrors : system.Mirrors) (input : PlaylistInput) : input.Harmless system ↔ input.OnTime system := by
  cases input with
  | edit answers command => exact Iff.rfl
  | deliver answers =>
    constructor
    · rintro ⟨-, quiet⟩ count first
      by_contra late
      obtain ⟨counts, oldest⟩ : ∃ counts, system.playlist.counts = count :: counts := ⟨_, eq_cons_of_mem_head? first⟩
      obtain ⟨message, events⟩ := onPlaylistCountChanged_late mirrors.playlist late
      rw [deliver_step mirrors.ready answers oldest, events] at quiet
      exact quiet message (by simp)
    · intro onTime
      cases oldest : system.playlist.counts with
      | nil => exact ⟨fun _ held _ => by simpa [step, oldest] using held, by simp [step, oldest]⟩
      | cons count counts =>
        have same : count = system.run.queueLen := onTime count (by simp [oldest])
        show _ ∧ _
        rw [deliver_step mirrors.ready answers oldest, same, onPlaylistCountChanged_onTime]
        exact ⟨fun _ held _ => held, by simp⟩

theorem step_mirrors (mirrors : system.Mirrors) {input : PlaylistInput}
    (own : input.OwnEdit system) (onTime : input.OnTime system) : (system.step input).Mirrors := by
  cases input with
  | edit answers command => exact edit_mirrors mirrors own
  | deliver answers => exact deliver_mirrors mirrors onTime

/-- From a laid-out playlist the run's own edits are harmless to it, and leave it in mpv's order,
    exactly when every count is delivered while it is the length of the queue. -/
theorem own_count_observations_harmless (mirrors : system.Mirrors) {inputs : List PlaylistInput}
    (own : machine.Along (fun system input => input.OwnEdit system) system inputs) :
    (machine.Along (fun system input => input.Harmless system) system inputs ∧
      ((machine.run system inputs).playlist.counts = [] →
        (machine.run system inputs).run.queue.slotIds =
          (machine.run system inputs).playlist.entries)) ↔
      machine.Along (fun system input => input.OnTime system) system inputs := by
  constructor
  · rintro ⟨harmless, -⟩
    induction inputs generalizing system with
    | nil => trivial
    | cons input inputs ih =>
      have onTime := (harmless_iff mirrors input).mp harmless.1
      exact ⟨onTime, ih (step_mirrors mirrors own.1 onTime) own.2 harmless.2⟩
  · intro onTime
    have keep (system : PlaylistSystem) (input : PlaylistInput) (mirrors : system.Mirrors)
        (both : input.OwnEdit system ∧ input.OnTime system) : (system.step input).Mirrors :=
      step_mirrors mirrors both.1 both.2
    refine ⟨?_, fun _ => ?_⟩
    · exact Machine.along_of_invariant keep
        (fun system input mirrors both => (harmless_iff mirrors input).mpr both.2) mirrors
        (own.and onTime)
    · exact (Machine.run_invariant keep mirrors (own.and onTime)).entries

def oneStream : PlaylistSystem where
  run := { queue := ⟨[⟨⟨1⟩, .twitch ⟨"", ""⟩⟩], some ⟨1⟩⟩ }
  playlist := { entries := [⟨1⟩] }

theorem oneStream_mirrors : oneStream.Mirrors := ⟨rfl, ⟨by decide, by decide⟩, rfl, rfl⟩

def oneByOne : List PlaylistInput :=
  [.edit {} (.queueAppend [⟨⟨2⟩, .twitch ⟨"", ""⟩⟩]), .deliver {}, .edit {} (.queueMove ⟨2⟩ 0),
    .deliver {}]

theorem own_count_observations_harmless_one_by_one :
    machine.Along (fun system input => input.Harmless system) oneStream oneByOne ∧
      ((machine.run oneStream oneByOne).playlist.counts = [] →
        (machine.run oneStream oneByOne).run.queue.slotIds =
          (machine.run oneStream oneByOne).playlist.entries) :=
  (own_count_observations_harmless oneStream_mirrors (by decide)).mpr (by decide)

/-- One batch of two: the first count arrives when the queue already holds both slots, so the
    second is dropped and a desync is reported while mpv holds all three entries. -/
theorem batch_append_count_desyncs :
    let batch := oneStream.step
      (.edit {} (.queueAppend ([2, 3].map fun raw => ⟨⟨raw⟩, .twitch ⟨"", ""⟩⟩)))
    let observed := batch.step (.deliver {})
    batch.playlist = ⟨[⟨1⟩, ⟨2⟩, ⟨3⟩], [2, 3]⟩ ∧ batch.run.queue.slotIds = [⟨1⟩, ⟨2⟩, ⟨3⟩] ∧
      observed.run.queue.slotIds = [⟨1⟩, ⟨2⟩] ∧ observed.playlist.entries = [⟨1⟩, ⟨2⟩, ⟨3⟩] ∧
      observed.run.events =
        [.queueDesynced "Queue desynced: 1 item(s) removed externally"] := by
  decide

end PlaylistSystem

end Mbv.Player
