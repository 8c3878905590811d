import Mbv.Player.Run.CommandEffects

namespace Mbv.Player

open Mbv.Queue

structure Record where
  events : List PlayerEvent
  identity : PlaybackGeneration
  ended : Option PlaybackGeneration
  nearEnd : Bool

/-- What the run's functions do to the record: they send events under the run's own identity, send
    a stop while the identity is open, which closes it, and clear the mark. -/
inductive Record.Moves : Record → Record → Prop
  | quiet (record : Record) : Moves record record
  | sends (record : Record) (event : PlayerEvent) (plain : event.stop? = none)
    (own : ∀ label ∈ event.label?, label = record.identity) :
    Moves record { record with events := record.events ++ [event] }
  | stop (record : Record) (outcome : StopOutcome) (unclosed : record.ended ≠ some record.identity) :
    Moves record
      { record with
        events := record.events ++ [.stopped record.identity outcome]
        ended := some record.identity }
  | clears (record : Record) : Moves record { record with nearEnd := false }
  | trans {before middle after : Record} (first : Moves before middle)
    (second : Moves middle after) : Moves before after

def PlaybackRun.record (run : PlaybackRun) : Record :=
  ⟨run.events, run.runIdentity, run.runLifecycle.ended, run.stoppedNearEnd⟩

theorem Record.Moves.of_eq {before after : Record} (same : after = before) : before.Moves after := same ▸ .quiet after

def PlaybackRun.recordDuring (run : PlaybackRun) (command : PlayerCommand) : Record :=
  { run.record with
    identity := command.identityDuring run
    ended := if command.accepts then none else run.runLifecycle.ended }

namespace RunView

variable {view after : RunView} {event : MpvEvent} {answers : Answers} {command : PlayerCommand}

def record (view : RunView) : Record := ⟨view.events, view.identity, view.ended, view.nearEnd⟩

theorem record_tell {told : List PlayerEvent} (own : ∀ event ∈ told,
    event.stop? = none ∧ ∀ label ∈ event.label?, label = view.identity) :
    view.record.Moves (view.tell told).record := by
  induction told generalizing view with
  | nil => exact .of_eq (congrArg (Record.mk · _ _ _) (List.append_nil _))
  | cons event told ih =>
    obtain ⟨⟨plain, labelled⟩, later⟩ := List.forall_mem_cons.mp own
    have first : view.record.Moves (view.tell [event]).record := .sends _ event plain labelled
    have rest := @ih (view.tell [event]) later
    rw [tell_tell] at rest
    exact first.trans rest

theorem record_stop (outcome : StopOutcome) : view.record.Moves (view.stop outcome).record := by
  unfold stop
  split
  · exact .quiet _
  · rename_i unclosed
    exact .stop view.record outcome unclosed

theorem record_changed {told : List PlayerEvent} (slotId : QueueSlotId)
    (transition : Option (PlaybackRequestId × PlaybackGeneration))
    (plain : ∀ event ∈ told, event.Plain view.identity) :
    view.record.Moves (view.tell (told ++ [.trackChanged slotId transition])).record := by
  refine record_tell fun event member => ?_
  rcases List.mem_append.mp member with early | last
  · exact ⟨(plain event early).1, (plain event early).2.2⟩
  · rw [List.mem_singleton.mp last]
    exact ⟨rfl, fun _ => nofun⟩

theorem record_told {told : PlayerEvent} (plain : told.Plain view.identity) : view.record.Moves (view.tell [told]).record :=
  .sends _ told plain.1 plain.2.2

theorem record_shifted (shifts : Relation.ReflTransGen Shifts view after) : after.record = view.record := by
  induction shifts with
  | refl => rfl
  | tail _ moved ih =>
    cases moved
    exact ih

theorem record_failed (added : List MpvCommand) (outcome : StopOutcome) :
    view.record.Moves ((view.displace added).stop outcome).record :=
  .trans (.clears _) (@record_stop (view.displace added) outcome)

theorem Obeys.record (obeys : view.Obeys answers command after) : view.record.Moves after.record := by
  cases obeys with
  | keeps told plain =>
    exact record_tell fun event member => ⟨(plain event member).1, (plain event member).2.2⟩
  | jumps idx transition => exact .sends _ (.trackChanged _ transition) rfl fun _ => nofun
  | jumpFails outcome | promoteFails outcome => exact record_failed _ outcome
  | moves shifts | reorders shifts => exact .of_eq (record_shifted shifts)
  | appends | promotes | removes | removesLoaded | reloads | reloadFails | clears | relents =>
    exact .quiet _
  | loadsNew => exact .clears _
  | @submits _ _ _ queue _ added _ projection _ _ _ _ _ ends =>
    rcases ends with rfl | ⟨outcome, rfl⟩
    · exact .clears _
    · exact .trans (.clears _) (@record_stop (view.startOn queue _ projection added) outcome)

theorem Handles.record (handles : view.Handles event after) : view.record.Moves after.record ∨
      event = .endFile .quit ∧ after.record = { view.record with nearEnd := after.nearEnd } := by
  cases handles with
  | quiet | drains => exact .inl (.quiet _)
  | tells told plain => exact .inl (record_told plain)
  | marks mark => exact .inr ⟨rfl, rfl⟩
  | stops outcome => exact .inl (record_stop outcome)
  | quits outcome =>
    exact .inl ((record_stop outcome).trans (.sends _ .mpvQuit rfl fun _ => nofun))
  | moves told transition there plain => exact .inl (record_changed _ transition plain)
  | loads idx told transition activeFile ready plain =>
    refine .inl (@record_changed view [told] _ transition fun event member => ?_)
    rw [List.mem_singleton.mp member]
    exact plain
  | loadFails slotId outcome => exact .inl (@record_stop (view.load .ready slotId) outcome)
  | clamps told plain | prunes queue told plain => exact .inl (record_told plain)

end RunView

namespace PlaybackRun

variable {run next : PlaybackRun} {answers : Answers}

theorem record_handleCommand {command : PlayerCommand} {cancels : Bool}
    (handled : run.handleCommand answers command = some (cancels, next)) :
    (run.recordDuring command).Moves next.record :=
  (handleCommand_obeys handled).record

theorem record_selectNext (run : PlaybackRun) (answers : Answers) (nextIdx : Nat) :
    (run.selectNext answers nextIdx).2.record = run.record := by
  unfold selectNext
  split
  · split
    · rfl
    · split <;> rename_i selected <;> rcases view_selectActiveSlot selected with
          ⟨-, -, -, -, idx, taken⟩ | ⟨-, kept | ⟨-, loaded⟩⟩
      · exact congrArg RunView.record taken
      · exact congrArg RunView.record kept
      · exact congrArg RunView.record loaded
      · exact congrArg RunView.record taken
      · exact congrArg RunView.record kept
      · exact congrArg RunView.record loaded
  · rcases setActiveIndex_spec run nextIdx with ⟨-, same⟩ | ⟨id, -, same⟩ <;> exact congrArg (fun result => result.2.record) same

end PlaybackRun

theorem PlaybackRun.record_finalizeQuit (run : PlaybackRun) : run.record.Moves run.finalizeQuit.record := by
  obtain ⟨outcome, stopped⟩ := run.view_finalizeQuit
  have moves := @RunView.record_stop run.view outcome
  rw [← stopped] at moves
  exact moves

theorem PlaybackRun.record_handleMpvEvent {run next : PlaybackRun} {answers : Answers} {event : MpvEvent} {exits : Bool}
    (handled : run.handleMpvEvent answers event = some (exits, next)) :
    run.record.Moves next.record ∨ event = .endFile .quit ∧ next.record = { run.record with nearEnd := next.stoppedNearEnd } :=
  (handleMpvEvent_handles handled).record

end Mbv.Player
