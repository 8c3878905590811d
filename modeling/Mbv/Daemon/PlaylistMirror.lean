import Mbv.Daemon.QueueMirror

/-! The owner's queue, the run's copy of it and mpv's playlist, with what is on its way between them. -/

namespace Mbv.Daemon

open Mbv.Queue Mbv.Player

structure PlaylistMirror where
  owner : PlaybackQueue
  pending : List PlayerCommand := []
  system : PlaylistSystem

inductive PlaylistMirror.Input where
  | edit (change : QueueEdit)
  | execute (answers : Answers)
  /-- The oldest count that mpv told reaches the run. -/
  | count (answers : Answers)

namespace PlaylistMirror

def step (s : PlaylistMirror) : Input → PlaylistMirror
  | .edit change =>
    let reply := change.handle s.owner
    { s with owner := reply.queue, pending := s.pending ++ reply.sent }
  | .execute answers =>
    match s.pending with
    | [] => s
    | command :: pending =>
      { s with pending := pending, system := s.system.step (.edit answers command) }
  | .count answers => { s with system := s.system.step (.deliver answers) }

def machine : Machine PlaylistMirror Input := ⟨step⟩

/-- An edit is one the run follows, and a count is that of the queue it finds. -/
def Permits (s : PlaylistMirror) : Input → Prop
  | .edit change => change.Direct ∧ change.Faithful s.owner
  | .execute _ => True
  | .count answers => (PlaylistInput.deliver answers).OnTime s.system

structure Agrees (s : PlaylistMirror) : Prop where
  behind : slotOrder.Behind CarriedOut s.owner.slotIds s.system.run.queue.slotIds s.pending
  mirrors : s.system.Mirrors

variable {s : PlaylistMirror} {system : PlaylistSystem}

theorem execute_mirrors (mirrors : system.Mirrors) {answers : Answers} {command : PlayerCommand}
    (carried : CarriedOut system.run.queue.slotIds command) : (system.step (.edit answers command)).Mirrors := by
  cases command with
  | submitQueue items startIdx =>
    cases carried
    have ignored : system.run.handleCommand answers (.submitQueue [] startIdx) = some (true, system.run.cancelPendingQuit) := by
      simp [PlaybackRun.handleCommand, PlaybackRun.cmdSubmitQueue, PlaybackRun.inactive_of_playlist mirrors.playlist]
    have stepped : system.step (.edit answers (.submitQueue [] startIdx)) =
        { system with run := system.run.cancelPendingQuit } := by
      simp [PlaylistSystem.step, ignored, PlaybackRun.cancelPendingQuit]
    rw [stepped]
    exact ⟨mirrors.entries, mirrors.wellFormed, mirrors.playlist, mirrors.ready⟩
  | queueAppend items =>
    refine PlaylistSystem.edit_mirrors mirrors ⟨carried.1, fun slot member => ?_⟩
    obtain ⟨fresh, direct⟩ := carried.2 slot member
    refine ⟨fresh, ?_⟩
    cases source : slot.item <;> rw [source] at direct
    · rfl
    · rfl
    · cases direct
    · rfl
  | queueRemove | queueMove | queueReorder => exact PlaylistSystem.edit_mirrors mirrors trivial
  | togglePause | jumpTo | loadNew => exact carried.elim

theorem step_agrees (agrees : s.Agrees) {input : Input} (permitted : s.Permits input) : (s.step input).Agrees := by
  obtain ⟨behind, mirrors⟩ := agrees
  have plays : PlaysPlaylist s.system.run := ⟨mirrors.wellFormed, mirrors.playlist⟩
  cases input with
  | edit change =>
    have inStep : QueueMirror.InStep ⟨s.owner, s.system.run, s.pending⟩ := ⟨behind, plays⟩
    exact ⟨behind.publish (QueueEdit.handle_behind inStep.owner_distinct permitted.1 permitted.2), mirrors⟩
  | execute answers =>
    cases waiting : s.pending with
    | nil => simpa [step, waiting] using Agrees.mk behind mirrors
    | cons command pending =>
      rw [waiting] at behind
      obtain ⟨carried, rest⟩ := behind.deliver
      obtain ⟨cancels, next, handled, order, -⟩ := handleCommand_mirrored plays answers carried
      have executed : (s.system.step (.edit answers command)).run = next := by
        simp [PlaylistSystem.step, handled]
      have stepped : s.step (.execute answers) =
          { s with pending := pending, system := s.system.step (.edit answers command) } := by
        simp [step, waiting]
      rw [stepped]
      refine ⟨?_, execute_mirrors mirrors carried⟩
      show slotOrder.Behind CarriedOut s.owner.slotIds (s.system.step (.edit answers command)).run.queue.slotIds pending
      rw [executed, order]
      exact rest
  | count answers =>
    refine ⟨?_, @PlaylistSystem.deliver_mirrors s.system mirrors answers permitted⟩
    have kept : (s.system.step (.deliver answers)).run = s.system.run := by
      cases oldest : s.system.playlist.counts with
      | nil => simp [PlaylistSystem.step, oldest]
      | cons count counts =>
        have same : count = s.system.run.queueLen := permitted count (by simp [oldest])
        rw [PlaylistSystem.deliver_step mirrors.ready answers oldest, same, PlaylistSystem.onPlaylistCountChanged_onTime]
    show slotOrder.Behind CarriedOut s.owner.slotIds (s.system.step (.deliver answers)).run.queue.slotIds s.pending
    rw [kept]
    exact behind

/-- The run's queue is mpv's playlist all along, and the commands still on their way take it where the
    owner's queue is: with none of them left, all three hold the same slots in the same order. -/
theorem orders_agree (order : s.owner.slotIds = s.system.run.queue.slotIds) (settled : s.pending = [])
    (mirrors : s.system.Mirrors) {inputs : List Input} (permitted : machine.Along Permits s inputs) :
    let after := machine.run s inputs
    after.system.run.queue.slotIds = after.system.playlist.entries ∧
      slotOrder.run after.system.playlist.entries after.pending = after.owner.slotIds := by
  have start : s.Agrees := by
    refine ⟨?_, mirrors⟩
    rw [settled, order]
    exact Machine.Behind.refl _
  have keep (s : PlaylistMirror) (input : Input) (agrees : s.Agrees) (permitted : s.Permits input) :
      (machine.step s input).Agrees := step_agrees agrees permitted
  have agrees : (machine.run s inputs).Agrees := Machine.run_invariant keep start permitted
  exact ⟨agrees.mirrors.entries, agrees.mirrors.entries ▸ agrees.behind.reach⟩

def laidOut : PlaylistMirror where
  owner := QueueMirror.twoStreams.owner
  system := ⟨QueueMirror.twoStreams.run, { entries := [⟨1⟩, ⟨2⟩] }⟩

theorem orders_agree_late :
    let after := machine.run laidOut
      [.edit (.moveSlot ⟨1⟩ 1), .edit (.removeSlot ⟨2⟩), .execute {}, .count {}, .execute {}, .count {}]
    after.system.run.queue.slotIds = after.system.playlist.entries ∧
      slotOrder.run after.system.playlist.entries after.pending = after.owner.slotIds :=
  orders_agree rfl rfl ⟨rfl, ⟨by decide, by decide⟩, rfl, rfl⟩
    ⟨⟨trivial, fun _ => by decide⟩, ⟨trivial, fun only => absurd only (by decide)⟩, trivial,
      show (PlaylistInput.deliver {}).OnTime _ from by decide, trivial,
      show (PlaylistInput.deliver {}).OnTime _ from by decide, trivial⟩

end PlaylistMirror

end Mbv.Daemon
