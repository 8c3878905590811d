import Mbv.Player.Run.Trail

namespace Mbv.Player

open Mbv.Queue

structure Labels where
  sent : List PlayerEvent
  identity : PlaybackGeneration

structure Labels.Grows (before after : Labels) : Prop where
  identity : after.identity = before.identity
  sent : ∃ more, after.sent = before.sent ++ more ∧
    ∀ event ∈ more, ∀ label ∈ event.label?, label = before.identity

def PlaybackRun.labels (run : PlaybackRun) : Labels := ⟨run.events, run.runIdentity⟩

theorem Labels.Grows.refl (labels : Labels) : labels.Grows labels := ⟨rfl, [], (List.append_nil _).symm, by simp⟩

theorem Labels.Grows.trans {before middle after : Labels} (first : before.Grows middle)
    (second : middle.Grows after) : before.Grows after := by
  obtain ⟨sent, grown, labelled⟩ := first.sent
  obtain ⟨more, further, others⟩ := second.sent
  refine ⟨second.identity.trans first.identity, sent ++ more, ?_, fun event member label own => ?_⟩
  · rw [further, grown, List.append_assoc]
  · rcases List.mem_append.mp member with earlier | later
    · exact labelled event earlier label own
    · rw [← first.identity]
      exact others event later label own

theorem Record.Moves.grows {before after : Record} (moves : before.Moves after) :
    Labels.Grows ⟨before.events, before.identity⟩ ⟨after.events, after.identity⟩ := by
  induction moves with
  | quiet record => exact .refl _
  | sends record event _ own =>
    refine ⟨rfl, [event], rfl, fun sent member => ?_⟩
    rw [List.mem_singleton.mp member]
    exact own
  | stop record outcome _ =>
    refine ⟨rfl, [_], rfl, fun sent member label own => ?_⟩
    rw [List.mem_singleton.mp member] at own
    exact (Option.some.inj own).symm
  | clears record => exact .refl _
  | trans _ _ first second => exact first.trans second

theorem PlaybackRun.labels_handleMpvEvent {run next : PlaybackRun} {answers : Answers} {event : MpvEvent} {exits : Bool}
    (handled : run.handleMpvEvent answers event = some (exits, next)) :
    run.labels.Grows next.labels := by
  rcases record_handleMpvEvent handled with moves | ⟨-, marked⟩
  · exact moves.grows
  · have same : next.labels = run.labels := congrArg (fun record : Record => Labels.mk record.events record.identity) marked
    exact same ▸ .refl _

def RunInput.identityDuring (run : PlaybackRun) : RunInput → PlaybackGeneration
  | command _ sent => sent.identityDuring run
  | _ => run.runIdentity

theorem RunThread.step_labels (run : PlaybackRun) (input : RunInput) :
    ∃ more, (step { run := run } input).run.events = run.events ++ more ∧
      (∀ event ∈ more, ∀ label ∈ event.label?, label = input.identityDuring run) ∧
      ((step { run := run } input).exited = false →
        (step { run := run } input).run.runIdentity = input.identityDuring run) := by
  have grown {identity : PlaybackGeneration} {next : PlaybackRun} (exited : Bool)
      (grows : Labels.Grows ⟨run.events, identity⟩ next.labels) :
      ∃ more, next.events = run.events ++ more ∧
        (∀ event ∈ more, ∀ label ∈ event.label?, label = identity) ∧
        (exited = false → next.runIdentity = identity) := by
    obtain ⟨more, sent, own⟩ := grows.sent
    exact ⟨more, sent, own, fun _ => grows.identity⟩
  have panics (identity : PlaybackGeneration) (message : String) :
      ∃ more, (run.panicked identity message).events = run.events ++ more ∧
        ∀ event ∈ more, ∀ label ∈ event.label?, label = identity := by
    refine ⟨[_], rfl, fun event member label own => ?_⟩
    rw [List.mem_singleton.mp member] at own
    exact (Option.some.inj own).symm
  cases input with
  | command answers sent =>
    cases handled : run.handleCommand answers sent with
    | some result =>
      rw [show step { run := run } (.command answers sent) = { run := result.2 } by
        simp [step, handled]]
      exact grown false (PlaybackRun.record_handleCommand handled).grows
    | none =>
      rw [show step { run := run } (.command answers sent) =
        { run := run.panicked (sent.identityDuring run)
            "execution sequence slot identities must be unique"
          exited := true } by simp [step, handled]]
      obtain ⟨more, sentMore, own⟩ := panics (sent.identityDuring run)
        "execution sequence slot identities must be unique"
      exact ⟨more, sentMore, own, fun live => nomatch live⟩
  | stopRequest now =>
    refine grown false ?_
    show run.labels.Grows (if run.quitAt.isNone then run.handleStopRequest now else run).labels
    split <;> exact .refl _
  | quitTimer now =>
    cases quit : run.quitAt with
    | none =>
      rw [show step { run := run } (.quitTimer now) = { run := run } by simp [step, quit]]
      exact grown false (.refl run.labels)
    | some since =>
      by_cases late : now - since > quitTimeout
      · rw [show step { run := run } (.quitTimer now) = { run := run.finalizeQuit, exited := true } by
          simp [step, quit, late]]
        exact grown true run.record_finalizeQuit.grows
      · rw [show step { run := run } (.quitTimer now) = { run := run } by simp [step, quit, late]]
        exact grown false (.refl run.labels)
  | event answers event =>
    cases handled : run.handleMpvEvent answers event with
    | some result =>
      rw [show step { run := run } (.event answers event) =
        { run := result.2, exited := result.1 } by simp [step, handled]]
      exact grown result.1 (PlaybackRun.labels_handleMpvEvent handled)
    | none =>
      rw [show step { run := run } (.event answers event) =
        { run := run.panicked run.runIdentity
            "active item must exist after successful set_active_index"
          exited := true } by simp [step, handled]]
      obtain ⟨more, sentMore, own⟩ := panics run.runIdentity
        "active item must exist after successful set_active_index"
      exact ⟨more, sentMore, own, fun live => nomatch live⟩
  | advanceSequenceGeneration => exact grown false (.refl run.labels)
  | seedStatus item idx queueLen => exact grown false (.refl run.labels)

end Mbv.Player
