import Mathlib.Data.Nat.PSub
import Mbv.Output.CastAdvance
import Mbv.Output.SessionAdvance

namespace Mbv.Output

open Mbv.Queue Mbv.Player Mbv.Daemon List

namespace CastOwner

variable {owner : CastOwner}

theorem beginAdvance_seeks {loaded : CastLoadedItem} (policy : ConsumePolicy)
    (verdict : QueueSlotId → Except Uncastable CastSource) (gone : List (List QueueSlotId))
    (held : owner.loaded = some loaded) (settled : owner.core.latestTransition = none)
    (distinct : owner.core.queue.slotIds.Nodup) :
    let line := (slotsAfter owner.core.queue loaded.slot).map (·.slotId)
    let sought := seek (fun slotId => (verdict slotId).isOk) gone line
    (answerSteps verdict gone (owner.beginAdvance policy)).stepped = owner.stepped ++ sought.asked ∧
      (line.length ≤ gone.length → Settles owner
        (answerSteps verdict gone (owner.beginAdvance policy)) (fun slotId => (verdict slotId).isOk)
        sought) := by
  have goesOn := beginAdvance_goesOn policy held settled distinct
  have quiet := @quiet_beginAdvance owner policy
  dsimp only
  cases shape : slotsAfter owner.core.queue loaded.slot with
  | nil =>
    obtain ⟨idle, stepped⟩ := goesOn.edge shape
    rw [answerSteps_idle idle, map_nil, Seek.seek_nil]
    refine ⟨stepped.trans (append_nil _).symm, fun _ => ⟨idle, ?_, quiet.onReceiver⟩⟩
    rw [goesOn.refusals]
    exact (append_nil _).symm
  | cons slot rest =>
    obtain ⟨pending, trying, stepped⟩ := goesOn.further slot rest shape
    obtain ⟨⟨asked, first, steps⟩, settles⟩ := Trying.seeks verdict gone _ pending slot rest trying
    refine ⟨?_, fun enough => ?_⟩
    · rw [steps, stepped, first, append_assoc, singleton_append]
    · rw [map_cons, length_cons, length_map] at enough
      obtain ⟨ended, refusals, onReceiver⟩ := settles enough
      refine ⟨ended, ?_, ?_⟩
      · rw [refusals, goesOn.refusals]
      · rw [onReceiver, quiet.onReceiver, quiet.loads]

theorem beginAdvance_coalesces {loaded : CastLoadedItem} (policy : ConsumePolicy)
    (accepts : QueueSlotId → Bool) (held : owner.loaded = some loaded)
    (again : owner.core.Repeats .next) :
    (owner.beginAdvance policy).stepped = owner.stepped ∧ Settles owner (owner.beginAdvance policy) accepts {} := by
  have quiet := @quiet_beginAdvance owner policy
  have coalesced : (owner.observeSlot loaded.slot).core.relativeStepTarget .next = .coalesced := by
    have repeats : (owner.observeSlot loaded.slot).core.Repeats .next := again
    rw [PlayerOwnerState.relativeStepTarget_neighbor, if_pos repeats]
  have begun : ∃ other : CastOwner, owner.beginAdvance policy = other.clearAdvance ∧
      other.stepped = owner.stepped ∧ other.refusals = owner.refusals := by
    unfold beginAdvance
    rw [held]
    dsimp only
    rw [coalesced]
    exact ⟨_, rfl, rfl, rfl⟩
  obtain ⟨other, same, stepped, refusals⟩ := begun
  refine ⟨same ▸ stepped, ?_, ?_, quiet.onReceiver⟩
  · rw [same]
    exact ownStep_of_idle clearAdvance_idle
  · rw [same]
    exact refusals.trans (append_nil _).symm

/-! ### The counter -/

/-- The step with the counter's subtraction as the source has it, which fails at zero. -/
def stepTargetAdvanceChecked (owner : CastOwner) (target : StepTarget) : Option CastOwner :=
  match target with
  | .coalesced | .atEdge => some owner.clearAdvance
  | .jump slotId =>
    let (requestId, owner) := owner.dispatchStepTarget slotId .next
    match owner.advance with
    | none => some owner
    | some advance =>
      advance.remaining.ppred.map fun remaining =>
        owner.setAdvance (some { advance with
          remaining := remaining
          stepRequest := some requestId })

def stepAdvanceChecked (owner : CastOwner) : Option CastOwner :=
  let owner := owner.rebaseOnFailedStep
  if owner.advance.all fun advance => advance.remaining = 0 then some owner.clearAdvance
  else owner.stepTargetAdvanceChecked (owner.core.relativeStepTarget .next)

def beginAdvanceChecked (owner : CastOwner) (policy : ConsumePolicy) : Option CastOwner :=
  match owner.loaded with
  | none => some owner
  | some loaded =>
    let owner := owner.observeSlot loaded.slot
    let target := owner.core.relativeStepTarget .next
    let consume := match target with | .jump _ => true | .coalesced | .atEdge => false
    let owner := owner.recordNaturalEnd policy loaded.slot consume
    (owner.setAdvance (some { remaining := owner.core.queue.len })).stepTargetAdvanceChecked target

theorem dispatchStepTarget_advance (slotId : QueueSlotId) (direction : Direction) :
    (owner.dispatchStepTarget slotId direction).2.advance = owner.advance := by
  unfold dispatchStepTarget dispatchSlotJump sendJump dispatchCastLoad
  dsimp only
  split
  · split
    · split <;> rfl
    · rfl
  · rfl

theorem stepTargetAdvanceChecked_eq (target : StepTarget) (positive : ∀ slotId, target = .jump slotId →
      ∀ advance ∈ owner.advance, 0 < advance.remaining) :
    owner.stepTargetAdvanceChecked target = some (owner.stepTargetAdvance target) := by
  cases target with
  | coalesced => rfl
  | atEdge => rfl
  | jump slotId =>
    have same := @dispatchStepTarget_advance owner slotId .next
    unfold stepTargetAdvanceChecked stepTargetAdvance
    dsimp only
    cases tries : (owner.dispatchStepTarget slotId .next).2.advance with
    | none => rfl
    | some advance =>
      obtain ⟨remaining, counted⟩ : ∃ remaining, advance.remaining = remaining + 1 :=
        Nat.exists_eq_succ_of_ne_zero (positive slotId rfl advance (same.symm.trans tries)).ne'
      simp [counted, Nat.ppred]

theorem stepAdvanceChecked_eq : owner.stepAdvanceChecked = some owner.stepAdvance := by
  unfold stepAdvanceChecked stepAdvance
  dsimp only
  split
  · rfl
  · rename_i left
    apply stepTargetAdvanceChecked_eq
    intro slotId jumps advance tries
    rw [Option.mem_def.mp tries] at left
    simp only [Option.all_some, decide_eq_true_eq] at left
    omega

theorem setAdvance_advance (owner : CastOwner) (next : OutputAdvance) :
    ∀ advance ∈ (owner.setAdvance (some next)).advance, advance = next := by
  intro advance tries
  unfold setAdvance onCast CastOwner.advance at tries
  cases there : owner.cast with
  | none => rw [there] at tries; cases tries
  | some cast => rw [there] at tries; cases tries; rfl

theorem beginAdvanceChecked_eq (policy : ConsumePolicy) :
    owner.beginAdvanceChecked policy = some (owner.beginAdvance policy) := by
  unfold beginAdvanceChecked beginAdvance
  cases held : owner.loaded with
  | none => rfl
  | some loaded =>
    apply stepTargetAdvanceChecked_eq
    intro slotId jumps advance tries
    have room := PlayerOwnerState.jump_len jumps
    have left := @PlaybackQueue.recorded_len (owner.observeSlot loaded.slot).core.queue
    have begun := setAdvance_advance _ _ advance tries
    rw [begun]
    exact Nat.lt_of_succ_lt_succ (lt_of_lt_of_le room (left _ policy))

end CastOwner

/-- After a natural end that no request waits behind, a remote output loads the first slot after the
    ended one that it can play, as the queue is when it is tried, and reports each one before it
    once. A step the same way that is still under way stays in charge instead. The counter of tries
    is not spent when a step is taken. -/
theorem advance_loads_first_admissible :
    (∀ (owner : SessionOwner) (policy : ConsumePolicy) (now : Ticks)
        (loaded : EmbySessionLoadedItem), owner.session.loaded = some loaded →
      (owner.core.Repeats .next → owner.Walked (owner.beginAdvance policy now) none []) ∧
      (owner.core.latestTransition = none → owner.core.queue.slotIds.Nodup →
        owner.session.workerRuns = true → owner.session.sessionId.isSome = true →
        let types := owner.session.playableMediaTypes
        let line := slotsAfter owner.core.queue loaded.slot
        let next := owner.window loaded.slot
        owner.Walked (owner.beginAdvance policy now) next.1 next.2 ∧
          next.1.map (·.1) = (line.find? (admits types)).map (·.slotId) ∧
          next.2.map (·.item) = (line.takeWhile fun slot => !admits types slot).map (·.item) ∧
          next.2.length + next.1.toList.length ≤ line.length)) ∧
    (∀ (owner : CastOwner) (policy : ConsumePolicy) (loaded : CastLoadedItem)
        (verdict : QueueSlotId → Except Uncastable CastSource) (gone : List (List QueueSlotId)),
      owner.loaded = some loaded →
      let accepts := fun slotId => (verdict slotId).isOk
      (owner.core.Repeats .next → (owner.beginAdvance policy).stepped = owner.stepped ∧
        owner.Settles (owner.beginAdvance policy) accepts {}) ∧
      (owner.core.latestTransition = none → owner.core.queue.slotIds.Nodup →
        let line := (slotsAfter owner.core.queue loaded.slot).map (·.slotId)
        let sought := seek accepts gone line
        let after := CastOwner.answerSteps verdict gone (owner.beginAdvance policy)
        after.stepped = owner.stepped ++ sought.asked ∧ sought.asked.Sublist line ∧
          (line.length ≤ gone.length → owner.Settles after accepts sought ∧
            (sought.Undisturbed gone →
              sought.found = (line.filter (· ∉ sought.left gone)).find? accepts)))) ∧
    (∀ (owner : SessionOwner) (policy : ConsumePolicy) (now : Ticks),
      owner.beginAdvanceChecked policy now = some (owner.beginAdvance policy now)) ∧
    (∀ (owner : CastOwner) (policy : ConsumePolicy),
      owner.beginAdvanceChecked policy = some (owner.beginAdvance policy)) ∧
    ∀ owner : CastOwner, owner.stepAdvanceChecked = some owner.stepAdvance := by
  refine ⟨?_, ?_, fun owner policy now => SessionOwner.beginAdvanceChecked_eq policy,
    fun owner policy => CastOwner.beginAdvanceChecked_eq policy,
    fun owner => CastOwner.stepAdvanceChecked_eq⟩
  · intro owner policy now loaded held
    refine ⟨SessionOwner.beginAdvance_coalesces policy held, ?_⟩
    intro settled distinct runs known
    obtain ⟨sessionId, known⟩ := Option.isSome_iff_exists.mp known
    exact ⟨SessionOwner.beginAdvance_walks policy held runs known settled distinct,
      firstAdmissible_found _, firstAdmissible_stepped _, firstAdmissible_length _⟩
  · intro owner policy loaded verdict gone held
    refine ⟨CastOwner.beginAdvance_coalesces policy _ held, ?_⟩
    intro settled distinct
    obtain ⟨stepped, settles⟩ := CastOwner.beginAdvance_seeks policy verdict gone held settled distinct
    exact ⟨stepped, Seek.asked_sublist _ _, fun enough => ⟨settles enough, Seek.found_first enough⟩⟩

section StepsOver

def video (id : String) : QueueItem :=
  .emby ⟨id, id, "Episode", "Video", 1000000000, false, 0, "", 0, 0, ""⟩

/-- A stream that no remote output plays stands between two videos, the first of them active. -/
def evening : PlayerOwnerState :=
  .new (.fromQueueItems [video "one", .twitch ⟨"https://stream", "two"⟩, video "three"] (some 0) 0)

def watching : SessionOwner where
  core := evening
  session :=
    { deviceId := "television", sessionId := some "session"
      loaded := some ⟨0, ⟨1⟩, "one", 1000000000, 0, true, true, false⟩ }
  loads := 1

def casting : CastOwner where
  core := evening
  cast := some
    { receiverId := "television", pollSent := some (0, 0)
      loaded := some ⟨0, ⟨1⟩, "one", .feed "one", false, none, true⟩ }
  loads := 1

def playsVideos (slotId : QueueSlotId) : Except Uncastable CastSource :=
  if slotId = ⟨2⟩ then .error ⟨.twitch ⟨"https://stream", "two"⟩, "a stream"⟩
  else .ok ⟨⟨"three", "video/mp4"⟩, .feed "three"⟩

theorem advance_steps_over_stream :
    (watching.beginAdvance {} 0).onDevice = some (⟨3⟩, "three") ∧
      (CastOwner.answerSteps playsVideos [[], []] (casting.beginAdvance {})).onReceiver =
        some (1, ⟨3⟩) := by
  have session := (advance_loads_first_admissible.1 watching {} 0 _ rfl).2 (by decide) (by decide)
    rfl rfl
  have cast := (advance_loads_first_admissible.2.1 casting {} _ playsVideos [[], []] rfl).2
    (by decide) (by decide)
  have settles := (cast.2.2 (by decide)).1
  exact ⟨session.1.onDevice.trans (by decide), settles.onReceiver.trans (by decide)⟩

/-- A step to the stream is under way when the item ends, and fails; or the stream is taken out of
    the queue while the advance tries it. Neither way the video after it is loaded. -/
theorem advance_leaves_video_unloaded :
    let stepped := CastOwner.machine.run casting
      [.step .next,
        .status {} "television" 0 (.ok ⟨.idle, some "one", some .finished, none, none⟩) 0,
        .finishes 0 {}, .outcome]
    let removed := CastOwner.answerSteps playsVideos [[⟨2⟩], []] (casting.beginAdvance {})
    ((slotsAfter evening.queue ⟨1⟩).map (·.slotId)).find?
        (fun slotId => (playsVideos slotId).isOk) = some ⟨3⟩ ∧
      stepped.refusals = [⟨2⟩] ∧ stepped.onReceiver = casting.onReceiver ∧
      stepped.advance = none ∧ stepped.pendingCastResolve = none ∧ stepped.resolving = [] ∧
      removed.refusals = [⟨2⟩] ∧ removed.onReceiver = casting.onReceiver ∧
      removed.ownStep = none ∧ removed.core.queue.slotIds = [⟨1⟩, ⟨3⟩] := by
  decide

end StepsOver

end Mbv.Output
