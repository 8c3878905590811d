import Mbv.Daemon.QueueCommands

namespace Mbv.Daemon

open Mbv.Queue Mbv.Player Mbv.Output

namespace OwnerMessage

def refuses : OwnerMessage → Bool
  | commandRejected .. | queueOpResult _ _ (some _) => true
  | _ => false

def applies : OwnerMessage → Bool
  | queueState _ | queueOpResult _ _ none => true
  | _ => false

def reportsSlot : OwnerMessage → Bool
  | slotRejected .. => true
  | _ => false

end OwnerMessage

def QueueCommand.loads : QueueCommand → Bool
  | .replace .. | .playSlot _ => true
  | _ => false

namespace QueueOwner

/-- `next` was reached telling Clients only what `P` admits. -/
def Tells (P : OwnerMessage → Prop) (owner next : QueueOwner) : Prop :=
  ∃ new, next.sent = owner.sent ++ new ∧ ∀ message ∈ new, P message

section Tells

variable {P : OwnerMessage → Prop} {owner next last : QueueOwner}

theorem Tells.of_sent (same : next.sent = owner.sent) : owner.Tells P next := ⟨[], by simp [same], by simp⟩

theorem Tells.trans (first : owner.Tells P next) (second : next.Tells P last) : owner.Tells P last := by
  obtain ⟨told, sent, plain⟩ := first
  obtain ⟨later, grown, quiet⟩ := second
  refine ⟨told ++ later, by rw [grown, sent, List.append_assoc], fun message member => ?_⟩
  rcases List.mem_append.mp member with before | after
  · exact plain message before
  · exact quiet message after

theorem Tells.mono {Q : OwnerMessage → Prop} (told : owner.Tells P next)
    (weaker : ∀ message, P message → Q message) : owner.Tells Q next := by
  obtain ⟨new, sent, plain⟩ := told
  exact ⟨new, sent, fun message member => weaker message (plain message member)⟩

theorem tells_tell {message : OwnerMessage} (plain : P message) : owner.Tells P (owner.tell message) :=
  ⟨[message], rfl, fun _ member => List.mem_singleton.mp member ▸ plain⟩

theorem Tells.tell {message : OwnerMessage} (told : owner.Tells P next) (plain : P message) :
    owner.Tells P (next.tell message) := told.trans (tells_tell plain)

theorem Tells.broadcast {except : Option CtrlClientId} (told : owner.Tells P next)
    (plain : P (.queueState except)) : owner.Tells P (next.broadcastQueueState except) :=
  told.tell plain

end Tells

abbrev Plain (message : OwnerMessage) : Prop :=
  message.refuses = false ∧ message.reportsSlot = false

abbrev Accepting (message : OwnerMessage) : Prop := message.refuses = false

variable {owner : QueueOwner}

theorem rejectIntent_tells {asked : CurrentPlaybackIntent → Bool}
    {reason : PlaybackIntentRejection} : owner.Tells Plain (owner.rejectIntent asked reason) := by
  unfold rejectIntent
  split
  · exact .of_sent rfl
  · split
    · exact Tells.tell (.of_sent rfl) ⟨rfl, rfl⟩
    · exact .of_sent rfl

theorem dispatchCastLoad_tells (transition : Transition) (startTicks : Int) (origin : Option CtrlClientId) :
    owner.Tells Plain (owner.dispatchCastLoad transition startTicks origin) := by
  unfold dispatchCastLoad
  split <;> exact .of_sent rfl

theorem takeLoad_tells (loaded : SessionOwner) : owner.Tells Accepting (owner.takeLoad loaded) := by
  refine ⟨_, rfl, fun message member => ?_⟩
  obtain ⟨record, -, told⟩ := List.mem_filterMap.mp member
  split at told
  · cases told
    rfl
  · cases told

theorem reportSlot_tells (asked : CurrentPlaybackIntent → Bool) (reason : PlaybackIntentRejection)
    (origin : Option CtrlClientId) (admission : SessionAdmission)
    (transitions : OwnerTransitionState) :
    owner.Tells Accepting (((owner.rejectIntent asked reason).tell
      (.slotRejected origin admission)).setTransitions transitions) := by
  have intent : owner.Tells Accepting (owner.rejectIntent asked reason) := rejectIntent_tells.mono fun _ plain => plain.1
  exact (intent.tell rfl).trans (.of_sent rfl)

theorem expired_tells (asked : CurrentPlaybackIntent → Bool) (reason : PlaybackIntentRejection) (promoted : Option Transition) :
    owner.Tells Accepting ((owner.rejectIntent asked reason).takePromotedOrigin promoted).2 := by
  have intent : owner.Tells Accepting (owner.rejectIntent asked reason) := rejectIntent_tells.mono fun _ plain => plain.1
  exact intent.trans (.of_sent rfl)

theorem dispatchWithin_tells (promotions : Nat) (session : EmbySessionOutput)
    (transition : Transition) (startTicks : Int) (origin : Option CtrlClientId) (now : Ticks) :
    owner.Tells Accepting (dispatchWithin promotions owner session transition startTicks origin now) := by
  have expired {owner : QueueOwner} {asked reason origin admission transitions again because
      promoted} : owner.Tells Accepting (((((owner.rejectIntent asked reason).tell
        (.slotRejected origin admission)).setTransitions transitions).rejectIntent again
          because).takePromotedOrigin promoted).2 :=
    (reportSlot_tells asked reason origin admission transitions).trans (expired_tells again because promoted)
  induction promotions generalizing owner transition startTicks origin with
  | zero =>
    unfold dispatchWithin
    split
    · exact .of_sent rfl
    · exact takeLoad_tells _
    · dsimp only
      split
      · exact (reportSlot_tells ..).broadcast rfl
      · split
        · exact expired.broadcast rfl
        · exact expired
  | succ promotions ih =>
    unfold dispatchWithin
    split
    · exact .of_sent rfl
    · exact takeLoad_tells _
    · dsimp only
      split
      · exact (reportSlot_tells ..).broadcast rfl
      · split
        · exact expired.broadcast rfl
        · exact expired.trans (ih ..)

theorem dispatchAccepted_tells (transition : Transition) (startTicks : Int) (origin : Option CtrlClientId) (now : Ticks) :
    owner.Tells Accepting (owner.dispatchAccepted transition startTicks origin now) := by
  unfold dispatchAccepted
  split
  · exact .of_sent rfl
  · rename_i accepted transitions _
    dsimp only
    have set : owner.Tells Accepting (owner.setTransitions transitions) := .of_sent rfl
    split
    · exact set
    · exact set.trans ((dispatchCastLoad_tells ..).mono fun _ plain => plain.1)
    · exact set.trans (dispatchWithin_tells ..)

theorem jumpOrColdStart_tells (ctx : CommandContext) (transition : Transition) :
    owner.Tells Plain (owner.jumpOrColdStart ctx transition) := by
  unfold jumpOrColdStart
  dsimp only
  split
  · exact .of_sent rfl
  · split
    · exact .of_sent rfl
    · split <;> exact .of_sent rfl

/-- What a jump or a replacement may tell: reports of slots only where the output is a Session. -/
def OnOutput (owner : QueueOwner) (message : OwnerMessage) : Prop :=
  message.refuses = false ∧
    (message.reportsSlot = true → ∃ session, owner.output = .embySession session)

theorem Plain.onOutput {message : OwnerMessage} (plain : Plain message) : owner.OnOutput message :=
  ⟨plain.1, fun reports => absurd (plain.2.symm.trans reports) (by simp)⟩

theorem dispatchAccepted_onOutput (transition : Transition) (startTicks : Int) (origin : Option CtrlClientId) (now : Ticks) :
    owner.Tells owner.OnOutput (owner.dispatchAccepted transition startTicks origin now) := by
  cases output : owner.output with
  | embySession session =>
    exact (dispatchAccepted_tells ..).mono fun _ quiet => ⟨quiet, fun _ => ⟨session, output⟩⟩
  | «local» =>
    unfold dispatchAccepted
    split
    · exact .of_sent rfl
    · dsimp only [setTransitions]
      rw [output]
      exact .of_sent rfl
  | cast =>
    unfold dispatchAccepted
    split
    · exact .of_sent rfl
    · dsimp only [setTransitions]
      rw [output]
      rename_i accepted transitions _
      have set : owner.Tells owner.OnOutput (owner.setTransitions transitions) := .of_sent rfl
      refine set.trans ?_
      exact (dispatchCastLoad_tells ..).mono fun _ plain => plain.onOutput

theorem sendJumpOrColdStart_onOutput (ctx : CommandContext) (transition : Transition) (origin : Option CtrlClientId) :
    owner.Tells owner.OnOutput (owner.sendJumpOrColdStart ctx transition origin) := by
  unfold sendJumpOrColdStart
  dsimp only
  split
  · exact (jumpOrColdStart_tells ..).mono fun _ plain => plain.onOutput
  · exact (dispatchCastLoad_tells ..).mono fun _ plain => plain.onOutput
  · rename_i session output
    exact (dispatchWithin_tells ..).mono fun _ quiet => ⟨quiet, fun _ => ⟨session, output⟩⟩

theorem dispatchSlotJump_onOutput (ctx : CommandContext) (transition : Transition) (except : Option CtrlClientId) :
    owner.Tells owner.OnOutput (owner.dispatchSlotJump ctx transition except) := by
  unfold dispatchSlotJump
  dsimp only
  refine Tells.broadcast ?_ ⟨rfl, nofun⟩
  split
  · rename_i accepted transitions _
    have set : owner.Tells owner.OnOutput (owner.setTransitions transitions) := .of_sent rfl
    exact set.trans (@sendJumpOrColdStart_onOutput (owner.setTransitions transitions) ctx accepted _)
  · rename_i superseded transitions _
    have set : owner.Tells owner.OnOutput (owner.setTransitions transitions) := .of_sent rfl
    split
    · split
      · exact Tells.trans (set.tell (Plain.onOutput ⟨rfl, rfl⟩)) (.of_sent rfl)
      · exact set.trans (.of_sent rfl)
    · exact set.trans (.of_sent rfl)

theorem replaceOnRemote_onOutput (ctx : CommandContext) (startTicks : Option Int) :
    owner.Tells owner.OnOutput (owner.replaceOnRemote ctx startTicks) := by
  unfold replaceOnRemote
  split
  · exact .of_sent rfl
  · rename_i startSlot _
    dsimp only
    have minted : owner.Tells owner.OnOutput (owner.setTransitions owner.core.transitions.mintLocalId.2) := .of_sent rfl
    refine Tells.broadcast ?_ ⟨rfl, nofun⟩
    exact (minted.trans (@dispatchAccepted_onOutput (owner.setTransitions _) _ _ _ _)).trans (.of_sent rfl)

end QueueOwner

/-- Why the owner refuses a command. -/
def QueueCommand.refusal (owner : QueueOwner) (ctx : CommandContext) (command : QueueCommand) :
    Option String :=
  (command.requiresOwner ctx.role).or
    (match command with
    | .adopt items _ _ =>
      if !owner.core.queue.isEmpty then some "daemon already has a queue; adoption skipped"
      else ctx.control.transportRejection items
    | .replace request _ _ =>
      match request.prepareReplacementSlots ctx.control with
      | .error reason => some reason
      | .ok _ => none
    | .append request => ((QueueEdit.append ctx.control request).handle owner.core.queue).rejection
    | .removeSlot slotId => ((QueueEdit.removeSlot slotId).handle owner.core.queue).rejection
    | .moveSlot slotId toIndex =>
      ((QueueEdit.moveSlot slotId toIndex).handle owner.core.queue).rejection
    | .sourceUpdate _ lineage =>
      if !ctx.supportsSourceUpdate then
        some "peer did not negotiate owner queue-load capability"
      else if lineage ≠ owner.lineage then
        some "queue source update rejected: owner queue lineage changed"
      else none
    | .playSlot slotId =>
      if (owner.core.queue.slot slotId).isNone then some "slot not found; play skipped" else none
    | .removeSlots _ | .shuffle .. | .clear => none)

namespace QueueOwner

variable {owner : QueueOwner}

theorem rejectCommand_spec (ctx : CommandContext) (reason : String) :
    ∃ new, (owner.rejectCommand ctx reason).answerQueueOp ctx = { owner with op := none, sent := owner.sent ++ new } ∧
      owner.rejectCommand ctx reason = { owner with op := none, sent := owner.sent ++ new } ∧
      (∃ message ∈ new, message.refuses = true) ∧
      ∀ message ∈ new, message.applies = false ∧ message.reportsSlot = false := by
  unfold rejectCommand answerQueueOp
  cases answering : owner.op with
  | some op =>
    refine ⟨[.queueOpResult ctx.client op (some reason)], rfl, rfl, by simp [OwnerMessage.refuses], ?_⟩
    simp [OwnerMessage.applies, OwnerMessage.reportsSlot]
  | none =>
    refine ⟨[.commandRejected ctx.client reason, .queueSnapshot ctx.client], ?_, ?_,
      by simp [OwnerMessage.refuses], by simp [OwnerMessage.applies, OwnerMessage.reportsSlot]⟩
    · simp [tell, answering]
    · simp [tell, answering]

variable {ctx : CommandContext}

theorem edit_refused {edit : QueueEdit} {reason : String} (refused : (edit.handle owner.core.queue).rejection = some reason) :
    owner.handleQueueEdit ctx edit = owner.rejectCommand ctx reason := by
  unfold handleQueueEdit
  dsimp only
  rw [refused]

theorem dispatch_refused {command : QueueCommand} {reason : String} (admitted : command.requiresOwner ctx.role = none)
    (refused : command.refusal owner ctx = some reason) :
    owner.dispatchCtrlCommand ctx command = owner.rejectCommand ctx reason := by
  unfold QueueCommand.refusal at refused
  rw [admitted, Option.none_or] at refused
  cases command with
  | adopt items cursor newSource =>
    show owner.handleAdoptQueue .. = _
    unfold handleAdoptQueue
    dsimp only at refused
    split at refused
    · rename_i filled
      rw [if_pos filled]
      cases refused
      rfl
    · rename_i empty
      rw [if_neg empty, refused]
  | replace request startTicks newSource =>
    show owner.handleQueueReplace .. = _
    unfold handleQueueReplace
    dsimp only at refused
    cases prepared : request.prepareReplacementSlots ctx.control with
    | error cause =>
      rw [prepared] at refused
      cases refused
      rfl
    | ok installed =>
      rw [prepared] at refused
      cases refused
  | append request => exact edit_refused refused
  | removeSlot slotId => exact edit_refused refused
  | moveSlot slotId toIndex => exact edit_refused refused
  | sourceUpdate newSource lineage =>
    show owner.handleQueueSourceUpdate .. = _
    unfold handleQueueSourceUpdate
    dsimp only at refused
    split at refused
    · rename_i unsupported
      rw [if_pos unsupported]
      cases refused
      rfl
    · rename_i supported
      rw [if_neg supported]
      split at refused
      · rename_i stale
        rw [if_pos stale]
        cases refused
        rfl
      · cases refused
  | playSlot slotId =>
    show owner.handleQueuePlaySlot .. = _
    unfold handleQueuePlaySlot
    dsimp only at refused
    split at refused
    · rename_i absent
      rw [if_pos absent]
      cases refused
      rfl
    · cases refused
  | removeSlots _ => cases refused
  | shuffle _ _ => cases refused
  | clear => cases refused

theorem edit_accepted {edit : QueueEdit} (accepted : (edit.handle owner.core.queue).rejection = none) :
    owner.Tells Plain (owner.handleQueueEdit ctx edit) := by
  unfold handleQueueEdit
  dsimp only
  rw [accepted]
  dsimp only
  split
  · have published : owner.Tells Plain ((owner.setQueue (edit.handle owner.core.queue).queue
        ).broadcastQueueState ctx.exceptOpClient) := Tells.broadcast (.of_sent rfl) ⟨rfl, rfl⟩
    refine Tells.trans ?_ (.of_sent rfl)
    split
    · exact published.trans (.of_sent rfl)
    · exact published
  · exact .of_sent rfl

theorem removeSlots_accepts (slotIds : List QueueSlotId) :
    ((QueueEdit.removeSlots slotIds).handle owner.core.queue).rejection = none := by
  unfold QueueEdit.handle Daemon.handleQueueRemoveSlots
  dsimp only
  split <;> rfl

theorem shuffle_accepts (draw : List QueueSlotId → List QueueSlotId) (pinActiveFirst : Bool) :
    ((QueueEdit.shuffle draw pinActiveFirst).handle owner.core.queue).rejection = none := by
  unfold QueueEdit.handle Daemon.handleQueueShuffle
  dsimp only
  split
  · rfl
  · split <;> rfl

/-- A command no gate refuses tells nobody it was, and reports slots only for a load it starts on a
    Session. -/
theorem dispatch_accepted {command : QueueCommand} (accepted : command.refusal owner ctx = none) :
    owner.Tells (fun message => owner.OnOutput message ∧ (message.reportsSlot = true → command.loads = true))
      (owner.dispatchCtrlCommand ctx command) := by
  unfold QueueCommand.refusal at accepted
  obtain ⟨-, accepted⟩ := Option.or_eq_none_iff.mp accepted
  have quietly {next : QueueOwner} (quiet : owner.Tells Plain next) :
      owner.Tells (fun message => owner.OnOutput message ∧ (message.reportsSlot = true → command.loads = true)) next :=
    quiet.mono fun _ plain => ⟨plain.onOutput, fun reports =>
      absurd (plain.2.symm.trans reports) (by simp)⟩
  cases command with
  | adopt items cursor newSource =>
    refine quietly ?_
    show owner.Tells Plain (owner.handleAdoptQueue ..)
    unfold handleAdoptQueue
    dsimp only at accepted
    split at accepted
    · cases accepted
    · rename_i empty
      rw [if_neg empty, accepted]
      exact Tells.broadcast (.of_sent rfl) ⟨rfl, rfl⟩
  | replace request startTicks newSource =>
    show owner.Tells _ (owner.handleQueueReplace ..)
    unfold handleQueueReplace
    dsimp only at accepted
    cases prepared : request.prepareReplacementSlots ctx.control with
    | error cause =>
      rw [prepared] at accepted
      cases accepted
    | ok installed =>
      obtain ⟨slots, nextCursor⟩ := installed
      dsimp only
      have untold : owner.Tells Plain (owner.installReplacedQueue slots nextCursor newSource) := .of_sent rfl
      refine (quietly untold).trans ?_
      have remote := @replaceOnRemote_onOutput (owner.installReplacedQueue slots nextCursor newSource) ctx startTicks
      split
      · exact remote.mono fun _ quiet => ⟨quiet, fun _ => rfl⟩
      · exact remote.mono fun _ quiet => ⟨quiet, fun _ => rfl⟩
      · have submitted : ∀ call, Tells Plain (owner.installReplacedQueue slots nextCursor newSource)
            (((owner.installReplacedQueue slots nextCursor newSource).call
              call).noteObservedActiveSlot none) := fun _ => .of_sent rfl
        exact ((submitted _).broadcast ⟨rfl, rfl⟩).mono fun _ plain => ⟨plain.onOutput, fun _ => rfl⟩
  | append request => exact quietly (edit_accepted accepted)
  | removeSlot slotId => exact quietly (edit_accepted accepted)
  | moveSlot slotId toIndex => exact quietly (edit_accepted accepted)
  | removeSlots slotIds => exact quietly (edit_accepted (removeSlots_accepts slotIds))
  | shuffle draw pinActiveFirst =>
    exact quietly (edit_accepted (shuffle_accepts draw pinActiveFirst))
  | sourceUpdate newSource lineage =>
    refine quietly ?_
    show owner.Tells Plain (owner.handleQueueSourceUpdate ..)
    unfold handleQueueSourceUpdate
    dsimp only at accepted
    split at accepted
    · cases accepted
    · rename_i supported
      split at accepted
      · cases accepted
      · rename_i current
        rw [if_neg supported, if_neg current]
        exact Tells.broadcast (.of_sent rfl) ⟨rfl, rfl⟩
  | playSlot slotId =>
    show owner.Tells _ (owner.handleQueuePlaySlot ..)
    unfold handleQueuePlaySlot
    dsimp only at accepted
    split at accepted
    · cases accepted
    · rename_i held
      rw [if_neg held]
      dsimp only
      have minted : owner.Tells owner.OnOutput (owner.setTransitions owner.core.transitions.mintLocalId.2) := .of_sent rfl
      exact (minted.trans (@dispatchSlotJump_onOutput (owner.setTransitions _) ..)).mono fun _ quiet => ⟨quiet, fun _ => rfl⟩
  | clear => exact quietly (Tells.broadcast (.of_sent rfl) ⟨rfl, rfl⟩)

theorem answerQueueOp_tells (ctx : CommandContext) : owner.Tells Plain (owner.answerQueueOp ctx) := by
  unfold answerQueueOp
  split
  · exact Tells.tell (.of_sent rfl) ⟨rfl, rfl⟩
  · exact .of_sent rfl

/-- A video for a Session that plays only audio. -/
def videoReplacement : QueueReplace where
  items := [.emby ⟨"v", "v", "Movie", "Video", 1000, false, 0, "", 0, 0, ""⟩]

def audioSession : QueueOwner where
  core := .new (.fromQueueItems [] none 0)
  output := .embySession { deviceId := "d", sessionId := some "s", playableMediaTypes := ["Audio"] }

end QueueOwner

end Mbv.Daemon
