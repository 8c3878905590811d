import Mbv.Daemon.QueueRejection
import Mbv.Machine.Run

namespace Mbv.Daemon

open Mbv.Queue Mbv.Player Mbv.Output

/-- What a playback intent's lookup brings back to the event loop. -/
structure ResolvedPlay where
  startIdx : Nat
  startTicks : Int
  newSource : QueueSource
  client : CtrlClientId
  requestId : PlaybackRequestId
  generation : PlaybackGeneration
  fetched : Option (List EmbyItem)

/-- The items to play, or why the intent is rejected. -/
def ResolvedPlay.verdict (play : ResolvedPlay) (audioOnly : Bool) :
    Except PlaybackIntentRejection (List EmbyItem) :=
  match play.fetched with
  | none => .error .resolutionFailed
  | some items =>
    if items.isEmpty then .error .emptyTarget
    else if (audioOnlyRejection audioOnly (items.map .emby)).isSome then .error .audioOnly
    else .ok items

/-- `WsEvent::Play` of the Emby remote, with what the lookup of its items gave. -/
structure WsPlay where
  itemIds : List String
  playNow : Bool
  startPositionTicks : Int
  startIndex : Nat
  fetched : Option (List EmbyItem)

def websocketPlayStartIndex (playNow : Bool) (fetchedLen startIndex : Nat) : Option Nat :=
  if playNow ∧ 0 < fetchedLen then some (min startIndex (fetchedLen - 1)) else none

/-- The items the Emby remote starts and where; anything else is ignored. -/
def WsPlay.admitted (play : WsPlay) (audioOnly : Bool) : Option (List EmbyItem × Nat) :=
  match websocketPlayStartIndex play.playNow play.itemIds.length play.startIndex with
  | none => none
  | some _ =>
    match play.fetched with
    | none => none
    | some fetched =>
      match websocketPlayStartIndex play.playNow fetched.length play.startIndex with
      | none => none
      | some startIdx =>
        match audioOnlyRejection audioOnly (fetched.map .emby) with
        | some _ => none
        | none => some (fetched, startIdx)

def startingAt (fetched : List EmbyItem) (startIdx : Nat) (startTicks : Int) : List QueueItem :=
  (if 0 < startTicks then
    fetched.modify startIdx fun item => { item with playbackPositionTicks := startTicks }
  else fetched).map .emby

namespace QueueOwner

variable (owner : QueueOwner)

/-! ### Plays that bring their own queue -/

def rejectResolvedPlay (play : ResolvedPlay) (reason : PlaybackIntentRejection) : QueueOwner :=
  match owner.intents.rejectedIfCurrent play.client play.requestId play.generation reason with
  | (some event, intents) =>
    { owner with intents := intents }.tell (.playbackIntent play.client event)
  | (none, intents) => { owner with intents := intents }

def installResolvedQueue (fetched : List EmbyItem) (startIdx : Nat) (newSource : QueueSource) :
    QueueOwner :=
  let owner := owner.setQueue (.fromQueueItems (fetched.map .emby) (some startIdx)
    owner.core.queue.mint)
  { owner with source := newSource }.mintQueueLineage.broadcastQueueState none

def playResolvedItems (play : ResolvedPlay) (fetched : List EmbyItem) (now : Ticks) : QueueOwner :=
  let startIdx := min play.startIdx (fetched.length - 1)
  let owner := owner.installResolvedQueue fetched startIdx play.newSource
  match owner.output with
  | .cast | .embySession _ =>
    match owner.core.queue.activeSlotId with
    | none => owner
    | some startSlot =>
      owner.dispatchAccepted (.new play.requestId play.generation startSlot) play.startTicks
        (some play.client) now
  | .local => owner.call (.playQueue (startingAt fetched startIdx play.startTicks) startIdx)

def handlePlaybackResolved (audioOnly hasClient : Bool) (play : ResolvedPlay) (now : Ticks) :
    QueueOwner :=
  if hasClient = false then
    { owner with intents := owner.intents.invalidateConnection play.client }
  else if owner.intents.isCurrent play.client play.requestId play.generation = false then owner
  else
    match play.verdict audioOnly with
    | .error reason => owner.rejectResolvedPlay play reason
    | .ok fetched =>
      let owner := { owner with intents := owner.intents.markStarting play.requestId }
      owner.resetSlotJumps.playResolvedItems play fetched now

/-- The source and the transitions are replaced with the queue; the lineage is left as it is. -/
def handleWsPlay (audioOnly : Bool) (play : WsPlay) : QueueOwner :=
  match play.admitted audioOnly with
  | none => owner
  | some (fetched, startIdx) =>
    let owner := owner.setQueue (.fromQueueItems (fetched.map .emby) (some startIdx)
      owner.core.queue.mint)
    let owner := { owner with source := .remote }.setTransitions owner.core.transitions.reset
    (owner.broadcastQueueState none).call
      (.playQueue (startingAt fetched startIdx play.startPositionTicks) startIdx)

/-- A service that is set up anew or removed takes its slots with it. -/
def reconcile (drop : QueueItem → Bool) : QueueOwner :=
  let queue := owner.core.queue
  let retained := queue.slots.filter fun slot => !drop slot.item
  let purged :=
    if retained.length = queue.slots.length then queue
    else
      PlaybackQueue.fromSlotItems (retained.map fun slot => (slot.slotId, slot.item))
        (queue.activeSlotId.filter fun id => retained.any fun slot => slot.slotId = id) queue.mint
  let owner := owner.setQueue purged
  let owner := if retained.isEmpty then { owner with source := .unknown } else owner
  (owner.setTransitions owner.core.transitions.reset).broadcastQueueState none

end QueueOwner

/-! ### Runs of the owner, with the lineages Clients could read -/

inductive LineageEvent where
  | command (ctx : CommandContext) (command : QueueCommand)
  | resolved (audioOnly hasClient : Bool) (play : ResolvedPlay) (now : Ticks)
  | wsPlay (audioOnly : Bool) (play : WsPlay)
  | reconcile (drop : QueueItem → Bool)
  /-- Anything else leaves the queue's source and lineage. -/
  | elsewhere (next : QueueOwner)

namespace QueueOwner

def Refused (owner next : QueueOwner) : Prop :=
  ∃ message ∈ next.sent.drop owner.sent.length, message.refuses = true

instance (owner next : QueueOwner) : Decidable (owner.Refused next) := by
  unfold Refused
  infer_instance

def handle (owner : QueueOwner) : LineageEvent → QueueOwner
  | .command ctx command => owner.handleCtrlForRole ctx command
  | .resolved audioOnly hasClient play now =>
    owner.handlePlaybackResolved audioOnly hasClient play now
  | .wsPlay audioOnly play => owner.handleWsPlay audioOnly play
  | .reconcile drop => owner.reconcile drop
  | .elsewhere next => { next with source := owner.source, lineage := owner.lineage }

end QueueOwner

def QueueCommand.installs : QueueCommand → Bool
  | .adopt .. | .replace .. | .clear => true
  | _ => false

namespace LineageEvent

/-- The event puts another queue in place of the owner's. -/
def Replaces (owner : QueueOwner) : LineageEvent → Prop
  | .command ctx asked =>
    asked.installs = true ∧ ¬ owner.Refused (owner.handleCtrlForRole ctx asked)
  | .resolved audioOnly hasClient play _ =>
    hasClient = true ∧ owner.intents.isCurrent play.client play.requestId play.generation = true ∧
      (play.verdict audioOnly).toBool = true
  | .wsPlay audioOnly play => (play.admitted audioOnly).isSome = true
  | .reconcile _ | .elsewhere _ => False

instance (owner : QueueOwner) (event : LineageEvent) : Decidable (event.Replaces owner) := by
  cases event <;> unfold Replaces <;> infer_instance

def RemotePlay : LineageEvent → Prop
  | .wsPlay audioOnly play => (play.admitted audioOnly).isSome = true
  | _ => False

end LineageEvent

/-- The owner, how many queues replaced its first one, and the lineage with that count in every
    state so far, where a Client could read it. -/
structure LineageRun where
  owner : QueueOwner
  replacements : Nat
  seen : List (QueueLineage × Nat)

namespace LineageRun

def start (owner : QueueOwner) : LineageRun := ⟨owner, 0, [(owner.lineage, 0)]⟩

def machine : Machine LineageRun LineageEvent where
  step run event :=
    let next := run.owner.handle event
    let replacements :=
      if event.Replaces run.owner then run.replacements + 1 else run.replacements
    ⟨next, replacements, (next.lineage, replacements) :: run.seen⟩

/-- A source update that changes the source was made on a lineage read from the present queue, one
    that is refused changes nothing, and a replacement has a lineage nobody saw before. -/
def NamesItsQueue (run : LineageRun) (event : LineageEvent) : Prop :=
  let next := run.owner.handle event
  (∀ ctx newSource lineage, event = .command ctx (.sourceUpdate newSource lineage) →
    (next.source ≠ run.owner.source →
      ∀ read ∈ run.seen, read.1 = lineage → read.2 = run.replacements) ∧
    (run.owner.Refused next →
      next.core.queue = run.owner.core.queue ∧ next.source = run.owner.source ∧
        next.lineage = run.owner.lineage ∧
        next.core.transitions = run.owner.core.transitions)) ∧
  (event.Replaces run.owner → ∀ read ∈ run.seen, read.1 ≠ next.lineage)

end LineageRun

namespace QueueOwner

variable {owner next : QueueOwner}

/-- What labels the queue: its source and its lineage. -/
def label (owner : QueueOwner) : QueueSource × QueueLineage := (owner.source, owner.lineage)

@[simp] theorem setQueue_label (queue : PlaybackQueue) : (owner.setQueue queue).label = owner.label := rfl

@[simp] theorem setTransitions_label (transitions : OwnerTransitionState) :
    (owner.setTransitions transitions).label = owner.label := rfl

@[simp] theorem tell_label (message : OwnerMessage) : (owner.tell message).label = owner.label := rfl

@[simp] theorem broadcastQueueState_label (except : Option CtrlClientId) :
    (owner.broadcastQueueState except).label = owner.label := rfl

@[simp] theorem call_label (asked : PlayerCall) : (owner.call asked).label = owner.label := rfl

@[simp] theorem noteObservedActiveSlot_label (slotId : Option QueueSlotId) :
    (owner.noteObservedActiveSlot slotId).label = owner.label := rfl

@[simp] theorem resetSlotJumps_label : owner.resetSlotJumps.label = owner.label := rfl

@[simp] theorem takeLoad_label (loaded : SessionOwner) : (owner.takeLoad loaded).label = owner.label := rfl

@[simp] theorem takePromotedOrigin_label (promoted : Option Transition) :
    (owner.takePromotedOrigin promoted).2.label = owner.label := rfl

@[simp] theorem rejectIntent_label (asked : CurrentPlaybackIntent → Bool)
    (reason : PlaybackIntentRejection) : (owner.rejectIntent asked reason).label = owner.label := by
  unfold rejectIntent
  split
  · rfl
  · split <;> rfl

@[simp] theorem dispatchCastLoad_label (transition : Transition) (startTicks : Int) (origin : Option CtrlClientId) :
    (owner.dispatchCastLoad transition startTicks origin).label = owner.label := by
  unfold dispatchCastLoad
  split <;> rfl

theorem dispatchWithin_label (promotions : Nat) (session : EmbySessionOutput)
    (transition : Transition) (startTicks : Int) (origin : Option CtrlClientId) (now : Ticks) :
    (dispatchWithin promotions owner session transition startTicks origin now).label =
      owner.label := by
  induction promotions generalizing owner transition startTicks origin with
  | zero =>
    unfold dispatchWithin
    split
    · rfl
    · simp
    · dsimp only
      split
      · simp
      · split <;> simp
  | succ promotions ih =>
    unfold dispatchWithin
    split
    · rfl
    · simp
    · dsimp only
      split
      · simp
      · split
        · simp
        · rw [ih]
          simp

@[simp] theorem dispatchAccepted_label (transition : Transition) (startTicks : Int)
    (origin : Option CtrlClientId) (now : Ticks) :
    (owner.dispatchAccepted transition startTicks origin now).label = owner.label := by
  unfold dispatchAccepted
  split
  · simp
  · dsimp only
    split
    · simp
    · simp
    · unfold dispatchSession
      rw [dispatchWithin_label, setTransitions_label]

@[simp] theorem sendJumpOrColdStart_label (ctx : CommandContext) (transition : Transition) (origin : Option CtrlClientId) :
    (owner.sendJumpOrColdStart ctx transition origin).label = owner.label := by
  unfold sendJumpOrColdStart
  dsimp only
  split
  · unfold jumpOrColdStart
    dsimp only
    split
    · simp
    · split
      · simp
      · split <;> simp
  · simp
  · exact dispatchWithin_label ..

theorem dispatchSlotJump_label (ctx : CommandContext) (transition : Transition) (except : Option CtrlClientId) :
    (owner.dispatchSlotJump ctx transition except).label = owner.label := by
  unfold QueueOwner.dispatchSlotJump
  dsimp only
  rw [broadcastQueueState_label]
  split
  · simp
  · split
    · split <;> rfl
    · rfl

theorem replaceOnRemote_label (ctx : CommandContext) (startTicks : Option Int) :
    (owner.replaceOnRemote ctx startTicks).label = owner.label := by
  unfold replaceOnRemote
  split
  · rfl
  · simp

theorem answerQueueOp_label (ctx : CommandContext) : (owner.answerQueueOp ctx).label = owner.label := by
  unfold answerQueueOp
  split <;> rfl

theorem handleQueueEdit_label {ctx : CommandContext} {edit : QueueEdit}
    (accepted : (edit.handle owner.core.queue).rejection = none) :
    (owner.handleQueueEdit ctx edit).label = owner.label := by
  unfold handleQueueEdit
  dsimp only
  rw [accepted]
  dsimp only
  split
  · split <;> rfl
  · rfl

end QueueOwner

/-- The label a command that is not refused leaves. -/
def QueueCommand.labels (owner : QueueOwner) : QueueCommand → QueueSource × QueueLineage
  | .adopt _ _ newSource | .replace _ _ newSource => (newSource, owner.lineage + 1)
  | .sourceUpdate newSource _ => (newSource, owner.lineage)
  | .clear => (.unknown, owner.lineage + 1)
  | _ => owner.label

namespace QueueOwner

variable {owner next : QueueOwner}

theorem dispatch_label {ctx : CommandContext} {command : QueueCommand} (accepted : command.refusal owner ctx = none) :
    (owner.dispatchCtrlCommand ctx command).label = command.labels owner := by
  unfold QueueCommand.refusal at accepted
  obtain ⟨-, accepted⟩ := Option.or_eq_none_iff.mp accepted
  cases command with
  | adopt items cursor newSource =>
    show (owner.handleAdoptQueue ..).label = _
    unfold handleAdoptQueue
    dsimp only at accepted
    split at accepted
    · cases accepted
    · rename_i empty
      rw [if_neg empty, accepted]
      rfl
  | replace request startTicks newSource =>
    show (owner.handleQueueReplace ..).label = _
    unfold handleQueueReplace
    dsimp only at accepted
    cases prepared : request.prepareReplacementSlots ctx.control with
    | error cause =>
      rw [prepared] at accepted
      cases accepted
    | ok installed =>
      obtain ⟨slots, nextCursor⟩ := installed
      dsimp only
      split
      · exact replaceOnRemote_label ..
      · exact replaceOnRemote_label ..
      · rfl
  | append request => exact handleQueueEdit_label accepted
  | removeSlot slotId => exact handleQueueEdit_label accepted
  | moveSlot slotId toIndex => exact handleQueueEdit_label accepted
  | removeSlots slotIds => exact handleQueueEdit_label (removeSlots_accepts slotIds)
  | shuffle draw pinActiveFirst =>
    exact handleQueueEdit_label (shuffle_accepts draw pinActiveFirst)
  | sourceUpdate newSource lineage =>
    show (owner.handleQueueSourceUpdate ..).label = _
    unfold handleQueueSourceUpdate
    dsimp only at accepted
    split at accepted
    · cases accepted
    · rename_i supported
      split at accepted
      · cases accepted
      · rename_i current
        rw [if_neg supported, if_neg current]
        rfl
  | playSlot slotId =>
    show (owner.handleQueuePlaySlot ..).label = _
    unfold handleQueuePlaySlot
    dsimp only at accepted
    split at accepted
    · cases accepted
    · rename_i held
      rw [if_neg held]
      exact dispatchSlotJump_label ..
  | clear => rfl

theorem not_refused_of_tells (told : owner.Tells Accepting next) : ¬ owner.Refused next := by
  obtain ⟨new, sent, accepting⟩ := told
  rintro ⟨message, member, refuses⟩
  rw [sent, List.drop_left] at member
  exact absurd ((accepting message member).symm.trans refuses) (by simp)

/-- A command is refused and leaves the owner, or leaves the label it asks for; a source update then
    named the lineage of the queue. -/
theorem handleCtrlForRole_label (ctx : CommandContext) (command : QueueCommand) : let next := owner.handleCtrlForRole ctx command
    (owner.Refused next ∧ ∃ new, next = { owner with op := none, sent := owner.sent ++ new }) ∨
      (¬ owner.Refused next ∧ next.label = command.labels owner ∧
        ∀ newSource lineage, command = .sourceUpdate newSource lineage → lineage = owner.lineage) := by
  let asked : QueueOwner := { owner with op := (command.context ctx).op }
  have refused (reason : String) {next : QueueOwner} (comes : next = asked.rejectCommand (command.context ctx) reason) :
      owner.Refused next ∧ ∃ new, next = { owner with op := none, sent := owner.sent ++ new } := by
    obtain ⟨new, -, rejected, ⟨message, member, refuses⟩, -⟩ := @rejectCommand_spec asked (command.context ctx) reason
    have left : next = { owner with op := none, sent := owner.sent ++ new } := comes.trans rejected
    refine ⟨⟨message, ?_, refuses⟩, new, left⟩
    rw [left, List.drop_left]
    exact member
  unfold handleCtrlForRole
  dsimp only
  cases gate : command.requiresOwner (command.context ctx).role with
  | some reason => exact .inl (refused reason rfl)
  | none =>
    cases refusal : command.refusal asked (command.context ctx) with
    | some reason =>
      obtain ⟨new, answered, rejected, -⟩ := @rejectCommand_spec asked (command.context ctx) reason
      refine .inl (refused reason ?_)
      dsimp only
      rw [dispatch_refused gate refusal, answered]
      exact rejected.symm
    | none =>
      have told : owner.Tells Accepting ((asked.dispatchCtrlCommand (command.context ctx) command).answerQueueOp
            (command.context ctx)) :=
        ((dispatch_accepted refusal).mono fun _ quiet => quiet.1.1).trans ((answerQueueOp_tells _).mono fun _ plain => plain.1)
      refine .inr ⟨not_refused_of_tells told, ?_, ?_⟩
      · rw [answerQueueOp_label, dispatch_label refusal]
        rfl
      · rintro newSource lineage rfl
        unfold QueueCommand.refusal at refusal
        obtain ⟨-, named⟩ := Option.or_eq_none_iff.mp refusal
        dsimp only at named
        split at named
        · cases named
        · split at named
          · cases named
          · rename_i current
            exact not_not.mp current

theorem playResolvedItems_label (play : ResolvedPlay) (fetched : List EmbyItem) (now : Ticks) :
    (owner.playResolvedItems play fetched now).label = (play.newSource, owner.lineage + 1) := by
  unfold playResolvedItems
  dsimp only
  split
  · split
    · rfl
    · rw [dispatchAccepted_label]
      rfl
  · split
    · rfl
    · rw [dispatchAccepted_label]
      rfl
  · rfl

theorem rejectResolvedPlay_label (play : ResolvedPlay) (reason : PlaybackIntentRejection) :
    (owner.rejectResolvedPlay play reason).label = owner.label := by
  unfold rejectResolvedPlay
  split <;> rfl

end QueueOwner

namespace LineageEvent

variable {owner : QueueOwner} {event : LineageEvent}

theorem RemotePlay.replaces (remote : event.RemotePlay) : event.Replaces owner := by
  cases event with
  | wsPlay audioOnly play => exact remote
  | _ => exact remote.elim

theorem RemotePlay.keeps_lineage (remote : event.RemotePlay) : (owner.handle event).lineage = owner.lineage := by
  cases event with
  | wsPlay audioOnly play =>
    show (owner.handleWsPlay audioOnly play).lineage = _
    unfold QueueOwner.handleWsPlay
    split <;> rfl
  | _ => exact remote.elim

theorem command_lineage (ctx : CommandContext) (command : QueueCommand) : (owner.handleCtrlForRole ctx command).lineage =
      if (LineageEvent.command ctx command).Replaces owner then owner.lineage + 1
      else owner.lineage := by
  rcases @QueueOwner.handleCtrlForRole_label owner ctx command with
    ⟨refused, new, left⟩ | ⟨accepted, labelled, -⟩
  · rw [if_neg fun replaces => replaces.2 refused, left]
  · have lineage := congrArg Prod.snd labelled
    cases installs : command.installs with
    | true =>
      rw [if_pos ⟨installs, accepted⟩]
      refine Eq.trans lineage ?_
      cases command <;> first | rfl | cases installs
    | false =>
      rw [if_neg fun replaces => Bool.false_ne_true (installs.symm.trans replaces.1)]
      refine Eq.trans lineage ?_
      cases command <;> first | rfl | cases installs

/-- Every replacement but the Emby remote's takes the next lineage, and nothing else does. -/
theorem handle_lineage (local_ : ¬ event.RemotePlay) : (owner.handle event).lineage =
      if event.Replaces owner then owner.lineage + 1 else owner.lineage := by
  cases event with
  | command ctx asked => exact command_lineage ctx asked
  | resolved audioOnly hasClient play now =>
    show (owner.handlePlaybackResolved audioOnly hasClient play now).lineage = _
    unfold QueueOwner.handlePlaybackResolved
    split
    · rename_i absent
      rw [if_neg fun replaces => Bool.false_ne_true (absent.symm.trans replaces.1)]
    · rename_i attached
      split
      · rename_i stale
        rw [if_neg fun replaces => Bool.false_ne_true (stale.symm.trans replaces.2.1)]
      · rename_i current
        cases verdict : play.verdict audioOnly with
        | error reason =>
          have rejected : (play.verdict audioOnly).toBool = false := by rw [verdict]; rfl
          rw [if_neg fun replaces => Bool.false_ne_true (rejected.symm.trans replaces.2.2)]
          exact congrArg Prod.snd (QueueOwner.rejectResolvedPlay_label play reason)
        | ok fetched =>
          rw [if_pos ⟨Bool.not_eq_false _ ▸ attached, Bool.not_eq_false _ ▸ current, by rw [verdict]; rfl⟩]
          exact congrArg Prod.snd (QueueOwner.playResolvedItems_label play fetched now)
  | wsPlay audioOnly play =>
    show (owner.handleWsPlay audioOnly play).lineage = _
    rw [if_neg (show ¬ (wsPlay audioOnly play).Replaces owner from local_)]
    unfold QueueOwner.handleWsPlay
    split <;> rfl
  | reconcile drop =>
    rw [if_neg (show ¬ (reconcile drop).Replaces owner from id)]
    show (owner.reconcile drop).lineage = _
    unfold QueueOwner.reconcile
    dsimp only
    split <;> split <;> rfl
  | elsewhere next => exact (if_neg id).symm

end LineageEvent

namespace LineageRun

variable {run : LineageRun}

/-- A lineage read at any time is no later than the present one, and the present one was only ever
    read from the present queue. -/
structure Tracked (run : LineageRun) : Prop where
  present : (run.owner.lineage, run.replacements) ∈ run.seen
  past : ∀ read ∈ run.seen, read.1 ≤ run.owner.lineage ∧
    (read.1 = run.owner.lineage → read.2 = run.replacements)

theorem start_tracked (owner : QueueOwner) : Tracked (start owner) where
  present := List.mem_singleton.mpr rfl
  past read member := by
    cases List.mem_singleton.mp member
    exact ⟨Nat.le_refl _, fun _ => rfl⟩

theorem Tracked.step (tracked : Tracked run) {event : LineageEvent}
    (local_ : ¬ event.RemotePlay) : Tracked (machine.step run event) where
  present := List.mem_cons_self
  past read member := by
    have lineage := @LineageEvent.handle_lineage run.owner _ local_
    rcases List.mem_cons.mp member with rfl | earlier
    · exact ⟨Nat.le_refl _, fun _ => rfl⟩
    · have bound := tracked.past read earlier
      change read.1 ≤ (run.owner.handle event).lineage ∧ (read.1 = (run.owner.handle event).lineage →
          read.2 = if event.Replaces run.owner then run.replacements + 1 else run.replacements)
      rw [lineage]
      split
      · exact ⟨Nat.le_succ_of_le bound.1, fun same =>
          absurd (same ▸ bound.1) (Nat.not_succ_le_self _)⟩
      · exact bound

/-- Only an Emby remote Play breaks the law, and each one that starts something does. -/
theorem names_its_queue_iff (tracked : Tracked run) (event : LineageEvent) : run.NamesItsQueue event ↔ ¬ event.RemotePlay := by
  constructor
  · intro named remote
    exact named.2 remote.replaces _ tracked.present remote.keeps_lineage.symm
  · intro local_
    constructor
    · rintro ctx newSource lineage rfl
      rcases @QueueOwner.handleCtrlForRole_label run.owner ctx (.sourceUpdate newSource lineage) with
        ⟨-, new, left⟩ | ⟨accepted, -, current⟩
      · dsimp only [QueueOwner.handle]
        rw [left]
        exact ⟨fun changed => absurd rfl changed, fun _ => ⟨rfl, rfl, rfl, rfl⟩⟩
      · refine ⟨fun _ read member named => ?_, fun refused => absurd refused accepted⟩
        exact (tracked.past read member).2 (named.trans (current newSource lineage rfl))
    · intro replaces read member same
      have lineage := @LineageEvent.handle_lineage run.owner _ local_
      rw [if_pos replaces] at lineage
      have bound := (tracked.past read member).1
      rw [same] at bound
      exact absurd (lineage ▸ bound) (Nat.not_succ_le_self _)

/-- Over a whole run of the owner, source updates name the queue they were asked for and every
    replacement has a lineage of its own exactly when no Emby remote Play starts anything. -/
theorem lineage_names_its_queue (owner : QueueOwner) (events : List LineageEvent) :
    machine.Along NamesItsQueue (start owner) events ↔
      machine.Along (fun _ event => ¬ event.RemotePlay) (start owner) events :=
  Machine.along_iff (fun _ _ tracked local_ => tracked.step local_)
    (fun _ event tracked => names_its_queue_iff tracked event) (start_tracked owner)

def adoptedOwner : QueueOwner where
  core := .new (.fromQueueItems [] none 0)

def remoteAlbum : WsPlay where
  itemIds := ["a"]
  playNow := true
  startPositionTicks := 0
  startIndex := 0
  fetched := some [⟨"a", "a", "Audio", "Audio", 1000, false, 0, "", 0, 0, ""⟩]

def delayedUpdate : LineageEvent :=
  .command { client := 3, supportsSourceUpdate := true } (.sourceUpdate .album 0)

/-- The update carries the lineage of the queue before the remote's and relabels the remote's. -/
theorem delayed_update_renames_remote_queue :
    let played := machine.step (start adoptedOwner) (.wsPlay false remoteAlbum)
    played.owner.source = .remote ∧ played.owner.core.queue.slotIds = [⟨1⟩] ∧
      (machine.step played delayedUpdate).owner.source = .album ∧
      ¬ played.NamesItsQueue delayedUpdate ∧
      ¬ machine.Along NamesItsQueue (start adoptedOwner) [.wsPlay false remoteAlbum, delayedUpdate] := by
  have broken : ¬ (machine.step (start adoptedOwner) (.wsPlay false remoteAlbum)).NamesItsQueue
      delayedUpdate := by
    intro named
    have current := (named.1 _ .album 0 rfl).1 (by decide +kernel) (0, 0) (by decide +kernel) rfl
    exact absurd current (by decide +kernel)
  exact ⟨by decide +kernel, by decide +kernel, by decide +kernel, broken,
    fun along => broken along.2.1⟩

end LineageRun

end Mbv.Daemon
