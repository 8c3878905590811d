import Mbv.Client.OwnerEvents

namespace Mbv.Client

open Mbv.Queue List

/-! ### What a report reads -/

structure FeedReading where
  feedId : Option String
  guid : String
  runtimeTicks : Int
  position : Int
deriving DecidableEq

structure SlotReading where
  isVideo : Bool
  isAudio : Bool
  feed : Option FeedReading
deriving DecidableEq

section

variable (feedId : FeedEntry → Option String)

def QueueState.reading (queue : QueueState) (slotId : QueueSlotId)
    (observation : ProgressObservation) : Option SlotReading :=
  (queue.slot slotId).map fun slot =>
    { isVideo := slot.item.isVideo
      isAudio := slot.item.isAudio
      feed :=
        match slot.item with
        | .feed entry =>
          some ⟨feedId entry, entry.guid, (QueueItem.feed entry).runtimeTicks,
            observation.positionToRecord (.feed entry)⟩
        | _ => none }

def OwnerEvent.reading (queue : QueueState) : OwnerEvent → Option SlotReading
  | .trackCompleted slotId positionTicks played _ =>
    queue.reading feedId slotId (.completed positionTicks played)
  | .stopped (some slotId) positionTicks played _ =>
    queue.reading feedId slotId (.stopped positionTicks played)
  | _ => none

end

namespace SlotReading

variable (context : ReactionContext) (reading : SlotReading)

def consumeReaction (consume : Bool) : List Reaction :=
  if consume && (reading.isVideo && context.consumeVideos ||
      reading.isAudio && context.consumeAudio) then
    [if reading.isAudio then .audioConsumed else .videoConsumed]
  else []

/-- The state stored for a Feed entry whose completion `completed` decides. -/
def persist (completed : FeedReading → Bool) : List Reaction :=
  match reading.feed with
  | some ⟨some feedId, guid, runtime, position⟩ =>
    if completed ⟨some feedId, guid, runtime, position⟩ && decide (0 < runtime) then
      [.feedState feedId guid 0 true]
    else [.feedState feedId guid position false]
  | _ => []

end SlotReading

section

variable {feedId : FeedEntry → Option String} {context : ReactionContext}
  {queue queue' : QueueState} {slotId : QueueSlotId}

theorem consumeReaction_reads (observation : ProgressObservation) (consume : Bool) :
    consumeReaction context queue slotId consume =
      (queue.reading feedId slotId observation).elim [] (·.consumeReaction context consume) := by
  unfold consumeReaction shouldConsumeSlot QueueState.reading SlotReading.consumeReaction
  cases queue.slot slotId with
  | none => cases consume <;> rfl
  | some slot =>
    simp only [Option.map_some, Option.any_some, Option.elim_some]
    by_cases applies : (consume && (slot.item.isVideo && context.consumeVideos ||
        slot.item.isAudio && context.consumeAudio)) = true
    · rw [applies, if_pos rfl]
      cases slot.item.isAudio <;> rfl
    · rw [Bool.eq_false_iff.mpr applies]
      cases slot.item.isAudio <;> rfl

theorem trackCompleted_reads (positionTicks : Int) (played consume : Bool) :
    trackCompletedReactions feedId context queue slotId positionTicks played consume =
      (queue.reading feedId slotId (.completed positionTicks played)).elim [] fun reading =>
        reading.persist (fun feed => played && decide (0 < feed.runtimeTicks)) ++ reading.consumeReaction context consume := by
  have consumed := @consumeReaction_reads feedId context queue slotId (.completed positionTicks played) consume
  unfold trackCompletedReactions
  rw [consumed]
  unfold QueueState.reading persistFeedSlotLifecycle SlotReading.persist
  cases here : queue.slot slotId with
  | none => rfl
  | some slot =>
    obtain ⟨_, item⟩ := slot
    cases item with
    | feed entry =>
      dsimp only [Option.map_some, Option.elim_some]
      cases feedId entry <;> rfl
    | _ => rfl

theorem applyStopped_reads (positionTicks : Int) (played : Bool) :
    applyStoppedSlotProgress feedId queue slotId positionTicks played =
      (queue.reading feedId slotId (.stopped positionTicks played)).elim [] fun reading =>
        reading.persist fun feed => played || decide (0 < feed.runtimeTicks) &&
          decide (feed.runtimeTicks * 95 / 100 ≤ feed.position) := by
  unfold applyStoppedSlotProgress QueueState.reading persistFeedSlotLifecycle SlotReading.persist
  cases here : queue.slot slotId with
  | none => rfl
  | some slot =>
    obtain ⟨_, item⟩ := slot
    cases item with
    | feed entry =>
      dsimp only [Option.map_some, Option.elim_some]
      cases feedId entry <;> rfl
    | _ => rfl

theorem OwnerEvent.reactions_congr {event : OwnerEvent} {connection : Nat}
    (same : event.reading feedId queue = event.reading feedId queue') :
    event.reactions feedId context queue connection = event.reactions feedId context queue' connection := by
  cases event with
  | trackCompleted slotId positionTicks played consume =>
    dsimp only [OwnerEvent.reactions]
    rw [trackCompleted_reads, trackCompleted_reads]
    exact congrArg (fun reading => Option.elim reading [] _) same
  | stopped slotId positionTicks played consume =>
    cases slotId with
    | none => rfl
    | some slotId =>
      have progress : applyStoppedSlotProgress feedId queue slotId positionTicks played =
          applyStoppedSlotProgress feedId queue' slotId positionTicks played := by
        rw [applyStopped_reads, applyStopped_reads]
        exact congrArg (fun reading => Option.elim reading [] _) same
      have consumed : consumeReaction context queue slotId consume = consumeReaction context queue' slotId consume := by
        rw [@consumeReaction_reads feedId _ _ _ (.stopped positionTicks played),
          @consumeReaction_reads feedId _ _ _ (.stopped positionTicks played)]
        exact congrArg (fun reading => Option.elim reading [] _) same
      simp only [OwnerEvent.reactions, stoppedReactions, finishStoppedConsumption, Option.elim_some, progress, consumed]
  | _ => rfl

theorem OwnerEvent.reactions_delete {event : OwnerEvent} {connection : Nat}
    (stopped : event.isStopped = true) (delete : context.isDelete = true) :
    event.reactions feedId context queue connection = event.reactions feedId context queue' connection := by
  cases event with
  | stopped slotId positionTicks played consume =>
    have tail : finishStoppedConsumption context queue connection slotId consume =
        finishStoppedConsumption context queue' connection slotId consume := by
      unfold finishStoppedConsumption
      unfold ReactionContext.isDelete at delete
      cases selected : context.deletedSelection.filter (!·.isEmpty) with
      | some selection => rfl
      | none =>
        cases deleted : context.deletedSlot with
        | some slot => rfl
        | none =>
          rw [deleted, Option.isSome_none, Bool.false_or] at delete
          obtain ⟨selection, chosen, nonempty⟩ := Option.any_eq_true .. |>.mp delete
          have kept : (some selection).filter (!·.isEmpty) = some selection := by
            simp only [Option.filter, nonempty, if_true]
          cases kept.symm.trans (chosen ▸ selected)
    cases slotId <;> simp only [OwnerEvent.reactions, stoppedReactions, delete, if_true, tail]
  | _ => cases stopped

end

/-! ### One link -/

/-- The queue last shown, when `initial` was shown before these events. -/
def lastShown (initial : QueueState) (arrivals : List Arrival) : QueueState :=
  arrivals.foldl (fun shown arrival => arrival.event.state.getD shown) initial

@[simp] theorem lastShown_append (initial : QueueState) (arrivals : List Arrival) (arrival : Arrival) :
    lastShown initial (arrivals ++ [arrival]) = arrival.event.state.getD (lastShown initial arrivals) := by
  simp [lastShown]

/-- Each event was received with the queue shown before it, and `shown` is the last one. -/
def SeenInOrder : QueueState → List Arrival → QueueState → Prop
  | before, [], shown => shown = before
  | before, arrival :: arrivals, shown =>
    arrival.seen = before ∧ SeenInOrder (arrival.event.state.getD before) arrivals shown

theorem SeenInOrder.append {before shown : QueueState} {arrivals : List Arrival}
    (seen : SeenInOrder before arrivals shown) (event : OwnerEvent) (connection : Nat) :
    SeenInOrder before (arrivals ++ [⟨event, connection, shown⟩]) (event.state.getD shown) := by
  induction arrivals generalizing before with
  | nil =>
    have same : shown = before := seen
    exact ⟨same, same ▸ rfl⟩
  | cons arrival arrivals ih => exact ⟨seen.1, ih seen.2⟩

theorem SeenInOrder.lastShown {before shown : QueueState} {arrivals : List Arrival}
    (seen : SeenInOrder before arrivals shown) : shown = lastShown before arrivals := by
  induction arrivals generalizing before with
  | nil => exact seen
  | cons arrival arrivals ih => exact ih seen.2

theorem SeenInOrder.at_split {before shown : QueueState} {first rest : List Arrival}
    {arrival : Arrival} (seen : SeenInOrder before (first ++ arrival :: rest) shown) :
    arrival.seen = Client.lastShown before first := by
  induction first generalizing before with
  | nil => exact seen.1
  | cons other first ih => exact ih seen.2

theorem OwnerEvent.state_of_act {event : OwnerEvent} (act : event.isInline = false) : event.state = none := by
  cases event <;> first | rfl | cases act

/-- What an event of the active link calls for when events are handled in the order they arrive: a
    reaction to the queue it found. -/
def Acted.inOrder (feedId : FeedEntry → Option String) (acted : Acted) : List Reaction :=
  acted.context.elim [] fun context =>
    acted.arrival.event.reactions feedId context acted.arrival.seen acted.arrival.connection

/-- The link lost nothing: of what arrived, the queue states were adopted and the other events acted
    on in their order, each once and as an event of this link, and the rest waits. The view is the
    last state adopted, and every reaction that of its event in arrival order. -/
structure EventLink.Served (feedId : FeedEntry → Option String) (link : EventLink)
    (view : QueueState) (deferred : List Arrival) : Prop where
  adopted : link.adopted ++ link.rx.filter (·.event.isInline) =
    link.arrived.filter (·.event.isInline)
  acted : link.acted.map (·.arrival) ++ (deferred ++ link.rx.filter (!·.event.isInline)) =
    link.arrived.filter (!·.event.isInline)
  seen : ∀ before arrival after, link.arrived = before ++ arrival :: after →
    arrival.connection = link.connection ∧ arrival.seen = lastShown link.initial before
  follows : view = lastShown link.initial link.adopted
  settled : link.rx = [] → view = lastShown link.initial link.arrived
  reactions : ∀ acted ∈ link.acted, acted.reactions = acted.inOrder feedId

structure EventLink.Kept (feedId : FeedEntry → Option String) (link : EventLink)
    (view : QueueState) (deferred : List Arrival) : Prop where
  adopted : link.adopted ++ link.rx.filter (·.event.isInline) =
    link.arrived.filter (·.event.isInline)
  acted : link.acted.map (·.arrival) ++ (deferred ++ link.rx.filter (!·.event.isInline)) =
    link.arrived.filter (!·.event.isInline)
  follows : view = lastShown link.initial link.adopted
  reactions : ∀ acted ∈ link.acted, acted.reactions = acted.inOrder feedId
  waiting : SeenInOrder view link.rx link.shown
  seen : SeenInOrder link.initial link.arrived link.shown
  own : ∀ arrival ∈ link.arrived, arrival.connection = link.connection
  ended : ∀ before arrival after, link.arrived = before ++ arrival :: after →
    arrival.event.isDisconnect = true → after = [] ∧ link.disconnected = true

namespace EventLink

variable {feedId : FeedEntry → Option String} {link : EventLink} {view : QueueState}
  {deferred : List Arrival}

theorem Kept.served (kept : link.Kept feedId view deferred) : link.Served feedId view deferred := by
  refine ⟨kept.adopted, kept.acted, fun before arrival after split => ?_, kept.follows, fun empty => ?_, kept.reactions⟩
  · have member : arrival ∈ link.arrived := by simp [split]
    have seen := kept.seen
    rw [split] at seen
    exact ⟨kept.own arrival member, seen.at_split⟩
  · have waiting := kept.waiting
    rw [empty] at waiting
    exact Eq.trans (Eq.symm waiting) kept.seen.lastShown

theorem Kept.receive (kept : link.Kept feedId view deferred) (event : OwnerEvent) :
    (link.receive event).Kept feedId view deferred := by
  unfold EventLink.receive
  split
  · exact kept
  · rename_i alive
    refine
      { adopted := ?_, acted := ?_, follows := kept.follows, reactions := kept.reactions
        waiting := kept.waiting.append event link.connection
        seen := kept.seen.append event link.connection, own := fun arrival member => ?_
        ended := fun before arrival after parts disconnect => ?_ }
    · change link.adopted ++ (link.rx ++ _).filter _ = (link.arrived ++ _).filter _
      rw [filter_append, filter_append, ← kept.adopted, append_assoc]
    · change link.acted.map _ ++ (deferred ++ (link.rx ++ _).filter _) = (link.arrived ++ _).filter _
      rw [filter_append, filter_append, ← kept.acted]
      simp only [append_assoc]
    · rcases mem_append.mp member with member | member
      · exact kept.own arrival member
      · exact (congrArg Arrival.connection (mem_singleton.mp member)).trans rfl
    · rcases eq_nil_or_concat after with none | ⟨rest, last, more⟩
      · subst none
        have new := singleton_inj.mp (append_inj' parts rfl).2
        exact ⟨rfl, (congrArg (·.event.isDisconnect) new).trans disconnect⟩
      · subst more
        have whole : link.arrived ++ [⟨event, link.connection, link.shown⟩] =
            (before ++ arrival :: rest) ++ [last] := parts.trans (by simp)
        have earlier := (append_inj' whole rfl).1
        exact absurd (kept.ended before arrival rest earlier disconnect).2 alive

theorem Kept.receiveAll (kept : link.Kept feedId view deferred) (events : List OwnerEvent) :
    (link.receiveAll events).Kept feedId view deferred := by
  induction events generalizing link with
  | nil => exact kept
  | cons event events ih => exact ih (kept.receive event)

variable {arrival : Arrival}

theorem Kept.adoptHead {rx : List Arrival} (kept : link.Kept feedId view deferred)
    (head : link.rx = arrival :: rx) (inline : arrival.event.isInline = true) :
    ({ link with rx }.recordAdopted arrival).Kept feedId (arrival.event.state.getD view)
      deferred := by
  have adopted := kept.adopted
  have acted := kept.acted
  have waiting := kept.waiting
  rw [head, filter_cons_of_pos (by exact inline)] at adopted
  rw [head, filter_cons_of_neg (by simp [inline])] at acted
  rw [head] at waiting
  refine
    { adopted := ?_, acted, follows := ?_, reactions := kept.reactions, waiting := waiting.2
      seen := kept.seen, own := kept.own, ended := kept.ended }
  · change (link.adopted ++ [arrival]) ++ rx.filter _ = link.arrived.filter _
    rw [← adopted, append_assoc, singleton_append]
  · change _ = Client.lastShown link.initial (link.adopted ++ [arrival])
    rw [lastShown_append, ← kept.follows]

theorem Kept.deferHead {rx : List Arrival} (kept : link.Kept feedId view deferred)
    (head : link.rx = arrival :: rx) (act : arrival.event.isInline = false) :
    EventLink.Kept feedId { link with rx } view (deferred ++ [arrival]) := by
  have adopted := kept.adopted
  have acted := kept.acted
  have waiting := kept.waiting
  rw [head, filter_cons_of_neg (by simp [act])] at adopted
  rw [head, filter_cons_of_pos (by simp [act])] at acted
  rw [head] at waiting
  refine
    { adopted, acted := ?_, follows := kept.follows, reactions := kept.reactions, waiting := ?_
      seen := kept.seen, own := kept.own, ended := kept.ended }
  · rw [← acted, append_assoc, singleton_append]
  · have rest := waiting.2
    rw [OwnerEvent.state_of_act act, Option.getD_none] at rest
    exact rest

theorem Kept.actDeferred {rest : List Arrival} {acted : Acted}
    (kept : link.Kept feedId view (arrival :: rest)) (same : acted.arrival = arrival)
    (reactions : acted.reactions = acted.inOrder feedId) :
    (link.recordActed acted).Kept feedId view rest := by
  refine
    { adopted := kept.adopted, acted := ?_, follows := kept.follows
      reactions := fun other member => ?_, waiting := kept.waiting, seen := kept.seen
      own := kept.own, ended := kept.ended }
  · have all := kept.acted
    change (link.acted ++ [acted]).map _ ++ (rest ++ link.rx.filter _) = link.arrived.filter _
    rw [← all, map_append, map_singleton, same, append_assoc]
    rfl
  · rcases mem_append.mp member with member | member
    · exact kept.reactions other member
    · exact mem_singleton.mp member ▸ reactions

theorem Kept.mem_arrived (kept : link.Kept feedId view deferred) (waits : arrival ∈ deferred) :
    arrival ∈ link.arrived ∧ arrival.event.isInline = false := by
  have member : arrival ∈ link.arrived.filter (!·.event.isInline) := by
    rw [← kept.acted]
    exact mem_append_right _ (mem_append_left _ waits)
  obtain ⟨arrived, act⟩ := mem_filter.mp member
  exact ⟨arrived, by simpa using act⟩

theorem Kept.nothing_after {rest : List Arrival} (kept : link.Kept feedId view (arrival :: rest))
    (disconnect : arrival.event.isDisconnect = true) : rest = [] := by
  have split : link.arrived.filter (!·.event.isInline) =
      link.acted.map (·.arrival) ++ arrival :: (rest ++ link.rx.filter (!·.event.isInline)) := by
    rw [← kept.acted, cons_append]
  obtain ⟨before, others, parts, _, tail⟩ := filter_eq_append_iff.mp split
  obtain ⟨skipped, after, found, _, _, more⟩ := filter_eq_cons_iff.mp tail
  have whole : link.arrived = (before ++ skipped) ++ arrival :: after := by
    rw [parts, found, append_assoc]
  have last := (kept.ended _ arrival after whole disconnect).1
  subst last
  exact (append_eq_nil_iff.mp more.symm).1

theorem Kept.actHead {rx : List Arrival} {acted : Acted} (kept : link.Kept feedId view [])
    (head : link.rx = arrival :: rx) (act : arrival.event.isInline = false)
    (same : acted.arrival = arrival) (reactions : acted.reactions = acted.inOrder feedId) :
    ({ link with rx }.recordActed acted).Kept feedId view [] :=
  (kept.deferHead head act).actDeferred same reactions

end EventLink

def Connected.Quiet (connected : Connected) : Prop :=
  ∀ event ∈ connected.received, event.state = none

instance (connected : Connected) : Decidable connected.Quiet := by
  unfold Connected.Quiet; infer_instance

theorem Connected.Quiet.shown {connected : Connected} (quiet : connected.Quiet) (number : Nat) :
    (connected.link number).shown = connected.initial := by
  have keeps : ∀ (events : List OwnerEvent) (link : EventLink),
      (∀ event ∈ events, event.state = none) → (link.receiveAll events).shown = link.shown := by
    intro events
    induction events with
    | nil => exact fun _ _ => rfl
    | cons event events ih =>
      intro link none
      have rest := ih (link.receive event) fun other member =>
        none other (mem_cons_of_mem _ member)
      refine rest.trans ?_
      unfold EventLink.receive
      split
      · rfl
      · change event.state.getD link.shown = link.shown
        rw [none event mem_cons_self, Option.getD_none]
  exact keeps connected.received _ quiet

theorem Connected.Quiet.kept {feedId : FeedEntry → Option String} {connected : Connected}
    (quiet : connected.Quiet) (number : Nat) :
    (connected.link number).Kept feedId (connected.link number).shown [] := by
  rw [quiet.shown number]
  refine EventLink.Kept.receiveAll ?_ connected.received
  exact
    { adopted := rfl, acted := rfl, follows := rfl
      reactions := fun _ none => absurd none not_mem_nil, waiting := rfl, seen := rfl
      own := fun _ none => absurd none not_mem_nil
      ended := fun before _ _ parts => by cases before <;> cases parts }

namespace EventApp

variable (feedId : FeedEntry → Option String) (app : EventApp)

/-! ### What has to hold of each step -/

def Wired : QueueLink → Prop
  | .localOwner => app.suspendedLocal.isSome ∨ app.remoteView.isNone
  | .peer => app.remoteView.isSome

instance (link : QueueLink) : Decidable (app.Wired link) := by
  cases link <;> unfold Wired <;> infer_instance

def SendSafe (link : QueueLink) : QueueOpSend → Prop
  | .answered .. => app.Wired link
  | _ => True

instance (link : QueueLink) (send : QueueOpSend) : Decidable (app.SendSafe link send) := by
  cases send <;> unfold SendSafe <;> infer_instance

/-- Going back to the local Owner gives up links for which nothing is kept back. Where no local
    Owner is reached, the link that stays is closed and read to its end. -/
def RestoreSafe (reconnect : Option Connected) : Prop :=
  if app.isLocalDaemon && app.suspendedLocal.isNone then True
  else
    app.deferredPlayerEvents = [] ∧ app.deferredHomeEvents = [] ∧
      match app.liveHome, reconnect with
      | some _, _ => True
      | none, some connected => connected.Quiet
      | none, none => app.player.rx = [] ∧ app.player.disconnected = true

instance (reconnect : Option Connected) : Decidable (app.RestoreSafe reconnect) := by
  unfold RestoreSafe
  split
  · infer_instance
  · cases app.liveHome <;> cases reconnect <;> infer_instance

def AttachSafe (isLocal : Bool) (connected : Connected) (reconnect : Option Connected) : Prop :=
  if isLocal && (app.suspendedLocal.isSome || app.isLocalDaemon) then app.RestoreSafe reconnect
  else app.deferredPlayerEvents = [] ∧ connected.Quiet

instance (isLocal : Bool) (connected : Connected) (reconnect : Option Connected) :
    Decidable (app.AttachSafe isLocal connected reconnect) := by
  unfold AttachSafe
  split <;> infer_instance

def RecoverySafe (recovery : Recovery) : Prop :=
  if app.isLocalDaemon then True
  else
    match app.autoReconnect, recovery.reattach with
    | true, some connected => app.deferredPlayerEvents = [] ∧ connected.Quiet
    | _, _ => app.RestoreSafe recovery.reconnect

instance (recovery : Recovery) : Decidable (app.RecoverySafe recovery) := by
  unfold RecoverySafe
  split
  · infer_instance
  · cases app.autoReconnect <;> cases recovery.reattach <;> infer_instance

/-- The queue now shown still has in the event's slot what the event reads there, or a confirmed
    removal takes the place of what it would read. -/
def ReadsAsArrived (arrival : Arrival) : Prop :=
  arrival.event.isStopped ∧ app.context.isDelete ∨
    arrival.event.reading feedId app.playbackQueue = arrival.event.reading feedId arrival.seen

instance (arrival : Arrival) : Decidable (app.ReadsAsArrived feedId arrival) := by
  unfold ReadsAsArrived; infer_instance

/-- A stop is handled before its link is known to be lost, and a link is given up only when nothing
    else is kept back for it. `rest` is what is left without the event. -/
def EventSafe (arrival : Arrival) (rest : EventApp) (recovery : Recovery) : Prop :=
  match arrival.event with
  | .stopped .. => rest.player.disconnected = false
  | .remoteDisconnected => rest.RecoverySafe recovery
  | .daemonShutdownAnnounced =>
    rest.isLocalDaemon = true ∨ rest.RestoreSafe recovery.reconnect
  | _ => True

instance (arrival : Arrival) (rest : EventApp) (recovery : Recovery) :
    Decidable (EventSafe arrival rest recovery) := by
  obtain ⟨event, _, _⟩ := arrival
  cases event <;> unfold EventSafe <;> infer_instance

def DrainSafe (recovery : Recovery) : Prop :=
  (∀ arrival ∈ app.deferredPlayerEvents.head?, app.ReadsAsArrived feedId arrival) ∧
    ∀ next ∈ app.nextPlayerEvent, EventSafe next.1 next.2 recovery

instance (recovery : Recovery) : Decidable (app.DrainSafe feedId recovery) := by
  unfold DrainSafe; infer_instance

/-- No step reads an event's slot after it has changed, or gives up a link with events kept back. -/
def Undisturbed : OwnerInput → Prop
  | .sentOp link send => app.SendSafe link send
  | .drainedPlayer _ recovery => app.DrainSafe feedId recovery
  | .attached isLocal connected reconnect => app.AttachSafe isLocal connected reconnect
  | .restored reconnect => app.RestoreSafe reconnect
  | .restarted connected =>
    app.deferredPlayerEvents = [] ∧ app.deferredHomeEvents = [] ∧ connected.Quiet
  | _ => True

instance (input : OwnerInput) : Decidable (app.Undisturbed feedId input) := by
  cases input <;> unfold Undisturbed <;> infer_instance

/-! ### The invariant -/

def attached : Bool := app.isLocalDaemon || app.remoteView.isSome

structure LosesNothing : Prop where
  player : app.attached = true →
    app.player.Served feedId app.playbackQueue app.deferredPlayerEvents
  home : ∀ home, app.suspendedLocal = some home →
    home.Served feedId app.localView app.deferredHomeEvents

structure Sound : Prop where
  player : app.attached = true →
    app.player.Kept feedId app.playbackQueue app.deferredPlayerEvents
  detached : app.attached = false →
    app.player.rx = [] ∧ app.player.disconnected = true ∧ app.deferredPlayerEvents = []
  home : ∀ home, app.suspendedLocal = some home →
    home.Kept feedId app.localView app.deferredHomeEvents
  homeless : app.suspendedLocal = none → app.deferredHomeEvents = []
  atHome : app.isLocalDaemon = true → app.suspendedLocal = none ∧ app.remoteView = none
  away : app.suspendedLocal.isSome = true → app.remoteView.isSome = true

variable {feedId app}

theorem Sound.losesNothing (sound : app.Sound feedId) : app.LosesNothing feedId :=
  ⟨fun attached => (sound.player attached).served, fun home suspended =>
    (sound.home home suspended).served⟩

theorem start_sound (initial : QueueState) : (start initial).Sound feedId where
  player _ := @Connected.Quiet.kept feedId ⟨initial, []⟩ (fun _ none => absurd none not_mem_nil) 0
  detached away := by cases away
  home _ none := by cases none
  homeless _ := rfl
  atHome _ := ⟨rfl, rfl⟩
  away none := by cases none

structure SameHome (app app' : EventApp) : Prop where
  home : app'.suspendedLocal = app.suspendedLocal
  atHome : app'.isLocalDaemon = app.isLocalDaemon
  deferred : app'.deferredHomeEvents = app.deferredHomeEvents
  remote : app'.remoteView.isSome = app.remoteView.isSome
  view : app.suspendedLocal.isSome = true → app'.localView = app.localView

variable {app' : EventApp}

theorem SameHome.attached (same : SameHome app app') : app'.attached = app.attached := by
  unfold EventApp.attached
  rw [same.atHome, same.remote]

theorem SameHome.trans {app' app'' : EventApp} (first : SameHome app app')
    (second : SameHome app' app'') : SameHome app app'' where
  home := second.home.trans first.home
  atHome := second.atHome.trans first.atHome
  deferred := second.deferred.trans first.deferred
  remote := second.remote.trans first.remote
  view here := (second.view (first.home ▸ here)).trans (first.view here)

theorem Sound.ofPlayer (sound : app.Sound feedId) (same : SameHome app app') (player : app.attached = true →
      app'.player.Kept feedId app'.playbackQueue app'.deferredPlayerEvents)
    (detached : app.attached = false → app'.player.rx = [] ∧ app'.player.disconnected = true ∧ app'.deferredPlayerEvents = []) :
    app'.Sound feedId where
  player attached := player (same.attached ▸ attached)
  detached gone := detached (same.attached ▸ gone)
  home home suspended := by
    have here := same.home ▸ suspended
    rw [same.deferred, same.view (by rw [here]; rfl)]
    exact sound.home home here
  homeless none := same.deferred.trans (sound.homeless (same.home ▸ none))
  atHome there := by
    obtain ⟨none, gone⟩ := sound.atHome (same.atHome ▸ there)
    refine ⟨same.home.trans none, ?_⟩
    have alike := same.remote
    rw [gone] at alike
    exact Option.isNone_iff_eq_none.mp (by simpa using alike)
  away suspended := same.remote.trans (sound.away (same.home ▸ suspended))

theorem Sound.ofHome {home home' : EventLink} {view : QueueState} {deferred : List Arrival}
    (sound : app.Sound feedId) (suspended : app.suspendedLocal = some home)
    (kept : home'.Kept feedId view deferred) :
    EventApp.Sound feedId
      { app with suspendedLocal := some home', localView := view, deferredHomeEvents := deferred } := by
  have away : app.remoteView.isSome = true := sound.away (by rw [suspended]; rfl)
  obtain ⟨remote, shown⟩ := Option.isSome_iff_exists.mp away
  refine
    { player := fun attached => ?_, detached := sound.detached
      home := fun other here => Option.some.inj here ▸ kept, homeless := by simp
      atHome := fun there => ?_, away := fun _ => away }
  · have player := sound.player attached
    unfold playbackQueue at player ⊢
    rw [shown, Option.getD_some] at player
    change app.player.Kept feedId (app.remoteView.getD view) app.deferredPlayerEvents
    rw [shown, Option.getD_some]
    exact player
  · have none := (sound.atHome there).1
    exact absurd (none.symm.trans suspended) (by simp)

/-! ### The active link and the suspended one -/

theorem setQueueLink_home {home : EventLink} (suspended : app.suspendedLocal = some home) (value : EventLink) :
    app.setQueueLink .localOwner value = { app with suspendedLocal := some value } := by
  unfold setQueueLink
  rw [suspended]

variable {link : QueueLink}

theorem setQueueLink_player (active : app.deferredHome link = false) (value : EventLink) :
    app.setQueueLink link value = { app with player := value } := by
  cases link with
  | peer => rfl
  | localOwner =>
    unfold setQueueLink
    cases none : app.suspendedLocal with
    | none => rfl
    | some home => simp [deferredHome, none] at active

theorem queueLink_player (active : app.deferredHome link = false) : app.queueLink link = app.player := by
  cases link with
  | peer => rfl
  | localOwner =>
    unfold queueLink
    cases none : app.suspendedLocal with
    | none => rfl
    | some home => simp [deferredHome, none] at active

theorem of_deferredHome (deferred : app.deferredHome link = true) :
    link = .localOwner ∧ ∃ home, app.suspendedLocal = some home := by
  unfold deferredHome at deferred
  obtain ⟨isLocal, suspended⟩ := Bool.and_eq_true_iff.mp deferred
  exact ⟨by simpa using isLocal, Option.isSome_iff_exists.mp suspended⟩

theorem Sound.receiveOn (sound : app.Sound feedId) (link : QueueLink) (events : List OwnerEvent) :
    (app.receiveOn link events).Sound feedId := by
  unfold EventApp.receiveOn
  cases deferred : app.deferredHome link with
  | true =>
    obtain ⟨rfl, home, suspended⟩ := of_deferredHome deferred
    have here : app.queueLink .localOwner = home := by unfold queueLink; rw [suspended]; rfl
    rw [setQueueLink_home suspended, here]
    exact sound.ofHome suspended ((sound.home home suspended).receiveAll events)
  | false =>
    rw [setQueueLink_player deferred, queueLink_player deferred]
    refine sound.ofPlayer ⟨rfl, rfl, rfl, rfl, fun _ => rfl⟩ (fun attached => ?_) fun gone => ?_
    · exact (sound.player attached).receiveAll events
    · obtain ⟨empty, closed, nothing⟩ := sound.detached gone
      have same : app.player.receiveAll events = app.player := by
        induction events with
        | nil => rfl
        | cons event events ih =>
          have first : app.player.receive event = app.player := by
            unfold EventLink.receive
            rw [if_pos closed]
          change (app.player.receive event).receiveAll events = app.player
          rw [first]
          exact ih
      dsimp only
      rw [same]
      exact ⟨empty, closed, nothing⟩

theorem adopt_playing (away : app.suspendedLocal.isSome = true → app.remoteView.isSome = true) (state : Option QueueState) :
    let app' := state.elim app (app.adoptInto app.playingQueueLink)
    SameHome app app' ∧ app'.playbackQueue = state.getD app.playbackQueue ∧
      app'.player = app.player ∧ app'.deferredPlayerEvents = app.deferredPlayerEvents := by
  cases state with
  | none => exact ⟨⟨rfl, rfl, rfl, rfl, fun _ => rfl⟩, rfl, rfl, rfl⟩
  | some state =>
    dsimp only [Option.elim_some, Option.getD_some]
    unfold playingQueueLink hasRemoteQueue
    cases shown : app.remoteView with
    | none =>
      refine ⟨⟨rfl, rfl, rfl, rfl, fun here => ?_⟩, ?_, rfl, rfl⟩
      · have remote := away here
        rw [shown] at remote
        cases remote
      · change app.remoteView.getD state = state
        rw [shown]
        rfl
    | some view =>
      refine ⟨⟨rfl, rfl, rfl, ?_, fun _ => rfl⟩, ?_, rfl, rfl⟩
      · change (app.remoteView.map _).isSome = _
        rw [Option.isSome_map]
      · change (app.remoteView.map fun _ => state).getD app.localView = state
        rw [shown]
        rfl

variable {arrival : Arrival} {rx : List Arrival}

theorem Sound.adoptPlayer (sound : app.Sound feedId) (head : app.player.rx = arrival :: rx)
    (inline : arrival.event.isInline = true) :
    let read : EventApp := { app with player := { app.player with rx }.recordAdopted arrival }
    let app' := arrival.event.state.elim read (read.adoptInto read.playingQueueLink)
    app'.Sound feedId ∧ SameHome app app' ∧ app'.player.rx = rx := by
  intro read app'
  obtain ⟨same, view, player, deferred⟩ := @adopt_playing read sound.away arrival.event.state
  have first : SameHome app read := ⟨rfl, rfl, rfl, rfl, fun _ => rfl⟩
  have home : SameHome app app' := first.trans same
  refine ⟨sound.ofPlayer home (fun attached => ?_) fun gone => ?_, home, congrArg EventLink.rx player⟩
  · rw [view, player, deferred]
    exact (sound.player attached).adoptHead head inline
  · have empty := (sound.detached gone).1
    rw [head] at empty
    cases empty

/-! ### The pump -/

/-- The pump may go on: `rx` is what it has still to read. -/
structure Pumping (feedId : FeedEntry → Option String) (link : QueueLink) (rx : List Arrival)
    (app : EventApp) : Prop where
  sound : app.Sound feedId
  wired : app.Wired link
  waiting : (app.queueLink link).rx = rx

theorem SameHome.wired (same : SameHome app app') (wired : app.Wired link) : app'.Wired link := by
  cases link with
  | localOwner =>
    unfold Wired at wired ⊢
    rw [same.home, ← Option.not_isSome, same.remote, Option.not_isSome]
    exact wired
  | peer => exact same.remote.trans wired

theorem SameHome.deferredHome (same : SameHome app app') (link : QueueLink) :
    app'.deferredHome link = app.deferredHome link := by
  unfold EventApp.deferredHome
  rw [same.home]

theorem Wired.playing (wired : app.Wired link) (active : app.deferredHome link = false) : app.playingQueueLink = link := by
  unfold playingQueueLink hasRemoteQueue
  cases link with
  | peer => rw [if_pos (show app.remoteView.isSome = true from wired)]
  | localOwner =>
    have gone : app.remoteView.isNone = true := by
      rcases wired with home | gone
      · simp [EventApp.deferredHome, home] at active
      · exact gone
    rw [if_neg (by simpa using gone)]

theorem Pumping.takeInline (pumping : Pumping feedId link (arrival :: rx) app)
    (inline : arrival.event.isInline = true) (ownAnswer : Bool) :
    Pumping feedId link rx (app.takeInline link arrival rx ownAnswer) := by
  unfold EventApp.takeInline
  cases deferred : app.deferredHome link with
  | true =>
    obtain ⟨rfl, home, suspended⟩ := of_deferredHome deferred
    have here : app.queueLink .localOwner = home := by unfold queueLink; rw [suspended]; rfl
    have head : home.rx = arrival :: rx := here ▸ pumping.waiting
    rw [setQueueLink_home suspended, here]
    have adopted : ∀ (app : EventApp) (home : EventLink), app.suspendedLocal = some home →
        (arrival.event.state.elim app fun state =>
          app.adoptQueueOpSnapshot .localOwner state ownAnswer) =
        { app with localView := arrival.event.state.getD app.localView } := by
      intro app home suspended
      cases arrival.event.state with
      | none => rfl
      | some state =>
        cases ownAnswer with
        | true => rfl
        | false => simp [adoptQueueOpSnapshot, EventApp.deferredHome, suspended, adoptHomeSnapshot, adoptInto]
    rw [adopted _ _ rfl]
    have sound := pumping.sound.ofHome suspended ((pumping.sound.home home suspended).adoptHead head inline)
    exact ⟨sound, Or.inl rfl, rfl⟩
  | false =>
    have head : app.player.rx = arrival :: rx := queueLink_player deferred ▸ pumping.waiting
    obtain ⟨sound, same, left⟩ := pumping.sound.adoptPlayer head inline
    rw [setQueueLink_player deferred, queueLink_player deferred]
    have adopted : ∀ state, EventApp.adoptQueueOpSnapshot
            { app with player := { app.player with rx }.recordAdopted arrival } link state
            ownAnswer =
          EventApp.adoptInto { app with player := { app.player with rx }.recordAdopted arrival } app.playingQueueLink state := by
      intro state
      cases ownAnswer with
      | true => rw [pumping.wired.playing deferred]; rfl
      | false =>
        unfold adoptQueueOpSnapshot
        rw [if_neg Bool.false_ne_true, if_neg (by simpa [EventApp.deferredHome] using deferred)]
        rfl
    simp only [adopted]
    refine ⟨sound, same.wired pumping.wired, ?_⟩
    have active := (same.deferredHome link).trans deferred
    exact (congrArg EventLink.rx (queueLink_player active)).trans left

theorem Pumping.defer (pumping : Pumping feedId link (arrival :: rx) app) (act : arrival.event.isInline = false) :
    Pumping feedId link rx ((app.takeOff link rx).defer link arrival) := by
  unfold EventApp.takeOff
  cases deferred : app.deferredHome link with
  | true =>
    obtain ⟨rfl, home, suspended⟩ := of_deferredHome deferred
    have here : app.queueLink .localOwner = home := by unfold queueLink; rw [suspended]; rfl
    have head : home.rx = arrival :: rx := here ▸ pumping.waiting
    rw [setQueueLink_home suspended, here]
    have sound := pumping.sound.ofHome suspended ((pumping.sound.home home suspended).deferHead head act)
    exact ⟨sound, Or.inl rfl, rfl⟩
  | false =>
    have head : app.player.rx = arrival :: rx := queueLink_player deferred ▸ pumping.waiting
    rw [setQueueLink_player deferred, queueLink_player deferred]
    unfold EventApp.defer
    rw [if_neg (by simpa [EventApp.deferredHome] using deferred)]
    refine ⟨pumping.sound.ofPlayer ⟨rfl, rfl, rfl, rfl, fun _ => rfl⟩ (fun attached => ?_) fun gone => ?_, pumping.wired, ?_⟩
    · exact (pumping.sound.player attached).deferHead head act
    · have empty := (pumping.sound.detached gone).1
      rw [head] at empty
      cases empty
    · have active := @queueLink_player { app with
          player := { app.player with rx }
          deferredPlayerEvents := app.deferredPlayerEvents ++ [arrival] } link deferred
      exact congrArg EventLink.rx active

theorem Pumping.pump (pumping : Pumping feedId link rx app) (op : Nat) : (pumpQueueOpAnswer link op rx app).1.Sound feedId := by
  induction rx generalizing app with
  | nil => exact pumping.sound
  | cons arrival rx ih =>
    unfold pumpQueueOpAnswer
    split
    · rename_i event
      exact ih (pumping.takeInline (by rw [event]; rfl) false)
    · rename_i event
      split
      · exact (pumping.takeInline (by rw [event]; rfl) true).sound
      · exact ih (pumping.takeInline (by rw [event]; rfl) false)
    · rename_i update answer
      refine ih (pumping.defer ?_)
      cases event : arrival.event <;> first
        | rfl
        | exact absurd event (update _)
        | exact absurd event (answer _ _)

theorem Sound.queueOp {send : QueueOpSend} (sound : app.Sound feedId)
    (safe : app.SendSafe link send) : (app.queueOp link send).1.Sound feedId := by
  cases send with
  | failed => exact sound
  | legacy => exact sound
  | answered op during =>
    have received := sound.receiveOn link during
    have wired : (app.receiveOn link during).Wired link := by
      unfold EventApp.receiveOn
      cases deferred : app.deferredHome link with
      | true =>
        obtain ⟨rfl, home, suspended⟩ := of_deferredHome deferred
        rw [setQueueLink_home suspended]
        exact Or.inl rfl
      | false =>
        rw [setQueueLink_player deferred]
        exact safe
    exact Pumping.pump ⟨received, wired, rfl⟩ op

/-! ### Links given up and taken -/

theorem Sound.restore {reconnect : Option Connected} (sound : app.Sound feedId)
    (safe : app.RestoreSafe reconnect) : (app.restoreLocalMode reconnect).Sound feedId := by
  unfold restoreLocalMode
  unfold RestoreSafe at safe
  by_cases stays : (app.isLocalDaemon && app.suspendedLocal.isNone) = true
  · rw [if_pos stays]
    have none := (sound.atHome (Bool.and_eq_true_iff.mp stays).1).2
    have same : app.finishLocalMode Option.none = app := by
      unfold finishLocalMode
      rw [Option.getD_none, ← none]
    exact same.symm ▸ sound
  · rw [if_neg stays] at safe ⊢
    obtain ⟨player, home, reached⟩ := safe
    cases live : app.liveHome with
    | some link =>
      have suspended : app.suspendedLocal = some link := (Option.filter_eq_some_iff.mp live).1
      have kept := sound.home link suspended
      rw [home] at kept
      refine
        { player := fun _ => ?_, detached := nofun, home := (fun _ none => by cases none), homeless := fun _ => home
          atHome := fun _ => ⟨rfl, rfl⟩, away := nofun }
      change link.Kept feedId app.localView app.deferredPlayerEvents
      rw [player]
      exact kept
    | none =>
      rw [live] at reached
      cases reconnect with
      | some connected =>
        refine
          { player := fun _ => ?_, detached := nofun, home := (fun _ none => by cases none), homeless := fun _ => home
            atHome := fun _ => ⟨rfl, rfl⟩, away := nofun }
        change (app.newLink connected).Kept feedId (app.newLink connected).shown
          app.deferredPlayerEvents
        rw [player]
        exact Connected.Quiet.kept reached app.nextConnection
      | none =>
        have away : app.isLocalDaemon = false := by
          cases there : app.isLocalDaemon with
          | false => rfl
          | true =>
            rw [there, (sound.atHome there).1] at stays
            exact absurd rfl stays
        refine
          { player := fun attached => ?_, detached := fun _ => ⟨reached.1, reached.2, player⟩
            home := (fun _ none => by cases none), homeless := fun _ => home, atHome := fun there => ?_, away := nofun }
        · change (app.isLocalDaemon || false) = true at attached
          rw [away] at attached
          cases attached
        · exact absurd (away.symm.trans there) Bool.false_ne_true

theorem Sound.attachPeer {connected : Connected} {suspended : Option EventLink} {isLocal : Bool}
    {next : Nat} (sound : app.Sound feedId) (peer : isLocal = false)
    (nothing : app.deferredPlayerEvents = []) (quiet : connected.Quiet)
    (stays : suspended = app.suspendedLocal ∨
      app.isLocalDaemon = true ∧ suspended = some app.player) :
    EventApp.Sound feedId
      { app with
        suspendedLocal := suspended
        player := app.newLink connected
        isLocalDaemon := isLocal
        remoteView := some (app.newLink connected).shown
        nextConnection := next } := by
  subst peer
  refine
    { player := fun _ => ?_, detached := nofun, home := fun home here => ?_
      homeless := fun none => ?_, atHome := by simp, away := fun _ => rfl }
  · change (app.newLink connected).Kept feedId (app.newLink connected).shown
      app.deferredPlayerEvents
    rw [nothing]
    exact quiet.kept app.nextConnection
  · rcases stays with same | ⟨there, same⟩
    · exact sound.home home (same ▸ here)
    · obtain ⟨alone, unseen⟩ := sound.atHome there
      have kept := sound.player (by unfold EventApp.attached; rw [there]; rfl)
      have view : app.playbackQueue = app.localView := by
        unfold playbackQueue
        rw [unseen, Option.getD_none]
      rw [view, nothing] at kept
      have link : app.player = home := Option.some.inj (same.symm.trans here)
      change home.Kept feedId app.localView app.deferredHomeEvents
      rw [sound.homeless alone, ← link]
      exact kept
  · rcases stays with same | ⟨there, _⟩
    · exact sound.homeless (same ▸ none)
    · exact sound.homeless (sound.atHome there).1

theorem Sound.attach {isLocal : Bool} {connected : Connected} {reconnect : Option Connected}
    (sound : app.Sound feedId) (safe : app.AttachSafe isLocal connected reconnect) :
    (app.attachRemoteOwner isLocal connected reconnect).Sound feedId := by
  unfold attachRemoteOwner
  unfold AttachSafe at safe
  by_cases back : (isLocal && (app.suspendedLocal.isSome || app.isLocalDaemon)) = true
  · rw [if_pos back] at safe ⊢
    exact sound.restore safe
  · rw [if_neg back] at safe ⊢
    obtain ⟨nothing, quiet⟩ := safe
    cases isLocal with
    | false =>
      refine sound.attachPeer rfl nothing quiet ?_
      cases there : app.isLocalDaemon with
      | true => exact Or.inr ⟨rfl, rfl⟩
      | false => exact Or.inl rfl
    | true =>
      rw [Bool.true_and, Bool.or_eq_true, not_or] at back
      have none : app.suspendedLocal = none := by simpa using back.1
      have away : app.isLocalDaemon = false := by simpa using back.2
      have homeless := sound.homeless none
      dsimp only
      rw [away, none]
      refine
        { player := fun _ => ?_, detached := nofun, home := by simp, homeless := fun _ => homeless
          atHome := fun _ => ⟨rfl, rfl⟩, away := by simp }
      change (app.newLink connected).Kept feedId (app.newLink connected).shown
        app.deferredPlayerEvents
      rw [nothing]
      exact quiet.kept app.nextConnection

theorem restart_sound {connected : Connected} (player : app.deferredPlayerEvents = [])
    (home : app.deferredHomeEvents = []) (quiet : connected.Quiet) :
    (app.restartLocalDaemon connected).Sound feedId := by
  refine
    { player := fun _ => ?_, detached := nofun, home := (fun _ none => by cases none), homeless := fun _ => home
      atHome := fun _ => ⟨rfl, rfl⟩, away := nofun }
  change (app.newLink connected).Kept feedId (app.newLink connected).shown app.deferredPlayerEvents
  rw [player]
  exact quiet.kept app.nextConnection

theorem Sound.dropHome {deferred : List Arrival} (sound : app.Sound feedId) (nothing : deferred = []) :
    EventApp.Sound feedId { app with suspendedLocal := none, deferredHomeEvents := deferred } where
  player := sound.player
  detached := sound.detached
  home _ none := by cases none
  homeless _ := nothing
  atHome there := ⟨rfl, (sound.atHome there).2⟩
  away none := by cases none

variable {recovery : Recovery}

theorem Sound.recover (sound : app.Sound feedId) (away : app.isLocalDaemon = false) (safe : app.RecoverySafe recovery) :
    ((app.tryReattachRemoteDaemon recovery.reattach).getD (app.restoreLocalMode recovery.reconnect)).Sound feedId := by
  unfold RecoverySafe at safe
  rw [away, if_neg Bool.false_ne_true] at safe
  unfold tryReattachRemoteDaemon
  rcases Bool.eq_false_or_eq_true app.autoReconnect with auto | auto
  · rw [auto] at safe
    rw [if_neg (by simp [away, auto])]
    cases found : recovery.reattach with
    | none =>
      rw [found] at safe
      exact sound.restore safe
    | some connected =>
      rw [found] at safe
      exact sound.attachPeer away safe.1 safe.2 (Or.inl rfl)
  · rw [auto] at safe
    rw [if_pos (by simp [auto])]
    exact sound.restore safe

theorem Sound.disconnected (sound : app.Sound feedId) (safe : app.RecoverySafe recovery) :
    (app.handleRemoteDisconnected recovery).Sound feedId := by
  unfold handleRemoteDisconnected
  by_cases there : app.isLocalDaemon = true
  · rw [if_pos there]
    exact sound.dropHome (sound.homeless (sound.atHome there).1)
  · rw [if_neg there]
    exact sound.recover (by simpa using there) safe

theorem Sound.shutdown (sound : app.Sound feedId) (safe : app.isLocalDaemon = true ∨ app.RestoreSafe recovery.reconnect) :
    (app.handleDaemonShutdownAnnounced false recovery).Sound feedId := by
  unfold handleDaemonShutdownAnnounced
  rw [Bool.false_or]
  by_cases there : app.isLocalDaemon = true
  · rw [if_pos there]
    exact sound.dropHome (sound.homeless (sound.atHome there).1)
  · rw [if_neg there]
    exact sound.restore (safe.resolve_left there)

/-! ### The drains -/

variable {rest : EventApp}

theorem nextPlayerEvent_cases (next : app.nextPlayerEvent = some (arrival, rest)) :
    (∃ deferred, app.deferredPlayerEvents = arrival :: deferred ∧ rest = { app with deferredPlayerEvents := deferred }) ∨
    app.deferredPlayerEvents = [] ∧ ∃ rx, app.player.rx = arrival :: rx ∧
      rest = { app with player := { app.player with rx } } := by
  unfold nextPlayerEvent at next
  split at next
  · rename_i deferred waits
    cases next
    exact Or.inl ⟨deferred, waits, rfl⟩
  · rename_i rx nothing head
    cases next
    exact Or.inr ⟨nothing, rx, head, rfl⟩
  · cases next

theorem Sound.attached_of_next (sound : app.Sound feedId)
    (next : app.nextPlayerEvent = some (arrival, rest)) : app.attached = true := by
  cases here : app.attached with
  | true => rfl
  | false =>
    obtain ⟨empty, _, nothing⟩ := sound.detached here
    rcases nextPlayerEvent_cases next with ⟨_, waits, _⟩ | ⟨_, _, head, _⟩
    · cases nothing.symm.trans waits
    · cases empty.symm.trans head

theorem Sound.actNext {acted : Acted} (sound : app.Sound feedId)
    (next : app.nextPlayerEvent = some (arrival, rest)) (act : arrival.event.isInline = false)
    (same : acted.arrival = arrival) (reactions : acted.reactions = acted.inOrder feedId) :
    (rest.act acted).Sound feedId := by
  have attached := sound.attached_of_next next
  have kept := sound.player attached
  have not_gone : app.attached ≠ false := fun gone =>
    Bool.false_ne_true (gone.symm.trans attached)
  rcases nextPlayerEvent_cases next with ⟨deferred, waits, rfl⟩ | ⟨nothing, rx, head, rfl⟩
  · rw [waits] at kept
    refine sound.ofPlayer ⟨rfl, rfl, rfl, rfl, fun _ => rfl⟩ (fun _ => ?_) fun gone => absurd gone not_gone
    exact kept.actDeferred same reactions
  · rw [nothing] at kept
    refine sound.ofPlayer ⟨rfl, rfl, rfl, rfl, fun _ => rfl⟩ (fun _ => ?_) fun gone => absurd gone not_gone
    change EventLink.Kept feedId _ app.playbackQueue app.deferredPlayerEvents
    rw [nothing]
    exact kept.actHead head act same reactions

/-- An event that was not put off finds the queue it arrived with, and one that was reads the same
    there. -/
theorem Sound.react_inOrder (sound : app.Sound feedId)
    (next : app.nextPlayerEvent = some (arrival, rest)) (act : arrival.event.isInline = false)
    (reads : ∀ arrival ∈ app.deferredPlayerEvents.head?, app.ReadsAsArrived feedId arrival) :
    arrival.event.reactions feedId rest.context rest.playbackQueue rest.player.connection =
      arrival.event.reactions feedId rest.context arrival.seen arrival.connection := by
  have kept := sound.player (sound.attached_of_next next)
  rcases nextPlayerEvent_cases next with ⟨deferred, waits, rfl⟩ | ⟨nothing, rx, head, rfl⟩
  · rw [waits] at kept
    have own := kept.own arrival (kept.mem_arrived mem_cons_self).1
    have same := reads arrival (by rw [waits]; rfl)
    rw [own]
    rcases same with ⟨stopped, delete⟩ | same
    · exact OwnerEvent.reactions_delete stopped delete
    · exact OwnerEvent.reactions_congr same
  · have waiting := kept.waiting
    have acted := kept.acted
    rw [head] at waiting
    rw [head, filter_cons_of_pos (by simp [act])] at acted
    have member : arrival ∈ app.player.arrived := by
      have among : arrival ∈ app.player.arrived.filter (!·.event.isInline) := by
        rw [← acted]
        exact mem_append_right _ (mem_append_right _ mem_cons_self)
      exact (mem_filter.mp among).1
    rw [kept.own arrival member, waiting.1]
    rfl

theorem Sound.react (sound : app.Sound feedId) (next : app.nextPlayerEvent = some (arrival, rest))
    (act : arrival.event.isInline = false)
    (reads : ∀ arrival ∈ app.deferredPlayerEvents.head?, app.ReadsAsArrived feedId arrival) :
    (rest.react feedId arrival).Sound feedId :=
  sound.actNext next act rfl (sound.react_inOrder next act reads)

theorem Sound.inlineNext (sound : app.Sound feedId)
    (next : app.nextPlayerEvent = some (arrival, rest)) (inline : arrival.event.isInline = true) :
    let read : EventApp := { rest with player := rest.player.recordAdopted arrival }
    (arrival.event.state.elim read (read.adoptInto read.playingQueueLink)).Sound feedId := by
  have kept := sound.player (sound.attached_of_next next)
  rcases nextPlayerEvent_cases next with ⟨deferred, waits, rfl⟩ | ⟨nothing, rx, head, rfl⟩
  · rw [waits] at kept
    have act := (kept.mem_arrived mem_cons_self).2
    exact absurd (act.symm.trans inline) Bool.false_ne_true
  · exact (sound.adoptPlayer head inline).1

theorem wired_playing : app.Wired app.playingQueueLink := by
  unfold playingQueueLink hasRemoteQueue
  cases shown : app.remoteView with
  | none => exact Or.inr (by rw [shown]; rfl)
  | some view =>
    change app.remoteView.isSome = true
    rw [shown]
    rfl

theorem sendSafe_playing (send : QueueOpSend) : app.SendSafe app.playingQueueLink send := by
  cases send with
  | answered => exact wired_playing
  | _ => exact True.intro

theorem Sound.stopped (sound : app.Sound feedId) (next : app.nextPlayerEvent = some (arrival, rest))
    (act : arrival.event.isInline = false) (alive : rest.player.disconnected = false)
    (reads : ∀ arrival ∈ app.deferredPlayerEvents.head?, app.ReadsAsArrived feedId arrival)
    (send : QueueOpSend) :
    (rest.handleStoppedEvent feedId arrival send recovery).Sound feedId := by
  have reacted := sound.react next act reads
  have taken : EventApp.Sound feedId { rest.react feedId arrival with
        pendingDeleteSlot := none, pendingDeleteSelection := none } :=
    ⟨reacted.player, reacted.detached, reacted.home, reacted.homeless, reacted.atHome, reacted.away⟩
  unfold handleStoppedEvent
  rw [alive, if_neg Bool.false_ne_true]
  dsimp only
  split
  · exact taken.queueOp (sendSafe_playing send)
  · exact taken

theorem Sound.drainPlayer (sound : app.Sound feedId) (safe : app.DrainSafe feedId recovery) (send : QueueOpSend) :
    (app.drainPlayerEvent feedId send recovery).Sound feedId := by
  obtain ⟨reads, safe⟩ := safe
  unfold drainPlayerEvent
  cases next : app.nextPlayerEvent with
  | none => exact sound
  | some popped =>
    obtain ⟨arrival, rest⟩ := popped
    have here := safe _ next
    have reacts := fun act => sound.react next act reads
    have adopts := sound.inlineNext next
    obtain ⟨event, connection, seen⟩ := arrival
    dsimp only [Option.elim_some]
    cases event with
    | unifiedQueueUpdated state => exact adopts rfl
    | queueOpResult op applied => exact adopts rfl
    | stopped => exact sound.stopped next rfl here reads send
    | remoteDisconnected => exact (reacts rfl).disconnected here
    | daemonShutdownAnnounced => exact (reacts rfl).shutdown here
    | _ => exact reacts rfl

theorem Sound.homeEvent {home popped : EventLink} {deferred : List Arrival}
    (sound : app.Sound feedId) (suspended : app.suspendedLocal = some home)
    (adopts : arrival.event.isInline = true →
      (popped.recordAdopted arrival).Kept feedId (arrival.event.state.getD app.localView) deferred)
    (acts : arrival.event.isInline = false → (popped.recordActed ⟨arrival, none, []⟩).Kept feedId app.localView deferred)
    (last : arrival.event.isDisconnect = true → deferred = []) :
    (EventApp.handleHomeEvent { app with suspendedLocal := some popped, deferredHomeEvents := deferred } popped
      arrival).Sound feedId := by
  obtain ⟨event, connection, seen⟩ := arrival
  cases event with
  | unifiedQueueUpdated state => exact sound.ofHome suspended (adopts rfl)
  | queueOpResult op applied =>
    cases applied with
    | none => exact sound.ofHome suspended (adopts rfl)
    | some state => exact sound.ofHome suspended (adopts rfl)
  | remoteDisconnected => exact sound.dropHome (last rfl)
  | daemonShutdownAnnounced => exact sound.dropHome (last rfl)
  | _ => exact sound.ofHome suspended (acts rfl)

theorem Sound.drainHome (sound : app.Sound feedId) : (app.drainHomeEvent).Sound feedId := by
  unfold drainHomeEvent
  cases suspended : app.suspendedLocal with
  | none => exact sound
  | some home =>
    have kept := sound.home home suspended
    dsimp only
    split
    · rename_i arrival deferred waits
      rw [waits] at kept
      have act := (kept.mem_arrived mem_cons_self).2
      exact sound.homeEvent suspended (fun inline => absurd (act.symm.trans inline) Bool.false_ne_true)
        (fun _ => kept.actDeferred rfl rfl) kept.nothing_after
    · rename_i arrival rx nothing head
      rw [nothing] at kept
      have same : ({ app with suspendedLocal := some { home with rx } } : EventApp) =
          { app with suspendedLocal := some { home with rx }, deferredHomeEvents := [] } := by
        rw [← nothing]
      rw [same]
      exact sound.homeEvent suspended (fun inline => kept.adoptHead head inline)
        (fun act => kept.actHead head act rfl rfl) fun _ => rfl
    · exact sound

theorem Sound.handle {input : OwnerInput} (sound : app.Sound feedId)
    (safe : app.Undisturbed feedId input) : (app.handle feedId input).Sound feedId := by
  cases input with
  | arrived link event => exact sound.receiveOn link [event]
  | sentOp link send => exact sound.queueOp safe
  | drainedPlayer send recovery => exact sound.drainPlayer safe send
  | drainedHome => exact sound.drainHome
  | attached isLocal connected reconnect => exact sound.attach safe
  | restored reconnect => exact sound.restore safe
  | restarted connected => exact restart_sound safe.1 safe.2.1 safe.2.2
  | confirmedRemoval slot selection =>
    exact ⟨sound.player, sound.detached, sound.home, sound.homeless, sound.atHome, sound.away⟩
  | configured consumeVideos consumeAudio autoReconnect =>
    exact ⟨sound.player, sound.detached, sound.home, sound.homeless, sound.atHome, sound.away⟩

/-- A run whose steps leave nothing behind and read each slot as it was loses no event, whatever the
    pump takes first. -/
theorem pump_loses_nothing (feedId : FeedEntry → Option String) (initial : QueueState)
    (inputs : List OwnerInput)
    (undisturbed : (machine feedId).Along (Undisturbed feedId) (start initial) inputs) :
    ((machine feedId).run (start initial) inputs).LosesNothing feedId := by
  have keep : ∀ app input, app.Sound feedId → app.Undisturbed feedId input →
      ((machine feedId).step app input).Sound feedId := fun _ _ sound safe => sound.handle safe
  have sound := Machine.run_invariant keep (start_sound initial) undisturbed
  exact sound.losesNothing

def episodeOne : FeedEntry :=
  ⟨"guid", "Episode", none, some 600000000, some .video, 0, false, ""⟩

def feedQueue : QueueState := { slots := [⟨⟨1⟩, .feed episodeOne⟩, ⟨⟨2⟩, .feed episodeOne⟩] }

def consumedQueue : QueueState := { slots := [⟨⟨2⟩, .feed episodeOne⟩] }

def completion : OwnerEvent := .trackCompleted ⟨1⟩ 600000000 true true

/-- The completion is handled before the Client sends its edit, and nothing waits behind the pump
    that the next queue takes away. -/
theorem pump_loses_nothing_handled :
    (machine fun entry => some entry.guid).Along (Undisturbed fun entry => some entry.guid)
        (start feedQueue)
        [.configured true true false, .arrived .localOwner completion, .drainedPlayer .failed {},
          .sentOp .localOwner (.answered 1 [.progress "guid" 0, .unifiedQueueUpdated consumedQueue,
            .trackChanged ⟨2⟩, .queueOpResult 1 (some consumedQueue)]),
          .drainedPlayer .failed {}, .drainedPlayer .failed {}] ∧
      ((machine fun entry => some entry.guid).run (start feedQueue)
        [.configured true true false, .arrived .localOwner completion, .drainedPlayer .failed {},
          .sentOp .localOwner (.answered 1 [.progress "guid" 0, .unifiedQueueUpdated consumedQueue,
            .trackChanged ⟨2⟩, .queueOpResult 1 (some consumedQueue)]),
          .drainedPlayer .failed {}, .drainedPlayer .failed {}]).LosesNothing
        fun entry => some entry.guid := by
  have undisturbed : (machine fun entry => some entry.guid).Along
      (Undisturbed fun entry => some entry.guid) (start feedQueue)
      [.configured true true false, .arrived .localOwner completion, .drainedPlayer .failed {},
        .sentOp .localOwner (.answered 1 [.progress "guid" 0, .unifiedQueueUpdated consumedQueue,
          .trackChanged ⟨2⟩, .queueOpResult 1 (some consumedQueue)]),
        .drainedPlayer .failed {}, .drainedPlayer .failed {}] := by
    decide
  exact ⟨undisturbed, pump_loses_nothing _ feedQueue _ undisturbed⟩

/-- The completion waits while the pump adopts the queue without its slot: drained afterwards, it
    stores no Feed state and consumes nothing. -/
theorem pump_loses_completion :
    ¬ ((machine fun entry => some entry.guid).run (start feedQueue)
      [.configured true true false,
        .sentOp .localOwner (.answered 1 [completion, .unifiedQueueUpdated consumedQueue,
          .queueOpResult 1 (some consumedQueue)]),
        .drainedPlayer .failed {}]).LosesNothing fun entry => some entry.guid := by
  intro lossless
  have served := lossless.player (by decide)
  have handled := served.reactions
    ⟨⟨completion, 0, feedQueue⟩, some ⟨true, true, none, none⟩, []⟩ (by decide)
  revert handled
  decide

end EventApp

end Mbv.Client
