import Mbv.Client.OwnerEvents

/-! What a Client stores of the Feed entries an Owner plays. An Owner's status, its queue snapshots
    and its events reach the Client on one connection; the reader thread puts a status in place at
    once, while the events wait for the Client's loop. -/

namespace Mbv.Client

open Mbv.Queue

/-- What addresses the stored state of a Feed entry: its feed and its guid. -/
abbrev FeedKey := String × String

def keyOf (feedId : FeedEntry → Option String) : QueueItem → Option FeedKey
  | .feed entry => (feedId entry).map fun feedId => (feedId, entry.guid)
  | _ => none

structure Reading where
  playing : Option QueueSlotId
  positionTicks : Int
  observed : Nat

/-- An Owner's report of its player. `playing` and `observed` are ghosts: the slot that played when
    the position was taken, and when that was. -/
structure PlayStatus where
  active : Bool := false
  paused : Bool := false
  currentIdx : Nat := 0
  queueLen : Nat := 0
  positionTicks : Int := 0
  playing : Option QueueSlotId := none
  observed : Nat := 0

def PlayStatus.reading (status : PlayStatus) : Reading :=
  ⟨status.playing, status.positionTicks, status.observed⟩

/-- The queue an Owner shows, with its status. `recorded` is a ghost: when the positions recorded in
    its slots were taken. -/
structure PlaySnapshot where
  slots : List QueueSlot
  activeSlot : Option QueueSlotId := none
  status : PlayStatus := {}
  recorded : List (QueueSlotId × Nat) := []

def PlaySnapshot.normalized (snapshot : PlaySnapshot) : PlaySnapshot :=
  let status := { snapshot.status with queueLen := snapshot.slots.length }
  { snapshot with
    status :=
      match snapshot.activeSlot.bind fun id => Keyed.indexOf (·.slotId) id snapshot.slots with
      | some index => { status with currentIdx := index }
      | none => status }

/-- The events that wait for the loop; `observed` is a ghost. -/
inductive PlayEvent where
  | unifiedQueueUpdated (snapshot : PlaySnapshot)
  | queueOpResult (applied : Option PlaySnapshot)
  | trackCompleted (slotId : QueueSlotId) (positionTicks : Int) (played : Bool) (observed : Nat)
  | stopped (slotId : Option QueueSlotId) (positionTicks : Int) (played : Bool) (observed : Nat)
  | pausedChanged (paused : Bool)
  | outputStarted

/-- What the answer pump takes ahead of the other events. -/
def PlayEvent.isInline : PlayEvent → Bool
  | .unifiedQueueUpdated _ | .queueOpResult _ => true
  | _ => false

/-- The slot whose stop or completion an event reports. -/
def PlayEvent.reported : PlayEvent → Option QueueSlotId
  | .trackCompleted slotId _ _ _ => some slotId
  | .stopped slotId _ _ _ => slotId
  | _ => none

inductive OwnerMessage where
  | statusOnly (status : PlayStatus)
  | unifiedQueueState (snapshot : PlaySnapshot)
  | queueOpResult (applied : Option PlaySnapshot)
  | player (event : PlayEvent)

/-- A stored state of a Feed entry. The rest are ghosts: the slot the entry was found by, the
    reading it was stored at, the time of the slot's end where one was reported, and the time of the
    completion it takes the place of. -/
structure FeedWrite where
  feedId : String
  guid : String
  positionTicks : Int
  played : Bool
  slotId : QueueSlotId
  reading : Reading
  ended : Option Nat
  overwrites : Option Nat

def FeedWrite.key (write : FeedWrite) : FeedKey := (write.feedId, write.guid)

def i64Max : Int := 2 ^ 63 - 1

/-- `runtime * 95 / 100` on 64 bits: a product past the top wraps around. -/
def ninetyFivePercent (runtime : Int) : Int := (Int.bmod (runtime * 95) (2 ^ 64)).tdiv 100

/-- A Client, as far as Feed entries go. `pausing` is the slot of a pause that is being handled: the
    loop found the slot and has not read the position yet. The ghosts: `recorded` comes with the
    queue, `earlier` holds the completions stored before this run, `missed` the reported slots that
    nothing was stored for, and `overflowed` whether the 95 percent test wrapped. -/
structure FeedApp where
  isLocalDaemon : Bool := true
  status : PlayStatus := {}
  channel : List PlayEvent := []
  queue : QueueState := {}
  recorded : List (QueueSlotId × Nat) := []
  seekPending : Option QueueSlotId := none
  deletePending : Bool := false
  disconnected : Bool := false
  detached : Bool := false
  pausing : Option QueueSlotId := none
  earlier : List (FeedKey × Nat) := []
  writes : List FeedWrite := []
  missed : List QueueSlotId := []
  overflowed : Bool := false

def observationTicks : ProgressObservation → Int
  | .completed positionTicks _ | .stopped positionTicks _ => positionTicks

/-- Whether the position of a report is the one to record, where it does not report an end. -/
def observationTaken (item : QueueItem) : ProgressObservation → Bool
  | .completed positionTicks _ =>
    positionTicks ≥ meaningfulTrackCompletedProgressTicks && !item.isAudio
  | .stopped positionTicks _ => positionTicks > 0 && !item.isAudio

inductive FeedInput where
  /-- The reader thread takes a message of the Owner. -/
  | receive (message : OwnerMessage)
  /-- The reader thread finds the connection closed. -/
  | disconnect
  /-- The loop handles the next event. -/
  | handle
  /-- The loop reads the position for the pause it is handling. -/
  | finishPause
  /-- The answer pump adopts the first snapshot that waits. -/
  | pump
  /-- The user seeks; the runtime is known where the Owner reported one. -/
  | seekToFraction (runtimeKnown : Bool)
  /-- The user confirms the removal of what is playing. -/
  | confirmRemove

namespace FeedApp

variable (feedId : FeedEntry → Option String) (names : QueueSlotId → Option FeedKey)
  (app : FeedApp)

/-! ### The reader thread -/

def post (event : PlayEvent) : FeedApp := { app with channel := app.channel ++ [event] }

def applyUnifiedQueueState (snapshot : PlaySnapshot) : FeedApp :=
  { app with status := snapshot.normalized.status }.post (.unifiedQueueUpdated snapshot.normalized)

def receive : OwnerMessage → FeedApp
  | .statusOnly status =>
    { app with
      status := { status with
        currentIdx := app.status.currentIdx, queueLen := app.status.queueLen } }
  | .unifiedQueueState snapshot => app.applyUnifiedQueueState snapshot
  | .queueOpResult (some snapshot) =>
    (app.applyUnifiedQueueState snapshot).post (.queueOpResult (some snapshot))
  | .queueOpResult none => app.post (.queueOpResult none)
  | .player event =>
    let app :=
      match event with
      | .stopped .. => { app with status := { app.status with active := false } }
      | .pausedChanged paused => { app with status := { app.status with paused := paused } }
      | _ => app
    app.post event

/-! ### What is stored -/

def completedAt (key : FeedKey) : Option Nat :=
  match app.writes.findRev? fun write => write.key = key with
  | some write => if write.played then write.ended else none
  | none => app.earlier.lookup key

def feedStateWrite (slotId : QueueSlotId) (reading : Reading) (ended : Option Nat) :
    List Reaction → Option FeedWrite
  | [.feedState feedId guid positionTicks played] => some
    { feedId := feedId, guid := guid, positionTicks := positionTicks, played := played
      slotId := slotId, reading := reading, ended := ended
      overwrites := app.completedAt (feedId, guid) }
  | _ => none

def writeFeedEntryState (write : Option FeedWrite) : FeedApp :=
  { app with writes := app.writes ++ write.toList }

def slotPositionWrite (slotId : QueueSlotId) : Option FeedWrite :=
  app.feedStateWrite slotId app.status.reading none
    (persistFeedSlotLifecycle feedId app.queue slotId app.status.positionTicks false)

def persistFeedSlotPosition (slotId : QueueSlotId) : FeedApp :=
  match app.queue.slot slotId with
  | some ⟨_, .feed entry⟩ =>
    if (feedId entry).isSome then app.writeFeedEntryState (app.slotPositionWrite feedId slotId)
    else app
  | _ => app

def reportReading (slotId : QueueSlotId) (item : QueueItem) (observed : Nat)
    (observation : ProgressObservation) : Reading :=
  if observation.played || observationTaken item observation then
    ⟨some slotId, observationTicks observation, observed⟩
  else ⟨some slotId, item.playbackPositionTicks, (app.recorded.lookup slotId).getD 0⟩

/-- Whether a report ends the entry: at its end, or with a stop at 95 percent or more. -/
def Ends (item : QueueItem) (observation : ProgressObservation) : Prop :=
  0 < item.runtimeTicks ∧ (observation.played ∨
    match observation with
    | .stopped .. => item.runtimeTicks * 95 / 100 ≤ observation.positionToRecord item
    | .completed .. => False)

instance (item : QueueItem) (observation : ProgressObservation) :
    Decidable (Ends item observation) :=
  match observation with
  | .stopped _ _ => inferInstanceAs (Decidable (_ ∧ (_ ∨ _)))
  | .completed _ _ => inferInstanceAs (Decidable (_ ∧ (_ ∨ False)))

def feedCompleted (item : QueueItem) (observation : ProgressObservation) : Bool :=
  match observation with
  | .stopped _ played =>
    played || (decide (0 < item.runtimeTicks) &&
      decide (ninetyFivePercent item.runtimeTicks ≤ observation.positionToRecord item))
  | .completed _ played => played && decide (0 < item.runtimeTicks)

/-- The test is made, and its product does not fit. -/
def Overflows (item : QueueItem) : ProgressObservation → Prop
  | .stopped _ played => played = false ∧ 0 < item.runtimeTicks ∧ i64Max < item.runtimeTicks * 95
  | .completed .. => False

instance (item : QueueItem) : ∀ observation, Decidable (Overflows item observation)
  | .stopped _ _ => inferInstanceAs (Decidable (_ ∧ _ ∧ _))
  | .completed _ _ => isFalse id

def reportWrite (slotId : QueueSlotId) (observation : ProgressObservation) (observed : Nat) :
    Option FeedWrite :=
  match app.queue.slot slotId with
  | some ⟨_, .feed entry⟩ =>
    let item := QueueItem.feed entry
    app.feedStateWrite slotId (app.reportReading slotId item observed observation)
      (if Ends item observation then some observed else none)
      (persistFeedSlotLifecycle feedId app.queue slotId (observation.positionToRecord item)
        (feedCompleted item observation))
  | _ => none

def reportOverflows (slotId : QueueSlotId) (observation : ProgressObservation) : Bool :=
  match app.queue.slot slotId with
  | some ⟨_, .feed entry⟩ => decide (Overflows (.feed entry) observation)
  | _ => false

/-- `apply_stopped_slot_progress` and the storing half of `handle_track_completed_event`. -/
def applySlotReport (slotId : QueueSlotId) (observation : ProgressObservation) (observed : Nat) :
    FeedApp :=
  let write := app.reportWrite feedId slotId observation observed
  { app.writeFeedEntryState write with
    missed := if write.isNone && (names slotId).isSome then app.missed ++ [slotId] else app.missed
    overflowed := app.overflowed || app.reportOverflows slotId observation }

def miss (slotIds : List QueueSlotId) : FeedApp :=
  { app with missed := app.missed ++ slotIds.filter fun slotId => (names slotId).isSome }

/-! ### The loop -/

def handleUnifiedQueueUpdated (snapshot : PlaySnapshot) : FeedApp :=
  { app with
    status := snapshot.status
    queue := { app.queue with slots := snapshot.slots }
    recorded := snapshot.recorded }

def handlePausedChanged (paused : Bool) : FeedApp :=
  match app.queue.slots[app.status.currentIdx]? with
  | some slot =>
    if paused && app.status.active then { app with pausing := some slot.slotId } else app
  | none => app

def handleOutputStarted : FeedApp :=
  match app.seekPending with
  | some slotId => { app with seekPending := none }.persistFeedSlotPosition feedId slotId
  | none => app

/-- A stop handled after the connection closed is not looked at. Unless the Owner is a local one the
    Client leaves it, and what waits on the connection is dropped with it. -/
def handleStoppedEvent (slotId : Option QueueSlotId) (positionTicks : Int) (played : Bool)
    (observed : Nat) : FeedApp :=
  if app.disconnected then
    if app.isLocalDaemon then app.miss names slotId.toList
    else
      { app.miss names (slotId.toList ++ app.channel.filterMap PlayEvent.reported) with
        detached := true, channel := [] }
  else
    let isDelete := app.deletePending
    let app := { app with deletePending := false }
    match slotId with
    | some slotId =>
      if isDelete then app.miss names [slotId]
      else app.applySlotReport feedId names slotId (.stopped positionTicks played) observed
    | none => app

def handlePlayerEvent : PlayEvent → FeedApp
  | .unifiedQueueUpdated snapshot | .queueOpResult (some snapshot) =>
    app.handleUnifiedQueueUpdated snapshot
  | .queueOpResult none => app
  | .trackCompleted slotId positionTicks played observed =>
    app.applySlotReport feedId names slotId (.completed positionTicks played) observed
  | .stopped slotId positionTicks played observed =>
    app.handleStoppedEvent feedId names slotId positionTicks played observed
  | .pausedChanged paused => app.handlePausedChanged paused
  | .outputStarted => app.handleOutputStarted feedId

def seekToFraction (runtimeKnown : Bool) : FeedApp :=
  if runtimeKnown && app.status.active then
    match app.queue.slots[app.status.currentIdx]? with
    | some slot =>
      if (keyOf feedId slot.item).isSome then { app with seekPending := some slot.slotId } else app
    | none => app
  else app

def pump : FeedApp :=
  match app.channel.find? PlayEvent.isInline with
  | some event =>
    { app with channel := app.channel.eraseP PlayEvent.isInline }.handlePlayerEvent feedId names
      event
  | none => app

/-- Between the two halves of a pause the loop does nothing else. -/
def step : FeedInput → FeedApp
  | .receive message => if app.disconnected then app else app.receive message
  | .disconnect => { app with disconnected := true }
  | .finishPause =>
    match app.pausing with
    | some slotId => { app with pausing := none }.persistFeedSlotPosition feedId slotId
    | none => app
  | .handle =>
    if app.pausing.isSome || app.detached then app
    else
      match app.channel with
      | event :: rest => { app with channel := rest }.handlePlayerEvent feedId names event
      | [] => app
  | .pump => if app.pausing.isSome || app.detached then app else app.pump feedId names
  | .seekToFraction runtimeKnown =>
    if app.pausing.isSome || app.detached then app else app.seekToFraction feedId runtimeKnown
  | .confirmRemove =>
    if app.pausing.isSome || app.detached then app else { app with deletePending := true }

def machine : Machine FeedApp FeedInput := ⟨FeedApp.step feedId names⟩

end FeedApp

end Mbv.Client
