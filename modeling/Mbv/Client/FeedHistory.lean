import Mbv.Client.FeedPositions

/-! Which of the states a Client stores are those of the entry they are stored for. The model
    records for each where it came from; a step goes wrong exactly where the status, the queue or a
    pending action it uses is not about the slot it stores. -/

namespace Mbv.Client

open Mbv.Queue List

/-! ### What a store must be -/

section

variable (feedId : FeedEntry → Option String) (names : QueueSlotId → Option FeedKey)

/-- A stored state is the slot's own: as played once the slot ended, or at a position the slot was
    at, later than the completion it takes the place of. -/
def FeedWrite.Right (write : FeedWrite) : Prop :=
  names write.slotId = some write.key ∧
  if write.played then write.positionTicks = 0 ∧ write.ended.isSome
  else
    write.reading.playing = some write.slotId ∧
    write.positionTicks = write.reading.positionTicks ∧
    ∀ time ∈ write.overwrites, time < write.reading.observed

instance FeedWrite.Right.decide (write : FeedWrite) : Decidable (write.Right names) :=
  inferInstanceAs (Decidable (_ ∧ if write.played = true then _ ∧ _ else _ ∧ _ ∧ _))

/-- Everything stored is right, no report of a Feed slot went unstored, and the 95 percent test never
    wrapped. -/
structure FeedApp.Attributed (app : FeedApp) : Prop where
  right : ∀ write ∈ app.writes, write.Right names
  stored : app.missed = []
  fits : app.overflowed = false

def Named (slots : List QueueSlot) : Prop :=
  ∀ slot ∈ slots, keyOf feedId slot.item = names slot.slotId

instance Named.decide (slots : List QueueSlot) : Decidable (Named feedId names slots) :=
  inferInstanceAs (Decidable (∀ slot ∈ slots, _))

def PlayEvent.snapshot : PlayEvent → Option PlaySnapshot
  | .unifiedQueueUpdated snapshot => some snapshot
  | .queueOpResult applied => applied
  | _ => none

def PlayEvent.Honest (event : PlayEvent) : Prop :=
  ∀ snapshot ∈ event.snapshot, Named feedId names snapshot.slots

def OwnerMessage.snapshot : OwnerMessage → Option PlaySnapshot
  | .statusOnly _ => none
  | .unifiedQueueState snapshot => some snapshot
  | .queueOpResult applied => applied
  | .player event => event.snapshot

def FeedInput.Honest : FeedInput → Prop
  | .receive message => ∀ snapshot ∈ message.snapshot, Named feedId names snapshot.slots
  | _ => True

instance PlayEvent.Honest.decide (event : PlayEvent) : Decidable (event.Honest feedId names) :=
  inferInstanceAs (Decidable (∀ snapshot ∈ event.snapshot, _))

instance FeedInput.Honest.decide : ∀ input : FeedInput, Decidable (input.Honest feedId names)
  | .receive message => inferInstanceAs (Decidable (∀ snapshot ∈ message.snapshot, _))
  | .disconnect | .handle | .finishPause | .pump | .seekToFraction _ | .confirmRemove =>
    isTrue True.intro

end

/-! ### When a step stores what it should -/

namespace FeedApp

section

variable (feedId : FeedEntry → Option String) (names : QueueSlotId → Option FeedKey)
  (app : FeedApp)

/-- The position of the status may be stored for a slot: a Feed slot is the one that plays, and it
    did so after the completion its entry is stored with. -/
def PositionSound (slotId : QueueSlotId) : Prop :=
  ∀ slot ∈ app.queue.slot slotId, ∀ key ∈ keyOf feedId slot.item,
    app.status.playing = some slotId ∧ ∀ time ∈ app.completedAt key, time < app.status.observed

/-- A report may be stored for a slot: the queue shows the slot if it is a Feed slot, the test does
    not wrap, and what is stored is an end with a known runtime, or a position that is later than the
    completion its entry is stored with. An end with an unknown runtime is stored at the
    beginning. -/
def ReportSound (slotId : QueueSlotId) (observation : ProgressObservation) (observed : Nat) : Prop :=
  (app.queue.slot slotId = none → names slotId = none) ∧
  app.reportOverflows slotId observation = false ∧
  ∀ slot ∈ app.queue.slot slotId, ∀ key ∈ keyOf feedId slot.item,
    Ends slot.item observation ∨
    (observation.played → observationTicks observation = 0) ∧
    ∀ time ∈ app.completedAt key,
      time < (app.reportReading slotId slot.item observed observation).observed

/-- An event of the Owner may be handled, ahead of those that still wait. -/
def EventSound : PlayEvent → Prop
  | .outputStarted => ∀ slotId ∈ app.seekPending, app.PositionSound feedId slotId
  | .trackCompleted slotId positionTicks played observed =>
    app.ReportSound feedId names slotId (.completed positionTicks played) observed
  | .stopped slotId positionTicks played observed =>
    if app.disconnected then
      if app.isLocalDaemon then ∀ stopped ∈ slotId, names stopped = none
      else
        ∀ lost ∈ slotId.toList ++ app.channel.filterMap PlayEvent.reported, names lost = none
    else
      ∀ stopped ∈ slotId,
        if app.deletePending then names stopped = none
        else app.ReportSound feedId names stopped (.stopped positionTicks played) observed
  | _ => True

def Sound : FeedInput → Prop
  | .finishPause => ∀ slotId ∈ app.pausing, app.PositionSound feedId slotId
  | .handle =>
    if app.pausing.isSome || app.detached then True
    else
      ∀ event ∈ app.channel.head?,
        { app with channel := app.channel.tail }.EventSound feedId names event
  | _ => True

instance PositionSound.decide (slotId : QueueSlotId) : Decidable (app.PositionSound feedId slotId) :=
  inferInstanceAs (Decidable (∀ slot ∈ app.queue.slot slotId, ∀ key ∈ keyOf feedId slot.item, _ ∧ _))

instance ReportSound.decide (slotId : QueueSlotId) (observation : ProgressObservation)
    (observed : Nat) : Decidable (app.ReportSound feedId names slotId observation observed) :=
  inferInstanceAs (Decidable ((_ → _) ∧ _ ∧
    ∀ slot ∈ app.queue.slot slotId, ∀ key ∈ keyOf feedId slot.item, _ ∨ (_ → _) ∧ _))

instance EventSound.decide :
    ∀ (app : FeedApp) (event : PlayEvent), Decidable (app.EventSound feedId names event)
  | app, .outputStarted =>
    inferInstanceAs (Decidable (∀ slotId ∈ app.seekPending, app.PositionSound feedId slotId))
  | app, .trackCompleted slotId positionTicks played observed =>
    inferInstanceAs (Decidable
      (app.ReportSound feedId names slotId (.completed positionTicks played) observed))
  | app, .stopped _ _ _ _ =>
    inferInstanceAs (Decidable (if app.disconnected then if app.isLocalDaemon then _ else _ else _))
  | _, .unifiedQueueUpdated _ | _, .queueOpResult _ | _, .pausedChanged _ => isTrue True.intro

instance Sound.decide :
    ∀ (app : FeedApp) (input : FeedInput), Decidable (app.Sound feedId names input)
  | app, .finishPause =>
    inferInstanceAs (Decidable (∀ slotId ∈ app.pausing, app.PositionSound feedId slotId))
  | app, .handle =>
    inferInstanceAs (Decidable (if app.pausing.isSome || app.detached then True else _))
  | _, .receive _ | _, .disconnect | _, .pump | _, .seekToFraction _ | _, .confirmRemove =>
    isTrue True.intro

/-! ### What a step stores -/

variable {feedId names app}

structure Stores (before after : FeedApp) (writes : List FeedWrite) (missed : List QueueSlotId)
    (overflows : Bool) : Prop where
  writes : after.writes = before.writes ++ writes
  missed : after.missed = before.missed ++ missed
  overflowed : after.overflowed = (before.overflowed || overflows)

theorem Stores.attributed {after : FeedApp} {writes : List FeedWrite} {missed : List QueueSlotId}
    {overflows : Bool} (stores : Stores app after writes missed overflows) :
    after.Attributed names ↔ app.Attributed names ∧ (∀ write ∈ writes, write.Right names) ∧ missed = [] ∧ overflows = false := by
  constructor
  · intro attributed
    have right := attributed.right
    have stored := attributed.stored
    have fits := attributed.fits
    rw [stores.writes] at right
    rw [stores.missed, append_eq_nil_iff] at stored
    rw [stores.overflowed, Bool.or_eq_false_iff] at fits
    exact ⟨⟨fun write member => right write (mem_append_left _ member), stored.1, fits.1⟩,
        fun write member => right write (mem_append_right _ member), stored.2, fits.2⟩
  · rintro ⟨attributed, right, rfl, rfl⟩
    refine ⟨?_, ?_, ?_⟩
    · intro write member
      rw [stores.writes] at member
      rcases mem_append.mp member with old | new
      · exact attributed.right write old
      · exact right write new
    · rw [stores.missed, attributed.stored, append_nil]
    · rw [stores.overflowed, attributed.fits, Bool.or_false]

theorem Stores.quiet {after : FeedApp} (writes : after.writes = app.writes)
    (missed : after.missed = app.missed) (overflowed : after.overflowed = app.overflowed) :
    Stores app after [] [] false := by
  constructor <;> simp [*]

theorem Stores.attributed_quiet {after : FeedApp} (stores : Stores app after [] [] false) :
    after.Attributed names ↔ app.Attributed names ∧ True := by
  rw [stores.attributed]
  simp

theorem stores_writeFeedEntryState (write : Option FeedWrite) :
    Stores app (app.writeFeedEntryState write) write.toList [] false := by
  constructor <;> simp [writeFeedEntryState]

theorem stores_miss (slotIds : List QueueSlotId) : Stores app (app.miss names slotIds) []
      (slotIds.filter fun slotId => (names slotId).isSome) false := by
  constructor <;> simp [miss]

/-! ### One store -/

variable {slotId : QueueSlotId}

theorem keyOf_slot (named : Named feedId names app.queue.slots) {slot : QueueSlot} (found : app.queue.slot slotId = some slot) :
    keyOf feedId slot.item = names slotId := by
  obtain ⟨same, member⟩ := Keyed.get_key found
  rw [named slot member, same]

theorem feedStateWrite_persist {slotId id : QueueSlotId} {entry : FeedEntry}
    (found : app.queue.slot slotId = some ⟨id, .feed entry⟩) (reading : Reading)
    (ended : Option Nat) (positionTicks : Int) (completed : Bool) :
    app.feedStateWrite slotId reading ended (persistFeedSlotLifecycle feedId app.queue slotId positionTicks completed) =
    (keyOf feedId (.feed entry)).map fun key =>
      let ends := completed && decide (0 < (QueueItem.feed entry).runtimeTicks)
      ⟨key.1, key.2, if ends then 0 else positionTicks, ends, slotId, reading, ended, app.completedAt key⟩ := by
  simp only [persistFeedSlotLifecycle, found, keyOf]
  cases feedId entry with
  | none => rfl
  | some feedId =>
    simp only [Option.map_some]
    cases completed && decide (0 < (QueueItem.feed entry).runtimeTicks) <;> rfl

theorem slotPositionWrite_feed {slotId id : QueueSlotId} {entry : FeedEntry}
    (found : app.queue.slot slotId = some ⟨id, .feed entry⟩) :
    app.slotPositionWrite feedId slotId = (keyOf feedId (.feed entry)).map fun key =>
        ⟨key.1, key.2, app.status.positionTicks, false, slotId, app.status.reading, none, app.completedAt key⟩ := by
  unfold slotPositionWrite
  rw [feedStateWrite_persist found]
  rfl

theorem slotPositionWrite_other (other : ∀ id entry, app.queue.slot slotId ≠ some ⟨id, .feed entry⟩) :
    app.slotPositionWrite feedId slotId = none := by
  unfold slotPositionWrite persistFeedSlotLifecycle
  split
  · rename_i found
    exact absurd found (other _ _)
  · rfl

theorem persistFeedSlotPosition_eq (slotId : QueueSlotId) : app.persistFeedSlotPosition feedId slotId =
      app.writeFeedEntryState (app.slotPositionWrite feedId slotId) := by
  unfold persistFeedSlotPosition
  split
  · rename_i id entry found
    rw [slotPositionWrite_feed found]
    unfold keyOf
    cases known : feedId entry <;> simp [known, writeFeedEntryState]
  · rename_i other
    rw [slotPositionWrite_other other]
    simp [writeFeedEntryState]

theorem stores_persistFeedSlotPosition (slotId : QueueSlotId) : Stores app (app.persistFeedSlotPosition feedId slotId)
      (app.slotPositionWrite feedId slotId).toList [] false := by
  rw [persistFeedSlotPosition_eq]
  exact stores_writeFeedEntryState _

theorem slotPositionWrite_right_iff (named : Named feedId names app.queue.slots) (slotId : QueueSlotId) :
    (∀ write ∈ (app.slotPositionWrite feedId slotId).toList, write.Right names) ↔ app.PositionSound feedId slotId := by
  unfold PositionSound
  cases found : app.queue.slot slotId with
  | none =>
    rw [slotPositionWrite_other (by simp [found])]
    simp
  | some slot =>
    obtain ⟨id, item⟩ := slot
    have shown : keyOf feedId item = names slotId := keyOf_slot named found
    cases item with
    | feed entry =>
      rw [slotPositionWrite_feed found]
      cases known : keyOf feedId (.feed entry) with
      | none => simp [known]
      | some key =>
        obtain ⟨feedId, guid⟩ := key
        rw [known] at shown
        simp [FeedWrite.Right, FeedWrite.key, PlayStatus.reading, ← shown, known]
    | emby _ | audiobookshelf _ | twitch _ =>
      rw [slotPositionWrite_other (by simp [found])]
      simp [keyOf]

/-! ### A report -/

theorem ninetyFivePercent_of_fits {runtime : Int} (positive : 0 < runtime)
    (fits : runtime * 95 ≤ i64Max) : ninetyFivePercent runtime = runtime * 95 / 100 := by
  unfold ninetyFivePercent
  unfold i64Max at fits
  rw [Int.bmod_eq_of_le (by omega) (by omega), Int.tdiv_eq_ediv_of_nonneg (by omega)]

theorem feedCompleted_iff {item : QueueItem} {observation : ProgressObservation} (fits : ¬ Overflows item observation) :
    (feedCompleted item observation && decide (0 < item.runtimeTicks)) = true ↔ Ends item observation := by
  cases observation with
  | completed positionTicks played =>
    simp [feedCompleted, Ends, ProgressObservation.played, and_comm]
  | stopped positionTicks played =>
    cases played with
    | true => simp [feedCompleted, Ends, ProgressObservation.played]
    | false =>
      simp only [feedCompleted, Ends, ProgressObservation.played, Bool.false_or, Bool.and_eq_true,
        decide_eq_true_eq, Bool.false_eq_true, false_or]
      constructor
      · rintro ⟨⟨positive, reached⟩, -⟩
        have small : item.runtimeTicks * 95 ≤ i64Max := not_lt.mp fun large => fits ⟨rfl, positive, large⟩
        exact ⟨positive, ninetyFivePercent_of_fits positive small ▸ reached⟩
      · rintro ⟨positive, reached⟩
        have small : item.runtimeTicks * 95 ≤ i64Max := not_lt.mp fun large => fits ⟨rfl, positive, large⟩
        exact ⟨⟨positive, (ninetyFivePercent_of_fits positive small).symm ▸ reached⟩, positive⟩

theorem positionToRecord_feed (entry : FeedEntry) (slotId : QueueSlotId) (observed : Nat) (observation : ProgressObservation) :
    observation.positionToRecord (.feed entry) = if observation.played then 0
      else (app.reportReading slotId (.feed entry) observed observation).positionTicks := by
  cases observation with
  | completed positionTicks played | stopped positionTicks played =>
    cases played with
    | true =>
      simp [ProgressObservation.positionToRecord, ProgressObservation.played, playedEmbyVideo]
    | false =>
      simp only [ProgressObservation.positionToRecord, ProgressObservation.played, reportReading,
        observationTaken, observationTicks, Bool.false_or, Bool.false_eq_true, if_false]
      split <;> rfl

theorem reportWrite_feed {slotId id : QueueSlotId} {entry : FeedEntry}
    (found : app.queue.slot slotId = some ⟨id, .feed entry⟩) (observation : ProgressObservation)
    (observed : Nat) (fits : ¬ Overflows (.feed entry) observation) :
    app.reportWrite feedId slotId observation observed = (keyOf feedId (.feed entry)).map fun key =>
        let ends := decide (Ends (.feed entry) observation)
        ⟨key.1, key.2, if ends then 0 else observation.positionToRecord (.feed entry), ends, slotId,
          app.reportReading slotId (.feed entry) observed observation,
          if ends then some observed else none, app.completedAt key⟩ := by
  have completes : (feedCompleted (.feed entry) observation &&
      decide (0 < (QueueItem.feed entry).runtimeTicks)) = decide (Ends (.feed entry) observation) :=
    Bool.eq_iff_iff.mpr ((feedCompleted_iff fits).trans decide_eq_true_iff.symm)
  unfold reportWrite
  simp only [found]
  rw [feedStateWrite_persist found, completes]
  simp only [decide_eq_true_eq]

theorem reportWrite_other (other : ∀ id entry, app.queue.slot slotId ≠ some ⟨id, .feed entry⟩)
    (observation : ProgressObservation) (observed : Nat) :
    app.reportWrite feedId slotId observation observed = none ∧
    app.reportOverflows slotId observation = false := by
  unfold reportWrite reportOverflows
  split
  · rename_i found
    exact absurd found (other _ _)
  · exact ⟨rfl, rfl⟩

def unstored (feedId : FeedEntry → Option String) (names : QueueSlotId → Option FeedKey)
    (app : FeedApp) (slotId : QueueSlotId) (observation : ProgressObservation) (observed : Nat) :
    List QueueSlotId :=
  if (app.reportWrite feedId slotId observation observed).isNone && (names slotId).isSome then
    [slotId]
  else []

theorem stores_applySlotReport (slotId : QueueSlotId) (observation : ProgressObservation) (observed : Nat) :
    Stores app (app.applySlotReport feedId names slotId observation observed)
      (app.reportWrite feedId slotId observation observed).toList
      (unstored feedId names app slotId observation observed)
      (app.reportOverflows slotId observation) := by
  refine ⟨rfl, ?_, rfl⟩
  simp only [applySlotReport, unstored]
  split
  · rfl
  · exact (append_nil _).symm

theorem unstored_nil {observation : ProgressObservation} {observed : Nat} :
    unstored feedId names app slotId observation observed = [] ↔
      (app.reportWrite feedId slotId observation observed = none → names slotId = none) := by
  simp [unstored]

theorem reportWrite_right_iff (named : Named feedId names app.queue.slots) (slotId : QueueSlotId)
    (observation : ProgressObservation) (observed : Nat) :
    ((∀ write ∈ (app.reportWrite feedId slotId observation observed).toList, write.Right names) ∧
      unstored feedId names app slotId observation observed = [] ∧
      app.reportOverflows slotId observation = false) ↔
      app.ReportSound feedId names slotId observation observed := by
  rw [unstored_nil]
  unfold ReportSound
  cases found : app.queue.slot slotId with
  | none =>
    obtain ⟨unwritten, fits⟩ := @reportWrite_other feedId app slotId (by simp [found]) observation observed
    simp [unwritten, fits]
  | some slot =>
    obtain ⟨id, item⟩ := slot
    have shown : keyOf feedId item = names slotId := keyOf_slot named found
    cases item with
    | feed entry =>
      have overflows : app.reportOverflows slotId observation = false ↔ ¬ Overflows (.feed entry) observation := by
        simp [reportOverflows, found]
      have present : ∀ {sound : Prop}, ((some (⟨id, .feed entry⟩ : QueueSlot) = none →
          names slotId = none) ∧ ¬ Overflows (.feed entry) observation ∧ sound) ↔
            ¬ Overflows (.feed entry) observation ∧ sound := by
        simp
      rw [overflows, present, ← and_assoc, and_comm]
      refine and_congr_right fun fits => ?_
      rw [reportWrite_feed found _ _ fits]
      cases known : keyOf feedId (.feed entry) with
      | none => simp [← shown, known]
      | some key =>
        obtain ⟨feedId, guid⟩ := key
        rw [known] at shown
        by_cases ends : Ends (.feed entry) observation
        · simp [FeedWrite.Right, FeedWrite.key, ← shown, ends]
        · have playing : (app.reportReading slotId (.feed entry) observed observation).playing = some slotId := by
            unfold reportReading
            split <;> rfl
          have position : observation.positionToRecord (.feed entry) =
                (app.reportReading slotId (.feed entry) observed observation).positionTicks ↔
              (observation.played → observationTicks observation = 0) := by
            rw [@positionToRecord_feed app entry slotId observed]
            cases played : observation.played with
            | true => simp [reportReading, played, eq_comm]
            | false => simp
          simp [FeedWrite.Right, FeedWrite.key, ← shown, known, ends, playing, position]
    | emby _ | audiobookshelf _ | twitch _ =>
      obtain ⟨unwritten, fits⟩ := @reportWrite_other feedId app slotId (by simp [found]) observation observed
      simp [unwritten, fits, ← shown, keyOf]

theorem position_attributed_iff (named : Named feedId names app.queue.slots) (slotId : QueueSlotId) :
    (app.persistFeedSlotPosition feedId slotId).Attributed names ↔ app.Attributed names ∧ app.PositionSound feedId slotId := by
  rw [(stores_persistFeedSlotPosition slotId).attributed, slotPositionWrite_right_iff named]
  simp

theorem report_attributed_iff (named : Named feedId names app.queue.slots) (slotId : QueueSlotId)
    (observation : ProgressObservation) (observed : Nat) :
    (app.applySlotReport feedId names slotId observation observed).Attributed names ↔
      app.Attributed names ∧ app.ReportSound feedId names slotId observation observed := by
  rw [(stores_applySlotReport slotId observation observed).attributed, reportWrite_right_iff named]

theorem miss_attributed_iff (slotIds : List QueueSlotId) : (app.miss names slotIds).Attributed names ↔
      app.Attributed names ∧ ∀ slotId ∈ slotIds, names slotId = none := by
  rw [(stores_miss slotIds).attributed]
  simp

theorem attributed_congr {other : FeedApp} (writes : other.writes = app.writes)
    (missed : other.missed = app.missed) (overflowed : other.overflowed = app.overflowed) :
    other.Attributed names ↔ app.Attributed names := by
  rw [(Stores.quiet writes missed overflowed).attributed]
  simp

/-! ### One step -/

theorem handleStoppedEvent_attributed_iff (named : Named feedId names app.queue.slots)
    (slotId : Option QueueSlotId) (positionTicks : Int) (played : Bool) (observed : Nat) :
    (app.handleStoppedEvent feedId names slotId positionTicks played observed).Attributed names ↔ app.Attributed names ∧
        app.EventSound feedId names (.stopped slotId positionTicks played observed) := by
  simp only [handleStoppedEvent, EventSound]
  by_cases closed : app.disconnected
  · by_cases isLocal : app.isLocalDaemon
    · simp only [if_pos closed, if_pos isLocal]
      rw [miss_attributed_iff]
      simp
    · simp only [if_pos closed, if_neg isLocal]
      rw [← miss_attributed_iff]
      exact attributed_congr rfl rfl rfl
  · have cleared : ({ app with deletePending := false } : FeedApp).Attributed names ↔
        app.Attributed names := attributed_congr rfl rfl rfl
    simp only [if_neg closed]
    cases slotId with
    | none => simpa using cleared
    | some slotId =>
      by_cases isDelete : app.deletePending
      · simp only [if_pos isDelete]
        rw [miss_attributed_iff, cleared]
        simp
      · simp only [if_neg isDelete]
        rw [@report_attributed_iff feedId names { app with deletePending := false } named, cleared]
        simp [ReportSound, completedAt, reportReading, reportOverflows]

theorem handlePausedChanged_stores (paused : Bool) : Stores app (app.handlePausedChanged paused) [] [] false := by
  unfold handlePausedChanged
  split
  · split <;> exact .quiet rfl rfl rfl
  · exact .quiet rfl rfl rfl

theorem handlePlayerEvent_attributed_iff (named : Named feedId names app.queue.slots) (event : PlayEvent) :
    (app.handlePlayerEvent feedId names event).Attributed names ↔ app.Attributed names ∧ app.EventSound feedId names event := by
  cases event with
  | trackCompleted slotId positionTicks played observed =>
    exact report_attributed_iff named slotId _ observed
  | stopped slotId positionTicks played observed =>
    exact handleStoppedEvent_attributed_iff named slotId positionTicks played observed
  | outputStarted =>
    simp only [handlePlayerEvent, handleOutputStarted, EventSound]
    cases app.seekPending with
    | none => simp
    | some slotId =>
      have taken : ({ app with seekPending := none } : FeedApp).Attributed names ↔
          app.Attributed names := attributed_congr rfl rfl rfl
      refine (@position_attributed_iff feedId names { app with seekPending := none } named slotId).trans ?_
      rw [taken]
      simp [PositionSound, completedAt]
  | pausedChanged paused =>
    exact (handlePausedChanged_stores paused).attributed_quiet
  | unifiedQueueUpdated snapshot => exact Stores.attributed_quiet (.quiet rfl rfl rfl)
  | queueOpResult applied =>
    cases applied with
    | none => exact Stores.attributed_quiet (.quiet rfl rfl rfl)
    | some snapshot => exact Stores.attributed_quiet (.quiet rfl rfl rfl)

theorem receive_stores (message : OwnerMessage) : Stores app (app.receive message) [] [] false := by
  cases message with
  | statusOnly status | unifiedQueueState snapshot => exact .quiet rfl rfl rfl
  | queueOpResult applied => cases applied <;> exact .quiet rfl rfl rfl
  | player event => cases event <;> exact .quiet rfl rfl rfl

theorem pump_stores : Stores app (app.pump feedId names) [] [] false := by
  unfold pump
  split
  · rename_i event found
    have inline := List.find?_some found
    cases event with
    | unifiedQueueUpdated snapshot => exact .quiet rfl rfl rfl
    | queueOpResult applied => cases applied <;> exact .quiet rfl rfl rfl
    | trackCompleted | stopped | pausedChanged | outputStarted => cases inline
  · exact .quiet rfl rfl rfl

theorem seekToFraction_stores (runtimeKnown : Bool) : Stores app (app.seekToFraction feedId runtimeKnown) [] [] false := by
  unfold seekToFraction
  repeat' split
  all_goals exact .quiet rfl rfl rfl

theorem step_attributed_iff (named : Named feedId names app.queue.slots) (input : FeedInput) :
    (app.step feedId names input).Attributed names ↔ app.Attributed names ∧ app.Sound feedId names input := by
  cases input with
  | receive message =>
    refine Stores.attributed_quiet ?_
    simp only [step]
    split
    · exact .quiet rfl rfl rfl
    · exact receive_stores message
  | disconnect => exact Stores.attributed_quiet (.quiet rfl rfl rfl)
  | pump =>
    refine Stores.attributed_quiet ?_
    simp only [step]
    split
    · exact .quiet rfl rfl rfl
    · exact pump_stores
  | seekToFraction runtimeKnown =>
    refine Stores.attributed_quiet ?_
    simp only [step]
    split
    · exact .quiet rfl rfl rfl
    · exact seekToFraction_stores runtimeKnown
  | confirmRemove =>
    refine Stores.attributed_quiet ?_
    simp only [step]
    split <;> exact .quiet rfl rfl rfl
  | finishPause =>
    simp only [step, Sound]
    cases app.pausing with
    | none => simp
    | some slotId =>
      have taken : ({ app with pausing := none } : FeedApp).Attributed names ↔
          app.Attributed names := attributed_congr rfl rfl rfl
      refine (@position_attributed_iff feedId names { app with pausing := none } named slotId).trans ?_
      rw [taken]
      simp [PositionSound, completedAt]
  | handle =>
    simp only [step, Sound]
    by_cases idle : app.pausing.isSome || app.detached
    · rw [if_pos idle, if_pos idle, and_true]
    · simp only [if_neg idle]
      cases app.channel with
      | nil => simp
      | cons event rest =>
        have popped : ({ app with channel := rest } : FeedApp).Attributed names ↔
            app.Attributed names := attributed_congr rfl rfl rfl
        refine (@handlePlayerEvent_attributed_iff feedId names { app with channel := rest } named event).trans ?_
        rw [popped]
        simp

/-! ### A whole run -/

/-- The Client's mirrors of the Owner's queue hold each slot's own entry. -/
structure Mirrors (feedId : FeedEntry → Option String) (names : QueueSlotId → Option FeedKey)
    (app : FeedApp) : Prop where
  queue : Named feedId names app.queue.slots
  channel : ∀ event ∈ app.channel, event.Honest feedId names

theorem Mirrors.congr {other : FeedApp} (mirrors : app.Mirrors feedId names)
    (queue : other.queue = app.queue) (channel : other.channel ⊆ app.channel) :
    other.Mirrors feedId names :=
  ⟨queue ▸ mirrors.queue, fun event member => mirrors.channel event (channel member)⟩

theorem Mirrors.post (mirrors : app.Mirrors feedId names) {event : PlayEvent}
    (honest : event.Honest feedId names) : (app.post event).Mirrors feedId names := by
  refine ⟨mirrors.queue, fun other member => ?_⟩
  rcases mem_append.mp member with old | new
  · exact mirrors.channel other old
  · rw [mem_singleton.mp new]
    exact honest

theorem Mirrors.applyUnifiedQueueState (mirrors : app.Mirrors feedId names) {snapshot : PlaySnapshot}
    (named : Named feedId names snapshot.slots) :
    (app.applyUnifiedQueueState snapshot).Mirrors feedId names := by
  have shown : ({ app with status := snapshot.normalized.status } : FeedApp).Mirrors feedId names :=
    mirrors.congr rfl (List.Subset.refl _)
  refine shown.post ?_
  rintro other (same : some _ = some other)
  cases same
  exact named

theorem Mirrors.receive (mirrors : app.Mirrors feedId names) {message : OwnerMessage}
    (honest : (FeedInput.receive message).Honest feedId names) :
    (app.receive message).Mirrors feedId names := by
  cases message with
  | statusOnly status => exact mirrors.congr rfl (List.Subset.refl _)
  | unifiedQueueState snapshot => exact mirrors.applyUnifiedQueueState (honest snapshot rfl)
  | queueOpResult applied =>
    cases applied with
    | none => exact mirrors.post fun snapshot shown => by cases shown
    | some snapshot =>
      refine (mirrors.applyUnifiedQueueState (honest snapshot rfl)).post ?_
      exact fun shown same => honest shown same
  | player event =>
    have kept : event.Honest feedId names := honest
    cases event <;> refine Mirrors.post ?_ kept <;> exact mirrors.congr rfl (List.Subset.refl _)

theorem persistFeedSlotPosition_keeps (slotId : QueueSlotId) : (app.persistFeedSlotPosition feedId slotId).queue = app.queue ∧
    (app.persistFeedSlotPosition feedId slotId).channel = app.channel := by
  rw [persistFeedSlotPosition_eq]
  exact ⟨rfl, rfl⟩

theorem Mirrors.persistFeedSlotPosition (mirrors : app.Mirrors feedId names) (slotId : QueueSlotId) :
    (app.persistFeedSlotPosition feedId slotId).Mirrors feedId names := by
  obtain ⟨queue, channel⟩ := @persistFeedSlotPosition_keeps feedId app slotId
  exact mirrors.congr queue (channel ▸ List.Subset.refl _)

theorem Mirrors.handleStoppedEvent (mirrors : app.Mirrors feedId names) (slotId : Option QueueSlotId)
    (positionTicks : Int) (played : Bool) (observed : Nat) :
    (app.handleStoppedEvent feedId names slotId positionTicks played observed).Mirrors feedId
      names := by
  unfold FeedApp.handleStoppedEvent
  split
  · split
    · exact mirrors.congr rfl (List.Subset.refl _)
    · exact mirrors.congr rfl (nil_subset _)
  · dsimp only
    split
    · split <;> exact mirrors.congr rfl (List.Subset.refl _)
    · exact mirrors.congr rfl (List.Subset.refl _)

theorem Mirrors.handlePlayerEvent (mirrors : app.Mirrors feedId names) {event : PlayEvent} (honest : event.Honest feedId names) :
    (app.handlePlayerEvent feedId names event).Mirrors feedId names := by
  cases event with
  | unifiedQueueUpdated snapshot => exact ⟨honest snapshot rfl, mirrors.channel⟩
  | queueOpResult applied =>
    cases applied with
    | none => exact mirrors
    | some snapshot => exact ⟨honest snapshot rfl, mirrors.channel⟩
  | trackCompleted slotId positionTicks played observed =>
    exact mirrors.congr rfl (List.Subset.refl _)
  | stopped slotId positionTicks played observed =>
    exact mirrors.handleStoppedEvent slotId positionTicks played observed
  | pausedChanged paused =>
    simp only [FeedApp.handlePlayerEvent, handlePausedChanged]
    split
    · split
      · exact mirrors.congr rfl (List.Subset.refl _)
      · exact mirrors
    · exact mirrors
  | outputStarted =>
    simp only [FeedApp.handlePlayerEvent, handleOutputStarted]
    split
    · refine Mirrors.persistFeedSlotPosition ?_ _
      exact mirrors.congr rfl (List.Subset.refl _)
    · exact mirrors

theorem Mirrors.pump (mirrors : app.Mirrors feedId names) : (app.pump feedId names).Mirrors feedId names := by
  unfold FeedApp.pump
  split
  · rename_i event found
    refine Mirrors.handlePlayerEvent ?_ (mirrors.channel event (mem_of_find?_eq_some found))
    exact mirrors.congr rfl eraseP_subset
  · exact mirrors

theorem Mirrors.seekToFraction (mirrors : app.Mirrors feedId names) (runtimeKnown : Bool) :
    (app.seekToFraction feedId runtimeKnown).Mirrors feedId names := by
  unfold FeedApp.seekToFraction
  repeat' split
  all_goals exact mirrors.congr rfl (List.Subset.refl _)

theorem Mirrors.step (mirrors : app.Mirrors feedId names) {input : FeedInput}
    (honest : input.Honest feedId names) : (app.step feedId names input).Mirrors feedId names := by
  cases input with
  | receive message =>
    simp only [FeedApp.step]
    split
    · exact mirrors
    · exact mirrors.receive honest
  | disconnect => exact mirrors.congr rfl (List.Subset.refl _)
  | handle =>
    simp only [FeedApp.step]
    split
    · exact mirrors
    · split
      · rename_i event rest head
        refine Mirrors.handlePlayerEvent ?_ (mirrors.channel event (head ▸ mem_cons_self))
        exact mirrors.congr rfl (head ▸ subset_cons_self event rest)
      · exact mirrors
  | finishPause =>
    simp only [FeedApp.step]
    split
    · refine Mirrors.persistFeedSlotPosition ?_ _
      exact mirrors.congr rfl (List.Subset.refl _)
    · exact mirrors
  | pump =>
    simp only [FeedApp.step]
    split
    · exact mirrors
    · exact mirrors.pump
  | seekToFraction runtimeKnown =>
    simp only [FeedApp.step]
    split
    · exact mirrors
    · exact mirrors.seekToFraction runtimeKnown
  | confirmRemove =>
    simp only [FeedApp.step]
    split
    · exact mirrors
    · exact mirrors.congr rfl (List.Subset.refl _)

def initial (isLocalDaemon : Bool) (earlier : List (FeedKey × Nat)) : FeedApp :=
  { isLocalDaemon, earlier }

theorem mirrors_initial (isLocalDaemon : Bool) (earlier : List (FeedKey × Nat)) :
    (initial isLocalDaemon earlier).Mirrors feedId names := by
  constructor <;> simp [initial, Named]

theorem attributed_initial (isLocalDaemon : Bool) (earlier : List (FeedKey × Nat)) :
    (initial isLocalDaemon earlier).Attributed names :=
  ⟨by simp [initial], rfl, rfl⟩

theorem run_attributed_iff (mirrors : app.Mirrors feedId names) (inputs : List FeedInput)
    (honest : ∀ input ∈ inputs, input.Honest feedId names) :
    ((machine feedId names).run app inputs).Attributed names ↔
      app.Attributed names ∧ (machine feedId names).Along (Sound feedId names) app inputs := by
  induction inputs generalizing app with
  | nil => simp
  | cons input inputs ih =>
    have next := mirrors.step (honest input mem_cons_self)
    rw [Machine.run_cons, Machine.along_cons, ← and_assoc, ← step_attributed_iff mirrors.queue input]
    exact ih next fun other member => honest other (mem_cons_of_mem _ member)

end

/-! ### What a Client stores -/

section

variable (feedId : FeedEntry → Option String) (names : QueueSlotId → Option FeedKey)

/-- Whatever plays, is edited and is delivered in any order: every state a Client stores is that of
    the entry it is stored for, and every end is stored, exactly as long as each pause and seek it
    handles finds its slot playing in the status, and each report its slot in the queue. -/
theorem feed_states_attributed_iff (isLocalDaemon : Bool) (earlier : List (FeedKey × Nat))
    (inputs : List FeedInput) (honest : ∀ input ∈ inputs, input.Honest feedId names) :
    ((machine feedId names).run (initial isLocalDaemon earlier) inputs).Attributed names ↔
      (machine feedId names).Along (Sound feedId names) (initial isLocalDaemon earlier) inputs := by
  rw [run_attributed_iff (mirrors_initial isLocalDaemon earlier) inputs honest]
  exact and_iff_right (attributed_initial isLocalDaemon earlier)

end

def episode (guid : String) : FeedEntry :=
  ⟨guid, guid, none, some 1000, some .video, 0, false, ""⟩

def episodeKey (slotId : QueueSlotId) : Option FeedKey :=
  if slotId.raw = 1 then some ("feed", "first")
  else if slotId.raw = 2 then some ("feed", "second")
  else none

/-- The status and the queue of an Owner whose player is at `positionTicks` in a slot. -/
def playingAt (raw : UInt64) (positionTicks : Int) (observed : Nat) : PlaySnapshot where
  slots := [⟨⟨1⟩, .feed (episode "first")⟩, ⟨⟨2⟩, .feed (episode "second")⟩]
  activeSlot := some ⟨raw⟩
  status :=
    { active := true, positionTicks := positionTicks, playing := some ⟨raw⟩, observed := observed }

/-- The first episode is paused and ends at 96 percent, the second is sought in and ends. -/
def twoEpisodes : List FeedInput :=
  [.receive (.unifiedQueueState (playingAt 1 300 1)), .handle,
    .receive (.player (.pausedChanged true)), .handle, .finishPause,
    .receive (.player (.stopped (some ⟨1⟩) 960 false 2)), .handle,
    .receive (.unifiedQueueState (playingAt 2 0 3)), .handle, .seekToFraction true,
    .receive (.statusOnly (playingAt 2 400 4).status),
    .receive (.player .outputStarted), .handle,
    .receive (.player (.trackCompleted ⟨2⟩ 1000 true 5)), .handle]

theorem two_episodes_attributed :
    ((machine (fun _ => some "feed") episodeKey).run (initial true []) twoEpisodes).Attributed
      episodeKey ∧
    ((machine (fun _ => some "feed") episodeKey).run (initial true []) twoEpisodes).writes.map
      (fun write => (write.key, write.positionTicks, write.played)) =
      [(("feed", "first"), 300, false), (("feed", "first"), 0, true),
        (("feed", "second"), 400, false), (("feed", "second"), 0, true)] :=
  ⟨(feed_states_attributed_iff _ _ true [] twoEpisodes (by decide)).mpr (by decide), by decide⟩

/-- The second episode plays before a seek in the first one is confirmed. -/
def seekThenJump : List FeedInput :=
  [.receive (.unifiedQueueState (playingAt 1 300 1)), .handle, .seekToFraction true,
    .receive (.unifiedQueueState (playingAt 2 50 2)), .handle,
    .receive (.player .outputStarted), .handle]

/-- The start of the second episode stores its position for the first. -/
theorem pending_seek_stores_other_slot :
    (∀ input ∈ seekThenJump, input.Honest (fun _ => some "feed") episodeKey) ∧
    ((machine (fun _ => some "feed") episodeKey).run (initial true []) seekThenJump).writes.map
      (fun write => (write.key, write.positionTicks, write.reading.playing)) =
      [(("feed", "first"), 50, some ⟨2⟩)] ∧
    ¬ ((machine (fun _ => some "feed") episodeKey).run (initial true []) seekThenJump).Attributed
      episodeKey := by
  refine ⟨by decide, by decide, ?_⟩
  intro attributed
  have wrong : ¬ ∀ write ∈ ((machine (fun _ => some "feed") episodeKey).run (initial true [])
      seekThenJump).writes, write.Right episodeKey := by
    decide
  exact wrong attributed.right

end FeedApp

end Mbv.Client
