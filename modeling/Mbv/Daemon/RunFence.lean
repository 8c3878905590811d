import Mbv.Player.Run.Announce
import Mbv.Player.Run.Labels
import Mbv.Daemon.IntentLoop
import Mbv.Daemon.ObservedSlot

namespace Mbv.Daemon

open Mbv.Queue Mbv.Player List

/-- `none` is a report of a run the owner has left behind. -/
def applyStoppedObservation (queue : PlaybackQueue) (sequenceGeneration : PlaybackGeneration)
    (runIdentity : PlaybackGeneration) (outcome : StopOutcome) : Option PlaybackQueue :=
  if runIdentity ≠ sequenceGeneration then none
  else
    match outcome.slotId with
    | none => some queue
    | some slotId =>
      match queue.slot slotId with
      | none => some queue
      | some slot =>
        let observation := ProgressObservation.stopped outcome.positionTicks outcome.played
        some (queue.applyProgress slotId (observation.positionToRecord slot.item)
          observation.played).2

def PlaybackIntentState.settleCurrent (intents : PlaybackIntentState)
    (asked : CurrentPlaybackIntent → Bool) : PlaybackIntentState :=
  match intents.current.filter asked with
  | none => intents
  | some current =>
    (intents.appliedIfCurrent current.connectionId current.requestId current.generation).2

/-- An event the run sent, and the submission whose occurrence it is about. -/
structure Observation where
  event : PlayerEvent
  submission : Nat
deriving DecidableEq

/-- What a handler hands `submit_queue_slots`. -/
structure QueueSubmission where
  items : List ExecSlot
  startIdx : Nat

/-- A spawned run starts mpv and loads its sources before it reads the shared status. -/
inductive RunPhase where
  | absent
  | starting (submission : QueueSubmission) (number : Nat) (runIdentity : PlaybackGeneration)
  | live (thread : RunThread)

def RunPhase.number? : RunPhase → Option Nat
  | starting _ number _ => some number
  | absent | live _ => none

/-- Whatever the run reports next carries the number of the submission it works on. -/
def RunPhase.LabelledBy (executing : Nat) : RunPhase → Prop
  | absent => True
  | starting _ number runIdentity => runIdentity.toNat = number
  | live thread => thread.exited = false → thread.run.runIdentity.toNat = executing

/-- The owner, the run it submits queues to, and the channels between them. `era` counts the
    submissions and whole-queue replacements, `executing` is the submission the run works on;
    `labelled` and `touched` keep every label a run used and every stale event that changed the
    owner. No decision reads these four. -/
structure FencedOwner where
  owner : PlayerOwnerState
  intents : PlaybackIntentState := {}
  sequenceGeneration : PlaybackGeneration := 0
  /-- A submission whose identity is minted, on its way to a run. -/
  submitting : Option QueueSubmission := none
  phase : RunPhase := .absent
  commands : List (PlayerCommand × Nat) := []
  observations : List Observation := []
  era : Nat := 0
  executing : Nat := 0
  labelled : List (PlaybackGeneration × Nat) := []
  touched : List Observation := []

def OwnerEvent.isObservation : OwnerEvent → Bool
  | .trackChanged .. | .edit (.trackCompleted ..) => true
  | _ => false

/-- The event puts another queue in the place of the owner's. -/
def OwnerEvent.replacesQueue : OwnerEvent → Bool
  | .replace ctx request _ => request.accepted ctx
  | .clear | .playResolved .. | .websocketPlay .. => true
  | _ => false

def submits : PlayerCommand → Bool
  | .submitQueue items _ => !items.isEmpty
  | _ => false

inductive FenceInput where
  /-- One turn of the owner's loop. Emptying the queue advances the generation without a
      submission. -/
  | turn (event : OwnerEvent) (advances : Bool) (submission : Option QueueSubmission)
  | intents (next : PlaybackIntentState)
  | send (command : PlayerCommand)
  /-- The submission goes to the live run, or a fresh run is spawned for it. -/
  | submitIntoLiveRun
  | coldStart
  | started (init : RunInit)
  | startupFailed (error : String)
  | take (answers : Answers)
  | run (input : RunInput)
  /-- The owner handles the next event; a jump it promotes may be a submission. -/
  | deliver (delivery : Delivery) (policy : ConsumePolicy) (submission : Option QueueSubmission)

namespace FencedOwner

variable (fenced : FencedOwner)

def observe (observations : List Observation) : FencedOwner :=
  { fenced with
    observations := fenced.observations ++ observations
    labelled := fenced.labelled ++ observations.filterMap fun observation =>
      observation.event.label?.map (·, observation.submission) }

/-- `submit_queue_slots` mints the identity before it looks for a run; it takes no empty queue. -/
def submit (advances replaces : Bool) (submission : Option QueueSubmission) : FencedOwner :=
  let accepted := submission.filter fun submission => !submission.items.isEmpty
  let advanced := advances || accepted.isSome
  { fenced with
    sequenceGeneration :=
      if advanced then saturatingSucc fenced.sequenceGeneration else fenced.sequenceGeneration
    era := if advanced || replaces then fenced.era + 1 else fenced.era
    submitting := accepted }

def runStep (thread : RunThread) (input : RunInput) (number : Nat) : FencedOwner :=
  let next := thread.step input
  let sent := next.run.events.drop thread.run.events.length
  { fenced with phase := .live next, executing := number }.observe
    (sent.map fun event => ⟨event, number⟩)

def shared (run : PlaybackRun) : PlaybackRun :=
  { run with
    status := { run.status with sequenceGeneration := fenced.sequenceGeneration } }

def handleObservation (event : PlayerEvent) (delivery : Delivery) (policy : ConsumePolicy)
    (submission : Option QueueSubmission) : FencedOwner :=
  match event with
  | .trackChanged slotId transition =>
    match fenced.owner.queue.slot slotId with
    | none => fenced
    | some slot =>
      { fenced with
        owner := handleTrackChanged fenced.owner slotId transition delivery
        intents := fenced.intents.settleCurrent (·.action.plays slot.item.id)
        }.submit false false submission
  | .trackCompleted slotId runIdentity positionTicks played consume =>
    let queue := (applyTrackCompletedObservation fenced.owner.queue fenced.sequenceGeneration
      ⟨runIdentity, slotId, positionTicks, played, consume⟩ policy).queue
    { fenced with owner := { fenced.owner with queue := queue } }
  | .stopped runIdentity outcome =>
    match applyStoppedObservation fenced.owner.queue fenced.sequenceGeneration runIdentity
        outcome with
    | none => fenced
    | some queue =>
      { fenced with
        owner := { fenced.owner with queue := queue }
        intents := fenced.intents.settleCurrent (·.action = .stop) }
  | .outputStarted | .nextUpPlay | .queueDesynced _ | .commandRejected _ | .mpvQuit => fenced

/-- A stale event that changes the owner is noted. -/
def deliver (observation : Observation) (delivery : Delivery) (policy : ConsumePolicy)
    (submission : Option QueueSubmission) : FencedOwner :=
  let handled := fenced.handleObservation observation.event delivery policy submission
  { handled with
    touched :=
      if observation.submission < fenced.era ∧
          ¬ (handled.owner = fenced.owner ∧ handled.intents = fenced.intents) then
        fenced.touched ++ [observation]
      else fenced.touched }

def step (fenced : FencedOwner) : FenceInput → FencedOwner
  | .turn event advances submission =>
    if fenced.submitting.isSome || event.isObservation then fenced
    else
      { fenced with owner := PlayerOwner.step fenced.owner event }.submit advances
        event.replacesQueue submission
  | .intents next => { fenced with intents := next }
  | .send command =>
    if submits command then fenced
    else { fenced with commands := fenced.commands ++ [(command, fenced.era)] }
  | .submitIntoLiveRun =>
    match fenced.submitting with
    | none => fenced
    | some submission =>
      { fenced with
        submitting := none
        commands := fenced.commands ++
          [(.submitQueue submission.items submission.startIdx, fenced.era)] }
  | .coldStart =>
    match fenced.submitting, fenced.phase with
    | some submission, .absent | some submission, .live ⟨_, true⟩ =>
      { fenced with
        submitting := none
        commands := []
        phase := .starting submission fenced.era fenced.sequenceGeneration }
    | _, _ => fenced
  | .started init =>
    match fenced.phase with
    | .starting submission number _ =>
      match PlaybackRun.newFromSlotItems submission.items
          { init with
            startIdx := submission.startIdx
            status :=
              { init.status with sequenceGeneration := fenced.sequenceGeneration } } with
      | some run => { fenced with phase := .live { run := run }, executing := number }
      | none => { fenced with phase := .absent }
    | _ => fenced
  | .startupFailed error =>
    match fenced.phase with
    | .starting _ number runIdentity =>
      { fenced with phase := .absent }.observe
        [⟨.stopped runIdentity ⟨none, 0, false, false, some error⟩, number⟩]
    | _ => fenced
  | .take answers =>
    match fenced.phase, fenced.commands with
    | .live ⟨run, false⟩, (command, number) :: commands =>
      { fenced with commands := commands }.runStep { run := fenced.shared run }
        (.command answers command) (if submits command then number else fenced.executing)
    | _, _ => fenced
  | .run input =>
    match fenced.phase, input with
    | .live ⟨run, false⟩, .stopRequest _ | .live ⟨run, false⟩, .quitTimer _
    | .live ⟨run, false⟩, .event _ _ | .live ⟨run, false⟩, .seedStatus _ _ _ =>
      fenced.runStep { run := run } input fenced.executing
    | _, _ => fenced
  | .deliver delivery policy submission =>
    match fenced.submitting, fenced.observations with
    | none, observation :: observations =>
      { fenced with observations := observations }.deliver observation delivery policy submission
    | _, _ => fenced

def machine : Machine FencedOwner FenceInput := ⟨step⟩

/-- Every whole-queue replacement advances the generation, which has room to advance; a run takes
    its identity while the submission it takes is the newest; and no stale `TrackChanged` that is
    delivered names a slot the queue holds. -/
def Fences (fenced : FencedOwner) : FenceInput → Prop
  | .turn event advances submission =>
    fenced.sequenceGeneration.toNat < u64Max ∧
      (event.replacesQueue = true → advances = true ∨
        ∃ accepted ∈ submission, accepted.items ≠ [])
  | .take _ => ∀ next ∈ fenced.commands.head?, submits next.1 = true → next.2 = fenced.era
  | .started _ => ∀ number ∈ fenced.phase.number?, number = fenced.era
  | .deliver _ _ _ =>
    fenced.sequenceGeneration.toNat < u64Max ∧
      ∀ observation ∈ fenced.observations.head?, ∀ slotId ∈ observation.event.changed?,
        observation.submission < fenced.era → slotId ∉ fenced.owner.queue.slotIds
  | _ => True

instance (fenced : FencedOwner) (input : FenceInput) : Decidable (fenced.Fences input) := by
  cases input <;> unfold Fences <;> infer_instance

def start (owner : PlayerOwnerState) (intents : PlaybackIntentState) : FencedOwner where
  owner := owner
  intents := intents

variable {fenced : FencedOwner}

theorem handleObservation_stale {event : PlayerEvent} {number : Nat}
    (level : fenced.sequenceGeneration.toNat = fenced.era) (stale : number < fenced.era)
    (labelled : ∀ label ∈ event.label?, label.toNat = number)
    (unheld : ∀ slotId ∈ event.changed?, slotId ∉ fenced.owner.queue.slotIds)
    (delivery : Delivery) (policy : ConsumePolicy) (submission : Option QueueSubmission) :
    fenced.handleObservation event delivery policy submission = fenced := by
  have retired (runIdentity : PlaybackGeneration) (own : runIdentity ∈ event.label?) :
      runIdentity ≠ fenced.sequenceGeneration := by
    rintro rfl
    have same := labelled _ own
    omega
  cases event with
  | trackChanged slotId transition =>
    have absent : fenced.owner.queue.slot slotId = none := Keyed.get_none.mpr (unheld slotId rfl)
    simp only [handleObservation, absent]
  | trackCompleted slotId runIdentity positionTicks played consume =>
    simp only [handleObservation, applyTrackCompletedObservation, if_neg (retired runIdentity rfl)]
  | stopped runIdentity outcome =>
    simp only [handleObservation, applyStoppedObservation, if_pos (retired runIdentity rfl)]
  | outputStarted => rfl
  | nextUpPlay => rfl
  | queueDesynced message => rfl
  | commandRejected message => rfl
  | mpvQuit => rfl

structure Sealed (fenced : FencedOwner) : Prop where
  level : fenced.sequenceGeneration.toNat = fenced.era
  phase : fenced.phase.LabelledBy fenced.executing
  observed : ∀ observation ∈ fenced.observations, ∀ label ∈ observation.event.label?,
    label.toNat = observation.submission
  labelled : ∀ entry ∈ fenced.labelled, entry.1.toNat = entry.2
  untouched : fenced.touched = []

theorem Sealed.executes (sound : fenced.Sealed) {run : PlaybackRun}
    (phase : fenced.phase = .live ⟨run, false⟩) : run.runIdentity.toNat = fenced.executing := by
  have labelled := sound.phase
  rw [phase] at labelled
  exact labelled rfl

theorem sealed_start (owner : PlayerOwnerState) (intents : PlaybackIntentState) : (start owner intents).Sealed where
  level := by simp [start]
  phase := trivial
  observed := by simp [start]
  labelled := by simp [start]
  untouched := rfl

theorem Sealed.submit (sound : fenced.Sealed) {advances replaces : Bool}
    {submission : Option QueueSubmission} (room : fenced.sequenceGeneration.toNat < u64Max)
    (advanced : replaces = true → advances = true ∨ ∃ accepted ∈ submission, accepted.items ≠ []) :
    (fenced.submit advances replaces submission).Sealed := by
  have level := sound.level
  refine ⟨?_, sound.phase, sound.observed, sound.labelled, sound.untouched⟩
  have succ := saturatingSucc_toNat fenced.sequenceGeneration
  have covered : replaces = true → (advances ||
      (submission.filter fun submission => !submission.items.isEmpty).isSome) = true := by
    intro replaced
    rcases advanced replaced with advances | ⟨accepted, member, some⟩
    · simp [advances]
    · rw [Option.mem_def] at member
      simp [member, Option.filter, some]
  unfold FencedOwner.submit
  dsimp only
  generalize (advances || (submission.filter fun submission => !submission.items.isEmpty).isSome) = moves at covered ⊢
  cases moves with
  | true =>
    simp only [if_true, Bool.true_or]
    omega
  | false =>
    have kept : replaces = false := by
      by_contra replaced
      cases covered (by simpa using replaced)
    simpa [kept] using level

theorem Sealed.own (sound : fenced.Sealed) (owner : PlayerOwnerState) (intents : PlaybackIntentState) :
    { fenced with owner := owner, intents := intents }.Sealed :=
  ⟨sound.level, sound.phase, sound.observed, sound.labelled, sound.untouched⟩

theorem Sealed.observe (sound : fenced.Sealed) {observations : List Observation}
    (own : ∀ observation ∈ observations, ∀ label ∈ observation.event.label?,
      label.toNat = observation.submission) : (fenced.observe observations).Sealed := by
  refine ⟨sound.level, sound.phase, fun observation member => ?_, fun entry member => ?_, sound.untouched⟩
  · rcases mem_append.mp member with before | sent
    · exact sound.observed observation before
    · exact own observation sent
  · rcases mem_append.mp member with before | sent
    · exact sound.labelled entry before
    · obtain ⟨observation, sentOne, labels⟩ := mem_filterMap.mp sent
      obtain ⟨label, carried, rfl⟩ := Option.map_eq_some_iff.mp labels
      exact own observation sentOne label carried

theorem Sealed.runStep (sound : fenced.Sealed) {run : PlaybackRun} {input : RunInput}
    {number : Nat} (own : (input.identityDuring run).toNat = number) :
    (fenced.runStep { run := run } input number).Sealed := by
  obtain ⟨more, sent, labelled, stays⟩ := RunThread.step_labels run input
  have stepped : { fenced with
      phase := .live (RunThread.step { run := run } input), executing := number }.Sealed := by
    refine ⟨sound.level, fun live => ?_, sound.observed, sound.labelled, sound.untouched⟩
    rw [stays live]
    exact own
  refine stepped.observe fun observation member label carried => ?_
  rw [sent, drop_left] at member
  obtain ⟨event, sentOne, rfl⟩ := mem_map.mp member
  rw [labelled event sentOne label carried]
  exact own

theorem Sealed.deliver (sound : fenced.Sealed) {observation : Observation}
    {observations : List Observation} (queued : fenced.observations = observation :: observations)
    (delivery : Delivery) (policy : ConsumePolicy) {submission : Option QueueSubmission}
    (fences : fenced.Fences (.deliver delivery policy submission)) :
    ({ fenced with observations := observations }.deliver observation delivery policy submission).Sealed := by
  have rest : { fenced with observations := observations }.Sealed := ⟨sound.level, sound.phase, fun other member =>
      sound.observed other (queued ▸ mem_cons_of_mem _ member), sound.labelled,
      sound.untouched⟩
  have handled : ({ fenced with observations := observations }.handleObservation observation.event
      delivery policy submission).Sealed := by
    unfold handleObservation
    split
    · split
      · exact rest
      · exact (rest.own _ _).submit fences.1 (by simp)
    · exact rest.own _ _
    · split
      · exact rest
      · exact rest.own _ _
    all_goals exact rest
  refine ⟨handled.level, handled.phase, handled.observed, handled.labelled, ?_⟩
  show (if _ then _ else _ : List Observation) = []
  split
  · rename_i touches
    refine absurd ⟨?_, ?_⟩ touches.2
    all_goals rw [handleObservation_stale rest.level touches.1 (sound.observed observation (queued ▸ mem_cons_self))
        fun slotId names => fences.2 observation (by rw [queued]; rfl) slotId names touches.1]
  · exact sound.untouched

theorem Sealed.step (sound : fenced.Sealed) {input : FenceInput} (fences : fenced.Fences input) :
    (fenced.step input).Sealed := by
  cases input with
  | turn event advances submission =>
    unfold FencedOwner.step
    dsimp only
    split
    · exact sound
    · exact (sound.own _ fenced.intents).submit fences.1 fences.2
  | intents next => exact sound.own fenced.owner next
  | send command =>
    unfold FencedOwner.step
    dsimp only
    split
    · exact sound
    · exact ⟨sound.level, sound.phase, sound.observed, sound.labelled, sound.untouched⟩
  | submitIntoLiveRun =>
    unfold FencedOwner.step
    dsimp only
    split
    · exact sound
    · exact ⟨sound.level, sound.phase, sound.observed, sound.labelled, sound.untouched⟩
  | coldStart =>
    have spawned (submission : QueueSubmission) : { fenced with
        submitting := none
        commands := []
        phase := .starting submission fenced.era fenced.sequenceGeneration }.Sealed :=
      ⟨sound.level, sound.level, sound.observed, sound.labelled, sound.untouched⟩
    unfold FencedOwner.step
    dsimp only
    split
    · exact spawned _
    · exact spawned _
    · exact sound
  | started init =>
    unfold FencedOwner.step
    dsimp only
    split
    · rename_i submission number _ phase
      have newest : number = fenced.era := fences number (by rw [phase]; rfl)
      split
      · rename_i run built
        refine ⟨sound.level, fun _ => ?_, sound.observed, sound.labelled, sound.untouched⟩
        have identity : run.runIdentity = fenced.sequenceGeneration := by
          obtain ⟨queue, -, begun⟩ := Option.bind_eq_some_iff.mp built
          obtain ⟨slot, -, rfl⟩ := Option.map_eq_some_iff.mp begun
          rfl
        rw [identity, newest]
        exact sound.level
      · exact ⟨sound.level, trivial, sound.observed, sound.labelled, sound.untouched⟩
    · exact sound
  | startupFailed error =>
    unfold FencedOwner.step
    dsimp only
    split
    · rename_i submission number runIdentity phase
      have gone : { fenced with phase := RunPhase.absent }.Sealed :=
        ⟨sound.level, trivial, sound.observed, sound.labelled, sound.untouched⟩
      have minted := sound.phase
      rw [phase] at minted
      refine gone.observe fun observation member label carried => ?_
      rw [mem_singleton.mp member] at carried ⊢
      cases carried
      exact minted
    · exact sound
  | take answers =>
    unfold FencedOwner.step
    dsimp only
    split
    · rename_i run command number commands phase queued
      have popped : { fenced with commands := commands }.Sealed :=
        ⟨sound.level, sound.phase, sound.observed, sound.labelled, sound.untouched⟩
      refine popped.runStep ?_
      by_cases submitted : submits command = true
      · have newest : number = fenced.era := fences (command, number) (by rw [queued]; rfl) submitted
        rw [if_pos submitted, newest, ← sound.level]
        cases command with
        | submitQueue items startIdx =>
          have some : items.isEmpty = false := by simpa [submits] using submitted
          simp [RunInput.identityDuring, PlayerCommand.identityDuring, some, shared]
        | _ => cases submitted
      · rw [if_neg submitted, ← sound.executes phase]
        cases command with
        | submitQueue items startIdx =>
          have empty : items.isEmpty = true := by simpa [submits] using submitted
          simp [RunInput.identityDuring, PlayerCommand.identityDuring, empty, shared]
        | _ => rfl
    · exact sound
  | run input =>
    unfold FencedOwner.step
    dsimp only
    split
    · rename_i run _ phase
      exact sound.runStep (sound.executes phase)
    · rename_i run _ phase
      exact sound.runStep (sound.executes phase)
    · rename_i run _ _ phase
      exact sound.runStep (sound.executes phase)
    · rename_i run _ _ _ phase
      exact sound.runStep (sound.executes phase)
    · exact sound
  | deliver delivery policy submission =>
    unfold FencedOwner.step
    dsimp only
    split
    · rename_i observation observations _ queued
      exact sound.deliver queued delivery policy fences
    · exact sound

/-- No event of a replaced submission changes the owner, and no two submissions share a label, in
    any run whose steps all keep the fence. -/
theorem replaced_submissions_stay_apart {owner : PlayerOwnerState} {intents : PlaybackIntentState}
    {inputs : List FenceInput} (fences : machine.Along Fences (start owner intents) inputs) :
    let reached := machine.run (start owner intents) inputs
    reached.touched = [] ∧ ∀ first ∈ reached.labelled, ∀ second ∈ reached.labelled,
      first.1 = second.1 → first.2 = second.2 := by
  have sound : (machine.run (start owner intents) inputs).Sealed :=
    @Machine.run_invariant _ _ machine Sealed Fences
      (fun _ _ sound fences => Sealed.step sound fences) _ _ (sealed_start owner intents) fences
  refine ⟨sound.untouched, fun first former second latter same => ?_⟩
  rw [← sound.labelled first former, ← sound.labelled second latter, same]

def threeFilms : List QueueItem :=
  ["a", "b", "c"].map fun id =>
    .emby ⟨id, id, "Movie", "Video", 1000, false, 500, "", 0, 0, ""⟩

def oneBook : List QueueItem := [.audiobookshelf (.book ⟨"d", "d", none, 20, false, false, ""⟩)]

def numbered (items : List QueueItem) : QueueSubmission where
  items := items.mapIdx fun index item => ⟨⟨(index + 1).toUInt64⟩, item⟩
  startIdx := 0

def films : FenceInput := .turn (.websocketPlay threeFilms 0) false (some (numbered threeFilms))

def filmsRunning : List FenceInput := [films, .coldStart, .started { startIdx := 0, origin := .queue }]

/-- The films play twice over, and the first run of them advanced before it was replaced. -/
theorem replaced_submissions_stay_apart_at_replay :
    let reached := machine.run (start (.new (.fromQueueItems [] none 0)) {})
      (filmsRunning ++ [.run (.event {} (.endFile .eof)), .deliver .liveRun {} none,
        .deliver .liveRun {} none, films, .submitIntoLiveRun, .take {},
        .run (.event {} (.endFile .eof)), .deliver .liveRun {} none])
    reached.touched = [] ∧ ∀ first ∈ reached.labelled, ∀ second ∈ reached.labelled,
      first.1 = second.1 → first.2 = second.2 :=
  replaced_submissions_stay_apart (by decide)

def book : FenceInput :=
  .turn (.playResolved oneBook 0 none) false (some (numbered oneBook))

/-- The films are played again while the first run's advance is on its way, which moves the new
    queue to its second slot. A book that cannot load and the films once more are then submitted
    before the run reads either: both report under one identity, and the book's stop is recorded in
    the films. -/
theorem replaced_submission_moves_owner :
    let replayed := machine.run (start (.new (.fromQueueItems [] none 0)) {})
      (filmsRunning ++ [.run (.event {} (.endFile .eof)), films, .submitIntoLiveRun,
        .deliver .liveRun {} none, .deliver .liveRun {} none])
    let reached := machine.run replayed [.take {}, book, .submitIntoLiveRun, films,
      .submitIntoLiveRun, .take { prepareSource := some "unavailable" }, .take {},
      .run (.event {} (.endFile .stop)), .run (.event {} (.endFile .eof)),
      .deliver .liveRun {} none]
    replayed.touched = [⟨.trackChanged ⟨2⟩ none, 1⟩] ∧
      replayed.owner.observedActiveSlot = some ⟨2⟩ ∧
      replayed.owner.queue.activeSlotId = some ⟨2⟩ ∧
      reached.labelled = [(1, 1), (4, 3), (4, 4)] ∧
      reached.touched.map (·.submission) = [1, 3] ∧
      (reached.owner.queue.slot ⟨1⟩).map (·.item.playbackPositionTicks) = some 20 := by
  decide

end FencedOwner

end Mbv.Daemon
