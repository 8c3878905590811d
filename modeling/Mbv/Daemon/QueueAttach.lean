import Mbv.Daemon.QueueCommands
import Mbv.Player.Run.State
import Mbv.Machine.Run

namespace Mbv.Daemon

open Mbv.Queue Mbv.Player List

/-! ### What a peer is shown -/

structure UnifiedQueueSlot where
  slotId : QueueSlotId
  item : QueueItem
deriving DecidableEq

structure TransitionSummary where
  requestId : PlaybackRequestId
  generation : PlaybackGeneration
  targetSlot : QueueSlotId
deriving DecidableEq

def transitionSummary (transition : Transition) : TransitionSummary :=
  ⟨transition.requestId, transition.generation, transition.target⟩

abbrev TransitionSummaries := Option TransitionSummary × Option TransitionSummary

def summaries (transitions : OwnerTransitionState) : TransitionSummaries :=
  (transitions.inFlight.map transitionSummary, transitions.queuedLatest.map transitionSummary)

structure UnifiedQueueState where
  status : PlayerStatus
  slots : List UnifiedQueueSlot
  activeSlot : Option QueueSlotId
  revision : UInt64
  source : QueueSource
  lineage : QueueLineage
  inFlightTransition : Option TransitionSummary
  queuedLatestTransition : Option TransitionSummary

def QueueTransport.carries (transport : QueueTransport) : QueueItem → Bool
  | .audiobookshelf (.episode _) => transport.absEpisode
  | .audiobookshelf (.book _) => transport.absBook
  | .twitch _ => transport.twitch
  | .emby _ | .feed _ => true

/-- An active player that reported no slot yet plays the queue's own active slot. -/
def unifiedQueueStateForPeer (status : PlayerStatus) (queue : PlaybackQueue)
    (source : QueueSource) (lineage : QueueLineage) (observedActiveSlot : Option QueueSlotId)
    (transitions : TransitionSummaries) (transport : QueueTransport) : UnifiedQueueState :=
  let slots := (queue.slots.filter fun slot => transport.carries slot.item).map fun slot =>
    { slotId := slot.slotId, item := slot.item }
  let activeSlot := observedActiveSlot.or (if status.active then queue.activeSlotId else none)
  { status := status
    slots := slots
    activeSlot := activeSlot.filter fun active => slots.any fun slot => slot.slotId = active
    revision := queue.revision
    source := source
    lineage := lineage
    inFlightTransition := transitions.1
    queuedLatestTransition := transitions.2 }

/-! ### The shared queue state, cell by cell -/

structure Stamped (α : Type) where
  value : α
  change : Nat

structure SharedQueueState where
  status : PlayerStatus
  queue : Stamped PlaybackQueue
  source : Stamped QueueSource
  observedActiveSlot : Stamped (Option QueueSlotId)
  lineage : Stamped QueueLineage

namespace SharedQueueState

def shownTo (shared : SharedQueueState) (transport : QueueTransport)
    (transitions : TransitionSummaries) : UnifiedQueueState :=
  unifiedQueueStateForPeer shared.status shared.queue.value shared.source.value
    shared.lineage.value shared.observedActiveSlot.value transitions transport

structure NotOlder (earlier later : SharedQueueState) : Prop where
  queue : earlier.queue.change ≤ later.queue.change
  source : earlier.source.change ≤ later.source.change
  observed : earlier.observedActiveSlot.change ≤ later.observedActiveSlot.change
  lineage : earlier.lineage.change ≤ later.lineage.change

theorem NotOlder.refl (shared : SharedQueueState) : shared.NotOlder shared :=
  ⟨Nat.le_refl _, Nat.le_refl _, Nat.le_refl _, Nat.le_refl _⟩

theorem NotOlder.trans {first second third : SharedQueueState} (before : first.NotOlder second)
    (after : second.NotOlder third) : first.NotOlder third :=
  ⟨before.queue.trans after.queue, before.source.trans after.source,
    before.observed.trans after.observed, before.lineage.trans after.lineage⟩

end SharedQueueState

/-! ### The two threads -/

/-- What the event loop does to the shared state for one change, a lock each. -/
inductive PublishStep where
  | mintLineage
  | publishObserved
  | broadcast
  | writeQueue
  | writeSource
deriving DecidableEq

/-- A change of the owner: what it leaves, and whether it noted the observed slot anew, installed a
    queue of its own, or purged a service's slots. -/
structure OwnerChange where
  queue : PlaybackQueue
  source : QueueSource
  transitions : OwnerTransitionState
  observed : Option (Option QueueSlotId)
  installs : Bool
  purges : Bool

def OwnerChange.program (change : OwnerChange) : List PublishStep :=
  (if change.installs then [.mintLineage] else []) ++
    ((if change.observed.isSome then [.publishObserved] else []) ++
      ((if change.purges then [.writeQueue, .writeSource] else []) ++
        [.broadcast, .writeQueue, .writeSource]))

inductive HandshakePhase where
  | connected
  | helloRead
  | statusRead
  | queueRead
  | sourceRead
  | observedRead
  | snapshotTaken
  | registryLocked
  | admitted
  | stateSent
  | registered
  | refused
deriving DecidableEq

namespace HandshakePhase

/-- The snapshot is begun and the registry not yet locked. -/
def reading : HandshakePhase → Bool
  | queueRead | sourceRead | observedRead | snapshotTaken => true
  | _ => false

def holdsRegistry : HandshakePhase → Bool
  | registryLocked | admitted | stateSent => true
  | _ => false

def hasQueue : HandshakePhase → Bool
  | queueRead | sourceRead | observedRead | snapshotTaken | registryLocked | admitted
  | stateSent => true
  | _ => false

def hasSource : HandshakePhase → Bool
  | sourceRead | observedRead | snapshotTaken | registryLocked | admitted | stateSent => true
  | _ => false

def hasObserved : HandshakePhase → Bool
  | observedRead | snapshotTaken | registryLocked | admitted | stateSent => true
  | _ => false

def hasLineage : HandshakePhase → Bool
  | snapshotTaken | registryLocked | admitted | stateSent => true
  | _ => false

def seeded : HandshakePhase → Bool
  | stateSent | registered => true
  | _ => false

theorem unread {phase : HandshakePhase} (free : phase.holdsRegistry = false)
    (closed : phase.reading = false) : phase.hasQueue = false ∧ phase.hasSource = false ∧
      phase.hasObserved = false ∧ phase.hasLineage = false := by
  cases phase <;> simp_all [holdsRegistry, reading, hasQueue, hasSource, hasObserved, hasLineage]

end HandshakePhase

structure ReceivedState where
  state : UnifiedQueueState
  madeFrom : SharedQueueState

structure AttachState where
  core : PlayerOwnerState
  source : QueueSource
  changes : Nat := 0
  /-- What the change in hand has still to do. -/
  remaining : List PublishStep := []
  shared : SharedQueueState
  transport : QueueTransport
  phase : HandshakePhase := .connected
  snapshot : SharedQueueState
  received : List ReceivedState := []

inductive AttachInput where
  | changes (change : OwnerChange)
  | publishes
  | statusMoves (status : PlayerStatus)
  | handshakes (admits : Bool)

namespace AttachState

variable (s : AttachState)

/-- An owner at rest, with a Client whose hello is not read yet. -/
def start (core : PlayerOwnerState) (source : QueueSource) (lineage : QueueLineage)
    (status : PlayerStatus) (transport : QueueTransport) : AttachState :=
  let shared : SharedQueueState :=
    ⟨status, ⟨core.queue, 0⟩, ⟨source, 0⟩, ⟨core.observedActiveSlot, 0⟩, ⟨lineage, 0⟩⟩
  { core := core, source := source, shared := shared, transport := transport, snapshot := shared }

/-- What a broadcast shows: the owner's own queue and source with the shared cells. -/
def live : SharedQueueState :=
  { s.shared with queue := ⟨s.core.queue, s.changes⟩, source := ⟨s.source, s.changes⟩ }

def receive (shown : SharedQueueState) (transitions : TransitionSummaries) : AttachState :=
  { s with received := s.received ++ [⟨shown.shownTo s.transport transitions, shown⟩] }

def begin (change : OwnerChange) : AttachState :=
  match s.remaining with
  | [] =>
    { s with
      core :=
        { queue := change.queue
          observedActiveSlot := change.observed.getD s.core.observedActiveSlot
          transitions := change.transitions }
      source := change.source
      changes := s.changes + 1
      remaining := change.program }
  | _ :: _ => s

def broadcastQueueState : AttachState :=
  if s.phase = .registered then s.receive s.live (summaries s.core.transitions) else s

def perform : PublishStep → AttachState
  | .mintLineage =>
    { s with shared := { s.shared with lineage := ⟨s.shared.lineage.value + 1, s.changes⟩ } }
  | .publishObserved =>
    { s with shared :=
        { s.shared with observedActiveSlot := ⟨s.core.observedActiveSlot, s.changes⟩ } }
  | .broadcast => s.broadcastQueueState
  | .writeQueue => { s with shared := { s.shared with queue := ⟨s.core.queue, s.changes⟩ } }
  | .writeSource => { s with shared := { s.shared with source := ⟨s.source, s.changes⟩ } }

/-- The event loop's next step; a broadcast waits for the registry. -/
def publish : AttachState :=
  match s.remaining with
  | [] => s
  | next :: rest =>
    if next = .broadcast ∧ s.phase.holdsRegistry = true then s
    else { s.perform next with remaining := rest }

/-- The connecting thread's next step. The snapshot shows no transitions. -/
def handshake (admits : Bool) : AttachState :=
  match s.phase with
  | .connected => { s with phase := .helloRead }
  | .helloRead =>
    { s with phase := .statusRead, snapshot := { s.snapshot with status := s.shared.status } }
  | .statusRead =>
    { s with phase := .queueRead, snapshot := { s.snapshot with queue := s.shared.queue } }
  | .queueRead =>
    { s with phase := .sourceRead, snapshot := { s.snapshot with source := s.shared.source } }
  | .sourceRead =>
    { s with
      phase := .observedRead
      snapshot := { s.snapshot with observedActiveSlot := s.shared.observedActiveSlot } }
  | .observedRead =>
    { s with phase := .snapshotTaken, snapshot := { s.snapshot with lineage := s.shared.lineage } }
  | .snapshotTaken => { s with phase := .registryLocked }
  | .registryLocked => { s with phase := if admits then .admitted else .refused }
  | .admitted => { s.receive s.snapshot (none, none) with phase := .stateSent }
  | .stateSent => { s with phase := .registered }
  | .registered | .refused => s

def machine : Machine AttachState AttachInput where
  step s
    | .changes change => s.begin change
    | .publishes => s.publish
    | .statusMoves status => { s with shared := { s.shared with status := status } }
    | .handshakes admits => s.handshake admits

/-! ### The law -/

def currentState (status : PlayerStatus) : UnifiedQueueState :=
  unifiedQueueStateForPeer status s.core.queue s.source s.shared.lineage.value
    s.core.observedActiveSlot (summaries s.core.transitions) s.transport

/-- At rest, a registered Client was last sent the owner's current state. -/
def NothingLost : Prop :=
  s.phase = .registered → s.remaining = [] →
    ∃ last, s.received.getLast? = some last ∧ last.state = s.currentState last.state.status

def NeverOlder : Prop :=
  s.received.Pairwise fun earlier later => earlier.madeFrom.NotOlder later.madeFrom

/-- Nothing is broadcast between the snapshot and the registration; the shared queue and source are
    read when no change that was broadcast has still to write them; and a Client that is registered
    with no broadcast to come finds no transition pending. -/
def Undisturbed : AttachInput → Prop
  | .publishes => s.remaining.head? = some .broadcast → s.phase.reading = false
  | .handshakes _ =>
    (s.phase = .statusRead → .writeQueue ∈ s.remaining → .broadcast ∈ s.remaining) ∧
      (s.phase = .queueRead → .writeSource ∈ s.remaining → .broadcast ∈ s.remaining) ∧
      (s.phase = .stateSent →
        .broadcast ∈ s.remaining ∨ summaries s.core.transitions = (none, none))
  | .changes _ | .statusMoves _ => True

instance (input : AttachInput) : Decidable (s.Undisturbed input) := by
  cases input <;> unfold Undisturbed <;> infer_instance

end AttachState

/-! ### Programs of changes -/

namespace PublishStep

/-- Minted and published before they are broadcast, and not after. -/
def Ordered : List PublishStep → Prop
  | [] => True
  | .mintLineage :: rest | .publishObserved :: rest => .broadcast ∈ rest ∧ Ordered rest
  | .broadcast :: rest => .mintLineage ∉ rest ∧ .publishObserved ∉ rest ∧ Ordered rest
  | .writeQueue :: rest | .writeSource :: rest => Ordered rest

theorem Ordered.awaits {steps : List PublishStep} (ordered : Ordered steps)
    (unsaid : .broadcast ∉ steps) : .mintLineage ∉ steps ∧ .publishObserved ∉ steps := by
  induction steps with
  | nil => exact ⟨not_mem_nil, not_mem_nil⟩
  | cons step rest ih =>
    have later := fun member => unsaid (mem_cons_of_mem step member)
    cases step with
    | mintLineage => exact absurd ordered.1 later
    | publishObserved => exact absurd ordered.1 later
    | broadcast => exact absurd mem_cons_self unsaid
    | writeQueue => simpa using ih ordered later
    | writeSource => simpa using ih ordered later

theorem Ordered.tail {step : PublishStep} {rest : List PublishStep} (ordered : Ordered (step :: rest)) : Ordered rest := by
  cases step with
  | mintLineage => exact ordered.2
  | publishObserved => exact ordered.2
  | broadcast => exact ordered.2.2
  | writeQueue => exact ordered
  | writeSource => exact ordered

end PublishStep

namespace OwnerChange

variable (change : OwnerChange)

theorem program_ordered : PublishStep.Ordered change.program := by
  obtain ⟨_, _, _, observed, installs, purges⟩ := change
  cases observed <;> cases installs <;> cases purges <;> simp [program, PublishStep.Ordered]

theorem program_mem : .broadcast ∈ change.program ∧ .writeQueue ∈ change.program ∧ .writeSource ∈ change.program := by
  simp [program]

theorem program_publishes (unpublished : .publishObserved ∉ change.program) : change.observed = none := by
  cases noted : change.observed with
  | none => rfl
  | some slot => simp [program, noted] at unpublished

end OwnerChange

namespace AttachState

variable {s : AttachState}

/-! ### The owner's cells -/

/-- A cell that the change in hand no longer has to write holds what the owner has. -/
structure Published (s : AttachState) : Prop where
  ordered : PublishStep.Ordered s.remaining
  queue : .writeQueue ∉ s.remaining → s.shared.queue.value = s.core.queue
  source : .writeSource ∉ s.remaining → s.shared.source.value = s.source
  observed : .publishObserved ∉ s.remaining →
    s.shared.observedActiveSlot.value = s.core.observedActiveSlot

theorem start_published (core : PlayerOwnerState) (source : QueueSource) (lineage : QueueLineage)
    (status : PlayerStatus) (transport : QueueTransport) :
    Published (start core source lineage status transport) where
  ordered := trivial
  queue _ := rfl
  source _ := rfl
  observed _ := rfl

theorem Published.begin (published : Published s) (change : OwnerChange) : Published (s.begin change) := by
  unfold AttachState.begin
  split
  · rename_i done
    obtain ⟨-, queues, sources⟩ := change.program_mem
    refine ⟨change.program_ordered, fun spared => absurd queues spared, fun spared => absurd sources spared, fun spared => ?_⟩
    show s.shared.observedActiveSlot.value = change.observed.getD s.core.observedActiveSlot
    rw [change.program_publishes spared]
    exact published.observed (done ▸ not_mem_nil)
  · exact published

@[simp] theorem broadcastQueueState_core : s.broadcastQueueState.core = s.core := by
  unfold AttachState.broadcastQueueState
  split <;> rfl

@[simp] theorem broadcastQueueState_source : s.broadcastQueueState.source = s.source := by
  unfold AttachState.broadcastQueueState
  split <;> rfl

@[simp] theorem broadcastQueueState_shared : s.broadcastQueueState.shared = s.shared := by
  unfold AttachState.broadcastQueueState
  split <;> rfl

theorem Published.publish (published : Published s) : Published s.publish := by
  unfold AttachState.publish
  split
  · exact published
  · rename_i next rest steps
    split
    · exact published
    · have ordered : PublishStep.Ordered rest := (steps ▸ published.ordered).tail
      have queue := published.queue
      have source := published.source
      have observed := published.observed
      rw [steps] at queue source observed
      cases next with
      | mintLineage =>
        exact ⟨ordered, fun spared => queue (by simp [spared]),
          fun spared => source (by simp [spared]), fun spared => observed (by simp [spared])⟩
      | publishObserved =>
        exact ⟨ordered, fun spared => queue (by simp [spared]), fun spared => source (by simp [spared]), fun _ => rfl⟩
      | broadcast =>
        refine ⟨ordered, fun spared => ?_, fun spared => ?_, fun spared => ?_⟩
        · simpa [perform] using queue (by simp [spared])
        · simpa [perform] using source (by simp [spared])
        · simpa [perform] using observed (by simp [spared])
      | writeQueue =>
        exact ⟨ordered, fun _ => rfl, fun spared => source (by simp [spared]), fun spared => observed (by simp [spared])⟩
      | writeSource =>
        exact ⟨ordered, fun spared => queue (by simp [spared]), fun _ => rfl, fun spared => observed (by simp [spared])⟩

theorem handshake_owner (admits : Bool) : (s.handshake admits).core = s.core ∧ (s.handshake admits).source = s.source ∧
      (s.handshake admits).shared = s.shared ∧ (s.handshake admits).remaining = s.remaining ∧
      (s.handshake admits).changes = s.changes ∧
      (s.handshake admits).transport = s.transport := by
  unfold handshake
  split <;> exact ⟨rfl, rfl, rfl, rfl, rfl, rfl⟩

theorem Published.handshake (published : Published s) (admits : Bool) : Published (s.handshake admits) := by
  obtain ⟨core, source, shared, remaining, -, -⟩ := @handshake_owner s admits
  refine ⟨?_, ?_, ?_, ?_⟩
  · rw [remaining]
    exact published.ordered
  · rw [remaining, shared, core]
    exact published.queue
  · rw [remaining, shared, source]
    exact published.source
  · rw [remaining, shared, core]
    exact published.observed

theorem Published.step (published : Published s) (input : AttachInput) : Published (machine.step s input) := by
  cases input with
  | changes change => exact published.begin change
  | publishes => exact published.publish
  | statusMoves status =>
    exact ⟨published.ordered, published.queue, published.source, published.observed⟩
  | handshakes admits => exact published.handshake admits

/-! ### The snapshot and what the Client was last sent -/

structure Snapshotted (s : AttachState) : Prop where
  queue : s.phase.hasQueue = true → s.snapshot.queue.value = s.core.queue
  source : s.phase.hasSource = true → s.snapshot.source.value = s.source
  observed : s.phase.hasObserved = true →
    s.snapshot.observedActiveSlot.value = s.core.observedActiveSlot
  lineage : s.phase.hasLineage = true → s.snapshot.lineage.value = s.shared.lineage.value

def SentLast (s : AttachState) (P : UnifiedQueueState → Prop) : Prop :=
  ∃ last, s.received.getLast? = some last ∧ P last.state

/-- With no broadcast to come, the snapshot is current; the initial state is the snapshot; and a
    registered Client with no broadcast to come has the owner's current state. -/
structure Following (s : AttachState) : Prop where
  published : Published s
  snapshot : .broadcast ∉ s.remaining → Snapshotted s
  seed : s.phase = .stateSent →
    s.SentLast (· = s.snapshot.shownTo s.transport (none, none))
  current : s.phase = .registered → .broadcast ∉ s.remaining →
    s.SentLast fun state => state = s.currentState state.status

theorem start_following (core : PlayerOwnerState) (source : QueueSource) (lineage : QueueLineage)
    (status : PlayerStatus) (transport : QueueTransport) :
    Following (start core source lineage status transport) where
  published := start_published core source lineage status transport
  snapshot _ := ⟨nofun, nofun, nofun, nofun⟩
  seed := nofun
  current := fun none => by cases none

theorem Following.begin (following : Following s) (change : OwnerChange) : Following (s.begin change) := by
  have published := following.published.begin change
  unfold AttachState.begin at published ⊢
  split at published
  · have broadcasts := change.program_mem.1
    exact ⟨published, fun unsaid => absurd broadcasts unsaid, following.seed, fun _ unsaid => absurd broadcasts unsaid⟩
  · exact following

theorem Following.status (following : Following s) (status : PlayerStatus) :
    Following { s with shared := { s.shared with status := status } } where
  published := following.published.step (.statusMoves status)
  snapshot unsaid := have current := following.snapshot unsaid
    ⟨current.queue, current.source, current.observed, current.lineage⟩
  seed := following.seed
  current := following.current

variable {transitions : TransitionSummaries}

theorem shownTo_eq {shared : SharedQueueState} {transport : QueueTransport}
    (queue : shared.queue.value = s.core.queue) (source : shared.source.value = s.source)
    (observed : shared.observedActiveSlot.value = s.core.observedActiveSlot)
    (lineage : shared.lineage.value = s.shared.lineage.value) (carried : transport = s.transport)
    (pending : transitions = summaries s.core.transitions) :
    shared.shownTo transport transitions = s.currentState shared.status := by
  unfold SharedQueueState.shownTo currentState
  rw [queue, source, observed, lineage, carried, pending]

theorem currentState_slots (status : PlayerStatus) : (s.currentState status).slots = (s.currentState {}).slots := rfl

theorem shownTo_status {shared : SharedQueueState} {transport : QueueTransport} :
    (shared.shownTo transport transitions).status = shared.status := rfl

theorem Snapshotted.of_unread (free : s.phase.holdsRegistry = false) (closed : s.phase.reading = false) : Snapshotted s := by
  obtain ⟨queue, source, observed, lineage⟩ := HandshakePhase.unread free closed
  exact ⟨fun has => absurd (queue.symm.trans has) Bool.false_ne_true,
    fun has => absurd (source.symm.trans has) Bool.false_ne_true,
    fun has => absurd (observed.symm.trans has) Bool.false_ne_true,
    fun has => absurd (lineage.symm.trans has) Bool.false_ne_true⟩

/-- A broadcast leaves a registered Client with the current state, and finds no snapshot open. -/
theorem Following.broadcast (following : Following s) {rest : List PublishStep}
    (steps : s.remaining = .broadcast :: rest) (free : s.phase.holdsRegistry = false)
    (closed : s.phase.reading = false)
    (published : Published { s.perform .broadcast with remaining := rest }) :
    Following { s.perform .broadcast with remaining := rest } := by
  have ordered := following.published.ordered
  rw [steps] at ordered
  have observed : s.shared.observedActiveSlot.value = s.core.observedActiveSlot :=
    following.published.observed (by simp [steps, ordered.2.1])
  by_cases registered : s.phase = .registered
  · have received : s.perform .broadcast = s.receive s.live (summaries s.core.transitions) := if_pos registered
    rw [received] at published ⊢
    refine ⟨published, fun _ => .of_unread free closed, fun sent => ?_, fun _ _ => ?_⟩
    · exact absurd (registered.symm.trans sent) (by simp)
    · refine ⟨_, List.getLast?_concat, ?_⟩
      exact @shownTo_eq s _ _ _ rfl rfl observed rfl rfl rfl
  · have unheard : s.perform .broadcast = s := if_neg registered
    rw [unheard] at published ⊢
    exact ⟨published, fun _ => .of_unread free closed, following.seed, fun reached => absurd reached registered⟩

theorem Following.write (following : Following s) {next : PublishStep} {rest : List PublishStep}
    (steps : s.remaining = next :: rest) (writes : next ≠ .broadcast)
    (published : Published { s.perform next with remaining := rest }) :
    Following { s.perform next with remaining := rest } := by
  have ordered := following.published.ordered
  rw [steps] at ordered
  have unsaid : .broadcast ∉ rest → .broadcast ∉ s.remaining := fun unsaid => by
    rw [steps]
    simp [unsaid, writes.symm]
  cases next with
  | broadcast => exact absurd rfl writes
  | mintLineage =>
    exact ⟨published, fun silent => absurd ordered.1 silent, following.seed, fun _ silent => absurd ordered.1 silent⟩
  | publishObserved =>
    exact ⟨published, fun silent => absurd ordered.1 silent, following.seed, fun _ silent => absurd ordered.1 silent⟩
  | writeQueue =>
    refine ⟨published, fun silent => ?_, following.seed, fun registered silent => following.current registered (unsaid silent)⟩
    have current := following.snapshot (unsaid silent)
    exact ⟨current.queue, current.source, current.observed, current.lineage⟩
  | writeSource =>
    refine ⟨published, fun silent => ?_, following.seed, fun registered silent => following.current registered (unsaid silent)⟩
    have current := following.snapshot (unsaid silent)
    exact ⟨current.queue, current.source, current.observed, current.lineage⟩

theorem Following.publish (following : Following s) (undisturbed : s.Undisturbed .publishes) : Following s.publish := by
  have published := following.published.publish
  unfold AttachState.publish at published ⊢
  split at published
  · exact following
  · rename_i next rest steps
    split at published
    · rename_i blocked
      rw [if_pos blocked]
      exact following
    · rename_i unblocked
      rw [if_neg unblocked]
      by_cases broadcasts : next = .broadcast
      · subst broadcasts
        have free : s.phase.holdsRegistry = false := by
          cases holds : s.phase.holdsRegistry with
          | false => rfl
          | true => exact absurd ⟨rfl, holds⟩ unblocked
        exact following.broadcast steps free (undisturbed (by rw [steps]; rfl)) published
      · exact following.write steps broadcasts published

theorem Following.taken (following : Following s) (taken : s.phase.hasLineage = true) (phase : HandshakePhase)
    (unsaid : .broadcast ∉ s.remaining) : Snapshotted { s with phase := phase } := by
  have current := following.snapshot unsaid
  have read : s.phase.hasQueue = true ∧ s.phase.hasSource = true ∧ s.phase.hasObserved = true := by
    generalize s.phase = before at taken
    revert taken
    cases before <;> decide
  exact ⟨fun _ => current.queue read.1, fun _ => current.source read.2.1, fun _ => current.observed read.2.2,
    fun _ => current.lineage taken⟩

theorem Following.handshake (following : Following s) (admits : Bool)
    (undisturbed : s.Undisturbed (.handshakes admits)) : Following (s.handshake admits) := by
  have published := following.published.handshake admits
  obtain ⟨ofQueue, ofSource, ofTransitions⟩ := undisturbed
  have awaits := following.published.ordered.awaits
  unfold AttachState.handshake at published ⊢
  cases phase : s.phase with
  | connected =>
    rw [phase] at published
    exact ⟨published, fun _ => ⟨nofun, nofun, nofun, nofun⟩, by simp, by simp⟩
  | helloRead =>
    rw [phase] at published
    exact ⟨published, fun _ => ⟨nofun, nofun, nofun, nofun⟩, by simp, by simp⟩
  | statusRead =>
    rw [phase] at published
    refine ⟨published, fun unsaid => ⟨fun _ => ?_, nofun, nofun, nofun⟩, by simp, by simp⟩
    exact following.published.queue fun writes => unsaid (ofQueue phase writes)
  | queueRead =>
    rw [phase] at published
    refine ⟨published, fun unsaid => ?_, by simp, by simp⟩
    have current := following.snapshot unsaid
    refine ⟨fun _ => current.queue (by rw [phase]; rfl), fun _ => ?_, nofun, nofun⟩
    exact following.published.source fun writes => unsaid (ofSource phase writes)
  | sourceRead =>
    rw [phase] at published
    refine ⟨published, fun unsaid => ?_, by simp, by simp⟩
    have current := following.snapshot unsaid
    refine ⟨fun _ => current.queue (by rw [phase]; rfl), fun _ => current.source (by rw [phase]; rfl),
      fun _ => following.published.observed (awaits unsaid).2, nofun⟩
  | observedRead =>
    rw [phase] at published
    refine ⟨published, fun unsaid => ?_, by simp, by simp⟩
    have current := following.snapshot unsaid
    exact ⟨fun _ => current.queue (by rw [phase]; rfl), fun _ => current.source (by rw [phase]; rfl),
      fun _ => current.observed (by rw [phase]; rfl), fun _ => rfl⟩
  | snapshotTaken =>
    rw [phase] at published
    exact ⟨published, following.taken (by rw [phase]; rfl) _, by simp, by simp⟩
  | registryLocked =>
    rw [phase] at published
    cases admits with
    | false => exact ⟨published, fun _ => ⟨nofun, nofun, nofun, nofun⟩, by simp, by simp⟩
    | true => exact ⟨published, following.taken (by rw [phase]; rfl) _, by simp, by simp⟩
  | admitted =>
    rw [phase] at published
    refine ⟨published, fun unsaid => ?_, fun _ => ⟨_, List.getLast?_concat, rfl⟩, by simp⟩
    have kept := following.taken (by rw [phase]; rfl) .stateSent unsaid
    exact ⟨kept.queue, kept.source, kept.observed, kept.lineage⟩
  | stateSent =>
    rw [phase] at published
    refine ⟨published, fun _ => ⟨nofun, nofun, nofun, nofun⟩, by simp, fun _ unsaid => ?_⟩
    obtain ⟨last, sent, shown⟩ := following.seed phase
    have current := following.snapshot unsaid
    have pending := (ofTransitions phase).resolve_left unsaid
    refine ⟨last, sent, ?_⟩
    dsimp only at shown ⊢
    rw [shown, shownTo_status]
    exact @shownTo_eq s _ _ _ (current.queue (by rw [phase]; rfl))
      (current.source (by rw [phase]; rfl)) (current.observed (by rw [phase]; rfl))
      (current.lineage (by rw [phase]; rfl)) rfl pending.symm
  | registered => exact following
  | refused => exact following

theorem Following.step (following : Following s) (input : AttachInput)
    (undisturbed : s.Undisturbed input) : Following (machine.step s input) := by
  cases input with
  | changes change => exact following.begin change
  | publishes => exact following.publish undisturbed
  | statusMoves status => exact following.status status
  | handshakes admits => exact following.handshake admits undisturbed

theorem Following.nothingLost (following : Following s) : s.NothingLost := by
  intro registered done
  exact following.current registered (done ▸ not_mem_nil)

/-! ### What was missed is made good -/

theorem registered_undisturbed (registered : s.phase = .registered) (input : AttachInput) : s.Undisturbed input := by
  cases input with
  | changes | statusMoves => trivial
  | publishes => exact fun _ => by rw [registered]; rfl
  | handshakes => refine ⟨?_, ?_, ?_⟩ <;> exact fun other => by cases registered.symm.trans other

theorem registered_stays (registered : s.phase = .registered) (input : AttachInput) :
    (machine.step s input).phase = .registered := by
  cases input with
  | changes change =>
    show (s.begin change).phase = _
    unfold AttachState.begin
    split <;> exact registered
  | publishes =>
    show s.publish.phase = _
    unfold AttachState.publish
    split
    · exact registered
    · rename_i next rest steps
      split
      · exact registered
      · cases next with
        | broadcast => simp [perform, broadcastQueueState, registered, receive]
        | _ => exact registered
  | statusMoves => exact registered
  | handshakes admits =>
    show (s.handshake admits).phase = _
    unfold AttachState.handshake
    rw [registered]
    exact registered

/-- Once a broadcast is to come to a registered Client, it misses nothing any more, whatever it missed
    while it attached. -/
theorem registered_catches_up (core : PlayerOwnerState) (source : QueueSource) (lineage : QueueLineage)
    (status : PlayerStatus) (transport : QueueTransport) (before after : List AttachInput) :
    let reached := machine.run (start core source lineage status transport) before
    reached.phase = .registered → .broadcast ∈ reached.remaining → (machine.run reached after).NothingLost := by
  intro reached registered broadcasts
  have published : Published reached := Machine.run_holds (fun _ input published => published.step input) before
    (start_published core source lineage status transport)
  have following : Following reached := ⟨published, fun unsaid => absurd broadcasts unsaid,
      fun sent => absurd (registered.symm.trans sent) (by simp), fun _ unsaid => absurd broadcasts unsaid⟩
  have keep (s : AttachState) (input : AttachInput) (kept : Following s ∧ s.phase = .registered) :
      Following (machine.step s input) ∧ (machine.step s input).phase = .registered :=
    ⟨kept.1.step input (registered_undisturbed kept.2 input), registered_stays kept.2 input⟩
  exact (Machine.run_holds keep after ⟨following, registered⟩).1.nothingLost

/-! ### Nothing older comes after -/

/-- No cell is newer than the last change, the snapshot is no newer than the cells, and what the
    Client received is no newer than what a broadcast shows. -/
structure Aging (s : AttachState) : Prop where
  queue : s.shared.queue.change ≤ s.changes
  source : s.shared.source.change ≤ s.changes
  observed : s.shared.observedActiveSlot.change ≤ s.changes
  lineage : s.shared.lineage.change ≤ s.changes
  snapshot : s.snapshot.NotOlder s.shared
  unsent : s.phase.seeded = false → s.received = []
  received : ∀ each ∈ s.received, each.madeFrom.NotOlder s.live
  ordered : s.NeverOlder

theorem start_aging (core : PlayerOwnerState) (source : QueueSource) (lineage : QueueLineage)
    (status : PlayerStatus) (transport : QueueTransport) :
    Aging (start core source lineage status transport) where
  queue := Nat.le_refl _
  source := Nat.le_refl _
  observed := Nat.le_refl _
  lineage := Nat.le_refl _
  snapshot := .refl _
  unsent _ := rfl
  received _ member := absurd member not_mem_nil
  ordered := List.Pairwise.nil

theorem Aging.shared_live (aging : Aging s) : s.shared.NotOlder s.live :=
  ⟨aging.queue, aging.source, Nat.le_refl _, Nat.le_refl _⟩

theorem Aging.receive_ordered (aging : Aging s) {shown : SharedQueueState}
    (newer : ∀ each ∈ s.received, each.madeFrom.NotOlder shown) :
    (s.receive shown transitions).NeverOlder := by
  refine pairwise_append.mpr ⟨aging.ordered, pairwise_singleton _ _, ?_⟩
  intro earlier member later last
  cases mem_singleton.mp last
  exact newer earlier member

theorem Aging.receive_live (aging : Aging s) {shown : SharedQueueState} (current : shown.NotOlder s.live) :
    ∀ each ∈ (s.receive shown transitions).received, each.madeFrom.NotOlder s.live := by
  intro each member
  rcases mem_append.mp member with before | last
  · exact aging.received each before
  · cases mem_singleton.mp last
    exact current

theorem Aging.begin (aging : Aging s) (change : OwnerChange) : Aging (s.begin change) := by
  unfold AttachState.begin
  split
  · refine ⟨Nat.le_succ_of_le aging.queue, Nat.le_succ_of_le aging.source,
      Nat.le_succ_of_le aging.observed, Nat.le_succ_of_le aging.lineage, aging.snapshot,
      aging.unsent, fun each member => ?_, aging.ordered⟩
    have before := aging.received each member
    exact ⟨Nat.le_succ_of_le before.queue, Nat.le_succ_of_le before.source, before.observed, before.lineage⟩
  · exact aging

theorem Aging.perform (aging : Aging s) (next : PublishStep) (rest : List PublishStep) :
    Aging { s.perform next with remaining := rest } := by
  have kept := aging.snapshot
  cases next with
  | mintLineage =>
    refine ⟨aging.queue, aging.source, aging.observed, Nat.le_refl _,
      ⟨kept.queue, kept.source, kept.observed, kept.lineage.trans aging.lineage⟩, aging.unsent,
      fun each member => ?_, aging.ordered⟩
    have before := aging.received each member
    exact ⟨before.queue, before.source, before.observed, before.lineage.trans aging.lineage⟩
  | publishObserved =>
    refine ⟨aging.queue, aging.source, Nat.le_refl _, aging.lineage,
      ⟨kept.queue, kept.source, kept.observed.trans aging.observed, kept.lineage⟩, aging.unsent,
      fun each member => ?_, aging.ordered⟩
    have before := aging.received each member
    exact ⟨before.queue, before.source, before.observed.trans aging.observed, before.lineage⟩
  | broadcast =>
    by_cases registered : s.phase = .registered
    · have received : s.perform .broadcast = s.receive s.live (summaries s.core.transitions) := if_pos registered
      rw [received]
      refine ⟨aging.queue, aging.source, aging.observed, aging.lineage, kept, fun unsent => ?_,
        aging.receive_live (.refl _), aging.receive_ordered aging.received⟩
      have seeded : s.phase.seeded = true := by rw [registered]; rfl
      exact absurd (seeded.symm.trans unsent) (by simp)
    · have unheard : s.perform .broadcast = s := if_neg registered
      rw [unheard]
      exact ⟨aging.queue, aging.source, aging.observed, aging.lineage, kept, aging.unsent, aging.received, aging.ordered⟩
  | writeQueue =>
    exact ⟨Nat.le_refl _, aging.source, aging.observed, aging.lineage,
      ⟨kept.queue.trans aging.queue, kept.source, kept.observed, kept.lineage⟩, aging.unsent,
      aging.received, aging.ordered⟩
  | writeSource =>
    exact ⟨aging.queue, Nat.le_refl _, aging.observed, aging.lineage,
      ⟨kept.queue, kept.source.trans aging.source, kept.observed, kept.lineage⟩, aging.unsent,
      aging.received, aging.ordered⟩

theorem Aging.publish (aging : Aging s) : Aging s.publish := by
  unfold AttachState.publish
  split
  · exact aging
  · split
    · exact aging
    · exact aging.perform ..

theorem Aging.advance (aging : Aging s) {phase : HandshakePhase} {snapshot : SharedQueueState}
    (read : snapshot.NotOlder s.shared) (unsent : s.phase.seeded = false) :
    Aging { s with phase := phase, snapshot := snapshot } :=
  ⟨aging.queue, aging.source, aging.observed, aging.lineage, read, fun _ => aging.unsent unsent, aging.received, aging.ordered⟩

theorem Aging.handshake (aging : Aging s) (admits : Bool) : Aging (s.handshake admits) := by
  have kept := aging.snapshot
  have unsent (phase : HandshakePhase) (at_ : s.phase = phase) (early : phase.seeded = false) :
      s.phase.seeded = false := by rw [at_]; exact early
  unfold AttachState.handshake
  cases phase : s.phase with
  | connected => exact aging.advance kept (unsent _ phase rfl)
  | helloRead =>
    exact aging.advance ⟨kept.queue, kept.source, kept.observed, kept.lineage⟩ (unsent _ phase rfl)
  | statusRead =>
    exact aging.advance ⟨Nat.le_refl _, kept.source, kept.observed, kept.lineage⟩ (unsent _ phase rfl)
  | queueRead =>
    exact aging.advance ⟨kept.queue, Nat.le_refl _, kept.observed, kept.lineage⟩ (unsent _ phase rfl)
  | sourceRead =>
    exact aging.advance ⟨kept.queue, kept.source, Nat.le_refl _, kept.lineage⟩ (unsent _ phase rfl)
  | observedRead =>
    exact aging.advance ⟨kept.queue, kept.source, kept.observed, Nat.le_refl _⟩ (unsent _ phase rfl)
  | snapshotTaken => exact aging.advance kept (unsent _ phase rfl)
  | registryLocked => exact aging.advance kept (unsent _ phase rfl)
  | admitted =>
    have none : s.received = [] := aging.unsent (unsent _ phase rfl)
    refine ⟨aging.queue, aging.source, aging.observed, aging.lineage, kept, nofun,
      aging.receive_live (kept.trans aging.shared_live), aging.receive_ordered fun each member => ?_⟩
    rw [none] at member
    exact absurd member not_mem_nil
  | stateSent =>
    exact ⟨aging.queue, aging.source, aging.observed, aging.lineage, kept, nofun, aging.received, aging.ordered⟩
  | registered => exact aging
  | refused => exact aging

theorem Aging.step (aging : Aging s) (input : AttachInput) : Aging (machine.step s input) := by
  cases input with
  | changes change => exact aging.begin change
  | publishes => exact aging.publish
  | statusMoves status =>
    have kept := aging.snapshot
    refine ⟨aging.queue, aging.source, aging.observed, aging.lineage,
      ⟨kept.queue, kept.source, kept.observed, kept.lineage⟩, aging.unsent, fun each member => ?_,
      aging.ordered⟩
    have before := aging.received each member
    exact ⟨before.queue, before.source, before.observed, before.lineage⟩
  | handshakes admits => exact aging.handshake admits

/-- Whatever the two threads interleave, a Client never receives an older state after a newer one;
    and where they do not disturb each other, it is left with the owner's current state. -/
theorem attach_loses_nothing (core : PlayerOwnerState) (source : QueueSource)
    (lineage : QueueLineage) (status : PlayerStatus) (transport : QueueTransport)
    (inputs : List AttachInput) :
    let started := start core source lineage status transport
    (machine.run started inputs).NeverOlder ∧
      (machine.Along Undisturbed started inputs → (machine.run started inputs).NothingLost) := by
  intro started
  constructor
  · exact (@Machine.run_holds _ _ machine Aging (fun _ input aging => aging.step input) _ inputs
      (start_aging core source lineage status transport)).ordered
  · intro undisturbed
    exact (@Machine.run_invariant _ _ machine Following Undisturbed
      (fun _ input following quiet => following.step input quiet) _ inputs
      (start_following core source lineage status transport) undisturbed).nothingLost

def idleOwner : PlayerOwnerState := .new (.fromQueueItems [] none 0)

def appended : OwnerChange where
  queue := .fromQueueItems [.twitch ⟨"t", "t"⟩] (some 0) 0
  source := .unknown
  transitions := {}
  observed := none
  installs := false
  purges := false

/-- A change that is published whole before the handshake goes on. -/
def published : List AttachInput := [.changes appended, .publishes, .publishes, .publishes]

def handshakes (steps : Nat) : List AttachInput := List.replicate steps (.handshakes true)

def twitchPeer : AttachState := start idleOwner .unknown 0 {} { twitch := true }

/-- One change before the handshake and one after it: the Client has the second. -/
theorem attach_loses_nothing_around :
    (machine.run twitchPeer (published ++ handshakes 10 ++ published)).NothingLost :=
  (attach_loses_nothing idleOwner .unknown 0 {} { twitch := true } _).2 (by decide +kernel)

/-- A change published between the snapshot and the registration is lost: the registered Client has
    an empty queue while the owner at rest holds one slot. -/
theorem attach_loses_change :
    let attached := machine.run twitchPeer (handshakes 6 ++ published ++ handshakes 4)
    attached.phase = .registered ∧ attached.remaining = [] ∧
      attached.core.queue.slotIds = [⟨1⟩] ∧
      (attached.received.map fun each => each.state.slots) = [[]] ∧ ¬ attached.NothingLost := by
  intro attached
  refine ⟨by decide +kernel, by decide +kernel, by decide +kernel, by decide +kernel, ?_⟩
  intro nothingLost
  obtain ⟨last, sent, current⟩ := nothingLost (by decide +kernel) (by decide +kernel)
  have shown : last.state.slots ∈ attached.received.map fun each => each.state.slots :=
    mem_map_of_mem (mem_of_getLast? sent)
  rw [show attached.received.map (fun each => each.state.slots) = [[]] by decide +kernel,
    mem_singleton, current, currentState_slots] at shown
  exact absurd shown (by decide +kernel)

/-- A change is lost while the Client attaches, and one more is published. -/
theorem registered_catches_up_lost :
    (machine.run (machine.run twitchPeer (handshakes 6 ++ published ++ handshakes 4 ++ [.changes appended]))
      [.publishes, .publishes, .publishes]).NothingLost :=
  registered_catches_up idleOwner .unknown 0 {} { twitch := true } _ _ (by decide +kernel) (by decide +kernel)

end AttachState

end Mbv.Daemon
