import Mbv.Player.Transition

namespace Mbv.Daemon

open Mbv.Player

abbrev CtrlClientId := UInt64

inductive QueueSource where
  | playlist (id : Option String) (name : String)
  | album
  | series
  | shuffle
  | remote
  | collection (collectionType : String)
  | unknown
deriving DecidableEq

inductive PlaybackIntentAction where
  | play (itemIds : List String) (startIdx : Nat) (startTicks : Int) (source : QueueSource)
  | stop
  | setPaused (paused : Bool)
  | next
  | previous
deriving DecidableEq

namespace PlaybackIntentAction

def isPlay : PlaybackIntentAction → Bool
  | play .. => true
  | _ => false

def plays (itemId : String) : PlaybackIntentAction → Bool
  | play itemIds _ _ _ => itemIds.contains itemId
  | _ => false

/-- Next and Previous: a relative step has no resolve, open or buffer lifecycle. -/
def isRelative : PlaybackIntentAction → Bool
  | next | previous => true
  | _ => false

end PlaybackIntentAction

structure PlaybackIntent where
  requestId : PlaybackRequestId
  generation : PlaybackGeneration
  action : PlaybackIntentAction

inductive PlaybackIntentRejection where
  | emptyTarget
  | invalidTarget
  | resolutionFailed
  | audioOnly
  | unavailable
deriving DecidableEq

inductive PlaybackIntentOutcome where
  | accepted
  | applied
  | coalesced (canonicalRequestId : PlaybackRequestId)
  | superseded
  | rejected (reason : PlaybackIntentRejection)
deriving DecidableEq

def PlaybackIntentOutcome.isTerminal : PlaybackIntentOutcome → Bool
  | applied | superseded | rejected _ => true
  | accepted | coalesced _ => false

def PlaybackIntentOutcome.isCoalesced : PlaybackIntentOutcome → Bool
  | coalesced _ => true
  | _ => false

structure PlaybackIntentEvent where
  requestId : PlaybackRequestId
  generation : PlaybackGeneration
  outcome : PlaybackIntentOutcome
deriving DecidableEq

inductive PlaybackIntentPhase where
  | accepted
  | resolving
  | playerOpening
  | outputBuffering
  | applied
deriving DecidableEq

inductive PipePlaybackPhase where
  | outputBuffering
  | outputStarted

structure PipePlaybackStatus where
  requestId : PlaybackRequestId
  generation : PlaybackGeneration
  phase : PipePlaybackPhase
  estimatedRemainingMs : Option Nat

structure IntentIdentity where
  connectionId : CtrlClientId
  requestId : PlaybackRequestId
  generation : PlaybackGeneration
deriving DecidableEq

structure CurrentPlaybackIntent where
  connectionId : CtrlClientId
  requestId : PlaybackRequestId
  generation : PlaybackGeneration
  action : PlaybackIntentAction
  phase : PlaybackIntentPhase
  pipeOutput : Bool
  bufferingDeadline : Option Instant
deriving DecidableEq

namespace CurrentPlaybackIntent

def identity (current : CurrentPlaybackIntent) : IntentIdentity :=
  ⟨current.connectionId, current.requestId, current.generation⟩

def event (current : CurrentPlaybackIntent) (outcome : PlaybackIntentOutcome) :
    PlaybackIntentEvent :=
  ⟨current.requestId, current.generation, outcome⟩

/-- The connection, request and generation the source compares before it settles an intent. -/
def Named (current : CurrentPlaybackIntent) (connectionId : CtrlClientId)
    (requestId : PlaybackRequestId) (generation : PlaybackGeneration) : Prop :=
  current.connectionId = connectionId ∧ current.requestId = requestId ∧
    current.generation = generation

instance (current : CurrentPlaybackIntent) (connectionId : CtrlClientId)
    (requestId : PlaybackRequestId) (generation : PlaybackGeneration) :
    Decidable (current.Named connectionId requestId generation) :=
  inferInstanceAs (Decidable (_ ∧ _))

end CurrentPlaybackIntent

structure PlaybackIntentState where
  current : Option CurrentPlaybackIntent := none
deriving DecidableEq

namespace PlaybackIntentState

variable (state : PlaybackIntentState)

def isCurrent (connectionId : CtrlClientId) (requestId : PlaybackRequestId)
    (generation : PlaybackGeneration) : Bool :=
  state.current.any fun current => current.Named connectionId requestId generation

/-- The tail of `accept`: the intent becomes `current` whatever was there. -/
def latch (connectionId : CtrlClientId) (intent : PlaybackIntent) (pipeOutput : Bool) :
    PlaybackIntentState × List PlaybackIntentEvent :=
  ({ current := some
      { connectionId := connectionId
        requestId := intent.requestId
        generation := intent.generation
        action := intent.action
        phase := .accepted
        pipeOutput := pipeOutput
        bufferingDeadline := none } },
    [⟨intent.requestId, intent.generation, .accepted⟩])

def supersedes (current intent : PlaybackIntentAction) : Bool :=
  intent = .stop || (current.isPlay && intent.isPlay)

def accept (connectionId : CtrlClientId) (intent : PlaybackIntent) (pipeOutput : Bool) :
    PlaybackIntentState × List PlaybackIntentEvent :=
  if intent.action.isRelative then
    (state, [⟨intent.requestId, intent.generation, .accepted⟩])
  else
    match state.current with
    | none => latch connectionId intent pipeOutput
    | some current =>
      if current.phase ≠ .applied ∧ current.connectionId = connectionId then
        if current.action = intent.action then
          (state, [⟨intent.requestId, intent.generation, .coalesced current.requestId⟩])
        else if supersedes current.action intent.action then
          -- the source clears `current` and accepts again, which can only latch
          let (accepted, events) := latch connectionId intent pipeOutput
          (accepted, current.event .superseded :: events)
        else
          latch connectionId intent pipeOutput
      else
        latch connectionId intent pipeOutput

/-- `mark_resolving` and `mark_starting` compare the request alone. -/
def mark (requestId : PlaybackRequestId) (phase : PlaybackIntentPhase) : PlaybackIntentState :=
  { current := state.current.map fun current =>
      if current.requestId = requestId then { current with phase := phase } else current }

def markResolving (requestId : PlaybackRequestId) : PlaybackIntentState :=
  state.mark requestId .resolving

def markStarting (requestId : PlaybackRequestId) : PlaybackIntentState :=
  state.mark requestId .playerOpening

/-- `delay` is the configured playout delay in milliseconds. -/
def outputStartedIfCurrent (delay : Option Nat) (now : Instant) :
    Option (CtrlClientId × PipePlaybackStatus) × PlaybackIntentState :=
  match state.current with
  | none => (none, state)
  | some current =>
    if current.pipeOutput ∧ current.action.isPlay then
      match delay with
      | some delay =>
        (some (current.connectionId,
            ⟨current.requestId, current.generation, .outputBuffering, some delay⟩),
          { current := some { current with
              phase := .outputBuffering
              bufferingDeadline := some (now + delay * 1000000) } })
      | none =>
        (some (current.connectionId,
            ⟨current.requestId, current.generation, .outputStarted, none⟩),
          { current := some { current with phase := .applied } })
    else
      (none, state)

def settleBufferingIfDue (now : Instant) :
    Option (CtrlClientId × PlaybackIntentEvent) × PlaybackIntentState :=
  match state.current with
  | none => (none, state)
  | some current =>
    if current.phase ≠ .outputBuffering ∨ current.bufferingDeadline.all (now < ·) then
      (none, state)
    else
      (some (current.connectionId, current.event .applied),
        { current := some { current with phase := .applied, bufferingDeadline := none } })

def appliedIfCurrent (connectionId : CtrlClientId) (requestId : PlaybackRequestId)
    (generation : PlaybackGeneration) : Option PlaybackIntentEvent × PlaybackIntentState :=
  match state.current with
  | none => (none, state)
  | some current =>
    if current.Named connectionId requestId generation then
      (some ⟨requestId, generation, .applied⟩,
        { current := some { current with phase := .applied } })
    else
      (none, state)

def rejectedIfCurrent (connectionId : CtrlClientId) (requestId : PlaybackRequestId)
    (generation : PlaybackGeneration) (reason : PlaybackIntentRejection) :
    Option PlaybackIntentEvent × PlaybackIntentState :=
  match state.current with
  | none => (none, state)
  | some current =>
    if current.Named connectionId requestId generation then
      (some ⟨requestId, generation, .rejected reason⟩, {})
    else
      (none, state)

def invalidateConnection (connectionId : CtrlClientId) : PlaybackIntentState :=
  if state.current.any (·.connectionId = connectionId) then {} else state

section

variable {state}

theorem isCurrent_iff {connectionId : CtrlClientId} {requestId : PlaybackRequestId} {generation : PlaybackGeneration} :
    state.isCurrent connectionId requestId generation = true ↔ ∃ current, state.current = some current ∧
        current.Named connectionId requestId generation := by
  cases latched : state.current <;> simp [isCurrent, latched]

theorem appliedIfCurrent_named {current : CurrentPlaybackIntent} (latched : state.current = some current) :
    state.appliedIfCurrent current.connectionId current.requestId current.generation =
      (some (current.event .applied), { current := some { current with phase := .applied } }) := by
  simp [appliedIfCurrent, latched, CurrentPlaybackIntent.Named, CurrentPlaybackIntent.event]

theorem rejectedIfCurrent_named {current : CurrentPlaybackIntent}
    (latched : state.current = some current) (reason : PlaybackIntentRejection) :
    state.rejectedIfCurrent current.connectionId current.requestId current.generation reason =
      (some (current.event (.rejected reason)), {}) := by
  simp [rejectedIfCurrent, latched, CurrentPlaybackIntent.Named, CurrentPlaybackIntent.event]

theorem stale_completion {connectionId : CtrlClientId} {requestId : PlaybackRequestId} {generation : PlaybackGeneration}
    (stale : ¬ state.isCurrent connectionId requestId generation)
    (reason : PlaybackIntentRejection) :
    state.appliedIfCurrent connectionId requestId generation = (none, state) ∧
      state.rejectedIfCurrent connectionId requestId generation reason = (none, state) := by
  cases latched : state.current with
  | none => simp [appliedIfCurrent, rejectedIfCurrent, latched]
  | some current =>
    have other : ¬ current.Named connectionId requestId generation :=
      fun named => stale (isCurrent_iff.mpr ⟨current, latched, named⟩)
    simp [appliedIfCurrent, rejectedIfCurrent, latched, other]

theorem accept_cases (connectionId : CtrlClientId) (intent : PlaybackIntent) (pipeOutput : Bool) :
    (intent.action.isRelative = true ∧ state.accept connectionId intent pipeOutput =
        (state, [⟨intent.requestId, intent.generation, .accepted⟩])) ∨
    (intent.action.isRelative = false ∧ ((∃ current, state.current = some current ∧ current.phase ≠ .applied ∧
          current.connectionId = connectionId ∧ current.action = intent.action ∧
          state.accept connectionId intent pipeOutput =
            (state, [⟨intent.requestId, intent.generation, .coalesced current.requestId⟩])) ∨
        (∃ current, state.current = some current ∧ current.phase ≠ .applied ∧
          current.connectionId = connectionId ∧ current.action ≠ intent.action ∧
          supersedes current.action intent.action = true ∧
          state.accept connectionId intent pipeOutput = ((latch connectionId intent pipeOutput).1,
              current.event .superseded :: (latch connectionId intent pipeOutput).2)) ∨
        ((∀ current, state.current = some current → current.phase ≠ .applied → current.connectionId = connectionId →
            current.action ≠ intent.action ∧ supersedes current.action intent.action = false) ∧
          state.accept connectionId intent pipeOutput = latch connectionId intent pipeOutput))) := by
  cases relative : intent.action.isRelative with
  | true => exact Or.inl ⟨rfl, by simp [accept, relative]⟩
  | false =>
    refine Or.inr ⟨rfl, ?_⟩
    cases latched : state.current with
    | none => exact Or.inr (Or.inr ⟨by simp, by simp [accept, relative, latched]⟩)
    | some current =>
      by_cases own : current.phase ≠ .applied ∧ current.connectionId = connectionId
      · by_cases same : current.action = intent.action
        · refine Or.inl ⟨current, rfl, own.1, own.2, same, ?_⟩
          simp [accept, relative, latched, own, same]
        · cases wins : supersedes current.action intent.action with
          | true =>
            refine Or.inr (Or.inl ⟨current, rfl, own.1, own.2, same, wins, ?_⟩)
            simp [accept, relative, latched, own, same, wins]
          | false =>
            refine Or.inr (Or.inr ⟨?_, ?_⟩)
            · rintro other ⟨rfl⟩ - -
              exact ⟨same, wins⟩
            · simp [accept, relative, latched, own, same, wins]
      · refine Or.inr (Or.inr ⟨?_, ?_⟩)
        · rintro other ⟨rfl⟩ unresolved mine
          exact absurd ⟨unresolved, mine⟩ own
        · simp only [accept, relative, latched, own, Bool.false_eq_true, if_false]

end

end PlaybackIntentState

end Mbv.Daemon
