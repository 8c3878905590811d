import Mbv.Machine.Mailbox
import Mbv.Player.Transition

namespace Mbv.Player

open Mbv.Queue Mailbox List

inductive TransitionOp where
  | accept (transition : Transition)
  | settle (observedRequestId : PlaybackRequestId) (observedSlot : QueueSlotId)
  | clearUnconfirmable
  | reset
  | expire (now : Instant)
  | expireNow

inductive EndedBy where
  | settle
  | expiry
  | clear
  | reset
deriving DecidableEq

/-- The owner's transition state beside everything it answered: a transition is known by its place
    in `accepted`, and the ledger moves only on the outcomes the operations return. -/
structure TransitionHistory where
  state : OwnerTransitionState := {}
  accepted : List Transition := []
  ledger : Ledger EndedBy := {}
  returned : List Transition := []
  superseded : List Transition := []
  timedOut : List Transition := []

namespace TransitionHistory

def step (history : TransitionHistory) : TransitionOp → TransitionHistory
  | .accept transition =>
    match history.state.accept transition with
    | (.dispatchNow sent, state) =>
      { history with
        state := state
        accepted := history.accepted ++ [transition]
        ledger := history.ledger.step .start
        returned := history.returned ++ [sent] }
    | (.queued superseded, state) =>
      { history with
        state := state
        accepted := history.accepted ++ [transition]
        ledger := history.ledger.step .wait
        superseded := history.superseded ++ superseded.toList }
  | .settle observedRequestId observedSlot =>
    match history.state.settle observedRequestId observedSlot with
    | (.settled dispatchNext, state) =>
      { history with
        state := state
        ledger := history.ledger.step (.finish .settle)
        returned := history.returned ++ dispatchNext.toList }
    | (.ignored, state) => { history with state := state }
  | .clearUnconfirmable =>
    { history with
      state := history.state.clearUnconfirmable
      ledger := history.ledger.step (.drop .clear) }
  | .reset =>
    { history with
      state := history.state.reset
      ledger := history.ledger.step (.reset .reset) }
  | .expire now =>
    match history.state.expire now with
    | (.expired expired dispatchNext, state) =>
      { history with
        state := state
        ledger := history.ledger.step (.finish .expiry)
        returned := history.returned ++ dispatchNext.toList
        timedOut := history.timedOut ++ [expired] }
    | (.pending, state) => { history with state := state }
  | .expireNow =>
    match history.state.expireNow with
    | (some (expired, dispatchNext), state) =>
      { history with
        state := state
        ledger := history.ledger.step (.finish .expiry)
        returned := history.returned ++ dispatchNext.toList
        timedOut := history.timedOut ++ [expired] }
    | (none, state) => { history with state := state }

def machine : Machine TransitionHistory TransitionOp := ⟨step⟩

def named (accepted : List Transition) (ticket : Nat) : Option Transition :=
  accepted[ticket]?

structure Accounted (history : TransitionHistory) : Prop where
  sound : history.ledger.Sound
  count : history.ledger.accepted = history.accepted.length
  inFlight : history.state.inFlight = history.ledger.current.bind (named history.accepted)
  queuedLatest : history.state.queuedLatest = history.ledger.waiting.bind (named history.accepted)
  returned : history.returned.map some = history.ledger.dispatched.map (named history.accepted)
  superseded : history.superseded.map some =
    (history.ledger.leftBy .displaced).map (named history.accepted)
  timedOut : history.timedOut.map some =
    (history.ledger.leftBy (.finished .expiry)).map (named history.accepted)
  finishedBy : ∀ ticket how, (ticket, Exit.finished how) ∈ history.ledger.exits → how ≠ .clear
  droppedBy : ∀ ticket how, (ticket, Exit.dropped how) ∈ history.ledger.exits →
    how = .clear ∨ how = .reset

variable {history : TransitionHistory}

theorem Accounted.known (accounted : history.Accounted) {ticket : Nat} (before : ticket < history.ledger.accepted) :
    ∃ transition, named history.accepted ticket = some transition := by
  have inside : ticket < history.accepted.length := accounted.count ▸ before
  exact ⟨history.accepted[ticket], List.getElem?_eq_getElem inside⟩

theorem Accounted.idle_iff (accounted : history.Accounted) : history.state.inFlight = none ↔ history.ledger.current = none := by
  rw [accounted.inFlight]
  cases flying : history.ledger.current with
  | none => simp
  | some ticket =>
    obtain ⟨transition, name⟩ := accounted.known (Ledger.current_lt accounted.sound flying)
    simp [name]

theorem Accounted.inFlight_payload (accounted : history.Accounted) : history.state.inFlight.toList.map some =
      history.ledger.current.toList.map (named history.accepted) := by
  rw [accounted.inFlight]
  cases flying : history.ledger.current with
  | none => rfl
  | some ticket =>
    obtain ⟨transition, name⟩ := accounted.known (Ledger.current_lt accounted.sound flying)
    simp [name]

theorem Accounted.queued_payload (accounted : history.Accounted) : history.state.queuedLatest.toList.map some =
      history.ledger.waiting.toList.map (named history.accepted) := by
  rw [accounted.queuedLatest]
  cases waits : history.ledger.waiting with
  | none => rfl
  | some ticket =>
    have newest := (accounted.sound.behind ticket waits).2.1
    obtain ⟨transition, name⟩ := accounted.known (show ticket < _ by omega)
    simp [name]

theorem named_append (transition : Transition) {accepted : List Transition} {tickets : List Nat}
    (known : ∀ ticket ∈ tickets, ticket < accepted.length) :
    tickets.map (named (accepted ++ [transition])) = tickets.map (named accepted) := by
  refine map_congr_left fun ticket member => ?_
  exact List.getElem?_append_left (known ticket member)

theorem Accounted.dispatched_known (accounted : history.Accounted) :
    ∀ ticket ∈ history.ledger.dispatched, ticket < history.accepted.length :=
  accounted.count ▸ accounted.sound.below

theorem Accounted.leftBy_known (accounted : history.Accounted) (exit : Exit EndedBy) :
    ∀ ticket ∈ history.ledger.leftBy exit, ticket < history.accepted.length :=
  fun _ left => accounted.count ▸ Ledger.leftBy_lt accounted.sound left

theorem Accounted.start (accounted : history.Accounted) (transition : Transition) (idle : history.state.inFlight = none) :
    Accounted { history with
      state := { history.state with inFlight := some transition, inFlightDeadline := none }
      accepted := history.accepted ++ [transition]
      ledger := history.ledger.step .start
      returned := history.returned ++ [transition] } := by
  have empty := accounted.idle_iff.mp idle
  have alone := Ledger.waiting_of_idle accounted.sound empty
  have newest : named (history.accepted ++ [transition]) history.ledger.accepted = some transition := by
    simp [named, accounted.count]
  constructor
  case sound => exact accounted.sound.start empty
  case count => simp [Ledger.step, accounted.count]
  case inFlight => exact newest.symm
  case queuedLatest =>
    have queued := accounted.queuedLatest
    rw [alone] at queued
    simp [Ledger.step, alone, queued]
  case returned =>
    have old := named_append transition accounted.dispatched_known
    simp only [Ledger.step, map_append, old]
    exact congrArg₂ _ accounted.returned (by simp [newest])
  case superseded =>
    have old := named_append transition (accounted.leftBy_known .displaced)
    simpa only [Ledger.leftBy_start, old] using accounted.superseded
  case timedOut =>
    have old := named_append transition (accounted.leftBy_known (.finished .expiry))
    simpa only [Ledger.leftBy_start, old] using accounted.timedOut
  case finishedBy => exact accounted.finishedBy
  case droppedBy => exact accounted.droppedBy

theorem Accounted.wait (accounted : history.Accounted) (transition : Transition) (busy : history.state.inFlight ≠ none) :
    Accounted { history with
      state := { history.state with queuedLatest := some transition }
      accepted := history.accepted ++ [transition]
      ledger := history.ledger.step .wait
      superseded := history.superseded ++ history.state.queuedLatest.toList } := by
  have full : history.ledger.current ≠ none := fun idle => busy (accounted.idle_iff.mpr idle)
  have newest : named (history.accepted ++ [transition]) history.ledger.accepted = some transition := by
    simp [named, accounted.count]
  constructor
  case sound => exact accounted.sound.wait full
  case count => simp [Ledger.step, accounted.count]
  case inFlight =>
    have flying := accounted.inFlight
    cases current : history.ledger.current with
    | none => exact absurd current full
    | some ticket =>
      have before : ticket < history.accepted.length := accounted.count ▸ Ledger.current_lt accounted.sound current
      simp only [current, Option.bind_some, named] at flying
      simp [Ledger.step, current, named, List.getElem?_append_left before, flying]
  case queuedLatest => exact newest.symm
  case returned =>
    have old := named_append transition accounted.dispatched_known
    simpa only [Ledger.step, old] using accounted.returned
  case superseded =>
    have old := named_append transition (accounted.leftBy_known .displaced)
    have place : ∀ ticket ∈ history.ledger.waiting.toList, ticket < history.accepted.length := by
      intro ticket waits
      have last := (accounted.sound.behind ticket (Option.mem_toList.mp waits)).2.1
      have size := accounted.count
      omega
    have waits := named_append transition place
    simp only [Ledger.leftBy_wait, if_true, map_append, old, waits]
    exact congrArg₂ _ accounted.superseded accounted.queued_payload
  case timedOut =>
    have old := named_append transition (accounted.leftBy_known (.finished .expiry))
    simpa [old] using accounted.timedOut
  case finishedBy =>
    intro ticket how member
    simp only [Ledger.step, mem_append, mem_leaving, reduceCtorEq, and_false, or_false] at member
    exact accounted.finishedBy ticket how member
  case droppedBy =>
    intro ticket how member
    simp only [Ledger.step, mem_append, mem_leaving, reduceCtorEq, and_false, or_false] at member
    exact accounted.droppedBy ticket how member

theorem Accounted.finish (accounted : history.Accounted) (how : EndedBy) (cause : how ≠ .clear) (timedOut : List Transition)
    (reported : timedOut = if how = .expiry then history.state.inFlight.toList else []) :
    Accounted { history with
      state := history.state.promote
      ledger := history.ledger.step (.finish how)
      returned := history.returned ++ history.state.queuedLatest.toList
      timedOut := history.timedOut ++ timedOut } := by
  constructor
  case sound => exact accounted.sound.finish how
  case count => exact accounted.count
  case inFlight => exact accounted.queuedLatest
  case queuedLatest => rfl
  case returned =>
    simp only [Ledger.step, map_append]
    exact congrArg₂ _ accounted.returned accounted.queued_payload
  case superseded => simpa using accounted.superseded
  case timedOut =>
    have payload := accounted.inFlight_payload
    simp only [Ledger.leftBy_finish, map_append, reported, Exit.finished.injEq]
    refine congrArg₂ _ accounted.timedOut ?_
    split
    · exact payload
    · rfl
  case finishedBy =>
    intro ticket how' member
    simp only [Ledger.step, mem_append, mem_leaving, Exit.finished.injEq] at member
    rcases member with member | ⟨-, rfl⟩
    · exact accounted.finishedBy ticket how' member
    · exact cause
  case droppedBy =>
    intro ticket how' member
    simp only [Ledger.step, mem_append, mem_leaving, reduceCtorEq, and_false, or_false] at member
    exact accounted.droppedBy ticket how' member

theorem Accounted.drop (accounted : history.Accounted) (how : EndedBy) (cause : how = .clear ∨ how = .reset) :
    Accounted { history with
      state := history.state.clearUnconfirmable
      ledger := history.ledger.step (.drop how) } := by
  constructor
  case sound => exact accounted.sound.drop how
  case count => exact accounted.count
  case inFlight => exact accounted.inFlight
  case queuedLatest => rfl
  case returned => exact accounted.returned
  case superseded => simpa using accounted.superseded
  case timedOut => simpa using accounted.timedOut
  case finishedBy =>
    intro ticket how' member
    simp only [Ledger.step, mem_append, mem_leaving, reduceCtorEq, and_false, or_false] at member
    exact accounted.finishedBy ticket how' member
  case droppedBy =>
    intro ticket how' member
    simp only [Ledger.step, mem_append, mem_leaving, Exit.dropped.injEq] at member
    rcases member with member | ⟨-, rfl⟩
    · exact accounted.droppedBy ticket how' member
    · exact cause

theorem Accounted.empty : Accounted {} := by
  constructor <;> simp [Ledger.Sound.empty, Ledger.leftBy]

theorem step_accounted (history : TransitionHistory) (op : TransitionOp)
    (accounted : history.Accounted) : (history.step op).Accounted := by
  cases op with
  | accept transition =>
    by_cases idle : history.state.inFlight = none
    · have started := accounted.start transition idle
      simpa [step, OwnerTransitionState.accept, idle] using started
    · have waited := accounted.wait transition idle
      simpa [step, OwnerTransitionState.accept, idle] using waited
  | settle observedRequestId observedSlot =>
    cases flying : history.state.inFlight with
    | none => simpa [step, OwnerTransitionState.settle, flying] using accounted
    | some transition =>
      by_cases confirms : transition.requestId = observedRequestId ∧ transition.target = observedSlot
      · have settled := accounted.finish .settle (by decide) [] (by simp)
        simpa [step, OwnerTransitionState.settle, flying, confirms] using settled
      · simpa [step, OwnerTransitionState.settle, flying, confirms] using accounted
  | clearUnconfirmable => exact accounted.drop .clear (Or.inl rfl)
  | reset =>
    have dropped := accounted.drop .reset (Or.inr rfl)
    have finished := dropped.finish .reset (by decide) [] (by simp)
    simpa [step, Ledger.step_reset, OwnerTransitionState.reset, OwnerTransitionState.promote,
      OwnerTransitionState.clearUnconfirmable] using finished
  | expire now =>
    cases flying : history.state.inFlight with
    | none => simpa [step, OwnerTransitionState.expire, flying] using accounted
    | some expired =>
      cases armed : history.state.inFlightDeadline with
      | none =>
        simp only [step, OwnerTransitionState.expire, flying, armed]
        exact { accounted with inFlight := flying ▸ accounted.inFlight }
      | some deadline =>
        by_cases due : deadline ≤ now
        · have finished := accounted.finish .expiry (by decide) [expired] (by simp [flying])
          simpa [step, OwnerTransitionState.expire, flying, armed, due] using finished
        · simpa [step, OwnerTransitionState.expire, flying, armed, due] using accounted
  | expireNow =>
    cases flying : history.state.inFlight with
    | none => simpa [step, OwnerTransitionState.expireNow, flying] using accounted
    | some expired =>
      have finished := accounted.finish .expiry (by decide) [expired] (by simp [flying])
      simpa [step, OwnerTransitionState.expireNow, flying] using finished

theorem run_accounted (ops : List TransitionOp) : (machine.run {} ops).Accounted :=
  Machine.run_holds step_accounted ops Accounted.empty

def TransitionOp.Drops (op : TransitionOp) : Prop :=
  op = .clearUnconfirmable ∨ op = .reset

def NothingDropped (history : TransitionHistory) : Prop :=
  ∀ ticket how, (ticket, Exit.dropped how) ∉ history.ledger.exits

theorem step_nothingDropped (history : TransitionHistory) (op : TransitionOp)
    (kept : history.NothingDropped) (gentle : ¬ TransitionOp.Drops op) :
    (history.step op).NothingDropped := by
  intro ticket how
  have old := kept ticket how
  cases op with
  | accept transition =>
    by_cases idle : history.state.inFlight = none <;> simpa [step, OwnerTransitionState.accept, idle, Ledger.step] using old
  | settle observedRequestId observedSlot =>
    simp only [step]
    split <;> simpa [Ledger.step] using old
  | clearUnconfirmable => exact absurd (Or.inl rfl) gentle
  | reset => exact absurd (Or.inr rfl) gentle
  | expire now =>
    simp only [step]
    split <;> simpa [Ledger.step] using old
  | expireNow =>
    simp only [step]
    split <;> simpa [Ledger.step] using old

/-- The mailbox is exactly once and latest wins. -/
structure LatestWins (history : TransitionHistory) : Prop where
  behind : history.state.queuedLatest ≠ none → history.state.inFlight ≠ none
  /-- What is held, returned, superseded or timed out is what the ledger says it is. -/
  accounted : history.Accounted
  oneFate : ∀ ticket < history.accepted.length, ∃ fate, history.ledger.fates ticket = [fate]
  /-- Dispatches follow acceptance order, each transition at most once. -/
  ordered : history.ledger.dispatched.Pairwise (· < ·)
  dispatched : ∀ ticket, ticket ∈ history.ledger.dispatched ↔
    history.ledger.current = some ticket ∨
      ∃ how, (ticket, Exit.finished how) ∈ history.ledger.exits
  /-- A transition passed over by a later dispatch had been displaced or dropped. -/
  skipped : ∀ later ∈ history.ledger.dispatched, ∀ ticket < later,
    ticket ∉ history.ledger.dispatched →
      (ticket, Exit.displaced) ∈ history.ledger.exits ∨
        ∃ how, (ticket, Exit.dropped how) ∈ history.ledger.exits
  /-- The newest transition is never displaced. -/
  newest : ∀ ticket, ticket + 1 = history.accepted.length →
    history.ledger.current = some ticket ∨ history.ledger.waiting = some ticket ∨
      ∃ how, (ticket, Exit.finished how) ∈ history.ledger.exits ∨
        (ticket, Exit.dropped how) ∈ history.ledger.exits
  mismatch : ∀ observedRequestId observedSlot,
    (∀ transition, history.state.inFlight = some transition →
      ¬ (transition.requestId = observedRequestId ∧ transition.target = observedSlot)) →
    history.state.settle observedRequestId observedSlot = (.ignored, history.state)

theorem Accounted.latestWins (accounted : history.Accounted) : history.LatestWins := by
  have sound := accounted.sound
  constructor
  case behind =>
    intro queued idle
    have alone := Ledger.waiting_of_idle sound (accounted.idle_iff.mp idle)
    rw [accounted.queuedLatest, alone] at queued
    exact queued rfl
  case accounted => exact accounted
  case oneFate =>
    intro ticket known
    exact Ledger.one_fate sound (accounted.count.symm ▸ known)
  case ordered => exact sound.ordered
  case dispatched => exact fun ticket => Ledger.dispatched_iff sound
  case skipped =>
    intro later sent ticket before skipped
    exact Ledger.skipped_exit sound sent before skipped
  case newest =>
    intro ticket newest
    exact Ledger.newest_fate sound (accounted.count.symm ▸ newest)
  case mismatch =>
    intro observedRequestId observedSlot differs
    cases flying : history.state.inFlight with
    | none => simp [OwnerTransitionState.settle, flying]
    | some transition =>
      have other := differs transition flying
      simp [OwnerTransitionState.settle, flying, other]

end TransitionHistory

end Mbv.Player
