import Mathlib.Data.List.Basic
import Mathlib.Order.Basic
import Mbv.Machine.Run

/-! A mailbox that holds one message in flight and at most one waiting behind it: a newer message
    takes the place of the waiting one. Messages are known by their ticket, the number of messages
    accepted before them, and `κ` names the ways a message can leave. -/

namespace Mailbox

open List

inductive Exit (κ : Type*) where
  | finished (how : κ)
  | displaced
  | dropped (how : κ)
deriving DecidableEq

structure Ledger (κ : Type*) where
  accepted : Nat := 0
  current : Option Nat := none
  waiting : Option Nat := none
  dispatched : List Nat := []
  exits : List (Nat × Exit κ) := []

inductive Move (κ : Type*) where
  | start
  | wait
  | finish (how : κ)
  | drop (how : κ)
  | reset (how : κ)

variable {κ : Type*}

/-- The exit record of whatever ticket is in the place. -/
def leaving (place : Option Nat) (exit : Exit κ) : List (Nat × Exit κ) :=
  place.toList.map fun ticket => (ticket, exit)

@[simp] theorem mem_leaving {place : Option Nat} {exit exit' : Exit κ} {ticket : Nat} :
    (ticket, exit') ∈ leaving place exit ↔ place = some ticket ∧ exit' = exit := by
  cases place <;> simp [leaving, eq_comm]

theorem nodup_with_place {tickets : List Nat} {place : Option Nat} (nodup : tickets.Nodup)
    (fresh : ∀ ticket, place = some ticket → ticket ∉ tickets) :
    (tickets ++ place.toList).Nodup := by
  cases place with
  | none => simpa using nodup
  | some ticket =>
    rw [Option.toList_some, nodup_append]
    refine ⟨nodup, by simp, ?_⟩
    intro other member new isNew same
    rw [mem_singleton.mp isNew] at same
    exact fresh ticket rfl (same ▸ member)

@[simp] theorem leaving_tickets (place : Option Nat) (exit : Exit κ) : (leaving place exit).map Prod.fst = place.toList := by
  cases place <;> simp [leaving]

namespace Ledger

def step (ledger : Ledger κ) : Move κ → Ledger κ
  | .start =>
    { ledger with
      accepted := ledger.accepted + 1
      current := some ledger.accepted
      dispatched := ledger.dispatched ++ [ledger.accepted] }
  | .wait =>
    { ledger with
      accepted := ledger.accepted + 1
      waiting := some ledger.accepted
      exits := ledger.exits ++ leaving ledger.waiting .displaced }
  | .finish how =>
    { ledger with
      current := ledger.waiting
      waiting := none
      dispatched := ledger.dispatched ++ ledger.waiting.toList
      exits := ledger.exits ++ leaving ledger.current (.finished how) }
  | .drop how =>
    { ledger with
      waiting := none
      exits := ledger.exits ++ leaving ledger.waiting (.dropped how) }
  | .reset how =>
    { ledger with
      current := none
      waiting := none
      exits := ledger.exits ++ leaving ledger.waiting (.dropped how) ++
        leaving ledger.current (.finished how) }

/-- A message starts only in an empty mailbox, and waits only behind another. -/
def Allows (ledger : Ledger κ) : Move κ → Prop
  | .start => ledger.current = none
  | .wait => ledger.current ≠ none
  | _ => True

/-- Every ticket is in one place: in flight, waiting, or gone by exactly one exit. -/
structure Sound (ledger : Ledger κ) : Prop where
  /-- Dispatches happen in acceptance order, each ticket once. -/
  ordered : ledger.dispatched.Pairwise (· < ·)
  below : ∀ ticket ∈ ledger.dispatched, ticket < ledger.accepted
  inFlight : ∀ ticket, ledger.current = some ticket → ticket ∈ ledger.dispatched
  /-- Only the newest ticket waits, and only behind one in flight. -/
  behind : ∀ ticket, ledger.waiting = some ticket →
    ledger.current ≠ none ∧ ticket + 1 = ledger.accepted ∧
      ∀ sent ∈ ledger.dispatched, sent < ticket
  once : (ledger.exits.map Prod.fst).Nodup
  gone : ∀ ticket, ticket ∈ ledger.exits.map Prod.fst ↔
    ticket < ledger.accepted ∧ ledger.current ≠ some ticket ∧ ledger.waiting ≠ some ticket
  /-- An exit says whether its ticket was ever dispatched. -/
  finished : ∀ ticket how, (ticket, Exit.finished how) ∈ ledger.exits → ticket ∈ ledger.dispatched
  skipped : ∀ ticket exit, (ticket, exit) ∈ ledger.exits → (∀ how, exit ≠ .finished how) →
    ticket ∉ ledger.dispatched
  /-- Only a newer ticket displaces one. -/
  latest : ∀ ticket, (ticket, Exit.displaced) ∈ ledger.exits → ticket + 1 < ledger.accepted

variable {ledger : Ledger κ}

theorem waiting_of_idle (sound : ledger.Sound) (idle : ledger.current = none) : ledger.waiting = none := by
  cases waits : ledger.waiting with
  | none => rfl
  | some ticket => exact absurd idle (sound.behind ticket waits).1

variable {ticket : Nat}

theorem current_lt (sound : ledger.Sound) (flying : ledger.current = some ticket) : ticket < ledger.accepted :=
  sound.below ticket (sound.inFlight ticket flying)

theorem waiting_ne_current (sound : ledger.Sound) (waits : ledger.waiting = some ticket) : ledger.current ≠ some ticket := by
  intro flying
  have sent := sound.inFlight ticket flying
  exact absurd ((sound.behind ticket waits).2.2 ticket sent) (Nat.lt_irrefl ticket)

theorem waiting_not_dispatched (sound : ledger.Sound) (waits : ledger.waiting = some ticket) : ticket ∉ ledger.dispatched := by
  intro sent
  exact absurd ((sound.behind ticket waits).2.2 ticket sent) (Nat.lt_irrefl ticket)

theorem current_not_gone (sound : ledger.Sound) (flying : ledger.current = some ticket) :
    ticket ∉ ledger.exits.map Prod.fst := by
  intro left
  exact ((sound.gone ticket).mp left).2.1 flying

theorem waiting_not_gone (sound : ledger.Sound) (waits : ledger.waiting = some ticket) : ticket ∉ ledger.exits.map Prod.fst := by
  intro left
  exact ((sound.gone ticket).mp left).2.2 waits

theorem Sound.empty : ({} : Ledger κ).Sound := by
  constructor <;> simp

theorem Sound.start (sound : ledger.Sound) (idle : ledger.current = none) : (ledger.step .start).Sound := by
  have alone := waiting_of_idle sound idle
  constructor
  case ordered =>
    simp only [step, pairwise_append, pairwise_singleton, mem_singleton]
    exact ⟨sound.ordered, trivial, fun sent member new hnew => hnew ▸ sound.below sent member⟩
  case below =>
    intro ticket member
    simp only [step, mem_append, mem_singleton] at member ⊢
    rcases member with member | rfl
    · exact Nat.lt_succ_of_lt (sound.below ticket member)
    · exact Nat.lt_succ_self _
  case inFlight =>
    intro ticket flying
    cases flying
    simp [step]
  case behind =>
    intro ticket waits
    simp [step, alone] at waits
  case once => exact sound.once
  case gone =>
    intro ticket
    have gone := sound.gone ticket
    simp only [idle, alone] at gone
    simp only [step, alone, ne_eq, Option.some.injEq]
    constructor
    · intro left
      have before := (gone.mp left).1
      refine ⟨by omega, by omega, by simp⟩
    · rintro ⟨before, other, -⟩
      exact gone.mpr ⟨by omega, by simp, by simp⟩
  case finished =>
    intro ticket how member
    exact mem_append_left _ (sound.finished ticket how member)
  case skipped =>
    intro ticket exit member unfinished
    have left : ticket ∈ ledger.exits.map Prod.fst := mem_map_of_mem member
    have before := ((sound.gone ticket).mp left).1
    simp only [step, mem_append, mem_singleton, not_or]
    exact ⟨sound.skipped ticket exit member unfinished, by omega⟩
  case latest =>
    intro ticket member
    exact Nat.lt_succ_of_lt (sound.latest ticket member)

/-- What the exits are when whatever waits leaves without being dispatched. -/
theorem Sound.vacates (sound : ledger.Sound) {exit : Exit κ} (unsent : ∀ how, exit ≠ .finished how) :
    ((ledger.exits ++ leaving ledger.waiting exit).map Prod.fst).Nodup ∧
      (∀ ticket, ticket ∈ (ledger.exits ++ leaving ledger.waiting exit).map Prod.fst ↔
        ticket < ledger.accepted ∧ ledger.current ≠ some ticket) ∧
      (∀ ticket how, (ticket, .finished how) ∈ ledger.exits ++ leaving ledger.waiting exit → ticket ∈ ledger.dispatched) ∧
      ∀ ticket left, (ticket, left) ∈ ledger.exits ++ leaving ledger.waiting exit →
        (∀ how, left ≠ .finished how) → ticket ∉ ledger.dispatched := by
  refine ⟨?_, fun ticket => ?_, fun ticket how member => ?_, fun ticket left member unfinished => ?_⟩
  · rw [map_append, leaving_tickets]
    exact nodup_with_place sound.once fun _ waits => waiting_not_gone sound waits
  · simp only [map_append, leaving_tickets, mem_append, Option.mem_toList]
    constructor
    · rintro (left | waits)
      · have ⟨before, other, _⟩ := (sound.gone ticket).mp left
        exact ⟨before, other⟩
      · have newest := (sound.behind ticket waits).2.1
        exact ⟨by omega, waiting_ne_current sound waits⟩
    · rintro ⟨before, other⟩
      by_cases waits : ledger.waiting = some ticket
      · exact Or.inr waits
      · exact Or.inl ((sound.gone ticket).mpr ⟨before, other, waits⟩)
  · simp only [mem_append, mem_leaving, (unsent how).symm, and_false, or_false] at member
    exact sound.finished ticket how member
  · simp only [mem_append, mem_leaving] at member
    rcases member with member | ⟨waits, -⟩
    · exact sound.skipped ticket left member unfinished
    · exact @waiting_not_dispatched κ ledger _ sound waits

theorem Sound.wait (sound : ledger.Sound) (busy : ledger.current ≠ none) : (ledger.step .wait).Sound := by
  obtain ⟨once, gone, finished, skipped⟩ := @Sound.vacates κ ledger sound .displaced (by simp)
  refine ⟨sound.ordered, fun ticket member => Nat.lt_succ_of_lt (sound.below ticket member), sound.inFlight,
    fun ticket waits => ?_, once, fun ticket => ?_, finished, skipped, fun ticket member => ?_⟩
  · cases waits
    exact ⟨busy, rfl, sound.below⟩
  · refine (gone ticket).trans ?_
    simp only [step, ne_eq, Option.some.injEq]
    constructor
    · rintro ⟨before, other⟩
      exact ⟨by omega, other, by omega⟩
    · rintro ⟨before, other, old⟩
      exact ⟨by omega, other⟩
  · simp only [step, mem_append, mem_leaving, and_true] at member ⊢
    rcases member with member | waits
    · exact Nat.lt_succ_of_lt (sound.latest ticket member)
    · have newest := (sound.behind ticket waits).2.1
      omega

theorem Sound.finish (sound : ledger.Sound) (how : κ) : (ledger.step (.finish how)).Sound := by
  constructor
  case ordered =>
    simp only [step, pairwise_append, Option.mem_toList]
    refine ⟨sound.ordered, ?_, ?_⟩
    · cases ledger.waiting <;> simp
    · intro sent member ticket waits
      exact (sound.behind ticket waits).2.2 sent member
  case below =>
    intro ticket member
    simp only [step, mem_append, Option.mem_toList] at member
    rcases member with member | waits
    · exact sound.below ticket member
    · have newest := (sound.behind ticket waits).2.1
      simp only [step]
      omega
  case inFlight =>
    intro ticket waits
    exact mem_append_right _ (Option.mem_toList.mpr waits)
  case behind =>
    intro ticket waits
    cases waits
  case once =>
    simp only [step, map_append, leaving_tickets]
    exact nodup_with_place sound.once fun _ flying => current_not_gone sound flying
  case gone =>
    intro ticket
    have gone := sound.gone ticket
    simp only [step, map_append, leaving_tickets, mem_append, Option.mem_toList,
      ne_eq, reduceCtorEq, not_false_eq_true, and_true] at gone ⊢
    constructor
    · rintro (left | flying)
      · have ⟨before, _, other⟩ := gone.mp left
        exact ⟨before, other⟩
      · exact ⟨current_lt sound flying, fun waits => waiting_ne_current sound waits flying⟩
    · rintro ⟨before, other⟩
      by_cases flying : ledger.current = some ticket
      · exact Or.inr flying
      · exact Or.inl (gone.mpr ⟨before, flying, other⟩)
  case finished =>
    intro ticket how' member
    simp only [step, mem_append, mem_leaving, Option.mem_toList] at member ⊢
    rcases member with member | ⟨flying, -⟩
    · exact Or.inl (sound.finished ticket how' member)
    · exact Or.inl (sound.inFlight ticket flying)
  case skipped =>
    intro ticket exit member unfinished
    simp only [step, mem_append, mem_leaving] at member
    rcases member with member | ⟨-, finished⟩
    · have left : ticket ∈ ledger.exits.map Prod.fst := mem_map_of_mem member
      have other := ((sound.gone ticket).mp left).2.2
      simp only [step, mem_append, Option.mem_toList, not_or]
      exact ⟨sound.skipped ticket exit member unfinished, other⟩
    · exact absurd finished (unfinished how)
  case latest =>
    intro ticket member
    simp only [step, mem_append, mem_leaving, reduceCtorEq, and_false, or_false] at member
    exact sound.latest ticket member

theorem Sound.drop (sound : ledger.Sound) (how : κ) : (ledger.step (.drop how)).Sound := by
  obtain ⟨once, gone, finished, skipped⟩ := @Sound.vacates κ ledger sound (.dropped how) (by simp)
  refine ⟨sound.ordered, sound.below, sound.inFlight, fun ticket waits => (by cases waits), once,
    fun ticket => ?_, finished, skipped, fun ticket member => ?_⟩
  · refine (gone ticket).trans ?_
    simp [step]
  · simp only [step, mem_append, mem_leaving, reduceCtorEq, and_false, or_false] at member
    exact sound.latest ticket member

theorem step_reset (ledger : Ledger κ) (how : κ) : ledger.step (.reset how) = (ledger.step (.drop how)).step (.finish how) := by
  simp [step]

theorem Sound.step (sound : ledger.Sound) {move : Move κ} (allowed : ledger.Allows move) : (ledger.step move).Sound := by
  cases move with
  | start => exact sound.start allowed
  | wait => exact sound.wait allowed
  | finish how => exact sound.finish how
  | drop how => exact sound.drop how
  | reset how =>
    rw [step_reset]
    exact (sound.drop how).finish how

inductive Fate (κ : Type*) where
  | inFlight
  | queued
  | left (exit : Exit κ)

def fates (ledger : Ledger κ) (ticket : Nat) : List (Fate κ) :=
  (if ledger.current = some ticket then [.inFlight] else []) ++
    (if ledger.waiting = some ticket then [.queued] else []) ++
    (ledger.exits.filter (·.1 == ticket)).map fun exit => .left exit.2

theorem filter_ticket_of_notMem {exits : List (Nat × Exit κ)} (absent : ticket ∉ exits.map Prod.fst) :
    exits.filter (·.1 == ticket) = [] := by
  rw [filter_eq_nil_iff]
  intro exit member same
  have found := mem_map_of_mem (f := Prod.fst) member
  exact absent (beq_iff_eq.mp same ▸ found)

theorem filter_ticket_of_mem {exits : List (Nat × Exit κ)} (once : (exits.map Prod.fst).Nodup)
    (member : ticket ∈ exits.map Prod.fst) :
    ∃ exit, exits.filter (·.1 == ticket) = [exit] := by
  induction exits with
  | nil => simp at member
  | cons exit exits ih =>
    rw [map_cons, nodup_cons] at once
    by_cases here : exit.1 = ticket
    · have absent : ticket ∉ exits.map Prod.fst := here ▸ once.1
      exact ⟨exit, by simp [here, filter_ticket_of_notMem absent]⟩
    · have later : ticket ∈ exits.map Prod.fst := by
        rw [map_cons, mem_cons] at member
        exact member.resolve_left fun same => here same.symm
      obtain ⟨found, only⟩ := ih once.2 later
      exact ⟨found, by simp [here, only]⟩

theorem one_fate (sound : ledger.Sound) (known : ticket < ledger.accepted) : ∃ fate, ledger.fates ticket = [fate] := by
  by_cases flying : ledger.current = some ticket
  · have other : ledger.waiting ≠ some ticket := fun waits =>
      waiting_ne_current sound waits flying
    have here := filter_ticket_of_notMem (current_not_gone sound flying)
    exact ⟨.inFlight, by simp [fates, flying, other, here]⟩
  by_cases waits : ledger.waiting = some ticket
  · have here := filter_ticket_of_notMem (waiting_not_gone sound waits)
    exact ⟨.queued, by simp [fates, flying, waits, here]⟩
  · have left := (sound.gone ticket).mpr ⟨known, flying, waits⟩
    obtain ⟨exit, only⟩ := filter_ticket_of_mem sound.once left
    exact ⟨.left exit.2, by simp [fates, flying, waits, only]⟩

theorem dispatched_iff (sound : ledger.Sound) : ticket ∈ ledger.dispatched ↔
      ledger.current = some ticket ∨ ∃ how, (ticket, Exit.finished how) ∈ ledger.exits := by
  constructor
  · intro sent
    by_cases flying : ledger.current = some ticket
    · exact Or.inl flying
    have other : ledger.waiting ≠ some ticket := fun waits =>
      waiting_not_dispatched sound waits sent
    have left := (sound.gone ticket).mpr ⟨sound.below ticket sent, flying, other⟩
    obtain ⟨⟨_, exit⟩, member, rfl⟩ := mem_map.mp left
    by_cases done : ∃ how, exit = .finished how
    · obtain ⟨how, rfl⟩ := done
      exact Or.inr ⟨how, member⟩
    · exact absurd sent (sound.skipped _ exit member fun how same => done ⟨how, same⟩)
  · rintro (flying | ⟨how, member⟩)
    · exact sound.inFlight ticket flying
    · exact sound.finished ticket how member

theorem skipped_exit (sound : ledger.Sound) {ticket later : Nat} (sent : later ∈ ledger.dispatched)
    (before : ticket < later) (skipped : ticket ∉ ledger.dispatched) :
    (ticket, Exit.displaced) ∈ ledger.exits ∨ ∃ how, (ticket, Exit.dropped how) ∈ ledger.exits := by
  have known := Nat.lt_trans before (sound.below later sent)
  have flying : ledger.current ≠ some ticket := fun flying =>
    skipped (sound.inFlight ticket flying)
  have waits : ledger.waiting ≠ some ticket := by
    intro waits
    have behind := (sound.behind ticket waits).2.2 later sent
    omega
  have left := (sound.gone ticket).mpr ⟨known, flying, waits⟩
  obtain ⟨⟨_, exit⟩, member, rfl⟩ := mem_map.mp left
  cases exit with
  | finished how => exact absurd (sound.finished _ how member) skipped
  | displaced => exact Or.inl member
  | dropped how => exact Or.inr ⟨how, member⟩

theorem newest_fate (sound : ledger.Sound) (newest : ticket + 1 = ledger.accepted) :
    ledger.current = some ticket ∨ ledger.waiting = some ticket ∨
      ∃ how, (ticket, Exit.finished how) ∈ ledger.exits ∨ (ticket, Exit.dropped how) ∈ ledger.exits := by
  by_cases flying : ledger.current = some ticket
  · exact Or.inl flying
  by_cases waits : ledger.waiting = some ticket
  · exact Or.inr (Or.inl waits)
  have left := (sound.gone ticket).mpr ⟨by omega, flying, waits⟩
  obtain ⟨⟨_, exit⟩, member, rfl⟩ := mem_map.mp left
  cases exit with
  | finished how => exact Or.inr (Or.inr ⟨how, Or.inl member⟩)
  | displaced =>
    have older := sound.latest _ member
    omega
  | dropped how => exact Or.inr (Or.inr ⟨how, Or.inr member⟩)

def leftBy [DecidableEq κ] (ledger : Ledger κ) (exit : Exit κ) : List Nat :=
  (ledger.exits.filter (·.2 == exit)).map Prod.fst

section LeftBy

variable [DecidableEq κ] {ledger : Ledger κ}

theorem leftBy_leaving (place : Option Nat) (exit exit' : Exit κ) :
    ((leaving place exit).filter (·.2 == exit')).map Prod.fst = if exit = exit' then place.toList else [] := by
  cases place <;> by_cases same : exit = exit' <;> simp [leaving, same]

@[simp] theorem leftBy_start (exit : Exit κ) : (ledger.step .start).leftBy exit = ledger.leftBy exit := rfl

@[simp] theorem leftBy_wait (exit : Exit κ) : (ledger.step .wait).leftBy exit =
      ledger.leftBy exit ++ if .displaced = exit then ledger.waiting.toList else [] := by
  simp [leftBy, step, leftBy_leaving]

@[simp] theorem leftBy_finish (how : κ) (exit : Exit κ) : (ledger.step (.finish how)).leftBy exit =
      ledger.leftBy exit ++ if .finished how = exit then ledger.current.toList else [] := by
  simp [leftBy, step, leftBy_leaving]

@[simp] theorem leftBy_drop (how : κ) (exit : Exit κ) : (ledger.step (.drop how)).leftBy exit =
      ledger.leftBy exit ++ if .dropped how = exit then ledger.waiting.toList else [] := by
  simp [leftBy, step, leftBy_leaving]

theorem leftBy_lt (sound : ledger.Sound) {exit : Exit κ} {ticket : Nat}
    (left : ticket ∈ ledger.leftBy exit) : ticket < ledger.accepted := by
  obtain ⟨entry, member, rfl⟩ := mem_map.mp left
  exact ((sound.gone entry.1).mp (mem_map_of_mem (mem_filter.mp member).1)).1

end LeftBy

end Ledger

end Mailbox
