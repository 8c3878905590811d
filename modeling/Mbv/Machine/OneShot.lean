import Mathlib.Data.List.Basic
import Mathlib.Data.List.Nodup
import Mathlib.Logic.Relation

/-! A desk that serves one launch at a time. A launch may offer one ticket, whoever presents the
    ticket spends it, and a launch whose ticket was spent is completed later, by another hand. -/

namespace OneShot

open List

inductive Ending where
  | completed
  | abandoned
deriving DecidableEq

inductive Stage (τ : Type*) where
  | idle
  | begun
  | offered (ticket : τ)
  | claimed (ticket : τ)

/-- Launches are numbered from one, and `serial` is the last one begun. -/
structure Desk (τ : Type*) where
  stage : Stage τ := .idle
  serial : Nat := 0
  issued : List (Nat × τ) := []
  spent : List τ := []
  ended : List (Nat × Ending) := []

namespace Desk

variable {τ : Type*}

def leave (desk : Desk τ) (ending : Ending) : Desk τ :=
  { desk with stage := .idle, ended := desk.ended ++ [(desk.serial, ending)] }

/-- What a desk that honours its tickets does: it abandons no launch whose ticket was spent. -/
inductive Move : Desk τ → Desk τ → Prop
  | begins {desk : Desk τ} (idle : desk.stage = .idle) :
    Move desk { desk with stage := .begun, serial := desk.serial + 1 }
  | offers {desk : Desk τ} {ticket : τ} (begun : desk.stage = .begun)
    (fresh : ticket ∉ desk.issued.map Prod.snd) :
    Move desk
      { desk with stage := .offered ticket, issued := desk.issued ++ [(desk.serial, ticket)] }
  | spends {desk : Desk τ} {ticket : τ} (offered : desk.stage = .offered ticket) :
    Move desk { desk with stage := .claimed ticket, spent := desk.spent ++ [ticket] }
  | completes {desk : Desk τ} {ticket : τ} (claimed : desk.stage = .claimed ticket) :
    Move desk (desk.leave .completed)
  | abandons {desk : Desk τ}
    (unclaimed : desk.stage ≠ .idle ∧ ∀ ticket, desk.stage ≠ .claimed ticket) :
    Move desk (desk.leave .abandoned)

abbrev Moves : Desk τ → Desk τ → Prop := Relation.ReflTransGen Move

def Present (desk : Desk τ) : Prop :=
  match desk.stage with
  | .idle => True
  | .begun => desk.serial ∉ desk.issued.map Prod.fst
  | .offered ticket => (desk.serial, ticket) ∈ desk.issued ∧ ticket ∉ desk.spent
  | .claimed ticket => (desk.serial, ticket) ∈ desk.issued ∧ ticket ∈ desk.spent

structure Kept (desk : Desk τ) : Prop where
  numbered : ∀ launch ∈ desk.issued.map Prod.fst, 0 < launch ∧ launch ≤ desk.serial
  issuedOnce : (desk.issued.map Prod.fst).Nodup
  fresh : (desk.issued.map Prod.snd).Nodup
  begun : ∀ launch ∈ desk.ended.map Prod.fst, launch ≤ desk.serial
  endedOnce : (desk.ended.map Prod.fst).Nodup
  ends : ∀ launch, 0 < launch → launch ≤ desk.serial →
    (launch ∉ desk.ended.map Prod.fst ↔ launch = desk.serial ∧ desk.stage ≠ .idle)
  inFlight : desk.stage ≠ .idle → 0 < desk.serial
  present : desk.Present
  spentOnce : desk.spent.Nodup
  spentIssued : ∀ ticket ∈ desk.spent, ticket ∈ desk.issued.map Prod.snd
  completed : ∀ launch, (launch, .completed) ∈ desk.ended →
    ∃ ticket ∈ desk.spent, (launch, ticket) ∈ desk.issued
  honoured : ∀ launch ticket, (launch, ticket) ∈ desk.issued → ticket ∈ desk.spent →
    (launch, .abandoned) ∉ desk.ended

theorem kept_empty : ({} : Desk τ).Kept where
  numbered := by simp
  issuedOnce := by simp
  fresh := by simp
  begun := by simp
  endedOnce := by simp
  ends := by
    intro launch positive bound
    exact absurd bound (Nat.not_le.mpr positive)
  inFlight := by simp
  present := trivial
  spentOnce := by simp
  spentIssued := by simp
  completed := by simp
  honoured := by simp

variable {desk : Desk τ}

theorem Kept.unended (kept : desk.Kept) (busy : desk.stage ≠ .idle) : desk.serial ∉ desk.ended.map Prod.fst :=
  (kept.ends _ (kept.inFlight busy) (Nat.le_refl _)).mpr ⟨rfl, busy⟩

theorem Kept.one_ticket (kept : desk.Kept) {launch : Nat} {ticket other : τ}
    (first : (launch, ticket) ∈ desk.issued) (second : (launch, other) ∈ desk.issued) :
    ticket = other :=
  congrArg Prod.snd (inj_on_of_nodup_map kept.issuedOnce first second rfl)

theorem Kept.one_launch (kept : desk.Kept) {launch other : Nat} {ticket : τ}
    (first : (launch, ticket) ∈ desk.issued) (second : (other, ticket) ∈ desk.issued) :
    launch = other :=
  congrArg Prod.fst (inj_on_of_nodup_map kept.fresh first second rfl)

theorem Kept.begins (kept : desk.Kept) (idle : desk.stage = .idle) :
    Kept { desk with stage := .begun, serial := desk.serial + 1 } where
  numbered := by
    intro launch member
    have bound := kept.numbered launch member
    dsimp only
    omega
  issuedOnce := kept.issuedOnce
  fresh := kept.fresh
  begun launch member := Nat.le_succ_of_le (kept.begun launch member)
  endedOnce := kept.endedOnce
  ends := by
    intro launch positive bound
    dsimp only at bound ⊢
    have earlier := kept.ends launch positive
    have upper := kept.begun launch
    constructor
    · intro unended
      refine ⟨?_, by simp⟩
      apply Classical.byContradiction
      intro other
      have := (earlier (by omega)).mp unended
      exact this.2 idle
    · rintro ⟨rfl, -⟩ member
      have := upper member
      omega
  inFlight _ := Nat.succ_pos _
  present := by
    intro member
    have := (kept.numbered _ member).2
    dsimp only at this
    omega
  spentOnce := kept.spentOnce
  spentIssued := kept.spentIssued
  completed := kept.completed
  honoured := kept.honoured

theorem Kept.offers (kept : desk.Kept) {ticket : τ} (begun : desk.stage = .begun)
    (fresh : ticket ∉ desk.issued.map Prod.snd) :
    Kept { desk with
      stage := .offered ticket, issued := desk.issued ++ [(desk.serial, ticket)] } := by
  have busy : desk.stage ≠ .idle := by simp [begun]
  have unissued : desk.serial ∉ desk.issued.map Prod.fst := by
    have present := kept.present
    rwa [Present, begun] at present
  have unspent : ticket ∉ desk.spent := fun member => fresh (kept.spentIssued ticket member)
  refine
    { numbered := ?_, issuedOnce := ?_, fresh := ?_, begun := kept.begun
      endedOnce := kept.endedOnce, ends := ?_, inFlight := fun _ => kept.inFlight busy
      present := ⟨by simp, unspent⟩, spentOnce := kept.spentOnce, spentIssued := ?_
      completed := ?_, honoured := ?_ }
  · intro launch member
    simp only [map_append, mem_append, map_cons, map_nil,
      mem_singleton] at member
    rcases member with member | rfl
    · exact kept.numbered launch member
    · exact ⟨kept.inFlight busy, Nat.le_refl _⟩
  · simp only [map_append, map_cons, map_nil]
    exact List.Nodup.append kept.issuedOnce (by simp) (by simpa using unissued)
  · simp only [map_append, map_cons, map_nil]
    exact List.Nodup.append kept.fresh (by simp) (by simpa using fresh)
  · intro launch positive bound
    simpa [begun] using kept.ends launch positive bound
  · intro other member
    simpa using .inl (by simpa using kept.spentIssued other member)
  · intro launch member
    obtain ⟨other, spent, issued⟩ := kept.completed launch member
    exact ⟨other, spent, mem_append_left _ issued⟩
  · intro launch other issued spent
    simp only [mem_append, mem_singleton, Prod.mk.injEq] at issued
    rcases issued with issued | ⟨rfl, rfl⟩
    · exact kept.honoured launch other issued spent
    · exact absurd spent unspent

theorem Kept.spends (kept : desk.Kept) {ticket : τ} (offered : desk.stage = .offered ticket) :
    Kept { desk with stage := .claimed ticket, spent := desk.spent ++ [ticket] } := by
  have busy : desk.stage ≠ .idle := by simp [offered]
  obtain ⟨issued, unspent⟩ : (desk.serial, ticket) ∈ desk.issued ∧ ticket ∉ desk.spent := by
    have present := kept.present
    rwa [Present, offered] at present
  refine
    { numbered := kept.numbered, issuedOnce := kept.issuedOnce, fresh := kept.fresh
      begun := kept.begun, endedOnce := kept.endedOnce, ends := ?_
      inFlight := fun _ => kept.inFlight busy, present := ⟨issued, by simp⟩
      spentOnce := List.Nodup.append kept.spentOnce (by simp) (by simpa using unspent)
      spentIssued := ?_, completed := ?_, honoured := ?_ }
  · intro launch positive bound
    simpa [offered] using kept.ends launch positive bound
  · intro other member
    rcases mem_append.mp member with member | member
    · exact kept.spentIssued other member
    · rw [mem_singleton.mp member]
      exact mem_map_of_mem issued
  · intro launch member
    obtain ⟨other, spent, its⟩ := kept.completed launch member
    exact ⟨other, mem_append_left _ spent, its⟩
  · intro launch other its spent
    rcases mem_append.mp spent with spent | spent
    · exact kept.honoured launch other its spent
    · intro member
      rw [mem_singleton.mp spent] at its
      rw [kept.one_launch its issued] at member
      exact kept.unended busy (mem_map_of_mem member)

/-- A launch leaves: completed with its ticket spent, or abandoned with no ticket spent. -/
theorem Kept.leaves (kept : desk.Kept) {ending : Ending} (busy : desk.stage ≠ .idle)
    (completed : ending = .completed → ∃ ticket, desk.stage = .claimed ticket)
    (abandoned : ending = .abandoned → ∀ ticket, desk.stage ≠ .claimed ticket) :
    (desk.leave ending).Kept := by
  have unended := kept.unended busy
  refine
    { numbered := kept.numbered, issuedOnce := kept.issuedOnce, fresh := kept.fresh
      begun := ?_, endedOnce := ?_, ends := ?_, inFlight := fun same => absurd rfl same
      present := trivial, spentOnce := kept.spentOnce, spentIssued := kept.spentIssued
      completed := ?_, honoured := ?_ }
  · intro launch member
    simp only [leave, map_append, mem_append, map_cons, map_nil,
      mem_singleton] at member
    rcases member with member | rfl
    · exact kept.begun launch member
    · exact Nat.le_refl _
  · simp only [leave, map_append, map_cons, map_nil]
    exact List.Nodup.append kept.endedOnce (by simp) (by simpa using unended)
  · intro launch positive bound
    have earlier := kept.ends launch positive bound
    simp only [leave, map_append, map_cons, map_nil, mem_append,
      mem_singleton, ne_eq, not_true_eq_false, and_false, iff_false, not_not]
    by_cases current : launch = desk.serial
    · exact .inr current
    · apply Classical.byContradiction
      intro outside
      exact current (earlier.mp fun member => outside (.inl member)).1
  · intro launch member
    rcases mem_append.mp member with member | member
    · exact kept.completed launch member
    · obtain ⟨rfl, same⟩ := Prod.mk.inj (mem_singleton.mp member)
      obtain ⟨ticket, claimed⟩ := completed same.symm
      have present := kept.present
      rw [Present, claimed] at present
      exact ⟨ticket, present.2, present.1⟩
  · intro launch ticket issued spent member
    rcases mem_append.mp member with member | member
    · exact kept.honoured launch ticket issued spent member
    · obtain ⟨rfl, same⟩ := Prod.mk.inj (mem_singleton.mp member)
      have unclaimed := abandoned same.symm
      have present := kept.present
      cases stage : desk.stage with
      | idle => exact busy stage
      | begun =>
        rw [Present, stage] at present
        exact present (mem_map_of_mem issued)
      | offered other =>
        rw [Present, stage] at present
        exact present.2 (kept.one_ticket present.1 issued ▸ spent)
      | claimed other => exact unclaimed other stage

theorem Move.kept {after : Desk τ} (move : Move desk after) (kept : desk.Kept) : after.Kept := by
  cases move with
  | begins idle => exact kept.begins idle
  | offers begun fresh => exact kept.offers begun fresh
  | spends offered => exact kept.spends offered
  | completes claimed =>
    exact kept.leaves (by simp [claimed]) (fun _ => ⟨_, claimed⟩) (fun same => by cases same)
  | abandons unclaimed =>
    exact kept.leaves unclaimed.1 (fun same => by cases same) (fun _ => unclaimed.2)

theorem Moves.kept {after : Desk τ} (moves : Moves desk after) (kept : desk.Kept) : after.Kept := by
  induction moves with
  | refl => exact kept
  | tail _ move ih => exact move.kept ih

theorem Kept.fulfilled (kept : desk.Kept) {launch : Nat} {ticket : τ}
    (issued : (launch, ticket) ∈ desk.issued) (spent : ticket ∈ desk.spent) :
    (launch, .completed) ∈ desk.ended ∨ (launch = desk.serial ∧ desk.stage = .claimed ticket) := by
  obtain ⟨positive, bound⟩ := kept.numbered launch (mem_map_of_mem issued)
  by_cases left : launch ∈ desk.ended.map Prod.fst
  · obtain ⟨⟨_, ending⟩, member, rfl⟩ := mem_map.mp left
    cases ending with
    | completed => exact .inl member
    | abandoned => exact absurd member (kept.honoured _ ticket issued spent)
  · obtain ⟨rfl, busy⟩ := (kept.ends launch positive bound).mp left
    have present := kept.present
    refine .inr ⟨rfl, ?_⟩
    cases stage : desk.stage with
    | idle => exact absurd stage busy
    | begun =>
      rw [Present, stage] at present
      exact absurd (mem_map_of_mem issued) present
    | offered other =>
      rw [Present, stage] at present
      exact absurd (kept.one_ticket issued present.1 ▸ spent) present.2
    | claimed other =>
      rw [Present, stage] at present
      rw [kept.one_ticket issued present.1]

theorem Kept.overtaken (kept : desk.Kept) {ticket : τ} (claimed : desk.stage = .claimed ticket) :
    ∃ launch, (launch, ticket) ∈ (desk.leave .abandoned).issued ∧ ticket ∈ (desk.leave .abandoned).spent ∧
      (launch, .abandoned) ∈ (desk.leave .abandoned).ended := by
  have present := kept.present
  rw [Present, claimed] at present
  exact ⟨desk.serial, present.1, present.2, by simp [leave]⟩

end Desk

end OneShot
