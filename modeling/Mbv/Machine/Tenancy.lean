import Mathlib.Data.List.Basic
import Mathlib.Data.List.Nodup
import Mathlib.Logic.Relation

/-! A place held by one tenant after another. A tenant with a voice is announced at most once and
    dismissed after that, and what it was given the key of is returned when its voice goes. Tenants
    and keys are numbered in the order they come in. -/

namespace Tenancy

open List

/-- A tenant's `voice` is what it is announced by, with the key it has to return, if any. -/
structure Tenant where
  number : Nat
  voice : Option (Option Nat)
  announced : Bool := false
  settled : Bool := false

inductive Entry where
  | issued (key : Nat)
  | returned (key : Nat)
  | announced (tenant : Nat)
  | dismissed (tenant : Nat)
  | settled (tenant : Nat)
deriving DecidableEq

/-- `transit` are the keys issued for a tenant still to come. -/
structure House where
  tenant : Option Tenant := none
  tenants : Nat := 0
  keys : Nat := 0
  transit : List Nat := []
  log : List Entry := []

def returning (key : Option Nat) : List Entry := key.toList.map .returned

def Tenant.key (tenant : Tenant) : Option Nat := tenant.voice.join

namespace House

def kept (house : House) : List Nat := (house.tenant.bind Tenant.key).toList ++ house.transit

def lose (house : House) (key : Nat) : House := { house with transit := house.transit.erase key }

end House

inductive Move : House → House → Prop
  | announces {house : House} {tenant : Tenant} (held : house.tenant = some tenant)
    (voiced : tenant.voice.isSome) (silent : tenant.announced = false) :
    Move house { house with
      tenant := some { tenant with announced := true }
      log := house.log ++ [.announced tenant.number] }
  | dismisses {house : House} {tenant : Tenant} (held : house.tenant = some tenant)
    (voiced : tenant.voice.isSome) (heard : tenant.announced = true) :
    Move house { house with
      tenant := some { tenant with voice := none }
      log := house.log ++ .dismissed tenant.number :: returning tenant.key }
  | settles {house : House} {tenant : Tenant} (held : house.tenant = some tenant)
    (open_ : tenant.settled = false) :
    Move house { house with
      tenant := some { tenant with settled := true }
      log := house.log ++ [.settled tenant.number] }
  | leaves {house : House} {tenant : Tenant} (held : house.tenant = some tenant) :
    Move house { house with tenant := none, log := house.log ++ returning tenant.key }
  | enters {house : House} {voice : Option (Option Nat)} (vacant : house.tenant = none)
    (owned : ∀ key ∈ voice.join, key ∈ house.transit) :
    Move house { house with
      tenant := some { number := house.tenants, voice := voice }
      tenants := house.tenants + 1
      transit := voice.join.elim house.transit house.transit.erase }
  | issues {house : House} :
    Move house { house with
      keys := house.keys + 1
      transit := house.transit ++ [house.keys]
      log := house.log ++ [.issued house.keys] }
  | returns {house : House} {key : Nat} (carried : key ∈ house.transit) :
    Move house { house with
      transit := house.transit.erase key
      log := house.log ++ [.returned key] }

abbrev Moves : House → House → Prop := Relation.ReflTransGen Move

theorem Moves.of_eq {before after : House} (same : before = after) : Moves before after := same ▸ .refl

/-! ### Who was announced, and when -/

/-- An entry a tenant has at most once in the log. -/
def Entry.Single : Entry → Prop
  | .announced _ | .dismissed _ | .settled _ => True
  | .issued _ | .returned _ => False

def Entry.tenant? : Entry → Option Nat
  | .announced tenant | .dismissed tenant | .settled tenant => some tenant
  | .issued _ | .returned _ => none

/-- Each tenant is announced, dismissed and settled at most once, and dismissed only when it has been
    announced and no later one has. -/
structure Bracketed (log : List Entry) : Prop where
  once : ∀ entry, entry.Single → log.count entry ≤ 1
  inside : ∀ before tenant after, log = before ++ .dismissed tenant :: after →
    .announced tenant ∈ before ∧ ∀ later, tenant < later → .announced later ∉ before

theorem Bracketed.nil : Bracketed [] where
  once := by simp
  inside before tenant after split := by simp at split

theorem Bracketed.snoc {log : List Entry} (bracketed : Bracketed log) {entry : Entry} (fresh : entry.Single → entry ∉ log)
    (within : ∀ tenant, entry = .dismissed tenant → .announced tenant ∈ log ∧ ∀ later, tenant < later → .announced later ∉ log) :
    Bracketed (log ++ [entry]) where
  once := by
    intro other single
    have before := bracketed.once other single
    rw [count_append]
    by_cases same : entry = other
    · subst same
      have none : log.count entry = 0 := count_eq_zero.mpr (fresh single)
      simp [none]
    · simp [same, before]
  inside := by
    intro before tenant after split
    rcases eq_nil_or_concat after with rfl | ⟨front, last, rfl⟩
    · obtain ⟨rfl, ends⟩ := append_inj' split rfl
      exact within tenant (singleton_inj.mp ends)
    · have same : log ++ [entry] = (before ++ .dismissed tenant :: front) ++ [last] := by
        simpa using split
      exact bracketed.inside before tenant front (append_inj' same rfl).1

theorem Bracketed.returning {log : List Entry} (bracketed : Bracketed log) (key : Option Nat) :
    Bracketed (log ++ returning key) := by
  cases key with
  | none => simpa [Tenancy.returning] using bracketed
  | some key => exact bracketed.snoc (by simp [Entry.Single]) (by simp)

structure Known (log : List Entry) (tenant : Tenant) : Prop where
  announced : .announced tenant.number ∈ log ↔ tenant.announced = true
  dismissed : .dismissed tenant.number ∈ log → tenant.voice = none
  settled : .settled tenant.number ∈ log ↔ tenant.settled = true

/-- How often a key is found, returned or still kept. -/
def House.places (house : House) (key : Nat) : Nat :=
  house.log.count (.returned key) + house.kept.count key

/-- Every key issued was returned once, or is still kept. -/
def House.Accounted (house : House) : Prop :=
  ∀ key, house.places key = if key < house.keys then 1 else 0

structure Kept (house : House) : Prop where
  bracketed : Bracketed house.log
  /-- Only tenants that came in are in the log. -/
  numbered : ∀ entry ∈ house.log, ∀ tenant ∈ entry.tenant?, tenant < house.tenants
  newest : ∀ tenant ∈ house.tenant, tenant.number + 1 = house.tenants
  known : ∀ tenant ∈ house.tenant, Known house.log tenant
  single : ∀ key, house.places key ≤ if key < house.keys then 1 else 0

theorem kept_empty : Kept {} where
  bracketed := .nil
  numbered := by simp
  newest := by simp
  known := by simp
  single := by simp [House.places, House.kept]

theorem accounted_empty : House.Accounted {} := by simp [House.Accounted, House.places, House.kept]

variable {house before after : House}

/-! ### Where the keys are -/

@[simp] theorem count_returning (key : Option Nat) (other : Nat) :
    (returning key).count (.returned other) = key.toList.count other := by
  cases key with
  | none => rfl
  | some key => simp [returning, count_singleton]

theorem kept_of_tenant {tenant : Tenant} (held : house.tenant = some tenant) :
    house.kept = tenant.key.toList ++ house.transit := by
  simp [House.kept, held]

theorem kept_of_vacant (vacant : house.tenant = none) : house.kept = house.transit := by
  simp [House.kept, vacant]

theorem count_taken {transit : List Nat} {key : Option Nat} (owned : ∀ mine ∈ key, mine ∈ transit) (other : Nat) :
    (key.toList ++ key.elim transit transit.erase).count other = transit.count other := by
  cases key with
  | none => rfl
  | some key => exact (perm_cons_erase (owned key rfl)).symm.count_eq other

theorem Move.places (move : Move before after) (key : Nat) : after.places key + (if key < before.keys then 1 else 0) =
      before.places key + (if key < after.keys then 1 else 0) := by
  unfold House.places
  cases move with
  | announces held | settles held =>
    rw [kept_of_tenant held, kept_of_tenant rfl]
    simp [Tenant.key]
  | dismisses held =>
    rw [kept_of_tenant held, kept_of_tenant rfl]
    simp [Tenant.key]
    omega
  | leaves held =>
    rw [kept_of_tenant held, kept_of_vacant rfl]
    simp
    omega
  | enters vacant owned =>
    rw [kept_of_vacant vacant, kept_of_tenant rfl]
    exact congrArg (_ + · + _) (count_taken owned key)
  | issues =>
    simp [House.kept, count_singleton]
    split <;> split <;> split <;> omega
  | returns carried =>
    have moved := (perm_cons_erase carried).count_eq key
    simp [House.kept, count_singleton, count_cons] at moved ⊢
    omega

theorem Moves.places (moves : Moves before after) (key : Nat) : after.places key + (if key < before.keys then 1 else 0) =
      before.places key + (if key < after.keys then 1 else 0) := by
  induction moves with
  | refl => rfl
  | tail _ move ih =>
    have last := move.places key
    omega

theorem Moves.accounted (moves : Moves before after) (accounted : before.Accounted) :
    after.Accounted := by
  intro key
  have balance := moves.places key
  have start := accounted key
  omega

theorem Move.keys (move : Move before after) : before.keys ≤ after.keys := by
  cases move <;> simp

theorem Moves.keys (moves : Moves before after) : before.keys ≤ after.keys := by
  induction moves with
  | refl => exact Nat.le_refl _
  | tail _ move ih => exact Nat.le_trans ih move.keys

/-! ### What a move keeps -/

theorem Known.other {log : List Entry} {tenant : Tenant} (known : Known log tenant)
    {entries : List Entry} (others : ∀ entry ∈ entries, entry.tenant? = none) :
    Known (log ++ entries) tenant := by
  have silent : ∀ entry : Entry, entry.tenant? = some tenant.number → (entry ∈ log ++ entries ↔ entry ∈ log) := by
    intro entry own
    rw [mem_append, or_iff_left]
    intro member
    rw [others entry member] at own
    cases own
  exact ⟨(silent _ rfl).trans known.announced, fun member => known.dismissed ((silent _ rfl).mp member),
    (silent _ rfl).trans known.settled⟩

theorem returning_tenant (key : Option Nat) : ∀ entry ∈ returning key, entry.tenant? = none := by
  intro entry member
  obtain ⟨returned, -, rfl⟩ := mem_map.mp member
  rfl

theorem Kept.keys_single (kept : Kept before) (move : Move before after) (key : Nat) :
    after.places key ≤ if key < after.keys then 1 else 0 := by
  have balance := move.places key
  have start := kept.single key
  omega

theorem Kept.numbered_append (kept : Kept house) {entries : List Entry}
    (own : ∀ entry ∈ entries, ∀ number ∈ entry.tenant?, ∃ tenant ∈ house.tenant, tenant.number = number) :
    ∀ entry ∈ house.log ++ entries, ∀ number ∈ entry.tenant?, number < house.tenants := by
  intro entry member number mine
  rcases mem_append.mp member with earlier | new
  · exact kept.numbered entry earlier number mine
  · obtain ⟨tenant, held, rfl⟩ := own entry new number mine
    have newest := kept.newest tenant held
    omega

theorem Kept.later_absent (kept : Kept house) {tenant : Tenant}
    (held : house.tenant = some tenant) {later : Nat} (newer : tenant.number < later) :
    .announced later ∉ house.log := by
  intro member
  have bound := kept.numbered _ member later rfl
  have newest := kept.newest tenant held
  omega

theorem Move.kept (move : Move before after) (kept : Kept before) : Kept after := by
  have single := kept.keys_single move
  cases move with
  | @announces tenant held voiced silent =>
    have known := kept.known tenant held
    have absent : Entry.announced tenant.number ∉ before.log := by
      rw [known.announced, silent]
      simp
    refine ⟨kept.bracketed.snoc (fun _ => absent) (by simp), ?_, ?_, ?_, single⟩
    · exact kept.numbered_append (by simp [Entry.tenant?, held])
    · simpa using kept.newest tenant held
    · rintro _ ⟨⟩
      exact ⟨by simp, by simpa using known.dismissed, by simpa using known.settled⟩
  | @dismisses tenant held voiced heard =>
    have known := kept.known tenant held
    have absent : Entry.dismissed tenant.number ∉ before.log := by
      intro member
      rw [known.dismissed member] at voiced
      cases voiced
    have announced := known.announced.mpr heard
    have dismissed : Bracketed (before.log ++ [.dismissed tenant.number]) := by
      apply kept.bracketed.snoc fun _ => absent
      rintro _ ⟨⟩
      exact ⟨announced, fun later newer => kept.later_absent held newer⟩
    refine ⟨?_, ?_, ?_, ?_, single⟩
    · simpa using dismissed.returning tenant.key
    · refine kept.numbered_append ?_
      intro entry member number mine
      rcases mem_cons.mp member with rfl | returned
      · exact ⟨tenant, held, Option.some.inj mine⟩
      · rw [returning_tenant _ entry returned] at mine
        cases mine
    · simpa using kept.newest tenant held
    · rintro _ ⟨⟩
      have grown : Known (before.log ++ [.dismissed tenant.number]) { tenant with voice := none } :=
        ⟨by simpa using known.announced, fun _ => rfl, by simpa using known.settled⟩
      simpa using grown.other (returning_tenant tenant.key)
  | @settles tenant held open_ =>
    have known := kept.known tenant held
    have absent : Entry.settled tenant.number ∉ before.log := by
      rw [known.settled, open_]
      simp
    refine ⟨kept.bracketed.snoc (fun _ => absent) (by simp), ?_, ?_, ?_, single⟩
    · exact kept.numbered_append (by simp [Entry.tenant?, held])
    · simpa using kept.newest tenant held
    · rintro _ ⟨⟩
      exact ⟨by simpa using known.announced, by simpa using known.dismissed, by simp⟩
  | @leaves tenant held =>
    refine ⟨kept.bracketed.returning _, ?_, by simp, by simp, single⟩
    refine kept.numbered_append ?_
    intro entry member number mine
    rw [returning_tenant _ entry member] at mine
    cases mine
  | @enters voice vacant owned =>
    refine ⟨kept.bracketed, ?_, by simp, ?_, single⟩
    · intro entry member number mine
      exact Nat.lt_succ_of_lt (kept.numbered entry member number mine)
    · rintro _ ⟨⟩
      have fresh : ∀ entry : Entry, entry.tenant? = some before.tenants → entry ∉ before.log :=
        fun entry mine member => Nat.lt_irrefl _ (kept.numbered entry member _ mine)
      exact ⟨by simpa using fresh _ rfl, fun member => absurd member (fresh _ rfl), by simpa using fresh _ rfl⟩
  | issues =>
    refine ⟨kept.bracketed.snoc (by simp [Entry.Single]) (by simp), ?_, kept.newest, ?_, single⟩
    · exact kept.numbered_append (by simp [Entry.tenant?])
    · exact fun tenant held => (kept.known tenant held).other (by simp [Entry.tenant?])
  | returns carried =>
    refine ⟨kept.bracketed.snoc (by simp [Entry.Single]) (by simp), ?_, kept.newest, ?_, single⟩
    · exact kept.numbered_append (by simp [Entry.tenant?])
    · exact fun tenant held => (kept.known tenant held).other (by simp [Entry.tenant?])

theorem Moves.kept (moves : Moves before after) (kept : Kept before) : Kept after := by
  induction moves with
  | refl => exact kept
  | tail _ move ih => exact move.kept ih

/-! ### A key that is lost -/

theorem places_lose (key other : Nat) : (house.lose key).places other = if key = other ∧ key ∈ house.transit
      then house.places other - 1 else house.places other := by
  unfold House.places House.kept House.lose
  simp only [count_append, count_erase]
  by_cases same : key = other
  · subst same
    by_cases carried : key ∈ house.transit
    · have found := count_pos_iff.mpr carried
      simp [carried]
      omega
    · simp [carried, count_eq_zero.mpr carried]
  · simp [same]

theorem Kept.lose (kept : Kept house) (key : Nat) : Kept (house.lose key) := by
  refine ⟨kept.bracketed, kept.numbered, kept.newest, kept.known, ?_⟩
  intro other
  have single := kept.single other
  rw [places_lose]
  change _ ≤ if other < house.keys then 1 else 0
  split <;> omega

theorem Kept.not_accounted (kept : Kept before) {key : Nat} (carried : key ∈ before.transit)
    (moves : Moves (before.lose key) after) : ¬ after.Accounted := by
  intro accounted
  have found : 0 < before.places key := by
    unfold House.places House.kept
    have := count_pos_iff.mpr carried
    rw [count_append]
    omega
  have single := kept.single key
  have issued : key < before.keys := by
    apply Classical.byContradiction
    intro above
    rw [if_neg above] at single
    omega
  have lost := @places_lose before key key
  have balance := moves.places key
  have grown : before.keys ≤ after.keys := moves.keys
  have last := accounted key
  change _ + (if key < before.keys then 1 else 0) = _ at balance
  rw [if_pos ⟨rfl, carried⟩] at lost
  rw [if_pos issued] at single balance
  rw [if_pos (Nat.lt_of_lt_of_le issued grown)] at last balance
  omega

end Tenancy
