import Mbv.Sequence.Ordered

/-! Writers that each change one key of a map, run one after the other. -/

namespace Ordered

open List

variable {κ α : Type*} [LinearOrder κ]

structure Writer (κ α : Type*) [LinearOrder κ] where
  key : κ
  effect : Option α → Option (Option α)
  write : List (κ × α) → Option (List (κ × α))
  fails : ∀ map, write map = none → effect (get key map) = none
  here : ∀ map next, write map = some next → effect (get key map) = some (get key next)
  others : ∀ map next, write map = some next → ∀ k, k ≠ key → get k next = get k map

namespace Writer

def put (key : κ) (value : α) : Writer κ α where
  key
  effect _ := some (some value)
  write map := some (insert key value map)
  fails _ failed := by cases failed
  here _ _ wrote := by
    cases wrote
    simp
  others _ _ wrote k apart := by
    cases wrote
    simp [apart]

def drop (key : κ) : Writer κ α where
  key
  effect _ := some none
  write map := some (remove key map)
  fails _ failed := by cases failed
  here _ _ wrote := by
    cases wrote
    simp
  others _ _ wrote k apart := by
    cases wrote
    simp [apart]

def keep (key : κ) : Writer κ α where
  key
  effect value := some value
  write map := some map
  fails _ failed := by cases failed
  here _ _ wrote := by
    cases wrote
    rfl
  others _ _ wrote k apart := by
    cases wrote
    rfl

def patch {β : Type*} (key : κ) (opened : Option α → Option β) (change : β → Option β)
    (closed : β → α) : Writer κ α where
  key
  effect value := (opened value).bind fun found => (change found).map fun next => some (closed next)
  write map :=
    (opened (get key map)).bind fun found =>
      (change found).map fun next => insert key (closed next) map
  fails map failed := by
    cases found : opened (get key map) with
    | none => rfl
    | some inner =>
      cases changed : change inner with
      | none => simp [changed]
      | some next => simp [found, changed] at failed
  here map next wrote := by
    obtain ⟨found, isOpen, wrote⟩ := Option.bind_eq_some_iff.mp wrote
    obtain ⟨inner, changed, rfl⟩ := Option.map_eq_some_iff.mp wrote
    simp [isOpen, changed]
  others map next wrote k apart := by
    obtain ⟨found, isOpen, wrote⟩ := Option.bind_eq_some_iff.mp wrote
    obtain ⟨inner, changed, rfl⟩ := Option.map_eq_some_iff.mp wrote
    simp [apart]

def run (writers : List (Writer κ α)) (map : List (κ × α)) : Option (List (κ × α)) :=
  writers.foldlM (fun map writer => writer.write map) map

variable {writers : List (Writer κ α)} {map next : List (κ × α)}

theorem run_others (ran : run writers map = some next) {k : κ}
    (apart : ∀ writer ∈ writers, k ≠ writer.key) : get k next = get k map := by
  induction writers generalizing map with
  | nil =>
    cases ran
    rfl
  | cons writer writers ih =>
    obtain ⟨middle, wrote, ran⟩ := Option.bind_eq_some_iff.mp ran
    rw [ih ran fun other member => apart other (mem_cons_of_mem _ member)]
    exact writer.others map middle wrote k (apart writer mem_cons_self)

theorem run_here (distinct : (writers.map (·.key)).Nodup) (ran : run writers map = some next) :
    ∀ writer ∈ writers, writer.effect (get writer.key map) = some (get writer.key next) := by
  induction writers generalizing map with
  | nil => simp
  | cons writer writers ih =>
    obtain ⟨fresh, rest⟩ := nodup_cons.mp distinct
    obtain ⟨middle, wrote, later⟩ := Option.bind_eq_some_iff.mp ran
    intro other member
    rcases mem_cons.mp member with rfl | there
    · have kept := run_others later fun writer there same =>
        fresh (mem_map.mpr ⟨writer, there, same.symm⟩)
      rw [kept]
      exact other.here map middle wrote
    · have apart : other.key ≠ writer.key := fun same =>
        fresh (mem_map.mpr ⟨other, there, same⟩)
      rw [← writer.others map middle wrote other.key apart]
      exact ih rest later other there

theorem run_isSome (distinct : (writers.map (·.key)).Nodup)
    (effects : ∀ writer ∈ writers, (writer.effect (get writer.key map)).isSome = true) :
    (run writers map).isSome = true := by
  induction writers generalizing map with
  | nil => rfl
  | cons writer writers ih =>
    obtain ⟨fresh, rest⟩ := nodup_cons.mp distinct
    cases wrote : writer.write map with
    | none =>
      have failed := effects writer mem_cons_self
      rw [writer.fails map wrote] at failed
      cases failed
    | some middle =>
      have later := @ih middle rest fun other member => by
        have apart : other.key ≠ writer.key := fun same =>
          fresh (mem_map.mpr ⟨other, member, same⟩)
        rw [writer.others map middle wrote other.key apart]
        exact effects other (mem_cons_of_mem _ member)
      unfold run at later ⊢
      rw [foldlM_cons, wrote]
      exact later

theorem run_meets_iff {jobs : List (Writer κ α × (Option α → Prop))} (distinct : (jobs.map fun job => job.1.key).Nodup) :
    (∃ next, run (jobs.map Prod.fst) map = some next ∧ ∀ job ∈ jobs, job.2 (get job.1.key next)) ↔
      ∀ job ∈ jobs, ∃ value, job.1.effect (get job.1.key map) = some value ∧ job.2 value := by
  have apart : ((jobs.map Prod.fst).map (·.key)).Nodup := by
    rw [map_map]
    exact distinct
  constructor
  · rintro ⟨next, ran, meets⟩ job member
    exact ⟨_, run_here apart ran job.1 (mem_map_of_mem member), meets job member⟩
  · intro effects
    have ends := @run_isSome _ _ _ _ map apart fun writer member => by
      obtain ⟨job, there, rfl⟩ := mem_map.mp member
      obtain ⟨value, effect, -⟩ := effects job there
      simp [effect]
    obtain ⟨next, ran⟩ := Option.isSome_iff_exists.mp ends
    refine ⟨next, ran, fun job member => ?_⟩
    obtain ⟨value, effect, meets⟩ := effects job member
    have here := run_here apart ran job.1 (mem_map_of_mem member)
    rw [effect] at here
    exact Option.some.inj here ▸ meets

end Writer

end Ordered
