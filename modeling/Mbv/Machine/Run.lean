import Mathlib.Logic.Basic

/-- A deterministic machine: `step` answers every input in every state, and a run folds it over
    the inputs it is given. -/
structure Machine (σ ι : Type*) where
  step : σ → ι → σ

namespace Machine

variable {σ ι : Type*} (m : Machine σ ι)

def run (s : σ) (inputs : List ι) : σ := inputs.foldl m.step s

@[simp] theorem run_nil (s : σ) : m.run s [] = s := rfl

@[simp] theorem run_cons (s : σ) (i : ι) (inputs : List ι) : m.run s (i :: inputs) = m.run (m.step s i) inputs := rfl

theorem run_append (s : σ) (first second : List ι) : m.run s (first ++ second) = m.run (m.run s first) second := by
  simp [run, List.foldl_append]

/-- `P` holds of every input the run takes, judged in the state it is taken in. -/
def Along (P : σ → ι → Prop) : σ → List ι → Prop
  | _, [] => True
  | s, i :: inputs => P s i ∧ Along P (m.step s i) inputs

instance Along.decide (P : σ → ι → Prop) [∀ s i, Decidable (P s i)] :
    ∀ (s : σ) (inputs : List ι), Decidable (m.Along P s inputs)
  | _, [] => isTrue True.intro
  | s, i :: inputs =>
    have := Along.decide P (m.step s i) inputs
    inferInstanceAs (Decidable (P s i ∧ m.Along P (m.step s i) inputs))

variable {m}

@[simp] theorem along_nil {P : σ → ι → Prop} {s : σ} : m.Along P s [] := True.intro

@[simp] theorem along_cons {P : σ → ι → Prop} {s : σ} {i : ι} {inputs : List ι} :
    m.Along P s (i :: inputs) ↔ P s i ∧ m.Along P (m.step s i) inputs := Iff.rfl

theorem along_append {P : σ → ι → Prop} {s : σ} {first second : List ι} :
    m.Along P s (first ++ second) ↔ m.Along P s first ∧ m.Along P (m.run s first) second := by
  induction first generalizing s with
  | nil => simp
  | cons i inputs ih => simp [ih, and_assoc]

theorem Along.and {P Q : σ → ι → Prop} {s : σ} {inputs : List ι} (left : m.Along P s inputs) (right : m.Along Q s inputs) :
    m.Along (fun s i => P s i ∧ Q s i) s inputs := by
  induction inputs generalizing s with
  | nil => trivial
  | cons i inputs ih => exact ⟨⟨left.1, right.1⟩, ih left.2 right.2⟩

theorem Along.mono {P Q : σ → ι → Prop} (weaker : ∀ s i, P s i → Q s i) {s : σ} {inputs : List ι}
    (along : m.Along P s inputs) : m.Along Q s inputs := by
  induction inputs generalizing s with
  | nil => trivial
  | cons i inputs ih => exact ⟨weaker s i along.1, ih along.2⟩

/-- The induction every invariant is proved by: it holds at the start, and one step whose input
    meets `P` keeps it. -/
theorem run_invariant {Inv : σ → Prop} {P : σ → ι → Prop} (keep : ∀ s i, Inv s → P s i → Inv (m.step s i))
    {s : σ} {inputs : List ι} (start : Inv s) (along : m.Along P s inputs) :
    Inv (m.run s inputs) := by
  induction inputs generalizing s with
  | nil => exact start
  | cons i inputs ih => exact ih (keep s i start along.1) along.2

theorem along_of_forall {P : σ → ι → Prop} {s : σ} {inputs : List ι} (each : ∀ i ∈ inputs, ∀ s, P s i) : m.Along P s inputs := by
  induction inputs generalizing s with
  | nil => trivial
  | cons i inputs ih =>
    exact ⟨each i List.mem_cons_self s, ih fun j member => each j (List.mem_cons_of_mem i member)⟩

theorem run_holds {Inv : σ → Prop} (keep : ∀ s i, Inv s → Inv (m.step s i))
    {s : σ} (inputs : List ι) (start : Inv s) : Inv (m.run s inputs) :=
  run_invariant (P := fun _ _ => True) (fun s i inv _ => keep s i inv) start (along_of_forall fun _ _ _ => trivial)

theorem along_of_invariant {Inv : σ → Prop} {P Q : σ → ι → Prop} (keep : ∀ s i, Inv s → P s i → Inv (m.step s i))
    (each : ∀ s i, Inv s → P s i → Q s i)
    {s : σ} {inputs : List ι} (start : Inv s) (along : m.Along P s inputs) :
    m.Along Q s inputs := by
  induction inputs generalizing s with
  | nil => trivial
  | cons i inputs ih => exact ⟨each s i start along.1, ih (keep s i start along.1) along.2⟩

theorem along_iff {Inv : σ → Prop} {P Q : σ → ι → Prop} (keep : ∀ s i, Inv s → P s i → Inv (m.step s i))
    (each : ∀ s i, Inv s → (Q s i ↔ P s i))
    {s : σ} {inputs : List ι} (start : Inv s) : m.Along Q s inputs ↔ m.Along P s inputs := by
  induction inputs generalizing s with
  | nil => exact Iff.rfl
  | cons i inputs ih =>
    rw [along_cons, along_cons, each s i start]
    exact and_congr_right fun holds => ih (keep s i start holds)

end Machine
