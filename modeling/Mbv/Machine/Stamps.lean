import Mathlib.Logic.Function.Iterate
import Mbv.Machine.Run

namespace Machine

/-- A state shows a content under a stamp, and draws its stamps from a counter. `drawn` counts what
    the counter has given out. -/
structure StampView (σ κ τ : Type*) where
  content : σ → κ
  stamp : σ → τ
  counter : σ → τ
  drawn : σ → Nat

namespace StampView

variable {σ ι κ τ : Type*} (view : StampView σ κ τ) (next : τ → τ)

/-- A step shows the same content under the same stamp, others drawing in the meantime, or takes the
    counter's stamp for whatever it shows. -/
inductive StampStep (before after : σ) : Prop
  | kept (content : view.content after = view.content before)
      (stamp : view.stamp after = view.stamp before) (others : Nat)
      (counter : view.counter after = next^[others] (view.counter before))
      (drawn : view.drawn after = view.drawn before + others)
  | stamped (stamp : view.stamp after = view.counter before)
      (counter : view.counter after = next (view.counter before))
      (drawn : view.drawn after = view.drawn before + 1)

/-- The stamp shown is the `place`-th the counter gave out, counted from `base`. -/
structure Numbered (base : τ) (place : Nat) (s : σ) : Prop where
  stamp : view.stamp s = next^[place] base
  counter : view.counter s = next^[view.drawn s] base
  drawn : place < view.drawn s

variable {view next}

theorem StampStep.numbered {base : τ} {place : Nat} {before after : σ}
    (step : view.StampStep next before after) (numbered : view.Numbered next base place before) :
    view.drawn before ≤ view.drawn after ∧ ∃ later, view.Numbered next base later after ∧
      ((later = place ∧ view.content after = view.content before) ∨ view.drawn before ≤ later) := by
  cases step with
  | kept content stamp others counter drawn =>
    refine ⟨by omega, place, ⟨stamp.trans numbered.stamp, ?_, ?_⟩, .inl ⟨rfl, content⟩⟩
    · rw [counter, numbered.counter, drawn, ← Function.iterate_add_apply, Nat.add_comm]
    · have earlier := numbered.drawn
      omega
  | stamped stamp counter drawn =>
    refine ⟨by omega, view.drawn before, ⟨stamp.trans numbered.counter, ?_, by omega⟩, .inr (Nat.le_refl _)⟩
    rw [counter, numbered.counter, drawn, Function.iterate_succ_apply']

variable {m : Machine σ ι} {Inv : σ → Prop}

theorem run_numbered {P : σ → ι → Prop} (keep : ∀ s i, Inv s → P s i → Inv (m.step s i))
    (steps : ∀ s i, Inv s → P s i → view.StampStep next s (m.step s i))
    {base : τ} {place : Nat} {s : σ} {inputs : List ι} (start : Inv s) (along : m.Along P s inputs)
    (numbered : view.Numbered next base place s) :
    view.drawn s ≤ view.drawn (m.run s inputs) ∧ ∃ later, view.Numbered next base later (m.run s inputs) ∧
      ((later = place ∧ view.content (m.run s inputs) = view.content s) ∨ view.drawn s ≤ later) := by
  induction inputs generalizing s place with
  | nil => exact ⟨Nat.le_refl _, place, numbered, .inl ⟨rfl, rfl⟩⟩
  | cons i inputs ih =>
    obtain ⟨grown, middle, numbered', moved⟩ := (steps s i start along.1).numbered numbered
    obtain ⟨grown', later, ends, moved'⟩ := ih (keep s i start along.1) along.2 numbered'
    refine ⟨Nat.le_trans grown grown', later, ends, ?_⟩
    rcases moved' with ⟨rfl, content'⟩ | beyond
    · rcases moved with ⟨rfl, content⟩ | beyond
      · exact .inl ⟨rfl, content'.trans content⟩
      · exact .inr beyond
    · exact .inr (Nat.le_trans grown beyond)

theorem run_stamp_names {P : σ → ι → Prop} (keep : ∀ s i, Inv s → P s i → Inv (m.step s i))
    (steps : ∀ s i, Inv s → P s i → view.StampStep next s (m.step s i))
    {base : τ} {place : Nat} {s : σ} {first second : List ι} (start : Inv s)
    (along : m.Along P s (first ++ second)) (numbered : view.Numbered next base place s)
    {period : Nat} (apart : ∀ a b, a < b → b < period → next^[a] base ≠ next^[b] base)
    (fits : view.drawn (m.run s (first ++ second)) ≤ period)
    (same : view.stamp (m.run s first) = view.stamp (m.run s (first ++ second))) :
    view.content (m.run s first) = view.content (m.run s (first ++ second)) := by
  obtain ⟨early, late⟩ := along_append.mp along
  obtain ⟨-, at', here, -⟩ := run_numbered keep steps start early numbered
  have middle := run_invariant keep start early
  obtain ⟨-, later, there, moved⟩ := run_numbered keep steps middle late here
  rw [run_append] at fits same ⊢
  rcases moved with ⟨-, content⟩ | beyond
  · exact content.symm
  · have before := Nat.lt_of_lt_of_le here.drawn beyond
    have bound := Nat.lt_of_lt_of_le there.drawn fits
    exact absurd (here.stamp.symm.trans (same.trans there.stamp)) (apart at' later before bound)

end StampView

end Machine
