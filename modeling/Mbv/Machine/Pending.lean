import Mbv.Machine.Run

namespace Machine

variable {σ ι ε : Type*}

/-- The goal is pending: it holds already, or some outstanding event leads to it whichever of its
    deliveries is taken. -/
inductive Pending (m : Machine σ ι) (outstanding : σ → ε → Prop) (delivers : σ → ε → ι → Prop)
    (goal : σ → Prop) : σ → Prop where
  | reached {s : σ} (holds : goal s) : Pending m outstanding delivers goal s
  | delivered {s : σ} (event : ε) (open_ : outstanding s event)
      (next : ∀ i, delivers s event i → Pending m outstanding delivers goal (m.step s i)) :
      Pending m outstanding delivers goal s

theorem not_pending_of_quiet {m : Machine σ ι} {outstanding : σ → ε → Prop}
    {delivers : σ → ε → ι → Prop} {goal : σ → Prop} {s : σ} (missed : ¬ goal s)
    (quiet : ∀ event, ¬ outstanding s event) : ¬ m.Pending outstanding delivers goal s := by
  intro pending
  cases pending with
  | reached holds => exact missed holds
  | delivered event open_ _ => exact quiet event open_

end Machine
