import Mbv.Machine.Run

namespace Machine

variable {σ ι : Type*} {m : Machine σ ι} {P : σ → ι → Prop}

/-- A replica is behind a primary by the inputs it has not taken yet: taking them in order, each in
    a state `P` allows it in, leads to the primary. -/
structure Behind (m : Machine σ ι) (P : σ → ι → Prop) (primary replica : σ) (pending : List ι) :
    Prop where
  along : m.Along P replica pending
  reach : m.run replica pending = primary

theorem Behind.refl (s : σ) : m.Behind P s s [] := ⟨along_nil, rfl⟩

theorem Behind.publish {primary primary' replica : σ} {pending inputs : List ι}
    (behind : m.Behind P primary replica pending) (more : m.Behind P primary' primary inputs) :
    m.Behind P primary' replica (pending ++ inputs) := by
  constructor
  · rw [along_append, behind.reach]
    exact ⟨behind.along, more.along⟩
  · rw [run_append, behind.reach]
    exact more.reach

theorem Behind.deliver {primary replica : σ} {i : ι} {pending : List ι} (behind : m.Behind P primary replica (i :: pending)) :
    P replica i ∧ m.Behind P primary (m.step replica i) pending :=
  ⟨behind.along.1, behind.along.2, behind.reach⟩

theorem Behind.settled {primary replica : σ} (behind : m.Behind P primary replica []) : replica = primary := behind.reach

end Machine
