import Mathlib.Data.List.Nodup

/-! Asking for keys until each is answered or the attempts are spent. An answer may be partial, repeat
    itself, or hold what was not asked for. -/

namespace Retry

open List

variable {κ α : Type*} [DecidableEq κ] (key : α → κ) (fetch : Nat → List κ → Option (List α))

/-- `held` is what was answered, the newest first. -/
structure Asked (κ α : Type*) where
  missing : List κ
  held : List α := []
  calls : List (List κ) := []

def holds (held : List α) (k : κ) : Bool := held.any fun answer => decide (key answer = k)

def attempt (asked : Asked κ α) : Asked κ α :=
  match fetch asked.calls.length asked.missing with
  | none => { asked with calls := asked.calls ++ [asked.missing] }
  | some answers =>
    let held := answers.reverse ++ asked.held
    { missing := asked.missing.filter fun k => !holds key held k
      held := held
      calls := asked.calls ++ [asked.missing] }

def attempts : Nat → Asked κ α → Asked κ α
  | 0, asked => asked
  | left + 1, asked =>
    if asked.missing.isEmpty then asked else attempts left (attempt key fetch asked)

def returned (calls : List (List κ)) : List α :=
  (calls.mapIdx fun n call => (fetch n call).getD []).flatten

def unanswered (wanted : List κ) (calls : List (List κ)) : List κ :=
  wanted.filter fun k => !holds key (returned fetch calls) k

structure Exact (wanted : List κ) (asked : Asked κ α) : Prop where
  held : asked.held = (returned fetch asked.calls).reverse
  missing : asked.missing = unanswered key fetch wanted asked.calls
  each : ∀ n call, asked.calls[n]? = some call →
    call = unanswered key fetch wanted (asked.calls.take n) ∧ call ≠ []

variable {key fetch} {wanted : List κ} {asked : Asked κ α}

omit [DecidableEq κ] in
theorem returned_concat (calls : List (List κ)) (call : List κ) : returned fetch (calls ++ [call]) =
      returned fetch calls ++ (fetch calls.length call).getD [] := by
  unfold returned
  rw [mapIdx_concat, flatten_append, flatten_singleton]

theorem holds_append (first second : List α) (k : κ) :
    holds key (first ++ second) k = (holds key first k || holds key second k) :=
  any_append

theorem holds_reverse (held : List α) (k : κ) : holds key held.reverse k = holds key held k := any_reverse

theorem exact_start (wanted : List κ) : Exact key fetch wanted ⟨wanted, [], []⟩ where
  held := rfl
  missing := (filter_eq_self.mpr fun _ _ => rfl).symm
  each n call there := by cases there

theorem attempt_calls : (attempt key fetch asked).calls = asked.calls ++ [asked.missing] := by
  unfold attempt
  split <;> rfl

theorem Exact.attempt (exact_ : Exact key fetch wanted asked) (some_ : asked.missing ≠ []) :
    Exact key fetch wanted (attempt key fetch asked) := by
  have each : ∀ n call, (asked.calls ++ [asked.missing])[n]? = some call →
      call = unanswered key fetch wanted ((asked.calls ++ [asked.missing]).take n) ∧ call ≠ [] := by
    intro n call there
    rcases Nat.lt_or_ge n asked.calls.length with early | late
    · rw [List.getElem?_append_left early] at there
      rw [take_append_of_le_length (Nat.le_of_lt early)]
      exact exact_.each n call there
    · have last : n = asked.calls.length := by
        have inside := (List.getElem?_eq_some_iff.mp there).1
        rw [length_append, length_singleton] at inside
        omega
      subst last
      rw [List.getElem?_concat_length] at there
      cases there
      rw [take_append_of_le_length (Nat.le_refl _), take_length]
      exact ⟨exact_.missing, some_⟩
  have more : returned fetch (asked.calls ++ [asked.missing]) = returned fetch asked.calls ++
      (fetch asked.calls.length asked.missing).getD [] := returned_concat ..
  unfold Retry.attempt
  split
  · rename_i failed
    rw [failed, Option.getD_none, append_nil] at more
    refine ⟨?_, ?_, each⟩
    · show asked.held = (returned fetch (asked.calls ++ [asked.missing])).reverse
      rw [more]
      exact exact_.held
    · show asked.missing = unanswered key fetch wanted (asked.calls ++ [asked.missing])
      rw [unanswered, more]
      exact exact_.missing
  · rename_i answers answered
    rw [answered, Option.getD_some] at more
    have held : answers.reverse ++ asked.held = (returned fetch (asked.calls ++ [asked.missing])).reverse := by
      rw [more, reverse_append, exact_.held]
    refine ⟨held, ?_, each⟩
    show asked.missing.filter (fun k => !holds key (answers.reverse ++ asked.held) k) =
      unanswered key fetch wanted (asked.calls ++ [asked.missing])
    rw [unanswered, more]
    conv_lhs => rw [exact_.missing, unanswered, filter_filter]
    congr 1
    funext k
    rw [holds_append, holds_append, holds_reverse, exact_.held, holds_reverse]
    cases holds key (returned fetch asked.calls) k <;> simp

theorem Exact.attempts (exact_ : Exact key fetch wanted asked) (left : Nat) :
    Exact key fetch wanted (attempts key fetch left asked) := by
  induction left generalizing asked with
  | zero => exact exact_
  | succ left ih =>
    unfold Retry.attempts
    split
    · exact exact_
    · rename_i some_
      exact ih (exact_.attempt fun none => some_ (by rw [none]; rfl))

theorem length_attempts (left : Nat) (asked : Asked κ α) :
    (attempts key fetch left asked).calls.length ≤ asked.calls.length + left := by
  induction left generalizing asked with
  | zero => exact Nat.le_refl _
  | succ left ih =>
    unfold attempts
    split
    · omega
    · have later := ih (attempt key fetch asked)
      rw [attempt_calls, length_append, length_singleton] at later
      omega

theorem attempts_spent (left : Nat) (asked : Asked κ α) (open_ : (attempts key fetch left asked).missing ≠ []) :
    (attempts key fetch left asked).calls.length = asked.calls.length + left := by
  induction left generalizing asked with
  | zero => rfl
  | succ left ih =>
    unfold attempts at open_ ⊢
    split at open_
    · rename_i none
      exact absurd (isEmpty_iff.mp none) open_
    · rename_i some_
      rw [if_neg some_, ih _ open_, attempt_calls, length_append, length_singleton]
      omega

end Retry
