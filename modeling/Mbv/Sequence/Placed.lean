import Mathlib.Data.List.Chain
import Mathlib.Data.List.Forall2
import Mathlib.Data.List.InsertIdx
import Mbv.Sequence.Keyed

/-! ### Entries taken from their places and put back -/

namespace List

variable {α β : Type*} {R : α → β → Prop} {l : List α} {other : List β}

theorem Forall₂.getElem?_right (related : Forall₂ R l other) {place : Nat} {b : β}
    (here : other[place]? = some b) : ∃ a, l[place]? = some a ∧ R a b := by
  obtain ⟨same, each⟩ := forall₂_iff_get.mp related
  obtain ⟨inside, rfl⟩ := getElem?_eq_some_iff.mp here
  have inside' : place < l.length := same ▸ inside
  exact ⟨l[place], getElem?_eq_getElem inside', each place inside' inside⟩

theorem Forall₂.eraseIdx (related : Forall₂ R l other) (place : Nat) : Forall₂ R (l.eraseIdx place) (other.eraseIdx place) := by
  rw [eraseIdx_eq_take_drop_succ, eraseIdx_eq_take_drop_succ]
  exact rel_append (forall₂_take place related) (forall₂_drop (place + 1) related)

theorem Forall₂.insertIdx (related : Forall₂ R l other) {a : α} {b : β} (same : R a b)
    (place : Nat) : Forall₂ R (l.insertIdx place a) (other.insertIdx place b) := by
  induction related generalizing place with
  | nil =>
    cases place with
    | zero => exact .cons same .nil
    | succ place => exact .nil
  | cons first _ ih =>
    cases place with
    | zero => exact .cons same (.cons first ‹_›)
    | succ place => exact .cons first (ih place)

theorem insertIdx_eraseIdx_of_getElem? {place : Nat} {a : α} (here : l[place]? = some a) :
    (l.eraseIdx place).insertIdx place a = l := by
  obtain ⟨inside, rfl⟩ := getElem?_eq_some_iff.mp here
  exact insertIdx_eraseIdx_getElem inside

def eraseAll (places : List Nat) (l : List α) : List α :=
  places.foldr (fun place l => l.eraseIdx place) l

theorem getElem?_eraseAll {places : List Nat} {place : Nat} (later : ∀ p ∈ places, place < p) :
    (eraseAll places l)[place]? = l[place]? := by
  induction places with
  | nil => rfl
  | cons first places ih =>
    rw [eraseAll, foldr_cons, getElem?_eraseIdx_of_lt (later first mem_cons_self)]
    exact ih fun p member => later p (mem_cons_of_mem first member)

theorem pairwise_lt_of_isChain_ne {place : α → Nat} (sorted : l.Pairwise fun a b => place a ≤ place b)
    (apart : l.IsChain fun a b => place a ≠ place b) :
    l.Pairwise fun a b => place a < place b := by
  induction l with
  | nil => exact .nil
  | cons a l ih =>
    obtain ⟨least, sorted'⟩ := pairwise_cons.mp sorted
    refine pairwise_cons.mpr ⟨fun c member => ?_, ih sorted' apart.tail⟩
    cases l with
    | nil => cases member
    | cons b l =>
      have step := Nat.lt_of_le_of_ne (least b mem_cons_self) (isChain_cons_cons.mp apart).1
      rcases mem_cons.mp member with rfl | later
      · exact step
      · exact Nat.lt_of_lt_of_le step ((pairwise_cons.mp sorted').1 c later)

end List

namespace Keyed

variable {α κ : Type*} [DecidableEq κ] {key : α → κ}

theorem move_at {k : κ} {entries : List α} {entry : α} {place target : Nat}
    (found : indexOf key k entries = some place) (here : entries[place]? = some entry)
    (inside : target < entries.length) :
    move key k target entries = (entries.eraseIdx place).insertIdx target entry := by
  have bound := (List.getElem?_eq_some_iff.mp here).1
  simp only [move, found, here]
  rw [List.length_eraseIdx_of_lt bound, Nat.min_eq_left (by omega)]

theorem eraseIdx_eq_filter {k : κ} {entries : List α} {place : Nat}
    (distinct : (entries.map key).Nodup) (found : indexOf key k entries = some place) :
    entries.eraseIdx place = entries.filter fun entry => key entry ≠ k := by
  induction entries generalizing place with
  | nil => simp [indexOf] at found
  | cons entry entries ih =>
    obtain ⟨absent, distinct'⟩ := List.nodup_cons.mp distinct
    by_cases same : key entry = k
    · have first : place = 0 := by
        simp [indexOf, List.findIdx?_cons, same] at found
        exact found.symm
      subst first
      subst same
      have others : entries.filter (fun other => key other ≠ key entry) = entries := by
        apply List.filter_eq_self.mpr
        intro other member
        exact decide_eq_true fun equal => absent (equal ▸ List.mem_map_of_mem member)
      rw [List.filter_cons_of_neg (by simp), others]
      rfl
    · simp only [indexOf, List.findIdx?_cons, beq_eq_false_iff_ne.mpr same, Bool.false_eq_true,
        if_false, Option.map_eq_some_iff] at found
      obtain ⟨earlier, found', rfl⟩ := found
      rw [List.eraseIdx_cons_succ, List.filter_cons_of_pos (by simpa using same), ih distinct' found']

end Keyed
