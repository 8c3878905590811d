import Mbv.Surfaces.RowFlow

/-! Where a page lands. -/

namespace Mbv.Surfaces

open List

theorem find?_ordered {r : Nat → Nat → Prop} {p : Nat → Bool} {rows : List Nat} {found : Nat}
    (sorted : rows.Pairwise r) (here : rows.find? p = some found) :
    p found = true ∧ found ∈ rows ∧ ∀ row ∈ rows, p row = true → row = found ∨ r found row := by
  obtain ⟨holds, before, after, split, skipped⟩ := find?_eq_some_iff_append.mp here
  subst split
  refine ⟨holds, by simp, fun row member other => ?_⟩
  rcases mem_append.mp member with early | late
  · have refused := skipped row early
    simp [other] at refused
  · rcases mem_cons.mp late with same | later
    · exact .inl same
    · exact .inr ((pairwise_cons.mp (pairwise_append.mp sorted).2.1).1 row later)

namespace RowFlow

variable {Target : Type*} {flow : RowFlow Target}

theorem targetAt_lt {position : Nat} (there : (flow.targetAt position).isSome) : position < flow.len := by
  unfold targetAt rowAt at there
  by_contra outside
  rw [getElem?_eq_none (Nat.not_lt.mp outside)] at there
  cases there

theorem targetAt_split {position : Nat} (there : (flow.targetAt position).isSome) :
    ∃ before target after, flow.rows = before ++ .selectable target :: after ∧ before.length = position := by
  have inside : position < flow.rows.length := targetAt_lt there
  have split : flow.rows.take position ++ flow.rows[position] :: flow.rows.drop (position + 1) =
      flow.rows := by simp
  have length : (flow.rows.take position).length = position := length_take_of_le inside.le
  have selectable : flow.rows[position].target.isSome := by
    simpa [targetAt, rowAt, getElem?_eq_getElem inside] using there
  cases row : flow.rows[position] with
  | structural =>
    rw [row] at selectable
    cases selectable
  | selectable target =>
    rw [row] at split
    exact ⟨_, target, _, split.symm, length⟩

theorem length_zipIdx_selectable (rows : List (Row Target)) (k : Nat) :
    ((rows.zipIdx k).filterMap fun row => row.1.target.map fun _ => row.2).length =
      (rows.filter fun row => row.target.isSome).length := by
  induction rows generalizing k with
  | nil => rfl
  | cons row rows ih => cases row <;> simp [filterMap_cons, filter_cons, ih]

theorem ordinal_targetAt {position : Nat} (there : (flow.targetAt position).isSome) :
    ∃ ordinal, flow.selectableOrdinalAt position = some ordinal ∧
      flow.positionOfSelectable ordinal = some position ∧ ordinal < flow.selectableLen := by
  obtain ⟨before, target, after, split, rfl⟩ := targetAt_split there
  refine ⟨(before.filter fun row => row.target.isSome).length, ?_, ?_, ?_⟩
  · unfold selectableOrdinalAt
    rw [split, take_append, take_of_length_le (Nat.le_succ _)]
    simp [filter_cons]
  · unfold positionOfSelectable
    rw [split, zipIdx_append, filterMap_append, getElem?_append_right (by
      rw [length_zipIdx_selectable]), length_zipIdx_selectable, Nat.sub_self]
    simp
  · unfold selectableLen
    rw [split]
    simp [filter_cons]

end RowFlow

namespace Viewported

/-- `other` is no earlier than `row`, the way the page goes. -/
def Ahead (backward : Bool) (row other : Nat) : Prop :=
  if backward then other ≤ row else row ≤ other

def Away (backward : Bool) (distance start row : Nat) : Prop :=
  if backward then row + distance ≤ start else start + distance ≤ row

/-- A page from `start` lands on `landed`. -/
structure Lands {Target : Type*} (flow : RowFlow Target) (backward : Bool)
    (distance start landed : Nat) : Prop where
  selectable : (flow.targetAt landed).isSome
  ahead : Ahead backward start landed
  moves : ∀ row, (flow.targetAt row).isSome → row ≠ start → Ahead backward start row →
    landed ≠ start
  first : ∀ row, (flow.targetAt row).isSome → Away backward distance start row →
    Away backward distance start landed ∧ Ahead backward landed row
  last : (∀ row, (flow.targetAt row).isSome → ¬ Away backward distance start row) →
    ∀ row, (flow.targetAt row).isSome → Ahead backward row landed

variable {Target : Type*} {flow : RowFlow Target} {start distance : Nat}

/-- The first selectable row from `desired` on, or else the last before it. -/
theorem pagePosition_spec (flow : RowFlow Target) (desired : Nat) (backward : Bool) (here : (flow.targetAt start).isSome) :
    ∃ landed, pagePosition flow desired backward = some landed ∧ (flow.targetAt landed).isSome ∧
      (Ahead backward desired landed ∧ (∀ row, (flow.targetAt row).isSome →
          Ahead backward desired row → Ahead backward landed row) ∨
        (∀ row, (flow.targetAt row).isSome → ¬ Ahead backward desired row ∧ Ahead backward row landed)) := by
  let ahead : List Nat := if backward then (List.range (desired + 1)).reverse
    else (List.range (flow.len - desired)).map (desired + ·)
  let behind : List Nat := if backward then (List.range (flow.len - (desired + 1))).map (desired + 1 + ·)
    else (List.range desired).reverse
  have searched : pagePosition flow desired backward = (ahead.find? fun position => (flow.targetAt position).isSome).or
        (behind.find? fun position => (flow.targetAt position).isSome) := by
    cases backward <;> rfl
  have up : ∀ least most, ((List.range most).map (least + ·)).Pairwise (· < ·) := by
    intro least most
    rw [pairwise_map]
    exact pairwise_lt_range.imp fun less => Nat.add_lt_add_left less least
  have down : ∀ most, (List.range most).reverse.Pairwise (· > ·) := by
    intro most
    rw [pairwise_reverse]
    exact pairwise_lt_range
  have mem_up : ∀ least row, (flow.targetAt row).isSome →
      (row ∈ (List.range (flow.len - least)).map (least + ·) ↔ least ≤ row) := by
    intro least row selectable
    have below := RowFlow.targetAt_lt selectable
    rw [mem_map]
    constructor
    · rintro ⟨_, -, rfl⟩
      exact Nat.le_add_right _ _
    · intro above
      exact ⟨row - least, mem_range.mpr (by omega), by omega⟩
  have first : ahead.Pairwise fun row other => Ahead backward row other := by
    cases backward
    · exact (up desired _).imp Nat.le_of_lt
    · exact (down _).imp Nat.le_of_lt
  have fallback : behind.Pairwise fun row other => Ahead backward other row := by
    cases backward
    · exact (down _).imp Nat.le_of_lt
    · exact (up _ _).imp Nat.le_of_lt
  have mem_ahead : ∀ row, (flow.targetAt row).isSome → (row ∈ ahead ↔ Ahead backward desired row) := by
    intro row selectable
    cases backward
    · exact mem_up desired row selectable
    · simp [ahead, Ahead, Nat.lt_succ_iff]
  have mem_behind : ∀ row, (flow.targetAt row).isSome → (row ∈ behind ↔ ¬ Ahead backward desired row) := by
    intro row selectable
    cases backward
    · simp [behind, Ahead]
    · exact (mem_up (desired + 1) row selectable).trans (by simp [Ahead, Nat.succ_le_iff])
  rw [searched]
  cases beyond : ahead.find? fun position => (flow.targetAt position).isSome with
  | some landed =>
    obtain ⟨selectable, member, least⟩ := find?_ordered first beyond
    refine ⟨landed, rfl, selectable, .inl ⟨(mem_ahead landed selectable).mp member, ?_⟩⟩
    intro row other there
    rcases least row ((mem_ahead row other).mpr there) other with rfl | later
    · unfold Ahead
      split <;> exact le_refl _
    · exact later
  | none =>
    have short : ∀ row, (flow.targetAt row).isSome → ¬ Ahead backward desired row := by
      intro row selectable there
      have missed := find?_eq_none.mp beyond row ((mem_ahead row selectable).mpr there)
      exact missed selectable
    have left : (behind.find? fun position => (flow.targetAt position).isSome).isSome :=
      find?_isSome.mpr ⟨start, (mem_behind start here).mpr (short start here), here⟩
    obtain ⟨landed, found⟩ := Option.isSome_iff_exists.mp left
    obtain ⟨selectable, member, most⟩ := find?_ordered fallback found
    refine ⟨landed, found, selectable, .inr fun row other => ⟨short row other, ?_⟩⟩
    rcases most row ((mem_behind row other).mpr (short row other)) other with rfl | earlier
    · unfold Ahead
      split <;> exact le_refl _
    · exact earlier

theorem pagePosition_lands (here : (flow.targetAt start).isSome) (positive : 0 < distance) (backward : Bool) :
    ∃ landed, pagePosition flow (if backward then start - distance else min (start + distance) (flow.len - 1)) backward =
        some landed ∧ Lands flow backward distance start landed := by
  have inside := RowFlow.targetAt_lt here
  obtain ⟨landed, found, selectable, lands⟩ := pagePosition_spec flow
    (if backward then start - distance else min (start + distance) (flow.len - 1)) backward here
  have below := RowFlow.targetAt_lt selectable
  refine ⟨landed, found, selectable, ?_, fun row other apart past => ?_, fun row other away => ?_, fun none row other => ?_⟩
  · rcases lands with ⟨there, -⟩ | all
    · cases backward <;> simp [Ahead] at there ⊢ <;> omega
    · exact (all start here).2
  · have limit := RowFlow.targetAt_lt other
    rcases lands with ⟨there, -⟩ | all
    · cases backward <;> simp [Ahead] at there past <;> omega
    · have beyond := all row other
      cases backward <;> simp [Ahead] at beyond past <;> omega
  · have limit := RowFlow.targetAt_lt other
    rcases lands with ⟨there, least⟩ | all
    · have nearer := least row other
      cases backward <;> simp [Ahead, Away] at there away nearer ⊢ <;> omega
    · have beyond := all row other
      cases backward <;> simp [Ahead, Away] at beyond away <;> omega
  · have limit := RowFlow.targetAt_lt other
    have gone := none landed selectable
    rcases lands with ⟨there, -⟩ | all
    · cases backward <;> simp [Ahead, Away] at there gone ⊢ <;> omega
    · exact (all row other).2

/-! ### The page -/

section Page

variable {σ : Type*} [DecidableEq Target] [Viewported σ Target] {s : σ}

theorem index_selectable {current : Nat} (here : Cursored.index flow s = some current) : (flow.targetAt current).isSome := by
  obtain ⟨target, -, found⟩ := Option.bind_eq_some_iff.mp here
  obtain ⟨inside, holds, -⟩ := findIdx?_eq_some_iff_getElem.mp found
  have same : flow.rows[current].target = some target := by simpa using holds
  simp [RowFlow.targetAt, RowFlow.rowAt, getElem?_eq_getElem inside, same]

theorem moveBy_ordinal {current ordinal position : Nat}
    (here : (Cursored.index flow s).bind flow.selectableOrdinalAt = some current)
    (there : flow.positionOfSelectable ordinal = some position)
    (inside : ordinal < flow.selectableLen) :
    Cursored.moveBy flow s (ordinal - current : Int) =
      (some position, Cursored.setSelectedTarget (flow.targetAt position) s) := by
  obtain ⟨last, length⟩ := Nat.exists_eq_add_one_of_ne_zero (Nat.ne_zero_of_lt inside)
  have shifted : shiftClamped current (ordinal - current : Int) flow.selectableLen = ordinal := by
    unfold shiftClamped
    split <;> omega
  unfold Cursored.moveBy
  rw [if_neg (Nat.ne_zero_of_lt inside), here]
  dsimp only
  rw [shifted]
  unfold Cursored.selectSelectableOrdinal
  rw [length]
  dsimp only
  rw [Nat.min_eq_left (by omega), there]
  rfl

end Page

end Viewported

end Mbv.Surfaces
