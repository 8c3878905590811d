import Mbv.Surfaces.MediaList

namespace Mbv.Surfaces

open List

namespace MediaList

variable {Target : Type*} {list next : MediaList Target}

/-! ### The selectable index -/

theorem mem_selectableIndices {rows : List (MediaListRow Target)} {row : Nat} :
    row ∈ selectableIndices rows ↔ ∃ target, rows[row]?.bind MediaListRow.selectableTarget = some target := by
  unfold selectableIndices
  rw [mem_filter, mem_range, Option.isSome_iff_exists]
  refine and_iff_right_of_imp fun found => ?_
  obtain ⟨target, found⟩ := found
  rw [Option.bind_eq_some_iff] at found
  obtain ⟨there, held, -⟩ := found
  exact (List.getElem?_eq_some_iff.mp held).1

theorem ascending_selectableIndices (rows : List (MediaListRow Target)) : (selectableIndices rows).Pairwise (· < ·) :=
  pairwise_lt_range.filter _

theorem targets_selectableIndices (rows : List (MediaListRow Target)) :
    (selectableIndices rows).filterMap (fun row => rows[row]?.bind MediaListRow.selectableTarget) =
      rows.filterMap MediaListRow.selectableTarget := by
  unfold selectableIndices
  rw [filterMap_filter]
  have whole : ∀ rows : List (MediaListRow Target), (List.range rows.length).filterMap (fun row =>
        rows[row]?.bind MediaListRow.selectableTarget) =
        rows.filterMap MediaListRow.selectableTarget := by
    intro rows
    induction rows with
    | nil => rfl
    | cons row rows ih =>
      rw [length_cons, range_succ_eq_map, filterMap_cons, filterMap_map, filterMap_cons, ← ih]
      rfl
  rw [← whole rows]
  refine filterMap_congr fun row _ => ?_
  cases rows[row]?.bind MediaListRow.selectableTarget <;> rfl

structure Indexed (list : MediaList Target) : Prop where
  index : list.selectable = selectableIndices list.rows
  distinct : (list.rows.filterMap MediaListRow.selectableTarget).Nodup
  cursor : list.cursor < list.selectable.length ∨ list.selectable = [] ∧ list.cursor = 0

theorem Indexed.targets (indexed : list.Indexed) :
    list.selectableTargets = list.rows.filterMap MediaListRow.selectableTarget := by
  unfold selectableTargets
  rw [indexed.index]
  exact targets_selectableIndices list.rows

theorem Indexed.nodup (indexed : list.Indexed) : list.selectableTargets.Nodup := by
  rw [indexed.targets]
  exact indexed.distinct

theorem Indexed.getElem? (indexed : list.Indexed) (place : Nat) :
    list.selectable[place]?.bind list.targetOfRow = list.selectableTargets[place]? := by
  have each : ∀ row ∈ list.selectable, ∃ target, list.targetOfRow row = some target := by
    intro row member
    rw [indexed.index] at member
    exact mem_selectableIndices.mp member
  unfold selectableTargets
  generalize list.selectable = rows at each
  induction rows generalizing place with
  | nil => simp
  | cons row rows ih =>
    obtain ⟨target, found⟩ := each row mem_cons_self
    rw [filterMap_cons, found]
    cases place with
    | zero => simpa using found
    | succ place => exact ih place fun row member => each row (mem_cons_of_mem _ member)

theorem Indexed.length (indexed : list.Indexed) : list.selectableTargets.length = list.selectable.length := by
  unfold selectableTargets
  rw [filterMap_length_eq_length]
  intro row member
  rw [indexed.index] at member
  exact Option.isSome_iff_exists.mpr (mem_selectableIndices.mp member)

theorem Indexed.selected (indexed : list.Indexed) :
    list.selectedTarget = list.selectableTargets[list.cursor]? := indexed.getElem? list.cursor

theorem Indexed.selected_mem (indexed : list.Indexed) {target : Target}
    (selected : list.selectedTarget = some target) : target ∈ list.selectableTargets := by
  rw [indexed.selected] at selected
  exact mem_of_getElem? selected

theorem Indexed.selected_none (indexed : list.Indexed) : list.selectedTarget = none ↔ list.selectable = [] := by
  rw [indexed.selected, List.getElem?_eq_none_iff, indexed.length]
  constructor
  · intro outside
    rcases indexed.cursor with inside | ⟨none, -⟩
    · omega
    · exact none
  · intro none
    rw [none]
    exact Nat.zero_le _

theorem Indexed.of_same (indexed : list.Indexed) (rows : next.rows = list.rows)
    (selectable : next.selectable = list.selectable) (cursor : next.cursor = list.cursor) :
    next.Indexed := by
  refine ⟨?_, ?_, ?_⟩
  · rw [selectable, rows]
    exact indexed.index
  · rw [rows]
    exact indexed.distinct
  · rw [selectable, cursor]
    exact indexed.cursor

theorem rowFlow_targets (list : MediaList Target) :
    list.rowFlow.targets = list.rows.filterMap MediaListRow.selectableTarget := by
  unfold rowFlow RowFlow.targets
  rw [filterMap_map]
  refine filterMap_congr fun row _ => ?_
  cases row <;> rfl

/-- The marks, the frozen selection and the anchor are present, and no marks means none of them. -/
structure Marked (list : MediaList Target) : Prop where
  marks : list.multiSelection.Sound (· ∈ list.selectableTargets)
  frozen : list.frozenSelection.Nodup ∧ ∀ target ∈ list.frozenSelection, target ∈ list.selectableTargets
  anchor : ∀ target ∈ list.selectionAnchor, target ∈ list.selectableTargets
  anchored : list.multiSelection.marked ≠ [] → list.selectionAnchor.isSome
  idle : list.multiSelection.marked = [] →
    list.liveRange = false ∧ list.selectionAnchor = none ∧ list.frozenSelection = []

structure Kept (list : MediaList Target) : Prop extends Indexed list, Marked list

def content (list : MediaList Target) :
    List (MediaListRow Target) × List Nat × MarkSelectionState Target × Option Target ×
      List Target × Bool :=
  (list.rows, list.selectable, list.multiSelection, list.selectionAnchor, list.frozenSelection,
    list.liveRange)

theorem Marked.of_content (marked : list.Marked) (same : next.content = list.content) :
    next.Marked := by
  obtain ⟨rows, selectable, cursor, scroll, marks, anchor, frozen, live, viewport⟩ := list
  obtain ⟨rows', selectable', cursor', scroll', marks', anchor', frozen', live', viewport'⟩ := next
  simp only [content, Prod.mk.injEq] at same
  obtain ⟨rfl, rfl, rfl, rfl, rfl, rfl⟩ := same
  exact ⟨marked.marks, marked.frozen, marked.anchor, marked.anchored, marked.idle⟩

theorem Kept.of_content (kept : list.Kept) (same : next.content = list.content)
    (cursor : next.cursor = list.cursor) : next.Kept :=
  ⟨kept.toIndexed.of_same (congrArg (·.1) same) (congrArg (·.2.1) same) cursor, kept.toMarked.of_content same⟩

/-! ### Marks -/

theorem Kept.marking (kept : list.Kept) {marks : MarkSelectionState Target} {anchor : Option Target}
    {frozen : List Target} {live : Bool} (sound : marks.Sound (· ∈ list.selectableTargets))
    (frozenSound : frozen.Nodup ∧ ∀ target ∈ frozen, target ∈ list.selectableTargets)
    (anchorPresent : ∀ target ∈ anchor, target ∈ list.selectableTargets)
    (anchored : marks.marked ≠ [] → anchor.isSome)
    (idle : marks.marked = [] → live = false ∧ anchor = none ∧ frozen = []) :
    ({ list with
      multiSelection := marks
      selectionAnchor := anchor
      frozenSelection := frozen
      liveRange := live } : MediaList Target).Kept :=
  ⟨kept.toIndexed.of_same rfl rfl rfl, sound, frozenSound, anchorPresent, anchored, idle⟩

theorem Kept.clearSelection (kept : list.Kept) : list.clearSelection.Kept :=
  kept.marking ⟨nodup_nil, fun _ member => nomatch member⟩
    ⟨nodup_nil, fun _ member => nomatch member⟩ (fun _ member => nomatch member)
    (fun filled => absurd rfl filled) fun _ => ⟨rfl, rfl, rfl⟩

theorem Kept.selectAll (kept : list.Kept) : list.selectAll.Kept := by
  have all : list.selectableTargets.Nodup ∧ ∀ target ∈ list.selectableTargets, target ∈ list.selectableTargets :=
    ⟨kept.nodup, fun _ member => member⟩
  refine kept.marking all all (fun target selected => kept.selected_mem selected) ?_ ?_
  · intro filled
    rw [Option.isSome_iff_ne_none, ne_eq, kept.selected_none]
    intro none
    have length := kept.length
    rw [none] at length
    exact filled (length_eq_zero_iff.mp length)
  · intro (none : list.selectableTargets = [])
    have length := kept.length
    rw [none] at length
    exact ⟨rfl, kept.selected_none.mpr (length_eq_zero_iff.mp length.symm), none⟩

variable [DecidableEq Target]

theorem positionOf_some {target : Target} {index : Nat} (found : list.positionOf target = some index) :
    index < list.selectable.length ∧ list.selectable[index]?.bind list.targetOfRow = some target := by
  unfold positionOf at found
  obtain ⟨inside, holds, -⟩ := List.findIdx?_eq_some_iff_getElem.mp found
  refine ⟨inside, ?_⟩
  rw [List.getElem?_eq_getElem inside]
  simpa using holds

theorem positionOf_isSome {target : Target} : (list.positionOf target).isSome ↔ target ∈ list.selectableTargets := by
  simp [positionOf, selectableTargets, List.findIdx?_isSome, mem_filterMap]

theorem selectTarget_indexed (indexed : list.Indexed) (target : Target) : (list.selectTarget target).Indexed := by
  unfold selectTarget
  cases found : list.positionOf target with
  | none => exact indexed
  | some index => exact ⟨indexed.index, indexed.distinct, Or.inl (positionOf_some found).1⟩

theorem selectTarget_selected {target : Target} (present : target ∈ list.selectableTargets) :
    (list.selectTarget target).selectedTarget = some target := by
  obtain ⟨index, found⟩ := Option.isSome_iff_exists.mp (positionOf_isSome.mpr present)
  unfold selectTarget
  rw [found]
  exact (positionOf_some found).2

theorem selectTarget_eq (target : Target) : ∃ cursor, list.selectTarget target = { list with cursor := cursor } := by
  unfold selectTarget
  cases list.positionOf target with
  | none => exact ⟨list.cursor, rfl⟩
  | some index => exact ⟨index, rfl⟩

theorem selectTarget_content (target : Target) : (list.selectTarget target).content = list.content := by
  obtain ⟨cursor, same⟩ := @selectTarget_eq _ list _ target
  rw [same]
  rfl

theorem Kept.selectTarget (kept : list.Kept) (target : Target) : (list.selectTarget target).Kept :=
  ⟨selectTarget_indexed kept.toIndexed target, kept.toMarked.of_content (selectTarget_content target)⟩

theorem Kept.picks (kept : list.Kept) {flow : RowFlow Target} (picks : Cursored.Picks flow list next) : next.Kept := by
  rcases picks with ⟨-, rfl⟩ | ⟨target, -, rfl⟩
  · exact kept
  · exact kept.selectTarget target

theorem Kept.enterVisualMode (kept : list.Kept) : list.enterVisualMode.Kept := by
  unfold MediaList.enterVisualMode
  cases selected : list.selectedTarget with
  | none => exact kept
  | some target =>
    have present := kept.selected_mem selected
    have anchor : ∀ other ∈ some target, other ∈ list.selectableTargets := by
      intro other same
      cases same
      exact present
    dsimp only
    split
    · refine kept.marking (kept.marks.add present) ⟨nodup_nil, fun _ member => nomatch member⟩
        anchor (fun _ => rfl) fun none => ?_
      exact absurd none (MarkSelectionState.add_ne_nil target)
    · rename_i visual
      refine kept.marking kept.marks kept.marks anchor (fun _ => rfl) fun none => ?_
      exact absurd (isEmpty_iff.mpr none) visual

theorem filterMap_filter_sublist {α β : Type*} (rows : List α) (f : α → Option β) (p : α → β → Bool) :
    (rows.filterMap fun row => (f row).filter (p row)).Sublist (rows.filterMap f) := by
  induction rows with
  | nil => exact List.Sublist.refl _
  | cons row rows ih =>
    rw [filterMap_cons, filterMap_cons]
    cases f row with
    | none => exact ih
    | some found =>
      rw [Option.filter_some]
      split
      · rename_i skipped
        exact ih.cons found
      · rename_i kept same
        split at same <;> cases same
        exact ih.cons_cons found

theorem Kept.extendSelectionTo (kept : list.Kept) (target : Target) : (list.extendSelectionTo target).Kept := by
  unfold MediaList.extendSelectionTo
  cases finished : list.positionOf target with
  | none => exact kept
  | some finish =>
    have present : target ∈ list.selectableTargets := positionOf_isSome.mp (Option.isSome_of_mem finished)
    have anchorPresent : (list.selectionAnchor.or list.selectedTarget).getD target ∈
        list.selectableTargets := by
      cases anchored : list.selectionAnchor with
      | some anchor => exact kept.anchor anchor anchored
      | none =>
        cases selected : list.selectedTarget with
        | some cursor => exact kept.selected_mem selected
        | none => exact present
    obtain ⟨start, started⟩ := Option.isSome_iff_exists.mp (positionOf_isSome.mpr anchorPresent)
    dsimp only
    rw [started]
    dsimp only
    have within : (list.selectable.zipIdx.filterMap fun row =>
        (list.targetOfRow row.1).filter fun candidate =>
          list.frozenSelection.contains candidate || (min start finish ≤ row.2 && row.2 ≤ max start finish)).Sublist
        list.selectableTargets := by
      have pairs := filterMap_filter_sublist list.selectable.zipIdx (fun row => list.targetOfRow row.1) fun row candidate =>
          list.frozenSelection.contains candidate || (min start finish ≤ row.2 && row.2 ≤ max start finish)
      have rows : (list.selectable.zipIdx.filterMap fun row => list.targetOfRow row.1) =
          list.selectableTargets := by
        unfold selectableTargets
        conv_rhs => rw [← zipIdx_map_fst 0 list.selectable, filterMap_map]
        rfl
      rw [rows] at pairs
      exact pairs
    obtain ⟨inside, there⟩ := positionOf_some finished
    have marked : target ∈ list.selectable.zipIdx.filterMap fun row =>
        (list.targetOfRow row.1).filter fun candidate =>
          list.frozenSelection.contains candidate || (min start finish ≤ row.2 && row.2 ≤ max start finish) := by
      rw [List.getElem?_eq_getElem inside, Option.bind_some] at there
      refine mem_filterMap.mpr ⟨(list.selectable[finish], finish), ?_, ?_⟩
      · rw [mem_zipIdx_iff_getElem?]
        exact List.getElem?_eq_getElem inside
      · simp [there]
    refine kept.marking ⟨within.nodup kept.nodup, fun other member => within.subset member⟩
      kept.frozen ?_ (fun _ => rfl) fun none => ?_
    · intro other same
      cases same
      exact anchorPresent
    · exact absurd none (ne_nil_of_mem marked)

structure Anchored (list next : MediaList Target) : Prop where
  place : next.rows = list.rows ∧ next.selectable = list.selectable ∧ next.cursor = list.cursor
  marks : next.multiSelection.Sound (· ∈ list.selectableTargets)
  anchor : ∀ target ∈ next.selectionAnchor, target ∈ list.selectableTargets
  anchored : next.multiSelection.marked ≠ [] → next.selectionAnchor.isSome

omit [DecidableEq Target] in
theorem Kept.anchoredSelf (kept : list.Kept) : Anchored list list := ⟨⟨rfl, rfl, rfl⟩, kept.marks, kept.anchor, kept.anchored⟩

theorem Kept.startMarks (kept : list.Kept) : Anchored list list.startMarks := by
  unfold MediaList.startMarks
  cases selected : list.selectedTarget with
  | none => exact kept.anchoredSelf
  | some cursor =>
    have present := kept.selected_mem selected
    dsimp only
    split
    · refine ⟨⟨rfl, rfl, rfl⟩, kept.marks.add present, fun other same => ?_, fun _ => rfl⟩
      cases same
      exact present
    · exact kept.anchoredSelf

theorem Kept.startMarks_anchor (kept : list.Kept) {target : Target}
    (present : target ∈ list.selectableTargets) : list.startMarks.selectionAnchor.isSome := by
  unfold MediaList.startMarks
  cases selected : list.selectedTarget with
  | none =>
    have empty := kept.length
    rw [kept.selected_none.mp selected, length_nil, length_eq_zero_iff] at empty
    rw [empty] at present
    cases present
  | some cursor =>
    dsimp only
    split
    · rfl
    · rename_i visual
      exact kept.anchored fun none => visual (isEmpty_iff.mpr none)

theorem Anchored.toggleMark (anchored : Anchored list next) (wasEmpty : Bool) (target : Target)
    (started : target ∈ list.selectableTargets → next.selectionAnchor.isSome) :
    Anchored list (next.toggleMark wasEmpty target) := by
  obtain ⟨rows, selectable, cursor⟩ := anchored.place
  have same : next.selectableTargets = list.selectableTargets := by
    unfold selectableTargets targetOfRow
    rw [rows, selectable]
  unfold MediaList.toggleMark
  split
  · rename_i marked
    split
    · exact anchored
    · refine ⟨anchored.place, anchored.marks.remove target, anchored.anchor, fun _ => ?_⟩
      exact anchored.anchored (ne_nil_of_mem (by simpa [MarkSelectionState.contains] using marked))
  · split
    · rename_i present
      have present : target ∈ list.selectableTargets := same ▸ positionOf_isSome.mp present
      exact ⟨anchored.place, anchored.marks.add present, anchored.anchor, fun _ => started present⟩
    · exact anchored

omit [DecidableEq Target] in
theorem Kept.freezeMarks (kept : list.Kept) (anchored : Anchored list next) (target : Target) :
    (next.freezeMarks target).Kept := by
  obtain ⟨rows, selectable, cursor⟩ := anchored.place
  have indexed : ∀ other : MediaList Target, other.rows = next.rows →
      other.selectable = next.selectable → other.cursor = next.cursor → other.Indexed := by
    intro other otherRows otherSelectable otherCursor
    exact kept.toIndexed.of_same (otherRows.trans rows) (otherSelectable.trans selectable)
      (otherCursor.trans cursor)
  have present : next.selectableTargets = list.selectableTargets := by
    unfold selectableTargets targetOfRow
    rw [rows, selectable]
  have marks := anchored.marks
  have anchor := anchored.anchor
  rw [← present] at marks anchor
  have settled : next.Indexed := indexed next rfl rfl rfl
  unfold MediaList.freezeMarks
  dsimp only
  split
  · exact ⟨indexed _ rfl rfl rfl,
      { marks := ⟨nodup_nil, fun _ member => nomatch member⟩
        frozen := ⟨nodup_nil, fun _ member => nomatch member⟩
        anchor := fun _ member => nomatch member
        anchored := fun filled => absurd rfl filled
        idle := fun _ => ⟨rfl, rfl, rfl⟩ }⟩
  · rename_i visual
    have filled : next.multiSelection.marked ≠ [] := fun none =>
      visual (isEmpty_iff.mpr none)
    obtain ⟨there, same⟩ := Option.isSome_iff_exists.mp (anchored.anchored filled)
    rw [same, Option.some_or]
    refine ⟨indexed _ rfl rfl rfl, marks, marks, fun other held => ?_, fun _ => rfl,
      fun none => absurd none filled⟩
    exact anchor other (same.trans held)

theorem Kept.toggleSelection (kept : list.Kept) (target : Target) : (list.toggleSelection target).Kept :=
  kept.freezeMarks (kept.startMarks.toggleMark _ target kept.startMarks_anchor) target

/-! ### Content -/

theorem Kept.patchRow (kept : list.Kept) {target : Target} {row : MediaListRow Target}
    (same : row.selectableTarget = some target) : (list.patchRow target row).Kept := by
  unfold MediaList.patchRow
  cases found : list.rows.findIdx? fun existing => existing.selectableTarget = some target with
  | none => exact kept
  | some index =>
    obtain ⟨inside, held, -⟩ := List.findIdx?_eq_some_iff_getElem.mp found
    have held : list.rows[index].selectableTarget = some target := by simpa using held
    have reads : ∀ place : Nat, (list.rows.set index row)[place]?.bind MediaListRow.selectableTarget =
        list.rows[place]?.bind MediaListRow.selectableTarget := by
      intro place
      rw [List.getElem?_set]
      split
      · rename_i there
        subst there
        rw [List.getElem?_eq_getElem inside, Option.bind_some, Option.bind_some, same, held]
      · rfl
    have targets : ({ list with rows := list.rows.set index row } : MediaList Target).targetOfRow =
        list.targetOfRow := funext reads
    have indices : selectableIndices (list.rows.set index row) = selectableIndices list.rows := by
      unfold selectableIndices
      rw [length_set]
      exact filter_congr fun place _ => by rw [reads]
    have present : ({ list with rows := list.rows.set index row } : MediaList Target).selectableTargets =
        list.selectableTargets := by
      unfold selectableTargets
      rw [targets]
    refine ⟨⟨?_, ?_, kept.cursor⟩, ?_, ?_, ?_, kept.anchored, kept.idle⟩
    · exact kept.index.trans indices.symm
    · have listed := targets_selectableIndices (list.rows.set index row)
      rw [← listed, indices]
      have before := targets_selectableIndices list.rows
      rw [filterMap_congr fun place _ => reads place, before]
      exact kept.distinct
    · rw [present]
      exact kept.marks
    · rw [present]
      exact kept.frozen
    · rw [present]
      exact kept.anchor

/-- The selected row after a replacement: the one selected before, or else the first. -/
def reselected (list : MediaList Target) (rows : List (MediaListRow Target)) : Option Target :=
  let targets := rows.filterMap MediaListRow.selectableTarget
  (list.selectedTarget.filter fun target => targets.contains target).or targets.head?

omit [DecidableEq Target] in
theorem indexRows_first {rows : List (MediaListRow Target)} (distinct : (rows.filterMap MediaListRow.selectableTarget).Nodup) :
    ({ list.indexRows rows with cursor := 0 } : MediaList Target).Indexed := by
  refine ⟨rfl, distinct, ?_⟩
  cases selectable : selectableIndices rows with
  | nil => exact Or.inr ⟨selectable, rfl⟩
  | cons row rest =>
    left
    show 0 < (selectableIndices rows).length
    rw [selectable]
    exact Nat.succ_pos _

omit [DecidableEq Target] in
theorem clampCursor_eq (indexed : list.Indexed) : list.clampCursor = list := by
  unfold clampCursor
  split
  · rename_i empty
    rcases indexed.cursor with inside | ⟨-, zero⟩
    · rw [isEmpty_iff.mp empty] at inside
      cases inside
    · rw [← zero]
  · rfl

theorem indexRows_select {rows : List (MediaListRow Target)}
    (distinct : (rows.filterMap MediaListRow.selectableTarget).Nodup) {target : Target}
    (present : target ∈ rows.filterMap MediaListRow.selectableTarget) :
    ((list.indexRows rows).selectTarget target).Indexed ∧
      ((list.indexRows rows).selectTarget target).selectedTarget = some target := by
  have indexed : ({ list.indexRows rows with cursor := 0 } : MediaList Target).Indexed := indexRows_first distinct
  have present : target ∈ ({ list.indexRows rows with cursor := 0 } : MediaList Target).selectableTargets := by
    rw [indexed.targets]
    exact present
  obtain ⟨index, found⟩ := Option.isSome_iff_exists.mp (positionOf_isSome.mpr present)
  have same : (list.indexRows rows).selectTarget target =
      ({ list.indexRows rows with cursor := 0 } : MediaList Target).selectTarget target := by
    have there : (list.indexRows rows).positionOf target = some index := found
    unfold MediaList.selectTarget
    rw [found, there]
  rw [same]
  exact ⟨selectTarget_indexed indexed target, selectTarget_selected present⟩

theorem installRows_spec (kept : list.Kept) {rows : List (MediaListRow Target)}
    (distinct : (rows.filterMap MediaListRow.selectableTarget).Nodup) :
    (list.installRows rows).Indexed ∧ (list.installRows rows).selectedTarget = list.reselected rows := by
  have flow : (list.indexRows rows).rowFlow.targets = rows.filterMap MediaListRow.selectableTarget := rowFlow_targets _
  have indexed : ({ list.indexRows rows with cursor := 0 } : MediaList Target).Indexed := indexRows_first distinct
  have first : ({ list.indexRows rows with cursor := 0 } : MediaList Target).selectedTarget =
      (rows.filterMap MediaListRow.selectableTarget).head? := by
    rw [indexed.selected, indexed.targets, List.head?_eq_getElem?]
    rfl
  unfold installRows reselected
  dsimp only
  cases selected : list.selectedTarget with
  | none =>
    have zero : list.cursor = 0 := by
      rcases kept.cursor with inside | ⟨-, zero⟩
      · rw [kept.selected_none.mp selected] at inside
        cases inside
      · exact zero
    have placed : (list.indexRows rows).placeCursor none = { list.indexRows rows with cursor := 0 } := by
      unfold placeCursor
      have clamped : min (list.indexRows rows).cursor ((list.indexRows rows).selectable.length - 1) = 0 := by
        show min list.cursor _ = 0
        rw [zero, Nat.zero_min]
      dsimp only
      rw [clamped]
    rw [placed, clampCursor_eq indexed]
    exact ⟨indexed, first⟩
  | some target =>
    by_cases present : target ∈ rows.filterMap MediaListRow.selectableTarget
    · have placed : (list.indexRows rows).placeCursor (some target) = (list.indexRows rows).selectTarget target := by
        unfold placeCursor Cursored.selectTarget
        dsimp only
        rw [if_pos ((RowFlow.positionOf_isSome _).mpr (flow ▸ present))]
        rfl
      obtain ⟨settled, chosen⟩ := @indexRows_select _ list _ rows distinct target present
      rw [placed, clampCursor_eq settled]
      refine ⟨settled, chosen.trans ?_⟩
      rw [Option.filter_some, if_pos (contains_iff_mem.mpr present), Option.some_or]
    · have placed : (list.indexRows rows).placeCursor (some target) =
          Cursored.setSelectedTarget (rows.filterMap MediaListRow.selectableTarget).head? (list.indexRows rows) := by
        unfold placeCursor Cursored.selectTarget
        dsimp only
        rw [if_neg fun there => present (flow ▸ (RowFlow.positionOf_isSome _).mp there), Cursored.first_eq, flow]
      have gone : (some target).filter (fun target =>
          (rows.filterMap MediaListRow.selectableTarget).contains target) = none := by
        rw [Option.filter_some, if_neg fun there => present (contains_iff_mem.mp there)]
      rw [placed, gone, Option.none_or]
      cases head : (rows.filterMap MediaListRow.selectableTarget).head? with
      | none =>
        have empty : (list.indexRows rows).selectable = [] := by
          have length := indexed.length
          rw [indexed.targets] at length
          have none : rows.filterMap MediaListRow.selectableTarget = [] := List.head?_eq_none_iff.mp head
          have zero : (rows.filterMap MediaListRow.selectableTarget).length = (list.indexRows rows).selectable.length := length
          rw [none] at zero
          exact length_eq_zero_iff.mp zero.symm
        have clamped : MediaList.clampCursor (Cursored.setSelectedTarget none
            (list.indexRows rows)) = { list.indexRows rows with cursor := 0 } := by
          show MediaList.clampCursor (list.indexRows rows) = _
          unfold clampCursor
          rw [if_pos (isEmpty_iff.mpr empty)]
        rw [clamped, first, head]
        exact ⟨indexed, rfl⟩
      | some other =>
        obtain ⟨settled, chosen⟩ := @indexRows_select _ list _ rows distinct other (mem_of_head? head)
        have same : Cursored.setSelectedTarget (some other) (list.indexRows rows) =
            (list.indexRows rows).selectTarget other := rfl
        rw [same, clampCursor_eq settled]
        exact ⟨settled, chosen⟩

theorem installRows_marks (rows : List (MediaListRow Target)) : (list.installRows rows).multiSelection = list.multiSelection ∧
      (list.installRows rows).frozenSelection = list.frozenSelection ∧
      (list.installRows rows).selectionAnchor = list.selectionAnchor := by
  have clamps : ∀ placed : MediaList Target, placed.clampCursor.content = placed.content := by
    intro placed
    unfold clampCursor
    split <;> rfl
  have places : ((list.indexRows rows).placeCursor list.selectedTarget).content = (list.indexRows rows).content := by
    unfold placeCursor
    split
    · rename_i target _
      rcases @Cursored.selectTarget_picks _ _ _ (list.indexRows rows).rowFlow
        (list.indexRows rows) _ target with ⟨-, same⟩ | ⟨other, -, same⟩
      · rw [same]
        rfl
      · rw [same]
        exact selectTarget_content other
    · rfl
  have content : (list.installRows rows).content = (list.indexRows rows).content := (clamps _).trans places
  exact ⟨congrArg (·.2.2.1) content, congrArg (·.2.2.2.2.1) content, congrArg (·.2.2.2.1) content⟩

theorem pruneSelection_kept (indexed : list.Indexed) (marks : list.multiSelection.marked.Nodup)
    (frozen : list.frozenSelection.Nodup)
    (anchored : list.multiSelection.marked ≠ [] → list.selectionAnchor.isSome) :
    list.pruneSelection.Kept := by
  have retained : list.multiSelection.Sound fun _ => True := ⟨marks, fun _ _ => trivial⟩
  have sound : (list.multiSelection.retain list.selectableTargets.contains).Sound
      (· ∈ list.selectableTargets) :=
    (retained.retain _).mono fun target present => contains_iff_mem.mp present.2
  unfold pruneSelection
  dsimp only
  split
  · rename_i none
    refine ⟨indexed.of_same rfl rfl rfl, ?_⟩
    exact
      { marks := sound
        frozen := ⟨nodup_nil, fun _ member => nomatch member⟩
        anchor := fun _ member => nomatch member
        anchored := fun filled => absurd (isEmpty_iff.mp none) filled
        idle := fun _ => ⟨rfl, rfl, rfl⟩ }
  · rename_i visual
    have filled : (list.multiSelection.retain list.selectableTargets.contains).marked ≠ [] :=
      fun none => visual (isEmpty_iff.mpr none)
    have before : list.multiSelection.marked ≠ [] := by
      intro none
      refine filled ?_
      show list.multiSelection.marked.filter _ = []
      rw [none]
      rfl
    obtain ⟨marked, there⟩ := exists_mem_of_ne_nil _ filled
    have selected : list.selectedTarget.isSome := by
      rw [Option.isSome_iff_ne_none, ne_eq, indexed.selected_none]
      intro empty
      have length := indexed.length
      rw [empty, length_nil, length_eq_zero_iff] at length
      have present := sound.2 marked there
      rw [length] at present
      cases present
    refine ⟨indexed.of_same rfl rfl rfl, ?_⟩
    exact
      { marks := sound
        frozen := by
          refine ⟨frozen.filter _, fun target member => ?_⟩
          exact contains_iff_mem.mp (mem_filter.mp member).2
        anchor := by
          intro target held
          dsimp only at held
          split at held
          · exact indexed.selected_mem held
          · rename_i present
            have anchor : list.selectionAnchor = some target := held
            have present : target ∈ list.selectableTargets := by simpa [anchor] using present
            exact present
        anchored := by
          intro _
          dsimp only
          split
          · exact selected
          · exact anchored before
        idle := fun none => absurd none filled }

theorem pruneSelection_selected : list.pruneSelection.selectedTarget = list.selectedTarget := by
  unfold pruneSelection
  dsimp only
  split <;> rfl

theorem Kept.setContent (kept : list.Kept) {rows : List (MediaListRow Target)}
    (distinct : (rows.filterMap MediaListRow.selectableTarget).Nodup) :
    (list.setContent rows).Kept ∧ (list.setContent rows).selectedTarget = list.reselected rows := by
  obtain ⟨indexed, selected⟩ := installRows_spec kept distinct
  obtain ⟨marks, frozen, anchor⟩ := @installRows_marks _ list _ rows
  have pruned : (list.installRows rows).pruneSelection.Kept := by
    refine pruneSelection_kept indexed ?_ ?_ ?_
    · rw [marks]
      exact kept.marks.1
    · rw [frozen]
      exact kept.frozen.1
    · rw [marks, anchor]
      exact kept.anchored
  exact ⟨pruned.of_content rfl rfl, pruneSelection_selected.trans selected⟩

/-! ### Operations and runs -/

theorem Kept.contextIntent (kept : list.Kept) (target : Target) : (list.contextIntent target).2.Kept := by
  unfold MediaList.contextIntent
  split
  · split
    · exact kept
    · exact kept.clearSelection
  · exact kept

theorem Kept.applyOperation (kept : list.Kept) (operation : MediaListOperation Target)
    (viewportLen : Nat) : (list.applyOperation operation viewportLen).2.Kept := by
  cases operation with
  | move delta => exact kept.picks (Cursored.moveBy_picks delta)
  | page delta => exact kept.picks (Cursored.moveBy_picks _)
  | scroll delta => exact kept.of_content rfl rfl
  | first => exact kept.picks Cursored.first_picks
  | last => exact kept.picks Cursored.last_picks
  | activateCurrent => exact kept
  | contextCurrent =>
    unfold MediaList.applyOperation
    dsimp only
    split
    · exact kept
    · exact kept.contextIntent _
  | select target => exact kept.clearSelection.selectTarget target
  | toggle target => exact (kept.toggleSelection target).selectTarget target
  | range target => exact (kept.extendSelectionTo target).selectTarget target
  | activate target => exact kept.selectTarget target
  | context target => exact kept.contextIntent target

theorem Kept.delegate (kept : list.Kept) (operation : MediaListOperation Target)
    (viewportLen : Nat) : (list.delegateOperationWithViewportLen operation viewportLen).2.Kept := by
  have anchored : (list.reAnchorSelectionFollowing operation).Kept := by
    cases operation <;> exact kept.of_content rfl rfl
  have applied := anchored.applyOperation operation viewportLen
  unfold delegateOperationWithViewportLen
  dsimp only
  split
  · split
    · exact applied.extendSelectionTo _
    · exact applied
  · exact applied

theorem Kept.handleVisualKey (kept : list.Kept) (key : KeyEvent) : (list.handleVisualKey key).2.Kept := by
  unfold MediaList.handleVisualKey
  split
  · exact kept.selectAll
  · split
    · exact kept.enterVisualMode
    · split
      · exact kept
      · split
        · exact kept.clearSelection
        · split
          · exact kept
          · exact kept.toggleSelection _
        · exact kept

omit [DecidableEq Target] in
theorem Kept.resetPresentation (kept : list.Kept) : list.resetPresentation.Kept := by
  have cleared := kept.clearSelection
  refine ⟨⟨kept.index, kept.distinct, ?_⟩, cleared.toMarked.of_content rfl⟩
  rcases kept.cursor with inside | ⟨none, -⟩
  · exact Or.inl (Nat.zero_lt_of_lt inside)
  · exact Or.inr ⟨none, rfl⟩

theorem Kept.step (kept : list.Kept) (input : MediaListInput Target) : (list.step input).Kept := by
  cases input with
  | setContent rows distinct => exact (kept.setContent distinct).1
  | patchRow target row same => exact kept.patchRow same
  | operation operation viewportLen => exact kept.delegate operation viewportLen
  | visualKey key => exact kept.handleVisualKey key
  | selectAll => exact kept.selectAll
  | enterVisualMode => exact kept.enterVisualMode
  | clearSelection => exact kept.clearSelection
  | setScroll offset => exact kept.of_content rfl rfl
  | resetPresentation => exact kept.resetPresentation

omit [DecidableEq Target] in
theorem kept_new : ({} : MediaList Target).Kept := ⟨⟨rfl, nodup_nil, Or.inr ⟨rfl, rfl⟩⟩,
    { marks := ⟨nodup_nil, fun _ member => nomatch member⟩
      frozen := ⟨nodup_nil, fun _ member => nomatch member⟩
      anchor := fun _ member => nomatch member
      anchored := fun filled => absurd rfl filled
      idle := fun _ => ⟨rfl, rfl, rfl⟩ }⟩

structure Represented (list : MediaList Target) : Prop where
  ascending : list.selectable.Pairwise (· < ·)
  indexes : ∀ row, row ∈ list.selectable ↔ ∃ target, list.targetOfRow row = some target
  cursor : list.cursor < list.selectable.length ∨ list.selectable = [] ∧ list.cursor = 0
  marks : list.multiSelection.Sound (· ∈ list.selectableTargets)
  frozen : list.frozenSelection.Nodup ∧ ∀ target ∈ list.frozenSelection, target ∈ list.selectableTargets
  anchor : ∀ target ∈ list.selectionAnchor, target ∈ list.selectableTargets
  idle : list.multiSelection.marked = [] →
    list.liveRange = false ∧ list.selectionAnchor = none ∧ list.frozenSelection = []

omit [DecidableEq Target] in
theorem Kept.represented (kept : list.Kept) : list.Represented where
  ascending := by
    rw [kept.index]
    exact ascending_selectableIndices list.rows
  indexes row := by
    rw [kept.index]
    exact mem_selectableIndices
  cursor := kept.cursor
  marks := kept.marks
  frozen := kept.frozen
  anchor := kept.anchor
  idle := kept.idle

def selection (list : MediaList Target) :
    Nat × MarkSelectionState Target × List Target × Option Target × Bool :=
  (list.cursor, list.multiSelection, list.frozenSelection, list.selectionAnchor, list.liveRange)

/-- In every run a list is represented, a replacement keeps the selected row or takes the first, and
    a scroll leaves the selection alone. -/
theorem media_list_represented (inputs : List (MediaListInput Target)) :
    (machine.run {} inputs).Represented ∧
      (∀ rows distinct, (machine.run {} (inputs ++ [.setContent rows distinct])).selectedTarget =
        (machine.run {} inputs).reselected rows) ∧
      ∀ delta viewportLen, (machine.run {} (inputs ++
        [.operation (.scroll delta) viewportLen])).selection = (machine.run {} inputs).selection := by
  have kept : (machine.run ({} : MediaList Target) inputs).Kept :=
    @Machine.run_holds _ _ machine MediaList.Kept (fun _ input kept => Kept.step kept input) _ inputs
      kept_new
  refine ⟨kept.represented, fun rows distinct => ?_, fun delta viewportLen => ?_⟩
  · rw [Machine.run_append]
    exact (kept.setContent distinct).2
  · rw [Machine.run_append]
    show ((machine.run {} inputs).delegateOperationWithViewportLen (.scroll delta)
      viewportLen).2.selection = _
    unfold delegateOperationWithViewportLen
    dsimp only
    split <;> rfl

end MediaList

end Mbv.Surfaces
