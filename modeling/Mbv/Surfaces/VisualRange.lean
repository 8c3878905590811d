import Mbv.Surfaces.MediaListHistory

/-! The live range of Visual mode, over any cursor moves. -/

namespace Mbv.Surfaces

open List

inductive CursorMove where
  | move (delta : Int)
  | page (delta : Int)
  | first
  | last

def CursorMove.operation {Target : Type*} : CursorMove → MediaListOperation Target
  | move delta => .move delta
  | page delta => .page delta
  | first => .first
  | last => .last

/-- Cursor moves, each with the viewport length it is delegated with. -/
def cursorInputs {Target : Type*} (moves : List (CursorMove × Nat)) :
    List (MediaListInput Target) :=
  moves.map fun move => .operation move.1.operation move.2

theorem filterMap_zipIdx_filter {α β : Type*} (rows : List α) (f : α → Option β) (p : Nat → β → Bool)
    (each : ∀ row ∈ rows, (f row).isSome) (k : Nat) :
    ((rows.zipIdx k).filterMap fun row => (f row.1).filter (p row.2)) =
      (((rows.filterMap f).zipIdx k).filter fun row => p row.2 row.1).map (·.1) := by
  induction rows generalizing k with
  | nil => rfl
  | cons row rows ih =>
    obtain ⟨found, here⟩ := Option.isSome_iff_exists.mp (each row mem_cons_self)
    have later := ih (fun other member => each other (mem_cons_of_mem row member)) (k + 1)
    rw [zipIdx_cons, filterMap_cons, filterMap_cons, here, zipIdx_cons, filter_cons, later]
    cases held : p k found <;> simp [Option.filter, held]

namespace MediaList

variable {Target : Type*} [DecidableEq Target] {list entered next : MediaList Target}

/-- The selectable rows that are in `marked` or stand from one place to another, as displayed. -/
def visualRange (list : MediaList Target) (anchor cursor : Nat) (marked : List Target) :
    List Target :=
  (list.selectableTargets.zipIdx.filter fun row =>
    marked.contains row.1 ||
      (min anchor cursor ≤ row.2 && row.2 ≤ max anchor cursor)).map (·.1)

theorem visualRange_congr {anchor cursor : Nat} {one other : List Target}
    (same : ∀ place target, list.selectableTargets[place]? = some target → place ≠ anchor → (target ∈ one ↔ target ∈ other)) :
    list.visualRange anchor cursor one = list.visualRange anchor cursor other := by
  unfold visualRange
  congr 1
  apply filter_congr
  rintro ⟨target, place⟩ member
  have here := mem_zipIdx_iff_getElem?.mp member
  by_cases there : place = anchor
  · subst there
    simp
  · have iff := same place target here there
    simp only [contains_eq_mem, iff]

theorem mem_visualRange {anchor cursor place : Nat} {marked : List Target} {target : Target}
    (here : list.selectableTargets[place]? = some target)
    (inside : min anchor cursor ≤ place ∧ place ≤ max anchor cursor) :
    target ∈ list.visualRange anchor cursor marked := by
  apply mem_map.mpr
  refine ⟨(target, place), mem_filter.mpr ⟨mem_zipIdx_iff_getElem?.mpr here, ?_⟩, rfl⟩
  simp [inside.1, inside.2]

theorem Indexed.positionOf_eq (indexed : list.Indexed) {place : Nat} {target : Target}
    (here : list.selectableTargets[place]? = some target) :
    list.positionOf target = some place := by
  have present := positionOf_isSome.mpr (mem_of_getElem? here)
  obtain ⟨index, found⟩ := Option.isSome_iff_exists.mp present
  have there := (positionOf_some found).2
  rw [indexed.getElem?] at there
  obtain ⟨inside, -⟩ := List.getElem?_eq_some_iff.mp there
  rw [found, (getElem?_inj inside indexed.nodup).mp (there.trans here.symm)]

theorem Indexed.extendSelectionTo_eq (indexed : list.Indexed) {start finish : Nat}
    {anchor target : Target} (anchored : list.selectionAnchor = some anchor)
    (started : list.selectableTargets[start]? = some anchor)
    (finished : list.selectableTargets[finish]? = some target) :
    list.extendSelectionTo target = { list with
        multiSelection := ⟨list.visualRange start finish list.frozenSelection⟩
        selectionAnchor := some anchor } := by
  have each : ∀ row ∈ list.selectable, (list.targetOfRow row).isSome := by
    intro row member
    rw [indexed.index] at member
    exact Option.isSome_iff_exists.mpr (mem_selectableIndices.mp member)
  unfold extendSelectionTo
  rw [indexed.positionOf_eq finished, anchored]
  dsimp only [Option.some_or, Option.getD_some]
  rw [indexed.positionOf_eq started]
  have rows := filterMap_zipIdx_filter list.selectable list.targetOfRow
    (fun place candidate => list.frozenSelection.contains candidate ||
      (min start finish ≤ place && place ≤ max start finish)) each 0
  dsimp only
  rw [rows]
  rfl

/-! ### One move -/

def moveCursor (list : MediaList Target) (move : CursorMove) (viewportLen : Nat) : MediaList Target :=
  (list.delegateOperationWithViewportLen move.operation viewportLen).2

theorem picks_cursorMove (move : CursorMove) (viewportLen : Nat) :
    Cursored.Picks list.rowFlow list (list.applyOperation move.operation viewportLen).2 := by
  cases move with
  | move delta => exact Cursored.moveBy_picks delta
  | page delta => exact Cursored.moveBy_picks _
  | first => exact Cursored.first_picks
  | last => exact Cursored.last_picks

/-- The list with the cursor at another place, and its viewport following it. -/
def place (list : MediaList Target) (cursor : Nat) : MediaList Target :=
  { list with cursor := cursor, viewportAnchor := .followSelection }

theorem moveCursor_spec (kept : list.Kept) (move : CursorMove) (viewportLen : Nat) : ∃ cursor, (list.place cursor).Kept ∧
      (list.liveRange = false → list.moveCursor move viewportLen = list.place cursor) ∧
      ∀ target, (list.place cursor).selectedTarget = some target → list.liveRange = true →
        list.moveCursor move viewportLen = (list.place cursor).extendSelectionTo target := by
  have ranges : MediaListOperation.extendsRange (move.operation : MediaListOperation Target) = true := by
    cases move <;> rfl
  have follows : list.reAnchorSelectionFollowing move.operation = list.place list.cursor := by
    cases move <;> rfl
  have following : (list.place list.cursor).Kept := kept.of_content rfl rfl
  have applied : ∃ cursor, ((list.place list.cursor).applyOperation move.operation viewportLen).2 = list.place cursor := by
    rcases @picks_cursorMove _ _ (list.place list.cursor) move viewportLen with
      ⟨-, same⟩ | ⟨target, -, same⟩
    · exact ⟨list.cursor, same⟩
    · obtain ⟨cursor, picked⟩ := @selectTarget_eq _ (list.place list.cursor) _ target
      exact ⟨cursor, same.trans picked⟩
  obtain ⟨cursor, applied⟩ := applied
  have placed := following.applyOperation move.operation viewportLen
  rw [applied] at placed
  refine ⟨cursor, placed, fun still => ?_, fun target selected live => ?_⟩
  · unfold moveCursor delegateOperationWithViewportLen
    dsimp only
    rw [follows, applied]
    split
    · rw [if_neg]
      simp [place, still]
    · rfl
  · unfold moveCursor delegateOperationWithViewportLen
    dsimp only
    rw [follows, applied, selected]
    dsimp only
    rw [if_pos]
    simp [place, live, ranges]

/-! ### A live range, and a frozen one -/

/-- `next` is in the Visual mode that `entered` began. -/
structure Ranging (entered next : MediaList Target) : Prop where
  kept : next.Kept
  rows : next.rows = entered.rows
  selectable : next.selectable = entered.selectable
  frozen : next.frozenSelection = entered.frozenSelection
  anchor : next.selectionAnchor = entered.selectableTargets[entered.cursor]?
  live : next.liveRange = next.selectionAnchor.isSome

omit [DecidableEq Target] in
theorem Ranging.targets (ranging : Ranging entered next) : next.selectableTargets = entered.selectableTargets := by
  unfold selectableTargets targetOfRow
  rw [ranging.rows, ranging.selectable]

omit [DecidableEq Target] in
theorem Kept.nothing (kept : list.Kept) (none : list.selectableTargets[list.cursor]? = none) :
    list.selectableTargets = [] ∧ list.multiSelection.marked = [] ∧ list.frozenSelection = [] ∧ list.liveRange = false := by
  have empty := kept.selected_none.mp (kept.selected.trans none)
  have length := kept.length
  rw [empty, length_nil, length_eq_zero_iff] at length
  have unmarked : list.multiSelection.marked = [] := by
    apply eq_nil_iff_forall_not_mem.mpr
    intro target member
    have present := kept.marks.2 target member
    rw [length] at present
    cases present
  obtain ⟨still, -, thawed⟩ := kept.idle unmarked
  exact ⟨length, unmarked, thawed, still⟩

theorem Ranging.move (entering : entered.Kept) (ranging : Ranging entered next) (move : CursorMove) (viewportLen : Nat) :
    Ranging entered (next.moveCursor move viewportLen) ∧ (next.moveCursor move viewportLen).multiSelection.marked =
        entered.visualRange entered.cursor (next.moveCursor move viewportLen).cursor
          entered.frozenSelection := by
  obtain ⟨cursor, placed, stays, extended⟩ := moveCursor_spec ranging.kept move viewportLen
  have targets : (next.place cursor).selectableTargets = entered.selectableTargets := ranging.targets
  cases anchored : entered.selectableTargets[entered.cursor]? with
  | none =>
    have still : next.liveRange = false := by rw [ranging.live, ranging.anchor, anchored]; rfl
    rw [stays still]
    refine ⟨⟨placed, ranging.rows, ranging.selectable, ranging.frozen, ranging.anchor, ranging.live⟩, ?_⟩
    have empty := (entering.nothing anchored).1
    have unmarked : (next.place cursor).multiSelection.marked = [] := by
      apply eq_nil_iff_forall_not_mem.mpr
      intro target member
      have present := placed.marks.2 target member
      rw [targets, empty] at present
      cases present
    rw [unmarked]
    unfold visualRange
    rw [empty]
    rfl
  | some anchor =>
    have live : next.liveRange = true := by rw [ranging.live, ranging.anchor, anchored]; rfl
    have inside : (next.place cursor).selectedTarget ≠ none := by
      intro none
      have empty := (placed.nothing (placed.selected.symm.trans none)).1
      rw [targets] at empty
      rw [empty] at anchored
      cases anchored
    obtain ⟨target, selected⟩ := Option.ne_none_iff_exists'.mp inside
    have finished := placed.selected.symm.trans selected
    have ranged := placed.toIndexed.extendSelectionTo_eq (ranging.anchor.trans anchored) (targets ▸ anchored) finished
    have kept := placed.extendSelectionTo target
    rw [extended target selected live]
    rw [ranged] at kept ⊢
    refine ⟨⟨kept, ranging.rows, ranging.selectable, ranging.frozen, anchored.symm, live⟩, ?_⟩
    show (next.place cursor).visualRange entered.cursor cursor next.frozenSelection = _
    unfold visualRange
    rw [targets, ranging.frozen]
    rfl

/-- However the cursor got where it is, the marks are the range to it. -/
theorem Ranging.run (entering : entered.Kept) (first : CursorMove × Nat)
    (rest : List (CursorMove × Nat)) (ranging : Ranging entered next) :
    Ranging entered (machine.run next (cursorInputs (first :: rest))) ∧
      (machine.run next (cursorInputs (first :: rest))).multiSelection.marked =
        entered.visualRange entered.cursor (machine.run next (cursorInputs (first :: rest))).cursor
          entered.frozenSelection := by
  induction rest generalizing first next with
  | nil => exact ranging.move entering first.1 first.2
  | cons second rest ih => exact ih second (ranging.move entering first.1 first.2).1

theorem Kept.ranging (kept : list.Kept) : Ranging list.enterVisualMode list.enterVisualMode ∧
      ∀ cursor, list.enterVisualMode.visualRange list.enterVisualMode.cursor cursor list.enterVisualMode.frozenSelection =
        list.enterVisualMode.visualRange list.enterVisualMode.cursor cursor
          list.enterVisualMode.multiSelection.marked := by
  have entering := kept.enterVisualMode
  unfold MediaList.enterVisualMode at entering ⊢
  cases selected : list.selectedTarget with
  | none =>
    have there := kept.selected.symm.trans selected
    obtain ⟨-, unmarked, thawed, still⟩ := kept.nothing there
    have unanchored := (kept.idle unmarked).2.1
    refine ⟨⟨kept, rfl, rfl, rfl, unanchored.trans there.symm, ?_⟩, fun cursor => ?_⟩
    · rw [still, unanchored]
      rfl
    · rw [thawed, unmarked]
  | some target =>
    rw [selected] at entering
    have there := kept.selected.symm.trans selected
    dsimp only at entering ⊢
    split at entering
    · rename_i none
      rw [if_pos none]
      refine ⟨⟨entering, rfl, rfl, rfl, there.symm, rfl⟩, fun cursor => ?_⟩
      apply visualRange_congr
      intro place other here elsewhere
      have unmarked : list.multiSelection.marked = [] := isEmpty_iff.mp none
      have apart : other ≠ target := by
        rintro rfl
        obtain ⟨inside, -⟩ := List.getElem?_eq_some_iff.mp here
        exact elsewhere ((getElem?_inj inside kept.nodup).mp (here.trans there.symm))
      simp [MarkSelectionState.add, MarkSelectionState.contains, unmarked, apart]
    · rename_i filled
      rw [if_neg filled]
      exact ⟨⟨entering, rfl, rfl, rfl, there.symm, rfl⟩, fun cursor => rfl⟩

theorem toggleSelection_marked {target : Target} (marked : target ∈ list.multiSelection.marked) :
    (list.toggleSelection target).multiSelection.marked = list.multiSelection.marked.erase target ∧
      (list.toggleSelection target).frozenSelection = (list.toggleSelection target).multiSelection.marked ∧
      (list.toggleSelection target).liveRange = false := by
  have filled : ¬ list.multiSelection.isEmpty = true := fun none => ne_nil_of_mem marked (isEmpty_iff.mp none)
  have started : list.startMarks = list := by
    unfold startMarks
    split
    · rw [if_neg filled]
    · rfl
  have toggled : list.startMarks.toggleMark list.multiSelection.isEmpty target =
      { list with multiSelection := list.multiSelection.remove target } := by
    have held : list.multiSelection.contains target = true := contains_iff_mem.mpr marked
    unfold toggleMark
    rw [started, if_pos held, if_neg filled]
  unfold toggleSelection freezeMarks
  rw [toggled]
  dsimp only
  split
  · rename_i none
    exact ⟨(isEmpty_iff.mp none).symm, rfl, rfl⟩
  · exact ⟨rfl, rfl, rfl⟩

/-- The marks are `set`, and no range is live. -/
structure Froze (list : MediaList Target) (set : List Target) : Prop where
  marks : list.multiSelection.marked = set
  frozen : list.frozenSelection = set
  still : list.liveRange = false

theorem Froze.run {set : List Target} (kept : list.Kept) (froze : list.Froze set)
    (moves : List (CursorMove × Nat)) : (machine.run list (cursorInputs moves)).Froze set := by
  induction moves generalizing list with
  | nil => exact froze
  | cons move moves ih =>
    obtain ⟨cursor, placed, stays, -⟩ := moveCursor_spec kept move.1 move.2
    have same : machine.step list (.operation move.1.operation move.2) = list.place cursor := stays froze.still
    show (machine.run (machine.step list (.operation move.1.operation move.2)) (cursorInputs moves)).Froze set
    rw [same]
    exact ih placed ⟨froze.marks, froze.frozen, froze.still⟩

def space : KeyEvent := ⟨.char ' ', {}⟩

theorem Kept.space (kept : list.Kept) (live : ∀ target ∈ list.selectedTarget, target ∈ list.multiSelection.marked) :
    (machine.step list (.visualKey space)).Froze
      (list.multiSelection.marked.filter fun target => list.selectedTarget ≠ some target) := by
  show (list.handleVisualKey MediaList.space).2.Froze _
  cases selected : list.selectedTarget with
  | none =>
    obtain ⟨-, unmarked, thawed, still⟩ := kept.nothing (kept.selected.symm.trans selected)
    have same : (list.handleVisualKey MediaList.space).2 = list := by
      unfold MediaList.handleVisualKey
      simp [MediaList.space, isVisualMode, MarkSelectionState.isEmpty, unmarked]
    rw [same, unmarked]
    exact ⟨unmarked, thawed, still⟩
  | some target =>
    have marked := live target selected
    obtain ⟨erased, frozen, still⟩ := toggleSelection_marked marked
    have same : (list.handleVisualKey MediaList.space).2 = list.toggleSelection target := by
      have visual := ne_nil_of_mem marked
      unfold MediaList.handleVisualKey
      simp [MediaList.space, isVisualMode, MarkSelectionState.isEmpty, visual, selected, KeyModifiers.isEmpty]
    have filtered : list.multiSelection.marked.erase target =
        list.multiSelection.marked.filter fun other => some target ≠ some other := by
      rw [kept.marks.1.erase_eq_filter]
      apply filter_congr
      intro other _
      by_cases same : other = target
      · simp [same]
      · simp [same, Ne.symm same]
    rw [same, ← filtered]
    exact ⟨erased, frozen.trans erased, still⟩

/-- In Visual mode the marks are those of the entry with the range from the anchor to the cursor,
    whatever moves brought it there, and Space freezes them without the row under it. -/
theorem visual_range_of_cursor (inputs : List (MediaListInput Target)) (first : CursorMove × Nat)
    (rest : List (CursorMove × Nat)) :
    let entered := machine.run {} (inputs ++ [.enterVisualMode])
    let next := machine.run entered (cursorInputs (first :: rest))
    next.multiSelection.marked =
        entered.visualRange entered.cursor next.cursor entered.multiSelection.marked ∧
      next.selectableTargets = entered.selectableTargets ∧
      next.selectionAnchor = entered.selectedTarget ∧
      (∀ other more, (machine.run entered (cursorInputs (other :: more))).cursor = next.cursor →
        (machine.run entered (cursorInputs (other :: more))).multiSelection =
          next.multiSelection) ∧
      (∀ target ∈ next.selectedTarget, target ∈ next.multiSelection.marked) ∧
      ∀ later, (machine.run (machine.step next (.visualKey space)) (cursorInputs later)).Froze
        (next.multiSelection.marked.filter fun target => next.selectedTarget ≠ some target) := by
  have before : (machine.run ({} : MediaList Target) inputs).Kept :=
    @Machine.run_holds _ _ machine MediaList.Kept (fun _ input kept => Kept.step kept input) _ inputs
      kept_new
  dsimp only
  rw [Machine.run_append]
  generalize machine.run ({} : MediaList Target) inputs = list at before
  show let entered := list.enterVisualMode; _
  dsimp only
  have entering := before.enterVisualMode
  obtain ⟨ranging, marks⟩ := before.ranging
  obtain ⟨reached, ranged⟩ := ranging.run entering first rest
  rw [marks] at ranged
  have live : ∀ target ∈ (machine.run list.enterVisualMode
      (cursorInputs (first :: rest))).selectedTarget, target ∈ (machine.run list.enterVisualMode
        (cursorInputs (first :: rest))).multiSelection.marked := by
    intro target selected
    have here := reached.kept.selected.symm.trans selected
    rw [reached.targets] at here
    rw [ranged]
    exact mem_visualRange here ⟨Nat.min_le_right _ _, Nat.le_max_right _ _⟩
  refine ⟨ranged, reached.targets, reached.anchor.trans entering.selected.symm, ?_, live, ?_⟩
  · intro other more same
    have again := (ranging.run entering other more).2
    rw [marks] at again
    have ends : _ = list.enterVisualMode.visualRange _ _ _ :=
      again.trans (congrArg (list.enterVisualMode.visualRange _ · _) same)
    exact congrArg MarkSelectionState.mk (ends.trans ranged.symm)
  · intro later
    exact (reached.kept.space live).run (reached.kept.handleVisualKey space) later

end MediaList

end Mbv.Surfaces
