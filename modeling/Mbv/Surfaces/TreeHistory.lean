import Mbv.Surfaces.TreeFlow

namespace Mbv.Surfaces

namespace TreeBrowser

open RebuiltForest Text List

variable {Target : Type*} [DecidableEq Target]

def Expandable (nodes : List (TreeNode Target)) (target : Target) : Prop :=
  ∃ node ∈ nodes, node.target = target ∧
    (node.expandable = true ∨ ∃ child ∈ nodes, child.parent = some target)

def Direct (nodes : List (TreeNode Target)) (target : Target) : Prop :=
  ∃ node ∈ nodes, node.target = target ∧ node.markPolicy = .direct

structure Kept (fuzzyMatch : String → String → Option Int) (browser : TreeBrowser Target) : Prop where
  planted : browser.Planted
  matched : browser.Matched fuzzyMatch
  expanded : ∀ target ∈ browser.expanded, Expandable browser.nodes target
  marks : browser.marks.Sound (Direct browser.nodes)

def Selected (browser : TreeBrowser Target) : Prop :=
  match browser.selected with
  | none => browser.currentFlow.targets = []
  | some target => target ∈ browser.currentFlow.targets

/-- A browser without its selection, viewport and paint. -/
def content (browser : TreeBrowser Target) : TreeBrowser Target :=
  { browser with
    selected := none
    viewportOffset := 0
    viewportAnchor := .followSelection
    configuredGeometry := none
    filterAnchor := none
    paint := {}
    focused := true }

def layout (browser : TreeBrowser Target) : TreeBrowser Target := { browser.content with marks := {} }

variable {fuzzyMatch : String → String → Option Int} {browser before after : TreeBrowser Target}

omit [DecidableEq Target] in
theorem hasMatchingDescendant_layout (fuel id : Nat) :
    browser.layout.hasMatchingDescendant fuel id = browser.hasMatchingDescendant fuel id := by
  induction fuel generalizing id with
  | zero => rfl
  | succ fuel ih =>
    unfold hasMatchingDescendant
    simp only [ih]
    rfl

theorem pushVisible_layout (fuel id : Nat) : browser.layout.pushVisible fuel id = browser.pushVisible fuel id := by
  induction fuel generalizing id with
  | zero => rfl
  | succ fuel ih =>
    have pushes := funext ih
    unfold pushVisible
    rw [pushes, hasMatchingDescendant_layout]
    rfl

theorem currentFlow_layout : browser.layout.currentFlow = browser.currentFlow := by
  have rows : browser.layout.rootFlowRows = browser.rootFlowRows := by
    funext root
    unfold rootFlowRows
    rw [pushVisible_layout]
    rfl
  unfold currentFlow visibleFlowRows
  rw [rows]
  rfl

omit [DecidableEq Target] in
theorem kept_content : browser.content.Kept fuzzyMatch ↔ browser.Kept fuzzyMatch :=
  ⟨fun kept => ⟨kept.planted, kept.matched, kept.expanded, kept.marks⟩,
    fun kept => ⟨kept.planted, kept.matched, kept.expanded, kept.marks⟩⟩

omit [DecidableEq Target] in
theorem Kept.of_content (kept : before.Kept fuzzyMatch) (same : after.content = before.content) : after.Kept fuzzyMatch := by
  rw [← kept_content, same, kept_content]
  exact kept

theorem currentFlow_of_layout (same : after.layout = before.layout) : after.currentFlow = before.currentFlow := by
  rw [← currentFlow_layout, same, currentFlow_layout]

theorem currentFlow_of_content (same : after.content = before.content) : after.currentFlow = before.currentFlow := by
  refine currentFlow_of_layout ?_
  unfold layout
  rw [same]

theorem Selected.of_content (selected : before.Selected) (same : after.content = before.content)
    (still : after.selected = before.selected) : after.Selected := by
  unfold Selected at selected ⊢
  rw [still, currentFlow_of_content same]
  exact selected

/-! ### The selection -/

omit [DecidableEq Target] in
theorem picks_content {flow : RowFlow Target} (picks : Cursored.Picks flow before after) : after.content = before.content := by
  rcases picks with ⟨-, rfl⟩ | ⟨target, -, rfl⟩ <;> rfl

theorem selected_of_picks (picks : Cursored.Picks before.currentFlow before after) :
    after.Selected := by
  have flow := currentFlow_of_content (picks_content picks)
  unfold Selected
  rw [flow]
  rcases picks with ⟨empty, rfl⟩ | ⟨target, member, rfl⟩
  · exact empty
  · exact member

theorem keepSelected_content : browser.keepSelected.content = browser.content := by
  unfold keepSelected
  split
  · exact picks_content Cursored.first_picks
  · rfl

theorem keepSelected_selected : browser.keepSelected.Selected := by
  unfold keepSelected
  split
  · exact selected_of_picks Cursored.first_picks
  · rename_i found
    unfold Selected
    unfold Cursored.index at found
    cases chosen : browser.selected with
    | none =>
      have absent : (Cursored.selectedTarget browser : Option Target) = none := chosen
      rw [absent] at found
      exact absurd rfl found
    | some target =>
      have present : (Cursored.selectedTarget browser : Option Target) = some target := chosen
      rw [present, Option.bind_some, Bool.not_eq_true, Option.isNone_eq_false_iff] at found
      exact browser.currentFlow.positionOf_isSome.mp found

theorem reconcileSelectionWithHeight_content (height : Option Nat) :
    (browser.reconcileSelectionWithHeight height).content = browser.content := by
  cases height with
  | none => exact keepSelected_content
  | some height => exact keepSelected_content

theorem reconcileSelectionWithHeight_selected (height : Option Nat) :
    (browser.reconcileSelectionWithHeight height).Selected := by
  cases height with
  | none => exact keepSelected_selected
  | some height => exact keepSelected_selected.of_content rfl rfl

theorem reconcileSelection_content : browser.reconcileSelection.content = browser.content :=
  reconcileSelectionWithHeight_content _

theorem reconcileSelection_selected : browser.reconcileSelection.Selected := reconcileSelectionWithHeight_selected _

theorem page_content (flow : RowFlow Target) (height : Nat) (direction : Int) :
    (Viewported.page flow height browser direction).content = browser.content := by
  have picks := @Viewported.pageByVisibleRows_picks _ _ _ _ flow browser height direction
  have same := picks_content picks
  exact same

theorem page_selected (height : Nat) (direction : Int) :
    (Viewported.page browser.currentFlow height browser direction).Selected := by
  have picks := @Viewported.pageByVisibleRows_picks _ _ _ _ browser.currentFlow browser height direction
  exact (selected_of_picks picks).of_content rfl rfl

/-! ### Expansion and marks -/

section Entries

omit [DecidableEq Target]

theorem entryOf_eq (planted : browser.Planted) {target : Target} {entry : ArenaNode Target} :
    browser.entryOf target = some entry ↔ ∃ id, browser.arena id = some entry ∧ entry.node.target = target := by
  unfold entryOf
  rw [Option.bind_eq_some_iff]
  refine exists_congr fun id => ?_
  rw [planted.looked, targetOf_eq]
  constructor
  · rintro ⟨⟨other, found', named⟩, found⟩
    cases found.symm.trans found'
    exact ⟨found, named⟩
  · rintro ⟨found, named⟩
    exact ⟨⟨entry, found, named⟩, found⟩

theorem parentId_eq (planted : browser.Planted) {child id : Nat} {entry : ArenaNode Target}
    {target : Target} (found : browser.arena child = some entry) (names : browser.Names id target) :
    browser.parentId child = some id ↔ entry.node.parent = some target := by
  unfold parentId
  rw [found, Option.bind_some]
  cases parented : entry.node.parent with
  | none => simp
  | some parent =>
    rw [Option.bind_some, planted.looked]
    constructor
    · intro named
      exact named.symm.trans names
    · intro same
      cases Option.some.inj same
      exact names

theorem isExpandable_iff (planted : browser.Planted) {target : Target} :
    browser.isExpandable target = true ↔ Expandable browser.nodes target := by
  have children : ∀ id entry, browser.arena id = some entry → entry.node.target = target →
      (entry.children ≠ [] ↔ ∃ child ∈ browser.nodes, child.parent = some target) := by
    intro id entry found named
    have names : browser.Names id target := targetOf_eq.mpr ⟨entry, found, named⟩
    have linked := planted.linked.children id (planted.mem_of_target names)
    unfold childrenOf at linked
    rw [found] at linked
    have linked : entry.children = browser.orderedNodes.filter (browser.parentId · = some id) := linked
    rw [linked, ne_eq, filter_eq_nil_iff]
    push Not
    constructor
    · rintro ⟨child, member, below⟩
      obtain ⟨lower, there⟩ := Option.isSome_iff_exists.mp ((planted.held child).mp member)
      refine ⟨lower.node, planted.entry_mem_nodes there, ?_⟩
      exact (parentId_eq planted there names).mp (by simpa using below)
    · rintro ⟨node, member, parented⟩
      obtain ⟨child, lower, there, rfl, named⟩ := mem_nodes_names member
      refine ⟨child, planted.mem_of_target named, ?_⟩
      simpa using (parentId_eq planted there names).mpr parented
  unfold isExpandable
  rw [Option.any_eq_true]
  constructor
  · rintro ⟨entry, looked, expands⟩
    obtain ⟨id, found, named⟩ := (entryOf_eq planted).mp looked
    refine ⟨entry.node, planted.entry_mem_nodes found, named, ?_⟩
    rcases Bool.or_eq_true _ _ ▸ expands with declared | loaded
    · exact Or.inl declared
    · exact Or.inr ((children id entry found named).mp (by simpa using loaded))
  · rintro ⟨node, member, named, expands⟩
    obtain ⟨id, entry, found, rfl, -⟩ := mem_nodes_names member
    refine ⟨entry, (entryOf_eq planted).mpr ⟨id, found, named⟩, ?_⟩
    rw [Bool.or_eq_true]
    refine expands.imp (fun declared => declared) fun parented => ?_
    simpa using (children id entry found named).mpr parented

theorem isDirect_iff (planted : browser.Planted) {target : Target} :
    browser.isDirect target = true ↔ Direct browser.nodes target := by
  unfold isDirect
  rw [Option.any_eq_true]
  constructor
  · rintro ⟨entry, looked, direct⟩
    obtain ⟨id, found, named⟩ := (entryOf_eq planted).mp looked
    exact ⟨entry.node, planted.entry_mem_nodes found, named, by simpa using direct⟩
  · rintro ⟨node, member, named, direct⟩
    obtain ⟨id, entry, found, rfl, -⟩ := mem_nodes_names member
    exact ⟨entry, (entryOf_eq planted).mpr ⟨id, found, named⟩, by simpa using direct⟩

end Entries

theorem Kept.toggleExpanded (kept : browser.Kept fuzzyMatch) {target : Target}
    (expandable : browser.isExpandable target = true) :
    (browser.toggleExpanded target).Kept fuzzyMatch := by
  unfold TreeBrowser.toggleExpanded setExpanded
  split
  · exact kept
  · split
    · refine ⟨kept.planted, kept.matched, fun other member => ?_, kept.marks⟩
      rcases Finset.mem_insert.mp member with rfl | old
      · exact (isExpandable_iff kept.planted).mp expandable
      · exact kept.expanded other old
    · exact ⟨kept.planted, kept.matched, fun other member => kept.expanded other (Finset.mem_of_mem_erase member), kept.marks⟩

theorem Kept.toggleMark (kept : browser.Kept fuzzyMatch) {target : Target}
    (direct : Direct browser.nodes target) : (browser.toggleMark target).Kept fuzzyMatch := by
  refine ⟨kept.planted, kept.matched, kept.expanded, ?_⟩
  unfold TreeBrowser.toggleMark
  dsimp only
  split
  · exact kept.marks.remove target
  · exact kept.marks.add direct

omit [DecidableEq Target] in
theorem directDescendants_direct (planted : browser.Planted) {id : Nat} :
    ∀ target ∈ browser.directDescendants id, Direct browser.nodes target := by
  intro target member
  unfold directDescendants at member
  obtain ⟨entry, inside, rfl⟩ := mem_map.mp member
  obtain ⟨shown, direct⟩ := mem_filter.mp inside
  obtain ⟨child, -, found⟩ := mem_filterMap.mp shown
  exact ⟨entry.node, planted.entry_mem_nodes found, rfl, by simpa using direct⟩

theorem Kept.toggleMarks (kept : browser.Kept fuzzyMatch) {targets : List Target}
    (direct : ∀ target ∈ targets, Direct browser.nodes target) :
    (browser.toggleMarks targets).Kept fuzzyMatch := by
  have removed : ∀ (targets : List Target) (marks : MarkSelectionState Target), marks.Sound (Direct browser.nodes) →
      (targets.foldl (fun marks target => marks.remove target) marks).Sound (Direct browser.nodes) := by
    intro targets
    induction targets with
    | nil => exact fun marks sound => sound
    | cons target targets ih => exact fun marks sound => ih _ (sound.remove target)
  have added : ∀ (targets : List Target) (marks : MarkSelectionState Target),
      marks.Sound (Direct browser.nodes) → (∀ target ∈ targets, Direct browser.nodes target) →
      (targets.foldl (fun marks target => marks.add target) marks).Sound (Direct browser.nodes) := by
    intro targets
    induction targets with
    | nil => exact fun marks sound _ => sound
    | cons target targets ih =>
      intro marks sound direct
      exact ih _ (sound.add (direct target mem_cons_self)) fun other member => direct other (mem_cons_of_mem _ member)
  refine ⟨kept.planted, kept.matched, kept.expanded, ?_⟩
  unfold TreeBrowser.toggleMarks
  dsimp only
  split
  · exact removed targets browser.marks kept.marks
  · exact added targets browser.marks kept.marks direct

theorem Kept.toggleMarkTarget (kept : browser.Kept fuzzyMatch) (target : Target) :
    (browser.toggleMarkTarget target).1.Kept fuzzyMatch := by
  unfold TreeBrowser.toggleMarkTarget
  split
  · exact kept
  · rename_i id looked
    split
    · exact kept
    · exact kept
    · rename_i policy
      refine kept.toggleMark ?_
      obtain ⟨entry, found, direct⟩ := Option.map_eq_some_iff.mp policy
      obtain ⟨entry', found', named⟩ := targetOf_eq.mp ((kept.planted.looked target id).mp looked)
      cases found.symm.trans found'
      exact ⟨entry.node, kept.planted.entry_mem_nodes found, named, direct⟩
    · dsimp only
      split
      · exact kept
      · exact kept.toggleMarks (directDescendants_direct kept.planted)

theorem Kept.applyToggleExpansion (kept : browser.Kept fuzzyMatch) (target : Target) :
    (browser.applyToggleExpansion target).1.Kept fuzzyMatch := by
  unfold TreeBrowser.applyToggleExpansion
  split
  · rename_i expandable
    exact (kept.toggleExpanded expandable).of_content reconcileSelection_content
  · exact kept

theorem applyToggleExpansion_selected (selected : browser.Selected) (target : Target) :
    (browser.applyToggleExpansion target).1.Selected := by
  unfold TreeBrowser.applyToggleExpansion
  split
  · exact reconcileSelection_selected
  · exact selected

theorem Kept.applyRight (kept : browser.Kept fuzzyMatch) : browser.applyRight.1.Kept fuzzyMatch := by
  unfold TreeBrowser.applyRight
  split
  · exact kept
  · split
    · exact kept
    · rename_i expandable
      split
      · exact kept
      · refine (kept.toggleExpanded ?_).of_content reconcileSelection_content
        simpa using expandable

theorem applyRight_selected (selected : browser.Selected) : browser.applyRight.1.Selected := by
  unfold TreeBrowser.applyRight
  split
  · exact selected
  · split
    · exact selected
    · split
      · exact selected
      · exact reconcileSelection_selected

/-! ### What is above a node -/

theorem parent_eq (planted : browser.Planted) {id : Nat} {entry : ArenaNode Target}
    (found : browser.arena id = some entry) : browser.parent entry.node.target = entry.node.parent :=
  parentOf_member planted.distinct (planted.entry_mem_nodes found)

theorem parent_names (planted : browser.Planted) {id : Nat} {target parent : Target}
    (names : browser.Names id target) (below : browser.parent target = some parent) :
    ∃ parentId, browser.targetToNode parent = some parentId ∧ browser.Names parentId parent := by
  have alike := alike planted.toAllocated planted.declared
  obtain ⟨parentId, -, named⟩ := alike.swap.below names below
  exact ⟨parentId, (planted.looked _ _).mpr named, named⟩

theorem ancestorsOf_succ (planted : browser.Planted) {id : Nat} {target : Target}
    (names : browser.Names id target) (fuel : Nat) :
    (browser.parent target = none ∧ browser.ancestorsOf (fuel + 1) id = []) ∨
      ∃ parent parentId, browser.parent target = some parent ∧ browser.Names parentId parent ∧
        browser.ancestorsOf (fuel + 1) id = parent :: browser.ancestorsOf fuel parentId := by
  obtain ⟨entry, found, rfl⟩ := targetOf_eq.mp names
  have parent := parent_eq planted found
  cases parented : entry.node.parent with
  | none =>
    refine Or.inl ⟨parent.trans parented, ?_⟩
    unfold ancestorsOf
    rw [found, Option.bind_some, parented]
  | some above =>
    obtain ⟨parentId, looked, named⟩ := parent_names planted names (parent.trans parented)
    refine Or.inr ⟨above, parentId, parent.trans parented, named, ?_⟩
    conv_lhs => unfold ancestorsOf
    rw [found, Option.bind_some, parented]
    dsimp only
    rw [looked]

theorem ancestorsOf_above (planted : browser.Planted) {fuel id : Nat} {target : Target}
    (names : browser.Names id target) : ∀ above ∈ browser.ancestorsOf fuel id,
      Relation.TransGen (Forest.Below browser.parent) target above := by
  induction fuel generalizing id target with
  | zero => exact fun above none => by unfold ancestorsOf at none; cases none
  | succ fuel ih =>
    intro above member
    rcases ancestorsOf_succ planted names fuel with ⟨-, empty⟩ | ⟨parent, parentId, below, named, more⟩
    · rw [empty] at member
      cases member
    · rw [more] at member
      rcases mem_cons.mp member with rfl | upper
      · exact .single below
      · exact .head below (ih named above upper)

structure Exposes (browser : TreeBrowser Target) (target exposed : Target) : Prop where
  chain : Relation.ReflTransGen (Forest.Below browser.parent) target exposed
  above : ∀ upper, Relation.TransGen (Forest.Below browser.parent) exposed upper →
    upper ∈ browser.expanded
  collapsed : exposed = target ∨ exposed ∉ browser.expanded

theorem exposes_of_content (same : after.content = before.content) {target exposed : Target} :
    after.Exposes target exposed ↔ before.Exposes target exposed := by
  have content : ∀ browser : TreeBrowser Target,
      browser.content.Exposes target exposed ↔ browser.Exposes target exposed := fun browser =>
    ⟨fun exposes => ⟨exposes.chain, exposes.above, exposes.collapsed⟩,
      fun exposes => ⟨exposes.chain, exposes.above, exposes.collapsed⟩⟩
  rw [← content, same, content]

theorem shows_of_content (same : after.content = before.content) {target : Target} :
    after.Shows fuzzyMatch target ↔ before.Shows fuzzyMatch target := by
  have content : ∀ browser : TreeBrowser Target,
      browser.content.Shows fuzzyMatch target ↔ browser.Shows fuzzyMatch target := fun _ => Iff.rfl
  rw [← content, same, content]

theorem exposes_ancestor (planted : browser.Planted) {fuel d id : Nat} {target : Target}
    (names : browser.Names id target) (distance : Forest.Distance browser.parent target d)
    (enough : d ≤ fuel) : browser.Exposes target
      (((browser.ancestorsOf fuel id).reverse.find? (· ∉ browser.expanded)).getD target) := by
  have topmost : browser.parent target = none → browser.Exposes target target := by
    intro top
    refine ⟨.refl, fun upper chain => ?_, Or.inl rfl⟩
    obtain ⟨next, below, -⟩ := Relation.TransGen.head'_iff.mp chain
    cases top.symm.trans below
  induction fuel generalizing id target d with
  | zero =>
    cases distance with
    | root top => exact topmost top
    | child below above => omega
  | succ fuel ih =>
    rcases ancestorsOf_succ planted names fuel with ⟨top, empty⟩ | ⟨parent, parentId, below, named, more⟩
    · rw [empty]
      exact topmost top
    · rw [more, reverse_cons, List.find?_append]
      have upper : ∃ e, Forest.Distance browser.parent parent e ∧ e ≤ fuel := by
        cases distance with
        | root top => cases top.symm.trans below
        | child below' above =>
          cases Option.some.inj (below.symm.trans below')
          exact ⟨_, above, by omega⟩
      obtain ⟨e, above, bound⟩ := upper
      have rest := ih named above bound fun top => by
        refine ⟨.refl, fun upper chain => ?_, Or.inl rfl⟩
        obtain ⟨next, below, -⟩ := Relation.TransGen.head'_iff.mp chain
        cases top.symm.trans below
      cases found : (browser.ancestorsOf fuel parentId).reverse.find? (· ∉ browser.expanded) with
      | some exposed =>
        rw [found] at rest
        have hidden := List.find?_some found
        exact ⟨.head below rest.chain, rest.above, Or.inr (by simpa using hidden)⟩
      | none =>
        rw [found] at rest
        by_cases expanded : parent ∈ browser.expanded
        · have all : ∀ upper, Relation.TransGen (Forest.Below browser.parent) target upper → upper ∈ browser.expanded := by
            intro upper chain
            obtain ⟨next, first, later⟩ := Relation.TransGen.head'_iff.mp chain
            cases Option.some.inj (below.symm.trans first)
            rcases Relation.reflTransGen_iff_eq_or_transGen.mp later with rfl | chain
            · exact expanded
            · exact rest.above upper chain
          simpa [expanded] using (⟨.refl, all, Or.inl rfl⟩ : browser.Exposes target target)
        · have exposed : browser.Exposes target parent := ⟨.single below, rest.above, Or.inr expanded⟩
          simpa [expanded] using exposed

theorem Exposes.unique (planted : browser.Planted) {id : Nat} {target one other : Target}
    (names : browser.Names id target) (first : browser.Exposes target one)
    (second : browser.Exposes target other) : one = other := by
  obtain ⟨entry, found, rfl⟩ := targetOf_eq.mp names
  have distance := (planted.depths id entry found).alike (alike planted.toAllocated planted.declared) names
  have apart : ∀ lower upper, browser.Exposes entry.node.target lower → browser.Exposes entry.node.target upper →
      Relation.ReflTransGen (Forest.Below browser.parent) lower upper → lower = upper := by
    intro lower upper low high chain
    rcases Relation.reflTransGen_iff_eq_or_transGen.mp chain with same | chain
    · exact same.symm
    · have expanded := low.above upper chain
      rcases high.collapsed with rfl | collapsed
      · exact absurd (Relation.TransGen.trans_right low.chain chain) distance.not_cycle
      · exact absurd expanded collapsed
  have functional : Relator.RightUnique (Forest.Below browser.parent) := by
    intro a b c left right
    exact Option.some.inj (left.symm.trans right)
  rcases Relation.ReflTransGen.total_of_right_unique functional first.chain second.chain with
    chain | chain
  · exact apart one other first second chain
  · exact (apart other one second first chain).symm

theorem targets_closed (planted : browser.Planted) : Forest.Closed browser.parent browser.targets := by
  intro lower member upper below
  obtain ⟨node, inside, rfl⟩ := mem_map.mp member
  obtain ⟨lowerId, -, -, -, named⟩ := mem_nodes_names inside
  obtain ⟨upperId, -, upperNamed⟩ := parent_names planted named below
  obtain ⟨entry, found, rfl⟩ := targetOf_eq.mp upperNamed
  exact mem_map_of_mem (planted.entry_mem_nodes found)

theorem depth_distance (planted : browser.Planted) {target : Target}
    (member : target ∈ browser.targets) : ∃ entry, browser.entryOf target = some entry ∧
      Forest.Distance browser.parent target entry.depth := by
  obtain ⟨node, inside, rfl⟩ := mem_map.mp member
  obtain ⟨id, entry, found, rfl, named⟩ := mem_nodes_names inside
  refine ⟨entry, (entryOf_eq planted).mpr ⟨id, found, rfl⟩, ?_⟩
  exact (planted.depths id entry found).alike (alike planted.toAllocated planted.declared) named

theorem target_distance (planted : browser.Planted) {target : Target}
    (member : target ∈ browser.targets) : ∃ d, Forest.Distance browser.parent target d := by
  obtain ⟨entry, -, distance⟩ := depth_distance planted member
  exact ⟨entry.depth, distance⟩

theorem exposed_mem_flow (kept : browser.Kept fuzzyMatch) {id : Nat} {target exposed : Target}
    (names : browser.Names id target) (exposes : browser.Exposes target exposed) :
    exposed ∈ browser.currentFlow.targets ↔ browser.Shows fuzzyMatch exposed := by
  have planted := kept.planted
  have closed := targets_closed planted
  have member : exposed ∈ browser.targets := by
    obtain ⟨entry, found, rfl⟩ := targetOf_eq.mp names
    exact closed.above (mem_map_of_mem (planted.entry_mem_nodes found)) exposes.chain
  obtain ⟨d, distance⟩ := target_distance planted member
  rw [currentFlow_targets, (lists_visibleTargets planted kept.matched).visible]
  refine ⟨fun visible => visible.shown, fun shows => ?_⟩
  refine Forest.visible_of_above closed distance member (fun upper chain => ?_)
    fun upper chain => Or.inl (exposes.above upper chain)
  rcases Relation.reflTransGen_iff_eq_or_transGen.mp chain with rfl | chain
  · exact shows
  · intro filtering
    refine Or.inr ?_
    rcases shows filtering with matched | ⟨below, lower, matched⟩
    · exact ⟨_, chain, matched⟩
    · exact ⟨below, lower.trans chain, matched⟩

/-! ### Each operation -/

theorem anchorSelectionTo_content (target : Target) (flowOffset : Nat) :
    (browser.anchorSelectionTo target flowOffset).1.content = browser.content := by
  unfold anchorSelectionTo
  split
  · rfl
  · dsimp only
    split <;> rfl

theorem anchorSelectionTo_absent {target : Target} (absent : browser.targetToNode target = none)
    (flowOffset : Nat) : (browser.anchorSelectionTo target flowOffset).1 = browser := by
  unfold anchorSelectionTo
  rw [absent]

theorem anchorSelectionTo_selected {target : Target} {id : Nat}
    (looked : browser.targetToNode target = some id) (flowOffset : Nat) :
    (browser.anchorSelectionTo target flowOffset).1.selected = some (browser.anchoredTarget target id) := by
  unfold anchorSelectionTo
  rw [looked]
  dsimp only
  split <;> rfl

theorem anchorSelectionTo_selected_iff (kept : browser.Kept fuzzyMatch) {target : Target} {id : Nat}
    (looked : browser.targetToNode target = some id) (flowOffset : Nat) :
    (browser.anchorSelectionTo target flowOffset).1.Selected ↔
      ∀ exposed, browser.Exposes target exposed → browser.Shows fuzzyMatch exposed := by
  have names : browser.Names id target := (kept.planted.looked _ _).mp looked
  have member := kept.planted.mem_of_target names
  obtain ⟨entry, found, named⟩ := targetOf_eq.mp names
  have depth := kept.planted.depths id entry found
  have distance := depth.alike (alike kept.planted.toAllocated kept.planted.declared) names
  have anchored : browser.Exposes target (browser.anchoredTarget target id) :=
    exposes_ancestor kept.planted names distance (Nat.le_of_lt (depth.lt_length kept.planted.closed member))
  unfold Selected
  rw [anchorSelectionTo_selected looked, currentFlow_of_content (anchorSelectionTo_content _ _)]
  dsimp only
  rw [exposed_mem_flow kept names anchored]
  constructor
  · intro shows exposed exposes
    rw [exposes.unique kept.planted names anchored]
    exact shows
  · exact fun shows => shows _ anchored

omit [DecidableEq Target] in
theorem Kept.expand (kept : browser.Kept fuzzyMatch) {expanded : Finset Target}
    (expandable : ∀ target ∈ expanded, Expandable browser.nodes target) :
    ({ browser with expanded := expanded } : TreeBrowser Target).Kept fuzzyMatch :=
  ⟨kept.planted, kept.matched, expandable, kept.marks⟩

theorem Selected.expand (kept : browser.Kept fuzzyMatch) (selected : browser.Selected)
    {expanded : Finset Target} (more : browser.expanded ⊆ expanded) :
    ({ browser with expanded := expanded } : TreeBrowser Target).Selected := by
  have before := (lists_visibleTargets kept.planted kept.matched).visible
  have after := (@lists_visibleTargets _ _ fuzzyMatch
    ({ browser with expanded := expanded } : TreeBrowser Target) kept.planted kept.matched).visible
  rw [← currentFlow_targets] at before after
  unfold Selected at selected ⊢
  dsimp only
  split
  · rename_i none
    rw [none] at selected
    have selected : browser.currentFlow.targets = [] := selected
    rw [eq_nil_iff_forall_not_mem]
    intro target member
    obtain ⟨root, inside, top, shown⟩ := ((after target).mp member).top
    have there := (before root).mpr (.root inside top shown)
    rw [selected] at there
    cases there
  · rename_i target some
    rw [some] at selected
    have visible := (before target).mp selected
    refine (after target).mpr (visible.mono (fun _ shown => shown) fun upper opened => ?_)
    exact opened.imp (fun old => more old) fun filtered => filtered

theorem reveal_eq (target : Target) : ∃ above : Finset Target,
    browser.reveal target = { browser with expanded := above ∪ browser.expanded } ∧
      ∀ upper ∈ above, ∃ id fuel, browser.targetToNode target = some id ∧ upper ∈ browser.ancestorsOf fuel id := by
  unfold reveal
  split
  · exact ⟨∅, by rw [Finset.empty_union], fun upper none => absurd none (Finset.notMem_empty upper)⟩
  · rename_i id looked
    exact ⟨_, rfl, fun upper member => ⟨id, _, looked, mem_toFinset.mp member⟩⟩

theorem above_expandable (planted : browser.Planted) {target upper : Target} {id : Nat} (names : browser.Names id target)
    (chain : Relation.TransGen (Forest.Below browser.parent) target upper) :
    Expandable browser.nodes upper := by
  have alike := alike planted.toAllocated planted.declared
  obtain ⟨upperId, -, named⟩ := alike.swap.chain chain names
  obtain ⟨entry, found, rfl⟩ := targetOf_eq.mp named
  obtain ⟨child, -, below⟩ := Relation.TransGen.tail'_iff.mp chain
  obtain ⟨node, member, -, parented⟩ := parentOf_declares below
  exact ⟨entry.node, planted.entry_mem_nodes found, rfl, Or.inr ⟨node, member, parented⟩⟩

theorem Kept.reveal (kept : browser.Kept fuzzyMatch) (target : Target) : (browser.reveal target).Kept fuzzyMatch := by
  obtain ⟨above, same, chained⟩ := @reveal_eq _ _ browser target
  rw [same]
  refine kept.expand fun upper member => ?_
  rcases Finset.mem_union.mp member with new | old
  · obtain ⟨id, fuel, looked, listed⟩ := chained upper new
    have names : browser.Names id target := (kept.planted.looked _ _).mp looked
    exact above_expandable kept.planted names (ancestorsOf_above kept.planted names upper listed)
  · exact kept.expanded upper old

theorem reveal_selected (kept : browser.Kept fuzzyMatch) (selected : browser.Selected)
    (target : Target) : (browser.reveal target).Selected := by
  obtain ⟨above, same, -⟩ := @reveal_eq _ _ browser target
  rw [same]
  exact selected.expand kept Finset.subset_union_right

omit [DecidableEq Target] in
theorem refreshFilterMatches_matched (planted : browser.Planted) :
    (browser.refreshFilterMatches fuzzyMatch).Matched fuzzyMatch := by
  intro filtering id
  have filtering : browser.filtering = true := filtering
  unfold refreshFilterMatches filterMatchesForQuery
  dsimp only
  rw [if_pos filtering, mem_toFinset, mem_filterMap]
  constructor
  · rintro ⟨target, member, looked⟩
    obtain ⟨entry, inside, rfl⟩ := mem_map.mp member
    obtain ⟨-, score⟩ := mem_filter.mp inside
    obtain ⟨entry', found, named⟩ := targetOf_eq.mp ((planted.looked _ _).mp looked)
    obtain ⟨other, -, there⟩ := mem_filterMap.mp (mem_filter.mp inside).1
    have names : browser.targetOf other = some entry.node.target := targetOf_eq.mpr ⟨entry, there, rfl⟩
    have same := planted.target_injective names ((planted.looked _ _).mp looked)
    rw [same] at there
    exact ⟨entry, there, score⟩
  · rintro ⟨entry, found, score⟩
    have names : browser.targetOf id = some entry.node.target := targetOf_eq.mpr ⟨entry, found, rfl⟩
    refine ⟨entry.node.target, mem_map.mpr ⟨entry, mem_filter.mpr ⟨?_, score⟩, rfl⟩, (planted.looked _ _).mpr names⟩
    exact mem_filterMap.mpr ⟨id, planted.mem_of_target names, found⟩

theorem Kept.filterEdit (kept : browser.Kept fuzzyMatch) (query : String) :
    (browser.filterEdit fuzzyMatch query).Kept fuzzyMatch := by
  have opened : browser.openFilter.Planted ∧
      (∀ target ∈ browser.openFilter.expanded, Expandable browser.openFilter.nodes target) ∧
      browser.openFilter.marks.Sound (Direct browser.openFilter.nodes) := by
    unfold openFilter
    split <;> exact ⟨kept.planted, kept.expanded, kept.marks⟩
  have edited : (({ browser.openFilter with filterQuery := query } :
      TreeBrowser Target).refreshFilterMatches fuzzyMatch).Kept fuzzyMatch :=
    ⟨opened.1, refreshFilterMatches_matched opened.1, opened.2.1, opened.2.2⟩
  exact edited.of_content reconcileSelection_content

theorem Kept.clearFilter (kept : browser.Kept fuzzyMatch) : browser.clearFilter.Kept fuzzyMatch := by
  have closed : browser.closeFilter.Kept fuzzyMatch :=
    ⟨kept.planted, fun filtering => (by cases filtering), kept.expanded, kept.marks⟩
  exact closed.of_content reconcileSelection_content

theorem Kept.resetPresentation (kept : browser.Kept fuzzyMatch) : browser.resetPresentation.Kept fuzzyMatch := by
  have cleared : browser.clearPresentation.Kept fuzzyMatch := ⟨kept.planted, fun filtering => (by cases filtering),
      fun target none => absurd none (Finset.notMem_empty target),
      ⟨nodup_nil, fun _ none => nomatch none⟩⟩
  exact cleared.of_content reconcileSelection_content

omit [DecidableEq Target] in
theorem Kept.clearMarks (kept : browser.Kept fuzzyMatch) : ({ browser with marks := {} } : TreeBrowser Target).Kept fuzzyMatch :=
  ⟨kept.planted, kept.matched, kept.expanded, ⟨nodup_nil, fun _ none => nomatch none⟩⟩

/-! ### Reconciliation -/

theorem nodes_of_unchanged {nodes : List (TreeNode Target)} {rootStructures : List (Target × List StructuralRow)}
    (unchanged : browser.contentChanged nodes rootStructures = false) : browser.nodes = nodes := by
  unfold contentChanged at unchanged
  simp only [Bool.or_eq_false_iff, decide_eq_false_iff_not, not_not, any_eq_false, Option.all_eq_true, not_forall] at unchanged
  obtain ⟨⟨length, -⟩, same⟩ := unchanged
  have along : ∀ (ids : List Nat) (nodes : List (TreeNode Target)), ids.length = nodes.length →
      (∀ pair ∈ ids.zip nodes, ∃ entry, browser.arena pair.1 = some entry ∧ entry.node = pair.2) →
      ids.filterMap (fun id => (browser.arena id).map (·.node)) = nodes := by
    intro ids
    induction ids with
    | nil =>
      intro nodes length _
      exact (length_eq_zero_iff.mp length.symm).symm
    | cons id ids ih =>
      intro nodes length pairs
      cases nodes with
      | nil => cases length
      | cons node nodes =>
        obtain ⟨entry, found, named⟩ := pairs (id, node) mem_cons_self
        have rest := ih nodes (Nat.succ.inj length) fun pair member => pairs pair (mem_cons_of_mem _ member)
        have first : (browser.arena id).map (·.node) = some node := by
          rw [found, Option.map_some, named]
        simp only [filterMap_cons, first, rest]
  refine along browser.orderedNodes nodes length fun pair member => ?_
  obtain ⟨entry, found, equal⟩ := same pair member
  exact ⟨entry, found, by simpa using equal⟩

structure Carries (nodes : List (TreeNode Target)) (before after : TreeBrowser Target) : Prop where
  projected : after.nodes = nodes
  expanded : ∀ target, target ∈ after.expanded ↔ target ∈ before.expanded ∧ Expandable nodes target
  marks : ∀ target, target ∈ after.marks.marked ↔
    target ∈ before.marks.marked ∧ Direct nodes target
  ordered : after.marks.marked.Sublist before.marks.marked

omit [DecidableEq Target] in
theorem Carries.refl (kept : browser.Kept fuzzyMatch) : Carries browser.nodes browser browser where
  projected := rfl
  expanded target := ⟨fun member => ⟨member, kept.expanded target member⟩, fun both => both.1⟩
  marks target := ⟨fun member => ⟨member, kept.marks.2 target member⟩, fun both => both.1⟩
  ordered := List.Sublist.refl _

theorem commitReconciliation_spec (kept : browser.Kept fuzzyMatch) {nodes : List (TreeNode Target)}
    (isForest : IsForest nodes) (rootStructures : List (Target × List StructuralRow)) :
    (browser.commitReconciliation fuzzyMatch rootStructures (browser.rebuildForest nodes).1
        (browser.rebuildForest nodes).2).Kept fuzzyMatch ∧
      Carries nodes browser (browser.commitReconciliation fuzzyMatch rootStructures
        (browser.rebuildForest nodes).1 (browser.rebuildForest nodes).2) := by
  obtain ⟨planted, listed⟩ := rebuild_planted isForest browser.nextNodeId
  have replaced : (browser.replaceForest rootStructures (browser.rebuildForest nodes).1
      (browser.rebuildForest nodes).2).Planted := planted
  have expandable := fun target => @isExpandable_iff _ (browser.replaceForest rootStructures
    (browser.rebuildForest nodes).1 (browser.rebuildForest nodes).2) replaced target
  have direct := fun target => @isDirect_iff _ (browser.replaceForest rootStructures
    (browser.rebuildForest nodes).1 (browser.rebuildForest nodes).2) replaced target
  have renamed : (browser.replaceForest rootStructures (browser.rebuildForest nodes).1
      (browser.rebuildForest nodes).2).nodes = nodes := listed
  rw [renamed] at expandable direct
  have carries : Carries nodes browser (browser.replaceForest rootStructures
      (browser.rebuildForest nodes).1 (browser.rebuildForest nodes).2) := by
    refine ⟨renamed, fun target => ?_, fun target => ?_, filter_sublist⟩
    · rw [← expandable target]
      exact Finset.mem_filter
    · rw [← direct target]
      exact mem_filter
  have refreshed : ((browser.replaceForest rootStructures (browser.rebuildForest nodes).1
      (browser.rebuildForest nodes).2).clampOffset.refreshFilterMatches fuzzyMatch).Kept fuzzyMatch := by
    refine ⟨replaced, refreshFilterMatches_matched replaced, fun target member => ?_, ?_⟩
    · have both := (carries.expanded target).mp member
      exact renamed.symm ▸ both.2
    · refine ⟨(kept.marks.retain _).1, fun target member => ?_⟩
      have both := (carries.marks target).mp member
      exact renamed.symm ▸ both.2
  have content : (browser.commitReconciliation fuzzyMatch rootStructures
      (browser.rebuildForest nodes).1 (browser.rebuildForest nodes).2).content =
      ((browser.replaceForest rootStructures (browser.rebuildForest nodes).1
        (browser.rebuildForest nodes).2).clampOffset.refreshFilterMatches fuzzyMatch).content :=
    reconcileSelection_content
  refine ⟨refreshed.of_content content, ?_⟩
  have forests := congrArg TreeBrowser.toRebuiltForest content
  have expanded := congrArg TreeBrowser.expanded content
  have marks := congrArg TreeBrowser.marks content
  refine ⟨(congrArg RebuiltForest.nodes forests).trans renamed, fun target => ?_, fun target => ?_, ?_⟩
  · have same := congrArg (target ∈ ·) expanded
    exact (iff_of_eq same).trans (carries.expanded target)
  · have same := congrArg (target ∈ ·.marked) marks
    exact (iff_of_eq same).trans (carries.marks target)
  · have same := congrArg MarkSelectionState.marked marks
    exact (List.Sublist.refl _).trans (same ▸ carries.ordered)

theorem reconcile_cases (kept : browser.Kept fuzzyMatch) (entries : List (TreeEntry Target)) :
    (¬ IsForest (projectNodes entries) ∧ ∃ error, browser.reconcile fuzzyMatch entries = (browser, .error error)) ∨
      (IsForest (projectNodes entries) ∧ (browser.reconcile fuzzyMatch entries).2 = .ok () ∧
        (browser.reconcile fuzzyMatch entries).1.Kept fuzzyMatch ∧
        (browser.Selected → (browser.reconcile fuzzyMatch entries).1.Selected) ∧
        Carries (projectNodes entries) browser (browser.reconcile fuzzyMatch entries).1) := by
  unfold reconcile
  dsimp only
  cases valid : validateForest (projectNodes entries) with
  | error error =>
    refine Or.inl ⟨fun isForest => ?_, error, rfl⟩
    rw [validateForest_ok.mpr isForest] at valid
    cases valid
  | ok accepted =>
    have isForest := validateForest_ok.mp valid
    refine Or.inr ⟨isForest, ?_⟩
    dsimp only
    split
    · obtain ⟨after, carries⟩ := commitReconciliation_spec kept isForest (projectRootStructures entries [])
      exact ⟨rfl, after, fun _ => reconcileSelection_selected, carries⟩
    · rename_i unchanged
      have nodes := nodes_of_unchanged (Bool.not_eq_true _ ▸ unchanged)
      exact ⟨rfl, kept, fun selected => selected, nodes ▸ Carries.refl kept⟩

/-! ### Any step -/

theorem Kept.applyPointerToggleMark (kept : browser.Kept fuzzyMatch) (point : Position) :
    (browser.applyPointerToggleMark point).1.Kept fuzzyMatch := by
  unfold TreeBrowser.applyPointerToggleMark
  split
  · exact kept
  · rename_i target resolved
    have chosen : ({ browser with selected := some target } : TreeBrowser Target).Kept fuzzyMatch := kept.of_content rfl
    exact (chosen.toggleMarkTarget target).of_content reconcileSelection_content

theorem applyPointerToggleMark_selected (selected : browser.Selected) (point : Position) :
    (browser.applyPointerToggleMark point).1.Selected := by
  unfold TreeBrowser.applyPointerToggleMark
  split
  · exact selected
  · exact reconcileSelection_selected

theorem selectParent_content (flow : RowFlow Target) : (browser.selectParent flow).content = browser.content := by
  unfold selectParent
  split <;> rfl

theorem Kept.operate (kept : browser.Kept fuzzyMatch) (flow : RowFlow Target)
    (operation : TreeOperation Target) : (browser.operate fuzzyMatch flow operation).1.Kept fuzzyMatch := by
  cases operation with
  | move delta =>
    have picked := picks_content (@Cursored.moveBy_picks _ _ _ flow browser _ delta)
    exact kept.of_content (reconcileSelection_content.trans picked)
  | page direction =>
    unfold TreeBrowser.operate
    dsimp only
    split
    · exact kept
    · exact kept.of_content (page_content flow _ direction)
  | scroll delta => exact kept.of_content rfl
  | first =>
    have picked := picks_content (@Cursored.first_picks _ _ _ flow browser)
    exact kept.of_content (reconcileSelection_content.trans picked)
  | last =>
    have picked := picks_content (@Cursored.last_picks _ _ _ flow browser)
    exact kept.of_content (reconcileSelection_content.trans picked)
  | parent => exact kept.of_content (reconcileSelection_content.trans (selectParent_content flow))
  | right => exact kept.applyRight
  | toggleExpansion =>
    unfold TreeBrowser.operate
    dsimp only
    split
    · exact kept
    · exact kept.applyToggleExpansion _
  | toggleExpansionTarget target => exact kept.applyToggleExpansion target
  | anchorSelection target flowOffset =>
    exact kept.of_content (anchorSelectionTo_content target flowOffset)
  | select target =>
    have picked := picks_content (@Cursored.selectTarget_picks _ _ _ flow browser _ target)
    exact kept.of_content (reconcileSelection_content.trans picked)
  | pointerToggleMark point => exact kept.applyPointerToggleMark point
  | activate => exact kept
  | context => exact kept
  | editFilter query => exact kept.filterEdit query
  | clearFilter => exact kept.clearFilter
  | clearMarks => exact kept.clearMarks

def TreeOperation.IsAnchor : TreeOperation Target → Prop
  | .anchorSelection _ _ => True
  | _ => False

theorem operate_selected (selected : browser.Selected) {operation : TreeOperation Target}
    (other : ¬ TreeOperation.IsAnchor operation) :
    (browser.operate fuzzyMatch browser.currentFlow operation).1.Selected := by
  cases operation with
  | move delta => exact reconcileSelection_selected
  | page direction =>
    unfold TreeBrowser.operate
    dsimp only
    split
    · exact selected
    · exact page_selected _ direction
  | scroll delta => exact selected.of_content rfl rfl
  | first => exact reconcileSelection_selected
  | last => exact reconcileSelection_selected
  | parent => exact reconcileSelection_selected
  | right => exact applyRight_selected selected
  | toggleExpansion =>
    unfold TreeBrowser.operate
    dsimp only
    split
    · exact selected
    · exact applyToggleExpansion_selected selected _
  | toggleExpansionTarget target => exact applyToggleExpansion_selected selected target
  | anchorSelection target flowOffset => exact absurd True.intro other
  | select target => exact reconcileSelection_selected
  | pointerToggleMark point => exact applyPointerToggleMark_selected selected point
  | activate => exact selected
  | context => exact selected
  | editFilter query => exact reconcileSelection_selected.of_content rfl rfl
  | clearFilter => exact reconcileSelection_selected.of_content rfl rfl
  | clearMarks =>
    have flow : (browser.operate fuzzyMatch browser.currentFlow .clearMarks).1.currentFlow =
        browser.currentFlow := currentFlow_of_layout rfl
    unfold Selected at selected ⊢
    rw [flow]
    exact selected

omit [DecidableEq Target] in
theorem reAnchorFollowing_content (operation : TreeOperation Target) :
    (browser.reAnchorFollowing operation).content = browser.content := by
  unfold reAnchorFollowing
  split <;> rfl

omit [DecidableEq Target] in
theorem reAnchorFollowing_selected (operation : TreeOperation Target) :
    (browser.reAnchorFollowing operation).selected = browser.selected := by
  unfold reAnchorFollowing
  split <;> rfl

theorem apply_cases (operation : TreeOperation Target) : (browser.apply fuzzyMatch operation).1.content =
        ((browser.reAnchorFollowing operation).operate fuzzyMatch browser.currentFlow operation).1.content ∧
      (browser.apply fuzzyMatch operation).1.selected =
        ((browser.reAnchorFollowing operation).operate fuzzyMatch browser.currentFlow operation).1.selected := by
  unfold apply applyOperation
  split
  · exact ⟨rfl, rfl⟩
  · dsimp only
    split <;> exact ⟨rfl, rfl⟩

theorem Kept.apply (kept : browser.Kept fuzzyMatch) (operation : TreeOperation Target) :
    (browser.apply fuzzyMatch operation).1.Kept fuzzyMatch := by
  have anchored : (browser.reAnchorFollowing operation).Kept fuzzyMatch := kept.of_content (reAnchorFollowing_content operation)
  exact (anchored.operate browser.currentFlow operation).of_content (apply_cases operation).1

theorem selected_iff_of_content (same : after.content = before.content)
    (still : after.selected = before.selected) : after.Selected ↔ before.Selected :=
  ⟨fun selected => selected.of_content same.symm still.symm, fun selected => selected.of_content same still⟩

/-- At a restore of a held target, the filter shows the node it exposes. -/
def AnchorShown (fuzzyMatch : String → String → Option Int) (browser : TreeBrowser Target) :
    TreeInput Target → Prop
  | .apply (.anchorSelection target _) => target ∈ browser.targets →
      ∀ exposed, browser.Exposes target exposed → browser.Shows fuzzyMatch exposed
  | _ => True

theorem apply_selected_iff (kept : browser.Kept fuzzyMatch) (selected : browser.Selected)
    (operation : TreeOperation Target) : (browser.apply fuzzyMatch operation).1.Selected ↔
      browser.AnchorShown fuzzyMatch (.apply operation) := by
  have content := @reAnchorFollowing_content _ browser operation
  have still := @reAnchorFollowing_selected _ browser operation
  have flow := currentFlow_of_content content
  have anchored : (browser.reAnchorFollowing operation).Selected := selected.of_content content still
  rw [selected_iff_of_content (apply_cases operation).1 (apply_cases operation).2, ← flow]
  by_cases anchor : TreeOperation.IsAnchor operation
  · cases operation with
    | anchorSelection target flowOffset =>
      have following : (browser.reAnchorFollowing (.anchorSelection target flowOffset)).Kept
          fuzzyMatch := kept.of_content content
      have held := @Allocated.mem_targets _ browser.toRebuiltForest kept.planted.toAllocated target
      have lookup : (browser.reAnchorFollowing (.anchorSelection target flowOffset)).targetToNode =
          browser.targetToNode := rfl
      show (anchorSelectionTo _ target flowOffset).1.Selected ↔ _
      cases looked : browser.targetToNode target with
      | none =>
        have absent : target ∉ browser.targets := by
          intro member
          have some := held.mp member
          rw [looked] at some
          cases some
        rw [← lookup] at looked
        rw [anchorSelectionTo_absent looked]
        exact iff_of_true anchored fun member => absurd member absent
      | some id =>
        have present : target ∈ browser.targets := held.mpr (by rw [looked]; rfl)
        rw [← lookup] at looked
        rw [anchorSelectionTo_selected_iff following looked]
        simp only [exposes_of_content content, shows_of_content content]
        exact ⟨fun shown _ => shown, fun shown => shown present⟩
    | _ => exact absurd anchor fun none => none
  · refine iff_of_true (operate_selected anchored anchor) ?_
    cases operation with
    | anchorSelection target flowOffset => exact absurd True.intro anchor
    | _ => exact True.intro

theorem view_content (area : Rect) : (browser.view area).content = browser.content := reconcileSelectionWithHeight_content _

theorem setGeometry_content (claimRect contentRect : Rect) :
    (browser.setGeometry claimRect contentRect).content = browser.content := by
  unfold setGeometry
  dsimp only
  split
  · rfl
  · exact reconcileSelection_content

theorem setGeometry_selected (selected : browser.Selected) (claimRect contentRect : Rect) :
    (browser.setGeometry claimRect contentRect).Selected := by
  unfold setGeometry
  dsimp only
  split
  · exact selected.of_content rfl rfl
  · exact reconcileSelection_selected.of_content rfl rfl

theorem Kept.step (kept : browser.Kept fuzzyMatch) (input : TreeInput Target) :
    (browser.step fuzzyMatch input).Kept fuzzyMatch := by
  cases input with
  | reconcile entries =>
    rcases reconcile_cases kept entries with ⟨-, error, rejected⟩ | ⟨-, -, after, -⟩
    · show (browser.reconcile fuzzyMatch entries).1.Kept fuzzyMatch
      rw [rejected]
      exact kept
    · exact after
  | apply operation => exact kept.apply operation
  | reveal target => exact kept.reveal target
  | setGeometry claimRect contentRect => exact kept.of_content (setGeometry_content _ _)
  | resetPresentation => exact kept.resetPresentation
  | clampViewportTo viewportHeight => exact kept.of_content rfl
  | setPaintFocus focused => exact kept.of_content rfl
  | invalidatePaint => exact kept.of_content rfl
  | view area => exact kept.of_content (view_content area)

theorem step_selected_iff (kept : browser.Kept fuzzyMatch) (selected : browser.Selected)
    (input : TreeInput Target) : (browser.step fuzzyMatch input).Selected ↔ browser.AnchorShown fuzzyMatch input := by
  cases input with
  | apply operation => exact apply_selected_iff kept selected operation
  | reconcile entries =>
    refine iff_of_true ?_ True.intro
    rcases reconcile_cases kept entries with ⟨-, error, rejected⟩ | ⟨-, -, -, after, -⟩
    · show (browser.reconcile fuzzyMatch entries).1.Selected
      rw [rejected]
      exact selected
    · exact after selected
  | reveal target => exact iff_of_true (reveal_selected kept selected target) True.intro
  | setGeometry claimRect contentRect => exact iff_of_true (setGeometry_selected selected _ _) True.intro
  | resetPresentation =>
    exact iff_of_true (reconcileSelection_selected.of_content rfl rfl) True.intro
  | clampViewportTo viewportHeight => exact iff_of_true (selected.of_content rfl rfl) True.intro
  | setPaintFocus focused => exact iff_of_true (selected.of_content rfl rfl) True.intro
  | invalidatePaint => exact iff_of_true (selected.of_content rfl rfl) True.intro
  | view area =>
    have after := @reconcileSelectionWithHeight_selected _ _ browser
      (some (browser.configuredGeometry.getD (area, area)).2.height)
    exact iff_of_true (after.of_content rfl rfl) True.intro

omit [DecidableEq Target] in
theorem kept_new : ({} : TreeBrowser Target).Kept fuzzyMatch := ⟨planted_empty, fun filtering => (by cases filtering),
    fun target none => absurd none (Finset.notMem_empty target),
    ⟨nodup_nil, fun _ none => nomatch none⟩⟩

theorem selected_new : ({} : TreeBrowser Target).Selected := rfl

/-! ### Any run -/

/-- The flow, the selection, the expansion and the marks of a browser agree with what it projects. -/
structure Agrees (fuzzyMatch : String → String → Option Int) (browser : TreeBrowser Target) : Prop where
  flow : browser.Lists fuzzyMatch browser.currentFlow.targets
  selected : browser.Selected
  expanded : ∀ target ∈ browser.expanded, Expandable browser.nodes target
  marks : browser.marks.marked.Nodup ∧ ∀ target ∈ browser.marks.marked, Direct browser.nodes target

theorem Kept.agrees_iff (kept : browser.Kept fuzzyMatch) : browser.Agrees fuzzyMatch ↔ browser.Selected := by
  refine ⟨fun agrees => agrees.selected, fun selected => ⟨?_, selected, kept.expanded, kept.marks⟩⟩
  rw [currentFlow_targets]
  exact lists_visibleTargets kept.planted kept.matched

/-- In every run, each step leaves the browser in agreement exactly when each restore exposes a node
    that the filter shows. -/
theorem tree_agrees_iff (fuzzyMatch : String → String → Option Int) (inputs : List (TreeInput Target)) :
    (machine fuzzyMatch).Along (fun browser input => (browser.step fuzzyMatch input).Agrees fuzzyMatch)
        ({} : TreeBrowser Target) inputs ↔
      (machine fuzzyMatch).Along (AnchorShown fuzzyMatch) {} inputs := by
  refine @Machine.along_iff _ _ (machine fuzzyMatch)
    (fun browser => browser.Kept fuzzyMatch ∧ browser.Selected) _ _
    (fun browser input inv shown => ?_) (fun browser input inv => ?_) _ inputs
    ⟨kept_new, selected_new⟩
  · exact ⟨inv.1.step input, (step_selected_iff inv.1 inv.2 input).mpr shown⟩
  · rw [(inv.1.step input).agrees_iff]
    exact step_selected_iff inv.1 inv.2 input

instance (browser : TreeBrowser Target) : Decidable browser.Selected := by
  unfold Selected
  split <;> infer_instance

def sameWord (word pattern : String) : Option Int := if word = pattern then some 1 else none

def films : List (TreeEntry Nat) :=
  [.node { target := 0, searchText := "alien" }, .node { target := 1, searchText := "brazil" }]

/-- A restore to a film that the filter does not show. -/
def restore : List (TreeInput Nat) :=
  [.reconcile films, .apply (.editFilter "brazil"), .apply (.anchorSelection 0 0)]

theorem restore_leaves_flow : ¬ (machine sameWord).Along
    (fun browser input => (browser.step sameWord input).Agrees sameWord) {} restore := by
  intro agrees
  have selected := agrees.2.2.1.selected
  revert selected
  decide

/-! ### Accepting a projection -/

/-- Everything expanded, and no filter. -/
def unfolded (browser : TreeBrowser Target) : TreeBrowser Target :=
  { browser with expanded := browser.targets.toFinset, filterActive := false }

structure Reconciles (nodes : List (TreeNode Target)) (before after : TreeBrowser Target) : Prop where
  once : after.unfolded.currentFlow.targets.Nodup
  every : ∀ target, target ∈ after.unfolded.currentFlow.targets ↔ target ∈ nodes.map (·.target)
  parents : ∀ target parent, Declares nodes target parent →
    after.unfolded.currentFlow.targets.idxOf parent < after.unfolded.currentFlow.targets.idxOf target
  siblings : nodes.Pairwise fun first second => first.parent = second.parent →
    after.unfolded.currentFlow.targets.idxOf first.target <
      after.unfolded.currentFlow.targets.idxOf second.target
  depths : ∀ target ∈ nodes.map (·.target), ∃ entry, after.entryOf target = some entry ∧
    Forest.Distance (parentOf nodes) target entry.depth
  carries : Carries nodes before after

theorem unfolded_lists (planted : browser.Planted) : browser.unfolded.Lists fuzzyMatch browser.unfolded.currentFlow.targets := by
  rw [currentFlow_targets]
  exact lists_visibleTargets planted fun filtering => (by cases filtering)

theorem mem_unfolded (planted : browser.Planted) {target : Target} :
    target ∈ browser.unfolded.currentFlow.targets ↔ target ∈ browser.targets := by
  have lists := @unfolded_lists _ _ (fun _ _ => none) _ planted
  rw [lists.visible]
  refine ⟨fun visible => visible.member, fun member => ?_⟩
  obtain ⟨d, distance⟩ := target_distance planted member
  refine Forest.visible_of_above (targets_closed planted) distance member
    (fun upper _ filtering => (by cases filtering)) fun upper chain => Or.inl ?_
  exact mem_toFinset.mpr ((targets_closed planted).above member chain.to_reflTransGen)

theorem reconciles_of_carries (kept : after.Kept fuzzyMatch) {nodes : List (TreeNode Target)}
    (isForest : IsForest nodes) (carries : Carries nodes before after) :
    Reconciles nodes before after := by
  have planted := kept.planted
  have lists := @unfolded_lists _ _ fuzzyMatch _ planted
  have targets : after.targets = nodes.map (·.target) := congrArg (List.map _) carries.projected
  have parent : after.parent = parentOf nodes := congrArg parentOf carries.projected
  have every : ∀ target, target ∈ after.unfolded.currentFlow.targets ↔ target ∈ nodes.map (·.target) := by
    intro target
    rw [mem_unfolded planted, targets]
  have depths : ∀ target ∈ nodes.map (·.target), ∃ entry, after.entryOf target = some entry ∧
      Forest.Distance (parentOf nodes) target entry.depth := by
    intro target member
    rw [← parent]
    exact depth_distance planted (targets.symm ▸ member)
  have order : after.unfolded.currentFlow.targets.Pairwise (Forest.Precedes (parentOf nodes) (nodes.map (·.target)).idxOf) := by
    have preorder := lists.preorder
    have unfoldedParent : after.unfolded.parent = parentOf nodes := parent
    have unfoldedTargets : after.unfolded.targets = nodes.map (·.target) := targets
    rw [unfoldedParent, unfoldedTargets] at preorder
    exact preorder
  refine ⟨lists.once, every, fun target above declares => ?_, ?_, depths, carries⟩
  · have projected := isForest.projected target above declares
    obtain ⟨node, member, rfl, parented⟩ := declares
    obtain ⟨entry, -, distance⟩ := depths above projected
    have below := (parentOf_member isForest.distinct member).trans parented
    exact (Forest.precedes_of_below distance below).idxOf_lt order ((every above).mpr projected)
      ((every _).mpr (mem_map_of_mem member))
  · rw [pairwise_iff_getElem]
    intro i j first second before siblings
    have left := mem_map_of_mem (f := (·.target)) (getElem_mem first)
    have right := mem_map_of_mem (f := (·.target)) (getElem_mem second)
    obtain ⟨entry, -, distance⟩ := depths _ left
    have places : (nodes.map (·.target)).idxOf nodes[i].target < (nodes.map (·.target)).idxOf nodes[j].target := by
      have place : ∀ (k : Nat) (inside : k < nodes.length), (nodes.map (·.target)).idxOf nodes[k].target = k := by
        intro k inside
        have bound : k < (nodes.map (·.target)).length := by simpa using inside
        have found := isForest.distinct.idxOf_getElem k bound
        rw [getElem_map] at found
        exact found
      rw [place i first, place j second]
      exact before
    have same : parentOf nodes nodes[i].target = parentOf nodes nodes[j].target := by
      rw [parentOf_member isForest.distinct (getElem_mem first), parentOf_member isForest.distinct (getElem_mem second)]
      exact siblings
    exact (Forest.precedes_of_siblings distance same places).idxOf_lt order ((every _).mpr left) ((every _).mpr right)

/-- In every browser reached, exactly the forests are accepted, a rejected projection changes nothing,
    and an accepted one is listed whole. -/
theorem reconcile_accepts_forests (fuzzyMatch : String → String → Option Int)
    (inputs : List (TreeInput Target)) (entries : List (TreeEntry Target)) :
    ((((machine fuzzyMatch).run {} inputs).reconcile fuzzyMatch entries).2 = .ok () ↔
        IsForest (projectNodes entries)) ∧
      (∀ error, (((machine fuzzyMatch).run {} inputs).reconcile fuzzyMatch entries).2 = .error error →
        (((machine fuzzyMatch).run {} inputs).reconcile fuzzyMatch entries).1 =
          (machine fuzzyMatch).run {} inputs) ∧
      ((((machine fuzzyMatch).run {} inputs).reconcile fuzzyMatch entries).2 = .ok () →
        Reconciles (projectNodes entries) ((machine fuzzyMatch).run {} inputs)
          (((machine fuzzyMatch).run {} inputs).reconcile fuzzyMatch entries).1) := by
  have kept : ((machine fuzzyMatch).run ({} : TreeBrowser Target) inputs).Kept fuzzyMatch :=
    @Machine.run_holds _ _ (machine fuzzyMatch) (fun browser => browser.Kept fuzzyMatch)
      (fun browser input kept => Kept.step kept input) _ inputs kept_new
  rcases reconcile_cases kept entries with ⟨wrong, error, rejected⟩ | ⟨isForest, ok, after, -, carries⟩
  · rw [rejected]
    exact ⟨iff_of_false (fun ok => nomatch ok) wrong, fun _ _ => rfl, fun ok => nomatch ok⟩
  · refine ⟨iff_of_true ok isForest, fun error wrong => ?_, fun _ =>
      reconciles_of_carries after isForest carries⟩
    rw [ok] at wrong
    cases wrong

end TreeBrowser

end Mbv.Surfaces
