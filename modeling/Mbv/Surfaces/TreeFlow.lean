import Mbv.Surfaces.TreeForest

namespace Mbv.Surfaces

namespace TreeBrowser

open RebuiltForest Text List

variable {Target : Type*} [DecidableEq Target] (fuzzyMatch : String → String → Option Int)
  (browser : TreeBrowser Target)

/-! ### What a browser is to list -/

def targets : List Target := browser.nodes.map (·.target)

def parent (target : Target) : Option Target := parentOf browser.nodes target

def Matches (target : Target) : Prop :=
  ∃ node ∈ browser.nodes, node.target = target ∧
    (wordMatchScore fuzzyMatch node.searchText browser.filterQuery).isSome

def MatchesBelow (target : Target) : Prop :=
  ∃ below, Relation.TransGen (Forest.Below browser.parent) below target ∧
    browser.Matches fuzzyMatch below

def Shows (target : Target) : Prop :=
  browser.filtering = true → browser.Matches fuzzyMatch target ∨ browser.MatchesBelow fuzzyMatch target

def Opens (target : Target) : Prop :=
  target ∈ browser.expanded ∨ browser.filtering = true ∧ browser.MatchesBelow fuzzyMatch target

structure Lists (listed : List Target) : Prop where
  visible : ∀ target, target ∈ listed ↔ Forest.Visible browser.parent browser.targets
    (browser.Shows fuzzyMatch) (browser.Opens fuzzyMatch) target
  preorder : listed.Pairwise (Forest.Precedes browser.parent browser.targets.idxOf)
  once : listed.Nodup

def Matched : Prop :=
  browser.filtering = true → ∀ id, id ∈ browser.filterMatches ↔
    ∃ entry, browser.arena id = some entry ∧
      (wordMatchScore fuzzyMatch entry.node.searchText browser.filterQuery).isSome

def openUnderFilter (id : Nat) : Bool :=
  (browser.targetOf id).any (· ∈ browser.expanded) ||
    browser.filtering && browser.hasMatchingDescendant browser.orderedNodes.length id

/-! ### The flow is a walk -/

section Walk

variable {fuzzyMatch browser}

omit [DecidableEq Target] in
theorem planted_entry (planted : browser.Planted) {id : Nat} (member : id ∈ browser.orderedNodes) :
    ∃ entry, browser.arena id = some entry ∧ entry.children = Forest.children browser.parentId browser.orderedNodes id := by
  obtain ⟨entry, found⟩ := Option.isSome_iff_exists.mp ((planted.held id).mp member)
  have linked := planted.linked.children id member
  unfold childrenOf at linked
  rw [found] at linked
  exact ⟨entry, found, linked⟩

omit [DecidableEq Target] in
theorem hasMatchingDescendant_eq (planted : browser.Planted) {fuel id : Nat}
    (member : id ∈ browser.orderedNodes) : browser.hasMatchingDescendant fuel id =
      Forest.under (Forest.children browser.parentId browser.orderedNodes)
        (fun child => child ∈ browser.filterMatches) fuel id := by
  induction fuel generalizing id with
  | zero => rfl
  | succ fuel ih =>
    obtain ⟨entry, found, children⟩ := planted_entry planted member
    unfold hasMatchingDescendant Forest.under
    rw [found, Option.any_some, children]
    refine Bool.eq_iff_iff.mpr ?_
    rw [any_eq_true, any_eq_true]
    refine exists_congr fun child => and_congr_right fun there => ?_
    rw [ih (mem_filter.mp there).1]

theorem pushVisible_eq (planted : browser.Planted) {fuel id : Nat}
    (member : id ∈ browser.orderedNodes) : browser.pushVisible fuel id =
      Forest.walk (Forest.children browser.parentId browser.orderedNodes) browser.shownUnderFilter
        browser.openUnderFilter fuel id := by
  induction fuel generalizing id with
  | zero => rfl
  | succ fuel ih =>
    obtain ⟨entry, found, children⟩ := planted_entry planted member
    have later : entry.children.flatMap (browser.pushVisible fuel) =
        (Forest.children browser.parentId browser.orderedNodes id).flatMap
          (Forest.walk (Forest.children browser.parentId browser.orderedNodes)
            browser.shownUnderFilter browser.openUnderFilter fuel) := by
      rw [children]
      exact flatMap_congr fun child there => ih (mem_filter.mp there).1
    have opened : browser.openUnderFilter id = (decide (entry.node.target ∈ browser.expanded) ||
        browser.filtering && browser.hasMatchingDescendant browser.orderedNodes.length id) := by
      unfold openUnderFilter
      rw [targetOf_eq.mpr ⟨entry, found, rfl⟩, Option.any_some]
    unfold pushVisible Forest.walk
    rw [found]
    dsimp only
    rw [later, opened]
    unfold shownUnderFilter
    cases browser.filtering <;> cases decide (id ∈ browser.filterMatches) <;>
      cases browser.hasMatchingDescendant browser.orderedNodes.length id <;> rfl

theorem visibleNodeIds_eq (planted : browser.Planted) : browser.visibleNodeIds =
    (Forest.roots browser.parentId browser.orderedNodes).flatMap
      (Forest.walk (Forest.children browser.parentId browser.orderedNodes) browser.shownUnderFilter
        browser.openUnderFilter browser.orderedNodes.length) := by
  unfold visibleNodeIds
  rw [planted.linked.roots]
  exact flatMap_congr fun root there => pushVisible_eq planted (mem_filter.mp there).1

end Walk

section Lists

variable {fuzzyMatch browser}

omit [DecidableEq Target] in
theorem mem_nodes_names {node : TreeNode Target} (member : node ∈ browser.nodes) : ∃ id entry, browser.arena id = some entry ∧
      entry.node = node ∧ browser.Names id node.target := by
  obtain ⟨id, -, entry, found, rfl⟩ := mem_nodes.mp member
  exact ⟨id, entry, found, rfl, targetOf_eq.mpr ⟨entry, found, rfl⟩⟩

variable {target : Target} {id : Nat}

omit [DecidableEq Target] in
theorem matched_iff (planted : browser.Planted) (matched : browser.Matched fuzzyMatch)
    (filtering : browser.filtering = true) (names : browser.Names id target) :
    id ∈ browser.filterMatches ↔ browser.Matches fuzzyMatch target := by
  rw [matched filtering id]
  constructor
  · rintro ⟨entry, found, score⟩
    obtain ⟨entry', found', named⟩ := targetOf_eq.mp names
    cases found.symm.trans found'
    exact ⟨entry.node, planted.entry_mem_nodes found, named, score⟩
  · rintro ⟨node, member, rfl, score⟩
    obtain ⟨other, entry, found, rfl, named⟩ := mem_nodes_names member
    cases planted.target_injective names named
    exact ⟨entry, found, score⟩

theorem descendant_iff (planted : browser.Planted) (matched : browser.Matched fuzzyMatch)
    (filtering : browser.filtering = true) (names : browser.Names id target) :
    browser.hasMatchingDescendant browser.orderedNodes.length id = true ↔ browser.MatchesBelow fuzzyMatch target := by
  have alike := alike planted.toAllocated planted.declared
  have member := planted.mem_of_target names
  obtain ⟨entry, found, -⟩ := targetOf_eq.mp names
  rw [hasMatchingDescendant_eq planted member,
    Forest.under_iff planted.closed (planted.depths id entry found) member (Nat.le_add_right _ _)]
  constructor
  · rintro ⟨below, there, chain, met⟩
    obtain ⟨lower, foundBelow⟩ := Option.isSome_iff_exists.mp ((planted.held below).mp there)
    have named : browser.Names below lower.node.target := targetOf_eq.mpr ⟨lower, foundBelow, rfl⟩
    obtain ⟨target', upper, names'⟩ := alike.chain chain named
    cases Option.some.inj (names.symm.trans names')
    exact ⟨_, upper, (matched_iff planted matched filtering named).mp (by simpa using met)⟩
  · rintro ⟨below, chain, matching⟩
    obtain ⟨node, inside, rfl, score⟩ := matching
    obtain ⟨lower, -, -, -, named⟩ := mem_nodes_names inside
    obtain ⟨id', upper, names'⟩ := alike.swap.chain chain named
    cases planted.target_injective names names'
    refine ⟨lower, planted.mem_of_target named, upper, ?_⟩
    simpa using (matched_iff planted matched filtering named).mpr ⟨node, inside, rfl, score⟩

theorem shown_iff (planted : browser.Planted) (matched : browser.Matched fuzzyMatch) (names : browser.Names id target) :
    browser.shownUnderFilter id = true ↔ browser.Shows fuzzyMatch target := by
  unfold shownUnderFilter Shows
  cases filtering : browser.filtering with
  | false => simp
  | true =>
    simp only [Bool.not_true, Bool.false_or, Bool.or_eq_true, decide_eq_true_eq, forall_const]
    rw [matched_iff planted matched filtering names, descendant_iff planted matched filtering names]

theorem opened_iff (planted : browser.Planted) (matched : browser.Matched fuzzyMatch) (names : browser.Names id target) :
    browser.openUnderFilter id = true ↔ browser.Opens fuzzyMatch target := by
  have named : browser.targetOf id = some target := names
  unfold openUnderFilter Opens
  rw [named, Option.any_some, Bool.or_eq_true, Bool.and_eq_true, decide_eq_true_eq]
  refine or_congr_right (and_congr_right fun filtering => ?_)
  exact descendant_iff planted matched filtering names

theorem idxOf_names (planted : browser.Planted) (names : browser.Names id target) :
    browser.orderedNodes.idxOf id = browser.targets.idxOf target := by
  have along : ∀ ids : List Nat, (∀ other ∈ ids, other ∈ browser.orderedNodes) →
      ids.idxOf id = (ids.filterMap browser.targetOf).idxOf target := by
    intro ids inside
    induction ids with
    | nil => rfl
    | cons other ids ih =>
      obtain ⟨entry, found⟩ := Option.isSome_iff_exists.mp ((planted.held other).mp (inside other mem_cons_self))
      have named : browser.targetOf other = some entry.node.target := targetOf_eq.mpr ⟨entry, found, rfl⟩
      have rest := ih fun lower member => inside lower (mem_cons_of_mem _ member)
      rw [filterMap_cons_some named, idxOf_cons, idxOf_cons, rest]
      by_cases same : other = id
      · subst same
        cases Option.some.inj (named.symm.trans names)
        rw [beq_self_eq_true, beq_self_eq_true]
      · have apart : entry.node.target ≠ target := by
          rintro rfl
          exact same (planted.target_injective named names)
        rw [beq_false_of_ne same, beq_false_of_ne apart]
  unfold targets
  rw [nodes_target]
  exact along browser.orderedNodes fun _ member => member

theorem mem_visibleNodeIds (planted : browser.Planted) : id ∈ browser.visibleNodeIds ↔
    Forest.Visible browser.parentId browser.orderedNodes (browser.shownUnderFilter · = true)
      (browser.openUnderFilter · = true) id := by
  rw [visibleNodeIds_eq planted]
  refine Forest.mem_walks planted.closed ((Forest.acyclic_iff_distance planted.closed).mpr ?_)
  intro other member
  obtain ⟨entry, found⟩ := Option.isSome_iff_exists.mp ((planted.held other).mp member)
  exact ⟨_, planted.depths other entry found⟩

theorem lists_visibleTargets (planted : browser.Planted) (matched : browser.Matched fuzzyMatch) :
    browser.Lists fuzzyMatch browser.visibleTargets := by
  have alike := alike planted.toAllocated planted.declared
  have targets : ∀ id target, browser.Names id target → target ∈ browser.targets := by
    intro id target names
    obtain ⟨entry, found, rfl⟩ := targetOf_eq.mp names
    exact mem_map_of_mem (planted.entry_mem_nodes found)
  have ascending : browser.orderedNodes.Pairwise fun one other =>
      browser.orderedNodes.idxOf one < browser.orderedNodes.idxOf other := by
    rw [pairwise_iff_getElem]
    intro i j first second before
    rw [planted.distinctIds.idxOf_getElem, planted.distinctIds.idxOf_getElem]
    exact before
  have preorder : browser.visibleTargets.Pairwise (Forest.Precedes browser.parent browser.targets.idxOf) := by
    unfold visibleTargets
    rw [visibleNodeIds_eq planted]
    refine (Forest.walks_preorder ascending _).filterMap _ ?_
    intro one other precedes first named second named'
    exact precedes.alike alike (fun _ _ names => idxOf_names planted names) named named'
  refine ⟨fun target => ?_, preorder, preorder.imp fun precedes => precedes.ne⟩
  unfold visibleTargets
  rw [mem_filterMap]
  constructor
  · rintro ⟨id, member, names⟩
    refine ((mem_visibleNodeIds planted).mp member).alike alike (fun _ _ names _ => targets _ _ names)
      (fun _ _ names => (shown_iff planted matched names).mp)
      (fun _ _ names => (opened_iff planted matched names).mp) names
  · intro visible
    obtain ⟨node, member, rfl⟩ := mem_map.mp visible.member
    obtain ⟨id, entry, found, -, names⟩ := mem_nodes_names member
    refine ⟨id, (mem_visibleNodeIds planted).mpr ?_, names⟩
    exact visible.alike alike.swap (fun _ _ names _ => planted.mem_of_target names)
      (fun _ _ names => (shown_iff planted matched names).mpr)
      (fun _ _ names => (opened_iff planted matched names).mpr) names

theorem currentFlow_targets : browser.currentFlow.targets = browser.visibleTargets := by
  have node : ∀ id, (browser.flowRow (.node id)).target = browser.targetOf id := by
    intro id
    unfold flowRow
    dsimp only
    cases browser.targetOf id <;> rfl
  unfold RowFlow.targets currentFlow visibleTargets visibleFlowRows visibleNodeIds
  rw [filterMap_map, filterMap_flatMap, filterMap_flatMap]
  refine flatMap_congr fun root _ => ?_
  unfold rootFlowRows
  dsimp only
  split
  · rename_i empty
    rw [isEmpty_iff.mp empty]
    rfl
  · rw [filterMap_append, filterMap_map, filterMap_map]
    have structural : ((browser.structuresOf root).zipIdx.filterMap
        ((Row.target ∘ browser.flowRow) ∘ fun row => VisibleRow.structural root row.2)) = [] := by
      rw [filterMap_eq_nil_iff]
      intro row _
      rfl
    rw [structural, nil_append]
    exact filterMap_congr fun id _ => node id

end Lists

end TreeBrowser

end Mbv.Surfaces
