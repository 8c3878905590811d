import Mbv.Surfaces.TreeOperations

namespace Mbv.Surfaces

open List

variable {Target : Type*}

/-! ### What validation accepts -/

/-- The projection names `parent` as the parent of `target`. -/
def Declares (nodes : List (TreeNode Target)) (target parent : Target) : Prop :=
  ∃ node ∈ nodes, node.target = target ∧ node.parent = some parent

/-- Distinct targets, every declared parent projected, and no parent chain back to its own node. -/
structure IsForest (nodes : List (TreeNode Target)) : Prop where
  distinct : (nodes.map (·.target)).Nodup
  projected : ∀ target parent, Declares nodes target parent → parent ∈ nodes.map (·.target)
  acyclic : ∀ target, ¬ Relation.TransGen (Declares nodes) target target

section Validate

variable [DecidableEq Target] {nodes : List (TreeNode Target)}

theorem firstDuplicate_none {seen : List Target} : firstDuplicate seen nodes = none ↔
      (nodes.map (·.target)).Nodup ∧ ∀ node ∈ nodes, node.target ∉ seen := by
  induction nodes generalizing seen with
  | nil => simp [firstDuplicate]
  | cons node nodes ih =>
    unfold firstDuplicate
    split
    · rename_i again
      simp [again]
    · rename_i fresh
      rw [ih, map_cons, nodup_cons, forall_mem_cons]
      simp only [mem_cons, not_or, mem_map, not_exists, not_and]
      constructor
      · rintro ⟨distinct, apart⟩
        exact ⟨⟨fun other member => (apart other member).1, distinct⟩, fresh, fun other member => (apart other member).2⟩
      · rintro ⟨⟨apart, distinct⟩, -, unseen⟩
        exact ⟨distinct, fun other member => ⟨apart other member, unseen other member⟩⟩

theorem parentError_none {targets : List Target} {node : TreeNode Target} : parentError targets node = none ↔
      ∀ parent, node.parent = some parent → parent ≠ node.target ∧ parent ∈ targets := by
  unfold parentError
  cases node.parent with
  | none => simp
  | some parent =>
    simp only [Option.some.injEq, forall_eq']
    split
    · simp_all
    · split <;> simp_all

theorem find_target (distinct : (nodes.map (·.target)).Nodup) {node : TreeNode Target}
    (member : node ∈ nodes) : nodes.find? (fun other => other.target = node.target) = some node := by
  cases found : nodes.find? (fun other => decide (other.target = node.target)) with
  | none =>
    have absent := List.find?_eq_none.mp found node member
    simp at absent
  | some other =>
    have there := mem_of_find?_eq_some found
    have same := List.find?_some found
    rw [inj_on_of_nodup_map distinct there member (by simpa using same)]

theorem parentOf_member (distinct : (nodes.map (·.target)).Nodup) {node : TreeNode Target}
    (member : node ∈ nodes) : parentOf nodes node.target = node.parent := by
  unfold parentOf
  rw [find_target distinct member, Option.bind_some]

theorem parentOf_declares {target parent : Target} (below : parentOf nodes target = some parent) :
    Declares nodes target parent := by
  unfold parentOf at below
  obtain ⟨node, found, parented⟩ := Option.bind_eq_some_iff.mp below
  have named := List.find?_some found
  exact ⟨node, mem_of_find?_eq_some found, by simpa using named, parented⟩

theorem below_iff_declares (distinct : (nodes.map (·.target)).Nodup) {target parent : Target} :
    Forest.Below (parentOf nodes) target parent ↔ Declares nodes target parent := by
  constructor
  · exact parentOf_declares
  · rintro ⟨node, member, rfl, parented⟩
    exact (parentOf_member distinct member).trans parented

theorem IsForest.closed (isForest : IsForest nodes) : Forest.Closed (parentOf nodes) (nodes.map (·.target)) :=
  fun target _ parent below => isForest.projected target parent (parentOf_declares below)

theorem IsForest.below_acyclic (isForest : IsForest nodes) : Forest.Acyclic (parentOf nodes) (nodes.map (·.target)) := by
  intro target _ cycle
  exact isForest.acyclic target (cycle.lift id fun _ _ below => parentOf_declares below)

theorem IsForest.distance (isForest : IsForest nodes) {target : Target}
    (member : target ∈ nodes.map (·.target)) : ∃ d, Forest.Distance (parentOf nodes) target d :=
  (Forest.acyclic_iff_distance isForest.closed).mp isForest.below_acyclic target member

theorem validateForest_ok : validateForest nodes = .ok () ↔ IsForest nodes := by
  unfold validateForest
  cases duplicate : firstDuplicate [] nodes with
  | some target =>
    refine iff_of_false (fun wrong => nomatch wrong) fun isForest => ?_
    rw [firstDuplicate_none.mpr ⟨isForest.distinct, by simp⟩] at duplicate
    cases duplicate
  | none =>
    have distinct := (firstDuplicate_none.mp duplicate).1
    dsimp only
    cases parents : nodes.findSome? (parentError (nodes.map (·.target))) with
    | some error =>
      refine iff_of_false (fun wrong => nomatch wrong) fun isForest => ?_
      obtain ⟨node, member, wrong⟩ := exists_of_findSome?_eq_some parents
      have right : parentError (nodes.map (·.target)) node = none := by
        refine parentError_none.mpr fun parent parented => ?_
        have declared : Declares nodes node.target parent := ⟨node, member, rfl, parented⟩
        refine ⟨?_, isForest.projected _ _ declared⟩
        rintro rfl
        exact isForest.acyclic _ (.single declared)
      rw [right] at wrong
      cases wrong
    | none =>
      have projected : ∀ target parent, Declares nodes target parent → parent ∈ nodes.map (·.target) := by
        rintro target parent ⟨node, member, -, parented⟩
        exact (parentError_none.mp (List.findSome?_eq_none_iff.mp parents node member) parent parented).2
      have closed : Forest.Closed (parentOf nodes) (nodes.map (·.target)) :=
        fun target _ parent below => projected target parent (parentOf_declares below)
      have chains : nodes.findSome? (cycleError nodes) = none ↔ Forest.Acyclic (parentOf nodes) (nodes.map (·.target)) := by
        rw [Forest.acyclic_iff_closes closed, List.findSome?_eq_none_iff, length_map, forall_mem_map]
        simp [cycleError]
      dsimp only
      cases cycle : nodes.findSome? (cycleError nodes) with
      | some error =>
        refine iff_of_false (fun wrong => nomatch wrong) fun isForest => ?_
        rw [chains.mpr isForest.below_acyclic] at cycle
        cases cycle
      | none =>
        refine iff_of_true rfl ⟨distinct, projected, fun target chain => ?_⟩
        have member : target ∈ nodes.map (·.target) := by
          obtain ⟨parent, -, last⟩ := Relation.TransGen.tail'_iff.mp chain
          exact projected parent target last
        refine chains.mp cycle target member ?_
        exact chain.lift id fun _ _ declared => (below_iff_declares distinct).mpr declared

end Validate

/-! ### Forests in the arena -/

namespace RebuiltForest

variable (forest : RebuiltForest Target)

def nodes : List (TreeNode Target) :=
  forest.orderedNodes.filterMap fun id => (forest.arena id).map (·.node)

structure Allocated (forest : RebuiltForest Target) : Prop where
  ascending : forest.orderedNodes.Pairwise (· < ·)
  held : ∀ id, id ∈ forest.orderedNodes ↔ (forest.arena id).isSome
  looked : ∀ target id, forest.targetToNode target = some id ↔ forest.targetOf id = some target

variable {forest}

theorem targetOf_eq {id : Nat} {target : Target} : forest.targetOf id = some target ↔
      ∃ entry, forest.arena id = some entry ∧ entry.node.target = target := by
  simp [targetOf]

theorem mem_nodes {node : TreeNode Target} :
    node ∈ forest.nodes ↔ ∃ id ∈ forest.orderedNodes, ∃ entry, forest.arena id = some entry ∧ entry.node = node := by
  simp [nodes, mem_filterMap]

theorem nodes_target : forest.nodes.map (·.target) = forest.orderedNodes.filterMap forest.targetOf := by
  unfold nodes
  rw [map_filterMap]
  refine filterMap_congr fun id _ => ?_
  simp [targetOf, Function.comp_def]

namespace Allocated

theorem mem_of_target (allocated : forest.Allocated) {id : Nat} {target : Target}
    (named : forest.targetOf id = some target) : id ∈ forest.orderedNodes := by
  obtain ⟨entry, found, -⟩ := targetOf_eq.mp named
  exact (allocated.held id).mpr (by rw [found]; rfl)

theorem target_injective (allocated : forest.Allocated) {one other : Nat} {target : Target}
    (first : forest.targetOf one = some target) (second : forest.targetOf other = some target) :
    one = other := by
  have left := (allocated.looked target one).mpr first
  rw [(allocated.looked target other).mpr second] at left
  exact (Option.some.inj left).symm

theorem distinctIds (allocated : forest.Allocated) : forest.orderedNodes.Nodup :=
  allocated.ascending.imp fun before => Nat.ne_of_lt before

theorem distinct (allocated : forest.Allocated) : (forest.nodes.map (·.target)).Nodup := by
  rw [nodes_target]
  exact allocated.distinctIds.filterMap fun one other target first second =>
    allocated.target_injective first second

theorem mem_targets (allocated : forest.Allocated) {target : Target} :
    target ∈ forest.nodes.map (·.target) ↔ (forest.targetToNode target).isSome := by
  rw [nodes_target, mem_filterMap]
  constructor
  · rintro ⟨id, -, named⟩
    rw [(allocated.looked target id).mpr named]
    rfl
  · intro looked
    obtain ⟨id, found⟩ := Option.isSome_iff_exists.mp looked
    have named := (allocated.looked target id).mp found
    exact ⟨id, allocated.mem_of_target named, named⟩

theorem entry_mem_nodes (allocated : forest.Allocated) {id : Nat} {entry : ArenaNode Target}
    (found : forest.arena id = some entry) : entry.node ∈ forest.nodes :=
  mem_nodes.mpr ⟨id, (allocated.held id).mpr (by rw [found]; rfl), entry, found, rfl⟩

end Allocated

structure SameNodes (before after : RebuiltForest Target) : Prop where
  ordered : after.orderedNodes = before.orderedNodes
  looked : after.targetToNode = before.targetToNode
  node : ∀ id, (after.arena id).map (·.node) = (before.arena id).map (·.node)

namespace SameNodes

variable {before after last : RebuiltForest Target}

theorem refl (forest : RebuiltForest Target) : SameNodes forest forest := ⟨rfl, rfl, fun _ => rfl⟩

theorem trans (first : SameNodes before after) (second : SameNodes after last) : SameNodes before last :=
  ⟨second.ordered.trans first.ordered, second.looked.trans first.looked, fun id => (second.node id).trans (first.node id)⟩

theorem targetOf (same : SameNodes before after) (id : Nat) : after.targetOf id = before.targetOf id := by
  have nodes := congrArg (Option.map (·.target)) (same.node id)
  simpa [RebuiltForest.targetOf, Option.map_map, Function.comp_def] using nodes

theorem isSome (same : SameNodes before after) (id : Nat) : (after.arena id).isSome = (before.arena id).isSome := by
  have nodes := congrArg Option.isSome (same.node id)
  simpa using nodes

theorem nodes (same : SameNodes before after) : after.nodes = before.nodes := by
  unfold RebuiltForest.nodes
  rw [same.ordered]
  exact filterMap_congr fun id _ => same.node id

theorem allocated (same : SameNodes before after) (allocated : before.Allocated) : after.Allocated where
  ascending := by
    rw [same.ordered]
    exact allocated.ascending
  held id := by
    rw [same.ordered, same.isSome]
    exact allocated.held id
  looked target id := by
    rw [same.looked, same.targetOf]
    exact allocated.looked target id

theorem parentId (same : SameNodes before after) (id : Nat) : after.parentId id = before.parentId id := by
  have nodes := same.node id
  unfold RebuiltForest.parentId
  rw [same.looked]
  cases one : before.arena id with
  | none =>
    cases other : after.arena id with
    | none => rfl
    | some entry =>
      rw [one, other] at nodes
      cases nodes
  | some entry =>
    cases other : after.arena id with
    | none =>
      rw [one, other] at nodes
      cases nodes
    | some entry' =>
      rw [one, other] at nodes
      have entries : entry'.node = entry.node := Option.some.inj nodes
      simp only [Option.bind_some, entries]

end SameNodes

/-! ### Rebuilding -/

section Rebuild

variable [DecidableEq Target]

structure Allocating (forest : RebuiltForest Target) (nextNodeId : Nat) : Prop
    extends forest.Allocated where
  below : ∀ id ∈ forest.orderedNodes, id < nextNodeId
  bare : ∀ id entry, forest.arena id = some entry → entry.children = []
  unrooted : forest.roots = []

theorem Allocating.allocateNode {id : Nat} (allocating : Allocating forest id)
    {node : TreeNode Target} (fresh : node.target ∉ forest.nodes.map (·.target)) :
    Allocating (forest.allocateNode id node) (id + 1) ∧ (forest.allocateNode id node).nodes = forest.nodes ++ [node] := by
  have unused : id ∉ forest.orderedNodes := fun member => lt_irrefl id (allocating.below id member)
  have absent : forest.targetToNode node.target = none := by
    rw [← Option.not_isSome_iff_eq_none, ← allocating.mem_targets]
    exact fresh
  have here : (forest.allocateNode id node).arena id = some { node := node } := by
    simp [RebuiltForest.allocateNode]
  have elsewhere : ∀ other, other ≠ id → (forest.allocateNode id node).arena other = forest.arena other := by
    intro other apart
    simp [RebuiltForest.allocateNode, apart]
  have ordered : (forest.allocateNode id node).orderedNodes = forest.orderedNodes ++ [id] := rfl
  refine ⟨{ ascending := ?_, held := ?_, looked := ?_, below := ?_, bare := ?_, unrooted := ?_ }, ?_⟩
  · rw [ordered, pairwise_append]
    refine ⟨allocating.ascending, pairwise_singleton _ _, fun one first other last => ?_⟩
    rw [mem_singleton.mp last]
    exact allocating.below one first
  · intro other
    rw [ordered, mem_append, mem_singleton]
    by_cases same : other = id
    · subst same
      simp [here]
    · rw [elsewhere other same, ← allocating.held other]
      simp [same]
  · intro target other
    have names : (forest.allocateNode id node).targetOf other =
        if other = id then some node.target else forest.targetOf other := by
      unfold targetOf
      split
      · rename_i same
        rw [same, here]
        rfl
      · rename_i apart
        rw [elsewhere other apart]
    have looks : (forest.allocateNode id node).targetToNode target =
        if target = node.target then some id else forest.targetToNode target := by
      simp [RebuiltForest.allocateNode, Function.update_apply]
    rw [names, looks]
    split
    · rename_i same
      subst same
      split
      · rename_i equal
        simp [equal]
      · rename_i apart
        rw [← allocating.looked, absent]
        simp [Ne.symm apart]
    · rename_i different
      split
      · rename_i same
        subst same
        refine iff_of_false (fun found => unused ?_) (fun equal => different (Option.some.inj equal).symm)
        exact allocating.mem_of_target ((allocating.looked _ _).mp found)
      · exact allocating.looked target other
  · intro other member
    rw [ordered, mem_append, mem_singleton] at member
    rcases member with old | rfl
    · exact Nat.lt_succ_of_lt (allocating.below other old)
    · exact Nat.lt_succ_self _
  · intro other entry found
    by_cases same : other = id
    · subst same
      rw [here] at found
      rw [← Option.some.inj found]
    · rw [elsewhere other same] at found
      exact allocating.bare other entry found
  · exact allocating.unrooted
  · unfold nodes
    rw [ordered, filterMap_append]
    congr 1
    · refine filterMap_congr fun other member => ?_
      rw [elsewhere other fun same => unused (same ▸ member)]
    · simp [here]

theorem Allocating.allocateNodes {nodes : List (TreeNode Target)} {id : Nat} (allocating : Allocating forest id)
    (distinct : ((forest.nodes ++ nodes).map (·.target)).Nodup) :
    Allocating (RebuiltForest.allocateNodes nodes id forest).1 (RebuiltForest.allocateNodes nodes id forest).2 ∧
      (RebuiltForest.allocateNodes nodes id forest).1.nodes = forest.nodes ++ nodes := by
  induction nodes generalizing id forest with
  | nil => exact ⟨allocating, (append_nil _).symm⟩
  | cons node nodes ih =>
    have fresh : node.target ∉ forest.nodes.map (·.target) := by
      rw [map_append, map_cons] at distinct
      intro again
      exact (nodup_append.mp distinct).2.2 _ again _ mem_cons_self rfl
    obtain ⟨next, listed⟩ := allocating.allocateNode fresh
    have rest := ih next (by rw [listed, append_assoc]; exact distinct)
    rw [listed, append_assoc] at rest
    exact rest

/-! The links. -/

/-- The nodes in `linked` hang below their parents, or are roots. -/
structure Linked (forest : RebuiltForest Target) (linked : List Nat) : Prop where
  roots : forest.roots = linked.filter (forest.parentId · = none)
  children : ∀ id ∈ forest.orderedNodes, forest.childrenOf id = linked.filter (forest.parentId · = some id)

omit [DecidableEq Target] in
theorem pushChild_same (parentId id : Nat) : SameNodes forest (forest.pushChild parentId id) := by
  unfold pushChild
  split
  · exact .refl forest
  · rename_i parent found
    refine ⟨rfl, rfl, fun other => ?_⟩
    by_cases same : other = parentId
    · subst same
      simp [found]
    · simp [same]

omit [DecidableEq Target] in
theorem pushChild_roots (parentId id : Nat) : (forest.pushChild parentId id).roots = forest.roots := by
  unfold pushChild
  split <;> rfl

omit [DecidableEq Target] in
theorem pushChild_children {parentId : Nat} (id : Nat) (held : (forest.arena parentId).isSome)
    (other : Nat) : (forest.pushChild parentId id).childrenOf other =
      if other = parentId then forest.childrenOf other ++ [id] else forest.childrenOf other := by
  obtain ⟨parent, found⟩ := Option.isSome_iff_exists.mp held
  by_cases same : other = parentId
  · subst same
    simp [pushChild, childrenOf, found]
  · simp [pushChild, childrenOf, found, same]

omit [DecidableEq Target] in
theorem linkParentNode_same (id : Nat) : SameNodes forest (forest.linkParentNode id) := by
  unfold linkParentNode
  split
  · split
    · exact pushChild_same _ _
    · exact .refl forest
  · exact ⟨rfl, rfl, fun _ => rfl⟩

def Declared (forest : RebuiltForest Target) : Prop :=
  ∀ id parent, (forest.arena id).bind (·.node.parent) = some parent →
    (forest.targetToNode parent).isSome

omit [DecidableEq Target] in
theorem Declared.of_same {before after : RebuiltForest Target} (declared : before.Declared)
    (same : SameNodes before after) : after.Declared := by
  intro id parent parented
  rw [same.looked]
  refine declared id parent ?_
  have nodes := congrArg (Option.bind · TreeNode.parent) (same.node id)
  simp only [Option.bind_map, Function.comp_def] at nodes
  exact nodes ▸ parented

omit [DecidableEq Target] in
theorem Linked.linkParentNode {linked : List Nat} (inv : forest.Linked linked)
    (allocated : forest.Allocated) (declared : forest.Declared) (id : Nat) :
    (forest.linkParentNode id).Linked (linked ++ [id]) := by
  have same := @linkParentNode_same _ forest id
  have parents : (forest.linkParentNode id).parentId = forest.parentId := funext same.parentId
  cases parented : (forest.arena id).bind (·.node.parent) with
  | none =>
    have top : forest.parentId id = none := by
      unfold RebuiltForest.parentId
      cases found : forest.arena id with
      | none => rfl
      | some entry =>
        rw [found, Option.bind_some] at parented
        simp [parented]
    have linkedForest : forest.linkParentNode id = { forest with roots := forest.roots ++ [id] } := by
      unfold RebuiltForest.linkParentNode
      rw [parented]
    refine ⟨?_, fun other member => ?_⟩
    · rw [parents, linkedForest, filter_append, ← inv.roots]
      simp [top]
    · rw [parents, filter_append]
      rw [same.ordered] at member
      simp only [top, filter_cons, filter_nil, reduceCtorEq, decide_false, Bool.false_eq_true, if_false, append_nil]
      rw [linkedForest]
      exact inv.children other member
  | some parent =>
    obtain ⟨parentId, found⟩ := Option.isSome_iff_exists.mp (declared id parent parented)
    have below : forest.parentId id = some parentId := by
      obtain ⟨entry, there, names⟩ := Option.bind_eq_some_iff.mp parented
      unfold RebuiltForest.parentId
      rw [there, Option.bind_some, names, Option.bind_some, found]
    have linkedForest : forest.linkParentNode id = forest.pushChild parentId id := by
      unfold RebuiltForest.linkParentNode
      rw [parented]
      dsimp only
      rw [found]
    have held : (forest.arena parentId).isSome :=
      (allocated.held parentId).mp (allocated.mem_of_target ((allocated.looked _ _).mp found))
    refine ⟨?_, fun other member => ?_⟩
    · rw [parents, linkedForest, pushChild_roots, inv.roots, filter_append]
      simp [below]
    · rw [same.ordered] at member
      rw [parents, linkedForest, pushChild_children id held, inv.children other member, filter_append]
      by_cases equal : other = parentId
      · simp [equal, below]
      · simp [equal, below, Ne.symm equal]

omit [DecidableEq Target] in
theorem linkParentNodes_spec (allocated : forest.Allocated) (declared : forest.Declared)
    (bare : ∀ id entry, forest.arena id = some entry → entry.children = [])
    (unrooted : forest.roots = []) :
    SameNodes forest forest.linkParentNodes ∧ forest.linkParentNodes.Linked forest.orderedNodes := by
  have folds : ∀ (rest linked : List Nat) (current : RebuiltForest Target), SameNodes forest current → current.Linked linked →
      SameNodes forest (rest.foldl linkParentNode current) ∧ (rest.foldl linkParentNode current).Linked (linked ++ rest) := by
    intro rest
    induction rest with
    | nil =>
      intro linked current same inv
      rw [append_nil]
      exact ⟨same, inv⟩
    | cons id rest ih =>
      intro linked current same inv
      have next := inv.linkParentNode (same.allocated allocated) (declared.of_same same) id
      have done := ih (linked ++ [id]) _ (same.trans (linkParentNode_same id)) next
      rw [append_assoc] at done
      exact done
  refine folds forest.orderedNodes [] forest (.refl forest) ⟨unrooted, fun id _ => ?_⟩
  unfold childrenOf
  cases found : forest.arena id with
  | none => rfl
  | some entry => exact bare id entry found

/-! The depths. -/

/-- Nothing but depths differs. -/
structure Deepened (before after : RebuiltForest Target) : Prop extends SameNodes before after where
  roots : after.roots = before.roots
  children : ∀ id, after.childrenOf id = before.childrenOf id

omit [DecidableEq Target] in
theorem Deepened.trans {before after last : RebuiltForest Target} (first : Deepened before after)
    (second : Deepened after last) : Deepened before last :=
  ⟨first.toSameNodes.trans second.toSameNodes, second.roots.trans first.roots,
    fun id => (second.children id).trans (first.children id)⟩

omit [DecidableEq Target] in
theorem Deepened.linked {before after : RebuiltForest Target} (deepened : Deepened before after)
    {linked : List Nat} (inv : before.Linked linked) : after.Linked linked := by
  have parents : after.parentId = before.parentId := funext deepened.parentId
  refine ⟨?_, fun id member => ?_⟩
  · rw [deepened.roots, parents]
    exact inv.roots
  · rw [deepened.ordered] at member
    rw [deepened.children, parents]
    exact inv.children id member

omit [DecidableEq Target] in
theorem writeDepth_deepened (id : Nat) (depth : Nat × Nat) : Deepened forest (forest.writeDepth id depth) := by
  unfold writeDepth
  split
  · exact ⟨.refl forest, rfl, fun _ => rfl⟩
  · rename_i entry found
    refine ⟨⟨rfl, rfl, fun other => ?_⟩, rfl, fun other => ?_⟩
    · by_cases same : other = id
      · subst same
        simp [found]
      · simp [same]
    · by_cases same : other = id
      · subst same
        simp [childrenOf, found]
      · simp [childrenOf, same]

/-- The depth written at `id`, if any, meets `P`. -/
def DepthMeets (P : Nat → Nat → Prop) (forest : RebuiltForest Target) (id : Nat) : Prop :=
  ∀ entry, forest.arena id = some entry → P id entry.depth

omit [DecidableEq Target] in
theorem writeDepth_meets {P : Nat → Nat → Prop} {id other : Nat} {depth : Nat × Nat}
    (right : P id depth.1) (before : other = id ∨ forest.DepthMeets P other) :
    (forest.writeDepth id depth).DepthMeets P other := by
  unfold writeDepth
  split
  · rename_i absent
    rcases before with rfl | met
    · intro entry found
      rw [absent] at found
      cases found
    · exact met
  · rename_i entry found
    intro entry' found'
    by_cases same : other = id
    · subst same
      simp only [Function.update_self, Option.some.injEq] at found'
      rw [← found']
      exact right
    · simp only [Function.update_of_ne same] at found'
      exact (before.resolve_left same) entry' found'

omit [DecidableEq Target] in
theorem writeDepths {P : Nat → Nat → Prop} {taken : List (Nat × (Nat × Nat))} (right : ∀ item ∈ taken, P item.1 item.2.1) :
    Deepened forest (taken.foldl (fun forest item => forest.writeDepth item.1 item.2) forest) ∧
      ∀ id, id ∈ taken.map (·.1) ∨ forest.DepthMeets P id →
        (taken.foldl (fun forest item => forest.writeDepth item.1 item.2) forest).DepthMeets P id := by
  induction taken generalizing forest with
  | nil =>
    refine ⟨⟨.refl forest, rfl, fun _ => rfl⟩, fun id either => ?_⟩
    exact either.resolve_left not_mem_nil
  | cons item taken ih =>
    obtain ⟨deepened, met⟩ := @ih (forest.writeDepth item.1 item.2) fun other member => right other (mem_cons_of_mem _ member)
    refine ⟨(writeDepth_deepened item.1 item.2).trans deepened, fun id either => met id ?_⟩
    have first := right item mem_cons_self
    rcases either with member | before
    · rcases mem_cons.mp member with same | later
      · exact Or.inr (writeDepth_meets first (Or.inl same))
      · exact Or.inl later
    · exact Or.inr (writeDepth_meets first (Or.inr before))

omit [DecidableEq Target] in
theorem Allocated.closed (allocated : forest.Allocated) : Forest.Closed forest.parentId forest.orderedNodes := by
  intro id _ parent below
  obtain ⟨entry, -, rest⟩ := Option.bind_eq_some_iff.mp below
  obtain ⟨target, -, looked⟩ := Option.bind_eq_some_iff.mp rest
  exact allocated.mem_of_target ((allocated.looked _ _).mp looked)

omit [DecidableEq Target] in
theorem Linked.pushes (linked : forest.Linked forest.orderedNodes) (allocated : forest.Allocated) :
    Forest.Pushes forest.parentId forest.orderedNodes forest.childrenOf := by
  intro id member
  rw [linked.children id member]
  exact ⟨allocated.distinctIds.filter _, fun child => by simp⟩

omit [DecidableEq Target] in
theorem computeForestDepths_spec (allocated : forest.Allocated) (linked : forest.Linked forest.orderedNodes)
    (rooted : ∀ id ∈ forest.orderedNodes, ∃ d, Forest.Distance forest.parentId id d) :
    Deepened forest forest.computeForestDepths ∧ ∀ id entry, forest.computeForestDepths.arena id = some entry →
        Forest.Distance forest.parentId id entry.depth := by
  have pushes := linked.pushes allocated
  have start : ((forest.roots.zipIdx.map fun root => (root.1, (0, root.2))).reverse).map
      (fun item : Nat × (Nat × Nat) => item.1) = forest.roots.reverse := by
    rw [map_reverse, map_map]
    exact congrArg List.reverse (zipIdx_map_fst 0 forest.roots)
  have top : ∀ id, id ∈ forest.roots ↔ id ∈ forest.orderedNodes ∧ forest.parentId id = none := by
    intro id
    rw [linked.roots]
    simp
  have sweeping : Forest.Sweeping forest.parentId forest.orderedNodes [] forest.roots.reverse := by
    refine ⟨?_, ?_, ?_, ?_, ?_⟩
    · rw [nil_append, nodup_reverse, linked.roots]
      exact allocated.distinctIds.filter _
    · intro id member
      exact ((top id).mp (by simpa using member)).1
    · intro id member parent below
      rw [((top id).mp (by simpa using member)).2] at below
      cases below
    · intro id member none
      simpa using (top id).mpr ⟨member, none⟩
    · exact fun _ none => nomatch none
  have taken : ∀ id, id ∈ forest.depthSweep.map (·.1) ↔ id ∈ forest.orderedNodes := by
    rw [← start] at sweeping
    have done : Forest.Sweeping forest.parentId forest.orderedNodes
        ([] ++ forest.depthSweep.map (·.1)) [] := sweeping.run pushes (by simp)
    rw [nil_append] at done
    exact (done.complete allocated.closed rooted).2
  have right : ∀ item ∈ forest.depthSweep, Forest.Distance forest.parentId item.1 item.2.1 := by
    refine @Forest.sweep_values _ _ _ _ (fun id (depth : Nat × Nat) => Forest.Distance forest.parentId id depth.1)
      (fun id depth distance child pushed => ?_) _ _ fun item member => ?_
    · by_cases inside : id ∈ forest.orderedNodes
      · exact .child (((pushes id inside).2 child).mp pushed).2 distance
      · have absent := Option.not_isSome_iff_eq_none.mp (mt (allocated.held id).mpr inside)
        unfold childrenOf at pushed
        rw [absent] at pushed
        cases pushed
    · obtain ⟨root, inside, rfl⟩ := mem_map.mp (mem_reverse.mp member)
      exact .root ((top root.1).mp (fst_mem_of_mem_zipIdx inside)).2
  obtain ⟨deepened, met⟩ := @writeDepths _ forest _ _ right
  refine ⟨deepened, fun id entry found => ?_⟩
  have member : id ∈ forest.orderedNodes := by
    refine (allocated.held id).mpr ?_
    rw [← deepened.isSome id]
    exact found ▸ rfl
  exact met id (Or.inl ((taken id).mpr member)) entry found

end Rebuild

/-! ### A planted forest -/

structure Planted (forest : RebuiltForest Target) : Prop extends forest.Allocated where
  declared : forest.Declared
  linked : forest.Linked forest.orderedNodes
  depths : ∀ id entry, forest.arena id = some entry → Forest.Distance forest.parentId id entry.depth

def Names (forest : RebuiltForest Target) (id : Nat) (target : Target) : Prop :=
  forest.targetOf id = some target

theorem alike [DecidableEq Target] (allocated : forest.Allocated) (declared : forest.Declared) :
    Forest.Alike forest.parentId (parentOf forest.nodes) forest.Names := by
  intro id target names
  obtain ⟨entry, found, rfl⟩ := targetOf_eq.mp names
  rw [parentOf_member allocated.distinct (allocated.entry_mem_nodes found)]
  unfold parentId
  rw [found, Option.bind_some]
  cases parented : entry.node.parent with
  | none => exact .none
  | some parent =>
    obtain ⟨parentId, looked⟩ := Option.isSome_iff_exists.mp (declared id parent (by rw [found, Option.bind_some, parented]))
    rw [Option.bind_some, looked]
    exact .some ((allocated.looked _ _).mp looked)

theorem planted_empty : Planted ({} : RebuiltForest Target) where
  ascending := List.Pairwise.nil
  held id := by simp
  looked target id := by simp [targetOf]
  declared id parent none := nomatch none
  linked := ⟨rfl, fun id none => nomatch none⟩
  depths id entry none := nomatch none

variable [DecidableEq Target] {nodes : List (TreeNode Target)}

theorem rebuild_planted (isForest : IsForest nodes) (nextNodeId : Nat) :
    (allocateNodes nodes nextNodeId {}).1.linkParentNodes.computeForestDepths.Planted ∧
      (allocateNodes nodes nextNodeId {}).1.linkParentNodes.computeForestDepths.nodes = nodes := by
  have start : Allocating ({} : RebuiltForest Target) nextNodeId :=
    { toAllocated := planted_empty.toAllocated
      below := fun id none => nomatch none
      bare := fun id entry none => nomatch none
      unrooted := rfl }
  obtain ⟨allocating, listed⟩ := @Allocating.allocateNodes Target {} _ nodes nextNodeId start isForest.distinct
  have declared : (allocateNodes nodes nextNodeId {}).1.Declared := by
    intro id parent parented
    obtain ⟨entry, found, names⟩ := Option.bind_eq_some_iff.mp parented
    rw [← allocating.mem_targets, listed]
    refine isForest.projected entry.node.target parent ⟨entry.node, ?_, rfl, names⟩
    have member := allocating.entry_mem_nodes found
    rw [listed] at member
    exact member
  obtain ⟨same, linked⟩ := linkParentNodes_spec allocating.toAllocated declared allocating.bare
    allocating.unrooted
  have allocated := same.allocated allocating.toAllocated
  have listed := same.nodes.trans listed
  have rooted : ∀ id ∈ (allocateNodes nodes nextNodeId {}).1.linkParentNodes.orderedNodes,
      ∃ d, Forest.Distance (allocateNodes nodes nextNodeId {}).1.linkParentNodes.parentId id d := by
    intro id member
    obtain ⟨entry, found⟩ := Option.isSome_iff_exists.mp ((allocated.held id).mp member)
    have names : Names _ id entry.node.target := targetOf_eq.mpr ⟨entry, found, rfl⟩
    have there : entry.node.target ∈ nodes.map (·.target) := by
      have member := allocated.entry_mem_nodes found
      rw [listed] at member
      exact mem_map_of_mem member
    obtain ⟨d, distance⟩ := isForest.distance there
    have alike := alike allocated (declared.of_same same)
    rw [listed] at alike
    exact ⟨d, distance.alike alike.swap names⟩
  rw [← same.ordered] at linked
  obtain ⟨deepened, depths⟩ := computeForestDepths_spec allocated linked rooted
  refine ⟨{ deepened.allocated allocated with
      declared := (declared.of_same same).of_same deepened.toSameNodes
      linked := ?_
      depths := ?_ }, deepened.nodes.trans listed⟩
  · rw [deepened.ordered]
    exact deepened.linked linked
  · intro id entry found
    have parents := funext deepened.parentId
    rw [parents]
    exact depths id entry found

end RebuiltForest

end Mbv.Surfaces
