import Mbv.Sequence.Forest
import Mbv.Surfaces.RowFlow
import Mbv.Text
import Mathlib.Data.Finset.Basic
import Mathlib.Data.Finset.Image
import Mathlib.Logic.Function.Basic

namespace Mbv.Surfaces

open Text

/-! ### Retained paint geometry -/

def u16Max : Nat := 2 ^ 16 - 1

structure Position where
  x : Nat
  y : Nat

structure Rect where
  x : Nat
  y : Nat
  width : Nat
  height : Nat
deriving DecidableEq

namespace Rect

variable (rect : Rect)

def right : Nat := min (rect.x + rect.width) u16Max

def bottom : Nat := min (rect.y + rect.height) u16Max

def contains (point : Position) : Bool :=
  rect.x ≤ point.x && point.x < rect.right && rect.y ≤ point.y && point.y < rect.bottom

end Rect

structure CompletedPaint (Target : Type*) where
  claimRect : Rect
  contentRect : Rect
  rows : List (Rect × Target)

structure PaintRetainedState (Target : Type*) where
  completed : Option (CompletedPaint Target) := none
  lastContentRect : Option Rect := none

namespace PaintRetainedState

variable {Target : Type*} (paint : PaintRetainedState Target)

def invalidate : PaintRetainedState Target := { paint with completed := none }

def storeCompleted (claimRect contentRect : Rect) (rows : List (Rect × Target)) :
    PaintRetainedState Target :=
  ⟨some ⟨claimRect, contentRect, rows⟩, some contentRect⟩

def resolvePoint (point : Position) : Option Target :=
  match paint.completed with
  | none => none
  | some completed =>
    if completed.claimRect.contains point then
      (completed.rows.find? fun row => row.1.contains point).map (·.2)
    else none

end PaintRetainedState

/-! ### What a destination projects -/

inductive TreeTitleRole where
  | heading
  | secondary
  | standard
deriving DecidableEq

inductive MediaSemanticState where
  | ordinary
  | played
  | active (progress : Option (Fin 101))
  | nowPlaying (progress : Option (Fin 101))
deriving DecidableEq

inductive TreeMarkPolicy where
  | direct
  | aggregate
  | excluded
deriving DecidableEq

structure TreeNode (Target : Type*) where
  target : Target
  parent : Option Target := none
  title : String := ""
  searchText : String := ""
  titleRole : TreeTitleRole := .standard
  trailing : Option String := none
  semanticState : MediaSemanticState := .ordinary
  markPolicy : TreeMarkPolicy := .direct
  expandable : Bool := false
deriving DecidableEq

inductive TreeEntry (Target : Type*) where
  | node (node : TreeNode Target)
  | heading (title : String)
  | spacer

def TreeEntry.asNode {Target : Type*} : TreeEntry Target → Option (TreeNode Target)
  | .node entry => some entry
  | .heading _ | .spacer => none

inductive TreeReconciliationError (Target : Type*) where
  | duplicateTarget (target : Target)
  | missingParent (target parent : Target)
  | selfParent (target : Target)
  | cycle (target : Target)
deriving DecidableEq

inductive StructuralRow where
  | heading (title : String)
  | spacer
deriving DecidableEq

inductive VisibleRow where
  | node (id : Nat)
  | structural (root index : Nat)
deriving DecidableEq

/-! ### The arena -/

structure ArenaNode (Target : Type*) where
  node : TreeNode Target
  children : List Nat := []
  depth : Nat := 0
  rootIndex : Nat := 0

/-- Nodes by private identifiers, allocated upwards and never used again. -/
structure RebuiltForest (Target : Type*) where
  arena : Nat → Option (ArenaNode Target) := fun _ => none
  targetToNode : Target → Option Nat := fun _ => none
  orderedNodes : List Nat := []
  roots : List Nat := []

structure TreeBrowser (Target : Type*) extends RebuiltForest Target where
  rootStructures : List (Target × List StructuralRow) := []
  nextNodeId : Nat := 0
  modelRevision : Nat := 0
  selected : Option Target := none
  expanded : Finset Target := ∅
  marks : MarkSelectionState Target := {}
  viewportOffset : Nat := 0
  viewportAnchor : ViewportAnchor := .followSelection
  configuredGeometry : Option (Rect × Rect) := none
  filterActive : Bool := false
  filterQuery : String := ""
  filterAnchor : Option Target := none
  filterMatches : Finset Nat := ∅
  paint : PaintRetainedState Target := {}
  focused : Bool := true

namespace RebuiltForest

variable {Target : Type*} (forest : RebuiltForest Target)

def childrenOf (id : Nat) : List Nat := (forest.arena id).elim [] (·.children)

def targetOf (id : Nat) : Option Target := (forest.arena id).map (·.node.target)

section Rebuild

variable [DecidableEq Target]

def allocateNode (id : Nat) (node : TreeNode Target) : RebuiltForest Target :=
  { forest with
    targetToNode := Function.update forest.targetToNode node.target (some id)
    orderedNodes := forest.orderedNodes ++ [id]
    arena := Function.update forest.arena id (some { node := node }) }

def allocateNodes : List (TreeNode Target) → Nat → RebuiltForest Target → RebuiltForest Target × Nat
  | [], nextNodeId, forest => (forest, nextNodeId)
  | node :: nodes, id, forest => allocateNodes nodes (id + 1) (forest.allocateNode id node)

def pushChild (parentId id : Nat) : RebuiltForest Target :=
  match forest.arena parentId with
  | none => forest
  | some parent =>
    { forest with
      arena := Function.update forest.arena parentId
        (some { parent with children := parent.children ++ [id] }) }

def parentId (id : Nat) : Option Nat :=
  (forest.arena id).bind fun entry => entry.node.parent.bind forest.targetToNode

def linkParentNode (id : Nat) : RebuiltForest Target :=
  match (forest.arena id).bind (·.node.parent) with
  | some parent =>
    match forest.targetToNode parent with
    | some parentId => forest.pushChild parentId id
    | none => forest
  | none => { forest with roots := forest.roots ++ [id] }

def linkParentNodes : RebuiltForest Target :=
  forest.orderedNodes.foldl linkParentNode forest

def writeDepth (id : Nat) (depth : Nat × Nat) : RebuiltForest Target :=
  match forest.arena id with
  | none => forest
  | some entry =>
    { forest with
      arena := Function.update forest.arena id
        (some { entry with depth := depth.1, rootIndex := depth.2 }) }

def depthSweep : List (Nat × (Nat × Nat)) :=
  Forest.sweep forest.childrenOf (fun depth => (depth.1 + 1, depth.2)) forest.orderedNodes.length
    ((forest.roots.zipIdx.map fun root => (root.1, (0, root.2))).reverse)

def computeForestDepths : RebuiltForest Target :=
  forest.depthSweep.foldl (fun forest taken => forest.writeDepth taken.1 taken.2) forest

end Rebuild

end RebuiltForest

/-! ### Validation -/

section Validate

variable {Target : Type*} [DecidableEq Target]

def firstDuplicate : List Target → List (TreeNode Target) → Option Target
  | _, [] => none
  | seen, node :: nodes =>
    if node.target ∈ seen then some node.target else firstDuplicate (node.target :: seen) nodes

def parentError (targets : List Target) (node : TreeNode Target) :
    Option (TreeReconciliationError Target) :=
  match node.parent with
  | none => none
  | some parent =>
    if parent = node.target then some (.selfParent node.target)
    else if parent ∈ targets then none
    else some (.missingParent node.target parent)

def parentOf (nodes : List (TreeNode Target)) (target : Target) : Option Target :=
  (nodes.find? fun node => node.target = target).bind (·.parent)

def cycleError (nodes : List (TreeNode Target)) (node : TreeNode Target) :
    Option (TreeReconciliationError Target) :=
  (Forest.closes (parentOf nodes) (nodes.length + 1) [] node.target).map .cycle

def validateForest (nodes : List (TreeNode Target)) : Except (TreeReconciliationError Target) Unit :=
  match firstDuplicate [] nodes with
  | some target => .error (.duplicateTarget target)
  | none =>
    match nodes.findSome? (parentError (nodes.map (·.target))) with
    | some error => .error error
    | none =>
      match nodes.findSome? (cycleError nodes) with
      | some error => .error error
      | none => .ok ()

end Validate

/-! ### The visible flow -/

namespace RebuiltForest

variable {Target : Type*} (forest : RebuiltForest Target) (target : Target)

def entryOf : Option (ArenaNode Target) := (forest.targetToNode target).bind forest.arena

def isExpandable : Bool :=
  (forest.entryOf target).any fun entry => entry.node.expandable || !entry.children.isEmpty

def isDirect : Bool := (forest.entryOf target).any fun entry => entry.node.markPolicy = .direct

end RebuiltForest

namespace TreeBrowser

variable {Target : Type*} (browser : TreeBrowser Target)

def viewportHeight : Option Nat :=
  (browser.configuredGeometry.map (·.2.height)).or (browser.paint.lastContentRect.map (·.height))

def filtering : Bool := browser.filterActive && !isBlank browser.filterQuery

def filterMatchesForQuery (fuzzyMatch : String → String → Option Int) : List Target :=
  if browser.filtering then
    ((browser.orderedNodes.filterMap browser.arena).filter fun entry =>
      (wordMatchScore fuzzyMatch entry.node.searchText browser.filterQuery).isSome).map
        (·.node.target)
  else browser.orderedNodes.filterMap browser.targetOf

def hasMatchingDescendant : Nat → Nat → Bool
  | 0, _ => false
  | fuel + 1, id =>
    (browser.arena id).any fun entry =>
      entry.children.any fun child =>
        child ∈ browser.filterMatches || hasMatchingDescendant fuel child

section Flow

variable [DecidableEq Target]

/-- `fuel` bounds how deep the recursion goes; the node count is enough for a forest. -/
def pushVisible : Nat → Nat → List Nat
  | 0, _ => []
  | fuel + 1, id =>
    match browser.arena id with
    | none => []
    | some entry =>
      let matched := decide (id ∈ browser.filterMatches)
      let descendantMatch :=
        browser.filtering && browser.hasMatchingDescendant browser.orderedNodes.length id
      if browser.filtering && !matched && !descendantMatch then []
      else
        id :: (if entry.node.target ∈ browser.expanded || descendantMatch then
          entry.children.flatMap (pushVisible fuel) else [])

def visibleNodeIds : List Nat :=
  browser.roots.flatMap (browser.pushVisible browser.orderedNodes.length)

def visibleTargets : List Target := browser.visibleNodeIds.filterMap browser.targetOf

def structuresOf (root : Nat) : List StructuralRow :=
  ((browser.targetOf root).bind fun target => browser.rootStructures.lookup target).getD []

def rootFlowRows (root : Nat) : List VisibleRow :=
  let nodes := browser.pushVisible browser.orderedNodes.length root
  if nodes.isEmpty then []
  else
    (browser.structuresOf root).zipIdx.map (fun row => .structural root row.2) ++ nodes.map .node

def visibleFlowRows : List VisibleRow := browser.roots.flatMap browser.rootFlowRows

def visibleLen : Nat := browser.visibleFlowRows.length

def flowRow : VisibleRow → Row Target
  | .node id =>
    match browser.targetOf id with
    | some target => .selectable target
    | none => .structural
  | .structural _ _ => .structural

def currentFlow : RowFlow Target := ⟨browser.visibleFlowRows.map browser.flowRow⟩

instance : Viewported (TreeBrowser Target) Target where
  selectedTarget browser := browser.selected
  setSelectedTarget target browser := { browser with selected := target }
  viewportOffset browser := browser.viewportOffset
  setViewportOffset offset browser := { browser with viewportOffset := offset }
  viewportAnchor browser := browser.viewportAnchor
  setViewportAnchor anchor browser := { browser with viewportAnchor := anchor }
  raiseOverLeadingStructuralRows := false

def keepSelected : TreeBrowser Target :=
  if (Cursored.index browser.currentFlow browser).isNone then
    (Cursored.first browser.currentFlow browser).2
  else browser

def reconcileSelectionWithHeight (height : Option Nat) : TreeBrowser Target :=
  match height with
  | none => browser.keepSelected
  | some height => Viewported.reconcileViewport browser.currentFlow height browser.keepSelected

def reconcileSelection : TreeBrowser Target :=
  browser.reconcileSelectionWithHeight browser.viewportHeight

end Flow

def invalidatePaint : TreeBrowser Target := { browser with paint := browser.paint.invalidate }

/-! ### Reconciliation -/

def projectNodes (entries : List (TreeEntry Target)) : List (TreeNode Target) :=
  entries.filterMap TreeEntry.asNode

def projectRootStructures :
    List (TreeEntry Target) → List StructuralRow → List (Target × List StructuralRow)
  | [], _ => []
  | .heading title :: entries, pending => projectRootStructures entries (pending ++ [.heading title])
  | .spacer :: entries, pending => projectRootStructures entries (pending ++ [.spacer])
  | .node node :: entries, pending =>
    if node.parent.isNone && !pending.isEmpty then
      (node.target, pending) :: projectRootStructures entries []
    else projectRootStructures entries pending

variable [DecidableEq Target]

def sameStructures (one other : List (Target × List StructuralRow)) : Bool :=
  (one ++ other).all fun row => one.lookup row.1 = other.lookup row.1

def contentChanged (nodes : List (TreeNode Target))
    (rootStructures : List (Target × List StructuralRow)) : Bool :=
  browser.orderedNodes.length ≠ nodes.length ||
    !sameStructures browser.rootStructures rootStructures ||
    (browser.orderedNodes.zip nodes).any fun pair =>
      (browser.arena pair.1).all fun entry => entry.node ≠ pair.2

def rebuildForest (nodes : List (TreeNode Target)) : RebuiltForest Target × Nat :=
  let allocated := RebuiltForest.allocateNodes nodes browser.nextNodeId {}
  (allocated.1.linkParentNodes.computeForestDepths, allocated.2)

structure ReconciledSelection (Target : Type*) where
  selected : Option Target
  expanded : Finset Target
  marks : MarkSelectionState Target

def reconcileProjectedSelection (forest : RebuiltForest Target) : ReconciledSelection Target where
  selected :=
    (browser.selected.filter fun target => (forest.targetToNode target).isSome).or
      (forest.orderedNodes.head?.bind forest.targetOf)
  expanded := browser.expanded.filter fun target => forest.isExpandable target
  marks := browser.marks.retain forest.isDirect

def replaceForest (rootStructures : List (Target × List StructuralRow))
    (forest : RebuiltForest Target) (nextNodeId : Nat) : TreeBrowser Target :=
  let selection := browser.reconcileProjectedSelection forest
  { browser with
    toRebuiltForest := forest
    rootStructures := rootStructures
    nextNodeId := nextNodeId
    modelRevision := min (browser.modelRevision + 1) (2 ^ 64 - 1)
    selected := selection.selected
    expanded := selection.expanded
    marks := selection.marks }

def clampOffset : TreeBrowser Target :=
  { browser with viewportOffset := min browser.viewportOffset (browser.visibleLen - 1) }

def refreshFilterMatches (fuzzyMatch : String → String → Option Int) : TreeBrowser Target :=
  { browser with
    filterMatches :=
      ((browser.filterMatchesForQuery fuzzyMatch).filterMap browser.targetToNode).toFinset }

def commitReconciliation (fuzzyMatch : String → String → Option Int)
    (rootStructures : List (Target × List StructuralRow)) (forest : RebuiltForest Target)
    (nextNodeId : Nat) : TreeBrowser Target :=
  let replaced := (browser.replaceForest rootStructures forest nextNodeId).clampOffset
  ((replaced.refreshFilterMatches fuzzyMatch).invalidatePaint).reconcileSelection

/-- Replace the projected forest: a rejected projection changes nothing. -/
def reconcile (fuzzyMatch : String → String → Option Int) (entries : List (TreeEntry Target)) :
    TreeBrowser Target × Except (TreeReconciliationError Target) Unit :=
  let nodes := projectNodes entries
  match validateForest nodes with
  | .error error => (browser, .error error)
  | .ok () =>
    let rootStructures := projectRootStructures entries []
    if browser.contentChanged nodes rootStructures then
      let rebuilt := browser.rebuildForest nodes
      (browser.commitReconciliation fuzzyMatch rootStructures rebuilt.1 rebuilt.2, .ok ())
    else (browser, .ok ())

end TreeBrowser

end Mbv.Surfaces
