import Mbv.Machine.Run
import Mbv.Surfaces.TreeBrowser

namespace Mbv.Surfaces

inductive TreeConsumed where
  | unhandled
  | consumed

inductive TreeExternalIntent (Target : Type*) where
  | activate (target : Target)
  | context (target : Target)
  | contextSelection (targets : List Target)

structure TreeSelectionChange (Target : Type*) where
  previous : Option Target
  current : Option Target

structure TreeMarkSummary where
  markedCount : Nat
  hasPartialAggregate : Bool
deriving DecidableEq

inductive TreeOperation (Target : Type*) where
  | move (delta : Int)
  | page (direction : Int)
  | scroll (delta : Int)
  | first
  | last
  | parent
  | right
  | toggleExpansion
  | toggleExpansionTarget (target : Target)
  | anchorSelection (target : Target) (flowOffset : Nat)
  | select (target : Target)
  | pointerToggleMark (point : Position)
  | activate
  | context
  | editFilter (query : String)
  | clearFilter
  | clearMarks

structure TreeTransition (Target : Type*) where
  disposition : TreeConsumed
  selectedTarget : Option Target
  selectedTargetChange : Option (TreeSelectionChange Target)
  markSummary : Option TreeMarkSummary
  markSummaryChange : Option TreeMarkSummary
  externalIntent : Option (TreeExternalIntent Target)

inductive AggregateMarkState where
  | unmarked
  | partly
  | marked
deriving DecidableEq

def TreeOperation.reAnchors {Target : Type*} : TreeOperation Target → Bool
  | .scroll _ | .toggleExpansionTarget _ | .editFilter _ | .clearFilter | .clearMarks => false
  | _ => true

def RebuiltForest.ancestorsOf {Target : Type*} (forest : RebuiltForest Target) :
    Nat → Nat → List Target
  | 0, _ => []
  | fuel + 1, id =>
    match (forest.arena id).bind (·.node.parent) with
    | none => []
    | some parent =>
      match forest.targetToNode parent with
      | none => [parent]
      | some parentId => parent :: ancestorsOf forest fuel parentId

namespace TreeBrowser

variable {Target : Type*} [DecidableEq Target] (browser : TreeBrowser Target)

/-! ### Expansion -/

def setExpanded (target : Target) (expanded : Bool) : TreeBrowser Target :=
  if (browser.targetToNode target).isNone then browser
  else if expanded then { browser with expanded := insert target browser.expanded }
  else { browser with expanded := browser.expanded.erase target }

def toggleExpanded (target : Target) : TreeBrowser Target :=
  browser.setExpanded target (target ∉ browser.expanded)

def applyToggleExpansion (target : Target) : TreeBrowser Target × TreeConsumed :=
  if browser.isExpandable target then
    ((browser.toggleExpanded target).reconcileSelection, .consumed)
  else (browser, .unhandled)

def isRoot (target : Target) : Bool :=
  (browser.entryOf target).any fun entry => entry.node.parent.isNone

def applyRight : TreeBrowser Target × TreeConsumed × Option (TreeExternalIntent Target) :=
  match browser.selected with
  | none => (browser, .unhandled, none)
  | some target =>
    if !browser.isExpandable target then (browser, .unhandled, none)
    else if target ∈ browser.expanded then
      (browser, .consumed, if browser.isRoot target then some (.activate target) else none)
    else ((browser.toggleExpanded target).reconcileSelection, .consumed, none)

/-! ### Selection -/

def selectParent (flow : RowFlow Target) : TreeBrowser Target :=
  match ((browser.selected.bind browser.entryOf).bind (·.node.parent)).bind flow.positionOf with
  | none => browser
  | some position => { browser with selected := flow.targetAt position }

/-- The rows of the whole settled order, whatever is expanded. -/
def settledRows : List VisibleRow :=
  browser.roots.flatMap fun root =>
    (browser.structuresOf root).zipIdx.map (fun row => .structural root row.2) ++
      (Forest.sweep browser.childrenOf id browser.orderedNodes.length [(root, ())]).map
        fun taken => .node taken.1

def visibleRowForFlowOffset (offset : Nat) : Option Nat :=
  (browser.settledRows.drop offset).findSome? fun row => browser.visibleFlowRows.findIdx? (· = row)

def anchoredTarget (target : Target) (id : Nat) : Target :=
  ((browser.ancestorsOf browser.orderedNodes.length id).reverse.find? (· ∉ browser.expanded)).getD
    target

def selectAnchored (target : Target) (id : Nat) : TreeBrowser Target :=
  { browser with selected := some (browser.anchoredTarget target id) }

def anchorSelectionTo (target : Target) (flowOffset : Nat) : TreeBrowser Target × Bool :=
  match browser.targetToNode target with
  | none => (browser, false)
  | some id =>
    let selected := browser.selectAnchored target id
    match selected.visibleRowForFlowOffset flowOffset with
    | none => (selected.invalidatePaint, true)
    | some row => ({ selected with viewportOffset := row }.invalidatePaint, true)

def reveal (target : Target) : TreeBrowser Target :=
  match browser.targetToNode target with
  | none => browser
  | some id =>
    { browser with
      expanded := (browser.ancestorsOf browser.orderedNodes.length id).toFinset ∪ browser.expanded }

/-! ### Marks -/

def shownUnderFilter (id : Nat) : Bool :=
  !browser.filtering || id ∈ browser.filterMatches ||
    browser.hasMatchingDescendant browser.orderedNodes.length id

/-- A stack loop over what is below `id`; the last child is on top. -/
def visibleDescendants (id : Nat) : List Nat :=
  ((Forest.sweep (fun child => (browser.childrenOf child).reverse) (fun (depth : Unit) => depth)
    browser.orderedNodes.length ((browser.childrenOf id).reverse.map (·, ()))).map
      (·.1)).filter browser.shownUnderFilter

/-- The directly markable targets shown below `id`. -/
def directDescendants (id : Nat) : List Target :=
  (((browser.visibleDescendants id).filterMap browser.arena).filter fun entry =>
    entry.node.markPolicy = .direct).map (·.node.target)

def aggregateMarkStateFor (target : Target) : AggregateMarkState :=
  match browser.targetToNode target with
  | none => .unmarked
  | some id =>
    let direct := browser.directDescendants id
    let marked := (direct.filter browser.marks.contains).length
    if marked = 0 then .unmarked else if marked = direct.length then .marked else .partly

def toggleMark (target : Target) : TreeBrowser Target :=
  { browser with
    marks :=
      if browser.marks.contains target then browser.marks.remove target
      else browser.marks.add target }

def toggleMarks (targets : List Target) : TreeBrowser Target :=
  { browser with
    marks :=
      if targets.all browser.marks.contains then
        targets.foldl (fun marks target => marks.remove target) browser.marks
      else targets.foldl (fun marks target => marks.add target) browser.marks }

def toggleMarkTarget (target : Target) : TreeBrowser Target × Bool :=
  match browser.targetToNode target with
  | none => (browser, false)
  | some id =>
    match (browser.arena id).map (·.node.markPolicy) with
    | none | some TreeMarkPolicy.excluded => (browser, false)
    | some TreeMarkPolicy.direct => (browser.toggleMark target, true)
    | some TreeMarkPolicy.aggregate =>
      let targets := browser.directDescendants id
      if targets.isEmpty then (browser, false) else (browser.toggleMarks targets, true)

def applyPointerToggleMark (point : Position) : TreeBrowser Target × Bool :=
  match browser.paint.resolvePoint point with
  | none => (browser, false)
  | some target =>
    ((({ browser with selected := some target } : TreeBrowser Target).toggleMarkTarget
      target).1.reconcileSelection, true)

def visibleEntries : List (ArenaNode Target) := browser.visibleNodeIds.filterMap browser.arena

def actionTargets : List Target :=
  (browser.visibleEntries.filter fun entry => browser.marks.contains entry.node.target).map
    (·.node.target)

def selectedSummary : TreeMarkSummary where
  markedCount :=
    (browser.visibleEntries.filter fun entry => browser.marks.contains entry.node.target).length
  hasPartialAggregate :=
    browser.visibleEntries.any fun entry =>
      entry.node.markPolicy = .aggregate && browser.aggregateMarkStateFor entry.node.target = .partly

def applyActivate : TreeConsumed × Option (TreeExternalIntent Target) :=
  match browser.selected with
  | none => (.unhandled, none)
  | some target => (.consumed, some (.activate target))

def applyContext : TreeConsumed × Option (TreeExternalIntent Target) :=
  match browser.selected with
  | none => (.unhandled, none)
  | some target =>
    if browser.actionTargets.isEmpty then (.consumed, some (.context target))
    else (.consumed, some (.contextSelection browser.actionTargets))

/-! ### The filter -/

def openFilter : TreeBrowser Target :=
  if browser.filterActive then browser
  else { browser with filterAnchor := browser.selected, filterActive := true }

def filterEdit (fuzzyMatch : String → String → Option Int) (query : String) : TreeBrowser Target :=
  let edited := { browser.openFilter with filterQuery := query }
  (edited.refreshFilterMatches fuzzyMatch).reconcileSelection.invalidatePaint

def closeFilter : TreeBrowser Target :=
  { browser with
    filterAnchor := none
    filterActive := false
    filterQuery := ""
    filterMatches := ∅
    selected := browser.filterAnchor.filter fun target => (browser.targetToNode target).isSome }

def clearFilter : TreeBrowser Target := browser.closeFilter.reconcileSelection.invalidatePaint

/-! ### The operations -/

def applyWheelScroll (delta : Int) : TreeBrowser Target × Bool :=
  let offset := scrolledViewportOffset browser.viewportOffset delta browser.visibleLen
    (browser.viewportHeight.getD 1)
  ({ browser with viewportOffset := offset, viewportAnchor := .free },
    browser.viewportOffset ≠ offset)

def reAnchorFollowing (operation : TreeOperation Target) : TreeBrowser Target :=
  if operation.reAnchors then { browser with viewportAnchor := .followSelection } else browser

def dispositionOf (handled : Bool) : TreeConsumed := if handled then .consumed else .unhandled

/-- One operation against the flow it was resolved in; no answer where it is refused. -/
def operate (fuzzyMatch : String → String → Option Int) (flow : RowFlow Target) :
    TreeOperation Target →
      TreeBrowser Target × Option (TreeConsumed × Option (TreeExternalIntent Target))
  | .move delta =>
    ((Cursored.moveBy flow browser delta).2.reconcileSelection, some (.consumed, none))
  | .page direction =>
    match browser.viewportHeight with
    | none => (browser, none)
    | some height => (Viewported.page flow height browser direction, some (.consumed, none))
  | .first => ((Cursored.first flow browser).2.reconcileSelection, some (.consumed, none))
  | .last => ((Cursored.last flow browser).2.reconcileSelection, some (.consumed, none))
  | .parent => ((browser.selectParent flow).reconcileSelection, some (.consumed, none))
  | .scroll delta =>
    let scrolled := browser.applyWheelScroll delta
    (scrolled.1, if scrolled.2 then some (.consumed, none) else none)
  | .right => (browser.applyRight.1, some browser.applyRight.2)
  | .toggleExpansion =>
    match browser.selected with
    | none => (browser, some (.unhandled, none))
    | some target =>
      ((browser.applyToggleExpansion target).1, some ((browser.applyToggleExpansion target).2, none))
  | .toggleExpansionTarget target =>
    ((browser.applyToggleExpansion target).1, some ((browser.applyToggleExpansion target).2, none))
  | .anchorSelection target flowOffset =>
    let anchored := browser.anchorSelectionTo target flowOffset
    (anchored.1, some (dispositionOf anchored.2, none))
  | .select target =>
    let selected := Cursored.selectTarget flow browser target
    (selected.2.reconcileSelection, some (dispositionOf selected.1, none))
  | .pointerToggleMark point =>
    let toggled := browser.applyPointerToggleMark point
    (toggled.1, if toggled.2 then some (.consumed, none) else none)
  | .activate => (browser, some browser.applyActivate)
  | .context => (browser, some browser.applyContext)
  | .editFilter query => (browser.filterEdit fuzzyMatch query, some (.consumed, none))
  | .clearFilter => (browser.clearFilter, some (.consumed, none))
  | .clearMarks => ({ browser with marks := {} }, some (.consumed, none))

def applyOperation (fuzzyMatch : String → String → Option Int) (flow : RowFlow Target)
    (operation : TreeOperation Target) :
    TreeBrowser Target × Option (TreeConsumed × Option (TreeExternalIntent Target)) :=
  (browser.reAnchorFollowing operation).operate fuzzyMatch flow operation

def transition (previous : Option Target) (previousMarks : TreeMarkSummary)
    (disposition : TreeConsumed) (externalIntent : Option (TreeExternalIntent Target)) :
    TreeTransition Target where
  disposition := disposition
  selectedTarget := browser.selected
  selectedTargetChange :=
    if previous = browser.selected then none else some ⟨previous, browser.selected⟩
  markSummary := some browser.selectedSummary
  markSummaryChange :=
    if previousMarks = browser.selectedSummary then none else some browser.selectedSummary
  externalIntent := externalIntent

def apply (fuzzyMatch : String → String → Option Int) (operation : TreeOperation Target) :
    TreeBrowser Target × TreeTransition Target :=
  match operation with
  | .scroll delta =>
    let scrolled := browser.applyWheelScroll delta
    let after := scrolled.1.invalidatePaint
    (after, after.transition browser.selected browser.selectedSummary (dispositionOf scrolled.2) none)
  | operation =>
    let applied := browser.applyOperation fuzzyMatch browser.currentFlow operation
    match applied.2 with
    | none =>
      (applied.1, applied.1.transition browser.selected browser.selectedSummary .unhandled none)
    | some (disposition, externalIntent) =>
      let after := applied.1.invalidatePaint
      (after, after.transition browser.selected browser.selectedSummary disposition externalIntent)

/-! ### What else a caller does to a browser -/

def setGeometry (claimRect contentRect : Rect) : TreeBrowser Target :=
  let configured :=
    if browser.configuredGeometry = some (claimRect, contentRect) then browser
    else
      ({ browser with configuredGeometry := some (claimRect, contentRect) } :
        TreeBrowser Target).reconcileSelection
  configured.invalidatePaint

def clearPresentation : TreeBrowser Target :=
  { browser with
    marks := {}
    filterActive := false
    filterQuery := ""
    filterAnchor := none
    filterMatches := ∅
    expanded := ∅
    selected := none
    viewportOffset := 0 }

def resetPresentation : TreeBrowser Target :=
  browser.clearPresentation.reconcileSelection.invalidatePaint

def clampViewportTo (viewportHeight : Nat) : TreeBrowser Target :=
  ({ browser with
    viewportOffset := min browser.viewportOffset (browser.visibleLen - viewportHeight) } :
      TreeBrowser Target).invalidatePaint

def retainedRow (claimRect contentRect : Rect) (row : VisibleRow) (index : Nat) :
    Option (Rect × Target) :=
  match row with
  | .structural _ _ => none
  | .node id =>
    let y := contentRect.y + min index u16Max
    if u16Max < y || contentRect.bottom ≤ y then none
    else
      (browser.targetOf id).map fun target =>
        let fullWidth :=
          (browser.focused && decide (browser.selected = some target)) ||
            browser.marks.contains target
        let rect := if fullWidth then claimRect else contentRect
        (⟨rect.x, y, rect.width, 1⟩, target)

def retainedRows (claimRect contentRect : Rect) : List (Rect × Target) :=
  (browser.visibleFlowRows.drop browser.viewportOffset).zipIdx.filterMap fun row =>
    browser.retainedRow claimRect contentRect row.1 row.2

/-- A frame reconciles the selection against its own height, then retains the rows it painted. -/
def view (area : Rect) : TreeBrowser Target :=
  let geometry := browser.configuredGeometry.getD (area, area)
  let reconciled := browser.reconcileSelectionWithHeight (some geometry.2.height)
  { reconciled with
    paint := .storeCompleted geometry.1 geometry.2
      (reconciled.retainedRows geometry.1 geometry.2) }

end TreeBrowser

inductive TreeInput (Target : Type*) where
  | reconcile (entries : List (TreeEntry Target))
  | apply (operation : TreeOperation Target)
  | reveal (target : Target)
  | setGeometry (claimRect contentRect : Rect)
  | resetPresentation
  | clampViewportTo (viewportHeight : Nat)
  | setPaintFocus (focused : Bool)
  | invalidatePaint
  | view (area : Rect)

namespace TreeBrowser

variable {Target : Type*} [DecidableEq Target] (browser : TreeBrowser Target)

def step (fuzzyMatch : String → String → Option Int) : TreeInput Target → TreeBrowser Target
  | .reconcile entries => (browser.reconcile fuzzyMatch entries).1
  | .apply operation => (browser.apply fuzzyMatch operation).1
  | .reveal target => browser.reveal target
  | .setGeometry claimRect contentRect => browser.setGeometry claimRect contentRect
  | .resetPresentation => browser.resetPresentation
  | .clampViewportTo viewportHeight => browser.clampViewportTo viewportHeight
  | .setPaintFocus focused => { browser with focused := focused }
  | .invalidatePaint => browser.invalidatePaint
  | .view area => browser.view area

def machine (fuzzyMatch : String → String → Option Int) :
    Machine (TreeBrowser Target) (TreeInput Target) :=
  ⟨fun browser input => browser.step fuzzyMatch input⟩

end TreeBrowser

end Mbv.Surfaces
