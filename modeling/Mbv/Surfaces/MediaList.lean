import Mbv.Machine.Run
import Mbv.Surfaces.Key
import Mbv.Surfaces.RowFlow

namespace Mbv.Surfaces

inductive MediaListRow (Target : Type*) where
  | item (target : Target) (primary : String)
  | heading (text : String)
  | spacer

def MediaListRow.selectableTarget {Target : Type*} : MediaListRow Target → Option Target
  | item target _ => some target
  | heading _ | spacer => none

structure MediaList (Target : Type*) where
  rows : List (MediaListRow Target) := []
  selectable : List Nat := []
  cursor : Nat := 0
  scroll : Nat := 0
  multiSelection : MarkSelectionState Target := {}
  selectionAnchor : Option Target := none
  frozenSelection : List Target := []
  liveRange : Bool := false
  viewportAnchor : ViewportAnchor := .followSelection

inductive MediaListOperation (Target : Type*) where
  | move (delta : Int)
  | page (delta : Int)
  | scroll (delta : Int)
  | first
  | last
  | activateCurrent
  | contextCurrent
  | select (target : Target)
  | toggle (target : Target)
  | range (target : Target)
  | activate (target : Target)
  | context (target : Target)

inductive RowIntent (Target : Type*) where
  | activate (target : Target)
  | context (target : Target)
  | contextSelection (targets : List Target)

inductive MediaListDisposition where
  | unhandled
  | consumed

structure MediaListTransition (Target : Type*) where
  disposition : MediaListDisposition
  selectedTarget : Option Target
  selectionCount : Option Nat
  externalIntent : Option (RowIntent Target)

structure VisualKeyOutcome where
  selected : Nat
  marksReplaced : Bool

def pageDistance : Int := 5

namespace MediaList

variable {Target : Type*} (list : MediaList Target)

/-- The selectable target of the display row at `row`. -/
def targetOfRow (row : Nat) : Option Target := list.rows[row]?.bind MediaListRow.selectableTarget

def selectedTarget : Option Target := list.selectable[list.cursor]?.bind list.targetOfRow

def selectableTargets : List Target := list.selectable.filterMap list.targetOfRow

def isVisualMode : Bool := !list.multiSelection.isEmpty

def setScroll (offset : Nat) : MediaList Target :=
  { list with scroll := min offset (list.rows.length - 1) }

def rowFlow : RowFlow Target :=
  ⟨list.rows.map fun row =>
    match row.selectableTarget with
    | some target => .selectable target
    | none => .structural⟩

def resetPresentation : MediaList Target :=
  { list with
    cursor := 0
    scroll := 0
    multiSelection := {}
    frozenSelection := []
    selectionAnchor := none
    liveRange := false }

def clearSelection : MediaList Target :=
  { list with
    multiSelection := {}
    frozenSelection := []
    selectionAnchor := none
    liveRange := false }

def selectAll : MediaList Target :=
  { list with
    selectionAnchor := list.selectedTarget
    multiSelection := ⟨list.selectableTargets⟩
    frozenSelection := list.selectableTargets
    liveRange := false }

variable [DecidableEq Target]

def positionOf (target : Target) : Option Nat :=
  list.selectable.findIdx? fun row => list.targetOfRow row = some target

def selectTarget (target : Target) : MediaList Target :=
  match list.positionOf target with
  | some index => { list with cursor := index }
  | none => list

instance : Viewported (MediaList Target) Target where
  selectedTarget := selectedTarget
  setSelectedTarget target list :=
    match target with
    | some target => list.selectTarget target
    | none => list
  viewportOffset list := list.scroll
  setViewportOffset offset list := list.setScroll offset
  viewportAnchor list := list.viewportAnchor
  setViewportAnchor anchor list := { list with viewportAnchor := anchor }
  raiseOverLeadingStructuralRows := true

def moveSelection (delta : Int) : MediaList Target :=
  (Cursored.moveBy list.rowFlow list delta).2

def startMarks : MediaList Target :=
  match list.selectedTarget with
  | some cursor =>
    if list.multiSelection.isEmpty then
      { list with
        multiSelection := list.multiSelection.add cursor
        selectionAnchor := some cursor }
    else list
  | none => list

def toggleMark (wasEmpty : Bool) (target : Target) : MediaList Target :=
  if list.multiSelection.contains target then
    if wasEmpty then list
    else { list with multiSelection := list.multiSelection.remove target }
  else if (list.positionOf target).isSome then
    { list with multiSelection := list.multiSelection.add target }
  else list

def freezeMarks (target : Target) : MediaList Target :=
  let anchored :=
    if list.multiSelection.isEmpty then list.clearSelection
    else { list with selectionAnchor := list.selectionAnchor.or (some target) }
  { anchored with frozenSelection := anchored.multiSelection.marked, liveRange := false }

def toggleSelection (target : Target) : MediaList Target :=
  (list.startMarks.toggleMark list.multiSelection.isEmpty target).freezeMarks target

/-- The anchored range to `target`, with the frozen selection. -/
def extendSelectionTo (target : Target) : MediaList Target :=
  match list.positionOf target with
  | none => list
  | some finish =>
    let anchor := (list.selectionAnchor.or list.selectedTarget).getD target
    match list.positionOf anchor with
    | none => { list with selectionAnchor := some target, multiSelection := ⟨[target]⟩ }
    | some start =>
      let selected := list.selectable.zipIdx.filterMap fun row =>
        (list.targetOfRow row.1).filter fun candidate =>
          list.frozenSelection.contains candidate ||
            (min start finish ≤ row.2 && row.2 ≤ max start finish)
      { list with multiSelection := ⟨selected⟩, selectionAnchor := some anchor }

def contextIntent (target : Target) : RowIntent Target × MediaList Target :=
  if list.isVisualMode then
    if list.multiSelection.contains target then
      (.contextSelection (list.rowFlow.targets.filter list.multiSelection.contains), list)
    else (.context target, list.clearSelection)
  else (.context target, list)

def enterVisualMode : MediaList Target :=
  match list.selectedTarget with
  | none => list
  | some target =>
    let frozen :=
      if list.multiSelection.isEmpty then
        { list with multiSelection := list.multiSelection.add target, frozenSelection := [] }
      else { list with frozenSelection := list.multiSelection.marked }
    { frozen with selectionAnchor := some target, liveRange := true }

def patchRow (target : Target) (row : MediaListRow Target) : MediaList Target :=
  match list.rows.findIdx? fun existing => existing.selectableTarget = some target with
  | none => list
  | some index => { list with rows := list.rows.set index row }

def selectableIndices (rows : List (MediaListRow Target)) : List Nat :=
  (List.range rows.length).filter fun row => (rows[row]?.bind MediaListRow.selectableTarget).isSome

def indexRows (rows : List (MediaListRow Target)) : MediaList Target :=
  { list with rows := rows, selectable := selectableIndices rows }

def placeCursor (previous : Option Target) : MediaList Target :=
  match previous with
  | some target => (Cursored.selectTarget list.rowFlow list target).2
  | none => { list with cursor := min list.cursor (list.selectable.length - 1) }

def clampCursor : MediaList Target :=
  if list.selectable.isEmpty then { list with cursor := 0 } else list

def installRows (rows : List (MediaListRow Target)) : MediaList Target :=
  ((list.indexRows rows).placeCursor list.selectedTarget).clampCursor

/-- The marks, the frozen selection and the anchor that are still there. -/
def pruneSelection : MediaList Target :=
  let present := list.selectableTargets
  let retained :=
    { list with
      multiSelection := list.multiSelection.retain present.contains
      frozenSelection := list.frozenSelection.filter present.contains
      selectionAnchor :=
        if list.selectionAnchor.any fun target => !present.contains target then list.selectedTarget
        else list.selectionAnchor }
  if retained.multiSelection.isEmpty then
    { retained with frozenSelection := [], selectionAnchor := none, liveRange := false }
  else retained

def setContent (rows : List (MediaListRow Target)) : MediaList Target :=
  let pruned := (list.installRows rows).pruneSelection
  Viewported.clampViewport pruned.rowFlow 1 pruned

def scrollWheel (delta : Int) (viewportLen : Nat) : MediaList Target :=
  { list.setScroll (scrolledViewportOffset list.scroll delta list.rows.length viewportLen) with
    viewportAnchor := .free }

def outcome (marksReplaced : Bool) : VisualKeyOutcome :=
  ⟨list.multiSelection.marked.length, marksReplaced⟩

def handleVisualKey (key : KeyEvent) : Option VisualKeyOutcome × MediaList Target :=
  if key.code = .char 'a' && key.modifiers.control then
    (some (list.selectAll.outcome true), list.selectAll)
  else if (key.code = .char 'v' || key.code = .char 'V') && key.modifiers = { shift := true } then
    (some (list.enterVisualMode.outcome true), list.enterVisualMode)
  else if !list.isVisualMode || !key.modifiers.isEmpty then (none, list)
  else
    match key.code with
    | .esc => (some (list.clearSelection.outcome false), list.clearSelection)
    | .char ' ' =>
      match list.selectedTarget with
      | none => (none, list)
      | some target =>
        (some ((list.toggleSelection target).outcome false), list.toggleSelection target)
    | _ => (none, list)

def reAnchorSelectionFollowing (operation : MediaListOperation Target) : MediaList Target :=
  match operation with
  | .scroll _ | .context _ => list
  | _ => { list with viewportAnchor := .followSelection }

def applyOperation (operation : MediaListOperation Target) (viewportLen : Nat) :
    Option (RowIntent Target) × MediaList Target :=
  match operation with
  | .move delta => (none, list.moveSelection delta)
  | .page delta => (none, list.moveSelection (clampI64 (delta * pageDistance)))
  | .scroll delta => (none, list.scrollWheel delta viewportLen)
  | .first => (none, (Cursored.first list.rowFlow list).2)
  | .last => (none, (Cursored.last list.rowFlow list).2)
  | .activateCurrent => (list.selectedTarget.map .activate, list)
  | .contextCurrent =>
    match list.selectedTarget with
    | none => (none, list)
    | some target => (some (list.contextIntent target).1, (list.contextIntent target).2)
  | .select target => (none, list.clearSelection.selectTarget target)
  | .toggle target => (none, (list.toggleSelection target).selectTarget target)
  | .range target => (none, (list.extendSelectionTo target).selectTarget target)
  | .activate target => (some (.activate target), list.selectTarget target)
  | .context target => (some (list.contextIntent target).1, (list.contextIntent target).2)

def MediaListOperation.extendsRange : MediaListOperation Target → Bool
  | .move _ | .page _ | .first | .last => true
  | _ => false

def delegateOperationWithViewportLen (operation : MediaListOperation Target) (viewportLen : Nat) :
    MediaListTransition Target × MediaList Target :=
  let (externalIntent, applied) :=
    (list.reAnchorSelectionFollowing operation).applyOperation operation viewportLen
  let next :=
    match applied.selectedTarget with
    | some target =>
      if MediaListOperation.extendsRange operation && applied.liveRange then
        applied.extendSelectionTo target
      else applied
    | none => applied
  let before := list.selectedTarget
  let after := next.selectedTarget
  let counted := list.multiSelection.marked.length ≠ next.multiSelection.marked.length
  let disposition :=
    match operation with
    | .scroll _ => if next.scroll = list.scroll then .unhandled else .consumed
    | _ =>
      if before.isSome || after.isSome || externalIntent.isSome || counted then .consumed
      else .unhandled
  ({ disposition := disposition
     selectedTarget := if before ≠ after then after else none
     selectionCount := if counted then some next.multiSelection.marked.length else none
     externalIntent := externalIntent }, next)

end MediaList

/-- What is done to a list. A replacement brings distinct selectable targets, and a patch keeps the
    one it patches. -/
inductive MediaListInput (Target : Type*) where
  | setContent (rows : List (MediaListRow Target))
      (distinct : (rows.filterMap MediaListRow.selectableTarget).Nodup)
  | patchRow (target : Target) (row : MediaListRow Target)
      (same : row.selectableTarget = some target)
  | operation (operation : MediaListOperation Target) (viewportLen : Nat)
  | visualKey (key : KeyEvent)
  | selectAll
  | enterVisualMode
  | clearSelection
  | setScroll (offset : Nat)
  | resetPresentation

namespace MediaList

variable {Target : Type*} [DecidableEq Target]

def step (list : MediaList Target) : MediaListInput Target → MediaList Target
  | .setContent rows _ => list.setContent rows
  | .patchRow target row _ => list.patchRow target row
  | .operation operation viewportLen =>
    (list.delegateOperationWithViewportLen operation viewportLen).2
  | .visualKey key => (list.handleVisualKey key).2
  | .selectAll => list.selectAll
  | .enterVisualMode => list.enterVisualMode
  | .clearSelection => list.clearSelection
  | .setScroll offset => list.setScroll offset
  | .resetPresentation => list.resetPresentation

def machine : Machine (MediaList Target) (MediaListInput Target) := ⟨step⟩

end MediaList

end Mbv.Surfaces
