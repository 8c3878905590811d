import Mathlib.Algebra.Group.Int.Defs
import Mathlib.Algebra.Group.Nat.Defs
import Mathlib.Data.List.Lemmas
import Mathlib.Data.List.Nodup
import Mathlib.Data.List.GetD

namespace Mbv.Surfaces

open List

inductive Row (Target : Type*) where
  | selectable (target : Target)
  | structural

def Row.target {Target : Type*} : Row Target → Option Target
  | selectable target => some target
  | structural => none

@[simp] theorem Row.target_selectable {Target : Type*} (target : Target) : (Row.selectable target).target = some target := rfl

@[simp] theorem Row.target_structural {Target : Type*} : (Row.structural : Row Target).target = none := rfl

structure RowFlow (Target : Type*) where
  rows : List (Row Target)

namespace RowFlow

variable {Target : Type*} (flow : RowFlow Target)

def len : Nat := flow.rows.length

def rowAt (position : Nat) : Option (Row Target) := flow.rows[position]?

def targetAt (position : Nat) : Option Target := (flow.rowAt position).bind Row.target

def positionOf [DecidableEq Target] (target : Target) : Option Nat :=
  flow.rows.findIdx? fun row => row.target = some target

def selectableLen : Nat := (flow.rows.filter fun row => row.target.isSome).length

def selectableOrdinalAt (position : Nat) : Option Nat :=
  match ((flow.rows.take (position + 1)).filter fun row => row.target.isSome).length with
  | 0 => none
  | ordinal + 1 => some ordinal

def positionOfSelectable (ordinal : Nat) : Option Nat :=
  (flow.rows.zipIdx.filterMap fun row => row.1.target.map fun _ => row.2)[ordinal]?

def targets : List Target := flow.rows.filterMap Row.target

theorem selectableLen_eq : flow.selectableLen = flow.targets.length := by
  unfold selectableLen targets
  induction flow.rows with
  | nil => rfl
  | cons row rows ih =>
    cases row with
    | selectable target => simpa [filter_cons] using ih
    | structural => simpa [filter_cons, filterMap_cons] using ih

theorem positionOf_isSome [DecidableEq Target] {target : Target} : (flow.positionOf target).isSome ↔ target ∈ flow.targets := by
  simp [positionOf, targets, List.findIdx?_isSome, mem_filterMap]

theorem targetAt_positionOfSelectable (ordinal : Nat) :
    (flow.positionOfSelectable ordinal).bind flow.targetAt = flow.targets[ordinal]? := by
  have shifted : ∀ (rows : List (Row Target)) (first : Nat) (ordinal : Nat),
      ((rows.zipIdx first).filterMap fun row => row.1.target.map fun _ => row.2)[ordinal]?.bind
        (fun position => rows[position - first]?.bind Row.target) =
        (rows.filterMap Row.target)[ordinal]? ∧
      ∀ position ∈ (rows.zipIdx first).filterMap fun row => row.1.target.map fun _ => row.2, first ≤ position := by
    intro rows
    induction rows with
    | nil => exact fun first ordinal => ⟨by simp, fun _ member => by cases member⟩
    | cons row rows ih =>
      intro first ordinal
      have later : ∀ ordinal : Nat, ((rows.zipIdx (first + 1)).filterMap fun row => row.1.target.map fun _ => row.2)[
            ordinal]?.bind (fun position => (row :: rows)[position - first]?.bind Row.target) =
            (rows.filterMap Row.target)[ordinal]? := by
        intro ordinal
        obtain ⟨reads, bounded⟩ := ih (first + 1) ordinal
        rw [← reads]
        cases found : ((rows.zipIdx (first + 1)).filterMap fun row =>
            row.1.target.map fun _ => row.2)[ordinal]? with
        | none => rfl
        | some position =>
          have bound := bounded position (mem_of_getElem? found)
          have step : position - first = (position - (first + 1)) + 1 := by omega
          rw [Option.bind_some, Option.bind_some, step, List.getElem?_cons_succ]
      have after : ∀ position ∈ (rows.zipIdx (first + 1)).filterMap fun row =>
          row.1.target.map fun _ => row.2, first ≤ position := by
        intro position member
        have bound := (ih (first + 1) 0).2 position member
        omega
      cases row with
      | structural =>
        simp only [zipIdx_cons, filterMap_cons, Row.target_structural, Option.map_none]
        exact ⟨later ordinal, after⟩
      | selectable target =>
        simp only [zipIdx_cons, filterMap_cons, Row.target_selectable, Option.map_some]
        refine ⟨?_, fun position member => ?_⟩
        · cases ordinal with
          | zero => simp
          | succ ordinal => exact later ordinal
        · rcases mem_cons.mp member with rfl | member
          · exact le_refl _
          · exact after position member
  exact (shifted flow.rows 0 ordinal).1

end RowFlow

/-! ### The cursor over a flow -/

/-- What a list shape supplies of its selection; `none` selects nothing. -/
class Cursored (σ : Type*) (Target : outParam Type*) where
  selectedTarget : σ → Option Target
  setSelectedTarget : Option Target → σ → σ

def shiftClamped (current : Nat) (delta : Int) (len : Nat) : Nat :=
  if delta < 0 then current - delta.natAbs else min (current + delta.natAbs) (len - 1)

namespace Cursored

section Moves

variable {σ Target : Type*} [DecidableEq Target] [Cursored σ Target] (flow : RowFlow Target) (s : σ)

def index : Option Nat := (selectedTarget s).bind flow.positionOf

def first : Option Nat × σ :=
  let position := flow.positionOfSelectable 0
  (position, setSelectedTarget (position.bind flow.targetAt) s)

def selectTarget (target : Target) : Bool × σ :=
  if (flow.positionOf target).isSome then (true, setSelectedTarget (some target) s)
  else (false, (first flow s).2)

def last : Option Nat × σ :=
  let position :=
    match flow.selectableLen with
    | 0 => none
    | ordinal + 1 => flow.positionOfSelectable ordinal
  (position, setSelectedTarget (position.bind flow.targetAt) s)

def selectSelectableOrdinal (ordinal : Nat) : Option Nat × σ :=
  match flow.selectableLen with
  | 0 => (none, setSelectedTarget none s)
  | last + 1 =>
    let position := flow.positionOfSelectable (min ordinal last)
    (position, setSelectedTarget (position.bind flow.targetAt) s)

def moveBy (delta : Int) : Option Nat × σ :=
  if flow.selectableLen = 0 then (none, setSelectedTarget none s)
  else
    let ordinal :=
      match (index flow s).bind flow.selectableOrdinalAt with
      | some current => shiftClamped current delta flow.selectableLen
      | none => if delta < 0 then flow.selectableLen - 1 else 0
    selectSelectableOrdinal flow s ordinal

end Moves

variable {σ Target : Type*} [Cursored σ Target] {flow : RowFlow Target} {s : σ}

def Picks (flow : RowFlow Target) (s next : σ) : Prop :=
  (flow.targets = [] ∧ next = setSelectedTarget none s) ∨
    ∃ target ∈ flow.targets, next = setSelectedTarget (some target) s

theorem picks_getElem? {ordinal : Nat} (inside : ordinal < flow.targets.length) :
    Picks flow s (setSelectedTarget flow.targets[ordinal]? s) := by
  rw [List.getElem?_eq_getElem inside]
  exact Or.inr ⟨_, getElem_mem inside, rfl⟩

theorem first_eq : (first flow s).2 = setSelectedTarget flow.targets.head? s := by
  unfold first
  dsimp only
  rw [flow.targetAt_positionOfSelectable, List.head?_eq_getElem?]

theorem first_picks : Picks flow s (first flow s).2 := by
  rw [first_eq]
  cases targets : flow.targets with
  | nil => exact Or.inl ⟨targets, rfl⟩
  | cons target rest => exact Or.inr ⟨target, by simp [targets], rfl⟩

theorem selectSelectableOrdinal_picks (ordinal : Nat) : Picks flow s (selectSelectableOrdinal flow s ordinal).2 := by
  unfold selectSelectableOrdinal
  have length := flow.selectableLen_eq
  split
  · rename_i none
    rw [none] at length
    exact Or.inl ⟨length_eq_zero_iff.mp length.symm, rfl⟩
  · rename_i last some
    dsimp only
    rw [flow.targetAt_positionOfSelectable]
    refine picks_getElem? ?_
    omega

theorem last_picks : Picks flow s (last flow s).2 := by
  unfold last
  have length := flow.selectableLen_eq
  split
  · rename_i none
    rw [none] at length
    exact Or.inl ⟨length_eq_zero_iff.mp length.symm, rfl⟩
  · rename_i last some
    dsimp only
    rw [flow.targetAt_positionOfSelectable]
    refine picks_getElem? ?_
    omega

variable [DecidableEq Target]

theorem selectTarget_picks (target : Target) : Picks flow s (selectTarget flow s target).2 := by
  unfold selectTarget
  split
  · rename_i present
    exact Or.inr ⟨target, flow.positionOf_isSome.mp present, rfl⟩
  · exact first_picks

theorem moveBy_picks (delta : Int) : Picks flow s (moveBy flow s delta).2 := by
  unfold moveBy
  split
  · rename_i none
    have length := flow.selectableLen_eq
    rw [none] at length
    exact Or.inl ⟨length_eq_zero_iff.mp length.symm, rfl⟩
  · exact selectSelectableOrdinal_picks _

end Cursored

/-! ### The viewport over a flow -/

inductive ViewportAnchor where
  | followSelection
  | free

def maxViewportOffsetForLen (len viewportLen : Nat) : Nat := len - max viewportLen 1

def i64Max : Int := 2 ^ 63 - 1

def i64Min : Int := -2 ^ 63

def clampI64 (n : Int) : Int := max i64Min (min i64Max n)

/-- `i64::try_from(n).unwrap_or(fallback)`. -/
def i64OfUsize (n : Nat) (fallback : Int) : Int := if (n : Int) ≤ i64Max then n else fallback

def scrolledViewportOffset (current : Nat) (delta : Int) (len viewportLen : Nat) : Nat :=
  let maxOffset := maxViewportOffsetForLen len viewportLen
  let current := i64OfUsize (min current maxOffset) (if delta < 0 then 1 else 0)
  let most := i64OfUsize maxOffset i64Max
  (max 0 (min most (clampI64 (current + delta)))).toNat

class Viewported (σ : Type*) (Target : outParam Type*) extends Cursored σ Target where
  viewportOffset : σ → Nat
  setViewportOffset : Nat → σ → σ
  viewportAnchor : σ → ViewportAnchor
  setViewportAnchor : ViewportAnchor → σ → σ
  raiseOverLeadingStructuralRows : Bool

def leadingStructuralOffset {Target : Type*} (flow : RowFlow Target) : Nat → Nat
  | 0 => 0
  | offset + 1 =>
    if (flow.rowAt offset).any fun row => row.target.isNone then leadingStructuralOffset flow offset
    else offset + 1

namespace Viewported

section Moves

variable {σ Target : Type*} [DecidableEq Target] [Viewported σ Target] (flow : RowFlow Target)
  (viewportLen : Nat) (s : σ)

def maxViewportOffset : Nat := maxViewportOffsetForLen flow.len viewportLen

def clampViewport : σ :=
  setViewportOffset (min (viewportOffset s) (maxViewportOffset flow viewportLen)) s

def resolvedViewportOffset (selectedPosition : Option Nat) : Nat :=
  let height := max viewportLen 1
  let maxOffset := maxViewportOffset flow height
  let offset := min (viewportOffset s) maxOffset
  let pulled :=
    match viewportAnchor s with
    | .followSelection => selectedPosition
    | .free => none
  match pulled with
  | none => offset
  | some position =>
    let offset :=
      if position < offset then
        if raiseOverLeadingStructuralRows σ then leadingStructuralOffset flow position else position
      else if position ≥ offset + height then position + 1 - height
      else offset
    min offset maxOffset

def keepSelectionVisible (selectedPosition : Option Nat) : σ :=
  setViewportOffset (resolvedViewportOffset flow viewportLen s selectedPosition) s

def keepCursorVisible : σ :=
  keepSelectionVisible flow viewportLen s (Cursored.index flow s)

def reconcileViewport : σ :=
  keepCursorVisible flow viewportLen (clampViewport flow viewportLen s)

/-- The selectable row nearest to `desired`, first the way the page goes. -/
def pagePosition (desired : Nat) (backward : Bool) : Option Nat :=
  let there := fun position => (flow.targetAt position).isSome
  if backward then
    ((List.range (desired + 1)).reverse.find? there).or
      (((List.range (flow.len - (desired + 1))).map (desired + 1 + ·)).find? there)
  else
    (((List.range (flow.len - desired)).map (desired + ·)).find? there).or
      ((List.range desired).reverse.find? there)

def pageByVisibleRows (direction : Int) : Option Nat × σ :=
  let recovered := Cursored.moveBy flow s (if direction < 0 then -1 else 1)
  match Cursored.index flow s with
  | none => recovered
  | some current =>
    let distance := max viewportLen 1
    let desired :=
      if direction < 0 then current - distance else min (current + distance) (flow.len - 1)
    match pagePosition flow desired (direction < 0) with
    | none => recovered
    | some position =>
      match flow.selectableOrdinalAt current, flow.selectableOrdinalAt position with
      | some currentOrdinal, some targetOrdinal =>
        Cursored.moveBy flow s (targetOrdinal - currentOrdinal : Int)
      | _, _ => recovered

def page (direction : Int) : σ :=
  let paged := pageByVisibleRows flow viewportLen s direction
  keepSelectionVisible flow viewportLen paged.2 paged.1

end Moves

variable {σ Target : Type*} [DecidableEq Target] [Viewported σ Target] {flow : RowFlow Target} {s : σ}

theorem pageByVisibleRows_picks (viewportLen : Nat) (direction : Int) :
    Cursored.Picks flow s (pageByVisibleRows flow viewportLen s direction).2 := by
  unfold pageByVisibleRows
  dsimp only
  split
  · exact Cursored.moveBy_picks _
  · split
    · exact Cursored.moveBy_picks _
    · split <;> exact Cursored.moveBy_picks _

end Viewported

/-! ### Ordered marks -/

structure MarkSelectionState (Target : Type*) where
  marked : List Target := []

namespace MarkSelectionState

section Operations

variable {Target : Type*} (marks : MarkSelectionState Target)

def isEmpty : Bool := marks.marked.isEmpty

def retain (keep : Target → Bool) : MarkSelectionState Target := ⟨marks.marked.filter keep⟩

variable [DecidableEq Target]

def contains (target : Target) : Bool := marks.marked.contains target

def add (target : Target) : MarkSelectionState Target :=
  if marks.contains target then marks else ⟨marks.marked ++ [target]⟩

def remove (target : Target) : MarkSelectionState Target := ⟨marks.marked.erase target⟩

end Operations

variable {Target : Type*} {marks : MarkSelectionState Target} {P : Target → Prop}

/-- The marks are distinct, and each has `P`. -/
def Sound (marks : MarkSelectionState Target) (P : Target → Prop) : Prop :=
  marks.marked.Nodup ∧ ∀ target ∈ marks.marked, P target

theorem Sound.retain (sound : marks.Sound P) (keep : Target → Bool) :
    (marks.retain keep).Sound fun target => P target ∧ keep target = true := by
  refine ⟨sound.1.filter _, fun target member => ?_⟩
  obtain ⟨old, kept⟩ := mem_filter.mp member
  exact ⟨sound.2 target old, kept⟩

theorem Sound.mono {Q : Target → Prop} (sound : marks.Sound P) (weaker : ∀ target, P target → Q target) : marks.Sound Q :=
  ⟨sound.1, fun target member => weaker target (sound.2 target member)⟩

variable [DecidableEq Target]

theorem Sound.add (sound : marks.Sound P) {target : Target} (holds : P target) : (marks.add target).Sound P := by
  unfold MarkSelectionState.add
  split
  · exact sound
  · rename_i absent
    have absent : target ∉ marks.marked := by simpa [contains] using absent
    refine ⟨?_, fun other member => ?_⟩
    · rw [nodup_append]
      refine ⟨sound.1, nodup_singleton target, fun other member _ same => ?_⟩
      rw [mem_singleton.mp same]
      rintro rfl
      exact absent member
    · rcases mem_append.mp member with old | new
      · exact sound.2 other old
      · rw [mem_singleton.mp new]
        exact holds

theorem Sound.remove (sound : marks.Sound P) (target : Target) : (marks.remove target).Sound P :=
  ⟨sound.1.erase target, fun other member => sound.2 other (mem_of_mem_erase member)⟩

theorem add_ne_nil (target : Target) : (marks.add target).marked ≠ [] := by
  unfold MarkSelectionState.add
  split
  · rename_i present
    intro empty
    simp [contains, empty] at present
  · simp

end MarkSelectionState

end Mbv.Surfaces
