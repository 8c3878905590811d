import Mbv.Surfaces.MediaList
import Mathlib.Tactic.Basic

namespace Mbv.Surfaces

structure WideViewport where
  offset : Nat
  height : Nat
  totalRows : Nat

namespace MediaList

variable {Target : Type*} (list : MediaList Target)

def selectedDisplayRow : Option Nat := list.selectable[list.cursor]?

def resolveViewport [DecidableEq Target] (viewportHeight : Nat) : WideViewport where
  offset := Viewported.resolvedViewportOffset list.rowFlow viewportHeight list list.selectedDisplayRow
  height := max viewportHeight 1
  totalRows := list.rows.length

end MediaList

namespace Viewported

section Offsets

variable {σ Target : Type*} [Viewported σ Target] (flow : RowFlow Target) (viewportLen : Nat)

/-- A legal offset whose rows include `position`. -/
def Shows (position offset : Nat) : Prop :=
  offset ≤ maxViewportOffset flow viewportLen ∧ offset ≤ position ∧
    position < offset + max viewportLen 1

/-- The offset that shows `position` with the least scroll from `stored`. -/
def Nearest (stored position offset : Nat) : Prop :=
  Shows flow viewportLen position offset ∧
    ∀ other, Shows flow viewportLen position other →
      ((offset : Int) - stored).natAbs ≤ ((other : Int) - stored).natAbs

/-- No selectable row stands from `offset` up to `position`. -/
def StructuralBetween (offset position : Nat) : Prop :=
  ∀ row, offset ≤ row → row < position →
    (flow.rowAt row).any (fun row => row.target.isNone) = true

/-- What a resolve of the stored offset is to give. -/
structure Follows [DecidableEq Target] (s : σ) (position offset : Nat) : Prop where
  bounded : offset ≤ maxViewportOffset flow viewportLen
  shown : viewportAnchor s = .followSelection → Shows flow viewportLen position offset
  kept : viewportAnchor s = .followSelection →
    Shows flow viewportLen position (viewportOffset s) → offset = viewportOffset s
  nearest : viewportAnchor s = .followSelection →
    ∃ least, Nearest flow viewportLen (viewportOffset s) position least ∧
      (offset = least ∨
        raiseOverLeadingStructuralRows σ = true ∧ least = position ∧ offset ≤ position ∧
          StructuralBetween flow offset position)
  again : ∀ next : σ, viewportOffset next = offset → viewportAnchor next = viewportAnchor s →
    resolvedViewportOffset flow viewportLen next (some position) = offset
  free : viewportAnchor s = .free →
    offset = min (viewportOffset s) (maxViewportOffset flow viewportLen)

end Offsets

variable {σ Target : Type*} [Viewported σ Target] {flow : RowFlow Target} {viewportLen : Nat}
  {position : Nat}

theorem leadingStructuralOffset_spec (flow : RowFlow Target) (position : Nat) :
    leadingStructuralOffset flow position ≤ position ∧
      StructuralBetween flow (leadingStructuralOffset flow position) position := by
  induction position with
  | zero => exact ⟨Nat.le_refl 0, fun row _ below => absurd below (Nat.not_lt_zero row)⟩
  | succ position ih =>
    unfold leadingStructuralOffset
    split
    · rename_i structural
      obtain ⟨low, between⟩ := ih
      refine ⟨Nat.le_succ_of_le low, fun row above below => ?_⟩
      rcases Nat.lt_succ_iff_lt_or_eq.mp below with inside | rfl
      · exact between row above inside
      · exact structural
    · exact ⟨Nat.le_refl _, fun row above below => absurd below (Nat.not_lt.mpr above)⟩

variable [DecidableEq Target] {s : σ}

theorem resolved_free (anchor : viewportAnchor s = .free) (selected : Option Nat) :
    resolvedViewportOffset flow viewportLen s selected = min (viewportOffset s) (maxViewportOffset flow viewportLen) := by
  have same : maxViewportOffset flow (max viewportLen 1) = maxViewportOffset flow viewportLen := by
    simp [maxViewportOffset, maxViewportOffsetForLen]
  unfold resolvedViewportOffset
  dsimp only
  rw [anchor, same]

theorem resolved_following (anchor : viewportAnchor s = .followSelection) (inside : position < flow.len) :
    resolvedViewportOffset flow viewportLen s (some position) =
      if position < min (viewportOffset s) (maxViewportOffset flow viewportLen) then
        if raiseOverLeadingStructuralRows σ then leadingStructuralOffset flow position else position
      else if position < min (viewportOffset s) (maxViewportOffset flow viewportLen) + max viewportLen 1 then
        min (viewportOffset s) (maxViewportOffset flow viewportLen)
      else position + 1 - max viewportLen 1 := by
  have same : maxViewportOffset flow (max viewportLen 1) = maxViewportOffset flow viewportLen := by
    simp [maxViewportOffset, maxViewportOffsetForLen]
  have most : maxViewportOffset flow viewportLen = flow.len - max viewportLen 1 := rfl
  have low := (leadingStructuralOffset_spec flow position).1
  unfold resolvedViewportOffset
  dsimp only
  rw [anchor, same]
  dsimp only
  split
  · split <;> omega
  · split <;> split <;> omega

/-- Raising over the headings keeps the selection on screen. -/
def Fits (flow : RowFlow Target) (viewportLen : Nat) (s : σ) (position : Nat) : Prop :=
  viewportAnchor s = .followSelection → raiseOverLeadingStructuralRows σ = true →
    position < min (viewportOffset s) (maxViewportOffset flow viewportLen) →
      position < leadingStructuralOffset flow position + max viewportLen 1

theorem resolved_shows (anchor : viewportAnchor s = .followSelection) (inside : position < flow.len) :
    Shows flow viewportLen position (resolvedViewportOffset flow viewportLen s (some position)) ↔
      Fits flow viewportLen s position := by
  have most : maxViewportOffset flow viewportLen = flow.len - max viewportLen 1 := rfl
  have low := (leadingStructuralOffset_spec flow position).1
  unfold Shows Fits
  rw [resolved_following anchor inside]
  constructor
  · intro shown _ raises above
    rw [if_pos above, if_pos raises] at shown
    exact shown.2.2
  · intro fits
    by_cases above : position < min (viewportOffset s) (maxViewportOffset flow viewportLen)
    · rw [if_pos above]
      split
      · rename_i raises
        have reach := fits anchor raises above
        omega
      · omega
    · rw [if_neg above]
      split <;> omega

theorem nearest_minimum (viewportLen stored : Nat) (inside : position < flow.len) : Nearest flow viewportLen stored position
      (if position < min stored (maxViewportOffset flow viewportLen) then position
        else if position < min stored (maxViewportOffset flow viewportLen) + max viewportLen 1 then
          min stored (maxViewportOffset flow viewportLen)
        else position + 1 - max viewportLen 1) := by
  have most : maxViewportOffset flow viewportLen = flow.len - max viewportLen 1 := rfl
  unfold Nearest Shows
  refine ⟨?_, fun other shows => ?_⟩
  · split
    · omega
    · split <;> omega
  · split
    · omega
    · split <;> omega

theorem resolved_nearest (anchor : viewportAnchor s = .followSelection) (inside : position < flow.len) :
    ∃ least, Nearest flow viewportLen (viewportOffset s) position least ∧
      (resolvedViewportOffset flow viewportLen s (some position) = least ∨
        raiseOverLeadingStructuralRows σ = true ∧ least = position ∧
          resolvedViewportOffset flow viewportLen s (some position) ≤ position ∧
          StructuralBetween flow (resolvedViewportOffset flow viewportLen s (some position)) position) := by
  have nearest := nearest_minimum viewportLen (viewportOffset s) inside
  refine ⟨_, nearest, ?_⟩
  rw [resolved_following anchor inside]
  by_cases above : position < min (viewportOffset s) (maxViewportOffset flow viewportLen)
  · rw [if_pos above, if_pos above]
    by_cases raises : raiseOverLeadingStructuralRows σ = true
    · obtain ⟨low, between⟩ := leadingStructuralOffset_spec flow position
      rw [if_pos raises]
      exact .inr ⟨raises, rfl, low, between⟩
    · rw [if_neg raises]
      exact .inl rfl
  · rw [if_neg above, if_neg above]
    exact .inl rfl

theorem resolved_kept (shows : viewportAnchor s = .followSelection → Shows flow viewportLen position (viewportOffset s))
    (legal : viewportOffset s ≤ maxViewportOffset flow viewportLen) (inside : position < flow.len) :
    resolvedViewportOffset flow viewportLen s (some position) = viewportOffset s := by
  cases anchor : viewportAnchor s with
  | free =>
    rw [resolved_free anchor]
    exact min_eq_left legal
  | followSelection =>
    have shown := shows anchor
    unfold Shows at shown
    rw [resolved_following anchor inside, if_neg (by omega), if_pos (by omega)]
    exact min_eq_left legal

/-- A resolve follows the selection unless the headings it raises over fill the view. -/
theorem viewport_follows_iff (inside : position < flow.len) :
    Follows flow viewportLen s position
        (resolvedViewportOffset flow viewportLen s (some position)) ↔
      Fits flow viewportLen s position := by
  have shown (anchor : viewportAnchor s = .followSelection) :
      Shows flow viewportLen position (resolvedViewportOffset flow viewportLen s (some position)) ↔
        Fits flow viewportLen s position := resolved_shows anchor inside
  constructor
  · intro follows anchor raises above
    exact (shown anchor).mp (follows.shown anchor) anchor raises above
  · intro fits
    have bounded : resolvedViewportOffset flow viewportLen s (some position) ≤
        maxViewportOffset flow viewportLen := by
      cases anchor : viewportAnchor s with
      | free =>
        rw [resolved_free anchor]
        exact min_le_right _ _
      | followSelection => exact ((shown anchor).mpr fits).1
    exact {
      bounded := bounded
      shown := fun anchor => (shown anchor).mpr fits
      kept := fun _ shows => resolved_kept (fun _ => shows) shows.1 inside
      nearest := fun anchor => resolved_nearest anchor inside
      again := fun next stored same => by
        rw [← stored]
        refine resolved_kept (fun anchor => ?_) (stored ▸ bounded) inside
        rw [stored]
        exact (shown (same ▸ anchor)).mpr fits
      free := fun anchor => resolved_free anchor _ }

end Viewported

/-- A heading, its two items, and the view on the second one. -/
def headedList : MediaList Nat where
  rows := [.heading "A", .item 1 "one", .item 2 "two"]
  selectable := [1, 2]
  cursor := 0
  scroll := 2

theorem viewport_follows_on_screen :
    Viewported.Follows headedList.rowFlow 2 headedList 1 (headedList.resolveViewport 2).offset :=
  (Viewported.viewport_follows_iff (by decide)).mpr fun _ _ _ => by decide

/-- In a view of one row, raising over the heading leaves the selected row below it. -/
theorem heading_hides_selection :
    headedList.selectedDisplayRow = some 1 ∧
      ¬ Viewported.Follows headedList.rowFlow 1 headedList 1
        (headedList.resolveViewport 1).offset := by
  refine ⟨rfl, fun follows => ?_⟩
  have shown := follows.shown rfl
  revert shown
  unfold Viewported.Shows
  decide

end Mbv.Surfaces
