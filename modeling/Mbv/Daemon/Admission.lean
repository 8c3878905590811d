import Mbv.Daemon.QueueSetup
import Mbv.Sequence.Kept

/-! What admission leaves of a submission, and where it starts. -/

namespace Mbv.Daemon

open Mbv.Queue Kept List

/-- One pass over the entries from `index` on: the admitted ones, and `rebased` moved up for each of
    them that is before the requested one. -/
def admitPass {α : Type} (admits : α → Bool) (requested : Nat) :
    Nat → Nat → List α → List α × Nat
  | _, rebased, [] => ([], rebased)
  | index, rebased, entry :: rest =>
    let admitted := admits entry
    let rebased := if admitted && decide (index < requested) then rebased + 1 else rebased
    let later := admitPass admits requested (index + 1) rebased rest
    (if admitted then entry :: later.1 else later.1, later.2)

theorem admitPass_eq {α : Type} (admits : α → Bool) (requested index rebased : Nat)
    (entries : List α) : admitPass admits requested index rebased entries =
      (entries.filter admits, rebased + (entries.take (requested - index)).countP admits) := by
  induction entries generalizing index rebased with
  | nil => simp [admitPass]
  | cons entry rest ih =>
    unfold admitPass
    dsimp only
    rw [ih]
    by_cases before : index < requested
    · have more : requested - index = requested - (index + 1) + 1 := by omega
      rw [more, take_succ_cons, countP_cons, filter_cons]
      cases admits entry with
      | true => simp [before]; omega
      | false => simp
    · have none : requested - index = 0 := by omega
      have later : requested - (index + 1) = 0 := by omega
      rw [none, later, filter_cons]
      cases admits entry with
      | true => simp [before]
      | false => simp

namespace ControlContext

variable (ctx : ControlContext)

def admitQueueItems (original : List QueueItem) (requestedCursor : Option Nat) :
    List QueueItem × Nat :=
  ctx.admitQueue original requestedCursor id

theorem admitQueue_eq_pass {α : Type} (original : List α) (requestedCursor : Option Nat) (itemOf : α → QueueItem) :
    ctx.admitQueue original requestedCursor itemOf =
      ((admitPass (fun entry => ctx.daemonAdmits (itemOf entry)) (requestedCursor.getD 0) 0 0 original).1,
        if (admitPass (fun entry => ctx.daemonAdmits (itemOf entry)) (requestedCursor.getD 0) 0 0 original).1.isEmpty then 0
        else min (admitPass (fun entry => ctx.daemonAdmits (itemOf entry)) (requestedCursor.getD 0) 0 0 original).2
          ((admitPass (fun entry => ctx.daemonAdmits (itemOf entry)) (requestedCursor.getD 0) 0 0 original).1.length - 1)) := by
  rw [admitPass_eq, Nat.zero_add, Nat.sub_zero, countP_eq_length_filter]
  rfl

end ControlContext

/-- The place a start is moved to: the requested one when its entry is admitted, else the first
    admitted one after it, else the last admitted one. -/
def startPlace (admitted : List Nat) (requested : Nat) : Option Nat :=
  (admitted.find? fun place => decide (requested ≤ place)).or admitted.getLast?

theorem admitQueue_start (ctx : ControlContext) {α : Type} (original : List α)
    (requestedCursor : Option Nat) (itemOf : α → QueueItem) :
    (places (fun entry => ctx.daemonAdmits (itemOf entry)) original)[ (ctx.admitQueue original requestedCursor itemOf).2]? =
      startPlace (places (fun entry => ctx.daemonAdmits (itemOf entry)) original) (requestedCursor.getD 0) := by
  let admits := fun entry => ctx.daemonAdmits (itemOf entry)
  let requested := requestedCursor.getD 0
  have counted : ((original.take requested).filter admits).length = rank admits original requested :=
    (countP_eq_length_filter ..).symm
  have found := @get_rank _ admits original requested
  have same := @length_places _ admits original
  show (places admits original)[if (original.filter admits).isEmpty then 0
    else min ((original.take requested).filter admits).length
      ((original.filter admits).length - 1)]? = startPlace (places admits original) requested
  rw [counted, ← same]
  unfold startPlace
  rw [← found]
  cases empty : original.filter admits with
  | nil =>
    rw [empty, length_nil, length_eq_zero_iff] at same
    rw [same]
    rfl
  | cons first others =>
    rw [empty, length_cons] at same
    rw [isEmpty_cons, if_neg Bool.false_ne_true]
    by_cases inside : rank admits original requested < (places admits original).length
    · rw [Nat.min_eq_left (by omega), List.getElem?_eq_getElem inside]
      rfl
    · rw [Nat.min_eq_right (by omega), List.getElem?_eq_none (Nat.not_lt.mp inside), Option.none_or]
      exact (List.getLast?_eq_getElem? ..).symm

theorem admitQueue_cursor_lt (ctx : ControlContext) {α : Type} (original : List α)
    (requestedCursor : Option Nat) (itemOf : α → QueueItem)
    (some_ : (ctx.admitQueue original requestedCursor itemOf).1 ≠ []) :
    (ctx.admitQueue original requestedCursor itemOf).2 < (ctx.admitQueue original requestedCursor itemOf).1.length := by
  have long := length_pos_iff.mpr some_
  unfold ControlContext.admitQueue at long ⊢
  dsimp only at long ⊢
  split <;> omega

/-- The admitted entries are the admissible ones in their order, and the cursor is the start's. -/
structure KeepsStart (ctx : ControlContext) {α : Type} (itemOf : α → QueueItem) (original : List α)
    (requested : Option Nat) (result : List α × Nat) : Prop where
  admitted : result.1 = original.filter fun entry => ctx.daemonAdmits (itemOf entry)
  valid : result.1 ≠ [] → result.2 < result.1.length
  start : (places (fun entry => ctx.daemonAdmits (itemOf entry)) original)[result.2]? =
    startPlace (places (fun entry => ctx.daemonAdmits (itemOf entry)) original) (requested.getD 0)
  names : result.1[result.2]? =
    (startPlace (places (fun entry => ctx.daemonAdmits (itemOf entry)) original)
      (requested.getD 0)).bind (original[·]?)

theorem admitQueue_keepsStart (ctx : ControlContext) {α : Type} (original : List α)
    (requested : Option Nat) (itemOf : α → QueueItem) :
    KeepsStart ctx itemOf original requested (ctx.admitQueue original requested itemOf) where
  admitted := rfl
  valid := admitQueue_cursor_lt ctx original requested itemOf
  start := admitQueue_start ctx original requested itemOf
  names := by
    rw [← admitQueue_start ctx original requested itemOf]
    exact filter_get _

/-- Bare items and slots are admitted alike, and a replacement installs what was admitted. -/
theorem admission_keeps_start (ctx : ControlContext) :
    (∀ items requested, KeepsStart ctx id items requested (ctx.admitQueueItems items requested)) ∧
    (∀ slots requested,
      KeepsStart ctx (·.2) slots requested (ctx.admitQueueSlots slots requested)) ∧
    ∀ (request : QueueReplace), ∀ prepared ∈ (request.prepareReplacementSlots ctx).toOption,
      KeepsStart ctx (·.2) request.submittedSlots request.startIdx prepared := by
  have slots : ∀ slots requested,
      KeepsStart ctx (·.2) slots requested (ctx.admitQueueSlots slots requested) :=
    fun slots requested => admitQueue_keepsStart ctx slots requested (·.2)
  refine ⟨fun items requested => admitQueue_keepsStart ctx items requested id, slots, ?_⟩
  intro request prepared ok
  unfold QueueReplace.prepareReplacementSlots at ok
  dsimp only at ok
  split at ok
  · cases ok
  · split at ok
    · cases ok
    · split at ok
      · cases ok
      · cases ok
        exact slots request.submittedSlots request.startIdx

/-! ### One admission after another -/

theorem min_rank_twice {α : Type} (p q : α → Bool) (entries : List α) (n : Nat) :
    min (((entries.filter p).take (min ((entries.take n).filter p).length ((entries.filter p).length - 1))).filter
        q).length (((entries.filter p).filter q).length - 1) =
      min ((entries.take n).filter fun a => q a && p a).length (((entries.filter p).filter q).length - 1) := by
  have front : ((entries.take n).filter p).filter q = ((entries.filter p).take ((entries.take n).filter p).length).filter q := by
    conv_rhs => rw [← take_append_drop n entries, filter_append]
    simp
  rw [← filter_filter, front]
  generalize ((entries.take n).filter p).length = cursor
  generalize entries.filter p = kept
  rcases Nat.le_total cursor (kept.length - 1) with inside | past
  · rw [Nat.min_eq_left inside]
  · -- A start past the last entry kept is clipped to it twice.
    have parts := congrArg (fun part => (part.filter q).length) (take_append_drop (kept.length - 1) kept)
    have last := length_filter_le q (kept.drop (kept.length - 1))
    have more := ((take_sublist_take_left (l := kept) past).filter q).length_le
    rw [length_drop] at last
    simp only [filter_append, length_append] at parts
    rw [Nat.min_eq_right past]
    omega

/-- An owner with the capabilities that both have. -/
def ControlContext.meet (first second : ControlContext) : ControlContext :=
  { first with
    audioOnly := first.audioOnly || second.audioOnly
    hasEmby := first.hasEmby && second.hasEmby
    hasAudiobookshelf := first.hasAudiobookshelf && second.hasAudiobookshelf }

theorem meet_admits (first second : ControlContext) (item : QueueItem) :
    (first.meet second).daemonAdmits item = (second.daemonAdmits item && first.daemonAdmits item) := by
  unfold ControlContext.daemonAdmits QueueItem.admissibleForOwnerWithAudiobookshelf ControlContext.meet
  generalize item.isAudio = audio
  cases item <;> simp [QueueItem.isEmby, QueueItem.isAudiobookshelf, QueueItem.requiredService] <;> grind

/-- A queue that two owners admit one after the other holds what both admit, and starts where an
    owner that admits just that starts it. -/
theorem admission_composes (first second : ControlContext) {α : Type} (original : List α)
    (requested : Option Nat) (itemOf : α → QueueItem) :
    let admitted := first.admitQueue original requested itemOf
    second.admitQueue admitted.1 (some admitted.2) itemOf = (first.meet second).admitQueue original requested itemOf := by
  have clipped (entries : List α) (n : Nat) :
      (if entries.isEmpty then 0 else min n (entries.length - 1)) = min n (entries.length - 1) := by
    cases entries <;> simp
  simp only [ControlContext.admitQueue, clipped, meet_admits, Option.getD_some]
  rw [min_rank_twice, filter_filter]

end Mbv.Daemon
