import Mbv.Machine.Stamps
import Mbv.Queue.History
import Mbv.Queue.Reconciliation

namespace Mbv.Queue

open PlaybackQueue List

/-! ### What a revision stands for -/

namespace PlaybackQueue

def content (queue : PlaybackQueue) : List QueueSlot × Option QueueSlotId :=
  (queue.slots, queue.activeSlotId)

def rebaseRevisionMint (queue : PlaybackQueue) (mint : UInt64) : PlaybackQueue :=
  { queue with revision := mint, mint := mint + 1 }

def ActiveNamed (queue : PlaybackQueue) : Prop := ∀ id ∈ queue.activeSlotId, id ∈ queue.slotIds

inductive Minted (queue next : PlaybackQueue) : Prop
  | kept (content : next.content = queue.content) (revision : next.revision = queue.revision)
      (mint : next.mint = queue.mint)
  | bumped (revision : next.revision = queue.mint) (mint : next.mint = queue.mint + 1)

theorem Minted.same (queue : PlaybackQueue) : Minted queue queue := .kept rfl rfl rfl

theorem Minted.bump {queue changed : PlaybackQueue} (mint : changed.mint = queue.mint) :
    Minted queue changed.bump := .bumped mint (congrArg (· + 1) mint)

end PlaybackQueue

section Mutations

variable {queue : PlaybackQueue}

theorem clearActiveSlot_minted : Minted queue queue.clearActiveSlot := by
  unfold clearActiveSlot
  split
  · exact .bump rfl
  · exact .same queue

theorem clear_minted : Minted queue queue.clear := by
  unfold clear
  split
  · exact .same queue
  · exact .bump rfl

theorem pushAll_mint (items : List QueueItem) :
    (queue.pushAll items).mint = queue.mint ∧ (queue.pushAll items).revision = queue.revision ∧
      (queue.pushAll items).activeSlotId = queue.activeSlotId := by
  induction items generalizing queue with
  | nil => exact ⟨rfl, rfl, rfl⟩
  | cons item items ih => exact ih

theorem replace_minted (items : List QueueItem) : Minted queue (queue.replace items).2 := by
  apply Minted.bump
  exact (pushAll_mint items).1

theorem truncateSlots_minted (len : Nat) : Minted queue (queue.truncateSlots len) := by
  unfold truncateSlots
  split
  · exact .same queue
  · obtain ⟨revision, mint⟩ := dropDeadActive_revision { queue with slots := queue.slots.take len }.bump
    exact .bumped revision mint

theorem setActiveSlot_minted (slotId : QueueSlotId) : Minted queue (queue.setActiveSlot slotId).2 := by
  unfold setActiveSlot
  split
  · exact .same queue
  · split
    · exact .bump rfl
    · exact .same queue

theorem removeExistingSlot_minted (slotId : QueueSlotId) : Minted queue (queue.removeExistingSlot slotId).2 := by
  unfold removeExistingSlot
  split
  · exact .same queue
  · exact .bump rfl

theorem removeSlot_minted (slotId : QueueSlotId) : Minted queue (queue.removeSlot slotId).2 := by
  unfold removeSlot
  split
  · exact .same queue
  · exact removeExistingSlot_minted slotId

theorem removeActiveSlotConfirmed_minted (slotId : QueueSlotId) : Minted queue (queue.removeActiveSlotConfirmed slotId).2 := by
  unfold removeActiveSlotConfirmed
  split
  · exact .same queue
  · exact .bump rfl

theorem reorderSlots_minted (order : List QueueSlotId) : Minted queue (queue.reorderSlots order).2 := by
  unfold reorderSlots
  split
  · exact .same queue
  · split
    · exact .same queue
    · exact .bump rfl

theorem moveSlot_minted (slotId : QueueSlotId) (toIndex : Nat) : Minted queue (queue.moveSlot slotId toIndex).2 := by
  unfold moveSlot
  split
  · exact .same queue
  · exact .bump rfl

theorem rewriteItem_minted (slotId : QueueSlotId) (rewrite : QueueItem → QueueItem) :
    Minted queue (queue.rewriteItem slotId rewrite).2 := by
  unfold rewriteItem
  split
  · exact .same queue
  · split
    · exact .same queue
    · rename_i slot there
      dsimp only
      split
      · rename_i equal
        have same : rewrite slot.item = slot.item := eq_of_beq equal
        refine .kept ?_ rfl rfl
        unfold content
        rw [(set_eq_self_iff there).mpr (by rw [same])]
      · exact .bump rfl

theorem mergeRefreshForSlots_minted (fetched : List (QueueSlotId × EmbyItem)) :
    Minted queue (queue.mergeRefreshForSlots fetched).2 := by
  rw [mergeRefreshForSlots_eq]
  split
  · exact .bump rfl
  · rename_i none
    refine .kept ?_ rfl rfl
    have slots := foldl_refreshOne_of_settled (Classical.not_not.mp none)
    unfold content
    rw [slots]

theorem mergeRefresh_minted (named : queue.ActiveNamed) (items : List EmbyItem) : Minted queue (queue.mergeRefresh items).2 := by
  obtain ⟨-, changes, settled⟩ := mergeRefresh_spec queue items
  have mint := (dropDeadActive_revision { queue with slots := refreshedFrom queue.activeSlotId items [] queue.slots }).2
  by_cases changed : Changes queue.activeSlotId items [] queue.slots
  · rw [changes changed]
    exact .bump mint
  · have slots : refreshedFrom queue.activeSlotId items [] queue.slots = queue.slots := refreshedFrom_eq_iff.mpr changed
    rw [settled changed, slots, dropDeadActive_named named]
    exact .same queue

end Mutations

/-! ### The active marker keeps naming a slot -/

namespace PlaybackQueue

variable {queue : PlaybackQueue}

theorem dropDeadActive_activeNamed (queue : PlaybackQueue) : queue.dropDeadActive.ActiveNamed := by
  intro id marker
  unfold dropDeadActive at marker ⊢
  cases held : queue.activeSlotId with
  | none => simp [held] at marker
  | some active =>
    rw [held] at marker
    dsimp only at marker ⊢
    by_cases dead : (queue.slotIndex active).isNone = true
    · simp [dead] at marker
    · rw [if_neg dead] at marker ⊢
      rw [slotIndex_isNone, not_not] at dead
      rw [held] at marker
      rwa [← Option.some.inj marker]

theorem ActiveNamed.grow {next : PlaybackQueue} (named : queue.ActiveNamed)
    (active : next.activeSlotId = queue.activeSlotId) (ids : queue.slotIds ⊆ next.slotIds) :
    next.ActiveNamed := by
  intro id marker
  rw [active] at marker
  exact ids (named id marker)

theorem ActiveNamed.inserted (named : queue.ActiveNamed) (index : Nat) (item : QueueItem) :
    (queue.insert index item).2.ActiveNamed := by
  refine named.grow rfl fun id member => ?_
  obtain ⟨slot, there, rfl⟩ := mem_map.mp member
  refine mem_map_of_mem ?_
  exact mem_insertIdx (Nat.min_le_right _ _) |>.mpr (.inr there)

theorem ActiveNamed.activated (named : queue.ActiveNamed) (slotId : QueueSlotId) :
    (queue.setActiveSlot slotId).2.ActiveNamed := by
  unfold setActiveSlot
  split
  · exact named
  · rename_i live
    rw [slotIndex_isNone, not_not] at live
    split
    · rintro id marker
      rwa [← Option.some.inj marker]
    · exact named

theorem ActiveNamed.kept (named : queue.ActiveNamed) {slotId : QueueSlotId}
    (other : queue.activeSlotId ≠ some slotId) {id : QueueSlotId} (marker : id ∈ queue.activeSlotId) :
    id ∈ queue.slotIds.erase slotId := by
  refine (mem_erase_of_ne ?_).mpr (named id marker)
  rintro rfl
  exact other marker

theorem ActiveNamed.removed (named : queue.ActiveNamed) (slotId : QueueSlotId) :
    (queue.removeExistingSlot slotId).2.ActiveNamed := by
  unfold removeExistingSlot
  cases found : queue.slotIndex slotId with
  | none => exact named
  | some index =>
    intro id marker
    dsimp only [PlaybackQueue.bump, slotIds] at marker ⊢
    split at marker
    · obtain ⟨slot, place, rfl⟩ := Option.map_eq_some_iff.mp marker
      refine mem_map_of_mem ?_
      rcases Option.or_eq_some_iff.mp place with successor | ⟨-, last⟩
      · exact mem_of_getElem? successor
      · exact mem_of_getLast? last
    · rename_i other
      rw [slotIds_eraseIdx found]
      exact named.kept other marker

theorem ActiveNamed.removedConfirmed (named : queue.ActiveNamed) (slotId : QueueSlotId) :
    (queue.removeActiveSlotConfirmed slotId).2.ActiveNamed := by
  unfold removeActiveSlotConfirmed
  cases found : queue.slotIndex slotId with
  | none => exact named
  | some index =>
    intro id marker
    dsimp only [PlaybackQueue.bump, slotIds] at marker ⊢
    split at marker
    · cases marker
    · rename_i other
      rw [slotIds_eraseIdx found]
      exact named.kept other marker

theorem mem_takeInOrder {slots : List QueueSlot} {order : List QueueSlotId} {id : QueueSlotId}
    (asked : id ∈ order) (held : id ∈ slots.map (·.slotId)) :
    id ∈ (takeInOrder slots order).map (·.slotId) := by
  induction order generalizing slots with
  | nil => cases asked
  | cons slotId order ih =>
    unfold takeInOrder
    cases found : Keyed.get (·.slotId) slotId slots.reverse with
    | none =>
      rcases mem_cons.mp asked with rfl | later
      · have absent := Keyed.get_none.mp found
        rw [map_reverse, mem_reverse] at absent
        exact absurd held absent
      · exact ih later held
    | some slot =>
      rw [map_cons, (Keyed.get_key found).1]
      by_cases here : id = slotId
      · rw [here]
        exact mem_cons_self
      · apply mem_cons_of_mem
        refine ih ((mem_cons.mp asked).resolve_left here) ?_
        obtain ⟨other, there, rfl⟩ := mem_map.mp held
        refine mem_map_of_mem (mem_filter.mpr ⟨there, ?_⟩)
        exact decide_eq_true here

theorem ActiveNamed.reordered (named : queue.ActiveNamed) (order : List QueueSlotId) :
    (queue.reorderSlots order).2.ActiveNamed := by
  refine named.grow (reorderSlots_active order) fun id member => ?_
  unfold reorderSlots
  split
  · exact member
  · split
    · exact member
    · rename_i perm
      rw [Bool.not_eq_true', Bool.not_eq_false, isSlotPermutation_iff] at perm
      exact mem_takeInOrder (perm.mem_iff.mp member) member

theorem ActiveNamed.moved (named : queue.ActiveNamed) (slotId : QueueSlotId) (toIndex : Nat) :
    (queue.moveSlot slotId toIndex).2.ActiveNamed := by
  refine named.grow (moveSlot_active ..) fun id member => ?_
  rw [moveSlot_slotIds]
  exact mem_moveTo.mpr member

theorem ActiveNamed.rewritten (named : queue.ActiveNamed) (slotId : QueueSlotId)
    (rewrite : QueueItem → QueueItem) : (queue.rewriteItem slotId rewrite).2.ActiveNamed := by
  obtain ⟨ids, active, -⟩ := @rewriteItem_frame queue slotId rewrite
  exact named.grow active (by rw [ids]; exact List.Subset.refl _)

theorem ActiveNamed.refreshedForSlots (named : queue.ActiveNamed)
    (fetched : List (QueueSlotId × EmbyItem)) : (queue.mergeRefreshForSlots fetched).2.ActiveNamed := by
  refine named.grow ?_ (by rw [mergeRefreshForSlots_slotIds]; exact List.Subset.refl _)
  rw [mergeRefreshForSlots_eq]
  split <;> rfl

theorem mergeRefresh_activeNamed (items : List EmbyItem) : (queue.mergeRefresh items).2.ActiveNamed := by
  obtain ⟨-, changes, settled⟩ := mergeRefresh_spec queue items
  have named := dropDeadActive_activeNamed { queue with slots := refreshedFrom queue.activeSlotId items [] queue.slots }
  by_cases changed : Changes queue.activeSlotId items [] queue.slots
  · rw [changes changed]
    exact named
  · rw [settled changed]
    exact named

end PlaybackQueue

namespace QueueOp

variable {queue : PlaybackQueue}

theorem apply_minted (named : queue.ActiveNamed) (op : QueueOp) : Minted queue (op.apply queue).2 := by
  cases op with
  | append item => exact .bump rfl
  | insert index item => exact .bump rfl
  | mintSlotId => exact .kept rfl rfl rfl
  | appendWithId slotId item => exact .bump rfl
  | replace items => exact replace_minted items
  | clear => exact clear_minted
  | truncateSlots len => exact truncateSlots_minted len
  | setActiveSlot slotId => exact setActiveSlot_minted slotId
  | clearActiveSlot => exact clearActiveSlot_minted
  | removeSlot slotId => exact removeSlot_minted slotId
  | removeActiveSlotConfirmed slotId => exact removeActiveSlotConfirmed_minted slotId
  | consumeSlot slotId => exact removeExistingSlot_minted slotId
  | reorderSlots order => exact reorderSlots_minted order
  | moveSlot slotId toIndex => exact moveSlot_minted slotId toIndex
  | updateSlotItem slotId item => exact rewriteItem_minted slotId _
  | applyProgress slotId positionTicks played => exact rewriteItem_minted slotId _
  | mergeRefresh items => exact mergeRefresh_minted named items
  | mergeRefreshForSlots fetched => exact mergeRefreshForSlots_minted fetched

theorem apply_activeNamed (named : queue.ActiveNamed) (op : QueueOp) : (op.apply queue).2.ActiveNamed := by
  cases op with
  | append item => exact named.inserted _ item
  | insert index item => exact named.inserted index item
  | mintSlotId => exact named
  | appendWithId slotId item =>
    refine named.grow rfl fun id member => ?_
    exact map_subset _ (subset_append_left _ _) member
  | replace items =>
    intro id marker
    have active := (@pushAll_mint { queue with slots := [], activeSlotId := none } items).2.2
    have none : ((apply queue (replace items)).2).activeSlotId = none := active
    rw [none] at marker
    cases marker
  | clear =>
    show queue.clear.ActiveNamed
    unfold PlaybackQueue.clear
    split
    · exact named
    · exact fun id marker => by cases marker
  | truncateSlots len =>
    show (queue.truncateSlots len).ActiveNamed
    unfold PlaybackQueue.truncateSlots
    split
    · exact named
    · exact dropDeadActive_activeNamed _
  | setActiveSlot slotId => exact named.activated slotId
  | clearActiveSlot =>
    show queue.clearActiveSlot.ActiveNamed
    unfold PlaybackQueue.clearActiveSlot
    split
    · exact fun id marker => by cases marker
    · exact named
  | removeSlot slotId =>
    show (queue.removeSlot slotId).2.ActiveNamed
    unfold PlaybackQueue.removeSlot
    split
    · exact named
    · exact named.removed slotId
  | removeActiveSlotConfirmed slotId => exact named.removedConfirmed slotId
  | consumeSlot slotId => exact named.removed slotId
  | reorderSlots order => exact named.reordered order
  | moveSlot slotId toIndex => exact named.moved slotId toIndex
  | updateSlotItem slotId item => exact named.rewritten slotId _
  | applyProgress slotId positionTicks played => exact named.rewritten slotId _
  | mergeRefresh items => exact mergeRefresh_activeNamed items
  | mergeRefreshForSlots fetched => exact named.refreshedForSlots fetched

end QueueOp

/-! ### No revision for nothing -/

def Agreeing (fetched : List (QueueSlotId × EmbyItem)) : Prop :=
  ∀ pair ∈ fetched, ∀ other ∈ fetched, pair.1 = other.1 → pair.2 = other.2

instance (fetched : List (QueueSlotId × EmbyItem)) : Decidable (Agreeing fetched) := by
  unfold Agreeing
  infer_instance

section Unchanged

variable {queue : PlaybackQueue}

theorem setActiveSlot_unchanged {slotId : QueueSlotId} (same : (queue.setActiveSlot slotId).2.content = queue.content) :
    (queue.setActiveSlot slotId).2.revision = queue.revision := by
  unfold setActiveSlot at same ⊢
  split
  · rfl
  · rename_i live
    rw [if_neg live] at same
    split
    · rename_i other
      rw [if_pos other] at same
      exact absurd (congrArg Prod.snd same).symm other
    · rfl

theorem reorderSlots_unchanged {order : List QueueSlotId} (same : (queue.reorderSlots order).2.content = queue.content) :
    (queue.reorderSlots order).2.revision = queue.revision := by
  unfold reorderSlots at same ⊢
  by_cases standing : queue.slotIds = order
  · rw [if_pos standing]
  · rw [if_neg standing] at same ⊢
    by_cases foreign : (!isSlotPermutation queue.slotIds order) = true
    · rw [if_pos foreign]
    · rw [if_neg foreign] at same
      rw [Bool.not_eq_true', Bool.not_eq_false, isSlotPermutation_iff] at foreign
      have slots : takeInOrder queue.slots order = queue.slots := congrArg Prod.fst same
      have distinct : (queue.slots.map (·.slotId)).Nodup := by
        rw [← slots]
        exact takeInOrder_nodup _ _
      have asked := takeInOrder_slotIds order queue.slots distinct foreign
      rw [slots] at asked
      exact absurd asked standing

theorem rewriteItem_unchanged {slotId : QueueSlotId} {rewrite : QueueItem → QueueItem}
    (same : (queue.rewriteItem slotId rewrite).2.content = queue.content) :
    (queue.rewriteItem slotId rewrite).2.revision = queue.revision := by
  unfold rewriteItem at same ⊢
  cases found : queue.slotIndex slotId with
  | none => rfl
  | some index =>
    rw [found] at same
    dsimp only at same ⊢
    cases there : queue.slots[index]? with
    | none => rfl
    | some slot =>
      rw [there] at same
      dsimp only at same ⊢
      by_cases equal : queueItemsEqual (rewrite slot.item) slot.item = true
      · rw [if_pos equal]
      · rw [if_neg equal] at same
        have slots : queue.slots.set index { slot with item := rewrite slot.item } = queue.slots := congrArg Prod.fst same
        have kept := congrArg QueueSlot.item ((set_eq_self_iff there).mp slots)
        exact absurd (beq_iff_eq.mpr kept) equal

theorem mergeRefresh_unchanged {items : List EmbyItem} (same : (queue.mergeRefresh items).2.content = queue.content) :
    (queue.mergeRefresh items).2.revision = queue.revision := by
  have slots : (queue.mergeRefresh items).2.slots = queue.slots := congrArg Prod.fst same
  rw [mergeRefresh_slots] at slots
  rw [(mergeRefresh_spec queue items).2.2 (refreshedFrom_eq_iff.mp slots)]
  exact (dropDeadActive_revision _).1

theorem mergeRefreshForSlots_unchanged {fetched : List (QueueSlotId × EmbyItem)} (agree : Agreeing fetched)
    (same : (queue.mergeRefreshForSlots fetched).2.content = queue.content) :
    (queue.mergeRefreshForSlots fetched).2.revision = queue.revision := by
  have slots : fetched.foldl (refreshOne queue.activeSlotId) queue.slots = queue.slots := by
    have slots := congrArg Prod.fst same
    rw [mergeRefreshForSlots_eq] at slots
    by_cases none : changingPairs queue.activeSlotId queue.slots fetched ≠ []
    · rw [if_pos none] at slots
      exact slots
    · rw [if_neg none] at slots
      exact slots
  rw [mergeRefreshForSlots_eq, if_neg (not_not.mpr (changingPairs_of_unchanged agree slots))]

end Unchanged

/-! ### Every moment of an owner's queue -/

/-- What happens to an owner's queue while its mint is shared with whatever replaces the queue. A
    rebased queue was built and edited elsewhere. -/
inductive RevisionInput where
  | edit (op : QueueOp)
  | fromQueueItems (items : List QueueItem) (activeIndex : Option Nat)
  | fromSlotItems (slots : List (QueueSlotId × QueueItem)) (activeSlotId : Option QueueSlotId)
  | rebase (build : QueueBuild) (edits : List QueueOp)
  | mintElsewhere

/-- `drawn` counts the revisions the mint has given out. -/
structure RevisionHistory where
  queue : PlaybackQueue
  drawn : Nat

namespace RevisionHistory

def next (queue : PlaybackQueue) : RevisionInput → PlaybackQueue
  | .edit op => (op.apply queue).2
  | .fromQueueItems items activeIndex => PlaybackQueue.fromQueueItems items activeIndex queue.mint
  | .fromSlotItems slots activeSlotId => PlaybackQueue.fromSlotItems slots activeSlotId queue.mint
  | .rebase build edits =>
    (QueueHistory.machine.run build.start edits).queue.rebaseRevisionMint queue.mint
  | .mintElsewhere => { queue with mint := queue.mint + 1 }

def machine : Machine RevisionHistory RevisionInput where
  step history input :=
    let queue := next history.queue input
    { queue := queue
      drawn := if queue.mint = history.queue.mint then history.drawn else history.drawn + 1 }

def opened (build : QueueBuild) : RevisionHistory := ⟨build.start.queue, 1⟩

def view : Machine.StampView RevisionHistory (List QueueSlot × Option QueueSlotId) UInt64 where
  content history := history.queue.content
  stamp history := history.queue.revision
  counter history := history.queue.mint
  drawn := drawn

def RefreshAgrees (_ : RevisionHistory) : RevisionInput → Prop
  | .edit (.mergeRefreshForSlots fetched) => Agreeing fetched
  | _ => True

instance (history : RevisionHistory) (input : RevisionInput) :
    Decidable (history.RefreshAgrees input) := by
  unfold RefreshAgrees
  split <;> infer_instance

def Compares : QueueOp → Prop
  | .reorderSlots _ | .updateSlotItem _ _ | .applyProgress _ _ _ | .setActiveSlot _
  | .mergeRefresh _ | .mergeRefreshForSlots _ => True
  | _ => False

instance : ∀ op, Decidable (Compares op)
  | .reorderSlots _ | .updateSlotItem _ _ | .applyProgress _ _ _ | .setActiveSlot _
  | .mergeRefresh _ | .mergeRefreshForSlots _ => isTrue trivial
  | .append _ | .insert _ _ | .mintSlotId | .appendWithId _ _ | .replace _ | .clear
  | .truncateSlots _ | .clearActiveSlot | .removeSlot _ | .removeActiveSlotConfirmed _
  | .consumeSlot _ | .moveSlot _ _ => isFalse id

/-- A comparing mutation that changes nothing keeps the revision. -/
def KeepsUnchanged (history : RevisionHistory) : RevisionInput → Prop
  | .edit op => Compares op → (op.apply history.queue).2.content = history.queue.content →
    (op.apply history.queue).2.revision = history.queue.revision
  | _ => True

instance (history : RevisionHistory) (input : RevisionInput) :
    Decidable (history.KeepsUnchanged input) := by
  unfold KeepsUnchanged
  split <;> infer_instance

theorem opened_activeNamed (build : QueueBuild) : (opened build).queue.ActiveNamed := by
  intro id marker
  cases build with
  | fromQueueItems items activeIndex mint =>
    obtain ⟨index, -, there⟩ := Option.bind_eq_some_iff.mp marker
    obtain ⟨slot, hit, rfl⟩ := Option.map_eq_some_iff.mp there
    exact mem_map_of_mem (mem_of_getElem? hit)
  | fromSlotItems slots activeSlotId mint =>
    have held := (Option.filter_eq_some_iff.mp marker).2
    obtain ⟨slot, there, same⟩ := any_eq_true.mp held
    rw [← eq_of_beq same]
    exact mem_map_of_mem (mem_map_of_mem there)

theorem opened_numbered (build : QueueBuild) : view.Numbered (· + 1) (opened build).queue.revision 0 (opened build) where
  stamp := rfl
  counter := by
    cases build with
    | fromQueueItems items activeIndex mint =>
      obtain ⟨counter, stamp, -⟩ := @pushAll_mint ⟨[], none, mint, mint + 1, 1⟩ items
      exact counter.trans (congrArg (· + 1) stamp.symm)
    | fromSlotItems slots activeSlotId mint => rfl
  drawn := Nat.one_pos

theorem edits_activeNamed (build : QueueBuild) (edits : List QueueOp) :
    (QueueHistory.machine.run build.start edits).queue.ActiveNamed :=
  @Machine.run_holds _ _ QueueHistory.machine (fun history => history.queue.ActiveNamed)
    (fun _ op named => op.apply_activeNamed named) _ edits (opened_activeNamed build)

theorem step_activeNamed (history : RevisionHistory) (input : RevisionInput)
    (named : history.queue.ActiveNamed) : (machine.step history input).queue.ActiveNamed := by
  cases input with
  | edit op => exact op.apply_activeNamed named
  | fromQueueItems items activeIndex =>
    exact opened_activeNamed (.fromQueueItems items activeIndex history.queue.mint)
  | fromSlotItems slots activeSlotId =>
    exact opened_activeNamed (.fromSlotItems slots activeSlotId history.queue.mint)
  | rebase build edits => exact edits_activeNamed build edits
  | mintElsewhere => exact named

theorem stamped {history : RevisionHistory} {input : RevisionInput}
    (revision : (next history.queue input).revision = history.queue.mint)
    (mint : (next history.queue input).mint = history.queue.mint + 1) :
    view.StampStep (· + 1) history (machine.step history input) := by
  refine .stamped revision mint ?_
  have apart : (next history.queue input).mint ≠ history.queue.mint := by
    rw [mint]
    grind
  exact if_neg apart

theorem step_stamps (history : RevisionHistory) (input : RevisionInput) (named : history.queue.ActiveNamed) :
    view.StampStep (· + 1) history (machine.step history input) := by
  cases input with
  | edit op =>
    cases op.apply_minted named with
    | kept content revision mint => exact .kept content revision 0 mint (if_pos mint)
    | bumped revision mint => exact stamped revision mint
  | fromQueueItems items activeIndex =>
    obtain ⟨mint, revision, -⟩ := @pushAll_mint ⟨[], none, history.queue.mint, history.queue.mint + 1, 1⟩ items
    exact stamped revision mint
  | fromSlotItems slots activeSlotId => exact stamped rfl rfl
  | rebase build edits => exact stamped rfl rfl
  | mintElsewhere =>
    refine .kept rfl rfl 1 rfl (if_neg ?_)
    show history.queue.mint + 1 ≠ history.queue.mint
    grind

theorem step_keeps (history : RevisionHistory) (input : RevisionInput)
    (agrees : history.RefreshAgrees input) : history.KeepsUnchanged input := by
  cases input with
  | edit op =>
    intro compares same
    cases op with
    | reorderSlots order => exact reorderSlots_unchanged same
    | updateSlotItem slotId item => exact rewriteItem_unchanged same
    | applyProgress slotId positionTicks played => exact rewriteItem_unchanged same
    | setActiveSlot slotId => exact setActiveSlot_unchanged same
    | mergeRefresh items => exact mergeRefresh_unchanged same
    | mergeRefreshForSlots fetched => exact mergeRefreshForSlots_unchanged agrees same
    | _ => exact compares.elim
  | _ => trivial

theorem iterate_succ (base : UInt64) (n : Nat) : (· + 1)^[n] base = base + UInt64.ofNat n := by
  induction n with
  | zero => simp
  | succ n ih =>
    rw [Function.iterate_succ_apply', ih, UInt64.ofNat_add, ← UInt64.add_assoc]
    rfl

theorem revisions_apart (base : UInt64) (a b : Nat) (before : a < b) (within : b < 2 ^ 64) :
    (· + 1)^[a] base ≠ (· + 1)^[b] base := by
  rw [iterate_succ, iterate_succ]
  intro same
  have raw := congrArg UInt64.toNat ((UInt64.add_right_inj base).mp same)
  rw [UInt64.toNat_ofNat_of_lt' (Nat.lt_trans before within), UInt64.toNat_ofNat_of_lt' within] at raw
  omega

/-- The owner's queue after the first `count` inputs. -/
def moment (build : QueueBuild) (inputs : List RevisionInput) (count : Nat) : RevisionHistory :=
  machine.run (opened build) (inputs.take count)

section Moments

variable {build : QueueBuild} {inputs : List RevisionInput}

theorem run_drawn (history : RevisionHistory) (inputs : List RevisionInput) :
    history.drawn ≤ (machine.run history inputs).drawn := by
  refine @Machine.run_holds _ _ machine (fun later => history.drawn ≤ later.drawn) ?_ _ inputs (Nat.le_refl _)
  intro later input grown
  have drawn : history.drawn ≤ later.drawn := grown
  show history.drawn ≤ if _ then later.drawn else later.drawn + 1
  split
  · exact drawn
  · exact Nat.le_succ_of_le drawn

theorem moment_drawn (count : Nat) : (moment build inputs count).drawn ≤ (machine.run (opened build) inputs).drawn := by
  have later := run_drawn (moment build inputs count) (inputs.drop count)
  unfold moment at later ⊢
  rwa [← Machine.run_append, take_append_drop] at later

theorem moment_names {i j : Nat} (order : i ≤ j) (fits : (machine.run (opened build) inputs).drawn ≤ 2 ^ 64)
    (same : (moment build inputs i).queue.revision = (moment build inputs j).queue.revision) :
    (moment build inputs i).queue.content = (moment build inputs j).queue.content := by
  have always : ∀ inputs : List RevisionInput, machine.Along (fun _ _ => True) (opened build) inputs :=
    fun inputs => Machine.along_of_forall fun _ _ _ => trivial
  have keep := fun history input (named : history.queue.ActiveNamed) (_ : True) =>
    step_activeNamed history input named
  have steps := fun history input (named : history.queue.ActiveNamed) (_ : True) =>
    step_stamps history input named
  have split : inputs.take j = inputs.take i ++ (inputs.take j).drop i := by
    have parts := take_append_drop i (inputs.take j)
    rw [take_take, Nat.min_eq_left order] at parts
    exact parts.symm
  have bound : (moment build inputs j).drawn ≤ 2 ^ 64 := Nat.le_trans (moment_drawn j) fits
  unfold moment at same bound ⊢
  rw [split] at same bound ⊢
  exact view.run_stamp_names keep steps (opened_activeNamed build) (always _) (opened_numbered build)
    (revisions_apart _) bound same

/-- At any two moments with one revision the queue shows one content, and no comparing mutation that
    changes nothing takes a revision. -/
theorem revision_names_one_content (build : QueueBuild) (inputs : List RevisionInput)
    (fits : (machine.run (opened build) inputs).drawn ≤ 2 ^ 64)
    (agree : machine.Along RefreshAgrees (opened build) inputs) :
    (∀ i j, (moment build inputs i).queue.revision = (moment build inputs j).queue.revision →
      (moment build inputs i).queue.content = (moment build inputs j).queue.content) ∧
      machine.Along KeepsUnchanged (opened build) inputs := by
  refine ⟨fun i j same => ?_, agree.mono step_keeps⟩
  rcases Nat.le_total i j with order | order
  · exact moment_names order fits same
  · exact (moment_names order fits same.symm).symm

end Moments

def fetchedAs (name : String) : EmbyItem :=
  ⟨"e", name, "Movie", "Video", 0, false, 0, "", 0, 0, ""⟩

def oneItem : QueueBuild := .fromQueueItems [.emby (fetchedAs "old")] none 0

theorem revision_names_one_content_refreshed :
    let inputs : List RevisionInput :=
      [.edit (.mergeRefreshForSlots [(⟨1⟩, fetchedAs "new")]), .edit (.setActiveSlot ⟨1⟩),
        .fromSlotItems [(⟨4⟩, .emby (fetchedAs "old"))] (some ⟨4⟩)]
    (∀ i j, (moment oneItem inputs i).queue.revision = (moment oneItem inputs j).queue.revision →
      (moment oneItem inputs i).queue.content = (moment oneItem inputs j).queue.content) ∧
      machine.Along KeepsUnchanged (opened oneItem) inputs :=
  revision_names_one_content _ _ (by decide) (by decide)

theorem run_moves {history : RevisionHistory} {slotId : QueueSlotId} {toIndex : Nat}
    (held : (history.queue.slotIndex slotId).isSome = true)
    (still : Keyed.move (·.slotId) slotId toIndex history.queue.slots = history.queue.slots)
    (fresh : history.queue.mint = history.queue.revision + 1) (count : Nat) :
    (machine.run history (List.replicate count (.edit (.moveSlot slotId toIndex)))).queue = { history.queue with
        revision := history.queue.revision + UInt64.ofNat count
        mint := history.queue.revision + UInt64.ofNat count + 1 } := by
  induction count generalizing history with
  | zero =>
    show history.queue = _
    simp [← fresh]
  | succ count ih =>
    obtain ⟨index, found⟩ := Option.isSome_iff_exists.mp held
    have moved : (machine.step history (.edit (.moveSlot slotId toIndex))).queue =
        history.queue.bump := by
      show (history.queue.moveSlot slotId toIndex).2 = _
      unfold moveSlot
      rw [found, still]
    rw [replicate_succ, Machine.run_cons, ih (by rw [moved]; exact held)
      (by rw [moved]; exact still) (by rw [moved]; exact congrArg (· + 1) rfl), moved]
    have next : history.queue.revision + 1 + UInt64.ofNat count = history.queue.revision + UInt64.ofNat (count + 1) := by
      rw [UInt64.ofNat_add, UInt64.add_assoc, UInt64.add_comm (UInt64.ofNat count)]
      rfl
    simp only [PlaybackQueue.bump, fresh, next]

/-- A slot fetched twice, the second time as it was, takes a revision for nothing; and a mint that
    comes round shows two contents under one revision. -/
theorem refresh_takes_revision_for_nothing :
    ¬ machine.Along KeepsUnchanged (opened oneItem) [.edit (.mergeRefreshForSlots
        [(⟨1⟩, fetchedAs "new"), (⟨1⟩, fetchedAs "old")])] ∧
      ∃ inputs : List RevisionInput, ∃ i j,
        (moment oneItem inputs i).queue.revision = (moment oneItem inputs j).queue.revision ∧
          (moment oneItem inputs i).queue.content ≠ (moment oneItem inputs j).queue.content := by
  refine ⟨by decide, ?_⟩
  obtain ⟨count, wraps⟩ : ∃ count : Nat, (1 : UInt64) + UInt64.ofNat count = 0 := ⟨2 ^ 64 - 1, by decide⟩
  have round := @run_moves (machine.step (opened oneItem) (.edit (.append (.emby (fetchedAs "other")))))
    ⟨2⟩ 1 (by decide) (by decide) (by decide) count
  have revision : (machine.step (opened oneItem)
      (.edit (.append (.emby (fetchedAs "other"))))).queue.revision = 1 := by decide
  refine ⟨.edit (.append (.emby (fetchedAs "other"))) :: List.replicate count (.edit (.moveSlot ⟨2⟩ 1)),
    0, count + 1, ?_⟩
  have whole : moment oneItem (.edit (.append (.emby (fetchedAs "other"))) ::
      List.replicate count (.edit (.moveSlot ⟨2⟩ 1))) (count + 1) =
        machine.run (machine.step (opened oneItem) (.edit (.append (.emby (fetchedAs "other")))))
          (List.replicate count (.edit (.moveSlot ⟨2⟩ 1))) := by
    unfold moment
    rw [take_of_length_le (by simp), Machine.run_cons]
  have opening : ∀ inputs, moment oneItem inputs 0 = opened oneItem := fun _ => rfl
  rw [whole, round, revision, wraps, opening]
  constructor <;> decide

end RevisionHistory

end Mbv.Queue
