import Mbv.Queue.Refresh
import Mathlib.Data.List.Induction

namespace Mbv.Queue

open PlaybackQueue List

/-! ### The fetched copies of an item -/

def copiesOf (items : List EmbyItem) (id : String) : List EmbyItem := items.filter (·.id = id)

theorem lookup_update {entries : FetchedItems} {key other : QueueItemContentId} {found : FetchedItemMatches} :
    (entries.map fun entry => if entry.1 = key then (entry.1, found) else entry).lookup other =
      if other = key then (entries.lookup other).map fun _ => found else entries.lookup other := by
  induction entries with
  | nil => simp
  | cons entry entries ih =>
    obtain ⟨name, held⟩ := entry
    rw [map_cons]
    by_cases first : other = name
    · subst first
      by_cases here : other = key
      · simp [here]
      · simp [here]
    · have apart : (other == name) = false := beq_eq_false_iff_ne.mpr first
      by_cases here : name = key
      · simp only [here, if_true, lookup_cons, here ▸ apart]
        rw [ih]
      · simp only [here, if_false, lookup_cons, apart]
        exact ih

def CursorsAt (items : List EmbyItem) (cursor : String → Nat) (fetched : FetchedItems) : Prop :=
  ∀ id, fetched.lookup (.emby id) =
    if copiesOf items id = [] then none else some ⟨copiesOf items id, cursor id⟩

theorem copiesOf_snoc (items : List EmbyItem) (item : EmbyItem) (id : String) :
    copiesOf (items ++ [item]) id = copiesOf items id ++ if item.id = id then [item] else [] := by
  unfold copiesOf
  rw [filter_append]
  congr 1
  by_cases same : item.id = id
  · simp [same]
  · simp [same]

theorem group_snoc (items : List EmbyItem) (item : EmbyItem) : groupFetchedItemsByItemId (items ++ [item]) =
      match (groupFetchedItemsByItemId items).lookup (.emby item.id) with
      | some found =>
        (groupFetchedItemsByItemId items).map fun entry =>
          if entry.1 = .emby item.id then
            (.emby item.id, { found with items := found.items ++ [item] }) else entry
      | none => groupFetchedItemsByItemId items ++ [(.emby item.id, ⟨[item], 0⟩)] := by
  unfold groupFetchedItemsByItemId
  rw [foldl_append]
  rfl

theorem grouped_cursors (items : List EmbyItem) : CursorsAt items (fun _ => 0) (groupFetchedItemsByItemId items) := by
  induction items using List.reverseRecOn with
  | nil => intro id; rfl
  | append_singleton items item ih =>
    intro id
    have own := ih item.id
    have held := ih id
    rw [group_snoc, copiesOf_snoc]
    generalize groupFetchedItemsByItemId items = grouped at own held ⊢
    by_cases none : copiesOf items item.id = []
    · rw [none, if_pos rfl] at own
      rw [own]
      dsimp only
      rw [lookup_append, held]
      by_cases same : item.id = id
      · subst same
        simp [none]
      · have apart : id ≠ item.id := fun equal => same equal.symm
        by_cases empty : copiesOf items id = []
        · simp [empty, same, apart]
        · simp [empty, same]
    · rw [if_neg none] at own
      rw [own]
      dsimp only
      have renamed : (fun entry : QueueItemContentId × FetchedItemMatches =>
          if entry.1 = .emby item.id then
            (QueueItemContentId.emby item.id, (⟨copiesOf items item.id ++ [item], 0⟩ : FetchedItemMatches))
          else entry) = fun entry => if entry.1 = .emby item.id then
            (entry.1, ⟨copiesOf items item.id ++ [item], 0⟩) else entry := by
        funext entry
        split
        · rename_i here
          rw [here]
        · rfl
      rw [renamed, lookup_update, held]
      by_cases same : item.id = id
      · subst same
        simp [none]
      · have apart : id ≠ item.id := fun equal => same equal.symm
        simp [same, apart]

/-! ### What a refresh makes of one slot -/

def takenBefore (before : List QueueSlot) (id : String) : Nat :=
  (before.filter fun slot => slot.item.contentId = .emby id).length

/-- The next copy of the item, or its last one when there are no more. -/
def copyFor (items : List EmbyItem) (before : List QueueSlot) (id : String) : Option EmbyItem :=
  (copiesOf items id)[min (takenBefore before id) ((copiesOf items id).length - 1)]?

def refreshedItem (activeSlotId : Option QueueSlotId) (items : List EmbyItem) (before : List QueueSlot)
    (slot : QueueSlot) : QueueItem :=
  match slot.item with
  | .emby held => ((copyFor items before held.id).map (mergedItem activeSlotId slot)).getD slot.item
  | item => item

/-- Only an Emby slot that does not play and was not fetched at all is pruned. -/
def survives (activeSlotId : Option QueueSlotId) (items : List EmbyItem) (slot : QueueSlot) : Bool :=
  !slot.item.isEmby || activeSlotId = some slot.slotId ||
    items.any fun item => slot.item.contentId = .emby item.id

theorem copyFor_none {items : List EmbyItem} {before : List QueueSlot} {id : String} :
    copyFor items before id = none ↔ copiesOf items id = [] := by
  unfold copyFor
  rw [List.getElem?_eq_none_iff]
  constructor
  · intro short
    apply eq_nil_of_length_eq_zero
    omega
  · intro empty
    simp [empty]

theorem copiesOf_nil {items : List EmbyItem} {id : String} :
    copiesOf items id = [] ↔ (items.any fun item => QueueItemContentId.emby id = .emby item.id) = false := by
  unfold copiesOf
  rw [filter_eq_nil_iff, any_eq_false]
  simp [eq_comm]

variable {activeSlotId : Option QueueSlotId} {items : List EmbyItem}

structure SlotRefreshed (activeSlotId : Option QueueSlotId) (items : List EmbyItem)
    (before : List QueueSlot) (slot : QueueSlot) (state next : RefreshState) : Prop where
  slots : next.merged.slots = state.merged.slots ++
    if survives activeSlotId items slot then
      [{ slot with item := refreshedItem activeSlotId items before slot }] else []
  pruned : next.merged.result.prunedSlots = state.merged.result.prunedSlots ++
    if survives activeSlotId items slot then [] else [slot.slotId]
  changed : next.merged.changed = true ↔ state.merged.changed = true ∨
    survives activeSlotId items slot = false ∨ refreshedItem activeSlotId items before slot ≠ slot.item
  cursors : CursorsAt items (takenBefore (before ++ [slot])) next.fetched

theorem takenBefore_snoc (before : List QueueSlot) (slot : QueueSlot) (id : String) :
    takenBefore (before ++ [slot]) id = takenBefore before id + if slot.item.contentId = .emby id then 1 else 0 := by
  unfold takenBefore
  rw [filter_append, length_append]
  by_cases same : slot.item.contentId = .emby id
  · simp [same]
  · simp [same]

theorem contentId_of_notEmby {item : QueueItem} (other : item.isEmby = false) (id : String) : item.contentId ≠ .emby id := by
  rcases item with _ | _ | (_ | _) | _
  · cases other
  all_goals exact (fun none => by cases none)

theorem refreshSlot_other {before : List QueueSlot} {state : RefreshState} {slot : QueueSlot}
    (cursors : CursorsAt items (takenBefore before) state.fetched) (other : slot.item.isEmby = false) :
    SlotRefreshed activeSlotId items before slot state (refreshSlot activeSlotId state slot) := by
  have stays : survives activeSlotId items slot = true := by simp [survives, other]
  have unchanged : refreshedItem activeSlotId items before slot = slot.item := by
    unfold refreshedItem
    split
    · rename_i held emby
      rw [emby] at other
      cases other
    · rfl
  have kept : refreshSlot activeSlotId state slot = { state with merged := { state.merged with
          slots := state.merged.slots ++ [slot]
          result := if shouldProtectMissingSlot slot activeSlotId then
            { state.merged.result with
              protectedSlots := state.merged.result.protectedSlots ++ [slot.slotId] }
            else state.merged.result } } := by
    unfold refreshSlot
    dsimp only
    rw [other]
    rfl
  rw [kept]
  constructor
  · simp [stays, unchanged]
  · dsimp only
    rw [stays]
    split <;> simp
  · simp [stays, unchanged]
  · intro id
    have same := cursors id
    rw [takenBefore_snoc, if_neg (contentId_of_notEmby other id)]
    exact same

theorem refreshSlot_missing {before : List QueueSlot} {state : RefreshState} {slot : QueueSlot}
    {held : EmbyItem} (cursors : CursorsAt items (takenBefore before) state.fetched)
    (emby : slot.item = .emby held) (none : copiesOf items held.id = []) :
    SlotRefreshed activeSlotId items before slot state (refreshSlot activeSlotId state slot) := by
  have content : slot.item.contentId = .emby held.id := by
    rw [emby]
    rfl
  have lookup := cursors held.id
  rw [if_pos none] at lookup
  have stays : survives activeSlotId items slot = decide (activeSlotId = some slot.slotId) := by
    unfold survives
    simp only [content, copiesOf_nil.mp none]
    simp [emby, QueueItem.isEmby]
  have unchanged : refreshedItem activeSlotId items before slot = slot.item := by
    unfold refreshedItem
    rw [emby]
    simp [copyFor_none.mpr none]
  have step : refreshSlot activeSlotId state slot = if activeSlotId = some slot.slotId then
        { state with merged := { state.merged with
            slots := state.merged.slots ++ [slot]
            result := { state.merged.result with
              protectedSlots := state.merged.result.protectedSlots ++ [slot.slotId] } } }
      else
        { state with merged := { state.merged with
            result := { state.merged.result with
              prunedSlots := state.merged.result.prunedSlots ++ [slot.slotId] }
            changed := true } } := by
    unfold refreshSlot
    dsimp only
    rw [content, lookup]
    simp [emby, QueueItem.isEmby, shouldProtectMissingSlot]
  have later : CursorsAt items (takenBefore (before ++ [slot])) state.fetched := by
    intro id
    rw [cursors id, takenBefore_snoc, content]
    by_cases same : held.id = id
    · simp [← same, none]
    · simp [same]
  rw [step]
  by_cases active : activeSlotId = some slot.slotId
  · rw [decide_eq_true active] at stays
    rw [if_pos active]
    constructor
    · simp [stays, unchanged]
    · simp [stays]
    · simp [stays, unchanged]
    · exact later
  · rw [decide_eq_false active] at stays
    rw [if_neg active]
    constructor
    · simp [stays]
    · simp [stays]
    · simp [stays]
    · exact later

theorem refreshSlot_matched {before : List QueueSlot} {state : RefreshState} {slot : QueueSlot}
    {held copy : EmbyItem} (cursors : CursorsAt items (takenBefore before) state.fetched)
    (emby : slot.item = .emby held) (taken : copyFor items before held.id = some copy) :
    SlotRefreshed activeSlotId items before slot state (refreshSlot activeSlotId state slot) := by
  have content : slot.item.contentId = .emby held.id := by
    rw [emby]
    rfl
  have some' : copiesOf items held.id ≠ [] := by
    intro none
    rw [copyFor_none.mpr none] at taken
    cases taken
  have lookup := cursors held.id
  rw [if_neg some'] at lookup
  have stays : survives activeSlotId items slot = true := by
    have fetched := mt copiesOf_nil.mpr some'
    rw [Bool.not_eq_false] at fetched
    simp only [survives, content, fetched, Bool.or_true]
  have merged : refreshedItem activeSlotId items before slot = mergedItem activeSlotId slot copy := by
    unfold refreshedItem
    rw [emby]
    simp [taken]
  have handed : FetchedItemMatches.nextMatch ⟨copiesOf items held.id, takenBefore before held.id⟩ =
      (some copy, ⟨copiesOf items held.id, takenBefore before held.id + 1⟩) := by
    unfold FetchedItemMatches.nextMatch
    rw [← taken]
    rfl
  have step : refreshSlot activeSlotId state slot =
      { fetched := state.fetched.map fun entry =>
          if entry.1 = .emby held.id then
            (entry.1, ⟨copiesOf items held.id, takenBefore before held.id + 1⟩) else entry
        merged :=
          { slots := state.merged.slots ++ [{ slot with item := mergedItem activeSlotId slot copy }]
            result := (mergeFetchedSlot slot copy activeSlotId state.merged.result).2
            changed := state.merged.changed ||
              !queueItemsEqual (mergedItem activeSlotId slot copy) slot.item } } := by
    unfold refreshSlot
    dsimp only
    rw [content, lookup, Option.map_some, handed]
    simp only [emby, QueueItem.isEmby, Bool.not_true, Bool.false_eq_true, if_false]
    rw [mergeFetchedSlot_slot]
  rw [step]
  constructor
  · simp [stays, merged]
  · simp [stays, mergeFetchedSlot_pruned]
  · simp [stays, merged, queueItemsEqual]
  · intro id
    dsimp only
    rw [lookup_update, cursors id, takenBefore_snoc, content]
    by_cases same : held.id = id
    · subst same
      simp [some']
    · have apart : id ≠ held.id := fun equal => same equal.symm
      simp [same, apart]

theorem refreshSlot_spec {before : List QueueSlot} {state : RefreshState} (slot : QueueSlot)
    (cursors : CursorsAt items (takenBefore before) state.fetched) :
    SlotRefreshed activeSlotId items before slot state (refreshSlot activeSlotId state slot) := by
  cases emby : slot.item with
  | emby held =>
    cases taken : copyFor items before held.id with
    | none => exact refreshSlot_missing cursors emby (copyFor_none.mp taken)
    | some copy => exact refreshSlot_matched cursors emby taken
  | _ => exact refreshSlot_other cursors (by rw [emby]; rfl)

/-! ### The whole queue -/

def refreshedFrom (activeSlotId : Option QueueSlotId) (items : List EmbyItem) :
    List QueueSlot → List QueueSlot → List QueueSlot
  | _, [] => []
  | before, slot :: rest =>
    (if survives activeSlotId items slot then
      [{ slot with item := refreshedItem activeSlotId items before slot }] else []) ++
      refreshedFrom activeSlotId items (before ++ [slot]) rest

def Changes (activeSlotId : Option QueueSlotId) (items : List EmbyItem) (before slots : List QueueSlot) :
    Prop :=
  ∃ first slot last, slots = first ++ slot :: last ∧
    (survives activeSlotId items slot = false ∨
      refreshedItem activeSlotId items (before ++ first) slot ≠ slot.item)

theorem changes_cons {before slots : List QueueSlot} {slot : QueueSlot} :
    Changes activeSlotId items before (slot :: slots) ↔ (survives activeSlotId items slot = false ∨
        refreshedItem activeSlotId items before slot ≠ slot.item) ∨
        Changes activeSlotId items (before ++ [slot]) slots := by
  constructor
  · rintro ⟨first, other, last, split, changed⟩
    cases first with
    | nil =>
      obtain ⟨rfl, rfl⟩ := List.cons.inj split
      rw [append_nil] at changed
      exact .inl changed
    | cons head first =>
      obtain ⟨rfl, rfl⟩ := List.cons.inj split
      refine .inr ⟨first, other, last, rfl, ?_⟩
      rw [append_assoc]
      exact changed
  · rintro (changed | ⟨first, other, last, rfl, changed⟩)
    · refine ⟨[], slot, slots, rfl, ?_⟩
      rw [append_nil]
      exact changed
    · refine ⟨slot :: first, other, last, rfl, ?_⟩
      rw [append_assoc] at changed
      exact changed

theorem refreshSlots_spec (slots : List QueueSlot) {before : List QueueSlot} {state : RefreshState}
    (cursors : CursorsAt items (takenBefore before) state.fetched) :
    let merged := (slots.foldl (refreshSlot activeSlotId) state).merged
    merged.slots = state.merged.slots ++ refreshedFrom activeSlotId items before slots ∧
      merged.result.prunedSlots = state.merged.result.prunedSlots ++
        (slots.filter fun slot => !survives activeSlotId items slot).map (·.slotId) ∧
      (merged.changed = true ↔ state.merged.changed = true ∨ Changes activeSlotId items before slots) := by
  induction slots generalizing before state with
  | nil =>
    refine ⟨(append_nil _).symm, (append_nil _).symm, ?_⟩
    simp [Changes]
  | cons slot slots ih =>
    have first := @refreshSlot_spec activeSlotId items before state slot cursors
    obtain ⟨later, pruned, changed⟩ := ih first.cursors
    dsimp only at later pruned changed ⊢
    rw [foldl_cons, later, pruned, changed, first.slots, first.pruned, first.changed, changes_cons]
    refine ⟨?_, ?_, or_assoc⟩
    · rw [append_assoc]
      rfl
    · rw [append_assoc]
      cases stays : survives activeSlotId items slot <;> simp [stays]

theorem refreshedFrom_slotIds (slots : List QueueSlot) {before : List QueueSlot} :
    (refreshedFrom activeSlotId items before slots).map (·.slotId) =
      (slots.filter (survives activeSlotId items)).map (·.slotId) := by
  induction slots generalizing before with
  | nil => rfl
  | cons slot slots ih =>
    unfold refreshedFrom
    rw [map_append, ih, filter_cons]
    split <;> simp

theorem refreshedFrom_at {before first last : List QueueSlot} {slot : QueueSlot}
    (stays : survives activeSlotId items slot = true) :
    (refreshedFrom activeSlotId items before (first ++ slot :: last))[ (first.filter (survives activeSlotId items)).length]? =
      some { slot with item := refreshedItem activeSlotId items (before ++ first) slot } := by
  induction first generalizing before with
  | nil =>
    rw [nil_append, refreshedFrom, if_pos stays]
    simp
  | cons head first ih =>
    have later := @ih (before ++ [head])
    rw [append_assoc, singleton_append] at later
    rw [cons_append, refreshedFrom, filter_cons]
    split
    · rw [singleton_append, length_cons, List.getElem?_cons_succ]
      exact later
    · rw [nil_append]
      exact later

theorem refreshedFrom_eq_iff {slots : List QueueSlot} :
    refreshedFrom activeSlotId items [] slots = slots ↔ ¬ Changes activeSlotId items [] slots := by
  constructor
  · rintro same ⟨first, slot, last, split, changed⟩
    have kept : slots.filter (survives activeSlotId items) = slots := by
      apply filter_eq_self.mpr
      apply length_filter_eq_length_iff.mp
      have ids := congrArg List.length (@refreshedFrom_slotIds activeSlotId items slots [])
      rw [same, length_map, length_map] at ids
      exact ids.symm
    have every : ∀ other ∈ slots, survives activeSlotId items other = true := filter_eq_self.mp kept
    have stays : survives activeSlotId items slot = true := by
      apply every
      rw [split]
      exact mem_append_right _ mem_cons_self
    have before : first.filter (survives activeSlotId items) = first := by
      apply filter_eq_self.mpr
      intro other member
      apply every
      rw [split]
      exact mem_append_left _ member
    have here := @refreshedFrom_at activeSlotId items [] first last slot stays
    rw [← split, same, before, split, nil_append, List.getElem?_append_right (Nat.le_refl _),
      Nat.sub_self, List.getElem?_cons_zero] at here
    rcases changed with pruned | other
    · rw [stays] at pruned
      cases pruned
    · exact other (congrArg QueueSlot.item (Option.some.inj here)).symm
  · intro settled
    have kept : ∀ (before rest : List QueueSlot), ¬ Changes activeSlotId items before rest →
        refreshedFrom activeSlotId items before rest = rest := by
      intro before rest settled
      induction rest generalizing before with
      | nil => rfl
      | cons slot rest ih =>
        rw [changes_cons] at settled
        obtain ⟨here, later⟩ := not_or.mp settled
        obtain ⟨stays, same⟩ := not_or.mp here
        rw [Bool.not_eq_false] at stays
        rw [refreshedFrom, if_pos stays, ih _ later, not_not.mp same]
        rfl
    exact kept [] slots settled

structure ReconciledInPlace (queue : PlaybackQueue) (items : List EmbyItem) (result : RefreshMergeResult)
    (next : PlaybackQueue) : Prop where
  order : next.slotIds = (queue.slots.filter (survives queue.activeSlotId items)).map (·.slotId)
  pruned : result.prunedSlots =
    (queue.slots.filter fun slot => !survives queue.activeSlotId items slot).map (·.slotId)
  slots : ∀ before slot after, queue.slots = before ++ slot :: after →
    survives queue.activeSlotId items slot = true →
    next.slots[(before.filter (survives queue.activeSlotId items)).length]? =
      some { slot with item := refreshedItem queue.activeSlotId items before slot }
  other : ∀ before slot, slot.item.isEmby = false →
    refreshedItem queue.activeSlotId items before slot = slot.item
  active : ∀ before slot, queue.activeSlotId = some slot.slotId →
    survives queue.activeSlotId items slot = true ∧
      SlotProgress.fromQueueItem (refreshedItem queue.activeSlotId items before slot) =
        slot.localProgress
  marker : (∀ id ∈ queue.activeSlotId, id ∈ queue.slotIds) → next.activeSlotId = queue.activeSlotId
  kept : ¬ Changes queue.activeSlotId items [] queue.slots →
    next.revision = queue.revision ∧ next.mint = queue.mint
  minted : Changes queue.activeSlotId items [] queue.slots →
    next.revision = queue.mint ∧ next.mint = queue.mint + 1
  changes : queue.revision ≠ queue.mint →
    (next.revision ≠ queue.revision ↔ Changes queue.activeSlotId items [] queue.slots)

@[simp] theorem dropDeadActive_slots (queue : PlaybackQueue) : queue.dropDeadActive.slots = queue.slots := by
  unfold PlaybackQueue.dropDeadActive
  repeat' split
  all_goals rfl

theorem dropDeadActive_named {queue : PlaybackQueue} (named : ∀ id ∈ queue.activeSlotId, id ∈ queue.slotIds) :
    queue.dropDeadActive = queue := by
  unfold PlaybackQueue.dropDeadActive
  split
  · rename_i id marker
    rw [if_neg]
    rw [slotIndex_isNone]
    exact fun absent => absent (named id marker)
  · rfl

theorem dropDeadActive_revision (queue : PlaybackQueue) :
    queue.dropDeadActive.revision = queue.revision ∧ queue.dropDeadActive.mint = queue.mint := by
  unfold PlaybackQueue.dropDeadActive
  repeat' split
  all_goals exact ⟨rfl, rfl⟩

section Merged

variable (queue : PlaybackQueue) (items : List EmbyItem)

theorem mergeRefresh_spec : let refreshed := ({ queue with slots := refreshedFrom queue.activeSlotId items [] queue.slots } :
      PlaybackQueue).dropDeadActive
    (queue.mergeRefresh items).1.prunedSlots =
        (queue.slots.filter fun slot => !survives queue.activeSlotId items slot).map (·.slotId) ∧
      (Changes queue.activeSlotId items [] queue.slots → (queue.mergeRefresh items).2 = refreshed.bump) ∧
      (¬ Changes queue.activeSlotId items [] queue.slots → (queue.mergeRefresh items).2 = refreshed) := by
  have start : CursorsAt items (takenBefore []) (groupFetchedItemsByItemId items) := grouped_cursors items
  obtain ⟨slots, pruned, changed⟩ := @refreshSlots_spec queue.activeSlotId items queue.slots []
    ⟨groupFetchedItemsByItemId items, ⟨[], {}, false⟩⟩ start
  rw [nil_append] at slots pruned
  simp only [Bool.false_eq_true, false_or] at changed
  refine ⟨pruned, fun changes => ?_, fun settled => ?_⟩
  · unfold mergeRefresh
    dsimp only
    rw [slots, if_pos (changed.mpr changes)]
  · unfold mergeRefresh
    dsimp only
    rw [slots, if_neg (mt changed.mp settled)]

theorem mergeRefresh_slots : (queue.mergeRefresh items).2.slots = refreshedFrom queue.activeSlotId items [] queue.slots := by
  obtain ⟨-, changes, settled⟩ := mergeRefresh_spec queue items
  by_cases changed : Changes queue.activeSlotId items [] queue.slots
  · rw [changes changed, bump_slots, dropDeadActive_slots]
  · rw [settled changed, dropDeadActive_slots]

end Merged

theorem merge_refresh_reconciles (queue : PlaybackQueue) (items : List EmbyItem) :
    ReconciledInPlace queue items (queue.mergeRefresh items).1 (queue.mergeRefresh items).2 := by
  obtain ⟨pruned, changes, settled⟩ := mergeRefresh_spec queue items
  have refreshed := mergeRefresh_slots queue items
  have order : (queue.mergeRefresh items).2.slotIds =
      (queue.slots.filter (survives queue.activeSlotId items)).map (·.slotId) := by
    unfold slotIds
    rw [refreshed, refreshedFrom_slotIds]
  have protected' : ∀ slot : QueueSlot, queue.activeSlotId = some slot.slotId →
      survives queue.activeSlotId items slot = true := by
    intro slot active
    unfold survives
    rw [decide_eq_true active, Bool.or_true, Bool.true_or]
  have kept : ¬ Changes queue.activeSlotId items [] queue.slots →
      (queue.mergeRefresh items).2.revision = queue.revision ∧
        (queue.mergeRefresh items).2.mint = queue.mint := by
    intro none
    rw [settled none]
    exact dropDeadActive_revision _
  have minted : Changes queue.activeSlotId items [] queue.slots →
      (queue.mergeRefresh items).2.revision = queue.mint ∧
        (queue.mergeRefresh items).2.mint = queue.mint + 1 := by
    intro some'
    have mint := (dropDeadActive_revision
      { queue with slots := refreshedFrom queue.activeSlotId items [] queue.slots }).2
    rw [changes some']
    exact ⟨mint, congrArg (· + 1) mint⟩
  refine ⟨order, pruned, ?_, ?_, ?_, ?_, kept, minted, changes_of_minted kept minted⟩
  · intro before slot after split stays
    have here := @refreshedFrom_at queue.activeSlotId items [] before after slot stays
    rw [refreshed, split]
    exact here
  · intro before slot other
    unfold refreshedItem
    split
    · rename_i held emby
      rw [emby] at other
      cases other
    · rfl
  · intro before slot active
    refine ⟨protected' slot active, ?_⟩
    unfold refreshedItem
    split
    · rename_i held emby
      cases copyFor items before held.id with
      | none => rfl
      | some copy => exact mergedItem_progress active
    · rfl
  · intro named
    have still : ∀ id ∈ queue.activeSlotId, id ∈ ({ queue with
        slots := refreshedFrom queue.activeSlotId items [] queue.slots } : PlaybackQueue).slotIds := by
      intro id marker
      obtain ⟨slot, member, rfl⟩ := mem_map.mp (named id marker)
      unfold slotIds
      rw [refreshedFrom_slotIds]
      exact mem_map_of_mem (mem_filter.mpr ⟨member, protected' slot marker⟩)
    by_cases changed : Changes queue.activeSlotId items [] queue.slots
    · rw [changes changed, dropDeadActive_named still]
      rfl
    · rw [settled changed, dropDeadActive_named still]

end Mbv.Queue
