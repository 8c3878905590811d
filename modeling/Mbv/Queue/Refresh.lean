import Mbv.Queue.SlotIdentity

namespace Mbv.Queue

open PlaybackQueue List

/-! ### What a fetched item makes of a slot -/

def mergedItem (activeSlotId : Option QueueSlotId) (slot : QueueSlot) (fetched : EmbyItem) : QueueItem :=
  if activeSlotId = some slot.slotId then
    applyProgressToQueueItem (.emby fetched) slot.localProgress.positionTicks slot.localProgress.played
  else .emby fetched

section Merged

variable {activeSlotId : Option QueueSlotId} {slot : QueueSlot} {fetched : EmbyItem}

theorem mergeFetchedSlot_slot (result : RefreshMergeResult) : (mergeFetchedSlot slot fetched activeSlotId result).1 =
      { slot with item := mergedItem activeSlotId slot fetched } := by
  unfold mergeFetchedSlot mergedItem
  split <;> rfl

theorem mergeFetchedSlot_updated (result : RefreshMergeResult) :
    (mergeFetchedSlot slot fetched activeSlotId result).2.updatedSlots = result.updatedSlots ++ [slot.slotId] := by
  unfold mergeFetchedSlot
  split <;> rfl

theorem mergeFetchedSlot_pruned (result : RefreshMergeResult) :
    (mergeFetchedSlot slot fetched activeSlotId result).2.prunedSlots = result.prunedSlots := by
  unfold mergeFetchedSlot
  split <;> rfl

theorem mergedItem_contentId : (mergedItem activeSlotId slot fetched).contentId = .emby fetched.id := by
  unfold mergedItem
  split
  · rw [applyProgress_contentId]
    rfl
  · rfl

theorem mergedItem_progress (active : activeSlotId = some slot.slotId) :
    SlotProgress.fromQueueItem (mergedItem activeSlotId slot fetched) = slot.localProgress := by
  unfold mergedItem
  rw [if_pos active]
  exact fromQueueItem_applyProgress _ _ _ (by simp)

theorem mergedItem_of_progress {other : QueueSlot} (named : other.slotId = slot.slotId)
    (progress : activeSlotId = some slot.slotId → other.localProgress = slot.localProgress) :
    mergedItem activeSlotId other fetched = mergedItem activeSlotId slot fetched := by
  unfold mergedItem
  rw [named]
  split
  · rename_i active
    rw [progress active]
  · rfl

theorem mergedItem_again : mergedItem activeSlotId { slot with item := mergedItem activeSlotId slot fetched } fetched =
      mergedItem activeSlotId slot fetched :=
  mergedItem_of_progress rfl mergedItem_progress

end Merged

/-! ### A refresh of named slots -/

/-- One pair of a refresh: the slot it names, if that still holds what was fetched. -/
def refreshOne (activeSlotId : Option QueueSlotId) (slots : List QueueSlot)
    (pair : QueueSlotId × EmbyItem) : List QueueSlot :=
  match Keyed.indexOf (·.slotId) pair.1 slots with
  | none => slots
  | some place =>
    match slots[place]? with
    | none => slots
    | some slot =>
      if slot.item.contentId = .emby pair.2.id then
        slots.set place { slot with item := mergedItem activeSlotId slot pair.2 }
      else slots

def changingPairs (activeSlotId : Option QueueSlotId) :
    List QueueSlot → List (QueueSlotId × EmbyItem) → List QueueSlotId
  | _, [] => []
  | slots, pair :: pairs =>
    let next := refreshOne activeSlotId slots pair
    (if next = slots then [] else [pair.1]) ++ changingPairs activeSlotId next pairs

section Named

variable {activeSlotId : Option QueueSlotId} {slots : List QueueSlot} {pair : QueueSlotId × EmbyItem}

theorem set_eq_self_iff {place : Nat} {slot other : QueueSlot} (there : slots[place]? = some slot) :
    slots.set place other = slots ↔ other = slot := by
  obtain ⟨bound, here⟩ := List.getElem?_eq_some_iff.mp there
  constructor
  · intro same
    have read := congrArg (·[place]?) same
    simp only [List.getElem?_set_self bound] at read
    rw [there] at read
    exact Option.some.inj read
  · rintro rfl
    rw [← here, set_getElem_self]

inductive PairCase (activeSlotId : Option QueueSlotId) (state : MergeState)
    (pair : QueueSlotId × EmbyItem) : Prop
  | passed (same : refreshOne activeSlotId state.slots pair = state.slots)
      (kept : mergeForSlot activeSlotId state pair = state)
  | applied (place : Nat) (slot : QueueSlot) (there : state.slots[place]? = some slot)
      (named : slot.slotId = pair.1) (content : slot.item.contentId = .emby pair.2.id)
      (first : Keyed.indexOf (·.slotId) pair.1 state.slots = some place)
      (refreshed : refreshOne activeSlotId state.slots pair =
        state.slots.set place { slot with item := mergedItem activeSlotId slot pair.2 })
      (merged : mergeForSlot activeSlotId state pair =
        let result := (mergeFetchedSlot slot pair.2 activeSlotId state.result).2
        let slots := state.slots.set place { slot with item := mergedItem activeSlotId slot pair.2 }
        if mergedItem activeSlotId slot pair.2 = slot.item then
          { state with slots := slots, result := { result with updatedSlots := state.result.updatedSlots } }
        else { slots := slots, result := result, changed := true })

theorem pairCase (activeSlotId : Option QueueSlotId) (state : MergeState)
    (pair : QueueSlotId × EmbyItem) : PairCase activeSlotId state pair := by
  cases found : Keyed.indexOf (·.slotId) pair.1 state.slots with
  | none =>
    apply PairCase.passed
    · simp only [refreshOne, found]
    · simp only [mergeForSlot, found]
  | some place =>
    cases there : state.slots[place]? with
    | none =>
      apply PairCase.passed
      · simp only [refreshOne, found, there]
      · simp only [mergeForSlot, found, there]
    | some slot =>
      have named : slot.slotId = pair.1 := by
        have key := Keyed.key_at_index found
        rw [List.getElem?_map, there] at key
        exact Option.some.inj key
      by_cases content : slot.item.contentId = .emby pair.2.id
      · apply PairCase.applied place slot there named content found
        · simp only [refreshOne, found, there, if_pos content]
        · simp only [mergeForSlot, found, there, content, ne_eq, not_true_eq_false, if_false,
            mergeFetchedSlot_slot, queueItemsEqual, beq_iff_eq]
      · apply PairCase.passed
        · simp only [refreshOne, found, there, if_neg content]
        · simp only [mergeForSlot, found, there, ne_eq, content, not_false_eq_true, if_true]

theorem mergeForSlot_spec (state : MergeState) :
    (mergeForSlot activeSlotId state pair).slots = refreshOne activeSlotId state.slots pair ∧
      (mergeForSlot activeSlotId state pair).result.updatedSlots = state.result.updatedSlots ++
        (if refreshOne activeSlotId state.slots pair = state.slots then [] else [pair.1]) ∧
      ((mergeForSlot activeSlotId state pair).changed = true ↔
        state.changed = true ∨ refreshOne activeSlotId state.slots pair ≠ state.slots) := by
  rcases pairCase activeSlotId state pair with ⟨same, kept⟩ | ⟨place, slot, there, named, content, first, refreshed, merged⟩
  · rw [kept, same, if_pos rfl]
    simp
  · have same := @set_eq_self_iff state.slots place slot { slot with item := mergedItem activeSlotId slot pair.2 } there
    rw [refreshed, merged]
    dsimp only
    by_cases equal : mergedItem activeSlotId slot pair.2 = slot.item
    · have kept : ({ slot with item := mergedItem activeSlotId slot pair.2 } : QueueSlot) = slot := by
        rw [equal]
      rw [if_pos equal, if_pos (same.mpr kept)]
      simp [same.mpr kept]
    · have apart : ({ slot with item := mergedItem activeSlotId slot pair.2 } : QueueSlot) ≠ slot :=
        fun kept => equal (congrArg QueueSlot.item kept)
      rw [if_neg equal, if_neg (mt same.mp apart)]
      refine ⟨rfl, ?_, by simp [mt same.mp apart]⟩
      rw [mergeFetchedSlot_updated, named]

theorem mergeForSlots_spec (pairs : List (QueueSlotId × EmbyItem)) (state : MergeState) :
    (pairs.foldl (mergeForSlot activeSlotId) state).slots = pairs.foldl (refreshOne activeSlotId) state.slots ∧
      (pairs.foldl (mergeForSlot activeSlotId) state).result.updatedSlots =
        state.result.updatedSlots ++ changingPairs activeSlotId state.slots pairs ∧
      ((pairs.foldl (mergeForSlot activeSlotId) state).changed = true ↔
        state.changed = true ∨ changingPairs activeSlotId state.slots pairs ≠ []) := by
  induction pairs generalizing state with
  | nil => simp [changingPairs]
  | cons pair pairs ih =>
    obtain ⟨slots, updated, changed⟩ := @mergeForSlot_spec activeSlotId pair state
    obtain ⟨slots', updated', changed'⟩ := ih (mergeForSlot activeSlotId state pair)
    rw [foldl_cons, foldl_cons, slots', updated', changed', slots, updated, changed]
    refine ⟨rfl, ?_, ?_⟩
    · rw [append_assoc]
      rfl
    · rw [changingPairs]
      by_cases same : refreshOne activeSlotId state.slots pair = state.slots
      · simp [same]
      · simp [same]

theorem foldl_refreshOne_of_settled {pairs : List (QueueSlotId × EmbyItem)}
    (none : changingPairs activeSlotId slots pairs = []) :
    pairs.foldl (refreshOne activeSlotId) slots = slots := by
  induction pairs with
  | nil => rfl
  | cons pair pairs ih =>
    rw [changingPairs] at none
    obtain ⟨first, later⟩ := append_eq_nil_iff.mp none
    have same : refreshOne activeSlotId slots pair = slots := by
      by_cases same : refreshOne activeSlotId slots pair = slots
      · exact same
      · simp [same] at first
    rw [same] at later
    rw [foldl_cons, same]
    exact ih later

structure KeptAsNamed (activeSlotId : Option QueueSlotId) (named : QueueItemContentId → Prop)
    (slot next : QueueSlot) : Prop where
  slotId : next.slotId = slot.slotId
  contentId : next.item.contentId = slot.item.contentId
  progress : activeSlotId = some slot.slotId → next.localProgress = slot.localProgress
  changed : next ≠ slot → named slot.item.contentId

theorem refreshOne_at {place : Nat} {slot : QueueSlot} (there : slots[place]? = some slot) :
    ∃ next, (refreshOne activeSlotId slots pair)[place]? = some next ∧
      KeptAsNamed activeSlotId (fun content => pair.1 = slot.slotId ∧ content = .emby pair.2.id) slot next := by
  have unchanged : KeptAsNamed activeSlotId (fun content => pair.1 = slot.slotId ∧ content = .emby pair.2.id) slot slot :=
    ⟨rfl, rfl, fun _ => rfl, fun apart => absurd rfl apart⟩
  rcases pairCase activeSlotId ⟨slots, {}, false⟩ pair with ⟨same, -⟩ | ⟨index, held, found, named, content, -, refreshed, -⟩
  · rw [same]
    exact ⟨slot, there, unchanged⟩
  · rw [refreshed]
    by_cases here : index = place
    · subst here
      rw [there] at found
      cases found
      have bound := (List.getElem?_eq_some_iff.mp there).1
      refine ⟨_, List.getElem?_set_self bound, rfl, ?_, ?_, fun _ => ⟨named.symm, content⟩⟩
      · exact mergedItem_contentId.trans content.symm
      · exact fun active => mergedItem_progress active
    · rw [List.getElem?_set_ne here]
      exact ⟨slot, there, unchanged⟩

theorem refreshRun_at {pairs : List (QueueSlotId × EmbyItem)} {place : Nat} {slot : QueueSlot}
    (there : slots[place]? = some slot) :
    ∃ next, (pairs.foldl (refreshOne activeSlotId) slots)[place]? = some next ∧ KeptAsNamed activeSlotId
        (fun content => ∃ pair ∈ pairs, pair.1 = slot.slotId ∧ content = .emby pair.2.id) slot next := by
  induction pairs generalizing slots slot with
  | nil => exact ⟨slot, there, rfl, rfl, fun _ => rfl, fun apart => absurd rfl apart⟩
  | cons pair pairs ih =>
    obtain ⟨middle, here, first⟩ := @refreshOne_at activeSlotId slots pair place slot there
    obtain ⟨next, ends, later⟩ := ih here
    refine ⟨next, ends, later.slotId.trans first.slotId, later.contentId.trans first.contentId, ?_, ?_⟩
    · intro active
      exact (later.progress (active.trans (congrArg some first.slotId.symm))).trans (first.progress active)
    · intro apart
      by_cases changed : middle = slot
      · rw [changed] at later
        obtain ⟨other, member, named⟩ := later.changed apart
        exact ⟨other, mem_cons_of_mem _ member, named⟩
      · exact ⟨pair, mem_cons_self, first.changed changed⟩

theorem refreshRun_settled {pairs : List (QueueSlotId × EmbyItem)} {place : Nat} {slot : QueueSlot}
    {fetched : EmbyItem} (there : slots[place]? = some slot)
    (settled : mergedItem activeSlotId slot fetched = slot.item)
    (agree : ∀ pair ∈ pairs, pair.1 = slot.slotId → pair.2 = fetched) :
    (pairs.foldl (refreshOne activeSlotId) slots)[place]? = some slot := by
  induction pairs generalizing slots with
  | nil => exact there
  | cons pair pairs ih =>
    refine ih ?_ fun other member => agree other (mem_cons_of_mem _ member)
    rcases pairCase activeSlotId ⟨slots, {}, false⟩ pair with ⟨same, -⟩ | ⟨index, held, found, named, -, -, refreshed, -⟩
    · rw [same]
      exact there
    · rw [refreshed]
      by_cases here : index = place
      · subst here
        obtain rfl : held = slot := Option.some.inj (found.symm.trans there)
        rw [agree pair mem_cons_self named.symm, settled]
        exact List.getElem?_set_self (List.getElem?_eq_some_iff.mp there).1
      · rw [List.getElem?_set_ne here]
        exact there

theorem changingPairs_of_unchanged {pairs : List (QueueSlotId × EmbyItem)}
    (agree : ∀ pair ∈ pairs, ∀ other ∈ pairs, pair.1 = other.1 → pair.2 = other.2)
    (same : pairs.foldl (refreshOne activeSlotId) slots = slots) :
    changingPairs activeSlotId slots pairs = [] := by
  induction pairs with
  | nil => rfl
  | cons pair pairs ih =>
    have later := fun one member other member' =>
      agree one (mem_cons_of_mem _ member) other (mem_cons_of_mem _ member')
    rw [foldl_cons] at same
    have first : refreshOne activeSlotId slots pair = slots := by
      rcases pairCase activeSlotId ⟨slots, {}, false⟩ pair with ⟨still, -⟩ | ⟨place, slot, there, named, -, -, refreshed, -⟩
      · exact still
      · have bound := (List.getElem?_eq_some_iff.mp there).1
        have here := List.getElem?_set_self (a := { slot with item := mergedItem activeSlotId slot pair.2 }) bound
        have ends := @refreshRun_settled activeSlotId _ pairs place _ pair.2 here mergedItem_again
          (fun other member same => agree other (mem_cons_of_mem _ member) pair mem_cons_self (same.trans named))
        rw [← refreshed, same] at ends
        have kept := Option.some.inj (there.symm.trans ends)
        rw [refreshed, ← kept]
        exact (set_eq_self_iff there).mpr rfl
    rw [changingPairs, first, if_pos rfl]
    rw [first] at same
    exact ih later same

end Named

/-- What a refresh of named slots may do to a queue that changed while the items were fetched. -/
structure RefreshedHarmlessly (queue : PlaybackQueue) (fetched : List (QueueSlotId × EmbyItem))
    (result : RefreshMergeResult) (next : PlaybackQueue) : Prop where
  slotIds : next.slotIds = queue.slotIds
  slots : ∀ (place : Nat) (slot : QueueSlot), queue.slots[place]? = some slot → ∃ refreshed : QueueSlot,
    next.slots[place]? = some refreshed ∧ refreshed.slotId = slot.slotId ∧
      (queue.activeSlotId = some slot.slotId → refreshed.localProgress = slot.localProgress) ∧
      (refreshed ≠ slot → ∃ pair ∈ fetched, pair.1 = slot.slotId ∧
        slot.item.contentId = .emby pair.2.id)
  active : next.activeSlotId = queue.activeSlotId
  updated : result.updatedSlots = changingPairs queue.activeSlotId queue.slots fetched
  kept : result.updatedSlots = [] → next.revision = queue.revision ∧ next.mint = queue.mint
  minted : result.updatedSlots ≠ [] → next.revision = queue.mint ∧ next.mint = queue.mint + 1
  changes : queue.revision ≠ queue.mint →
    (next.revision ≠ queue.revision ↔ result.updatedSlots ≠ [])

theorem changes_of_minted {queue next : PlaybackQueue} {P : Prop}
    (kept : ¬ P → next.revision = queue.revision ∧ next.mint = queue.mint)
    (minted : P → next.revision = queue.mint ∧ next.mint = queue.mint + 1)
    (fresh : queue.revision ≠ queue.mint) : next.revision ≠ queue.revision ↔ P := by
  constructor
  · intro changed
    exact Classical.byContradiction fun none => changed (kept none).1
  · intro changed same
    exact fresh (same.symm.trans (minted changed).1)

theorem mergeRefreshForSlots_eq (queue : PlaybackQueue) (fetched : List (QueueSlotId × EmbyItem)) :
    (queue.mergeRefreshForSlots fetched).2 = if changingPairs queue.activeSlotId queue.slots fetched ≠ [] then
        { queue with slots := fetched.foldl (refreshOne queue.activeSlotId) queue.slots }.bump
      else { queue with slots := fetched.foldl (refreshOne queue.activeSlotId) queue.slots } := by
  obtain ⟨slots, -, changed⟩ := @mergeForSlots_spec queue.activeSlotId fetched ⟨queue.slots, {}, false⟩
  unfold mergeRefreshForSlots
  dsimp only
  rw [slots]
  simp only [changed, Bool.false_eq_true, false_or]

end Mbv.Queue
