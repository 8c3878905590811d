import Mbv.Queue.SlotIdentity

namespace Mbv.Queue

open List

inductive QueueOp where
  | append (item : QueueItem)
  | insert (index : Nat) (item : QueueItem)
  | mintSlotId
  | appendWithId (slotId : QueueSlotId) (item : QueueItem)
  | replace (items : List QueueItem)
  | clear
  | truncateSlots (len : Nat)
  | setActiveSlot (slotId : QueueSlotId)
  | clearActiveSlot
  | removeSlot (slotId : QueueSlotId)
  | removeActiveSlotConfirmed (slotId : QueueSlotId)
  | consumeSlot (slotId : QueueSlotId)
  | reorderSlots (order : List QueueSlotId)
  | moveSlot (slotId : QueueSlotId) (toIndex : Nat)
  | updateSlotItem (slotId : QueueSlotId) (item : QueueItem)
  | applyProgress (slotId : QueueSlotId) (positionTicks : Int) (played : Bool)
  | mergeRefresh (items : List EmbyItem)
  | mergeRefreshForSlots (fetched : List (QueueSlotId × EmbyItem))

namespace QueueOp

def apply (queue : PlaybackQueue) : QueueOp → List QueueSlotId × PlaybackQueue
  | append item => ([(queue.append item).1], (queue.append item).2)
  | insert index item => ([(queue.insert index item).1], (queue.insert index item).2)
  | mintSlotId => ([queue.mintSlotId.1], queue.mintSlotId.2)
  | appendWithId slotId item => ([], queue.appendWithId slotId item)
  | replace items => ((queue.replace items).2.slotIds, (queue.replace items).2)
  | clear => ([], queue.clear)
  | truncateSlots len => ([], queue.truncateSlots len)
  | setActiveSlot slotId => ([], (queue.setActiveSlot slotId).2)
  | clearActiveSlot => ([], queue.clearActiveSlot)
  | removeSlot slotId => ([], (queue.removeSlot slotId).2)
  | removeActiveSlotConfirmed slotId => ([], (queue.removeActiveSlotConfirmed slotId).2)
  | consumeSlot slotId => ([], (queue.consumeSlot slotId).2)
  | reorderSlots order => ([], (queue.reorderSlots order).2)
  | moveSlot slotId toIndex => ([], (queue.moveSlot slotId toIndex).2)
  | updateSlotItem slotId item => ([], (queue.updateSlotItem slotId item).2)
  | applyProgress slotId positionTicks played =>
    ([], (queue.applyProgress slotId positionTicks played).2)
  | mergeRefresh items => ([], (queue.mergeRefresh items).2)
  | mergeRefreshForSlots fetched => ([], (queue.mergeRefreshForSlots fetched).2)

/-- `append_with_id` is called with an id that is not live. -/
def Legal (queue : PlaybackQueue) : QueueOp → Prop
  | appendWithId slotId _ => slotId ∉ queue.slotIds
  | _ => True

instance (queue : PlaybackQueue) (op : QueueOp) : Decidable (op.Legal queue) := by
  cases op <;> unfold Legal <;> infer_instance

/-- The allocator does not reach the top of `u64`: the mutation hands out and adopts only ids below
    it. -/
def Fits (queue : PlaybackQueue) : QueueOp → Prop
  | append _ | insert _ _ | mintSlotId => queue.nextSlotId.toNat < u64Max
  | appendWithId slotId _ => slotId.raw.toNat < u64Max
  | replace items => queue.nextSlotId.toNat + items.length ≤ u64Max
  | _ => True

instance (queue : PlaybackQueue) (op : QueueOp) : Decidable (op.Fits queue) := by
  cases op <;> unfold Fits <;> infer_instance

end QueueOp

structure QueueHistory where
  queue : PlaybackQueue
  handedOut : List QueueSlotId

def QueueHistory.machine : Machine QueueHistory QueueOp where
  step history op :=
    { queue := (op.apply history.queue).2
      handedOut := history.handedOut ++ (op.apply history.queue).1 }

inductive QueueBuild where
  | fromQueueItems (items : List QueueItem) (activeIndex : Option Nat) (mint : UInt64)
  | fromSlotItems (slots : List (QueueSlotId × QueueItem)) (activeSlotId : Option QueueSlotId)
      (mint : UInt64)

namespace QueueBuild

def start : QueueBuild → QueueHistory
  | fromQueueItems items activeIndex mint =>
    let queue := PlaybackQueue.fromQueueItems items activeIndex mint
    ⟨queue, queue.slotIds⟩
  | fromSlotItems slots activeSlotId mint =>
    ⟨PlaybackQueue.fromSlotItems slots activeSlotId mint, []⟩

def Admitted : QueueBuild → Prop
  | fromQueueItems _ _ _ => True
  | fromSlotItems slots _ _ =>
    (slots.map (·.1)).Nodup ∧ ∀ id ∈ slots.map (·.1), id.raw.toNat < u64Max

instance (build : QueueBuild) : Decidable build.Admitted := by
  cases build <;> unfold Admitted <;> infer_instance

def Fits : QueueBuild → Prop
  | fromQueueItems items _ _ => items.length < u64Max
  | fromSlotItems _ _ _ => True

instance (build : QueueBuild) : Decidable build.Fits := by
  cases build <;> unfold Fits <;> infer_instance

end QueueBuild

/-- The ids a mutation hands out are distinct, not live, and not handed out before. -/
def HandsOutFresh (history : QueueHistory) (op : QueueOp) : Prop :=
  (op.apply history.queue).1.Nodup ∧
    ∀ id ∈ (op.apply history.queue).1, id ∉ history.queue.slotIds ∧ id ∉ history.handedOut

instance (history : QueueHistory) (op : QueueOp) : Decidable (HandsOutFresh history op) := by
  unfold HandsOutFresh
  infer_instance

/-- The queue is well formed, and the allocator is ahead of everything handed out. -/
structure QueueHistory.Sound (history : QueueHistory) : Prop where
  valid : history.queue.WellFormed
  spent : ∀ id ∈ history.handedOut, id.raw < history.queue.nextSlotId

open PlaybackQueue

theorem fromQueueItems_wellFormed {items : List QueueItem} (activeIndex : Option Nat)
    (mint : UInt64) (room : items.length < u64Max) :
    (fromQueueItems items activeIndex mint).WellFormed := by
  have empty : PlaybackQueue.WellFormed
      { slots := [], activeSlotId := none, revision := mint, mint := mint + 1, nextSlotId := 1 } :=
    ⟨nodup_nil, fun _ h => by simp at h, fun _ h => by simp [slotIds] at h⟩
  obtain ⟨pushed, -⟩ := empty.pushAll items (by simp only [show (1 : UInt64).toNat = 1 from rfl]; omega)
  refine ⟨pushed.distinct, fun id marker => ?_, pushed.ahead⟩
  obtain ⟨index, -, there⟩ := Option.bind_eq_some_iff.mp marker
  obtain ⟨slot, hit, rfl⟩ := Option.map_eq_some_iff.mp there
  exact mem_map_of_mem (mem_of_getElem? hit)

theorem le_maxRaw {slots : List (QueueSlotId × QueueItem)} {id : QueueSlotId}
    (member : id ∈ slots.map (·.1)) : id.raw ≤ maxRaw slots := by
  induction slots with
  | nil => simp at member
  | cons slot slots ih =>
    rw [map_cons, mem_cons] at member
    change id.raw ≤ max slot.1.raw (maxRaw slots)
    rcases member with rfl | later
    · exact u64_le_max_left _ _
    · exact UInt64.le_trans (ih later) (u64_le_max_right _ _)

theorem maxRaw_lt {slots : List (QueueSlotId × QueueItem)}
    (below : ∀ id ∈ slots.map (·.1), id.raw.toNat < u64Max) : (maxRaw slots).toNat < u64Max := by
  induction slots with
  | nil => decide
  | cons slot slots ih =>
    have rest := ih fun id member => below id (mem_cons_of_mem _ member)
    have first := below slot.1 mem_cons_self
    change (if slot.1.raw ≤ maxRaw slots then maxRaw slots else slot.1.raw).toNat < u64Max
    split
    · exact rest
    · exact first

theorem fromSlotItems_slotIds (slots : List (QueueSlotId × QueueItem)) (activeSlotId : Option QueueSlotId) (mint : UInt64) :
    (fromSlotItems slots activeSlotId mint).slotIds = slots.map (·.1) := by
  simp [fromSlotItems, slotIds]

theorem fromSlotItems_wellFormed {slots : List (QueueSlotId × QueueItem)}
    (activeSlotId : Option QueueSlotId) (mint : UInt64) (distinct : (slots.map (·.1)).Nodup)
    (below : ∀ id ∈ slots.map (·.1), id.raw.toNat < u64Max) :
    (fromSlotItems slots activeSlotId mint).WellFormed := by
  refine ⟨?_, fun id marker => ?_, fun id member => ?_⟩
  · rwa [fromSlotItems_slotIds]
  · rw [fromSlotItems_slotIds]
    have kept := (Option.filter_eq_some_iff.mp marker).2
    simpa using kept
  · rw [fromSlotItems_slotIds] at member
    exact UInt64.lt_of_le_of_lt (le_maxRaw member) (saturatingSucc_lt (maxRaw_lt below))

theorem QueueBuild.start_sound {build : QueueBuild} (admitted : build.Admitted) (room : build.Fits) : build.start.Sound := by
  cases build with
  | fromQueueItems items activeIndex mint =>
    have valid := fromQueueItems_wellFormed activeIndex mint room
    exact ⟨valid, valid.ahead⟩
  | fromSlotItems slots activeSlotId mint =>
    exact ⟨fromSlotItems_wellFormed activeSlotId mint admitted.1 admitted.2, fun _ member => by simp [start] at member⟩

theorem replace_spec {queue : PlaybackQueue} {items : List QueueItem} (room : queue.nextSlotId.toNat + items.length ≤ u64Max) :
    (queue.replace items).2.WellFormed ∧ queue.nextSlotId ≤ (queue.replace items).2.nextSlotId ∧
      ∀ id ∈ (queue.replace items).2.slotIds, queue.nextSlotId ≤ id.raw := by
  have emptied : ({ queue with slots := [], activeSlotId := none } : PlaybackQueue).WellFormed :=
    ⟨nodup_nil, fun _ h => by simp at h, fun _ h => by simp [slotIds] at h⟩
  obtain ⟨pushed, above, fresh, ids, later⟩ := emptied.pushAll items room
  refine ⟨pushed.bump, above, fun id member => later id ?_⟩
  have same : (queue.replace items).2.slotIds = [] ++ fresh := ids
  rwa [same] at member

theorem QueueOp.apply_spec {queue : PlaybackQueue} (valid : queue.WellFormed) {op : QueueOp}
    (legal : op.Legal queue) (room : op.Fits queue) :
    (op.apply queue).2.WellFormed ∧ queue.nextSlotId ≤ (op.apply queue).2.nextSlotId ∧ (op.apply queue).1.Nodup ∧
      ∀ id ∈ (op.apply queue).1, queue.nextSlotId ≤ id.raw ∧ id.raw < (op.apply queue).2.nextSlotId := by
  have still {next : PlaybackQueue} (kept : next.WellFormed) (allocator : next.nextSlotId = queue.nextSlotId) :
      next.WellFormed ∧ queue.nextSlotId ≤ next.nextSlotId ∧ ([] : List QueueSlotId).Nodup ∧
        ∀ id ∈ ([] : List QueueSlotId), queue.nextSlotId ≤ id.raw ∧ id.raw < next.nextSlotId :=
    ⟨kept, allocator ▸ UInt64.le_refl _, nodup_nil, by simp⟩
  have single {next : PlaybackQueue} (kept : next.WellFormed) (allocator : next.nextSlotId = saturatingSucc queue.nextSlotId)
      (below : queue.nextSlotId.toNat < u64Max) :
      next.WellFormed ∧ queue.nextSlotId ≤ next.nextSlotId ∧ [(⟨queue.nextSlotId⟩ : QueueSlotId)].Nodup ∧
        ∀ id ∈ [(⟨queue.nextSlotId⟩ : QueueSlotId)], queue.nextSlotId ≤ id.raw ∧ id.raw < next.nextSlotId := by
    refine ⟨kept, allocator ▸ le_saturatingSucc _, by simp, fun id member => ?_⟩
    rw [mem_singleton.mp member, allocator]
    exact ⟨UInt64.le_refl _, saturatingSucc_lt below⟩
  cases op with
  | append item => exact single (valid.insert room _ item) rfl room
  | insert index item => exact single (valid.insert room index item) rfl room
  | mintSlotId => exact single valid.mintSlotId rfl room
  | appendWithId slotId item =>
    exact ⟨valid.appendWithId legal room item, u64_le_max_left _ _, nodup_nil, by simp [apply]⟩
  | replace items =>
    obtain ⟨kept, above, later⟩ := replace_spec room
    exact ⟨kept, above, kept.distinct, fun id member => ⟨later id member, kept.ahead id member⟩⟩
  | clear => exact still valid.clear clear_next
  | truncateSlots len =>
    exact still (valid.truncateSlots len) (truncateSlots_next len)
  | setActiveSlot slotId => exact still (valid.setActiveSlot slotId) (setActiveSlot_next slotId)
  | clearActiveSlot => exact still valid.clearActiveSlot clearActiveSlot_next
  | removeSlot slotId => exact still (valid.removeSlot slotId) (removeSlot_next slotId)
  | removeActiveSlotConfirmed slotId =>
    exact still (valid.removeActiveSlotConfirmed slotId) (removeActiveSlotConfirmed_next slotId)
  | consumeSlot slotId =>
    exact still (valid.removeExistingSlot slotId) (removeExistingSlot_next slotId)
  | reorderSlots order => exact still (valid.reorderSlots order) (reorderSlots_next order)
  | moveSlot slotId toIndex =>
    exact still (valid.moveSlot slotId toIndex) (moveSlot_next slotId toIndex)
  | updateSlotItem slotId item =>
    exact still (valid.rewriteItem slotId _) (rewriteItem_frame slotId _).2.2
  | applyProgress slotId positionTicks played =>
    exact still (valid.rewriteItem slotId _) (rewriteItem_frame slotId _).2.2
  | mergeRefresh items => exact still (valid.mergeRefresh items) (mergeRefresh_next items)
  | mergeRefreshForSlots fetched =>
    exact still (valid.mergeRefreshForSlots fetched) (mergeRefreshForSlots_next fetched)

theorem QueueHistory.step_sound (history : QueueHistory) (op : QueueOp) (sound : history.Sound)
    (allowed : op.Legal history.queue ∧ op.Fits history.queue) :
    (machine.step history op).Sound := by
  obtain ⟨kept, above, -, between⟩ := QueueOp.apply_spec sound.valid allowed.1 allowed.2
  refine ⟨kept, fun id member => ?_⟩
  rcases mem_append.mp member with old | new
  · exact UInt64.lt_of_lt_of_le (sound.spent id old) above
  · exact (between id new).2

theorem QueueHistory.step_fresh (history : QueueHistory) (op : QueueOp) (sound : history.Sound)
    (allowed : op.Legal history.queue ∧ op.Fits history.queue) : HandsOutFresh history op := by
  obtain ⟨-, -, distinct, between⟩ := QueueOp.apply_spec sound.valid allowed.1 allowed.2
  refine ⟨distinct, fun id new => ⟨fun live => ?_, fun old => ?_⟩⟩
  · exact absurd (sound.valid.ahead id live) (UInt64.not_lt.mpr (between id new).1)
  · exact absurd (sound.spent id old) (UInt64.not_lt.mpr (between id new).1)

/-- While the allocator stays below the top of `u64`, every mutation of a run leaves the queue well
    formed and hands out only ids that are neither live nor spent. -/
theorem playback_queue_run_invariant (build : QueueBuild) (ops : List QueueOp)
    (admitted : build.Admitted) (room : build.Fits)
    (legal : QueueHistory.machine.Along (fun h op => op.Legal h.queue) build.start ops)
    (fits : QueueHistory.machine.Along (fun h op => op.Fits h.queue) build.start ops) :
    (QueueHistory.machine.run build.start ops).queue.WellFormed ∧
      QueueHistory.machine.Along HandsOutFresh build.start ops :=
  ⟨(Machine.run_invariant QueueHistory.step_sound (build.start_sound admitted room)
      (legal.and fits)).valid,
    Machine.along_of_invariant QueueHistory.step_sound QueueHistory.step_fresh
      (build.start_sound admitted room) (legal.and fits)⟩

/-- An append, a removal and a consumption, far below the top of `u64`. -/
theorem playback_queue_run_invariant_at_two :
    (QueueHistory.machine.run
        (QueueBuild.fromSlotItems [(⟨7⟩, .twitch ⟨"u", "t"⟩)] (some ⟨7⟩) 0).start
        [.append (.twitch ⟨"v", "t"⟩), .removeSlot ⟨7⟩, .consumeSlot ⟨7⟩]).queue.WellFormed :=
  (playback_queue_run_invariant _ _ (by decide) (by decide) (by decide) (by decide)).1

/-- From one id just below `u64::MAX`, two appends hand out the same id twice. -/
theorem playback_queue_allocator_saturates :
    let build := QueueBuild.fromSlotItems [(⟨18446744073709551614⟩, .twitch ⟨"u", "t"⟩)] none 0
    let ops := [QueueOp.append (.twitch ⟨"v", "t"⟩), QueueOp.append (.twitch ⟨"w", "t"⟩)]
    build.Admitted ∧ QueueHistory.machine.Along (fun h op => op.Legal h.queue) build.start ops ∧
      ¬ (QueueHistory.machine.run build.start ops).queue.slotIds.Nodup ∧
      ¬ QueueHistory.machine.Along HandsOutFresh build.start ops := by
  decide

end Mbv.Queue
