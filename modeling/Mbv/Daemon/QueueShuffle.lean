import Mbv.Daemon.QueueMirror

namespace Mbv.Daemon

open Mbv.Queue Mbv.Player

variable {queue : PlaybackQueue} {draw : List QueueSlotId → List QueueSlotId} {pinActiveFirst : Bool}

theorem shuffledSlotOrder_perm (random : ∀ slotIds, (draw slotIds).Perm slotIds) (distinct : queue.slotIds.Nodup)
    (named : pinActiveFirst = true → ∀ id ∈ queue.activeSlotId, id ∈ queue.slotIds) :
    (shuffledSlotOrder queue draw pinActiveFirst).Perm queue.slotIds := by
  have unpinned : (draw (queue.slotIds.filter fun slotId => some slotId != none)).Perm queue.slotIds := by
    have all : (queue.slotIds.filter fun slotId => some slotId != none) = queue.slotIds := by simp
    rw [all]
    exact random queue.slotIds
  unfold shuffledSlotOrder
  cases marker : queue.activeSlotId with
  | none => exact unpinned
  | some active =>
    cases pinActiveFirst with
    | false => exact unpinned
    | true =>
      have member := named rfl active marker
      have rest : (queue.slotIds.filter fun slotId => some slotId != some active) = queue.slotIds.erase active := by
        rw [distinct.erase_eq_filter]
        exact List.filter_congr fun slotId _ => rfl
      have front : ([active] ++ draw (queue.slotIds.erase active)).Perm queue.slotIds :=
        ((random _).cons active).trans (List.perm_cons_erase member).symm
      rw [← rest] at front
      exact front

/-- A shuffle loses no slot, keeps the active marker, and mints one revision exactly when it changes
    the order. -/
structure LosesNothing (queue : PlaybackQueue) (pinActiveFirst : Bool) (order : List QueueSlotId)
    (reply : ControlReply) : Prop where
  permutation : order.Perm queue.slotIds
  first : pinActiveFirst = true → ∀ id ∈ queue.activeSlotId, order.head? = some id
  accepted : (queue.reorderSlots order).1 = .applied ()
  slotIds : reply.queue.slotIds = order
  slots : reply.queue.slots.Perm queue.slots
  active : reply.queue.activeSlotId = queue.activeSlotId
  same : order = queue.slotIds → reply = { queue := queue }
  changed : order ≠ queue.slotIds → reply.queue.revision = queue.mint ∧
    reply.queue.mint = queue.mint + 1 ∧ reply.sent = [.queueReorder order] ∧ reply.rejection = none

theorem losesNothing_of_same {order : List QueueSlotId} (same : queue.slotIds = order)
    (first : pinActiveFirst = true → ∀ id ∈ queue.activeSlotId, order.head? = some id) :
    LosesNothing queue pinActiveFirst order { queue := queue } := by
  have accepted : (queue.reorderSlots order).1 = .applied () := by
    unfold PlaybackQueue.reorderSlots
    rw [if_pos same]
  exact ⟨.of_eq same.symm, first, accepted, same, .refl _, rfl, fun _ => rfl, fun apart => absurd same.symm apart⟩

theorem reorderSlots_moved {order : List QueueSlotId} (moved : queue.slotIds ≠ order)
    (perm : queue.slotIds.Perm order) : queue.reorderSlots order =
      (.applied (), { queue with slots := PlaybackQueue.takeInOrder queue.slots order }.bump) := by
  unfold PlaybackQueue.reorderSlots
  rw [if_neg moved, PlaybackQueue.isSlotPermutation_iff.mpr perm]
  rfl

theorem losesNothing_of_distinct {order : List QueueSlotId} (moved : queue.slotIds ≠ order)
    (perm : order.Perm queue.slotIds) (distinct : queue.slotIds.Nodup)
    (first : pinActiveFirst = true → ∀ id ∈ queue.activeSlotId, order.head? = some id) :
    LosesNothing queue pinActiveFirst order
      { queue := { queue with slots := PlaybackQueue.takeInOrder queue.slots order }.bump
        sent := [.queueReorder order] } := by
  refine ⟨perm, first, by rw [reorderSlots_moved moved perm.symm], ?_, ?_, rfl,
    fun same => absurd same.symm moved, fun _ => ⟨rfl, rfl, rfl, rfl⟩⟩
  · exact PlaybackQueue.takeInOrder_slotIds order queue.slots distinct perm.symm
  · exact PlaybackQueue.takeInOrder_perm distinct perm.symm

/-- Whatever is drawn, a shuffle loses nothing exactly when the draw leaves the order as it is, or the
    slots have ids of their own and a pinned marker names one of them. -/
theorem shuffle_loses_nothing_iff (queue : PlaybackQueue) (draw : List QueueSlotId → List QueueSlotId)
    (pinActiveFirst : Bool) (random : ∀ slotIds, (draw slotIds).Perm slotIds) :
    LosesNothing queue pinActiveFirst (shuffledSlotOrder queue draw pinActiveFirst)
        (handleQueueShuffle queue draw pinActiveFirst) ↔
      shuffledSlotOrder queue draw pinActiveFirst = queue.slotIds ∨
        queue.slotIds.Nodup ∧
          (pinActiveFirst = true → ∀ id ∈ queue.activeSlotId, id ∈ queue.slotIds) := by
  have first : pinActiveFirst = true → ∀ id ∈ queue.activeSlotId,
      (shuffledSlotOrder queue draw pinActiveFirst).head? = some id := by
    rintro rfl id marker
    unfold shuffledSlotOrder
    rw [Option.mem_def.mp marker]
    rfl
  by_cases same : queue.slotIds = shuffledSlotOrder queue draw pinActiveFirst
  · refine iff_of_true ?_ (.inl same.symm)
    unfold handleQueueShuffle
    dsimp only
    rw [if_pos same]
    exact losesNothing_of_same same first
  · constructor
    · intro kept
      have perm := kept.permutation
      have ids := kept.slotIds
      unfold handleQueueShuffle at ids
      dsimp only at ids
      rw [if_neg same, reorderSlots_moved same perm.symm] at ids
      have taken : (shuffledSlotOrder queue draw pinActiveFirst).Nodup := by
        rw [← ids]
        exact PlaybackQueue.takeInOrder_nodup _ _
      refine .inr ⟨perm.nodup_iff.mp taken, ?_⟩
      intro pinned id marker
      exact perm.mem_iff.mp (List.mem_of_mem_head? (kept.first pinned id marker))
    · rintro (unmoved | ⟨distinct, named⟩)
      · exact absurd unmoved.symm same
      · have perm := @shuffledSlotOrder_perm queue draw pinActiveFirst random distinct named
        unfold handleQueueShuffle
        dsimp only
        rw [if_neg same, reorderSlots_moved same perm.symm]
        exact losesNothing_of_distinct same perm distinct first

def threeSlots : PlaybackQueue :=
  PlaybackQueue.fromQueueItems [.twitch ⟨"a", "a"⟩, .twitch ⟨"b", "b"⟩, .twitch ⟨"c", "c"⟩] (some 2) 0

theorem shuffle_loses_nothing_of_three :
    LosesNothing threeSlots true [⟨3⟩, ⟨2⟩, ⟨1⟩] (handleQueueShuffle threeSlots List.reverse true) :=
  (shuffle_loses_nothing_iff threeSlots List.reverse true List.reverse_perm).mpr
    (.inr ⟨by decide, by decide⟩)

/-- Two slots that share an id, as a replacement may bring them: one of them is gone. -/
theorem shuffle_loses_repeated_slot :
    let queue := PlaybackQueue.fromSlotItems
      [(⟨1⟩, .twitch ⟨"a", "a"⟩), (⟨1⟩, .twitch ⟨"b", "b"⟩), (⟨2⟩, .twitch ⟨"c", "c"⟩)] none 0
    (handleQueueShuffle queue List.reverse false).queue.slots =
      [⟨⟨2⟩, .twitch ⟨"c", "c"⟩⟩, ⟨⟨1⟩, .twitch ⟨"b", "b"⟩⟩] ∧
    ¬ LosesNothing queue false (shuffledSlotOrder queue List.reverse false)
      (handleQueueShuffle queue List.reverse false) := by
  intro queue
  refine ⟨by decide, fun kept => ?_⟩
  exact absurd kept.slotIds (by decide)

end Mbv.Daemon
