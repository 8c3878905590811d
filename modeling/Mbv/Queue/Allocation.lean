import Mbv.Queue.ExecutionSequence
import Mbv.Queue.SlotIdentity

namespace Mbv.Queue

open List

theorem slotId_inj {left right : QueueSlotId} (same : left.raw.toNat = right.raw.toNat) : left = right := by
  obtain ⟨left⟩ := left
  obtain ⟨right⟩ := right
  exact congrArg QueueSlotId.mk (UInt64.toNat_inj.mp same)

/-- The ids a number of allocations in a row hand out, from `next` on. -/
def allocated (next : UInt64) : Nat → List QueueSlotId
  | 0 => []
  | count + 1 => ⟨next⟩ :: allocated (saturatingSucc next) count

@[simp] theorem length_allocated (next : UInt64) (count : Nat) : (allocated next count).length = count := by
  induction count generalizing next with
  | zero => rfl
  | succ count ih => rw [allocated, length_cons, ih]

theorem allocated_toNat (next : UInt64) (count : Nat) : (allocated next count).map (·.raw.toNat) =
      (List.range count).map fun offset => min (next.toNat + offset) u64Max := by
  have bound := next.toNat_lt
  induction count generalizing next with
  | zero => rfl
  | succ count ih =>
    have first : min (next.toNat + 0) u64Max = next.toNat := by simp only [u64Max]; omega
    rw [allocated, map_cons, ih _ (saturatingSucc next).toNat_lt, saturatingSucc_toNat,
      range_succ_eq_map, map_cons, map_map, first]
    congr 1
    refine map_congr_left fun offset _ => ?_
    simp only [Function.comp_apply, Nat.succ_eq_add_one]
    omega

theorem allocated_nodup {next : UInt64} {count : Nat} : (allocated next count).Nodup ↔ next.toNat + count ≤ 2 ^ 64 := by
  have bound := next.toNat_lt
  have numbers := allocated_toNat next count
  constructor
  · intro distinct
    by_contra full
    have injective : Function.Injective fun id : QueueSlotId => id.raw.toNat := fun _ _ => slotId_inj
    have spread := distinct.map injective
    rw [numbers] at spread
    have last := inj_on_of_nodup_map spread (mem_range.mpr (by omega : count - 1 < count))
      (mem_range.mpr (by omega : count - 2 < count)) (by simp only [u64Max]; omega)
    omega
  · intro room
    refine List.Nodup.of_map (fun id : QueueSlotId => id.raw.toNat) ?_
    rw [numbers]
    refine List.Nodup.map_on (fun left first right second same => ?_) nodup_range
    rw [mem_range] at first second
    simp only [u64Max] at same
    omega

theorem mem_allocated {next : UInt64} {count : Nat} (room : next.toNat + count ≤ 2 ^ 64) {id : QueueSlotId} :
    id ∈ allocated next count ↔ next.toNat ≤ id.raw.toNat ∧ id.raw.toNat < next.toNat + count := by
  have named : id ∈ allocated next count ↔ id.raw.toNat ∈ (allocated next count).map (·.raw.toNat) := by
    refine ⟨mem_map_of_mem, fun member => ?_⟩
    obtain ⟨other, there, same⟩ := mem_map.mp member
    exact slotId_inj same ▸ there
  rw [named, allocated_toNat, mem_map]
  constructor
  · rintro ⟨offset, inside, place⟩
    rw [mem_range] at inside
    simp only [u64Max] at place
    omega
  · rintro ⟨above, below⟩
    refine ⟨id.raw.toNat - next.toNat, mem_range.mpr (by omega), ?_⟩
    simp only [u64Max]
    omega

/-- The allocator has `count` ids left, and nothing in `held` carries one of them. -/
def Room (next : UInt64) (count : Nat) (held : List QueueSlotId) : Prop :=
  next.toNat + count ≤ 2 ^ 64 ∧
    ∀ id ∈ held, ¬ (next.toNat ≤ id.raw.toNat ∧ id.raw.toNat < next.toNat + count)

instance (next : UInt64) (count : Nat) (held : List QueueSlotId) :
    Decidable (Room next count held) := by
  unfold Room
  infer_instance

theorem room_iff {next : UInt64} {count : Nat} {held : List QueueSlotId} : Room next count held ↔
      (allocated next count).Nodup ∧ ∀ id ∈ allocated next count, id ∉ held := by
  constructor
  · rintro ⟨left, fresh⟩
    exact ⟨allocated_nodup.mpr left, fun id new old => fresh id old ((mem_allocated left).mp new)⟩
  · rintro ⟨distinct, fresh⟩
    have left := allocated_nodup.mp distinct
    exact ⟨left, fun id old inside => fresh id ((mem_allocated left).mpr inside) old⟩

namespace PlaybackQueue

variable {queue : PlaybackQueue}

/-- Insert the items one after another, from `index` on. -/
def insertAll (queue : PlaybackQueue) (index : Nat) :
    List QueueItem → List ExecSlot × PlaybackQueue
  | [] => ([], queue)
  | item :: items =>
    let (slotId, queue) := queue.insert index item
    let (slots, queue) := queue.insertAll (index + 1) items
    (⟨slotId, item⟩ :: slots, queue)

theorem insert_slotIds {placed rest : List QueueSlotId} (ids : queue.slotIds = placed ++ rest) (item : QueueItem) :
    (queue.insert placed.length item).2.slotIds = placed ++ ⟨queue.nextSlotId⟩ :: rest := by
  have inside : placed.length ≤ queue.slots.length := by
    have total := congrArg List.length ids
    rw [slotIds, length_map, length_append] at total
    omega
  show (queue.slots.insertIdx (min placed.length queue.slots.length) _).map _ = _
  rw [Nat.min_eq_left inside, map_insertIdx, ← insertIdx_append_length, ← ids]
  rfl

theorem insertAll_spec (items : List QueueItem) {placed rest : List QueueSlotId} (ids : queue.slotIds = placed ++ rest) :
    (queue.insertAll placed.length items).1.map (·.slotId) = allocated queue.nextSlotId items.length ∧
      (queue.insertAll placed.length items).1.map (·.item) = items ∧
      (queue.insertAll placed.length items).2.slotIds = placed ++ allocated queue.nextSlotId items.length ++ rest := by
  induction items generalizing queue placed with
  | nil => exact ⟨rfl, rfl, by simpa [insertAll, allocated] using ids⟩
  | cons item items ih =>
    have first := insert_slotIds ids item
    have shape : (queue.insert placed.length item).2.slotIds = (placed ++ [⟨queue.nextSlotId⟩]) ++ rest := by rw [first]; simp
    obtain ⟨handed, kept, later⟩ := ih shape
    rw [length_append, length_singleton] at handed kept later
    refine ⟨congrArg (_ :: ·) handed, congrArg (_ :: ·) kept, ?_⟩
    rw [length_cons, allocated]
    refine later.trans ?_
    simp only [append_assoc, cons_append]
    rfl

end PlaybackQueue

end Mbv.Queue
