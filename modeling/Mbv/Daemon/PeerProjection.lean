import Mbv.Daemon.QueueAttach

/-! What a peer sees of the owner's queue. -/

namespace Mbv.Daemon

open Mbv.Queue Mbv.Player List

namespace QueueTransport

def full : QueueTransport := ⟨true, true, true⟩

def Within (small large : QueueTransport) : Prop :=
  (small.absEpisode = true → large.absEpisode = true) ∧
  (small.absBook = true → large.absBook = true) ∧
  (small.twitch = true → large.twitch = true)

theorem Within.carries {small large : QueueTransport} (within : small.Within large)
    (item : QueueItem) (carried : small.carries item = true) : large.carries item = true := by
  obtain ⟨episode, book, twitch⟩ := within
  cases item with
  | emby item => rfl
  | feed entry => rfl
  | twitch item => exact twitch carried
  | audiobookshelf item =>
    cases item with
    | episode item => exact episode carried
    | book item => exact book carried

theorem full_carries (item : QueueItem) : full.carries item = true := by
  cases item with
  | audiobookshelf item => cases item <;> rfl
  | emby _ | feed _ | twitch _ => rfl

end QueueTransport

def QueueSlot.unified (slot : QueueSlot) : UnifiedQueueSlot := ⟨slot.slotId, slot.item⟩

structure OwnerView where
  status : PlayerStatus
  queue : PlaybackQueue
  source : QueueSource
  lineage : QueueLineage
  observedActiveSlot : Option QueueSlotId := none
  transitions : TransitionSummaries := (none, none)

namespace OwnerView

variable (view : OwnerView) (transport : QueueTransport)

def shownTo : UnifiedQueueState :=
  unifiedQueueStateForPeer view.status view.queue view.source view.lineage view.observedActiveSlot
    view.transitions transport

def playedSlot : Option QueueSlotId :=
  view.observedActiveSlot.or (if view.status.active then view.queue.activeSlotId else none)

def own : UnifiedQueueState where
  status := view.status
  slots := view.queue.slots.map QueueSlot.unified
  activeSlot := view.playedSlot.filter view.queue.slotIds.contains
  revision := view.queue.revision
  source := view.source
  lineage := view.lineage
  inFlightTransition := view.transitions.1
  queuedLatestTransition := view.transitions.2

def carried : List QueueSlot := view.queue.slots.filter fun slot => transport.carries slot.item

theorem any_slotId (slots : List QueueSlot) (active : QueueSlotId) :
    ((slots.map QueueSlot.unified).any fun slot => decide (slot.slotId = active)) = (slots.map (·.slotId)).contains active := by
  induction slots with
  | nil => rfl
  | cons slot slots ih =>
    rw [map_cons, any_cons, map_cons, contains_cons, ih, Bool.beq_comm]
    rfl

theorem unified_slotIds (slots : List QueueSlot) : (slots.map QueueSlot.unified).map (·.slotId) = slots.map (·.slotId) := by
  rw [map_map]
  rfl

theorem shownTo_eq : view.shownTo transport = { view.own with
        slots := (view.carried transport).map QueueSlot.unified
        activeSlot := view.playedSlot.filter
          ((view.carried transport).map (·.slotId)).contains } := by
  have same := funext (any_slotId (view.carried transport))
  rw [← same]
  rfl

theorem full_shows_own : view.shownTo .full = view.own := by
  have all : view.carried .full = view.queue.slots := filter_eq_self.mpr fun slot _ => QueueTransport.full_carries slot.item
  rw [shownTo_eq, all]
  rfl

theorem shown_mono {small large : QueueTransport} (within : small.Within large) :
    (view.shownTo small).slots.Sublist (view.shownTo large).slots :=
  (monotone_filter_right view.queue.slots fun slot =>
    within.carries slot.item).map QueueSlot.unified

theorem active_shown (active : QueueSlotId) (shown : active ∈ (view.shownTo transport).activeSlot) :
    active ∈ (view.shownTo transport).slots.map (·.slotId) := by
  rw [shownTo_eq] at shown ⊢
  have held := (Option.filter_eq_some_iff.mp shown).2
  rw [contains_iff_mem] at held
  rw [unified_slotIds]
  exact held

theorem active_of_own : (view.shownTo transport).activeSlot =
      view.own.activeSlot.filter ((view.shownTo transport).slots.map (·.slotId)).contains := by
  rw [shownTo_eq, own]
  dsimp only
  rw [Option.filter_filter, unified_slotIds]
  congr 1
  funext active
  have among : ((view.carried transport).map (·.slotId)).contains active = true → view.queue.slotIds.contains active = true := by
    intro held
    rw [contains_iff_mem] at held ⊢
    exact (filter_sublist.map _).subset held
  cases held : ((view.carried transport).map (·.slotId)).contains active with
  | true => rw [among held]; rfl
  | false => rw [Bool.and_false]

end OwnerView

end Mbv.Daemon
