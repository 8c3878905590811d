import Mbv.Queue.PlaybackQueue

namespace Mbv.Client

open Mbv.Queue

abbrev OwnerId := Nat

/-- `plays` is the truth behind the status, which no function reads: the number of the queue copy
    whose start slot the owner audibly plays when it takes the status. -/
structure PlayerStatus where
  active : Bool := false
  paused : Bool := false
  positionTicks : Int := 0
  plays : Option Nat := none

def PlayerStatus.audible (status : PlayerStatus) : Bool := status.active && !status.paused

/-- `UnifiedQueueStateData`. `copy` is a ghost: the last queue copy the owner had answered when the
    snapshot was read off its link. -/
structure QueueSnapshot where
  status : PlayerStatus
  slots : List QueueSlot
  activeSlot : Option QueueSlotId := none
  inFlightTransition : Option QueueSlotId := none
  queuedLatestTransition : Option QueueSlotId := none
  copy : Option Nat := none

def pendingPlaybackSlot (state : QueueSnapshot) : Option QueueSlotId :=
  state.queuedLatestTransition.or state.inFlightTransition

/-- The Client's adopt-only view of one Player owner's queue. -/
structure QueueView where
  queue : PlaybackQueue
  pendingPlaybackSlot : Option QueueSlotId
  copy : Option Nat

def queueFromSnapshot (state : QueueSnapshot) : PlaybackQueue :=
  PlaybackQueue.fromSlotItems (state.slots.map fun slot => (slot.slotId, slot.item))
    state.activeSlot 0

namespace QueueView

def default : QueueView := ⟨PlaybackQueue.fromQueueItems [] none 0, none, none⟩

def adopt (state : QueueSnapshot) : QueueView :=
  ⟨queueFromSnapshot state, Client.pendingPlaybackSlot state, state.copy⟩

def replacementView (snapshot : Option QueueSnapshot) : QueueView :=
  snapshot.elim default adopt

def activeSlotId (view : QueueView) : Option QueueSlotId := view.queue.activeSlotId

def totalQueueLen (view : QueueView) : Nat := view.queue.len

@[simp] theorem adopt_copy (state : QueueSnapshot) : (adopt state).copy = state.copy := rfl

end QueueView

/-- What the reader thread of a link reads, and what it does at once with each: the queue state
    is also queued for the App. -/
inductive LinkMessage where
  | statusOnly (status : PlayerStatus)
  | stopped
  | pausedChanged (paused : Bool) (plays : Option Nat)
  | queueState (snapshot : QueueSnapshot)

def LinkMessage.update (status : PlayerStatus) : LinkMessage → PlayerStatus
  | .statusOnly status => status
  | .stopped => { status with active := false }
  | .pausedChanged paused plays => { status with paused, plays }
  | .queueState snapshot => snapshot.status

structure Capabilities where
  queueReplaceStartPosition : Bool := true
  audioOnly : Bool := false

/-- One connection to a Player owner: `status` and `unifiedQueue` are the cells its reader thread
    writes, `events` the snapshots it has queued for the App. `copy` is a ghost: the queue copy the
    owner last answered over this link or over the one it reattached. -/
structure OwnerLink where
  owner : OwnerId
  capabilities : Capabilities
  status : PlayerStatus
  unifiedQueue : Option QueueSnapshot
  events : List QueueSnapshot := []
  disconnected : Bool := false
  copy : Option Nat := none

structure Opened where
  capabilities : Capabilities := {}
  snapshot : QueueSnapshot

namespace OwnerLink

def connect (owner : OwnerId) (copy : Option Nat) (opened : Opened) : OwnerLink where
  owner
  capabilities := opened.capabilities
  status := opened.snapshot.status
  unifiedQueue := some { opened.snapshot with copy }
  copy

def receive (link : OwnerLink) (message : LinkMessage) : OwnerLink :=
  if link.disconnected then link
  else
    let link := { link with status := message.update link.status }
    match message with
    | .queueState snapshot =>
      let snapshot := { snapshot with copy := link.copy }
      { link with unifiedQueue := some snapshot, events := link.events ++ [snapshot] }
    | _ => link

def receiveAll (link : OwnerLink) (messages : List LinkMessage) : OwnerLink :=
  messages.foldl receive link

def drop (link : OwnerLink) : OwnerLink := { link with disconnected := true }

def ends (link : OwnerLink) : OwnerId × Bool := (link.owner, link.disconnected)

end OwnerLink

/-- A status says playing only of the start slot of copy `number`. -/
def PlayerStatus.Honest (number : Nat) (status : PlayerStatus) : Prop :=
  status.audible = true → status.plays = some number

instance (number : Nat) (status : PlayerStatus) : Decidable (status.Honest number) := by
  unfold PlayerStatus.Honest; infer_instance

def HonestMessages (number : Nat) (status : PlayerStatus) : List LinkMessage → Prop
  | [] => True
  | message :: messages =>
    (message.update status).Honest number ∧
      HonestMessages number (message.update status) messages

instance HonestMessages.decide (number : Nat) :
    ∀ (status : PlayerStatus) (messages : List LinkMessage),
      Decidable (HonestMessages number status messages)
  | _, [] => isTrue True.intro
  | status, message :: messages =>
    have := HonestMessages.decide number (message.update status) messages
    inferInstanceAs (Decidable (_ ∧ _))

/-- The link shows nothing but copy `number`, and says playing only of its start slot. -/
structure OwnerLink.Shows (number : Nat) (link : OwnerLink) : Prop where
  copy : link.copy = some number
  status : link.status.Honest number
  events : ∀ snapshot ∈ link.events, snapshot.copy = some number ∧ snapshot.status.Honest number

namespace OwnerLink

variable {number : Nat} {link : OwnerLink}

@[simp] theorem receive_owner (message : LinkMessage) : (link.receive message).owner = link.owner := by
  unfold receive; cases message <;> dsimp only <;> split <;> rfl

@[simp] theorem receive_copy (message : LinkMessage) : (link.receive message).copy = link.copy := by
  unfold receive; cases message <;> dsimp only <;> split <;> rfl

@[simp] theorem receive_disconnected (message : LinkMessage) : (link.receive message).disconnected = link.disconnected := by
  unfold receive; cases message <;> dsimp only <;> split <;> rfl

theorem receive_events (link : OwnerLink) (message : LinkMessage) : (link.receive message).events = link.events ∨
      ∃ snapshot, message = .queueState snapshot ∧
        (link.receive message).events = link.events ++ [{ snapshot with copy := link.copy }] := by
  unfold receive
  cases message <;> dsimp only <;> split <;> simp

theorem receive_status (link : OwnerLink) (message : LinkMessage) : (link.receive message).status = link.status ∨
      (link.receive message).status = message.update link.status := by
  unfold receive
  cases message <;> dsimp only <;> split <;> simp

theorem Shows.receive {message : LinkMessage} (shows : link.Shows number) (honest : (message.update link.status).Honest number) :
    (link.receive message).Shows number := by
  refine ⟨(receive_copy message).trans shows.copy, ?_, fun snapshot queued => ?_⟩
  · rcases receive_status link message with same | new
    · exact same ▸ shows.status
    · exact new ▸ honest
  · rcases receive_events link message with same | ⟨read, rfl, more⟩
    · exact shows.events snapshot (same ▸ queued)
    · rw [more, List.mem_append, List.mem_singleton] at queued
      rcases queued with queued | rfl
      · exact shows.events snapshot queued
      · exact ⟨shows.copy, honest⟩

theorem receiveAll_kept (messages : List LinkMessage) : (link.receiveAll messages).owner = link.owner ∧
      (link.receiveAll messages).disconnected = link.disconnected := by
  induction messages generalizing link with
  | nil => exact ⟨rfl, rfl⟩
  | cons message messages ih =>
    have rest := @ih (link.receive message)
    exact ⟨rest.1.trans (receive_owner message), rest.2.trans (receive_disconnected message)⟩

@[simp] theorem receiveAll_owner (messages : List LinkMessage) :
    (link.receiveAll messages).owner = link.owner := (receiveAll_kept messages).1

@[simp] theorem receiveAll_disconnected (messages : List LinkMessage) :
    (link.receiveAll messages).disconnected = link.disconnected := (receiveAll_kept messages).2

theorem Shows.receiveAll {messages : List LinkMessage} (shows : link.Shows number)
    (alive : link.disconnected = false) (honest : HonestMessages number link.status messages) :
    (link.receiveAll messages).Shows number := by
  induction messages generalizing link with
  | nil => exact shows
  | cons message messages ih =>
    have read : (link.receive message).status = message.update link.status := by
      cases message <;> simp [OwnerLink.receive, alive]
    exact ih (shows.receive honest.1) ((receive_disconnected message).trans alive) (read ▸ honest.2)

theorem Shows.drop (shows : link.Shows number) : link.drop.Shows number := ⟨shows.copy, shows.status, shows.events⟩

theorem Shows.connect {owner : OwnerId} {opened : Opened} (honest : opened.snapshot.status.Honest number) :
    (connect owner (some number) opened).Shows number :=
  ⟨rfl, honest, fun _ none => absurd none List.not_mem_nil⟩

end OwnerLink

end Mbv.Client
