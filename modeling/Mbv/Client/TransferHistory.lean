import Mbv.Machine.Run
import Mbv.Client.TransferWiring

namespace Mbv.Client

open Mbv.Queue List

inductive LinkRole where
  | active
  | home
  | staged
  | source
deriving DecidableEq

inductive TransferEvent where
  | begun (direction : QueueTransferDirection) (target : SessionId) (resolved : Bool)
      (opened : Option Opened) (awaited : Awaited)
  | confirmed (awaited : Awaited)
  | promptCancelled
  | received (role : LinkRole) (message : LinkMessage)
  | dropped (role : LinkRole)
  | drainedActive
  | drainedHome
  | remoteDisconnected (reattach : Option Opened)
  | homeDisconnected
  | shutdownAnnounced (fromHomeLink : Bool)
  | disconnect
  | connect (target : SessionId) (opened : Option Opened)
  | playRouted (resolved : Option String) (opened : Option Opened)

/-- One event, with what a connect to the local Owner would find while the event is handled and
    while the settlement after it runs. -/
structure Tick where
  event : TransferEvent
  reconnect : Option Opened := none
  reconnectSettling : Option Opened := none

namespace App

variable (endpoints : Endpoints) (app : App)

def mapRole (role : LinkRole) (change : OwnerLink → OwnerLink) : App :=
  match role with
  | .active => { app with player := change app.player }
  | .home => { app with suspendedLocal := app.suspendedLocal.map change }
  | .staged =>
    { app with
      stagedQueueTransfer := app.stagedQueueTransfer.map fun staged =>
        { staged with link := staged.link.map change } }
  | .source =>
    { app with
      pendingQueueTransfer := app.pendingQueueTransfer.map fun transfer =>
        { transfer with sourceLink := transfer.sourceLink.map change } }

def handle (reconnect : Option Opened) : TransferEvent → App
  | .begun direction target resolved opened awaited =>
    app.beginQueueTransfer endpoints direction target resolved opened reconnect awaited
  | .confirmed awaited => app.runStagedQueueTransfer endpoints reconnect awaited
  | .promptCancelled => app.dropStagedQueueTransfer
  | .received role message => app.mapRole role (·.receive message)
  | .dropped role => app.mapRole role (·.drop)
  | .drainedActive => app.drainPlayerEvent
  | .drainedHome => app.drainHomeEvent
  | .remoteDisconnected reattach => app.handleRemoteDisconnected endpoints reattach reconnect
  | .homeDisconnected => app.handleHomeDisconnected
  | .shutdownAnnounced fromHomeLink =>
    app.handleDaemonShutdownAnnounced endpoints fromHomeLink reconnect
  | .disconnect => app.disconnectRemote endpoints reconnect
  | .connect target opened => app.connectToSession endpoints target opened reconnect
  | .playRouted resolved opened => app.applyRouteForPlayback endpoints resolved opened reconnect

def machine : Machine App Tick where
  step app tick :=
    (app.handle endpoints tick.reconnect tick.event).settlePendingQueueTransfer endpoints
      tick.reconnectSettling

end App

/-! ### What a transfer may send -/

/-- The source is stopped on a view of the copy with its start slot active, and a status taken while
    the target played that slot; the target is stopped on a view of the copy without the slot. -/
def SentStop.Warranted (stop : SentStop) (copy : QueueCopy) : Prop :=
  stop.transfer = copy.number ∧ stop.view.copy = some copy.number ∧
    (stop.owner = copy.source ∧ stop.view.activeSlotId = some copy.startSlot ∧
        stop.status.plays = some copy.number ∨
      stop.owner = copy.target ∧ stop.view.queue.slot copy.startSlot = none)

instance (stop : SentStop) (copy : QueueCopy) : Decidable (stop.Warranted copy) := by
  unfold SentStop.Warranted; infer_instance

/-- The claim on one state: copies are numbered apart, every armed transfer is the pending one or
    ended, none ended twice, and every `Stop` is warranted by the copy of its own transfer. -/
structure App.TransfersSound (app : App) : Prop where
  numbered : (app.copies.map (·.number)).Nodup
  armed : ∀ copy ∈ app.copies,
    copy.number ∈ app.ended ∨ app.pendingQueueTransfer.map (·.number) = some copy.number
  pending : ∀ transfer ∈ app.pendingQueueTransfer,
    transfer.number ∉ app.ended ∧ ∃ copy ∈ app.copies, copy.number = transfer.number
  endedOnce : app.ended.Nodup
  stops : ∀ stop ∈ app.stops, ∃ copy ∈ app.copies, stop.Warranted copy

/-! ### The condition -/

def Awaited.Honest (number : Nat) : Awaited → Prop
  | .legacy => False
  | .applied _ snapshot late =>
    snapshot.status.Honest number ∧ HonestMessages number snapshot.status late
  | _ => True

def App.linkRole (app : App) : QueueLink → LinkRole
  | .peer => .active
  | .localOwner => if app.suspendedLocal.isSome then .home else .active

/-- From the answer to its replacement on, a transfer's target says playing only while it plays
    the copied start slot. -/
def App.HonestTick (app : App) (tick : Tick) : Prop :=
  match tick.event with
  | .begun _ _ _ _ awaited | .confirmed awaited => awaited.Honest app.copies.length
  | .received role message => ∀ transfer ∈ app.pendingQueueTransfer,
      role = app.linkRole transfer.direction.targetLink →
        (message.update (app.transferTargetStatus transfer.direction)).Honest transfer.number
  | .remoteDisconnected reattach => ∀ transfer ∈ app.pendingQueueTransfer,
      transfer.direction = .handOff → ∀ opened ∈ reattach,
        opened.snapshot.status.Honest transfer.number
  | _ => True

instance (number : Nat) : ∀ awaited : Awaited, Decidable (awaited.Honest number)
  | .legacy => isFalse id
  | .applied _ snapshot late =>
    inferInstanceAs (Decidable (snapshot.status.Honest number ∧
      HonestMessages number snapshot.status late))
  | .sendFailed | .unanswered _ | .rejected _ => isTrue trivial

instance (app : App) : ∀ tick : Tick, Decidable (app.HonestTick tick)
  | ⟨.begun _ _ _ _ awaited, _, _⟩ | ⟨.confirmed awaited, _, _⟩ =>
    inferInstanceAs (Decidable (awaited.Honest app.copies.length))
  | ⟨.received role message, _, _⟩ =>
    inferInstanceAs (Decidable (∀ transfer ∈ app.pendingQueueTransfer,
      role = app.linkRole transfer.direction.targetLink →
        (message.update (app.transferTargetStatus transfer.direction)).Honest transfer.number))
  | ⟨.remoteDisconnected reattach, _, _⟩ =>
    inferInstanceAs (Decidable (∀ transfer ∈ app.pendingQueueTransfer,
      transfer.direction = .handOff → ∀ opened ∈ reattach,
        opened.snapshot.status.Honest transfer.number))
  | ⟨.promptCancelled, _, _⟩ | ⟨.dropped _, _, _⟩ | ⟨.drainedActive, _, _⟩
  | ⟨.drainedHome, _, _⟩ | ⟨.homeDisconnected, _, _⟩ | ⟨.shutdownAnnounced _, _, _⟩
  | ⟨.disconnect, _, _⟩ | ⟨.connect _ _, _, _⟩ | ⟨.playRouted _ _, _, _⟩ => isTrue trivial

/-! ### The invariant of the record -/

def QueueCopy.Joins (endpoints : Endpoints) (copy : QueueCopy) (target : SessionId) :
    QueueTransferDirection → Prop
  | .handOff => copy.source = endpoints.home ∧ copy.target = endpoints.session target
  | .take => copy.source = endpoints.session target ∧ copy.target = endpoints.home

structure PendingQueueTransfer.Sent (endpoints : Endpoints) (copies : List QueueCopy)
    (transfer : PendingQueueTransfer) : Prop where
  copy : ∃ copy ∈ copies, copy.number = transfer.number ∧ copy.startSlot = transfer.startSlot ∧
    copy.Joins endpoints transfer.target transfer.direction
  sourceLink : ∀ link ∈ transfer.sourceLink, link.owner = endpoints.session transfer.target

structure App.Recorded (endpoints : Endpoints) (app : App) : Prop where
  sound : app.TransfersSound
  numbers : app.copies.map (·.number) = List.range app.copies.length
  endedBelow : ∀ number ∈ app.ended, number < app.copies.length
  sent : ∀ transfer ∈ app.pendingQueueTransfer, transfer.Sent endpoints app.copies

namespace App

variable {endpoints : Endpoints} {app next : App}

theorem ledger_eq (same : next.ledger = app.ledger) :
    next.copies = app.copies ∧ next.stops = app.stops ∧ next.ended = app.ended ∧
      next.pendingQueueTransfer = app.pendingQueueTransfer := by
  simpa [ledger] using same

theorem Recorded.of_ledger (recorded : app.Recorded endpoints) (same : next.ledger = app.ledger) : next.Recorded endpoints := by
  obtain ⟨copies, stops, ended, pending⟩ := ledger_eq same
  refine ⟨⟨?_, ?_, ?_, ?_, ?_⟩, ?_, ?_, ?_⟩
  · rw [copies]; exact recorded.sound.numbered
  · rw [copies, ended, pending]; exact recorded.sound.armed
  · rw [copies, ended, pending]; exact recorded.sound.pending
  · rw [ended]; exact recorded.sound.endedOnce
  · rw [copies, stops]; exact recorded.sound.stops
  · rw [copies]; exact recorded.numbers
  · rw [copies, ended]; exact recorded.endedBelow
  · rw [copies, pending]; exact recorded.sent

theorem Recorded.number_lt {copy : QueueCopy} (recorded : app.Recorded endpoints)
    (held : copy ∈ app.copies) : copy.number < app.copies.length := by
  have named : copy.number ∈ app.copies.map (·.number) := mem_map_of_mem held
  rw [recorded.numbers] at named
  exact mem_range.mp named

theorem Recorded.ending (recorded : app.Recorded endpoints) (copies : next.copies = app.copies) (stops : next.stops = app.stops)
    (ended : next.ended = app.ended ++ (app.pendingQueueTransfer.map (·.number)).toList)
    (pending : next.pendingQueueTransfer = none) : next.Recorded endpoints := by
  refine ⟨⟨?_, fun copy held => ?_, ?_, ?_, ?_⟩, ?_, ?_, ?_⟩
  · rw [copies]; exact recorded.sound.numbered
  · rw [copies] at held
    rw [ended, mem_append]
    rcases recorded.sound.armed copy held with past | current
    · exact .inl (.inl past)
    · rw [current]; exact .inl (.inr (by simp))
  · rw [pending]; simp
  · rw [ended]
    cases current : app.pendingQueueTransfer with
    | none => simpa using recorded.sound.endedOnce
    | some transfer =>
      have fresh := (recorded.sound.pending transfer current).1
      simp only [Option.map_some, Option.toList_some]
      exact nodup_append.mpr ⟨recorded.sound.endedOnce, by simp, fun number past other last same =>
          fresh (mem_singleton.mp last ▸ same ▸ past)⟩
  · rw [copies, stops]; exact recorded.sound.stops
  · rw [copies]; exact recorded.numbers
  · rw [copies, ended]
    intro number held
    rcases mem_append.mp held with past | last
    · exact recorded.endedBelow number past
    · cases current : app.pendingQueueTransfer with
      | none => rw [current] at last; exact absurd last (by simp)
      | some transfer =>
        obtain ⟨copy, sent, same, -⟩ := (recorded.sent transfer current).copy
        rw [current] at last
        simp only [Option.map_some, Option.toList_some, mem_singleton] at last
        rw [last, ← same]
        exact recorded.number_lt sent
  · rw [pending]; simp

theorem Recorded.endPending (recorded : app.Recorded endpoints) : app.endPendingQueueTransfer.Recorded endpoints :=
  recorded.ending rfl rfl rfl rfl

theorem Recorded.arm {transfer : PendingQueueTransfer} (copy : QueueCopy)
    (recorded : app.Recorded endpoints) (idle : app.pendingQueueTransfer = none)
    (copies : next.copies = app.copies ++ [copy]) (stops : next.stops = app.stops)
    (ended : next.ended = app.ended) (pending : next.pendingQueueTransfer = some transfer)
    (number : copy.number = app.copies.length) (same : transfer.number = copy.number)
    (sent : transfer.Sent endpoints (app.copies ++ [copy])) : next.Recorded endpoints := by
  have numbers : (app.copies ++ [copy]).map (·.number) = List.range (app.copies ++ [copy]).length := by
    rw [map_append, recorded.numbers, length_append, length_singleton, range_succ]
    simp [number]
  refine ⟨⟨?_, fun other held => ?_, fun other current => ?_, ?_, fun stop held => ?_⟩, ?_, ?_, ?_⟩
  · rw [copies, numbers]; exact nodup_range
  · rw [ended, pending]
    rw [copies, mem_append, mem_singleton] at held
    rcases held with held | rfl
    · rcases recorded.sound.armed other held with past | current
      · exact .inl past
      · rw [idle] at current; cases current
    · exact .inr (by simp [same])
  · rw [pending] at current
    cases current
    rw [ended, copies]
    refine ⟨fun past => ?_, copy, by simp, same.symm⟩
    have below := recorded.endedBelow _ past
    omega
  · rw [ended]; exact recorded.sound.endedOnce
  · rw [stops] at held
    obtain ⟨warrant, there, warranted⟩ := recorded.sound.stops stop held
    exact ⟨warrant, by rw [copies]; exact mem_append_left _ there, warranted⟩
  · rw [copies]; exact numbers
  · rw [ended, copies]
    intro past held
    have below := recorded.endedBelow past held
    simp only [length_append, length_singleton]
    omega
  · rw [pending, copies]
    intro other current
    cases current
    exact sent

/-! ### The invariant of the Client -/

structure Shown (app : App) (transfer : PendingQueueTransfer) : Prop where
  link : (app.queueLink transfer.direction.targetLink).Shows transfer.number
  view : (app.queueForLink transfer.direction.targetLink).copy = some transfer.number
  attached : transfer.direction = .handOff →
    app.directRemoteConnected = true ∧ app.directRemoteSessionId = some transfer.target

def StagedSound (endpoints : Endpoints) (app : App) (staged : StagedQueueTransfer) : Prop :=
  match staged.link with
  | some link => link.owner = endpoints.session staged.target
  | none => app.directRemoteConnected = true ∧ app.directRemoteSessionId = some staged.target

structure TransferInv (endpoints : Endpoints) (app : App) : Prop where
  wired : app.Wired endpoints
  recorded : app.Recorded endpoints
  staged : ∀ staged ∈ app.stagedQueueTransfer,
    app.pendingQueueTransfer = none ∧ app.StagedSound endpoints staged
  shown : ∀ transfer ∈ app.pendingQueueTransfer,
    app.transferTargetLinkLost transfer.direction = false → app.Shown transfer

def Settled (app : App) : Prop :=
  ∀ transfer ∈ app.pendingQueueTransfer, app.transferTargetLinkLost transfer.direction = false

theorem Shown.keepsHome {transfer : PendingQueueTransfer} (shown : app.Shown transfer)
    (take : transfer.direction = .take) (keeps : app.KeepsHome next) : next.Shown transfer := by
  have link := shown.link
  have view := shown.view
  rw [take] at link view
  refine ⟨?_, ?_, fun handOff => ?_⟩
  · rw [take]; exact keeps.link ▸ link
  · rw [take]; exact (congrArg QueueView.copy keeps.view).trans view
  · rw [take] at handOff; cases handOff

/-- A change of the attachment keeps the invariant if it keeps the links wired, a Hand off's target
    shown, and the local Owner's link to a Take. -/
theorem TransferInv.move (inv : app.TransferInv endpoints) (settled : app.Settled)
    (wired : next.Wired endpoints) (ledger : next.ledger = app.ledger)
    (staged : ∀ staged ∈ next.stagedQueueTransfer, staged ∈ app.stagedQueueTransfer ∧ next.StagedSound endpoints staged)
    (handOff : ∀ transfer ∈ app.pendingQueueTransfer, transfer.direction = .handOff →
      app.Shown transfer → next.transferTargetLinkLost .handOff = false → next.Shown transfer)
    (take : app.transferTargetLinkLost .take = false → app.KeepsHome next ∨ next.transferTargetLinkLost .take = true) :
    next.TransferInv endpoints := by
  have pending := (ledger_eq ledger).2.2.2
  refine ⟨wired, inv.recorded.of_ledger ledger, fun staging held => ?_, fun transfer current alive => ?_⟩
  · obtain ⟨before, sound⟩ := staged staging held
    exact ⟨pending.trans (inv.staged staging before).1, sound⟩
  · rw [pending] at current
    have before := settled transfer current
    have shown := inv.shown transfer current before
    cases direction : transfer.direction with
    | handOff =>
      rw [direction] at alive
      exact handOff transfer current direction shown alive
    | take =>
      rw [direction] at alive before
      rcases take before with keeps | lost
      · exact shown.keepsHome direction keeps
      · rw [lost] at alive; cases alive

theorem TransferInv.cancel (inv : app.TransferInv endpoints) : app.cancelPendingQueueTransfer.TransferInv endpoints :=
  ⟨inv.wired.cancel, inv.recorded.ending rfl rfl rfl rfl,
    fun _ held => absurd held (by simp [cancelPendingQueueTransfer, dropStagedQueueTransfer]),
    fun _ held => absurd held (by
      simp [cancelPendingQueueTransfer, dropStagedQueueTransfer, endPendingQueueTransfer])⟩

end App

end Mbv.Client
