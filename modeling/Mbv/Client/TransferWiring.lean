import Mbv.Client.QueueTransfer

namespace Mbv.Client

open Mbv.Queue

structure App.Wired (endpoints : Endpoints) (app : App) : Prop where
  localOwner : app.isLocalDaemon = true →
    app.player.owner = endpoints.home ∧ app.remoteView = none ∧ app.suspendedLocal = none
  suspended : ∀ home ∈ app.suspendedLocal,
    home.owner = endpoints.home ∧ app.remoteView.isSome = true
  unattached : app.remoteView = none → app.isLocalDaemon = true ∨ app.player.disconnected = true
  session : ∀ target ∈ app.directRemoteSessionId,
    app.player.owner = endpoints.session target ∧ app.activeRoute = none

/-- What the transfers left on record, and the transfer that is under way. -/
def App.ledger (app : App) :
    List QueueCopy × List SentStop × List Nat × Option PendingQueueTransfer :=
  (app.copies, app.stops, app.ended, app.pendingQueueTransfer)

/-- The local Owner's link is the same and still there, and so is the view of its queue. -/
structure App.KeepsHome (app next : App) : Prop where
  link : next.queueLink .localOwner = app.queueLink .localOwner
  view : next.localView = app.localView
  present : next.transferTargetLinkLost .take = false

namespace App

variable {endpoints : Endpoints} {app : App} {reconnect : Option Opened}

theorem KeepsHome.trans {next last : App} (first : app.KeepsHome next) (second : next.KeepsHome last) : app.KeepsHome last :=
  ⟨second.link.trans first.link, second.view.trans first.view, second.present⟩

theorem KeepsHome.of_eq {next : App} (present : app.transferTargetLinkLost .take = false)
    (player : next.player = app.player) (suspended : next.suspendedLocal = app.suspendedLocal)
    (localView : next.localView = app.localView) (remoteView : next.remoteView = app.remoteView) :
    app.KeepsHome next := by
  refine ⟨?_, localView, ?_⟩
  · simp only [queueLink, player, suspended]
  · simpa only [transferTargetLinkLost, hasRemoteQueue, player, suspended, remoteView] using present

theorem Wired.home_cases (wired : app.Wired endpoints) (present : app.transferTargetLinkLost .take = false) :
    (∃ home, app.suspendedLocal = some home ∧ home.disconnected = false ∧ app.isLocalDaemon = false) ∨
      (app.suspendedLocal = none ∧ app.remoteView = none ∧ app.player.disconnected = false ∧ app.isLocalDaemon = true) := by
  cases suspended : app.suspendedLocal with
  | some home =>
    refine .inl ⟨home, rfl, by simpa [transferTargetLinkLost, suspended] using present, ?_⟩
    cases isLocal : app.isLocalDaemon with
    | false => rfl
    | true => rw [(wired.localOwner isLocal).2.2] at suspended; cases suspended
  | none =>
    have gone : app.remoteView = none ∧ app.player.disconnected = false := by
      simpa [transferTargetLinkLost, suspended, hasRemoteQueue] using present
    refine .inr ⟨rfl, gone.1, gone.2, ?_⟩
    rcases wired.unattached gone.1 with isLocal | lost
    · exact isLocal
    · rw [gone.2] at lost; cases lost

theorem Wired.home_owner (wired : app.Wired endpoints) (present : app.transferTargetLinkLost .take = false) :
    (app.queueLink .localOwner).owner = endpoints.home := by
  rcases wired.home_cases present with ⟨home, suspended, -, -⟩ | ⟨suspended, -, -, isLocal⟩
  · simp only [queueLink, suspended, Option.getD_some]
    exact (wired.suspended home (by simp [suspended])).1
  · simp only [queueLink, suspended, Option.getD_none]
    exact (wired.localOwner isLocal).1

/-! ### Restoring the local Owner -/

theorem finishLocalMode_wired {reconnected : Option QueueView}
    (isLocal : app.isLocalDaemon = true → app.player.owner = endpoints.home)
    (alone : app.suspendedLocal = none)
    (lost : app.isLocalDaemon = true ∨ app.player.disconnected = true) :
    (app.finishLocalMode reconnected).Wired endpoints :=
  ⟨fun here => ⟨isLocal here, rfl, alone⟩, fun home held => absurd (held.symm.trans alone) (by simp), fun _ => lost,
    fun _ held => absurd held (by simp [finishLocalMode])⟩

theorem restoreLocalMode_spec (reconnect : Option Opened) (wired : app.Wired endpoints) :
    let next := app.restoreLocalMode endpoints reconnect
    next.Wired endpoints ∧ next.remoteView = none ∧ next.directRemoteSessionId = none ∧
      next.directRemoteConnected = false ∧ next.activeRoute = none ∧ next.ledger = app.ledger ∧
      next.stagedQueueTransfer = app.stagedQueueTransfer := by
  dsimp only
  unfold restoreLocalMode
  split
  · rename_i here
    rw [Bool.and_eq_true, Option.isNone_iff_eq_none] at here
    exact ⟨finishLocalMode_wired (fun isLocal => (wired.localOwner isLocal).1) here.2 (.inl here.1),
      rfl, rfl, rfl, rfl, rfl, rfl⟩
  · split
    · rename_i home alive
      obtain ⟨suspended, -⟩ := Option.filter_eq_some_iff.mp alive
      refine ⟨finishLocalMode_wired (fun _ => ?_) rfl (.inl rfl), rfl, rfl, rfl, rfl, rfl, rfl⟩
      exact (wired.suspended home suspended).1
    · split
      · exact ⟨finishLocalMode_wired (fun _ => rfl) rfl (.inl rfl), rfl, rfl, rfl, rfl, rfl, rfl⟩
      · rename_i notHere _ _
        refine ⟨finishLocalMode_wired (fun isLocal => ?_) rfl (.inr rfl), rfl, rfl, rfl, rfl, rfl, rfl⟩
        exact (wired.localOwner isLocal).1

theorem restoreLocalMode_keepsHome (reconnect : Option Opened) (wired : app.Wired endpoints)
    (present : app.transferTargetLinkLost .take = false) :
    app.KeepsHome (app.restoreLocalMode endpoints reconnect) := by
  rcases wired.home_cases present with
    ⟨home, suspended, alive, elsewhere⟩ | ⟨suspended, noPeer, alive, isLocal⟩
  · refine ⟨?_, ?_, ?_⟩ <;> simp [restoreLocalMode, elsewhere, suspended, alive, finishLocalMode, queueLink,
        transferTargetLinkLost, hasRemoteQueue, Option.filter]
  · refine ⟨?_, ?_, ?_⟩ <;> simp [restoreLocalMode, isLocal, suspended, alive, finishLocalMode, queueLink,
        transferTargetLinkLost, hasRemoteQueue]

/-! ### Attaching a remote owner -/

theorem attachRemoteOwner_keepsHome (remote : OwnerLink) (wired : app.Wired endpoints)
    (present : app.transferTargetLinkLost .take = false) :
    app.KeepsHome (app.attachRemoteOwner remote) := by
  rcases wired.home_cases present with
    ⟨home, suspended, alive, elsewhere⟩ | ⟨suspended, noPeer, alive, isLocal⟩
  · refine ⟨?_, ?_, ?_⟩ <;> simp [attachRemoteOwner, elsewhere, suspended, alive, queueLink, transferTargetLinkLost]
  · refine ⟨?_, ?_, ?_⟩ <;> simp [attachRemoteOwner, isLocal, suspended, alive, queueLink, transferTargetLinkLost]

theorem attachRemoteOwner_spec (remote : OwnerLink) (wired : app.Wired endpoints) : let next := app.attachRemoteOwner remote
    next.isLocalDaemon = false ∧ next.player = remote ∧ next.remoteView.isSome = true ∧
      (∀ home ∈ next.suspendedLocal, home.owner = endpoints.home) ∧
      next.ledger = app.ledger ∧ next.stagedQueueTransfer = app.stagedQueueTransfer ∧
      next.activeRoute = app.activeRoute := by
  dsimp only
  unfold attachRemoteOwner
  cases isLocal : app.isLocalDaemon with
  | true =>
    refine ⟨rfl, rfl, rfl, fun home held => ?_, rfl, rfl, rfl⟩
    cases held
    exact (wired.localOwner isLocal).1
  | false =>
    exact ⟨by simp, rfl, rfl, fun home held => (wired.suspended home held).1, rfl, rfl, rfl⟩

theorem attached_wired {remote : OwnerLink} (connected : Bool) (session : Option SessionId)
    (route : Option String) (wired : app.Wired endpoints)
    (leads : ∀ target ∈ session, remote.owner = endpoints.session target ∧ route = none) :
    ({ app.attachRemoteOwner remote with
      directRemoteConnected := connected, directRemoteSessionId := session
      activeRoute := route } : App).Wired endpoints := by
  obtain ⟨elsewhere, player, shown, suspended, -⟩ := attachRemoteOwner_spec remote wired
  refine ⟨fun isLocal => ?_, fun home held => ⟨suspended home held, shown⟩, fun gone => ?_, fun target held => ?_⟩
  · exact absurd (elsewhere.symm.trans isLocal) (by decide)
  · exact absurd (Option.isSome_iff_ne_none.mp shown gone) (by simp)
  · exact ⟨(congrArg OwnerLink.owner player).trans (leads target held).1, (leads target held).2⟩

theorem switchToLibraryRoute_wired {name : String} {remote : OwnerLink}
    (wired : app.Wired endpoints) : (app.switchToLibraryRoute name remote).Wired endpoints :=
  attached_wired _ _ _ wired fun _ held => by cases held

theorem launch_wired {opened : Opened} {autoReconnect : Bool} {lastRoute : Option (String × Opened)} :
    (launch endpoints opened autoReconnect lastRoute).Wired endpoints := by
  unfold launch
  have home : ({ player := OwnerLink.connect endpoints.home none opened
                 isLocalDaemon := true
                 localView := QueueView.adopt opened.snapshot
                 autoReconnect } : App).Wired endpoints :=
    ⟨fun _ => ⟨rfl, rfl, rfl⟩, fun _ held => absurd held (by simp), fun _ => .inl rfl, fun _ held => absurd held (by simp)⟩
  cases lastRoute with
  | none => exact home
  | some route => exact switchToLibraryRoute_wired home

/-! ### Disconnecting and severing -/

theorem disconnectRemote_cases (endpoints : Endpoints) (app : App) (reconnect : Option Opened) :
    app.directRemoteConnected = false ∧ app.disconnectRemote endpoints reconnect = app ∨
      app.directRemoteConnected = true ∧ app.disconnectRemote endpoints reconnect =
        app.cancelPendingQueueTransfer.restoreLocalMode endpoints reconnect := by
  unfold disconnectRemote
  cases connected : app.directRemoteConnected <;> simp

theorem Wired.cancel (wired : app.Wired endpoints) : app.cancelPendingQueueTransfer.Wired endpoints :=
  ⟨wired.localOwner, wired.suspended, wired.unattached, wired.session⟩

theorem disconnectRemote_wired (wired : app.Wired endpoints) : (app.disconnectRemote endpoints reconnect).Wired endpoints := by
  rcases disconnectRemote_cases endpoints app reconnect with
    ⟨-, same⟩ | ⟨-, restored⟩
  · rw [same]; exact wired
  · rw [restored]; exact (restoreLocalMode_spec reconnect wired.cancel).1

theorem severConnections_cases (reconnect : Option Opened) (wired : app.Wired endpoints) :
    app.activeRoute ≠ none ∧ app.severConnections endpoints reconnect = app.restoreLocalMode endpoints reconnect ∨
      app.activeRoute = none ∧ app.severConnections endpoints reconnect = app.disconnectRemote endpoints reconnect := by
  unfold severConnections
  cases route : app.activeRoute with
  | some name =>
    refine .inl ⟨by simp, ?_⟩
    have restored := (restoreLocalMode_spec reconnect wired).2.2.2.1
    simp [restored]
  | none =>
    refine .inr ⟨rfl, ?_⟩
    cases connected : app.directRemoteConnected <;> simp [disconnectRemote, connected]

theorem severConnections_spec (wired : app.Wired endpoints) : (app.severConnections endpoints reconnect).Wired endpoints ∧
      (app.severConnections endpoints reconnect).activeRoute = none := by
  rcases severConnections_cases reconnect wired with ⟨-, restored⟩ | ⟨route, same⟩
  · rw [restored]
    have spec := restoreLocalMode_spec reconnect wired
    exact ⟨spec.1, spec.2.2.2.2.1⟩
  · rw [same]
    refine ⟨disconnectRemote_wired wired, ?_⟩
    rcases disconnectRemote_cases endpoints app reconnect with ⟨-, same⟩ | ⟨-, restored⟩
    · rw [same]; exact route
    · rw [restored]; exact (restoreLocalMode_spec reconnect wired.cancel).2.2.2.2.1

/-! ### Events that move nothing but what the links show -/

structure SameWiring (app next : App) : Prop where
  isLocal : next.isLocalDaemon = app.isLocalDaemon
  player : next.player.ends = app.player.ends
  suspended : next.suspendedLocal.map (·.ends) = app.suspendedLocal.map (·.ends)
  remoteView : next.remoteView.isSome = app.remoteView.isSome
  connected : next.directRemoteConnected = app.directRemoteConnected
  session : next.directRemoteSessionId = app.directRemoteSessionId
  route : next.activeRoute = app.activeRoute
  staged : next.stagedQueueTransfer = app.stagedQueueTransfer
  ledger : next.ledger = app.ledger

theorem SameWiring.refl : SameWiring app app := ⟨rfl, rfl, rfl, rfl, rfl, rfl, rfl, rfl, rfl⟩

theorem SameWiring.trans {next last : App} (first : SameWiring app next) (second : SameWiring next last) : SameWiring app last :=
  ⟨second.1.trans first.1, second.2.trans first.2, second.3.trans first.3, second.4.trans first.4,
    second.5.trans first.5, second.6.trans first.6, second.7.trans first.7,
    second.8.trans first.8, second.9.trans first.9⟩

theorem SameWiring.wired {next : App} (same : SameWiring app next) (wired : app.Wired endpoints) : next.Wired endpoints := by
  have owner : next.player.owner = app.player.owner := congrArg Prod.fst same.player
  have up : next.player.disconnected = app.player.disconnected := congrArg Prod.snd same.player
  have shown : next.remoteView = none ↔ app.remoteView = none := by
    rw [← Option.not_isSome_iff_eq_none, ← Option.not_isSome_iff_eq_none, same.remoteView]
  refine ⟨fun isLocal => ?_, fun home held => ?_, fun gone => ?_, fun target held => ?_⟩
  · obtain ⟨leads, gone, alone⟩ := wired.localOwner (same.isLocal ▸ isLocal)
    refine ⟨owner.trans leads, shown.mpr gone, ?_⟩
    have suspended := same.suspended
    rw [alone] at suspended
    simpa using suspended
  · have suspended := same.suspended
    rw [Option.mem_def.mp held] at suspended
    obtain ⟨before, held, ends⟩ := Option.map_eq_some_iff.mp suspended.symm
    have was := wired.suspended before held
    exact ⟨(congrArg Prod.fst ends).symm.trans was.1, same.remoteView.trans was.2⟩
  · rw [same.isLocal, up]
    exact wired.unattached (shown.mp gone)
  · rw [same.session] at held
    rw [owner, same.route]
    exact wired.session target held

theorem SameWiring.lost {next : App} (same : SameWiring app next) (direction : QueueTransferDirection) :
    next.transferTargetLinkLost direction = app.transferTargetLinkLost direction := by
  have up : next.player.disconnected = app.player.disconnected := congrArg Prod.snd same.player
  have suspended := same.suspended
  cases direction with
  | handOff => simp only [transferTargetLinkLost, hasRemoteQueue, same.remoteView, up]
  | take =>
    unfold transferTargetLinkLost hasRemoteQueue
    rw [same.remoteView, up]
    cases after : next.suspendedLocal with
    | none =>
      rw [after] at suspended
      rw [Option.map_eq_none_iff.mp suspended.symm]
    | some home =>
      rw [after] at suspended
      obtain ⟨before, held, ends⟩ := Option.map_eq_some_iff.mp suspended.symm
      rw [held]
      exact (congrArg Prod.snd ends).symm

theorem adoptInto_sameWiring (link : QueueLink) (snapshot : QueueSnapshot) : SameWiring app (app.adoptInto link snapshot) := by
  cases link with
  | localOwner => exact ⟨rfl, rfl, rfl, rfl, rfl, rfl, rfl, rfl, rfl⟩
  | peer => exact ⟨rfl, rfl, rfl, by simp [adoptInto], rfl, rfl, rfl, rfl, rfl⟩

theorem setStatus_sameWiring (status : PlayerStatus) : SameWiring app (app.setStatus status) :=
  ⟨rfl, rfl, rfl, rfl, rfl, rfl, rfl, rfl, rfl⟩

theorem handleUnifiedQueueUpdated_sameWiring (snapshot : QueueSnapshot) :
    SameWiring app (app.handleUnifiedQueueUpdated snapshot) :=
  (setStatus_sameWiring _).trans (adoptInto_sameWiring _ _)

theorem drainPlayerEvent_sameWiring : SameWiring app app.drainPlayerEvent := by
  unfold drainPlayerEvent
  split
  · exact SameWiring.refl
  · rename_i snapshot events _
    have taken : SameWiring app { app with player := { app.player with events } } :=
      ⟨rfl, rfl, rfl, rfl, rfl, rfl, rfl, rfl, rfl⟩
    exact taken.trans (handleUnifiedQueueUpdated_sameWiring _)

theorem drainHomeEvent_sameWiring : SameWiring app app.drainHomeEvent := by
  unfold drainHomeEvent
  split
  · exact SameWiring.refl
  · rename_i home suspended
    split
    · exact SameWiring.refl
    · exact ⟨rfl, rfl, by simp [adoptHomeSnapshot, adoptInto, suspended, OwnerLink.ends], rfl, rfl, rfl, rfl, rfl, rfl⟩

theorem drainLink_sameWiring (link : QueueLink) : SameWiring app (app.drainLink link) := by
  unfold drainLink
  cases link with
  | localOwner =>
    dsimp only
    split
    · exact drainHomeEvent_sameWiring
    · exact drainPlayerEvent_sameWiring
  | peer => exact drainPlayerEvent_sameWiring

theorem drainTimes_sameWiring (link : QueueLink) (times : Nat) : SameWiring app (drainTimes link times app) := by
  induction times generalizing app with
  | zero => exact SameWiring.refl
  | succ times ih => exact (drainLink_sameWiring link).trans ih

theorem mapQueueLink_sameWiring (link : QueueLink) {change : OwnerLink → OwnerLink}
    (ends : ∀ owner, (change owner).ends = owner.ends) :
    SameWiring app (app.mapQueueLink link change) := by
  unfold mapQueueLink
  split
  · rename_i home suspended
    exact ⟨rfl, rfl, by simp [suspended, ends], rfl, rfl, rfl, rfl, rfl, rfl⟩
  · exact ⟨rfl, ends _, rfl, rfl, rfl, rfl, rfl, rfl, rfl⟩

theorem pumpBefore_sameWiring (app : App) (link : QueueLink) (before : List LinkMessage) :
    SameWiring app (app.pumpBefore link before) :=
  (mapQueueLink_sameWiring link fun owner => by simp [OwnerLink.ends]).trans (drainTimes_sameWiring link _)

theorem adoptAnswer_sameWiring (link : QueueLink) (snapshot : QueueSnapshot)
    (late : List LinkMessage) : SameWiring app (app.adoptAnswer link snapshot late) := by
  have read (owner : OwnerLink) : (({ owner with copy := some app.copies.length }.receive
        (.queueState snapshot)).receiveAll late).ends = owner.ends := by simp [OwnerLink.ends]
  have own (app : App) (snapshot : QueueSnapshot) : SameWiring app (app.adoptOwnAnswer link snapshot) := by
    unfold adoptOwnAnswer
    split
    · exact (setStatus_sameWiring _).trans (adoptInto_sameWiring _ _)
    · exact adoptInto_sameWiring _ _
  exact (mapQueueLink_sameWiring link read).trans ((drainLink_sameWiring link).trans (own _ _))

/-! ### What draining leaves on a link -/

theorem mapQueueLink_queueLink (link : QueueLink) (change : OwnerLink → OwnerLink) :
    (app.mapQueueLink link change).queueLink link = change (app.queueLink link) := by
  cases link <;> cases suspended : app.suspendedLocal <;> simp [mapQueueLink, queueLink, suspended]

theorem drainLink_queueLink (app : App) (link : QueueLink) : (app.queueLink link).events = [] ∧ app.drainLink link = app ∨
      ∃ snapshot events, (app.queueLink link).events = snapshot :: events ∧
        ((app.drainLink link).queueLink link = { app.queueLink link with events } ∨
          (app.drainLink link).queueLink link = { app.queueLink link with events, status := snapshot.status }) := by
  have player : app.player.events = [] ∧ app.drainPlayerEvent = app ∨ ∃ snapshot events, app.player.events = snapshot :: events ∧
        app.drainPlayerEvent.player = { app.player with events, status := snapshot.status } ∧
        app.drainPlayerEvent.suspendedLocal = app.suspendedLocal := by
    unfold drainPlayerEvent
    cases queued : app.player.events with
    | nil => exact .inl ⟨rfl, rfl⟩
    | cons snapshot events =>
      refine .inr ⟨snapshot, events, rfl, ?_⟩
      simp only [handleUnifiedQueueUpdated, adoptInto, setStatus]
      split <;> exact ⟨rfl, rfl⟩
  cases link with
  | peer =>
    rcases player with ⟨none, same⟩ | ⟨snapshot, events, queued, after, -⟩
    · exact .inl ⟨none, same⟩
    · exact .inr ⟨snapshot, events, queued, .inr after⟩
  | localOwner =>
    cases suspended : app.suspendedLocal with
    | none =>
      have atPlayer : app.queueLink .localOwner = app.player := by simp [queueLink, suspended]
      simp only [drainLink, suspended, Option.isSome_none, Bool.false_eq_true, if_false, atPlayer]
      rcases player with ⟨none, same⟩ | ⟨snapshot, events, queued, after, stays⟩
      · exact .inl ⟨none, same⟩
      · refine .inr ⟨snapshot, events, queued, .inr ?_⟩
        simp only [queueLink, stays, suspended, Option.getD_none, after]
    | some home =>
      have atHome : app.queueLink .localOwner = home := by simp [queueLink, suspended]
      simp only [drainLink, suspended, Option.isSome_some, if_true, atHome]
      unfold drainHomeEvent
      simp only [suspended]
      cases queued : home.events with
      | nil => exact .inl ⟨rfl, rfl⟩
      | cons snapshot events =>
        exact .inr ⟨snapshot, events, rfl, .inl (by simp [adoptHomeSnapshot, adoptInto, queueLink])⟩

theorem drainTimes_events (link : QueueLink) {times : Nat} (enough : (app.queueLink link).events.length ≤ times) :
    ((drainTimes link times app).queueLink link).events = [] := by
  induction times generalizing app with
  | zero => exact List.length_eq_zero_iff.mp (Nat.le_zero.mp enough)
  | succ times ih =>
    refine ih ?_
    rcases drainLink_queueLink app link with ⟨none, same⟩ | ⟨_, events, queued, after⟩
    · rw [same, none]; simp
    · rw [queued, List.length_cons] at enough
      rcases after with after | after <;> rw [after] <;> dsimp only <;> omega

theorem pumpBefore_events (link : QueueLink) (before : List LinkMessage) :
    ((app.pumpBefore link before).queueLink link).events = [] :=
  drainTimes_events link le_rfl

end App

theorem OwnerLink.Shows.next {number : Nat} {link : OwnerLink} {snapshot : QueueSnapshot}
    {events : List QueueSnapshot} (shows : link.Shows number)
    (queued : link.events = snapshot :: events) :
    OwnerLink.Shows number { link with events } ∧ OwnerLink.Shows number { link with events, status := snapshot.status } := by
  have rest (other : QueueSnapshot) (held : other ∈ events) : other.copy = some number ∧ other.status.Honest number :=
    shows.events other (queued ▸ List.mem_cons_of_mem _ held)
  have first := shows.events snapshot (queued ▸ List.mem_cons_self)
  exact ⟨⟨shows.copy, shows.status, rest⟩, ⟨shows.copy, first.2, rest⟩⟩

namespace App

variable {app : App}

theorem drainLink_shows {link : QueueLink} {number : Nat} (shows : (app.queueLink link).Shows number) :
    ((app.drainLink link).queueLink link).Shows number := by
  rcases drainLink_queueLink app link with ⟨-, same⟩ | ⟨_, _, queued, after⟩
  · rw [same]; exact shows
  · rcases after with after | after <;> rw [after]
    · exact (shows.next queued).1
    · exact (shows.next queued).2

end App

end Mbv.Client
