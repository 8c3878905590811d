import Mbv.Client.TransferHistory

namespace Mbv.Client.App

open Mbv.Queue List

variable {endpoints : Endpoints} {app next : App} {reconnect : Option Opened}

/-! ### Connections come and go -/

theorem handOff_lost (gone : app.remoteView = none) : app.transferTargetLinkLost .handOff = true := by
  simp [transferTargetLinkLost, hasRemoteQueue, gone]

theorem StagedSound.own_link {staged : StagedQueueTransfer} (own : staged.link.isSome = true)
    (sound : app.StagedSound endpoints staged) : next.StagedSound endpoints staged := by
  unfold StagedSound at sound ⊢
  cases link : staged.link with
  | none => rw [link] at own; cases own
  | some _ => rw [link] at sound; exact sound

/-- A transfer staged without a link of its own rests on a peer connection, not on a route. -/
theorem TransferInv.staged_link (inv : app.TransferInv endpoints)
    (elsewhere : app.activeRoute ≠ none ∨ app.directRemoteConnected = false) :
    ∀ staged ∈ app.stagedQueueTransfer, staged.link.isSome = true := by
  intro staged held
  have sound := (inv.staged staged held).2
  unfold StagedSound at sound
  cases link : staged.link with
  | some _ => rfl
  | none =>
    rw [link] at sound
    rcases elsewhere with routed | unconnected
    · exact absurd (inv.wired.session staged.target sound.2).2 routed
    · rw [sound.1] at unconnected; cases unconnected

theorem TransferInv.all_take (inv : app.TransferInv endpoints) (settled : app.Settled)
    (elsewhere : app.activeRoute ≠ none ∨ app.directRemoteConnected = false) :
    ∀ transfer ∈ app.pendingQueueTransfer, transfer.direction = .take := by
  intro transfer current
  cases direction : transfer.direction with
  | take => rfl
  | handOff =>
    have attached := (inv.shown transfer current (settled transfer current)).attached direction
    rcases elsewhere with routed | unconnected
    · exact absurd (inv.wired.session transfer.target attached.2).2 routed
    · rw [attached.1] at unconnected; cases unconnected

theorem TransferInv.restore (inv : app.TransferInv endpoints) (settled : app.Settled)
    (own : ∀ staged ∈ app.stagedQueueTransfer, staged.link.isSome = true) :
    (app.restoreLocalMode endpoints reconnect).TransferInv endpoints := by
  obtain ⟨wired, gone, -, -, -, ledger, staged⟩ := restoreLocalMode_spec reconnect inv.wired
  refine inv.move settled wired ledger (fun staging held => ?_) (fun _ _ _ _ alive => ?_)
    fun present => .inl (restoreLocalMode_keepsHome _ inv.wired present)
  · rw [staged] at held
    exact ⟨held, (inv.staged staging held).2.own_link (own staging held)⟩
  · rw [handOff_lost gone] at alive; cases alive

theorem TransferInv.attach {remote : OwnerLink} (connected : Bool) (session : Option SessionId)
    (route : Option String) (inv : app.TransferInv endpoints) (settled : app.Settled)
    (takes : ∀ transfer ∈ app.pendingQueueTransfer, transfer.direction = .take)
    (own : ∀ staged ∈ app.stagedQueueTransfer, staged.link.isSome = true)
    (leads : ∀ target ∈ session, remote.owner = endpoints.session target ∧ route = none) :
    ({ app.attachRemoteOwner remote with
      directRemoteConnected := connected, directRemoteSessionId := session
      activeRoute := route } : App).TransferInv endpoints := by
  obtain ⟨-, -, -, -, ledger, staged, -⟩ := attachRemoteOwner_spec remote inv.wired
  refine inv.move settled (attached_wired _ _ _ inv.wired leads) ledger (fun staging held => ?_)
    (fun transfer current direction _ _ => ?_) fun present => .inl ?_
  · rw [show staging ∈ _ ↔ staging ∈ app.stagedQueueTransfer from staged ▸ Iff.rfl] at held
    exact ⟨held, (inv.staged staging held).2.own_link (own staging held)⟩
  · rw [takes transfer current] at direction; cases direction
  · have keeps := attachRemoteOwner_keepsHome remote inv.wired present
    exact ⟨keeps.link, keeps.view, keeps.present⟩

theorem settled_of_idle (idle : app.pendingQueueTransfer = none) : app.Settled :=
  fun transfer current => absurd current (by simp [idle])

theorem disconnected_idle (reconnect : Option Opened) (wired : app.Wired endpoints)
    (connected : app.directRemoteConnected = true) :
    (app.disconnectRemote endpoints reconnect).pendingQueueTransfer = none ∧
      (app.disconnectRemote endpoints reconnect).stagedQueueTransfer = none := by
  have restored := restoreLocalMode_spec reconnect wired.cancel
  simp only [disconnectRemote, connected, if_true]
  exact ⟨(ledger_eq restored.2.2.2.2.2.1).2.2.2, restored.2.2.2.2.2.2⟩

theorem TransferInv.disconnect (inv : app.TransferInv endpoints) :
    (app.disconnectRemote endpoints reconnect).TransferInv endpoints := by
  rcases disconnectRemote_cases endpoints app reconnect with
    ⟨-, same⟩ | ⟨-, restored⟩
  · rw [same]; exact inv
  · rw [restored]
    exact inv.cancel.restore (settled_of_idle rfl) fun _ held => absurd held (by
      simp [cancelPendingQueueTransfer, dropStagedQueueTransfer])

theorem TransferInv.sever (reconnect : Option Opened) (inv : app.TransferInv endpoints) (settled : app.Settled) :
    let next := app.severConnections endpoints reconnect
    next.TransferInv endpoints ∧ next.Settled ∧ (∀ transfer ∈ next.pendingQueueTransfer, transfer.direction = .take) ∧
      (∀ staged ∈ next.stagedQueueTransfer, staged.link.isSome = true) ∧
      (app.pendingQueueTransfer = none → next.pendingQueueTransfer = none) ∧
      (app.stagedQueueTransfer = none → next.stagedQueueTransfer = none) ∧
      next.copies = app.copies := by
  dsimp only
  rcases severConnections_cases reconnect inv.wired with
    ⟨routed, restored⟩ | ⟨-, disconnected⟩
  · have own := inv.staged_link (.inl routed)
    have takes := inv.all_take settled (.inl routed)
    obtain ⟨-, -, -, -, -, ledger, staged⟩ := restoreLocalMode_spec reconnect inv.wired
    obtain ⟨copies, -, -, pending⟩ := ledger_eq ledger
    rw [restored, pending, staged]
    refine ⟨inv.restore settled own, fun transfer current => ?_, takes, own, id, id, copies⟩
    rw [pending] at current
    have present := settled transfer current
    rw [takes transfer current] at present ⊢
    exact (restoreLocalMode_keepsHome _ inv.wired present).present
  · rw [disconnected]
    cases connected : app.directRemoteConnected with
    | true =>
      obtain ⟨idle, unstaged⟩ := disconnected_idle reconnect inv.wired connected
      have restored := restoreLocalMode_spec reconnect inv.wired.cancel
      refine ⟨inv.disconnect, settled_of_idle idle, by simp [idle], by simp [unstaged], fun _ => idle, fun _ => unstaged, ?_⟩
      simp only [disconnectRemote, connected, if_true]
      exact (ledger_eq restored.2.2.2.2.2.1).1
    | false =>
      have same : app.disconnectRemote endpoints reconnect = app := by
        simp [disconnectRemote, connected]
      rw [same]
      exact ⟨inv, settled, inv.all_take settled (.inr connected), inv.staged_link (.inr connected), id, id, rfl⟩

variable {target : SessionId}

theorem TransferInv.switchToDirectRemote {remote : OwnerLink} (inv : app.TransferInv endpoints) (settled : app.Settled)
    (takes : ∀ transfer ∈ app.pendingQueueTransfer, transfer.direction = .take)
    (own : ∀ staged ∈ app.stagedQueueTransfer, staged.link.isSome = true)
    (unrouted : app.activeRoute = none) (leads : remote.owner = endpoints.session target) :
    (app.switchToDirectRemote target remote).TransferInv endpoints := by
  have attached := inv.attach true (some target) none settled takes own fun other held => ⟨Option.mem_some.mp held ▸ leads, rfl⟩
  have route := (attachRemoteOwner_spec remote inv.wired).2.2.2.2.2.2.trans unrouted
  simp only [App.switchToDirectRemote, route]
  exact attached

variable {opened : Option Opened}

theorem TransferInv.connect (inv : app.TransferInv endpoints) (settled : app.Settled) :
    (app.connectToSession endpoints target opened reconnect).TransferInv endpoints := by
  obtain ⟨severed, settled, takes, own, -⟩ := inv.sever reconnect settled
  unfold connectToSession
  cases opened with
  | none => exact severed
  | some opened =>
    exact severed.switchToDirectRemote settled takes own (severConnections_spec inv.wired).2 rfl

theorem TransferInv.playRouted {resolved : Option String} (inv : app.TransferInv endpoints) (settled : app.Settled) :
    (app.applyRouteForPlayback endpoints resolved opened reconnect).TransferInv endpoints := by
  unfold applyRouteForPlayback
  split
  · exact inv
  · rename_i routed
    have routed : app.activeRoute ≠ none := by simpa using routed
    have own := inv.staged_link (.inl routed)
    cases resolved with
    | none => exact inv.restore settled own
    | some name =>
      dsimp only
      split
      · exact inv
      · cases opened with
        | none => exact inv.restore settled own
        | some opened =>
          exact inv.attach _ _ _ settled (inv.all_take settled (.inl routed)) own fun _ held => absurd held (by simp)

/-! ### Lost links -/

theorem loseActiveLink_wired (wired : app.Wired endpoints) : app.loseActiveLink.Wired endpoints :=
  ⟨wired.localOwner, wired.suspended, fun _ => .inr rfl, wired.session⟩

theorem suspended_of_present (wired : app.Wired endpoints) (elsewhere : app.isLocalDaemon = false)
    (present : app.transferTargetLinkLost .take = false) :
    ∃ home, app.suspendedLocal = some home ∧ home.disconnected = false := by
  rcases wired.home_cases present with ⟨home, held, up, -⟩ | ⟨-, -, -, here⟩
  · exact ⟨home, held, up⟩
  · rw [elsewhere] at here; cases here

theorem TransferInv.loseLocal (inv : app.TransferInv endpoints) (settled : app.Settled) (isLocal : app.isLocalDaemon = true) :
    ({ app.loseActiveLink with suspendedLocal := none } : App).TransferInv endpoints := by
  obtain ⟨leads, gone, -⟩ := inv.wired.localOwner isLocal
  refine inv.move settled ⟨fun _ => ⟨leads, gone, rfl⟩, fun _ held => absurd held (by simp),
    fun _ => .inr rfl, inv.wired.session⟩ rfl
    (fun _ held => absurd held (by simp [loseActiveLink, dropStagedQueueTransfer]))
    (fun _ _ _ _ alive => ?_) fun _ => .inr ?_
  · rw [handOff_lost (by exact gone)] at alive; cases alive
  · simp [transferTargetLinkLost, loseActiveLink, dropStagedQueueTransfer, OwnerLink.drop]

theorem TransferInv.losePeer (inv : app.TransferInv endpoints) (settled : app.Settled) (elsewhere : app.isLocalDaemon = false) :
    (app.loseActiveLink.restoreLocalMode endpoints reconnect).TransferInv endpoints := by
  have down := loseActiveLink_wired inv.wired
  obtain ⟨restored, gone, -, -, -, ledger, staged⟩ := restoreLocalMode_spec reconnect down
  refine inv.move settled restored ledger (fun _ held => ?_) (fun _ _ _ _ alive => ?_) fun present => .inl ?_
  · rw [staged] at held; cases held
  · rw [handOff_lost gone] at alive; cases alive
  · obtain ⟨home, held, up⟩ := suspended_of_present inv.wired elsewhere present
    have still : app.loseActiveLink.transferTargetLinkLost .take = false := by
      simp [transferTargetLinkLost, loseActiveLink, dropStagedQueueTransfer, held, up]
    have kept := restoreLocalMode_keepsHome reconnect down still
    refine ⟨kept.link.trans ?_, kept.view, kept.present⟩
    simp [queueLink, loseActiveLink, dropStagedQueueTransfer, held]

theorem TransferInv.reattach {opened : Opened} (inv : app.TransferInv endpoints)
    (settled : app.Settled) (elsewhere : app.isLocalDaemon = false)
    (honest : ∀ transfer ∈ app.pendingQueueTransfer, transfer.direction = .handOff →
      opened.snapshot.status.Honest transfer.number) :
    (app.loseActiveLink.attachReattachedDaemon opened).TransferInv endpoints := by
  have wired := inv.wired
  refine inv.move settled ?_ rfl (fun _ held => absurd held (by
    simp [attachReattachedDaemon, loseActiveLink, dropStagedQueueTransfer]))
    (fun transfer current direction shown _ => ?_) fun present => .inl ?_
  · refine ⟨fun here => ?_, fun home held => ⟨(wired.suspended home held).1, rfl⟩,
      fun gone => absurd gone (by simp [attachReattachedDaemon]), fun target held => ?_⟩
    · exact absurd (elsewhere.symm.trans here) (by simp)
    · exact wired.session target held
  · have link := shown.link
    rw [direction] at link
    have copy : app.player.copy = some transfer.number := link.copy
    refine ⟨?_, ?_, fun _ => ⟨rfl, (shown.attached direction).2⟩⟩
    · simp only [direction, queueLink, QueueTransferDirection.targetLink, attachReattachedDaemon,
        loseActiveLink, dropStagedQueueTransfer, OwnerLink.drop, copy]
      exact OwnerLink.Shows.connect (honest transfer current direction)
    · simp only [direction, QueueTransferDirection.targetLink, queueForLink,
        attachReattachedDaemon, loseActiveLink, dropStagedQueueTransfer, OwnerLink.drop, copy]
      rfl
  · obtain ⟨home, held, up⟩ := suspended_of_present wired elsewhere present
    refine ⟨?_, rfl, ?_⟩
    · simp [queueLink, attachReattachedDaemon, loseActiveLink, dropStagedQueueTransfer, held]
    · simp [transferTargetLinkLost, attachReattachedDaemon, loseActiveLink, dropStagedQueueTransfer, held, up]

theorem TransferInv.remoteDisconnected {reattach : Option Opened} (inv : app.TransferInv endpoints) (settled : app.Settled)
    (honest : ∀ transfer ∈ app.pendingQueueTransfer, transfer.direction = .handOff →
      ∀ opened ∈ reattach, opened.snapshot.status.Honest transfer.number) :
    (app.handleRemoteDisconnected endpoints reattach reconnect).TransferInv endpoints := by
  unfold handleRemoteDisconnected
  dsimp only
  split
  · rename_i here
    exact inv.loseLocal settled here
  · rename_i elsewhere
    have elsewhere : app.isLocalDaemon = false := Bool.eq_false_iff.mpr elsewhere
    split
    · rename_i opened found
      have answered := (Option.filter_eq_some_iff.mp found).1
      exact inv.reattach settled elsewhere fun transfer current direction =>
        honest transfer current direction opened answered
    · exact inv.losePeer settled elsewhere

theorem TransferInv.homeDisconnected (inv : app.TransferInv endpoints) (settled : app.Settled) :
    app.handleHomeDisconnected.TransferInv endpoints := by
  unfold handleHomeDisconnected
  split
  · rename_i suspended
    obtain ⟨home, held⟩ := Option.isSome_iff_exists.mp suspended
    have wired := inv.wired
    have shownPeer := (wired.suspended home held).2
    refine inv.move settled ?_ rfl
      (fun _ held => absurd held (by simp [dropStagedQueueTransfer])) (fun _ _ direction shown _ => ?_)
      fun _ => .inr ?_
    · refine ⟨fun here => ?_, fun _ held => absurd held (by simp [dropStagedQueueTransfer]), wired.unattached, wired.session⟩
      exact ⟨(wired.localOwner here).1, (wired.localOwner here).2.1, rfl⟩
    · have link := shown.link
      have view := shown.view
      rw [direction] at link view
      refine ⟨?_, ?_, shown.attached⟩ <;> rw [direction]
      · exact link
      · exact view
    · simp only [transferTargetLinkLost, dropStagedQueueTransfer, hasRemoteQueue]
      rw [shownPeer]; rfl
  · exact inv

theorem TransferInv.shutdownAnnounced {fromHomeLink : Bool} (inv : app.TransferInv endpoints) (settled : app.Settled) :
    (app.handleDaemonShutdownAnnounced endpoints fromHomeLink reconnect).TransferInv
      endpoints := by
  unfold handleDaemonShutdownAnnounced
  split
  · exact inv.homeDisconnected settled
  · dsimp only
    split
    · rename_i here
      exact inv.loseLocal settled here
    · rename_i elsewhere
      exact inv.losePeer settled (Bool.eq_false_iff.mpr elsewhere)

/-! ### What the links deliver -/

theorem mapRole_queueLink (role : LinkRole) (change : OwnerLink → OwnerLink) (link : QueueLink) :
    (app.mapRole role change).queueLink link =
      if role = app.linkRole link then change (app.queueLink link) else app.queueLink link := by
  cases role <;> cases link <;> cases suspended : app.suspendedLocal <;> simp [mapRole, queueLink, linkRole, suspended]

variable {direction : QueueTransferDirection} {role : LinkRole}

theorem mapRole_lost {change : OwnerLink → OwnerLink}
    (down : ∀ link : OwnerLink, link.disconnected = true → (change link).disconnected = true)
    (alive : (app.mapRole role change).transferTargetLinkLost direction = false) :
    app.transferTargetLinkLost direction = false := by
  have up (link : OwnerLink) (alive : (change link).disconnected = false) : link.disconnected = false := by
    cases was : link.disconnected with
    | false => rfl
    | true => rw [down link was] at alive; cases alive
  cases direction with
  | handOff =>
    cases role <;> simp only [transferTargetLinkLost, mapRole, hasRemoteQueue, Bool.or_eq_false_iff] at alive ⊢
    · exact ⟨alive.1, up _ alive.2⟩
    all_goals exact alive
  | take =>
    cases suspended : app.suspendedLocal <;> cases role <;>
      simp only [transferTargetLinkLost, mapRole, hasRemoteQueue, suspended, Option.map_some,
        Option.map_none, Bool.or_eq_false_iff] at alive ⊢
    case none.active => exact ⟨alive.1, up _ alive.2⟩
    case some.home => exact up _ alive
    all_goals exact alive

/-- A change of one link that leads where it led and, once down, stays down, keeps the invariant
    where it keeps what a pending transfer's target shows. -/
theorem TransferInv.mapLink {change : OwnerLink → OwnerLink} (inv : app.TransferInv endpoints)
    (owner : ∀ link : OwnerLink, (change link).owner = link.owner)
    (down : ∀ link : OwnerLink, link.disconnected = true → (change link).disconnected = true)
    (shows : ∀ transfer ∈ app.pendingQueueTransfer, role = app.linkRole transfer.direction.targetLink →
      (app.queueLink transfer.direction.targetLink).Shows transfer.number →
      (change (app.queueLink transfer.direction.targetLink)).Shows transfer.number) :
    (app.mapRole role change).TransferInv endpoints := by
  have wired := inv.wired
  have recorded := inv.recorded
  have shown (transfer : PendingQueueTransfer) (current : transfer ∈ app.pendingQueueTransfer)
      (alive : (app.mapRole role change).transferTargetLinkLost transfer.direction = false) :
      (app.mapRole role change).Shown transfer := by
    have before := inv.shown transfer current (mapRole_lost down alive)
    refine ⟨?_, ?_, fun handOff => ?_⟩
    · rw [mapRole_queueLink]
      split
      · rename_i target
        exact shows transfer current target before.link
      · exact before.link
    · have view := before.view
      cases role <;> exact view
    · have attached := before.attached handOff
      cases role <;> exact attached
  cases role with
  | active =>
    refine ⟨⟨fun here => ?_, wired.suspended, fun gone => ?_, fun target held => ?_⟩, recorded.of_ledger rfl, inv.staged, shown⟩
    · exact ⟨(owner _).trans (wired.localOwner here).1, (wired.localOwner here).2⟩
    · exact (wired.unattached gone).imp id (down _)
    · exact ⟨(owner _).trans (wired.session target held).1, (wired.session target held).2⟩
  | home =>
    refine ⟨⟨fun here => ?_, fun home held => ?_, wired.unattached, wired.session⟩, recorded.of_ledger rfl, inv.staged, shown⟩
    · obtain ⟨leads, gone, alone⟩ := wired.localOwner here
      exact ⟨leads, gone, by simp [mapRole, alone]⟩
    · obtain ⟨before, was, rfl⟩ := Option.map_eq_some_iff.mp held
      exact ⟨(owner _).trans (wired.suspended before was).1, (wired.suspended before was).2⟩
  | staged =>
    refine ⟨⟨wired.localOwner, wired.suspended, wired.unattached, wired.session⟩,
      recorded.of_ledger rfl, fun staging held => ?_, shown⟩
    obtain ⟨before, was, rfl⟩ := Option.map_eq_some_iff.mp held
    obtain ⟨idle, sound⟩ := inv.staged before was
    refine ⟨idle, ?_⟩
    unfold StagedSound at sound ⊢
    cases link : before.link with
    | none => rw [link] at sound; simpa [mapRole] using sound
    | some own => rw [link] at sound; simpa [owner] using sound
  | source =>
    have same : (app.mapRole .source change).pendingQueueTransfer.map (·.number) = app.pendingQueueTransfer.map (·.number) := by
      simp only [mapRole, Option.map_map]; rfl
    refine ⟨⟨wired.localOwner, wired.suspended, wired.unattached, wired.session⟩,
      ⟨⟨recorded.sound.numbered, fun copy held => ?_, fun transfer current => ?_,
        recorded.sound.endedOnce, recorded.sound.stops⟩, recorded.numbers, recorded.endedBelow,
        fun transfer current => ?_⟩, fun staging held => ?_, fun transfer current alive => ?_⟩
    · rw [same]; exact recorded.sound.armed copy held
    · obtain ⟨before, was, rfl⟩ := Option.map_eq_some_iff.mp current
      exact recorded.sound.pending before was
    · obtain ⟨before, was, rfl⟩ := Option.map_eq_some_iff.mp current
      refine ⟨(recorded.sent before was).copy, fun link held => ?_⟩
      obtain ⟨own, there, rfl⟩ := Option.map_eq_some_iff.mp held
      exact (owner _).trans ((recorded.sent before was).sourceLink own there)
    · refine ⟨?_, (inv.staged staging held).2⟩
      simp only [mapRole, (inv.staged staging held).1, Option.map_none]
    · obtain ⟨before, was, rfl⟩ := Option.map_eq_some_iff.mp current
      have kept := shown before was alive
      exact ⟨kept.link, kept.view, kept.attached⟩

theorem TransferInv.received {message : LinkMessage} (inv : app.TransferInv endpoints)
    (honest : ∀ transfer ∈ app.pendingQueueTransfer, role = app.linkRole transfer.direction.targetLink →
        (message.update (app.transferTargetStatus transfer.direction)).Honest transfer.number) :
    (app.mapRole role (·.receive message)).TransferInv endpoints := by
  refine inv.mapLink (fun link => link.receive_owner message) (fun link gone => ?_)
    fun transfer current target shows => shows.receive ?_
  · rw [OwnerLink.receive_disconnected]; exact gone
  · have read := honest transfer current target
    have status : app.transferTargetStatus transfer.direction = (app.queueLink transfer.direction.targetLink).status := by
      cases transfer.direction <;> cases suspended : app.suspendedLocal <;>
        simp [transferTargetStatus, queueLink, QueueTransferDirection.targetLink, suspended]
    exact status ▸ read

theorem TransferInv.dropped (inv : app.TransferInv endpoints) : (app.mapRole role (·.drop)).TransferInv endpoints :=
  inv.mapLink (fun _ => rfl) (fun _ _ => rfl) fun _ _ _ shows => shows.drop

/-! ### Adopting what the links delivered -/

theorem SameWiring.staged_sound (same : SameWiring app next) {staging : StagedQueueTransfer}
    (sound : app.StagedSound endpoints staging) : next.StagedSound endpoints staging := by
  unfold StagedSound at sound ⊢
  cases link : staging.link with
  | some _ => rw [link] at sound; exact sound
  | none =>
    rw [link] at sound
    exact ⟨same.connected.trans sound.1, same.session.trans sound.2⟩

theorem TransferInv.sameWiring (inv : app.TransferInv endpoints) (same : SameWiring app next)
    (shown : ∀ transfer ∈ app.pendingQueueTransfer, app.transferTargetLinkLost transfer.direction = false → app.Shown transfer →
      (next.queueLink transfer.direction.targetLink).Shows transfer.number ∧
        (next.queueForLink transfer.direction.targetLink).copy = some transfer.number) :
    next.TransferInv endpoints := by
  have pending := (ledger_eq same.ledger).2.2.2
  refine ⟨same.wired inv.wired, inv.recorded.of_ledger same.ledger, fun staging held => ?_, fun transfer current alive => ?_⟩
  · rw [same.staged] at held
    exact ⟨pending.trans (inv.staged staging held).1, same.staged_sound (inv.staged staging held).2⟩
  · rw [pending] at current
    rw [same.lost] at alive
    have before := inv.shown transfer current alive
    obtain ⟨link, view⟩ := shown transfer current alive before
    refine ⟨link, view, fun handOff => ?_⟩
    rw [same.connected, same.session]
    exact before.attached handOff

theorem drainPlayerEvent_view {link : QueueLink} {number : Nat} (shown : link = .peer → app.remoteView.isSome = true)
    (events : link = app.playingQueueLink → ∀ snapshot ∈ app.player.events, snapshot.copy = some number)
    (view : (app.queueForLink link).copy = some number) :
    (app.drainPlayerEvent.queueForLink link).copy = some number := by
  unfold drainPlayerEvent
  cases queued : app.player.events with
  | nil => exact view
  | cons snapshot rest =>
    rw [queued] at events
    simp only [handleUnifiedQueueUpdated, setStatus, adoptInto, playingQueueLink, hasRemoteQueue] at events ⊢
    cases link with
    | peer =>
      obtain ⟨peer, held⟩ := Option.isSome_iff_exists.mp (shown rfl)
      simp only [held, Option.isSome_some, if_true, queueForLink, Option.map_some, Option.getD_some] at events ⊢
      exact events trivial snapshot mem_cons_self
    | localOwner =>
      cases held : app.remoteView with
      | some peer => simpa [held, queueForLink] using view
      | none =>
        simp only [held, Option.isSome_none, Bool.false_eq_true, if_false, queueForLink] at events ⊢
        exact events trivial snapshot mem_cons_self

theorem TransferInv.drainedActive (inv : app.TransferInv endpoints) : app.drainPlayerEvent.TransferInv endpoints := by
  refine inv.sameWiring drainPlayerEvent_sameWiring fun transfer _ alive shown => ?_
  have link := shown.link
  have view := shown.view
  cases direction : transfer.direction with
  | handOff =>
    rw [direction] at alive link view
    have peer : app.remoteView.isSome = true := by
      simp only [transferTargetLinkLost, hasRemoteQueue, Bool.or_eq_false_iff] at alive
      simpa using alive.1
    refine ⟨drainLink_shows link, drainPlayerEvent_view (fun _ => peer) (fun _ => ?_) view⟩
    exact fun snapshot held => (link.events snapshot held).1
  | take =>
    rw [direction] at alive link view
    rcases inv.wired.home_cases alive with ⟨home, suspended, -, -⟩ | ⟨suspended, gone, -, -⟩
    · have peer := (inv.wired.suspended home suspended).2
      have still : app.drainPlayerEvent.queueLink .localOwner = app.queueLink .localOwner := by
        unfold drainPlayerEvent
        split
        · rfl
        · simp only [handleUnifiedQueueUpdated, adoptInto, setStatus, queueLink]
          split <;> simp [suspended]
      refine ⟨?_, drainPlayerEvent_view (fun other => by cases other) (fun playing => ?_) view⟩
      · rw [QueueTransferDirection.targetLink, still]; exact link
      · simp [playingQueueLink, hasRemoteQueue, peer, QueueTransferDirection.targetLink] at playing
    · have drained : app.drainLink .localOwner = app.drainPlayerEvent := by
        simp [drainLink, suspended]
      have atPlayer : app.queueLink .localOwner = app.player := by simp [queueLink, suspended]
      refine ⟨?_, drainPlayerEvent_view (fun other => by cases other) (fun _ => ?_) view⟩
      · have shows := drainLink_shows link
        rw [QueueTransferDirection.targetLink, drained] at shows
        exact shows
      · rw [QueueTransferDirection.targetLink, atPlayer] at link
        exact fun snapshot held => (link.events snapshot held).1

theorem TransferInv.drainedHome (inv : app.TransferInv endpoints) : app.drainHomeEvent.TransferInv endpoints := by
  refine inv.sameWiring drainHomeEvent_sameWiring fun transfer _ _ shown => ?_
  have link := shown.link
  have view := shown.view
  cases suspended : app.suspendedLocal with
  | none => simpa [drainHomeEvent, suspended] using ⟨link, view⟩
  | some home =>
    cases direction : transfer.direction with
    | handOff =>
      rw [direction] at link view
      unfold drainHomeEvent
      rw [suspended]
      dsimp only
      split
      · exact ⟨link, view⟩
      · exact ⟨link, view⟩
    | take =>
      rw [direction] at link view
      have drained : app.drainLink .localOwner = app.drainHomeEvent := by
        simp [drainLink, suspended]
      have shows := drainLink_shows link
      rw [QueueTransferDirection.targetLink, drained] at shows
      refine ⟨shows, ?_⟩
      rw [QueueTransferDirection.targetLink] at link
      simp only [queueLink, suspended, Option.getD_some] at link
      unfold drainHomeEvent
      rw [suspended]
      dsimp only
      cases queued : home.events with
      | nil => exact view
      | cons snapshot events =>
        exact (link.events snapshot (by rw [queued]; exact mem_cons_self)).1

/-! ### Sending a copy -/

theorem SameWiring.queueLink_ends (same : SameWiring app next) (link : QueueLink) :
    (next.queueLink link).ends = (app.queueLink link).ends := by
  have suspended := same.suspended
  cases link with
  | peer => exact same.player
  | localOwner =>
    cases before : app.suspendedLocal with
    | none =>
      rw [before] at suspended
      have after : next.suspendedLocal = none := by simpa using suspended
      simpa [queueLink, before, after] using same.player
    | some home =>
      rw [before] at suspended
      obtain ⟨now, held, ends⟩ := Option.map_eq_some_iff.mp suspended
      simpa [queueLink, before, held] using ends

theorem setStatus_queueLink (app : App) (link : QueueLink) (status : PlayerStatus) :
    (app.setStatus status).queueLink link = app.queueLink link ∨
      (app.setStatus status).queueLink link = { app.queueLink link with status } := by
  cases link <;> cases suspended : app.suspendedLocal <;> simp [setStatus, queueLink, suspended]

theorem adoptInto_queueLink (link into : QueueLink) (snapshot : QueueSnapshot) :
    (app.adoptInto into snapshot).queueLink link = app.queueLink link := by
  cases into <;> rfl

theorem adoptAnswer_shown {link : QueueLink} {snapshot : QueueSnapshot} {late : List LinkMessage}
    (shown : link = .peer → app.remoteView.isSome = true)
    (empty : (app.queueLink link).events = [])
    (alive : (app.queueLink link).disconnected = false)
    (honest : snapshot.status.Honest app.copies.length)
    (lateHonest : HonestMessages app.copies.length snapshot.status late) :
    ((app.adoptAnswer link snapshot late).queueLink link).Shows app.copies.length ∧
      ((app.adoptAnswer link snapshot late).queueForLink link).copy = some app.copies.length := by
  let read (owner : OwnerLink) : OwnerLink :=
    ({ owner with copy := some app.copies.length }.receive (.queueState snapshot)).receiveAll late
  have answered : (read (app.queueLink link)).Shows app.copies.length := by
    refine OwnerLink.Shows.receiveAll ⟨?_, ?_, ?_⟩ ?_ ?_ <;>
      simp [OwnerLink.receive, alive, empty, LinkMessage.update, honest, lateHonest]
  have mapped : ((app.mapQueueLink link read).queueLink link).Shows app.copies.length := by
    rw [mapQueueLink_queueLink]; exact answered
  have drained := drainLink_shows mapped
  have same : SameWiring app ((app.mapQueueLink link read).drainLink link) :=
    (mapQueueLink_sameWiring link fun owner => by simp [read, OwnerLink.ends]).trans (drainLink_sameWiring link)
  let drainedApp := (app.mapQueueLink link read).drainLink link
  change ((drainedApp.adoptOwnAnswer link _).queueLink link).Shows _ ∧
    ((drainedApp.adoptOwnAnswer link _).queueForLink link).copy = _
  unfold adoptOwnAnswer
  refine ⟨?_, ?_⟩
  · rw [adoptInto_queueLink]
    split
    · rcases setStatus_queueLink drainedApp link snapshot.status with kept | set
      · exact kept ▸ drained
      · exact set ▸ ⟨drained.copy, honest, drained.events⟩
    · exact drained
  · cases link with
    | localOwner => rfl
    | peer =>
      obtain ⟨view, held⟩ := Option.isSome_iff_exists.mp (same.remoteView.trans (shown rfl))
      have held : drainedApp.remoteView = some view := held
      split <;> simp [adoptInto, queueForLink, setStatus, held]

theorem TransferInv.of_idle (wired : app.Wired endpoints) (recorded : app.Recorded endpoints)
    (idle : app.pendingQueueTransfer = none) (unstaged : app.stagedQueueTransfer = none) :
    app.TransferInv endpoints :=
  ⟨wired, recorded, fun _ held => absurd held (by simp [unstaged]), fun _ held => absurd held (by simp [idle])⟩

variable {awaited : Awaited}

theorem TransferInv.sendQueueCopy {sourceLink : Option OwnerLink} {copy : QueueCopy}
    (inv : app.TransferInv endpoints) (idle : app.pendingQueueTransfer = none)
    (unstaged : app.stagedQueueTransfer = none)
    (shown : direction = .handOff → app.remoteView.isSome = true)
    (attached : direction = .handOff → app.directRemoteConnected = true ∧ app.directRemoteSessionId = some target)
    (honest : awaited.Honest app.copies.length) (number : copy.number = app.copies.length)
    (joins : copy.Joins endpoints target direction)
    (source : ∀ link ∈ sourceLink, link.owner = endpoints.session target) :
    (app.sendQueueCopy direction target sourceLink copy awaited).TransferInv endpoints := by
  have failed (next : App) (same : SameWiring app next) : next.failPendingQueueTransfer.TransferInv endpoints := by
    have recorded := (inv.recorded.of_ledger same.ledger).endPending
    have wired := same.wired inv.wired
    exact .of_idle ⟨wired.localOwner, wired.suspended, wired.unattached, wired.session⟩ recorded rfl (same.staged.trans unstaged)
  unfold App.sendQueueCopy queueOp
  split
  · rename_i heard
    split at heard
    · cases heard; exact failed app SameWiring.refl
    · cases awaited with
      | legacy => cases heard
      | applied => cases heard
      | sendFailed => cases heard; exact failed app SameWiring.refl
      | unanswered before => cases heard; exact failed _ (pumpBefore_sameWiring _ _ before)
      | rejected before => cases heard; exact failed _ (pumpBefore_sameWiring _ _ before)
  · rename_i heard answer
    split at answer
    · cases answer; exact absurd rfl heard
    · rename_i connected
      cases awaited with
      | legacy => exact honest.elim
      | sendFailed => cases answer; exact absurd rfl heard
      | unanswered before => cases answer; exact absurd rfl heard
      | rejected before => cases answer; exact absurd rfl heard
      | applied before snapshot late =>
        cases answer
        have pumped := pumpBefore_sameWiring app direction.targetLink before
        have same := pumped.trans (adoptAnswer_sameWiring direction.targetLink snapshot late)
        have copies := (ledger_eq pumped.ledger).1
        obtain ⟨sameCopies, stops, ended, pending⟩ := ledger_eq same.ledger
        have alive : ((app.pumpBefore direction.targetLink before).queueLink direction.targetLink).disconnected = false :=
          (congrArg Prod.snd (pumped.queueLink_ends _)).trans (Bool.eq_false_iff.mpr connected)
        rw [← copies] at honest
        obtain ⟨link, view⟩ := adoptAnswer_shown (fun peer => pumped.remoteView.trans (shown (by cases direction <;> trivial)))
          (pumpBefore_events _ before) alive honest.1 honest.2
        have wired := same.wired inv.wired
        refine ⟨⟨wired.localOwner, wired.suspended, wired.unattached, wired.session⟩, ?_,
          fun staging held => ?_, fun transfer current _ => ?_⟩
        · refine inv.recorded.arm copy idle ?_ stops ended rfl number rfl ⟨⟨copy, by simp, rfl, rfl, joins⟩, source⟩
          exact congrArg (· ++ [copy]) sameCopies
        · rw [show staging ∈ _ ↔ staging ∈ app.stagedQueueTransfer from same.staged ▸ Iff.rfl, unstaged] at held
          cases held
        · cases current
          rw [copies, ← number] at link view
          refine ⟨link, view, fun handOff => ?_⟩
          exact ⟨same.connected.trans (attached handOff).1, same.session.trans (attached handOff).2⟩

/-! ### Both flows -/

theorem TransferInv.sendHandOff (inv : app.TransferInv endpoints)
    (idle : app.pendingQueueTransfer = none) (unstaged : app.stagedQueueTransfer = none)
    (attached : app.directRemoteConnected = true ∧ app.directRemoteSessionId = some target)
    (honest : awaited.Honest app.copies.length) :
    (app.sendQueueHandOffCopy target awaited).TransferInv endpoints := by
  unfold sendQueueHandOffCopy
  split
  · exact inv
  · rename_i present
    have peer : app.remoteView.isSome = true := by
      simp only [queueHandOffTargetLinkPresent, hasRemoteQueue, Bool.not_eq_true', Bool.not_eq_false,
        Bool.and_eq_true] at present
      exact present.1
    split
    · exact inv
    · rename_i startSlot startIdx positionTicks start
      refine inv.sendQueueCopy idle unstaged (fun _ => peer) (fun _ => attached) honest rfl ⟨?_, ?_⟩
        fun _ held => absurd held (by simp)
      · -- Behind a peer the source is the suspended home link.
        cases suspended : app.suspendedLocal with
        | some home =>
          have leads := (inv.wired.suspended home suspended).1
          simpa [queueLink, suspended] using leads
        | none =>
          cases isLocal : app.isLocalDaemon with
          | true =>
            have leads := (inv.wired.localOwner isLocal).1
            simpa [queueLink, suspended] using leads
          | false =>
            simp [queueHandOffSourceStart, queueHandOffSourceStatus, suspended, isLocal] at start
      · exact (inv.wired.session target attached.2).1

theorem TransferInv.sendTake {sourceLink : Option OwnerLink} (inv : app.TransferInv endpoints)
    (idle : app.pendingQueueTransfer = none) (unstaged : app.stagedQueueTransfer = none)
    (source : ∀ link ∈ sourceLink, link.owner = endpoints.session target)
    (attached : sourceLink = none → app.directRemoteSessionId = some target)
    (honest : awaited.Honest app.copies.length) :
    (app.sendQueueTakeCopy target sourceLink awaited).TransferInv endpoints := by
  unfold sendQueueTakeCopy
  split
  · exact inv
  · rename_i present
    simp only [queueTakeTargetLinkPresent, Bool.not_eq_true', Bool.not_eq_false, Bool.or_eq_true] at present
    split
    · exact inv
    · split
      · exact inv
      · refine inv.sendQueueCopy idle unstaged (fun other => by cases other)
          (fun other => by cases other) honest rfl ⟨?_, ?_⟩ source
        · cases sourceLink with
          | none => exact (inv.wired.session target (attached rfl)).1
          | some link => exact source link rfl
        · rcases present with suspended | isLocal
          · obtain ⟨home, held⟩ := Option.isSome_iff_exists.mp suspended
            have leads := (inv.wired.suspended home held).1
            simpa [queueLink, held] using leads
          · obtain ⟨leads, -, alone⟩ := inv.wired.localOwner isLocal
            simpa [queueLink, alone] using leads

theorem TransferInv.unstage (inv : app.TransferInv endpoints) : app.dropStagedQueueTransfer.TransferInv endpoints :=
  ⟨⟨inv.wired.localOwner, inv.wired.suspended, inv.wired.unattached, inv.wired.session⟩, inv.recorded.of_ledger rfl,
    fun _ held => absurd held (by simp [dropStagedQueueTransfer]),
    fun transfer current alive =>
      have shown := inv.shown transfer current alive
      ⟨shown.link, shown.view, shown.attached⟩⟩

theorem TransferInv.runStaged (inv : app.TransferInv endpoints) (honest : awaited.Honest app.copies.length) :
    (app.runStagedQueueTransfer endpoints reconnect awaited).TransferInv endpoints := by
  unfold runStagedQueueTransfer
  cases held : app.stagedQueueTransfer with
  | none => exact inv
  | some staged =>
    obtain ⟨idle, sound⟩ := inv.staged staged held
    have unstaged := inv.unstage
    unfold StagedSound at sound
    dsimp only
    cases staged.direction with
    | handOff =>
      dsimp only
      unfold runStagedQueueHandOff
      cases link : staged.link with
      | none =>
        rw [link] at sound
        exact unstaged.sendHandOff idle rfl sound honest
      | some link' =>
        rw [link] at sound
        dsimp only
        split
        · exact unstaged
        · obtain ⟨severed, settled, takes, own, stillIdle, stillUnstaged, copies⟩ :=
            unstaged.sever reconnect (settled_of_idle idle)
          have attached := severed.switchToDirectRemote settled takes own (severConnections_spec unstaged.wired).2 sound
          obtain ⟨-, -, -, -, ledger, stagedSame, -⟩ := attachRemoteOwner_spec link' severed.wired
          obtain ⟨sameCopies, -, -, pending⟩ := ledger_eq ledger
          refine attached.sendHandOff (pending.trans (stillIdle idle)) (stagedSame.trans (stillUnstaged rfl)) ⟨rfl, rfl⟩ ?_
          exact (congrArg List.length (sameCopies.trans copies)).symm ▸ honest
    | take =>
      dsimp only
      unfold runStagedQueueTake
      split
      · exact unstaged
      · refine unstaged.sendTake idle rfl (fun link own => ?_) (fun none => ?_) honest
        · rw [own] at sound; exact sound
        · rw [none] at sound; exact sound.2

theorem TransferInv.stage {staged : StagedQueueTransfer} {len : Nat}
    (inv : app.TransferInv endpoints) (idle : app.pendingQueueTransfer = none)
    (sound : app.StagedSound endpoints staged) (honest : awaited.Honest app.copies.length) :
    (app.stageQueueTransfer endpoints staged len reconnect awaited).TransferInv endpoints := by
  have staging : ({ app with stagedQueueTransfer := some staged } : App).TransferInv endpoints :=
    ⟨⟨inv.wired.localOwner, inv.wired.suspended, inv.wired.unattached, inv.wired.session⟩,
      inv.recorded.of_ledger rfl, fun _ held => by cases held; exact ⟨idle, sound⟩,
      fun _ held => absurd held (by simp [idle])⟩
  unfold stageQueueTransfer
  dsimp only
  split
  · exact staging
  · exact staging.runStaged honest

theorem openTransferLink_sound {link : Option OwnerLink} (found : app.openTransferLink endpoints target opened = some link) :
    app.StagedSound endpoints ⟨direction, target, link⟩ := by
  unfold openTransferLink queueTransferPeerLinkIsCurrent at found
  split at found
  · rename_i current
    cases found
    simpa [StagedSound] using current
  · obtain ⟨_, -, rfl⟩ := Option.map_eq_some_iff.mp found
    rfl

theorem TransferInv.begun {resolved : Bool} (inv : app.TransferInv endpoints) (honest : awaited.Honest app.copies.length) :
    (app.beginQueueTransfer endpoints direction target resolved opened reconnect awaited).TransferInv endpoints := by
  have cancelled := inv.cancel
  unfold beginQueueTransfer
  dsimp only
  split
  · exact cancelled
  · cases direction with
    | handOff =>
      dsimp only
      unfold beginQueueHandOff
      split
      · exact cancelled
      · rename_i link found
        dsimp only
        split
        · exact cancelled
        · split
          · exact cancelled
          · split
            · exact cancelled
            · exact cancelled.stage rfl (openTransferLink_sound found) honest
    | take =>
      dsimp only
      unfold beginQueueTake
      split
      · exact cancelled
      · split
        · exact cancelled
        · split
          · exact cancelled
          · rename_i link found
            split
            · exact cancelled
            · exact cancelled.stage rfl (openTransferLink_sound found) honest

/-! ### The settlement -/

theorem TransferInv.ended {transfer : PendingQueueTransfer} (sent : List SentStop)
    (inv : app.TransferInv endpoints) (current : app.pendingQueueTransfer = some transfer)
    (wired : next.Wired endpoints) (unstaged : next.stagedQueueTransfer = none)
    (copies : next.copies = app.copies) (stops : next.stops = app.stops ++ sent)
    (warranted : ∀ stop ∈ sent, ∃ copy ∈ app.copies, stop.Warranted copy)
    (ended : next.ended = app.ended ++ [transfer.number])
    (idle : next.pendingQueueTransfer = none) : next.TransferInv endpoints ∧ next.Settled := by
  have recorded : ({ app with stops := app.stops ++ sent } : App).Recorded endpoints := by
    have sound := inv.recorded.sound
    refine ⟨⟨sound.numbered, sound.armed, sound.pending, sound.endedOnce, fun stop held => ?_⟩,
      inv.recorded.numbers, inv.recorded.endedBelow, inv.recorded.sent⟩
    rcases mem_append.mp held with held | held
    · exact sound.stops stop held
    · exact warranted stop held
  have settled : next.Recorded endpoints := recorded.ending copies stops (by simp [ended, current]) idle
  exact ⟨.of_idle wired settled idle unstaged, settled_of_idle idle⟩

theorem stopTransferSource_cases {transfer : PendingQueueTransfer} {copy : QueueCopy}
    (wired : app.Wired endpoints) (joins : copy.Joins endpoints transfer.target transfer.direction)
    (source : ∀ link ∈ transfer.sourceLink, link.owner = endpoints.session transfer.target) :
    app.stopTransferSource transfer = app ∨ ∃ link, app.stopTransferSource transfer = app.sendStop transfer link ∧
        link.owner = copy.source := by
  unfold stopTransferSource
  cases direction : transfer.direction with
  | handOff =>
    rw [direction] at joins
    dsimp only
    unfold stopHandOffSource
    cases suspended : app.suspendedLocal with
    | some home => exact .inr ⟨home, rfl, (wired.suspended home suspended).1.trans joins.1.symm⟩
    | none =>
      cases isLocal : app.isLocalDaemon with
      | true => exact .inr ⟨app.player, rfl, (wired.localOwner isLocal).1.trans joins.1.symm⟩
      | false => exact .inl rfl
  | take =>
    rw [direction] at joins
    dsimp only
    unfold stopTakeSource
    split
    · unfold stopAttachedTakeSource
      split
      · exact .inl rfl
      · rename_i current
        simp only [queueTransferPeerLinkIsCurrent, Bool.or_eq_true, Bool.not_eq_true', not_or,
          Bool.not_eq_false, Bool.and_eq_true, beq_iff_eq] at current
        have leads := (wired.session transfer.target current.1.2).1
        exact .inr ⟨app.player, rfl, leads.trans joins.1.symm⟩
    · rename_i link own
      split
      · exact .inl rfl
      · exact .inr ⟨link, rfl, (source link own).trans joins.1.symm⟩

theorem runQueueTransferFollowUp_spec (transfer : PendingQueueTransfer)
    (reconnect : Option Opened) (wired : app.Wired endpoints) (idle : app.pendingQueueTransfer = none)
    (unstaged : app.stagedQueueTransfer = none) :
    let next := app.runQueueTransferFollowUp endpoints transfer reconnect
    next.Wired endpoints ∧ next.ledger = app.ledger ∧ next.stagedQueueTransfer = none := by
  dsimp only
  have kept : (app.disconnectRemote endpoints reconnect).Wired endpoints ∧
      (app.disconnectRemote endpoints reconnect).ledger = app.ledger ∧
      (app.disconnectRemote endpoints reconnect).stagedQueueTransfer = none := by
    refine ⟨disconnectRemote_wired wired, ?_⟩
    rcases disconnectRemote_cases endpoints app reconnect with ⟨-, same⟩ | ⟨-, restored⟩
    · rw [same]; exact ⟨rfl, unstaged⟩
    · rw [restored]
      obtain ⟨-, -, -, -, -, ledger, staged⟩ := restoreLocalMode_spec reconnect wired.cancel
      refine ⟨ledger.trans ?_, staged⟩
      simp [cancelPendingQueueTransfer, dropStagedQueueTransfer, endPendingQueueTransfer, App.ledger, idle]
  unfold runQueueTransferFollowUp
  split
  · exact ⟨wired, rfl, unstaged⟩
  · split
    · exact kept
    · exact ⟨wired, rfl, unstaged⟩

theorem transferTargetStatus_eq (direction : QueueTransferDirection) :
    app.transferTargetStatus direction = (app.queueLink direction.targetLink).status := by
  cases direction <;> cases suspended : app.suspendedLocal <;>
    simp [transferTargetStatus, queueLink, QueueTransferDirection.targetLink, suspended]

theorem TransferInv.settle (inv : app.TransferInv endpoints) :
    (app.settlePendingQueueTransfer endpoints reconnect).TransferInv endpoints ∧
      (app.settlePendingQueueTransfer endpoints reconnect).Settled := by
  unfold settlePendingQueueTransfer
  cases current : app.pendingQueueTransfer with
  | none => exact ⟨inv, settled_of_idle current⟩
  | some transfer =>
    have wired := inv.wired
    have unstaged : app.stagedQueueTransfer = none := by
      cases held : app.stagedQueueTransfer with
      | none => rfl
      | some staged => have idle := (inv.staged staged held).1; rw [current] at idle; cases idle
    obtain ⟨⟨copy, there, number, startSlot, joins⟩, source⟩ := inv.recorded.sent transfer current
    let taken : App := { app with pendingQueueTransfer := none }
    have takenWired : taken.Wired endpoints := ⟨wired.localOwner, wired.suspended, wired.unattached, wired.session⟩
    dsimp only
    split
    · refine inv.ended [] current ⟨wired.localOwner, wired.suspended, wired.unattached,
        wired.session⟩ unstaged rfl ?_ (by simp) rfl rfl
      exact (append_nil _).symm
    · rename_i alive
      have alive : app.transferTargetLinkLost transfer.direction = false := Bool.eq_false_iff.mpr alive
      have shown := inv.shown transfer current alive
      have view : (taken.queueForLink transfer.direction.targetLink).copy = some copy.number := number ▸ shown.view
      unfold settleTargetObservation
      dsimp only
      split
      · rename_i played
        rw [Bool.and_eq_true, beq_iff_eq] at played
        have plays : (taken.transferTargetStatus transfer.direction).plays = some copy.number := by
          have status := shown.link.status
          rw [← transferTargetStatus_eq] at status
          exact number ▸ status played.2
        rcases stopTransferSource_cases takenWired joins source with quiet | ⟨link, stop, leads⟩
        · rw [show App.stopTransferSource { app with pendingQueueTransfer := none } transfer = taken from quiet]
          obtain ⟨followed, ledger, staged⟩ := runQueueTransferFollowUp_spec transfer reconnect takenWired rfl unstaged
          obtain ⟨copies, stops, ended, -⟩ := ledger_eq ledger
          refine inv.ended [] current ⟨followed.localOwner, followed.suspended, followed.unattached, followed.session⟩ staged
            copies (stops.trans (append_nil _).symm) (by simp) ?_ rfl
          exact congrArg (· ++ [transfer.number]) ended
        · rw [show App.stopTransferSource { app with pendingQueueTransfer := none } transfer =
            taken.sendStop transfer link from stop]
          have sentWired : (taken.sendStop transfer link).Wired endpoints :=
            ⟨wired.localOwner, wired.suspended, wired.unattached, wired.session⟩
          obtain ⟨followed, ledger, staged⟩ := runQueueTransferFollowUp_spec transfer reconnect sentWired rfl unstaged
          obtain ⟨copies, stops, ended, -⟩ := ledger_eq ledger
          refine inv.ended _ current ⟨followed.localOwner, followed.suspended, followed.unattached, followed.session⟩ staged
            copies stops (fun sent held => ?_) (congrArg (· ++ [transfer.number]) ended) rfl
          rw [mem_singleton] at held
          subst held
          refine ⟨copy, there, number.symm, view, .inl ⟨leads, ?_, plays⟩⟩
          exact startSlot ▸ played.1
      · split
        · -- The copy is still starting: the App goes on as it was.
          have same : ({ taken with pendingQueueTransfer := some transfer } : App) = app := by
            simp only [taken, ← current]
          rw [same]
          refine ⟨inv, fun other held => ?_⟩
          rw [current] at held
          cases held
          exact alive
        · rename_i absent
          have absent : (taken.queueForLink transfer.direction.targetLink).queue.slot copy.startSlot = none := by
            simp only [Bool.or_eq_true, not_or, Bool.not_eq_true, Option.isSome_eq_false_iff,
              Option.isNone_iff_eq_none] at absent
            exact startSlot ▸ absent.2
          refine inv.ended _ current ⟨wired.localOwner, wired.suspended, wired.unattached,
            wired.session⟩ unstaged rfl rfl (fun sent held => ?_) rfl rfl
          rw [mem_singleton] at held
          subst held
          refine ⟨copy, there, number.symm, view, .inr ⟨?_, absent⟩⟩
          cases direction : transfer.direction with
          | handOff =>
            rw [direction] at joins
            have attached := (shown.attached direction).2
            exact (wired.session transfer.target attached).1.trans joins.2.symm
          | take =>
            rw [direction] at joins alive
            exact (wired.home_owner alive).trans joins.2.symm

/-! ### Whole runs -/

theorem TransferInv.handle {tick : Tick} (inv : app.TransferInv endpoints) (settled : app.Settled)
    (honest : app.HonestTick tick) :
    (app.handle endpoints tick.reconnect tick.event).TransferInv endpoints := by
  obtain ⟨event, reconnect, reconnectSettling⟩ := tick
  cases event with
  | begun => exact inv.begun honest
  | confirmed => exact inv.runStaged honest
  | promptCancelled => exact inv.unstage
  | received => exact inv.received honest
  | dropped => exact inv.dropped
  | drainedActive => exact inv.drainedActive
  | drainedHome => exact inv.drainedHome
  | remoteDisconnected => exact inv.remoteDisconnected settled honest
  | homeDisconnected => exact inv.homeDisconnected settled
  | shutdownAnnounced => exact inv.shutdownAnnounced settled
  | disconnect => exact inv.disconnect
  | connect => exact inv.connect settled
  | playRouted => exact inv.playRouted settled

theorem launch_inv {opened : Opened} {autoReconnect : Bool} {lastRoute : Option (String × Opened)} :
    (launch endpoints opened autoReconnect lastRoute).TransferInv endpoints ∧
      (launch endpoints opened autoReconnect lastRoute).Settled := by
  have fresh : (launch endpoints opened autoReconnect lastRoute).ledger = ([], [], [], none) ∧
      (launch endpoints opened autoReconnect lastRoute).stagedQueueTransfer = none := by
    unfold launch
    cases lastRoute with
    | none => exact ⟨rfl, rfl⟩
    | some route => exact ⟨rfl, rfl⟩
  obtain ⟨ledger, unstaged⟩ := fresh
  obtain ⟨copies, stops, ended, idle⟩ : (launch endpoints opened autoReconnect lastRoute).copies = [] ∧
        (launch endpoints opened autoReconnect lastRoute).stops = [] ∧
        (launch endpoints opened autoReconnect lastRoute).ended = [] ∧
        (launch endpoints opened autoReconnect lastRoute).pendingQueueTransfer = none := by
    simpa [App.ledger] using ledger
  have recorded : (launch endpoints opened autoReconnect lastRoute).Recorded endpoints := by
    refine ⟨⟨?_, ?_, ?_, ?_, ?_⟩, ?_, ?_, ?_⟩ <;> simp [copies, stops, ended, idle]
  exact ⟨.of_idle launch_wired recorded idle unstaged, settled_of_idle idle⟩

end Mbv.Client.App

namespace Mbv.Client.App

open Mbv.Queue

/-! ### A Hand off from the local Owner to a populated peer -/

def handOffEndpoints : Endpoints := ⟨0, fun _ => 1, fun _ => 2⟩

def oneSlot (title : String) (status : PlayerStatus) : QueueSnapshot where
  status
  slots := [⟨⟨1⟩, .twitch ⟨title, title⟩⟩]
  activeSlot := some ⟨1⟩

/-- The local Owner and the peer both play; the copy is answered with `status`. -/
def handOffTicks (status : PlayerStatus) : List Tick :=
  [{ event := .begun .handOff "peer" true (some ⟨{}, oneSlot "peer" { active := true }⟩)
      .sendFailed },
    { event := .confirmed (.applied [] (oneSlot "local" status) []) }]

def handOffLaunch : App :=
  launch handOffEndpoints ⟨{}, oneSlot "local" { active := true }⟩ false none

end Mbv.Client.App
