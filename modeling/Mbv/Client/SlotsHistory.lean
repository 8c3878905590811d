import Mbv.Client.AttachmentSlots

namespace Mbv.Client.AttachmentSlots

namespace Slots

variable {slots : Slots} {endpoint : DaemonEndpoint} {homeAnswers connects : Bool}

def Described (slots : Slots) : Prop :=
  match slots.attachment with
  | .home => slots.player.endpoint.isLocal = true ∧ slots.directRemoteConnected = false ∧
      slots.directRemoteLabel = none ∧ slots.directRemoteSessionId = none ∧ slots.activeRoute = none
  | .launched => slots.player.endpoint.isLocal = false ∧ slots.directRemoteConnected = false ∧
      slots.directRemoteLabel = none ∧ slots.directRemoteSessionId = none ∧ slots.activeRoute = none
  | .session sess => slots.player.endpoint.isLocal = false ∧ slots.directRemoteConnected = true ∧
      slots.directRemoteLabel = sess.label ∧ slots.directRemoteSessionId = some sess.id ∧
      slots.activeRoute = none
  | .route library => slots.player.endpoint.isLocal = false ∧ slots.directRemoteConnected = false ∧
      slots.directRemoteLabel = none ∧ slots.directRemoteSessionId = none ∧
      slots.activeRoute = some library

structure Wired (slots : Slots) : Prop where
  named : slots.playerEndpoint = some slots.player.endpoint
  viewed : slots.player.endpoint.isLocal = false ↔ slots.remoteView.isSome = true
  home : slots.player.endpoint.isLocal = true → slots.suspendedLocal = none ∧ slots.remoteView = none
  suspended : ∀ home ∈ slots.suspendedLocal, home.endpoint.isLocal = true
  toreDown : ∀ link ∈ slots.replaced, link.endpoint.isLocal = false → link.number ∈ slots.toreDown
  described : slots.Described

def Refused (slots : Slots) : SlotsEvent → Prop
  | .connectToSession _ _ connects _ => slots.isLocalDaemon = true ∧ connects = false
  | .activateSessionTarget _ _ connects _ _ => slots.isLocalDaemon = true ∧ connects = false
  | .playRouted _ connects _ => slots.isLocalDaemon = true ∧ connects = false
  | .reconnectLibraryRoute _ _ connects _ => slots.isLocalDaemon = true ∧ connects = false
  | .playPendingLocalPlay prepares => (slots.prepareLocalPlayer prepares).2 = .error ()
  | _ => False

structure Promise (slots : Slots) (event : SlotsEvent) : Prop where
  wired : (slots.step event).Wired
  refused : slots.Refused event → slots.step event = slots

/-! ### When a step keeps it -/

def homeReachable (slots : Slots) (homeAnswers : Bool) : Bool :=
  slots.isLocalDaemon || homeAnswers || slots.suspendedLocal.any fun home => !home.disconnected

def severs (slots : Slots) : Bool := slots.activeRoute.isSome || slots.directRemoteConnected

/-- A local endpoint is only restored to, never attached as if it were a peer. -/
def LocalRestored (slots : Slots) (endpoint : DaemonEndpoint) (connects homeAnswers : Bool) : Prop :=
  endpoint.isLocal = true →
    if slots.suspendedLocal.isSome || slots.isLocalDaemon then slots.homeReachable homeAnswers = true
    else connects = false

def ConnectKeeps (slots : Slots) (endpoint : Option DaemonEndpoint) (connects homeAnswers : Bool) :
    Prop :=
  if slots.severs then
    slots.homeReachable homeAnswers = true ∨
      connects = true ∧ ∃ remote ∈ endpoint, remote.isLocal = false
  else ∀ remote ∈ endpoint, slots.LocalRestored remote connects homeAnswers

/-- The condition under which a step keeps the slots of one attachment. -/
def Keeps (slots : Slots) : SlotsEvent → Prop
  | .connectToSession _ endpoint connects homeAnswers =>
    slots.ConnectKeeps endpoint connects homeAnswers
  | .activateSessionTarget _ endpoint connects output homeAnswers =>
    if endpoint.isSome then slots.ConnectKeeps endpoint connects homeAnswers
    else output = true → slots.severs = true → slots.homeReachable homeAnswers = true
  | .selectCastReceiver homeAnswers => slots.severs = true → slots.homeReachable homeAnswers = true
  | .playRouted resolved connects homeAnswers =>
    slots.activeRoute.isSome = true →
      (∃ route ∈ resolved, slots.activeRoute = some route.1) ∨
      (slots.homeReachable homeAnswers = true ∧
        ∀ route ∈ resolved, slots.LocalRestored route.2 connects homeAnswers) ∨
      connects = true ∧ ∃ route ∈ resolved, route.2.isLocal = false
  | .reconnectLibraryRoute _ endpoint connects homeAnswers =>
    slots.LocalRestored endpoint connects homeAnswers ∧
      (endpoint.isLocal = false → connects = true → slots.directRemoteLabel = none)
  | .remoteDisconnected reattaches homeAnswers =>
    slots.isLocalDaemon = false →
      if slots.autoReconnect && reattaches then slots.directRemoteConnected = true
      else slots.homeReachable homeAnswers = true
  | .shutdownAnnounced fromHomeLink homeAnswers =>
    fromHomeLink = false → slots.homeReachable homeAnswers = true
  | .loseHomeLink => True
  | .drainHomeDisconnect => True
  | .disconnectRemote homeAnswers =>
    slots.directRemoteConnected = true → slots.homeReachable homeAnswers = true
  | .restoreLocalMode homeAnswers => slots.homeReachable homeAnswers = true
  | .playPendingLocalPlay prepares =>
    slots.isLocalDaemon = false → prepares = false →
      ∀ home ∈ slots.suspendedLocal, home.disconnected = false

/-! ### Facts -/

theorem Wired.isLocalDaemon_eq (wired : slots.Wired) : slots.isLocalDaemon = slots.player.endpoint.isLocal := by
  unfold isLocalDaemon
  rw [wired.named]
  cases slots.player.endpoint <;> simp [DaemonEndpoint.isLocal]

theorem Wired.home_of_local (wired : slots.Wired) (isLocal : slots.isLocalDaemon = true) :
    slots.attachment = .home ∧ slots.suspendedLocal = none ∧ slots.remoteView = none ∧
      slots.directRemoteConnected = false ∧ slots.directRemoteLabel = none ∧
      slots.directRemoteSessionId = none ∧ slots.activeRoute = none := by
  rw [wired.isLocalDaemon_eq] at isLocal
  obtain ⟨suspended, view⟩ := wired.home isLocal
  have described := wired.described
  unfold Described at described
  cases attached : slots.attachment with
  | home =>
    rw [attached] at described
    exact ⟨rfl, suspended, view, described.2⟩
  | launched => rw [attached] at described; exact absurd isLocal (by simp [described.1])
  | session sess => rw [attached] at described; exact absurd isLocal (by simp [described.1])
  | route library => rw [attached] at described; exact absurd isLocal (by simp [described.1])

theorem Wired.finish_of_local (wired : slots.Wired) (isLocal : slots.isLocalDaemon = true) : slots.finishLocalMode = slots := by
  obtain ⟨-, -, view, connected, label, session, route⟩ := wired.home_of_local isLocal
  cases slots
  simp_all [finishLocalMode]

theorem Wired.restore_of_local (wired : slots.Wired) (isLocal : slots.isLocalDaemon = true) :
    slots.restoreLocalMode homeAnswers = slots := by
  obtain ⟨-, suspended, -⟩ := wired.home_of_local isLocal
  unfold restoreLocalMode
  rw [if_pos (by simp [isLocal, suspended])]
  exact wired.finish_of_local isLocal

theorem toreDown_disconnect (toreDown : ∀ link ∈ slots.replaced, link.endpoint.isLocal = false → link.number ∈ slots.toreDown) :
    ∀ link ∈ slots.disconnectPlayer.replaced ++ [slots.disconnectPlayer.player],
      link.endpoint.isLocal = false → link.number ∈ slots.disconnectPlayer.toreDown := by
  intro link member isRemote
  rcases List.mem_append.mp member with before | now
  · exact List.mem_append_left _ (toreDown link before isRemote)
  · rw [List.mem_singleton.mp now]
    exact List.mem_append_right _ (List.mem_singleton_self _)

theorem eq_local (isLocal : endpoint.isLocal = true) : endpoint = .localDaemon := by
  cases endpoint <;> simp [DaemonEndpoint.isLocal] at isLocal ⊢

/-- Where the restoring ends when nothing answers: the dead link stays, without a view. -/
def stranded (slots : Slots) : Slots :=
  { slots.disconnectPlayer with suspendedLocal := none }.finishLocalMode

theorem restore_of_unreachable (unreachable : slots.homeReachable homeAnswers = false) :
    slots.restoreLocalMode homeAnswers = slots.stranded := by
  simp only [homeReachable, Bool.or_eq_false_iff] at unreachable
  obtain ⟨⟨remote, silent⟩, dead⟩ := unreachable
  have gone : (slots.suspendedLocal.filter fun suspended => !suspended.disconnected) = none := by
    cases held : slots.suspendedLocal with
    | none => rfl
    | some home =>
      rw [held] at dead
      simpa [Option.filter] using dead
  unfold restoreLocalMode
  rw [if_neg (by simp [remote]), gone]
  simp only [silent]
  rfl

theorem Wired.restore (wired : slots.Wired) (reachable : slots.homeReachable homeAnswers = true) :
    (slots.restoreLocalMode homeAnswers).Wired ∧ (slots.restoreLocalMode homeAnswers).isLocalDaemon = true := by
  cases isLocal : slots.isLocalDaemon with
  | true =>
    rw [wired.restore_of_local isLocal]
    exact ⟨wired, isLocal⟩
  | false =>
    have torn := toreDown_disconnect wired.toreDown
    unfold restoreLocalMode
    rw [if_neg (by simp [isLocal])]
    dsimp only
    cases alive : slots.suspendedLocal.filter fun suspended => !suspended.disconnected with
    | some home =>
      have held : slots.suspendedLocal = some home := (Option.filter_eq_some_iff.mp alive).1
      have isHome := wired.suspended home held
      exact ⟨⟨congrArg some (eq_local isHome).symm, by simp [finishLocalMode, installSuspendedLocal, isHome],
        fun _ => ⟨rfl, rfl⟩, (fun _ none => by cases none), torn, ⟨isHome, rfl, rfl, rfl, rfl⟩⟩, rfl⟩
    | none =>
      have answers : homeAnswers = true := by
        have dead : (slots.suspendedLocal.any fun home => !home.disconnected) = false := by
          cases held : slots.suspendedLocal with
          | none => rfl
          | some home =>
            rw [held] at alive
            simpa [Option.filter] using alive
        simpa [homeReachable, isLocal, dead] using reachable
      dsimp only
      rw [if_pos answers]
      exact ⟨⟨rfl, by simp [finishLocalMode, replacePlayer, nextLinkTo, DaemonEndpoint.isLocal],
        fun _ => ⟨rfl, rfl⟩, (fun _ none => by cases none), torn, ⟨rfl, rfl, rfl, rfl, rfl⟩⟩, rfl⟩

theorem Wired.stranded (wired : slots.Wired) (remote : slots.isLocalDaemon = false) : ¬ slots.stranded.Wired := by
  intro stranded
  have isRemote : slots.player.endpoint.isLocal = false := wired.isLocalDaemon_eq ▸ remote
  have view := stranded.viewed.mp isRemote
  cases view

theorem Wired.restore_iff (wired : slots.Wired) :
    (slots.restoreLocalMode homeAnswers).Wired ↔ slots.homeReachable homeAnswers = true := by
  constructor
  · intro restored
    cases unreachable : slots.homeReachable homeAnswers with
    | true => rfl
    | false =>
      rw [restore_of_unreachable unreachable] at restored
      simp only [homeReachable, Bool.or_eq_false_iff] at unreachable
      exact absurd restored (wired.stranded unreachable.1.1)
  · intro reachable
    exact (wired.restore reachable).1

/-! ### Attaching -/

structure Attachable (slots : Slots) : Prop where
  home : slots.isLocalDaemon = true → slots.player.endpoint.isLocal = true
  suspended : ∀ home ∈ slots.suspendedLocal, home.endpoint.isLocal = true
  toreDown : ∀ link ∈ slots.replaced, link.endpoint.isLocal = false → link.number ∈ slots.toreDown

theorem Wired.attachable (wired : slots.Wired) : slots.Attachable :=
  ⟨fun isLocal => wired.isLocalDaemon_eq ▸ isLocal, wired.suspended, wired.toreDown⟩

theorem Attachable.stranded (attachable : slots.Attachable) (remote : slots.isLocalDaemon = false) :
    slots.stranded.Attachable where
  home isLocal := by
    have same : slots.stranded.isLocalDaemon = slots.isLocalDaemon := rfl
    rw [same, remote] at isLocal
    cases isLocal
  suspended := fun _ none => by cases none
  toreDown link member isRemote := List.mem_append_left _ (attachable.toreDown link member isRemote)

structure Joined (endpoint : DaemonEndpoint) (slots next : Slots) : Prop where
  player : next.player.endpoint = endpoint
  named : next.playerEndpoint = some endpoint
  viewed : next.remoteView.isSome = true
  suspended : ∀ home ∈ next.suspendedLocal, home.endpoint.isLocal = true
  toreDown : ∀ link ∈ next.replaced, link.endpoint.isLocal = false → link.number ∈ next.toreDown
  label : next.directRemoteLabel = slots.directRemoteLabel
  route : next.activeRoute = slots.activeRoute

theorem Attachable.attach (attachable : slots.Attachable) (remote : endpoint.isLocal = false) :
    (slots.attachRemoteOwner endpoint slots.isLocalDaemon homeAnswers).2 = true ∧
      Joined endpoint slots (slots.attachRemoteOwner endpoint slots.isLocalDaemon homeAnswers).1 := by
  unfold attachRemoteOwner
  rw [if_neg (by simp [remote])]
  refine ⟨rfl, ?_⟩
  cases isLocal : slots.isLocalDaemon with
  | true =>
    refine ⟨rfl, rfl, by simp [adoptOwnerQueue, remote], ?_, attachable.toreDown, rfl, rfl⟩
    intro home held
    cases held
    exact attachable.home isLocal
  | false =>
    refine ⟨rfl, rfl, by simp [adoptOwnerQueue, remote], attachable.suspended, ?_, rfl, rfl⟩
    exact toreDown_disconnect attachable.toreDown

theorem Attachable.direct (attachable : slots.Attachable) (unrouted : slots.activeRoute = none)
    (remote : endpoint.isLocal = false) {sess : SessionInfo} :
    (slots.switchToDirectRemote sess endpoint homeAnswers).Wired := by
  obtain ⟨attached, joined⟩ := @Attachable.attach slots endpoint homeAnswers attachable remote
  unfold switchToDirectRemote
  dsimp only
  rw [if_pos attached]
  have isRemote := joined.player ▸ remote
  refine ⟨joined.named.trans (congrArg some joined.player.symm), ?_, ?_, joined.suspended, joined.toreDown, ?_⟩
  · exact ⟨fun _ => joined.viewed, fun _ => isRemote⟩
  · intro isLocal
    exact absurd (isRemote.symm.trans isLocal) (by simp)
  · have kind : (if endpoint.isLocal then Attachment.home else .session sess) = .session sess := by
      simp [remote]
    unfold Described
    dsimp only
    rw [kind]
    exact ⟨isRemote, rfl, rfl, by simp [remote], joined.route.trans unrouted⟩

theorem Attachable.routed (attachable : slots.Attachable) (unlabelled : slots.directRemoteLabel = none)
    (remote : endpoint.isLocal = false) {library : String} :
    (slots.switchToLibraryRoute library endpoint homeAnswers).Wired := by
  obtain ⟨attached, joined⟩ := @Attachable.attach slots endpoint homeAnswers attachable remote
  unfold switchToLibraryRoute
  dsimp only
  rw [if_pos attached]
  have isRemote := joined.player ▸ remote
  refine ⟨joined.named.trans (congrArg some joined.player.symm), ?_, ?_, joined.suspended, joined.toreDown, ?_⟩
  · exact ⟨fun _ => joined.viewed, fun _ => isRemote⟩
  · intro isLocal
    exact absurd (isRemote.symm.trans isLocal) (by simp)
  · have kind : (if endpoint.isLocal then Attachment.home else .route library) = .route library := by
      simp [remote]
    unfold Described
    dsimp only
    rw [kind]
    exact ⟨isRemote, rfl, joined.label.trans unlabelled, rfl, rfl⟩

theorem attached_of_free (unsuspended : slots.suspendedLocal = none) (away : slots.isLocalDaemon = false) :
    (slots.attachRemoteOwner endpoint slots.isLocalDaemon homeAnswers).2 = true := by
  unfold attachRemoteOwner
  rw [if_neg (by simp [unsuspended, away])]

theorem not_wired_direct_local (isLocal : endpoint.isLocal = true) (unsuspended : slots.suspendedLocal = none)
    (away : slots.isLocalDaemon = false) {sess : SessionInfo} :
    ¬ (slots.switchToDirectRemote sess endpoint homeAnswers).Wired := by
  intro wired
  unfold switchToDirectRemote at wired
  dsimp only at wired
  rw [if_pos (attached_of_free unsuspended away)] at wired
  have described := wired.described
  simp [Described, isLocal] at described

theorem not_wired_route_local (isLocal : endpoint.isLocal = true) (unsuspended : slots.suspendedLocal = none)
    (away : slots.isLocalDaemon = false) {library : String} :
    ¬ (slots.switchToLibraryRoute library endpoint homeAnswers).Wired := by
  intro wired
  unfold switchToLibraryRoute at wired
  dsimp only at wired
  rw [if_pos (attached_of_free unsuspended away)] at wired
  have described := wired.described
  simp [Described, isLocal] at described

theorem Wired.routed_iff (wired : slots.Wired) (remote : endpoint.isLocal = false) {library : String} :
    (slots.switchToLibraryRoute library endpoint homeAnswers).Wired ↔ slots.directRemoteLabel = none := by
  constructor
  · intro routed
    obtain ⟨attached, joined⟩ := @Attachable.attach slots endpoint homeAnswers wired.attachable remote
    unfold switchToLibraryRoute at routed
    dsimp only at routed
    rw [if_pos attached] at routed
    have described := routed.described
    simp only [Described, remote] at described
    exact joined.label.symm.trans described.2.2.1
  · intro unlabelled
    exact wired.attachable.routed unlabelled remote

theorem severConnections_eq : slots.severConnections homeAnswers =
      if slots.severs then slots.restoreLocalMode homeAnswers else slots := by
  have unflagged : (slots.restoreLocalMode homeAnswers).directRemoteConnected = false := by
    unfold restoreLocalMode
    split
    · rfl
    · dsimp only
      split
      · rfl
      · split <;> rfl
  unfold severConnections disconnectRemote severs
  cases slots.activeRoute with
  | none => cases flag : slots.directRemoteConnected <;> simp [flag]
  | some route => simp [unflagged]

theorem Wired.connect_iff (wired : slots.Wired) (unrouted : slots.activeRoute = none)
    {sess : SessionInfo} {endpoint : Option DaemonEndpoint} :
    (slots.connectDirectSession sess endpoint connects homeAnswers).1.Wired ↔
      ∀ remote ∈ endpoint, slots.LocalRestored remote connects homeAnswers := by
  unfold connectDirectSession
  cases endpoint with
  | none => exact iff_of_true wired (by simp)
  | some endpoint =>
    simp only [Option.mem_some_iff, forall_eq']
    unfold LocalRestored
    cases isLocal : endpoint.isLocal with
    | false =>
      refine iff_of_true ?_ (by simp)
      rw [if_neg (by simp)]
      cases connects with
      | true => exact wired.attachable.direct unrouted isLocal
      | false => exact wired
    | true =>
      simp only [true_implies, Bool.true_and]
      cases restores : slots.suspendedLocal.isSome || slots.isLocalDaemon with
      | true => exact wired.restore_iff
      | false =>
        simp only [Bool.or_eq_false_iff, Option.isSome_eq_false_iff, Option.isNone_iff_eq_none] at restores
        cases connects with
        | true =>
          exact iff_of_false (not_wired_direct_local isLocal restores.1 restores.2) (by simp)
        | false => exact iff_of_true wired (by simp)

theorem Wired.stranded_connect_iff (wired : slots.Wired) (away : slots.isLocalDaemon = false)
    {sess : SessionInfo} {endpoint : Option DaemonEndpoint} :
    (slots.stranded.connectDirectSession sess endpoint connects homeAnswers).1.Wired ↔
      connects = true ∧ ∃ remote ∈ endpoint, remote.isLocal = false := by
  have stranded := wired.stranded away
  unfold connectDirectSession
  cases endpoint with
  | none => exact iff_of_false stranded (by simp)
  | some endpoint =>
    have stays : (endpoint.isLocal && (slots.stranded.suspendedLocal.isSome || slots.stranded.isLocalDaemon)) = false := by
      have same : slots.stranded.isLocalDaemon = slots.isLocalDaemon := rfl
      have none : slots.stranded.suspendedLocal = none := rfl
      simp [same, none, away]
    simp only [Option.mem_some_iff, exists_eq_left']
    rw [if_neg (by simp [stays])]
    cases connects with
    | false => exact iff_of_false stranded (by simp)
    | true =>
      cases isLocal : endpoint.isLocal with
      | true =>
        have presented := @not_wired_direct_local slots.stranded endpoint homeAnswers isLocal rfl away sess
        exact iff_of_false presented (by simp)
      | false =>
        exact iff_of_true ((wired.attachable.stranded away).direct rfl isLocal) ⟨rfl, rfl⟩

theorem unrouted_of_unsevered (stays : slots.severs = false) : slots.activeRoute = none := by
  simp only [severs, Bool.or_eq_false_iff, Option.isSome_eq_false_iff, Option.isNone_iff_eq_none] at stays
  exact stays.1

theorem Wired.connectKeeps_iff (wired : slots.Wired) {sess : SessionInfo} {endpoint : Option DaemonEndpoint} :
    ((slots.severConnections homeAnswers).connectDirectSession sess endpoint connects
      homeAnswers).1.Wired ↔ slots.ConnectKeeps endpoint connects homeAnswers := by
  rw [severConnections_eq]
  unfold ConnectKeeps
  cases severed : slots.severs with
  | false => exact wired.connect_iff (unrouted_of_unsevered severed)
  | true =>
    simp only [if_true]
    cases reachable : slots.homeReachable homeAnswers with
    | true =>
      obtain ⟨restored, isLocal⟩ := wired.restore reachable
      refine iff_of_true ((restored.connect_iff (restored.home_of_local isLocal).2.2.2.2.2.2).mpr ?_) (.inl rfl)
      intro remote _ _
      rw [isLocal, Bool.or_true, if_pos rfl]
      simp [homeReachable, isLocal]
    | false =>
      have away := reachable
      simp only [homeReachable, Bool.or_eq_false_iff] at away
      rw [restore_of_unreachable reachable, wired.stranded_connect_iff away.1.1]
      simp

theorem Wired.sever_iff (wired : slots.Wired) : (slots.severConnections homeAnswers).Wired ↔
      (slots.severs = true → slots.homeReachable homeAnswers = true) := by
  rw [severConnections_eq]
  cases slots.severs with
  | true => simpa using wired.restore_iff
  | false => simpa using wired

theorem connect_failed_severed {sess : SessionInfo} {endpoint : DaemonEndpoint}
    (failed : ((slots.severConnections homeAnswers).connectDirectSession sess (some endpoint) connects
      homeAnswers).2 ≠ .connected) :
    (((slots.severConnections homeAnswers).connectDirectSession sess (some endpoint) connects
      homeAnswers).1).severConnections homeAnswers =
    ((slots.severConnections homeAnswers).connectDirectSession sess (some endpoint) connects homeAnswers).1 := by
  have settled : (slots.severConnections homeAnswers).severs = false := by
    rw [severConnections_eq]
    cases severed : slots.severs with
    | false => simpa using severed
    | true =>
      rw [if_pos rfl]
      unfold restoreLocalMode
      split
      · rfl
      · dsimp only
        split
        · rfl
        · split <;> rfl
  unfold connectDirectSession at failed ⊢
  dsimp only at failed ⊢
  split
  · rename_i restores
    rw [if_pos restores] at failed
    exact absurd rfl failed
  · rename_i attaches
    rw [if_neg attaches] at failed
    cases connects with
    | true => exact absurd rfl failed
    | false =>
      rw [if_neg (by simp), severConnections_eq, settled]
      rfl

theorem Wired.activate_iff (wired : slots.Wired) {sess : SessionInfo} {endpoint : Option DaemonEndpoint} {output : Bool} :
    (slots.activateSessionTarget sess endpoint connects output homeAnswers).Wired ↔
      slots.Keeps (.activateSessionTarget sess endpoint connects output homeAnswers) := by
  unfold activateSessionTarget Keeps
  cases endpoint with
  | none =>
    simp only [Option.isSome_none, Bool.false_eq_true, if_false, connectDirectSession, reduceCtorEq]
    cases output with
    | true => simpa using wired.sever_iff
    | false => simpa using wired
  | some endpoint =>
    simp only [Option.isSome_some, if_true]
    rw [← @Wired.connectKeeps_iff slots homeAnswers connects wired sess (some endpoint)]
    split
    · rfl
    · rename_i failed
      rw [connect_failed_severed failed, ite_self]

theorem Wired.playRouted_iff (wired : slots.Wired) {resolved : Option (String × DaemonEndpoint)} :
    (slots.playRouted resolved connects homeAnswers).Wired ↔ slots.Keeps (.playRouted resolved connects homeAnswers) := by
  unfold playRouted Keeps
  cases route : slots.activeRoute with
  | none => simpa using wired
  | some active =>
    have away : slots.isLocalDaemon = false := by
      cases isLocal : slots.isLocalDaemon with
      | false => rfl
      | true =>
        have none := (wired.home_of_local isLocal).2.2.2.2.2.2
        rw [route] at none
        cases none
    have unlabelled : slots.directRemoteLabel = none := by
      have described := wired.described
      unfold Described at described
      split at described
      · exact described.2.2.1
      · exact described.2.2.1
      · rw [described.2.2.2.2] at route
        cases route
      · exact described.2.2.1
    simp only [Option.isNone_some, Bool.false_eq_true, if_false, Option.isSome_some, true_implies]
    unfold applyRouteForPlayback
    cases resolved with
    | none =>
      simp only [route, Option.isSome_some, if_true]
      rw [wired.restore_iff]
      simp
    | some resolved =>
      obtain ⟨library, endpoint⟩ := resolved
      simp only [Option.mem_some_iff, exists_eq_left', forall_eq', route, Option.some.injEq, Option.isSome_some]
      by_cases same : active = library
      · rw [if_pos same]
        exact iff_of_true wired (.inl same)
      · rw [if_neg same]
        unfold connectPlaybackRoute LocalRestored
        simp only [same, false_or, away, Bool.or_false, if_true]
        cases isLocal : endpoint.isLocal with
        | false =>
          cases connects with
          | true => simpa using wired.attachable.routed unlabelled isLocal
          | false => simpa using wired.restore_iff
        | true =>
          cases suspended : slots.suspendedLocal with
          | some home => simpa using wired.restore_iff
          | none =>
            cases connects with
            | true => simpa using not_wired_route_local isLocal suspended away
            | false => simpa using wired.restore_iff

theorem Wired.reconnectRoute_iff (wired : slots.Wired) {library : String} :
    (slots.reconnectLibraryRoute library endpoint connects homeAnswers).Wired ↔
      slots.Keeps (.reconnectLibraryRoute library endpoint connects homeAnswers) := by
  unfold reconnectLibraryRoute connectPlaybackRoute Keeps LocalRestored
  cases isLocal : endpoint.isLocal with
  | false =>
    cases connects with
    | true => simpa [isLocal] using wired.routed_iff isLocal
    | false => simpa [isLocal] using wired
  | true =>
    cases restores : slots.suspendedLocal.isSome || slots.isLocalDaemon with
    | true => simpa [restores, isLocal] using wired.restore_iff
    | false =>
      have free := restores
      simp only [Bool.or_eq_false_iff, Option.isSome_eq_false_iff, Option.isNone_iff_eq_none] at free
      cases connects with
      | true => simpa [restores, isLocal] using not_wired_route_local isLocal free.1 free.2
      | false => simpa [restores, isLocal] using wired

theorem Wired.lose (wired : slots.Wired) : slots.losePlayer.Wired :=
  ⟨wired.named, wired.viewed, wired.home, wired.suspended, wired.toreDown, wired.described⟩

theorem Wired.unsuspend (wired : slots.Wired) : { slots with suspendedLocal := none }.Wired :=
  ⟨wired.named, wired.viewed, fun isLocal => ⟨rfl, (wired.home isLocal).2⟩, by simp, wired.toreDown, wired.described⟩

theorem Wired.loseHome (wired : slots.Wired) : slots.loseHomeLink.Wired := by
  refine ⟨wired.named, wired.viewed, ?_, ?_, wired.toreDown, wired.described⟩
  · intro isLocal
    obtain ⟨suspended, view⟩ := wired.home isLocal
    exact ⟨by simp [loseHomeLink, suspended], view⟩
  · intro lost member
    obtain ⟨home, held, rfl⟩ := Option.map_eq_some_iff.mp member
    exact wired.suspended home held

theorem Wired.reattach_iff (wired : slots.Wired) (away : slots.isLocalDaemon = false) :
    (slots.attachReattachedDaemon slots.player.endpoint).Wired ↔ slots.directRemoteConnected = true := by
  have isRemote : slots.player.endpoint.isLocal = false := wired.isLocalDaemon_eq ▸ away
  have before := wired.described
  constructor
  · intro reattached
    have after := reattached.described
    unfold Described at before after
    have same : (slots.attachReattachedDaemon slots.player.endpoint).attachment = slots.attachment := rfl
    rw [same] at after
    cases kind : slots.attachment with
    | home => rw [kind] at after; exact absurd after.2.1 (by simp [attachReattachedDaemon])
    | launched => rw [kind] at after; exact absurd after.2.1 (by simp [attachReattachedDaemon])
    | session sess => rw [kind] at before; exact before.2.1
    | route library => rw [kind] at after; exact absurd after.2.1 (by simp [attachReattachedDaemon])
  · intro direct
    refine ⟨rfl, ⟨fun _ => rfl, fun _ => isRemote⟩, ?_, wired.suspended, ?_, ?_⟩
    · intro isLocal
      exact absurd (isRemote.symm.trans isLocal) (by simp)
    · exact toreDown_disconnect wired.toreDown
    · unfold Described at before ⊢
      have same : (slots.attachReattachedDaemon slots.player.endpoint).attachment =
          slots.attachment := rfl
      rw [same]
      cases kind : slots.attachment with
      | home => rw [kind] at before; exact absurd direct (by simp [before.2.1])
      | launched => rw [kind] at before; exact absurd direct (by simp [before.2.1])
      | session sess => rw [kind] at before; exact ⟨isRemote, rfl, before.2.2⟩
      | route library => rw [kind] at before; exact absurd direct (by simp [before.2.1])

theorem Wired.remoteDisconnected_iff (wired : slots.Wired) {reattaches : Bool} :
    (slots.handleRemoteDisconnected reattaches homeAnswers).Wired ↔
      slots.Keeps (.remoteDisconnected reattaches homeAnswers) := by
  have same : slots.losePlayer.isLocalDaemon = slots.isLocalDaemon := rfl
  unfold handleRemoteDisconnected Keeps
  dsimp only
  rw [same]
  cases isLocal : slots.isLocalDaemon with
  | true => simpa using wired.lose.unsuspend
  | false =>
    have isRemote : slots.player.endpoint.isLocal = false := wired.isLocalDaemon_eq ▸ isLocal
    have named : slots.losePlayer.playerEndpoint = some slots.player.endpoint := wired.named
    have reachable : slots.losePlayer.homeReachable homeAnswers = slots.homeReachable homeAnswers := rfl
    simp only [Bool.false_eq_true, if_false, true_implies, tryReattachRemoteDaemon, named, isRemote, Bool.false_or]
    cases tried : slots.autoReconnect && reattaches with
    | true =>
      have both : slots.losePlayer.autoReconnect = true ∧ reattaches = true := by
        simpa [losePlayer] using tried
      simp only [both.1, both.2, Bool.not_true, Bool.or_self, Bool.false_eq_true, if_false, Option.getD_some, if_true]
      exact wired.lose.reattach_iff isLocal
    | false =>
      have either : (!slots.losePlayer.autoReconnect || !reattaches) = true := by
        have flag : slots.losePlayer.autoReconnect = slots.autoReconnect := rfl
        rw [flag]
        cases flag : slots.autoReconnect <;> simp_all
      simp only [either, if_true, Option.getD_none, Bool.false_eq_true, if_false]
      rw [wired.lose.restore_iff, reachable]

theorem Wired.shutdownAnnounced_iff (wired : slots.Wired) {fromHomeLink : Bool} :
    (slots.handleDaemonShutdownAnnounced fromHomeLink homeAnswers).Wired ↔
      slots.Keeps (.shutdownAnnounced fromHomeLink homeAnswers) := by
  unfold handleDaemonShutdownAnnounced Keeps
  cases fromHomeLink with
  | true => simpa using wired.unsuspend
  | false =>
    have same : slots.losePlayer.isLocalDaemon = slots.isLocalDaemon := rfl
    have reachable : slots.losePlayer.homeReachable homeAnswers = slots.homeReachable homeAnswers := rfl
    simp only [Bool.false_eq_true, if_false, Bool.false_or, true_implies, same]
    cases isLocal : slots.isLocalDaemon with
    | true =>
      have found : slots.homeReachable homeAnswers = true := by simp [homeReachable, isLocal]
      simpa [found] using wired.lose.unsuspend
    | false =>
      rw [← reachable]
      simpa using wired.lose.restore_iff

theorem Wired.finish_of_prepared (wired : slots.Wired) {home : Link} {nextLink : Nat} (isHome : home.endpoint.isLocal = true) :
    ({ slots with suspendedLocal := none, nextLink := nextLink }.disconnectPlayer.installSuspendedLocal
      home).finishLocalMode.Wired :=
  ⟨congrArg some (eq_local isHome).symm, by simp [finishLocalMode, installSuspendedLocal, isHome],
    fun _ => ⟨rfl, rfl⟩, (fun _ none => by cases none), toreDown_disconnect wired.toreDown, ⟨isHome, rfl, rfl, rfl, rfl⟩⟩

theorem Wired.playPendingLocalPlay (wired : slots.Wired) {prepares : Bool} : (slots.playPendingLocalPlay prepares).Wired := by
  unfold Slots.playPendingLocalPlay prepareLocalPlayer
  cases isLocal : slots.isLocalDaemon with
  | true =>
    have finished := wired.finish_of_local isLocal
    simpa [finished] using wired
  | false =>
    simp only [Bool.false_eq_true, if_false]
    cases alive : slots.suspendedLocal.filter fun suspended => !suspended.disconnected with
    | some home =>
      have held : slots.suspendedLocal = some home := (Option.filter_eq_some_iff.mp alive).1
      exact wired.finish_of_prepared (wired.suspended home held)
    | none =>
      cases prepares with
      | true => exact wired.finish_of_prepared rfl
      | false => exact wired.unsuspend

theorem prepare_refused_iff {prepares : Bool} (failed : (slots.prepareLocalPlayer prepares).2 = .error ()) :
    slots.playPendingLocalPlay prepares = slots ↔ slots.Keeps (.playPendingLocalPlay prepares) := by
  unfold Slots.playPendingLocalPlay Keeps
  simp only [failed]
  unfold prepareLocalPlayer at failed ⊢
  cases isLocal : slots.isLocalDaemon with
  | true => simp [isLocal] at failed
  | false =>
    simp only [isLocal, Bool.false_eq_true, if_false] at failed ⊢
    cases alive : slots.suspendedLocal.filter fun suspended => !suspended.disconnected with
    | some home => simp [alive] at failed
    | none =>
      cases prepares with
      | true => simp [alive] at failed
      | false =>
        cases held : slots.suspendedLocal with
        | none =>
          refine iff_of_true ?_ (by simp)
          simp only [Bool.false_eq_true, if_false]
          rw [← held]
        | some home =>
          rw [held] at alive
          have dead : home.disconnected = true := by simpa [Option.filter] using alive
          refine iff_of_false ?_ (by simp [dead])
          intro same
          have emptied := congrArg Slots.suspendedLocal same
          simp [held] at emptied

theorem not_refused_of_keeps {prepares : Bool} (away : ¬ slots.Keeps (.playPendingLocalPlay prepares)) :
    (slots.prepareLocalPlayer prepares).2 = .error () := by
  simp only [Keeps, Classical.not_imp, not_forall] at away
  obtain ⟨isLocal, silent, home, held, dead⟩ := away
  have gone : (slots.suspendedLocal.filter fun suspended => !suspended.disconnected) = none := by
    rw [Option.mem_def.mp held]
    simpa [Option.filter] using dead
  unfold prepareLocalPlayer
  simp [isLocal, silent, gone]

/-! ### Refused connects -/

theorem Wired.sever_of_local (wired : slots.Wired) (isLocal : slots.isLocalDaemon = true) :
    slots.severConnections homeAnswers = slots := by
  rw [severConnections_eq, wired.restore_of_local isLocal, ite_self]

theorem Wired.connect_refused (wired : slots.Wired) (isLocal : slots.isLocalDaemon = true)
    {sess : SessionInfo} {endpoint : Option DaemonEndpoint} :
    (slots.connectDirectSession sess endpoint false homeAnswers).1 = slots := by
  unfold connectDirectSession
  cases endpoint with
  | none => rfl
  | some endpoint =>
    dsimp only
    split
    · exact wired.restore_of_local isLocal
    · rfl

theorem Wired.activate_refused (wired : slots.Wired) (isLocal : slots.isLocalDaemon = true)
    {sess : SessionInfo} {endpoint : Option DaemonEndpoint} {output : Bool} :
    slots.activateSessionTarget sess endpoint false output homeAnswers = slots := by
  unfold activateSessionTarget
  simp only [wired.sever_of_local isLocal, ite_self, wired.connect_refused isLocal]

theorem Wired.playRouted_refused (wired : slots.Wired) (isLocal : slots.isLocalDaemon = true)
    {resolved : Option (String × DaemonEndpoint)} :
    slots.playRouted resolved connects homeAnswers = slots := by
  unfold playRouted
  rw [if_pos (by simp [(wired.home_of_local isLocal).2.2.2.2.2.2])]

theorem Wired.reconnectRoute_refused (wired : slots.Wired) (isLocal : slots.isLocalDaemon = true) {library : String} :
    slots.reconnectLibraryRoute library endpoint false homeAnswers = slots := by
  unfold reconnectLibraryRoute connectPlaybackRoute
  split
  · exact wired.restore_of_local isLocal
  · rfl

/-! ### Any run -/

theorem Wired.promise_iff (wired : slots.Wired) (event : SlotsEvent) : slots.Promise event ↔ slots.Keeps event := by
  have plain (unrefused : slots.Refused event → slots.step event = slots)
      (same : (slots.step event).Wired ↔ slots.Keeps event) : slots.Promise event ↔ slots.Keeps event :=
    ⟨fun promise => same.mp promise.wired, fun keeps => ⟨same.mpr keeps, unrefused⟩⟩
  cases event with
  | connectToSession sess endpoint connects homeAnswers =>
    refine plain ?_ wired.connectKeeps_iff
    rintro ⟨isLocal, rfl⟩
    simp only [step, Slots.connectToSession, wired.sever_of_local isLocal, wired.connect_refused isLocal]
  | activateSessionTarget sess endpoint connects output homeAnswers =>
    refine plain ?_ wired.activate_iff
    rintro ⟨isLocal, rfl⟩
    exact wired.activate_refused isLocal
  | selectCastReceiver homeAnswers => exact plain nofun wired.sever_iff
  | playRouted resolved connects homeAnswers =>
    exact plain (fun refused => wired.playRouted_refused refused.1) wired.playRouted_iff
  | reconnectLibraryRoute library endpoint connects homeAnswers =>
    refine plain ?_ wired.reconnectRoute_iff
    rintro ⟨isLocal, rfl⟩
    exact wired.reconnectRoute_refused isLocal
  | remoteDisconnected reattaches homeAnswers => exact plain nofun wired.remoteDisconnected_iff
  | shutdownAnnounced fromHomeLink homeAnswers => exact plain nofun wired.shutdownAnnounced_iff
  | loseHomeLink => exact plain nofun (iff_of_true wired.loseHome trivial)
  | drainHomeDisconnect => exact plain nofun (iff_of_true wired.unsuspend trivial)
  | disconnectRemote homeAnswers =>
    refine plain nofun ?_
    unfold step Slots.disconnectRemote Keeps
    cases slots.directRemoteConnected with
    | true => simpa using wired.restore_iff
    | false => simpa using wired
  | restoreLocalMode homeAnswers => exact plain nofun wired.restore_iff
  | playPendingLocalPlay prepares =>
    constructor
    · intro promise
      refine Classical.byContradiction fun fails => ?_
      have failed := not_refused_of_keeps fails
      exact fails ((prepare_refused_iff failed).mp (promise.refused failed))
    · intro keeps
      exact ⟨wired.playPendingLocalPlay, fun failed => (prepare_refused_iff failed).mpr keeps⟩

theorem launch_wired {autoReconnect : Bool} : (launch endpoint autoReconnect).Wired := by
  cases isLocal : endpoint.isLocal with
  | true =>
    refine ⟨rfl, ?_, ?_, (fun _ none => by cases none), (List.forall_mem_nil _), ?_⟩
    · simp [launch, isLocal]
    · simp [launch, isLocal]
    · simp [Described, launch, isLocal]
  | false =>
    refine ⟨rfl, ?_, ?_, (fun _ none => by cases none), (List.forall_mem_nil _), ?_⟩
    · simp [launch, isLocal]
    · simp [launch, isLocal]
    · simp [Described, launch, isLocal]

end Slots

/-- From any launch, whatever the connects answer and whenever links drop, the slots describe one
    attachment after every step exactly when every step is taken under its condition. -/
theorem slots_describe_one_attachment_iff (endpoint : DaemonEndpoint) (autoReconnect : Bool)
    (events : List SlotsEvent) :
    slotsMachine.Along Slots.Promise (Slots.launch endpoint autoReconnect) events ↔
      slotsMachine.Along Slots.Keeps (Slots.launch endpoint autoReconnect) events :=
  Machine.along_iff
    (fun _ event wired keeps => ((wired.promise_iff event).mpr keeps).wired)
    (fun _ event wired => wired.promise_iff event)
    Slots.launch_wired

def routedThenDropped : List SlotsEvent :=
  [.reconnectLibraryRoute "music" (.tcp "peer:8810") true true, .remoteDisconnected true true]

/-- A routed owner that comes back after a drop is a direct session too. -/
theorem reattached_route_is_direct :
    let slots := slotsMachine.run (Slots.launch .localDaemon true) routedThenDropped
    (slots.activeRoute = some "music" ∧ slots.directRemoteConnected = true) ∧
      ¬ slotsMachine.Along Slots.Promise (Slots.launch .localDaemon true) routedThenDropped := by
  refine ⟨by decide, ?_⟩
  rintro ⟨-, dropped, -⟩
  have described := dropped.wired.described
  exact absurd described.2.1 (by decide)

end Mbv.Client.AttachmentSlots
