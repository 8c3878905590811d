import Mbv.Machine.Run
import Mbv.Text

/-! The attachment slots of a Client with the endpoint itself, the direct label and every link that was
    replaced. `Client.Attachment` has the same functions over the queues the links carry. -/

namespace Mbv.Client.AttachmentSlots

inductive DaemonEndpoint where
  | localDaemon
  | unix (path : String)
  | tcp (addr : String)
deriving DecidableEq

def DaemonEndpoint.isLocal : DaemonEndpoint → Bool
  | .localDaemon => true
  | .unix _ => false
  | .tcp _ => false

/-- One connection. `disconnected` is the link's own flag, raised by a drop and by a disconnect. -/
structure Link where
  number : Nat
  endpoint : DaemonEndpoint
  disconnected : Bool := false

structure SessionInfo where
  id : String
  deviceName : String

def SessionInfo.label (sess : SessionInfo) : Option String :=
  let name := Text.trim sess.deviceName
  if name.isEmpty then none else some name

inductive Attachment where
  | home
  | launched
  | session (sess : SessionInfo)
  | route (library : String)

/-- `remoteView` is named by the link whose queue it took. `nextLink`, `replaced`, `toreDown` and
    `attachment` are a record beside the slots which no function reads. -/
structure Slots where
  player : Link
  playerEndpoint : Option DaemonEndpoint
  suspendedLocal : Option Link := none
  remoteView : Option Nat := none
  activeRoute : Option String := none
  directRemoteConnected : Bool := false
  directRemoteLabel : Option String := none
  directRemoteSessionId : Option String := none
  autoReconnect : Bool := false
  nextLink : Nat := 1
  replaced : List Link := []
  toreDown : List Nat := []
  attachment : Attachment := .home

namespace Slots

variable (slots : Slots)

def isLocalDaemon : Bool := slots.playerEndpoint = some .localDaemon

/-- The launch attaches to one endpoint; a remote one keeps a remote view. -/
def launch (endpoint : DaemonEndpoint) (autoReconnect : Bool) : Slots :=
  { player := ⟨0, endpoint, false⟩
    playerEndpoint := some endpoint
    remoteView := if endpoint.isLocal then none else some 0
    autoReconnect
    attachment := if endpoint.isLocal then .home else .launched }

/-! ### The links -/

/-- `PlayerProxy::disconnect_remote` on the current link. -/
def disconnectPlayer : Slots :=
  { slots with
    player := { slots.player with disconnected := true }
    toreDown := slots.toreDown ++ [slots.player.number] }

def nextLinkTo (endpoint : DaemonEndpoint) : Link := ⟨slots.nextLink, endpoint, false⟩

def replacePlayer (endpoint : DaemonEndpoint) : Slots :=
  { slots with
    player := slots.nextLinkTo endpoint
    nextLink := slots.nextLink + 1
    replaced := slots.replaced ++ [slots.player] }

def installSuspendedLocal (suspended : Link) : Slots :=
  { slots with
    player := suspended
    replaced := slots.replaced ++ [slots.player]
    playerEndpoint := some .localDaemon
    attachment := .home }

def finishLocalMode : Slots :=
  { slots with
    remoteView := none
    directRemoteConnected := false
    directRemoteLabel := none
    directRemoteSessionId := none
    activeRoute := none }

/-- `homeAnswers` says whether a connect to the local Owner's endpoint would succeed. -/
def restoreLocalMode (homeAnswers : Bool) : Slots :=
  if slots.isLocalDaemon && slots.suspendedLocal.isNone then slots.finishLocalMode
  else
    let left := { slots.disconnectPlayer with suspendedLocal := none }
    match slots.suspendedLocal.filter fun suspended => !suspended.disconnected with
    | some suspended => (left.installSuspendedLocal suspended).finishLocalMode
    | none =>
      if homeAnswers then
        finishLocalMode
          { left.replacePlayer .localDaemon with
            playerEndpoint := some .localDaemon
            attachment := .home }
      else left.finishLocalMode

def adoptOwnerQueue (endpoint : DaemonEndpoint) : Slots :=
  { slots with remoteView := if endpoint.isLocal then none else some slots.player.number }

def attachRemoteOwner (endpoint : DaemonEndpoint) (currentIsHome homeAnswers : Bool) : Slots × Bool :=
  if endpoint.isLocal && (slots.suspendedLocal.isSome || currentIsHome) then
    (restoreLocalMode
      { slots with nextLink := slots.nextLink + 1, toreDown := slots.toreDown ++ [slots.nextLink] }
      homeAnswers, false)
  else
    let named := { slots with playerEndpoint := some endpoint }
    let attached :=
      if currentIsHome then
        { named with
          suspendedLocal := some slots.player
          player := slots.nextLinkTo endpoint
          nextLink := slots.nextLink + 1 }
      else named.disconnectPlayer.replacePlayer endpoint
    (attached.adoptOwnerQueue endpoint, true)

def switchToDirectRemote (sess : SessionInfo) (endpoint : DaemonEndpoint) (homeAnswers : Bool) :
    Slots :=
  let attached := slots.attachRemoteOwner endpoint slots.isLocalDaemon homeAnswers
  if attached.2 then
    { attached.1 with
      directRemoteConnected := true
      directRemoteLabel := sess.label
      directRemoteSessionId := if endpoint.isLocal then none else some sess.id
      attachment := if endpoint.isLocal then .home else .session sess }
  else attached.1

def switchToLibraryRoute (library : String) (endpoint : DaemonEndpoint) (homeAnswers : Bool) : Slots :=
  let attached := slots.attachRemoteOwner endpoint slots.isLocalDaemon homeAnswers
  if attached.2 then
    { attached.1 with
      directRemoteConnected := false
      directRemoteSessionId := none
      activeRoute := some library
      attachment := if endpoint.isLocal then .home else .route library }
  else attached.1

/-! ### Severing and connecting -/

def disconnectRemote (homeAnswers : Bool) : Slots :=
  if slots.directRemoteConnected then slots.restoreLocalMode homeAnswers else slots

/-- The hand-back of the owner's output, which `sever_active_connection` adds, touches no slot. -/
def severConnections (homeAnswers : Bool) : Slots :=
  let unrouted := if slots.activeRoute.isSome then slots.restoreLocalMode homeAnswers else slots
  unrouted.disconnectRemote homeAnswers

inductive DirectConnect where
  | noEndpoint
  | connected
  | failed
deriving DecidableEq

/-- `endpoint` is what `session_direct_endpoint` finds, and `connects` whether it accepts. -/
def connectDirectSession (sess : SessionInfo) (endpoint : Option DaemonEndpoint)
    (connects homeAnswers : Bool) : Slots × DirectConnect :=
  match endpoint with
  | none => (slots, .noEndpoint)
  | some endpoint =>
    if endpoint.isLocal && (slots.suspendedLocal.isSome || slots.isLocalDaemon) then
      (slots.restoreLocalMode homeAnswers, .connected)
    else if connects then (slots.switchToDirectRemote sess endpoint homeAnswers, .connected)
    else (slots, .failed)

def connectToSession (sess : SessionInfo) (endpoint : Option DaemonEndpoint)
    (connects homeAnswers : Bool) : Slots :=
  ((slots.severConnections homeAnswers).connectDirectSession sess endpoint connects homeAnswers).1

/-- `output` says that the owner can select an Emby Session as its playback output. -/
def activateSessionTarget (sess : SessionInfo) (endpoint : Option DaemonEndpoint)
    (connects output homeAnswers : Bool) : Slots :=
  let severed := if endpoint.isSome then slots.severConnections homeAnswers else slots
  let tried := severed.connectDirectSession sess endpoint connects homeAnswers
  if tried.2 = .connected then tried.1
  else if output then tried.1.severConnections homeAnswers
  else tried.1

def connectPlaybackRoute (library : String) (endpoint : DaemonEndpoint)
    (wasRouted connects homeAnswers : Bool) : Slots :=
  if endpoint.isLocal && (slots.suspendedLocal.isSome || slots.isLocalDaemon) then
    slots.restoreLocalMode homeAnswers
  else if connects then slots.switchToLibraryRoute library endpoint homeAnswers
  else if wasRouted then slots.restoreLocalMode homeAnswers
  else slots

def applyRouteForPlayback (resolved : Option (String × DaemonEndpoint))
    (connects homeAnswers : Bool) : Slots :=
  match resolved with
  | some (library, endpoint) =>
    if slots.activeRoute = some library then slots
    else slots.connectPlaybackRoute library endpoint slots.activeRoute.isSome connects homeAnswers
  | none => if slots.activeRoute.isSome then slots.restoreLocalMode homeAnswers else slots

/-- `play_item` and `play_items_routed` bypass the route unless one is active. -/
def playRouted (resolved : Option (String × DaemonEndpoint)) (connects homeAnswers : Bool) : Slots :=
  if slots.activeRoute.isNone then slots
  else slots.applyRouteForPlayback resolved connects homeAnswers

/-- `reconnect_library_route`, with the route the library resolves to. -/
def reconnectLibraryRoute (library : String) (endpoint : DaemonEndpoint)
    (connects homeAnswers : Bool) : Slots :=
  slots.connectPlaybackRoute library endpoint false connects homeAnswers

/-! ### Drops -/

def attachReattachedDaemon (endpoint : DaemonEndpoint) : Slots :=
  let attached := { slots.disconnectPlayer.replacePlayer endpoint with playerEndpoint := some endpoint }
  { attached with remoteView := some attached.player.number, directRemoteConnected := true }

/-- `reattaches` says whether one of the attempts finds the daemon. -/
def tryReattachRemoteDaemon (reattaches : Bool) : Option Slots :=
  match slots.playerEndpoint with
  | none => none
  | some endpoint =>
    if endpoint.isLocal || !slots.autoReconnect || !reattaches then none
    else some (slots.attachReattachedDaemon endpoint)

def losePlayer : Slots := { slots with player := { slots.player with disconnected := true } }

/-- The modal that a lost local Owner raises changes no slot. -/
def handleRemoteDisconnected (reattaches homeAnswers : Bool) : Slots :=
  let lost := slots.losePlayer
  if lost.isLocalDaemon then { lost with suspendedLocal := none }
  else (lost.tryReattachRemoteDaemon reattaches).getD (lost.restoreLocalMode homeAnswers)

def handleDaemonShutdownAnnounced (fromHomeLink homeAnswers : Bool) : Slots :=
  let lost := if fromHomeLink then slots else slots.losePlayer
  if fromHomeLink || lost.isLocalDaemon then { lost with suspendedLocal := none }
  else lost.restoreLocalMode homeAnswers

def loseHomeLink : Slots :=
  { slots with suspendedLocal := slots.suspendedLocal.map fun home => { home with disconnected := true } }

def drainHomeDisconnect : Slots := { slots with suspendedLocal := none }

/-! ### The confirmed local fall-through -/

/-- A prepared local link, none when the Client is local already. `prepares` covers starting the local
    Owner and connecting to it. -/
def prepareLocalPlayer (prepares : Bool) : Slots × Except Unit (Option Link) :=
  if slots.isLocalDaemon then (slots, .ok none)
  else
    let taken := { slots with suspendedLocal := none }
    match slots.suspendedLocal.filter fun suspended => !suspended.disconnected with
    | some suspended => (taken, .ok (some suspended))
    | none =>
      if prepares then
        ({ taken with nextLink := slots.nextLink + 1 }, .ok (some (slots.nextLinkTo .localDaemon)))
      else (taken, .error ())

def playPendingLocalPlay (prepares : Bool) : Slots :=
  let prepared := slots.prepareLocalPlayer prepares
  match prepared.2 with
  | .error () => prepared.1
  | .ok none => prepared.1.finishLocalMode
  | .ok (some home) => (prepared.1.disconnectPlayer.installSuspendedLocal home).finishLocalMode

end Slots

/-! ### Any sequence of them -/

inductive SlotsEvent where
  | connectToSession (sess : SessionInfo) (endpoint : Option DaemonEndpoint)
      (connects homeAnswers : Bool)
  | activateSessionTarget (sess : SessionInfo) (endpoint : Option DaemonEndpoint)
      (connects output homeAnswers : Bool)
  | selectCastReceiver (homeAnswers : Bool)
  | playRouted (resolved : Option (String × DaemonEndpoint)) (connects homeAnswers : Bool)
  | reconnectLibraryRoute (library : String) (endpoint : DaemonEndpoint)
      (connects homeAnswers : Bool)
  | remoteDisconnected (reattaches homeAnswers : Bool)
  | shutdownAnnounced (fromHomeLink homeAnswers : Bool)
  | loseHomeLink
  | drainHomeDisconnect
  | disconnectRemote (homeAnswers : Bool)
  | restoreLocalMode (homeAnswers : Bool)
  | playPendingLocalPlay (prepares : Bool)

def Slots.step (slots : Slots) : SlotsEvent → Slots
  | .connectToSession sess endpoint connects homeAnswers =>
    slots.connectToSession sess endpoint connects homeAnswers
  | .activateSessionTarget sess endpoint connects output homeAnswers =>
    slots.activateSessionTarget sess endpoint connects output homeAnswers
  | .selectCastReceiver homeAnswers => slots.severConnections homeAnswers
  | .playRouted resolved connects homeAnswers => slots.playRouted resolved connects homeAnswers
  | .reconnectLibraryRoute library endpoint connects homeAnswers =>
    slots.reconnectLibraryRoute library endpoint connects homeAnswers
  | .remoteDisconnected reattaches homeAnswers =>
    slots.handleRemoteDisconnected reattaches homeAnswers
  | .shutdownAnnounced fromHomeLink homeAnswers =>
    slots.handleDaemonShutdownAnnounced fromHomeLink homeAnswers
  | .loseHomeLink => slots.loseHomeLink
  | .drainHomeDisconnect => slots.drainHomeDisconnect
  | .disconnectRemote homeAnswers => slots.disconnectRemote homeAnswers
  | .restoreLocalMode homeAnswers => slots.restoreLocalMode homeAnswers
  | .playPendingLocalPlay prepares => slots.playPendingLocalPlay prepares

def slotsMachine : Machine Slots SlotsEvent where
  step := Slots.step

end Mbv.Client.AttachmentSlots
