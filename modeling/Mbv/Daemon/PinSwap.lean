import Mbv.Daemon.QueueCommands
import Mbv.Machine.OneShot

namespace Mbv.Daemon

open OneShot (Desk Ending)
open Mbv.Player (Instant)

def swapDeadline : Nat := 10000000000

def busyMessage : String := "a panel swap is already running"

def openBusyMessage : String := "mbv is already opening"

def swapTokenEnv : String := "MBV_SWAP_TOKEN"

abbrev PendingSwapToken := Option String

namespace PendingSwapToken

def publish (_ : PendingSwapToken) (token : String) : PendingSwapToken := some token

def clear (_ : PendingSwapToken) : PendingSwapToken := none

def takeMatching (pending : PendingSwapToken) (candidate : Option String) :
    Bool × PendingSwapToken :=
  let matched := candidate.isSome && pending = candidate
  (matched, if matched then none else pending)

end PendingSwapToken

inductive LaunchKind where
  | swap
  | open
deriving DecidableEq

namespace LaunchKind

def busy : LaunchKind → String
  | .swap => busyMessage
  | .open => openBusyMessage

def timedOut : LaunchKind → String
  | .swap => "panel swap timed out; the old client stays attached"
  | .open => "opening mbv timed out"

def spawnFailed (program error : String) : LaunchKind → String
  | .swap => "panel swap could not start " ++ program ++ ": " ++ error
  | .open => "could not open mbv: could not start " ++ program ++ ": " ++ error

def childFailed : LaunchKind → String
  | .swap => "panel swap abandoned: the new client exited before attaching"
  | .open => "opening mbv failed: the new client exited before attaching"

end LaunchKind

inductive SwapDirection where
  | pin
  | unpin

structure Command where
  program : String
  arguments : List String := []
  environment : List (String × String) := []
deriving DecidableEq

def Command.env (command : Command) (key value : String) : Command :=
  { command with environment := command.environment ++ [(key, value)] }

abbrev SwapCommandHook := SwapDirection → Except String Command

inductive Phase where
  | idle
  | preparing (target : CtrlClientId) (command : Command) (deadline : Instant)
  | awaiting (target : Option CtrlClientId) (token : String) (deadline : Instant)
      (kind : LaunchKind)
deriving DecidableEq

inductive SwapMessage where
  | swapPrepare
  | swapQuit
deriving DecidableEq

structure Sent where
  launch : Nat
  client : CtrlClientId
  message : SwapMessage

structure Waiter where
  child : Command
  token : String

/-- The machine's own state, then what it did: the notifications, the tokens drawn, the children
    that run and the messages sent. The launches are numbered from one, and the last two fields say
    which token each of them published and how it ended. -/
structure PinSwapState where
  phase : Phase := .idle
  pendingToken : PendingSwapToken := none
  notified : List String := []
  drawn : Nat := 0
  children : List Waiter := []
  sent : List Sent := []
  launches : Nat := 0
  published : List (Nat × String) := []
  ended : List (Nat × Ending) := []

def CtrlClients.hasClient (registry : CtrlClients) (id : CtrlClientId) : Bool :=
  registry.connection.any fun client => client.id = id

namespace PinSwapState

variable (newV4 : Nat → String) (state : PinSwapState)

def notify (reason : String) : PinSwapState :=
  { state with notified := state.notified ++ [reason] }

def finish (ending : Ending) : PinSwapState :=
  { state with ended := state.ended ++ [(state.launches, ending)] }

def sendToClient (clients : CtrlClients) (client : CtrlClientId) (message : SwapMessage) :
    PinSwapState :=
  if clients.hasClient client then
    { state with
      sent := state.sent ++ [{ launch := state.launches, client := client, message := message }] }
  else state

/-- Notifies the user, spends any published token and returns to `idle`. -/
def abandon (reason : String) : PinSwapState :=
  { state.notify reason with
    pendingToken := state.pendingToken.clear
    phase := .idle }.finish .abandoned

/-- `spawned` is what the system answers to the spawn. -/
def spawnReplacement (command : Command) (target : Option CtrlClientId) (deadline : Instant)
    (kind : LaunchKind) (spawned : Except String Unit) : PinSwapState :=
  let token := newV4 state.drawn
  let state := { state with drawn := state.drawn + 1 }
  let command := command.env swapTokenEnv token
  match spawned with
  | .ok () =>
    { state with
      children := state.children ++ [{ child := command, token := token }]
      pendingToken := state.pendingToken.publish token
      phase := .awaiting target token deadline kind
      published := state.published ++ [(state.launches, token)] }
  | .error error => state.abandon (kind.spawnFailed command.program error)

def busy : String :=
  match state.phase with
  | .idle => busyMessage
  | .preparing .. => LaunchKind.swap.busy
  | .awaiting _ _ _ kind => kind.busy

def begin : PinSwapState := { state with launches := state.launches + 1 }

def resolveCommand (swapCommand : SwapCommandHook) (direction : SwapDirection) :
    Except String Command × PinSwapState :=
  match swapCommand direction with
  | .ok command => (.ok command, state)
  | .error reason => (.error reason, state.notify reason)

def directionAndTarget (clients : CtrlClients) : SwapDirection × Option CtrlClientId :=
  match newestSwapClient clients.connection .pinned with
  | some pinned => (.unpin, some pinned)
  | none => (.pin, newestSwapClient clients.connection .terminal)

def start (now : Instant) (clients : CtrlClients) (swapCommand : SwapCommandHook)
    (spawned : Except String Unit) : Except String Unit × PinSwapState :=
  if state.phase ≠ .idle then (.error state.busy, state)
  else
    let deadline := now + swapDeadline
    let (direction, target) := directionAndTarget clients
    match state.resolveCommand swapCommand direction with
    | (.error reason, state) => (.error reason, state)
    | (.ok command, state) =>
      match target with
      | some target =>
        (.ok (), { state.begin.sendToClient clients target .swapPrepare with
          phase := .preparing target command deadline })
      | none => (.ok (), state.begin.spawnReplacement newV4 command none deadline .swap spawned)

/-- The source's `open`: a fresh terminal Client, with no target and no effect on any other. -/
def openTerminal (now : Instant) (swapCommand : SwapCommandHook) (spawned : Except String Unit) :
    Except String Unit × PinSwapState :=
  if state.phase ≠ .idle then (.error state.busy, state)
  else
    match state.resolveCommand swapCommand .unpin with
    | (.error reason, state) => (.error reason, state)
    | (.ok command, state) =>
      (.ok (), state.begin.spawnReplacement newV4 command none (now + swapDeadline) .open spawned)

def onSwapPrepared (clientId : CtrlClientId) (spawned : Except String Unit) : PinSwapState :=
  match state.phase with
  | .preparing target command deadline =>
    if target = clientId then
      { state with phase := .idle }.spawnReplacement newV4 command (some target) deadline .swap
        spawned
    else state
  | .idle | .awaiting .. => state

def onClientLeft (clientId : CtrlClientId) : PinSwapState :=
  match state.phase with
  | .preparing target _ _ =>
    if target = clientId then
      state.abandon "panel swap abandoned: the client being replaced left"
    else state
  | .idle | .awaiting .. => state

def onChildExited (token : String) (success : Bool) : PinSwapState :=
  match state.phase with
  | .awaiting _ pending _ kind =>
    if pending ≠ token ∨ success then state else state.abandon kind.childFailed
  | .idle | .preparing .. => state

def poll (now : Instant) : PinSwapState :=
  match state.phase with
  | .idle => state
  | .preparing _ _ deadline =>
    if now < deadline then state else state.abandon LaunchKind.swap.timedOut
  | .awaiting _ _ deadline kind =>
    if now < deadline then state else state.abandon kind.timedOut

def onSwapAdmitted (token : String) (clients : CtrlClients) : PinSwapState :=
  match state.phase with
  | .awaiting target pending _ _ =>
    if pending = token then
      let state :=
        { state with pendingToken := state.pendingToken.clear, phase := .idle }.finish .completed
      match target with
      | some target =>
        if clients.hasClient target then state.sendToClient clients target .swapQuit else state
      | none => state
    else state
  | .idle | .preparing .. => state

end PinSwapState

inductive DisconnectReason where
  | ownerShuttingDown
  | exclusiveOwner

inductive AdmissionOutcome where
  | admitted
  | refused (reason : DisconnectReason)
  | admittedReplacement (token : String)

/-- The Hello that presents the pending token is the replacement attaching: it is admitted despite
    an attached Client, and the token is spent. -/
def sendAdmissionRefusal (clients : CtrlClients) (shuttingDown : Bool) (pending : PendingSwapToken)
    (role : DaemonRole) (transport : CtrlTransport) (stayAlive : Bool)
    (connectionRole : CtrlConnectionRole) (helloSwapToken : Option String) :
    AdmissionOutcome × PendingSwapToken :=
  if role = .local ∧ shuttingDown then (.refused .ownerShuttingDown, pending)
  else
    let claim :=
      if transport = .local ∧ connectionRole = .client then pending.takeMatching helloSwapToken
      else (false, pending)
    match claim, helloSwapToken with
    | (true, pending), some token => (.admittedReplacement token, pending)
    | (_, pending), _ =>
      if role = .local ∧ !stayAlive ∧ hasDriver clients.connection ∧ connectionRole = .client then
        (.refused .exclusiveOwner, pending)
      else (.admitted, pending)

inductive OwnerAction where
  | swapPanel
  | openTerminal
deriving DecidableEq

/-- The events of the merged channel that reach the machine. -/
inductive SwapEvent where
  | ownerAction (action : OwnerAction)
  | swapPrepared (client : CtrlClientId)
  | ctrlDisconnected (client : CtrlClientId)
  | pinSwapChildExited (token : String) (success : Bool)
  | pinSwapAdmitted (token : String)
deriving DecidableEq

/-- What the world answers while the loop handles one event. -/
structure Surroundings where
  now : Instant := 0
  swapCommand : SwapCommandHook
  spawned : Except String Unit := .ok ()

/-- The event loop's machine with the registry, the merged channel and the tokens that a Hello
    consumed so far. -/
structure PinSwapHub where
  swap : PinSwapState := {}
  clients : CtrlClients := {}
  shuttingDown : Bool := false
  channel : List SwapEvent := []
  consumed : List String := []

inductive PinSwapInput where
  /-- The Tray or an owner-action connection asks for a launch. -/
  | request (action : OwnerAction)
  /-- A Client answers `SwapPrepared`. -/
  | answer (client : CtrlClientId)
  /-- A connection thread admits a Hello, under the registry's lock. -/
  | hello (hello : Hello) (swapToken : Option String) (stayAlive : Bool)
  /-- A connection thread reads the end of its socket. -/
  | hangUp (client : CtrlClientId)
  /-- A broadcast drops the peers whose channel is gone. -/
  | broadcast (kind : Broadcast) (gone : List CtrlClientId)
  /-- A child exits, and its waiter reports. -/
  | childExits (token : String) (success : Bool)
  | beginShutdown
  /-- One pass of the loop checks the deadline. -/
  | tick (now : Instant)
  /-- The loop takes the next event. -/
  | handle (surroundings : Surroundings)

namespace PinSwapHub

variable (newV4 : Nat → String) (role : DaemonRole) (hub : PinSwapHub)

def post (event : SwapEvent) : PinSwapHub := { hub with channel := hub.channel ++ [event] }

def admitHello (hello : Hello) (swapToken : Option String) (stayAlive : Bool) : PinSwapHub :=
  let (outcome, pending) :=
    sendAdmissionRefusal hub.clients hub.shuttingDown hub.swap.pendingToken role hello.transport
      (role ≠ .local || stayAlive) hello.role swapToken
  let hub := { hub with swap := { hub.swap with pendingToken := pending } }
  match outcome with
  | .refused _ => hub
  | .admitted => { hub with clients := hub.clients.connectWithRole hello }
  | .admittedReplacement token =>
    { hub.post (.pinSwapAdmitted token) with
      consumed := hub.consumed ++ [token]
      clients := hub.clients.connectWithRole hello }

def handleEvent (surroundings : Surroundings) : SwapEvent → PinSwapHub
  | .ownerAction .swapPanel =>
    { hub with
      swap := (hub.swap.start newV4 surroundings.now hub.clients surroundings.swapCommand
        surroundings.spawned).2 }
  | .ownerAction .openTerminal =>
    { hub with
      swap := (hub.swap.openTerminal newV4 surroundings.now surroundings.swapCommand
        surroundings.spawned).2 }
  | .swapPrepared client =>
    { hub with swap := hub.swap.onSwapPrepared newV4 client surroundings.spawned }
  | .ctrlDisconnected client =>
    { hub with swap := hub.swap.onClientLeft client, clients := hub.clients.remove client }
  | .pinSwapChildExited token success =>
    { hub with swap := hub.swap.onChildExited token success }
  | .pinSwapAdmitted token => { hub with swap := hub.swap.onSwapAdmitted token hub.clients }

def step : PinSwapInput → PinSwapHub
  | .request action => hub.post (.ownerAction action)
  | .answer client => hub.post (.swapPrepared client)
  | .hello hello swapToken stayAlive => hub.admitHello role hello swapToken stayAlive
  | .hangUp client => hub.post (.ctrlDisconnected client)
  | .broadcast kind gone => { hub with clients := hub.clients.broadcast kind gone }
  | .childExits token success =>
    if hub.swap.children.any fun waiter => waiter.token = token then
      { hub with
        swap := { hub.swap with
          children := hub.swap.children.filter fun waiter => waiter.token ≠ token }
      }.post (.pinSwapChildExited token success)
    else hub
  | .beginShutdown => { hub with shuttingDown := true }
  | .tick now => { hub with swap := hub.swap.poll now }
  | .handle surroundings =>
    match hub.channel with
    | [] => hub
    | event :: rest => { hub with channel := rest }.handleEvent newV4 surroundings event

def machine : Machine PinSwapHub PinSwapInput := ⟨PinSwapHub.step newV4 role⟩

end PinSwapHub

end Mbv.Daemon
