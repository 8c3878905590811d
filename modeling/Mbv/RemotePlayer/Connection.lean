import Mbv.Machine.Run
import Mathlib.Data.List.Perm.Basic

namespace Mbv.RemotePlayer

/-! ### The end of a remote connection

The reader thread, the writer thread and the callers of the player share the cells of the
connection. A step is one access of a thread to the cells that both threads or the callers touch. -/

inductive DisconnectReason where
  | takenOverByEmbyRemote
  | daemonShutdown
  | exclusiveOwner (pid : Nat)
  | ownerShuttingDown

def disconnectReasonMessage : DisconnectReason → String
  | .takenOverByEmbyRemote => "Emby remote control took over — returned to local mode"
  | .daemonShutdown => "the daemon was stopped"
  | .exclusiveOwner _ => "the owner already has a client"
  | .ownerShuttingDown => "the owner is shutting down"

def connectionLostMessage : String := "Lost connection to the daemon's device"

/-- An event for the Client. What the owner's player reports is `observed`. -/
inductive PlayerEvent (π : Type*) where
  | observed (report : π)
  | unifiedQueueUpdated (unified : π)
  | queueOpResult (outcome : π)
  | commandRejected (reason : String)
  | playbackIntent (requestId : Nat)
  | pipePlaybackStatus (status : π)
  | remoteDisconnected (message : String)
  | embyAuthorityTaken (message : String)
  | daemonShutdownAnnounced
  | swapPrepare
  | swapQuit
  | audiobookshelfProgress (progress : π)
  | audiobookshelfBookProgress (progress : π)
  | playbackOutput (output : π)

inductive CtrlEvent (π : Type*) where
  | hello
  | player (event : PlayerEvent π)
  | statusOnly
  | disconnected (reason : DisconnectReason)
  | commandRejected (reason : String)
  | playbackIntent (requestId : Nat)
  | pipePlaybackStatus (status : π)
  | shutdownAccepted
  | shutdownRejected (reason : String)
  | serviceSetupApplied
  | serviceSetupRejected
  | swapPrepare
  | swapQuit
  | ownerActionAccepted
  | ownerActionRefused
  | unifiedQueueState (unified : π)
  | queueOpResult (applied : Option π) (outcome : π)
  | audiobookshelfProgress (progress : π)
  | audiobookshelfBookProgress (progress : π)
  | playbackOutput (output : π)

variable {π : Type*}

/-- What applying a daemon event sends to the Client. -/
def applyCtrlEvent : CtrlEvent π → List (PlayerEvent π)
  | .player event => [event]
  | .disconnected .takenOverByEmbyRemote =>
    [.embyAuthorityTaken (disconnectReasonMessage .takenOverByEmbyRemote)]
  | .commandRejected reason => [.commandRejected reason]
  | .playbackIntent requestId => [.playbackIntent requestId]
  | .pipePlaybackStatus status => [.pipePlaybackStatus status]
  | .queueOpResult applied outcome =>
    (applied.map PlayerEvent.unifiedQueueUpdated).toList ++ [.queueOpResult outcome]
  | .playbackOutput output => [.playbackOutput output]
  | .swapPrepare => [.swapPrepare]
  | .swapQuit => [.swapQuit]
  | .unifiedQueueState unified => [.unifiedQueueUpdated unified]
  | .audiobookshelfProgress progress => [.audiobookshelfProgress progress]
  | .audiobookshelfBookProgress progress => [.audiobookshelfBookProgress progress]
  | .hello | .statusOnly | .shutdownAccepted | .shutdownRejected _ | .serviceSetupApplied
  | .serviceSetupRejected | .ownerActionAccepted | .ownerActionRefused | .disconnected _ => []

def isStructuredDisconnect : CtrlEvent π → Bool
  | .disconnected .daemonShutdown => true
  | _ => false

def isEndNotice : PlayerEvent π → Bool
  | .remoteDisconnected _ | .daemonShutdownAnnounced => true
  | _ => false

/-- A line of the stream: text that is not UTF-8 ends the reading as the end of the stream does. -/
inductive Line (π : Type*) where
  | blank
  | undecodable
  | decoded (event : CtrlEvent π)
  | notUtf8

inductive ShutdownResponse where
  | accepted
  | rejected (reason : String)
  | disconnected

inductive CtrlCmd where
  | requestShutdown
  | playbackIntent (requestId : Nat)
  | other

/-- Where the reader stands: at its lines, or at its next access once the lines are over. -/
inductive Reader where
  | reading
  | disconnecting
  | clearing
  | resolving
  | announcing
  | notifying
  | ended
deriving DecidableEq

/-- Where the writer stands: at its commands, or at its next access once a write has failed. -/
inductive Writer where
  | writing
  | disconnecting
  | claiming
  | notifying
  | ended
deriving DecidableEq

/-- The cells, with the books a run keeps of them: the events decoded, the requests for a shutdown
    that took the slot before the reader ended, those their callers gave up, and the answers. -/
structure Connection (π : Type*) where
  reader : Reader := .reading
  outgoing : List (PlayerEvent π) := []
  expectedDisconnect : Bool := false
  writer : Writer := .writing
  commands : List CtrlCmd := []
  disconnected : Bool := false
  disconnectNotified : Bool := false
  shutdownAnnounced : Bool := false
  pendingPlayback : List Nat := []
  shutdownRequest : Option Nat := none
  events : List (PlayerEvent π) := []
  received : List (CtrlEvent π) := []
  requests : Nat := 0
  registered : List Nat := []
  givenUp : List Nat := []
  answers : List (Nat × ShutdownResponse) := []

inductive Input (π : Type*) where
  | line (line : Line π)
  | streamEnd
  | reader
  | write (sent : Bool)
  | writer
  | sendCtrlCmd
  | sendPlaybackIntent (requestId : Nat)
  | requestShutdown
  | requestTimedOut

namespace Connection

variable (s : Connection π)

def answer (response : ShutdownResponse) : Connection π :=
  match s.shutdownRequest with
  | some request =>
    { s with shutdownRequest := none, answers := s.answers ++ [(request, response)] }
  | none => s

def answerTo : CtrlEvent π → Connection π
  | .shutdownAccepted => s.answer .accepted
  | .shutdownRejected reason => s.answer (.rejected reason)
  | _ => s

def forget (event : CtrlEvent π) : List Nat :=
  match event with
  | .playbackIntent requestId => s.pendingPlayback.filter (· ≠ requestId)
  | _ => s.pendingPlayback

/-- The events of a line wait in `outgoing` until the reader sends them. -/
def handleRemoteLine (event : CtrlEvent π) : Connection π :=
  { s.answerTo event with
    expectedDisconnect := s.expectedDisconnect || isStructuredDisconnect event
    pendingPlayback := s.forget event
    outgoing := applyCtrlEvent event
    received := s.received ++ [event] }

def readLine (line : Line π) : Connection π :=
  if s.reader = .reading ∧ s.outgoing = [] then
    match line with
    | .blank | .undecodable => s
    | .decoded event => s.handleRemoteLine event
    | .notUtf8 => { s with reader := .disconnecting }
  else s

def streamEnd : Connection π :=
  if s.reader = .reading ∧ s.outgoing = [] then { s with reader := .disconnecting } else s

/-- An announced shutdown is sent whatever the flag says, and leaves the flag as it is. -/
def announce : Connection π :=
  if s.expectedDisconnect then
    { s with
      shutdownAnnounced := true
      events := s.events ++ [.daemonShutdownAnnounced]
      reader := .ended }
  else if s.disconnectNotified then { s with reader := .ended }
  else { s with disconnectNotified := true, reader := .notifying }

def readRemoteEvents : Connection π :=
  match s.reader with
  | .reading =>
    match s.outgoing with
    | [] => s
    | event :: outgoing => { s with events := s.events ++ [event], outgoing }
  | .disconnecting => { s with disconnected := true, reader := .clearing }
  | .clearing => { s with pendingPlayback := [], reader := .resolving }
  | .resolving => { s.answer .disconnected with reader := .announcing }
  | .announcing => s.announce
  | .notifying =>
    { s with
      events := s.events ++ [.remoteDisconnected connectionLostMessage]
      reader := .ended }
  | .ended => s

def write (sent : Bool) : Connection π :=
  match s.writer, s.commands with
  | .writing, _ :: commands =>
    if sent then { s with commands } else { s with commands, writer := .disconnecting }
  | _, _ => s

def writeRemoteCommands : Connection π :=
  match s.writer with
  | .writing | .ended => s
  | .disconnecting => { s with disconnected := true, writer := .claiming }
  | .claiming =>
    if s.disconnectNotified then { s with writer := .ended }
    else { s with disconnectNotified := true, writer := .notifying }
  | .notifying =>
    { s with
      events := s.events ++ [.remoteDisconnected connectionLostMessage]
      writer := .ended }

/-- The channel is closed once the writer has returned. -/
def sendCtrlCmd : Connection π :=
  if s.disconnected ∨ s.writer = .ended then s
  else { s with commands := s.commands ++ [.other] }

def sendPlaybackIntent (requestId : Nat) : Connection π :=
  if s.writer = .ended then
    { s with pendingPlayback := s.pendingPlayback.filter (· ≠ requestId) }
  else
    { s with
      pendingPlayback := requestId :: s.pendingPlayback
      commands := s.commands ++ [.playbackIntent requestId] }

def requestShutdown : Connection π :=
  let s' := { s with requests := s.requests + 1 }
  match s.shutdownRequest with
  | some _ =>
    { s' with
      answers := s.answers ++ [(s.requests, .rejected "shutdown request already in flight")] }
  | none =>
    if s.writer = .ended then { s' with answers := s.answers ++ [(s.requests, .disconnected)] }
    else
      { s' with
        shutdownRequest := some s.requests
        commands := s.commands ++ [.requestShutdown]
        registered :=
          if s.reader = .ended then s.registered else s.registered ++ [s.requests] }

def requestTimedOut : Connection π :=
  match s.shutdownRequest with
  | some request => { s with shutdownRequest := none, givenUp := s.givenUp ++ [request] }
  | none => s

def step : Input π → Connection π
  | .line line => s.readLine line
  | .streamEnd => s.streamEnd
  | .reader => s.readRemoteEvents
  | .write sent => s.write sent
  | .writer => s.writeRemoteCommands
  | .sendCtrlCmd => s.sendCtrlCmd
  | .sendPlaybackIntent requestId => s.sendPlaybackIntent requestId
  | .requestShutdown => s.requestShutdown
  | .requestTimedOut => s.requestTimedOut

end Connection

def connection : Machine (Connection π) (Input π) where
  step := Connection.step

end Mbv.RemotePlayer
