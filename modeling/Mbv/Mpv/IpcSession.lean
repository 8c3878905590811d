import Mbv.Mpv.Events
import Mbv.Sequence.Delimited

/-! The session over mpv's IPC socket: one reader for replies and events. -/

namespace Mbv.Mpv

open Delimited

inductive MpvError where
  | io (text : String)
  | reply (text : String)
  | timeout
  | closed
  | decode (text : String)

def MpvError.toString : MpvError → String
  | .io text => "mpv IPC socket I/O failed: " ++ text
  | .reply text => "mpv rejected a command: " ++ text
  | .timeout => "mpv did not reply in time"
  | .closed => "mpv closed the IPC socket"
  | .decode text => "mpv IPC line does not decode: " ++ text

inductive Liveness where
  | opened
  | quitting
  | peerClosed
  | peerClosedAfterQuit
  | ended
deriving DecidableEq

def Liveness.isOpen : Liveness → Bool
  | .opened | .quitting => true
  | _ => false

/-- `stream` is what mpv writes and nobody has read yet; `received` does not yet end in a newline. -/
structure IpcSession where
  stream : List UInt8
  received : List UInt8 := []
  events : List MpvEvent := []
  liveness : Liveness := .opened
  nextRequestId : Nat := 1

inductive ReadEnd where
  | wouldBlock
  | closed
  | failed (error : String)
deriving DecidableEq

/-- The sizes of the reads until one does not give bytes. Before a peer that is gone is noticed, all it
    wrote is read. -/
structure Reading where
  cuts : List Nat
  ends : ReadEnd := .wouldBlock

def Value.requestId (value : Value) : Option Nat :=
  ((value.get "request_id").bind Value.asU64).map UInt64.toNat

def replyData (reply : Value) : Except MpvError Value :=
  let error := ((reply.get "error").bind Value.asStr).getD "no error field"
  if error = "success" then .ok ((reply.get "data").getD .null) else .error (.reply error)

namespace IpcSession

def finishTimedOutRequest (s : IpcSession) : IpcSession :=
  let last := if s.liveness = .quitting then MpvEvent.shutdown else .failed .processExited
  { s with events := s.events ++ [last], liveness := .ended }

def writeCommand (command : List Value) (written : Except String Unit) (s : IpcSession) :
    Except MpvError Nat × IpcSession :=
  let id := s.nextRequestId
  let s := { s with nextRequestId := id + 1 }
  match written with
  | .error error => (.error (.io error), s)
  | .ok () =>
    let quits := command.head?.bind Value.asStr = some "quit" ∧ s.liveness = .opened
    (.ok id, if quits then { s with liveness := .quitting } else s)

def readChunk (s : IpcSession) (count : Nat) : IpcSession :=
  { s with stream := s.stream.drop count, received := s.received ++ s.stream.take count }

def readAvailable (reading : Reading) (s : IpcSession) : Except MpvError Unit × IpcSession :=
  if s.liveness.isOpen then
    let s := reading.cuts.foldl readChunk s
    match reading.ends with
    | .wouldBlock => (.ok (), s)
    | .failed error => (.error (.io error), s)
    | .closed =>
      let s := s.readChunk s.stream.length
      (.ok (), { s with
        liveness := if s.liveness = .quitting then .peerClosedAfterQuit else .peerClosed })
  else (.ok (), s)

/-- The first complete line, without its newline. -/
def takeLine (s : IpcSession) : Option (List UInt8 × IpcSession) :=
  (takeRecord 10 s.received).map fun taken => (taken.1, { s with received := taken.2 })

section Lines

variable (fromStr : String → Except String Value)

def acceptLine (awaiting : Option Nat) (line : List UInt8) (s : IpcSession) :
    Except MpvError (Option Value) × IpcSession :=
  match fromStr (fromUtf8Lossy line) with
  | .error error => (.error (.decode error), s)
  | .ok value =>
    if awaiting.isSome ∧ value.requestId = awaiting then ((replyData value).map some, s)
    else
      match MpvEvent.fromIpcValue value with
      | .error error => (.error (.decode error.toString), s)
      | .ok event => (.ok none, { s with events := s.events ++ [event] })

theorem acceptLine_received (awaiting : Option Nat) (line : List UInt8) (s : IpcSession) :
    (s.acceptLine fromStr awaiting line).2.received = s.received := by
  unfold acceptLine
  split
  · rfl
  · split
    · rfl
    · split <;> rfl

/-- The loop of `pump` over the complete lines. -/
def acceptLines (awaiting : Option Nat) (s : IpcSession) :
    Except MpvError (Option Value) × IpcSession :=
  match taken : s.takeLine with
  | none => (.ok none, s)
  | some (line, rest) =>
    match accepted : rest.acceptLine fromStr awaiting line with
    | (.ok none, s) => acceptLines awaiting s
    | (.ok (some data), s) => (.ok (some data), s)
    | (.error error, s) => (.error error, s)
termination_by s.received.length
decreasing_by
  have received := acceptLine_received fromStr awaiting line rest
  rw [accepted] at received
  obtain ⟨⟨line', rest'⟩, found, same⟩ := Option.map_eq_some_iff.mp taken
  cases same
  rw [received]
  exact takeRecord_length found

/-- The end event waits behind the lines that arrived before the end of the stream. -/
def queueEnd (s : IpcSession) : IpcSession :=
  match s.liveness with
  | .peerClosed =>
    { s with events := s.events ++ [.failed .processExited], liveness := .ended }
  | .peerClosedAfterQuit => { s with events := s.events ++ [.shutdown], liveness := .ended }
  | _ => s

def pump (awaiting : Option Nat) (reading : Reading) (s : IpcSession) :
    Except MpvError (Option Value) × IpcSession :=
  match s.readAvailable reading with
  | (.error error, s) => (.error error, s)
  | (.ok (), s) =>
    match s.acceptLines fromStr awaiting with
    | (.ok none, s) => (.ok none, s.queueEnd)
    | (.ok (some data), s) => (.ok (some data), s)
    | (.error error, s) => (.error error, s)

/-- `waits` are the waits for the socket within the request's time, each with the reads after it; when
    they are over, so is the time. -/
def awaitReply (id : Nat) : Reading → List (Except String Reading) → IpcSession →
    Except MpvError Value × IpcSession
  | reading, waits, s =>
    match s.pump fromStr (some id) reading with
    | (.error error, s) => (.error error, s)
    | (.ok (some data), s) => (.ok data, s)
    | (.ok none, s) =>
      if s.liveness.isOpen then
        match waits with
        | [] => (.error .timeout, s.finishTimedOutRequest)
        | .error error :: _ => (.error (.io error), s)
        | .ok reading :: waits => awaitReply id reading waits s
      else (.error .closed, s)

def request (command : List Value) (written : Except String Unit) (reading : Reading)
    (waits : List (Except String Reading)) (s : IpcSession) :
    Except MpvError Value × IpcSession :=
  match s.writeCommand command written with
  | (.error error, s) => (.error error, s)
  | (.ok id, s) => s.awaitReply fromStr id reading waits

def send (command : List Value) (written : Except String Unit) (s : IpcSession) :
    Except MpvError Unit × IpcSession :=
  match s.writeCommand command written with
  | (.error error, s) => (.error error, s)
  | (.ok _, s) => (.ok (), s)

def popFront (s : IpcSession) : Option MpvEvent × IpcSession :=
  (s.events.head?, { s with events := s.events.tail })

/-- A read or decode fault is delivered as a failure event. -/
def nextEvent (reading : Reading) (s : IpcSession) : Option MpvEvent × IpcSession :=
  if s.events.isEmpty then
    match s.pump fromStr none reading with
    | (.error error, s) =>
      let failed := MpvEvent.failed (.other error.toString)
      popFront { s with events := s.events ++ [failed] }
    | (.ok _, s) => s.popFront
  else s.popFront

end Lines

end IpcSession

end Mbv.Mpv
