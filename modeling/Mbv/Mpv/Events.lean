import Mathlib.Algebra.Group.Nat.Defs
import Mathlib.Logic.Basic

/-! What a line of mpv's JSON IPC says. -/

namespace Mbv.Mpv

inductive Number where
  | posInt (n : UInt64)
  | negInt (n : Int64)
  | float (bits : UInt64)

inductive Value where
  | null
  | bool (b : Bool)
  | number (n : Number)
  | string (s : String)
  | array (items : List Value)
  | object (fields : List (String × Value))

namespace Value

def get (value : Value) (key : String) : Option Value :=
  match value with
  | .object fields => fields.lookup key
  | _ => none

def asObject : Value → Option (List (String × Value))
  | .object fields => some fields
  | _ => none

def asStr : Value → Option String
  | .string s => some s
  | _ => none

def asArray : Value → Option (List Value)
  | .array items => some items
  | _ => none

def asBool : Value → Option Bool
  | .bool b => some b
  | _ => none

def asU64 : Value → Option UInt64
  | .number (.posInt n) => some n
  | _ => none

def asI64 : Value → Option Int64
  | .number (.posInt n) => if n.toNat < 2 ^ 63 then some n.toInt64 else none
  | .number (.negInt n) => some n
  | _ => none

def asF64 : Value → Option Number
  | .number n => some n
  | _ => none

def isNull : Value → Bool
  | .null => true
  | _ => false

end Value

inductive EndFileReason where
  | eof
  | stop
  | quit
  | redirect

inductive PropertyValue where
  | double (n : Number)
  | flag (b : Bool)
  | int64 (n : Int64)
  | str (s : String)
  | none

inductive MpvFailure where
  | audioOutputInit
  | processExited
  | other (text : String)

inductive MpvEvent where
  | propertyChange (name : String) (value : PropertyValue)
  | playbackRestart
  | endFile (reason : EndFileReason)
  | failed (failure : MpvFailure)
  | logMessage (logPrefix level text : String)
  | clientMessage (args : List String)
  | shutdown
  | ignored

def audioOutputInitFailed : String := "audio output initialization failed"

inductive DecodeError where
  | notAnObject
  | missingField (event field : String)
  | unknownProperty (name : String)
  | badValue (name : String)

def DecodeError.toString : DecodeError → String
  | .notAnObject => "JSON value is not an object"
  | .missingField event field => event ++ " event has no usable `" ++ field ++ "` field"
  | .unknownProperty name => "unobserved property `" ++ name ++ "`"
  | .badValue name => "property `" ++ name ++ "` has a value of the wrong type"

section Decoder

variable (object : List (String × Value))

def strField (event field : String) : Except DecodeError String :=
  match (object.lookup field).bind Value.asStr with
  | some s => .ok s
  | none => .error (.missingField event field)

def clientMessageFromIpc : Except DecodeError MpvEvent :=
  match (object.lookup "args").bind Value.asArray with
  | none => .error (.missingField "client-message" "args")
  | some args =>
    match args.mapM Value.asStr with
    | none => .error (.missingField "client-message" "args")
    | some args => .ok (.clientMessage args)

def PropertyValue.fromIpc (name : String) (data : Value) : Except DecodeError PropertyValue :=
  let typed : Except DecodeError (Option PropertyValue) :=
    if name = "time-pos" ∨ name = "volume" then .ok (data.asF64.map .double)
    else if name = "pause" ∨ name = "mute" ∨ name = "current-tracks/video/image" then
      .ok (data.asBool.map .flag)
    else if name = "video-params/h" ∨ name = "playlist-pos" ∨ name = "playlist-count" then
      .ok (data.asI64.map .int64)
    else if name = "sid" ∨ name = "aid" ∨ name = "audio-codec-name" then
      .ok (data.asStr.map .str)
    else .error (.unknownProperty name)
  match typed with
  | .ok (some value) => .ok value
  | .ok Option.none => .error (.badValue name)
  | .error error => .error error

def propertyChangeFromIpc : Except DecodeError MpvEvent :=
  match strField object "property-change" "name" with
  | .error error => .error error
  | .ok name =>
    match (object.lookup "data").filter fun data => !data.isNull with
    | none => .ok (.propertyChange name .none)
    | some data =>
      match PropertyValue.fromIpc name data with
      | .ok value => .ok (.propertyChange name value)
      | .error error => .error error

def endFileFromIpc : Except DecodeError MpvEvent :=
  match strField object "end-file" "reason" with
  | .error error => .error error
  | .ok reason =>
    if reason = "eof" then .ok (.endFile .eof)
    else if reason = "stop" then .ok (.endFile .stop)
    else if reason = "quit" then .ok (.endFile .quit)
    else if reason = "redirect" then .ok (.endFile .redirect)
    else if reason = "error" then
      match strField object "end-file" "file_error" with
      | .error error => .error error
      | .ok text =>
        .ok (.failed (if text = audioOutputInitFailed then .audioOutputInit else .other text))
    else .ok (.failed (.other ("end-file reason " ++ reason)))

def logMessageFromIpc : Except DecodeError MpvEvent :=
  match strField object "log-message" "prefix", strField object "log-message" "level",
    strField object "log-message" "text" with
  | .ok logPrefix, .ok level, .ok text => .ok (.logMessage logPrefix level text)
  | .error error, _, _ => .error error
  | _, .error error, _ => .error error
  | _, _, .error error => .error error

end Decoder

/-- A line without an event (a reply) and an event nobody acts on are `ignored`. -/
def MpvEvent.fromIpcValue (value : Value) : Except DecodeError MpvEvent :=
  match value.asObject with
  | none => .error .notAnObject
  | some object =>
    match (object.lookup "event").bind Value.asStr with
    | none => .ok .ignored
    | some event =>
      if event = "property-change" then propertyChangeFromIpc object
      else if event = "playback-restart" then .ok .playbackRestart
      else if event = "end-file" then endFileFromIpc object
      else if event = "log-message" then logMessageFromIpc object
      else if event = "client-message" then clientMessageFromIpc object
      else if event = "shutdown" then .ok .shutdown
      else .ok .ignored

/-! ### Text of a line -/

def continuations (first : UInt8) : Option (List (UInt8 × UInt8)) :=
  let any : UInt8 × UInt8 := (0x80, 0xBF)
  if first < 0x80 then some []
  else if 0xC2 ≤ first && first ≤ 0xDF then some [any]
  else if first = 0xE0 then some [(0xA0, 0xBF), any]
  else if first = 0xED then some [(0x80, 0x9F), any]
  else if 0xE1 ≤ first && first ≤ 0xEF then some [any, any]
  else if first = 0xF0 then some [(0x90, 0xBF), any, any]
  else if 0xF1 ≤ first && first ≤ 0xF3 then some [any, any, any]
  else if first = 0xF4 then some [(0x80, 0x8F), any, any]
  else none

def matching : List (UInt8 × UInt8) → List UInt8 → Nat
  | (low, high) :: ranges, byte :: bytes =>
    if low ≤ byte && byte ≤ high then matching ranges bytes + 1 else 0
  | _, _ => 0

def codePoint (first : UInt8) (rest : List UInt8) : Nat :=
  let lead :=
    match rest.length with
    | 0 => first.toNat
    | 1 => first.toNat % 0x20
    | 2 => first.toNat % 0x10
    | _ => first.toNat % 0x08
  rest.foldl (fun point byte => point * 0x40 + byte.toNat % 0x40) lead

/-- Every longest start of a sequence that does not go on becomes one replacement character. The
    fuel is the number of bytes. -/
def fromUtf8LossyChars : Nat → List UInt8 → List Char
  | fuel + 1, first :: bytes =>
    match continuations first with
    | none => Char.ofNat 0xFFFD :: fromUtf8LossyChars fuel bytes
    | some ranges =>
      let come := matching ranges bytes
      let char :=
        if come = ranges.length then Char.ofNat (codePoint first (bytes.take come))
        else Char.ofNat 0xFFFD
      char :: fromUtf8LossyChars fuel (bytes.drop come)
  | _, _ => []

def fromUtf8Lossy (bytes : List UInt8) : String :=
  String.ofList (fromUtf8LossyChars bytes.length bytes)

/-- `a`, an accented `e`, a cut-off three-byte sequence and `b`. -/
example : fromUtf8LossyChars 6 [0x61, 0xC3, 0xA9, 0xE2, 0x82, 0x62] =
    ['a', Char.ofNat 0xE9, Char.ofNat 0xFFFD, 'b'] := by
  decide

end Mbv.Mpv
