import Mathlib.Algebra.GroupWithZero.Nat
import Mbv.Machine.Run
import Mbv.Mpv.IpcSession

/-! Every line mpv wrote is accounted for: delivered once and in order, or consumed by its request. -/

namespace Mbv.Mpv

open Delimited List

inductive Entry where
  | event (line : List UInt8) (event : MpvEvent)
  /-- `next_event` could not read the line. -/
  | fault (line : List UInt8) (text : String)
  | reply (line : List UInt8) (id : Nat)
  /-- A request could not read the line. -/
  | refused (line : List UInt8) (id : Nat)
  /-- No line: a read of `next_event` failed. -/
  | readFault (text : String)

namespace Entry

@[simp] def line? : Entry → Option (List UInt8)
  | .event line _ | .fault line _ | .reply line _ | .refused line _ => some line
  | .readFault _ => none

@[simp] def event? : Entry → Option MpvEvent
  | .event _ said => some said
  | .fault _ text => some (.failed (.other (MpvError.decode text).toString))
  | .readFault text => some (.failed (.other (MpvError.io text).toString))
  | .reply .. | .refused .. => none

end Entry

section Account

variable (fromStr : String → Except String Value)

def decodeLine (line : List UInt8) : Except String MpvEvent :=
  match fromStr (fromUtf8Lossy line) with
  | .error text => .error text
  | .ok value =>
    match MpvEvent.fromIpcValue value with
    | .error error => .error error.toString
    | .ok event => .ok event

def Entry.Right (replies : List (Nat × Except MpvError Value)) : Entry → Prop
  | .event line said => decodeLine fromStr line = .ok said
  | .fault line text => decodeLine fromStr line = .error text
  | .reply line id => ∃ value, fromStr (fromUtf8Lossy line) = .ok value ∧
      value.requestId = some id ∧ (id, replyData value) ∈ replies
  | .refused line id => ∃ text, decodeLine fromStr line = .error text ∧
      (id, .error (.decode text)) ∈ replies
  | .readFault _ => True

end Account

/-! ### Runs of the session -/

/-- `next_event`, a request or a sent command, with what the socket does meanwhile. -/
inductive Call where
  | nextEvent (reading : Reading)
  | request (command : List Value) (written : Except String Unit) (reading : Reading)
      (waits : List (Except String Reading))
  | send (command : List Value) (written : Except String Unit)

/-- The session, the events it delivered and the results of its requests. -/
structure IpcRun where
  session : IpcSession
  delivered : List MpvEvent := []
  replies : List (Nat × Except MpvError Value) := []

namespace IpcRun

def start (stream : List UInt8) : IpcRun where
  session := { stream := stream }

def step (fromStr : String → Except String Value) (run : IpcRun) : Call → IpcRun
  | .nextEvent reading =>
    let (event, session) := run.session.nextEvent fromStr reading
    { run with session := session, delivered := run.delivered ++ event.toList }
  | .request command written reading waits =>
    let (result, session) := run.session.request fromStr command written reading waits
    { run with
      session := session
      replies := run.replies ++ [(run.session.nextRequestId, result)] }
  | .send command written =>
    { run with session := (run.session.send command written).2 }

def machine (fromStr : String → Except String Value) : Machine IpcRun Call :=
  ⟨step fromStr⟩

end IpcRun

/-- The one end event of a session that has ended. -/
def IsEnd (liveness : Liveness) (last : List MpvEvent) : Prop :=
  if liveness = .ended then last = [.shutdown] ∨ last = [.failed .processExited] else last = []

/-- The stream is the accounted lines, each closed by its newline, then the bytes of no complete line
    and those not read; the events delivered and still queued are the entries' in their order, and the
    end event after them. -/
structure Accounts (fromStr : String → Except String Value) (stream : List UInt8) (run : IpcRun)
    (account : List Entry) : Prop where
  bytes : stream = joined 10 (account.filterMap Entry.line?) ++
    (run.session.received ++ run.session.stream)
  plain : ∀ line ∈ account.filterMap Entry.line?, 10 ∉ line
  right : ∀ entry ∈ account, entry.Right fromStr run.replies
  events : ∃ last, IsEnd run.session.liveness last ∧
    run.delivered ++ run.session.events = account.filterMap Entry.event? ++ last
  /-- A session ends with every complete line accounted for, having read all, or as a request of it
      passed its time. -/
  ended : run.session.liveness = .ended → 10 ∉ run.session.received ∧
    (run.session.stream = [] ∨ ∃ id, (id, .error .timeout) ∈ run.replies)
  numbered : (run.replies.map (·.1)).Nodup

/-! ### Reading -/

def Reading.count (reading : Reading) (stream : List UInt8) : Nat :=
  if reading.ends = .closed then stream.length else reading.cuts.sum

namespace IpcSession

variable {s s' : IpcSession} {reading : Reading}

theorem readChunk_readChunk (s : IpcSession) (first second : Nat) :
    (s.readChunk first).readChunk second = s.readChunk (first + second) := by
  unfold readChunk
  simp [take_add, drop_drop]

theorem foldl_readChunk (cuts : List Nat) (s : IpcSession) : cuts.foldl readChunk s = s.readChunk cuts.sum := by
  induction cuts generalizing s with
  | nil => simp [readChunk]
  | cons cut cuts ih => rw [foldl_cons, ih, readChunk_readChunk, sum_cons]

theorem readChunk_bytes (s : IpcSession) (count : Nat) :
    (s.readChunk count).received ++ (s.readChunk count).stream = s.received ++ s.stream := by
  unfold readChunk
  rw [append_assoc, take_append_drop]

theorem isOpen_cases {liveness : Liveness} (live : liveness.isOpen = true) : liveness = .opened ∨ liveness = .quitting := by
  cases liveness with
  | opened => exact .inl rfl
  | quitting => exact .inr rfl
  | _ => cases live

theorem isOpen_going (live : s.liveness.isOpen = true) : s.liveness ≠ .ended := by
  rcases isOpen_cases live with same | same <;> simp [same]

theorem readAvailable_closed (done : s.liveness.isOpen = false) : s.readAvailable reading = (.ok (), s) := by
  unfold readAvailable
  rw [done]
  rfl

theorem readChunk_all {count : Nat} (all : s.stream.length ≤ count) :
    s.readChunk count = { s with stream := [], received := s.received ++ s.stream } := by
  unfold readChunk
  rw [drop_eq_nil_of_le all, take_of_length_le all]

theorem readAvailable_open (live : s.liveness.isOpen = true) : ∃ liveness, (s.readAvailable reading).2 =
        { s.readChunk (reading.count s.stream) with liveness := liveness } ∧
      (reading.ends = .closed ∧ (s.readAvailable reading).1 = .ok () ∧
          (liveness = .peerClosed ∨ liveness = .peerClosedAfterQuit) ∨
        reading.ends = .wouldBlock ∧ (s.readAvailable reading).1 = .ok () ∧ liveness = s.liveness ∨
        ∃ error, reading.ends = .failed error ∧ (s.readAvailable reading).1 = .error (.io error) ∧ liveness = s.liveness) := by
  unfold readAvailable Reading.count
  rw [live, if_pos rfl, foldl_readChunk]
  cases ends : reading.ends with
  | wouldBlock => exact ⟨s.liveness, rfl, .inr (.inl ⟨rfl, rfl, rfl⟩)⟩
  | failed error => exact ⟨s.liveness, rfl, .inr (.inr ⟨error, rfl, rfl, rfl⟩)⟩
  | closed =>
    have rest : (s.readChunk reading.cuts.sum).readChunk
        (s.readChunk reading.cuts.sum).stream.length = s.readChunk s.stream.length := by
      rw [readChunk_readChunk, readChunk_all (Nat.le_refl _), readChunk_all]
      simp only [readChunk, length_drop]
      omega
    refine ⟨if s.liveness = .quitting then .peerClosedAfterQuit else .peerClosed, ?_, .inl ⟨rfl, rfl, ?_⟩⟩
    · dsimp only
      rw [rest]
      rfl
    · split
      · exact .inr rfl
      · exact .inl rfl

/-- A session that ended holds no complete line, and one whose peer is gone has read everything. -/
structure Sound (s : IpcSession) : Prop where
  ended : s.liveness = .ended → 10 ∉ s.received
  closed : s.liveness = .peerClosed ∨ s.liveness = .peerClosedAfterQuit → s.stream = []

/-- From one state to another of a session: the bytes taken out of its buffer, and the events it
    queued before the end event. -/
structure Moves (s : IpcSession) (taken : List UInt8) (queued : List MpvEvent) (s' : IpcSession) :
    Prop where
  bytes : s.received ++ s.stream = taken ++ (s'.received ++ s'.stream)
  still : s.liveness = .ended →
    taken = [] ∧ queued = [] ∧ s'.events = s.events ∧ s'.stream = s.stream ∧ s'.liveness = .ended
  events : s.liveness ≠ .ended → ∃ last, IsEnd s'.liveness last ∧ s'.events = s.events ++ queued ++ last
  sound : s'.Sound
  number : s'.nextRequestId = s.nextRequestId

theorem isEnd_nil {liveness : Liveness} (going : liveness ≠ .ended) : IsEnd liveness [] := by
  unfold IsEnd
  rw [if_neg going]

theorem Moves.trans {s₁ : IpcSession} {taken taken' : List UInt8} {queued queued' : List MpvEvent}
    (first : Moves s taken queued s₁) (going : s₁.liveness ≠ .ended)
    (second : Moves s₁ taken' queued' s') : Moves s (taken ++ taken') (queued ++ queued') s' where
  bytes := by rw [first.bytes, second.bytes, append_assoc]
  still ended := absurd (first.still ended).2.2.2.2 going
  events started := by
    obtain ⟨last, isEnd, events⟩ := first.events started
    obtain ⟨last', isEnd', events'⟩ := second.events going
    unfold IsEnd at isEnd
    rw [if_neg going] at isEnd
    refine ⟨last', isEnd', ?_⟩
    rw [events', events, isEnd]
    simp
  sound := second.sound
  number := second.number.trans first.number

theorem readAvailable_moves (sound : s.Sound) : Moves s [] [] (s.readAvailable reading).2 ∧
      (s.liveness ≠ .ended → (s.readAvailable reading).2.liveness ≠ .ended) := by
  cases live : s.liveness.isOpen with
  | false =>
    rw [readAvailable_closed live]
    refine ⟨⟨rfl, fun ended => ⟨rfl, rfl, rfl, rfl, ended⟩, fun going => ⟨[], isEnd_nil going, ?_⟩, sound, rfl⟩, id⟩
    simp
  | true =>
    obtain ⟨liveness, after, how⟩ := @readAvailable_open s reading live
    have how : reading.ends = .closed ∧ (liveness = .peerClosed ∨ liveness = .peerClosedAfterQuit) ∨
        (liveness = .opened ∨ liveness = .quitting) := by
      rcases how with ⟨ends, -, gone⟩ | ⟨-, -, rfl⟩ | ⟨_, -, -, rfl⟩
      · exact .inl ⟨ends, gone⟩
      · exact .inr (isOpen_cases live)
      · exact .inr (isOpen_cases live)
    have going : liveness ≠ .ended := by
      rcases how with ⟨-, rfl | rfl⟩ | rfl | rfl <;> decide
    rw [after]
    refine ⟨⟨?_, fun ended => ?_, fun _ => ⟨[], isEnd_nil going, ?_⟩, ⟨fun ended => ?_, fun gone => ?_⟩, rfl⟩, fun _ => going⟩
    · exact (readChunk_bytes s _).symm
    · rw [ended] at live
      cases live
    · simp [readChunk]
    · exact absurd ended going
    · rcases how with ⟨ends, -⟩ | still
      · unfold Reading.count
        rw [if_pos ends, readChunk_all (Nat.le_refl _)]
      · change liveness = .peerClosed ∨ liveness = .peerClosedAfterQuit at gone
        rcases still with rfl | rfl <;> simp at gone

/-! ### Lines -/

inductive Verdict where
  | reply (value : Value)
  | undecodable (text : String)
  | event (event : MpvEvent)

variable {fromStr : String → Except String Value} {awaiting : Option Nat} {line : List UInt8}

def verdict (fromStr : String → Except String Value) (awaiting : Option Nat) (line : List UInt8) :
    Verdict :=
  match fromStr (fromUtf8Lossy line) with
  | .error text => .undecodable text
  | .ok value =>
    if awaiting.isSome ∧ value.requestId = awaiting then .reply value
    else
      match MpvEvent.fromIpcValue value with
      | .error error => .undecodable error.toString
      | .ok event => .event event

theorem verdict_event {event : MpvEvent} (is : verdict fromStr awaiting line = .event event) :
    decodeLine fromStr line = .ok event := by
  unfold verdict at is
  unfold decodeLine
  cases parsed : fromStr (fromUtf8Lossy line) with
  | error text => simp [parsed] at is
  | ok value =>
    simp only [parsed] at is ⊢
    split at is
    · cases is
    · cases decoded : MpvEvent.fromIpcValue value with
      | error error => simp [decoded] at is
      | ok said => simpa [decoded] using is

theorem verdict_undecodable {text : String} (is : verdict fromStr awaiting line = .undecodable text) :
    decodeLine fromStr line = .error text := by
  unfold verdict at is
  unfold decodeLine
  cases parsed : fromStr (fromUtf8Lossy line) with
  | error fault => simpa [parsed] using is
  | ok value =>
    simp only [parsed] at is ⊢
    split at is
    · cases is
    · cases decoded : MpvEvent.fromIpcValue value with
      | error error => simpa [decoded] using is
      | ok said => simp [decoded] at is

theorem verdict_reply {value : Value} (is : verdict fromStr awaiting line = .reply value) :
    fromStr (fromUtf8Lossy line) = .ok value ∧ ∃ id, awaiting = some id ∧ value.requestId = some id := by
  unfold verdict at is
  cases parsed : fromStr (fromUtf8Lossy line) with
  | error fault => simp [parsed] at is
  | ok other =>
    simp only [parsed] at is
    split at is
    · rename_i asked
      cases is
      obtain ⟨id, own⟩ := Option.isSome_iff_exists.mp asked.1
      exact ⟨rfl, id, own, asked.2.trans own⟩
    · cases decoded : MpvEvent.fromIpcValue other with
      | error error => simp [decoded] at is
      | ok said => simp [decoded] at is

theorem acceptLine_eq (s : IpcSession) : s.acceptLine fromStr awaiting line = match verdict fromStr awaiting line with
    | .reply value => ((replyData value).map some, s)
    | .undecodable text => (.error (.decode text), s)
    | .event event => (.ok none, { s with events := s.events ++ [event] }) := by
  unfold acceptLine verdict
  cases fromStr (fromUtf8Lossy line) with
  | error text => rfl
  | ok value =>
    dsimp only
    by_cases asked : awaiting.isSome ∧ value.requestId = awaiting
    · rw [if_pos asked, if_pos asked]
    · rw [if_neg asked, if_neg asked]
      cases MpvEvent.fromIpcValue value <;> rfl

inductive Accepts (fromStr : String → Except String Value) (awaiting : Option Nat) :
    IpcSession → Except MpvError (Option Value) × IpcSession → Prop where
  | done {s : IpcSession} : 10 ∉ s.received → Accepts fromStr awaiting s (.ok none, s)
  | event {s : IpcSession} {line rest : List UInt8} {event : MpvEvent}
      {out : Except MpvError (Option Value) × IpcSession} :
      s.received = line ++ 10 :: rest → 10 ∉ line → verdict fromStr awaiting line = .event event →
      Accepts fromStr awaiting { s with received := rest, events := s.events ++ [event] } out →
      Accepts fromStr awaiting s out
  | reply {s : IpcSession} {line rest : List UInt8} {value : Value} :
      s.received = line ++ 10 :: rest → 10 ∉ line → verdict fromStr awaiting line = .reply value →
      Accepts fromStr awaiting s ((replyData value).map some, { s with received := rest })
  | undecodable {s : IpcSession} {line rest : List UInt8} {text : String} :
      s.received = line ++ 10 :: rest → 10 ∉ line →
      verdict fromStr awaiting line = .undecodable text →
      Accepts fromStr awaiting s (.error (.decode text), { s with received := rest })

theorem acceptLines_accepts (s : IpcSession) : Accepts fromStr awaiting s (s.acceptLines fromStr awaiting) := by
  rw [acceptLines]
  split
  · rename_i none
    exact .done (takeRecord_none.mp (Option.map_eq_none_iff.mp none))
  · rename_i line rest taken
    obtain ⟨⟨line', rest'⟩, found, same⟩ := Option.map_eq_some_iff.mp taken
    cases same
    obtain ⟨received, plain⟩ := takeRecord_some.mp found
    have shorter := takeRecord_length found
    split
    · rename_i next accepted
      rw [acceptLine_eq] at accepted
      split at accepted
      · rename_i value _
        cases data : replyData value with
        | error error => simp [data, Except.map] at accepted
        | ok given => simp [data, Except.map] at accepted
      · cases accepted
      · rename_i event is
        cases accepted
        exact .event received plain is (acceptLines_accepts _)
    · rename_i data next accepted
      rw [acceptLine_eq] at accepted
      split at accepted
      · rename_i value is
        rw [← accepted]
        exact .reply received plain is
      · cases accepted
      · cases accepted
    · rename_i error next accepted
      rw [acceptLine_eq] at accepted
      split at accepted
      · rename_i value is
        rw [← accepted]
        exact .reply received plain is
      · rename_i text is
        cases accepted
        exact .undecodable received plain is
      · cases accepted
termination_by s.received.length

theorem going_of_line {rest : List UInt8} (sound : s.Sound)
    (received : s.received = line ++ 10 :: rest) : s.liveness ≠ .ended := by
  intro ended
  have missing := sound.ended ended
  rw [received] at missing
  simp at missing

theorem line_moves {rest : List UInt8} (sound : s.Sound) (received : s.received = line ++ 10 :: rest) (queued : List MpvEvent) :
    Moves s (line ++ [10]) queued { s with received := rest, events := s.events ++ queued } := by
  have going := going_of_line sound received
  refine ⟨by simp [received], fun ended => absurd ended going, fun _ => ⟨[], isEnd_nil going, ?_⟩,
    ⟨fun ended => absurd ended going, sound.closed⟩, rfl⟩
  exact (append_nil _).symm

theorem Accepts.moves {out : Except MpvError (Option Value) × IpcSession} (sound : s.Sound)
    (accepts : Accepts fromStr awaiting s out) :
    ∃ read : List (List UInt8 × MpvEvent), (∀ entry ∈ read, 10 ∉ entry.1 ∧ decodeLine fromStr entry.1 = .ok entry.2) ∧
      ((out.1 = .ok none ∧ 10 ∉ out.2.received ∧ out.2.liveness = s.liveness ∧ out.2.stream = s.stream ∧
          Moves s (joined 10 (read.map (·.1))) (read.map (·.2)) out.2) ∨
        s.liveness ≠ .ended ∧ out.2.liveness = s.liveness ∧ ∃ line, 10 ∉ line ∧
          Moves s (joined 10 (read.map (·.1) ++ [line])) (read.map (·.2)) out.2 ∧
          ((∃ id value, awaiting = some id ∧ fromStr (fromUtf8Lossy line) = .ok value ∧
              value.requestId = some id ∧ out.1 = (replyData value).map some) ∨
            ∃ text, decodeLine fromStr line = .error text ∧ out.1 = .error (.decode text))) := by
  induction accepts with
  | @done s plain =>
    refine ⟨[], by simp, .inl ⟨rfl, plain, rfl, rfl, ?_⟩⟩
    refine ⟨by simp, fun ended => ⟨rfl, rfl, rfl, rfl, ended⟩, fun going => ⟨[], isEnd_nil going, ?_⟩, sound, rfl⟩
    simp
  | @event s line rest event out received plain is _ ih =>
    have first := line_moves sound received [event]
    have going := going_of_line sound received
    obtain ⟨read, decoded, how⟩ := ih first.sound
    refine ⟨(line, event) :: read, ?_, ?_⟩
    · intro entry member
      rcases mem_cons.mp member with rfl | later
      · exact ⟨plain, verdict_event is⟩
      · exact decoded entry later
    · have whole : joined 10 (((line, event) :: read).map (·.1)) = (line ++ [10]) ++ joined 10 (read.map (·.1)) := by simp
      rcases how with ⟨result, finished, still, unread, moves⟩ | ⟨-, still, last, bare, moves, stop⟩
      · refine .inl ⟨result, finished, still, unread, ?_⟩
        rw [whole]
        exact first.trans going moves
      · refine .inr ⟨going, still, last, bare, ?_, stop⟩
        rw [joined_append, whole, append_assoc, ← joined_append]
        exact first.trans going moves
  | @reply s line rest value received plain is =>
    obtain ⟨parsed, id, awaited, own⟩ := verdict_reply is
    refine ⟨[], by simp, .inr ⟨going_of_line sound received, rfl, line, plain, ?_, .inl ⟨id, value, awaited, parsed, own, rfl⟩⟩⟩
    simpa using line_moves sound received []
  | @undecodable s line rest text received plain is =>
    refine ⟨[], by simp, .inr ⟨going_of_line sound received, rfl, line, plain, ?_, .inr ⟨text, verdict_undecodable is, rfl⟩⟩⟩
    simpa using line_moves sound received []

theorem acceptLines_done (plain : 10 ∉ s.received) : s.acceptLines fromStr awaiting = (.ok none, s) := by
  have missing {line rest : List UInt8} (received : s.received = line ++ 10 :: rest) : False := by
    rw [received] at plain
    simp at plain
  have accepts := @acceptLines_accepts fromStr awaiting s
  generalize s.acceptLines fromStr awaiting = out at accepts
  cases accepts with
  | done _ => rfl
  | event received _ _ _ => exact (missing received).elim
  | reply received _ _ => exact (missing received).elim
  | undecodable received _ _ => exact (missing received).elim

theorem pump_ended (sound : s.Sound) (ended : s.liveness = .ended) : s.pump fromStr awaiting reading = (.ok none, s) := by
  unfold pump
  rw [readAvailable_closed (by rw [ended]; rfl)]
  dsimp only
  rw [acceptLines_done (sound.ended ended)]
  dsimp only
  unfold queueEnd
  rw [ended]

theorem queueEnd_moves (sound : s.Sound) (going : s.liveness ≠ .ended) (plain : 10 ∉ s.received) :
    Moves s [] [] s.queueEnd ∧ 10 ∉ s.queueEnd.received ∧ (s.queueEnd.liveness = .ended ∧ s.queueEnd.stream = [] ∨
        s.queueEnd = s ∧ s.liveness.isOpen = true) := by
  unfold queueEnd
  cases live : s.liveness with
  | ended => exact absurd live going
  | peerClosed =>
    refine ⟨⟨rfl, fun ended => absurd ended going, fun _ => ⟨[.failed .processExited], ?_, ?_⟩, ?_,
      rfl⟩, plain, .inl ⟨rfl, sound.closed (.inl live)⟩⟩
    · exact .inr rfl
    · simp
    · exact ⟨fun _ => plain, fun gone => sound.closed (.inl live)⟩
  | peerClosedAfterQuit =>
    refine ⟨⟨rfl, fun ended => absurd ended going, fun _ => ⟨[.shutdown], ?_, ?_⟩, ?_, rfl⟩, plain,
      .inl ⟨rfl, sound.closed (.inr live)⟩⟩
    · exact .inl rfl
    · simp
    · exact ⟨fun _ => plain, fun gone => sound.closed (.inr live)⟩
  | opened =>
    refine ⟨⟨rfl, fun ended => absurd ended going, fun _ => ⟨[], isEnd_nil going, ?_⟩, sound, rfl⟩, plain, .inr ⟨rfl, rfl⟩⟩
    simp
  | quitting =>
    refine ⟨⟨rfl, fun ended => absurd ended going, fun _ => ⟨[], isEnd_nil going, ?_⟩, sound, rfl⟩, plain, .inr ⟨rfl, rfl⟩⟩
    simp

/-- How one pump of the socket ends: with all lines gone through, at the awaited reply or at a line
    that cannot be read, or with a failed read. -/
inductive Pumped (fromStr : String → Except String Value) (awaiting : Option Nat) (s : IpcSession) :
    Except MpvError (Option Value) × IpcSession → Prop where
  | all {s' : IpcSession} (read : List (List UInt8 × MpvEvent)) :
      (∀ entry ∈ read, 10 ∉ entry.1 ∧ decodeLine fromStr entry.1 = .ok entry.2) →
      Moves s (joined 10 (read.map (·.1))) (read.map (·.2)) s' → 10 ∉ s'.received →
      (s'.liveness = .ended ∧ (s.liveness = .ended ∨ s'.stream = []) ∨
        s'.liveness.isOpen = true) →
      Pumped fromStr awaiting s (.ok none, s')
  | reply {s' : IpcSession} (read : List (List UInt8 × MpvEvent)) {line : List UInt8} {id : Nat}
      {value : Value} :
      (∀ entry ∈ read, 10 ∉ entry.1 ∧ decodeLine fromStr entry.1 = .ok entry.2) →
      s.liveness ≠ .ended → s'.liveness ≠ .ended → 10 ∉ line →
      Moves s (joined 10 (read.map (·.1) ++ [line])) (read.map (·.2)) s' → awaiting = some id →
      fromStr (fromUtf8Lossy line) = .ok value → value.requestId = some id →
      Pumped fromStr awaiting s ((replyData value).map some, s')
  | undecodable {s' : IpcSession} (read : List (List UInt8 × MpvEvent)) {line : List UInt8}
      {text : String} :
      (∀ entry ∈ read, 10 ∉ entry.1 ∧ decodeLine fromStr entry.1 = .ok entry.2) →
      s.liveness ≠ .ended → s'.liveness ≠ .ended → 10 ∉ line →
      Moves s (joined 10 (read.map (·.1) ++ [line])) (read.map (·.2)) s' →
      decodeLine fromStr line = .error text →
      Pumped fromStr awaiting s (.error (.decode text), s')
  | failed {s' : IpcSession} {text : String} :
      s.liveness ≠ .ended → s'.liveness ≠ .ended → Moves s [] [] s' →
      Pumped fromStr awaiting s (.error (.io text), s')

theorem pump_pumped (sound : s.Sound) : Pumped fromStr awaiting s (s.pump fromStr awaiting reading) := by
  by_cases ended : s.liveness = .ended
  · rw [pump_ended sound ended]
    refine .all [] (by simp) ?_ (sound.ended ended) (.inl ⟨ended, .inl ended⟩)
    exact ⟨rfl, fun _ => ⟨rfl, rfl, rfl, rfl, ended⟩, fun going => absurd ended going, sound, rfl⟩
  · have first := @readAvailable_moves s reading sound
    have faults : ∀ error, (s.readAvailable reading).1 = .error error → ∃ text, error = .io text := by
      intro error faulted
      cases live : s.liveness.isOpen with
      | false =>
        rw [readAvailable_closed live] at faulted
        cases faulted
      | true =>
        obtain ⟨_, -, ⟨-, fine, -⟩ | ⟨-, fine, -⟩ | ⟨text, -, fault, -⟩⟩ := @readAvailable_open s reading live
        · rw [fine] at faulted
          cases faulted
        · rw [fine] at faulted
          cases faulted
        · rw [fault] at faulted
          cases faulted
          exact ⟨text, rfl⟩
    unfold pump
    rcases available : s.readAvailable reading with ⟨error | ⟨⟩, s₁⟩
    · rw [available] at first faults
      obtain ⟨text, rfl⟩ := faults error rfl
      exact .failed ended (first.2 ended) first.1
    · rw [available] at first
      dsimp only at first ⊢
      have going := first.2 ended
      obtain ⟨read, decoded, how⟩ := (@acceptLines_accepts fromStr awaiting s₁).moves first.1.sound
      rcases accepted : s₁.acceptLines fromStr awaiting with ⟨result, s₂⟩
      rw [accepted] at how
      dsimp only at how
      rcases how with ⟨rfl, plain, still, -, moves⟩ | ⟨-, still, line, plain, moves, stop⟩
      · have last := queueEnd_moves moves.sound (still ▸ going) plain
        refine .all read decoded ?_ last.2.1 ?_
        · have whole := (first.1.trans going moves).trans (still ▸ going) last.1
          simpa using whole
        · rcases last.2.2 with ⟨finished, unread⟩ | ⟨same, live⟩
          · exact .inl ⟨finished, .inr unread⟩
          · rw [same]
            exact .inr live
      · have whole := first.1.trans going moves
        have after : s₂.liveness ≠ .ended := still ▸ going
        rcases stop with ⟨id, value, awaited, parsed, own, rfl⟩ | ⟨text, undecodable, rfl⟩
        · have pumped := Pumped.reply read decoded ended after plain whole awaited parsed own
          cases data : replyData value with
          | error error =>
            rw [data] at pumped
            exact pumped
          | ok given =>
            rw [data] at pumped
            exact pumped
        · exact .undecodable read decoded ended after plain whole undecodable

/-! ### Requests -/

/-- The entries of lines that are events. -/
def entriesOf (read : List (List UInt8 × MpvEvent)) : List Entry :=
  read.map fun entry => .event entry.1 entry.2

@[simp] theorem entriesOf_lines (read : List (List UInt8 × MpvEvent)) :
    (entriesOf read).filterMap Entry.line? = read.map (·.1) := by
  unfold entriesOf
  rw [filterMap_map]
  exact congrFun filterMap_eq_map _

@[simp] theorem entriesOf_events (read : List (List UInt8 × MpvEvent)) :
    (entriesOf read).filterMap Entry.event? = read.map (·.2) := by
  unfold entriesOf
  rw [filterMap_map]
  exact congrFun filterMap_eq_map _

/-- The lines a call took out, with what became of them, and the session after it. -/
structure Takes (fromStr : String → Except String Value) (s : IpcSession)
    (replies : List (Nat × Except MpvError Value)) (more : List Entry) (s' : IpcSession) : Prop where
  moves : Moves s (joined 10 (more.filterMap Entry.line?)) (more.filterMap Entry.event?) s'
  plain : ∀ line ∈ more.filterMap Entry.line?, 10 ∉ line
  right : ∀ entry ∈ more, entry.Right fromStr replies

variable {replies : List (Nat × Except MpvError Value)} {more : List Entry}

theorem Takes.trans {s₁ : IpcSession} {more' : List Entry} (first : Takes fromStr s replies more s₁)
    (going : s₁.liveness ≠ .ended) (second : Takes fromStr s₁ replies more' s') :
    Takes fromStr s replies (more ++ more') s' where
  moves := by
    rw [filterMap_append, filterMap_append, joined_append]
    exact first.moves.trans going second.moves
  plain line member := by
    rw [filterMap_append] at member
    exact (mem_append.mp member).elim (first.plain line) (second.plain line)
  right entry member := (mem_append.mp member).elim (first.right entry) (second.right entry)

theorem takes_read (last : List Entry) {read : List (List UInt8 × MpvEvent)}
    (decoded : ∀ entry ∈ read, 10 ∉ entry.1 ∧ decodeLine fromStr entry.1 = .ok entry.2)
    (moves : Moves s (joined 10 (read.map (·.1) ++ last.filterMap Entry.line?))
      (read.map (·.2) ++ last.filterMap Entry.event?) s')
    (plain : ∀ line ∈ last.filterMap Entry.line?, 10 ∉ line)
    (right : ∀ entry ∈ last, entry.Right fromStr replies) :
    Takes fromStr s replies (entriesOf read ++ last) s' where
  moves := by simpa using moves
  plain line member := by
    rw [filterMap_append, entriesOf_lines] at member
    rcases mem_append.mp member with early | late
    · obtain ⟨entry, there, rfl⟩ := mem_map.mp early
      exact (decoded entry there).1
    · exact plain line late
  right entry member := by
    rcases mem_append.mp member with early | late
    · obtain ⟨pair, there, rfl⟩ := mem_map.mp early
      exact (decoded pair there).2
    · exact right entry late

theorem finishTimedOutRequest_moves (going : s.liveness ≠ .ended) (plain : 10 ∉ s.received) :
    Moves s [] [] s.finishTimedOutRequest := by
  refine ⟨rfl, fun ended => absurd ended going, fun _ => ?_, ⟨fun _ => plain, fun gone => ?_⟩, rfl⟩
  · refine ⟨[if s.liveness = .quitting then .shutdown else .failed .processExited], ?_, ?_⟩
    · unfold IsEnd finishTimedOutRequest
      rw [if_pos rfl]
      split
      · exact .inl rfl
      · exact .inr rfl
    · unfold finishTimedOutRequest
      simp
  · unfold finishTimedOutRequest at gone
    simp at gone

theorem pump_stops {id : Nat} {result : Except MpvError Value} (sound : s.Sound) (own : (id, result) ∈ replies)
    (stops : (s.pump fromStr (some id) reading).1 = result.map some) :
    ∃ more, Takes fromStr s replies more (s.pump fromStr (some id) reading).2 ∧
      (s.pump fromStr (some id) reading).2.liveness ≠ .ended := by
  have pumped := @pump_pumped s reading fromStr (some id) sound
  generalize s.pump fromStr (some id) reading = out at pumped stops ⊢
  cases pumped with
  | all read _ _ _ _ => cases result <;> cases stops
  | @reply s₁ read line id' value decoded _ going plain moves awaited parsed carried =>
    cases awaited
    have same : replyData value = result := by
      cases data : replyData value <;> cases result <;> simp_all [Except.map]
    refine ⟨_, takes_read [.reply line id] decoded (by simpa [filterMap_cons] using moves) (by simpa using plain) ?_, going⟩
    intro entry member
    rw [mem_singleton.mp member]
    exact ⟨value, parsed, carried, same ▸ own⟩
  | @undecodable s₁ read line text decoded _ going plain moves undecodable =>
    have same : result = .error (.decode text) := by cases result <;> simp_all [Except.map]
    refine ⟨_, takes_read [.refused line id] decoded (by simpa [filterMap_cons] using moves) (by simpa using plain) ?_, going⟩
    intro entry member
    rw [mem_singleton.mp member]
    exact ⟨text, undecodable, same ▸ own⟩
  | failed _ going moves => exact ⟨[], ⟨moves, by simp, by simp⟩, going⟩

variable (replies) in
theorem pump_all (sound : s.Sound) (all : (s.pump fromStr awaiting reading).1 = .ok none) :
    ∃ more, Takes fromStr s replies more (s.pump fromStr awaiting reading).2 ∧
      10 ∉ (s.pump fromStr awaiting reading).2.received ∧
      ((s.pump fromStr awaiting reading).2.liveness = .ended ∧
          (s.liveness = .ended ∨ (s.pump fromStr awaiting reading).2.stream = []) ∨
        (s.pump fromStr awaiting reading).2.liveness.isOpen = true) := by
  have pumped := @pump_pumped s reading fromStr awaiting sound
  generalize s.pump fromStr awaiting reading = out at pumped all ⊢
  cases pumped with
  | all read decoded moves plain after =>
    refine ⟨_, takes_read [] decoded (by simpa using moves) (by simp) (by simp), plain, after⟩
  | @reply _ _ _ _ value _ _ _ _ _ _ _ _ =>
    cases data : replyData value <;> simp [data, Except.map] at all
  | undecodable _ _ _ _ _ _ _ => cases all
  | failed _ _ _ => cases all

theorem pump_result (out : Except MpvError (Option Value)) :
    out = .ok none ∨ ∃ result : Except MpvError Value, out = result.map some := by
  rcases out with error | ⟨- | data⟩
  · exact .inr ⟨.error error, rfl⟩
  · exact .inl rfl
  · exact .inr ⟨.ok data, rfl⟩

theorem awaitReply_stops {id : Nat} {waits : List (Except String Reading)} {result : Except MpvError Value}
    (stops : (s.pump fromStr (some id) reading).1 = result.map some) :
    s.awaitReply fromStr id reading waits = (result, (s.pump fromStr (some id) reading).2) := by
  unfold awaitReply
  rcases pumped : s.pump fromStr (some id) reading with ⟨out, s₁⟩
  rw [pumped] at stops
  dsimp only at stops
  cases result <;> cases stops <;> rfl

theorem awaitReply_goesOn {id : Nat} {waits : List (Except String Reading)} {s₁ : IpcSession}
    (pumped : s.pump fromStr (some id) reading = (.ok none, s₁)) :
    s.awaitReply fromStr id reading waits = if s₁.liveness.isOpen then
        match waits with
        | [] => (.error .timeout, s₁.finishTimedOutRequest)
        | .error error :: _ => (.error (.io error), s₁)
        | .ok reading :: waits => s₁.awaitReply fromStr id reading waits
      else (.error .closed, s₁) := by
  conv_lhs => unfold awaitReply
  rw [pumped] <;> rfl

/-- However long a request waits, it takes lines for events, then perhaps its reply or a line that
    cannot be read. -/
theorem awaitReply_takes {id : Nat} {waits : List (Except String Reading)} (sound : s.Sound)
    (own : (id, (s.awaitReply fromStr id reading waits).1) ∈ replies) :
    ∃ more, Takes fromStr s replies more (s.awaitReply fromStr id reading waits).2 ∧
      ((s.awaitReply fromStr id reading waits).2.liveness = .ended →
        s.liveness = .ended ∨ (s.awaitReply fromStr id reading waits).2.stream = [] ∨ (id, .error .timeout) ∈ replies) := by
  induction waits generalizing s reading with
  | nil =>
    rcases pump_result (s.pump fromStr (some id) reading).1 with all | ⟨result, stops⟩
    · rw [awaitReply_goesOn (Prod.ext all rfl)] at own ⊢
      obtain ⟨more, takes, plain, ⟨ended, read⟩ | live⟩ := pump_all replies sound all
      · rw [ended] at own ⊢
        exact ⟨more, takes, fun _ => read.imp_right .inl⟩
      · have going := isOpen_going live
        rw [live, if_pos rfl] at own
        rw [live, if_pos rfl]
        have finished := finishTimedOutRequest_moves going plain
        refine ⟨more ++ [], takes.trans going ⟨finished, by simp, by simp⟩, fun _ => .inr (.inr own)⟩
    · rw [awaitReply_stops stops] at own ⊢
      obtain ⟨more, takes, going⟩ := pump_stops sound own stops
      exact ⟨more, takes, fun ended => absurd ended going⟩
  | cons wait waits ih =>
    rcases pump_result (s.pump fromStr (some id) reading).1 with all | ⟨result, stops⟩
    · rw [awaitReply_goesOn (Prod.ext all rfl)] at own ⊢
      obtain ⟨more, takes, plain, ⟨ended, read⟩ | live⟩ := pump_all replies sound all
      · rw [ended] at own ⊢
        exact ⟨more, takes, fun _ => read.imp_right .inl⟩
      · have going := isOpen_going live
        rw [live, if_pos rfl] at own
        rw [live, if_pos rfl]
        cases wait with
        | error error => exact ⟨more, takes, fun ended => absurd ended going⟩
        | ok next =>
          obtain ⟨later, takes', ended⟩ := ih takes.moves.sound own
          exact ⟨more ++ later, takes.trans going takes',
            fun finished => (ended finished).imp_left fun already => absurd already going⟩
    · rw [awaitReply_stops stops] at own ⊢
      obtain ⟨more, takes, going⟩ := pump_stops sound own stops
      exact ⟨more, takes, fun ended => absurd ended going⟩

/-! ### Events -/

theorem popFront_events (s : IpcSession) : s.popFront.1.toList ++ s.popFront.2.events = s.events := by
  unfold popFront
  cases s.events <;> rfl

theorem nextEvent_queued {event : MpvEvent} {events : List MpvEvent}
    (queued : s.events = event :: events) : s.nextEvent fromStr reading = s.popFront := by
  unfold nextEvent
  rw [queued]
  rfl

theorem Moves.fault {taken : List UInt8} {queued : List MpvEvent} (moves : Moves s taken queued s')
    (started : s.liveness ≠ .ended) (going : s'.liveness ≠ .ended) (event : MpvEvent) :
    Moves s taken (queued ++ [event]) { s' with events := s'.events ++ [event] } := by
  obtain ⟨last, isEnd, events⟩ := moves.events started
  unfold IsEnd at isEnd
  rw [if_neg going] at isEnd
  refine ⟨moves.bytes, fun ended => absurd ended started, fun _ => ⟨[], isEnd_nil going, ?_⟩,
    ⟨moves.sound.ended, moves.sound.closed⟩, moves.number⟩
  rw [events, isEnd]
  simp

theorem nextEvent_takes (sound : s.Sound) :
    ∃ more s₁, Takes fromStr s replies more s₁ ∧ s.nextEvent fromStr reading = s₁.popFront ∧
      (s₁.liveness = .ended → s.liveness = .ended ∨ s₁.stream = []) := by
  cases queued : s.events with
  | cons event events =>
    refine ⟨[], s, ⟨?_, by simp, by simp⟩, nextEvent_queued queued, .inl⟩
    refine ⟨rfl, fun ended => ⟨rfl, rfl, rfl, rfl, ended⟩, fun going => ⟨[], isEnd_nil going, ?_⟩, sound, rfl⟩
    simp
  | nil =>
    have pumped := @pump_pumped s reading fromStr none sound
    unfold nextEvent
    rw [queued, isEmpty_nil, if_pos rfl]
    generalize s.pump fromStr none reading = out at pumped
    cases pumped with
    | @all s₁ read decoded moves plain after =>
      refine ⟨_, s₁, takes_read [] decoded (by simpa using moves) (by simp) (by simp), rfl, fun ended => ?_⟩
      rcases after with ⟨-, read⟩ | live
      · exact read
      · exact absurd ended (isOpen_going live)
    | reply _ _ _ _ _ _ awaited _ _ => cases awaited
    | @undecodable s₁ read line text decoded started going plain moves undecodable =>
      refine ⟨_, _, takes_read [.fault line text] decoded ?_ (by simpa using plain) ?_, rfl, fun ended => absurd ended going⟩
      · simpa [filterMap_cons] using moves.fault started going (.failed (.other (MpvError.decode text).toString))
      · intro entry member
        rw [mem_singleton.mp member]
        exact undecodable
    | @failed s₁ text started going moves =>
      refine ⟨[.readFault text], _, ⟨?_, by simp, by simp [Entry.Right]⟩, rfl, fun ended => absurd ended going⟩
      simpa [filterMap_cons] using moves.fault started going (.failed (.other (MpvError.io text).toString))

end IpcSession

/-! ### A run keeps its account -/

theorem Entry.Right.mono {fromStr : String → Except String Value}
    {replies new : List (Nat × Except MpvError Value)} {entry : Entry}
    (right : entry.Right fromStr replies) : entry.Right fromStr (replies ++ new) := by
  cases entry with
  | event _ _ => exact right
  | fault _ _ => exact right
  | reply _ _ =>
    obtain ⟨value, parsed, carried, own⟩ := right
    exact ⟨value, parsed, carried, mem_append_left new own⟩
  | refused _ _ =>
    obtain ⟨text, fault, own⟩ := right
    exact ⟨text, fault, mem_append_left new own⟩
  | readFault _ => exact right

namespace IpcRun

variable {fromStr : String → Except String Value} {stream : List UInt8} {run : IpcRun}
  {account more : List Entry} {session : IpcSession}

theorem accounts_extend {new : List (Nat × Except MpvError Value)} (accounts : Accounts fromStr stream run account)
    (takes : IpcSession.Takes fromStr run.session (run.replies ++ new) more session)
    (ended : session.liveness = .ended → run.session.liveness = .ended ∨ session.stream = [] ∨ ∃ id, (id, .error .timeout) ∈ new)
    (numbered : ((run.replies ++ new).map (·.1)).Nodup) :
    Accounts fromStr stream { run with session := session, replies := run.replies ++ new } (account ++ more) where
  bytes := by
    rw [filterMap_append, joined_append, append_assoc, ← takes.moves.bytes]
    exact accounts.bytes
  plain line member := by
    rw [filterMap_append] at member
    exact (mem_append.mp member).elim (accounts.plain line) (takes.plain line)
  right entry member := by
    rcases mem_append.mp member with early | late
    · exact (accounts.right entry early).mono
    · exact takes.right entry late
  events := by
    obtain ⟨last, isEnd, events⟩ := accounts.events
    rw [filterMap_append]
    by_cases finished : run.session.liveness = .ended
    · obtain ⟨-, none, same, -, still⟩ := takes.moves.still finished
      refine ⟨last, ?_, ?_⟩
      · change IsEnd session.liveness last
        rw [finished] at isEnd
        rwa [still]
      · rw [none, append_nil]
        exact (congrArg (run.delivered ++ ·) same).trans events
    · obtain ⟨last', isEnd', events'⟩ := takes.moves.events finished
      unfold IsEnd at isEnd
      rw [if_neg finished] at isEnd
      refine ⟨last', isEnd', ?_⟩
      change run.delivered ++ session.events = _
      rw [events', ← append_assoc, ← append_assoc, events, isEnd, append_nil]
  ended finished := by
    refine ⟨takes.moves.sound.ended finished, ?_⟩
    rcases ended finished with before | read | ⟨id, late⟩
    · rcases (accounts.ended before).2 with read | ⟨id, late⟩
      · exact .inl ((takes.moves.still before).2.2.2.1.trans read)
      · exact .inr ⟨id, mem_append_left new late⟩
    · exact .inl read
    · exact .inr ⟨id, mem_append_right _ late⟩
  numbered := numbered

theorem accounts_pop {session : IpcSession} (accounts : Accounts fromStr stream { run with session := session } account) :
    Accounts fromStr stream { run with
        session := session.popFront.2
        delivered := run.delivered ++ session.popFront.1.toList } account where
  bytes := accounts.bytes
  plain := accounts.plain
  right := accounts.right
  events := by
    obtain ⟨last, isEnd, events⟩ := accounts.events
    refine ⟨last, isEnd, ?_⟩
    change (run.delivered ++ session.popFront.1.toList) ++ session.popFront.2.events = _
    rw [append_assoc, IpcSession.popFront_events]
    exact events
  ended := accounts.ended
  numbered := accounts.numbered

theorem writeCommand_session (command : List Value) (written : Except String Unit) (s : IpcSession) :
    ∃ liveness, (s.writeCommand command written).2 = { s with nextRequestId := s.nextRequestId + 1, liveness := liveness } ∧
      (liveness = s.liveness ∨ s.liveness = .opened ∧ liveness = .quitting) ∧
      (s.writeCommand command written).1 = match written with
        | .error error => .error (.io error)
        | .ok _ => .ok s.nextRequestId := by
  unfold IpcSession.writeCommand
  cases written with
  | error error => exact ⟨_, rfl, .inl rfl, rfl⟩
  | ok _ =>
    dsimp only
    split
    · rename_i quits
      exact ⟨.quitting, rfl, .inr ⟨quits.2, rfl⟩, rfl⟩
    · exact ⟨s.liveness, rfl, .inl rfl, rfl⟩

/-- The session is sound, its results are numbered below the next request, and the stream is
    accounted for. -/
structure Kept (fromStr : String → Except String Value) (stream : List UInt8) (run : IpcRun) :
    Prop where
  sound : run.session.Sound
  numbers : ∀ reply ∈ run.replies, reply.1 < run.session.nextRequestId
  account : ∃ account, Accounts fromStr stream run account

theorem start_kept (fromStr : String → Except String Value) (stream : List UInt8) : Kept fromStr stream (start stream) := by
  refine ⟨⟨fun ended => ?_, fun gone => ?_⟩, by simp [start], [], rfl, by simp, by simp,
    ⟨[], rfl, rfl⟩, fun ended => ?_, by simp [start]⟩
  · cases ended
  · rcases gone with gone | gone <;> cases gone
  · cases ended

theorem Kept.write (kept : Kept fromStr stream run) (command : List Value) (written : Except String Unit) :
    Kept fromStr stream { run with session := (run.session.writeCommand command written).2 } := by
  obtain ⟨liveness, after, how, -⟩ := writeCommand_session command written run.session
  obtain ⟨account, accounts⟩ := kept.account
  have same : liveness = .ended ↔ run.session.liveness = .ended := by
    rcases how with rfl | ⟨before, rfl⟩
    · exact Iff.rfl
    · simp [before]
  rw [after]
  refine ⟨⟨fun ended => kept.sound.ended (same.mp ended), fun gone => ?_⟩, fun reply member => ?_,
    account, ⟨accounts.bytes, accounts.plain, accounts.right, ?_, fun ended =>
      accounts.ended (same.mp ended), accounts.numbered⟩⟩
  · rcases how with rfl | ⟨before, rfl⟩
    · exact kept.sound.closed gone
    · rcases gone with gone | gone <;> cases gone
  · exact Nat.lt_succ_of_lt (kept.numbers reply member)
  · obtain ⟨last, isEnd, events⟩ := accounts.events
    refine ⟨last, ?_, events⟩
    unfold IsEnd at isEnd ⊢
    simpa [same] using isEnd

theorem Kept.answer {s : IpcSession} {id : Nat} {result : Except MpvError Value}
    (spent : Kept fromStr stream { run with session := s })
    (fresh : ∀ reply ∈ run.replies, reply.1 < id) (number : s.nextRequestId = id + 1)
    (takes : IpcSession.Takes fromStr s (run.replies ++ [(id, result)]) more session)
    (ended : session.liveness = .ended → s.liveness = .ended ∨ session.stream = [] ∨ (id, .error .timeout) ∈ [(id, result)]) :
    Kept fromStr stream { run with session := session, replies := run.replies ++ [(id, result)] } := by
  obtain ⟨account, accounts⟩ := spent.account
  have numbered : ((run.replies ++ [(id, result)]).map (·.1)).Nodup := by
    rw [map_append, nodup_append]
    refine ⟨accounts.numbered, by simp, ?_⟩
    intro old there new last
    obtain ⟨reply, member, rfl⟩ := mem_map.mp there
    have below := fresh reply member
    simp only [map_cons, map_nil, mem_singleton] at last
    omega
  refine ⟨takes.moves.sound, fun reply member => ?_, account ++ more,
    @accounts_extend fromStr stream { run with session := s } account more session [(id, result)]
      accounts takes (fun finished => (ended finished).imp_right (.imp_right fun late => ⟨id, late⟩))
      numbered⟩
  have after : session.nextRequestId = id + 1 := takes.moves.number.trans number
  change reply.1 < session.nextRequestId
  rcases mem_append.mp member with early | late
  · have below := fresh reply early
    omega
  · rw [mem_singleton.mp late]
    omega

theorem Kept.step (kept : Kept fromStr stream run) (call : Call) : Kept fromStr stream (run.step fromStr call) := by
  cases call with
  | nextEvent reading =>
    obtain ⟨account, accounts⟩ := kept.account
    obtain ⟨more, session, takes, gives, ended⟩ :=
      @IpcSession.nextEvent_takes run.session reading fromStr (run.replies ++ []) kept.sound
    have extended := accounts_extend accounts takes (fun finished => (ended finished).imp_right .inl)
      (by simpa using accounts.numbered)
    rw [append_nil] at extended
    unfold IpcRun.step
    dsimp only
    rw [gives]
    refine ⟨⟨takes.moves.sound.ended, takes.moves.sound.closed⟩, fun reply member => ?_, account ++ more, accounts_pop extended⟩
    exact takes.moves.number ▸ kept.numbers reply member
  | send command written =>
    have sent : (run.session.send command written).2 = (run.session.writeCommand command written).2 := by
      unfold IpcSession.send
      rcases run.session.writeCommand command written with ⟨_ | _, _⟩ <;> rfl
    unfold IpcRun.step
    dsimp only
    rw [sent]
    exact kept.write command written
  | request command written reading waits =>
    have spent := kept.write command written
    obtain ⟨liveness, after, -, result⟩ := writeCommand_session command written run.session
    have number : (run.session.writeCommand command written).2.nextRequestId = run.session.nextRequestId + 1 := by rw [after]
    unfold IpcRun.step IpcSession.request
    dsimp only
    rcases wrote : run.session.writeCommand command written with ⟨error | id, s₁⟩
    · rw [wrote] at spent number
      dsimp only at spent number ⊢
      have none : IpcSession.Takes fromStr s₁ (run.replies ++ [(run.session.nextRequestId, .error error)]) [] s₁ := by
        refine ⟨⟨rfl, fun ended => ⟨rfl, rfl, rfl, rfl, ended⟩, fun going => ?_, spent.sound, rfl⟩, by simp, by simp⟩
        exact ⟨[], IpcSession.isEnd_nil going, by simp⟩
      exact spent.answer kept.numbers number none .inl
    · rw [wrote] at spent number result
      have own : id = run.session.nextRequestId := by cases written <;> simp_all
      subst own
      dsimp only at spent number ⊢
      have own : (run.session.nextRequestId, (s₁.awaitReply fromStr run.session.nextRequestId reading waits).1) ∈
            run.replies ++ [(run.session.nextRequestId, (s₁.awaitReply fromStr run.session.nextRequestId reading waits).1)] :=
        mem_append_right _ mem_cons_self
      obtain ⟨more, takes, ended⟩ := IpcSession.awaitReply_takes spent.sound own
      refine spent.answer kept.numbers number takes fun finished => (ended finished).imp_right (.imp_right fun late => ?_)
      rcases mem_append.mp late with early | last
      · exact absurd (kept.numbers _ early) (Nat.lt_irrefl _)
      · exact last

end IpcRun

end Mbv.Mpv
