import Mbv.Mpv.IpcHistory

/-! A request gets its reply past the lines before it, and the end event comes last. -/

namespace Mbv.Mpv

open Delimited List

def arrivals : List UInt8 → List (Except String Reading) → List UInt8
  | stream, .ok next :: waits =>
    stream.take (next.count stream) ++ arrivals (stream.drop (next.count stream)) waits
  | _, _ => []

theorem arrivals_nil (waits : List (Except String Reading)) : arrivals [] waits = [] := by
  induction waits with
  | nil => rfl
  | cons wait waits ih =>
    cases wait with
    | error error => rfl
    | ok next => simp [arrivals, ih]

def Reading.Works (reading : Reading) : Prop := ∀ error, reading.ends ≠ .failed error

namespace IpcSession

variable {fromStr : String → Except String Value} {s : IpcSession} {id : Nat}
  {before : List (List UInt8)} {line rest more : List UInt8} {result : Except MpvError Value}

def arriving (s : IpcSession) (waits : List (Except String Reading)) : List UInt8 :=
  s.received ++ if s.liveness.isOpen then arrivals s.stream waits else []

/-- The line ends a request for the reply `id`, with this result. -/
def Stops (fromStr : String → Except String Value) (id : Nat) (line : List UInt8)
    (result : Except MpvError Value) : Prop :=
  (∃ value, verdict fromStr (some id) line = .reply value ∧ result = replyData value) ∨
    ∃ text, verdict fromStr (some id) line = .undecodable text ∧ result = .error (.decode text)

theorem accepts_until {out : Except MpvError (Option Value) × IpcSession} (accepts : Accepts fromStr (some id) s out)
    (events : ∀ l ∈ before, ∃ event, verdict fromStr (some id) l = .event event)
    (plain : ∀ l ∈ before, 10 ∉ l) (bare : 10 ∉ line) (stops : Stops fromStr id line result)
    (whole : s.received ++ more = joined 10 before ++ (line ++ 10 :: rest)) :
    out.1 = result.map some ∨ out.1 = .ok none ∧ out.2.liveness = s.liveness ∧ out.2.stream = s.stream ∧
        10 ∉ out.2.received ∧ ∃ later, later <:+ before ∧ out.2.received ++ more = joined 10 later ++ (line ++ 10 :: rest) := by
  induction accepts generalizing before with
  | done missing => exact .inr ⟨rfl, rfl, rfl, missing, before, suffix_rfl, whole⟩
  | @event s first tail event out received apart is _ ih =>
    rw [received, append_assoc, cons_append] at whole
    cases before with
    | nil =>
      obtain ⟨rfl, -⟩ := record_unique apart bare whole
      rcases stops with ⟨value, reply, -⟩ | ⟨text, undecodable, -⟩
      · rw [is] at reply
        cases reply
      · rw [is] at undecodable
        cases undecodable
    | cons b before =>
      rw [joined_cons, append_assoc, cons_append] at whole
      obtain ⟨rfl, tails⟩ := record_unique apart (plain b mem_cons_self) whole
      rcases ih (fun l member => events l (mem_cons_of_mem _ member))
        (fun l member => plain l (mem_cons_of_mem _ member)) tails with
        found | ⟨none, live, unread, missing, later, suffix, left⟩
      · exact .inl found
      · exact .inr ⟨none, live, unread, missing, later, suffix.trans (suffix_cons ..), left⟩
  | @reply s first tail value received apart is =>
    rw [received, append_assoc, cons_append] at whole
    cases before with
    | nil =>
      obtain ⟨rfl, -⟩ := record_unique apart bare whole
      rcases stops with ⟨value', reply, rfl⟩ | ⟨text, undecodable, -⟩
      · rw [is] at reply
        cases reply
        exact .inl rfl
      · rw [is] at undecodable
        cases undecodable
    | cons b before =>
      rw [joined_cons, append_assoc, cons_append] at whole
      obtain ⟨rfl, -⟩ := record_unique apart (plain b mem_cons_self) whole
      obtain ⟨event, other⟩ := events first mem_cons_self
      rw [is] at other
      cases other
  | @undecodable s first tail text received apart is =>
    rw [received, append_assoc, cons_append] at whole
    cases before with
    | nil =>
      obtain ⟨rfl, -⟩ := record_unique apart bare whole
      rcases stops with ⟨value', reply, rfl⟩ | ⟨text, undecodable, rfl⟩
      · rw [is] at reply
        cases reply
      · rw [is] at undecodable
        cases undecodable
        exact .inl rfl
    | cons b before =>
      rw [joined_cons, append_assoc, cons_append] at whole
      obtain ⟨rfl, -⟩ := record_unique apart (plain b mem_cons_self) whole
      obtain ⟨event, other⟩ := events first mem_cons_self
      rw [is] at other
      cases other

theorem pump_accepted {reading : Reading} {awaiting : Option Nat} {s₁ : IpcSession}
    (available : s.readAvailable reading = (.ok (), s₁)) :
    (s.pump fromStr awaiting reading).1 = (s₁.acceptLines fromStr awaiting).1 ∧ ((s₁.acceptLines fromStr awaiting).1 = .ok none →
        (s.pump fromStr awaiting reading).2 = (s₁.acceptLines fromStr awaiting).2.queueEnd) ∧
      ∀ error, (s₁.acceptLines fromStr awaiting).1 = .error error →
        (s.pump fromStr awaiting reading).2 = (s₁.acceptLines fromStr awaiting).2 := by
  unfold pump
  rw [available]
  dsimp only
  rcases s₁.acceptLines fromStr awaiting with ⟨error | ⟨- | data⟩, s₂⟩
  · refine ⟨rfl, ?_, fun _ _ => rfl⟩
    intro all
    cases all
  · refine ⟨rfl, fun _ => rfl, ?_⟩
    intro _ fault
    cases fault
  · constructor
    · rfl
    · constructor
      · intro all
        cases all
      · intro _ fault
        cases fault

theorem readAvailable_arriving {reading : Reading} (waits : List (Except String Reading)) (works : reading.Works) :
    ∃ s₁, s.readAvailable reading = (.ok (), s₁) ∧ (s.arriving (.ok reading :: waits) = s₁.received ∨
        s₁.liveness.isOpen = true ∧ s.arriving (.ok reading :: waits) = s₁.received ++ arrivals s₁.stream waits) := by
  unfold arriving
  cases live : s.liveness.isOpen with
  | false =>
    refine ⟨s, readAvailable_closed live, .inl ?_⟩
    simp
  | true =>
    obtain ⟨liveness, after, how⟩ := @readAvailable_open s reading live
    refine ⟨(s.readAvailable reading).2, ?_, ?_⟩
    · rcases how with ⟨-, fine, -⟩ | ⟨-, fine, -⟩ | ⟨error, failed, -⟩
      · exact Prod.ext fine rfl
      · exact Prod.ext fine rfl
      · exact absurd failed (works error)
    · rw [after, if_pos rfl, arrivals, ← append_assoc]
      rcases how with ⟨ends, -, -⟩ | ⟨-, -, same⟩ | ⟨error, failed, -⟩
      · refine .inl ?_
        have all : reading.count s.stream = s.stream.length := by
          unfold Reading.count
          rw [if_pos ends]
        rw [all, drop_length, arrivals_nil, append_nil]
        rfl
      · exact .inr ⟨show liveness.isOpen = true by rw [same, live], rfl⟩
      · exact absurd failed (works error)

theorem queueEnd_open (live : s.liveness.isOpen = true) : s.queueEnd = s := by
  unfold queueEnd
  rcases isOpen_cases live with same | same <;> simp [same]

theorem pump_until {reading : Reading} {waits : List (Except String Reading)} (works : reading.Works)
    (events : ∀ l ∈ before, ∃ event, verdict fromStr (some id) l = .event event)
    (plain : ∀ l ∈ before, 10 ∉ l) (bare : 10 ∉ line) (stops : Stops fromStr id line result)
    (whole : s.arriving (.ok reading :: waits) = joined 10 before ++ (line ++ 10 :: rest)) :
    (s.pump fromStr (some id) reading).1 = result.map some ∨
      ∃ s₂ later, s.pump fromStr (some id) reading = (.ok none, s₂) ∧ s₂.liveness.isOpen = true ∧
        10 ∉ s₂.received ∧ later <:+ before ∧
        s₂.arriving waits = joined 10 later ++ (line ++ 10 :: rest) := by
  obtain ⟨s₁, available, arrives⟩ := @readAvailable_arriving s reading waits works
  obtain ⟨pumped, left, -⟩ := @pump_accepted fromStr s reading (some id) s₁ available
  have held : ∃ more, s.arriving (.ok reading :: waits) = s₁.received ++ more ∧
      (more = [] ∨ s₁.liveness.isOpen = true ∧ more = arrivals s₁.stream waits) := by
    rcases arrives with all | ⟨live, part⟩
    · exact ⟨[], all.trans (append_nil _).symm, .inl rfl⟩
    · exact ⟨_, part, .inr ⟨live, rfl⟩⟩
  obtain ⟨more, split, how⟩ := held
  rw [split] at whole
  rcases accepts_until (@acceptLines_accepts fromStr (some id) s₁) events plain bare stops whole with
    found | ⟨none, same, unread, missing, later, suffix, remains⟩
  · exact .inl (pumped.trans found)
  · rcases how with rfl | ⟨live, rfl⟩
    · rw [append_nil] at remains
      rw [remains] at missing
      simp at missing
    · have live' := (congrArg Liveness.isOpen same).trans live
      have after := (left none).trans (queueEnd_open live')
      refine .inr ⟨_, later, Prod.ext (pumped.trans none) after, live', missing, suffix, ?_⟩
      unfold arriving
      rw [live', if_pos rfl, unread]
      exact remains

theorem awaitReply_until {reading : Reading} {waits : List (Except String Reading)}
    (works : reading.Works) (later : ∀ wait ∈ waits, ∃ next, wait = .ok next ∧ next.Works)
    (events : ∀ l ∈ before, ∃ event, verdict fromStr (some id) l = .event event)
    (plain : ∀ l ∈ before, 10 ∉ l) (bare : 10 ∉ line) (stops : Stops fromStr id line result)
    (whole : s.arriving (.ok reading :: waits) = joined 10 before ++ (line ++ 10 :: rest)) :
    (s.awaitReply fromStr id reading waits).1 = result := by
  induction waits generalizing s reading before with
  | nil =>
    rcases pump_until works events plain bare stops whole with
      found | ⟨s₂, later, -, live, missing, -, remains⟩
    · rw [awaitReply_stops found]
    · unfold arriving at remains
      rw [live, if_pos rfl, arrivals, append_nil] at remains
      · rw [remains] at missing
        simp at missing
      · intro _ _ same
        cases same
  | cons wait waits ih =>
    rcases pump_until works events plain bare stops whole with
      found | ⟨s₂, left, pumped, live, -, suffix, remains⟩
    · rw [awaitReply_stops found]
    · obtain ⟨next, rfl, next_works⟩ := later wait mem_cons_self
      rw [awaitReply_goesOn pumped, live, if_pos rfl]
      exact ih next_works (fun wait member => later wait (mem_cons_of_mem _ member))
        (fun l member => events l (suffix.subset member))
        (fun l member => plain l (suffix.subset member)) remains

end IpcSession

/-! ### A request and the lines before its reply -/

/-- The success reply of a request arrives within its time, after the lines `before`. -/
structure AnswersInTime (fromStr : String → Except String Value) (s : IpcSession)
    (written : Except String Unit) (reading : Reading) (waits : List (Except String Reading))
    (before : List (List UInt8)) (data : Value) : Prop where
  written : written = .ok ()
  works : reading.Works
  later : ∀ wait ∈ waits, ∃ next, wait = .ok next ∧ next.Works
  plain : ∀ l ∈ before, 10 ∉ l
  others : ∀ l ∈ before, ∀ value, fromStr (fromUtf8Lossy l) = .ok value →
    value.requestId ≠ some s.nextRequestId
  arrives : ∃ line rest value,
    s.arriving (.ok reading :: waits) = joined 10 before ++ (line ++ 10 :: rest) ∧ 10 ∉ line ∧
    fromStr (fromUtf8Lossy line) = .ok value ∧ value.requestId = some s.nextRequestId ∧
    replyData value = .ok data

namespace IpcRun

variable (fromStr : String → Except String Value)

/-- A request whose success reply arrives in time returns it, whatever lines come before it. -/
def Succeeds (run : IpcRun) : Call → Prop
  | .request command written reading waits => ∀ before data,
      AnswersInTime fromStr run.session written reading waits before data →
      (run.session.request fromStr command written reading waits).1 = .ok data
  | _ => True

def Readable (run : IpcRun) : Call → Prop
  | .request _ written reading waits => ∀ before data,
      AnswersInTime fromStr run.session written reading waits before data →
      ∀ line ∈ before, ∃ event, decodeLine fromStr line = .ok event
  | _ => True

variable {fromStr}

theorem request_awaits (s : IpcSession) (command : List Value) (reading : Reading) (waits : List (Except String Reading)) :
    (s.request fromStr command (.ok ()) reading waits).1 =
        ((s.writeCommand command (.ok ())).2.awaitReply fromStr s.nextRequestId reading waits).1 ∧
      (s.writeCommand command (.ok ())).2.arriving (.ok reading :: waits) = s.arriving (.ok reading :: waits) := by
  obtain ⟨liveness, after, how, result⟩ := writeCommand_session command (.ok ()) s
  constructor
  · unfold IpcSession.request
    rcases wrote : s.writeCommand command (.ok ()) with ⟨out, s₁⟩
    rw [wrote] at result
    dsimp only at result
    subst result
    rfl
  · rw [after]
    unfold IpcSession.arriving
    rcases how with rfl | ⟨opened, rfl⟩
    · rfl
    · rw [opened]
      rfl

theorem verdict_other {id : Nat} {line : List UInt8}
    (other : ∀ value, fromStr (fromUtf8Lossy line) = .ok value → value.requestId ≠ some id) :
    (∃ event, IpcSession.verdict fromStr (some id) line = .event event ∧ decodeLine fromStr line = .ok event) ∨
      ∃ text, IpcSession.verdict fromStr (some id) line = .undecodable text ∧ decodeLine fromStr line = .error text := by
  cases is : IpcSession.verdict fromStr (some id) line with
  | reply value =>
    obtain ⟨parsed, id', own, carried⟩ := IpcSession.verdict_reply is
    cases own
    exact absurd carried (other value parsed)
  | undecodable text => exact .inr ⟨text, rfl, IpcSession.verdict_undecodable is⟩
  | event event => exact .inl ⟨event, rfl, IpcSession.verdict_event is⟩

theorem verdict_own {id : Nat} {line : List UInt8} {value : Value}
    (parsed : fromStr (fromUtf8Lossy line) = .ok value) (carried : value.requestId = some id) :
    IpcSession.verdict fromStr (some id) line = .reply value := by
  unfold IpcSession.verdict
  rw [parsed]
  dsimp only
  rw [if_pos ⟨rfl, carried⟩]

theorem request_succeeds_iff {s : IpcSession} {command : List Value} {written : Except String Unit}
    {reading : Reading} {waits : List (Except String Reading)} {before : List (List UInt8)}
    {data : Value} (answers : AnswersInTime fromStr s written reading waits before data) :
    (s.request fromStr command written reading waits).1 = .ok data ↔
      ∀ line ∈ before, ∃ event, decodeLine fromStr line = .ok event := by
  obtain ⟨line, rest, value, whole, bare, parsed, carried, success⟩ := answers.arrives
  rw [answers.written]
  obtain ⟨awaits, arriving⟩ := @request_awaits fromStr s command reading waits
  rw [awaits]
  rw [← arriving] at whole
  constructor
  · intro returned
    cases found : before.find? fun l => !(decodeLine fromStr l).isOk with
    | none =>
      intro l member
      have fine := List.find?_eq_none.mp found l member
      cases decoded : decodeLine fromStr l with
      | ok event => exact ⟨event, rfl⟩
      | error text => simp [decoded, Except.isOk, Except.toBool] at fine
    | some bad =>
      obtain ⟨fault, early, late, rfl, fine⟩ := List.find?_eq_some_iff_append.mp found
      have stops : ∃ text, IpcSession.verdict fromStr (some s.nextRequestId) bad = .undecodable text := by
        rcases verdict_other (answers.others bad (by simp)) with ⟨event, -, decoded⟩ | ⟨text, is, -⟩
        · simp [decoded, Except.isOk, Except.toBool] at fault
        · exact ⟨text, is⟩
      obtain ⟨text, is⟩ := stops
      rw [joined_append, joined_cons, append_assoc, append_assoc, cons_append] at whole
      have failed := IpcSession.awaitReply_until answers.works answers.later
        (fun l member => ?_) (fun l member => answers.plain l (by simp [member]))
        (answers.plain bad (by simp)) (.inr ⟨text, is, rfl⟩) whole
      · rw [failed] at returned
        cases returned
      · rcases verdict_other (answers.others l (by simp [member])) with
          ⟨event, is, -⟩ | ⟨text, -, decoded⟩
        · exact ⟨event, is⟩
        · have good := fine l member
          simp [decoded, Except.isOk, Except.toBool] at good
  · intro readable
    have replied := IpcSession.awaitReply_until answers.works answers.later
      (fun l member => ?_) answers.plain bare (.inl ⟨value, verdict_own parsed carried, rfl⟩) whole
    · rw [replied, success]
    · obtain ⟨event, decoded⟩ := readable l member
      rcases verdict_other (answers.others l member) with ⟨event, is, -⟩ | ⟨text, -, fault⟩
      · exact ⟨event, is⟩
      · rw [fault] at decoded
        cases decoded

end IpcRun

/-! ### The end of the stream -/

namespace IpcSession

variable {fromStr : String → Except String Value} {s : IpcSession} {reading : Reading}

/-- How many events there still are, with the end event, if every line left is one. -/
def remaining (s : IpcSession) : Nat :=
  s.events.length +
    if s.liveness = .ended then 0 else (s.received ++ s.stream).count 10 + 1

theorem remaining_zero (none : s.remaining = 0) : s.events = [] ∧ s.liveness = .ended := by
  unfold remaining at none
  split at none
  · rename_i ended
    exact ⟨eq_nil_of_length_eq_zero none, ended⟩
  · omega

theorem count_joined {lines : List (List UInt8)} (plain : ∀ line ∈ lines, 10 ∉ line) :
    (joined 10 lines).count 10 = lines.length := by
  induction lines with
  | nil => rfl
  | cons line lines ih =>
    have here := count_eq_zero.mpr (plain line mem_cons_self)
    rw [joined_cons, count_append, count_cons_self, here,
      ih fun line member => plain line (mem_cons_of_mem _ member), length_cons, Nat.zero_add]

theorem popFront_remaining (some : s.events ≠ []) : s.popFront.2.remaining = s.remaining - 1 := by
  unfold popFront remaining
  cases events : s.events with
  | nil => exact absurd events some
  | cons event events =>
    simp only [tail_cons, length_cons]
    omega

theorem readAvailable_gone (gone : reading.ends = .closed) :
    ∃ s₁, s.readAvailable reading = (.ok (), s₁) ∧ s₁.liveness.isOpen = false := by
  cases live : s.liveness.isOpen with
  | false => exact ⟨s, readAvailable_closed live, live⟩
  | true =>
    obtain ⟨liveness, after, ⟨-, fine, how⟩ | ⟨other, -⟩ | ⟨error, other, -⟩⟩ := @readAvailable_open s reading live
    · refine ⟨(s.readAvailable reading).2, Prod.ext fine rfl, ?_⟩
      apply (congrArg (·.liveness.isOpen) after).trans
      rcases how with rfl | rfl <;> rfl
    · rw [gone] at other
      cases other
    · rw [gone] at other
      cases other

theorem queueEnd_gone (going : s.liveness ≠ .ended) (closed : s.liveness.isOpen = false) :
    s.queueEnd.liveness = .ended ∧ ∃ last, s.queueEnd.events = s.events ++ [last] := by
  unfold queueEnd
  cases live : s.liveness with
  | opened =>
    rw [live] at closed
    cases closed
  | quitting =>
    rw [live] at closed
    cases closed
  | peerClosed => exact ⟨rfl, _, rfl⟩
  | peerClosedAfterQuit => exact ⟨rfl, _, rfl⟩
  | ended => exact absurd live going

theorem nextEvent_ok {out : Option Value} (empty : s.events = []) (fine : (s.pump fromStr none reading).1 = .ok out) :
    s.nextEvent fromStr reading = (s.pump fromStr none reading).2.popFront := by
  unfold nextEvent
  rw [empty, isEmpty_nil, if_pos rfl]
  rcases pumped : s.pump fromStr none reading with ⟨result, s₁⟩
  rw [pumped] at fine
  cases fine
  rfl

theorem nextEvent_error {error : MpvError} (empty : s.events = []) (fault : (s.pump fromStr none reading).1 = .error error) :
    s.nextEvent fromStr reading = popFront { (s.pump fromStr none reading).2 with
        events := (s.pump fromStr none reading).2.events ++ [.failed (.other error.toString)] } := by
  unfold nextEvent
  rw [empty, isEmpty_nil, if_pos rfl]
  rcases pumped : s.pump fromStr none reading with ⟨result, s₁⟩
  rw [pumped] at fault
  cases fault
  rfl

/-- Once the peer is gone, an empty queue is filled with one event for every line read. -/
theorem nextEvent_fills (sound : s.Sound) (gone : reading.ends = .closed) (empty : s.events = []) (going : s.liveness ≠ .ended) :
    ∃ s₂ : IpcSession, s.nextEvent fromStr reading = s₂.popFront ∧ s₂.events ≠ [] ∧ s₂.remaining = s.remaining := by
  obtain ⟨s₁, available, closed⟩ := @readAvailable_gone s reading gone
  obtain ⟨first, kept⟩ := @readAvailable_moves s reading sound
  rw [available] at first kept
  have going₁ : s₁.liveness ≠ .ended := kept going
  have empty₁ : s₁.events = [] := by
    obtain ⟨last, isEnd, events⟩ := first.events going
    unfold IsEnd at isEnd
    rw [if_neg going₁] at isEnd
    rw [events, isEnd, empty]
    rfl
  have unread : s₁.stream = [] := by
    apply first.sound.closed
    cases live : s₁.liveness <;> simp_all [Liveness.isOpen]
  have total : s.remaining = (s₁.received ++ s₁.stream).count 10 + 1 := by
    unfold remaining
    rw [if_neg going, empty, first.bytes]
    exact Nat.zero_add _
  obtain ⟨pumped, all, failed⟩ := @pump_accepted fromStr s reading none s₁ available
  obtain ⟨read, decoded, how⟩ := (@acceptLines_accepts fromStr none s₁).moves first.sound
  have plain : ∀ line ∈ read.map (·.1), 10 ∉ line := by
    intro line member
    obtain ⟨entry, there, rfl⟩ := mem_map.mp member
    exact (decoded entry there).1
  rcases how with ⟨result, missing, same, left, moves⟩ | ⟨-, same, line, bare, moves, stop⟩
  · obtain ⟨ended, last, events⟩ := queueEnd_gone (same ▸ going₁) (same ▸ closed)
    obtain ⟨queued, isEnd, events'⟩ := moves.events going₁
    unfold IsEnd at isEnd
    rw [if_neg (same ▸ going₁)] at isEnd
    refine ⟨_, nextEvent_ok empty (pumped.trans result), ?_⟩
    rw [all result]
    constructor
    · rw [events]
      simp
    · rw [total, moves.bytes, count_append, count_joined plain, left, unread, append_nil, count_eq_zero.mpr missing]
      unfold remaining
      rw [if_pos ended, events, events', isEnd, empty₁]
      simp
  · rcases stop with ⟨id, _, awaited, -⟩ | ⟨text, -, result⟩
    · cases awaited
    · have after := failed _ result
      obtain ⟨queued, isEnd, events⟩ := moves.events going₁
      have going₂ : (s₁.acceptLines fromStr none).2.liveness ≠ .ended := same ▸ going₁
      unfold IsEnd at isEnd
      rw [if_neg going₂] at isEnd
      refine ⟨_, nextEvent_error empty (pumped.trans result), by simp, ?_⟩
      have lines : ∀ l ∈ read.map (·.1) ++ [line], 10 ∉ l := by
        intro l member
        rcases mem_append.mp member with early | last
        · exact plain l early
        · exact mem_singleton.mp last ▸ bare
      rw [total, moves.bytes, count_append, count_joined lines, after]
      unfold remaining
      rw [if_neg going₂, events, isEnd, empty₁]
      simp
      omega

theorem nextEvent_remaining (sound : s.Sound) (gone : reading.ends = .closed) :
    (s.nextEvent fromStr reading).2.remaining = s.remaining - 1 := by
  cases queued : s.events with
  | cons event events =>
    rw [nextEvent_queued queued, popFront_remaining (by simp [queued])]
  | nil =>
    by_cases ended : s.liveness = .ended
    · have pumped := @pump_ended s reading fromStr none sound ended
      rw [nextEvent_ok queued (congrArg Prod.fst pumped), pumped]
      unfold popFront remaining
      rw [if_pos ended, queued]
      rfl
    · obtain ⟨s₂, given, some, same⟩ := @nextEvent_fills fromStr s reading sound gone queued ended
      rw [given, popFront_remaining some, same]

end IpcSession

namespace IpcRun

variable (fromStr : String → Except String Value) (stream : List UInt8)

/-- Once mpv is gone, `next_event` gives the events left and then the one end event, and no more. -/
def Settles (run : IpcRun) : Prop :=
  ∀ readings : List Reading, (∀ reading ∈ readings, reading.ends = .closed) →
    run.session.remaining ≤ readings.length →
    ∃ account last, (last = .shutdown ∨ last = .failed .processExited) ∧
      Accounts fromStr stream ((machine fromStr).run run (readings.map .nextEvent)) account ∧
      ((machine fromStr).run run (readings.map .nextEvent)).delivered =
        account.filterMap Entry.event? ++ [last] ∧
      ((machine fromStr).run run (readings.map .nextEvent)).session.liveness = .ended ∧
      10 ∉ ((machine fromStr).run run (readings.map .nextEvent)).session.received

/-- The session neither loses, duplicates nor reorders what mpv wrote, over the step. -/
structure Faithful (run : IpcRun) (call : Call) : Prop where
  accounted : ∃ account, Accounts fromStr stream (run.step fromStr call) account
  settles : Settles fromStr stream (run.step fromStr call)
  succeeds : run.Succeeds fromStr call

variable {fromStr stream}

theorem run_remaining {run : IpcRun} (kept : Kept fromStr stream run) {readings : List Reading}
    (gone : ∀ reading ∈ readings, reading.ends = .closed) :
    ((machine fromStr).run run (readings.map .nextEvent)).session.remaining = run.session.remaining - readings.length := by
  induction readings generalizing run with
  | nil => rfl
  | cons reading readings ih =>
    have first : (run.step fromStr (.nextEvent reading)).session.remaining = run.session.remaining - 1 :=
      IpcSession.nextEvent_remaining kept.sound (gone reading mem_cons_self)
    have rest := ih (kept.step (.nextEvent reading)) fun later member => gone later (mem_cons_of_mem _ member)
    rw [map_cons, Machine.run_cons, length_cons]
    change ((machine fromStr).run (run.step fromStr (.nextEvent reading)) _).session.remaining = _
    rw [rest, first]
    omega

theorem Kept.settles {run : IpcRun} (kept : Kept fromStr stream run) : Settles fromStr stream run := by
  intro readings gone enough
  have left := run_remaining kept gone
  have drained : Kept fromStr stream ((machine fromStr).run run (readings.map .nextEvent)) :=
    @Machine.run_holds _ _ (machine fromStr) (Kept fromStr stream) (fun _ call kept => Kept.step kept call) _ _ kept
  generalize (machine fromStr).run run (readings.map .nextEvent) = last at left drained
  obtain ⟨empty, ended⟩ := IpcSession.remaining_zero (show last.session.remaining = 0 by omega)
  obtain ⟨account, accounts⟩ := drained.account
  obtain ⟨final, isEnd, events⟩ := accounts.events
  unfold IsEnd at isEnd
  rw [if_pos ended] at isEnd
  rw [empty, append_nil] at events
  rcases isEnd with rfl | rfl
  · exact ⟨account, _, .inl rfl, accounts, events, ended, (accounts.ended ended).1⟩
  · exact ⟨account, _, .inr rfl, accounts, events, ended, (accounts.ended ended).1⟩

theorem succeeds_iff (run : IpcRun) (call : Call) : run.Succeeds fromStr call ↔ run.Readable fromStr call := by
  cases call with
  | request command written reading waits =>
    constructor
    · intro succeeds before data answers
      exact (request_succeeds_iff answers).mp (succeeds before data answers)
    · intro readable before data answers
      exact (request_succeeds_iff answers).mpr (readable before data answers)
  | _ => exact Iff.rfl

def successText : String := "\x7b\"request_id\":1,\"error\":\"success\"\x7d"

def successReply : Value :=
  .object [("request_id", .number (.posInt 1)), ("error", .string "success")]

def parseSample (text : String) : Except String Value :=
  if text = successText then .ok successReply else .error "expected value at line 1 column 1"

def successLine : List UInt8 := successText.toList.map fun c => c.val.toUInt8

def noisyStream : List UInt8 := [120, 10] ++ successLine ++ [10]

def readNow : Reading where
  cuts := [noisyStream.length]

theorem parseSample_success : parseSample (fromUtf8Lossy successLine) = .ok successReply := by
  unfold parseSample
  rw [if_pos (by decide +kernel)]

theorem parseSample_noise : parseSample (fromUtf8Lossy [120]) = .error "expected value at line 1 column 1" := by
  unfold parseSample
  rw [if_neg (by decide +kernel)]

theorem decode_noise : decodeLine parseSample [120] = .error "expected value at line 1 column 1" := by
  unfold decodeLine
  rw [parseSample_noise]

theorem noisy_answers : AnswersInTime parseSample (start noisyStream).session (.ok ()) readNow [] [[120]] .null where
  written := rfl
  works := by
    intro error failed
    cases failed
  later := by simp
  plain := by decide
  others := by
    intro line member value parsed
    rw [mem_singleton.mp member, parseSample_noise] at parsed
    cases parsed
  arrives := ⟨successLine, [], successReply, by decide +kernel, by decide +kernel, parseSample_success, rfl, rfl⟩

end IpcRun

end Mbv.Mpv
