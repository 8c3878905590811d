import Mathlib.Data.List.Nodup
import Mbv.RemotePlayer.Connection

namespace Mbv.RemotePlayer

open List

variable {π : Type*}

namespace Connection

variable (s : Connection π)

def endNotice : PlayerEvent π :=
  if s.received.any isStructuredDisconnect then .daemonShutdownAnnounced
  else .remoteDisconnected connectionLostMessage

def notices : List (PlayerEvent π) :=
  if s.expectedDisconnect then if s.reader = .ended then [.daemonShutdownAnnounced] else []
  else if s.disconnectNotified ∧ s.reader ≠ .notifying ∧ s.writer ≠ .notifying then
    [.remoteDisconnected connectionLostMessage]
  else []

end Connection

/-- A connection whose reader has ended, and whose writer is not at its own notice, has delivered
    every event it decoded and then the one notice that is due. -/
structure EndsOnce (s : Connection π) : Prop where
  atMostOne : (s.events.filter isEndNotice).length ≤ 1
  notice : s.reader = .ended → s.writer ≠ .notifying →
    s.events = s.received.flatMap applyCtrlEvent ++ [s.endNotice] ∧
      s.events.filter isEndNotice = [s.endNotice]
  idle : s.reader = .ended → s.pendingPlayback = []
  answered : s.reader = .ended → ∀ request ∈ s.registered, request ∉ s.givenUp →
    (s.answers.map Prod.fst).count request = 1

/-- The reader no longer clears the pending playbacks. -/
def Reader.hasCleared : Reader → Bool
  | .reading | .disconnecting | .clearing => false
  | .resolving | .announcing | .notifying | .ended => true

/-- The reader has taken the slot for the last time and has not ended. -/
def Reader.isLeaving : Reader → Bool
  | .announcing | .notifying => true
  | .reading | .disconnecting | .clearing | .resolving | .ended => false

/-- No event and no announced shutdown follows the writer's notice, the writer claims no notice
    once a shutdown was announced, no line carries a notice of its own, and nothing is registered
    that the reader has finished with. -/
def Orderly (s : Connection π) : Input π → Prop
  | .line (.decoded event) =>
    (∀ sent ∈ applyCtrlEvent event, isEndNotice sent = false) ∧
      (isStructuredDisconnect event = true → s.disconnectNotified = false)
  | .reader => s.outgoing ≠ [] → s.writer ≠ .ended
  | .writer => s.writer = .claiming → s.expectedDisconnect = false
  | .sendPlaybackIntent _ => s.writer = .ended ∨ s.reader.hasCleared = false
  | .requestShutdown => s.writer = .ended ∨ s.reader.isLeaving = false
  | .line _ | .streamEnd | .write _ | .sendCtrlCmd | .requestTimedOut => True

instance Orderly.decide [DecidableEq π] (s : Connection π) :
    ∀ input : Input π, Decidable (Orderly s input)
  | .line (.decoded event) => inferInstanceAs (Decidable
      ((∀ sent ∈ applyCtrlEvent event, isEndNotice sent = false) ∧
        (isStructuredDisconnect event = true → s.disconnectNotified = false)))
  | .reader => inferInstanceAs (Decidable (s.outgoing ≠ [] → s.writer ≠ .ended))
  | .writer => inferInstanceAs (Decidable (s.writer = .claiming → s.expectedDisconnect = false))
  | .sendPlaybackIntent _ =>
    inferInstanceAs (Decidable (s.writer = .ended ∨ s.reader.hasCleared = false))
  | .requestShutdown =>
    inferInstanceAs (Decidable (s.writer = .ended ∨ s.reader.isLeaving = false))
  | .line .blank | .line .undecodable | .line .notUtf8 | .streamEnd | .write _ | .sendCtrlCmd
  | .requestTimedOut => isTrue True.intro

/-! ### The notice -/

structure Told (s : Connection π) : Prop where
  stream : ∃ sent, s.received.flatMap applyCtrlEvent = sent ++ s.outgoing ∧
    s.events = sent ++ s.notices
  drained : s.reader ≠ .reading → s.outgoing = []
  plain : ∀ event ∈ s.received, ∀ sent ∈ applyCtrlEvent event, isEndNotice sent = false
  expected : s.expectedDisconnect = s.received.any isStructuredDisconnect
  unclaimed : s.expectedDisconnect = true → s.disconnectNotified = false
  readerClaimed : s.reader = .notifying → s.disconnectNotified = true ∧ s.writer ≠ .notifying
  writerClaimed : s.writer = .notifying → s.disconnectNotified = true
  held : s.disconnectNotified = true → s.reader = .reading →
    s.writer = .notifying ∨ s.writer = .ended
  ended : s.reader = .ended → s.expectedDisconnect = true ∨ s.disconnectNotified = true

section

variable {s : Connection π}

theorem answer_eq (response : ShutdownResponse) : ∃ shutdownRequest answers,
    s.answer response = { s with shutdownRequest, answers } := by
  unfold Connection.answer
  split
  · exact ⟨none, _, rfl⟩
  · exact ⟨s.shutdownRequest, s.answers, rfl⟩

theorem answerTo_eq (event : CtrlEvent π) : ∃ shutdownRequest answers,
    s.answerTo event = { s with shutdownRequest, answers } := by
  cases event with
  | shutdownAccepted => exact answer_eq .accepted
  | shutdownRejected reason => exact answer_eq (.rejected reason)
  | _ => exact ⟨s.shutdownRequest, s.answers, rfl⟩

theorem Told.receive (told : Told s) {event : CtrlEvent π} (reading : s.reader = .reading)
    (sent : s.outgoing = []) (plain : ∀ sent ∈ applyCtrlEvent event, isEndNotice sent = false)
    (unclaimed : isStructuredDisconnect event = true → s.disconnectNotified = false)
    (pendingPlayback : List Nat) :
    Told { s with
      expectedDisconnect := s.expectedDisconnect || isStructuredDisconnect event
      pendingPlayback
      outgoing := applyCtrlEvent event
      received := s.received ++ [event] } where
  stream := by
    obtain ⟨before, decoded, delivered⟩ := told.stream
    refine ⟨before, by simp [decoded, sent], delivered.trans ?_⟩
    congr 1
    unfold Connection.notices
    cases structured : isStructuredDisconnect event with
    | false => simp
    | true => simp [reading, unclaimed structured]
  drained := fun away => absurd reading away
  plain := by
    intro other member
    rcases mem_append.mp member with member | last
    · exact told.plain other member
    · rw [mem_singleton.mp last]
      exact plain
  expected := by
    dsimp only
    rw [told.expected, any_append, any_cons, any_nil, Bool.or_false]
  unclaimed := by
    intro expected
    rcases Bool.or_eq_true_iff.mp expected with before | structured
    · exact told.unclaimed before
    · exact unclaimed structured
  readerClaimed := told.readerClaimed
  writerClaimed := told.writerClaimed
  held := told.held
  ended := fun ended => by
    rw [show s.reader = .ended from ended] at reading
    cases reading

theorem Told.move (told : Told s) (reader : Reader) (sent : s.outgoing = []) (source : s.reader ≠ .notifying ∧ s.reader ≠ .ended)
    (target : reader ≠ .reading ∧ reader ≠ .notifying ∧ reader ≠ .ended) :
    Told { s with reader } := by
  refine { told with
    stream := ?_
    drained := fun _ => sent
    readerClaimed := fun notifying => absurd notifying target.2.1
    held := fun _ reading => absurd reading target.1
    ended := fun ended => absurd ended target.2.2 }
  obtain ⟨before, decoded, delivered⟩ := told.stream
  exact ⟨before, decoded, delivered.trans (by simp [Connection.notices, source, target])⟩

theorem Told.readLine (told : Told s) {line : Line π} (orderly : Orderly s (.line line)) : Told (s.readLine line) := by
  unfold Connection.readLine
  split
  · rename_i ready
    cases line with
    | blank => exact told
    | undecodable => exact told
    | decoded event =>
      have received := told.receive ready.1 ready.2 orderly.1 orderly.2 (s.forget event)
      obtain ⟨shutdownRequest, answers, same⟩ := answerTo_eq (s := s) event
      dsimp only [Connection.handleRemoteLine]
      rw [same]
      exact { received with }
    | notUtf8 => exact told.move .disconnecting ready.2 (by simp [ready.1]) (by simp)
  · exact told

theorem Told.streamEnd (told : Told s) : Told s.streamEnd := by
  unfold Connection.streamEnd
  split
  · rename_i ready
    exact told.move .disconnecting ready.2 (by simp [ready.1]) (by simp)
  · exact told

theorem Told.forward (told : Told s) {event : PlayerEvent π} {outgoing : List (PlayerEvent π)}
    (next : s.outgoing = event :: outgoing) (running : s.writer ≠ .ended) :
    Told { s with events := s.events ++ [event], outgoing } := by
  have reading : s.reader = .reading := by
    by_contra away
    rw [told.drained away] at next
    cases next
  have silent : s.notices = [] := by
    unfold Connection.notices
    split
    · simp [reading]
    · rw [if_neg]
      rintro ⟨notified, -, unclaimed⟩
      rcases told.held notified reading with claimed | ended
      · exact unclaimed claimed
      · exact running ended
  refine { told with
    stream := ?_
    drained := fun away => absurd reading away }
  obtain ⟨before, decoded, delivered⟩ := told.stream
  rw [next] at decoded
  rw [silent, append_nil] at delivered
  refine ⟨before ++ [event], by simp [decoded], ?_⟩
  change s.events ++ [event] = before ++ [event] ++ s.notices
  rw [delivered, silent, append_nil]

/-- A step of the leaving reader or of the failed writer that sends what `notices` then adds. -/
theorem Told.adds (told : Told s) {s' : Connection π} (sent : List (PlayerEvent π))
    (outgoing : s'.outgoing = []) (received : s'.received = s.received)
    (away : s.outgoing = []) (events : s'.events = s.events ++ sent)
    (notices : s'.notices = s.notices ++ sent) :
    ∃ before, s'.received.flatMap applyCtrlEvent = before ++ s'.outgoing ∧ s'.events = before ++ s'.notices := by
  obtain ⟨before, decoded, delivered⟩ := told.stream
  refine ⟨before, ?_, ?_⟩
  · rw [outgoing, received, decoded, away]
  · rw [events, notices, delivered, append_assoc]

theorem Told.announce (told : Told s) (announcing : s.reader = .announcing) : Told s.announce := by
  have sent := told.drained (by simp [announcing])
  unfold Connection.announce
  split
  · rename_i expected
    exact { told with
      stream := told.adds [.daemonShutdownAnnounced] sent rfl sent rfl
        (by simp [Connection.notices, expected, announcing])
      drained := fun _ => sent
      readerClaimed := by simp
      held := by simp
      ended := fun _ => .inl expected }
  · rename_i unexpected
    split
    · rename_i notified
      exact { told with
        stream := told.adds [] sent rfl sent (by simp)
          (by simp [Connection.notices, unexpected, announcing])
        drained := fun _ => sent
        readerClaimed := by simp
        held := by simp
        ended := fun _ => .inr notified }
    · rename_i free
      exact { told with
        stream := told.adds [] sent rfl sent (by simp)
          (by simp [Connection.notices, unexpected, free])
        drained := fun _ => sent
        unclaimed := fun expected => absurd expected unexpected
        readerClaimed := fun _ => ⟨rfl, fun claimed => free (told.writerClaimed claimed)⟩
        writerClaimed := fun _ => rfl
        held := by simp
        ended := by simp }

theorem Told.readRemoteEvents (told : Told s) (orderly : Orderly s .reader) : Told s.readRemoteEvents := by
  have sent := told.drained
  unfold Connection.readRemoteEvents
  split
  · split
    · exact told
    · rename_i next
      exact told.forward next (orderly (by simp [next]))
  · rename_i phase
    rw [phase] at sent
    exact { told.move .clearing (sent (by simp)) (by simp [phase]) (by simp) with }
  · rename_i phase
    rw [phase] at sent
    exact { told.move .resolving (sent (by simp)) (by simp [phase]) (by simp) with }
  · rename_i phase
    rw [phase] at sent
    obtain ⟨shutdownRequest, answers, same⟩ := answer_eq (s := s) .disconnected
    rw [same]
    exact { told.move .announcing (sent (by simp)) (by simp [phase]) (by simp) with }
  · exact told.announce ‹_›
  · rename_i phase
    rw [phase] at sent
    obtain ⟨notified, unclaimed⟩ := told.readerClaimed phase
    have unexpected : s.expectedDisconnect = false := by
      by_contra expected
      simp [told.unclaimed (by simpa using expected)] at notified
    exact { told with
      stream := told.adds [_] (sent (by simp)) rfl (sent (by simp)) rfl
        (by simp [Connection.notices, unexpected, notified, unclaimed, phase])
      drained := fun _ => sent (by simp)
      readerClaimed := by simp
      held := by simp
      ended := fun _ => .inr notified }
  · exact told

theorem Told.writes (told : Told s) (writer : Writer) (disconnectNotified : Bool) (sent : List (PlayerEvent π))
    (notices : { s with disconnectNotified, writer }.notices = s.notices ++ sent)
    (unclaimed : s.expectedDisconnect = true → disconnectNotified = false)
    (readerClaimed : s.reader = .notifying → disconnectNotified = true ∧ writer ≠ .notifying)
    (writerClaimed : writer = .notifying → disconnectNotified = true)
    (held : disconnectNotified = true → s.reader = .reading → writer = .notifying ∨ writer = .ended)
    (ended : s.disconnectNotified = true → disconnectNotified = true) :
    Told { s with events := s.events ++ sent, disconnectNotified, writer } := by
  refine { told with
    stream := ?_
    unclaimed
    readerClaimed
    writerClaimed
    held
    ended := fun reader => (told.ended reader).imp_right ended }
  obtain ⟨before, decoded, delivered⟩ := told.stream
  refine ⟨before, decoded, ?_⟩
  change s.events ++ sent = before ++ { s with disconnectNotified, writer }.notices
  rw [notices, delivered, append_assoc]

theorem Told.write (told : Told s) (sent : Bool) : Told (s.write sent) := by
  unfold Connection.write
  split
  · rename_i writing _
    split
    · exact { told with }
    · have moved := told.writes .disconnecting s.disconnectNotified [] (by simp [Connection.notices, writing]) told.unclaimed
        (fun reader => ⟨(told.readerClaimed reader).1, by simp⟩) (by simp)
        (fun notified reading => by simpa [writing] using told.held notified reading) id
      rw [append_nil] at moved
      exact { moved with }
  · exact told

theorem Told.writeRemoteCommands (told : Told s) (orderly : Orderly s .writer) : Told s.writeRemoteCommands := by
  unfold Connection.writeRemoteCommands
  split
  · exact told
  · exact told
  · rename_i failed
    have moved := told.writes .claiming s.disconnectNotified [] (by simp [Connection.notices, failed]) told.unclaimed
      (fun reader => ⟨(told.readerClaimed reader).1, by simp⟩) (by simp)
      (fun notified reading => by simpa [failed] using told.held notified reading) id
    rw [append_nil] at moved
    exact { moved with }
  · rename_i claiming
    have unexpected := orderly claiming
    split
    · rename_i notified
      have moved := told.writes .ended s.disconnectNotified [] (by simp [Connection.notices, claiming]) told.unclaimed
        (fun reader => ⟨notified, by simp⟩) (by simp) (fun _ _ => .inr rfl) id
      rw [append_nil] at moved
      exact { moved with }
    · rename_i free
      have moved := told.writes .notifying true [] (by simp [Connection.notices, unexpected, free])
        (fun expected => by simp [unexpected] at expected)
        (fun reader => absurd (told.readerClaimed reader).1 free) (fun _ => rfl)
        (fun _ _ => .inl rfl) (fun _ => rfl)
      rw [append_nil] at moved
      exact { moved with }
  · rename_i notifying
    have notified := told.writerClaimed notifying
    have unexpected : s.expectedDisconnect = false := by
      by_contra expected
      simp [told.unclaimed (by simpa using expected)] at notified
    have reader : s.reader ≠ .notifying := fun reader => (told.readerClaimed reader).2 notifying
    exact { told.writes .ended s.disconnectNotified
      [.remoteDisconnected connectionLostMessage]
      (by simp [Connection.notices, unexpected, notified, notifying, reader]) told.unclaimed
      (fun at_notice => absurd at_notice reader) (by simp) (fun _ _ => .inr rfl) id with }

theorem Told.requestShutdown (told : Told s) : Told s.requestShutdown := by
  unfold Connection.requestShutdown
  dsimp only
  split
  · exact { told with }
  · split
    all_goals exact { told with }

theorem Told.step (told : Told s) {input : Input π} (orderly : Orderly s input) : Told (s.step input) := by
  cases input with
  | line line => exact told.readLine orderly
  | streamEnd => exact told.streamEnd
  | reader => exact told.readRemoteEvents orderly
  | write sent => exact told.write sent
  | writer => exact told.writeRemoteCommands orderly
  | sendCtrlCmd =>
    dsimp only [Connection.step, Connection.sendCtrlCmd]
    split
    · exact told
    · exact { told with }
  | sendPlaybackIntent requestId =>
    dsimp only [Connection.step, Connection.sendPlaybackIntent]
    split
    all_goals exact { told with }
  | requestShutdown => exact told.requestShutdown
  | requestTimedOut =>
    dsimp only [Connection.step, Connection.requestTimedOut]
    split
    · exact { told with }
    · exact told

theorem told_start : Told ({} : Connection π) where
  stream := ⟨[], rfl, rfl⟩
  drained := fun _ => rfl
  plain := by simp
  expected := rfl
  unclaimed := fun _ => rfl
  readerClaimed := by simp
  writerClaimed := by simp
  held := by simp
  ended := by simp

theorem Told.filter_sent (told : Told s) {sent : List (PlayerEvent π)}
    (decoded : s.received.flatMap applyCtrlEvent = sent ++ s.outgoing) :
    sent.filter isEndNotice = [] := by
  rw [filter_eq_nil_iff]
  intro event member
  have decodedMember : event ∈ s.received.flatMap applyCtrlEvent := by
    rw [decoded]
    exact mem_append_left _ member
  obtain ⟨source, received, applied⟩ := mem_flatMap.mp decodedMember
  simp [told.plain source received event applied]

theorem notices_length (s : Connection π) : s.notices.length ≤ 1 := by
  unfold Connection.notices
  split
  all_goals split <;> simp

theorem Told.notices_ended (told : Told s) (ended : s.reader = .ended)
    (settled : s.writer ≠ .notifying) : s.notices = [s.endNotice] := by
  have due := told.ended ended
  unfold Connection.notices Connection.endNotice
  rw [← told.expected]
  split
  · simp [ended]
  · rename_i unexpected
    have notified : s.disconnectNotified = true := due.resolve_left unexpected
    simp [notified, ended, settled]

/-! ### The slots -/

structure Booked (s : Connection π) : Prop where
  placed : (s.answers.map Prod.fst ++ s.givenUp ++ s.shutdownRequest.toList).Perm
    (List.range s.requests)
  registered : ∀ request ∈ s.registered, request < s.requests
  resolved : s.reader.isLeaving = true ∨ s.reader = .ended →
    ∀ request ∈ s.registered, s.shutdownRequest ≠ some request
  idle : s.reader.hasCleared = true → s.pendingPlayback = []

theorem Booked.answer (booked : Booked s) (response : ShutdownResponse) :
    Booked (s.answer response) ∧ (s.answer response).shutdownRequest = none := by
  unfold Connection.answer
  split
  · rename_i request held
    refine ⟨{ booked with placed := ?_, resolved := by simp }, rfl⟩
    have placed := booked.placed
    rw [held] at placed
    simp only [map_append, map_cons, map_nil, Option.toList_none, append_nil, append_assoc]
    refine List.Perm.trans ?_ placed
    rw [append_assoc]
    exact perm_append_comm.append_left _
  · exact ⟨booked, ‹_›⟩

theorem Booked.readLine (booked : Booked s) (line : Line π) : Booked (s.readLine line) := by
  unfold Connection.readLine
  split
  · rename_i ready
    cases line with
    | blank => exact booked
    | undecodable => exact booked
    | decoded event =>
      have answered : Booked (s.answerTo event) := by
        cases event with
        | shutdownAccepted => exact (booked.answer _).1
        | shutdownRejected reason => exact (booked.answer _).1
        | _ => exact booked
      have reading : (s.answerTo event).reader = .reading := by
        obtain ⟨shutdownRequest, answers, same⟩ := answerTo_eq (s := s) event
        rw [same]
        exact ready.1
      refine { answered with idle := fun cleared => ?_ }
      change (s.answerTo event).reader.hasCleared = true at cleared
      simp [reading, Reader.hasCleared] at cleared
    | notUtf8 =>
      exact { booked with
        resolved := by simp [Reader.isLeaving]
        idle := by simp [Reader.hasCleared] }
  · exact booked

theorem Booked.announce (booked : Booked s) (announcing : s.reader = .announcing) : Booked s.announce := by
  have free := booked.resolved (by simp [announcing, Reader.isLeaving])
  have idle := booked.idle (by simp [announcing, Reader.hasCleared])
  unfold Connection.announce
  split
  · exact { booked with resolved := fun _ => free, idle := fun _ => idle }
  · split
    all_goals exact { booked with resolved := fun _ => free, idle := fun _ => idle }

theorem Booked.readRemoteEvents (booked : Booked s) : Booked s.readRemoteEvents := by
  unfold Connection.readRemoteEvents
  split
  · split
    · exact booked
    · exact { booked with }
  · exact { booked with
      resolved := by simp [Reader.isLeaving]
      idle := by simp [Reader.hasCleared] }
  · exact { booked with
      resolved := by simp [Reader.isLeaving]
      idle := fun _ => rfl }
  · rename_i phase
    have idle := booked.idle (by simp [phase, Reader.hasCleared])
    obtain ⟨answered, empty⟩ := booked.answer .disconnected
    refine { answered with resolved := fun _ _ _ => by simp [empty], idle := fun _ => ?_ }
    obtain ⟨shutdownRequest, answers, same⟩ := answer_eq (s := s) .disconnected
    rw [same]
    exact idle
  · exact booked.announce ‹_›
  · rename_i phase
    have free := booked.resolved (by simp [phase, Reader.isLeaving])
    have idle := booked.idle (by simp [phase, Reader.hasCleared])
    exact { booked with resolved := fun _ => free, idle := fun _ => idle }
  · exact booked

theorem Booked.sendPlaybackIntent (booked : Booked s) {requestId : Nat} (orderly : Orderly s (.sendPlaybackIntent requestId)) :
    Booked (s.sendPlaybackIntent requestId) := by
  unfold Connection.sendPlaybackIntent
  split
  · exact { booked with idle := fun cleared => by simp [booked.idle cleared] }
  · rename_i running
    refine { booked with idle := fun cleared => ?_ }
    have kept := orderly.resolve_left running
    simp [show s.reader.hasCleared = true from cleared] at kept

theorem placed_add {answers : List Nat} {givenUp slot answers' slot' : List Nat} {requests : Nat}
    (placed : (answers ++ givenUp ++ slot).Perm (List.range requests))
    (added : ∀ request, answers'.count request + slot'.count request =
      answers.count request + slot.count request + [requests].count request) :
    (answers' ++ givenUp ++ slot').Perm (List.range (requests + 1)) := by
  rw [perm_iff_count] at placed ⊢
  intro request
  have before := placed request
  have more := added request
  rw [range_succ]
  simp only [count_append] at before ⊢
  omega

theorem Booked.requestShutdown (booked : Booked s) (orderly : Orderly s .requestShutdown) : Booked s.requestShutdown := by
  have registered : ∀ request ∈ s.registered, request < s.requests + 1 :=
    fun request member => Nat.lt_succ_of_lt (booked.registered request member)
  unfold Connection.requestShutdown
  dsimp only
  split
  · refine { booked with placed := placed_add booked.placed fun request => ?_, registered }
    rw [map_append, count_append]
    exact Nat.add_right_comm _ _ _
  · rename_i empty
    split
    · refine { booked with placed := placed_add booked.placed fun request => ?_, registered }
      rw [map_append, count_append]
      exact Nat.add_right_comm _ _ _
    · rename_i running
      have stays := orderly.resolve_left running
      refine {
        placed := placed_add booked.placed fun request => by simp [empty]
        registered := ?_
        resolved := ?_
        idle := booked.idle }
      · intro request member
        dsimp only at member
        split at member
        · exact registered request member
        · rcases mem_append.mp member with old | new
          · exact registered request old
          · rw [mem_singleton.mp new]
            exact Nat.lt_succ_self _
      · rintro (leaving | ended) request member held
        · exact absurd leaving (by simp [stays])
        · rw [if_pos ended] at member
          cases held
          exact Nat.lt_irrefl _ (booked.registered s.requests member)

theorem Booked.requestTimedOut (booked : Booked s) : Booked s.requestTimedOut := by
  unfold Connection.requestTimedOut
  split
  · rename_i request held
    refine { booked with placed := ?_, resolved := by simp }
    have placed := booked.placed
    rw [held] at placed
    simpa using placed
  · exact booked

theorem Booked.step (booked : Booked s) {input : Input π} (orderly : Orderly s input) : Booked (s.step input) := by
  cases input with
  | line line => exact booked.readLine line
  | streamEnd =>
    dsimp only [Connection.step, Connection.streamEnd]
    split
    · exact { booked with
        resolved := by simp [Reader.isLeaving]
        idle := by simp [Reader.hasCleared] }
    · exact booked
  | reader => exact booked.readRemoteEvents
  | write sent =>
    dsimp only [Connection.step, Connection.write]
    split
    · split
      all_goals exact { booked with }
    · exact booked
  | writer =>
    dsimp only [Connection.step, Connection.writeRemoteCommands]
    split
    · exact booked
    · exact booked
    · exact { booked with }
    · split
      all_goals exact { booked with }
    · exact { booked with }
  | sendCtrlCmd =>
    dsimp only [Connection.step, Connection.sendCtrlCmd]
    split
    · exact booked
    · exact { booked with }
  | sendPlaybackIntent requestId => exact booked.sendPlaybackIntent orderly
  | requestShutdown => exact booked.requestShutdown orderly
  | requestTimedOut => exact booked.requestTimedOut

theorem booked_start : Booked ({} : Connection π) where
  placed := List.Perm.nil
  registered := by simp
  resolved := by simp
  idle := fun _ => rfl

theorem Booked.answered (booked : Booked s) (ended : s.reader = .ended) {request : Nat}
    (registered : request ∈ s.registered) (waited : request ∉ s.givenUp) :
    (s.answers.map Prod.fst).count request = 1 := by
  have free := booked.resolved (.inr ended) request registered
  have once := perm_iff_count.mp booked.placed request
  have made : (List.range s.requests).count request = 1 := by
    exact count_eq_one_of_mem nodup_range (mem_range.mpr (booked.registered request registered))
  have absent : s.shutdownRequest.toList.count request = 0 := by
    rw [count_eq_zero, Option.mem_toList]
    exact free
  rw [count_append, count_append, count_eq_zero.mpr waited, absent, made] at once
  exact once

end

theorem Told.endsOnce {s : Connection π} (told : Told s) (booked : Booked s) : EndsOnce s where
  atMostOne := by
    obtain ⟨sent, decoded, delivered⟩ := told.stream
    rw [delivered, filter_append, told.filter_sent decoded, nil_append]
    exact Nat.le_trans (length_filter_le _ _) (notices_length s)
  notice := by
    intro ended settled
    obtain ⟨sent, decoded, delivered⟩ := told.stream
    have plain := told.filter_sent decoded
    rw [told.notices_ended ended settled] at delivered
    rw [told.drained (by simp [ended]), append_nil] at decoded
    refine ⟨by rw [delivered, decoded], ?_⟩
    rw [delivered, filter_append, plain, nil_append, filter_eq_self]
    intro event member
    rw [mem_singleton.mp member]
    unfold Connection.endNotice
    split <;> rfl
  idle := fun ended => booked.idle (by simp [ended, Reader.hasCleared])
  answered := fun ended _ registered waited => booked.answered ended registered waited

/-! ### The end is reached -/

def Reader.left : Reader → Nat
  | .reading | .disconnecting => 5
  | .clearing => 4
  | .resolving => 3
  | .announcing => 2
  | .notifying => 1
  | .ended => 0

theorem readRemoteEvents_left {s : Connection π} (stopped : s.reader ≠ .reading) : s.readRemoteEvents.reader ≠ .reading ∧
      s.readRemoteEvents.reader.left ≤ s.reader.left - 1 ∧ s.readRemoteEvents.writer = s.writer := by
  obtain ⟨shutdownRequest, answers, same⟩ := answer_eq (s := s) .disconnected
  unfold Connection.readRemoteEvents
  split
  · exact absurd ‹_› stopped
  · simp [Reader.left, *]
  · simp [Reader.left, *]
  · rw [same]
    simp [Reader.left, *]
  · unfold Connection.announce
    split
    · simp [Reader.left, *]
    · split <;> simp [Reader.left, *]
  · simp [Reader.left, *]
  · simp [Reader.left, *]

theorem reader_ends (steps : Nat) {s : Connection π} (told : Told s) (stopped : s.reader ≠ .reading)
    (left : s.reader.left ≤ steps) :
    connection.Along Orderly s (List.replicate steps .reader) ∧
      (connection.run s (List.replicate steps .reader)).reader = .ended ∧
      (connection.run s (List.replicate steps .reader)).writer = s.writer := by
  induction steps generalizing s with
  | zero =>
    refine ⟨trivial, ?_, rfl⟩
    cases reader : s.reader <;> simp [reader, Reader.left] at left
    exact reader
  | succ steps ih =>
    have orderly : Orderly s .reader := fun waiting => absurd (told.drained stopped) waiting
    obtain ⟨away, nearer, writer⟩ := readRemoteEvents_left stopped
    obtain ⟨along, ended, kept⟩ := ih (told.step orderly) away (Nat.le_trans nearer (by omega))
    exact ⟨⟨orderly, along⟩, ended, kept.trans writer⟩

theorem Told.settles {s : Connection π} (told : Told s) (stopped : s.reader ≠ .reading) :
    ∃ more, (∀ input ∈ more, input = .reader ∨ input = .writer) ∧
      connection.Along Orderly s more ∧ (connection.run s more).reader = .ended ∧
      (connection.run s more).writer ≠ .notifying := by
  obtain ⟨along, ended, writer⟩ := reader_ends s.reader.left told stopped (Nat.le_refl _)
  have reads : ∀ input ∈ List.replicate s.reader.left (Input.reader : Input π),
      input = .reader ∨ input = .writer := fun _ member => .inl (eq_of_mem_replicate member)
  by_cases notifying : s.writer = .notifying
  · have at_notice := writer.trans notifying
    refine ⟨List.replicate s.reader.left .reader ++ [.writer], ?_, ?_, ?_, ?_⟩
    · intro input member
      rcases mem_append.mp member with member | last
      · exact reads input member
      · exact .inr (mem_singleton.mp last)
    · rw [Machine.along_append]
      exact ⟨along, fun claiming => by simp [at_notice] at claiming, trivial⟩
    all_goals
      rw [Machine.run_append, Machine.run_cons, Machine.run_nil]
      simp [connection, Connection.step, Connection.writeRemoteCommands] at at_notice ended ⊢
      simp [at_notice, ended]
  · exact ⟨_, reads, along, ended, by rwa [writer]⟩

/-- In every order of the steps of the reader, the writer and the callers, the events are followed
    by one end notice, nothing stays pending and each request is answered once, and once the lines
    are over the two threads come to that end by themselves. -/
theorem connection_ends_once (inputs : List (Input π))
    (orderly : connection.Along Orderly ({} : Connection π) inputs) :
    EndsOnce (connection.run {} inputs) ∧
      ((connection.run {} inputs).reader ≠ .reading →
        ∃ more, (∀ input ∈ more, input = .reader ∨ input = .writer) ∧
          connection.Along Orderly {} (inputs ++ more) ∧
          (connection.run {} (inputs ++ more)).reader = .ended ∧
          (connection.run {} (inputs ++ more)).writer ≠ .notifying) := by
  obtain ⟨told, booked⟩ : Told (connection.run ({} : Connection π) inputs) ∧
      Booked (connection.run ({} : Connection π) inputs) :=
    @Machine.run_invariant _ _ connection (fun s => Told s ∧ Booked s) Orderly
      (fun _ _ invariant orderly => ⟨invariant.1.step orderly, invariant.2.step orderly⟩) _ _
      ⟨told_start, booked_start⟩ orderly
  refine ⟨told.endsOnce booked, fun stopped => ?_⟩
  obtain ⟨more, steps, along, ended, settled⟩ := told.settles stopped
  refine ⟨more, steps, ?_⟩
  rw [Machine.along_append, Machine.run_append]
  exact ⟨⟨orderly, along⟩, ended, settled⟩

/-- The daemon reports, announces its shutdown and closes, with a request for it unanswered. -/
def announcedEnd : List (Input Nat) :=
  [.requestShutdown, .line (.decoded (.player (.observed 7))),
    .reader, .line (.decoded (.disconnected .daemonShutdown)), .streamEnd, .reader, .reader,
    .reader, .reader]

theorem connection_ends_once_announced :
    EndsOnce (connection.run {} announcedEnd) ∧
      ((connection.run {} announcedEnd).reader ≠ .reading →
        ∃ more, (∀ input ∈ more, input = .reader ∨ input = .writer) ∧
          connection.Along Orderly {} (announcedEnd ++ more) ∧
          (connection.run {} (announcedEnd ++ more)).reader = .ended ∧
          (connection.run {} (announcedEnd ++ more)).writer ≠ .notifying) :=
  connection_ends_once announcedEnd (by decide)

/-- The command written once the daemon has gone brings a second notice after the announcement. -/
theorem announced_end_told_twice :
    ¬ EndsOnce (connection.run {} (announcedEnd ++
      [.write false, .writer, .writer, .writer])) := by
  intro ends
  exact absurd ends.atMostOne (by decide)

end Mbv.RemotePlayer
