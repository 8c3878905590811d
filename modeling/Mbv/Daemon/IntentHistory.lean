import Mbv.Machine.Run
import Mbv.Daemon.PlaybackIntent

namespace Mbv.Daemon

open Mbv.Player List

inductive IntentStep where
  | accept (connectionId : CtrlClientId) (intent : PlaybackIntent) (pipeOutput : Bool)
  | markResolving (requestId : PlaybackRequestId)
  | markStarting (requestId : PlaybackRequestId)
  | outputStarted (delay : Option Nat) (now : Instant)
  | settleBuffering (now : Instant) (connected : Bool)
  | applied (connectionId : CtrlClientId) (requestId : PlaybackRequestId)
      (generation : PlaybackGeneration)
  | rejected (connectionId : CtrlClientId) (requestId : PlaybackRequestId)
      (generation : PlaybackGeneration) (reason : PlaybackIntentRejection)
  | disconnected (connectionId : CtrlClientId)

structure IntentReport where
  ticket : Nat
  connectionId : CtrlClientId
  event : PlaybackIntentEvent

/-- The intent state beside everything it answered. An intent is known by its ticket, its place in
    `accepted`; `displaced` holds the tickets a later accept displaced before they were Applied. -/
structure IntentHistory where
  intents : PlaybackIntentState := {}
  accepted : List IntentIdentity := []
  ticket : Option Nat := none
  reports : List IntentReport := []
  displaced : List Nat := []

namespace IntentHistory

/-- The terminal ones of the events sent to a connection, under the ticket they end. -/
def sent (history : IntentHistory) (connectionId : CtrlClientId)
    (events : List PlaybackIntentEvent) : List IntentReport :=
  history.ticket.toList.flatMap fun ticket =>
    (events.filter (·.outcome.isTerminal)).map fun event => ⟨ticket, connectionId, event⟩

/-- Everything but an accept: the latched intent stays or goes, and events are sent. -/
def settle (history : IntentHistory) (intents : PlaybackIntentState)
    (connectionId : CtrlClientId) (events : List PlaybackIntentEvent) : IntentHistory :=
  { history with
    intents := intents
    ticket := if intents.current.isSome then history.ticket else none
    reports := history.reports ++ history.sent connectionId events }

def step (history : IntentHistory) : IntentStep → IntentHistory
  | .accept connectionId intent pipeOutput =>
    let (intents, events) := history.intents.accept connectionId intent pipeOutput
    let reported :=
      { history with
        intents := intents
        reports := history.reports ++ history.sent connectionId events }
    if intent.action.isRelative = false ∧ events.any (·.outcome = .accepted) then
      { reported with
        accepted := history.accepted ++ [⟨connectionId, intent.requestId, intent.generation⟩]
        ticket := some history.accepted.length
        displaced := history.displaced ++
          if history.intents.current.any (·.phase ≠ .applied) then history.ticket.toList else [] }
    else
      reported
  | .markResolving requestId => history.settle (history.intents.markResolving requestId) 0 []
  | .markStarting requestId => history.settle (history.intents.markStarting requestId) 0 []
  | .outputStarted delay now =>
    match history.intents.outputStartedIfCurrent delay now with
    | (none, intents) => history.settle intents 0 []
    | (some _, intents) =>
      match delay, intents.current with
      | none, some current =>
        history.settle intents current.connectionId [current.event .applied]
      | _, _ => history.settle intents 0 []
  | .settleBuffering now connected =>
    match history.intents.settleBufferingIfDue now with
    | (none, intents) => history.settle intents 0 []
    | (some (connectionId, event), intents) =>
      if connected then history.settle intents connectionId [event]
      else history.settle (intents.invalidateConnection connectionId) connectionId []
  | .applied connectionId requestId generation =>
    let (event, intents) := history.intents.appliedIfCurrent connectionId requestId generation
    history.settle intents connectionId event.toList
  | .rejected connectionId requestId generation reason =>
    let (event, intents) :=
      history.intents.rejectedIfCurrent connectionId requestId generation reason
    history.settle intents connectionId event.toList
  | .disconnected connectionId =>
    history.settle (history.intents.invalidateConnection connectionId) connectionId []

def machine : Machine IntentHistory IntentStep := ⟨step⟩

/-- An unresolved intent is displaced only by its own connection, with a Stop or a Play over a Play,
    and an intent that was Applied is neither settled nor restarted again. -/
def Orderly (history : IntentHistory) : IntentStep → Prop
  | .accept connectionId intent _ =>
    ∀ current ∈ history.intents.current, current.phase ≠ .applied →
      intent.action.isRelative = true ∨
        current.connectionId = connectionId ∧
          (current.action = intent.action ∨
            PlaybackIntentState.supersedes current.action intent.action = true)
  | .markResolving requestId | .markStarting requestId =>
    ∀ current ∈ history.intents.current, current.requestId = requestId →
      current.phase ≠ .applied
  | .outputStarted _ _ =>
    ∀ current ∈ history.intents.current, current.pipeOutput = true →
      current.action.isPlay = true → current.phase ≠ .applied
  | .applied connectionId requestId generation | .rejected connectionId requestId generation _ =>
    ∀ current ∈ history.intents.current, current.Named connectionId requestId generation →
      current.phase ≠ .applied
  | .settleBuffering _ _ | .disconnected _ => True

instance (history : IntentHistory) (step : IntentStep) : Decidable (history.Orderly step) := by
  cases step <;> unfold Orderly <;> infer_instance

/-- Every report ends the ticket it names, no ticket ends twice, and the latched intent has not
    ended while it is unresolved. -/
structure Accounted (history : IntentHistory) : Prop where
  latched : history.intents.current.map (·.identity) =
    history.ticket.bind (history.accepted[·]?)
  ticketed : history.ticket.isSome = history.intents.current.isSome
  named : ∀ report ∈ history.reports, history.accepted[report.ticket]? =
    some ⟨report.connectionId, report.event.requestId, report.event.generation⟩
  once : (history.reports.map (·.ticket)).Nodup
  unended : ∀ current ticket, history.intents.current = some current →
    history.ticket = some ticket → current.phase ≠ .applied →
      ticket ∉ history.reports.map (·.ticket)
  told : ∀ ticket ∈ history.displaced, ∃ report ∈ history.reports,
    report.ticket = ticket ∧ report.event.outcome = .superseded

inductive Settling : Option CurrentPlaybackIntent → Option CurrentPlaybackIntent → CtrlClientId →
    List PlaybackIntentEvent → Prop where
  | idle (connectionId : CtrlClientId) : Settling none none connectionId []
  | kept {current next : CurrentPlaybackIntent} (connectionId : CtrlClientId)
      (same : next.identity = current.identity)
      (ended : current.phase = .applied → next.phase = .applied) :
      Settling (some current) (some next) connectionId []
  | applied {current next : CurrentPlaybackIntent} (unresolved : current.phase ≠ .applied)
      (same : next.identity = current.identity) (ended : next.phase = .applied) :
      Settling (some current) (some next) current.connectionId [current.event .applied]
  | rejected {current : CurrentPlaybackIntent} (unresolved : current.phase ≠ .applied)
      (reason : PlaybackIntentRejection) :
      Settling (some current) none current.connectionId [current.event (.rejected reason)]
  | dropped (current : CurrentPlaybackIntent) (connectionId : CtrlClientId) :
      Settling (some current) none connectionId []

variable {history : IntentHistory}

@[simp] theorem sent_nil (connectionId : CtrlClientId) : history.sent connectionId [] = [] := by
  cases issued : history.ticket <;> simp [sent, issued]

theorem sent_terminal {ticket : Nat} (issued : history.ticket = some ticket)
    (connectionId : CtrlClientId) {event : PlaybackIntentEvent}
    (terminal : event.outcome.isTerminal = true) :
    history.sent connectionId [event] = [⟨ticket, connectionId, event⟩] := by
  simp [sent, issued, terminal]

theorem Accounted.ticket_of (accounted : history.Accounted) {current : CurrentPlaybackIntent}
    (latched : history.intents.current = some current) :
    ∃ ticket, history.ticket = some ticket ∧ history.accepted[ticket]? = some current.identity := by
  have named := accounted.latched
  cases issued : history.ticket with
  | none => simp [latched, issued] at named
  | some ticket => exact ⟨ticket, rfl, by simpa [latched, issued] using named.symm⟩

theorem Accounted.idle (accounted : history.Accounted) (empty : history.intents.current = none) : history.ticket = none := by
  have ticketed := accounted.ticketed
  simpa [empty] using ticketed

theorem Accounted.report (accounted : history.Accounted) {current : CurrentPlaybackIntent}
    {ticket : Nat} (latched : history.intents.current = some current)
    (issued : history.ticket = some ticket) (unresolved : current.phase ≠ .applied)
    (outcome : PlaybackIntentOutcome) :
    (∀ report ∈ history.reports ++ [IntentReport.mk ticket current.connectionId (current.event outcome)],
        history.accepted[report.ticket]? = some ⟨report.connectionId, report.event.requestId, report.event.generation⟩) ∧
      ((history.reports ++ [IntentReport.mk ticket current.connectionId (current.event outcome)]).map (·.ticket)).Nodup := by
  obtain ⟨ticket', issued', name⟩ := accounted.ticket_of latched
  have same : ticket' = ticket := by rw [issued] at issued'; exact (Option.some.inj issued').symm
  subst same
  have fresh := accounted.unended current ticket' latched issued unresolved
  refine ⟨fun report member => ?_, ?_⟩
  · rcases mem_append.mp member with old | new
    · exact accounted.named report old
    · rw [mem_singleton.mp new]
      exact name
  · rw [map_append, map_singleton, nodup_append]
    refine ⟨accounted.once, by simp, ?_⟩
    intro other old ended isNew same
    have repeated : other = ticket' := same.trans (mem_singleton.mp isNew)
    exact fresh (repeated ▸ old)

theorem Accounted.settle (accounted : history.Accounted) {intents : PlaybackIntentState}
    {connectionId : CtrlClientId} {events : List PlaybackIntentEvent}
    (settling : Settling history.intents.current intents.current connectionId events) :
    (history.settle intents connectionId events).Accounted := by
  generalize before : history.intents.current = current at settling
  generalize after : intents.current = next at settling
  cases settling with
  | idle connectionId =>
    have none := accounted.idle before
    constructor
    case latched => simp [IntentHistory.settle, after]
    case ticketed => simp [IntentHistory.settle, after]
    case named => simpa [IntentHistory.settle] using accounted.named
    case once => simpa [IntentHistory.settle] using accounted.once
    case unended => simp [IntentHistory.settle, after]
    case told => simpa [IntentHistory.settle] using accounted.told
  | @kept current next connectionId same ended =>
    obtain ⟨ticket, issued, name⟩ := accounted.ticket_of before
    constructor
    case latched => simp [IntentHistory.settle, after, issued, name, same]
    case ticketed => simp [IntentHistory.settle, after, issued]
    case named => simpa [IntentHistory.settle] using accounted.named
    case once => simpa [IntentHistory.settle] using accounted.once
    case unended =>
      intro latched ticket' found issued' unresolved
      simp only [IntentHistory.settle, after, Option.some.injEq, Option.isSome_some, if_true] at found issued'
      subst found
      have open_ : current.phase ≠ .applied := fun applied => unresolved (ended applied)
      simpa [IntentHistory.settle] using accounted.unended current ticket' before issued' open_
    case told => simpa [IntentHistory.settle] using accounted.told
  | @applied current next unresolved same ended =>
    obtain ⟨ticket, issued, name⟩ := accounted.ticket_of before
    have sent := @sent_terminal _ _ issued current.connectionId (current.event .applied) rfl
    obtain ⟨named, once⟩ := accounted.report before issued unresolved .applied
    constructor
    case latched => simp [IntentHistory.settle, after, issued, name, same]
    case ticketed => simp [IntentHistory.settle, after, issued]
    case named => simpa only [IntentHistory.settle, sent] using named
    case once => simpa only [IntentHistory.settle, sent] using once
    case unended =>
      intro latched ticket' found _ open_
      simp only [IntentHistory.settle, after, Option.some.injEq] at found
      exact absurd (found ▸ ended) open_
    case told =>
      intro ticket' gone
      obtain ⟨report, member, which⟩ := accounted.told ticket' gone
      exact ⟨report, mem_append_left _ member, which⟩
  | @rejected current unresolved reason =>
    obtain ⟨ticket, issued, name⟩ := accounted.ticket_of before
    have sent := @sent_terminal _ _ issued current.connectionId (current.event (.rejected reason)) rfl
    obtain ⟨named, once⟩ := accounted.report before issued unresolved (.rejected reason)
    constructor
    case latched => simp [IntentHistory.settle, after]
    case ticketed => simp [IntentHistory.settle, after]
    case named => simpa only [IntentHistory.settle, sent] using named
    case once => simpa only [IntentHistory.settle, sent] using once
    case unended => simp [IntentHistory.settle, after]
    case told =>
      intro ticket' gone
      obtain ⟨report, member, which⟩ := accounted.told ticket' gone
      exact ⟨report, mem_append_left _ member, which⟩
  | dropped current connectionId =>
    constructor
    case latched => simp [IntentHistory.settle, after]
    case ticketed => simp [IntentHistory.settle, after]
    case named => simpa [IntentHistory.settle] using accounted.named
    case once => simpa [IntentHistory.settle] using accounted.once
    case unended => simp [IntentHistory.settle, after]
    case told => simpa [IntentHistory.settle] using accounted.told

theorem settling_mark {intents : PlaybackIntentState} {requestId : PlaybackRequestId} {phase : PlaybackIntentPhase}
    (unresolved : ∀ current ∈ intents.current, current.requestId = requestId → current.phase ≠ .applied) :
    Settling intents.current (intents.mark requestId phase).current 0 [] := by
  cases latched : intents.current with
  | none => simpa [PlaybackIntentState.mark, latched] using Settling.idle 0
  | some current =>
    by_cases named : current.requestId = requestId
    · have open_ := unresolved current latched named
      simp only [PlaybackIntentState.mark, latched, Option.map_some, if_pos named]
      exact .kept 0 rfl fun applied => absurd applied open_
    · simp only [PlaybackIntentState.mark, latched, Option.map_some, named, if_false]
      exact .kept 0 rfl id

theorem settling_invalidate (intents : PlaybackIntentState) (connectionId receiver : CtrlClientId) :
    Settling intents.current (intents.invalidateConnection connectionId).current receiver [] := by
  cases latched : intents.current with
  | none =>
    simp only [PlaybackIntentState.invalidateConnection, latched, Option.any_none, Bool.false_eq_true, if_false]
    exact .idle receiver
  | some current =>
    by_cases own : current.connectionId = connectionId
    · simp only [PlaybackIntentState.invalidateConnection, latched, Option.any_some, own, decide_true, if_true]
      exact .dropped current receiver
    · simp only [PlaybackIntentState.invalidateConnection, latched, Option.any_some, own,
        decide_false, Bool.false_eq_true, if_false]
      exact .kept receiver rfl id

theorem settling_completion {intents : PlaybackIntentState} {connectionId : CtrlClientId}
    {requestId : PlaybackRequestId} {generation : PlaybackGeneration}
    (unresolved : ∀ current ∈ intents.current, current.Named connectionId requestId generation → current.phase ≠ .applied)
    (reason : PlaybackIntentRejection) :
    Settling intents.current (intents.appliedIfCurrent connectionId requestId generation).2.current connectionId
        (intents.appliedIfCurrent connectionId requestId generation).1.toList ∧
      Settling intents.current (intents.rejectedIfCurrent connectionId requestId generation reason).2.current connectionId
        (intents.rejectedIfCurrent connectionId requestId generation reason).1.toList := by
  by_cases currentOne : intents.isCurrent connectionId requestId generation
  · obtain ⟨current, latched, named⟩ := PlaybackIntentState.isCurrent_iff.mp currentOne
    have open_ := unresolved current latched named
    obtain ⟨rfl, rfl, rfl⟩ := named
    rw [PlaybackIntentState.appliedIfCurrent_named latched, PlaybackIntentState.rejectedIfCurrent_named latched, latched]
    exact ⟨.applied open_ rfl rfl, .rejected open_ reason⟩
  · obtain ⟨applied, rejected⟩ := PlaybackIntentState.stale_completion currentOne reason
    rw [applied, rejected]
    cases latched : intents.current with
    | none => exact ⟨.idle _, .idle _⟩
    | some current => exact ⟨.kept _ rfl id, .kept _ rfl id⟩

theorem accounted_outputStarted (accounted : history.Accounted) (delay : Option Nat)
    (now : Instant) (orderly : history.Orderly (.outputStarted delay now)) :
    (history.step (.outputStarted delay now)).Accounted := by
  cases latched : history.intents.current with
  | none =>
    simp only [step, PlaybackIntentState.outputStartedIfCurrent, latched]
    exact accounted.settle (latched ▸ .idle 0)
  | some current =>
    by_cases pipe : current.pipeOutput = true ∧ current.action.isPlay = true
    · have unresolved := orderly current latched pipe.1 pipe.2
      cases delay with
      | some delay =>
        simp only [step, PlaybackIntentState.outputStartedIfCurrent, latched, pipe, and_self, if_true]
        refine accounted.settle ?_
        rw [latched]
        exact .kept 0 rfl fun applied => absurd applied unresolved
      | none =>
        simp only [step, PlaybackIntentState.outputStartedIfCurrent, latched, pipe, and_self, if_true]
        refine accounted.settle ?_
        rw [latched]
        exact .applied unresolved rfl rfl
    · simp only [step, PlaybackIntentState.outputStartedIfCurrent, latched, pipe, if_false]
      refine accounted.settle ?_
      rw [latched]
      exact .kept 0 rfl id

theorem accounted_settleBuffering (accounted : history.Accounted) (now : Instant)
    (connected : Bool) : (history.step (.settleBuffering now connected)).Accounted := by
  cases latched : history.intents.current with
  | none =>
    simp only [step, PlaybackIntentState.settleBufferingIfDue, latched]
    exact accounted.settle (latched ▸ .idle 0)
  | some current =>
    by_cases waiting : current.phase ≠ .outputBuffering ∨ current.bufferingDeadline.all (now < ·)
    · simp only [step, PlaybackIntentState.settleBufferingIfDue, latched, waiting, if_true]
      refine accounted.settle ?_
      rw [latched]
      exact .kept 0 rfl id
    · have buffering : current.phase = .outputBuffering := not_not.mp fun other => waiting (Or.inl other)
      have unresolved : current.phase ≠ .applied := by rw [buffering]; decide
      simp only [step, PlaybackIntentState.settleBufferingIfDue, latched, waiting, if_false]
      cases connected with
      | true =>
        simp only [if_true]
        refine accounted.settle ?_
        rw [latched]
        exact .applied unresolved rfl rfl
      | false =>
        simp only [Bool.false_eq_true, if_false]
        refine accounted.settle ?_
        simp only [PlaybackIntentState.invalidateConnection, latched, Option.any_some, decide_true, if_true]
        exact .dropped current _

theorem Accounted.latch (accounted : history.Accounted) (connectionId : CtrlClientId)
    (intent : PlaybackIntent) (pipeOutput : Bool) (displaced : List Nat)
    (told : ∀ ticket ∈ displaced, ∃ report ∈ history.reports, report.ticket = ticket ∧ report.event.outcome = .superseded) :
    Accounted { history with
      intents := (PlaybackIntentState.latch connectionId intent pipeOutput).1
      accepted := history.accepted ++ [⟨connectionId, intent.requestId, intent.generation⟩]
      ticket := some history.accepted.length
      displaced := history.displaced ++ displaced } := by
  have known : ∀ report ∈ history.reports, report.ticket < history.accepted.length := by
    intro report member
    by_contra beyond
    have named := accounted.named report member
    rw [List.getElem?_eq_none (Nat.le_of_not_lt beyond)] at named
    cases named
  constructor
  case latched =>
    simp [PlaybackIntentState.latch, CurrentPlaybackIntent.identity]
  case ticketed => simp [PlaybackIntentState.latch]
  case named =>
    intro report member
    rw [← accounted.named report member]
    exact List.getElem?_append_left (known report member)
  case once => exact accounted.once
  case unended =>
    intro current ticket _ issued _ ended
    obtain ⟨report, member, same⟩ := mem_map.mp ended
    have before := known report member
    simp only [Option.some.injEq] at issued
    omega
  case told =>
    intro ticket gone
    rcases mem_append.mp gone with old | new
    · exact accounted.told ticket old
    · exact told ticket new

theorem accounted_accept (accounted : history.Accounted) (connectionId : CtrlClientId)
    (intent : PlaybackIntent) (pipeOutput : Bool)
    (orderly : history.Orderly (.accept connectionId intent pipeOutput)) :
    (history.step (.accept connectionId intent pipeOutput)).Accounted := by
  have silent (event : PlaybackIntentEvent) (mild : event.outcome.isTerminal = false) :
      history.sent connectionId [event] = [] := by
    cases issued : history.ticket <;> simp [sent, issued, mild]
  rcases @PlaybackIntentState.accept_cases history.intents connectionId intent pipeOutput
    with ⟨relative, answer⟩ | ⟨direct, coalesced | superseded | fresh⟩
  · simp only [step, answer, relative, Bool.true_eq_false, false_and, if_false]
    rw [silent _ rfl, append_nil]
    exact accounted
  · obtain ⟨current, -, -, -, -, answer⟩ := coalesced
    simp only [step, answer, any_cons, reduceCtorEq, decide_false, any_nil,
      Bool.or_self, Bool.false_eq_true, and_false, if_false]
    rw [silent _ rfl, append_nil]
    exact accounted
  · obtain ⟨current, latched, unresolved, own, -, -, answer⟩ := superseded
    obtain ⟨ticket, issued, -⟩ := accounted.ticket_of latched
    obtain ⟨named, once⟩ := accounted.report latched issued unresolved .superseded
    have sent : history.sent connectionId (current.event .superseded ::
          (PlaybackIntentState.latch connectionId intent pipeOutput).2) =
        [⟨ticket, current.connectionId, current.event .superseded⟩] := by
      simp [IntentHistory.sent, issued, PlaybackIntentState.latch, CurrentPlaybackIntent.event,
        PlaybackIntentOutcome.isTerminal, own]
    have reported : Accounted { history with
        intents := {}
        ticket := none
        reports := history.reports ++
          [⟨ticket, current.connectionId, current.event .superseded⟩] } :=
      { latched := rfl
        ticketed := rfl
        named := named
        once := once
        unended := fun _ _ none => by cases none
        told := fun ticket gone => by
          obtain ⟨report, member, which⟩ := accounted.told ticket gone
          exact ⟨report, mem_append_left _ member, which⟩ }
    have latched' := reported.latch connectionId intent pipeOutput [ticket] (by
      intro other gone
      rw [mem_singleton.mp gone]
      exact ⟨_, mem_append_right _ (mem_singleton.mpr rfl), rfl, rfl⟩)
    have accepts : ((current.event .superseded :: (PlaybackIntentState.latch connectionId intent pipeOutput).2).any
          (·.outcome = .accepted)) = true := by
      simp [PlaybackIntentState.latch]
    simp only [step, answer, direct, accepts, and_self, if_true, sent, latched, Option.any_some,
      unresolved, ne_eq, not_false_eq_true, decide_true, issued, Option.toList_some]
    exact latched'
  · obtain ⟨other, answer⟩ := fresh
    have ended : history.intents.current.any (·.phase ≠ .applied) = false := by
      cases latched : history.intents.current with
      | none => rfl
      | some current =>
        by_contra open_
        have unresolved : current.phase ≠ .applied := by simpa using open_
        rcases orderly current latched unresolved with relative | ⟨own, same | wins⟩
        · rw [direct] at relative
          cases relative
        · exact (other current latched unresolved own).1 same
        · rw [(other current latched unresolved own).2] at wins
          cases wins
    have accepts : ((PlaybackIntentState.latch connectionId intent pipeOutput).2.any (·.outcome = .accepted)) = true := by
      simp [PlaybackIntentState.latch]
    have quiet : history.sent connectionId (PlaybackIntentState.latch connectionId intent pipeOutput).2 = [] := silent _ rfl
    simp only [step, answer, direct, accepts, and_self, if_true, quiet, append_nil, ended, Bool.false_eq_true, if_false]
    simpa using accounted.latch connectionId intent pipeOutput [] (by simp)

theorem step_accounted (history : IntentHistory) (step : IntentStep) (accounted : history.Accounted)
    (orderly : history.Orderly step) : (machine.step history step).Accounted := by
  cases step with
  | accept connectionId intent pipeOutput =>
    exact accounted_accept accounted connectionId intent pipeOutput orderly
  | markResolving requestId => exact accounted.settle (settling_mark orderly)
  | markStarting requestId => exact accounted.settle (settling_mark orderly)
  | outputStarted delay now => exact accounted_outputStarted accounted delay now orderly
  | settleBuffering now connected => exact accounted_settleBuffering accounted now connected
  | applied connectionId requestId generation =>
    exact accounted.settle (settling_completion orderly .unavailable).1
  | rejected connectionId requestId generation reason =>
    exact accounted.settle (settling_completion orderly reason).2
  | disconnected connectionId => exact accounted.settle (settling_invalidate _ connectionId _)

theorem Accounted.empty : Accounted {} := by
  constructor <;> simp

end IntentHistory

end Mbv.Daemon
