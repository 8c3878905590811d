import Mbv.Output.SessionLoads

namespace Mbv.Output

open Mbv.Queue Mbv.Player Mbv.Daemon SessionOwner List

namespace Ledger

def leaving (item : EmbySessionLoadedItem) (held completes : Bool) : List SessionRecord :=
  if completes then [.ended item.load held, .advanced item.load, .completed item.load item.slot]
  else [.advanced item.load]

/-- The device moved on by itself: the owner tracks the next item, or has stopped the device, or
    has no worker left to correct it with. -/
inductive Follows (seen : Ledger) (item : EmbySessionLoadedItem) (completes : Bool) :
    Ledger → Prop where
  | moved (held queued : Bool) (next : EmbySessionLoadedItem) (after : Ledger)
      (number : next.load = seen.loads) (unended : next.endHandled = false)
      (unreported : next.failureReported = false)
      (loads : Loads { seen with
        records := seen.records ++ leaving item held completes
        loaded := some next
        queued := queued
        continuation := none
        loads := seen.loads + 1 } after) : Follows seen item completes after
  | stopped (held : Bool) : Follows seen item completes { seen with
      records := seen.records ++ leaving item held completes
      loaded := none
      queued := false
      continuation := none
      observation := none
      observedAt := none }
  | stuck (held : Bool) (gone : seen.runs = false) : Follows seen item completes { seen with
      records := seen.records ++ leaving item held completes }

/-- The records of an item the owner itself moves on from at its natural end. -/
def ending (item : EmbySessionLoadedItem) (held : Bool) : List SessionRecord :=
  [.ended item.load held, .completed item.load item.slot, .advanced item.load]

/-- The owner moves on from the item, and opens the adoption window when nothing was left to load. -/
inductive Ends (seen : Ledger) (item : EmbySessionLoadedItem) (endedAt : Ticks) :
    Ledger → Prop where
  | advanced (held : Bool) (after : Ledger)
      (loads : Loads { seen with records := seen.records ++ ending item held } after) :
      Ends seen item endedAt after
  | opened (held : Bool) (after : Ledger)
      (loads : Loads { seen with records := seen.records ++ ending item held } after)
      (handled : after.loaded.any (·.endHandled) = true) :
      Ends seen item endedAt { after with
        continuation := some (.window (endedAt + embySessionAdoptionWindow)) }

def continuing (item : EmbySessionLoadedItem) (held : Bool) (start : ContinuationStart)
    (now : Ticks) : List SessionRecord :=
  (if start.recordsCompletion then
    .ended item.load held :: if held then [.completed item.load item.slot] else []
  else []) ++ [.lookup start now]

inductive Fails (before : Ledger) : Ledger → Prop where
  | quiet : Fails before before
  | reported (item : EmbySessionLoadedItem) (after : Ledger) (loaded : before.loaded = some item)
      (unreported : item.failureReported = false)
      (loads : Loads { before with
        loaded := some { item with failureReported := true }
        records := before.records ++ [.failed item.load] } after) : Fails before after

end Ledger

section Polls

variable {owner : SessionOwner} {item : EmbySessionLoadedItem} {now : Ticks}

theorem beginAdvance_loads (policy : ConsumePolicy) (loaded : owner.session.loaded = some item) :
    ∃ held, Ledger.Loads { owner.ledger with
      records := owner.records ++ Ledger.ending item held } (owner.beginAdvance policy now).ledger := by
  refine ⟨(owner.core.queue.slot item.slot).isSome, ?_⟩
  unfold beginAdvance
  rw [loaded]
  dsimp only
  refine .trans (.of_eq ?_) (stepTargetAdvance_steps _ _ _).loads
  simp [SessionOwner.ledger, recordLoadedEnd, noteNaturalEnd, record, recordNaturalEnd, observeSlot, setAdvance, Ledger.ending]

theorem advanceFromNaturalEnd_ends (policy : ConsumePolicy) (endedAt : Ticks) (loaded : owner.session.loaded = some item) :
    Ledger.Ends owner.ledger item endedAt (owner.advanceFromNaturalEnd policy endedAt now).ledger := by
  obtain ⟨held, loads⟩ := @beginAdvance_loads owner item now policy loaded
  unfold advanceFromNaturalEnd
  dsimp only
  split
  · rename_i edge
    simp only [Bool.and_eq_true] at edge
    exact .opened held _ loads edge.2
  · exact .advanced held _ loads

theorem resetLoadedItem_ledger {queued : EmbySessionQueuedItem}
    (holds : owner.session.queuedNext = some queued) : ∃ next : EmbySessionLoadedItem,
      next.load = owner.loads ∧ next.endHandled = false ∧ next.failureReported = false ∧
      (owner.resetLoadedItem now).ledger = { owner.ledger with
        loaded := some next
        queued := false
        continuation := none
        loads := owner.loads + 1 } := by
  unfold resetLoadedItem
  rw [holds]
  exact ⟨_, rfl, rfl, rfl, rfl⟩

theorem ledger_leaves (owner : SessionOwner) (policy : ConsumePolicy) (slot : QueueSlotId) (completes : Bool) : ∃ held,
      (let owner := if completes then owner.noteNaturalEnd item else owner
       let owner := (owner.record (.advanced item.load)).observeSlot slot
       if completes then owner.recordLoadedEnd policy item true else owner).ledger =
        { owner.ledger with records := owner.records ++ Ledger.leaving item held completes } := by
  cases completes with
  | true =>
    refine ⟨(owner.core.queue.slot item.slot).isSome, ?_⟩
    simp [SessionOwner.ledger, recordLoadedEnd, noteNaturalEnd, record, recordNaturalEnd, observeSlot, Ledger.leaving]
  | false => exact ⟨false, rfl⟩

theorem stopStaleAdvance_ledger (owner : SessionOwner) : owner.stopStaleAdvance.ledger = { owner.ledger with
      loaded := none, queued := false, continuation := none, observation := none
      observedAt := none } := by
  have kept := @ledger_transport owner "Stop"
  unfold stopStaleAdvance
  simp only [SessionOwner.ledger, Ledger.mk.injEq] at kept ⊢
  simp [kept]

theorem correctStaleDeviceAdvance_follows (policy : ConsumePolicy) (advance : DeviceAdvance)
    {seen : Ledger} {held : Bool} (named : owner.session.sessionId.isSome = true)
    (leaves : (if advance.completes then owner.recordLoadedEnd policy item true
      else owner).ledger = { seen with
        records := seen.records ++ Ledger.leaving item held advance.completes }) :
    Ledger.Follows seen item advance.completes (owner.correctStaleDeviceAdvance policy advance item now).ledger := by
  unfold correctStaleDeviceAdvance
  dsimp only
  have sessions : (if advance.completes then owner.recordLoadedEnd policy item true
      else owner).session = owner.session := by
    split <;> rfl
  revert sessions leaves
  generalize (if advance.completes then owner.recordLoadedEnd policy item true
      else owner) = recorded
  intro leaves sessions
  split
  · rw [stopStaleAdvance_ledger, leaves]
    exact .stopped held
  · rename_i unnamed
    rw [sessions] at unnamed
    rw [unnamed] at named
    cases named
  · rename_i slot itemId sessionId _ _
    split
    · rename_i untaken
      have gone := submitPlay_gone untaken
      rw [ledger_observeSlot, leaves]
      refine .stuck held ?_
      have runs := congrArg Ledger.runs leaves
      exact runs.symm.trans gone
    · rename_i played taken
      obtain ⟨-, next, number, -, unended, unreported, same⟩ := submitPlay_ledger taken
      have loads : (recorded.observeSlot slot).loads = seen.loads := congrArg Ledger.loads leaves
      rw [ledger_observeSlot, leaves, loads] at same
      refine .moved held _ next _ (number.trans loads) unended unreported (.trans (.of_eq same) ?_)
      exact (LoadsTo.stepped played _).then_ledger rfl

theorem applyDeviceAdvance_follows (policy : ConsumePolicy) (advance : DeviceAdvance) (loaded : owner.session.loaded = some item)
    (queued : owner.session.queuedNext.isSome = true)
    (named : owner.session.sessionId.isSome = true) :
    Ledger.Follows owner.ledger item advance.completes (owner.applyDeviceAdvance policy advance now).ledger := by
  unfold applyDeviceAdvance
  rw [loaded]
  dsimp only
  split
  · obtain ⟨held, leaves⟩ := @ledger_leaves item owner policy item.slot advance.completes
    refine @correctStaleDeviceAdvance_follows _ item now policy advance owner.ledger held ?_ ?_
    · split <;> exact named
    · refine Eq.trans ?_ leaves
      cases advance.completes <;> rfl
  · obtain ⟨held, leaves⟩ := @ledger_leaves item owner policy advance.queued advance.completes
    revert leaves
    dsimp only
    have sessions : (if advance.completes then
        (((if advance.completes then owner.noteNaturalEnd item else owner).record
          (.advanced item.load)).observeSlot advance.queued).recordLoadedEnd policy item true
      else ((if advance.completes then owner.noteNaturalEnd item else owner).record
        (.advanced item.load)).observeSlot advance.queued).session = owner.session := by
      cases advance.completes <;> rfl
    revert sessions
    generalize (if advance.completes then
        (((if advance.completes then owner.noteNaturalEnd item else owner).record
          (.advanced item.load)).observeSlot advance.queued).recordLoadedEnd policy item true
      else ((if advance.completes then owner.noteNaturalEnd item else owner).record
        (.advanced item.load)).observeSlot advance.queued) = left
    intro sessions leaves
    rw [← sessions] at queued
    obtain ⟨next, holds⟩ := Option.isSome_iff_exists.mp queued
    obtain ⟨fresh, number, unended, unreported, same⟩ := @resetLoadedItem_ledger left now _ holds
    have loads : left.loads = owner.loads := congrArg Ledger.loads leaves
    rw [leaves, loads] at same
    refine .moved held false fresh _ (number.trans loads) unended unreported ?_
    exact .trans (.of_eq same) (@appendNextSlot_steps _ now _ (resetLoadedItem_unqueued _)).loads

theorem continuationStarted_ledger (policy : ConsumePolicy) (start : ContinuationStart)
    (loaded : owner.session.loaded = some item) : ∃ held,
      (owner.continuationStarted policy start now).ledger = { owner.ledger with
        records := owner.records ++ Ledger.continuing item held start now
        lookups := owner.lookups + 1
        continuation := if owner.session.workerRuns then owner.session.continuation else none } := by
  refine ⟨(owner.core.queue.slot item.slot).isSome, ?_⟩
  have unpolled : (SessionJob.lookup start.serial start.itemId).isPoll = false := rfl
  unfold continuationStarted
  rw [loaded]
  cases completes : start.recordsCompletion <;> cases held : (owner.core.queue.slot item.slot).isSome <;>
    cases runs : owner.session.workerRuns <;>
    simp [Option.filter, held, noteNaturalEnd, recordLoadedEnd, recordNaturalEnd, record, submit,
      runs, SessionOwner.ledger, Ledger.continuing, completes, unpolled]

theorem failLoadedItem_fails (owner : SessionOwner) : Ledger.Fails owner.ledger (owner.failLoadedItem now).ledger := by
  unfold failLoadedItem
  split
  · exact .quiet
  · rename_i item loaded
    split
    · exact .quiet
    · rename_i unreported
      refine .reported item _ loaded (by simpa using unreported) ?_
      exact (expireRemoteTransition_steps (({ owner with
        session := { owner.session with
          loaded := some { item with failureReported := true } } }).record (.failed item.load))).loads

theorem expireUnseenLoad_fails (owner : SessionOwner) : Ledger.Fails owner.ledger (owner.expireUnseenLoad now).ledger := by
  unfold expireUnseenLoad
  split
  · exact failLoadedItem_fails owner
  · exact .quiet

theorem handlePlayFailed_fails (owner : SessionOwner) (slot : QueueSlotId) :
    Ledger.Fails owner.ledger (owner.handlePlayFailed slot now).ledger := by
  unfold handlePlayFailed
  split
  · exact failLoadedItem_fails owner
  · exact .quiet

/-! ### One poll -/

/-- The output once the result of its poll is there. -/
def polled (session : EmbySessionOutput) : EmbySessionOutput := { session with pollSent := none }

def observing (owner : SessionOwner) (info : SessionInfo) (loaded : Option EmbySessionLoadedItem)
    (watch : Option ContinuationWatch) (now : Ticks) : SessionOwner :=
  { owner with session := { polled owner.session with
      misses := 0
      sessionId := some info.id
      loaded := loaded
      continuation := watch
      lastObservation := some info
      observedAt := some now
      connection := .connected } }

inductive Reads (owner : SessionOwner) (info : SessionInfo) (now : Ticks) : Ledger → Prop where
  | goesOn (loaded : Option EmbySessionLoadedItem) (watch : Option ContinuationWatch)
      (after : Ledger)
      (flagged : ∀ item ∈ loaded, ∃ old ∈ owner.session.loaded, EmbySessionOutput.Flagged old item)
      (kept : watch = owner.session.continuation ∨ watch = none)
      (read : EmbySessionOutput.WindowRead owner.session info watch)
      (loads : Ledger.Loads (observing owner info loaded watch now).ledger after) :
      Reads owner info now after
  | follows (watch : Option ContinuationWatch) (old item : EmbySessionLoadedItem)
      (advance : DeviceAdvance) (after : Ledger) (loaded : owner.session.loaded = some old)
      (flagged : EmbySessionOutput.Flagged old item)
      (kept : watch = owner.session.continuation ∨ watch = none)
      (moved : owner.session.deviceAdvance info now = some advance)
      (follows : Ledger.Follows
        { (observing owner info (some item) watch now).ledger with queued := true } item
        advance.completes after) : Reads owner info now after
  | ends (item : EmbySessionLoadedItem) (due : Ticks) (queued : Bool) (after : Ledger)
      (loaded : owner.session.loaded = some item) (seen : item.seenPlaying = true)
      (unhandled : item.endHandled = false)
      (presents : presentsItem owner.session.lastObservation item.itemId = true)
      (idle : info.nowPlayingItemId = none) (margin : owner.session.endWithinMargin now = true)
      (estimated : owner.session.estimatedEnd = some due)
      (ends : Ledger.Ends
        { (observing owner info (some { item with endHandled := true })
            owner.session.continuation now).ledger with queued := queued }
        { item with endHandled := true } due after) : Reads owner info now after
  | continues (item : EmbySessionLoadedItem) (start : ContinuationStart) (held queued : Bool)
      (follows : EmbySessionOutput.Continues owner.session info owner.lookups now item start) :
      Reads owner info now
        { (observing owner info (some { item with endHandled := true }) none now).ledger with
          queued := queued
          records := owner.records ++ Ledger.continuing item held start now
          lookups := owner.lookups + 1
          continuation := if owner.session.workerRuns then
            some (.lookup start.itemId owner.lookups) else none }

theorem applyObservation_reads (policy : ConsumePolicy) {info : SessionInfo}
    {observation : Observation} {loaded : Option EmbySessionLoadedItem}
    {watch : Option ContinuationWatch}
    (reading : EmbySessionOutput.Reading (polled owner.session) info owner.lookups now observation loaded watch)
    (advance : observation.deviceAdvance = owner.session.deviceAdvance info now) :
    Reads owner info now ((observing owner info loaded watch now).applyObservation policy observation now).ledger := by
  have stays : info.nowPlayingItemId = none ∨ owner.session.queuedNext = none → observation.deviceAdvance = none := fun still =>
    advance.trans (EmbySessionOutput.deviceAdvance_still still)
  obtain ⟨holds, checked, keeps⟩ := checkQueuedNext_ledger (observing owner info loaded watch now)
  have checks := checkQueuedNext_loads (observing owner info loaded watch now)
  have tracked : (observing owner info loaded watch now).checkQueuedNext.session.loaded = loaded :=
    congrArg Ledger.loaded checked
  unfold applyObservation
  cases reading with
  | goesOn _ _ ended continues none_ flagged kept read =>
    have tracks : ∀ item ∈ loaded, ∃ old ∈ owner.session.loaded, EmbySessionOutput.Flagged old item := by
      intro item held
      cases was : owner.session.loaded with
      | none =>
        rw [none_ was] at held
        cases held
      | some old =>
        obtain ⟨after, is, flags⟩ := flagged old was
        rw [is] at held
        cases held
        exact ⟨old, rfl, flags⟩
    rw [ended, continues]
    dsimp only
    split
    · rename_i _ move moved
      rw [moved] at advance
      obtain ⟨old, queued, loads, queues, -, -, -⟩ := EmbySessionOutput.deviceAdvance_some advance.symm
      obtain ⟨item, is, flags⟩ := flagged old loads
      have held : holds = true := keeps (by
        have kept : (observing owner info loaded watch now).session.queuedNext = some queued := queues
        rw [kept]
        rfl)
      have stillQueued : (observing owner info loaded watch now).checkQueuedNext.session.queuedNext.isSome
          = holds := congrArg Ledger.queued checked
      have stillNamed : (observing owner info loaded watch now).checkQueuedNext.session.sessionId
          = some info.id := congrArg Ledger.sessionId checked
      have follows := @applyDeviceAdvance_follows _ item now policy move (tracked.trans is)
        (stillQueued.trans held) (by rw [stillNamed]; rfl)
      rw [checked, held] at follows
      subst is
      exact .follows watch old item move _ loads flags kept advance.symm follows
    · rename_i slot still _
      refine .goesOn _ watch _ tracks kept read (LoadsTo.trans checks ?_)
      exact (settleRemoteTransition_steps _ slot).loads.then_ledger (applyPendingPause_ledger _)
    · exact .goesOn _ watch _ tracks kept read checks
  | ends item due ended continues unpresented loads seen unhandled presents idle margin estimated =>
    rw [stays (.inl idle), unpresented, ended, continues]
    have ends := @advanceFromNaturalEnd_ends _ _ now policy due tracked
    rw [checked] at ends
    exact .ends item due holds _ loads seen unhandled presents idle margin estimated ends
  | continues item start ended started unpresented follows =>
    rw [stays (.inr follows.unqueued), unpresented, ended, started]
    obtain ⟨held, continued⟩ := @continuationStarted_ledger _ _ now policy start tracked
    have runs : (observing owner info (some { item with endHandled := true })
        (some (.lookup start.itemId owner.lookups)) now).checkQueuedNext.session.workerRuns =
          owner.session.workerRuns := congrArg Ledger.runs checked
    have watches : (observing owner info (some { item with endHandled := true })
        (some (.lookup start.itemId owner.lookups)) now).checkQueuedNext.session.continuation =
          some (.lookup start.itemId owner.lookups) := congrArg Ledger.continuation checked
    have records : (observing owner info (some { item with endHandled := true })
        (some (.lookup start.itemId owner.lookups)) now).checkQueuedNext.records = owner.records :=
      congrArg Ledger.records checked
    have lookups : (observing owner info (some { item with endHandled := true })
        (some (.lookup start.itemId owner.lookups)) now).checkQueuedNext.lookups = owner.lookups :=
      congrArg Ledger.lookups checked
    dsimp only
    rw [continued, checked, runs, watches, records, lookups]
    exact .continues item start held holds ⟨follows.loaded, follows.presented, follows.foreign, follows.unqueued, follows.seen,
        follows.serial, follows.load, follows.gate⟩

/-- What an accepted poll does: its list is refused or lacks the device, or the device's entry is
    read; a load that was never seen to play may fail then. -/
inductive Polls (owner : SessionOwner) (now : Ticks) : Option SessionInfo → Ledger → Prop where
  | unseen (queued : Bool) (after : Ledger)
      (keeps : owner.session.queuedNext.isSome = true → queued = true)
      (fails : Ledger.Fails { owner.ledger with pollSent := none, queued := queued } after) :
      Polls owner now none after
  | read (info : SessionInfo) (middle after : Ledger) (reads : Reads owner info now middle)
      (fails : Ledger.Fails middle after) : Polls owner now (some info) after

variable {settings : SessionSettings} {pollId : Nat}

theorem handleSessions_ignored {result : Except String (List SessionInfo)}
    (other : owner.session.pollSent.map (·.1) ≠ some pollId) :
    owner.handleSessions settings pollId result now = owner := by
  unfold handleSessions
  rw [if_neg other]

theorem handleSessions_refused {error : String} (accepted : owner.session.pollSent.map (·.1) = some pollId) :
    Ledger.Fails { owner.ledger with pollSent := none } (owner.handleSessions settings pollId (.error error) now).ledger := by
  unfold handleSessions
  rw [if_pos accepted]
  exact expireUnseenLoad_fails { owner with session := polled owner.session }

theorem handleSessions_ok {sessions : List SessionInfo} {observation : Observation} {session : EmbySessionOutput}
    (accepted : owner.session.pollSent.map (·.1) = some pollId)
    (observed : (polled owner.session).observe sessions owner.lookups now = (observation, session)) :
    owner.handleSessions settings pollId (.ok sessions) now =
      ({ owner with session := session }.applyObservation settings.consume observation now).expireUnseenLoad now := by
  unfold handleSessions
  rw [if_pos accepted]
  unfold polled at observed
  dsimp only
  rw [observed]

theorem handleSessions_moved {sessions : List SessionInfo} {info : SessionInfo}
    {move : DeviceAdvance} {old : EmbySessionLoadedItem}
    (accepted : owner.session.pollSent.map (·.1) = some pollId)
    (listed : sessions.find? (fun session => session.deviceId == owner.session.deviceId) = some info)
    (loaded : owner.session.loaded = some old)
    (moved : owner.session.deviceAdvance info now = some move) : ∃ item watch, EmbySessionOutput.Flagged old item ∧
      owner.handleSessions settings pollId (.ok sessions) now =
        ((observing owner info (some item) watch now).checkQueuedNext.applyDeviceAdvance
          settings.consume move now).expireUnseenLoad now := by
  obtain ⟨observation, tracked, watch, observed, advance, reading⟩ :=
    @EmbySessionOutput.observe_spec (polled owner.session) info now sessions owner.lookups listed
  have moves : observation.deviceAdvance = some move := advance.trans moved
  have stays : ∀ still : info.nowPlayingItemId = none ∨ owner.session.queuedNext = none, False := by
    intro still
    rw [EmbySessionOutput.deviceAdvance_still still] at moved
    cases moved
  rw [handleSessions_ok accepted observed]
  cases reading with
  | goesOn _ _ ended continues none_ flagged kept read =>
    obtain ⟨item, rfl, flags⟩ := flagged old loaded
    refine ⟨item, watch, flags, ?_⟩
    unfold applyObservation
    rw [moves, ended, continues]
    rfl
  | ends item due ended continues unpresented loads seen unhandled presents idle =>
    exact (stays (.inl idle)).elim
  | continues item start ended started unpresented follows =>
    exact (stays (.inr follows.unqueued)).elim

theorem handleSessions_polls {sessions : List SessionInfo} (accepted : owner.session.pollSent.map (·.1) = some pollId) :
    Polls owner now (sessions.find? fun session => session.deviceId == owner.session.deviceId)
      (owner.handleSessions settings pollId (.ok sessions) now).ledger := by
  cases listed : sessions.find? fun session => session.deviceId == owner.session.deviceId with
  | none =>
    obtain ⟨misses, connection, observed⟩ :=
      @EmbySessionOutput.observe_absent (polled owner.session) now sessions owner.lookups listed
    rw [handleSessions_ok accepted observed]
    obtain ⟨queued, checked, keeps⟩ := checkQueuedNext_ledger { owner with
      session := { polled owner.session with misses := misses, connection := connection } }
    refine .unseen queued _ keeps ?_
    have fails := @expireUnseenLoad_fails now ({ owner with session :=
      { polled owner.session with misses := misses, connection := connection }
      }.checkQueuedNext)
    rw [checked] at fails
    exact fails
  | some info =>
    obtain ⟨observation, loaded, watch, observed, advance, reading⟩ :=
      @EmbySessionOutput.observe_spec (polled owner.session) info now sessions owner.lookups listed
    rw [handleSessions_ok accepted observed]
    refine .read info _ _ ?_ (expireUnseenLoad_fails _)
    exact applyObservation_reads settings.consume reading advance

end Polls

/-! ### What the history gains -/

def Ledger.Adds (only : SessionRecord → Prop) (before after : Ledger) : Prop :=
  ∃ entries, after.records = before.records ++ entries ∧ ∀ entry ∈ entries, only entry

namespace Ledger

variable {only : SessionRecord → Prop} {before middle after : Ledger} {item : EmbySessionLoadedItem}

theorem Adds.of_records (same : after.records = before.records) : Adds only before after := ⟨[], by simp [same], by simp⟩

theorem Adds.trans (left : Adds only before middle) (right : Adds only middle after) : Adds only before after := by
  obtain ⟨first, records, each⟩ := left
  obtain ⟨second, more, others⟩ := right
  refine ⟨first ++ second, by rw [more, records, append_assoc], fun entry member => ?_⟩
  exact (mem_append.mp member).elim (each entry) (others entry)

theorem Adds.mono {more : SessionRecord → Prop} (adds : Adds only before after)
    (weaker : ∀ entry, only entry → more entry) : Adds more before after := by
  obtain ⟨entries, records, each⟩ := adds
  exact ⟨entries, records, fun entry member => weaker entry (each entry member)⟩

theorem Loads.adds (loads : Loads before after) (rejects : ∀ entry : SessionRecord, entry.isRejection = true → only entry) :
    Adds only before after := by
  cases loads with
  | kept rejections queued each holds =>
    exact ⟨rejections, rfl, fun entry member => rejects entry (each entry member)⟩
  | loaded rejections queued item loads each runs later below unseen unended unreported =>
    exact ⟨rejections, rfl, fun entry member => rejects entry (each entry member)⟩

theorem Fails.adds (fails : Fails before after) (rejects : ∀ entry : SessionRecord, entry.isRejection = true → only entry)
    (failed : ∀ load, only (.failed load)) : Adds only before after := by
  cases fails with
  | quiet => exact .of_records rfl
  | reported item _ loaded unreported loads =>
    obtain ⟨entries, records, each⟩ := loads.adds rejects
    refine ⟨.failed item.load :: entries, by rw [records, append_assoc]; rfl, ?_⟩
    exact forall_mem_cons.mpr ⟨failed item.load, each⟩

end Ledger

inductive PollAdds (session : EmbySessionOutput) (lookups : Nat) (now : Ticks)
    (shown : Option SessionInfo) : SessionRecord → Prop where
  | rejected (entry : SessionRecord) (rejection : entry.isRejection = true) :
      PollAdds session lookups now shown entry
  | failed (load : Nat) : PollAdds session lookups now shown (.failed load)
  | left (info : SessionInfo) (item : EmbySessionLoadedItem) (advance : DeviceAdvance)
      (held : Bool) (entry : SessionRecord) (listed : shown = some info)
      (loaded : session.loaded = some item) (moved : session.deviceAdvance info now = some advance)
      (leaves : entry ∈ Ledger.leaving item held advance.completes) :
      PollAdds session lookups now shown entry
  | ended (info : SessionInfo) (item : EmbySessionLoadedItem) (held : Bool)
      (entry : SessionRecord) (listed : shown = some info) (loaded : session.loaded = some item)
      (presents : presentsItem session.lastObservation item.itemId = true)
      (idle : info.nowPlayingItemId = none) (margin : session.endWithinMargin now = true)
      (ends : entry ∈ Ledger.ending item held) : PollAdds session lookups now shown entry
  | continued (info : SessionInfo) (item : EmbySessionLoadedItem) (start : ContinuationStart)
      (held : Bool) (entry : SessionRecord) (listed : shown = some info)
      (follows : EmbySessionOutput.Continues session info lookups now item start)
      (continues : entry ∈ Ledger.continuing item held start now) :
      PollAdds session lookups now shown entry

section Adding

variable {owner : SessionOwner} {info : SessionInfo} {item : EmbySessionLoadedItem} {now : Ticks}

theorem leaving_flagged {old : EmbySessionLoadedItem} (flagged : EmbySessionOutput.Flagged old item) (held completes : Bool) :
    Ledger.leaving item held completes = Ledger.leaving old held completes := by
  rw [Ledger.leaving, Ledger.leaving, flagged.load, flagged.slot]

theorem follows_adds {seen after : Ledger} {completes : Bool} {only : SessionRecord → Prop}
    (follows : Ledger.Follows seen item completes after)
    (rejects : ∀ entry : SessionRecord, entry.isRejection = true → only entry)
    (leaves : ∀ held, ∀ entry ∈ Ledger.leaving item held completes, only entry) :
    Ledger.Adds only seen after := by
  cases follows with
  | moved held queued next _ number unended unreported loads =>
    obtain ⟨entries, records, each⟩ := loads.adds rejects
    refine ⟨Ledger.leaving item held completes ++ entries, by
      rw [records, append_assoc], fun entry member => ?_⟩
    exact (mem_append.mp member).elim (leaves held entry) (each entry)
  | stopped held => exact ⟨_, rfl, leaves held⟩
  | stuck held gone => exact ⟨_, rfl, leaves held⟩

theorem ends_adds {seen after : Ledger} {due : Ticks} {only : SessionRecord → Prop} (ends : Ledger.Ends seen item due after)
    (rejects : ∀ entry : SessionRecord, entry.isRejection = true → only entry)
    (ending : ∀ held, ∀ entry ∈ Ledger.ending item held, only entry) :
    Ledger.Adds only seen after := by
  have advanced : ∀ held last, Ledger.Loads { seen with records := seen.records ++ Ledger.ending item held } last →
        Ledger.Adds only seen last := by
    intro held last loads
    obtain ⟨entries, records, each⟩ := loads.adds rejects
    refine ⟨Ledger.ending item held ++ entries, by rw [records, append_assoc], fun entry member => ?_⟩
    exact (mem_append.mp member).elim (ending held entry) (each entry)
  cases ends with
  | advanced held _ loads => exact advanced held _ loads
  | opened held last loads handled =>
    obtain ⟨entries, records, each⟩ := advanced held last loads
    exact ⟨entries, records, each⟩

theorem polls_adds {shown : Option SessionInfo} {after : Ledger} (polls : Polls owner now shown after) :
    Ledger.Adds (PollAdds owner.session owner.lookups now shown) owner.ledger after := by
  have rejects : ∀ entry : SessionRecord, entry.isRejection = true →
      PollAdds owner.session owner.lookups now shown entry := fun entry => .rejected entry
  cases polls with
  | unseen queued _ keeps fails => exact fails.adds rejects .failed
  | read info middle _ reads fails =>
    refine Ledger.Adds.trans ?_ (fails.adds rejects .failed)
    cases reads with
    | goesOn loaded watch _ flagged kept read loads => exact loads.adds rejects
    | follows watch old item advance _ loaded flagged kept moved follows =>
      have leaves : ∀ held, ∀ entry ∈ Ledger.leaving item held advance.completes,
          PollAdds owner.session owner.lookups now (some info) entry := by
        intro held entry member
        rw [leaving_flagged flagged] at member
        exact .left info old advance held entry rfl loaded moved member
      have adds := follows_adds follows rejects leaves
      exact adds
    | ends item due queued _ loaded seen unhandled presents idle margin estimated ends =>
      have adds := ends_adds ends rejects fun held entry member =>
        PollAdds.ended info item held entry rfl loaded presents idle margin member
      exact adds
    | continues item start held queued follows =>
      exact ⟨_, rfl, fun entry member => .continued info item start held entry rfl follows member⟩

end Adding

end Mbv.Output
