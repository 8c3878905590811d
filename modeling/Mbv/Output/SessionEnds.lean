import Mbv.Output.SessionPolls

namespace Mbv.Output

open Mbv.Queue Mbv.Player Mbv.Daemon SessionOwner List

/-! ### Runs of an owner with one output -/

inductive SessionAnswer where
  | sessions (sessions : List SessionInfo)
  | item (item : EmbyItem)
  | refused (error : String)
  | done
deriving DecidableEq

inductive SessionEvent where
  | tick
  | answered (settings : SessionSettings) (job : SessionJob) (answer : SessionAnswer)
  | play (transition : Transition) (startTicks : Int)
  | jump (transition : Transition)
  | step (request : PlaybackRequestId × PlaybackGeneration) (direction : Direction)
  | expire (deadline : Instant)
  | pause (paused : Bool)
  | stop
  /-- A client edits the queue, or anything else of the owner that is not its output. -/
  | edited (core : PlayerOwnerState)
  | workerStops
deriving DecidableEq

namespace SessionOwner

variable (owner : SessionOwner)

/-- Each job is answered at most once. -/
def answered (settings : SessionSettings) (job : SessionJob) (answer : SessionAnswer)
    (now : Ticks) : SessionOwner :=
  if job ∈ owner.jobs then
    let owner := { owner with jobs := owner.jobs.erase job }
    match job, answer with
    | .poll pollId, .sessions sessions => owner.handleSessions settings pollId (.ok sessions) now
    | .poll pollId, .refused error => owner.handleSessions settings pollId (.error error) now
    | .lookup serial itemId, .item item => owner.handleLookup settings serial itemId (.ok item) now
    | .lookup serial itemId, .refused error =>
      owner.handleLookup settings serial itemId (.error error) now
    | .play _ slot _ _ _, .refused _ => owner.handlePlayFailed slot now
    | _, _ => owner
  else owner

def handle (event : SessionEvent) (now : Ticks) : SessionOwner :=
  match event with
  | .tick => owner.tick now
  | .answered settings job answer => owner.answered settings job answer now
  | .play transition startTicks => owner.dispatchAccepted transition startTicks now
  | .jump transition => owner.dispatchSlotJump transition now
  | .step request direction => owner.dispatchRelativeStep (some request) direction now
  | .expire deadline => owner.expireAndRedispatch deadline now
  | .pause paused => owner.setPaused paused
  | .stop => owner.stop
  | .edited core => { owner with core := core }
  | .workerStops => { owner with session := { owner.session with workerRuns := false } }

end SessionOwner

structure SessionRun where
  owner : SessionOwner
  clock : Ticks

namespace SessionRun

/-- The time an event comes at; it never goes back. -/
def now (run : SessionRun) (input : Ticks × SessionEvent) : Ticks := run.clock + input.1

def machine : Machine SessionRun (Ticks × SessionEvent) where
  step run input :=
    { owner := run.owner.handle input.2 (run.now input), clock := run.now input }

def start (core : PlayerOwnerState) (deviceId : String) (session : SessionInfo)
    (pendingPause : Bool) (now : Ticks) : SessionRun where
  owner := { core, session := EmbySessionOutput.resolved deviceId session pendingPause now }
  clock := now

def shown (run : SessionRun) (input : Ticks × SessionEvent) : Option SessionInfo :=
  match input.2 with
  | .answered _ (.poll pollId) (.sessions sessions) =>
    if .poll pollId ∈ run.owner.jobs ∧ run.owner.session.pollSent.map (·.1) = some pollId then
      sessions.find? fun session => session.deviceId == run.owner.session.deviceId
    else none
  | _ => none

end SessionRun

/-! ### Counting the records of one load -/

def SessionRecord.completes (load : Nat) : SessionRecord → Bool
  | .completed other _ => other == load
  | _ => false

def completions (records : List SessionRecord) (load : Nat) : Nat :=
  records.countP (·.completes load)

def advances (records : List SessionRecord) (load : Nat) : Nat := records.count (.advanced load)

def failures (records : List SessionRecord) (load : Nat) : Nat := records.count (.failed load)

/-- The device moves on by itself only from an item the owner has not moved on from, and is near its
    end then only when no completion of the item is recorded. -/
def LeavesOnce (run : SessionRun) (input : Ticks × SessionEvent) : Prop :=
  ∀ info ∈ run.shown input, ∀ loaded ∈ run.owner.session.loaded,
    ∀ advance ∈ run.owner.session.deviceAdvance info (run.now input),
      advances run.owner.records loaded.load = 0 ∧
        (advance.completes = true → completions run.owner.records loaded.load = 0)

instance (run : SessionRun) (input : Ticks × SessionEvent) : Decidable (LeavesOnce run input) :=
  inferInstanceAs (Decidable (∀ info ∈ run.shown input, ∀ loaded ∈ run.owner.session.loaded,
    ∀ advance ∈ run.owner.session.deviceAdvance info (run.now input),
      advances run.owner.records loaded.load = 0 ∧
        (advance.completes = true → completions run.owner.records loaded.load = 0)))

section Counting

variable {records more : List SessionRecord} {load : Nat}

def Uncounted (records : List SessionRecord) : Prop :=
  ∀ load, completions records load = 0 ∧ advances records load = 0 ∧ failures records load = 0

theorem completions_append : completions (records ++ more) load = completions records load + completions more load :=
  countP_append

theorem advances_append : advances (records ++ more) load = advances records load + advances more load := count_append

theorem failures_append : failures (records ++ more) load = failures records load + failures more load := count_append

theorem uncounted_of_rejections (only : ∀ entry ∈ records, entry.isRejection = true) : Uncounted records := by
  intro load
  refine ⟨countP_eq_zero.mpr fun entry member => ?_, count_eq_zero.mpr fun member => ?_, count_eq_zero.mpr fun member => ?_⟩
  · have rejects := only entry member
    cases entry <;> simp_all [SessionRecord.isRejection, SessionRecord.completes]
  · exact absurd (only _ member) (by simp [SessionRecord.isRejection])
  · exact absurd (only _ member) (by simp [SessionRecord.isRejection])

end Counting

/-! ### The accounts -/

namespace Ledger

structure Accounted (ledger : Ledger) : Prop where
  completed : ∀ load, completions ledger.records load ≤ 1
  advanced : ∀ load, advances ledger.records load ≤ 1
  failed : ∀ load, failures ledger.records load ≤ 1
  named : ∀ load, ledger.loads ≤ load → completions ledger.records load = 0 ∧
    advances ledger.records load = 0 ∧ failures ledger.records load = 0
  tracked : ∀ item ∈ ledger.loaded, item.load < ledger.loads
  unreported : ∀ item ∈ ledger.loaded, item.failureReported = false →
    failures ledger.records item.load = 0
  /-- An unhandled end is not recorded, except of an item the owner could not follow the device away
      from: then there is no worker, and no poll to come. -/
  unhandled : ∀ item ∈ ledger.loaded, item.endHandled = false →
    completions ledger.records item.load = 0 ∧ advances ledger.records item.load = 0 ∨
      ledger.runs = false ∧ ledger.polls = []
  polls : ledger.polls = [] ∨ ∃ id, ledger.polls = [.poll id] ∧ ledger.pollSent = some id

namespace Accounted

variable {before after : Ledger}

/-- Records that count for nothing, and a loaded item that is the one before, sighted or handled
    since at most, keep the accounts. -/
theorem reread (accounted : before.Accounted) (same : after.records = before.records)
    (loads : after.loads = before.loads) (runs : after.runs = before.runs)
    (polls : after.polls = before.polls)
    (sent : after.polls = [] ∨ after.pollSent = before.pollSent)
    (items : ∀ item ∈ after.loaded, ∃ old ∈ before.loaded, item.load = old.load ∧ item.failureReported = old.failureReported ∧
      (item.endHandled = false → old.endHandled = false)) : after.Accounted where
  completed := same ▸ accounted.completed
  advanced := same ▸ accounted.advanced
  failed := same ▸ accounted.failed
  named := same ▸ loads ▸ accounted.named
  tracked item held := by
    obtain ⟨old, was, number, -⟩ := items item held
    rw [number, loads]
    exact accounted.tracked old was
  unreported item held unreported := by
    obtain ⟨old, was, number, report, -⟩ := items item held
    rw [number, same]
    exact accounted.unreported old was (report ▸ unreported)
  unhandled item held unended := by
    obtain ⟨old, was, number, -, ends⟩ := items item held
    rw [number, same, runs, polls]
    exact accounted.unhandled old was (ends unended)
  polls := by
    rcases sent with none_ | sent
    · exact .inl none_
    · rw [polls, sent]
      exact accounted.polls

theorem queued (accounted : before.Accounted) (queued : Bool) : Accounted { before with queued := queued } :=
  accounted.reread rfl rfl rfl rfl (.inr rfl) fun item held => ⟨item, held, rfl, rfl, id⟩

theorem polling (accounted : before.Accounted) {polls : List SessionJob} {sent : Option Nat}
    (gone : before.runs = false → before.polls = [] → polls = [])
    (pending : polls = [] ∨ ∃ id, polls = [.poll id] ∧ sent = some id) :
    Accounted { before with polls := polls, pollSent := sent } where
  completed := accounted.completed
  advanced := accounted.advanced
  failed := accounted.failed
  named := accounted.named
  tracked := accounted.tracked
  unreported := accounted.unreported
  unhandled item held unended := (accounted.unhandled item held unended).imp id fun stuck => ⟨stuck.1, gone stuck.1 stuck.2⟩
  polls := pending

theorem uncounted (accounted : before.Accounted) {more : List SessionRecord}
    (nothing : Uncounted more) :
    Accounted { before with records := before.records ++ more } := by
  have completed : ∀ load, completions (before.records ++ more) load =
      completions before.records load := by
    intro load
    rw [completions_append, (nothing load).1, Nat.add_zero]
  have advanced : ∀ load, advances (before.records ++ more) load =
      advances before.records load := by
    intro load
    rw [advances_append, (nothing load).2.1, Nat.add_zero]
  have failed : ∀ load, failures (before.records ++ more) load =
      failures before.records load := by
    intro load
    rw [failures_append, (nothing load).2.2, Nat.add_zero]
  exact
    { completed := fun load => (completed load).symm ▸ accounted.completed load
      advanced := fun load => (advanced load).symm ▸ accounted.advanced load
      failed := fun load => (failed load).symm ▸ accounted.failed load
      named := fun load later => by
        rw [completed, advanced, failed]
        exact accounted.named load later
      tracked := accounted.tracked
      unreported := fun item held report => by
        rw [failed]
        exact accounted.unreported item held report
      unhandled := fun item held ends => by
        rw [completed, advanced]
        exact accounted.unhandled item held ends
      polls := accounted.polls }

theorem install (accounted : before.Accounted) {item : EmbySessionLoadedItem} {loads : Nat}
    (later : before.loads ≤ item.load) (below : item.load < loads)
    (queued : Bool) (watch : Option ContinuationWatch) :
    Accounted { before with
      loaded := some item, queued := queued, continuation := watch, loads := loads } := by
  have fresh := accounted.named item.load later
  exact
    { completed := accounted.completed
      advanced := accounted.advanced
      failed := accounted.failed
      named := fun load above => accounted.named load ((later.trans below.le).trans above)
      tracked := by
        rintro _ ⟨⟩
        exact below
      unreported := by
        rintro _ ⟨⟩ -
        exact fresh.2.2
      unhandled := by
        rintro _ ⟨⟩ -
        exact .inl ⟨fresh.1, fresh.2.1⟩
      polls := accounted.polls }

theorem loads (accounted : before.Accounted) (loads : Loads before after) : after.Accounted := by
  cases loads with
  | kept rejections queued only holds =>
    have kept := accounted.uncounted (uncounted_of_rejections only)
    exact kept.reread rfl rfl rfl rfl (.inr rfl) fun item held => ⟨item, held, rfl, rfl, id⟩
  | loaded rejections queued item loads only runs later below unseen unended unreported =>
    exact (accounted.uncounted (uncounted_of_rejections only)).install later below queued none

theorem record (accounted : before.Accounted) {load : Nat} (below : load < before.loads) {entries : List SessionRecord}
    (others : ∀ other, other ≠ load → completions entries other = 0 ∧ advances entries other = 0 ∧ failures entries other = 0)
    (completed : completions before.records load + completions entries load ≤ 1)
    (advanced : advances before.records load + advances entries load ≤ 1)
    (failed : failures before.records load + failures entries load ≤ 1) :
    Accounted { before with records := before.records ++ entries, loaded := none } where
  completed other := by
    rw [completions_append]
    by_cases same : other = load
    · exact same ▸ completed
    · rw [(others other same).1]
      exact accounted.completed other
  advanced other := by
    rw [advances_append]
    by_cases same : other = load
    · exact same ▸ advanced
    · rw [(others other same).2.1]
      exact accounted.advanced other
  failed other := by
    rw [failures_append]
    by_cases same : other = load
    · exact same ▸ failed
    · rw [(others other same).2.2]
      exact accounted.failed other
  named other later := by
    have distinct : other ≠ load := (lt_of_lt_of_le below later).ne'
    have zero := others other distinct
    rw [completions_append, advances_append, failures_append, zero.1, zero.2.1, zero.2.2]
    exact accounted.named other later
  tracked := by simp
  unreported := by simp
  unhandled := by simp
  polls := accounted.polls

theorem track (accounted : before.Accounted) {item : EmbySessionLoadedItem} (below : item.load < before.loads)
    (unreported : item.failureReported = false → failures before.records item.load = 0)
    (unhandled : item.endHandled = false → completions before.records item.load = 0 ∧ advances before.records item.load = 0 ∨
        before.runs = false ∧ before.polls = []) :
    Accounted { before with loaded := some item } where
  completed := accounted.completed
  advanced := accounted.advanced
  failed := accounted.failed
  named := accounted.named
  tracked := by
    rintro _ ⟨⟩
    exact below
  unreported := by
    rintro _ ⟨⟩
    exact unreported
  unhandled := by
    rintro _ ⟨⟩
    exact unhandled
  polls := accounted.polls

end Accounted

/-! ### What each reading of a poll does to the accounts -/

section Readings

variable {seen after : Ledger} {item : EmbySessionLoadedItem}

theorem completions_ending (held : Bool) (load : Nat) :
    completions (ending item held) load = if item.load = load then 1 else 0 := by
  by_cases same : item.load = load <;> simp [completions, ending, SessionRecord.completes, same]

theorem advances_ending (held : Bool) (load : Nat) : advances (ending item held) load = if item.load = load then 1 else 0 := by
  by_cases same : item.load = load <;> simp [advances, ending, same]

theorem failures_ending (held : Bool) (load : Nat) : failures (ending item held) load = 0 := by
  simp [failures, ending]

theorem completions_leaving (held completes : Bool) (load : Nat) : completions (leaving item held completes) load =
      if item.load = load ∧ completes = true then 1 else 0 := by
  cases completes <;> by_cases same : item.load = load <;> simp [completions, leaving, SessionRecord.completes, same]

theorem advances_leaving (held completes : Bool) (load : Nat) :
    advances (leaving item held completes) load = if item.load = load then 1 else 0 := by
  cases completes <;> by_cases same : item.load = load <;> simp [advances, leaving, same]

theorem failures_leaving (held completes : Bool) (load : Nat) : failures (leaving item held completes) load = 0 := by
  cases completes <;> simp [failures, leaving]

theorem with_tracked (loaded : seen.loaded = some item) (records : List SessionRecord) :
    { seen with records := records } = { seen with records := records, loaded := some item } := by
  rw [← loaded]

/-- An item without a record of its end gets one of each kind when the owner moves on from it. -/
theorem Accounted.ends (accounted : seen.Accounted) {due : Ticks}
    (loaded : seen.loaded = some item) (handled : item.endHandled = true)
    (fresh : completions seen.records item.load = 0 ∧ advances seen.records item.load = 0)
    (ends : Ends seen item due after) : after.Accounted := by
  have below := accounted.tracked item loaded
  have recorded : ∀ held, Accounted { seen with records := seen.records ++ ending item held } := by
    intro held
    have cleared : Accounted { seen with
        records := seen.records ++ ending item held, loaded := none } :=
      accounted.record below (fun other distinct => by
          simp [completions_ending, advances_ending, failures_ending, distinct.symm])
        (by simp [completions_ending, fresh.1]) (by simp [advances_ending, fresh.2])
        (by simpa [failures_ending] using accounted.failed item.load)
    rw [with_tracked loaded]
    refine cleared.track below (fun unreported => ?_) fun unended => ?_
    · dsimp only
      rw [failures_append, failures_ending, Nat.add_zero]
      exact accounted.unreported item loaded unreported
    · rw [handled] at unended
      cases unended
  cases ends with
  | advanced held _ loads => exact (recorded held).loads loads
  | opened held last loads edge =>
    have advanced := (recorded held).loads loads
    exact advanced.reread rfl rfl rfl rfl (.inr rfl) fun item held => ⟨item, held, rfl, rfl, id⟩

theorem Accounted.follows (accounted : seen.Accounted) {completes : Bool}
    (loaded : seen.loaded = some item) (polled : seen.polls = [])
    (once : advances seen.records item.load = 0 ∧ (completes = true → completions seen.records item.load = 0))
    (follows : Follows seen item completes after) : after.Accounted := by
  have below := accounted.tracked item loaded
  have cleared : ∀ held, Accounted { seen with
      records := seen.records ++ leaving item held completes, loaded := none } := by
    intro held
    refine accounted.record below (fun other distinct => ?_) ?_ ?_ ?_
    · simp [completions_leaving, advances_leaving, failures_leaving, distinct.symm]
    · rw [completions_leaving]
      have atMost := accounted.completed item.load
      split
      · rename_i completing
        rw [once.2 completing.2]
      · exact atMost
    · simp [advances_leaving, once.1]
    · simpa [failures_leaving] using accounted.failed item.load
  cases follows with
  | moved held queued next _ number unended unreported loads =>
    refine Accounted.loads ?_ loads
    have below : next.load < seen.loads + 1 := by omega
    exact (cleared held).install number.ge below queued none
  | stopped held =>
    exact (cleared held).reread rfl rfl rfl rfl (.inr rfl) (by simp)
  | stuck held gone =>
    rw [with_tracked loaded]
    refine (cleared held).track below (fun unreported => ?_) fun unended => .inr ⟨gone, polled⟩
    dsimp only
    rw [failures_append, failures_leaving, Nat.add_zero]
    exact accounted.unreported item loaded unreported

theorem Accounted.continues (accounted : seen.Accounted) {start : ContinuationStart} {now : Ticks}
    (loaded : seen.loaded = some item) (handled : item.endHandled = true) (held queued : Bool)
    (fresh : start.recordsCompletion = true → completions seen.records item.load = 0) :
    Accounted { seen with
      queued := queued
      records := seen.records ++ continuing item held start now
      lookups := seen.lookups + 1
      continuation := if seen.runs then seen.continuation else none } := by
  have below := accounted.tracked item loaded
  have uncounted : ∀ load, advances (continuing item held start now) load = 0 ∧
      failures (continuing item held start now) load = 0 := by
    intro load
    cases completes : start.recordsCompletion <;> cases held <;> simp [continuing, completes, advances, failures]
  have completed : ∀ load, completions (continuing item held start now) load =
      if item.load = load ∧ start.recordsCompletion = true ∧ held = true then 1 else 0 := by
    intro load
    by_cases same : item.load = load <;> cases completes : start.recordsCompletion <;>
      cases held <;> simp [continuing, completes, completions, SessionRecord.completes, same]
  have cleared : Accounted { seen with
      records := seen.records ++ continuing item held start now, loaded := none } := by
    refine accounted.record below (fun other distinct => ?_) ?_ ?_ ?_
    · simp [completed, uncounted, distinct.symm]
    · rw [completed]
      have atMost := accounted.completed item.load
      split
      · rename_i completing
        rw [fresh completing.2.1]
      · exact atMost
    · simpa [uncounted] using accounted.advanced item.load
    · simpa [uncounted] using accounted.failed item.load
  have tracked : Accounted { seen with
      records := seen.records ++ continuing item held start now } := by
    rw [with_tracked loaded]
    refine cleared.track below (fun unreported => ?_) fun unended => ?_
    · dsimp only
      rw [failures_append, (uncounted item.load).2, Nat.add_zero]
      exact accounted.unreported item loaded unreported
    · rw [handled] at unended
      cases unended
  exact tracked.reread rfl rfl rfl rfl (.inr rfl) fun item held => ⟨item, held, rfl, rfl, id⟩

theorem Accounted.fails (accounted : seen.Accounted) (fails : Fails seen after) :
    after.Accounted := by
  cases fails with
  | quiet => exact accounted
  | reported item _ loaded unreported loads =>
    refine Accounted.loads ?_ loads
    have below := accounted.tracked item loaded
    have unfailed := accounted.unreported item loaded unreported
    have cleared : Accounted { seen with
        records := seen.records ++ [.failed item.load], loaded := none } := by
      refine accounted.record below (fun other distinct => ?_) ?_ ?_ ?_
      · simp [completions, SessionRecord.completes, advances, failures, distinct.symm]
      · simpa [completions, SessionRecord.completes] using accounted.completed item.load
      · simpa [advances] using accounted.advanced item.load
      · simpa [failures] using unfailed
    have tracked := accounted.unhandled item loaded
    refine cleared.track below (fun reported => absurd reported (by simp)) fun unended => ?_
    simpa [completions_append, advances_append, completions, advances, SessionRecord.completes] using tracked unended

end Readings

end Ledger

section Handlers

variable {owner : SessionOwner} {now : Ticks}

theorem ledger_erase (owner : SessionOwner) (job : SessionJob) : { owner with jobs := owner.jobs.erase job }.ledger =
      { owner.ledger with polls := owner.ledger.polls.erase job } := by
  simp [SessionOwner.ledger, erase_filter]

/-- What a poll does, when the owner has not moved on before from an item the device is seen to move
    on from. -/
theorem polls_accounted {shown : Option SessionInfo} {after : Ledger}
    (accounted : owner.ledger.Accounted) (unpolled : owner.ledger.polls = [])
    (fresh : ∀ item ∈ owner.session.loaded, item.endHandled = false →
      completions owner.records item.load = 0 ∧ advances owner.records item.load = 0)
    (once : ∀ info ∈ shown, ∀ loaded ∈ owner.session.loaded, ∀ advance ∈ owner.session.deviceAdvance info now,
        advances owner.records loaded.load = 0 ∧ (advance.completes = true → completions owner.records loaded.load = 0))
    (polls : Polls owner now shown after) : after.Accounted := by
  cases polls with
  | unseen queued _ keeps fails =>
    refine Ledger.Accounted.fails ?_ fails
    exact accounted.reread rfl rfl rfl rfl (.inl unpolled) fun item held => ⟨item, held, rfl, rfl, id⟩
  | read info middle _ reads fails =>
    refine Ledger.Accounted.fails ?_ fails
    have observed : ∀ loaded watch, (∀ item ∈ loaded, ∃ old ∈ owner.session.loaded, EmbySessionOutput.Flagged old item) →
        (observing owner info loaded watch now).ledger.Accounted := by
      intro loaded watch flagged
      refine accounted.reread rfl rfl rfl rfl (.inl unpolled) fun item held => ?_
      obtain ⟨old, was, flags⟩ := flagged item held
      refine ⟨old, was, flags.load, flags.failureReported, fun unended => ?_⟩
      by_contra handled
      rw [flags.ended (by simpa using handled)] at unended
      cases unended
    have handled : ∀ item watch, owner.session.loaded = some item →
        (observing owner info (some { item with endHandled := true }) watch now).ledger.Accounted := by
      intro item watch loaded
      refine accounted.reread rfl rfl rfl rfl (.inl unpolled) ?_
      rintro _ ⟨⟩
      exact ⟨item, loaded, rfl, rfl, fun unended => by cases unended⟩
    cases reads with
    | goesOn loaded watch _ flagged kept read loads => exact (observed loaded watch flagged).loads loads
    | follows watch old item advance _ loaded flagged kept moved follows =>
      have seen := observed (some item) watch (by
        rintro _ ⟨⟩
        exact ⟨old, loaded, flagged⟩)
      have left := once info rfl old loaded advance moved
      rw [← flagged.load] at left
      exact (seen.queued true).follows rfl unpolled left follows
    | ends item due queued _ loaded seen unhandled presents idle margin estimated ends =>
      exact ((handled item _ loaded).queued queued).ends rfl rfl (fresh item loaded unhandled) ends
    | continues item start held queued follows =>
      have unrecorded : start.recordsCompletion = true → completions owner.records item.load = 0 := by
        intro direct
        rcases follows.gate with ⟨-, ends, -⟩ | ⟨indirect, -, -⟩
        · unfold EmbySessionOutput.endsDirectly at ends
          simp only [Bool.and_eq_true, Bool.not_eq_true'] at ends
          exact (fresh item follows.loaded ends.1.1.1).1
        · rw [indirect] at direct
          cases direct
      have continued := @Ledger.Accounted.continues _ { item with endHandled := true }
        (handled item (some (.lookup start.itemId owner.lookups)) follows.loaded) start now rfl rfl
        held queued unrecorded
      exact continued

theorem submitDuePoll_accounted (accounted : owner.ledger.Accounted) : (owner.submitDuePoll now).ledger.Accounted := by
  unfold submitDuePoll
  split
  · rename_i due
    simp only [Bool.and_eq_true, Option.isNone_iff_eq_none] at due
    have unsent : owner.ledger.pollSent = none := by simp [SessionOwner.ledger, due.1]
    have unpolled : owner.ledger.polls = [] := by
      rcases accounted.polls with none_ | ⟨id, -, sent⟩
      · exact none_
      · rw [unsent] at sent
        cases sent
    have unpolledJobs : owner.jobs.filter SessionJob.isPoll = [] := unpolled
    cases runs : owner.session.workerRuns with
    | true =>
      have sent := accounted.polling (fun gone => absurd gone (by simp [SessionOwner.ledger, runs]))
        (.inr ⟨owner.session.nextPollId, rfl, rfl⟩)
      simpa [SessionOwner.ledger, submit, runs, filter_append, unpolledJobs, filter_cons, SessionJob.isPoll] using sent
    | false =>
      have unsent : Ledger.Accounted { owner.ledger with
          polls := [], pollSent := some owner.session.nextPollId } :=
        accounted.polling (fun _ _ => rfl) (.inl rfl)
      simpa [SessionOwner.ledger, submit, runs, unpolledJobs] using unsent
  · exact accounted

theorem submitDuePoll_ledger (owner : SessionOwner) : ∃ polls sent,
    (owner.submitDuePoll now).ledger = { owner.ledger with polls := polls, pollSent := sent } := by
  unfold submitDuePoll
  split
  · dsimp only
    unfold submit
    split <;> exact ⟨_, _, rfl⟩
  · exact ⟨_, _, rfl⟩

theorem tick_accounted (accounted : owner.ledger.Accounted) : (owner.tick now).ledger.Accounted :=
  ((submitDuePoll_accounted accounted).loads (checkQueuedNext_loads _)).fails (expireUnseenLoad_fails _)

theorem stop_ledger (owner : SessionOwner) : owner.stop.ledger = { owner.ledger with
    loaded := none, observation := none, observedAt := none } := by
  have kept := @ledger_transport owner "Stop"
  unfold stop
  simp only [SessionOwner.ledger, Ledger.mk.injEq] at kept ⊢
  simp [kept]

theorem stop_accounted (accounted : owner.ledger.Accounted) : owner.stop.ledger.Accounted := by
  rw [stop_ledger]
  exact accounted.reread rfl rfl rfl rfl (.inr rfl) (by simp)

theorem clearContinuation_accounted (accounted : owner.ledger.Accounted) :
    owner.clearContinuation.ledger.Accounted :=
  accounted.reread rfl rfl rfl rfl (.inr rfl) fun item held => ⟨item, held, rfl, rfl, id⟩

theorem handleLookup_accounted (accounted : owner.ledger.Accounted) (settings : SessionSettings)
    (answered : Nat) (itemId : String) (result : Except String EmbyItem) :
    (owner.handleLookup settings answered itemId result now).ledger.Accounted := by
  unfold handleLookup
  split
  · split
    · split
      · exact clearContinuation_accounted accounted
      · exact clearContinuation_accounted accounted
      · rename_i pending _ _ _ _ item ended loaded
        split
        · have nothing : Uncounted [.adopted answered pending ended.load (owner.core.queue.append (.emby item)).1] := by
            simp [Uncounted, completions, SessionRecord.completes, advances, failures]
          exact (accounted.uncounted nothing).install le_rfl (Nat.lt_succ_self _) _ none
        · exact clearContinuation_accounted accounted
    · exact accounted
  · exact accounted

theorem awaited_of_poll (accounted : owner.ledger.Accounted) {pollId : Nat} (pending : .poll pollId ∈ owner.jobs) :
    owner.ledger.polls = [.poll pollId] ∧ owner.session.pollSent.map (·.1) = some pollId := by
  have listed : .poll pollId ∈ owner.ledger.polls := mem_filter.mpr ⟨pending, rfl⟩
  rcases accounted.polls with none_ | ⟨id, one, sent⟩
  · rw [none_] at listed
    cases listed
  · rw [one, mem_singleton] at listed
    cases listed
    exact ⟨one, sent⟩

theorem erase_accounted (accounted : owner.ledger.Accounted) (job : SessionJob) :
    ({ owner with jobs := owner.jobs.erase job }).ledger.Accounted := by
  rw [ledger_erase]
  refine accounted.polling (fun _ none_ => by rw [none_]; rfl) ?_
  rcases accounted.polls with none_ | ⟨id, one, sent⟩
  · exact .inl (by rw [none_]; rfl)
  · rw [one, erase_cons]
    split
    · exact .inl rfl
    · exact .inr ⟨id, rfl, sent⟩

theorem answered_accounted (accounted : owner.ledger.Accounted) {settings : SessionSettings}
    {job : SessionJob} {answer : SessionAnswer}
    (once : ∀ pollId sessions, job = .poll pollId → answer = .sessions sessions → job ∈ owner.jobs → ∀ info,
      (sessions.find? fun session => session.deviceId == owner.session.deviceId) = some info →
        ∀ loaded ∈ owner.session.loaded, ∀ advance ∈ owner.session.deviceAdvance info now,
          advances owner.records loaded.load = 0 ∧ (advance.completes = true → completions owner.records loaded.load = 0)) :
    (owner.answered settings job answer now).ledger.Accounted := by
  unfold answered
  split
  · rename_i pending
    have erased := erase_accounted accounted job
    dsimp only
    split
    · rename_i pollId sessions
      obtain ⟨one, sent⟩ := awaited_of_poll accounted pending
      have unpolled : ({ owner with jobs := owner.jobs.erase (.poll pollId) }).ledger.polls = [] := by
        rw [ledger_erase]
        simp [one]
      refine polls_accounted erased unpolled (fun item held unended => ?_)
        (once pollId sessions rfl rfl pending) (handleSessions_polls sent)
      rcases accounted.unhandled item held unended with zero | ⟨-, none_⟩
      · exact zero
      · rw [one] at none_
        cases none_
    · rename_i pollId error
      obtain ⟨one, sent⟩ := awaited_of_poll accounted pending
      refine Ledger.Accounted.fails ?_ (handleSessions_refused sent)
      refine erased.polling (fun _ none_ => none_) (.inl ?_)
      rw [ledger_erase]
      simp [one]
    · exact handleLookup_accounted erased ..
    · exact handleLookup_accounted erased ..
    · exact erased.fails (handlePlayFailed_fails _ _)
    · exact erased
  · exact accounted

end Handlers

/-! ### Whole runs -/

namespace SessionRun

theorem start_accounted (core : PlayerOwnerState) (deviceId : String) (session : SessionInfo)
    (pendingPause : Bool) (now : Ticks) :
    (start core deviceId session pendingPause now).owner.ledger.Accounted where
  completed load := by simp [start, SessionOwner.ledger, completions]
  advanced load := by simp [start, SessionOwner.ledger, advances]
  failed load := by simp [start, SessionOwner.ledger, failures]
  named load _ := by simp [start, SessionOwner.ledger, completions, advances, failures]
  tracked item held := by cases held
  unreported item held := by cases held
  unhandled item held := by cases held
  polls := .inl rfl

theorem step_accounted (run : SessionRun) (input : Ticks × SessionEvent)
    (accounted : run.owner.ledger.Accounted) (once : LeavesOnce run input) :
    (machine.step run input).owner.ledger.Accounted := by
  obtain ⟨elapsed, event⟩ := input
  cases event with
  | tick => exact tick_accounted accounted
  | answered settings job answer =>
    refine answered_accounted accounted fun pollId sessions poll list pending info listed => ?_
    subst poll list
    have sent := (awaited_of_poll accounted pending).2
    refine fun loaded held advance moved => once info ?_ loaded held advance moved
    unfold shown
    dsimp only
    rw [if_pos ⟨pending, sent⟩]
    exact listed
  | play transition startTicks => exact accounted.loads (dispatchAccepted_steps ..).loads
  | jump transition => exact accounted.loads (dispatchSlotJump_steps ..).loads
  | step request direction => exact accounted.loads (dispatchRelativeStep_steps ..).loads
  | expire deadline => exact accounted.loads (expireAndRedispatch_steps ..).loads
  | pause paused =>
    have same : (machine.step run (elapsed, .pause paused)).owner.ledger = run.owner.ledger := setPaused_ledger run.owner paused
    rwa [same]
  | stop => exact stop_accounted accounted
  | edited core => exact accounted
  | workerStops =>
    refine { accounted with unhandled := fun item held unended => ?_ }
    exact (accounted.unhandled item held unended).imp id fun stuck => ⟨rfl, stuck.2⟩

inductive StepAdds (run : SessionRun) (input : Ticks × SessionEvent) : SessionRecord → Prop where
  | polled (entry : SessionRecord) (adds : PollAdds run.owner.session run.owner.lookups
      (run.now input) (run.shown input) entry) : StepAdds run input entry
  | adopted (settings : SessionSettings) (answered pending : Nat) (itemId : String)
      (item : EmbyItem) (ended : EmbySessionLoadedItem)
      (answers : input.2 = .answered settings (.lookup answered itemId) (.item item))
      (submitted : .lookup answered itemId ∈ run.owner.jobs)
      (awaited : run.owner.session.continuation = some (.lookup itemId pending))
      (tracked : run.owner.session.loaded = some ended)
      (presents : presentsItem run.owner.session.lastObservation itemId = true)
      (admitted : run.owner.admissionVerdict settings (.emby item) = true) :
      StepAdds run input (.adopted answered pending ended.load
        (run.owner.core.queue.append (.emby item)).1)

theorem handleLookup_refused {now : Ticks} (owner : SessionOwner) (settings : SessionSettings)
    (answered : Nat) (itemId error : String) :
    (owner.handleLookup settings answered itemId (.error error) now).records = owner.records := by
  unfold handleLookup
  split
  · split <;> rfl
  · rfl

theorem handleLookup_adds (run : SessionRun) (elapsed : Ticks) (settings : SessionSettings)
    (answered : Nat) (itemId : String) (item : EmbyItem)
    (pending : .lookup answered itemId ∈ run.owner.jobs) :
    Ledger.Adds (StepAdds run (elapsed, .answered settings (.lookup answered itemId) (.item item))) run.owner.ledger
      ({ run.owner with jobs := run.owner.jobs.erase (.lookup answered itemId) }.handleLookup
        settings answered itemId (.ok item) (run.clock + elapsed)).ledger := by
  unfold handleLookup
  split
  · rename_i awaited serial watch
    split
    · rename_i same
      subst same
      split
      · exact .of_records rfl
      · exact .of_records rfl
      · rename_i _ _ _ adoptee ended answer tracked
        cases answer
        split
        · rename_i gate
          rw [Bool.and_eq_true] at gate
          refine ⟨[.adopted answered serial ended.load _], rfl, ?_⟩
          intro entry member
          rw [mem_singleton] at member
          subst member
          exact .adopted settings answered serial awaited item ended rfl pending watch tracked gate.1 gate.2
        · exact .of_records rfl
    · exact .of_records rfl
  · exact .of_records rfl

theorem answered_adds (run : SessionRun) (elapsed : Ticks) (settings : SessionSettings)
    (job : SessionJob) (answer : SessionAnswer) :
    Ledger.Adds (StepAdds run (elapsed, .answered settings job answer)) run.owner.ledger
      (run.owner.answered settings job answer (run.clock + elapsed)).ledger := by
  have rejects : ∀ entry : SessionRecord, entry.isRejection = true →
      StepAdds run (elapsed, .answered settings job answer) entry :=
    fun entry rejection => .polled entry (.rejected entry rejection)
  have failed : ∀ load, StepAdds run (elapsed, .answered settings job answer) (.failed load) :=
    fun load => .polled _ (.failed load)
  unfold answered
  split
  · rename_i pending
    dsimp only
    split
    · rename_i pollId sessions
      by_cases accepted : run.owner.session.pollSent.map (·.1) = some pollId
      · have listed : run.shown (elapsed, .answered settings (.poll pollId) (.sessions sessions)) =
            sessions.find? fun session => session.deviceId == run.owner.session.deviceId :=
          if_pos ⟨pending, accepted⟩
        have polls := polls_adds (@handleSessions_polls
          { run.owner with jobs := run.owner.jobs.erase (.poll pollId) } (run.clock + elapsed)
          settings pollId sessions accepted)
        refine Ledger.Adds.mono polls fun entry adds => .polled entry ?_
        rw [listed]
        exact adds
      · have ignored := @handleSessions_ignored
          { run.owner with jobs := run.owner.jobs.erase (.poll pollId) } (run.clock + elapsed)
          settings pollId (.ok sessions) accepted
        have same := congrArg SessionOwner.records ignored
        exact .of_records same
    · rename_i pollId error
      by_cases accepted : run.owner.session.pollSent.map (·.1) = some pollId
      · have fails := (@handleSessions_refused
          { run.owner with jobs := run.owner.jobs.erase (.poll pollId) } (run.clock + elapsed)
          settings pollId error accepted).adds rejects failed
        exact fails
      · have ignored := @handleSessions_ignored
          { run.owner with jobs := run.owner.jobs.erase (.poll pollId) } (run.clock + elapsed)
          settings pollId (.error error) accepted
        have same := congrArg SessionOwner.records ignored
        exact .of_records same
    · exact handleLookup_adds run elapsed settings _ _ _ pending
    · exact .of_records (handleLookup_refused _ _ _ _ _)
    · exact (handlePlayFailed_fails _ _).adds rejects failed
    · exact .of_records rfl
  · exact .of_records rfl

theorem step_adds (run : SessionRun) (input : Ticks × SessionEvent) :
    Ledger.Adds (StepAdds run input) run.owner.ledger (machine.step run input).owner.ledger := by
  have rejects : ∀ entry : SessionRecord, entry.isRejection = true → StepAdds run input entry :=
    fun entry rejection => .polled entry (.rejected entry rejection)
  have failed : ∀ load, StepAdds run input (.failed load) := fun load => .polled _ (.failed load)
  obtain ⟨elapsed, event⟩ := input
  cases event with
  | tick =>
    have polled : Ledger.Adds (StepAdds run (elapsed, .tick)) run.owner.ledger
        (run.owner.submitDuePoll (run.clock + elapsed)).ledger := by
      obtain ⟨polls, sent, same⟩ := @submitDuePoll_ledger (run.clock + elapsed) run.owner
      exact .of_records (by rw [same])
    have checked := (checkQueuedNext_loads (run.owner.submitDuePoll (run.clock + elapsed))).adds rejects
    exact (polled.trans checked).trans ((expireUnseenLoad_fails _).adds rejects failed)
  | answered settings job answer => exact answered_adds run elapsed settings job answer
  | play transition startTicks => exact (dispatchAccepted_steps ..).loads.adds rejects
  | jump transition => exact (dispatchSlotJump_steps ..).loads.adds rejects
  | step request direction => exact (dispatchRelativeStep_steps ..).loads.adds rejects
  | expire deadline => exact (expireAndRedispatch_steps ..).loads.adds rejects
  | pause paused =>
    exact .of_records (congrArg Ledger.records (setPaused_ledger run.owner paused))
  | stop =>
    have same := congrArg Ledger.records (stop_ledger run.owner)
    exact .of_records same
  | edited core => exact .of_records rfl
  | workerStops => exact .of_records rfl

/-- What has to be seen for a record of the loaded item's end: an accepted poll lists the device,
    which was last seen to play the item. A completion needs the item near its runtime; an advance
    needs that of an idle device, or the device on the queued item. -/
def Earned (run : SessionRun) (input : Ticks × SessionEvent) : SessionRecord → Prop
  | .completed load slot => ∃ info item, run.shown input = some info ∧
      run.owner.session.loaded = some item ∧ item.load = load ∧ item.slot = slot ∧
      presentsItem run.owner.session.lastObservation item.itemId = true ∧
      run.owner.session.endWithinMargin (run.now input) = true
  | .advanced load => ∃ info item, run.shown input = some info ∧
      run.owner.session.loaded = some item ∧ item.load = load ∧
      presentsItem run.owner.session.lastObservation item.itemId = true ∧
      ((run.owner.session.deviceAdvance info (run.now input)).isSome = true ∨
        info.nowPlayingItemId = none ∧ run.owner.session.endWithinMargin (run.now input) = true)
  | _ => True

theorem mem_leaving {item : EmbySessionLoadedItem} {held completes : Bool} {entry : SessionRecord}
    (leaves : entry ∈ Ledger.leaving item held completes) :
    entry = .advanced item.load ∨ completes = true ∧
      (entry = .ended item.load held ∨ entry = .completed item.load item.slot) := by
  cases completes with
  | true =>
    simp only [Ledger.leaving, if_true, mem_cons, not_mem_nil, or_false] at leaves
    tauto
  | false => exact .inl (by simpa [Ledger.leaving] using leaves)

theorem mem_continuing {item : EmbySessionLoadedItem} {held : Bool} {start : ContinuationStart}
    {now : Ticks} {entry : SessionRecord} (continues : entry ∈ Ledger.continuing item held start now) :
    entry = .lookup start now ∨ start.recordsCompletion = true ∧
      (entry = .ended item.load held ∨ held = true ∧ entry = .completed item.load item.slot) := by
  unfold Ledger.continuing at continues
  cases completes : start.recordsCompletion <;> cases held <;> simp [completes] at continues ⊢ <;> tauto

theorem earned_of_adds {run : SessionRun} {input : Ticks × SessionEvent} {entry : SessionRecord}
    (adds : StepAdds run input entry) : Earned run input entry := by
  cases adds with
  | adopted => trivial
  | polled _ adds =>
    cases adds with
    | rejected _ rejection => cases entry <;> trivial
    | failed => trivial
    | left info item advance held _ listed loaded moved leaves =>
      obtain ⟨same, queued, is, -, presents, -, completes⟩ := EmbySessionOutput.deviceAdvance_some moved
      rw [loaded] at is
      cases is
      rcases mem_leaving leaves with rfl | ⟨completing, rfl | rfl⟩
      · exact ⟨info, item, listed, loaded, rfl, presents, .inl (by rw [moved]; rfl)⟩
      · trivial
      · exact ⟨info, item, listed, loaded, rfl, rfl, presents, completes.symm.trans completing⟩
    | ended info item held _ listed loaded presents idle margin ends =>
      simp only [Ledger.ending, mem_cons, not_mem_nil, or_false] at ends
      rcases ends with rfl | rfl | rfl
      · trivial
      · exact ⟨info, item, listed, loaded, rfl, rfl, presents, margin⟩
      · exact ⟨info, item, listed, loaded, rfl, presents, .inr ⟨idle, margin⟩⟩
    | continued info item start held _ listed follows continues =>
      rcases mem_continuing continues with rfl | ⟨direct, rfl | ⟨-, rfl⟩⟩
      · trivial
      · trivial
      · rcases follows.gate with ⟨-, ends, -⟩ | ⟨indirect, -⟩
        · unfold EmbySessionOutput.endsDirectly at ends
          simp only [Bool.and_eq_true] at ends
          exact ⟨info, item, listed, follows.loaded, rfl, rfl, ends.1.1.2, ends.1.2⟩
        · rw [indirect] at direct
          cases direct

section EdgeOfQueue

def episode (id : String) : QueueItem :=
  .emby ⟨id, id, "Episode", "Video", 1000000000, false, 0, "", 0, 0, ""⟩

def episodes (ids : List String) : PlayerOwnerState :=
  .new (ids.foldl (fun queue id => (queue.append (episode id)).2) ⟨[], none, 0, 0, 1⟩)

def television (itemId : Option String) (positionTicks : Int) : SessionInfo where
  id := "session"
  deviceId := "television"
  nowPlayingItemId := itemId
  positionTicks := positionTicks
  runtimeTicks := 1000000000

def firstSlot : QueueSlotId := ⟨1, by decide⟩

def sighting (pollId : Nat) (itemId : Option String) (positionTicks : Int) :
    List (Ticks × SessionEvent) :=
  [(embySessionPollInterval, .tick),
    (0, .answered {} (.poll pollId) (.sessions [television itemId positionTicks]))]

/-- The only item ends, the queue grows, and the device shows the item again before it moves on. -/
def endsTwice : List (Ticks × SessionEvent) :=
  [(0, .play ⟨0, 0, firstSlot, .jump⟩ 0)] ++ sighting 0 (some "one") 950000000 ++
    sighting 1 none 0 ++ [(0, .edited (episodes ["one", "two"]))] ++
    sighting 2 (some "one") 980000000 ++ sighting 3 (some "two") 0

end EdgeOfQueue

end SessionRun

end Mbv.Output
