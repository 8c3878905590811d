import Mbv.Daemon.QueueEdit

namespace Mbv.Output

open Mbv.Queue Mbv.Player

/-- An instant, in ticks of 100 ns: the unit a position is reported in. -/
abbrev Ticks := Nat

def embySessionPollInterval : Ticks := 10000000

def embySessionDisconnectMisses : Nat := 3

def embySessionLoadTimeout : Ticks := 300000000

def embySessionAdoptionWindow : Ticks := 300000000

def embySessionEndMarginTicks : Int := 10 * ticksPerSecond

inductive OutputConnection where
  | connected
  | disconnected
deriving DecidableEq

/-- What `/Sessions` lists of one device. -/
structure SessionInfo where
  id : String
  deviceId : String
  nowPlayingItemId : Option String := none
  positionTicks : Int := 0
  runtimeTicks : Int := 0
  isPaused : Bool := false
  playableMediaTypes : List String := []
deriving DecidableEq

structure EmbySessionQueuedItem where
  slot : QueueSlotId
  itemId : String
  stale : Bool := false

/-- `load` numbers the loads of a run; no decision reads it. -/
structure EmbySessionLoadedItem where
  load : Nat
  slot : QueueSlotId
  itemId : String
  runtimeTicks : Int
  loadedAt : Ticks
  seenPlaying : Bool := false
  endHandled : Bool := false
  failureReported : Bool := false

/-- `serial` numbers the lookups of a run; no decision reads it. -/
inductive ContinuationWatch where
  | window (closes : Ticks)
  | lookup (itemId : String) (serial : Nat)

structure OutputAdvance where
  stepRequest : Option PlaybackRequestId := none
  failedSlot : Option QueueSlotId := none
  remaining : Nat

/-- The job channel of the output's worker is the only path to its device; `workerRuns` says that a
    job sent on it is taken. -/
structure EmbySessionOutput where
  workerRuns : Bool := true
  deviceId : String
  sessionId : Option String := none
  playableMediaTypes : List String := []
  connection : OutputConnection := .connected
  misses : Nat := 0
  pollSent : Option (Nat × Ticks) := none
  lastPoll : Option Ticks := none
  nextPollId : Nat := 0
  lastObservation : Option SessionInfo := none
  observedAt : Option Ticks := none
  loaded : Option EmbySessionLoadedItem := none
  queuedNext : Option EmbySessionQueuedItem := none
  pendingPause : Bool := false
  advance : Option OutputAdvance := none
  continuation : Option ContinuationWatch := none

def EmbySessionOutput.resolved (deviceId : String) (session : SessionInfo) (pendingPause : Bool)
    (now : Ticks) : EmbySessionOutput where
  deviceId := deviceId
  sessionId := some session.id
  playableMediaTypes := session.playableMediaTypes
  lastObservation := some session
  observedAt := some now
  pendingPause := pendingPause

def presentsItem (observed : Option SessionInfo) (itemId : String) : Bool :=
  observed.bind (·.nowPlayingItemId) == some itemId

namespace EmbySessionOutput

variable (output : EmbySessionOutput)

def presentedRuntimeTicks : Int :=
  let sessionRuntime := output.lastObservation.elim 0 (·.runtimeTicks)
  match output.loaded.filter fun loaded => presentsItem output.lastObservation loaded.itemId with
  | some loaded => if 0 < loaded.runtimeTicks then loaded.runtimeTicks else sessionRuntime
  | none => sessionRuntime

/-- The position last observed, moved on by the time since while the device plays, and held to the
    runtime. -/
def estimateTicks (now : Ticks) : Int :=
  match output.lastObservation with
  | none => 0
  | some observed =>
    let ticks :=
      match output.observedAt with
      | some observedAt =>
        if !observed.isPaused && observedAt ≤ now then
          observed.positionTicks + ((now - observedAt : Nat) : Int)
        else observed.positionTicks
      | none => observed.positionTicks
    if 0 < output.presentedRuntimeTicks then min ticks output.presentedRuntimeTicks else ticks

def knownItem (itemId : String) : Bool :=
  output.loaded.any (·.itemId == itemId) || output.queuedNext.any (·.itemId == itemId)

def playsLoadedItem : Bool :=
  output.loaded.any fun loaded => presentsItem output.lastObservation loaded.itemId

def playsForeignItem : Bool :=
  output.lastObservation.any (·.nowPlayingItemId.isSome) && !output.playsLoadedItem

/-! ### The end of the loaded item -/

def endWithinMargin (now : Ticks) : Bool :=
  decide (0 < output.presentedRuntimeTicks ∧
    output.presentedRuntimeTicks ≤ output.estimateTicks now + embySessionEndMarginTicks)

def remainingTicks : Option Int :=
  output.lastObservation.map fun observed =>
    max (output.presentedRuntimeTicks - observed.positionTicks) 0

def estimatedEnd : Option Ticks :=
  match output.observedAt, output.remainingTicks with
  | some observedAt, some remaining => some (observedAt + remaining.toNat)
  | _, _ => none

def endedRecently (now : Ticks) : Bool :=
  match output.observedAt, output.remainingTicks with
  | some observedAt, some remaining =>
    decide (observedAt ≤ now ∧
      ((now - observedAt : Nat) : Int) - remaining ≤ embySessionAdoptionWindow)
  | _, _ => false

/-- An idle device after a sighting of the loaded item ends it; near the runtime that is its natural
    end, and the answer is when it was due. -/
def endedNaturally (session : SessionInfo) (now : Ticks) :
    Option Ticks × EmbySessionOutput :=
  if session.nowPlayingItemId.isSome then (none, output)
  else
    match output.loaded with
    | none => (none, output)
    | some loaded =>
      if loaded.seenPlaying && !loaded.endHandled &&
          presentsItem output.lastObservation loaded.itemId then
        let handled := { output with loaded := some { loaded with endHandled := true } }
        (if handled.endWithinMargin now then handled.estimatedEnd else none, handled)
      else (none, output)

end EmbySessionOutput

structure DeviceAdvance where
  queued : QueueSlotId
  completes : Bool
  stale : Bool

/-- The item a device started by itself at the queue's end. The rest is the history's: the lookup's
    number, the load whose end it follows, and when that end was due. -/
structure ContinuationStart where
  itemId : String
  recordsCompletion : Bool
  serial : Nat
  load : Nat
  endsAt : Ticks
deriving DecidableEq

namespace EmbySessionOutput

variable (output : EmbySessionOutput)

/-- The device moved from the loaded item to the queued one by itself. The same item in both places
    moves only by falling back to its start from within the end margin. -/
def deviceAdvance (session : SessionInfo) (now : Ticks) : Option DeviceAdvance :=
  match output.loaded, output.queuedNext with
  | some loaded, some queued =>
    if !presentsItem output.lastObservation loaded.itemId ||
        !presentsItem (some session) queued.itemId then none
    else if loaded.itemId = queued.itemId ∧
        ¬ (output.endWithinMargin now = true ∧
          session.positionTicks < embySessionEndMarginTicks) then none
    else
      some { queued := queued.slot, completes := output.endWithinMargin now, stale := queued.stale }
  | _, _ => none

def expireWindow (now : Ticks) : EmbySessionOutput :=
  match output.continuation with
  | some (.window closes) => if closes < now then { output with continuation := none } else output
  | _ => output

/-- The tracked item's own end is what this observation shows: it was presented last, its end is
    due and not long past. -/
def endsDirectly (loaded : EmbySessionLoadedItem) (now : Ticks) : Bool :=
  !loaded.endHandled && presentsItem output.lastObservation loaded.itemId &&
    output.endWithinMargin now && output.endedRecently now

def followsEnd (loaded : EmbySessionLoadedItem) : Option Ticks :=
  match output.continuation with
  | some (.window closes) => if loaded.endHandled then some closes else none
  | _ => none

def queueEndContinuation (session : SessionInfo) (serial : Nat) (now : Ticks) :
    Option ContinuationStart × EmbySessionOutput :=
  match session.nowPlayingItemId with
  | none => (none, output)
  | some itemId =>
    if output.knownItem itemId || output.queuedNext.isSome then (none, output)
    else
      let output := output.expireWindow now
      match output.loaded with
      | none => (none, output)
      | some loaded =>
        if !loaded.seenPlaying then (none, output)
        else if output.endsDirectly loaded now then
          let start : ContinuationStart :=
            { itemId, recordsCompletion := true, serial, load := loaded.load
              endsAt := output.estimatedEnd.getD now }
          (some start,
            { output with
              loaded := some { loaded with endHandled := true }
              continuation := some (.lookup itemId serial) })
        else
          match output.followsEnd loaded with
          | none => (none, output)
          | some closes =>
            let start : ContinuationStart :=
              { itemId, recordsCompletion := false, serial, load := loaded.load
                endsAt := closes - embySessionAdoptionWindow }
            (some start, { output with continuation := some (.lookup itemId serial) })

def presentedLoadedSlot (session : SessionInfo) : Option QueueSlotId × EmbySessionOutput :=
  match output.loaded with
  | some loaded =>
    if presentsItem (some session) loaded.itemId then
      (some loaded.slot, { output with loaded := some { loaded with seenPlaying := true } })
    else (none, output)
  | none => (none, output)

end EmbySessionOutput

structure Observation where
  presented : Option QueueSlotId := none
  endedNaturally : Option Ticks := none
  deviceAdvance : Option DeviceAdvance := none
  continuation : Option ContinuationStart := none

/-- A poll's list of Sessions, read for this device. The ends are judged on the observation this one
    replaces. -/
def EmbySessionOutput.observe (output : EmbySessionOutput) (sessions : List SessionInfo)
    (serial : Nat) (now : Ticks) : Observation × EmbySessionOutput :=
  match sessions.find? fun session => session.deviceId == output.deviceId with
  | none =>
    let misses := min (output.misses + 1) 255
    ({}, { output with
      misses := misses
      connection :=
        if embySessionDisconnectMisses ≤ misses then .disconnected else output.connection })
  | some session =>
    let output := { output with misses := 0, sessionId := some session.id }
    let deviceAdvance := output.deviceAdvance session now
    let (endedNaturally, output) := output.endedNaturally session now
    let (continuation, output) := output.queueEndContinuation session serial now
    let (presented, output) := output.presentedLoadedSlot session
    ({ presented, endedNaturally, deviceAdvance, continuation },
      { output with
        lastObservation := some session
        observedAt := some now
        connection := .connected })

/-! ### What one observation reads and leaves -/

namespace EmbySessionOutput

variable {output : EmbySessionOutput} {info : SessionInfo} {now : Ticks}

variable {item : EmbySessionLoadedItem}

theorem presentedRuntimeTicks_flags (seen ended : Bool) (loaded : output.loaded = some item) :
    { output with loaded := some { item with seenPlaying := seen, endHandled := ended }
      }.presentedRuntimeTicks = output.presentedRuntimeTicks := by
  unfold presentedRuntimeTicks
  rw [loaded]
  cases shown : presentsItem output.lastObservation item.itemId <;> simp [Option.filter, shown]

theorem endWithinMargin_flags (seen ended : Bool) (loaded : output.loaded = some item) :
    { output with loaded := some { item with seenPlaying := seen, endHandled := ended }
      }.endWithinMargin now = output.endWithinMargin now := by
  unfold endWithinMargin estimateTicks
  rw [presentedRuntimeTicks_flags seen ended loaded]

theorem estimatedEnd_flags (seen ended : Bool) (loaded : output.loaded = some item) :
    { output with loaded := some { item with seenPlaying := seen, endHandled := ended }
      }.estimatedEnd = output.estimatedEnd := by
  unfold estimatedEnd remainingTicks
  rw [presentedRuntimeTicks_flags seen ended loaded]

theorem estimateTicks_le {observed : SessionInfo} {observedAt : Ticks}
    (last : output.lastObservation = some observed) (seen : output.observedAt = some observedAt)
    (past : observedAt ≤ now) :
    output.estimateTicks now ≤ observed.positionTicks + ((now : Int) - observedAt) := by
  have elapsed : ((now - observedAt : Nat) : Int) = (now : Int) - observedAt := Int.ofNat_sub past
  have forward : (observedAt : Int) ≤ now := Int.ofNat_le.mpr past
  unfold estimateTicks
  rw [last, seen]
  dsimp only
  split <;> split <;> omega

theorem estimatedEnd_due {due : Ticks} (margin : output.endWithinMargin now = true)
    (estimated : output.estimatedEnd = some due) (past : ∀ seen ∈ output.observedAt, seen ≤ now) :
    due ≤ now + embySessionAdoptionWindow := by
  unfold estimatedEnd remainingTicks at estimated
  split at estimated
  · rename_i observedAt remaining seen left
    cases estimated
    rw [Option.map_eq_some_iff] at left
    obtain ⟨observed, last, rfl⟩ := left
    have estimate := estimateTicks_le last seen (past observedAt seen)
    unfold endWithinMargin at margin
    have near := (of_decide_eq_true margin).2
    have window : embySessionEndMarginTicks ≤ (embySessionAdoptionWindow : Int) := by decide
    have forward : (observedAt : Int) ≤ now := Int.ofNat_le.mpr (past observedAt seen)
    have due : ((observedAt + (max (output.presentedRuntimeTicks - observed.positionTicks)
        0).toNat : Nat) : Int) ≤ (now : Int) + embySessionAdoptionWindow := by
      push_cast
      omega
    exact_mod_cast due
  · cases estimated

theorem estimatedEnd_recent (recent : output.endedRecently now = true) :
    ∃ due, output.estimatedEnd = some due ∧ now ≤ due + embySessionAdoptionWindow := by
  unfold endedRecently at recent
  unfold estimatedEnd
  split at recent
  · rename_i observedAt remaining seen left
    have bounds := of_decide_eq_true recent
    refine ⟨observedAt + remaining.toNat, rfl, ?_⟩
    have elapsed : ((now - observedAt : Nat) : Int) = (now : Int) - observedAt := Int.ofNat_sub bounds.1
    have due : (now : Int) ≤ ((observedAt + remaining.toNat : Nat) : Int) +
        embySessionAdoptionWindow := by
      push_cast
      omega
    exact_mod_cast due
  · cases recent

theorem endedNaturally_spec (output : EmbySessionOutput) (info : SessionInfo) (now : Ticks) :
    output.endedNaturally info now = (none, output) ∨
      ∃ item, output.loaded = some item ∧ item.seenPlaying = true ∧ item.endHandled = false ∧
        presentsItem output.lastObservation item.itemId = true ∧
        info.nowPlayingItemId = none ∧
        output.endedNaturally info now = (if output.endWithinMargin now then output.estimatedEnd else none,
            { output with loaded := some { item with endHandled := true } }) := by
  unfold endedNaturally
  split
  · exact .inl rfl
  · rename_i idle
    split
    · exact .inl rfl
    · rename_i item loaded
      split
      · rename_i ends
        simp only [Bool.and_eq_true, Bool.not_eq_true'] at ends
        refine .inr ⟨item, loaded, ends.1.1, ends.1.2, ends.2, by simpa using idle, ?_⟩
        have margin := @endWithinMargin_flags output now item item.seenPlaying true loaded
        have due := @estimatedEnd_flags output item item.seenPlaying true loaded
        simp only [margin, due]
      · exact .inl rfl

/-- What an item the owner did not put on the device starts. -/
structure Continues (output : EmbySessionOutput) (info : SessionInfo) (serial : Nat) (now : Ticks)
    (item : EmbySessionLoadedItem) (start : ContinuationStart) : Prop where
  loaded : output.loaded = some item
  presented : info.nowPlayingItemId = some start.itemId
  foreign : output.knownItem start.itemId = false
  unqueued : output.queuedNext = none
  seen : item.seenPlaying = true
  serial : start.serial = serial
  load : start.load = item.load
  gate : start.recordsCompletion = true ∧ output.endsDirectly item now = true ∧
        start.endsAt = output.estimatedEnd.getD now ∨
      start.recordsCompletion = false ∧ item.endHandled = true ∧ ∃ closes,
        output.continuation = some (.window closes) ∧ now ≤ closes ∧
        start.endsAt = closes - embySessionAdoptionWindow

theorem expireWindow_spec (output : EmbySessionOutput) (now : Ticks) : output.expireWindow now = output ∧
        (∀ closes, output.continuation = some (.window closes) → now ≤ closes) ∨
      output.expireWindow now = { output with continuation := none } ∧
        ∃ closes, output.continuation = some (.window closes) := by
  unfold expireWindow
  split
  · rename_i closes watch
    split
    · exact .inr ⟨rfl, closes, watch⟩
    · rename_i unexpired
      refine .inl ⟨rfl, fun other same => ?_⟩
      rw [watch] at same
      cases same
      exact Nat.le_of_not_lt unexpired
  · rename_i other
    exact .inl ⟨rfl, fun closes same => absurd same (other closes)⟩

theorem followsEnd_some {closes : Ticks} (follows : output.followsEnd item = some closes) :
    item.endHandled = true ∧ output.continuation = some (.window closes) := by
  unfold followsEnd at follows
  split at follows
  · rename_i window watch
    split at follows
    · rename_i handled
      cases follows
      exact ⟨handled, watch⟩
    · cases follows
  · cases follows

/-- While the window after an end is open, no other item starts unread on a device that has nothing
    queued. -/
def WindowRead (output : EmbySessionOutput) (info : SessionInfo)
    (watch : Option ContinuationWatch) : Prop :=
  ∀ closes, watch = some (.window closes) → output.queuedNext = none →
    ∀ item ∈ output.loaded, item.seenPlaying = true → item.endHandled = true →
      ∀ itemId, info.nowPlayingItemId = some itemId → itemId = item.itemId

theorem windowRead_of_known {itemId : String} (watch : Option ContinuationWatch)
    (presented : info.nowPlayingItemId = some itemId)
    (known : output.knownItem itemId = true ∨ output.queuedNext.isSome = true) :
    WindowRead output info watch := by
  intro closes _ unqueued item loaded _ _ other shown
  rw [presented] at shown
  cases shown
  rw [Option.mem_def] at loaded
  simp only [knownItem, unqueued, loaded, Option.any_some, Option.any_none, Bool.or_false,
    Option.isSome_none, Bool.false_eq_true, or_false, beq_iff_eq] at known
  exact known.symm

theorem windowRead_none : WindowRead output info none := by
  intro closes open_
  cases open_

theorem queueEndContinuation_spec (output : EmbySessionOutput) (info : SessionInfo) (serial : Nat) (now : Ticks) :
    (∃ watch, (watch = output.continuation ∨ watch = none) ∧ WindowRead output info watch ∧
        output.queueEndContinuation info serial now = (none, { output with continuation := watch })) ∨
      ∃ item start, Continues output info serial now item start ∧
        output.queueEndContinuation info serial now = (some start, { output with
            loaded := some { item with endHandled := true }
            continuation := some (.lookup start.itemId serial) }) := by
  unfold queueEndContinuation
  split
  · rename_i idle
    refine .inl ⟨_, .inl rfl, fun _ _ _ _ _ _ _ itemId presented => ?_, rfl⟩
    rw [idle] at presented
    cases presented
  · rename_i itemId presented
    split
    · rename_i known
      rw [Bool.or_eq_true] at known
      exact .inl ⟨_, .inl rfl, windowRead_of_known _ presented known, rfl⟩
    · rename_i other
      simp only [Bool.or_eq_true, not_or, Bool.not_eq_true, Option.isSome_eq_false_iff, Option.isNone_iff_eq_none] at other
      obtain ⟨foreign, unqueued⟩ := other
      dsimp only
      rcases expireWindow_spec output now with ⟨same, within⟩ | ⟨expired, -⟩
      · rw [same]
        split
        · rename_i absent
          refine .inl ⟨_, .inl rfl, fun _ _ _ item loaded => ?_, rfl⟩
          rw [absent] at loaded
          cases loaded
        · rename_i item loaded
          split
          · rename_i unseen
            refine .inl ⟨_, .inl rfl, fun _ _ _ other held seen => ?_, rfl⟩
            rw [loaded] at held
            cases held
            simp [seen] at unseen
          · rename_i seen
            simp only [Bool.not_eq_true', Bool.not_eq_false] at seen
            split
            · rename_i direct
              exact .inr ⟨item, _, ⟨loaded, presented, foreign, unqueued, seen, rfl, rfl, .inl ⟨rfl, direct, rfl⟩⟩, rfl⟩
            · split
              · rename_i unfollowed
                refine .inl ⟨_, .inl rfl, fun closes open_ _ other held _ handled => ?_, rfl⟩
                rw [loaded] at held
                cases held
                simp [followsEnd, open_, handled] at unfollowed
              · rename_i closes follows
                obtain ⟨handled, open_⟩ := followsEnd_some follows
                have start : Continues output info serial now item
                    { itemId, recordsCompletion := false, serial, load := item.load
                      endsAt := closes - embySessionAdoptionWindow } :=
                  ⟨loaded, presented, foreign, unqueued, seen, rfl, rfl,
                    .inr ⟨rfl, handled, closes, open_, within closes open_, rfl⟩⟩
                refine .inr ⟨item, _, start, ?_⟩
                rw [← handled, ← loaded]
      · rw [expired]
        split
        · exact .inl ⟨none, .inr rfl, windowRead_none, rfl⟩
        · rename_i item loaded
          split
          · exact .inl ⟨none, .inr rfl, windowRead_none, rfl⟩
          · rename_i seen
            simp only [Bool.not_eq_true', Bool.not_eq_false] at seen
            split
            · rename_i direct
              exact .inr ⟨item, _, ⟨loaded, presented, foreign, unqueued, seen, rfl, rfl, .inl ⟨rfl, direct, rfl⟩⟩, rfl⟩
            · exact .inl ⟨none, .inr rfl, windowRead_none, rfl⟩

structure Flagged (before after : EmbySessionLoadedItem) : Prop where
  load : after.load = before.load
  slot : after.slot = before.slot
  itemId : after.itemId = before.itemId
  failureReported : after.failureReported = before.failureReported
  seen : before.seenPlaying = true → after.seenPlaying = true
  ended : before.endHandled = true → after.endHandled = true
  endedSeen : after.endHandled = true → before.endHandled = true ∨ after.seenPlaying = true

theorem Flagged.refl (item : EmbySessionLoadedItem) : Flagged item item := ⟨rfl, rfl, rfl, rfl, id, id, .inl⟩

inductive Reading (output : EmbySessionOutput) (info : SessionInfo) (serial : Nat) (now : Ticks) :
    Observation → Option EmbySessionLoadedItem → Option ContinuationWatch → Prop where
  /-- No natural end; an idle device may still have ended the item early. -/
  | goesOn (observation : Observation) (loaded : Option EmbySessionLoadedItem)
      (watch : Option ContinuationWatch)
      (ended : observation.endedNaturally = none) (continues : observation.continuation = none)
      (none_ : output.loaded = none → loaded = none)
      (flagged : ∀ before ∈ output.loaded, ∃ after, loaded = some after ∧ Flagged before after)
      (kept : watch = output.continuation ∨ watch = none)
      (read : WindowRead output info watch) :
      Reading output info serial now observation loaded watch
  | ends (observation : Observation) (item : EmbySessionLoadedItem) (due : Ticks)
      (ended : observation.endedNaturally = some due) (continues : observation.continuation = none)
      (unpresented : observation.presented = none) (loaded : output.loaded = some item) (seen : item.seenPlaying = true)
      (unhandled : item.endHandled = false)
      (presents : presentsItem output.lastObservation item.itemId = true)
      (idle : info.nowPlayingItemId = none) (margin : output.endWithinMargin now = true)
      (estimated : output.estimatedEnd = some due) :
      Reading output info serial now observation (some { item with endHandled := true })
        output.continuation
  | continues (observation : Observation) (item : EmbySessionLoadedItem)
      (start : ContinuationStart) (ended : observation.endedNaturally = none)
      (started : observation.continuation = some start) (unpresented : observation.presented = none)
      (follows : Continues output info serial now item start) :
      Reading output info serial now observation (some { item with endHandled := true })
        (some (.lookup start.itemId serial))

theorem presentedLoadedSlot_spec (output : EmbySessionOutput) (info : SessionInfo) :
    ∃ presented loaded, output.presentedLoadedSlot info = (presented, { output with loaded := loaded }) ∧
      (output.loaded = none → loaded = none) ∧
      ∀ before ∈ output.loaded, loaded = some before ∨ loaded = some { before with seenPlaying := true } := by
  unfold presentedLoadedSlot
  split
  · rename_i item loaded
    split
    · refine ⟨_, _, rfl, fun absent => ?_, fun before held => ?_⟩
      · rw [loaded] at absent
        cases absent
      · rw [loaded] at held
        cases held
        exact .inr rfl
    · refine ⟨none, output.loaded, rfl, id, fun before held => .inl ?_⟩
      exact held
  · rename_i absent
    refine ⟨none, output.loaded, rfl, id, fun before held => .inl held⟩

theorem presentedLoadedSlot_unpresented (loaded : output.loaded = some item)
    (other : presentsItem (some info) item.itemId = false) :
    output.presentedLoadedSlot info = (none, output) := by
  simp [presentedLoadedSlot, loaded, other]

theorem flagged_of_sighted {before after : EmbySessionLoadedItem}
    (sighted : after = before ∨ after = { before with seenPlaying := true }) :
    Flagged before after := by
  rcases sighted with rfl | rfl
  · exact .refl _
  · exact ⟨rfl, rfl, rfl, rfl, fun _ => rfl, id, .inl⟩

theorem observe_absent {sessions : List SessionInfo} {serial : Nat}
    (absent : sessions.find? (fun session => session.deviceId == output.deviceId) = none) :
    ∃ misses connection, output.observe sessions serial now =
      ({}, { output with misses := misses, connection := connection }) := by
  unfold observe
  rw [absent]
  exact ⟨_, _, rfl⟩

theorem deviceAdvance_some {advance : DeviceAdvance} (moved : output.deviceAdvance info now = some advance) : ∃ item queued,
      output.loaded = some item ∧ output.queuedNext = some queued ∧
      presentsItem output.lastObservation item.itemId = true ∧
      presentsItem (some info) queued.itemId = true ∧
      advance.completes = output.endWithinMargin now := by
  unfold deviceAdvance at moved
  split at moved
  · rename_i item queued loaded holds
    split at moved
    · cases moved
    · rename_i shown
      simp only [Bool.or_eq_true, Bool.not_eq_true', not_or, Bool.not_eq_false] at shown
      split at moved
      · cases moved
      · cases moved
        exact ⟨item, queued, loaded, holds, shown.1, shown.2, rfl⟩
  · cases moved

theorem deviceAdvance_queued {advance : DeviceAdvance} {queued : EmbySessionQueuedItem}
    (moved : output.deviceAdvance info now = some advance)
    (holds : output.queuedNext = some queued) :
    advance.queued = queued.slot ∧ advance.stale = queued.stale := by
  obtain ⟨item, _, loaded, -⟩ := deviceAdvance_some moved
  unfold deviceAdvance at moved
  rw [loaded, holds] at moved
  dsimp only at moved
  split at moved
  · cases moved
  · split at moved
    · cases moved
    · cases moved
      exact ⟨rfl, rfl⟩

theorem deviceAdvance_still (still : info.nowPlayingItemId = none ∨ output.queuedNext = none) :
    output.deviceAdvance info now = none := by
  by_contra moves
  obtain ⟨advance, moved⟩ := Option.ne_none_iff_exists'.mp moves
  obtain ⟨_, _, _, queues, _, shown, _⟩ := deviceAdvance_some moved
  rcases still with idle | unqueued
  · simp [presentsItem, idle] at shown
  · rw [unqueued] at queues
    cases queues

theorem observe_spec {sessions : List SessionInfo} {serial : Nat}
    (listed : sessions.find? (fun session => session.deviceId == output.deviceId) = some info) :
    ∃ observation loaded watch, output.observe sessions serial now = (observation, { output with
          misses := 0, sessionId := some info.id, loaded := loaded, continuation := watch
          lastObservation := some info, observedAt := some now, connection := .connected }) ∧
      observation.deviceAdvance = output.deviceAdvance info now ∧
      Reading output info serial now observation loaded watch := by
  unfold observe
  rw [listed]
  dsimp only
  generalize sighted : { output with misses := 0, sessionId := some info.id } = found
  have advance : found.deviceAdvance info now = output.deviceAdvance info now := by
    rw [← sighted]
    rfl
  rcases endedNaturally_spec found info now with same | ⟨item, loaded, seen, unhandled, presents, idle, ended⟩
  · rw [same]
    dsimp only
    rcases queueEndContinuation_spec found info serial now with
      ⟨watch, kept, read, continues⟩ | ⟨item, start, follows, continues⟩
    · rw [continues]
      obtain ⟨presented, loaded, result, none_, flagged⟩ := presentedLoadedSlot_spec { found with continuation := watch } info
      rw [result]
      subst found
      refine ⟨_, loaded, watch, rfl, advance, .goesOn _ _ _ rfl rfl none_ (fun before held => ?_) kept read⟩
      rcases flagged before held with same | same
      · exact ⟨_, same, flagged_of_sighted (.inl rfl)⟩
      · exact ⟨_, same, flagged_of_sighted (.inr rfl)⟩
    · rw [continues]
      have unshown : presentsItem (some info) item.itemId = false := by
        have foreign := follows.foreign
        unfold knownItem at foreign
        rw [follows.loaded, Option.any_some, Bool.or_eq_false_iff] at foreign
        have other : item.itemId ≠ start.itemId := by simpa using foreign.1
        unfold presentsItem
        rw [Option.bind_some, follows.presented]
        simpa using other.symm
      rw [@presentedLoadedSlot_unpresented _ _ { item with endHandled := true } rfl unshown]
      subst found
      exact ⟨_, _, _, rfl, advance, .continues _ item start rfl rfl rfl
        ⟨follows.loaded, follows.presented, follows.foreign, follows.unqueued, follows.seen,
          follows.serial, follows.load, follows.gate⟩⟩
  · rw [ended]
    have uncontinued : ∀ output : EmbySessionOutput, output.queueEndContinuation info serial now = (none, output) := by
      intro output
      simp [queueEndContinuation, idle]
    have unshown : presentsItem (some info) item.itemId = false := by
      simp [presentsItem, idle]
    dsimp only
    rw [uncontinued, @presentedLoadedSlot_unpresented _ _ { item with endHandled := true } rfl unshown]
    subst found
    have flagged : Flagged item { item with endHandled := true } := ⟨rfl, rfl, rfl, rfl, id, fun _ => rfl, fun _ => .inr seen⟩
    have undue : ∀ observation : Observation, observation.endedNaturally = none → observation.continuation = none →
        Reading output info serial now observation (some { item with endHandled := true })
          output.continuation := by
      intro observation unended uncontinued
      refine .goesOn _ _ _ unended uncontinued (fun absent => ?_) (fun before held => ?_)
        (.inl rfl) (fun _ _ _ _ _ _ _ itemId presented => ?_)
      · rw [show output.loaded = some item from loaded] at absent
        cases absent
      · rw [show output.loaded = some item from loaded] at held
        cases held
        exact ⟨_, rfl, flagged⟩
      · rw [idle] at presented
        cases presented
    refine ⟨_, _, _, rfl, advance, ?_⟩
    dsimp only
    split
    · rename_i margin
      cases due : estimatedEnd { output with misses := 0, sessionId := some info.id } with
      | none => exact undue _ rfl rfl
      | some endedAt =>
        exact .ends _ item endedAt rfl rfl rfl loaded seen unhandled presents idle margin due
    · exact undue _ rfl rfl

end EmbySessionOutput

end Mbv.Output
