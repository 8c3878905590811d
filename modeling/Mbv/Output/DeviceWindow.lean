import Mbv.Output.ExitHandover

namespace Mbv.Output

open Mbv.Queue Mbv.Player Mbv.Daemon SessionOwner List

/-- What the device has to play behind its item once it has taken the job. -/
def SessionJob.give (behind : List String) : SessionJob → List String
  | .play _ _ _ itemIds _ => itemIds.tail
  | .playLast _ itemId => behind ++ [itemId]
  | .poll _ | .transport .. | .lookup .. => behind

namespace SessionOwner

variable (owner : SessionOwner)

def held : List String := owner.queued.map (·.2)

def supply : Bool × List SessionJob × List String :=
  (owner.session.workerRuns, owner.jobs, owner.held)

variable {owner}

theorem held_length : owner.held.length ≤ 1 := by
  unfold held queued
  cases owner.session.queuedNext <;> simp

theorem held_unqueued (unqueued : owner.session.queuedNext = none) : owner.held = [] := by
  simp [held, queued, unqueued]

end SessionOwner

/-- With `behind` on the device first, the jobs submitted leave it with what `after` records; without
    a worker there are none. -/
structure Gives (behind : List String) (before after : SessionOwner) : Prop where
  runs : after.session.workerRuns = before.session.workerRuns
  given : ∃ given, after.jobs = before.jobs ++ given ∧
    (before.session.workerRuns = false → given = []) ∧
    (before.session.workerRuns = true → given.foldl SessionJob.give behind = after.held)

namespace Gives

variable {behind : List String} {before middle after : SessionOwner}

theorem of_supply (same : after.supply = before.supply) : Gives before.held before after := by
  simp only [supply, Prod.mk.injEq] at same
  obtain ⟨runs, jobs, held⟩ := same
  exact ⟨runs, [], by rw [jobs, append_nil], fun _ => rfl, fun _ => held.symm⟩

theorem trans (left : Gives behind before middle) (right : Gives middle.held middle after) : Gives behind before after := by
  obtain ⟨runs, first, jobs, gone, leaves⟩ := left
  obtain ⟨runs', second, jobs', gone', leaves'⟩ := right
  refine ⟨runs'.trans runs, first ++ second, by rw [jobs', jobs, append_assoc], ?_, ?_⟩
  · intro stopped
    rw [gone stopped, gone' (runs.trans stopped)]
    rfl
  · intro working
    rw [foldl_append, leaves working, leaves' (runs.trans working)]

theorem refl (owner : SessionOwner) : Gives owner.held owner owner := .of_supply rfl

theorem after_supply (same : middle.supply = before.supply) (right : Gives behind middle after) : Gives behind before after := by
  simp only [supply, Prod.mk.injEq] at same
  obtain ⟨runs, jobs, -⟩ := same
  obtain ⟨kept, given, added, gone, leaves⟩ := right
  exact ⟨kept.trans runs, given, jobs ▸ added, runs ▸ gone, runs ▸ leaves⟩

theorem then_supply (left : Gives behind before middle) (same : after.supply = middle.supply) :
    Gives behind before after := left.trans (of_supply same)

end Gives

section Giving

variable {owner after : SessionOwner} {now : Ticks}

theorem submit_gives {job : SessionJob} (nothing : ∀ behind, SessionJob.give behind job = behind) :
    Gives owner.held owner (owner.submit job) := by
  unfold submit
  split
  · rename_i runs
    refine ⟨rfl, [job], rfl, fun stopped => ?_, fun _ => nothing owner.held⟩
    rw [runs] at stopped
    cases stopped
  · exact .of_supply rfl

theorem transport_gives (command : String) : Gives owner.held owner (owner.transport command) := by
  unfold transport
  split
  · exact submit_gives fun _ => rfl
  · exact .of_supply rfl

theorem submitPlay_gives {load : SessionLoad} (behind : List String)
    (taken : owner.submitPlay load now = some after) : Gives behind owner after := by
  unfold submitPlay at taken
  split at taken
  · rename_i runs
    cases taken
    refine ⟨?_, [.play owner.loads load.slot load.sessionId
      (load.itemId :: load.next.toList.map (·.2)) load.startTicks], ?_, fun stopped => ?_,
      fun _ => ?_⟩
    · simp [install, submit, runs]
    · simp [install, submit, runs]
    · rw [runs] at stopped
      cases stopped
    · cases next : load.next <;> simp [SessionJob.give, held, queued, install]
  · cases taken

theorem submitPlayLast_gives {slot : QueueSlotId} {itemId : String}
    (taken : owner.submitPlayLast slot itemId = some after) : Gives [] owner after := by
  unfold submitPlayLast at taken
  split at taken
  · cases taken
  · rename_i sessionId _
    split at taken
    · rename_i runs
      cases taken
      refine ⟨?_, [.playLast sessionId itemId], ?_, fun stopped => ?_, fun _ => rfl⟩
      · simp [submit, runs]
      · simp [submit, runs]
      · rw [runs] at stopped
        cases stopped
    · cases taken

theorem supply_setQueuedNextStale (owner : SessionOwner) (stale : Bool) :
    (owner.setQueuedNextStale stale).supply = owner.supply := by
  cases holds : owner.session.queuedNext <;> simp [supply, held, queued, setQueuedNextStale, holds]

theorem checkQueuedNext_queued {loaded : EmbySessionLoadedItem} {queued : EmbySessionQueuedItem}
    (tracked : owner.session.loaded = some loaded) (holds : owner.session.queuedNext = some queued) :
    owner.checkQueuedNext = owner.setQueuedNextStale (decide ((owner.window loaded.slot).1.map (·.1) ≠ some queued.slot)) := by
  unfold checkQueuedNext
  rw [tracked, holds]
  dsimp only
  cases (owner.window loaded.slot).1 with
  | none => rfl
  | some next =>
    have other : (next.1 != queued.slot) = decide (some next.1 ≠ some queued.slot) := by
      rw [Bool.eq_iff_iff]
      simp
    exact congrArg owner.setQueuedNextStale other

theorem LoadStep.gives (step : LoadStep now owner after) : Gives owner.held owner after := by
  cases step with
  | core => exact .of_supply rfl
  | advance => exact .of_supply rfl
  | stepped => exact .of_supply rfl
  | transport command => exact transport_gives command
  | marked stale => exact .of_supply (supply_setQueuedNextStale owner stale)
  | play taken => exact submitPlay_gives owner.held taken
  | playLast unqueued taken => exact held_unqueued unqueued ▸ submitPlayLast_gives taken

theorem Loading.gives (steps : Loading now owner after) : Gives owner.held owner after := by
  induction steps with
  | refl => exact .refl owner
  | tail _ step ih => exact ih.trans step.gives

theorem beginAdvance_gives (owner : SessionOwner) (policy : ConsumePolicy) :
    Gives owner.held owner (owner.beginAdvance policy now) := by
  unfold beginAdvance
  split
  · exact .of_supply rfl
  · rename_i loaded _
    dsimp only
    have same : ∀ consume remaining, Gives owner.held owner
        (((((owner.noteNaturalEnd loaded).observeSlot loaded.slot).recordLoadedEnd policy loaded
          consume).record (.advanced loaded.load)).setAdvance (some { remaining := remaining })) := fun _ _ => .of_supply rfl
    exact (same _ _).trans (stepTargetAdvance_steps _ _ _).gives

theorem advanceFromNaturalEnd_gives (owner : SessionOwner) (policy : ConsumePolicy)
    (endedAt : Ticks) : Gives owner.held owner (owner.advanceFromNaturalEnd policy endedAt now) := by
  have begun := @beginAdvance_gives now owner policy
  unfold advanceFromNaturalEnd
  dsimp only
  split
  · exact begun.then_supply rfl
  · exact begun

theorem continuationStarted_gives (owner : SessionOwner) (policy : ConsumePolicy) (start : ContinuationStart) :
    Gives owner.held owner (owner.continuationStarted policy start now) := by
  have looked : ∀ noted : SessionOwner, noted.supply = owner.supply → Gives owner.held owner
        (let asked := (noted.submit (.lookup start.serial start.itemId)).record (.lookup start now)
        let asked := { asked with lookups := asked.lookups + 1 }
        if asked.session.workerRuns then asked
        else { asked with session := { asked.session with continuation := none } }) := by
    intro noted same
    have submitted : Gives owner.held owner (noted.submit (.lookup start.serial start.itemId)) :=
      (Gives.of_supply same).trans (submit_gives fun _ => rfl)
    dsimp only
    split <;> exact submitted.then_supply rfl
  unfold continuationStarted
  apply looked
  split
  · dsimp only
    split <;> rfl
  · rfl

theorem failLoadedItem_gives (owner : SessionOwner) : Gives owner.held owner (owner.failLoadedItem now) := by
  unfold failLoadedItem
  split
  · exact .of_supply rfl
  · rename_i loaded _
    split
    · exact .of_supply rfl
    · have reported : Gives owner.held owner ({ owner with
          session := { owner.session with loaded := some { loaded with failureReported := true } }
          }.record (.failed loaded.load)) := .of_supply rfl
      exact reported.trans (expireRemoteTransition_steps _).gives

theorem expireUnseenLoad_gives (owner : SessionOwner) : Gives owner.held owner (owner.expireUnseenLoad now) := by
  unfold expireUnseenLoad
  split
  · exact failLoadedItem_gives owner
  · exact .of_supply rfl

theorem handlePlayFailed_gives (owner : SessionOwner) (slot : QueueSlotId) :
    Gives owner.held owner (owner.handlePlayFailed slot now) := by
  unfold handlePlayFailed
  split
  · exact failLoadedItem_gives owner
  · exact .of_supply rfl

theorem handleLookup_gives (owner : SessionOwner) (settings : SessionSettings) (answered : Nat)
    (itemId : String) (result : Except String EmbyItem) :
    Gives owner.held owner (owner.handleLookup settings answered itemId result now) := by
  unfold handleLookup
  split
  · split
    · split
      · exact .of_supply rfl
      · exact .of_supply rfl
      · split
        · exact .of_supply rfl
        · exact .of_supply rfl
    · exact .of_supply rfl
  · exact .of_supply rfl

theorem submitDuePoll_gives (owner : SessionOwner) : Gives owner.held owner (owner.submitDuePoll now) := by
  unfold submitDuePoll
  split
  · have polled : Gives owner.held owner (owner.submit (.poll owner.session.nextPollId)) := submit_gives fun _ => rfl
    exact polled.then_supply rfl
  · exact .of_supply rfl

theorem tick_gives (owner : SessionOwner) : Gives owner.held owner (owner.tick now) :=
  ((submitDuePoll_gives owner).trans (@checkQueuedNext_steps now _).gives).trans (expireUnseenLoad_gives _)

theorem stop_gives (owner : SessionOwner) : Gives owner.held owner owner.stop := (transport_gives "Stop").then_supply rfl

/-! ### The device's own move -/

theorem stopStaleAdvance_gives (owner : SessionOwner) : Gives [] owner owner.stopStaleAdvance := by
  obtain ⟨runs, given, jobs, gone, -⟩ := @transport_gives owner "Stop"
  refine ⟨runs, given, jobs, gone, fun working => ?_⟩
  have stops : given = [] ∨ ∃ sessionId, given = [.transport sessionId "Stop"] := by
    unfold transport submit at jobs
    cases known : owner.session.sessionId with
    | none => simp_all
    | some sessionId => exact .inr ⟨sessionId, by simp_all⟩
  have bare : owner.stopStaleAdvance.held = [] := held_unqueued rfl
  rcases stops with rfl | ⟨_, rfl⟩ <;> exact bare.symm

theorem correctStaleDeviceAdvance_gives (owner : SessionOwner) (policy : ConsumePolicy)
    (advance : DeviceAdvance) (loaded : EmbySessionLoadedItem)
    (known : owner.session.sessionId.isSome = true) :
    Gives [] owner (owner.correctStaleDeviceAdvance policy advance loaded now) := by
  unfold correctStaleDeviceAdvance
  dsimp only
  set noted := if advance.completes = true then owner.recordLoadedEnd policy loaded true else owner with notes
  have same : noted.supply = owner.supply := by
    rw [notes]
    split <;> rfl
  have still : noted.session.sessionId = owner.session.sessionId := by
    rw [notes]
    split <;> rfl
  apply Gives.after_supply same
  split
  · exact stopStaleAdvance_gives noted
  · rename_i unknown
    rw [← still, unknown] at known
    cases known
  · rename_i slot itemId sessionId _ _
    have observed : (noted.observeSlot slot).supply = noted.supply := rfl
    apply Gives.after_supply observed
    split
    · rename_i untaken
      have stopped := submitPlay_gone untaken
      refine ⟨rfl, [], (append_nil _).symm, fun _ => rfl, fun working => ?_⟩
      rw [stopped] at working
      cases working
    · rename_i taken
      exact (submitPlay_gives [] taken).then_supply rfl

theorem applyDeviceAdvance_gives (owner : SessionOwner) (policy : ConsumePolicy)
    (advance : DeviceAdvance) {loaded : EmbySessionLoadedItem}
    (held : owner.session.loaded = some loaded) (known : owner.session.sessionId.isSome = true) :
    Gives [] owner (owner.applyDeviceAdvance policy advance now) := by
  unfold applyDeviceAdvance
  rw [held]
  dsimp only
  set noted := (if advance.completes = true then owner.noteNaturalEnd loaded else owner).record
    (.advanced loaded.load) with notes
  have same : noted.supply = owner.supply := by
    rw [notes]
    split <;> rfl
  have still : noted.session.sessionId = owner.session.sessionId := by
    rw [notes]
    split <;> rfl
  apply Gives.after_supply same
  split
  · exact correctStaleDeviceAdvance_gives noted policy advance loaded (still ▸ known)
  · set completed := if advance.completes = true then
      (noted.observeSlot advance.queued).recordLoadedEnd policy loaded true
      else noted.observeSlot advance.queued with completes
    have observed : completed.supply = noted.supply := by
      rw [completes]
      split <;> rfl
    have unqueued := @resetLoadedItem_unqueued now completed
    have reset : Gives [] completed (completed.resetLoadedItem now) := by
      refine ⟨?_, [], ?_, fun _ => rfl, fun _ => (held_unqueued unqueued).symm⟩
      · unfold resetLoadedItem
        split <;> rfl
      · unfold resetLoadedItem
        split <;> exact (append_nil _).symm
    have appended := (@appendNextSlot_steps _ now advance.queued unqueued).gives
    exact Gives.after_supply observed (reset.trans appended)

/-! ### One poll -/

theorem applyObservation_gives (owner : SessionOwner) (policy : ConsumePolicy)
    {observation : Observation} (still : observation.deviceAdvance = none) :
    Gives owner.held owner (owner.applyObservation policy observation now) := by
  obtain ⟨presented, ended, moved, continuation⟩ := observation
  obtain rfl : moved = none := still
  have checked := (@checkQueuedNext_steps now owner).gives
  have settled : Gives owner.held owner (owner.applyObservation policy { presented := presented } now) := by
    cases presented with
    | none => exact checked
    | some slot =>
      have settled := (@settleRemoteTransition_steps now owner.checkQueuedNext slot).gives
      exact (checked.trans settled).trans (@applyPendingPause_steps now _).gives
  have ends : Gives owner.held owner
      (owner.applyObservation policy { presented := presented, endedNaturally := ended } now) := by
    cases ended with
    | none => exact settled
    | some endedAt => exact settled.trans (advanceFromNaturalEnd_gives _ policy endedAt)
  cases continuation with
  | none => exact ends
  | some start => exact ends.trans (continuationStarted_gives _ policy start)

theorem handleSessions_gives (owner : SessionOwner) (settings : SessionSettings) {pollId : Nat}
    {sessions : List SessionInfo} (accepted : owner.session.pollSent.map (·.1) = some pollId) :
    Gives (if ((sessions.find? fun session => session.deviceId == owner.session.deviceId).bind
          fun info => owner.session.deviceAdvance info now).isSome then owner.held.tail
        else owner.held)
      owner (owner.handleSessions settings pollId (.ok sessions) now) := by
  cases listed : sessions.find? fun session => session.deviceId == owner.session.deviceId with
  | none =>
    obtain ⟨misses, connection, observed⟩ :=
      @EmbySessionOutput.observe_absent (polled owner.session) now sessions owner.lookups listed
    rw [handleSessions_ok accepted observed]
    have applied := @applyObservation_gives now { owner with
      session := { polled owner.session with misses := misses, connection := connection } }
      settings.consume {} rfl
    have read : Gives owner.held owner { owner with
        session := { polled owner.session with misses := misses, connection := connection } } :=
      .of_supply rfl
    exact (read.trans applied).trans (expireUnseenLoad_gives _)
  | some info =>
    rw [Option.bind_some]
    cases moved : owner.session.deviceAdvance info now with
    | none =>
      obtain ⟨observation, loaded, watch, observed, advance, -⟩ :=
        @EmbySessionOutput.observe_spec (polled owner.session) info now sessions owner.lookups listed
      rw [handleSessions_ok accepted observed]
      have applied := @applyObservation_gives now (observing owner info loaded watch now)
        settings.consume observation (advance.trans moved)
      have read : Gives owner.held owner (observing owner info loaded watch now) := .of_supply rfl
      exact (read.trans applied).trans (expireUnseenLoad_gives _)
    | some move =>
      obtain ⟨old, queued, loaded, holds, -⟩ := EmbySessionOutput.deviceAdvance_some moved
      obtain ⟨item, watch, -, follows⟩ :=
        @handleSessions_moved owner now settings pollId sessions info move old accepted listed loaded moved
      have last : owner.held.tail = [] := by simp [held, SessionOwner.queued, holds]
      rw [follows, Option.isSome_some, if_pos rfl, last, @checkQueuedNext_queued
        (observing owner info (some item) watch now) item queued rfl holds]
      set marked := (observing owner info (some item) watch now).setQueuedNextStale _
      have same : marked.supply = owner.supply := supply_setQueuedNextStale _ _
      have applied := @applyDeviceAdvance_gives now marked settings.consume move item rfl rfl
      exact (Gives.after_supply same applied).trans (expireUnseenLoad_gives _)

end Giving

/-! ### Runs, and what the device is given -/

namespace SessionRun

/-- The device's own move off the loaded item, when the input is a poll that shows it. -/
def moved (run : SessionRun) (input : Ticks × SessionEvent) : Option DeviceAdvance :=
  (run.shown input).bind fun info => run.owner.session.deviceAdvance info (run.now input)

/-- The jobs that still wait while the input is handled. -/
def waiting (run : SessionRun) (input : Ticks × SessionEvent) : List SessionJob :=
  match input.2 with
  | .answered _ job _ => run.owner.jobs.erase job
  | _ => run.owner.jobs

def behind (run : SessionRun) (input : Ticks × SessionEvent) (given : List String) : List String :=
  if (run.moved input).isSome then given.tail else given

theorem behind_still {run : SessionRun} {input : Ticks × SessionEvent}
    (still : run.shown input = none) (given : List String) : run.behind input given = given := by
  unfold behind moved
  rw [still]
  rfl

theorem answered_gives (run : SessionRun) (elapsed : Ticks) (settings : SessionSettings)
    (job : SessionJob) (answer : SessionAnswer) :
    Gives (run.behind (elapsed, .answered settings job answer) run.owner.held)
      { run.owner with jobs := run.owner.jobs.erase job }
      (run.owner.answered settings job answer (run.clock + elapsed)) := by
  set read : SessionOwner := { run.owner with jobs := run.owner.jobs.erase job } with reads
  have quiet : Gives run.owner.held read read := .refl read
  unfold answered
  split
  · rename_i pending
    dsimp only
    rw [← reads]
    split
    · rename_i pollId sessions
      by_cases accepted : run.owner.session.pollSent.map (·.1) = some pollId
      · have shown : run.shown (elapsed, .answered settings (.poll pollId) (.sessions sessions)) =
            sessions.find? fun session => session.deviceId == run.owner.session.deviceId :=
          if_pos ⟨pending, accepted⟩
        unfold behind moved
        rw [shown]
        exact handleSessions_gives read settings accepted
      · have shown : run.shown (elapsed, .answered settings (.poll pollId) (.sessions sessions)) =
            none := if_neg fun both => accepted both.2
        rw [behind_still shown, @handleSessions_ignored read (run.clock + elapsed) settings pollId (.ok sessions) accepted]
        exact quiet
    · rename_i pollId error
      rw [behind_still rfl]
      unfold handleSessions
      split
      · have polled : Gives run.owner.held read { read with
            session := { read.session with pollSent := none } } := quiet.then_supply rfl
        exact polled.trans (expireUnseenLoad_gives _)
      · exact quiet
    · rw [behind_still rfl]
      exact handleLookup_gives read settings _ _ _
    · rw [behind_still rfl]
      exact handleLookup_gives read settings _ _ _
    · rw [behind_still rfl]
      exact handlePlayFailed_gives read _
    · rename_i unlisted _ _ _ _
      have shown : run.shown (elapsed, .answered settings job answer) = none := by
        unfold shown
        split
        · rename_i same
          cases same
          exact (unlisted _ _ rfl rfl).elim
        · rfl
      rw [behind_still shown]
      exact quiet
  · rename_i unknown
    have shown : run.shown (elapsed, .answered settings job answer) = none := by
      unfold shown
      split
      · rename_i same
        cases same
        exact if_neg fun both => unknown both.1
      · rfl
    rw [behind_still shown, reads, erase_of_not_mem unknown]
    exact .of_supply rfl

theorem step_gives (run : SessionRun) (input : Ticks × SessionEvent) (works : input.2 ≠ .workerStops) :
    Gives (run.behind input run.owner.held) { run.owner with jobs := run.waiting input } (machine.step run input).owner := by
  obtain ⟨elapsed, event⟩ := input
  cases event with
  | answered settings job answer => exact answered_gives run elapsed settings job answer
  | tick => exact tick_gives run.owner
  | play transition startTicks => exact (dispatchAccepted_steps ..).gives
  | jump transition => exact (dispatchSlotJump_steps ..).gives
  | step request direction => exact (dispatchRelativeStep_steps ..).gives
  | expire deadline => exact (expireAndRedispatch_steps ..).gives
  | pause paused => exact (@setPaused_steps elapsed run.owner paused).gives
  | stop => exact stop_gives run.owner
  | edited core => exact .of_supply rfl
  | workerStops => exact absurd rfl works

end SessionRun

structure SuppliedRun where
  run : SessionRun
  given : List String

namespace SuppliedRun

def machine : Machine SuppliedRun (Ticks × SessionEvent) where
  step supplied input :=
    let after := SessionRun.machine.step supplied.run input
    let jobs := after.owner.jobs.drop (supplied.run.waiting input).length
    { run := after, given := jobs.foldl SessionJob.give (supplied.run.behind input supplied.given) }

def start (core : PlayerOwnerState) (deviceId : String) (session : SessionInfo)
    (pendingPause : Bool) (now : Ticks) : SuppliedRun where
  run := SessionRun.start core deviceId session pendingPause now
  given := []

structure Bounded (supplied : SuppliedRun) : Prop where
  records : supplied.run.owner.session.workerRuns = true →
    supplied.given = supplied.run.owner.held
  length : supplied.given.length ≤ 1

theorem step_bounded (supplied : SuppliedRun) (input : Ticks × SessionEvent)
    (bounded : supplied.Bounded) : (machine.step supplied input).Bounded := by
  have fewer : (supplied.run.behind input supplied.given).length ≤ 1 := by
    have length := bounded.length
    unfold SessionRun.behind
    split
    · rw [length_tail]
      omega
    · exact length
  by_cases stops : input.2 = .workerStops
  · obtain ⟨elapsed, event⟩ := input
    cases stops
    have same : (machine.step supplied (elapsed, .workerStops)).given = supplied.given := by
      show (supplied.run.owner.jobs.drop supplied.run.owner.jobs.length).foldl SessionJob.give
        (supplied.run.behind (elapsed, .workerStops) supplied.given) = supplied.given
      rw [drop_length, foldl_nil, SessionRun.behind_still rfl]
    refine ⟨fun runs => ?_, same ▸ bounded.length⟩
    cases runs
  · obtain ⟨runs, jobs, added, gone, leaves⟩ := supplied.run.step_gives input stops
    have same : (machine.step supplied input).given = jobs.foldl SessionJob.give (supplied.run.behind input supplied.given) := by
      unfold machine
      dsimp only
      rw [added, drop_left]
    cases working : supplied.run.owner.session.workerRuns with
    | true =>
      have held : (machine.step supplied input).given = (machine.step supplied input).run.owner.held := by
        rw [same, bounded.records working]
        exact leaves working
      exact ⟨fun _ => held, held ▸ held_length⟩
    | false =>
      refine ⟨fun working' => ?_, ?_⟩
      · have stopped := runs.symm.trans working'
        exact absurd (working.symm.trans stopped) Bool.false_ne_true
      · rw [same, gone working]
        exact fewer

theorem run_bounded (core : PlayerOwnerState) (deviceId : String) (session : SessionInfo)
    (pendingPause : Bool) (now : Ticks) (inputs : List (Ticks × SessionEvent)) :
    (machine.run (start core deviceId session pendingPause now) inputs).Bounded :=
  Machine.run_holds step_bounded inputs ⟨fun _ => rfl, Nat.zero_le 1⟩

theorem run_run (supplied : SuppliedRun) (inputs : List (Ticks × SessionEvent)) :
    (machine.run supplied inputs).run = SessionRun.machine.run supplied.run inputs := by
  induction inputs generalizing supplied with
  | nil => rfl
  | cons input inputs ih => exact ih _

end SuppliedRun

end Mbv.Output
