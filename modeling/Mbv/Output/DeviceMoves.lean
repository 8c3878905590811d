import Mbv.Output.DeviceWindow

namespace Mbv.Output

open Mbv.Queue Mbv.Player Mbv.Daemon SessionOwner

namespace SessionOwner

variable (owner : SessionOwner)

def tracked : Option QueueSlotId := owner.session.loaded.map (·.slot)

/-- The device went to the item it has queued, and playback is on the queue's next slot: the one
    queued, or the one that the last job puts on the device instead. With no next slot it is on
    none. -/
def Lands (queued : QueueSlotId) : Option (QueueSlotId × String) → Prop
  | some next => owner.tracked = some next.1 ∧
      (next.1 = queued ∨ owner.jobs.getLast?.bind SessionJob.puts = some next)
  | none => owner.tracked = none

instance Lands.decidable (queued : QueueSlotId) :
    ∀ next, Decidable (owner.Lands queued next)
  | some next => inferInstanceAs (Decidable (owner.tracked = some next.1 ∧
      (next.1 = queued ∨ owner.jobs.getLast?.bind SessionJob.puts = some next)))
  | none => inferInstanceAs (Decidable (owner.tracked = none))

variable {owner} {now : Ticks}

theorem expireUnseenLoad_fresh (fresh : ∀ item ∈ owner.session.loaded,
    item.seenPlaying = true ∨ item.loadedAt = now) : owner.expireUnseenLoad now = owner := by
  unfold expireUnseenLoad
  apply if_neg
  intro times
  rw [Option.any_eq_true] at times
  obtain ⟨item, held, overdue⟩ := times
  simp only [Bool.and_eq_true, Bool.not_eq_true', decide_eq_true_eq] at overdue
  obtain ⟨⟨⟨unseen, -⟩, -⟩, late⟩ := overdue
  rcases fresh item held with seen | rfl
  · rw [unseen] at seen
    cases seen
  · rw [Nat.sub_self] at late
    exact absurd late (by decide)

theorem submitPlay_lands {after : SessionOwner} {load : SessionLoad} (taken : owner.submitPlay load now = some after) :
    after.session.loaded.map (fun item => (item.slot, item.loadedAt)) = some (load.slot, now) ∧
      after.jobs.getLast?.bind SessionJob.puts = some (load.slot, load.itemId) := by
  unfold submitPlay at taken
  split at taken
  · rename_i runs
    cases taken
    exact ⟨rfl, by simp [install, submit, runs, SessionJob.puts]⟩
  · cases taken

theorem correctStaleDeviceAdvance_lands (owner : SessionOwner) (policy : ConsumePolicy)
    (advance : DeviceAdvance) (loaded : EmbySessionLoadedItem)
    (runs : owner.session.workerRuns = true) (known : owner.session.sessionId.isSome = true) :
    (owner.correctStaleDeviceAdvance policy advance loaded now).Lands advance.queued (owner.window loaded.slot).1 ∧
      ∀ item ∈ (owner.correctStaleDeviceAdvance policy advance loaded now).session.loaded, item.loadedAt = now := by
  obtain ⟨sessionId, named⟩ := Option.isSome_iff_exists.mp known
  unfold correctStaleDeviceAdvance
  dsimp only
  set noted := if advance.completes = true then owner.recordLoadedEnd policy loaded true else owner with notes
  have still : noted.session.sessionId = some sessionId := by
    rw [notes]
    split <;> exact named
  have working : noted.session.workerRuns = true := by
    rw [notes]
    split <;> exact runs
  cases (owner.window loaded.slot).1 with
  | none => exact ⟨rfl, fun item held => by cases held⟩
  | some next =>
    rw [still]
    dsimp only
    split
    · rename_i untaken
      have gone := submitPlay_gone untaken
      exact absurd (working.symm.trans gone) (by decide)
    · rename_i after taken
      obtain ⟨loads, puts⟩ := submitPlay_lands taken
      obtain ⟨item, held, same⟩ := Option.map_eq_some_iff.mp loads
      obtain ⟨slot, time⟩ := Prod.mk.inj same
      refine ⟨⟨?_, .inr puts⟩, fun other tracked => ?_⟩
      · show after.session.loaded.map (·.slot) = some next.1
        rw [held, Option.map_some, slot]
      · rw [show other = item from Option.some.inj (tracked.symm.trans held), time]

theorem appendNextSlot_loaded (owner : SessionOwner) (active : QueueSlotId) :
    (owner.appendNextSlot active).session.loaded = owner.session.loaded := by
  unfold appendNextSlot
  split
  · rfl
  · split
    · rename_i taken
      exact congrArg Ledger.loaded (submitPlayLast_ledger taken)
    · rfl

theorem resetLoadedItem_loaded {queued : EmbySessionQueuedItem} (holds : owner.session.queuedNext = some queued) :
    (owner.resetLoadedItem now).session.loaded.map (fun item => (item.slot, item.seenPlaying)) = some (queued.slot, true) := by
  unfold resetLoadedItem
  rw [holds]
  rfl

theorem applyDeviceAdvance_lands (owner : SessionOwner) (policy : ConsumePolicy)
    {advance : DeviceAdvance} {loaded : EmbySessionLoadedItem} {queued : EmbySessionQueuedItem}
    (held : owner.session.loaded = some loaded) (holds : owner.session.queuedNext = some queued)
    (names : advance.queued = queued.slot) (runs : owner.session.workerRuns = true)
    (known : owner.session.sessionId.isSome = true) :
    ((owner.applyDeviceAdvance policy advance now).Lands advance.queued (owner.window loaded.slot).1 ↔
      advance.stale = true ∨ (owner.window loaded.slot).1.map (·.1) = some advance.queued) ∧
    ∀ item ∈ (owner.applyDeviceAdvance policy advance now).session.loaded, item.seenPlaying = true ∨ item.loadedAt = now := by
  unfold applyDeviceAdvance
  rw [held]
  dsimp only
  set noted := (if advance.completes = true then owner.noteNaturalEnd loaded else owner).record
    (.advanced loaded.load) with notes
  have session : noted.session = owner.session := by
    rw [notes]
    split <;> rfl
  have window : noted.window loaded.slot = owner.window loaded.slot := by
    rw [notes]
    split <;> rfl
  rw [← window]
  cases stale : advance.stale with
  | true =>
    rw [if_pos rfl]
    obtain ⟨lands, fresh⟩ := @correctStaleDeviceAdvance_lands now noted policy advance loaded (session ▸ runs) (session ▸ known)
    exact ⟨iff_of_true lands (.inl rfl), fun item tracked => .inr (fresh item tracked)⟩
  | false =>
    rw [if_neg Bool.false_ne_true]
    set completed := if advance.completes = true then
      (noted.observeSlot advance.queued).recordLoadedEnd policy loaded true
      else noted.observeSlot advance.queued with completes
    have queues : completed.session.queuedNext = some queued := by
      rw [completes]
      split <;> exact (congrArg EmbySessionOutput.queuedNext session).trans holds
    set after := (completed.resetLoadedItem now).appendNextSlot advance.queued
    have loads : after.session.loaded.map (fun item => (item.slot, item.seenPlaying)) = some (queued.slot, true) := by
      rw [appendNextSlot_loaded]
      exact resetLoadedItem_loaded queues
    obtain ⟨item, is, same⟩ := Option.map_eq_some_iff.mp loads
    obtain ⟨slot, seen⟩ := Prod.mk.inj same
    have onto : after.tracked = some advance.queued := by
      rw [names]
      unfold tracked
      rw [is, Option.map_some, slot]
    refine ⟨?_, fun other tracks => .inl ?_⟩
    · rw [or_iff_right Bool.false_ne_true]
      cases (noted.window loaded.slot).1 with
      | none =>
        refine iff_of_false (fun lands => ?_) (by simp)
        have nowhere : after.tracked = none := lands
        rw [nowhere] at onto
        cases onto
      | some next =>
        show after.tracked = some next.1 ∧ _ ↔ _
        rw [onto, Option.map_some, Option.some_inj, Option.some_inj]
        exact ⟨fun lands => lands.1.symm, fun same => ⟨same.symm, .inl same⟩⟩
    · rw [show other = item from Option.some.inj (tracks.symm.trans is), seen]

end SessionOwner

namespace SessionRun

/-- Where the device moves on by itself, playback is then on the queue's next slot. -/
def MovesLand (run : SessionRun) (input : Ticks × SessionEvent) : Prop :=
  run.owner.session.workerRuns = true →
    ∀ loaded ∈ run.owner.session.loaded, ∀ move ∈ run.moved input,
      (machine.step run input).owner.Lands move.queued (run.owner.window loaded.slot).1

def MovesMarked (run : SessionRun) (input : Ticks × SessionEvent) : Prop :=
  run.owner.session.workerRuns = true →
    ∀ loaded ∈ run.owner.session.loaded, ∀ move ∈ run.moved input, move.stale = true ∨
      (run.owner.window loaded.slot).1.map (·.1) = some move.queued

instance MovesLand.decidable (run : SessionRun) (input : Ticks × SessionEvent) :
    Decidable (MovesLand run input) :=
  inferInstanceAs (Decidable (run.owner.session.workerRuns = true →
    ∀ loaded ∈ run.owner.session.loaded, ∀ move ∈ run.moved input,
      (machine.step run input).owner.Lands move.queued (run.owner.window loaded.slot).1))

instance MovesMarked.decidable (run : SessionRun) (input : Ticks × SessionEvent) :
    Decidable (MovesMarked run input) :=
  inferInstanceAs (Decidable (run.owner.session.workerRuns = true →
    ∀ loaded ∈ run.owner.session.loaded, ∀ move ∈ run.moved input, move.stale = true ∨
      (run.owner.window loaded.slot).1.map (·.1) = some move.queued))

theorem moved_some {run : SessionRun} {input : Ticks × SessionEvent} {move : DeviceAdvance}
    (moves : run.moved input = some move) : ∃ settings pollId sessions info,
      input.2 = .answered settings (.poll pollId) (.sessions sessions) ∧
      .poll pollId ∈ run.owner.jobs ∧ run.owner.session.pollSent.map (·.1) = some pollId ∧
      (sessions.find? fun session => session.deviceId == run.owner.session.deviceId) = some info ∧
      run.owner.session.deviceAdvance info (run.now input) = some move := by
  obtain ⟨info, listed, advance⟩ := Option.bind_eq_some_iff.mp moves
  unfold shown at listed
  split at listed
  · rename_i settings pollId sessions event
    split at listed
    · rename_i accepted
      exact ⟨settings, pollId, sessions, info, event, accepted.1, accepted.2, listed, advance⟩
    · cases listed
  · cases listed

theorem movesLand_iff (run : SessionRun) (input : Ticks × SessionEvent) : MovesLand run input ↔ MovesMarked run input := by
  unfold MovesLand MovesMarked
  refine forall_congr' fun runs => forall_congr' fun loaded => forall_congr' fun held =>
    forall_congr' fun move => forall_congr' fun moves => ?_
  obtain ⟨settings, pollId, sessions, info, event, pending, accepted, listed, moved⟩ := moved_some moves
  obtain ⟨elapsed, _⟩ := input
  cases event
  obtain ⟨-, queued, -, holds, -⟩ := EmbySessionOutput.deviceAdvance_some moved
  set read : SessionOwner := { run.owner with jobs := run.owner.jobs.erase (.poll pollId) }
  obtain ⟨item, watch, flags, follows⟩ :=
    @handleSessions_moved read (run.clock + elapsed) settings pollId sessions info move loaded accepted listed held moved
  have stepped : (machine.step run (elapsed, .answered settings (.poll pollId) (.sessions sessions))).owner =
        read.handleSessions settings pollId (.ok sessions) (run.clock + elapsed) := if_pos pending
  rw [stepped, follows, @checkQueuedNext_queued (observing read info (some item) watch
    (run.clock + elapsed)) item queued rfl holds]
  set marked := (observing read info (some item) watch (run.clock + elapsed)).setQueuedNextStale _ with marks
  have queues : ∃ stale, marked.session.queuedNext = some { queued with stale := stale } := by
    have kept : run.owner.session.queuedNext = some queued := holds
    rw [marks]
    exact ⟨_, congrArg (Option.map _) kept⟩
  obtain ⟨stale, queues⟩ := queues
  have window : marked.window item.slot = run.owner.window loaded.slot := by
    rw [flags.slot]
    rfl
  obtain ⟨lands, fresh⟩ := @applyDeviceAdvance_lands (run.clock + elapsed) marked settings.consume
    move item _ rfl queues (EmbySessionOutput.deviceAdvance_queued moved holds).1 runs rfl
  rw [expireUnseenLoad_fresh fresh, ← window]
  exact lands

/-- The device is given one item behind the loaded one at most. It plays the queue's next slot after
    its own moves while what it has queued is marked whenever that is not the next one, and is left
    with the rest of the queue then. -/
theorem session_window_follows_queue (core : PlayerOwnerState) (deviceId : String)
    (session : SessionInfo) (pendingPause : Bool) (now : Ticks)
    (inputs : List (Ticks × SessionEvent)) :
    (let given := (SuppliedRun.machine.run
      (SuppliedRun.start core deviceId session pendingPause now) inputs).given
     let owner := (machine.run (start core deviceId session pendingPause now) inputs).owner
     given.length ≤ 1 ∧ (owner.session.workerRuns = true → given = owner.queued.map (·.2))) ∧
    (machine.Along MovesLand (start core deviceId session pendingPause now) inputs ↔
      machine.Along MovesMarked (start core deviceId session pendingPause now) inputs) ∧
    (let owner := (machine.run (start core deviceId session pendingPause now) inputs).owner
     owner.core.queue.slotIds.Nodup → owner.session.playsLoadedItem = true →
       owner.session.sessionId.isSome = true → ∀ loaded, owner.session.loaded = some loaded →
       ∀ exit, owner.leavesDevice loaded exit =
           (loaded.slot, loaded.itemId) :: owner.admissibleAfter loaded.slot ↔
         owner.QueuedMarked loaded) := by
  refine ⟨?_, ?_, fun distinct plays known loaded held exit => ?_⟩
  · have bounded := SuppliedRun.run_bounded core deviceId session pendingPause now inputs
    have same := SuppliedRun.run_run (SuppliedRun.start core deviceId session pendingPause now) inputs
    exact ⟨bounded.length, same ▸ bounded.records⟩
  · exact @Machine.along_iff _ _ machine (fun _ => True) _ _ (fun _ _ _ _ => trivial)
      (fun run input _ => movesLand_iff run input) _ _ trivial
  · exact leavesDevice_iff distinct held plays known exit

section BetweenPolls

def secondSlot : QueueSlotId := ⟨2, by decide⟩

def thirdSlot : QueueSlotId := ⟨3, by decide⟩

def trilogy : SessionRun :=
  start (episodes ["one", "two", "three"]) "television" (television none 0) false 0

def playing : List (Ticks × SessionEvent) :=
  [(0, .play ⟨0, 0, firstSlot, .jump⟩ 0)] ++ sighting 0 (some "one") 0

def removal : Ticks × SessionEvent :=
  let core := (machine.run trilogy playing).owner.core
  (0, .edited { core with queue := (core.queue.removeExistingSlot secondSlot).2 })

/-- The removal comes while a poll is out, and the poll shows the device on the removed slot. -/
def removedBetweenPolls : List (Ticks × SessionEvent) :=
  playing ++ [(embySessionPollInterval, .tick), removal,
    (0, .answered {} (.poll 1) (.sessions [television (some "two") 0]))]

/-- The removed slot is adopted, and an exit before that keeps the third episode from the device. -/
theorem removed_slot_adopted :
    ¬ machine.Along MovesLand trilogy removedBetweenPolls ∧
    (machine.run trilogy removedBetweenPolls).owner.tracked = some secondSlot ∧
    (let owner := (machine.run trilogy (removedBetweenPolls.take 5)).owner
     owner.session.playsLoadedItem = true ∧ owner.plan 0 = none ∧
       owner.admissibleAfter firstSlot = [(thirdSlot, "three")] ∧
       ∀ loaded ∈ owner.session.loaded, owner.leavesDevice loaded 0 ≠
         (loaded.slot, loaded.itemId) :: owner.admissibleAfter loaded.slot) := by
  decide

/-- A tick after the removal marks the second slot, and the device is corrected to the third. -/
def removedBeforeTick : List (Ticks × SessionEvent) :=
  playing ++ [removal] ++ sighting 1 (some "one") 0 ++ sighting 2 (some "two") 0

theorem removed_slot_corrected :
    machine.Along MovesLand trilogy removedBeforeTick ∧
    (let owner := (machine.run trilogy (removedBeforeTick.take 6)).owner
     ∀ loaded ∈ owner.session.loaded, owner.leavesDevice loaded 0 =
       (loaded.slot, loaded.itemId) :: owner.admissibleAfter loaded.slot) := by
  have follows := session_window_follows_queue (episodes ["one", "two", "three"]) "television"
    (television none 0) false 0
  refine ⟨(follows removedBeforeTick).2.1.mpr (by decide), fun loaded held => ?_⟩
  have marked : ∀ loaded ∈ (machine.run trilogy (removedBeforeTick.take 6)).owner.session.loaded,
      (machine.run trilogy (removedBeforeTick.take 6)).owner.QueuedMarked loaded := by decide
  exact ((follows (removedBeforeTick.take 6)).2.2 (by decide) (by decide) (by decide) loaded held
    0).mpr (marked loaded held)

end BetweenPolls

end SessionRun

end Mbv.Output
