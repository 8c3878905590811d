import Mbv.Machine.Tenancy
import Mbv.Output.CastOwner

/-! A receiver's loaded items are the tenants of the output, and an episode's session is the key its
    reporting has to return. -/

namespace Mbv.Output

open Mbv.Queue Mbv.Player Mbv.Daemon Tenancy List

def CastRecord.noted : CastRecord → Option Entry
  | .opened session => some (.issued session)
  | .closed session => some (.returned session)
  | .started load => some (.announced load)
  | .stopped load => some (.dismissed load)
  | .ended load _ => some (.settled load)
  | .progressed _ | .uncastable _ _ => none

def CastRecord.EndsLoad (load : Nat) : CastRecord → Bool
  | .ended other _ => other = load
  | _ => false

def CastLoadedItem.tenant (loaded : CastLoadedItem) : Tenant where
  number := loaded.load
  voice := loaded.reporting.map (·.session?)
  announced := loaded.startReported
  settled := loaded.endHandled

def CastResolve.Castable (resolve : CastResolve) (answers : CastAnswers) : Prop :=
  match resolve.item, resolve.credential, answers.session with
  | .audiobookshelf (.episode _), some _, .opened session => session.method = .direct
  | _, _, _ => True

namespace CastOwner

variable (owner : CastOwner)

def books (hand : List Nat) : House where
  tenant := owner.loaded.map (·.tenant)
  tenants := owner.loads
  keys := owner.opened
  transit := hand ++ owner.outcomes.filterMap (·.session?)
  log := owner.records.filterMap (·.noted)

/-- The sessions the loaded item's reporting or an outcome still to be handled has to close. -/
def carried : List Nat :=
  ((owner.loaded.bind (·.reporting)).bind (·.session?)).toList ++
    owner.outcomes.filterMap (·.session?)

/-- What a receiver's reports are bracketed by: a load's start and stop are reported once at most,
    the stop after the start and before any later load's start, and one end of it is acted on. Each
    session opened is closed once, when nothing carries it any more. -/
structure Reported : Prop where
  startedOnce : ∀ load, owner.records.count (.started load) ≤ 1
  stoppedOnce : ∀ load, owner.records.count (.stopped load) ≤ 1
  within : ∀ before load after, owner.records = before ++ .stopped load :: after →
    .started load ∈ before ∧ ∀ later, load < later → .started later ∉ before
  endedOnce : ∀ load, (owner.records.filter (·.EndsLoad load)).length ≤ 1
  closed : ∀ session, owner.records.count (.closed session) =
    if session < owner.opened ∧ session ∉ owner.carried then 1 else 0

def Reportable (slotId : QueueSlotId) : Prop :=
  owner.credential.isSome ∧
    ∃ episode, (owner.core.queue.slot slotId).map (·.item) =
      some (.audiobookshelf (.episode episode))

def Awaits : ResolvePurpose → Prop
  | .step slotId generation =>
    (∃ pending ∈ owner.pendingCastResolve, pending.transition.target = slotId ∧
      pending.transition.generation = generation ∧
      owner.core.transitions.inFlight = some pending.transition) ∧ owner.Reportable slotId
  | .handoff slotId =>
    (∃ pending ∈ owner.cast.bind (·.pendingHandoffLoad), pending.slot = slotId) ∧
      owner.Reportable slotId

/-- A session that is opened, or that arrives, finds an item to close it. -/
def Takes : CastInput → Prop
  | .finishes index answers => ∀ resolve ∈ owner.resolving[index]?, resolve.Castable answers
  | .outcome => ∀ outcome ∈ owner.outcomes.head?, outcome.session?.isSome →
      owner.Awaits outcome.purpose
  | _ => True

variable {owner : CastOwner} {hand : List Nat}

/-! ### What leaves the books alone -/

structure Quiet (before after : CastOwner) : Prop where
  loaded : after.loaded = before.loaded
  loads : after.loads = before.loads
  opened : after.opened = before.opened
  outcomes : after.outcomes = before.outcomes
  log : after.records.filterMap (·.noted) = before.records.filterMap (·.noted)

theorem Quiet.refl (owner : CastOwner) : Quiet owner owner := ⟨rfl, rfl, rfl, rfl, rfl⟩

theorem Quiet.trans {first second third : CastOwner} (left : Quiet first second)
    (right : Quiet second third) : Quiet first third :=
  ⟨right.loaded.trans left.loaded, right.loads.trans left.loads, right.opened.trans left.opened,
    right.outcomes.trans left.outcomes, right.log.trans left.log⟩

theorem Quiet.books {before after : CastOwner} (quiet : Quiet before after) (hand : List Nat) :
    after.books hand = before.books hand := by
  unfold CastOwner.books
  rw [quiet.loaded, quiet.loads, quiet.opened, quiet.outcomes, quiet.log]

theorem quiet_onCast {change : CastOutput → CastOutput}
    (keeps : ∀ cast, (change cast).loaded = cast.loaded) : Quiet owner (owner.onCast change) := by
  refine ⟨?_, rfl, rfl, rfl, rfl⟩
  unfold loaded onCast
  cases owner.cast with
  | none => rfl
  | some cast => exact keeps cast

theorem quiet_setAdvance (advance : Option OutputAdvance) : Quiet owner (owner.setAdvance advance) := quiet_onCast fun _ => rfl

theorem quiet_refresh : Quiet owner owner.refreshPresentation := by
  unfold refreshPresentation
  split
  · exact .refl owner
  · exact ⟨rfl, rfl, rfl, rfl, rfl⟩

theorem quiet_dispatchCastLoad (transition : Transition) (startTicks : Int) :
    Quiet owner (owner.dispatchCastLoad transition startTicks) := by
  unfold dispatchCastLoad
  split
  · exact .refl owner
  · exact ⟨rfl, rfl, rfl, rfl, rfl⟩

theorem quiet_setTransitions (transitions : OwnerTransitionState) :
    Quiet owner (owner.setTransitions transitions) := ⟨rfl, rfl, rfl, rfl, rfl⟩

theorem quiet_sendJump (transition : Transition) : Quiet owner (owner.sendJump transition) := by
  unfold sendJump
  split
  · exact quiet_dispatchCastLoad _ _
  · exact .refl owner

theorem quiet_sendPromoted (promoted : Option Transition) : Quiet owner (owner.sendPromoted promoted) := by
  cases promoted with
  | none => exact .refl owner
  | some next => exact quiet_sendJump next

theorem quiet_dispatchSlotJump (transition : Transition) : Quiet owner (owner.dispatchSlotJump transition) := by
  unfold dispatchSlotJump
  split
  · exact (quiet_setTransitions _).trans (quiet_sendJump _)
  · exact quiet_setTransitions _

theorem quiet_dispatchAccepted (transition : Transition) (startTicks : Int) :
    Quiet owner (owner.dispatchAccepted transition startTicks) := by
  unfold dispatchAccepted
  split
  · dsimp only
    split
    · exact (quiet_setTransitions _).trans (quiet_dispatchCastLoad _ _)
    · exact quiet_setTransitions _
  · exact quiet_setTransitions _

theorem quiet_expireRemoteTransition : Quiet owner owner.expireRemoteTransition.2 := by
  unfold expireRemoteTransition
  split
  · exact (quiet_setTransitions _).trans (quiet_sendPromoted _)
  · exact quiet_setTransitions _

theorem quiet_observeSlot (slotId : QueueSlotId) : Quiet owner (owner.observeSlot slotId) := ⟨rfl, rfl, rfl, rfl, rfl⟩

theorem quiet_settleRemoteTransition (loadedSlot : QueueSlotId) : Quiet owner (owner.settleRemoteTransition loadedSlot) := by
  unfold settleRemoteTransition
  split
  · exact .refl owner
  · dsimp only
    apply (quiet_observeSlot loadedSlot).trans
    split
    · exact (quiet_setTransitions _).trans (quiet_sendPromoted _)
    · exact quiet_setTransitions _

theorem quiet_expireAndRedispatch (now : Instant) : Quiet owner (owner.expireAndRedispatch now) := by
  unfold expireAndRedispatch
  split
  · exact (quiet_setTransitions _).trans (quiet_sendPromoted _)
  · exact quiet_setTransitions _

theorem quiet_dispatchStepTarget (slotId : QueueSlotId) (direction : Direction) :
    Quiet owner (owner.dispatchStepTarget slotId direction).2 :=
  (quiet_setTransitions _).trans (quiet_dispatchSlotJump _)

theorem quiet_dispatchRelativeStep (direction : Direction) : Quiet owner (owner.dispatchRelativeStep direction) := by
  unfold dispatchRelativeStep
  split
  · exact quiet_dispatchStepTarget _ _
  · exact .refl owner
  · exact .refl owner

theorem quiet_stepTargetAdvance (target : StepTarget) : Quiet owner (owner.stepTargetAdvance target) := by
  cases target with
  | coalesced | atEdge => exact quiet_setAdvance none
  | jump slotId =>
    apply (quiet_dispatchStepTarget slotId .next).trans
    unfold stepTargetAdvance
    dsimp only
    split
    · exact .refl _
    · exact quiet_setAdvance _

theorem quiet_rebaseOnFailedStep : Quiet owner owner.rebaseOnFailedStep := by
  unfold rebaseOnFailedStep
  split
  · exact .refl owner
  · split
    · exact quiet_setAdvance none
    · exact quiet_observeSlot _

theorem quiet_stepAdvance : Quiet owner owner.stepAdvance := by
  unfold stepAdvance
  dsimp only
  apply quiet_rebaseOnFailedStep.trans
  split
  · exact quiet_setAdvance none
  · exact quiet_stepTargetAdvance _

theorem quiet_beginAdvance (policy : ConsumePolicy) : Quiet owner (owner.beginAdvance policy) := by
  unfold beginAdvance
  split
  · exact .refl owner
  · have recorded : ∀ slotId consume, Quiet owner ((owner.observeSlot slotId).recordNaturalEnd policy slotId consume) :=
      fun _ _ => ⟨rfl, rfl, rfl, rfl, rfl⟩
    exact (recorded _ _).trans ((quiet_setAdvance _).trans (quiet_stepTargetAdvance _))

theorem quiet_stepFailed (requestId : PlaybackRequestId) : Quiet owner (owner.stepFailed requestId).2 := by
  unfold stepFailed
  split
  · split
    · exact quiet_setAdvance _
    · exact .refl owner
  · exact .refl owner

theorem quiet_continueAfterFailedStep (slotId : QueueSlotId) : Quiet owner (owner.continueAfterFailedStep slotId) := by
  unfold continueAfterFailedStep
  split
  · exact .refl owner
  · exact (quiet_setAdvance _).trans quiet_stepAdvance

theorem quiet_uncastable (slotId : QueueSlotId) (refusal : Uncastable) :
    Quiet owner (owner.record [.uncastable slotId refusal]) := by
  refine ⟨rfl, rfl, rfl, rfl, ?_⟩
  simp [record, CastRecord.noted]

theorem quiet_resolveFailed (pending : PendingCastResolve) (refusal : Uncastable) :
    Quiet owner (owner.resolveFailed pending refusal) := by
  have told := @quiet_uncastable (owner.stepFailed pending.transition.requestId).2 pending.transition.target refusal
  have failed := (quiet_stepFailed _).trans (told.trans quiet_expireRemoteTransition)
  unfold resolveFailed
  dsimp only
  split
  · exact failed
  · split
    · exact failed.trans (quiet_setAdvance none)
    · exact failed.trans (quiet_continueAfterFailedStep _)

theorem quiet_disconnect : Quiet owner owner.disconnectAndReconnect := by
  apply quiet_onCast
  intro cast
  split <;> rfl

/-! ### What the books show -/

theorem books_setLoaded (held : owner.cast.isSome) (loaded : Option CastLoadedItem) :
    (owner.setLoaded loaded).loaded = loaded := by
  obtain ⟨cast, isCast⟩ := Option.isSome_iff_exists.mp held
  simp [CastOwner.loaded, setLoaded, onCast, isCast]

theorem cast_of_loaded {loaded : CastLoadedItem} (held : owner.loaded = some loaded) :
    owner.cast.isSome := by
  cases isCast : owner.cast with
  | none => simp [CastOwner.loaded, isCast] at held
  | some cast => rfl

theorem closing_entries (reporting : Option CastReporting) :
    ((reporting.bind (·.session?)).toList.map CastRecord.closed).filterMap (·.noted) =
      returning (reporting.map (·.session?)).join := by
  cases reporting with
  | none => rfl
  | some reporting => cases reporting <;> rfl

theorem tenant_of_loaded {loaded : CastLoadedItem} (held : owner.loaded = some loaded) :
    (owner.books hand).tenant = some loaded.tenant := by
  simp [books, held]

theorem moves_dropLoaded (hand : List Nat) : Moves (owner.books hand) (owner.dropLoaded.books hand) := by
  unfold dropLoaded
  split
  · exact .refl
  · rename_i loaded held
    have leaves := Move.leaves (@tenant_of_loaded owner hand loaded held)
    have same : ((owner.setLoaded none).closeReporting loaded.reporting).books hand = { owner.books hand with
          tenant := none
          log := (owner.books hand).log ++ returning loaded.tenant.key } := by
      have gone := books_setLoaded (cast_of_loaded held) none
      unfold books closeReporting record
      change House.mk ((owner.setLoaded none).loaded.map _) _ _ _ _ = _
      rw [gone, filterMap_append, closing_entries]
      rfl
    rw [same]
    exact .single leaves

theorem moves_stopLoadedReporting (hand : List Nat) : Moves (owner.books hand) (owner.stopLoadedReporting.books hand) := by
  unfold stopLoadedReporting
  split
  · exact .refl
  · rename_i loaded held
    split
    · rename_i reports
      obtain ⟨started, voiced⟩ := Bool.and_eq_true_iff.mp reports
      have dismisses := Move.dismisses (@tenant_of_loaded owner hand loaded held)
        (by simpa [CastLoadedItem.tenant] using voiced) started
      have same : (((owner.setLoaded (some { loaded with reporting := none })).record
          [.stopped loaded.load]).closeReporting loaded.reporting).books hand =
          { owner.books hand with
            tenant := some { loaded.tenant with voice := none }
            log := (owner.books hand).log ++
              .dismissed loaded.tenant.number :: returning loaded.tenant.key } := by
        have gone := books_setLoaded (cast_of_loaded held) (some { loaded with reporting := none })
        unfold books closeReporting record
        change House.mk ((owner.setLoaded _).loaded.map _) _ _ _ _ = _
        rw [gone, filterMap_append, filterMap_append, closing_entries, House.mk.injEq]
        exact ⟨rfl, rfl, rfl, rfl, append_assoc _ _ _⟩
      rw [same]
      exact .single dismisses
    · exact .refl

theorem dropLoaded_cast : owner.dropLoaded.cast.isSome = owner.cast.isSome := by
  unfold dropLoaded
  split
  · rfl
  · simp [closeReporting, record, setLoaded, onCast]

theorem dropLoaded_loaded : owner.dropLoaded.loaded = none := by
  unfold dropLoaded
  split
  · assumption
  · rename_i loaded held
    exact books_setLoaded (cast_of_loaded held) none

theorem built_session {slotId : QueueSlotId} {progress : CastProgressTarget}
    (enters : owner.Reportable slotId → hand = progress.session?.toList)
    (stays : ¬ owner.Reportable slotId → hand = []) :
    ((owner.buildProgressReporting slotId progress).map (·.session?)).join.toList = hand := by
  by_cases reportable : owner.Reportable slotId
  · rw [enters reportable]
    obtain ⟨set, episode, isEpisode⟩ := reportable
    obtain ⟨credential, isSet⟩ := Option.isSome_iff_exists.mp set
    obtain ⟨⟨slotId, item⟩, held, rfl⟩ := Option.map_eq_some_iff.mp isEpisode
    cases progress with
    | emby | feed => rfl
    | audiobookshelfEpisode =>
      simp [buildProgressReporting, isSet, held, CastReporting.session?, CastProgressTarget.session?]
  · rw [stays reportable]
    cases progress with
    | emby | feed => rfl
    | audiobookshelfEpisode =>
      unfold buildProgressReporting
      dsimp only
      split
      · rfl
      · rename_i set
        split
        · rename_i episode held
          refine absurd ⟨?_, episode, by rw [held]; rfl⟩ reportable
          simpa [Option.isSome_iff_ne_none] using set
        · rfl

theorem loadResolvedSource_eq (slotId : QueueSlotId) (source : CastSource) : owner.loadResolvedSource slotId source =
      let stopped := owner.stopLoadedReporting
      let reporting := stopped.buildProgressReporting slotId source.progress
      if stopped.cast.isSome then
        { stopped.dropLoaded.onCast fun cast =>
            { cast with
              loaded := some { load := stopped.dropLoaded.loads, slot := slotId
                               contentId := source.media.url
                               progress := source.progress, reporting := reporting }
              advance := none } with
          loads := stopped.dropLoaded.loads + 1 }
      else stopped.closeReporting reporting := rfl

/-- A load takes the session in hand into its reporting; without a receiver it is closed at once. -/
theorem moves_load {slotId : QueueSlotId} {source : CastSource} {rest : List Nat}
    (reporting : ((owner.stopLoadedReporting.buildProgressReporting slotId source.progress).map
      (·.session?)).join.toList ++ rest = hand) :
    Moves (owner.books hand) ((owner.loadResolvedSource slotId source).books rest) := by
  apply (moves_stopLoadedReporting hand).trans
  rw [loadResolvedSource_eq]
  generalize owner.stopLoadedReporting = stopped at reporting ⊢
  dsimp only
  generalize stopped.buildProgressReporting slotId source.progress = built at reporting ⊢
  split
  · rename_i onCast
    apply (moves_dropLoaded hand).trans
    have vacant := @dropLoaded_loaded stopped
    have casts : stopped.dropLoaded.cast.isSome := by rw [dropLoaded_cast]; exact onCast
    generalize stopped.dropLoaded = dropped at vacant casts ⊢
    obtain ⟨cast, isCast⟩ := Option.isSome_iff_exists.mp casts
    have enters := @Move.enters (dropped.books hand) (built.map (·.session?)) (by simp [books, vacant]) (by
        intro session member
        rw [← reporting, Option.mem_def.mp member]
        simp [books])
    convert Relation.ReflTransGen.single enters using 1
    rw [← reporting]
    unfold books
    rw [House.mk.injEq]
    refine ⟨?_, rfl, rfl, ?_, rfl⟩
    · simp [loaded, CastOwner.onCast, isCast, CastLoadedItem.tenant]
    · cases (built.map (·.session?)).join with
      | none => rfl
      | some session => simp [CastOwner.onCast]
  · rename_i elsewhere
    have log : (stopped.closeReporting built).records.filterMap (·.noted) =
        stopped.records.filterMap (·.noted) ++ returning (built.map (·.session?)).join := by
      unfold closeReporting record
      rw [filterMap_append, closing_entries]
    cases session : (built.map (·.session?)).join with
    | none =>
      have same : (stopped.closeReporting built).books rest = stopped.books hand := by
        rw [← reporting, session]
        unfold books
        rw [log, session]
        simp [returning, closeReporting, record]
        rfl
      rw [same]
    | some session' =>
      have returns := @Move.returns (stopped.books hand) session' (by
        rw [← reporting, session]
        simp [books])
      convert Relation.ReflTransGen.single returns using 1
      rw [← reporting, session]
      unfold books
      rw [log, session]
      simp [returning, closeReporting, record]
      rfl

/-! ### What an event does to the books -/

theorem stopLoadedReporting_core : owner.stopLoadedReporting.core = owner.core := by
  unfold stopLoadedReporting
  split
  · rfl
  · split <;> rfl

theorem stopLoadedReporting_credential : owner.stopLoadedReporting.credential = owner.credential := by
  unfold stopLoadedReporting
  split
  · rfl
  · split <;> rfl

theorem moves_loadResolvedSource {slotId : QueueSlotId} {source : CastSource}
    (enters : owner.Reportable slotId → hand = source.progress.session?.toList)
    (stays : ¬ owner.Reportable slotId → hand = []) :
    Moves (owner.books hand) ((owner.loadResolvedSource slotId source).books []) := by
  have same : owner.stopLoadedReporting.Reportable slotId ↔ owner.Reportable slotId := by
    unfold Reportable
    rw [stopLoadedReporting_core, stopLoadedReporting_credential]
  apply moves_load
  rw [append_nil]
  exact built_session (fun reportable => enters (same.mp reportable)) (fun unreportable => stays (mt same.mpr unreportable))

theorem moves_handleOutcome {outcome : CastOutcome} (enters : owner.Awaits outcome.purpose → hand = outcome.session?.toList)
    (stays : ¬ owner.Awaits outcome.purpose → hand = []) :
    Moves (owner.books hand) ((owner.handleOutcome outcome).books []) := by
  obtain ⟨purpose, result⟩ := outcome
  have refused : ∀ refusal, result = .error refusal → hand = [] := by
    rintro refusal rfl
    by_cases awaits : owner.Awaits purpose
    · exact enters awaits
    · exact stays awaits
  have quietly : ∀ {after : CastOwner}, Quiet owner after → hand = [] → Moves (owner.books hand) (after.books []) := by
    rintro after quiet rfl
    rw [quiet.books]
  unfold handleOutcome
  cases purpose with
  | step slotId generation =>
    dsimp only
    unfold handleCastResolved
    split
    · rename_i unmatched
      apply quietly (.refl owner) (stays _)
      rintro ⟨⟨pending, held, target, same, -⟩, -⟩
      rw [held] at unmatched
      simp [target, same] at unmatched
    · rename_i pending matched
      obtain ⟨held, named⟩ := Option.filter_eq_some_iff.mp matched
      obtain ⟨target, same⟩ := of_decide_eq_true named
      have cleared : Quiet owner { owner with pendingCastResolve := none } := ⟨rfl, rfl, rfl, rfl, rfl⟩
      dsimp only
      split
      · rename_i refusal
        exact quietly (cleared.trans (quiet_resolveFailed pending refusal)) (refused refusal rfl)
      · rename_i source
        split
        · rename_i flying
          have awaits : owner.Reportable slotId ↔ owner.Awaits (.step slotId generation) :=
            ⟨fun reportable => ⟨⟨pending, held, target, same, flying⟩, reportable⟩, fun awaits => awaits.2⟩
          rw [← cleared.books hand]
          exact moves_loadResolvedSource (fun reportable => enters (awaits.mp reportable))
            (fun unreportable => stays (mt awaits.mpr unreportable))
        · rename_i grounded
          apply quietly cleared (stays _)
          rintro ⟨⟨other, held', -, -, flying⟩, -⟩
          rw [held] at held'
          cases held'
          exact grounded flying
  | handoff slotId =>
    dsimp only
    unfold handleHandoffResolved
    split
    · rename_i unmatched
      apply quietly (.refl owner) (stays _)
      rintro ⟨⟨pending, held, target⟩, -⟩
      rw [held] at unmatched
      simp [target] at unmatched
    · rename_i pending matched
      obtain ⟨held, named⟩ := Option.filter_eq_some_iff.mp matched
      have target : pending.slot = slotId := of_decide_eq_true named
      have cleared : Quiet owner (owner.onCast fun cast => { cast with pendingHandoffLoad := none }) := quiet_onCast fun _ => rfl
      dsimp only
      split
      · rename_i source
        rw [← cleared.books hand]
        have awaits : (owner.onCast fun cast =>
            { cast with pendingHandoffLoad := none }).Reportable slotId ↔ owner.Awaits (.handoff slotId) :=
          ⟨fun reportable => ⟨⟨pending, held, target⟩, reportable⟩, fun awaits => awaits.2⟩
        exact moves_loadResolvedSource (fun reportable => enters (awaits.mp reportable))
          (fun unreportable => stays (mt awaits.mpr unreportable))
      · rename_i refusal
        exact quietly (cleared.trans (quiet_uncastable slotId refusal)) (refused refusal rfl)

theorem moves_quiet {after : CastOwner} (quiet : Quiet owner after) : Moves (owner.books []) (after.books []) := by
  rw [quiet.books]

theorem moves_reportPresentingStatus : Moves (owner.books []) (owner.reportPresentingStatus.books []) := by
  unfold reportPresentingStatus
  split
  · exact .refl
  · rename_i cast isCast
    split
    · rename_i loaded status isLoaded isStatus
      have held : owner.loaded = some loaded := by simp [CastOwner.loaded, isCast, isLoaded]
      have progressed : ∀ owner : CastOwner, Quiet owner (owner.record [.progressed loaded.load]) := by
        intro owner
        refine ⟨rfl, rfl, rfl, rfl, ?_⟩
        simp [record, CastRecord.noted]
      split
      · rename_i presents
        dsimp only
        rw [(progressed _).books]
        split
        · exact .refl
        · rename_i silent
          have announces := Move.announces (@tenant_of_loaded owner [] loaded held)
            (by simpa [CastLoadedItem.tenant] using (Bool.and_eq_true_iff.mp presents).2)
            (by simpa [CastLoadedItem.tenant] using silent)
          convert Relation.ReflTransGen.single announces using 1
          have told := books_setLoaded (cast_of_loaded held) (some { loaded with startReported := true })
          unfold books record
          change House.mk ((owner.setLoaded _).loaded.map _) _ _ _ _ = _
          rw [told, filterMap_append]
          rfl
      · exact .refl
    · exact .refl

theorem endReport_unhandled {loaded : CastLoadedItem} {status : CastStatus} {report : EndReport}
    (reports : endReport loaded status = some report) : loaded.endHandled = false := by
  unfold endReport at reports
  split at reports
  · cases reports
  · rename_i unhandled
    simpa using fun handled => unhandled (.inr (.inr handled))

theorem moves_applyEndReport (policy : ConsumePolicy) : Moves (owner.books []) ((owner.applyEndReport policy).books []) := by
  unfold applyEndReport
  split
  · exact .refl
  · rename_i cast isCast
    split
    · rename_i loaded status isLoaded isStatus
      have held : owner.loaded = some loaded := by simp [CastOwner.loaded, isCast, isLoaded]
      split
      · exact .refl
      · rename_i report reports
        have settles := Move.settles (@tenant_of_loaded owner [] loaded held) (endReport_unhandled reports)
        have told := books_setLoaded (cast_of_loaded held) (some { loaded with endHandled := true })
        have settled : ((owner.setLoaded (some { loaded with endHandled := true })).record
            [.ended loaded.load report]).books [] =
            { owner.books [] with
              tenant := some { loaded.tenant with settled := true }
              log := (owner.books []).log ++ [.settled loaded.tenant.number] } := by
          unfold books record
          change House.mk ((owner.setLoaded _).loaded.map _) _ _ _ _ = _
          rw [told, filterMap_append]
          rfl
        apply (Relation.ReflTransGen.single settles).trans
        rw [← settled]
        apply (moves_stopLoadedReporting []).trans
        cases report with
        | step => exact moves_quiet (quiet_beginAdvance policy)
        | reportError => exact .refl
    · exact .refl

theorem moves_handleCastStatus (policy : ConsumePolicy) (receiverId : String) (pollId : Nat)
    (result : Except String CastStatus) (now : Ticks) :
    Moves (owner.books []) ((owner.handleCastStatus policy receiverId pollId result now).books []) := by
  have stored : ∀ status, Quiet owner (owner.onCast fun cast =>
      { cast with lastStatus := some status, pollSent := none, lastPoll := some now }) :=
    fun _ => quiet_onCast fun _ => rfl
  have answered : Quiet owner (owner.onCast fun cast => { cast with pollSent := none }) := quiet_onCast fun _ => rfl
  unfold handleCastStatus
  split
  · split
    · rename_i status
      unfold applyStatus
      dsimp only
      apply (moves_quiet (stored status)).trans
      refine .trans (moves_quiet ?_) ((moves_applyEndReport policy).trans
        ((moves_quiet quiet_refresh).trans moves_reportPresentingStatus))
      split
      · exact quiet_settleRemoteTransition _
      · exact .refl _
    · exact moves_quiet (answered.trans quiet_disconnect)
  · exact .refl

theorem moves_handleLoadFailed (slotId : QueueSlotId) : Moves (owner.books []) ((owner.handleLoadFailed slotId).books []) := by
  unfold handleLoadFailed
  split
  · exact (moves_dropLoaded []).trans (moves_quiet (quiet_refresh.trans quiet_expireRemoteTransition))
  · exact .refl

theorem quiet_tickCast (now : Ticks) : Quiet owner (owner.tickCast now) := by
  have polled : Quiet owner (owner.onCast fun cast =>
      if cast.connection = .connected ∧ cast.pollSent.isNone ∧
          cast.lastPoll.all fun at_ => castStatusPollInterval ≤ now - at_ then
        { cast with nextPollId := cast.nextPollId + 1, pollSent := some (cast.nextPollId, now) }
      else cast) := by
    apply quiet_onCast
    intro cast
    split <;> rfl
  unfold tickCast
  dsimp only
  split
  · exact polled.trans quiet_disconnect
  · split
    · exact polled.trans quiet_refresh
    · exact polled

theorem quiet_stopped : Quiet owner.stopLoadedReporting.dropLoaded owner.stop := by
  have cleared : Quiet owner.stopLoadedReporting.dropLoaded (owner.stopLoadedReporting.dropLoaded.onCast fun cast =>
        { cast with lastStatus := none, advance := none, pendingHandoffLoad := none }) :=
    quiet_onCast fun _ => rfl
  exact cleared.trans (quiet_refresh.trans (quiet_setTransitions _))

theorem moves_stop : Moves (owner.books []) (owner.stop.books []) :=
  (moves_stopLoadedReporting []).trans ((moves_dropLoaded []).trans (moves_quiet quiet_stopped))

theorem stop_loaded : owner.stop.loaded = none := quiet_stopped.loaded.trans dropLoaded_loaded

theorem quiet_cast {cast : Option CastOutput} (none_ : owner.loaded = none)
    (empty : cast.bind (·.loaded) = none) : Quiet owner { owner with cast := cast } :=
  ⟨empty.trans none_.symm, rfl, rfl, rfl, rfl⟩

theorem moves_leaveReceiver : Moves (owner.books []) (owner.leaveReceiver.books []) :=
  moves_stop.trans (moves_quiet (quiet_cast stop_loaded rfl))

end CastOwner

end Mbv.Output
