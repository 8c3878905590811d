import Mathlib.Data.List.Induction
import Mbv.Machine.Run
import Mbv.Player.Lifecycle

namespace Mbv.Player

open Mbv.Queue List

inductive LifecycleOp where
  | playbackStarted
  | enterActiveFile
  | submissionAccepted
  | loadFailed (position : RunPosition)
  | close (identity : PlaybackGeneration)
  | armJump (jump : ForcedJump)
  | disarmJump
  | jumpSettledOnEndFile (targetIndex : Option Nat) (currentIdx queueLen : Nat)
  | jumpSettledOnRestart
  | takeResumeTicks

def LifecycleOp.apply (lifecycle : RunLifecycle) : LifecycleOp → RunLifecycle
  | playbackStarted => lifecycle.playbackStarted
  | enterActiveFile => lifecycle.enterActiveFile
  | submissionAccepted => lifecycle.submissionAccepted
  | loadFailed position => (lifecycle.loadFailed position).2
  | close identity => (lifecycle.close identity).2
  | armJump jump => lifecycle.armJump jump
  | disarmJump => lifecycle.disarmJump
  | jumpSettledOnEndFile targetIndex currentIdx queueLen =>
    (lifecycle.jumpSettledOnEndFile targetIndex currentIdx queueLen).2
  | jumpSettledOnRestart => lifecycle.jumpSettledOnRestart.2
  | takeResumeTicks => lifecycle.takeResumeTicks.2

def LifecycleOp.announces (lifecycle : RunLifecycle) : LifecycleOp → Option Transition
  | jumpSettledOnEndFile targetIndex currentIdx queueLen =>
    (lifecycle.jumpSettledOnEndFile targetIndex currentIdx queueLen).1.2
  | jumpSettledOnRestart => lifecycle.jumpSettledOnRestart.1.bind (·.2)
  | _ => none

def LifecycleOp.takes (lifecycle : RunLifecycle) : LifecycleOp → Option Int
  | takeResumeTicks => lifecycle.takeResumeTicks.1
  | _ => none

def LifecycleOp.arms : LifecycleOp → List ForcedJump
  | armJump jump => [jump]
  | _ => []

/-- A lifecycle beside every jump armed so far. What a settle announces and what a take returns is
    recorded against the jump armed last. -/
structure LifecycleHistory where
  lifecycle : RunLifecycle
  armed : List ForcedJump := []
  announced : List (Nat × Transition) := []
  taken : List (Nat × Int) := []

namespace LifecycleHistory

def latest (history : LifecycleHistory) : Nat := history.armed.length - 1

def record {α : Type} (log : List (Nat × α)) (ticket : Nat) (value : Option α) : List (Nat × α) :=
  log ++ value.toList.map fun value => (ticket, value)

def machine : Machine LifecycleHistory LifecycleOp where
  step history op :=
    { lifecycle := op.apply history.lifecycle
      armed := history.armed ++ op.arms
      announced := record history.announced history.latest (op.announces history.lifecycle)
      taken := record history.taken history.latest (op.takes history.lifecycle) }

def start (queue : ExecutionSequence) : LifecycleHistory := { lifecycle := .forQueue queue }

/-- Each ticket is recorded at most once, in order, with a value its jump carried. -/
structure Delivered {α : Type} (armed : List ForcedJump) (carries : ForcedJump → Option α)
    (log : List (Nat × α)) : Prop where
  once : (log.map (·.1)).Pairwise (· < ·)
  carried : ∀ entry ∈ log, armed[entry.1]?.bind carries = some entry.2

variable {α : Type} {armed : List ForcedJump} {carries : ForcedJump → Option α}
  {log : List (Nat × α)}

theorem Delivered.known (delivered : Delivered armed carries log) {ticket : Nat}
    (member : ticket ∈ log.map (·.1)) : ticket < armed.length := by
  obtain ⟨entry, recorded, rfl⟩ := mem_map.mp member
  obtain ⟨jump, there, -⟩ := Option.bind_eq_some_iff.mp (delivered.carried entry recorded)
  exact (List.getElem?_eq_some_iff.mp there).1

theorem Delivered.arm (delivered : Delivered armed carries log) (more : List ForcedJump) :
    Delivered (armed ++ more) carries log where
  once := delivered.once
  carried := fun entry recorded => by
    have inside := delivered.known (mem_map_of_mem recorded)
    rw [List.getElem?_append_left inside]
    exact delivered.carried entry recorded

theorem Delivered.record (delivered : Delivered armed carries log) {value : Option α}
    (fresh : value ≠ none → armed.length - 1 ∉ log.map (·.1))
    (carried : value ≠ none → armed[armed.length - 1]?.bind carries = value) :
    Delivered armed carries (record log (armed.length - 1) value) := by
  cases value with
  | none => simpa [LifecycleHistory.record] using delivered
  | some value =>
    have unseen := fresh (by simp)
    have source := carried (by simp)
    simp only [LifecycleHistory.record, Option.toList_some, map_cons, map_nil]
    constructor
    · rw [map_append, pairwise_append]
      refine ⟨delivered.once, by simp, fun ticket member new isNew => ?_⟩
      have inside := delivered.known member
      have other : ticket ≠ armed.length - 1 := fun same => unseen (same ▸ member)
      rw [map_cons, map_nil, mem_singleton] at isNew
      omega
    · intro entry member
      rcases mem_append.mp member with old | new
      · exact delivered.carried entry old
      · rw [mem_singleton.mp new]
        exact source

/-- The arm, if any, is the jump armed last; it still owes what it has not delivered. -/
structure Traced (history : LifecycleHistory) : Prop where
  announced : Delivered history.armed (·.transition) history.announced
  taken : Delivered history.armed (·.resumeTicks) history.taken
  pending : ∀ jump, history.lifecycle.jump = .pending jump →
    history.armed[history.latest]? = some jump ∧
      history.latest ∉ history.announced.map (·.1) ∧ history.latest ∉ history.taken.map (·.1)
  resumeOnly : ∀ slotId ticks, history.lifecycle.jump = .resumeOnly slotId ticks →
    (∃ jump, history.armed[history.latest]? = some jump ∧ jump.slotId = slotId ∧
      jump.resumeTicks = some ticks) ∧ history.latest ∉ history.taken.map (·.1)
  activeFile : history.lifecycle.isActiveFile = true → history.lifecycle.jump = .idle

variable {history : LifecycleHistory}

theorem Traced.start (queue : ExecutionSequence) : (start queue).Traced := by
  constructor
  case announced => exact ⟨List.Pairwise.nil, fun entry member => by cases member⟩
  case taken => exact ⟨List.Pairwise.nil, fun entry member => by cases member⟩
  case pending => exact fun jump armed => by cases armed
  case resumeOnly => exact fun slotId ticks armed => by cases armed
  case activeFile => exact fun _ => rfl

variable {lifecycle : RunLifecycle}

theorem Traced.quiet (traced : history.Traced) (arm : lifecycle.jump = .idle ∨ lifecycle.jump = history.lifecycle.jump ∧
        lifecycle.projection = history.lifecycle.projection) :
    Traced { history with lifecycle := lifecycle } := by
  rcases arm with idle | ⟨same, projection⟩
  · constructor
    case announced => exact traced.announced
    case taken => exact traced.taken
    case pending => exact fun jump armed => by simp [idle] at armed
    case resumeOnly => exact fun slotId ticks armed => by simp [idle] at armed
    case activeFile => exact fun _ => idle
  · constructor
    case announced => exact traced.announced
    case taken => exact traced.taken
    case pending => exact fun jump armed => traced.pending jump (same ▸ armed)
    case resumeOnly => exact fun slotId ticks armed => traced.resumeOnly slotId ticks (same ▸ armed)
    case activeFile =>
      intro active
      refine same.trans (traced.activeFile ?_)
      simpa [RunLifecycle.isActiveFile, projection] using active

theorem Traced.armJump (traced : history.Traced) (jump : ForcedJump) : Traced { history with
      lifecycle := history.lifecycle.armJump jump
      armed := history.armed ++ [jump] } := by
  have unseen {α : Type} {carries : ForcedJump → Option α} {log : List (Nat × α)}
      (delivered : Delivered history.armed carries log) :
      (history.armed ++ [jump]).length - 1 ∉ log.map (·.1) := by
    intro member
    have inside := delivered.known member
    rw [length_append, length_singleton] at inside
    omega
  constructor
  case announced => exact traced.announced.arm [jump]
  case taken => exact traced.taken.arm [jump]
  case pending =>
    intro armed arm
    simp only [RunLifecycle.armJump] at arm
    split at arm
    · cases arm
    · cases arm
      refine ⟨?_, unseen traced.announced, unseen traced.taken⟩
      simp [latest]
  case resumeOnly =>
    intro slotId ticks arm
    simp only [RunLifecycle.armJump] at arm
    split at arm <;> cases arm
  case activeFile =>
    intro active
    have before : history.lifecycle.isActiveFile = true := active
    simp [RunLifecycle.armJump, before]

theorem Traced.settle (traced : history.Traced) (lifecycle : RunLifecycle) (transition : Option Transition)
    (projection : lifecycle.projection = history.lifecycle.projection)
    (announced : transition = (RunLifecycle.settledArm history.lifecycle.jump).1)
    (arm : lifecycle.jump = .idle ∨ ∃ slotId ticks,
      (RunLifecycle.settledArm history.lifecycle.jump).2 = some (slotId, ticks) ∧ lifecycle.jump = .resumeOnly slotId ticks) :
    Traced { history with
      lifecycle := lifecycle
      announced := record history.announced history.latest transition } := by
  have active : lifecycle.isActiveFile = history.lifecycle.isActiveFile := by
    simp [RunLifecycle.isActiveFile, projection]
  cases before : history.lifecycle.jump with
  | idle =>
    rw [before] at announced arm
    have quiet := traced.quiet (Or.inl (arm.resolve_right fun ⟨_, _, owed, _⟩ => by cases owed))
    simpa [announced, RunLifecycle.settledArm, record] using quiet
  | pending jump =>
    rw [before] at announced arm
    obtain ⟨source, unseen, owed⟩ := traced.pending jump before
    constructor
    case announced =>
      refine traced.announced.record (fun _ => unseen) fun _ => ?_
      simp only [latest] at source
      simp [source, announced, RunLifecycle.settledArm]
    case taken => exact traced.taken
    case pending =>
      intro other armed
      rcases arm with idle | ⟨slotId, ticks, -, waits⟩
      · simp [idle] at armed
      · simp [waits] at armed
    case resumeOnly =>
      intro slotId ticks armed
      rcases arm with idle | ⟨slotId', ticks', resume, waits⟩
      · simp [idle] at armed
      · simp only [RunLifecycle.settledArm, Option.map_eq_some_iff, Prod.mk.injEq] at resume
        obtain ⟨_, carried, rfl, rfl⟩ := resume
        rw [waits, JumpArm.resumeOnly.injEq] at armed
        obtain ⟨rfl, rfl⟩ := armed
        exact ⟨⟨jump, source, rfl, carried⟩, owed⟩
    case activeFile =>
      intro playing
      have idle := traced.activeFile (active ▸ playing)
      simp [before] at idle
  | resumeOnly slotId ticks =>
    rw [before] at announced arm
    have kept : lifecycle.jump = .idle ∨ lifecycle.jump = history.lifecycle.jump ∧
        lifecycle.projection = history.lifecycle.projection := by
      rcases arm with idle | ⟨slotId', ticks', resume, waits⟩
      · exact Or.inl idle
      · cases resume
        exact Or.inr ⟨waits.trans before.symm, projection⟩
    have quiet := traced.quiet kept
    simpa [announced, RunLifecycle.settledArm, record] using quiet

theorem Traced.take (traced : history.Traced) : Traced { history with
      lifecycle := history.lifecycle.takeResumeTicks.2
      taken := record history.taken history.latest history.lifecycle.takeResumeTicks.1 } := by
  cases owed : RunLifecycle.resumeTicks history.lifecycle.jump with
  | none =>
    have quiet := traced.quiet (Or.inr ⟨rfl, rfl⟩)
    simpa [RunLifecycle.takeResumeTicks, owed, record] using quiet
  | some ticks =>
    have fresh : history.latest ∉ history.taken.map (·.1) ∧
        history.armed[history.latest]?.bind (·.resumeTicks) = some ticks := by
      cases arm : history.lifecycle.jump with
      | idle => simp [RunLifecycle.resumeTicks, arm] at owed
      | pending jump =>
        obtain ⟨source, -, unseen⟩ := traced.pending jump arm
        simp only [RunLifecycle.resumeTicks, arm] at owed
        exact ⟨unseen, by simp [source, owed]⟩
      | resumeOnly slotId resumeTicks =>
        obtain ⟨⟨jump, source, -, carried⟩, unseen⟩ := traced.resumeOnly slotId resumeTicks arm
        simp only [RunLifecycle.resumeTicks, arm, Option.some.injEq] at owed
        exact ⟨unseen, by simp [source, carried, owed]⟩
    have idle : history.lifecycle.takeResumeTicks = (some ticks, { history.lifecycle with jump := .idle }) := by
      simp [RunLifecycle.takeResumeTicks, owed]
    rw [idle]
    constructor
    case announced => exact traced.announced
    case taken => exact traced.taken.record (fun _ => fresh.1) fun _ => fresh.2
    case pending => exact fun jump armed => by simp at armed
    case resumeOnly => exact fun slotId ticks armed => by simp at armed
    case activeFile => exact fun _ => rfl

@[simp] theorem record_none (log : List (Nat × α)) (ticket : Nat) : record log ticket none = log := by simp [record]

theorem settled_end_file (lifecycle : RunLifecycle) (targetIndex : Option Nat) (currentIdx queueLen : Nat) :
    let next := (lifecycle.jumpSettledOnEndFile targetIndex currentIdx queueLen).2
    next.jump = .idle ∨ ∃ slotId ticks, (RunLifecycle.settledArm lifecycle.jump).2 = some (slotId, ticks) ∧
        next.jump = .resumeOnly slotId ticks := by
  simp only [RunLifecycle.jumpSettledOnEndFile]
  cases owed : (RunLifecycle.settledArm lifecycle.jump).2 with
  | none => exact Or.inl rfl
  | some resume =>
    dsimp only
    split
    · exact Or.inr ⟨resume.1, resume.2, rfl, rfl⟩
    · exact Or.inl rfl

theorem settled_restart {jump : ForcedJump} (arm : lifecycle.jump = .pending jump) (fromIdle : jump.fromIdle = true) :
    let next := lifecycle.jumpSettledOnRestart.2
    next.jump = .idle ∨ ∃ slotId ticks, (RunLifecycle.settledArm lifecycle.jump).2 = some (slotId, ticks) ∧
        next.jump = .resumeOnly slotId ticks := by
  simp only [RunLifecycle.jumpSettledOnRestart, arm, fromIdle, if_true, RunLifecycle.settledArm]
  cases jump.resumeTicks with
  | none => exact Or.inl rfl
  | some ticks => exact Or.inr ⟨jump.slotId, ticks, rfl, rfl⟩

theorem step_of_quiet {op : LifecycleOp} (arms : op.arms = [])
    (announces : op.announces history.lifecycle = none) (takes : op.takes history.lifecycle = none) :
    machine.step history op = { history with lifecycle := op.apply history.lifecycle } := by
  simp [machine, arms, announces, takes]

theorem loadFailed_idle (lifecycle : RunLifecycle) (position : RunPosition) :
    (lifecycle.loadFailed position).2.jump = .idle := by
  simp only [RunLifecycle.loadFailed]
  repeat' split
  all_goals rfl

theorem close_arm (lifecycle : RunLifecycle) (identity : PlaybackGeneration) :
    (lifecycle.close identity).2.jump = lifecycle.jump ∧ (lifecycle.close identity).2.projection = lifecycle.projection := by
  unfold RunLifecycle.close
  split <;> exact ⟨rfl, rfl⟩

theorem step_traced (history : LifecycleHistory) (op : LifecycleOp) (traced : history.Traced) :
    (machine.step history op).Traced := by
  cases op with
  | playbackStarted =>
    rw [step_of_quiet rfl rfl rfl]
    exact traced.quiet (Or.inr ⟨rfl, rfl⟩)
  | enterActiveFile =>
    rw [step_of_quiet rfl rfl rfl]
    exact traced.quiet (Or.inl rfl)
  | submissionAccepted =>
    rw [step_of_quiet rfl rfl rfl]
    exact traced.quiet (Or.inl rfl)
  | loadFailed position =>
    rw [step_of_quiet rfl rfl rfl]
    exact traced.quiet (Or.inl (loadFailed_idle history.lifecycle position))
  | close identity =>
    rw [step_of_quiet rfl rfl rfl]
    exact traced.quiet (Or.inr (close_arm history.lifecycle identity))
  | armJump jump =>
    have armed := traced.armJump jump
    simpa [machine, LifecycleOp.apply, LifecycleOp.arms, LifecycleOp.announces, LifecycleOp.takes] using armed
  | disarmJump =>
    rw [step_of_quiet rfl rfl rfl]
    exact traced.quiet (Or.inl rfl)
  | jumpSettledOnEndFile targetIndex currentIdx queueLen =>
    have settled := traced.settle (history.lifecycle.jumpSettledOnEndFile targetIndex currentIdx queueLen).2
      (history.lifecycle.jumpSettledOnEndFile targetIndex currentIdx queueLen).1.2 rfl rfl
      (settled_end_file history.lifecycle targetIndex currentIdx queueLen)
    simpa [machine, LifecycleOp.apply, LifecycleOp.arms, LifecycleOp.announces, LifecycleOp.takes] using settled
  | jumpSettledOnRestart =>
    cases arm : history.lifecycle.jump with
    | pending jump =>
      by_cases fromIdle : jump.fromIdle = true
      · have settled := traced.settle history.lifecycle.jumpSettledOnRestart.2 jump.transition
          (by simp [RunLifecycle.jumpSettledOnRestart, arm, fromIdle])
          (by simp [RunLifecycle.settledArm, arm]) (settled_restart arm fromIdle)
        simpa [machine, LifecycleOp.apply, LifecycleOp.arms, LifecycleOp.announces,
          LifecycleOp.takes, RunLifecycle.jumpSettledOnRestart, arm, fromIdle] using settled
      · simpa [machine, LifecycleOp.apply, LifecycleOp.arms, LifecycleOp.announces,
          LifecycleOp.takes, RunLifecycle.jumpSettledOnRestart, arm, fromIdle] using traced
    | idle =>
      simpa [machine, LifecycleOp.apply, LifecycleOp.arms, LifecycleOp.announces,
        LifecycleOp.takes, RunLifecycle.jumpSettledOnRestart, arm] using traced
    | resumeOnly slotId ticks =>
      simpa [machine, LifecycleOp.apply, LifecycleOp.arms, LifecycleOp.announces,
        LifecycleOp.takes, RunLifecycle.jumpSettledOnRestart, arm] using traced
  | takeResumeTicks =>
    have taken := traced.take
    simpa [machine, LifecycleOp.apply, LifecycleOp.arms, LifecycleOp.announces, LifecycleOp.takes] using taken

theorem step_activeFile (history : LifecycleHistory) (op : LifecycleOp) (active : history.lifecycle.isActiveFile = true) :
    (machine.step history op).lifecycle.isActiveFile = true := by
  have projection : history.lifecycle.projection = .activeFile := by
    simpa [RunLifecycle.isActiveFile] using active
  have kept {lifecycle : RunLifecycle} (same : lifecycle.projection = history.lifecycle.projection) :
      lifecycle.isActiveFile = true := by simp [RunLifecycle.isActiveFile, same, projection]
  cases op with
  | playbackStarted => exact kept rfl
  | enterActiveFile => rfl
  | submissionAccepted => exact kept rfl
  | loadFailed position =>
    refine kept ?_
    simp only [machine, LifecycleOp.apply, RunLifecycle.loadFailed]
    repeat' split
    all_goals rfl
  | close identity => exact kept (close_arm history.lifecycle identity).2
  | armJump jump => exact kept rfl
  | disarmJump => exact kept rfl
  | jumpSettledOnEndFile targetIndex currentIdx queueLen => exact kept rfl
  | jumpSettledOnRestart =>
    refine kept ?_
    simp only [machine, LifecycleOp.apply, RunLifecycle.jumpSettledOnRestart]
    repeat' split
    all_goals rfl
  | takeResumeTicks =>
    refine kept ?_
    simp only [machine, LifecycleOp.apply, RunLifecycle.takeResumeTicks]
    split <;> rfl

/-- Playback began since the last accepted submission. -/
def BeganInSubmission (ops : List LifecycleOp) : Prop :=
  ∃ before after, ops = before ++ .playbackStarted :: after ∧ .submissionAccepted ∉ after

theorem beganInSubmission_append {ops : List LifecycleOp} {op : LifecycleOp} : BeganInSubmission (ops ++ [op]) ↔
      op = .playbackStarted ∨ op ≠ .submissionAccepted ∧ BeganInSubmission ops := by
  constructor
  · rintro ⟨before, after, same, quiet⟩
    rcases eq_nil_or_concat after with rfl | ⟨after, last, rfl⟩
    · exact Or.inl (append_inj_right' same rfl |> head_eq_of_cons_eq)
    · rw [concat_eq_append, ← cons_append, ← append_assoc] at same
      rw [concat_eq_append] at quiet
      obtain ⟨rfl, ends⟩ := append_inj' same rfl
      rw [List.cons.injEq] at ends
      rw [mem_append, mem_singleton, not_or] at quiet
      exact Or.inr ⟨fun accepted => quiet.2 (ends.1 ▸ accepted.symm), before, after, rfl, quiet.1⟩
  · rintro (rfl | ⟨other, before, after, rfl, quiet⟩)
    · exact ⟨ops, [], rfl, not_mem_nil⟩
    · refine ⟨before, after ++ [op], by simp, ?_⟩
      rw [mem_append, mem_singleton, not_or]
      exact ⟨quiet, fun accepted => other accepted.symm⟩

theorem step_began (lifecycle : RunLifecycle) (op : LifecycleOp) : (op.apply lifecycle).began = true ↔
      op = .playbackStarted ∨ op ≠ .submissionAccepted ∧ lifecycle.began = true := by
  cases op with
  | loadFailed position =>
    simp only [LifecycleOp.apply, RunLifecycle.loadFailed]
    repeat' split
    all_goals simp
  | close identity =>
    simp only [LifecycleOp.apply, RunLifecycle.close]
    split <;> simp
  | jumpSettledOnRestart =>
    simp only [LifecycleOp.apply, RunLifecycle.jumpSettledOnRestart]
    repeat' split
    all_goals simp
  | takeResumeTicks =>
    simp only [LifecycleOp.apply, RunLifecycle.takeResumeTicks]
    split <;> simp
  | _ =>
    simp [LifecycleOp.apply, RunLifecycle.playbackStarted, RunLifecycle.enterActiveFile,
      RunLifecycle.submissionAccepted, RunLifecycle.armJump, RunLifecycle.disarmJump,
      RunLifecycle.jumpSettledOnEndFile]

theorem run_began (queue : ExecutionSequence) (ops : List LifecycleOp) :
    (machine.run (start queue) ops).lifecycle.began = true ↔ BeganInSubmission ops := by
  induction ops using List.reverseRec with
  | nil => simp [LifecycleHistory.start, RunLifecycle.forQueue, BeganInSubmission]
  | append_singleton ops op ih =>
    rw [Machine.run_append, beganInSubmission_append, ← ih]
    exact step_began (machine.run (start queue) ops).lifecycle op

def LifecycleOp.Settles : LifecycleOp → Prop
  | .jumpSettledOnEndFile _ _ _ => True
  | .jumpSettledOnRestart => True
  | _ => False

theorem resumeOnly_source {op : LifecycleOp} {slotId : QueueSlotId} {ticks : Int}
    (arm : (op.apply lifecycle).jump = .resumeOnly slotId ticks) :
    lifecycle.jump = .resumeOnly slotId ticks ∨
      LifecycleOp.Settles op ∧ ∃ jump, lifecycle.jump = .pending jump ∧ jump.slotId = slotId ∧
        jump.resumeTicks = some ticks := by
  cases op with
  | playbackStarted => exact Or.inl arm
  | enterActiveFile => cases arm
  | submissionAccepted => cases arm
  | loadFailed position => exact absurd arm (by simp [LifecycleOp.apply, loadFailed_idle])
  | close identity =>
    simp only [LifecycleOp.apply, (close_arm lifecycle identity).1] at arm
    exact Or.inl arm
  | armJump jump =>
    simp only [LifecycleOp.apply, RunLifecycle.armJump] at arm
    split at arm <;> cases arm
  | disarmJump => cases arm
  | jumpSettledOnEndFile targetIndex currentIdx queueLen =>
    rcases settled_end_file lifecycle targetIndex currentIdx queueLen with
      idle | ⟨slotId', ticks', owed, waits⟩
    · exact absurd arm (by simp [LifecycleOp.apply, idle])
    · simp only [LifecycleOp.apply, waits, JumpArm.resumeOnly.injEq] at arm
      obtain ⟨rfl, rfl⟩ := arm
      cases before : lifecycle.jump with
      | idle => simp [before, RunLifecycle.settledArm] at owed
      | pending jump =>
        simp only [before, RunLifecycle.settledArm, Option.map_eq_some_iff, Prod.mk.injEq] at owed
        obtain ⟨_, carried, same, rfl⟩ := owed
        exact Or.inr ⟨trivial, jump, rfl, same, carried⟩
      | resumeOnly slotId'' ticks'' =>
        simp only [before, RunLifecycle.settledArm, Option.some.injEq, Prod.mk.injEq] at owed
        exact Or.inl (by rw [owed.1, owed.2])
  | jumpSettledOnRestart =>
    cases before : lifecycle.jump with
    | idle => simp [LifecycleOp.apply, RunLifecycle.jumpSettledOnRestart, before] at arm
    | pending jump =>
      by_cases fromIdle : jump.fromIdle = true
      · cases carried : jump.resumeTicks with
        | none =>
          simp [LifecycleOp.apply, RunLifecycle.jumpSettledOnRestart, before, fromIdle, carried] at arm
        | some owed =>
          simp only [LifecycleOp.apply, RunLifecycle.jumpSettledOnRestart, before, fromIdle, carried,
            if_true, JumpArm.resumeOnly.injEq] at arm
          exact Or.inr ⟨trivial, jump, rfl, arm.1, by rw [carried, arm.2]⟩
      · simp [LifecycleOp.apply, RunLifecycle.jumpSettledOnRestart, before, fromIdle] at arm
    | resumeOnly slotId' ticks' =>
      simp only [LifecycleOp.apply, RunLifecycle.jumpSettledOnRestart, before] at arm
      exact Or.inl arm
  | takeResumeTicks =>
    simp only [LifecycleOp.apply, RunLifecycle.takeResumeTicks] at arm
    split at arm
    · cases arm
    · exact Or.inl arm

/-- The ordinal of the entry a load failure is about: the one a settle would land on while a jump is
    armed, else the one mpv is on. -/
def failedOrdinal (lifecycle : RunLifecycle) (position : RunPosition) : Nat :=
  if lifecycle.jump.isIdle then position.currentIdx
  else
    (lifecycle.jumpSettledOnEndFile position.jumpTargetIdx position.currentIdx
      position.queueLen).1.1

theorem failedEntry_ordinal (lifecycle : RunLifecycle) (position : RunPosition) :
    (RunLifecycle.failedEntry lifecycle.jump position).1 = failedOrdinal lifecycle position := by
  unfold failedOrdinal
  cases lifecycle.jump <;> rfl

theorem loadFailed_continues {position : RunPosition} : (lifecycle.loadFailed position).1 = .continues ↔
      lifecycle.began = true ∧ lifecycle.projection = .playlist ∧ failedOrdinal lifecycle position + 1 < position.queueLen := by
  rw [← failedEntry_ordinal]
  have projection : lifecycle.isActiveFile = false ↔ lifecycle.projection = .playlist := by
    cases playing : lifecycle.projection <;> simp [RunLifecycle.isActiveFile, playing]
  rw [← projection]
  cases began : lifecycle.began with
  | false => simp [RunLifecycle.loadFailed, began]
  | true =>
    cases active : lifecycle.isActiveFile with
    | true => simp [RunLifecycle.loadFailed, began, active]
    | false =>
      by_cases follows : (RunLifecycle.failedEntry lifecycle.jump position).1 + 1 < position.queueLen
      · simp [RunLifecycle.loadFailed, began, active, follows, Nat.not_le_of_lt follows]
      · simp [RunLifecycle.loadFailed, began, active, follows, Nat.le_of_not_lt follows]

/-- What the jump arm keeps after the operations `ops`. -/
structure JumpArmLaws (ops : List LifecycleOp) (history : LifecycleHistory) : Prop where
  activeFile : history.lifecycle.isActiveFile = true → ∀ more,
    (machine.run history more).lifecycle.isActiveFile = true ∧
      (machine.run history more).lifecycle.jump = .idle
  /-- No jump's marker is announced twice, and none is announced that its jump did not carry. -/
  announced : Delivered history.armed (·.transition) history.announced
  taken : Delivered history.armed (·.resumeTicks) history.taken
  /-- The next take serves the jump armed last, and no jump a second time. -/
  takes : ∀ ticks, history.lifecycle.takeResumeTicks.1 = some ticks →
    history.armed.getLast?.bind (·.resumeTicks) = some ticks ∧
      history.latest ∉ history.taken.map (·.1)
  resumeOnly : ∀ op slotId ticks,
    (LifecycleOp.apply history.lifecycle op).jump = .resumeOnly slotId ticks →
      history.lifecycle.jump = .resumeOnly slotId ticks ∨
        LifecycleOp.Settles op ∧ ∃ jump, history.lifecycle.jump = .pending jump ∧
          jump.slotId = slotId ∧ jump.resumeTicks = some ticks
  disarms : (∀ position, (history.lifecycle.loadFailed position).2.jump = .idle) ∧
    history.lifecycle.disarmJump.jump = .idle ∧
    history.lifecycle.submissionAccepted.jump = .idle
  continues : ∀ position, (history.lifecycle.loadFailed position).1 = .continues ↔
    BeganInSubmission ops ∧ history.lifecycle.projection = .playlist ∧
      failedOrdinal history.lifecycle position + 1 < position.queueLen

theorem Traced.takes (traced : history.Traced) {ticks : Int} (taken : history.lifecycle.takeResumeTicks.1 = some ticks) :
    history.armed.getLast?.bind (·.resumeTicks) = some ticks ∧ history.latest ∉ history.taken.map (·.1) := by
  rw [List.getLast?_eq_getElem?]
  cases arm : history.lifecycle.jump with
  | idle => simp [RunLifecycle.takeResumeTicks, RunLifecycle.resumeTicks, arm] at taken
  | pending jump =>
    obtain ⟨source, -, unseen⟩ := traced.pending jump arm
    cases carried : jump.resumeTicks with
    | none => simp [RunLifecycle.takeResumeTicks, RunLifecycle.resumeTicks, arm, carried] at taken
    | some owed =>
      simp only [RunLifecycle.takeResumeTicks, RunLifecycle.resumeTicks, arm, carried, Option.some.injEq] at taken
      have place : history.armed[history.armed.length - 1]? = some jump := source
      exact ⟨by simp [place, carried, taken], unseen⟩
  | resumeOnly slotId owed =>
    obtain ⟨⟨jump, source, -, carried⟩, unseen⟩ := traced.resumeOnly slotId owed arm
    simp only [RunLifecycle.takeResumeTicks, RunLifecycle.resumeTicks, arm, Option.some.injEq] at taken
    have place : history.armed[history.armed.length - 1]? = some jump := source
    exact ⟨by simp [place, carried, taken], unseen⟩

end LifecycleHistory

open LifecycleHistory in
/-- Every sequence of operations keeps the jump-arm laws. -/
theorem run_lifecycle_jump_arm (queue : ExecutionSequence) (ops : List LifecycleOp) :
    JumpArmLaws ops (machine.run (start queue) ops) := by
  have traced := Machine.run_holds step_traced ops (Traced.start queue)
  constructor
  case activeFile =>
    intro active more
    have stays := Machine.run_holds (m := machine) step_activeFile more active
    exact ⟨stays, (Machine.run_holds step_traced more traced).activeFile stays⟩
  case announced => exact traced.announced
  case taken => exact traced.taken
  case takes => exact fun ticks taken => traced.takes taken
  case resumeOnly => exact fun op slotId ticks arm => resumeOnly_source arm
  case disarms => exact ⟨loadFailed_idle _, rfl, rfl⟩
  case continues =>
    intro position
    rw [← run_began queue ops]
    exact loadFailed_continues

open LifecycleHistory in
/-- With no jump armed a failure is judged at the entry mpv is on, one before the ordinal a settle
    would return. -/
theorem load_failed_idle_is_not_settled_ordinal :
    let ops := [LifecycleOp.playbackStarted]
    let lifecycle := (machine.run (start {}) ops).lifecycle
    let position : RunPosition := ⟨0, 2, some ⟨1⟩, none⟩
    let settled := (lifecycle.jumpSettledOnEndFile position.jumpTargetIdx position.currentIdx
      position.queueLen).1.1
    (lifecycle.loadFailed position).1 = .continues ∧ lifecycle.began = true ∧
      lifecycle.projection = .playlist ∧ ¬ settled + 1 < position.queueLen := by
  decide

end Mbv.Player
