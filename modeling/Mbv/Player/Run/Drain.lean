import Mbv.Player.Run.CommandEffects

namespace Mbv.Player

open Mbv.Queue List

/-! ### mpv, as far as end-files go -/

/-- The end of a file mpv started: the submission it was loaded for, and whether a `stop` or a
    replacing load displaced it. -/
structure MpvEndFile where
  submission : Nat
  displaced : Bool
  reason : EndFileReason
deriving DecidableEq

inductive MpvUpcoming where
  | nothing
  | file
  | playlist
deriving DecidableEq

structure MpvFiles where
  /-- The submission of the file that is started. -/
  started : Option Nat := none
  upcoming : MpvUpcoming := .nothing
  /-- The end-files the run has not read yet. -/
  endFiles : List MpvEndFile := []

namespace MpvFiles

variable (mpv : MpvFiles)

def displace : MpvFiles :=
  match mpv.started with
  | none => mpv
  | some submission =>
    { mpv with started := none, endFiles := mpv.endFiles ++ [⟨submission, true, .stop⟩] }

def perform (answers : Answers) : MpvCommand → MpvFiles
  | .stop => { mpv.displace with upcoming := .nothing }
  | .playlistClear => { mpv with upcoming := .nothing }
  | .playlistRemove _ | .playlistMove _ _ => mpv
  | .loadfile _ .replace =>
    if answers.loadfile.isSome then mpv else { mpv.displace with upcoming := .file }
  | .loadfile _ _ => { mpv with upcoming := .playlist }

def performAll (answers : Answers) (commands : List MpvCommand) : MpvFiles :=
  commands.foldl (fun mpv command => mpv.perform answers command) mpv

/-- The one file of a replacing load starts once. -/
def start (submission : Nat) : MpvFiles :=
  match mpv.started, mpv.upcoming with
  | none, .file => { mpv with started := some submission, upcoming := .nothing }
  | none, .playlist => { mpv with started := some submission }
  | _, _ => mpv

def finish (reason : EndFileReason) : MpvFiles :=
  match mpv.started with
  | none => mpv
  | some submission =>
    { mpv with started := none, endFiles := mpv.endFiles ++ [⟨submission, false, reason⟩] }

/-- The end-files the run has still to read once the started file is displaced. -/
def outstanding : Nat := mpv.endFiles.length + mpv.started.toList.length

end MpvFiles

/-! ### The run and mpv together -/

structure DrainState where
  thread : RunThread
  mpv : MpvFiles
  submission : Nat := 0

inductive DrainInput where
  | submit (answers : Answers) (items : List ExecSlot) (startIdx : Nat)
  | jump (answers : Answers) (slotId : QueueSlotId) (requestId : PlaybackRequestId)
      (generation : PlaybackGeneration) (resumeTicks : Option Int)
  | starts
  | finishes (reason : EndFileReason)
  /-- The run reads the oldest end-file. -/
  | deliver (answers : Answers)
  /-- The run reads another event of mpv's. -/
  | event (answers : Answers) (event : MpvEvent)
  | advanceSequenceGeneration
  | seedStatus (item : QueueItem) (idx queueLen : Nat)

def MpvEvent.isEndFile : MpvEvent → Bool
  | .endFile _ => true
  | _ => false

namespace DrainState

variable (s : DrainState)

def handle (answers : Answers) (input : RunInput) : DrainState :=
  let thread := s.thread.step input
  { s with
    thread := thread
    mpv := s.mpv.performAll answers (thread.run.mpv.drop s.thread.run.mpv.length) }

def machine : Machine DrainState DrainInput where
  step s
    | .submit answers items startIdx =>
      let replaced := !s.thread.exited && s.thread.run.replaces answers items
      { s.handle answers (.command answers (.submitQueue items startIdx)) with
        submission := if replaced then s.submission + 1 else s.submission }
    | .jump answers slotId requestId generation resumeTicks =>
      s.handle answers (.command answers (.jumpTo slotId requestId generation resumeTicks))
    | .starts => { s with mpv := s.mpv.start s.submission }
    | .finishes reason => { s with mpv := s.mpv.finish reason }
    | .deliver answers =>
      match s.mpv.endFiles with
      | [] => s
      | ended :: rest =>
        { s with mpv := { s.mpv with endFiles := rest } }.handle answers
          (.event answers (.endFile ended.reason))
    | .event answers event => if event.isEndFile then s else s.handle answers (.event answers event)
    | .advanceSequenceGeneration =>
      { s with thread := s.thread.step .advanceSequenceGeneration }
    | .seedStatus item idx queueLen =>
      { s with thread := s.thread.step (.seedStatus item idx queueLen) }

def start (run : PlaybackRun) : DrainState where
  thread := { run := run }
  mpv := { upcoming := if run.runLifecycle.isActiveFile then .file else .playlist }

/-- The end-file of a displaced file, or of one an earlier submission loaded, only clears the drain,
    and one of a file of the current submission that nothing displaced finds no drain to clear. -/
def SwallowsDisplaced (s : DrainState) : DrainInput → Prop
  | .deliver answers => ∀ ended rest, s.mpv.endFiles = ended :: rest → s.thread.exited = false →
      (ended.displaced = true ∨ ended.submission ≠ s.submission →
        s.thread.run.loadIsReady = false ∧
          s.thread.step (.event answers (.endFile ended.reason)) =
            { s.thread with run := s.thread.run.onDrained }) ∧
      (ended.displaced = false → ended.submission = s.submission →
        s.thread.run.loadIsReady = true)
  | _ => True

/-- Every load that displaces finds one file whose end is still to be read: the started one, or one
    whose end-file waits. A jump's is not one that ended on its own. -/
def OneOutstanding (s : DrainState) : DrainInput → Prop
  | .submit answers items _ => s.thread.run.replaces answers items = true → s.mpv.outstanding = 1
  | .jump _ slotId _ _ _ => s.thread.run.reloads slotId = true → s.mpv.outstanding = 1 ∧
      ∀ ended ∈ s.mpv.endFiles, ended.displaced = true ∨ ended.submission ≠ s.submission
  | _ => True

instance (input : DrainInput) : Decidable (s.OneOutstanding input) := by
  cases input <;> unfold OneOutstanding <;> infer_instance

end DrainState

/-! ### What the run's functions do to the drain -/

structure LoadView where
  loadState : LoadState
  quitAt : Option Instant
  projection : Projection
  mpv : List MpvCommand

def LoadView.install (view : LoadView) (loadState : LoadState) (slotId : QueueSlotId) : LoadView :=
  { view with
    loadState := loadState
    mpv := view.mpv ++ [.playlistClear, .loadfile slotId .replace] }

namespace RunView

variable {view after : RunView} {event : MpvEvent}

def loadView (view : RunView) : LoadView :=
  ⟨view.loadState, view.quitAt, view.projection, view.mpv⟩

theorem loadView_stop (outcome : StopOutcome) : (view.stop outcome).loadView = view.loadView := by
  unfold stop
  split <;> rfl

theorem Handles.loadView (handles : view.Handles event after) : after.loadView = view.loadView ∨ event.isEndFile = true ∧
      (after.loadView = { view.loadView with loadState := .ready } ∨ view.projection = .activeFile ∧
          ∃ slotId, after.loadView = view.loadView.install .ready slotId) := by
  cases handles with
  | quiet | tells | marks | moves | clamps | prunes => exact .inl rfl
  | drains => exact .inr ⟨rfl, .inl rfl⟩
  | stops outcome | quits outcome => exact .inl (loadView_stop outcome)
  | loads idx told transition activeFile => exact .inr ⟨rfl, .inr ⟨activeFile, _, rfl⟩⟩
  | loadFails slotId outcome activeFile =>
    exact .inr ⟨rfl, .inr ⟨activeFile, slotId, @loadView_stop (view.load .ready slotId) outcome⟩⟩

end RunView

namespace PlaybackRun

def loadView (run : PlaybackRun) : LoadView :=
  ⟨run.itemLifecycle.loadState, run.quitAt, run.runLifecycle.projection, run.mpv⟩

variable (run : PlaybackRun)

variable {answers : Answers} {next : PlaybackRun}

theorem loadView_handleMpvEvent {event : MpvEvent} {exits : Bool} (other : event.isEndFile = false)
    (handled : run.handleMpvEvent answers event = some (exits, next)) :
    next.loadView = run.loadView := by
  rcases (handleMpvEvent_handles handled).loadView with kept | ⟨ended, -⟩
  · exact kept
  · cases other.symm.trans ended

/-! ### The end-file of a track, with nothing to drain -/

def Advances (run next : PlaybackRun) : Prop :=
  next.loadView = run.loadView ∨
    run.runLifecycle.isActiveFile = true ∧ ∃ slotId, next.loadView = run.loadView.install .ready slotId

theorem onEndFile_advances {reason : EndFileReason} {goes : Bool} (ready : run.loadIsReady = true)
    (handled : run.onEndFile answers reason = some (goes, next)) : run.Advances next := by
  have clear : run.itemLifecycle.loadState = .ready := by simpa [loadIsReady] using ready
  rcases (onEndFile_handles handled).loadView with kept | ⟨-, drained | ⟨activeFile, loaded⟩⟩
  · exact .inl kept
  · have same : ({ run.loadView with loadState := .ready } : LoadView) = run.loadView := by
      simp [loadView, clear]
    exact .inl (drained.trans same)
  · exact .inr ⟨(RunLifecycle.isActiveFile_iff _).mpr activeFile, loaded⟩

theorem onEndFile_drains {reason : EndFileReason} (running : run.quitAt = none) (draining : run.loadIsReady = false) :
    run.onEndFile answers reason = some (true, run.onDrained) := by
  unfold onEndFile
  rw [if_neg (by simp [running]), if_pos (by simp [draining])]

/-! ### Submissions and jumps -/

structure Replaces (answers : Answers) (builds : Bool) (run next : PlaybackRun) : Prop where
  draining : next.itemLifecycle.loadState = .drainingReplacedFile
  running : run.quitAt = none → next.quitAt = none
  commands : ∃ added, next.mpv = run.mpv ++ added ∧ DisplacingCommands answers builds added

variable {run} {items : List ExecSlot} {startIdx : Nat}

theorem Replaces.of_loadView {builds : Bool} {added : List MpvCommand} {after : LoadView}
    (displacing : DisplacingCommands answers builds added) (same : next.loadView = after)
    (draining : after.loadState = .drainingReplacedFile)
    (running : run.quitAt = none → after.quitAt = none) (mpv : after.mpv = run.mpv ++ added) :
    Replaces answers builds run next :=
  ⟨(congrArg LoadView.loadState same).trans draining, fun quiet => (congrArg LoadView.quitAt same).trans (running quiet),
    added, (congrArg LoadView.mpv same).trans mpv, displacing⟩

/-- A jump reloads an active-file run, and only points mpv at another entry otherwise. -/
theorem cmdJumpTo_drains (answers : Answers) (slotId : QueueSlotId)
    (requestId : PlaybackRequestId) (generation : PlaybackGeneration) :
    (run.reloads slotId = true → Replaces answers false run (run.cmdJumpTo answers slotId requestId generation)) ∧
      (run.reloads slotId = false → (run.cmdJumpTo answers slotId requestId generation).loadView = run.loadView) := by
  have obeys := run.cmdJumpTo_obeys answers slotId requestId generation none
  generalize reached : run.cmdJumpTo answers slotId requestId generation = next at obeys ⊢
  generalize shown : next.view = after at obeys
  have same : next.loadView = after.loadView := congrArg RunView.loadView shown
  cases obeys with
  | keeps told plain spares =>
    have spared : run.reloads slotId = false := spares
    exact ⟨fun reloads => absurd (spared.symm.trans reloads) Bool.false_ne_true, fun _ => same⟩
  | jumps idx transition displaces loads =>
    have reloads : run.reloads slotId = true := displaces
    exact ⟨fun _ => .of_loadView (.install slotId loads) same rfl id rfl,
      fun spared => absurd (spared.symm.trans reloads) Bool.false_ne_true⟩
  | jumpFails outcome displaces displacing =>
    have reloads : run.reloads slotId = true := displaces
    rw [RunView.loadView_stop] at same
    exact ⟨fun _ => .of_loadView displacing same rfl id rfl, fun spared => absurd (spared.symm.trans reloads) Bool.false_ne_true⟩

/-- Whatever a submission does that replaces nothing, it leaves the drain. -/
structure LeavesDrain (run next : PlaybackRun) : Prop where
  loadState : next.itemLifecycle.loadState = run.itemLifecycle.loadState
  running : run.quitAt = none → next.quitAt = none
  projection : next.runLifecycle.projection = run.runLifecycle.projection
  commands : next.mpv = run.mpv ∨ next.mpv = run.mpv ++ [.playlistClear]

theorem submit_drains {cancels : Bool}
    (handled : run.handleCommand answers (.submitQueue items startIdx) = some (cancels, next)) :
    (run.replaces answers items = true → ∃ builds, Replaces answers builds run next ∧
        (builds = true → next.runLifecycle.projection = .playlist)) ∧
      (run.replaces answers items = false → run.LeavesDrain next) := by
  have obeys := handleCommand_obeys handled
  generalize shown : next.view = after at obeys
  have same : next.loadView = after.loadView := congrArg RunView.loadView shown
  have empty (replaced : run.replaces answers [] = true) : False := by simp [replaces] at replaced
  cases obeys with
  | keeps told plain spares =>
    have spared : run.replaces answers items = false := spares
    exact ⟨fun replaces => absurd (spared.symm.trans replaces) Bool.false_ne_true, fun _ =>
      ⟨congrArg LoadView.loadState same, (congrArg LoadView.quitAt same).trans,
        congrArg LoadView.projection same, .inl (congrArg LoadView.mpv same)⟩⟩
  | clears =>
    exact ⟨fun replaces => (empty replaces).elim, fun _ =>
      ⟨congrArg LoadView.loadState same, fun _ => congrArg LoadView.quitAt same,
        congrArg LoadView.projection same, .inr (congrArg LoadView.mpv same)⟩⟩
  | relents =>
    exact ⟨fun replaces => (empty replaces).elim, fun _ =>
      ⟨congrArg LoadView.loadState same, fun _ => congrArg LoadView.quitAt same,
        congrArg LoadView.projection same, .inl (congrArg LoadView.mpv same)⟩⟩
  | @submits _ _ _ queue builds added _ projection displaces named built displacing playlist ends =>
    have replaces : run.replaces answers items = true := displaces
    refine ⟨fun _ => ⟨builds, ?_⟩, fun spared =>
      absurd (spared.symm.trans replaces) Bool.false_ne_true⟩
    have started : next.loadView = ((run.acceptedView (.submitQueue items startIdx)).startOn queue
          (min startIdx (items.length - 1)) projection added).loadView := by
      rcases ends with rfl | ⟨outcome, rfl⟩
      · exact same
      · exact same.trans (RunView.loadView_stop outcome)
    exact ⟨.of_loadView displacing started rfl (fun _ => rfl) rfl,
      fun builds => (congrArg LoadView.projection started).trans (playlist builds)⟩

end PlaybackRun

/-! ### mpv's side of a replacement -/

namespace MpvFiles

variable {mpv : MpvFiles} {answers : Answers}

@[simp] theorem displace_started : mpv.displace.started = none := by
  unfold displace
  split
  · assumption
  · rfl

theorem displace_length : mpv.displace.endFiles.length = mpv.outstanding := by
  unfold displace outstanding
  split
  · rename_i idle
    simp [idle]
  · rename_i started
    simp [started]

theorem mem_displace {ended : MpvEndFile} (member : ended ∈ mpv.displace.endFiles) : ended ∈ mpv.endFiles ∨
      ended.displaced = true ∧ mpv.started = some ended.submission := by
  unfold displace at member
  split at member
  · exact .inl member
  · rename_i submission started
    rcases mem_append.mp member with before | last
    · exact .inl before
    · cases mem_singleton.mp last
      exact .inr ⟨rfl, started⟩

theorem displace_upcoming (upcoming : MpvUpcoming) :
    { mpv with upcoming := upcoming }.displace = { mpv.displace with upcoming := upcoming } := by
  unfold displace
  split <;> simp_all

theorem performAll_loads {loads : List MpvCommand}
    (appends : ∀ load ∈ loads, ∃ slotId mode, load = .loadfile slotId mode ∧ mode ≠ .replace) :
    ∃ upcoming, mpv.performAll answers loads = { mpv with upcoming := upcoming } := by
  induction loads generalizing mpv with
  | nil => exact ⟨mpv.upcoming, rfl⟩
  | cons load loads ih =>
    obtain ⟨slotId, mode, rfl, notReplace⟩ := appends load mem_cons_self
    have performed : mpv.perform answers (.loadfile slotId mode) = { mpv with upcoming := .playlist } := by
      cases mode with
      | replace => exact absurd rfl notReplace
      | append => rfl
      | appendPlay => rfl
      | insertAt index => rfl
    obtain ⟨upcoming, rest⟩ := @ih { mpv with upcoming := .playlist } fun load member => appends load (mem_cons_of_mem _ member)
    refine ⟨upcoming, ?_⟩
    show performAll (mpv.perform answers (.loadfile slotId mode)) answers loads = _
    rw [performed, rest]

theorem performAll_displacing {builds : Bool} {added : List MpvCommand}
    (displacing : PlaybackRun.DisplacingCommands answers builds added) :
    ∃ upcoming, mpv.performAll answers added = { mpv.displace with upcoming := upcoming } ∧
      (builds = false → upcoming ≠ .playlist) := by
  cases displacing with
  | install slotId loads =>
    refine ⟨.file, ?_, by simp⟩
    have sent : ¬ answers.loadfile.isSome = true := by simpa using loads
    simp [performAll, perform, sent, displace_upcoming]
  | park => exact ⟨.nothing, rfl, by simp⟩
  | installFails slotId fails =>
    refine ⟨.nothing, ?_, by simp⟩
    have lost : answers.loadfile.isSome = true := by simpa using fails
    simp [performAll, perform, lost, displace_upcoming]
  | playlist loads appends =>
    obtain ⟨upcoming, performed⟩ := @performAll_loads { mpv.displace with upcoming := .nothing } answers loads appends
    exact ⟨upcoming, performed, by simp⟩

end MpvFiles

namespace DrainState

structure Drains (s : DrainState) : Prop where
  running : s.thread.run.quitAt = none
  tags : ∀ ended ∈ s.mpv.endFiles, ended.submission ≤ s.submission
  startedTag : ∀ submission, s.mpv.started = some submission → submission = s.submission
  ready : s.thread.run.itemLifecycle.loadState = .ready →
    ∀ ended ∈ s.mpv.endFiles, ended.displaced = false ∧ ended.submission = s.submission
  draining : s.thread.run.itemLifecycle.loadState = .drainingReplacedFile →
    ∃ ended rest, s.mpv.endFiles = ended :: rest ∧
      (ended.displaced = true ∨ ended.submission ≠ s.submission) ∧
      ∀ later ∈ rest, later.displaced = false ∧ later.submission = s.submission
  /-- In the active-file projection mpv has at most one file of the run's own. -/
  single : s.thread.run.runLifecycle.projection = .activeFile →
    s.mpv.upcoming ≠ .playlist ∧
      s.mpv.outstanding + (if s.mpv.upcoming = .file then 1 else 0) ≤
        (if s.thread.run.itemLifecycle.loadState = .ready then 1 else 2)

variable {s : DrainState}

theorem start_drains {run : PlaybackRun} (running : run.quitAt = none)
    (ready : run.itemLifecycle.loadState = .ready) : Drains (start run) where
  running := running
  tags _ member := absurd member not_mem_nil
  startedTag _ started := nomatch started
  ready _ _ member := absurd member not_mem_nil
  draining drains := absurd (ready.symm.trans drains) (by simp)
  single active := by
    have projected : run.runLifecycle.isActiveFile = true := run.runLifecycle.isActiveFile_iff.mpr active
    simp [start, projected, MpvFiles.outstanding, ready]

variable {answers : Answers}

/-- A replacement that finds one file whose end is still to be read, which is not one of the
    replacing submission's that ended on its own. -/
theorem Drains.replace (drains : Drains s) {builds : Bool} {next : PlaybackRun} {submission : Nat}
    (replaces : PlaybackRun.Replaces answers builds s.thread.run next)
    (playlist : builds = true → next.runLifecycle.projection = .playlist)
    (one : s.mpv.outstanding = 1) (later : s.submission ≤ submission)
    (stale : ∀ ended ∈ s.mpv.endFiles, ended.displaced = true ∨ ended.submission ≠ submission) :
    Drains
      { thread := { run := next }
        mpv := s.mpv.performAll answers (next.mpv.drop s.thread.run.mpv.length)
        submission := submission } := by
  obtain ⟨added, commands, displacing⟩ := replaces.commands
  obtain ⟨upcoming, performed, single⟩ := @MpvFiles.performAll_displacing s.mpv _ _ _ displacing
  rw [commands, drop_left, performed]
  have length : s.mpv.displace.endFiles.length = 1 := MpvFiles.displace_length.trans one
  obtain ⟨ended, only⟩ := length_eq_one_iff.mp length
  have sorted : ∀ each ∈ s.mpv.displace.endFiles, each.submission ≤ s.submission ∧
      (each.displaced = true ∨ each.submission ≠ submission) := by
    intro each member
    rcases MpvFiles.mem_displace member with before | ⟨displaced, started⟩
    · exact ⟨drains.tags each before, stale each before⟩
    · exact ⟨(drains.startedTag _ started).le, .inl displaced⟩
  refine ⟨replaces.running drains.running, fun each member => ?_, fun tag started => ?_, ?_, ?_, ?_⟩
  · exact (sorted each member).1.trans later
  · exact absurd (MpvFiles.displace_started.symm.trans started) (by simp)
  · intro ready
    exact absurd (replaces.draining.symm.trans ready) (by simp)
  · intro _
    refine ⟨ended, [], only, ?_, fun _ member => absurd member not_mem_nil⟩
    exact (sorted ended (only ▸ mem_singleton_self ended)).2
  · intro active
    have whole : builds = false := by
      cases builds with
      | false => rfl
      | true => exact absurd ((playlist rfl).symm.trans active) (by simp)
    refine ⟨single whole, ?_⟩
    dsimp only
    rw [replaces.draining]
    have idle : s.mpv.displace.started = none := MpvFiles.displace_started
    simp only [MpvFiles.outstanding, length, idle]
    split <;> simp

/-- What leaves the run's drain, and mpv's files but for what may come next, leaves the law. -/
theorem Drains.keep (drains : Drains s) {next : PlaybackRun} {mpv : MpvFiles}
    (loadState : next.itemLifecycle.loadState = s.thread.run.itemLifecycle.loadState)
    (running : next.quitAt = none)
    (projection : next.runLifecycle.projection = s.thread.run.runLifecycle.projection)
    (files : mpv = s.mpv ∨ mpv = { s.mpv with upcoming := .nothing }) :
    Drains { s with thread := { run := next }, mpv := mpv } := by
  rcases files with rfl | rfl
  · refine ⟨running, drains.tags, drains.startedTag, ?_, ?_, ?_⟩
    · rw [loadState]
      exact drains.ready
    · rw [loadState]
      exact drains.draining
    · rw [loadState, projection]
      exact drains.single
  · refine ⟨running, drains.tags, drains.startedTag, ?_, ?_, ?_⟩
    · rw [loadState]
      exact drains.ready
    · rw [loadState]
      exact drains.draining
    · rw [loadState, projection]
      intro active
      have bound := (drains.single active).2
      refine ⟨by simp, le_trans ?_ bound⟩
      simp [MpvFiles.outstanding]

theorem Drains.start (drains : Drains s) : Drains { s with mpv := s.mpv.start s.submission } := by
  unfold MpvFiles.start
  split
  · rename_i idle upcoming
    refine ⟨drains.running, drains.tags, fun tag started => ?_, drains.ready, drains.draining, fun active => ⟨by simp, ?_⟩⟩
    · cases started
      rfl
    · have bound := (drains.single active).2
      simp only [MpvFiles.outstanding, idle, upcoming] at bound ⊢
      simpa using bound
  · rename_i idle upcoming
    refine ⟨drains.running, drains.tags, fun tag started => ?_, drains.ready, drains.draining, fun active => ?_⟩
    · cases started
      rfl
    · exact absurd upcoming (drains.single active).1
  · exact drains

theorem Drains.finish (drains : Drains s) (reason : EndFileReason) : Drains { s with mpv := s.mpv.finish reason } := by
  unfold MpvFiles.finish
  split
  · exact drains
  · rename_i submission started
    refine ⟨drains.running, fun each member => ?_, by simp, fun ready each member => ?_, fun draining => ?_, fun active => ?_⟩
    · rcases mem_append.mp member with before | last
      · exact drains.tags each before
      · cases mem_singleton.mp last
        exact (drains.startedTag _ started).le
    · rcases mem_append.mp member with before | last
      · exact drains.ready ready each before
      · cases mem_singleton.mp last
        exact ⟨rfl, drains.startedTag _ started⟩
    · obtain ⟨ended, rest, waiting, stale, fresh⟩ := drains.draining draining
      refine ⟨ended, rest ++ [⟨submission, false, reason⟩], ?_, stale, fun later member => ?_⟩
      · dsimp only
        rw [waiting]
        rfl
      · rcases mem_append.mp member with before | last
        · exact fresh later before
        · cases mem_singleton.mp last
          exact ⟨rfl, drains.startedTag _ started⟩
    · obtain ⟨whole, bound⟩ := drains.single active
      refine ⟨whole, ?_⟩
      simp only [MpvFiles.outstanding, started, length_append, length_singleton] at bound ⊢
      simpa using bound

/-- Swallowing the oldest end-file of a drain leaves only ends of files nothing displaced. -/
theorem Drains.swallow (drains : Drains s) {ended : MpvEndFile} {rest : List MpvEndFile}
    (waiting : s.mpv.endFiles = ended :: rest)
    (draining : s.thread.run.itemLifecycle.loadState = .drainingReplacedFile) :
    Drains { s with
        thread := { run := s.thread.run.onDrained }
        mpv := { s.mpv with endFiles := rest } } := by
  have cleared : s.thread.run.onDrained.itemLifecycle.loadState = .ready := by
    simp [PlaybackRun.onDrained, ItemLifecycleState.onDrained, draining]
  obtain ⟨first, others, same, -, fresh⟩ := drains.draining draining
  rw [waiting] at same
  cases same
  refine ⟨drains.running, fun each member => ?_, drains.startedTag, fun _ => fresh,
    fun drainsAgain => absurd (cleared.symm.trans drainsAgain) (by simp), fun active => ?_⟩
  · exact drains.tags each (waiting ▸ mem_cons_of_mem _ member)
  · obtain ⟨whole, bound⟩ := drains.single active
    refine ⟨whole, ?_⟩
    rw [draining] at bound
    simp only [MpvFiles.outstanding, waiting, length_cons, cleared, reduceCtorEq, ↓reduceIte] at bound ⊢
    omega

/-- The end-file of a file nothing displaced may load the next one, and mpv then has no other. -/
theorem Drains.advance (drains : Drains s) {ended : MpvEndFile} {rest : List MpvEndFile}
    {next : PlaybackRun} (waiting : s.mpv.endFiles = ended :: rest)
    (ready : s.thread.run.itemLifecycle.loadState = .ready)
    (advances : s.thread.run.Advances next) :
    Drains { s with
        thread := { run := next }
        mpv := { s.mpv with endFiles := rest }.performAll answers
          (next.mpv.drop s.thread.run.mpv.length) } := by
  have popped : Drains { s with mpv := { s.mpv with endFiles := rest } } := by
    refine ⟨drains.running, fun each member => ?_, drains.startedTag, fun _ each member => ?_,
      fun draining => absurd (ready.symm.trans draining) (by simp), fun active => ?_⟩
    · exact drains.tags each (waiting ▸ mem_cons_of_mem _ member)
    · exact drains.ready ready each (waiting ▸ mem_cons_of_mem _ member)
    · obtain ⟨whole, bound⟩ := drains.single active
      refine ⟨whole, ?_⟩
      simp only [MpvFiles.outstanding, waiting, length_cons] at bound ⊢
      omega
  rcases advances with same | ⟨active, slotId, installs⟩
  · have mpv : next.mpv = s.thread.run.mpv := congrArg LoadView.mpv same
    rw [mpv, drop_length]
    exact popped.keep (congrArg LoadView.loadState same) ((congrArg LoadView.quitAt same).trans drains.running)
      (congrArg LoadView.projection same) (.inl rfl)
  · have loadState : next.itemLifecycle.loadState = .ready := congrArg LoadView.loadState installs
    have mpv : next.mpv = s.thread.run.mpv ++ [.playlistClear, .loadfile slotId .replace] := congrArg LoadView.mpv installs
    rw [mpv, drop_left]
    have projected := (RunLifecycle.isActiveFile_iff _).mp active
    have bound := (drains.single projected).2
    rw [ready] at bound
    simp only [MpvFiles.outstanding, waiting, length_cons, ↓reduceIte] at bound
    have idle : s.mpv.started = none := by
      cases started : s.mpv.started with
      | none => rfl
      | some submission =>
        rw [started] at bound
        simp at bound
        omega
    have last : rest = [] := eq_nil_of_length_eq_zero (by omega)
    subst last
    refine ⟨(congrArg LoadView.quitAt installs).trans drains.running, ?_, ?_, ?_, ?_, ?_⟩
    all_goals simp only [MpvFiles.performAll, foldl_cons, foldl_nil, MpvFiles.perform, MpvFiles.displace, idle]
    · split <;> simp
    · split <;> simp
    · split <;> simp
    · exact fun draining => absurd (loadState.symm.trans draining) (by simp)
    · rw [loadState]
      split <;> simp [MpvFiles.outstanding]

def Lawful (s : DrainState) : Prop := s.thread.exited = true ∨ Drains s

theorem step_exited (exited : s.thread.exited = true) (input : DrainInput) : (machine.step s input).thread.exited = true := by
  have stays (input : RunInput) : (s.thread.step input).exited = true := by
    unfold RunThread.step
    rw [if_pos exited]
    exact exited
  cases input with
  | deliver answers =>
    simp only [machine]
    split
    · exact exited
    · exact stays _
  | event answers event =>
    simp only [machine]
    split
    · exact exited
    · exact stays _
  | starts => exact exited
  | finishes reason => exact exited
  | submit answers items startIdx => exact stays _
  | jump answers slotId requestId generation resumeTicks => exact stays _
  | advanceSequenceGeneration => exact stays _
  | seedStatus item idx queueLen => exact stays _

theorem step_submit (alive : s.thread.exited = false) (drains : Drains s) {items : List ExecSlot}
    {startIdx : Nat} (one : s.OneOutstanding (.submit answers items startIdx)) :
    Lawful (machine.step s (.submit answers items startIdx)) := by
  simp only [machine, handle, RunThread.step, alive, Bool.false_eq_true, ↓reduceIte, Bool.not_false, Bool.true_and]
  split
  · rename_i cancels next handled
    have submitted := PlaybackRun.submit_drains handled
    refine .inr ?_
    split
    · rename_i replaced
      obtain ⟨builds, replaces, playlist⟩ := submitted.1 replaced
      apply drains.replace replaces playlist (one replaced) (Nat.le_succ _)
      intro ended member
      have := drains.tags ended member
      exact .inr (by omega)
    · rename_i spared
      have leaves := submitted.2 (Bool.not_eq_true _ ▸ spared)
      apply drains.keep leaves.loadState (leaves.running drains.running) leaves.projection
      rcases leaves.commands with same | cleared
      · rw [same, drop_length]
        exact .inl rfl
      · rw [cleared, drop_left]
        exact .inr rfl
  · exact .inl rfl

theorem step_jump (alive : s.thread.exited = false) (drains : Drains s) {slotId : QueueSlotId}
    {requestId : PlaybackRequestId} {generation : PlaybackGeneration} {resumeTicks : Option Int}
    (one : s.OneOutstanding (.jump answers slotId requestId generation resumeTicks)) :
    Lawful (machine.step s (.jump answers slotId requestId generation resumeTicks)) := by
  have jumped := @PlaybackRun.cmdJumpTo_drains s.thread.run answers slotId requestId generation
  simp only [machine, handle, RunThread.step, PlaybackRun.handleCommand, alive, Bool.false_eq_true, ↓reduceIte]
  refine .inr ?_
  cases reloaded : s.thread.run.reloads slotId with
  | true =>
    obtain ⟨outstanding, stale⟩ := one reloaded
    exact drains.replace (jumped.1 reloaded) (fun same => by cases same) outstanding (Nat.le_refl _) stale
  | false =>
    have view := jumped.2 reloaded
    have mpv := congrArg LoadView.mpv view
    apply drains.keep (congrArg LoadView.loadState view)
      ((congrArg LoadView.quitAt view).trans drains.running) (congrArg LoadView.projection view)
    dsimp only [PlaybackRun.loadView] at mpv
    rw [mpv, drop_length]
    exact .inl rfl

theorem step_event (alive : s.thread.exited = false) (drains : Drains s) {event : MpvEvent} (other : event.isEndFile = false) :
    Lawful (s.handle answers (.event answers event)) := by
  cases handled : s.thread.run.handleMpvEvent answers event with
  | none =>
    refine .inl ?_
    simp [handle, RunThread.step, alive, handled]
  | some outcome =>
    obtain ⟨exits, next⟩ := outcome
    have view := s.thread.run.loadView_handleMpvEvent other handled
    have mpv : next.mpv = s.thread.run.mpv := congrArg LoadView.mpv view
    have kept : Drains { s with thread := { run := next } } := drains.keep (congrArg LoadView.loadState view)
        ((congrArg LoadView.quitAt view).trans drains.running)
        (congrArg LoadView.projection view) (.inl rfl)
    simp only [handle, RunThread.step, alive, handled, mpv, Bool.false_eq_true, ↓reduceIte, drop_length]
    cases exits with
    | true => exact .inl rfl
    | false => exact .inr kept

theorem step_deliver (alive : s.thread.exited = false) (drains : Drains s) : Lawful (machine.step s (.deliver answers)) := by
  simp only [machine]
  split
  · exact .inr drains
  · rename_i ended rest waiting
    cases load : s.thread.run.itemLifecycle.loadState with
    | drainingReplacedFile =>
      have blocked : s.thread.run.loadIsReady = false := by
        simp [PlaybackRun.loadIsReady, load]
      have swallowed := drains.swallow waiting load
      have drained : s.thread.run.handleMpvEvent answers (.endFile ended.reason) = some (false, s.thread.run.onDrained) := by
        simp [PlaybackRun.handleMpvEvent, @PlaybackRun.onEndFile_drains s.thread.run answers _ drains.running blocked]
      have mpv : s.thread.run.onDrained.mpv = s.thread.run.mpv := rfl
      refine .inr ?_
      simpa [handle, RunThread.step, alive, drained, mpv, MpvFiles.performAll] using swallowed
    | ready =>
      have clear : s.thread.run.loadIsReady = true := by
        simp [PlaybackRun.loadIsReady, load]
      cases handled : s.thread.run.onEndFile answers ended.reason with
      | none =>
        refine .inl ?_
        simp [handle, RunThread.step, alive, PlaybackRun.handleMpvEvent, handled]
      | some outcome =>
        obtain ⟨goes, next⟩ := outcome
        have advances := s.thread.run.onEndFile_advances clear handled
        have advanced := @Drains.advance s answers drains _ _ _ waiting load advances
        cases ends : !goes && !next.status.active with
        | true =>
          refine .inl ?_
          simp only [handle, RunThread.step, alive, PlaybackRun.handleMpvEvent, handled,
            Option.map_some, ends, Bool.false_eq_true, ↓reduceIte]
        | false =>
          refine .inr ?_
          simp only [handle, RunThread.step, alive, PlaybackRun.handleMpvEvent, handled,
            Option.map_some, ends, Bool.false_eq_true, ↓reduceIte]
          exact advanced

theorem step_lawful (lawful : Lawful s) {input : DrainInput} (one : s.OneOutstanding input) : Lawful (machine.step s input) := by
  cases alive : s.thread.exited with
  | true => exact .inl (step_exited alive input)
  | false =>
    have drains : Drains s := lawful.resolve_left (Bool.not_eq_true _ ▸ alive)
    cases input with
    | submit answers items startIdx => exact step_submit alive drains one
    | jump answers slotId requestId generation resumeTicks => exact step_jump alive drains one
    | starts => exact .inr drains.start
    | finishes reason => exact .inr (drains.finish reason)
    | deliver answers => exact step_deliver alive drains
    | event answers event =>
      cases other : event.isEndFile with
      | true =>
        simp only [machine, other, ↓reduceIte]
        exact lawful
      | false =>
        simp only [machine, other, Bool.false_eq_true, ↓reduceIte]
        exact step_event alive drains other
    | advanceSequenceGeneration =>
      simp only [machine, RunThread.step, alive, Bool.false_eq_true, ↓reduceIte]
      exact .inr (drains.keep rfl drains.running rfl (.inl rfl))
    | seedStatus item idx queueLen =>
      simp only [machine, RunThread.step, alive, Bool.false_eq_true, ↓reduceIte]
      exact .inr (drains.keep rfl drains.running rfl (.inl rfl))

theorem Lawful.swallowsDisplaced (lawful : Lawful s) (input : DrainInput) : s.SwallowsDisplaced input := by
  cases input with
  | deliver answers =>
    intro ended rest waiting alive
    have drains : Drains s := lawful.resolve_left (Bool.not_eq_true _ ▸ alive)
    have member : ended ∈ s.mpv.endFiles := waiting ▸ mem_cons_self
    cases load : s.thread.run.itemLifecycle.loadState with
    | ready =>
      obtain ⟨kept, current⟩ := drains.ready load ended member
      refine ⟨fun stale => ?_, fun _ _ => by simp [PlaybackRun.loadIsReady, load]⟩
      rcases stale with displaced | older
      · exact absurd (kept.symm.trans displaced) Bool.false_ne_true
      · exact absurd current older
    | drainingReplacedFile =>
      have blocked : s.thread.run.loadIsReady = false := by
        simp [PlaybackRun.loadIsReady, load]
      refine ⟨fun _ => ⟨blocked, ?_⟩, fun kept current => ?_⟩
      · have drained := @PlaybackRun.onEndFile_drains s.thread.run answers ended.reason drains.running blocked
        simp [RunThread.step, alive, PlaybackRun.handleMpvEvent, drained]
      · obtain ⟨first, others, same, stale, -⟩ := drains.draining load
        rw [waiting] at same
        cases same
        rcases stale with displaced | older
        · exact absurd (kept.symm.trans displaced) Bool.false_ne_true
        · exact absurd current older
  | submit answers items startIdx => trivial
  | jump answers slotId requestId generation resumeTicks => trivial
  | starts => trivial
  | finishes reason => trivial
  | event answers event => trivial
  | advanceSequenceGeneration => trivial
  | seedStatus item idx queueLen => trivial

/-- In every run whose displacing loads each find one file to drain, the drain swallows the ends of
    the displaced files and no other end of the current submission's. -/
theorem drain_swallows_displaced {items : List ExecSlot} {init : RunInit} {run : PlaybackRun}
    (built : PlaybackRun.newFromSlotItems items init = some run) {inputs : List DrainInput}
    (one : machine.Along OneOutstanding (start run) inputs) :
    machine.Along SwallowsDisplaced (start run) inputs := by
  obtain ⟨queue, -, initialized⟩ := Option.bind_eq_some_iff.mp built
  obtain ⟨initial, -, same⟩ := Option.map_eq_some_iff.mp initialized
  have lawful : Lawful (start run) := by
    subst same
    exact .inr (start_drains rfl rfl)
  exact Machine.along_of_invariant (fun _ _ lawful one => step_lawful lawful one)
    (fun _ input lawful _ => lawful.swallowsDisplaced input) lawful one

def film (slotId : UInt64) (id : String) : ExecSlot :=
  ⟨⟨slotId⟩, .emby ⟨id, id, "Movie", "Video", 1000, false, 0, "", 0, 0, ""⟩⟩

def oneFilm : Option PlaybackRun :=
  PlaybackRun.newFromSlotItems [film 1 "a"] { startIdx := 0, origin := .standalone }

/-- A submission into a playing run, whose end-files arrive before the new film ends. -/
theorem drain_swallows_displaced_film :
    ∃ run, oneFilm = some run ∧ machine.Along SwallowsDisplaced (start run)
      [.starts, .submit {} [film 2 "b"] 0, .starts, .deliver {}, .finishes .eof, .deliver {}] := by
  obtain ⟨run, built⟩ := Option.isSome_iff_exists.mp (show oneFilm.isSome by decide)
  have found : ∀ run ∈ oneFilm, machine.Along OneOutstanding (start run)
      [.starts, .submit {} [film 2 "b"] 0, .starts, .deliver {}, .finishes .eof, .deliver {}] := by
    decide
  exact ⟨run, built, drain_swallows_displaced built (found run built)⟩

/-- Two films are submitted and start before the run reads an event: the end-file of the second
    displaced film ends the run. A film submitted before the first one starts loses its own end. -/
theorem drain_misses_displaced_film :
    ∃ run, oneFilm = some run ∧
      ¬ machine.Along SwallowsDisplaced (start run)
        [.starts, .submit {} [film 2 "b"] 0, .starts, .submit {} [film 3 "c"] 0, .starts,
          .deliver {}, .deliver {}] ∧
      ¬ machine.Along SwallowsDisplaced (start run)
        [.submit {} [film 2 "b"] 0, .starts, .finishes .eof, .deliver {}] := by
  obtain ⟨run, built⟩ := Option.isSome_iff_exists.mp (show oneFilm.isSome by decide)
  have reached : ∀ run ∈ oneFilm,
      (let reached := machine.run (start run)
        [.starts, .submit {} [film 2 "b"] 0, .starts, .submit {} [film 3 "c"] 0, .starts,
          .deliver {}]
      reached.mpv.endFiles = [⟨1, true, .stop⟩] ∧ reached.thread.exited = false ∧
        reached.thread.run.loadIsReady = true) ∧
      (let reached := machine.run (start run) [.submit {} [film 2 "b"] 0, .starts, .finishes .eof]
      reached.mpv.endFiles = [⟨1, false, .eof⟩] ∧ reached.thread.exited = false ∧
        reached.submission = 1 ∧ reached.thread.run.loadIsReady = false) := by decide
  obtain ⟨⟨waits, alive, ready⟩, ⟨ends, plays, current, draining⟩⟩ := reached run built
  refine ⟨run, built, fun along => ?_, fun along => ?_⟩
  · have delivered := (@Machine.along_append _ _ machine SwallowsDisplaced (start run)
      [.starts, .submit {} [film 2 "b"] 0, .starts, .submit {} [film 3 "c"] 0, .starts,
        .deliver {}] [.deliver {}]).mp along
    have swallowed := (delivered.2.1 _ _ waits alive).1 (.inl rfl)
    exact Bool.false_ne_true (swallowed.1.symm.trans ready)
  · have delivered := (@Machine.along_append _ _ machine SwallowsDisplaced (start run)
      [.submit {} [film 2 "b"] 0, .starts, .finishes .eof] [.deliver {}]).mp along
    have kept := (delivered.2.1 _ _ ends plays).2 rfl current.symm
    exact Bool.false_ne_true (draining.symm.trans kept)

end DrainState

end Mbv.Player
