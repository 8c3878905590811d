import Mbv.Client.QueueSaves

namespace Mbv.Client

open Mbv.Queue List

namespace PlaylistApp

/-! ### What a mutation changes -/

/-- What no mutation touches. -/
def face (app : PlaylistApp) :
    QueueState × Option QueueState × Option Daemon.QueueLineage × Nat × Bool ×
      Option (Daemon.QueueSource × Daemon.QueueLineage) × Nat :=
  (app.localView, app.remoteView, app.ownerLineage, app.queueEpoch, app.queueDirty,
    app.pendingOwnerSourceUpdate, app.nextPlaylistMutation)

def nextFresh (app : PlaylistApp) (key : String) : Option PlaylistMutation :=
  (app.waiting key).find? fun mutation => !app.isStale mutation

/-- The mutations of one key move on: those left are among `queued`, and what is sent carries the
    local queue for the mutation numbered `first`. -/
structure Moves (app next : PlaylistApp) (key : String) (first : Option Nat) (queued : List Nat) :
    Prop where
  face : next.face = app.face
  other : ∀ other, other ≠ key → next.playlistMutations other = app.playlistMutations other
  idle : next.active key = none → next.playlistMutations key = none
  ids : ∀ mutation ∈ next.pending key, mutation.mutationId ∈ queued
  writes : ∃ sent, next.writes = app.writes ++ sent ∧
    ∀ write ∈ sent, write.queue = app.localView ∧ first = some write.request.mutationId

variable {app : PlaylistApp}

variable {key : String}

theorem pending_set {state : PlaylistMutationState} (set : app.playlistMutations key = some state) :
    app.pending key = state.active.toList ++ state.queued := by
  simp [pending, active, waiting, set]

theorem active_set {state : PlaylistMutationState} (set : app.playlistMutations key = some state) :
    app.active key = state.active := by
  simp [active, set]

theorem dispatch_moves {mutation : PlaylistMutation} {queued : List PlaylistMutation} : Moves app
        ((app.setMutations key (some ⟨some mutation, queued⟩)).dispatchPlaylistMutation key) key
        (some mutation.mutationId) ((mutation :: queued).map (·.mutationId)) ∧
      (((app.setMutations key (some ⟨some mutation, queued⟩)).dispatchPlaylistMutation key).active key).isSome = true := by
  cases present : app.embyClient with
  | true =>
    rw [app.dispatch_eq present]
    refine ⟨⟨rfl, fun other different => startedAt_other different, ?_, ?_, _, rfl, ?_⟩, ?_⟩
    · intro none
      simp [startedAt, keyStep, active] at none
    · intro other member
      have all := @startedAt_pending app key [] (mutation :: queued)
      rw [← all]
      exact mem_map_of_mem member
    · intro write sent
      cases mem_singleton.mp sent
      exact ⟨rfl, by simp⟩
    · simp [startedAt, keyStep, active]
  | false =>
    have stays : (app.setMutations key (some ⟨some mutation, queued⟩)).dispatchPlaylistMutation key =
        app.setMutations key (some ⟨some mutation, queued⟩) := by
      unfold dispatchPlaylistMutation
      exact if_neg (by simpa [setMutations] using present)
    have set : (app.setMutations key (some ⟨some mutation, queued⟩)).playlistMutations key =
        some ⟨some mutation, queued⟩ := Function.update_self ..
    rw [stays]
    refine ⟨⟨rfl, fun other different => Function.update_of_ne different .., ?_, ?_, [], ?_, fun _ sent => by cases sent⟩, ?_⟩
    · intro none
      simp [active, set] at none
    · intro other member
      rw [pending_set set] at member
      exact mem_map_of_mem member
    · exact (append_nil _).symm
    · simp [active, set]

theorem Moves.after_discard {next : PlaylistApp} {mutation : PlaylistMutation}
    {state : Option PlaylistMutationState} {first : Option Nat} {queued : List Nat} {id : Nat}
    (moves : Moves ((app.setMutations key state).recordDiscard key mutation) next key first queued) :
    Moves app next key first (id :: queued) where
  face := moves.face
  other other different := (moves.other other different).trans (Function.update_of_ne different ..)
  idle := moves.idle
  ids mutation member := mem_cons_of_mem _ (moves.ids mutation member)
  writes := moves.writes

theorem startNext_moves (key : String) (queued : List PlaylistMutation) : Moves app (app.startNext key queued) key
        ((queued.find? fun mutation => !app.isStale mutation).map (·.mutationId))
        (queued.map (·.mutationId)) ∧
      ((app.startNext key queued).active key).isSome = (queued.find? fun mutation => !app.isStale mutation).isSome := by
  induction queued generalizing app with
  | nil =>
    have set : (app.setMutations key none).playlistMutations key = none := Function.update_self ..
    refine ⟨⟨rfl, fun other different => Function.update_of_ne different .., fun _ => set, ?_, [],
      (append_nil _).symm, by simp⟩, ?_⟩
    · intro mutation member
      simp [startNext, pending, active, waiting, set] at member
    · simp [startNext, active, set]
  | cons next queued ih =>
    cases stale : app.isStale next with
    | true =>
      let skips := (app.setMutations key (some ⟨some next, queued⟩)).recordDiscard key next
      have same : skips.isStale = app.isStale := by simp [skips, recordDiscard]
      have rest := @ih skips
      have goes : app.startNext key (next :: queued) = skips.startNext key queued := by
        simp only [startNext, isStale_setMutations, stale, ↓reduceIte]
        rfl
      rw [goes, List.find?_cons_of_neg (by simp [stale]), ← same]
      exact ⟨rest.1.after_discard, rest.2⟩
    | false =>
      have goes : app.startNext key (next :: queued) =
          (app.setMutations key (some ⟨some next, queued⟩)).dispatchPlaylistMutation key := by
        simp only [startNext, isStale_setMutations, stale, Bool.false_eq_true, ↓reduceIte]
      rw [goes, List.find?_cons_of_pos (by simp [stale])]
      exact dispatch_moves

theorem finish_moves {mutationId : Nat} (ends : app.activeId key = some mutationId) :
    Moves app (app.finishPlaylistMutation key mutationId) key
        ((app.nextFresh key).map (·.mutationId)) ((app.waiting key).map (·.mutationId)) ∧
      ((app.finishPlaylistMutation key mutationId).active key).isSome = (app.nextFresh key).isSome := by
  rw [finish_active app ends]
  exact startNext_moves key (app.waiting key)

theorem enqueue_moves {mutation : PlaylistMutation} (idle : app.active key = none → app.playlistMutations key = none) :
    Moves app (app.enqueuePlaylistMutation key mutation) key (some mutation.mutationId)
        (mutation.mutationId :: (app.pending key).map (·.mutationId)) ∧
      ((app.active key).isSome = true → ((app.enqueuePlaylistMutation key mutation).active key).isSome = true ∧
        (app.enqueuePlaylistMutation key mutation).writes = app.writes) := by
  let recorded := app.recordKey key fun record =>
    { record with requested := record.requested ++ [mutation.mutationId] }
  cases running : app.active key with
  | some first =>
    cases found : app.playlistMutations key with
    | none => simp [active, found] at running
    | some state =>
      have active : state.active = some first := by simpa [active, found] using running
      have goes : app.enqueuePlaylistMutation key mutation =
          recorded.setMutations key (some { state with queued := state.queued ++ [mutation] }) := by
        simp [enqueuePlaylistMutation, recorded, recordKey, found, active]
      have set : (recorded.setMutations key (some { state with queued := state.queued ++ [mutation] })).playlistMutations key =
          some { state with queued := state.queued ++ [mutation] } := Function.update_self ..
      rw [goes]
      refine ⟨⟨rfl, fun other different => Function.update_of_ne different .., ?_, ?_, [],
        (append_nil _).symm, fun _ sent => by cases sent⟩, fun _ => ⟨?_, rfl⟩⟩
      · intro none
        cases active.symm.trans ((active_set set).symm.trans none)
      · intro other member
        rw [pending_set set] at member
        rw [pending_set found]
        rcases mem_append.mp member with here | more
        · exact mem_cons_of_mem _ (mem_map_of_mem (mem_append_left _ here))
        rcases mem_append.mp more with waits | new
        · exact mem_cons_of_mem _ (mem_map_of_mem (mem_append_right _ waits))
        · rw [mem_singleton.mp new]
          exact mem_cons_self
      · rw [active_set set, active]
        rfl
  | none =>
    have found := idle running
    have started := startNext_cons recorded key mutation []
    have goes : app.enqueuePlaylistMutation key mutation = recorded.startNext key [mutation] := by
      rw [started]
      simp [enqueuePlaylistMutation, recorded, recordKey, found]
    have moves := (@startNext_moves recorded key [mutation]).1
    rw [goes]
    refine ⟨⟨moves.face, moves.other, moves.idle, fun other member => ?_, ?_⟩, fun some => by cases some⟩
    · have among := moves.ids other member
      exact mem_cons.mpr (Or.inl (by simpa using among))
    · obtain ⟨sent, writes, each⟩ := moves.writes
      refine ⟨sent, writes, fun write member => ?_⟩
      obtain ⟨queue, number⟩ := each write member
      refine ⟨queue, ?_⟩
      cases stale : recorded.isStale mutation <;> simp_all [List.find?]

end PlaylistApp

def ShownAnswer.loads (answer : ShownAnswer) : Bool :=
  answer.adopted.getLast?.any fun (link, shown) => link == .localOwner && shown.news == .loaded

namespace SavedApp

variable (saved : SavedApp)

/-! ### What holds of every run -/

def AllSettled : Prop :=
  ∀ playlistId ∈ saved.app.localView.playlistId, saved.edits ≤ saved.settled playlistId

instance : Decidable saved.AllSettled := by unfold AllSettled; infer_instance

/-- A queue that is shown as clean, with no save of its playlist out, has nothing left to save; an
    operation its Owner did not apply left the flag alone; and what an autosave sent does not show
    the slot whose consumption asked for it. -/
structure NothingToSave : Prop where
  clean : ∀ playlistId, saved.app.localView.playlistId = some playlistId →
    saved.app.queueDirty = false → saved.app.active playlistId = none →
    saved.edits ≤ saved.settled playlistId
  refused : ∀ refusal ∈ saved.refusals, refusal.2 = refusal.1
  autosaved : ∀ autosave ∈ saved.autosaves, ∀ write ∈ saved.app.writes,
    write.request.mutationId = autosave.1 → ∀ slot ∈ write.queue.slots, slot.slotId ≠ autosave.2

/-! ### What has to hold of each step -/

/-- Whether a state confirms the source a saved-as playlist gave the queue. -/
def confirms (state : QueueState) : Bool :=
  saved.app.pendingOwnerSourceUpdate.any fun (source, lineage) =>
    state.lineage == lineage && state.source == source

/-- An adopted state brings no edit and changes neither playlist nor flag; or the queue stays dirty;
    or a save of its playlist is out, or all it shows is settled. -/
def StateSafe (confirms : Bool) (state : QueueState) (count : Nat) : Prop :=
  (count = 0 ∧ state.playlistId = saved.app.localView.playlistId ∧ confirms = false) ∨
    (saved.app.queueDirty = true ∧ confirms = false) ∨
    ∀ playlistId ∈ state.playlistId,
      (saved.app.active playlistId).isSome = true ∨
        saved.edits + count ≤ saved.settled playlistId

instance (confirms : Bool) (state : QueueState) (count : Nat) :
    Decidable (saved.StateSafe confirms state count) := by
  unfold StateSafe; infer_instance

def ShownSafe (shown : QueueLink × ShownState) : Prop :=
  match shown with
  | (.localOwner, ⟨state, .edited count⟩) => saved.StateSafe (saved.confirms state) state count
  | _ => True

instance (shown : QueueLink × ShownState) : Decidable (saved.ShownSafe shown) := by
  unfold ShownSafe; split <;> infer_instance

def AdoptsSafe : SavedApp → List (QueueLink × ShownState) → Prop
  | _, [] => True
  | saved, shown :: adopted =>
    saved.ShownSafe shown ∧ AdoptsSafe (saved.adopt shown.1 shown.2) adopted

instance AdoptsSafe.decide : ∀ (saved : SavedApp) (adopted : List (QueueLink × ShownState)),
    Decidable (saved.AdoptsSafe adopted)
  | _, [] => isTrue True.intro
  | saved, shown :: adopted =>
    have := AdoptsSafe.decide (saved.adopt shown.1 shown.2) adopted
    inferInstanceAs (Decidable (_ ∧ _))

/-- Where `clearing` lowers the flag of a dirty queue, it takes an operation that is applied and
    shows another queue, or edits the user gave up. -/
def ReplaceSafe (clearing refused : Bool) (answer : ShownAnswer) : Prop :=
  (clearing = true → refused = true → saved.app.queueDirty = false) ∧
    (answer.loads = true ∨
      (clearing = true → saved.app.queueDirty = false ∨ saved.AllSettled) ∧
        (if clearing then saved.cleared else saved).AdoptsSafe answer.adopted)

instance (clearing refused : Bool) (answer : ShownAnswer) :
    Decidable (saved.ReplaceSafe clearing refused answer) := by
  unfold ReplaceSafe; infer_instance

def clearing : Bool := saved.app.localQueueMetadataApplies saved.app.playingQueueLink

def ActSafe (action : PendingQueueAction) (answer : ShownAnswer) : Prop :=
  match action with
  | .playItems =>
    if answer.disconnected then saved.clearing = true → saved.app.queueDirty = false
    else saved.ReplaceSafe saved.clearing (answer.edit == .notApplied) answer
  | .clearQueue =>
    if (saved.app.queueForLink saved.app.playingQueueLink).slots.isEmpty then
      saved.clearing = true → saved.app.queueDirty = false ∨ saved.AllSettled
    else saved.ReplaceSafe saved.clearing (answer.edit == .notApplied) answer

instance (action : PendingQueueAction) (answer : ShownAnswer) :
    Decidable (saved.ActSafe action answer) := by
  unfold ActSafe
  cases action <;> dsimp only <;> split <;> infer_instance

/-- The last save of the local queue's playlist ends while the queue is dirty, or with every edit
    settled; and what starts next no longer shows the slot it was asked for. -/
def FinishSafe (key : String) : Prop :=
  (saved.app.localView.playlistId = some key →
    saved.app.queueDirty = true ∨ (saved.app.nextFresh key).isSome = true ∨
      saved.edits ≤ saved.settled key) ∧
  ∀ mutation ∈ saved.app.nextFresh key, ∀ autosave ∈ saved.autosaves,
    autosave.1 = mutation.mutationId →
      ∀ slot ∈ saved.app.localView.slots, slot.slotId ≠ autosave.2

instance (key : String) : Decidable (saved.FinishSafe key) := by
  unfold FinishSafe; infer_instance

def ClearSafe (index : Nat) (result : Option String) : PlaylistRequest → Prop
  | .save mutationId playlistId origin source _ =>
    let taken := saved.withApp (saved.app.takeOnSaveComplete mutationId).2
    let written := if result.isSome then taken.settleCarried index playlistId else taken
    written.clears origin source result.isSome = true →
      written.AllSettled ∨ written.app.localView.playlistId = some playlistId ∧
        (written.app.active playlistId).isSome = true
  | _ => True

instance (index : Nat) (result : Option String) (request : PlaylistRequest) :
    Decidable (saved.ClearSafe index result request) := by
  unfold ClearSafe; cases request <;> infer_instance

/-- The playlist a request that is no save wrote. -/
def created (result : Option String) (index : Nat) : SavedApp :=
  result.elim saved fun id => saved.settleCarried index id

def SourceSafe (index : Nat) (result : Option String) (answer : ShownAnswer)
    (request : PlaylistRequest) : Prop :=
  saved.appliesSource result request = true →
    (saved.created result index).AdoptsSafe answer.adopted

instance (index : Nat) (result : Option String) (answer : ShownAnswer)
    (request : PlaylistRequest) : Decidable (saved.SourceSafe index result answer request) := by
  unfold SourceSafe; infer_instance

def CompletionSafe (index : Nat) (result : Option String) (answer : ShownAnswer)
    (request : PlaylistRequest) : Prop :=
  let started := saved.withApp (saved.app.requestCompleted request)
  let concluded := started.concluded index result answer request
  let finished := concluded.finish request
  started.ClearSafe index result request ∧ started.SourceSafe index result answer request ∧
    (concluded.app.activeId request.key = some request.mutationId →
      concluded.FinishSafe request.key) ∧
    ∀ action ∈ started.deferred result request finished, finished.ActSafe action answer

instance (index : Nat) (result : Option String) (answer : ShownAnswer)
    (request : PlaylistRequest) : Decidable (saved.CompletionSafe index result answer request) := by
  unfold CompletionSafe; infer_instance

/-- The consumption of a slot asks for no save, or for one that waits behind another. -/
def ConsumeSafe (slotId : QueueSlotId) (saveOnConsume : Bool) : Prop :=
  saved.app.playbackQueue.slots.any (·.slotId == slotId) = true → saveOnConsume = true →
    saved.app.remoteView = none → ∀ playlistId ∈ saved.app.queuePlaylistId,
      saved.app.ownerLineage.isSome = true ∧ (saved.app.active playlistId).isSome = true ∧
        saved.app.nextPlaylistMutation < u64Max

instance (slotId : QueueSlotId) (saveOnConsume : Bool) :
    Decidable (saved.ConsumeSafe slotId saveOnConsume) := by
  unfold ConsumeSafe; infer_instance

def Saves (input : SavedInput) : Prop :=
  match input with
  | .saved | .answeredSave | .savedAs _ | .overwritten .. =>
    saved.app.nextPlaylistMutation < u64Max
  | .consumed slotId saveOnConsume => saved.ConsumeSafe slotId saveOnConsume
  | .answeredDiscard answer =>
    match saved.app.takeOnDiscard with
    | (some action, app) => (saved.withApp app).settleShown.ActSafe action answer
    | (none, _) => True
  | .completed index result answer =>
    ∀ write ∈ saved.app.writes[index]?, saved.CompletionSafe index result answer write.request
  | .edited link answer =>
    answer.edit ≠ .notApplied ∧ saved.app.localQueueMetadataApplies link = true ∨
      saved.AdoptsSafe answer.adopted
  | .otherOp answer => saved.AdoptsSafe answer.adopted
  | .played answer =>
    answer.disconnected = true ∨
      saved.ReplaceSafe saved.app.remoteView.isNone (answer.edit == .notApplied) answer
  | .acted action answer => saved.ActSafe action answer
  | .snapshot link shown => saved.ShownSafe (link, shown)
  | .switched (some ⟨state, .edited count⟩) _ => saved.StateSafe false state count
  | _ => True

instance (input : SavedInput) : Decidable (saved.Saves input) := by
  cases input with
  | answeredDiscard answer => unfold Saves; dsimp only; split <;> infer_instance
  | switched shown remoteView =>
    rcases shown with _ | ⟨state, _ | count⟩ <;> unfold Saves <;> infer_instance
  | _ => unfold Saves; infer_instance

/-! ### The invariant -/

def Clean : Prop :=
  ∀ playlistId, saved.app.localView.playlistId = some playlistId →
    saved.app.queueDirty = false → saved.app.active playlistId = none →
    saved.edits ≤ saved.settled playlistId

def Refused : Prop := ∀ refusal ∈ saved.refusals, refusal.2 = refusal.1

/-- The mutations are numbered below the counter, and an autosave's write does not show its slot. -/
structure Numbered : Prop where
  idle : ∀ key, saved.app.active key = none → saved.app.playlistMutations key = none
  pending : ∀ key, ∀ mutation ∈ saved.app.pending key,
    mutation.mutationId < saved.app.nextPlaylistMutation
  writes : ∀ write ∈ saved.app.writes,
    write.request.mutationId < saved.app.nextPlaylistMutation
  autosaves : ∀ autosave ∈ saved.autosaves, autosave.1 < saved.app.nextPlaylistMutation
  autosaved : ∀ autosave ∈ saved.autosaves, ∀ write ∈ saved.app.writes,
    write.request.mutationId = autosave.1 → ∀ slot ∈ write.queue.slots, slot.slotId ≠ autosave.2

structure Kept : Prop where
  clean : saved.Clean
  refused : saved.Refused
  numbered : saved.Numbered

variable {saved}

theorem Kept.law (kept : saved.Kept) : saved.NothingToSave := ⟨kept.clean, kept.refused, kept.numbered.autosaved⟩

variable {next : SavedApp}

theorem Numbered.same (numbered : saved.Numbered) (lines : next.app.lines = saved.app.lines)
    (autosaves : next.autosaves = saved.autosaves) :
    next.Numbered := by
  have mutations : next.app.playlistMutations = saved.app.playlistMutations := congrArg (·.1) lines
  have counter : next.app.nextPlaylistMutation = saved.app.nextPlaylistMutation := congrArg (·.2.2.1) lines
  have writes : next.app.writes = saved.app.writes := congrArg (·.2.2.2) lines
  constructor
  · intro key none
    rw [mutations]
    apply numbered.idle key
    unfold PlaylistApp.active at none ⊢
    rw [← mutations]
    exact none
  · intro key mutation member
    rw [counter]
    apply numbered.pending key mutation
    unfold PlaylistApp.pending PlaylistApp.active PlaylistApp.waiting at member ⊢
    rw [← mutations]
    exact member
  · rw [writes, counter]
    exact numbered.writes
  · rw [autosaves, counter]
    exact numbered.autosaves
  · rw [autosaves, writes]
    exact numbered.autosaved

theorem Numbered.framed (numbered : saved.Numbered) (frame : next.app.frame = saved.app.frame)
    (autosaves : next.autosaves = saved.autosaves) :
    next.Numbered := numbered.same (congrArg (·.1) frame) autosaves

theorem Clean.same (clean : saved.Clean) (view : next.app.localView = saved.app.localView)
    (dirty : next.app.queueDirty = saved.app.queueDirty)
    (mutations : next.app.playlistMutations = saved.app.playlistMutations)
    (edits : next.edits = saved.edits) (settled : next.settled = saved.settled) : next.Clean := by
  intro playlistId source undirty inactive
  rw [edits, settled]
  apply clean playlistId (view ▸ source) (dirty ▸ undirty)
  unfold PlaylistApp.active at inactive ⊢
  rw [← mutations]
  exact inactive

theorem Clean.of_allSettled (all : saved.AllSettled) : saved.Clean := fun playlistId source _ _ => all playlistId source

theorem Clean.of_dirty (dirty : saved.app.queueDirty = true) : saved.Clean :=
  fun _ _ undirty _ => absurd (undirty.symm.trans dirty) Bool.false_ne_true

theorem Clean.of_no_edits (none : saved.edits = 0) : saved.Clean := fun _ _ _ _ => none ▸ Nat.zero_le _

/-! ### Adopting -/

theorem adopt_local_view (state : QueueState) (app : PlaylistApp) : (app.adopt .localOwner state).localView = state := by
  unfold PlaylistApp.adopt PlaylistApp.adoptOwnerSource
  dsimp only
  split
  · rfl
  · split
    · rfl
    · split <;> rfl

theorem adopt_local_dirty (state : QueueState) : (saved.app.adopt .localOwner state).queueDirty =
      (saved.app.queueDirty && !saved.confirms state) := by
  unfold PlaylistApp.adopt PlaylistApp.adoptOwnerSource confirms
  dsimp only
  cases saved.app.pendingOwnerSourceUpdate with
  | none => simp
  | some update =>
    obtain ⟨source, lineage⟩ := update
    dsimp only [Option.any_some]
    by_cases same : state.lineage = lineage
    · rw [if_neg (not_not.mpr same)]
      by_cases confirmed : state.source = source
      · rw [if_pos confirmed]
        simp [same, confirmed]
      · rw [if_neg confirmed]
        simp [same, confirmed]
    · rw [if_pos same]
      simp [same]

@[simp] theorem adopt_autosaves (link : QueueLink) (shown : ShownState) :
    (saved.adopt link shown).autosaves = saved.autosaves := by
  cases link
  · unfold adopt bring
    dsimp only
    split <;> rfl
  · rfl

@[simp] theorem adopt_refusals (link : QueueLink) (shown : ShownState) : (saved.adopt link shown).refusals = saved.refusals := by
  cases link
  · unfold adopt bring
    dsimp only
    split <;> rfl
  · rfl

theorem adopt_frame (link : QueueLink) (shown : ShownState) : (saved.adopt link shown).app.frame = saved.app.frame := by
  rw [adopt_app]
  exact PlaylistApp.frame_adopt ..

theorem active_of_frame {next app : PlaylistApp} (frame : next.frame = app.frame) (key : String) :
    next.active key = app.active key := by
  have mutations : next.playlistMutations = app.playlistMutations := congrArg (·.1.1) frame
  unfold PlaylistApp.active
  rw [mutations]

theorem Clean.shows {confirms : Bool} {state : QueueState} {count : Nat} (clean : saved.Clean)
    (safe : saved.StateSafe confirms state count) (view : next.app.localView = state)
    (dirty : next.app.queueDirty = (saved.app.queueDirty && !confirms))
    (active : ∀ key, next.app.active key = saved.app.active key)
    (edits : next.edits = saved.edits + count) (settled : next.settled = saved.settled) :
    next.Clean := by
  intro playlistId source undirty inactive
  rw [view] at source
  rw [dirty] at undirty
  rw [active] at inactive
  rw [edits, settled]
  rcases safe with ⟨none, same, unconfirmed⟩ | ⟨was, unconfirmed⟩ | either
  · subst none
    rw [unconfirmed, Bool.not_false, Bool.and_true] at undirty
    exact clean playlistId (same ▸ source) undirty inactive
  · rw [was, unconfirmed] at undirty
    cases undirty
  · rcases either playlistId source with out | settled
    · rw [inactive] at out
      cases out
    · exact settled

theorem Clean.adopt {link : QueueLink} {shown : ShownState} (clean : saved.Clean)
    (safe : saved.ShownSafe (link, shown)) : (saved.adopt link shown).Clean := by
  have active := active_of_frame (saved.adopt_frame link shown)
  cases link with
  | peer => exact clean.same rfl rfl rfl rfl rfl
  | localOwner =>
    obtain ⟨state, news⟩ := shown
    cases news with
    | loaded => exact Clean.of_no_edits rfl
    | edited count =>
      have app := @adopt_app saved .localOwner ⟨state, .edited count⟩
      have view := adopt_local_view state saved.app
      have dirty := saved.adopt_local_dirty state
      rw [← app] at view dirty
      exact clean.shows safe view dirty active rfl rfl

theorem Clean.adoptAll {adopted : List (QueueLink × ShownState)} (clean : saved.Clean)
    (safe : saved.AdoptsSafe adopted) : (saved.adoptAll adopted).Clean := by
  induction adopted generalizing saved with
  | nil => exact clean
  | cons shown adopted ih => exact ih (clean.adopt safe.1) safe.2

theorem adoptAll_record (adopted : List (QueueLink × ShownState)) :
    (saved.adoptAll adopted).autosaves = saved.autosaves ∧ (saved.adoptAll adopted).refusals = saved.refusals ∧
      (saved.adoptAll adopted).app.frame = saved.app.frame := by
  induction adopted generalizing saved with
  | nil => exact ⟨rfl, rfl, rfl⟩
  | cons shown adopted ih =>
    obtain ⟨autosaves, refusals, frame⟩ := @ih (saved.adopt shown.1 shown.2)
    exact ⟨autosaves.trans (adopt_autosaves ..), refusals.trans (adopt_refusals ..), frame.trans (adopt_frame ..)⟩

variable {answer : ShownAnswer}

theorem adoptAll_loads (loads : answer.loads = true) : (saved.adoptAll answer.adopted).edits = 0 := by
  unfold ShownAnswer.loads at loads
  obtain ⟨⟨link, shown⟩, last, both⟩ := Option.any_eq_true .. |>.mp loads
  obtain ⟨before, split⟩ := List.getLast?_eq_some_iff.mp last
  obtain ⟨here, news⟩ := Bool.and_eq_true_iff.mp both
  have link : link = .localOwner := by simpa using here
  have news : shown.news = .loaded := by simpa using news
  unfold adoptAll
  rw [split, foldl_append, link]
  change (SavedApp.bring _ shown.news).edits = 0
  rw [news]
  rfl

theorem adoptAll_undirty {adopted : List (QueueLink × ShownState)} (undirty : saved.app.queueDirty = false) :
    (saved.adoptAll adopted).app.queueDirty = false := by
  induction adopted generalizing saved with
  | nil => exact undirty
  | cons shown adopted ih =>
    apply ih
    rw [adopt_app]
    cases shown.1 with
    | peer => exact undirty
    | localOwner => rw [adopt_local_dirty, undirty, Bool.false_and]

theorem adoptAll_remote (adopted : List (QueueLink × ShownState)) :
    (saved.adoptAll adopted).app.remoteView.isNone = saved.app.remoteView.isNone := by
  induction adopted generalizing saved with
  | nil => rfl
  | cons shown adopted ih =>
    refine (@ih (saved.adopt shown.1 shown.2)).trans ?_
    rw [adopt_app]
    cases shown.1 with
    | peer =>
      change (saved.app.remoteView.map _).isNone = _
      rw [Option.isNone_map]
    | localOwner =>
      unfold PlaylistApp.adopt PlaylistApp.adoptOwnerSource
      dsimp only
      split
      · rfl
      · split
        · rfl
        · split <;> rfl

/-! ### Queue actions -/

theorem cleared_of_clean (undirty : saved.app.queueDirty = false) : saved.cleared = saved := by
  unfold cleared withApp
  rw [← undirty]

theorem Kept.adopts {adopted : List (QueueLink × ShownState)} (kept : saved.Kept)
    (safe : saved.AdoptsSafe adopted) : (saved.adoptAll adopted).Kept := by
  obtain ⟨autosaves, refusals, frame⟩ := saved.adoptAll_record adopted
  refine ⟨kept.clean.adoptAll safe, ?_, kept.numbered.framed frame autosaves⟩
  unfold Refused
  rw [refusals]
  exact kept.refused

theorem Kept.flag {app : PlaylistApp} (kept : saved.Kept) (lines : app.lines = saved.app.lines)
    (clean : (saved.withApp app).Clean) : (saved.withApp app).Kept :=
  ⟨clean, kept.refused, kept.numbered.same lines rfl⟩

theorem Kept.refuse {untouched : Bool} (kept : saved.Kept)
    (same : saved.app.queueDirty = untouched) : (saved.refuse untouched).Kept := by
  refine ⟨kept.clean, fun refusal member => ?_, kept.numbered.same rfl rfl⟩
  rcases mem_append.mp member with earlier | last
  · exact kept.refused refusal earlier
  · rw [mem_singleton.mp last]
    exact same

theorem Kept.replaced {clearing refused : Bool} (kept : saved.Kept) (safe : saved.ReplaceSafe clearing refused answer) :
    ((if clearing then saved.cleared else saved).adoptAll answer.adopted).Kept ∧
      (refused = true → (if clearing then saved.cleared else saved) = saved) := by
  obtain ⟨undirty, brings⟩ := safe
  constructor
  · have lines : (if clearing then saved.cleared else saved).app.lines = saved.app.lines := by
      split <;> rfl
    have record : (if clearing then saved.cleared else saved).autosaves = saved.autosaves ∧
        (if clearing then saved.cleared else saved).refusals = saved.refusals := by
      split <;> exact ⟨rfl, rfl⟩
    obtain ⟨autosaves, refusals, frame⟩ := (if clearing then saved.cleared else saved).adoptAll_record answer.adopted
    refine ⟨?_, ?_, kept.numbered.same ((congrArg (·.1) frame).trans lines) (autosaves.trans record.1)⟩
    · rcases brings with loads | ⟨lowered, adopts⟩
      · exact Clean.of_no_edits (adoptAll_loads loads)
      · refine Clean.adoptAll ?_ adopts
        cases clearing with
        | false => exact kept.clean
        | true =>
          rcases lowered rfl with was | all
          · rw [if_pos rfl, cleared_of_clean was]
            exact kept.clean
          · exact Clean.of_allSettled all
    · unfold Refused
      rw [refusals, record.2]
      exact kept.refused
  · intro isRefused
    cases clearing with
    | false => rfl
    | true => exact cleared_of_clean (undirty rfl isRefused)

theorem Kept.playItems (kept : saved.Kept) (safe : saved.ActSafe .playItems answer) :
    (saved.executePendingQueueAction .playItems answer).Kept := by
  unfold ActSafe at safe
  change (saved.executePendingPlayItems (if saved.clearing = true then saved.cleared else saved) answer).Kept
  unfold executePendingPlayItems
  cases lost : answer.disconnected with
  | true =>
    rw [lost] at safe
    have same : (if saved.clearing = true then saved.cleared else saved) = saved := by
      split
      · rename_i clearing
        exact cleared_of_clean (safe clearing)
      · rfl
    rw [same]
    exact kept.refuse rfl
  | false =>
    rw [lost] at safe
    obtain ⟨replaced, untouched⟩ := kept.replaced safe
    rw [if_neg Bool.false_ne_true]
    unfold queueOp
    cases edit : answer.edit with
    | notApplied =>
      rw [edit] at untouched
      have same := untouched rfl
      rw [same] at replaced ⊢
      exact replaced.refuse rfl
    | _ => exact replaced

theorem Kept.clearQueue (kept : saved.Kept) (safe : saved.ActSafe .clearQueue answer) :
    (saved.executePendingQueueAction .clearQueue answer).Kept := by
  unfold ActSafe at safe
  dsimp only at safe
  change (saved.executePendingQueueClear (if saved.clearing = true then saved.cleared else saved) answer).Kept
  unfold executePendingQueueClear
  dsimp only
  by_cases empty : (saved.app.queueForLink saved.app.playingQueueLink).slots.isEmpty = true
  · rw [if_pos empty] at safe ⊢
    cases clearing : saved.clearing with
    | false => exact kept
    | true =>
      rcases safe clearing with undirty | all
      · rw [if_pos rfl, cleared_of_clean undirty]
        exact kept
      · exact kept.flag rfl (Clean.of_allSettled all)
  · rw [if_neg empty] at safe ⊢
    obtain ⟨replaced, untouched⟩ := kept.replaced safe
    unfold queueOp
    have lowers : answer.edit ≠ .notApplied →
        (((if saved.clearing = true then saved.cleared else saved).adoptAll answer.adopted).withApp
          (if ((if saved.clearing = true then saved.cleared else saved).adoptAll
              answer.adopted).app.localQueueMetadataApplies saved.app.playingQueueLink = true then
            ((if saved.clearing = true then saved.cleared else saved).adoptAll answer.adopted).app.clearLocalQueueMetadata
          else ((if saved.clearing = true then saved.cleared else saved).adoptAll
            answer.adopted).app).advanceQueueEpoch).Kept := by
      intro _
      let touched := if saved.clearing = true then saved.cleared else saved
      have remote : (touched.adoptAll answer.adopted).app.remoteView.isNone =
          saved.app.remoteView.isNone := by
        refine (adoptAll_remote answer.adopted).trans ?_
        dsimp only [touched]
        split <;> rfl
      have applies : (touched.adoptAll answer.adopted).app.localQueueMetadataApplies
          saved.app.playingQueueLink = saved.clearing := by
        unfold PlaylistApp.localQueueMetadataApplies clearing PlaylistApp.localQueueMetadataApplies
        rw [remote]
      change ((touched.adoptAll answer.adopted).withApp
        (if (touched.adoptAll answer.adopted).app.localQueueMetadataApplies saved.app.playingQueueLink = true then
            (touched.adoptAll answer.adopted).app.clearLocalQueueMetadata
          else (touched.adoptAll answer.adopted).app).advanceQueueEpoch).Kept
      rw [applies]
      cases clearing : saved.clearing with
      | false =>
        exact replaced.flag rfl (replaced.clean.same rfl rfl rfl rfl rfl)
      | true =>
        have undirty : (touched.adoptAll answer.adopted).app.queueDirty = false := by
          apply adoptAll_undirty
          dsimp only [touched]
          rw [clearing]
          rfl
        exact replaced.flag rfl (replaced.clean.same rfl undirty.symm rfl rfl rfl)
    cases edit : answer.edit with
    | notApplied =>
      rw [edit] at untouched
      have same := untouched rfl
      rw [same] at replaced ⊢
      exact replaced.refuse rfl
    | _ => exact lowers (by rw [edit]; nofun)

theorem Kept.act {action : PendingQueueAction} (kept : saved.Kept) (safe : saved.ActSafe action answer) :
    (saved.executePendingQueueAction action answer).Kept := by
  cases action with
  | playItems => exact kept.playItems safe
  | clearQueue => exact kept.clearQueue safe

theorem Kept.played (kept : saved.Kept) (safe : answer.disconnected = true ∨
      saved.ReplaceSafe saved.app.remoteView.isNone (answer.edit == .notApplied) answer) :
    (saved.playItemsRouted answer).Kept := by
  unfold playItemsRouted
  by_cases lost : answer.disconnected = true
  · rw [if_pos lost]
    exact kept
  · rw [if_neg lost]
    obtain ⟨replaced, untouched⟩ := kept.replaced (safe.resolve_left lost)
    have same : (if saved.app.remoteView.isSome = true then saved else saved.cleared) =
        (if saved.app.remoteView.isNone = true then saved.cleared else saved) := by
      cases saved.app.remoteView <;> rfl
    dsimp only
    rw [same]
    unfold queueOp
    cases edit : answer.edit with
    | notApplied =>
      rw [edit] at untouched
      have same := untouched rfl
      rw [same] at replaced ⊢
      exact replaced.refuse rfl
    | _ => exact replaced

theorem Kept.edited {link : QueueLink} (kept : saved.Kept)
    (safe : answer.edit ≠ .notApplied ∧ saved.app.localQueueMetadataApplies link = true ∨
      saved.AdoptsSafe answer.adopted) : (saved.queueEdit link answer).Kept := by
  obtain ⟨autosaves, refusals, frame⟩ := saved.adoptAll_record answer.adopted
  have numbered := kept.numbered.framed frame autosaves
  have refused : (saved.adoptAll answer.adopted).Refused := by
    unfold Refused
    rw [refusals]
    exact kept.refused
  have applies : (saved.adoptAll answer.adopted).app.localQueueMetadataApplies link =
      saved.app.localQueueMetadataApplies link := by
    unfold PlaylistApp.localQueueMetadataApplies
    rw [adoptAll_remote]
  have marks : answer.edit ≠ .notApplied → ((saved.adoptAll answer.adopted).withApp
        (if (saved.adoptAll answer.adopted).app.localQueueMetadataApplies link = true then
          { (saved.adoptAll answer.adopted).app with queueDirty := true }
        else (saved.adoptAll answer.adopted).app).advanceQueueEpoch).Kept := by
    intro applied
    rw [applies]
    cases local_ : saved.app.localQueueMetadataApplies link with
    | true => exact ⟨Clean.of_dirty rfl, refused, numbered.same rfl rfl⟩
    | false =>
      have adopts := safe.resolve_left (fun both => by rw [local_] at both; cases both.2)
      exact ⟨(kept.clean.adoptAll adopts).same rfl rfl rfl rfl rfl, refused, numbered.same rfl rfl⟩
  unfold queueEdit queueOp
  cases edit : answer.edit with
  | notApplied =>
    have adopts := safe.resolve_left (fun both => both.1 edit)
    exact kept.adopts adopts
  | _ => exact marks (by rw [edit]; nofun)

/-! ### Requests and completions -/

theorem Numbered.moves {next : PlaylistApp} {key : String} {first : Option Nat} {queued : List Nat} (numbered : saved.Numbered)
    (moves : PlaylistApp.Moves saved.app next key first queued)
    (below : ∀ id ∈ queued, id < saved.app.nextPlaylistMutation)
    (started : ∀ id, first = some id → id < saved.app.nextPlaylistMutation ∧
      ∀ autosave ∈ saved.autosaves, autosave.1 = id → ∀ slot ∈ saved.app.localView.slots, slot.slotId ≠ autosave.2) :
    (saved.send next).Numbered := by
  have counter : next.nextPlaylistMutation = saved.app.nextPlaylistMutation := congrArg (·.2.2.2.2.2.2) moves.face
  obtain ⟨sent, writes, each⟩ := moves.writes
  have others : ∀ other, other ≠ key → next.active other = saved.app.active other ∧
      next.pending other = saved.app.pending other := by
    intro other different
    unfold PlaylistApp.pending PlaylistApp.active PlaylistApp.waiting
    rw [moves.other other different]
    exact ⟨rfl, rfl⟩
  constructor
  · intro other none
    by_cases same : other = key
    · subst same
      exact moves.idle none
    · refine (moves.other other same).trans (numbered.idle other ?_)
      exact (others other same).1.symm.trans none
  · intro other mutation member
    change mutation.mutationId < next.nextPlaylistMutation
    rw [counter]
    by_cases same : other = key
    · subst same
      exact below _ (moves.ids mutation member)
    · exact numbered.pending other mutation ((others other same).2 ▸ member)
  · intro write member
    change write.request.mutationId < next.nextPlaylistMutation
    rw [counter]
    rcases mem_append.mp (writes ▸ member) with earlier | new
    · exact numbered.writes write earlier
    · exact (started _ (each write new).2).1
  · intro autosave member
    change autosave.1 < next.nextPlaylistMutation
    rw [counter]
    exact numbered.autosaves autosave member
  · intro autosave asked write member same
    rcases mem_append.mp (writes ▸ member) with earlier | new
    · exact numbered.autosaved autosave asked write earlier same
    · obtain ⟨queue, number⟩ := each write new
      rw [queue]
      exact (started _ number).2 autosave asked same.symm

theorem Clean.moves {next : PlaylistApp} {key : String} {first : Option Nat} {queued : List Nat}
    (clean : saved.Clean) (moves : PlaylistApp.Moves saved.app next key first queued)
    (idles : next.active key = none → saved.app.localView.playlistId = some key →
      saved.app.queueDirty = false → saved.edits ≤ saved.settled key) :
    (saved.send next).Clean := by
  have view : next.localView = saved.app.localView := congrArg (·.1) moves.face
  have dirty : next.queueDirty = saved.app.queueDirty := congrArg (·.2.2.2.2.1) moves.face
  intro playlistId source undirty inactive
  have source : saved.app.localView.playlistId = some playlistId := view ▸ source
  have undirty : saved.app.queueDirty = false := dirty ▸ undirty
  by_cases same : playlistId = key
  · subst same
    exact idles inactive source undirty
  · apply clean playlistId source undirty
    unfold PlaylistApp.active at inactive ⊢
    rw [← moves.other playlistId same]
    exact inactive

theorem Kept.request {key : String} {mutation : PlaylistMutation} (kept : saved.Kept)
    (room : saved.app.nextPlaylistMutation < u64Max)
    (number : mutation.mutationId = saved.app.nextPlaylistMutation) :
    (saved.send (saved.app.takeMutationId.enqueuePlaylistMutation key mutation)).Kept := by
  let counted := saved.withApp saved.app.takeMutationId
  have next : counted.app.nextPlaylistMutation = saved.app.nextPlaylistMutation + 1 := Nat.min_eq_left room
  have numbered : counted.Numbered := by
    constructor
    · exact kept.numbered.idle
    · intro key mutation member
      rw [next]
      exact Nat.lt_succ_of_lt (kept.numbered.pending key mutation member)
    · intro write member
      rw [next]
      exact Nat.lt_succ_of_lt (kept.numbered.writes write member)
    · intro autosave member
      rw [next]
      exact Nat.lt_succ_of_lt (kept.numbered.autosaves autosave member)
    · exact kept.numbered.autosaved
  obtain ⟨moves, busy⟩ := @PlaylistApp.enqueue_moves counted.app key mutation (numbered.idle key)
  have clean : counted.Clean := kept.clean.same rfl rfl rfl rfl rfl
  refine ⟨clean.moves moves fun inactive source undirty => ?_, kept.refused, numbered.moves moves ?_ ?_⟩
  · apply clean key source undirty
    cases running : counted.app.active key with
    | none => rfl
    | some first =>
      have stays := (busy (by rw [running]; rfl)).1
      have gone : (counted.app.enqueuePlaylistMutation key mutation).active key = none := inactive
      rw [gone] at stays
      cases stays
  · intro id member
    rcases mem_cons.mp member with rfl | earlier
    · rw [next, number]
      exact Nat.lt_succ_self _
    · obtain ⟨other, among, rfl⟩ := mem_map.mp earlier
      exact numbered.pending key other among
  · intro id first
    cases first
    rw [next, number]
    refine ⟨Nat.lt_succ_self _, fun autosave asked same => ?_⟩
    have below := kept.numbered.autosaves autosave asked
    omega

theorem Kept.save (kept : saved.Kept) (room : saved.app.nextPlaylistMutation < u64Max) :
    (saved.send saved.app.savePlaylistToEmby.2).Kept := by
  unfold PlaylistApp.savePlaylistToEmby
  split
  · exact kept.request room rfl
  · refine ⟨kept.clean, kept.refused, kept.numbered.same rfl rfl⟩

theorem Kept.saveAs (kept : saved.Kept) (room : saved.app.nextPlaylistMutation < u64Max)
    (name : String) : (saved.send (saved.app.saveQueueAsPlaylist name)).Kept := by
  unfold PlaylistApp.saveQueueAsPlaylist
  split
  · refine ⟨kept.clean, kept.refused, kept.numbered.same rfl rfl⟩
  · exact kept.request room rfl

theorem Kept.overwrite (kept : saved.Kept) (room : saved.app.nextPlaylistMutation < u64Max)
    (existingId name : String) : (saved.send (saved.app.doOverwritePlaylist existingId name)).Kept := by
  unfold PlaylistApp.doOverwritePlaylist
  split
  · refine ⟨kept.clean, kept.refused, kept.numbered.same rfl rfl⟩
  · exact kept.request room rfl

theorem Kept.answerSave (kept : saved.Kept) (room : saved.app.nextPlaylistMutation < u64Max) :
    (saved.send saved.app.answerSave).Kept := by
  have sent := kept.save room
  have binds : ∀ (app : PlaylistApp) (id : Option Nat), (app.bindToSave id).lines = app.lines ∧
      (app.bindToSave id).face = app.face := by
    intro app id
    unfold PlaylistApp.bindToSave
    split <;> exact ⟨rfl, rfl⟩
  obtain ⟨lines, face⟩ := binds saved.app.savePlaylistToEmby.2 saved.app.savePlaylistToEmby.1
  refine ⟨sent.clean.same (congrArg (·.1) face) (congrArg (·.2.2.2.2.1) face)
    (congrArg (·.1) lines) rfl rfl, sent.refused, sent.numbered.same lines rfl⟩

theorem Kept.unsent {next : PlaylistApp} (kept : saved.Kept) (lines : next.lines = saved.app.lines)
    (clean : (saved.withApp next).Clean) : (saved.send next).Kept :=
  ⟨clean, kept.refused, kept.numbered.same lines rfl⟩

theorem metadata_applies : saved.clearing = saved.app.remoteView.isNone := by
  unfold clearing PlaylistApp.localQueueMetadataApplies PlaylistApp.playingQueueLink
  cases saved.app.remoteView <;> rfl

theorem Kept.autosave {playlistId : String} {mutation : PlaylistMutation} {slotId : QueueSlotId}
    (kept : saved.Kept) (room : saved.app.nextPlaylistMutation < u64Max)
    (number : mutation.mutationId = saved.app.nextPlaylistMutation)
    (source : saved.app.localView.playlistId = some playlistId)
    (out : (saved.app.active playlistId).isSome = true) :
    let lowered : PlaylistApp := { saved.app with queueDirty := false }
    let sent := saved.send (lowered.takeMutationId.enqueuePlaylistMutation playlistId mutation)
    ({ sent with autosaves := saved.autosaves ++ [(saved.app.nextPlaylistMutation, slotId)] } : SavedApp).Kept := by
  intro lowered sent
  have clean : (saved.withApp lowered).Clean := by
    intro other shown _ inactive
    have same : other = playlistId := Option.some.inj (shown.symm.trans source)
    subst same
    have gone : saved.app.active other = none := inactive
    rw [gone] at out
    cases out
  have flagged : (saved.withApp lowered).Kept := kept.flag rfl clean
  have asked : sent.Kept := flagged.request room number
  obtain ⟨moves, busy⟩ := @PlaylistApp.enqueue_moves lowered.takeMutationId playlistId mutation (kept.numbered.idle playlistId)
  have writes : sent.app.writes = saved.app.writes := (busy out).2
  have counter : sent.app.nextPlaylistMutation = saved.app.nextPlaylistMutation + 1 := by
    refine (congrArg (·.2.2.2.2.2.2) moves.face).trans ?_
    exact Nat.min_eq_left room
  refine ⟨asked.clean.same rfl rfl rfl rfl rfl, asked.refused, ⟨asked.numbered.idle,
    asked.numbered.pending, asked.numbered.writes, ?_, ?_⟩⟩
  · intro autosave member
    rcases mem_append.mp member with earlier | new
    · exact asked.numbered.autosaves autosave earlier
    · rw [mem_singleton.mp new]
      change saved.app.nextPlaylistMutation < sent.app.nextPlaylistMutation
      omega
  · intro autosave member write among same
    rcases mem_append.mp member with earlier | new
    · exact asked.numbered.autosaved autosave earlier write among same
    · have before : write ∈ saved.app.writes := writes ▸ among
      have below := kept.numbered.writes write before
      rw [mem_singleton.mp new] at same
      dsimp only at same
      omega

theorem onConsumed_marks {app : PlaylistApp} {saveOnConsume : Bool}
    (here : app.localQueueMetadataApplies app.playingQueueLink = true)
    (quiet : ¬ (saveOnConsume && app.queuePlaylistId.isSome) = true) :
    app.onConsumed saveOnConsume = { app with queueDirty := true } := by
  unfold PlaylistApp.onConsumed
  rw [if_pos here]
  exact if_neg quiet

theorem onConsumed_saves {app : PlaylistApp} {saveOnConsume : Bool}
    (here : app.localQueueMetadataApplies app.playingQueueLink = true)
    (saves : (saveOnConsume && app.queuePlaylistId.isSome) = true) :
    app.onConsumed saveOnConsume = (PlaylistApp.savePlaylistToEmby { app with queueDirty := false }).2 := by
  unfold PlaylistApp.onConsumed
  rw [if_pos here]
  exact if_pos saves

theorem Kept.consumed {slotId : QueueSlotId} {saveOnConsume : Bool} (kept : saved.Kept)
    (safe : saved.ConsumeSafe slotId saveOnConsume) :
    (saved.consumed slotId saveOnConsume).Kept := by
  unfold SavedApp.consumed
  by_cases shown : saved.app.playbackQueue.slots.any (·.slotId == slotId) = true
  · rw [if_pos shown]
    dsimp only
    have applies : saved.app.localQueueMetadataApplies saved.app.playingQueueLink =
        saved.app.remoteView.isNone := saved.metadata_applies
    cases remote : saved.app.remoteView with
    | some view =>
      have quiet : saved.app.onConsumed saveOnConsume = saved.app := by
        simp [PlaylistApp.onConsumed, applies, remote]
      have unasked : saved.app.requestKey (.consumed saveOnConsume) = none := by
        simp [PlaylistApp.requestKey, remote]
      rw [quiet, unasked]
      exact kept.unsent rfl (kept.clean.same rfl rfl rfl rfl rfl)
    | none =>
      have here : saved.app.localQueueMetadataApplies saved.app.playingQueueLink = true := by
        rw [applies, remote]
        rfl
      by_cases saves : (saveOnConsume && saved.app.queuePlaylistId.isSome) = true
      · obtain ⟨rfl, named⟩ := Bool.and_eq_true_iff.mp saves
        obtain ⟨playlistId, source⟩ := Option.isSome_iff_exists.mp named
        obtain ⟨known, out, room⟩ := safe shown rfl remote playlistId source
        obtain ⟨lineage, owner⟩ := Option.isSome_iff_exists.mp known
        have view : saved.app.localView.playlistId = some playlistId := by
          rw [← source]
          simp [PlaylistApp.queuePlaylistId, PlaylistApp.playbackQueue, remote]
        have asks : saved.app.requestKey .saved = some playlistId := by
          simp [PlaylistApp.requestKey, owner, source]
        have consumes : saved.app.requestKey (.consumed true) = some playlistId := by
          simp [PlaylistApp.requestKey, remote, owner, source]
        obtain ⟨mutation, sent, number, _⟩ := @PlaylistApp.savePlaylistToEmby_spec
          { saved.app with queueDirty := false } playlistId asks
        rw [consumes, onConsumed_saves here saves, sent]
        exact kept.autosave room number view out
      · have unasked : saved.app.requestKey (.consumed saveOnConsume) = none := by
          cases saveOnConsume with
          | false => simp [PlaylistApp.requestKey]
          | true =>
            have unnamed : saved.app.queuePlaylistId = none := by simpa using saves
            simp [PlaylistApp.requestKey, unnamed]
        rw [onConsumed_marks here saves, unasked]
        exact kept.unsent rfl (Clean.of_dirty rfl)
  · rw [if_neg shown]
    exact kept

theorem Kept.finish {request : PlaylistRequest} (kept : saved.Kept)
    (safe : saved.app.activeId request.key = some request.mutationId →
      saved.FinishSafe request.key) : (saved.finish request).Kept := by
  unfold SavedApp.finish
  by_cases ends : saved.app.activeId request.key = some request.mutationId
  · obtain ⟨settles, shows⟩ := safe ends
    obtain ⟨moves, active⟩ := PlaylistApp.finish_moves ends
    refine ⟨kept.clean.moves moves fun inactive source undirty => ?_, kept.refused, kept.numbered.moves moves ?_ ?_⟩
    · rcases settles source with dirty | more | settled
      · exact absurd (undirty.symm.trans dirty) Bool.false_ne_true
      · rw [inactive, more] at active
        cases active
      · exact settled
    · intro id member
      obtain ⟨mutation, waits, rfl⟩ := mem_map.mp member
      exact kept.numbered.pending request.key mutation (mem_append_right _ waits)
    · intro id first
      obtain ⟨mutation, next, rfl⟩ := Option.map_eq_some_iff.mp first
      have waits : mutation ∈ saved.app.waiting request.key := mem_of_find?_eq_some next
      exact ⟨kept.numbered.pending request.key mutation (mem_append_right _ waits), shows mutation next⟩
  · rw [PlaylistApp.finish_other _ ends]
    exact kept.unsent rfl (kept.clean.same rfl rfl rfl rfl rfl)

theorem Kept.settle {playlistId : String} {count : Nat} (kept : saved.Kept) : (saved.settle playlistId count).Kept := by
  refine ⟨fun other source undirty inactive => ?_, kept.refused, kept.numbered.same rfl rfl⟩
  have before := kept.clean other source undirty inactive
  change saved.edits ≤ Function.update saved.settled playlistId _ other
  by_cases same : other = playlistId
  · subst same
    rw [Function.update_self]
    exact before.trans (Nat.le_max_left _ _)
  · rw [Function.update_of_ne same]
    exact before

theorem Kept.settleCarried {index : Nat} {playlistId : String} (kept : saved.Kept) :
    (saved.settleCarried index playlistId).Kept := by
  unfold SavedApp.settleCarried
  split
  · split
    · exact kept.settle
    · exact kept
  · exact kept

theorem Kept.sourced {source : Daemon.QueueSource} {origin : QueueOrigin} (kept : saved.Kept)
    (safe : saved.AdoptsSafe answer.adopted) :
    (saved.applySavedPlaylistSource source origin answer).Kept := by
  have adopted := kept.adopts safe
  unfold applySavedPlaylistSource queueOp
  cases answer.edit with
  | notApplied => exact adopted
  | _ => exact adopted.flag rfl (adopted.clean.same rfl rfl rfl rfl rfl)

theorem Kept.conclude {index : Nat} {result : Option String} {request : PlaylistRequest}
    (kept : saved.Kept) (clears : saved.ClearSafe index result request)
    (sources : saved.SourceSafe index result answer request) :
    (saved.concluded index result answer request).Kept := by
  cases request with
  | save mutationId playlistId origin source ids =>
    let taken := saved.withApp (saved.app.takeOnSaveComplete mutationId).2
    let written := if result.isSome then taken.settleCarried index playlistId else taken
    have lines : taken.app.lines = saved.app.lines ∧ taken.app.face = saved.app.face := by
      dsimp only [taken]
      unfold PlaylistApp.takeOnSaveComplete
      split
      · split <;> exact ⟨rfl, rfl⟩
      · exact ⟨rfl, rfl⟩
    have takes : taken.Kept := by
      refine kept.flag lines.1 (kept.clean.same (congrArg (·.1) lines.2)
        (congrArg (·.2.2.2.2.1) lines.2) (congrArg (·.1) lines.1) rfl rfl)
    have writes : written.Kept := by
      dsimp only [written]
      split
      · exact takes.settleCarried
      · exact takes
    change (if written.clears origin source result.isSome then written.cleared else written).Kept
    split
    · rename_i lowers
      refine writes.flag rfl ?_
      rcases clears lowers with all | ⟨view, out⟩
      · exact Clean.of_allSettled all
      · intro other shown _ inactive
        have same : other = playlistId := Option.some.inj (shown.symm.trans view)
        subst same
        have gone : written.app.active other = none := inactive
        rw [gone] at out
        cases out
    · exact writes
  | create mutationId name key source origin ids =>
    cases result with
    | none => exact kept
    | some id =>
      unfold concluded
      dsimp only
      split
      · rename_i applies
        exact kept.settleCarried.sourced (sources applies)
      · exact kept.settleCarried
  | replace mutationId playlistId name origin ids =>
    cases result with
    | none => exact kept
    | some id =>
      unfold concluded
      dsimp only
      split
      · rename_i applies
        exact kept.settleCarried.sourced (sources applies)
      · exact kept.settleCarried

theorem Kept.complete {index : Nat} {result : Option String} {request : PlaylistRequest}
    (kept : saved.Kept) (safe : saved.CompletionSafe index result answer request) :
    (saved.complete index result answer request).Kept := by
  obtain ⟨clears, sources, finishes, acts⟩ := safe
  have started : (saved.withApp (saved.app.requestCompleted request)).Kept := by
    refine ⟨kept.clean.same rfl rfl rfl rfl rfl, kept.refused, ?_⟩
    exact ⟨kept.numbered.idle, kept.numbered.pending, kept.numbered.writes, kept.numbered.autosaves, kept.numbered.autosaved⟩
  have finished := (started.conclude clears sources).finish finishes
  unfold SavedApp.complete
  dsimp only
  cases waiting : (saved.withApp (saved.app.requestCompleted request)).deferred result request
      (((saved.withApp (saved.app.requestCompleted request)).concluded index result answer request).finish request) with
  | none => exact finished
  | some action => exact finished.act (acts action waiting)

theorem Kept.discard (kept : saved.Kept) (safe : saved.Saves (.answeredDiscard answer)) : (saved.answerDiscard answer).Kept := by
  have lines : saved.app.takeOnDiscard.2.lines = saved.app.lines ∧ saved.app.takeOnDiscard.2.face = saved.app.face := by
    unfold PlaylistApp.takeOnDiscard
    split <;> exact ⟨rfl, rfl⟩
  unfold Saves at safe
  unfold answerDiscard
  dsimp only at safe
  cases taken : saved.app.takeOnDiscard with
  | mk waiting app =>
    rw [taken] at lines safe
    have takes : (saved.withApp app).Kept := by
      refine kept.flag lines.1 (kept.clean.same (congrArg (·.1) lines.2)
        (congrArg (·.2.2.2.2.1) lines.2) (congrArg (·.1) lines.1) rfl rfl)
    cases waiting with
    | none => exact takes
    | some action =>
      have settles : (saved.withApp app).settleShown.Kept := by
        unfold settleShown
        cases (saved.withApp app).app.localView.playlistId with
        | none => exact takes
        | some playlistId => exact takes.settle
      exact settles.act safe

theorem Kept.switched {shown : Option ShownState} {remoteView : Option QueueState}
    (kept : saved.Kept) (safe : saved.Saves (.switched shown remoteView)) :
    (saved.handle (.switched shown remoteView)).Kept := by
  cases shown with
  | none => exact kept.flag rfl (kept.clean.same rfl rfl rfl rfl rfl)
  | some shown =>
    obtain ⟨state, news⟩ := shown
    cases news with
    | loaded => exact ⟨Clean.of_no_edits rfl, kept.refused, kept.numbered.same rfl rfl⟩
    | edited count =>
      have fits : saved.StateSafe false state count := safe
      refine ⟨kept.clean.shows fits rfl ?_ (fun _ => rfl) rfl rfl, kept.refused, kept.numbered.same rfl rfl⟩
      exact (Bool.and_true _).symm

theorem Kept.handle {input : SavedInput} (kept : saved.Kept) (saves : saved.Saves input) : (saved.handle input).Kept := by
  have stays : ∀ app : PlaylistApp, app.lines = saved.app.lines → app.face = saved.app.face →
      (saved.withApp app).Kept := fun app lines face =>
    kept.flag lines (kept.clean.same (congrArg (·.1) face) (congrArg (·.2.2.2.2.1) face) (congrArg (·.1) lines) rfl rfl)
  cases input with
  | saved => exact kept.save saves
  | savedAs name => exact kept.saveAs saves name
  | overwritten existingId name => exact kept.overwrite saves existingId name
  | consumed slotId saveOnConsume => exact kept.consumed saves
  | prompted action => exact stays _ rfl rfl
  | answeredSave => exact kept.answerSave saves
  | answeredDiscard answer => exact kept.discard saves
  | answeredCancel => exact stays _ rfl rfl
  | completed index result answer =>
    unfold SavedApp.handle
    dsimp only
    split
    · exact kept
    · rename_i write found
      exact kept.complete (saves write found)
  | edited link answer => exact kept.edited saves
  | otherOp answer => exact kept.adopts saves
  | played answer => exact kept.played saves
  | acted action answer => exact kept.act saves
  | snapshot link shown =>
    have adopted : saved.AdoptsSafe [(link, shown)] := ⟨saves, True.intro⟩
    exact kept.adopts adopted
  | ownerState lineage =>
    exact ⟨kept.clean.same rfl rfl rfl rfl rfl, kept.refused, kept.numbered.same rfl rfl⟩
  | switched shown remoteView => exact kept.switched saves
  | emby present =>
    exact ⟨kept.clean.same rfl rfl rfl rfl rfl, kept.refused, kept.numbered.same rfl rfl⟩

/-- A Client that has just loaded a queue and has asked for no playlist mutation. -/
structure Fresh (saved : SavedApp) : Prop where
  edits : saved.edits = 0
  refusals : saved.refusals = []
  autosaves : saved.autosaves = []
  app : saved.app.Fresh

theorem Fresh.kept (fresh : saved.Fresh) : saved.Kept := by
  have nothing : ∀ key, saved.app.pending key = [] := by
    intro key
    simp [PlaylistApp.pending, PlaylistApp.active, PlaylistApp.waiting, fresh.app.mutations]
  constructor
  · exact Clean.of_no_edits fresh.edits
  · intro refusal member
    rw [fresh.refusals] at member
    cases member
  · constructor
    · exact fun key _ => fresh.app.mutations key
    · intro key mutation member
      rw [nothing] at member
      cases member
    · intro write member
      rw [fresh.app.writes] at member
      cases member
    · intro autosave member
      rw [fresh.autosaves] at member
      cases member
    · intro autosave member
      rw [fresh.autosaves] at member
      cases member

def savedClient : SavedApp where
  app := .playlistClient

theorem savedClient_fresh : savedClient.Fresh := ⟨rfl, rfl, rfl, PlaylistApp.playlistClient_fresh⟩

def turnedPlaylist : QueueState := { PlaylistApp.savedPlaylist with
  slots := [PlaylistApp.film 2 "b", PlaylistApp.film 1 "a"] }

def playedPlaylist : QueueState := { PlaylistApp.savedPlaylist with
  slots := [PlaylistApp.film 2 "b"] }

end SavedApp

end Mbv.Client
