import Mbv.Client.PlaylistMutations
import Mbv.Machine.Run

namespace Mbv.Client

open Mbv.Queue List
open Mbv.Daemon (QueueSource QueueLineage)

namespace PlaylistMutation

def isSave : PlaylistMutation → Bool
  | .save .. => true
  | _ => false

def Under (key : String) : PlaylistMutation → Prop
  | .createAs _ coordinatorKey .. => coordinatorKey = key
  | _ => True

variable (mutation : PlaylistMutation) (key : String) (ids : List String)

@[simp] theorem withItems_isSave : (mutation.withItems ids).isSave = mutation.isSave := by
  cases mutation <;> rfl

@[simp] theorem withItems_under : (mutation.withItems ids).Under key ↔ mutation.Under key := by
  cases mutation <;> rfl

@[simp] theorem request_mutationId : (mutation.request key ids).mutationId = mutation.mutationId := by
  cases mutation <;> rfl

@[simp] theorem request_origin : (mutation.request key ids).origin = mutation.origin := by
  cases mutation <;> rfl

@[simp] theorem request_ids : (mutation.request key ids).ids = ids := by
  cases mutation <;> rfl

variable {mutation key}

theorem Under.request_key (under : mutation.Under key) : (mutation.request key ids).key = key := by
  cases mutation with
  | save => rfl
  | createAs => exact under
  | replace => rfl

end PlaylistMutation

namespace PlaylistRequest

def isSave : PlaylistRequest → Bool
  | .save .. => true
  | _ => false

end PlaylistRequest

@[simp] theorem PlaylistMutation.request_isSave (mutation : PlaylistMutation) (key : String)
    (ids : List String) : (mutation.request key ids).isSave = mutation.isSave := by
  cases mutation <;> rfl

namespace PlaylistApp

variable (app : PlaylistApp)

/-! ### The order of a key's mutations -/

def active (key : String) : Option PlaylistMutation := (app.playlistMutations key).bind (·.active)

def activeId (key : String) : Option Nat := (app.active key).map (·.mutationId)

def waiting (key : String) : List PlaylistMutation :=
  ((app.playlistMutations key).map (·.queued)).getD []

def pending (key : String) : List PlaylistMutation := (app.active key).toList ++ app.waiting key

/-- The mutations of every key run one at a time, in the order they were requested, each once or not
    at all; every write carries the items of the queue it was requested for; and a mutation that is
    active has a request out, as one a queue action waits for is active or will be. -/
structure InOrder : Prop where
  order : ∀ key, (app.record key).requested =
    (app.record key).settled.map (·.1) ++ (app.waiting key).map (·.mutationId)
  once : ∀ key, (app.record key).requested.Nodup
  apart : ∀ key other id, id ∈ (app.record key).requested → id ∈ (app.record other).requested →
    key = other
  outstanding : ∀ key, (app.record key).outstanding = (app.activeId key).toList
  sent : ∀ key id, app.activeId key = some id →
    ∃ write ∈ app.writes, write.request.key = key ∧ write.request.mutationId = id
  writes : ∀ write ∈ app.writes, write.request.ids = write.queue.embyIds ∧
    write.queue.lineage = write.request.origin.lineage
  bound : ∀ id action, app.save = some (.awaitingSave id action) →
    ∃ key, ∃ mutation ∈ app.pending key, mutation.mutationId = id

/-- A completion of the active mutation of a key leaves fewer of them, and one of the save a queue
    action waits for releases the action; any other id finishes nothing. -/
structure Progresses (app : PlaylistApp) (input : PlaylistInput) : Prop where
  other : ∀ key id, app.activeId key ≠ some id → app.finishPlaylistMutation key id = app
  completes : ∀ index result answer write, input = .completed index result answer →
    app.writes[index]? = some write →
    (app.activeId write.request.key = some write.request.mutationId →
      ((app.handle input).pending write.request.key).map (·.mutationId) <:+
        (app.waiting write.request.key).map (·.mutationId)) ∧
    ∀ action, (app.handle input).save ≠ some (.awaitingSave write.request.mutationId action)

/-! ### When they do -/

/-- Every waiting mutation the staleness test would let pass was requested for the queue the local
    view shows, and it lets a save pass that a queue action waits for. -/
structure Fits : Prop where
  lineage : ∀ key, ∀ mutation ∈ app.waiting key, app.isStale mutation = false →
    mutation.origin.lineage = app.localView.lineage
  bound : ∀ id action, app.save = some (.awaitingSave id action) →
    ∀ key, ∀ mutation ∈ app.waiting key, mutation.mutationId = id → app.isStale mutation = false

def requestKey : PlaylistInput → Option String
  | .saved | .answeredSave => app.ownerLineage.bind fun _ => app.queuePlaylistId
  | .consumed saveOnConsume =>
    if saveOnConsume && app.remoteView.isNone then
      app.ownerLineage.bind fun _ => app.queuePlaylistId
    else none
  | .savedAs _ =>
    app.ownerLineage.map fun _ =>
      (app.queuePlaylistId.filter app.playlistMutationPending).getD
        s!"create:{app.nextPlaylistMutation}"
  | .overwritten existingId _ => app.ownerLineage.map fun _ => existingId
  | _ => none

def sourceApplied (result : Option String) (answer : OwnerAnswer) : PlaylistRequest → PlaylistApp
  | .save .. => app
  | .create _ name _ source origin _ =>
    match result with
    | some id =>
      if app.originIsCurrent origin && app.queuePlaylistId == source then
        app.applySavedPlaylistSource (.playlist (some id) name) origin answer
      else app
    | none => app
  | .replace _ _ name origin _ =>
    match result with
    | some id =>
      if app.originIsCurrent origin then
        app.applySavedPlaylistSource (.playlist (some id) name) origin answer
      else app
    | none => app

/-- Emby is there whenever a mutation starts, a request is made of the queue the Owner last
    reported, and what is adopted beside a waiting mutation fits it. -/
def Fitting (input : PlaylistInput) : Prop :=
  (∀ key ∈ app.requestKey input, app.nextPlaylistMutation < u64Max ∧
    app.ownerLineage = some app.localView.lineage ∧
    (app.active key = none → app.embyClient = true)) ∧
  (∀ index result answer write, input = .completed index result answer →
    app.writes[index]? = some write →
      ((app.requestCompleted write.request).sourceApplied result answer write.request).Fits ∧
      ((∃ mutation ∈ app.waiting write.request.key,
          ((app.requestCompleted write.request).sourceApplied result answer write.request).isStale
            mutation = false) →
        app.activeId write.request.key = some write.request.mutationId → app.embyClient = true)) ∧
  (app.requestKey input = none → (app.handle input).Fits)

/-! ### What starting and finishing do to a key -/

def keyStep (key : String) (state : Option PlaylistMutationState) (record : KeyRecord)
    (writes : List PlaylistWrite) : PlaylistApp :=
  { app with
    playlistMutations := Function.update app.playlistMutations key state
    record := Function.update app.record key record
    writes := app.writes ++ writes }

end PlaylistApp

namespace KeyRecord

def discard (record : KeyRecord) (skipped : List PlaylistMutation) : KeyRecord :=
  { record with settled := record.settled ++ skipped.map fun each => (each.mutationId, .discarded) }

def dispatch (record : KeyRecord) (mutationId : Nat) : KeyRecord :=
  { record with
    settled := record.settled ++ [(mutationId, .dispatched)]
    outstanding := record.outstanding ++ [mutationId] }

@[simp] theorem discard_nil (record : KeyRecord) : record.discard [] = record := by
  simp [discard]

end KeyRecord

namespace PlaylistApp

variable (app : PlaylistApp)

/-- The key's next mutation is sent, once the skipped ones before it are discarded. -/
def startedAt (key : String) (skipped : List PlaylistMutation) : List PlaylistMutation → PlaylistApp
  | [] => app.keyStep key none ((app.record key).discard skipped) []
  | next :: queued =>
    app.keyStep key (some ⟨some (next.withItems app.localView.embyIds), queued⟩)
      (((app.record key).discard skipped).dispatch next.mutationId)
      [⟨next.request key app.localView.embyIds, app.localView⟩]

@[simp] theorem isStale_setMutations (key : String) (state : Option PlaylistMutationState) :
    (app.setMutations key state).isStale = app.isStale := by
  funext mutation
  cases mutation <;> rfl

@[simp] theorem isStale_recordKey (key : String) (change : KeyRecord → KeyRecord) :
    (app.recordKey key change).isStale = app.isStale := by
  funext mutation
  cases mutation <;> rfl

variable {key : String} {mutation : PlaylistMutation}

theorem dispatch_eq {queued : List PlaylistMutation} (present : app.embyClient = true) :
    (app.setMutations key (some ⟨some mutation, queued⟩)).dispatchPlaylistMutation key =
      app.startedAt key [] (mutation :: queued) := by
  simp [dispatchPlaylistMutation, setMutations, present, startedAt, keyStep, recordKey, KeyRecord.dispatch, Function.update_idem]

variable {skipped rest : List PlaylistMutation}

theorem startedAt_discard {first : PlaylistMutation} {state : Option PlaylistMutationState} :
    ((app.setMutations key state).recordDiscard key first).startedAt key skipped rest =
      app.startedAt key (first :: skipped) rest := by
  cases rest <;> simp [startedAt, keyStep, recordDiscard, recordKey, setMutations, KeyRecord.discard, Function.update_idem]

theorem startNext_spec {queued : List PlaylistMutation}
    (present : (∃ mutation ∈ queued, app.isStale mutation = false) → app.embyClient = true) :
    ∃ skipped rest, queued = skipped ++ rest ∧ (∀ each ∈ skipped, app.isStale each = true) ∧
      (∀ next ∈ rest.head?, app.isStale next = false) ∧
      app.startNext key queued = app.startedAt key skipped rest := by
  induction queued generalizing app with
  | nil =>
    refine ⟨[], [], rfl, by simp, by simp, ?_⟩
    simp [startNext, startedAt, setMutations, keyStep]
  | cons next queued ih =>
    cases stale : app.isStale next with
    | true =>
      let skips := (app.setMutations key (some ⟨some next, queued⟩)).recordDiscard key next
      have same : skips.isStale = app.isStale := by simp [skips, recordDiscard]
      obtain ⟨skipped, rest, split, skippedStale, headFresh, started⟩ := ih skips (by
        intro found
        obtain ⟨mutation, member, fresh⟩ := found
        exact present ⟨mutation, mem_cons_of_mem _ member, same ▸ fresh⟩)
      refine ⟨next :: skipped, rest, by rw [split]; rfl, ?_, ?_, ?_⟩
      · intro each member
        rcases mem_cons.mp member with rfl | later
        · exact stale
        · exact same ▸ skippedStale each later
      · exact same ▸ headFresh
      · simp only [startNext, isStale_setMutations, stale, ↓reduceIte]
        exact started.trans (app.startedAt_discard)
    | false =>
      refine ⟨[], next :: queued, rfl, by simp, by simpa using stale, ?_⟩
      simp only [startNext, isStale_setMutations, stale, Bool.false_eq_true, ↓reduceIte]
      exact app.dispatch_eq (present ⟨next, mem_cons_self, stale⟩)

theorem finish_other {mutationId : Nat} (other : app.activeId key ≠ some mutationId) :
    app.finishPlaylistMutation key mutationId = app := by
  unfold finishPlaylistMutation
  split
  · rfl
  · rename_i state found
    rw [if_pos]
    simpa [activeId, active, found] using other

theorem finish_active {mutationId : Nat} (ends : app.activeId key = some mutationId) :
    app.finishPlaylistMutation key mutationId = app.startNext key (app.waiting key) := by
  unfold finishPlaylistMutation
  cases found : app.playlistMutations key with
  | none => simp [activeId, active, found] at ends
  | some state =>
    have same : state.active.map (·.mutationId) = some mutationId := by
      simpa [activeId, active, found] using ends
    simp [same, waiting, found]

theorem startNext_cons (key : String) (next : PlaylistMutation) (queued : List PlaylistMutation) :
    app.startNext key (next :: queued) = (app.setMutations key (some ⟨some next, queued⟩)).startPlaylistMutation key := by
  have active : ((app.setMutations key (some ⟨some next, queued⟩)).playlistMutations key).bind (·.active) = some next := by
    simp [setMutations]
  have finishes : ((app.setMutations key (some ⟨some next, queued⟩)).recordDiscard key
        next).finishPlaylistMutation key next.mutationId =
      startNext key queued ((app.setMutations key (some ⟨some next, queued⟩)).recordDiscard key next) := by
    simp [finishPlaylistMutation, setMutations, recordDiscard, recordKey]
  unfold startPlaylistMutation
  rw [active]
  dsimp only
  rw [finishes]
  rfl

/-! ### What holds of every key -/

structure Lines : Prop where
  order : ∀ key, (app.record key).requested =
    (app.record key).settled.map (·.1) ++ (app.waiting key).map (·.mutationId)
  once : ∀ key, (app.record key).requested.Nodup
  apart : ∀ key other id, id ∈ (app.record key).requested → id ∈ (app.record other).requested →
    key = other
  below : ∀ key, ∀ id ∈ (app.record key).requested, id < app.nextPlaylistMutation
  idle : ∀ key, app.active key = none → app.playlistMutations key = none
  settled : ∀ key mutation, app.active key = some mutation →
    mutation.mutationId ∈ (app.record key).settled.map (·.1)
  under : ∀ key, ∀ mutation ∈ app.pending key, mutation.Under key
  sent : ∀ key mutation, app.active key = some mutation →
    ∃ write ∈ app.writes, write.request.key = key ∧ write.request.mutationId = mutation.mutationId
  writes : ∀ write ∈ app.writes, write.request.ids = write.queue.embyIds ∧
    write.queue.lineage = write.request.origin.lineage ∧
    write.request.mutationId < app.nextPlaylistMutation

def Outstanding : Prop := ∀ key, (app.record key).outstanding = (app.activeId key).toList

def lines : (String → Option PlaylistMutationState) × (String → KeyRecord) × Nat ×
    List PlaylistWrite :=
  (app.playlistMutations, app.record, app.nextPlaylistMutation, app.writes)

variable {app}

variable {next : PlaylistApp}

theorem Lines.same (lines : app.Lines) (same : next.lines = app.lines) :
    next.Lines := by
  cases app
  cases next
  simp only [PlaylistApp.lines, Prod.mk.injEq] at same
  obtain ⟨rfl, rfl, rfl, rfl⟩ := same
  exact ⟨lines.order, lines.once, lines.apart, lines.below, lines.idle, lines.settled, lines.under, lines.sent, lines.writes⟩

theorem Outstanding.same (out : app.Outstanding) (same : next.lines = app.lines) :
    next.Outstanding := by
  cases app
  cases next
  simp only [PlaylistApp.lines, Prod.mk.injEq] at same
  obtain ⟨rfl, rfl, rfl, rfl⟩ := same
  exact out

theorem Lines.keyStep (lines : app.Lines) {state : Option PlaylistMutationState}
    {record : KeyRecord} {writes : List PlaylistWrite}
    (order : record.requested = record.settled.map (·.1) ++ ((state.map (·.queued)).getD []).map (·.mutationId))
    (once : record.requested.Nodup)
    (fresh : ∀ id ∈ record.requested, id ∈ (app.record key).requested ∨
      id < app.nextPlaylistMutation ∧ ∀ other, id ∉ (app.record other).requested)
    (idle : state.bind (·.active) = none → state = none)
    (settled : ∀ mutation, state.bind (·.active) = some mutation → mutation.mutationId ∈ record.settled.map (·.1))
    (under : ∀ mutation ∈ (state.bind (·.active)).toList ++ (state.map (·.queued)).getD [], mutation.Under key)
    (sent : ∀ mutation, state.bind (·.active) = some mutation → ∃ write ∈ app.writes ++ writes,
        write.request.key = key ∧ write.request.mutationId = mutation.mutationId)
    (sound : ∀ write ∈ writes, write.request.ids = write.queue.embyIds ∧ write.queue.lineage = write.request.origin.lineage ∧
      write.request.mutationId < app.nextPlaylistMutation) :
    (app.keyStep key state record writes).Lines := by
  have known : ∀ other, other ≠ key → ∀ id ∈ record.requested, id ∉ (app.record other).requested := by
    intro other different id requested held
    rcases fresh id requested with before | ⟨-, never⟩
    · exact different (lines.apart other key id held before)
    · exact never other held
  refine ⟨?_, ?_, ?_, ?_, ?_, ?_, ?_, ?_, ?_⟩
  all_goals simp only [PlaylistApp.keyStep, waiting, active, pending]
  · intro other
    by_cases same : other = key
    · subst same
      simpa using order
    · simpa [Function.update_of_ne same, waiting] using lines.order other
  · intro other
    by_cases same : other = key
    · subst same
      simpa using once
    · simpa [Function.update_of_ne same] using lines.once other
  · intro first second id left right
    by_cases same : first = key
    · by_cases equal : second = key
      · exact same.trans equal.symm
      · rw [Function.update_of_ne equal] at right
        subst same
        rw [Function.update_self] at left
        exact absurd right (known second equal id left)
    · rw [Function.update_of_ne same] at left
      by_cases equal : second = key
      · subst equal
        rw [Function.update_self] at right
        exact absurd left (known first same id right)
      · rw [Function.update_of_ne equal] at right
        exact lines.apart first second id left right
  · intro other id member
    by_cases same : other = key
    · subst same
      rw [Function.update_self] at member
      rcases fresh id member with before | ⟨new, -⟩
      · exact lines.below other id before
      · exact new
    · rw [Function.update_of_ne same] at member
      exact lines.below other id member
  · intro other
    by_cases same : other = key
    · subst same
      simpa using idle
    · simpa [Function.update_of_ne same, active] using lines.idle other
  · intro other mutation
    by_cases same : other = key
    · subst same
      simpa using settled mutation
    · simpa [Function.update_of_ne same, active] using lines.settled other mutation
  · intro other mutation
    by_cases same : other = key
    · subst same
      simpa using under mutation
    · simpa [Function.update_of_ne same, active, waiting, pending] using lines.under other mutation
  · intro other mutation
    by_cases same : other = key
    · subst same
      simpa using sent mutation
    · rw [Function.update_of_ne same]
      intro running
      obtain ⟨write, member, found⟩ := lines.sent other mutation running
      exact ⟨write, mem_append_left _ member, found⟩
  · intro write member
    rcases mem_append.mp member with before | last
    · exact lines.writes write before
    · exact sound write last

theorem Lines.waiting_requested (lines : app.Lines) (member : mutation ∈ app.waiting key) :
    mutation.mutationId ∈ (app.record key).requested := by
  rw [lines.order key]
  exact mem_append_right _ (mem_map_of_mem member)

theorem Lines.active_requested (lines : app.Lines) (running : app.active key = some mutation) :
    mutation.mutationId ∈ (app.record key).requested := by
  rw [lines.order key]
  exact mem_append_left _ (lines.settled key mutation running)

theorem Lines.pending_requested (lines : app.Lines) (member : mutation ∈ app.pending key) :
    mutation.mutationId ∈ (app.record key).requested := by
  rcases mem_append.mp member with running | waits
  · exact lines.active_requested (by simpa using running)
  · exact lines.waiting_requested waits

/-- The first waiting mutation that is not stale starts; its write carries its own queue's items. -/
theorem Lines.startedAt (lines : app.Lines) (split : app.waiting key = skipped ++ rest)
    (own : ∀ next ∈ rest.head?, next.origin.lineage = app.localView.lineage) :
    (app.startedAt key skipped rest).Lines := by
  have order := lines.order key
  have under : ∀ mutation ∈ rest, mutation.Under key := by
    intro mutation member
    apply lines.under key
    exact mem_append_right _ (split ▸ mem_append_right _ member)
  rw [split, map_append] at order
  cases rest with
  | nil =>
    refine lines.keyStep ?_ (lines.once key) (fun id member => .inl member) (fun _ => rfl) (by simp)
      (by simp) (by simp) (by simp)
    simpa [KeyRecord.discard, Function.comp_def] using order
  | cons next queued =>
    have requested : next.mutationId ∈ (app.record key).requested := by
      apply lines.waiting_requested
      rw [split]
      exact mem_append_right _ mem_cons_self
    refine lines.keyStep ?_ (lines.once key) (fun id member => .inl member) (by simp) ?_ ?_ ?_ ?_
    · simpa [KeyRecord.discard, KeyRecord.dispatch, Function.comp_def] using order
    · intro mutation running
      cases running
      simp [KeyRecord.dispatch]
    · intro mutation member
      rcases mem_cons.mp member with rfl | waits
      · exact (PlaylistMutation.withItems_under ..).mpr (under next mem_cons_self)
      · exact under mutation (mem_cons_of_mem _ waits)
    · intro mutation running
      cases running
      refine ⟨_, mem_append_right _ (mem_singleton_self _), ?_, by simp⟩
      exact (under next mem_cons_self).request_key _
    · intro write member
      cases mem_singleton.mp member
      have lineage := own next rfl
      refine ⟨by simp, by simpa using lineage.symm, ?_⟩
      simpa using lines.below key _ requested

theorem startedAt_outstanding (others : ∀ other, other ≠ key → (app.record other).outstanding = (app.activeId other).toList)
    (done : (app.record key).outstanding = []) : (app.startedAt key skipped rest).Outstanding := by
  intro other
  by_cases same : other = key
  · subst same
    cases rest with
    | nil => simp [PlaylistApp.startedAt, PlaylistApp.keyStep, activeId, active, KeyRecord.discard, done]
    | cons next queued => simp [PlaylistApp.startedAt, PlaylistApp.keyStep, activeId, active,
        KeyRecord.discard, KeyRecord.dispatch, done]
  · have kept := others other same
    cases rest <;> simpa [PlaylistApp.startedAt, PlaylistApp.keyStep, activeId, active, Function.update_of_ne same] using kept

theorem startedAt_pending : ((app.startedAt key skipped rest).pending key).map (·.mutationId) = rest.map (·.mutationId) := by
  cases rest <;> simp [PlaylistApp.startedAt, PlaylistApp.keyStep, pending, active, waiting]

theorem startedAt_other {key other : String} (different : other ≠ key) :
    (app.startedAt key skipped rest).playlistMutations other = app.playlistMutations other := by
  cases rest <;> simp [PlaylistApp.startedAt, PlaylistApp.keyStep, Function.update_of_ne different]

variable {id : Nat}

theorem Lines.finish (lines : app.Lines) (fits : app.Fits) (others : ∀ other, other ≠ key →
      (app.record other).outstanding = (app.activeId other).toList)
    (out : (app.record key).outstanding = (app.activeId key).toList.erase id)
    (present : (∃ mutation ∈ app.waiting key, app.isStale mutation = false) →
      app.activeId key = some id → app.embyClient = true) :
    (app.finishPlaylistMutation key id).Lines ∧ (app.finishPlaylistMutation key id).Outstanding := by
  by_cases ends : app.activeId key = some id
  · rw [finish_active app ends]
    obtain ⟨skipped, rest, split, -, fresh, started⟩ := app.startNext_spec (fun found => present found ends)
    rw [started]
    have done : (app.record key).outstanding = [] := by simp [out, ends]
    refine ⟨lines.startedAt split ?_, startedAt_outstanding others done⟩
    intro next first
    apply fits.lineage key next _ (fresh next first)
    rw [split]
    exact mem_append_right _ (mem_of_mem_head? first)
  · rw [finish_other app ends]
    refine ⟨lines, fun other => ?_⟩
    by_cases same : other = key
    · subst same
      rw [out]
      apply erase_of_not_mem
      simpa using ends
    · exact others other same

/-! ### Requests -/

theorem enqueue_spec (lines : app.Lines) (fresh : app.isStale mutation = false)
    (present : app.active key = none → app.embyClient = true) :
    app.enqueuePlaylistMutation key mutation = match app.active key with
      | some running =>
        app.keyStep key (some ⟨some running, app.waiting key ++ [mutation]⟩) { app.record key with
            requested := (app.record key).requested ++ [mutation.mutationId] } []
      | none =>
        app.keyStep key (some ⟨some (mutation.withItems app.localView.embyIds), []⟩) (({ app.record key with
            requested := (app.record key).requested ++ [mutation.mutationId] } : KeyRecord).dispatch mutation.mutationId)
          [⟨mutation.request key app.localView.embyIds, app.localView⟩] := by
  cases running : app.active key with
  | some first =>
    cases found : app.playlistMutations key with
    | none => simp [active, found] at running
    | some state =>
      have same : state.active = some first := by simpa [active, found] using running
      simp [enqueuePlaylistMutation, recordKey, found, same, waiting, setMutations, PlaylistApp.keyStep]
  | none =>
    have found := lines.idle key running
    let recorded := app.recordKey key fun record =>
      { record with requested := record.requested ++ [mutation.mutationId] }
    have stale : recorded.isStale mutation = false := by simpa [recorded] using fresh
    have started : (recorded.setMutations key (some ⟨some mutation, []⟩)).startPlaylistMutation key =
        (recorded.setMutations key (some ⟨some mutation, []⟩)).dispatchPlaylistMutation key := by
      have first : ((recorded.setMutations key (some ⟨some mutation, []⟩)).playlistMutations key).bind
          (·.active) = some mutation := by
        simp [setMutations]
      unfold startPlaylistMutation
      rw [first]
      dsimp only
      rw [isStale_setMutations, stale]
      rfl
    calc app.enqueuePlaylistMutation key mutation
      _ = (recorded.setMutations key (some ⟨some mutation, []⟩)).startPlaylistMutation key := by
        simp [enqueuePlaylistMutation, recorded, recordKey, found]
      _ = recorded.startedAt key [] [mutation] := started.trans (recorded.dispatch_eq (present running))
      _ = _ := by
        simp [PlaylistApp.startedAt, PlaylistApp.keyStep, recorded, recordKey]

/-! ### What leaves the mutations alone -/

/-- What no queue action and no adoption changes. -/
def frame (app : PlaylistApp) :
    ((String → Option PlaylistMutationState) × (String → KeyRecord) × Nat × List PlaylistWrite) ×
      Option SaveDeferral × Bool :=
  (app.lines, app.save, app.embyClient)

@[simp] theorem frame_adopt (link : QueueLink) (unified : QueueState) : (app.adopt link unified).frame = app.frame := by
  cases link with
  | localOwner =>
    unfold adopt adoptOwnerSource
    dsimp only
    split
    · rfl
    · split
      · rfl
      · split <;> rfl
  | peer => rfl

@[simp] theorem frame_adoptAll (adopted : List (QueueLink × QueueState)) : (app.adoptAll adopted).frame = app.frame := by
  unfold adoptAll
  induction adopted generalizing app with
  | nil => rfl
  | cons first adopted ih => exact (@ih (app.adopt first.1 first.2)).trans (frame_adopt ..)

@[simp] theorem frame_queueOp (answer : OwnerAnswer) : (app.queueOp answer).1.frame = app.frame := frame_adoptAll _

@[simp] theorem frame_advanceQueueEpoch : app.advanceQueueEpoch.frame = app.frame := rfl

theorem frame_queueEdit (link : QueueLink) (answer : OwnerAnswer) : (app.queueEdit link answer).frame = app.frame := by
  have op := app.frame_queueOp answer
  unfold queueEdit
  split
  · rename_i sent
    rw [sent] at op
    exact op
  · rename_i sent
    rw [sent] at op
    split <;> exact op

theorem frame_playItemsRouted (answer : OwnerAnswer) : (app.playItemsRouted answer).frame = app.frame := by
  unfold playItemsRouted
  split
  · rfl
  · split
    · exact frame_queueOp _
    · exact (frame_queueOp _).trans rfl

theorem frame_executePendingQueueAction (action : PendingQueueAction) (answer : OwnerAnswer) :
    (app.executePendingQueueAction action answer).frame = app.frame := by
  have clears (start : PlaylistApp) : (start.executePendingQueueClear answer).frame = start.frame := by
    have op := start.frame_queueOp answer
    unfold executePendingQueueClear
    dsimp only
    split
    · rfl
    · split
      · rename_i sent
        rw [sent] at op
        exact op
      · rename_i sent
        rw [sent] at op
        split <;> exact op
  have plays (start : PlaylistApp) : (start.executePendingPlayItems answer).frame = start.frame := by
    unfold executePendingPlayItems
    split
    · rfl
    · exact frame_queueOp _
  unfold executePendingQueueAction
  cases action with
  | playItems =>
    apply (plays _).trans
    split <;> rfl
  | clearQueue =>
    apply (clears _).trans
    split <;> rfl

theorem frame_sourceApplied (result : Option String) (answer : OwnerAnswer)
    (request : PlaylistRequest) : (app.sourceApplied result answer request).frame = app.frame := by
  have applies (source : QueueSource) (origin : QueueOrigin) :
      (app.applySavedPlaylistSource source origin answer).frame = app.frame := by
    have op := app.frame_queueOp answer
    unfold applySavedPlaylistSource
    split
    · rename_i sent
      rw [sent] at op
      exact op
    · rename_i sent
      rw [sent] at op
      exact op
  cases request with
  | save => rfl
  | create =>
    unfold sourceApplied
    cases result with
    | none => rfl
    | some id =>
      dsimp only
      split
      · exact applies _ _
      · rfl
  | replace =>
    unfold sourceApplied
    cases result with
    | none => rfl
    | some id =>
      dsimp only
      split
      · exact applies _ _
      · rfl

/-! ### The law of a run -/

structure Ledger (app : PlaylistApp) : Prop where
  lines : app.Lines
  outstanding : app.Outstanding
  bound : ∀ id action, app.save = some (.awaitingSave id action) →
    ∃ key, ∃ mutation ∈ app.pending key, mutation.mutationId = id
  /-- What a queue action waits for is a save, under every key and in every request sent. -/
  kinds : ∀ id action, app.save = some (.awaitingSave id action) →
    (∀ key, ∀ mutation ∈ app.pending key, mutation.mutationId = id → mutation.isSave = true) ∧
      ∀ write ∈ app.writes, write.request.mutationId = id → write.request.isSave = true

structure Kept (app : PlaylistApp) : Prop where
  ledger : app.Ledger
  fits : app.Fits

theorem Ledger.inOrder (ledger : app.Ledger) : app.InOrder where
  order := ledger.lines.order
  once := ledger.lines.once
  apart := ledger.lines.apart
  outstanding := ledger.outstanding
  sent key id running := by
    obtain ⟨mutation, active, rfl⟩ := Option.map_eq_some_iff.mp running
    exact ledger.lines.sent key mutation active
  writes write member := ⟨(ledger.lines.writes write member).1, (ledger.lines.writes write member).2.1⟩
  bound := ledger.bound

/-- The law survives whatever leaves the mutations alone, if nothing new waits for a save. -/
theorem Ledger.view (ledger : app.Ledger) (same : next.lines = app.lines)
    (save : ∀ id action, next.save = some (.awaitingSave id action) →
      app.save = some (.awaitingSave id action)) : next.Ledger := by
  refine ⟨ledger.lines.same same, ledger.outstanding.same same, ?_, ?_⟩
  all_goals
    intro id action bound
    have before := save id action bound
    cases app
    cases next
    simp only [PlaylistApp.lines, Prod.mk.injEq] at same
    obtain ⟨rfl, rfl, rfl, rfl⟩ := same
  · exact ledger.bound id action before
  · exact ledger.kinds id action before

theorem Ledger.framed (ledger : app.Ledger) (same : next.frame = app.frame) :
    next.Ledger := by
  apply ledger.view (congrArg Prod.fst same)
  intro id action bound
  exact (congrArg (fun frame => frame.2.1) same).symm.trans bound

theorem Ledger.bound_below (ledger : app.Ledger) {action : PendingQueueAction}
    (bound : app.save = some (.awaitingSave id action)) : id < app.nextPlaylistMutation := by
  obtain ⟨key, mutation, member, rfl⟩ := ledger.bound id action bound
  exact ledger.lines.below key _ (ledger.lines.pending_requested member)

/-! ### Completions -/

/-- What a finished key leaves: its mutations and writes come from those that waited, and none of them
    is lost but the finished one and the stale. -/
structure Finishes (app next : PlaylistApp) (key : String) (id : Nat) : Prop where
  view : next.localView = app.localView ∧ next.isStale = app.isStale
  save : next.save = app.save
  counter : next.nextPlaylistMutation = app.nextPlaylistMutation
  pending : ∀ other, ∀ mutation ∈ next.pending other,
    ∃ before ∈ app.pending other, before.mutationId = mutation.mutationId ∧
      before.isSave = mutation.isSave
  writes : ∀ write ∈ next.writes, write ∈ app.writes ∨
    ∃ mutation ∈ app.pending key, mutation.mutationId = write.request.mutationId ∧
      mutation.isSave = write.request.isSave
  stays : ∀ other, ∀ mutation ∈ app.pending other, mutation.mutationId ≠ id →
    (mutation ∈ app.waiting other → app.isStale mutation = false) →
    ∃ after ∈ next.pending other, after.mutationId = mutation.mutationId
  shrinks : app.activeId key = some id → (next.pending key).map (·.mutationId) <:+
    (app.waiting key).map (·.mutationId)

theorem pending_of_mutations (same : next.playlistMutations key = app.playlistMutations key) :
    next.pending key = app.pending key := by
  simp [pending, active, waiting, same]

theorem startedAt_finishes (ends : app.activeId key = some id) (split : app.waiting key = skipped ++ rest)
    (stale : ∀ each ∈ skipped, app.isStale each = true) :
    Finishes app (app.startedAt key skipped rest) key id := by
  have whole : ∀ mutation ∈ rest, mutation ∈ app.pending key := by
    intro mutation member
    apply mem_append_right
    rw [split]
    exact mem_append_right _ member
  have ids := @startedAt_pending app key skipped rest
  refine ⟨?_, ?_, ?_, ?_, ?_, ?_, ?_⟩
  · cases rest <;> refine ⟨rfl, ?_⟩ <;> funext mutation <;> cases mutation <;> rfl
  · cases rest <;> rfl
  · cases rest <;> rfl
  · intro other mutation member
    by_cases same : other = key
    · subst same
      cases rest with
      | nil => simp [PlaylistApp.startedAt, PlaylistApp.keyStep, pending, active, waiting] at member
      | cons next queued =>
        have either : mutation = next.withItems app.localView.embyIds ∨ mutation ∈ queued := by
          simpa [PlaylistApp.startedAt, PlaylistApp.keyStep, pending, active, waiting] using member
        rcases either with rfl | later
        · exact ⟨next, whole next mem_cons_self, by simp⟩
        · exact ⟨mutation, whole mutation (mem_cons_of_mem _ later), rfl, rfl⟩
    · rw [pending_of_mutations (startedAt_other same)] at member
      exact ⟨mutation, member, rfl, rfl⟩
  · intro write member
    cases rest with
    | nil =>
      left
      simpa [PlaylistApp.startedAt, PlaylistApp.keyStep] using member
    | cons next queued =>
      rcases mem_append.mp member with before | last
      · exact .inl before
      · cases mem_singleton.mp last
        exact .inr ⟨next, whole next mem_cons_self, by simp⟩
  · intro other mutation member different fresh
    by_cases same : other = key
    · subst same
      have waits : mutation ∈ app.waiting other := by
        rcases mem_append.mp member with running | waits
        · have active : app.active other = some mutation := by simpa using running
          rw [activeId, active] at ends
          exact absurd (Option.some.inj ends) different
        · exact waits
      have current := fresh waits
      rw [split] at waits
      have left : mutation ∈ rest := by
        rcases mem_append.mp waits with skips | stays
        · exact absurd (current.symm.trans (stale mutation skips)) Bool.false_ne_true
        · exact stays
      have named : mutation.mutationId ∈ rest.map (·.mutationId) := mem_map_of_mem left
      rw [← ids] at named
      obtain ⟨after, found, equal⟩ := mem_map.mp named
      exact ⟨after, found, equal⟩
    · rw [pending_of_mutations (startedAt_other same)]
      exact ⟨mutation, member, rfl⟩
  · intro _
    rw [ids, split, map_append]
    exact suffix_append _ _

theorem finish_finishes (present : (∃ mutation ∈ app.waiting key, app.isStale mutation = false) →
      app.activeId key = some id → app.embyClient = true) :
    Finishes app (app.finishPlaylistMutation key id) key id := by
  by_cases ends : app.activeId key = some id
  · rw [finish_active app ends]
    obtain ⟨skipped, rest, split, stale, -, started⟩ := app.startNext_spec (fun found => present found ends)
    rw [started]
    exact startedAt_finishes ends split stale
  · rw [finish_other app ends]
    exact ⟨⟨rfl, rfl⟩, rfl, rfl, fun other mutation member => ⟨mutation, member, rfl, rfl⟩,
      fun write member => .inl member, fun other mutation member _ _ => ⟨mutation, member, rfl⟩,
      fun same => absurd same ends⟩

theorem requestCompleted_record (request : PlaylistRequest) (key : String) :
    ((app.requestCompleted request).record key).requested = (app.record key).requested ∧
      ((app.requestCompleted request).record key).settled = (app.record key).settled ∧
      ((app.requestCompleted request).record key).outstanding =
        if key = request.key then (app.record key).outstanding.erase request.mutationId
        else (app.record key).outstanding := by
  unfold requestCompleted recordKey
  by_cases same : key = request.key
  · subst same
    simp
  · simp [same]

theorem Lines.requestCompleted (lines : app.Lines) (request : PlaylistRequest) : (app.requestCompleted request).Lines where
  order key := by
    obtain ⟨requested, settled, -⟩ := app.requestCompleted_record request key
    rw [requested, settled]
    exact lines.order key
  once key := (app.requestCompleted_record request key).1 ▸ lines.once key
  apart key other id left right := by
    rw [(app.requestCompleted_record request key).1] at left
    rw [(app.requestCompleted_record request other).1] at right
    exact lines.apart key other id left right
  below key id member := by
    rw [(app.requestCompleted_record request key).1] at member
    exact lines.below key id member
  idle := lines.idle
  settled key mutation running := by
    rw [(app.requestCompleted_record request key).2.1]
    exact lines.settled key mutation running
  under := lines.under
  sent := lines.sent
  writes := lines.writes

theorem Ledger.complete (ledger : app.Ledger) {middle : PlaylistApp} {request : PlaylistRequest}
    (same : middle.lines = (app.requestCompleted request).lines)
    (client : middle.embyClient = app.embyClient)
    (save : ∀ id action, middle.save = some (.awaitingSave id action) →
      app.save = some (.awaitingSave id action) ∧ id ≠ request.mutationId)
    (fits : middle.Fits)
    (present : (∃ mutation ∈ app.waiting request.key, middle.isStale mutation = false) →
      app.activeId request.key = some request.mutationId → app.embyClient = true) :
    (middle.finishPlaylistMutation request.key request.mutationId).Ledger ∧
      Finishes middle (middle.finishPlaylistMutation request.key request.mutationId) request.key
        request.mutationId := by
  have mutations : middle.playlistMutations = app.playlistMutations := congrArg Prod.fst same
  have record : middle.record = (app.requestCompleted request).record := congrArg (fun lines => lines.2.1) same
  have writes : middle.writes = app.writes := congrArg (fun lines => lines.2.2.2) same
  have pending (key : String) : middle.pending key = app.pending key := pending_of_mutations (congrFun mutations key)
  have activeIds (key : String) : middle.activeId key = app.activeId key := by
    simp [activeId, active, mutations]
  have waits (key : String) : middle.waiting key = app.waiting key := by
    simp [waiting, mutations]
  have starts : (∃ mutation ∈ middle.waiting request.key, middle.isStale mutation = false) →
      middle.activeId request.key = some request.mutationId → middle.embyClient = true := by
    rw [waits, activeIds, client]
    exact present
  have finishes := finish_finishes starts
  have lines : middle.Lines := (ledger.lines.requestCompleted request).same same
  have finished := lines.finish fits (fun other different => by
      rw [record, (app.requestCompleted_record request other).2.2, if_neg different, activeIds]
      exact ledger.outstanding other)
    (by
      rw [record, (app.requestCompleted_record request request.key).2.2, if_pos rfl, activeIds, ledger.outstanding request.key])
    starts
  refine ⟨⟨finished.1, finished.2, fun id action bound => ?_, fun id action bound => ?_⟩, finishes⟩
  · rw [finishes.save] at bound
    obtain ⟨before, different⟩ := save id action bound
    obtain ⟨key, mutation, member, rfl⟩ := ledger.bound id action before
    obtain ⟨after, found, same⟩ := finishes.stays key mutation (pending key ▸ member) different
      (fun waits => fits.bound _ action bound key mutation waits rfl)
    exact ⟨key, after, found, same⟩
  · rw [finishes.save] at bound
    obtain ⟨mutationsSave, writesSave⟩ := ledger.kinds id action (save id action bound).1
    refine ⟨fun key mutation member named => ?_, fun write member named => ?_⟩
    · obtain ⟨before, found, equal, kind⟩ := finishes.pending key mutation member
      rw [pending] at found
      exact kind.symm.trans (mutationsSave key before found (equal.trans named))
    · rcases finishes.writes write member with old | ⟨mutation, found, equal, kind⟩
      · exact writesSave write (writes ▸ old) named
      · rw [pending] at found
        exact kind.symm.trans (mutationsSave _ mutation found (equal.trans named))

theorem handleCompletion_spec (result : Option String) (answer : OwnerAnswer) (request : PlaylistRequest) :
    ∃ middle : PlaylistApp, middle.lines = app.lines ∧ middle.embyClient = app.embyClient ∧
      (∀ id action, middle.save = some (.awaitingSave id action) → app.save = some (.awaitingSave id action) ∧
          (request.isSave = true → id ≠ request.mutationId)) ∧
      ((app.sourceApplied result answer request).Fits → middle.Fits) ∧
      middle.isStale = (app.sourceApplied result answer request).isStale ∧
      (app.handleCompletion result answer request).frame =
        (middle.finishPlaylistMutation request.key request.mutationId).frame := by
  have applied := app.frame_sourceApplied result answer request
  cases request with
  | create mutationId name key source origin ids =>
    refine ⟨app.sourceApplied result answer (.create mutationId name key source origin ids), ?_⟩
    refine ⟨congrArg Prod.fst applied, congrArg (fun frame => frame.2.2) applied,
      fun id action bound => ⟨?_, fun none => by cases none⟩, id, rfl, rfl⟩
    exact (congrArg (fun frame => frame.2.1) applied).symm.trans bound
  | replace mutationId playlistId name origin ids =>
    refine ⟨app.sourceApplied result answer (.replace mutationId playlistId name origin ids), ?_⟩
    refine ⟨congrArg Prod.fst applied, congrArg (fun frame => frame.2.2) applied,
      fun id action bound => ⟨?_, fun none => by cases none⟩, id, rfl, rfl⟩
    exact (congrArg (fun frame => frame.2.1) applied).symm.trans bound
  | save mutationId playlistId origin source ids =>
    let taken := (app.takeOnSaveComplete mutationId).2
    let middle : PlaylistApp := if result.isSome && taken.originIsCurrent origin && taken.queuePlaylistId == some source then
        { taken with queueDirty := false }
      else taken
    have takes : taken = app ∨ taken = { app with save := none } := by
      unfold taken takeOnSaveComplete
      split
      · split
        · exact .inr rfl
        · exact .inl rfl
      · exact .inl rfl
    have left : ∀ id action, taken.save = some (.awaitingSave id action) →
        app.save = some (.awaitingSave id action) ∧ id ≠ mutationId := by
      intro id action bound
      unfold taken takeOnSaveComplete at bound
      split at bound
      · rename_i saved waits
        split at bound
        · cases bound
        · rename_i different
          rw [waits] at bound
          cases bound
          exact ⟨waits, different⟩
      · rename_i free
        exact absurd bound (free id action)
    have view : middle.lines = taken.lines ∧ middle.save = taken.save ∧
        middle.embyClient = taken.embyClient ∧ middle.localView = taken.localView ∧
        middle.isStale = taken.isStale ∧ middle.waiting = taken.waiting := by
      unfold middle
      split
      · refine ⟨rfl, rfl, rfl, rfl, ?_, rfl⟩
        funext mutation
        cases mutation <;> rfl
      · exact ⟨rfl, rfl, rfl, rfl, rfl, rfl⟩
    obtain ⟨lines, save, client, localView, stale, waits⟩ := view
    have staleTaken : taken.isStale = app.isStale := by
      rcases takes with same | cleared
      · rw [same]
      · rw [cleared]
        funext mutation
        cases mutation <;> rfl
    refine ⟨middle, ?_, ?_, ?_, ?_, stale.trans staleTaken, ?_⟩
    · rw [lines]
      rcases takes with same | cleared
      · rw [same]
      · rw [cleared]
        rfl
    · rw [client]
      rcases takes with same | cleared
      · rw [same]
      · rw [cleared]
    · intro id action bound
      obtain ⟨before, different⟩ := left id action (save ▸ bound)
      exact ⟨before, fun _ => different⟩
    · intro fits
      have same : taken.waiting = app.waiting ∧ taken.localView = app.localView := by
        rcases takes with same | cleared
        · rw [same]
          exact ⟨rfl, rfl⟩
        · rw [cleared]
          exact ⟨rfl, rfl⟩
      refine ⟨fun key mutation member fresh => ?_, fun id action bound key mutation member named => ?_⟩
      · rw [waits, same.1] at member
        rw [localView, same.2]
        exact fits.lineage key mutation member ((stale.trans staleTaken) ▸ fresh)
      · rw [waits, same.1] at member
        rw [stale, staleTaken]
        exact fits.bound id action (left id action (save ▸ bound)).1 key mutation member named
    · have acts (finished : PlaylistApp) (action : PendingQueueAction) :
          (if result.isSome && finished.originIsCurrent origin && finished.queuePlaylistId == some playlistId then
            finished.executePendingQueueAction action answer
          else finished).frame = finished.frame := by
        split
        · exact frame_executePendingQueueAction action answer
        · rfl
      simp only [handleCompletion, handlePlaylistMutationComplete]
      split
      · rename_i action _
        exact acts (middle.finishPlaylistMutation playlistId mutationId) action
      · rfl

theorem Ledger.completed (ledger : app.Ledger) {index : Nat} {result : Option String}
    {answer : OwnerAnswer} (fitting : app.Fitting (.completed index result answer)) :
    (app.handle (.completed index result answer)).Ledger ∧ app.Progresses (.completed index result answer) := by
  have other : ∀ key id, app.activeId key ≠ some id → app.finishPlaylistMutation key id = app :=
    fun key id different => finish_other app different
  cases found : app.writes[index]? with
  | none =>
    have same : app.handle (.completed index result answer) = app := by simp [handle, found]
    rw [same]
    refine ⟨ledger, other, ?_⟩
    intro other result' answer' write same present
    cases same
    exact absurd (found.symm.trans present) (by simp)
  | some write =>
    have member : write ∈ app.writes := mem_of_getElem? found
    obtain ⟨fits, present⟩ := fitting.2.1 index result answer write rfl found
    obtain ⟨middle, lines, client, save, middleFits, stale, framed⟩ :=
      (app.requestCompleted write.request).handleCompletion_spec result answer write.request
    have handled : app.handle (.completed index result answer) =
        (app.requestCompleted write.request).handleCompletion result answer write.request := by
      simp [handle, found]
    have apart : ∀ id action, middle.save = some (.awaitingSave id action) →
        app.save = some (.awaitingSave id action) ∧ id ≠ write.request.mutationId := by
      intro id action bound
      obtain ⟨before, different⟩ := save id action bound
      refine ⟨before, fun named => ?_⟩
      have saves := (ledger.kinds id action before).2 write member named.symm
      exact different saves named
    obtain ⟨finished, finishes⟩ := ledger.complete lines client apart (middleFits fits) (by rw [stale]; exact present)
    rw [← handled] at framed
    have mutations := congrArg (fun frame => frame.1.1) framed
    refine ⟨finished.framed framed, other, ?_⟩
    intro otherIndex otherResult otherAnswer otherWrite same otherFound
    cases same
    cases found.symm.trans otherFound
    refine ⟨fun running => ?_, fun action bound => ?_⟩
    · have waits : middle.waiting write.request.key = app.waiting write.request.key := by
        have same : middle.playlistMutations = app.playlistMutations := congrArg Prod.fst lines
        simp [waiting, same]
      have active : middle.activeId write.request.key = some write.request.mutationId := by
        have same : middle.playlistMutations = app.playlistMutations := congrArg Prod.fst lines
        simpa [activeId, PlaylistApp.active, same] using running
      rw [pending_of_mutations (congrFun mutations _), ← waits]
      exact finishes.shrinks active
    · have kept : middle.save = some (.awaitingSave write.request.mutationId action) := by
        rw [← finishes.save]
        exact (congrArg (fun frame => frame.2.1) framed).symm.trans bound
      exact (apart _ action kept).2 rfl

structure Requested (app next : PlaylistApp) (key : String) (mutation : PlaylistMutation) : Prop where
  lines : next.Lines
  outstanding : next.Outstanding
  view : next.localView = app.localView ∧ next.isStale = app.isStale
  save : next.save = app.save
  pending : ∀ other, ∀ each ∈ next.pending other, each ∈ app.pending other ∨
    each.mutationId = mutation.mutationId ∧ each.isSave = mutation.isSave
  stays : ∀ other, ∀ each ∈ app.pending other, each ∈ next.pending other
  joins : ∃ each ∈ next.pending key, each.mutationId = mutation.mutationId
  waiting : ∀ other, ∀ each ∈ next.waiting other, each ∈ app.waiting other ∨ each = mutation
  writes : ∀ write ∈ next.writes, write ∈ app.writes ∨
    write.request.mutationId = mutation.mutationId ∧ write.request.isSave = mutation.isSave

theorem requested_of_keyStep (outstanding : app.Outstanding)
    {mutation last : PlaylistMutation} {state : Option PlaylistMutationState} {record : KeyRecord}
    {writes : List PlaylistWrite} (lines : (app.takeMutationId.keyStep key state record writes).Lines)
    (out : record.outstanding = ((state.bind (·.active)).map (·.mutationId)).toList)
    (pending : (state.bind (·.active)).toList ++ (state.map (·.queued)).getD [] = app.pending key ++ [last])
    (same : last.mutationId = mutation.mutationId ∧ last.isSave = mutation.isSave)
    (waits : ∀ each ∈ (state.map (·.queued)).getD [], each ∈ app.waiting key ∨ each = mutation)
    (sent : ∀ write ∈ writes, write.request.mutationId = mutation.mutationId ∧ write.request.isSave = mutation.isSave) :
    Requested app (app.takeMutationId.keyStep key state record writes) key mutation := by
  have here : (app.takeMutationId.keyStep key state record writes).pending key = app.pending key ++ [last] := by
    rw [← pending]
    simp [PlaylistApp.keyStep, PlaylistApp.pending, active, waiting]
  have there : ∀ other, other ≠ key → (app.takeMutationId.keyStep key state record writes).playlistMutations other =
        app.playlistMutations other :=
    fun other different => Function.update_of_ne different ..
  refine ⟨lines, ?_, ⟨rfl, ?_⟩, rfl, ?_, ?_, ?_, ?_, ?_⟩
  · intro other
    by_cases equal : other = key
    · subst equal
      simpa [PlaylistApp.keyStep, activeId, active] using out
    · simpa [PlaylistApp.keyStep, takeMutationId, activeId, active, Function.update_of_ne equal] using outstanding other
  · funext each
    cases each <;> rfl
  · intro other each member
    by_cases equal : other = key
    · subst equal
      rw [here] at member
      rcases mem_append.mp member with before | new
      · exact .inl before
      · cases mem_singleton.mp new
        exact .inr same
    · exact .inl (pending_of_mutations (there other equal) ▸ member)
  · intro other each member
    by_cases equal : other = key
    · subst equal
      rw [here]
      exact mem_append_left _ member
    · exact (pending_of_mutations (there other equal)).symm ▸ member
  · exact ⟨last, here ▸ mem_append_right _ (mem_singleton_self _), same.1⟩
  · intro other each member
    by_cases equal : other = key
    · subst equal
      apply waits
      simpa [PlaylistApp.keyStep, waiting] using member
    · left
      simpa [PlaylistApp.keyStep, takeMutationId, waiting, Function.update_of_ne equal] using member
  · intro write member
    rcases mem_append.mp member with before | new
    · exact .inl before
    · exact .inr (sent write new)

theorem Lines.requested (lines : app.Lines) (outstanding : app.Outstanding)
    (id : mutation.mutationId = app.nextPlaylistMutation) (room : app.nextPlaylistMutation < u64Max)
    (under : mutation.Under key) (fresh : app.isStale mutation = false)
    (own : mutation.origin.lineage = app.localView.lineage)
    (present : app.active key = none → app.embyClient = true) :
    Requested app (app.takeMutationId.enqueuePlaylistMutation key mutation) key mutation := by
  have counter : app.takeMutationId.nextPlaylistMutation = app.nextPlaylistMutation + 1 := by
    simp only [takeMutationId]
    omega
  have taken : app.takeMutationId.Lines := by
    refine ⟨lines.order, lines.once, lines.apart, ?_, lines.idle, lines.settled, lines.under, lines.sent, ?_⟩
    · intro other id member
      have := lines.below other id member
      omega
    · intro write member
      obtain ⟨ids, lineage, below⟩ := lines.writes write member
      exact ⟨ids, lineage, by omega⟩
  have unknown : ∀ other, mutation.mutationId ∉ (app.record other).requested := by
    intro other member
    have := lines.below other _ member
    omega
  have once : ((app.record key).requested ++ [mutation.mutationId]).Nodup := by
    rw [nodup_append]
    refine ⟨lines.once key, nodup_singleton _, ?_⟩
    intro known member last named
    rw [mem_singleton.mp named]
    exact fun same => unknown key (same ▸ member)
  have ids : ∀ each ∈ (app.record key).requested ++ [mutation.mutationId], each ∈ (app.record key).requested ∨
        each < app.takeMutationId.nextPlaylistMutation ∧ ∀ other, each ∉ (app.record other).requested := by
    intro each member
    rcases mem_append.mp member with before | last
    · exact .inl before
    · cases mem_singleton.mp last
      exact .inr ⟨by omega, unknown⟩
  have stale : app.takeMutationId.isStale mutation = false := by
    cases mutation <;> exact fresh
  have spec := enqueue_spec taken stale present
  rw [spec]
  have order := lines.order key
  cases running : app.active key with
  | some first =>
    have active : app.takeMutationId.active key = some first := running
    rw [active]
    refine requested_of_keyStep outstanding (taken.keyStep ?_ once ids (by simp) ?_ ?_ ?_ (by simp)) ?_ ?_
      ⟨rfl, rfl⟩ ?_ (by simp)
    · simp [takeMutationId, waiting, order]
    · intro each same
      cases same
      exact lines.settled key first running
    · intro each member
      have either : each ∈ app.pending key ∨ each = mutation := by
        simpa [PlaylistApp.pending, running, or_assoc, waiting, takeMutationId] using member
      rcases either with before | rfl
      · exact lines.under key each before
      · exact under
    · intro each same
      cases same
      obtain ⟨write, member, found⟩ := lines.sent key first running
      exact ⟨write, mem_append_left _ member, found⟩
    · simpa [takeMutationId, activeId, running] using outstanding key
    · simp [PlaylistApp.pending, running, waiting, takeMutationId]
    · intro each member
      simpa [waiting, takeMutationId] using member
  | none =>
    have active : app.takeMutationId.active key = none := running
    have empty : app.waiting key = [] := by simp [waiting, lines.idle key running]
    rw [empty] at order
    rw [active]
    refine requested_of_keyStep outstanding (taken.keyStep ?_ once ids (by simp) ?_ ?_ ?_ ?_) ?_ ?_
      ⟨PlaylistMutation.withItems_mutationId app.localView.embyIds mutation,
        mutation.withItems_isSave app.localView.embyIds⟩ (by simp) ?_
    · simpa [takeMutationId, KeyRecord.dispatch] using order
    · intro each same
      cases same
      simp [KeyRecord.dispatch]
    · intro each member
      cases mem_singleton.mp member
      exact (PlaylistMutation.withItems_under ..).mpr under
    · intro each same
      cases same
      refine ⟨_, mem_append_right _ (mem_singleton_self _), under.request_key _, by simp⟩
    · intro write member
      cases mem_singleton.mp member
      refine ⟨by simp, by simpa [takeMutationId] using own.symm, ?_⟩
      simp only [PlaylistMutation.request_mutationId]
      omega
    · simpa [takeMutationId, KeyRecord.dispatch, activeId, running] using outstanding key
    · simp [PlaylistApp.pending, running, empty, takeMutationId]
    · intro write member
      cases mem_singleton.mp member
      exact ⟨by simp, by simp⟩

theorem Kept.requested (kept : app.Kept) (requested : Requested app next key mutation)
    (id : mutation.mutationId = app.nextPlaylistMutation) (fresh : app.isStale mutation = false)
    (own : mutation.origin.lineage = app.localView.lineage) : next.Kept := by
  obtain ⟨ledger, fits⟩ := kept
  obtain ⟨localView, stale⟩ := requested.view
  refine ⟨⟨requested.lines, requested.outstanding, ?_, ?_⟩, ?_, ?_⟩
  · intro waits action bound
    obtain ⟨other, each, member, named⟩ := ledger.bound waits action (requested.save ▸ bound)
    exact ⟨other, each, requested.stays other each member, named⟩
  · intro waits action bound
    have before := requested.save ▸ bound
    have below := ledger.bound_below before
    obtain ⟨mutations, writes⟩ := ledger.kinds waits action before
    refine ⟨fun other each member named => ?_, fun write member named => ?_⟩
    · rcases requested.pending other each member with old | ⟨new, -⟩
      · exact mutations other each old named
      · omega
    · rcases requested.writes write member with old | ⟨new, -⟩
      · exact writes write old named
      · omega
  · intro other each member current
    rw [localView]
    rw [stale] at current
    rcases requested.waiting other each member with before | rfl
    · exact fits.lineage other each before current
    · exact own
  · intro waits action bound other each member named
    rw [stale]
    rcases requested.waiting other each member with before | rfl
    · exact fits.bound waits action (requested.save ▸ bound) other each before named
    · exact fresh

theorem Kept.bound_to (kept : app.Kept) (requested : Requested app next key mutation)
    (id : mutation.mutationId = app.nextPlaylistMutation) (fresh : app.isStale mutation = false)
    (own : mutation.origin.lineage = app.localView.lineage) (saves : mutation.isSave = true) :
    (next.bindToSave (some mutation.mutationId)).Kept := by
  obtain ⟨ledger, fits⟩ := kept.requested requested id fresh own
  have lines := kept.ledger.lines
  obtain ⟨localView, stale⟩ := requested.view
  have bound : ∀ waits action, (next.bindToSave (some mutation.mutationId)).save = some (.awaitingSave waits action) →
        waits = mutation.mutationId := by
    intro waits action
    unfold bindToSave
    split
    · rename_i first named
      cases named
      intro same
      cases same
      rfl
    · simp
  have same : (next.bindToSave (some mutation.mutationId)).lines = next.lines := by
    unfold bindToSave
    split <;> rfl
  have view : (next.bindToSave (some mutation.mutationId)).localView = next.localView ∧
      (next.bindToSave (some mutation.mutationId)).isStale = next.isStale := by
    unfold bindToSave
    split <;> refine ⟨rfl, ?_⟩ <;> funext each <;> cases each <;> rfl
  have mutations : (next.bindToSave (some mutation.mutationId)).playlistMutations =
      next.playlistMutations := congrArg Prod.fst same
  have pending (other : String) : (next.bindToSave (some mutation.mutationId)).pending other =
      next.pending other := pending_of_mutations (congrFun mutations other)
  have waiting (other : String) : (next.bindToSave (some mutation.mutationId)).waiting other = next.waiting other := by
    simp [PlaylistApp.waiting, mutations]
  have unknown : ∀ other, ∀ each ∈ app.pending other, each.mutationId ≠ mutation.mutationId := by
    intro other each member
    have := lines.below other _ (lines.pending_requested member)
    omega
  refine ⟨⟨ledger.lines.same same, ledger.outstanding.same same, ?_, ?_⟩, ?_, ?_⟩
  · intro waits action binds
    obtain ⟨each, member, named⟩ := requested.joins
    refine ⟨key, each, (pending key).symm ▸ member, ?_⟩
    rw [named, bound waits action binds]
  · intro waits action binds
    have named := bound waits action binds
    refine ⟨fun other each member equal => ?_, fun write member equal => ?_⟩
    · rw [pending] at member
      rcases requested.pending other each member with old | ⟨-, kind⟩
      · exact absurd (equal.trans named) (unknown other each old)
      · exact kind.trans saves
    · have writes : (next.bindToSave (some mutation.mutationId)).writes = next.writes := congrArg (fun lines => lines.2.2.2) same
      have sent : write ∈ next.writes := writes ▸ member
      rcases requested.writes write sent with old | ⟨-, kind⟩
      · have := (lines.writes write old).2.2
        omega
      · exact kind.trans saves
  · intro other each member current
    rw [view.1]
    rw [view.2] at current
    rw [waiting] at member
    exact fits.lineage other each member current
  · intro waits action binds other each member equal
    rw [view.2, stale]
    rw [waiting] at member
    rcases requested.waiting other each member with before | rfl
    · have old : each ∈ app.pending other := mem_append_right _ before
      exact absurd (equal.trans (bound waits action binds)) (unknown other each old)
    · exact fresh

/-! ### One input -/

theorem savePlaylistToEmby_spec (requests : app.requestKey .saved = some key) : ∃ mutation : PlaylistMutation,
      app.savePlaylistToEmby = (some mutation.mutationId, app.takeMutationId.enqueuePlaylistMutation key mutation) ∧
      mutation.mutationId = app.nextPlaylistMutation ∧ mutation.Under key ∧
      app.isStale mutation = false ∧ mutation.isSave = true ∧
      some mutation.origin.lineage = app.ownerLineage := by
  obtain ⟨lineage, owner, shown⟩ := Option.bind_eq_some_iff.mp requests
  refine ⟨.save app.nextPlaylistMutation ⟨app.queueEpoch, lineage⟩ key none, ?_, rfl, trivial, ?_, rfl, owner.symm⟩
  · simp [savePlaylistToEmby, queueOrigin, shown, owner, PlaylistMutation.mutationId]
  · simp [isStale, originIsCurrent, shown]

theorem savePlaylistToEmby_none (requests : app.requestKey .saved = none) : app.savePlaylistToEmby = (none, app) := by
  unfold savePlaylistToEmby
  split
  · rename_i playlistId origin shown known
    obtain ⟨lineage, owner, -⟩ := Option.map_eq_some_iff.mp known
    simp [requestKey, owner, shown] at requests
  · rfl

theorem Kept.saved (kept : app.Kept) (requests : app.requestKey .saved = some key)
    (room : app.nextPlaylistMutation < u64Max) (own : app.ownerLineage = some app.localView.lineage)
    (present : app.active key = none → app.embyClient = true) :
    app.savePlaylistToEmby.2.Kept ∧ (app.savePlaylistToEmby.2.bindToSave app.savePlaylistToEmby.1).Kept := by
  obtain ⟨mutation, saved, id, under, fresh, saves, lineage⟩ := savePlaylistToEmby_spec requests
  have own : mutation.origin.lineage = app.localView.lineage := Option.some.inj (lineage.trans own)
  have requested := kept.ledger.lines.requested kept.ledger.outstanding id room under fresh own present
  rw [saved]
  exact ⟨kept.requested requested id fresh own, kept.bound_to requested id fresh own saves⟩

theorem Kept.savedAs (kept : app.Kept) {name : String} (requests : app.requestKey (.savedAs name) = some key)
    (room : app.nextPlaylistMutation < u64Max) (own : app.ownerLineage = some app.localView.lineage)
    (present : app.active key = none → app.embyClient = true) :
    (app.saveQueueAsPlaylist name).Kept := by
  simp only [requestKey, own, Option.map_some, Option.some.injEq] at requests
  let mutation : PlaylistMutation := .createAs app.nextPlaylistMutation key name
    ⟨app.queueEpoch, app.localView.lineage⟩ app.queuePlaylistId none
  have saved : app.saveQueueAsPlaylist name = app.takeMutationId.enqueuePlaylistMutation key mutation := by
    simp [saveQueueAsPlaylist, queueOrigin, own, ← requests, mutation]
  have fresh : app.isStale mutation = false := by simp [mutation, isStale, originIsCurrent]
  have requested := @Lines.requested app key mutation kept.ledger.lines kept.ledger.outstanding rfl room rfl fresh rfl present
  rw [saved]
  exact kept.requested requested rfl fresh rfl

theorem Kept.overwritten (kept : app.Kept) {existingId name : String} (room : app.nextPlaylistMutation < u64Max)
    (own : app.ownerLineage = some app.localView.lineage)
    (present : app.active existingId = none → app.embyClient = true) :
    (app.doOverwritePlaylist existingId name).Kept := by
  let mutation : PlaylistMutation := .replace app.nextPlaylistMutation ⟨app.queueEpoch, app.localView.lineage⟩ name none
  have saved : app.doOverwritePlaylist existingId name = app.takeMutationId.enqueuePlaylistMutation existingId mutation := by
    simp [doOverwritePlaylist, queueOrigin, own, mutation]
  have fresh : app.isStale mutation = false := by simp [mutation, isStale, originIsCurrent]
  have requested := @Lines.requested app existingId mutation kept.ledger.lines
    kept.ledger.outstanding rfl room trivial fresh rfl present
  rw [saved]
  exact kept.requested requested rfl fresh rfl

theorem Kept.dirty (kept : app.Kept) (dirty : Bool) : { app with queueDirty := dirty }.Kept := by
  refine ⟨kept.ledger.framed rfl, fun key mutation member fresh => ?_, fun id action bound key mutation member named => ?_⟩
  · apply kept.fits.lineage key mutation member
    cases mutation <;> exact fresh
  · have fresh := kept.fits.bound id action bound key mutation member named
    cases mutation <;> exact fresh

theorem Kept.consumed (kept : app.Kept) {saveOnConsume : Bool} (requests : app.requestKey (.consumed saveOnConsume) = some key)
    (room : app.nextPlaylistMutation < u64Max) (own : app.ownerLineage = some app.localView.lineage)
    (present : app.active key = none → app.embyClient = true) :
    (app.onConsumed saveOnConsume).Kept := by
  have autosaves : saveOnConsume = true ∧ app.remoteView.isNone = true ∧ app.requestKey .saved = some key := by
    simp only [requestKey] at requests
    split at requests
    · rename_i both
      rw [Bool.and_eq_true] at both
      exact ⟨both.1, both.2, requests⟩
    · cases requests
  obtain ⟨autosave, local_, saves⟩ := autosaves
  obtain ⟨lineage, -, shown⟩ := Option.bind_eq_some_iff.mp saves
  have applies : app.localQueueMetadataApplies app.playingQueueLink = true := by
    simp [localQueueMetadataApplies, local_]
  have clean := @Kept.saved { app with queueDirty := false } key (kept.dirty false) saves room own present
  unfold onConsumed
  rw [if_pos applies]
  dsimp only
  have playlist : (saveOnConsume && (queuePlaylistId { app with queueDirty := true }).isSome) = true := by
    rw [show queuePlaylistId { app with queueDirty := true } = app.queuePlaylistId from rfl, shown, autosave]
    rfl
  rw [if_pos playlist]
  exact clean.1

theorem Ledger.untouched (ledger : app.Ledger) {input : PlaylistInput} (requests : app.requestKey input = none)
    (other : ∀ index result answer, input ≠ .completed index result answer) :
    (app.handle input).Ledger := by
  cases input with
  | saved =>
    rw [show app.handle .saved = app.savePlaylistToEmby.2 from rfl, savePlaylistToEmby_none requests]
    exact ledger
  | savedAs name =>
    have unknown : app.ownerLineage = none := Option.map_eq_none_iff.mp requests
    have same : app.handle (.savedAs name) = app := by
      simp [handle, saveQueueAsPlaylist, queueOrigin, unknown]
    exact same.symm ▸ ledger
  | overwritten existingId name =>
    have unknown : app.ownerLineage = none := Option.map_eq_none_iff.mp requests
    have same : app.handle (.overwritten existingId name) = app := by
      simp [handle, doOverwritePlaylist, queueOrigin, unknown]
    exact same.symm ▸ ledger
  | consumed saveOnConsume =>
    show (app.onConsumed saveOnConsume).Ledger
    unfold onConsumed
    split
    · rename_i applies
      dsimp only
      split
      · rename_i autosaves
        rw [Bool.and_eq_true] at autosaves
        have home : app.remoteView.isNone = true := by
          cases remote : app.remoteView with
          | none => rfl
          | some view => simp [localQueueMetadataApplies, playingQueueLink, remote] at applies
        have quiet : requestKey { app with queueDirty := false } .saved = none := by
          simpa [requestKey, autosaves.1, home, queuePlaylistId, playbackQueue] using requests
        rw [savePlaylistToEmby_none quiet]
        exact ledger.framed rfl
      · exact ledger.framed rfl
    · exact ledger
  | prompted action =>
    exact ledger.view rfl nofun
  | answeredSave =>
    have quiet : app.requestKey .saved = none := requests
    have same : app.handle .answeredSave = { app with save := none } := by
      simp [handle, answerSave, savePlaylistToEmby_none quiet, bindToSave]
    rw [same]
    exact ledger.view rfl (by simp)
  | answeredDiscard answer =>
    show (app.answerDiscard answer).Ledger
    unfold answerDiscard takeOnDiscard
    split
    · rename_i action next waits
      have cleared : Ledger { app with save := none } := ledger.view rfl (by simp)
      split at waits
      · cases waits
        exact cleared.framed (frame_executePendingQueueAction _ answer)
      · cases waits
    · rename_i waits
      split at waits
      · cases waits
      · cases waits
        exact ledger
  | answeredCancel => exact ledger.view rfl nofun
  | completed index result answer => exact absurd rfl (other index result answer)
  | edited link answer => exact ledger.framed (frame_queueEdit link answer)
  | otherOp answer => exact ledger.framed (frame_queueOp answer)
  | played answer => exact ledger.framed (frame_playItemsRouted answer)
  | acted action answer => exact ledger.framed (frame_executePendingQueueAction action answer)
  | snapshot link unified => exact ledger.framed (frame_adopt link unified)
  | ownerState lineage => exact ledger.framed rfl
  | switched localView remoteView => exact ledger.framed rfl
  | emby present => exact ledger.view rfl fun _ _ bound => bound

theorem Kept.step (kept : app.Kept) {input : PlaylistInput} (fitting : app.Fitting input) :
    (app.handle input).Kept ∧ app.Progresses input := by
  have progresses (quiet : ∀ index result answer, input ≠ .completed index result answer) : app.Progresses input :=
    ⟨fun key id different => finish_other app different,
      fun index result answer write same => absurd same (quiet index result answer)⟩
  cases wanted : app.requestKey input with
  | none =>
    have fits := fitting.2.2 wanted
    cases input with
    | completed index result answer =>
      have done := kept.ledger.completed fitting
      exact ⟨⟨done.1, fits⟩, done.2⟩
    | _ =>
      exact ⟨⟨kept.ledger.untouched wanted (by simp), fits⟩, progresses (by simp)⟩
  | some key =>
    obtain ⟨room, own, present⟩ := fitting.1 key wanted
    cases input with
    | saved => exact ⟨(kept.saved wanted room own present).1, progresses (by simp)⟩
    | savedAs name => exact ⟨kept.savedAs wanted room own present, progresses (by simp)⟩
    | overwritten existingId name =>
      rw [requestKey, own] at wanted
      cases wanted
      exact ⟨kept.overwritten room own present, progresses (by simp)⟩
    | consumed saveOnConsume => exact ⟨kept.consumed wanted room own present, progresses (by simp)⟩
    | answeredSave => exact ⟨(kept.saved wanted room own present).2, progresses (by simp)⟩
    | _ => cases wanted

/-- A Client that has asked for no mutation yet. -/
structure Fresh (app : PlaylistApp) : Prop where
  mutations : ∀ key, app.playlistMutations key = none
  record : ∀ key, app.record key = {}
  writes : app.writes = []
  save : app.save = none

theorem Fresh.kept (fresh : app.Fresh) : app.Kept := by
  have unbound : ∀ id action, app.save ≠ some (.awaitingSave id action) := by
    intro id action
    rw [fresh.save]
    simp
  refine ⟨⟨⟨?_, ?_, ?_, ?_, fun key _ => fresh.mutations key, ?_, ?_, ?_, ?_⟩, ?_,
    fun id action bound => absurd bound (unbound id action),
    fun id action bound => absurd bound (unbound id action)⟩,
    fun key mutation member => ?_, fun id action bound => absurd bound (unbound id action)⟩
  · intro key
    simp [waiting, fresh.mutations, fresh.record]
  · intro key
    simp [fresh.record]
  · intro key other id member
    simp [fresh.record] at member
  · intro key id member
    simp [fresh.record] at member
  · intro key mutation running
    simp [active, fresh.mutations] at running
  · intro key mutation member
    simp [pending, active, waiting, fresh.mutations] at member
  · intro key mutation running
    simp [active, fresh.mutations] at running
  · intro write member
    simp [fresh.writes] at member
  · intro key
    simp [activeId, active, fresh.mutations, fresh.record]
  · simp [waiting, fresh.mutations] at member

/-- In every run whose inputs fit the waiting mutations, the mutations of each key run in order, and
    every completion makes progress. -/
theorem mutations_run_in_order {inputs : List PlaylistInput} (fresh : app.Fresh)
    (fitting : machine.Along Fitting app inputs) :
    (machine.run app inputs).InOrder ∧ machine.Along Progresses app inputs := by
  have step : ∀ s input, Kept s → Fitting s input → Kept (machine.step s input) :=
    fun s input kept fits => (kept.step fits).1
  exact ⟨(Machine.run_invariant step fresh.kept fitting).ledger.inOrder,
    Machine.along_of_invariant step (fun s input kept fits => (kept.step fits).2) fresh.kept fitting⟩

def film (slotId : UInt64) (id : String) : QueueSlot :=
  ⟨⟨slotId⟩, .emby ⟨id, id, "Movie", "Video", 1000, false, 0, "", 0, 0, ""⟩⟩

def savedPlaylist : QueueState where
  slots := [film 1 "a", film 2 "b"]
  source := .playlist (some "p") "Evening"

def playlistClient : PlaylistApp where
  localView := savedPlaylist
  ownerLineage := some 0

theorem playlistClient_fresh : playlistClient.Fresh := ⟨fun _ => rfl, fun _ => rfl, rfl, rfl⟩

theorem playlistClient_saves : (machine.run playlistClient [.saved, .saved]).playlistMutations = Function.update
        (Function.update (Function.update (fun _ => none) "p" (some ⟨some (.save 1 ⟨0, 0⟩ "p" none), []⟩)) "p"
          (some ⟨some (.save 1 ⟨0, 0⟩ "p" (some ["a", "b"])), []⟩)) "p"
        (some ⟨some (.save 1 ⟨0, 0⟩ "p" (some ["a", "b"])), [.save 2 ⟨0, 0⟩ "p" none]⟩) := rfl

theorem playlistClient_completes :
    (machine.run playlistClient [.saved, .saved, .completed 0 (some "") {}]).playlistMutations = Function.update
        (Function.update (machine.run playlistClient [.saved, .saved]).playlistMutations "p"
          (some ⟨some (.save 2 ⟨0, 0⟩ "p" none), []⟩)) "p"
        (some ⟨some (.save 2 ⟨0, 0⟩ "p" (some ["a", "b"])), []⟩) := rfl

/-- Two saves, the second of which waits for the first. -/
theorem mutations_run_in_order_saves :
    (machine.run playlistClient [.saved, .saved, .completed 0 (some "") {}]).InOrder ∧
      machine.Along Progresses playlistClient [.saved, .saved, .completed 0 (some "") {}] := by
  apply mutations_run_in_order playlistClient_fresh
  refine ⟨⟨?_, by simp, nofun⟩, ⟨?_, by simp, nofun⟩, ⟨(fun _ none => by cases none), ?_, fun _ => ?_⟩, trivial⟩
  · intro key requests
    cases requests
    exact ⟨by decide, rfl, fun _ => rfl⟩
  · intro key requests
    cases requests
    exact ⟨by decide, rfl, fun _ => rfl⟩
  · intro index result answer write same found
    cases same
    cases found
    refine ⟨⟨fun key mutation member _ => ?_, nofun⟩, fun _ _ => rfl⟩
    have waits : mutation ∈ (machine.run playlistClient [.saved, .saved]).waiting key := member
    rw [waiting, playlistClient_saves] at waits
    by_cases same : key = "p"
    · subst same
      cases mem_singleton.mp waits
      rfl
    · simp [Function.update_of_ne same] at waits
  · refine ⟨fun key mutation member _ => ?_, nofun⟩
    have waits : mutation ∈ (machine.run playlistClient
        [.saved, .saved, .completed 0 (some "") {}]).waiting key := member
    rw [waiting, playlistClient_completes, playlistClient_saves] at waits
    by_cases same : key = "p"
    · subst same
      cases waits
    · simp [Function.update_of_ne same] at waits

theorem playlistClient_discards : (machine.run playlistClient
        [.overwritten "p" "Evening", .prompted .clearQueue, .answeredSave, .completed 0 (some "q") { adopted := [(.localOwner,
              { savedPlaylist with source := .playlist (some "q") "Evening" })] }]).playlistMutations =
      PlaylistApp.playlistMutations { playlistClient with
          playlistMutations :=
            Function.update
              (Function.update
                (Function.update
                  (Function.update
                    (Function.update (fun _ => none) "p"
                      (some ⟨some (.replace 1 ⟨0, 0⟩ "Evening" none), []⟩)) "p"
                    (some ⟨some (.replace 1 ⟨0, 0⟩ "Evening" (some ["a", "b"])), []⟩)) "p"
                  (some ⟨some (.replace 1 ⟨0, 0⟩ "Evening" (some ["a", "b"])),
                    [.save 2 ⟨0, 0⟩ "p" none]⟩)) "p" (some ⟨some (.save 2 ⟨0, 0⟩ "p" none), []⟩)) "p" none } :=
  rfl

/-- The Emby client is lost while a save waits: the save becomes active with no request out. A queue
    is played while an overwrite waits: the overwrite writes that queue's items. And a save that
    waits behind an overwrite of its playlist is discarded with the action that waits for it. -/
theorem mutations_run_out_of_order :
    ¬ (machine.run playlistClient
        [.saved, .saved, .emby false, .completed 0 (some "") {}, .emby true]).InOrder ∧
    ¬ (machine.run playlistClient
        [.saved, .overwritten "p" "Evening",
          .played { adopted := [(.localOwner, { slots := [film 1 "c"], lineage := 1 })] },
          .completed 0 (some "") {}]).InOrder ∧
    ¬ (machine.run playlistClient
        [.overwritten "p" "Evening", .prompted .clearQueue, .answeredSave,
          .completed 0 (some "q")
            { adopted := [(.localOwner,
              { savedPlaylist with source := .playlist (some "q") "Evening" })] }]).InOrder := by
  refine ⟨fun ordered => ?_, fun ordered => ?_, fun ordered => ?_⟩
  · have out := ordered.outstanding "p"
    revert out
    decide
  · have own := ordered.writes
    revert own
    decide
  · obtain ⟨key, mutation, member, -⟩ := ordered.bound 2 .clearQueue (by decide)
    rw [pending_of_mutations (congrFun playlistClient_discards key)] at member
    by_cases same : key = "p"
    · subst same
      cases member
    · simp [pending, active, waiting, Function.update_of_ne same] at member

end PlaylistApp

end Mbv.Client
