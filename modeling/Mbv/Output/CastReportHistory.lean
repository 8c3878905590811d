import Mbv.Output.CastReporting

namespace Mbv.Output

open Mbv.Queue Mbv.Player Mbv.Daemon Tenancy List

namespace CastOwner

variable {owner : CastOwner}

/-! ### Connects and changes -/

theorem quiet_spawnHandoffResolve (handoff : HandoffPlayback) : Quiet owner (owner.spawnHandoffResolve handoff) := by
  unfold spawnHandoffResolve
  split
  · exact .refl owner
  · exact ⟨rfl, rfl, rfl, rfl, rfl⟩

theorem moves_applyConnectedOutput (receiverId : String) (handoff : Option HandoffPlayback) :
    Moves (owner.books []) ((owner.applyConnectedOutput receiverId handoff).books []) := by
  unfold applyConnectedOutput
  split
  · exact .refl
  · dsimp only
    apply moves_leaveReceiver.trans
    apply moves_quiet
    have gone : owner.leaveReceiver.loaded = none := rfl
    cases handoff with
    | none => exact (quiet_cast gone rfl).trans quiet_refresh
    | some handoff =>
      have marked : ∀ owner : CastOwner, Quiet owner (owner.setActiveSlot handoff.slot) := fun _ => ⟨rfl, rfl, rfl, rfl, rfl⟩
      exact (quiet_cast gone rfl).trans (quiet_refresh.trans ((marked _).trans (quiet_spawnHandoffResolve handoff)))

theorem moves_handleConnectOutcome (receiverId : String) (connected : Bool) :
    Moves (owner.books []) ((owner.handleConnectOutcome receiverId connected).books []) := by
  unfold handleConnectOutcome
  split
  · exact .refl
  · rename_i pending _
    have taken : Quiet owner { owner with pendingCastConnect := none } := ⟨rfl, rfl, rfl, rfl, rfl⟩
    dsimp only
    apply (moves_quiet taken).trans
    split
    · exact moves_applyConnectedOutput receiverId pending.handoff
    · exact .refl

theorem quiet_handleReconnectOutcome (receiverId : String) (connected : Bool) (now : Ticks) :
    Quiet owner (owner.handleReconnectOutcome receiverId connected now) := by
  apply quiet_onCast
  intro cast
  split
  · split <;> rfl
  · rfl

theorem moves_selectLocal : Moves (owner.books []) (owner.selectLocal.books []) := by
  have displaced : Quiet owner { owner with pendingCastConnect := none } := ⟨rfl, rfl, rfl, rfl, rfl⟩
  unfold selectLocal
  dsimp only
  apply (moves_quiet displaced).trans
  split
  · exact moves_leaveReceiver
  · exact .refl

theorem quiet_selectReceiver (receiverId : String) (elsewhere : Option HandoffPlayback) :
    Quiet owner (owner.selectReceiver receiverId elsewhere) := by
  have displaced : Quiet owner { owner with pendingCastConnect := none } := ⟨rfl, rfl, rfl, rfl, rfl⟩
  unfold selectReceiver
  dsimp only
  split
  · exact displaced
  · exact displaced.trans (quiet_refresh.trans ⟨rfl, rfl, rfl, rfl, rfl⟩)

/-! ### A resolve finishes -/

/-- What a resolve opens, its source has, unless the rendition cannot be cast. -/
theorem prepared_session (resolve : CastResolve) (answers : CastAnswers) (opening : Nat) :
    let prepared := prepareCastSource resolve.item resolve.credential answers opening
    let session := CastOutcome.session? ⟨resolve.purpose, prepared.2⟩
    (prepared.1 = .opened ∧ (resolve.Castable answers ∧ session = some opening ∨ ¬ resolve.Castable answers ∧ session = none)) ∨
      (prepared.1 = .none ∨ prepared.1 = .closed) ∧ resolve.Castable answers ∧ session = none := by
  obtain ⟨purpose, item, credential⟩ := resolve
  obtain ⟨playbackInfo, primarySource, creation⟩ := answers
  cases item with
  | emby item => right; cases playbackInfo <;> exact ⟨.inl rfl, trivial, rfl⟩
  | feed entry => right; cases primarySource <;> exact ⟨.inl rfl, trivial, rfl⟩
  | twitch item => right; exact ⟨.inl rfl, trivial, rfl⟩
  | audiobookshelf item =>
    cases item with
    | book book => right; exact ⟨.inl rfl, trivial, rfl⟩
    | episode episode =>
      cases credential with
      | none => right; exact ⟨.inl rfl, trivial, rfl⟩
      | some credential =>
        cases creation with
        | failed => right; exact ⟨.inl rfl, trivial, rfl⟩
        | undecoded => right; exact ⟨.inr rfl, trivial, rfl⟩
        | opened session =>
          left
          refine ⟨rfl, ?_⟩
          obtain ⟨id, method, url, mimeType⟩ := session
          cases method with
          | direct => exact .inl ⟨rfl, rfl⟩
          | hls => exact .inr ⟨by simp [CastResolve.Castable], rfl⟩

/-! ### One step -/

structure Books (owner after : CastOwner) (takes : Prop) : Prop where
  taken : takes → Moves (owner.books []) (after.books [])
  lost : ¬ takes → ∃ house session, Moves (owner.books []) house ∧ session ∈ house.transit ∧
    Moves (house.lose session) (after.books [])

theorem Books.of_moves {after : CastOwner} (moves : Moves (owner.books []) (after.books []))
    {takes : Prop} (always : takes) : Books owner after takes :=
  ⟨fun _ => moves, fun lost => absurd always lost⟩

theorem erase_fresh {house : House} (kept : Kept house) : (house.transit ++ [house.keys]).erase house.keys = house.transit := by
  have absent : house.keys ∉ house.transit := by
    intro carried
    have single := kept.single house.keys
    have found := count_pos_iff.mpr carried
    rw [if_neg (Nat.lt_irrefl _)] at single
    unfold House.places House.kept at single
    rw [count_append] at single
    omega
  rw [erase_append_right _ absent]
  simp

theorem sent_books (resolving : List CastResolve) (outcome : CastOutcome) (opened : Nat) (entries : List CastRecord) :
    ({ owner with
        resolving := resolving
        outcomes := owner.outcomes ++ [outcome]
        opened := opened
        records := owner.records ++ entries } : CastOwner).books [] =
      { owner.books [] with
        keys := opened
        transit := (owner.books []).transit ++ outcome.session?.toList
        log := (owner.books []).log ++ entries.filterMap (·.noted) } := by
  unfold books
  rw [House.mk.injEq]
  refine ⟨rfl, rfl, rfl, ?_, filterMap_append⟩
  rw [filterMap_append]
  cases session : outcome.session? <;> simp [session]

theorem sent_books_quiet (resolving : List CastResolve) {outcome : CastOutcome} (none_ : outcome.session? = none) :
    ({ owner with resolving := resolving, outcomes := owner.outcomes ++ [outcome] } : CastOwner).books [] = owner.books [] := by
  unfold books
  rw [House.mk.injEq]
  refine ⟨rfl, rfl, rfl, ?_, rfl⟩
  rw [filterMap_append]
  simp [none_]

theorem books_finishResolve (kept : Kept (owner.books [])) (index : Nat) (answers : CastAnswers) :
    Books owner (owner.finishResolve index answers) (∀ resolve ∈ owner.resolving[index]?, resolve.Castable answers) := by
  unfold finishResolve
  split
  · rename_i none_
    rw [none_]
    exact .of_moves .refl (by simp)
  · rename_i resolve held
    rw [held]
    simp only [Option.mem_def, Option.some.injEq, forall_eq']
    have spec := prepared_session resolve answers owner.opened
    dsimp only at spec ⊢
    generalize prepareCastSource resolve.item resolve.credential answers owner.opened = prepared at spec ⊢
    obtain ⟨trace, result⟩ := prepared
    have sent := @sent_books owner (owner.resolving.eraseIdx index) ⟨resolve.purpose, result⟩
    have opens := @Move.issues (owner.books [])
    rcases spec with ⟨rfl, ⟨castable, session⟩ | ⟨uncastable, session⟩⟩ | ⟨rfl | rfl, castable, session⟩
    · have books := sent (owner.opened + 1) [.opened owner.opened]
      rw [session] at books
      exact .of_moves ((Relation.ReflTransGen.single opens).trans (Moves.of_eq books.symm)) castable
    · have books := sent (owner.opened + 1) [.opened owner.opened]
      rw [session, Option.toList_none, append_nil] at books
      refine ⟨fun castable => absurd castable uncastable, fun _ => ?_⟩
      refine ⟨_, owner.opened, .single opens, mem_append_right _ mem_cons_self, ?_⟩
      rw [House.lose]
      dsimp only
      rw [show owner.opened = (owner.books []).keys from rfl, erase_fresh kept]
      exact Moves.of_eq books.symm
    · exact .of_moves (Moves.of_eq (sent_books_quiet _ session).symm) castable
    · have books := sent (owner.opened + 1) [.opened owner.opened, .closed owner.opened]
      rw [session, Option.toList_none, append_nil] at books
      have returns := (Relation.ReflTransGen.single opens).tail (.returns (mem_append_right _ mem_cons_self))
      rw [erase_fresh kept] at returns
      refine .of_moves (returns.trans (Moves.of_eq (Eq.trans ?_ books.symm))) castable
      rw [House.mk.injEq]
      exact ⟨rfl, rfl, rfl, rfl, append_assoc _ _ _⟩

theorem books_takeOutcome : Books owner owner.takeOutcome (owner.Takes .outcome) := by
  unfold takeOutcome Takes
  split
  · rename_i none_
    rw [none_]
    exact .of_moves .refl (by simp)
  · rename_i outcome outcomes waiting
    rw [waiting]
    simp only [List.head?_cons, Option.mem_def, Option.some.injEq, forall_eq']
    have taken : owner.books [] = ({ owner with outcomes := outcomes } : CastOwner).books outcome.session?.toList := by
      unfold books
      rw [waiting]
      cases session : outcome.session? <;> simp [session, loaded]
    have same : ({ owner with outcomes := outcomes } : CastOwner).Awaits outcome.purpose ↔ owner.Awaits outcome.purpose := by
      cases outcome.purpose <;> exact Iff.rfl
    refine ⟨fun takes => ?_, fun lost => ?_⟩
    · rw [taken]
      apply moves_handleOutcome fun _ => rfl
      intro unawaited
      cases session : outcome.session? with
      | none => rfl
      | some => exact absurd (same.mpr (takes (by simp [session]))) unawaited
    · obtain ⟨opened, unawaited⟩ := Classical.not_imp.mp lost
      obtain ⟨session, isSession⟩ := Option.isSome_iff_exists.mp opened
      rw [isSession] at taken
      refine ⟨owner.books [], session, .refl, by rw [taken]; simp [books], ?_⟩
      have left : (owner.books []).lose session = ({ owner with outcomes := outcomes } : CastOwner).books [] := by
        rw [taken]
        simp [House.lose, books]
      rw [left]
      exact moves_handleOutcome (fun awaits => absurd (same.mp awaits) unawaited) fun _ => rfl

theorem step_books (kept : Kept (owner.books [])) (input : CastInput) : Books owner (owner.step input) (owner.Takes input) := by
  cases input with
  | status policy receiverId pollId result now =>
    exact .of_moves (moves_handleCastStatus policy receiverId pollId result now) trivial
  | tick now => exact .of_moves (moves_quiet (quiet_tickCast now)) trivial
  | expire now => exact .of_moves (moves_quiet (quiet_expireAndRedispatch now)) trivial
  | jump transition => exact .of_moves (moves_quiet (quiet_dispatchSlotJump transition)) trivial
  | play transition startTicks =>
    exact .of_moves (moves_quiet (quiet_dispatchAccepted transition startTicks)) trivial
  | step direction =>
    exact .of_moves (moves_quiet (quiet_dispatchRelativeStep direction)) trivial
  | finishes index answers => exact books_finishResolve kept index answers
  | outcome => exact books_takeOutcome
  | loadFailed slotId => exact .of_moves (moves_handleLoadFailed slotId) trivial
  | stop => exact .of_moves moves_stop trivial
  | selectLocal => exact .of_moves moves_selectLocal trivial
  | selectReceiver receiverId elsewhere =>
    exact .of_moves (moves_quiet (quiet_selectReceiver receiverId elsewhere)) trivial
  | connect receiverId connected =>
    exact .of_moves (moves_handleConnectOutcome receiverId connected) trivial
  | reconnect receiverId connected now =>
    exact .of_moves (moves_quiet (quiet_handleReconnectOutcome receiverId connected now)) trivial
  | sessionSelected => exact .of_moves moves_leaveReceiver trivial
  | changes core credential elsewhere =>
    have changed : Quiet owner (owner.step (.changes core credential elsewhere)) := ⟨rfl, rfl, rfl, rfl, rfl⟩
    exact .of_moves (moves_quiet changed) trivial

theorem Books.kept {after : CastOwner} {takes : Prop} (books : Books owner after takes)
    (kept : Kept (owner.books [])) : Kept (after.books []) := by
  by_cases taken : takes
  · exact (books.taken taken).kept kept
  · obtain ⟨house, session, before, -, moves⟩ := books.lost taken
    exact moves.kept ((before.kept kept).lose session)

/-- A step accounts for its sessions when it takes the one it is about, and only then. -/
theorem Books.accounted_iff {after : CastOwner} {takes : Prop} (books : Books owner after takes)
    (kept : Kept (owner.books [])) (accounted : (owner.books []).Accounted) :
    (after.books []).Accounted ↔ takes := by
  refine ⟨fun found => ?_, fun taken => (books.taken taken).accounted accounted⟩
  apply Classical.byContradiction
  intro lost
  obtain ⟨house, session, before, carried, moves⟩ := books.lost lost
  exact (before.kept kept).not_accounted carried moves found

/-! ### What the books say of the reports -/

theorem count_filterMap {α β : Type*} [BEq β] [LawfulBEq β] {f : α → Option β} {b : β}
    {p : α → Bool} (only : ∀ x, f x = some b ↔ p x = true) (l : List α) :
    (l.filterMap f).count b = l.countP p := by
  induction l with
  | nil => rfl
  | cons x l ih =>
    by_cases same : p x = true
    · simp [(only x).mpr same, ih, same]
    · cases image : f x with
      | none => simp [image, ih, same]
      | some y =>
        have other : y ≠ b := fun isB => same ((only x).mp (image.trans (congrArg some isB)))
        simp [image, ih, same, other]

theorem count_log {record : CastRecord} {entry : Entry} (only : ∀ other : CastRecord, other.noted = some entry ↔ other = record)
    (records : List CastRecord) :
    (records.filterMap (·.noted)).count entry = records.count record :=
  count_filterMap (fun other => (only other).trans beq_iff_eq.symm) records

theorem mem_log {record : CastRecord} {entry : Entry} (only : ∀ other : CastRecord, other.noted = some entry ↔ other = record)
    (records : List CastRecord) : entry ∈ records.filterMap (·.noted) ↔ record ∈ records := by
  rw [mem_filterMap]
  constructor
  · rintro ⟨other, member, noted⟩
    exact (only other).mp noted ▸ member
  · intro member
    exact ⟨record, member, (only record).mpr rfl⟩

theorem noted_started (load : Nat) (record : CastRecord) : record.noted = some (.announced load) ↔ record = .started load := by
  cases record <;> simp [CastRecord.noted]

theorem noted_stopped (load : Nat) (record : CastRecord) : record.noted = some (.dismissed load) ↔ record = .stopped load := by
  cases record <;> simp [CastRecord.noted]

theorem noted_closed (session : Nat) (record : CastRecord) :
    record.noted = some (.returned session) ↔ record = .closed session := by
  cases record <;> simp [CastRecord.noted]

theorem noted_ended (load : Nat) (record : CastRecord) : record.noted = some (.settled load) ↔ record.EndsLoad load = true := by
  cases record <;> simp [CastRecord.noted, CastRecord.EndsLoad]

theorem reported_iff (kept : Kept (owner.books [])) : owner.Reported ↔ (owner.books []).Accounted := by
  have places : ∀ session, (owner.books []).places session =
      owner.records.count (.closed session) + owner.carried.count session := by
    intro session
    unfold House.places
    rw [← count_log (noted_closed session)]
    have same : (owner.books []).kept = owner.carried := by
      unfold House.kept carried books CastLoadedItem.tenant Tenant.key
      cases owner.loaded with
      | none => rfl
      | some loaded => cases reporting : loaded.reporting <;> simp [reporting]
    rw [same]
    rfl
  constructor
  · intro reported session
    have closed := reported.closed session
    have single := kept.single session
    rw [places] at single ⊢
    change _ ≤ if session < owner.opened then 1 else 0 at single
    change _ = if session < owner.opened then 1 else 0
    by_cases carried : session ∈ owner.carried
    · have found := count_pos_iff.mpr carried
      split at single <;> split <;> omega
    · rw [count_eq_zero.mpr carried] at single ⊢
      simpa [carried] using closed
  · intro accounted
    refine ⟨?_, ?_, ?_, ?_, ?_⟩
    · intro load
      rw [← count_log (noted_started load)]
      exact kept.bracketed.once _ trivial
    · intro load
      rw [← count_log (noted_stopped load)]
      exact kept.bracketed.once _ trivial
    · rintro before load after split_
      have inside := kept.bracketed.inside (before.filterMap (·.noted)) load
        (after.filterMap (·.noted)) (by simp [books, split_, CastRecord.noted])
      refine ⟨(mem_log (noted_started load) before).mp inside.1, fun later newer member => ?_⟩
      exact inside.2 later newer ((mem_log (noted_started later) before).mpr member)
    · intro load
      rw [← countP_eq_length_filter, ← count_filterMap (noted_ended load)]
      exact kept.bracketed.once _ trivial
    · intro session
      have found := accounted session
      rw [places] at found
      change _ = if session < owner.opened then 1 else 0 at found
      by_cases carried : session ∈ owner.carried
      · have present := count_pos_iff.mpr carried
        rw [if_neg (fun both => both.2 carried)]
        split at found <;> omega
      · rw [count_eq_zero.mpr carried] at found
        simpa [carried] using found

/-! ### Whole runs -/

theorem start_kept (core : PlayerOwnerState) (credential : Option String) :
    Kept (books { core := core, credential := credential } []) := kept_empty

/-- Reports are bracketed along every run, and every session is closed exactly once as long as each
    session that is opened, or arrives, finds an item to close it. -/
theorem reports_bracketed_sessions_closed (core : PlayerOwnerState) (credential : Option String)
    (inputs : List CastInput) :
    machine.Along (fun owner input => (owner.step input).Reported) { core, credential } inputs ↔
      machine.Along Takes { core, credential } inputs := by
  apply @Machine.along_iff _ _ machine
    (fun owner => Kept (owner.books []) ∧ (owner.books []).Accounted)
  · rintro owner input ⟨kept, accounted⟩ takes
    have books := step_books kept input
    exact ⟨books.kept kept, (books.accounted_iff kept accounted).mpr takes⟩
  · rintro owner input ⟨kept, accounted⟩
    have books := step_books kept input
    exact (reported_iff (books.kept kept)).trans (books.accounted_iff kept accounted)
  · exact ⟨start_kept core credential, accounted_empty⟩

/-- A client plays an episode on a receiver and stops it while its source resolves. -/
def stoppedEarly : List CastInput :=
  [.selectReceiver "television" none, .connect "television" true, .play ⟨0, 0, ⟨1⟩, .jump⟩ 0,
    .stop, .finishes 0 { session := .opened ⟨"session", .direct, "https://media", "audio/mpeg"⟩ },
    .outcome]

def podcastOwner : CastOwner where
  core := .new (.fromQueueItems
    [.audiobookshelf (.episode ⟨"show", "one", "One", none, 0, false, false, ""⟩)] none 0)
  credential := some "token"

theorem early_stop_leaves_session_open :
    ¬ machine.Along (fun owner input => (owner.step input).Reported) podcastOwner stoppedEarly := by
  intro reported
  have closed := reported.2.2.2.2.2.1.closed 0
  revert closed
  decide

end CastOwner

end Mbv.Output
