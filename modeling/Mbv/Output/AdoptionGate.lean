import Mbv.Output.SessionEnds

namespace Mbv.Output

open Mbv.Queue Mbv.Player Mbv.Daemon SessionOwner List

def SessionRecord.adopts (load : Nat) : SessionRecord → Bool
  | .adopted _ _ other _ => other == load
  | _ => false

def adoptions (records : List SessionRecord) (load : Nat) : Nat :=
  records.countP (·.adopts load)

theorem adoptions_append {records more : List SessionRecord} {load : Nat} :
    adoptions (records ++ more) load = adoptions records load + adoptions more load :=
  countP_append

structure Completing (entries : List SessionRecord) : Prop where
  unadopting (load : Nat) : adoptions entries load = 0
  completing (load : Nat) : .ended load true ∈ entries → 0 < completions entries load

namespace Completing

variable {item : EmbySessionLoadedItem}

theorem of_rejections {entries : List SessionRecord}
    (only : ∀ entry ∈ entries, entry.isRejection = true) : Completing entries where
  unadopting load := by
    refine countP_eq_zero.mpr fun entry member => ?_
    have rejects := only entry member
    cases entry <;> simp_all [SessionRecord.isRejection, SessionRecord.adopts]
  completing load ended := absurd (only _ ended) (by simp [SessionRecord.isRejection])

theorem failed (load : Nat) : Completing [.failed load] where
  unadopting other := by simp [adoptions, SessionRecord.adopts]
  completing other ended := absurd ended (by simp)

theorem leaving (held completes : Bool) : Completing (Ledger.leaving item held completes) where
  unadopting load := by
    cases completes <;> simp [Ledger.leaving, adoptions, SessionRecord.adopts]
  completing load ended := by
    rcases SessionRun.mem_leaving ended with same | ⟨rfl, same | same⟩
    · cases same
    · cases same
      simp [completions, Ledger.leaving, SessionRecord.completes]
    · cases same

theorem ending (held : Bool) : Completing (Ledger.ending item held) where
  unadopting load := by simp [Ledger.ending, adoptions, SessionRecord.adopts]
  completing load ended := by
    simp only [Ledger.ending, mem_cons, SessionRecord.ended.injEq, reduceCtorEq, not_mem_nil, or_false] at ended
    simp [completions, Ledger.ending, SessionRecord.completes, ended.1]

theorem continuing (held : Bool) (start : ContinuationStart) (now : Ticks) :
    Completing (Ledger.continuing item held start now) where
  unadopting load := by
    cases direct : start.recordsCompletion <;> cases held <;> simp [Ledger.continuing, direct, adoptions, SessionRecord.adopts]
  completing load ended := by
    rcases SessionRun.mem_continuing ended with same | ⟨direct, same | ⟨-, same⟩⟩
    · cases same
    · cases same
      simp [completions, Ledger.continuing, direct, SessionRecord.completes]
    · cases same

end Completing

namespace Ledger

/-- An item's end is adopted for at most once, and never while the item is tracked; an item that was
    held at its natural end is completed. -/
structure Adopts (ledger : Ledger) : Prop where
  completed : ∀ load, .ended load true ∈ ledger.records → 0 < completions ledger.records load
  once : ∀ load, adoptions ledger.records load ≤ 1
  named : ∀ load, ledger.loads ≤ load → adoptions ledger.records load = 0
  tracked : ∀ item ∈ ledger.loaded, item.load < ledger.loads ∧
    adoptions ledger.records item.load = 0

namespace Adopts

variable {before after : Ledger} {item : EmbySessionLoadedItem}

theorem reread (adopts : before.Adopts) (records : after.records = before.records) (loads : after.loads = before.loads)
    (items : ∀ item ∈ after.loaded, ∃ old ∈ before.loaded, item.load = old.load) :
    after.Adopts where
  completed := records ▸ adopts.completed
  once := records ▸ adopts.once
  named := records ▸ loads ▸ adopts.named
  tracked item held := by
    obtain ⟨old, was, number⟩ := items item held
    rw [number, records, loads]
    exact adopts.tracked old was

theorem completing (adopts : before.Adopts) {entries : List SessionRecord} (completing : Completing entries) :
    Adopts { before with records := before.records ++ entries } := by
  have same : ∀ load, adoptions (before.records ++ entries) load = adoptions before.records load := by
    intro load
    rw [adoptions_append, completing.unadopting, Nat.add_zero]
  refine ⟨fun load ended => ?_, fun load => ?_, fun load later => ?_, fun item held => ?_⟩
  · dsimp only at ended ⊢
    rw [completions_append]
    rcases mem_append.mp ended with earlier | new
    · exact Nat.add_pos_left (adopts.completed load earlier) _
    · exact Nat.add_pos_right _ (completing.completing load new)
  · exact (same load).trans_le (adopts.once load)
  · exact (same load).trans (adopts.named load later)
  · exact ⟨(adopts.tracked item held).1, (same item.load).trans (adopts.tracked item held).2⟩

theorem install (adopts : before.Adopts) {loads : Nat} (later : before.loads ≤ item.load)
    (below : item.load < loads) (queued : Bool) (watch : Option ContinuationWatch) :
    Adopts { before with
      loaded := some item, queued := queued, continuation := watch, loads := loads } where
  completed := adopts.completed
  once := adopts.once
  named load above := adopts.named load ((later.trans below.le).trans above)
  tracked := by
    rintro _ ⟨⟩
    exact ⟨below, adopts.named item.load later⟩

theorem untrack (adopts : before.Adopts) (queued : Bool) (watch : Option ContinuationWatch)
    (observation : Option SessionInfo) (observedAt : Option Ticks) :
    Adopts { before with loaded := none, queued := queued, continuation := watch
                         observation := observation, observedAt := observedAt } :=
  adopts.reread rfl rfl (by simp)

theorem loads (adopts : before.Adopts) (loads : Loads before after) : after.Adopts := by
  cases loads with
  | kept rejections queued only holds =>
    exact (adopts.completing (.of_rejections only)).reread rfl rfl fun item held =>
      ⟨item, held, rfl⟩
  | loaded rejections queued item loads only runs later below unseen unended unreported =>
    exact (adopts.completing (.of_rejections only)).install later below queued none

theorem fails (adopts : before.Adopts) (fails : Fails before after) : after.Adopts := by
  cases fails with
  | quiet => exact adopts
  | reported item _ loaded unreported loads =>
    refine Adopts.loads ?_ loads
    refine (adopts.completing (.failed item.load)).reread rfl rfl ?_
    rintro _ ⟨⟩
    exact ⟨item, loaded, rfl⟩

theorem follows (adopts : before.Adopts) {completes : Bool} (follows : Follows before item completes after) : after.Adopts := by
  cases follows with
  | moved held queued next _ number unended unreported loads =>
    have below : next.load < before.loads + 1 := by omega
    exact ((adopts.completing (.leaving held completes)).install number.ge below queued none).loads loads
  | stopped held =>
    exact (adopts.completing (.leaving held completes)).untrack false none none none
  | stuck held gone => exact adopts.completing (.leaving held completes)

theorem ends (adopts : before.Adopts) {due : Ticks} (ends : Ends before item due after) :
    after.Adopts := by
  cases ends with
  | advanced held _ loads => exact (adopts.completing (.ending held)).loads loads
  | opened held last loads handled =>
    have advanced := (adopts.completing (.ending held)).loads loads
    exact advanced.reread rfl rfl fun item held => ⟨item, held, rfl⟩

end Adopts

def Near (start : ContinuationStart) (presentedAt : Ticks) : Prop :=
  presentedAt ≤ start.endsAt + embySessionAdoptionWindow ∧
    start.endsAt ≤ presentedAt + embySessionAdoptionWindow

/-- What the output waits for at the queue's end is about the item it tracks. An open window is one
    after a recent end, with nothing of the device's own presented since; a lookup was started
    near its item's end. -/
structure Watches (ledger : Ledger) (clock : Ticks) : Prop where
  observed : ∀ seen ∈ ledger.observedAt, seen ≤ clock
  window : ∀ closes, ledger.continuation = some (.window closes) →
    (∃ endsAt, closes = endsAt + embySessionAdoptionWindow ∧
      endsAt ≤ clock + embySessionAdoptionWindow) ∧
    ∀ item ∈ ledger.loaded, item.seenPlaying = true ∧ item.endHandled = true ∧
      (ledger.queued = true ∨ ∀ itemId, presentsItem ledger.observation itemId = true →
        itemId = item.itemId)
  lookup : ∀ itemId pending, ledger.continuation = some (.lookup itemId pending) →
    ∃ start presentedAt, .lookup start presentedAt ∈ ledger.records ∧ start.serial = pending ∧
      start.itemId = itemId ∧ Near start presentedAt ∧
      ∀ item ∈ ledger.loaded, start.load = item.load

namespace Watches

variable {before after : Ledger} {item : EmbySessionLoadedItem} {clock now : Ticks}

theorem later (watches : before.Watches clock) (forward : clock ≤ now) : before.Watches now where
  observed seen held := (watches.observed seen held).trans forward
  window closes open_ := by
    obtain ⟨⟨endsAt, same, due⟩, items⟩ := watches.window closes open_
    exact ⟨⟨endsAt, same, due.trans (Nat.add_le_add_right forward _)⟩, items⟩
  lookup := watches.lookup

theorem idle (observed : ∀ seen ∈ after.observedAt, seen ≤ clock) (none_ : after.continuation = none) : after.Watches clock where
  observed := observed
  window closes open_ := by
    rw [none_] at open_
    cases open_
  lookup itemId pending awaits := by
    rw [none_] at awaits
    cases awaits

theorem reread (watches : before.Watches clock) (records : ∀ entry ∈ before.records, entry ∈ after.records)
    (observedAt : after.observedAt = before.observedAt)
    (observation : after.observation = before.observation)
    (watch : after.continuation = before.continuation)
    (queued : before.queued = true → after.queued = true)
    (items : ∀ item ∈ after.loaded, ∃ old ∈ before.loaded, item.load = old.load ∧
      item.itemId = old.itemId ∧ (old.seenPlaying = true → item.seenPlaying = true) ∧
      (old.endHandled = true → item.endHandled = true)) : after.Watches clock where
  observed := observedAt ▸ watches.observed
  window closes open_ := by
    obtain ⟨due, each⟩ := watches.window closes (watch ▸ open_)
    refine ⟨due, fun item held => ?_⟩
    obtain ⟨old, was, -, itemId, seen, ended⟩ := items item held
    obtain ⟨wasSeen, wasEnded, quiet⟩ := each old was
    refine ⟨seen wasSeen, ended wasEnded, quiet.imp queued fun quiet => ?_⟩
    rw [observation, itemId]
    exact quiet
  lookup itemId pending awaits := by
    obtain ⟨start, presentedAt, recorded, serial, named, near, each⟩ := watches.lookup itemId pending (watch ▸ awaits)
    refine ⟨start, presentedAt, records _ recorded, serial, named, near, fun item held => ?_⟩
    obtain ⟨old, was, load, -⟩ := items item held
    rw [load]
    exact each old was

theorem recording (watches : before.Watches clock) (entries : List SessionRecord) :
    Watches { before with records := before.records ++ entries } clock :=
  watches.reread (fun _ member => mem_append_left _ member) rfl rfl rfl id fun item held => ⟨item, held, rfl, rfl, id, id⟩

theorem loads (watches : before.Watches clock) (loads : Loads before after) : after.Watches clock := by
  cases loads with
  | kept rejections queued only holds =>
    exact (watches.recording rejections).reread (fun _ => id) rfl rfl rfl holds fun item held => ⟨item, held, rfl, rfl, id, id⟩
  | loaded rejections queued item loads only runs later below unseen unended unreported =>
    exact .idle watches.observed rfl

theorem fails (watches : before.Watches clock) (fails : Fails before after) : after.Watches clock := by
  cases fails with
  | quiet => exact watches
  | reported item _ loaded unreported loads =>
    refine Watches.loads ?_ loads
    refine (watches.recording [.failed item.load]).reread (fun _ => id) rfl rfl rfl id ?_
    rintro _ ⟨⟩
    exact ⟨item, loaded, rfl, rfl, id, id⟩

theorem follows (watches : before.Watches clock) {completes : Bool}
    (follows : Follows before item completes after) : after.Watches clock := by
  cases follows with
  | moved held queued next _ number unended unreported loads =>
    refine Watches.loads ?_ loads
    exact .idle watches.observed rfl
  | stopped held => exact .idle (by simp) rfl
  | stuck held gone => exact watches.recording _

theorem stays_of_handled (loads : Loads before after) (handled : after.loaded.any (·.endHandled) = true) :
    after.loaded = before.loaded ∧ after.observation = before.observation ∧ after.observedAt = before.observedAt := by
  cases loads with
  | kept => exact ⟨rfl, rfl, rfl⟩
  | loaded rejections queued item loads only runs later below unseen unended unreported =>
    simp [unended] at handled

theorem ends (watches : before.Watches clock) {due : Ticks} (loaded : before.loaded = some item)
    (seen : item.seenPlaying = true) (idles : ∀ itemId, presentsItem before.observation itemId = false)
    (near : due ≤ clock + embySessionAdoptionWindow) (ends : Ends before item due after) :
    after.Watches clock := by
  cases ends with
  | advanced held _ loads => exact (watches.recording _).loads loads
  | opened held last loads handled =>
    obtain ⟨same, observation, observedAt⟩ := stays_of_handled loads handled
    refine ⟨((watches.recording _).loads loads).observed, fun closes open_ => ?_, fun _ _ awaits => by cases awaits⟩
    cases open_
    refine ⟨⟨due, rfl, near⟩, fun other held => ?_⟩
    have is : other = item := by
      rw [show last.loaded = some item from same.trans loaded] at held
      exact (Option.some.inj held).symm
    subst is
    rw [show last.loaded = some other from same.trans loaded] at handled
    refine ⟨seen, handled, .inr fun itemId presented => ?_⟩
    rw [show last.observation = before.observation from observation, idles] at presented
    cases presented

end Watches

end Ledger

section Handlers

variable {owner : SessionOwner} {now : Ticks}

theorem polls_adopts {shown : Option SessionInfo} {after : Ledger} (adopts : owner.ledger.Adopts)
    (polls : Polls owner now shown after) : after.Adopts := by
  cases polls with
  | unseen queued _ keeps fails =>
    refine Ledger.Adopts.fails ?_ fails
    exact adopts.reread rfl rfl fun item held => ⟨item, held, rfl⟩
  | read info middle _ reads fails =>
    refine Ledger.Adopts.fails ?_ fails
    have observed : ∀ loaded watch queued, (∀ item ∈ loaded, ∃ old ∈ owner.session.loaded,
        item.load = old.load) → Ledger.Adopts { (observing owner info loaded watch now).ledger with queued := queued } :=
      fun loaded watch queued items => adopts.reread rfl rfl items
    cases reads with
    | goesOn loaded watch _ flagged kept read loads =>
      refine Ledger.Adopts.loads (observed loaded watch _ fun item held => ?_) loads
      obtain ⟨old, was, flags⟩ := flagged item held
      exact ⟨old, was, flags.load⟩
    | follows watch old item advance _ loaded flagged kept moved follows =>
      refine (observed (some item) watch true ?_).follows follows
      rintro _ ⟨⟩
      exact ⟨old, loaded, flagged.load⟩
    | ends item due queued _ loaded seen unhandled presents idle margin estimated ends =>
      refine (observed _ _ queued ?_).ends ends
      rintro _ ⟨⟩
      exact ⟨item, loaded, rfl⟩
    | continues item start held queued follows =>
      have handled := observed (some { item with endHandled := true }) none queued (by
        rintro _ ⟨⟩
        exact ⟨item, follows.loaded, rfl⟩)
      exact (handled.completing (.continuing held start now)).reread rfl rfl fun item held => ⟨item, held, rfl⟩

theorem near_of_continues {info : SessionInfo} {serial : Nat} {item : EmbySessionLoadedItem}
    {start : ContinuationStart} (watches : owner.ledger.Watches now)
    (follows : EmbySessionOutput.Continues owner.session info serial now item start) :
    Ledger.Near start now := by
  rcases follows.gate with ⟨-, direct, endsAt⟩ | ⟨-, -, closes, open_, within, endsAt⟩
  · unfold EmbySessionOutput.endsDirectly at direct
    simp only [Bool.and_eq_true] at direct
    obtain ⟨due, estimated, recent⟩ := EmbySessionOutput.estimatedEnd_recent direct.2
    have due_ := EmbySessionOutput.estimatedEnd_due direct.1.2 estimated watches.observed
    rw [estimated, Option.getD_some] at endsAt
    exact ⟨endsAt ▸ recent, endsAt ▸ due_⟩
  · obtain ⟨⟨due, same, near⟩, -⟩ := watches.window closes open_
    have is : start.endsAt = due := by
      rw [endsAt, same]
      exact Nat.add_sub_cancel _ _
    exact ⟨is ▸ same ▸ within, is ▸ near⟩

theorem polls_watches {shown : Option SessionInfo} {after : Ledger}
    (watches : owner.ledger.Watches now) (polls : Polls owner now shown after) :
    after.Watches now := by
  cases polls with
  | unseen queued _ keeps fails =>
    refine Ledger.Watches.fails ?_ fails
    exact watches.reread (fun _ => id) rfl rfl rfl keeps fun item held =>
      ⟨item, held, rfl, rfl, id, id⟩
  | read info middle _ reads fails =>
    refine Ledger.Watches.fails ?_ fails
    have observed : ∀ loaded watch queued, (∀ item ∈ loaded, ∃ old ∈ owner.session.loaded,
        item.load = old.load ∧ item.itemId = old.itemId ∧
        (old.seenPlaying = true → item.seenPlaying = true) ∧
        (old.endHandled = true → item.endHandled = true)) →
        (watch = owner.session.continuation ∨ watch = none) →
        (queued = true ∨ ∀ closes, watch = some (.window closes) →
          ∀ old ∈ owner.session.loaded, old.seenPlaying = true → old.endHandled = true →
            ∀ itemId, info.nowPlayingItemId = some itemId → itemId = old.itemId) →
        Ledger.Watches { (observing owner info loaded watch now).ledger with queued := queued } now := by
      intro loaded watch queued items kept quiet
      rcases kept with rfl | rfl
      · refine ⟨by rintro _ ⟨⟩; exact le_rfl, fun closes open_ => ?_, fun itemId pending awaits => ?_⟩
        · obtain ⟨due, each⟩ := watches.window closes open_
          refine ⟨due, fun item held => ?_⟩
          obtain ⟨old, was, -, itemId, seen, ended⟩ := items item held
          obtain ⟨wasSeen, wasEnded, -⟩ := each old was
          refine ⟨seen wasSeen, ended wasEnded, quiet.imp id fun read shown presented => ?_⟩
          rw [itemId]
          exact read closes open_ old was wasSeen wasEnded shown (by
            simpa [presentsItem, SessionOwner.ledger, observing] using presented)
        · obtain ⟨start, presentedAt, recorded, serial, named, near, each⟩ := watches.lookup itemId pending awaits
          refine ⟨start, presentedAt, recorded, serial, named, near, fun item held => ?_⟩
          obtain ⟨old, was, load, -⟩ := items item held
          rw [load]
          exact each old was
      · exact .idle (by rintro _ ⟨⟩; exact le_rfl) rfl
    have flags : ∀ {loaded : Option EmbySessionLoadedItem}, (∀ item ∈ loaded,
        ∃ old ∈ owner.session.loaded, EmbySessionOutput.Flagged old item) → ∀ item ∈ loaded,
          ∃ old ∈ owner.session.loaded, item.load = old.load ∧ item.itemId = old.itemId ∧
            (old.seenPlaying = true → item.seenPlaying = true) ∧
            (old.endHandled = true → item.endHandled = true) := by
      intro loaded flagged item held
      obtain ⟨old, was, flags⟩ := flagged item held
      exact ⟨old, was, flags.load, flags.itemId, flags.seen, flags.ended⟩
    cases reads with
    | goesOn loaded watch _ flagged kept read loads =>
      refine Ledger.Watches.loads (observed loaded watch _ (flags flagged) kept ?_) loads
      cases queued : owner.session.queuedNext with
      | none => exact .inr fun closes open_ => read closes open_ queued
      | some next => exact .inl (congrArg Option.isSome queued)
    | follows watch old item advance _ loaded flagged kept moved follows =>
      refine (observed (some item) watch true (flags ?_) kept (.inl rfl)).follows follows
      rintro _ ⟨⟩
      exact ⟨old, loaded, flagged⟩
    | ends item due queued _ loaded seen unhandled presents idle margin estimated ends =>
      have reread := observed (some { item with endHandled := true }) owner.session.continuation queued (by
          rintro _ ⟨⟩
          exact ⟨item, loaded, rfl, rfl, id, fun _ => rfl⟩) (.inl rfl) (.inr fun _ _ _ _ _ _ itemId shown => by
              rw [idle] at shown
              cases shown)
      refine reread.ends rfl seen (fun itemId => ?_) ?_ ends
      · simp [presentsItem, SessionOwner.ledger, observing, idle]
      · exact EmbySessionOutput.estimatedEnd_due margin estimated watches.observed
    | continues item start held queued follows =>
      refine ⟨by rintro _ ⟨⟩; exact le_rfl, fun closes open_ => ?_, fun itemId pending awaits => ?_⟩
      · dsimp only at open_
        split at open_ <;> cases open_
      · dsimp only at awaits
        split at awaits
        · cases awaits
          refine ⟨start, now, ?_, follows.serial, rfl, ?_, ?_⟩
          · simp [Ledger.continuing]
          · exact near_of_continues watches follows
          · rintro _ ⟨⟩
            exact follows.load
        · cases awaits

theorem adopting {ended item : EmbySessionLoadedItem} {ledger : Ledger} (adopts : ledger.Adopts)
    (loaded : ledger.loaded = some ended) (answered pending : Nat) (slot : QueueSlotId)
    (number : item.load = ledger.loads) : Ledger.Adopts { ledger with
      records := ledger.records ++ [.adopted answered pending ended.load slot]
      loaded := some item
      continuation := none
      loads := ledger.loads + 1 } := by
  obtain ⟨below, unadopted⟩ := adopts.tracked ended loaded
  have adds : ∀ load, adoptions (ledger.records ++ [.adopted answered pending ended.load slot]) load =
        adoptions ledger.records load + if ended.load = load then 1 else 0 := by
    intro load
    rw [adoptions_append]
    by_cases same : ended.load = load <;> simp [adoptions, SessionRecord.adopts, same]
  have beyond : ∀ load, ledger.loads ≤ load → adoptions
      (ledger.records ++ [.adopted answered pending ended.load slot]) load = 0 := by
    intro load above
    rw [adds, adopts.named load above, if_neg (lt_of_lt_of_le below above).ne]
  refine ⟨fun load was => ?_, fun load => ?_, fun load above => ?_, ?_⟩
  · dsimp only at was ⊢
    rw [completions_append]
    refine Nat.add_pos_left (adopts.completed load ?_) _
    simpa using was
  · dsimp only
    rw [adds]
    split
    · rename_i same
      rw [← same, unadopted]
    · exact adopts.once load
  · exact beyond load (Nat.le_of_succ_le above)
  · rintro _ ⟨⟩
    exact ⟨number ▸ Nat.lt_succ_self _, beyond item.load number.ge⟩

theorem handleLookup_adopts (adopts : owner.ledger.Adopts) (settings : SessionSettings)
    (answered : Nat) (itemId : String) (result : Except String EmbyItem) :
    (owner.handleLookup settings answered itemId result now).ledger.Adopts := by
  have cleared : owner.clearContinuation.ledger.Adopts := adopts.reread rfl rfl fun item held => ⟨item, held, rfl⟩
  unfold handleLookup
  split
  · split
    · split
      · exact cleared
      · exact cleared
      · rename_i pending _ _ _ _ item ended loaded
        split
        · exact adopting adopts loaded answered pending _ rfl
        · exact cleared
    · exact adopts
  · exact adopts

theorem handleLookup_watches (watches : owner.ledger.Watches now) (settings : SessionSettings)
    (answered : Nat) (itemId : String) (result : Except String EmbyItem) :
    (owner.handleLookup settings answered itemId result now).ledger.Watches now := by
  unfold handleLookup
  repeat' split
  all_goals first | exact watches | exact .idle watches.observed rfl

end Handlers

/-! ### When a window opens -/

namespace Ledger

variable {before after : Ledger}

def Rewatches (before after : Ledger) : Prop :=
  after.continuation = before.continuation ∨ after.continuation = none

theorem Loads.rewatches (loads : Loads before after) : Rewatches before after := by
  cases loads with
  | kept => exact .inl rfl
  | loaded => exact .inr rfl

theorem Fails.rewatches (fails : Fails before after) : Rewatches before after := by
  cases fails with
  | quiet => exact .inl rfl
  | reported item _ loaded unreported loads => exact loads.rewatches

theorem Follows.rewatches {item : EmbySessionLoadedItem} {completes : Bool}
    (follows : Follows before item completes after) : Rewatches before after := by
  cases follows with
  | moved held queued next _ number unended unreported loads =>
    exact .inr (loads.rewatches.elim id id)
  | stopped => exact .inr rfl
  | stuck => exact .inl rfl

def Opens (session : EmbySessionOutput) (shown : Option SessionInfo) (after : Ledger) : Prop :=
  ∀ closes, after.continuation = some (.window closes) →
    session.continuation = some (.window closes) ∨
    ∃ info item due, shown = some info ∧ info.nowPlayingItemId = none ∧
      session.loaded = some item ∧ session.estimatedEnd = some due ∧
      closes = due + embySessionAdoptionWindow

theorem Opens.of_rewatches {session : EmbySessionOutput} {shown : Option SessionInfo}
    (same : before.continuation = session.continuation ∨ before.continuation = none)
    (rewatches : Rewatches before after) : Opens session shown after := by
  intro closes open_
  rcases rewatches with kept | dropped
  · rw [kept] at open_
    rcases same with same | none_
    · exact .inl (same ▸ open_)
    · rw [none_] at open_
      cases open_
  · rw [dropped] at open_
    cases open_

end Ledger

theorem polls_opens {owner : SessionOwner} {now : Ticks} {shown : Option SessionInfo}
    {after : Ledger} (polls : Polls owner now shown after) :
    Ledger.Opens owner.session shown after := by
  cases polls with
  | unseen queued _ keeps fails => exact .of_rewatches (.inl rfl) fails.rewatches
  | read info middle _ reads fails =>
    have opens : Ledger.Opens owner.session (some info) middle := by
      cases reads with
      | goesOn loaded watch _ flagged kept read loads => exact .of_rewatches kept loads.rewatches
      | follows watch old item advance _ loaded flagged kept moved follows =>
        exact .of_rewatches kept follows.rewatches
      | ends item due queued _ loaded seen unhandled presents idle margin estimated ends =>
        cases ends with
        | advanced held _ loads => exact .of_rewatches (.inl rfl) loads.rewatches
        | opened held last loads handled =>
          intro closes open_
          cases open_
          exact .inr ⟨info, item, due, rfl, idle, loaded, estimated, rfl⟩
      | continues item start held queued follows =>
        intro closes open_
        dsimp only at open_
        split at open_ <;> cases open_
    intro closes open_
    rcases fails.rewatches with kept | dropped
    · exact opens closes (kept ▸ open_)
    · rw [dropped] at open_
      cases open_

section Answers

variable {owner : SessionOwner} {now : Ticks}

theorem fails_adopts_watches {after : SessionOwner} (gated : owner.ledger.Adopts ∧ owner.ledger.Watches now)
    (fails : Ledger.Fails owner.ledger after.ledger) :
    after.ledger.Adopts ∧ after.ledger.Watches now := ⟨gated.1.fails fails, gated.2.fails fails⟩

theorem gate_polling {ledger : Ledger} (gated : ledger.Adopts ∧ ledger.Watches now)
    (polls : List SessionJob) (sent : Option Nat) :
    Ledger.Adopts { ledger with polls := polls, pollSent := sent } ∧
      Ledger.Watches { ledger with polls := polls, pollSent := sent } now :=
  ⟨gated.1.reread rfl rfl fun item held => ⟨item, held, rfl⟩,
    gated.2.reread (fun _ => id) rfl rfl rfl id fun item held => ⟨item, held, rfl, rfl, id, id⟩⟩

theorem handleSessions_gate (gated : owner.ledger.Adopts ∧ owner.ledger.Watches now)
    (settings : SessionSettings) (pollId : Nat) (result : Except String (List SessionInfo)) :
    (owner.handleSessions settings pollId result now).ledger.Adopts ∧
      (owner.handleSessions settings pollId result now).ledger.Watches now := by
  by_cases accepted : owner.session.pollSent.map (·.1) = some pollId
  · cases result with
    | error error =>
      obtain ⟨adopts, watches⟩ := gate_polling gated owner.ledger.polls none
      have fails := @handleSessions_refused owner now settings pollId error accepted
      exact ⟨adopts.fails fails, watches.fails fails⟩
    | ok sessions =>
      have polls := @handleSessions_polls owner now settings pollId sessions accepted
      exact ⟨polls_adopts gated.1 polls, polls_watches gated.2 polls⟩
  · rw [handleSessions_ignored accepted]
    exact gated

theorem answered_gate (gated : owner.ledger.Adopts ∧ owner.ledger.Watches now)
    (settings : SessionSettings) (job : SessionJob) (answer : SessionAnswer) :
    (owner.answered settings job answer now).ledger.Adopts ∧ (owner.answered settings job answer now).ledger.Watches now := by
  unfold answered
  split
  · have erased := gate_polling gated (owner.ledger.polls.erase job) owner.ledger.pollSent
    rw [← ledger_erase owner job] at erased
    dsimp only
    split
    · exact handleSessions_gate erased ..
    · exact handleSessions_gate erased ..
    · exact ⟨handleLookup_adopts erased.1 .., handleLookup_watches erased.2 ..⟩
    · exact ⟨handleLookup_adopts erased.1 .., handleLookup_watches erased.2 ..⟩
    · exact fails_adopts_watches erased (handlePlayFailed_fails _ _)
    · exact erased
  · exact gated

theorem tick_gate (gated : owner.ledger.Adopts ∧ owner.ledger.Watches now) :
    (owner.tick now).ledger.Adopts ∧ (owner.tick now).ledger.Watches now := by
  obtain ⟨polls, sent, same⟩ := @submitDuePoll_ledger now owner
  have polled := gate_polling gated polls sent
  rw [← same] at polled
  have checks := checkQueuedNext_loads (owner.submitDuePoll now)
  exact fails_adopts_watches ⟨polled.1.loads checks, polled.2.loads checks⟩ (expireUnseenLoad_fails _)

end Answers

namespace SessionRun

structure Gated (run : SessionRun) : Prop where
  adopts : run.owner.ledger.Adopts
  watches : run.owner.ledger.Watches run.clock

theorem start_gated (core : PlayerOwnerState) (deviceId : String) (session : SessionInfo)
    (pendingPause : Bool) (now : Ticks) :
    (start core deviceId session pendingPause now).Gated where
  adopts :=
    { completed := fun load ended => by cases ended
      once := fun load => by simp [start, SessionOwner.ledger, adoptions]
      named := fun load _ => by simp [start, SessionOwner.ledger, adoptions]
      tracked := fun item held => by cases held }
  watches := .idle (by rintro _ ⟨⟩; exact le_rfl) rfl

theorem step_gated (run : SessionRun) (input : Ticks × SessionEvent) (gated : run.Gated) : (machine.step run input).Gated := by
  obtain ⟨elapsed, event⟩ := input
  obtain ⟨adopts, watches⟩ := gated
  have watches := watches.later (Nat.le_add_right run.clock elapsed)
  have loading : ∀ {after : SessionOwner}, LoadsTo run.owner after → Gated { owner := after, clock := run.clock + elapsed } :=
    fun loads => ⟨adopts.loads loads, watches.loads loads⟩
  cases event with
  | tick =>
    have gate := tick_gate ⟨adopts, watches⟩
    exact ⟨gate.1, gate.2⟩
  | answered settings job answer =>
    have gate := answered_gate ⟨adopts, watches⟩ settings job answer
    exact ⟨gate.1, gate.2⟩
  | play transition startTicks => exact loading (dispatchAccepted_steps ..).loads
  | jump transition => exact loading (dispatchSlotJump_steps ..).loads
  | step request direction => exact loading (dispatchRelativeStep_steps ..).loads
  | expire deadline => exact loading (expireAndRedispatch_steps ..).loads
  | pause paused => exact loading (.of_ledger (setPaused_ledger run.owner paused))
  | stop =>
    have stopped : Gated { owner := run.owner.stop, clock := run.clock + elapsed } := by
      refine ⟨?_, ?_⟩
      · rw [stop_ledger]
        exact adopts.untrack _ _ _ _
      · rw [stop_ledger]
        refine ⟨by simp, fun closes open_ => ⟨(watches.window closes open_).1, by simp⟩, fun itemId pending awaits => ?_⟩
        obtain ⟨start, presentedAt, recorded, serial, named, near, -⟩ := watches.lookup itemId pending awaits
        exact ⟨start, presentedAt, recorded, serial, named, near, by simp⟩
    exact stopped
  | edited core => exact ⟨adopts, watches⟩
  | workerStops =>
    exact ⟨adopts.reread rfl rfl fun item held => ⟨item, held, rfl⟩,
      watches.reread (fun _ => id) rfl rfl rfl id fun item held => ⟨item, held, rfl, rfl, id, id⟩⟩

theorem handleLookup_rewatches {now : Ticks} (owner : SessionOwner) (settings : SessionSettings)
    (answered : Nat) (itemId : String) (result : Except String EmbyItem) : Ledger.Rewatches
      owner.ledger (owner.handleLookup settings answered itemId result now).ledger := by
  unfold handleLookup
  repeat' split
  all_goals first | exact .inl rfl | exact .inr rfl

theorem answered_opens (run : SessionRun) (elapsed : Ticks) (settings : SessionSettings)
    (job : SessionJob) (answer : SessionAnswer) :
    Ledger.Opens run.owner.session (run.shown (elapsed, .answered settings job answer))
      (run.owner.answered settings job answer (run.clock + elapsed)).ledger := by
  unfold answered
  split
  · rename_i pending
    dsimp only
    split
    · rename_i pollId sessions
      by_cases accepted : run.owner.session.pollSent.map (·.1) = some pollId
      · have listed : run.shown (elapsed, .answered settings (.poll pollId) (.sessions sessions)) =
            sessions.find? fun session => session.deviceId == run.owner.session.deviceId :=
          if_pos ⟨pending, accepted⟩
        have opens := polls_opens (@handleSessions_polls
          { run.owner with jobs := run.owner.jobs.erase (.poll pollId) } (run.clock + elapsed)
          settings pollId sessions accepted)
        rw [listed]
        exact opens
      · have ignored := @handleSessions_ignored
          { run.owner with jobs := run.owner.jobs.erase (.poll pollId) } (run.clock + elapsed)
          settings pollId (.ok sessions) accepted
        rw [ignored]
        exact .of_rewatches (.inl rfl) (.inl rfl)
    · rename_i pollId error
      by_cases accepted : run.owner.session.pollSent.map (·.1) = some pollId
      · have fails := @handleSessions_refused
          { run.owner with jobs := run.owner.jobs.erase (.poll pollId) } (run.clock + elapsed)
          settings pollId error accepted
        exact .of_rewatches (.inl rfl) fails.rewatches
      · have ignored := @handleSessions_ignored
          { run.owner with jobs := run.owner.jobs.erase (.poll pollId) } (run.clock + elapsed)
          settings pollId (.error error) accepted
        rw [ignored]
        exact .of_rewatches (.inl rfl) (.inl rfl)
    · exact .of_rewatches (.inl rfl) (handleLookup_rewatches _ settings _ _ _)
    · exact .of_rewatches (.inl rfl) (handleLookup_rewatches _ settings _ _ _)
    · exact .of_rewatches (.inl rfl) (handlePlayFailed_fails _ _).rewatches
    · exact .of_rewatches (.inl rfl) (.inl rfl)
  · exact .of_rewatches (.inl rfl) (.inl rfl)

theorem tick_opens {now : Ticks} (owner : SessionOwner) (shown : Option SessionInfo) :
    Ledger.Opens owner.session shown (owner.tick now).ledger := by
  obtain ⟨polls, sent, same⟩ := @submitDuePoll_ledger now owner
  have checks := (checkQueuedNext_loads (owner.submitDuePoll now)).rewatches
  have polled : (owner.submitDuePoll now).session.continuation = owner.session.continuation := congrArg Ledger.continuation same
  have kept : (owner.submitDuePoll now).checkQueuedNext.ledger.continuation = owner.session.continuation ∨
      (owner.submitDuePoll now).checkQueuedNext.ledger.continuation = none :=
    checks.imp (fun kept => kept.trans polled) id
  exact .of_rewatches kept (expireUnseenLoad_fails _).rewatches

theorem step_opens (run : SessionRun) (input : Ticks × SessionEvent) :
    Ledger.Opens run.owner.session (run.shown input) (machine.step run input).owner.ledger := by
  obtain ⟨elapsed, event⟩ := input
  have loading : ∀ {after : SessionOwner} {shown : Option SessionInfo}, LoadsTo run.owner after →
      Ledger.Opens run.owner.session shown after.ledger :=
    fun loads => .of_rewatches (.inl rfl) loads.rewatches
  cases event with
  | tick => exact tick_opens run.owner _
  | answered settings job answer => exact answered_opens run elapsed settings job answer
  | play transition startTicks => exact loading (dispatchAccepted_steps ..).loads
  | jump transition => exact loading (dispatchSlotJump_steps ..).loads
  | step request direction => exact loading (dispatchRelativeStep_steps ..).loads
  | expire deadline => exact loading (expireAndRedispatch_steps ..).loads
  | pause paused => exact loading (.of_ledger (setPaused_ledger run.owner paused))
  | stop => exact .of_rewatches (.inl rfl) (.inl (congrArg Ledger.continuation (stop_ledger run.owner)))
  | edited core => exact .of_rewatches (.inl rfl) (.inl rfl)
  | workerStops => exact .of_rewatches (.inl rfl) (.inl rfl)

def pendingFor (itemId : String) : ContinuationWatch → Option Nat
  | .lookup awaited pending => if awaited = itemId then some pending else none
  | .window _ => none

/-- An answer that brings an awaited item is the answer that is awaited. -/
def AnswersAwaited (run : SessionRun) (input : Ticks × SessionEvent) : Prop :=
  match input.2 with
  | .answered _ (.lookup answered itemId) (.item _) =>
    ∀ pending ∈ run.owner.session.continuation.bind (pendingFor itemId), answered = pending
  | _ => True

instance (run : SessionRun) (input : Ticks × SessionEvent) :
    Decidable (AnswersAwaited run input) := by
  unfold AnswersAwaited
  split <;> infer_instance

/-- What the gate lets pass. An adoption answers the pending lookup, which was started within the
    window of the end of the item still tracked; its item is still presented and is admitted. A
    lookup is for an item the observation before did not present. -/
def Passes (run : SessionRun) (input : Ticks × SessionEvent) : SessionRecord → Prop
  | .adopted answered pending load slot => answered = pending ∧
      ∃ settings itemId item start presentedAt ended,
        input.2 = .answered settings (.lookup answered itemId) (.item item) ∧
        .lookup start presentedAt ∈ run.owner.records ∧ start.serial = answered ∧
        start.itemId = itemId ∧ start.load = load ∧ Ledger.Near start presentedAt ∧
        run.owner.session.continuation = some (.lookup itemId pending) ∧
        run.owner.session.loaded = some ended ∧ ended.load = load ∧
        presentsItem run.owner.session.lastObservation itemId = true ∧
        run.owner.admissionVerdict settings (.emby item) = true ∧
        slot = (run.owner.core.queue.append (.emby item)).1
  | .lookup start presentedAt => presentedAt = run.now input ∧ ∃ info item,
      run.shown input = some info ∧ info.nowPlayingItemId = some start.itemId ∧
      run.owner.session.loaded = some item ∧ item.load = start.load ∧
      presentsItem run.owner.session.lastObservation start.itemId = false ∧
      (run.owner.session.estimatedEnd = some start.endsAt ∨
        run.owner.session.continuation =
          some (.window (start.endsAt + embySessionAdoptionWindow)))
  | _ => True

theorem passes_of_continues {run : SessionRun} {input : Ticks × SessionEvent} {info : SessionInfo}
    {item : EmbySessionLoadedItem} {start : ContinuationStart} (gated : run.Gated)
    (listed : run.shown input = some info)
    (follows : EmbySessionOutput.Continues run.owner.session info run.owner.lookups (run.now input) item start) :
    Passes run input (.lookup start (run.now input)) := by
  have foreign : start.itemId ≠ item.itemId := by
    have other := follows.foreign
    unfold EmbySessionOutput.knownItem at other
    rw [follows.loaded, Option.any_some, Bool.or_eq_false_iff] at other
    exact fun same => by simp [same] at other
  refine ⟨rfl, info, item, listed, follows.presented, follows.loaded, follows.load.symm, ?_⟩
  rcases follows.gate with ⟨-, direct, endsAt⟩ | ⟨-, -, closes, open_, within, endsAt⟩
  · unfold EmbySessionOutput.endsDirectly at direct
    simp only [Bool.and_eq_true] at direct
    obtain ⟨due, estimated, -⟩ := EmbySessionOutput.estimatedEnd_recent direct.2
    rw [estimated, Option.getD_some] at endsAt
    refine ⟨?_, .inl (endsAt ▸ estimated)⟩
    have presents : run.owner.session.lastObservation.bind (·.nowPlayingItemId) =
        some item.itemId := by simpa [presentsItem] using direct.1.1.2
    simp [presentsItem, presents, foreign.symm]
  · obtain ⟨⟨due, same, -⟩, each⟩ := gated.watches.window closes open_
    have is : start.endsAt = due := by
      rw [endsAt, same]
      exact Nat.add_sub_cancel _ _
    refine ⟨?_, .inr (by rw [is, ← same]; exact open_)⟩
    obtain ⟨-, -, queued | quiet⟩ := each item follows.loaded
    · have unqueued : run.owner.ledger.queued = false := by
        simp [SessionOwner.ledger, follows.unqueued]
      rw [unqueued] at queued
      cases queued
    · by_contra presents
      have shown : presentsItem run.owner.session.lastObservation start.itemId = true := by
        simpa using presents
      exact foreign (quiet start.itemId shown)

theorem passes_of_adds {run : SessionRun} {input : Ticks × SessionEvent} {entry : SessionRecord}
    (gated : run.Gated) (awaited : AnswersAwaited run input) (adds : StepAdds run input entry) :
    Passes run input entry := by
  cases adds with
  | adopted settings answered pending itemId item ended answers submitted awaits tracked presents admitted =>
    obtain ⟨start, presentedAt, recorded, serial, named, near, each⟩ := gated.watches.lookup itemId pending awaits
    have same : answered = pending := by
      unfold AnswersAwaited at awaited
      rw [answers] at awaited
      exact awaited pending (by simp [awaits, pendingFor])
    exact ⟨same, settings, itemId, item, start, presentedAt, ended, answers, recorded,
      serial.trans same.symm, named, each ended tracked, near, awaits, tracked, rfl, presents,
      admitted, rfl⟩
  | polled _ adds =>
    cases adds with
    | rejected _ rejection => cases entry <;> trivial
    | failed => trivial
    | left info item advance held _ listed loaded moved leaves =>
      rcases mem_leaving leaves with rfl | ⟨-, rfl | rfl⟩ <;> trivial
    | ended info item held _ listed loaded presents idle margin ends =>
      simp only [Ledger.ending, mem_cons, not_mem_nil, or_false] at ends
      rcases ends with rfl | rfl | rfl <;> trivial
    | continued info item start held _ listed follows continues =>
      rcases mem_continuing continues with rfl | ⟨-, rfl | ⟨-, rfl⟩⟩
      · exact passes_of_continues gated listed follows
      · trivial
      · trivial

/-- The only item's end is followed by an item of the device's own, which the owner adopts. -/
def playsOn : List (Ticks × SessionEvent) :=
  [(0, .play ⟨0, 0, firstSlot, .jump⟩ 0)] ++ sighting 0 (some "one") 950000000 ++
    sighting 1 (some "two") 0 ++
    [(0, .answered {} (.lookup 0 "two")
      (.item ⟨"two", "two", "Episode", "Video", 1000000000, false, 0, "", 0, 0, ""⟩))]

end SessionRun

end Mbv.Output
