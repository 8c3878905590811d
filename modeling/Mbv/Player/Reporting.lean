import Mathlib.Algebra.GroupWithZero.Nat
import Mathlib.Data.List.Basic
import Mbv.Machine.Run

namespace Mbv.Player

open List

/-! ### One Audiobookshelf lifecycle

Instants and listened times are in nanoseconds, positions sent are in microseconds. -/

def audiobookshelfReportInterval : Nat := 10 * 1000000000

def microsFromTicks (ticks : Int) : Nat := (ticks.toNat + 5) / 10

structure ListeningTime where
  accumulated : Nat := 0
  lastObserved : Option Nat := none
  playing : Bool := false

namespace ListeningTime

def observe (time : ListeningTime) (now : Nat) (playing : Bool) : ListeningTime :=
  { accumulated :=
      match time.lastObserved with
      | some previous =>
        if time.playing then time.accumulated + (now - previous) else time.accumulated
      | none => time.accumulated
    lastObserved := some now
    playing }

def take (time : ListeningTime) : Nat × ListeningTime :=
  (time.accumulated, { time with accumulated := 0 })

end ListeningTime

structure PlaybackProgress where
  currentTime : Nat
  timeListened : Nat
  duration : Nat

structure SessionUpdate where
  currentTime : Nat
  duration : Nat
  isFinished : Bool

structure SyncReport where
  progress : PlaybackProgress
  answered : Bool

inductive SessionRequest where
  | sync (report : SyncReport)
  | close (progress : PlaybackProgress)

/-- `sent` and `updates` are what left for the server and for the progress receiver so far. -/
structure AudiobookshelfLifecycle where
  progressSender : Bool
  currentPosition : Nat
  duration : Nat
  lastAcknowledgement : Option PlaybackProgress := none
  listeningTime : ListeningTime := {}
  inFlight : Bool := false
  lastSync : Nat
  closed : Bool := false
  sent : List SessionRequest := []
  updates : List SessionUpdate := []

namespace AudiobookshelfLifecycle

def new (currentPosition duration : Nat) (progressSender : Bool) (now : Nat) :
    AudiobookshelfLifecycle :=
  { progressSender, currentPosition, duration, lastSync := now }

def observe (s : AudiobookshelfLifecycle) (now : Nat) (playing : Bool) : AudiobookshelfLifecycle :=
  { s with listeningTime := s.listeningTime.observe now playing }

def shouldSync (s : AudiobookshelfLifecycle) (now : Nat) (force : Bool) : Bool :=
  force || audiobookshelfReportInterval ≤ now - s.lastSync

/-- The interval is cleared before the request leaves, and a lost answer is not replayed. -/
def syncFinal (s : AudiobookshelfLifecycle) (positionTicks : Int) (now : Nat) (answered : Bool) :
    AudiobookshelfLifecycle :=
  if s.inFlight then s
  else
    let position := microsFromTicks positionTicks
    let (timeListened, listeningTime) := s.listeningTime.take
    let progress : PlaybackProgress := ⟨position, timeListened, s.duration⟩
    let s := { s with
      currentPosition := position
      listeningTime
      lastSync := now
      sent := s.sent ++ [.sync ⟨progress, answered⟩] }
    if answered then
      { s with
        lastAcknowledgement := some progress
        updates :=
          if s.progressSender then
            s.updates ++ [⟨position, s.duration, 0 < s.duration && s.duration ≤ position⟩]
          else s.updates }
    else s

def sync (s : AudiobookshelfLifecycle) (positionTicks : Int) (now : Nat) (force answered : Bool) :
    AudiobookshelfLifecycle :=
  if s.closed || s.inFlight || !s.shouldSync now force then s
  else s.syncFinal positionTicks now answered

def close (s : AudiobookshelfLifecycle) (positionTicks : Int) (now : Nat) (answered : Bool) :
    AudiobookshelfLifecycle :=
  if s.closed then s
  else
    let s := ({ s with closed := true }.observe now false).syncFinal positionTicks now answered
    { s with sent := s.sent ++ [.close ⟨microsFromTicks positionTicks, 0, s.duration⟩] }

def drop (s : AudiobookshelfLifecycle) (now : Nat) (answered : Bool) : AudiobookshelfLifecycle :=
  s.close (s.currentPosition * 10) now answered

end AudiobookshelfLifecycle

/-- `answered` is how the server takes the sync the call makes, if it makes one. -/
inductive LifecycleCall where
  | observe (now : Nat) (playing : Bool)
  | sync (positionTicks : Int) (now : Nat) (force answered : Bool)
  | close (positionTicks : Int) (now : Nat) (answered : Bool)
  | drop (now : Nat) (answered : Bool)

namespace LifecycleCall

def now : LifecycleCall → Nat
  | observe now _ => now
  | sync _ now _ _ => now
  | close _ now _ => now
  | drop now _ => now

def ends : LifecycleCall → Bool
  | close .. | drop .. => true
  | observe .. | sync .. => false

end LifecycleCall

def lifecycleMachine : Machine AudiobookshelfLifecycle LifecycleCall where
  step s call := match call with
    | .observe now playing => s.observe now playing
    | .sync positionTicks now force answered => s.sync positionTicks now force answered
    | .close positionTicks now answered => s.close positionTicks now answered
    | .drop now answered => s.drop now answered

/-! ### The playing time observed -/

structure PlayingSpan where
  start : Nat
  finish : Nat

def totalLength (spans : List PlayingSpan) : Nat :=
  (spans.map fun span => span.finish - span.start).sum

def observations : Bool → List LifecycleCall → List (Nat × Bool)
  | _, [] => []
  | closed, .observe now playing :: calls => (now, playing) :: observations closed calls
  | closed, .sync .. :: calls => observations closed calls
  | closed, .close _ now _ :: calls | closed, .drop now _ :: calls =>
    if closed then observations true calls else (now, false) :: observations true calls

def playingSpans : List (Nat × Bool) → List PlayingSpan
  | (start, playing) :: (finish, next) :: others =>
    if playing then ⟨start, finish⟩ :: playingSpans ((finish, next) :: others)
    else playingSpans ((finish, next) :: others)
  | _ => []

def ended (calls : List LifecycleCall) : Bool := calls.any LifecycleCall.ends

/-! ### The account of a lifecycle -/

def acknowledged (reports : List SyncReport) : Nat :=
  ((reports.filter fun report => report.answered).map fun report => report.progress.timeListened).sum

/-- What the reports carried whose answer never came. -/
def unanswered (reports : List SyncReport) : Nat :=
  ((reports.filter fun report => !report.answered).map fun report => report.progress.timeListened).sum

/-- `reports` and `closes` are the requests sent, and each report carried the spans of one block. -/
structure Settled (observed : List (Nat × Bool)) (s : AudiobookshelfLifecycle)
    (reports : List SyncReport) (closes : List PlaybackProgress)
    (blocks : List (List PlayingSpan)) (rest : List PlayingSpan) : Prop where
  sent : s.sent = reports.map .sync ++ closes.map .close
  carried : reports.map (fun report => report.progress.timeListened) = blocks.map totalLength
  remainder : s.listeningTime.accumulated = totalLength rest
  spans : blocks.flatten ++ rest = playingSpans observed

structure Current (observed : List (Nat × Bool)) (s : AudiobookshelfLifecycle) : Prop where
  lastObserved : s.listeningTime.lastObserved = observed.getLast?.map Prod.fst
  playing : s.listeningTime.playing = observed.getLast?.any Prod.snd
  idle : s.inFlight = false

@[simp] theorem totalLength_append (spans others : List PlayingSpan) :
    totalLength (spans ++ others) = totalLength spans + totalLength others := by
  simp [totalLength]

theorem totalLength_flatten (blocks : List (List PlayingSpan)) : totalLength blocks.flatten = (blocks.map totalLength).sum := by
  induction blocks with
  | nil => rfl
  | cons block blocks ih => simp [ih]

theorem acknowledged_add_unanswered (reports : List SyncReport) : acknowledged reports + unanswered reports =
      (reports.map fun report => report.progress.timeListened).sum := by
  induction reports with
  | nil => rfl
  | cons report reports ih =>
    simp only [acknowledged, unanswered] at ih ⊢
    cases answered : report.answered <;> simp [answered] <;> omega

variable {s : AudiobookshelfLifecycle} {observed : List (Nat × Bool)} {blocks : List (List PlayingSpan)}
  {rest : List PlayingSpan}

theorem Settled.total {reports : List SyncReport} {closes : List PlaybackProgress}
    (settled : Settled observed s reports closes blocks rest) :
    acknowledged reports + unanswered reports + s.listeningTime.accumulated = totalLength (playingSpans observed) := by
  rw [acknowledged_add_unanswered, settled.carried, settled.remainder, ← totalLength_flatten,
    ← totalLength_append, settled.spans]

def closedSpan (observed : List (Nat × Bool)) (now : Nat) : List PlayingSpan :=
  (observed.getLast?.toList.filter Prod.snd).map fun last => ⟨last.1, now⟩

theorem playingSpans_concat (observed : List (Nat × Bool)) (now : Nat) (playing : Bool) :
    playingSpans (observed ++ [(now, playing)]) = playingSpans observed ++ closedSpan observed now := by
  induction observed with
  | nil => rfl
  | cons first others ih =>
    cases others with
    | nil => cases first with | mk start wasPlaying => cases wasPlaying <;> rfl
    | cons second others =>
      have last : closedSpan (first :: second :: others) now = closedSpan (second :: others) now := rfl
      simp only [cons_append] at ih ⊢
      simp only [playingSpans, ih, last]
      split <;> rfl

theorem Current.observe (current : Current observed s) (now : Nat) (playing : Bool) :
    Current (observed ++ [(now, playing)]) (s.observe now playing) := by
  constructor
  · simp [AudiobookshelfLifecycle.observe, ListeningTime.observe]
  · simp [AudiobookshelfLifecycle.observe, ListeningTime.observe]
  · exact current.idle

theorem Current.accumulated (current : Current observed s) (now : Nat) (playing : Bool) :
    (s.observe now playing).listeningTime.accumulated = s.listeningTime.accumulated + totalLength (closedSpan observed now) := by
  simp only [AudiobookshelfLifecycle.observe, ListeningTime.observe, current.lastObserved, current.playing, closedSpan]
  cases observed.getLast? with
  | none => rfl
  | some last => cases playing : last.2 <;> simp [playing, totalLength]

theorem Settled.observe {reports : List SyncReport} {closes : List PlaybackProgress}
    (settled : Settled observed s reports closes blocks rest) (current : Current observed s)
    (now : Nat) (playing : Bool) :
    Settled (observed ++ [(now, playing)]) (s.observe now playing) reports closes blocks (rest ++ closedSpan observed now) := by
  constructor
  · exact settled.sent
  · exact settled.carried
  · rw [current.accumulated, settled.remainder, totalLength_append]
  · rw [playingSpans_concat, ← settled.spans, append_assoc]

@[simp] theorem syncFinal_closed (s : AudiobookshelfLifecycle) (positionTicks : Int) (now : Nat)
    (answered : Bool) : (s.syncFinal positionTicks now answered).closed = s.closed := by
  unfold AudiobookshelfLifecycle.syncFinal
  split
  · rfl
  · cases answered <;> rfl

@[simp] theorem syncFinal_inFlight (s : AudiobookshelfLifecycle) (positionTicks : Int) (now : Nat)
    (answered : Bool) : (s.syncFinal positionTicks now answered).inFlight = s.inFlight := by
  unfold AudiobookshelfLifecycle.syncFinal
  split
  · rfl
  · cases answered <;> rfl

theorem syncFinal_listeningTime (idle : s.inFlight = false) (positionTicks : Int) (now : Nat) (answered : Bool) :
    (s.syncFinal positionTicks now answered).listeningTime = { s.listeningTime with accumulated := 0 } := by
  unfold AudiobookshelfLifecycle.syncFinal
  split
  · simp_all
  · cases answered <;> rfl

theorem syncFinal_sent (idle : s.inFlight = false) (positionTicks : Int) (now : Nat) (answered : Bool) :
    ∃ report, report.progress.timeListened = s.listeningTime.accumulated ∧
      (s.syncFinal positionTicks now answered).sent = s.sent ++ [.sync report] := by
  refine ⟨⟨⟨microsFromTicks positionTicks, s.listeningTime.accumulated, s.duration⟩, answered⟩, rfl, ?_⟩
  unfold AudiobookshelfLifecycle.syncFinal
  split
  · simp_all
  · cases answered <;> rfl

theorem Current.syncFinal (current : Current observed s) (positionTicks : Int) (now : Nat) (answered : Bool) :
    Current observed (s.syncFinal positionTicks now answered) := by
  constructor
  · rw [syncFinal_listeningTime current.idle]
    exact current.lastObserved
  · rw [syncFinal_listeningTime current.idle]
    exact current.playing
  · rw [syncFinal_inFlight]
    exact current.idle

/-- A sync carries everything listened to since the last one, whether it is answered or not. -/
theorem Settled.syncFinal {reports : List SyncReport}
    (settled : Settled observed s reports [] blocks rest) (current : Current observed s)
    (positionTicks : Int) (now : Nat) (answered : Bool) :
    ∃ report, Settled observed (s.syncFinal positionTicks now answered) (reports ++ [report]) [] (blocks ++ [rest]) [] := by
  obtain ⟨report, listened, sent⟩ := syncFinal_sent current.idle positionTicks now answered
  refine ⟨report, ?_, ?_, ?_, ?_⟩
  · simp [sent, settled.sent]
  · simp [settled.carried, listened, settled.remainder]
  · rw [syncFinal_listeningTime current.idle]
    rfl
  · simpa using settled.spans

theorem Settled.closing {reports : List SyncReport}
    (settled : Settled observed s reports [] blocks rest) (progress : PlaybackProgress) :
    Settled observed { s with sent := s.sent ++ [.close progress] } reports [progress] blocks rest :=
  ⟨by simp [settled.sent], settled.carried, settled.remainder, settled.spans⟩

structure Accounted (calls : List LifecycleCall) (s : AudiobookshelfLifecycle) : Prop where
  current : Current (observations false calls) s
  closed : s.closed = ended calls
  settled : ∃ reports closes blocks rest,
    Settled (observations false calls) s reports closes blocks rest ∧
      closes.length = (ended calls).toNat

theorem observations_append (closed : Bool) (calls others : List LifecycleCall) : observations closed (calls ++ others) =
      observations closed calls ++ observations (closed || ended calls) others := by
  induction calls generalizing closed with
  | nil => simp [observations, ended]
  | cons call calls ih =>
    cases call with
    | observe now playing => simp [observations, ih, ended, LifecycleCall.ends]
    | sync positionTicks now force answered => simp [observations, ih, ended, LifecycleCall.ends]
    | close positionTicks now answered =>
      cases closed <;> simp [observations, ih, ended, LifecycleCall.ends]
    | drop now answered =>
      cases closed <;> simp [observations, ih, ended, LifecycleCall.ends]

theorem ended_concat (calls : List LifecycleCall) (call : LifecycleCall) :
    ended (calls ++ [call]) = (ended calls || call.ends) := by
  simp [ended]

theorem accounted_new (currentPosition duration : Nat) (progressSender : Bool) (now : Nat) :
    Accounted [] (AudiobookshelfLifecycle.new currentPosition duration progressSender now) :=
  ⟨⟨rfl, rfl, rfl⟩, rfl, [], [], [], [], ⟨rfl, rfl, rfl, rfl⟩, rfl⟩

variable {calls : List LifecycleCall}

theorem Accounted.observe (accounted : Accounted calls s) (now : Nat) (playing : Bool) :
    Accounted (calls ++ [.observe now playing]) (s.observe now playing) := by
  obtain ⟨current, closed, reports, closes, blocks, rest, settled, once⟩ := accounted
  have observed : observations false (calls ++ [.observe now playing]) =
      observations false calls ++ [(now, playing)] := observations_append false calls _
  have ends : ended (calls ++ [.observe now playing]) = ended calls := by
    simp [ended_concat, LifecycleCall.ends]
  refine ⟨?_, ?_, reports, closes, blocks, rest ++ closedSpan (observations false calls) now, ?_, ?_⟩
  · rw [observed]
    exact current.observe now playing
  · rw [ends]
    exact closed
  · rw [observed]
    exact settled.observe current now playing
  · rw [ends]
    exact once

theorem Accounted.settled_open (accounted : Accounted calls s) (opened : s.closed = false) :
    ∃ reports blocks rest, Settled (observations false calls) s reports [] blocks rest := by
  obtain ⟨reports, closes, blocks, rest, settled, once⟩ := accounted.settled
  rw [← accounted.closed, opened] at once
  obtain rfl := eq_nil_of_length_eq_zero once
  exact ⟨reports, blocks, rest, settled⟩

theorem Accounted.sync (accounted : Accounted calls s) (positionTicks : Int) (now : Nat) (force answered : Bool) :
    Accounted (calls ++ [.sync positionTicks now force answered]) (s.sync positionTicks now force answered) := by
  have observed : observations false (calls ++ [.sync positionTicks now force answered]) = observations false calls := by
    rw [observations_append]
    exact append_nil _
  have ends : ended (calls ++ [.sync positionTicks now force answered]) = ended calls := by
    simp [ended_concat, LifecycleCall.ends]
  unfold AudiobookshelfLifecycle.sync
  split
  · refine ⟨?_, ?_, ?_⟩
    · rw [observed]
      exact accounted.current
    · rw [ends]
      exact accounted.closed
    · rw [observed, ends]
      exact accounted.settled
  · rename_i goes
    have opened : s.closed = false := by
      cases closed : s.closed <;> simp_all
    obtain ⟨reports, blocks, rest, settled⟩ := accounted.settled_open opened
    obtain ⟨report, settled'⟩ := settled.syncFinal accounted.current positionTicks now answered
    refine ⟨?_, ?_, reports ++ [report], [], blocks ++ [rest], [], ?_, ?_⟩
    · rw [observed]
      exact accounted.current.syncFinal positionTicks now answered
    · rw [ends, syncFinal_closed]
      exact accounted.closed
    · rw [observed]
      exact settled'
    · rw [ends, ← accounted.closed, opened]
      rfl

theorem Accounted.ending (accounted : Accounted calls s) {call : LifecycleCall} (ends : call.ends = true)
    (stops : ∀ closed, observations closed [call] = if closed then [] else [(call.now, false)])
    (positionTicks : Int) (answered : Bool) :
    Accounted (calls ++ [call]) (s.close positionTicks call.now answered) := by
  have over_ : ended (calls ++ [call]) = true := by rw [ended_concat, ends, Bool.or_true]
  have observed := observations_append false calls [call]
  rw [Bool.false_or, ← accounted.closed, stops] at observed
  unfold AudiobookshelfLifecycle.close
  split
  · rename_i closed
    rw [if_pos closed, append_nil] at observed
    have before : ended calls = true := accounted.closed ▸ closed
    refine ⟨?_, ?_, ?_⟩
    · rw [observed]
      exact accounted.current
    · rw [over_, closed]
    · rw [observed, over_, ← before]
      exact accounted.settled
  · rename_i opened
    rw [if_neg opened] at observed
    obtain ⟨reports, blocks, rest, settled⟩ := accounted.settled_open (Bool.eq_false_iff.mpr opened)
    have current : Current (observations false calls) { s with closed := true } :=
      ⟨accounted.current.lastObserved, accounted.current.playing, accounted.current.idle⟩
    have settled' : Settled (observations false calls) { s with closed := true } reports [] blocks rest :=
      ⟨settled.sent, settled.carried, settled.remainder, settled.spans⟩
    have stopped := settled'.observe current call.now false
    have stoppedCurrent := current.observe call.now false
    obtain ⟨report, final⟩ := stopped.syncFinal stoppedCurrent positionTicks call.now answered
    have finalCurrent := stoppedCurrent.syncFinal positionTicks call.now answered
    refine ⟨?_, ?_, ?_⟩
    · rw [observed]
      exact ⟨finalCurrent.lastObserved, finalCurrent.playing, finalCurrent.idle⟩
    · rw [over_]
      exact syncFinal_closed _ _ _ _
    · rw [observed, over_]
      exact ⟨_, _, _, _, final.closing _, rfl⟩

theorem Accounted.step (accounted : Accounted calls s) (call : LifecycleCall) :
    Accounted (calls ++ [call]) (lifecycleMachine.step s call) := by
  cases call with
  | observe now playing => exact accounted.observe now playing
  | sync positionTicks now force answered => exact accounted.sync positionTicks now force answered
  | close positionTicks now answered => exact accounted.ending rfl (fun _ => rfl) positionTicks answered
  | drop now answered => exact accounted.ending rfl (fun _ => rfl) (s.currentPosition * 10) answered

theorem Accounted.run (accounted : Accounted calls s) (others : List LifecycleCall) :
    Accounted (calls ++ others) (lifecycleMachine.run s others) := by
  induction others generalizing calls s with
  | nil => simpa using accounted
  | cons call others ih => simpa using ih (accounted.step call)

theorem playingSpans_start_mem {span : PlayingSpan} (member : span ∈ playingSpans observed) :
    span.start ∈ observed.map Prod.fst := by
  induction observed with
  | nil => simp [playingSpans] at member
  | cons first others ih =>
    cases others with
    | nil => simp [playingSpans] at member
    | cons second others =>
      rw [playingSpans] at member
      split at member
      · rcases mem_cons.mp member with rfl | member
        · simp
        · exact mem_cons_of_mem _ (ih member)
      · exact mem_cons_of_mem _ (ih member)

theorem playingSpans_apart (ordered : (observed.map Prod.fst).Pairwise (· ≤ ·)) :
    (playingSpans observed).Pairwise fun one other => one.finish ≤ other.start := by
  induction observed with
  | nil => exact .nil
  | cons first others ih =>
    cases others with
    | nil => exact .nil
    | cons second others =>
      have later := ih (pairwise_cons.mp ordered).2
      rw [playingSpans]
      split
      · refine pairwise_cons.mpr ⟨fun other member => ?_, later⟩
        rcases mem_cons.mp (playingSpans_start_mem member) with same | after
        · exact Nat.le_of_eq same.symm
        · have ordered' := (pairwise_cons.mp ordered).2
          exact (pairwise_cons.mp ordered').1 _ after
      · exact later

theorem observations_times (closed : Bool) (calls : List LifecycleCall) :
    ((observations closed calls).map Prod.fst).Sublist (calls.map LifecycleCall.now) := by
  induction calls generalizing closed with
  | nil => exact .slnil
  | cons call calls ih =>
    cases call with
    | observe now playing => exact (ih closed).cons_cons now
    | sync positionTicks now force answered => exact (ih closed).cons now
    | close positionTicks now answered =>
      cases closed
      · exact (ih true).cons_cons now
      · exact (ih true).cons now
    | drop now answered =>
      cases closed
      · exact (ih true).cons_cons now
      · exact (ih true).cons now

def SessionRequest.syncReport : SessionRequest → Option SyncReport
  | sync report => some report
  | close _ => none

def AudiobookshelfLifecycle.reports (s : AudiobookshelfLifecycle) : List SyncReport :=
  s.sent.filterMap SessionRequest.syncReport

theorem Settled.reports_eq {reports : List SyncReport} {closes : List PlaybackProgress}
    (settled : Settled observed s reports closes blocks rest) :
    s.reports = reports := by
  have syncs : (reports.map SessionRequest.sync).filterMap SessionRequest.syncReport = reports := by
    rw [filterMap_map]
    exact filterMap_some
  have others : (closes.map SessionRequest.close).filterMap SessionRequest.syncReport = [] := by
    simp [SessionRequest.syncReport]
  rw [AudiobookshelfLifecycle.reports, settled.sent, filterMap_append, syncs, others, append_nil]

structure ListeningAccount (calls : List LifecycleCall) (s : AudiobookshelfLifecycle) : Prop where
  /-- One close request once the lifecycle has ended, and every sync before it. -/
  closes : ∃ closes : List PlaybackProgress,
    s.sent = s.reports.map .sync ++ closes.map .close ∧ closes.length = (ended calls).toNat
  /-- Each report carries the spans of one block, in the order they were observed. -/
  blocks : ∃ (blocks : List (List PlayingSpan)) (rest : List PlayingSpan),
    blocks.flatten ++ rest = playingSpans (observations false calls) ∧
    s.reports.map (fun report => report.progress.timeListened) = blocks.map totalLength ∧
    s.listeningTime.accumulated = totalLength rest
  total : acknowledged s.reports + unanswered s.reports + s.listeningTime.accumulated =
    totalLength (playingSpans (observations false calls))
  apart : (playingSpans (observations false calls)).Pairwise fun one other =>
    one.finish ≤ other.start

/-- Eleven seconds of listening, then a sync that is not answered. -/
def lostSync : List LifecycleCall :=
  [.observe 0 true, .observe 11000000000 true, .sync 0 11000000000 false false,
    .drop 12000000000 true]

end Mbv.Player
