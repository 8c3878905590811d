import Mbv.Machine.Retry
import Mbv.Sequence.Gathering
import Mbv.Queue.Resume

/-! The refresh of the positions a server owns, before a start is decided. -/

namespace Mbv.Player

open Mbv.Queue Retry List

def serverItem (item : QueueItem) : Option EmbyItem :=
  match resumeSource item with
  | .server =>
    match item with
    | .emby emby => some emby
    | .feed _ | .audiobookshelf _ | .twitch _ => none
  | .session | .local | .beginning => none

def serverIds (items : List QueueItem) : List String :=
  (items.filterMap serverItem).map (·.id)

def serverPosition (held : List EmbyItem) (id : String) : Int × Bool :=
  match held.find? fun copy => decide (copy.id = id) with
  | some copy => (copy.playbackPositionTicks, copy.played)
  | none => (0, false)

def writePosition (held : List EmbyItem) (item : QueueItem) : QueueItem :=
  match serverItem item with
  | some server =>
    let (positionTicks, played) := serverPosition held server.id
    .emby { server with playbackPositionTicks := positionTicks, played := played }
  | none => item

namespace ResumeSeam

/-- The ids of a batch, each once: `seen` and `missing` hold the same ones. -/
def missingIds (items : List QueueItem) : List String := Gathering.gather id [] (serverIds items)

variable (fetch : Nat → List String → Option (List EmbyItem)) (delays : Nat)
  (items : List QueueItem)

/-- The fetches of a refresh: a first one and one after each delay, while an id is missing. -/
def asked : Asked String EmbyItem :=
  attempts EmbyItem.id fetch (delays + 1) { missing := missingIds items }

def refresh : List QueueItem := items.map (writePosition (asked fetch delays items).held)

def calls : List (List String) := (asked fetch delays items).calls

end ResumeSeam

theorem gather_eq_eraseDups (rows ids : List String) :
    Gathering.gather id rows ids = rows ++ (ids.filter fun i => !rows.contains i).eraseDups := by
  induction ids generalizing rows with
  | nil => simp
  | cons first ids ih =>
    rw [Gathering.gather_cons]
    by_cases held : first ∈ rows
    · have known : first ∈ rows.map id := by simpa using held
      rw [Gathering.gatherRow_held known, ih, filter_cons_of_neg (by simp [held])]
    · have new : first ∉ rows.map id := by simpa using held
      have later : (ids.filter fun i => !(rows ++ [first]).contains i) =
          (ids.filter fun i => !rows.contains i).filter fun i => !i == first := by
        rw [filter_filter]
        apply filter_congr
        intro other _
        rw [contains_append, Bool.not_or, Bool.and_comm]
        congr 1
        simp [Bool.beq_eq_decide_eq]
      rw [Gathering.gatherRow_new new, ih, filter_cons_of_pos (by simp [held]), eraseDups_cons, later, append_assoc]
      rfl

theorem missingIds_eq (items : List QueueItem) : ResumeSeam.missingIds items = (serverIds items).eraseDups := by
  have all : ((serverIds items).filter fun i => !([] : List String).contains i) = serverIds items :=
    filter_eq_self.mpr fun _ _ => rfl
  rw [ResumeSeam.missingIds, gather_eq_eraseDups, all, nil_append]

theorem serverItem_eq {item : QueueItem} {server : EmbyItem}
    (own : serverItem item = some server) : item = .emby server ∧ server.isAudio = false := by
  cases item with
  | emby emby =>
    unfold serverItem resumeSource at own
    dsimp only at own
    cases audio : emby.isAudio <;> rw [audio] at own <;> cases own
    exact ⟨rfl, audio⟩
  | feed entry => cases own
  | audiobookshelf item => cases own
  | twitch item => cases own

theorem writePosition_server {held : List EmbyItem} {item : QueueItem} {server : EmbyItem}
    (own : serverItem item = some server) :
    writePosition held item = .emby { server with
      playbackPositionTicks := (serverPosition held server.id).1
      played := (serverPosition held server.id).2 } := by
  unfold writePosition
  rw [own]

theorem writePosition_other {held : List EmbyItem} {item : QueueItem}
    (other : serverItem item = none) : writePosition held item = item := by
  unfold writePosition
  rw [other]

theorem serverItem_writePosition {held : List EmbyItem} {item : QueueItem} {written : EmbyItem}
    (own : serverItem (writePosition held item) = some written) :
    (written.playbackPositionTicks, written.played) = serverPosition held written.id := by
  cases source : serverItem item with
  | none =>
    rw [writePosition_other source, source] at own
    cases own
  | some server =>
    rw [writePosition_server source] at own
    cases (serverItem_eq own).1
    rfl

/-- The positions come from the server: `calls` are the fetches made. -/
structure FromServer (fetch : Nat → List String → Option (List EmbyItem)) (delays : Nat)
    (items result : List QueueItem) (calls : List (List String)) : Prop where
  length : result.length = items.length
  other : ∀ (place : Nat) (item : QueueItem), items[place]? = some item → serverItem item = none →
    result[place]? = some item
  server : ∀ (place : Nat) (item : QueueItem) (own : EmbyItem), items[place]? = some item →
    serverItem item = some own →
    result[place]? = some (.emby { own with
      playbackPositionTicks := (serverPosition (returned fetch calls).reverse own.id).1
      played := (serverPosition (returned fetch calls).reverse own.id).2 })
  agree : ∀ first ∈ result, ∀ second ∈ result, ∀ one ∈ serverItem first, ∀ two ∈ serverItem second,
    one.id = two.id → one.playbackPositionTicks = two.playbackPositionTicks ∧
      one.played = two.played
  bound : calls.length ≤ delays + 1
  asks : ∀ (n : Nat) (call : List String), calls[n]? = some call →
    call = Retry.unanswered EmbyItem.id fetch (serverIds items).eraseDups (calls.take n) ∧ call ≠ []
  spent : Retry.unanswered EmbyItem.id fetch (serverIds items).eraseDups calls ≠ [] →
    calls.length = delays + 1

end Mbv.Player
