import Mbv.Queue.Resume
import Mbv.Player.Run.Playlist

namespace Mbv.Player

open Mbv.Queue

structure MpvPlayer where
  entries : List QueueSlotId := []
  current : Option Nat := none
  position : Int := 0

namespace MpvPlayer

variable (player : MpvPlayer)

/-- The file mpv plays or holds paused, named by its slot, and where it stands. -/
def playing : Option (QueueSlotId × Int) :=
  (player.current.bind (player.entries[·]?)).map fun slotId => (slotId, player.position)

section Commands

variable (starts : QueueSlotId → Int)

/-- mpv loads the file at `index`, or has none. -/
def loads (entries : List QueueSlotId) (index : Nat) : MpvPlayer where
  entries := entries
  current := if index < entries.length then some index else none
  position := (entries[index]?.map starts).getD 0

/-- A command mpv carries out; the file that plays goes on unless it is replaced or removed. -/
def apply : MpvCommand → MpvPlayer
  | .stop => {}
  | .playlistClear =>
    match player.current.bind (player.entries[·]?) with
    | some slotId => { player with entries := [slotId], current := some 0 }
    | none => {}
  | .playlistRemove index =>
    if index < player.entries.length then
      if player.current = some index then loads starts (player.entries.eraseIdx index) index
      else
        { player with
          entries := player.entries.eraseIdx index
          current := player.current.map fun place => if index < place then place - 1 else place }
    else player
  | .playlistMove index1 index2 =>
    match mpvMove player.entries index1 index2 with
    | some entries =>
      { player with
        entries := entries
        current := player.current.map fun place =>
          shiftIndexForMove place index1 (if index1 < index2 then index2 - 1 else index2) }
    | none => player
  | .loadfile slotId .replace => loads starts [slotId] 0
  | .loadfile slotId .append => { player with entries := player.entries ++ [slotId] }
  | .loadfile slotId .appendPlay =>
    match player.current with
    | some _ => { player with entries := player.entries ++ [slotId] }
    | none => loads starts (player.entries ++ [slotId]) player.entries.length
  | .loadfile slotId (.insertAt index) =>
    { player with
      entries := player.entries.insertIdx index slotId
      current := player.current.map fun place => if index ≤ place then place + 1 else place }

/-- Commands in order, of which mpv refuses some; `n` counts them. -/
def carryOut (refuses : Nat → MpvCommand → Bool) : Nat → MpvPlayer → List MpvCommand → MpvPlayer
  | _, player, [] => player
  | n, player, command :: commands =>
    carryOut refuses (n + 1) (if refuses n command then player else player.apply starts command)
      commands

end Commands

end MpvPlayer

/-- What the services and mpv answer an edit: `refused` numbers the commands mpv refuses, and
    `session` is the Service session a prepared Audiobookshelf source has, at `sessionTicks`. -/
structure EditAnswers extends Answers where
  refused : List Nat := []
  session : Nat := 0
  sessionTicks : Int := 0

namespace EditAnswers

variable (answers : EditAnswers)

def refuses (n : Nat) : MpvCommand → Bool
  | .stop | .playlistClear => false
  | .loadfile _ .replace => answers.loadfile.isSome
  | _ => answers.refused.contains n

/-- Only an Audiobookshelf source takes a Service to prepare. -/
def preparing (item : Option QueueItem) : Answers :=
  { answers.toAnswers with
    prepareSource :=
      if item.any (·.isAudiobookshelf) then answers.prepareSource else none }

/-- The session a source of the item opens, when it is prepared and loaded. -/
def opens (item : Option QueueItem) : Option Nat :=
  if item.any (·.isAudiobookshelf) && answers.prepareSource.isNone && answers.loadfile.isNone then
    some answers.session
  else none

def startTicks (item : QueueItem) : Int :=
  if item.isAudiobookshelf then answers.sessionTicks else (resumeTicksForItem item).getD 0

def startOf (run next : PlaybackRun) (slotId : QueueSlotId) : Int :=
  (((run.queue.slot slotId).or (next.queue.slot slotId)).map fun slot =>
    answers.startTicks slot.item).getD 0

end EditAnswers

inductive QueueEdit where
  | append (items : List ExecSlot)
  | remove (slotId : QueueSlotId)
  | move (slotId : QueueSlotId) (toIndex : Nat)
  | reorder (order : List QueueSlotId)

namespace QueueEdit

def command : QueueEdit → PlayerCommand
  | append items => .queueAppend items
  | remove slotId => .queueRemove slotId
  | move slotId toIndex => .queueMove slotId toIndex
  | reorder order => .queueReorder order

def applied (slotIds : List QueueSlotId) : QueueEdit → List QueueSlotId
  | append items => slotIds ++ items.map (·.slotId)
  | remove slotId => slotIds.erase slotId
  | move slotId toIndex =>
    if toIndex < slotIds.length then slotIds.moveTo slotId toIndex else slotIds
  | reorder order => if isSlotPermutation slotIds order then order else slotIds

end QueueEdit

namespace PlaybackRun

variable (run : PlaybackRun)

def promotes (items : List ExecSlot) : Bool :=
  !run.runLifecycle.isActiveFile && items.any (·.item.isAudiobookshelf) &&
    run.queue.activeSlot.isSome

/-- The item whose source the edit prepares. -/
def preparedItem : QueueEdit → Option QueueItem
  | .append items => if run.promotes items then run.activeItem else none
  | .remove slotId =>
    if run.runLifecycle.isActiveFile then
      (((run.queue.slotIndex slotId).bind run.removeNeighborSlot).bind run.queue.slot).map (·.item)
    else none
  | _ => none

/-- Whether the edit closes the prepared source: to prepare another, or with its slot. -/
def closesSource : QueueEdit → Bool
  | .append items => run.promotes items
  | .remove slotId => run.activeSlotId = some slotId && (run.queue.slotIndex slotId).isSome
  | _ => false

end PlaybackRun

/-- A run, the Service session of the source it plays, and the mpv it plays it in. -/
structure PlayingRun where
  run : PlaybackRun
  session : Option Nat := none
  player : MpvPlayer := {}

inductive PlayingInput where
  | edit (answers : EditAnswers) (edit : QueueEdit)
  /-- Anything else the run handles. Of the sessions it may open or close, only the one it leaves
      open is told, and a run that plays mpv's playlist holds no item that needs one. -/
  | other (answers : EditAnswers) (session : Option Nat) (input : RunInput)
  /-- mpv plays on, or goes to another entry of its playlist. -/
  | plays (current : Option Nat) (position : Int)

namespace PlayingRun

variable (playing : PlayingRun)

def tell (answers : EditAnswers) (next : PlaybackRun) : MpvPlayer :=
  MpvPlayer.carryOut (answers.startOf playing.run next) answers.refuses 0 playing.player
    (next.mpv.drop playing.run.mpv.length)

def edited (answers : EditAnswers) (edit : QueueEdit) : PlayingRun :=
  let item := playing.run.preparedItem edit
  match playing.run.handleCommand (answers.preparing item) edit.command with
  | none => playing
  | some (_, next) =>
    { run := next
      session := if playing.run.closesSource edit then answers.opens item else playing.session
      player := playing.tell answers next }

def handled (answers : EditAnswers) (session : Option Nat) (input : RunInput) : PlayingRun :=
  let next := ((RunThread.mk playing.run false).step input).run
  { run := next
    session := if next.runLifecycle.isActiveFile then session else none
    player := playing.tell answers next }

def step : PlayingInput → PlayingRun
  | .edit answers edit => playing.edited answers edit
  | .other answers session input => playing.handled answers session input
  | .plays current position =>
    { playing with player := { playing.player with current := current, position := position } }

def machine : Machine PlayingRun PlayingInput := ⟨step⟩

end PlayingRun

end Mbv.Player
