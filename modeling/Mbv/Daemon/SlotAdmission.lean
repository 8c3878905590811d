import Mbv.Player.Run.Playlist
import Mbv.Player.Run.Thread
import Mbv.Daemon.QueueEdit

namespace Mbv.Daemon

open Mbv.Queue Mbv.Player List

structure OwnedQueue where
  owner : PlaybackQueue
  run : Option PlaybackRun := none

structure Service where
  answers : Answers := {}
  /-- The live run does not fit the submission, so a new one replaces it. -/
  coldStart : Bool := false
  init : RunInit := { startIdx := 0, origin := .queue }

inductive OwnerInput where
  | replace (ctx : ControlContext) (request : QueueReplace)
  | edit (change : QueueEdit)
  | runEnded

def OwnerInput.reply (owner : PlaybackQueue) : OwnerInput → ControlReply
  | .replace ctx request => handleQueueReplace ctx owner request
  | .edit change => change.handle owner
  | .runEnded => { queue := owner }

def slotItems (items : List ExecSlot) : List (QueueSlotId × QueueItem) :=
  items.map fun slot => (slot.slotId, slot.item)

def heldBy (run : Option PlaybackRun) : List QueueSlotId :=
  (run.map fun run => run.queue.slotIds).getD []

/-- `none` is a failed assertion. Without a live run a submission starts one, and any other command
    is dropped. -/
def carryOut (service : Service) (run : Option PlaybackRun) :
    PlayerCommand → Option (Option PlaybackRun)
  | .submitQueue (first :: items) startIdx =>
    match if service.coldStart then none else run with
    | none =>
      (PlaybackRun.buildQueue (first :: items) startIdx).map fun queue =>
        PlaybackRun.initFromQueue queue { service.init with startIdx := startIdx }
    | some run =>
      (run.handleCommand service.answers (.submitQueue (first :: items) startIdx)).map
        fun result => some result.2
  | command =>
    match run with
    | none => some none
    | some run => (run.handleCommand service.answers command).map fun result => some result.2

def carryOutAll (service : Service) (run : Option PlaybackRun) :
    List PlayerCommand → Option (Option PlaybackRun)
  | [] => some run
  | command :: commands =>
    (carryOut service run command).bind fun run => carryOutAll service run commands

def Passes (run : Option PlaybackRun) : PlayerCommand → Prop
  | .submitQueue items _ => uniqueSlotIds (slotItems items) [] = true
  | .queueAppend items => uniqueSlotIds (slotItems items) (heldBy run) = true
  | _ => True

instance (run : Option PlaybackRun) (command : PlayerCommand) : Decidable (Passes run command) := by
  cases command <;> unfold Passes <;> infer_instance

namespace OwnedQueue

def step (system : OwnedQueue) (input : Service × OwnerInput) : OwnedQueue :=
  let reply := input.2.reply system.owner
  { owner := reply.queue
    run :=
      match input.2 with
      | .runEnded => none
      | _ => (carryOutAll input.1 system.run reply.sent).getD system.run }

def machine : Machine OwnedQueue (Service × OwnerInput) := ⟨step⟩

/-- The owner's ids stay distinct, the slots handed to the run pass its assertion, and none of the
    commands sent runs into it. -/
def KeepsUnique (system : OwnedQueue) (input : Service × OwnerInput) : Prop :=
  (input.2.reply system.owner).queue.slotIds.Nodup ∧
    (∀ command ∈ (input.2.reply system.owner).sent, Passes system.run command) ∧
    (carryOutAll input.1 system.run (input.2.reply system.owner).sent).isSome

/-- An accepted replacement names every admitted slot once, and an accepted append finds ids left
    that neither queue holds. -/
def Unambiguous (system : OwnedQueue) : OwnerInput → Prop
  | .replace ctx request =>
    request.accepted ctx = true → ((request.admitted ctx).map (·.1)).Nodup
  | .edit (.append ctx request) =>
    request.accepted ctx system.owner = true →
      Room system.owner.nextSlotId (request.admitted ctx).length
        (system.owner.slotIds ++ heldBy system.run)
  | _ => True

end OwnedQueue

theorem slotItems_slotIds (items : List ExecSlot) : (slotItems items).map (·.1) = items.map (·.slotId) := by
  simp [slotItems]

theorem buildQueue_isSome {items : List ExecSlot} {startIdx : Nat} :
    (PlaybackRun.buildQueue items startIdx).isSome ↔ (items.map (·.slotId)).Nodup := by
  unfold PlaybackRun.buildQueue
  rw [ExecutionSequence.fromSlotItems_isSome, ← slotItems_slotIds]
  rfl

/-! ### The assertion is the only way a command fails -/

section Run

variable {run : PlaybackRun}

variable {items : List ExecSlot}

theorem acceptStoppedReplacement_isSome {startIdx : Nat} {activeItem : QueueItem} {error : String}
    (distinct : (items.map (·.slotId)).Nodup) :
    (run.acceptStoppedReplacement items startIdx activeItem error).isSome := by
  unfold PlaybackRun.acceptStoppedReplacement
  dsimp only
  rw [Option.isSome_map]
  split
  · rfl
  · exact buildQueue_isSome.mpr distinct

variable {answers : Answers}

theorem replaceWithQueueItems_isSome {startIdx : Nat} (distinct : (items.map (·.slotId)).Nodup) :
    (run.replaceWithQueueItems answers items startIdx).isSome := by
  unfold PlaybackRun.replaceWithQueueItems
  dsimp only
  split
  · rfl
  · split
    · exact acceptStoppedReplacement_isSome distinct
    · obtain ⟨queue, built⟩ := Option.isSome_iff_exists.mp
        (@buildQueue_isSome items (min startIdx (items.length - 1)) |>.mpr distinct)
      rw [built, Option.bind_some]
      split
      · exact acceptStoppedReplacement_isSome nodup_nil
      · rfl

theorem refreshed_slotIds (refreshed : List (String × (Int × Bool))) (items : List ExecSlot) :
    (items.map fun slot => { slot with item := refreshResume refreshed slot.item }).map (·.slotId) = items.map (·.slotId) := by
  simp

theorem cmdSubmitQueue_isSome {startIdx : Nat} (distinct : (items.map (·.slotId)).Nodup) :
    (run.cmdSubmitQueue answers items startIdx).isSome := by
  unfold PlaybackRun.cmdSubmitQueue
  split
  · exact replaceWithQueueItems_isSome distinct
  · dsimp only
    split
    · rfl
    · split
      · rfl
      · rw [Option.isSome_map, buildQueue_isSome, refreshed_slotIds]
        exact distinct

theorem appendItemsToQueue_isSome (distinct : (items.map (·.slotId)).Nodup)
    (fresh : ∀ id ∈ items.map (·.slotId), id ∉ run.queue.slotIds) :
    (run.appendItemsToQueue items).isSome := by
  unfold PlaybackRun.appendItemsToQueue
  rw [Option.isSome_map]
  exact PlaybackRun.appendSlots_isSome.mpr ⟨distinct, fresh⟩

theorem cmdAppendQueue_isSome (distinct : (items.map (·.slotId)).Nodup)
    (fresh : ∀ id ∈ items.map (·.slotId), id ∉ run.queue.slotIds) :
    (run.cmdAppendQueue answers items).isSome := by
  unfold PlaybackRun.cmdAppendQueue
  split
  · rfl
  · split
    · exact appendItemsToQueue_isSome distinct fresh
    · split
      · unfold PlaybackRun.promoteToActiveFile
        split
        · rfl
        · split
          · rfl
          · split
            · rfl
            · rename_i next installed
              have place := PlaybackRun.installActiveProjection_place installed
              have queue : next.queue = run.queue := congrArg Place.queue place
              rw [Option.isSome_map]
              refine appendItemsToQueue_isSome distinct ?_
              rwa [queue]
      · unfold PlaybackRun.appendItemsViaMpv
        dsimp only
        split
        · refine appendItemsToQueue_isSome ?_ ?_
          · rwa [refreshed_slotIds]
          · rwa [refreshed_slotIds]
        · rfl

theorem handleCommand_isSome {command : PlayerCommand} (passes : Passes (some run) command)
    (other : ∀ item, command ≠ .loadNew item) :
    (run.handleCommand answers command).isSome := by
  cases command with
  | togglePause | jumpTo | queueRemove | queueMove | queueReorder => rfl
  | loadNew item => exact absurd rfl (other item)
  | queueAppend items =>
    obtain ⟨distinct, fresh⟩ := uniqueSlotIds_iff.mp passes
    rw [slotItems_slotIds] at distinct fresh
    rw [PlaybackRun.handleCommand, Option.isSome_map]
    exact cmdAppendQueue_isSome distinct fresh
  | submitQueue items startIdx =>
    have distinct := (uniqueSlotIds_iff.mp passes).1
    rw [slotItems_slotIds] at distinct
    rw [PlaybackRun.handleCommand, Option.isSome_map]
    exact cmdSubmitQueue_isSome distinct

end Run

theorem carryOut_isSome {service : Service} {run : Option PlaybackRun} {command : PlayerCommand}
    (passes : Passes run command) (other : ∀ item, command ≠ .loadNew item) :
    (carryOut service run command).isSome := by
  unfold carryOut
  split
  · have distinct := (uniqueSlotIds_iff.mp passes).1
    rw [slotItems_slotIds] at distinct
    split
    · rw [Option.isSome_map]
      exact buildQueue_isSome.mpr distinct
    · rw [Option.isSome_map]
      exact handleCommand_isSome passes fun _ => PlayerCommand.noConfusion
  · split
    · rfl
    · rw [Option.isSome_map]
      exact handleCommand_isSome passes other

theorem HandsNothing.passes {command : PlayerCommand} (nothing : HandsNothing command) (run : Option PlaybackRun) :
    Passes run command ∧ ∀ item, command ≠ .loadNew item := by
  cases command with
  | queueRemove | queueMove | queueReorder => exact ⟨trivial, fun _ => PlayerCommand.noConfusion⟩
  | submitQueue items startIdx =>
    cases nothing
    exact ⟨rfl, fun _ => PlayerCommand.noConfusion⟩
  | queueAppend | togglePause | jumpTo | loadNew => exact nothing.elim

theorem carryOutAll_isSome {service : Service} {run : Option PlaybackRun}
    {commands : List PlayerCommand} (nothing : ∀ command ∈ commands, HandsNothing command) :
    (carryOutAll service run commands).isSome := by
  induction commands generalizing run with
  | nil => rfl
  | cons command commands ih =>
    obtain ⟨passes, other⟩ := (nothing command mem_cons_self).passes run
    obtain ⟨next, carried⟩ := Option.isSome_iff_exists.mp (@carryOut_isSome service _ _ passes other)
    rw [carryOutAll, carried, Option.bind_some]
    exact ih fun other member => nothing other (mem_cons_of_mem _ member)

theorem carryOutAll_first {service : Service} {run : Option PlaybackRun} {first : PlayerCommand}
    {commands : List PlayerCommand} (passes : Passes run first)
    (other : ∀ item, first ≠ .loadNew item)
    (nothing : ∀ command ∈ commands, HandsNothing command) :
    (carryOutAll service run (first :: commands)).isSome := by
  obtain ⟨next, carried⟩ := Option.isSome_iff_exists.mp (@carryOut_isSome service _ _ passes other)
  rw [carryOutAll, carried, Option.bind_some]
  exact carryOutAll_isSome nothing

namespace OwnedQueue

variable {system : OwnedQueue} {service : Service}

theorem slotIds_installReplacedQueue (queue : PlaybackQueue) (slots : List (QueueSlotId × QueueItem)) (nextCursor : Nat) :
    (installReplacedQueue queue slots nextCursor).slotIds = slots.map (·.1) := by
  simp [installReplacedQueue, PlaybackQueue.fromSlotItems, PlaybackQueue.slotIds]

theorem replace_keepsUnique {ctx : ControlContext} {request : QueueReplace} (accepted : request.accepted ctx = true) :
    KeepsUnique system (service, .replace ctx request) ↔ Unambiguous system (.replace ctx request) := by
  cases prepared : request.prepareReplacementSlots ctx with
  | error reason =>
    simp [QueueReplace.accepted, prepared, Except.isOk, Except.toBool] at accepted
  | ok result =>
    obtain ⟨slots, nextCursor⟩ := result
    obtain ⟨rfl, -⟩ := QueueReplace.prepareReplacementSlots_ok prepared
    set queue := installReplacedQueue system.owner (request.admitted ctx) nextCursor with installed
    have ids : queue.slotIds = (request.admitted ctx).map (·.1) := slotIds_installReplacedQueue ..
    have reply : (OwnerInput.replace ctx request).reply system.owner =
        { queue := queue, sent := submitQueueSlots ctx (slotPairs queue) nextCursor } := by
      simp [OwnerInput.reply, handleQueueReplace, prepared, installed]
    have pairs : (slotPairs queue).map (·.slotId) = queue.slotIds := by
      simp [slotPairs, PlaybackQueue.slotIds]
    unfold KeepsUnique Unambiguous
    rw [reply]
    dsimp only
    constructor
    · rintro ⟨distinct, -⟩ -
      rwa [ids] at distinct
    · intro distinct
      replace distinct : queue.slotIds.Nodup := ids ▸ distinct accepted
      refine ⟨distinct, ?_⟩
      have passes (startIdx : Nat) : Passes system.run (.submitQueue (slotPairs queue) startIdx) := by
        refine uniqueSlotIds_iff.mpr ⟨?_, fun _ _ => not_mem_nil⟩
        rwa [slotItems_slotIds, pairs]
      unfold submitQueueSlots
      split
      · exact ⟨by simp, rfl⟩
      · refine ⟨?_, ?_⟩
        · intro command member
          rw [mem_singleton.mp member]
          exact passes _
        · exact carryOutAll_first (passes _) (fun _ => PlayerCommand.noConfusion) (by simp)

theorem forwardQueueAppend_handsNothing (slots : List ExecSlot) (before : Option QueueSlotId)
    (index : Nat) : ∃ moves, forwardQueueAppend slots before index = .queueAppend slots :: moves ∧
      ∀ command ∈ moves, HandsNothing command := by
  refine ⟨_, rfl, ?_⟩
  split
  · intro command member
    obtain ⟨offset, inside, rfl⟩ := mem_mapIdx.mp member
    trivial
  · simp

theorem append_keepsUnique {ctx : ControlContext} {request : QueueAppend} (distinct : system.owner.slotIds.Nodup) :
    KeepsUnique system (service, .edit (.append ctx request)) ↔ Unambiguous system (.edit (.append ctx request)) := by
  unfold KeepsUnique Unambiguous
  simp only [OwnerInput.reply, QueueEdit.handle]
  cases accepted : request.accepted ctx system.owner with
  | false =>
    obtain ⟨kept, silent⟩ := handleQueueAppend_refused accepted
    rw [kept, silent]
    exact ⟨fun _ => Bool.false_ne_true.elim, fun _ => ⟨distinct, by simp, rfl⟩⟩
  | true =>
    obtain ⟨slots, placed, rest, ids, -, handed, -, order, sent⟩ := handleQueueAppend_accepted accepted
    obtain ⟨moves, batch, nothing⟩ := forwardQueueAppend_handsNothing slots request.before placed.length
    have perm : (placed ++ slots.map (·.slotId) ++ rest).Perm (system.owner.slotIds ++ slots.map (·.slotId)) := by
      rw [ids, append_assoc, append_assoc]
      exact (perm_append_comm).append_left placed
    have passes : Passes system.run (.queueAppend slots) ↔
        (slots.map (·.slotId)).Nodup ∧ ∀ id ∈ slots.map (·.slotId), id ∉ heldBy system.run := by
      show uniqueSlotIds (slotItems slots) (heldBy system.run) = true ↔ _
      rw [uniqueSlotIds_iff, slotItems_slotIds]
    rw [order, sent, batch, perm.nodup_iff, room_iff, ← handed]
    constructor
    · rintro ⟨unique, pass, -⟩ -
      obtain ⟨separate, fresh⟩ := passes.mp (pass _ mem_cons_self)
      refine ⟨separate, fun id new held => ?_⟩
      rcases mem_append.mp held with owned | run
      · exact (nodup_append.mp unique).2.2 id owned id new rfl
      · exact fresh id new run
    · intro room
      obtain ⟨separate, fresh⟩ := room rfl
      have pass := passes.mpr ⟨separate, fun id new run =>
        fresh id new (mem_append_right _ run)⟩
      refine ⟨nodup_append.mpr ⟨distinct, separate, ?_⟩, ?_, ?_⟩
      · rintro id owned other new rfl
        exact fresh id new (mem_append_left _ owned)
      · intro command member
        rcases mem_cons.mp member with rfl | later
        · exact pass
        · exact ((nothing command later).passes system.run).1
      · exact carryOutAll_first pass (fun _ => PlayerCommand.noConfusion) nothing

theorem keepsUnique_iff (distinct : system.owner.slotIds.Nodup) (input : OwnerInput) :
    KeepsUnique system (service, input) ↔ Unambiguous system input := by
  cases input with
  | runEnded => exact ⟨fun _ => trivial, fun _ => ⟨distinct, by simp [OwnerInput.reply], rfl⟩⟩
  | replace ctx request =>
    cases accepted : request.accepted ctx with
    | true => exact replace_keepsUnique accepted
    | false =>
      have reply : ((OwnerInput.replace ctx request).reply system.owner).queue = system.owner ∧
          ((OwnerInput.replace ctx request).reply system.owner).sent = [] := by
        cases prepared : request.prepareReplacementSlots ctx with
        | error reason => simp [OwnerInput.reply, handleQueueReplace, prepared]
        | ok result =>
          simp [QueueReplace.accepted, prepared, Except.isOk, Except.toBool] at accepted
      refine ⟨fun _ yes => absurd (accepted.symm.trans yes) Bool.false_ne_true, fun _ => ?_⟩
      unfold KeepsUnique
      rw [reply.1, reply.2]
      exact ⟨distinct, by simp, rfl⟩
  | edit change =>
    by_cases brings : ∃ ctx request, change = .append ctx request
    · obtain ⟨ctx, request, rfl⟩ := brings
      exact append_keepsUnique distinct
    · have other (ctx : ControlContext) (request : QueueAppend) :
          change ≠ .append ctx request := fun same => brings ⟨ctx, request, same⟩
      obtain ⟨fewer, nothing⟩ := QueueEdit.handle_keeps distinct other
      obtain ⟨ids, perm, sub⟩ := fewer
      constructor
      · intro
        cases change with
        | append ctx request => exact absurd rfl (other ctx request)
        | removeSlot | removeSlots | moveSlot | shuffle | trackCompleted => trivial
      · exact fun _ => ⟨perm.nodup_iff.mp (distinct.sublist sub),
          fun command member => ((nothing command member).passes system.run).1,
          carryOutAll_isSome nothing⟩

/-- After a replacement the owner accepts, every message keeps slot ids unique, in the owner's queue
    and in what it hands the run, exactly when each is unambiguous where it arrives. -/
theorem replaced_slot_ids_unique {ctx : ControlContext} {request : QueueReplace}
    (accepted : request.accepted ctx = true) (later : List (Service × OwnerInput)) :
    machine.Along KeepsUnique system ((service, .replace ctx request) :: later) ↔
      machine.Along (fun system input => Unambiguous system input.2) system
        ((service, .replace ctx request) :: later) := by
  have from_distinct (inputs : List (Service × OwnerInput)) (system : OwnedQueue)
      (distinct : system.owner.slotIds.Nodup) :
      machine.Along KeepsUnique system inputs ↔
        machine.Along (fun system input => Unambiguous system input.2) system inputs := by
    induction inputs generalizing system with
    | nil => exact Iff.rfl
    | cons input inputs ih =>
      rw [Machine.along_cons, Machine.along_cons]
      have here := @keepsUnique_iff system input.1 distinct input.2
      constructor
      · rintro ⟨unique, rest⟩
        exact ⟨here.mp unique, (ih _ unique.1).mp rest⟩
      · rintro ⟨clear, rest⟩
        have unique := here.mpr clear
        exact ⟨unique, (ih _ unique.1).mpr rest⟩
  rw [Machine.along_cons, Machine.along_cons]
  have here := @replace_keepsUnique system service ctx request accepted
  constructor
  · rintro ⟨unique, rest⟩
    exact ⟨here.mp unique, (from_distinct later _ unique.1).mp rest⟩
  · rintro ⟨clear, rest⟩
    have unique := here.mpr clear
    exact ⟨unique, (from_distinct later _ unique.1).mpr rest⟩

def twitchPeer : ControlContext := { queueTransport := { twitch := true } }

def stream : QueueItem := .twitch ⟨"", ""⟩

def idleOwner : OwnedQueue := ⟨PlaybackQueue.fromQueueItems [] none 0, none⟩

theorem replaced_slot_ids_unique_then_append :
    machine.Along KeepsUnique idleOwner
      [({}, .replace twitchPeer { slots := [(9, stream), (4, stream)] }),
        ({}, .edit (.append twitchPeer ⟨[stream], some ⟨4⟩⟩))] :=
  (replaced_slot_ids_unique (by decide) _).mpr ⟨fun _ => by decide, fun _ => by decide, trivial⟩

/-- One id on two slots: the owner installs both, and the run's assertion fails on what it is
    handed. An id at `u64::MAX`: the next append hands it out again. -/
theorem client_slot_ids_repeat :
    let twice : QueueReplace := { slots := [(1, stream), (1, stream)] }
    let top : QueueReplace := { slots := [(18446744073709551615, stream)] }
    let full := idleOwner.step ({}, .replace twitchPeer top)
    let longer : QueueAppend := ⟨[stream], none⟩
    twice.accepted twitchPeer = true ∧
      (handleQueueReplace twitchPeer idleOwner.owner twice).queue.slotIds = [⟨1⟩, ⟨1⟩] ∧
      carryOutAll {} none (handleQueueReplace twitchPeer idleOwner.owner twice).sent = none ∧
      top.accepted twitchPeer = true ∧ longer.accepted twitchPeer full.owner = true ∧
      ¬ (handleQueueAppend twitchPeer full.owner longer).queue.slotIds.Nodup ∧
      carryOutAll {} full.run (handleQueueAppend twitchPeer full.owner longer).sent = none := by
  decide

end OwnedQueue

end Mbv.Daemon
