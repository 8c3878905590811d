import Mbv.Daemon.PinSwap

namespace Mbv.Daemon

open List

open OneShot (Desk Ending)
open Mbv.Player (Instant)

namespace PinSwapState

variable {newV4 : Nat → String} {consumed : List String} {state : PinSwapState}

def Awaits (state : PinSwapState) (token : String) : Prop :=
  match state.phase with
  | .awaiting _ pending _ _ => pending = token
  | .idle | .preparing .. => False

instance (state : PinSwapState) (token : String) : Decidable (state.Awaits token) :=
  match phase : state.phase with
  | .awaiting _ pending _ _ => decidable_of_iff (pending = token) (by simp [Awaits, phase])
  | .idle | .preparing .. => isFalse (by simp [Awaits, phase])

def deadline (state : PinSwapState) : Option Instant :=
  match state.phase with
  | .idle => none
  | .preparing _ _ deadline | .awaiting _ _ deadline _ => some deadline

def quits (state : PinSwapState) : List Sent :=
  state.sent.filter fun sent => sent.message = .swapQuit

/-- The stage of the launch in flight: its token is offered while it is published, and claimed
    once a Hello took it. -/
def stage (state : PinSwapState) : OneShot.Stage String :=
  match state.phase with
  | .idle => .idle
  | .preparing .. => .begun
  | .awaiting _ token _ _ =>
    if state.pendingToken = some token then .offered token else .claimed token

def desk (state : PinSwapState) (consumed : List String) : Desk String where
  stage := state.stage
  serial := state.launches
  issued := state.published
  spent := consumed
  ended := state.ended

/-- The published token is the one awaited, the tokens come from the draws so far, and a launch
    that was completed sent one `SwapQuit` at most. -/
structure Sound (newV4 : Nat → String) (state : PinSwapState) : Prop where
  awaited : ∀ token, state.pendingToken = some token → state.Awaits token
  drawn : ∀ token ∈ state.published.map Prod.snd, ∃ draw < state.drawn, newV4 draw = token
  quitOnce : (state.quits.map (·.launch)).Nodup
  quitEnded : ∀ launch ∈ state.quits.map (·.launch), launch ∈ state.ended.map Prod.fst

/-- What an operation of the loop does: the desk moves, and no token is claimed by it. -/
structure Acts (newV4 : Nat → String) (consumed : List String) (before after : PinSwapState) :
    Prop where
  moves : Desk.Moves (before.desk consumed) (after.desk consumed)
  sound : after.Sound newV4
  unclaimed : after.stage = before.stage ∨ ∀ token, after.stage ≠ .claimed token

theorem Sound.unpublished (sound : state.Sound newV4) (free : ∀ token, ¬ state.Awaits token) : state.pendingToken = none := by
  cases pending : state.pendingToken with
  | none => rfl
  | some token => exact absurd (sound.awaited token pending) (free token)

theorem acts_refl (sound : state.Sound newV4) : Acts newV4 consumed state state := ⟨.refl, sound, .inl rfl⟩

theorem acts_notify (sound : state.Sound newV4) (reason : String) : Acts newV4 consumed state (state.notify reason) :=
  ⟨.refl, ⟨sound.awaited, sound.drawn, sound.quitOnce, sound.quitEnded⟩, .inl rfl⟩

@[simp] theorem quits_abandon (reason : String) : (state.abandon reason).quits = state.quits := rfl

@[simp] theorem stage_abandon (reason : String) : (state.abandon reason).stage = .idle := rfl

theorem desk_abandon (reason : String) : (state.abandon reason).desk consumed = (state.desk consumed).leave .abandoned := rfl

theorem sound_abandon (sound : state.Sound newV4) (reason : String) : (state.abandon reason).Sound newV4 where
  awaited _ same := by cases same
  drawn := sound.drawn
  quitOnce := sound.quitOnce
  quitEnded launch member := by
    show launch ∈ (state.ended ++ [_]).map Prod.fst
    rw [map_append]
    exact mem_append_left _ (sound.quitEnded launch member)

theorem abandon_acts (sound : state.Sound newV4) (busy : state.stage ≠ .idle)
    (unclaimed : ∀ token, state.stage ≠ .claimed token) (reason : String) :
    Acts newV4 consumed state (state.abandon reason) where
  moves := by
    rw [desk_abandon]
    exact .single (.abandons ⟨busy, unclaimed⟩)
  sound := sound_abandon sound reason
  unclaimed := .inr (by simp)

theorem spawnReplacement_acts (fresh : Function.Injective newV4) {base : PinSwapState} (sound : base.Sound newV4)
    (reached : Desk.Moves (state.desk consumed) { base.desk consumed with stage := .begun })
    (command : Command) (target : Option CtrlClientId) (deadline : Instant) (kind : LaunchKind)
    (spawned : Except String Unit) :
    Acts newV4 consumed state (base.spawnReplacement newV4 command target deadline kind spawned) := by
  have later : ∀ token ∈ base.published.map Prod.snd, ∃ draw < base.drawn + 1, newV4 draw = token := by
    intro token member
    obtain ⟨draw, bound, same⟩ := sound.drawn token member
    exact ⟨draw, Nat.lt_succ_of_lt bound, same⟩
  have unused : newV4 base.drawn ∉ base.published.map Prod.snd := by
    intro member
    obtain ⟨draw, bound, same⟩ := sound.drawn _ member
    exact absurd (fresh same) (Nat.ne_of_lt bound)
  cases spawned with
  | ok =>
    refine ⟨reached.tail ?_, ⟨?_, ?_, sound.quitOnce, sound.quitEnded⟩, .inr ?_⟩
    · have offers := @Desk.Move.offers _ { base.desk consumed with stage := .begun } _ rfl unused
      simpa [desk, stage, spawnReplacement, PendingSwapToken.publish] using offers
    · intro token same
      exact Option.some.inj same
    · intro token member
      simp only [spawnReplacement, map_append, mem_append, map_cons, map_nil, mem_singleton] at member
      rcases member with member | rfl
      · exact later token member
      · exact ⟨base.drawn, Nat.lt_succ_self _, rfl⟩
    · intro token
      simp [stage, spawnReplacement, PendingSwapToken.publish]
  | error error =>
    refine ⟨reached.tail ?_, ?_, .inr (by intro token; simp [spawnReplacement])⟩
    · exact .abandons ⟨by simp, by simp⟩
    · have counted : Sound newV4 { base with drawn := base.drawn + 1 } := ⟨sound.awaited, later, sound.quitOnce, sound.quitEnded⟩
      exact sound_abandon counted _

theorem stage_idle (idle : state.phase = .idle) : state.stage = .idle := by
  simp [stage, idle]

theorem stage_eq_idle : state.stage ≠ .idle ↔ state.phase ≠ .idle := by
  unfold stage
  split
  · simp_all
  · simp_all
  · split <;> simp_all

theorem begin_reaches (idle : state.phase = .idle) :
    Desk.Moves (state.desk consumed) { state.begin.desk consumed with stage := .begun } :=
  .single (.begins (stage_idle idle))

theorem sound_begin (sound : state.Sound newV4) : state.begin.Sound newV4 :=
  ⟨sound.awaited, sound.drawn, sound.quitOnce, sound.quitEnded⟩

theorem quits_sendToClient_prepare (clients : CtrlClients) (client : CtrlClientId) :
    (state.sendToClient clients client .swapPrepare).quits = state.quits := by
  unfold sendToClient quits
  split <;> simp

theorem sendToClient_eq (clients : CtrlClients) (client : CtrlClientId) (message : SwapMessage) :
    ∃ sent, state.sendToClient clients client message = { state with sent := sent } := by
  unfold sendToClient
  split
  · exact ⟨_, rfl⟩
  · exact ⟨state.sent, rfl⟩

theorem start_acts (fresh : Function.Injective newV4) (sound : state.Sound newV4) (now : Instant)
    (clients : CtrlClients) (swapCommand : SwapCommandHook) (spawned : Except String Unit) :
    Acts newV4 consumed state (state.start newV4 now clients swapCommand spawned).2 := by
  unfold start
  split
  · exact acts_refl sound
  rename_i idle
  have idle : state.phase = .idle := Classical.not_not.mp idle
  have unpublished := sound.unpublished fun token => by simp [Awaits, idle]
  generalize directionAndTarget clients = chosen
  obtain ⟨direction, target⟩ := chosen
  dsimp only [resolveCommand]
  cases swapCommand direction with
  | error reason => exact acts_notify sound reason
  | ok command =>
    cases target with
    | none => exact spawnReplacement_acts fresh (sound_begin sound) (begin_reaches idle) ..
    | some target =>
      obtain ⟨sent, same⟩ : ∃ sent, state.begin.sendToClient clients target .swapPrepare =
          { state.begin with sent := sent } := sendToClient_eq ..
      have quits : (state.begin.sendToClient clients target .swapPrepare).quits =
          state.begin.quits := quits_sendToClient_prepare ..
      dsimp only
      rw [same] at quits ⊢
      refine ⟨begin_reaches idle, ⟨?_, sound.drawn, ?_, ?_⟩, .inr (by intro token; simp [stage])⟩
      · intro token published
        have none : state.pendingToken = some token := published
        rw [unpublished] at none
        cases none
      · exact quits ▸ sound.quitOnce
      · exact quits ▸ sound.quitEnded

theorem openTerminal_acts (fresh : Function.Injective newV4) (sound : state.Sound newV4)
    (now : Instant) (swapCommand : SwapCommandHook) (spawned : Except String Unit) :
    Acts newV4 consumed state (state.openTerminal newV4 now swapCommand spawned).2 := by
  unfold openTerminal
  split
  · exact acts_refl sound
  rename_i idle
  dsimp only [resolveCommand]
  cases swapCommand .unpin with
  | error reason => exact acts_notify sound reason
  | ok command =>
    exact spawnReplacement_acts fresh (sound_begin sound) (begin_reaches (Classical.not_not.mp idle)) ..

theorem onSwapPrepared_acts (fresh : Function.Injective newV4) (sound : state.Sound newV4)
    (clientId : CtrlClientId) (spawned : Except String Unit) :
    Acts newV4 consumed state (state.onSwapPrepared newV4 clientId spawned) := by
  unfold onSwapPrepared
  split
  · rename_i target command deadline preparing
    split
    · have unpublished := sound.unpublished fun token => by simp [Awaits, preparing]
      have base : Sound newV4 { state with phase := .idle } := { sound with
          awaited := fun token published => by
            have none : state.pendingToken = some token := published
            rw [unpublished] at none
            cases none }
      refine spawnReplacement_acts fresh base ?_ ..
      have same : { state.desk consumed with stage := .begun } = state.desk consumed := by
        simp [desk, stage, preparing]
      exact same ▸ .refl
    · exact acts_refl sound
  · exact acts_refl sound
  · exact acts_refl sound

theorem onClientLeft_acts (sound : state.Sound newV4) (clientId : CtrlClientId) :
    Acts newV4 consumed state (state.onClientLeft clientId) := by
  unfold onClientLeft
  split
  · rename_i preparing
    split
    · exact abandon_acts sound (by simp [stage, preparing]) (by simp [stage, preparing]) _
    · exact acts_refl sound
  · exact acts_refl sound
  · exact acts_refl sound

variable {token : String}

theorem stage_awaiting (awaits : state.Awaits token) :
    state.stage = if state.pendingToken = some token then .offered token else .claimed token := by
  unfold Awaits at awaits
  split at awaits
  · rename_i awaiting
    subst awaits
    simp [stage, awaiting]
  · cases awaits
  · cases awaits

theorem awaits_of_claimed (claimed : state.stage = .claimed token) : state.Awaits token := by
  unfold stage at claimed
  split at claimed
  · cases claimed
  · cases claimed
  · rename_i awaiting
    split at claimed
    · cases claimed
    · cases claimed
      simp [Awaits, awaiting]

theorem acts_of_published (sound : state.Sound newV4) (awaits : state.Awaits token)
    (published : state.pendingToken = some token) (reason : String) :
    Acts newV4 consumed state (state.abandon reason) := by
  have offered := stage_awaiting awaits
  rw [if_pos published] at offered
  exact abandon_acts sound (by simp [offered]) (by simp [offered]) reason

theorem onChildExited_acts (sound : state.Sound newV4) (token : String) (success : Bool)
    (unclaimed : state.Awaits token → success = false → state.pendingToken = some token) :
    Acts newV4 consumed state (state.onChildExited token success) := by
  unfold onChildExited
  split
  · rename_i target pending deadline kind awaiting
    split
    · exact acts_refl sound
    · rename_i failed
      rw [not_or, Classical.not_not] at failed
      have awaits : state.Awaits token := by simp [Awaits, awaiting, failed.1]
      exact acts_of_published sound awaits (unclaimed awaits (by simpa using failed.2)) _
  · exact acts_refl sound
  · exact acts_refl sound

theorem poll_acts (sound : state.Sound newV4) (now : Instant)
    (unclaimed : ∀ token, state.Awaits token → (∀ deadline ∈ state.deadline, deadline ≤ now) → state.pendingToken = some token) :
    Acts newV4 consumed state (state.poll now) := by
  unfold poll
  split
  · exact acts_refl sound
  · rename_i preparing
    split
    · exact acts_refl sound
    · exact abandon_acts sound (by simp [stage, preparing]) (by simp [stage, preparing]) _
  · rename_i target token deadline kind awaiting
    split
    · exact acts_refl sound
    · rename_i due
      have awaits : state.Awaits token := by simp [Awaits, awaiting]
      have published := unclaimed token awaits (by simpa [PinSwapState.deadline, awaiting] using due)
      exact acts_of_published sound awaits published _

/-- The launch in flight, once its successor is there. -/
def settle (state : PinSwapState) : PinSwapState :=
  { state with pendingToken := state.pendingToken.clear, phase := .idle }.finish .completed

theorem settle_acts (sound : state.Sound newV4) (claimed : state.stage = .claimed token) :
    Acts newV4 consumed state state.settle where
  moves := .single (.completes claimed)
  sound :=
    { awaited := fun _ same => by cases same
      drawn := sound.drawn
      quitOnce := sound.quitOnce
      quitEnded := fun launch member => by
        show launch ∈ (state.ended ++ [_]).map Prod.fst
        rw [map_append]
        exact mem_append_left _ (sound.quitEnded launch member) }
  unclaimed := .inr (by simp [stage, settle, finish])

theorem settle_quits (sound : state.Sound newV4) (kept : (state.desk consumed).Kept)
    (claimed : state.stage = .claimed token) (clients : CtrlClients) (target : CtrlClientId) :
    Acts newV4 consumed state (state.settle.sendToClient clients target .swapQuit) := by
  have acts : Acts newV4 consumed state state.settle := settle_acts sound claimed
  have first : state.launches ∉ state.quits.map (·.launch) := by
    intro member
    exact kept.unended (by simp [desk, claimed]) (sound.quitEnded state.launches member)
  unfold sendToClient
  split
  · let quit : Sent := { launch := state.launches, client := target, message := .swapQuit }
    refine ⟨acts.moves, ⟨acts.sound.awaited, acts.sound.drawn, ?_, ?_⟩, acts.unclaimed⟩
    · have quits : ((state.quits ++ [quit]).map Sent.launch).Nodup := by
        rw [map_append]
        exact List.Nodup.append sound.quitOnce (by simp) (by simpa using first)
      simpa [PinSwapState.quits, settle, finish, quit] using quits
    · intro launch member
      have either : launch ∈ state.quits.map (·.launch) ∨ launch = state.launches := by
        simpa [PinSwapState.quits, settle, finish, or_and_right, exists_or] using member
      rcases either with earlier | rfl
      · exact acts.sound.quitEnded launch earlier
      · simp [settle, finish]
  · exact acts

theorem poll_awaiting {now : Instant} (awaits : state.Awaits token) (due : ∀ deadline ∈ state.deadline, deadline ≤ now) :
    ∃ reason, state.poll now = state.abandon reason := by
  unfold Awaits at awaits
  split at awaits
  · rename_i target pending deadline kind awaiting
    have late : ¬ now < deadline := Nat.not_lt.mpr (due _ (by simp [PinSwapState.deadline, awaiting]))
    exact ⟨kind.timedOut, by simp [poll, awaiting, late]⟩
  · cases awaits
  · cases awaits

theorem onChildExited_awaiting (awaits : state.Awaits token) :
    ∃ reason, state.onChildExited token false = state.abandon reason := by
  unfold Awaits at awaits
  split at awaits
  · rename_i target pending deadline kind awaiting
    exact ⟨kind.childFailed, by simp [onChildExited, awaiting, awaits]⟩
  · cases awaits
  · cases awaits

theorem onSwapAdmitted_acts (sound : state.Sound newV4) (clients : CtrlClients) (kept : (state.desk consumed).Kept)
    (claimed : state.Awaits token → state.pendingToken ≠ some token) :
    Acts newV4 consumed state (state.onSwapAdmitted token clients) := by
  unfold onSwapAdmitted
  split
  · rename_i target pending deadline kind awaiting
    split
    · rename_i same
      have awaits : state.Awaits token := by simp [Awaits, awaiting, same]
      have stage := stage_awaiting awaits
      rw [if_neg (claimed awaits)] at stage
      cases target with
      | none => exact settle_acts sound stage
      | some target =>
        dsimp only
        split
        · exact settle_quits sound kept stage clients target
        · exact settle_acts sound stage
    · exact acts_refl sound
  · exact acts_refl sound
  · exact acts_refl sound

theorem stage_onSwapAdmitted (clients : CtrlClients) : (state.onSwapAdmitted token clients).stage ≠ .claimed token := by
  unfold onSwapAdmitted
  split
  · rename_i target pending deadline kind awaiting
    split
    · have settled : state.settle.stage ≠ .claimed token := by simp [stage, settle, finish]
      cases target with
      | none => exact settled
      | some target =>
        obtain ⟨sent, same⟩ : ∃ sent, state.settle.sendToClient clients target .swapQuit =
            { state.settle with sent := sent } := sendToClient_eq ..
        dsimp only
        split
        · exact same ▸ settled
        · exact settled
    · rename_i other
      rw [stage, awaiting]
      dsimp only
      split
      · simp
      · simpa using other
  · rename_i idle
    simp [stage, idle]
  · rename_i preparing
    simp [stage, preparing]

theorem poll_returns (sound : state.Sound newV4) {now : Instant} (due : ∀ deadline ∈ state.deadline, deadline ≤ now) :
    (state.poll now).phase = .idle ∧ (state.poll now).pendingToken = none := by
  unfold poll
  split
  · rename_i idle
    exact ⟨idle, sound.unpublished fun token => by simp [Awaits, idle]⟩
  · rename_i preparing
    rw [if_neg (Nat.not_lt.mpr (due _ (by simp [deadline, preparing])))]
    exact ⟨rfl, rfl⟩
  · rename_i awaiting
    rw [if_neg (Nat.not_lt.mpr (due _ (by simp [deadline, awaiting])))]
    exact ⟨rfl, rfl⟩

end PinSwapState

/-- A token is claimed by a local Client's Hello that presents the pending one, and by no other. -/
theorem sendAdmissionRefusal_spec (clients : CtrlClients) (shuttingDown : Bool)
    (pending : PendingSwapToken) (role : DaemonRole) (transport : CtrlTransport) (stayAlive : Bool)
    (connectionRole : CtrlConnectionRole) (helloSwapToken : Option String) :
    let admission := sendAdmissionRefusal clients shuttingDown pending role transport stayAlive connectionRole helloSwapToken
    (∃ token, pending = some token ∧ admission = (.admittedReplacement token, none)) ∨
      (admission.2 = pending ∧ ∀ token, admission.1 ≠ .admittedReplacement token) := by
  intro admission
  by_cases closing : role = .local ∧ shuttingDown = true
  · exact .inr (by simp [admission, sendAdmissionRefusal, closing])
  by_cases claims : (transport = .local ∧ connectionRole = .client) ∧ helloSwapToken.isSome = true ∧ pending = helloSwapToken
  · obtain ⟨⟨rfl, rfl⟩, presented, rfl⟩ := claims
    obtain ⟨token, rfl⟩ := Option.isSome_iff_exists.mp presented
    exact .inl ⟨token, rfl, by
      simp [admission, sendAdmissionRefusal, closing, PendingSwapToken.takeMatching]⟩
  · refine .inr ?_
    have unclaimed : (if transport = .local ∧ connectionRole = .client then
        pending.takeMatching helloSwapToken else (false, pending)) = (false, pending) := by
      split
      · rename_i local_
        have unmatched : (helloSwapToken.isSome && decide (pending = helloSwapToken)) = false := by
          simpa using fun presented => not_and.mp (not_and.mp claims local_) presented
        simp [PendingSwapToken.takeMatching, unmatched]
      · rfl
    simp only [admission, sendAdmissionRefusal, closing, if_false, unclaimed]
    split <;> simp

namespace PinSwapHub

variable {newV4 : Nat → String} {role : DaemonRole} {hub : PinSwapHub}

/-- The token of the launch in flight was presented, and its admission is not handled yet. -/
def Presented (hub : PinSwapHub) : Prop := ∃ token ∈ hub.consumed, hub.swap.Awaits token

instance (hub : PinSwapHub) : Decidable hub.Presented :=
  inferInstanceAs (Decidable (∃ token ∈ hub.consumed, _))

/-- The input gets ahead of the admission: the deadline is found to have passed, or the replacement
    to have failed. -/
def Overtakes (hub : PinSwapHub) : PinSwapInput → Prop
  | .tick now => hub.Presented ∧ ∀ deadline ∈ hub.swap.deadline, deadline ≤ now
  | .handle _ => ∃ token ∈ hub.consumed, hub.swap.Awaits token ∧
    hub.channel.head? = some (.pinSwapChildExited token false)
  | _ => False

instance (hub : PinSwapHub) : ∀ input, Decidable (hub.Overtakes input)
  | .tick _ => inferInstanceAs (Decidable (_ ∧ _))
  | .handle _ => inferInstanceAs (Decidable (∃ token ∈ hub.consumed, _))
  | .request _ | .answer _ | .hello .. | .hangUp _ | .broadcast .. | .childExits ..
  | .beginShutdown => isFalse id

structure Tracked (newV4 : Nat → String) (hub : PinSwapHub) : Prop where
  sound : hub.swap.Sound newV4
  kept : (hub.swap.desk hub.consumed).Kept
  reported : ∀ token, hub.swap.stage = .claimed token → .pinSwapAdmitted token ∈ hub.channel
  posted : ∀ token, .pinSwapAdmitted token ∈ hub.channel → token ∈ hub.consumed

theorem tracked_initial : ({} : PinSwapHub).Tracked newV4 where
  sound := ⟨by simp, by simp, by simp [PinSwapState.quits], by simp [PinSwapState.quits]⟩
  kept := Desk.kept_empty
  reported := by simp [PinSwapState.stage]
  posted := by simp

theorem Tracked.presented (tracked : hub.Tracked newV4) {token : String}
    (awaits : hub.swap.Awaits token) (unpublished : hub.swap.pendingToken ≠ some token) :
    token ∈ hub.consumed := by
  have present := tracked.kept.present
  have claimed : (hub.swap.desk hub.consumed).stage = .claimed token := by
    have stage := PinSwapState.stage_awaiting awaits
    rwa [if_neg unpublished] at stage
  rw [Desk.Present, claimed] at present
  exact present.2

theorem Tracked.unpresented (tracked : hub.Tracked newV4) {token : String}
    (published : hub.swap.pendingToken = some token) : token ∉ hub.consumed := by
  have present := tracked.kept.present
  have offered : (hub.swap.desk hub.consumed).stage = .offered token := by
    have stage := PinSwapState.stage_awaiting (tracked.sound.awaited token published)
    rwa [if_pos published] at stage
  rw [Desk.Present, offered] at present
  exact present.2

theorem Tracked.post (tracked : hub.Tracked newV4) {event : SwapEvent}
    (other : ∀ token, event ≠ .pinSwapAdmitted token) : (hub.post event).Tracked newV4 where
  sound := tracked.sound
  kept := tracked.kept
  reported token claimed := mem_append_left _ (tracked.reported token claimed)
  posted token member := by
    rcases mem_append.mp member with member | member
    · exact tracked.posted token member
    · exact absurd (mem_singleton.mp member).symm (other token)

theorem Tracked.acts (tracked : hub.Tracked newV4) {after : PinSwapState} {clients : CtrlClients}
    {channel : List SwapEvent} (acts : PinSwapState.Acts newV4 hub.consumed hub.swap after)
    (fewer : ∀ event ∈ channel, event ∈ hub.channel)
    (awaited : ∀ token, after.stage = .claimed token → .pinSwapAdmitted token ∈ hub.channel → .pinSwapAdmitted token ∈ channel) :
    Tracked newV4 { hub with swap := after, clients := clients, channel := channel } where
  sound := acts.sound
  kept := acts.moves.kept tracked.kept
  reported token claimed := by
    rcases acts.unclaimed with same | unclaimed
    · exact awaited token claimed (tracked.reported token (same ▸ claimed))
    · exact absurd claimed (unclaimed token)
  posted token member := tracked.posted token (fewer _ member)

theorem Tracked.admitHello (tracked : hub.Tracked newV4) (hello : Hello) (swapToken : Option String) (stayAlive : Bool) :
    (hub.admitHello role hello swapToken stayAlive).Tracked newV4 := by
  unfold PinSwapHub.admitHello
  have spec := sendAdmissionRefusal_spec hub.clients hub.shuttingDown hub.swap.pendingToken role
    hello.transport (role ≠ .local || stayAlive) hello.role swapToken
  generalize sendAdmissionRefusal .. = admission at spec ⊢
  obtain ⟨outcome, pending⟩ := admission
  rcases spec with ⟨token, published, same⟩ | ⟨same, unclaimed⟩
  · obtain ⟨rfl, rfl⟩ := Prod.mk.inj same
    have awaits := tracked.sound.awaited token published
    have offered := PinSwapState.stage_awaiting awaits
    rw [if_pos published] at offered
    have stage : PinSwapState.stage { hub.swap with pendingToken := none } = .claimed token := by
      have awaiting : PinSwapState.Awaits { hub.swap with pendingToken := none } token := awaits
      exact PinSwapState.stage_awaiting awaiting
    refine ⟨⟨?_, tracked.sound.drawn, tracked.sound.quitOnce, tracked.sound.quitEnded⟩, ?_, ?_, ?_⟩
    · intro other still
      cases still
    · have spends := tracked.kept.spends offered
      simpa [PinSwapState.desk, PinSwapHub.post, stage] using spends
    · intro other claimed
      have same := stage.symm.trans claimed
      cases same
      exact mem_append_right _ (by simp)
    · intro other member
      rcases mem_append.mp member with member | member
      · exact mem_append_left _ (tracked.posted other member)
      · cases mem_singleton.mp member
        exact mem_append_right _ (by simp)
  · dsimp only at same unclaimed
    subst same
    cases outcome with
    | admitted => exact ⟨tracked.sound, tracked.kept, tracked.reported, tracked.posted⟩
    | refused reason => exact ⟨tracked.sound, tracked.kept, tracked.reported, tracked.posted⟩
    | admittedReplacement token => exact absurd rfl (unclaimed token)

theorem Tracked.handleEvent (fresh : Function.Injective newV4) (tracked : hub.Tracked newV4)
    {event : SwapEvent} {rest : List SwapEvent} (channel : hub.channel = event :: rest)
    (surroundings : Surroundings) (inOrder : ¬ hub.Overtakes (.handle surroundings)) :
    Tracked newV4 (PinSwapHub.handleEvent newV4 { hub with channel := rest } surroundings event) := by
  have fewer : ∀ event ∈ rest, event ∈ hub.channel := by
    intro other member
    rw [channel]
    exact mem_cons_of_mem event member
  have behind : (∀ token, event ≠ .pinSwapAdmitted token) → ∀ token,
      .pinSwapAdmitted token ∈ hub.channel → .pinSwapAdmitted token ∈ rest := by
    intro other token member
    rw [channel] at member
    exact (mem_cons.mp member).resolve_left fun same => other token same.symm
  cases event with
  | ownerAction action =>
    cases action with
    | swapPanel =>
      exact tracked.acts (PinSwapState.start_acts fresh tracked.sound ..) fewer fun token _ => behind (by simp) token
    | openTerminal =>
      exact tracked.acts (PinSwapState.openTerminal_acts fresh tracked.sound ..) fewer fun token _ => behind (by simp) token
  | swapPrepared client =>
    exact tracked.acts (PinSwapState.onSwapPrepared_acts fresh tracked.sound ..) fewer fun token _ => behind (by simp) token
  | ctrlDisconnected client =>
    exact tracked.acts (PinSwapState.onClientLeft_acts tracked.sound client) fewer fun token _ => behind (by simp) token
  | pinSwapChildExited token success =>
    refine tracked.acts (PinSwapState.onChildExited_acts tracked.sound token success ?_) fewer
      fun token _ => behind (by simp) token
    rintro awaits rfl
    apply Classical.byContradiction
    intro unpublished
    exact inOrder ⟨token, tracked.presented awaits unpublished, awaits, by simp [channel]⟩
  | pinSwapAdmitted token =>
    have claimed : token ∈ hub.consumed := tracked.posted token (by simp [channel])
    have unpublished : hub.swap.pendingToken ≠ some token := fun published =>
      tracked.unpresented published claimed
    refine tracked.acts (PinSwapState.onSwapAdmitted_acts tracked.sound hub.clients tracked.kept fun _ => unpublished) fewer ?_
    intro other still member
    rw [channel] at member
    refine (mem_cons.mp member).resolve_left fun same => ?_
    cases same
    exact PinSwapState.stage_onSwapAdmitted hub.clients still

theorem step_tracked (fresh : Function.Injective newV4) (tracked : hub.Tracked newV4)
    (input : PinSwapInput) (inOrder : ¬ hub.Overtakes input) :
    (hub.step newV4 role input).Tracked newV4 := by
  cases input with
  | request action => exact tracked.post (by simp)
  | answer client => exact tracked.post (by simp)
  | hello hello swapToken stayAlive => exact tracked.admitHello hello swapToken stayAlive
  | hangUp client => exact tracked.post (by simp)
  | broadcast kind gone => exact ⟨tracked.sound, tracked.kept, tracked.reported, tracked.posted⟩
  | childExits token success =>
    simp only [step]
    split
    · refine Tracked.post ?_ (fun _ same => by cases same)
      refine ⟨?_, tracked.kept, tracked.reported, tracked.posted⟩
      exact ⟨tracked.sound.awaited, tracked.sound.drawn, tracked.sound.quitOnce, tracked.sound.quitEnded⟩
    · exact tracked
  | beginShutdown => exact ⟨tracked.sound, tracked.kept, tracked.reported, tracked.posted⟩
  | tick now =>
    refine tracked.acts (PinSwapState.poll_acts tracked.sound now ?_) (fun _ => id) fun _ _ => id
    intro token awaits due
    apply Classical.byContradiction
    intro unpublished
    exact inOrder ⟨⟨token, tracked.presented awaits unpublished, awaits⟩, due⟩
  | handle surroundings =>
    simp only [step]
    split
    · exact tracked
    · rename_i channel
      exact tracked.handleEvent fresh channel surroundings inOrder

/-- The hand-off is exclusive and complete: a token is claimable exactly while its successor is
    awaited, a launch whose token was consumed is completed, at once or when the admission in the
    channel is handled, and never abandoned, it sends one `SwapQuit` at most, and every launch ends
    once, on its deadline at the latest, with the machine idle and no token published. -/
structure HandedOff (hub : PinSwapHub) : Prop where
  claimable : ∀ token, hub.swap.pendingToken = some token ↔
    hub.swap.Awaits token ∧ token ∉ hub.consumed
  claimedOnce : hub.consumed.Nodup
  quitOnce : (hub.swap.quits.map (·.launch)).Nodup
  publishedOnce : (hub.swap.published.map Prod.fst).Nodup
  honoured : ∀ launch token, (launch, token) ∈ hub.swap.published → token ∈ hub.consumed →
    (launch, .abandoned) ∉ hub.swap.ended
  completed : ∀ launch token, (launch, token) ∈ hub.swap.published → token ∈ hub.consumed →
    (launch, .completed) ∈ hub.swap.ended ∨
      (launch = hub.swap.launches ∧ hub.swap.Awaits token ∧
        .pinSwapAdmitted token ∈ hub.channel)
  endedOnce : (hub.swap.ended.map Prod.fst).Nodup
  returns : ∀ launch, 0 < launch → launch ≤ hub.swap.launches →
    (launch ∉ hub.swap.ended.map Prod.fst ↔
      launch = hub.swap.launches ∧ hub.swap.phase ≠ .idle)
  idle : hub.swap.phase = .idle → hub.swap.pendingToken = none
  inTime : ∀ now, (∀ deadline ∈ hub.swap.deadline, deadline ≤ now) →
    (hub.swap.poll now).phase = .idle ∧ (hub.swap.poll now).pendingToken = none

theorem Tracked.handedOff (tracked : hub.Tracked newV4) : hub.HandedOff where
  claimable token := by
    constructor
    · exact fun published => ⟨tracked.sound.awaited token published, tracked.unpresented published⟩
    · rintro ⟨awaits, unclaimed⟩
      apply Classical.byContradiction
      exact fun unpublished => unclaimed (tracked.presented awaits unpublished)
  claimedOnce := tracked.kept.spentOnce
  quitOnce := tracked.sound.quitOnce
  publishedOnce := tracked.kept.issuedOnce
  honoured := tracked.kept.honoured
  completed launch token published consumed := by
    rcases tracked.kept.fulfilled published consumed with completed | ⟨current, claimed⟩
    · exact .inl completed
    · exact .inr ⟨current, PinSwapState.awaits_of_claimed claimed, tracked.reported token claimed⟩
  endedOnce := tracked.kept.endedOnce
  returns launch positive bound := by
    rw [← PinSwapState.stage_eq_idle]
    exact tracked.kept.ends launch positive bound
  idle free := tracked.sound.unpublished fun token => by simp [PinSwapState.Awaits, free]
  inTime _ due := PinSwapState.poll_returns tracked.sound due

theorem not_handedOff_of_overtakes (tracked : hub.Tracked newV4) {input : PinSwapInput}
    (overtakes : hub.Overtakes input) : ¬ (hub.step newV4 role input).HandedOff := by
  intro handed
  have broken : ∀ token ∈ hub.consumed, hub.swap.Awaits token → ∀ reason,
      (hub.step newV4 role input).swap = hub.swap.abandon reason →
      (hub.step newV4 role input).consumed = hub.consumed → False := by
    intro token consumed awaits reason abandoned same
    have unpublished : hub.swap.pendingToken ≠ some token := fun published =>
      tracked.unpresented published consumed
    have claimed : (hub.swap.desk hub.consumed).stage = .claimed token := by
      have stage := PinSwapState.stage_awaiting awaits
      rwa [if_neg unpublished] at stage
    obtain ⟨launch, published, spent, ended⟩ := tracked.kept.overtaken claimed
    refine handed.honoured launch token ?_ ?_ ?_
    · exact abandoned ▸ published
    · exact same ▸ spent
    · exact abandoned ▸ ended
  cases input with
  | tick now =>
    obtain ⟨⟨token, consumed, awaits⟩, due⟩ := overtakes
    obtain ⟨reason, abandoned⟩ := PinSwapState.poll_awaiting awaits due
    exact broken token consumed awaits reason abandoned rfl
  | handle surroundings =>
    obtain ⟨token, consumed, awaits, head⟩ := overtakes
    obtain ⟨rest, channel⟩ := List.head?_eq_some_iff.mp head
    obtain ⟨reason, abandoned⟩ := PinSwapState.onChildExited_awaiting awaits
    refine broken token consumed awaits reason ?_ ?_
    · simpa [step, channel, PinSwapHub.handleEvent] using abandoned
    · simp [step, channel, PinSwapHub.handleEvent]
  | _ => exact overtakes

/-- The Pin swap hands off exclusively and completely, in every interleaving, exactly as long as
    neither the deadline nor a failed replacement is found between the claim of the token and the
    admission it posts. -/
theorem pin_swap_hands_off_iff (newV4 : Nat → String) (fresh : Function.Injective newV4)
    (role : DaemonRole) (inputs : List PinSwapInput) :
    (machine newV4 role).Along (fun hub input => (hub.step newV4 role input).HandedOff) {} inputs ↔
      (machine newV4 role).Along (fun hub input => ¬ hub.Overtakes input) {} inputs := by
  have keep : ∀ hub input, Tracked newV4 hub → ¬ hub.Overtakes input →
      Tracked newV4 (hub.step newV4 role input) :=
    fun hub input tracked inOrder => step_tracked fresh tracked input inOrder
  refine Machine.along_iff keep ?_ tracked_initial
  intro hub input tracked
  constructor
  · exact fun handed overtakes => not_handedOff_of_overtakes tracked overtakes handed
  · exact fun inOrder => (keep hub input tracked inOrder).handedOff

def tokenOf (draw : Nat) : String := String.ofList (List.replicate draw 'a')

theorem tokenOf_injective : Function.Injective tokenOf := by
  intro draw other same
  simpa [tokenOf] using congrArg String.length same

def resolved : Surroundings := { swapCommand := fun _ => .ok { program := "mbv" } }

/-- A terminal Client attaches, the user clicks Pin, and the replacement attaches with its token. -/
def pinned : List PinSwapInput :=
  [.hello { transport := .local, swapSurface := some .terminal, role := .client } none false,
    .request .swapPanel, .handle resolved, .answer 0, .handle resolved,
    .hello { transport := .local, swapSurface := some .pinned, role := .client }
      (some (tokenOf 0)) false]

theorem pin_swap_hands_off_to_pinned :
    (machine tokenOf .local).Along (fun hub input => (hub.step tokenOf .local input).HandedOff) {}
      (pinned ++ [.tick 9000000000, .handle resolved, .tick 11000000000]) :=
  (pin_swap_hands_off_iff tokenOf tokenOf_injective .local _).mpr (by decide)

/-- The replacement attached, but the loop checks the deadline before it takes the admission: the
    swap is abandoned, and the replaced Client is never told to quit. -/
def checkedLate : PinSwapHub :=
  (machine tokenOf .local).run {} (pinned ++ [.tick 10000000000, .handle resolved])

theorem late_check_abandons_claimed_swap :
    (tokenOf 0 ∈ checkedLate.consumed ∧ checkedLate.swap.ended = [(1, .abandoned)] ∧
      checkedLate.swap.quits = [] ∧ checkedLate.channel = []) ∧
    ¬ ∀ inputs, ((machine tokenOf .local).run {} inputs).HandedOff := by
  refine ⟨by decide, fun every => ?_⟩
  have handed : checkedLate.HandedOff := every _
  exact handed.honoured 1 (tokenOf 0) (by decide) (by decide) (by decide)

end PinSwapHub

end Mbv.Daemon
