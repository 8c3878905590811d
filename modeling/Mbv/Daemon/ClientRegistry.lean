import Mbv.Machine.Run
import Mbv.Daemon.PlaybackIntent
import Mbv.Daemon.QueueSetup

namespace Mbv.Daemon

inductive AuthorityHolder where
  | none
  | ctrl
  | embyRemote
deriving DecidableEq

inductive CtrlConnectionRole where
  | client
  | serviceSetupAdmin
  | ownerAction
deriving DecidableEq

inductive CtrlTransport where
  | local
  | tcp
deriving DecidableEq

inductive SwapSurface where
  | terminal
  | pinned
deriving DecidableEq

inductive AttachedClients where
  | none
  | unpinned
  | pinned

structure PeerHelloCapabilities where
  ownerQueueSourceUpdate : Bool := false
  playbackOutput : Bool := false
  embySessionOutput : Bool := false
  queueTransport : QueueTransport := {}

structure CtrlClient where
  id : CtrlClientId
  transport : CtrlTransport
  absProgress : Bool := false
  absBookProgress : Bool := false
  capabilities : PeerHelloCapabilities := {}
  role : CtrlConnectionRole
  swapSurface : Option SwapSurface := none

/-- The registry; `notices` counts the `LastClientGone` it sent. -/
structure CtrlClients where
  nextId : CtrlClientId := 0
  connection : List CtrlClient := []
  heldClient : Bool := false
  authority : AuthorityHolder := .none
  attachedClients : AttachedClients := .none
  notices : Nat := 0

structure Hello where
  transport : CtrlTransport
  absProgress : Bool := false
  absBookProgress : Bool := false
  capabilities : PeerHelloCapabilities := {}
  swapSurface : Option SwapSurface := none
  role : CtrlConnectionRole

inductive Broadcast where
  | toAll
  | stateGated (projects : QueueTransport → Bool) (except : Option CtrlClientId)
  | progressGated
  | bookProgressGated
  | playbackOutputGated

def Broadcast.addresses (client : CtrlClient) : Broadcast → Bool
  | .toAll => true
  | .stateGated projects except =>
    except ≠ some client.id && projects client.capabilities.queueTransport
  | .progressGated => client.absProgress
  | .bookProgressGated => client.absBookProgress
  | .playbackOutputGated => client.capabilities.playbackOutput

def hasDriver (connection : List CtrlClient) : Bool :=
  connection.any fun client => client.role = .client

def newestSwapClient (connection : List CtrlClient) (surface : SwapSurface) :
    Option CtrlClientId :=
  (connection.reverse.find? fun client =>
    client.transport = .local && client.swapSurface = some surface).map (·.id)

def attachedOf (connection : List CtrlClient) : AttachedClients :=
  if (newestSwapClient connection .pinned).isSome then .pinned
  else if connection.any fun client => client.role = .client && client.transport = .local then
    .unpinned
  else .none

namespace CtrlClients

variable (registry : CtrlClients)

def refreshAttachedClients : CtrlClients :=
  { registry with attachedClients := attachedOf registry.connection }

def notifyLastClientGone (wasNonempty : Bool) : CtrlClients :=
  if wasNonempty && registry.connection.isEmpty && registry.heldClient then
    { registry with notices := registry.notices + 1 }
  else registry

def retainClients (keep : CtrlClient → Bool) : CtrlClients :=
  let before := registry.connection.length
  let retained :=
    { registry with connection := registry.connection.filter keep
      }.notifyLastClientGone (before > 0)
  if retained.connection.length ≠ before then retained.refreshAttachedClients else retained

def connectWithRole (hello : Hello) : CtrlClients :=
  let swapSurface :=
    match hello.role with
    | .client => hello.swapSurface
    | .serviceSetupAdmin | .ownerAction => none
  let client : CtrlClient :=
    { id := registry.nextId
      transport := hello.transport
      absProgress := hello.absProgress
      absBookProgress := hello.absBookProgress
      capabilities := hello.capabilities
      role := hello.role
      swapSurface := swapSurface }
  let connected : CtrlClients :=
    { registry with
      nextId := registry.nextId + 1
      heldClient := registry.heldClient || hello.role = .client
      connection := registry.connection ++ [client]
      authority :=
        if hello.role = .client ∧ registry.authority = .none then .ctrl
        else registry.authority }
  connected.refreshAttachedClients

def remove (id : CtrlClientId) : CtrlClients :=
  let removed := registry.retainClients fun client => client.id ≠ id
  if removed.connection.isEmpty && removed.authority = .ctrl then
    { removed with authority := .none }
  else removed

def broadcast (kind : Broadcast) (gone : List CtrlClientId) : CtrlClients :=
  registry.retainClients fun client => !(kind.addresses client && gone.contains client.id)

def takeAuthorityForEmbyRemote : CtrlClients := { registry with authority := .embyRemote }

end CtrlClients

inductive RegistryInput where
  | connect (hello : Hello)
  | remove (id : CtrlClientId)
  | broadcast (kind : Broadcast) (gone : List CtrlClientId)
  | takeAuthorityForEmbyRemote

namespace CtrlClients

def step (registry : CtrlClients) : RegistryInput → CtrlClients
  | .connect hello => registry.connectWithRole hello
  | .remove id => registry.remove id
  | .broadcast kind gone => registry.broadcast kind gone
  | .takeAuthorityForEmbyRemote => registry.takeAuthorityForEmbyRemote

def machine : Machine CtrlClients RegistryInput := ⟨step⟩

/-- The step counts Clients: what is shared is what the connections define, Ctrl holds authority
    only with a Client there, and the notice goes out exactly when the last Client leaves. -/
structure Counts (registry : CtrlClients) (input : RegistryInput) : Prop where
  attached : (registry.step input).attachedClients = attachedOf (registry.step input).connection
  authority : (registry.step input).authority = .ctrl →
    hasDriver (registry.step input).connection = true
  notice : (registry.step input).notices = registry.notices +
    if hasDriver registry.connection && !hasDriver (registry.step input).connection then 1 else 0

/-- Dropping these connections takes the last Client only with everyone else, and takes everyone
    only with a Client among them. -/
def LeavesWhole (registry : CtrlClients) (keep : CtrlClient → Bool) : Prop :=
  (hasDriver registry.connection = true → hasDriver (registry.connection.filter keep) = false →
    registry.connection.filter keep = []) ∧
  (registry.connection ≠ [] → registry.connection.filter keep = [] → registry.heldClient = true →
    hasDriver registry.connection = true)

instance (registry : CtrlClients) (keep : CtrlClient → Bool) :
    Decidable (registry.LeavesWhole keep) :=
  inferInstanceAs (Decidable (_ ∧ _))

/-- No admin connection separates the Clients from the connections, and no broadcast finds the last
    Client gone while Ctrl holds authority. -/
def ClientsAlone (registry : CtrlClients) : RegistryInput → Prop
  | .remove id => registry.LeavesWhole fun client => client.id ≠ id
  | .broadcast kind gone =>
    let keep := fun client : CtrlClient => !(kind.addresses client && gone.contains client.id)
    registry.LeavesWhole keep ∧ (hasDriver registry.connection = true →
      hasDriver (registry.connection.filter keep) = false → registry.authority ≠ .ctrl)
  | .connect _ | .takeAuthorityForEmbyRemote => True

instance (registry : CtrlClients) : ∀ input, Decidable (registry.ClientsAlone input)
  | .remove _ => inferInstanceAs (Decidable (LeavesWhole ..))
  | .broadcast _ _ => inferInstanceAs (Decidable (_ ∧ _))
  | .connect _ | .takeAuthorityForEmbyRemote => isTrue True.intro

structure Held (registry : CtrlClients) : Prop where
  attached : registry.attachedClients = attachedOf registry.connection
  authority : registry.authority = .ctrl → hasDriver registry.connection = true
  held : hasDriver registry.connection = true → registry.heldClient = true

variable {registry : CtrlClients}

theorem retainClients_eq (held : registry.Held) (keep : CtrlClient → Bool) : registry.retainClients keep = { registry with
        connection := registry.connection.filter keep
        attachedClients := attachedOf (registry.connection.filter keep)
        notices := registry.notices +
          if !registry.connection.isEmpty && (registry.connection.filter keep).isEmpty &&
            registry.heldClient then 1 else 0 } := by
  have filled : decide (registry.connection.length > 0) = !registry.connection.isEmpty := by
    cases registry.connection <;> simp
  have before := held.attached
  by_cases length : (registry.connection.filter keep).length = registry.connection.length
  · have same : registry.connection.filter keep = registry.connection :=
      List.filter_eq_self.mpr (List.length_filter_eq_length_iff.mp length)
    rw [same, ← before]
    simp only [retainClients, notifyLastClientGone, same, filled]
    cases registry.connection.isEmpty <;> simp
  · simp only [retainClients, notifyLastClientGone, filled]
    split <;> simp_all [refreshAttachedClients]

theorem notice_iff (held : registry.Held) (keep : CtrlClient → Bool) :
    (if !registry.connection.isEmpty && (registry.connection.filter keep).isEmpty && registry.heldClient then 1 else 0) =
        (if hasDriver registry.connection && !hasDriver (registry.connection.filter keep) then 1
          else 0) ↔
      registry.LeavesWhole keep := by
  unfold LeavesWhole
  by_cases empty : registry.connection.filter keep = []
  · have gone : hasDriver [] = false := rfl
    have holder := held.held
    have nonempty : hasDriver registry.connection = true → registry.connection ≠ [] := by
      intro driver none
      rw [none] at driver
      cases driver
    rw [empty]
    cases driver : hasDriver registry.connection with
    | false => simp [gone]
    | true => simp [gone, holder driver, nonempty driver]
  · have kept : (registry.connection.filter keep).isEmpty = false := by
      cases isEmpty : (registry.connection.filter keep).isEmpty with
      | false => rfl
      | true => exact absurd (List.isEmpty_iff.mp isEmpty) empty
    rw [kept]
    cases hasDriver registry.connection <;> cases hasDriver (registry.connection.filter keep) <;> simp [empty]

theorem held_empty : ({} : CtrlClients).Held where
  attached := rfl
  authority := by simp
  held := nofun

theorem hasDriver_append (connection : List CtrlClient) (client : CtrlClient) :
    hasDriver (connection ++ [client]) = (hasDriver connection || client.role = .client) := by
  simp [hasDriver]

theorem counts_connect (held : registry.Held) (hello : Hello) : registry.Counts (.connect hello) := by
  constructor
  · rfl
  · show (if hello.role = .client ∧ registry.authority = .none then .ctrl
        else registry.authority) = AuthorityHolder.ctrl → hasDriver (_ ++ [_]) = true
    rw [hasDriver_append]
    split
    · rename_i first
      simp [first.1]
    · intro ctrl
      rw [held.authority ctrl]
      rfl
  · show registry.notices = registry.notices + if _ && !hasDriver (_ ++ [_]) then 1 else 0
    rw [hasDriver_append]
    cases hasDriver registry.connection <;> simp

theorem counts_remove (held : registry.Held) (id : CtrlClientId) :
    registry.Counts (.remove id) ↔ registry.ClientsAlone (.remove id) := by
  have removed : registry.step (.remove id) = { registry.retainClients fun client => client.id ≠ id with
        authority :=
          if (registry.connection.filter fun client => client.id ≠ id).isEmpty ∧
            registry.authority = .ctrl then .none else registry.authority } := by
    show registry.remove id = _
    unfold remove
    rw [retainClients_eq held]
    dsimp only
    split <;> simp_all
  rw [retainClients_eq held] at removed
  have notice := notice_iff held fun client => client.id ≠ id
  constructor
  · intro counts
    have right := counts.notice
    rw [removed] at right
    exact notice.mp (Nat.add_left_cancel right)
  · intro whole
    refine ⟨?_, ?_, ?_⟩
    · rw [removed]
    · rw [removed]
      dsimp only
      split
      · simp
      · rename_i stays
        intro ctrl
        cases kept : hasDriver (registry.connection.filter fun client => client.id ≠ id) with
        | true => rfl
        | false =>
          have empty := whole.1 (held.authority ctrl) kept
          exact absurd ⟨by rw [empty]; rfl, ctrl⟩ stays
    · rw [removed]
      exact congrArg (registry.notices + ·) (notice.mpr whole)

theorem counts_broadcast (held : registry.Held) (kind : Broadcast) (gone : List CtrlClientId) :
    registry.Counts (.broadcast kind gone) ↔ registry.ClientsAlone (.broadcast kind gone) := by
  have pruned : registry.step (.broadcast kind gone) = registry.retainClients fun client =>
      !(kind.addresses client && gone.contains client.id) := rfl
  rw [retainClients_eq held] at pruned
  have notice := notice_iff held fun client => !(kind.addresses client && gone.contains client.id)
  constructor
  · intro counts
    have right := counts.notice
    rw [pruned] at right
    refine ⟨notice.mp (Nat.add_left_cancel right), fun _ lost ctrl => ?_⟩
    have kept := counts.authority
    rw [pruned] at kept
    rw [kept ctrl] at lost
    cases lost
  · intro alone
    refine ⟨?_, ?_, ?_⟩
    · rw [pruned]
    · rw [pruned]
      intro ctrl
      dsimp only at ctrl ⊢
      cases kept : hasDriver (registry.connection.filter _) with
      | true => rfl
      | false => exact absurd ctrl (alone.2 (held.authority ctrl) kept)
    · rw [pruned]
      exact congrArg (registry.notices + ·) (notice.mpr alone.1)

theorem counts_iff (held : registry.Held) (input : RegistryInput) : registry.Counts input ↔ registry.ClientsAlone input := by
  cases input with
  | connect hello => exact iff_of_true (counts_connect held hello) trivial
  | remove id => exact counts_remove held id
  | broadcast kind gone => exact counts_broadcast held kind gone
  | takeAuthorityForEmbyRemote =>
    refine iff_of_true ⟨held.attached, nofun, ?_⟩ trivial
    show registry.notices = registry.notices + if hasDriver registry.connection && !hasDriver registry.connection then 1 else 0
    cases hasDriver registry.connection <;> rfl

theorem hasDriver_of_filter {connection : List CtrlClient} {keep : CtrlClient → Bool}
    (driver : hasDriver (connection.filter keep) = true) : hasDriver connection = true := by
  obtain ⟨client, kept, role⟩ := List.any_eq_true.mp driver
  exact List.any_eq_true.mpr ⟨client, (List.mem_filter.mp kept).1, role⟩

theorem Held.step (held : registry.Held) {input : RegistryInput}
    (counts : registry.Counts input) : (registry.step input).Held where
  attached := counts.attached
  authority := counts.authority
  held := by
    have retained (keep : CtrlClient → Bool) (driver : hasDriver (registry.connection.filter keep) = true) :
        registry.heldClient = true := held.held (hasDriver_of_filter driver)
    cases input with
    | connect hello =>
      show hasDriver (_ ++ [_]) = true → (registry.heldClient || _) = true
      rw [hasDriver_append, Bool.or_eq_true, Bool.or_eq_true]
      exact Or.imp_left held.held
    | remove id =>
      show hasDriver (registry.remove id).connection = true → (registry.remove id).heldClient = true
      unfold remove
      rw [retainClients_eq held]
      dsimp only
      split <;> exact retained _
    | broadcast kind gone =>
      show hasDriver (registry.broadcast kind gone).connection = true → (registry.broadcast kind gone).heldClient = true
      unfold broadcast
      rw [retainClients_eq held]
      exact retained _
    | takeAuthorityForEmbyRemote => exact held.held

/-- Every step of a run counts Clients only, exactly when no admin connection stays with or leaves
    without the Clients, and no broadcast finds the last of them gone under Ctrl's authority. -/
theorem registry_counts_clients_only (inputs : List RegistryInput) :
    machine.Along Counts {} inputs ↔ machine.Along ClientsAlone {} inputs :=
  Machine.along_iff (fun _ _ held alone => held.step ((counts_iff held _).mpr alone))
    (fun _ _ held => counts_iff held _) held_empty

/-- The only Client leaves while an admin connection is open, which leaves later. -/
theorem registry_counts_admin :
    let left := machine.run {} [.connect { transport := .local, role := .client },
      .connect { transport := .local, role := .ownerAction }, .remove 0]
    let emptied := machine.run left [.remove 1]
    hasDriver left.connection = false ∧ left.authority = .ctrl ∧ left.notices = 0 ∧
      hasDriver emptied.connection = false ∧ emptied.notices = 1 := by
  decide

end CtrlClients

end Mbv.Daemon
