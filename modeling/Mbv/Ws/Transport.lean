import Mbv.Machine.Fifo
import Mbv.Machine.Run

namespace Mbv.Ws

open Fifo List

/-! ### The websocket transport

One channel carries the texts, the flushes and the shutdown to the loop that serves a connection.
A step of the loop is one read of the channel, one connection attempt, or the heartbeat and the
socket read that follow a drain. -/

inductive OutboundMessage where
  | text (msg : String)
  | flush (ack : Nat)
  | shutdown
deriving DecidableEq

inductive Fate where
  | transmitted (since : Nat)
  | discarded
  | acknowledged
  | obeyed

inductive LoopPhase where
  | connecting
  | preparing
  | draining
  | serving
  | stopped
deriving DecidableEq

inductive Deed where
  | shutdownCalled
  | connectAttempted
  | eventDelivered
deriving DecidableEq

structure WsTransport where
  channel : Channel OutboundMessage Fate := {}
  phase : LoopPhase := .connecting
  connected : Bool := false
  established : Nat := 0
  deeds : List Deed := []

/-- How a heartbeat and a read of the socket end: in nothing for the loop, in the loss of the
    connection, or in an event for a receiver that is open or closed. -/
inductive Served where
  | quiet
  | lost
  | event (receiverOpen : Bool)

inductive WsInput where
  | sendText (msg : String)
  | flush (ack : Nat)
  | shutdown
  | connect (accepted : Bool)
  | read (sent : Bool)
  | serve (served : Served)

namespace WsTransport

variable (s : WsTransport)

/-- The channel is closed once the loop has returned. -/
def send (message : OutboundMessage) : WsTransport :=
  if s.phase = .stopped then s else { s with channel := s.channel.send message }

def shutdown : WsTransport :=
  if s.phase = .stopped then s
  else { s.send .shutdown with deeds := s.deeds ++ [.shutdownCalled] }

def reconnect : WsTransport := { s with connected := false, phase := .connecting }

def connect (accepted : Bool) : WsTransport :=
  if s.phase = .connecting then
    let attempted := { s with deeds := s.deeds ++ [.connectAttempted] }
    if accepted then
      { attempted with phase := .preparing, established := s.channel.sent.length }
    else attempted
  else s

def dropStaleOutbound : WsTransport :=
  match s.channel.waiting with
  | [] => { s with connected := true, phase := .draining }
  | .flush _ :: _ => { s with channel := s.channel.take .acknowledged }
  | .text _ :: _ | .shutdown :: _ => { s with channel := s.channel.take .discarded }

def drainOutbound (sent : Bool) : WsTransport :=
  match s.channel.waiting with
  | [] => { s with phase := .serving }
  | .text _ :: _ =>
    if sent then { s with channel := s.channel.take (.transmitted s.established) }
    else reconnect { s with channel := s.channel.take .discarded }
  | .flush _ :: _ => { s with channel := s.channel.take .acknowledged }
  | .shutdown :: _ =>
    { s with channel := s.channel.take .obeyed, connected := false, phase := .stopped }

def read (sent : Bool) : WsTransport :=
  match s.phase with
  | .preparing => s.dropStaleOutbound
  | .draining => s.drainOutbound sent
  | .connecting | .serving | .stopped => s

/-- A closed event receiver ends the loop as it stands. -/
def serve (served : Served) : WsTransport :=
  if s.phase = .serving then
    match served with
    | .quiet => { s with phase := .draining }
    | .lost => s.reconnect
    | .event true => { s with phase := .draining, deeds := s.deeds ++ [.eventDelivered] }
    | .event false => { s with phase := .stopped }
  else s

def step : WsInput → WsTransport
  | .sendText msg => s.send (.text msg)
  | .flush ack => s.send (.flush ack)
  | .shutdown => s.shutdown
  | .connect accepted => s.connect accepted
  | .read sent => s.read sent
  | .serve served => s.serve served

end WsTransport

def machine : Machine WsTransport WsInput where
  step := WsTransport.step

/-! ### What the transport owes -/

def isTransmitted : Fate → Bool
  | .transmitted _ => true
  | .discarded | .acknowledged | .obeyed => false

/-- Texts go out in the order they were sent, each at most once, on a connection made before they
    were sent, and a flush is acknowledged behind what was sent before it. -/
structure Delivers (s : WsTransport) : Prop where
  ordered : (s.channel.met isTransmitted).Sublist s.channel.sent
  fresh : ∀ (place : Nat) (message : OutboundMessage) (since : Nat),
    s.channel.taken[place]? = some (message, .transmitted since) →
      (∃ msg, message = .text msg) ∧ since ≤ place
  flushed : ∀ (place : Nat) (message : OutboundMessage),
    s.channel.taken[place]? = some (message, .acknowledged) →
      (∃ ack, message = .flush ack) ∧
        s.channel.sent.take place = (s.channel.taken.take place).map Prod.fst
  texts : ∀ (msg : String) (fate : Fate), (OutboundMessage.text msg, fate) ∈ s.channel.taken →
    isTransmitted fate = true ∨ fate = .discarded

/-- The pass over the channel that the loop makes next, when nothing more happens to it. -/
def nextPass (s : WsTransport) : WsTransport :=
  machine.run (s.serve .quiet)
    (List.replicate s.channel.waiting.length (.read true))

/-- After a shutdown nothing is connected or delivered and the next pass stops the loop, and the
    flag is up only while a connection is served. -/
structure Obeys (s : WsTransport) : Prop where
  quiet : s.deeds.Pairwise fun earlier later =>
    earlier = .shutdownCalled → later = .shutdownCalled
  stops : .shutdownCalled ∈ s.deeds → (nextPass s).phase = .stopped
  flag : s.connected = true → s.phase = .draining ∨ s.phase = .serving

/-- The shutdown is called while a connection is served, nothing befalls the connection until the
    loop reads it, and the event receiver is open. -/
def Orderly (s : WsTransport) : WsInput → Prop
  | .shutdown => s.phase ≠ .connecting ∧ s.phase ≠ .preparing
  | .read sent => sent = true ∨ .shutdown ∉ s.channel.waiting
  | .serve .lost => .shutdown ∉ s.channel.waiting
  | .serve (.event receiverOpen) => .shutdown ∉ s.channel.waiting ∧ receiverOpen = true
  | .serve .quiet | .sendText _ | .flush _ | .connect _ => True

/-! ### What is read is sent on, answered or dropped in order -/

def Fits (place : Nat) : OutboundMessage → Fate → Prop
  | .text _, .transmitted since => since ≤ place
  | .text _, .discarded | .flush _, .acknowledged => True
  | .shutdown, .discarded | .shutdown, .obeyed => True
  | .text _, .acknowledged | .text _, .obeyed => False
  | .flush _, .transmitted _ | .flush _, .discarded | .flush _, .obeyed => False
  | .shutdown, .transmitted _ | .shutdown, .acknowledged => False

structure Numbered (s : WsTransport) : Prop where
  established : s.established ≤ s.channel.sent.length
  served : s.phase = .draining ∨ s.phase = .serving → s.established ≤ s.channel.taken.length
  entries : ∀ place entry, s.channel.taken[place]? = some entry → Fits place entry.1 entry.2

section

variable {s : WsTransport}

theorem fits_take {channel : Channel OutboundMessage Fate} {fate : Fate}
    (entries : ∀ place entry, channel.taken[place]? = some entry → Fits place entry.1 entry.2)
    (fits : ∀ message, channel.waiting.head? = some message → Fits channel.taken.length message fate) :
    ∀ place entry, (channel.take fate).taken[place]? = some entry → Fits place entry.1 entry.2 := by
  intro place entry read
  rcases Channel.taken_take read with old | ⟨rfl, rfl, next⟩
  · exact entries place entry old
  · exact fits entry.1 next

theorem Numbered.send (numbered : Numbered s) (message : OutboundMessage) : Numbered (s.send message) := by
  unfold WsTransport.send
  split
  · exact numbered
  · refine ⟨?_, numbered.served, numbered.entries⟩
    rw [Channel.sent_send, length_append]
    exact Nat.le_add_right_of_le numbered.established

theorem Numbered.shutdown (numbered : Numbered s) : Numbered s.shutdown := by
  unfold WsTransport.shutdown
  split
  · exact numbered
  · obtain ⟨established, served, entries⟩ := numbered.send .shutdown
    exact ⟨established, served, entries⟩

theorem Numbered.connect (numbered : Numbered s) (accepted : Bool) : Numbered (s.connect accepted) := by
  unfold WsTransport.connect
  split
  · dsimp only
    split
    · exact ⟨Nat.le_refl _, by simp, numbered.entries⟩
    · exact ⟨numbered.established, numbered.served, numbered.entries⟩
  · exact numbered

theorem Numbered.take (numbered : Numbered s) {fate : Fate} (fits : ∀ message, s.channel.waiting.head? = some message →
      Fits s.channel.taken.length message fate) :
    Numbered { s with channel := s.channel.take fate } where
  established := by
    dsimp only
    rw [Channel.sent_take]
    exact numbered.established
  served := fun phase => Nat.le_trans (numbered.served phase) Channel.taken_length_take
  entries := fits_take numbered.entries fits

theorem Numbered.away (numbered : Numbered s) {phase : LoopPhase} (connected : Bool)
    (away : phase ≠ .draining ∧ phase ≠ .serving) :
    Numbered { s with connected := connected, phase := phase } where
  established := numbered.established
  served := fun same => by
    rcases same with rfl | rfl
    · exact absurd rfl away.1
    · exact absurd rfl away.2
  entries := numbered.entries

theorem Numbered.dropStaleOutbound (numbered : Numbered s) : Numbered s.dropStaleOutbound := by
  unfold WsTransport.dropStaleOutbound
  split
  · rename_i empty
    refine ⟨numbered.established, fun _ => ?_, numbered.entries⟩
    rw [Channel.taken_eq_sent empty]
    exact numbered.established
  all_goals
    rename_i next
    apply numbered.take
    intro message head
    rw [next, List.head?_cons] at head
    cases head
    exact trivial

theorem Numbered.drainOutbound (numbered : Numbered s) (draining : s.phase = .draining)
    (sent : Bool) : Numbered (s.drainOutbound sent) := by
  unfold WsTransport.drainOutbound
  split
  · exact ⟨numbered.established, fun _ => numbered.served (.inl draining), numbered.entries⟩
  · rename_i msg _ next
    split
    · apply numbered.take
      intro message head
      rw [next, List.head?_cons] at head
      cases head
      exact numbered.served (.inl draining)
    · apply Numbered.away _ _ (by simp)
      apply numbered.take
      intro message head
      rw [next, List.head?_cons] at head
      cases head
      exact trivial
  · rename_i next
    apply numbered.take
    intro message head
    rw [next, List.head?_cons] at head
    cases head
    exact trivial
  · rename_i next
    refine Numbered.away (numbered.take ?_) false (by simp)
    intro message head
    rw [next, List.head?_cons] at head
    cases head
    exact trivial

theorem Numbered.serve (numbered : Numbered s) (served : Served) : Numbered (s.serve served) := by
  unfold WsTransport.serve
  split
  · rename_i serving
    split
    · exact ⟨numbered.established, fun _ => numbered.served (.inr serving), numbered.entries⟩
    · exact numbered.away false (by simp)
    · exact ⟨numbered.established, fun _ => numbered.served (.inr serving), numbered.entries⟩
    · exact numbered.away s.connected (by simp)
  · exact numbered

theorem Numbered.step (numbered : Numbered s) (input : WsInput) : Numbered (s.step input) := by
  cases input with
  | sendText msg => exact numbered.send _
  | flush ack => exact numbered.send _
  | shutdown => exact numbered.shutdown
  | connect accepted => exact numbered.connect accepted
  | read sent =>
    unfold WsTransport.step WsTransport.read
    dsimp only
    split
    · exact numbered.dropStaleOutbound
    · exact numbered.drainOutbound ‹_› sent
    all_goals exact numbered
  | serve served => exact numbered.serve served

theorem numbered_run (inputs : List WsInput) : Numbered (machine.run {} inputs) :=
  machine.run_holds (fun _ input numbered => numbered.step input) inputs ⟨Nat.zero_le _, by simp, by simp⟩

theorem Numbered.delivers (numbered : Numbered s) : Delivers s where
  ordered := Channel.met_sublist isTransmitted
  fresh := by
    intro place message since read
    have fits := numbered.entries place _ read
    cases message with
    | text msg => exact ⟨⟨msg, rfl⟩, fits⟩
    | flush ack => cases fits
    | shutdown => cases fits
  flushed := by
    intro place message read
    have fits := numbered.entries place _ read
    refine ⟨?_, (Channel.taken_place read).2⟩
    cases message with
    | text msg => cases fits
    | flush ack => exact ⟨ack, rfl⟩
    | shutdown => cases fits
  texts := by
    intro msg fate member
    obtain ⟨place, read⟩ := List.getElem?_of_mem member
    have fits := numbered.entries place _ read
    cases fate with
    | transmitted since => exact .inl rfl
    | discarded => exact .inr rfl
    | acknowledged => cases fits
    | obeyed => cases fits

end

/-! ### The shutdown and the flag -/

structure Governed (s : WsTransport) : Prop where
  quiet : s.deeds.Pairwise fun earlier later =>
    earlier = .shutdownCalled → later = .shutdownCalled
  pending : .shutdownCalled ∈ s.deeds →
    s.phase = .stopped ∨
      (s.phase = .draining ∨ s.phase = .serving) ∧ .shutdown ∈ s.channel.waiting
  flag : s.connected = true → s.phase = .draining ∨ s.phase = .serving

section

variable {s : WsTransport}

theorem Governed.unasked (governed : Governed s)
    (unserved : s.phase = .connecting ∨ s.phase = .preparing) : .shutdownCalled ∉ s.deeds := by
  intro asked
  rcases governed.pending asked with stopped | ⟨served, -⟩
  · simp [stopped] at unserved
  · rcases served with phase | phase <;> simp [phase] at unserved

theorem Governed.unasked_of_absent (governed : Governed s) (running : s.phase ≠ .stopped)
    (absent : .shutdown ∉ s.channel.waiting) : .shutdownCalled ∉ s.deeds := by
  intro asked
  rcases governed.pending asked with stopped | ⟨-, waiting⟩
  · exact running stopped
  · exact absent waiting

theorem Governed.quiet_append (governed : Governed s) {deed : Deed} (free : .shutdownCalled ∈ s.deeds → deed = .shutdownCalled) :
    (s.deeds ++ [deed]).Pairwise fun earlier later =>
      earlier = .shutdownCalled → later = .shutdownCalled := by
  rw [pairwise_append]
  refine ⟨governed.quiet, pairwise_singleton _ _, ?_⟩
  rintro earlier member later last rfl
  rw [mem_singleton.mp last]
  exact free member

theorem Governed.send (governed : Governed s) (message : OutboundMessage) : Governed (s.send message) := by
  unfold WsTransport.send
  split
  · exact governed
  · refine ⟨governed.quiet, fun asked => ?_, governed.flag⟩
    rcases governed.pending asked with stopped | ⟨served, waiting⟩
    · exact .inl stopped
    · exact .inr ⟨served, mem_append_left _ waiting⟩

theorem Governed.shutdown (governed : Governed s)
    (served : s.phase ≠ .connecting ∧ s.phase ≠ .preparing) : Governed s.shutdown := by
  unfold WsTransport.shutdown
  split
  · exact governed
  · rename_i running
    refine ⟨governed.quiet_append fun _ => rfl, fun _ => .inr ?_, ?_⟩
    · rw [WsTransport.send, if_neg running]
      refine ⟨?_, mem_append_right _ mem_cons_self⟩
      dsimp only
      cases phase : s.phase <;> simp_all
    · rw [WsTransport.send, if_neg running]
      exact governed.flag

theorem Governed.connect (governed : Governed s) (accepted : Bool) : Governed (s.connect accepted) := by
  unfold WsTransport.connect
  split
  · rename_i connecting
    have unasked := governed.unasked (.inl connecting)
    have down : s.connected = false := by
      cases up : s.connected with
      | false => rfl
      | true => rcases governed.flag up with phase | phase <;> simp [phase] at connecting
    have quiet := @Governed.quiet_append s governed .connectAttempted fun asked => absurd asked unasked
    dsimp only
    split
    · exact ⟨quiet, fun asked => absurd asked (by simpa using unasked), by simp [down]⟩
    · exact ⟨quiet, fun asked => absurd asked (by simpa using unasked), by simp [down]⟩
  · exact governed

theorem Governed.dropStaleOutbound (governed : Governed s) (preparing : s.phase = .preparing) :
    Governed s.dropStaleOutbound := by
  have unasked := governed.unasked (.inr preparing)
  unfold WsTransport.dropStaleOutbound
  split
  · exact ⟨governed.quiet, fun asked => absurd asked unasked, fun _ => .inl rfl⟩
  all_goals exact ⟨governed.quiet, fun asked => absurd asked unasked, governed.flag⟩

theorem Governed.take (governed : Governed s) {message : OutboundMessage}
    {waiting : List OutboundMessage} (next : s.channel.waiting = message :: waiting)
    (other : message ≠ .shutdown) (fate : Fate) :
    Governed { s with channel := s.channel.take fate } where
  quiet := governed.quiet
  pending := fun asked => by
    rcases governed.pending asked with stopped | ⟨served, member⟩
    · exact .inl stopped
    · refine .inr ⟨served, ?_⟩
      dsimp only
      rw [Channel.take_cons next]
      rw [next] at member
      exact (mem_cons.mp member).resolve_left fun same => other same.symm
  flag := governed.flag

theorem Governed.drainOutbound (governed : Governed s) (draining : s.phase = .draining)
    {sent : Bool} (safe : sent = true ∨ .shutdown ∉ s.channel.waiting) :
    Governed (s.drainOutbound sent) := by
  have running : s.phase ≠ .stopped := by simp [draining]
  unfold WsTransport.drainOutbound
  split
  · rename_i empty
    have unasked := governed.unasked_of_absent running (by simp [empty])
    exact ⟨governed.quiet, fun asked => absurd asked unasked, fun _ => .inr rfl⟩
  · rename_i next
    split
    · exact governed.take next (by simp) _
    · rename_i failed
      have unasked := governed.unasked_of_absent running (safe.resolve_left failed)
      exact ⟨governed.quiet, fun asked => absurd asked unasked, by simp [WsTransport.reconnect]⟩
  · rename_i next
    exact governed.take next (by simp) _
  · exact ⟨governed.quiet, fun _ => .inl rfl, by simp⟩

theorem Governed.serve (governed : Governed s) {served : Served}
    (orderly : Orderly s (.serve served)) : Governed (s.serve served) := by
  unfold WsTransport.serve
  split
  · rename_i serving
    have running : s.phase ≠ .stopped := by simp [serving]
    split
    · refine ⟨governed.quiet, fun asked => ?_, fun _ => .inl rfl⟩
      rcases governed.pending asked with stopped | ⟨-, waiting⟩
      · exact absurd stopped running
      · exact .inr ⟨.inl rfl, waiting⟩
    · have unasked := governed.unasked_of_absent running orderly
      exact ⟨governed.quiet, fun asked => absurd asked unasked, by simp [WsTransport.reconnect]⟩
    · have unasked := governed.unasked_of_absent running orderly.1
      exact ⟨governed.quiet_append fun asked => absurd asked unasked,
        fun asked => absurd asked (by simpa using unasked), fun _ => .inl rfl⟩
    · exact absurd orderly.2 (by simp)
  · exact governed

theorem Governed.step (governed : Governed s) {input : WsInput} (orderly : Orderly s input) : Governed (s.step input) := by
  cases input with
  | sendText msg => exact governed.send _
  | flush ack => exact governed.send _
  | shutdown => exact governed.shutdown orderly
  | connect accepted => exact governed.connect accepted
  | read sent =>
    unfold WsTransport.step WsTransport.read
    dsimp only
    split
    · exact governed.dropStaleOutbound ‹_›
    · exact governed.drainOutbound ‹_› orderly
    all_goals exact governed
  | serve served => exact governed.serve orderly

theorem read_stopped (stopped : s.phase = .stopped) (sent : Bool) : s.read sent = s := by
  simp only [WsTransport.read, stopped]

theorem run_reads_stopped (stopped : s.phase = .stopped) (count : Nat) :
    (machine.run s (List.replicate count (.read true))).phase = .stopped := by
  induction count with
  | zero => exact stopped
  | succ count ih =>
    rw [replicate_succ, Machine.run_cons]
    change (machine.run (s.read true) _).phase = _
    rw [read_stopped stopped]
    exact ih

theorem run_reads_stops {waiting : List OutboundMessage} (next : s.channel.waiting = waiting)
    (draining : s.phase = .draining) (asked : .shutdown ∈ waiting) :
    (machine.run s (List.replicate waiting.length (.read true))).phase = .stopped := by
  induction waiting generalizing s with
  | nil => cases asked
  | cons message waiting ih =>
    rw [length_cons, replicate_succ, Machine.run_cons]
    change (machine.run (s.read true) _).phase = _
    unfold WsTransport.read WsTransport.drainOutbound
    simp only [draining, next]
    cases message with
    | text msg =>
      exact ih (by simp [Channel.take_cons next]) rfl ((mem_cons.mp asked).resolve_left (by simp))
    | flush ack =>
      exact ih (by simp [Channel.take_cons next]) rfl ((mem_cons.mp asked).resolve_left (by simp))
    | shutdown => exact run_reads_stopped rfl _

theorem Governed.obeys (governed : Governed s) : Obeys s where
  quiet := governed.quiet
  stops := by
    intro asked
    rcases governed.pending asked with stopped | ⟨draining | serving, waiting⟩
    · rw [nextPass, WsTransport.serve, if_neg (by simp [stopped])]
      exact run_reads_stopped stopped _
    · rw [nextPass, WsTransport.serve, if_neg (by simp [draining])]
      exact run_reads_stops rfl draining waiting
    · rw [nextPass, WsTransport.serve, if_pos serving]
      exact @run_reads_stops { s with phase := .draining } _ rfl rfl waiting
  flag := governed.flag

end

theorem governed_run {inputs : List WsInput} (orderly : machine.Along Orderly {} inputs) : Governed (machine.run {} inputs) := by
  have start : Governed {} := ⟨.nil, by simp, by simp⟩
  exact Machine.run_invariant (fun s input (governed : Governed s) along => governed.step along) start orderly

/-- In every run the texts and flushes are handled in order; the shutdown and the flag are where
    the steps are orderly. -/
theorem transport_contract (inputs : List WsInput) :
    Delivers (machine.run {} inputs) ∧
      (machine.Along Orderly {} inputs → Obeys (machine.run {} inputs)) :=
  ⟨(numbered_run inputs).delivers, fun orderly => (governed_run orderly).obeys⟩

instance Orderly.decide (s : WsTransport) : ∀ input, Decidable (Orderly s input)
  | .shutdown => inferInstanceAs (Decidable (s.phase ≠ .connecting ∧ s.phase ≠ .preparing))
  | .read sent => inferInstanceAs (Decidable (sent = true ∨ .shutdown ∉ s.channel.waiting))
  | .serve .lost => inferInstanceAs (Decidable (.shutdown ∉ s.channel.waiting))
  | .serve (.event receiverOpen) =>
    inferInstanceAs (Decidable (.shutdown ∉ s.channel.waiting ∧ receiverOpen = true))
  | .serve .quiet | .sendText _ | .flush _ | .connect _ => isTrue trivial

theorem transport_contract_served :
    machine.Along Orderly {} [.connect true, .read true, .sendText "progress", .shutdown] ∧
      Obeys (machine.run {} [.connect true, .read true, .sendText "progress", .shutdown]) :=
  ⟨by decide, (transport_contract _).2 (by decide)⟩

/-- A shutdown called before the connection is made is dropped as stale: the loop connects and
    delivers an event after it, and its next pass goes on; and a closed event receiver leaves the
    flag up behind the loop. -/
theorem shutdown_dropped :
    ¬ Obeys (machine.run {} [.shutdown, .connect true, .read true, .read true, .read true,
      .serve (.event true)]) ∧
    (nextPass (machine.run {} [.shutdown, .connect true, .read true, .read true, .read true,
      .serve (.event true)])).phase ≠ .stopped ∧
    ¬ Obeys (machine.run {} [.connect true, .read true, .read true, .serve (.event false)]) :=
  ⟨fun obeys => absurd (obeys.stops (by decide)) (by decide), by decide,
    fun obeys => absurd (obeys.flag (by decide)) (by decide)⟩

end Mbv.Ws
