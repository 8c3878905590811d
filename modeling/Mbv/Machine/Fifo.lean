import Mathlib.Data.List.Basic

/-! A channel read in the order it is written, with what became of each message read. -/

namespace Fifo

structure Channel (μ φ : Type*) where
  waiting : List μ := []
  taken : List (μ × φ) := []

namespace Channel

variable {μ φ : Type*} (channel : Channel μ φ)

def sent : List μ := channel.taken.map Prod.fst ++ channel.waiting

def send (message : μ) : Channel μ φ := { channel with waiting := channel.waiting ++ [message] }

def take (fate : φ) : Channel μ φ :=
  match channel.waiting with
  | [] => channel
  | message :: waiting => { waiting, taken := channel.taken ++ [(message, fate)] }

def met (fates : φ → Bool) : List μ := (channel.taken.filter fun entry => fates entry.2).map Prod.fst

variable {channel}

@[simp] theorem sent_send (message : μ) : (channel.send message).sent = channel.sent ++ [message] := by
  simp [sent, send]

@[simp] theorem taken_send (message : μ) : (channel.send message).taken = channel.taken := rfl

theorem take_nil (empty : channel.waiting = []) (fate : φ) : channel.take fate = channel := by
  simp only [take, empty]

theorem take_cons {message : μ} {waiting : List μ} (next : channel.waiting = message :: waiting)
    (fate : φ) : channel.take fate = { waiting, taken := channel.taken ++ [(message, fate)] } := by
  rw [take, next]

@[simp] theorem sent_take (fate : φ) : (channel.take fate).sent = channel.sent := by
  cases next : channel.waiting with
  | nil => rw [take_nil next]
  | cons message waiting => simp [take_cons next, sent, next]

theorem met_sublist (fates : φ → Bool) : (channel.met fates).Sublist channel.sent :=
  (List.filter_sublist.map Prod.fst).trans (List.sublist_append_left _ _)

theorem taken_length_take {fate : φ} : channel.taken.length ≤ (channel.take fate).taken.length := by
  cases next : channel.waiting with
  | nil => simp [take_nil next]
  | cons message waiting => simp [take_cons next]

theorem taken_eq_sent (empty : channel.waiting = []) : channel.taken.length = channel.sent.length := by
  simp [sent, empty]

theorem taken_place {place : Nat} {message : μ} {fate : φ} (read : channel.taken[place]? = some (message, fate)) :
    channel.sent[place]? = some message ∧ channel.sent.take place = (channel.taken.take place).map Prod.fst := by
  have inside := (List.getElem?_eq_some_iff.mp read).1
  unfold sent
  constructor
  · rw [List.getElem?_append_left (by rwa [List.length_map]), List.getElem?_map, read, Option.map_some]
  · rw [List.take_append_of_le_length (by rw [List.length_map]; omega), List.map_take]

theorem taken_take {place : Nat} {entry : μ × φ} {fate : φ} (read : (channel.take fate).taken[place]? = some entry) :
    channel.taken[place]? = some entry ∨
      place = channel.taken.length ∧ entry.2 = fate ∧ channel.waiting.head? = some entry.1 := by
  cases next : channel.waiting with
  | nil =>
    rw [take_nil next] at read
    exact .inl read
  | cons message waiting =>
    rw [take_cons next] at read
    dsimp only at read
    rcases Nat.lt_or_ge place channel.taken.length with old | new
    · rw [List.getElem?_append_left old] at read
      exact .inl read
    · rw [List.getElem?_append_right new] at read
      have last := (List.getElem?_eq_some_iff.mp read).1
      rw [List.length_singleton] at last
      have place_eq : place = channel.taken.length := by omega
      rw [place_eq, Nat.sub_self] at read
      injection read with read
      exact .inr ⟨place_eq, by rw [← read], by rw [← read]; rfl⟩

end Channel

end Fifo
