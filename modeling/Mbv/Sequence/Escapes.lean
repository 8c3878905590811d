import Mbv.Sequence.Delimited

/-! Text in which a lead symbol, a body and a closing symbol stand for one symbol. A lead symbol that
    begins no known body stands for itself. -/

namespace Escapes

open Delimited List

structure Code (α : Type*) where
  lead : α
  close : α
  symbol : List α → Option α
  distinct : lead ≠ close
  lead_outside : ∀ body, (symbol body).isSome → lead ∉ body

variable {α : Type*} (code : Code α)

inductive Atom where
  | plain (c : α) (other : c ≠ code.lead)
  | escape (body : List α) (c : α) (known : code.symbol body = some c) (closed : code.close ∉ body)
  | bare

namespace Atom

variable {code}

def value : Atom code → α
  | plain c _ => c
  | escape _ c _ _ => c
  | bare => code.lead

def encode : Atom code → List α
  | plain c _ => [c]
  | escape body _ _ _ => code.lead :: body ++ [code.close]
  | bare => [code.lead]

end Atom

variable {code}

def encode (atoms : List (Atom code)) : List α := atoms.flatMap Atom.encode

@[simp] theorem encode_nil : encode ([] : List (Atom code)) = [] := rfl

@[simp] theorem encode_cons (atom : Atom code) (atoms : List (Atom code)) :
    encode (atom :: atoms) = atom.encode ++ encode atoms := flatMap_cons

theorem encode_append (first second : List (Atom code)) :
    encode (first ++ second) = encode first ++ encode second := flatMap_append

variable (code) [DecidableEq α]

/-- One scan from left to right; `fuel` bounds the lead symbols met. -/
def scan : Nat → List α → List α
  | 0, text => text
  | fuel + 1, text =>
    match takeRecord code.lead text with
    | none => text
    | some (before, tail) =>
      match takeRecord code.close tail with
      | none => before ++ code.lead :: scan fuel tail
      | some (body, rest) =>
        match code.symbol body with
        | some c => before ++ c :: scan fuel rest
        | none => before ++ code.lead :: scan fuel tail

def decode (text : List α) : List α := scan code text.length text

/-- A symbol read where no escape is. -/
def ofSymbol (c : α) : Atom code := if other : c ≠ code.lead then .plain c other else .bare

variable {code}

def Settled : List (Atom code) → Prop
  | [] => True
  | .bare :: atoms =>
    (∀ body rest, takeRecord code.close (encode atoms) = some (body, rest) →
      code.symbol body = none) ∧ Settled atoms
  | .plain _ _ :: atoms | .escape _ _ _ _ :: atoms => Settled atoms

@[simp] theorem ofSymbol_value (c : α) : (ofSymbol code c).value = c := by
  unfold ofSymbol
  split
  · rfl
  · rename_i same
    exact (not_not.mp same).symm

@[simp] theorem ofSymbol_encode (c : α) : (ofSymbol code c).encode = [c] := by
  unfold ofSymbol
  split
  · rfl
  · rename_i same
    rw [not_not.mp same]
    rfl

theorem scan_fuel {fuel : Nat} {text : List α} (enough : text.length ≤ fuel) :
    scan code fuel text = scan code (fuel + 1) text := by
  induction fuel generalizing text with
  | zero =>
    rw [eq_nil_of_length_eq_zero (Nat.le_zero.mp enough)]
    rfl
  | succ fuel ih =>
    rw [scan, scan]
    cases found : takeRecord code.lead text with
    | none => rfl
    | some split =>
      obtain ⟨before, tail⟩ := split
      have shorter := takeRecord_length found
      have same := @ih tail (by omega)
      dsimp only
      cases closed : takeRecord code.close tail with
      | none => rw [same]
      | some parts =>
        obtain ⟨body, rest⟩ := parts
        have least := takeRecord_length closed
        have same' := @ih rest (by omega)
        dsimp only
        cases code.symbol body with
        | none => dsimp only; rw [same]
        | some c => dsimp only; rw [same']

theorem scan_eq_decode {fuel : Nat} {text : List α} (enough : text.length ≤ fuel) : scan code fuel text = decode code text := by
  induction enough with
  | refl => rfl
  | step enough ih => rw [← scan_fuel enough, ih]

@[simp] theorem decode_nil : decode code [] = [] := rfl

theorem decode_cons_other {c : α} (other : c ≠ code.lead) (text : List α) : decode code (c :: text) = c :: decode code text := by
  have later : takeRecord code.lead (c :: text) = (takeRecord code.lead text).map fun split => (c :: split.1, split.2) := by
    unfold takeRecord
    rw [List.findIdx?_cons, if_neg (by simpa using other)]
    cases text.findIdx? (· == code.lead) <;> rfl
  have enough : scan code (text.length + 1) text = decode code text := scan_eq_decode (Nat.le_succ text.length)
  rw [← enough, decode, length_cons, scan, scan, later]
  cases takeRecord code.lead text with
  | none => rfl
  | some split =>
    dsimp only [Option.map_some]
    cases takeRecord code.close split.2 with
    | none => rfl
    | some parts =>
      dsimp only
      cases code.symbol parts.1 <;> rfl

theorem decode_lead (text : List α) : decode code (code.lead :: text) = match takeRecord code.close text with
    | none => code.lead :: decode code text
    | some (body, rest) =>
      match code.symbol body with
      | some c => c :: decode code rest
      | none => code.lead :: decode code text := by
  have first : takeRecord code.lead (code.lead :: text) = some ([], text) := takeRecord_append not_mem_nil
  rw [decode, length_cons, scan, first]
  dsimp only
  cases closed : takeRecord code.close text with
  | none => rfl
  | some parts =>
    obtain ⟨body, rest⟩ := parts
    have shorter := takeRecord_length closed
    dsimp only
    cases code.symbol body with
    | none => rfl
    | some c =>
      dsimp only
      rw [scan_eq_decode (by omega)]
      rfl

theorem decode_escape {body : List α} {c : α} (known : code.symbol body = some c) (closed : code.close ∉ body) (text : List α) :
    decode code (code.lead :: body ++ [code.close] ++ text) = c :: decode code text := by
  have found : takeRecord code.close (body ++ code.close :: text) = some (body, text) := takeRecord_append closed
  rw [append_assoc, cons_append, singleton_append, decode_lead, found]
  dsimp only
  rw [known]

theorem read_lead {more body rest : List α} (outside : code.lead ∉ body)
    (same : code.lead :: more = body ++ code.close :: rest) : False := by
  cases body with
  | nil => exact code.distinct (List.cons.inj same).1
  | cons d body => exact outside ((List.cons.inj same).1 ▸ mem_cons_self)

theorem read_plain {atoms : List (Atom code)} {body rest : List α} (outside : code.lead ∉ body)
    (read : takeRecord code.close (encode atoms) = some (body, rest)) :
    ∃ after : List (Atom code), rest = encode after ∧ atoms.map Atom.value = body ++ code.close :: after.map Atom.value ∧
      after.length < atoms.length := by
  obtain ⟨same, closed⟩ := takeRecord_some.mp read
  induction atoms generalizing body with
  | nil => simp at same
  | cons atom atoms ih =>
    cases atom with
    | plain c other =>
      cases body with
      | nil =>
        obtain ⟨rfl, rfl⟩ : c = code.close ∧ encode atoms = rest := by
          simpa [Atom.encode] using same
        exact ⟨atoms, rfl, rfl, Nat.lt_succ_self _⟩
      | cons d body =>
        obtain ⟨rfl, tails⟩ : c = d ∧ encode atoms = body ++ code.close :: rest := by
          simpa [Atom.encode] using same
        have away : code.close ∉ body := fun member => closed (mem_cons_of_mem c member)
        obtain ⟨after, left, values, shorter⟩ := ih (fun member => outside (mem_cons_of_mem c member))
            (takeRecord_some.mpr ⟨tails, away⟩) tails away
        exact ⟨after, left, by simp [values, Atom.value], Nat.lt_succ_of_lt shorter⟩
    | escape _ _ _ _ => exact (read_lead outside same).elim
    | bare => exact (read_lead outside same).elim

theorem decode_encode {atoms : List (Atom code)} (settled : Settled atoms) :
    decode code (encode atoms) = atoms.map Atom.value := by
  induction atoms with
  | nil => rfl
  | cons atom atoms ih =>
    rw [encode_cons, map_cons]
    cases atom with
    | plain c other =>
      rw [Atom.encode, singleton_append, decode_cons_other other, ih settled]
      rfl
    | escape body c known closed =>
      rw [Atom.encode, decode_escape known closed, ih settled]
      rfl
    | bare =>
      obtain ⟨unread, settled⟩ := settled
      rw [Atom.encode, singleton_append, decode_lead, ih settled]
      cases read : takeRecord code.close (encode atoms) with
      | none => rfl
      | some parts =>
        dsimp only
        rw [unread parts.1 parts.2 read]
        rfl

theorem decode_countP {p : α → Bool} (lead : p code.lead = true) (close : p code.close = true) (atoms : List (Atom code)) :
    (decode code (encode atoms)).countP p ≤ (atoms.map Atom.value).countP p ∧
      ((decode code (encode atoms)).countP p = (atoms.map Atom.value).countP p → Settled atoms) := by
  induction length : atoms.length using Nat.strongRecOn generalizing atoms with
  | _ n ih =>
    cases atoms with
    | nil => exact ⟨Nat.le_refl _, fun _ => trivial⟩
    | cons atom atoms =>
      obtain ⟨fewer, settled⟩ := ih atoms.length (by simp at length; omega) atoms rfl
      rw [encode_cons, map_cons, countP_cons]
      cases atom with
      | plain c other =>
        rw [Atom.encode, singleton_append, decode_cons_other other, countP_cons]
        exact ⟨Nat.add_le_add_right fewer _, fun same => settled (Nat.add_right_cancel same)⟩
      | escape body c known closed =>
        rw [Atom.encode, decode_escape known closed, countP_cons]
        exact ⟨Nat.add_le_add_right fewer _, fun same => settled (Nat.add_right_cancel same)⟩
      | bare =>
        have kept : (decode code (code.lead :: encode atoms) = code.lead :: decode code (encode atoms) ∧
            ∀ body rest, takeRecord code.close (encode atoms) = some (body, rest) → code.symbol body = none) ∨
            (decode code (code.lead :: encode atoms)).countP p < (atoms.map Atom.value).countP p + 1 := by
          rw [decode_lead]
          cases read : takeRecord code.close (encode atoms) with
          | none => exact .inl ⟨rfl, by simp⟩
          | some parts =>
            obtain ⟨body, rest⟩ := parts
            dsimp only
            cases known : code.symbol body with
            | none =>
              refine .inl ⟨rfl, fun body' rest' same => ?_⟩
              cases same
              exact known
            | some c =>
              obtain ⟨after, rfl, values, shorter⟩ := read_plain (code.lead_outside body (by simp [known])) read
              have others := (ih after.length (by simp at length; omega) after rfl).1
              right
              rw [values, countP_append, countP_cons, countP_cons, if_pos close]
              split <;> omega
        rw [Atom.encode, singleton_append, Atom.value, if_pos lead]
        rcases kept with ⟨same, unread⟩ | lost
        · rw [same, countP_cons, if_pos lead]
          exact ⟨Nat.add_le_add_right fewer _, fun equal => ⟨unread, settled (Nat.add_right_cancel equal)⟩⟩
        · exact ⟨Nat.le_of_lt lost, fun equal => absurd equal (Nat.ne_of_lt lost)⟩

end Escapes
