import Mathlib.Data.List.Lemmas
import Mathlib.Data.List.Nodup
import Mathlib.Data.List.Flatten
import Mathlib.Data.List.Lex
import Mathlib.Data.List.Perm.Subperm
import Mathlib.Logic.Relation

namespace Forest

open List

variable {κ : Type*} (parent : κ → Option κ)

/-- `k` is `d` steps below its root. -/
inductive Distance : κ → Nat → Prop where
  | root {k : κ} (top : parent k = none) : Distance k 0
  | child {k p : κ} {d : Nat} (below : parent k = some p) (above : Distance p d) : Distance k (d + 1)

/-- `p` is the parent of `k`. -/
def Below (k p : κ) : Prop := parent k = some p

def Acyclic (nodes : List κ) : Prop := ∀ k ∈ nodes, ¬ Relation.TransGen (Below parent) k k

def Closed (nodes : List κ) : Prop := ∀ k ∈ nodes, ∀ p, parent k = some p → p ∈ nodes

variable {parent}

theorem Closed.above {nodes : List κ} (closed : Closed parent nodes) {k p : κ} (member : k ∈ nodes)
    (chain : Relation.ReflTransGen (Below parent) k p) : p ∈ nodes := by
  induction chain with
  | refl => exact member
  | tail _ below ih => exact closed _ ih _ below

theorem Distance.unique {k : κ} {d e : Nat} (first : Distance parent k d) (second : Distance parent k e) : d = e := by
  induction first generalizing e with
  | root top =>
    cases second with
    | root => rfl
    | child below => cases top.symm.trans below
  | child below above ih =>
    cases second with
    | root top => cases top.symm.trans below
    | child below' above' =>
      cases below.symm.trans below'
      rw [ih above']

theorem Distance.of_chain {k p : κ} {d : Nat} (distance : Distance parent k d)
    (chain : Relation.TransGen (Below parent) k p) : ∃ e < d, Distance parent p e := by
  induction chain using Relation.TransGen.head_induction_on generalizing d with
  | single below =>
    cases distance with
    | root top => cases top.symm.trans below
    | child below' above =>
      cases Option.some.inj (below.symm.trans below')
      exact ⟨_, Nat.lt_succ_self _, above⟩
  | head below _ ih =>
    cases distance with
    | root top => cases top.symm.trans below
    | child below' above =>
      cases Option.some.inj (below.symm.trans below')
      obtain ⟨e, smaller, there⟩ := ih above
      exact ⟨e, by omega, there⟩

theorem Distance.not_cycle {k : κ} {d : Nat} (distance : Distance parent k d) : ¬ Relation.TransGen (Below parent) k k := by
  intro cycle
  obtain ⟨e, smaller, there⟩ := distance.of_chain cycle
  have same := distance.unique there
  omega

theorem Distance.lt_length {nodes : List κ} (closed : Closed parent nodes) {k : κ} {d : Nat}
    (distance : Distance parent k d) (member : k ∈ nodes) : d < nodes.length := by
  have chain : ∃ path : List κ, path.length = d + 1 ∧ path.Nodup ∧ path ⊆ nodes ∧ ∀ x ∈ path, ∃ e ≤ d, Distance parent x e := by
    induction distance with
    | @root k top =>
      refine ⟨[k], rfl, nodup_singleton k, by simpa using member, fun x there => ?_⟩
      rw [mem_singleton.mp there]
      exact ⟨0, le_refl 0, .root top⟩
    | @child k p d below above ih =>
      obtain ⟨path, length, distinct, inside, near⟩ := ih (closed k member p below)
      refine ⟨k :: path, by simp [length], ?_, ?_, fun x there => ?_⟩
      · refine nodup_cons.mpr ⟨fun again => ?_, distinct⟩
        obtain ⟨e, bound, there⟩ := near k again
        have same := there.unique (.child below above)
        omega
      · exact cons_subset.mpr ⟨member, inside⟩
      · rcases mem_cons.mp there with rfl | there
        · exact ⟨d + 1, le_refl _, .child below above⟩
        · obtain ⟨e, bound, there⟩ := near x there
          exact ⟨e, by omega, there⟩
  obtain ⟨path, length, distinct, inside, -⟩ := chain
  have bound := (distinct.subperm inside).length_le
  omega

/-! ### Following a chain with the nodes it has seen -/

section Follow

variable [DecidableEq κ]

variable (parent) in
/-- The node at which the chain from `k` meets one it has `seen`; `fuel` bounds its length. -/
def closes : Nat → List κ → κ → Option κ
  | 0, _, k => some k
  | fuel + 1, seen, k =>
    if k ∈ seen then some k
    else
      match parent k with
      | none => none
      | some p => closes fuel (k :: seen) p

theorem distance_of_closes {fuel : Nat} {seen : List κ} {k : κ}
    (ends : closes parent fuel seen k = none) : ∃ d, Distance parent k d := by
  induction fuel generalizing seen k with
  | zero => cases ends
  | succ fuel ih =>
    unfold closes at ends
    split at ends
    · cases ends
    · split at ends
      · rename_i top
        exact ⟨0, .root top⟩
      · rename_i p below
        obtain ⟨d, above⟩ := ih ends
        exact ⟨d + 1, .child below above⟩

theorem closes_of_distance {fuel d : Nat} {seen : List κ} {k : κ} (distance : Distance parent k d)
    (enough : d < fuel) (farther : ∀ s ∈ seen, ∃ e > d, Distance parent s e) :
    closes parent fuel seen k = none := by
  induction distance generalizing fuel seen with
  | @root k top =>
    obtain ⟨fuel, rfl⟩ : ∃ rest, fuel = rest + 1 := ⟨fuel - 1, by omega⟩
    have fresh : k ∉ seen := by
      intro again
      obtain ⟨e, far, there⟩ := farther k again
      have same := there.unique (.root top)
      omega
    unfold closes
    rw [if_neg fresh, top]
  | @child k p d below above ih =>
    obtain ⟨fuel, rfl⟩ : ∃ rest, fuel = rest + 1 := ⟨fuel - 1, by omega⟩
    have fresh : k ∉ seen := by
      intro again
      obtain ⟨e, far, there⟩ := farther k again
      have same := there.unique (.child below above)
      omega
    unfold closes
    rw [if_neg fresh, below]
    refine ih (by omega) fun s there => ?_
    rcases mem_cons.mp there with rfl | there
    · exact ⟨d + 1, by omega, .child below above⟩
    · obtain ⟨e, far, there⟩ := farther s there
      exact ⟨e, by omega, there⟩

theorem cycle_of_closes {nodes : List κ} (closed : Closed parent nodes) {fuel : Nat} {seen : List κ}
    {k t : κ} (member : k ∈ nodes) (distinct : seen.Nodup) (inside : seen ⊆ nodes)
    (chains : ∀ s ∈ seen, Relation.TransGen (Below parent) s k)
    (enough : nodes.length < fuel + seen.length) (meets : closes parent fuel seen k = some t) :
    ∃ s ∈ nodes, Relation.TransGen (Below parent) s s := by
  induction fuel generalizing seen k with
  | zero =>
    have bound := (distinct.subperm inside).length_le
    omega
  | succ fuel ih =>
    unfold closes at meets
    split at meets
    · rename_i again
      exact ⟨k, member, chains k again⟩
    · rename_i fresh
      split at meets
      · cases meets
      · rename_i p below
        refine ih (closed k member p below) (nodup_cons.mpr ⟨fresh, distinct⟩)
          (cons_subset.mpr ⟨member, inside⟩) (fun s there => ?_) ?_ meets
        · rcases mem_cons.mp there with rfl | there
          · exact .single below
          · exact (chains s there).tail below
        · rw [length_cons]
          omega

theorem acyclic_iff_closes {nodes : List κ} (closed : Closed parent nodes) :
    Acyclic parent nodes ↔ ∀ k ∈ nodes, closes parent (nodes.length + 1) [] k = none := by
  constructor
  · intro acyclic k member
    cases meets : closes parent (nodes.length + 1) [] k with
    | none => rfl
    | some t =>
      obtain ⟨s, there, cycle⟩ := cycle_of_closes closed member nodup_nil
        (nil_subset nodes) (fun s none => nomatch none) (Nat.lt_succ_self _) meets
      exact absurd cycle (acyclic s there)
  · intro ends k member
    obtain ⟨d, distance⟩ := distance_of_closes (ends k member)
    exact distance.not_cycle

theorem acyclic_iff_distance {nodes : List κ} (closed : Closed parent nodes) :
    Acyclic parent nodes ↔ ∀ k ∈ nodes, ∃ d, Distance parent k d := by
  rw [acyclic_iff_closes closed]
  refine forall₂_congr fun k member => ⟨distance_of_closes, fun ⟨d, distance⟩ => ?_⟩
  exact closes_of_distance distance (Nat.lt_succ_of_lt (distance.lt_length closed member)) fun s none => nomatch none

end Follow

/-! ### Walking a forest -/

section Walk

variable (parent) in
inductive Visible (nodes : List κ) (shows opens : κ → Prop) : κ → Prop where
  | root {k : κ} (member : k ∈ nodes) (top : parent k = none) (shown : shows k) :
    Visible nodes shows opens k
  | child {k p : κ} (member : k ∈ nodes) (below : parent k = some p)
    (above : Visible nodes shows opens p) (opened : opens p) (shown : shows k) :
    Visible nodes shows opens k

section Visible

variable {nodes : List κ} {shows opens : κ → Prop}

variable {k : κ}

theorem Visible.member (visible : Visible parent nodes shows opens k) : k ∈ nodes := by
  cases visible with
  | root member => exact member
  | child member => exact member

theorem Visible.shown (visible : Visible parent nodes shows opens k) : shows k := by
  cases visible with
  | root _ _ shown => exact shown
  | child _ _ _ _ shown => exact shown

theorem Visible.above {k p : κ} (visible : Visible parent nodes shows opens k)
    (below : parent k = some p) : Visible parent nodes shows opens p ∧ opens p := by
  cases visible with
  | root _ top => cases top.symm.trans below
  | child _ below' above opened =>
    cases below.symm.trans below'
    exact ⟨above, opened⟩

theorem Visible.of_chain {k p : κ} (visible : Visible parent nodes shows opens k)
    (chain : Relation.ReflTransGen (Below parent) k p) : Visible parent nodes shows opens p := by
  induction chain with
  | refl => exact visible
  | tail _ below ih => exact (ih.above below).1

theorem Visible.mono {shows' opens' : κ → Prop} (shown : ∀ k, shows k → shows' k)
    (opened : ∀ k, opens k → opens' k) (visible : Visible parent nodes shows opens k) :
    Visible parent nodes shows' opens' k := by
  induction visible with
  | root member top here => exact .root member top (shown _ here)
  | child member below _ opens here ih => exact .child member below ih (opened _ opens) (shown _ here)

theorem Visible.top (visible : Visible parent nodes shows opens k) : ∃ r ∈ nodes, parent r = none ∧ shows r := by
  induction visible with
  | root member top here => exact ⟨_, member, top, here⟩
  | child _ _ _ _ _ ih => exact ih

theorem visible_of_above (closed : Closed parent nodes) {d : Nat} (distance : Distance parent k d)
    (member : k ∈ nodes) (shown : ∀ a, Relation.ReflTransGen (Below parent) k a → shows a)
    (opened : ∀ a, Relation.TransGen (Below parent) k a → opens a) :
    Visible parent nodes shows opens k := by
  induction distance with
  | root top => exact .root member top (shown _ .refl)
  | child below _ ih =>
    have above := ih (closed _ member _ below) (fun a chain => shown a (.head below chain))
      fun a chain => opened a (.head below chain)
    exact .child member below above (opened _ (.single below)) (shown _ .refl)

end Visible

variable (parent) in
/-- The places of the nodes from the root down to `k`. -/
inductive Path (place : κ → Nat) : κ → List Nat → Prop where
  | root {k : κ} (top : parent k = none) : Path place k [place k]
  | child {k p : κ} {path : List Nat} (below : parent k = some p) (above : Path place p path) :
    Path place k (path ++ [place k])

variable {place : κ → Nat} {k : κ}

theorem Path.unique {first second : List Nat} (one : Path parent place k first)
    (other : Path parent place k second) : first = second := by
  induction one generalizing second with
  | root top =>
    cases other with
    | root => rfl
    | child below => cases top.symm.trans below
  | child below above ih =>
    cases other with
    | root top => cases top.symm.trans below
    | child below' above' =>
      cases Option.some.inj (below.symm.trans below')
      rw [ih above']

variable (parent) in
/-- `x` comes before `y` in preorder: above it, or under an earlier sibling. -/
def Precedes (place : κ → Nat) (x y : κ) : Prop :=
  ∃ first second, Path parent place x first ∧ Path parent place y second ∧ first < second

variable {x y : κ}

theorem Precedes.ne (precedes : Precedes parent place x y) : x ≠ y := by
  rintro rfl
  obtain ⟨first, second, one, other, before⟩ := precedes
  rw [one.unique other] at before
  exact lt_irrefl _ before

theorem path_lt_append (path : List Nat) {first second : List Nat} (before : first < second) :
    path ++ first < path ++ second := by
  induction path with
  | nil => exact before
  | cons n path ih => exact List.Lex.cons ih

theorem Distance.path {d : Nat} (distance : Distance parent k d) : ∃ path, Path parent place k path := by
  induction distance with
  | root top => exact ⟨_, .root top⟩
  | child below _ ih =>
    obtain ⟨path, above⟩ := ih
    exact ⟨_, .child below above⟩

theorem precedes_of_below {k p : κ} {d : Nat} (distance : Distance parent p d)
    (below : parent k = some p) : Precedes parent place p k := by
  obtain ⟨path, above⟩ := distance.path
  refine ⟨_, _, above, .child below above, ?_⟩
  have after : path ++ [] < path ++ [place k] := path_lt_append path List.Lex.nil
  rw [append_nil] at after
  exact after

theorem precedes_of_siblings {d : Nat} (distance : Distance parent x d)
    (siblings : parent x = parent y) (before : place x < place y) : Precedes parent place x y := by
  cases distance with
  | root top => exact ⟨_, _, .root top, .root (siblings.symm.trans top), List.Lex.rel before⟩
  | child below above =>
    obtain ⟨path, upper⟩ := above.path
    refine ⟨_, _, .child below upper, .child (siblings.symm.trans below) upper, ?_⟩
    exact path_lt_append path (List.Lex.rel before)

theorem Precedes.asymm (precedes : Precedes parent place x y) : ¬ Precedes parent place y x := by
  rintro ⟨second', first', other', one', after⟩
  obtain ⟨first, second, one, other, before⟩ := precedes
  rw [other'.unique other, one'.unique one] at after
  exact lt_asymm before after

theorem Precedes.idxOf_lt [DecidableEq κ] {listed : List κ} (precedes : Precedes parent place x y)
    (order : listed.Pairwise (Precedes parent place)) (first : x ∈ listed) (second : y ∈ listed) :
    listed.idxOf x < listed.idxOf y := by
  have left := idxOf_lt_length_of_mem first
  have right := idxOf_lt_length_of_mem second
  rcases Nat.lt_trichotomy (listed.idxOf x) (listed.idxOf y) with before | same | after
  · exact before
  · have equal : x = y := by
      rw [← getElem_idxOf left, ← getElem_idxOf right]
      simp only [same]
    exact absurd equal precedes.ne
  · have reversed := pairwise_iff_getElem.mp order _ _ right left after
    rw [getElem_idxOf, getElem_idxOf] at reversed
    exact absurd reversed precedes.asymm

variable [DecidableEq κ] {nodes : List κ} {shows opens : κ → Bool}

variable (parent) in
/-- The nodes below `k`, in node order. -/
def children (nodes : List κ) (k : κ) : List κ := nodes.filter (parent · = some k)

variable (parent) in
def roots (nodes : List κ) : List κ := nodes.filter (parent · = none)

/-- `k` and what is listed below it: a node that is not shown hides what is below it, and so does
    one that is not open. -/
def walk (below : κ → List κ) (shows opens : κ → Bool) : Nat → κ → List κ
  | 0, _ => []
  | fuel + 1, k =>
    if shows k then
      k :: (if opens k then (below k).flatMap (walk below shows opens fuel) else [])
    else []

/-- Whether anything below `k` meets `meets`. -/
def under (below : κ → List κ) (meets : κ → Bool) : Nat → κ → Bool
  | 0, _ => false
  | fuel + 1, k => (below k).any fun c => meets c || under below meets fuel c

theorem under_iff (closed : Closed parent nodes) {meets : κ → Bool} {fuel d : Nat}
    (distance : Distance parent k d) (member : k ∈ nodes) (enough : nodes.length ≤ fuel + d) :
    under (children parent nodes) meets fuel k = true ↔ ∃ x ∈ nodes, Relation.TransGen (Below parent) x k ∧ meets x = true := by
  induction fuel generalizing k d with
  | zero =>
    have bound := distance.lt_length closed member
    omega
  | succ fuel ih =>
    unfold under
    rw [any_eq_true]
    constructor
    · rintro ⟨c, child, met⟩
      obtain ⟨inside, below⟩ := mem_filter.mp child
      have below : parent c = some k := by simpa using below
      rcases Bool.or_eq_true _ _ ▸ met with here | deeper
      · exact ⟨c, inside, .single below, here⟩
      · obtain ⟨x, there, chain, met⟩ := (ih (.child below distance) inside (by omega)).mp deeper
        exact ⟨x, there, chain.tail below, met⟩
    · rintro ⟨x, there, chain, met⟩
      have last : ∃ c, Relation.ReflTransGen (Below parent) x c ∧ parent c = some k := Relation.TransGen.tail'_iff.mp chain
      obtain ⟨c, upper, below⟩ := last
      have inside : c ∈ nodes := closed.above there upper
      refine ⟨c, mem_filter.mpr ⟨inside, by simpa using below⟩, ?_⟩
      rw [Bool.or_eq_true]
      rcases Relation.reflTransGen_iff_eq_or_transGen.mp upper with rfl | deeper
      · exact Or.inl met
      · exact Or.inr ((ih (.child below distance) inside (by omega)).mpr ⟨x, there, deeper, met⟩)

theorem mem_walk (closed : Closed parent nodes) {fuel d : Nat} {k x : κ}
    (distance : Distance parent k d) (visible : Visible parent nodes (shows ·) (opens ·) k)
    (enough : nodes.length ≤ fuel + d) :
    x ∈ walk (children parent nodes) shows opens fuel k ↔
      Visible parent nodes (shows ·) (opens ·) x ∧ Relation.ReflTransGen (Below parent) x k := by
  induction fuel generalizing k d with
  | zero =>
    have bound := distance.lt_length closed visible.member
    omega
  | succ fuel ih =>
    unfold walk
    rw [if_pos visible.shown, mem_cons]
    constructor
    · rintro (rfl | later)
      · exact ⟨visible, .refl⟩
      · split at later
        · rename_i opened
          obtain ⟨c, child, there⟩ := mem_flatMap.mp later
          obtain ⟨member, below⟩ := mem_filter.mp child
          have below : parent c = some k := by simpa using below
          cases shown : shows c with
          | false =>
            unfold walk at there
            split at there
            · cases there
            · rw [shown, if_neg Bool.false_ne_true] at there
              cases there
          | true =>
            have under := (ih (.child below distance) (.child member below visible opened shown) (by omega)).mp there
            exact ⟨under.1, under.2.tail below⟩
        · cases later
    · rintro ⟨under, chain⟩
      rcases Relation.ReflTransGen.cases_tail chain with rfl | ⟨c, upper, below⟩
      · exact Or.inl rfl
      · right
        have there := under.of_chain upper
        obtain ⟨-, opened⟩ := there.above below
        rw [if_pos opened]
        refine mem_flatMap.mpr ⟨c, ?_, ?_⟩
        · have parented : parent c = some k := below
          exact mem_filter.mpr ⟨there.member, by simpa using parented⟩
        · exact (ih (.child below distance) there (by omega)).mpr ⟨under, upper⟩

theorem mem_walks (closed : Closed parent nodes) (acyclic : Acyclic parent nodes) {x : κ} :
    x ∈ (roots parent nodes).flatMap (walk (children parent nodes) shows opens nodes.length) ↔
      Visible parent nodes (shows ·) (opens ·) x := by
  rw [mem_flatMap]
  constructor
  · rintro ⟨k, top, there⟩
    obtain ⟨member, top⟩ := mem_filter.mp top
    have top : parent k = none := by simpa using top
    cases shown : shows k with
    | false =>
      unfold walk at there
      split at there
      · cases there
      · rw [shown, if_neg Bool.false_ne_true] at there
        cases there
    | true =>
      exact ((mem_walk closed (.root top) (.root member top shown) (le_refl _)).mp there).1
  · intro visible
    obtain ⟨d, distance⟩ := (acyclic_iff_distance closed).mp acyclic x visible.member
    have tops : ∃ k, parent k = none ∧ Relation.ReflTransGen (Below parent) x k := by
      clear visible
      induction distance with
      | root top => exact ⟨_, top, .refl⟩
      | child below _ ih =>
        obtain ⟨k, top, chain⟩ := ih
        exact ⟨k, top, .head below chain⟩
    obtain ⟨k, top, chain⟩ := tops
    have visibleTop := visible.of_chain chain
    refine ⟨k, mem_filter.mpr ⟨visibleTop.member, by simpa using top⟩, ?_⟩
    exact (mem_walk closed (.root top) visibleTop (le_refl _)).mpr ⟨visible, chain⟩

/-! ### The order of a walk -/

theorem walk_preorder (distinct : nodes.Pairwise fun x y => place x < place y) {fuel : Nat}
    {path : List Nat} (here : Path parent place k path) :
    (walk (children parent nodes) shows opens fuel k).Pairwise (Precedes parent place) ∧
      ∀ x ∈ walk (children parent nodes) shows opens fuel k, ∃ rest, Path parent place x (path ++ rest) := by
  induction fuel generalizing k path with
  | zero => exact ⟨List.Pairwise.nil, fun x none => nomatch none⟩
  | succ fuel ih =>
    have under : ∀ c ∈ children parent nodes k, Path parent place c (path ++ [place c]) := by
      intro c child
      have below : parent c = some k := by simpa using (mem_filter.mp child).2
      exact .child below here
    unfold walk
    split
    · split
      · have later : ∀ x ∈ (children parent nodes k).flatMap (walk (children parent nodes) shows opens fuel),
            ∃ c ∈ children parent nodes k, ∃ rest, Path parent place x (path ++ ([place c] ++ rest)) := by
          intro x there
          obtain ⟨c, child, there⟩ := mem_flatMap.mp there
          obtain ⟨rest, path⟩ := (ih (under c child)).2 x there
          exact ⟨c, child, rest, by simpa using path⟩
        refine ⟨pairwise_cons.mpr ⟨fun x there => ?_, ?_⟩, fun x there => ?_⟩
        · obtain ⟨c, -, rest, longer⟩ := later x there
          refine ⟨_, _, here, longer, ?_⟩
          have after : path ++ [] < path ++ ([place c] ++ rest) := path_lt_append path List.Lex.nil
          rw [append_nil] at after
          exact after
        · refine pairwise_flatMap.mpr ⟨fun c child => (ih (under c child)).1, ?_⟩
          refine (distinct.filter _).imp_of_mem fun {c d} child other earlier x first y second => ?_
          obtain ⟨left, leftPath⟩ := (ih (under c child)).2 x first
          obtain ⟨right, rightPath⟩ := (ih (under d other)).2 y second
          refine ⟨_, _, leftPath, rightPath, ?_⟩
          rw [append_assoc, append_assoc]
          exact path_lt_append path (List.Lex.rel earlier)
        · rcases mem_cons.mp there with rfl | there
          · exact ⟨[], by simpa using here⟩
          · obtain ⟨c, -, rest, path⟩ := later x there
            exact ⟨_, path⟩
      · refine ⟨pairwise_singleton _ _, fun x there => ?_⟩
        rw [mem_singleton.mp there]
        exact ⟨[], by simpa using here⟩
    · exact ⟨List.Pairwise.nil, fun x none => nomatch none⟩

theorem walks_preorder (distinct : nodes.Pairwise fun x y => place x < place y) (fuel : Nat) :
    ((roots parent nodes).flatMap (walk (children parent nodes) shows opens fuel)).Pairwise (Precedes parent place) := by
  have top : ∀ k ∈ roots parent nodes, Path parent place k [place k] := by
    intro k member
    exact .root (by simpa using (mem_filter.mp member).2)
  refine pairwise_flatMap.mpr ⟨fun k root => (walk_preorder distinct (top k root)).1, ?_⟩
  refine (distinct.filter _).imp_of_mem fun {c d} root other earlier x first y second => ?_
  obtain ⟨left, leftPath⟩ := (walk_preorder distinct (top c root)).2 x first
  obtain ⟨right, rightPath⟩ := (walk_preorder distinct (top d other)).2 y second
  exact ⟨_, _, leftPath, rightPath, List.Lex.rel earlier⟩

end Walk

/-! ### Two forests alike -/

section Alike

variable {κ' : Type*} {parent' : κ' → Option κ'} {R : κ → κ' → Prop}

def Alike (parent : κ → Option κ) (parent' : κ' → Option κ') (R : κ → κ' → Prop) : Prop :=
  ∀ k k', R k k' → Option.Rel R (parent k) (parent' k')

variable {k' : κ'} {k : κ}

theorem Alike.top (alike : Alike parent parent' R) (related : R k k') (top : parent k = none) : parent' k' = none := by
  have parents := alike k k' related
  rw [top] at parents
  cases found : parent' k' with
  | none => rfl
  | some p' =>
    rw [found] at parents
    cases parents

theorem Alike.below (alike : Alike parent parent' R) {k p : κ} (related : R k k')
    (below : parent k = some p) : ∃ p', parent' k' = some p' ∧ R p p' := by
  have parents := alike k k' related
  rw [below] at parents
  cases found : parent' k' with
  | none =>
    rw [found] at parents
    cases parents
  | some p' =>
    rw [found] at parents
    cases parents with
    | some above => exact ⟨p', rfl, above⟩

theorem Alike.swap (alike : Alike parent parent' R) : Alike parent' parent (Function.swap R) := by
  intro k' k related
  have parents := alike k k' related
  cases one : parent k <;> cases other : parent' k' <;> rw [one, other] at parents
  · exact .none
  · cases parents
  · cases parents
  · cases parents with
    | some above => exact .some above

theorem Distance.alike (alike : Alike parent parent' R) {d : Nat} (distance : Distance parent k d)
    (related : R k k') : Distance parent' k' d := by
  induction distance generalizing k' with
  | root top => exact .root (alike.top related top)
  | child below _ ih =>
    obtain ⟨p', below', above⟩ := alike.below related below
    exact .child below' (ih above)

theorem Path.alike (alike : Alike parent parent' R) {place : κ → Nat} {place' : κ' → Nat}
    (places : ∀ k k', R k k' → place k = place' k') {path : List Nat}
    (here : Path parent place k path) (related : R k k') :
    Path parent' place' k' path := by
  induction here generalizing k' with
  | root top =>
    rw [places _ _ related]
    exact .root (alike.top related top)
  | child below _ ih =>
    obtain ⟨p', below', above⟩ := alike.below related below
    rw [places _ _ related]
    exact .child below' (ih above)

theorem Precedes.alike (alike : Alike parent parent' R) {place : κ → Nat} {place' : κ' → Nat}
    (places : ∀ k k', R k k' → place k = place' k') {x y : κ} (precedes : Precedes parent place x y)
    {x' y' : κ'} (first : R x x') (second : R y y') : Precedes parent' place' x' y' := by
  obtain ⟨one, other, left, right, before⟩ := precedes
  exact ⟨one, other, left.alike alike places first, right.alike alike places second, before⟩

theorem Visible.alike (alike : Alike parent parent' R) {nodes : List κ} {nodes' : List κ'}
    {shows opens : κ → Prop} {shows' opens' : κ' → Prop}
    (members : ∀ k k', R k k' → k ∈ nodes → k' ∈ nodes')
    (shown : ∀ k k', R k k' → shows k → shows' k') (opened : ∀ k k', R k k' → opens k → opens' k')
    (visible : Visible parent nodes shows opens k) (related : R k k') :
    Visible parent' nodes' shows' opens' k' := by
  induction visible generalizing k' with
  | root member top here =>
    exact .root (members _ _ related member) (alike.top related top) (shown _ _ related here)
  | child member below _ opens here ih =>
    obtain ⟨p', below', above⟩ := alike.below related below
    exact .child (members _ _ related member) below' (ih above) (opened _ _ above opens) (shown _ _ related here)

theorem Alike.chain (alike : Alike parent parent' R) {k p : κ}
    (chain : Relation.TransGen (Below parent) k p) (related : R k k') :
    ∃ p', Relation.TransGen (Below parent') k' p' ∧ R p p' := by
  induction chain with
  | single below =>
    obtain ⟨p', below', above⟩ := alike.below related below
    exact ⟨p', .single below', above⟩
  | tail _ below ih =>
    obtain ⟨q', chain', there⟩ := ih
    obtain ⟨p', below', above⟩ := alike.below there below
    exact ⟨p', chain'.tail below', above⟩

end Alike

/-! ### A stack loop over a forest -/

section Sweep

variable {α : Type*}

def sweep (pushes : κ → List κ) (next : α → α) : Nat → List (κ × α) → List (κ × α)
  | 0, _ | _, [] => []
  | fuel + 1, (k, a) :: rest =>
    (k, a) :: sweep pushes next fuel ((pushes k).map (·, next a) ++ rest)

variable {nodes : List κ} {pushes : κ → List κ} {next : α → α}

/-- The nodes taken so far and those on the stack: each once, and none before its parent. -/
structure Sweeping (parent : κ → Option κ) (nodes taken stack : List κ) : Prop where
  distinct : (taken ++ stack).Nodup
  inside : taken ++ stack ⊆ nodes
  behind : ∀ c ∈ taken ++ stack, ∀ p, parent c = some p → p ∈ taken
  roots : ∀ k ∈ nodes, parent k = none → k ∈ taken ++ stack
  pushed : ∀ p ∈ taken, ∀ c ∈ nodes, parent c = some p → c ∈ taken ++ stack

def Pushes (parent : κ → Option κ) (nodes : List κ) (pushes : κ → List κ) : Prop :=
  ∀ k ∈ nodes, (pushes k).Nodup ∧ ∀ c, c ∈ pushes k ↔ c ∈ nodes ∧ parent c = some k

theorem Sweeping.take (children : Pushes parent nodes pushes) {taken stack : List κ} {k : κ}
    (sweeping : Sweeping parent nodes taken (k :: stack)) :
    Sweeping parent nodes (taken ++ [k]) (pushes k ++ stack) := by
  have member : k ∈ nodes := sweeping.inside (by simp)
  obtain ⟨distinct, under⟩ := children k member
  have before : (taken ++ [k] ++ stack).Nodup := by simpa using sweeping.distinct
  have fresh : ∀ c ∈ pushes k, c ∉ taken ++ [k] ++ stack := by
    intro c pushed again
    have early := sweeping.behind c (by simpa using again) k ((under c).mp pushed).2
    have later := nodup_append.mp sweeping.distinct
    exact later.2.2 k early k mem_cons_self rfl
  refine ⟨?_, ?_, ?_, ?_, ?_⟩
  · have perm : (taken ++ [k] ++ (pushes k ++ stack)).Perm (pushes k ++ (taken ++ [k] ++ stack)) := perm_append_comm_assoc _ _ _
    rw [perm.nodup_iff]
    refine nodup_append.mpr ⟨distinct, before, fun c pushed other there => ?_⟩
    rintro rfl
    exact fresh c pushed there
  · intro c there
    rcases mem_append.mp there with early | late
    · exact sweeping.inside (by simp at early ⊢; tauto)
    · rcases mem_append.mp late with pushed | late
      · exact ((under c).mp pushed).1
      · exact sweeping.inside (by simp [late])
  · intro c there p below
    rcases mem_append.mp there with early | late
    · have known := sweeping.behind c (by simp at early ⊢; tauto) p below
      exact mem_append_left _ known
    · rcases mem_append.mp late with pushed | late
      · cases below.symm.trans ((under c).mp pushed).2
        simp
      · have known := sweeping.behind c (by simp [late]) p below
        exact mem_append_left _ known
  · intro c inside top
    have known := sweeping.roots c inside top
    simp at known ⊢
    tauto
  · intro p taken c inside below
    rcases mem_append.mp taken with early | last
    · have known := sweeping.pushed p early c inside below
      simp at known ⊢
      tauto
    · rw [mem_singleton.mp last] at below
      have pushed := (under c).mpr ⟨inside, below⟩
      simp [pushed]

theorem Sweeping.run (children : Pushes parent nodes pushes) {fuel : Nat} {taken : List κ}
    {stack : List (κ × α)} (sweeping : Sweeping parent nodes taken (stack.map (·.1)))
    (enough : nodes.length ≤ fuel + taken.length) :
    Sweeping parent nodes (taken ++ (sweep pushes next fuel stack).map (·.1)) [] := by
  induction fuel generalizing taken stack with
  | zero =>
    have bound := (sweeping.distinct.subperm sweeping.inside).length_le
    have empty : stack = [] := by
      rw [length_append, length_map] at bound
      exact length_eq_zero_iff.mp (by omega)
    rw [empty] at sweeping ⊢
    simpa [sweep] using sweeping
  | succ fuel ih =>
    cases stack with
    | nil => simpa [sweep] using sweeping
    | cons item rest =>
      obtain ⟨k, a⟩ := item
      have took := Sweeping.take children sweeping
      have pushed : ((pushes k).map (·, next a) ++ rest).map (·.1) = pushes k ++ rest.map (·.1) := by
        simp [Function.comp_def]
      rw [← pushed] at took
      have done := ih took (by rw [length_append, length_singleton]; omega)
      simpa [sweep] using done

theorem Sweeping.complete (closed : Closed parent nodes) (rooted : ∀ k ∈ nodes, ∃ d, Distance parent k d) {taken : List κ}
    (done : Sweeping parent nodes taken []) : taken.Nodup ∧ ∀ k, k ∈ taken ↔ k ∈ nodes := by
  have all : ∀ k d, Distance parent k d → k ∈ nodes → k ∈ taken := by
    intro k d distance
    induction distance with
    | root top => exact fun member => by simpa using done.roots _ member top
    | child below _ ih =>
      intro member
      have above := ih (closed _ member _ below)
      simpa using done.pushed _ above _ member below
  refine ⟨by simpa using done.distinct, fun k => ⟨fun there => ?_, fun member => ?_⟩⟩
  · exact done.inside (by simpa using there)
  · obtain ⟨d, distance⟩ := rooted k member
    exact all k d distance member

theorem sweep_values {P : κ → α → Prop} (hands : ∀ k a, P k a → ∀ c ∈ pushes k, P c (next a))
    {fuel : Nat} {stack : List (κ × α)} (start : ∀ item ∈ stack, P item.1 item.2) :
    ∀ item ∈ sweep pushes next fuel stack, P item.1 item.2 := by
  induction fuel generalizing stack with
  | zero => exact fun item none => by unfold sweep at none; cases none
  | succ fuel ih =>
    cases stack with
    | nil => exact fun item none => by unfold sweep at none; cases none
    | cons item rest =>
      obtain ⟨k, a⟩ := item
      intro other there
      unfold sweep at there
      rcases mem_cons.mp there with rfl | later
      · exact start _ mem_cons_self
      · refine ih (fun pushed member => ?_) other later
        rcases mem_append.mp member with child | late
        · obtain ⟨c, inside, rfl⟩ := mem_map.mp child
          exact hands k a (start _ mem_cons_self) c inside
        · exact start pushed (mem_cons_of_mem _ late)

end Sweep

end Forest
