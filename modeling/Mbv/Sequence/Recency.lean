import Mathlib.Data.List.Infix
import Mathlib.Data.List.Nodup

/-! ### Keys kept by how recently they were touched -/

variable {κ : Type*} [DecidableEq κ]

/-- `line` orders the keys held, and what is held of it ends the history `recent`: no key touched
    later than a key held has gone. -/
structure Recency (line : List κ) (held : κ → Bool) (recent : List κ) : Prop where
  nodup : line.Nodup
  covered : ∀ k, held k = true → k ∈ line
  suffix : line.filter held <:+ recent

namespace Recency

open List

def touch (k : κ) (recent : List κ) : List κ := recent.filter (fun other => other ≠ k) ++ [k]

variable {line recent : List κ} {held : κ → Bool}

theorem nil : Recency (κ := κ) [] (fun _ => false) [] :=
  ⟨nodup_nil, fun _ none_ => absurd none_ Bool.false_ne_true, suffix_refl []⟩

theorem drop (recency : Recency line held recent) {keeps names : κ → Bool} (kept : ∀ k, keeps k = true → names k = true) :
    Recency (line.filter names) (fun k => held k && keeps k) (recent.filter keeps) := by
  constructor
  · exact recency.nodup.filter _
  · intro k holds
    obtain ⟨here, keep⟩ := Bool.and_eq_true_iff.mp holds
    exact mem_filter.mpr ⟨recency.covered k here, kept k keep⟩
  · have same : (line.filter names).filter (fun k => held k && keeps k) = (line.filter held).filter keeps := by
      rw [filter_filter, filter_filter]
      congr 1
      funext k
      cases keep : keeps k with
      | false => simp
      | true => simp [kept k keep]
    rw [same]
    exact recency.suffix.filter keeps

theorem push (recency : Recency line held recent) {k : κ} (absent : k ∉ line) :
    Recency (line ++ [k]) (fun other => held other || decide (other = k)) (recent ++ [k]) := by
  constructor
  · exact List.Nodup.append recency.nodup (nodup_singleton k) (by simpa using absent)
  · intro other holds
    rcases Bool.or_eq_true_iff.mp holds with here | same
    · exact mem_append_left _ (recency.covered other here)
    · simp [of_decide_eq_true same]
  · have same : line.filter (fun other => held other || decide (other = k)) = line.filter held := by
      apply filter_congr
      intro other member
      simp [ne_of_mem_of_not_mem member absent]
    rw [filter_append, same]
    obtain ⟨gone, split⟩ := recency.suffix
    exact ⟨gone, by simp [← split]⟩

theorem touched (recency : Recency line held recent) (k : κ) :
    Recency (touch k line) (fun other => held other && decide (other ≠ k) || decide (other = k)) (touch k recent) := by
  have others : ∀ other, decide (other ≠ k) = true → decide (other ≠ k) = true := fun _ keep => keep
  exact (recency.drop others).push (by simp)

theorem evict {oldest : κ} {others : List κ} (recency : Recency (oldest :: others) held recent) :
    Recency others (fun k => held k && decide (k ≠ oldest)) recent := by
  obtain ⟨absent, nodup⟩ := nodup_cons.mp recency.nodup
  constructor
  · exact nodup
  · intro k holds
    obtain ⟨here, other⟩ := Bool.and_eq_true_iff.mp holds
    rcases mem_cons.mp (recency.covered k here) with same | member
    · exact absurd same (of_decide_eq_true other)
    · exact member
  · have same : others.filter (fun k => held k && decide (k ≠ oldest)) = others.filter held := by
      apply filter_congr
      intro k member
      simp [ne_of_mem_of_not_mem member absent]
    rw [same]
    apply List.IsSuffix.trans _ recency.suffix
    rw [filter_cons]
    split
    · exact suffix_cons _ _
    · exact suffix_refl _

theorem length_touch_le (nodup : line.Nodup) (k : κ) : (touch k line).length ≤ line.length + 1 := by
  rw [touch, length_append, length_singleton]
  exact Nat.succ_le_succ (length_filter_le _ _)

end Recency
