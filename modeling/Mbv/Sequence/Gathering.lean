import Mathlib.Data.List.Nodup

/-! Rows gathered page by page: a row is taken when its key is new. -/

namespace Gathering

variable {Row Key : Type*} [DecidableEq Key] (key : Row → Key)

def gatherRow (rows : List Row) (row : Row) : List Row :=
  if rows.any (fun existing => key existing == key row) then rows else rows ++ [row]

def gather (rows page : List Row) : List Row := page.foldl (gatherRow key) rows

variable {key} {rows page : List Row}

@[simp] theorem gather_nil : gather key rows [] = rows := rfl

@[simp] theorem gather_cons {row : Row} : gather key rows (row :: page) = gather key (gatherRow key rows row) page := rfl

theorem gatherRow_held {row : Row} (held : key row ∈ rows.map key) : gatherRow key rows row = rows := by
  obtain ⟨existing, member, same⟩ := List.mem_map.mp held
  have taken : rows.any (fun existing => key existing == key row) = true :=
    List.any_eq_true.mpr ⟨existing, member, by simp [same]⟩
  simp [gatherRow, taken]

theorem gatherRow_new {row : Row} (new : key row ∉ rows.map key) : gatherRow key rows row = rows ++ [row] := by
  have fresh : rows.any (fun existing => key existing == key row) = false := by
    rw [List.any_eq_false]
    intro existing member same
    exact new (List.mem_map.mpr ⟨existing, member, by simpa using same⟩)
  simp [gatherRow, fresh]

theorem nodup_gatherRow {row : Row} (nodup : (rows.map key).Nodup) : ((gatherRow key rows row).map key).Nodup := by
  by_cases held : key row ∈ rows.map key
  · rw [gatherRow_held held]
    exact nodup
  · rw [gatherRow_new held, List.map_append, List.map_singleton, ← List.concat_eq_append]
    exact nodup.concat held

theorem nodup_gather (nodup : (rows.map key).Nodup) : ((gather key rows page).map key).Nodup := by
  induction page generalizing rows with
  | nil => exact nodup
  | cons row page ih => exact ih (nodup_gatherRow nodup)

end Gathering
