import Mathlib.Data.List.Dedup
import Mathlib.Data.List.MinMax

/-!
# Grouped queries

`SELECT key, aggregate(*) FROM rows GROUP BY key`: every key that occurs, with
the rows that have it.  Groups come in the order in which their keys occur.
-/

namespace Lazier.Library

variable {Key Row : Type} [DecidableEq Key]

variable {key : Row → Key} {rows : List Row} {group : Key × List Row} {row : Row}

def groupBy (key : Row → Key) (rows : List Row) : List (Key × List Row) :=
  (rows.map key).dedup.map fun value =>
    (value, rows.filter fun row => key row = value)

theorem mem_groupBy :
    group ∈ groupBy key rows ↔ (∃ row ∈ rows, key row = group.1) ∧
        group.2 = rows.filter fun row => key row = group.1 := by
  unfold groupBy
  rw [List.mem_map]
  constructor
  · rintro ⟨value, hvalue, rfl⟩
    exact ⟨List.mem_map.mp (List.mem_dedup.mp hvalue), rfl⟩
  · rintro ⟨hkey, hmembers⟩
    exact ⟨group.1, List.mem_dedup.mpr (List.mem_map.mpr hkey), Prod.ext rfl hmembers.symm⟩

theorem exists_group (key : Row → Key) (hrow : row ∈ rows) :
    ∃ group ∈ groupBy key rows, group.1 = key row ∧ row ∈ group.2 := by
  refine ⟨(key row, rows.filter fun other => key other = key row), ?_, rfl, ?_⟩
  · exact mem_groupBy.mpr ⟨⟨row, hrow, rfl⟩, rfl⟩
  · exact List.mem_filter.mpr ⟨hrow, decide_eq_true rfl⟩

theorem mem_of_group (hgroup : group ∈ groupBy key rows) (hrow : row ∈ group.2) :
    row ∈ rows ∧ key row = group.1 := by
  rw [(mem_groupBy.mp hgroup).2] at hrow
  obtain ⟨hmem, hkey⟩ := List.mem_filter.mp hrow
  exact ⟨hmem, of_decide_eq_true hkey⟩

theorem exists_min_le {value : Row → ℤ} (hrow : row ∈ rows) :
    ∃ least, (rows.map value).min? = some least ∧ least ≤ value row := by
  have hmem : value row ∈ rows.map value := List.mem_map_of_mem hrow
  obtain ⟨least, hleast⟩ := Option.isSome_iff_exists.mp (List.isSome_min?_of_mem hmem)
  exact ⟨least, hleast, (List.min?_eq_some_iff.mp hleast).2 _ hmem⟩

end Lazier.Library
