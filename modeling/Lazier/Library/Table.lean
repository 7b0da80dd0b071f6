import Mathlib

/-!
# Keyed tables

A relational table is a finite list of rows together with a primary key.  The
key constraint is a field of the structure, so a table with two rows of one key
cannot be built and every lookup is a statement about membership alone.
Serial tables add the sequence that hands out the keys of new rows.
-/

namespace Lazier.Library

open List

variable {wanted : ℕ}

/-- Rows whose `key` is unique. -/
structure Table (Key Row : Type) (key : Row → Key) where
  rows : List Row
  nodup : (rows.map key).Nodup

namespace Table

variable {Key Row : Type} {key : Row → Key}

instance : Membership Row (Table Key Row key) where
  mem table row := row ∈ table.rows

variable {table : Table Key Row key} {row other old left right : Row}

theorem mem_def : row ∈ table ↔ row ∈ table.rows := Iff.rfl

instance [DecidableEq Row] (row : Row) (table : Table Key Row key) : Decidable (row ∈ table) :=
  inferInstanceAs (Decidable (row ∈ table.rows))

instance [DecidableEq Row] : DecidableEq (Table Key Row key) := fun left right =>
    decidable_of_iff (left.rows = right.rows) (by
      cases left
      cases right
      simp)

def empty : Table Key Row key := ⟨[], by simp⟩

@[simp]
theorem not_mem_empty (row : Row) : ¬ row ∈ (empty : Table Key Row key) := by
  simp [mem_def, empty]

theorem eq_of_key_eq (hleft : left ∈ table) (hright : right ∈ table) (hkey : key left = key right) :
    left = right :=
  inj_on_of_nodup_map table.nodup hleft hright hkey

/-! ## Row-wise updates that keep every key -/

/-- `UPDATE ... SET` over the whole table, for a row function that leaves the
key alone. -/
def mapRows (table : Table Key Row key) (update : Row → Row)
    (hkey : ∀ row, key (update row) = key row) : Table Key Row key where
  rows := table.rows.map update
  nodup := by
    have hkeys : (table.rows.map update).map key = table.rows.map key := by
      rw [map_map]
      exact map_congr_left fun row _ => hkey row
    rw [hkeys]
    exact table.nodup

theorem mem_mapRows {update : Row → Row} {hkey : ∀ row, key (update row) = key row} :
    row ∈ table.mapRows update hkey ↔ ∃ old ∈ table, update old = row := by
  simp [mem_def, mapRows]

variable [DecidableEq Key] {wanted : Key}

def find (table : Table Key Row key) (wanted : Key) : Option Row :=
  table.rows.find? fun row => key row = wanted

theorem find_eq_some : table.find wanted = some row ↔ row ∈ table ∧ key row = wanted := by
  constructor
  · intro hfind
    exact ⟨mem_of_find?_eq_some hfind, by simpa using List.find?_some hfind⟩
  · rintro ⟨hmem, rfl⟩
    cases hfind : table.find (key row) with
    | none =>
      have habsent := List.find?_eq_none.mp hfind row hmem
      simp at habsent
    | some other =>
      have hother : other ∈ table := mem_of_find?_eq_some hfind
      have hkey : key other = key row := by
        simpa using List.find?_some hfind
      rw [eq_of_key_eq hother hmem hkey]

theorem find_eq_none : table.find wanted = none ↔ ∀ row ∈ table, key row ≠ wanted := by
  simp [find, List.find?_eq_none, mem_def]

/-- Replace the row whose key is that of `row`. -/
def set (table : Table Key Row key) (row : Row) : Table Key Row key :=
  table.mapRows (fun old => if key old = key row then row else old) (by
    intro old
    by_cases hkey : key old = key row <;> simp [hkey])

theorem mem_set : other ∈ table.set row ↔
      (other = row ∧ ∃ old ∈ table, key old = key row) ∨ (other ∈ table ∧ key other ≠ key row) := by
  rw [set, mem_mapRows]
  constructor
  · rintro ⟨old, hold, heq⟩
    by_cases hkey : key old = key row
    · rw [if_pos hkey] at heq
      exact .inl ⟨heq.symm, old, hold, hkey⟩
    · rw [if_neg hkey] at heq
      subst heq
      exact .inr ⟨hold, hkey⟩
  · rintro (⟨rfl, old, hold, hkey⟩ | ⟨hmem, hkey⟩)
    · exact ⟨old, hold, by rw [if_pos hkey]⟩
    · exact ⟨other, hmem, by rw [if_neg hkey]⟩

theorem mem_set_self (hold : old ∈ table) (hkey : key row = key old) : row ∈ table.set row :=
  mem_set.mpr (.inl ⟨rfl, old, hold, hkey.symm⟩)

theorem mem_set_of_ne (hmem : other ∈ table) (hkey : key other ≠ key row) : other ∈ table.set row :=
  mem_set.mpr (.inr ⟨hmem, hkey⟩)

theorem mem_of_mem_set (hmem : other ∈ table.set row) :
    other = row ∨ (other ∈ table ∧ key other ≠ key row) := by
  rcases mem_set.mp hmem with ⟨heq, -⟩ | hother
  · exact .inl heq
  · exact .inr hother

/-- A reflexive relation between the old and the new row holds along the whole
table. -/
theorem forth_set {rel : Row → Row → Prop} (hrefl : ∀ row, rel row row) {new : Row}
    (hold : old ∈ table) (hkey : key new = key old) (hrel : rel old new) :
    ∀ row ∈ table, ∃ after ∈ table.set new, rel row after := by
  intro row hrow
  by_cases hsame : key row = key new
  · have heq : row = old := eq_of_key_eq hrow hold (hsame.trans hkey)
    exact ⟨new, mem_set_self hold hkey, heq ▸ hrel⟩
  · exact ⟨row, mem_set_of_ne hrow hsame, hrefl row⟩

theorem find_mapRows {update : Row → Row}
    {hkey : ∀ row, key (update row) = key row} (wanted : Key) :
    (table.mapRows update hkey).find wanted = (table.find wanted).map update := by
  rw [find, find, mapRows, List.find?_map]
  congr 2
  funext row
  simp [hkey]

theorem find_set_self (hold : table.find (key row) = some old) :
    (table.set row).find (key row) = some row := by
  have hkey : key old = key row := (find_eq_some.mp hold).2
  rw [set, find_mapRows, hold, Option.map_some, if_pos hkey]

theorem find_set_of_ne (hne : wanted ≠ key row) :
    (table.set row).find wanted = table.find wanted := by
  rw [set, find_mapRows]
  cases hfind : table.find wanted with
  | none => rfl
  | some old =>
    have hkey : key old = wanted := (find_eq_some.mp hfind).2
    rw [Option.map_some, if_neg (hkey ▸ hne)]

theorem map_find_set {Column : Type} (hold : table.find wanted = some old)
    (hkey : key row = key old) {column : Row → Column} (other : Key) :
    ((table.set row).find other).map column =
      if other = wanted then some (column row) else (table.find other).map column := by
  have hwanted : key row = wanted := hkey.trans (find_eq_some.mp hold).2
  subst hwanted
  split
  · rename_i hother
    rw [hother, find_set_self hold, Option.map_some]
  · rename_i hother
    rw [find_set_of_ne hother]

/-- A search by other columns finds the row it found before, if the update
leaves those columns. -/
theorem find?_set (hold : table.find (key row) = some old) {test : Row → Bool}
    (htest : test row = test old) :
    (table.set row).rows.find? test = (table.rows.find? test).map fun other =>
        if key other = key row then row else other := by
  obtain ⟨hmem, hkey⟩ := find_eq_some.mp hold
  rw [set, mapRows, List.find?_map]
  congr 1
  refine List.find?_congr fun other hother => ?_
  by_cases hsame : key other = key row
  · rw [Function.comp_apply, if_pos hsame, htest, eq_of_key_eq hother hmem (hsame.trans hkey.symm)]
  · rw [Function.comp_apply, if_neg hsame]

/-- `INSERT ... ON CONFLICT DO NOTHING`. -/
def insertNew (table : Table Key Row key) (row : Row) : Table Key Row key :=
  if hfresh : key row ∈ table.rows.map key then table
  else
    { rows := table.rows ++ [row]
      nodup := by
        rw [map_append, map_singleton, nodup_append]
        refine ⟨table.nodup, by simp, ?_⟩
        intro left hleft right hright
        rw [mem_singleton] at hright
        subst hright
        rintro rfl
        exact hfresh hleft }

theorem mem_insertNew (hfresh : table.find (key row) = none) :
    other ∈ table.insertNew row ↔ other ∈ table ∨ other = row := by
  have habsent : key row ∉ table.rows.map key := by
    intro hmem
    obtain ⟨old, hold, hkey⟩ := mem_map.mp hmem
    exact find_eq_none.mp hfresh old hold hkey
  simp only [mem_def, insertNew, dif_neg habsent, mem_append, mem_singleton]

theorem find_insertNew_self (hfresh : table.find (key row) = none) :
    (table.insertNew row).find (key row) = some row :=
  find_eq_some.mpr ⟨(mem_insertNew hfresh).mpr (.inr rfl), rfl⟩

theorem find_insertNew_of_ne (hne : wanted ≠ key row) :
    (table.insertNew row).find wanted = table.find wanted := by
  rw [insertNew]
  split
  · rfl
  · rw [find, find, List.find?_append, List.find?_singleton,
      if_neg (by simpa using hne.symm), Option.or_none]

theorem insertNew_eq_self (hold : table.find (key row) = some old) :
    table.insertNew row = table := by
  have hmem : key row ∈ table.rows.map key := by
    obtain ⟨hold, hkey⟩ := find_eq_some.mp hold
    exact mem_map.mpr ⟨old, hold, hkey⟩
  rw [insertNew, dif_pos hmem]

end Table

/-- A table whose keys come from a sequence: `next` is above every key handed
out so far. -/
structure SerialTable (Row : Type) (key : Row → ℕ) extends Table ℕ Row key where
  next : ℕ
  bound : ∀ row ∈ rows, key row < next

namespace SerialTable

variable {Row : Type} {key : Row → ℕ}

instance : Membership Row (SerialTable Row key) where
  mem table row := row ∈ table.toTable

instance [DecidableEq Row] (row : Row) (table : SerialTable Row key) : Decidable (row ∈ table) :=
  inferInstanceAs (Decidable (row ∈ table.rows))

variable {table : SerialTable Row key} {row other old left right : Row}

@[simp]
theorem mem_rows : row ∈ table.rows ↔ row ∈ table := Iff.rfl

def empty : SerialTable Row key where
  toTable := Table.empty
  next := 1
  bound := by simp [Table.empty]

@[simp]
theorem not_mem_empty (row : Row) : ¬ row ∈ (empty : SerialTable Row key) := Table.not_mem_empty row

theorem key_lt_next (hmem : row ∈ table) : key row < table.next := table.bound row hmem

theorem eq_of_key_eq (hleft : left ∈ table) (hright : right ∈ table) (hkey : key left = key right) :
    left = right :=
  Table.eq_of_key_eq hleft hright hkey

/-- `INSERT ... RETURNING id` with a row built for the next key. -/
def append (table : SerialTable Row key) (row : Row) (hkey : key row = table.next) :
    SerialTable Row key where
  rows := table.rows ++ [row]
  nodup := by
    rw [map_append, map_singleton, nodup_append]
    refine ⟨table.nodup, by simp, ?_⟩
    intro left hleft right hright
    rw [mem_singleton] at hright
    subst hright
    rintro rfl
    obtain ⟨old, hold, hold'⟩ := mem_map.mp hleft
    have hlt := table.bound old hold
    omega
  next := table.next + 1
  bound := by
    intro other hother
    rcases mem_append.mp hother with hold | hnew
    · exact Nat.lt_succ_of_lt (table.bound other hold)
    · rw [mem_singleton] at hnew
      subst hnew
      omega

theorem mem_append (hkey : key row = table.next) :
    other ∈ table.append row hkey ↔ other ∈ table ∨ other = row := by
  change other ∈ table.rows ++ [row] ↔ other ∈ table.rows ∨ other = row
  simp

theorem mem_append_self (hkey : key row = table.next) : row ∈ table.append row hkey :=
  (mem_append hkey).mpr (.inr rfl)

theorem mem_append_of_mem (hkey : key row = table.next) (hmem : other ∈ table) :
    other ∈ table.append row hkey :=
  (mem_append hkey).mpr (.inl hmem)

/-- Row-wise update of a serial table. -/
def mapRows (table : SerialTable Row key) (update : Row → Row)
    (hkey : ∀ row, key (update row) = key row) : SerialTable Row key where
  toTable := table.toTable.mapRows update hkey
  next := table.next
  bound := by
    intro row hrow
    obtain ⟨old, hold, rfl⟩ := Table.mem_mapRows.mp hrow
    rw [hkey]
    exact table.bound old hold

theorem mem_mapRows {update : Row → Row} {hkey : ∀ row, key (update row) = key row} :
    row ∈ table.mapRows update hkey ↔ ∃ old ∈ table, update old = row := by
  change row ∈ table.toTable.mapRows update hkey ↔ _
  exact Table.mem_mapRows

def find (table : SerialTable Row key) (wanted : ℕ) : Option Row := table.toTable.find wanted

theorem find_eq_some :
    table.find wanted = some row ↔ row ∈ table ∧ key row = wanted := Table.find_eq_some

theorem mem_of_find (hfind : table.find wanted = some row) :
    row ∈ table := (find_eq_some.mp hfind).1

theorem find_of_mem (hrow : row ∈ table) : table.find (key row) = some row :=
  find_eq_some.mpr ⟨hrow, rfl⟩

theorem find_eq_none :
    table.find wanted = none ↔ ∀ row ∈ table, key row ≠ wanted := Table.find_eq_none

def set (table : SerialTable Row key) (row : Row) : SerialTable Row key :=
  table.mapRows (fun old => if key old = key row then row else old) (by
    intro old
    by_cases hkey : key old = key row <;> simp [hkey])

theorem mem_set : other ∈ table.set row ↔
      (other = row ∧ ∃ old ∈ table, key old = key row) ∨ (other ∈ table ∧ key other ≠ key row) :=
  Table.mem_set

theorem mem_set_self (hold : old ∈ table) (hkey : key row = key old) : row ∈ table.set row :=
  Table.mem_set_self hold hkey

theorem mem_set_of_ne (hmem : other ∈ table) (hkey : key other ≠ key row) : other ∈ table.set row :=
  Table.mem_set_of_ne hmem hkey

theorem mem_of_mem_set (hmem : other ∈ table.set row) :
    other = row ∨ (other ∈ table ∧ key other ≠ key row) :=
  Table.mem_of_mem_set hmem

theorem forth_set {rel : Row → Row → Prop} (hrefl : ∀ row, rel row row) {new : Row}
    (hold : old ∈ table) (hkey : key new = key old) (hrel : rel old new) :
    ∀ row ∈ table, ∃ after ∈ table.set new, rel row after := Table.forth_set hrefl hold hkey hrel

theorem find_mapRows {update : Row → Row} {hkey : ∀ row, key (update row) = key row} (wanted : ℕ) :
    (table.mapRows update hkey).find wanted = (table.find wanted).map update := by
  rw [find, find, mapRows, Table.find_mapRows]

theorem append_set {child : Row} (hkey : key child = table.next) (hlt : key row < table.next) :
    (table.append child hkey).set row = (table.set row).append child hkey := by
  simp [append, set, mapRows, Table.mapRows, hkey, hlt.ne']

theorem find_set_self (hold : table.find (key row) = some old) :
    (table.set row).find (key row) = some row :=
  Table.find_set_self hold

theorem find_set_of_ne (hne : wanted ≠ key row) : (table.set row).find wanted = table.find wanted :=
  Table.find_set_of_ne hne

theorem find_append_self (hkey : key row = table.next) :
    (table.append row hkey).find (key row) = some row :=
  find_of_mem (mem_append_self hkey)

theorem find_append_of_ne (hkey : key row = table.next) (hne : wanted ≠ key row) :
    (table.append row hkey).find wanted = table.find wanted := by
  rw [find, find, Table.find, Table.find, append, List.find?_append,
    List.find?_singleton, if_neg (by simpa using hne.symm), Option.or_none]

end SerialTable

/-! ## Ordered selection -/

/-- `SELECT ... ORDER BY key LIMIT 1`, for a sort key given as the list of its
columns. -/
def firstBy {Row : Type} (key : Row → List ℤ) : List Row → Option Row
  | [] => none
  | row :: rest =>
    match firstBy key rest with
    | none => some row
    | some other => if key other < key row then some other else some row

theorem mem_of_firstBy_eq_some {Row : Type} {key : Row → List ℤ} {rows : List Row} {row : Row}
    (hfirst : firstBy key rows = some row) : row ∈ rows := by
  induction rows generalizing row with
  | nil => simp [firstBy] at hfirst
  | cons head rest ih =>
    rw [firstBy] at hfirst
    split at hfirst
    · simp_all
    next other hother =>
      split at hfirst
      · cases hfirst
        exact mem_cons_of_mem _ (ih hother)
      · cases hfirst
        exact mem_cons_self

end Lazier.Library
