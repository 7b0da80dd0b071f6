import Lazier.Workflow.WantedRetries

/-!
# Tasks and their rows

A task is one transaction purpose of one packet.  Its rows in the outbox pass
through a few phases, which are all that a job and its transactions have to
agree on; the columns that the sender writes on the way do not matter here.
-/

namespace Lazier.Delivery

open Library Ledger Store Workflow SerialTable Option

structure Task where
  guid : Hash
  purpose : Purpose

/-- The columns of the task's rows. -/
def Task.columns (task : Task) : Purpose × Option Bytes := (task.purpose, some task.guid.1)

/-- How far a row has come. -/
inductive Phase
  | inFlight
  | reverted
  | pinned (resolution : Resolution)
  | ended (resolution : Resolution)
  | consumed
  deriving DecidableEq

/-- A row without a receipt that has ended failed before it was sent, or lost
its nonce to someone else. -/
def phase (row : OutboxRow) : Phase :=
  match row.receipt with
  | some resolution =>
    if row.status.terminal then .ended resolution else .pinned resolution
  | none =>
    if row.status.terminal then
      if row.failureKind = some .nonceConsumedExternally then .consumed
      else .reverted
    else .inFlight

/-- The row with this id, if it belongs to the task. -/
def rowAt (tx : TxTables) (task : Task) (id : ℕ) : Option OutboxRow :=
  (tx.outbox.find id).filter fun row => rowTask row = task.columns

def phaseAt (tx : TxTables) (task : Task) (id : ℕ) : Option Phase := (rowAt tx task id).map phase

/-- `PrepareNextFailedTxRetry` selects the row at some time. -/
def Due (tx : TxTables) (row : OutboxRow) : Prop :=
  ∃ now lane, autoRetryCandidate tx now lane row = true

def DueAt (tx : TxTables) (task : Task) (id : ℕ) : Prop :=
  ∃ row, rowAt tx task id = some row ∧ Due tx row

variable {tx pre post : TxTables} {task : Task} {id : ℕ} {row : OutboxRow}

theorem rowAt_eq_some : rowAt tx task id = some row ↔
      tx.outbox.find id = some row ∧ rowTask row = task.columns := by
  simp [rowAt, filter_eq_some_iff]

theorem rowAt_of_foreign (hfind : tx.outbox.find id = some row)
    (hforeign : rowTask row ≠ task.columns) : rowAt tx task id = none := by
  simp [rowAt, hfind, hforeign]

theorem rowAt_of_none (hfind : tx.outbox.find id = none) : rowAt tx task id = none := by
  simp [rowAt, hfind]

theorem phaseAt_eq (hfind : tx.outbox.find id = some row) (hmine : rowTask row = task.columns) :
    phaseAt tx task id = some (phase row) := by
  rw [phaseAt, rowAt_eq_some.mpr ⟨hfind, hmine⟩, map_some]

theorem exists_rowAt {reached : Phase} (hphase : phaseAt tx task id = some reached) :
    ∃ row, tx.outbox.find id = some row ∧ rowTask row = task.columns ∧ phase row = reached := by
  obtain ⟨row, hrow, hreached⟩ := map_eq_some_iff.mp hphase
  obtain ⟨hfind, hmine⟩ := rowAt_eq_some.mp hrow
  exact ⟨row, hfind, hmine, hreached⟩

theorem lt_next_of_phaseAt (hphase : phaseAt tx task id ≠ none) : id < tx.outbox.next := by
  obtain ⟨reached, hreached⟩ := ne_none_iff_exists'.mp hphase
  obtain ⟨row, hfind, -⟩ := exists_rowAt hreached
  obtain ⟨hmem, rfl⟩ := find_eq_some.mp hfind
  exact key_lt_next hmem

/-! ## Rows that a method leaves alone -/

/-- Rows that retry another one still do. -/
def ChildrenStay (pre post : TxTables) : Prop :=
  ∀ id, hasRetryChild pre id = true → hasRetryChild post id = true

/-- A row of the task is where it was.  Of the deliveries only one that
reverted before it was sent may be scheduled again on the way. -/
def Kept (task : Task) (pre post : TxTables) (id : ℕ) : Prop :=
  phaseAt post task id = phaseAt pre task id ∧
    (task.purpose = .executorLzReceive → DueAt post task id →
      DueAt pre task id ∨ phaseAt pre task id = some .reverted)

theorem Kept.refl (task : Task) (tx : TxTables) (id : ℕ) : Kept task tx tx id :=
  ⟨rfl, fun _ => Or.inl⟩

theorem due_of_children (hchildren : ChildrenStay pre post)
    (hdue : Due post row) : Due pre row := by
  obtain ⟨now, lane, hcandidate⟩ := hdue
  refine ⟨now, lane, ?_⟩
  simp only [autoRetryCandidate, Bool.and_eq_true, Bool.not_eq_true'] at hcandidate ⊢
  refine ⟨hcandidate.1, ?_⟩
  by_contra hchild
  rw [Bool.not_eq_false] at hchild
  have hstays := hchildren _ hchild
  rw [hcandidate.2] at hstays
  cases hstays

theorem kept_of_absent (hpre : rowAt pre task id = none)
    (hpost : rowAt post task id = none) : Kept task pre post id := by
  rw [Kept, phaseAt, phaseAt, hpre, hpost]
  refine ⟨rfl, ?_⟩
  rintro - ⟨row, hrow, -⟩
  rw [hpost] at hrow
  cases hrow

theorem kept_of_foreign {old new : OutboxRow} (hold : pre.outbox.find id = some old)
    (hnew : post.outbox.find id = some new) (htask : rowTask new = rowTask old)
    (hforeign : rowTask old ≠ task.columns) : Kept task pre post id :=
  kept_of_absent (rowAt_of_foreign hold hforeign) (rowAt_of_foreign hnew (htask ▸ hforeign))

theorem kept_of_row {old new : OutboxRow} (hold : pre.outbox.find id = some old)
    (hnew : post.outbox.find id = some new)
    (htask : rowTask new = rowTask old) (hphase : phase new = phase old)
    (hdue : old.purpose = .executorLzReceive → Due post new → Due pre old ∨ phase old = .reverted) :
    Kept task pre post id := by
  by_cases hmine : rowTask old = task.columns
  · rw [Kept, phaseAt_eq hold hmine, phaseAt_eq hnew (htask.trans hmine), hphase]
    refine ⟨rfl, ?_⟩
    rintro hdelivery ⟨row, hrow, hrowdue⟩
    rw [rowAt_eq_some, hnew, some.injEq] at hrow
    obtain ⟨rfl, -⟩ := hrow
    have hpurpose : old.purpose = task.purpose := (Prod.mk.inj hmine).1
    rcases hdue (hpurpose.trans hdelivery) hrowdue with hbefore | hreverted
    · exact .inl ⟨old, rowAt_eq_some.mpr ⟨hold, hmine⟩, hbefore⟩
    · exact .inr (congrArg some hreverted)
  · exact kept_of_foreign hold hnew htask hmine

theorem kept_of_find (hfind : post.outbox.find id = pre.outbox.find id)
    (hchildren : ChildrenStay pre post) : Kept task pre post id := by
  cases hold : pre.outbox.find id with
  | none => exact kept_of_absent (rowAt_of_none hold) (rowAt_of_none (hfind.trans hold))
  | some old =>
    exact kept_of_row hold (hfind.trans hold) rfl rfl fun _ hdue =>
      .inl (due_of_children hchildren hdue)

/-! ## Tables after a write -/

theorem hasRetryChild_iff : hasRetryChild tx id = true ↔
      ∃ child ∈ tx.outbox, child.retryOfID = some id := by
  simp only [hasRetryChild, List.any_eq_true, decide_eq_true_eq]
  rfl

theorem childrenStay_of_continues
    (hcontinues : Continues pre.outbox post.outbox) : ChildrenStay pre post := by
  intro id hchild
  obtain ⟨child, hmem, hretry⟩ := hasRetryChild_iff.mp hchild
  obtain ⟨after, hafter, hstep⟩ := hcontinues child hmem
  exact hasRetryChild_iff.mpr ⟨after, hafter, hstep.parent.trans hretry⟩

theorem find_setRow {after : OutboxRow}
    (hfind : tx.outbox.find row.id = some row) (hid : after.id = row.id) :
    (tx.setRow after).outbox.find row.id = some after := by
  rw [← hid] at hfind ⊢
  exact find_set_self hfind

theorem kept_addRow {child : OutboxRow} (hid : child.id = tx.outbox.next)
    (hchildren : ChildrenStay tx (tx.addRow child hid))
    (hne : id ≠ child.id) : Kept task tx (tx.addRow child hid) id :=
  kept_of_find (find_append_of_ne hid hne) hchildren

theorem find_next : tx.outbox.find tx.outbox.next = none := by
  rw [find_eq_none]
  intro row hrow
  exact (key_lt_next hrow).ne

end Lazier.Delivery
