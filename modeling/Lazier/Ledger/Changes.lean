import Lazier.Library.Runs
import Lazier.Store.CancelReconcile

/-!
# The transaction ledger

What a transaction table can ever experience, said once.  A store method is a
short sequence of these changes; each change lists the guards under which it
happens and leaves the columns it does not mention to the caller.  Everything
proved about the ledger holds of every method that is made of its changes.
-/

namespace Lazier.Ledger

open Library Store SerialTable

variable {tx : TxTables}

/-- Who asked for a signing lease. -/
inductive LeaseUse
  | signing
  | replacement
  | cancel
  deriving DecidableEq

/-- The observable part of a change. -/
inductive Action
  | enqueue (id : ℕ)
  | bootstrap (lane : Lane) (value : ℕ)
  | assign (id nonce : ℕ) (token : UUID)
  | edit
  | lease (id : ℕ) (use : LeaseUse) (token : UUID)
  | cancel (id : ℕ)
  | insert (attempt : AttemptRow) (use : LeaseUse) (token : UUID)
  | claim (attemptID : ℕ)
  | report (attemptID : ℕ)
  | pin (id : ℕ) (resolution : Resolution)
  | finalize (attemptID : ℕ)
  | consume (id : ℕ)
  | forward (lane : Lane) (confirmed : ℕ)
  | schedule (lane : Lane)

/-- A row as it is first inserted. -/
structure Pristine (row : OutboxRow) : Prop where
  status : row.status = .queued
  nonce : row.nonce = none
  active : row.activeAttemptID = none
  lease : row.lease = none
  cancel : row.cancelRequestedAt = none
  receipt : row.receipt = none

/-- The task of a row and the nonce it holds. -/
structure SameTask (old new : OutboxRow) : Prop where
  id : new.id = old.id
  chainEID : new.chainEID = old.chainEID
  signerID : new.signerID = old.signerID
  purpose : new.purpose = old.purpose
  guid : new.guid = old.guid
  toAddress : new.toAddress = old.toAddress
  calldata : new.calldata = old.calldata
  value : new.value = old.value
  nonce : new.nonce = old.nonce

theorem SameTask.lane {old new : OutboxRow} (htask : SameTask old new) : new.lane = old.lane := by
  rw [OutboxRow.lane, OutboxRow.lane, htask.chainEID, htask.signerID]

/-- The status moves of a row that happen without any other table. -/
inductive StatusMove (tx : TxTables) (old new : OutboxRow) : Prop
  | keep (status : new.status = old.status)
      (kind : new.failureKind = old.failureKind ∨ old.failureKind ≠ some .nonceConsumedExternally)
  /-- A deterministic estimate revert of a row nobody has advanced. -/
  | revert (queued : old.status = .queued) (bare : old.nonce = none) (status : new.status = .failed)
  /-- A requeue in place. -/
  | requeue (failed : old.status = .failed) (unpinned : old.receipt = none)
      (kind : old.failureKind ≠ some .nonceConsumedExternally) (status : new.status = .queued)
  /-- A lane parked while it is leased or has an active attempt. -/
  | park (reason : HeldReason) (live : old.status.terminal = false)
      (busy : old.lease ≠ none ∨ old.activeAttemptID ≠ none) (status : new.status = .held reason)
      (unsent : reason ≠ .nonceReconcileRequired)
  /-- The result of sending the active attempt. -/
  | report (attempt : AttemptRow) (sendClass : SendClass)
      (mem : attempt ∈ tx.attempts) (owner : attempt.outboxID = old.id)
      (active : old.activeAttemptID = some attempt.id) (leased : attempt.broadcastLease ≠ none)
      (live : old.status.terminal = false) (status : new.status = mapSendClassToOutbox sendClass)
  /-- The exits of a reconciliation hold. -/
  | reconcile (held : old.status = .held .nonceReconcileRequired)
      (status : new.status = .broadcast ∨ new.status = .held .broadcastExhausted ∨
        new.status = .held .nonceConsumedExternally)

/-- An update of one row that touches neither its nonce, its active attempt,
its receipt nor its cancel intent, and never adds a lease. -/
structure RowEdit (tx : TxTables) (old new : OutboxRow) : Prop where
  task : SameTask old new
  active : new.activeAttemptID = old.activeAttemptID
  receipt : new.receipt = old.receipt
  cancel : new.cancelRequestedAt = old.cancelRequestedAt
  lease : new.lease = old.lease ∨ new.lease = none
  status : StatusMove tx old new

theorem RowEdit.refl (tx : TxTables) (row : OutboxRow) : RowEdit tx row row :=
  ⟨by constructor <;> rfl, rfl, rfl, rfl, .inl rfl, .keep rfl (.inl rfl)⟩

theorem RowEdit.bookkeeping {old new : OutboxRow} (htask : SameTask old new)
    (hactive : new.activeAttemptID = old.activeAttemptID) (hreceipt : new.receipt = old.receipt)
    (hcancel : new.cancelRequestedAt = old.cancelRequestedAt)
    (hlease : new.lease = old.lease ∨ new.lease = none) (hstatus : new.status = old.status)
    (hkind : new.failureKind = old.failureKind) : RowEdit tx old new :=
  ⟨htask, hactive, hreceipt, hcancel, hlease, .keep hstatus (.inl hkind)⟩

/-- When a signing lease may be written. -/
def LeaseGuard (use : LeaseUse) (row : OutboxRow) : Prop := row.receipt = none ∧
    match use with
    | .signing =>
      row.status = .nonceAssigned ∧ row.nonce ≠ none ∧ row.cancelRequestedAt = none
    | .replacement => row.activeAttemptID ≠ none
    | .cancel => row.nonce ≠ none ∧ row.cancelRequestedAt ≠ none

/-- When an attempt may be inserted, and what becomes of its row. -/
structure InsertGuard (old : OutboxRow) (attempt : AttemptRow)
    (use : LeaseUse) (token : UUID) (new : OutboxRow) : Prop where
  task : SameTask old new
  owner : attempt.outboxID = old.id
  nonce : old.nonce = some attempt.nonce
  state : attempt.state = .signed
  unsent : attempt.broadcastCount = 0
  unleased : attempt.broadcastLease = none
  leased : old.lease.map Lease.token = some token
  live : old.status.terminal = false
  exclusive : (use = .signing ∧ old.status = .nonceAssigned) ∨
    (old.receipt = none ∧ (old.cancelRequestedAt = none ∨ attempt.kind = .cancel))
  active : new.activeAttemptID = some attempt.id
  status : new.status = .signed ∨ (old.status = .broadcast ∧ new.status = .broadcast)
  receipt : new.receipt = old.receipt
  cancel : new.cancelRequestedAt = old.cancelRequestedAt
  released : new.lease = none

/-- When an attempt may be claimed for broadcast. -/
structure ClaimGuard (row : OutboxRow) (attempt : AttemptRow) : Prop where
  owner : attempt.outboxID = row.id
  active : row.activeAttemptID = some attempt.id
  status : row.status = .signed ∨ row.status = .broadcast
  state : attempt.state = .signed ∨ attempt.state = .ambiguous
  exclusive : row.cancelRequestedAt = none ∨ attempt.kind = .cancel
  unpinned : row.receipt = none

/-- The cancel intent with the lease it revokes. -/
structure CancelGuard (old new : OutboxRow) : Prop where
  task : SameTask old new
  nonce : old.nonce ≠ none
  allowed : old.status.cancelAllowed = true
  unpinned : old.receipt = none
  active : new.activeAttemptID = old.activeAttemptID
  receipt : new.receipt = old.receipt
  status : new.status = old.status
  kind : new.failureKind = old.failureKind
  intent : new.cancelRequestedAt ≠ none
  revoked : new.lease = none

/-- The steps of the ledger. -/
inductive Change : TxTables → Action → TxTables → Prop
  | enqueue {tx : TxTables} {row : OutboxRow} (hid : row.id = tx.outbox.next)
      (fresh : Pristine row) : Change tx (.enqueue row.id) (tx.addRow row hid)
  | bootstrap {tx : TxTables} {lane : Lane} {value : ℕ} (absent : tx.cursors.find lane = none)
      (above : ∀ row ∈ tx.outbox, row.lane = lane →
        ∀ nonce, row.nonce = some nonce → nonce < value) : Change tx (.bootstrap lane value)
        (tx.addCursor ⟨lane, value, none, none⟩)
  | assign {tx : TxTables} {row : OutboxRow} {cursor : NonceCursor}
      (lease : Lease) (now : Time) (hrow : row ∈ tx.outbox)
      (hcursor : cursor ∈ tx.cursors) (hlane : cursor.lane = row.lane)
      (queued : row.status = .queued) (bare : row.nonce = none) (unpinned : row.receipt = none)
      (uncanceled : row.cancelRequestedAt = none)
      (clear : ∀ other ∈ tx.outbox, other.lane = row.lane → other.status.blocksLane = false) :
      Change tx (.assign row.id cursor.nextNonce lease.token)
        ((tx.setRow
          { row with
            nonce := some cursor.nextNonce
            status := .nonceAssigned
            lease := some lease
            updatedAt := now }).setCursor
          { cursor with nextNonce := cursor.nextNonce + 1 })
  /-- One statement may edit several rows. -/
  | edit {tx : TxTables} {update : OutboxRow → OutboxRow} (hkey : ∀ row, (update row).id = row.id)
      (hedit : ∀ row ∈ tx.outbox, RowEdit tx row (update row)) :
      Change tx .edit { tx with outbox := tx.outbox.mapRows update hkey }
  | lease {tx : TxTables} {row : OutboxRow} (use : LeaseUse) (lease : Lease)
      (now : Time) (hrow : row ∈ tx.outbox) (guarded : LeaseGuard use row) :
      Change tx (.lease row.id use lease.token)
        (tx.setRow { row with lease := some lease, updatedAt := now })
  /-- A requeued row that kept its nonce is leased in one move. -/
  | resume {tx : TxTables} {row : OutboxRow} (lease : Lease) (now : Time)
      (hrow : row ∈ tx.outbox) (queued : row.status = .queued)
      (held : row.nonce ≠ none) (uncanceled : row.cancelRequestedAt = none) :
      Change tx (.lease row.id .signing lease.token)
        (tx.setRow
          { row with
            status := .nonceAssigned
            lease := some lease
            updatedAt := now })
  | cancel {tx : TxTables} {old new : OutboxRow} (hold : old ∈ tx.outbox)
      (guarded : CancelGuard old new) : Change tx (.cancel old.id) (tx.setRow new)
  | insert {tx : TxTables} {old new : OutboxRow} {attempt : AttemptRow}
      {use : LeaseUse} {token : UUID} (hold : old ∈ tx.outbox) (hid : attempt.id = tx.attempts.next)
      (guarded : InsertGuard old attempt use token new) : Change tx (.insert attempt use token)
        ((tx.addAttempt attempt hid).setRow new)
  | claim {tx : TxTables} {row : OutboxRow} {attempt : AttemptRow}
      {now : Time} {token : UUID} {leaseTTL : Duration}
      (hrow : row ∈ tx.outbox) (hattempt : attempt ∈ tx.attempts)
      (guarded : ClaimGuard row attempt) : Change tx (.claim attempt.id)
        (tx.setAttempt (attempt.claimBroadcast now token leaseTTL))
  | report {tx : TxTables} {attempt : AttemptRow} {sendClass : SendClass}
      {sendErr : String} (hattempt : attempt ∈ tx.attempts)
      (leased : attempt.broadcastLease ≠ none) : Change tx (.report attempt.id)
        (tx.setAttempt (attempt.sendResult sendClass sendErr))
  | pin {tx : TxTables} {row : OutboxRow} {attempt : AttemptRow}
      {outcome : ReceiptOutcome} {now : Time} (hrow : row ∈ tx.outbox)
      (hattempt : attempt ∈ tx.attempts) (owner : attempt.outboxID = row.id)
      (unpinned : row.receipt = none) (live : row.status.terminal = false) :
      Change tx (.pin row.id ⟨outcome, attempt.id⟩)
        (tx.setRow
          { row with
            receipt := some ⟨outcome, attempt.id⟩
            updatedAt := now })
  | finalize {tx : TxTables} {row : OutboxRow} {attempt : AttemptRow}
      {outcome : ReceiptOutcome} {now clock : Time} {facts : TxReceiptFacts}
      (hrow : row ∈ tx.outbox) (hattempt : attempt ∈ tx.attempts)
      (owner : attempt.outboxID = row.id) (pinned : row.receipt = some ⟨outcome, attempt.id⟩) :
      Change tx (.finalize attempt.id)
        ((tx.setAttempt { attempt with state := .mined }).setRow
          (row.finalize now clock attempt outcome facts))
  | consume {tx : TxTables} {row : OutboxRow} {now : Time} (hrow : row ∈ tx.outbox)
      (held : row.status = .held .nonceConsumedExternally) (unpinned : row.receipt = none) :
      Change tx (.consume row.id) (tx.setRow (row.consumeExternally now))
  | forward {tx : TxTables} {old : NonceCursor} (new : NonceCursor) (hold : old ∈ tx.cursors)
      (lane : new.lane = old.lane) (ahead : old.nextNonce < new.nextNonce) :
      Change tx (.forward old.lane new.nextNonce) (tx.setCursor new)
  | schedule {tx : TxTables} {old : NonceCursor} (new : NonceCursor) (hold : old ∈ tx.cursors)
      (lane : new.lane = old.lane) (next : new.nextNonce = old.nextNonce) :
      Change tx (.schedule old.lane) (tx.setCursor new)

theorem Change.editRow {old new : OutboxRow} (hold : old ∈ tx.outbox) (hedit : RowEdit tx old new) :
    Change tx .edit (tx.setRow new) := by
  refine .edit _ ?_
  intro row hrow
  by_cases hsame : row.id = new.id
  · have heq : row = old := eq_of_key_eq hrow hold (hsame.trans hedit.task.id)
    rw [if_pos hsame, heq]
    exact hedit
  · rw [if_neg hsame]
    exact .refl tx row

theorem Change.edit_cursors {before after : TxTables} (hchange : Change before .edit after) :
    after.cursors = before.cursors := by
  cases hchange
  rfl

/-! ## Rows and attempts of an updated ledger -/

theorem mem_addRow {new row : OutboxRow} (hid : new.id = tx.outbox.next)
    (hmem : row ∈ (tx.addRow new hid).outbox) :
    row ∈ tx.outbox ∨ row = new := (mem_append hid).mp hmem

theorem mem_addAttempt {new attempt : AttemptRow} (hid : new.id = tx.attempts.next)
    (hmem : attempt ∈ (tx.addAttempt new hid).attempts) : attempt ∈ tx.attempts ∨ attempt = new :=
  (mem_append hid).mp hmem

theorem mem_setRow {new row : OutboxRow} (hmem : row ∈ (tx.setRow new).outbox) :
    row = new ∨ (row ∈ tx.outbox ∧ row.id ≠ new.id) := mem_of_mem_set hmem

theorem mem_setAttempt {new attempt : AttemptRow} (hmem : attempt ∈ (tx.setAttempt new).attempts) :
    attempt = new ∨ (attempt ∈ tx.attempts ∧ attempt.id ≠ new.id) := mem_of_mem_set hmem

theorem mem_setCursor {new cursor : NonceCursor} (hmem : cursor ∈ (tx.setCursor new).cursors) :
    cursor = new ∨ (cursor ∈ tx.cursors ∧ cursor.lane ≠ new.lane) := Table.mem_of_mem_set hmem

end Lazier.Ledger
