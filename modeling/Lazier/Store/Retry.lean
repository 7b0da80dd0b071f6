import Lazier.Store.Outbox

/-!
# Retries of failed transactions

Operator and automatic retries.  A receipt-failed row is cloned, so that the
evidence of its consumed nonce stays; every other failure is requeued in place.
A paused scope only pushes the next retry.
-/

namespace Lazier.Store

open Library

/-! ## Packet and job columns written by several methods -/

def WorkTables.setPacketStatus (work : WorkTables) (guid : Hash)
    (next : ExecutorState) : WorkTables :=
  match work.packets.find guid with
  | none => work
  | some packet =>
    { work with packets := work.packets.set { packet with status := next } }

/-- `UPDATE packets SET status = next WHERE guid = $1 AND status = expected`. -/
def WorkTables.casPacketStatus (work : WorkTables) (guid : Hash)
    (expected next : ExecutorState) : WorkTables :=
  match work.packets.find guid with
  | none => work
  | some packet =>
    if packet.status = expected then
      { work with packets := work.packets.set { packet with status := next } }
    else work

def WorkTables.setExecutorJob (work : WorkTables) (job : ExecutorJobRow) : WorkTables :=
  { work with executorJobs := work.executorJobs.set job }

def WorkTables.setDVNJob (work : WorkTables) (job : DVNJobRow) : WorkTables :=
  { work with dvnJobs := work.dvnJobs.set job }

/-! ## The three ways a failed row moves -/

def deferFailedTxRetry (db : DB) (now : Time) (row : OutboxRow) : DB := db.withTx (db.tx.setRow
    { row with
      nextRetryAt := some (now + txRetryScopeDeferDelay)
      updatedAt := now })

/-- A pinned resolution means the nonce is consumed, so such a row is never
requeued in place. -/
def requeueFailedTx (db : DB) (now : Time) (row : OutboxRow) : Except StoreError DB :=
  if row.status = .failed ∧ row.receipt = none then
    .ok (db.withTx (db.tx.setRow
      { row with
        status := .queued
        attempts := row.attempts + 1
        failureKind := none
        nextRetryAt := none
        lastError := none
        updatedAt := now }))
  else
    .error (.message s!"outbox tx {row.id} is not failed without a pinned receipt resolution")

/-- The request columns a clone takes over from the row it retries. -/
def cloneRow (id : ℕ) (now : Time) (row : OutboxRow) : OutboxRow :=
  { queuedRow id now
      ⟨row.chainEID, row.purpose, [], row.toAddress, row.calldata,
        some row.value, row.signerID⟩ (row.attempts + 1) (some row.id) with
    guid := row.guid }

def hasRetryChild (tx : TxTables) (id : ℕ) : Bool :=
  tx.outbox.rows.any fun child => decide (child.retryOfID = some id)

def cloneFailedTxRetry (db : DB) (now : Time) (row : OutboxRow) : Except StoreError (DB × ℕ) :=
  if row.status = .failed ∧ row.nonce ≠ none ∧ ¬ hasRetryChild db.tx row.id then
    .ok (db.withTx ((db.tx.addRow (cloneRow db.tx.outbox.next now row) rfl).setRow
          { row with nextRetryAt := none, updatedAt := now }), db.tx.outbox.next)
  else
    .error (.message s!"outbox tx {row.id} is not a cloneable failed row")

/-- Stop the automatic retry of a row whose workflow has moved on. -/
def finalizeFailedTx (tx : TxTables) (now : Time) (row : OutboxRow) : TxTables :=
  tx.setRow { row with failureKind := none, nextRetryAt := none, updatedAt := now }

def retryBudgetReason (retryCount : ℕ) : String :=
  s!"lzReceive reverted {retryCount} times, exceeding the " ++
    s!"{maxLzReceiveDeliveryAttempts}-attempt retry budget"

/-- Restore the executor job of a reverted `lzReceive` before its transaction
is cloned; `false` means the failed row was finalized instead. -/
def prepareReceiptRetryWorkflow (db : DB) (now : Time) (row : OutboxRow) :
    Except StoreError (DB × Bool) :=
  match row.guid with
  | none => .ok (db, true)
  | some guidBytes =>
    if row.purpose ≠ .executorLzReceive then .ok (db, true)
    else if guidBytes.length ≠ 32 then
      .error (.message s!"executor lzReceive retry guid has length {guidBytes.length}")
    else
      let guid := bytesToHash guidBytes
      match db.work.executorJobs.find guid with
      | none =>
        .error (.message s!"executor job {guid.hex} not found for lzReceive retry")
      | some job =>
        match job.status with
        | .lzReceiveFailed =>
          -- The budget is enforced in the transaction that restores the
          -- job, so no driver can exceed it.
          if job.retryCount ≥ maxLzReceiveDeliveryAttempts then
            .ok ((db.withWork ((db.work.setExecutorJob
                { job with
                  status := .manualReview
                  lastError := some (retryBudgetReason job.retryCount)
                  updatedAt := now }).casPacketStatus guid .lzReceiveFailed .manualReview)).withTx
              (finalizeFailedTx db.tx now row), false)
          else
            match lockTxSendScope db row.chainEID .executorLzReceive guidBytes with
            | .error .txSendScopeInactive =>
              .ok (db.withTx (finalizeFailedTx db.tx now row), false)
            | .error error => .error error
            | .ok () =>
              .ok (db.withWork ((db.work.setExecutorJob
                  { job with
                    status := .lzReceiveTxEnqueued
                    lastError := none
                    updatedAt := now }).casPacketStatus guid
                      .lzReceiveFailed .lzReceiveTxEnqueued), true)
        | .lzReceiveTxEnqueued | .delivered | .manualReview =>
          .ok (db.withTx (finalizeFailedTx db.tx now row), false)
        | status =>
          .error (.message
            (s!"executor job {guid.hex} is in status {status.text}, want " ++
              ExecutorState.lzReceiveFailed.text))

/-- Requeue behind the scope gate; `paused` is what the caller returns after it
has committed a deferral. -/
def requeueBehindScope (db : DB) (now : Time) (row : OutboxRow) (paused : StoreError) : Result ℕ :=
  match lockTxSendScope db row.chainEID row.purpose (row.guid.getD []) with
  | .error .txSendScopeInactive =>
    commitError (deferFailedTxRetry db now row) paused
  | .error error => rollback db error
  | .ok () =>
    match requeueFailedTx db now row with
    | .error error => rollback db error
    | .ok requeued => commit requeued row.id

/-- Clone a receipt-failed row.  The `lzReceive` workflow applies its own scope
gate, because the deliverer owns resuming its job. -/
def cloneBehindWorkflow (db : DB) (now : Time) (row : OutboxRow) (paused : StoreError) : Result ℕ :=
  let scope :=
    if row.purpose = .executorLzReceive then .ok ()
    else lockTxSendScope db row.chainEID row.purpose (row.guid.getD [])
  match scope with
  | .error .txSendScopeInactive =>
    commitError (deferFailedTxRetry db now row) paused
  | .error error => rollback db error
  | .ok () =>
    match prepareReceiptRetryWorkflow db now row with
    | .error error => rollback db error
    | .ok (prepared, false) => commitError prepared .noFailedTxRetry
    | .ok (prepared, true) =>
      match cloneFailedTxRetry prepared now row with
      | .error error => rollback db error
      | .ok (cloned, retryID) => commit cloned retryID

/-- In-flight snapshots of the row's feed that a requeue must wait for; a
higher nonce of the same signer cannot mine before the gap is filled. -/
def pricingRequeueBlocked (tx : TxTables) (row : OutboxRow) (nonce : ℕ) : Bool :=
  tx.outbox.rows.any fun other =>
    decide (other.chainEID = row.chainEID ∧ other.purpose = row.purpose ∧
      other.toAddress = row.toAddress) && other.status.cancelable &&
      !(decide (other.signerID = row.signerID) &&
        (match other.nonce with
          | none => false
          | some higher => decide (nonce < higher)))

/-- The refusals of `RetryFailedTx` before it looks at the scope. -/
def retryFailedTxRefusal (tx : TxTables) (row : OutboxRow) : Option StoreError :=
  if row.failureKind = some .canceled then
    some (.message s!"outbox tx {row.id} failure kind {FailureKind.canceled.text} is not retryable")
  else if row.failureKind = some .nonceConsumedExternally then
    some (.message
      (s!"outbox tx {row.id} failure kind {FailureKind.nonceConsumedExternally.text} is not " ++
        "retryable"))
  else if row.receipt ≠ none ∧ row.failureKind ≠ some .receiptFailed then
    some (.message
      (s!"outbox tx {row.id} has a pinned receipt resolution and its nonce is consumed; the row " ++
        "cannot be requeued in place"))
  else if row.purpose = .pricingSetPriceSnapshot then
    match row.nonce with
    | none =>
      some (.message
        (s!"outbox tx {row.id} carries a pricing observation and is not retryable; the price " ++
          "bot rebuilds automatically"))
    | some nonce =>
      if row.failureKind = some .receiptFailed then
        some (.message
          (s!"outbox tx {row.id} carries a pricing observation and is not retryable; the price " ++
            "bot rebuilds automatically"))
      else if pricingRequeueBlocked tx row nonce then
        some (.message
          (s!"outbox tx {row.id} cannot be requeued while another snapshot for its feed is in " ++
            "flight; retry after it resolves"))
      else none
  else none

/-- `RetryFailedTx`, the operator's retry. -/
def retryFailedTx (db : DB) (now : Time) (id : ℕ) : Result ℕ :=
  match db.tx.outbox.find id with
  | none => rollback db (.message s!"outbox tx {id} is not failed")
  | some row =>
    if row.status ≠ .failed then
      rollback db (.message s!"outbox tx {id} is not failed")
    else
      match retryFailedTxRefusal db.tx row with
      | some error => rollback db error
      | none =>
        if row.nonce = none ∨ row.failureKind ≠ some .receiptFailed then
          requeueBehindScope db now row .txSendScopeInactive
        else
          cloneBehindWorkflow db now row .txSendScopeInactive

/-- The rows the automatic retry selects from. -/
def autoRetryCandidate (tx : TxTables) (now : Time) (lane : Lane) (row : OutboxRow) : Bool :=
  decide (row.lane = lane ∧ row.status = .failed ∧ row.attempts < txAutoRetryMaxAttempts) &&
    (match row.nextRetryAt with
      | none => false
      | some time => decide (time ≤ now)) &&
    decide (row.failureKind = some .estimateGasRevert ∨ row.failureKind = some .receiptFailed) &&
    decide (row.purpose ≠ .pricingSetPriceSnapshot) &&
    !(hasRetryChild tx row.id)

/-- `PrepareNextFailedTxRetry`; `locked` are the rows another transaction
holds, which `SKIP LOCKED` passes over. -/
def prepareNextFailedTxRetry (db : DB) (now : Time) (lane : Lane) (locked : List ℕ) : Result ℕ :=
  if lane.chainEID = 0 then
    rollback db (.message "chain eid is required")
  else if lane.signerID = "" then
    rollback db (.message "signer id is required")
  else
    match firstBy (fun row => [row.nextRetryAt.getD 0, row.id])
        (db.tx.outbox.rows.filter fun row =>
          autoRetryCandidate db.tx now lane row && !(decide (row.id ∈ locked))) with
    | none => rollback db .noFailedTxRetry
    | some row =>
      if row.nonce = none ∨ row.failureKind = some .estimateGasRevert then
        requeueBehindScope db now row .noFailedTxRetry
      else if row.failureKind = some .receiptFailed then
        cloneBehindWorkflow db now row .noFailedTxRetry
      else rollback db .noFailedTxRetry

end Lazier.Store
