import Lazier.Store.Receipts

/-!
# Operator cancels and nonce reconciliation

A held lane always has an exit: a nonce reconciliation against the confirmed
chain nonce, an operator cancel with a same-nonce noop, or the resolution of an
externally consumed nonce.
-/

namespace Lazier.Store

open Library

/-! ## Cancels -/

/-- Statuses and holds an operator may cancel. -/
def TxStatus.cancelAllowed (status : TxStatus) : Bool :=
  status.cancelable && !(decide (status = .held .nonceConsumedExternally))

/-- `RequestTxCancel`: record the intent and revoke any signing lease.  A row
whose active attempt already is a cancel gets one cancel fee bump. -/
def requestTxCancel (db : DB) (now : Time) (id : ℕ) : Result Unit :=
  if id = 0 then
    rollback db (.message "outbox tx id is required")
  else
    match db.tx.outbox.find id with
    | none => rollback db (.message s!"outbox tx {id} is not cancelable")
    | some row =>
      if row.nonce ≠ none ∧ row.status.cancelAllowed ∧ row.receipt = none then
        let activeIsCancel : Bool :=
          match activeAttempt db.tx row with
          | none => false
          | some attempt => decide (attempt.kind = .cancel)
        commit (db.withTx (db.tx.setRow
          { row with
            cancelRequestedAt := some now
            cancelDeferUntil := none
            preSignFailureCount := 0
            nextSignAt := none
            replaceRequestedAt := if activeIsCancel then some now else none
            lease := none
            updatedAt := now })) ()
      else rollback db (.message s!"outbox tx {id} is not cancelable")

/-- The selection of `NextCancelCandidate`: a due cancel request without a
cancel attempt. -/
def cancelCandidate (tx : TxTables) (now : Time) (lane : Lane) (row : OutboxRow) : Bool :=
  decide (row.lane = lane) &&
    (match row.cancelRequestedAt with
      | none => false
      | some time => decide (time ≤ now)) &&
    due row.cancelDeferUntil now && row.nonce.isSome &&
    row.status.cancelAllowed && leaseFree row.lease now &&
    (match activeAttempt tx row with
      | none => true
      | some attempt => decide (attempt.kind ≠ .cancel)) &&
    decide (row.preSignFailureCount < txMaxPreSignFailures) &&
    due row.nextSignAt now && row.receipt.isNone

/-- `NextCancelCandidate`; `none` is `ErrNoCancelWork`. -/
def nextCancelCandidate (db : DB) (now : Time) (lane : Lane) :
    Except StoreError (Option OutboxTx) :=
  if lane.chainEID = 0 ∨ lane.signerID = "" then
    .error (.message "chain and signer are required")
  else
    .ok ((firstBy (fun row => [row.cancelRequestedAt.getD 0, row.id])
      (db.tx.outbox.rows.filter (cancelCandidate db.tx now lane))).map
        fun row => ⟨row, activeAttempt db.tx row⟩)

def deferCancel (db : DB) (now : Time) (id : ℕ) : Result Unit :=
  if id = 0 then
    rollback db (.message "outbox tx id is required")
  else
    match db.tx.outbox.find id with
    | none => commit db ()
    | some row =>
      if row.cancelRequestedAt ≠ none ∧ ¬ row.status.terminal then
        commit (db.withTx (db.tx.setRow
          { row with
            cancelDeferUntil := some (now + txReplacementDeferDelay)
            updatedAt := now })) ()
      else commit db ()

/-- `ClaimOutboxForCancelSigning`; an expected attempt id of zero stands for a
row without any attempt. -/
def claimOutboxForCancelSigning (db : DB) (now : Time) (id expectedActiveAttemptID : ℕ)
    (leaseToken : UUID) (leaseTTL : Duration) : Result OutboxTx :=
  if id = 0 ∨ leaseTTL ≤ 0 then
    rollback db (.message "cancel signing claim requires an id and a positive ttl")
  else
    match db.tx.outbox.find id with
    | none => rollback db .outboxLeaseLost
    | some row =>
      if ¬ (row.nonce ≠ none ∧ leaseFree row.lease now) then
        rollback db .outboxLeaseLost
      else if row.cancelRequestedAt = none ∨ row.receipt ≠ none then
        rollback db .outboxLeaseLost
      else if row.activeAttemptID.getD 0 ≠ expectedActiveAttemptID then
        rollback db .activeAttemptChanged
      else if row.status.cancelAllowed then
        let leased : OutboxRow :=
          { row with
            lease := some ⟨leaseToken, now + leaseTTL⟩
            updatedAt := now }
        claimed (db.withTx (db.tx.setRow leased)) leased
      else
        rollback db (.message s!"outbox tx {id} is not cancelable in status {row.status.text}")

/-- `CASE WHEN status IN ('queued', 'nonce_assigned', 'held') THEN 'signed'
ELSE status END`. -/
def canceledStatus : TxStatus → TxStatus
  | .queued => .signed
  | .nonceAssigned => .signed
  | .held _ => .signed
  | status => status

/-- `InsertCancelAttempt`: the intent is not cleared, it lasts until the row is
terminal. -/
def insertCancelAttempt (db : DB) (now : Time) (outboxID expectedActiveAttemptID : ℕ)
    (leaseToken : UUID) (signed : SignedAttempt) : Result AttemptRow :=
  if outboxID = 0 then
    rollback db (.message "outbox id is required")
  else if signed.kind ≠ .cancel then
    rollback db (.message s!"cancel attempt kind \"{signed.kind.text}\" must be \"cancel\"")
  else
    recoverAttempt db outboxID signed <|
      match db.tx.outbox.find outboxID with
      | none => rollback db .outboxLeaseLost
      | some row =>
        if ¬ leaseHeldBy row.lease leaseToken now then
          rollback db .outboxLeaseLost
        else if row.cancelRequestedAt = none ∨ row.receipt ≠ none then
          -- The row terminalized or pinned its receipt while signing.
          rollback db .outboxLeaseLost
        else if row.activeAttemptID.getD 0 ≠ expectedActiveAttemptID then
          rollback db .activeAttemptChanged
        else if ¬ row.status.cancelAllowed then
          rollback db .activeAttemptChanged
        else if row.nonce ≠ some signed.nonce then
          rollback db (nonceMismatch signed outboxID)
        else
          persistAttempt db row signed
            { row with
              status := canceledStatus row.status
              lease := none
              preSignFailureCount := 0
              nextSignAt := none
              updatedAt := now }

/-! ## Nonce reconciliation -/

/-- One held row selected for a reconciliation pass. -/
structure NonceReconcileHold where
  id : ℕ
  nonce : ℕ
  cancelRequested : Bool
  activeKind : Option AttemptKind
  deriving DecidableEq

def extendNonceReconciliation (db : DB) (now : Time) (lane : Lane) (token : UUID)
    (leaseTTL : Duration) : Result Unit :=
  if lane.chainEID = 0 ∨ lane.signerID = "" ∨ leaseTTL ≤ 0 then
    rollback db (.message
      "nonce reconciliation extension requires chain, signer, and a positive ttl")
  else
    match db.tx.cursors.find lane with
    | none => rollback db .outboxLeaseLost
    | some cursor =>
      if leaseHeldBy cursor.reconcileLease token now then
        commit (db.withTx (db.tx.setCursor
          { cursor with reconcileLease := some ⟨token, now + leaseTTL⟩ })) ()
      else rollback db .outboxLeaseLost

/-- Rows of the lane waiting for reconciliation. -/
def reconcileHolds (tx : TxTables) (lane : Lane) : List OutboxRow :=
  (tx.outbox.rows.filter fun row =>
    decide (row.lane = lane ∧ row.status = .held .nonceReconcileRequired ∧
      row.receipt = none)).insertionSort fun left right =>
          [(left.nonce.getD 0 : ℤ), left.id] ≤ [right.nonce.getD 0, right.id]

/-- The query of `ClaimNonceReconciliation`, a statement of its own. -/
def selectReconcileHolds (db : DB) (lane : Lane) : Except StoreError (List NonceReconcileHold) :=
  let held := reconcileHolds db.tx lane
  if held.any fun row => row.nonce.isNone then
    .error (.message "cannot scan NULL into *int64")
  else .ok (held.map fun row =>
    ⟨row.id, row.nonce.getD 0, row.cancelRequestedAt.isSome,
      (activeAttempt db.tx row).map AttemptRow.kind⟩)

/-- `ClaimNonceReconciliation` after its query, which has answered `holds`. -/
def claimNonceReconciliation (db : DB) (now : Time) (lane : Lane) (token : UUID)
    (leaseTTL : Duration) (holds : List NonceReconcileHold) : Result (List NonceReconcileHold) :=
  if lane.chainEID = 0 ∨ lane.signerID = "" ∨ leaseTTL ≤ 0 then
    rollback db (.message "nonce reconciliation claim requires chain, signer, and positive ttl")
  else if holds.isEmpty then rollback db .noNonceReconcileWork
  else
    match db.tx.cursors.find lane with
    | none => rollback db .noNonceReconcileWork
    | some cursor =>
      if leaseFree cursor.reconcileLease now ∧ due cursor.nextReconcileAt now then
        commit (db.withTx (db.tx.setCursor
          { cursor with reconcileLease := some ⟨token, now + leaseTTL⟩ })) holds
      else rollback db .noNonceReconcileWork

/-- `LoadNonceReconcileAttemptHashes`: the hashes of the attempts that were
sent, by outbox id. -/
def loadNonceReconcileAttemptHashes (db : DB) (holdIDs : List ℕ) (id : ℕ) : List Hash :=
  if id ∈ holdIDs then
    (db.tx.attempts.rows.filter fun attempt =>
      decide (attempt.outboxID = id) && attempt.state.sent).map AttemptRow.txHash
  else []

def finishNonceReconciliation (db : DB) (now : Time) (lane : Lane) (token : UUID)
    (backoff : Duration) : Result Unit :=
  match db.tx.cursors.find lane with
  | none => commit db ()
  | some cursor =>
    if cursor.reconcileLease.map Lease.token = some token then
      commit (db.withTx (db.tx.setCursor
        { cursor with
          reconcileLease := none
          nextReconcileAt := some (now + backoff) })) ()
    else commit db ()

inductive NonceReconcileAction
  | release
  | markExternal
  deriving DecidableEq

/-- The reconciliation outcome for one held row. -/
structure NonceReconcileDecision where
  id : ℕ
  action : NonceReconcileAction
  deriving DecidableEq

structure NonceReconcileResult where
  changed : ℕ
  previousCursor : ℕ
  cursorForwarded : Bool
  deriving DecidableEq

/-- A released row returns to broadcast only while its active attempt can still
be replayed. -/
def releasedStatus (active : AttemptRow) : TxStatus :=
  if (active.state = .signed ∨ active.state = .ambiguous) ∧
      active.broadcastCount ≥ txMaxBroadcasts then
    .held .broadcastExhausted
  else .broadcast

/-- One decision with its own compare-and-set; the count is of rows changed. -/
def applyDecision (now : Time) (evidence : String) (progress : TxTables × ℕ)
    (decision : NonceReconcileDecision) : TxTables × ℕ :=
  match progress.1.outbox.find decision.id with
  | none => progress
  | some row =>
    if row.status = .held .nonceReconcileRequired ∧ row.receipt = none then
      match decision.action with
      | .release =>
        match row.activeAttemptID.bind progress.1.attempts.find with
        | none => progress
        | some active =>
          (progress.1.setRow
            { row with
              status := releasedStatus active
              updatedAt := now }, progress.2 + 1)
      | .markExternal =>
        (progress.1.setRow
          { row with
            status := .held .nonceConsumedExternally
            lastError := some evidence
            updatedAt := now }, progress.2 + 1)
    else progress

/-- The cursor after the confirmed nonce is published. -/
def NonceCursor.publish (cursor : NonceCursor) (now : Time) (confirmedNonce : ℕ)
    (backoff : Duration) : NonceCursor :=
  { cursor with
    reconcileLease := none
    nextReconcileAt := some (now + backoff)
    nextNonce := max cursor.nextNonce confirmedNonce }

/-- `ApplyNonceReconciliation`: fast-forward the cursor before any row state
becomes visible, then apply every decision.  `observed` is the client's
formatted clock in the evidence text. -/
def applyNonceReconciliation (db : DB) (now : Time) (lane : Lane) (token : UUID)
    (confirmedNonce confirmedBlock : ℕ) (backoff : Duration) (observed : String)
    (decisions : List NonceReconcileDecision) :
    Result NonceReconcileResult :=
  if lane.chainEID = 0 ∨ lane.signerID = "" ∨ backoff ≤ 0 then
    rollback db (.message "apply nonce reconciliation requires chain, signer, and positive backoff")
  else if confirmedNonce > maxDBNonce then
    rollback db (.message s!"confirmed nonce {confirmedNonce} exceeds database limit")
  else
    match db.tx.cursors.find lane with
    | none => rollback db .outboxLeaseLost
    | some cursor =>
      if leaseHeldBy cursor.reconcileLease token now then
        let evidence :=
          s!"nonce consumed externally: confirmed nonce {confirmedNonce} at block " ++
            s!"{confirmedBlock} observed {observed}"
        let applied := decisions.foldl (applyDecision now evidence)
          (db.tx.setCursor (cursor.publish now confirmedNonce backoff), 0)
        commit (db.withTx applied.1)
          ⟨applied.2, cursor.nextNonce, decide (cursor.nextNonce < confirmedNonce)⟩
      else rollback db .outboxLeaseLost

/-! ## Externally consumed nonces -/

/-- `terminalizeExternallyConsumed` as a row update. -/
def OutboxRow.consumeExternally (row : OutboxRow) (now : Time) : OutboxRow :=
  { row with
    status := .failed
    failureKind := some .nonceConsumedExternally
    nextRetryAt := none
    cancelRequestedAt := none
    cancelDeferUntil := none
    lease := none
    updatedAt := now }

def heldExternally (row : OutboxRow) : Bool :=
  decide (row.status = .held .nonceConsumedExternally ∧ row.receipt = none)

def notHeldExternally (id : ℕ) : StoreError :=
  .message s!"outbox tx {id} is not held as externally consumed"

/-- `requireWorkflowEnqueuedInTx`: the owning job still waits on this
transaction. -/
def requireWorkflowEnqueued (work : WorkTables) (purpose : Purpose) (guid : Hash) :
    Except StoreError Unit :=
  let missing : StoreError := .message
    s!"workflow job {guid.hex} not found for purpose {purpose.text}"
  let advanced (status : String) : StoreError := .message
    (s!"workflow job {guid.hex} advanced to {status}; retry would duplicate a task no longer " ++
      "waiting on this transaction (use -resolution abandon)")
  let executor (expected : ExecutorState) : Except StoreError Unit :=
    match work.executorJobs.find guid with
    | none => .error missing
    | some job =>
      if job.status = expected then .ok ()
      else .error (advanced job.status.text)
  match purpose with
  | .executorCommitVerification => executor .commitTxEnqueued
  | .executorLzReceive => executor .lzReceiveTxEnqueued
  | .dvnVerify =>
    match work.dvnJobs.find guid with
    | none => .error missing
    | some job =>
      if job.status = .verifyTxEnqueued then .ok ()
      else .error (advanced job.status.text)
  | _ => .ok ()

/-- The workflow check is made only for rows that carry a packet guid. -/
def requireRowWorkflow (work : WorkTables) (row : OutboxRow) : Except StoreError Unit :=
  match row.guid with
  | none => .ok ()
  | some guid =>
    if guid.length = 32 then
      requireWorkflowEnqueued work row.purpose (bytesToHash guid)
    else .ok ()

def resolveExternalNonceRetry (db : DB) (now : Time) (id : ℕ) : Result ℕ :=
  if id = 0 then
    rollback db (.message "outbox tx id is required")
  else
    match db.tx.outbox.find id with
    | none => rollback db (.message s!"outbox tx {id} not found")
    | some row =>
      if row.purpose = .pricingSetPriceSnapshot then
        rollback db (.message
          (s!"outbox tx {id} carries a pricing observation; use -resolution abandon and let the " ++
            "price bot rebuild"))
      else
        match lockTxSendScope db row.chainEID row.purpose (row.guid.getD []) with
        | .error error => rollback db error
        | .ok () =>
          match requireRowWorkflow db.work row with
          | .error error => rollback db error
          | .ok () =>
            if heldExternally row then
              let ended := db.tx.setRow (row.consumeExternally now)
              commit (db.withTx (ended.addRow (cloneRow ended.outbox.next now row) rfl))
                ended.outbox.next
            else rollback db (notHeldExternally id)

/-- `parkExecutorManualReviewInTx`: a job and packet that disagree are not half
parked. -/
def parkExecutorManualReview (work : WorkTables) (now : Time) (guid : Hash)
    (expected : ExecutorState) (reason : String) :
    Except StoreError WorkTables :=
  match work.executorJobs.find guid with
  | none => .ok work
  | some job =>
    if job.status ≠ expected then .ok work
    else
      match work.packets.find guid with
      | none =>
        .error (.message
          s!"packet {guid.hex} is not in status {expected.text} while its executor job was")
      | some packet =>
        if packet.status = expected then
          .ok ((work.setExecutorJob
            { job with
              status := .manualReview
              lastError := some reason
              updatedAt := now }).setPacketStatus guid .manualReview)
        else
          .error (.message
            s!"packet {guid.hex} is not in status {expected.text} while its executor job was")

def parkWorkflowManualReview (work : WorkTables) (now : Time) (purpose : Purpose) (guid : Hash)
    (reason : String) :
    Except StoreError WorkTables :=
  match purpose with
  | .executorCommitVerification =>
    parkExecutorManualReview work now guid .commitTxEnqueued reason
  | .executorLzReceive =>
    parkExecutorManualReview work now guid .lzReceiveTxEnqueued reason
  | .dvnVerify =>
    match work.dvnJobs.find guid with
    | none => .ok work
    | some job =>
      if job.status = .verifyTxEnqueued then
        .ok (work.setDVNJob
          { job with
            status := .manualReview
            lastError := some reason
            updatedAt := now })
      else .ok work
  | _ => .ok work

def parkRowWorkflow (work : WorkTables) (now : Time) (row : OutboxRow) (reason : String) :
    Except StoreError WorkTables :=
  match row.guid with
  | none => .ok work
  | some guid =>
    if guid.length = 32 then
      parkWorkflowManualReview work now row.purpose (bytesToHash guid) reason
    else .ok work

def resolveExternalNonceAbandon (db : DB) (now : Time) (id : ℕ) : Result Unit :=
  if id = 0 then
    rollback db (.message "outbox tx id is required")
  else
    match db.tx.outbox.find id with
    | none => rollback db (.message s!"outbox tx {id} not found")
    | some row =>
      if ¬ heldExternally row then rollback db (notHeldExternally id)
      else
        match parkRowWorkflow db.work now row
            "transaction nonce consumed externally; task abandoned by operator"
            with
        | .error error => rollback db error
        | .ok work =>
          commit ((db.withWork work).withTx (db.tx.setRow (row.consumeExternally now))) ()

end Lazier.Store
