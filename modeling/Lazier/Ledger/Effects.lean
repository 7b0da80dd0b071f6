import Lazier.Ledger.Quiet
import Lazier.Workflow.JobMoves

/-!
# Effects of transaction methods

Every transaction method is quiet or does one of a few things: it inserts a
row, ends one, pins a receipt, or returns a failed task to the queue.  Each
effect is stated once with its guards and with what it does to the owning job;
invariants about retries and about jobs are case analyses of these effects.
-/

namespace Lazier.Ledger

open Library Store SerialTable

variable {paused : StoreError} {guid : Hash} {given request : TxRequest} {clock now : Time}
  {attemptID id : ℕ} {facts : TxReceiptFacts} {db : DB} {op : TxOp} {row : OutboxRow}

/-! ## Rows after an effect -/

/-- A queued row whose gas estimate reverted. -/
def revertedRow (row : OutboxRow) (now : Time) (retryAt : Option Time)
    (failure : String) : OutboxRow :=
  { row with
    status := .failed
    failureKind := some .estimateGasRevert
    nextRetryAt := retryAt
    lastError := optionalString failure
    updatedAt := now }

def pinnedRow (row : OutboxRow) (now : Time) (resolution : Resolution) : OutboxRow :=
  { row with receipt := some resolution, updatedAt := now }

/-- A failed row that is retried in place. -/
def requeuedRow (row : OutboxRow) (now : Time) : OutboxRow :=
  { row with
    status := .queued
    attempts := row.attempts + 1
    failureKind := none
    nextRetryAt := none
    lastError := none
    updatedAt := now }

/-- A failed row whose scope is paused. -/
def deferredRow (row : OutboxRow) (now : Time) : OutboxRow :=
  { row with
    nextRetryAt := some (now + txRetryScopeDeferDelay)
    updatedAt := now }

/-- A failed row whose automatic retry is stopped. -/
def settledRow (row : OutboxRow) (now : Time) : OutboxRow :=
  { row with failureKind := none, nextRetryAt := none, updatedAt := now }

/-- A failed row after its clone was inserted. -/
def retriedRow (row : OutboxRow) (now : Time) : OutboxRow :=
  { row with nextRetryAt := none, updatedAt := now }

/-! ## Retries -/

/-- The row the automatic retry takes. -/
def autoRetryRow (tx : TxTables) (now : Time) (lane : Lane) (locked : List ℕ) : Option OutboxRow :=
  firstBy (fun row => [row.nextRetryAt.getD 0, row.id])
    (tx.outbox.rows.filter fun row =>
      autoRetryCandidate tx now lane row && !(decide (row.id ∈ locked)))

/-- The method may return this row to the queue. -/
inductive RetryCall (tx : TxTables) (row : OutboxRow) : TxOp → Prop
  | operator {now : Time} (hallowed : retryFailedTxRefusal tx row = none) :
      RetryCall tx row (.retryFailedTx now row.id)
  | automatic {now : Time} {lane : Lane} {locked : List ℕ}
      (hcandidate : autoRetryCandidate tx now lane row = true)
      (hselected : autoRetryRow tx now lane locked = some row) :
      RetryCall tx row (.prepareNextFailedTxRetry now lane locked)

/-- Rows that are retried in place rather than cloned. -/
def Requeues (row : OutboxRow) : Prop := row.nonce = none ∨ row.failureKind ≠ some .receiptFailed

/-- The job of a reverted delivery. -/
structure DeliveryJob (work : WorkTables) (row : OutboxRow) (guid : Hash)
    (job : ExecutorJobRow) : Prop where
  purpose : row.purpose = .executorLzReceive
  carries : row.guid = some guid.1
  found : work.executorJobs.find guid = some job

/-- A job with a new status and a new error text. -/
def restatedJob (now : Time) (next : ExecutorState) (failure : Option String)
    (job : ExecutorJobRow) : ExecutorJobRow :=
  { job with status := next, lastError := failure, updatedAt := now }

/-- The workflow tables with a reverted delivery enqueued again. -/
def restoreDelivery (work : WorkTables) (now : Time) (guid : Hash)
    (job : ExecutorJobRow) : WorkTables :=
  (work.setExecutorJob (restatedJob now .lzReceiveTxEnqueued none job)
    ).casPacketStatus guid .lzReceiveFailed .lzReceiveTxEnqueued

/-- The workflow tables with a delivery out of budget parked. -/
def parkDelivery (work : WorkTables) (now : Time) (guid : Hash)
    (job : ExecutorJobRow) : WorkTables :=
  (work.setExecutorJob (restatedJob now .manualReview (some (retryBudgetReason job.retryCount)) job)
    ).casPacketStatus guid .lzReceiveFailed .manualReview

/-- The workflow tables beside a clone. -/
inductive Restores (work : WorkTables) (row : OutboxRow) : WorkTables → Prop
  | other (hother : row.purpose ≠ .executorLzReceive ∨ row.guid = none) : Restores work row work
  | delivery {now : Time} {guid : Hash} {job : ExecutorJobRow}
      (hjob : DeliveryJob work row guid job) (hfailed : job.status = .lzReceiveFailed)
      (hbudget : job.retryCount < maxLzReceiveDeliveryAttempts) :
      Restores work row (restoreDelivery work now guid job)

/-- The workflow tables beside a failed delivery that is not retried. -/
inductive Settles (work : WorkTables) (row : OutboxRow) : WorkTables → Prop
  | kept {guid : Hash} {job : ExecutorJobRow}
      (hjob : DeliveryJob work row guid job) : Settles work row work
  | exhausted {now : Time} {guid : Hash} {job : ExecutorJobRow}
      (hjob : DeliveryJob work row guid job) (hfailed : job.status = .lzReceiveFailed)
      (hbudget : maxLzReceiveDeliveryAttempts ≤ job.retryCount) :
      Settles work row (parkDelivery work now guid job)

/-- A row with a receipt failure, which consumed its nonce. -/
structure Cloneable (db : DB) (op : TxOp) (row : OutboxRow) : Prop where
  call : RetryCall db.tx row op
  found : db.tx.outbox.find row.id = some row
  failed : row.status = .failed
  kind : row.failureKind = some .receiptFailed
  nonce : row.nonce ≠ none

/-- The send-scope gate lets the row pass. -/
def ScopeOpen (db : DB) (row : OutboxRow) : Prop :=
  lockTxSendScope db row.chainEID row.purpose (row.guid.getD []) = .ok ()

/-- The ways a retry of a failed row ends. -/
inductive RetryResult (db : DB) (op : TxOp) : Result ℕ → Prop
  | refused (error : StoreError) : RetryResult db op (rollback db error)
  | deferred (row : OutboxRow) (now : Time) (paused : StoreError) (hcall : RetryCall db.tx row op)
      (hfound : db.tx.outbox.find row.id = some row) (hfailed : row.status = .failed)
      (hpath : Requeues row ∨ row.purpose ≠ .executorLzReceive) : RetryResult db op
        (commitError (db.withTx (db.tx.setRow (deferredRow row now))) paused)
  | requeued (row : OutboxRow) (now : Time) (hcall : RetryCall db.tx row op)
      (hfound : db.tx.outbox.find row.id = some row)
      (hfailed : row.status = .failed) (hreceipt : row.receipt = none)
      (hpath : Requeues row) (hscope : ScopeOpen db row) : RetryResult db op
        (commit (db.withTx (db.tx.setRow (requeuedRow row now))) row.id)
  | settled (row : OutboxRow) (now : Time) (work : WorkTables)
      (hrow : Cloneable db op row) (hwork : Settles db.work row work) : RetryResult db op
        (commitError ((db.withWork work).withTx
          (db.tx.setRow (settledRow row now))) .noFailedTxRetry)
  | cloned (row : OutboxRow) (now : Time) (work : WorkTables) (hrow : Cloneable db op row)
      (hchild : hasRetryChild db.tx row.id = false) (hwork : Restores db.work row work)
      (hscope : (row.purpose = .executorLzReceive → row.guid ≠ none) → ScopeOpen db row) :
      RetryResult db op
        (commit ((db.withWork work).withTx
          ((db.tx.addRow (cloneRow db.tx.outbox.next now row) rfl).setRow
            (retriedRow row now))) db.tx.outbox.next)

theorem requeueBehindScope_result (now : Time) (hcall : RetryCall db.tx row op)
    (hfound : db.tx.outbox.find row.id = some row) (hfailed : row.status = .failed)
    (hpath : Requeues row) : RetryResult db op (requeueBehindScope db now row paused) := by
  unfold requeueBehindScope
  split
  · exact .deferred row now paused hcall hfound hfailed (.inl hpath)
  · exact .refused _
  · rename_i hscope
    unfold requeueFailedTx
    split
    · exact .refused _
    · rename_i hrequeue
      split at hrequeue
      · rename_i hguard
        cases hrequeue
        exact .requeued row now hcall hfound hfailed hguard.2 hpath hscope
      · cases hrequeue

theorem guid_of_length {guid : Bytes} (hguid : row.guid = some guid) (hlength : guid.length = 32) :
    row.guid = some (bytesToHash guid).1 := by
  have hsame : bytesToHash guid = ⟨guid, hlength⟩ := FixedBytes.ofBytes_val ⟨guid, hlength⟩
  rw [hguid, hsame]

theorem prepareReceiptRetryWorkflow_cases {prepared : DB} {proceed : Bool}
    (hprepare : prepareReceiptRetryWorkflow db now row = .ok (prepared, proceed)) :
    (proceed = true ∧ ∃ work, Restores db.work row work ∧ prepared = db.withWork work ∧
      (row.purpose = .executorLzReceive → row.guid ≠ none → ScopeOpen db row)) ∨
      (proceed = false ∧ ∃ work, Settles db.work row work ∧ prepared = (db.withWork work).withTx
          (db.tx.setRow (settledRow row now))) := by
  unfold prepareReceiptRetryWorkflow at hprepare
  split at hprepare
  · rename_i hnone
    cases hprepare
    exact .inl ⟨rfl, db.work, .other (.inr hnone), rfl, fun _ hsome => absurd hnone hsome⟩
  rename_i guid hguid
  split at hprepare
  · rename_i hpurpose
    cases hprepare
    exact .inl ⟨rfl, db.work, .other (.inl hpurpose), rfl, fun hother => absurd hother hpurpose⟩
  rename_i hpurpose
  rw [not_not] at hpurpose
  split at hprepare
  · cases hprepare
  rename_i hlength
  rw [not_not] at hlength
  dsimp only at hprepare
  split at hprepare
  · cases hprepare
  rename_i job hjob
  have hdelivery : DeliveryJob db.work row (bytesToHash guid) job :=
    ⟨hpurpose, guid_of_length hguid hlength, hjob⟩
  split at hprepare
  · rename_i hfailed
    split at hprepare
    · rename_i hbudget
      cases hprepare
      exact .inr ⟨rfl, _, .exhausted hdelivery hfailed hbudget, rfl⟩
    rename_i hbudget
    split at hprepare
    · cases hprepare
      exact .inr ⟨rfl, db.work, .kept hdelivery, rfl⟩
    · cases hprepare
    · rename_i hscope
      cases hprepare
      refine .inl ⟨rfl, _, .delivery hdelivery hfailed (not_le.mp hbudget), rfl, fun _ _ => ?_⟩
      rw [ScopeOpen, hguid, hpurpose]
      exact hscope
  · cases hprepare
    exact .inr ⟨rfl, db.work, .kept hdelivery, rfl⟩
  · cases hprepare
    exact .inr ⟨rfl, db.work, .kept hdelivery, rfl⟩
  · cases hprepare
    exact .inr ⟨rfl, db.work, .kept hdelivery, rfl⟩
  · cases hprepare

theorem cloneBehindWorkflow_result (now : Time) (hrow : Cloneable db op row) :
    RetryResult db op (cloneBehindWorkflow db now row paused) := by
  unfold cloneBehindWorkflow
  dsimp only
  split
  · rename_i hscope
    refine .deferred row now paused hrow.call hrow.found hrow.failed (.inr fun hpurpose => ?_)
    rw [if_pos hpurpose] at hscope
    cases hscope
  · exact .refused _
  rename_i hscope
  split
  · exact .refused _
  · rename_i prepared hprepare
    rcases prepareReceiptRetryWorkflow_cases hprepare with
      ⟨hgo, -⟩ | ⟨-, work, hsettles, rfl⟩
    · cases hgo
    · exact .settled row now work hrow hsettles
  · rename_i prepared hprepare
    rcases prepareReceiptRetryWorkflow_cases hprepare with
      ⟨-, work, hrestores, rfl, hopen⟩ | ⟨hgo, -⟩
    · unfold cloneFailedTxRetry
      split
      · exact .refused _
      · rename_i hclone
        split at hclone
        · rename_i hguard
          cases hclone
          refine .cloned row now work hrow (Bool.eq_false_iff.mpr hguard.2.2)
            hrestores fun hguid => ?_
          by_cases hpurpose : row.purpose = .executorLzReceive
          · exact hopen hpurpose (hguid hpurpose)
          · rw [if_neg hpurpose] at hscope
            exact hscope
        · cases hclone
    · cases hgo

theorem retryFailedTx_result (db : DB) (now : Time) (id : ℕ) :
    RetryResult db (.retryFailedTx now id) (retryFailedTx db now id) := by
  unfold retryFailedTx
  split
  · exact .refused _
  rename_i row hfind
  obtain ⟨-, rfl⟩ := find_eq_some.mp hfind
  split
  · exact .refused _
  rename_i hfailed
  rw [not_not] at hfailed
  split
  · exact .refused _
  rename_i hallowed
  split
  · rename_i hpath
    exact requeueBehindScope_result now (.operator hallowed) hfind hfailed hpath
  · rename_i hpath
    rw [not_or, not_not] at hpath
    exact cloneBehindWorkflow_result now ⟨.operator hallowed, hfind, hfailed, hpath.2, hpath.1⟩

theorem autoRetryCandidate_failed {tx : TxTables} {lane : Lane}
    (hcandidate : autoRetryCandidate tx now lane row = true) :
    row.status = .failed ∧ row.attempts < txAutoRetryMaxAttempts ∧
      hasRetryChild tx row.id = false := by
  simp only [autoRetryCandidate, Bool.and_eq_true, decide_eq_true_eq,
    Bool.not_eq_true'] at hcandidate
  exact ⟨hcandidate.1.1.1.1.2.1, hcandidate.1.1.1.1.2.2, hcandidate.2⟩

theorem prepareNextFailedTxRetry_result (db : DB) (now : Time) (lane : Lane) (locked : List ℕ) :
    RetryResult db (.prepareNextFailedTxRetry now lane locked)
      (prepareNextFailedTxRetry db now lane locked) := by
  unfold prepareNextFailedTxRetry
  split
  · exact .refused _
  split
  · exact .refused _
  split
  · exact .refused _
  rename_i row hfirst
  obtain ⟨hmem, hfilter⟩ := List.mem_filter.mp (mem_of_firstBy_eq_some hfirst)
  have hcandidate : autoRetryCandidate db.tx now lane row = true :=
    (Bool.and_eq_true _ _ ▸ hfilter).1
  have hfind := find_of_mem hmem
  have hfailed := (autoRetryCandidate_failed hcandidate).1
  split
  · rename_i hpath
    refine requeueBehindScope_result now (.automatic hcandidate hfirst) hfind hfailed ?_
    rcases hpath with hnonce | hkind
    · exact .inl hnonce
    · exact .inr (by simp [hkind])
  rename_i hpath
  split
  · rename_i hkind
    exact cloneBehindWorkflow_result now
      ⟨.automatic hcandidate hfirst, hfind, hfailed, hkind, (not_or.mp hpath).1⟩
  · exact .refused _

/-! ## All transaction methods -/

/-- The job behind an enqueued executor transaction. -/
def enqueueJob (work : WorkTables) (now : Time) (guid : Hash)
    (next : ExecutorState) (job : ExecutorJobRow) : WorkTables :=
  (work.setExecutorJob { job with status := next, updatedAt := now }).setPacketStatus guid next

/-- The attempt and the row that a receipt is about. -/
structure ReceiptOf (db : DB) (attemptID : ℕ) (facts : TxReceiptFacts)
    (attempt : AttemptRow) (row : OutboxRow) : Prop where
  valid : facts.validationError = none
  found : db.tx.attempts.find attemptID = some attempt
  hash : attempt.txHash = facts.txHash
  owner : db.tx.outbox.find attempt.outboxID = some row

/-- What a transaction method leaves behind. -/
inductive TxEffect (db : DB) : TxOp → DB → Prop
  | unchanged {op : TxOp} : TxEffect db op db
  | quiet {op : TxOp} {post : DB} (hop : quietOp op = true)
      (hquiet : QuietDB db post) : TxEffect db op post
  | enqueuedTx {now : Time} {request : TxRequest}
      (hscope : lockTxSendScope db request.chainEID request.purpose request.guid = .ok ()) :
      TxEffect db (.enqueueTx now request) (db.withTx (insertQueued db.tx now request))
  | enqueuedPricing {now : Time} {request : TxRequest}
      (hpurpose : request.purpose = .pricingSetPriceSnapshot)
      (hscope : lockTxSendScope db request.chainEID request.purpose request.guid = .ok ()) :
      TxEffect db (.enqueuePricingSnapshotTx now request)
        (db.withTx (insertQueued db.tx now request))
  | enqueuedExecutor {now : Time} {guid : Hash} {expected next : ExecutorState}
      {given : TxRequest} {job : ExecutorJobRow} (hguid : guid ≠ Hash.zero)
      (hrequest : (given.withGUID guid).guid = guid.1)
      (hjob : db.work.executorJobs.find guid = some job) (hstatus : job.status = expected)
      (hscope : lockTxSendScope db (given.withGUID guid).chainEID
        (given.withGUID guid).purpose (given.withGUID guid).guid = .ok ()) :
      TxEffect db (.enqueueExecutorTx now guid expected next given)
        ((db.withWork (enqueueJob db.work now guid next job)).withTx
          (insertQueued db.tx now (given.withGUID guid)))
  | enqueuedDVN {now : Time} {guid : Hash} {expected next : DVNState}
      {given : TxRequest} {quorumResult : Option QuorumResult}
      {job : DVNJobRow} (hguid : guid ≠ Hash.zero) (hrequest : (given.withGUID guid).guid = guid.1)
      (hjob : db.work.dvnJobs.find guid = some job) (hstatus : job.status = expected)
      (hscope : lockTxSendScope db (given.withGUID guid).chainEID
        (given.withGUID guid).purpose (given.withGUID guid).guid = .ok ()) :
      TxEffect db (.enqueueDVNVerifyTx now guid expected next given quorumResult)
        ((db.withWork (db.work.setDVNJob
          { job with status := next, quorumResult, updatedAt := now })).withTx
          (insertQueued db.tx now (given.withGUID guid)))
  | reverted {now clock : Time} {failure : String} {row : OutboxRow}
      (retryAt : Option Time) (hrow : db.tx.outbox.find row.id = some row)
      (hqueued : row.status = .queued) (hnonce : row.nonce = none) :
      TxEffect db (.markQueuedTxEstimateRevertFailed now clock row.id failure)
        (db.withTx (db.tx.setRow (revertedRow row now retryAt failure)))
  | operatorRetry {now : Time} {id : ℕ} {result : Result ℕ}
      (hresult : RetryResult db (.retryFailedTx now id) result) :
      TxEffect db (.retryFailedTx now id) result.1
  | automaticRetry {now : Time} {lane : Lane} {locked : List ℕ} {result : Result ℕ}
      (hresult : RetryResult db (.prepareNextFailedTxRetry now lane locked) result) :
      TxEffect db (.prepareNextFailedTxRetry now lane locked) result.1
  | pinned {now : Time} {attemptID : ℕ} {facts : TxReceiptFacts}
      {attempt : AttemptRow} {row : OutboxRow} (hreceipt : ReceiptOf db attemptID facts attempt row)
      (hfree : row.receipt = none) (hopen : row.status.terminal = false) :
      TxEffect db (.prepareReceiptResolution now attemptID facts)
        (db.withTx (db.tx.setRow (pinnedRow row now
          ⟨deriveOutcome attempt.kind row.cancelRequestedAt.isSome facts.status, attemptID⟩)))
  | finalized {now clock : Time} {attemptID : ℕ} {facts : TxReceiptFacts}
      {attempt : AttemptRow} {row : OutboxRow} {pinned : Resolution}
      (hreceipt : ReceiptOf db attemptID facts attempt row) (hpinned : row.receipt = some pinned)
      (hattempt : pinned.attemptId = attemptID) :
      TxEffect db (.finalizeAttemptReceipt now clock attemptID facts)
        (db.withTx ((db.tx.setAttempt { attempt with state := .mined }).setRow
          (row.finalize now clock attempt pinned.outcome facts)))
  | resolved {now : Time} {row : OutboxRow} (hrow : db.tx.outbox.find row.id = some row)
      (hheld : heldExternally row = true) (hworkflow : requireRowWorkflow db.work row = .ok ())
      (hscope : ScopeOpen db row) : TxEffect db (.resolveExternalNonceRetry now row.id)
        (db.withTx ((db.tx.setRow (row.consumeExternally now)).addRow
          (cloneRow db.tx.outbox.next now row) rfl))
  | abandoned {now : Time} {row : OutboxRow} {work : WorkTables}
      {reason : String} (hrow : db.tx.outbox.find row.id = some row)
      (hheld : heldExternally row = true)
      (hpark : parkRowWorkflow db.work now row reason = .ok work) :
      TxEffect db (.resolveExternalNonceAbandon now row.id)
        ((db.withWork work).withTx (db.tx.setRow (row.consumeExternally now)))

theorem effect_enqueueTx : TxEffect db (.enqueueTx now request) (enqueueTx db now request).1 := by
  unfold enqueueTx
  repeat' split
  · exact .unchanged
  · exact .unchanged
  · rename_i hscope
    exact .enqueuedTx hscope

theorem effect_enqueuePricingSnapshotTx : TxEffect db (.enqueuePricingSnapshotTx now request)
      (enqueuePricingSnapshotTx db now request).1 := by
  unfold enqueuePricingSnapshotTx
  split
  · exact .unchanged
  split
  · exact .unchanged
  rename_i hpurpose
  rw [not_not] at hpurpose
  repeat' split
  all_goals first
    | exact .unchanged
    | exact .enqueuedPricing hpurpose (by assumption)

theorem effect_enqueueExecutorTx {expected next : ExecutorState} :
    TxEffect db (.enqueueExecutorTx now guid expected next given)
      (enqueueExecutorTx db now guid expected next given).1 := by
  unfold enqueueExecutorTx
  dsimp only
  split
  · exact .unchanged
  rename_i hguid
  split
  · exact .unchanged
  rename_i hrequest
  split
  · exact .unchanged
  split
  · exact .unchanged
  rename_i job hjob
  split
  · exact .unchanged
  rename_i hstatus
  split
  · exact .unchanged
  · rename_i hscope
    exact .enqueuedExecutor hguid (not_not.mp hrequest) hjob (not_not.mp hstatus) hscope

theorem effect_enqueueDVNVerifyTx {expected next : DVNState} {quorumResult : Option QuorumResult} :
    TxEffect db (.enqueueDVNVerifyTx now guid expected next given quorumResult)
      (enqueueDVNVerifyTx db now guid expected next given quorumResult).1 := by
  unfold enqueueDVNVerifyTx
  dsimp only
  split
  · exact .unchanged
  rename_i hguid
  split
  · exact .unchanged
  rename_i hrequest
  split
  · exact .unchanged
  split
  · exact .unchanged
  split
  · exact .unchanged
  rename_i job hjob
  split
  · exact .unchanged
  rename_i hstatus
  split
  · exact .unchanged
  · rename_i hscope
    exact .enqueuedDVN hguid (not_not.mp hrequest) hjob (not_not.mp hstatus) hscope

theorem effect_markQueuedTxEstimateRevertFailed {failure : String} :
    TxEffect db (.markQueuedTxEstimateRevertFailed now clock id failure)
      (markQueuedTxEstimateRevertFailed db now clock id failure).1 := by
  unfold markQueuedTxEstimateRevertFailed
  split
  · exact .unchanged
  split
  · exact .unchanged
  rename_i row hfind
  obtain ⟨-, rfl⟩ := find_eq_some.mp hfind
  split
  · rename_i hguard
    exact .reverted _ hfind hguard.1 hguard.2.1
  · exact .unchanged

theorem effect_prepareReceiptResolution :
    TxEffect db (.prepareReceiptResolution now attemptID facts)
      (prepareReceiptResolution db now attemptID facts).1 := by
  unfold prepareReceiptResolution
  split
  · exact .unchanged
  split
  · exact .unchanged
  rename_i hfacts
  split
  · exact .unchanged
  rename_i attempt hattempt
  split
  · exact .unchanged
  rename_i hhash
  split
  · exact .unchanged
  rename_i row hrow
  split
  · split <;> exact .unchanged
  rename_i hfree
  split
  · exact .unchanged
  · rename_i hopen
    exact .pinned ⟨hfacts, hattempt, not_not.mp hhash, hrow⟩ hfree (Bool.eq_false_iff.mpr hopen)

/-- What `FinalizeAttemptReceipt` can do. -/
inductive FinalizeOutcome (db : DB) (now clock : Time) (attemptID : ℕ)
    (facts : TxReceiptFacts) : Result ReceiptOutcome → Prop
  | refused (error : StoreError) : FinalizeOutcome db now clock attemptID facts (rollback db error)
  | finalized {attempt : AttemptRow} {row : OutboxRow} {pinned : Resolution}
      (hreceipt : ReceiptOf db attemptID facts attempt row) (hpinned : row.receipt = some pinned)
      (hattempt : pinned.attemptId = attemptID) : FinalizeOutcome db now clock attemptID facts
        (commit (db.withTx ((db.tx.setAttempt { attempt with state := .mined }).setRow
          (row.finalize now clock attempt pinned.outcome facts))) pinned.outcome)

theorem finalizeAttemptReceipt_outcome (db : DB) (now clock : Time)
    (attemptID : ℕ) (facts : TxReceiptFacts) : FinalizeOutcome db now clock attemptID facts
      (finalizeAttemptReceipt db now clock attemptID facts) := by
  unfold finalizeAttemptReceipt
  split
  · exact .refused _
  split
  · exact .refused _
  rename_i hfacts
  split
  · exact .refused _
  rename_i attempt hattempt
  split
  · exact .refused _
  rename_i hhash
  split
  · exact .refused _
  rename_i row hrow
  split
  · exact .refused _
  rename_i pinned hpinned
  split
  · exact .refused _
  · rename_i hid
    exact .finalized ⟨hfacts, hattempt, not_not.mp hhash, hrow⟩ hpinned (not_not.mp hid)

theorem effect_finalizeAttemptReceipt :
    TxEffect db (.finalizeAttemptReceipt now clock attemptID facts)
      (finalizeAttemptReceipt db now clock attemptID facts).1 := by
  have houtcome := finalizeAttemptReceipt_outcome db now clock attemptID facts
  generalize finalizeAttemptReceipt db now clock attemptID facts = result at houtcome ⊢
  cases houtcome with
  | refused => exact .unchanged
  | finalized hreceipt hpinned hattempt => exact .finalized hreceipt hpinned hattempt

theorem effect_resolveExternalNonceRetry :
    TxEffect db (.resolveExternalNonceRetry now id) (resolveExternalNonceRetry db now id).1 := by
  unfold resolveExternalNonceRetry
  split
  · exact .unchanged
  split
  · exact .unchanged
  rename_i row hfind
  obtain ⟨-, rfl⟩ := find_eq_some.mp hfind
  split
  · exact .unchanged
  split
  · exact .unchanged
  rename_i hscope
  split
  · exact .unchanged
  rename_i hworkflow
  split
  · rename_i hheld
    exact .resolved hfind hheld hworkflow hscope
  · exact .unchanged

theorem effect_resolveExternalNonceAbandon : TxEffect db (.resolveExternalNonceAbandon now id)
      (resolveExternalNonceAbandon db now id).1 := by
  unfold resolveExternalNonceAbandon
  split
  · exact .unchanged
  split
  · exact .unchanged
  rename_i row hfind
  obtain ⟨-, rfl⟩ := find_eq_some.mp hfind
  split
  · exact .unchanged
  rename_i hheld
  split
  · exact .unchanged
  · rename_i work hpark
    exact .abandoned hfind (not_not.mp hheld) hpark

theorem txOp_effect (db : DB) (op : TxOp) : TxEffect db op (op.apply db) := by
  cases op with
  | enqueueTx => exact effect_enqueueTx
  | enqueuePricingSnapshotTx => exact effect_enqueuePricingSnapshotTx
  | enqueueExecutorTx => exact effect_enqueueExecutorTx
  | enqueueDVNVerifyTx => exact effect_enqueueDVNVerifyTx
  | markQueuedTxEstimateRevertFailed => exact effect_markQueuedTxEstimateRevertFailed
  | retryFailedTx => exact .operatorRetry (retryFailedTx_result _ _ _)
  | prepareNextFailedTxRetry => exact .automaticRetry (prepareNextFailedTxRetry_result _ _ _ _)
  | prepareReceiptResolution => exact effect_prepareReceiptResolution
  | finalizeAttemptReceipt => exact effect_finalizeAttemptReceipt
  | resolveExternalNonceRetry => exact effect_resolveExternalNonceRetry
  | resolveExternalNonceAbandon => exact effect_resolveExternalNonceAbandon
  | _ => exact .quiet rfl (quiet_op db _ rfl)

end Lazier.Ledger
