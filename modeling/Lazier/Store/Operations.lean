import Lazier.Library.Runs
import Lazier.Store.CancelReconcile

/-!
# Store operations and runs

Every mutating method of the store as one labelled atomic step.  A run from the
empty schema interleaves the steps of any number of worker instances and
operator commands, with arbitrary arguments and clocks; a crash is a run that
stops calling on behalf of one of them.
-/

namespace Lazier.Store

open Library

/-- Methods that leave the transaction tables alone. -/
inductive WorkOp
  | syncConfig (registry : Registry)
  | pauseChain (eid : ℕ)
  | pausePathwayForPacket (guid : Hash)
  | upsertPacket (packet : PacketRecord)
  | upsertExecutorJob (now : Time) (job : ExecutorJobRecord)
  | deferExecutorJob (now : Time) (guid : Hash) (expected : ExecutorState) (delay : Duration)
  | markExecutorWaitingDVNVerification (now : Time) (guid : Hash) (expected : ExecutorState)
  | markExecutorVerifiable (now : Time) (guid : Hash) (expected : ExecutorState)
  | markExecutorCommitted (now : Time) (guid txHash : Hash)
  | markExecutorCommittedFromChain (now : Time) (guid : Hash) (expected : ExecutorState)
  | markExecutorCommittedObserved (now : Time) (guid txHash : Hash) (expected : ExecutorState)
  | markExecutorExecutable (now : Time) (guid : Hash)
  | markExecutorManualReview (now : Time) (guid : Hash) (expected : ExecutorState) (reason : String)
  | markExecutorDelivered (now : Time) (guid txHash : Hash)
  | markExecutorDeliveredFromChain (now : Time) (guid : Hash) (expected : ExecutorState)
  | markExecutorDeliveredObserved (now : Time) (guid txHash : Hash) (expected : ExecutorState)
  | markExecutorReceiveFailed (now : Time) (guid txHash : Hash) (reason : String)
  | markExecutorReceiveFailedObserved (now : Time) (guid txHash : Hash)
      (expected : ExecutorState) (reason : String)
  | updateIndexerCursor (chainEID : ℕ) (stream : String) (lastBlock : ℕ)
  | recordSourcePacketSkip (skip : SourcePacketSkip)
  | upsertDVNJob (now : Time) (job : DVNJobRecord)
  | deferDVNJob (now : Time) (guid : Hash) (expected : DVNState) (delay : Duration)
  | markDVNWaitingConfirmations (now : Time) (guid : Hash) (expected : DVNState)
  | markDVNQuorumChecking (now : Time) (guid : Hash) (expected : DVNState)
  | markDVNReadyToVerify (now : Time) (guid : Hash) (expected : DVNState)
      (quorumResult : Option QuorumResult)
  | markDVNWouldVerify (now : Time) (guid : Hash) (expected : DVNState)
      (quorumResult : Option QuorumResult)
  | markDVNVerified (now : Time) (guid txHash : Hash)
  | markDVNVerifiedFromChain (now : Time) (guid : Hash) (expected : DVNState)
      (quorumResult : Option QuorumResult)
  | markDVNVerifiedObserved (now : Time) (guid txHash : Hash) (expected : DVNState)
  | markDVNQuorumConflict (now : Time) (guid : Hash) (expected : DVNState)
      (reason : String) (quorumResult : Option QuorumResult)
  | markDVNReorgDetected (now : Time) (guid : Hash) (expected : DVNState)
      (reason : String) (quorumResult : Option QuorumResult)
  | markDVNReorgDetectedWithCoordinates (now : Time) (guid : Hash)
      (expected : DVNState) (reason : String)
      (quorumResult : Option QuorumResult) (next stored : Coordinates)
  | markDVNManualReview (now : Time) (guid : Hash) (expected : DVNState) (reason : String)
  | markDVNManualReviewAndPausePathway (now : Time) (guid : Hash)
      (expected : DVNState) (reason : String) (quorumResult : Option QuorumResult)

/-- Methods that may write the transaction tables. -/
inductive TxOp
  | enqueueTx (now : Time) (request : TxRequest)
  | enqueuePricingSnapshotTx (now : Time) (request : TxRequest)
  | enqueueExecutorTx (now : Time) (guid : Hash)
      (expected next : ExecutorState) (request : TxRequest)
  | enqueueDVNVerifyTx (now : Time) (guid : Hash) (expected next : DVNState)
      (request : TxRequest) (quorumResult : Option QuorumResult)
  | bootstrapTxNonceCursor (lane : Lane) (rpcPendingNonce : ℕ)
  | refreshBroadcastReceiptObservedAt (now : Time) (id : ℕ)
  | markTxReceiptCostPriced (now : Time) (id gasCostSrcWei : ℕ)
  | markQueuedTxEstimateRevertFailed (now clock : Time) (id : ℕ) (failure : String)
  | retryFailedTx (now : Time) (id : ℕ)
  | prepareNextFailedTxRetry (now : Time) (lane : Lane) (locked : List ℕ)
  | claimOutboxForSigning (now : Time) (id : ℕ) (lane : Lane)
      (leaseToken : UUID) (leaseTTL : Duration)
  | insertSignedAttempt (now : Time) (outboxID : ℕ) (leaseToken : UUID) (signed : SignedAttempt)
  | claimAttemptForBroadcast (now : Time) (lane : Lane)
      (broadcastToken : UUID) (leaseTTL : Duration) (locked : List ℕ)
  | markAttemptSendResult (now : Time) (attemptID : ℕ)
      (broadcastToken : UUID) (sendClass : SendClass) (sendErr : String)
  | touchReceiptPoll (now : Time) (id : ℕ)
  | prepareReceiptResolution (now : Time) (attemptID : ℕ) (facts : TxReceiptFacts)
  | finalizeAttemptReceipt (now clock : Time) (attemptID : ℕ) (facts : TxReceiptFacts)
  | recordPreSignFailure (now : Time) (id : ℕ) (leaseToken : UUID)
  | requestTxReplacement (now : Time) (id : ℕ)
  | deferReplacement (now : Time) (id : ℕ)
  | claimOutboxForReplacementSigning (now : Time)
      (id expectedActiveAttemptID : ℕ) (leaseToken : UUID) (leaseTTL : Duration)
  | insertReplacementAttempt (now : Time) (outboxID expectedActiveAttemptID : ℕ) (leaseToken : UUID)
      (signed : SignedAttempt)
  | requestTxCancel (now : Time) (id : ℕ)
  | deferCancel (now : Time) (id : ℕ)
  | claimOutboxForCancelSigning (now : Time) (id expectedActiveAttemptID : ℕ) (leaseToken : UUID)
      (leaseTTL : Duration)
  | insertCancelAttempt (now : Time) (outboxID expectedActiveAttemptID : ℕ)
      (leaseToken : UUID) (signed : SignedAttempt)
  | extendNonceReconciliation (now : Time) (lane : Lane) (token : UUID) (leaseTTL : Duration)
  | claimNonceReconciliation (now : Time) (lane : Lane) (token : UUID) (leaseTTL : Duration)
      (holds : List NonceReconcileHold)
  | finishNonceReconciliation (now : Time) (lane : Lane) (token : UUID) (backoff : Duration)
  | applyNonceReconciliation (now : Time) (lane : Lane) (token : UUID)
      (confirmedNonce confirmedBlock : ℕ) (backoff : Duration)
      (observed : String) (decisions : List NonceReconcileDecision)
  | resolveExternalNonceRetry (now : Time) (id : ℕ)
  | resolveExternalNonceAbandon (now : Time) (id : ℕ)

inductive Op
  | work (op : WorkOp)
  | tx (op : TxOp)

/-- The committed database after a workflow method. -/
def WorkOp.apply (db : DB) : WorkOp → DB
  | .syncConfig registry => (Store.syncConfig db registry).1
  | .pauseChain eid => (Store.pauseChain db eid).1
  | .pausePathwayForPacket guid => (Store.pausePathwayForPacket db guid).1
  | .upsertPacket packet => (Store.upsertPacket db packet).1
  | .upsertExecutorJob now job => (Store.upsertExecutorJob db now job).1
  | .deferExecutorJob now guid expected delay =>
    (Store.deferExecutorJob db now guid expected delay).1
  | .markExecutorWaitingDVNVerification now guid expected =>
    (Store.markExecutorWaitingDVNVerification db now guid expected).1
  | .markExecutorVerifiable now guid expected =>
    (Store.markExecutorVerifiable db now guid expected).1
  | .markExecutorCommitted now guid txHash =>
    (Store.markExecutorCommitted db now guid txHash).1
  | .markExecutorCommittedFromChain now guid expected =>
    (Store.markExecutorCommittedFromChain db now guid expected).1
  | .markExecutorCommittedObserved now guid txHash expected =>
    (Store.markExecutorCommittedObserved db now guid txHash expected).1
  | .markExecutorExecutable now guid =>
    (Store.markExecutorExecutable db now guid).1
  | .markExecutorManualReview now guid expected reason =>
    (Store.markExecutorManualReview db now guid expected reason).1
  | .markExecutorDelivered now guid txHash =>
    (Store.markExecutorDelivered db now guid txHash).1
  | .markExecutorDeliveredFromChain now guid expected =>
    (Store.markExecutorDeliveredFromChain db now guid expected).1
  | .markExecutorDeliveredObserved now guid txHash expected =>
    (Store.markExecutorDeliveredObserved db now guid txHash expected).1
  | .markExecutorReceiveFailed now guid txHash reason =>
    (Store.markExecutorReceiveFailed db now guid txHash reason).1
  | .markExecutorReceiveFailedObserved now guid txHash expected reason =>
    (Store.markExecutorReceiveFailedObserved db now guid txHash expected reason).1
  | .updateIndexerCursor chainEID stream lastBlock =>
    (Store.updateIndexerCursor db chainEID stream lastBlock).1
  | .recordSourcePacketSkip skip => (Store.recordSourcePacketSkip db skip).1
  | .upsertDVNJob now job => (Store.upsertDVNJob db now job).1
  | .deferDVNJob now guid expected delay =>
    (Store.deferDVNJob db now guid expected delay).1
  | .markDVNWaitingConfirmations now guid expected =>
    (Store.markDVNWaitingConfirmations db now guid expected).1
  | .markDVNQuorumChecking now guid expected =>
    (Store.markDVNQuorumChecking db now guid expected).1
  | .markDVNReadyToVerify now guid expected quorumResult =>
    (Store.markDVNReadyToVerify db now guid expected quorumResult).1
  | .markDVNWouldVerify now guid expected quorumResult =>
    (Store.markDVNWouldVerify db now guid expected quorumResult).1
  | .markDVNVerified now guid txHash =>
    (Store.markDVNVerified db now guid txHash).1
  | .markDVNVerifiedFromChain now guid expected quorumResult =>
    (Store.markDVNVerifiedFromChain db now guid expected quorumResult).1
  | .markDVNVerifiedObserved now guid txHash expected =>
    (Store.markDVNVerifiedObserved db now guid txHash expected).1
  | .markDVNQuorumConflict now guid expected reason quorumResult =>
    (Store.markDVNQuorumConflict db now guid expected reason quorumResult).1
  | .markDVNReorgDetected now guid expected reason quorumResult =>
    (Store.markDVNReorgDetected db now guid expected reason quorumResult).1
  | .markDVNReorgDetectedWithCoordinates now guid expected reason quorumResult next stored =>
    (Store.markDVNReorgDetectedWithCoordinates db now guid expected reason
      quorumResult next stored).1
  | .markDVNManualReview now guid expected reason =>
    (Store.markDVNManualReview db now guid expected reason).1
  | .markDVNManualReviewAndPausePathway now guid expected reason quorumResult =>
    (Store.markDVNManualReviewAndPausePathway db now guid expected reason quorumResult).1

/-- The committed database after a transaction method. -/
def TxOp.apply (db : DB) : TxOp → DB
  | .enqueueTx now request => (Store.enqueueTx db now request).1
  | .enqueuePricingSnapshotTx now request =>
    (Store.enqueuePricingSnapshotTx db now request).1
  | .enqueueExecutorTx now guid expected next request =>
    (Store.enqueueExecutorTx db now guid expected next request).1
  | .enqueueDVNVerifyTx now guid expected next request quorumResult =>
    (Store.enqueueDVNVerifyTx db now guid expected next request quorumResult).1
  | .bootstrapTxNonceCursor lane rpcPendingNonce =>
    (Store.bootstrapTxNonceCursor db lane rpcPendingNonce).1
  | .refreshBroadcastReceiptObservedAt now id =>
    (Store.refreshBroadcastReceiptObservedAt db now id).1
  | .markTxReceiptCostPriced now id gasCostSrcWei =>
    (Store.markTxReceiptCostPriced db now id gasCostSrcWei).1
  | .markQueuedTxEstimateRevertFailed now clock id failure =>
    (Store.markQueuedTxEstimateRevertFailed db now clock id failure).1
  | .retryFailedTx now id => (Store.retryFailedTx db now id).1
  | .prepareNextFailedTxRetry now lane locked =>
    (Store.prepareNextFailedTxRetry db now lane locked).1
  | .claimOutboxForSigning now id lane leaseToken leaseTTL =>
    (Store.claimOutboxForSigning db now id lane leaseToken leaseTTL).1
  | .insertSignedAttempt now outboxID leaseToken signed =>
    (Store.insertSignedAttempt db now outboxID leaseToken signed).1
  | .claimAttemptForBroadcast now lane broadcastToken leaseTTL locked =>
    (Store.claimAttemptForBroadcast db now lane broadcastToken leaseTTL locked).1
  | .markAttemptSendResult now attemptID broadcastToken sendClass sendErr =>
    (Store.markAttemptSendResult db now attemptID broadcastToken sendClass sendErr).1
  | .touchReceiptPoll now id => (Store.touchReceiptPoll db now id).1
  | .prepareReceiptResolution now attemptID facts =>
    (Store.prepareReceiptResolution db now attemptID facts).1
  | .finalizeAttemptReceipt now clock attemptID facts =>
    (Store.finalizeAttemptReceipt db now clock attemptID facts).1
  | .recordPreSignFailure now id leaseToken =>
    (Store.recordPreSignFailure db now id leaseToken).1
  | .requestTxReplacement now id => (Store.requestTxReplacement db now id).1
  | .deferReplacement now id => (Store.deferReplacement db now id).1
  | .claimOutboxForReplacementSigning now id expected leaseToken leaseTTL =>
    (Store.claimOutboxForReplacementSigning db now id expected leaseToken leaseTTL).1
  | .insertReplacementAttempt now outboxID expected leaseToken signed =>
    (Store.insertReplacementAttempt db now outboxID expected leaseToken signed).1
  | .requestTxCancel now id => (Store.requestTxCancel db now id).1
  | .deferCancel now id => (Store.deferCancel db now id).1
  | .claimOutboxForCancelSigning now id expected leaseToken leaseTTL =>
    (Store.claimOutboxForCancelSigning db now id expected leaseToken leaseTTL).1
  | .insertCancelAttempt now outboxID expected leaseToken signed =>
    (Store.insertCancelAttempt db now outboxID expected leaseToken signed).1
  | .extendNonceReconciliation now lane token leaseTTL =>
    (Store.extendNonceReconciliation db now lane token leaseTTL).1
  | .claimNonceReconciliation now lane token leaseTTL holds =>
    (Store.claimNonceReconciliation db now lane token leaseTTL holds).1
  | .finishNonceReconciliation now lane token backoff =>
    (Store.finishNonceReconciliation db now lane token backoff).1
  | .applyNonceReconciliation now lane token confirmedNonce confirmedBlock
      backoff observed decisions =>
    (Store.applyNonceReconciliation db now lane token confirmedNonce
      confirmedBlock backoff observed decisions).1
  | .resolveExternalNonceRetry now id =>
    (Store.resolveExternalNonceRetry db now id).1
  | .resolveExternalNonceAbandon now id =>
    (Store.resolveExternalNonceAbandon db now id).1

def Op.apply (db : DB) : Op → DB
  | .work op => op.apply db
  | .tx op => op.apply db

/-- One atomic store call. -/
def Step (pre : DB) (op : Op) (post : DB) : Prop := post = op.apply pre

/-- Runs of the store from the empty schema, with their history. -/
abbrev StoreRun : List (Event DB Op) → DB → Prop := Run Step DB.empty

/-- The database after the given calls, newest first. -/
def replay : List Op → DB
  | [] => DB.empty
  | op :: earlier => op.apply (replay earlier)

/-- The history of the given calls, newest first. -/
def trace : List Op → List (Event DB Op)
  | [] => []
  | op :: earlier => ⟨replay earlier, op, op.apply (replay earlier)⟩ :: trace earlier

theorem storeRun_trace (ops : List Op) : StoreRun (trace ops) (replay ops) := by
  induction ops with
  | nil => exact .start
  | cons op earlier ih => exact ih.extend rfl

end Lazier.Store
