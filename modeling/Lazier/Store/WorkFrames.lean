import Lazier.Store.Operations
import Lazier.Workflow.JobMoves

/-!
# Tables that a store call leaves alone

Most transaction methods do not write the workflow tables, and the methods of
the other components leave the cursors of the indexer, what a packet carries
and the unfinished DVN jobs alone.
-/

namespace Lazier.Store

open Library Workflow

/-! ## Workflow tables -/

theorem recoverAttempt_work {db : DB} {outboxID : ℕ} {signed : SignedAttempt}
    {fresh : Result AttemptRow} (hwork : fresh.1.work = db.work) :
    (recoverAttempt db outboxID signed fresh).1.work = db.work := by
  unfold recoverAttempt
  repeat' split
  all_goals first
    | rfl
    | exact hwork

theorem persistAttempt_work {db : DB} {row : OutboxRow} {signed : SignedAttempt}
    {switched : OutboxRow} : (persistAttempt db row signed switched).1.work = db.work := by
  unfold persistAttempt
  repeat' split
  all_goals rfl

/-- The transaction methods that do not write the workflow tables. -/
def TxOp.leavesWork : TxOp → Bool
  | .enqueueExecutorTx .. => false
  | .enqueueDVNVerifyTx .. => false
  | .retryFailedTx .. => false
  | .prepareNextFailedTxRetry .. => false
  | .resolveExternalNonceAbandon .. => false
  | _ => true

theorem apply_txOp_work (db : DB) {op : TxOp} (hop : op.leavesWork = true) :
    (op.apply db).work = db.work := by
  cases op with
  | enqueueExecutorTx | enqueueDVNVerifyTx | retryFailedTx
  | prepareNextFailedTxRetry | resolveExternalNonceAbandon => cases hop
  | insertSignedAttempt | insertReplacementAttempt | insertCancelAttempt =>
    simp only [TxOp.apply, insertSignedAttempt, insertReplacementAttempt, insertCancelAttempt]
    repeat' split
    all_goals first
      | rfl
      | exact recoverAttempt_work rfl
      | exact recoverAttempt_work persistAttempt_work
  | _ =>
    simp only [TxOp.apply, enqueueTx, enqueuePricingSnapshotTx,
      bootstrapTxNonceCursor, refreshBroadcastReceiptObservedAt,
      markTxReceiptCostPriced, markQueuedTxEstimateRevertFailed,
      claimOutboxForSigning, claimAttemptForBroadcast,
      markAttemptSendResult, touchReceiptPoll, prepareReceiptResolution,
      finalizeAttemptReceipt, recordPreSignFailure, requestTxReplacement,
      deferReplacement, claimOutboxForReplacementSigning, requestTxCancel,
      deferCancel, claimOutboxForCancelSigning, extendNonceReconciliation,
      claimNonceReconciliation, finishNonceReconciliation,
      applyNonceReconciliation, resolveExternalNonceRetry]
    repeat' split
    all_goals rfl

/-! ## Indexer cursors and packets -/

/-- Whether the call is `UpdateIndexerCursor`. -/
def Op.writesCursor : Op → Bool
  | .work (.updateIndexerCursor ..) => true
  | _ => false

/-- Whether the call is `UpsertPacket`. -/
def Op.writesPacket : Op → Bool
  | .work (.upsertPacket ..) => true
  | _ => false

/-- The cursors of the indexer stay, a packet keeps all but its status, and a
DVN job stays as it was listed or is finished. -/
structure RecordsKept (pre post : WorkTables) : Prop where
  cursors : post.indexerCursors = pre.indexerCursors
  packets : ∃ status : PacketRecord → ExecutorState, ∀ guid, post.packets.find guid =
    (pre.packets.find guid).map fun packet => { packet with status := status packet }
  verifiers : ∀ job ∈ post.dvnJobs, job.status = .verified ∨ job.status = .manualReview ∨
    ∃ old ∈ pre.dvnJobs, old.toRecord = job.toRecord

namespace RecordsKept

variable {pre post work : WorkTables} {guid : Hash}

theorem of_eq (hcursors : post.indexerCursors = pre.indexerCursors)
    (hpackets : post.packets = pre.packets) (hjobs : post.dvnJobs = pre.dvnJobs) :
    RecordsKept pre post := by
  refine ⟨hcursors, ⟨PacketRecord.status, fun guid => ?_⟩, fun job hjob => ?_⟩
  · rw [hpackets]
    exact Option.map_id'.symm
  · exact .inr (.inr ⟨job, hjobs ▸ hjob, rfl⟩)

theorem refl (work : WorkTables) : RecordsKept work work := of_eq rfl rfl rfl

theorem setDVNJob {job : DVNJobRow}
    (hstatus : job.status = .verified ∨ job.status = .manualReview) :
    RecordsKept work (work.setDVNJob job) := by
  refine ⟨rfl, (refl work).packets, fun other hother => ?_⟩
  rcases Table.mem_of_mem_set hother with rfl | ⟨hkept, -⟩
  · exact hstatus.imp_right .inl
  · exact .inr (.inr ⟨other, hkept, rfl⟩)

theorem setPacketStatus {next : ExecutorState} (hcursors : post.indexerCursors = pre.indexerCursors)
    (hpackets : post.packets = pre.packets) (hjobs : post.dvnJobs = pre.dvnJobs) :
    RecordsKept pre (post.setPacketStatus guid next) := by
  refine ⟨?_, ⟨fun packet => (restatus guid next packet).status, fun wanted => ?_⟩,
    fun job hjob => ?_⟩
  · unfold WorkTables.setPacketStatus
    split <;> exact hcursors
  · rw [setPacketStatus_find, hpackets]
    refine congrArg (Option.map · _) (funext fun packet => ?_)
    dsimp only [restatus]
    split <;> rfl
  · rw [setPacketStatus_dvnJobs, hjobs] at hjob
    exact .inr (.inr ⟨job, hjob, rfl⟩)

theorem casPacketStatus {expected next : ExecutorState}
    (hcursors : post.indexerCursors = pre.indexerCursors)
    (hpackets : post.packets = pre.packets) (hjobs : post.dvnJobs = pre.dvnJobs) :
    RecordsKept pre (post.casPacketStatus guid expected next) := by
  by_cases hstatus : packetStatus post guid = some expected
  · rw [casPacketStatus_eq post guid expected next hstatus]
    exact setPacketStatus hcursors hpackets hjobs
  · have hsame : post.casPacketStatus guid expected next = post := by
      unfold WorkTables.casPacketStatus
      split
      · rfl
      rename_i packet hpacket
      refine if_neg fun hexpected => hstatus ?_
      rw [packetStatus, hpacket, Option.map_some, hexpected]
    exact hsame.symm ▸ of_eq hcursors hpackets hjobs

end RecordsKept

end Lazier.Store
