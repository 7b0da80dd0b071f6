import Lazier.Store.Operations
import Lazier.Workflow.JobMoves

/-!
# Workflow effects of receipts

Between pinning a receipt and finalizing it the transaction manager moves the
job that waits on the transaction.  Each effect is one compare-and-set method,
guarded before and after by a read of the status: a status in the
already-applied set counts as done.
-/

namespace Lazier.Manager

open Library Store

/-- The store method that an effect calls. -/
inductive WorkflowMark
  | committed (guid txHash : Hash)
  | delivered (guid txHash : Hash)
  | receiveFailed (guid txHash : Hash)
  | parkExecutor (guid : Hash) (expected : ExecutorState)
  | verified (guid txHash : Hash)
  | parkDVN (guid : Hash)

def cancelReason : String := "transaction canceled by operator"

def WorkflowMark.op (now : Time) : WorkflowMark → WorkOp
  | .committed guid txHash => .markExecutorCommitted now guid txHash
  | .delivered guid txHash => .markExecutorDelivered now guid txHash
  | .receiveFailed guid txHash =>
    .markExecutorReceiveFailed now guid txHash "lzReceive transaction reverted"
  | .parkExecutor guid expected =>
    .markExecutorManualReview now guid expected cancelReason
  | .verified guid txHash => .markDVNVerified now guid txHash
  | .parkDVN guid =>
    .markDVNManualReview now guid .verifyTxEnqueued cancelReason

def WorkflowMark.call (db : DB) (now : Time) : WorkflowMark → Result Unit
  | .committed guid txHash => markExecutorCommitted db now guid txHash
  | .delivered guid txHash => markExecutorDelivered db now guid txHash
  | .receiveFailed guid txHash =>
    markExecutorReceiveFailed db now guid txHash "lzReceive transaction reverted"
  | .parkExecutor guid expected =>
    markExecutorManualReview db now guid expected cancelReason
  | .verified guid txHash => markDVNVerified db now guid txHash
  | .parkDVN guid =>
    markDVNManualReview db now guid .verifyTxEnqueued cancelReason

theorem WorkflowMark.call_db {db : DB} {now : Time} {mark : WorkflowMark} :
    (mark.call db now).1 = (mark.op now).apply db := by
  cases mark <;> rfl

/-- The statuses in which an effect counts as applied. -/
inductive AppliedSet
  | executor (guid : Hash) (statuses : List ExecutorState)
  | dvn (guid : Hash) (statuses : List DVNState)

/-- `executorStatusMatches` and `dvnStatusMatches`; a failed read does not
match. -/
def AppliedSet.holds (db : DB) : AppliedSet → Bool
  | .executor guid statuses =>
    match getPacket db guid with
    | .ok (some packet) => decide (packet.status ∈ statuses)
    | _ => false
  | .dvn guid statuses =>
    match getDVNJob db guid with
    | .ok (some job) => decide (job.status ∈ statuses)
    | _ => false

structure WorkflowEffect where
  mark : WorkflowMark
  applied : AppliedSet

def committedStatuses : List ExecutorState :=
  [.committed, .executable, .lzReceiveTxEnqueued, .lzReceiveFailed, .delivered, .manualReview]

/-- `applyWorkflowReceipt` for a row with a packet guid; `none` is an effect
the source leaves out. -/
def receiptEffect (purpose : Purpose) (guid txHash : Hash) (success : Bool) :
    Option WorkflowEffect :=
  match purpose, success with
  | .executorCommitVerification, true =>
    some ⟨.committed guid txHash, .executor guid committedStatuses⟩
  | .executorLzReceive, true =>
    some ⟨.delivered guid txHash, .executor guid [.delivered, .manualReview]⟩
  | .executorLzReceive, false =>
    some ⟨.receiveFailed guid txHash, .executor guid [.lzReceiveFailed, .delivered, .manualReview]⟩
  | .dvnVerify, true =>
    some ⟨.verified guid txHash, .dvn guid [.verified, .manualReview]⟩
  | _, _ => none

/-- `applyWorkflowCancel` for a row with a packet guid. -/
def cancelEffect (purpose : Purpose) (guid : Hash) : Option WorkflowEffect :=
  match purpose with
  | .executorCommitVerification =>
    some ⟨.parkExecutor guid .commitTxEnqueued, .executor guid committedStatuses⟩
  | .executorLzReceive =>
    some ⟨.parkExecutor guid .lzReceiveTxEnqueued,
      .executor guid [.lzReceiveFailed, .delivered, .manualReview]⟩
  | .dvnVerify =>
    some ⟨.parkDVN guid, .dvn guid [.verified, .manualReview]⟩
  | _ => none

/-- The effect of a pinned outcome.  Rows without a 32-byte guid have none. -/
def workflowEffect (row : OutboxRow) (txHash : Hash)
    (outcome : ReceiptOutcome) : Option WorkflowEffect :=
  match row.guid with
  | none => none
  | some guid =>
    if guid.length ≠ 32 then none
    else if outcome = .canceled then
      cancelEffect row.purpose (bytesToHash guid)
    else
      receiptEffect row.purpose (bytesToHash guid) txHash (outcome = .confirmed)

/-- `markExecutorReceipt` and `markDVNReceipt`, without anyone in between. -/
def WorkflowEffect.run (db : DB) (now : Time) (effect : WorkflowEffect) : Result Unit :=
  if effect.applied.holds db then commit db ()
  else
    match effect.mark.call db now with
    | (marked, .ok ()) => commit marked ()
    | (marked, .error error) =>
      if effect.applied.holds marked then commit marked ()
      else (marked, .error error)

/-- The workflow step that `ProcessReceipts` runs before it finalizes. -/
def applyWorkflow (db : DB) (now : Time) (row : OutboxRow) (txHash : Hash)
    (outcome : ReceiptOutcome) : Result Unit :=
  match workflowEffect row txHash outcome with
  | none => commit db ()
  | some effect => effect.run db now

end Lazier.Manager
