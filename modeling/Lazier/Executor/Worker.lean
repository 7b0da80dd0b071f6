import Lazier.Executor.Readiness
import Lazier.Store.Operations

/-!
# Passes of the executor worker

A pass lists one due job in a given status, reads the destination chain and
ends with at most one store call.  The call names the job's guid and the status
it was listed in, and nothing else of the job as it was listed.
-/

namespace Lazier.Executor

open Library Store

variable {config : WorkerConfig} {now : Time} {op : Op} {abi : CalldataLibrary}

def loopInterval : Duration := 5 * second

/-! ## Listing -/

/-- What a pass uses of `db.ExecutorWorkItem`. -/
structure ExecutorWorkItem where
  packet : PacketRecord
  status : ExecutorState
  retryCount : ℕ
  deriving DecidableEq

variable {item : ExecutorWorkItem}

/-- Jobs that `ListExecutorWork` joins with their packets. -/
def executorWorkRow (db : DB) (now : Time) (status : ExecutorState)
    (job : ExecutorJobRow) : Option ExecutorWorkItem :=
  match db.work.packets.find job.guid with
  | none => none
  | some packet =>
    if job.status = status ∧ due job.nextRetryAt now ∧ packetScopeActive db packet then
      some ⟨packet, job.status, job.retryCount⟩
    else none

/-- `ORDER BY ej.updated_at, ej.guid`. -/
def executorJobBefore (left right : ExecutorJobRow) : Prop := left.updatedAt < right.updatedAt ∨
    (left.updatedAt = right.updatedAt ∧ left.guid.1 ≤ right.guid.1)

instance : DecidableRel executorJobBefore := fun left right =>
  inferInstanceAs (Decidable (left.updatedAt < right.updatedAt ∨
    (left.updatedAt = right.updatedAt ∧ left.guid.1 ≤ right.guid.1)))

/-- `ListExecutorWork` with the limit 1 that every pass uses. -/
def listExecutorWork (db : DB) (now : Time) (status : ExecutorState) : Option ExecutorWorkItem :=
  ((db.work.executorJobs.rows.insertionSort executorJobBefore).filterMap
    (executorWorkRow db now status)).head?

/-! ## Decisions -/

/-- What one pass reads of the destination chain. -/
structure Reads where
  anchor : Except String Unit
  commit : CommitView
  delivery : DeliveryView
  head : Except String ℕ
  commitAtDepth : CommitView
  deliveryAtDepth : DeliveryView

variable {reads : Reads}

def deferCall (item : ExecutorWorkItem) (now : Time) : Op :=
  .work (.deferExecutorJob now item.packet.guid item.status loopInterval)

/-- `latestAnchor`, which needs a caller. -/
def latestAnchor (config : WorkerConfig) (eid : ℕ)
    (answer : Except String Unit) : Except String Unit :=
  if config.hasCaller eid then answer
  else .error "destination caller is required"

/-- The lookups and reads that the two passes before the commit share.  Every
error on the way defers the job. -/
def commitPass (config : WorkerConfig) (item : ExecutorWorkItem) (reads : Reads) (now : Time)
    (verifiable : PathwayConfig → ChainConfig → Option Op) (notVerifiable : Op) : Option Op :=
  let eid := item.packet.dstEID
  match config.pathway item.packet.route, config.get eid with
  | none, _ => some (deferCall item now)
  | some pathway, chain =>
    if pathway.enabled = false then some (deferCall item now)
    else
      match chain, latestAnchor config eid reads.anchor with
      | none, _ => some (deferCall item now)
      | some _, .error _ => some (deferCall item now)
      | some chain, .ok () =>
        let state := checkCommitState (config.hasCaller eid)
          chain.endpointAddress pathway.receiveLib item.packet
        match state reads.commit with
        | .error _ => some (deferCall item now)
        | .ok .committed =>
          match confirmedOnChain config eid reads.head
              ((state reads.commitAtDepth).map (· = .committed)) with
          | .ok true =>
            some (.work (.markExecutorCommittedFromChain now item.packet.guid item.status))
          | _ => some (deferCall item now)
        | .ok .verifiable => verifiable pathway chain
        | .ok .notVerifiable => some notVerifiable

/-- The call of `processCommitReadinessStatus`. -/
def readinessCall (config : WorkerConfig) (item : ExecutorWorkItem)
    (reads : Reads) (now : Time) : Option Op := commitPass config item reads now
    (fun _ _ => some (.work (.markExecutorVerifiable now item.packet.guid item.status)))
    (if item.status = .assigned then
      .work (.markExecutorWaitingDVNVerification now item.packet.guid item.status)
    else deferCall item now)

/-- The call of `ProcessCommitterOnce` for a verifiable job; a request that
cannot be built ends the pass without one. -/
def commitCall (config : WorkerConfig) (abi : CalldataLibrary)
    (item : ExecutorWorkItem) (reads : Reads) (now : Time) : Option Op :=
  commitPass config item reads now
    (fun pathway chain =>
      match buildCommitVerificationTx abi item.packet pathway.receiveLib chain.signerID with
      | .error _ => none
      | .ok request =>
        some (.tx (.enqueueExecutorTx now item.packet.guid item.status .commitTxEnqueued request)))
    (deferCall item now)

/-- The lookups and reads that the passes behind the commit share. -/
def deliveryPass (config : WorkerConfig) (item : ExecutorWorkItem)
    (reads : Reads) (now : Time) (executable : ChainConfig → Op) : Op :=
  let eid := item.packet.dstEID
  match config.get eid, latestAnchor config eid reads.anchor with
  | none, _ => deferCall item now
  | some _, .error _ => deferCall item now
  | some chain, .ok () =>
    let state := checkDeliveryState (config.hasCaller eid) chain.endpointAddress item.packet
    match state reads.delivery with
    | .error _ => deferCall item now
    | .ok .delivered =>
      match confirmedOnChain config eid reads.head
          ((state reads.deliveryAtDepth).map (· = .delivered)) with
      | .ok true =>
        .work (.markExecutorDeliveredFromChain now item.packet.guid item.status)
      | _ => deferCall item now
    | .ok .notExecutable => deferCall item now
    | .ok .executable => executable chain

/-- The call of `processExecutableReadiness`. -/
def executableCall (config : WorkerConfig) (item : ExecutorWorkItem)
    (reads : Reads) (now : Time) : Op := deliveryPass config item reads now fun _ =>
    .work (.markExecutorExecutable now item.packet.guid)

/-- `markExecutorManualReview`. -/
def reviewCall (item : ExecutorWorkItem) (reason : String) (now : Time) : Op :=
  .work (.markExecutorManualReview now item.packet.guid item.status reason)

/-- The call of `processDelivererStatus`.  The retry budget is the one that was
listed. -/
def deliverCall (config : WorkerConfig) (abi : CalldataLibrary)
    (item : ExecutorWorkItem) (reads : Reads) (now : Time) : Op :=
  deliveryPass config item reads now fun chain =>
    if item.status = .lzReceiveFailed ∧ maxLzReceiveDeliveryAttempts ≤ item.retryCount then
      reviewCall item (retryBudgetReason item.retryCount) now
    else
      match buildLzReceiveTx abi item.packet chain.endpointAddress chain.signerID with
      | .error error => reviewCall item error now
      | .ok request =>
        .tx (.enqueueExecutorTx now item.packet.guid item.status .lzReceiveTxEnqueued request)

/-- The store call that ends the pass over a listed item. -/
def passCall (config : WorkerConfig) (abi : CalldataLibrary)
    (item : ExecutorWorkItem) (reads : Reads) (now : Time) : Option Op :=
  match item.status with
  | .assigned | .waitingDVNVerification =>
    readinessCall config item reads now
  | .verifiable => commitCall config abi item reads now
  | .committed => some (executableCall config item reads now)
  | .executable | .lzReceiveFailed =>
    some (deliverCall config abi item reads now)
  | _ => none

/-! ## What a pass can call -/

/-- The ways a pass over a listed item ends. -/
inductive WorkerCall (item : ExecutorWorkItem) (now : Time) : Op → Prop
  | deferred : WorkerCall item now (deferCall item now)
  | waiting (hstatus : item.status = .assigned) :
      WorkerCall item now (.work (.markExecutorWaitingDVNVerification now
        item.packet.guid item.status))
  | verifiable (hstatus : item.status = .assigned ∨ item.status = .waitingDVNVerification) :
      WorkerCall item now (.work (.markExecutorVerifiable now item.packet.guid item.status))
  | committed (hstatus : item.status = .assigned ∨
        item.status = .waitingDVNVerification ∨ item.status = .verifiable) :
      WorkerCall item now (.work (.markExecutorCommittedFromChain now item.packet.guid item.status))
  | commit (request : TxRequest) (hstatus : item.status = .verifiable)
      (hpurpose : request.purpose = .executorCommitVerification)
      (hguid : request.guid = item.packet.guid.1) :
      WorkerCall item now (.tx (.enqueueExecutorTx now item.packet.guid
        item.status .commitTxEnqueued request))
  | executable (hstatus : item.status = .committed) :
      WorkerCall item now (.work (.markExecutorExecutable now item.packet.guid))
  | delivered (hstatus : item.status = .committed ∨
        item.status = .executable ∨ item.status = .lzReceiveFailed) :
      WorkerCall item now (.work (.markExecutorDeliveredFromChain now item.packet.guid item.status))
  | review (reason : String) (hstatus : item.status = .executable ∨
        item.status = .lzReceiveFailed) : WorkerCall item now (reviewCall item reason now)
  | deliver (request : TxRequest) (hstatus : item.status = .executable ∨
        item.status = .lzReceiveFailed)
      (hbudget : item.status = .lzReceiveFailed → item.retryCount < maxLzReceiveDeliveryAttempts)
      (hpurpose : request.purpose = .executorLzReceive)
      (hguid : request.guid = item.packet.guid.1) :
      WorkerCall item now (.tx (.enqueueExecutorTx now item.packet.guid
        item.status .lzReceiveTxEnqueued request))

theorem commitPass_call {verifiable : PathwayConfig → ChainConfig → Option Op} {notVerifiable : Op}
    (hstatus : item.status = .assigned ∨
      item.status = .waitingDVNVerification ∨ item.status = .verifiable)
    (hverifiable : ∀ pathway chain, verifiable pathway chain = some op → WorkerCall item now op)
    (hnot : WorkerCall item now notVerifiable)
    (hcall : commitPass config item reads now verifiable notVerifiable = some op) :
    WorkerCall item now op := by
  rw [commitPass] at hcall
  dsimp only at hcall
  split at hcall
  · cases hcall
    exact .deferred
  split at hcall
  · cases hcall
    exact .deferred
  split at hcall
  · cases hcall
    exact .deferred
  · cases hcall
    exact .deferred
  split at hcall
  · cases hcall
    exact .deferred
  · split at hcall
    · cases hcall
      exact .committed hstatus
    · cases hcall
      exact .deferred
  · exact hverifiable _ _ hcall
  · cases hcall
    exact hnot

theorem deliveryPass_call {executable : ChainConfig → Op}
    (hstatus : item.status = .committed ∨ item.status = .executable ∨
      item.status = .lzReceiveFailed)
    (hexecutable : ∀ chain, WorkerCall item now (executable chain)) : WorkerCall item now
      (deliveryPass config item reads now executable) := by
  rw [deliveryPass]
  dsimp only
  split
  · exact .deferred
  · exact .deferred
  split
  · exact .deferred
  · split
    · exact .delivered hstatus
    · exact .deferred
  · exact .deferred
  · exact hexecutable _

theorem readinessCall_call
    (hstatus : item.status = .assigned ∨ item.status = .waitingDVNVerification)
    (hcall : readinessCall config item reads now = some op) : WorkerCall item now op := by
  refine commitPass_call (hstatus.imp_right Or.inl) ?_ ?_ hcall
  · intro _ _ hverifiable
    cases hverifiable
    exact .verifiable hstatus
  · split
    · rename_i hassigned
      exact .waiting hassigned
    · exact .deferred

theorem commitCall_call (hstatus : item.status = .verifiable)
    (hcall : commitCall config abi item reads now = some op) : WorkerCall item now op := by
  refine commitPass_call (.inr (.inr hstatus)) ?_ .deferred hcall
  intro pathway chain hbuilt
  split at hbuilt
  · cases hbuilt
  · rename_i request hrequest
    cases hbuilt
    obtain ⟨hpurpose, hguid⟩ := buildCommitVerificationTx_ok hrequest
    exact .commit request hstatus hpurpose hguid

theorem deliverCall_call (hstatus : item.status = .executable ∨ item.status = .lzReceiveFailed) :
    WorkerCall item now (deliverCall config abi item reads now) := by
  refine deliveryPass_call (.inr hstatus) fun chain => ?_
  split
  · exact .review _ hstatus
  rename_i hbudget
  split
  · exact .review _ hstatus
  · rename_i request hrequest
    obtain ⟨hpurpose, hguid⟩ := buildLzReceiveTx_ok hrequest
    refine .deliver request hstatus (fun hfailed => ?_) hpurpose hguid
    exact not_le.mp fun hspent => hbudget ⟨hfailed, hspent⟩

theorem passCall_call (hcall : passCall config abi item reads now = some op) :
    WorkerCall item now op := by
  rw [passCall] at hcall
  split at hcall
  · rename_i hstatus
    exact readinessCall_call (.inl hstatus) hcall
  · rename_i hstatus
    exact readinessCall_call (.inr hstatus) hcall
  · rename_i hstatus
    exact commitCall_call hstatus hcall
  · rename_i hstatus
    cases hcall
    exact deliveryPass_call (.inl hstatus) fun _ => .executable hstatus
  · rename_i hstatus
    cases hcall
    exact deliverCall_call (.inl hstatus)
  · rename_i hstatus
    cases hcall
    exact deliverCall_call (.inr hstatus)
  · cases hcall

end Lazier.Executor
