import Lazier.Store.Stats

/-!
# Readiness

The verdict derived from a statistics snapshot.  Each statistic is judged by
its own check; the report is the list of all their issues.  The cursor checks
of the source iterate over a map, so the order of their issues is not fixed
there.
-/

namespace Lazier.Readiness

open Library Store

def executorSourceStream : String := "executor_source"
def executorDestStream : String := "executor_destination"
def dvnSourceStream : String := "dvn_source"
def dvnDestStream : String := "dvn_destination"

def pricingPendingStallSeconds : ℕ := 5 * 60
def cancelHeldStallSeconds : ℕ := 15 * 60
def repriceHeldStallSeconds : ℕ := 15 * 60

structure Services where
  executorEnabled : Bool
  dvnEnabled : Bool

structure Issue where
  code : String
  message : String
  deriving DecidableEq

structure Report where
  ready : Bool
  issues : List Issue
  stats : StatsSnapshot

def activeChains (snapshot : StatsSnapshot) : List ℕ :=
  (snapshot.chains.filter ChainStat.enabled).map ChainStat.eid

/-! ## Checks -/

section Checks

variable (active : List ℕ)

def chainIssues (chain : ChainStat) : List Issue :=
  if chain.enabled && chain.paused then
    [⟨"chain_paused", s!"chain {chain.eid} ({chain.name}) is paused"⟩]
  else []

/-- A pathway between enabled chains. -/
def pathwayActive (pathway : PathwayStat) : Bool :=
  pathway.enabled && decide (pathway.srcEID ∈ active) &&
    decide (pathway.dstEID ∈ active)

def pathwayIssues (pathway : PathwayStat) : List Issue :=
  if pathwayActive active pathway && pathway.paused then
    [⟨"pathway_paused", s!"pathway {pathway.srcEID} -> {pathway.dstEID} is paused"⟩]
  else []

def outboxIssues (outbox : TxOutboxStat) : List Issue :=
  if outbox.status = .failed ∧ outbox.count ≠ 0 ∧
      outbox.retryState = .exhausted ∧ outbox.chainEID ∈ active then
    [⟨"failed_outbox",
      s!"chain {outbox.chainEID} has {outbox.count} exhausted failed tx_outbox rows"⟩]
  else []

/-- Only operator-action holds block readiness at once: a reprice hold below the
cap and a cancel are given time to converge, and a nonce reconciliation is left
to its loop. -/
def heldIssues (held : TxOutboxHeldStat) : List Issue :=
  if held.count ≠ 0 ∧ held.chainEID ∈ active then
    match held.heldReason with
    | .hold .manual | .hold .nonceConsumedExternally
    | .hold .broadcastExhausted | .repriceExhausted =>
      [⟨"held_signer_lane",
        s!"chain {held.chainEID} signer {held.signerID} has {held.count} " ++
          s!"held({held.heldReason.text}) tx_outbox rows blocking the nonce lane"⟩]
    | .cancelRequested =>
      if held.oldestAgeSeconds > cancelHeldStallSeconds then
        [⟨"held_signer_lane",
          s!"chain {held.chainEID} signer {held.signerID} has {held.count} pending cancel(s) " ++
            s!"stalled for {held.oldestAgeSeconds}s, likely blocked by the fee cap"⟩]
      else []
    | .hold .repriceRequired =>
      if held.oldestAgeSeconds > repriceHeldStallSeconds then
        [⟨"held_signer_lane",
          s!"chain {held.chainEID} signer {held.signerID} has {held.count} " ++
            s!"held(reprice_required) tx_outbox rows stalled for {held.oldestAgeSeconds}s, " ++
            "likely blocked by the fee cap"⟩]
      else []
    | .hold .nonceReconcileRequired => []
  else []

def orphanedIssues (orphaned : TxOutboxOrphanedStat) : List Issue :=
  if orphaned.count ≠ 0 ∧ orphaned.chainEID ∈ active then
    [⟨"orphaned_outbox_row",
      s!"chain {orphaned.chainEID} signer {orphaned.signerID} has {orphaned.count} " ++
        s!"{orphaned.status.text} tx_outbox row(s) with no active attempt, oldest " ++
        s!"{orphaned.oldestAgeSeconds}s old; durable send state was lost and the lane needs " ++
        "`txretry -action cancel-nonce`"⟩]
  else []

def pricingIssues (pending : PricingPendingStat) : List Issue :=
  if pending.count ≠ 0 ∧ pending.chainEID ∈ active ∧
      pending.oldestAgeSeconds > pricingPendingStallSeconds then
    [⟨"pricing_pending_stalled",
      s!"chain {pending.chainEID} has {pending.count} pending pricing tx(s), oldest " ++
        s!"{pending.oldestAgeSeconds}s old, gating price writes while the snapshot ages"⟩]
  else []

def packetIssues (packet : PacketStat) : List Issue :=
  if packet.status = .manualReview ∧ packet.count ≠ 0 ∧
      packet.srcEID ∈ active ∧ packet.dstEID ∈ active then
    [⟨"packet_manual_review",
      s!"pathway {packet.srcEID} -> {packet.dstEID} has {packet.count} packets requiring manual " ++
        "review"⟩]
  else []

def executorIssues (job : StatusStat ExecutorState) : List Issue :=
  if job.count = 0 then []
  else
    match job.status with
    | .lzReceiveFailed =>
      [⟨"executor_lz_receive_failed", s!"executor has {job.count} failed lzReceive jobs"⟩]
    | .manualReview =>
      [⟨"executor_manual_review", s!"executor has {job.count} jobs requiring manual review"⟩]
    | _ => []

def dvnIssues (job : StatusStat DVNState) : List Issue :=
  if job.count = 0 then []
  else
    match job.status with
    | .quorumConflict =>
      [⟨"dvn_quorum_conflict", s!"dvn has {job.count} quorum conflict jobs"⟩]
    | .reorgDetected =>
      [⟨"dvn_reorg_detected", s!"dvn has {job.count} jobs waiting for reorg rollback"⟩]
    | .manualReview =>
      [⟨"dvn_manual_review", s!"dvn has {job.count} jobs requiring manual review"⟩]
    | _ => []

/-- The cursors an active pathway needs. -/
def requiredCursors (services : Services) (pathway : PathwayStat) : List (ℕ × String) :=
  if pathwayActive active pathway then
    (if services.executorEnabled then
      [(pathway.srcEID, executorSourceStream), (pathway.dstEID, executorDestStream)]
    else []) ++
      (if services.dvnEnabled then
        [(pathway.srcEID, dvnSourceStream), (pathway.dstEID, dvnDestStream)]
      else [])
  else []

def cursorIssues (cursors : List IndexerCursorStat) (required : ℕ × String) : List Issue :=
  match cursors.find? fun cursor =>
      decide ((cursor.chainEID, cursor.stream) = required) with
  | none =>
    [⟨"indexer_cursor_missing",
      s!"chain {required.1} is missing indexer cursor {required.2.quote}"⟩]
  | some cursor =>
    if cursor.lastBlock = 0 then
      [⟨"indexer_cursor_unstarted",
        s!"chain {required.1} indexer cursor {required.2.quote} has not advanced"⟩]
    else []

end Checks

def evaluateWithServices (snapshot : StatsSnapshot) (services : Services) : Report :=
  let active := activeChains snapshot
  let required := (snapshot.pathways.flatMap (requiredCursors active services)).dedup
  let issues := snapshot.chains.flatMap chainIssues ++
      snapshot.pathways.flatMap (pathwayIssues active) ++
      snapshot.txOutbox.flatMap (outboxIssues active) ++
      snapshot.txOutboxHeld.flatMap (heldIssues active) ++
      snapshot.txOutboxOrphaned.flatMap (orphanedIssues active) ++
      snapshot.pricingPending.flatMap (pricingIssues active) ++
      snapshot.packets.flatMap (packetIssues active) ++
      (if services.executorEnabled then
        snapshot.executorJobs.flatMap executorIssues
      else []) ++
      (if services.dvnEnabled then snapshot.dvnJobs.flatMap dvnIssues
      else []) ++
      required.flatMap (cursorIssues snapshot.indexerCursors)
  ⟨issues.isEmpty, issues, snapshot⟩

end Lazier.Readiness
