import Lazier.Library.Groups
import Lazier.Store.CancelReconcile

/-!
# Statistics

The summary queries behind the metrics and the readiness report.  Receipt gas
costs and worker fees are left out: readiness does not read them.  A group of
rows keeps its members beside its key, so that a statistic can be traced to the
rows it counts.
-/

namespace Lazier.Store

open Library

/-- Columns that only the statistics read: `chains.name`, and the `created_at`
of a task and of an attempt, which no statement updates. -/
structure StatColumns where
  chainName : ℕ → String
  rowCreatedAt : ℕ → Time
  attemptCreatedAt : ℕ → Time

/-! ## Records -/

structure ChainStat where
  eid : ℕ
  name : String
  enabled : Bool
  paused : Bool

structure PathwayStat where
  srcEID : ℕ
  dstEID : ℕ
  enabled : Bool
  paused : Bool

structure PacketStat where
  srcEID : ℕ
  dstEID : ℕ
  status : ExecutorState
  count : ℕ

structure StatusStat (State : Type) where
  status : State
  count : ℕ

/-- How a failed row is classified; other rows have the empty text. -/
inductive TxOutboxRetryState
  | none
  | retrying
  | superseded
  | exhausted
  deriving DecidableEq

structure TxOutboxStat where
  chainEID : ℕ
  status : TxStatus
  retryState : TxOutboxRetryState
  count : ℕ

def HeldReason.text : HeldReason → String
  | .nonceReconcileRequired => "nonce_reconcile_required"
  | .repriceRequired => "reprice_required"
  | .manual => "manual"
  | .nonceConsumedExternally => "nonce_consumed_externally"
  | .broadcastExhausted => "broadcast_exhausted"

/-- `held_reason`, or one of the synthetic reasons of the statistics. -/
inductive HeldStatReason
  | hold (reason : HeldReason)
  | repriceExhausted
  | cancelRequested
  deriving DecidableEq

def HeldStatReason.text : HeldStatReason → String
  | .hold reason => reason.text
  | .repriceExhausted => "reprice_exhausted"
  | .cancelRequested => "cancel_requested"

structure TxOutboxHeldStat where
  chainEID : ℕ
  signerID : String
  heldReason : HeldStatReason
  count : ℕ
  oldestAgeSeconds : ℕ

structure TxOutboxOrphanedStat where
  chainEID : ℕ
  signerID : String
  status : TxStatus
  count : ℕ
  oldestAgeSeconds : ℕ

structure PricingPendingStat where
  chainEID : ℕ
  count : ℕ
  oldestAgeSeconds : ℕ

structure IndexerCursorStat where
  chainEID : ℕ
  stream : String
  lastBlock : ℕ

structure StatsSnapshot where
  chains : List ChainStat
  pathways : List PathwayStat
  packets : List PacketStat
  executorJobs : List (StatusStat ExecutorState)
  dvnJobs : List (StatusStat DVNState)
  txOutbox : List TxOutboxStat
  txOutboxHeld : List TxOutboxHeldStat
  txOutboxOrphaned : List TxOutboxOrphanedStat
  indexerCursors : List IndexerCursorStat
  pricingPending : List PricingPendingStat

/-! ## Configuration and workflow -/

def chainStats (columns : StatColumns) (db : DB) : List ChainStat :=
  db.config.chains.rows.map fun chain =>
    ⟨chain.eid, columns.chainName chain.eid, chain.enabled, chain.paused⟩

def pathwayStats (db : DB) : List PathwayStat := db.config.pathways.rows.map fun pathway =>
    ⟨pathway.route.srcEID, pathway.route.dstEID, pathway.enabled, pathway.paused⟩

def chainEnabled (db : DB) (eid : ℕ) : Bool := db.config.chains.rows.any fun chain =>
    decide (chain.eid = eid) && chain.enabled

/-- `statsEnabledPacketScopeSQL`. -/
def statsEnabledPacketScope (db : DB) (packet : PacketRecord) : Bool :=
  (db.config.pathways.rows.any fun pathway =>
    decide (pathway.route = packet.route) && pathway.enabled) &&
    !(db.config.chains.rows.any fun chain =>
      decide (chain.eid = packet.srcEID ∨ chain.eid = packet.dstEID) && !chain.enabled)

def packetStats (db : DB) : List PacketStat :=
  (groupBy (fun packet => (packet.srcEID, packet.dstEID, packet.status))
    (db.work.packets.rows.filter (statsEnabledPacketScope db))).map
      fun group => ⟨group.1.1, group.1.2.1, group.1.2.2, group.2.length⟩

/-- `JOIN packets p ON p.guid = j.guid WHERE ...` on the guid of a job. -/
def jobInScope (db : DB) (guid : Hash) : Bool :=
  match db.work.packets.find guid with
  | none => false
  | some packet => statsEnabledPacketScope db packet

def executorJobStats (db : DB) : List (StatusStat ExecutorState) :=
  (groupBy ExecutorJobRow.status
    (db.work.executorJobs.rows.filter fun job => jobInScope db job.guid)).map
      fun group => ⟨group.1, group.2.length⟩

def dvnJobStats (db : DB) : List (StatusStat DVNState) :=
  (groupBy DVNJobRow.status (db.work.dvnJobs.rows.filter fun job => jobInScope db job.guid)).map
      fun group => ⟨group.1, group.2.length⟩

def indexerCursorStats (db : DB) : List IndexerCursorStat :=
  db.work.indexerCursors.rows.map fun cursor =>
    ⟨cursor.stream.1, cursor.stream.2, cursor.lastBlock⟩

/-! ## Outbox -/

/-- `COALESCE(floor(extract(epoch FROM now() - min(...)))::bigint, 0)`, kept at
zero when it is negative. -/
def ageSeconds (now : Time) (oldest : Option Time) : ℕ :=
  match oldest with
  | none => 0
  | some time => ((now - time) / second).toNat

/-- `LEFT JOIN tx_attempts act ON act.id = o.active_attempt_id`. -/
def joinedAttempt (tx : TxTables) (row : OutboxRow) : Option AttemptRow :=
  row.activeAttemptID.bind tx.attempts.find

def joinedCancel (tx : TxTables) (row : OutboxRow) : Bool :=
  (joinedAttempt tx row).any fun attempt => attempt.kind = .cancel

/-- A reprice hold past the automatic replacement cap; a cancel that has not
been signed yet is exempt. -/
def repriceExhausted (tx : TxTables) (row : OutboxRow) : Bool :=
  decide (row.cancelRequestedAt = none ∨ joinedCancel tx row = true) &&
    decide ((tx.attempts.rows.filter fun attempt =>
      decide (attempt.outboxID = row.id ∧ attempt.kind =
          if joinedCancel tx row then .cancel else .replacement)).length ≥
      txMaxReplacements)

/-- A row with status `held`. -/
structure HeldRow where
  row : OutboxRow
  reason : HeldReason

def heldRow (row : OutboxRow) : Option HeldRow :=
  match row.status with
  | .held reason => some ⟨row, reason⟩
  | _ => none

/-- The reason a held row is counted under. -/
def heldStatReason (tx : TxTables) (held : HeldRow) : HeldStatReason :=
  if held.reason = .repriceRequired ∧ repriceExhausted tx held.row = true then
    .repriceExhausted
  else .hold held.reason

/-- The age of a reprice hold counts from its last signature. -/
def heldSince (columns : StatColumns) (tx : TxTables) (held : HeldRow) : Time :=
  if held.reason = .repriceRequired then
    ((joinedAttempt tx held.row).map fun attempt =>
      columns.attemptCreatedAt attempt.id).getD held.row.updatedAt
  else held.row.updatedAt

def heldKey (tx : TxTables) (held : HeldRow) : ℕ × String × HeldStatReason :=
  (held.row.chainEID, held.row.signerID, heldStatReason tx held)

def heldGroups (tx : TxTables) : List ((ℕ × String × HeldStatReason) × List HeldRow) :=
  groupBy (heldKey tx) (tx.outbox.rows.filterMap heldRow)

/-- Rows with a pending operator cancel. -/
def cancelGroups (tx : TxTables) : List ((ℕ × String) × List OutboxRow) :=
  groupBy (fun row => (row.chainEID, row.signerID))
    (tx.outbox.rows.filter fun row =>
      row.cancelRequestedAt.isSome && !row.status.terminal)

def heldStat (columns : StatColumns) (tx : TxTables) (now : Time)
    (group : (ℕ × String × HeldStatReason) × List HeldRow) : TxOutboxHeldStat :=
  ⟨group.1.1, group.1.2.1, group.1.2.2, group.2.length,
    ageSeconds now (group.2.map (heldSince columns tx)).min?⟩

def cancelStat (now : Time) (group : (ℕ × String) × List OutboxRow) : TxOutboxHeldStat :=
  ⟨group.1.1, group.1.2, .cancelRequested, group.2.length,
    ageSeconds now (group.2.map fun row => row.cancelRequestedAt.getD 0).min?⟩

def txOutboxHeldStats (columns : StatColumns) (db : DB) (now : Time) : List TxOutboxHeldStat :=
  (heldGroups db.tx).map (heldStat columns db.tx now) ++ (cancelGroups db.tx).map (cancelStat now)

/-- Send-state rows whose active attempt is missing. -/
def orphanedGroups (db : DB) : List ((ℕ × String × TxStatus) × List OutboxRow) :=
  groupBy (fun row => (row.chainEID, row.signerID, row.status))
    (db.tx.outbox.rows.filter fun row =>
      decide ((row.status = .signed ∨ row.status = .broadcast) ∧
        row.activeAttemptID = none) && chainEnabled db row.chainEID)

def orphanedStat (now : Time)
    (group : (ℕ × String × TxStatus) × List OutboxRow) : TxOutboxOrphanedStat :=
  ⟨group.1.1, group.1.2.1, group.1.2.2, group.2.length,
    ageSeconds now (group.2.map OutboxRow.updatedAt).min?⟩

def txOutboxOrphanedStats (db : DB) (now : Time) : List TxOutboxOrphanedStat :=
  (orphanedGroups db).map (orphanedStat now)

/-- The retry state of a row: a completed operator action, a superseded row and
a pricing row that holds no nonce are nothing to retry. -/
def txOutboxRetryState (tx : TxTables) (row : OutboxRow) : TxOutboxRetryState :=
  if row.status ≠ .failed then .none
  else if tx.outbox.rows.any fun child => child.retryOfID = some row.id then
    .superseded
  else
    match row.failureKind with
    | none => .superseded
    | some kind =>
      if kind = .canceled ∨ kind = .nonceConsumedExternally then .superseded
      else if row.purpose = .pricingSetPriceSnapshot ∧
          (row.nonce = none ∨ row.receipt ≠ none ∨ kind = .receiptFailed) then
        .superseded
      else if row.attempts < txAutoRetryMaxAttempts ∧ row.nextRetryAt ≠ none then .retrying
      else .exhausted

/-- Packet-linked rows follow the packet's scope, other rows their chain. -/
def outboxInScope (db : DB) (row : OutboxRow) : Bool :=
  match db.work.packets.rows.find? fun packet =>
      decide (some packet.guid.1 = row.guid) with
  | none => chainEnabled db row.chainEID
  | some packet => statsEnabledPacketScope db packet

def outboxGroups (db : DB) : List ((ℕ × TxStatus × TxOutboxRetryState) × List OutboxRow) :=
  groupBy (fun row => (row.chainEID, row.status, txOutboxRetryState db.tx row))
    (db.tx.outbox.rows.filter (outboxInScope db))

def outboxStat (group : (ℕ × TxStatus × TxOutboxRetryState) × List OutboxRow) : TxOutboxStat :=
  ⟨group.1.1, group.1.2.1, group.1.2.2, group.2.length⟩

def txOutboxStats (db : DB) : List TxOutboxStat := (outboxGroups db).map outboxStat

/-- Pricing rows that can still land on chain. -/
def pricingGroups (db : DB) : List (ℕ × List OutboxRow) := groupBy OutboxRow.chainEID
    (db.tx.outbox.rows.filter fun row =>
      decide (row.purpose = .pricingSetPriceSnapshot) &&
        (row.status.cancelable || retryableLegacyPricing row) && chainEnabled db row.chainEID)

def pricingStat (columns : StatColumns) (now : Time)
    (group : ℕ × List OutboxRow) : PricingPendingStat :=
  ⟨group.1, group.2.length, ageSeconds now
      (group.2.map fun row => columns.rowCreatedAt row.id).min?⟩

def pricingPendingStats (columns : StatColumns) (db : DB) (now : Time) : List PricingPendingStat :=
  (pricingGroups db).map (pricingStat columns now)

def stats (columns : StatColumns) (db : DB) (now : Time) : StatsSnapshot where
  chains := chainStats columns db
  pathways := pathwayStats db
  packets := packetStats db
  executorJobs := executorJobStats db
  dvnJobs := dvnJobStats db
  txOutbox := txOutboxStats db
  txOutboxHeld := txOutboxHeldStats columns db now
  txOutboxOrphaned := txOutboxOrphanedStats db now
  indexerCursors := indexerCursorStats db
  pricingPending := pricingPendingStats columns db now

end Lazier.Store
