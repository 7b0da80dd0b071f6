import Lazier.Library.Table
import Lazier.Store.Bytes

/-!
# Database schema

The tables of the migrations as the worker uses them.  `CHECK` constraints that
tie two columns together are carried by the row types: a held row carries its
reason, a lease carries its token with its deadline, and a pinned receipt
resolution carries its outcome with its attempt.  Unique keys are carried by
`Table`.  Columns that no modelled query reads are left out.
-/

namespace Lazier.Store

open Library

/-- `TIMESTAMPTZ` in microseconds. -/
abbrev Time := ℤ

/-- `time.Duration` at the microsecond precision of `pgInterval`. -/
abbrev Duration := ℤ

abbrev UUID := BitVec 128

def second : Duration := 1000000
def minute : Duration := 60 * second

/-- Largest nonce that fits the `BIGINT` columns. -/
def maxDBNonce : ℕ := 2 ^ 63 - 1

/-! ## Closed vocabularies -/

/-- `tx_outbox.purpose`.  The four production purposes have a send scope; every
other text is kept as it is. -/
inductive Purpose
  | pricingSetPriceSnapshot
  | executorCommitVerification
  | executorLzReceive
  | dvnVerify
  | other (name : String)
  deriving DecidableEq, Repr

def Purpose.text : Purpose → String
  | .pricingSetPriceSnapshot => "pricing_set_price_snapshot"
  | .executorCommitVerification => "executor_commit_verification"
  | .executorLzReceive => "executor_lz_receive"
  | .dvnVerify => "dvn_verify"
  | .other name => name

inductive HeldReason
  | nonceReconcileRequired
  | repriceRequired
  | manual
  | nonceConsumedExternally
  | broadcastExhausted
  deriving DecidableEq, Repr

/-- `tx_outbox.status` together with `held_reason`; the constructor `held`
carries `CHECK ((status = 'held') = (held_reason IS NOT NULL))`. -/
inductive TxStatus
  | queued
  | nonceAssigned
  | signed
  | broadcast
  | held (reason : HeldReason)
  | confirmed
  | failed
  deriving DecidableEq, Repr

def TxStatus.text : TxStatus → String
  | .queued => "queued"
  | .nonceAssigned => "nonce_assigned"
  | .signed => "signed"
  | .broadcast => "broadcast"
  | .held _ => "held"
  | .confirmed => "confirmed"
  | .failed => "failed"

/-- `status IN ('confirmed', 'failed')`. -/
def TxStatus.terminal : TxStatus → Bool
  | .confirmed => true
  | .failed => true
  | _ => false

/-- `status IN ('nonce_assigned', 'signed', 'held')`: short of broadcast. -/
def TxStatus.blocksLane : TxStatus → Bool
  | .nonceAssigned => true
  | .signed => true
  | .held _ => true
  | _ => false

/-- `txCancelableStatuses`, which are also `txPricingPendingStatuses`. -/
def TxStatus.cancelable : TxStatus → Bool
  | .queued => true
  | .nonceAssigned => true
  | .signed => true
  | .broadcast => true
  | .held _ => true
  | _ => false

inductive FailureKind
  | estimateGasRevert
  | receiptFailed
  | canceled
  | nonceConsumedExternally
  deriving DecidableEq, Repr

def FailureKind.text : FailureKind → String
  | .estimateGasRevert => "estimate_gas_revert"
  | .receiptFailed => "receipt_failed"
  | .canceled => "canceled"
  | .nonceConsumedExternally => "nonce_consumed_externally"

inductive ReceiptOutcome
  | confirmed
  | receiptFailed
  | canceled
  deriving DecidableEq, Repr

inductive AttemptKind
  | original
  | replacement
  | cancel
  deriving DecidableEq, Repr

def AttemptKind.text : AttemptKind → String
  | .original => "original"
  | .replacement => "replacement"
  | .cancel => "cancel"

inductive AttemptState
  | signed
  | submitted
  | ambiguous
  | rejected
  | mined
  deriving DecidableEq, Repr

/-- `state IN ('submitted', 'ambiguous')`: a node may hold this transaction. -/
def AttemptState.sent : AttemptState → Bool
  | .submitted => true
  | .ambiguous => true
  | _ => false

inductive SendClass
  | accepted
  | ambiguous
  | nonceTooLow
  | nonceTooHigh
  | underpriced
  | retryableEnv
  | definitive
  deriving DecidableEq, Repr

inductive ExecutorState
  | new
  | assigned
  | waitingDVNVerification
  | verifiable
  | commitTxEnqueued
  | committed
  | executable
  | lzReceiveTxEnqueued
  | delivered
  | lzReceiveFailed
  | manualReview
  deriving DecidableEq, Repr

def ExecutorState.text : ExecutorState → String
  | .new => "NEW"
  | .assigned => "ASSIGNED"
  | .waitingDVNVerification => "WAITING_DVN_VERIFICATION"
  | .verifiable => "VERIFIABLE"
  | .commitTxEnqueued => "COMMIT_TX_ENQUEUED"
  | .committed => "COMMITTED"
  | .executable => "EXECUTABLE"
  | .lzReceiveTxEnqueued => "LZ_RECEIVE_TX_ENQUEUED"
  | .delivered => "DELIVERED"
  | .lzReceiveFailed => "LZ_RECEIVE_FAILED"
  | .manualReview => "MANUAL_REVIEW"

inductive DVNState
  | new
  | assigned
  | waitingConfirmations
  | quorumChecking
  | readyToVerify
  | wouldVerify
  | verifyTxEnqueued
  | verified
  | quorumConflict
  | reorgDetected
  | manualReview
  deriving DecidableEq, Repr

def DVNState.text : DVNState → String
  | .new => "NEW"
  | .assigned => "ASSIGNED"
  | .waitingConfirmations => "WAITING_CONFIRMATIONS"
  | .quorumChecking => "QUORUM_CHECKING"
  | .readyToVerify => "READY_TO_VERIFY"
  | .wouldVerify => "WOULD_VERIFY"
  | .verifyTxEnqueued => "VERIFY_TX_ENQUEUED"
  | .verified => "VERIFIED"
  | .quorumConflict => "QUORUM_CONFLICT"
  | .reorgDetected => "REORG_DETECTED"
  | .manualReview => "MANUAL_REVIEW"

/-! ## Transaction tables -/

/-- A lease token with its deadline; the two columns are null together. -/
structure Lease where
  token : UUID
  expires : Time
  deriving DecidableEq, Repr

/-- `lease_until IS NULL OR lease_until <= now()`. -/
def leaseFree (lease : Option Lease) (now : Time) : Bool :=
  match lease with
  | none => true
  | some held => held.expires ≤ now

/-- `lease_until > now()` for the given token. -/
def leaseHeldBy (lease : Option Lease) (token : UUID) (now : Time) : Bool :=
  match lease with
  | none => false
  | some held => held.token = token ∧ now < held.expires

/-- `deadline IS NULL OR deadline <= now()`. -/
def due (deadline : Option Time) (now : Time) : Bool :=
  match deadline with
  | none => true
  | some time => time ≤ now

/-- `receipt_outcome` and `receipt_attempt_id`; null together. -/
structure Resolution where
  outcome : ReceiptOutcome
  attemptId : ℕ
  deriving DecidableEq, Repr

/-- The receipt columns, written together by the finalizer; the source-chain
cost is priced later. -/
structure StoredReceipt where
  txHash : Hash
  status : ℕ
  blockNumber : ℕ
  gasUsed : ℕ
  effectiveGasPrice : ℕ
  gasCostDstWei : ℕ
  observedAt : Time
  gasCostSrcWei : Option ℕ
  costPricedAt : Option Time
  deriving DecidableEq

/-- A signer's nonce sequence on one chain. -/
structure Lane where
  chainEID : ℕ
  signerID : String
  deriving DecidableEq, Repr

/-- `tx_outbox`. -/
structure OutboxRow where
  id : ℕ
  chainEID : ℕ
  purpose : Purpose
  guid : Option Bytes
  toAddress : Address
  calldata : Bytes
  value : ℤ
  nonce : Option ℕ
  signerID : String
  status : TxStatus
  storedReceipt : Option StoredReceipt
  attempts : ℕ
  failureKind : Option FailureKind
  nextRetryAt : Option Time
  retryOfID : Option ℕ
  lastError : Option String
  updatedAt : Time
  activeAttemptID : Option ℕ
  lease : Option Lease
  cancelRequestedAt : Option Time
  cancelDeferUntil : Option Time
  receipt : Option Resolution
  preSignFailureCount : ℕ
  nextSignAt : Option Time
  lastReceiptPollAt : Option Time
  replaceRequestedAt : Option Time
  deriving DecidableEq

def OutboxRow.lane (row : OutboxRow) : Lane := ⟨row.chainEID, row.signerID⟩

/-- `tx_attempts`: one immutable signed transaction and its send state. -/
structure AttemptRow where
  id : ℕ
  outboxID : ℕ
  kind : AttemptKind
  nonce : ℕ
  txType : ℕ
  txHash : Hash
  rawTx : Bytes
  gasLimit : ℕ
  maxFeePerGas : ℕ
  maxPriorityFeePerGas : Option ℕ
  state : AttemptState
  sendErrorClass : Option SendClass
  sendError : Option String
  signingToken : UUID
  broadcastCount : ℕ
  broadcastLease : Option Lease
  nextBroadcastAt : Option Time
  lastBroadcastAt : Option Time
  deriving DecidableEq

/-- `tx_nonce_cursors`. -/
structure NonceCursor where
  lane : Lane
  nextNonce : ℕ
  reconcileLease : Option Lease
  nextReconcileAt : Option Time
  deriving DecidableEq

structure TxTables where
  outbox : SerialTable OutboxRow OutboxRow.id
  attempts : SerialTable AttemptRow AttemptRow.id
  cursors : Table Lane NonceCursor NonceCursor.lane

namespace TxTables

def empty : TxTables := ⟨SerialTable.empty, SerialTable.empty, Table.empty⟩

/-- `UPDATE tx_outbox ... WHERE id = row.id`. -/
def setRow (tx : TxTables) (row : OutboxRow) : TxTables := { tx with outbox := tx.outbox.set row }

/-- `INSERT INTO tx_outbox` of a row built for the next id. -/
def addRow (tx : TxTables) (row : OutboxRow) (hid : row.id = tx.outbox.next) : TxTables :=
  { tx with outbox := tx.outbox.append row hid }

def setAttempt (tx : TxTables) (attempt : AttemptRow) : TxTables :=
  { tx with attempts := tx.attempts.set attempt }

def addAttempt (tx : TxTables) (attempt : AttemptRow)
    (hid : attempt.id = tx.attempts.next) : TxTables :=
  { tx with attempts := tx.attempts.append attempt hid }

def setCursor (tx : TxTables) (cursor : NonceCursor) : TxTables :=
  { tx with cursors := tx.cursors.set cursor }

def addCursor (tx : TxTables) (cursor : NonceCursor) : TxTables :=
  { tx with cursors := tx.cursors.insertNew cursor }

end TxTables

/-! ## Configuration tables -/

/-- `chains`, as far as the send scope reads it. -/
structure ChainRow where
  eid : ℕ
  enabled : Bool
  paused : Bool
  deriving DecidableEq

/-- The unique route of a pathway. -/
structure Route where
  srcEID : ℕ
  dstEID : ℕ
  srcOApp : Address
  dstOApp : Address
  deriving DecidableEq

/-- `pathways`, as far as the send scope reads it. -/
structure PathwayRow where
  route : Route
  enabled : Bool
  paused : Bool
  deriving DecidableEq

structure ConfigTables where
  chains : Table ℕ ChainRow ChainRow.eid
  pathways : Table Route PathwayRow PathwayRow.route

/-! ## Workflow tables -/

/-- `packets`, the normalized packet of a `PacketSent` log. -/
structure PacketRecord where
  guid : Hash
  srcEID : ℕ
  dstEID : ℕ
  nonce : ℕ
  sender : Address
  receiver : Address
  sendLib : Address
  srcTxHash : Hash
  srcBlockNumber : ℕ
  srcLogIndex : ℕ
  encodedPacket : Bytes
  packetHeader : Bytes
  message : Bytes
  payloadHash : Hash
  options : Bytes
  status : ExecutorState
  deriving DecidableEq

def PacketRecord.route (packet : PacketRecord) : Route :=
  ⟨packet.srcEID, packet.dstEID, packet.sender, packet.receiver⟩

/-- `executor_jobs`. -/
structure ExecutorJobRow where
  guid : Hash
  assignedFee : Option ℕ
  status : ExecutorState
  commitTxHash : Option Hash
  receiveTxHash : Option Hash
  lastError : Option String
  retryCount : ℕ
  nextRetryAt : Option Time
  updatedAt : Time
  deriving DecidableEq

/-- `QuorumReport`: the receipt evidence persisted for a packet. -/
structure QuorumReport where
  txHash : Hash
  blockNumber : ℕ
  blockHash : Hash
  logIndex : ℕ
  guid : Hash
  payloadHash : Hash
  deriving DecidableEq

/-- `dvn_jobs.quorum_result`: a report, or the transaction and error of a
failed check. -/
inductive QuorumResult
  | report (report : QuorumReport)
  | failure (txHash : Hash) (error : String)
  deriving DecidableEq

/-- `dvn_jobs`. -/
structure DVNJobRow where
  guid : Hash
  assignedFee : Option ℕ
  confirmationsRequired : ℕ
  status : DVNState
  verifyTxHash : Option Hash
  quorumResult : Option QuorumResult
  lastError : Option String
  nextRetryAt : Option Time
  updatedAt : Time
  deriving DecidableEq

/-- `executor_receive_failures`. -/
structure ReceiveFailure where
  guid : Hash
  txHash : Hash
  deriving DecidableEq

/-- Identity under which a skipped source assignment is remembered. -/
structure SkipKey where
  role : String
  route : Route
  nonce : ℕ
  deriving DecidableEq

/-- `source_packet_skips`. -/
structure SourcePacketSkip where
  key : SkipKey
  guid : Hash
  srcTxHash : Hash
  srcBlockNumber : ℕ
  srcLogIndex : ℕ
  reason : String
  worker : Option Address
  deriving DecidableEq

/-- `indexer_cursors`. -/
structure IndexerCursor where
  stream : ℕ × String
  lastBlock : ℕ
  deriving DecidableEq

structure WorkTables where
  packets : Table Hash PacketRecord PacketRecord.guid
  executorJobs : Table Hash ExecutorJobRow ExecutorJobRow.guid
  receiveFailures : Table ReceiveFailure ReceiveFailure id
  dvnJobs : Table Hash DVNJobRow DVNJobRow.guid
  skips : Table SkipKey SourcePacketSkip SourcePacketSkip.key
  indexerCursors : Table (ℕ × String) IndexerCursor IndexerCursor.stream

/-- The committed database. -/
structure DB where
  config : ConfigTables
  work : WorkTables
  tx : TxTables

/-- The schema after the migrations, before any row is written. -/
def DB.empty : DB where
  config := ⟨Table.empty, Table.empty⟩
  work := ⟨Table.empty, Table.empty, Table.empty, Table.empty, Table.empty, Table.empty⟩
  tx := TxTables.empty

def DB.withTx (db : DB) (tx : TxTables) : DB := { db with tx }
def DB.withConfig (db : DB) (config : ConfigTables) : DB := { db with config }
def DB.withWork (db : DB) (work : WorkTables) : DB := { db with work }

@[simp] theorem DB.withTx_tx (db : DB) (tx : TxTables) : (db.withTx tx).tx = tx := rfl
@[simp] theorem DB.withTx_work (db : DB) (tx : TxTables) : (db.withTx tx).work = db.work := rfl
@[simp] theorem DB.withTx_config (db : DB) (tx : TxTables) :
    (db.withTx tx).config = db.config := rfl
@[simp] theorem DB.withConfig_tx (db : DB) (config : ConfigTables) :
    (db.withConfig config).tx = db.tx := rfl
@[simp] theorem DB.withConfig_work (db : DB) (config : ConfigTables) :
    (db.withConfig config).work = db.work := rfl
@[simp] theorem DB.withWork_tx (db : DB) (work : WorkTables) : (db.withWork work).tx = db.tx := rfl
@[simp] theorem DB.withWork_work (db : DB) (work : WorkTables) :
    (db.withWork work).work = work := rfl
@[simp] theorem DB.withWork_config (db : DB) (work : WorkTables) :
    (db.withWork work).config = db.config := rfl

/-! ## Results of store methods -/

/-- Errors of the store.  The sentinels are the exported error values; the
other errors carry the text they are created with. -/
inductive StoreError
  | signerLaneBlocked
  | outboxLeaseLost
  | noBroadcastCandidate
  | broadcastLaneHeld
  | activeAttemptChanged
  | receiptResolutionPinned
  | noNonceReconcileWork
  | nonceCursorMissing
  | noFailedTxRetry
  | txSendScopeInactive
  | pricingPendingExists
  | constraintViolation (constraint : String)
  | message (text : String)
  deriving DecidableEq, Repr

def StoreError.text : StoreError → String
  | .signerLaneBlocked => "signer lane blocked by an earlier nonce"
  | .outboxLeaseLost => "outbox signing lease lost"
  | .noBroadcastCandidate => "no broadcast candidate attempt"
  | .broadcastLaneHeld => "broadcast lane held after replay budget exhausted"
  | .activeAttemptChanged => "outbox active attempt changed"
  | .receiptResolutionPinned => "receipt resolution pinned to another attempt"
  | .noNonceReconcileWork => "no nonce reconcile work"
  | .nonceCursorMissing => "tx nonce cursor missing"
  | .noFailedTxRetry => "no failed tx retry"
  | .txSendScopeInactive => "tx send scope is paused or disabled"
  | .pricingPendingExists =>
    "a pricing snapshot tx for this feed is still pending"
  | .constraintViolation constraint => constraint
  | .message text => text

/-- What a store method leaves behind: the committed database and the value or
error it returns.  A method may commit and still return an error. -/
abbrev Result (Value : Type) := DB × Except StoreError Value

/-- The deferred `tx.Rollback`: nothing was committed. -/
def rollback {Value : Type} (db : DB) (error : StoreError) : Result Value := (db, .error error)

def commit {Value : Type} (db : DB) (value : Value) : Result Value := (db, .ok value)

/-- `tx.Commit` followed by a returned error. -/
def commitError {Value : Type} (db : DB) (error : StoreError) : Result Value :=
  (db, .error error)

@[simp]
theorem rollback_fst {Value : Type} (db : DB) (error : StoreError) :
    (rollback db error : Result Value).1 = db := rfl

@[simp]
theorem commit_fst {Value : Type} (db : DB) (value : Value) : (commit db value).1 = db := rfl

@[simp]
theorem commitError_fst {Value : Type} (db : DB) (error : StoreError) :
    (commitError db error : Result Value).1 = db := rfl

end Lazier.Store
