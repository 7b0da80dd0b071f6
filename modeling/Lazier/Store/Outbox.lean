import Lazier.Store.SendScope

/-!
# The transaction outbox

Enqueueing, nonce-cursor bootstrap and the failed-transaction retries.  A store
method is a function of the committed database and of the clock it reads; the
row locks it takes make it one atomic step.
-/

namespace Lazier.Store

open Library

def txAutoRetryMaxAttempts : ℕ := 5
def txAutoRetryBaseDelay : Duration := minute
def txAutoRetryMaxDelay : Duration := 30 * minute
def txRetryScopeDeferDelay : Duration := minute
def maxLzReceiveDeliveryAttempts : ℕ := 5

/-- The doubling loop of `autoRetryDelay`. -/
def autoRetryDelayLoop (delay : Duration) : ℕ → Duration
  | 0 => if delay > txAutoRetryMaxDelay then txAutoRetryMaxDelay else delay
  | attempts + 1 =>
    if delay ≥ txAutoRetryMaxDelay / 2 then txAutoRetryMaxDelay
    else autoRetryDelayLoop (delay * 2) attempts

def autoRetryDelay (attempts : ℕ) : Duration := autoRetryDelayLoop txAutoRetryBaseDelay attempts

/-! ## Enqueueing -/

/-- A transaction request before nonce assignment. -/
structure TxRequest where
  chainEID : ℕ
  purpose : Purpose
  guid : Bytes
  toAddress : Address
  calldata : Bytes
  value : Option ℤ
  signerID : String
  deriving DecidableEq

/-- The argument checks that the enqueueing methods share. -/
def txRequestError (request : TxRequest) : Option StoreError :=
  if request.chainEID = 0 then some (.message "chain eid is required")
  else if request.purpose.text = "" then some (.message "purpose is required")
  else if request.toAddress = Address.zero then
    some (.message "to address is required")
  else if request.signerID = "" then some (.message "signer id is required")
  else none

/-- `optionalBytes`: an empty slice is stored as `NULL`. -/
def optionalBytes (bytes : Bytes) : Option Bytes :=
  if bytes.length = 0 then none else some bytes

/-- `optionalString`: an empty text is stored as `NULL`. -/
def optionalString (text : String) : Option String :=
  if text = "" then none else some text

/-- A row with the column defaults of `tx_outbox`. -/
def queuedRow (id : ℕ) (now : Time) (request : TxRequest) (attempts : ℕ)
    (retryOfID : Option ℕ) : OutboxRow where
  id := id
  chainEID := request.chainEID
  purpose := request.purpose
  guid := optionalBytes request.guid
  toAddress := request.toAddress
  calldata := request.calldata
  value := request.value.getD 0
  nonce := none
  signerID := request.signerID
  status := .queued
  storedReceipt := none
  attempts := attempts
  failureKind := none
  nextRetryAt := none
  retryOfID := retryOfID
  lastError := none
  updatedAt := now
  activeAttemptID := none
  lease := none
  cancelRequestedAt := none
  cancelDeferUntil := none
  receipt := none
  preSignFailureCount := 0
  nextSignAt := none
  lastReceiptPollAt := none
  replaceRequestedAt := none

/-- `INSERT INTO tx_outbox` of a fresh request.  The send-scope gate has found
the chain row, so the foreign key holds. -/
def insertQueued (tx : TxTables) (now : Time) (request : TxRequest) : TxTables :=
  tx.addRow (queuedRow tx.outbox.next now request 0 none) rfl

def enqueueTx (db : DB) (now : Time) (request : TxRequest) : Result ℕ :=
  match txRequestError request with
  | some error => rollback db error
  | none =>
    match lockTxSendScope db request.chainEID request.purpose request.guid with
    | .error error => rollback db error
    | .ok () =>
      commit (db.withTx (insertQueued db.tx now request)) db.tx.outbox.next

/-- `txRetryableLegacyPricingSQL`: a failed row that still owns an unconsumed
nonce. -/
def retryableLegacyPricing (row : OutboxRow) : Bool :=
  decide (row.status = .failed) && row.nonce.isSome && row.receipt.isNone &&
    !(decide (row.failureKind = some .canceled ∨ row.failureKind = some .nonceConsumedExternally ∨
      row.failureKind = some .receiptFailed))

/-- Pricing rows of one feed that can still land on chain. -/
def pricingPending (tx : TxTables) (chainEID : ℕ) (feed : Address) : Bool :=
  tx.outbox.rows.any fun row =>
    decide (row.chainEID = chainEID ∧
      row.purpose = .pricingSetPriceSnapshot ∧ row.toAddress = feed) &&
      (row.status.cancelable || retryableLegacyPricing row)

def enqueuePricingSnapshotTx (db : DB) (now : Time) (request : TxRequest) : Result ℕ :=
  if request.chainEID = 0 then
    rollback db (.message "chain eid is required")
  else if request.purpose ≠ .pricingSetPriceSnapshot then
    rollback db (.message "purpose must be the pricing snapshot purpose")
  else if request.toAddress = Address.zero then
    rollback db (.message "to address is required")
  else if request.signerID = "" then
    rollback db (.message "signer id is required")
  else
    match lockTxSendScope db request.chainEID request.purpose request.guid with
    | .error error => rollback db error
    | .ok () =>
      if pricingPending db.tx request.chainEID request.toAddress then
        rollback db .pricingPendingExists
      else
        commit (db.withTx (insertQueued db.tx now request)) db.tx.outbox.next

/-! ## Nonce cursors -/

/-- The nonces recorded on the rows of one lane. -/
def laneNonces (tx : TxTables) (lane : Lane) : List ℕ := tx.outbox.rows.filterMap fun row =>
    if row.lane = lane then row.nonce else none

def localNextNonce (tx : TxTables) (lane : Lane) : Except StoreError ℕ :=
  match (laneNonces tx lane).max? with
  | none => .ok 0
  | some dbMax =>
    if dbMax ≥ maxDBNonce then
      .error (.message s!"nonce overflow for chain {lane.chainEID} signer {lane.signerID}")
    else .ok (dbMax + 1)

/-- The only boundary that accepts an RPC nonce. -/
def bootstrapTxNonceCursor (db : DB) (lane : Lane) (rpcPendingNonce : ℕ) : Result Bool :=
  if lane.chainEID = 0 then
    rollback db (.message "chain eid is required")
  else if lane.signerID = "" then
    rollback db (.message "signer id is required")
  else if rpcPendingNonce > maxDBNonce then
    rollback db (.message s!"rpc pending nonce {rpcPendingNonce} exceeds database nonce limit")
  else
    match localNextNonce db.tx lane with
    | .error error => rollback db error
    | .ok localNext =>
      match db.tx.cursors.find lane with
      | some _ => commit db false
      | none =>
        if (db.config.chains.find lane.chainEID).isNone then
          rollback db (.constraintViolation "tx_nonce_cursors_chain_eid_fkey")
        else
          commit (db.withTx (db.tx.addCursor
            ⟨lane, max localNext rpcPendingNonce, none, none⟩)) true

/-! ## Reads -/

/-- `OutboxTx`: the row with the active attempt its current hash, gas and fees
are projected from. -/
structure OutboxTx where
  row : OutboxRow
  active : Option AttemptRow
  deriving DecidableEq

/-- `LEFT JOIN tx_attempts a ON a.outbox_id = o.id AND
a.id = o.active_attempt_id`. -/
def activeAttempt (tx : TxTables) (row : OutboxRow) : Option AttemptRow :=
  match row.activeAttemptID with
  | none => none
  | some id =>
    match tx.attempts.find id with
    | none => none
    | some attempt => if attempt.outboxID = row.id then some attempt else none

/-- Sort key `CASE WHEN status = 'nonce_assigned' THEN 0 ELSE 1 END, nonce ASC
NULLS LAST, id`. -/
def sendableKey (row : OutboxRow) : List ℤ :=
  [if row.status = .nonceAssigned then 0 else 1,
    if row.nonce.isNone then 1 else 0, row.nonce.getD 0, row.id]

def sendable (db : DB) (now : Time) (lane : Lane) (row : OutboxRow) : Bool :=
  decide (row.lane = lane) &&
    decide (row.status = .queued ∨ row.status = .nonceAssigned) &&
    due row.nextSignAt now && leaseFree row.lease now &&
    row.cancelRequestedAt.isNone && row.receipt.isNone &&
    txSendScopeActive db row

/-- `PeekSendableTx`; `none` is `pgx.ErrNoRows`. -/
def peekSendableTx (db : DB) (now : Time) (lane : Lane) : Except StoreError (Option OutboxTx) :=
  if lane.chainEID = 0 then .error (.message "chain eid is required")
  else if lane.signerID = "" then .error (.message "signer id is required")
  else
    .ok ((firstBy sendableKey (db.tx.outbox.rows.filter (sendable db now lane))).map
        fun row => ⟨row, activeAttempt db.tx row⟩)

/-! ## Bookkeeping on single rows -/

def refreshBroadcastReceiptObservedAt (db : DB) (now : Time) (id : ℕ) : Result Unit :=
  match db.tx.outbox.find id with
  | none => commit db ()
  | some row =>
    if row.status = .signed ∨ row.status = .broadcast then
      commit (db.withTx (db.tx.setRow { row with updatedAt := now })) ()
    else commit db ()

def markTxReceiptCostPriced (db : DB) (now : Time) (id : ℕ) (gasCostSrcWei : ℕ) : Result Unit :=
  if id = 0 then
    rollback db (.message "outbox tx id is required")
  else
    match db.tx.outbox.find id with
    | none =>
      rollback db (.message s!"outbox tx {id} has no receipt gas cost to price")
    | some row =>
      match row.storedReceipt with
      | none =>
        rollback db (.message s!"outbox tx {id} has no receipt gas cost to price")
      | some receipt =>
        commit (db.withTx (db.tx.setRow
          { row with
            storedReceipt := some
              { receipt with
                gasCostSrcWei := some gasCostSrcWei
                costPricedAt := some now }
            updatedAt := now })) ()

/-- A deterministic estimate revert of a row nobody has advanced.  The retry
time is computed from the client's own clock. -/
def markQueuedTxEstimateRevertFailed (db : DB) (now clock : Time) (id : ℕ)
    (failure : String) : Result Bool :=
  if id = 0 then
    rollback db (.message "outbox tx id is required")
  else
    match db.tx.outbox.find id with
    | none => commit db false
    | some row =>
      if row.status = .queued ∧ row.nonce = none ∧
          row.activeAttemptID = none ∧ leaseFree row.lease now then
        let retryAt :=
          if row.attempts < txAutoRetryMaxAttempts ∧ row.purpose ≠ .pricingSetPriceSnapshot then
            some (clock + autoRetryDelay row.attempts)
          else none
        commit (db.withTx (db.tx.setRow
          { row with
            status := .failed
            failureKind := some .estimateGasRevert
            nextRetryAt := retryAt
            lastError := optionalString failure
            updatedAt := now })) true
      else commit db false

end Lazier.Store
