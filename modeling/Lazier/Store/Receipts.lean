import Lazier.Store.Attempts

/-!
# Receipts and replacements

Receipt polling, the two-phase receipt resolution (pin, then finalize) and the
same-nonce replacement of a sent attempt.
-/

namespace Lazier.Store

open Library

/-! ## Receipt polling -/

/-- `status IN ('signed', 'broadcast', 'held')`. -/
def TxStatus.polled : TxStatus → Bool
  | .signed => true
  | .broadcast => true
  | .held _ => true
  | _ => false

/-- The sent attempts of a row, whose transactions may be on chain. -/
def pollAttempts (tx : TxTables) (outboxID : ℕ) : List AttemptRow :=
  (tx.attempts.rows.filter fun attempt =>
    decide (attempt.outboxID = outboxID) && attempt.state.sent).insertionSort
      fun left right => left.id ≤ right.id

/-- The selection predicate of `ListReceiptPollTasks`. -/
def receiptPollable (tx : TxTables) (lane : Lane) (row : OutboxRow) : Bool :=
  decide (row.lane = lane) && row.status.polled &&
    (activeAttempt tx row).isSome && !(pollAttempts tx row.id).isEmpty

structure ReceiptPollTask where
  outbox : OutboxTx
  attempts : List AttemptRow
  deriving DecidableEq

/-- Sort key `last_receipt_poll_at ASC NULLS FIRST, id`. -/
def receiptPollKey (row : OutboxRow) : List ℤ :=
  [if row.lastReceiptPollAt.isNone then 0 else 1, row.lastReceiptPollAt.getD 0, row.id]

def listReceiptPollTasks (db : DB) (lane : Lane) (limit : ℕ) :
    Except StoreError (List ReceiptPollTask) :=
  if lane.chainEID = 0 ∨ lane.signerID = "" then
    .error (.message "chain and signer are required")
  else if limit = 0 then
    .error (.message "limit must be positive")
  else
    .ok ((((db.tx.outbox.rows.filter (receiptPollable db.tx lane) ).insertionSort fun left right =>
        receiptPollKey left ≤ receiptPollKey right).take limit).map fun row =>
          ⟨⟨row, activeAttempt db.tx row⟩, pollAttempts db.tx row.id⟩)

def touchReceiptPoll (db : DB) (now : Time) (id : ℕ) : Result Unit :=
  if id = 0 then
    rollback db (.message "outbox tx id is required")
  else
    match db.tx.outbox.find id with
    | none => commit db ()
    | some row =>
      commit (db.withTx (db.tx.setRow { row with lastReceiptPollAt := some now })) ()

/-! ## Receipt resolution -/

/-- Mined receipt values.  Prices and costs are not negative by type, and the
status, zero or one on chain, fits its `INTEGER` column. -/
structure TxReceiptFacts where
  txHash : Hash
  status : ℕ
  status_lt : status < 2 ^ 31 := by decide
  blockNumber : ℕ
  gasUsed : ℕ
  effectiveGasPrice : ℕ
  gasCostDstWei : ℕ
  deriving DecidableEq

def TxReceiptFacts.validationError (facts : TxReceiptFacts) : Option StoreError :=
  if facts.txHash = Hash.zero then
    some (.message "receipt tx hash is required")
  else if facts.status > maxDBNonce then
    some (.message s!"receipt status {facts.status} exceeds database integer limit")
  else if facts.blockNumber > maxDBNonce then
    some (.message s!"receipt block number {facts.blockNumber} exceeds database integer limit")
  else if facts.gasUsed * facts.effectiveGasPrice ≠ facts.gasCostDstWei then
    some (.message
      (s!"receipt destination gas cost {facts.gasCostDstWei} does not match gas_used * " ++
        s!"effective_gas_price {facts.gasUsed * facts.effectiveGasPrice}"))
  else none

/-- The outcome of a mined attempt, from its kind, the receipt status and the
cancel intent. -/
def deriveOutcome (kind : AttemptKind) (cancelRequested : Bool) (receiptStatus : ℕ) :
    ReceiptOutcome :=
  if kind = .cancel ∨ (cancelRequested ∧ receiptStatus ≠ 1) then .canceled
  else if receiptStatus ≠ 1 then .receiptFailed
  else .confirmed

/-- `PrepareReceiptResolution`: pin the outcome once. -/
def prepareReceiptResolution (db : DB) (now : Time) (attemptID : ℕ) (facts : TxReceiptFacts) :
    Result ReceiptOutcome :=
  if attemptID = 0 then
    rollback db (.message "attempt id is required")
  else
    match facts.validationError with
    | some error => rollback db error
    | none =>
      match db.tx.attempts.find attemptID with
      | none =>
        rollback db (.message s!"tx attempt {attemptID} not found")
      | some attempt =>
        if attempt.txHash ≠ facts.txHash then
          rollback db (.message
            s!"receipt tx hash {facts.txHash.hex} does not match attempt {attemptID} hash")
        else
          match db.tx.outbox.find attempt.outboxID with
          | none =>
            rollback db (.message s!"outbox tx {attempt.outboxID} not found")
          | some row =>
            match row.receipt with
            | some pinned =>
              if pinned.attemptId = attemptID then
                commit db pinned.outcome
              else rollback db .receiptResolutionPinned
            | none =>
              if row.status.terminal then
                rollback db (.message
                  s!"outbox tx {row.id} is already terminal in status {row.status.text}")
              else
                let outcome := deriveOutcome attempt.kind row.cancelRequestedAt.isSome facts.status
                commit (db.withTx (db.tx.setRow
                  { row with
                    receipt := some ⟨outcome, attemptID⟩
                    updatedAt := now })) outcome

/-- The status, failure kind, retry time and error text of a pinned outcome. -/
def finalStatus (outcome : ReceiptOutcome) : TxStatus :=
  match outcome with
  | .confirmed => .confirmed
  | .receiptFailed => .failed
  | .canceled => .failed

def finalFailureKind (outcome : ReceiptOutcome) : Option FailureKind :=
  match outcome with
  | .confirmed => none
  | .receiptFailed => some .receiptFailed
  | .canceled => some .canceled

def finalRetryAt (outcome : ReceiptOutcome) (row : OutboxRow) (clock : Time) : Option Time :=
  if outcome = .receiptFailed ∧ row.attempts < txAutoRetryMaxAttempts ∧
      row.purpose ≠ .pricingSetPriceSnapshot then
    some (clock + autoRetryDelay row.attempts)
  else none

def finalError (outcome : ReceiptOutcome) (kind : AttemptKind) (receiptStatus : ℕ) :
    Option String :=
  match outcome with
  | .confirmed => none
  | .receiptFailed => some s!"transaction receipt status {receiptStatus}"
  | .canceled =>
    some s!"canceled by operator (winning attempt kind {kind.text}, receipt status {receiptStatus})"

/-- The terminal row of a pinned resolution.  Costs priced earlier stay, as
their columns are not written. -/
def OutboxRow.finalize (row : OutboxRow) (now clock : Time) (attempt : AttemptRow)
    (outcome : ReceiptOutcome) (facts : TxReceiptFacts) : OutboxRow :=
  { row with
    activeAttemptID := some attempt.id
    storedReceipt := some
      { txHash := facts.txHash
        status := facts.status
        blockNumber := facts.blockNumber
        gasUsed := facts.gasUsed
        effectiveGasPrice := facts.effectiveGasPrice
        gasCostDstWei := facts.gasCostDstWei
        observedAt := now
        gasCostSrcWei := row.storedReceipt.bind StoredReceipt.gasCostSrcWei
        costPricedAt := row.storedReceipt.bind StoredReceipt.costPricedAt }
    status := finalStatus outcome
    failureKind := finalFailureKind outcome
    nextRetryAt := finalRetryAt outcome row clock
    lastError := finalError outcome attempt.kind facts.status
    lease := none
    replaceRequestedAt := none
    cancelRequestedAt := none
    cancelDeferUntil := none
    nextSignAt := none
    updatedAt := now }

/-- `FinalizeAttemptReceipt`: apply the resolution pinned for this attempt. -/
def finalizeAttemptReceipt (db : DB) (now clock : Time) (attemptID : ℕ) (facts : TxReceiptFacts) :
    Result ReceiptOutcome :=
  if attemptID = 0 then
    rollback db (.message "attempt id is required")
  else
    match facts.validationError with
    | some error => rollback db error
    | none =>
      match db.tx.attempts.find attemptID with
      | none =>
        rollback db (.message s!"tx attempt {attemptID} not found")
      | some attempt =>
        if attempt.txHash ≠ facts.txHash then
          rollback db (.message
            s!"receipt tx hash {facts.txHash.hex} does not match attempt {attemptID} hash")
        else
          match db.tx.outbox.find attempt.outboxID with
          | none =>
            rollback db (.message s!"outbox tx {attempt.outboxID} not found")
          | some row =>
            match row.receipt with
            | none => rollback db .receiptResolutionPinned
            | some pinned =>
              if pinned.attemptId ≠ attemptID then
                rollback db .receiptResolutionPinned
              else
                commit (db.withTx ((db.tx.setAttempt { attempt with state := .mined }).setRow
                  (row.finalize now clock attempt pinned.outcome facts))) pinned.outcome

/-! ## Pre-sign failures -/

/-- `RecordPreSignFailure`: charge a failed signature and release the lease. -/
def recordPreSignFailure (db : DB) (now : Time) (id : ℕ) (leaseToken : UUID) : Result Bool :=
  if id = 0 then
    rollback db (.message "outbox tx id is required")
  else
    match db.tx.outbox.find id with
    | none => rollback db .outboxLeaseLost
    | some row =>
      if ¬ leaseHeldBy row.lease leaseToken now then
        rollback db .outboxLeaseLost
      else if row.status.terminal then
        rollback db (.message
          s!"outbox tx {id} cannot record a pre-sign failure in status {row.status.text}")
      else
        let count := row.preSignFailureCount + 1
        let delay := autoRetryDelay row.preSignFailureCount
        if row.status = .nonceAssigned then
          if count ≥ txMaxPreSignFailures then
            commit (db.withTx (db.tx.setRow
              { row with
                status := .held .manual
                preSignFailureCount := count
                nextSignAt := none
                lease := none
                updatedAt := now })) true
          else
            commit (db.withTx (db.tx.setRow
              { row with
                preSignFailureCount := count
                nextSignAt := some (now + delay)
                lease := none
                updatedAt := now })) false
        else if count ≥ txMaxPreSignFailures then
          commit (db.withTx (db.tx.setRow
            { row with
              status := .held .manual
              preSignFailureCount := count
              replaceRequestedAt := none
              lease := none
              updatedAt := now })) true
        else
          commit (db.withTx (db.tx.setRow
            { row with
              preSignFailureCount := count
              replaceRequestedAt := row.replaceRequestedAt.map fun _ => now + delay
              cancelDeferUntil :=
                if row.cancelRequestedAt.isSome then some (now + delay)
                else row.cancelDeferUntil
              lease := none
              updatedAt := now })) false

/-! ## Replacements -/

def requestTxReplacement (db : DB) (now : Time) (id : ℕ) : Result Unit :=
  if id = 0 then
    rollback db (.message "outbox tx id is required")
  else
    match db.tx.outbox.find id with
    | none => rollback db (.message s!"outbox tx {id} is not replaceable")
    | some row =>
      if row.activeAttemptID ≠ none ∧ row.cancelRequestedAt = none ∧
          (row.status = .broadcast ∨ row.status = .held .repriceRequired ∨
            row.status = .held .broadcastExhausted) then
        commit (db.withTx (db.tx.setRow
          { row with
            replaceRequestedAt := some now
            preSignFailureCount := 0
            updatedAt := now })) ()
      else rollback db (.message s!"outbox tx {id} is not replaceable")

def deferReplacement (db : DB) (now : Time) (id : ℕ) : Result Unit :=
  if id = 0 then
    rollback db (.message "outbox tx id is required")
  else
    match db.tx.outbox.find id with
    | none => commit db ()
    | some row =>
      if row.status.terminal then commit db ()
      else
        commit (db.withTx (db.tx.setRow
          { row with
            updatedAt := now
            replaceRequestedAt := row.replaceRequestedAt.map fun _ =>
              now + txReplacementDeferDelay })) ()

/-- A held lane whose replacement is a cancel can recover through an operator
request even when it is held for manual review. -/
def replacementClaimable (status : TxStatus) (kind : AttemptKind) : Bool :=
  match status with
  | .broadcast => true
  | .held .repriceRequired => true
  | .held .broadcastExhausted => true
  | .held .manual => decide (kind = .cancel)
  | _ => false

/-- The kind that counts against the automatic replacement cap. -/
def replacementKind (active : AttemptKind) : AttemptKind :=
  if active = .cancel then .cancel else .replacement

def replacementCount (tx : TxTables) (row : OutboxRow) (active : AttemptKind) : ℕ :=
  (tx.attempts.rows.filter fun attempt =>
    decide (attempt.outboxID = row.id ∧ attempt.kind = replacementKind active)).length

/-- The selection of `NextReplacementCandidate`. -/
def replacementCandidate (tx : TxTables) (now : Time) (lane : Lane) (staleAfter : Duration)
    (row : OutboxRow) : Option (OutboxRow × AttemptRow) :=
  match activeAttempt tx row with
  | none => none
  | some attempt =>
    let requested :=
      (match row.replaceRequestedAt with
        | none => false
        | some time => decide (time ≤ now)) &&
        replacementClaimable row.status attempt.kind
    let belowCap := decide (replacementCount tx row attempt.kind < txMaxReplacements)
    let stale := decide (row.status = .broadcast ∧ row.updatedAt ≤ now - staleAfter) && belowCap
    let cooled :=
      decide (row.status = .held .repriceRequired ∧
        row.updatedAt ≤ now - txReplacementDeferDelay) && belowCap
    if row.lane = lane ∧ leaseFree row.lease now ∧ row.receipt = none ∧ attempt.state.sent ∧
        row.preSignFailureCount < txMaxPreSignFailures ∧
        (row.cancelRequestedAt = none ∨ attempt.kind = .cancel) ∧
        (requested || stale || cooled) then
      some (row, attempt)
    else none

/-- `NextReplacementCandidate`; `none` is `ErrNoStaleBroadcastReplacement`. -/
def nextReplacementCandidate (db : DB) (now : Time) (lane : Lane) (staleAfter : Duration) :
    Except StoreError (Option (OutboxRow × AttemptRow)) :=
  if lane.chainEID = 0 ∨ lane.signerID = "" then
    .error (.message "chain and signer are required")
  else if staleAfter ≤ 0 then
    .error (.message "stale broadcast duration must be positive")
  else
    .ok (firstBy (fun pair : OutboxRow × AttemptRow =>
        [pair.1.updatedAt, pair.1.id])
      (db.tx.outbox.rows.filterMap (replacementCandidate db.tx now lane staleAfter)))

def claimOutboxForReplacementSigning (db : DB) (now : Time) (id expectedActiveAttemptID : ℕ)
    (leaseToken : UUID) (leaseTTL : Duration) : Result OutboxTx :=
  if id = 0 ∨ expectedActiveAttemptID = 0 ∨ leaseTTL ≤ 0 then
    rollback db (.message "replacement signing claim requires ids and a positive ttl")
  else
    match db.tx.outbox.find id with
    | none => rollback db .outboxLeaseLost
    | some row =>
      if ¬ leaseFree row.lease now then rollback db .outboxLeaseLost
      else if row.receipt ≠ none then rollback db .activeAttemptChanged
      else if row.activeAttemptID ≠ some expectedActiveAttemptID then
        rollback db .activeAttemptChanged
      else
        match db.tx.attempts.find expectedActiveAttemptID with
        | none => rollback db (.message "no rows in result set")
        | some active =>
          if replacementClaimable row.status active.kind then
            let leased : OutboxRow :=
              { row with
                lease := some ⟨leaseToken, now + leaseTTL⟩
                updatedAt := now }
            claimed (db.withTx (db.tx.setRow leased)) leased
          else
            rollback db (.message s!"outbox tx {id} is not replaceable in status {row.status.text}")

/-- A cleared hold returns to signed; every other status stays. -/
def replacedStatus : TxStatus → TxStatus
  | .held _ => .signed
  | status => status

def insertReplacementAttempt (db : DB) (now : Time) (outboxID expectedActiveAttemptID : ℕ)
    (leaseToken : UUID) (signed : SignedAttempt) : Result AttemptRow :=
  if outboxID = 0 ∨ expectedActiveAttemptID = 0 then
    rollback db (.message "outbox and expected active attempt ids are required")
  else if signed.kind = .original then
    rollback db (.message
      s!"replacement attempt kind \"{signed.kind.text}\" must be \"replacement\" or \"cancel\"")
  else
    recoverAttempt db outboxID signed <|
      match db.tx.outbox.find outboxID with
      | none => rollback db .outboxLeaseLost
      | some row =>
        if ¬ leaseHeldBy row.lease leaseToken now then
          rollback db .outboxLeaseLost
        else if row.receipt ≠ none then
          rollback db .activeAttemptChanged
        else if row.activeAttemptID ≠ some expectedActiveAttemptID then
          rollback db .activeAttemptChanged
        else if ¬ replacementClaimable row.status signed.kind then
          -- A terminalization or a hold that raced this signature wins.
          rollback db .activeAttemptChanged
        else if row.cancelRequestedAt ≠ none ∧ signed.kind ≠ .cancel then
          rollback db .activeAttemptChanged
        else if row.nonce ≠ some signed.nonce then
          rollback db (nonceMismatch signed outboxID)
        else
          persistAttempt db row signed
            { row with
              status := replacedStatus row.status
              replaceRequestedAt := none
              lease := none
              preSignFailureCount := 0
              nextSignAt := none
              updatedAt := now }

end Lazier.Store
