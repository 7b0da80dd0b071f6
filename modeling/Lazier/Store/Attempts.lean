import Lazier.Store.DVNJobs

/-!
# Durable transaction attempts

The outbox row owns the task and its nonce; each signed transaction is an
immutable attempt row.  Signing happens outside any transaction between a claim
that writes a lease and an insert that presents it.
-/

namespace Lazier.Store

open Library

def txBroadcastReplayBaseDelay : Duration := 3 * second
def txBroadcastReplayMaxDelay : Duration := minute
def txMaxBroadcasts : ℕ := 5
def txMaxPreSignFailures : ℕ := 5
def txMaxReplacements : ℕ := 5
def txReplacementDeferDelay : Duration := minute

/-! ## Claiming a row for signing -/

/-- `signerLaneBlockedByLowerNonce`. -/
def signerLaneBlockedByLowerNonce (tx : TxTables) (lane : Lane) (nonce : ℕ) : Bool :=
  tx.outbox.rows.any fun row =>
    decide (row.lane = lane) &&
      (match row.nonce with
        | none => false
        | some lower => decide (lower < nonce)) && row.status.blocksLane

/-- Any row of the lane short of broadcast; a fresh nonce is above them all. -/
def signerLaneBlocked (tx : TxTables) (lane : Lane) : Bool := tx.outbox.rows.any fun row =>
    decide (row.lane = lane) && row.status.blocksLane

/-- The cursor a fresh nonce is taken from. -/
def claimCursorNonce (tx : TxTables) (lane : Lane) : Except StoreError NonceCursor :=
  match tx.cursors.find lane with
  | none => .error .nonceCursorMissing
  | some cursor =>
    if cursor.nextNonce ≥ maxDBNonce then
      .error (.message s!"nonce cursor overflow for chain {lane.chainEID} signer {lane.signerID}")
    else .ok cursor

/-- What `ClaimOutboxForSigning` returns after its commit. -/
def claimed (db : DB) (row : OutboxRow) : Result OutboxTx :=
  commit db ⟨row, activeAttempt db.tx row⟩

def claimOutboxForSigning (db : DB) (now : Time) (id : ℕ) (lane : Lane)
    (leaseToken : UUID) (leaseTTL : Duration) : Result OutboxTx :=
  if id = 0 ∨ lane.chainEID = 0 ∨ lane.signerID = "" ∨ leaseTTL ≤ 0 then
    rollback db (.message "claim outbox for signing requires id, chain, signer, and positive ttl")
  else
    match db.tx.outbox.find id with
    | none => rollback db .outboxLeaseLost
    | some row =>
      let lease : Lease := ⟨leaseToken, now + leaseTTL⟩
      if ¬ (row.lane = lane ∧ leaseFree row.lease now ∧
          row.cancelRequestedAt = none ∧ row.receipt = none) then
        rollback db .outboxLeaseLost
      else if row.status = .queued then
        match row.nonce with
        | none =>
          -- The scope gate runs before a nonce is reserved; rows that
          -- already hold one are in flight and converge instead.
          match lockTxSendScope db lane.chainEID row.purpose (row.guid.getD []) with
          | .error error => rollback db error
          | .ok () =>
            if signerLaneBlocked db.tx lane then
              rollback db .signerLaneBlocked
            else
              match claimCursorNonce db.tx lane with
              | .error error => rollback db error
              | .ok cursor =>
                let assigned : OutboxRow :=
                  { row with
                    nonce := some cursor.nextNonce
                    status := .nonceAssigned
                    lease := some lease
                    updatedAt := now }
                claimed (db.withTx ((db.tx.setRow assigned).setCursor
                  { cursor with
                    nextNonce := cursor.nextNonce + 1 })) assigned
        | some nonce =>
          if signerLaneBlockedByLowerNonce db.tx lane nonce then
            rollback db .signerLaneBlocked
          else
            let assigned : OutboxRow :=
              { row with
                status := .nonceAssigned
                lease := some lease
                updatedAt := now }
            claimed (db.withTx (db.tx.setRow assigned)) assigned
      else if row.status = .nonceAssigned then
        match row.nonce with
        | none =>
          rollback db (.message s!"outbox tx {id} nonce_assigned without a nonce")
        | some nonce =>
          if signerLaneBlockedByLowerNonce db.tx lane nonce then
            rollback db .signerLaneBlocked
          else
            let leased : OutboxRow := { row with lease := some lease, updatedAt := now }
            claimed (db.withTx (db.tx.setRow leased)) leased
      else
        rollback db (.message s!"outbox tx {id} is not signable in status {row.status.text}")

/-! ## Persisting a signed attempt -/

/-- The signed transaction facts that the manager persists. -/
structure SignedAttempt where
  kind : AttemptKind
  nonce : ℕ
  txType : ℕ
  txHash : Hash
  rawTx : Bytes
  gasLimit : ℕ
  maxFeePerGas : ℕ
  maxPriorityFeePerGas : Option ℕ
  signingToken : UUID
  deriving DecidableEq

/-- The row a signed attempt is inserted as. -/
def SignedAttempt.toRow (signed : SignedAttempt) (id outboxID : ℕ) : AttemptRow where
  id := id
  outboxID := outboxID
  kind := signed.kind
  nonce := signed.nonce
  txType := signed.txType
  txHash := signed.txHash
  rawTx := signed.rawTx
  gasLimit := signed.gasLimit
  maxFeePerGas := signed.maxFeePerGas
  maxPriorityFeePerGas := signed.maxPriorityFeePerGas
  state := .signed
  sendErrorClass := none
  sendError := none
  signingToken := signed.signingToken
  broadcastCount := 0
  broadcastLease := none
  nextBroadcastAt := none
  lastBroadcastAt := none

/-- `CHECK` on the priority fee.  A null comparison does not fail a check, so a
dynamic-fee attempt without a priority fee passes. -/
def priorityFeeAllowed (txType : ℕ) (fee : Option ℕ) : Bool :=
  match fee with
  | none => true
  | some amount => decide (txType = 2 ∧ 0 < amount)

/-- The constraints of `tx_attempts` that an insert can still violate. -/
def attemptConstraintError (tx : TxTables) (outboxID : ℕ)
    (signed : SignedAttempt) : Option StoreError :=
  if ¬ (signed.txType = 0 ∨ signed.txType = 2) then
    some (.constraintViolation "tx_attempts_tx_type_check")
  else if signed.gasLimit = 0 ∨ signed.gasLimit > maxDBNonce then
    some (.constraintViolation "tx_attempts_gas_limit_check")
  else if ¬ priorityFeeAllowed signed.txType signed.maxPriorityFeePerGas then
    some (.constraintViolation "tx_attempts_check")
  else if tx.attempts.rows.any fun attempt =>
      decide (attempt.outboxID = outboxID ∧ attempt.signingToken = signed.signingToken) then
    some (.constraintViolation "tx_attempts_outbox_id_signing_token_key")
  else none

def attemptByHash (tx : TxTables) (hash : Hash) : Option AttemptRow :=
  tx.attempts.rows.find? fun attempt => attempt.txHash = hash

/-- The shape checks and the idempotent recovery of a committed insert whose
result the client never saw; `fresh` is the insert proper. -/
def recoverAttempt (db : DB) (outboxID : ℕ) (signed : SignedAttempt)
    (fresh : Result AttemptRow) : Result AttemptRow :=
  if signed.rawTx.length = 0 then
    rollback db (.message "attempt requires a 32-byte hash and non-empty raw tx")
  else if signed.maxFeePerGas = 0 then
    rollback db (.message "attempt requires a positive max fee per gas")
  else
    match attemptByHash db.tx signed.txHash with
    | some existing =>
      if existing.outboxID ≠ outboxID ∨ existing.nonce ≠ signed.nonce ∨
          existing.kind ≠ signed.kind then
        rollback db (.message
          s!"attempt hash {signed.txHash.hex} already exists with different immutable fields")
      else commit db existing
    | none => fresh

/-- Insert the attempt and switch the row's active pointer to it. -/
def persistAttempt (db : DB) (row : OutboxRow) (signed : SignedAttempt)
    (switched : OutboxRow) : Result AttemptRow :=
  match attemptConstraintError db.tx row.id signed with
  | some error => rollback db error
  | none =>
    let attempt := signed.toRow db.tx.attempts.next row.id
    commit (db.withTx ((db.tx.addAttempt attempt rfl).setRow
      { switched with activeAttemptID := some attempt.id })) attempt

def nonceMismatch (signed : SignedAttempt) (outboxID : ℕ) : StoreError := .message
    s!"attempt nonce {signed.nonce} does not match outbox tx {outboxID} nonce"

def insertSignedAttempt (db : DB) (now : Time) (outboxID : ℕ)
    (leaseToken : UUID) (signed : SignedAttempt) : Result AttemptRow :=
  if outboxID = 0 then
    rollback db (.message "outbox id is required")
  else
    recoverAttempt db outboxID signed <|
      match db.tx.outbox.find outboxID with
      | none => rollback db .outboxLeaseLost
      | some row =>
        if ¬ leaseHeldBy row.lease leaseToken now then
          rollback db .outboxLeaseLost
        else if row.status ≠ .nonceAssigned then
          -- The row moved on while this signer held the lease.
          rollback db .outboxLeaseLost
        else if row.nonce ≠ some signed.nonce then
          rollback db (nonceMismatch signed outboxID)
        else
          persistAttempt db row signed
            { row with
              status := .signed
              lease := none
              preSignFailureCount := 0
              nextSignAt := none
              updatedAt := now }

/-! ## Broadcasting -/

/-- The doubling loop of `broadcastReplayDelay`, over `count - 1` rounds. -/
def broadcastReplayDelayLoop (delay : Duration) : ℕ → Duration
  | 0 => delay
  | rounds + 1 =>
    if delay * 2 ≥ txBroadcastReplayMaxDelay then txBroadcastReplayMaxDelay
    else broadcastReplayDelayLoop (delay * 2) rounds

def broadcastReplayDelay (count : ℕ) : Duration :=
  broadcastReplayDelayLoop txBroadcastReplayBaseDelay (count - 1)

def mapSendClassToOutbox : SendClass → TxStatus
  | .accepted | .ambiguous => .broadcast
  | .nonceTooHigh | .retryableEnv => .signed
  | .underpriced => .held .repriceRequired
  | .nonceTooLow => .held .nonceReconcileRequired
  | .definitive => .held .manual

/-- A reserved attempt ready to be broadcast. -/
structure BroadcastClaim where
  attemptID : ℕ
  outboxID : ℕ
  purpose : Purpose
  nonce : ℕ
  txHash : Hash
  rawTx : Bytes
  kind : AttemptKind
  deriving DecidableEq

/-- Rows whose active attempt spent its broadcast budget without being
accepted. -/
def broadcastExhausted (tx : TxTables) (now : Time) (lane : Lane) (row : OutboxRow) : Bool :=
  decide (row.lane = lane ∧ row.status = .signed) &&
    (match activeAttempt tx row with
      | none => false
      | some attempt =>
        decide (attempt.state = .ambiguous ∧ attempt.broadcastCount ≥ txMaxBroadcasts) &&
          leaseFree attempt.broadcastLease now)

def parkExhausted (tx : TxTables) (now : Time) (lane : Lane) (row : OutboxRow) : OutboxRow :=
  if broadcastExhausted tx now lane row then
    { row with status := .held .broadcastExhausted, updatedAt := now }
  else row

theorem parkExhausted_id (tx : TxTables) (now : Time) (lane : Lane)
    (row : OutboxRow) : (parkExhausted tx now lane row).id = row.id := by
  rw [parkExhausted]
  split <;> rfl

def parkExhaustedLanes (tx : TxTables) (now : Time) (lane : Lane) : TxTables :=
  { tx with
    outbox := tx.outbox.mapRows (parkExhausted tx now lane) (parkExhausted_id tx now lane) }

/-- The selection of `ClaimAttemptForBroadcast`, as a join of a row with its
active attempt. -/
def broadcastCandidate (tx : TxTables) (now : Time) (lane : Lane)
    (locked : List ℕ) (row : OutboxRow) : Option (OutboxRow × AttemptRow) :=
  match activeAttempt tx row with
  | none => none
  | some attempt =>
    if row.lane = lane ∧ (row.status = .signed ∨ row.status = .broadcast) ∧
        (attempt.state = .signed ∨ attempt.state = .ambiguous) ∧
        attempt.broadcastCount < txMaxBroadcasts ∧ due attempt.nextBroadcastAt now ∧
        leaseFree attempt.broadcastLease now ∧
        (row.cancelRequestedAt = none ∨ attempt.kind = .cancel) ∧ row.receipt = none ∧
        (∀ nonce ∈ row.nonce, signerLaneBlockedByLowerNonce tx lane nonce = false) ∧
        row.id ∉ locked then
      some (row, attempt)
    else none

/-- From the claim on there is a crash window, so the attempt counts as sent. -/
def AttemptRow.claimBroadcast (attempt : AttemptRow) (now : Time)
    (token : UUID) (leaseTTL : Duration) : AttemptRow :=
  { attempt with
    state := if attempt.state = .signed then .ambiguous else attempt.state
    broadcastCount := attempt.broadcastCount + 1
    lastBroadcastAt := some now
    nextBroadcastAt := some (now + broadcastReplayDelay (attempt.broadcastCount + 1))
    broadcastLease := some ⟨token, now + leaseTTL⟩ }

/-- `ClaimAttemptForBroadcast`.  Exhausted lanes are parked first, and that
parking is committed even when there is no candidate. -/
def claimAttemptForBroadcast (db : DB) (now : Time) (lane : Lane)
    (broadcastToken : UUID) (leaseTTL : Duration) (locked : List ℕ) :
    Result BroadcastClaim :=
  if lane.chainEID = 0 ∨ lane.signerID = "" ∨ leaseTTL ≤ 0 then
    rollback db (.message "claim for broadcast requires chain, signer, and positive ttl")
  else
    let parked := parkExhaustedLanes db.tx now lane
    match firstBy
        (fun pair : OutboxRow × AttemptRow =>
          [if pair.1.nonce.isNone then 1 else 0, pair.1.nonce.getD 0])
        (parked.outbox.rows.filterMap (broadcastCandidate parked now lane locked)) with
    | none =>
      commitError (db.withTx parked)
        (if db.tx.outbox.rows.any (broadcastExhausted db.tx now lane) then
          .broadcastLaneHeld
        else .noBroadcastCandidate)
    | some (row, attempt) =>
      commit (db.withTx (parked.setAttempt (attempt.claimBroadcast now broadcastToken leaseTTL)))
        ⟨attempt.id, row.id, row.purpose, attempt.nonce, attempt.txHash,
          attempt.rawTx, attempt.kind⟩

/-- The first bytes of a text, unless they end within a rune: Postgres takes no
such text. -/
def firstBytes : ℕ → List Char → Option (List Char)
  | _, [] => some []
  | 0, _ :: _ => some []
  | limit + 1, char :: rest =>
    if char.utf8Size ≤ limit + 1 then
      (firstBytes (limit + 1 - char.utf8Size) rest).map (char :: ·)
    else none

/-- The attempt's state is monotone: accepted upgrades it, nothing downgrades
it. -/
def AttemptRow.sendResult (attempt : AttemptRow) (sendClass : SendClass)
    (sendErr : String) : AttemptRow :=
  { attempt with
    state :=
      if sendClass = .accepted ∧ attempt.state ≠ .mined then .submitted
      else attempt.state
    sendErrorClass := some sendClass
    sendError := (firstBytes 500 sendErr.toList).bind (optionalString ∘ String.ofList)
    broadcastLease := none }

/-- The row's status follows the result only while this attempt is active and
the row is not terminal. -/
def applySendClass (tx : TxTables) (now : Time) (attempt : AttemptRow)
    (sendClass : SendClass) : TxTables :=
  match tx.outbox.find attempt.outboxID with
  | none => tx
  | some row =>
    if row.activeAttemptID = some attempt.id ∧ ¬ row.status.terminal then
      tx.setRow
        { row with
          status := mapSendClassToOutbox sendClass
          updatedAt := now }
    else tx

def markAttemptSendResult (db : DB) (now : Time) (attemptID : ℕ)
    (broadcastToken : UUID) (sendClass : SendClass) (sendErr : String) :
    Result Unit :=
  if attemptID = 0 then
    rollback db (.message "mark attempt send result requires attempt id and class")
  else
    match db.tx.attempts.find attemptID with
    | none => rollback db .outboxLeaseLost
    | some attempt =>
      if ¬ leaseHeldBy attempt.broadcastLease broadcastToken now then rollback db .outboxLeaseLost
      else if firstBytes 500 sendErr.toList = none then
        rollback db (.message "invalid byte sequence for encoding \"UTF8\"")
      else
        commit (db.withTx ((applySendClass db.tx now attempt
          sendClass).setAttempt (attempt.sendResult sendClass sendErr))) ()

end Lazier.Store
