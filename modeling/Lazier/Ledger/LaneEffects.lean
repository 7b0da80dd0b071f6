import Lazier.Ledger.Changes
import Lazier.Store.WorkFrames

/-!
# Effects of the signing lane

Signing, broadcasting, replacing and reconciling, with every column they write:
the signing lease, the active pointer, the failure budget, the operator's
requests, the send state of the attempts and the nonce cursor.  Each effect is
stated with the guards of its call.  That a method is made of ledger changes,
that it is quiet, and the invariants about budgets and selectors are case
analyses of these effects.
-/

namespace Lazier.Ledger

open Library Store SerialTable List

variable {id expected outboxID : ℕ} {token : UUID} {leaseTTL : Duration} {tx : TxTables} {op : TxOp}
  {row : OutboxRow} {lane : Lane} {attempt : AttemptRow} {evidence : String}
  {signed : SignedAttempt} {Row : Type} {locked : List ℕ} {decisions : List NonceReconcileDecision}

/-! ## Rows after an effect -/

/-- A row after an attempt was persisted under a lease of the given use. -/
def persistedRow (use : LeaseUse) (now : Time) (attemptID : ℕ) (row : OutboxRow) : OutboxRow :=
  { row with
    status :=
      match use with
      | .signing => .signed
      | .replacement => replacedStatus row.status
      | .cancel => canceledStatus row.status
    replaceRequestedAt :=
      match use with
      | .replacement => none
      | _ => row.replaceRequestedAt
    activeAttemptID := some attemptID
    lease := none
    preSignFailureCount := 0
    nextSignAt := none
    updatedAt := now }

/-- The tables after an attempt was persisted. -/
abbrev persistedTx (use : LeaseUse) (tx : TxTables) (now : Time) (signed : SignedAttempt)
    (row : OutboxRow) : TxTables :=
  (tx.addAttempt (signed.toRow tx.attempts.next row.id) rfl).setRow
    (persistedRow use now tx.attempts.next row)

/-- A row after a failed signature. -/
def chargedRow (now : Time) (row : OutboxRow) : OutboxRow :=
  let parked := txMaxPreSignFailures ≤ row.preSignFailureCount + 1
  let delay := autoRetryDelay row.preSignFailureCount
  { row with
    status := if parked then .held .manual else row.status
    preSignFailureCount := row.preSignFailureCount + 1
    nextSignAt :=
      if row.status = .nonceAssigned then
        if parked then none else some (now + delay)
      else row.nextSignAt
    replaceRequestedAt :=
      if row.status = .nonceAssigned then row.replaceRequestedAt
      else if parked then none
      else row.replaceRequestedAt.map fun _ => now + delay
    cancelDeferUntil :=
      if row.status = .nonceAssigned ∨ parked then row.cancelDeferUntil
      else if row.cancelRequestedAt.isSome then some (now + delay)
      else row.cancelDeferUntil
    lease := none
    updatedAt := now }

/-- The active attempt of the row is a cancel. -/
def activeIsCancel (tx : TxTables) (row : OutboxRow) : Bool :=
  match activeAttempt tx row with
  | none => false
  | some attempt => decide (attempt.kind = .cancel)

/-- A row after an operator's cancel request. -/
def cancelRow (tx : TxTables) (now : Time) (row : OutboxRow) : OutboxRow :=
  { row with
    cancelRequestedAt := some now
    cancelDeferUntil := none
    preSignFailureCount := 0
    nextSignAt := none
    replaceRequestedAt := if activeIsCancel tx row then some now else none
    lease := none
    updatedAt := now }

/-- A row after a send result of its active attempt. -/
def reportedRow (now : Time) (sendClass : SendClass) (row : OutboxRow) : OutboxRow :=
  { row with status := mapSendClassToOutbox sendClass, updatedAt := now }

/-! ## Effects -/

/-- The statuses and the intent under which an operator may ask for a
replacement. -/
def ReplacementAllowed (row : OutboxRow) : Prop :=
  row.activeAttemptID ≠ none ∧ row.cancelRequestedAt = none ∧
    (row.status = .broadcast ∨ row.status = .held .repriceRequired ∨
      row.status = .held .broadcastExhausted)

/-- The pair that `ClaimAttemptForBroadcast` takes. -/
def broadcastPick (tx : TxTables) (now : Time) (lane : Lane)
    (locked : List ℕ) : Option (OutboxRow × AttemptRow) := firstBy
    (fun pair : OutboxRow × AttemptRow =>
      [if pair.1.nonce.isNone then 1 else 0, pair.1.nonce.getD 0])
    ((parkExhaustedLanes tx now lane).outbox.rows.filterMap
      (broadcastCandidate (parkExhaustedLanes tx now lane) now lane locked))

/-- The cursor of a lane appears, or keeps its next nonce. -/
inductive CursorEffect (tx : TxTables) : TxOp → TxTables → Prop
  | unchanged {op : TxOp} : CursorEffect tx op tx
  | bootstrapped {lane : Lane} {rpcPendingNonce value : ℕ} (habsent : tx.cursors.find lane = none)
      (habove : ∀ row ∈ tx.outbox, row.lane = lane →
        ∀ nonce, row.nonce = some nonce → nonce < value) :
      CursorEffect tx (.bootstrapTxNonceCursor lane rpcPendingNonce)
        (tx.addCursor ⟨lane, value, none, none⟩)
  | scheduled {op : TxOp} {lane : Lane} {old : NonceCursor} (new : NonceCursor)
      (hfind : tx.cursors.find lane = some old) (hlane : new.lane = old.lane)
      (hnext : new.nextNonce = old.nextNonce) : CursorEffect tx op (tx.setCursor new)

/-- What a quiet method leaves behind. -/
inductive Effect (tx : TxTables) : TxOp → TxTables → Prop
  | cursors {op : TxOp} {after : TxTables} (houtbox : after.outbox = tx.outbox)
      (hattempts : after.attempts = tx.attempts)
      (hcursors : CursorEffect tx op after) : Effect tx op after
  /-- Columns no selector decides on, and a deferred request. -/
  | noted {op : TxOp} {row : OutboxRow} (stored : Option StoredReceipt)
      (updatedAt : Time) (polledAt replaceAt deferUntil : Option Time)
      (hrow : tx.outbox.find row.id = some row)
      (hreplace : replaceAt.isSome = row.replaceRequestedAt.isSome) : Effect tx op (tx.setRow
        { row with
          storedReceipt := stored
          updatedAt := updatedAt
          lastReceiptPollAt := polledAt
          replaceRequestedAt := replaceAt
          cancelDeferUntil := deferUntil })
  | assigned {now : Time} {lane : Lane} {token : UUID} {leaseTTL : Duration}
      {row : OutboxRow} {cursor : NonceCursor} (hrow : tx.outbox.find row.id = some row)
      (hqueued : row.status = .queued) (hnonce : row.nonce = none)
      (hcancel : row.cancelRequestedAt = none) (hreceipt : row.receipt = none)
      (hcursor : cursor ∈ tx.cursors) (hlane : cursor.lane = row.lane)
      (hclear : ∀ other ∈ tx.outbox, other.lane = row.lane → other.status.blocksLane = false) :
      Effect tx (.claimOutboxForSigning now row.id lane token leaseTTL)
        ((tx.setRow
          { row with
            nonce := some cursor.nextNonce
            status := .nonceAssigned
            lease := some ⟨token, now + leaseTTL⟩
            updatedAt := now }).setCursor
          { cursor with nextNonce := cursor.nextNonce + 1 })
  | signing {now : Time} {lane : Lane} {token : UUID} {leaseTTL : Duration}
      {row : OutboxRow} (hrow : tx.outbox.find row.id = some row)
      (hstatus : row.status = .queued ∨ row.status = .nonceAssigned)
      (hnonce : row.nonce ≠ none) (hcancel : row.cancelRequestedAt = none)
      (hreceipt : row.receipt = none) :
      Effect tx (.claimOutboxForSigning now row.id lane token leaseTTL)
        (tx.setRow
          { row with
            status := .nonceAssigned
            lease := some ⟨token, now + leaseTTL⟩
            updatedAt := now })
  | replacing {now : Time} {expected : ℕ} {token : UUID} {leaseTTL : Duration}
      {row : OutboxRow} {active : AttemptRow}
      (hrow : tx.outbox.find row.id = some row) (hreceipt : row.receipt = none)
      (hactive : row.activeAttemptID = some expected)
      (hfound : tx.attempts.find expected = some active)
      (hclaimable : replacementClaimable row.status active.kind = true) : Effect tx
        (.claimOutboxForReplacementSigning now row.id expected token leaseTTL)
        (tx.setRow { row with lease := some ⟨token, now + leaseTTL⟩, updatedAt := now })
  | canceling {now : Time} {expected : ℕ} {token : UUID} {leaseTTL : Duration}
      {row : OutboxRow} (hrow : tx.outbox.find row.id = some row)
      (hcancel : row.cancelRequestedAt ≠ none) (hreceipt : row.receipt = none)
      (hactive : row.activeAttemptID.getD 0 = expected)
      (hallowed : row.status.cancelAllowed = true) (hnonce : row.nonce ≠ none) : Effect tx
        (.claimOutboxForCancelSigning now row.id expected token leaseTTL)
        (tx.setRow { row with lease := some ⟨token, now + leaseTTL⟩, updatedAt := now })
  | signed {now : Time} {token : UUID} {signed : SignedAttempt}
      {row : OutboxRow} (hrow : tx.outbox.find row.id = some row)
      (hleased : leaseHeldBy row.lease token now = true) (hstatus : row.status = .nonceAssigned)
      (hnonce : row.nonce = some signed.nonce) (hfresh : attemptByHash tx signed.txHash = none) :
      Effect tx (.insertSignedAttempt now row.id token signed)
        (persistedTx .signing tx now signed row)
  | replaced {now : Time} {expected : ℕ} {token : UUID} {signed : SignedAttempt}
      {row : OutboxRow} (hkind : signed.kind ≠ .original) (hrow : tx.outbox.find row.id = some row)
      (hleased : leaseHeldBy row.lease token now = true) (hreceipt : row.receipt = none)
      (hactive : row.activeAttemptID = some expected)
      (hclaimable : replacementClaimable row.status signed.kind = true)
      (hexclusive : row.cancelRequestedAt = none ∨ signed.kind = .cancel)
      (hnonce : row.nonce = some signed.nonce) (hfresh : attemptByHash tx signed.txHash = none) :
      Effect tx (.insertReplacementAttempt now row.id expected token signed)
        (persistedTx .replacement tx now signed row)
  | canceled {now : Time} {expected : ℕ} {token : UUID} {signed : SignedAttempt}
      {row : OutboxRow} (hkind : signed.kind = .cancel) (hrow : tx.outbox.find row.id = some row)
      (hleased : leaseHeldBy row.lease token now = true)
      (hcancel : row.cancelRequestedAt ≠ none) (hreceipt : row.receipt = none)
      (hactive : row.activeAttemptID.getD 0 = expected) (hallowed : row.status.cancelAllowed = true)
      (hnonce : row.nonce = some signed.nonce) (hfresh : attemptByHash tx signed.txHash = none) :
      Effect tx (.insertCancelAttempt now row.id expected token signed)
        (persistedTx .cancel tx now signed row)
  | parked {now : Time} {lane : Lane} {token : UUID} {leaseTTL : Duration} {locked : List ℕ} :
      Effect tx (.claimAttemptForBroadcast now lane token leaseTTL locked)
        (parkExhaustedLanes tx now lane)
  | broadcast {now : Time} {lane : Lane} {token : UUID} {leaseTTL : Duration}
      {locked : List ℕ} {row : OutboxRow} {attempt : AttemptRow}
      (hpick : broadcastPick tx now lane locked = some (row, attempt)) :
      Effect tx (.claimAttemptForBroadcast now lane token leaseTTL locked)
        ((parkExhaustedLanes tx now lane).setAttempt (attempt.claimBroadcast now token leaseTTL))
  /-- The result of sending an attempt that is no longer the active one. -/
  | outdated {now : Time} {attempt : AttemptRow} {token : UUID}
      {sendClass : SendClass} {sendErr : String}
      (hattempt : tx.attempts.find attempt.id = some attempt)
      (hleased : leaseHeldBy attempt.broadcastLease token now = true)
      (houtdated : ∀ row, tx.outbox.find attempt.outboxID = some row →
        row.activeAttemptID = some attempt.id → row.status.terminal = true) :
      Effect tx (.markAttemptSendResult now attempt.id token sendClass sendErr)
        (tx.setAttempt (attempt.sendResult sendClass sendErr))
  | reported {now : Time} {attempt : AttemptRow} {token : UUID}
      {sendClass : SendClass} {sendErr : String} {row : OutboxRow}
      (hattempt : tx.attempts.find attempt.id = some attempt)
      (hleased : leaseHeldBy attempt.broadcastLease token now = true)
      (howner : attempt.outboxID = row.id) (hrow : tx.outbox.find row.id = some row)
      (hactive : row.activeAttemptID = some attempt.id) (hlive : row.status.terminal = false) :
      Effect tx (.markAttemptSendResult now attempt.id token sendClass sendErr)
        ((tx.setRow (reportedRow now sendClass row)).setAttempt
          (attempt.sendResult sendClass sendErr))
  | charged {now : Time} {token : UUID} {row : OutboxRow} (hrow : tx.outbox.find row.id = some row)
      (hleased : leaseHeldBy row.lease token now = true) (hlive : row.status.terminal = false) :
      Effect tx (.recordPreSignFailure now row.id token) (tx.setRow (chargedRow now row))
  | replacementRequested {now : Time} {row : OutboxRow} (hid : row.id ≠ 0)
      (hrow : tx.outbox.find row.id = some row) (hallowed : ReplacementAllowed row) :
      Effect tx (.requestTxReplacement now row.id)
        (tx.setRow
          { row with
            replaceRequestedAt := some now
            preSignFailureCount := 0
            updatedAt := now })
  | cancelRequested {now : Time} {row : OutboxRow} (hid : row.id ≠ 0)
      (hrow : tx.outbox.find row.id = some row) (hnonce : row.nonce ≠ none)
      (hallowed : row.status.cancelAllowed = true) (hreceipt : row.receipt = none) :
      Effect tx (.requestTxCancel now row.id) (tx.setRow (cancelRow tx now row))
  | reconciled {now : Time} {lane : Lane} {token : UUID}
      {confirmedNonce confirmedBlock : ℕ} {backoff : Duration}
      {observed : String} {decisions : List NonceReconcileDecision}
      (evidence : String) {cursor : NonceCursor} (hcursor : tx.cursors.find lane = some cursor)
      (hleased : leaseHeldBy cursor.reconcileLease token now = true) :
      Effect tx (.applyNonceReconciliation now lane token confirmedNonce
          confirmedBlock backoff observed decisions)
        (decisions.foldl (applyDecision now evidence)
          (tx.setCursor (cursor.publish now confirmedNonce backoff), 0)).1

theorem Effect.unchanged : Effect tx op tx :=
  .cursors rfl rfl .unchanged

/-- The methods that move open rows between open statuses. -/
def quietOp : TxOp → Bool
  | .bootstrapTxNonceCursor .. | .refreshBroadcastReceiptObservedAt ..
  | .markTxReceiptCostPriced .. | .claimOutboxForSigning ..
  | .insertSignedAttempt .. | .claimAttemptForBroadcast ..
  | .markAttemptSendResult .. | .touchReceiptPoll ..
  | .recordPreSignFailure .. | .requestTxReplacement ..
  | .deferReplacement .. | .claimOutboxForReplacementSigning ..
  | .insertReplacementAttempt .. | .requestTxCancel .. | .deferCancel ..
  | .claimOutboxForCancelSigning .. | .insertCancelAttempt ..
  | .extendNonceReconciliation .. | .claimNonceReconciliation ..
  | .finishNonceReconciliation .. | .applyNonceReconciliation .. => true
  | _ => false

/-! ## The quiet methods -/

theorem find_self {db : DB} (hfind : db.tx.outbox.find id = some row) :
    db.tx.outbox.find row.id = some row := by
  rw [(find_eq_some.mp hfind).2]
  exact hfind

theorem lt_localNextNonce {next : ℕ} (hnext : localNextNonce tx lane = .ok next)
    (hrow : row ∈ tx.outbox) (hlane : row.lane = lane) {nonce : ℕ}
    (hnonce : row.nonce = some nonce) :
    nonce < next := by
  have hmem : nonce ∈ laneNonces tx lane :=
    mem_filterMap.mpr ⟨row, hrow, by rw [if_pos hlane, hnonce]⟩
  unfold localNextNonce at hnext
  split at hnext
  next hmax =>
    rw [List.max?_eq_none_iff] at hmax
    rw [hmax] at hmem
    simp at hmem
  next dbMax hmax =>
    have hle := (List.max?_eq_some_iff.mp hmax).2 nonce hmem
    split at hnext
    · cases hnext
    · cases hnext
      omega

theorem signerLaneBlocked_eq_false (hfree : ¬ signerLaneBlocked tx lane = true)
    (hrow : row ∈ tx.outbox) (hlane : row.lane = lane) : row.status.blocksLane = false := by
  by_contra hblocks
  refine hfree (any_eq_true.mpr ⟨row, hrow, ?_⟩)
  simpa [hlane] using hblocks

theorem claimCursorNonce_ok {cursor : NonceCursor}
    (hclaim : claimCursorNonce tx lane = .ok cursor) :
    cursor ∈ tx.cursors ∧ cursor.lane = lane := by
  unfold claimCursorNonce at hclaim
  split at hclaim
  · cases hclaim
  next found hfind =>
    split at hclaim
    · cases hclaim
    · cases hclaim
      exact Table.find_eq_some.mp hfind

section Methods

variable (db : DB) (now : Time)

section Guards

variable {db} {Value : Type} {guard : Prop} [Decidable guard] {error : StoreError}
  {rest : Result Value}

theorem Effect.behind (hrest : ¬ guard → Effect db.tx op rest.1.tx) :
    Effect db.tx op (if guard then rollback db error else rest).1.tx := by
  split
  · exact .unchanged
  · rename_i hpassed
    exact hrest hpassed

theorem Effect.under (hrest : guard → Effect db.tx op rest.1.tx) :
    Effect db.tx op (if guard then rest else rollback db error).1.tx := by
  split
  · rename_i hpassed
    exact hrest hpassed
  · exact .unchanged

theorem Effect.unless (hrest : guard → Effect db.tx op rest.1.tx) :
    Effect db.tx op (if ¬ guard then rollback db error else rest).1.tx :=
  .behind fun hpassed => hrest (not_not.mp hpassed)

end Guards

theorem effect_claimOutboxForSigning :
    Effect db.tx (.claimOutboxForSigning now id lane token leaseTTL)
      (claimOutboxForSigning db now id lane token leaseTTL).1.tx := by
  unfold claimOutboxForSigning
  refine .behind fun _ => ?_
  split
  · exact .unchanged
  rename_i row hfind
  obtain ⟨-, rfl⟩ := find_eq_some.mp hfind
  refine .unless fun ⟨hrowLane, _, hcancel, hreceipt⟩ => ?_
  subst hrowLane
  split
  · rename_i hqueued
    split
    · rename_i hnonce
      split
      · exact .unchanged
      refine .behind fun hfree => ?_
      split
      · exact .unchanged
      rename_i cursor hclaim
      obtain ⟨hcursor, hlane⟩ := claimCursorNonce_ok hclaim
      exact .assigned hfind hqueued hnonce hcancel hreceipt hcursor hlane
        fun _ => signerLaneBlocked_eq_false hfree
    · rename_i nonce hnonce
      exact .behind fun _ => .signing hfind (.inl hqueued) (by simp [hnonce]) hcancel hreceipt
  refine .under fun hassigned => ?_
  split
  · exact .unchanged
  rename_i nonce hnonce
  refine .behind fun _ => ?_
  have heffect : Effect db.tx (.claimOutboxForSigning now row.id row.lane token leaseTTL) _ :=
    .signing hfind (.inr hassigned) (by simp [hnonce]) hcancel hreceipt
  rw [← hassigned] at heffect
  exact heffect

theorem effect_claimOutboxForReplacementSigning : Effect db.tx
      (.claimOutboxForReplacementSigning now id expected token leaseTTL)
      (claimOutboxForReplacementSigning db now id expected token leaseTTL).1.tx := by
  unfold claimOutboxForReplacementSigning
  refine .behind fun _ => ?_
  split
  · exact .unchanged
  rename_i row hfind
  obtain ⟨-, rfl⟩ := find_eq_some.mp hfind
  refine .behind fun _ => .unless fun hreceipt => .unless fun hactive => ?_
  split
  · exact .unchanged
  rename_i active hfound
  exact .under fun hclaimable => .replacing hfind hreceipt hactive hfound hclaimable

theorem effect_claimOutboxForCancelSigning :
    Effect db.tx (.claimOutboxForCancelSigning now id expected token leaseTTL)
      (claimOutboxForCancelSigning db now id expected token leaseTTL).1.tx := by
  unfold claimOutboxForCancelSigning
  refine .behind fun _ => ?_
  split
  · exact .unchanged
  rename_i row hfind
  obtain ⟨-, rfl⟩ := find_eq_some.mp hfind
  refine .unless fun hnonce => .behind fun hopen => .unless fun hactive => ?_
  rw [not_or, not_not] at hopen
  exact .under fun hallowed => .canceling hfind hopen.1 hopen.2 hactive hallowed hnonce.1

theorem effect_recoverAttempt {fresh : Result AttemptRow}
    (hfresh : attemptByHash db.tx signed.txHash = none → Effect db.tx op fresh.1.tx) :
    Effect db.tx op (recoverAttempt db outboxID signed fresh).1.tx := by
  unfold recoverAttempt
  refine .behind fun _ => .behind fun _ => ?_
  split
  · split <;> exact .unchanged
  · rename_i hnone
    exact hfresh hnone

theorem effect_persistAttempt {switched : OutboxRow} (hpersisted : Effect db.tx op
      ((db.tx.addAttempt (signed.toRow db.tx.attempts.next row.id) rfl).setRow
        { switched with activeAttemptID := some db.tx.attempts.next })) :
    Effect db.tx op (persistAttempt db row signed switched).1.tx := by
  unfold persistAttempt
  split
  · exact .unchanged
  · exact hpersisted

theorem effect_insertSignedAttempt : Effect db.tx (.insertSignedAttempt now outboxID token signed)
      (insertSignedAttempt db now outboxID token signed).1.tx := by
  unfold insertSignedAttempt
  refine .behind fun _ => effect_recoverAttempt db fun hfresh => ?_
  split
  · exact .unchanged
  rename_i row hfind
  obtain ⟨-, rfl⟩ := find_eq_some.mp hfind
  refine .unless fun hleased => .unless fun hstatus => .unless fun hnonce => ?_
  apply effect_persistAttempt
  exact .signed hfind hleased hstatus hnonce hfresh

theorem effect_insertReplacementAttempt :
    Effect db.tx (.insertReplacementAttempt now outboxID expected token signed)
      (insertReplacementAttempt db now outboxID expected token signed).1.tx := by
  unfold insertReplacementAttempt
  refine .behind fun _ => .behind fun hkind => effect_recoverAttempt db fun hfresh => ?_
  split
  · exact .unchanged
  rename_i row hfind
  obtain ⟨-, rfl⟩ := find_eq_some.mp hfind
  refine .unless fun hleased => .unless fun hreceipt => .unless fun hactive =>
    .unless fun hclaimable => .behind fun hexclusive => .unless fun hnonce => ?_
  rw [not_and_or, not_not, not_not] at hexclusive
  apply effect_persistAttempt
  exact .replaced hkind hfind hleased hreceipt hactive hclaimable hexclusive hnonce hfresh

theorem effect_insertCancelAttempt :
    Effect db.tx (.insertCancelAttempt now outboxID expected token signed)
      (insertCancelAttempt db now outboxID expected token signed).1.tx := by
  unfold insertCancelAttempt
  refine .behind fun _ => .unless fun hkind => effect_recoverAttempt db fun hfresh => ?_
  split
  · exact .unchanged
  rename_i row hfind
  obtain ⟨-, rfl⟩ := find_eq_some.mp hfind
  refine .unless fun hleased => .behind fun hopen => .unless fun hactive =>
    .unless fun hallowed => .unless fun hnonce => ?_
  rw [not_or, not_not] at hopen
  apply effect_persistAttempt
  exact .canceled hkind hfind hleased hopen.1 hopen.2 hactive hallowed hnonce hfresh

/-- What `ClaimAttemptForBroadcast` can do. -/
inductive ClaimOutcome (db : DB) (now : Time) (lane : Lane) (token : UUID)
    (leaseTTL : Duration) (locked : List ℕ) : Result BroadcastClaim → Prop
  | refused (error : StoreError) :
      ClaimOutcome db now lane token leaseTTL locked (rollback db error)
  | parked (error : StoreError) : ClaimOutcome db now lane token leaseTTL locked
        (commitError (db.withTx (parkExhaustedLanes db.tx now lane)) error)
  | claimed {row : OutboxRow} {attempt : AttemptRow}
      (hpick : broadcastPick db.tx now lane locked = some (row, attempt)) :
      ClaimOutcome db now lane token leaseTTL locked
        (commit (db.withTx ((parkExhaustedLanes db.tx now lane).setAttempt
            (attempt.claimBroadcast now token leaseTTL)))
          ⟨attempt.id, row.id, row.purpose, attempt.nonce, attempt.txHash,
            attempt.rawTx, attempt.kind⟩)

theorem claimAttemptForBroadcast_outcome (lane : Lane) (token : UUID)
    (leaseTTL : Duration) (locked : List ℕ) : ClaimOutcome db now lane token leaseTTL locked
      (claimAttemptForBroadcast db now lane token leaseTTL locked) := by
  unfold claimAttemptForBroadcast
  split
  · exact .refused _
  dsimp only
  split
  · exact .parked _
  · rename_i hpick
    exact .claimed hpick

theorem effect_claimAttemptForBroadcast :
    Effect db.tx (.claimAttemptForBroadcast now lane token leaseTTL locked)
      (claimAttemptForBroadcast db now lane token leaseTTL locked).1.tx := by
  have houtcome := claimAttemptForBroadcast_outcome db now lane token leaseTTL locked
  generalize claimAttemptForBroadcast db now lane token leaseTTL locked = result at houtcome ⊢
  cases houtcome with
  | refused => exact .unchanged
  | parked => exact .parked
  | claimed hpick => exact .broadcast hpick

theorem effect_markAttemptSendResult {attemptID : ℕ} {sendClass : SendClass} {sendErr : String} :
    Effect db.tx (.markAttemptSendResult now attemptID token sendClass sendErr)
      (markAttemptSendResult db now attemptID token sendClass sendErr).1.tx := by
  unfold markAttemptSendResult
  refine .behind fun _ => ?_
  split
  · exact .unchanged
  rename_i attempt hfind
  obtain ⟨-, rfl⟩ := find_eq_some.mp hfind
  refine .unless fun hleased => .behind fun _ => ?_
  unfold applySendClass
  split
  · rename_i hnone
    exact .outdated hfind hleased fun row hrow => by
      rw [hnone] at hrow
      cases hrow
  rename_i row hrow
  obtain ⟨-, howner⟩ := find_eq_some.mp hrow
  rw [← howner] at hrow
  split
  · rename_i hcurrent
    exact .reported hfind hleased howner.symm hrow hcurrent.1 (Bool.eq_false_iff.mpr hcurrent.2)
  · rename_i hstale
    refine .outdated hfind hleased fun other hother hactive => ?_
    rw [← howner, hrow] at hother
    cases hother
    rw [not_and, not_not] at hstale
    exact hstale hactive

theorem effect_recordPreSignFailure : Effect db.tx (.recordPreSignFailure now id token)
      (recordPreSignFailure db now id token).1.tx := by
  unfold recordPreSignFailure
  refine .behind fun _ => ?_
  split
  · exact .unchanged
  rename_i row hfind
  obtain ⟨-, rfl⟩ := find_eq_some.mp hfind
  refine .unless fun hleased => .behind fun hlive => ?_
  have heffect : Effect db.tx (.recordPreSignFailure now row.id token) _ :=
    .charged hfind hleased (Bool.eq_false_iff.mpr hlive)
  dsimp only
  split <;> rename_i hassigned <;> split <;> rename_i hparked <;>
    simpa [chargedRow, hassigned, hparked] using heffect

theorem effect_requestTxReplacement : Effect db.tx (.requestTxReplacement now id)
      (requestTxReplacement db now id).1.tx := by
  unfold requestTxReplacement
  refine .behind fun hid => ?_
  split
  · exact .unchanged
  rename_i row hfind
  obtain ⟨-, rfl⟩ := find_eq_some.mp hfind
  exact .under fun hallowed => .replacementRequested hid hfind hallowed

theorem effect_requestTxCancel :
    Effect db.tx (.requestTxCancel now id) (requestTxCancel db now id).1.tx := by
  unfold requestTxCancel
  refine .behind fun hid => ?_
  split
  · exact .unchanged
  rename_i row hfind
  obtain ⟨-, rfl⟩ := find_eq_some.mp hfind
  exact .under fun ⟨hnonce, hallowed, hreceipt⟩ =>
    .cancelRequested hid hfind hnonce hallowed hreceipt

end Methods

theorem quiet_effect (db : DB) (op : TxOp) (hquiet : quietOp op = true) :
    Effect db.tx op (op.apply db).tx := by
  cases op with
  | claimOutboxForSigning => exact effect_claimOutboxForSigning _ _
  | claimOutboxForReplacementSigning => exact effect_claimOutboxForReplacementSigning _ _
  | claimOutboxForCancelSigning => exact effect_claimOutboxForCancelSigning _ _
  | insertSignedAttempt => exact effect_insertSignedAttempt _ _
  | insertReplacementAttempt => exact effect_insertReplacementAttempt _ _
  | insertCancelAttempt => exact effect_insertCancelAttempt _ _
  | claimAttemptForBroadcast => exact effect_claimAttemptForBroadcast _ _
  | markAttemptSendResult => exact effect_markAttemptSendResult _ _
  | recordPreSignFailure => exact effect_recordPreSignFailure _ _
  | requestTxReplacement => exact effect_requestTxReplacement _ _
  | requestTxCancel => exact effect_requestTxCancel _ _
  | applyNonceReconciliation =>
    simp only [TxOp.apply]
    unfold applyNonceReconciliation
    split
    · exact .unchanged
    split
    · exact .unchanged
    split
    · exact .unchanged
    rename_i cursor hcursor
    split
    · rename_i hleased
      exact .reconciled _ hcursor hleased
    · exact .unchanged
  | refreshBroadcastReceiptObservedAt | markTxReceiptCostPriced
  | touchReceiptPoll | deferReplacement | deferCancel =>
    simp only [TxOp.apply, refreshBroadcastReceiptObservedAt,
      markTxReceiptCostPriced, touchReceiptPoll, deferReplacement, deferCancel]
    repeat' split
    all_goals first
      | exact .unchanged
      | exact .noted _ _ _ _ _ (find_self (by assumption)) (by simp)
  | bootstrapTxNonceCursor lane rpcPendingNonce =>
    simp only [TxOp.apply, bootstrapTxNonceCursor]
    repeat' split
    all_goals try exact .unchanged
    rename_i hlocal _ habsent _
    refine .cursors rfl rfl (.bootstrapped habsent ?_)
    intro row hrow hlane nonce hnonce
    exact (lt_localNextNonce hlocal hrow hlane hnonce).trans_le (le_max_left _ _)
  | extendNonceReconciliation | claimNonceReconciliation
  | finishNonceReconciliation =>
    simp only [TxOp.apply, extendNonceReconciliation,
      claimNonceReconciliation, finishNonceReconciliation]
    repeat' split
    all_goals first
      | exact .unchanged
      | (rename_i hfind _
         exact .cursors rfl rfl (.scheduled _ hfind rfl rfl))
  | _ => cases hquiet

theorem rel_comp {left right both : Row → Row → Prop}
    (hcomp : ∀ first second third, left first second → right second third → both first third)
    {first second third : Option Row} (hleft : Option.Rel left first second)
    (hright : Option.Rel right second third) : Option.Rel both first third := by
  cases hleft with
  | none =>
    cases hright with
    | none => exact .none
  | some hleft =>
    cases hright with
    | some hright => exact .some (hcomp _ _ _ hleft hright)

theorem rel_refl {rel : Row → Row → Prop} (hrefl : ∀ row, rel row row) {row : Option Row} :
    Option.Rel rel row row := by
  cases row with
  | none => exact .none
  | some row => exact .some (hrefl row)

theorem activeAttempt_eq_some :
    activeAttempt tx row = some attempt ↔
      attempt ∈ tx.attempts ∧ row.activeAttemptID = some attempt.id ∧
        attempt.outboxID = row.id := by
  unfold activeAttempt
  constructor
  · intro hactive
    split at hactive
    · cases hactive
    rename_i id hid
    split at hactive
    · cases hactive
    rename_i found hfound
    obtain ⟨hmem, hkey⟩ := find_eq_some.mp hfound
    split at hactive
    · rename_i howner
      cases hactive
      exact ⟨hmem, hid.trans (congrArg some hkey.symm), howner⟩
    · cases hactive
  · rintro ⟨hmem, hactive, howner⟩
    have hfound := find_of_mem hmem
    simp only [hactive, hfound, howner, if_true]

/-- The pair taken for broadcast is a row of the parked tables and its active
attempt. -/
theorem broadcastPick_spec {now : Time}
    (hpick : broadcastPick tx now lane locked = some (row, attempt)) :
    row ∈ (parkExhaustedLanes tx now lane).outbox ∧ activeAttempt tx row = some attempt ∧
      (row.status = .signed ∨ row.status = .broadcast) ∧
      (attempt.state = .signed ∨ attempt.state = .ambiguous) ∧
      attempt.broadcastCount < txMaxBroadcasts ∧
      (row.cancelRequestedAt = none ∨ attempt.kind = .cancel) ∧ row.receipt = none := by
  obtain ⟨candidate, hmem, hcandidate⟩ := mem_filterMap.mp (mem_of_firstBy_eq_some hpick)
  unfold broadcastCandidate at hcandidate
  split at hcandidate
  · cases hcandidate
  rename_i active hactive
  obtain ⟨hguard, hpair⟩ := Option.ite_none_right_eq_some.mp hcandidate
  cases hpair
  obtain ⟨-, hstatus, hstate, hcount, -, -, hexclusive, hunpinned, -⟩ := hguard
  exact ⟨hmem, hactive, hstatus, hstate, hcount, hexclusive, hunpinned⟩

theorem claimGuard_of_pick {now : Time}
    (hpick : broadcastPick tx now lane locked = some (row, attempt)) :
    row ∈ (parkExhaustedLanes tx now lane).outbox ∧
      attempt ∈ tx.attempts ∧ ClaimGuard row attempt := by
  obtain ⟨hrow, hactive, hstatus, hstate, -, hexclusive, hunpinned⟩ := broadcastPick_spec hpick
  obtain ⟨hattempt, hpointer, howner⟩ := activeAttempt_eq_some.mp hactive
  exact ⟨hrow, hattempt, howner, hpointer, hstatus, hstate, hexclusive, hunpinned⟩

/-! ## Reconciliation decisions -/

/-- A row before and after the decisions of one pass. -/
inductive Decided (tx : TxTables) (now : Time) (evidence : String)
    (decisions : List NonceReconcileDecision) (old : OutboxRow) : OutboxRow → Prop
  | kept : Decided tx now evidence decisions old old
  | released {active : AttemptRow} (hmem : ⟨old.id, .release⟩ ∈ decisions)
      (hheld : old.status = .held .nonceReconcileRequired) (hreceipt : old.receipt = none)
      (hactive : old.activeAttemptID.bind tx.attempts.find = some active) :
      Decided tx now evidence decisions old
        { old with status := releasedStatus active, updatedAt := now }
  | external (hmem : ⟨old.id, .markExternal⟩ ∈ decisions)
      (hheld : old.status = .held .nonceReconcileRequired) (hreceipt : old.receipt = none) :
      Decided tx now evidence decisions old
        { old with
          status := .held .nonceConsumedExternally
          lastError := some evidence
          updatedAt := now }

theorem releasedStatus_ne {active : AttemptRow} :
    releasedStatus active ≠ .held .nonceReconcileRequired := by
  unfold releasedStatus
  split <;> simp

/-- The first decision about a row is the one that counts. -/
theorem Decided.cons {now : Time} {decision : NonceReconcileDecision}
    {rest : List NonceReconcileDecision} {old middle new : OutboxRow}
    (hfirst : Decided tx now evidence [decision] old middle)
    (hrest : Decided tx now evidence rest middle new) :
    Decided tx now evidence (decision :: rest) old new := by
  cases hfirst with
  | kept =>
    cases hrest with
    | kept => exact .kept
    | released hmem hheld hreceipt hactive =>
      exact .released (mem_cons_of_mem _ hmem) hheld hreceipt hactive
    | external hmem hheld hreceipt => exact .external (mem_cons_of_mem _ hmem) hheld hreceipt
  | released hmem hheld hreceipt hactive =>
    have hdecided := mem_singleton.mp hmem
    cases hrest with
    | kept => exact .released (hdecided ▸ mem_cons_self) hheld hreceipt hactive
    | released _ hagain | external _ hagain => exact absurd hagain releasedStatus_ne
  | external hmem hheld hreceipt =>
    have hdecided := mem_singleton.mp hmem
    cases hrest with
    | kept => exact .external (hdecided ▸ mem_cons_self) hheld hreceipt
    | released _ hagain | external _ hagain => cases hagain

/-- The tables before and after the decisions of one pass. -/
structure DecidedTx (now : Time) (evidence : String)
    (decisions : List NonceReconcileDecision) (old new : TxTables) : Prop where
  attempts : new.attempts = old.attempts
  cursors : new.cursors = old.cursors
  rows : ∀ id, Option.Rel (Decided old now evidence decisions)
    (old.outbox.find id) (new.outbox.find id)
  next : new.outbox.next = old.outbox.next

theorem decided_applyDecision (now : Time) (evidence : String)
    (progress : TxTables × ℕ) (decision : NonceReconcileDecision) :
    DecidedTx now evidence [decision] progress.1
      (applyDecision now evidence progress decision).1 := by
  have hkept : DecidedTx now evidence [decision] progress.1 progress.1 :=
    ⟨rfl, rfl, fun _ => rel_refl (fun _ => .kept), rfl⟩
  have hset : ∀ row new, progress.1.outbox.find row.id = some row →
      new.id = row.id → Decided progress.1 now evidence [decision] row new →
      DecidedTx now evidence [decision] progress.1 (progress.1.setRow new) := by
    intro row new hrow hid hdecided
    refine ⟨rfl, rfl, fun id => ?_, rfl⟩
    have hfind : progress.1.outbox.find new.id = some row := hid ▸ hrow
    by_cases hsame : id = new.id
    · rw [hsame, TxTables.setRow, find_set_self hfind, hfind]
      exact .some hdecided
    · rw [TxTables.setRow, find_set_of_ne hsame]
      exact rel_refl (fun _ => .kept)
  unfold applyDecision
  split
  · exact hkept
  rename_i row hfind
  obtain ⟨-, hid⟩ := find_eq_some.mp hfind
  rw [← hid] at hfind
  split
  swap
  · exact hkept
  rename_i hheld
  have hdecision : decision = ⟨row.id, decision.action⟩ := by rw [hid]
  split
  · rename_i haction
    rw [haction] at hdecision
    split
    · exact hkept
    · rename_i active hactive
      exact hset row _ hfind rfl (.released (hdecision ▸ mem_cons_self)
        hheld.1 hheld.2 hactive)
  · rename_i haction
    rw [haction] at hdecision
    exact hset row _ hfind rfl (.external (hdecision ▸ mem_cons_self) hheld.1 hheld.2)

theorem Decided.of_attempts {old new : TxTables} {now : Time} {before after : OutboxRow}
    (hattempts : new.attempts = old.attempts)
    (hdecided : Decided new now evidence decisions before after) :
    Decided old now evidence decisions before after := by
  cases hdecided with
  | kept => exact .kept
  | released hmem hheld hreceipt hactive =>
    exact .released hmem hheld hreceipt (hattempts ▸ hactive)
  | external hmem hheld hreceipt => exact .external hmem hheld hreceipt

theorem decided_applyDecisions (now : Time) (evidence : String)
    (decisions : List NonceReconcileDecision) (progress : TxTables × ℕ) :
    DecidedTx now evidence decisions progress.1
      (decisions.foldl (applyDecision now evidence) progress).1 := by
  induction decisions generalizing progress with
  | nil => exact ⟨rfl, rfl, fun _ => rel_refl (fun _ => .kept), rfl⟩
  | cons decision rest ih =>
    have hfirst := decided_applyDecision now evidence progress decision
    have hrest := ih (applyDecision now evidence progress decision)
    refine ⟨hrest.attempts.trans hfirst.attempts, hrest.cursors.trans hfirst.cursors, fun id => ?_,
      hrest.next.trans hfirst.next⟩
    rw [foldl_cons]
    exact rel_comp (fun _ _ _ hleft hright =>
      hleft.cons (hright.of_attempts hfirst.attempts)) (hfirst.rows id)
      (hrest.rows id)

theorem DecidedTx.back {old new : TxTables} {now : Time}
    (hdecided : DecidedTx now evidence decisions old new) (hrow : row ∈ new.outbox) :
    ∃ before ∈ old.outbox, Decided old now evidence decisions before row := by
  have hfind := find_of_mem hrow
  have hrel := hdecided.rows row.id
  rw [hfind] at hrel
  generalize hold : old.outbox.find row.id = found at hrel
  cases hrel with
  | some hrel => exact ⟨_, mem_of_find hold, hrel⟩

/-! ## The holds of a pass -/

theorem mem_reconcileHolds :
    row ∈ reconcileHolds tx lane ↔ row ∈ tx.outbox ∧ row.lane = lane ∧
        row.status = .held .nonceReconcileRequired ∧ row.receipt = none := by
  rw [reconcileHolds, mem_insertionSort, mem_filter, decide_eq_true_eq]
  rfl

theorem mem_selectReconcileHolds {db : DB} {holds : List NonceReconcileHold}
    {hold : NonceReconcileHold} (hread : selectReconcileHolds db lane = .ok holds)
    (hhold : hold ∈ holds) : ∃ held ∈ reconcileHolds db.tx lane, held.id = hold.id ∧
      held.nonce = some hold.nonce := by
  unfold selectReconcileHolds at hread
  dsimp only at hread
  split at hread
  · cases hread
  rename_i hnonces
  cases hread
  obtain ⟨held, hheld, rfl⟩ := mem_map.mp hhold
  refine ⟨held, hheld, rfl, ?_⟩
  cases hnonce : held.nonce with
  | some nonce => rfl
  | none => exact absurd (any_eq_true.mpr ⟨held, hheld, by rw [hnonce]; rfl⟩) hnonces

end Lazier.Ledger
