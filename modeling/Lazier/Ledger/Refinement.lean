import Lazier.Ledger.Effects

/-!
# Store methods as ledger changes

Each store method is a run of ledger changes on the transaction tables.  For
the changes that later arguments trace back to a call, `Stems` records which
call it was.
-/

namespace Lazier.Ledger

open Library Store SerialTable

variable {id : ℕ} {now : Time}

/-- The change is all that its call did to the transaction tables. -/
def Whole (event : Event DB Op) (action : Event TxTables Action) : Prop :=
  event.pre.tx = action.pre ∧ event.post.tx = action.post

/-- The call that claims a signing lease of the given use. -/
def LeaseCall (op : Op) (id : ℕ) (token : UUID) : LeaseUse → Prop
  | .signing => ∃ now lane leaseTTL, op = .tx (.claimOutboxForSigning now id lane token leaseTTL)
  | .replacement => ∃ now expected leaseTTL,
      op = .tx (.claimOutboxForReplacementSigning now id expected token leaseTTL)
  | .cancel => ∃ now expected leaseTTL,
      op = .tx (.claimOutboxForCancelSigning now id expected token leaseTTL)

/-- The call that inserts an attempt under a lease of the given use. -/
def InsertCall (op : Op) (outboxID : ℕ) (token : UUID) (kind : AttemptKind) : LeaseUse → Prop
  | .signing => ∃ now signed, signed.kind = kind ∧
      op = .tx (.insertSignedAttempt now outboxID token signed)
  | .replacement => ∃ now expected signed, signed.kind = kind ∧
      op = .tx (.insertReplacementAttempt now outboxID expected token signed)
  | .cancel => ∃ now expected signed, signed.kind = kind ∧
      op = .tx (.insertCancelAttempt now outboxID expected token signed)

/-- A call of `ClaimAttemptForBroadcast` that returned the attempt. -/
def Claims (event : Event DB Op) (claim : BroadcastClaim) : Prop :=
  ∃ now lane token leaseTTL locked, event.label =
        .tx (.claimAttemptForBroadcast now lane token leaseTTL locked) ∧
      (claimAttemptForBroadcast event.pre now lane token leaseTTL locked).2 = .ok claim

/-- Which call a ledger change stems from. -/
def Stems (event : Event DB Op) (action : Event TxTables Action) : Prop :=
  match action.label with
  | .bootstrap lane _ =>
    Whole event action ∧ ∃ rpcPendingNonce,
      event.label = .tx (.bootstrapTxNonceCursor lane rpcPendingNonce)
  | .assign id _ token =>
    Whole event action ∧ LeaseCall event.label id token .signing
  | .lease id use token => LeaseCall event.label id token use
  | .cancel id => ∃ now, event.label = .tx (.requestTxCancel now id)
  | .insert attempt use token =>
    Whole event action ∧ InsertCall event.label attempt.outboxID token attempt.kind use
  | .claim attemptID =>
    ∃ claim, Claims event claim ∧ claim.attemptID = attemptID
  | .pin _ resolution =>
    Whole event action ∧ ∃ now facts, event.label =
      .tx (.prepareReceiptResolution now resolution.attemptId facts)
  | .finalize attemptID =>
    Whole event action ∧ ∃ now clock facts, event.label =
      .tx (.finalizeAttemptReceipt now clock attemptID facts)
  | .consume id => ∃ now, event.label = .tx (.resolveExternalNonceRetry now id) ∨
        event.label = .tx (.resolveExternalNonceAbandon now id)
  | .forward lane confirmed =>
    event.pre.tx = action.pre ∧ event.post.tx.cursors = action.post.cursors ∧
      ∃ now token block backoff observed decisions, event.label =
        .tx (.applyNonceReconciliation now lane token confirmed block backoff observed decisions)
  | .enqueue _ | .edit | .report _ | .schedule _ => True

/-- The effect of a call on the transaction tables is a run of changes. -/
def Refines (event : Event DB Op) : Prop :=
  ∃ actions, Run Change event.pre.tx actions event.post.tx ∧ ∀ action ∈ actions, Stems event action

namespace Refines

variable {db : DB} {op : Op} {post : DB}

theorem none (htx : post.tx = db.tx) : Refines ⟨db, op, post⟩ :=
  ⟨[], by rw [htx]; exact .start, by simp⟩

theorem one (action : Action) (hchange : Change db.tx action post.tx)
    (hstems : Stems ⟨db, op, post⟩ ⟨db.tx, action, post.tx⟩) : Refines ⟨db, op, post⟩ :=
  ⟨[⟨db.tx, action, post.tx⟩], Run.start.extend hchange, by simpa using hstems⟩

theorem two (first second : Action) {middle : TxTables} (hfirst : Change db.tx first middle)
    (hsecond : Change middle second post.tx) (hstems : Stems ⟨db, op, post⟩ ⟨db.tx, first, middle⟩)
    (hstems' : Stems ⟨db, op, post⟩ ⟨middle, second, post.tx⟩) : Refines ⟨db, op, post⟩ :=
  ⟨[⟨middle, second, post.tx⟩, ⟨db.tx, first, middle⟩],
    (Run.start.extend hfirst).extend hsecond, by simp [hstems, hstems']⟩

theorem edit {old new : OutboxRow} (hold : old ∈ db.tx.outbox)
    (hpost : post.tx = db.tx.setRow new) (hedit : RowEdit db.tx old new) : Refines ⟨db, op, post⟩ :=
  one .edit (hpost ▸ .editRow hold hedit) trivial

end Refines

/-! ## Rows that come and go -/

theorem pristine_queuedRow {request : TxRequest} {attempts : ℕ} {retryOfID : Option ℕ} :
    Pristine (queuedRow id now request attempts retryOfID) := ⟨rfl, rfl, rfl, rfl, rfl, rfl⟩

theorem pristine_cloneRow {row : OutboxRow} :
    Pristine (cloneRow id now row) := ⟨rfl, rfl, rfl, rfl, rfl, rfl⟩

theorem refines_insertQueued {db post : DB} {op : Op} {request : TxRequest}
    (hpost : post.tx = insertQueued db.tx now request) : Refines ⟨db, op, post⟩ :=
  .one (.enqueue db.tx.outbox.next) (hpost ▸ .enqueue rfl pristine_queuedRow) trivial

theorem RetryCall.kind {tx : TxTables} {row : OutboxRow} {op : TxOp} (hcall : RetryCall tx row op) :
    row.failureKind ≠ some .nonceConsumedExternally := by
  intro hkind
  cases hcall with
  | operator hallowed => simp [retryFailedTxRefusal, hkind] at hallowed
  | automatic hcandidate => simp [autoRetryCandidate, hkind] at hcandidate

theorem refines_retry {db : DB} {op : Op} {call : TxOp} {result : Result ℕ}
    (hresult : RetryResult db call result) : Refines ⟨db, op, result.1⟩ := by
  cases hresult with
  | refused => exact .none rfl
  | deferred row now paused hcall hfound =>
    exact .edit (mem_of_find hfound) rfl
      (.bookkeeping (by constructor <;> rfl) rfl rfl rfl (.inl rfl) rfl rfl)
  | requeued row now hcall hfound hfailed hreceipt =>
    exact .edit (mem_of_find hfound) rfl
      ⟨by constructor <;> rfl, rfl, rfl, rfl, .inl rfl, .requeue hfailed hreceipt hcall.kind rfl⟩
  | settled row now work hrow =>
    exact .edit (mem_of_find hrow.found) rfl
      ⟨by constructor <;> rfl, rfl, rfl, rfl, .inl rfl, .keep rfl (.inr hrow.call.kind)⟩
  | cloned row now work hrow =>
    have hmem := mem_of_find hrow.found
    refine .two (.enqueue db.tx.outbox.next) .edit (.enqueue rfl pristine_cloneRow)
      (.editRow (mem_append_of_mem rfl hmem) ?_) trivial trivial
    exact .bookkeeping (by constructor <;> rfl) rfl rfl rfl (.inl rfl) rfl
      rfl

/-- The methods that insert, end or return a row are made of changes. -/
theorem refines_of_txEffect {db post : DB} {op : TxOp}
    (heffect : TxEffect db op post) (hop : quietOp op = false) : Refines ⟨db, .tx op, post⟩ := by
  cases heffect with
  | unchanged => exact .none rfl
  | quiet hquiet => cases hop.symm.trans hquiet
  | enqueuedTx | enqueuedPricing | enqueuedExecutor | enqueuedDVN => exact refines_insertQueued rfl
  | reverted retryAt hrow hqueued hnonce =>
    exact .edit (mem_of_find hrow) rfl
      ⟨by constructor <;> rfl, rfl, rfl, rfl, .inl rfl, .revert hqueued hnonce rfl⟩
  | operatorRetry hresult | automaticRetry hresult => exact refines_retry hresult
  | @pinned now _ facts attempt row hreceipt hfree hopen =>
    obtain ⟨hattempt, rfl⟩ := find_eq_some.mp hreceipt.found
    obtain ⟨hrow, howner⟩ := find_eq_some.mp hreceipt.owner
    exact .one _ (.pin hrow hattempt howner.symm hfree hopen) ⟨⟨rfl, rfl⟩, now, facts, rfl⟩
  | @finalized now clock _ facts attempt row pinned hreceipt hpinned hid =>
    obtain ⟨hattempt, rfl⟩ := find_eq_some.mp hreceipt.found
    obtain ⟨hrow, howner⟩ := find_eq_some.mp hreceipt.owner
    have hsame : row.receipt = some ⟨pinned.outcome, attempt.id⟩ := hid ▸ hpinned
    exact .one _ (.finalize hrow hattempt howner.symm hsame) ⟨⟨rfl, rfl⟩, now, clock, facts, rfl⟩
  | @resolved now row hrow hheld =>
    obtain ⟨hstatus, hunpinned⟩ := of_decide_eq_true hheld
    exact .two _ _ (.consume (mem_of_find hrow) hstatus hunpinned)
      (.enqueue rfl pristine_cloneRow) ⟨now, .inl rfl⟩ trivial
  | @abandoned now row work _ hrow hheld =>
    obtain ⟨hstatus, hunpinned⟩ := of_decide_eq_true hheld
    exact .one _ (.consume (mem_of_find hrow) hstatus hunpinned) ⟨now, .inr rfl⟩

end Lazier.Ledger
