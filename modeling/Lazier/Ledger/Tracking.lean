import Lazier.Ledger.StoreRuns

/-!
# Receipt tracking

What a node may have accepted stays visible to the receipt poller until its row
has ended, and a receipt that was pinned once settles the row for good.
-/

namespace Lazier.Ledger

open Library Store SerialTable

variable {history : List (Event DB Op)} {db : DB} {tx : TxTables} {row : OutboxRow}
  {attempt : AttemptRow}

/-! ## Sent attempts -/

theorem activeAttempt_isSome (hsound : Sound tx) (hrow : row ∈ tx.outbox)
    (hpointer : row.activeAttemptID ≠ none) : (activeAttempt tx row).isSome = true := by
  obtain ⟨id, hid⟩ := Option.ne_none_iff_exists'.mp hpointer
  obtain ⟨attempt, hattempt, hsame, howner⟩ := (hsound.rows row hrow).active id hid
  have hfind : tx.attempts.find id = some attempt := find_eq_some.mpr ⟨hattempt, hsame⟩
  rw [activeAttempt, hid]
  dsimp only
  rw [hfind]
  dsimp only
  rw [if_pos howner]
  rfl

theorem polled_of_attempt (hsound : Sound tx) (hrow : row ∈ tx.outbox)
    (hlive : row.status.terminal = false) (hattempt : attempt ∈ tx.attempts)
    (howner : attempt.outboxID = row.id) : row.status.polled = true := by
  have hsoundRow := hsound.rows row hrow
  obtain ⟨hnonce, hpointer⟩ := nonce_of_attempt hsound hrow hattempt howner
  cases hstatus : row.status with
  | queued => simp [hsoundRow.queued hstatus] at hnonce
  | nonceAssigned => exact absurd (hsoundRow.assigned hstatus).1 hpointer
  | signed | broadcast | held reason => rfl
  | confirmed | failed => simp [hstatus, TxStatus.terminal] at hlive

/-- No possibly accepted transaction loses its receipt tracking: an attempt
that was ever claimed is polled until its row has ended, and no attempt changes
what was signed. -/
theorem claimed_attempts_stay_tracked (hrun : StoreRun history db) :
    (∀ event ∈ history, ∀ claim, Claims event claim →
      ∃ row ∈ db.tx.outbox, row.id = claim.outboxID ∧
        (row.status = .confirmed ∨ row.status = .failed ∨
          receiptPollable db.tx row.lane row = true ∧ ∃ attempt ∈ pollAttempts db.tx row.id,
              attempt.id = claim.attemptID ∧ attempt.txHash = claim.txHash ∧
              (attempt.state = .submitted ∨ attempt.state = .ambiguous))) ∧
    ∀ attempt ∈ db.tx.attempts, ∀ later final, Run Step db later final →
      ∃ after ∈ final.tx.attempts, after.id = attempt.id ∧
        after.outboxID = attempt.outboxID ∧ after.nonce = attempt.nonce ∧
        after.txHash = attempt.txHash ∧ after.rawTx = attempt.rawTx ∧
        after.kind = attempt.kind ∧ after.gasLimit = attempt.gasLimit ∧
        after.maxFeePerGas = attempt.maxFeePerGas ∧
        after.maxPriorityFeePerGas = attempt.maxPriorityFeePerGas := by
  have hsound := sound_storeRun hrun
  constructor
  · intro event hevent claim hclaims
    obtain ⟨attempt, hattempt, hclaimed⟩ := claimed_attempt_persists hrun hevent hclaims
    have hsoundAttempt := hsound.attempts attempt hattempt
    obtain ⟨row, hrow, hid, -, hpointer⟩ := hsoundAttempt.owner
    refine ⟨row, hrow, hid.trans hclaimed.owner, ?_⟩
    cases hended : row.status.terminal with
    | true => cases hstatus : row.status <;> simp_all [TxStatus.terminal]
    | false =>
      right
      right
      have hstate : attempt.state = .submitted ∨ attempt.state = .ambiguous := by
        rcases hsoundAttempt.sent hclaimed.count with
          hstate | hstate | hstate
        · exact .inr hstate
        · exact .inl hstate
        · have hterminal := hsoundAttempt.mined hstate row hrow hid
          rw [hended] at hterminal
          cases hterminal
      have hlisted : attempt ∈ pollAttempts db.tx row.id := by
        rw [pollAttempts, List.mem_insertionSort, List.mem_filter]
        refine ⟨hattempt, Bool.and_eq_true_iff.mpr ⟨decide_eq_true hid.symm, ?_⟩⟩
        rcases hstate with hstate | hstate <;> rw [hstate] <;> rfl
      refine ⟨?_, attempt, hlisted, hclaimed.id, hclaimed.txHash, hstate⟩
      have hpolled := polled_of_attempt hsound hrow hended hattempt hid.symm
      have hactive := activeAttempt_isSome hsound hrow hpointer
      have hsome : (pollAttempts db.tx row.id).isEmpty = false := by
        rw [List.isEmpty_eq_false_iff]
        exact List.ne_nil_of_mem hlisted
      simp [receiptPollable, hpolled, hactive, hsome]
  · intro attempt hattempt later final hlater
    obtain ⟨after, hafter, hextends⟩ := (extends_storeRun hrun hlater).attempts attempt hattempt
    exact ⟨after, hafter, hextends.id, hextends.owner, hextends.nonce,
      hextends.txHash, hextends.rawTx, hextends.kind, hextends.gasLimit,
      hextends.maxFeePerGas, hextends.maxPriorityFeePerGas⟩

theorem firstBroadcast_stays_tracked : ∃ event ∈ trace firstBroadcast, ∃ claim, Claims event claim ∧
      ∃ row ∈ (replay firstBroadcast).tx.outbox, row.id = claim.outboxID := by
  have hclaims : Claims ⟨replay firstBroadcast.tail,
      .tx (.claimAttemptForBroadcast 1 ⟨1, "keeper"⟩ 10 second []), replay firstBroadcast⟩
      ⟨1, 1, .pricingSetPriceSnapshot, 7, .ofNat 32 7, [1], .original⟩ :=
    ⟨1, ⟨1, "keeper"⟩, 10, second, [], rfl, by decide⟩
  have hevent : _ ∈ trace firstBroadcast := List.mem_cons_self
  obtain ⟨row, hrow, hid, -⟩ := (claimed_attempts_stay_tracked
    (storeRun_trace firstBroadcast)).1 _ hevent _ hclaims
  exact ⟨_, hevent, _, hclaims, row, hrow, hid⟩

/-! ## Pinned receipts -/

/-- Once a receipt is pinned on a row, every attempt of the row is an old one:
an insert needs a row whose receipt is open. -/
theorem attempt_before_pin {start final : TxTables} {actions : List (Event TxTables Action)}
    (hsound : Sound start) (hrun : Run Change start actions final) (hrow : row ∈ start.outbox)
    (hpinned : row.receipt ≠ none) (hattempt : attempt ∈ final.attempts)
    (howner : attempt.outboxID = row.id) : ∃ before ∈ start.attempts, before.id = attempt.id := by
  induction hrun generalizing attempt with
  | start => exact ⟨attempt, hattempt, rfl⟩
  | extend before last ih =>
    cases attempt_origin last hattempt with
    | kept old hold id owner kind count =>
      obtain ⟨origin, horigin, hid⟩ := ih hold (owner.trans howner)
      exact ⟨origin, horigin, hid.trans id⟩
    | inserted use token haction unsent =>
      have hsound' := before.invariant Sound (fun _ _ _ => sound_change) hsound
      obtain ⟨held, hheld, hextends⟩ := (extends_run hsound before).rows row hrow
      subst haction
      cases last with
      | @insert old new _ _ _ hold hid guarded =>
        have heq : old = held := by
          apply eq_of_key_eq hold hheld
          rw [hextends.id, ← howner, guarded.owner]
        have hopen : old.receipt = none := by
          rcases guarded.exclusive with ⟨-, hstatus⟩ | ⟨hopen, -⟩
          · exact ((hsound'.rows old hold).assigned hstatus).2
          · exact hopen
        rw [heq, hextends.receipt hpinned] at hopen
        exact absurd hopen hpinned

theorem requestTxCancel_of_pinned (hrow : row ∈ db.tx.outbox) (hpinned : row.receipt ≠ none)
    (now : Time) : ∃ error, requestTxCancel db now row.id = rollback db error := by
  have hfind := find_of_mem hrow
  unfold requestTxCancel
  split
  · exact ⟨_, rfl⟩
  · rw [hfind]
    dsimp only
    rw [if_neg (fun hguard => hpinned hguard.2.2)]
    exact ⟨_, rfl⟩

theorem heldExternally_of_pinned (hpinned : row.receipt ≠ none) : heldExternally row = false := by
  simp [heldExternally, hpinned]

theorem resolveExternalNonceRetry_of_pinned (hrow : row ∈ db.tx.outbox)
    (hpinned : row.receipt ≠ none) (now : Time) :
    ∃ error, resolveExternalNonceRetry db now row.id = rollback db error := by
  have hfind := find_of_mem hrow
  have hfree := heldExternally_of_pinned hpinned
  unfold resolveExternalNonceRetry
  split
  · exact ⟨_, rfl⟩
  · rw [hfind]
    dsimp only
    split
    · exact ⟨_, rfl⟩
    · split
      · exact ⟨_, rfl⟩
      · split
        · exact ⟨_, rfl⟩
        · rw [if_neg (by simp [hfree])]
          exact ⟨_, rfl⟩

theorem resolveExternalNonceAbandon_of_pinned (hrow : row ∈ db.tx.outbox)
    (hpinned : row.receipt ≠ none) (now : Time) :
    ∃ error, resolveExternalNonceAbandon db now row.id = rollback db error := by
  have hfind := find_of_mem hrow
  have hfree := heldExternally_of_pinned hpinned
  unfold resolveExternalNonceAbandon
  split
  · exact ⟨_, rfl⟩
  · rw [hfind]
    dsimp only
    rw [if_pos (by simp [hfree])]
    exact ⟨_, rfl⟩

/-- The terminal columns that each pinned outcome calls for. -/
def Settled (outcome : ReceiptOutcome) (row : OutboxRow) : Prop :=
  match outcome with
  | .confirmed => row.status = .confirmed
  | .receiptFailed =>
    row.status = .failed ∧ row.failureKind = some .receiptFailed
  | .canceled => row.status = .failed ∧ row.failureKind = some .canceled

/-- A pinned receipt resolution is final: the pair stays, no attempt is added
or claimed, the operator's ways out are refused, and only the finalizer of the
pinned attempt moves the row, to the columns of the pinned outcome. -/
theorem pinned_resolution_is_final (hrun : StoreRun history db)
    {row : OutboxRow} (hrow : row ∈ db.tx.outbox) {resolution : Resolution}
    (hpinned : row.receipt = some resolution) :
    (∀ later final, Run Step db later final →
      (∃ after ∈ final.tx.outbox, after.id = row.id ∧ after.receipt = some resolution) ∧
      (∀ attempt ∈ final.tx.attempts, attempt.outboxID = row.id →
        ∃ before ∈ db.tx.attempts, before.id = attempt.id) ∧
      ∀ event ∈ later, ∀ claim, Claims event claim → claim.outboxID ≠ row.id) ∧
    (∀ now, (∃ error, requestTxCancel db now row.id = rollback db error) ∧
      (∃ error, resolveExternalNonceRetry db now row.id = rollback db error) ∧
      ∃ error, resolveExternalNonceAbandon db now row.id = rollback db error) ∧
    (∀ now clock facts outcome, (finalizeAttemptReceipt db now clock resolution.attemptId facts).2 =
          .ok outcome → outcome = resolution.outcome ∧
          ∃ after ∈ (finalizeAttemptReceipt db now clock resolution.attemptId
            facts).1.tx.outbox, after.id = row.id ∧ Settled outcome after) ∧
    ∀ now clock facts attemptID, attemptID ≠ resolution.attemptId →
      (∀ attempt ∈ db.tx.attempts, attempt.id = attemptID → attempt.outboxID = row.id) →
      (finalizeAttemptReceipt db now clock attemptID facts).1 = db := by
  have hsound := sound_storeRun hrun
  have hclosed : row.receipt ≠ none := by
    rw [hpinned]
    exact Option.some_ne_none _
  have hstays : ∀ later final, Run Step db later final →
      ∃ after ∈ final.tx.outbox, after.id = row.id ∧ after.receipt = some resolution := by
    intro later final hlater
    obtain ⟨after, hafter, hextends⟩ := (extends_storeRun hrun hlater).rows row hrow
    exact ⟨after, hafter, hextends.id, (hextends.receipt hclosed).trans hpinned⟩
  refine ⟨?_, ?_, ?_, ?_⟩
  · intro later final hlater
    refine ⟨hstays later final hlater, ?_, ?_⟩
    · intro attempt hattempt howner
      obtain ⟨actions, hledger, -⟩ := run_refines hlater
      exact attempt_before_pin hsound hledger hrow hclosed hattempt howner
    · intro event hevent claim hclaims hid
      obtain ⟨hstep, earlier, hearlier⟩ := hlater.event_reached hevent
      obtain ⟨found, hfound, -, -, hfoundID, -, -, hopen, -⟩ := claims_step hstep hclaims
      obtain ⟨after, hafter, hafterID, hafterPinned⟩ := hstays _ _ (hearlier.extend hstep)
      have heq : found = after := eq_of_key_eq hfound hafter
          (hfoundID.trans (hid.trans hafterID.symm))
      rw [heq, hafterPinned] at hopen
      cases hopen
  · intro now
    exact ⟨requestTxCancel_of_pinned hrow hclosed now,
      resolveExternalNonceRetry_of_pinned hrow hclosed now,
      resolveExternalNonceAbandon_of_pinned hrow hclosed now⟩
  · intro now clock facts outcome hresult
    have houtcome := finalizeAttemptReceipt_outcome db now clock resolution.attemptId facts
    generalize finalizeAttemptReceipt db now clock resolution.attemptId
      facts = result at houtcome hresult ⊢
    cases houtcome with
    | refused error => cases hresult
    | @finalized attempt found pinned hreceipt hfinal _ =>
      obtain ⟨hattempt, hid⟩ := find_eq_some.mp hreceipt.found
      obtain ⟨hfound, howner⟩ := find_eq_some.mp hreceipt.owner
      cases hresult
      -- The pinned attempt belongs to this row and to no other.
      obtain ⟨own, hown, hownID, hownOwner⟩ := (hsound.rows row hrow).pinned resolution hpinned
      have hsame : attempt = own := eq_of_key_eq hattempt hown (hid.trans hownID.symm)
      have heq : found = row := eq_of_key_eq hfound hrow
          (howner.trans (hsame ▸ hownOwner))
      rw [heq, hpinned] at hfinal
      have houtcome := congrArg Resolution.outcome (Option.some.inj hfinal)
      refine ⟨houtcome.symm, _, mem_set_self hfound rfl, heq ▸ rfl, ?_⟩
      cases pinned.outcome <;> simp [Settled, OutboxRow.finalize, finalStatus, finalFailureKind]
  · intro now clock facts attemptID hother howned
    have houtcome := finalizeAttemptReceipt_outcome db now clock attemptID facts
    generalize finalizeAttemptReceipt db now clock attemptID facts = result at houtcome ⊢
    cases houtcome with
    | refused error => rfl
    | @finalized attempt found pinned hreceipt hfinal hpinID =>
      obtain ⟨hattempt, hid⟩ := find_eq_some.mp hreceipt.found
      obtain ⟨hfound, howner⟩ := find_eq_some.mp hreceipt.owner
      have heq : found = row := eq_of_key_eq hfound hrow
          (howner.trans (howned attempt hattempt hid))
      rw [heq, hpinned, Option.some.injEq] at hfinal
      exact absurd (hfinal ▸ hpinID).symm hother

theorem firstReceipt_is_final : ∃ row ∈ (replay firstReceipt).tx.outbox,
      row.receipt = some ⟨.confirmed, 1⟩ ∧
        ∀ now, ∃ error, requestTxCancel (replay firstReceipt) now row.id =
          rollback (replay firstReceipt) error := by
  have hpinned : ∃ row ∈ (replay firstReceipt).tx.outbox.rows,
      row.receipt = some ⟨.confirmed, 1⟩ := by decide
  obtain ⟨row, hrow, hpinned⟩ := hpinned
  have hfinal := pinned_resolution_is_final (storeRun_trace firstReceipt) hrow hpinned
  exact ⟨row, hrow, hpinned, fun now => (hfinal.2.1 now).1⟩

end Lazier.Ledger
