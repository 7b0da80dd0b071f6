import Lazier.Ledger.Nonces
import Lazier.Readiness.Evaluate
import Lazier.Signer.Leases

/-!
# Reports about stuck signer rows

A row that no loop will pick again blocks its signer until an operator looks at
it.  The report shows such a row through the statistics that count it: the held
lanes, the pending cancels, the orphaned rows and the pending prices.
-/

namespace Lazier.Readiness

open Library Store Ledger Manager Signer List

/-! ## Selectors -/

/-- One of the automatic loops picks the row at this time. -/
inductive Picked (db : DB) (now : Time) (id : ℕ) : Prop
  | sendable {lane : Lane} {peeked : OutboxTx}
      (hpeek : peekSendableTx db now lane = .ok (some peeked)) (hid : peeked.row.id = id)
  | broadcast {lane : Lane} {token : UUID} {leaseTTL : Duration}
      {locked : List ℕ} {claim : BroadcastClaim}
      (hclaim : (claimAttemptForBroadcast db now lane token leaseTTL locked).2 =
        .ok claim) (hid : claim.outboxID = id)
  | parked {lane : Lane} {row : OutboxRow} (hrow : row ∈ db.tx.outbox)
      (hid : row.id = id) (hpark : broadcastExhausted db.tx now lane row = true)
  | replacement {lane : Lane} {staleAfter : Duration} {row : OutboxRow} {attempt : AttemptRow}
      (hnext : nextReplacementCandidate db now lane staleAfter =
        .ok (some (row, attempt))) (hid : row.id = id)
  | cancel {lane : Lane} {peeked : OutboxTx}
      (hnext : nextCancelCandidate db now lane = .ok (some peeked)) (hid : peeked.row.id = id)
  | reconcile {lane : Lane} {token : UUID} {leaseTTL : Duration}
      {holds : List NonceReconcileHold} {hold : NonceReconcileHold}
      (hread : selectReconcileHolds db lane = .ok holds)
      (hclaim : (claimNonceReconciliation db now lane token leaseTTL holds).2 =
        .ok holds) (hhold : hold ∈ holds) (hid : hold.id = id)

/-- A move that needs neither a receipt nor an operator. -/
def automatic : Move → Bool
  | .call (.work (.syncConfig ..)) => false
  | .call (.tx (.refreshBroadcastReceiptObservedAt ..)) => false
  | .call (.tx (.prepareReceiptResolution ..)) => false
  | .call (.tx (.finalizeAttemptReceipt ..)) => false
  | .call (.tx (.markTxReceiptCostPriced ..)) => false
  | .call (.tx (.retryFailedTx ..)) => false
  | .call (.tx (.requestTxReplacement ..)) => false
  | .call (.tx (.requestTxCancel ..)) => false
  | .call (.tx (.resolveExternalNonceRetry ..)) => false
  | .call (.tx (.resolveExternalNonceAbandon ..)) => false
  | _ => true

def AutoStep (pre : Fleet) (move : Move) (post : Fleet) : Prop :=
  OfferedStep pre move post ∧ automatic move = true

/-- However the fleet goes on by itself, no loop picks the row from the given
time on. -/
def Stuck (fleet : Fleet) (since : Time) (id : ℕ) : Prop :=
  ∀ history later, Run AutoStep fleet history later → ∀ now, since ≤ now → ¬ Picked later.db now id

/-! ## Causes -/

/-- The issue is raised for a statistic that counts the row. -/
inductive Caused (columns : StatColumns) (db : DB) (now : Time)
    (row : OutboxRow) (issue : Issue) : Prop
  | failed {group : (ℕ × TxStatus × TxOutboxRetryState) × List OutboxRow}
      (hgroup : group ∈ outboxGroups db) (hrow : row ∈ group.2)
      (hissue : issue ∈ outboxIssues (activeChains (stats columns db now)) (outboxStat group))
  | held {group : (ℕ × String × HeldStatReason) × List HeldRow} {held : HeldRow}
      (hgroup : group ∈ heldGroups db.tx) (hheld : held ∈ group.2) (hrow : held.row = row)
      (hissue : issue ∈ heldIssues (activeChains (stats columns db now))
        (heldStat columns db.tx now group))
  | canceled {group : (ℕ × String) × List OutboxRow}
      (hgroup : group ∈ cancelGroups db.tx) (hrow : row ∈ group.2)
      (hissue : issue ∈ heldIssues (activeChains (stats columns db now)) (cancelStat now group))
  | orphaned {group : (ℕ × String × TxStatus) × List OutboxRow}
      (hgroup : group ∈ orphanedGroups db) (hrow : row ∈ group.2)
      (hissue : issue ∈ orphanedIssues (activeChains (stats columns db now))
        (orphanedStat now group))
  | pricing {group : ℕ × List OutboxRow} (hgroup : group ∈ pricingGroups db) (hrow : row ∈ group.2)
      (hissue : issue ∈ pricingIssues (activeChains (stats columns db now))
        (pricingStat columns now group))

variable {columns : StatColumns} {db : DB} {now : Time} {row : OutboxRow} {issue : Issue}

theorem Caused.mem_issues (hcaused : Caused columns db now row issue) (services : Services) :
    issue ∈ (evaluateWithServices (stats columns db now) services).issues := by
  let snapshot := stats columns db now
  simp only [evaluateWithServices, mem_append, mem_flatMap]
  cases hcaused with
  | failed hgroup hrow hissue =>
    have hcounted : ∃ stat ∈ snapshot.txOutbox, issue ∈ outboxIssues (activeChains snapshot) stat :=
      ⟨_, mem_map_of_mem hgroup, hissue⟩
    simp only [snapshot, hcounted, true_or, or_true]
  | held hgroup hheld hrow hissue =>
    have hcounted : ∃ stat ∈ snapshot.txOutboxHeld,
        issue ∈ heldIssues (activeChains snapshot) stat :=
      ⟨_, mem_append_left _ (mem_map_of_mem hgroup), hissue⟩
    simp only [snapshot, hcounted, true_or, or_true]
  | canceled hgroup hrow hissue =>
    have hcounted : ∃ stat ∈ snapshot.txOutboxHeld,
        issue ∈ heldIssues (activeChains snapshot) stat :=
      ⟨_, mem_append_right _ (mem_map_of_mem hgroup), hissue⟩
    simp only [snapshot, hcounted, true_or, or_true]
  | orphaned hgroup hrow hissue =>
    have hcounted : ∃ stat ∈ snapshot.txOutboxOrphaned,
        issue ∈ orphanedIssues (activeChains snapshot) stat := ⟨_, mem_map_of_mem hgroup, hissue⟩
    simp only [snapshot, hcounted, true_or, or_true]
  | pricing hgroup hrow hissue =>
    have hcounted : ∃ stat ∈ snapshot.pricingPending,
        issue ∈ pricingIssues (activeChains snapshot) stat := ⟨_, mem_map_of_mem hgroup, hissue⟩
    simp only [snapshot, hcounted, true_or, or_true]

/-! ## Late statistics -/

/-- The oldest age of a group exceeds a limit once one member is older. -/
theorem lt_ageSeconds {Row : Type} {value : Row → Time} {rows : List Row} {row : Row}
    (hrow : row ∈ rows) {limit : ℕ} (hlate : value row + (limit + 1) * second ≤ now) :
    limit < ageSeconds now (rows.map value).min? := by
  obtain ⟨least, hleast, hle⟩ := exists_min_le hrow
  have hage : ((limit : ℤ) + 1) ≤ (now - least) / second :=
    (Int.le_ediv_iff_mul_le (by decide)).mpr (by linarith)
  rw [hleast, ageSeconds]
  omega

theorem mem_activeChains {eid : ℕ} (henabled : chainEnabled db eid = true) :
    eid ∈ activeChains (stats columns db now) := by
  obtain ⟨chain, hchain, henabled⟩ := any_eq_true.mp henabled
  obtain ⟨heid, henabled⟩ := (Bool.and_eq_true _ _).mp henabled
  refine mem_map.mpr ⟨⟨chain.eid, columns.chainName chain.eid, chain.enabled,
    chain.paused⟩, ?_, of_decide_eq_true heid⟩
  exact mem_filter.mpr ⟨mem_map_of_mem hchain, henabled⟩

theorem exists_heldIssue {active : List ℕ} {held : TxOutboxHeldStat} (hcount : held.count ≠ 0)
    (hchain : held.chainEID ∈ active) (hreason : held.heldReason ≠ .hold .nonceReconcileRequired)
    (hold : cancelHeldStallSeconds < held.oldestAgeSeconds) :
    ∃ issue, issue ∈ heldIssues active held := by
  unfold heldIssues
  rw [if_pos ⟨hcount, hchain⟩]
  split
  · exact ⟨_, mem_singleton_self _⟩
  · exact ⟨_, mem_singleton_self _⟩
  · exact ⟨_, mem_singleton_self _⟩
  · exact ⟨_, mem_singleton_self _⟩
  · rw [if_pos hold]
    exact ⟨_, mem_singleton_self _⟩
  · have hstalled : repriceHeldStallSeconds < held.oldestAgeSeconds := hold
    rw [if_pos hstalled]
    exact ⟨_, mem_singleton_self _⟩
  · rename_i heq
    exact absurd heq hreason

section Late

variable (columns) (hrow : row ∈ db.tx.outbox) (henabled : chainEnabled db row.chainEID = true)

include hrow henabled

theorem caused_of_held {reason : HeldReason} (hstatus : row.status = .held reason)
    (hreason : reason ≠ .nonceReconcileRequired) :
    ∃ bound, ∀ now, bound ≤ now → ∃ issue, Caused columns db now row issue := by
  have hheld : (⟨row, reason⟩ : HeldRow) ∈ db.tx.outbox.rows.filterMap heldRow :=
    mem_filterMap.mpr ⟨row, hrow, by rw [heldRow, hstatus]⟩
  obtain ⟨group, hgroup, hkey, hmember⟩ := exists_group (heldKey db.tx) hheld
  refine ⟨heldSince columns db.tx ⟨row, reason⟩ +
    (cancelHeldStallSeconds + 1) * second, fun now hlate => ?_⟩
  obtain ⟨issue, hissue⟩ : ∃ issue, issue ∈ heldIssues (activeChains (stats columns db now))
      (heldStat columns db.tx now group) := by
    refine exists_heldIssue (length_pos_of_mem hmember).ne' ?_ ?_ (lt_ageSeconds hmember hlate)
    · rw [heldStat, hkey]
      exact mem_activeChains henabled
    · rw [heldStat, hkey, heldKey, heldStatReason]
      dsimp only
      split
      · simp
      · simpa using hreason
  exact ⟨issue, .held hgroup hmember rfl hissue⟩

theorem caused_of_cancel (hlive : row.status.terminal = false)
    (hcancel : row.cancelRequestedAt ≠ none) :
    ∃ bound, ∀ now, bound ≤ now → ∃ issue, Caused columns db now row issue := by
  have hpending : row ∈ db.tx.outbox.rows.filter fun row =>
      row.cancelRequestedAt.isSome && !row.status.terminal := by
    refine mem_filter.mpr ⟨hrow, ?_⟩
    rw [Option.isSome_iff_ne_none.mpr hcancel, hlive]
    rfl
  obtain ⟨group, hgroup, hkey, hmember⟩ :=
    exists_group (fun row => (row.chainEID, row.signerID)) hpending
  refine ⟨row.cancelRequestedAt.getD 0 + (cancelHeldStallSeconds + 1) * second, fun now hlate => ?_⟩
  obtain ⟨issue, hissue⟩ : ∃ issue, issue ∈ heldIssues (activeChains (stats columns db now))
      (cancelStat now group) := by
    refine exists_heldIssue (length_pos_of_mem hmember).ne' ?_ ?_ (lt_ageSeconds hmember hlate)
    · rw [cancelStat, hkey]
      exact mem_activeChains henabled
    · simp [cancelStat]
  exact ⟨issue, .canceled hgroup hmember hissue⟩

theorem caused_of_pricing (hlive : row.status.terminal = false)
    (hpricing : row.purpose = .pricingSetPriceSnapshot) :
    ∃ bound, ∀ now, bound ≤ now → ∃ issue, Caused columns db now row issue := by
  have hopen : row.status.cancelable = true := by
    cases hstatus : row.status with
    | confirmed | failed =>
      rw [hstatus] at hlive
      cases hlive
    | _ => rfl
  have hpending : row ∈ db.tx.outbox.rows.filter fun row =>
      decide (row.purpose = .pricingSetPriceSnapshot) &&
        (row.status.cancelable || retryableLegacyPricing row) && chainEnabled db row.chainEID := by
    refine mem_filter.mpr ⟨hrow, ?_⟩
    simp [hpricing, hopen, henabled]
  obtain ⟨group, hgroup, hkey, hmember⟩ := exists_group OutboxRow.chainEID hpending
  refine ⟨columns.rowCreatedAt row.id +
    (pricingPendingStallSeconds + 1) * second, fun now hlate => ?_⟩
  have hguard : (pricingStat columns now group).count ≠ 0 ∧
      (pricingStat columns now group).chainEID ∈ activeChains (stats columns db now) ∧
      (pricingStat columns now group).oldestAgeSeconds >
        pricingPendingStallSeconds := by
    refine ⟨(length_pos_of_mem hmember).ne', ?_, lt_ageSeconds hmember hlate⟩
    rw [pricingStat, hkey]
    exact mem_activeChains henabled
  obtain ⟨issue, hissue⟩ : ∃ issue, issue ∈ pricingIssues
      (activeChains (stats columns db now)) (pricingStat columns now group) := by
    rw [pricingIssues, if_pos hguard]
    exact ⟨_, mem_singleton_self _⟩
  exact ⟨issue, .pricing hgroup hmember hissue⟩

end Late

/-- Nothing counts a row that is neither held, canceled nor a price. -/
theorem not_caused (hsound : Sound db.tx) (hrow : row ∈ db.tx.outbox)
    (hlive : row.status.terminal = false) (hheld : ∀ reason, row.status ≠ .held reason)
    (hcancel : row.cancelRequestedAt = none) (hpurpose : row.purpose ≠ .pricingSetPriceSnapshot) :
    ¬ Caused columns db now row issue := by
  intro hcaused
  cases hcaused with
  | failed hgroup hmember hissue =>
    obtain ⟨-, hkey⟩ := mem_of_group hgroup hmember
    unfold outboxIssues at hissue
    split at hissue
    · rename_i hguard
      have hfailed : row.status = .failed := by
        rw [← hguard.1, outboxStat, ← hkey]
      rw [hfailed] at hlive
      cases hlive
    · cases hissue
  | @held group member hgroup hmember hsame hissue =>
    obtain ⟨counted, -, hcounted⟩ := mem_filterMap.mp (mem_of_group hgroup hmember).1
    unfold heldRow at hcounted
    split at hcounted
    · rename_i reason hstatus
      cases hcounted
      exact hheld reason (hsame ▸ hstatus)
    · cases hcounted
  | canceled hgroup hmember hissue =>
    have hpending := (mem_filter.mp (mem_of_group hgroup hmember).1).2
    rw [hcancel] at hpending
    cases hpending
  | orphaned hgroup hmember hissue =>
    have hcounted := (mem_filter.mp (mem_of_group hgroup hmember).1).2
    obtain ⟨hstatus, hinactive⟩ := of_decide_eq_true ((Bool.and_eq_true _ _).mp hcounted).1
    have hrowSound := hsound.rows row hrow
    rcases hstatus with hsigned | hbroadcast
    · exact hrowSound.signed hsigned hinactive
    · obtain ⟨attempt, hattempt, howner, -⟩ := hrowSound.sent (.inl hbroadcast)
      obtain ⟨owner, hownerMem, hownerID, -, hactive⟩ := (hsound.attempts attempt hattempt).owner
      have hsame : owner = row := SerialTable.eq_of_key_eq hownerMem hrow (hownerID.trans howner)
      exact hactive (hsame ▸ hinactive)
  | pricing hgroup hmember hissue =>
    have hcounted := (mem_filter.mp (mem_of_group hgroup hmember).1).2
    rw [Bool.and_eq_true, Bool.and_eq_true] at hcounted
    exact hpurpose (of_decide_eq_true hcounted.1.1)

/-! ## Reconciled holds -/

theorem late_leaseFree (lease : Option Lease) :
    ∃ bound, ∀ now, bound ≤ now → leaseFree lease now = true := by
  cases lease with
  | none => exact ⟨0, fun _ _ => rfl⟩
  | some held => exact ⟨held.expires, fun _ hlate => decide_eq_true hlate⟩

theorem late_due (deadline : Option Time) :
    ∃ bound, ∀ now, bound ≤ now → due deadline now = true := by
  cases deadline with
  | none => exact ⟨0, fun _ _ => rfl⟩
  | some time => exact ⟨time, fun _ hlate => decide_eq_true hlate⟩

/-- The reconciliation loop comes back to its holds. -/
theorem picked_of_reconcileHold {history : List (Event DB Op)} (hrun : StoreRun history db)
    (hrow : row ∈ db.tx.outbox) (hstatus : row.status = .held .nonceReconcileRequired)
    (hunpinned : row.receipt = none) (hnonce : row.nonce ≠ none) :
    ∃ bound, ∀ now, bound ≤ now → Picked db now row.id := by
  have hsound := sound_storeRun hrun
  obtain ⟨nonce, hnonce⟩ := Option.ne_none_iff_exists'.mp hnonce
  obtain ⟨cursor, hcursor, hlane, -⟩ := hsound.bound row hrow nonce hnonce
  obtain ⟨hchain, hsigner⟩ := cursor_named hrun hcursor
  obtain ⟨freed, hfreed⟩ := late_leaseFree cursor.reconcileLease
  obtain ⟨elapsed, helapsed⟩ := late_due cursor.nextReconcileAt
  refine ⟨max freed elapsed, fun now hlate => ?_⟩
  have hhold : row ∈ reconcileHolds db.tx row.lane :=
    mem_reconcileHolds.mpr ⟨hrow, rfl, hstatus, hunpinned⟩
  have hall : ((reconcileHolds db.tx row.lane).any fun held =>
      held.nonce.isNone) = false := by
    rw [any_eq_false]
    intro held hheld
    obtain ⟨hmem, -, hheldStatus, -⟩ := mem_reconcileHolds.mp hheld
    rw [Option.isNone_iff_eq_none]
    intro hbare
    rcases ((hsound.rows held hmem).bare hbare).1 with hqueued | hfailed
    · rw [hheldStatus] at hqueued
      cases hqueued
    · rw [hheldStatus] at hfailed
      cases hfailed
  have hguard : ¬ (row.lane.chainEID = 0 ∨ row.lane.signerID = "" ∨ (1 : Duration) ≤ 0) := by
    rw [← hlane]
    rintro (hzero | hempty | hnonpos)
    · exact hchain hzero
    · exact hsigner hempty
    · cases hnonpos
  have hfound : db.tx.cursors.find row.lane = some cursor := Table.find_eq_some.mpr ⟨hcursor, hlane⟩
  have hread : selectReconcileHolds db row.lane = .ok _ := if_neg (ne_true_of_eq_false hall)
  refine @Picked.reconcile db now row.id row.lane 0 1 _ _ hread ?_
    (mem_map.mpr ⟨row, hhold, rfl⟩) rfl
  rw [claimNonceReconciliation, if_neg hguard, if_neg (by simp [ne_nil_of_mem hhold]), hfound]
  dsimp only
  rw [if_pos ⟨hfreed now (le_of_max_le_left hlate), helapsed now (le_of_max_le_right hlate)⟩]
  rfl

/-- The report has an issue caused by the row. -/
def Reported (columns : StatColumns) (services : Services) (db : DB)
    (now : Time) (row : OutboxRow) : Prop :=
  ∃ issue ∈ (evaluateWithServices (stats columns db now) services).issues,
    Caused columns db now row issue

/-- The holds, intents and prices that readiness counts. -/
def Watched (row : OutboxRow) : Prop :=
  (∃ reason, row.status = .held reason) ∨ row.cancelRequestedAt ≠ none ∨
    row.purpose = .pricingSetPriceSnapshot

theorem not_reported {services : Services} (hsound : Sound db.tx) (hrow : row ∈ db.tx.outbox)
    (hlive : row.status.terminal = false) (hunwatched : ¬ Watched row) :
    ¬ Reported columns services db now row := by
  unfold Watched at hunwatched
  push Not at hunwatched
  obtain ⟨hheld, hcancel, hpurpose⟩ := hunwatched
  rintro ⟨issue, -, hcaused⟩
  exact not_caused hsound hrow hlive hheld hcancel hpurpose hcaused

end Lazier.Readiness
