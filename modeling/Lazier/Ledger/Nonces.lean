import Lazier.Ledger.StoreRuns

/-!
# Nonce accounting

The guarantees of the nonce cursor over whole runs of the store: every nonce of
a signer lane is below its cursor, belongs to one row for good, is never left
as a gap, and is sent in order.
-/

namespace Lazier.Ledger

open Library Store Option Table

variable {history : List (Event DB Op)} {db : DB} {event : Event DB Op}
  {action : Event TxTables Action} {lane : Lane} {nonce : ℕ} {row : OutboxRow}

/-! ## Cursors -/

/-- The call created the lane's cursor at `value`. -/
def Bootstraps (event : Event DB Op) (lane : Lane) (value : ℕ) : Prop :=
  (∃ rpcPendingNonce, event.label = .tx (.bootstrapTxNonceCursor lane rpcPendingNonce)) ∧
    event.pre.tx.cursors.find lane = none ∧
    ∃ cursor, event.post.tx.cursors.find lane = some cursor ∧ cursor.nextNonce = value

/-- The call of `ApplyNonceReconciliation` moved the lane's cursor over the
nonce. -/
def JumpsOver (event : Event DB Op) (lane : Lane) (nonce : ℕ) : Prop :=
  ∃ now token confirmedNonce confirmedBlock backoff observed decisions,
    event.label = .tx (.applyNonceReconciliation now lane token confirmedNonce
      confirmedBlock backoff observed decisions) ∧ nonce < confirmedNonce ∧
    (∃ old ∈ event.pre.tx.cursors, old.lane = lane ∧ old.nextNonce ≤ nonce) ∧
    ∃ new ∈ event.post.tx.cursors, new.lane = lane ∧ new.nextNonce = confirmedNonce

theorem jumpsOver_of_jumped (hchange : Change action.pre action.label action.post)
    (hstems : Stems event action) (hjumped : Jumped action lane nonce) :
    JumpsOver event lane nonce := by
  obtain ⟨old, hold, hlane, hlow, confirmed, hhigh, hlabel⟩ := hjumped
  rw [Stems, hlabel] at hstems
  obtain ⟨hpre, hpost, now, token, block, backoff, observed, decisions, hcall⟩ := hstems
  have hnew : ∃ new ∈ action.post.cursors, new.lane = lane ∧ new.nextNonce = confirmed := by
    rw [hlabel] at hchange
    generalize action.post = post at hchange
    cases hchange with
    | forward new hmem hsame ahead => exact ⟨new, mem_set_self hmem hsame, hsame, rfl⟩
  exact ⟨now, token, confirmed, block, backoff, observed, decisions, hcall,
    hhigh, ⟨old, hpre ▸ hold, hlane, hlow⟩, hpost ▸ hnew⟩

theorem bootstraps_of_stems {value : ℕ} (hchange : Change action.pre action.label action.post)
    (hstems : Stems event action) (hlabel : action.label = .bootstrap lane value) :
    Bootstraps event lane value := by
  rw [Stems, hlabel] at hstems
  obtain ⟨⟨hpre, hpost⟩, hcall⟩ := hstems
  rw [Bootstraps, hpre, hpost]
  rw [hlabel] at hchange
  generalize action.post = post at hchange
  cases hchange with
  | bootstrap absent above =>
    have hmem : (⟨lane, value, none, none⟩ : NonceCursor) ∈
        action.pre.cursors.insertNew ⟨lane, value, none, none⟩ :=
      (mem_insertNew absent).mpr (.inr rfl)
    exact ⟨hcall, absent, _, find_eq_some.mpr ⟨hmem, rfl⟩, rfl⟩

theorem cursor_persists {start : DB} {earlier : List (Event DB Op)}
    (hstart : StoreRun earlier start) {later : List (Event DB Op)}
    (hlater : Run Step start later db) (hfound : start.tx.cursors.find lane ≠ none) :
    db.tx.cursors.find lane ≠ none := by
  obtain ⟨cursor, hcursor⟩ := ne_none_iff_exists'.mp hfound
  obtain ⟨hmem, rfl⟩ := find_eq_some.mp hcursor
  obtain ⟨after, hafter, hlane, -⟩ := (extends_storeRun hstart hlater).cursors cursor hmem
  intro hnone
  exact find_eq_none.mp hnone after hafter hlane

theorem bootstraps_unique (hrun : StoreRun history db) {left right : Event DB Op}
    (hleft : left ∈ history) (hright : right ∈ history) {first second : ℕ}
    (hfirst : Bootstraps left lane first) (hsecond : Bootstraps right lane second) :
    first = second := by
  obtain ⟨-, hleftAbsent, cursor, hcursor, rfl⟩ := hfirst
  obtain ⟨-, hrightAbsent, cursor', hcursor', rfl⟩ := hsecond
  obtain ⟨-, ⟨_, hleftPost⟩, -⟩ := event_states hrun hleft
  obtain ⟨-, ⟨_, hrightPost⟩, -⟩ := event_states hrun hright
  rcases hrun.event_order hleft hright with
    rfl | ⟨between, hbetween⟩ | ⟨between, hbetween⟩
  · rw [hcursor] at hcursor'
    cases hcursor'
    rfl
  · refine absurd hrightAbsent (cursor_persists hleftPost hbetween ?_)
    rw [hcursor]
    exact some_ne_none _
  · refine absurd hleftAbsent (cursor_persists hrightPost hbetween ?_)
    rw [hcursor']
    exact some_ne_none _

theorem cursor_named (hrun : StoreRun history db) {cursor : NonceCursor}
    (hcursor : cursor ∈ db.tx.cursors) : cursor.lane.chainEID ≠ 0 ∧ cursor.lane.signerID ≠ "" := by
  obtain ⟨actions, hledger, hstems⟩ := ledgerRun_of_storeRun hrun
  obtain ⟨value, ⟨action, haction, hlabel⟩, -⟩ := cursor_covered hledger hcursor
  obtain ⟨event, hevent, hstem⟩ := hstems action haction
  obtain ⟨⟨rpcPendingNonce, hcall⟩, habsent, created, hcreated, -⟩ :=
    bootstraps_of_stems (hledger.event_reached haction).1 hstem hlabel
  have hpost : event.post = event.label.apply event.pre := (hrun.event_reached hevent).1
  rw [hpost, hcall] at hcreated
  -- A call without them changes nothing, so it creates no cursor.
  refine ⟨fun hchain => ?_, fun hsigner => ?_⟩
  · simp [Op.apply, TxOp.apply, bootstrapTxNonceCursor, hchain, rollback, habsent] at hcreated
  · simp only [Op.apply, TxOp.apply, bootstrapTxNonceCursor, hsigner] at hcreated
    split at hcreated <;> simp [rollback, habsent] at hcreated

/-- The nonces below a cursor: bounded by it, owned by one row each, kept for
good, and without a gap that no reconciliation jumped. -/
theorem cursor_accounts_for_nonces (hrun : StoreRun history db)
    {cursor : NonceCursor} (hcursor : cursor ∈ db.tx.cursors) :
    (∀ row ∈ db.tx.outbox, row.lane = cursor.lane →
      ∀ nonce, row.nonce = some nonce → nonce < cursor.nextNonce) ∧
    (∀ left ∈ db.tx.outbox, ∀ right ∈ db.tx.outbox,
      left.lane = cursor.lane → right.lane = cursor.lane →
        ∀ nonce, left.nonce = some nonce → right.nonce = some nonce → left = right) ∧
    (∀ row ∈ db.tx.outbox, row.lane = cursor.lane → ∀ nonce, row.nonce = some nonce →
        ∀ later final, Run Step db later final → ∃ after ∈ final.tx.outbox, after.id = row.id ∧
            after.lane = row.lane ∧ after.nonce = some nonce) ∧
    (∃ event ∈ history, ∃ value, Bootstraps event cursor.lane value) ∧
    ∀ event ∈ history, ∀ value, Bootstraps event cursor.lane value →
      ∀ nonce, value ≤ nonce → nonce < cursor.nextNonce →
        (∃! row, row ∈ db.tx.outbox ∧ row.lane = cursor.lane ∧ row.nonce = some nonce) ∨
        ∃ jump ∈ history, JumpsOver jump cursor.lane nonce := by
  have hsound := sound_storeRun hrun
  have hunique : ∀ left ∈ db.tx.outbox, ∀ right ∈ db.tx.outbox,
      left.lane = cursor.lane → right.lane = cursor.lane →
        ∀ nonce, left.nonce = some nonce → right.nonce = some nonce → left = right := by
    intro left hleft right hright hlane hlane' nonce hnonce hnonce'
    apply hsound.unique left hleft right hright (hlane.trans hlane'.symm)
    · rw [hnonce]
      exact some_ne_none _
    · rw [hnonce, hnonce']
  obtain ⟨actions, hledger, hstems⟩ := ledgerRun_of_storeRun hrun
  obtain ⟨value, ⟨boot, hboot, hlabel⟩, hcovered⟩ := cursor_covered hledger hcursor
  obtain ⟨bootEvent, hbootEvent, hbootStems⟩ := hstems boot hboot
  have hbootstraps : Bootstraps bootEvent cursor.lane value :=
    bootstraps_of_stems (hledger.event_reached hboot).1 hbootStems hlabel
  refine ⟨?_, hunique, ?_, ⟨bootEvent, hbootEvent, value, hbootstraps⟩, ?_⟩
  · intro row hrow hlane nonce hnonce
    obtain ⟨found, hfound, hfoundLane, hlt⟩ := hsound.bound row hrow nonce hnonce
    have heq : found = cursor := eq_of_key_eq hfound hcursor (hfoundLane.trans hlane)
    exact heq ▸ hlt
  · intro row hrow _ nonce hnonce later final hlater
    obtain ⟨after, hafter, hextends⟩ := (extends_storeRun hrun hlater).rows row hrow
    have hheld : row.nonce ≠ none := by
      rw [hnonce]
      exact some_ne_none _
    exact ⟨after, hafter, hextends.id, hextends.lane, (hextends.nonce hheld).trans hnonce⟩
  · intro event hevent other hother nonce hlow hhigh
    have hsame : other = value := bootstraps_unique hrun hevent hbootEvent hother hbootstraps
    rcases hcovered nonce (hsame ▸ hlow) hhigh with hheld | hjumped
    · left
      obtain ⟨row, hrow, hlane, hnonce⟩ := hheld
      refine ⟨row, ⟨hrow, hlane, hnonce⟩, ?_⟩
      rintro right ⟨hright, hlane', hnonce'⟩
      exact hunique right hright row hrow hlane' hlane nonce hnonce' hnonce
    · right
      obtain ⟨action, haction, hjumped⟩ := hjumped
      obtain ⟨jump, hjump, hjumpStems⟩ := hstems action haction
      exact ⟨jump, hjump, jumpsOver_of_jumped (hledger.event_reached haction).1 hjumpStems hjumped⟩

theorem cursor_accounts_for_firstSend : (⟨⟨1, "keeper"⟩, 8, none, none⟩ : NonceCursor) ∈
      (replay firstSend).tx.cursors ∧ ∃ event ∈ trace firstSend, ∃ value,
      Bootstraps event ⟨1, "keeper"⟩ value := by
  have hmem : (⟨⟨1, "keeper"⟩, 8, none, none⟩ : NonceCursor) ∈
      (replay firstSend).tx.cursors := by decide
  have haccounts := cursor_accounts_for_nonces (storeRun_trace firstSend) hmem
  exact ⟨hmem, haccounts.2.2.2.1⟩

/-! ## The unsent frontier -/

/-- A live row that holds a nonce no call ever claimed for broadcast. -/
def Unsent (history : List (Event DB Op)) (row : OutboxRow) : Prop :=
  row.status.terminal = false ∧ row.nonce ≠ none ∧ ¬ ClaimedIn history row.id

theorem unsent_frontier (hrun : StoreRun history db) (hrow : row ∈ db.tx.outbox)
    (hunsent : Unsent history row) {other : OutboxRow} (hother : other ∈ db.tx.outbox)
    (hlane : other.lane = row.lane) {lower : ℕ} (hnonce : row.nonce = some nonce)
    (hlower : other.nonce = some lower) : lower ≤ nonce := by
  obtain ⟨hlive, -, hunclaimed⟩ := hunsent
  rw [← claimed_iff_claimedIn hrun] at hunclaimed
  exact (sound_storeRun hrun).frontier row hrow nonce hnonce hlive hunclaimed
    other hother hlane lower hlower

theorem signing_of_fresh_nonce {op : Op} (hrow : row ∈ (op.apply db).tx.outbox)
    (hnonce : row.nonce = some nonce)
    (hfresh : ∀ old ∈ db.tx.outbox, old.id = row.id → old.nonce = none) :
    ∃ token, LeaseCall op row.id token .signing := by
  obtain ⟨actions, hactions, hstems⟩ : Refines ⟨db, op, op.apply db⟩ := step_refines rfl
  obtain ⟨action, haction, token, hlabel⟩ := assign_origin hactions hrow hnonce hfresh
  have hstem := hstems action haction
  rw [Stems, hlabel] at hstem
  exact ⟨token, hstem.2⟩

/-- At most one row of a lane is unsent, and its nonce is the largest of the
lane; so a fresh nonce is only handed out above nonces that were sent or ended. -/
theorem unsent_row_is_lane_frontier (hrun : StoreRun history db) (lane : Lane) :
    (∀ left ∈ db.tx.outbox, ∀ right ∈ db.tx.outbox, left.lane = lane → right.lane = lane →
        Unsent history left → Unsent history right → left = right) ∧
    (∀ row ∈ db.tx.outbox, row.lane = lane → Unsent history row →
      ∀ other ∈ db.tx.outbox, other.lane = lane →
        ∀ nonce lower, row.nonce = some nonce → other.nonce = some lower → lower ≤ nonce) ∧
    ∀ op : Op, ∀ row ∈ (op.apply db).tx.outbox, row.lane = lane → ∀ nonce, row.nonce = some nonce →
        (∀ old ∈ db.tx.outbox, old.id = row.id → old.nonce = none) →
          ∀ other ∈ (op.apply db).tx.outbox, other.lane = lane →
            ∀ lower, other.nonce = some lower → lower < nonce →
              other.status.terminal = true ∨ ClaimedIn history other.id := by
  refine ⟨?_, ?_, ?_⟩
  · intro left hleft right hright hlane hlane' hunsent hunsent'
    obtain ⟨nonce, hnonce⟩ := ne_none_iff_exists'.mp hunsent.2.1
    obtain ⟨nonce', hnonce'⟩ := ne_none_iff_exists'.mp hunsent'.2.1
    have hle : nonce' ≤ nonce := unsent_frontier hrun hleft hunsent hright
      (hlane'.trans hlane.symm) hnonce hnonce'
    have hge : nonce ≤ nonce' := unsent_frontier hrun hright hunsent' hleft
      (hlane.trans hlane'.symm) hnonce' hnonce
    apply (sound_storeRun hrun).unique left hleft right hright (hlane.trans hlane'.symm) hunsent.2.1
    rw [hnonce, hnonce', le_antisymm hge hle]
  · intro row hrow hlane hunsent other hother hlane' nonce lower hnonce hlower
    exact unsent_frontier hrun hrow hunsent hother (hlane'.trans hlane.symm) hnonce hlower
  · intro op row hrow hlane nonce hnonce hfresh other hother hlane' lower hlower hlt
    by_contra hopen
    rw [not_or] at hopen
    obtain ⟨hlive, hunclaimed⟩ := hopen
    have hpost : StoreRun (⟨db, op, op.apply db⟩ :: history) (op.apply db) := hrun.extend rfl
    have hunsent : Unsent (⟨db, op, op.apply db⟩ :: history) other := by
      refine ⟨Bool.eq_false_of_not_eq_true hlive, by simp [hlower], ?_⟩
      rintro ⟨event, hevent, claim, hclaims, hid⟩
      rcases List.mem_cons.mp hevent with rfl | hevent
      · -- The step that assigns a nonce is not a broadcast claim.
        obtain ⟨token, now, signerLane, leaseTTL, hop⟩ := signing_of_fresh_nonce hrow hnonce hfresh
        obtain ⟨now', lane', token', leaseTTL', locked, hlabel, -⟩ := hclaims
        exact absurd (hop.symm.trans hlabel) (by simp)
      · exact hunclaimed ⟨event, hevent, claim, hclaims, hid⟩
    have hle := unsent_frontier hpost hother hunsent hrow (hlane.trans hlane'.symm) hlower hnonce
    omega

/-- The second snapshot is unsent, above the first one, which has been sent. -/
theorem unsent_row_of_secondSend_is_frontier : ∃ row ∈ (replay secondSend).tx.outbox,
    row.nonce = some 8 ∧ Unsent (trace secondSend) row ∧
      (∃ other ∈ (replay secondSend).tx.outbox, other.nonce = some 7 ∧
        ClaimedIn (trace secondSend) other.id) ∧
      ∀ other ∈ (replay secondSend).tx.outbox, other.lane = ⟨1, "keeper"⟩ →
        ∀ lower, other.nonce = some lower → lower ≤ 8 := by
  have hrun := storeRun_trace secondSend
  have hrow : ∃ row ∈ (replay secondSend).tx.outbox.rows, row.lane = ⟨1, "keeper"⟩ ∧
      row.nonce = some 8 ∧ row.status.terminal = false ∧
        ¬ ∃ attempt ∈ (replay secondSend).tx.attempts.rows, attempt.outboxID = row.id ∧
          0 < attempt.broadcastCount := by decide +kernel
  have hsent : ∃ other ∈ (replay secondSend).tx.outbox.rows, other.nonce = some 7 ∧
      ∃ attempt ∈ (replay secondSend).tx.attempts.rows, attempt.outboxID = other.id ∧
        0 < attempt.broadcastCount := by decide +kernel
  obtain ⟨row, hrow, hlane, hnonce, hlive, hunclaimed⟩ := hrow
  obtain ⟨other, hother, hlower, hclaimed⟩ := hsent
  have hunsent : Unsent (trace secondSend) row :=
    ⟨hlive, by simp [hnonce], fun hclaimed =>
      hunclaimed ((claimed_iff_claimedIn hrun).mpr hclaimed)⟩
  exact ⟨row, hrow, hnonce, hunsent,
    ⟨other, hother, hlower, (claimed_iff_claimedIn hrun).mp hclaimed⟩,
    fun other hother hsame lower => (unsent_row_is_lane_frontier hrun ⟨1, "keeper"⟩).2.1
      row hrow hlane hunsent other hother hsame 8 lower hnonce⟩

/-! ## Spent nonces -/

/-- The rows for which `RetryFailedTx` looks for other snapshots of the feed. -/
def ReachesPricingGap (row : OutboxRow) : Prop :=
  row.status = .failed ∧ row.failureKind ≠ some .canceled ∧
    row.failureKind ≠ some .nonceConsumedExternally ∧
    ¬ (row.receipt ≠ none ∧ row.failureKind ≠ some .receiptFailed) ∧
    row.purpose = .pricingSetPriceSnapshot ∧ row.nonce ≠ none ∧
    row.failureKind ≠ some .receiptFailed

/-- No nonce is abandoned: an ended row that holds one saw it mined or
consumed by someone else, and a queued row holds none, so that
`ClaimOutboxForSigning` never finds a queued row with a nonce to keep and
`RetryFailedTx` never gets to the gap check of a price snapshot. -/
theorem no_nonce_abandoned (hrun : StoreRun history db) :
    (∀ row ∈ db.tx.outbox, row.status = .confirmed ∨ row.status = .failed → row.nonce ≠ none →
        (∃ resolution, row.receipt = some resolution ∧
          ∃ attempt ∈ db.tx.attempts, attempt.id = resolution.attemptId ∧
            attempt.outboxID = row.id ∧ attempt.state = .mined) ∨
        row.failureKind = some .nonceConsumedExternally) ∧
    (∀ row ∈ db.tx.outbox, row.status = .queued → row.nonce = none ∧
        ∀ attempt ∈ db.tx.attempts, attempt.outboxID ≠ row.id) ∧
    ∀ row ∈ db.tx.outbox, ¬ ReachesPricingGap row := by
  have hsound := sound_storeRun hrun
  have hspent : ∀ row ∈ db.tx.outbox,
      row.status = .confirmed ∨ row.status = .failed → row.nonce ≠ none →
        Consumed db.tx.attempts row := by
    intro row hrow hended hheld
    refine (hsound.rows row hrow).ended ?_ hheld
    rcases hended with hstatus | hstatus <;> rw [hstatus] <;> rfl
  refine ⟨hspent, ?_, ?_⟩
  · intro row hrow hqueued
    have hbare := (hsound.rows row hrow).queued hqueued
    refine ⟨hbare, ?_⟩
    intro attempt hattempt howner
    have hheld := (nonce_of_attempt hsound hrow hattempt howner).1
    simp [hbare] at hheld
  · rintro row hrow ⟨hfailed, -, hexternal, hpinned, -, hheld, hreceipt⟩
    rcases hspent row hrow (.inr hfailed) hheld with
      ⟨resolution, hresolution, -⟩ | hconsumed
    · exact hpinned ⟨by simp [hresolution], hreceipt⟩
    · exact hexternal hconsumed

/-- The reverted commit saw its nonce mined, and its queued retry holds none. -/
theorem no_nonce_abandoned_in_retriedCommit :
    (∃ row ∈ (replay retriedCommit).tx.outbox, row.status = .failed ∧ row.nonce = some 7 ∧
      ((∃ resolution, row.receipt = some resolution ∧
        ∃ attempt ∈ (replay retriedCommit).tx.attempts, attempt.id = resolution.attemptId ∧
          attempt.outboxID = row.id ∧ attempt.state = .mined) ∨
        row.failureKind = some .nonceConsumedExternally)) ∧
    ∃ row ∈ (replay retriedCommit).tx.outbox, row.status = .queued ∧ row.nonce = none := by
  have hspent := no_nonce_abandoned (storeRun_trace retriedCommit)
  have hfailed : ∃ row ∈ (replay retriedCommit).tx.outbox.rows, row.status = .failed ∧
      row.nonce = some 7 := by decide +kernel
  have hqueued : ∃ row ∈ (replay retriedCommit).tx.outbox.rows, row.status = .queued := by
    decide +kernel
  obtain ⟨row, hrow, hfailed, hnonce⟩ := hfailed
  obtain ⟨retry, hretry, hqueued⟩ := hqueued
  exact ⟨⟨row, hrow, hfailed, hnonce, hspent.1 row hrow (.inr hfailed) (by simp [hnonce])⟩,
    retry, hretry, hqueued, (hspent.2.1 retry hretry hqueued).1⟩

end Lazier.Ledger
