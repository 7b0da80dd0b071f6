import Lazier.Readiness.Reports

/-!
# Rows with a spent replacement budget

A broadcast row whose last attempt was accepted waits for its receipt.  While
there is budget, the replacement loop outbids it; afterwards no loop touches the
row again, whatever the rest of the fleet does.  A reprice hold with a spent
budget is reported under a reason of its own, a broadcast row is not.
-/

namespace Lazier.Readiness

open Library Store Ledger Manager Signer SerialTable List

/-! ## Spent rows -/

/-- A broadcast row without any request, active on the given attempt. -/
structure SpentRow (attemptID : ℕ) (row : OutboxRow) : Prop where
  status : row.status = .broadcast
  unpinned : row.receipt = none
  unleased : row.lease = none
  unrequested : row.replaceRequestedAt = none
  uncanceled : row.cancelRequestedAt = none
  active : row.activeAttemptID = some attemptID

/-- The tables hold the row and its accepted attempt. -/
structure SpentTx (row : OutboxRow) (attempt : AttemptRow) (tx : TxTables) : Prop where
  waits : ∃ after ∈ tx.outbox, after.id = row.id ∧
    after.purpose = row.purpose ∧ SpentRow attempt.id after
  sent : attempt ∈ tx.attempts
  cap : txMaxReplacements ≤ kindCount tx.attempts row.id .replacement

/-- The attempt was accepted, and is not a cancel. -/
structure Accepted (row : OutboxRow) (attempt : AttemptRow) : Prop where
  owner : attempt.outboxID = row.id
  state : attempt.state = .submitted
  kind : attempt.kind ≠ .cancel

/-- No open session was offered the attempt. -/
def Unoffered (sessions : List Session) (row : OutboxRow) (attempt : AttemptRow) : Prop :=
  ∀ session ∈ sessions, session.outboxID = row.id →
    ∀ bumpingCancel, session.task ≠ .replace attempt.id bumpingCancel

/-- The calls that leave a spent row alone: no receipt, no operator, and no
claim for the accepted attempt. -/
structure SparesSpent (row : OutboxRow) (attempt : AttemptRow) (op : TxOp) : Prop where
  automatic : automatic (.call (.tx op)) = true
  unclaimed : ∀ now token leaseTTL,
    op ≠ .claimOutboxForReplacementSigning now row.id attempt.id token leaseTTL

variable {tx after : TxTables} {op : TxOp} {row : OutboxRow} {attempt : AttemptRow}

theorem mem_setRow_other {kept old new : OutboxRow} (hkept : kept ∈ tx.outbox)
    (hold : tx.outbox.find old.id = some old) (hid : new.id = old.id) (hne : old ≠ kept) :
    kept ∈ (tx.setRow new).outbox := by
  refine mem_set_of_ne hkept fun hsame => hne ?_
  exact eq_of_key_eq (mem_of_find hold) hkept (hid.symm.trans hsame.symm)

theorem SpentRow.not_leased {attemptID : ℕ} {kept : OutboxRow}
    (hspent : SpentRow attemptID kept) {old : OutboxRow} {token : UUID}
    {now : Time} (hleased : leaseHeldBy old.lease token now = true) : old ≠ kept := by
  rintro rfl
  rw [hspent.unleased] at hleased
  cases hleased

theorem spentRow_effect {kept : OutboxRow} (hkept : kept ∈ tx.outbox)
    (hspent : SpentRow attempt.id kept) (hid : kept.id = row.id) (hattempt : attempt ∈ tx.attempts)
    (hsettled : attempt.broadcastLease = none) (hspares : SparesSpent row attempt op)
    (heffect : Effect tx op after) :
    ∃ later ∈ after.outbox, later.id = kept.id ∧
      later.purpose = kept.purpose ∧ SpentRow attempt.id later := by
  have hsame : kept ∈ after.outbox → ∃ later ∈ after.outbox, later.id = kept.id ∧
        later.purpose = kept.purpose ∧ SpentRow attempt.id later :=
    fun hmem => ⟨kept, hmem, rfl, rfl, hspent⟩
  cases heffect with
  | cursors houtbox _ => exact hsame (houtbox ▸ hkept)
  | @noted _ old stored updatedAt polledAt replaceAt deferUntil hrow hreplace =>
    by_cases heq : old = kept
    · subst heq
      refine ⟨_, mem_set_self hkept rfl, rfl, rfl,
        ⟨hspent.status, hspent.unpinned, hspent.unleased, ?_, hspent.uncanceled, hspent.active⟩⟩
      rw [hspent.unrequested] at hreplace
      exact Option.isNone_iff_eq_none.mp (Option.isSome_eq_false_iff.mp hreplace)
    · exact hsame (mem_setRow_other hkept hrow rfl heq)
  | assigned hrow hqueued _ _ _ =>
    refine hsame (mem_setRow_other hkept hrow rfl ?_)
    rintro rfl
    rw [hspent.status] at hqueued
    cases hqueued
  | signing hrow hstatus _ _ _ =>
    refine hsame (mem_setRow_other hkept hrow rfl ?_)
    rintro rfl
    rw [hspent.status] at hstatus
    rcases hstatus with hstatus | hstatus <;> cases hstatus
  | replacing hrow _ hactive _ _ =>
    refine hsame (mem_setRow_other hkept hrow rfl ?_)
    rintro rfl
    rw [hspent.active, Option.some.injEq] at hactive
    exact hspares.unclaimed _ _ _ (by rw [hid, hactive])
  | canceling hrow hcancel _ _ _ =>
    refine hsame (mem_setRow_other hkept hrow rfl ?_)
    rintro rfl
    exact hcancel hspent.uncanceled
  | signed hrow hleased _ _ | replaced _ hrow hleased _ _ _ _ _
  | canceled _ hrow hleased _ _ _ _ _ | charged hrow hleased _ =>
    exact hsame (mem_setRow_other hkept hrow rfl (hspent.not_leased hleased))
  | parked | broadcast =>
    refine hsame (mem_mapRows.mpr ⟨kept, hkept, if_neg ?_⟩)
    simp [broadcastExhausted, hspent.status]
  | outdated => exact hsame hkept
  | @reported _ sent _ _ _ old hsent hleased _ hrow hactive _ =>
    refine hsame (mem_setRow_other hkept hrow rfl ?_)
    rintro rfl
    rw [hspent.active, Option.some.injEq] at hactive
    have heq : sent = attempt := eq_of_key_eq
      (mem_of_find hsent) hattempt hactive.symm
    rw [heq, hsettled] at hleased
    cases hleased
  | replacementRequested | cancelRequested => exact absurd hspares.automatic (by simp [automatic])
  | @reconciled now _ _ confirmedNonce _ backoff _ decisions evidence cursor _ _ =>
    have hdecided := (decided_applyDecisions now evidence decisions
      (tx.setCursor (cursor.publish now confirmedNonce backoff), 0)).rows kept.id
    have hfind : (tx.setCursor (cursor.publish now confirmedNonce
        backoff)).outbox.find kept.id = some kept := find_eq_some.mpr ⟨hkept, rfl⟩
    rw [hfind] at hdecided
    generalize hlater : find _ kept.id = later at hdecided
    cases hdecided with
    | some hdecided =>
      cases hdecided with
      | kept => exact hsame (mem_of_find hlater)
      | released _ hheld _ _ | external _ hheld _ =>
        rw [hspent.status] at hheld
        cases hheld

/-- An accepted attempt is not sent or reported again. -/
theorem spentAttempt_effect (hattempt : attempt ∈ tx.attempts) (hstate : attempt.state = .submitted)
    (hsettled : attempt.broadcastLease = none) (heffect : Effect tx op after) :
    attempt ∈ after.attempts := by
  have hother : ∀ new : AttemptRow, new.id ≠ attempt.id →
      attempt ∈ (tx.setAttempt new).attempts := fun new hne =>
    mem_set_of_ne hattempt hne.symm
  -- A result comes with a broadcast lease, which the accepted attempt has lost.
  have hreport : ∀ (sent : AttemptRow) token now, tx.attempts.find sent.id = some sent →
      leaseHeldBy sent.broadcastLease token now = true → sent.id ≠ attempt.id := by
    intro sent token now hsent hleased hsame
    have heq : sent = attempt := eq_of_key_eq
      (mem_of_find hsent) hattempt hsame
    rw [heq, hsettled] at hleased
    cases hleased
  cases heffect with
  | cursors _ hattempts => exact hattempts ▸ hattempt
  | noted | assigned | signing | replacing | canceling | charged
  | replacementRequested | cancelRequested | parked => exact hattempt
  | signed | replaced | canceled => exact mem_append_of_mem rfl hattempt
  | @broadcast _ _ _ _ _ _ picked hpick =>
    obtain ⟨-, hactive, -, hready, -⟩ := broadcastPick_spec hpick
    refine hother _ fun hsame => ?_
    have heq : picked = attempt := eq_of_key_eq
      (activeAttempt_eq_some.mp hactive).1 hattempt hsame
    rw [heq, hstate] at hready
    rcases hready with hready | hready <;> cases hready
  | @outdated _ sent _ _ _ hsent hleased _ | @reported _ sent _ _ _ _ hsent hleased _ _ _ _ =>
    exact hother _ (hreport sent _ _ hsent hleased)
  | reconciled =>
    rw [(decided_applyDecisions _ _ _ (_, 0)).attempts]
    exact hattempt

theorem kindCount_le_txOp {db : DB} (hsound : Sound db.tx) (op : TxOp) (id : ℕ)
    (kind : AttemptKind) : kindCount db.tx.attempts id kind ≤
      kindCount (op.apply db).tx.attempts id kind := by
  have hstep := accountStep_txOp hsound op
  generalize (op.apply db).tx = post at hstep
  cases hstep with
  | kept _ hattempts => rw [kindCount_same hattempts]
  | signed | replaced | canceled =>
    exact (Nat.le_add_right _ _).trans (kindCount_append rfl id kind).ge
  | replacementRequested | cancelRequested => exact le_rfl

theorem spentTx_txOp {db : DB} (hsound : Sound db.tx) (hfit : Fit db.tx)
    (haccepted : Accepted row attempt) (hspent : SpentTx row attempt db.tx)
    (hspares : SparesSpent row attempt op) : SpentTx row attempt (op.apply db).tx := by
  obtain ⟨⟨kept, hkept, hid, hpurpose, hrow⟩, hattempt, hcap⟩ := hspent
  have hsettled : attempt.broadcastLease = none :=
    (hfit.attempts attempt hattempt).accepted haccepted.state
  have hgrown := hcap.trans (kindCount_le_txOp hsound op row.id .replacement)
  have hsame : ∀ {tx : TxTables}, kept ∈ tx.outbox → attempt ∈ tx.attempts →
      txMaxReplacements ≤ kindCount tx.attempts row.id .replacement →
      SpentTx row attempt tx := fun hmem hsent hroom =>
    ⟨⟨kept, hmem, hid, hpurpose, hrow⟩, hsent, hroom⟩
  have hother : ∀ old : OutboxRow, old.status ≠ .broadcast → old ≠ kept := by
    rintro old hstatus rfl
    exact hstatus hrow.status
  have heffect := txOp_effect db op
  generalize hpost : op.apply db = post at heffect hgrown
  cases heffect with
  | unchanged => exact hsame hkept hattempt hgrown
  | quiet hop _ =>
    have hquiet := quiet_effect db op hop
    rw [hpost] at hquiet
    obtain ⟨later, hlater, hlaterID, hlaterPurpose, hlaterRow⟩ :=
      spentRow_effect hkept hrow hid hattempt hsettled hspares hquiet
    exact ⟨⟨later, hlater, hlaterID.trans hid, hlaterPurpose.trans hpurpose,
      hlaterRow⟩, spentAttempt_effect hattempt haccepted.state hsettled hquiet, hgrown⟩
  | enqueuedTx | enqueuedPricing | enqueuedExecutor | enqueuedDVN =>
    exact hsame (mem_append_of_mem rfl hkept) hattempt hgrown
  | reverted _ hfound hqueued _ =>
    exact hsame (mem_setRow_other hkept hfound rfl
      (hother _ (by rw [hqueued]; simp))) hattempt hgrown
  | automaticRetry hresult =>
    cases hresult with
    | refused => exact hsame hkept hattempt hgrown
    | deferred old now _ _ hfound hfailed _ | requeued old now _ hfound hfailed _ _ _ =>
      exact hsame (mem_setRow_other hkept hfound rfl
        (hother old (by rw [hfailed]; simp))) hattempt hgrown
    | settled old now _ hold _ =>
      exact hsame (mem_setRow_other hkept hold.found rfl
        (hother old (by rw [hold.failed]; simp))) hattempt hgrown
    | cloned old now _ hold _ _ _ =>
      refine hsame (mem_set_of_ne
        (mem_append_of_mem rfl hkept) fun hmatch => ?_) hattempt hgrown
      exact hother old (by rw [hold.failed]; simp)
        (eq_of_key_eq (mem_of_find hold.found) hkept hmatch.symm)
  | operatorRetry | pinned | finalized | resolved | abandoned =>
    exact absurd hspares.automatic (by simp [automatic])

/-! ## No loop picks a spent row -/

variable {db : DB} {now : Time}

theorem SpentTx.unique (hspent : SpentTx row attempt db.tx) {other : OutboxRow}
    (hother : other ∈ db.tx.outbox) (hid : other.id = row.id) : SpentRow attempt.id other := by
  obtain ⟨⟨kept, hkept, hkeptID, -, hrow⟩, -, -⟩ := hspent
  rw [eq_of_key_eq hother hkept (hid.trans hkeptID.symm)]
  exact hrow

theorem SpentTx.activeAttempt (hspent : SpentTx row attempt db.tx)
    (haccepted : Accepted row attempt) {other : OutboxRow} (hother : other ∈ db.tx.outbox)
    (hid : other.id = row.id) :
    activeAttempt db.tx other = some attempt :=
  activeAttempt_eq_some.mpr ⟨hspent.sent, (hspent.unique hother hid).active,
    haccepted.owner.trans hid.symm⟩

/-- The replacement loop has no authority left. -/
theorem SpentTx.not_replaced (hspent : SpentTx row attempt db.tx) (haccepted : Accepted row attempt)
    {lane : Lane} {staleAfter : Duration} {offered : OutboxRow} {active : AttemptRow}
    (hnext : nextReplacementCandidate db now lane staleAfter = .ok (some (offered, active))) :
    offered.id ≠ row.id := by
  intro hid
  obtain ⟨hmem, hoffer⟩ := nextReplacementCandidate_offer hnext
  have hsame : active = attempt := Option.some.inj
    (hoffer.active.symm.trans (hspent.activeAttempt haccepted hmem hid))
  rcases hoffer.authorized with hrequested | hroom
  · exact hrequested (hspent.unique hmem hid).unrequested
  · have hcount : replacementCount db.tx offered active.kind =
        kindCount db.tx.attempts row.id .replacement := by
      rw [replacementCount, kindCount, countP_eq_length_filter, hid, hsame,
        replacementKind, if_neg haccepted.kind]
    exact absurd hspent.cap (by omega)

theorem SpentTx.not_picked (hspent : SpentTx row attempt db.tx) (haccepted : Accepted row attempt) :
    ¬ Picked db now row.id := by
  intro hpicked
  cases hpicked with
  | @sendable lane peeked hpeek hid =>
    unfold peekSendableTx at hpeek
    split at hpeek
    · cases hpeek
    split at hpeek
    · cases hpeek
    obtain ⟨found, hfirst, rfl⟩ := Option.map_eq_some_iff.mp (Except.ok.inj hpeek)
    obtain ⟨hmem, hsendable⟩ := mem_filter.mp (mem_of_firstBy_eq_some hfirst)
    simp [sendable, (hspent.unique hmem hid).status] at hsendable
  | @broadcast lane token leaseTTL locked claim hclaim hid =>
    unfold claimAttemptForBroadcast at hclaim
    split at hclaim
    · cases hclaim
    dsimp only at hclaim
    split at hclaim
    · cases hclaim
    · rename_i found sent hpick
      cases hclaim
      obtain ⟨hmem, hactive, -, hready, -⟩ := broadcastPick_spec hpick
      obtain ⟨old, hold, hparked⟩ := mem_mapRows.mp hmem
      have holdID : old.id = row.id := by
        rw [← hid, ← hparked, parkExhausted_id]
      have hkept : old = found := by
        rw [← hparked, parkExhausted, if_neg]
        simp [broadcastExhausted, (hspent.unique hold holdID).status]
      subst hkept
      have hsame : sent = attempt := Option.some.inj
        (hactive.symm.trans (hspent.activeAttempt haccepted hold holdID))
      rw [hsame, haccepted.state] at hready
      rcases hready with hready | hready <;> cases hready
  | @parked lane found hmem hid hpark =>
    simp [broadcastExhausted, (hspent.unique hmem hid).status] at hpark
  | replacement hnext hid => exact hspent.not_replaced haccepted hnext hid
  | @cancel lane peeked hnext hid =>
    unfold nextCancelCandidate at hnext
    split at hnext
    · cases hnext
    obtain ⟨found, hfirst, rfl⟩ := Option.map_eq_some_iff.mp (Except.ok.inj hnext)
    obtain ⟨hmem, hcandidate⟩ := mem_filter.mp (mem_of_firstBy_eq_some hfirst)
    simp [cancelCandidate, (hspent.unique hmem hid).uncanceled] at hcandidate
  | @reconcile lane token leaseTTL holds hold hread _ hhold hid =>
    obtain ⟨held, hheld, hheldID, -⟩ := mem_selectReconcileHolds hread hhold
    obtain ⟨hmem, -, hstatus, -⟩ := mem_reconcileHolds.mp hheld
    rw [(hspent.unique hmem (hheldID.trans hid)).status] at hstatus
    cases hstatus

/-! ## Automatic runs -/

variable {fleet pre post later : Fleet} {history events : List (Event Fleet Move)} {move : Move}

/-- No session claims an attempt it was not offered. -/
theorem sparesSpent_of_step (hunoffered : Unoffered pre.sessions row attempt)
    (hstep : AutoStep pre move post) (hop : move.op = some (.tx op)) :
    SparesSpent row attempt op := by
  obtain ⟨⟨hfleet, -⟩, hauto⟩ := hstep
  cases hfleet with
  | start fresh => cases hop
  | @claim session now lane leaseTTL started =>
    cases hop
    refine ⟨?_, fun now' token ttl hclaim => ?_⟩
    · cases htask : session.task <;>
        simp [Session.claimCall, htask, automatic]
    · cases htask : session.task with
      | replace expected bumpingCancel =>
        simp only [Session.claimCall, htask, TxOp.claimOutboxForReplacementSigning.injEq] at hclaim
        obtain ⟨-, hid, rfl, -, -⟩ := hclaim
        exact hunoffered session started hid bumpingCancel htask
      | sign | cancel => simp [Session.claimCall, htask] at hclaim
  | @insert session now signed started =>
    cases hop
    refine ⟨?_, fun now' token ttl hclaim => ?_⟩
    · cases htask : session.task <;>
        simp [Session.insertCall, htask, automatic]
    · cases htask : session.task <;>
        simp [Session.insertCall, htask] at hclaim
  | call free =>
    obtain rfl := Option.some.inj hop
    refine ⟨hauto, ?_⟩
    rintro now token leaseTTL rfl
    cases free

theorem unoffered_step (hspent : SpentTx row attempt pre.db.tx) (haccepted : Accepted row attempt)
    (hunoffered : Unoffered pre.sessions row attempt) (hstep : AutoStep pre move post) :
    Unoffered post.sessions row attempt := by
  obtain ⟨⟨hfleet, hoffered⟩, -⟩ := hstep
  rcases step_of_fleetStep hfleet with ⟨session, rfl, -, rfl⟩ | ⟨op, -, rfl⟩
  · intro other hother hid bumpingCancel htask
    rcases mem_cons.mp hother with rfl | hknown
    · simp only [MoveOffered, Offered, htask] at hoffered
      obtain ⟨now, lane, staleAfter, offered, active, hnext, hsame, -⟩ := hoffered
      exact hspent.not_replaced haccepted hnext (hsame.trans hid)
    · exact hunoffered other hknown hid bumpingCancel htask
  · exact hunoffered

section

variable (hrun : OfferedRun history fleet) (haccepted : Accepted row attempt)
  (hspent : SpentTx row attempt fleet.db.tx) (hunoffered : Unoffered fleet.sessions row attempt)

include hrun haccepted hspent hunoffered

/-- A spent row stays spent as long as neither a receipt nor an operator
comes. -/
theorem spent_autoRun (hlater : Run AutoStep fleet events later) :
    (∃ reached, OfferedRun reached later) ∧
      SpentTx row attempt later.db.tx ∧ Unoffered later.sessions row attempt := by
  induction hlater with
  | start => exact ⟨⟨_, hrun⟩, hspent, hunoffered⟩
  | extend before last ih =>
    obtain ⟨⟨reached, hreached⟩, hbefore, hoffers⟩ := ih
    refine ⟨⟨_, hreached.extend last.1⟩, ?_, unoffered_step hbefore haccepted hoffers last⟩
    rcases step_of_fleetStep last.1.1 with ⟨session, -, -, rfl⟩ | ⟨op, hop, rfl⟩
    · exact hbefore
    · cases op with
      | work op =>
        rw [Op.apply, workOp_apply_tx]
        exact hbefore
      | tx op =>
        exact spentTx_txOp (sound_offeredRun hreached) (lanes_run hreached).fit haccepted hbefore
          (sparesSpent_of_step hoffers last hop)

theorem spent_stuck (since : Time) : Stuck fleet since row.id := by
  intro events later hlater now _
  exact (spent_autoRun hrun haccepted hspent hunoffered hlater).2.1.not_picked haccepted

theorem spent_not_reported (hpurpose : row.purpose ≠ .pricingSetPriceSnapshot)
    (hlater : Run AutoStep fleet events later) (columns : StatColumns)
    (services : Services) (now : Time) {after : OutboxRow}
    (hafter : after ∈ later.db.tx.outbox) (hid : after.id = row.id) :
    ¬ Reported columns services later.db now after := by
  obtain ⟨⟨reached, hreached⟩, hlaterSpent, -⟩ :=
    spent_autoRun hrun haccepted hspent hunoffered hlater
  obtain ⟨⟨kept, hkept, hkeptID, hkeptPurpose, hrow⟩, -, -⟩ := hlaterSpent
  obtain rfl : after = kept := eq_of_key_eq hafter hkept (hid.trans hkeptID.symm)
  have hlive : after.status.terminal = false := by
    rw [hrow.status]
    rfl
  refine not_reported (sound_offeredRun hreached) hafter hlive ?_
  rintro (⟨reason, hheld⟩ | hcancel | hpricing)
  · rw [hrow.status] at hheld
    cases hheld
  · exact hcancel hrow.uncanceled
  · exact hpurpose (hkeptPurpose.symm.trans hpricing)

end

/-! ## A spent price and a spent commit -/

/-- A task is sent, and outbid every other minute until the budget is spent. -/
def spentPasses (setup : List Pass) : List Pass :=
  setup ++ sendPasses (.sign 9 0 keeper) 0 9 .original 1 ++
    (range txMaxReplacements).flatMap fun round : ℕ =>
      let now : Time := (round + 1 : ℕ) * (2 * minute)
      let token := BitVec.ofNat 128 (10 + round)
      sendPasses (.replace token now keeper minute) now token .replacement (round + 2)

/-- A packet to the keeper's chain. -/
def homePacket : PacketRecord := { firstPacket with srcEID := 2, dstEID := 1 }

def commitPasses : List Pass :=
  [.call (.work (.syncConfig ⟨[1, 2], [⟨homePacket.route, true⟩]⟩)),
    .call (.work (.upsertPacket homePacket)),
    .call (.work (.upsertExecutorJob 0 ⟨homePacket.guid, none, .assigned, ""⟩)),
    .call (.work (.markExecutorVerifiable 0 homePacket.guid .assigned)),
    .call (.tx (.bootstrapTxNonceCursor keeper 7)),
    .call (.tx (.enqueueExecutorTx 0 homePacket.guid .verifiable .commitTxEnqueued
      (firstRequest 1 .executorCommitVerification)))]

/-- The fleet has a spent row of the given purpose on an enabled chain. -/
def hasSpent (purpose : Purpose) (fleet : Fleet) : Bool := fleet.db.tx.outbox.rows.any fun row =>
    fleet.db.tx.attempts.rows.any fun attempt =>
      decide (row.status = .broadcast ∧ row.receipt = none ∧ row.lease = none ∧
        row.replaceRequestedAt = none ∧ row.cancelRequestedAt = none ∧
        row.activeAttemptID = some attempt.id ∧ row.nonce ≠ none ∧
        row.purpose = purpose ∧ chainEnabled fleet.db row.chainEID = true) &&
      decide (attempt.outboxID = row.id ∧ attempt.state = .submitted ∧ attempt.kind ≠ .cancel ∧
        txMaxReplacements ≤ kindCount fleet.db.tx.attempts row.id .replacement) &&
      fleet.sessions.all fun session =>
        decide (session.task ≠ .replace attempt.id true ∧ session.task ≠ .replace attempt.id false)

theorem spent_of_hasSpent {purpose : Purpose} (hspent : hasSpent purpose fleet = true) :
    ∃ row ∈ fleet.db.tx.outbox, ∃ attempt, SpentRow attempt.id row ∧
      row.nonce ≠ none ∧ row.purpose = purpose ∧
      chainEnabled fleet.db row.chainEID = true ∧ Accepted row attempt ∧
      SpentTx row attempt fleet.db.tx ∧ Unoffered fleet.sessions row attempt := by
  obtain ⟨row, hrow, hspent⟩ := any_eq_true.mp hspent
  obtain ⟨attempt, hattempt, hspent⟩ := any_eq_true.mp hspent
  simp only [Bool.and_eq_true, decide_eq_true_eq, all_eq_true] at hspent
  obtain ⟨⟨⟨hstatus, hunpinned, hunleased, hunrequested, huncanceled, hactive,
    hnonce, hpurpose, henabled⟩, howner, hstate, hkind, hcap⟩, hsessions⟩ := hspent
  have hspentRow : SpentRow attempt.id row :=
    ⟨hstatus, hunpinned, hunleased, hunrequested, huncanceled, hactive⟩
  refine ⟨row, hrow, attempt, hspentRow, hnonce, hpurpose, henabled,
    ⟨howner, hstate, hkind⟩, ⟨⟨row, hrow, rfl, rfl, hspentRow⟩, hattempt, hcap⟩, ?_⟩
  intro session hsession _ bumpingCancel
  cases bumpingCancel with
  | true => exact (hsessions session hsession).1
  | false => exact (hsessions session hsession).2

/-- However the fleet goes on by itself, a stuck row is reported, sooner or later
and then always, exactly while it is held, has a cancel intent or carries a
price. -/
theorem stuck_row_reported_iff {history events : List (Event Fleet Move)} {fleet later : Fleet}
    (hrun : OfferedRun history fleet) (columns : StatColumns) (services : Services)
    {row : OutboxRow} {since : Time} (hstuck : Stuck fleet since row.id)
    (hlater : Run AutoStep fleet events later) (hrow : row ∈ later.db.tx.outbox)
    (hlive : row.status.terminal = false) (hunpinned : row.receipt = none)
    (hnonce : row.nonce ≠ none) (henabled : chainEnabled later.db row.chainEID = true) :
    (∃ bound, ∀ now, bound ≤ now → Reported columns services later.db now row) ↔ Watched row := by
  have hreached : OfferedRun _ later := hrun.trans (hlater.mono fun _ _ _ hstep => hstep.1)
  obtain ⟨_, hcalls⟩ := storeRun_of_fleetRun hreached.fleetRun
  constructor
  · rintro ⟨bound, hreported⟩
    by_contra hunwatched
    exact not_reported (sound_storeRun hcalls) hrow hlive hunwatched (hreported bound le_rfl)
  · intro hwatched
    have hlate : ∃ bound, ∀ now, bound ≤ now → ∃ issue, Caused columns later.db now row issue := by
      rcases hwatched with ⟨reason, hstatus⟩ | hcancel | hpricing
      · by_cases hreason : reason = .nonceReconcileRequired
        · -- The reconciliation loop would pick the row, so it is not stuck.
          subst hreason
          obtain ⟨bound, hpicked⟩ := picked_of_reconcileHold hcalls hrow hstatus hunpinned hnonce
          exact absurd (hpicked _ (le_max_left bound since))
            (hstuck events later hlater _ (le_max_right bound since))
        · exact caused_of_held columns hrow henabled hstatus hreason
      · exact caused_of_cancel columns hrow henabled hlive hcancel
      · exact caused_of_pricing columns hrow henabled hlive hpricing
    obtain ⟨bound, hcaused⟩ := hlate
    refine ⟨bound, fun now hnow => ?_⟩
    obtain ⟨issue, hissue⟩ := hcaused now hnow
    exact ⟨issue, hissue.mem_issues services, hissue⟩

theorem spentPrice_reported : ∃ history fleet, OfferedRun history fleet ∧
      ∃ row ∈ fleet.db.tx.outbox, row.purpose = .pricingSetPriceSnapshot ∧
        chainEnabled fleet.db row.chainEID = true ∧
        ∀ events later, Run AutoStep fleet events later →
          ∀ after ∈ later.db.tx.outbox, after.id = row.id →
            chainEnabled later.db after.chainEID = true → ∃ bound, ∀ now, bound ≤ now →
              Reported ⟨fun _ => "", fun _ => 0, fun _ => 0⟩ ⟨true, true⟩ later.db now after := by
  obtain ⟨history, fleet, hrun, hcheck⟩ := offeredRun_of_passes
    (spentPasses pricePasses) (hasSpent .pricingSetPriceSnapshot) (by decide +kernel)
  obtain ⟨row, hrow, attempt, -, -, hpurpose, henabled, haccepted, hspent, hunoffered⟩ :=
    spent_of_hasSpent hcheck
  refine ⟨history, fleet, hrun, row, hrow, hpurpose, henabled, ?_⟩
  intro events later hlater after hafter hid henabled
  have hstuck := spent_stuck hrun haccepted hspent hunoffered 0
  obtain ⟨⟨_, hreached⟩, hstill, -⟩ := spent_autoRun hrun haccepted hspent hunoffered hlater
  have hspentRow := hstill.unique hafter hid
  have hnonce := (nonce_of_attempt (sound_offeredRun hreached) hafter hstill.sent
    (haccepted.owner.trans hid.symm)).1
  have hprice : after.purpose = .pricingSetPriceSnapshot := by
    obtain ⟨kept, hkept, hkeptID, hsame, -⟩ := hstill.waits
    rw [eq_of_key_eq hafter hkept (hid.trans hkeptID.symm), hsame, hpurpose]
  exact (stuck_row_reported_iff hrun _ _ (hid.symm ▸ hstuck) hlater hafter
    (by rw [hspentRow.status]; rfl) hspentRow.unpinned (by simp [hnonce]) henabled).mpr
      (.inr (.inr hprice))

/-- A commit with a spent budget blocks its signer for good, and no report ever
shows it. -/
theorem spentCommit_unreported : ∃ history fleet, OfferedRun history fleet ∧
      ∃ row ∈ fleet.db.tx.outbox, row.status.terminal = false ∧
        row.receipt = none ∧ row.nonce ≠ none ∧ chainEnabled fleet.db row.chainEID = true ∧
        (∀ since, Stuck fleet since row.id) ∧ ∀ events later, Run AutoStep fleet events later →
          ∀ columns services now, ∀ after ∈ later.db.tx.outbox, after.id = row.id →
            ¬ Reported columns services later.db now after := by
  obtain ⟨history, fleet, hrun, hcheck⟩ := offeredRun_of_passes
    (spentPasses commitPasses) (hasSpent .executorCommitVerification) (by decide +kernel)
  obtain ⟨row, hrow, attempt, hspentRow, hnonce, hpurpose, henabled, haccepted,
    hspent, hunoffered⟩ := spent_of_hasSpent hcheck
  refine ⟨history, fleet, hrun, row, hrow, ?_, hspentRow.unpinned, hnonce,
    henabled, spent_stuck hrun haccepted hspent hunoffered, ?_⟩
  · rw [hspentRow.status]
    rfl
  · intro events later hlater columns services now after hafter hid
    exact spent_not_reported hrun haccepted hspent hunoffered
      (by rw [hpurpose]; simp) hlater columns services now hafter hid

end Lazier.Readiness
