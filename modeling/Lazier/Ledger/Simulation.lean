import Lazier.Ledger.Refinement

/-!
# The store simulates on the ledger

The signing, broadcast, cancel and reconciliation methods as ledger changes,
and the simulation theorem: every run of the store is a run of the ledger whose
changes stem from the calls of that run.
-/

namespace Lazier.Ledger

open Library Store SerialTable List

variable {db : DB} {lease : Option Lease} {token : UUID} {now : Time} {status : TxStatus}

/-! ## Inserting attempts -/

theorem leaseHeldBy_token (hheld : leaseHeldBy lease token now = true) :
    lease.map Lease.token = some token := by
  unfold leaseHeldBy at hheld
  split at hheld
  · cases hheld
  next held =>
    have htoken : held.token = token := (of_decide_eq_true hheld).1
    rw [Option.map_some, htoken]

theorem leaseHeldBy_ne_none (hheld : leaseHeldBy lease token now = true) : lease ≠ none := by
  rintro rfl
  cases hheld

theorem replacementClaimable_live {kind : AttemptKind}
    (hclaimable : replacementClaimable status kind = true) :
    status.terminal = false ∧ status ≠ .nonceAssigned ∧
      (replacedStatus status = .signed ∨
        (status = .broadcast ∧ replacedStatus status = .broadcast)) := by
  cases status <;> simp_all [replacementClaimable, TxStatus.terminal, replacedStatus]

theorem cancelAllowed_live (hallowed : status.cancelAllowed = true) :
    status.terminal = false ∧
      (canceledStatus status = .signed ∨
        (status = .broadcast ∧ canceledStatus status = .broadcast)) := by
  cases status <;> simp_all [TxStatus.cancelAllowed, TxStatus.cancelable,
    TxStatus.terminal, canceledStatus]

theorem insertGuard_persisted {row : OutboxRow} {signed : SignedAttempt} (use : LeaseUse)
    (attemptID : ℕ) (hleased : leaseHeldBy row.lease token now = true)
    (hnonce : row.nonce = some signed.nonce) (hlive : row.status.terminal = false)
    (hexclusive : (use = .signing ∧ row.status = .nonceAssigned) ∨
      (row.receipt = none ∧ (row.cancelRequestedAt = none ∨ signed.kind = .cancel)))
    (hstatus : (persistedRow use now attemptID row).status = .signed ∨
      (row.status = .broadcast ∧ (persistedRow use now attemptID row).status = .broadcast)) :
    InsertGuard row (signed.toRow attemptID row.id) use token
      (persistedRow use now attemptID row) where
  task := by constructor <;> rfl
  owner := rfl
  nonce := hnonce
  state := rfl
  unsent := rfl
  unleased := rfl
  leased := leaseHeldBy_token hleased
  live := hlive
  exclusive := hexclusive
  active := rfl
  status := hstatus
  receipt := rfl
  cancel := rfl
  released := rfl

/-! ## Broadcasting -/

theorem change_parkExhaustedLanes (tx : TxTables) (now : Time) (lane : Lane) :
    Change tx .edit (parkExhaustedLanes tx now lane) := by
  refine .edit _ ?_
  intro row _
  unfold parkExhausted
  split
  next hexhausted =>
    simp only [broadcastExhausted, Bool.and_eq_true, decide_eq_true_eq] at hexhausted
    obtain ⟨⟨-, hsigned⟩, hattempt⟩ := hexhausted
    have hactive : row.activeAttemptID ≠ none := by
      split at hattempt
      · cases hattempt
      next attempt hactive =>
        rw [(activeAttempt_eq_some.mp hactive).2.1]
        exact Option.some_ne_none _
    exact ⟨by constructor <;> rfl, rfl, rfl, rfl, .inl rfl,
      .park .broadcastExhausted (by rw [hsigned]; rfl) (.inr hactive) rfl (by decide)⟩
  · exact .refl tx row

theorem refines_claimAttemptForBroadcast {lane : Lane} {leaseTTL : Duration} {locked : List ℕ} :
    Refines ⟨db, .tx (.claimAttemptForBroadcast now lane token leaseTTL locked),
      (claimAttemptForBroadcast db now lane token leaseTTL locked).1⟩ := by
  have houtcome := claimAttemptForBroadcast_outcome db now lane token leaseTTL locked
  generalize hresult : claimAttemptForBroadcast db now lane token leaseTTL
    locked = result at houtcome ⊢
  cases houtcome with
  | refused error => exact .none rfl
  | parked error => exact .one _ (change_parkExhaustedLanes db.tx now lane) trivial
  | claimed hpick =>
    obtain ⟨hrow, hattempt, guarded⟩ := claimGuard_of_pick hpick
    refine .two _ _ (change_parkExhaustedLanes db.tx now lane)
      (.claim hrow hattempt guarded) trivial ?_
    exact ⟨_, ⟨now, lane, token, leaseTTL, locked, rfl, by rw [hresult]; rfl⟩, rfl⟩

/-! ## Reconciliation -/

theorem change_applyDecision (now : Time) (evidence : String)
    (progress : TxTables × ℕ) (decision : NonceReconcileDecision) :
    (applyDecision now evidence progress decision).1 = progress.1 ∨ Change progress.1 .edit
        (applyDecision now evidence progress decision).1 := by
  unfold applyDecision
  split
  · exact .inl rfl
  next row hfind =>
    have hrow := mem_of_find hfind
    split
    next hguard =>
      split
      · split
        · exact .inl rfl
        next active _ =>
          refine .inr (.editRow hrow ⟨by constructor <;> rfl, rfl, rfl, rfl,
            .inl rfl, .reconcile hguard.1 ?_⟩)
          change releasedStatus active = _ ∨ releasedStatus active = _ ∨ _
          unfold releasedStatus
          split <;> simp
      · exact .inr (.editRow hrow ⟨by constructor <;> rfl, rfl, rfl, rfl,
          .inl rfl, .reconcile hguard.1 (.inr (.inr rfl))⟩)
    · exact .inl rfl

theorem run_applyDecisions (now : Time) (evidence : String)
    (decisions : List NonceReconcileDecision) (progress : TxTables × ℕ) :
    ∃ actions, Run Change progress.1 actions
        (decisions.foldl (applyDecision now evidence) progress).1 ∧
      ∀ action ∈ actions, action.label = .edit := by
  induction decisions generalizing progress with
  | nil => exact ⟨[], .start, by simp⟩
  | cons decision rest ih =>
    obtain ⟨actions, hrun, hedits⟩ := ih (applyDecision now evidence progress decision)
    rcases change_applyDecision now evidence progress decision with
      hsame | hchange
    · rw [foldl_cons]
      rw [hsame] at hrun
      exact ⟨actions, hrun, hedits⟩
    · refine ⟨actions ++ [_], (Run.start.extend hchange).trans hrun, ?_⟩
      intro action haction
      rcases mem_append.mp haction with hlater | hfirst
      · exact hedits action hlater
      · rw [mem_singleton.mp hfirst]

theorem applyDecisions_cursors {evidence : String} {decisions : List NonceReconcileDecision}
    {progress : TxTables × ℕ} : (decisions.foldl (applyDecision now evidence) progress).1.cursors =
      progress.1.cursors := by
  induction decisions generalizing progress with
  | nil => rfl
  | cons decision rest ih =>
    rw [foldl_cons, ih]
    rcases change_applyDecision now evidence progress decision with
      hsame | hchange
    · rw [hsame]
    · exact hchange.edit_cursors

theorem refines_reconciled {post : DB} {lane : Lane} {confirmedNonce confirmedBlock : ℕ}
    {backoff : Duration} {observed : String} {decisions : List NonceReconcileDecision}
    (evidence : String) {cursor : NonceCursor} (hfind : db.tx.cursors.find lane = some cursor)
    (hpost : post.tx = (decisions.foldl (applyDecision now evidence)
      (db.tx.setCursor (cursor.publish now confirmedNonce backoff), 0)).1) :
    Refines ⟨db, .tx (.applyNonceReconciliation now lane token confirmedNonce
      confirmedBlock backoff observed decisions), post⟩ := by
  obtain ⟨hcursor, rfl⟩ := Table.find_eq_some.mp hfind
  obtain ⟨actions, hrun, hedits⟩ := run_applyDecisions now evidence decisions
    (db.tx.setCursor (cursor.publish now confirmedNonce backoff), 0)
  rw [← hpost] at hrun
  have hstems : ∀ (event : Event DB Op) first, Stems event first →
      ∀ action ∈ actions ++ [first], Stems event action := by
    intro event first hfirst action haction
    rcases mem_append.mp haction with hlater | hlast
    · rw [Stems, hedits action hlater]
      trivial
    · rw [mem_singleton.mp hlast]
      exact hfirst
  -- The cursor moves first; the row decisions follow.
  by_cases hahead : cursor.nextNonce < confirmedNonce
  · have hnext : (cursor.publish now confirmedNonce backoff).nextNonce =
        confirmedNonce := max_eq_right hahead.le
    have hforward := Change.forward
      (cursor.publish now confirmedNonce backoff) hcursor rfl (by rwa [hnext])
    rw [hnext] at hforward
    refine ⟨_, (Run.start.extend hforward).trans hrun, hstems _ _ ?_⟩
    refine ⟨rfl, ?_, now, token, confirmedBlock, backoff, observed, decisions, rfl⟩
    rw [hpost]
    exact applyDecisions_cursors
  · have hnext : (cursor.publish now confirmedNonce backoff).nextNonce =
        cursor.nextNonce := max_eq_left (not_lt.mp hahead)
    exact ⟨_, (Run.start.extend (Change.schedule
      (cursor.publish now confirmedNonce backoff) hcursor rfl hnext)).trans hrun,
      hstems _ _ trivial⟩

/-! ## The signing lane -/

/-- Every effect of the signing lane is a run of changes; a claim for broadcast
also says what it returned. -/
theorem refines_of_effect {op : TxOp} {config : ConfigTables}
    {work : WorkTables} {after : TxTables} (heffect : Effect db.tx op after)
    (hclaim : ∀ now lane token leaseTTL locked,
      op = .claimAttemptForBroadcast now lane token leaseTTL locked →
        Refines ⟨db, .tx op, ⟨config, work, after⟩⟩) :
    Refines ⟨db, .tx op, ⟨config, work, after⟩⟩ := by
  cases heffect with
  | cursors _ _ hcursors =>
    cases hcursors with
    | unchanged => exact .none rfl
    | bootstrapped habsent habove => exact .one _ (.bootstrap habsent habove) ⟨⟨rfl, rfl⟩, _, rfl⟩
    | scheduled new hfind hlane hnext =>
      exact .one (.schedule _) (.schedule new (Table.find_eq_some.mp hfind).1 hlane hnext) trivial
  | noted _ _ _ _ _ hrow | replacementRequested _ hrow =>
    exact .edit (mem_of_find hrow) rfl
      (.bookkeeping (by constructor <;> rfl) rfl rfl rfl (.inl rfl) rfl rfl)
  | @assigned now lane token leaseTTL row cursor hrow hqueued hnonce hcancel
      hreceipt hcursor hlane hclear =>
    exact .one _ (.assign ⟨token, now + leaseTTL⟩ now
      (mem_of_find hrow) hcursor hlane hqueued hnonce hreceipt
      hcancel hclear) ⟨⟨rfl, rfl⟩, now, lane, leaseTTL, rfl⟩
  | @signing now lane token leaseTTL row hrow hstatus hnonce hcancel hreceipt =>
    have hmem := mem_of_find hrow
    rcases hstatus with hqueued | hassigned
    · exact .one _ (.resume ⟨token, now + leaseTTL⟩ now hmem hqueued hnonce
        hcancel) ⟨now, lane, leaseTTL, rfl⟩
    · rw [← hassigned]
      exact .one _ (.lease .signing ⟨token, now + leaseTTL⟩ now hmem
        ⟨hreceipt, hassigned, hnonce, hcancel⟩) ⟨now, lane, leaseTTL, rfl⟩
  | @replacing now expected token leaseTTL row _ hrow hreceipt hactive =>
    exact .one _ (.lease .replacement ⟨token, now + leaseTTL⟩ now
      (mem_of_find hrow) ⟨hreceipt, by simp [hactive]⟩) ⟨now, expected, leaseTTL, rfl⟩
  | @canceling now expected token leaseTTL row hrow hcancel hreceipt _ _ hnonce =>
    exact .one _ (.lease .cancel ⟨token, now + leaseTTL⟩ now
      (mem_of_find hrow) ⟨hreceipt, hnonce, hcancel⟩) ⟨now, expected, leaseTTL, rfl⟩
  | @signed now token signed row hrow hleased hstatus hnonce =>
    have hguard := insertGuard_persisted .signing db.tx.attempts.next
      hleased hnonce (by rw [hstatus]; rfl) (.inl ⟨rfl, hstatus⟩) (.inl rfl)
    exact .one _ (.insert (mem_of_find hrow) rfl hguard)
      ⟨⟨rfl, rfl⟩, now, signed, rfl, rfl⟩
  | @replaced now expected token signed row _ hrow hleased hreceipt _ hclaimable
      hexclusive hnonce =>
    have hlive := replacementClaimable_live hclaimable
    have hguard := insertGuard_persisted .replacement db.tx.attempts.next hleased hnonce hlive.1
      (.inr ⟨hreceipt, hexclusive⟩) hlive.2.2
    exact .one _ (.insert (mem_of_find hrow) rfl hguard)
      ⟨⟨rfl, rfl⟩, now, expected, signed, rfl, rfl⟩
  | @canceled now expected token signed row hkind hrow hleased _ hreceipt _ hallowed hnonce =>
    have hlive := cancelAllowed_live hallowed
    have hguard := insertGuard_persisted .cancel db.tx.attempts.next hleased hnonce hlive.1
      (.inr ⟨hreceipt, .inr hkind⟩) hlive.2
    exact .one _ (.insert (mem_of_find hrow) rfl hguard)
      ⟨⟨rfl, rfl⟩, now, expected, signed, rfl, rfl⟩
  | parked | broadcast => exact hclaim _ _ _ _ _ rfl
  | outdated hattempt hleased =>
    exact .one _ (.report (mem_of_find hattempt) (leaseHeldBy_ne_none hleased)) trivial
  | @reported _ attempt _ sendClass _ row hattempt hleased howner hrow hactive hlive =>
    have hmem := mem_of_find hattempt
    have hsent := leaseHeldBy_ne_none hleased
    refine .two _ _ (.editRow (mem_of_find hrow) ?_)
      (.report hmem hsent) trivial trivial
    exact ⟨by constructor <;> rfl, rfl, rfl, rfl, .inl rfl,
      .report attempt sendClass hmem howner hactive hsent hlive rfl⟩
  | @charged now _ row hrow hleased hlive =>
    refine .edit (mem_of_find hrow) rfl ⟨by constructor <;> rfl, rfl, rfl, rfl, .inr rfl, ?_⟩
    by_cases hparked : txMaxPreSignFailures ≤ row.preSignFailureCount + 1
    · exact .park .manual hlive (.inl (leaseHeldBy_ne_none hleased)) (if_pos hparked) (by decide)
    · exact .keep (if_neg hparked) (.inl rfl)
  | @cancelRequested now row _ hrow hnonce hallowed hreceipt =>
    exact .one _ (.cancel (mem_of_find hrow)
      ⟨by constructor <;> rfl, hnonce, hallowed, hreceipt, rfl, rfl, rfl, rfl,
        Option.some_ne_none _, rfl⟩) ⟨now, rfl⟩
  | reconciled evidence hfind => exact refines_reconciled evidence hfind rfl

/-! ## Workflow methods -/

theorem updateExecutorStatus_tx {update : ExecutorStatusUpdate} :
    (updateExecutorStatus db now update).1.tx = db.tx := by
  unfold updateExecutorStatus
  dsimp only
  repeat' split
  all_goals rfl

theorem updateDVNStatus_tx {update : DVNStatusUpdate} :
    (updateDVNStatus db now update).1.tx = db.tx := by
  unfold updateDVNStatus
  repeat' split
  all_goals rfl

theorem workOp_apply_tx (db : DB) (op : WorkOp) : (op.apply db).tx = db.tx := by
  cases op with
  | markDVNWaitingConfirmations | markDVNQuorumChecking => exact updateDVNStatus_tx
  | markDVNReadyToVerify | markDVNWouldVerify | markDVNVerifiedFromChain
  | markDVNVerified | markDVNVerifiedObserved | markDVNQuorumConflict
  | markDVNReorgDetected | markDVNManualReview =>
    simp only [WorkOp.apply, markDVNReadyToVerify, markDVNWouldVerify, markDVNVerifiedFromChain,
      updateDVNWithResult, markDVNVerified, markDVNVerifiedObserved,
      markDVNQuorumConflict, markDVNReorgDetected, markDVNManualReview]
    split
    · rfl
    · exact updateDVNStatus_tx
  | markExecutorWaitingDVNVerification | markExecutorVerifiable
  | markExecutorCommittedFromChain | markExecutorExecutable
  | markExecutorDeliveredFromChain => exact updateExecutorStatus_tx
  | markExecutorCommitted | markExecutorCommittedObserved
  | markExecutorManualReview | markExecutorDelivered
  | markExecutorDeliveredObserved | markExecutorReceiveFailed
  | markExecutorReceiveFailedObserved =>
    simp only [WorkOp.apply, markExecutorCommitted,
      markExecutorCommittedObserved, markExecutorManualReview,
      markExecutorDelivered, markExecutorDeliveredObserved,
      markExecutorReceiveFailed, markExecutorReceiveFailedObserved]
    split
    · rfl
    · exact updateExecutorStatus_tx
  | _ =>
    simp only [WorkOp.apply, syncConfig, pauseChain, pausePathwayForPacket, upsertPacket,
      upsertExecutorJob, deferExecutorJob, updateIndexerCursor, recordSourcePacketSkip,
      upsertDVNJob, deferDVNJob, markDVNReorgDetectedWithCoordinates,
      markDVNManualReviewAndPausePathway]
    repeat' split
    all_goals rfl

/-! ## The simulation -/

theorem step_refines {pre post : DB} {op : Op} (hstep : Step pre op post) :
    Refines ⟨pre, op, post⟩ := by
  subst hstep
  cases op with
  | work op => exact .none (workOp_apply_tx pre op)
  | tx op =>
    cases hquiet : quietOp op with
    | false => exact refines_of_txEffect (txOp_effect pre op) hquiet
    | true =>
      refine refines_of_effect (quiet_effect pre op hquiet) ?_
      rintro now lane token leaseTTL locked rfl
      exact refines_claimAttemptForBroadcast

theorem run_refines {start final : DB} {history : List (Event DB Op)}
    (hrun : Run Step start history final) : ∃ actions, Run Change start.tx actions final.tx ∧
      ∀ action ∈ actions, ∃ event ∈ history, Stems event action :=
  Run.simulate DB.tx Stems (fun _ _ _ hstep => step_refines hstep) hrun

end Lazier.Ledger
