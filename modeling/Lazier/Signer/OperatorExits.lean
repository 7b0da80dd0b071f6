import Lazier.Delivery.PinnedReceipts
import Lazier.Signer.Site

/-!
# Operator exits of a stuck nonce

A live row with a nonce blocks every later nonce of its lane.  If the nonce was
consumed by a foreign transaction, the operator abandons the row.  Otherwise the
operator cancels it: the intent either leads to a cancel signature, or a cancel
is already there and the request re-arms whatever loop has to carry it on.
-/

namespace Lazier.Signer

open Delivery Library Store Ledger Manager Workflow SerialTable Option

/-! ## Row ids -/

/-- The ids of tasks start at 1. -/
structure RowsNumbered (tx : TxTables) : Prop where
  next : 0 < tx.outbox.next
  rows : ∀ row ∈ tx.outbox, 0 < row.id

theorem RowsNumbered.set {outbox : SerialTable OutboxRow OutboxRow.id} {new row : OutboxRow}
    (hrows : ∀ row ∈ outbox, 0 < row.id) (hrow : row ∈ outbox.set new) : 0 < row.id := by
  rcases mem_set.mp hrow with ⟨rfl, old, hold, hid⟩ | ⟨hold, -⟩
  · exact hid ▸ hrows old hold
  · exact hrows row hold

theorem rowsNumbered_change {before after : TxTables} {action : Action}
    (hnumbered : RowsNumbered before) (hchange : Change before action after) :
    RowsNumbered after where
  next := by
    cases hchange with
    | enqueue => exact Nat.succ_pos _
    | _ => exact hnumbered.next
  rows row hrow := by
    cases hchange with
    | enqueue hid fresh =>
      rcases mem_addRow hid hrow with hold | rfl
      · exact hnumbered.rows row hold
      · exact hid ▸ hnumbered.next
    | edit hkey hedit =>
      obtain ⟨old, hold, rfl⟩ := mem_mapRows.mp hrow
      exact (hkey old).symm ▸ hnumbered.rows old hold
    | bootstrap | claim | report | forward | schedule => exact hnumbered.rows row hrow
    | assign | lease | resume | cancel | insert | pin | finalize | consume =>
      exact RowsNumbered.set hnumbered.rows hrow

theorem rowsNumbered_run {history : List (Event Fleet Move)} {fleet : Fleet}
    (hrun : OfferedRun history fleet) : RowsNumbered fleet.db.tx := by
  obtain ⟨_, hcalls⟩ := storeRun_of_fleetRun hrun.fleetRun
  obtain ⟨_, hchanges, -⟩ := ledgerRun_of_storeRun hcalls
  exact hchanges.invariant RowsNumbered
    (fun _ _ _ hnumbered hchange => rowsNumbered_change hnumbered hchange)
    ⟨Nat.one_pos, fun row hrow => absurd hrow (not_mem_empty row)⟩

/-! ## Selectors of a canceled row -/

/-- Every lease and every backoff of the row and its attempts has run out. -/
structure Elapsed (tx : TxTables) (row : OutboxRow) (now : Time) : Prop where
  lease : leaseFree row.lease now = true
  sign : due row.nextSignAt now = true
  cancel : due row.cancelRequestedAt now = true
  deferred : due row.cancelDeferUntil now = true
  replace : due row.replaceRequestedAt now = true
  attempts : ∀ attempt ∈ tx.attempts, attempt.outboxID = row.id →
    leaseFree attempt.broadcastLease now = true ∧ due attempt.nextBroadcastAt now = true

/-- The claim selects the row unless a lower nonce bars the lane. -/
def BroadcastReady (tx : TxTables) (now : Time) (row : OutboxRow) : Prop :=
  (∀ nonce ∈ row.nonce, signerLaneBlockedByLowerNonce tx row.lane nonce = false) →
    broadcastCandidate tx now row.lane [] row ≠ none

/-- The loops that carry on a row whose active attempt is a cancel. -/
def CancelCarried (tx : TxTables) (now : Time) (row : OutboxRow) : Prop :=
  BroadcastReady tx now row ∨ broadcastExhausted tx now row.lane row = true ∨
    (∀ staleAfter, replacementCandidate tx now row.lane staleAfter row ≠ none) ∨
    row ∈ reconcileHolds tx row.lane

def CancelExit (tx : TxTables) (now : Time) (row : OutboxRow) : Prop :=
  cancelCandidate tx now row.lane row = true ∨
    (ActiveCancel tx.attempts row ∧ CancelCarried tx now row)

section Canceled

variable {tx : TxTables} {row : OutboxRow} {attempt : AttemptRow} {now later : Time}

/-- The ledger after a cancel request of the row. -/
def canceledTx (tx : TxTables) (now : Time) (row : OutboxRow) : TxTables :=
  tx.setRow (cancelRow tx now row)

theorem activeAttempt_canceledTx : activeAttempt (canceledTx tx now row) (cancelRow tx now row) =
      activeAttempt tx row := rfl

theorem cancelAllowed_of_live (hlive : row.status.terminal = false)
    (hforeign : row.status ≠ .held .nonceConsumedExternally) : row.status.cancelAllowed = true := by
  cases hstatus : row.status with
  | queued | nonceAssigned | signed | broadcast => rfl
  | held reason =>
    rw [hstatus] at hforeign
    cases reason <;> first | rfl | exact absurd rfl hforeign
  | confirmed | failed =>
    rw [hstatus] at hlive
    cases hlive

variable (helapsed : Elapsed (canceledTx tx now row) (cancelRow tx now row) later)

include helapsed

theorem broadcastExhausted_canceled (hactive : activeAttempt tx row = some attempt)
    (hstatus : row.status = .signed) (hstate : attempt.state = .ambiguous)
    (hspent : attempt.broadcastCount ≥ txMaxBroadcasts) :
    broadcastExhausted (canceledTx tx now row) later row.lane (cancelRow tx now row) = true := by
  obtain ⟨hmem, -, howner⟩ := activeAttempt_eq_some.mp hactive
  obtain ⟨hfree, -⟩ := helapsed.attempts attempt hmem howner
  unfold broadcastExhausted
  rw [activeAttempt_canceledTx, hactive]
  simp only [Bool.and_eq_true, decide_eq_true_eq]
  exact ⟨⟨rfl, hstatus⟩, ⟨hstate, hspent⟩, hfree⟩

variable (hunpinned : row.receipt = none)

include hunpinned

/-- Without a cancel attempt the request is taken up by the cancel loop. -/
theorem cancelCandidate_canceled (hnonce : row.nonce ≠ none)
    (hallowed : row.status.cancelAllowed = true) (hother : ¬ ActiveCancel tx.attempts row) :
    cancelCandidate (canceledTx tx now row) later row.lane (cancelRow tx now row) = true := by
  unfold cancelCandidate
  simp only [Bool.and_eq_true]
  refine ⟨⟨⟨⟨⟨⟨⟨⟨⟨decide_eq_true rfl, helapsed.cancel⟩, rfl⟩, ?_⟩, hallowed⟩,
    rfl⟩, ?_⟩, rfl⟩, rfl⟩, ?_⟩
  · exact isSome_iff_ne_none.mpr hnonce
  · rw [activeAttempt_canceledTx]
    split
    · rfl
    · rename_i attempt hactive
      obtain ⟨hmem, hpointer, howner⟩ := activeAttempt_eq_some.mp hactive
      exact decide_eq_true fun hcancel =>
        hother ⟨attempt, hmem, hpointer, howner, hcancel⟩
  · exact isNone_iff_eq_none.mpr hunpinned

variable (hactive : activeAttempt tx row = some attempt) (hkind : attempt.kind = .cancel)

include hactive hkind

/-- A cancel that a node may hold is outbid. -/
theorem replacementCandidate_canceled (hsent : attempt.state.sent = true)
    (hclaimable : replacementClaimable row.status .cancel = true) (staleAfter : Duration) :
    replacementCandidate (canceledTx tx now row) later row.lane staleAfter
      (cancelRow tx now row) ≠ none := by
  have hbump : activeIsCancel tx row = true := by
    rw [activeIsCancel, hactive]
    exact decide_eq_true hkind
  have hasked : (cancelRow tx now row).replaceRequestedAt = some now := if_pos hbump
  have hdue : due (some now) later = true := helapsed.cancel
  unfold replacementCandidate
  rw [activeAttempt_canceledTx, hactive, hasked]
  refine ne_of_eq_of_ne (if_pos ?_) (some_ne_none _)
  have hbudget : 0 < txMaxPreSignFailures := by decide
  refine ⟨rfl, rfl, hunpinned, hsent, hbudget, .inr hkind, ?_⟩
  rw [Bool.or_eq_true, Bool.or_eq_true, Bool.and_eq_true]
  exact .inl (.inl ⟨hdue, hkind ▸ hclaimable⟩)

theorem broadcastReady_canceled (hstatus : row.status = .signed ∨ row.status = .broadcast)
    (hstate : attempt.state = .signed ∨ attempt.state = .ambiguous)
    (hbudget : attempt.broadcastCount < txMaxBroadcasts) :
    BroadcastReady (canceledTx tx now row) later (cancelRow tx now row) := by
  intro hclear
  obtain ⟨hmem, -, howner⟩ := activeAttempt_eq_some.mp hactive
  obtain ⟨hfree, hdue⟩ := helapsed.attempts attempt hmem howner
  unfold broadcastCandidate
  rw [activeAttempt_canceledTx, hactive]
  refine ne_of_eq_of_ne (if_pos ?_) (some_ne_none _)
  exact ⟨rfl, hstatus, hstate, hbudget, hdue, hfree, .inr hkind, hunpinned,
    hclear, List.not_mem_nil⟩

/-- A cancel on a live row is carried on, whatever the row waits for. -/
theorem cancelCarried_canceled (hsound : Sound tx) (hfit : Fit tx) (hrow : row ∈ tx.outbox)
    (hlive : row.status.terminal = false) (hnonce : row.nonce ≠ none)
    (hforeign : row.status ≠ .held .nonceConsumedExternally) :
    CancelCarried (canceledTx tx now row) later (cancelRow tx now row) := by
  obtain ⟨hmem, hpointer, howner⟩ := activeAttempt_eq_some.mp hactive
  have hrowSound := hsound.rows row hrow
  have hattempt := hsound.attempts attempt hmem
  have hmeets := hfit.rows row hrow hlive attempt hactive
  have hunsent : attempt.state = .signed → attempt.broadcastCount < txMaxBroadcasts := by
    intro hstate
    rcases Nat.eq_zero_or_pos attempt.broadcastCount with hzero | hpos
    · rw [hzero]
      decide
    · rcases hattempt.sent hpos with hsent | hsent | hsent <;>
        simp [hsent] at hstate
  have hoffer : attempt.state.sent = true → replacementClaimable row.status .cancel = true →
      CancelCarried (canceledTx tx now row) later (cancelRow tx now row) :=
    fun hsent hclaimable => .inr (.inr (Or.inl
      (replacementCandidate_canceled helapsed hunpinned hactive hkind hsent hclaimable)))
  cases hstatus : row.status with
  | queued => exact absurd (hrowSound.queued hstatus) hnonce
  | nonceAssigned =>
    rw [(hrowSound.assigned hstatus).1] at hpointer
    cases hpointer
  | signed =>
    rw [hstatus] at hmeets
    rcases hmeets with hstate | hstate
    · exact .inl (broadcastReady_canceled helapsed hunpinned hactive
        hkind (.inl hstatus) (.inl hstate) (hunsent hstate))
    · rcases Nat.lt_or_ge attempt.broadcastCount txMaxBroadcasts with
        hbudget | hspent
      · exact .inl (broadcastReady_canceled helapsed hunpinned hactive
          hkind (.inl hstatus) (.inr hstate) hbudget)
      · exact .inr (.inl (broadcastExhausted_canceled helapsed hactive hstatus hstate hspent))
  | broadcast =>
    cases hstate : attempt.state with
    | signed =>
      exact .inl (broadcastReady_canceled helapsed hunpinned hactive
        hkind (.inr hstatus) (.inl hstate) (hunsent hstate))
    | submitted | ambiguous => exact hoffer (by rw [hstate]; rfl) (by rw [hstatus]; rfl)
    | rejected => exact absurd hstate (hfit.attempts attempt hmem).kept
    | mined =>
      rw [hattempt.mined hstate row hrow howner.symm] at hlive
      cases hlive
  | held reason =>
    rw [hstatus] at hmeets hforeign
    cases reason with
    | repriceRequired | broadcastExhausted => exact hoffer hmeets (by rw [hstatus]; rfl)
    | manual => exact hoffer (hmeets hkind) (by rw [hstatus]; rfl)
    | nonceReconcileRequired =>
      refine .inr (.inr (.inr ?_))
      rw [reconcileHolds, List.mem_insertionSort, List.mem_filter]
      exact ⟨mem_set_self hrow rfl, decide_eq_true ⟨rfl, hstatus, hunpinned⟩⟩
    | nonceConsumedExternally => exact absurd rfl hforeign
  | confirmed | failed =>
    rw [hstatus] at hlive
    cases hlive

end Canceled

/-! ## Exits -/

variable {db : DB} {row : OutboxRow} {now : Time}

/-- Where a job and its packet agree, the job is parked or left alone. -/
theorem parkExecutorManualReview_ok {work : WorkTables} (hsynced : Synced work) (guid : Hash)
    {expected : ExecutorState} (hlate : expected ∉ firstStatuses) (reason : String) :
    ∃ parked, parkExecutorManualReview work now guid expected reason = .ok parked := by
  unfold parkExecutorManualReview
  split
  · exact ⟨_, rfl⟩
  · rename_i job hjob
    split
    · exact ⟨_, rfl⟩
    · rename_i hstatus
      rw [not_not] at hstatus
      obtain ⟨-, shown, hshown, hsame⟩ := hsynced guid expected (hstatus ▸ executorStatus_eq hjob)
      obtain ⟨packet, hpacket, hpacketStatus⟩ := map_eq_some_iff.mp hshown
      rw [hpacket]
      exact ⟨_, if_pos (hpacketStatus.trans (hsame hlate))⟩

theorem parkRowWorkflow_ok {work : WorkTables} (hsynced : Synced work) (row : OutboxRow)
    (reason : String) :
    ∃ parked, parkRowWorkflow work now row reason = .ok parked := by
  unfold parkRowWorkflow
  split
  · exact ⟨_, rfl⟩
  split
  · unfold parkWorkflowManualReview
    split
    · exact parkExecutorManualReview_ok hsynced _ (by decide) reason
    · exact parkExecutorManualReview_ok hsynced _ (by decide) reason
    · split
      · exact ⟨_, rfl⟩
      · split <;> exact ⟨_, rfl⟩
    · exact ⟨_, rfl⟩
  · exact ⟨_, rfl⟩

theorem resolveExternalNonceAbandon_ok (hsynced : Synced db.work) (hid : row.id ≠ 0)
    (hrow : db.tx.outbox.find row.id = some row)
    (hstatus : row.status = .held .nonceConsumedExternally) (hunpinned : row.receipt = none) :
    (resolveExternalNonceAbandon db now row.id).2 = .ok () := by
  have hheld : heldExternally row = true := decide_eq_true ⟨hstatus, hunpinned⟩
  obtain ⟨parked, hparked⟩ := parkRowWorkflow_ok hsynced row
    "transaction nonce consumed externally; task abandoned by operator"
  rw [resolveExternalNonceAbandon, if_neg hid, hrow]
  dsimp only
  rw [if_neg (not_not.mpr hheld), hparked]
  rfl

/-- Every live nonce has an operator exit: an externally consumed one can be
abandoned, and any other can be canceled, with a loop that takes the cancel up
once the timers of the row have run out. -/
theorem stuck_nonce_exit {deployment : Deployment} {history : List (Event Site Act)} {site : Site}
    (hrun : SiteRun deployment history site) {row : OutboxRow}
    (hrow : row ∈ site.system.db.tx.outbox) (hlive : row.status.terminal = false)
    (hnonce : row.nonce ≠ none) (hunpinned : row.receipt = none) (now : Time) :
    (row.status = .held .nonceConsumedExternally ∧
        (resolveExternalNonceAbandon site.system.db now row.id).2 = .ok ()) ∨
      ((requestTxCancel site.system.db now row.id).2 = .ok () ∧
        ∃ asked ∈ (requestTxCancel site.system.db now row.id).1.tx.outbox, asked.id = row.id ∧
          ∀ later, Elapsed (requestTxCancel site.system.db now row.id).1.tx asked later →
            CancelExit (requestTxCancel site.system.db now row.id).1.tx later asked) := by
  obtain ⟨_, hsystem⟩ := systemRun_of_siteRun hrun
  obtain ⟨_, hfleet⟩ := offeredRun_of_siteRun hrun
  have hid : row.id ≠ 0 := ((rowsNumbered_run hfleet).rows row hrow).ne'
  have hfind := find_of_mem hrow
  by_cases hforeign : row.status = .held .nonceConsumedExternally
  · exact .inl ⟨hforeign, resolveExternalNonceAbandon_ok
      (coherent_run hsystem).synced hid hfind hforeign hunpinned⟩
  · right
    have hallowed := cancelAllowed_of_live hlive hforeign
    rw [requestTxCancel, if_neg hid, hfind]
    dsimp only
    rw [if_pos ⟨hnonce, hallowed, hunpinned⟩]
    refine ⟨rfl, cancelRow site.system.db.tx now row,
      mem_set_self hrow rfl, rfl, fun later helapsed => ?_⟩
    by_cases hcancel : ActiveCancel site.system.db.tx.attempts row
    · obtain ⟨attempt, hmem, hpointer, howner, hkind⟩ := hcancel
      exact .inr ⟨⟨attempt, hmem, hpointer, howner, hkind⟩,
        cancelCarried_canceled helapsed hunpinned
          (activeAttempt_eq_some.mpr ⟨hmem, hpointer, howner⟩) hkind (sound_offeredRun hfleet)
          (lanes_run hfleet).fit hrow hlive hnonce hforeign⟩
    · exact .inl (cancelCandidate_canceled helapsed hunpinned hnonce hallowed hcancel)

/-- A price snapshot is sent, and canceled with a noop that is sent too. -/
def canceledPasses : List Pass := sentPasses ++ .call (.tx (.requestTxCancel 1 1)) ::
    sendPasses (.cancel 10 1 keeper) 1 10 .cancel 2

theorem canceledPasses_exit : ∃ history site, SiteRun sampleDeployment history site ∧
      ∃ row ∈ site.system.db.tx.outbox, row.status = .broadcast ∧ row.cancelRequestedAt ≠ none ∧
        (requestTxCancel site.system.db 2 row.id).2 = .ok () := by
  obtain ⟨history, site, hrun, hcheck⟩ := siteRun_of_passes sampleDeployment canceledPasses
    (fun fleet => fleet.db.tx.outbox.rows.any fun row =>
      decide (row.status = .broadcast ∧ row.nonce ≠ none ∧
        row.receipt = none ∧ row.cancelRequestedAt ≠ none)) (by decide +kernel)
  obtain ⟨row, hrow, hchecked⟩ := List.any_eq_true.mp hcheck
  obtain ⟨hstatus, hnonce, hunpinned, hcanceled⟩ := of_decide_eq_true hchecked
  have hlive : row.status.terminal = false := by
    rw [hstatus]
    rfl
  refine ⟨history, site, hrun, row, hrow, hstatus, hcanceled, ?_⟩
  rcases stuck_nonce_exit hrun hrow hlive hnonce hunpinned 2 with
    ⟨hforeign, -⟩ | ⟨hasked, -⟩
  · rw [hstatus] at hforeign
    cases hforeign
  · exact hasked

end Lazier.Signer
