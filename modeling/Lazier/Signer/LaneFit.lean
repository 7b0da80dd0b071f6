import Lazier.Signer.BoundedSpend

/-!
# Statuses and the attempts they meet

The status of a live row says how far its active attempt got: a row in status
signed has an attempt still to be sent, and a row held for its price or its
broadcast budget has one that a node may hold.  A failed signature can park a
row under any attempt, but only under a lease, and the peek behind the lease saw
an attempt that had been sent.
-/

namespace Lazier.Signer

open Library Store Ledger Manager SerialTable Option

variable {tx : TxTables} {row : OutboxRow} {attempt : AttemptRow} {op : TxOp}

/-! ## States of an attempt -/

/-- No attempt is ever rejected, an accepted one is out of its sender's hands,
and an attempt is sent by being claimed. -/
structure AttemptFit (attempt : AttemptRow) : Prop where
  kept : attempt.state ≠ .rejected
  accepted : attempt.state = .submitted → attempt.broadcastLease = none
  claimed : attempt.state.sent = true → 0 < attempt.broadcastCount

/-- The active attempts that the status of a live row can meet. -/
def StatusFits (status : TxStatus) (attempt : AttemptRow) : Prop :=
  match status with
  | .signed => attempt.state = .signed ∨ attempt.state = .ambiguous
  | .held .repriceRequired => attempt.state.sent = true
  | .held .broadcastExhausted => attempt.state.sent = true
  | .held .manual => attempt.kind = .cancel → attempt.state.sent = true
  | _ => True

def RowFits (tx : TxTables) (row : OutboxRow) : Prop := row.status.terminal = false →
    ∀ attempt, activeAttempt tx row = some attempt → StatusFits row.status attempt

structure Fit (tx : TxTables) : Prop where
  attempts : ∀ attempt ∈ tx.attempts, AttemptFit attempt
  rows : ∀ row ∈ tx.outbox, RowFits tx row

theorem Fit.empty : Fit TxTables.empty where
  attempts attempt hattempt := absurd hattempt (not_mem_empty attempt)
  rows row hrow := absurd hrow (not_mem_empty row)

/-- An attempt that a node may hold, on a live row. -/
theorem sent_of_claimed (hsound : Sound tx) (hrow : row ∈ tx.outbox)
    (hlive : row.status.terminal = false) (hattempt : attempt ∈ tx.attempts)
    (howner : attempt.outboxID = row.id) (hclaimed : 0 < attempt.broadcastCount) :
    attempt.state.sent = true := by
  have hfit := hsound.attempts attempt hattempt
  rcases hfit.sent hclaimed with hstate | hstate | hstate
  · rw [hstate]
    rfl
  · rw [hstate]
    rfl
  · rw [hfit.mined hstate row hrow howner.symm] at hlive
    cases hlive

/-! ## Rows beside an effect -/

theorem activeAttempt_setAttempt_of_ne {new : AttemptRow}
    (hne : row.activeAttemptID ≠ some new.id) :
    activeAttempt (tx.setAttempt new) row = activeAttempt tx row := by
  unfold activeAttempt
  split
  · rfl
  · rename_i id hid
    have hother : id ≠ new.id := by
      rintro rfl
      exact hne hid
    rw [TxTables.setAttempt, find_set_of_ne hother]

theorem RowFits.same {old new : TxTables} {before after : OutboxRow}
    (hfits : RowFits old before) (hattempts : new.attempts = old.attempts)
    (hid : after.id = before.id) (hstatus : after.status = before.status)
    (hactive : after.activeAttemptID = before.activeAttemptID) :
    RowFits new after := by
  intro hlive attempt hfound
  rw [hstatus] at hlive ⊢
  refine hfits hlive attempt ?_
  rw [activeAttempt_eq_some, hattempts, hid, hactive] at hfound
  exact activeAttempt_eq_some.mpr hfound

theorem RowFits.of_trivial (htrivial : ∀ attempt, StatusFits row.status attempt) : RowFits tx row :=
  fun _ attempt _ => htrivial attempt

theorem RowFits.of_ended (hended : row.status.terminal = true) : RowFits tx row := by
  intro hlive
  rw [hended] at hlive
  cases hlive

theorem Fit.setRow {new : OutboxRow} (hfit : Fit tx) (hnew : RowFits tx new) :
    Fit (tx.setRow new) where
  attempts := hfit.attempts
  rows row hrow := by
    rcases mem_setRow hrow with rfl | ⟨hold, -⟩
    · exact hnew
    · exact hfit.rows row hold

theorem Fit.setCursor (hfit : Fit tx) (cursor : NonceCursor) : Fit (tx.setCursor cursor) where
  attempts := hfit.attempts
  rows row hrow := (hfit.rows row hrow).same rfl rfl rfl rfl

theorem Fit.addRow {new : OutboxRow} {hid : new.id = tx.outbox.next} (hfit : Fit tx)
    (hnew : RowFits tx new) : Fit (tx.addRow new hid) where
  attempts := hfit.attempts
  rows row hrow := by
    rcases mem_addRow hid hrow with hold | rfl
    · exact hfit.rows row hold
    · exact hnew

/-- An attempt is written that is the active one of no live row, or of one that
still fits. -/
theorem Fit.setAttempt {old new : AttemptRow} (hfit : Fit tx) (hold : old ∈ tx.attempts)
    (hid : new.id = old.id) (howner : new.outboxID = old.outboxID) (hnew : AttemptFit new)
    (hrows : ∀ row ∈ tx.outbox, row.status.terminal = false →
      activeAttempt tx row = some old → StatusFits row.status new) : Fit (tx.setAttempt new) where
  attempts attempt hattempt := by
    rcases mem_setAttempt hattempt with rfl | ⟨hother, -⟩
    · exact hnew
    · exact hfit.attempts attempt hother
  rows row hrow hlive attempt hactive := by
    by_cases hpointer : row.activeAttemptID = some new.id
    · -- The pointer names the written attempt, so the join found its old row.
      obtain ⟨hmem, hpointer', hrowOwner⟩ := activeAttempt_eq_some.mp hactive
      have hsame : attempt = new := by
        rw [hpointer, some.injEq] at hpointer'
        exact eq_of_key_eq hmem (mem_set_self hold hid) hpointer'.symm
      subst hsame
      refine hrows row hrow hlive (activeAttempt_eq_some.mpr ⟨hold, ?_,
        howner.symm.trans hrowOwner⟩)
      rw [hpointer, hid]
    · rw [activeAttempt_setAttempt_of_ne hpointer] at hactive
      exact hfit.rows row hrow hlive attempt hactive

/-- A new attempt is still to be sent, and its row has a status that says so. -/
theorem Fit.persisted {signed : SignedAttempt} {new : OutboxRow} (hfit : Fit tx)
    (hid : new.id = row.id) (hpointer : new.activeAttemptID = some tx.attempts.next)
    (hstatus : new.status = .signed ∨ new.status = .broadcast) :
    Fit ((tx.addAttempt (signed.toRow tx.attempts.next row.id) rfl).setRow new) where
  attempts attempt hattempt := by
    rcases mem_addAttempt rfl hattempt with hold | rfl
    · exact hfit.attempts attempt hold
    · exact ⟨by simp [SignedAttempt.toRow], by simp [SignedAttempt.toRow],
        by simp [SignedAttempt.toRow, AttemptState.sent]⟩
  rows other hother hlive attempt hactive := by
    obtain ⟨hmem, hactivePointer, howner⟩ := activeAttempt_eq_some.mp hactive
    rcases mem_setRow hother with rfl | ⟨hold, hne⟩
    · have hsame : attempt = signed.toRow tx.attempts.next row.id := by
        rw [hpointer, some.injEq] at hactivePointer
        exact eq_of_key_eq hmem (mem_append_self rfl) hactivePointer.symm
      rcases hstatus with hstatus | hstatus
      · rw [hstatus, hsame]
        exact .inl rfl
      · rw [hstatus]
        trivial
    · rcases mem_addAttempt rfl hmem with hknown | rfl
      · exact hfit.rows other hold hlive attempt
          (activeAttempt_eq_some.mpr ⟨hknown, hactivePointer, howner⟩)
      · exact absurd (hid.trans howner) (Ne.symm hne)

/-! ## Calls -/

/-- A leased row whose active attempt is a cancel has sent it. -/
def LeasedSent (tx : TxTables) : Prop :=
  ∀ row ∈ tx.outbox, row.status.terminal = false → row.lease ≠ none →
    ∀ attempt, activeAttempt tx row = some attempt → attempt.kind = .cancel →
      attempt.state.sent = true

theorem attemptFit_claimBroadcast (hstate : attempt.state = .signed ∨ attempt.state = .ambiguous)
    (now : Time) (token : UUID) (leaseTTL : Duration) :
    AttemptFit (attempt.claimBroadcast now token leaseTTL) := by
  refine ⟨?_, ?_, fun _ => Nat.succ_pos _⟩ <;>
    rcases hstate with hstate | hstate <;>
    simp [AttemptRow.claimBroadcast, hstate]

theorem AttemptFit.sendResult (hfit : AttemptFit attempt) (hcount : 0 < attempt.broadcastCount)
    (sendClass : SendClass) (sendErr : String) :
    AttemptFit (attempt.sendResult sendClass sendErr) := by
  refine ⟨?_, fun _ => rfl, fun _ => hcount⟩
  unfold AttemptRow.sendResult
  dsimp only
  split
  · simp
  · exact hfit.kept

theorem Fit.parkExhaustedLanes (hfit : Fit tx) (now : Time) (lane : Lane) :
    Fit (parkExhaustedLanes tx now lane) where
  attempts := hfit.attempts
  rows row hrow := by
    obtain ⟨old, hold, rfl⟩ := mem_mapRows.mp hrow
    have hfits := hfit.rows old hold
    unfold parkExhausted
    split
    · rename_i hexhausted
      intro _ attempt hactive
      have hactive' : activeAttempt tx old = some attempt :=
        activeAttempt_eq_some.mpr (activeAttempt_eq_some.mp hactive)
      simp only [broadcastExhausted, hactive', Bool.and_eq_true, decide_eq_true_eq] at hexhausted
      have hstate := hexhausted.2.1.1
      show attempt.state.sent = true
      rw [hstate]
      rfl
    · intro hlive attempt hactive
      exact hfits hlive attempt (activeAttempt_eq_some.mpr (activeAttempt_eq_some.mp hactive))

theorem statusFits_ambiguous (hstate : attempt.state = .ambiguous) {status : TxStatus} :
    StatusFits status attempt := by
  unfold StatusFits
  split <;> simp [hstate, AttemptState.sent]

/-- An attempt on lease has been sent and not been accepted. -/
theorem ambiguous_of_leased (hsound : Sound tx) (hfit : Fit tx) (hrow : row ∈ tx.outbox)
    (hlive : row.status.terminal = false) (hattempt : attempt ∈ tx.attempts)
    (howner : attempt.outboxID = row.id) (hleased : attempt.broadcastLease ≠ none) :
    attempt.state = .ambiguous := by
  have hsent := hsound.attempts attempt hattempt
  rcases hsent.sent (hsent.leased hleased) with hstate | hstate | hstate
  · exact hstate
  · exact absurd ((hfit.attempts attempt hattempt).accepted hstate) hleased
  · rw [hsent.mined hstate row hrow howner.symm] at hlive
    cases hlive

theorem leased_ne_none {lease : Option Lease} {token : UUID} {now : Time}
    (hleased : leaseHeldBy lease token now = true) : lease ≠ none := by
  rintro rfl
  cases hleased

theorem fit_effect {after : TxTables} (hsound : Sound tx) (hfit : Fit tx)
    (hleasedSent : LeasedSent tx) (heffect : Effect tx op after) : Fit after := by
  cases heffect with
  | cursors houtbox hattempts =>
    refine ⟨fun attempt hattempt => ?_, fun row hrow => ?_⟩
    · exact hfit.attempts attempt (hattempts ▸ hattempt)
    · exact (hfit.rows row (houtbox ▸ hrow)).same hattempts rfl rfl rfl
  | noted _ _ _ _ _ hrow _ | replacing hrow _ _ _ _ | canceling hrow _ _ _ _
  | replacementRequested _ hrow _ | cancelRequested _ hrow _ _ _ =>
    exact hfit.setRow ((hfit.rows _ (mem_of_find hrow)).same rfl
      rfl rfl rfl)
  | assigned hrow _ _ _ _ =>
    refine Fit.setCursor (hfit.setRow ?_) _
    exact .of_trivial fun _ => trivial
  | signing hrow _ _ _ _ => exact hfit.setRow (.of_trivial fun _ => trivial)
  | signed _ _ _ _ => exact hfit.persisted rfl rfl (.inl rfl)
  | @replaced _ _ _ _ row _ _ _ _ _ hclaimable _ _ =>
    refine hfit.persisted rfl rfl ?_
    cases hstatus : row.status <;>
      simp_all [replacementClaimable, persistedRow, replacedStatus]
  | @canceled _ _ _ _ row _ _ _ _ _ _ hallowed _ =>
    refine hfit.persisted rfl rfl ?_
    cases hstatus : row.status <;>
      simp_all [TxStatus.cancelAllowed, TxStatus.cancelable, persistedRow, canceledStatus]
  | parked => exact hfit.parkExhaustedLanes _ _
  | @broadcast now lane token leaseTTL _ row attempt hpick =>
    obtain ⟨hmem, hactive, -, hstate, -⟩ := broadcastPick_spec hpick
    have hattempt := (activeAttempt_eq_some.mp hactive).1
    refine (hfit.parkExhaustedLanes now lane).setAttempt hattempt rfl rfl
      (attemptFit_claimBroadcast hstate now token leaseTTL) ?_
    intro other hother _ hotherActive
    obtain ⟨-, -, howner⟩ := activeAttempt_eq_some.mp hactive
    obtain ⟨-, -, hotherOwner⟩ := activeAttempt_eq_some.mp hotherActive
    obtain rfl : other = row := eq_of_key_eq hother hmem (hotherOwner.symm.trans howner)
    apply statusFits_ambiguous
    rcases hstate with hstate | hstate <;>
      simp [AttemptRow.claimBroadcast, hstate]
  | @outdated _ attempt _ sendClass sendErr hattempt hleased houtdated =>
    have hmem := mem_of_find hattempt
    refine hfit.setAttempt hmem rfl rfl ((hfit.attempts _ hmem).sendResult
      ((hsound.attempts _ hmem).leased (leased_ne_none hleased)) _ _) ?_
    intro row hrow hlive hactive
    obtain ⟨-, hpointer, howner⟩ := activeAttempt_eq_some.mp hactive
    have hfind : tx.outbox.find attempt.outboxID = some row := by
      rw [howner]
      exact find_of_mem hrow
    rw [houtdated row hfind hpointer] at hlive
    cases hlive
  | @reported now attempt _ sendClass sendErr row hattempt hleased howner hrow hactive hlive =>
    have hmem := mem_of_find hattempt
    have hrowMem := mem_of_find hrow
    have hstate := ambiguous_of_leased hsound hfit hrowMem hlive hmem howner
      (leased_ne_none hleased)
    have hwritten : Fit (tx.setRow (reportedRow now sendClass row)) := by
      refine hfit.setRow fun _ other hother => ?_
      obtain ⟨hotherMem, hpointer, -⟩ := activeAttempt_eq_some.mp hother
      have hsame : attempt.id = other.id := some.inj (hactive.symm.trans hpointer)
      rw [← eq_of_key_eq hmem hotherMem hsame]
      exact statusFits_ambiguous hstate
    refine hwritten.setAttempt hmem rfl rfl ((hfit.attempts _ hmem).sendResult
      ((hsound.attempts _ hmem).leased (leased_ne_none hleased)) _ _) ?_
    intro other hother _ hotherActive
    rcases mem_setRow hother with rfl | ⟨-, hne⟩
    · cases sendClass <;> simp [reportedRow, mapSendClassToOutbox, StatusFits,
        AttemptRow.sendResult, hstate, AttemptState.sent]
    · obtain ⟨-, -, hotherOwner⟩ := activeAttempt_eq_some.mp hotherActive
      exact absurd (hotherOwner.symm.trans howner) hne
  | @charged now _ row hrow hleased hlive =>
    have hmem := mem_of_find hrow
    refine hfit.setRow ?_
    by_cases hparked : txMaxPreSignFailures ≤ row.preSignFailureCount + 1
    · have hstatus : (chargedRow now row).status = .held .manual := if_pos hparked
      intro _ attempt hactive
      rw [hstatus]
      exact hleasedSent row hmem hlive (leased_ne_none hleased) attempt
        (activeAttempt_eq_some.mpr (activeAttempt_eq_some.mp hactive))
    · exact (hfit.rows row hmem).same rfl rfl (if_neg hparked) rfl
  | @reconciled now _ _ confirmedNonce _ backoff _ decisions evidence cursor _ _ =>
    have hdecided := decided_applyDecisions now evidence decisions
      (tx.setCursor (cursor.publish now confirmedNonce backoff), 0)
    refine ⟨fun attempt hattempt => ?_, fun row hrow => ?_⟩
    · rw [hdecided.attempts] at hattempt
      exact hfit.attempts attempt hattempt
    obtain ⟨old, hold, hrel⟩ := hdecided.back hrow
    cases hrel with
    | kept => exact (hfit.rows _ hold).same hdecided.attempts rfl rfl rfl
    | external => exact .of_trivial fun _ => trivial
    | @released active _ hheld _ hactive =>
      intro _ attempt hfound
      dsimp only [releasedStatus]
      split
      · rename_i hexhausted
        obtain ⟨id, hpointer, hfind⟩ := bind_eq_some_iff.mp hactive
        obtain ⟨hmem, hid⟩ := find_eq_some.mp hfind
        rw [activeAttempt_eq_some, hdecided.attempts] at hfound
        obtain ⟨hattempt, hsame, howner⟩ := hfound
        have heq : attempt = active := by
          refine eq_of_key_eq hattempt hmem ?_
          rw [hid]
          exact some.inj (hsame.symm.trans hpointer)
        have hclaimed : 0 < attempt.broadcastCount := by
          rw [heq]
          exact lt_of_lt_of_le (by decide) hexhausted.2
        exact sent_of_claimed hsound hold (by rw [hheld]; rfl) hattempt howner hclaimed
      · trivial

theorem fit_retry {db : DB} {result : Result ℕ} (hfit : Fit db.tx)
    (hresult : RetryResult db op result) : Fit result.1.tx := by
  have hended : ∀ row : OutboxRow, row.status = .failed → RowFits db.tx row := by
    intro row hfailed
    refine .of_ended ?_
    rw [hfailed]
    rfl
  cases hresult with
  | refused => exact hfit
  | deferred row now _ _ _ hfailed _ => exact hfit.setRow (hended _ hfailed)
  | requeued row now _ _ _ _ _ _ => exact hfit.setRow (.of_trivial fun _ => trivial)
  | settled row now _ hrow _ => exact hfit.setRow (hended _ hrow.failed)
  | cloned row now _ hrow _ _ _ =>
    have hclone : RowFits db.tx (cloneRow db.tx.outbox.next now row) := .of_trivial fun _ => trivial
    exact (hfit.addRow hclone).setRow (hended _ hrow.failed)

theorem fit_txOp {db : DB} (hsound : Sound db.tx) (hfit : Fit db.tx)
    (hleasedSent : LeasedSent db.tx) : Fit (op.apply db).tx := by
  have heffect := txOp_effect db op
  generalize hpost : op.apply db = post at heffect
  cases heffect with
  | unchanged => exact hfit
  | quiet hop _ =>
    rw [← hpost]
    exact fit_effect hsound hfit hleasedSent (quiet_effect db op hop)
  | enqueuedTx | enqueuedPricing | enqueuedExecutor | enqueuedDVN =>
    exact hfit.addRow (.of_trivial fun _ => trivial)
  | reverted | abandoned => exact hfit.setRow (.of_ended rfl)
  | operatorRetry hresult | automaticRetry hresult => exact fit_retry hfit hresult
  | pinned hreceipt _ _ =>
    exact hfit.setRow ((hfit.rows _ (mem_of_find hreceipt.owner)).same rfl rfl rfl rfl)
  | @finalized now clock _ facts attempt row pinned hreceipt _ _ =>
    have hended : Fit (db.tx.setRow (row.finalize now clock attempt pinned.outcome facts)) :=
      hfit.setRow (.of_ended (finalStatus_terminal pinned.outcome))
    refine hended.setAttempt (mem_of_find hreceipt.found) rfl rfl
      ⟨by simp, by simp, by simp [AttemptState.sent]⟩ ?_
    intro other hother hlive hactive
    rcases mem_setRow hother with rfl | ⟨-, hne⟩
    · rw [OutboxRow.finalize, finalStatus_terminal] at hlive
      cases hlive
    · obtain ⟨-, -, howner⟩ := activeAttempt_eq_some.mp hactive
      have hid := (find_eq_some.mp hreceipt.owner).2
      exact absurd (howner.symm.trans hid.symm) hne
  | @resolved now row hrow _ _ _ =>
    have hclone : RowFits db.tx (cloneRow db.tx.outbox.next now row) := .of_trivial fun _ => trivial
    exact (hfit.setRow (.of_ended rfl)).addRow hclone

end Lazier.Signer
