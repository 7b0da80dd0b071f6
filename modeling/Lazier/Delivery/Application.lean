import Lazier.Delivery.Agreement

/-!
# Applying a receipt to its job

The workflow effect of a pinned receipt, seen from the job of its task: a job
that still waits on the task is moved, and a job that has left the task behind
is in the set that counts as applied.
-/

namespace Lazier.Delivery

open Chain Indexer Ledger Library Manager Store Workflow Option

/-! ## Effects by purpose -/

/-- The effect of a receipt on an executor job. -/
structure ExecutorEffect (task : Task) (txHash : Hash)
    (outcome : ReceiptOutcome) (effect : WorkflowEffect)
    (update : ExecutorStatusUpdate) (statuses : List ExecutorState) : Prop where
  mark : markUpdate effect.mark = some update
  applied : effect.applied = .executor task.guid statuses
  guid : update.guid = task.guid
  expected : awaited task.purpose = some update.expected
  hashes : ∀ hash, update.commitTxHash = some hash ∨
    update.receiveTxHash = some hash → hash = txHash
  outside : update.expected ∉ statuses
  behind : ∀ status, rank update.expected < rank status → status ∈ statuses
  moved : rank update.expected < rank update.next ∧ update.next ≠ .lzReceiveFailed ∧
      update.incrementRetryCount = false ∨
    task.purpose = .executorLzReceive ∧ outcome = .receiptFailed ∧
      update.next = .lzReceiveFailed ∧ update.incrementRetryCount = true ∧
      update.receiveTxHash = some txHash ∧ .lzReceiveFailed ∈ statuses

/-- The effect of a receipt on a DVN job. -/
structure VerifierEffect (task : Task) (txHash : Hash) (effect : WorkflowEffect) : Prop where
  purpose : task.purpose = .dvnVerify
  mark : effect.mark = .verified task.guid txHash ∨ effect.mark = .parkDVN task.guid
  applied : effect.applied = .dvn task.guid [.verified, .manualReview]

variable {task : Task} {txHash : Hash} {outcome : ReceiptOutcome} {effect : WorkflowEffect}

theorem effect_kinds (heffect : outcomeEffect task txHash outcome = some effect) :
    (∃ update statuses, ExecutorEffect task txHash outcome effect update statuses) ∨
      VerifierEffect task txHash effect := by
  cases hpurpose : task.purpose <;> cases outcome <;>
    simp only [outcomeEffect, hpurpose, cancelEffect, receiptEffect,
      reduceCtorEq, if_false, if_true, decide_true, decide_false,
      some.injEq] at heffect <;> subst heffect
  case dvnVerify.confirmed => exact .inr ⟨hpurpose, .inl rfl, rfl⟩
  case dvnVerify.canceled => exact .inr ⟨hpurpose, .inr rfl, rfl⟩
  case executorLzReceive.receiptFailed =>
    refine .inl ⟨_, _, rfl, rfl, rfl, by rw [hpurpose]; rfl, ?_, ?_, ?_,
      .inr ⟨hpurpose, rfl, rfl, rfl, rfl, ?_⟩⟩
    · simp
    · simp
    · intro status
      cases status <;> simp [rank]
    · simp
  all_goals
    refine .inl ⟨_, _, rfl, rfl, rfl, by rw [hpurpose]; rfl, ?_, ?_, ?_,
      .inl ⟨?_, by simp [ExecutorStatusUpdate.move], rfl⟩⟩
    · simp [ExecutorStatusUpdate.move, eq_comm]
    · simp [ExecutorStatusUpdate.move, committedStatuses]
    · intro status
      cases status <;>
        simp [rank, ExecutorStatusUpdate.move, committedStatuses]
    · simp [rank, ExecutorStatusUpdate.move]

/-! ## The status of the job -/

variable {work : WorkTables} {db : DB} {guid : Hash} {status : ExecutorState}

theorem past_iff (hawaited : awaited task.purpose = some status) :
    Past work task ↔ rank status < executorRank work task.guid := by
  rw [Past, progress.eq_def]
  cases hpurpose : task.purpose <;> rw [hpurpose] at hawaited <;>
    cases hawaited <;> simp only [rank] <;> omega

theorem started_iff (hawaited : awaited task.purpose = some status) :
    Started work task ↔ rank status ≤ executorRank work task.guid := by
  rw [Started, progress.eq_def]
  cases hpurpose : task.purpose <;> rw [hpurpose] at hawaited <;>
    cases hawaited <;> simp only [rank] <;> omega

theorem rank_of_awaited (hawaited : awaited task.purpose = some status) : 0 < rank status := by
  cases hpurpose : task.purpose <;> rw [hpurpose] at hawaited <;>
    cases hawaited <;> decide

theorem holds_executor (hsynced : Synced db.work)
    (hstatus : executorStatus db.work guid = some status) (hshown : Shown db.work guid)
    (statuses : List ExecutorState) :
    (AppliedSet.executor guid statuses).holds db = true ↔ status ∈ statuses := by
  have hnonzero := (hsynced guid status hstatus).1
  obtain ⟨shown, hjob, hshown⟩ := hshown
  have hsame : shown = status := some.inj (hjob.symm.trans hstatus)
  obtain ⟨packet, hpacket, hpacketstatus⟩ := map_eq_some_iff.mp hshown
  rw [AppliedSet.holds, getPacket, if_neg hnonzero, hpacket]
  dsimp only
  rw [decide_eq_true_eq, hpacketstatus, hsame]

theorem ne_zero_of_dvnStatus {next : DVNState} (hzero : dvnStatus work Hash.zero = none)
    (hstatus : dvnStatus work guid = some next) : guid ≠ Hash.zero := by
  rintro rfl
  rw [hzero] at hstatus
  cases hstatus

theorem holds_dvn {next : DVNState} (hzero : dvnStatus db.work Hash.zero = none)
    (hstatus : dvnStatus db.work guid = some next) (statuses : List DVNState) :
    (AppliedSet.dvn guid statuses).holds db = true ↔ next ∈ statuses := by
  obtain ⟨job, hjob, hjobstatus⟩ := map_eq_some_iff.mp hstatus
  rw [AppliedSet.holds, getDVNJob, if_neg (ne_zero_of_dvnStatus hzero hstatus), hjob]
  dsimp only [map_some]
  rw [decide_eq_true_eq, ← hjobstatus]
  rfl

/-! ## The store call of an effect -/

section Marks

variable {db : DB} {now : Time} {task : Task} {txHash : Hash}
  {outcome : ReceiptOutcome} {effect : WorkflowEffect}
  {update : ExecutorStatusUpdate} {statuses : List ExecutorState}

theorem updateExecutorStatus_ok (hguid : update.guid ≠ Hash.zero)
    (hhash : update.incrementRetryCount → update.receiveTxHash ≠ none)
    (hstatus : executorStatus db.work update.guid = some update.expected) :
    (updateExecutorStatus db now update).2 = .ok () := by
  have hupdates := updateExecutorStatus_updates db now update
  generalize updateExecutorStatus db now update = result at hupdates
  cases hupdates with
  | refused error hrefused =>
    rcases hrefused with hzero | ⟨hcounts, hnone⟩ | hother
    · exact absurd hzero hguid
    · exact absurd hnone (hhash hcounts)
    · exact absurd hstatus hother
  | repeated | moved => rfl

theorem updateExecutorStatus_repeated (hguid : update.guid ≠ Hash.zero)
    (hcounts : update.incrementRetryCount) (hhash : update.receiveTxHash = some txHash)
    (hrecorded : (db.work.receiveFailures.find ⟨update.guid, txHash⟩).isSome) :
    updateExecutorStatus db now update = commit db () := by
  rw [updateExecutorStatus, if_neg hguid, if_neg (by simp [hhash])]
  dsimp only
  rw [if_pos ⟨hcounts, by rw [hhash]; exact hrecorded⟩]

/-- An update that was accepted has moved the job or found its failure. -/
theorem updateExecutorStatus_accepted (hok : (updateExecutorStatus db now update).2 = .ok ()) :
    executorStatus (updateExecutorStatus db now update).1.work update.guid = some update.next ∧
      (update.incrementRetryCount →
        ((updateExecutorStatus db now update).1.work.receiveFailures.find
          (chargedFailure update)).isSome) ∨ update.incrementRetryCount ∧
      ((updateExecutorStatus db now update).1.work.receiveFailures.find
        (chargedFailure update)).isSome := by
  have hupdates := updateExecutorStatus_updates db now update
  generalize updateExecutorStatus db now update = result at hupdates hok
  cases hupdates with
  | refused error hrefused => cases hok
  | repeated hcounts _ hrecorded => exact .inr ⟨hcounts, hrecorded⟩
  | moved job hguid hjob hstatus hfresh =>
    refine .inl ⟨advance_status_self hjob, fun hcounts => ?_⟩
    change ((advance db.work now update job).receiveFailures.find _).isSome
    have hself : (db.work.receiveFailures.insertNew
        (chargedFailure update)).find (id (chargedFailure update)) = some (chargedFailure update) :=
      Table.find_insertNew_self (hfresh hcounts).2
    rw [advance_receiveFailures, chargedFailures, if_pos hcounts]
    exact hself ▸ rfl

theorem updateDVNStatus_ok {update : DVNStatusUpdate} (hguid : update.guid ≠ Hash.zero)
    (hstatus : dvnStatus db.work update.guid = some update.expected) :
    (updateDVNStatus db now update).2 = .ok () := by
  obtain ⟨job, hjob, hjobstatus⟩ := map_eq_some_iff.mp hstatus
  rw [updateDVNStatus, if_neg hguid, hjob]
  dsimp only
  rw [if_pos hjobstatus]
  rfl

theorem updateDVNStatus_accepted {update : DVNStatusUpdate}
    (hok : (updateDVNStatus db now update).2 = .ok ()) :
    dvnStatus (updateDVNStatus db now update).1.work update.guid = some update.next := by
  unfold updateDVNStatus at hok ⊢
  split at hok
  · cases hok
  rename_i hguid
  rw [if_neg hguid]
  split at hok
  · cases hok
  rename_i job hjob
  split at hok
  · rename_i hstatus
    rw [if_pos hstatus]
    exact (dvnStatus_of_set hjob (by rfl) update.guid).trans (if_pos rfl)
  · cases hok

/-- The store call of an effect on an executor job, whose hash is given. -/
theorem ExecutorEffect.call (hexecutor : ExecutorEffect task txHash outcome effect update statuses)
    (hhash : txHash ≠ Hash.zero) :
    effect.mark.call db now = updateExecutorStatus db now update := by
  rcases mark_updates hexecutor.mark db now with ⟨error, -, hzero⟩ | hcall
  · exact absurd (hexecutor.hashes _ hzero).symm hhash
  · exact hcall

theorem ExecutorEffect.counted
    (hexecutor : ExecutorEffect task txHash outcome effect update statuses)
    (hcounts : update.incrementRetryCount = true) :
    task.purpose = .executorLzReceive ∧ outcome = .receiptFailed ∧
      chargedFailure update = ⟨task.guid, txHash⟩ := by
  rcases hexecutor.moved with ⟨-, -, hfree⟩ | ⟨hpurpose, houtcome, -, -, hreceive, -⟩
  · rw [hfree] at hcounts
    cases hcounts
  · refine ⟨hpurpose, houtcome, ?_⟩
    rw [chargedFailure, hexecutor.guid, hreceive]
    rfl

variable (heffect : outcomeEffect task txHash outcome = some effect)

include heffect

theorem outcome_of_failed (hupdate : markUpdate effect.mark = some update)
    (hnext : update.next = .lzReceiveFailed) :
    update.guid = task.guid ∧ task.purpose = .executorLzReceive ∧
      outcome = .receiptFailed ∧ update.expected = .lzReceiveTxEnqueued := by
  rcases effect_kinds heffect with ⟨other, statuses, hexecutor⟩ | hverifier
  · have hsame := hexecutor.mark
    rw [hupdate] at hsame
    cases hsame
    rcases hexecutor.moved with ⟨-, hother, -⟩ | ⟨hpurpose, houtcome, -⟩
    · exact absurd hnext hother
    · have hexpected := hexecutor.expected
      rw [hpurpose] at hexpected
      exact ⟨hexecutor.guid, hpurpose, houtcome, (some.inj hexpected).symm⟩
  · rcases hverifier.mark with hmark | hmark <;> rw [hmark] at hupdate <;>
      cases hupdate

theorem mark_of_recorded (hguid : task.guid ≠ Hash.zero) (hhash : txHash ≠ Hash.zero)
    (hpurpose : task.purpose = .executorLzReceive) (houtcome : outcome = .receiptFailed)
    (hrecorded : (db.work.receiveFailures.find ⟨task.guid, txHash⟩).isSome) :
    effect.mark.call db now = commit db () := by
  rw [outcomeEffect, hpurpose, houtcome] at heffect
  cases heffect
  rw [WorkflowMark.call, markExecutorReceiveFailed, markExecutorReceiveFailedObserved, if_neg hhash]
  exact updateExecutorStatus_repeated hguid rfl rfl hrecorded

/-- After an accepted call the job has left the task behind, or the failure of
a delivery is recorded. -/
theorem past_of_mark (hhash : txHash ≠ Hash.zero) (hok : (effect.mark.call db now).2 = .ok ()) :
    Past (effect.mark.call db now).1.work task ∨
      task.purpose = .executorLzReceive ∧ outcome = .receiptFailed ∧
        ((effect.mark.call db now).1.work.receiveFailures.find ⟨task.guid, txHash⟩).isSome := by
  rcases effect_kinds heffect with ⟨update, statuses, hexecutor⟩ | hverifier
  · rw [hexecutor.call hhash] at hok ⊢
    by_cases hcounts : update.incrementRetryCount = true
    · obtain ⟨hpurpose, houtcome, hcharged⟩ := hexecutor.counted hcounts
      right
      refine ⟨hpurpose, houtcome, ?_⟩
      rw [← hcharged]
      rcases updateExecutorStatus_accepted hok with ⟨-, hrecorded⟩ | ⟨-, hrecorded⟩
      · exact hrecorded hcounts
      · exact hrecorded
    · left
      rcases updateExecutorStatus_accepted hok with ⟨hstatus, -⟩ | ⟨hbad, -⟩
      · rw [past_iff hexecutor.expected, ← hexecutor.guid, executorRank_eq hstatus]
        rcases hexecutor.moved with ⟨hrank, -, -⟩ | ⟨-, -, -, hbad, -⟩
        · exact hrank
        · exact absurd hbad hcounts
      · exact absurd hbad hcounts
  · left
    rw [Past, progress.eq_def, hverifier.purpose]
    dsimp only
    rcases hverifier.mark with hmark | hmark <;>
      rw [hmark, WorkflowMark.call] at hok ⊢
    · rw [markDVNVerified, markDVNVerifiedObserved, if_neg hhash] at hok ⊢
      rw [updateDVNStatus_accepted hok]
      rfl
    · rw [markDVNManualReview, if_neg (by decide)] at hok ⊢
      rw [updateDVNStatus_accepted hok]
      rfl

variable {system : System} (hcoherent : Coherent system)

include hcoherent

theorem mark_of_waits (hhash : txHash ≠ Hash.zero) (hwaits : Waits system.db.work task) :
    (effect.mark.call system.db now).2 = .ok () := by
  rcases effect_kinds heffect with ⟨update, statuses, hexecutor⟩ | hverifier
  · have hstatus := (waits_iff hexecutor.expected).mp hwaits
    rw [hexecutor.call hhash]
    refine updateExecutorStatus_ok ?_ ?_ ?_
    · exact hexecutor.guid ▸ (hcoherent.synced _ _ hstatus).1
    · intro hcounts
      rcases hexecutor.moved with ⟨-, -, hfree⟩ | ⟨-, -, -, -, hreceive, -⟩
      · rw [hfree] at hcounts
        cases hcounts
      · rw [hreceive]
        simp
    · exact hexecutor.guid ▸ hstatus
  · rw [Waits, WaitsOn.eq_def, hverifier.purpose] at hwaits
    have hguid := ne_zero_of_dvnStatus hcoherent.verifiers hwaits
    rcases hverifier.mark with hmark | hmark <;> rw [hmark, WorkflowMark.call]
    · rw [markDVNVerified, markDVNVerifiedObserved, if_neg hhash]
      exact updateDVNStatus_ok hguid hwaits
    · rw [markDVNManualReview, if_neg (by decide)]
      exact updateDVNStatus_ok hguid hwaits

theorem not_waits_of_holds (hholds : effect.applied.holds system.db = true) :
    ¬ Waits system.db.work task := by
  intro hwaits
  rcases effect_kinds heffect with ⟨update, statuses, hexecutor⟩ | hverifier
  · have hstatus := (waits_iff hexecutor.expected).mp hwaits
    rw [hexecutor.applied, holds_executor hcoherent.synced hstatus
      (hcoherent.synced.shown hstatus (late_of_awaited hexecutor.expected))] at hholds
    exact hexecutor.outside hholds
  · rw [Waits, WaitsOn.eq_def, hverifier.purpose] at hwaits
    rw [hverifier.applied, holds_dvn hcoherent.verifiers hwaits] at hholds
    simp at hholds

theorem holds_of_past {id : ℕ} (hphase : phaseAt system.db.tx task id ≠ none)
    (hpast : Past system.db.work task) : effect.applied.holds system.db = true := by
  rcases effect_kinds heffect with ⟨update, statuses, hexecutor⟩ | hverifier
  · have hrank := (past_iff hexecutor.expected).mp hpast
    obtain ⟨status, hstatus, hsame⟩ := exists_status_of_rank (Nat.zero_lt_of_lt hrank)
    rw [hsame] at hrank
    have hexpected : awaited task.purpose ≠ none := by
      rw [hexecutor.expected]
      simp
    rw [hexecutor.applied, holds_executor hcoherent.synced hstatus
      (hcoherent.shown task hexpected id hphase)]
    exact hexecutor.behind status hrank
  · rw [Past, progress.eq_def, hverifier.purpose] at hpast
    dsimp only at hpast
    cases hstatus : dvnStatus system.db.work task.guid with
    | none =>
      rw [hstatus] at hpast
      cases hpast
    | some status =>
      rw [hverifier.applied, holds_dvn hcoherent.verifiers hstatus]
      rw [hstatus] at hpast
      cases status <;> simp [verifierRank] at hpast ⊢

end Marks

end Lazier.Delivery
