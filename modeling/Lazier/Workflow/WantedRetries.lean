import Lazier.Ledger.RetryChains

/-!
# Retries and the jobs that own them

A retry returns a failed task to the queue.  The task is still wanted when the
job that owns it waits on its transaction.  Only the retry of a reverted
delivery looks at the job; the other paths take the task back as it is.
-/

namespace Lazier.Workflow

open Library Ledger Store SerialTable Option

variable {work : WorkTables} {row : OutboxRow}

/-- The job that owns a task of this purpose waits on its transaction. -/
def WaitsOn (work : WorkTables) (purpose : Purpose) (guid : Hash) : Prop :=
  match purpose with
  | .executorCommitVerification =>
    executorStatus work guid = some .commitTxEnqueued
  | .executorLzReceive => executorStatus work guid = some .lzReceiveTxEnqueued
  | .dvnVerify => dvnStatus work guid = some .verifyTxEnqueued
  | _ => True

theorem requireWorkflowEnqueued_iff {purpose : Purpose} {guid : Hash} :
    requireWorkflowEnqueued work purpose guid = .ok () ↔ WaitsOn work purpose guid := by
  cases purpose <;>
    simp only [requireWorkflowEnqueued, WaitsOn, executorStatus, dvnStatus]
  case executorCommitVerification | executorLzReceive =>
    cases hjob : work.executorJobs.find guid with
    | none => simp
    | some job =>
      dsimp only
      split <;> simp_all
  case dvnVerify =>
    cases hjob : work.dvnJobs.find guid with
    | none => simp
    | some job =>
      dsimp only
      split <;> simp_all

/-- The owning job waits on the task of this row. -/
def Wanted (work : WorkTables) (row : OutboxRow) : Prop :=
  ∃ guid : Hash, row.guid = some guid.1 ∧ WaitsOn work row.purpose guid

theorem Wanted.congr {left right : OutboxRow} (hguid : left.guid = right.guid)
    (hpurpose : left.purpose = right.purpose) : Wanted work left ↔ Wanted work right := by
  rw [Wanted, Wanted, hguid, hpurpose]

/-! ## The two retry methods -/

inductive RetryMethod
  | retryFailedTx (id : ℕ)
  | prepareNextFailedTxRetry (lane : Lane) (locked : List ℕ)

def RetryMethod.call (db : DB) (now : Time) : RetryMethod → Result ℕ
  | .retryFailedTx id => Store.retryFailedTx db now id
  | .prepareNextFailedTxRetry lane locked =>
    Store.prepareNextFailedTxRetry db now lane locked

/-- The failed row the method works on. -/
def RetryMethod.target (tx : TxTables) (now : Time) : RetryMethod → Option OutboxRow
  | .retryFailedTx id => tx.outbox.find id
  | .prepareNextFailedTxRetry lane locked => autoRetryRow tx now lane locked

def RetryMethod.op (now : Time) : RetryMethod → TxOp
  | .retryFailedTx id => .retryFailedTx now id
  | .prepareNextFailedTxRetry lane locked =>
    .prepareNextFailedTxRetry now lane locked

theorem RetryMethod.result (db : DB) (now : Time) (method : RetryMethod) :
    RetryResult db (method.op now) (method.call db now) := by
  cases method with
  | retryFailedTx id => exact retryFailedTx_result db now id
  | prepareNextFailedTxRetry lane locked => exact prepareNextFailedTxRetry_result db now lane locked

theorem RetryMethod.target_eq {tx : TxTables} {now : Time} {method : RetryMethod}
    (hcall : RetryCall tx row (method.op now)) (hfound : tx.outbox.find row.id = some row) :
    method.target tx now = some row := by
  cases method with
  | retryFailedTx id => cases hcall with
    | operator => exact hfound
  | prepareNextFailedTxRetry lane locked => cases hcall with
    | automatic _ hselected => exact hselected

/-- A reverted delivery: the transaction that clones it first puts its job
back. -/
def RestoresJob (row : OutboxRow) : Prop :=
  row.purpose = .executorLzReceive ∧ row.guid ≠ none ∧ row.nonce ≠ none ∧
    row.failureKind = some .receiptFailed

theorem restoreDelivery_status {guid : Hash} {job : ExecutorJobRow} (now : Time)
    (hjob : work.executorJobs.find guid = some job) :
    executorStatus (restoreDelivery work now guid job) guid = some .lzReceiveTxEnqueued := by
  rw [executorStatus, restoreDelivery, casPacketStatus_executorJobs,
    setExecutorJob_find_self hjob (restatedJob now _ none job) rfl]
  rfl

/-- The job beside a clone waits on it if the delivery was restored, or if it
waited on the cloned row. -/
theorem wanted_restores {db : DB} {op : TxOp} (hrow : Cloneable db op row)
    (hwork : Restores db.work row work) :
    Wanted work row ↔ RestoresJob row ∨ Wanted db.work row := by
  cases hwork with
  | other hother =>
    have hkept : ¬ RestoresJob row := by
      rintro ⟨hpurpose, hguid, -⟩
      rcases hother with hother | hother
      · exact hother hpurpose
      · exact hguid hother
    simp only [hkept, false_or]
  | @delivery now guid job hjob hfailed hbudget =>
    have hrestores : RestoresJob row :=
      ⟨hjob.purpose, hjob.carries ▸ some_ne_none _, hrow.nonce, hrow.kind⟩
    refine iff_of_true ⟨guid, hjob.carries, ?_⟩ (.inl hrestores)
    rw [hjob.purpose]
    exact restoreDelivery_status now hjob.found

theorem not_restoresJob_of_requeues (hpath : Requeues row) : ¬ RestoresJob row := by
  rintro ⟨-, -, hnonce, hkind⟩
  rcases hpath with hpath | hpath
  · exact hnonce hpath
  · exact hpath hkind

/-- The method took a failed row and committed this task to the queue. -/
structure Returned (db : DB) (now : Time) (method : RetryMethod) (row task : OutboxRow) : Prop where
  target : method.target db.tx now = some row
  committed : (method.call db now).2 = .ok task.id
  queued : task ∈ (method.call db now).1.tx.outbox

/-- A task that is returned to the queue is wanted exactly when the method
restored its job or the job was waiting on it all along. -/
theorem returned_task_wanted_iff {db : DB} {now : Time} {method : RetryMethod}
    {row task : OutboxRow} (hreturned : Returned db now method row task) :
    Wanted (method.call db now).1.work task ↔ RestoresJob row ∨ Wanted db.work row := by
  obtain ⟨htarget, hcommitted, hqueued⟩ := hreturned
  have hresult := method.result db now
  generalize method.call db now = result at hresult hcommitted hqueued ⊢
  cases hresult with
  | refused error | deferred | settled => cases hcommitted
  | requeued failed now' hcall hfound hfailed hreceipt hpath =>
    rw [RetryMethod.target_eq hcall hfound, some.injEq] at htarget
    subst htarget
    have hid : failed.id = task.id := Except.ok.inj hcommitted
    have htask : task = requeuedRow failed now' := eq_of_key_eq hqueued
        (mem_set_self (mem_of_find hfound) rfl) hid.symm
    simp only [not_restoresJob_of_requeues hpath, false_or]
    rw [htask]
    exact Wanted.congr rfl rfl
  | cloned failed now' work hrow hchild hwork =>
    rw [RetryMethod.target_eq hrow.call hrow.found, some.injEq] at htarget
    subst htarget
    have hid : db.tx.outbox.next = task.id := Except.ok.inj hcommitted
    have htask : task = cloneRow db.tx.outbox.next now' failed := eq_of_key_eq hqueued
        ((mem_append_set (retriedRow failed now') hrow.found rfl rfl _).mpr
          (.inr (.inr rfl))) hid.symm
    rw [htask]
    exact (Wanted.congr rfl rfl).trans (wanted_restores hrow hwork)

/-- The retry of the commit that reverted first. -/
def commitRetry : RetryMethod := .prepareNextFailedTxRetry ⟨2, "keeper"⟩ []

/-- The row is a commit of the first packet. -/
def CommitsFirst (row : OutboxRow) : Prop := row.purpose = .executorCommitVerification ∧
    row.guid = some firstPacket.guid.1

theorem wanted_commit_iff (hrow : CommitsFirst row) :
    Wanted work row ↔ executorStatus work firstPacket.guid = some .commitTxEnqueued := by
  obtain ⟨hpurpose, hguid⟩ := hrow
  rw [Wanted, hpurpose, hguid]
  constructor
  · rintro ⟨guid, hsame, hwaits⟩
    rw [Subtype.ext (some.inj hsame)]
    exact hwaits
  · exact fun hwaits => ⟨firstPacket.guid, rfl, hwaits⟩

theorem commitRetry_returned (ops : List Op)
    (htarget : (commitRetry.target (replay ops).tx (60 * minute)).map
      (fun row => (row.purpose, row.guid)) =
        some (.executorCommitVerification, some firstPacket.guid.1))
    (hcommitted : (commitRetry.call (replay ops) (60 * minute)).2 = .ok 2)
    (hstored : ((commitRetry.call (replay ops) (60 * minute)).1.tx.outbox.find
      2).map (fun task => (task.purpose, task.guid)) =
        some (.executorCommitVerification, some firstPacket.guid.1)) :
    ∃ row task, Returned (replay ops) (60 * minute) commitRetry row task ∧
      CommitsFirst row ∧ CommitsFirst task := by
  obtain ⟨row, hrow, hcolumns⟩ := map_eq_some_iff.mp htarget
  obtain ⟨task, htask, hcolumns'⟩ := map_eq_some_iff.mp hstored
  obtain ⟨hmem, hid⟩ := find_eq_some.mp htask
  exact ⟨row, task, ⟨hrow, hid ▸ hcommitted, hmem⟩, Prod.mk.inj hcolumns, Prod.mk.inj hcolumns'⟩

theorem revertedCommit_wanted :
    ∃ row task, Returned (replay revertedCommit) (60 * minute) commitRetry row task ∧
      Wanted (commitRetry.call (replay revertedCommit) (60 * minute)).1.work
        task := by
  obtain ⟨row, task, hreturned, hrow, htask⟩ :=
    commitRetry_returned revertedCommit (by decide +kernel) (by decide +kernel) (by decide +kernel)
  have hwanted : Wanted (replay revertedCommit).work row :=
    (wanted_commit_iff hrow).mpr (by decide +kernel)
  exact ⟨row, task, hreturned, (returned_task_wanted_iff hreturned).mpr (.inr hwanted)⟩

/-- Another executor commits the packet while the reverted commit waits for
its retry. -/
def overtakenCommit : List Op := .work (.markExecutorCommittedObserved 3 firstPacket.guid
    (.ofNat 32 9) .commitTxEnqueued) :: revertedCommit

/-- The commit goes back to the queue although its job has moved on. -/
theorem overtakenCommit_retried_unwanted :
    ∃ row task, Returned (replay overtakenCommit) (60 * minute) commitRetry row
        task ∧ task.purpose = .executorCommitVerification ∧
      ¬ Wanted (commitRetry.call (replay overtakenCommit) (60 * minute)).1.work task := by
  obtain ⟨row, task, hreturned, -, htask⟩ :=
    commitRetry_returned overtakenCommit (by decide +kernel) (by decide +kernel) (by decide +kernel)
  refine ⟨row, task, hreturned, htask.1, ?_⟩
  rw [wanted_commit_iff htask]
  decide +kernel

end Lazier.Workflow
