import Lazier.Delivery.Tasks

/-!
# What transaction methods do to a task

The enqueues of the workers, the retries, the receipts and the operator's
resolutions, seen from one task: which of its rows change phase, which one is
inserted, and whether the owning job waits on it before and after.
-/

namespace Lazier.Delivery

open Library Ledger Store Workflow SerialTable Option

variable {guid : Hash} {now : Time} {request given : TxRequest} {expected : ExecutorState}
  {attemptID : ℕ} {facts : TxReceiptFacts} {attempt : AttemptRow} {reason : String}

/-! ## Calls and jobs -/

/-- The enqueues that the workers make: each purpose from its own statuses. -/
def properCall : TxOp → Bool
  | .enqueueTx .. => false
  | .enqueueExecutorTx _ _ expected next request =>
    match next with
    | .commitTxEnqueued =>
      decide (expected = .verifiable ∧ request.purpose = .executorCommitVerification)
    | .lzReceiveTxEnqueued =>
      decide ((expected = .executable ∨ expected = .lzReceiveFailed) ∧
        request.purpose = .executorLzReceive)
    | _ => false
  | .enqueueDVNVerifyTx _ _ expected next request _ =>
    decide (expected = .readyToVerify ∧ next = .verifyTxEnqueued ∧ request.purpose = .dvnVerify)
  | _ => true

/-- Moves of an executor job by a transaction method. -/
inductive TxMove : ExecutorState → ExecutorState → Prop
  | commit : TxMove .verifiable .commitTxEnqueued
  | deliver {status : ExecutorState} (hstatus : status = .executable ∨ status = .lzReceiveFailed) :
      TxMove status .lzReceiveTxEnqueued
  | park {status : ExecutorState}
      (hstatus : status = .commitTxEnqueued ∨
        status = .lzReceiveTxEnqueued ∨ status = .lzReceiveFailed) : TxMove status .manualReview

/-- Moves of a DVN job by a transaction method. -/
inductive TxDVNMove : DVNState → DVNState → Prop
  | verify : TxDVNMove .readyToVerify .verifyTxEnqueued
  | park : TxDVNMove .verifyTxEnqueued .manualReview

/-- What a transaction method does to the jobs: it moves at most one of them,
together with its packet. -/
inductive JobsStep (pre : WorkTables) : WorkTables → Prop
  | same : JobsStep pre pre
  | executor {guid : Hash} {job after : ExecutorJobRow}
      {expected : ExecutorState} {post : WorkTables}
      (hpost : post = (pre.setExecutorJob after).setPacketStatus guid after.status ∨
        post = (pre.setExecutorJob after).casPacketStatus guid expected after.status)
      (hfind : pre.executorJobs.find guid = some job) (hguid : after.guid = job.guid)
      (hcount : after.retryCount = job.retryCount) (hexpected : job.status = expected)
      (hmove : TxMove expected after.status) : JobsStep pre post
  | dvn {guid : Hash} {job after : DVNJobRow} {post : WorkTables}
      (hpost : post = pre.setDVNJob after) (hfind : pre.dvnJobs.find guid = some job)
      (hguid : after.guid = job.guid)
      (hmove : TxDVNMove job.status after.status) : JobsStep pre post

/-- The job is in a status from which a transaction of the task is enqueued. -/
def ReadyFor (work : WorkTables) (task : Task) : Prop :=
  match task.purpose with
  | .executorCommitVerification =>
    executorStatus work task.guid = some .verifiable
  | .executorLzReceive =>
    executorStatus work task.guid = some .executable ∨
      executorStatus work task.guid = some .lzReceiveFailed
  | .dvnVerify => dvnStatus work task.guid = some .readyToVerify
  | _ => True

/-- The owning job waits on the task. -/
def Waits (work : WorkTables) (task : Task) : Prop := WaitsOn work task.purpose task.guid

/-! ## Effects -/

/-- A transaction method, seen from one task. -/
inductive TaskEffect (task : Task) (pre : DB) : TxOp → DB → Prop
  | kept {op : TxOp} {post : DB} (hrows : ∀ id, Kept task pre.tx post.tx id)
      (hwaits : Waits post.work task → Waits pre.work task) : TaskEffect task pre op post
  | reverted {op : TxOp} {post : DB} {id : ℕ} (hfrom : phaseAt pre.tx task id = some .inFlight)
      (hto : phaseAt post.tx task id = some .reverted)
      (hrest : ∀ other, other ≠ id → Kept task pre.tx post.tx other)
      (hwork : post.work = pre.work) : TaskEffect task pre op post
  | requeued {op : TxOp} {post : DB} {id : ℕ} (hfrom : phaseAt pre.tx task id = some .reverted)
      (hto : phaseAt post.tx task id = some .inFlight)
      (hrest : ∀ other, other ≠ id → Kept task pre.tx post.tx other)
      (hwork : post.work = pre.work) : TaskEffect task pre op post
  | pinned {now : Time} {attemptID : ℕ} {facts : TxReceiptFacts} {post : DB}
      {attempt : AttemptRow} {row : OutboxRow} {resolution : Resolution}
      (hreceipt : ReceiptOf pre attemptID facts attempt row)
      (hresolution : resolution =
        ⟨deriveOutcome attempt.kind row.cancelRequestedAt.isSome facts.status, attemptID⟩)
      (hfrom : phaseAt pre.tx task row.id = some .inFlight)
      (hto : phaseAt post.tx task row.id = some (.pinned resolution))
      (hrest : ∀ other, other ≠ row.id → Kept task pre.tx post.tx other)
      (hwork : post.work = pre.work) :
      TaskEffect task pre (.prepareReceiptResolution now attemptID facts) post
  | finalized {now clock : Time} {attemptID : ℕ} {facts : TxReceiptFacts}
      {post : DB} {id : ℕ} {resolution : Resolution} (hattempt : resolution.attemptId = attemptID)
      (hfrom : phaseAt pre.tx task id = some (.pinned resolution) ∨
        phaseAt pre.tx task id = some (.ended resolution))
      (hto : phaseAt post.tx task id = some (.ended resolution))
      (hrest : ∀ other, other ≠ id → Kept task pre.tx post.tx other)
      (hwork : post.work = pre.work) :
      TaskEffect task pre (.finalizeAttemptReceipt now clock attemptID facts) post
  | enqueued {op : TxOp} {post : DB} {child : ℕ}
      (hnewest : ∀ id, phaseAt pre.tx task id ≠ none → id < child)
      (hchild : phaseAt post.tx task child = some .inFlight)
      (hrest : ∀ other, other ≠ child → Kept task pre.tx post.tx other)
      (hready : ReadyFor pre.work task) (hwaits : Waits post.work task) :
      TaskEffect task pre op post
  | cloned {op : TxOp} {post : DB} {row : OutboxRow} {child : ℕ}
      {resolution : Resolution} (hcall : RetryCall pre.tx row op)
      (hfailed : resolution.outcome = .receiptFailed)
      (hparent : phaseAt pre.tx task row.id = some (.ended resolution))
      (hafter : phaseAt post.tx task row.id = some (.ended resolution))
      (hdone : ¬ DueAt post.tx task row.id)
      (hnewest : ∀ id, phaseAt pre.tx task id ≠ none → id < child)
      (hchild : phaseAt post.tx task child = some .inFlight)
      (hrest : ∀ other, other ≠ row.id → other ≠ child → Kept task pre.tx post.tx other)
      (hdelivery : task.purpose = .executorLzReceive →
        executorStatus pre.work task.guid = some .lzReceiveFailed ∧ Waits post.work task)
      (hother : task.purpose ≠ .executorLzReceive → post.work = pre.work) :
      TaskEffect task pre op post
  | replaced {op : TxOp} {post : DB} {id child : ℕ}
      (hfrom : phaseAt pre.tx task id = some .inFlight)
      (hto : phaseAt post.tx task id = some .consumed)
      (hnewest : ∀ id, phaseAt pre.tx task id ≠ none → id < child)
      (hchild : phaseAt post.tx task child = some .inFlight)
      (hrest : ∀ other, other ≠ id → other ≠ child → Kept task pre.tx post.tx other)
      (hwaits : Waits pre.work task) (hwork : post.work = pre.work) : TaskEffect task pre op post
  | abandoned {op : TxOp} {post : DB} {id : ℕ} (hfrom : phaseAt pre.tx task id = some .inFlight)
      (hto : phaseAt post.tx task id = some .consumed)
      (hrest : ∀ other, other ≠ id → Kept task pre.tx post.tx other)
      (hwaits : ¬ Waits post.work task) : TaskEffect task pre op post

/-! ## Jobs under each method -/

section Jobs

variable {pre post : WorkTables} {task : Task}

/-- One executor job is written, and perhaps the status of a packet. -/
structure JobWritten (pre post : WorkTables) (after : ExecutorJobRow) : Prop where
  jobs : post.executorJobs = pre.executorJobs.set after
  dvnJobs : post.dvnJobs = pre.dvnJobs

variable {after : ExecutorJobRow} {next : ExecutorState}

theorem JobWritten.set :
    JobWritten pre ((pre.setExecutorJob after).setPacketStatus guid next) after := by
  constructor <;> simp [WorkTables.setExecutorJob]

theorem JobWritten.cas :
    JobWritten pre ((pre.setExecutorJob after).casPacketStatus guid expected next) after := by
  constructor <;> simp [WorkTables.setExecutorJob]

theorem JobsStep.executorStatus_cases (hstep : JobsStep pre post) (guid : Hash) :
    executorStatus post guid = executorStatus pre guid ∨
      ∃ status next, executorStatus pre guid = some status ∧
        executorStatus post guid = some next ∧ TxMove status next := by
  cases hstep with
  | same => exact .inl rfl
  | @executor moved job after expected _ hpost hfind hguid _ hexpected hmove =>
    have hjobs : post.executorJobs = pre.executorJobs.set after := by
      rcases hpost with rfl | rfl
      · exact JobWritten.set.jobs
      · exact JobWritten.cas.jobs
    rw [executorStatus_of_set hjobs hfind hguid]
    split
    · rename_i heq
      exact .inr ⟨expected, after.status, heq ▸ hexpected ▸ executorStatus_eq hfind, rfl, hmove⟩
    · exact .inl rfl
  | dvn hpost _ _ _ => exact .inl (hpost ▸ rfl)

theorem JobsStep.dvnStatus_cases (hstep : JobsStep pre post) (guid : Hash) :
    dvnStatus post guid = dvnStatus pre guid ∨ ∃ status next, dvnStatus pre guid = some status ∧
        dvnStatus post guid = some next ∧ TxDVNMove status next := by
  cases hstep with
  | same => exact .inl rfl
  | executor hpost _ _ _ _ _ =>
    left
    rcases hpost with rfl | rfl <;>
      simp [dvnStatus, WorkTables.setExecutorJob]
  | @dvn moved job after _ hpost hfind hguid hmove =>
    rw [hpost, dvnStatus_of_set hfind hguid]
    split
    · rename_i heq
      refine .inr ⟨job.status, after.status, ?_, rfl, hmove⟩
      rw [heq, dvnStatus, hfind, map_some]
    · exact .inl rfl

theorem JobsStep.receiveFailures (hstep : JobsStep pre post) :
    post.receiveFailures = pre.receiveFailures := by
  cases hstep with
  | same => rfl
  | executor hpost _ _ _ _ _ =>
    rcases hpost with rfl | rfl <;> simp [WorkTables.setExecutorJob]
  | dvn hpost _ _ _ => exact hpost ▸ rfl

/-- The executor status that waits on a purpose. -/
def awaited : Purpose → Option ExecutorState
  | .executorCommitVerification => some .commitTxEnqueued
  | .executorLzReceive => some .lzReceiveTxEnqueued
  | _ => none

theorem waits_iff {work : WorkTables} {status : ExecutorState}
    (hawaited : awaited task.purpose = some status) :
    Waits work task ↔ executorStatus work task.guid = some status := by
  rw [Waits, WaitsOn.eq_def]
  cases hpurpose : task.purpose <;> rw [hpurpose] at hawaited <;>
    cases hawaited <;> rfl

theorem waits_congr (hexecutor : executorStatus post task.guid = executorStatus pre task.guid)
    (hdvn : dvnStatus post task.guid = dvnStatus pre task.guid) :
    Waits post task ↔ Waits pre task := by
  rw [Waits, Waits, WaitsOn.eq_def, WaitsOn.eq_def, hexecutor, hdvn]

theorem waits_of_executor_set {job : ExecutorJobRow} (hwaits : Waits post task)
    (hwritten : JobWritten pre post after) (hfind : pre.executorJobs.find guid = some job)
    (hguid : after.guid = job.guid)
    (helsewhere : task.guid = guid → awaited task.purpose ≠ some after.status) :
    Waits pre task := by
  have hexecutor := executorStatus_of_set hwritten.jobs hfind hguid task.guid
  have hdvn' : dvnStatus post task.guid = dvnStatus pre task.guid := by
    rw [dvnStatus, dvnStatus, hwritten.dvnJobs]
  by_cases hsame : task.guid = guid
  · have hother := helsewhere hsame
    rw [if_pos hsame] at hexecutor
    rw [Waits, WaitsOn.eq_def] at hwaits ⊢
    rw [hexecutor, hdvn'] at hwaits
    cases hpurpose : task.purpose <;> rw [hpurpose] at hwaits hother <;>
      simp_all [awaited]
  · rw [if_neg hsame] at hexecutor
    exact (waits_congr hexecutor hdvn').mp hwaits

theorem waits_of_dvn_set {job after : DVNJobRow} (hfind : pre.dvnJobs.find guid = some job)
    (hguid : after.guid = job.guid) (helsewhere : task.guid = guid → task.purpose = .dvnVerify →
      after.status ≠ .verifyTxEnqueued)
    (hwaits : Waits (pre.setDVNJob after) task) : Waits pre task := by
  have hdvn := dvnStatus_of_set hfind hguid task.guid
  have hexecutor : executorStatus (pre.setDVNJob after) task.guid =
      executorStatus pre task.guid := rfl
  by_cases hsame : task.guid = guid
  · have hother := helsewhere hsame
    rw [if_pos hsame] at hdvn
    rw [Waits, WaitsOn.eq_def] at hwaits ⊢
    rw [hdvn, hexecutor] at hwaits
    cases hpurpose : task.purpose <;> rw [hpurpose] at hwaits hother <;> simp_all
  · rw [if_neg hsame] at hdvn
    exact (waits_congr hexecutor hdvn).mp hwaits

end Jobs

/-! ## Inserted rows -/

variable {pre post : DB} {task : Task} {op : TxOp}

theorem optionalBytes_hash : optionalBytes guid.1 = some guid.1 := by
  rw [optionalBytes, if_neg]
  rw [guid.2]
  decide

theorem withGUID_purpose : (request.withGUID guid).purpose = request.purpose := by
  rw [TxRequest.withGUID]
  split <;> rfl

theorem find_insertQueued {tx : TxTables} :
    (insertQueued tx now request).outbox.find tx.outbox.next =
      some (queuedRow tx.outbox.next now request 0 none) := find_append_self rfl

theorem kept_insertQueued (hchildren : ChildrenStay pre.tx (insertQueued pre.tx now request))
    (hforeign : (request.purpose, optionalBytes request.guid) ≠ task.columns) (id : ℕ) :
    Kept task pre.tx (insertQueued pre.tx now request) id := by
  by_cases hid : id = pre.tx.outbox.next
  · rw [hid]
    exact kept_of_absent (rowAt_of_none find_next)
      (rowAt_of_foreign find_insertQueued hforeign)
  · exact kept_addRow rfl hchildren hid

/-- A worker's enqueue matters to the task it enqueues only. -/
theorem effect_enqueued (hrequest : (given.withGUID guid).guid = guid.1)
    (htx : post.tx = insertQueued pre.tx now (given.withGUID guid))
    (hchildren : ChildrenStay pre.tx post.tx)
    (hmine : given.purpose = task.purpose → guid = task.guid →
      ReadyFor pre.work task ∧ Waits post.work task)
    (hother : ¬ (given.purpose = task.purpose ∧ guid = task.guid) → Waits post.work task →
      Waits pre.work task) : TaskEffect task pre op post := by
  have hcolumns : ((given.withGUID guid).purpose, optionalBytes (given.withGUID guid).guid) =
      task.columns ↔ given.purpose = task.purpose ∧ guid = task.guid := by
    rw [withGUID_purpose, hrequest, optionalBytes_hash, Task.columns, Prod.mk.injEq,
      some.injEq, Subtype.ext_iff]
  rw [htx] at hchildren
  by_cases hown : given.purpose = task.purpose ∧ guid = task.guid
  · obtain ⟨hready, hwaits⟩ := hmine hown.1 hown.2
    refine .enqueued (fun id hphase => lt_next_of_phaseAt hphase) ?_ (fun other hne => ?_) hready
      hwaits
    · rw [htx]
      exact phaseAt_eq find_insertQueued (hcolumns.mpr hown)
    · rw [htx]
      exact kept_addRow rfl hchildren hne
  · refine .kept (fun id => ?_) (hother hown)
    rw [htx]
    exact kept_insertQueued hchildren (mt hcolumns.mp hown) id

theorem properCall_executor {next : ExecutorState}
    (hproper : properCall (.enqueueExecutorTx now guid expected next request) = true) :
    (next = .commitTxEnqueued ∧ expected = .verifiable ∧
        request.purpose = .executorCommitVerification) ∨
      (next = .lzReceiveTxEnqueued ∧ (expected = .executable ∨ expected = .lzReceiveFailed) ∧
        request.purpose = .executorLzReceive) := by
  cases next <;> simp_all [properCall]

theorem effect_enqueuedExecutor {next : ExecutorState} {job : ExecutorJobRow}
    (hproper : properCall (.enqueueExecutorTx now guid expected next given) = true)
    (hrequest : (given.withGUID guid).guid = guid.1)
    (hjob : pre.work.executorJobs.find guid = some job) (hstatus : job.status = expected)
    (htx : post.tx = insertQueued pre.tx now (given.withGUID guid))
    (hwork : post.work = enqueueJob pre.work now guid next job)
    (hchildren : ChildrenStay pre.tx post.tx) : TaskEffect task pre op post := by
  have hwritten : JobWritten pre.work (enqueueJob pre.work now guid next job) _ := .set
  rw [← hwork] at hwritten
  have hpre : executorStatus pre.work guid = some expected := hstatus ▸ executorStatus_eq hjob
  refine effect_enqueued hrequest htx hchildren (fun hpurpose hsame => ?_) fun hforeign hwaits => ?_
  · subst hsame
    constructor
    · rw [ReadyFor.eq_def, ← hpurpose]
      rcases properCall_executor hproper with
        ⟨-, hexpected, hgiven⟩ | ⟨-, hexpected, hgiven⟩
      · simp [hgiven, hpre, hexpected]
      · rcases hexpected with hexpected | hexpected <;>
          simp [hgiven, hpre, hexpected]
    · rw [Waits, WaitsOn.eq_def, ← hpurpose, executorStatus_of_set hwritten.jobs hjob rfl]
      rcases properCall_executor hproper with
        ⟨hnext, -, hgiven⟩ | ⟨hnext, -, hgiven⟩ <;>
        simp [hgiven, hnext]
  · -- If the job of this packet moved, then for its other transaction.
    refine waits_of_executor_set hwaits hwritten hjob rfl fun hguid hawaited =>
      hforeign ⟨?_, hguid.symm⟩
    rcases properCall_executor hproper with ⟨rfl, -, hgiven⟩ | ⟨rfl, -, hgiven⟩ <;>
      cases hpurpose : task.purpose <;> simp_all [awaited]

theorem effect_enqueuedDVN {expected next : DVNState} {quorumResult : Option QuorumResult}
    {job after : DVNJobRow} (hwork : post.work = pre.work.setDVNJob after)
    (hproper : properCall (.enqueueDVNVerifyTx now guid expected next given quorumResult) = true)
    (hrequest : (given.withGUID guid).guid = guid.1) (hjob : pre.work.dvnJobs.find guid = some job)
    (hstatus : job.status = expected) (hafter : after.guid = job.guid) (hnext : after.status = next)
    (htx : post.tx = insertQueued pre.tx now (given.withGUID guid))
    (hchildren : ChildrenStay pre.tx post.tx) : TaskEffect task pre op post := by
  have hpre : dvnStatus pre.work guid = some expected := by
    rw [dvnStatus, hjob, map_some, hstatus]
  simp only [properCall, decide_eq_true_eq] at hproper
  obtain ⟨rfl, rfl, hgiven⟩ := hproper
  refine effect_enqueued hrequest htx hchildren (fun hpurpose hsame => ?_) fun hforeign hwaits => ?_
  · subst hsame
    constructor
    · rw [ReadyFor.eq_def, ← hpurpose, hgiven]
      exact hpre
    · rw [Waits, WaitsOn.eq_def, ← hpurpose, hgiven]
      rw [hwork]
      exact (dvnStatus_of_set hjob hafter _).trans ((if_pos rfl).trans (congrArg some hnext))
  · exact waits_of_dvn_set hjob hafter (fun hguid hpurpose => absurd ⟨hgiven.trans hpurpose.symm,
      hguid.symm⟩ hforeign) (hwork ▸ hwaits)

/-! ## Rows in place -/

variable {row after : OutboxRow}

theorem phase_inFlight (hreceipt : row.receipt = none) (hopen : row.status.terminal = false) :
    phase row = .inFlight := by
  simp [phase, hreceipt, hopen]

theorem phase_reverted (hcall : RetryCall pre.tx row op) (hreceipt : row.receipt = none)
    (hfailed : row.status = .failed) : phase row = .reverted := by
  have hkind : row.failureKind ≠ some .nonceConsumedExternally := by
    intro hkind
    exact not_dead_of_requeue hcall hreceipt ⟨hfailed, .inr ⟨hreceipt, hkind⟩⟩
  simp [phase, hreceipt, hfailed, hkind, TxStatus.terminal]

/-- A delivery whose retry the operator may take back has no receipt. -/
theorem receipt_of_requeues (hsound : Sound pre.tx) (hfind : pre.tx.outbox.find row.id = some row)
    (hallowed : retryFailedTxRefusal pre.tx row = none) (hpath : Requeues row) :
    row.receipt = none := by
  by_contra hreceipt
  have hkind : row.failureKind = some .receiptFailed := by
    by_contra hkind
    rw [retryFailedTxRefusal] at hallowed
    split at hallowed
    · cases hallowed
    split at hallowed
    · cases hallowed
    rw [if_pos ⟨hreceipt, hkind⟩] at hallowed
    cases hallowed
  rcases hpath with hnonce | hother
  · exact hreceipt ((hsound.rows row (mem_of_find hfind)).bare hnonce).2.2.2.1
  · exact hother hkind

section Written

variable (hchildren : ChildrenStay pre.tx post.tx)

include hchildren

/-- A method that writes one row says nothing about the others. -/
theorem kept_beside (htx : post.tx.outbox = (pre.tx.setRow after).outbox) (hid : after.id = row.id)
    {other : ℕ} (hne : other ≠ row.id) :
    Kept task pre.tx post.tx other := by
  refine kept_of_find ?_ hchildren
  rw [htx]
  exact find_set_of_ne (hid.symm ▸ hne)

theorem kept_written (hfind : pre.tx.outbox.find row.id = some row)
    (htx : post.tx.outbox = (pre.tx.setRow after).outbox) (hid : after.id = row.id)
    (hmine : post.tx.outbox.find row.id = some after → Kept task pre.tx post.tx row.id) (id : ℕ) :
    Kept task pre.tx post.tx id := by
  by_cases hne : id = row.id
  · rw [hne]
    exact hmine (htx ▸ find_setRow hfind hid)
  · exact kept_beside hchildren htx hid hne

/-- A method that writes one row matters to the task of that row only. -/
theorem effect_written (hfind : pre.tx.outbox.find row.id = some row)
    (htx : post.tx.outbox = (pre.tx.setRow after).outbox) (hid : after.id = row.id)
    (htask : rowTask after = rowTask row) (hwaits : Waits post.work task → Waits pre.work task)
    (hmine : rowTask row = task.columns → phaseAt pre.tx task row.id = some (phase row) →
      phaseAt post.tx task row.id = some (phase after) →
      (∀ other, other ≠ row.id → Kept task pre.tx post.tx other) → TaskEffect task pre op post) :
    TaskEffect task pre op post := by
  by_cases hown : rowTask row = task.columns
  · have hafter : post.tx.outbox.find row.id = some after := htx ▸ find_setRow hfind hid
    exact hmine hown (phaseAt_eq hfind hown) (phaseAt_eq hafter (htask.trans hown))
      fun _ => kept_beside hchildren htx hid
  · exact .kept (kept_written hchildren hfind htx hid fun hafter =>
      kept_of_foreign hfind hafter htask hown) hwaits

theorem effect_finalized {clock : Time} {pinned : Resolution}
    (hreceipt : ReceiptOf pre attemptID facts attempt row) (hpinned : row.receipt = some pinned)
    (hattempt : pinned.attemptId = attemptID)
    (houtbox : post.tx.outbox =
      (pre.tx.setRow (row.finalize now clock attempt pinned.outcome facts)).outbox)
    (hwork : post.work = pre.work) :
    TaskEffect task pre (.finalizeAttemptReceipt now clock attemptID facts) post := by
  refine effect_written hchildren (find_self hreceipt.owner) houtbox rfl rfl
    (fun hwaits => hwork ▸ hwaits) fun _ hfrom hto hrest =>
      .finalized hattempt ?_ (hto.trans ?_) hrest hwork
  · rw [hfrom]
    cases hended : row.status.terminal
    · exact .inl (by simp [phase, hpinned, hended])
    · exact .inr (by simp [phase, hpinned, hended])
  · simp [phase, OutboxRow.finalize, hpinned, finalStatus_terminal]

theorem effect_requeued (hcall : RetryCall pre.tx row op)
    (hfind : pre.tx.outbox.find row.id = some row) (hfailed : row.status = .failed)
    (hreceipt : row.receipt = none) (now : Time)
    (htx : post.tx = pre.tx.setRow (requeuedRow row now)) (hwork : post.work = pre.work) :
    TaskEffect task pre op post := by
  refine effect_written hchildren hfind (congrArg _ htx) rfl rfl (fun hwaits => hwork ▸ hwaits)
    fun _ hfrom hto hrest => .requeued (hfrom.trans ?_) (hto.trans ?_) hrest hwork
  · rw [phase_reverted hcall hreceipt hfailed]
  · exact congrArg some (phase_inFlight hreceipt rfl)

/-- A pushed retry: a delivery was selected already, or it reverted before it
was sent. -/
theorem effect_deferred (hsound : Sound pre.tx) (hcall : RetryCall pre.tx row op)
    (hfind : pre.tx.outbox.find row.id = some row) (hfailed : row.status = .failed)
    (hpath : Requeues row ∨ row.purpose ≠ .executorLzReceive) (now : Time)
    (htx : post.tx = pre.tx.setRow (deferredRow row now)) (hwork : post.work = pre.work) :
    TaskEffect task pre op post := by
  refine .kept (kept_written hchildren hfind (congrArg _ htx) rfl fun hafter => ?_)
    fun hwaits => hwork ▸ hwaits
  refine kept_of_row hfind hafter rfl rfl fun hdelivery _ => ?_
  cases hcall with
  | automatic hcandidate _ => exact .inl ⟨_, _, hcandidate⟩
  | @operator asked hallowed =>
    have hrequeues := hpath.resolve_right (not_not.mpr hdelivery)
    have hoperator : RetryCall pre.tx row (.retryFailedTx asked row.id) := .operator hallowed
    exact .inr (phase_reverted hoperator
      (receipt_of_requeues hsound hfind hallowed hrequeues) hfailed)

variable {work : WorkTables}

theorem effect_settled (hchains : Chains pre.tx.outbox) (hrow : Cloneable pre op row)
    (hwork : Settles pre.work row work) (hpost : post.work = work) (now : Time)
    (htx : post.tx = pre.tx.setRow (settledRow row now)) : TaskEffect task pre op post := by
  obtain ⟨pinned, hpinned, -⟩ := (hchains.sound row (mem_of_find hrow.found)).failed hrow.kind
  refine .kept (kept_written hchildren hrow.found (congrArg _ htx) rfl fun hafter => ?_)
    fun hwaits => ?_
  · refine kept_of_row hrow.found hafter rfl ?_ ?_
    · simp [phase, settledRow, hpinned]
    · rintro - ⟨_, _, hcandidate⟩
      simp [autoRetryCandidate, settledRow] at hcandidate
  · rw [hpost] at hwaits
    cases hwork with
    | kept _ => exact hwaits
    | @exhausted now guid job hjob _ _ =>
      refine waits_of_executor_set hwaits .cas hjob.found rfl fun _ => ?_
      cases task.purpose <;> simp [awaited, restatedJob]

end Written

/-! ## Rows with a child -/

/-- The tables after a clone, wherever its parent is written. -/
structure ClonedTables (pre post : TxTables) (row after child : OutboxRow) : Prop where
  parent : post.outbox.find row.id = some after
  clone : post.outbox.find pre.outbox.next = some child
  rest : ∀ id, id ≠ row.id → id ≠ pre.outbox.next → post.outbox.find id = pre.outbox.find id

theorem clonedTables_set_add {tx : TxTables} (after child : OutboxRow)
    (hfind : tx.outbox.find row.id = some row) (hafter : after.id = row.id)
    (hid : child.id = (tx.setRow after).outbox.next) :
    ClonedTables tx ((tx.setRow after).addRow child hid) row after child := by
  have hnext : child.id = tx.outbox.next := hid
  have hlt : row.id < tx.outbox.next := key_lt_next (mem_of_find hfind)
  refine ⟨?_, ?_, fun id hrow hne => ?_⟩
  · rw [TxTables.addRow, find_append_of_ne hid (hnext ▸ hlt.ne)]
    exact find_setRow hfind hafter
  · rw [TxTables.addRow, ← hnext]
    exact find_append_self hid
  · rw [TxTables.addRow, find_append_of_ne hid (hnext ▸ hne)]
    exact find_set_of_ne (hafter ▸ hrow)

theorem clonedTables_add_set {tx : TxTables} (after child : OutboxRow)
    (hfind : tx.outbox.find row.id = some row) (hafter : after.id = row.id)
    (hid : child.id = tx.outbox.next) :
    ClonedTables tx ((tx.addRow child hid).setRow after) row after child := by
  have hcomm : (tx.addRow child hid).setRow after = (tx.setRow after).addRow child hid :=
    congrArg (fun outbox => { tx with outbox })
      (append_set hid (hafter ▸ key_lt_next (mem_of_find hfind)))
  rw [hcomm]
  exact clonedTables_set_add after child hfind hafter hid

variable {tx left right : TxTables} {child : OutboxRow}

/-- A clone of another task's row. -/
theorem ClonedTables.kept_of_foreign (htables : ClonedTables left right row after child)
    (hfind : left.outbox.find row.id = some row) (hafter : rowTask after = rowTask row)
    (hclone : rowTask child = rowTask row) (hchildren : ChildrenStay left right)
    (hforeign : rowTask row ≠ task.columns) (id : ℕ) :
    Kept task left right id := by
  by_cases hrow : id = row.id
  · rw [hrow]
    exact Delivery.kept_of_foreign hfind htables.parent hafter hforeign
  by_cases hnext : id = left.outbox.next
  · rw [hnext]
    exact kept_of_absent (rowAt_of_none find_next)
      (rowAt_of_foreign htables.clone (hclone ▸ hforeign))
  · exact kept_of_find (htables.rest id hrow hnext) hchildren

theorem waits_of_restores (hwork : Restores pre.work row work)
    (hforeign : rowTask row ≠ task.columns) (hwaits : Waits work task) : Waits pre.work task := by
  cases hwork with
  | other _ => exact hwaits
  | @delivery now guid job hjob _ _ =>
    refine waits_of_executor_set hwaits .cas hjob.found rfl ?_
    intro hguid hawaited
    apply hforeign
    have hpurpose : task.purpose = .executorLzReceive := by
      cases hpurpose : task.purpose <;> rw [hpurpose] at hawaited <;>
        simp_all [awaited, restatedJob]
    rw [rowTask, Task.columns, hjob.purpose, hjob.carries, hpurpose, hguid]

theorem delivery_of_restores (hwork : Restores pre.work row work)
    (hmine : rowTask row = task.columns) (hpurpose : task.purpose = .executorLzReceive) :
    executorStatus pre.work task.guid = some .lzReceiveFailed ∧ Waits work task := by
  obtain ⟨hrowpurpose, hrowguid⟩ := Prod.mk.inj hmine
  cases hwork with
  | other hother =>
    rcases hother with hother | hother
    · exact absurd (hrowpurpose.trans hpurpose) hother
    · rw [hother] at hrowguid
      cases hrowguid
  | @delivery now guid job hjob hfailed _ =>
    have hguid : guid = task.guid :=
      Subtype.ext (some.inj (hjob.carries.symm.trans hrowguid))
    subst hguid
    refine ⟨hfailed ▸ executorStatus_eq hjob.found, ?_⟩
    rw [Waits, hpurpose]
    exact restoreDelivery_status now hjob.found

theorem effect_cloned (hchains : Chains pre.tx.outbox) (hrow : Cloneable pre op row)
    (hwork : Restores pre.work row work) (hpost : post.work = work) (now : Time)
    (htx : post.tx = (pre.tx.addRow
      (cloneRow pre.tx.outbox.next now row) rfl).setRow (retriedRow row now))
    (hchildren : ChildrenStay pre.tx post.tx) : TaskEffect task pre op post := by
  have htables : ClonedTables pre.tx post.tx row (retriedRow row now)
      (cloneRow pre.tx.outbox.next now row) := by
    rw [htx]
    exact clonedTables_add_set (retriedRow row now) (cloneRow _ now row) hrow.found rfl rfl
  obtain ⟨pinned, hpinned, houtcome⟩ :=
    (hchains.sound row (mem_of_find hrow.found)).failed hrow.kind
  by_cases hmine : rowTask row = task.columns
  · have hended : phase row = .ended pinned := by
      simp [phase, hpinned, hrow.failed, TxStatus.terminal]
    refine .cloned hrow.call houtcome ?_ ?_ ?_ (fun id => lt_next_of_phaseAt) ?_ ?_ ?_ ?_
    · rw [phaseAt_eq hrow.found hmine, hended]
    · rw [phaseAt_eq htables.parent hmine, ← hended]
      rfl
    · rintro ⟨found, hfound, _, _, hcandidate⟩
      rw [rowAt_eq_some, htables.parent, some.injEq] at hfound
      rw [← hfound.1] at hcandidate
      simp [autoRetryCandidate, retriedRow] at hcandidate
    · exact phaseAt_eq htables.clone hmine
    · intro other hother hnext
      exact kept_of_find (htables.rest other hother hnext) hchildren
    · intro hpurpose
      rw [hpost]
      exact delivery_of_restores hwork hmine hpurpose
    · intro hpurpose
      rw [hpost]
      cases hwork with
      | other _ => rfl
      | delivery hjob _ _ =>
        have hrowpurpose : row.purpose = task.purpose := (Prod.mk.inj hmine).1
        exact absurd (hrowpurpose ▸ hjob.purpose) hpurpose
  · exact .kept (htables.kept_of_foreign hrow.found rfl rfl hchildren hmine)
      fun hwaits => waits_of_restores hwork hmine (hpost ▸ hwaits)

/-! ## External nonces -/

theorem phase_held (hheld : heldExternally row = true) (now : Time) :
    phase row = .inFlight ∧ phase (row.consumeExternally now) = .consumed := by
  obtain ⟨hstatus, hreceipt⟩ := heldExternally_iff.mp hheld
  constructor
  · exact phase_inFlight hreceipt (by rw [hstatus]; rfl)
  · simp [phase, OutboxRow.consumeExternally, hreceipt, TxStatus.terminal]

theorem guid_of_mine (hmine : rowTask row = task.columns) :
    row.purpose = task.purpose ∧ row.guid = some task.guid.1 ∧
      bytesToHash task.guid.1 = task.guid :=
  ⟨(Prod.mk.inj hmine).1, (Prod.mk.inj hmine).2, FixedBytes.ofBytes_val _⟩

theorem waits_of_requireRowWorkflow (hworkflow : requireRowWorkflow pre.work row = .ok ())
    (hmine : rowTask row = task.columns) : Waits pre.work task := by
  obtain ⟨hpurpose, hguid, hhash⟩ := guid_of_mine hmine
  rw [requireRowWorkflow, hguid] at hworkflow
  dsimp only at hworkflow
  rw [if_pos task.guid.2, hhash, hpurpose, requireWorkflowEnqueued_iff] at hworkflow
  exact hworkflow

theorem effect_resolved (hfind : pre.tx.outbox.find row.id = some row)
    (hheld : heldExternally row = true) (hworkflow : requireRowWorkflow pre.work row = .ok ())
    (htx : post.tx = (pre.tx.setRow (row.consumeExternally now)).addRow
      (cloneRow pre.tx.outbox.next now row) rfl) (hwork : post.work = pre.work)
    (hchildren : ChildrenStay pre.tx post.tx) : TaskEffect task pre op post := by
  have htables : ClonedTables pre.tx post.tx row (row.consumeExternally now)
      (cloneRow pre.tx.outbox.next now row) := by
    rw [htx]
    exact clonedTables_set_add (row.consumeExternally now) (cloneRow _ now row) hfind rfl rfl
  obtain ⟨hbefore, hafter⟩ := phase_held hheld now
  by_cases hmine : rowTask row = task.columns
  · have hfrom : phaseAt pre.tx task row.id = some .inFlight := by
      rw [phaseAt_eq hfind hmine, hbefore]
    refine .replaced hfrom ?_ (fun id => lt_next_of_phaseAt) ?_ ?_
      (waits_of_requireRowWorkflow hworkflow hmine) hwork
    · rw [phaseAt_eq htables.parent hmine, hafter]
    · exact phaseAt_eq htables.clone hmine
    · intro other hother hnext
      exact kept_of_find (htables.rest other hother hnext) hchildren
  · exact .kept (htables.kept_of_foreign hfind rfl rfl hchildren hmine) fun hwaits => hwork ▸ hwaits

/-- The workflow tables with a job parked beside its packet. -/
def parkJob (work : WorkTables) (now : Time) (guid : Hash) (reason : String)
    (job : ExecutorJobRow) : WorkTables :=
  (work.setExecutorJob (restatedJob now .manualReview (some reason) job)
    ).setPacketStatus guid .manualReview

/-- What the operator's abandonment does to the job of the row. -/
inductive Parks (work : WorkTables) (row : OutboxRow) : WorkTables → Prop
  | kept (hfree : ∀ guid : Hash, row.guid = some guid.1 → txSendScopeKind row.purpose = .packet →
        ¬ WaitsOn work row.purpose guid) : Parks work row work
  | executor {now : Time} {guid : Hash} {job : ExecutorJobRow}
      {reason : String} (hguid : row.guid = some guid.1)
      (hfind : work.executorJobs.find guid = some job)
      (hawaited : awaited row.purpose = some job.status) :
      Parks work row (parkJob work now guid reason job)
  | dvn {guid : Hash} {job after : DVNJobRow}
      (hguid : row.guid = some guid.1) (hpurpose : row.purpose = .dvnVerify)
      (hfind : work.dvnJobs.find guid = some job) (hstatus : job.status = .verifyTxEnqueued)
      (hafter : after.guid = job.guid) (hparked : after.status = .manualReview) :
      Parks work row (work.setDVNJob after)

theorem parks_executor {parked : WorkTables} (hguid : row.guid = some guid.1)
    (hawaited : awaited row.purpose = some expected)
    (hpark : parkExecutorManualReview work now guid expected reason = .ok parked) :
    Parks work row parked := by
  have hkept : executorStatus work guid ≠ some expected → Parks work row work := by
    refine fun hother => .kept fun stored hstored _ => ?_
    rw [hguid, some.injEq] at hstored
    have hwaits : Waits work ⟨guid, row.purpose⟩ ↔ _ := waits_iff hawaited
    exact Subtype.ext hstored ▸ mt hwaits.mp hother
  unfold parkExecutorManualReview at hpark
  split at hpark
  · rename_i hnone
    cases hpark
    exact hkept (by simp [executorStatus, hnone])
  rename_i job hjob
  split at hpark
  · rename_i hstatus
    cases hpark
    exact hkept (by simpa [executorStatus, hjob] using hstatus)
  rename_i hstatus
  split at hpark
  · cases hpark
  split at hpark
  · cases hpark
    exact .executor hguid hjob (hawaited.trans (congrArg some (not_not.mp hstatus).symm))
  · cases hpark

theorem parks_of_row {parked : WorkTables}
    (hpark : parkRowWorkflow work now row reason = .ok parked) : Parks work row parked := by
  unfold parkRowWorkflow at hpark
  split at hpark
  · rename_i hnone
    cases hpark
    refine .kept fun guid hguid => ?_
    rw [hnone] at hguid
    cases hguid
  rename_i bytes hbytes
  split at hpark
  · rename_i hlength
    have hguid := guid_of_length hbytes hlength
    unfold parkWorkflowManualReview at hpark
    split at hpark
    · rename_i hpurpose
      exact parks_executor hguid (by rw [hpurpose]; rfl) hpark
    · rename_i hpurpose
      exact parks_executor hguid (by rw [hpurpose]; rfl) hpark
    · rename_i hpurpose
      have hkept : dvnStatus work (bytesToHash bytes) ≠
          some .verifyTxEnqueued → Parks work row work := by
        refine fun hother => .kept fun stored hstored _ => ?_
        rw [hguid, some.injEq] at hstored
        rw [hpurpose, ← Subtype.ext hstored]
        exact hother
      split at hpark
      · rename_i hnone
        cases hpark
        exact hkept (by simp [dvnStatus, hnone])
      rename_i job hjob
      split at hpark
      · rename_i hstatus
        cases hpark
        exact .dvn hguid hpurpose hjob hstatus rfl rfl
      · rename_i hstatus
        cases hpark
        exact hkept (by simpa [dvnStatus, hjob] using hstatus)
    · rename_i hcommit hdeliver hverify
      cases hpark
      refine .kept fun _ _ hscope => ?_
      cases hpurpose : row.purpose <;> simp_all [txSendScopeKind]
  · rename_i hlength
    cases hpark
    refine .kept fun guid hguid => ?_
    rw [hbytes, some.injEq] at hguid
    exact absurd (hguid ▸ guid.2) hlength

theorem waits_of_parks (hparks : Parks pre.work row work) (hwaits : Waits work task) :
    Waits pre.work task := by
  cases hparks with
  | kept _ => exact hwaits
  | @executor now guid job reason _ hfind _ =>
    refine waits_of_executor_set hwaits .set hfind rfl fun _ => ?_
    cases task.purpose <;> simp [awaited, restatedJob]
  | dvn _ _ hfind _ hafter hparked =>
    exact waits_of_dvn_set hfind hafter (fun _ _ => hparked.trans_ne (by decide)) hwaits

theorem not_waits_of_parks (hparks : Parks pre.work row work)
    (hpacket : txSendScopeKind task.purpose = .packet) (hmine : rowTask row = task.columns) :
    ¬ Waits work task := by
  obtain ⟨hpurpose, hguid, -⟩ := guid_of_mine hmine
  cases hparks with
  | kept hfree =>
    have hkept := hfree task.guid hguid (hpurpose ▸ hpacket)
    rw [hpurpose] at hkept
    exact hkept
  | @executor now guid job reason hcarries hfind hawaited =>
    have hsame : task.guid = guid := Subtype.ext (some.inj (hguid.symm.trans hcarries))
    have hwritten : JobWritten pre.work (parkJob pre.work now guid reason job) _ := .set
    have hstatus := executorStatus_of_set hwritten.jobs hfind rfl task.guid
    rw [if_pos hsame] at hstatus
    rw [Waits, WaitsOn.eq_def, hstatus, ← hpurpose]
    cases hrow : row.purpose <;> rw [hrow] at hawaited <;>
      simp [awaited, restatedJob] at hawaited ⊢
  | @dvn guid job after hcarries hrow hfind _ hafter hparked =>
    have hsame : task.guid = guid := Subtype.ext (some.inj (hguid.symm.trans hcarries))
    have hstatus := dvnStatus_of_set hfind hafter task.guid
    rw [if_pos hsame, hparked] at hstatus
    rw [Waits, WaitsOn.eq_def, hstatus, ← hpurpose, hrow]
    simp

theorem effect_abandoned (hpacket : txSendScopeKind task.purpose = .packet)
    (hfind : pre.tx.outbox.find row.id = some row) (hheld : heldExternally row = true)
    (hparks : Parks pre.work row post.work)
    (htx : post.tx = pre.tx.setRow (row.consumeExternally now))
    (hchildren : ChildrenStay pre.tx post.tx) : TaskEffect task pre op post := by
  obtain ⟨hbefore, hafter⟩ := phase_held hheld now
  exact effect_written hchildren hfind (congrArg _ htx) rfl rfl (waits_of_parks hparks)
    fun hmine hfrom hto hrest => .abandoned (hfrom.trans (congrArg some hbefore))
      (hto.trans (congrArg some hafter)) hrest (not_waits_of_parks hparks hpacket hmine)

/-! ## Methods beside the outbox -/

theorem due_of_quiet {old new : OutboxRow} (hquiet : QuietRow old new)
    (hchildren : ChildrenStay pre.tx post.tx) (hdue : Due post.tx new) : Due pre.tx old := by
  obtain ⟨now, lane, hcandidate⟩ := due_of_children hchildren hdue
  have hfailed := (autoRetryCandidate_failed hcandidate).1
  have hstatus : old.status = .failed := by
    rcases hquiet.status with hsame | ⟨-, hopen⟩
    · rw [← hsame, hfailed]
    · rw [hfailed] at hopen
      cases hopen
  refine ⟨now, lane, ?_⟩
  rw [autoRetryCandidate, OutboxRow.lane, hquiet.chainEID, hquiet.signerID,
    hquiet.attempts, hquiet.nextRetryAt, hquiet.failureKind, hquiet.purpose,
    hquiet.id, hfailed] at hcandidate
  rw [autoRetryCandidate, OutboxRow.lane, hstatus]
  exact hcandidate

theorem kept_of_quiet (hquiet : QuietTx pre.tx post.tx) (hchildren : ChildrenStay pre.tx post.tx)
    (id : ℕ) : Kept task pre.tx post.tx id := by
  have hrel := hquiet.rows id
  generalize hold : pre.tx.outbox.find id = old, hnew : post.tx.outbox.find id = new at hrel
  cases hrel with
  | none => exact kept_of_absent (rowAt_of_none hold) (rowAt_of_none hnew)
  | some hrow =>
    refine kept_of_row hold hnew ?_ ?_ fun _ hdue => .inl (due_of_quiet hrow hchildren hdue)
    · rw [rowTask, rowTask, hrow.purpose, hrow.guid]
    · rw [phase, phase, hrow.receipt, hrow.terminal, hrow.failureKind]

/-! ## All transaction methods -/

theorem effect_retry (hsound : Sound pre.tx) (hchains : Chains pre.tx.outbox) {result : Result ℕ}
    (hresult : RetryResult pre op result) (hchildren : ChildrenStay pre.tx result.1.tx) :
    TaskEffect task pre op result.1 := by
  cases hresult with
  | refused error => exact .kept (Kept.refl task pre.tx) id
  | deferred row now paused hcall hfound hfailed hpath =>
    exact effect_deferred hchildren hsound hcall hfound hfailed hpath now rfl rfl
  | requeued row now hcall hfound hfailed hreceipt _ =>
    exact effect_requeued hchildren hcall hfound hfailed hreceipt now rfl rfl
  | settled row now work hrow hwork => exact effect_settled hchildren hchains hrow hwork rfl now rfl
  | cloned row now work hrow _ hwork => exact effect_cloned hchains hrow hwork rfl now rfl hchildren

/-- What a transaction method of a worker, the manager or the operator does to
a task with a packet. -/
theorem taskEffect_of_txEffect (hpacket : txSendScopeKind task.purpose = .packet)
    (hsound : Sound pre.tx) (hchains : Chains pre.tx.outbox) (hproper : properCall op = true)
    (heffect : TxEffect pre op post) :
    TaskEffect task pre op post := by
  have hchildren : ChildrenStay pre.tx post.tx :=
    childrenStay_of_continues (chainsStep_effect hchains heffect).continues
  cases heffect with
  | unchanged => exact .kept (Kept.refl task pre.tx) id
  | quiet _ hquiet => exact .kept (kept_of_quiet hquiet.2 hchildren) fun hwaits => hquiet.1 ▸ hwaits
  | enqueuedTx => cases hproper
  | enqueuedPricing hpurpose =>
    refine .kept (kept_insertQueued hchildren fun hmine => ?_) id
    rw [Task.columns, Prod.mk.injEq, hpurpose] at hmine
    rw [← hmine.1] at hpacket
    cases hpacket
  | enqueuedExecutor _ hrequest hjob hstatus =>
    exact effect_enqueuedExecutor hproper hrequest hjob hstatus rfl rfl hchildren
  | enqueuedDVN _ hrequest hjob hstatus =>
    exact effect_enqueuedDVN rfl hproper hrequest hjob hstatus rfl rfl rfl hchildren
  | reverted retryAt hrow hqueued hnonce =>
    have hreceipt := ((hsound.rows _ (mem_of_find hrow)).bare hnonce).2.2.2.1
    refine effect_written hchildren hrow rfl rfl rfl (fun hwaits => hwaits)
      fun _ hfrom hto hrest => .reverted (hfrom.trans ?_) (hto.trans ?_) hrest rfl
    · rw [phase_inFlight hreceipt (by rw [hqueued]; rfl)]
    · simp [phase, revertedRow, hreceipt, TxStatus.terminal]
  | operatorRetry hresult | automaticRetry hresult =>
    exact effect_retry hsound hchains hresult hchildren
  | pinned hreceipt hfree hopen =>
    refine effect_written hchildren (find_self hreceipt.owner) rfl rfl rfl (fun hwaits => hwaits)
      fun _ hfrom hto hrest => .pinned hreceipt rfl (hfrom.trans ?_) (hto.trans ?_) hrest rfl
    · rw [phase_inFlight hfree hopen]
    · simp [phase, pinnedRow, hopen]
  | finalized hreceipt hpinned hattempt =>
    exact effect_finalized hchildren hreceipt hpinned hattempt rfl rfl
  | resolved hrow hheld hworkflow => exact effect_resolved hrow hheld hworkflow rfl rfl hchildren
  | abandoned hrow hheld hpark =>
    exact effect_abandoned hpacket hrow hheld (parks_of_row hpark) rfl hchildren

/-- What a transaction method of a worker, the manager or the operator does to
the jobs. -/
theorem jobsStep_of_txEffect (hproper : properCall op = true) (heffect : TxEffect pre op post) :
    JobsStep pre.work post.work := by
  have hretry : ∀ {result : Result ℕ}, RetryResult pre op result →
      JobsStep pre.work result.1.work := by
    intro result hresult
    cases hresult with
    | settled row now work hrow hwork =>
      cases hwork with
      | kept _ => exact .same
      | exhausted hjob hfailed _ =>
        exact .executor (.inr rfl) hjob.found rfl rfl hfailed (.park (.inr (.inr rfl)))
    | cloned row now work hrow _ hwork =>
      cases hwork with
      | other _ => exact .same
      | delivery hjob hfailed _ =>
        exact .executor (.inr rfl) hjob.found rfl rfl hfailed (.deliver (.inr rfl))
    | _ => exact .same
  cases heffect with
  | quiet _ hquiet => exact hquiet.1 ▸ .same
  | enqueuedExecutor _ _ hjob hstatus =>
    refine .executor (.inl rfl) hjob rfl rfl hstatus ?_
    rcases properCall_executor hproper with
      ⟨rfl, rfl, -⟩ | ⟨rfl, hexpected, -⟩
    · exact .commit
    · exact .deliver hexpected
  | enqueuedDVN _ _ hjob hstatus =>
    simp only [properCall, decide_eq_true_eq] at hproper
    refine .dvn rfl hjob rfl ?_
    rw [hstatus, hproper.1, hproper.2.1]
    exact .verify
  | operatorRetry hresult | automaticRetry hresult => exact hretry hresult
  | abandoned _ _ hpark =>
    cases parks_of_row hpark with
    | kept _ => exact .same
    | executor _ hfind hawaited =>
      refine .executor (.inl rfl) hfind rfl rfl rfl (.park ?_)
      unfold awaited at hawaited
      split at hawaited
      · exact .inl (some.inj hawaited).symm
      · exact .inr (.inl (some.inj hawaited).symm)
      · cases hawaited
    | dvn _ _ hfind hstatus hafter hparked =>
      refine .dvn rfl hfind hafter ?_
      rw [hstatus, hparked]
      exact .park
  | _ => exact .same

end Lazier.Delivery
