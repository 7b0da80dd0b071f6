import Lazier.Delivery.Jobs

/-!
# Jobs along a step

Each step of the system leaves the jobs alone, assigns one, or moves one; the
ranks rise, and only a transaction method lets a job start to wait.
-/

namespace Lazier.Delivery

open Chain Executor Indexer Ledger Library Manager Store Workflow

variable {worker : ℕ} {now : Time} {reads : Reads} {item : ExecutorWorkItem} {mark : WorkflowMark}
  {status : ExecutorState} {failure : ReceiveFailure}

/-- What a store call does to the jobs. -/
inductive JobStep (deployment : Deployment) (pre : System)
    (label : Label) (op : Op) (post : WorkTables) : Prop
  | kept (hkept : JobsKept pre.db.work post)
  | assigned {now : Time} {job : ExecutorJobRecord}
      (hlabel : label = .call (.work (.upsertExecutorJob now job)))
      (hassigned : JobAssigned pre.db.work post job.guid job.status)
  | updated {now : Time} {update : ExecutorStatusUpdate} {result : Result Unit}
      (hcall : ExecutorCall deployment pre label update)
      (hupdates : Updates pre.db now update result) (hpost : post = result.1.work)
  | moved {txOp : TxOp} (hop : op = .tx txOp) (hstep : JobsStep pre.db.work post)

variable {deployment : Deployment} {pre post : System} {label : Label}

theorem calls_proper {op : TxOp}
    (hcalls : Calls deployment pre label (.tx op)) : properCall op = true := by
  generalize hop : Op.tx op = call at hcalls
  cases hcalls with
  | worker _ hcall =>
    cases hcall with
    | commit request hstatus hpurpose _ | deliver request hstatus _ hpurpose _ =>
      cases hop
      simp [properCall, hstatus, hpurpose]
    | _ => cases hop
  | background hback =>
    subst hop
    cases op <;> first | exact hback | cases hback
  | pinned | finalized => cases hop; rfl
  | observed | marked => cases hop

theorem jobStep_of_worker {op : Op} (hsession : pre.sessions worker = .listed item)
    (next : ExecutorState) (reason : String) (hforward : rank item.status < rank next)
    (hnext : next ≠ .commitTxEnqueued ∧ next ≠ .lzReceiveTxEnqueued ∧ next ≠ .lzReceiveFailed) :
    JobStep deployment pre (.work worker now reads) op
      (updateExecutorStatus pre.db now
        { ExecutorStatusUpdate.move item.packet.guid item.status next with
          lastError := reason }).1.work :=
  .updated (.worker hsession rfl rfl hforward hnext rfl)
    (updateExecutorStatus_updates pre.db now _) rfl

theorem jobStep_tx {op : TxOp} (hcalls : Calls deployment pre label (.tx op)) :
    JobStep deployment pre label (.tx op) ((Op.tx op).apply pre.db).work :=
  .moved rfl (jobsStep_of_txEffect (calls_proper hcalls) (txOp_effect pre.db op))

theorem jobStep_worker {op : Op} (hsession : pre.sessions worker = .listed item)
    (hcall : WorkerCall item now op) :
    JobStep deployment pre (.work worker now reads) op (op.apply pre.db).work := by
  have hcalls : Calls deployment pre (.work worker now reads) op := .worker hsession hcall
  cases hcall with
  | deferred => exact .kept deferExecutorJob_kept
  | waiting hstatus =>
    exact jobStep_of_worker hsession .waitingDVNVerification ""
      (by rw [hstatus]; decide) (by decide)
  | verifiable hstatus =>
    exact jobStep_of_worker hsession .verifiable ""
      (by rcases hstatus with h | h <;> rw [h] <;> decide) (by decide)
  | committed hstatus =>
    exact jobStep_of_worker hsession .committed ""
      (by rcases hstatus with h | h | h <;> rw [h] <;> decide) (by decide)
  | commit request | deliver request => exact jobStep_tx hcalls
  | executable hstatus =>
    have hstep : JobStep deployment pre (.work worker now reads)
        (.work (.markExecutorExecutable now item.packet.guid))
        (updateExecutorStatus pre.db now (.move item.packet.guid item.status .executable)).1.work :=
      jobStep_of_worker hsession .executable "" (by rw [hstatus]; decide) (by decide)
    rw [hstatus] at hstep
    exact hstep
  | delivered hstatus =>
    exact jobStep_of_worker hsession .delivered ""
      (by rcases hstatus with h | h | h <;> rw [h] <;> decide) (by decide)
  | review reason hstatus =>
    change JobStep _ _ _ _ (markExecutorManualReview pre.db now
      item.packet.guid item.status reason).1.work
    rw [markExecutorManualReview]
    split
    · exact .kept (.refl _)
    · exact jobStep_of_worker hsession .manualReview reason
        (by rcases hstatus with h | h <;> rw [h] <;> decide) (by decide)

/-- The observed methods need a transaction hash and are one update. -/
theorem observedOp_updates (db : DB) (now : Time) (guid txHash : Hash)
    (status : ExecutorState) (event : DestinationEvent) :
    (observedOp now guid txHash status event).apply db = db ∨
      (observedOp now guid txHash status event).apply db =
        (updateExecutorStatus db now (observedUpdate guid txHash status event)).1 := by
  cases event with
  | verified | delivered | alert =>
    simp only [observedOp, WorkOp.apply, markExecutorCommittedObserved,
      markExecutorDeliveredObserved, markExecutorReceiveFailedObserved]
    split
    · exact .inl rfl
    · exact .inr rfl

/-- A workflow effect on an executor job is one update, refused without a
transaction hash. -/
theorem mark_updates {update : ExecutorStatusUpdate} (hupdate : markUpdate mark = some update)
    (db : DB) (now : Time) :
    (∃ error, mark.call db now = rollback db error ∧
        (update.commitTxHash = some Hash.zero ∨ update.receiveTxHash = some Hash.zero)) ∨
      mark.call db now = updateExecutorStatus db now update := by
  cases mark with
  | committed | delivered | receiveFailed =>
    cases hupdate
    simp only [WorkflowMark.call, markExecutorCommitted, markExecutorCommittedObserved,
      markExecutorDelivered, markExecutorDeliveredObserved, markExecutorReceiveFailed,
      markExecutorReceiveFailedObserved]
    split
    · rename_i hzero
      exact .inl ⟨_, rfl, by simp [hzero]⟩
    · exact .inr rfl
  | parkExecutor guid expected =>
    cases hupdate
    rw [WorkflowMark.call, markExecutorManualReview, if_neg (by decide)]
    exact .inr rfl
  | verified | parkDVN => cases hupdate

/-- The other workflow effects move a DVN job to one of its last statuses. -/
theorem mark_verifier (hupdate : markUpdate mark = none) (db : DB) (now : Time) :
    JobsKept db.work (mark.call db now).1.work := by
  cases mark with
  | verified guid txHash =>
    rw [WorkflowMark.call, markDVNVerified, markDVNVerifiedObserved]
    split
    · exact .refl _
    · exact updateDVNStatus_kept .verified
  | parkDVN guid =>
    rw [WorkflowMark.call, markDVNManualReview]
    split
    · exact .refl _
    · exact updateDVNStatus_kept .canceled
  | _ => cases hupdate

theorem jobStep {op : Op} (hcalls : Calls deployment pre label op) :
    JobStep deployment pre label op (op.apply pre.db).work := by
  cases hcalls with
  | worker hsession hcall => exact jobStep_worker hsession hcall
  | @observed indexer now packet job log event hsession happlies =>
    change JobStep _ _ _ _
      ((observedOp now packet.guid log.txHash job.status event).apply pre.db).work
    rcases observedOp_updates pre.db now packet.guid log.txHash job.status
      event with hsame | hupdate
    · rw [hsame]
      exact .kept (.refl _)
    · rw [hupdate]
      exact .updated (.observed hsession happlies) (updateExecutorStatus_updates pre.db now _) rfl
  | @marked manager now poll outcome effect hsession =>
    change JobStep _ _ _ _ ((effect.mark.op now).apply pre.db).work
    rw [← WorkflowMark.call_db]
    cases hupdate : markUpdate effect.mark with
    | none => exact .kept (mark_verifier hupdate pre.db now)
    | some update =>
      rcases mark_updates hupdate pre.db now with ⟨error, hcall, -⟩ | hcall
      · rw [hcall]
        exact .kept (.refl _)
      · rw [hcall]
        exact .updated (.marked hsession hupdate)
          (updateExecutorStatus_updates pre.db now update) rfl
  | pinned hsession hfree => exact jobStep_tx (.pinned hsession hfree)
  | finalized hsession => exact jobStep_tx (.finalized hsession)
  | @background op hop =>
    cases op with
    | work op =>
      rcases background_work hop with hkept | ⟨now, job, rfl, hassigned⟩
      · exact .kept hkept
      · exact .assigned rfl hassigned
    | tx op => exact jobStep_tx (.background hop)

/-- A step without a call leaves the jobs as they are. -/
theorem jobStep_step (hstep : SystemStep deployment pre label post) :
    ∃ op, JobStep deployment pre label op post.db.work := by
  rcases step_db hstep with hsame | ⟨op, hcalls, hdb⟩
  · exact ⟨.work (.pauseChain 0), .kept (hsame ▸ .refl _)⟩
  · exact ⟨op, hdb ▸ jobStep hcalls⟩

/-! ## Statuses along a step -/

section Statuses

variable {deployment : Deployment} {pre : System} {label : Label} {op : Op} {post : WorkTables}

theorem JobAssigned.executorStatus {pre : WorkTables} {guid : Hash}
    (hassigned : JobAssigned pre post guid status) (other : Hash) :
    executorStatus post other = if other = guid then some status else executorStatus pre other := by
  rw [executorStatus_eq_map, executorStatus_eq_map, hassigned.jobs]
  split <;> rfl

/-- The update counts no failure that is already recorded. -/
def Uncharged (work : WorkTables) (update : ExecutorStatusUpdate) : Prop :=
  update.incrementRetryCount = true → work.receiveFailures.find (chargedFailure update) = none

theorem JobStep.executorStatus_cases (hstep : JobStep deployment pre label op post) (guid : Hash) :
    executorStatus post guid = executorStatus pre.db.work guid ∨
      (executorStatus pre.db.work guid = none ∧
        ∃ status ∈ firstStatuses, executorStatus post guid = some status) ∨
      ((∃ txOp, op = .tx txOp) ∧ ∃ status next, executorStatus pre.db.work guid = some status ∧
          executorStatus post guid = some next ∧ TxMove status next) ∨
      ∃ update, ExecutorCall deployment pre label update ∧ update.guid = guid ∧
        executorStatus pre.db.work guid = some update.expected ∧
        executorStatus post guid = some update.next ∧ Uncharged pre.db.work update := by
  cases hstep with
  | kept hkept =>
    left
    rw [executorStatus_eq_map, executorStatus_eq_map, hkept.executor.jobs]
  | assigned _ hassigned =>
    rw [hassigned.executorStatus]
    split
    · rename_i heq
      refine .inr (.inl ⟨?_, _, hassigned.first, rfl⟩)
      rw [heq, executorStatus_eq_map, hassigned.fresh]
      rfl
    · exact .inl rfl
  | @updated now update result hcall hupdates hpost =>
    subst hpost
    cases hupdates with
    | refused | repeated => exact .inl rfl
    | moved job _ hjob hstatus hfresh =>
      by_cases hguid : guid = update.guid
      · subst hguid
        exact .inr (.inr (.inr ⟨update, hcall, rfl, hstatus ▸ executorStatus_eq hjob,
          advance_status_self hjob, fun hcounts => (hfresh hcounts).2⟩))
      · exact .inl (advance_status_of_ne hjob hguid)
  | moved hop hstep =>
    rcases hstep.executorStatus_cases guid with hsame | hmove
    · exact .inl hsame
    · exact .inr (.inr (.inl ⟨⟨_, hop⟩, hmove⟩))

theorem JobStep.dvnStatus_cases (hstep : JobStep deployment pre label op post) (guid : Hash) :
    VerifierChange (dvnStatus pre.db.work guid) (dvnStatus post guid) ∨
      ((∃ txOp, op = .tx txOp) ∧ ∃ status next, dvnStatus pre.db.work guid = some status ∧
          dvnStatus post guid = some next ∧ TxDVNMove status next) := by
  cases hstep with
  | kept hkept => exact .inl (hkept.verifier.moves guid)
  | assigned _ hassigned =>
    refine .inl (.same ?_)
    rw [dvnStatus, dvnStatus, hassigned.verifiers]
  | updated _ hupdates hpost =>
    subst hpost
    refine .inl (.same ?_)
    cases hupdates with
    | refused | repeated => rfl
    | moved job =>
      rw [dvnStatus, dvnStatus]
      exact congrArg (fun jobs => (jobs.find guid).map DVNJobRow.status) advance_dvnJobs
  | moved hop hstep =>
    exact (hstep.dvnStatus_cases guid).imp .same fun hmove =>
      ⟨⟨_, hop⟩, hmove⟩

theorem JobStep.receiveFailures (hstep : JobStep deployment pre label op post)
    (hrecorded : (pre.db.work.receiveFailures.find failure).isSome) :
    (post.receiveFailures.find failure).isSome := by
  cases hstep with
  | kept hkept => exact hkept.executor.failures ▸ hrecorded
  | assigned _ hassigned => exact hassigned.failures ▸ hrecorded
  | @updated now update _ _ hupdates hpost =>
    subst hpost
    cases hupdates with
    | refused | repeated => exact hrecorded
    | moved job =>
      change ((advance pre.db.work now update job).receiveFailures.find failure).isSome
      rw [advance_receiveFailures, chargedFailures]
      split
      · by_cases hsame : failure = chargedFailure update
        · obtain ⟨stored, hstored⟩ := Option.isSome_iff_exists.mp hrecorded
          rw [Table.insertNew_eq_self (hsame ▸ hstored)]
          exact hrecorded
        · have hne : failure ≠ id (chargedFailure update) := hsame
          rw [Table.find_insertNew_of_ne hne]
          exact hrecorded
      · exact hrecorded
  | moved _ hstep => exact hstep.receiveFailures ▸ hrecorded

end Statuses

/-! ## Effects of a task -/

/-- The workflow effect of an outcome on the job of a task. -/
def outcomeEffect (task : Task) (txHash : Hash) (outcome : ReceiptOutcome) :
    Option WorkflowEffect :=
  if outcome = .canceled then cancelEffect task.purpose task.guid
  else receiptEffect task.purpose task.guid txHash (outcome = .confirmed)

variable {row : OutboxRow} {task : Task} {txHash : Hash} {outcome : ReceiptOutcome}
  {effect : WorkflowEffect} {update : ExecutorStatusUpdate}

theorem workflowEffect_of_task (htask : rowTask row = task.columns) :
    workflowEffect row txHash outcome = outcomeEffect task txHash outcome := by
  obtain ⟨hpurpose, hguid⟩ := Prod.mk.inj htask
  rw [workflowEffect, hguid]
  dsimp only
  rw [if_neg (not_not.mpr task.guid.2), hpurpose, outcomeEffect,
    bytesToHash, FixedBytes.ofBytes_val]

theorem exists_task (heffect : workflowEffect row txHash outcome = some effect) :
    ∃ task, rowTask row = task.columns ∧ outcomeEffect task txHash outcome = some effect := by
  have hwhole := heffect
  rw [workflowEffect] at heffect
  split at heffect
  · cases heffect
  rename_i guid hguid
  split at heffect
  · cases heffect
  rename_i hlength
  have htask : rowTask row = Task.columns ⟨⟨guid, not_not.mp hlength⟩, row.purpose⟩ := by
    rw [rowTask, hguid]
    rfl
  exact ⟨_, htask, workflowEffect_of_task htask ▸ hwhole⟩

theorem outcomeEffect_forward (heffect : outcomeEffect task txHash outcome = some effect)
    (hupdate : markUpdate effect.mark = some update) : rank update.expected ≤ rank update.next ∧
      update.next ≠ .commitTxEnqueued ∧ update.next ≠ .lzReceiveTxEnqueued := by
  cases hpurpose : task.purpose <;> cases outcome <;>
    simp only [outcomeEffect, hpurpose, cancelEffect, receiptEffect,
      reduceCtorEq, if_false, if_true, decide_true, decide_false, Option.some.injEq] at heffect <;>
    subst heffect <;> cases hupdate <;>
    simp [ExecutorStatusUpdate.move, rank]

/-! ## Ranks rise -/

section Rise

variable {deployment : Deployment} {pre post : System} {label : Label}

theorem observed_forward {event : DestinationEvent} (hcan : canApply event status = true)
    (guid txHash : Hash) :
    rank status ≤ rank (observedUpdate guid txHash status event).next ∧
      (observedUpdate guid txHash status event).next ≠ .commitTxEnqueued ∧
      (observedUpdate guid txHash status event).next ≠ .lzReceiveTxEnqueued := by
  cases event with
  | verified | delivered | alert =>
    simp only [observedUpdate, ExecutorStatusUpdate.move]
    refine ⟨?_, by simp, by simp⟩
    cases status <;> first | decide | cases hcan

theorem TxMove.forward {next : ExecutorState} (hmove : TxMove status next) :
    rank status ≤ rank next := by
  cases hmove with
  | commit => decide
  | deliver hstatus => rcases hstatus with rfl | rfl <;> decide
  | park hstatus => rcases hstatus with rfl | rfl | rfl <;> decide

theorem TxDVNMove.forward {status next : DVNState} (hmove : TxDVNMove status next) :
    verifierRank (some status) ≤ verifierRank (some next) := by
  cases hmove <;> decide

theorem executorStatus_step (hstep : SystemStep deployment pre label post) (guid : Hash) :
    executorStatus post.db.work guid = executorStatus pre.db.work guid ∨
      (executorStatus pre.db.work guid = none ∧ ∃ status ∈ firstStatuses,
          executorStatus post.db.work guid = some status) ∨
      (∃ status next, executorStatus pre.db.work guid = some status ∧
        executorStatus post.db.work guid = some next ∧ TxMove status next) ∨
      ∃ update, ExecutorCall deployment pre label update ∧ update.guid = guid ∧
        executorStatus pre.db.work guid = some update.expected ∧
        executorStatus post.db.work guid = some update.next ∧ Uncharged pre.db.work update := by
  obtain ⟨op, hjob⟩ := jobStep_step hstep
  rcases hjob.executorStatus_cases guid with hsame | hassigned | ⟨-, hmove⟩ | hupdate
  · exact .inl hsame
  · exact .inr (.inl hassigned)
  · exact .inr (.inr (.inl hmove))
  · exact .inr (.inr (.inr hupdate))

theorem receiveFailures_step (hstep : SystemStep deployment pre label post)
    (hrecorded : (pre.db.work.receiveFailures.find failure).isSome) :
    (post.db.work.receiveFailures.find failure).isSome := by
  obtain ⟨op, hjob⟩ := jobStep_step hstep
  exact hjob.receiveFailures hrecorded

variable (hheld : ∀ owner, SessionHeld pre.db.tx (pre.sessions owner))

include hheld

theorem ExecutorCall.forward
    (hcall : ExecutorCall deployment pre label update) : rank update.expected ≤ rank update.next ∧
      update.next ≠ .commitTxEnqueued ∧ update.next ≠ .lzReceiveTxEnqueued := by
  cases hcall with
  | worker _ _ _ hforward hnext _ => exact ⟨hforward.le, hnext.1, hnext.2.1⟩
  | @observed indexer now packet job log event _ happlies =>
    have hforward := observed_forward happlies.can packet.guid log.txHash
    cases event <;> exact hforward
  | @marked manager now poll outcome effect _ hsession hupdate =>
    have hsessionheld := hheld manager
    rw [hsession] at hsessionheld
    obtain ⟨task, -, heffect⟩ := exists_task hsessionheld.2
    exact outcomeEffect_forward heffect hupdate

theorem ranksRise_step (hstep : SystemStep deployment pre label post) :
    RanksRise pre.db.work post.db.work where
  executor guid := by
    rcases executorStatus_step hstep guid with hsame | ⟨hnone, -⟩ |
      ⟨status, next, hbefore, hafter, hmove⟩ | ⟨update, hcall, -, hbefore, hafter, -⟩
    · rw [executorRank, executorRank, hsame]
    · rw [executorRank, hnone]
      exact Nat.zero_le _
    · rw [executorRank_eq hbefore, executorRank_eq hafter]
      exact hmove.forward
    · rw [executorRank_eq hbefore, executorRank_eq hafter]
      exact (hcall.forward hheld).1
  verifier guid := by
    obtain ⟨op, hjob⟩ := jobStep_step hstep
    rcases hjob.dvnStatus_cases guid with
      hchange | ⟨-, status, next, hbefore, hafter, hmove⟩
    · rcases hchange.rises with hsame | ⟨-, hrank⟩
      · rw [hsame]
      · exact hrank
    · rw [hbefore, hafter]
      exact hmove.forward

theorem waits_of_work {op : WorkOp} (hpacket : txSendScopeKind task.purpose = .packet)
    (hcalls : Calls deployment pre label (.work op)) (hwaits : Waits (op.apply pre.db).work task) :
    Waits pre.db.work task := by
  have hexecutor : ∀ status, status = .commitTxEnqueued ∨ status = .lzReceiveTxEnqueued →
      executorStatus (op.apply pre.db).work task.guid = some status →
      executorStatus pre.db.work task.guid = some status := by
    intro status hawaited hafter
    rcases (jobStep hcalls).executorStatus_cases task.guid with
      hsame | ⟨-, first, hfirst, hassigned⟩ | ⟨⟨_, hop⟩, -⟩ | ⟨update, hcall, -, -, hmoved, -⟩
    · exact hsame ▸ hafter
    · have hsame := hassigned.symm.trans hafter
      cases hsame
      rcases hawaited with rfl | rfl <;> cases hfirst <;> contradiction
    · cases hop
    · have hsame := hmoved.symm.trans hafter
      cases hsame
      obtain ⟨-, hcommit, hdeliver⟩ := hcall.forward hheld
      exact absurd hawaited (not_or.mpr ⟨hcommit, hdeliver⟩)
  rw [Waits, WaitsOn.eq_def] at hwaits ⊢
  cases hpurpose : task.purpose <;> rw [hpurpose] at hwaits hpacket
  case executorCommitVerification => exact hexecutor _ (.inl rfl) hwaits
  case executorLzReceive => exact hexecutor _ (.inr rfl) hwaits
  case dvnVerify =>
    rcases (jobStep hcalls).dvnStatus_cases task.guid with
      hchange | ⟨⟨_, hop⟩, -⟩
    · rcases hchange.rises with hsame | ⟨hnot, -⟩
      · exact hsame ▸ hwaits
      · exact absurd hwaits hnot
    · cases hop
  all_goals cases hpacket

/-- A step seen from one task: it leaves the transactions alone and lets no job
start to wait, or it is a transaction method. -/
theorem task_step (hpacket : txSendScopeKind task.purpose = .packet)
    (hreached : Reached pre.db) (hstep : SystemStep deployment pre label post) :
    (post.db.tx = pre.db.tx ∧ (Waits post.db.work task → Waits pre.db.work task)) ∨
      ∃ op, Calls deployment pre label (.tx op) ∧ TaskEffect task pre.db op post.db ∧
        JobsStep pre.db.work post.db.work := by
  rcases step_db hstep with hsame | ⟨op, hcalls, hdb⟩
  · rw [hsame]
    exact .inl ⟨rfl, id⟩
  rw [hdb]
  cases op with
  | work op => exact .inl ⟨workOp_apply_tx _ _, waits_of_work hheld hpacket hcalls⟩
  | tx op =>
    have heffect := txOp_effect pre.db op
    have hproper := calls_proper hcalls
    exact .inr ⟨op, hcalls, taskEffect_of_txEffect hpacket hreached.sound
      hreached.chains hproper heffect, jobsStep_of_txEffect hproper heffect⟩

end Rise

end Lazier.Delivery
