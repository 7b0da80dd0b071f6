import Lazier.Delivery.PinnedReceipts

/-!
# The delivery budget

A packet has one standing delivery at a time, and its job is charged once for
every transaction that failed to deliver it.
-/

namespace Lazier.Delivery

open Library Ledger Store Workflow List

variable {deployment : Deployment} {history : List (Event System Label)} {system : System}
  {pre post : WorkTables} {guid : Hash} {job after : ExecutorJobRow}

/-! ## Charges -/

/-- The transactions recorded as failed deliveries of a packet. -/
def charges (work : WorkTables) (guid : Hash) : ℕ :=
  work.receiveFailures.rows.countP (·.guid = guid)

/-- The retry count of a packet's job. -/
def spent (work : WorkTables) (guid : Hash) : ℕ := ((jobState work guid).map Prod.snd).getD 0

def Balanced (work : WorkTables) : Prop := ∀ guid, spent work guid = charges work guid

theorem spent_eq (hfind : pre.executorJobs.find guid = some job) :
    spent pre guid = job.retryCount := by
  rw [spent, jobState, hfind]
  rfl

theorem spent_of_set (hjobs : post.executorJobs = pre.executorJobs.set after)
    (hfind : pre.executorJobs.find guid = some job) (hguid : after.guid = job.guid) (other : Hash) :
    spent post other = if other = guid then after.retryCount else spent pre other := by
  rw [spent, jobState, hjobs, Table.map_find_set hfind hguid]
  split <;> rfl

section Advance

variable {now : Time} {update : ExecutorStatusUpdate} (hfresh : update.incrementRetryCount →
  pre.receiveFailures.find (chargedFailure update) = none)

include hfresh

theorem charges_advance (other : Hash) : charges (advance pre now update job) other =
    charges pre other + if update.incrementRetryCount ∧ other = update.guid then 1 else 0 := by
  rw [charges, charges, advance_receiveFailures, chargedFailures]
  split
  · rename_i hcounts
    have habsent : id (chargedFailure update) ∉ pre.receiveFailures.rows.map id := by
      rw [map_id]
      exact fun hmem => Table.find_eq_none.mp (hfresh hcounts) _ hmem rfl
    rw [Table.insertNew, dif_neg habsent, countP_append]
    simp [countP_singleton, chargedFailure, hcounts, eq_comm]
  · simp [*]

theorem Balanced.advance (hbalanced : Balanced pre)
    (hjob : pre.executorJobs.find update.guid = some job) :
    Balanced (advance pre now update job) := by
  intro other
  have hjobs : (Workflow.advance pre now update job).executorJobs =
      pre.executorJobs.set (advancedJob now update job) := setPacketStatus_executorJobs _ _ _
  rw [spent_of_set hjobs hjob rfl, advancedJob, ← spent_eq hjob, charges_advance hfresh,
    ← hbalanced]
  split_ifs <;> simp_all

end Advance

theorem JobStep.balanced {label : Label} {op : Op} (hbalanced : Balanced system.db.work)
    (hstep : JobStep deployment system label op post) : Balanced post := by
  intro other
  cases hstep with
  | kept hkept =>
    rw [spent, hkept.executor.jobs, charges, hkept.executor.failures]
    exact hbalanced other
  | assigned _ hassigned =>
    rw [charges, hassigned.failures, spent, hassigned.jobs]
    refine Eq.trans ?_ (hbalanced other)
    split
    · rename_i heq
      rw [heq, spent, hassigned.fresh]
      rfl
    · rfl
  | updated _ hupdates hpost =>
    subst hpost
    cases hupdates with
    | refused | repeated => exact hbalanced other
    | moved job _ hjob _ hfresh =>
      exact hbalanced.advance (fun hcounts => (hfresh hcounts).2) hjob other
  | moved _ hstep =>
    rw [charges, hstep.receiveFailures]
    refine Eq.trans ?_ (hbalanced other)
    cases hstep with
    | same => rfl
    | executor hpost hfind hguid hcount =>
      have hjobs := hpost.elim (· ▸ JobWritten.set.jobs) (· ▸ JobWritten.cas.jobs)
      rw [spent_of_set hjobs hfind hguid, hcount, ← spent_eq hfind]
      split <;> simp_all
    | dvn hpost => exact hpost ▸ rfl

/-- In every run a job has been charged once for every transaction that failed to
deliver its packet. -/
theorem failures_charged_once (hrun : SystemRun deployment history system) :
    ∀ job ∈ system.db.work.executorJobs, job.retryCount = charges system.db.work job.guid := by
  intro job hjob
  have hbalanced := hrun.invariant (fun system => Balanced system.db.work)
    (fun _ _ _ hpre hstep => (jobStep_step hstep).elim fun _ => JobStep.balanced hpre) fun _ => rfl
  rw [← hbalanced, spent_eq (Table.find_eq_some.mpr ⟨hjob, rfl⟩)]

theorem alert_charged : ∃ history system, SystemRun sampleDeployment history system ∧
      ∃ job ∈ system.db.work.executorJobs, charges system.db.work job.guid = 1 := by
  obtain ⟨history, system, hrun, -, hcheck⟩ := sampleRun (fun _ _ => true)
    (enqueuedDelivery ++ observe 1 alertLog)
    (fun system => system.db.work.executorJobs.rows.any (·.retryCount = 1)) (by decide +kernel)
  obtain ⟨job, hjob, hcount⟩ := any_eq_true.mp hcheck
  exact ⟨history, system, hrun, job, hjob,
    (failures_charged_once hrun job hjob).symm.trans (of_decide_eq_true hcount)⟩

/-! ## Standing deliveries -/

/-- A delivery row that still stands for its packet: it has no receipt and has not
lost its nonce to someone else. -/
structure Stands (guid : Hash) (row : OutboxRow) : Prop where
  task : rowTask row = (delivery guid).columns
  receipt : row.receipt = none
  nonce : row.status.terminal = true → row.failureKind ≠ some .nonceConsumedExternally

theorem Stands.outstanding {db : DB} {row : OutboxRow} (hstands : Stands guid row)
    (hrow : row ∈ db.tx.outbox) : Outstanding db guid row.id := by
  have hphase : phaseAt db.tx (delivery guid) row.id = some (phase row) := by
    rw [phaseAt, rowAt_eq_some.mpr ⟨SerialTable.find_of_mem hrow, hstands.task⟩]
    rfl
  rw [phase, hstands.receipt] at hphase
  cases hended : row.status.terminal with
  | false => exact .inFlight (by rwa [hended] at hphase)
  | true => exact .reverted (by rwa [hended, if_pos rfl, if_neg (hstands.nonce hended)] at hphase)

/-- As long as no alert fails a job that waits, a packet has one standing delivery
at most, and none while its job waits for the next one. -/
theorem one_delivery_stands (hrun : SystemRun deployment history system)
    (hspares : ∀ event ∈ history, sparesWaiting deployment event.pre event.label = true)
    (guid : Hash) :
    {row | row ∈ system.db.tx.outbox ∧ Stands guid row}.Subsingleton ∧
      (executorStatus system.db.work guid = some .lzReceiveFailed →
        ∀ row ∈ system.db.tx.outbox, ¬ Stands guid row) := by
  have horderly := orderly_run hrun hspares
  refine ⟨fun left hleft right hright => ?_, fun hfailed row hrow hstands => ?_⟩
  · exact SerialTable.eq_of_key_eq hleft.1 hright.1 (horderly.one guid _ _
      (hleft.2.outstanding hleft.1) (hright.2.outstanding hright.1))
  · exact horderly.failed guid _ hfailed (hstands.outstanding hrow)

theorem sentDelivery_stands : ∃ history system, SystemRun sampleDeployment history system ∧
      ∃ row ∈ system.db.tx.outbox, ∀ other ∈ system.db.tx.outbox,
        Stands optionedPacket.guid other → other = row := by
  obtain ⟨history, system, hrun, hspares, hcheck⟩ := sampleRun (sparesWaiting sampleDeployment)
      (enqueuedDelivery ++ sent 1 7)
      (fun system => system.db.tx.outbox.rows.any fun row =>
        decide (rowTask row = (delivery optionedPacket.guid).columns ∧ row.receipt = none) &&
          !row.status.terminal)
      (by decide +kernel)
  simp only [any_eq_true, Bool.and_eq_true, Bool.not_eq_true', decide_eq_true_eq] at hcheck
  obtain ⟨row, hrow, ⟨htask, hreceipt⟩, hopen⟩ := hcheck
  have hstands : Stands optionedPacket.guid row := ⟨htask, hreceipt, by simp [hopen]⟩
  exact ⟨history, system, hrun, row, hrow, fun other hother hother' =>
    (one_delivery_stands hrun hspares _).1 ⟨hother, hother'⟩ ⟨hrow, hstands⟩⟩

end Lazier.Delivery
