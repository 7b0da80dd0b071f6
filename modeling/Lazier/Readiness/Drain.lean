import Lazier.Ledger.RetryChains
import Lazier.Store.Stats

/-!
# Draining a pathway

`CheckDrainStatus` reports whether a pathway has unfinished work left.  Its
queries are separate statements, and each reads the state committed at its own
moment.
-/

namespace Lazier.Readiness

open Library Store Ledger

/-! ## The report -/

/-- The join with the packets of the pathway. -/
def onPathway (work : WorkTables) (srcEID dstEID : ℕ) (guid : Option Bytes) : Bool :=
  work.packets.rows.any fun packet =>
    decide (guid = some packet.guid.1 ∧ packet.srcEID = srcEID ∧ packet.dstEID = dstEID)

def executorStatuses (db : DB) (srcEID dstEID : ℕ) : List ExecutorState :=
  (db.work.executorJobs.rows.filter fun job =>
    onPathway db.work srcEID dstEID (some job.guid.1)).map ExecutorJobRow.status

def dvnStatuses (db : DB) (srcEID dstEID : ℕ) : List DVNState :=
  (db.work.dvnJobs.rows.filter fun job =>
    onPathway db.work srcEID dstEID (some job.guid.1)).map DVNJobRow.status

def outboxStatuses (db : DB) (srcEID dstEID : ℕ) : List TxStatus :=
  (db.tx.outbox.rows.filter fun row =>
    onPathway db.work srcEID dstEID row.guid).map OutboxRow.status

def statusCounts {State : Type} [DecidableEq State] (statuses : List State) :
    List (StatusStat State) :=
  (groupBy id statuses).map fun group => ⟨group.1, group.2.length⟩

structure DrainStatus where
  srcEID : ℕ
  dstEID : ℕ
  ready : Bool
  packetsTotal : ℕ
  executorPending : List (StatusStat ExecutorState)
  dvnPending : List (StatusStat DVNState)
  outboxPending : List (StatusStat TxStatus)
  verifiedButUndeliveredCount : ℕ

/-- The report over the states that its five queries read, by their order. -/
def checkDrainStatus (reads : ℕ → DB) (srcEID dstEID : ℕ) : Except String DrainStatus :=
  if srcEID = 0 ∨ dstEID = 0 then .error "source and destination eids are required"
  else if srcEID = dstEID then .error "source and destination eids must differ"
  else if 2 ^ 31 ≤ srcEID ∨ 2 ^ 31 ≤ dstEID then .error int4Error.text
  else
    let executorPending := statusCounts
      ((executorStatuses (reads 1) srcEID dstEID).filter (· ≠ .delivered))
    let dvnPending := statusCounts
      ((dvnStatuses (reads 2) srcEID dstEID).filter (· ∉ [.wouldVerify, .verified]))
    let outboxPending := statusCounts
      ((outboxStatuses (reads 3) srcEID dstEID).filter (· ≠ .confirmed))
    .ok
      { srcEID, dstEID, executorPending, dvnPending, outboxPending
        ready := executorPending.isEmpty && dvnPending.isEmpty && outboxPending.isEmpty
        packetsTotal := (reads 0).work.packets.rows.countP fun packet =>
          packet.srcEID = srcEID ∧ packet.dstEID = dstEID
        verifiedButUndeliveredCount := (executorStatuses (reads 4) srcEID dstEID).countP
          (· ∈ [.committed, .executable, .lzReceiveTxEnqueued, .lzReceiveFailed]) }

def Reports (reads : ℕ → DB) (srcEID dstEID : ℕ) : Prop :=
  ∃ status, checkDrainStatus reads srcEID dstEID = .ok status ∧ status.ready = true

/-! ## What it tests -/

variable {db : DB} {reads : ℕ → DB} {srcEID dstEID : ℕ}

abbrev JobsDelivered (db : DB) (srcEID dstEID : ℕ) : Prop :=
  ∀ status ∈ executorStatuses db srcEID dstEID, status = .delivered

abbrev JobsVerified (db : DB) (srcEID dstEID : ℕ) : Prop :=
  ∀ status ∈ dvnStatuses db srcEID dstEID, status ∈ [.wouldVerify, .verified]

abbrev RowsConfirmed (db : DB) (srcEID dstEID : ℕ) : Prop :=
  ∀ status ∈ outboxStatuses db srcEID dstEID, status = .confirmed

theorem statusCounts_isEmpty {State : Type} [DecidableEq State] {statuses : List State}
    {unfinished : State → Prop} [DecidablePred unfinished] :
    (statusCounts (statuses.filter unfinished)).isEmpty = true ↔
      ∀ status ∈ statuses, ¬ unfinished status := by
  simp [statusCounts, groupBy, List.dedup_eq_nil, List.filter_eq_nil_iff]

/-- Two ids of chains, as the schema stores them. -/
abbrev EIDs (srcEID dstEID : ℕ) : Prop :=
  srcEID ≠ 0 ∧ dstEID ≠ 0 ∧ srcEID ≠ dstEID ∧ srcEID < 2 ^ 31 ∧ dstEID < 2 ^ 31

/-- A report is ready exactly if each query found its table finished. -/
theorem reports_iff : Reports reads srcEID dstEID ↔ EIDs srcEID dstEID ∧
    JobsDelivered (reads 1) srcEID dstEID ∧ JobsVerified (reads 2) srcEID dstEID ∧
      RowsConfirmed (reads 3) srcEID dstEID := by
  by_cases hids : EIDs srcEID dstEID
  · rw [and_iff_right hids, Reports, checkDrainStatus, if_neg (by omega), if_neg hids.2.2.1,
      if_neg (by omega)]
    simp only [Except.ok.injEq, exists_eq_left', Bool.and_eq_true, statusCounts_isEmpty, not_not,
      and_assoc, JobsDelivered, JobsVerified, RowsConfirmed]
  · refine iff_of_false ?_ fun hready => hids hready.1
    unfold Reports checkDrainStatus
    split_ifs
    · simp
    · simp
    · simp
    · omega

/-! ## A finished pathway -/

/-- All work of the pathway has ended, and a confirmed row of the same task
stands beside every failed one. -/
structure Finished (db : DB) (srcEID dstEID : ℕ) : Prop where
  delivered : JobsDelivered db srcEID dstEID
  verified : JobsVerified db srcEID dstEID
  ended : ∀ status ∈ outboxStatuses db srcEID dstEID, status.terminal = true
  superseded : ∀ row ∈ db.tx.outbox.rows, onPathway db.work srcEID dstEID row.guid = true →
    row.status = .failed → ∃ other ∈ db.tx.outbox.rows,
      other.status = .confirmed ∧ other.guid = row.guid ∧ other.purpose = row.purpose

/-- A finished pathway is reported drained exactly if none of its rows has ever
failed: the failed rows that stay as evidence count as pending. -/
theorem finished_pathway_drains_iff (hids : EIDs srcEID dstEID)
    (hfinished : Finished db srcEID dstEID) :
    Reports (fun _ => db) srcEID dstEID ↔ .failed ∉ outboxStatuses db srcEID dstEID := by
  rw [reports_iff]
  constructor
  · rintro ⟨-, -, -, hconfirmed⟩ hfailed
    cases hconfirmed _ hfailed
  · intro hfailed
    refine ⟨hids, hfinished.delivered, hfinished.verified, fun status hstatus => ?_⟩
    have hended := hfinished.ended status hstatus
    cases status with
    | confirmed => rfl
    | failed => exact absurd hstatus hfailed
    | _ => cases hended

/-- The commit is mined, and another executor delivers the packet before it is
finalized. -/
def deliveredBy (now : Time) (id nonce : ℕ) : List Op :=
  [.tx (.finalizeAttemptReceipt (now + 2) (now + 2) id (minedFacts nonce true)),
    .work (.markExecutorDeliveredFromChain (now + 2) firstPacket.guid .executable),
    .work (.markExecutorExecutable (now + 2) firstPacket.guid),
    .work (.markExecutorCommitted (now + 1) firstPacket.guid (.ofNat 32 nonce)),
    .tx (.prepareReceiptResolution (now + 1) id (minedFacts nonce true))] ++
  sendRow now ⟨2, "keeper"⟩ id nonce

theorem minedCommit_drains :
    Reports (fun _ => replay (deliveredBy 1 1 7 ++ revertedCommit.drop 5)) 1 2 :=
  (finished_pathway_drains_iff (by decide) ⟨by decide +kernel, by decide +kernel,
    by decide +kernel, by decide +kernel⟩).mpr (by decide +kernel)

/-- A commit that reverts once leaves a finished pathway that is not reported
drained. -/
theorem retriedCommit_undrained : ∃ history db, StoreRun history db ∧ Finished db 1 2 ∧
    ¬ Reports (fun _ => db) 1 2 := by
  refine ⟨_, _, storeRun_trace (deliveredBy (61 * minute) 2 8 ++ retriedCommit),
    ⟨by decide +kernel, by decide +kernel, by decide +kernel, by decide +kernel⟩, ?_⟩
  rw [reports_iff]
  decide +kernel

/-! ## Queries at different moments -/

/-- The state after the first calls of a run from the empty schema. -/
def stateAt (ops : ℕ → Op) (moment : ℕ) : DB := replay ((List.range moment).reverse.map ops)

theorem stateAt_succ (ops : ℕ → Op) (moment : ℕ) :
    stateAt ops (moment + 1) = (ops moment).apply (stateAt ops moment) := by
  simp [stateAt, List.range_succ, replay]

/-- The states at the moments are those that runs of the store reach. -/
theorem storeRun_iff_stateAt : (∃ history, StoreRun history db) ↔
    ∃ ops moment, stateAt ops moment = db := by
  constructor
  · rintro ⟨history, hrun⟩
    induction hrun with
    | start => exact ⟨fun _ => .work (.pauseChain 0), 0, rfl⟩
    | @extend history pre post op before last ih =>
      obtain ⟨ops, moment, rfl⟩ := ih
      refine ⟨Function.update ops moment op, moment + 1, ?_⟩
      have hearlier : stateAt (Function.update ops moment op) moment = stateAt ops moment := by
        unfold stateAt
        refine congrArg replay (List.map_congr_left fun earlier hearlier => ?_)
        exact Function.update_of_ne (by simpa using Nat.ne_of_lt (by simpa using hearlier)) ..
      rw [stateAt_succ, Function.update_self, hearlier]
      exact last.symm
  · rintro ⟨ops, moment, rfl⟩
    exact ⟨_, storeRun_trace _⟩

/-- The pathway has no unfinished work. -/
abbrev Drained (db : DB) (srcEID dstEID : ℕ) : Prop :=
  JobsDelivered db srcEID dstEID ∧ JobsVerified db srcEID dstEID ∧ RowsConfirmed db srcEID dstEID

/-- The call starts a job of the pathway, or takes a finished one back. -/
def OpensJob (srcEID dstEID : ℕ) (pre : DB) (op : Op) : Prop :=
  JobsDelivered pre srcEID dstEID ∧ ¬ JobsDelivered (op.apply pre) srcEID dstEID ∨
    JobsVerified pre srcEID dstEID ∧ ¬ JobsVerified (op.apply pre) srcEID dstEID

variable {ops : ℕ → Op}

theorem stateAt_keeps (test : DB → Prop) {first last : ℕ} (hle : first ≤ last)
    (hfirst : test (stateAt ops first))
    (hkeeps : ∀ moment, first ≤ moment → moment < last → test (stateAt ops moment) →
      test ((ops moment).apply (stateAt ops moment))) : test (stateAt ops last) := by
  induction last, hle using Nat.le_induction with
  | base => exact hfirst
  | succ last hle ih =>
    rw [stateAt_succ]
    exact hkeeps last hle (Nat.lt_succ_self last)
      (ih fun moment hfrom hto => hkeeps moment hfrom (hto.trans (Nat.lt_succ_self last)))

/-- When no job of the pathway is opened between the queries for jobs and rows,
a ready report is true when the last of them runs. -/
theorem drain_report_true {moments : ℕ → ℕ} (hmoments : Monotone moments)
    (hquiet : ∀ moment, moments 1 ≤ moment → moment < moments 3 →
      ¬ OpensJob srcEID dstEID (stateAt ops moment) (ops moment))
    (hready : Reports (fun query => stateAt ops (moments query)) srcEID dstEID) :
    ∃ moment, moments 0 ≤ moment ∧ moment ≤ moments 4 ∧
      Drained (stateAt ops moment) srcEID dstEID := by
  obtain ⟨-, hdelivered, hverified, hconfirmed⟩ := reports_iff.mp hready
  have hjobs : moments 1 ≤ moments 2 := hmoments (by decide)
  have hrows : moments 2 ≤ moments 3 := hmoments (by decide)
  refine ⟨moments 3, hmoments (by decide), hmoments (by decide), ?_, ?_, hconfirmed⟩
  · refine stateAt_keeps (JobsDelivered · srcEID dstEID) (hjobs.trans hrows) hdelivered ?_
    intro moment hfrom hto hpre
    by_contra hpost
    exact hquiet moment hfrom hto (.inl ⟨hpre, hpost⟩)
  · refine stateAt_keeps (JobsVerified · srcEID dstEID) hrows hverified ?_
    intro moment hfrom hto hpre
    by_contra hpost
    exact hquiet moment (hjobs.trans hfrom) hto (.inr ⟨hpre, hpost⟩)

/-- The calls of a list, oldest first. -/
def calls (list : List Op) (moment : ℕ) : Op := list.getD moment (.work (.pauseChain 0))

/-- The executor is assigned while the verification is still out. -/
def lateAssignment : List Op :=
  [.work (.syncConfig ⟨[1, 2], [⟨firstPacket.route, true⟩]⟩), .work (.upsertPacket firstPacket),
    .work (.upsertDVNJob 0 ⟨firstPacket.guid, none, 1, .assigned, none⟩),
    .work (.upsertExecutorJob 0 ⟨firstPacket.guid, none, .assigned, ""⟩),
    .work (.markDVNVerifiedObserved 1 firstPacket.guid (.ofNat 32 9) .assigned)]

/-- The verification is observed after the delivered commit. -/
def lateVerification : List Op :=
  .work (.markDVNVerifiedObserved 4 firstPacket.guid (.ofNat 32 9) .assigned) ::
    deliveredBy 1 1 7 ++ .work (.upsertDVNJob 0 ⟨firstPacket.guid, none, 1, .assigned, none⟩) ::
      revertedCommit.drop 5

/-- The executor jobs are read before the commit is finalized and the
verification observed, the other tables after it. -/
theorem lateVerification_drained : ∃ moment, 14 ≤ moment ∧ moment ≤ 16 ∧
    Drained (stateAt (calls lateVerification.reverse) moment) 1 2 := by
  refine @drain_report_true 1 2 _ (fun query => if query < 2 then 14 else 16)
    (fun _ _ _ => by grind) (fun moment hfrom hto => ?_) ?_
  · change 14 ≤ moment at hfrom
    change moment < 16 at hto
    unfold OpensJob
    interval_cases moment <;> decide +kernel
  · rw [reports_iff]
    decide +kernel

/-- The executor jobs are read before the assignment and the DVN jobs after the
verification: the report is ready, and the pathway never was. -/
theorem lateAssignment_misreported : ∃ ops moments, Monotone moments ∧
    Reports (fun query => stateAt ops (moments query)) 1 2 ∧
      ∀ moment, moments 0 ≤ moment → moment ≤ moments 4 → ¬ Drained (stateAt ops moment) 1 2 := by
  refine ⟨calls lateAssignment, fun query => if query < 2 then 3 else 5, fun _ _ _ => ?_, ?_,
    fun moment hfrom hto => ?_⟩
  · grind
  · rw [reports_iff]
    decide +kernel
  · change 3 ≤ moment at hfrom
    change moment ≤ 5 at hto
    interval_cases moment <;> decide +kernel

end Lazier.Readiness
