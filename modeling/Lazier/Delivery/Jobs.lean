import Lazier.Delivery.Sessions

/-!
# How jobs move

Every status of an executor job has a rank, and no step of the system lowers
it; the same holds for the three last statuses of a DVN job.  What the phases
of a task's rows say about its job is said in terms of these ranks.
-/

namespace Lazier.Delivery

open Chain Executor Indexer Ledger Library Manager Store Workflow Option Table

variable {job : ExecutorJobRow} {expected : DVNState} {quorumResult : Option QuorumResult}
  {reason : String}

/-! ## Ranks -/

/-- Only an enqueued delivery and a failed one follow each other both ways. -/
def rank : ExecutorState → ℕ
  | .new => 0
  | .assigned => 0
  | .waitingDVNVerification => 1
  | .verifiable => 2
  | .commitTxEnqueued => 3
  | .committed => 4
  | .executable => 5
  | .lzReceiveTxEnqueued => 6
  | .lzReceiveFailed => 6
  | .manualReview => 7
  | .delivered => 8

def executorRank (work : WorkTables) (guid : Hash) : ℕ :=
  ((executorStatus work guid).map rank).getD 0

def verifierRank (status : Option DVNState) : ℕ :=
  match status with
  | some .verifyTxEnqueued => 1
  | some .verified => 2
  | some .manualReview => 2
  | _ => 0

/-- How far the job has come with the task: nothing is enqueued at 0, and from
2 on the job has left the task behind for good. -/
def progress (work : WorkTables) (task : Task) : ℕ :=
  match task.purpose with
  | .executorCommitVerification => executorRank work task.guid - 2
  | .executorLzReceive => executorRank work task.guid - 5
  | .dvnVerify => verifierRank (dvnStatus work task.guid)
  | _ => 2

/-- A transaction of the task has been enqueued. -/
def Started (work : WorkTables) (task : Task) : Prop := 1 ≤ progress work task

def Past (work : WorkTables) (task : Task) : Prop := 2 ≤ progress work task

/-- Ranks do not go down. -/
structure RanksRise (pre post : WorkTables) : Prop where
  executor : ∀ guid, executorRank pre guid ≤ executorRank post guid
  verifier : ∀ guid, verifierRank (dvnStatus pre guid) ≤ verifierRank (dvnStatus post guid)

variable {pre post work : WorkTables} {task : Task} {guid : Hash} {status : ExecutorState}

theorem executorRank_eq (hstatus : executorStatus work guid = some status) :
    executorRank work guid = rank status := by
  rw [executorRank, hstatus]
  rfl

theorem progress_rises (hrise : RanksRise pre post) (task : Task) :
    progress pre task ≤ progress post task := by
  have hexecutor := hrise.executor task.guid
  have hverifier := hrise.verifier task.guid
  rw [progress.eq_def, progress.eq_def]
  cases task.purpose <;> dsimp only <;> omega

theorem Started.rises (hrise : RanksRise pre post) (hstarted : Started pre task) :
    Started post task := hstarted.trans (progress_rises hrise task)

theorem Past.rises (hrise : RanksRise pre post) (hpast : Past pre task) : Past post task :=
  hpast.trans (progress_rises hrise task)

theorem started_of_waits (hwaits : Waits work task) : Started work task := by
  rw [Waits, WaitsOn.eq_def] at hwaits
  rw [Started, progress.eq_def]
  cases hpurpose : task.purpose <;> rw [hpurpose] at hwaits <;>
    dsimp only at hwaits ⊢
  case executorCommitVerification | executorLzReceive =>
    rw [executorRank_eq hwaits]
    decide
  case dvnVerify => rw [hwaits]; decide
  all_goals decide

theorem exists_status_of_rank (hrank : 0 < executorRank work guid) :
    ∃ status, executorStatus work guid = some status ∧ executorRank work guid = rank status := by
  cases hstatus : executorStatus work guid with
  | none => simp [executorRank, hstatus] at hrank
  | some status => exact ⟨status, rfl, executorRank_eq hstatus⟩

/-! ## Columns of executor jobs -/

/-- The columns of a job that only its own methods write. -/
def jobState (work : WorkTables) (guid : Hash) : Option (ExecutorState × ℕ) :=
  (work.executorJobs.find guid).map fun job => (job.status, job.retryCount)

theorem executorStatus_eq_map : executorStatus work guid = (jobState work guid).map Prod.fst := by
  rw [executorStatus, jobState, map_map]
  rfl

/-- Statuses, retry counts and recorded failures stay, and stored packets keep
their status. -/
structure ExecutorKept (pre post : WorkTables) : Prop where
  jobs : ∀ guid, jobState post guid = jobState pre guid
  packets : ∀ guid status, packetStatus pre guid = some status →
    packetStatus post guid = some status
  failures : post.receiveFailures = pre.receiveFailures

theorem ExecutorKept.of_eq (hjobs : post.executorJobs = pre.executorJobs)
    (hpackets : post.packets = pre.packets)
    (hfailures : post.receiveFailures = pre.receiveFailures) : ExecutorKept pre post where
  jobs guid := by rw [jobState, jobState, hjobs]
  packets guid status hstatus := by
    rw [packetStatus, hpackets]
    exact hstatus
  failures := hfailures

theorem ExecutorKept.setExecutorJob (hfind : work.executorJobs.find guid = some job)
    (after : ExecutorJobRow) (hguid : after.guid = job.guid) (hstatus : after.status = job.status)
    (hcount : after.retryCount = job.retryCount) :
    ExecutorKept work (work.setExecutorJob after) where
  jobs other := by
    refine (map_find_set hfind hguid other).trans ?_
    split
    · rename_i heq
      rw [jobState, heq, hfind, map_some, hstatus, hcount]
    · rfl
  packets _ _ hpacket := hpacket
  failures := rfl

theorem ExecutorKept.setPacket {packet : PacketRecord}
    (hfind : work.packets.find guid = some packet) {after : PacketRecord}
    (hguid : after.guid = packet.guid) (hstatus : after.status = packet.status) :
    ExecutorKept work { work with packets := work.packets.set after } where
  jobs _ := rfl
  packets other status hpacket := by
    have hkey : after.guid = guid := hguid.trans (find_eq_some.mp hfind).2
    by_cases hother : other = guid
    · subst hother
      rw [packetStatus, hfind, map_some] at hpacket
      rw [packetStatus, ← hkey, find_set_self (hkey.symm ▸ hfind), map_some, hstatus]
      exact hpacket
    · rw [packetStatus, find_set_of_ne (hkey.symm ▸ hother)]
      exact hpacket
  failures := rfl

/-- A new job of a stored packet. -/
structure JobAssigned (pre post : WorkTables) (guid : Hash) (status : ExecutorState) : Prop where
  nonzero : guid ≠ Hash.zero
  first : status ∈ firstStatuses
  fresh : jobState pre guid = none
  packet : packetStatus pre guid ≠ none
  jobs : ∀ other, jobState post other =
    if other = guid then some (status, 0) else jobState pre other
  packets : post.packets = pre.packets
  failures : post.receiveFailures = pre.receiveFailures
  verifiers : post.dvnJobs = pre.dvnJobs

/-! ## Calls that move an executor job -/

/-- The update of a workflow effect on an executor job. -/
def markUpdate : WorkflowMark → Option ExecutorStatusUpdate
  | .committed guid txHash =>
    some { ExecutorStatusUpdate.move guid .commitTxEnqueued .committed with
      commitTxHash := some txHash }
  | .delivered guid txHash =>
    some { ExecutorStatusUpdate.move guid .lzReceiveTxEnqueued .delivered
      with receiveTxHash := some txHash }
  | .receiveFailed guid txHash =>
    some ⟨guid, .lzReceiveTxEnqueued, .lzReceiveFailed, none, some txHash,
      "lzReceive transaction reverted", true⟩
  | .parkExecutor guid expected =>
    some { ExecutorStatusUpdate.move guid expected .manualReview with
      lastError := cancelReason }
  | _ => none

/-- The updates of executor jobs outside the transaction methods. -/
inductive ExecutorCall (deployment : Deployment) (pre : System) :
    Label → ExecutorStatusUpdate → Prop
  | worker {worker : ℕ} {now : Time} {reads : Reads}
      {item : ExecutorWorkItem} {update : ExecutorStatusUpdate}
      (hsession : pre.sessions worker = .listed item) (hguid : update.guid = item.packet.guid)
      (hexpected : update.expected = item.status)
      (hforward : rank update.expected < rank update.next)
      (hnext : update.next ≠ .commitTxEnqueued ∧
        update.next ≠ .lzReceiveTxEnqueued ∧ update.next ≠ .lzReceiveFailed)
      (hfree : update.incrementRetryCount = false) :
      ExecutorCall deployment pre (.work worker now reads) update
  | observed {indexer : ℕ} {now : Time} {packet : PacketRecord}
      {job : ExecutorJobRow} {log : Log} {event : DestinationEvent}
      (hsession : pre.sessions indexer = .observing packet job log)
      (happlies : Applies deployment job log event) :
      ExecutorCall deployment pre (.apply indexer now)
        (observedUpdate packet.guid log.txHash job.status event)
  | marked {manager : ℕ} {now : Time} {poll : Polled}
      {outcome : ReceiptOutcome} {effect : WorkflowEffect} {update : ExecutorStatusUpdate}
      (hsession : pre.sessions manager = .unapplied poll outcome effect)
      (hupdate : markUpdate effect.mark = some update) :
      ExecutorCall deployment pre (.mark manager now) update

/-! ## Methods of other components -/

/-- Moves of a DVN job between two statuses outside the transaction methods:
the receipts loop and the destination stream finish it, and the worker moves it
from a status that it lists. -/
inductive VerifierMove : DVNState → DVNState → Prop
  | verified {status : DVNState} : VerifierMove status .verified
  | canceled : VerifierMove .verifyTxEnqueued .manualReview
  | worked {status next : DVNState} (hlisted : dvnSettled status = false)
      (hnext : next ≠ .verifyTxEnqueued) : VerifierMove status next

/-- What happens to one DVN job. -/
inductive VerifierChange (before after : Option DVNState) : Prop
  | same (hsame : after = before)
  | assigned (hbefore : before = none) (hafter : after = some .assigned)
  | moved {status next : DVNState} (hbefore : before = some status)
      (hafter : after = some next) (hmove : VerifierMove status next)

/-- DVN jobs move outside the transaction methods, and none belongs to the zero
guid. -/
structure VerifierKept (pre post : WorkTables) : Prop where
  moves : ∀ guid, VerifierChange (dvnStatus pre guid) (dvnStatus post guid)
  zero : dvnStatus pre Hash.zero = none → dvnStatus post Hash.zero = none

/-- Nothing happens to the executor jobs, and nothing early to the DVN jobs. -/
structure JobsKept (pre post : WorkTables) : Prop where
  executor : ExecutorKept pre post
  verifier : VerifierKept pre post

theorem VerifierKept.of_eq (hjobs : post.dvnJobs = pre.dvnJobs) : VerifierKept pre post where
  moves guid := .same (by rw [dvnStatus, dvnStatus, hjobs])
  zero hnone := by
    rw [dvnStatus, hjobs]
    exact hnone

theorem JobsKept.refl (work : WorkTables) : JobsKept work work := ⟨.of_eq rfl rfl rfl, .of_eq rfl⟩

theorem VerifierKept.setDVNJob {job : DVNJobRow} (hfind : work.dvnJobs.find guid = some job)
    (after : DVNJobRow) (hguid : after.guid = job.guid)
    (hmove : after.status = job.status ∨ VerifierMove job.status after.status) :
    VerifierKept work (work.setDVNJob after) where
  moves other := by
    rw [dvnStatus_of_set hfind hguid]
    split
    · rename_i heq
      have hold : dvnStatus work other = some job.status := by
        rw [heq, dvnStatus, hfind, map_some]
      rw [hold]
      rcases hmove with hsame | hmove
      · exact .same (congrArg some hsame)
      · exact .moved rfl rfl hmove
    · exact .same rfl
  zero hnone := by
    rw [dvnStatus_of_set hfind hguid, if_neg]
    · exact hnone
    · rintro rfl
      rw [dvnStatus, hfind] at hnone
      cases hnone

theorem VerifierKept.insertNew {row : DVNJobRow} (hjobs : post.dvnJobs = pre.dvnJobs.insertNew row)
    (hnone : pre.dvnJobs.find row.guid = none) (hguid : row.guid ≠ Hash.zero)
    (hstatus : row.status = .assigned) : VerifierKept pre post := by
  have hother : ∀ other, other ≠ row.guid → dvnStatus post other = dvnStatus pre other := by
    intro other hne
    rw [dvnStatus, dvnStatus, hjobs, find_insertNew_of_ne hne]
  refine ⟨fun other => ?_, fun hzero => hother _ (Ne.symm hguid) ▸ hzero⟩
  by_cases heq : other = row.guid
  · have hold : dvnStatus pre other = none := by
      rw [heq, dvnStatus, hnone, map_none]
    have hnew : dvnStatus post other = some .assigned := by
      rw [heq, dvnStatus, hjobs, find_insertNew_self hnone, map_some, hstatus]
    exact .assigned hold hnew
  · exact .same (hother other heq)

theorem JobsKept.setDVNJob {job : DVNJobRow} (hfind : work.dvnJobs.find guid = some job)
    (after : DVNJobRow) (hguid : after.guid = job.guid)
    (hmove : after.status = job.status ∨ VerifierMove job.status after.status) :
    JobsKept work (work.setDVNJob after) := ⟨.of_eq rfl rfl rfl, .setDVNJob hfind after hguid hmove⟩

theorem ExecutorKept.trans {first second third : WorkTables} (hleft : ExecutorKept first second)
    (hright : ExecutorKept second third) :
    ExecutorKept first third where
  jobs guid := (hright.jobs guid).trans (hleft.jobs guid)
  packets guid status hstatus := hright.packets guid status (hleft.packets guid status hstatus)
  failures := hright.failures.trans hleft.failures

theorem JobsKept.trans {first second third : WorkTables} (hleft : JobsKept first second)
    (hright : ExecutorKept second third) (hjobs : third.dvnJobs = second.dvnJobs) :
    JobsKept first third := by
  refine ⟨hleft.executor.trans hright, fun guid => ?_, fun hnone => ?_⟩
  · have hsame : dvnStatus third guid = dvnStatus second guid := by
      rw [dvnStatus, dvnStatus, hjobs]
    exact hsame ▸ hleft.verifier.moves guid
  · rw [dvnStatus, hjobs]
    exact hleft.verifier.zero hnone

theorem VerifierMove.rises {status next : DVNState} (hmove : VerifierMove status next) :
    next ≠ .verifyTxEnqueued ∧ verifierRank (some status) ≤ verifierRank (some next) := by
  cases hmove with
  | verified => exact ⟨by simp, by cases status <;> decide⟩
  | canceled => exact ⟨by simp, by decide⟩
  | worked hlisted hnext =>
    refine ⟨hnext, ?_⟩
    have hzero : verifierRank (some status) = 0 := by
      cases status <;> first | rfl | cases hlisted
    omega

theorem VerifierChange.rises {before after : Option DVNState}
    (hchange : VerifierChange before after) : after = before ∨ (after ≠ some .verifyTxEnqueued ∧
      verifierRank before ≤ verifierRank after) := by
  cases hchange with
  | same hsame => exact .inl hsame
  | assigned hbefore hafter =>
    rw [hbefore, hafter]
    exact .inr ⟨by simp, le_rfl⟩
  | moved hbefore hafter hmove =>
    rw [hbefore, hafter]
    obtain ⟨hnext, hrank⟩ := hmove.rises
    exact .inr ⟨fun hwaits => hnext (Option.some.inj hwaits), hrank⟩

variable {db : DB} {now : Time}

theorem updateDVNStatus_kept {update : DVNStatusUpdate}
    (hmove : VerifierMove update.expected update.next) :
    JobsKept db.work (updateDVNStatus db now update).1.work := by
  unfold updateDVNStatus
  split
  · exact .refl _
  split
  · exact .refl _
  rename_i job hjob
  split
  · rename_i hstatus
    exact .setDVNJob hjob _ rfl (.inr (hstatus.symm ▸ hmove))
  · exact .refl _

theorem updateDVNWithResult_kept {next : DVNState} (hmove : VerifierMove expected next) :
    JobsKept db.work (updateDVNWithResult db now guid expected next quorumResult).1.work := by
  unfold updateDVNWithResult
  split
  · exact .refl _
  · exact updateDVNStatus_kept hmove

theorem upsertPacket_kept (packet : PacketRecord) :
    JobsKept db.work (upsertPacket db packet).1.work := by
  unfold upsertPacket
  split
  · exact .refl _
  split
  · exact .refl _
  split
  · exact .refl _
  split
  · rename_i hnone
    refine ⟨⟨fun _ => rfl, fun guid status hstatus => ?_, rfl⟩, .of_eq rfl⟩
    obtain ⟨stored, hstored, hkept⟩ := map_eq_some_iff.mp hstatus
    have hne : guid ≠ packet.guid := by
      rintro rfl
      rw [hnone] at hstored
      cases hstored
    rw [packetStatus]
    change ((db.work.packets.insertNew packet).find guid).map _ = _
    rw [find_insertNew_of_ne hne, hstored, map_some, hkept]
  · rename_i stored hstored
    have hguid : stored.guid = packet.guid := (find_eq_some.mp hstored).2
    exact ⟨.setPacket hstored hguid.symm rfl, .of_eq rfl⟩

theorem casCoordinates_kept (guid : Hash) (expected next : Coordinates) :
    ExecutorKept work (work.casCoordinates guid expected next) ∧
      (work.casCoordinates guid expected next).dvnJobs = work.dvnJobs := by
  unfold WorkTables.casCoordinates
  split
  · exact ⟨.of_eq rfl rfl rfl, rfl⟩
  rename_i packet hpacket
  split
  · exact ⟨.setPacket hpacket rfl rfl, rfl⟩
  · exact ⟨.of_eq rfl rfl rfl, rfl⟩

theorem markDVNReorgDetectedWithCoordinates_kept {next stored : Coordinates}
    (hlisted : dvnSettled expected = false) :
    JobsKept db.work (markDVNReorgDetectedWithCoordinates db now guid expected
      reason quorumResult next stored).1.work := by
  unfold markDVNReorgDetectedWithCoordinates
  split
  · exact .refl _
  split
  · exact .refl _
  rename_i job hjob
  split
  · rename_i hstatus
    obtain ⟨hkept, hjobs⟩ := casCoordinates_kept guid stored next
    refine JobsKept.trans ?_ hkept hjobs
    exact .setDVNJob hjob _ rfl (.inr (.worked (hstatus.symm ▸ hlisted) (by simp)))
  · exact .refl _

theorem markDVNManualReviewAndPausePathway_kept (hlisted : dvnSettled expected = false) :
    JobsKept db.work (markDVNManualReviewAndPausePathway db now guid expected
      reason quorumResult).1.work := by
  unfold markDVNManualReviewAndPausePathway
  split
  · exact .refl _
  split
  · exact .refl _
  split
  · exact .refl _
  rename_i job hjob
  split
  · rename_i hstatus
    split
    · exact .refl _
    · exact .setDVNJob hjob _ rfl (.inr (.worked (hstatus.symm ▸ hlisted) (by simp)))
  · exact .refl _

theorem deferDVNJob_kept (guid : Hash) (expected : DVNState) (delay : Duration) :
    JobsKept db.work (deferDVNJob db now guid expected delay).1.work := by
  unfold deferDVNJob
  split
  · exact .refl _
  split
  · exact .refl _
  split
  · exact .refl _
  rename_i job hjob
  split
  · exact .setDVNJob hjob _ rfl (.inl rfl)
  · exact .refl _

theorem deferExecutorJob_kept {expected : ExecutorState} {delay : Duration} :
    JobsKept db.work (deferExecutorJob db now guid expected delay).1.work := by
  unfold deferExecutorJob
  split
  · exact .refl _
  split
  · exact .refl _
  split
  · exact .refl _
  rename_i job hjob
  split
  · exact ⟨.setExecutorJob hjob _ rfl rfl rfl, .of_eq rfl⟩
  · exact .refl _

theorem upsertExecutorJob_step (job : ExecutorJobRecord) (hfirst : job.status ∈ firstStatuses) :
    JobsKept db.work (upsertExecutorJob db now job).1.work ∨
      JobAssigned db.work (upsertExecutorJob db now job).1.work job.guid
        job.status := by
  unfold upsertExecutorJob
  split
  · exact .inl (.refl _)
  rename_i hguid
  split
  · exact .inl (.refl _)
  rename_i hpacket
  split
  · rename_i hnone
    refine .inr ⟨hguid, hfirst, by rw [jobState, hnone]; rfl, ?_, ?_, rfl, rfl, rfl⟩
    · intro hmissing
      rw [packetStatus, map_eq_none_iff] at hmissing
      rw [hmissing] at hpacket
      exact hpacket rfl
    · intro other
      rw [jobState]
      change ((db.work.executorJobs.insertNew _).find other).map _ = _
      split
      · rename_i heq
        rw [heq, find_insertNew_self hnone]
        rfl
      · rename_i hne
        exact congrArg (Option.map _) (find_insertNew_of_ne hne)
  · rename_i stored hstored
    exact .inl ⟨.setExecutorJob hstored _ rfl rfl rfl, .of_eq rfl⟩

theorem upsertDVNJob_kept (job : DVNJobRecord) (hstatus : job.status = .assigned) :
    JobsKept db.work (upsertDVNJob db now job).1.work := by
  unfold upsertDVNJob
  split
  · exact .refl _
  split
  · exact .refl _
  split
  · exact .refl _
  split
  · rename_i hguid _ _ _ hnone
    exact ⟨.of_eq rfl rfl rfl, .insertNew rfl hnone hguid hstatus⟩
  · rename_i stored hstored
    exact .setDVNJob hstored _ rfl (.inl rfl)

theorem background_work {op : WorkOp} (hop : backgroundWork op = true) :
    JobsKept db.work (op.apply db).work ∨ ∃ now job, op = .upsertExecutorJob now job ∧
        JobAssigned db.work (op.apply db).work job.guid job.status := by
  cases op with
  | upsertExecutorJob now job =>
    exact (upsertExecutorJob_step job (of_decide_eq_true hop)).imp_right
      fun hassigned => ⟨now, job, rfl, hassigned⟩
  | syncConfig | pauseChain | pausePathwayForPacket | updateIndexerCursor
  | recordSourcePacketSkip =>
    left
    simp only [WorkOp.apply, syncConfig, pauseChain, pausePathwayForPacket, updateIndexerCursor,
      recordSourcePacketSkip]
    repeat' split
    all_goals exact ⟨.of_eq rfl rfl rfl, .of_eq rfl⟩
  | upsertPacket packet => exact .inl (upsertPacket_kept packet)
  | upsertDVNJob now job => exact .inl (upsertDVNJob_kept job (of_decide_eq_true hop))
  | deferDVNJob now guid expected delay => exact .inl (deferDVNJob_kept guid expected delay)
  | markDVNWaitingConfirmations | markDVNQuorumChecking =>
    exact .inl (updateDVNStatus_kept (.worked (Bool.eq_false_of_not_eq_true' hop) (by simp)))
  | markDVNReadyToVerify | markDVNWouldVerify | markDVNVerifiedFromChain =>
    exact .inl (updateDVNWithResult_kept (.worked (Bool.eq_false_of_not_eq_true' hop) (by simp)))
  | markDVNQuorumConflict | markDVNReorgDetected =>
    left
    simp only [WorkOp.apply, markDVNQuorumConflict, markDVNReorgDetected]
    split
    · exact .refl _
    · exact updateDVNStatus_kept (.worked (Bool.eq_false_of_not_eq_true' hop) (by simp))
  | markDVNVerifiedObserved now guid txHash expected =>
    left
    simp only [WorkOp.apply, markDVNVerifiedObserved]
    split
    · exact .refl _
    · exact updateDVNStatus_kept .verified
  | markDVNReorgDetectedWithCoordinates =>
    exact .inl (markDVNReorgDetectedWithCoordinates_kept (Bool.eq_false_of_not_eq_true' hop))
  | markDVNManualReviewAndPausePathway =>
    exact .inl (markDVNManualReviewAndPausePathway_kept (Bool.eq_false_of_not_eq_true' hop))
  | _ => cases hop

end Lazier.Delivery
