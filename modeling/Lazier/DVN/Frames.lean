import Lazier.DVN.Worker
import Lazier.Ledger.Effects

/-!
# What a store call does to jobs past the gate

A job past the confirmation gate is checking its quorum or ready to verify.
Every store call but four either leaves the pairs of such a job and its packet
as they were or takes the job out of these states; the four are the two
transitions into these states and the two upserts of the indexer.
-/

namespace Lazier.DVN

open Chain Ledger Library Store Workflow Table

variable {db : DB}

/-! ## Jobs past the gate -/

/-- The states between the confirmation gate and the verify transaction. -/
def pastGate : DVNState → Bool
  | .quorumChecking => true
  | .readyToVerify => true
  | _ => false

/-- A packet and its job, past the gate. -/
structure InFlight (work : WorkTables) (packet : PacketRecord) (job : DVNJobRow) : Prop where
  packet_mem : packet ∈ work.packets
  job_mem : job ∈ work.dvnJobs
  guid : job.guid = packet.guid
  past : pastGate job.status

/-- A packet without its workflow status. -/
def evidence (packet : PacketRecord) : PacketRecord := { packet with status := .new }

/-- A packet without its workflow status and source coordinates. -/
def contents (packet : PacketRecord) : PacketRecord :=
  { packet with status := .new, srcBlockNumber := 0, srcLogIndex := 0 }

theorem congr_evidence {Value : Type} (column : PacketRecord → Value)
    (hcolumn : ∀ packet, column (evidence packet) = column packet) {left right : PacketRecord}
    (heq : evidence left = evidence right) :
    column left = column right := by
  rw [← hcolumn left, heq, hcolumn right]

/-- Packets keep their contents, and pairs past the gate come from pairs past
the gate with the same evidence and job. -/
structure Frame (pre post : WorkTables) : Prop where
  packets : ∀ packet ∈ post.packets, ∃ old ∈ pre.packets, contents old = contents packet
  inFlight : ∀ packet job, InFlight post packet job → ∃ packet₀ job₀, InFlight pre packet₀ job₀ ∧
      evidence packet₀ = evidence packet ∧ job₀.toRecord = job.toRecord

namespace Frame

theorem of_eq {pre post : WorkTables} (hpackets : post.packets = pre.packets)
    (hjobs : post.dvnJobs = pre.dvnJobs) : Frame pre post where
  packets := by
    rw [hpackets]
    exact fun packet hpacket => ⟨packet, hpacket, rfl⟩
  inFlight := by
    rintro packet job ⟨hpacket, hjob, hguid, hpast⟩
    rw [hpackets] at hpacket
    rw [hjobs] at hjob
    exact ⟨packet, job, ⟨hpacket, hjob, hguid, hpast⟩, rfl, rfl⟩

theorem refl (work : WorkTables) : Frame work work := of_eq rfl rfl

theorem trans {first second third : WorkTables} (hfirst : Frame first second)
    (hsecond : Frame second third) : Frame first third where
  packets := by
    intro packet hpacket
    obtain ⟨middle, hmiddle, heq⟩ := hsecond.packets packet hpacket
    obtain ⟨old, hold, heq'⟩ := hfirst.packets middle hmiddle
    exact ⟨old, hold, heq'.trans heq⟩
  inFlight := by
    intro packet job hflight
    obtain ⟨packet₁, job₁, hflight₁, hevidence, hrecord⟩ := hsecond.inFlight packet job hflight
    obtain ⟨packet₀, job₀, hflight₀, hevidence', hrecord'⟩ := hfirst.inFlight packet₁ job₁ hflight₁
    exact ⟨packet₀, job₀, hflight₀, hevidence'.trans hevidence, hrecord'.trans hrecord⟩

/-- A job that leaves the states past the gate, or stays as it was listed. -/
theorem setDVNJob {work : WorkTables} {old new : DVNJobRow} (hold : old ∈ work.dvnJobs)
    (hnew : pastGate new.status = false ∨ old.toRecord = new.toRecord) :
    Frame work (work.setDVNJob new) where
  packets := fun packet hpacket => ⟨packet, hpacket, rfl⟩
  inFlight := by
    rintro packet job ⟨hpacket, hjob, hguid, hpast⟩
    rcases mem_of_mem_set hjob with rfl | ⟨hkept, -⟩
    · rcases hnew with hleft | hrecord
      · rw [hleft] at hpast
        contradiction
      · have hstatus : old.status = job.status := congrArg DVNJobRecord.status hrecord
        have hsame : old.guid = job.guid := congrArg DVNJobRecord.guid hrecord
        exact ⟨packet, old, ⟨hpacket, hold, hsame.trans hguid, hstatus ▸ hpast⟩, rfl, hrecord⟩
    · exact ⟨packet, job, ⟨hpacket, hkept, hguid, hpast⟩, rfl, rfl⟩

end Frame

/-! ## Calls of other components -/

/-- At most the job of `guid` moved from `expected` to `next`; its new result
replaces the stored one. -/
structure Moved (pre post : WorkTables) (guid : Hash)
    (expected next : DVNState) (result : Option QuorumResult) : Prop where
  packets : post.packets = pre.packets
  jobs : ∀ job ∈ post.dvnJobs, job ∈ pre.dvnJobs ∨
    ∃ old ∈ pre.dvnJobs, old.guid = guid ∧ old.status = expected ∧
      job.guid = guid ∧ job.status = next ∧ job.confirmationsRequired = old.confirmationsRequired ∧
      job.quorumResult = result.or old.quorumResult

theorem Moved.refl (work : WorkTables) (guid : Hash) (expected next : DVNState)
    (result : Option QuorumResult) :
    Moved work work guid expected next result :=
  ⟨rfl, fun _ hjob => .inl hjob⟩

theorem Moved.frame {pre post : WorkTables} {guid : Hash} {expected next : DVNState}
    {result : Option QuorumResult} (hmoved : Moved pre post guid expected next result)
    (hnext : pastGate next = false) : Frame pre post where
  packets := by
    rw [hmoved.packets]
    exact fun packet hpacket => ⟨packet, hpacket, rfl⟩
  inFlight := by
    rintro packet job ⟨hpacket, hjob, hguid, hpast⟩
    rw [hmoved.packets] at hpacket
    rcases hmoved.jobs job hjob with hkept | ⟨old, _, _, _, _, hstatus, _⟩
    · exact ⟨packet, job, ⟨hpacket, hkept, hguid, hpast⟩, rfl, rfl⟩
    · rw [hstatus, hnext] at hpast
      contradiction

theorem updateDVNStatus_moved (db : DB) (now : Time) (update : DVNStatusUpdate) :
    Moved db.work (updateDVNStatus db now update).1.work update.guid
      update.expected update.next update.quorumResult := by
  unfold updateDVNStatus
  split
  · exact Moved.refl _ _ _ _ _
  split
  · exact Moved.refl _ _ _ _ _
  · rename_i old hfind
    obtain ⟨hold, hguid⟩ := find_eq_some.mp hfind
    split
    · rename_i hstatus
      refine ⟨rfl, fun job hjob => ?_⟩
      rcases mem_of_mem_set hjob with rfl | ⟨hkept, -⟩
      · exact .inr ⟨old, hold, hguid, hstatus, hguid, rfl, rfl, rfl⟩
      · exact .inl hkept
    · exact Moved.refl _ _ _ _ _

theorem frame_updateDVNStatus {now : Time} {update : DVNStatusUpdate}
    (hnext : pastGate update.next = false) :
    Frame db.work (updateDVNStatus db now update).1.work :=
  (updateDVNStatus_moved db now update).frame hnext

theorem records_updateExecutorStatus {now : Time} {update : ExecutorStatusUpdate} :
    RecordsKept db.work (updateExecutorStatus db now update).1.work := by
  have hupdates := updateExecutorStatus_updates db now update
  revert hupdates
  generalize updateExecutorStatus db now update = result
  rintro (⟨_, _⟩ | ⟨_, _, _⟩ | ⟨job, _, _, _, _⟩)
  · exact .refl _
  · exact .refl _
  · exact .setPacketStatus rfl rfl rfl

theorem records_parkRowWorkflow {work parked : WorkTables} {now : Time} {row : OutboxRow}
    {reason : String} (hpark : parkRowWorkflow work now row reason = .ok parked) :
    RecordsKept work parked := by
  unfold parkRowWorkflow parkWorkflowManualReview parkExecutorManualReview at hpark
  repeat' split at hpark
  all_goals cases hpark
  all_goals first
    | exact .refl _
    | exact .setPacketStatus rfl rfl rfl
    | exact .setDVNJob (.inr rfl)

theorem records_retry {op : TxOp} {result : Result ℕ} (hresult : RetryResult db op result) :
    RecordsKept db.work result.1.work := by
  cases hresult with
  | settled _ _ _ _ hwork =>
    cases hwork with
    | kept => exact .refl _
    | exhausted => exact .casPacketStatus rfl rfl rfl
  | cloned _ _ _ _ _ hwork =>
    cases hwork with
    | other => exact .refl _
    | delivery => exact .casPacketStatus rfl rfl rfl
  | _ => exact .refl _

theorem records_txEffect {post : DB} {op : TxOp} (hown : ownCall (.tx op) = false)
    (heffect : TxEffect db op post) : RecordsKept db.work post.work := by
  cases heffect with
  | quiet _ hquiet => exact hquiet.1 ▸ .refl _
  | enqueuedExecutor => exact .setPacketStatus rfl rfl rfl
  | enqueuedDVN => cases hown
  | operatorRetry hresult | automaticRetry hresult => exact records_retry hresult
  | abandoned _ _ hpark => exact records_parkRowWorkflow hpark
  | _ => exact .refl _

theorem records_workOp (db : DB) (op : WorkOp) (hown : ownCall (.work op) = false)
    (hcursor : (Op.work op).writesCursor = false) : RecordsKept db.work (op.apply db).work := by
  cases op with
  | updateIndexerCursor => cases hcursor
  | markDVNVerified | markDVNVerifiedObserved | markDVNManualReview =>
    simp only [WorkOp.apply, markDVNVerified, markDVNVerifiedObserved, markDVNManualReview]
    split
    · exact .refl _
    · unfold updateDVNStatus
      repeat' split
      all_goals first
        | exact .refl _
        | exact .setDVNJob (by simp)
  | markExecutorWaitingDVNVerification | markExecutorVerifiable
  | markExecutorCommittedFromChain | markExecutorExecutable
  | markExecutorDeliveredFromChain => exact records_updateExecutorStatus
  | markExecutorCommitted | markExecutorCommittedObserved
  | markExecutorManualReview | markExecutorDelivered
  | markExecutorDeliveredObserved | markExecutorReceiveFailed
  | markExecutorReceiveFailedObserved =>
    simp only [WorkOp.apply, markExecutorCommitted,
      markExecutorCommittedObserved, markExecutorManualReview,
      markExecutorDelivered, markExecutorDeliveredObserved,
      markExecutorReceiveFailed, markExecutorReceiveFailedObserved]
    split
    · exact .refl _
    · exact records_updateExecutorStatus
  | syncConfig | pauseChain | pausePathwayForPacket | upsertExecutorJob | deferExecutorJob
  | recordSourcePacketSkip =>
    simp only [WorkOp.apply, syncConfig, pauseChain, pausePathwayForPacket,
      upsertExecutorJob, deferExecutorJob, recordSourcePacketSkip]
    repeat' split
    all_goals exact .of_eq rfl rfl rfl
  | _ => cases hown

theorem records_other (db : DB) {op : Op} (hown : ownCall op = false)
    (hcursor : op.writesCursor = false) : RecordsKept db.work (op.apply db).work := by
  cases op with
  | work op => exact records_workOp db op hown hcursor
  | tx op => exact records_txEffect hown (txOp_effect db op)

/-- Kept packets keep their evidence, and no job past the gate is new. -/
theorem frame_of_records {pre post : WorkTables} (hkept : RecordsKept pre post) :
    Frame pre post := by
  obtain ⟨status, hpackets⟩ := hkept.packets
  have hold : ∀ packet ∈ post.packets, ∃ old ∈ pre.packets,
      { old with status := status old } = packet := by
    intro packet hpacket
    have hfind := find_eq_some.mpr ⟨hpacket, rfl⟩
    rw [hpackets] at hfind
    obtain ⟨old, hold, hsame⟩ := Option.map_eq_some_iff.mp hfind
    exact ⟨old, (find_eq_some.mp hold).1, hsame⟩
  refine ⟨fun packet hpacket => ?_, ?_⟩
  · obtain ⟨old, hmem, rfl⟩ := hold packet hpacket
    exact ⟨old, hmem, rfl⟩
  · rintro packet job ⟨hpacket, hjob, hguid, hpast⟩
    obtain ⟨old, hmem, rfl⟩ := hold packet hpacket
    rcases hkept.verifiers job hjob with hstatus | hstatus | ⟨listed, hlisted, hrecord⟩
    · rw [hstatus] at hpast
      cases hpast
    · rw [hstatus] at hpast
      cases hpast
    · have hlistedStatus : listed.status = job.status := congrArg DVNJobRecord.status hrecord
      have hlistedGuid : listed.guid = job.guid := congrArg DVNJobRecord.guid hrecord
      exact ⟨old, listed, ⟨hmem, hlisted, hlistedGuid.trans hguid, hlistedStatus ▸ hpast⟩,
        rfl, hrecord⟩

theorem frame_other {op : Op} (hown : ownCall op = false) : Frame db.work (op.apply db).work := by
  cases hcursor : op.writesCursor with
  | false => exact frame_of_records (records_other db hown hcursor)
  | true =>
    cases op with
    | work op =>
      cases op with
      | updateIndexerCursor =>
        simp only [Op.apply, WorkOp.apply, updateIndexerCursor]
        repeat' split
        all_goals exact .of_eq rfl rfl
      | _ => cases hcursor
    | tx => cases hcursor

/-! ## Cursors and contents -/

theorem casCoordinates_contents {work : WorkTables} {guid other : Hash}
    {stored next : Coordinates} :
    ((work.casCoordinates guid stored next).packets.find other).map contents =
      (work.packets.find other).map contents := by
  unfold WorkTables.casCoordinates
  split
  · rfl
  rename_i packet hfind
  split
  · obtain ⟨-, rfl⟩ := find_eq_some.mp hfind
    by_cases hother : other = packet.guid
    · rw [hother, hfind]
      refine (congrArg (Option.map contents) (find_set_self (?_ : _ = some packet))).trans ?_
      · exact hfind
      · rfl
    · exact congrArg (Option.map contents) (find_set_of_ne hother)
  · rfl

/-- The calls of the DVN worker and the source indexer but `UpsertPacket`. -/
theorem own_records (db : DB) {op : Op} (hown : ownCall op = true)
    (hpacket : op.writesPacket = false) :
    (op.apply db).work.indexerCursors = db.work.indexerCursors ∧ ∀ guid,
      ((op.apply db).work.packets.find guid).map contents =
        (db.work.packets.find guid).map contents := by
  cases op with
  | work op =>
    cases op with
    | upsertPacket => cases hpacket
    | markDVNReorgDetectedWithCoordinates =>
      simp only [Op.apply, WorkOp.apply, markDVNReorgDetectedWithCoordinates]
      repeat' split
      all_goals refine ⟨?_, fun _ => ?_⟩
      all_goals first
        | rfl
        | exact casCoordinates_contents
        | (unfold WorkTables.casCoordinates
           repeat' split
           all_goals rfl)
    | upsertDVNJob | deferDVNJob | markDVNWaitingConfirmations | markDVNQuorumChecking
    | markDVNReadyToVerify | markDVNWouldVerify | markDVNVerifiedFromChain
    | markDVNQuorumConflict | markDVNReorgDetected | markDVNManualReviewAndPausePathway =>
      simp only [Op.apply, WorkOp.apply, upsertDVNJob, deferDVNJob, markDVNWaitingConfirmations,
        markDVNQuorumChecking, markDVNReadyToVerify, markDVNWouldVerify,
        markDVNVerifiedFromChain, updateDVNWithResult, markDVNQuorumConflict,
        markDVNReorgDetected, markDVNManualReviewAndPausePathway, updateDVNStatus]
      repeat' split
      all_goals exact ⟨rfl, fun _ => rfl⟩
    | _ => cases hown
  | tx op =>
    cases op with
    | enqueueDVNVerifyTx =>
      simp only [Op.apply, TxOp.apply, enqueueDVNVerifyTx]
      repeat' split
      all_goals exact ⟨rfl, fun _ => rfl⟩
    | _ => cases hown

theorem apply_op_cursors (db : DB) {op : Op} (hop : op.writesCursor = false) :
    (op.apply db).work.indexerCursors = db.work.indexerCursors := by
  cases hown : ownCall op with
  | false => exact (records_other db hown hop).cursors
  | true =>
    cases hpacket : op.writesPacket with
    | false => exact (own_records db hown hpacket).1
    | true =>
      cases op with
      | work op =>
        cases op with
        | upsertPacket =>
          simp only [Op.apply, WorkOp.apply, upsertPacket]
          repeat' split
          all_goals rfl
        | _ => cases hpacket
      | tx => cases hpacket

theorem apply_op_contents (db : DB) {op : Op} (hop : op.writesPacket = false) (guid : Hash) :
    ((op.apply db).work.packets.find guid).map contents =
      (db.work.packets.find guid).map contents := by
  cases hown : ownCall op with
  | true => exact (own_records db hown hop).2 guid
  | false =>
    cases hcursor : op.writesCursor with
    | false =>
      obtain ⟨status, hpackets⟩ := (records_other db hown hcursor).packets
      rw [hpackets, Option.map_map]
      rfl
    | true =>
      cases op with
      | work op =>
        cases op with
        | updateIndexerCursor =>
          simp only [Op.apply, WorkOp.apply, updateIndexerCursor]
          repeat' split
          all_goals rfl
        | _ => cases hcursor
      | tx => cases hcursor

end Lazier.DVN
