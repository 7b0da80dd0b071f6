import Lazier.DVN.Frames

/-!
# Steps of the DVN system

The effect of each worker call on jobs past the gate, and from it the origin of
every pair past the gate after a step: it was there before, it has just passed
the gate, its receipt has just been checked, or the indexer has rewritten it.
-/

namespace Lazier.DVN

open Chain Library Store Option Table

variable {expected status : DVNState} {reason : String} {result : Option QuorumResult}
  {item : DVNWorkItem} {now : Time} {op : Op} {pass before : Pass} {db : DB} {packet : PacketRecord}
  {job : DVNJobRow} {worker : ℕ} {guid : Hash} {config : WorkerConfig} {reads : DestinationReads}

/-! ## Worker calls that lead out of the gate -/

theorem frame_deferDVNJob {delay : Duration} :
    Frame db.work (deferDVNJob db now guid expected delay).1.work := by
  unfold deferDVNJob
  split
  · exact Frame.refl _
  split
  · exact Frame.refl _
  split
  · exact Frame.refl _
  · rename_i job hfind
    split
    · exact Frame.setDVNJob (find_eq_some.mp hfind).1 (.inr rfl)
    · exact Frame.refl _

theorem updateDVNWithResult_moved {next : DVNState} : Moved db.work
      (updateDVNWithResult db now guid expected next result).1.work guid
      expected next result := by
  unfold updateDVNWithResult
  split
  · exact Moved.refl _ _ _ _ _
  · exact updateDVNStatus_moved _ _ _

theorem frame_markDVNManualReviewAndPausePathway :
    Frame db.work (markDVNManualReviewAndPausePathway db now guid expected
      reason result).1.work := by
  unfold markDVNManualReviewAndPausePathway
  split
  · exact Frame.refl _
  split
  · exact Frame.refl _
  split
  · exact Frame.refl _
  · rename_i job hfind
    split
    · split
      · exact Frame.refl _
      · exact Frame.setDVNJob (find_eq_some.mp hfind).1 (.inl rfl)
    · exact Frame.refl _

/-- Moving the coordinates of a packet whose job is not past the gate. -/
theorem Frame.casCoordinates {work : WorkTables}
    (hout : ∀ job ∈ work.dvnJobs, job.guid = guid → pastGate job.status = false)
    (expected next : Coordinates) : Frame work (work.casCoordinates guid expected next) := by
  unfold WorkTables.casCoordinates
  split
  · exact Frame.refl _
  rename_i stored hfind
  obtain ⟨hstored, hguid⟩ := find_eq_some.mp hfind
  split
  · refine ⟨fun packet hpacket => ?_, ?_⟩
    · rcases mem_of_mem_set hpacket with rfl | ⟨hkept, -⟩
      · exact ⟨stored, hstored, rfl⟩
      · exact ⟨packet, hkept, rfl⟩
    · rintro packet job ⟨hpacket, hjob, hsame, hpast⟩
      rcases mem_of_mem_set hpacket with rfl | ⟨hkept, -⟩
      · have hjobOut := hout job hjob (hsame.trans hguid)
        rw [hjobOut] at hpast
        contradiction
      · exact ⟨packet, job, ⟨hkept, hjob, hsame, hpast⟩, rfl, rfl⟩
  · exact Frame.refl _

/-- The reorg transition moves the coordinates of a packet whose job it has
just taken out of the gate. -/
theorem frame_markDVNReorgDetectedWithCoordinates {next stored : Coordinates} :
    Frame db.work (markDVNReorgDetectedWithCoordinates db now guid expected
      reason result next stored).1.work := by
  unfold markDVNReorgDetectedWithCoordinates
  split
  · exact Frame.refl _
  split
  · exact Frame.refl _
  rename_i old hfind
  obtain ⟨hold, hguid⟩ := find_eq_some.mp hfind
  split
  · refine Frame.trans (Frame.setDVNJob hold (.inl rfl)) (Frame.casCoordinates ?_ stored next)
    intro job hjob hsame
    rcases mem_of_mem_set hjob with rfl | ⟨-, hother⟩
    · rfl
    · exact absurd (hsame.trans hguid.symm) hother
  · exact Frame.refl _

theorem frame_enqueueDVNVerifyTx {request : TxRequest} :
    Frame db.work (enqueueDVNVerifyTx db now guid expected .verifyTxEnqueued
      request result).1.work := by
  unfold enqueueDVNVerifyTx
  dsimp only
  repeat' split
  all_goals first
    | exact Frame.refl _
    | (rename_i hfind _ _ _
       exact Frame.setDVNJob (find_eq_some.mp hfind).1 (.inl rfl))

/-! ## The effect of a worker's call -/

/-- A worker's call takes at most a job out of the gate, unless it is the
transition after a passed gate or after a checked receipt. -/
inductive CallEffect (libs : Libraries) (config : WorkerConfig) (pass : Pass)
    (pre post : WorkTables) : Prop
  | frame (kept : Frame pre post)
  | gate {status : DVNState} {item : DVNWorkItem} {reads : ConfirmationReads}
      {head : ℕ} (at_pass : pass = .confirmed status item reads)
      (seen : observedHead config item reads = some head)
      (deep : hasRequiredConfirmations item.packet.srcBlockNumber
        item.job.confirmationsRequired head)
      (moved : Moved pre post item.packet.guid status .quorumChecking none)
  | check {item : DVNWorkItem} {receipt : Option Receipt} {endpoint : Address}
      {report : QuorumReport} (at_pass : pass = .checked item (.ok receipt))
      (known : sourceEndpoint config item.packet.srcEID = some endpoint)
      (verified : verifySourceReceiptForEndpoint libs item.packet receipt endpoint = .ok report)
      (moved : Moved pre post item.packet.guid .quorumChecking .readyToVerify
        (some (.report report)))

theorem frame_deferCall :
    Frame db.work ((deferCall item status now).apply db).work := frame_deferDVNJob

theorem frame_mismatchCall : Frame db.work ((mismatchCall item status reason now).apply db).work :=
  frame_markDVNManualReviewAndPausePathway

theorem confirmationCall_effect {libs : Libraries} {reads : ConfirmationReads} :
    CallEffect libs config (.confirmed status item reads) db.work
      ((confirmationCall config status item reads now).apply db).work := by
  unfold confirmationCall
  split
  · exact .frame frame_mismatchCall
  · exact .frame frame_deferCall
  rename_i hvalid
  split
  · exact .frame frame_deferCall
  rename_i hreader
  split
  · exact .frame (frame_other rfl)
  · exact .frame frame_deferCall
  · exact .frame frame_deferCall
  rename_i number hhead
  split
  · rename_i hdeep
    have hseen : observedHead config item reads = some (number % 2 ^ 64) := by
      unfold observedHead
      rw [hvalid, hhead]
      exact if_neg hreader
    exact .gate rfl hseen hdeep (updateDVNStatus_moved _ _ _)
  split
  · exact .frame (frame_updateDVNStatus rfl)
  · exact .frame frame_deferCall

theorem frame_conflictCall : Frame db.work ((conflictCall item reason now).apply db).work := by
  show Frame db.work (markDVNQuorumConflict _ _ _ _ _ _).1.work
  unfold markDVNQuorumConflict
  split
  · exact Frame.refl _
  · exact frame_updateDVNStatus rfl

theorem frame_reorgCall : Frame db.work ((reorgCall item reason now).apply db).work := by
  show Frame db.work (markDVNReorgDetected _ _ _ _ _ _).1.work
  unfold markDVNReorgDetected
  split
  · exact Frame.refl _
  · exact frame_updateDVNStatus rfl

theorem frame_evidenceErrorCall {libs : Libraries} {receipt : Option Receipt} {endpoint : Address}
    {error : EvidenceError} :
    Frame db.work ((evidenceErrorCall libs item receipt endpoint error now).apply db).work := by
  unfold evidenceErrorCall
  split
  · exact frame_conflictCall
  split
  · exact frame_reorgCall
  · exact frame_markDVNReorgDetectedWithCoordinates

theorem quorumCall_effect {libs : Libraries} {reads : ReceiptReads} :
    CallEffect libs config (.checked item reads) db.work
      ((quorumCall libs config item reads now).apply db).work := by
  unfold quorumCall
  split
  · exact .frame frame_deferCall
  split
  · exact .frame frame_conflictCall
  · exact .frame frame_reorgCall
  · exact .frame frame_deferCall
  rename_i receipt
  split
  · exact .frame frame_deferCall
  rename_i endpoint hendpoint
  split
  · exact .frame frame_evidenceErrorCall
  · rename_i report hreport
    exact .check rfl hendpoint hreport updateDVNWithResult_moved

theorem frame_readyCall {libs : Libraries}
    (hcall : readyCall libs config item reads now = some op) :
    Frame db.work (op.apply db).work := by
  unfold readyCall activeCall enqueueCall at hcall
  dsimp only at hcall
  repeat' split at hcall
  all_goals cases hcall
  all_goals first
    | exact frame_deferCall
    | exact frame_mismatchCall
    | exact frame_enqueueDVNVerifyTx
    | exact updateDVNWithResult_moved.frame rfl

theorem pending_effect {libs : Libraries} (hpending : pass.pending libs config now = some (some op))
    (db : DB) : CallEffect libs config pass db.work (op.apply db).work := by
  cases pass with
  | rollingBack item =>
    cases hpending
    exact .frame (frame_updateDVNStatus rfl)
  | confirmed status item reads =>
    cases hpending
    exact confirmationCall_effect
  | checked item reads =>
    cases hpending
    exact quorumCall_effect
  | pausing guid =>
    cases hpending
    exact .frame (frame_other rfl)
  | decided item reads => exact .frame (frame_readyCall (some.inj hpending))
  | _ => cases hpending

/-! ## The indexer -/

theorem indexPacket_jobs {libs : Libraries} {log : Log} {status : ExecutorState} :
    (indexPacket libs db log status).work.dvnJobs = db.work.dvnJobs := by
  unfold indexPacket upsertPacket
  repeat' split
  all_goals rfl

theorem mem_indexPacket {libs : Libraries} {log : Log} {status : ExecutorState}
    (hpacket : packet ∈ (indexPacket libs db log status).work.packets) : packet ∈ db.work.packets ∨
      ∃ record, packetRecordFromSentLog libs log = .ok record ∧
        evidence packet = evidence record := by
  unfold indexPacket at hpacket
  split at hpacket
  · exact .inl hpacket
  rename_i record hdecoded
  unfold upsertPacket at hpacket
  repeat' split at hpacket
  · exact .inl hpacket
  · exact .inl hpacket
  · exact .inl hpacket
  · rename_i hfresh
    rcases (mem_insertNew hfresh).mp hpacket with hkept | rfl
    · exact .inl hkept
    · exact .inr ⟨record, hdecoded, rfl⟩
  · rcases mem_of_mem_set hpacket with rfl | ⟨hkept, -⟩
    · exact .inr ⟨record, hdecoded, rfl⟩
    · exact .inl hkept

theorem indexJob_packets {assignedFee : Option ℕ} {confirmationsRequired : ℕ} :
    (indexJob db now guid assignedFee confirmationsRequired).work.packets = db.work.packets := by
  unfold indexJob upsertDVNJob
  repeat' split
  all_goals rfl

/-- A job past the gate survives its indexing with the new confirmations. -/
theorem mem_indexJob {assignedFee : Option ℕ} {confirmationsRequired : ℕ}
    (hjob : job ∈ (indexJob db now guid assignedFee confirmationsRequired).work.dvnJobs)
    (hpast : pastGate job.status) : job ∈ db.work.dvnJobs ∨
      ∃ old ∈ db.work.dvnJobs, old.guid = guid ∧ job.guid = guid ∧
        job.status = old.status ∧ job.quorumResult = old.quorumResult ∧
        job.confirmationsRequired = confirmationsRequired := by
  unfold indexJob upsertDVNJob at hjob
  repeat' split at hjob
  · exact .inl hjob
  · exact .inl hjob
  · exact .inl hjob
  · rename_i hfresh
    rcases (mem_insertNew hfresh).mp hjob with hkept | rfl
    · exact .inl hkept
    · cases hpast
  · rename_i old hfind
    obtain ⟨hold, hguid⟩ := find_eq_some.mp hfind
    rcases mem_of_mem_set hjob with rfl | ⟨hkept, -⟩
    · exact .inr ⟨old, hold, hguid, hguid, rfl, rfl, rfl⟩
    · exact .inl hkept

/-! ## The database along a step -/

/-- What a step does to the database. -/
inductive DBStep (libs : Libraries) (configs : ℕ → WorkerConfig) (pre : System) : Label → DB → Prop
  | still {label : Label} : DBStep libs configs pre label pre.db
  | call {worker : ℕ} {now : Time} {pass : Pass} {op : Op}
      (at_pass : pre.workers worker = some pass)
      (pending : pass.pending libs (configs worker) now = some (some op)) :
      DBStep libs configs pre (.call worker now) (op.apply pre.db)
  | indexPacket {log : Log} {status : ExecutorState} :
      DBStep libs configs pre (.indexPacket log status) (indexPacket libs pre.db log status)
  | indexJob {now : Time} {guid : Hash} {assignedFee : Option ℕ} {confirmationsRequired : ℕ} :
      DBStep libs configs pre (.indexJob now guid assignedFee confirmationsRequired)
        (indexJob pre.db now guid assignedFee confirmationsRequired)
  | other {op : Op} (foreign : ownCall op = false) :
      DBStep libs configs pre (.other op) (op.apply pre.db)

theorem step_db {libs : Libraries} {configs : ℕ → WorkerConfig} {pre post : System} {label : Label}
    (hstep : WorkerStep libs configs pre label post) : DBStep libs configs pre label post.db := by
  unfold WorkerStep exec at hstep
  cases label with
  | call worker now =>
    dsimp only at hstep
    split at hstep
    · cases hstep
    · rename_i pass hpass
      obtain ⟨call, hpending, rfl⟩ := map_eq_some_iff.mp hstep
      cases call with
      | none => exact .still
      | some op => exact .call hpass hpending
  | list worker now =>
    dsimp only at hstep
    split at hstep
    · cases hstep
    · obtain ⟨status, _, rfl⟩ := map_eq_some_iff.mp hstep
      unfold listStep
      split <;> exact .still
  | indexPacket log status =>
    cases hstep
    exact .indexPacket
  | indexJob now guid assignedFee confirmationsRequired =>
    cases hstep
    exact .indexJob
  | other op =>
    dsimp only at hstep
    split at hstep
    · cases hstep
    · rename_i hown
      cases hstep
      exact .other (by simpa using hown)
  | enter | readHead | readReceipt | readDestination | stop =>
    dsimp only at hstep
    repeat' split at hstep
    all_goals cases hstep
    all_goals exact .still

/-! ## Origins -/

/-- Where a pair past the gate comes from. -/
inductive FlightOrigin (libs : Libraries) (configs : ℕ → WorkerConfig)
    (pre : System) (label : Label) (packet : PacketRecord) (job : DVNJobRow) : Prop
  | carried {packet₀ : PacketRecord} {job₀ : DVNJobRow} (before : InFlight pre.db.work packet₀ job₀)
      (same_evidence : evidence packet₀ = evidence packet)
      (same_record : job₀.toRecord = job.toRecord)
  | gated {worker : ℕ} {now : Time} {status : DVNState} {item : DVNWorkItem}
      {reads : ConfirmationReads} {head : ℕ} {old : DVNJobRow} (is_call : label = .call worker now)
      (at_pass : pre.workers worker = some (.confirmed status item reads))
      (seen : observedHead (configs worker) item reads = some head)
      (deep : hasRequiredConfirmations item.packet.srcBlockNumber
        item.job.confirmationsRequired head) (stored : packet ∈ pre.db.work.packets)
      (same_packet : packet.guid = item.packet.guid) (was : old ∈ pre.db.work.dvnJobs)
      (same_job : old.guid = item.packet.guid) (expected : old.status = status)
      (confirmations : job.confirmationsRequired = old.confirmationsRequired)
      (becomes : job.status = .quorumChecking)
  | checked {worker : ℕ} {now : Time} {item : DVNWorkItem}
      {receipt : Option Receipt} {endpoint : Address} {report : QuorumReport}
      {old : DVNJobRow} (is_call : label = .call worker now)
      (at_pass : pre.workers worker = some (.checked item (.ok receipt)))
      (known : sourceEndpoint (configs worker) item.packet.srcEID = some endpoint)
      (verified : verifySourceReceiptForEndpoint libs item.packet receipt endpoint = .ok report)
      (before : InFlight pre.db.work packet old) (same_packet : packet.guid = item.packet.guid)
      (expected : old.status = .quorumChecking)
      (confirmations : job.confirmationsRequired = old.confirmationsRequired)
      (result : job.quorumResult = some (.report report))
  | packetIndexed {log : Log} {status : ExecutorState} {record : PacketRecord}
      (is_index : label = .indexPacket log status)
      (decoded : packetRecordFromSentLog libs log = .ok record)
      (same_evidence : evidence packet = evidence record) (kept : job ∈ pre.db.work.dvnJobs)
      (same_job : job.guid = packet.guid) (past : pastGate job.status)
  | jobIndexed {now : Time} {guid : Hash} {assignedFee : Option ℕ}
      {confirmationsRequired : ℕ} {old : DVNJobRow}
      (is_index : label = .indexJob now guid assignedFee confirmationsRequired)
      (before : InFlight pre.db.work packet old) (same_job : old.guid = guid)
      (status : job.status = old.status) (result : job.quorumResult = old.quorumResult)
      (confirmations : job.confirmationsRequired = confirmationsRequired)

variable {libs : Libraries} {configs : ℕ → WorkerConfig} {pre post : System} {label : Label}

theorem FlightOrigin.of_frame {after : WorkTables} (hframe : Frame pre.db.work after)
    (hflight : InFlight after packet job) : FlightOrigin libs configs pre label packet job := by
  obtain ⟨packet₀, job₀, hbefore, hevidence, hrecord⟩ := hframe.inFlight packet job hflight
  exact .carried hbefore hevidence hrecord

theorem FlightOrigin.of_mem (hflight : InFlight pre.db.work packet job) :
    FlightOrigin libs configs pre label packet job :=
  .carried hflight rfl rfl

theorem inFlight_origin (hstep : WorkerStep libs configs pre label post)
    (hflight : InFlight post.db.work packet job) :
    FlightOrigin libs configs pre label packet job := by
  have hdb := step_db hstep
  generalize post.db = after at hdb hflight
  cases hdb with
  | still => exact .of_mem hflight
  | other hforeign => exact .of_frame (frame_other hforeign) hflight
  | call hpass hpending =>
    cases pending_effect hpending pre.db with
    | frame hframe => exact .of_frame hframe hflight
    | gate hat hseen hdeep hmoved =>
      subst hat
      obtain ⟨hpacket, hjob, hguid, hpast⟩ := hflight
      rw [hmoved.packets] at hpacket
      rcases hmoved.jobs job hjob with hkept |
        ⟨old, hold, holdGuid, hstatus, hjobGuid, hnext, hconf, -⟩
      · exact .of_mem ⟨hpacket, hkept, hguid, hpast⟩
      · exact .gated rfl hpass hseen hdeep hpacket
          (hguid.symm.trans hjobGuid) hold holdGuid hstatus hconf hnext
    | check hat hknown hverified hmoved =>
      subst hat
      obtain ⟨hpacket, hjob, hguid, hpast⟩ := hflight
      rw [hmoved.packets] at hpacket
      rcases hmoved.jobs job hjob with hkept |
        ⟨old, hold, holdGuid, hstatus, hjobGuid, hnext, hconf, hresult⟩
      · exact .of_mem ⟨hpacket, hkept, hguid, hpast⟩
      · have hsame : packet.guid = _ := hguid.symm.trans hjobGuid
        exact .checked rfl hpass hknown hverified
          ⟨hpacket, hold, holdGuid.trans hsame.symm, by rw [hstatus]; rfl⟩
          hsame hstatus hconf hresult
  | indexPacket =>
    obtain ⟨hpacket, hjob, hguid, hpast⟩ := hflight
    rw [indexPacket_jobs] at hjob
    rcases mem_indexPacket hpacket with hkept | ⟨record, hdecoded, hsame⟩
    · exact .of_mem ⟨hkept, hjob, hguid, hpast⟩
    · exact .packetIndexed rfl hdecoded hsame hjob hguid hpast
  | indexJob =>
    obtain ⟨hpacket, hjob, hguid, hpast⟩ := hflight
    rw [indexJob_packets] at hpacket
    rcases mem_indexJob hjob hpast with hkept |
      ⟨old, hold, holdGuid, hjobGuid, hstatus, hresult, hconf⟩
    · exact .of_mem ⟨hpacket, hkept, hguid, hpast⟩
    · exact .jobIndexed rfl
        ⟨hpacket, hold, holdGuid.trans (hjobGuid.symm.trans hguid),
          hstatus ▸ hpast⟩ holdGuid hstatus hresult hconf

theorem packet_origin (hstep : WorkerStep libs configs pre label post)
    (hpacket : packet ∈ post.db.work.packets) :
    (∃ old ∈ pre.db.work.packets, contents old = contents packet) ∨
      ∃ log record, packetRecordFromSentLog libs log = .ok record ∧
        evidence packet = evidence record := by
  have hdb := step_db hstep
  generalize post.db = after at hdb hpacket
  cases hdb with
  | still => exact .inl ⟨packet, hpacket, rfl⟩
  | other hforeign => exact .inl ((frame_other hforeign).packets packet hpacket)
  | call hpass hpending =>
    cases pending_effect hpending pre.db with
    | frame hframe => exact .inl (hframe.packets packet hpacket)
    | gate _ _ _ hmoved | check _ _ _ hmoved =>
      rw [hmoved.packets] at hpacket
      exact .inl ⟨packet, hpacket, rfl⟩
  | indexPacket =>
    rcases mem_indexPacket hpacket with hkept | ⟨record, hdecoded, hsame⟩
    · exact .inl ⟨packet, hkept, rfl⟩
    · exact .inr ⟨_, record, hdecoded, hsame⟩
  | indexJob =>
    rw [indexJob_packets] at hpacket
    exact .inl ⟨packet, hpacket, rfl⟩

/-- Where a worker's pass comes from. -/
inductive PassOrigin (pre : System) (label : Label) (worker : ℕ) : Pass → Prop
  | kept {pass : Pass} (before : pre.workers worker = some pass) : PassOrigin pre label worker pass
  | scanning {status : DVNState} {remaining : List DVNState} :
      PassOrigin pre label worker (.scanning status remaining)
  | listingQuorum : PassOrigin pre label worker .listingQuorum
  | listingReady : PassOrigin pre label worker .listingReady
  | rollingBack {item : DVNWorkItem} : PassOrigin pre label worker (.rollingBack item)
  | confirming {status : DVNState} {item : DVNWorkItem} :
      PassOrigin pre label worker (.confirming status item)
  | checking {now : Time} {item : DVNWorkItem} {rest : List DVNWorkItem}
      (found : listDVNWork pre.db now .quorumChecking 1 = .ok (item :: rest)) :
      PassOrigin pre label worker (.checking item)
  | verifying {now : Time} {item : DVNWorkItem} {rest : List DVNWorkItem}
      (found : listDVNWork pre.db now .readyToVerify 1 = .ok (item :: rest)) :
      PassOrigin pre label worker (.verifying item)
  | readHead {status : DVNState} {item : DVNWorkItem}
      {reads : ConfirmationReads} (is_read : label = .readHead worker reads)
      (before : pre.workers worker = some (.confirming status item)) :
      PassOrigin pre label worker (.confirmed status item reads)
  | readReceipt {item : DVNWorkItem} {reads : ReceiptReads}
      (is_read : label = .readReceipt worker reads)
      (before : pre.workers worker = some (.checking item)) :
      PassOrigin pre label worker (.checked item reads)
  | readDestination {item : DVNWorkItem} {reads : DestinationReads}
      (before : pre.workers worker = some (.verifying item)) :
      PassOrigin pre label worker (.decided item reads)
  | pausing {guid : Hash} : PassOrigin pre label worker (.pausing guid)

theorem setWorker_workers {system : System} {pass : Option Pass} {other : ℕ} :
    (system.setWorker worker pass).workers other =
      if other = worker then pass else system.workers other := by
  simp [System.setWorker, Function.update_apply]

theorem PassOrigin.of_listing {rest : List DVNWorkItem} (hlisting : before.listing = some status)
    (hfound : listDVNWork pre.db now status 1 = .ok (item :: rest))
    (hafter : before.afterItem item = some pass) : PassOrigin pre label worker pass := by
  unfold Pass.afterItem at hafter
  repeat' split at hafter
  all_goals cases hafter
  all_goals cases hlisting
  · exact .rollingBack
  · exact .confirming
  · exact .checking hfound
  · exact .verifying hfound

theorem PassOrigin.of_setWorker {system : System} {other : ℕ} {next : Option Pass}
    (hworkers : system.workers = pre.workers)
    (hpass : (system.setWorker worker next).workers other = some pass)
    (hown : next = some pass → other = worker → PassOrigin pre label other pass) :
    PassOrigin pre label other pass := by
  rw [setWorker_workers] at hpass
  split at hpass
  · rename_i heq
    exact hown hpass heq
  · rw [hworkers] at hpass
    exact .kept hpass

theorem pass_origin (hstep : WorkerStep libs configs pre label post)
    (hpass : post.workers worker = some pass) : PassOrigin pre label worker pass := by
  unfold WorkerStep exec at hstep
  cases label with
  | enter acting procedure =>
    dsimp only at hstep
    split at hstep
    · cases hstep
      refine .of_setWorker rfl hpass ?_
      intro heq _
      cases heq
      cases procedure with
      | processConfirmationsOnce => exact .scanning
      | processQuorumOnce => exact .listingQuorum
      | processReadyToVerifyOnce => exact .listingReady
    · cases hstep
  | list acting now =>
    dsimp only at hstep
    split at hstep
    · cases hstep
    rename_i before hbefore
    obtain ⟨status, hlisting, rfl⟩ := map_eq_some_iff.mp hstep
    unfold listStep at hpass
    split at hpass
    · refine .of_setWorker rfl hpass ?_
      intro heq _
      cases heq
    · refine .of_setWorker rfl hpass fun heq _ => ?_
      unfold Pass.afterEmpty at heq
      split at heq <;> cases heq
      exact .scanning
    · rename_i hfound
      exact .of_setWorker rfl hpass fun heq _ => .of_listing hlisting hfound heq
  | readHead acting reads =>
    dsimp only at hstep
    split at hstep
    · rename_i status item hbefore
      cases hstep
      refine .of_setWorker rfl hpass ?_
      intro heq hsame
      cases heq
      subst hsame
      exact .readHead rfl hbefore
    · cases hstep
  | readReceipt acting reads =>
    dsimp only at hstep
    split at hstep
    · rename_i item hbefore
      cases hstep
      refine .of_setWorker rfl hpass ?_
      intro heq hsame
      cases heq
      subst hsame
      exact .readReceipt rfl hbefore
    · cases hstep
  | readDestination acting reads =>
    dsimp only at hstep
    split at hstep
    · rename_i item hbefore
      cases hstep
      refine .of_setWorker rfl hpass ?_
      intro heq hsame
      cases heq
      subst hsame
      exact .readDestination hbefore
    · cases hstep
  | call acting now =>
    dsimp only at hstep
    split at hstep
    · cases hstep
    rename_i before hbefore
    obtain ⟨call, hpending, rfl⟩ := map_eq_some_iff.mp hstep
    cases call with
    | none =>
      refine .of_setWorker rfl hpass ?_
      intro heq _
      cases heq
    | some op =>
      have hset : (pre.setWorker acting (afterCall pre.db op)).workers worker = some pass := hpass
      refine .of_setWorker rfl hset ?_
      intro heq _
      unfold afterCall at heq
      repeat' split at heq
      all_goals cases heq
      exact .pausing
  | stop acting =>
    cases hstep
    refine .of_setWorker rfl hpass ?_
    intro heq _
    cases heq
  | indexPacket | indexJob =>
    cases hstep
    exact .kept hpass
  | other op =>
    dsimp only at hstep
    split at hstep
    · cases hstep
    · cases hstep
      exact .kept hpass

end Lazier.DVN
