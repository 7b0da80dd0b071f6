import Lazier.Store.DVNJobs

/-!
# Moves of worker jobs

What the compare-and-set methods can do to the workflow tables, said once: a
job moves from the expected status to the next one together with its packet,
or nothing is written.
-/

namespace Lazier.Workflow

open Library Store Table

variable {packet : PacketRecord} {wanted : Hash}

/-! ## Columns of the workflow tables -/

def executorStatus (work : WorkTables) (guid : Hash) : Option ExecutorState :=
  (work.executorJobs.find guid).map ExecutorJobRow.status

def packetStatus (work : WorkTables) (guid : Hash) : Option ExecutorState :=
  (work.packets.find guid).map PacketRecord.status

def dvnStatus (work : WorkTables) (guid : Hash) : Option DVNState :=
  (work.dvnJobs.find guid).map DVNJobRow.status

variable {work : WorkTables} {guid : Hash} {job : ExecutorJobRow}

theorem executorStatus_eq (hjob : work.executorJobs.find guid = some job) :
    executorStatus work guid = some job.status := by
  rw [executorStatus, hjob, Option.map_some]

theorem exists_job {status : ExecutorState} (hstatus : executorStatus work guid = some status) :
    ∃ job, work.executorJobs.find guid = some job ∧ job.status = status :=
  Option.map_eq_some_iff.mp hstatus

/-! ## Packet statuses -/

/-- Rewrite the status of one packet. -/
def restatus (guid : Hash) (next : ExecutorState) (packet : PacketRecord) : PacketRecord :=
  if packet.guid = guid then { packet with status := next } else packet

@[simp]
theorem restatus_guid {next : ExecutorState} : (restatus guid next packet).guid = packet.guid := by
  rw [restatus]
  split <;> rfl

@[simp]
theorem restatus_dstEID {next : ExecutorState} :
    (restatus guid next packet).dstEID = packet.dstEID := by
  rw [restatus]
  split <;> rfl

section SetPacketStatus

variable (work : WorkTables) (guid : Hash) (expected next : ExecutorState)

@[simp]
theorem setPacketStatus_executorJobs :
    (work.setPacketStatus guid next).executorJobs = work.executorJobs := by
  unfold WorkTables.setPacketStatus
  split <;> rfl

@[simp]
theorem setPacketStatus_dvnJobs : (work.setPacketStatus guid next).dvnJobs = work.dvnJobs := by
  unfold WorkTables.setPacketStatus
  split <;> rfl

@[simp]
theorem setPacketStatus_receiveFailures : (work.setPacketStatus guid next).receiveFailures =
      work.receiveFailures := by
  unfold WorkTables.setPacketStatus
  split <;> rfl

theorem setPacketStatus_find? {test : PacketRecord → Bool}
    (htest : ∀ packet, test { packet with status := next } = test packet) :
    (work.setPacketStatus guid next).packets.rows.find? test =
      (work.packets.rows.find? test).map (restatus guid next) := by
  unfold WorkTables.setPacketStatus
  split
  · rename_i hnone
    cases hfound : work.packets.rows.find? test with
    | none => rfl
    | some packet =>
      have hne : packet.guid ≠ guid := find_eq_none.mp hnone packet
        (List.mem_of_find?_eq_some hfound)
      rw [Option.map_some, restatus, if_neg hne]
  · rename_i stored hstored
    have hguid : stored.guid = guid := (find_eq_some.mp hstored).2
    rw [find?_set (hguid.symm ▸ hstored) (htest stored)]
    cases hfound : work.packets.rows.find? test with
    | none => rfl
    | some packet =>
      by_cases hsame : packet.guid = guid
      · have heq : packet = stored := eq_of_key_eq (List.mem_of_find?_eq_some hfound)
          (find_eq_some.mp hstored).1 (hsame.trans hguid.symm)
        simp [restatus, hguid, heq]
      · simp [restatus, hguid, hsame]

theorem setPacketStatus_find : (work.setPacketStatus guid next).packets.find wanted =
      (work.packets.find wanted).map (restatus guid next) :=
  setPacketStatus_find? work guid next fun _ => rfl

theorem packetStatus_setPacketStatus_self : packetStatus (work.setPacketStatus guid next) guid =
      (packetStatus work guid).map fun _ => next := by
  rw [packetStatus, packetStatus, setPacketStatus_find]
  cases hfound : work.packets.find guid with
  | none => rfl
  | some packet =>
    have hguid : packet.guid = guid := (find_eq_some.mp hfound).2
    simp [restatus, hguid]

theorem packetStatus_setPacketStatus_of_ne {other : Hash} (hne : other ≠ guid) :
    packetStatus (work.setPacketStatus guid next) other = packetStatus work other := by
  rw [packetStatus, packetStatus, setPacketStatus_find]
  cases hfound : work.packets.find other with
  | none => rfl
  | some packet =>
    have hguid : packet.guid ≠ guid := fun heq => hne ((find_eq_some.mp hfound).2 ▸ heq)
    simp [restatus, hguid]

@[simp]
theorem casPacketStatus_executorJobs : (work.casPacketStatus guid expected next).executorJobs =
      work.executorJobs := by
  unfold WorkTables.casPacketStatus
  repeat' split
  all_goals rfl

@[simp]
theorem casPacketStatus_dvnJobs :
    (work.casPacketStatus guid expected next).dvnJobs = work.dvnJobs := by
  unfold WorkTables.casPacketStatus
  repeat' split
  all_goals rfl

@[simp]
theorem casPacketStatus_receiveFailures :
    (work.casPacketStatus guid expected next).receiveFailures = work.receiveFailures := by
  unfold WorkTables.casPacketStatus
  repeat' split
  all_goals rfl

/-- Where the packet has the expected status the two updates agree. -/
theorem casPacketStatus_eq (hstatus : packetStatus work guid = some expected) :
    work.casPacketStatus guid expected next = work.setPacketStatus guid next := by
  obtain ⟨packet, hpacket, hexpected⟩ := Option.map_eq_some_iff.mp hstatus
  simp only [WorkTables.casPacketStatus, WorkTables.setPacketStatus, hpacket, hexpected, if_true]

end SetPacketStatus

/-! ## Executor jobs -/

theorem setExecutorJob_find_self (hjob : work.executorJobs.find guid = some job)
    (after : ExecutorJobRow) (hguid : after.guid = job.guid) :
    (work.setExecutorJob after).executorJobs.find guid = some after := by
  have hkey : after.guid = guid := hguid.trans (find_eq_some.mp hjob).2
  exact hkey ▸ find_set_self (hkey.symm ▸ hjob)

theorem executorStatus_of_set {post : WorkTables} {after : ExecutorJobRow}
    (hjobs : post.executorJobs = work.executorJobs.set after)
    (hfind : work.executorJobs.find guid = some job)
    (hguid : after.guid = job.guid) (other : Hash) : executorStatus post other =
      if other = guid then some after.status else executorStatus work other := by
  rw [executorStatus, hjobs]
  exact map_find_set hfind hguid other

theorem dvnStatus_of_set {job after : DVNJobRow} (hfind : work.dvnJobs.find guid = some job)
    (hguid : after.guid = job.guid) (other : Hash) : dvnStatus (work.setDVNJob after) other =
      if other = guid then some after.status else dvnStatus work other :=
  map_find_set hfind hguid other

/-- The failure that a retry-counting update charges. -/
def chargedFailure (update : ExecutorStatusUpdate) : ReceiveFailure :=
  ⟨update.guid, update.receiveTxHash.getD Hash.zero⟩

/-- The job after the compare-and-set. -/
def advancedJob (now : Time) (update : ExecutorStatusUpdate)
    (job : ExecutorJobRow) : ExecutorJobRow :=
  { job with
    status := update.next
    commitTxHash := update.commitTxHash.or job.commitTxHash
    receiveTxHash := update.receiveTxHash.or job.receiveTxHash
    lastError := optionalString update.lastError
    retryCount :=
      if update.incrementRetryCount then job.retryCount + 1
      else job.retryCount
    updatedAt := now }

/-- The failures recorded after the compare-and-set. -/
def chargedFailures (work : WorkTables) (update : ExecutorStatusUpdate) :
    Table ReceiveFailure ReceiveFailure id :=
  if update.incrementRetryCount then
    work.receiveFailures.insertNew (chargedFailure update)
  else work.receiveFailures

/-- The workflow tables after the compare-and-set. -/
def advance (work : WorkTables) (now : Time) (update : ExecutorStatusUpdate)
    (job : ExecutorJobRow) : WorkTables :=
  (WorkTables.setExecutorJob { work with receiveFailures := chargedFailures work update }
    (advancedJob now update job)).setPacketStatus update.guid update.next

/-- Why an update of a job's status is refused. -/
def Refuses (work : WorkTables) (update : ExecutorStatusUpdate) : Prop := update.guid = Hash.zero ∨
    (update.incrementRetryCount ∧ update.receiveTxHash = none) ∨
    executorStatus work update.guid ≠ some update.expected

/-- The three ways an update of a job's status ends. -/
inductive Updates (db : DB) (now : Time) (update : ExecutorStatusUpdate) : Result Unit → Prop
  | refused (error : StoreError) (hrefused : Refuses db.work update) :
      Updates db now update (rollback db error)
  | repeated (hcounts : update.incrementRetryCount) (hhash : update.receiveTxHash ≠ none)
      (hrecorded : (db.work.receiveFailures.find (chargedFailure update)).isSome) :
      Updates db now update (commit db ())
  | moved (job : ExecutorJobRow) (hguid : update.guid ≠ Hash.zero)
      (hjob : db.work.executorJobs.find update.guid = some job)
      (hstatus : job.status = update.expected)
      (hfresh : update.incrementRetryCount → update.receiveTxHash ≠ none ∧
          db.work.receiveFailures.find (chargedFailure update) = none) : Updates db now update
        (commit (db.withWork (advance db.work now update job)) ())

theorem updateExecutorStatus_updates (db : DB) (now : Time) (update : ExecutorStatusUpdate) :
    Updates db now update (updateExecutorStatus db now update) := by
  unfold updateExecutorStatus
  split
  · rename_i hguid
    exact .refused _ (.inl hguid)
  rename_i hguid
  split
  · rename_i hhash
    exact .refused _ (.inr (.inl hhash))
  rename_i hhash
  dsimp only
  split
  · rename_i hrecorded
    exact .repeated hrecorded.1 (fun hnone => hhash ⟨hrecorded.1, hnone⟩) hrecorded.2
  rename_i hrecorded
  split
  · rename_i hnone
    refine .refused _ (.inr (.inr ?_))
    simp [executorStatus, hnone]
  rename_i job hjob
  split
  · rename_i hstatus
    refine .moved job hguid hjob hstatus fun hcounts => ⟨?_, ?_⟩
    · exact fun hnone => hhash ⟨hcounts, hnone⟩
    · simpa [hcounts, chargedFailure] using hrecorded
  · rename_i hstatus
    refine .refused _ (.inr (.inr ?_))
    simpa [executorStatus, hjob] using hstatus

variable {now : Time} {update : ExecutorStatusUpdate}

@[simp]
theorem advance_dvnJobs : (advance work now update job).dvnJobs = work.dvnJobs := by
  simp [advance, WorkTables.setExecutorJob]

@[simp]
theorem advance_receiveFailures : (advance work now update job).receiveFailures =
      chargedFailures work update := by
  simp [advance, WorkTables.setExecutorJob]

theorem advance_find_packet : (advance work now update job).packets.find wanted =
      (work.packets.find wanted).map (restatus update.guid update.next) := by
  rw [advance, setPacketStatus_find]
  rfl

theorem advance_find_of_ne (hjob : work.executorJobs.find update.guid = some job) {other : Hash}
    (hne : other ≠ update.guid) : (advance work now update job).executorJobs.find other =
      work.executorJobs.find other := by
  have hguid : job.guid = update.guid := (find_eq_some.mp hjob).2
  rw [advance, setPacketStatus_executorJobs]
  exact find_set_of_ne (hguid.symm ▸ hne)

theorem advance_status_self (hjob : work.executorJobs.find update.guid = some job) :
    executorStatus (advance work now update job) update.guid = some update.next := by
  rw [executorStatus, advance, setPacketStatus_executorJobs]
  exact congrArg (Option.map ExecutorJobRow.status)
    (setExecutorJob_find_self hjob (advancedJob now update job) rfl)

theorem advance_status_of_ne (hjob : work.executorJobs.find update.guid = some job) {other : Hash}
    (hne : other ≠ update.guid) : executorStatus (advance work now update job) other =
      executorStatus work other := by
  rw [executorStatus, executorStatus, advance_find_of_ne hjob hne]

end Lazier.Workflow
