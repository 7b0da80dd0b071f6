import Lazier.Store.Jobs

/-!
# DVN jobs

The DVN job table: assignment, work listing and the status transitions.  A
transition is a compare-and-set on the status column; the packet coordinates
live in another table and are not part of the comparison, except for the
reorg transition that moves them.
-/

namespace Lazier.Store

open Library

structure DVNJobRecord where
  guid : Hash
  assignedFee : Option ℕ
  confirmationsRequired : ℕ
  status : DVNState
  quorumResult : Option QuorumResult
  deriving DecidableEq

/-- `UpsertDVNJob`: on a known guid the status is kept and the fee and the
required confirmations are overwritten. -/
def upsertDVNJob (db : DB) (now : Time) (job : DVNJobRecord) : Result Unit :=
  if job.guid = Hash.zero then
    rollback db (.message "dvn job guid is required")
  else if job.confirmationsRequired = 0 then
    rollback db (.message "dvn confirmations required is required")
  else if (db.work.packets.find job.guid).isNone then
    rollback db (.constraintViolation "dvn_jobs_guid_fkey")
  else
    match db.work.dvnJobs.find job.guid with
    | none =>
      commit (db.withWork { db.work with
        dvnJobs := db.work.dvnJobs.insertNew
          { guid := job.guid
            assignedFee := job.assignedFee
            confirmationsRequired := job.confirmationsRequired
            status := job.status
            verifyTxHash := none
            quorumResult := none
            lastError := none
            nextRetryAt := none
            updatedAt := now } }) ()
    | some stored =>
      commit (db.withWork (db.work.setDVNJob
        { stored with
          assignedFee := job.assignedFee
          confirmationsRequired := job.confirmationsRequired
          updatedAt := now })) ()

/-! ## Work listing -/

/-- A packet and its DVN job as one listing returned them. -/
structure DVNWorkItem where
  packet : PacketRecord
  job : DVNJobRecord
  deriving DecidableEq

def DVNJobRow.toRecord (job : DVNJobRow) : DVNJobRecord :=
  ⟨job.guid, job.assignedFee, job.confirmationsRequired, job.status, job.quorumResult⟩

/-- `GetDVNJob`, which leaves the quorum result unread; `none` is
`pgx.ErrNoRows`. -/
def getDVNJob (db : DB) (guid : Hash) : Except StoreError (Option DVNJobRecord) :=
  if guid = Hash.zero then .error (.message "dvn job guid is required")
  else
    .ok ((db.work.dvnJobs.find guid).map fun job =>
      { job.toRecord with quorumResult := none })

/-- Jobs that `ListDVNWork` joins with their packets. -/
def dvnWorkRow (db : DB) (now : Time) (status : DVNState) (job : DVNJobRow) : Option DVNWorkItem :=
  match db.work.packets.find job.guid with
  | none => none
  | some packet =>
    if job.status = status ∧ due job.nextRetryAt now ∧ packetScopeActive db packet then
      some ⟨packet, job.toRecord⟩
    else none

/-- `ORDER BY dj.updated_at, dj.guid`. -/
def dvnJobBefore (left right : DVNJobRow) : Prop := left.updatedAt < right.updatedAt ∨
    (left.updatedAt = right.updatedAt ∧ left.guid.1 ≤ right.guid.1)

instance : DecidableRel dvnJobBefore := fun left right =>
  inferInstanceAs (Decidable (left.updatedAt < right.updatedAt ∨
    (left.updatedAt = right.updatedAt ∧ left.guid.1 ≤ right.guid.1)))

/-- `ListDVNWork`.  One listed job without required confirmations fails the
whole listing. -/
def listDVNWork (db : DB) (now : Time) (status : DVNState) (limit : ℕ) :
    Except StoreError (List DVNWorkItem) :=
  if limit = 0 then
    .error (.message "dvn work limit must be positive")
  else
    let listed := ((db.work.dvnJobs.rows.insertionSort dvnJobBefore).filterMap
      (dvnWorkRow db now status)).take limit
    if listed.any fun item => item.job.confirmationsRequired = 0 then
      .error (.message "dvn work confirmations required is zero")
    else .ok listed

/-! ## Transitions -/

def deferDVNJob (db : DB) (now : Time) (guid : Hash) (expected : DVNState) (delay : Duration) :
    Result Unit :=
  if guid = Hash.zero then
    rollback db (.message "dvn job guid is required")
  else if delay ≤ 0 then
    rollback db (.message "dvn defer delay must be positive")
  else
    match db.work.dvnJobs.find guid with
    | none =>
      rollback db (.message s!"dvn job {guid.hex} is not in status {expected.text}")
    | some job =>
      if job.status = expected then
        commit (db.withWork (db.work.setDVNJob
          { job with nextRetryAt := some (now + delay), updatedAt := now })) ()
      else
        rollback db (.message s!"dvn job {guid.hex} is not in status {expected.text}")

structure DVNStatusUpdate where
  guid : Hash
  expected : DVNState
  next : DVNState
  lastError : String
  quorumResult : Option QuorumResult
  verifyTxHash : Option Hash

/-- The shared compare-and-set of the `MarkDVN` methods. -/
def updateDVNStatus (db : DB) (now : Time) (update : DVNStatusUpdate) : Result Unit :=
  if update.guid = Hash.zero then
    rollback db (.message "dvn job guid is required")
  else
    match db.work.dvnJobs.find update.guid with
    | none =>
      rollback db (.message s!"dvn job {update.guid.hex} is not in status {update.expected.text}")
    | some job =>
      if job.status = update.expected then
        commit (db.withWork (db.work.setDVNJob
          { job with
            status := update.next
            lastError := optionalString update.lastError
            quorumResult := update.quorumResult.or job.quorumResult
            verifyTxHash := update.verifyTxHash.or job.verifyTxHash
            updatedAt := now })) ()
      else
        rollback db (.message s!"dvn job {update.guid.hex} is not in status {update.expected.text}")

def markDVNWaitingConfirmations (db : DB) (now : Time) (guid : Hash) (expected : DVNState) :
    Result Unit :=
  updateDVNStatus db now ⟨guid, expected, .waitingConfirmations, "", none, none⟩

def markDVNQuorumChecking (db : DB) (now : Time) (guid : Hash) (expected : DVNState) :
    Result Unit :=
  updateDVNStatus db now ⟨guid, expected, .quorumChecking, "", none, none⟩

/-- A transition that must carry a quorum result. -/
def updateDVNWithResult (db : DB) (now : Time) (guid : Hash) (expected next : DVNState)
    (quorumResult : Option QuorumResult) :
    Result Unit :=
  if quorumResult = none then
    rollback db (.message "dvn quorum result is required")
  else
    updateDVNStatus db now ⟨guid, expected, next, "", quorumResult, none⟩

def markDVNReadyToVerify (db : DB) (now : Time) (guid : Hash) (expected : DVNState)
    (quorumResult : Option QuorumResult) : Result Unit :=
  updateDVNWithResult db now guid expected .readyToVerify quorumResult

def markDVNWouldVerify (db : DB) (now : Time) (guid : Hash) (expected : DVNState)
    (quorumResult : Option QuorumResult) : Result Unit :=
  updateDVNWithResult db now guid expected .wouldVerify quorumResult

def markDVNVerifiedFromChain (db : DB) (now : Time) (guid : Hash) (expected : DVNState)
    (quorumResult : Option QuorumResult) : Result Unit :=
  updateDVNWithResult db now guid expected .verified quorumResult

/-- A destination `PayloadVerified` event observed by the indexer. -/
def markDVNVerifiedObserved (db : DB) (now : Time) (guid txHash : Hash) (expected : DVNState) :
    Result Unit :=
  if txHash = Hash.zero then
    rollback db (.message "dvn verify tx hash is required")
  else
    updateDVNStatus db now ⟨guid, expected, .verified, "", none, some txHash⟩

def markDVNVerified (db : DB) (now : Time) (guid txHash : Hash) : Result Unit :=
  markDVNVerifiedObserved db now guid txHash .verifyTxEnqueued

def markDVNQuorumConflict (db : DB) (now : Time) (guid : Hash) (expected : DVNState)
    (reason : String) (quorumResult : Option QuorumResult) : Result Unit :=
  if reason = "" then
    rollback db (.message "dvn quorum conflict reason is required")
  else
    updateDVNStatus db now ⟨guid, expected, .quorumConflict, reason, quorumResult, none⟩

def markDVNReorgDetected (db : DB) (now : Time) (guid : Hash) (expected : DVNState)
    (reason : String) (quorumResult : Option QuorumResult) : Result Unit :=
  if reason = "" then
    rollback db (.message "dvn reorg reason is required")
  else
    updateDVNStatus db now ⟨guid, expected, .reorgDetected, reason, quorumResult, none⟩

def markDVNManualReview (db : DB) (now : Time) (guid : Hash)
    (expected : DVNState) (reason : String) : Result Unit :=
  if reason = "" then
    rollback db (.message "dvn manual review reason is required")
  else
    updateDVNStatus db now ⟨guid, expected, .manualReview, reason, none, none⟩

/-- Unlike the shared compare-and-set, this transition also clears the retry
time and pauses the packet's pathway. -/
def markDVNManualReviewAndPausePathway (db : DB) (now : Time) (guid : Hash) (expected : DVNState)
    (reason : String) (quorumResult : Option QuorumResult) : Result Unit :=
  if guid = Hash.zero then
    rollback db (.message "dvn job guid is required")
  else if reason = "" then
    rollback db (.message "dvn manual review reason is required")
  else
    match db.work.dvnJobs.find guid with
    | none =>
      rollback db (.message s!"dvn job {guid.hex} is not in status {expected.text}")
    | some job =>
      if job.status = expected then
        match pausePacketPathway db guid with
        | none =>
          rollback db (.message s!"pathway for packet {guid.hex} was not found")
        | some config =>
          commit ((db.withConfig config).withWork (db.work.setDVNJob
            { job with
              status := .manualReview
              lastError := some reason
              quorumResult := quorumResult.or job.quorumResult
              nextRetryAt := none
              updatedAt := now })) ()
      else
        rollback db (.message s!"dvn job {guid.hex} is not in status {expected.text}")

/-- Source coordinates of a packet. -/
structure Coordinates where
  blockNumber : ℕ
  logIndex : ℕ
  deriving DecidableEq

def PacketRecord.coordinates (packet : PacketRecord) : Coordinates :=
  ⟨packet.srcBlockNumber, packet.srcLogIndex⟩

/-- The coordinate compare-and-set: a concurrent refresh is not clobbered. -/
def WorkTables.casCoordinates (work : WorkTables) (guid : Hash) (expected next : Coordinates) :
    WorkTables :=
  match work.packets.find guid with
  | none => work
  | some packet =>
    if packet.coordinates = expected then
      { work with
        packets := work.packets.set
          { packet with
            srcBlockNumber := next.blockNumber
            srcLogIndex := next.logIndex } }
    else work

/-- The reorg transition and the re-included coordinates in one transaction. -/
def markDVNReorgDetectedWithCoordinates (db : DB) (now : Time) (guid : Hash) (expected : DVNState)
    (reason : String) (quorumResult : Option QuorumResult) (next stored : Coordinates) :
    Result Unit :=
  if guid = Hash.zero then
    rollback db (.message "dvn job guid is required")
  else
    match db.work.dvnJobs.find guid with
    | none =>
      rollback db (.message s!"dvn job {guid.hex} is not in status {expected.text}")
    | some job =>
      if job.status = expected then
        commit (db.withWork ((db.work.setDVNJob
          { job with
            status := .reorgDetected
            lastError := optionalString reason
            quorumResult := quorumResult.or job.quorumResult
            updatedAt := now }).casCoordinates guid stored next)) ()
      else
        rollback db (.message s!"dvn job {guid.hex} is not in status {expected.text}")

/-- `EnqueueDVNVerifyTx`: insert the verify transaction and advance the job. -/
def enqueueDVNVerifyTx (db : DB) (now : Time) (guid : Hash) (expected next : DVNState)
    (given : TxRequest) (quorumResult : Option QuorumResult) : Result ℕ :=
  let request := given.withGUID guid
  if guid = Hash.zero then
    rollback db (.message "dvn job guid is required")
  else if request.guid ≠ guid.1 then
    rollback db (.message "tx request guid does not match dvn job")
  else if quorumResult = none then
    rollback db (.message "dvn quorum result is required")
  else
    match txRequestError request with
    | some error => rollback db error
    | none =>
      match db.work.dvnJobs.find guid with
      | none => rollback db (.message s!"dvn job {guid.hex} not found")
      | some job =>
        if job.status ≠ expected then
          rollback db (.message
            s!"dvn job {guid.hex} status is {job.status.text}, want {expected.text}")
        else
          match lockTxSendScope db request.chainEID request.purpose request.guid with
          | .error error => rollback db error
          | .ok () =>
            commit ((db.withWork (db.work.setDVNJob
                { job with
                  status := next
                  quorumResult := quorumResult
                  updatedAt := now })).withTx
              (insertQueued db.tx now request)) db.tx.outbox.next

end Lazier.Store
