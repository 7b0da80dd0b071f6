import Lazier.Store.Retry

/-!
# Packets and worker jobs

The workflow tables: packets from the source indexer, executor jobs and DVN
jobs.  Job transitions are compare-and-set on the status column alone.
-/

namespace Lazier.Store

open Library

/-! ## Packets -/

/-- `PacketRecord.Validate`.  The source ranges over the three addresses in map
order, so which of several missing ones it names is not determined. -/
def PacketRecord.validationError (packet : PacketRecord) : Option StoreError :=
  if packet.guid = Hash.zero then some (.message "packet guid is required")
  else if packet.srcEID = 0 ∨ packet.dstEID = 0 then
    some (.message "packet source and destination eids are required")
  else if packet.srcEID = packet.dstEID then
    some (.message "packet source and destination eids must differ")
  else if packet.sender = Address.zero then
    some (.message "packet sender is required")
  else if packet.receiver = Address.zero then
    some (.message "packet receiver is required")
  else if packet.sendLib = Address.zero then
    some (.message "packet send_lib is required")
  else if packet.srcTxHash = Hash.zero then
    some (.message "packet source tx hash is required")
  else if packet.payloadHash = Hash.zero then
    some (.message "packet payload hash is required")
  else if packet.encodedPacket.length = 0 then
    some (.message "packet encoded bytes are required")
  else if packet.packetHeader.length = 0 then
    some (.message "packet header is required")
  else none

/-- `UNIQUE(src_eid, dst_eid, sender, receiver, nonce)` against other guids. -/
def packetIdentityTaken (work : WorkTables) (packet : PacketRecord) : Bool :=
  work.packets.rows.any fun other =>
    decide (other.guid ≠ packet.guid ∧ other.route = packet.route ∧ other.nonce = packet.nonce)

/-- `UpsertPacket`: on a known guid everything but the status is overwritten. -/
def upsertPacket (db : DB) (packet : PacketRecord) : Result Unit :=
  match packet.validationError with
  | some error => rollback db error
  | none =>
    if ¬ chainsExist db.config packet.srcEID packet.dstEID then
      rollback db (.constraintViolation "packets_eid_fkey")
    else if packetIdentityTaken db.work packet then
      rollback db (.constraintViolation "packets_identity_key")
    else
      match db.work.packets.find packet.guid with
      | none =>
        commit (db.withWork { db.work with
          packets := db.work.packets.insertNew packet }) ()
      | some stored =>
        commit (db.withWork { db.work with
          packets := db.work.packets.set { packet with status := stored.status } }) ()

/-- `GetPacket`; `none` is `pgx.ErrNoRows`. -/
def getPacket (db : DB) (guid : Hash) : Except StoreError (Option PacketRecord) :=
  if guid = Hash.zero then .error (.message "packet guid is required")
  else .ok (db.work.packets.find guid)

/-- The driver refuses arguments that do not fit an `INTEGER` column. -/
def int4Error : StoreError := .message "greater than maximum value for int4"

/-- `GetPacketByDestination`; `none` is `pgx.ErrNoRows`. -/
def getPacketByDestination (db : DB) (route : Route) (nonce : ℕ) :
    Except StoreError (Option PacketRecord) :=
  if route.dstEID = 0 ∨ route.srcEID = 0 then
    .error (.message "packet source and destination eids are required")
  else if route.srcOApp = Address.zero ∨ route.dstOApp = Address.zero then
    .error (.message "packet sender and receiver are required")
  else if nonce = 0 then
    .error (.message "packet nonce is required")
  else if 2 ^ 31 ≤ route.dstEID ∨ 2 ^ 31 ≤ route.srcEID then .error int4Error
  else
    .ok (db.work.packets.rows.find? fun packet =>
      decide (packet.route = route ∧ packet.nonce = nonce))

/-- `GetPacketByVerification`; `none` is `pgx.ErrNoRows`. -/
def getPacketByVerification (db : DB) (dstEID : ℕ) (packetHeader : Bytes)
    (payloadHash : Hash) : Except StoreError (Option PacketRecord) :=
  if dstEID = 0 then
    .error (.message "packet destination eid is required")
  else if packetHeader.length = 0 then
    .error (.message "packet header is required")
  else if payloadHash = Hash.zero then
    .error (.message "packet payload hash is required")
  else if 2 ^ 31 ≤ dstEID then .error int4Error
  else
    .ok (db.work.packets.rows.find? fun packet =>
      decide (packet.dstEID = dstEID ∧ packet.packetHeader = packetHeader ∧
        packet.payloadHash = payloadHash))

/-! ## Executor jobs -/

structure ExecutorJobRecord where
  guid : Hash
  assignedFee : Option ℕ
  status : ExecutorState
  lastError : String
  deriving DecidableEq

def upsertExecutorJob (db : DB) (now : Time) (job : ExecutorJobRecord) : Result Unit :=
  if job.guid = Hash.zero then
    rollback db (.message "executor job guid is required")
  else if (db.work.packets.find job.guid).isNone then
    rollback db (.constraintViolation "executor_jobs_guid_fkey")
  else
    match db.work.executorJobs.find job.guid with
    | none =>
      commit (db.withWork { db.work with
        executorJobs := db.work.executorJobs.insertNew
          { guid := job.guid
            assignedFee := job.assignedFee
            status := job.status
            commitTxHash := none
            receiveTxHash := none
            lastError := optionalString job.lastError
            retryCount := 0
            nextRetryAt := none
            updatedAt := now } }) ()
    | some stored =>
      commit (db.withWork (db.work.setExecutorJob
        { stored with
          assignedFee := job.assignedFee
          updatedAt := now })) ()

/-- `GetExecutorJob`; `none` is `pgx.ErrNoRows`. -/
def getExecutorJob (db : DB) (guid : Hash) : Except StoreError (Option ExecutorJobRow) :=
  if guid = Hash.zero then .error (.message "executor job guid is required")
  else .ok (db.work.executorJobs.find guid)

def deferExecutorJob (db : DB) (now : Time) (guid : Hash)
    (expected : ExecutorState) (delay : Duration) : Result Unit :=
  if guid = Hash.zero then
    rollback db (.message "executor job guid is required")
  else if delay ≤ 0 then
    rollback db (.message "executor defer delay must be positive")
  else
    match db.work.executorJobs.find guid with
    | none =>
      rollback db (.message s!"executor job {guid.hex} is not in status {expected.text}")
    | some job =>
      if job.status = expected then
        commit (db.withWork (db.work.setExecutorJob
          { job with nextRetryAt := some (now + delay), updatedAt := now })) ()
      else
        rollback db (.message s!"executor job {guid.hex} is not in status {expected.text}")

/-- An empty request guid is filled with the job's own. -/
def TxRequest.withGUID (request : TxRequest) (guid : Hash) : TxRequest :=
  if request.guid.length = 0 then { request with guid := guid.1 } else request

def enqueueExecutorTx (db : DB) (now : Time) (guid : Hash)
    (expected next : ExecutorState) (given : TxRequest) : Result ℕ :=
  let request := given.withGUID guid
  if guid = Hash.zero then
    rollback db (.message "executor job guid is required")
  else if request.guid ≠ guid.1 then
    rollback db (.message "tx request guid does not match executor job")
  else
    match txRequestError request with
    | some error => rollback db error
    | none =>
      match db.work.executorJobs.find guid with
      | none =>
        rollback db (.message s!"executor job {guid.hex} not found")
      | some job =>
        if job.status ≠ expected then
          rollback db (.message
            s!"executor job {guid.hex} status is {job.status.text}, want {expected.text}")
        else
          match lockTxSendScope db request.chainEID request.purpose request.guid with
          | .error error => rollback db error
          | .ok () =>
            commit ((db.withWork ((db.work.setExecutorJob
                { job with status := next, updatedAt := now } ).setPacketStatus guid next)).withTx
              (insertQueued db.tx now request)) db.tx.outbox.next

structure ExecutorStatusUpdate where
  guid : Hash
  expected : ExecutorState
  next : ExecutorState
  commitTxHash : Option Hash
  receiveTxHash : Option Hash
  lastError : String
  incrementRetryCount : Bool

/-- The shared compare-and-set of the `MarkExecutor` methods.  Each failing
transaction hash charges the retry budget at most once. -/
def updateExecutorStatus (db : DB) (now : Time) (update : ExecutorStatusUpdate) : Result Unit :=
  if update.guid = Hash.zero then
    rollback db (.message "executor job guid is required")
  else if update.incrementRetryCount ∧ update.receiveTxHash = none then
    rollback db (.message "executor retry accounting requires the failing receive tx hash")
  else
    let failure : ReceiveFailure := ⟨update.guid, update.receiveTxHash.getD Hash.zero⟩
    if update.incrementRetryCount ∧ (db.work.receiveFailures.find failure).isSome then
      commit db ()
    else
      match db.work.executorJobs.find update.guid with
      | none =>
        rollback db (.message
          s!"executor job {update.guid.hex} is not in status {update.expected.text}")
      | some job =>
        if job.status = update.expected then
          let failures :=
            if update.incrementRetryCount then
              db.work.receiveFailures.insertNew failure
            else db.work.receiveFailures
          commit (db.withWork
            ((WorkTables.setExecutorJob { db.work with receiveFailures := failures }
              { job with
                status := update.next
                commitTxHash := update.commitTxHash.or job.commitTxHash
                receiveTxHash := update.receiveTxHash.or job.receiveTxHash
                lastError := optionalString update.lastError
                retryCount :=
                  if update.incrementRetryCount then job.retryCount + 1
                  else job.retryCount
                updatedAt := now }).setPacketStatus update.guid update.next)) ()
        else
          rollback db (.message
            s!"executor job {update.guid.hex} is not in status {update.expected.text}")

/-- A transition with no other column. -/
def ExecutorStatusUpdate.move (guid : Hash) (expected next : ExecutorState) :
    ExecutorStatusUpdate :=
  ⟨guid, expected, next, none, none, "", false⟩

def markExecutorWaitingDVNVerification (db : DB) (now : Time) (guid : Hash)
    (expected : ExecutorState) : Result Unit :=
  updateExecutorStatus db now (.move guid expected .waitingDVNVerification)

def markExecutorVerifiable (db : DB) (now : Time) (guid : Hash)
    (expected : ExecutorState) : Result Unit :=
  updateExecutorStatus db now (.move guid expected .verifiable)

def markExecutorCommittedFromChain (db : DB) (now : Time) (guid : Hash)
    (expected : ExecutorState) : Result Unit :=
  updateExecutorStatus db now (.move guid expected .committed)

def markExecutorExecutable (db : DB) (now : Time) (guid : Hash) : Result Unit :=
  updateExecutorStatus db now (.move guid .committed .executable)

def markExecutorDeliveredFromChain (db : DB) (now : Time) (guid : Hash)
    (expected : ExecutorState) : Result Unit :=
  updateExecutorStatus db now (.move guid expected .delivered)

/-- A destination `PacketVerified` event, whose transaction hash is required. -/
def markExecutorCommittedObserved (db : DB) (now : Time) (guid txHash : Hash)
    (expected : ExecutorState) : Result Unit :=
  if txHash = Hash.zero then
    rollback db (.message "executor commit tx hash is required")
  else
    updateExecutorStatus db now
      { ExecutorStatusUpdate.move guid expected .committed with
        commitTxHash := some txHash }

def markExecutorCommitted (db : DB) (now : Time) (guid txHash : Hash) : Result Unit :=
  markExecutorCommittedObserved db now guid txHash .commitTxEnqueued

def markExecutorManualReview (db : DB) (now : Time) (guid : Hash)
    (expected : ExecutorState) (reason : String) : Result Unit :=
  if reason = "" then
    rollback db (.message "executor manual review reason is required")
  else
    updateExecutorStatus db now
      { ExecutorStatusUpdate.move guid expected .manualReview with
        lastError := reason }

def markExecutorDeliveredObserved (db : DB) (now : Time) (guid txHash : Hash)
    (expected : ExecutorState) : Result Unit :=
  if txHash = Hash.zero then
    rollback db (.message "executor receive tx hash is required")
  else
    updateExecutorStatus db now
      { ExecutorStatusUpdate.move guid expected .delivered with
        receiveTxHash := some txHash }

def markExecutorDelivered (db : DB) (now : Time) (guid txHash : Hash) : Result Unit :=
  markExecutorDeliveredObserved db now guid txHash .lzReceiveTxEnqueued

def markExecutorReceiveFailedObserved (db : DB) (now : Time)
    (guid txHash : Hash) (expected : ExecutorState) (reason : String) :
    Result Unit :=
  if txHash = Hash.zero then
    rollback db (.message "executor receive tx hash is required")
  else
    updateExecutorStatus db now ⟨guid, expected, .lzReceiveFailed, none, some txHash, reason, true⟩

def markExecutorReceiveFailed (db : DB) (now : Time) (guid txHash : Hash)
    (reason : String) : Result Unit :=
  markExecutorReceiveFailedObserved db now guid txHash .lzReceiveTxEnqueued reason

/-! ## Indexer bookkeeping -/

def updateIndexerCursor (db : DB) (chainEID : ℕ) (stream : String) (lastBlock : ℕ) : Result Unit :=
  if chainEID = 0 then
    rollback db (.message "indexer cursor chain eid is required")
  else if stream = "" then
    rollback db (.message "indexer cursor stream is required")
  else if lastBlock > maxDBNonce then
    rollback db (.message "indexer cursor last block exceeds database integer limit")
  else if (db.config.chains.find chainEID).isNone then
    rollback db (.constraintViolation "indexer_cursors_chain_eid_fkey")
  else
    match db.work.indexerCursors.find (chainEID, stream) with
    | none =>
      commit (db.withWork { db.work with
        indexerCursors := db.work.indexerCursors.insertNew ⟨(chainEID, stream), lastBlock⟩ }) ()
    | some cursor =>
      commit (db.withWork { db.work with
        indexerCursors := db.work.indexerCursors.set
          { cursor with lastBlock := max cursor.lastBlock lastBlock } }) ()

def SourcePacketSkip.validationError (skip : SourcePacketSkip) : Option StoreError :=
  if skip.key.role = "" then
    some (.message "source packet skip role is required")
  else if skip.key.route.srcEID = 0 ∨ skip.key.route.dstEID = 0 then
    some (.message "source packet skip eids are required")
  else if skip.key.nonce = 0 then
    some (.message "source packet skip nonce is required")
  else if skip.key.route.srcOApp = Address.zero ∨ skip.key.route.dstOApp = Address.zero then
    some (.message "source packet skip sender and receiver are required")
  else if skip.guid = Hash.zero then
    some (.message "source packet skip guid is required")
  else if skip.srcTxHash = Hash.zero then
    some (.message "source packet skip tx hash is required")
  else if skip.reason = "" then
    some (.message "source packet skip reason is required")
  else none

def recordSourcePacketSkip (db : DB) (skip : SourcePacketSkip) : Result Unit :=
  match skip.validationError with
  | some error => rollback db error
  | none =>
    if ¬ chainsExist db.config skip.key.route.srcEID skip.key.route.dstEID then
      rollback db (.constraintViolation "source_packet_skips_eid_fkey")
    else
      match db.work.skips.find skip.key with
      | none =>
        commit (db.withWork { db.work with
          skips := db.work.skips.insertNew skip }) ()
      | some _ =>
        commit (db.withWork { db.work with
          skips := db.work.skips.set skip }) ()

/-- `GetSourcePacketSkip`; `none` is `pgx.ErrNoRows`. -/
def getSourcePacketSkip (db : DB) (key : SkipKey) : Except StoreError (Option SourcePacketSkip) :=
  if key.role = "" then
    .error (.message "source packet skip role is required")
  else if key.route.srcEID = 0 ∨ key.route.dstEID = 0 then
    .error (.message "source packet skip eids are required")
  else if key.route.srcOApp = Address.zero ∨ key.route.dstOApp = Address.zero then
    .error (.message "source packet skip sender and receiver are required")
  else if key.nonce = 0 then
    .error (.message "source packet skip nonce is required")
  else .ok (db.work.skips.find key)

end Lazier.Store
