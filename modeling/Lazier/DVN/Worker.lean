import Lazier.DVN.Destination
import Lazier.Store.Operations

/-!
# DVN workers

One pass of a worker lists a job, reads its chains and then makes a store call
whose compare-and-set names only the job's status.  Each of these is a step of
its own: between them any number of other workers, the source indexer and the
rest of the process may act on the same database.
-/

namespace Lazier.DVN

open Chain Library Store

def loopInterval : Duration := 5 * second

/-! ## Reads -/

/-- The outcome of `CheckHead`; the head number may be missing. -/
inductive HeadError
  | conflict (message : String)
  | failed (message : String)

/-- What one pass of `ProcessConfirmationsOnce` reads. -/
structure ConfirmationReads where
  anchor : Except String Unit
  destination : DestinationView
  head : Except HeadError (Option ℕ)

/-- The outcome of `TransactionReceiptAt`. -/
inductive ReceiptError
  | conflict (message : String)
  | notFound (message : String)
  | failed (message : String)

/-- What one pass of `ProcessQuorumOnce` reads. -/
abbrev ReceiptReads := Except ReceiptError (Option Receipt)

/-- What one pass of `ProcessReadyToVerifyOnce` reads. -/
structure DestinationReads where
  anchor : Except String Unit
  latest : DestinationView
  head : Except String (Option ℕ)
  confirmed : DestinationView

/-! ## Decisions -/

/-- `deferDVNWorkError`. -/
def deferCall (item : DVNWorkItem) (status : DVNState) (now : Time) : Op :=
  .work (.deferDVNJob now item.packet.guid status loopInterval)

/-- `markDestinationConfigMismatch`. -/
def mismatchCall (item : DVNWorkItem) (status : DVNState) (reason : String) (now : Time) : Op :=
  .work (.markDVNManualReviewAndPausePathway now item.packet.guid status
    (DestinationError.mismatch reason).text item.job.quorumResult)

/-- The source head a confirmation pass gets to see. -/
def observedHead (config : WorkerConfig) (item : DVNWorkItem)
    (reads : ConfirmationReads) : Option ℕ :=
  match validateActiveDestinationConfig config item.packet
      item.job.confirmationsRequired reads.anchor reads.destination with
  | .error _ => none
  | .ok () =>
    if ¬ config.hasReader item.packet.srcEID then none
    else
      match reads.head with
      | .ok (some number) => some (number % 2 ^ 64)
      | _ => none

/-- The store call that ends a pass of `ProcessConfirmationsOnce` over an
`ASSIGNED` or `WAITING_CONFIRMATIONS` job. -/
def confirmationCall (config : WorkerConfig) (status : DVNState)
    (item : DVNWorkItem) (reads : ConfirmationReads) (now : Time) : Op :=
  match validateActiveDestinationConfig config item.packet
      item.job.confirmationsRequired reads.anchor reads.destination with
  | .error (.mismatch reason) => mismatchCall item status reason now
  | .error (.failed _) => deferCall item status now
  | .ok () =>
    if ¬ config.hasReader item.packet.srcEID then deferCall item status now
    else
      match reads.head with
      | .error (.conflict _) => .work (.pauseChain item.packet.srcEID)
      | .error (.failed _) => deferCall item status now
      | .ok none => deferCall item status now
      | .ok (some number) =>
        if hasRequiredConfirmations item.packet.srcBlockNumber
            item.job.confirmationsRequired (number % 2 ^ 64) then
          .work (.markDVNQuorumChecking now item.packet.guid status)
        else if status = .assigned then
          .work (.markDVNWaitingConfirmations now item.packet.guid status)
        else deferCall item status now

/-- `markReorgDetected`. -/
def reorgCall (item : DVNWorkItem) (reason : String) (now : Time) : Op :=
  .work (.markDVNReorgDetected now item.packet.guid .quorumChecking reason
    (some (.failure item.packet.srcTxHash reason)))

/-- The first call of `markQuorumConflict`. -/
def conflictCall (item : DVNWorkItem) (reason : String) (now : Time) : Op :=
  .work (.markDVNQuorumConflict now item.packet.guid .quorumChecking reason
    (some (.failure item.packet.srcTxHash reason)))

/-- The source endpoint that the receipt check requires, when the registry
knows the chain. -/
def sourceEndpoint (config : WorkerConfig) (srcEID : ℕ) : Option Address :=
  match config.registry with
  | none => some Address.zero
  | some registry =>
    (registry.get srcEID).map ChainConfig.endpointAddress

/-- The call for a receipt that failed the check. -/
def evidenceErrorCall (libs : Libraries) (item : DVNWorkItem)
    (receipt : Option Receipt) (endpoint : Address) (error : EvidenceError) (now : Time) : Op :=
  match error with
  | .conflict message => conflictCall item message now
  | .reorg _ =>
    match reorgedPacketRecord libs item.packet receipt endpoint with
    | none => reorgCall item error.text now
    | some updated =>
      .work (.markDVNReorgDetectedWithCoordinates now item.packet.guid .quorumChecking error.text
        (some (.failure item.packet.srcTxHash error.text)) updated item.packet.coordinates)

/-- The store call that ends a pass of `ProcessQuorumOnce`. -/
def quorumCall (libs : Libraries) (config : WorkerConfig)
    (item : DVNWorkItem) (reads : ReceiptReads) (now : Time) : Op :=
  if ¬ config.hasReader item.packet.srcEID then
    deferCall item .quorumChecking now
  else
    match reads with
    | .error (.conflict message) => conflictCall item message now
    | .error (.notFound message) => reorgCall item message now
    | .error (.failed _) => deferCall item .quorumChecking now
    | .ok receipt =>
      match sourceEndpoint config item.packet.srcEID with
      | none => deferCall item .quorumChecking now
      | some endpoint =>
        match verifySourceReceiptForEndpoint libs item.packet receipt endpoint with
        | .error error =>
          evidenceErrorCall libs item receipt endpoint error now
        | .ok report =>
          .work (.markDVNReadyToVerify now item.packet.guid .quorumChecking (some (.report report)))

/-- `Worker.buildVerifyTx`. -/
def workerVerifyTx (libs : Libraries) (config : WorkerConfig)
    (item : DVNWorkItem) (pathway : PathwayConfig) :
    Except String TxRequest :=
  match config.signerID item.packet.dstEID with
  | none =>
    .error s!"dvn active mode requires tx settings for destination eid {item.packet.dstEID}"
  | some signerID =>
    if signerID = "" then .error "dvn active mode requires signer id"
    else
      buildVerifyTx libs item.packet pathway.openDVN pathway.receiveLib
        item.job.confirmationsRequired signerID

/-- The store call that ends an active pass over a job that is not verified on
the destination chain yet. -/
def enqueueCall (libs : Libraries) (config : WorkerConfig)
    (item : DVNWorkItem) (pathway : PathwayConfig) (now : Time) : Option Op :=
  match workerVerifyTx libs config item pathway with
  | .error _ => none
  | .ok request =>
    some (.tx (.enqueueDVNVerifyTx now item.packet.guid .readyToVerify
      .verifyTxEnqueued request item.job.quorumResult))

/-- The active branch of `ProcessReadyToVerifyOnce`. -/
def activeCall (libs : Libraries) (config : WorkerConfig)
    (registry : ChainRegistry) (item : DVNWorkItem) (pathway : PathwayConfig)
    (reads : DestinationReads) (now : Time) : Option Op :=
  let confirmations := item.job.confirmationsRequired
  match reads.anchor with
  | .error _ => some (deferCall item .readyToVerify now)
  | .ok () =>
    match verificationAlreadyComplete registry config item.packet pathway
        confirmations reads.latest with
    | .error (.mismatch reason) =>
      some (mismatchCall item .readyToVerify reason now)
    | .error (.failed _) => some (deferCall item .readyToVerify now)
    | .ok false => enqueueCall libs config item pathway now
    | .ok true =>
      match verificationConfirmedOnChain registry config item.packet
          pathway confirmations reads.head reads.confirmed with
      | .error _ => some (deferCall item .readyToVerify now)
      | .ok false => some (deferCall item .readyToVerify now)
      | .ok true =>
        some (.work (.markDVNVerifiedFromChain now item.packet.guid
          .readyToVerify item.job.quorumResult))

/-- The store call that ends a pass of `ProcessReadyToVerifyOnce`; a pass that
returns an error before its call makes none. -/
def readyCall (libs : Libraries) (config : WorkerConfig) (item : DVNWorkItem)
    (reads : DestinationReads) (now : Time) : Option Op :=
  if item.job.quorumResult = none then none
  else
    match config.registry with
    | none => none
    | some registry =>
      match registry.pathway item.packet.route with
      | none => some (deferCall item .readyToVerify now)
      | some pathway =>
        match pathway.dvnMode with
        | .shadow =>
          some (.work (.markDVNWouldVerify now item.packet.guid
            .readyToVerify item.job.quorumResult))
        | .active =>
          activeCall libs config registry item pathway reads now
        | .other _ => none

/-! ## Passes -/

/-- Where a worker stands in one of its three procedures. -/
inductive Pass
  | scanning (status : DVNState) (remaining : List DVNState)
  | rollingBack (item : DVNWorkItem)
  | confirming (status : DVNState) (item : DVNWorkItem)
  | confirmed (status : DVNState) (item : DVNWorkItem) (reads : ConfirmationReads)
  | listingQuorum
  | checking (item : DVNWorkItem)
  | checked (item : DVNWorkItem) (reads : ReceiptReads)
  | pausing (guid : Hash)
  | listingReady
  | verifying (item : DVNWorkItem)
  | decided (item : DVNWorkItem) (reads : DestinationReads)

inductive Procedure
  | processConfirmationsOnce
  | processQuorumOnce
  | processReadyToVerifyOnce

def Procedure.entry : Procedure → Pass
  | .processConfirmationsOnce =>
    .scanning .reorgDetected [.assigned, .waitingConfirmations]
  | .processQuorumOnce => .listingQuorum
  | .processReadyToVerifyOnce => .listingReady

/-- The status a pass is about to list. -/
def Pass.listing : Pass → Option DVNState
  | .scanning status _ => some status
  | .listingQuorum => some .quorumChecking
  | .listingReady => some .readyToVerify
  | _ => none

/-- A pass after its listing came back empty. -/
def Pass.afterEmpty : Pass → Option Pass
  | .scanning _ (next :: remaining) => some (.scanning next remaining)
  | _ => none

/-- A pass after its listing returned `item`. -/
def Pass.afterItem (item : DVNWorkItem) : Pass → Option Pass
  | .scanning .reorgDetected _ => some (.rollingBack item)
  | .scanning status _ => some (.confirming status item)
  | .listingQuorum => some (.checking item)
  | .listingReady => some (.verifying item)
  | _ => none

/-- The store call a pass is about to make; the inner `none` ends the pass
without one. -/
def Pass.pending (libs : Libraries) (config : WorkerConfig) (now : Time) : Pass → Option (Option Op)
  | .rollingBack item =>
    some (some (.work (.markDVNWaitingConfirmations now item.packet.guid .reorgDetected)))
  | .confirmed status item reads =>
    some (some (confirmationCall config status item reads now))
  | .checked item reads => some (some (quorumCall libs config item reads now))
  | .pausing guid => some (some (.work (.pausePathwayForPacket guid)))
  | .decided item reads => some (readyCall libs config item reads now)
  | _ => none

/-- `markQuorumConflict` pauses the pathway with a second call, once the first
has committed.  Every other call is the last one of its pass. -/
def afterCall (db : DB) : Op → Option Pass
  | .work (.markDVNQuorumConflict now guid expected reason quorumResult) =>
    match (markDVNQuorumConflict db now guid expected reason quorumResult).2 with
    | .ok () => some (.pausing guid)
    | .error _ => none
  | _ => none

/-! ## The system -/

structure System where
  db : DB
  workers : ℕ → Option Pass

/-- The empty schema before any worker has started. -/
def System.empty : System := ⟨DB.empty, fun _ => none⟩

def System.setWorker (system : System) (worker : ℕ) (pass : Option Pass) : System :=
  { system with workers := Function.update system.workers worker pass }

/-- The steps.  `stop` is a crash or a returned error at any point of a pass;
`other` is any store call of another component. -/
inductive Label
  | enter (worker : ℕ) (procedure : Procedure)
  | list (worker : ℕ) (now : Time)
  | readHead (worker : ℕ) (reads : ConfirmationReads)
  | readReceipt (worker : ℕ) (reads : ReceiptReads)
  | readDestination (worker : ℕ) (reads : DestinationReads)
  | call (worker : ℕ) (now : Time)
  | stop (worker : ℕ)
  | indexPacket (log : Log) (status : ExecutorState)
  | indexJob (now : Time) (guid : Hash) (assignedFee : Option ℕ) (confirmationsRequired : ℕ)
  | other (op : Op)

/-- Store calls that only the DVN worker or the source indexer makes. -/
def ownCall : Op → Bool
  | .work (.upsertPacket ..) => true
  | .work (.upsertDVNJob ..) => true
  | .work (.deferDVNJob ..) => true
  | .work (.markDVNWaitingConfirmations ..) => true
  | .work (.markDVNQuorumChecking ..) => true
  | .work (.markDVNReadyToVerify ..) => true
  | .work (.markDVNWouldVerify ..) => true
  | .work (.markDVNVerifiedFromChain ..) => true
  | .work (.markDVNQuorumConflict ..) => true
  | .work (.markDVNReorgDetected ..) => true
  | .work (.markDVNReorgDetectedWithCoordinates ..) => true
  | .work (.markDVNManualReviewAndPausePathway ..) => true
  | .tx (.enqueueDVNVerifyTx ..) => true
  | _ => false

/-- The listing of a pass. -/
def listStep (system : System) (worker : ℕ) (now : Time) (pass : Pass)
    (status : DVNState) : System :=
  match listDVNWork system.db now status 1 with
  | .error _ => system.setWorker worker none
  | .ok [] => system.setWorker worker pass.afterEmpty
  | .ok (item :: _) => system.setWorker worker (pass.afterItem item)

/-- The store call of a pass. -/
def callStep (system : System) (worker : ℕ) : Option Op → System
  | none => system.setWorker worker none
  | some op =>
    { system.setWorker worker (afterCall system.db op) with
      db := op.apply system.db }

/-- `UpsertPacket` of the record decoded from a source log.  The executor
stream stores its job's status with it. -/
def indexPacket (libs : Libraries) (db : DB) (log : Log) (status : ExecutorState) : DB :=
  match packetRecordFromSentLog libs log with
  | .error _ => db
  | .ok record => (upsertPacket db { record with status }).1

/-- `UpsertDVNJob` of an assignment. -/
def indexJob (db : DB) (now : Time) (guid : Hash) (assignedFee : Option ℕ)
    (confirmationsRequired : ℕ) : DB :=
  (upsertDVNJob db now ⟨guid, assignedFee, confirmationsRequired, .assigned, none⟩).1

/-- One step; `none` when the label does not fit the worker's pass. -/
def exec (libs : Libraries) (configs : ℕ → WorkerConfig) (system : System) : Label → Option System
  | .enter worker procedure =>
    match system.workers worker with
    | none => some (system.setWorker worker (some procedure.entry))
    | some _ => none
  | .list worker now =>
    match system.workers worker with
    | none => none
    | some pass => pass.listing.map (listStep system worker now pass)
  | .readHead worker reads =>
    match system.workers worker with
    | some (.confirming status item) =>
      some (system.setWorker worker (some (.confirmed status item reads)))
    | _ => none
  | .readReceipt worker reads =>
    match system.workers worker with
    | some (.checking item) =>
      some (system.setWorker worker (some (.checked item reads)))
    | _ => none
  | .readDestination worker reads =>
    match system.workers worker with
    | some (.verifying item) =>
      some (system.setWorker worker (some (.decided item reads)))
    | _ => none
  | .call worker now =>
    match system.workers worker with
    | none => none
    | some pass =>
      (pass.pending libs (configs worker) now).map (callStep system worker)
  | .stop worker => some (system.setWorker worker none)
  | .indexPacket log status =>
    some { system with db := indexPacket libs system.db log status }
  | .indexJob now guid assignedFee confirmationsRequired =>
    some { system with
      db := indexJob system.db now guid assignedFee confirmationsRequired }
  | .other op =>
    if ownCall op then none
    else some { system with db := op.apply system.db }

def WorkerStep (libs : Libraries) (configs : ℕ → WorkerConfig)
    (pre : System) (label : Label) (post : System) : Prop := exec libs configs pre label = some post

/-- Runs of any number of workers from the empty schema. -/
abbrev WorkerRun (libs : Libraries) (configs : ℕ → WorkerConfig) :=
  Run (WorkerStep libs configs) System.empty

end Lazier.DVN
