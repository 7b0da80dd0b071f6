import Lazier.DVN.Evidence
import Lazier.Library.Streams
import Lazier.Workflow.JobMoves

/-!
# Destination streams of the indexer

The indexer fetches every `EndpointV2` and `ReceiveUln302` event of a
destination chain and applies those of known packets to the worker jobs.  One
log is first looked up in the store, then compared with the configured
pathways and workers, and at last applied.  Event topics and ABI unpacking
belong to libraries outside the repository and are parameters.
-/

namespace Lazier.Indexer

open Chain Library Store

/-! ## Events -/

/-- The `origin` tuple of the endpoint events. -/
structure Origin where
  srcEID : ℕ
  sender : Hash
  nonce : ℕ
  srcEID_lt : srcEID < 2 ^ 32 := by decide
  nonce_lt : nonce < 2 ^ 64 := by decide
  deriving DecidableEq

structure PacketVerified where
  origin : Origin
  receiver : Address
  payloadHash : Hash
  deriving DecidableEq

structure PacketDelivered where
  origin : Origin
  receiver : Address
  deriving DecidableEq

/-- The unindexed fields of `LzReceiveAlert` that the indexer reads. -/
structure LzReceiveAlertData where
  origin : Origin
  guid : Hash
  message : Bytes
  reason : Bytes
  deriving DecidableEq

structure LzReceiveAlert extends LzReceiveAlertData where
  receiver : Address
  executor : Address
  deriving DecidableEq

structure PayloadVerified where
  dvn : Address
  header : Bytes
  confirmations : ℕ
  proofHash : Hash
  deriving DecidableEq

/-- Topics and data decoders of the contract ABIs.  The endpoint's topics are
hashes of different signatures. -/
structure EventLibraries where
  packetVerifiedTopic : Hash
  packetDeliveredTopic : Hash
  lzReceiveAlertTopic : Hash
  payloadVerifiedTopic : Hash
  verified_ne_delivered : packetVerifiedTopic ≠ packetDeliveredTopic
  verified_ne_alert : packetVerifiedTopic ≠ lzReceiveAlertTopic
  delivered_ne_alert : packetDeliveredTopic ≠ lzReceiveAlertTopic
  unpackPacketVerified : Bytes → Except String PacketVerified
  unpackPacketDelivered : Bytes → Except String PacketDelivered
  unpackLzReceiveAlert : Bytes → Except String LzReceiveAlertData
  unpackPayloadVerified : Bytes → Except String PayloadVerified

def originAt (data : Bytes) : Origin where
  srcEID := natAt data 0 % 2 ^ 32
  sender := wordAt data 1
  nonce := natAt data 2 % 2 ^ 64
  srcEID_lt := Nat.mod_lt _ (by decide)
  nonce_lt := Nat.mod_lt _ (by decide)

/-- The contracts' ABI on the data of their own logs. -/
def abiEvents : EventLibraries where
  packetVerifiedTopic := .ofNat 32
      0x0d87345f3d1c929caba93e1c3821b54ff3512e12b66aa3cfe54b6bcbc17e59b4
  packetDeliveredTopic := .ofNat 32
      0x3cd5e48f9730b129dc7550f0fcea9c767b7be37837cd10e55eb35f734f4bca04
  lzReceiveAlertTopic := .ofNat 32
      0x7edfa10fe10193301ad8a8bea7e968c7bcabcc64981f368e3aeada40ce26ae2c
  payloadVerifiedTopic := .ofNat 32
      0x2cb0eed7538baeae4c6fde038c0fd0384d27de0dd55a228c65847bda6aa1ab56
  verified_ne_delivered := by decide
  verified_ne_alert := by decide
  delivered_ne_alert := by decide
  unpackPacketVerified data := .ok ⟨originAt data, lowAddress (wordAt data 3), wordAt data 4⟩
  unpackPacketDelivered data := .ok ⟨originAt data, lowAddress (wordAt data 3)⟩
  unpackLzReceiveAlert data := .ok ⟨originAt data, wordAt data 3, bytesAt data 6, bytesAt data 8⟩
  unpackPayloadVerified data :=
    .ok ⟨lowAddress (wordAt data 0), bytesAt data 1, natAt data 2, wordAt data 3⟩

/-- The unpacking of a log with the wanted topic. -/
def decodeLog {Event : Type} (topic : Hash) (name : String) (unpack : Bytes → Except String Event)
    (log : Log) :
    Except StoreError Event :=
  if log.topics.head? = some topic then
    (unpack log.data).mapError StoreError.message
  else .error (.message s!"log is not {name}")

def decodePacketVerified (libs : EventLibraries) : Log → Except StoreError PacketVerified :=
  decodeLog libs.packetVerifiedTopic "EndpointV2 PacketVerified" libs.unpackPacketVerified

def decodePacketDelivered (libs : EventLibraries) : Log → Except StoreError PacketDelivered :=
  decodeLog libs.packetDeliveredTopic "EndpointV2 PacketDelivered" libs.unpackPacketDelivered

def decodePayloadVerified (libs : EventLibraries) : Log → Except StoreError PayloadVerified :=
  decodeLog libs.payloadVerifiedTopic "ReceiveUln302 PayloadVerified" libs.unpackPayloadVerified

def decodeLzReceiveAlert (libs : EventLibraries) (log : Log) : Except StoreError LzReceiveAlert :=
  if log.topics.head? ≠ some libs.lzReceiveAlertTopic then
    .error (.message "log is not EndpointV2 LzReceiveAlert")
  else
    match log.topics with
    | [_, receiver, executor] =>
      ((libs.unpackLzReceiveAlert log.data).mapError StoreError.message).map fun fields =>
          { fields with
            receiver := lowAddress receiver
            executor := lowAddress executor }
    | _ =>
      .error (.message "EndpointV2 LzReceiveAlert must have receiver and executor topics")

inductive DestinationEvent
  | verified (event : PacketVerified)
  | delivered (event : PacketDelivered)
  | alert (event : LzReceiveAlert)
  deriving DecidableEq

/-- The switch over `log.Topics[0]` that the executor stream goes through at
each of its checks; `none` is a log without a supported topic. -/
def destinationEvent (libs : EventLibraries) (log : Log) :
    Except StoreError (Option DestinationEvent) :=
  match log.topics.head? with
  | none => .ok none
  | some topic =>
    if topic = libs.packetVerifiedTopic then
      (decodePacketVerified libs log).map (some ∘ .verified)
    else if topic = libs.packetDeliveredTopic then
      (decodePacketDelivered libs log).map (some ∘ .delivered)
    else if topic = libs.lzReceiveAlertTopic then
      (decodeLzReceiveAlert libs log).map (some ∘ .alert)
    else .ok none

def eventTopic (libs : EventLibraries) : DestinationEvent → Hash
  | .verified _ => libs.packetVerifiedTopic
  | .delivered _ => libs.packetDeliveredTopic
  | .alert _ => libs.lzReceiveAlertTopic

theorem map_eq_ok {Value Image : Type} {result : Except StoreError Value} {f : Value → Image}
    {image : Image} (hmap : result.map f = .ok image) :
    ∃ value, result = .ok value ∧ f value = image := by
  cases result with
  | error error => cases hmap
  | ok value => exact ⟨value, rfl, Except.ok.inj hmap⟩

theorem destinationEvent_topic {libs : EventLibraries} {log : Log} {event : DestinationEvent}
    (hevent : destinationEvent libs log = .ok (some event)) :
    log.topics.head? = some (eventTopic libs event) := by
  unfold destinationEvent at hevent
  split at hevent
  · cases hevent
  rename_i topic htopic
  split_ifs at hevent with hverified hdelivered halert
  · obtain ⟨_, -, heq⟩ := map_eq_ok hevent
    rw [htopic, hverified, ← Option.some.inj heq, eventTopic]
  · obtain ⟨_, -, heq⟩ := map_eq_ok hevent
    rw [htopic, hdelivered, ← Option.some.inj heq, eventTopic]
  · obtain ⟨_, -, heq⟩ := map_eq_ok hevent
    rw [htopic, halert, ← Option.some.inj heq, eventTopic]
  · cases hevent

theorem decode_of_alert {libs : EventLibraries} {log : Log} {event : LzReceiveAlert}
    (hevent : destinationEvent libs log = .ok (some (.alert event))) :
    decodeLzReceiveAlert libs log = .ok event := by
  unfold destinationEvent at hevent
  split at hevent
  · cases hevent
  split_ifs at hevent
  · obtain ⟨_, -, heq⟩ := map_eq_ok hevent
    cases heq
  · obtain ⟨_, -, heq⟩ := map_eq_ok hevent
    cases heq
  · obtain ⟨decoded, hdecode, heq⟩ := map_eq_ok hevent
    cases heq
    exact hdecode
  · cases hevent

/-! ## Configuration -/

/-- The part of `chain.Pathway` that the indexer reads. -/
structure Pathway where
  route : Route
  enabled : Bool
  openDVN : Address
  deriving DecidableEq

/-- One destination stream: the indexed chain, whose eid `SyncConfig` has stored,
the pathways and the executor signer, zero when alerts of every executor count. -/
structure Stream where
  dstEID : ℕ
  pathways : List Pathway
  expectedExecutor : Address
  dstEID_lt : dstEID < 2 ^ 31 := by decide

def sourceRoleExecutor : String := "executor"
def sourceRoleDVN : String := "dvn"

/-- `pathwayForPacket` and `pathwayForDestinationIdentity`. -/
def pathwayFor (pathways : List Pathway) (route : Route) : Option Pathway :=
  pathways.find? fun pathway => decide (pathway.route = route)

structure DestinationPacketIdentity where
  route : Route
  nonce : ℕ
  deriving DecidableEq

def originSenderAddress (origin : Origin) : Address := lowAddress origin.sender

/-- The identity an endpoint event carries. -/
def Origin.identity (origin : Origin) (dstEID : ℕ) (receiver : Address) :
    DestinationPacketIdentity :=
  ⟨⟨origin.srcEID, dstEID, originSenderAddress origin, receiver⟩, origin.nonce⟩

def sourcePacketWasSkipped (db : DB) (role : String) (identity : DestinationPacketIdentity) :
    Except StoreError Bool :=
  (getSourcePacketSkip db ⟨role, identity.route, identity.nonce⟩).map Option.isSome

/-! ## Executor stream -/

def executorDestinationLogAlreadyApplied (libs : EventLibraries) (status : ExecutorState)
    (topic : Hash) : Bool :=
  if topic = libs.packetVerifiedTopic then
    match status with
    | .committed | .executable | .lzReceiveTxEnqueued | .delivered
    | .lzReceiveFailed | .manualReview => true
    | _ => false
  else if topic = libs.packetDeliveredTopic then
    status = .delivered
  else if topic = libs.lzReceiveAlertTopic then
    status = .lzReceiveFailed ∨ status = .delivered ∨ status = .manualReview
  else false

def executorCanApplyPacketVerified : ExecutorState → Bool
  | .assigned | .waitingDVNVerification | .verifiable | .commitTxEnqueued =>
    true
  | _ => false

def executorCanApplyLzReceiveAlert : ExecutorState → Bool
  | .commitTxEnqueued | .committed | .executable | .lzReceiveTxEnqueued => true
  | _ => false

/-- The identity by which the executor stream looks for the pathway and the
tombstone of an unknown packet; alerts of other executors have none. -/
def executorDestinationLogIdentity (libs : EventLibraries) (stream : Stream) (log : Log) :
    Except StoreError (Option DestinationPacketIdentity) :=
  (destinationEvent libs log).map fun event =>
    match event with
    | none => none
    | some (.verified event) =>
      some (event.origin.identity stream.dstEID event.receiver)
    | some (.delivered event) =>
      some (event.origin.identity stream.dstEID event.receiver)
    | some (.alert event) =>
      if stream.expectedExecutor ≠ Address.zero ∧ event.executor ≠ stream.expectedExecutor then none
      else some (event.origin.identity stream.dstEID event.receiver)

def executorDestinationLogPathway (libs : EventLibraries) (stream : Stream) (log : Log) :
    Except StoreError (Option Pathway) :=
  if stream.pathways.isEmpty then .ok none
  else
    (executorDestinationLogIdentity libs stream log).map fun identity =>
      identity.bind fun identity => pathwayFor stream.pathways identity.route

def executorSourcePacketWasSkipped (libs : EventLibraries) (stream : Stream) (db : DB) (log : Log) :
    Except StoreError Bool :=
  match executorDestinationLogIdentity libs stream log with
  | .error error => .error error
  | .ok none => .ok false
  | .ok (some identity) =>
    sourcePacketWasSkipped db sourceRoleExecutor identity

def executorDestinationLogExecutorAllowed (libs : EventLibraries) (stream : Stream) (log : Log) :
    Bool :=
  if stream.expectedExecutor = Address.zero ∨
      log.topics.head? ≠ some libs.lzReceiveAlertTopic then true
  else
    match decodeLzReceiveAlert libs log with
    | .error _ => false
    | .ok event => event.executor = stream.expectedExecutor

/-- `packetForDestinationLog`: `none` for an unsupported event, and
`some none` for `pgx.ErrNoRows`. -/
def packetForDestinationLog (libs : EventLibraries) (db : DB) (dstEID : ℕ) (log : Log) :
    Except StoreError (Option (Option PacketRecord)) :=
  match destinationEvent libs log with
  | .error error => .error error
  | .ok none => .ok none
  | .ok (some (.verified event)) =>
    let identity := event.origin.identity dstEID event.receiver
    (getPacketByDestination db identity.route identity.nonce).map some
  | .ok (some (.delivered event)) =>
    let identity := event.origin.identity dstEID event.receiver
    (getPacketByDestination db identity.route identity.nonce).map some
  | .ok (some (.alert event)) => (getPacket db event.guid).map some

/-- What the reads decide about one log, with the reason given to the
observer. -/
inductive Decision (Job : Type)
  | skip (reason : String)
  | pending (reason : String)
  | apply (packet : PacketRecord) (job : Job)

/-- A log whose packet is not stored. -/
def decideUnknownPacket (libs : EventLibraries) (stream : Stream) (db : DB) (log : Log) :
    Except StoreError (Decision ExecutorJobRow) :=
  match executorDestinationLogPathway libs stream log with
  | .error error => .error error
  | .ok none =>
    .ok (.skip (if stream.pathways.isEmpty then "unknown_packet"
      else "unknown_pathway"))
  | .ok (some pathway) =>
    if pathway.enabled then
      match executorSourcePacketWasSkipped libs stream db log with
      | .error error => .error error
      | .ok true => .ok (.skip "skipped_source_packet")
      | .ok false => .ok (.pending "pending_source_packet")
    else .ok (.skip "pathway_disabled")

/-- A known packet without an executor job. -/
def decideMissingJob (stream : Stream) (db : DB) (packet : PacketRecord) :
    Except StoreError (Decision ExecutorJobRow) :=
  match pathwayFor stream.pathways packet.route with
  | none => .ok (.skip "missing_executor_job")
  | some pathway =>
    if pathway.enabled then
      match sourcePacketWasSkipped db sourceRoleExecutor ⟨packet.route, packet.nonce % 2 ^ 64⟩ with
      | .error error => .error error
      | .ok true => .ok (.skip "skipped_source_packet")
      | .ok false => .ok (.pending "pending_executor_job")
    else .ok (.skip "missing_executor_job")

/-- The reads and checks before `ApplyExecutorDestinationLog`. -/
def decideExecutorLog (libs : EventLibraries) (stream : Stream) (db : DB) (log : Log) :
    Except StoreError (Decision ExecutorJobRow) :=
  match packetForDestinationLog libs db stream.dstEID log with
  | .error error => .error error
  | .ok none => .ok (.skip "unsupported_event")
  | .ok (some none) => decideUnknownPacket libs stream db log
  | .ok (some (some packet)) =>
    if packet.dstEID ≠ stream.dstEID then
      .error (.message
        (s!"packet {packet.guid.hex} destination eid {packet.dstEID} does not match indexed " ++
          s!"chain {stream.dstEID}"))
    else if ¬ executorDestinationLogExecutorAllowed libs stream log then
      .ok (.skip "unexpected_executor")
    else
      match getExecutorJob db packet.guid with
      | .error error => .error error
      | .ok none => decideMissingJob stream db packet
      | .ok (some job) =>
        if executorDestinationLogAlreadyApplied libs job.status (log.topics.headD Hash.zero) then
          .ok (.skip "already_applied")
        else .ok (.apply packet job)

/-! ## Application of executor events -/

def validateOrigin (packet : PacketRecord) (origin : Origin) : Option StoreError :=
  if origin.srcEID ≠ packet.srcEID then
    some (.message
      s!"origin source eid {origin.srcEID} does not match packet source eid {packet.srcEID}")
  else if origin.sender ≠ bytesToHash packet.sender.1 then
    some (.message
      s!"origin sender {origin.sender.hex} does not match packet sender {packet.sender.hex}")
  else if packet.nonce ≥ 2 ^ 64 then
    some (.message s!"packet nonce {packet.nonce} does not fit uint64")
  else if origin.nonce ≠ packet.nonce then
    some (.message s!"origin nonce {origin.nonce} does not match packet nonce {packet.nonce}")
  else none

/-- The checks of the origin and the receiver that the three events share. -/
def validateEvent (name : String) (packet : PacketRecord) (origin : Origin) (receiver : Address) :
    Option StoreError :=
  match validateOrigin packet origin with
  | some error => some error
  | none =>
    if receiver ≠ packet.receiver then
      some (.message
        s!"{name} receiver {receiver.hex} does not match packet receiver {packet.receiver.hex}")
    else none

def validatePacketVerified (packet : PacketRecord) (event : PacketVerified) : Option StoreError :=
  match validateEvent "PacketVerified" packet event.origin event.receiver with
  | some error => some error
  | none =>
    if event.payloadHash ≠ packet.payloadHash then
      some (.message
        (s!"PacketVerified payload hash {event.payloadHash.hex} does not match packet payload " ++
          s!"hash {packet.payloadHash.hex}"))
    else none

def validatePacketDelivered (packet : PacketRecord) (event : PacketDelivered) : Option StoreError :=
  validateEvent "PacketDelivered" packet event.origin event.receiver

def validateLzReceiveAlert (packet : PacketRecord) (event : LzReceiveAlert) : Option StoreError :=
  match validateEvent "LzReceiveAlert" packet event.origin event.receiver with
  | some error => some error
  | none =>
    if event.guid ≠ packet.guid then
      some (.message
        s!"LzReceiveAlert guid {event.guid.hex} does not match packet guid {packet.guid.hex}")
    else if event.message ≠ packet.message then
      some (.message "LzReceiveAlert message does not match packet message")
    else none

/-- The store call that follows an event's own checks. -/
def markObserved (db : DB) (refused : Option StoreError) (cannotApply : Bool) (name : String)
    (status : ExecutorState) (mark : Result Unit) :
    Result Bool :=
  match refused with
  | some error => rollback db error
  | none =>
    if cannotApply then
      rollback db (.message s!"executor {name} cannot apply from status {status.text}")
    else (mark.1, mark.2.map fun _ => true)

/-- `ApplyExecutorDestinationLog`, for a packet and a job read earlier. -/
def applyExecutorDestinationLog (libs : EventLibraries) (db : DB) (now : Time)
    (packet : PacketRecord) (job : ExecutorJobRow) (log : Log) :
    Result Bool :=
  match packet.validationError with
  | some error => rollback db error
  | none =>
    if job.guid ≠ packet.guid then
      rollback db (.message s!"executor job {job.guid.hex} does not match packet {packet.guid.hex}")
    else if executorDestinationLogAlreadyApplied libs job.status (log.topics.headD Hash.zero) then
      commit db false
    else
      match destinationEvent libs log with
      | .error error => rollback db error
      | .ok none => commit db false
      | .ok (some (.verified event)) =>
        markObserved db (validatePacketVerified packet event)
          (!executorCanApplyPacketVerified job.status) "PacketVerified" job.status
          (markExecutorCommittedObserved db now packet.guid log.txHash job.status)
      | .ok (some (.delivered event)) =>
        markObserved db (validatePacketDelivered packet event) false "PacketDelivered" job.status
          (markExecutorDeliveredObserved db now packet.guid log.txHash job.status)
      | .ok (some (.alert event)) =>
        markObserved db (validateLzReceiveAlert packet event)
          (!executorCanApplyLzReceiveAlert job.status) "LzReceiveAlert" job.status
          (markExecutorReceiveFailedObserved db now packet.guid log.txHash
            job.status (FixedBytes.hexBytes event.reason))

/-! ## The two loops -/

/-- `destinationApplyResult` with the store the loop has reached. -/
structure Progress where
  db : DB
  applied : ℕ
  pending : Bool

/-- One round of a destination loop.  Each log has the time at which the store
call it leads to is made. -/
def logStep {Job : Type} (decideLog : DB → Log → Except StoreError (Decision Job))
    (applyLog : DB → Time → PacketRecord → Job → Log → Result Bool) (progress : Progress)
    (entry : Time × Log) : Progress × Option StoreError :=
  match decideLog progress.db entry.2 with
  | .error error => (progress, some error)
  | .ok (.skip _) => (progress, none)
  | .ok (.pending _) => ({ progress with pending := true }, none)
  | .ok (.apply packet job) =>
    match applyLog progress.db entry.1 packet job entry.2 with
    | (db, .error error) => ({ progress with db }, some error)
    | (db, .ok didApply) =>
      ({ progress with
        db
        applied := progress.applied + if didApply then 1 else 0 }, none)

def executorLogStep (libs : EventLibraries) (stream : Stream) :
    Progress → Time × Log → Progress × Option StoreError :=
  logStep (decideExecutorLog libs stream) (applyExecutorDestinationLog libs)

/-- The argument check and the loop over the logs of one window. -/
def applyLogs (stream : Stream) (step : Progress → Time × Log → Progress × Option StoreError)
    (db : DB) (logs : List (Time × Log)) : Progress × Option StoreError :=
  if stream.dstEID = 0 then
    (⟨db, 0, false⟩, some (.message "destination eid is required"))
  else processAll step ⟨db, 0, false⟩ logs

def applyExecutorDestinationLogs (libs : EventLibraries) (stream : Stream) :
    DB → List (Time × Log) → Progress × Option StoreError :=
  applyLogs stream (executorLogStep libs stream)

/-! ## DVN stream -/

def dvnCanApplyPayloadVerified : DVNState → Bool
  | .verified | .reorgDetected => false
  | _ => true

def pathwayForPayloadVerified (stream : Stream) (event : PayloadVerified) : Option Pathway :=
  match DVN.decodePacketV1Header event.header with
  | .error _ => none
  | .ok header =>
    pathwayFor stream.pathways ⟨header.srcEID, stream.dstEID, header.sender, header.receiver⟩

def dvnSourcePacketWasSkipped (db : DB) (dstEID : ℕ) (event : PayloadVerified) :
    Except StoreError Bool :=
  match DVN.decodePacketV1Header event.header with
  | .error _ => .ok false
  | .ok header =>
    sourcePacketWasSkipped db sourceRoleDVN
      ⟨⟨header.srcEID, dstEID, header.sender, header.receiver⟩, header.nonce⟩

def validatePayloadVerified (packet : PacketRecord) (event : PayloadVerified) : Option StoreError :=
  if event.header ≠ packet.packetHeader then
    some (.message "PayloadVerified header does not match packet header")
  else if event.proofHash ≠ packet.payloadHash then
    some (.message
      (s!"PayloadVerified proof hash {event.proofHash.hex} does not match packet payload hash " ++
        packet.payloadHash.hex))
  else if event.confirmations = 0 then
    some (.message "PayloadVerified confirmations must be positive")
  else none

/-- A verification whose packet is not stored. -/
def decideUnknownVerification (stream : Stream) (db : DB) (event : PayloadVerified) :
    Except StoreError (Decision DVNJobRecord) :=
  match pathwayForPayloadVerified stream event with
  | none => .ok (.skip "unknown_pathway")
  | some pathway =>
    if pathway.enabled ∧ event.dvn = pathway.openDVN then
      match dvnSourcePacketWasSkipped db stream.dstEID event with
      | .error error => .error error
      | .ok true => .ok (.skip "skipped_source_packet")
      | .ok false => .ok (.pending "pending_source_packet")
    else .ok (.skip "unknown_pathway")

/-- A verification of a known packet by the pathway's own DVN. -/
def decideVerification (pathway : Pathway) (db : DB) (packet : PacketRecord)
    (event : PayloadVerified) : Except StoreError (Decision DVNJobRecord) :=
  match validatePayloadVerified packet event with
  | some error => .error error
  | none =>
    match getDVNJob db packet.guid with
    | .error error => .error error
    | .ok none =>
      if pathway.enabled then .ok (.pending "pending_dvn_job")
      else .ok (.skip "missing_dvn_job")
    | .ok (some job) =>
      if job.status = .verified then .ok (.skip "already_applied")
      else if dvnCanApplyPayloadVerified job.status then
        .ok (.apply packet job)
      else .ok (.skip "status_not_applicable")

/-- The reads and checks before `MarkDVNVerifiedObserved`. -/
def decideDVNLog (libs : EventLibraries) (stream : Stream) (db : DB) (log : Log) :
    Except StoreError (Decision DVNJobRecord) :=
  if log.topics.head? ≠ some libs.payloadVerifiedTopic then
    .ok (.skip "unsupported_event")
  else
    match decodePayloadVerified libs log with
    | .error error => .error error
    | .ok event =>
      match getPacketByVerification db stream.dstEID event.header event.proofHash with
      | .error error => .error error
      | .ok none => decideUnknownVerification stream db event
      | .ok (some packet) =>
        if packet.dstEID ≠ stream.dstEID then
          .error (.message
            (s!"packet {packet.guid.hex} destination eid {packet.dstEID} does not match indexed " ++
              s!"chain {stream.dstEID}"))
        else
          match pathwayFor stream.pathways packet.route with
          | none => .ok (.skip "unknown_pathway")
          | some pathway =>
            if event.dvn ≠ pathway.openDVN then
              .ok (.skip "unexpected_worker")
            else decideVerification pathway db packet event

def dvnLogStep (libs : EventLibraries) (stream : Stream) :
    Progress → Time × Log → Progress × Option StoreError :=
  logStep (decideDVNLog libs stream) fun db now packet job log =>
    let marked := markDVNVerifiedObserved db now packet.guid log.txHash job.status
    (marked.1, marked.2.map fun _ => true)

def applyDVNDestinationLogs (libs : EventLibraries) (stream : Stream) :
    DB → List (Time × Log) → Progress × Option StoreError :=
  applyLogs stream (dvnLogStep libs stream)

/-! ## What an applied event does -/

/-- The update of the job that an event of a packet leads to. -/
def observedUpdate (guid txHash : Hash) (status : ExecutorState) :
    DestinationEvent → ExecutorStatusUpdate
  | .verified _ =>
    { ExecutorStatusUpdate.move guid status .committed with
      commitTxHash := some txHash }
  | .delivered _ =>
    { ExecutorStatusUpdate.move guid status .delivered with
      receiveTxHash := some txHash }
  | .alert event =>
    ⟨guid, status, .lzReceiveFailed, none, some txHash, FixedBytes.hexBytes event.reason, true⟩

/-- The statuses from which an event is applied. -/
def canApply : DestinationEvent → ExecutorState → Bool
  | .verified _, status => executorCanApplyPacketVerified status
  | .delivered _, _ => true
  | .alert _, status => executorCanApplyLzReceiveAlert status

/-- The ways the application of one log ends. -/
inductive Observes (libs : EventLibraries) (db : DB) (now : Time)
    (packet : PacketRecord) (job : ExecutorJobRow) (log : Log) : Result Bool → Prop
  | refused (error : StoreError) : Observes libs db now packet job log (rollback db error)
  | ignored (hignored : executorDestinationLogAlreadyApplied libs job.status
        (log.topics.headD Hash.zero) = true ∨ destinationEvent libs log = .ok none) :
      Observes libs db now packet job log (commit db false)
  | marked (event : DestinationEvent) (result : Result Unit)
      (hevent : destinationEvent libs log = .ok (some event))
      (hfresh : executorDestinationLogAlreadyApplied libs job.status
        (log.topics.headD Hash.zero) = false) (hcan : canApply event job.status = true)
      (hupdates : Workflow.Updates db now
        (observedUpdate packet.guid log.txHash job.status event) result) :
      Observes libs db now packet job log (result.1, result.2.map fun _ => true)

theorem applyExecutorDestinationLog_observes (libs : EventLibraries) (db : DB) (now : Time)
    (packet : PacketRecord) (job : ExecutorJobRow) (log : Log) :
    Observes libs db now packet job log
      (applyExecutorDestinationLog libs db now packet job log) := by
  unfold applyExecutorDestinationLog
  split
  · exact .refused _
  split
  · exact .refused _
  split
  · rename_i happlied
    exact .ignored (.inl happlied)
  rename_i hfresh
  rw [Bool.not_eq_true] at hfresh
  split
  · exact .refused _
  · rename_i hnone
    exact .ignored (.inr hnone)
  all_goals
    rename_i hevent
    unfold markObserved
    split
    · exact .refused _
    split
    · exact .refused _
    rename_i hcan
    simp only [markExecutorCommittedObserved, markExecutorDeliveredObserved,
      markExecutorReceiveFailedObserved]
    split
    · exact .refused _
    · exact .marked _ _ hevent hfresh (by revert hcan; simp [canApply])
        (Workflow.updateExecutorStatus_updates db now _)

end Lazier.Indexer
