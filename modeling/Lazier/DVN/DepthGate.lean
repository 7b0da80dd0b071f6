import Lazier.DVN.Transitions

/-!
# The depth gate

A verify transaction should only be enqueued for a source block whose depth
some worker has seen.  The gate's compare-and-set names the status alone, so a
stalled worker may complete a gate it decided for a block the packet has left
since.  Runs in which every gate commits for the block it was decided for have
the property.
-/

namespace Lazier.DVN

open Chain Library Store List FixedBytes Table

variable {packet : PacketRecord} {reads : ConfirmationReads} {guid : Hash} {job : DVNJobRow}

/-! ## Observed heads -/

/-- In this step a pass of `ProcessConfirmationsOnce` sees the source head. -/
def ObservesHead (configs : ℕ → WorkerConfig) (event : Event System Label) (srcEID head : ℕ) :
    Prop := ∃ worker status item reads, event.label = .readHead worker reads ∧
      event.pre.workers worker = some (.confirming status item) ∧ item.packet.srcEID = srcEID ∧
      observedHead (configs worker) item reads = some head

/-- Some pass saw a head under which the block has the required depth. -/
def DepthGated (configs : ℕ → WorkerConfig) (history : List (Event System Label))
    (srcEID blockNumber confirmationsRequired : ℕ) : Prop :=
  ∃ event ∈ history, ∃ head, ObservesHead configs event srcEID head ∧
    hasRequiredConfirmations blockNumber confirmationsRequired head

theorem DepthGated.later {configs : ℕ → WorkerConfig} {history : List (Event System Label)}
    {srcEID blockNumber confirmationsRequired : ℕ}
    (hgated : DepthGated configs history srcEID blockNumber confirmationsRequired)
    (last : Event System Label) :
    DepthGated configs (last :: history) srcEID blockNumber
      confirmationsRequired := by
  obtain ⟨event, hevent, hseen⟩ := hgated
  exact ⟨event, mem_cons_of_mem _ hevent, hseen⟩

/-! ## Committed enqueues -/

/-- The worker's next call is `EnqueueDVNVerifyTx`, and it commits. -/
structure Enqueues (libs : Libraries) (configs : ℕ → WorkerConfig)
    (system : System) (worker : ℕ) (now : Time) (item : DVNWorkItem)
    (request : TxRequest) : Prop where
  pending : ∃ reads, system.workers worker = some (.decided item reads) ∧
      readyCall libs (configs worker) item reads now =
        some (.tx (.enqueueDVNVerifyTx now item.packet.guid .readyToVerify
          .verifyTxEnqueued request item.job.quorumResult))
  commits : ∃ id,
    (enqueueDVNVerifyTx system.db now item.packet.guid .readyToVerify
      .verifyTxEnqueued request item.job.quorumResult).2 = .ok id

variable {libs : Libraries} {config : WorkerConfig} {item : DVNWorkItem} {now : Time}
  {expected : DVNState} {request : TxRequest}

theorem readyCall_enqueue {reads : DestinationReads} {time : Time} {next : DVNState}
    {result : Option QuorumResult} (hcall : readyCall libs config item reads now =
      some (.tx (.enqueueDVNVerifyTx time guid expected next request result))) :
    (time = now ∧ guid = item.packet.guid ∧ expected = .readyToVerify ∧
      next = .verifyTxEnqueued ∧ result = item.job.quorumResult) ∧ ∃ openDVN receiveLib signerID,
        buildVerifyTx libs item.packet openDVN receiveLib
          item.job.confirmationsRequired signerID = .ok request := by
  unfold readyCall activeCall enqueueCall at hcall
  dsimp only at hcall
  repeat' split at hcall
  all_goals cases hcall
  rename_i hbuild
  unfold workerVerifyTx at hbuild
  split at hbuild
  · cases hbuild
  split at hbuild
  · cases hbuild
  · exact ⟨⟨rfl, rfl, rfl, rfl, rfl⟩, _, _, _, hbuild⟩

theorem withGUID_of_build (hguid : request.guid = guid.1) : request.withGUID guid = request := by
  have hlength : request.guid.length ≠ 0 := by
    rw [hguid, guid.2]
    decide
  exact if_neg hlength

theorem lockTxSendScope_packet {db : DB} {chainEID : ℕ}
    (hlock : lockTxSendScope db chainEID .dvnVerify guid.1 = .ok ()) :
    ∃ packet ∈ db.work.packets, packet.guid = guid := by
  have hpacket : lockPacketSendScope db chainEID guid.1 = .ok () := hlock
  unfold lockPacketSendScope at hpacket
  split at hpacket
  · cases hpacket
  split at hpacket
  · cases hpacket
  · rename_i packet hfind
    obtain ⟨hmem, hkey⟩ := find_eq_some.mp hfind
    exact ⟨packet, hmem, hkey.trans (ofBytes_val guid)⟩

variable {configs : ℕ → WorkerConfig} {system : System} {worker : ℕ}

theorem Enqueues.built (henqueue : Enqueues libs configs system worker now item request) :
    request.guid = item.packet.guid.1 ∧ request.purpose = .dvnVerify ∧
      ∃ receiveLib, libs.packSubmitVerification receiveLib
        item.packet.packetHeader item.packet.payloadHash
        item.job.confirmationsRequired = .ok request.calldata := by
  obtain ⟨reads, -, hcall⟩ := henqueue.pending
  obtain ⟨-, openDVN, receiveLib, signerID, hbuild⟩ := readyCall_enqueue hcall
  unfold buildVerifyTx at hbuild
  repeat' split at hbuild
  all_goals cases hbuild
  rename_i calldata hcalldata
  unfold buildVerifyCalldata at hcalldata
  repeat' split at hcalldata
  all_goals first
    | cases hcalldata
    | exact ⟨rfl, rfl, receiveLib, hcalldata⟩

theorem Enqueues.inFlight (henqueue : Enqueues libs configs system worker now item request) :
    ∃ packet job, InFlight system.db.work packet job ∧
      packet.guid = item.packet.guid ∧ job.status = .readyToVerify := by
  obtain ⟨hguid, hpurpose, -⟩ := henqueue.built
  obtain ⟨id, hok⟩ := henqueue.commits
  unfold enqueueDVNVerifyTx at hok
  dsimp only at hok
  rw [withGUID_of_build hguid, hguid, hpurpose] at hok
  repeat' split at hok
  all_goals cases hok
  rename_i job hfind hstatus _ hlock
  obtain ⟨packet, hpacket, hsame⟩ := lockTxSendScope_packet hlock
  obtain ⟨hjob, hkey⟩ := find_eq_some.mp hfind
  rw [not_not] at hstatus
  exact ⟨packet, job, ⟨hpacket, hjob, hkey.trans hsame.symm, by rw [hstatus]; rfl⟩, hsame, hstatus⟩

/-- The item and the request of a worker's committing enqueue. -/
def enqueuing (libs : Libraries) (configs : ℕ → WorkerConfig) (system : System) (worker : ℕ)
    (now : Time) : Option (DVNWorkItem × TxRequest) :=
  match system.workers worker with
  | some (.decided item reads) =>
    match readyCall libs (configs worker) item reads now with
    | some (.tx (.enqueueDVNVerifyTx time guid expected next request result)) =>
      match (enqueueDVNVerifyTx system.db time guid expected next request result).2 with
      | .ok _ => some (item, request)
      | .error _ => none
    | _ => none
  | _ => none

theorem enqueues_of_enqueuing
    (henqueuing : enqueuing libs configs system worker now = some (item, request)) :
    Enqueues libs configs system worker now item request := by
  unfold enqueuing at henqueuing
  repeat' split at henqueuing
  all_goals cases henqueuing
  rename_i reads _ _ _ _ _ _ _ id hpass hok hcall
  obtain ⟨⟨rfl, rfl, rfl, rfl, rfl⟩, -⟩ := readyCall_enqueue hcall
  exact ⟨⟨reads, hpass, hcall⟩, id, hok⟩

/-! ## Conditions on a step -/

/-- The indexer only writes packets that have no DVN job yet. -/
def firstIndexing (libs : Libraries) (pre : System) : Label → Bool
  | .indexPacket log _ =>
    match packetRecordFromSentLog libs log with
    | .error _ => true
    | .ok record => (pre.db.work.dvnJobs.find record.guid).isNone
  | .indexJob _ guid _ _ => (pre.db.work.dvnJobs.find guid).isNone
  | _ => true

/-- An index step leaves the source block and the confirmations of a job past
the gate as they are. -/
def keepsBlock (libs : Libraries) (pre : System) : Label → Bool
  | .indexPacket log _ =>
    match packetRecordFromSentLog libs log with
    | .error _ => true
    | .ok record =>
      match pre.db.work.dvnJobs.find record.guid with
      | none => true
      | some job =>
        !(pastGate job.status) ||
          match pre.db.work.packets.find record.guid with
          | none => false
          | some stored =>
            decide (stored.srcEID = record.srcEID ∧ stored.srcBlockNumber = record.srcBlockNumber)
  | .indexJob _ guid _ confirmationsRequired =>
    match pre.db.work.dvnJobs.find guid with
    | none => true
    | some job =>
      !(pastGate job.status) ||
        decide (job.confirmationsRequired = confirmationsRequired)
  | _ => true

theorem keepsBlock_of_first {pre : System} {label : Label} (hfirst : firstIndexing libs pre label) :
    keepsBlock libs pre label := by
  cases label with
  | indexPacket log status =>
    unfold firstIndexing at hfirst
    unfold keepsBlock
    dsimp only at hfirst ⊢
    split
    · rfl
    · rename_i record hdecoded
      rw [hdecoded] at hfirst
      rw [Option.isNone_iff_eq_none.mp hfirst]
  | indexJob now guid assignedFee confirmationsRequired =>
    have hnone := Option.isNone_iff_eq_none.mp hfirst
    unfold keepsBlock
    dsimp only
    rw [hnone]
  | _ => rfl

/-- The confirmation gate of a pass is open. -/
def gatePasses (config : WorkerConfig) (item : DVNWorkItem) (reads : ConfirmationReads) : Bool :=
  match observedHead config item reads with
  | none => false
  | some head =>
    hasRequiredConfirmations item.packet.srcBlockNumber item.job.confirmationsRequired head

/-- The packet is stored at the listed source block, with the listed
confirmations. -/
def blockAsListed (work : WorkTables) (item : DVNWorkItem) : Bool :=
  match work.packets.find item.packet.guid, work.dvnJobs.find item.packet.guid with
  | some packet, some job =>
    decide (packet.srcEID = item.packet.srcEID ∧
      packet.srcBlockNumber = item.packet.srcBlockNumber ∧
      job.confirmationsRequired = item.job.confirmationsRequired)
  | _, _ => true

/-- The job still has the status a call expects. -/
def statusIs (work : WorkTables) (guid : Hash) (expected : DVNState) : Bool :=
  match work.dvnJobs.find guid with
  | none => false
  | some job => decide (job.status = expected)

theorem statusIs_of_mem {work : WorkTables} (hjob : job ∈ work.dvnJobs) (hguid : job.guid = guid)
    (hstatus : job.status = expected) :
    statusIs work guid expected = true := by
  unfold statusIs
  rw [find_eq_some.mpr ⟨hjob, hguid⟩]
  exact decide_eq_true hstatus

/-- A `MarkDVNQuorumChecking` that commits finds the source block and the
confirmations that its pass listed. -/
def gatesAsListed (configs : ℕ → WorkerConfig) (pre : System) : Label → Bool
  | .call worker _ =>
    match pre.workers worker with
    | some (.confirmed status item reads) =>
      !(gatePasses (configs worker) item reads && statusIs pre.db.work item.packet.guid status) ||
        blockAsListed pre.db.work item
    | _ => true
  | _ => true

/-! ## The invariant -/

/-- Heads that waiting gates rely on were seen, and every pair past the gate
has been gated at its stored block. -/
structure GateSound (configs : ℕ → WorkerConfig)
    (history : List (Event System Label)) (system : System) : Prop where
  heads : ∀ worker status item reads head,
    system.workers worker = some (.confirmed status item reads) →
      observedHead (configs worker) item reads = some head →
      ∃ event ∈ history, ObservesHead configs event item.packet.srcEID head
  gated : ∀ packet job, InFlight system.db.work packet job →
    DepthGated configs history packet.srcEID packet.srcBlockNumber job.confirmationsRequired

variable {history : List (Event System Label)} {pre post : System} {label : Label}

theorem keepsBlock_packet {log : Log} {status : ExecutorState} {record : PacketRecord}
    (hkeeps : keepsBlock libs pre (.indexPacket log status))
    (hdecoded : packetRecordFromSentLog libs log = .ok record) (hjob : job ∈ pre.db.work.dvnJobs)
    (hguid : job.guid = record.guid) (hpast : pastGate job.status) :
    ∃ stored ∈ pre.db.work.packets, stored.guid = record.guid ∧
      stored.srcEID = record.srcEID ∧ stored.srcBlockNumber = record.srcBlockNumber := by
  have hfind := find_eq_some.mpr ⟨hjob, hguid⟩
  cases hstored : pre.db.work.packets.find record.guid with
  | none => simp [keepsBlock, hdecoded, hfind, hpast, hstored] at hkeeps
  | some stored =>
    obtain ⟨hmem, hkey⟩ := find_eq_some.mp hstored
    have hblock : stored.srcEID = record.srcEID ∧
        stored.srcBlockNumber = record.srcBlockNumber := by
      simpa [keepsBlock, hdecoded, hfind, hpast, hstored] using hkeeps
    exact ⟨stored, hmem, hkey, hblock⟩

theorem keepsBlock_job {assignedFee : Option ℕ} {confirmationsRequired : ℕ}
    (hkeeps : keepsBlock libs pre (.indexJob now guid assignedFee confirmationsRequired))
    (hjob : job ∈ pre.db.work.dvnJobs) (hguid : job.guid = guid) (hpast : pastGate job.status) :
    job.confirmationsRequired = confirmationsRequired := by
  have hfind := find_eq_some.mpr ⟨hjob, hguid⟩
  simpa [keepsBlock, hfind, hpast] using hkeeps

section

variable (hsound : GateSound configs history pre) (hstep : WorkerStep libs configs pre label post)
  (hlisted : gatesAsListed configs pre label) (hkeeps : keepsBlock libs pre label)

include hsound hstep hlisted hkeeps

theorem GateSound.gated_step (hflight : InFlight post.db.work packet job) :
    DepthGated configs (⟨pre, label, post⟩ :: history) packet.srcEID
      packet.srcBlockNumber job.confirmationsRequired := by
  refine DepthGated.later ?_ _
  cases inFlight_origin hstep hflight with
  | @carried _ job₀ hbefore hevidence hrecord =>
    have hgated := hsound.gated _ _ hbefore
    have hrequired : job₀.confirmationsRequired = job.confirmationsRequired :=
      congrArg DVNJobRecord.confirmationsRequired hrecord
    rwa [congr_evidence PacketRecord.srcEID (fun _ => rfl) hevidence,
      congr_evidence PacketRecord.srcBlockNumber (fun _ => rfl) hevidence, hrequired] at hgated
  | @gated worker _ _ item reads _ _ hcall hpass hseen hdeep hstored hpacket hold hjob hstatus
      hconf =>
    subst hcall
    have hopen : gatePasses (configs worker) item reads = true := by
      unfold gatePasses
      rw [hseen]
      exact hdeep
    have his := statusIs_of_mem hold hjob hstatus
    have hblock : blockAsListed pre.db.work item := by
      simpa [gatesAsListed, hpass, hopen, his] using hlisted
    unfold blockAsListed at hblock
    rw [find_eq_some.mpr ⟨hstored, hpacket⟩, find_eq_some.mpr ⟨hold, hjob⟩] at hblock
    obtain ⟨hsrc, hnumber, hrequired⟩ := of_decide_eq_true hblock
    obtain ⟨event, hevent, hobserves⟩ := hsound.heads _ _ _ _ _ hpass hseen
    rw [hsrc, hnumber, hconf, hrequired]
    exact ⟨event, hevent, _, hobserves, hdeep⟩
  | checked _ _ _ _ hbefore _ _ hconf =>
    rw [hconf]
    exact hsound.gated _ _ hbefore
  | packetIndexed hindex hdecoded hsame hjob hguid hpast =>
    subst hindex
    have hrecord := congr_evidence PacketRecord.guid (fun _ => rfl) hsame
    obtain ⟨stored, hstored, hkey, hsrc, hnumber⟩ :=
      keepsBlock_packet hkeeps hdecoded hjob (hguid.trans hrecord) hpast
    have hgated := hsound.gated stored job
      ⟨hstored, hjob, (hguid.trans hrecord).trans hkey.symm, hpast⟩
    rwa [hsrc, hnumber, ← congr_evidence PacketRecord.srcEID (fun _ => rfl) hsame,
      ← congr_evidence PacketRecord.srcBlockNumber (fun _ => rfl) hsame] at hgated
  | jobIndexed hindex hbefore hguid _ _ hconf =>
    subst hindex
    have hrequired := keepsBlock_job hkeeps hbefore.job_mem hguid hbefore.past
    rw [hconf, ← hrequired]
    exact hsound.gated _ _ hbefore

theorem gateSound_step : GateSound configs (⟨pre, label, post⟩ :: history) post where
  heads worker status item reads _ hpass hseen := by
    cases pass_origin hstep hpass with
    | kept hbefore =>
      obtain ⟨event, hevent, hobserves⟩ := hsound.heads _ _ _ _ _ hbefore hseen
      exact ⟨event, mem_cons_of_mem _ hevent, hobserves⟩
    | readHead hread hbefore =>
      exact ⟨_, mem_cons_self, worker, status, item, reads, hread, hbefore, rfl, hseen⟩
  gated _ _ hflight := hsound.gated_step hstep hlisted hkeeps hflight

end

theorem gateSound_empty (configs : ℕ → WorkerConfig) : GateSound configs [] System.empty where
  heads _ _ _ _ _ hpass := by cases hpass
  gated _ _ hflight := absurd hflight.packet_mem (not_mem_empty _)

/-- In every run of the workers in which each committed gate was decided for
the block the packet is stored at, a verify transaction is only enqueued for a
stored source block that some pass saw at the required depth. -/
theorem enqueue_behind_depth_gate {libs : Libraries} {configs : ℕ → WorkerConfig}
    {history : List (Event System Label)} {system : System} {worker : ℕ} {now : Time}
    {item : DVNWorkItem} {request : TxRequest} (hrun : WorkerRun libs configs history system)
    (hfirst : ∀ event ∈ history, firstIndexing libs event.pre event.label)
    (hlisted : ∀ event ∈ history, gatesAsListed configs event.pre event.label)
    (henqueue : Enqueues libs configs system worker now item request) :
    ∃ packet ∈ system.db.work.packets, ∃ job ∈ system.db.work.dvnJobs,
      packet.guid = item.packet.guid ∧ job.guid = item.packet.guid ∧
        DepthGated configs history packet.srcEID packet.srcBlockNumber
          job.confirmationsRequired := by
  have hsound : GateSound configs history system := by
    refine Run.history_invariant
      (fun event => firstIndexing libs event.pre event.label ∧
        gatesAsListed configs event.pre event.label)
      (GateSound configs) ?_ (gateSound_empty configs) hrun
      (fun event hevent => ⟨hfirst event hevent, hlisted event hevent⟩)
    intro earlier pre label post hpre hstep hgood
    exact gateSound_step hpre hstep hgood.2 (keepsBlock_of_first hgood.1)
  obtain ⟨packet, job, hflight, hguid, -⟩ := henqueue.inFlight
  exact ⟨packet, hflight.packet_mem, job, hflight.job_mem, hguid,
    hflight.guid.trans hguid, hsound.gated packet job hflight⟩

/-! ## A stalled gate -/

def sampleHeader : Bytes := [1] ++ (ofNat 8 1).1 ++ (ofNat 4 1).1 ++
    abiWord 0x11 ++ (ofNat 4 2).1 ++ abiWord 0x22

def sampleGUID : Hash := .ofNat 32
    0x953273c556d8f045491509da8526d9db43de1641f744a83498c2bc7d27b4abb3

/-- A PacketV1 without a message. -/
def samplePacket : Bytes := sampleHeader ++ sampleGUID.1

/-- The libraries on the sample packet; the digest is that of its payload. -/
def sampleLibraries : Libraries := abiLibraries fun _ => .ofNat 32
    0xad66c9351967a7e76fadacb7e5f5907c3d4ac963e39ef8e9e7e67987be8223eb

/-- The `PacketSent` log of the sample packet at the given coordinates. -/
def sampleLog (blockNumber index : ℕ) : Log where
  address := .ofNat 20 0x44
  topics := [sampleLibraries.packetSentTopic]
  data := abiWord 96 ++ abiWord 256 ++ abiWord 0x33 ++ abiBytes samplePacket ++ abiBytes []
  blockNumber
  txHash := .ofNat 32 0x55
  blockHash := .ofNat 32 blockNumber
  index

def sampleReceipt (blockNumber index : ℕ) : ReceiptReads := .ok (some
    { txHash := .ofNat 32 0x55
      status := 1
      blockNumber := some blockNumber
      blockHash := .ofNat 32 blockNumber
      gasUsed := 21000
      effectiveGasPrice := some 1
      logs := [some (sampleLog blockNumber index)] })

def sampleRoute : Route := ⟨1, 2, .ofNat 20 0x11, .ofNat 20 0x22⟩

def sampleConfigs (_worker : ℕ) : WorkerConfig where
  registry := some
    { get := fun _ => some ⟨.ofNat 20 0x44, 0⟩
      pathway := fun _ => some
        { dvnMode := .active
          receiveLib := .ofNat 20 0x66
          openDVN := .ofNat 20 0x77
          receiveRequiredDVNs := [ofNat 20 0x77] } }
  signerID _ := some "dvn"
  hasReader _ := true

/-- The destination chain has not verified the packet. -/
def sampleView : DestinationView where
  inboundPayloadHash := .ok Hash.zero
  receiveLibrary := .ok (.ofNat 20 0x66)
  ulnConfig := .ok ⟨5, 1, 0, 0, [ofNat 20 0x77], []⟩
  hashLookup := .ok (false, 0)

/-- The packet is indexed at block 10 and assigned with five confirmations. -/
def sampleIndexed : List Label :=
  [.other (.work (.syncConfig ⟨[1, 2], [⟨sampleRoute, true⟩]⟩)), .indexPacket (sampleLog 10 0) .new,
    .indexJob 0 sampleGUID (some 1) 5]

/-- A confirmation pass up to its store call, which finds its job with the
given number of listings. -/
def sampleConfirm (worker listings head : ℕ) : List Label :=
  .enter worker .processConfirmationsOnce :: replicate listings (.list worker 0) ++
    [.readHead worker ⟨.ok (), sampleView, .ok (some head)⟩]

def sampleCheck (worker blockNumber index : ℕ) : List Label :=
  [.enter worker .processQuorumOnce, .list worker 0,
    .readReceipt worker (sampleReceipt blockNumber index), .call worker 0]

def sampleVerify (worker : ℕ) : List Label :=
  [.enter worker .processReadyToVerifyOnce, .list worker 0,
    .readDestination worker ⟨.ok (), sampleView, .ok none, sampleView⟩]

/-- The packet is confirmed and checked at block 10. -/
def sampleReady : List Label :=
  sampleIndexed ++ (sampleConfirm 1 2 14 ++ [.call 1 0]) ++ sampleCheck 1 10 0

/-- Worker 1 stalls after it has seen block 10 under head 14.  Worker 2 finds
the transaction in block 14 and sends the job back to wait for that block, and
then worker 1 completes its gate. -/
def stalledGate : List Label := sampleIndexed ++ (sampleConfirm 1 2 13 ++ [.call 1 0]) ++
    sampleConfirm 1 3 14 ++ (sampleConfirm 2 3 14 ++ [.call 2 0]) ++ sampleCheck 2 14 3 ++
    [.enter 2 .processConfirmationsOnce, .list 2 0, .call 2 0] ++ [.call 1 0] ++
    sampleCheck 2 14 3 ++ sampleVerify 2

/-- The head a label hands to a confirmation pass. -/
def Label.head : Label → Option ℕ
  | .readHead _ ⟨_, _, .ok number⟩ => number
  | _ => none

theorem observedHead_eq_some {head : ℕ} (worker : ℕ)
    (hseen : observedHead config item reads = some head) :
    ∃ number, (Label.readHead worker reads).head = some number ∧ head = number % 2 ^ 64 := by
  unfold observedHead at hseen
  repeat' split at hseen
  all_goals cases hseen
  rename_i number hhead
  cases reads
  subst hhead
  exact ⟨number, rfl, rfl⟩

/-- A run on the sample packet after which a worker enqueues. -/
theorem enqueue_of_performed (allowed : System → Label → Bool) (labels : List Label) (worker : ℕ)
    (check : System → DVNWorkItem → Bool) (hperformed : ((perform
      (exec sampleLibraries sampleConfigs) allowed System.empty labels.reverse).any fun system =>
        (enqueuing sampleLibraries sampleConfigs system worker 0).any fun enqueued =>
          check system enqueued.1) = true) : ∃ history system item request,
      WorkerRun sampleLibraries sampleConfigs history system ∧
      (∀ event ∈ history, event.label ∈ labels) ∧
      (∀ event ∈ history, allowed event.pre event.label) ∧
      Enqueues sampleLibraries sampleConfigs system worker 0 item request ∧ check system item := by
  obtain ⟨history, system, hrun, hlabels, hallowed, hcheck⟩ := exists_run_of_perform hperformed
  obtain ⟨⟨item, request⟩, henqueuing, hitem⟩ := (Option.any_eq_true _ _).mp hcheck
  exact ⟨history, system, item, request, hrun, hlabels, hallowed,
    enqueues_of_enqueuing henqueuing, hitem⟩

/-- With a stalled worker the enqueue happens for a packet at block 14 and five
confirmations, while no pass ever saw a head above 14. -/
theorem stalled_gate_enqueues_shallow_block : ∃ history system worker now item request,
      WorkerRun sampleLibraries sampleConfigs history system ∧
      (∀ event ∈ history, firstIndexing sampleLibraries event.pre event.label) ∧
      Enqueues sampleLibraries sampleConfigs system worker now item request ∧
      ¬ ∃ packet ∈ system.db.work.packets, ∃ job ∈ system.db.work.dvnJobs,
        packet.guid = item.packet.guid ∧ job.guid = item.packet.guid ∧
          DepthGated sampleConfigs history packet.srcEID
            packet.srcBlockNumber job.confirmationsRequired := by
  obtain ⟨history, system, item, request, hrun, hlabels, hfirst, henqueue, hcheck⟩ :=
    enqueue_of_performed (firstIndexing sampleLibraries) stalledGate 2
      (fun system _ => system.db.work.packets.rows.all (fun packet => packet.srcBlockNumber = 14) &&
        system.db.work.dvnJobs.rows.all (fun job => job.confirmationsRequired = 5))
      (by decide +kernel)
  simp only [Bool.and_eq_true, all_eq_true, decide_eq_true_eq] at hcheck
  obtain ⟨hblocks, hconfirmations⟩ := hcheck
  refine ⟨history, system, 2, 0, item, request, hrun, hfirst, henqueue, ?_⟩
  rintro ⟨packet, hpacket, job, hjob, -, -, event, hevent, head,
    ⟨worker, status, seen, reads, hlabel, -, -, hseen⟩, hdeep⟩
  obtain ⟨number, hhead, rfl⟩ := observedHead_eq_some worker hseen
  have hmem : number ∈ stalledGate.filterMap Label.head := mem_filterMap.mpr
      ⟨_, hlabel ▸ hlabels event hevent, hhead⟩
  have hheads : stalledGate.filterMap Label.head = [13, 14, 14] := rfl
  rw [hheads] at hmem
  rw [hblocks packet hpacket, hconfirmations job hjob] at hdeep
  fin_cases hmem <;> exact absurd hdeep (by decide)

/-- One worker takes the packet from its assignment to the enqueue. -/
def promptGate : List Label := sampleReady ++ sampleVerify 1

theorem enqueue_behind_prompt_gate : ∃ history system worker now item request,
      WorkerRun sampleLibraries sampleConfigs history system ∧
      Enqueues sampleLibraries sampleConfigs system worker now item request ∧
      ∃ packet ∈ system.db.work.packets, ∃ job ∈ system.db.work.dvnJobs,
        packet.guid = item.packet.guid ∧ job.guid = item.packet.guid ∧
          DepthGated sampleConfigs history packet.srcEID
            packet.srcBlockNumber job.confirmationsRequired := by
  obtain ⟨history, system, item, request, hrun, -, hallowed, henqueue, -⟩ := enqueue_of_performed
    (fun pre label => firstIndexing sampleLibraries pre label &&
      gatesAsListed sampleConfigs pre label) promptGate 1 (fun _ _ => true) (by decide +kernel)
  simp only [Bool.and_eq_true] at hallowed
  exact ⟨history, system, 1, 0, item, request, hrun, henqueue,
    enqueue_behind_depth_gate hrun (fun event hevent =>
      (hallowed event hevent).1) (fun event hevent =>
      (hallowed event hevent).2) henqueue⟩

end Lazier.DVN
