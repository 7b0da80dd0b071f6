import Lazier.DVN.DepthGate

/-!
# What a verify transaction attests

The calldata of a verify transaction should carry the header, the payload hash
and the confirmations of the log that the stored quorum report is about.  The
indexer may rewrite a packet or its confirmations under a job that is past its
checks; runs in which it does not, and in which the worker's own transitions
commit as listed, attest only what was checked.
-/

namespace Lazier.DVN

open Chain Library Store List Table

variable {log : Log} {packet left right : PacketRecord} {endpoint : Address} {report : QuorumReport}
  {result : Option QuorumResult} {now : Time} {item : DVNWorkItem} {job : DVNJobRow}

/-! ## Receipts that pass the check -/

/-- The stored header is the header of the encoded packet. -/
def Framed (packet : PacketRecord) : Prop :=
  packet.packetHeader = slice packet.encodedPacket 0 packetV1HeaderLength

/-- The payload hash of a stored packet is that of its encoded bytes. -/
def Hashed (libs : Libraries) (packet : PacketRecord) : Prop := packet.payloadHash =
    libs.keccak256 (packet.encodedPacket.drop packetV1HeaderLength)

variable {libs : Libraries}

theorem packetRecordFromSentLog_ok {record : PacketRecord}
    (hdecoded : packetRecordFromSentLog libs log = .ok record) :
    Framed record ∧ Hashed libs record ∧ record.guid ≠ Hash.zero := by
  unfold packetRecordFromSentLog at hdecoded
  split at hdecoded
  · cases hdecoded
  split at hdecoded
  · cases hdecoded
  rename_i event _ _ packet hpacket
  cases hdecoded
  unfold decodePacketV1 at hpacket
  dsimp only at hpacket
  repeat' split at hpacket
  all_goals cases hpacket
  rename_i header hheader hguid
  unfold decodePacketV1Header at hheader
  dsimp only at hheader
  repeat' split at hheader
  all_goals cases hheader
  exact ⟨rfl, rfl, hguid⟩

theorem validateReceiptPacket_none {expected actual : PacketRecord}
    (hvalid : validateReceiptPacket expected actual = none) :
    actual.payloadHash = expected.payloadHash ∧ actual.encodedPacket = expected.encodedPacket := by
  unfold validateReceiptPacket at hvalid
  repeat' split at hvalid
  all_goals cases hvalid
  rename_i hhash hencoded
  exact ⟨not_not.mp hhash, not_not.mp hencoded⟩

theorem logAt_index {receipt : Receipt} {index : ℕ} (hlog : logAt receipt index = some log) :
    log.index = index := by
  obtain ⟨entry, -, hentry⟩ := exists_of_findSome?_eq_some hlog
  repeat' split at hentry
  all_goals cases hentry
  assumption

theorem verifySourceLog_ok {receipt : Receipt}
    (hverified : verifySourceLog libs packet receipt endpoint log = .ok report) :
    ∃ record, packetRecordFromSentLog libs log = .ok record ∧
      log.blockNumber = packet.srcBlockNumber ∧ record.payloadHash = packet.payloadHash ∧
      record.encodedPacket = packet.encodedPacket := by
  unfold verifySourceLog at hverified
  repeat' split at hverified
  all_goals cases hverified
  rename_i hblock _ record hdecoded _ hvalid
  obtain ⟨hhash, hencoded⟩ := validateReceiptPacket_none hvalid
  exact ⟨record, hdecoded, not_not.mp hblock, hhash, hencoded⟩

/-- A passed check is about the log at the stored coordinates, and that log
carries the stored packet. -/
theorem verifySourceReceipt_ok {receipt : Option Receipt}
    (hverified : verifySourceReceiptForEndpoint libs packet receipt endpoint = .ok report) :
    ∃ body log record, receipt = some body ∧ logAt body packet.srcLogIndex = some log ∧
      packetRecordFromSentLog libs log = .ok record ∧ log.blockNumber = packet.srcBlockNumber ∧
      record.payloadHash = packet.payloadHash ∧ record.encodedPacket = packet.encodedPacket := by
  unfold verifySourceReceiptForEndpoint at hverified
  split at hverified
  · cases hverified
  rename_i body
  split at hverified
  · cases hverified
  split at hverified
  · cases hverified
  split at hverified
  · cases hverified
  split at hverified
  · cases hverified
  rename_i log hlog
  obtain ⟨record, hdecoded, hblock, hhash, hencoded⟩ := verifySourceLog_ok hverified
  exact ⟨body, log, record, rfl, hlog, hdecoded, hblock, hhash, hencoded⟩

/-! ## Attested packets -/

/-- In this step a pass of `ProcessQuorumOnce` reads a receipt whose log passes
its check with `report`. -/
def ChecksLog (libs : Libraries) (configs : ℕ → WorkerConfig) (event : Event System Label)
    (item : DVNWorkItem) (log : Log) (report : QuorumReport) : Prop :=
  ∃ worker body endpoint, event.label = .readReceipt worker (.ok (some body)) ∧
      event.pre.workers worker = some (.checking item) ∧
      sourceEndpoint (configs worker) item.packet.srcEID = some endpoint ∧
      verifySourceReceiptForEndpoint libs item.packet (some body) endpoint = .ok report ∧
      logAt body item.packet.srcLogIndex = some log

/-- The log that the quorum report is about carries the packet at its
coordinates, and its block was seen at the required depth. -/
def Attested (libs : Libraries) (configs : ℕ → WorkerConfig) (history : List (Event System Label))
    (packet : PacketRecord) (confirmationsRequired : ℕ) (result : Option QuorumResult) : Prop :=
  ∃ event ∈ history, ∃ item log report record, ChecksLog libs configs event item log report ∧
      item.packet.guid = packet.guid ∧ result = some (.report report) ∧
      packetRecordFromSentLog libs log = .ok record ∧ record.packetHeader = packet.packetHeader ∧
      record.payloadHash = packet.payloadHash ∧ log.blockNumber = packet.srcBlockNumber ∧
      log.index = packet.srcLogIndex ∧ DepthGated configs history packet.srcEID log.blockNumber
        confirmationsRequired

variable {configs : ℕ → WorkerConfig} {history : List (Event System Label)}
  {confirmationsRequired : ℕ}

theorem Attested.later
    (hattested : Attested libs configs history packet confirmationsRequired result)
    (last : Event System Label) :
    Attested libs configs (last :: history) packet confirmationsRequired
      result := by
  obtain ⟨event, hevent, item, log, report, record, hchecks, hguid, hresult,
    hdecoded, hheader, hhash, hblock, hindex, hgated⟩ := hattested
  exact ⟨event, mem_cons_of_mem _ hevent, item, log, report, record,
    hchecks, hguid, hresult, hdecoded, hheader, hhash, hblock, hindex, hgated.later last⟩

/-- The columns that an attestation is about. -/
structure SameAttestation (left right : PacketRecord) : Prop where
  guid : left.guid = right.guid
  srcEID : left.srcEID = right.srcEID
  header : left.packetHeader = right.packetHeader
  payloadHash : left.payloadHash = right.payloadHash
  block : left.srcBlockNumber = right.srcBlockNumber
  index : left.srcLogIndex = right.srcLogIndex

theorem sameAttestation_of_evidence (heq : evidence left = evidence right) :
    SameAttestation left right where
  guid := congr_evidence PacketRecord.guid (fun _ => rfl) heq
  srcEID := congr_evidence PacketRecord.srcEID (fun _ => rfl) heq
  header := congr_evidence PacketRecord.packetHeader (fun _ => rfl) heq
  payloadHash := congr_evidence PacketRecord.payloadHash (fun _ => rfl) heq
  block := congr_evidence PacketRecord.srcBlockNumber (fun _ => rfl) heq
  index := congr_evidence PacketRecord.srcLogIndex (fun _ => rfl) heq

theorem Attested.of_same
    (hattested : Attested libs configs history left confirmationsRequired result)
    (hsame : SameAttestation left right) :
    Attested libs configs history right confirmationsRequired result := by
  unfold Attested at hattested ⊢
  rwa [hsame.guid, hsame.srcEID, hsame.header, hsame.payloadHash,
    hsame.block, hsame.index] at hattested

/-! ## Conditions on a step -/

/-- The receipt check of a pass succeeds. -/
def receiptPasses (libs : Libraries) (config : WorkerConfig) (item : DVNWorkItem)
    (receipt : Option Receipt) : Bool :=
  match sourceEndpoint config item.packet.srcEID with
  | none => false
  | some endpoint =>
    match verifySourceReceiptForEndpoint libs item.packet receipt endpoint with
    | .error _ => false
    | .ok _ => true

/-- The packet is stored with the listed header, payload hash and
coordinates. -/
def evidenceAsListed (work : WorkTables) (item : DVNWorkItem) : Bool :=
  match work.packets.find item.packet.guid with
  | none => true
  | some packet =>
    decide (packet.packetHeader = item.packet.packetHeader ∧
      packet.payloadHash = item.packet.payloadHash ∧ packet.coordinates = item.packet.coordinates)

/-- A `MarkDVNReadyToVerify` that commits finds the packet that its pass
checked. -/
def checksAsListed (libs : Libraries) (configs : ℕ → WorkerConfig) (pre : System) : Label → Bool
  | .call worker _ =>
    match pre.workers worker with
    | some (.checked item (.ok receipt)) =>
      !(receiptPasses libs (configs worker) item receipt &&
        statusIs pre.db.work item.packet.guid .quorumChecking) || evidenceAsListed pre.db.work item
    | _ => true
  | _ => true

/-- An index step leaves the header, the payload hash and the log index of a
packet that is ready to verify as they are. -/
def keepsChecked (libs : Libraries) (pre : System) : Label → Bool
  | .indexPacket log _ =>
    match packetRecordFromSentLog libs log with
    | .error _ => true
    | .ok record =>
      !(statusIs pre.db.work record.guid .readyToVerify) ||
        match pre.db.work.packets.find record.guid with
        | none => true
        | some stored =>
          decide (stored.packetHeader = record.packetHeader ∧
            stored.payloadHash = record.payloadHash ∧ stored.srcLogIndex = record.srcLogIndex)
  | _ => true

variable {pre post : System} {label : Label}

theorem checksAsListed_evidence {worker : ℕ} {receipt : Option Receipt}
    (hlisted : checksAsListed libs configs pre (.call worker now))
    (hpass : pre.workers worker = some (.checked item (.ok receipt)))
    (hknown : sourceEndpoint (configs worker) item.packet.srcEID = some endpoint)
    (hverified : verifySourceReceiptForEndpoint libs item.packet receipt endpoint = .ok report)
    (hflight : InFlight pre.db.work packet job) (hguid : packet.guid = item.packet.guid)
    (hstatus : job.status = .quorumChecking) : packet.packetHeader = item.packet.packetHeader ∧
      packet.payloadHash = item.packet.payloadHash ∧
      packet.coordinates = item.packet.coordinates := by
  have hpasses : receiptPasses libs (configs worker) item receipt = true := by
    unfold receiptPasses
    rw [hknown]
    dsimp only
    rw [hverified]
  have his := statusIs_of_mem hflight.job_mem (hflight.guid.trans hguid) hstatus
  have hevidence : evidenceAsListed pre.db.work item = true := by
    simpa [checksAsListed, hpass, hpasses, his] using hlisted
  unfold evidenceAsListed at hevidence
  rw [find_eq_some.mpr ⟨hflight.packet_mem, hguid⟩] at hevidence
  exact of_decide_eq_true hevidence

/-! ## The invariant -/

/-- Packets are framed, receipts that waiting checks rely on were read, and
every packet that is ready to verify, stored or listed, is attested. -/
structure AttestationSound (libs : Libraries) (configs : ℕ → WorkerConfig)
    (history : List (Event System Label)) (system : System) : Prop where
  gate : GateSound configs history system
  framed : ∀ packet ∈ system.db.work.packets, Framed packet
  checking : ∀ worker item, system.workers worker = some (.checking item) → Framed item.packet
  checked : ∀ worker item reads, system.workers worker = some (.checked item reads) →
      Framed item.packet ∧ ∃ event ∈ history, event.label = .readReceipt worker reads ∧
          event.pre.workers worker = some (.checking item)
  ready : ∀ packet job, InFlight system.db.work packet job → job.status = .readyToVerify →
    Attested libs configs history packet job.confirmationsRequired job.quorumResult
  verifying : ∀ worker item, system.workers worker = some (.verifying item) →
    Attested libs configs history item.packet item.job.confirmationsRequired item.job.quorumResult
  decided : ∀ worker item reads, system.workers worker = some (.decided item reads) →
    Attested libs configs history item.packet item.job.confirmationsRequired item.job.quorumResult

theorem framed_congr (heq : contents left = contents right) (hframed : Framed left) :
    Framed right := by
  have hheader := congrArg PacketRecord.packetHeader heq
  have hencoded := congrArg PacketRecord.encodedPacket heq
  unfold Framed at hframed ⊢
  exact hheader ▸ hencoded ▸ hframed

/-- A listed item is a stored packet with its job. -/
theorem listDVNWork_mem {db : DB} {status : DVNState} {limit : ℕ} {items : List DVNWorkItem}
    (hlist : listDVNWork db now status limit = .ok items) (hitem : item ∈ items) :
    ∃ packet ∈ db.work.packets, ∃ job ∈ db.work.dvnJobs,
      job.guid = packet.guid ∧ job.status = status ∧ item = ⟨packet, job.toRecord⟩ := by
  unfold listDVNWork at hlist
  dsimp only at hlist
  repeat' split at hlist
  all_goals cases hlist
  obtain ⟨job, hjob, hrow⟩ := mem_filterMap.mp (mem_of_mem_take hitem)
  rw [mem_insertionSort] at hjob
  unfold dvnWorkRow at hrow
  repeat' split at hrow
  all_goals cases hrow
  rename_i packet hfind hcond
  obtain ⟨hpacket, hguid⟩ := find_eq_some.mp hfind
  exact ⟨packet, hpacket, job, hjob, hguid.symm, hcond.1, rfl⟩

/-- A step stores packets that it decodes and keeps the contents of the others. -/
theorem packets_step {holds : PacketRecord → Prop}
    (hcongr : ∀ {left right}, contents left = contents right → holds left → holds right)
    (hdecoded : ∀ {log record}, packetRecordFromSentLog libs log = .ok record → holds record)
    (hbefore : ∀ packet ∈ pre.db.work.packets, holds packet)
    (hstep : WorkerStep libs configs pre label post) :
    ∀ packet ∈ post.db.work.packets, holds packet := by
  intro packet hpacket
  rcases packet_origin hstep hpacket with ⟨old, hold, heq⟩ | ⟨log, record, hlog, heq⟩
  · exact hcongr heq (hbefore old hold)
  · have hcontents : contents (evidence record) = contents (evidence packet) :=
      congrArg contents heq.symm
    exact hcongr (show contents record = contents packet from hcontents) (hdecoded hlog)

section

variable (hsound : AttestationSound libs configs history pre)

include hsound

theorem AttestationSound.listed_item {status : DVNState} {rest : List DVNWorkItem}
    (hfound : listDVNWork pre.db now status 1 = .ok (item :: rest)) :
    Framed item.packet ∧ (status = .readyToVerify → Attested libs configs history item.packet
        item.job.confirmationsRequired item.job.quorumResult) := by
  obtain ⟨packet, hpacket, job, hjob, hguid, hstatus, rfl⟩ := listDVNWork_mem hfound mem_cons_self
  refine ⟨hsound.framed packet hpacket, fun hready => ?_⟩
  have hjobReady : job.status = .readyToVerify := hstatus.trans hready
  exact hsound.ready packet job ⟨hpacket, hjob, hguid, by rw [hjobReady]; rfl⟩ hjobReady

/-- A receipt check that commits as listed attests the stored packet. -/
theorem AttestationSound.attested_of_check {worker : ℕ} {receipt : Option Receipt} {old : DVNJobRow}
    (hpass : pre.workers worker = some (.checked item (.ok receipt)))
    (hknown : sourceEndpoint (configs worker) item.packet.srcEID = some endpoint)
    (hverified : verifySourceReceiptForEndpoint libs item.packet receipt endpoint = .ok report)
    (hflight : InFlight pre.db.work packet old) (hguid : packet.guid = item.packet.guid)
    (hheader : packet.packetHeader = item.packet.packetHeader)
    (hpayload : packet.payloadHash = item.packet.payloadHash)
    (hcoordinates : packet.coordinates = item.packet.coordinates) :
    Attested libs configs history packet old.confirmationsRequired (some (.report report)) := by
  obtain ⟨hframed, event, hevent, hlabel, hchecking⟩ := hsound.checked worker item _ hpass
  obtain ⟨body, log, record, rfl, hlog, hdecoded, hblock, hhash, hencoded⟩ :=
    verifySourceReceipt_ok hverified
  have hnumber : packet.srcBlockNumber = item.packet.srcBlockNumber :=
    congrArg Coordinates.blockNumber hcoordinates
  have hindex : packet.srcLogIndex = item.packet.srcLogIndex :=
    congrArg Coordinates.logIndex hcoordinates
  -- The check compares the encoded packets; both headers are cut from them.
  have hrecord : record.packetHeader = item.packet.packetHeader := by
    have hcut := (packetRecordFromSentLog_ok hdecoded).1
    unfold Framed at hcut hframed
    rw [hcut, hencoded, hframed]
  have hgated := hsound.gate.gated packet old hflight
  rw [hnumber, ← hblock] at hgated
  exact ⟨event, hevent, item, log, report, record,
    ⟨worker, body, endpoint, hlabel, hchecking, hknown, hverified, hlog⟩,
    hguid.symm, rfl, hdecoded, hrecord.trans hheader.symm,
    hhash.trans hpayload.symm, hblock.trans hnumber.symm,
    (logAt_index hlog).trans hindex.symm, hgated⟩

theorem AttestationSound.ready_step (hstep : WorkerStep libs configs pre label post)
    (hlisted : checksAsListed libs configs pre label) (hblock : keepsBlock libs pre label)
    (hchecked : keepsChecked libs pre label) (hflight : InFlight post.db.work packet job)
    (hready : job.status = .readyToVerify) :
    Attested libs configs (⟨pre, label, post⟩ :: history) packet
      job.confirmationsRequired job.quorumResult := by
  refine Attested.later ?_ _
  cases inFlight_origin hstep hflight with
  | @carried packet₀ job₀ hbefore hevidence hrecord =>
    have hstatus : job₀.status = job.status := congrArg DVNJobRecord.status hrecord
    have hrequired : job₀.confirmationsRequired = job.confirmationsRequired :=
      congrArg DVNJobRecord.confirmationsRequired hrecord
    have hresult : job₀.quorumResult = job.quorumResult :=
      congrArg DVNJobRecord.quorumResult hrecord
    rw [← hrequired, ← hresult]
    exact (hsound.ready packet₀ job₀ hbefore (hstatus.trans hready)).of_same
      (sameAttestation_of_evidence hevidence)
  | gated _ _ _ _ _ _ _ _ _ _ hbecomes =>
    rw [hbecomes] at hready
    cases hready
  | checked hcall hpass hknown hverified hbefore hguid hexpected hconf hresult =>
    subst hcall
    obtain ⟨hheader, hpayload, hcoordinates⟩ := checksAsListed_evidence
      hlisted hpass hknown hverified hbefore hguid hexpected
    rw [hconf, hresult]
    exact hsound.attested_of_check hpass hknown hverified hbefore hguid
      hheader hpayload hcoordinates
  | @packetIndexed _ _ record hindex hdecoded hsame hjob hguid hpast =>
    subst hindex
    have hrecord := sameAttestation_of_evidence hsame
    obtain ⟨stored, hstored, hkey, hsrc, hnumber⟩ := keepsBlock_packet
      hblock hdecoded hjob (hguid.trans hrecord.guid) hpast
    have hbefore : InFlight pre.db.work stored job :=
      ⟨hstored, hjob, (hguid.trans hrecord.guid).trans hkey.symm, hpast⟩
    have his := statusIs_of_mem hjob (hguid.trans hrecord.guid) hready
    have hfind := find_eq_some.mpr ⟨hstored, hkey⟩
    simp only [keepsChecked, hdecoded, his, hfind] at hchecked
    obtain ⟨hheader, hpayload, hlog⟩ := of_decide_eq_true hchecked
    refine (hsound.ready stored job hbefore hready).of_same ?_
    exact
      { guid := hkey.trans hrecord.guid.symm
        srcEID := hsrc.trans hrecord.srcEID.symm
        header := hheader.trans hrecord.header.symm
        payloadHash := hpayload.trans hrecord.payloadHash.symm
        block := hnumber.trans hrecord.block.symm
        index := hlog.trans hrecord.index.symm }
  | jobIndexed hindex hbefore hguid hstatus hresult hconf =>
    subst hindex
    have hrequired := keepsBlock_job hblock hbefore.job_mem hguid hbefore.past
    rw [hconf, ← hrequired, hresult]
    exact hsound.ready _ _ hbefore (hstatus.symm.trans hready)

theorem attestationSound_step (hstep : WorkerStep libs configs pre label post)
    (hgates : gatesAsListed configs pre label) (hchecks : checksAsListed libs configs pre label)
    (hblock : keepsBlock libs pre label) (hchecked : keepsChecked libs pre label) :
    AttestationSound libs configs (⟨pre, label, post⟩ :: history) post where
  gate := gateSound_step hsound.gate hstep hgates hblock
  framed := packets_step framed_congr (fun hlog => (packetRecordFromSentLog_ok hlog).1)
    hsound.framed hstep
  checking worker item hpass := by
    cases pass_origin hstep hpass with
    | kept hbefore => exact hsound.checking worker item hbefore
    | checking hfound => exact (hsound.listed_item hfound).1
  checked worker item reads hpass := by
    cases pass_origin hstep hpass with
    | kept hbefore =>
      obtain ⟨hframed, event, hevent, hfacts⟩ := hsound.checked worker item reads hbefore
      exact ⟨hframed, event, mem_cons_of_mem _ hevent, hfacts⟩
    | readReceipt hread hbefore =>
      exact ⟨hsound.checking worker item hbefore, _, mem_cons_self, hread, hbefore⟩
  ready _ _ hflight hready := hsound.ready_step hstep hchecks hblock hchecked hflight hready
  verifying worker item hpass := by
    refine Attested.later ?_ _
    cases pass_origin hstep hpass with
    | kept hbefore => exact hsound.verifying worker item hbefore
    | verifying hfound => exact (hsound.listed_item hfound).2 rfl
  decided worker item reads hpass := by
    refine Attested.later ?_ _
    cases pass_origin hstep hpass with
    | kept hbefore => exact hsound.decided worker item reads hbefore
    | readDestination hbefore => exact hsound.verifying worker item hbefore

end

theorem attestationSound_empty (libs : Libraries) (configs : ℕ → WorkerConfig) :
    AttestationSound libs configs [] System.empty where
  gate := gateSound_empty configs
  framed _ hpacket := absurd hpacket (not_mem_empty _)
  checking _ _ hpass := by cases hpass
  checked _ _ _ hpass := by cases hpass
  ready _ _ hflight := absurd hflight.packet_mem (not_mem_empty _)
  verifying _ _ hpass := by cases hpass
  decided _ _ _ hpass := by cases hpass

/-! ## Verify transactions -/

/-- The calldata packs the header and the payload hash of a log that a pass of
`ProcessQuorumOnce` checked, the item was listed at that log's coordinates, the
report of that pass is stored with the enqueue, and the log's block was seen at
the packed depth. -/
def AttestsCheckedLog (libs : Libraries) (configs : ℕ → WorkerConfig)
    (history : List (Event System Label)) (stored : WorkTables) (item : DVNWorkItem)
    (request : TxRequest) : Prop :=
  ∃ event ∈ history, ∃ checkedItem log report record receiveLib,
    ChecksLog libs configs event checkedItem log report ∧
      checkedItem.packet.guid = item.packet.guid ∧ packetRecordFromSentLog libs log = .ok record ∧
      item.packet.packetHeader = record.packetHeader ∧
      item.packet.payloadHash = record.payloadHash ∧
      item.packet.coordinates = ⟨log.blockNumber, log.index⟩ ∧
      libs.packSubmitVerification receiveLib record.packetHeader
        record.payloadHash item.job.confirmationsRequired = .ok request.calldata ∧
      (∃ job ∈ stored.dvnJobs, job.guid = item.packet.guid ∧
        job.quorumResult = some (.report report)) ∧
      DepthGated configs history item.packet.srcEID log.blockNumber item.job.confirmationsRequired

theorem enqueueDVNVerifyTx_stores {db : DB} {guid : Hash} {expected next : DVNState}
    {request : TxRequest} {id : ℕ}
    (hok : (enqueueDVNVerifyTx db now guid expected next request result).2 = .ok id) :
    ∃ job ∈ (enqueueDVNVerifyTx db now guid expected next request
      result).1.work.dvnJobs, job.guid = guid ∧ job.quorumResult = result := by
  unfold enqueueDVNVerifyTx at hok ⊢
  dsimp only at hok ⊢
  repeat' split at hok
  all_goals cases hok
  rename_i hguid hmatch hresult _ herror _ job hfind hstatus _ hlock
  obtain ⟨hjob, hkey⟩ := find_eq_some.mp hfind
  simp only [hguid, hmatch, hresult, hstatus, if_false]
  exact ⟨_, mem_set_self hjob rfl, hkey, rfl⟩

/-- In every run in which the worker's transitions past the gate commit as
listed and the indexer leaves jobs past the gate as they are, a verify
transaction attests a checked log at a depth its block was seen at. -/
theorem enqueue_attests_checked_log {libs : Libraries} {configs : ℕ → WorkerConfig}
    {history : List (Event System Label)} {system : System} {worker : ℕ} {now : Time}
    {item : DVNWorkItem} {request : TxRequest} (hrun : WorkerRun libs configs history system)
    (hgates : ∀ event ∈ history, gatesAsListed configs event.pre event.label)
    (hchecks : ∀ event ∈ history, checksAsListed libs configs event.pre event.label)
    (hblock : ∀ event ∈ history, keepsBlock libs event.pre event.label)
    (hchecked : ∀ event ∈ history, keepsChecked libs event.pre event.label)
    (henqueue : Enqueues libs configs system worker now item request) :
    AttestsCheckedLog libs configs history
      (enqueueDVNVerifyTx system.db now item.packet.guid .readyToVerify
        .verifyTxEnqueued request item.job.quorumResult).1.work
      item request := by
  have hsound : AttestationSound libs configs history system := by
    refine Run.history_invariant
      (fun event => gatesAsListed configs event.pre event.label ∧
        checksAsListed libs configs event.pre event.label ∧ keepsBlock libs event.pre event.label ∧
        keepsChecked libs event.pre event.label) (AttestationSound libs configs) ?_
      (attestationSound_empty libs configs) hrun
      (fun event hevent => ⟨hgates event hevent, hchecks event hevent,
        hblock event hevent, hchecked event hevent⟩)
    intro earlier pre label post hpre hstep hgood
    exact attestationSound_step hpre hstep hgood.1 hgood.2.1 hgood.2.2.1 hgood.2.2.2
  obtain ⟨reads, hpass, -⟩ := henqueue.pending
  obtain ⟨-, -, receiveLib, hpack⟩ := henqueue.built
  obtain ⟨id, hok⟩ := henqueue.commits
  obtain ⟨job, hjob, hguid, hstored⟩ := enqueueDVNVerifyTx_stores hok
  obtain ⟨event, hevent, checkedItem, log, report, record, hlog, hsame,
    hresult, hdecoded, hheader, hhash, hnumber, hindex, hgated⟩ :=
    hsound.decided worker item reads hpass
  rw [← hheader, ← hhash] at hpack
  have hcoordinates : item.packet.coordinates = ⟨log.blockNumber, log.index⟩ := by
    rw [hnumber, hindex]
    rfl
  exact ⟨event, hevent, checkedItem, log, report, record, receiveLib, hlog,
    hsame, hdecoded, hheader.symm, hhash.symm, hcoordinates, hpack,
    ⟨job, hjob, hguid, hstored.trans hresult⟩, hgated⟩

/-! ## A packet rewritten under a ready job -/

/-- After the packet was checked at block 10, the executor's source stream
indexes the log of its re-inclusion at block 12. -/
def rewrittenReady : List Label :=
  sampleReady ++ [.indexPacket (sampleLog 12 7) .assigned] ++ sampleVerify 1

/-- The receipt a label hands to a quorum pass. -/
def Label.receipt : Label → Option Receipt
  | .readReceipt _ (.ok receipt) => receipt
  | _ => none

/-- The verify transaction is then built from a packet at block 12, while the
only receipt a pass ever checked has its log at block 10. -/
theorem rewritten_packet_attests_unchecked_log : ∃ history system worker now item request,
      WorkerRun sampleLibraries sampleConfigs history system ∧
      Enqueues sampleLibraries sampleConfigs system worker now item request ∧
      ¬ AttestsCheckedLog sampleLibraries sampleConfigs history
        (enqueueDVNVerifyTx system.db now item.packet.guid .readyToVerify
          .verifyTxEnqueued request item.job.quorumResult).1.work
        item request := by
  obtain ⟨history, system, item, request, hrun, hlabels, -, henqueue, hitem⟩ :=
    enqueue_of_performed (fun _ _ => true) rewrittenReady 1
      (fun _ item => item.packet.srcBlockNumber = 12) (by decide +kernel)
  refine ⟨history, system, 1, 0, item, request, hrun, henqueue, ?_⟩
  rintro ⟨event, hevent, checkedItem, log, report, record, receiveLib,
    ⟨worker, body, endpoint, hlabel, -, -, -, hlog⟩, -, -, -, -, hcoordinates, -⟩
  have hnumber : log.blockNumber = 12 := (congrArg Coordinates.blockNumber hcoordinates).symm.trans
      (of_decide_eq_true hitem)
  have hmem : body ∈ rewrittenReady.filterMap Label.receipt :=
    mem_filterMap.mpr ⟨_, hlabel ▸ hlabels event hevent, rfl⟩
  have hreceipts : ∀ receipt ∈ rewrittenReady.filterMap Label.receipt,
      receipt.logs = [some (sampleLog 10 0)] := by
    simp [rewrittenReady, sampleReady, sampleIndexed, sampleConfirm, sampleCheck,
      sampleVerify, sampleReceipt, Label.receipt]
  obtain ⟨entry, hentry, hfound⟩ := exists_of_findSome?_eq_some hlog
  rw [hreceipts body hmem, mem_singleton] at hentry
  subst hentry
  dsimp only at hfound
  split at hfound
  · cases hfound
    exact absurd hnumber (by decide)
  · cases hfound

/-- The indexer meets the same log again while the job is ready. -/
def repeatedReady : List Label := sampleReady ++
    [.indexPacket (sampleLog 10 0) .assigned, .indexJob 0 sampleGUID (some 1) 5] ++ sampleVerify 1

theorem enqueue_attests_repeated_log : ∃ history system worker now item request,
      WorkerRun sampleLibraries sampleConfigs history system ∧
      Enqueues sampleLibraries sampleConfigs system worker now item request ∧
      AttestsCheckedLog sampleLibraries sampleConfigs history
        (enqueueDVNVerifyTx system.db now item.packet.guid .readyToVerify
          .verifyTxEnqueued request item.job.quorumResult).1.work
        item request := by
  obtain ⟨history, system, item, request, hrun, -, hallowed, henqueue, -⟩ := enqueue_of_performed
    (fun pre label => gatesAsListed sampleConfigs pre label &&
      checksAsListed sampleLibraries sampleConfigs pre label &&
      keepsBlock sampleLibraries pre label &&
      keepsChecked sampleLibraries pre label) repeatedReady 1 (fun _ _ => true) (by decide +kernel)
  simp only [Bool.and_eq_true] at hallowed
  exact ⟨history, system, 1, 0, item, request, hrun, henqueue, enqueue_attests_checked_log hrun
      (fun event hevent => (hallowed event hevent).1.1.1)
      (fun event hevent => (hallowed event hevent).1.1.2)
      (fun event hevent => (hallowed event hevent).1.2)
      (fun event hevent => (hallowed event hevent).2) henqueue⟩

end Lazier.DVN
