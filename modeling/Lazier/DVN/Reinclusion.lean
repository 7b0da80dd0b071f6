import Lazier.DVN.Attestation

/-!
# Re-included source transactions

A source transaction that a reorganisation includes again keeps its hash and
its packets, and its logs get new coordinates.  The quorum pass finds such a
receipt by its block number and the packet's log by its stored index.  A
receipt at another height is read as a reorganisation and the coordinates are
refreshed.  A receipt at the stored height is looked up at the stored index, so
a log that has only moved within its block is taken for a conflict.
-/

namespace Lazier.DVN

open Chain Library Store List Table

/-! ## Stored packets -/

theorem hashed_congr {libs : Libraries} {left right : PacketRecord}
    (heq : contents left = contents right) (hhashed : Hashed libs left) :
    Hashed libs right := by
  have hhash := congrArg PacketRecord.payloadHash heq
  have hencoded := congrArg PacketRecord.encodedPacket heq
  unfold Hashed at hhashed ⊢
  exact hhash ▸ hencoded ▸ hhashed

theorem hashed_of_run {libs : Libraries} {configs : ℕ → WorkerConfig}
    {history : List (Event System Label)} {system : System}
    (hrun : WorkerRun libs configs history system) :
    ∀ packet ∈ system.db.work.packets, Hashed libs packet := by
  refine Run.invariant (fun system => ∀ packet ∈ system.db.work.packets, Hashed libs packet)
    ?_ ?_ hrun
  · exact fun pre label post => packets_step hashed_congr fun hlog =>
      (packetRecordFromSentLog_ok hlog).2.1
  · intro packet hpacket
    exact absurd hpacket (not_mem_empty packet)

/-! ## Receipts that contain the packet -/

/-- The log is a `PacketSent` of the endpoint with the packet's guid, route,
send library and encoded bytes. -/
def Carries (libs : Libraries) (packet : PacketRecord) (endpoint : Address) (log : Log) : Prop :=
  (endpoint = Address.zero ∨ log.address = endpoint) ∧
    ∃ record, packetRecordFromSentLog libs log = .ok record ∧
      record.guid = packet.guid ∧ record.route = packet.route ∧ record.sendLib = packet.sendLib ∧
      record.encodedPacket = packet.encodedPacket

/-- A receipt of the packet's source transaction that genuinely contains the
packet, in `log`.  Block numbers are 64-bit words. -/
structure Reincluded (libs : Libraries) (packet : PacketRecord)
    (endpoint : Address) (receipt : Receipt) (log : Log) : Prop where
  tx : receipt.txHash = packet.srcTxHash
  success : receipt.status = 1
  block : receipt.blockNumber = some log.blockNumber
  mined : 0 < log.blockNumber
  fits : log.blockNumber < 2 ^ 64
  blocks : ∀ other, some other ∈ receipt.logs → other.blockNumber = log.blockNumber
  indexes : ((receipt.logs.filterMap id).map Log.index).Nodup
  here : some log ∈ receipt.logs
  carries : Carries libs packet endpoint log
  only : ∀ other, some other ∈ receipt.logs → Carries libs packet endpoint other → other = log

theorem validateReceiptPacket_eq_none {expected actual : PacketRecord} :
    validateReceiptPacket expected actual = none ↔
      actual.guid = expected.guid ∧ actual.route = expected.route ∧
      actual.sendLib = expected.sendLib ∧ actual.payloadHash = expected.payloadHash ∧
      actual.encodedPacket = expected.encodedPacket := by
  unfold validateReceiptPacket PacketRecord.route
  rw [Route.mk.injEq]
  constructor
  · intro hvalid
    repeat' split at hvalid
    all_goals cases hvalid
    rename_i hguid heids happs hlib hhash hencoded
    tauto
  · rintro ⟨hguid, ⟨hsrc, hdst, hsender, hreceiver⟩, hlib, hhash, hencoded⟩
    simp [hguid, hsrc, hdst, hsender, hreceiver, hlib, hhash, hencoded]

variable {libs : Libraries} {packet : PacketRecord} {endpoint : Address} {receipt : Receipt}
  {log : Log}

theorem Carries.valid (hhashed : Hashed libs packet) (hcarries : Carries libs packet endpoint log) :
    ∃ record, packetRecordFromSentLog libs log = .ok record ∧ record.guid = packet.guid ∧
      validateReceiptPacket packet record = none := by
  obtain ⟨-, record, hdecoded, hguid, hroute, hlib, hencoded⟩ := hcarries
  refine ⟨record, hdecoded, hguid, validateReceiptPacket_eq_none.mpr
    ⟨hguid, hroute, hlib, ?_, hencoded⟩⟩
  have hrecord := (packetRecordFromSentLog_ok hdecoded).2.1
  unfold Hashed at hhashed hrecord
  rw [hrecord, hhashed, hencoded]

/-- The address check that the receipt check and the search for a re-included
log make. -/
theorem Carries.address (hcarries : Carries libs packet endpoint log) :
    ¬ (endpoint ≠ Address.zero ∧ log.address ≠ endpoint) := by
  rintro ⟨hendpoint, haddress⟩
  exact hcarries.1.elim hendpoint haddress

section

variable (hreincluded : Reincluded libs packet endpoint receipt log)

include hreincluded

theorem logAt_eq_some : logAt receipt log.index = some log := by
  cases hfound : logAt receipt log.index with
  | none =>
    have hnone := List.findSome?_eq_none_iff.mp hfound _ hreincluded.here
    simp at hnone
  | some other =>
    have hindex := logAt_index hfound
    obtain ⟨entry, hentry, hother⟩ := exists_of_findSome?_eq_some hfound
    cases entry with
    | none => cases hother
    | some candidate =>
      dsimp only at hother
      split at hother
      · cases hother
        exact congrArg some (inj_on_of_nodup_map hreincluded.indexes
          (mem_filterMap.mpr ⟨_, hentry, rfl⟩)
          (mem_filterMap.mpr ⟨_, hreincluded.here, rfl⟩) hindex)
      · cases hother

/-- The receipt check, once the hash and the status have been compared. -/
theorem Reincluded.verify_eq (hblock : log.blockNumber = packet.srcBlockNumber) :
    verifySourceReceiptForEndpoint libs packet (some receipt) endpoint =
      match logAt receipt packet.srcLogIndex with
      | none =>
        .error (.conflict s!"source receipt missing PacketSent log index {packet.srcLogIndex}")
      | some found => verifySourceLog libs packet receipt endpoint found := by
  have hsame : ¬ ∃ number ∈ receipt.blockNumber,
      number < 2 ^ 64 ∧ number ≠ packet.srcBlockNumber := by
    rintro ⟨number, hnumber, -, hne⟩
    rw [hreincluded.block] at hnumber
    cases hnumber
    exact hne hblock
  unfold verifySourceReceiptForEndpoint
  refine (if_neg (not_not.mpr hreincluded.tx)).trans ?_
  refine (if_neg (not_not.mpr hreincluded.success)).trans ?_
  exact if_neg hsame

theorem Reincluded.verified (hhashed : Hashed libs packet)
    (hblock : log.blockNumber = packet.srcBlockNumber) (hindex : log.index = packet.srcLogIndex) :
    ∃ report, verifySourceReceiptForEndpoint libs packet (some receipt) endpoint = .ok report := by
  obtain ⟨record, hdecoded, -, hvalid⟩ := hreincluded.carries.valid hhashed
  rw [hreincluded.verify_eq hblock, ← hindex, logAt_eq_some hreincluded]
  dsimp only
  rw [verifySourceLog, if_neg hreincluded.carries.address, if_neg (not_not.mpr hblock), hdecoded]
  dsimp only
  rw [hvalid]
  exact ⟨_, rfl⟩

/-- At the stored height, a log with another index is not found. -/
theorem Reincluded.conflicts (hblock : log.blockNumber = packet.srcBlockNumber)
    (hindex : log.index ≠ packet.srcLogIndex) :
    ∃ message, verifySourceReceiptForEndpoint libs packet (some receipt)
      endpoint = .error (.conflict message) := by
  rw [hreincluded.verify_eq hblock]
  cases hfound : logAt receipt packet.srcLogIndex with
  | none => exact ⟨_, rfl⟩
  | some other =>
    obtain ⟨entry, hentry, hother⟩ := exists_of_findSome?_eq_some hfound
    have hmem : some other ∈ receipt.logs := by
      cases entry with
      | none => cases hother
      | some candidate =>
        dsimp only at hother
        split at hother
        · cases hother
          exact hentry
        · cases hother
    have hforeign : ¬ Carries libs packet endpoint other := by
      intro hcarries
      have hsame := hreincluded.only other hmem hcarries
      exact hindex (hsame ▸ logAt_index hfound)
    dsimp only
    rw [verifySourceLog]
    by_cases haddress : endpoint ≠ Address.zero ∧ other.address ≠ endpoint
    · rw [if_pos haddress]
      exact ⟨_, rfl⟩
    rw [if_neg haddress, if_neg (not_not.mpr ((hreincluded.blocks other hmem).trans hblock))]
    cases hdecoded : packetRecordFromSentLog libs other with
    | error error => exact ⟨_, rfl⟩
    | ok record =>
      dsimp only
      cases hvalid : validateReceiptPacket packet record with
      | some error => exact ⟨_, rfl⟩
      | none =>
        obtain ⟨hguid, hroute, hlib, -, hencoded⟩ := validateReceiptPacket_eq_none.mp hvalid
        refine absurd ⟨?_, record, hdecoded, hguid, hroute, hlib, hencoded⟩ hforeign
        tauto

theorem Reincluded.reorganised (hblock : log.blockNumber ≠ packet.srcBlockNumber) :
    ∃ message, verifySourceReceiptForEndpoint libs packet (some receipt)
      endpoint = .error (.reorg message) := by
  rw [verifySourceReceiptForEndpoint, if_neg (not_not.mpr hreincluded.tx), if_neg (not_not.mpr
      hreincluded.success), if_pos]
  · exact ⟨_, rfl⟩
  · exact ⟨log.blockNumber, hreincluded.block, hreincluded.fits, hblock⟩

theorem Reincluded.located (hhashed : Hashed libs packet) :
    reorgedPacketRecord libs packet (some receipt) endpoint =
      some ⟨log.blockNumber, log.index⟩ := by
  have hlog : reorgedLog libs packet endpoint (some log) = some ⟨log.blockNumber, log.index⟩ := by
    obtain ⟨record, hdecoded, hguid, hvalid⟩ := hreincluded.carries.valid hhashed
    rw [reorgedLog, if_neg hreincluded.mined.ne', if_neg hreincluded.carries.address, hdecoded]
    exact if_pos ⟨hguid, hvalid⟩
  rw [reorgedPacketRecord]
  cases hfound : receipt.logs.findSome? (reorgedLog libs packet endpoint) with
  | none =>
    have hnone := List.findSome?_eq_none_iff.mp hfound _ hreincluded.here
    rw [hlog] at hnone
    cases hnone
  | some found =>
    obtain ⟨entry, hentry, hother⟩ := exists_of_findSome?_eq_some hfound
    cases entry with
    | none => cases hother
    | some candidate =>
      have hcarries : Carries libs packet endpoint candidate := by
        unfold reorgedLog at hother
        dsimp only at hother
        split at hother
        · cases hother
        split at hother
        · cases hother
        rename_i haddress
        split at hother
        · cases hother
        rename_i record hdecoded
        split at hother
        · rename_i hsame
          obtain ⟨hguid, hroute, hlib, -, hencoded⟩ := validateReceiptPacket_eq_none.mp hsame.2
          refine ⟨?_, record, hdecoded, hguid, hroute, hlib, hencoded⟩
          tauto
        · cases hother
      rw [hreincluded.only candidate hentry hcarries, hlog] at hother
      exact hother.symm

/-- The coordinates of a packet do not matter for what contains it. -/
theorem Reincluded.refreshed (coordinates : Coordinates) : Reincluded libs
      { packet with
        srcBlockNumber := coordinates.blockNumber
        srcLogIndex := coordinates.logIndex } endpoint receipt log :=
  { hreincluded with }

end

/-! ## The store calls -/

variable {db : DB} {now : Time} {job : DVNJobRow}

theorem statusIs_setDVNJob {work : WorkTables} {next : DVNJobRow} (hjob : job ∈ work.dvnJobs)
    (hguid : next.guid = job.guid) :
    statusIs (work.setDVNJob next) job.guid next.status = true := by
  refine statusIs_of_mem ?_ hguid rfl
  exact mem_set_self hjob hguid

theorem statusIs_markDVNReadyToVerify {result : QuorumResult} (hjob : job ∈ db.work.dvnJobs)
    (hstatus : job.status = .quorumChecking) (hguid : job.guid ≠ Hash.zero) :
    statusIs (markDVNReadyToVerify db now job.guid .quorumChecking
      (some result)).1.work job.guid .readyToVerify = true := by
  have hfind : db.work.dvnJobs.find job.guid = some job := find_eq_some.mpr ⟨hjob, rfl⟩
  rw [markDVNReadyToVerify, updateDVNWithResult, if_neg (by simp), updateDVNStatus, if_neg hguid]
  dsimp only
  rw [hfind]
  dsimp only
  rw [if_pos hstatus]
  exact statusIs_setDVNJob hjob rfl

theorem casCoordinates_stored {work : WorkTables} {next : Coordinates}
    (hpacket : packet ∈ work.packets) :
    work.casCoordinates packet.guid packet.coordinates next =
      { work with
        packets := work.packets.set
          { packet with
            srcBlockNumber := next.blockNumber
            srcLogIndex := next.logIndex } } := by
  have hstored : work.packets.find packet.guid = some packet :=
    find_eq_some.mpr ⟨hpacket, rfl⟩
  rw [WorkTables.casCoordinates, hstored]
  exact if_pos rfl

/-! ## The quorum pass -/

/-- What a quorum pass owes a packet whose receipt genuinely contains it. -/
structure Followed (libs : Libraries) (endpoint : Address) (receipt : Receipt)
    (log : Log) (item : DVNWorkItem) (call : Op) (post : DB) : Prop where
  ready : item.packet.coordinates = ⟨log.blockNumber, log.index⟩ →
    statusIs post.work item.packet.guid .readyToVerify = true
  refreshed : item.packet.coordinates ≠ ⟨log.blockNumber, log.index⟩ →
    statusIs post.work item.packet.guid .reorgDetected = true ∧
      ∃ packet ∈ post.work.packets, packet.guid = item.packet.guid ∧
        packet.coordinates = ⟨log.blockNumber, log.index⟩ ∧
        ∃ report, verifySourceReceiptForEndpoint libs packet (some receipt) endpoint = .ok report
  peaceful : ∀ reason now, call ≠ conflictCall item reason now

variable {config : WorkerConfig} {item : DVNWorkItem}

/-- The pass of a worker that reads the receipt and knows the endpoint. -/
theorem quorumCall_eq (hreader : config.hasReader item.packet.srcEID)
    (hendpoint : sourceEndpoint config item.packet.srcEID = some endpoint) :
    quorumCall libs config item (.ok (some receipt)) now =
      match verifySourceReceiptForEndpoint libs item.packet (some receipt) endpoint with
      | .error error =>
        evidenceErrorCall libs item (some receipt) endpoint error now
      | .ok report =>
        .work (.markDVNReadyToVerify now item.packet.guid .quorumChecking
          (some (.report report))) := by
  unfold quorumCall
  refine (if_neg (not_not.mpr hreader)).trans ?_
  exact hendpoint ▸ rfl

theorem checked_call {configs : ℕ → WorkerConfig} {system : System} {worker : ℕ}
    {reads : ReceiptReads} (hpass : system.workers worker = some (.checked item reads)) :
    WorkerStep libs configs system (.call worker now)
      (callStep system worker (some (quorumCall libs (configs worker) item reads now))) := by
  rw [WorkerStep, exec, hpass]
  rfl

/-- A receipt at the stored coordinates, or at another height, is followed. -/
theorem followed_of_kept (hhashed : Hashed libs item.packet)
    (hreincluded : Reincluded libs item.packet endpoint receipt log)
    (hreader : config.hasReader item.packet.srcEID)
    (hendpoint : sourceEndpoint config item.packet.srcEID = some endpoint)
    (hpacket : item.packet ∈ db.work.packets) (hjob : job ∈ db.work.dvnJobs)
    (hsame : job.guid = item.packet.guid) (hstatus : job.status = .quorumChecking)
    (hkept : log.blockNumber = item.packet.srcBlockNumber → log.index = item.packet.srcLogIndex) :
    Followed libs endpoint receipt log item (quorumCall libs config item (.ok (some receipt)) now)
      ((quorumCall libs config item (.ok (some receipt)) now).apply db) := by
  have hguid : item.packet.guid ≠ Hash.zero := by
    obtain ⟨-, record, hdecoded, hrecord, -⟩ := hreincluded.carries
    exact hrecord ▸ (packetRecordFromSentLog_ok hdecoded).2.2
  rw [quorumCall_eq hreader hendpoint]
  by_cases hblock : log.blockNumber = item.packet.srcBlockNumber
  · have hindex := hkept hblock
    have hhere : item.packet.coordinates = ⟨log.blockNumber, log.index⟩ := by
      rw [hblock, hindex]
      rfl
    obtain ⟨report, hverified⟩ := hreincluded.verified hhashed hblock hindex
    rw [hverified]
    refine ⟨fun _ => ?_, fun hmoved => absurd hhere hmoved, fun _ _ => nofun⟩
    rw [← hsame] at hguid ⊢
    exact statusIs_markDVNReadyToVerify hjob hstatus hguid
  · obtain ⟨message, hreorg⟩ := hreincluded.reorganised hblock
    have hfind : db.work.dvnJobs.find item.packet.guid = some job :=
      find_eq_some.mpr ⟨hjob, hsame⟩
    rw [hreorg]
    dsimp only [evidenceErrorCall]
    rw [hreincluded.located hhashed]
    refine ⟨fun hhere => ?_, fun _ => ?_, fun _ _ => nofun⟩
    · exact absurd (congrArg Coordinates.blockNumber hhere).symm hblock
    dsimp only [Op.apply, WorkOp.apply]
    rw [markDVNReorgDetectedWithCoordinates, if_neg hguid, hfind]
    dsimp only
    rw [if_pos hstatus]
    dsimp only [commit, DB.withWork]
    rw [casCoordinates_stored]
    · refine ⟨?_, _, mem_set_self hpacket rfl, rfl, rfl, ?_⟩
      · rw [← hsame]
        exact statusIs_setDVNJob hjob rfl
      · exact (hreincluded.refreshed ⟨log.blockNumber, log.index⟩).verified hhashed rfl rfl
    · exact hpacket

/-- A quorum pass over a job that is still as listed follows a genuine receipt
of its packet exactly when the packet's log has not moved within the block
height it was stored at. -/
theorem reinclusion_followed_iff {libs : Libraries} {configs : ℕ → WorkerConfig}
    {history : List (Event System Label)} {system post : System} {worker : ℕ} {listedAt now : Time}
    {item : DVNWorkItem} {rest : List DVNWorkItem} {receipt : Receipt} {endpoint : Address}
    {log : Log} (hrun : WorkerRun libs configs history system)
    (hpass : system.workers worker = some (.checked item (.ok (some receipt))))
    (hlisted : listDVNWork system.db listedAt .quorumChecking 1 = .ok (item :: rest))
    (hreader : (configs worker).hasReader item.packet.srcEID)
    (hendpoint : sourceEndpoint (configs worker) item.packet.srcEID = some endpoint)
    (hreincluded : Reincluded libs item.packet endpoint receipt log)
    (hstep : WorkerStep libs configs system (.call worker now) post) :
    Followed libs endpoint receipt log item
        (quorumCall libs (configs worker) item (.ok (some receipt)) now) post.db ↔
      (log.blockNumber = item.packet.srcBlockNumber → log.index = item.packet.srcLogIndex) := by
  have hpost : post.db = (quorumCall libs (configs worker) item (.ok (some receipt)) now).apply
        system.db := by
    rw [WorkerStep, checked_call hpass, Option.some.injEq] at hstep
    rw [← hstep]
    rfl
  rw [hpost]
  constructor
  · intro hfollowed hblock
    by_contra hindex
    obtain ⟨reason, hconflict⟩ := hreincluded.conflicts hblock hindex
    have hcall := @quorumCall_eq libs endpoint receipt now (configs worker) item hreader hendpoint
    rw [hconflict] at hcall
    exact hfollowed.peaceful reason now hcall
  · intro hkept
    obtain ⟨packet, hpacket, job, hjob, hsame, hstatus, rfl⟩ :=
      listDVNWork_mem hlisted mem_cons_self
    exact followed_of_kept (hashed_of_run hrun packet hpacket) hreincluded
      hreader hendpoint hpacket hjob hsame hstatus hkept

/-! ## Two re-inclusions of the sample packet -/

/-- The columns of the sample packet that a receipt is compared with. -/
structure SamplePacket (packet : PacketRecord) : Prop where
  guid : packet.guid = sampleGUID
  route : packet.route = sampleRoute
  sendLib : packet.sendLib = .ofNat 20 0x33
  encoded : packet.encodedPacket = samplePacket
  tx : packet.srcTxHash = .ofNat 32 0x55
  source : packet.srcEID = 1
  coordinates : packet.coordinates = ⟨10, 0⟩

/-- The receipt of the sample transaction at other coordinates. -/
def sampleBody (blockNumber index : ℕ) : Receipt where
  txHash := .ofNat 32 0x55
  status := 1
  blockNumber := some blockNumber
  blockHash := .ofNat 32 blockNumber
  gasUsed := 21000
  effectiveGasPrice := some 1
  logs := [some (sampleLog blockNumber index)]

theorem sampleLog_carries (hsample : SamplePacket packet) (blockNumber index : ℕ) :
    Carries sampleLibraries packet (.ofNat 20 0x44) (sampleLog blockNumber index) := by
  have hdecodes : (decodePacketV1 sampleLibraries samplePacket).toOption.any
      (fun decoded => decoded.guid = sampleGUID ∧
        (⟨decoded.srcEID, decoded.dstEID, decoded.sender,
          decoded.receiver⟩ : Route) = sampleRoute) = true := by
    decide +kernel
  have hsent : decodePacketSent sampleLibraries (sampleLog blockNumber index) =
      .ok ⟨samplePacket, [], .ofNat 20 0x33⟩ := by
    have hunpacked : sampleLibraries.unpackPacketSent (abiWord 96 ++ abiWord 256 ++ abiWord 0x33 ++
        abiBytes samplePacket ++ abiBytes []) = .ok ⟨samplePacket, [], .ofNat 20 0x33⟩ := by
      decide +kernel
    rw [decodePacketSent, sampleLog, hunpacked]
    exact if_pos rfl
  refine ⟨.inr rfl, ?_⟩
  rw [packetRecordFromSentLog, hsent]
  cases hpacket : decodePacketV1 sampleLibraries samplePacket with
  | error error =>
    rw [hpacket] at hdecodes
    cases hdecodes
  | ok decoded =>
    rw [hpacket] at hdecodes
    obtain ⟨hguid, hroute⟩ := of_decide_eq_true hdecodes
    dsimp only
    rw [hpacket]
    exact ⟨_, rfl, hguid.trans hsample.guid.symm,
      hroute.trans hsample.route.symm, hsample.sendLib.symm, hsample.encoded.symm⟩

theorem sampleBody_reincluded (hsample : SamplePacket packet) {blockNumber : ℕ} (index : ℕ)
    (hmined : 0 < blockNumber) (hfits : blockNumber < 2 ^ 64) :
    Reincluded sampleLibraries packet (.ofNat 20 0x44)
      (sampleBody blockNumber index) (sampleLog blockNumber index) where
  tx := hsample.tx.symm
  success := rfl
  block := rfl
  mined := hmined
  fits := hfits
  blocks other hother := by
    cases mem_singleton.mp hother
    rfl
  indexes := nodup_singleton _
  here := mem_singleton_self _
  carries := sampleLog_carries hsample blockNumber index
  only other hother _ := by
    cases mem_singleton.mp hother
    rfl

/-- The sample packet up to the listing of its quorum pass. -/
def sampleListed : List Label := sampleIndexed ++ (sampleConfirm 1 2 14 ++ [.call 1 0]) ++
    [.enter 1 .processQuorumOnce, .list 1 0]

/-- The sample pass holds the one item the listing returns. -/
def sampleHeld (system : System) : Bool :=
  match system.workers 1, listDVNWork system.db 0 .quorumChecking 1 with
  | some (.checking item), .ok [listed] =>
    decide (item.packet = listed.packet ∧ item.job = listed.job ∧
      item.packet.guid = sampleGUID ∧ item.packet.route = sampleRoute ∧
      item.packet.sendLib = .ofNat 20 0x33 ∧
      item.packet.encodedPacket = samplePacket ∧
      item.packet.srcTxHash = .ofNat 32 0x55 ∧ item.packet.srcEID = 1 ∧
      item.packet.coordinates = ⟨10, 0⟩)
  | _, _ => false

theorem sample_checking : ∃ history system item,
      WorkerRun sampleLibraries sampleConfigs history system ∧
      system.workers 1 = some (.checking item) ∧
      listDVNWork system.db 0 .quorumChecking 1 = .ok [item] ∧ SamplePacket item.packet := by
  have hperformed : (perform (exec sampleLibraries sampleConfigs) (fun _ _ => true) System.empty
      sampleListed.reverse).any sampleHeld = true := by decide +kernel
  obtain ⟨history, system, hrun, -, -, hcheck⟩ := exists_run_of_perform hperformed
  unfold sampleHeld at hcheck
  split at hcheck
  · rename_i item listed hworker hlisted
    obtain ⟨hpacket, hjob, hguid, hroute, hlib, hencoded, htx, hsource,
      hcoordinates⟩ := of_decide_eq_true hcheck
    have hitem : listed = item := by
      cases listed
      cases item
      cases hpacket
      cases hjob
      rfl
    exact ⟨history, system, item, hrun, hworker, hitem ▸ hlisted,
      ⟨hguid, hroute, hlib, hencoded, htx, hsource, hcoordinates⟩⟩
  · cases hcheck

theorem sample_checked (blockNumber index : ℕ) : ∃ history system post item,
      WorkerRun sampleLibraries sampleConfigs history system ∧ system.workers 1 =
        some (.checked item (.ok (some (sampleBody blockNumber index)))) ∧
      listDVNWork system.db 0 .quorumChecking 1 = .ok [item] ∧ SamplePacket item.packet ∧
      WorkerStep sampleLibraries sampleConfigs system (.call 1 0) post := by
  obtain ⟨history, system, item, hrun, hpass, hlisted, hsample⟩ := sample_checking
  have hread : WorkerStep sampleLibraries sampleConfigs system
      (.readReceipt 1 (.ok (some (sampleBody blockNumber index))))
      (system.setWorker 1 (some (.checked item (.ok (some (sampleBody blockNumber index)))))) := by
    rw [WorkerStep, exec, hpass]
  have hchecked : (system.setWorker 1 (some (.checked item
      (.ok (some (sampleBody blockNumber index)))))).workers 1 =
        some (.checked item (.ok (some (sampleBody blockNumber index)))) := by
    rw [setWorker_workers, if_pos rfl]
  exact ⟨_, _, _, item, hrun.extend hread, hchecked, hlisted, hsample, checked_call hchecked⟩

/-- The sample packet, stored at block 10, found again in block 14. -/
theorem reinclusion_elsewhere_followed : ∃ history system post item,
      WorkerRun sampleLibraries sampleConfigs history system ∧
      Reincluded sampleLibraries item.packet (.ofNat 20 0x44)
        (sampleBody 14 3) (sampleLog 14 3) ∧
      WorkerStep sampleLibraries sampleConfigs system (.call 1 0) post ∧
      Followed sampleLibraries (.ofNat 20 0x44) (sampleBody 14 3) (sampleLog 14 3) item
        (quorumCall sampleLibraries (sampleConfigs 1) item
          (.ok (some (sampleBody 14 3))) 0) post.db := by
  obtain ⟨history, system, post, item, hrun, hpass, hlisted, hsample, hcall⟩ := sample_checked 14 3
  have hreincluded := sampleBody_reincluded hsample 3
    (show 0 < 14 by decide) (show 14 < 2 ^ 64 by decide)
  refine ⟨history, system, post, item, hrun, hreincluded, hcall,
    (reinclusion_followed_iff hrun hpass hlisted rfl rfl hreincluded hcall).mpr fun hblock => ?_⟩
  have hstored := congrArg Coordinates.blockNumber hsample.coordinates
  exact absurd (hblock.trans hstored) (by decide)

/-- A re-inclusion in another block of the same height, where the packet's log
has become the second one: the job is parked with a conflict, and the worker
is about to pause the pathway. -/
theorem reinclusion_at_height_conflicts : ∃ history system post item,
      WorkerRun sampleLibraries sampleConfigs history system ∧ system.workers 1 =
        some (.checked item (.ok (some (sampleBody 10 1)))) ∧
      listDVNWork system.db 0 .quorumChecking 1 = .ok [item] ∧
      Reincluded sampleLibraries item.packet (.ofNat 20 0x44)
        (sampleBody 10 1) (sampleLog 10 1) ∧
      WorkerStep sampleLibraries sampleConfigs system (.call 1 0) post ∧
      statusIs post.db.work item.packet.guid .quorumConflict = true ∧
      post.workers 1 = some (.pausing item.packet.guid) := by
  obtain ⟨history, system, post, item, hrun, hpass, hlisted, hsample, hcall⟩ := sample_checked 10 1
  have hreincluded := sampleBody_reincluded hsample 1
    (show 0 < 10 by decide) (show 10 < 2 ^ 64 by decide)
  refine ⟨history, system, post, item, hrun, hpass, hlisted, hreincluded, hcall, ?_⟩
  have hblock : item.packet.srcBlockNumber = 10 :=
    congrArg Coordinates.blockNumber hsample.coordinates
  have hindex : item.packet.srcLogIndex = 0 := congrArg Coordinates.logIndex hsample.coordinates
  have hconflict : quorumCall sampleLibraries (sampleConfigs 1) item
      (.ok (some (sampleBody 10 1))) 0 =
        conflictCall item "source receipt missing PacketSent log index 0"
          0 := by
    rw [quorumCall_eq rfl rfl, hreincluded.verify_eq hblock.symm, hindex]
    rfl
  obtain ⟨packet, hpacket, job, hjob, hsame, hstatus, rfl⟩ := listDVNWork_mem hlisted mem_cons_self
  have hguid : job.guid ≠ Hash.zero := by
    rw [hsame, hsample.guid]
    decide +kernel
  rw [WorkerStep, checked_call hpass, Option.some.injEq] at hcall
  rw [← hcall, hconflict]
  dsimp only [callStep]
  rw [setWorker_workers, if_pos rfl]
  dsimp only [System.setWorker, afterCall, conflictCall, Op.apply, WorkOp.apply]
  rw [markDVNQuorumConflict, if_neg (by decide), updateDVNStatus, if_neg (hsame ▸ hguid)]
  dsimp only
  rw [find_eq_some.mpr ⟨hjob, hsame⟩]
  dsimp only
  rw [if_pos hstatus]
  refine ⟨?_, rfl⟩
  rw [← hsame]
  exact statusIs_setDVNJob hjob rfl

end Lazier.DVN
