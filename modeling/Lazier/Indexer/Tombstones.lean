import Lazier.Indexer.Assignments
import Lazier.Indexer.ForeignLogs
import Lazier.Store.Operations

/-!
# Tombstones of skipped packets

A source stream leaves a tombstone for every packet that it skips on purpose,
one per role.  A destination log of such a packet must not hold back the
destination cursor, and a log of a packet that has neither a tombstone nor a
job yet must.  Packet rows are shared by both roles, so a packet that one role
has skipped may have been stored by the other.  The executor stream looks for
the tombstone with and without the row, the DVN stream only without it.
-/

namespace Lazier.Indexer

open Chain Library LZ Store

variable {Job : Type} {packet : PacketRecord}

/-! ## Logs without a job -/

/-- The packet is one of an enabled pathway into the indexed chain. -/
structure Watched (stream : Stream) (identity : DestinationPacketIdentity)
    (pathway : Pathway) : Prop where
  configured : pathwayFor stream.pathways identity.route = some pathway
  enabled : pathway.enabled = true
  indexed : pathway.route.dstEID = stream.dstEID

/-- The identity of a packet as its row has it. -/
def rowIdentity (packet : PacketRecord) : DestinationPacketIdentity :=
  ⟨packet.route, packet.nonce % 2 ^ 64⟩

/-- An endpoint log of an enabled pathway whose packet has no executor job.
`stored` is the packet's row, if there is one. -/
structure ExecutorJobless (libs : EventLibraries) (stream : Stream) (db : DB)
    (log : Log) (stored : Option PacketRecord) (identity : DestinationPacketIdentity) : Prop where
  found : packetForDestinationLog libs db stream.dstEID log = .ok (some stored)
  unstored : stored = none → ∃ event, destinationEvent libs log = .ok (some event) ∧
      identity = event.identity stream.dstEID
  row : ∀ packet, stored = some packet → identity = rowIdentity packet
  watched : ∃ pathway, Watched stream identity pathway
  jobless : ∀ packet, stored = some packet → getExecutorJob db packet.guid = .ok none

/-- A verification on an enabled pathway, by any DVN, whose packet has no DVN
job. -/
structure DVNJobless (libs : EventLibraries) (stream : Stream) (db : DB)
    (log : Log) (event : PayloadVerified) (pathway : Pathway) (stored : Option PacketRecord)
    (identity : DestinationPacketIdentity) : Prop where
  decoded : decodePayloadVerified libs log = .ok event
  found : getPacketByVerification db stream.dstEID event.header event.proofHash = .ok stored
  unstored : stored = none → ∃ header, DVN.decodePacketV1Header event.header = .ok header ∧
      identity = ⟨⟨header.srcEID, stream.dstEID, header.sender, header.receiver⟩, header.nonce⟩
  row : ∀ packet, stored = some packet → identity = rowIdentity packet
  watched : Watched stream identity pathway
  jobless : ∀ packet, stored = some packet → getDVNJob db packet.guid = .ok none

/-- The log sets the pending flag. -/
def setsPending (step : Progress → Time × Log → Progress × Option StoreError)
    (db : DB) (now : Time) (log : Log) : Bool := (step ⟨db, 0, false⟩ (now, log)).1.pending

/-- A skipped packet never holds the stream back, whoever emitted the log.  A
log of the configured worker holds it back as long as the packet is neither
skipped nor assigned. -/
def Releases (pending : Bool) (own : Prop) (skipped : Bool) : Prop :=
  (skipped = true → pending = false) ∧ (own → skipped = false → pending = true)

/-- The stream waits for its own worker's logs of unskipped packets and skips
the others. -/
def WaitsForOwn (own : Prop) [Decidable own] (skipped : Bool)
    (decision : Except StoreError (Decision Job)) : Prop :=
  ∃ reason, decision = .ok (if own ∧ skipped = false then .pending reason else .skip reason)

theorem releases_logStep {decideLog : DB → Log → Except StoreError (Decision Job)}
    {applyLog : DB → Time → PacketRecord → Job → Log → Result Bool} {db : DB} {now : Time}
    {log : Log} {own : Prop} [Decidable own] {skipped : Bool}
    (hdecision : WaitsForOwn own skipped (decideLog db log)) :
    Releases (setsPending (logStep decideLog applyLog) db now log) own skipped := by
  obtain ⟨reason, hdecision⟩ := hdecision
  unfold setsPending logStep
  rw [hdecision]
  constructor
  · intro hskipped
    simp [hskipped]
  · intro hown hskipped
    simp [hown, hskipped]

/-! ## The executor stream -/

variable {libs : EventLibraries} {stream : Stream} {db : DB} {log : Log}
  {identity : DestinationPacketIdentity} {skipped : Bool}

theorem Watched.row_dstEID {pathway : Pathway} (hwatched : Watched stream identity pathway)
    (hidentity : identity = rowIdentity packet) : packet.dstEID = stream.dstEID := by
  have hroute := List.find?_some hwatched.configured
  rw [decide_eq_true_eq, hidentity] at hroute
  rw [← hwatched.indexed, hroute]
  rfl

/-- The stream identifies the packet of every log but the alerts of other
executors. -/
theorem executorDestinationLogIdentity_event {event : DestinationEvent}
    (hevent : destinationEvent libs log = .ok (some event)) :
    executorDestinationLogIdentity libs stream log =
      .ok (if executorDestinationLogExecutorAllowed libs stream log then
        some (event.identity stream.dstEID) else none) := by
  cases event with
  | verified event | delivered event =>
    have hcarries : Carries libs stream log _ := .of_event hevent (by simp)
    rw [hcarries.identified, hcarries.allowed]
    rfl
  | alert event =>
    have hhead : log.topics.head? = some libs.lzReceiveAlertTopic := destinationEvent_topic hevent
    rw [executorDestinationLogIdentity, hevent, executorDestinationLogExecutorAllowed]
    by_cases hany : stream.expectedExecutor = Address.zero
    · simp [hany, Except.map, DestinationEvent.identity]
    · by_cases hexecutor : event.executor = stream.expectedExecutor <;>
        simp [hany, hhead, decode_of_alert hevent, hexecutor, Except.map, DestinationEvent.identity]

section

variable (hskipped : sourcePacketWasSkipped db sourceRoleExecutor identity = .ok skipped)

include hskipped

theorem ExecutorJobless.decide_unstored
    (hjobless : ExecutorJobless libs stream db log none identity) :
    WaitsForOwn (executorDestinationLogExecutorAllowed libs stream log = true) skipped
      (decideExecutorLog libs stream db log) := by
  obtain ⟨pathway, hwatched⟩ := hjobless.watched
  obtain ⟨event, hevent, rfl⟩ := hjobless.unstored rfl
  have hidentity : executorDestinationLogIdentity libs stream log = _ :=
    executorDestinationLogIdentity_event hevent
  have hpathways : stream.pathways.isEmpty = false :=
    List.isEmpty_eq_false_iff.mpr (List.ne_nil_of_mem (pathwayFor_mem hwatched.configured))
  rw [decideExecutorLog, hjobless.found]
  dsimp only
  by_cases hown : executorDestinationLogExecutorAllowed libs stream log = true
  · rw [if_pos hown] at hidentity
    have hpathway : executorDestinationLogPathway libs stream log = .ok (some pathway) := by
      rw [executorDestinationLogPathway, hpathways, hidentity]
      exact congrArg Except.ok hwatched.configured
    have htombstone : executorSourcePacketWasSkipped libs stream db log = .ok skipped := by
      rw [executorSourcePacketWasSkipped, hidentity]
      exact hskipped
    rw [decideUnknownPacket, hpathway]
    dsimp only
    rw [if_pos hwatched.enabled, htombstone]
    cases skipped <;> simp [WaitsForOwn, hown]
  · -- An alert of another executor has no pathway.
    rw [decideUnknownPacket, executorDestinationLogPathway, hpathways, hidentity]
    exact ⟨"unknown_pathway", by simp [hown, Except.map]⟩

theorem ExecutorJobless.decide_stored
    (hjobless : ExecutorJobless libs stream db log (some packet) identity) :
    WaitsForOwn (executorDestinationLogExecutorAllowed libs stream log = true) skipped
      (decideExecutorLog libs stream db log) := by
  obtain ⟨pathway, hwatched⟩ := hjobless.watched
  have hidentity := hjobless.row packet rfl
  rw [decideExecutorLog, hjobless.found]
  dsimp only
  rw [if_neg (not_not.mpr (hwatched.row_dstEID hidentity))]
  by_cases hown : executorDestinationLogExecutorAllowed libs stream log = true
  · rw [if_neg (not_not.mpr hown), hjobless.jobless packet rfl]
    have hconfigured := hwatched.configured
    rw [hidentity] at hconfigured hskipped
    dsimp only [rowIdentity] at hconfigured hskipped ⊢
    rw [decideMissingJob, hconfigured]
    dsimp only
    rw [if_pos hwatched.enabled, hskipped]
    cases skipped <;> simp [WaitsForOwn, hown]
  · simp [WaitsForOwn, hown]

end

/-! ## The DVN stream -/

variable {event : PayloadVerified} {pathway : Pathway}

theorem topic_of_payloadVerified (hdecoded : decodePayloadVerified libs log = .ok event) :
    log.topics.head? = some libs.payloadVerifiedTopic := by
  by_contra hhead
  rw [decodePayloadVerified, decodeLog, if_neg hhead] at hdecoded
  cases hdecoded

/-- A verification of the row that the lookup found can only lack
confirmations. -/
theorem validatePayloadVerified_found {dstEID : ℕ}
    (hfound : getPacketByVerification db dstEID event.header event.proofHash = .ok (some packet)) :
    validatePayloadVerified packet event =
      if event.confirmations = 0 then
        some (.message "PayloadVerified confirmations must be positive")
      else none := by
  unfold getPacketByVerification at hfound
  split_ifs at hfound
  rw [Except.ok.injEq] at hfound
  have htest := List.find?_some hfound
  simp only [decide_eq_true_eq] at htest
  obtain ⟨-, hheader, hhash⟩ := htest
  rw [validatePayloadVerified, if_neg (not_not.mpr hheader.symm), if_neg (not_not.mpr hhash.symm)]

theorem DVNJobless.decide_unstored
    (hjobless : DVNJobless libs stream db log event pathway none identity)
    (hskipped : sourcePacketWasSkipped db sourceRoleDVN identity = .ok skipped) :
    WaitsForOwn (event.dvn = pathway.openDVN) skipped (decideDVNLog libs stream db log) := by
  obtain ⟨header, hheader, hidentity⟩ := hjobless.unstored rfl
  have hconfigured := hjobless.watched.configured
  rw [hidentity] at hconfigured hskipped
  have hpathway : pathwayForPayloadVerified stream event = some pathway := by
    rw [pathwayForPayloadVerified, hheader]
    exact hconfigured
  have htombstone : dvnSourcePacketWasSkipped db stream.dstEID event = .ok skipped := by
    rw [dvnSourcePacketWasSkipped, hheader]
    exact hskipped
  rw [decideDVNLog, if_neg (not_not.mpr (topic_of_payloadVerified hjobless.decoded)),
    hjobless.decoded]
  dsimp only
  rw [hjobless.found]
  dsimp only
  rw [decideUnknownVerification, hpathway]
  by_cases hown : event.dvn = pathway.openDVN
  · dsimp only
    rw [if_pos ⟨hjobless.watched.enabled, hown⟩, htombstone]
    cases skipped <;> simp [WaitsForOwn, hown]
  · simp [WaitsForOwn, hown]

/-- With the row present the tombstone is not read. -/
theorem DVNJobless.decide_stored
    (hjobless : DVNJobless libs stream db log event pathway (some packet) identity) :
    decideDVNLog libs stream db log =
      if event.dvn ≠ pathway.openDVN then .ok (.skip "unexpected_worker")
      else if event.confirmations = 0 then
        .error (.message "PayloadVerified confirmations must be positive")
      else .ok (.pending "pending_dvn_job") := by
  have hconfigured := hjobless.watched.configured
  rw [hjobless.row packet rfl] at hconfigured
  dsimp only [rowIdentity] at hconfigured
  rw [decideDVNLog, if_neg (not_not.mpr (topic_of_payloadVerified hjobless.decoded)),
    hjobless.decoded]
  dsimp only
  rw [hjobless.found]
  dsimp only
  rw [if_neg (not_not.mpr (getPacketByVerification_dstEID hjobless.found)), hconfigured]
  dsimp only
  rw [decideVerification, validatePayloadVerified_found hjobless.found]
  by_cases hconfirmations : event.confirmations = 0
  · rw [if_pos hconfirmations, if_pos hconfirmations]
  · rw [if_neg hconfirmations, if_neg hconfirmations, hjobless.jobless packet rfl]
    dsimp only
    rw [if_pos hjobless.watched.enabled]

theorem DVNJobless.pending_stored
    (hjobless : DVNJobless libs stream db log event pathway (some packet) identity) (now : Time) :
    setsPending (dvnLogStep libs stream) db now log =
      decide (event.dvn = pathway.openDVN ∧ 0 < event.confirmations) := by
  rw [setsPending, dvnLogStep, logStep, hjobless.decide_stored]
  by_cases hown : event.dvn = pathway.openDVN
  · by_cases hconfirmations : event.confirmations = 0
    · simp [hown, hconfirmations]
    · simp [hown, hconfirmations, Nat.pos_of_ne_zero hconfirmations]
  · simp [hown]

/-- The executor stream is released by every tombstone and waits for every log
of its own executor without one.  So does the DVN stream as long as the
packet's row is not stored.  With the row present it waits for the
verifications of its own DVN regardless of the tombstone, unless they report no
confirmations, which it refuses. -/
theorem tombstones_release_streams_iff (libs : EventLibraries)
    (stream : Stream) (db : DB) (now : Time) (log : Log) :
    (∀ stored identity skipped, ExecutorJobless libs stream db log stored identity →
      sourcePacketWasSkipped db sourceRoleExecutor identity = .ok skipped →
      Releases (setsPending (executorLogStep libs stream) db now log)
        (executorDestinationLogExecutorAllowed libs stream log = true) skipped) ∧
    (∀ event pathway stored identity skipped,
      DVNJobless libs stream db log event pathway stored identity →
      sourcePacketWasSkipped db sourceRoleDVN identity = .ok skipped →
      (Releases (setsPending (dvnLogStep libs stream) db now log)
          (event.dvn = pathway.openDVN) skipped ↔
        stored = none ∨ event.dvn ≠ pathway.openDVN ∨
          (skipped = false ↔ 0 < event.confirmations))) := by
  constructor
  · intro stored identity skipped hjobless hskipped
    cases stored with
    | none => exact releases_logStep (hjobless.decide_unstored hskipped)
    | some packet => exact releases_logStep (hjobless.decide_stored hskipped)
  · intro event pathway stored identity skipped hjobless hskipped
    cases stored with
    | none => exact iff_of_true (releases_logStep (hjobless.decide_unstored hskipped)) (.inl rfl)
    | some packet =>
      rw [hjobless.pending_stored now, Releases]
      by_cases hown : event.dvn = pathway.openDVN <;> cases skipped <;> simp [hown]

/-! ## A packet stored by one role and skipped by the other -/

def sentRoute : Route := ⟨40161, 40449, .ofNat 20 0x11, .ofNat 20 0x22⟩

def sentStream : Stream where
  dstEID := 40449
  pathways := [⟨sentRoute, true, .ofNat 20 0x77⟩]
  expectedExecutor := .ofNat 20 0x55

/-- The row of the sent packet as a source stream stores it. -/
def storedRecord : PacketRecord :=
  { sentRecord 7 (type3Options [lzReceiveEntry]) 4 with status := .assigned }

/-- The source stream of one role has stored the packet, that of the other has
skipped it, since another worker was paid. -/
def skippedStore (role : String) : DB :=
  [Op.work (.syncConfig ⟨[40161, 40449], [⟨sentRoute, true⟩]⟩), .work (.upsertPacket storedRecord),
    .work (.recordSourcePacketSkip
      ⟨⟨role, sentRoute, 7⟩, sentGUID 7, .ofNat 32 0xaa, 123, 4, "unexpected_worker",
        some (.ofNat 20 0x88)⟩)].foldl (fun db op => op.apply db) DB.empty

/-- The verification of the packet by a DVN. -/
def sentVerification (dvn : ℕ) : PayloadVerified :=
  ⟨.ofNat 20 dvn, (sentPacket 7).take 81, 12, sentDigest (sentGUID 7).1⟩

def verificationLog (dvn : ℕ) : Log := eventLog abiEvents.payloadVerifiedTopic
  (abiWord dvn ++ abiWord 128 ++ abiWord 12 ++ (sentDigest (sentGUID 7).1).1 ++
    abiBytes ((sentPacket 7).take 81))

/-- The endpoint's `PacketVerified` of the packet. -/
def committedLog : Log := eventLog abiEvents.packetVerifiedTopic
  (abiWord 40161 ++ abiWord 0x11 ++ abiWord 7 ++ abiWord 0x22 ++ (sentDigest (sentGUID 7).1).1)

theorem committedLog_jobless : ExecutorJobless abiEvents sentStream
      (skippedStore sourceRoleExecutor) committedLog (some storedRecord) ⟨sentRoute, 7⟩ where
  found := by decide +kernel
  unstored := nofun
  row packet hpacket := by
    cases hpacket
    decide
  watched := ⟨⟨sentRoute, true, .ofNat 20 0x77⟩, by decide, rfl, rfl⟩
  jobless packet hpacket := by
    cases hpacket
    decide +kernel

theorem verificationLog_jobless {dvn : ℕ} (hdecoded :
      decodePayloadVerified abiEvents (verificationLog dvn) = .ok (sentVerification dvn)) :
    DVNJobless abiEvents sentStream (skippedStore sourceRoleDVN) (verificationLog dvn)
      (sentVerification dvn) ⟨sentRoute, true, .ofNat 20 0x77⟩ (some storedRecord)
      ⟨sentRoute, 7⟩ where
  decoded := hdecoded
  found := by
    change getPacketByVerification _ _ ((sentPacket 7).take 81) (sentDigest (sentGUID 7).1) = _
    decide +kernel
  unstored := nofun
  row packet hpacket := by
    cases hpacket
    decide
  watched := ⟨by decide, rfl, rfl⟩
  jobless packet hpacket := by
    cases hpacket
    decide +kernel

/-- The tombstones release the executor stream, and the DVN stream from the
verification by the DVN that was paid. -/
theorem skippedPacket_releases_streams :
    setsPending (executorLogStep abiEvents sentStream) (skippedStore sourceRoleExecutor) 0
        committedLog = false ∧
      setsPending (dvnLogStep abiEvents sentStream) (skippedStore sourceRoleDVN) 0
        (verificationLog 0x88) = false := by
  have hexecutor := (tombstones_release_streams_iff abiEvents sentStream
    (skippedStore sourceRoleExecutor) 0 committedLog).1 _ _ true committedLog_jobless
      (by decide +kernel)
  have hdvn := (tombstones_release_streams_iff abiEvents sentStream
    (skippedStore sourceRoleDVN) 0 (verificationLog 0x88)).2 _ _ _ _ true
      (verificationLog_jobless (by decide +kernel)) (by decide +kernel)
  exact ⟨hexecutor.1 rfl, (hdvn.mpr (.inr (.inl (by decide)))).1 rfl⟩

/-- The tombstone of the skipped packet does not release the DVN stream from
the verification by its own DVN. -/
theorem storedTombstone_stalls_dvn_stream : DVNJobless abiEvents sentStream
        (skippedStore sourceRoleDVN) (verificationLog 0x77)
        (sentVerification 0x77) ⟨sentRoute, true, .ofNat 20 0x77⟩ (some storedRecord)
        ⟨sentRoute, 7⟩ ∧
      sourcePacketWasSkipped (skippedStore sourceRoleDVN) sourceRoleDVN ⟨sentRoute, 7⟩ = .ok true ∧
      setsPending (dvnLogStep abiEvents sentStream) (skippedStore sourceRoleDVN) 0
        (verificationLog 0x77) = true := by
  have hdecoded : decodePayloadVerified abiEvents (verificationLog 0x77) =
      .ok (sentVerification 0x77) := by decide +kernel
  have hjobless := verificationLog_jobless hdecoded
  refine ⟨hjobless, by decide +kernel, ?_⟩
  rw [hjobless.pending_stored 0]
  decide

end Lazier.Indexer
