import Lazier.DVN.Evidence
import Lazier.Executor.Readiness
import Lazier.LZ.Entries

/-!
# Admission of executor assignments

The executor's assignment log carries the options the send library passed to
it, the packet record those of the whole message.  A job is admitted on the
first and its delivery is built on the second, so an admitted job can be built
exactly when the message has no options for other workers.
-/

namespace Lazier.Indexer

open DVN Executor LZ Store FixedBytes

/-! ## Admission -/

/-- `lzabi.ExecutorJobAssigned`. -/
structure ExecutorJobAssigned where
  dstEID : ℕ
  sender : Address
  sendLib : Address
  price : ℕ
  options : Bytes
  deriving DecidableEq

/-- `ExecutorJobFromAssignment`. -/
def executorJobFromAssignment (packet : PacketRecord) (assignment : ExecutorJobAssigned) :
    Except String ExecutorJobRecord :=
  if packet.dstEID ≠ assignment.dstEID then
    .error (s!"executor assignment dst eid {assignment.dstEID} does not match packet dst eid " ++
      s!"{packet.dstEID}")
  else if packet.sender ≠ assignment.sender then
    .error (s!"executor assignment sender {assignment.sender.hex} does not match packet sender " ++
      packet.sender.hex)
  else if packet.sendLib ≠ assignment.sendLib then
    .error (s!"executor assignment send lib {assignment.sendLib.hex} does not match packet send " ++
      s!"lib {packet.sendLib.hex}")
  else
    match decodeExecutorOptions assignment.options with
    | .error error =>
      .ok
        { guid := packet.guid
          assignedFee := some assignment.price
          status := .manualReview
          lastError := s!"unsupported executor options: {error}" }
    | .ok _ =>
      .ok
        { guid := packet.guid
          assignedFee := some assignment.price
          status := .assigned
          lastError := "" }

theorem options_of_assigned {packet : PacketRecord} {assignment : ExecutorJobAssigned}
    {job : ExecutorJobRecord} (hjob : executorJobFromAssignment packet assignment = .ok job)
    (hassigned : job.status = .assigned) :
    ∃ options, decodeExecutorOptions assignment.options = .ok options := by
  unfold executorJobFromAssignment at hjob
  split_ifs at hjob
  split at hjob
  · cases hjob
    cases hassigned
  · rename_i options hoptions
    exact ⟨options, hoptions⟩

/-! ## Deliveries of admitted jobs -/

/-- The options leave nothing to fail on: the delivery is built whenever the
other inputs of `BuildLzReceiveTx` are in order. -/
def OptionsBuild (packet : PacketRecord) : Prop :=
  ∀ (abi : CalldataLibrary) (endpoint : Address) (signerID : String) (calldata : Bytes),
    endpoint ≠ Address.zero → signerID ≠ "" → packet.validationError = none →
    abi.packLzReceive packet.srcEID (bytesToHash packet.sender.1)
      (originNonce packet) packet.receiver packet.guid packet.message = .ok calldata →
    ∃ request, buildLzReceiveTx abi packet endpoint signerID = .ok request

theorem optionsBuild_of_decode {packet : PacketRecord} {options : ExecutorOptions}
    (hoptions : decodeExecutorOptions packet.options = .ok options) :
    OptionsBuild packet := by
  intro abi endpoint signerID calldata hendpoint hsigner hvalid hpack
  refine ⟨executorRequest packet .executorLzReceive endpoint calldata signerID, ?_⟩
  rw [buildLzReceiveTx, if_neg hendpoint, if_neg hsigner, hoptions, hvalid]
  dsimp only
  rw [hpack]
  rfl

/-- An admitted job can be built, with the gas that was assigned, exactly when
every entry of the message's options is for the executor. -/
theorem admitted_delivery_builds_iff {libs : Libraries} {log : Chain.Log} {event : PacketSent}
    {packet : PacketRecord} {assignment : ExecutorJobAssigned} {job : ExecutorJobRecord}
    {entries : List OptionEntry}
    (hworkers : ∀ entry ∈ entries, entry.workerID = 1 ∨ entry.workerID = 2)
    (hevent : decodePacketSent libs log = .ok event)
    (hcarried : event.options = type3Options entries)
    (hpacket : packetRecordFromSentLog libs log = .ok packet)
    (hpassed : assignment.options = executorStream entries)
    (hjob : executorJobFromAssignment packet assignment = .ok job)
    (hassigned : job.status = .assigned) :
    (OptionsBuild packet ∧ ∃ options, decodeExecutorOptions packet.options = .ok options ∧
        decodeExecutorOptions assignment.options = .ok options) ↔
    ∀ entry ∈ entries, entry.workerID ≠ 2 := by
  have hoptions : packet.options = type3Options entries := by
    rw [packetRecordFromSentLog, hevent] at hpacket
    dsimp only at hpacket
    split at hpacket
    · cases hpacket
    · cases hpacket
      exact hcarried
  constructor
  · rintro ⟨-, options, hdecode, -⟩ entry hentry htwo
    rw [hoptions, decodeExecutorOptions_type3] at hdecode
    have hone := workers_of_decodeEntries hdecode entry hentry
    rw [htwo] at hone
    exact absurd hone (by decide)
  · intro hnone
    obtain ⟨options, hadmitted⟩ := options_of_assigned hjob hassigned
    have hall : ∀ entry ∈ entries, decide (entry.workerID = executorWorkerID) = true := by
      intro entry hentry
      exact decide_eq_true ((hworkers entry hentry).resolve_right (hnone entry hentry))
    have hsame : decodeExecutorOptions packet.options = .ok options := by
      rw [← hadmitted, hoptions, hpassed, decodeExecutorOptions_type3,
        decodeExecutorOptions_executorStream, List.filter_eq_self.mpr hall]
    exact ⟨optionsBuild_of_decode hsame, options, hsame, hadmitted⟩

/-! ## A message with options for a DVN -/

def lzReceiveEntry : OptionEntry := ⟨1, 1, (ofNat 16 100000).1, by decide⟩

/-- A precrime option for the first DVN. -/
def precrimeEntry : OptionEntry := ⟨2, 0, [1], by decide⟩

/-- The guids of the messages with nonces 7 and 8. -/
def sentGUID (nonce : ℕ) : Hash := .ofNat 32
  (if nonce = 7 then 0x6c46757d656ee66355ff6f212de9c271257af24872456c21f489b6bdcd5a1328
  else 0xf43f38766888e68932337713e87e453463d164098c11197b8b8cdca76a3c96f7)

/-- The PacketV1 bytes of a message without a body. -/
def sentPacket (nonce : ℕ) : Bytes := [1] ++ (ofNat 8 nonce).1 ++
    (ofNat 4 40161).1 ++ abiWord 0x11 ++ (ofNat 4 40449).1 ++ abiWord 0x22 ++
    (sentGUID nonce).1

/-- The digests of the two payloads. -/
def sentDigest (payload : Bytes) : Hash := .ofNat 32
  (if payload = (sentGUID 7).1 then
    0xeeba0df77a32db76fb7b95e511024174fa6ea6124af7e3ef9f6951bf07b39704
  else 0x18edaade61245a15bd731a41aa0b5c72302e56fa9717d6a58f2661233c545a51)

def sentLibraries : Libraries := abiLibraries sentDigest

/-- The `PacketSent` log of a message. -/
def sentLog (nonce : ℕ) (options : Bytes) (index : ℕ) : Chain.Log where
  address := .ofNat 20 0x44
  topics := [sentLibraries.packetSentTopic]
  data := abiWord 96 ++ abiWord 256 ++ abiWord 0x99 ++ abiBytes (sentPacket nonce) ++
    abiBytes options
  blockNumber := 123
  txHash := .ofNat 32 0xaa
  blockHash := .ofNat 32 0xbb
  index

def sentAssignment (entries : List OptionEntry) : ExecutorJobAssigned where
  dstEID := 40449
  sender := .ofNat 20 0x11
  sendLib := .ofNat 20 0x99
  price := 12
  options := executorStream entries

/-- The record of the message. -/
def sentRecord (nonce : ℕ) (options : Bytes) (index : ℕ) : PacketRecord where
  guid := sentGUID nonce
  srcEID := 40161
  dstEID := 40449
  nonce
  sender := .ofNat 20 0x11
  receiver := .ofNat 20 0x22
  sendLib := .ofNat 20 0x99
  srcTxHash := .ofNat 32 0xaa
  srcBlockNumber := 123
  srcLogIndex := index
  encodedPacket := sentPacket nonce
  packetHeader := (sentPacket nonce).take 81
  message := []
  payloadHash := sentDigest (sentGUID nonce).1
  options
  status := .new

/-- The admitted job of the message with nonce 7. -/
def sentJob : ExecutorJobRecord := ⟨sentGUID 7, some 12, .assigned, ""⟩

theorem executorOnly_delivery_builds :
    (∃ options, decodeExecutorOptions (type3Options [lzReceiveEntry]) = .ok options) ∧
    OptionsBuild (sentRecord 7 (type3Options [lzReceiveEntry]) 4) := by
  have hpacket : packetRecordFromSentLog sentLibraries
      (sentLog 7 (type3Options [lzReceiveEntry]) 4) =
      .ok (sentRecord 7 (type3Options [lzReceiveEntry]) 4) := by decide +kernel
  have hjob : executorJobFromAssignment (sentRecord 7 (type3Options [lzReceiveEntry]) 4)
      (sentAssignment [lzReceiveEntry]) = .ok sentJob := by decide +kernel
  have hevent : decodePacketSent sentLibraries (sentLog 7 (type3Options [lzReceiveEntry]) 4) =
      .ok ⟨sentPacket 7, type3Options [lzReceiveEntry], ofNat 20 0x99⟩ := by
    decide +kernel
  have hbuilds := (admitted_delivery_builds_iff (by decide) hevent rfl hpacket
    rfl hjob rfl).mpr (by decide)
  exact ⟨⟨_, hbuilds.2.choose_spec.1⟩, hbuilds.1⟩

def precrimeOptions : Bytes := type3Options [lzReceiveEntry, precrimeEntry]

/-- The job is admitted, and its delivery fails on the options of the DVN. -/
theorem precrimeEntry_delivery_fails :
    packetRecordFromSentLog sentLibraries (sentLog 7 precrimeOptions 4) =
        .ok (sentRecord 7 precrimeOptions 4) ∧
      executorJobFromAssignment (sentRecord 7 precrimeOptions 4)
        (sentAssignment [lzReceiveEntry, precrimeEntry]) = .ok sentJob ∧
      buildLzReceiveTx abiCalldata (sentRecord 7 precrimeOptions 4) (.ofNat 20 0x44) "executor" =
          .error "unsupported worker option id 2" := by
  refine ⟨?_, ?_, ?_⟩ <;> decide +kernel

end Lazier.Indexer
