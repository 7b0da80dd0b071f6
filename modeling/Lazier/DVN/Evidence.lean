import Lazier.Chain.Receipt
import Lazier.Store.CancelReconcile

/-!
# Source evidence of the DVN

The decoding of a `PacketSent` log into a packet record, the checks a source
receipt has to pass, the confirmation depth, and the verify transaction built
from the checked packet.  Hashing and ABI coding belong to libraries outside
the repository and are parameters.
-/

namespace Lazier.DVN

open Chain Store

/-! ## Packets -/

/-- The ABI fields of an `EndpointV2.PacketSent` event. -/
structure PacketSent where
  encodedPayload : Bytes
  options : Bytes
  sendLibrary : Address
  deriving DecidableEq

/-- The library functions that the DVN calls. -/
structure Libraries where
  keccak256 : Bytes → Hash
  packetSentTopic : Hash
  unpackPacketSent : Bytes → Except String PacketSent
  packSubmitVerification : Address → Bytes → Hash → ℕ → Except String Bytes

/-- The contracts' ABI on the data of their own logs. -/
def abiLibraries (keccak256 : Bytes → Hash) : Libraries where
  keccak256
  packetSentTopic := .ofNat 32
      0x1ab700d4ced0c005b164c0f789fd09fcbb0156d4c2041b8a3bfbcd961cd1567f
  unpackPacketSent data := .ok ⟨bytesAt data 0, bytesAt data 1, lowAddress (wordAt data 2)⟩
  packSubmitVerification receiveLib header payloadHash confirmations :=
    .ok ([0xd1, 0x49, 0x91, 0x3a] ++ List.replicate 12 0 ++ receiveLib.1 ++
      abiWord 128 ++ payloadHash.1 ++ abiWord confirmations ++ abiBytes header)

/-- The routing identity in a PacketV1 header. -/
structure PacketV1Header where
  version : ℕ
  nonce : ℕ
  srcEID : ℕ
  sender : Address
  dstEID : ℕ
  receiver : Address
  header : Bytes
  deriving DecidableEq

structure PacketV1 extends PacketV1Header where
  guid : Hash
  message : Bytes
  payloadHash : Hash
  deriving DecidableEq

def packetV1Version : ℕ := 1
def packetV1HeaderLength : ℕ := 81
def packetV1MessageOffset : ℕ := 113

/-- `bytes[low:high]`. -/
def slice (bytes : Bytes) (low high : ℕ) : Bytes := (bytes.drop low).take (high - low)

def validatePacketV1Header (header : PacketV1Header) : Option String :=
  if header.version ≠ packetV1Version then
    some s!"unsupported packet version {header.version}"
  else if header.nonce = 0 then some "packet nonce is zero"
  else if header.srcEID = 0 ∨ header.dstEID = 0 then
    some "packet source and destination eids are required"
  else if header.srcEID = header.dstEID then
    some "packet source and destination eids must differ"
  else if header.sender = Address.zero ∨ header.receiver = Address.zero then
    some "packet sender and receiver are required"
  else none

def decodePacketV1Header (header : Bytes) : Except String PacketV1Header :=
  if header.length ≠ packetV1HeaderLength then
    .error s!"packet header length {header.length} is not {packetV1HeaderLength}"
  else
    let decoded : PacketV1Header :=
      { version := bigEndian (slice header 0 1)
        nonce := bigEndian (slice header 1 9)
        srcEID := bigEndian (slice header 9 13)
        sender := bytesToAddress (slice header 13 45)
        dstEID := bigEndian (slice header 45 49)
        receiver := bytesToAddress (slice header 49 81)
        header }
    match validatePacketV1Header decoded with
    | some error => .error error
    | none => .ok decoded

/-- `DecodePacketV1`, on the bytes emitted as `PacketSent.encodedPayload`. -/
def decodePacketV1 (libs : Libraries) (encoded : Bytes) : Except String PacketV1 :=
  if encoded.length < packetV1MessageOffset then
    .error s!"packet length {encoded.length} is shorter than PacketV1 header+guid"
  else
    match decodePacketV1Header (slice encoded 0 packetV1HeaderLength) with
    | .error error => .error error
    | .ok header =>
      let guid := bytesToHash (slice encoded packetV1HeaderLength packetV1MessageOffset)
      if guid = Hash.zero then .error "packet guid is required"
      else
        .ok
          { header with
            guid
            message := encoded.drop packetV1MessageOffset
            payloadHash := libs.keccak256 (encoded.drop packetV1HeaderLength) }

/-- `DecodePacketSent`. -/
def decodePacketSent (libs : Libraries) (log : Log) : Except String PacketSent :=
  if log.topics.head? = some libs.packetSentTopic then
    libs.unpackPacketSent log.data
  else .error "log is not EndpointV2 PacketSent"

/-- `PacketRecordFromSentLog`. -/
def packetRecordFromSentLog (libs : Libraries) (log : Log) : Except String PacketRecord :=
  match decodePacketSent libs log with
  | .error error => .error error
  | .ok event =>
    match decodePacketV1 libs event.encodedPayload with
    | .error error => .error error
    | .ok packet =>
      .ok
        { guid := packet.guid
          srcEID := packet.srcEID
          dstEID := packet.dstEID
          nonce := packet.nonce
          sender := packet.sender
          receiver := packet.receiver
          sendLib := event.sendLibrary
          srcTxHash := log.txHash
          srcBlockNumber := log.blockNumber
          srcLogIndex := log.index
          encodedPacket := event.encodedPayload
          packetHeader := packet.header
          message := packet.message
          payloadHash := packet.payloadHash
          options := event.options
          status := .new }

/-! ## Confirmation depth -/

/-- `hasRequiredConfirmations`, in the arithmetic of `uint64`. -/
def hasRequiredConfirmations (blockNumber confirmationsRequired head : ℕ) : Bool :=
  if confirmationsRequired = 0 then false
  else if head < blockNumber then false
  else decide ((head - blockNumber + 1) % 2 ^ 64 ≥ confirmationsRequired)

/-! ## Receipts -/

/-- The errors of the receipt check, with `errSourceReceiptReorg` apart. -/
inductive EvidenceError
  | reorg (message : String)
  | conflict (message : String)
  deriving DecidableEq

def EvidenceError.text : EvidenceError → String
  | .reorg message =>
    "source receipt block does not match indexed block: " ++ message
  | .conflict message => message

/-- `validateReceiptPacket`. -/
def validateReceiptPacket (expected actual : PacketRecord) : Option String :=
  if actual.guid ≠ expected.guid then
    some s!"receipt packet guid {actual.guid.hex} does not match stored guid {expected.guid.hex}"
  else if actual.srcEID ≠ expected.srcEID ∨ actual.dstEID ≠ expected.dstEID then
    some (s!"receipt packet pathway {actual.srcEID} -> {actual.dstEID} does not match stored " ++
      s!"pathway {expected.srcEID} -> {expected.dstEID}")
  else if actual.sender ≠ expected.sender ∨ actual.receiver ≠ expected.receiver then
    some (s!"receipt packet oapps {actual.sender.hex} -> {actual.receiver.hex} do not match " ++
      s!"stored oapps {expected.sender.hex} -> {expected.receiver.hex}")
  else if actual.sendLib ≠ expected.sendLib then
    some (s!"receipt send lib {actual.sendLib.hex} does not match stored send lib " ++
      expected.sendLib.hex)
  else if actual.payloadHash ≠ expected.payloadHash then
    some (s!"receipt payload hash {actual.payloadHash.hex} does not match stored payload hash " ++
      expected.payloadHash.hex)
  else if actual.encodedPacket ≠ expected.encodedPacket then
    some "receipt encoded packet does not match stored encoded packet"
  else none

/-- The log the receipt check looks at: the first one with the stored index. -/
def logAt (receipt : Receipt) (index : ℕ) : Option Log := receipt.logs.findSome? fun log =>
    match log with
    | none => none
    | some log => if log.index = index then some log else none

/-- The part of the receipt check that concerns the packet's own log. -/
def verifySourceLog (libs : Libraries) (packet : PacketRecord)
    (receipt : Receipt) (endpoint : Address) (log : Log) :
    Except EvidenceError QuorumReport :=
  if endpoint ≠ Address.zero ∧ log.address ≠ endpoint then
    .error (.conflict
      (s!"source receipt PacketSent address {log.address.hex} does not match endpoint " ++
        endpoint.hex))
  else if log.blockNumber ≠ packet.srcBlockNumber then
    .error (.reorg
      (s!"source receipt block {log.blockNumber} does not match indexed block " ++
        s!"{packet.srcBlockNumber}"))
  else
    match packetRecordFromSentLog libs log with
    | .error error => .error (.conflict error)
    | .ok record =>
      match validateReceiptPacket packet record with
      | some error => .error (.conflict error)
      | none =>
        .ok
          { txHash := receipt.txHash
            blockNumber := log.blockNumber
            blockHash := log.blockHash
            logIndex := log.index
            guid := packet.guid
            payloadHash := packet.payloadHash }

/-- `verifySourceReceiptForEndpoint`.  A block that does not fit in 64 bits is
not compared. -/
def verifySourceReceiptForEndpoint (libs : Libraries) (packet : PacketRecord)
    (receipt : Option Receipt) (endpoint : Address) :
    Except EvidenceError QuorumReport :=
  match receipt with
  | none => .error (.conflict "source receipt is missing")
  | some receipt =>
    if receipt.txHash ≠ packet.srcTxHash then
      .error (.conflict
        (s!"receipt tx hash {receipt.txHash.hex} does not match packet source tx " ++
          packet.srcTxHash.hex))
    else if receipt.status ≠ 1 then
      .error (.conflict s!"source tx receipt status is {receipt.status}")
    else if ∃ number ∈ receipt.blockNumber, number < 2 ^ 64 ∧ number ≠ packet.srcBlockNumber then
      .error (.reorg
        (s!"source receipt block {receipt.blockNumber.getD 0} does not match indexed block " ++
          s!"{packet.srcBlockNumber}"))
    else
      match logAt receipt packet.srcLogIndex with
      | none =>
        .error (.conflict s!"source receipt missing PacketSent log index {packet.srcLogIndex}")
      | some log => verifySourceLog libs packet receipt endpoint log

/-- The coordinates of a log that carries the packet again. -/
def reorgedLog (libs : Libraries) (packet : PacketRecord)
    (endpoint : Address) (log : Option Log) : Option Coordinates :=
  match log with
  | none => none
  | some log =>
    if log.blockNumber = 0 then none
    else if endpoint ≠ Address.zero ∧ log.address ≠ endpoint then none
    else
      match packetRecordFromSentLog libs log with
      | .error _ => none
      | .ok record =>
        if record.guid = packet.guid ∧ validateReceiptPacket packet record = none then
          some ⟨log.blockNumber, log.index⟩
        else none

/-- `reorgedPacketRecord`, reduced to the columns it replaces. -/
def reorgedPacketRecord (libs : Libraries) (packet : PacketRecord)
    (receipt : Option Receipt) (endpoint : Address) : Option Coordinates :=
  match receipt with
  | none => none
  | some receipt => receipt.logs.findSome? (reorgedLog libs packet endpoint)

/-! ## The verify transaction -/

/-- `BuildVerifyCalldata`. -/
def buildVerifyCalldata (libs : Libraries) (packet : PacketRecord)
    (receiveLib : Address) (confirmations : ℕ) : Except String Bytes :=
  match packet.validationError with
  | some error => .error error.text
  | none =>
    if receiveLib = Address.zero then
      .error "receive lib address is required"
    else if confirmations = 0 then
      .error "dvn confirmations required is required"
    else
      libs.packSubmitVerification receiveLib packet.packetHeader packet.payloadHash confirmations

/-- `BuildVerifyTx`. -/
def buildVerifyTx (libs : Libraries) (packet : PacketRecord)
    (openDVN receiveLib : Address) (confirmations : ℕ) (signerID : String) :
    Except String TxRequest :=
  if openDVN = Address.zero then
    .error "destination open dvn address is required"
  else if signerID = "" then .error "signer id is required"
  else
    match buildVerifyCalldata libs packet receiveLib confirmations with
    | .error error => .error error
    | .ok calldata =>
      .ok
        { chainEID := packet.dstEID
          purpose := .dvnVerify
          guid := packet.guid.1
          toAddress := openDVN
          calldata
          value := some 0
          signerID }

end Lazier.DVN
