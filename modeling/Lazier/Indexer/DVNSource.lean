import Lazier.DVN.Evidence
import Mathlib.Data.List.Sort

/-!
# DVN assignments of a source transaction

The logs of one source transaction are read in the order of their indexes.
Assignments and fee payments are collected, and each `PacketSent` takes the
last fee its send library has paid and the one assignment which that fee
covers.
-/

namespace Lazier.Indexer

open Chain DVN Store

/-! ## Events -/

/-- The unindexed fields of `DVNJobAssigned`. -/
structure DVNJobAssignedData where
  sendLib : Address
  confirmations : ℕ
  fee : ℕ
  deriving DecidableEq

structure DVNJobAssigned extends DVNJobAssignedData where
  jobID : Hash
  dstEID : ℕ
  sender : Address
  deriving DecidableEq

structure DVNFeePaid where
  requiredDVNs : List Address
  optionalDVNs : List Address
  fees : List ℕ
  deriving DecidableEq

/-- Topics and data decoders of the source contracts.  The topics are hashes
of different signatures. -/
structure SourceLibraries extends Libraries where
  dvnJobAssignedTopic : Hash
  dvnFeePaidTopic : Hash
  paid_ne_assigned : dvnFeePaidTopic ≠ dvnJobAssignedTopic
  sent_ne_assigned : packetSentTopic ≠ dvnJobAssignedTopic
  sent_ne_paid : packetSentTopic ≠ dvnFeePaidTopic
  unpackDVNJobAssigned : Bytes → Except String DVNJobAssignedData
  unpackDVNFeePaid : Bytes → Except String DVNFeePaid

/-- `DecodeDVNJobAssigned`. -/
def decodeDVNJobAssigned (libs : SourceLibraries) (log : Log) : Except String DVNJobAssigned :=
  match log.topics with
  | [topic, jobID, dstEID, sender] =>
    if topic = libs.dvnJobAssignedTopic then
      match libs.unpackDVNJobAssigned log.data with
      | .error error => .error error
      | .ok data =>
        .ok
          { data with
            jobID
            dstEID := bigEndian dstEID.1 % 2 ^ 32
            sender := bytesToAddress (sender.1.drop 12) }
    else .error "log is not OpenDVN DVNJobAssigned"
  | _ => .error "log is not OpenDVN DVNJobAssigned"

/-- `DecodeDVNFeePaid`. -/
def decodeDVNFeePaid (libs : SourceLibraries) (log : Log) : Except String DVNFeePaid :=
  if log.topics.head? = some libs.dvnFeePaidTopic then
    libs.unpackDVNFeePaid log.data
  else .error "log is not SendUln302 DVNFeePaid"

/-! ## Pairing -/

structure DVNSourceTxRecords where
  packet : PacketRecord
  dvnJob : DVNJobRecord
  dvn : Address
  deriving DecidableEq

structure DVNSourcePacketGap where
  packet : PacketRecord
  fee : DVNFeePaid
  deriving DecidableEq

structure DVNFeeEvent where
  log : Log
  event : DVNFeePaid
  matched : Bool
  deriving DecidableEq

structure DVNAssignmentEvent where
  log : Log
  event : DVNJobAssigned
  matched : Bool
  deriving DecidableEq

/-- `orderedSourceTxLogs`. -/
def orderedSourceTxLogs (logs : List Log) : Except String (List Log) :=
  match logs.insertionSort (fun first second => first.index ≤ second.index) with
  | [] => .ok []
  | first :: rest =>
    match rest.find? fun log => log.txHash ≠ first.txHash with
    | some log => .error ("source tx logs contain multiple transaction hashes " ++
      s!"{first.txHash.hex} and {log.txHash.hex}")
    | none => .ok (first :: rest)

/-- `latestUnmatchedDVNFee`: the event with its position. -/
def latestUnmatchedDVNFee (fees : List DVNFeeEvent) (sendLib : Address) :
    Option (DVNFeeEvent × ℕ) := fees.zipIdx.reverse.find? fun entry =>
    !entry.1.matched && decide (entry.1.log.address = sendLib)

def dvnAssignmentMatchesPacket (assignment : DVNJobAssigned) (packet : PacketRecord) : Bool :=
  decide (assignment.dstEID = packet.dstEID) &&
    decide (assignment.sender = packet.sender) &&
    decide (assignment.sendLib = packet.sendLib)

def DVNFeePaid.dvns (event : DVNFeePaid) : List Address := event.requiredDVNs ++ event.optionalDVNs

/-- `dvnFeeMatches`. -/
def dvnFeeMatches (event : DVNFeePaid) (expectedDVN : Address) (expectedFee : ℕ) : Bool :=
  decide (event.dvns.length = event.fees.length) && (event.dvns.zip event.fees).any fun entry =>
      decide (entry.1 = expectedDVN) && decide (entry.2 = expectedFee)

/-- `matchingDVNAssignment`: the event with its position. -/
def matchingDVNAssignment (assignments : List DVNAssignmentEvent)
    (packet : PacketRecord) (fee : DVNFeePaid) : Except String (Option (DVNAssignmentEvent × ℕ)) :=
  let candidates := assignments.zipIdx.filter fun entry =>
    !entry.1.matched && dvnAssignmentMatchesPacket entry.1.event packet
  let found := candidates.filter fun entry =>
    dvnFeeMatches fee entry.1.log.address entry.1.event.fee
  match found, candidates with
  | _ :: _ :: _, _ =>
    .error s!"packet {packet.guid.hex} matches multiple DVNJobAssigned logs"
  | [entry], _ => .ok (some entry)
  | [], entry :: _ =>
    .error (s!"dvn fee paid does not include assigned dvn {entry.1.log.address.hex} fee " ++
      s!"{entry.1.event.fee}")
  | [], [] => .ok none

def hasUnmatchedDVNAssignmentForPacket
    (assignments : List DVNAssignmentEvent) (packet : PacketRecord) : Bool :=
  assignments.any fun assignment =>
    !assignment.matched && dvnAssignmentMatchesPacket assignment.event packet

def hasUnmatchedDVNAssignment (assignments : List DVNAssignmentEvent) : Bool :=
  assignments.any fun assignment => !assignment.matched

/-- `dvnRecordFromMatchedLogs`. -/
def dvnRecordFromMatchedLogs (packet : PacketRecord) (log : Log)
    (event : DVNJobAssigned) : DVNSourceTxRecords where
  packet := packet
  dvnJob :=
    { guid := packet.guid
      assignedFee := some event.fee
      confirmationsRequired := event.confirmations
      status := .assigned
      quorumResult := none }
  dvn := log.address

/-- The accumulators of the decoding loop. -/
structure DVNSourceTx where
  records : List DVNSourceTxRecords
  gaps : List DVNSourcePacketGap
  feeEvents : List DVNFeeEvent
  assignments : List DVNAssignmentEvent
  deriving DecidableEq

/-- The turn of the loop on a `PacketSent`. -/
def decodeSentLog (libs : SourceLibraries) (endpoint : Address)
    (tx : DVNSourceTx) (log : Log) : Except String DVNSourceTx :=
  if endpoint ≠ Address.zero ∧ log.address ≠ endpoint then
    .error s!"source tx PacketSent address {log.address.hex} does not match endpoint {endpoint.hex}"
  else
    match packetRecordFromSentLog libs.toLibraries log with
    | .error error => .error error
    | .ok packet =>
      match latestUnmatchedDVNFee tx.feeEvents packet.sendLib with
      | none =>
        if hasUnmatchedDVNAssignmentForPacket tx.assignments packet then
          .error "source tx PacketSent missing matching DVNFeePaid log"
        else .ok tx
      | some (fee, feeIndex) =>
        match matchingDVNAssignment tx.assignments packet fee.event with
        | .error error => .error error
        | .ok (some (assignment, index)) =>
          .ok
            { tx with
              feeEvents := tx.feeEvents.modify feeIndex ({ · with matched := true })
              assignments := tx.assignments.modify index ({ · with matched := true })
              records := tx.records ++
                [dvnRecordFromMatchedLogs packet assignment.log assignment.event] }
        | .ok none =>
          .ok
            { tx with
              feeEvents := tx.feeEvents.modify feeIndex ({ · with matched := true })
              gaps := tx.gaps ++ [⟨packet, fee.event⟩] }

/-- One turn of the loop. -/
def decodeSourceLog (libs : SourceLibraries) (endpoint : Address)
    (tx : DVNSourceTx) (log : Log) : Except String DVNSourceTx :=
  if log.topics.head? = some libs.dvnJobAssignedTopic then
    match decodeDVNJobAssigned libs log with
    | .error error => .error error
    | .ok event =>
      .ok { tx with assignments := tx.assignments ++ [⟨log, event, false⟩] }
  else if log.topics.head? = some libs.dvnFeePaidTopic then
    match decodeDVNFeePaid libs log with
    | .error error => .error error
    | .ok event =>
      .ok { tx with feeEvents := tx.feeEvents ++ [⟨log, event, false⟩] }
  else if log.topics.head? = some libs.packetSentTopic then
    decodeSentLog libs endpoint tx log
  else .ok tx

/-- `decodeDVNSourceTxLogsForEndpoint`. -/
def decodeDVNSourceTxLogsForEndpoint (libs : SourceLibraries)
    (endpoint : Address) (logs : List Log) :
    Except String (List DVNSourceTxRecords × List DVNSourcePacketGap) :=
  match orderedSourceTxLogs logs with
  | .error error => .error error
  | .ok ordered =>
    match ordered.foldlM (decodeSourceLog libs endpoint) ⟨[], [], [], []⟩ with
    | .error error => .error error
    | .ok tx =>
      if hasUnmatchedDVNAssignment tx.assignments then
        .error "source tx contains DVNJobAssigned without following PacketSent"
      else .ok (tx.records, tx.gaps)

end Lazier.Indexer
