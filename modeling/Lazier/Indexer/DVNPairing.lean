import Lazier.Indexer.Assignments
import Lazier.Indexer.DVNSource

/-!
# Pairing of DVN assignments with packets

A source transaction may make several sends, to one destination and from one
sender.  Before each send everything collected so far has been paired, so the
loop meets only the assignments of that send, and pairs it exactly when at most
one of the paid DVNs emits the event.
-/

namespace Lazier.Indexer

open Chain DVN Store List

variable {event : DVNFeePaid} {packet : PacketRecord} {tx : DVNSourceTx}

/-! ## Well-formed sends -/

/-- A send as its contracts log it: the assignments of some of the paid DVNs,
the payment of the send library, and the packet of the endpoint. -/
structure Send (libs : SourceLibraries) (endpoint : Address) where
  assigned : List (Log × DVNJobAssigned)
  paid : Log
  fee : DVNFeePaid
  sent : Log
  packet : PacketRecord
  assigned_decodes : ∀ entry ∈ assigned, decodeDVNJobAssigned libs entry.1 = .ok entry.2
  assigned_dstEID : ∀ entry ∈ assigned, entry.2.dstEID = packet.dstEID
  assigned_sender : ∀ entry ∈ assigned, entry.2.sender = packet.sender
  assigned_sendLib : ∀ entry ∈ assigned, entry.2.sendLib = packet.sendLib
  assigned_once : (assigned.map fun entry => entry.1.address).Nodup
  paid_decodes : decodeDVNFeePaid libs paid = .ok fee
  paid_address : paid.address = packet.sendLib
  /-- The payment lists one fee for each DVN. -/
  assigned_listed : ∀ entry ∈ assigned, fee.dvns.length = fee.fees.length
  /-- An assigned DVN is one of the paid and reports the fee listed for it. -/
  assigned_fee : ∀ entry ∈ assigned, ∃ position : ℕ, fee.dvns[position]? = some entry.1.address ∧
      fee.fees[position]? = some entry.2.fee
  /-- The zero address stands for any endpoint. -/
  sent_address : endpoint ≠ Address.zero → sent.address = endpoint
  sent_decodes : packetRecordFromSentLog libs.toLibraries sent = .ok packet

variable {send : Send libs endpoint}

namespace Send

variable {libs : SourceLibraries} {endpoint : Address}

/-- The logs of the send, in the order of their indexes. -/
def logs (send : Send libs endpoint) : List Log :=
  send.assigned.map Prod.fst ++ [send.paid, send.sent]

/-- The records its assignments should give. -/
def records (send : Send libs endpoint) : List DVNSourceTxRecords := send.assigned.map fun entry =>
    dvnRecordFromMatchedLogs send.packet entry.1 entry.2

/-- The assignments as the loop collects them. -/
def events (send : Send libs endpoint) : List DVNAssignmentEvent :=
  send.assigned.map fun entry => ⟨entry.1, entry.2, false⟩

end Send

variable {log : Log}

theorem topic_of_assigned {event : DVNJobAssigned}
    (hdecoded : decodeDVNJobAssigned libs log = .ok event) :
    log.topics.head? = some libs.dvnJobAssignedTopic := by
  unfold decodeDVNJobAssigned at hdecoded
  split at hdecoded
  · rename_i topic jobID dstEID sender htopics
    split_ifs at hdecoded with htopic
    rw [htopics, ← htopic]
    rfl
  · cases hdecoded

theorem topic_of_paid (hdecoded : decodeDVNFeePaid libs log = .ok event) :
    log.topics.head? = some libs.dvnFeePaidTopic := by
  unfold decodeDVNFeePaid at hdecoded
  split_ifs at hdecoded with htopic
  exact htopic

theorem topic_of_sent {libs : Libraries}
    (hdecoded : packetRecordFromSentLog libs log = .ok packet) :
    log.topics.head? = some libs.packetSentTopic := by
  unfold packetRecordFromSentLog decodePacketSent at hdecoded
  by_contra htopic
  rw [if_neg htopic] at hdecoded
  cases hdecoded

/-! ## One send -/

/-- Everything collected so far has been paired. -/
structure Settled (tx : DVNSourceTx) : Prop where
  fees : ∀ fee ∈ tx.feeEvents, fee.matched = true
  assignments : ∀ assignment ∈ tx.assignments, assignment.matched = true

theorem dvnFeeMatches_of_listed {dvn : Address} {fee position : ℕ}
    (hlength : event.dvns.length = event.fees.length) (hdvn : event.dvns[position]? = some dvn)
    (hfee : event.fees[position]? = some fee) : dvnFeeMatches event dvn fee = true := by
  rw [dvnFeeMatches, decide_eq_true hlength, Bool.true_and, any_eq_true]
  refine ⟨(dvn, fee), ?_, by simp⟩
  apply mem_of_getElem? (i := position)
  rw [List.getElem?_zip_eq_some]
  exact ⟨hdvn, hfee⟩

theorem collect_assigned (entries : List (Log × DVNJobAssigned))
    (hdecodes : ∀ entry ∈ entries, decodeDVNJobAssigned libs entry.1 = .ok entry.2) :
    (entries.map Prod.fst).foldlM (decodeSourceLog libs endpoint) tx = .ok { tx with
        assignments := tx.assignments ++ entries.map fun entry => ⟨entry.1, entry.2, false⟩ } := by
  induction entries generalizing tx with
  | nil => simp [pure, Except.pure]
  | cons entry rest ih =>
    have hentry := hdecodes entry (mem_cons_self ..)
    have hturn : decodeSourceLog libs endpoint tx entry.1 = .ok { tx with
          assignments := tx.assignments ++ [⟨entry.1, entry.2, false⟩] } := by
      rw [decodeSourceLog, if_pos (topic_of_assigned hentry), hentry]
    rw [map_cons, foldlM_cons, hturn]
    refine (ih fun other hother => hdecodes other (mem_cons_of_mem _ hother)).trans ?_
    simp only [map_cons, append_assoc, cons_append, nil_append]

theorem collect_paid (hdecoded : decodeDVNFeePaid libs log = .ok event) :
    decodeSourceLog libs endpoint tx log =
      .ok { tx with feeEvents := tx.feeEvents ++ [⟨log, event, false⟩] } := by
  have htopic := topic_of_paid hdecoded
  have hother : ¬ log.topics.head? = some libs.dvnJobAssignedTopic := by
    rw [htopic]
    exact fun heq => libs.paid_ne_assigned (Option.some.inj heq)
  rw [decodeSourceLog, if_neg hother, if_pos htopic, hdecoded]

/-- A fresh payment is the latest one without a packet. -/
theorem latestUnmatchedDVNFee_append (fees : List DVNFeeEvent) (log : Log) (event : DVNFeePaid) :
    latestUnmatchedDVNFee (fees ++ [⟨log, event, false⟩]) log.address =
      some (⟨log, event, false⟩, fees.length) := by
  rw [latestUnmatchedDVNFee, zipIdx_append, reverse_append]
  simp

/-- Paired assignments are passed over, so the candidates are the fresh ones. -/
theorem candidates_append {earlier fresh : List DVNAssignmentEvent}
    (hearlier : ∀ assignment ∈ earlier, assignment.matched = true)
    (hfresh : ∀ assignment ∈ fresh, assignment.matched = false ∧
      dvnAssignmentMatchesPacket assignment.event packet = true) :
    ((earlier ++ fresh).zipIdx.filter fun entry =>
      !entry.1.matched && dvnAssignmentMatchesPacket entry.1.event packet) =
      fresh.zipIdx earlier.length := by
  rw [zipIdx_append, filter_append, filter_eq_nil_iff.mpr,
    nil_append, filter_eq_self.mpr, Nat.zero_add]
  · intro entry hentry
    obtain ⟨hmatched, hpacket⟩ := hfresh entry.1 (fst_mem_of_mem_zipIdx hentry)
    rw [hmatched, hpacket]
    rfl
  · intro entry hentry
    rw [hearlier entry.1 (fst_mem_of_mem_zipIdx hentry)]
    exact Bool.false_ne_true

/-- What the search finds among the fresh assignments alone. -/
def soleAssignment (packet : PacketRecord) (position : ℕ) : List DVNAssignmentEvent →
      Except String (Option (DVNAssignmentEvent × ℕ))
  | [] => .ok none
  | [assignment] => .ok (some (assignment, position))
  | _ :: _ :: _ =>
    .error s!"packet {packet.guid.hex} matches multiple DVNJobAssigned logs"

theorem matchingDVNAssignment_append {earlier fresh : List DVNAssignmentEvent} {fee : DVNFeePaid}
    (hearlier : ∀ assignment ∈ earlier, assignment.matched = true)
    (hfresh : ∀ assignment ∈ fresh, assignment.matched = false ∧
      dvnAssignmentMatchesPacket assignment.event packet = true) (hfee : ∀ assignment ∈ fresh,
      dvnFeeMatches fee assignment.log.address assignment.event.fee = true) :
    matchingDVNAssignment (earlier ++ fresh) packet fee =
      soleAssignment packet earlier.length fresh := by
  have hfound : ((fresh.zipIdx earlier.length).filter fun entry =>
      dvnFeeMatches fee entry.1.log.address entry.1.event.fee) =
      fresh.zipIdx earlier.length := by
    apply filter_eq_self.mpr
    intro entry hentry
    exact hfee entry.1 (fst_mem_of_mem_zipIdx hentry)
  rw [matchingDVNAssignment, candidates_append hearlier hfresh, hfound]
  clear hfound hfresh hfee
  match fresh with
  | [] => rfl
  | [_] => rfl
  | _ :: _ :: _ => rfl

theorem modify_length_append {Item : Type} {change : Item → Item} {items : List Item}
    {last : Item} :
    (items ++ [last]).modify items.length change = items ++ [change last] := by
  induction items with
  | nil => rfl
  | cons item rest ih =>
    rw [cons_append, length_cons, modify_succ_cons, ih]
    rfl

/-- The assignments of a send are what the loop looks for at its packet. -/
theorem events_match (send : Send libs endpoint) :
    (∀ assignment ∈ send.events, assignment.matched = false ∧
      dvnAssignmentMatchesPacket assignment.event send.packet = true) ∧ ∀ assignment ∈ send.events,
      dvnFeeMatches send.fee assignment.log.address assignment.event.fee = true := by
  constructor
  · intro assignment hassignment
    obtain ⟨entry, hentry, rfl⟩ := mem_map.mp hassignment
    refine ⟨rfl, ?_⟩
    simp only [dvnAssignmentMatchesPacket, Bool.and_eq_true, decide_eq_true_eq]
    exact ⟨⟨send.assigned_dstEID entry hentry,
      send.assigned_sender entry hentry⟩, send.assigned_sendLib entry hentry⟩
  · intro assignment hassignment
    obtain ⟨entry, hentry, rfl⟩ := mem_map.mp hassignment
    obtain ⟨position, hdvn, hfee⟩ := send.assigned_fee entry hentry
    exact dvnFeeMatches_of_listed (send.assigned_listed entry hentry) hdvn hfee

/-- A send read from a settled state is left to its `PacketSent`. -/
theorem decode_send :
    send.logs.foldlM (decodeSourceLog libs endpoint) tx = decodeSentLog libs endpoint
        { tx with
          feeEvents := tx.feeEvents ++ [⟨send.paid, send.fee, false⟩]
          assignments := tx.assignments ++ send.events } send.sent := by
  have htopic := topic_of_sent send.sent_decodes
  have hassigned : ¬ send.sent.topics.head? = some libs.dvnJobAssignedTopic := by
    rw [htopic]
    exact fun heq => libs.sent_ne_assigned (Option.some.inj heq)
  have hpaid : ¬ send.sent.topics.head? = some libs.dvnFeePaidTopic := by
    rw [htopic]
    exact fun heq => libs.sent_ne_paid (Option.some.inj heq)
  rw [Send.logs, foldlM_append, collect_assigned send.assigned send.assigned_decodes]
  change [send.paid, send.sent].foldlM (decodeSourceLog libs endpoint) _ = _
  rw [foldlM_cons, collect_paid send.paid_decodes]
  change [send.sent].foldlM (decodeSourceLog libs endpoint) _ = _
  rw [foldlM_cons, decodeSourceLog, if_neg hassigned, if_neg hpaid, if_pos htopic]
  exact bind_pure _

/-- What a send adds to a settled state. -/
def Send.added (send : Send libs endpoint) (tx : DVNSourceTx) : Except String DVNSourceTx :=
  match send.assigned with
  | [] =>
    .ok
      { tx with
        feeEvents := tx.feeEvents ++ [⟨send.paid, send.fee, true⟩]
        gaps := tx.gaps ++ [⟨send.packet, send.fee⟩] }
  | [entry] =>
    .ok
      { tx with
        feeEvents := tx.feeEvents ++ [⟨send.paid, send.fee, true⟩]
        assignments := tx.assignments ++ [⟨entry.1, entry.2, true⟩]
        records := tx.records ++ [dvnRecordFromMatchedLogs send.packet entry.1 entry.2] }
  | _ :: _ :: _ =>
    .error s!"packet {send.packet.guid.hex} matches multiple DVNJobAssigned logs"

theorem decode_send_settled (hsettled : Settled tx) :
    send.logs.foldlM (decodeSourceLog libs endpoint) tx = send.added tx := by
  obtain ⟨hfresh, hfee⟩ := events_match send
  have hlatest := latestUnmatchedDVNFee_append tx.feeEvents send.paid send.fee
  rw [send.paid_address] at hlatest
  have hendpoint : ¬ (endpoint ≠ Address.zero ∧ send.sent.address ≠ endpoint) :=
    fun hbad => hbad.2 (send.sent_address hbad.1)
  rw [decode_send, decodeSentLog, if_neg hendpoint, send.sent_decodes]
  dsimp only
  rw [hlatest]
  dsimp only
  rw [matchingDVNAssignment_append hsettled.assignments hfresh hfee,
    modify_length_append, Send.events, Send.added]
  match send.assigned with
  | [] => simp only [map_nil, append_nil, soleAssignment]
  | [entry] => simp only [map_cons, map_nil, soleAssignment, modify_length_append]
  | _ :: _ :: _ => rfl

/-! ## Transactions -/

/-- A source transaction that makes well-formed sends, one after another. -/
structure SendTransaction (libs : SourceLibraries) (endpoint : Address) where
  sends : List (Send libs endpoint)
  txHash : Hash
  logs_txHash : ∀ log ∈ sends.flatMap Send.logs, log.txHash = txHash
  logs_ordered : (sends.flatMap Send.logs).Pairwise fun first second => first.index < second.index

def SendTransaction.logs (tx : SendTransaction libs endpoint) : List Log :=
  tx.sends.flatMap Send.logs

theorem matched_append {Event : Type} {matched : Event → Bool} {events : List Event} {last : Event}
    (hevents : ∀ event ∈ events, matched event = true) (hlast : matched last = true) :
    ∀ event ∈ events ++ [last], matched event = true := by
  simp only [forall_mem_append, forall_mem_singleton]
  exact ⟨hevents, hlast⟩

theorem added_ok {next : DVNSourceTx} (hsettled : Settled tx) (hadded : send.added tx = .ok next) :
    send.assigned.length ≤ 1 ∧ Settled next ∧ next.records = tx.records ++ send.records := by
  unfold Send.added at hadded
  unfold Send.records
  split at hadded
  · rename_i hnone
    cases hadded
    rw [hnone]
    exact ⟨by simp, ⟨matched_append hsettled.fees rfl, hsettled.assignments⟩, by simp⟩
  · rename_i entry hone
    cases hadded
    rw [hone]
    exact ⟨by simp, ⟨matched_append hsettled.fees rfl,
      matched_append hsettled.assignments rfl⟩, by simp⟩
  · cases hadded

theorem added_of_single (hsingle : send.assigned.length ≤ 1) (tx : DVNSourceTx) :
    ∃ next, send.added tx = .ok next := by
  unfold Send.added
  split
  · exact ⟨_, rfl⟩
  · exact ⟨_, rfl⟩
  · rename_i first second rest hmany
    rw [hmany] at hsingle
    simp at hsingle

theorem decode_sends (sends : List (Send libs endpoint))
    (hsingle : ∀ send ∈ sends, send.assigned.length ≤ 1) (hsettled : Settled tx) :
    ∃ next, (sends.flatMap Send.logs).foldlM
        (decodeSourceLog libs endpoint) tx = .ok next ∧ Settled next ∧
      next.records = tx.records ++ sends.flatMap Send.records := by
  induction sends generalizing tx with
  | nil => exact ⟨tx, rfl, hsettled, by simp⟩
  | cons send rest ih =>
    obtain ⟨middle, hmiddle⟩ := added_of_single (hsingle send (mem_cons_self ..)) tx
    obtain ⟨-, hsettled', hrecords⟩ := added_ok hsettled hmiddle
    obtain ⟨next, hnext, hend, hall⟩ := ih (fun other hother =>
      hsingle other (mem_cons_of_mem _ hother)) hsettled'
    refine ⟨next, ?_, hend, ?_⟩
    · rw [flatMap_cons, foldlM_append, decode_send_settled hsettled, hmiddle]
      exact hnext
    · rw [hall, hrecords, flatMap_cons, append_assoc]

/-- Only sends with at most one assignment are read. -/
theorem single_of_decode (sends : List (Send libs endpoint)) {next : DVNSourceTx}
    (hsettled : Settled tx)
    (hdecoded : (sends.flatMap Send.logs).foldlM (decodeSourceLog libs endpoint) tx = .ok next) :
    ∀ send ∈ sends, send.assigned.length ≤ 1 := by
  induction sends generalizing tx with
  | nil => simp
  | cons send rest ih =>
    rw [flatMap_cons, foldlM_append, decode_send_settled hsettled] at hdecoded
    cases hadded : send.added tx with
    | error error =>
      rw [hadded] at hdecoded
      cases hdecoded
    | ok middle =>
      rw [hadded] at hdecoded
      obtain ⟨hone, hsettled', -⟩ := added_ok hsettled hadded
      intro other hother
      rcases mem_cons.mp hother with rfl | hother
      · exact hone
      · exact ih hsettled' hdecoded other hother

theorem orderedSourceTxLogs_eq (tx : SendTransaction libs endpoint)
    {listing : List Log} (hlisting : listing.Perm tx.logs) :
    orderedSourceTxLogs listing = .ok tx.logs := by
  have hsorted : listing.insertionSort
      (fun first second => first.index ≤ second.index) = tx.logs := by
    have : Std.Total fun first second : Log => first.index ≤ second.index :=
      ⟨fun first second => le_total first.index second.index⟩
    have : IsTrans Log fun first second => first.index ≤ second.index := ⟨fun _ _ _ => le_trans⟩
    have hperm := (perm_insertionSort (fun first second : Log => first.index ≤ second.index)
      listing).trans hlisting
    have hindexes : (tx.logs.map Log.index).Nodup :=
      (pairwise_map.mpr tx.logs_ordered).imp Nat.ne_of_lt
    apply hperm.eq_of_pairwise
    · intro first second hfirst hsecond hle hge
      exact inj_on_of_nodup_map hindexes (hperm.subset hfirst) hsecond (le_antisymm hle hge)
    · exact pairwise_insertionSort _ listing
    · exact tx.logs_ordered.imp le_of_lt
  have hhash := tx.logs_txHash
  unfold orderedSourceTxLogs
  rw [hsorted]
  change ∀ log ∈ tx.logs, _ at hhash
  cases htx : tx.logs with
  | nil => rfl
  | cons first rest =>
    rw [htx] at hhash
    have hnone : (rest.find? fun log => log.txHash ≠ first.txHash) = none := by
      rw [List.find?_eq_none]
      intro log hlog
      rw [hhash log (mem_cons_of_mem _ hlog), hhash first (mem_cons_self ..)]
      simp
    dsimp only
    rw [hnone]

/-- The decoding succeeds and returns, for every send that was assigned to the
OpenDVN of its pathway, the packet with the fee and the confirmations which
that DVN logged. -/
def Paired (tx : SendTransaction libs endpoint) (openDVN : Route → Address)
    (listing : List Log) : Prop := ∃ records gaps,
    decodeDVNSourceTxLogsForEndpoint libs endpoint listing = .ok (records, gaps) ∧
    ∀ send ∈ tx.sends, ∀ entry ∈ send.assigned, entry.1.address = openDVN send.packet.route →
      ∃ record ∈ records, record.packet = send.packet ∧ record.dvn = openDVN send.packet.route ∧
        record.dvnJob.guid = send.packet.guid ∧ record.dvnJob.assignedFee = some entry.2.fee ∧
        record.dvnJob.confirmationsRequired = entry.2.confirmations

/-- In whatever order the logs are listed, the assignments of a transaction
are paired exactly when none of its sends has two of them. -/
theorem assignments_paired_iff (tx : SendTransaction libs endpoint)
    (openDVN : Route → Address) {listing : List Log} (hlisting : listing.Perm tx.logs) :
    Paired tx openDVN listing ↔ ∀ send ∈ tx.sends, send.assigned.length ≤ 1 := by
  have hempty : Settled ⟨[], [], [], []⟩ := ⟨by simp, by simp⟩
  constructor
  · rintro ⟨records, gaps, hdecoded, -⟩
    rw [decodeDVNSourceTxLogsForEndpoint, orderedSourceTxLogs_eq tx hlisting] at hdecoded
    dsimp only at hdecoded
    split at hdecoded
    · cases hdecoded
    · rename_i next hrun
      exact single_of_decode tx.sends hempty hrun
  · intro hsingle
    obtain ⟨next, hrun, hsettled, hrecords⟩ := decode_sends tx.sends hsingle hempty
    have hnone : hasUnmatchedDVNAssignment next.assignments = false := by
      rw [hasUnmatchedDVNAssignment, any_eq_false]
      intro assignment hassignment
      rw [hsettled.assignments assignment hassignment]
      exact Bool.false_ne_true
    refine ⟨next.records, next.gaps, ?_, ?_⟩
    · rw [decodeDVNSourceTxLogsForEndpoint, orderedSourceTxLogs_eq tx hlisting]
      dsimp only [SendTransaction.logs]
      rw [hrun]
      dsimp only
      rw [if_neg (by rw [hnone]; exact Bool.false_ne_true)]
    · intro send hsend entry hentry hopen
      refine ⟨dvnRecordFromMatchedLogs send.packet entry.1 entry.2, ?_, rfl, hopen, rfl, rfl, rfl⟩
      rw [hrecords, nil_append]
      exact mem_flatMap.mpr ⟨send, hsend, mem_map.mpr ⟨entry, hentry, rfl⟩⟩

/-! ## Two DVNs that emit the event -/

def ownDVN : Address := .ofNat 20 0x33
def externalDVN : Address := .ofNat 20 0x34

def paidLibraries : SourceLibraries where
  toLibraries := sentLibraries
  dvnJobAssignedTopic := .ofNat 32
      0xebc514c7824537709d4fe49dd48672e773c99a94b10cccd97c57d575a3f58355
  dvnFeePaidTopic := .ofNat 32
      0x07ea52d82345d6e838192107d8fd7123d9c2ec8e916cd0aad13fd2b60db24644
  paid_ne_assigned := by decide
  sent_ne_assigned := by decide
  sent_ne_paid := by decide
  unpackDVNJobAssigned data := .ok ⟨lowAddress (wordAt data 0), natAt data 1, natAt data 2⟩
  unpackDVNFeePaid data := .ok ⟨(wordsAt data 0).map lowAddress, (wordsAt data 1).map lowAddress,
    (wordsAt data 2).map fun word => bigEndian word.1⟩

def paidEndpoint : Address := .ofNat 20 0x44

/-- A log of the transaction beside those of the endpoint. -/
def txLog (address : Address) (topics : List Hash) (data : Bytes) (index : ℕ) : Log :=
  { sentLog 7 [] index with address, topics, data }

/-- An assignment and its event. -/
def assignedTo (dvn : Address) (fee index : ℕ) : Log × DVNJobAssigned :=
  (txLog dvn [paidLibraries.dvnJobAssignedTopic, .ofNat 32 1, .ofNat 32 40449, .ofNat 32 0x11]
      (abiWord 0x99 ++ abiWord 15 ++ abiWord fee) index,
    ⟨⟨.ofNat 20 0x99, 15, fee⟩, .ofNat 32 1, 40449, .ofNat 20 0x11⟩)

/-- Both DVNs are required and paid. -/
def paidFees : Bytes := abiWord 96 ++ abiWord 192 ++ abiWord 224 ++
  abiWord 2 ++ abiWord 0x33 ++ abiWord 0x34 ++ abiWord 0 ++ abiWord 2 ++ abiWord 42 ++ abiWord 43

theorem paidFees_unpack :
    paidLibraries.unpackDVNFeePaid paidFees = .ok ⟨[ownDVN, externalDVN], [], [42, 43]⟩ := by
  decide +kernel

/-- A send of the nonce, logged from the given index on. -/
def paidSend (nonce : ℕ) (assigned : List (Log × DVNJobAssigned)) (index : ℕ)
    (hdecodes : ∀ entry ∈ assigned, decodeDVNJobAssigned paidLibraries entry.1 = .ok entry.2)
    (hroute : ∀ entry ∈ assigned, entry.2.dstEID = 40449 ∧
      entry.2.sender = .ofNat 20 0x11 ∧ entry.2.sendLib = .ofNat 20 0x99)
    (honce : (assigned.map fun entry => entry.1.address).Nodup)
    (hfee : ∀ entry ∈ assigned, ∃ position : ℕ,
      [ownDVN, externalDVN][position]? = some entry.1.address ∧
        [42, 43][position]? = some entry.2.fee)
    (hsent : packetRecordFromSentLog sentLibraries (sentLog nonce [] (index + 1)) =
      .ok (sentRecord nonce [] (index + 1))) : Send paidLibraries paidEndpoint where
  assigned := assigned
  paid := txLog (.ofNat 20 0x99) [paidLibraries.dvnFeePaidTopic] paidFees index
  fee := ⟨[ownDVN, externalDVN], [], [42, 43]⟩
  sent := sentLog nonce [] (index + 1)
  packet := sentRecord nonce [] (index + 1)
  assigned_decodes := hdecodes
  assigned_dstEID entry hentry := (hroute entry hentry).1
  assigned_sender entry hentry := (hroute entry hentry).2.1
  assigned_sendLib entry hentry := (hroute entry hentry).2.2
  assigned_once := honce
  paid_decodes := (if_pos rfl).trans paidFees_unpack
  paid_address := rfl
  assigned_listed _ _ := rfl
  assigned_fee := hfee
  sent_address _ := rfl
  sent_decodes := hsent

/-- Two messages of one sender, the first assigned to the own DVN and the
second to the external one. -/
def twoSends : SendTransaction paidLibraries paidEndpoint where
  sends :=
    [paidSend 7 [assignedTo ownDVN 42 0] 1 (by decide +kernel) (by decide) (by decide)
      (by simpa using ⟨0, rfl, rfl⟩) (by decide +kernel),
     paidSend 8 [assignedTo externalDVN 43 3] 4 (by decide +kernel) (by decide)
      (by decide) (by simpa using ⟨1, rfl, rfl⟩) (by decide +kernel)]
  txHash := .ofNat 32 0xaa
  logs_txHash := by decide
  logs_ordered := by decide

/-- One message that both DVNs were assigned to. -/
def sharedSend : SendTransaction paidLibraries paidEndpoint where
  sends :=
    [paidSend 7 [assignedTo ownDVN 42 0, assignedTo externalDVN 43 1] 2
      (by decide +kernel) (by decide) (by decide)
      (by simpa using ⟨⟨0, rfl, rfl⟩, ⟨1, rfl, rfl⟩⟩) (by decide +kernel)]
  txHash := .ofNat 32 0xaa
  logs_txHash := by decide
  logs_ordered := by decide

theorem twoSends_paired : twoSends.logs.reverse.Perm twoSends.logs ∧
      Paired twoSends (fun _ => ownDVN) twoSends.logs.reverse :=
  ⟨reverse_perm _,
    (assignments_paired_iff twoSends (fun _ => ownDVN) (reverse_perm _)).mpr (by decide)⟩

/-- With two assignments the packet matches both, and the whole transaction is
refused. -/
theorem sharedSend_refused : decodeDVNSourceTxLogsForEndpoint paidLibraries paidEndpoint
        sharedSend.logs =
      .error s!"packet {(sentGUID 7).hex} matches multiple DVNJobAssigned logs" ∧
    ¬ Paired sharedSend (fun _ => ownDVN) sharedSend.logs := by
  have hrefused : decodeDVNSourceTxLogsForEndpoint paidLibraries paidEndpoint sharedSend.logs =
      .error s!"packet {(sentGUID 7).hex} matches multiple DVNJobAssigned logs" := by
    decide +kernel
  refine ⟨hrefused, ?_⟩
  rintro ⟨records, gaps, hdecoded, -⟩
  rw [hrefused] at hdecoded
  cases hdecoded

end Lazier.Indexer
