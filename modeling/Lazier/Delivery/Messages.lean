import Lazier.Delivery.Steps
import Lazier.Indexer.ForeignLogs
import Lazier.DVN.Frames

/-!
# Messages and their packets

A packet carries one message for as long as it is stored, because the endpoint
of the source chain sends one message under one guid.  A log of the destination
chain repeats the message, so it finds the same packet whenever it is read.
-/

namespace Lazier.Delivery

open Chain Indexer Library Manager Store Option Table

variable {guid : Hash} {work : WorkTables} {other : PacketRecord} {op : Op}
  {identity : DestinationPacketIdentity}

/-! ## Messages -/

/-- What the events of the destination chain repeat of a packet. -/
structure Message where
  route : Route
  nonce : ℕ
  body : Bytes
  deriving DecidableEq

def sentMessage (packet : PacketRecord) : Message := ⟨packet.route, packet.nonce, packet.message⟩

/-- The endpoint of the source chain sends one message under one guid, and the
source streams store no other. -/
def sends (sent : Hash → Message) : Label → Bool
  | .call (.work (.upsertPacket packet)) => decide (sentMessage packet = sent packet.guid)
  | _ => true

def carried (packet : PacketRecord) : Option StoreError × Message :=
  (packet.validationError, sentMessage packet)

def carriedAt (work : WorkTables) (guid : Hash) : Option (Option StoreError × Message) :=
  (work.packets.find guid).map carried

/-- Stored packets are valid, carry the message of their guid, and no two of
them have one identity. -/
structure PacketsSound (sent : Hash → Message) (work : WorkTables) : Prop where
  named : ∀ guid record, carriedAt work guid = some record → record = (none, sent guid)
  sole : ∀ guid other, carriedAt work guid ≠ none →
    carriedAt work other ≠ none → (sent guid).route = (sent other).route →
    (sent guid).nonce = (sent other).nonce → guid = other

variable {sent : Hash → Message} {db : DB} {packet : PacketRecord}

theorem carriedAt_eq (hfind : work.packets.find guid = some packet) :
    carriedAt work guid = some (carried packet) := by
  rw [carriedAt, hfind, map_some]

theorem exists_packet (hstored : carriedAt work guid ≠ none) :
    ∃ packet, work.packets.find guid = some packet ∧ packet.guid = guid := by
  obtain ⟨record, hrecord⟩ := ne_none_iff_exists'.mp hstored
  obtain ⟨packet, hfind, -⟩ := map_eq_some_iff.mp hrecord
  exact ⟨packet, hfind, (find_eq_some.mp hfind).2⟩

theorem PacketsSound.valid (hsound : PacketsSound sent work)
    (hfind : work.packets.find guid = some packet) :
    packet.validationError = none ∧ sentMessage packet = sent guid := by
  have hsame := hsound.named guid _ (carriedAt_eq hfind)
  exact ⟨congrArg Prod.fst hsame, congrArg Prod.snd hsame⟩

/-- `UpsertPacket` refuses, or it stores a valid packet of an identity that no
other packet has. -/
theorem upsertPacket_carried (db : DB) (packet : PacketRecord) : (upsertPacket db packet).1 = db ∨
      packet.validationError = none ∧ packetIdentityTaken db.work packet = false ∧
        ∀ guid, carriedAt (upsertPacket db packet).1.work guid =
          if guid = packet.guid then some (carried packet)
          else carriedAt db.work guid := by
  unfold upsertPacket
  split
  · exact .inl rfl
  rename_i hvalid
  split
  · exact .inl rfl
  split
  · exact .inl rfl
  rename_i htaken
  rw [Bool.not_eq_true] at htaken
  refine .inr ⟨hvalid, htaken, fun guid => ?_⟩
  split
  · rename_i hnone
    change ((db.work.packets.insertNew packet).find guid).map carried = _
    split
    · rename_i heq
      rw [heq, find_insertNew_self hnone, map_some]
    · rename_i hne
      rw [find_insertNew_of_ne hne, carriedAt]
  · rename_i stored hstored
    change ((db.work.packets.set { packet with status := stored.status }).find guid).map carried = _
    split
    · rename_i heq
      have hkey : ({ packet with status := stored.status } : PacketRecord).guid = packet.guid := rfl
      rw [heq, ← hkey, find_set_self (hkey.symm ▸ hstored), map_some]
      rfl
    · rename_i hne
      have hother : guid ≠ ({ packet with status := stored.status } : PacketRecord).guid := hne
      rw [find_set_of_ne hother, carriedAt]

theorem PacketsSound.fresh (hsound : PacketsSound sent db.work)
    (hmessage : sentMessage packet = sent packet.guid)
    (htaken : packetIdentityTaken db.work packet = false) {other : Hash} (hne : other ≠ packet.guid)
    (hstored : carriedAt db.work other ≠ none)
    (hroute : (sent other).route = (sent packet.guid).route)
    (hnonce : (sent other).nonce = (sent packet.guid).nonce) : False := by
  obtain ⟨stored, hfind, hguid⟩ := exists_packet hstored
  have hsent := (hsound.valid hfind).2
  rw [← hsent, ← hmessage] at hroute hnonce
  have hmem := (find_eq_some.mp hfind).1
  have htrue : packetIdentityTaken db.work packet = true := List.any_eq_true.mpr ⟨stored, hmem,
      decide_eq_true ⟨hguid ▸ hne, hroute, hnonce⟩⟩
  rw [htaken] at htrue
  cases htrue

theorem PacketsSound.upsertPacket (hsound : PacketsSound sent db.work)
    (hmessage : sentMessage packet = sent packet.guid) :
    PacketsSound sent (upsertPacket db packet).1.work := by
  rcases upsertPacket_carried db packet with hsame | ⟨hvalid, htaken, hcarried⟩
  · rw [hsame]
    exact hsound
  refine ⟨fun guid record hrecord => ?_, fun guid other hguid hother hroute hnonce => ?_⟩
  · rw [hcarried] at hrecord
    split at hrecord
    · rename_i heq
      cases hrecord
      rw [heq, carried, hvalid, hmessage]
    · exact hsound.named guid record hrecord
  · rw [hcarried] at hguid hother
    by_cases heq : guid = packet.guid <;> by_cases hsame : other = packet.guid
    · exact heq.trans hsame.symm
    · rw [if_neg hsame] at hother
      rw [heq] at hroute hnonce
      exact (hsound.fresh hmessage htaken hsame hother hroute.symm hnonce.symm).elim
    · rw [if_neg heq] at hguid
      rw [hsame] at hroute hnonce
      exact (hsound.fresh hmessage htaken heq hguid hroute hnonce).elim
    · rw [if_neg heq] at hguid
      rw [if_neg hsame] at hother
      exact hsound.sole guid other hguid hother hroute hnonce

theorem carriedAt_of_other (db : DB) (hop : op.writesPacket = false) :
    carriedAt (op.apply db).work = carriedAt db.work := by
  funext guid
  have hcontents := congrArg (Option.map carried) (DVN.apply_op_contents db hop guid)
  rw [map_map, map_map] at hcontents
  exact hcontents

theorem PacketsSound.apply (hsound : PacketsSound sent db.work)
    (hmessage : ∀ packet, op = .work (.upsertPacket packet) →
      sentMessage packet = sent packet.guid) :
    PacketsSound sent (op.apply db).work := by
  cases hop : op.writesPacket with
  | false =>
    have hsame := carriedAt_of_other db hop
    exact ⟨hsame ▸ hsound.named, hsame ▸ hsound.sole⟩
  | true =>
    cases op with
    | tx op => cases hop
    | work op =>
      cases op with
      | upsertPacket packet => exact hsound.upsertPacket (hmessage packet rfl)
      | _ => cases hop

theorem carriedAt_persists (hstored : carriedAt db.work guid ≠ none) :
    carriedAt (op.apply db).work guid ≠ none := by
  cases hop : op.writesPacket with
  | false => exact carriedAt_of_other db hop ▸ hstored
  | true =>
    cases op with
    | tx op => cases hop
    | work op =>
      cases op with
      | upsertPacket packet =>
        change carriedAt (Store.upsertPacket db packet).1.work guid ≠ none
        rcases upsertPacket_carried db packet with
          hsame | ⟨-, -, hcarried⟩
        · rw [hsame]
          exact hstored
        · rw [hcarried]
          split
          · simp
          · exact hstored
      | _ => cases hop

variable {deployment : Deployment} {pre post : System} {label : Label}

theorem carriedAt_step (hstored : carriedAt pre.db.work guid ≠ none)
    (hstep : SystemStep deployment pre label post) : carriedAt post.db.work guid ≠ none := by
  rcases step_db hstep with hsame | ⟨op, -, hdb⟩
  · rw [hsame]
    exact hstored
  · rw [hdb]
    exact carriedAt_persists hstored

/-! ## Packets of a log -/

/-- The lookup by this identity is complete and finds the packet. -/
def NamedBy (identity : DestinationPacketIdentity) (packet : PacketRecord) : Prop :=
  packet.route = identity.route ∧ packet.nonce = identity.nonce ∧ ∀ db,
    getPacketByDestination db identity.route identity.nonce = .ok (db.work.packets.rows.find?
      fun row => decide (row.route = identity.route ∧ row.nonce = identity.nonce))

def Names (dstEID : ℕ) (packet : PacketRecord) : DestinationEvent → Prop
  | .verified event =>
    NamedBy (event.origin.identity dstEID event.receiver) packet
  | .delivered event =>
    NamedBy (event.origin.identity dstEID event.receiver) packet
  | .alert event => packet.guid = event.guid

/-- A packet that a stream of the chain has found for the log. -/
structure Finds (libs : EventLibraries) (sent : Hash → Message) (dstEID : ℕ)
    (log : Log) (event : DestinationEvent) (packet : PacketRecord) : Prop where
  decoded : destinationEvent libs log = .ok (some event)
  valid : packet.validationError = none
  message : sentMessage packet = sent packet.guid
  chain : packet.dstEID = dstEID
  names : Names dstEID packet event

variable {libs : EventLibraries} {dstEID : ℕ} {log : Log} {event : DestinationEvent}

theorem guid_ne_of_valid (hvalid : packet.validationError = none) : packet.guid ≠ Hash.zero := by
  unfold PacketRecord.validationError at hvalid
  split_ifs at hvalid with hguid
  exact hguid

theorem getPacketByDestination_named
    (hfound : getPacketByDestination db identity.route identity.nonce = .ok (some packet)) :
    db.work.packets.find packet.guid = some packet ∧ NamedBy identity packet := by
  obtain ⟨hdst, hsrc, hsender, hreceiver, hnonce⟩ := getPacketByDestination_complete hfound
  have hroute := getPacketByDestination_route hfound
  unfold getPacketByDestination at hfound
  split_ifs at hfound
  rw [Except.ok.injEq] at hfound
  have htest := List.find?_some hfound
  rw [decide_eq_true_eq] at htest
  exact ⟨find_eq_some.mpr ⟨List.mem_of_find?_eq_some hfound, rfl⟩, hroute, htest.2,
    fun db => getPacketByDestination_eq db hdst hsrc hsender hreceiver hnonce⟩

theorem PacketsSound.named_unique (hsound : PacketsSound sent db.work)
    (hmessage : sentMessage packet = sent packet.guid)
    (hstored : carriedAt db.work packet.guid ≠ none) (hnamed : NamedBy identity packet)
    (hmessage' : sentMessage other = sent other.guid)
    (hstored' : carriedAt db.work other.guid ≠ none) (hnamed' : NamedBy identity other) :
    other.guid = packet.guid := by
  refine hsound.sole _ _ hstored' hstored ?_ ?_
  · rw [← hmessage, ← hmessage']
    exact hnamed'.1.trans hnamed.1.symm
  · rw [← hmessage, ← hmessage']
    exact hnamed'.2.1.trans hnamed.2.1.symm

theorem PacketsSound.lookup (hsound : PacketsSound sent db.work)
    (hmessage : sentMessage packet = sent packet.guid)
    (hstored : carriedAt db.work packet.guid ≠ none) (hnamed : NamedBy identity packet) :
    ∃ found, getPacketByDestination db identity.route identity.nonce = .ok (some found) ∧
      db.work.packets.find packet.guid = some found := by
  obtain ⟨hroute, hnonce, hcomplete⟩ := hnamed
  have hlookup := hcomplete db
  obtain ⟨stored, hfind, -⟩ := exists_packet hstored
  have hsame : sentMessage stored = sentMessage packet := (hsound.valid hfind).2.trans hmessage.symm
  have htest : (db.work.packets.rows.find? fun row =>
      decide (row.route = identity.route ∧ row.nonce = identity.nonce))
      ≠ none := by
    rw [ne_eq, List.find?_eq_none]
    intro hnone
    refine hnone stored (find_eq_some.mp hfind).1 (decide_eq_true ⟨?_, ?_⟩)
    · exact (congrArg Message.route hsame).trans hroute
    · exact (congrArg Message.nonce hsame).trans hnonce
  obtain ⟨found, hfound⟩ := ne_none_iff_exists'.mp htest
  rw [hfound] at hlookup
  obtain ⟨hrow, hagain⟩ := getPacketByDestination_named hlookup
  have hguid : found.guid = packet.guid :=
    hsound.named_unique hmessage hstored ⟨hroute, hnonce, hcomplete⟩
      (hsound.valid hrow).2 (by rw [carriedAt_eq hrow]; simp) hagain
  exact ⟨found, hlookup, hguid ▸ hrow⟩

theorem Finds.lookup (hfinds : Finds libs sent dstEID log event packet)
    (hsound : PacketsSound sent db.work) (hstored : carriedAt db.work packet.guid ≠ none) :
    ∃ found, packetForDestinationLog libs db dstEID log = .ok (some (some found)) ∧
      db.work.packets.find packet.guid = some found := by
  have hnames := hfinds.names
  rw [packetForDestinationLog, hfinds.decoded]
  cases event with
  | verified event | delivered event =>
    obtain ⟨found, hlookup, hfind⟩ := hsound.lookup hfinds.message hstored hnames
    dsimp only
    rw [hlookup]
    exact ⟨found, rfl, hfind⟩
  | alert event =>
    obtain ⟨found, hfind, -⟩ := exists_packet hstored
    refine ⟨found, ?_, hfind⟩
    dsimp only
    rw [← hnames, getPacket, if_neg (guid_ne_of_valid hfinds.valid), hfind]
    rfl

theorem Finds.unique {event' : DestinationEvent} (hfinds : Finds libs sent dstEID log event packet)
    (hfinds' : Finds libs sent dstEID log event' other) (hsound : PacketsSound sent db.work)
    (hstored : carriedAt db.work packet.guid ≠ none)
    (hstored' : carriedAt db.work other.guid ≠ none) : other.guid = packet.guid := by
  have hsame := hfinds'.decoded
  rw [hfinds.decoded] at hsame
  cases hsame
  have hnames := hfinds.names
  have hnames' := hfinds'.names
  cases event with
  | verified event | delivered event =>
    exact hsound.named_unique hfinds.message hstored hnames hfinds'.message hstored' hnames'
  | alert event => exact hnames'.trans hnames.symm

end Lazier.Delivery
