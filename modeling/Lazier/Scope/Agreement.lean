import Lazier.Ledger.RetryChains

/-!
# The selector filter and the signing gate

The send scope of a transaction is the configuration that can pause it: its
chain, and for the transactions of a packet also the other chain and the
pathway.  `lockTxSendScope` reads it under locks and `txSendScopeActiveSQL`
repeats it as one predicate.  Both say the same about a row without a nonce.
-/

namespace Lazier.Scope

open Ledger Library Store List Table

/-- The chain is enabled and not paused. -/
def ChainActive (config : ConfigTables) (eid : ℕ) : Prop :=
  ∃ chain, config.chains.find eid = some chain ∧ chain.active = true

def PathwayActive (config : ConfigTables) (route : Route) : Prop :=
  ∃ pathway, config.pathways.find route = some pathway ∧ pathway.active = true

structure PacketActive (config : ConfigTables) (packet : PacketRecord) : Prop where
  source : ChainActive config packet.srcEID
  destination : ChainActive config packet.dstEID
  pathway : PathwayActive config packet.route

/-- The configuration lets the transaction of this purpose be sent. -/
inductive ScopeActive (db : DB) (chainEID : ℕ) (purpose : Purpose) (guid : Bytes) : Prop
  | chain (hkind : txSendScopeKind purpose = .chain) (hguid : guid = [])
      (hactive : ChainActive db.config chainEID)
  | packet (packet : PacketRecord) (hkind : txSendScopeKind purpose = .packet)
      (hpacket : packet ∈ db.work.packets) (hguid : guid = packet.guid.1)
      (hchain : packet.dstEID = chainEID) (hactive : PacketActive db.config packet)

/-- The foreign keys of `packets`. -/
def PacketsReferToChains (db : DB) : Prop := ∀ packet ∈ db.work.packets,
    chainsExist db.config packet.srcEID packet.dstEID = true

variable {db : DB} {chainEID : ℕ} {purpose : Purpose} {guid : Bytes} {packet : PacketRecord}

theorem lockChainSendScope_ok :
    lockChainSendScope db chainEID = .ok () ↔ ChainActive db.config chainEID := by
  rw [lockChainSendScope, ChainActive]
  cases hfind : db.config.chains.find chainEID with
  | none => simp
  | some chain => cases hactive : chain.active <;> simp [hactive]

theorem lockedChains_iff (config : ConfigTables) (eids : List ℕ) :
    (eids.filterMap config.chains.find).length = eids.length ∧
        (eids.filterMap config.chains.find).all ChainRow.active = true ↔
      ∀ eid ∈ eids, ChainActive config eid := by
  induction eids with
  | nil => simp
  | cons eid rest ih =>
    cases hfind : config.chains.find eid with
    | none =>
      have hfewer : (rest.filterMap config.chains.find).length ≤
          rest.length := length_filterMap_le _ _
      simp only [filterMap_cons, hfind, length_cons,
        forall_mem_cons, ChainActive, reduceCtorEq, false_and, exists_false, iff_false]
      omega
    | some chain =>
      simp only [filterMap_cons, hfind, length_cons,
        all_cons, Bool.and_eq_true, forall_mem_cons, ← ih]
      constructor
      · rintro ⟨hlength, hactive, hall⟩
        exact ⟨⟨chain, hfind, hactive⟩, by omega, hall⟩
      · rintro ⟨⟨found, hfound, hactive⟩, hlength, hall⟩
        rw [hfind] at hfound
        cases hfound
        exact ⟨by omega, hactive, hall⟩

theorem endpoints_iff {config : ConfigTables} {srcEID dstEID : ℕ} :
    (∀ eid ∈ (if srcEID = dstEID then [srcEID] else [srcEID, dstEID]), ChainActive config eid) ↔
      ChainActive config srcEID ∧ ChainActive config dstEID := by
  split
  · rename_i hsame
    simp [hsame]
  · simp

theorem lockPacketSendScope_ok (hlength : guid.length = 32)
    (hfind : db.work.packets.find (bytesToHash guid) = some packet) :
    lockPacketSendScope db chainEID guid = .ok () ↔
      packet.dstEID = chainEID ∧ PacketActive db.config packet := by
  rw [lockPacketSendScope, if_neg (not_not.mpr hlength), hfind]
  dsimp only
  by_cases hchain : chainEID = packet.dstEID
  swap
  · rw [if_pos hchain]
    simp [Ne.symm hchain]
  rw [if_neg (not_not.mpr hchain)]
  have hchains := lockedChains_iff db.config
    (if packet.srcEID = packet.dstEID then [packet.srcEID]
      else [packet.srcEID, packet.dstEID])
  rw [endpoints_iff] at hchains
  generalize (if packet.srcEID = packet.dstEID then [packet.srcEID]
    else [packet.srcEID, packet.dstEID]) = eids at hchains ⊢
  split
  · rename_i hlocked
    have hinactive : ¬ (ChainActive db.config packet.srcEID ∧
        ChainActive db.config packet.dstEID) := by
      rw [← hchains]
      tauto
    simp only [reduceCtorEq, false_iff]
    exact fun hactive => hinactive ⟨hactive.2.source, hactive.2.destination⟩
  · rename_i hlocked
    obtain ⟨hsource, hdestination⟩ := hchains.mp (by tauto)
    have hpathway : packet.dstEID = chainEID ∧ PacketActive db.config packet ↔
        PathwayActive db.config packet.route :=
      ⟨fun hactive => hactive.2.pathway, fun hactive =>
        ⟨hchain.symm, hsource, hdestination, hactive⟩⟩
    rw [hpathway, PathwayActive]
    cases db.config.pathways.find packet.route with
    | none => simp
    | some pathway => cases hactive : pathway.active <;> simp [hactive]

theorem lockTxSendScope_ok_iff : lockTxSendScope db chainEID purpose guid = .ok () ↔
      ScopeActive db chainEID purpose guid := by
  rw [lockTxSendScope]
  cases hkind : txSendScopeKind purpose with
  | none =>
    simp only [reduceCtorEq, false_iff]
    intro hactive
    cases hactive with
    | chain hother | packet _ hother => rw [hkind] at hother; cases hother
  | chain =>
    dsimp only
    constructor
    · intro hlock
      split at hlock
      · cases hlock
      · rename_i hempty
        exact .chain hkind (length_eq_zero_iff.mp (not_not.mp hempty))
          (lockChainSendScope_ok.mp hlock)
    · intro hactive
      cases hactive with
      | packet _ hother => rw [hkind] at hother; cases hother
      | chain _ hguid hactive =>
        rw [hguid, if_neg (not_not.mpr length_nil)]
        exact lockChainSendScope_ok.mpr hactive
  | packet =>
    dsimp only
    constructor
    · intro hlock
      have hgate := hlock
      rw [lockPacketSendScope] at hlock
      split at hlock
      · cases hlock
      rename_i hlength
      rw [not_not] at hlength
      split at hlock
      · cases hlock
      rename_i packet hfind
      obtain ⟨hpacket, hkey⟩ := find_eq_some.mp hfind
      obtain ⟨hchain, hactive⟩ := (lockPacketSendScope_ok hlength hfind).mp hgate
      have hguid : bytesToHash guid = ⟨guid, hlength⟩ := FixedBytes.ofBytes_val ⟨guid, hlength⟩
      refine .packet packet hkind hpacket ?_ hchain hactive
      rw [hkey, hguid]
    · intro hactive
      cases hactive with
      | chain hother => rw [hkind] at hother; cases hother
      | packet packet _ hpacket hguid hchain hactive =>
        have hkey : bytesToHash guid = packet.guid := by
          rw [hguid]
          exact FixedBytes.ofBytes_val packet.guid
        exact (lockPacketSendScope_ok (hguid ▸ packet.guid.2)
          (hkey ▸ find_eq_some.mpr ⟨hpacket, rfl⟩)).mpr ⟨hchain, hactive⟩

/-! ## The filter -/

/-- With both chains present the filter of the work listings says that the
packet's scope is active. -/
theorem packetScopeActive_iff (hchains : chainsExist db.config packet.srcEID packet.dstEID = true) :
    packetScopeActive db packet = true ↔ PacketActive db.config packet := by
  rw [chainsExist, Bool.and_eq_true, Option.isSome_iff_exists, Option.isSome_iff_exists] at hchains
  obtain ⟨⟨source, hsource⟩, destination, hdestination⟩ := hchains
  have hnone : noInactiveChain db.config packet.srcEID packet.dstEID = true ↔
      ∀ chain ∈ db.config.chains, chain.eid = packet.srcEID ∨ chain.eid = packet.dstEID →
        chain.active = true := by
    simp only [noInactiveChain, all_eq_true, Bool.not_eq_true',
      Bool.and_eq_false_iff, decide_eq_false_iff_not, Bool.not_eq_false', ← imp_iff_not_or]
    rfl
  rw [packetScopeActive, Bool.and_eq_true]
  refine (and_congr (?_ : _ ↔ PathwayActive db.config packet.route) hnone).trans ?_
  · rw [PathwayActive]
    cases db.config.pathways.find packet.route <;> simp
  constructor
  · rintro ⟨hroute, hall⟩
    obtain ⟨hsourcemem, hsourcekey⟩ := find_eq_some.mp hsource
    obtain ⟨hdstmem, hdstkey⟩ := find_eq_some.mp hdestination
    exact ⟨⟨source, hsource, hall source hsourcemem (.inl hsourcekey)⟩,
      ⟨destination, hdestination, hall destination hdstmem (.inr hdstkey)⟩, hroute⟩
  · rintro ⟨⟨first, hfirst, hfirstactive⟩, ⟨second, hsecond, hsecondactive⟩, hroute⟩
    refine ⟨hroute, fun chain hchain hkey => ?_⟩
    rcases hkey with hkey | hkey
    · rw [find_eq_some.mpr ⟨hchain, hkey⟩] at hfirst
      cases hfirst
      exact hfirstactive
    · rw [find_eq_some.mpr ⟨hchain, hkey⟩] at hsecond
      cases hsecond
      exact hsecondactive

variable {row : OutboxRow}

/-- The filter lets a row without a nonce pass exactly for an active scope. -/
theorem txSendScopeActive_iff (hchains : PacketsReferToChains db) (hnonce : row.nonce = none)
    (hguid : ∀ bytes, row.guid = some bytes → bytes.length = 32) : txSendScopeActive db row = true ↔
      ScopeActive db row.chainEID row.purpose (row.guid.getD []) := by
  rw [txSendScopeActive, hnonce, Option.isSome_none, Bool.false_or]
  cases hkind : txSendScopeKind row.purpose with
  | none =>
    simp only [Bool.false_eq_true, false_iff]
    intro hactive
    cases hactive with
    | chain hother | packet _ hother => rw [hkind] at hother; cases hother
  | chain =>
    have hempty : row.guid.isNone = true ↔ row.guid.getD [] = [] := by
      cases hbytes : row.guid with
      | none => simp
      | some bytes =>
        have hlength := hguid bytes hbytes
        simp only [Option.isNone_some, Bool.false_eq_true, Option.getD_some, false_iff]
        rintro rfl
        cases hlength
    dsimp only
    rw [Bool.and_eq_true]
    refine (and_congr hempty (?_ : _ ↔ ChainActive db.config row.chainEID)).trans ?_
    · rw [ChainActive]
      cases db.config.chains.find row.chainEID <;> simp
    constructor
    · exact fun hactive => .chain hkind hactive.1 hactive.2
    · intro hactive
      cases hactive with
      | chain _ hguid hactive => exact ⟨hguid, hactive⟩
      | packet _ hother => rw [hkind] at hother; cases hother
  | packet =>
    dsimp only
    constructor
    · intro hselected
      split at hselected
      · cases hselected
      rename_i bytes hbytes
      simp only [any_eq_true, Bool.and_eq_true, decide_eq_true_eq] at hselected
      obtain ⟨packet, hpacket, ⟨hkey, hchain⟩, hactive⟩ := hselected
      refine .packet packet hkind hpacket ?_ hchain
        ((packetScopeActive_iff (hchains packet hpacket)).mp hactive)
      rw [hbytes, hkey, Option.getD_some]
    · intro hactive
      cases hactive with
      | chain hother => rw [hkind] at hother; cases hother
      | packet packet _ hpacket hkey hchain hactive =>
        cases hbytes : row.guid with
        | none =>
          have hlength := packet.guid.2
          rw [hbytes, Option.getD_none] at hkey
          rw [← hkey] at hlength
          cases hlength
        | some bytes =>
          rw [hbytes, Option.getD_some] at hkey
          simp only [any_eq_true, Bool.and_eq_true, decide_eq_true_eq]
          exact ⟨packet, hpacket, ⟨hkey.symm, hchain⟩,
            (packetScopeActive_iff (hchains packet hpacket)).mpr hactive⟩

/-! ## The selector and the claim -/

/-- The signing claim of a row without a nonce has found its scope active. -/
theorem scope_of_claim {now : Time} {lane : Lane} {token : UUID} {leaseTTL : Duration}
    {answer : OutboxTx} (hrow : db.tx.outbox.find row.id = some row) (hnonce : row.nonce = none)
    (hok : (claimOutboxForSigning db now row.id lane token leaseTTL).2 = .ok answer) :
    lockTxSendScope db row.chainEID row.purpose (row.guid.getD []) = .ok () := by
  unfold claimOutboxForSigning at hok
  split at hok
  · cases hok
  rw [hrow] at hok
  dsimp only at hok
  rw [hnonce] at hok
  split at hok
  · cases hok
  rename_i hopen
  rw [not_not] at hopen
  have hchain : lane.chainEID = row.chainEID := by rw [← hopen.1]; rfl
  split at hok
  · dsimp only at hok
    rw [hchain] at hok
    split at hok
    · cases hok
    · rename_i hscope
      exact hscope
  · split at hok <;> cases hok

/-- The rows of the outbox that the filter and the gate are asked about. -/
structure Unassigned (row : OutboxRow) : Prop where
  nonce : row.nonce = none
  guid : ∀ bytes, row.guid = some bytes → bytes.length = 32
  purpose : txSendScopeKind row.purpose ≠ .none

/-- The filter and the gate agree about the scope of an unsent row, so the
selector offers no such row that the claim refuses for its scope and hides none
that the claim accepts. -/
theorem selector_agrees_with_gate {db : DB} (hchains : PacketsReferToChains db) :
    (∀ row, Unassigned row →
      (txSendScopeActive db row = true ↔
        lockTxSendScope db row.chainEID row.purpose (row.guid.getD []) = .ok ())) ∧
    (∀ now lane offered, peekSendableTx db now lane = .ok (some offered) → Unassigned offered.row →
      lockTxSendScope db offered.row.chainEID offered.row.purpose
        (offered.row.guid.getD []) = .ok ()) ∧
    ∀ row, db.tx.outbox.find row.id = some row → Unassigned row → ∀ now lane token leaseTTL answer,
        (claimOutboxForSigning db now row.id lane token leaseTTL).2 =
          .ok answer → txSendScopeActive db row = true := by
  have hagree : ∀ row, Unassigned row →
      (txSendScopeActive db row = true ↔
        lockTxSendScope db row.chainEID row.purpose (row.guid.getD []) =
          .ok ()) := fun row hunassigned => by
    rw [lockTxSendScope_ok_iff]
    exact txSendScopeActive_iff hchains hunassigned.nonce hunassigned.guid
  refine ⟨hagree, fun now lane offered hoffered hunassigned => ?_,
    fun row hrow hunassigned now lane token leaseTTL answer hok =>
      (hagree row hunassigned).mpr (scope_of_claim hrow hunassigned.nonce hok)⟩
  rw [← hagree offered.row hunassigned]
  rw [peekSendableTx] at hoffered
  split at hoffered
  · cases hoffered
  split at hoffered
  · cases hoffered
  rw [Except.ok.injEq, Option.map_eq_some_iff] at hoffered
  obtain ⟨row, hfirst, rfl⟩ := hoffered
  have hsendable := (mem_filter.mp (mem_of_firstBy_eq_some hfirst)).2
  rw [sendable, Bool.and_eq_true] at hsendable
  exact hsendable.2

/-- The commit of the first packet as `EnqueueExecutorTx` queues it. -/
def firstCommit : OutboxRow := queuedRow 1 0
    ((firstRequest 2 .executorCommitVerification).withGUID firstPacket.guid) 0 none

/-- The filter offers the commit of an assigned packet, and the gate lets it
pass. -/
theorem firstCommit_offered : PacketsReferToChains (replay firstAssignment) ∧
      txSendScopeActive (replay firstAssignment) firstCommit = true ∧
      lockTxSendScope (replay firstAssignment) firstCommit.chainEID
        firstCommit.purpose (firstCommit.guid.getD []) = .ok () := by
  have hchains : PacketsReferToChains (replay firstAssignment) := by
    have hall : (replay firstAssignment).work.packets.rows.all (fun packet =>
        chainsExist (replay firstAssignment).config packet.srcEID
          packet.dstEID) = true := by decide +kernel
    exact all_eq_true.mp hall
  have hunassigned : Unassigned firstCommit := ⟨rfl, by rintro _ ⟨⟩; rfl, by decide⟩
  have hactive : txSendScopeActive (replay firstAssignment) firstCommit = true := by decide +kernel
  exact ⟨hchains, hactive,
    ((selector_agrees_with_gate hchains).1 firstCommit hunassigned).mp hactive⟩

end Lazier.Scope
