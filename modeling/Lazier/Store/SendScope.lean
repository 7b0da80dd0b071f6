import Lazier.Store.Schema

/-!
# Send scopes and pauses

Every transaction purpose is mapped to the configuration rows that can pause
it.  The gates read those rows under share locks, so within one store method
they are plain reads of the committed configuration.
-/

namespace Lazier.Store

open Library

/-! ## Configuration sync and pauses -/

/-- A pathway as the validated startup configuration declares it. -/
structure ConfiguredPathway where
  route : Route
  enabled : Bool

/-- The part of `chain.Registry` that `SyncConfig` persists. -/
structure Registry where
  chains : List ℕ
  pathways : List ConfiguredPathway

def enableChain (chains : Table ℕ ChainRow ChainRow.eid) (eid : ℕ) :
    Table ℕ ChainRow ChainRow.eid :=
  match chains.find eid with
  | some row => chains.set { row with enabled := true }
  | none => chains.insertNew ⟨eid, true, false⟩

def upsertPathway (pathways : Table Route PathwayRow PathwayRow.route)
    (pathway : ConfiguredPathway) : Table Route PathwayRow PathwayRow.route :=
  match pathways.find pathway.route with
  | some row => pathways.set { row with enabled := pathway.enabled }
  | none => pathways.insertNew ⟨pathway.route, pathway.enabled, false⟩

/-- Foreign keys of a row that names two chains. -/
def chainsExist (config : ConfigTables) (srcEID dstEID : ℕ) : Bool :=
  (config.chains.find srcEID).isSome && (config.chains.find dstEID).isSome

def syncConfig (db : DB) (registry : Registry) : Result Unit :=
  let disabledChains := db.config.chains.mapRows
    (fun row => { row with enabled := false }) (fun _ => rfl)
  let disabledPathways := db.config.pathways.mapRows
    (fun row => { row with enabled := false }) (fun _ => rfl)
  let config : ConfigTables :=
    { chains := registry.chains.foldl enableChain disabledChains
      pathways := registry.pathways.foldl upsertPathway disabledPathways }
  if registry.pathways.all fun pathway =>
      chainsExist config pathway.route.srcEID pathway.route.dstEID then
    commit (db.withConfig config) ()
  else
    rollback db (.constraintViolation "pathways_eid_fkey")

def pauseChain (db : DB) (eid : ℕ) : Result Unit :=
  if eid = 0 then
    rollback db (.message "chain eid is required")
  else
    match db.config.chains.find eid with
    | none => rollback db (.message s!"chain {eid} was not found")
    | some row =>
      commit (db.withConfig { db.config with
        chains := db.config.chains.set { row with paused := true } }) ()

/-- `UPDATE pathways SET paused = true FROM packets` for one packet. -/
def pausePacketPathway (db : DB) (guid : Hash) : Option ConfigTables :=
  match db.work.packets.find guid with
  | none => none
  | some packet =>
    match db.config.pathways.find packet.route with
    | none => none
    | some pathway =>
      some { db.config with
        pathways := db.config.pathways.set { pathway with paused := true } }

def pausePathwayForPacket (db : DB) (guid : Hash) : Result Unit :=
  if guid = Hash.zero then
    rollback db (.message "packet guid is required")
  else
    match pausePacketPathway db guid with
    | none =>
      rollback db (.message s!"pathway for packet {guid.hex} was not found")
    | some config => commit (db.withConfig config) ()

/-! ## The send-scope gate -/

inductive TxSendScope
  | none
  | chain
  | packet
  deriving DecidableEq

/-- The closed mapping from purposes to scopes. -/
def txSendScopeKind : Purpose → TxSendScope
  | .pricingSetPriceSnapshot => .chain
  | .executorCommitVerification => .packet
  | .executorLzReceive => .packet
  | .dvnVerify => .packet
  | .other _ => .none

def ChainRow.active (row : ChainRow) : Bool := row.enabled && !row.paused
def PathwayRow.active (row : PathwayRow) : Bool := row.enabled && !row.paused

def lockChainSendScope (db : DB) (chainEID : ℕ) : Except StoreError Unit :=
  match db.config.chains.find chainEID with
  | none => .error .txSendScopeInactive
  | some row =>
    if row.active then .ok () else .error .txSendScopeInactive

def lockPacketSendScope (db : DB) (chainEID : ℕ) (guid : Bytes) : Except StoreError Unit :=
  if guid.length ≠ 32 then
    .error (.message s!"packet-scoped tx requires a 32-byte guid, got {guid.length} bytes")
  else
    match db.work.packets.find (bytesToHash guid) with
    | none =>
      .error (.message s!"packet {(bytesToHash guid).hex} not found for send scope")
    | some packet =>
      -- Packet purposes send on the destination chain; another chain could
      -- pass the pathway check while spending on a paused chain.
      if chainEID ≠ packet.dstEID then
        .error (.message
          (s!"outbox chain {chainEID} does not match packet {(bytesToHash guid).hex} " ++
            s!"destination {packet.dstEID}"))
      else
        let eids :=
          if packet.srcEID = packet.dstEID then [packet.srcEID]
          else [packet.srcEID, packet.dstEID]
        let locked := eids.filterMap db.config.chains.find
        if locked.length ≠ eids.length ∨ ¬ locked.all ChainRow.active then
          .error .txSendScopeInactive
        else
          match db.config.pathways.find packet.route with
          | none => .error .txSendScopeInactive
          | some pathway =>
            if pathway.active then .ok ()
            else .error .txSendScopeInactive

def lockTxSendScope (db : DB) (chainEID : ℕ) (purpose : Purpose)
    (guid : Bytes) : Except StoreError Unit :=
  match txSendScopeKind purpose with
  | .chain =>
    if guid.length ≠ 0 then
      .error (.message s!"purpose {purpose.text} must not carry a packet guid")
    else lockChainSendScope db chainEID
  | .packet => lockPacketSendScope db chainEID guid
  | .none =>
    .error (.message s!"purpose \"{purpose.text}\" has no send scope; refusing to sign")

/-- `NOT EXISTS (SELECT 1 FROM chains c WHERE c.eid IN (src, dst) AND
(NOT c.enabled OR c.paused))`. -/
def noInactiveChain (config : ConfigTables) (srcEID dstEID : ℕ) : Bool :=
  config.chains.rows.all fun row =>
    !(decide (row.eid = srcEID ∨ row.eid = dstEID) && !row.active)

/-- The pathway and chain filter of the work listings. -/
def packetScopeActive (db : DB) (packet : PacketRecord) : Bool :=
  (match db.config.pathways.find packet.route with
    | none => false
    | some pathway => pathway.active) &&
    noInactiveChain db.config packet.srcEID packet.dstEID

/-- `txSendScopeActiveSQL`: rows that hold a nonce always pass. -/
def txSendScopeActive (db : DB) (row : OutboxRow) : Bool := row.nonce.isSome ||
    match txSendScopeKind row.purpose with
    | .chain =>
      row.guid.isNone &&
        (match db.config.chains.find row.chainEID with
          | none => false
          | some chain => chain.active)
    | .packet =>
      (match row.guid with
        | none => false
        | some guid =>
          db.work.packets.rows.any fun packet =>
            decide (packet.guid.1 = guid) &&
              decide (packet.dstEID = row.chainEID) &&
              packetScopeActive db packet)
    | .none => false

end Lazier.Store
