import Lazier.Ledger.RetryChains
import Lazier.Library.Batches

/-!
# Fee accounting

The reconciler prices the gas costs of mined worker receipts in source-chain
wei, a batch of the oldest unpriced receipts at a time.  Receipts that cannot
be priced stay in the listing, so the others are reached exactly if fewer than
a batch of them are older.
-/

namespace Lazier.FeeAccounting

open Library Store List

/-- `UnpricedWorkerReceiptCost`.  Role, purpose and guid are only logged. -/
structure UnpricedWorkerReceiptCost where
  id : ℕ
  srcEID : ℕ
  dstEID : ℕ
  chainEID : ℕ
  gasCostDstWei : ℕ
  deriving DecidableEq

/-! ## The listing -/

/-- A row of the listing: a worker receipt without a source-chain cost, joined
with its packet. -/
def unpricedCost (work : WorkTables) (row : OutboxRow) : Option UnpricedWorkerReceiptCost :=
  match row.storedReceipt with
  | none => none
  | some receipt =>
    if row.purpose ∈ [.executorCommitVerification, .executorLzReceive, .dvnVerify] ∧
        receipt.gasCostSrcWei = none then
      (work.packets.rows.find? fun packet => row.guid = some packet.guid.1).map fun packet =>
        ⟨row.id, packet.srcEID, packet.dstEID, row.chainEID, receipt.gasCostDstWei⟩
    else none

/-- `ORDER BY receipt_observed_at, id`; every listed row has a receipt. -/
def listingKey (row : OutboxRow) : Time ×ₗ ℕ :=
  toLex ((row.storedReceipt.map StoredReceipt.observedAt).getD 0, row.id)

/-- All rows of the listing, in its order. -/
def unpricedCosts (db : DB) : List UnpricedWorkerReceiptCost :=
  (db.tx.outbox.rows.insertionSort (listingKey · ≤ listingKey ·)).filterMap (unpricedCost db.work)

def listUnpricedWorkerReceiptCosts (db : DB) (limit : ℕ) :
    Except StoreError (List UnpricedWorkerReceiptCost) :=
  if limit = 0 then .error (.message "unpriced receipt cost limit must be positive")
  else .ok ((unpricedCosts db).take limit)

/-! ## Prices -/

/-- A validated observation. -/
abbrev Price := {usd : ℚ // 0 < usd}

/-- The sources of a chain, with what `ChainNativePrice` makes of them. -/
structure ChainSources where
  nativeAssetID : String
  nativePrice : Except String Price

def pathwayNativePrices (sources : ℕ → Option ChainSources) (srcEID dstEID : ℕ) :
    Except String (Price × Price) := do
  let some src := sources srcEID | .error s!"pricing sources for chain {srcEID} are not configured"
  let some dst := sources dstEID | .error s!"pricing sources for chain {dstEID} are not configured"
  if src.nativeAssetID ≠ "" ∧ src.nativeAssetID = dst.nativeAssetID then
    return (⟨1, one_pos⟩, ⟨1, one_pos⟩)
  return (← src.nativePrice, ← dst.nativePrice)

def convertDstWeiToSrcWei (dstWei : ℕ) (srcNativeUSD dstNativeUSD : Price) : ℕ :=
  ⌈dstWei * dstNativeUSD.1 / srcNativeUSD.1⌉₊

def priceReceiptCost (sources : ℕ → Option ChainSources) (cost : UnpricedWorkerReceiptCost) :
    Except String ℕ :=
  if cost.chainEID ≠ cost.dstEID then
    .error "receipt chain eid does not match packet destination eid"
  else (pathwayNativePrices sources cost.srcEID cost.dstEID).map fun prices =>
    convertDstWeiToSrcWei cost.gasCostDstWei prices.1 prices.2

/-! ## Passes -/

/-- A pass, with the answers of the price sources while each receipt is
priced. -/
structure Pass where
  now : Time
  sources : ℕ → ℕ → Option ChainSources

/-- The loop of `ProcessOnce`: a receipt that cannot be priced is deferred. -/
def priceCosts (pass : Pass) (db : DB) (processed : ℕ) : List UnpricedWorkerReceiptCost → Result ℕ
  | [] => commit db processed
  | cost :: rest =>
    match priceReceiptCost (pass.sources cost.id) cost with
    | .error _ => priceCosts pass db processed rest
    | .ok gasCostSrcWei =>
      match markTxReceiptCostPriced db pass.now cost.id gasCostSrcWei with
      | (failed, .error error) => (failed, .error error)
      | (priced, .ok ()) => priceCosts pass priced (processed + 1) rest

def processOnce (limit : ℕ) (db : DB) (pass : Pass) : Result ℕ :=
  match listUnpricedWorkerReceiptCosts db limit with
  | .error error => (db, .error error)
  | .ok costs => priceCosts pass db 0 costs

/-- The database after the first passes of a schedule. -/
def passes (limit : ℕ) (schedule : ℕ → Pass) (db : DB) : ℕ → DB
  | 0 => db
  | count + 1 => (processOnce limit (passes limit schedule db count) (schedule count)).1

/-- The prices of exactly these pathways are available in the pass. -/
def Pass.Offers (pass : Pass) (available : ℕ → ℕ → Bool) : Prop :=
  ∀ id srcEID dstEID,
    (pathwayNativePrices (pass.sources id) srcEID dstEID).isOk = available srcEID dstEID

/-- A receipt of a pathway with available prices, mined on its destination. -/
def priceable (available : ℕ → ℕ → Bool) (cost : UnpricedWorkerReceiptCost) : Bool :=
  decide (cost.chainEID = cost.dstEID) && available cost.srcEID cost.dstEID

/-! ## One receipt -/

theorem priceReceiptCost_isOk {pass : Pass} {available : ℕ → ℕ → Bool}
    (hoffers : pass.Offers available) (cost : UnpricedWorkerReceiptCost) :
    (priceReceiptCost (pass.sources cost.id) cost).isOk = priceable available cost := by
  rw [priceReceiptCost, priceable, ← hoffers cost.id]
  by_cases hchain : cost.chainEID = cost.dstEID
  · rw [if_neg (not_not.mpr hchain), decide_eq_true hchain, Bool.true_and]
    cases pathwayNativePrices (pass.sources cost.id) cost.srcEID cost.dstEID <;> rfl
  · rw [if_pos hchain, decide_eq_false hchain, Bool.false_and]
    rfl

theorem unpricedCost_eq_some {work : WorkTables} {row : OutboxRow}
    {cost : UnpricedWorkerReceiptCost} (hcost : unpricedCost work row = some cost) :
    cost.id = row.id ∧
      ∃ receipt, row.storedReceipt = some receipt ∧ receipt.gasCostSrcWei = none := by
  unfold unpricedCost at hcost
  split at hcost
  · cases hcost
  · rename_i receipt hreceipt
    split at hcost
    · rename_i hlisted
      obtain ⟨packet, -, rfl⟩ := Option.map_eq_some_iff.mp hcost
      exact ⟨rfl, receipt, hreceipt, hlisted.2⟩
    · cases hcost

theorem mem_unpricedCosts {db : DB} {cost : UnpricedWorkerReceiptCost} :
    cost ∈ unpricedCosts db ↔ ∃ row ∈ db.tx.outbox, unpricedCost db.work row = some cost := by
  simp [unpricedCosts, mem_filterMap]

/-- A row that keeps its place and needs no price leaves the listing, and
nothing else does. -/
theorem unpricedCosts_setRow {db : DB} {row new : OutboxRow} (hrow : row ∈ db.tx.outbox)
    (hkey : listingKey new = listingKey row) (hpriced : unpricedCost db.work new = none) :
    unpricedCosts (db.withTx (db.tx.setRow new)) = (unpricedCosts db).filter (·.id ≠ new.id) := by
  have hid : new.id = row.id := congrArg (fun key => (ofLex key).2) hkey
  have hplace : ∀ old ∈ db.tx.outbox.rows,
      listingKey (if old.id = new.id then new else old) = listingKey old := by
    intro old hold
    split
    · rename_i heq
      rw [SerialTable.eq_of_key_eq hold hrow (heq.trans hid), hkey]
    · rfl
  have hsorted := map_insertionSort (listingKey · ≤ listingKey ·) (listingKey · ≤ listingKey ·)
    (fun old => if old.id = new.id then new else old) db.tx.outbox.rows
    fun left hleft right hright => by rw [hplace left hleft, hplace right hright]
  rw [unpricedCosts, unpricedCosts, filter_filterMap]
  refine (congrArg (List.filterMap _) hsorted.symm).trans ?_
  rw [filterMap_map]
  refine filterMap_congr fun old _ => ?_
  dsimp only [Function.comp_apply]
  by_cases heq : old.id = new.id
  · rw [if_pos heq]
    refine hpriced.trans (Option.filter_eq_none_iff.mpr fun cost hcost => ?_).symm
    simp [(unpricedCost_eq_some hcost).1, heq]
  · rw [if_neg heq]
    cases hcost : unpricedCost db.work old with
    | none => exact hcost
    | some cost =>
      have hkept : cost.id ≠ new.id := (unpricedCost_eq_some hcost).1 ▸ heq
      exact hcost.trans (Option.filter_some_pos (by simpa using hkept)).symm

theorem markTxReceiptCostPriced_listed {db : DB} {cost : UnpricedWorkerReceiptCost}
    (hcost : cost ∈ unpricedCosts db) (hid : cost.id ≠ 0) (now : Time) (gasCostSrcWei : ℕ) :
    ∃ priced, markTxReceiptCostPriced db now cost.id gasCostSrcWei = commit priced () ∧
      unpricedCosts priced = (unpricedCosts db).filter (·.id ≠ cost.id) := by
  obtain ⟨row, hrow, hlisted⟩ := mem_unpricedCosts.mp hcost
  obtain ⟨hsame, receipt, hreceipt, -⟩ := unpricedCost_eq_some hlisted
  have hfind : db.tx.outbox.find cost.id = some row :=
    SerialTable.find_eq_some.mpr ⟨hrow, hsame.symm⟩
  rw [markTxReceiptCostPriced, if_neg hid, hfind]
  dsimp only
  rw [hreceipt, hsame]
  refine ⟨_, rfl, unpricedCosts_setRow hrow ?_ ?_⟩
  · simp [listingKey, hreceipt]
  · simp [unpricedCost]

theorem unpricedCosts_distinct (db : DB) :
    (unpricedCosts db).Pairwise fun left right => left.id ≠ right.id := by
  have hrows : ((db.tx.outbox.rows.insertionSort (listingKey · ≤ listingKey ·)).map
      OutboxRow.id).Nodup :=
    ((perm_insertionSort _ _).map _).nodup_iff.mpr db.tx.outbox.nodup
  refine pairwise_filterMap.mpr ((pairwise_map.mp hrows).imp ?_)
  intro left right hne cost hcost other hother
  rwa [(unpricedCost_eq_some hcost).1, (unpricedCost_eq_some hother).1]

theorem unpricedCosts_priceCosts {pass : Pass} {available : ℕ → ℕ → Bool}
    (hoffers : pass.Offers available) {db : DB} (hids : ∀ cost ∈ unpricedCosts db, cost.id ≠ 0)
    {kept costs rest : List UnpricedWorkerReceiptCost}
    (hlisting : unpricedCosts db = kept ++ costs ++ rest) (processed : ℕ) :
    unpricedCosts (priceCosts pass db processed costs).1 =
      kept ++ costs.filter (!priceable available ·) ++ rest := by
  induction costs generalizing db kept processed with
  | nil => exact hlisting
  | cons cost costs ih =>
    rw [append_assoc, cons_append] at hlisting
    have hmem : cost ∈ unpricedCosts db := by simp [hlisting]
    rw [priceCosts, filter_cons, ← priceReceiptCost_isOk hoffers cost]
    cases priceReceiptCost (pass.sources cost.id) cost with
    | error error =>
      -- The receipt keeps its place in front of the rest of the batch.
      have hdeferred := @ih db hids (kept ++ [cost]) (by simp [hlisting]) processed
      simpa [Except.isOk, Except.toBool] using hdeferred
    | ok gasCostSrcWei =>
      obtain ⟨priced, hmark, hleft⟩ := markTxReceiptCostPriced_listed hmem (hids cost hmem)
        pass.now gasCostSrcWei
      have hnext : unpricedCosts priced = kept ++ costs ++ rest := by
        have hdistinct := unpricedCosts_distinct db
        rw [hlisting] at hleft hdistinct
        obtain ⟨-, htail, hcross⟩ := pairwise_append.mp hdistinct
        rw [hleft, filter_append, filter_cons_of_neg (by simp), append_assoc,
          filter_eq_self.mpr, filter_eq_self.mpr]
        · exact fun other hother => decide_eq_true (rel_of_pairwise_cons htail hother).symm
        · exact fun other hother => decide_eq_true (hcross other hother cost mem_cons_self)
      have hids' : ∀ other ∈ unpricedCosts priced, other.id ≠ 0 := fun other hother =>
        hids other (mem_of_mem_filter (hleft ▸ hother))
      simp only [hmark, commit]
      exact ih hids' hnext (processed + 1)

section Passes

variable {available : ℕ → ℕ → Bool} {limit : ℕ} {db : DB}

theorem unpricedCosts_processOnce {pass : Pass} (hoffers : pass.Offers available)
    (hlimit : 1 ≤ limit) (hids : ∀ cost ∈ unpricedCosts db, cost.id ≠ 0) :
    unpricedCosts (processOnce limit db pass).1 =
      serve (priceable available) limit (unpricedCosts db) := by
  rw [processOnce, listUnpricedWorkerReceiptCosts, if_neg (Nat.one_le_iff_ne_zero.mp hlimit)]
  exact unpricedCosts_priceCosts hoffers hids
    (show unpricedCosts db = [] ++ _ ++ _ from (take_append_drop limit _).symm) 0

variable {schedule : ℕ → Pass} (hoffers : ∀ pass, (schedule pass).Offers available)
  (hlimit : 1 ≤ limit) (hids : ∀ row ∈ db.tx.outbox, row.id ≠ 0)

include hoffers hlimit hids

theorem unpricedCosts_passes (count : ℕ) : unpricedCosts (passes limit schedule db count) =
      (serve (priceable available) limit)^[count] (unpricedCosts db) ∧
    ∀ cost ∈ unpricedCosts (passes limit schedule db count), cost.id ≠ 0 := by
  induction count with
  | zero =>
    refine ⟨rfl, fun cost hcost => ?_⟩
    obtain ⟨row, hrow, hlisted⟩ := mem_unpricedCosts.mp hcost
    exact (unpricedCost_eq_some hlisted).1 ▸ hids row hrow
  | succ count ih =>
    have hpass := unpricedCosts_processOnce (hoffers count) hlimit ih.2
    refine ⟨?_, fun cost hcost => ih.2 cost (mem_of_mem_serve (hpass ▸ hcost))⟩
    rw [Function.iterate_succ_apply', ← ih.1]
    exact hpass

/-- No receipt of a pathway with available prices is left unpriced. -/
def AllPriced (available : ℕ → ℕ → Bool) (db : DB) : Prop :=
  ∀ row ∈ db.tx.outbox, ∀ cost, unpricedCost db.work row = some cost →
    priceable available cost = false

theorem allPriced_passes (count : ℕ) : AllPriced available (passes limit schedule db count) ↔
    ∀ cost ∈ (serve (priceable available) limit)^[count] (unpricedCosts db),
      priceable available cost = false := by
  rw [← (unpricedCosts_passes hoffers hlimit hids count).1]
  constructor
  · intro hpriced cost hcost
    obtain ⟨row, hrow, hlisted⟩ := mem_unpricedCosts.mp hcost
    exact hpriced row hrow cost hlisted
  · intro hpriced row hrow cost hlisted
    exact hpriced cost (mem_unpricedCosts.mpr ⟨row, hrow, hlisted⟩)

/-- Every worker receipt of a pathway with available prices has its cost
recorded after some passes, exactly if fewer than a batch of the unpriced
receipts in front of it cannot be priced. -/
theorem receipts_priced_iff : (∃ count, AllPriced available (passes limit schedule db count)) ↔
      ¬ Blocked (priceable available) limit (unpricedCosts db) :=
  (exists_congr (allPriced_passes hoffers hlimit hids)).trans served_iff

end Passes

/-- A mined delivery from a chain to chain 2. -/
def minedDelivery (id srcEID : ℕ) : OutboxRow :=
  { queuedRow id 0 ⟨2, .executorLzReceive, (FixedBytes.ofNat 32 srcEID).1, .ofNat 20 1, [], none,
      "keeper"⟩ 0 none with
    storedReceipt := some ⟨.ofNat 32 id, 1, 1, 1, 1, 1, 0, none, none⟩ }

/-- A delivery from chain 1 is older than one from chain 3. -/
def backlog : DB :=
  { DB.empty with
    work := { DB.empty.work with
      packets := ⟨[1, 3].map fun srcEID =>
        { Ledger.firstPacket with guid := .ofNat 32 srcEID, srcEID, dstEID := 2 }, by decide⟩ }
    tx := (TxTables.empty.addRow (minedDelivery 1 1) rfl).addRow (minedDelivery 2 3) rfl }

/-- Chain 1 has no price sources. -/
def sources (eid : ℕ) : Option ChainSources :=
  if eid = 1 then none else some ⟨"ether", .error "unavailable"⟩

def available (srcEID dstEID : ℕ) : Bool := (pathwayNativePrices sources srcEID dstEID).isOk

theorem backlog_costs : unpricedCosts backlog = [⟨1, 1, 2, 2, 1⟩, ⟨2, 3, 2, 2, 1⟩] := by
  decide +kernel

theorem backlog_never_priced :
    ¬ ∃ count, AllPriced available (passes 1 (fun _ => ⟨0, fun _ => sources⟩) backlog count) := by
  rintro ⟨count, hpriced⟩
  rw [allPriced_passes (fun _ _ _ _ => rfl) le_rfl (by decide), backlog_costs] at hpriced
  exact served_iff.mp ⟨count, hpriced⟩ ⟨[_], _, [], rfl, rfl, le_rfl⟩

/-- A batch of two reaches it. -/
theorem backlog_priced_by_pairs :
    ∃ count, AllPriced available (passes 2 (fun _ => ⟨0, fun _ => sources⟩) backlog count) := by
  refine (receipts_priced_iff (fun _ _ _ _ => rfl) one_le_two (by decide)).mpr ?_
  rw [backlog_costs]
  rintro ⟨front, item, rest, heq, -, hcount⟩
  have hlength := congrArg List.length heq
  have hle := hcount.trans countP_le_length
  simp only [length_append, length_cons, length_nil] at hlength
  omega

end Lazier.FeeAccounting
