import Lazier.Ledger.Origins
import Lazier.Ledger.Simulation

/-!
# Store runs through their ledger

The ledger facts of the previous modules, read off runs of the store, and the
correspondence between claim counts and calls of `ClaimAttemptForBroadcast`.
-/

namespace Lazier.Ledger

open Library Store

variable {history : List (Event DB Op)} {db : DB} {event : Event DB Op} {claim : BroadcastClaim}

theorem ledgerRun_of_storeRun (hrun : StoreRun history db) : ∃ actions, LedgerRun actions db.tx ∧
      ∀ action ∈ actions, ∃ event ∈ history, Stems event action := run_refines hrun

theorem sound_storeRun (hrun : StoreRun history db) : Sound db.tx := by
  obtain ⟨actions, hledger, -⟩ := ledgerRun_of_storeRun hrun
  exact sound_run hledger

theorem extends_storeRun (hrun : StoreRun history db) {final : DB}
    {later : List (Event DB Op)} (hlater : Run Step db later final) : Extends db.tx final.tx := by
  obtain ⟨actions, hledger, -⟩ := run_refines hlater
  exact extends_run (sound_storeRun hrun) hledger

/-- The states on both sides of an event are reachable, and the rest of the
run follows it. -/
theorem event_states (hrun : StoreRun history db) (hevent : event ∈ history) :
    (∃ earlier, StoreRun earlier event.pre) ∧ (∃ earlier, StoreRun earlier event.post) ∧
      ∃ later, Run Step event.post later db := by
  obtain ⟨hstep, earlier, hearlier⟩ := hrun.event_reached hevent
  exact ⟨⟨earlier, hearlier⟩, ⟨_, hearlier.extend hstep⟩, hrun.after_event hevent⟩

/-! ## Claims -/

/-- The attempt a claim returned, as the call leaves it. -/
structure ClaimedAttempt (claim : BroadcastClaim) (attempt : AttemptRow) : Prop where
  id : attempt.id = claim.attemptID
  owner : attempt.outboxID = claim.outboxID
  kind : attempt.kind = claim.kind
  nonce : attempt.nonce = claim.nonce
  txHash : attempt.txHash = claim.txHash
  rawTx : attempt.rawTx = claim.rawTx
  count : 0 < attempt.broadcastCount

theorem ClaimedAttempt.extends {old new : AttemptRow} (hclaimed : ClaimedAttempt claim old)
    (hextends : AttemptExtends old new) : ClaimedAttempt claim new where
  id := hextends.id.trans hclaimed.id
  owner := hextends.owner.trans hclaimed.owner
  kind := hextends.kind.trans hclaimed.kind
  nonce := hextends.nonce.trans hclaimed.nonce
  txHash := hextends.txHash.trans hclaimed.txHash
  rawTx := hextends.rawTx.trans hclaimed.rawTx
  count := lt_of_lt_of_le hclaimed.count hextends.count

theorem claims_step (hstep : Step event.pre event.label event.post) (hclaims : Claims event claim) :
    ∃ row ∈ event.post.tx.outbox, ∃ attempt ∈ event.post.tx.attempts,
      row.id = claim.outboxID ∧ ClaimedAttempt claim attempt ∧
        row.status.terminal = false ∧ row.receipt = none ∧
        (row.cancelRequestedAt = none ∨ claim.kind = .cancel) := by
  obtain ⟨now, lane, token, leaseTTL, locked, hlabel, hresult⟩ := hclaims
  have hpost : event.post =
      (claimAttemptForBroadcast event.pre now lane token leaseTTL locked).1 := by
    rw [Step, hlabel] at hstep
    exact hstep
  have houtcome := claimAttemptForBroadcast_outcome event.pre now lane token leaseTTL locked
  rw [hpost]
  generalize claimAttemptForBroadcast event.pre now lane token leaseTTL
    locked = result at houtcome hresult ⊢
  cases houtcome with
  | refused error | parked error => cases hresult
  | @claimed row attempt hpick =>
    obtain ⟨hrow, hattempt, guarded⟩ := claimGuard_of_pick hpick
    cases hresult
    have hlive : row.status.terminal = false := by
      rcases guarded.status with hstatus | hstatus <;> rw [hstatus] <;> rfl
    exact ⟨row, hrow, attempt.claimBroadcast now token leaseTTL,
      SerialTable.mem_set_self hattempt rfl, rfl,
      ⟨rfl, guarded.owner, rfl, rfl, rfl, rfl, Nat.succ_pos _⟩, hlive,
      guarded.unpinned, guarded.exclusive⟩

/-- Some call of the history claimed an attempt of the row. -/
def ClaimedIn (history : List (Event DB Op)) (outboxID : ℕ) : Prop :=
  ∃ event ∈ history, ∃ claim, Claims event claim ∧ claim.outboxID = outboxID

theorem claimed_attempt_persists (hrun : StoreRun history db) (hevent : event ∈ history)
    (hclaims : Claims event claim) : ∃ attempt ∈ db.tx.attempts, ClaimedAttempt claim attempt := by
  obtain ⟨-, ⟨earlier, hpost⟩, later, hlater⟩ := event_states hrun hevent
  obtain ⟨-, -, attempt, hattempt, -, hclaimed, -⟩ :=
    claims_step (hrun.event_reached hevent).1 hclaims
  obtain ⟨after, hafter, hextends⟩ := (extends_storeRun hpost hlater).attempts attempt hattempt
  exact ⟨after, hafter, hclaimed.extends hextends⟩

theorem claimed_iff_claimedIn (hrun : StoreRun history db) {row : OutboxRow} :
    Claimed db.tx.attempts row ↔ ClaimedIn history row.id := by
  constructor
  · rintro ⟨attempt, hattempt, howner, hcount⟩
    obtain ⟨actions, hledger, hstems⟩ := ledgerRun_of_storeRun hrun
    obtain ⟨action, haction, hlabel⟩ := claim_origin hledger hattempt hcount
    obtain ⟨event, hevent, hstem⟩ := hstems action haction
    rw [Stems, hlabel] at hstem
    obtain ⟨claim, hclaims, hid⟩ := hstem
    refine ⟨event, hevent, claim, hclaims, ?_⟩
    -- The claim returned the owner of this very attempt.
    obtain ⟨other, hother, hclaimed⟩ := claimed_attempt_persists hrun hevent hclaims
    have heq : other = attempt := SerialTable.eq_of_key_eq hother hattempt (hclaimed.id.trans hid)
    rw [← hclaimed.owner, heq, howner]
  · rintro ⟨event, hevent, claim, hclaims, hid⟩
    obtain ⟨attempt, hattempt, hclaimed⟩ := claimed_attempt_persists hrun hevent hclaims
    exact ⟨attempt, hattempt, hclaimed.owner.trans hid, hclaimed.count⟩

/-! ## A first transaction -/

def firstRequest (chainEID : ℕ) (purpose : Purpose) : TxRequest where
  chainEID
  purpose
  guid := []
  toAddress := .ofNat 20 4
  calldata := []
  value := none
  signerID := "keeper"

/-- A queued row is signed with the given nonce and handed to a node; attempts
are numbered as their rows, and hashes as their nonces. -/
def sendRow (now : Time) (lane : Lane) (id nonce : ℕ) : List Op :=
  [.tx (.claimAttemptForBroadcast now lane 10 second []), .tx (.insertSignedAttempt now id 9
      { kind := .original
        nonce
        txType := 0
        txHash := .ofNat 32 nonce
        rawTx := [1]
        gasLimit := 21000
        maxFeePerGas := 1
        maxPriorityFeePerGas := none
        signingToken := 9 }),
    .tx (.claimOutboxForSigning now id lane 9 second)]

/-- The receipt of the transaction with this nonce. -/
def minedFacts (nonce : ℕ) (succeeded : Bool) : TxReceiptFacts where
  txHash := .ofNat 32 nonce
  status := succeeded.toNat
  status_lt := by cases succeeded <;> decide
  blockNumber := 5
  gasUsed := 3
  effectiveGasPrice := 2
  gasCostDstWei := 6

/-- One price snapshot: the lane starts at nonce 7, which goes to the row. -/
def firstSend : List Op :=
  [.tx (.claimOutboxForSigning 0 1 ⟨1, "keeper"⟩ 9 second),
    .tx (.enqueueTx 0 (firstRequest 1 .pricingSetPriceSnapshot)),
    .tx (.bootstrapTxNonceCursor ⟨1, "keeper"⟩ 7),
    .work (.syncConfig ⟨[1], []⟩)]

/-- The snapshot is signed and handed to a node. -/
def firstBroadcast : List Op := (sendRow 1 ⟨1, "keeper"⟩ 1 7).take 2 ++ firstSend

/-- Its receipt is found and pinned. -/
def firstReceipt : List Op :=
  .tx (.prepareReceiptResolution 2 1 (minedFacts 7 true)) :: firstBroadcast

/-- The node accepts the snapshot, and a second one gets the next nonce. -/
def secondSend : List Op :=
  [.tx (.claimOutboxForSigning 3 2 ⟨1, "keeper"⟩ 9 second),
    .tx (.enqueueTx 3 (firstRequest 1 .pricingSetPriceSnapshot)),
    .tx (.markAttemptSendResult 2 1 10 .accepted "")] ++ firstBroadcast

/-! ## A first packet -/

/-- A packet from chain 1 to chain 2. -/
def firstPacket : PacketRecord where
  guid := .ofNat 32 1
  srcEID := 1
  dstEID := 2
  nonce := 1
  sender := .ofNat 20 1
  receiver := .ofNat 20 2
  sendLib := .ofNat 20 3
  srcTxHash := .ofNat 32 2
  srcBlockNumber := 1
  srcLogIndex := 0
  encodedPacket := [1]
  packetHeader := [1]
  message := []
  payloadHash := .ofNat 32 3
  options := []
  status := .assigned

/-- The packet is assigned to the executor. -/
def firstAssignment : List Op :=
  [.tx (.bootstrapTxNonceCursor ⟨2, "keeper"⟩ 7),
    .work (.upsertExecutorJob 0 ⟨firstPacket.guid, none, .assigned, ""⟩),
    .work (.upsertPacket firstPacket), .work (.syncConfig ⟨[1, 2], [⟨firstPacket.route, true⟩]⟩)]

/-- The commit transaction of the packet reverts on chain. -/
def revertedCommit : List Op :=
  [.tx (.finalizeAttemptReceipt 2 2 1 (minedFacts 7 false)),
    .tx (.prepareReceiptResolution 2 1 (minedFacts 7 false))] ++ sendRow 1 ⟨2, "keeper"⟩ 1 7 ++
  [.tx (.enqueueExecutorTx 0 firstPacket.guid .verifiable .commitTxEnqueued
      (firstRequest 2 .executorCommitVerification)),
    .work (.markExecutorVerifiable 0 firstPacket.guid .assigned)] ++ firstAssignment

/-- The automatic retry clones the reverted commit. -/
def retriedCommit : List Op := .tx (.prepareNextFailedTxRetry (60 * minute) ⟨2, "keeper"⟩ []) ::
    revertedCommit

end Lazier.Ledger
