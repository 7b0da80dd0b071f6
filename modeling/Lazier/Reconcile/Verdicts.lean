import Lazier.Ledger.Effects
import Lazier.Ledger.StoreRuns
import Lazier.Reconcile.Passes
import Lazier.Signer.LaneFit

/-!
# Verdicts about consumed nonces

A pass that finds the nonce of a hold consumed and no receipt for any hash it
loaded declares the nonce consumed by somebody else.  The verdict is right if
the hashes are still all that was sent.  Nothing ensures that: a row may leave
the hold, be canceled and come back to the same hold while the pass is under
way.
-/

namespace Lazier.Reconcile

open Library Store Ledger Manager Signer SerialTable List

variable {id eid : ℕ} {hash : Hash} {token : UUID} {now : Time} {lane : Lane}
  {hashes : ℕ → List Hash} {hold : NonceReconcileHold} {row : OutboxRow} {attempt : AttemptRow}

/-! ## One hash, one attempt -/

/-- Every call keeps the hashes of the attempts, and a new attempt has a new
hash. -/
theorem attemptsKept_txOp (db : DB) (op : TxOp) :
    AttemptsKept db.tx.attempts (op.apply db).tx.attempts := by
  have heffect := txOp_effect db op
  generalize op.apply db = post at heffect
  cases heffect with
  | quiet _ hquiet => exact hquiet.2.attempts
  | operatorRetry hresult | automaticRetry hresult => cases hresult <;> exact .refl _
  | @finalized _ _ _ _ attempt _ _ hreceipt _ _ =>
    have hmined : QuietTx db.tx (db.tx.setAttempt { attempt with state := .mined }) :=
      .setAttempt (mem_of_find hreceipt.found) rfl rfl rfl
    exact hmined.attempts
  | unchanged | enqueuedTx | enqueuedPricing | enqueuedExecutor | enqueuedDVN
  | reverted | pinned | resolved | abandoned => exact .refl _

theorem attemptsKept_op {db : DB} (op : Op) :
    AttemptsKept db.tx.attempts (op.apply db).tx.attempts := by
  cases op with
  | work op =>
    have hsame : ((Op.work op).apply db).tx = db.tx := workOp_apply_tx db op
    rw [hsame]
    exact .refl _
  | tx op => exact attemptsKept_txOp db op

/-- No two attempts have the same hash. -/
def HashesDistinct (attempts : Attempts) : Prop :=
  ∀ left ∈ attempts, ∀ right ∈ attempts, left.txHash = right.txHash → left = right

theorem HashesDistinct.kept {old new : Attempts} (hdistinct : HashesDistinct old)
    (hkept : AttemptsKept old new) :
    HashesDistinct new := by
  intro left hleft right hright hsame
  refine eq_of_key_eq hleft hright ?_
  rcases hkept left hleft with ⟨before, hbefore, hid, hhash, -⟩ | ⟨hid, hfresh⟩
  · rcases hkept right hright with
      ⟨other, hother, hid', hhash', -⟩ | ⟨-, hfresh⟩
    · have heq := hdistinct before hbefore other hother (hhash.trans (hsame.trans hhash'.symm))
      rw [← hid, ← hid', heq]
    · exact absurd (hhash.trans hsame) (hfresh before hbefore)
  · rcases hkept right hright with ⟨other, hother, -, hhash', -⟩ | ⟨hid', -⟩
    · exact absurd (hhash'.trans hsame.symm) (hfresh other hother)
    · exact hid.trans hid'.symm

/-! ## What a pass knows -/

/-- The readings of a pass are true of the chain, and stay so: they speak only
of blocks that are confirmed. -/
structure PassSound (confirmations : ℕ) (tx : TxTables)
    (chain : Chain String Hash) (pass : ReconcilePass) : Prop where
  holds : ∀ hold ∈ pass.holds, ∃ row ∈ tx.outbox, row.id = hold.id ∧
    row.lane = pass.lane ∧ row.nonce = some hold.nonce
  block : ∀ block, pass.confirmedBlock = some block → block ≤ chain.confirmed confirmations
  nonce : ∀ nonce, pass.confirmedNonce = some nonce → ∃ block, pass.confirmedBlock = some block ∧
      nonce = chain.nonceAt pass.lane.signerID block
  absent : ∀ id hash, pass.probes id hash = some .absent →
    ∃ block, pass.confirmedBlock = some block ∧ ∀ mined ∈ chain.upTo block, mined.id ≠ some hash
  mined : ∀ id hash block blockHash, pass.probes id hash = some (.mined block blockHash) →
    ∃ confirmed, pass.confirmedBlock = some confirmed ∧
      ∀ height ≤ confirmed, chain.includes height hash = true →
        height = block ∧ canonicalHashAt chain height = blockHash

namespace PassSound

variable {confirmations : ℕ} {tx after : TxTables}
  {chain next : Chain String Hash} {pass : ReconcilePass}

theorem extend (hsound : PassSound confirmations tx chain pass) (hextends : Extends tx after) :
    PassSound confirmations after chain pass :=
  { hsound with
    holds := by
      intro hold hhold
      obtain ⟨row, hrow, hid, hlane, hnonce⟩ := hsound.holds hold hhold
      obtain ⟨later, hlater, hkeep⟩ := hextends.rows row hrow
      have hheld : row.nonce ≠ none := by
        rw [hnonce]
        exact Option.some_ne_none _
      exact ⟨later, hlater, hkeep.id.trans hid, hkeep.lane.trans hlane,
        (hkeep.nonce hheld).trans hnonce⟩ }

theorem grow (hsound : PassSound confirmations tx chain pass)
    (hfollows : Chain.Follows confirmations chain next) : PassSound confirmations tx next pass where
  holds := hsound.holds
  block block hblock := (hsound.block block hblock).trans hfollows.confirmed_le
  nonce nonce hnonce := by
    obtain ⟨block, hblock, hread⟩ := hsound.nonce nonce hnonce
    refine ⟨block, hblock, ?_⟩
    rw [hread, Chain.nonceAt, Chain.nonceAt, hfollows.upTo_eq (hsound.block block hblock)]
  absent id hash hprobe := by
    obtain ⟨block, hblock, habsent⟩ := hsound.absent id hash hprobe
    refine ⟨block, hblock, ?_⟩
    rw [hfollows.upTo_eq (hsound.block block hblock)]
    exact habsent
  mined id hash block blockHash hprobe := by
    obtain ⟨confirmed, hconfirmed, hmined⟩ := hsound.mined id hash block blockHash hprobe
    refine ⟨confirmed, hconfirmed, fun height hheight hincludes => ?_⟩
    have hbound := hheight.trans (hsound.block confirmed hconfirmed)
    rw [hfollows.includes_eq hbound] at hincludes
    rw [canonicalHashAt, hfollows.take hbound]
    exact hmined height hheight hincludes

theorem setProbe (hsound : PassSound confirmations tx chain pass) {probe : Probe}
    (habsent : probe = .absent → ∃ block, pass.confirmedBlock = some block ∧
      ∀ mined ∈ chain.upTo block, mined.id ≠ some hash)
    (hmined : ∀ block blockHash, probe = .mined block blockHash →
      ∃ confirmed, pass.confirmedBlock = some confirmed ∧
        ∀ height ≤ confirmed, chain.includes height hash = true →
          height = block ∧ canonicalHashAt chain height = blockHash) :
    PassSound confirmations tx chain (pass.setProbe id hash probe) :=
  { hsound with
    absent := by
      intro other otherHash hprobe
      dsimp only [ReconcilePass.setProbe] at hprobe
      split at hprobe
      · rename_i hsame
        rw [hsame.2]
        exact habsent (Option.some.inj hprobe)
      · exact hsound.absent other otherHash hprobe
    mined := by
      intro other otherHash block blockHash hprobe
      dsimp only [ReconcilePass.setProbe] at hprobe
      split at hprobe
      · rename_i hsame
        rw [hsame.2]
        exact hmined block blockHash (Option.some.inj hprobe)
      · exact hsound.mined other otherHash block blockHash hprobe }

end PassSound

/-! ## The world's invariant -/

structure WorldSound (confirmations : ℕ → ℕ) (world : World) : Prop where
  store : ∃ calls, StoreRun calls world.db
  distinct : HashesDistinct world.db.tx.attempts
  valid : ∀ eid, (world.network eid).Valid
  sent : ∀ eid, ∀ mined ∈ (world.network eid).flatten, ∀ hash,
    mined.id = some hash → ∃ attempt ∈ world.db.tx.attempts,
      attempt.txHash = hash ∧ 0 < attempt.broadcastCount
  passes : ∀ token pass, world.passes token = some pass →
    PassSound (confirmations pass.lane.chainEID) world.db.tx (world.network pass.lane.chainEID) pass

namespace WorldSound

variable {confirmations : ℕ → ℕ} {world : World}

theorem empty : WorldSound confirmations World.empty where
  store := ⟨[], .start⟩
  distinct _ hleft := absurd hleft (not_mem_empty _)
  valid _ := ⟨fun _ htx => (nomatch htx), nodup_nil⟩
  sent _ _ hmined := nomatch hmined
  passes _ _ hpass := nomatch hpass

theorem extends_call (hsound : WorldSound confirmations world) (op : Op) :
    Extends world.db.tx (op.apply world.db).tx := by
  obtain ⟨calls, hcalls⟩ := hsound.store
  exact extends_storeRun hcalls (Run.start.extend rfl)

theorem call (hsound : WorldSound confirmations world) (op : Op) {sessions : List Session} :
    WorldSound confirmations { world with fleet := ⟨op.apply world.db, sessions⟩ } := by
  obtain ⟨calls, hcalls⟩ := hsound.store
  have hextends := hsound.extends_call op
  refine ⟨⟨_, hcalls.extend rfl⟩, hsound.distinct.kept (attemptsKept_op op),
    hsound.valid, ?_, fun token pass hpass =>
      (hsound.passes token pass hpass).extend hextends⟩
  intro eid mined hmined hash hhash
  obtain ⟨attempt, hattempt, hsame, hcount⟩ := hsound.sent eid mined hmined hash hhash
  obtain ⟨after, hafter, hkeep⟩ := hextends.attempts attempt hattempt
  exact ⟨after, hafter, hkeep.txHash.trans hsame, hcount.trans_le hkeep.count⟩

theorem setPass (hsound : WorldSound confirmations world) (token : UUID)
    {pass : Option ReconcilePass}
    (hpass : ∀ next, pass = some next → PassSound (confirmations next.lane.chainEID) world.db.tx
        (world.network next.lane.chainEID) next) :
    WorldSound confirmations (world.setPass token pass) :=
  { hsound with
    passes := by
      intro other next hnext
      dsimp only [World.setPass] at hnext
      split at hnext
      · exact hpass next hnext
      · exact hsound.passes other next hnext }

theorem setSome (hsound : WorldSound confirmations world) (token : UUID) {pass : ReconcilePass}
    (hpass : PassSound (confirmations pass.lane.chainEID) world.db.tx
      (world.network pass.lane.chainEID) pass) :
    WorldSound confirmations (world.setPass token (some pass)) :=
  hsound.setPass token fun _ hnext => Option.some.inj hnext ▸ hpass

theorem grow (hsound : WorldSound confirmations world) {chain : Chain String Hash}
    (hfollows : Chain.Follows (confirmations eid) (world.network eid) chain) (hvalid : chain.Valid)
    (hsent : mineable world.db eid chain = true) :
    WorldSound confirmations (world.setChain eid chain) where
  store := hsound.store
  distinct := hsound.distinct
  valid other := by
    dsimp only [World.setChain]
    split
    · exact hvalid
    · exact hsound.valid other
  sent other mined hmined hash hhash := by
    dsimp only [World.setChain] at hmined
    split at hmined
    · have hsource := all_eq_true.mp hsent mined hmined
      rw [hhash] at hsource
      obtain ⟨attempt, hattempt, hfacts⟩ := any_eq_true.mp hsource
      obtain ⟨hsame, hcount, -⟩ := of_decide_eq_true (Bool.and_eq_true_iff.mp hfacts).1
      exact ⟨attempt, hattempt, hsame, hcount⟩
    · exact hsound.sent other mined hmined hash hhash
  passes token pass hpass := by
    have hbefore := hsound.passes token pass hpass
    dsimp only [World.setChain]
    split
    · rename_i hsame
      rw [hsame] at hbefore ⊢
      exact hbefore.grow hfollows
    · exact hbefore

end WorldSound

/-! ## Steps and runs -/

section Steps

variable {confirmations : ℕ → ℕ} {pre post world : World} {label : Label}

theorem passSound_select {db : DB} {holds : List NonceReconcileHold} {depth : ℕ}
    {chain : Chain String Hash} (hread : selectReconcileHolds db lane = .ok holds) :
    PassSound depth db.tx chain (.selected lane holds) := by
  refine ⟨fun hold hhold => ?_, nofun, nofun, nofun, nofun⟩
  obtain ⟨row, hrow, hid, hnonce⟩ := mem_selectReconcileHolds hread hhold
  obtain ⟨hmem, hlane, -⟩ := mem_reconcileHolds.mp hrow
  exact ⟨row, hmem, hid, hlane, hnonce⟩

variable {chain : Chain String Hash} {tx : TxTables} {depth block : ℕ} {pass : ReconcilePass}

/-- A receipt names the only block at or below the confirmed one that can hold
the transaction. -/
theorem passSound_lookup {answer : Lookup} (hvalid : chain.Valid)
    (hsound : PassSound depth tx chain pass) (hblock : pass.confirmedBlock = some block)
    (htruth : answer.true chain block hash = true) :
    PassSound depth tx chain (pass.setProbe id hash answer.probe) := by
  cases answer with
  | notFound =>
    refine hsound.setProbe (fun _ => ⟨block, hblock, fun mined hmined => ?_⟩)
      nofun
    exact of_decide_eq_true (all_eq_true.mp htruth mined hmined)
  | receipt number numberHash =>
    refine hsound.setProbe nofun fun _ _ hother => ?_
    cases hother
    obtain ⟨hmined, hhash⟩ := Bool.and_eq_true_iff.mp htruth
    refine ⟨block, hblock, fun height _ hincludes => ?_⟩
    obtain rfl := hvalid.includes_unique hincludes hmined
    exact ⟨rfl, of_decide_eq_true hhash⟩
  | failed => exact hsound.setProbe nofun nofun

/-- A receipt that is not on the canonical chain leaves nothing below the
confirmed block, where blocks are no longer replaced. -/
theorem passSound_canonical {answer : Option Bool} {blockHash : BlockHash}
    (hsound : PassSound depth tx chain pass)
    (hprobe : pass.probes id hash = some (.mined block blockHash))
    (htruth : receiptOnCanonicalChain depth chain block blockHash answer = true) :
    PassSound depth tx chain (pass.setProbe id hash (canonicalProbe answer)) := by
  rcases answer with _ | value
  · exact hsound.setProbe nofun nofun
  cases value with
  | true => exact hsound.setProbe nofun nofun
  | false =>
    refine hsound.setProbe (fun _ => ?_) nofun
    obtain ⟨confirmed, hconfirmed, hmined⟩ := hsound.mined id hash block blockHash hprobe
    refine ⟨confirmed, hconfirmed, fun found hfound hhash => ?_⟩
    obtain ⟨height, hheight, hincludes⟩ := Chain.exists_includes_of_mem_upTo hfound hhash
    obtain ⟨rfl, hsame⟩ := hmined height hheight hincludes
    simp [receiptOnCanonicalChain, hsame] at htruth

theorem worldSound_step (hconfirmations : ∀ eid, 1 ≤ confirmations eid)
    (hsound : WorldSound confirmations pre) (hstep : WorldStep confirmations pre label post) :
    WorldSound confirmations post := by
  cases hstep with
  | @fleet move fleet step other answer =>
    rcases step_of_fleetStep step.1 with ⟨session, -, -, rfl⟩ | ⟨op, -, rfl⟩
    · exact { hsound with }
    · exact hsound.call op
  | grow follows valid sent => exact hsound.grow follows valid sent
  | select fresh read => exact hsound.setSome _ (passSound_select read)
  | @claim token now leaseTTL pass found unclaimed granted =>
    let op := Op.tx (.claimNonceReconciliation now pass.lane token leaseTTL pass.holds)
    have hpass := (hsound.passes token pass found).extend (hsound.extends_call op)
    exact (hsound.call op).setSome token { hpass with }
  | @load token pass found claimed unread =>
    exact hsound.setSome token { hsound.passes token pass found with }
  | @head token number pass found loaded unread answer =>
    have hpass := hsound.passes token pass found
    have hunread : ∀ block, pass.confirmedBlock ≠ some block := by
      rw [unread]
      exact nofun
    refine hsound.setSome token ⟨hpass.holds, fun block hblock => ?_, fun nonce hnonce => ?_,
      fun id hash hprobe => ?_, fun id hash block blockHash hprobe => ?_⟩
    · rw [← Option.some.inj hblock]
      exact Nat.sub_le_sub_right answer _
    · obtain ⟨block, hblock, -⟩ := hpass.nonce nonce hnonce
      exact absurd hblock (hunread block)
    · obtain ⟨block, hblock, -⟩ := hpass.absent id hash hprobe
      exact absurd hblock (hunread block)
    · obtain ⟨confirmed, hconfirmed, -⟩ := hpass.mined id hash block blockHash hprobe
      exact absurd hconfirmed (hunread confirmed)
  | @nonce token pass block found headRead unread =>
    refine hsound.setSome token { hsound.passes token pass found with nonce := ?_ }
    intro nonce hnonce
    refine ⟨block, headRead, ?_⟩
    rw [← Option.some.inj hnonce, nonceBlock, if_neg (Nat.one_le_iff_ne_zero.mp (hconfirmations _))]
  | @lookup token id hash answer pass block found headRead nonceRead unread truth =>
    exact hsound.setSome token
      (passSound_lookup (hsound.valid _) (hsound.passes token pass found) headRead truth)
  | @canonical token id hash answer pass block blockHash found mined truth =>
    exact hsound.setSome token (passSound_canonical (hsound.passes token pass found) mined truth)
  | @apply token now backoff observed pass hashes block nonce found loaded
      headRead nonceRead finished =>
    exact (hsound.call (.tx (.applyNonceReconciliation now pass.lane token nonce block backoff
      observed (pass.decisions hashes nonce)))).setPass token nofun

theorem worldSound_run (hconfirmations : ∀ eid, 1 ≤ confirmations eid)
    {history : List (Event World Label)} (hrun : WorldRun confirmations history world) :
    WorldSound confirmations world :=
  hrun.invariant (WorldSound confirmations)
    (fun _ _ _ hsound hstep => worldSound_step hconfirmations hsound hstep) .empty

end Steps

/-! ## Verdicts -/

/-- The step publishes a pass that moves the row to the externally consumed
hold. -/
structure ExternalVerdict (event : Event World Label) (row : OutboxRow) : Prop where
  applied : ∃ token now backoff observed, event.label = .apply token now backoff observed
  before : ∃ old ∈ event.pre.db.tx.outbox, old.id = row.id ∧
    old.status ≠ .held .nonceConsumedExternally
  mem : row ∈ event.post.db.tx.outbox
  status : row.status = .held .nonceConsumedExternally

theorem ExternalVerdict.moved {event : Event World Label} (hverdict : ExternalVerdict event row) :
    event.post.db.tx.outbox ≠ event.pre.db.tx.outbox := by
  obtain ⟨old, hold, hid, hbefore⟩ := hverdict.before
  intro hsame
  have hrow := hverdict.mem
  rw [hsame] at hrow
  rw [eq_of_key_eq hold hrow hid] at hbefore
  exact hbefore hverdict.status

/-- The transaction that consumed the nonce of the row is the attempt. -/
def ConsumedBy (world : World) (row : OutboxRow) (attempt : AttemptRow) : Prop :=
  ∃ mined ∈ (world.network row.chainEID).flatten,
    mined.account = row.signerID ∧ row.nonce = some mined.nonce ∧ mined.id = some attempt.txHash

/-- The pass has loaded every sent attempt of the rows that are still on the
hold it judges. -/
def PassCurrent (tx : TxTables) (pass : ReconcilePass) (hashes : ℕ → List Hash) : Prop :=
  ∀ hold ∈ pass.holds, ∀ row ∈ tx.outbox.rows, row.id = hold.id →
    row.status = .held .nonceReconcileRequired →
      ∀ attempt ∈ tx.attempts.rows, attempt.outboxID = hold.id →
        attempt.state.sent = true → attempt.txHash ∈ hashes hold.id

instance (tx : TxTables) (pass : ReconcilePass) (hashes : ℕ → List Hash) :
    Decidable (PassCurrent tx pass hashes) :=
  inferInstanceAs (Decidable (∀ hold ∈ pass.holds, ∀ row ∈ tx.outbox.rows,
    _ → _ → ∀ attempt ∈ tx.attempts.rows, _ → _ → _))

/-- A pass has current hashes when its publication changes a row. -/
def HashesCurrent (event : Event World Label) : Prop :=
  match event.label with
  | .apply token _ _ _ => event.post.db.tx.outbox ≠ event.pre.db.tx.outbox →
    ∀ pass ∈ event.pre.passes token, ∀ hashes ∈ pass.hashes, PassCurrent event.pre.db.tx pass hashes
  | _ => True

variable {pass : ReconcilePass} {nonce : ℕ}

/-- What makes a pass decide that a nonce was consumed by somebody else. -/
theorem marked_of_mem_decisions (hmem : ⟨id, .markExternal⟩ ∈ pass.decisions hashes nonce) :
    ∃ hold ∈ pass.holds, hold.id = id ∧ hold.nonce < nonce ∧
      some .present ∉ pass.results hashes hold ∧ some .failed ∉ pass.results hashes hold := by
  obtain ⟨hold, hhold, hdecision⟩ := mem_filterMap.mp hmem
  unfold ReconcilePass.decision at hdecision
  dsimp only at hdecision
  split at hdecision
  · cases hdecision
  rename_i hpresent
  split at hdecision
  · cases hdecision
  rename_i hfailed
  split at hdecision
  · rename_i hnonce
    cases hdecision
    exact ⟨hold, hhold, rfl, hnonce, hpresent, hfailed⟩
  split at hdecision <;> cases hdecision

/-- The lookups of a finished pass that found nothing and did not fail are all
negative. -/
theorem absent_of_finished (hfinished : pass.finished hashes = true) (hhold : hold ∈ pass.holds)
    (hpresent : some .present ∉ pass.results hashes hold)
    (hfailed : some .failed ∉ pass.results hashes hold) (hhash : hash ∈ hashes hold.id) :
    pass.probes hold.id hash = some .absent := by
  have hresult : pass.probes hold.id hash ∈ pass.results hashes hold := mem_map_of_mem hhash
  have hended := of_decide_eq_true (all_eq_true.mp
    (all_eq_true.mp hfinished hold hhold) _ hresult)
  rcases hended with hone | hone | hone
  · exact absurd (hone ▸ hresult) hpresent
  · exact hone
  · exact absurd (hone ▸ hresult) hfailed

/-- A published pass moves a row to the externally consumed hold only by a
decision about it, from the hold it judges. -/
theorem external_of_apply {db : DB} {confirmedNonce confirmedBlock : ℕ} {backoff : Duration}
    {observed : String} {decisions : List NonceReconcileDecision} {old : OutboxRow}
    (hold : old ∈ db.tx.outbox)
    (hrow : row ∈ (applyNonceReconciliation db now lane token confirmedNonce
      confirmedBlock backoff observed decisions).1.tx.outbox) (hid : old.id = row.id)
    (hbefore : old.status ≠ .held .nonceConsumedExternally)
    (hafter : row.status = .held .nonceConsumedExternally) : ⟨row.id, .markExternal⟩ ∈ decisions ∧
      old.status = .held .nonceReconcileRequired ∧ row.lane = old.lane ∧ row.nonce = old.nonce := by
  have hsame : row ∉ db.tx.outbox := by
    intro hkept
    rw [← eq_of_key_eq hold hkept hid] at hafter
    exact hbefore hafter
  unfold applyNonceReconciliation at hrow
  split at hrow
  · exact absurd hrow hsame
  split at hrow
  · exact absurd hrow hsame
  split at hrow
  · exact absurd hrow hsame
  rename_i cursor hcursor
  split at hrow
  swap
  · exact absurd hrow hsame
  obtain ⟨first, hfirst, hdecided⟩ := (decided_applyDecisions now _ decisions _).back hrow
  cases hdecided with
  | kept => exact absurd hfirst hsame
  | released hmem hheld hreceipt hactive =>
    dsimp only at hafter
    unfold releasedStatus at hafter
    split at hafter <;> cases hafter
  | external hmem hheld hreceipt =>
    obtain rfl : old = first := eq_of_key_eq hold hfirst hid
    exact ⟨hmem, hheld, rfl, rfl⟩

theorem applyNonceReconciliation_attempts (db : DB) (now : Time) (lane : Lane) (token : UUID)
    (confirmedNonce confirmedBlock : ℕ) (backoff : Duration) (observed : String)
    (decisions : List NonceReconcileDecision) :
    (applyNonceReconciliation db now lane token confirmedNonce confirmedBlock
      backoff observed decisions).1.tx.attempts = db.tx.attempts := by
  unfold applyNonceReconciliation
  split
  · rfl
  split
  · rfl
  split
  · rfl
  split
  · exact (decided_applyDecisions now _ decisions _).attempts
  · rfl

variable {confirmations : ℕ → ℕ} {world : World}

/-- An attempt whose transaction is on the chain, of a row that has not ended,
is one that the hashes of a pass are about. -/
theorem sent_of_mined (hsound : WorldSound confirmations world) (hrow : row ∈ world.db.tx.outbox)
    (hopen : row.status.terminal = false) (hattempt : attempt ∈ world.db.tx.attempts)
    (howner : attempt.outboxID = row.id) {mined : ChainTx String Hash}
    (hmined : mined ∈ (world.network eid).flatten) (hhash : mined.id = some attempt.txHash) :
    attempt.state.sent = true := by
  obtain ⟨source, hsource, hsame, hcount⟩ := hsound.sent eid mined hmined _ hhash
  obtain rfl := hsound.distinct source hsource attempt hattempt hsame
  obtain ⟨calls, hcalls⟩ := hsound.store
  exact sent_of_claimed (sound_storeRun hcalls) hrow hopen hattempt howner hcount

/-- A finished pass with current hashes that finds the nonce of a hold consumed
and no receipt is right: whatever consumed the nonce is no attempt of the
row. -/
theorem not_consumed_of_marked (hsound : WorldSound confirmations world)
    (hpass : world.passes token = some pass) (hnonceRead : pass.confirmedNonce = some nonce)
    (hfinished : pass.finished hashes = true) (hhold : hold ∈ pass.holds)
    (hnonce : hold.nonce < nonce) (hpresent : some .present ∉ pass.results hashes hold)
    (hfailed : some .failed ∉ pass.results hashes hold) (hrow : row ∈ world.db.tx.outbox)
    (hid : row.id = hold.id) (hopen : row.status.terminal = false)
    (hattempt : attempt ∈ world.db.tx.attempts) (howner : attempt.outboxID = row.id)
    (hloaded : attempt.state.sent = true → attempt.txHash ∈ hashes hold.id) :
    ¬ ConsumedBy world row attempt := by
  rintro ⟨mined, hmined, haccount, hrowNonce, hhash⟩
  have hpassSound := hsound.passes token pass hpass
  obtain ⟨held, hheld, hheldID, hlane, hheldNonce⟩ := hpassSound.holds hold hhold
  obtain rfl : held = row := eq_of_key_eq hheld hrow (hheldID.trans hid.symm)
  have hchain : held.chainEID = pass.lane.chainEID := congrArg Lane.chainEID hlane
  have hsigner : held.signerID = pass.lane.signerID := congrArg Lane.signerID hlane
  -- The nonce is consumed at or below the confirmed block, by this transaction.
  obtain ⟨block, hblock, hread⟩ := hpassSound.nonce nonce hnonceRead
  rw [hread] at hnonce
  obtain ⟨consumer, hconsumer, hconsumerAccount, hconsumerNonce⟩ :=
    (hsound.valid pass.lane.chainEID).consumed hnonce
  rw [hchain] at hmined
  obtain rfl : consumer = mined := (hsound.valid pass.lane.chainEID).unique
      (Chain.mem_of_mem_upTo hconsumer) hmined
      (hconsumerAccount.trans (hsigner.symm.trans haccount.symm))
      (hconsumerNonce.trans (Option.some.inj (hheldNonce.symm.trans hrowNonce)))
  -- Its hash was loaded and looked up there, and the lookup was negative.
  have hsent := sent_of_mined hsound hrow hopen hattempt howner hmined hhash
  obtain ⟨other, hother, habsent⟩ := hpassSound.absent hold.id attempt.txHash
    (absent_of_finished hfinished hhold hpresent hfailed (hloaded hsent))
  obtain rfl := Option.some.inj (hblock.symm.trans hother)
  exact habsent consumer hconsumer hhash

/-- In every run whose published passes have current hashes, a row is declared
externally consumed only if none of its attempts consumed its nonce. -/
theorem external_verdict_sound {confirmations : ℕ → ℕ}
    (hconfirmations : ∀ eid, 1 ≤ confirmations eid) {history : List (Event World Label)}
    {world : World} (hrun : WorldRun confirmations history world)
    (hcurrent : ∀ event ∈ history, HashesCurrent event) :
    ∀ event ∈ history, ∀ row, ExternalVerdict event row →
      ∀ attempt ∈ event.post.db.tx.attempts, attempt.outboxID = row.id →
        ¬ ConsumedBy event.post row attempt := by
  intro event hevent row hverdict attempt hattempt howner
  have hmoved := hverdict.moved
  obtain ⟨⟨token, now, backoff, observed, hlabel⟩, ⟨old, hold, hid, hbefore⟩, hrow, hstatus⟩ :=
    hverdict
  obtain ⟨hstep, earlier, hearlier⟩ := hrun.event_reached hevent
  have hloaded := hcurrent event hevent
  have hsound := worldSound_run hconfirmations hearlier
  obtain ⟨pre, label, post⟩ := event
  dsimp only at *
  subst hlabel
  cases hstep with
  | @apply _ _ _ _ pass hashes block nonce found loaded headRead nonceRead finished =>
    obtain ⟨hmem, hheld, hlane, hnonce⟩ := external_of_apply hold hrow hid hbefore hstatus
    obtain ⟨judged, hjudged, hjudgedID, hlow, hpresent, hfailed⟩ := marked_of_mem_decisions hmem
    have hsame : attempt ∈ pre.db.tx.attempts := by
      rw [← applyNonceReconciliation_attempts pre.db now pass.lane token
        nonce block backoff observed (pass.decisions hashes nonce)]
      exact hattempt
    have hopen : old.status.terminal = false := by
      rw [hheld]
      rfl
    have hoperand := not_consumed_of_marked hsound found nonceRead finished
      hjudged hlow hpresent hfailed hold (hid.trans hjudgedID.symm) hopen
      hsame (howner.trans hid.symm)
      (hloaded hmoved pass found hashes loaded judged hjudged old hold
        (hid.trans hjudgedID.symm) hheld attempt hsame (howner.trans hjudgedID.symm))
    rintro ⟨mined, hmined, haccount, hminedNonce, hhash⟩
    have hchain : row.chainEID = old.chainEID := congrArg Lane.chainEID hlane
    have hsigner : row.signerID = old.signerID := congrArg Lane.signerID hlane
    exact hoperand ⟨mined, hchain ▸ hmined, haccount.trans hsigner,
      hnonce.symm.trans hminedNonce, hhash⟩

/-! ## A stale list of hashes -/

/-- The hashes of a deed are current, even if it changes nothing. -/
def currentDeed (confirmations : ℕ → ℕ) (world : World) (deed : Deed) : Bool :=
  match deed.outcome confirmations world with
  | some (.apply token _ _ _, _) =>
    (world.passes token).all fun pass => pass.hashes.all fun hashes =>
      decide (PassCurrent world.db.tx pass hashes)
  | _ => true

theorem hashesCurrent_of_currentDeed {post : World} {deed : Deed} {label : Label}
    (houtcome : deed.outcome confirmations world = some (label, post))
    (hcurrent : currentDeed confirmations world deed = true) :
    HashesCurrent ⟨world, label, post⟩ := by
  cases label with
  | apply token now backoff observed =>
    intro _ pass hpass hashes hhashes
    rw [currentDeed, houtcome] at hcurrent
    dsimp only at hcurrent
    rw [Option.all_eq_true] at hcurrent
    have hinner := hcurrent pass hpass
    rw [Option.all_eq_true] at hinner
    exact of_decide_eq_true (hinner hashes hhashes)
  | _ => trivial

theorem worldRun_of_deeds (confirmations : ℕ → ℕ) (deeds : List Deed) (check : World → Bool)
    (hperformed : (perform (fun world deed => (deed.outcome confirmations world).map Prod.snd)
      (currentDeed confirmations) World.empty deeds.reverse).any check = true) :
    ∃ history world, WorldRun confirmations history world ∧
      (∀ event ∈ history, HashesCurrent event) ∧ check world = true := by
  obtain ⟨events, final, hrun, -, hallowed, hcheck⟩ := exists_run_of_perform hperformed
  suffices hworld : ∃ history, WorldRun confirmations history final ∧
      ∀ event ∈ history, HashesCurrent event by
    obtain ⟨history, hhistory, hcurrent⟩ := hworld
    exact ⟨history, final, hhistory, hcurrent, hcheck⟩
  clear hcheck hperformed
  induction hrun with
  | start => exact ⟨[], .start, forall_mem_nil _⟩
  | extend before last ih =>
    obtain ⟨hlast, hbefore⟩ := forall_mem_cons.mp hallowed
    obtain ⟨history, hworld, hcurrent⟩ := ih hbefore
    obtain ⟨⟨label, post⟩, houtcome, rfl⟩ := Option.map_eq_some_iff.mp last
    exact ⟨_, hworld.extend (worldStep_of_outcome houtcome), forall_mem_cons.mpr
        ⟨hashesCurrent_of_currentDeed houtcome hlast, hcurrent⟩⟩

/-- The newest attempt is sent, with the given answer. -/
def sendDeeds (now : Time) (token : UUID) (attemptID : ℕ) (sendClass : SendClass) : List Deed :=
  [.signer (.call (.tx (.claimAttemptForBroadcast now keeper token minute []))), .signer (.call (.tx
      (.markAttemptSendResult now attemptID token sendClass "")))]

/-- The keeper's first seven nonces, and the given consumer of the eighth. -/
def keeperBlocks (later : Chain String Hash) : Chain String Hash :=
  [[], (List.range 7).map fun nonce => ⟨"keeper", nonce, none⟩] ++ later

/-- A price snapshot is signed for nonce 7 and sent without an answer; somebody
else consumes the nonce, and the next send is told so. -/
def heldDeeds : List Deed :=
  [.signer (.call (.work (.syncConfig ⟨[1], []⟩))),
    .signer (.call (.tx (.bootstrapTxNonceCursor keeper 7))),
    .signer (.call (.tx (.enqueuePricingSnapshotTx 0 (firstRequest 1 .pricingSetPriceSnapshot)))),
    .signer (.sign 9 0 keeper), .signer (.claim 9 0 keeper minute),
    .signer (.insert 9 0 (signature .original 1 9))] ++
    sendDeeds 0 9 1 .ambiguous ++
    [.reconciler (.grow 1 (keeperBlocks [[⟨"keeper", 7, none⟩]]))] ++
    sendDeeds (4 * second) 11 1 .nonceTooLow ++
    [.reconciler (.select 20 keeper), .reconciler (.claim 20 (5 * second) minute),
      .reconciler (.load 20)]

/-- The pass reads the head, the nonce and the receipt of the only hash it
loaded. -/
def readDeeds (head : ℕ) : List Deed :=
  [.reconciler (.head 20 head), .reconciler (.nonce 20),
    .reconciler (.lookup 20 1 (.ofNat 32 1) .notFound)]

/-- The block of the other transaction is confirmed. -/
def externalDeeds : List Deed := heldDeeds ++
    [.reconciler (.grow 1 (keeperBlocks [[⟨"keeper", 7, none⟩], []]))] ++ readDeeds 3

/-- The block of the other transaction is reorganised away before it is
confirmed.  The operator cancels the row, the cancel is sent and mined, and its
second send is told that the nonce is too low. -/
def canceledDeeds : List Deed := heldDeeds ++
    [.reconciler (.grow 1 (keeperBlocks [[]])),
      .signer (.call (.tx (.requestTxCancel (6 * second) 1))),
      .signer (.cancel 10 (6 * second) keeper), .signer (.claim 10 (6 * second) keeper minute),
      .signer (.insert 10 (6 * second) (signature .cancel 2 10))] ++
    sendDeeds (6 * second) 12 2 .ambiguous ++
    [.reconciler (.grow 1 (keeperBlocks [[], [⟨"keeper", 7, some (.ofNat 32 2)⟩]]))] ++
    sendDeeds (10 * second) 13 2 .nonceTooLow ++
    [.reconciler (.grow 1 (keeperBlocks
      [[], [⟨"keeper", 7, some (.ofNat 32 2)⟩], []]))] ++ readDeeds 4

/-- The pass is published. -/
def publish : Label := .apply 20 (11 * second) minute ""

/-- Published, the pass declares the nonce of a row externally consumed; with
`own`, by one of its own attempts. -/
def misjudges (own : Bool) (world : World) : Bool :=
  (world.next (fun _ => 1) publish).any fun post =>
    post.db.tx.outbox.rows.any fun row =>
      decide (row.status = .held .nonceConsumedExternally) &&
        (world.db.tx.outbox.rows.any fun old =>
          decide (old.id = row.id ∧ old.status ≠ .held .nonceConsumedExternally)) &&
        post.db.tx.attempts.rows.any fun attempt =>
          decide (attempt.outboxID = row.id) &&
            (!own || (post.network row.chainEID).flatten.any fun mined =>
              decide (mined.account = row.signerID ∧ row.nonce = some mined.nonce ∧
                mined.id = some attempt.txHash))

/-- The verdict of a published pass, with the attempt it is about. -/
theorem verdict_of_misjudges {own : Bool} (hjudged : misjudges own world = true) :
    ∃ post, world.next (fun _ => 1) publish = some post ∧
      ∃ row, ExternalVerdict ⟨world, publish, post⟩ row ∧
        ∃ attempt ∈ post.db.tx.attempts, attempt.outboxID = row.id ∧
          (own = true → ConsumedBy post row attempt) := by
  obtain ⟨post, hpost, hrows⟩ := (Option.any_eq_true _ _).mp hjudged
  obtain ⟨row, hrow, hfacts⟩ := any_eq_true.mp hrows
  simp only [Bool.and_eq_true, decide_eq_true_eq, any_eq_true] at hfacts
  obtain ⟨⟨hstatus, old, hold, hid, hbefore⟩, attempt, hattempt, howner, hconsumer⟩ := hfacts
  refine ⟨post, hpost, row, ⟨⟨_, _, _, _, rfl⟩, ⟨old, hold, hid, hbefore⟩, hrow, hstatus⟩, attempt,
    hattempt, howner, ?_⟩
  rintro rfl
  obtain ⟨mined, hmined, hfound⟩ := by
    simpa only [Bool.not_true, Bool.false_or, any_eq_true, decide_eq_true_eq] using hconsumer
  exact ⟨mined, hmined, hfound⟩

theorem externalDeeds_judged : ∃ history world, WorldRun (fun _ => 1) history world ∧
      (∀ event ∈ history, HashesCurrent event) ∧
      ∃ event ∈ history, ∃ row, ExternalVerdict event row ∧
        ∃ attempt ∈ event.post.db.tx.attempts, attempt.outboxID = row.id ∧
          ¬ ConsumedBy event.post row attempt := by
  obtain ⟨history, world, hrun, hcurrent, hcheck⟩ := worldRun_of_deeds (fun _ => 1) externalDeeds
    (fun world => misjudges false world && currentDeed (fun _ => 1) world (.reconciler publish))
    (by decide +kernel)
  obtain ⟨hjudged, hlast⟩ := Bool.and_eq_true_iff.mp hcheck
  obtain ⟨post, hnext, row, hverdict, attempt, hattempt, howner, -⟩ := verdict_of_misjudges hjudged
  have houtcome : (Deed.reconciler publish).outcome (fun _ => 1) world = some (publish, post) := by
    rw [Deed.outcome, hnext]
    rfl
  have hextended := hrun.extend (worldStep_of_next hnext)
  have hall : ∀ event ∈ Event.mk world publish post :: history,
      HashesCurrent event := forall_mem_cons.mpr
    ⟨hashesCurrent_of_currentDeed houtcome hlast, hcurrent⟩
  exact ⟨_, post, hextended, hall, _, mem_cons_self, row, hverdict, attempt, hattempt, howner,
    external_verdict_sound (fun _ => le_rfl) hextended hall _
      mem_cons_self row hverdict attempt hattempt howner⟩

/-- A pass that loaded the hashes before the cancel was signed declares the
nonce externally consumed that the cancel consumed. -/
theorem canceledDeeds_misjudged : ∃ history world, WorldRun (fun _ => 1) history world ∧
      ∃ event ∈ history, ∃ row, ExternalVerdict event row ∧
        ∃ attempt ∈ event.post.db.tx.attempts, attempt.outboxID = row.id ∧
          ConsumedBy event.post row attempt := by
  obtain ⟨history, world, hrun, -, hjudged⟩ := worldRun_of_deeds (fun _ => 1) canceledDeeds
    (misjudges true) (by decide +kernel)
  obtain ⟨post, hnext, row, hverdict, attempt, hattempt, howner, hconsumer⟩ :=
    verdict_of_misjudges hjudged
  exact ⟨_, post, hrun.extend (worldStep_of_next hnext), _,
    mem_cons_self, row, hverdict, attempt, hattempt, howner, hconsumer rfl⟩

end Lazier.Reconcile
