import Lazier.Ledger.Nonces
import Lazier.Manager.Workflow
import Lazier.Scope.Agreement
import Lazier.Workflow.JobMoves

/-!
# The pause fence

No store method spends for a task whose send scope is not active in the state
it commits.  The clone of a reverted delivery leaves the gate to the workflow
preparation, which skips it for a row without a guid; no run has such a row.
Rows that hold a nonce converge whatever the configuration says.
-/

namespace Lazier.Scope

open Ledger Library Manager Store Workflow SerialTable Option

variable {request : TxRequest} {now : Time}

/-- The step has inserted the row, given it a nonce, returned it to the queue
or counted another attempt of it. -/
def Spends (before : TxTables) (row : OutboxRow) : Prop :=
  ∀ old, before.outbox.find row.id = some old → (old.nonce = none ∧ row.nonce ≠ none) ∨
      (old.status = .failed ∧ row.status = .queued) ∨ old.attempts < row.attempts

/-- The columns that a step writes without spending. -/
structure Frugal (old new : OutboxRow) : Prop where
  nonce : new.nonce = old.nonce
  attempts : new.attempts = old.attempts
  status : old.status = .failed → new.status ≠ .queued

/-- Rows of packet transactions carry the guid of a packet. -/
def Addressed (tx : TxTables) : Prop := ∀ row ∈ tx.outbox, txSendScopeKind row.purpose = .packet →
    ∃ guid : Hash, row.guid = some guid.1

/-! ## The scope after a step -/

/-- Packets keep everything but their status. -/
def RoutesKept (pre post : WorkTables) : Prop := ∀ packet ∈ pre.packets, ∃ after ∈ post.packets,
    after.guid = packet.guid ∧ after.route = packet.route

theorem RoutesKept.refl (work : WorkTables) : RoutesKept work work :=
  fun packet hpacket => ⟨packet, hpacket, rfl, rfl⟩

theorem RoutesKept.of_records {pre post : WorkTables} (hkept : RecordsKept pre post) :
    RoutesKept pre post := by
  intro packet hpacket
  obtain ⟨status, hpackets⟩ := hkept.packets
  have hafter := hpackets packet.guid
  rw [Table.find_eq_some.mpr ⟨hpacket, rfl⟩, map_some] at hafter
  exact ⟨_, (Table.find_eq_some.mp hafter).1, rfl, rfl⟩

theorem ScopeActive.kept {db post : DB} {chainEID : ℕ} {purpose : Purpose} {guid : Bytes}
    (hconfig : post.config = db.config) (hroutes : RoutesKept db.work post.work)
    (hactive : ScopeActive db chainEID purpose guid) :
    ScopeActive post chainEID purpose guid := by
  cases hactive with
  | chain hkind hguid hactive => exact .chain hkind hguid (hconfig ▸ hactive)
  | packet packet hkind hpacket hguid hchain hactive =>
    obtain ⟨after, hafter, hkey, hroute⟩ := hroutes packet hpacket
    have hsrc : after.srcEID = packet.srcEID := congrArg Route.srcEID hroute
    have hdst : after.dstEID = packet.dstEID := congrArg Route.dstEID hroute
    refine .packet after hkind hafter (hkey ▸ hguid) (hdst.trans hchain) ?_
    rw [hconfig]
    exact ⟨hsrc ▸ hactive.source, hdst ▸ hactive.destination, hroute ▸ hactive.pathway⟩

/-- The scope of a row in the committed state. -/
def RowActive (db : DB) (row : OutboxRow) : Prop :=
  ScopeActive db row.chainEID row.purpose (row.guid.getD [])

theorem rowActive_of_open {db post : DB} {row : OutboxRow} (hopen : ScopeOpen db row)
    (hconfig : post.config = db.config) (hroutes : RoutesKept db.work post.work) :
    RowActive post row :=
  (lockTxSendScope_ok_iff.mp hopen).kept hconfig hroutes

theorem rowActive_queued {db post : DB} {id attempts : ℕ} {retryOfID : Option ℕ}
    (hscope : lockTxSendScope db request.chainEID request.purpose request.guid = .ok ())
    (hconfig : post.config = db.config) (hroutes : RoutesKept db.work post.work) :
    RowActive post (queuedRow id now request attempts retryOfID) := by
  have hguid : (optionalBytes request.guid).getD [] = request.guid := by
    rw [optionalBytes]
    split
    · rename_i hempty
      rw [List.length_eq_zero_iff.mp hempty, getD_none]
    · rfl
  refine ScopeActive.kept hconfig hroutes ?_
  rw [← lockTxSendScope_ok_iff]
  exact hguid.symm ▸ hscope

/-! ## Rows that a step leaves unspent -/

variable {tx : TxTables} {old row after : OutboxRow}

theorem Frugal.refl (row : OutboxRow) : Frugal row row :=
  ⟨rfl, rfl, fun hfailed hqueued => by rw [hfailed] at hqueued; cases hqueued⟩

theorem Frugal.not_spends (hold : tx.outbox.find row.id = some old) (hfrugal : Frugal old row) :
    ¬ Spends tx row := by
  intro hspends
  rcases hspends old hold with ⟨hnone, hsome⟩ | ⟨hfailed, hqueued⟩ | hmore
  · exact hsome (hfrugal.nonce.trans hnone)
  · exact hfrugal.status hfailed hqueued
  · exact hmore.ne hfrugal.attempts.symm

theorem not_spends_of_mem (hrow : row ∈ tx.outbox) : ¬ Spends tx row :=
  (Frugal.refl row).not_spends (find_of_mem hrow)

theorem spends_setRow (hrow : row ∈ (tx.setRow after).outbox) (hspends : Spends tx row) :
    row = after := by
  rcases mem_of_mem_set hrow with hsame | hkept
  · exact hsame
  · exact absurd hspends (not_spends_of_mem hkept.1)

theorem not_spends_setRow (hrow : row ∈ (tx.setRow after).outbox)
    (hold : tx.outbox.find old.id = some old) (hid : after.id = old.id)
    (hfrugal : Frugal old after) : ¬ Spends tx row := by
  intro hspends
  cases spends_setRow hrow hspends
  exact hfrugal.not_spends (hid ▸ hold) hspends

theorem spends_insertQueued (hrow : row ∈ (insertQueued tx now request).outbox)
    (hspends : Spends tx row) : row = queuedRow tx.outbox.next now request 0 none := by
  rcases (mem_append rfl).mp hrow with hkept | hsame
  · exact absurd hspends (not_spends_of_mem hkept)
  · exact hsame

/-- Beside the clone only the retried row is written. -/
theorem spends_clone {child : OutboxRow} {table : OutboxTable} (hmem : ∀ other, other ∈ table ↔
      (other ∈ tx.outbox ∧ other.id ≠ old.id) ∨ other = after ∨ other = child)
    (hold : tx.outbox.find old.id = some old) (hid : after.id = old.id)
    (hfrugal : Frugal old after) (hrow : row ∈ table) (hspends : Spends tx row) : row = child := by
  rcases (hmem row).mp hrow with ⟨hkept, -⟩ | rfl | hchild
  · exact absurd hspends (not_spends_of_mem hkept)
  · exact absurd hspends (hfrugal.not_spends (hid ▸ hold))
  · exact hchild

/-! ## The methods -/

variable {db post : DB} {op : TxOp}

theorem rowActive_clone {id : ℕ} (hopen : ScopeOpen db old) (hconfig : post.config = db.config)
    (hroutes : RoutesKept db.work post.work) :
    RowActive post (cloneRow id now old) :=
  rowActive_of_open hopen hconfig hroutes

theorem routes_of_restores {work after : WorkTables} (hrestores : Restores work row after) :
    RoutesKept work after := by
  cases hrestores with
  | other _ => exact .refl work
  | delivery => exact .of_records (.casPacketStatus rfl rfl rfl)

theorem spends_retry {result : Result ℕ} (haddressed : Addressed db.tx)
    (hresult : RetryResult db op result) (hrow : row ∈ result.1.tx.outbox)
    (hspends : Spends db.tx row) : RowActive result.1 row := by
  cases hresult with
  | refused _ => exact absurd hspends (not_spends_of_mem hrow)
  | deferred old now _ _ hfound hfailed _ =>
    exact absurd hspends (not_spends_setRow hrow hfound rfl ⟨rfl, rfl, (Frugal.refl old).status⟩)
  | requeued old now _ _ _ _ _ hscope =>
    cases spends_setRow hrow hspends
    exact rowActive_of_open hscope rfl (.refl _)
  | settled old now work hcloneable _ =>
    exact absurd hspends (not_spends_setRow hrow hcloneable.found rfl
      ⟨rfl, rfl, (Frugal.refl old).status⟩)
  | cloned old now work hcloneable _ hrestores hscope =>
    have hold := mem_of_find hcloneable.found
    have hopen : ScopeOpen db old := hscope fun hpurpose => by
      obtain ⟨guid, hguid⟩ := haddressed old hold (by rw [hpurpose]; rfl)
      simp [hguid]
    cases spends_clone (mem_append_set (retriedRow old now) hcloneable.found rfl rfl)
      hcloneable.found rfl ⟨rfl, rfl, (Frugal.refl old).status⟩ hrow hspends
    exact rowActive_clone hopen rfl (routes_of_restores hrestores)

/-- The claim is refused, or it writes the transaction tables only. -/
theorem claim_cases (db : DB) (now : Time) (id : ℕ) (lane : Lane) (token : UUID)
    (leaseTTL : Duration) :
    (∃ error, claimOutboxForSigning db now id lane token leaseTTL = rollback db error) ∨
    ∃ tx answer, claimOutboxForSigning db now id lane token leaseTTL =
      commit (db.withTx tx) answer := by
  unfold claimOutboxForSigning
  repeat' split
  all_goals first
    | exact .inl ⟨_, rfl⟩
    | exact .inr ⟨_, _, rfl⟩

theorem rowActive_claimed {lane : Lane} {token : UUID} {leaseTTL : Duration}
    (hold : db.tx.outbox.find old.id = some old) (hnone : old.nonce = none)
    (hquiet : QuietRow old row)
    (hrow : row ∈ (claimOutboxForSigning db now old.id lane token leaseTTL).1.tx.outbox)
    (hnonce : row.nonce ≠ none) :
    RowActive (claimOutboxForSigning db now old.id lane token leaseTTL).1
      row := by
  rcases claim_cases db now old.id lane token leaseTTL with
    ⟨error, hrefused⟩ | ⟨tx, answer, hclaimed⟩
  · rw [hrefused] at hrow
    have hsame : row = old := eq_of_key_eq hrow (mem_of_find hold) hquiet.id
    exact absurd (hsame ▸ hnone) hnonce
  · have hopen : ScopeOpen db old := scope_of_claim hold hnone (by rw [hclaimed]; rfl)
    rw [ScopeOpen, ← hquiet.chainEID, ← hquiet.purpose, ← hquiet.guid] at hopen
    rw [hclaimed]
    exact rowActive_of_open hopen rfl (.refl _)

theorem spends_effect (haddressed : Addressed db.tx) (heffect : TxEffect db op post)
    (hquiet : quietOp op = false) (hrow : row ∈ post.tx.outbox) (hspends : Spends db.tx row) :
    RowActive post row := by
  cases heffect with
  | unchanged => exact absurd hspends (not_spends_of_mem hrow)
  | quiet hop _ =>
    rw [hquiet] at hop
    cases hop
  | enqueuedTx hscope | enqueuedPricing _ hscope | enqueuedDVN _ _ _ _ hscope =>
    cases spends_insertQueued hrow hspends
    exact rowActive_queued hscope rfl (.refl _)
  | enqueuedExecutor _ _ _ _ hscope =>
    cases spends_insertQueued hrow hspends
    exact rowActive_queued hscope rfl (.of_records (.setPacketStatus rfl rfl rfl))
  | reverted _ hold hqueued _ =>
    exact absurd hspends (not_spends_setRow hrow hold rfl
      ⟨rfl, rfl, fun _ => by simp [revertedRow]⟩)
  | operatorRetry hresult | automaticRetry hresult =>
    exact spends_retry haddressed hresult hrow hspends
  | pinned hreceipt _ hopen =>
    exact absurd hspends (not_spends_setRow hrow (find_self hreceipt.owner) rfl
      ⟨rfl, rfl, fun hfailed => by rw [hfailed] at hopen; cases hopen⟩)
  | @finalized now clock _ facts attempt old pinned hreceipt _ _ =>
    refine absurd hspends (not_spends_setRow hrow
      (find_self hreceipt.owner) rfl ⟨rfl, rfl, fun _ => ?_⟩)
    change finalStatus pinned.outcome ≠ .queued
    cases pinned.outcome <;> simp [finalStatus]
  | @resolved now old hold hheld _ hscope =>
    cases spends_clone (mem_set_append (old.consumeExternally now) _ hold rfl rfl) hold rfl
      ⟨rfl, rfl, fun _ => by simp [OutboxRow.consumeExternally]⟩ hrow hspends
    exact rowActive_clone hscope rfl (.refl _)
  | @abandoned now old _ _ hold _ _ =>
    exact absurd hspends (not_spends_setRow hrow hold rfl
      ⟨rfl, rfl, fun _ => by simp [OutboxRow.consumeExternally]⟩)

theorem spends_quiet (hquiet : quietOp op = true) (hrow : row ∈ (op.apply db).tx.outbox)
    (hspends : Spends db.tx row) :
    RowActive (op.apply db) row := by
  have hrows := (quiet_op db op hquiet).2.rows row.id
  rw [find_of_mem hrow] at hrows
  cases hfind : db.tx.outbox.find row.id with
  | none =>
    rw [hfind] at hrows
    cases hrows
  | some old =>
    rw [hfind] at hrows
    cases hrows with
    | some hkept =>
    obtain ⟨hold, hid⟩ := find_eq_some.mp hfind
    rcases hspends old hfind with ⟨hnone, hnonce⟩ | ⟨hfailed, hqueued⟩ | hmore
    · obtain ⟨nonce, hassigned⟩ := ne_none_iff_exists'.mp hnonce
      obtain ⟨token, now, lane, leaseTTL, hop⟩ :
          ∃ token, LeaseCall (.tx op) row.id token .signing :=
        signing_of_fresh_nonce hrow hassigned fun other hother hsame => by
          rw [eq_of_key_eq hother hold (hsame.trans hid.symm)]
          exact hnone
      cases hop
      rw [← hid] at hrow ⊢
      exact rowActive_claimed (hid ▸ hfind) hnone hkept hrow hnonce
    · rcases hkept.status with hstatus | ⟨hopen, -⟩
      · rw [hstatus, hfailed] at hqueued
        cases hqueued
      · rw [hfailed] at hopen
        cases hopen
    · exact absurd hkept.attempts.symm hmore.ne

theorem spends_step {op : Op} (haddressed : Addressed db.tx) (hrow : row ∈ (op.apply db).tx.outbox)
    (hspends : Spends db.tx row) :
    RowActive (op.apply db) row := by
  cases op with
  | work op =>
    rw [Op.apply, workOp_apply_tx] at hrow
    exact absurd hspends (not_spends_of_mem hrow)
  | tx op =>
    cases hquiet : quietOp op with
    | true => exact spends_quiet hquiet hrow hspends
    | false => exact spends_effect haddressed (txOp_effect db op) hquiet hrow hspends

/-! ## Runs -/

theorem guid_of_active (hactive : RowActive db row)
    (hkind : txSendScopeKind row.purpose = .packet) : ∃ guid : Hash, row.guid = some guid.1 := by
  cases hactive with
  | chain hother =>
    rw [hkind] at hother
    cases hother
  | packet packet _ _ hguid _ _ =>
    refine ⟨packet.guid, ?_⟩
    cases hbytes : row.guid with
    | none =>
      have hlength := packet.guid.2
      rw [hbytes, getD_none] at hguid
      rw [← hguid] at hlength
      cases hlength
    | some bytes =>
      rw [hbytes, getD_some] at hguid
      rw [hguid]

theorem addressed_step {pre : DB} {op : Op} (hchains : Chains pre.tx.outbox)
    (haddressed : Addressed pre.tx) (hstep : Step pre op post) : Addressed post.tx := by
  intro row hrow hkind
  cases hfind : pre.tx.outbox.find row.id with
  | none =>
    have hspends : Spends pre.tx row := by
      intro old hold
      rw [hfind] at hold
      cases hold
    rw [Step] at hstep
    subst hstep
    exact guid_of_active (spends_step haddressed hrow hspends) hkind
  | some old =>
    obtain ⟨hold, hid⟩ := find_eq_some.mp hfind
    obtain ⟨after, hafter, hkept⟩ := (chainsStep_op hchains hstep).continues old hold
    have hsame : after = row := eq_of_key_eq hafter hrow (hkept.id.trans hid)
    have htask : rowTask row = rowTask old := hsame ▸ hkept.task
    obtain ⟨hpurpose, hguid⟩ := Prod.mk.inj htask
    rw [hguid]
    exact haddressed old hold (hpurpose ▸ hkind)

theorem addressed_storeRun {history : List (Event DB Op)} (hrun : StoreRun history db) :
    Addressed db.tx := by
  have hboth : Chains db.tx.outbox ∧ Addressed db.tx :=
    hrun.invariant (fun db => Chains db.tx.outbox ∧ Addressed db.tx)
      (fun _ _ _ hpre hstep => ⟨chains_step hpre.1 hstep, addressed_step hpre.1 hpre.2 hstep⟩)
      ⟨chains_empty, fun row hrow => absurd hrow (not_mem_empty row)⟩
  exact hboth.2

/-! ## Rows that hold a nonce -/

/-- The method answers and writes the same under every configuration. -/
def PauseBlind {Answer : Type} (method : DB → Result Answer) : Prop :=
  ∀ db config, method (db.withConfig config) = ((method db).1.withConfig config, (method db).2)

/-- The methods that replace, cancel, broadcast and finish a row with a nonce
do not look at the configuration. -/
structure ConvergesThroughPauses : Prop where
  requestReplacement : ∀ now id, PauseBlind fun db => requestTxReplacement db now id
  nextReplacement : ∀ (db : DB) config now lane staleAfter,
    nextReplacementCandidate (db.withConfig config) now lane staleAfter =
      nextReplacementCandidate db now lane staleAfter
  claimReplacement : ∀ now id expected token leaseTTL, PauseBlind fun db =>
      claimOutboxForReplacementSigning db now id expected token leaseTTL
  insertReplacement : ∀ now id expected token signed, PauseBlind fun db =>
      insertReplacementAttempt db now id expected token signed
  requestCancel : ∀ now id, PauseBlind fun db => requestTxCancel db now id
  nextCancel : ∀ (db : DB) config now lane, nextCancelCandidate (db.withConfig config) now lane =
      nextCancelCandidate db now lane
  claimCancel : ∀ now id expected token leaseTTL, PauseBlind fun db =>
      claimOutboxForCancelSigning db now id expected token leaseTTL
  insertCancel : ∀ now id expected token signed,
    PauseBlind fun db => insertCancelAttempt db now id expected token signed
  claimBroadcast : ∀ now lane token leaseTTL locked, PauseBlind fun db =>
      claimAttemptForBroadcast db now lane token leaseTTL locked
  markSendResult : ∀ now id token sendClass sendErr, PauseBlind fun db =>
      markAttemptSendResult db now id token sendClass sendErr
  listReceipts : ∀ (db : DB) config lane limit,
    listReceiptPollTasks (db.withConfig config) lane limit = listReceiptPollTasks db lane limit
  prepareReceipt : ∀ now id facts, PauseBlind fun db => prepareReceiptResolution db now id facts
  applyReceipt : ∀ now row txHash outcome,
    PauseBlind fun db => applyWorkflow db now row txHash outcome
  finalizeReceipt : ∀ now clock id facts,
    PauseBlind fun db => finalizeAttemptReceipt db now clock id facts

theorem recoverAttempt_withConfig {config : ConfigTables} {outboxID : ℕ} {signed : SignedAttempt}
    {fresh other : Result AttemptRow} (hfresh : other = (fresh.1.withConfig config, fresh.2)) :
    recoverAttempt (db.withConfig config) outboxID signed other =
      ((recoverAttempt db outboxID signed fresh).1.withConfig config,
        (recoverAttempt db outboxID signed fresh).2) := by
  unfold recoverAttempt
  dsimp only [DB.withConfig_tx]
  repeat' split
  all_goals first
    | rfl
    | exact hfresh

theorem persistAttempt_pauseBlind {signed : SignedAttempt} {switched : OutboxRow} :
    PauseBlind fun db => persistAttempt db row signed switched := by
  intro db config
  unfold persistAttempt
  dsimp only [DB.withConfig_tx]
  split <;> rfl

theorem updateExecutorStatus_pauseBlind (now : Time) {update : ExecutorStatusUpdate} :
    PauseBlind fun db => updateExecutorStatus db now update := by
  intro db config
  unfold updateExecutorStatus
  dsimp only [DB.withConfig_work]
  split
  · rfl
  split
  · rfl
  by_cases hrepeated : update.incrementRetryCount = true ∧
      (db.work.receiveFailures.find
        ⟨update.guid, update.receiveTxHash.getD Hash.zero⟩).isSome = true
  · refine (if_pos hrepeated).trans ?_
    rw [if_pos hrepeated]
    rfl
  refine (if_neg hrepeated).trans ?_
  rw [if_neg hrepeated]
  cases db.work.executorJobs.find update.guid with
  | none => rfl
  | some job =>
    by_cases hstatus : job.status = update.expected
    · simp only [if_pos hstatus]
      rfl
    · simp only [if_neg hstatus]
      rfl

theorem updateDVNStatus_pauseBlind (now : Time) {update : DVNStatusUpdate} :
    PauseBlind fun db => updateDVNStatus db now update := by
  intro db config
  unfold updateDVNStatus
  dsimp only [DB.withConfig_work]
  repeat' split
  all_goals rfl

theorem mark_pauseBlind (now : Time) (mark : WorkflowMark) :
    PauseBlind fun db => mark.call db now := by
  intro db config
  cases mark with
  | committed | delivered | receiveFailed | parkExecutor =>
    dsimp only [WorkflowMark.call, markExecutorCommitted, markExecutorCommittedObserved,
      markExecutorDelivered, markExecutorDeliveredObserved, markExecutorReceiveFailed,
      markExecutorReceiveFailedObserved, markExecutorManualReview]
    repeat' split
    all_goals first
      | rfl
      | exact updateExecutorStatus_pauseBlind now db config
  | verified | parkDVN =>
    dsimp only [WorkflowMark.call, markDVNVerified, markDVNVerifiedObserved, markDVNManualReview]
    split
    · rfl
    · exact updateDVNStatus_pauseBlind now db config

theorem applyWorkflow_pauseBlind (now : Time) (row : OutboxRow) (txHash : Hash)
    (outcome : ReceiptOutcome) : PauseBlind fun db => applyWorkflow db now row txHash outcome := by
  intro db config
  have hholds : ∀ (applied : AppliedSet) (db : DB),
      applied.holds (db.withConfig config) = applied.holds db := by
    intro applied db
    cases applied <;> rfl
  dsimp only [applyWorkflow]
  split
  · rfl
  rename_i effect _
  have hmark : effect.mark.call (db.withConfig config) now =
      ((effect.mark.call db now).1.withConfig config,
        (effect.mark.call db now).2) := mark_pauseBlind now effect.mark db config
  rw [WorkflowEffect.run, WorkflowEffect.run, hholds, hmark]
  split
  · rfl
  generalize effect.mark.call db now = result
  obtain ⟨marked, answer⟩ := result
  cases answer with
  | ok => rfl
  | error error =>
    dsimp only
    rw [hholds]
    split <;> rfl

theorem converges_through_pauses : ConvergesThroughPauses where
  requestReplacement now id db config := by
    unfold requestTxReplacement
    dsimp only [DB.withConfig_tx]
    repeat' split
    all_goals rfl
  nextReplacement _ _ _ _ _ := rfl
  claimReplacement now id expected token leaseTTL db config := by
    unfold claimOutboxForReplacementSigning
    dsimp only [DB.withConfig_tx]
    repeat' split
    all_goals rfl
  insertReplacement now id expected token signed db config := by
    unfold insertReplacementAttempt
    dsimp only [DB.withConfig_tx]
    split
    · rfl
    split
    · rfl
    refine recoverAttempt_withConfig ?_
    repeat' split
    all_goals first
      | rfl
      | exact persistAttempt_pauseBlind db config
  requestCancel now id db config := by
    unfold requestTxCancel
    dsimp only [DB.withConfig_tx]
    split
    · rfl
    split
    · rfl
    split <;> rfl
  nextCancel _ _ _ _ := rfl
  claimCancel now id expected token leaseTTL db config := by
    unfold claimOutboxForCancelSigning
    dsimp only [DB.withConfig_tx]
    repeat' split
    all_goals rfl
  insertCancel now id expected token signed db config := by
    unfold insertCancelAttempt
    dsimp only [DB.withConfig_tx]
    split
    · rfl
    split
    · rfl
    refine recoverAttempt_withConfig ?_
    repeat' split
    all_goals first
      | rfl
      | exact persistAttempt_pauseBlind db config
  claimBroadcast now lane token leaseTTL locked db config := by
    unfold claimAttemptForBroadcast
    dsimp only [DB.withConfig_tx]
    split
    · rfl
    split <;> rfl
  markSendResult now id token sendClass sendErr db config := by
    unfold markAttemptSendResult
    dsimp only [DB.withConfig_tx]
    repeat' split
    all_goals rfl
  listReceipts _ _ _ _ := rfl
  prepareReceipt now id facts db config := by
    unfold prepareReceiptResolution
    dsimp only [DB.withConfig_tx]
    repeat' split
    all_goals rfl
  applyReceipt := applyWorkflow_pauseBlind
  finalizeReceipt now clock id facts db config := by
    unfold finalizeAttemptReceipt
    dsimp only [DB.withConfig_tx]
    repeat' split
    all_goals rfl

/-- Every committed step of a run spends only for rows whose scope is active in
the committed state, and rows with a nonce converge under every
configuration. -/
theorem pause_fence {history : List (Event DB Op)} {db : DB} (hrun : StoreRun history db) :
    (∀ event ∈ history, ∀ row ∈ event.post.tx.outbox, Spends event.pre.tx row →
      ScopeActive event.post row.chainEID row.purpose (row.guid.getD [])) ∧
    ConvergesThroughPauses := by
  refine ⟨fun event hevent row hrow hspends => ?_, converges_through_pauses⟩
  obtain ⟨hstep, earlier, hearlier⟩ := hrun.event_reached hevent
  rw [Step] at hstep
  rw [hstep] at hrow ⊢
  exact spends_step (addressed_storeRun hearlier) hrow hspends

theorem retriedCommit_fenced : ∃ row ∈ (replay retriedCommit).tx.outbox, row.retryOfID = some 1 ∧
      Spends (replay revertedCommit).tx row ∧
      ScopeActive (replay retriedCommit) row.chainEID row.purpose (row.guid.getD []) := by
  have hclone : (replay retriedCommit).tx.outbox.rows.any (fun row =>
      decide (row.retryOfID = some 1) &&
        ((replay revertedCommit).tx.outbox.find row.id).isNone) = true := by
    decide +kernel
  simp only [List.any_eq_true, Bool.and_eq_true, decide_eq_true_eq,
    isNone_iff_eq_none] at hclone
  obtain ⟨row, hrow, hretry, hfresh⟩ := hclone
  have hspends : Spends (replay revertedCommit).tx row := by
    intro old hold
    rw [hfresh] at hold
    cases hold
  exact ⟨row, hrow, hretry, hspends,
    (pause_fence (storeRun_trace retriedCommit)).1 _ List.mem_cons_self row hrow hspends⟩

end Lazier.Scope
