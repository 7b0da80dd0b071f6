import Lazier.Ledger.LaneEffects

/-!
# Quiet transaction methods

Signing, broadcasting, replacing and reconciling move a row between its open
statuses.  They neither end it nor pin a receipt, and they leave its retry
columns alone.
-/

namespace Lazier.Ledger

open Library Store SerialTable

/-- A row before and after a quiet method. -/
structure QuietRow (old new : OutboxRow) : Prop where
  id : new.id = old.id := by rfl
  chainEID : new.chainEID = old.chainEID := by rfl
  signerID : new.signerID = old.signerID := by rfl
  purpose : new.purpose = old.purpose := by rfl
  guid : new.guid = old.guid := by rfl
  attempts : new.attempts = old.attempts := by rfl
  failureKind : new.failureKind = old.failureKind := by rfl
  nextRetryAt : new.nextRetryAt = old.nextRetryAt := by rfl
  retryOfID : new.retryOfID = old.retryOfID := by rfl
  receipt : new.receipt = old.receipt := by rfl
  status : new.status = old.status ∨ (old.status.terminal = false ∧ new.status.terminal = false)
  nonce : new.nonce = old.nonce ∨ old.status.terminal = false

theorem QuietRow.refl (row : OutboxRow) : QuietRow row row :=
  { status := .inl rfl, nonce := .inl rfl }

theorem QuietRow.terminal {old new : OutboxRow} (hquiet : QuietRow old new) :
    new.status.terminal = old.status.terminal := by
  rcases hquiet.status with hsame | ⟨hold, hnew⟩
  · rw [hsame]
  · rw [hold, hnew]

theorem QuietRow.trans {first second third : OutboxRow}
    (hleft : QuietRow first second) (hright : QuietRow second third) : QuietRow first third where
  id := hright.id.trans hleft.id
  chainEID := hright.chainEID.trans hleft.chainEID
  signerID := hright.signerID.trans hleft.signerID
  purpose := hright.purpose.trans hleft.purpose
  guid := hright.guid.trans hleft.guid
  attempts := hright.attempts.trans hleft.attempts
  failureKind := hright.failureKind.trans hleft.failureKind
  nextRetryAt := hright.nextRetryAt.trans hleft.nextRetryAt
  retryOfID := hright.retryOfID.trans hleft.retryOfID
  receipt := hright.receipt.trans hleft.receipt
  status := by
    rcases hright.status with hsame | ⟨hopen, hopen'⟩
    · rw [hsame]
      exact hleft.status
    · exact .inr ⟨hleft.terminal ▸ hopen, hopen'⟩
  nonce := by
    rcases hright.nonce with hsame | hopen
    · rw [hsame]
      exact hleft.nonce
    · exact .inr (hleft.terminal ▸ hopen)

/-- Attempts keep their row and hash, and a new attempt has a new hash. -/
def AttemptsKept (old new : SerialTable AttemptRow AttemptRow.id) : Prop := ∀ attempt ∈ new,
    (∃ before ∈ old, before.id = attempt.id ∧
      before.txHash = attempt.txHash ∧ before.outboxID = attempt.outboxID) ∨
      (attempt.id = old.next ∧ ∀ before ∈ old, before.txHash ≠ attempt.txHash)

/-- What a quiet method does to the transaction tables. -/
structure QuietTx (old new : TxTables) : Prop where
  rows : ∀ id, Option.Rel QuietRow (old.outbox.find id) (new.outbox.find id)
  next : new.outbox.next = old.outbox.next
  attempts : AttemptsKept old.attempts new.attempts

theorem AttemptsKept.refl (attempts : SerialTable AttemptRow AttemptRow.id) :
    AttemptsKept attempts attempts :=
  fun attempt hattempt => .inl ⟨attempt, hattempt, rfl, rfl, rfl⟩

namespace QuietTx

variable {tx : TxTables}

theorem of_outbox {old new : TxTables} (houtbox : new.outbox = old.outbox)
    (hattempts : AttemptsKept old.attempts new.attempts) : QuietTx old new where
  rows id := by
    rw [houtbox]
    exact rel_refl QuietRow.refl
  next := by rw [houtbox]
  attempts := hattempts

theorem refl (tx : TxTables) : QuietTx tx tx := of_outbox rfl (.refl _)

theorem setCursor (cursor : NonceCursor) : QuietTx tx (tx.setCursor cursor) :=
  of_outbox rfl (.refl _)

theorem setRow {old new : OutboxRow} (hold : tx.outbox.find old.id = some old)
    (hquiet : QuietRow old new) : QuietTx tx (tx.setRow new) where
  rows id := by
    have hfind : tx.outbox.find new.id = some old := hquiet.id ▸ hold
    by_cases hsame : id = new.id
    · rw [hsame, TxTables.setRow, find_set_self hfind, hfind]
      exact .some hquiet
    · rw [TxTables.setRow, find_set_of_ne hsame]
      exact rel_refl QuietRow.refl
  next := rfl
  attempts := .refl _

theorem setAttempt {old new : AttemptRow} (hold : old ∈ tx.attempts)
    (hid : new.id = old.id) (hhash : new.txHash = old.txHash)
    (howner : new.outboxID = old.outboxID) : QuietTx tx (tx.setAttempt new) := by
  refine of_outbox rfl fun attempt hattempt => ?_
  rcases mem_of_mem_set hattempt with rfl | ⟨hkept, -⟩
  · exact .inl ⟨old, hold, hid.symm, hhash.symm, howner.symm⟩
  · exact .inl ⟨attempt, hkept, rfl, rfl, rfl⟩

theorem addAttempt {attempt : AttemptRow} (hid : attempt.id = tx.attempts.next)
    (hfresh : ∀ before ∈ tx.attempts, before.txHash ≠ attempt.txHash) :
    QuietTx tx (tx.addAttempt attempt hid) := by
  refine of_outbox rfl fun other hother => ?_
  rcases (mem_append hid).mp hother with hold | rfl
  · exact .inl ⟨other, hold, rfl, rfl, rfl⟩
  · exact .inr ⟨hid, hfresh⟩

/-- Two quiet steps of which only one writes attempts. -/
theorem append {first second third : TxTables} (hleft : QuietTx first second)
    (hright : QuietTx second third) (hattempts : second.attempts = first.attempts ∨
      third.attempts = second.attempts) : QuietTx first third where
  rows id := rel_comp (fun _ _ _ hfirst hsecond => hfirst.trans hsecond)
    (hleft.rows id) (hright.rows id)
  next := hright.next.trans hleft.next
  attempts := by
    rcases hattempts with hsame | hsame
    · exact hsame ▸ hright.attempts
    · exact hsame ▸ hleft.attempts

end QuietTx

/-! ## The quiet methods -/

/-- A quiet method leaves the workflow tables alone. -/
def QuietDB (db post : DB) : Prop := post.work = db.work ∧ QuietTx db.tx post.tx

/-- A row with a new attempt moves between open statuses. -/
theorem quiet_persisted {tx : TxTables} {row : OutboxRow}
    {signed : SignedAttempt} {use : LeaseUse} {now : Time} (hrow : tx.outbox.find row.id = some row)
    (hfresh : attemptByHash tx signed.txHash = none) (hopen : row.status.terminal = false)
    (hafter : (persistedRow use now tx.attempts.next row).status.terminal = false) :
    QuietTx tx (persistedTx use tx now signed row) :=
  .append (.addAttempt rfl fun attempt hattempt => by
      simpa [SignedAttempt.toRow] using List.find?_eq_none.mp hfresh attempt hattempt)
    (.setRow hrow { status := .inr ⟨hopen, hafter⟩, nonce := .inl rfl }) (.inr rfl)

theorem replacementClaimable_open {status : TxStatus} {kind : AttemptKind}
    (hclaimable : replacementClaimable status kind = true) :
    status.terminal = false ∧ (replacedStatus status).terminal = false := by
  cases status <;>
    simp_all [replacementClaimable, TxStatus.terminal, replacedStatus]

theorem cancelAllowed_open {status : TxStatus} (hallowed : status.cancelAllowed = true) :
    status.terminal = false ∧ (canceledStatus status).terminal = false := by
  cases status <;>
    simp_all [TxStatus.cancelAllowed, TxStatus.cancelable, TxStatus.terminal, canceledStatus]

theorem mapSendClassToOutbox_open {sendClass : SendClass} :
    (mapSendClassToOutbox sendClass).terminal = false := by
  cases sendClass <;> rfl

theorem quiet_parkExhaustedLanes {tx : TxTables} {now : Time} {lane : Lane} :
    QuietTx tx (parkExhaustedLanes tx now lane) where
  rows id := by
    have hrow : ∀ row, QuietRow row (parkExhausted tx now lane row) := by
      intro row
      unfold parkExhausted
      split
      · rename_i hexhausted
        have hsigned : row.status = .signed := by
          simp only [broadcastExhausted, Bool.and_eq_true, decide_eq_true_eq] at hexhausted
          exact hexhausted.1.2
        exact { status := .inr ⟨by rw [hsigned]; rfl, rfl⟩, nonce := .inl rfl }
      · exact .refl row
    have hfind : (parkExhaustedLanes tx now lane).outbox.find id =
        (tx.outbox.find id).map (parkExhausted tx now lane) := by
      rw [parkExhaustedLanes, find_mapRows]
    rw [hfind]
    cases tx.outbox.find id with
    | none => exact .none
    | some row => exact .some (hrow row)
  next := rfl
  attempts := .refl _

theorem quietTx_decided {now : Time} {evidence : String}
    {decisions : List NonceReconcileDecision} {old new : TxTables}
    (hdecided : DecidedTx now evidence decisions old new) : QuietTx old new where
  rows id := by
    have hrow : ∀ before after, Decided old now evidence decisions before after →
          QuietRow before after := by
      intro before after hrow
      cases hrow with
      | kept => exact .refl before
      | @released active _ hheld _ _ =>
        refine { status := .inr ⟨by rw [hheld]; rfl, ?_⟩, nonce := .inl rfl }
        dsimp only [releasedStatus]
        split <;> rfl
      | external _ hheld _ =>
        exact { status := .inr ⟨by rw [hheld]; rfl, rfl⟩, nonce := .inl rfl }
    have hrel := hdecided.rows id
    generalize old.outbox.find id = before at hrel
    generalize new.outbox.find id = after at hrel
    cases hrel with
    | none => exact .none
    | some hdecided => exact .some (hrow _ _ hdecided)
  next := hdecided.next
  attempts := hdecided.attempts ▸ .refl _

theorem quietTx_of_effect {tx after : TxTables} {op : TxOp}
    (heffect : Effect tx op after) : QuietTx tx after := by
  cases heffect with
  | cursors houtbox hattempts => exact .of_outbox houtbox (hattempts ▸ .refl _)
  | noted _ _ _ _ _ hrow | replacing hrow | canceling hrow
  | replacementRequested _ hrow | cancelRequested _ hrow =>
    exact .setRow hrow { status := .inl rfl, nonce := .inl rfl }
  | assigned hrow hqueued =>
    have hopen := congrArg TxStatus.terminal hqueued
    refine .append (.setRow hrow ?_) (.setCursor _) (.inl rfl)
    exact { status := .inr ⟨hopen, rfl⟩, nonce := .inr hopen }
  | @signing _ _ _ _ row hrow hstatus =>
    have hopen : row.status.terminal = false := by
      rcases hstatus with hstatus | hstatus <;> rw [hstatus] <;> rfl
    exact .setRow hrow { status := .inr ⟨hopen, rfl⟩, nonce := .inl rfl }
  | signed hrow _ hstatus _ hfresh =>
    exact quiet_persisted hrow hfresh (congrArg TxStatus.terminal hstatus) rfl
  | replaced _ hrow _ _ _ hclaimable _ _ hfresh =>
    have hopen := replacementClaimable_open hclaimable
    exact quiet_persisted hrow hfresh hopen.1 hopen.2
  | canceled _ hrow _ _ _ _ hallowed _ hfresh =>
    have hopen := cancelAllowed_open hallowed
    exact quiet_persisted hrow hfresh hopen.1 hopen.2
  | parked => exact quiet_parkExhaustedLanes
  | broadcast hpick =>
    exact .append quiet_parkExhaustedLanes
      (.setAttempt (claimGuard_of_pick hpick).2.1 rfl rfl rfl) (.inl rfl)
  | outdated hattempt => exact .setAttempt (mem_of_find hattempt) rfl rfl rfl
  | reported hattempt _ _ hrow _ hlive =>
    refine .append (.setRow hrow ?_) (.setAttempt (mem_of_find hattempt) rfl rfl rfl)
      (.inl rfl)
    exact { status := .inr ⟨hlive, mapSendClassToOutbox_open⟩, nonce := .inl rfl }
  | @charged now _ row hrow _ hlive =>
    refine .setRow hrow { status := ?_, nonce := .inl rfl }
    unfold chargedRow
    dsimp only
    split
    · exact .inr ⟨hlive, rfl⟩
    · exact .inl rfl
  | reconciled =>
    exact .append (.setCursor _)
      (quietTx_decided (decided_applyDecisions _ _ _ (_, 0))) (.inl rfl)

theorem quiet_op (db : DB) (op : TxOp) (hquiet : quietOp op = true) : QuietDB db (op.apply db) := by
  refine ⟨apply_txOp_work db ?_, quietTx_of_effect (quiet_effect db op hquiet)⟩
  cases op <;> first | rfl | cases hquiet

end Lazier.Ledger
