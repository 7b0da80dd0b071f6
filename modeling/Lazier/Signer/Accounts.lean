import Lazier.Signer.Offers

/-!
# What a call may spend

A new attempt is what a task can spend.  Seen through the attempts of a row, its
active pointer and the two operator requests, every call keeps the accounts,
persists one attempt, or records one request.
-/

namespace Lazier.Signer

open Library Store Ledger Manager SerialTable List

variable {attempts old : Attempts} {tx : TxTables} {row new : OutboxRow} {now : Time} {db : DB}
  {attempt : AttemptRow} {op : TxOp}

/-! ## Attempts of a row -/

/-- The number of attempts of a row that have the given kind. -/
def kindCount (attempts : Attempts) (id : ℕ) (kind : AttemptKind) : ℕ :=
  attempts.rows.countP fun attempt =>
    decide (attempt.outboxID = id ∧ attempt.kind = kind)

/-- The columns of an attempt that never change. -/
def identity (attempt : AttemptRow) : ℕ × ℕ × AttemptKind :=
  (attempt.id, attempt.outboxID, attempt.kind)

structure SameAttempts (old new : Attempts) : Prop where
  identities : new.rows.map identity = old.rows.map identity
  next : new.next = old.next

theorem SameAttempts.refl (attempts : Attempts) : SameAttempts attempts attempts := ⟨rfl, rfl⟩

theorem SameAttempts.set {old new : AttemptRow} (hold : old ∈ attempts)
    (hsame : identity new = identity old) : SameAttempts attempts (attempts.set new) := by
  refine ⟨?_, rfl⟩
  have hrows : (attempts.set new).rows =
      attempts.rows.map fun row => if row.id = new.id then new else row := rfl
  rw [hrows, map_map]
  refine map_congr_left fun row hrow => ?_
  rw [Function.comp_apply]
  split
  · rename_i hid
    have hkey : new.id = old.id := congrArg Prod.fst hsame
    rw [hsame, eq_of_key_eq hrow hold (hid.trans hkey)]
  · rfl

theorem kindCount_same {new : Attempts} (hsame : SameAttempts old new) {id : ℕ}
    {kind : AttemptKind} :
    kindCount new id kind = kindCount old id kind := by
  have hmap : ∀ attempts : Attempts, kindCount attempts id kind =
      (attempts.rows.map identity).countP fun entry =>
        decide (entry.2.1 = id ∧ entry.2.2 = kind) := by
    intro attempts
    rw [countP_map]
    rfl
  rw [hmap, hmap, hsame.identities]

theorem kindCount_append (hid : attempt.id = attempts.next) (id : ℕ) (kind : AttemptKind) :
    kindCount (attempts.append attempt hid) id kind = kindCount attempts id kind +
        if attempt.outboxID = id ∧ attempt.kind = kind then 1 else 0 := by
  have hrows : (attempts.append attempt hid).rows = attempts.rows ++ [attempt] := rfl
  rw [kindCount, hrows, countP_append, countP_singleton]
  simp only [decide_eq_true_eq]
  rfl

theorem kindCount_eq_zero {id : ℕ} {kind : AttemptKind} :
    kindCount attempts id kind = 0 ↔
      ∀ attempt ∈ attempts, attempt.outboxID = id → attempt.kind ≠ kind := by
  rw [kindCount, countP_eq_zero]
  simp only [decide_eq_true_eq, not_and]
  rfl

theorem mem_same {new : Attempts} (hsame : SameAttempts old new) (hattempt : attempt ∈ new) :
    ∃ before ∈ old, identity before = identity attempt := by
  have hmem : identity attempt ∈ new.rows.map identity := mem_map_of_mem hattempt
  rw [hsame.identities] at hmem
  exact mem_map.mp hmem

theorem SameAttempts.symm {new : Attempts} (hsame : SameAttempts old new) : SameAttempts new old :=
  ⟨hsame.identities.symm, hsame.next.symm⟩

/-- The active attempt of the row is a cancel. -/
def ActiveCancel (attempts : Attempts) (row : OutboxRow) : Prop :=
  ∃ attempt ∈ attempts, row.activeAttemptID = some attempt.id ∧
    attempt.outboxID = row.id ∧ attempt.kind = .cancel

theorem activeCancel_same {new : Attempts} (hsame : SameAttempts old new) {before after : OutboxRow}
    (hid : after.id = before.id) (hactive : after.activeAttemptID = before.activeAttemptID) :
    ActiveCancel new after ↔ ActiveCancel old before := by
  rw [ActiveCancel, ActiveCancel, hid, hactive]
  constructor
  · rintro ⟨attempt, hattempt, hpointer, howner, hkind⟩
    obtain ⟨other, hother, hidentity⟩ := mem_same hsame hattempt
    simp only [identity, Prod.mk.injEq] at hidentity
    exact ⟨other, hother, by rw [hpointer, hidentity.1],
      hidentity.2.1.trans howner, hidentity.2.2.trans hkind⟩
  · rintro ⟨attempt, hattempt, hpointer, howner, hkind⟩
    obtain ⟨other, hother, hidentity⟩ := mem_same hsame.symm hattempt
    simp only [identity, Prod.mk.injEq] at hidentity
    exact ⟨other, hother, by rw [hpointer, hidentity.1],
      hidentity.2.1.trans howner, hidentity.2.2.trans hkind⟩

theorem activeCancel_iff : ActiveCancel tx.attempts row ↔ activeIsCancel tx row = true := by
  unfold activeIsCancel
  constructor
  · rintro ⟨attempt, hattempt, hpointer, howner, hkind⟩
    rw [activeAttempt_eq_some.mpr ⟨hattempt, hpointer, howner⟩]
    exact decide_eq_true hkind
  · intro hcancel
    split at hcancel
    · cases hcancel
    · rename_i attempt hactive
      obtain ⟨hattempt, hpointer, howner⟩ := activeAttempt_eq_some.mp hactive
      exact ⟨attempt, hattempt, hpointer, howner, of_decide_eq_true hcancel⟩

theorem no_attempt_of_bare (hsound : Sound tx) (hrow : row ∈ tx.outbox) (hbare : row.nonce = none) :
    ∀ attempt ∈ tx.attempts, attempt.outboxID ≠ row.id := by
  intro attempt hattempt howner
  obtain ⟨other, hother, hid, hnonce, -⟩ := (hsound.attempts attempt hattempt).owner
  rw [eq_of_key_eq hother hrow (hid.trans howner), hbare] at hnonce
  cases hnonce

theorem no_attempt_of_inactive (hsound : Sound tx) (hrow : row ∈ tx.outbox)
    (hinactive : row.activeAttemptID = none) :
    ∀ attempt ∈ tx.attempts, attempt.outboxID ≠ row.id := by
  intro attempt hattempt howner
  obtain ⟨other, hother, hid, -, hactive⟩ := (hsound.attempts attempt hattempt).owner
  rw [eq_of_key_eq hother hrow (hid.trans howner)] at hactive
  exact hactive hinactive

/-! ## Rows -/

/-- A row whose accounts stay: an ended row stays ended, and a live one keeps
its active attempt and its requests. -/
structure RowKept (old new : OutboxRow) : Prop where
  id : new.id = old.id
  live : new.status.terminal = false → old.status.terminal = false
  active : new.status.terminal = false → new.activeAttemptID = old.activeAttemptID
  replace : new.replaceRequestedAt ≠ none → old.replaceRequestedAt ≠ none
  cancel : new.status.terminal = false →
    (new.cancelRequestedAt = none ↔ old.cancelRequestedAt = none)

theorem RowKept.refl (row : OutboxRow) : RowKept row row :=
  ⟨rfl, fun hlive => hlive, fun _ => rfl, fun hreplace => hreplace, fun _ => Iff.rfl⟩

theorem RowKept.edit {old : OutboxRow} (hid : new.id = old.id) (hlive : old.status.terminal = false)
    (hactive : new.activeAttemptID = old.activeAttemptID)
    (hreplace : new.replaceRequestedAt ≠ none → old.replaceRequestedAt ≠ none)
    (hcancel : new.cancelRequestedAt = old.cancelRequestedAt) : RowKept old new :=
  ⟨hid, fun _ => hlive, fun _ => hactive, hreplace, fun _ => by rw [hcancel]⟩

theorem RowKept.ended {old : OutboxRow} (hid : new.id = old.id)
    (hended : new.status.terminal = true)
    (hreplace : new.replaceRequestedAt = old.replaceRequestedAt ∨ new.replaceRequestedAt = none) :
    RowKept old new where
  id := hid
  live hlive := by
    rw [hended] at hlive
    cases hlive
  active hlive := by
    rw [hended] at hlive
    cases hlive
  replace hsome := by
    rcases hreplace with hsame | hnone
    · exact hsame ▸ hsome
    · exact absurd hnone hsome
  cancel hlive := by
    rw [hended] at hlive
    cases hlive

/-- Every row of the new tables is an old one with its accounts kept, or holds
no nonce. -/
def RowsKept (old new : Outbox) : Prop :=
  ∀ row ∈ new, (∃ before ∈ old, RowKept before row) ∨ row.nonce = none

theorem RowsKept.refl (outbox : Outbox) : RowsKept outbox outbox :=
  fun row hrow => .inl ⟨row, hrow, .refl row⟩

theorem RowsKept.set {old middle : Outbox} (hkept : RowsKept old middle)
    (hnew : (∃ before ∈ old, RowKept before new) ∨ new.nonce = none) :
    RowsKept old (middle.set new) := by
  intro row hrow
  rcases mem_of_mem_set hrow with rfl | ⟨hother, -⟩
  · exact hnew
  · exact hkept row hother

theorem RowsKept.append {old middle : Outbox} (hkept : RowsKept old middle)
    (hid : new.id = middle.next) (hbare : new.nonce = none) :
    RowsKept old (middle.append new hid) := by
  intro row hrow
  rcases (mem_append hid).mp hrow with hold | rfl
  · exact hkept row hold
  · exact .inr hbare

theorem RowsKept.edit {outbox : Outbox} {old : OutboxRow} (hold : outbox.find old.id = some old)
    (hkept : RowKept old new) :
    RowsKept outbox (outbox.set new) := (RowsKept.refl outbox).set
    (.inl ⟨old, mem_of_find hold, hkept⟩)

/-! ## Calls -/

/-- What a call does to the accounts. -/
inductive AccountStep (tx : TxTables) : TxOp → TxTables → Prop
  | kept {op : TxOp} {after : TxTables} (hrows : RowsKept tx.outbox after.outbox)
      (hattempts : SameAttempts tx.attempts after.attempts) : AccountStep tx op after
  | signed {now : Time} {token : UUID} {signed : SignedAttempt}
      {row : OutboxRow} (hrow : tx.outbox.find row.id = some row)
      (hstatus : row.status = .nonceAssigned) :
      AccountStep tx (.insertSignedAttempt now row.id token signed)
        (persistedTx .signing tx now signed row)
  | replaced {now : Time} {expected : ℕ} {token : UUID} {signed : SignedAttempt}
      {row : OutboxRow} (hrow : tx.outbox.find row.id = some row)
      (hactive : row.activeAttemptID = some expected) (hlive : row.status.terminal = false) :
      AccountStep tx (.insertReplacementAttempt now row.id expected token signed)
        (persistedTx .replacement tx now signed row)
  | canceled {now : Time} {expected : ℕ} {token : UUID} {signed : SignedAttempt}
      {row : OutboxRow} (hkind : signed.kind = .cancel) (hrow : tx.outbox.find row.id = some row)
      (hcancel : row.cancelRequestedAt ≠ none) (hactive : row.activeAttemptID.getD 0 = expected)
      (hlive : row.status.terminal = false) :
      AccountStep tx (.insertCancelAttempt now row.id expected token signed)
        (persistedTx .cancel tx now signed row)
  | replacementRequested {now : Time} {row : OutboxRow} (hid : row.id ≠ 0)
      (hrow : tx.outbox.find row.id = some row) (hallowed : ReplacementAllowed row) :
      AccountStep tx (.requestTxReplacement now row.id)
        (tx.setRow
          { row with
            replaceRequestedAt := some now
            preSignFailureCount := 0
            updatedAt := now })
  | cancelRequested {now : Time} {row : OutboxRow} (hid : row.id ≠ 0)
      (hrow : tx.outbox.find row.id = some row) (hnonce : row.nonce ≠ none)
      (hallowed : row.status.cancelAllowed = true) (hreceipt : row.receipt = none) :
      AccountStep tx (.requestTxCancel now row.id) (tx.setRow (cancelRow tx now row))

theorem rowsKept_parkExhaustedLanes {lane : Lane} :
    RowsKept tx.outbox (parkExhaustedLanes tx now lane).outbox := by
  intro row hrow
  obtain ⟨old, hold, rfl⟩ := mem_mapRows.mp hrow
  refine .inl ⟨old, hold, ?_⟩
  unfold parkExhausted
  split
  · rename_i hexhausted
    simp only [broadcastExhausted, Bool.and_eq_true, decide_eq_true_eq] at hexhausted
    exact .edit rfl (by rw [hexhausted.1.2]; rfl) rfl (fun hsome => hsome) rfl
  · exact .refl old

theorem chargedRow_replace (hsome : (chargedRow now row).replaceRequestedAt ≠ none) :
    row.replaceRequestedAt ≠ none := by
  intro hnone
  apply hsome
  simp only [chargedRow, hnone, Option.map_none]
  repeat' split
  all_goals rfl

theorem accountStep_effect {after : TxTables} (heffect : Effect tx op after) :
    AccountStep tx op after := by
  cases heffect with
  | cursors houtbox hattempts =>
    refine .kept ?_ ?_
    · rw [houtbox]
      exact .refl _
    · rw [hattempts]
      exact .refl _
  | noted _ _ _ replaceAt _ hrow hreplace =>
    refine .kept (.edit hrow ⟨rfl, id, fun _ => rfl, ?_, fun _ => Iff.rfl⟩) (.refl _)
    intro hsome
    rw [← Option.isSome_iff_ne_none] at hsome ⊢
    rw [← hreplace]
    exact hsome
  | assigned hrow hqueued _ _ _ =>
    exact .kept (.edit hrow (.edit rfl (by rw [hqueued]; rfl) rfl
      (fun hsome => hsome) rfl)) (.refl _)
  | signing hrow hstatus _ _ _ =>
    refine .kept (.edit hrow (.edit rfl ?_ rfl (fun hsome => hsome) rfl)) (.refl _)
    rcases hstatus with hstatus | hstatus <;> rw [hstatus] <;> rfl
  | replacing hrow _ _ _ _ | canceling hrow _ _ _ _ =>
    exact .kept (.edit hrow ⟨rfl, id, fun _ => rfl, id, fun _ => Iff.rfl⟩) (.refl _)
  | signed hrow _ hstatus _ => exact .signed hrow hstatus
  | replaced _ hrow _ _ hactive hclaimable _ _ =>
    exact .replaced hrow hactive (replacementClaimable_open hclaimable).1
  | canceled hkind hrow _ hcancel _ hactive hallowed _ =>
    exact .canceled hkind hrow hcancel hactive (cancelAllowed_open hallowed).1
  | parked => exact .kept rowsKept_parkExhaustedLanes (.refl _)
  | broadcast hpick =>
    have hattempt := (activeAttempt_eq_some.mp (broadcastPick_spec hpick).2.1).1
    exact .kept rowsKept_parkExhaustedLanes (.set hattempt rfl)
  | outdated hattempt _ _ => exact .kept (.refl _) (.set (mem_of_find hattempt) rfl)
  | reported hattempt _ _ hrow _ hlive =>
    exact .kept (.edit hrow (.edit rfl hlive rfl (fun hsome => hsome) rfl))
      (.set (mem_of_find hattempt) rfl)
  | charged hrow _ hlive =>
    exact .kept (.edit hrow (.edit rfl hlive rfl chargedRow_replace rfl)) (.refl _)
  | replacementRequested hid hrow hallowed => exact .replacementRequested hid hrow hallowed
  | cancelRequested hid hrow hnonce hallowed hreceipt =>
    exact .cancelRequested hid hrow hnonce hallowed hreceipt
  | reconciled =>
    refine .kept ?_ ?_
    · intro row hrow
      obtain ⟨old, hold, hrel⟩ := (decided_applyDecisions _ _ _ (_, 0)).back hrow
      refine .inl ⟨old, hold, ?_⟩
      cases hrel with
      | kept => exact .refl _
      | released _ hheld _ _ | external _ hheld _ =>
        exact .edit rfl (by rw [hheld]; rfl) rfl (fun hsome => hsome) rfl
    · rw [(decided_applyDecisions _ _ _ (_, 0)).attempts]
      exact .refl _

theorem requestTxReplacement_ok (hid : row.id ≠ 0) (hrow : db.tx.outbox.find row.id = some row)
    (hallowed : ReplacementAllowed row) : (requestTxReplacement db now row.id).2 = .ok () := by
  rw [requestTxReplacement, if_neg hid, hrow]
  exact congrArg Prod.snd (if_pos hallowed)

theorem requestTxCancel_ok (hid : row.id ≠ 0) (hrow : db.tx.outbox.find row.id = some row)
    (hnonce : row.nonce ≠ none) (hallowed : row.status.cancelAllowed = true)
    (hreceipt : row.receipt = none) : (requestTxCancel db now row.id).2 = .ok () := by
  rw [requestTxCancel, if_neg hid, hrow]
  exact congrArg Prod.snd (if_pos ⟨hnonce, hallowed, hreceipt⟩)

theorem accountStep_retry {result : Result ℕ} (hsound : Sound db.tx)
    (hresult : RetryResult db op result) : AccountStep db.tx op result.1.tx := by
  have hfailed : ∀ row new : OutboxRow, db.tx.outbox.find row.id = some row →
      new.id = row.id → new.status = .failed → new.replaceRequestedAt = row.replaceRequestedAt →
      ∃ before ∈ db.tx.outbox, RowKept before new := by
    intro row new hfound hid hstatus hreplace
    exact ⟨row, mem_of_find hfound, .ended hid (by rw [hstatus]; rfl) (.inl hreplace)⟩
  cases hresult with
  | refused => exact .kept (.refl _) (.refl _)
  | deferred row now _ _ hfound hstatus _ =>
    exact .kept ((RowsKept.refl _).set (.inl (hfailed row _ hfound rfl hstatus rfl))) (.refl _)
  | requeued row now hcall hfound hstatus hreceipt _ _ =>
    have hbare : row.nonce = none := nonce_of_requeue
      (hsound.rows row (mem_of_find hfound)) hstatus hreceipt hcall.kind
    exact .kept ((RowsKept.refl _).set (.inr hbare)) (.refl _)
  | settled row now _ hrow _ =>
    exact .kept ((RowsKept.refl _).set
      (.inl (hfailed row _ hrow.found rfl hrow.failed rfl))) (.refl _)
  | cloned row now _ hrow _ _ _ =>
    exact .kept (((RowsKept.refl _).append rfl rfl).set
      (.inl (hfailed row _ hrow.found rfl hrow.failed rfl))) (.refl _)

theorem accountStep_txOp (hsound : Sound db.tx) (op : TxOp) :
    AccountStep db.tx op (op.apply db).tx := by
  have heffect := txOp_effect db op
  generalize hpost : op.apply db = post at heffect
  cases heffect with
  | unchanged => exact .kept (.refl _) (.refl _)
  | quiet hop _ =>
    rw [← hpost]
    exact accountStep_effect (quiet_effect db op hop)
  | enqueuedTx | enqueuedPricing | enqueuedExecutor | enqueuedDVN =>
    exact .kept ((RowsKept.refl _).append rfl rfl) (.refl _)
  | reverted _ hrow _ _ | abandoned hrow _ _ =>
    exact .kept (.edit hrow (.ended rfl rfl (.inl rfl))) (.refl _)
  | operatorRetry hresult | automaticRetry hresult => exact accountStep_retry hsound hresult
  | pinned hreceipt _ hopen =>
    have hrow := find_self hreceipt.owner
    exact .kept (.edit hrow (.edit rfl hopen rfl (fun hsome => hsome) rfl)) (.refl _)
  | finalized hreceipt _ _ =>
    have hrow := find_self hreceipt.owner
    exact .kept (.edit hrow (.ended rfl (finalStatus_terminal _)
      (.inr rfl))) (.set (mem_of_find hreceipt.found) rfl)
  | @resolved now row hrow _ _ _ =>
    have hended : RowKept row (row.consumeExternally now) := .ended rfl rfl (.inl rfl)
    exact .kept ((RowsKept.edit hrow hended).append rfl rfl) (.refl _)

end Lazier.Signer
