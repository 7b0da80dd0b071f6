import Lazier.Ledger.RetryChains

/-!
# The failure budget of a row

Five failed signatures park a row in a visible hold.  The park is written under
the signing lease of the row, while a broadcast of its active attempt may be in
flight under a lease of its own, and neither the send result nor a
reconciliation looks at the budget.  Where both leave an exhausted row alone,
the row stays parked.
-/

namespace Lazier.Signer

open Library Store Ledger SerialTable

variable {row new : OutboxRow} {tx : TxTables} {now : Time} {op : TxOp} {db : DB}

def isHeld : TxStatus → Bool
  | .held _ => true
  | _ => false

/-- A live, unpinned row whose failure budget is used up. -/
def Exhausted (row : OutboxRow) : Prop := row.status.terminal = false ∧ row.receipt = none ∧
    txMaxPreSignFailures ≤ row.preSignFailureCount

instance (row : OutboxRow) : Decidable (Exhausted row) := inferInstanceAs (Decidable (_ ∧ _ ∧ _))

/-- A call that leaves exhausted rows parked: it reports no send result but a
hold to them, and releases none of them from a reconciliation hold. -/
def SparesParked (tx : TxTables) : TxOp → Prop
  | .markAttemptSendResult _ attemptID _ sendClass _ =>
    ∀ row ∈ tx.outbox.rows, row.activeAttemptID = some attemptID →
      Exhausted row → isHeld (mapSendClassToOutbox sendClass) = true
  | .applyNonceReconciliation _ _ _ _ _ _ _ decisions =>
    ∀ row ∈ tx.outbox.rows, ⟨row.id, .release⟩ ∈ decisions →
      row.status = .held .nonceReconcileRequired → ¬ Exhausted row
  | _ => True

instance (tx : TxTables) (op : TxOp) : Decidable (SparesParked tx op) := by
  unfold SparesParked
  split <;> infer_instance

/-- A row is charged only while it holds a nonce, and is parked at the
budget. -/
structure Parked (row : OutboxRow) : Prop where
  bare : row.nonce = none → row.preSignFailureCount = 0
  held : Exhausted row → isHeld row.status = true

theorem Parked.uncharged (hcount : row.preSignFailureCount = 0) : Parked row := by
  refine ⟨fun _ => hcount, fun hexhausted => ?_⟩
  have hbudget := hexhausted.2.2
  rw [hcount] at hbudget
  exact absurd hbudget (by decide)

section

variable {old : OutboxRow} (hparked : Parked old) (hnonce : new.nonce = none → old.nonce = none)
  (hcount : new.preSignFailureCount = old.preSignFailureCount)

include hparked hnonce hcount

theorem Parked.same (hstatus : new.status = old.status)
    (hreceipt : new.receipt = old.receipt) : Parked new where
  bare hbare := hcount.trans (hparked.bare (hnonce hbare))
  held hexhausted := by
    rw [Exhausted, hstatus, hreceipt, hcount] at hexhausted
    rw [hstatus]
    exact hparked.held hexhausted

theorem Parked.restated (hlive : old.status.terminal = false) (hreceipt : new.receipt = old.receipt)
    (hheld : isHeld old.status = false ∨ isHeld new.status = true) : Parked new where
  bare hbare := hcount.trans (hparked.bare (hnonce hbare))
  held hexhausted := by
    rcases hheld with hopen | hheld
    · have hbefore := hparked.held ⟨hlive, hreceipt ▸ hexhausted.2.1, hcount ▸ hexhausted.2.2⟩
      rw [hopen] at hbefore
      cases hbefore
    · exact hheld

theorem Parked.ended (hended : new.status.terminal = true ∨ new.receipt ≠ none) : Parked new where
  bare hbare := hcount.trans (hparked.bare (hnonce hbare))
  held hexhausted := by
    rcases hended with hterminal | hpinned
    · rw [hexhausted.1] at hterminal
      cases hterminal
    · exact absurd hexhausted.2.1 hpinned

end

/-- Every row of the tables is parked at its budget. -/
def AllParked (tx : TxTables) : Prop := ∀ row ∈ tx.outbox, Parked row

theorem AllParked.setRow (hall : AllParked tx) (hnew : Parked new) : AllParked (tx.setRow new) := by
  intro row hrow
  rcases mem_setRow hrow with rfl | ⟨hold, -⟩
  · exact hnew
  · exact hall row hold

theorem AllParked.addRow {hid : new.id = tx.outbox.next} (hall : AllParked tx) (hnew : Parked new) :
    AllParked (tx.addRow new hid) := by
  intro row hrow
  rcases mem_addRow hid hrow with hold | rfl
  · exact hall row hold
  · exact hnew

/-! ## One call -/

theorem parked_chargedRow (hnonce : row.nonce ≠ none) : Parked (chargedRow now row) where
  bare hbare := absurd hbare hnonce
  held hexhausted := by
    have hbudget : txMaxPreSignFailures ≤ row.preSignFailureCount + 1 := hexhausted.2.2
    simp only [chargedRow, if_pos hbudget]
    rfl

theorem AllParked.parkExhaustedLanes {lane : Lane} (hall : AllParked tx) :
    AllParked (parkExhaustedLanes tx now lane) := by
  intro row hrow
  obtain ⟨old, hold, rfl⟩ := mem_mapRows.mp hrow
  unfold parkExhausted
  split
  · rename_i hexhausted
    simp only [broadcastExhausted, Bool.and_eq_true, decide_eq_true_eq] at hexhausted
    refine (hall old hold).restated id rfl ?_ rfl (.inr rfl)
    rw [hexhausted.1.2]
    rfl
  · exact hall old hold

theorem parked_effect {after : TxTables} (hsound : Sound tx) (hall : AllParked tx)
    (heffect : Effect tx op after) (hspares : SparesParked tx op) : AllParked after := by
  cases heffect with
  | cursors houtbox _ =>
    rw [AllParked, houtbox]
    exact hall
  | noted _ _ _ _ _ hrow _ | replacing hrow _ _ _ _ | canceling hrow _ _ _ _ =>
    exact hall.setRow ((hall _ (mem_of_find hrow)).same id rfl rfl rfl)
  | assigned hrow hqueued _ _ _ =>
    refine hall.setRow ((hall _ (mem_of_find hrow)).restated
      (fun hbare => by cases hbare) rfl ?_ rfl (.inl ?_)) <;>
      rw [hqueued] <;> rfl
  | signing hrow hstatus _ _ _ =>
    refine hall.setRow ((hall _ (mem_of_find hrow)).restated id
      rfl ?_ rfl (.inl ?_)) <;>
      rcases hstatus with hstatus | hstatus <;> rw [hstatus] <;> rfl
  | signed | replaced | canceled | replacementRequested | cancelRequested =>
    exact hall.setRow (.uncharged rfl)
  | parked | broadcast => exact hall.parkExhaustedLanes
  | outdated => exact hall
  | reported _ _ _ hrow hactive hlive =>
    have hmem := mem_of_find hrow
    have hold := hall _ hmem
    refine AllParked.setRow hall ⟨hold.bare, fun hexhausted => ?_⟩
    exact hspares _ hmem hactive ⟨hlive, hexhausted.2.1, hexhausted.2.2⟩
  | charged hrow hleased _ =>
    refine hall.setRow (parked_chargedRow fun hbare => ?_)
    rw [((hsound.rows _ (mem_of_find hrow)).bare hbare).2.2.1] at hleased
    cases hleased
  | reconciled =>
    intro row hrow
    obtain ⟨old, hold, hdecided⟩ := (decided_applyDecisions _ _ _ (_, 0)).back hrow
    have hbefore := hall old hold
    cases hdecided with
    | kept => exact hbefore
    | released hmem hheld _ _ =>
      refine ⟨hbefore.bare, fun hexhausted => ?_⟩
      refine absurd ?_ (hspares old hold hmem hheld)
      exact ⟨by rw [hheld]; rfl, hexhausted.2.1, hexhausted.2.2⟩
    | external hmem hheld _ => exact hbefore.restated id rfl (by rw [hheld]; rfl) rfl (.inr rfl)

theorem parked_retry {result : Result ℕ} (hsound : Sound db.tx) (hall : AllParked db.tx)
    (hresult : RetryResult db op result) : AllParked result.1.tx := by
  have hended : ∀ row new, db.tx.outbox.find row.id = some row → new.nonce = row.nonce →
      new.preSignFailureCount = row.preSignFailureCount → new.status = .failed → Parked new := by
    intro row new hfound hnonce hcount hfailed
    refine (hall row (mem_of_find hfound)).ended
      (fun hbare => hnonce ▸ hbare) hcount (.inl ?_)
    rw [hfailed]
    rfl
  cases hresult with
  | refused => exact hall
  | deferred row now _ _ hfound hfailed _ => exact hall.setRow (hended row _ hfound rfl rfl hfailed)
  | requeued row now hcall hfound hfailed hreceipt _ _ =>
    have hmem := mem_of_find hfound
    have hbare := nonce_of_requeue (hsound.rows _ hmem) hfailed hreceipt hcall.kind
    exact hall.setRow (.uncharged ((hall row hmem).bare hbare))
  | settled row now _ hrow _ => exact hall.setRow (hended row _ hrow.found rfl rfl hrow.failed)
  | cloned row now _ hrow _ _ _ =>
    exact (hall.addRow (.uncharged rfl)).setRow (hended row _ hrow.found rfl rfl hrow.failed)

theorem parked_txOp (hsound : Sound db.tx) (hall : AllParked db.tx)
    (hspares : SparesParked db.tx op) : AllParked (op.apply db).tx := by
  have heffect := txOp_effect db op
  generalize hpost : op.apply db = post at heffect
  cases heffect with
  | unchanged => exact hall
  | quiet hop _ =>
    rw [← hpost]
    exact parked_effect hsound hall (quiet_effect db op hop) hspares
  | enqueuedTx | enqueuedPricing | enqueuedExecutor | enqueuedDVN =>
    exact hall.addRow (.uncharged rfl)
  | reverted _ hrow _ _ | abandoned hrow _ _ =>
    exact hall.setRow ((hall _ (mem_of_find hrow)).ended id rfl (.inl rfl))
  | operatorRetry hresult | automaticRetry hresult => exact parked_retry hsound hall hresult
  | pinned hreceipt _ _ =>
    exact hall.setRow ((hall _ (mem_of_find hreceipt.owner)).ended
      id rfl (.inr (Option.some_ne_none _)))
  | finalized hreceipt hpinned _ =>
    refine AllParked.setRow hall ((hall _
      (mem_of_find hreceipt.owner)).ended id rfl (.inr ?_))
    simp [OutboxRow.finalize, hpinned]
  | @resolved now row hrow _ _ _ =>
    have hended : Parked (row.consumeExternally now) :=
      (hall row (mem_of_find hrow)).ended id rfl (.inl rfl)
    have hclone : Parked (cloneRow db.tx.outbox.next now row) := .uncharged rfl
    exact (hall.setRow hended).addRow hclone

/-! ## Whole runs -/

/-- The calls of an event spare parked rows, or the store refuses them. -/
def EventSpares (event : Event DB Op) : Prop :=
  match event.label with
  | .tx op => event.post.tx.outbox.rows ≠ event.pre.tx.outbox.rows → SparesParked event.pre.tx op
  | .work _ => True

instance (event : Event DB Op) : Decidable (EventSpares event) := by
  unfold EventSpares
  split <;> infer_instance

/-- In every run whose send results and reconciliations spare parked rows, a
live, unpinned row at its failure budget is held. -/
theorem exhausted_rows_held {history : List (Event DB Op)} {db : DB} (hrun : StoreRun history db)
    (hspares : ∀ event ∈ history, EventSpares event) :
    ∀ row ∈ db.tx.outbox, Exhausted row → isHeld row.status = true := by
  have hall : AllParked db.tx ∧ ∃ earlier, StoreRun earlier db := by
    refine hrun.history_invariant EventSpares
      (fun _ db => AllParked db.tx ∧ ∃ earlier, StoreRun earlier db) ?_ ?_ hspares
    · rintro - pre label post ⟨hall, earlier, hearlier⟩ hstep hgood
      refine ⟨?_, _, hearlier.extend hstep⟩
      rw [Step] at hstep
      subst hstep
      cases label with
      | work op =>
        rw [Op.apply, workOp_apply_tx]
        exact hall
      | tx op =>
        by_cases hsame : ((Op.tx op).apply pre).tx.outbox.rows = pre.tx.outbox.rows
        · intro row hrow
          have hmem : row ∈ pre.tx.outbox.rows := hsame ▸ hrow
          exact hall row hmem
        · exact parked_txOp (sound_storeRun hearlier) hall (hgood hsame)
    · exact ⟨fun row hrow => absurd hrow (not_mem_empty row), [], .start⟩
  exact fun row hrow => (hall.1 row hrow).held

/-- A row that leaves its hold at the budget is offered to no replacement
again. -/
theorem replacementCandidate_exhausted (hexhausted : Exhausted row) {lane : Lane}
    {staleAfter : Duration} : replacementCandidate tx now lane staleAfter row = none := by
  unfold replacementCandidate
  split
  · rfl
  · refine if_neg ?_
    rintro ⟨-, -, -, -, hbudget, -⟩
    exact absurd hexhausted.2.2 (not_le.mpr hbudget)

/-- A failed replacement signature: the row is leased and charged. -/
def failedReplacement (now : Time) (token : UUID) : List Op :=
  [.tx (.recordPreSignFailure now 1 token),
    .tx (.claimOutboxForReplacementSigning now 1 1 token minute)]

/-- An ambiguous first send, four failed replacements of it, and then a
rebroadcast whose answer is still out while the fifth one fails. -/
def fifthFailure : List Op := failedReplacement (5 * minute) 15 ++
    .tx (.claimAttemptForBroadcast (5 * minute) ⟨1, "keeper"⟩ 20 minute []) ::
      failedReplacement (4 * minute) 14 ++ failedReplacement (3 * minute) 13 ++
        failedReplacement (2 * minute) 12 ++ failedReplacement minute 11 ++
          .tx (.markAttemptSendResult 1 1 10 .ambiguous "timeout") :: firstBroadcast

theorem fifthFailure_held : (∃ row ∈ (replay fifthFailure).tx.outbox.rows, Exhausted row) ∧
    ∀ row ∈ (replay fifthFailure).tx.outbox, Exhausted row → isHeld row.status = true := by
  have hspares : ∀ event ∈ trace fifthFailure, EventSpares event := by
    decide +kernel
  exact ⟨by decide +kernel, exhausted_rows_held (storeRun_trace fifthFailure) hspares⟩

/-- The answer of the rebroadcast takes the exhausted row out of its hold: it
is in status broadcast, and no replacement is offered for it again. -/
theorem answer_unparks_fifthFailure : ∃ history db, StoreRun history db ∧
      ∃ row ∈ db.tx.outbox, Exhausted row ∧ row.status = .broadcast ∧ ∀ now lane staleAfter,
          replacementCandidate db.tx now lane staleAfter row = none := by
  refine ⟨_, _, storeRun_trace
    (.tx (.markAttemptSendResult (5 * minute + 1) 1 20 .accepted "") :: fifthFailure), ?_⟩
  have hrow : ∃ row ∈ (replay
      (.tx (.markAttemptSendResult (5 * minute + 1) 1 20 .accepted "") ::
        fifthFailure)).tx.outbox.rows, Exhausted row ∧ row.status = .broadcast := by
    decide +kernel
  obtain ⟨row, hmem, hexhausted, hstatus⟩ := hrow
  exact ⟨row, hmem, hexhausted, hstatus, fun _ _ _ => replacementCandidate_exhausted hexhausted⟩

end Lazier.Signer
