import Lazier.Ledger.Changes

/-!
# The ledger invariant

One invariant of the transaction tables, kept by every change.  It ties the
status of a row to the attempts it owns, the state of an attempt to its row,
and the nonces of a lane to the lane's cursor.
-/

namespace Lazier.Ledger

open Library Store SerialTable

variable {attempt : AttemptRow} {row : OutboxRow} {tx : TxTables}

abbrev Outbox := SerialTable OutboxRow OutboxRow.id
variable {outbox : Outbox}

abbrev Attempts := SerialTable AttemptRow AttemptRow.id

variable {attempts : Attempts}

/-- The attempt with the given id belongs to the row. -/
def Owns (attempts : Attempts) (row : OutboxRow) (id : ℕ) : Prop :=
  ∃ attempt ∈ attempts, attempt.id = id ∧ attempt.outboxID = row.id

/-- Some attempt of the row was claimed for broadcast. -/
def Claimed (attempts : Attempts) (row : OutboxRow) : Prop :=
  ∃ attempt ∈ attempts, attempt.outboxID = row.id ∧ 0 < attempt.broadcastCount

/-- The nonce of the row is spent: a pinned attempt was mined, or the chain
consumed the nonce for someone else. -/
def Consumed (attempts : Attempts) (row : OutboxRow) : Prop :=
  (∃ resolution, row.receipt = some resolution ∧
    ∃ attempt ∈ attempts, attempt.id = resolution.attemptId ∧
      attempt.outboxID = row.id ∧ attempt.state = .mined) ∨
    row.failureKind = some .nonceConsumedExternally

structure RowSound (attempts : Attempts) (row : OutboxRow) : Prop where
  queued : row.status = .queued → row.nonce = none
  bare : row.nonce = none → (row.status = .queued ∨ row.status = .failed) ∧
      row.activeAttemptID = none ∧ row.lease = none ∧ row.receipt = none ∧
      row.cancelRequestedAt = none
  assigned : row.status = .nonceAssigned → row.activeAttemptID = none ∧ row.receipt = none
  signed : row.status = .signed → row.activeAttemptID ≠ none
  sent : row.status = .broadcast ∨ row.status = .held .nonceReconcileRequired → Claimed attempts row
  active : ∀ id, row.activeAttemptID = some id → Owns attempts row id
  pinned : ∀ resolution, row.receipt = some resolution → Owns attempts row resolution.attemptId
  ended : row.status.terminal = true → row.nonce ≠ none → Consumed attempts row

structure AttemptSound (outbox : Outbox) (attempt : AttemptRow) : Prop where
  owner : ∃ row ∈ outbox, row.id = attempt.outboxID ∧
    row.nonce = some attempt.nonce ∧ row.activeAttemptID ≠ none
  leased : attempt.broadcastLease ≠ none → 0 < attempt.broadcastCount
  sent : 0 < attempt.broadcastCount → attempt.state = .ambiguous ∨ attempt.state = .submitted ∨
      attempt.state = .mined
  mined : attempt.state = .mined →
    ∀ row ∈ outbox, row.id = attempt.outboxID → row.status.terminal = true

/-- The invariant of the transaction tables. -/
structure Sound (tx : TxTables) : Prop where
  rows : ∀ row ∈ tx.outbox, RowSound tx.attempts row
  attempts : ∀ attempt ∈ tx.attempts, AttemptSound tx.outbox attempt
  bound : ∀ row ∈ tx.outbox, ∀ nonce, row.nonce = some nonce →
    ∃ cursor ∈ tx.cursors, cursor.lane = row.lane ∧ nonce < cursor.nextNonce
  unique : ∀ left ∈ tx.outbox, ∀ right ∈ tx.outbox,
    left.lane = right.lane → left.nonce ≠ none → left.nonce = right.nonce → left = right
  frontier : ∀ row ∈ tx.outbox, ∀ nonce, row.nonce = some nonce →
    row.status.terminal = false → ¬ Claimed tx.attempts row →
      ∀ other ∈ tx.outbox, other.lane = row.lane → ∀ lower, other.nonce = some lower → lower ≤ nonce

theorem sound_empty : Sound TxTables.empty where
  rows row hrow := absurd hrow (not_mem_empty row)
  attempts _ hattempt := absurd hattempt (not_mem_empty _)
  bound row hrow := absurd hrow (not_mem_empty row)
  unique row hrow := absurd hrow (not_mem_empty row)
  frontier row hrow := absurd hrow (not_mem_empty row)

/-! ## Updates that keep identities and nonces -/

/-- What an update must keep of a row for the rest of the ledger. -/
structure RowStep (old new : OutboxRow) : Prop where
  id : new.id = old.id
  lane : new.lane = old.lane
  nonce : new.nonce = old.nonce
  active : old.activeAttemptID ≠ none → new.activeAttemptID ≠ none
  ended : old.status.terminal = true → old.nonce ≠ none → new.status.terminal = true

theorem RowStep.refl (row : OutboxRow) : RowStep row row :=
  ⟨rfl, rfl, rfl, fun hactive => hactive, fun hended _ => hended⟩

/-- The rows of two tables correspond. -/
structure RowsStep (old new : Outbox) : Prop where
  back : ∀ row ∈ new, ∃ before ∈ old, RowStep before row
  forth : ∀ row ∈ old, ∃ after ∈ new, RowStep row after

theorem RowsStep.refl (outbox : Outbox) : RowsStep outbox outbox :=
  ⟨fun row hrow => ⟨row, hrow, .refl row⟩, fun row hrow => ⟨row, hrow, .refl row⟩⟩

theorem RowsStep.mapRows {update : OutboxRow → OutboxRow} {hkey : ∀ row, (update row).id = row.id}
    (hstep : ∀ row ∈ outbox, RowStep row (update row)) :
    RowsStep outbox (outbox.mapRows update hkey) where
  back row hrow := by
    obtain ⟨before, hbefore, rfl⟩ := mem_mapRows.mp hrow
    exact ⟨before, hbefore, hstep before hbefore⟩
  forth row hrow := ⟨update row, mem_mapRows.mpr ⟨row, hrow, rfl⟩, hstep row hrow⟩

theorem RowsStep.set {old new : OutboxRow} (hold : old ∈ outbox) (hstep : RowStep old new) :
    RowsStep outbox (outbox.set new) := by
  refine .mapRows ?_
  intro row hrow
  by_cases hsame : row.id = new.id
  · have heq : row = old := eq_of_key_eq hrow hold (hsame.trans hstep.id)
    rw [if_pos hsame, heq]
    exact hstep
  · rw [if_neg hsame]
    exact .refl row

/-- Attempts keep their row, are claimed more and more often, and stay mined. -/
structure AttemptStep (old new : AttemptRow) : Prop where
  id : new.id = old.id
  owner : new.outboxID = old.outboxID
  count : old.broadcastCount ≤ new.broadcastCount
  mined : old.state = .mined → new.state = .mined

theorem AttemptStep.refl (attempt : AttemptRow) : AttemptStep attempt attempt :=
  ⟨rfl, rfl, le_rfl, fun hmined => hmined⟩

/-- Every attempt has its continuation in the newer table. -/
def AttemptsStep (old new : Attempts) : Prop :=
  ∀ attempt ∈ old, ∃ after ∈ new, AttemptStep attempt after

theorem AttemptsStep.refl (attempts : Attempts) : AttemptsStep attempts attempts :=
  fun attempt hattempt => ⟨attempt, hattempt, .refl attempt⟩

theorem AttemptsStep.append (hid : attempt.id = attempts.next) :
    AttemptsStep attempts (attempts.append attempt hid) :=
  fun old hold => ⟨old, mem_append_of_mem hid hold, .refl old⟩

theorem AttemptsStep.set {old new : AttemptRow} (hold : old ∈ attempts)
    (hstep : AttemptStep old new) : AttemptsStep attempts (attempts.set new) :=
  forth_set AttemptStep.refl hold hstep.id hstep

theorem Owns.mono {old new : Attempts} (hstep : AttemptsStep old new) {id : ℕ}
    (howns : Owns old row id) : Owns new row id := by
  obtain ⟨attempt, hattempt, hid, howner⟩ := howns
  obtain ⟨after, hafter, hkeep⟩ := hstep attempt hattempt
  exact ⟨after, hafter, hkeep.id.trans hid, hkeep.owner.trans howner⟩

theorem Claimed.mono {old new : Attempts} (hstep : AttemptsStep old new)
    (hclaimed : Claimed old row) : Claimed new row := by
  obtain ⟨attempt, hattempt, howner, hcount⟩ := hclaimed
  obtain ⟨after, hafter, hkeep⟩ := hstep attempt hattempt
  exact ⟨after, hafter, hkeep.owner.trans howner, lt_of_lt_of_le hcount hkeep.count⟩

theorem Consumed.mono {old new : Attempts} (hstep : AttemptsStep old new)
    (hconsumed : Consumed old row) : Consumed new row := by
  rcases hconsumed with ⟨resolution, hpinned, attempt, hattempt, hid, howner, hmined⟩ | hexternal
  · obtain ⟨after, hafter, hkeep⟩ := hstep attempt hattempt
    exact .inl ⟨resolution, hpinned, after, hafter, hkeep.id.trans hid,
      hkeep.owner.trans howner, hkeep.mined hmined⟩
  · exact .inr hexternal

theorem RowSound.mono {old new : Attempts} (hstep : AttemptsStep old new)
    (hrow : RowSound old row) :
    RowSound new row where
  queued := hrow.queued
  bare := hrow.bare
  assigned := hrow.assigned
  signed := hrow.signed
  sent hstatus := (hrow.sent hstatus).mono hstep
  active id hactive := (hrow.active id hactive).mono hstep
  pinned resolution hpinned := (hrow.pinned resolution hpinned).mono hstep
  ended hended hnonce := (hrow.ended hended hnonce).mono hstep

theorem AttemptSound.rows {old new : Outbox} (hstep : RowsStep old new)
    (hattempt : AttemptSound old attempt) : AttemptSound new attempt where
  owner := by
    obtain ⟨row, hrow, hid, hnonce, hactive⟩ := hattempt.owner
    obtain ⟨after, hafter, hkeep⟩ := hstep.forth row hrow
    exact ⟨after, hafter, hkeep.id.trans hid, hkeep.nonce.trans hnonce, hkeep.active hactive⟩
  leased := hattempt.leased
  sent := hattempt.sent
  mined := by
    intro hmined row hrow hid
    obtain ⟨before, hbefore, hkeep⟩ := hstep.back row hrow
    have hbeforeID : before.id = attempt.outboxID := hkeep.id ▸ hid
    obtain ⟨owner, howner, hownerID, hnonce, -⟩ := hattempt.owner
    have heq : before = owner := eq_of_key_eq hbefore howner (hbeforeID.trans hownerID.symm)
    refine hkeep.ended (hattempt.mined hmined before hbefore hbeforeID) ?_
    rw [heq, hnonce]
    exact Option.some_ne_none _

/-- Updates that keep rows, nonces and cursors keep the lane part of the
invariant, so only the touched rows and attempts are left to check. -/
theorem Sound.update {old new : TxTables} (hsound : Sound old)
    (hcursors : new.cursors = old.cursors) (hrows : RowsStep old.outbox new.outbox)
    (hattempts : AttemptsStep old.attempts new.attempts)
    (hrow : ∀ row ∈ new.outbox, RowSound new.attempts row)
    (hattempt : ∀ attempt ∈ new.attempts, AttemptSound new.outbox attempt) : Sound new where
  rows := hrow
  attempts := hattempt
  bound := by
    intro row hmem nonce hnonce
    obtain ⟨before, hbefore, hkeep⟩ := hrows.back row hmem
    obtain ⟨cursor, hcursor, hlane, hlt⟩ := hsound.bound before hbefore nonce (hkeep.nonce ▸ hnonce)
    exact ⟨cursor, hcursors ▸ hcursor, hlane.trans hkeep.lane.symm, hlt⟩
  unique := by
    intro left hleft right hright hlane hnonce hsame
    obtain ⟨left', hleft', hkeep⟩ := hrows.back left hleft
    obtain ⟨right', hright', hkeep'⟩ := hrows.back right hright
    have heq : left' = right' := by
      apply hsound.unique left' hleft' right' hright'
      · rw [← hkeep.lane, ← hkeep'.lane, hlane]
      · rwa [← hkeep.nonce]
      · rw [← hkeep.nonce, ← hkeep'.nonce, hsame]
    apply eq_of_key_eq hleft hright
    rw [hkeep.id, hkeep'.id, heq]
  frontier := by
    intro row hmem nonce hnonce hlive hunclaimed other hother hlane lower hlower
    obtain ⟨before, hbefore, hkeep⟩ := hrows.back row hmem
    obtain ⟨other', hother', hkeep'⟩ := hrows.back other hother
    have hbeforeNonce : before.nonce = some nonce := hkeep.nonce ▸ hnonce
    have hbeforeLive : before.status.terminal = false := by
      by_contra hended
      have hterminal := hkeep.ended (Bool.eq_true_of_not_eq_false hended)
        (by rw [hbeforeNonce]; exact Option.some_ne_none _)
      rw [hlive] at hterminal
      cases hterminal
    have hbeforeUnclaimed : ¬ Claimed old.attempts before := by
      intro hclaimed
      obtain ⟨attempt, hattempt, howner, hcount⟩ := hclaimed.mono hattempts
      exact hunclaimed ⟨attempt, hattempt, howner.trans hkeep.id.symm, hcount⟩
    exact hsound.frontier before hbefore nonce hbeforeNonce hbeforeLive
      hbeforeUnclaimed other' hother'
      (by rw [← hkeep'.lane, hlane, hkeep.lane]) lower (hkeep'.nonce ▸ hlower)

theorem Sound.setRow (hsound : Sound tx) {old new : OutboxRow} (hold : old ∈ tx.outbox)
    (hstep : RowStep old new) (hnew : RowSound tx.attempts new) : Sound (tx.setRow new) := by
  have hrows : RowsStep tx.outbox (tx.setRow new).outbox := .set hold hstep
  refine hsound.update rfl hrows (.refl _) ?_ ?_
  · intro row hrow
    rcases mem_setRow hrow with rfl | ⟨hrow, -⟩
    · exact hnew
    · exact hsound.rows row hrow
  · intro attempt hattempt
    exact (hsound.attempts attempt hattempt).rows hrows

theorem Sound.setAttempt (hsound : Sound tx) {old new : AttemptRow} (hold : old ∈ tx.attempts)
    (hstep : AttemptStep old new) (hnew : AttemptSound tx.outbox new) :
    Sound (tx.setAttempt new) := by
  have hattempts : AttemptsStep tx.attempts (tx.setAttempt new).attempts := .set hold hstep
  refine hsound.update rfl (.refl _) hattempts ?_ ?_
  · intro row hrow
    exact (hsound.rows row hrow).mono hattempts
  · intro attempt hattempt
    rcases mem_setAttempt hattempt with rfl | ⟨hattempt, -⟩
    · exact hnew
    · exact hsound.attempts attempt hattempt

end Lazier.Ledger
