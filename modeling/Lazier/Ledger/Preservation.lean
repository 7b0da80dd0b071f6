import Lazier.Ledger.Invariant

/-!
# Every change keeps the ledger sound

One lemma for each kind of change, assembled into the step theorem and, by
induction, into the theorem about whole runs.
-/

namespace Lazier.Ledger

open Library Store SerialTable Option

variable {now : Time} {tx : TxTables} {row : OutboxRow} {attempt : AttemptRow} {attempts : Attempts}
  {use : LeaseUse} {cursors : Table Lane NonceCursor NonceCursor.lane}

/-! ## New rows and cursors -/

theorem sound_enqueue (hsound : Sound tx) (hid : row.id = tx.outbox.next) (hfresh : Pristine row) :
    Sound (tx.addRow row hid) where
  rows := by
    intro other hother
    rcases mem_addRow hid hother with hother | rfl
    · exact hsound.rows other hother
    · have hstatus := hfresh.status
      have hactive := hfresh.active
      have hreceipt := hfresh.receipt
      exact
        { queued := fun _ => hfresh.nonce
          bare := fun _ => ⟨.inl hstatus, hactive, hfresh.lease, hreceipt, hfresh.cancel⟩
          assigned := fun _ => ⟨hactive, hreceipt⟩
          signed := by simp [hstatus]
          sent := by simp [hstatus]
          active := by simp [hactive]
          pinned := by simp [hreceipt]
          ended := by simp [hstatus, TxStatus.terminal] }
  attempts := by
    intro attempt hattempt
    have hold := hsound.attempts attempt hattempt
    obtain ⟨owner, howner, hownerID, hnonce, hactive⟩ := hold.owner
    refine ⟨⟨owner, mem_append_of_mem hid howner, hownerID, hnonce,
      hactive⟩, hold.leased, hold.sent, ?_⟩
    intro hmined other hother hotherID
    rcases mem_addRow hid hother with hother | rfl
    · exact hold.mined hmined other hother hotherID
    · -- The new id is above the id of the attempt's owner.
      have hlt := key_lt_next howner
      omega
  bound := by
    intro other hother nonce hnonce
    rcases mem_addRow hid hother with hother | rfl
    · exact hsound.bound other hother nonce hnonce
    · rw [hfresh.nonce] at hnonce
      cases hnonce
  unique := by
    intro left hleft right hright hlane hnonce hsame
    rcases mem_addRow hid hleft with hleft | rfl
    · rcases mem_addRow hid hright with hright | rfl
      · exact hsound.unique left hleft right hright hlane hnonce hsame
      · exact absurd (hsame.trans hfresh.nonce) hnonce
    · exact absurd hfresh.nonce hnonce
  frontier := by
    intro other hother nonce hnonce hlive hunclaimed lowerRow hlowerRow hlane lower hlower
    rcases mem_addRow hid hother with hother | rfl
    · rcases mem_addRow hid hlowerRow with hlowerRow | rfl
      · exact hsound.frontier other hother nonce hnonce hlive hunclaimed
          lowerRow hlowerRow hlane lower hlower
      · rw [hfresh.nonce] at hlower
        cases hlower
    · rw [hfresh.nonce] at hnonce
      cases hnonce

theorem cursors_forth {old new : NonceCursor} (hold : old ∈ cursors) (hlane : new.lane = old.lane)
    (hnext : old.nextNonce ≤ new.nextNonce) : ∀ cursor ∈ cursors, ∃ after ∈ cursors.set new,
      after.lane = cursor.lane ∧ cursor.nextNonce ≤ after.nextNonce :=
  Table.forth_set (fun _ => ⟨rfl, le_rfl⟩) hold hlane ⟨hlane, hnext⟩

/-- The rows stay and every cursor that a nonce needs is still there. -/
theorem sound_cursors (hsound : Sound tx) (hkeep : ∀ cursor ∈ tx.cursors, ∃ after ∈ cursors,
      after.lane = cursor.lane ∧ cursor.nextNonce ≤ after.nextNonce) :
    Sound { tx with cursors } where
  rows := hsound.rows
  attempts := hsound.attempts
  bound := by
    intro row hrow nonce hnonce
    obtain ⟨cursor, hcursor, hlane, hlt⟩ := hsound.bound row hrow nonce hnonce
    obtain ⟨after, hafter, hsame, hle⟩ := hkeep cursor hcursor
    exact ⟨after, hafter, hsame.trans hlane, lt_of_lt_of_le hlt hle⟩
  unique := hsound.unique
  frontier := hsound.frontier

theorem sound_setCursor (hsound : Sound tx) {old new : NonceCursor}
    (hold : old ∈ tx.cursors) (hlane : new.lane = old.lane)
    (hnext : old.nextNonce ≤ new.nextNonce) : Sound (tx.setCursor new) := by
  refine sound_cursors hsound ?_
  exact cursors_forth hold hlane hnext

/-! ## Assigning a nonce -/

/-- A live row that holds a nonce, does not block its lane and was never
claimed does not exist. -/
theorem claimed_of_not_blocksLane (hsound : Sound tx) (hrow : row ∈ tx.outbox)
    (hnonce : row.nonce ≠ none) (hlive : row.status.terminal = false)
    (hclear : row.status.blocksLane = false) : Claimed tx.attempts row := by
  have hsoundRow := hsound.rows row hrow
  cases hstatus : row.status with
  | queued => exact absurd (hsoundRow.queued hstatus) hnonce
  | broadcast => exact hsoundRow.sent (.inl hstatus)
  | nonceAssigned | signed | held reason => simp [hstatus, TxStatus.blocksLane] at hclear
  | confirmed | failed => simp [hstatus, TxStatus.terminal] at hlive

theorem nonce_of_attempt (hsound : Sound tx) (hrow : row ∈ tx.outbox)
    (hattempt : attempt ∈ tx.attempts) (howner : attempt.outboxID = row.id) :
    row.nonce = some attempt.nonce ∧ row.activeAttemptID ≠ none := by
  obtain ⟨owner, hmem, hid, hnonce, hactive⟩ := (hsound.attempts attempt hattempt).owner
  have heq : owner = row := eq_of_key_eq hmem hrow (hid.trans howner)
  exact heq ▸ ⟨hnonce, hactive⟩

theorem sound_assign (hsound : Sound tx) {new : OutboxRow} {cursor : NonceCursor}
    (hrow : row ∈ tx.outbox) (hcursor : cursor ∈ tx.cursors) (hlane : cursor.lane = row.lane)
    (hbare : row.nonce = none)
    (hclear : ∀ other ∈ tx.outbox, other.lane = row.lane → other.status.blocksLane = false)
    (hid : new.id = row.id) (hnewLane : new.lane = row.lane)
    (hnonce : new.nonce = some cursor.nextNonce) (hstatus : new.status = .nonceAssigned)
    (hactive : new.activeAttemptID = none) (hreceipt : new.receipt = none) :
    Sound ((tx.setRow new).setCursor { cursor with nextNonce := cursor.nextNonce + 1 }) := by
  have hbelow : ∀ other ∈ tx.outbox, other.lane = row.lane →
      ∀ nonce, other.nonce = some nonce → nonce < cursor.nextNonce := by
    intro other hother hsame nonce hother'
    obtain ⟨found, hfound, hfoundLane, hlt⟩ := hsound.bound other hother nonce hother'
    have heq : found = cursor := Table.eq_of_key_eq hfound hcursor
        (hfoundLane.trans (hsame.trans hlane.symm))
    exact heq ▸ hlt
  have hrows : ∀ other ∈ (tx.setRow new).outbox,
      other = new ∨ (other ∈ tx.outbox ∧ other.id ≠ row.id) := by
    intro other hother
    rcases mem_setRow hother with heq | ⟨hother, hne⟩
    · exact .inl heq
    · exact .inr ⟨hother, hid ▸ hne⟩
  have hcursors : ∀ old ∈ tx.cursors, ∃ after ∈ ((tx.setRow new).setCursor
      { cursor with nextNonce := cursor.nextNonce + 1 }).cursors,
      after.lane = old.lane ∧ old.nextNonce ≤ after.nextNonce :=
    cursors_forth hcursor rfl (Nat.le_succ _)
  constructor
  case rows =>
    intro other hother
    rcases hrows other hother with rfl | ⟨hother, -⟩
    · exact
        { queued := by simp [hstatus]
          bare := by simp [hnonce]
          assigned := fun _ => ⟨hactive, hreceipt⟩
          signed := by simp [hstatus]
          sent := by simp [hstatus]
          active := by simp [hactive]
          pinned := by simp [hreceipt]
          ended := by simp [hstatus, TxStatus.terminal] }
    · exact hsound.rows other hother
  case attempts =>
    intro attempt hattempt
    have hold := hsound.attempts attempt hattempt
    -- The assigned row held no nonce, so the attempt belongs to another row.
    have hforeign : attempt.outboxID ≠ row.id := by
      intro howner
      have hheld := (nonce_of_attempt hsound hrow hattempt howner).1
      rw [hbare] at hheld
      cases hheld
    obtain ⟨owner, howner, hownerID, hheld, hpointer⟩ := hold.owner
    refine ⟨⟨owner, mem_set_of_ne howner ?_, hownerID, hheld, hpointer⟩, hold.leased, hold.sent, ?_⟩
    · rw [hid, hownerID]
      exact hforeign
    · intro hmined other hother hotherID
      rcases hrows other hother with rfl | ⟨hother, -⟩
      · exact absurd (hotherID.symm.trans hid) hforeign
      · exact hold.mined hmined other hother hotherID
  case bound =>
    intro other hother nonce hother'
    rcases hrows other hother with rfl | ⟨hother, -⟩
    · have heq : cursor.nextNonce = nonce := by
        rw [hnonce] at hother'
        exact some.inj hother'
      exact ⟨_, Table.mem_set_self hcursor rfl, hlane.trans hnewLane.symm, heq ▸ Nat.lt_succ_self _⟩
    · obtain ⟨found, hfound, hfoundLane, hlt⟩ := hsound.bound other hother nonce hother'
      obtain ⟨after, hafter, hsame, hle⟩ := hcursors found hfound
      exact ⟨after, hafter, hsame.trans hfoundLane, lt_of_lt_of_le hlt hle⟩
  case unique =>
    intro left hleft right hright hsame hheld hequal
    rcases hrows left hleft with heqLeft | ⟨holdLeft, -⟩
    · subst heqLeft
      rcases hrows right hright with heqRight | ⟨holdRight, -⟩
      · exact heqRight.symm
      · have hlt := hbelow right holdRight (hsame.symm.trans hnewLane) _ (hequal.symm.trans hnonce)
        exact absurd hlt (lt_irrefl _)
    · rcases hrows right hright with heqRight | ⟨holdRight, -⟩
      · subst heqRight
        have hlt := hbelow left holdLeft (hsame.trans hnewLane) _ (hequal.trans hnonce)
        exact absurd hlt (lt_irrefl _)
      · exact hsound.unique left holdLeft right holdRight hsame hheld hequal
  case frontier =>
    intro other hother nonce hother' hlive hunclaimed lowerRow hlowerRow hsame lower hlower
    rcases hrows other hother with rfl | ⟨hother, -⟩
    · have heq : cursor.nextNonce = nonce := by
        rw [hnonce] at hother'
        exact some.inj hother'
      rcases hrows lowerRow hlowerRow with rfl | ⟨hlowerRow, -⟩
      · rw [hnonce] at hlower
        exact (heq ▸ some.inj hlower).ge
      · have hlt := hbelow lowerRow hlowerRow (hsame.trans hnewLane) lower hlower
        exact heq ▸ hlt.le
    · by_cases hother'' : other.lane = row.lane
      · -- The lane was clear, so every live nonce of it had been claimed.
        have hclaimed := claimed_of_not_blocksLane hsound hother
          (by rw [hother']; exact some_ne_none _) hlive (hclear other hother hother'')
        exact absurd hclaimed hunclaimed
      · rcases hrows lowerRow hlowerRow with rfl | ⟨hlowerRow, -⟩
        · exact absurd (hsame.symm.trans hnewLane) hother''
        · exact hsound.frontier other hother nonce hother' hlive hunclaimed
            lowerRow hlowerRow hsame lower hlower

/-! ## Updates of one row -/

theorem Owns.congr {old new : OutboxRow} (hid : new.id = old.id) {id : ℕ}
    (howns : Owns attempts old id) : Owns attempts new id := by
  rwa [Owns, hid]

theorem Claimed.congr {old new : OutboxRow} (hid : new.id = old.id)
    (hclaimed : Claimed attempts old) : Claimed attempts new := by
  rwa [Claimed, hid]

theorem Consumed.congr {old new : OutboxRow} (hid : new.id = old.id)
    (hreceipt : new.receipt = old.receipt)
    (hkind : new.failureKind = old.failureKind ∨ old.failureKind ≠ some .nonceConsumedExternally)
    (hconsumed : Consumed attempts old) : Consumed attempts new := by
  rcases hconsumed with hmined | hexternal
  · left
    rwa [hreceipt, hid]
  · right
    rcases hkind with hkind | hkind
    · rw [hkind, hexternal]
    · exact absurd hexternal hkind

/-- A row that was requeued in place holds no nonce: a failed row with a nonce
spent it. -/
theorem nonce_of_requeue (hsound : RowSound attempts row) (hfailed : row.status = .failed)
    (hunpinned : row.receipt = none) (hkind : row.failureKind ≠ some .nonceConsumedExternally) :
    row.nonce = none := by
  by_contra hnonce
  have hended : row.status.terminal = true := by rw [hfailed]; rfl
  rcases hsound.ended hended hnonce with ⟨resolution, hpinned, -⟩ | hexternal
  · rw [hunpinned] at hpinned
    cases hpinned
  · exact hkind hexternal

theorem RowSound.restatus {old new : OutboxRow} (hsound : RowSound attempts old)
    (hid : new.id = old.id) (hnonce : new.nonce = old.nonce)
    (hactive : new.activeAttemptID = old.activeAttemptID) (hreceipt : new.receipt = old.receipt)
    (hcancel : new.cancelRequestedAt = old.cancelRequestedAt)
    (hlease : new.lease = old.lease ∨ new.lease = none)
    (hqueued : new.status = .queued → old.nonce = none)
    (hbare : old.nonce = none → new.status = .queued ∨ new.status = .failed)
    (hassigned : new.status = .nonceAssigned → old.status = .nonceAssigned)
    (hsigned : new.status = .signed → old.activeAttemptID ≠ none) (hsent : new.status = .broadcast ∨
      new.status = .held .nonceReconcileRequired → Claimed attempts old)
    (hended : new.status.terminal = true → old.nonce ≠ none → Consumed attempts new) :
    RowSound attempts new where
  queued hstatus := hnonce.trans (hqueued hstatus)
  bare hnone := by
    rw [hnonce] at hnone
    obtain ⟨-, hpointer, hfree, hunpinned, huncanceled⟩ := hsound.bare hnone
    refine ⟨hbare hnone, hactive.trans hpointer, ?_, hreceipt.trans hunpinned,
      hcancel.trans huncanceled⟩
    rcases hlease with hlease | hlease
    · exact hlease.trans hfree
    · exact hlease
  assigned hstatus := by
    rw [hactive, hreceipt]
    exact hsound.assigned (hassigned hstatus)
  signed hstatus := by
    rw [hactive]
    exact hsigned hstatus
  sent hstatus := (hsent hstatus).congr hid
  active id hpointer := (hsound.active id (hactive ▸ hpointer)).congr hid
  pinned resolution hpinned := (hsound.pinned resolution (hreceipt ▸ hpinned)).congr hid
  ended hterminal hheld := hended hterminal (hnonce ▸ hheld)

theorem mapSendClassToOutbox_cases (sendClass : SendClass) :
    mapSendClassToOutbox sendClass = .broadcast ∨ mapSendClassToOutbox sendClass = .signed ∨
      ∃ reason, mapSendClassToOutbox sendClass = .held reason := by
  cases sendClass <;> simp [mapSendClassToOutbox]

theorem RowSound.edit (hsound : Sound tx) {old new : OutboxRow}
    (hold : old ∈ tx.outbox) (hedit : RowEdit tx old new) : RowSound tx.attempts new := by
  have hrow := hsound.rows old hold
  have hlift := hrow.restatus hedit.task.id hedit.task.nonce hedit.active
    hedit.receipt hedit.cancel hedit.lease
  cases hedit.status with
  | keep hstatus hkind =>
    rw [hstatus] at hlift
    exact hlift hrow.queued (fun hnone => (hrow.bare hnone).1)
      (fun hsame => hsame) hrow.signed hrow.sent fun hended hheld =>
        (hrow.ended hended hheld).congr hedit.task.id hedit.receipt hkind
  | revert hqueued hbare hstatus =>
    rw [hstatus] at hlift
    exact hlift (by simp) (by simp) (by simp) (by simp) (by simp) fun _ hheld => absurd hbare hheld
  | requeue hfailed hunpinned hkind hstatus =>
    rw [hstatus] at hlift
    have hbare := nonce_of_requeue hrow hfailed hunpinned hkind
    exact hlift (fun _ => hbare) (by simp) (by simp) (by simp) (by simp)
      fun _ hheld => absurd hbare hheld
  | park reason hlive hbusy hstatus hunsent =>
    rw [hstatus] at hlift
    have hheld : old.nonce ≠ none := by
      intro hnone
      obtain ⟨-, hpointer, hfree, -⟩ := hrow.bare hnone
      exact hbusy.elim (· hfree) (· hpointer)
    exact hlift (by simp) (absurd · hheld) (by simp) (by simp)
      (by simp [hunsent]) (by simp [TxStatus.terminal])
  | report attempt sendClass hmem howner hactive hleased hlive hstatus =>
    have hclaimed : Claimed tx.attempts old :=
      ⟨attempt, hmem, howner, (hsound.attempts attempt hmem).leased hleased⟩
    obtain ⟨hnonce, hpointer⟩ := nonce_of_attempt hsound hold hmem howner
    have hheld : old.nonce ≠ none := by
      rw [hnonce]
      exact some_ne_none _
    rw [hstatus] at hlift
    rcases mapSendClassToOutbox_cases sendClass with
      hmap | hmap | ⟨reason, hmap⟩
    all_goals
      rw [hmap] at hlift
      exact hlift (by simp) (absurd · hheld) (by simp) (fun _ => hpointer)
        (fun _ => hclaimed) (by simp [TxStatus.terminal])
  | reconcile hheld hstatus =>
    have hclaimed := hrow.sent (.inr hheld)
    have hnonce : old.nonce ≠ none := by
      intro hnone
      have hbare := (hrow.bare hnone).1
      simp [hheld] at hbare
    rcases hstatus with hstatus | hstatus | hstatus
    all_goals
      rw [hstatus] at hlift
      exact hlift (by simp) (absurd · hnonce) (by simp) (by simp)
        (fun _ => hclaimed) (by simp [TxStatus.terminal])

theorem RowStep.edit (hsound : Sound tx) {old new : OutboxRow}
    (hold : old ∈ tx.outbox) (hedit : RowEdit tx old new) : RowStep old new where
  id := hedit.task.id
  lane := hedit.task.lane
  nonce := hedit.task.nonce
  active := by
    rw [hedit.active]
    exact fun hactive => hactive
  ended := by
    intro hended hheld
    have hlive : old.status.terminal ≠ false := by simp [hended]
    cases hedit.status with
    | keep hstatus hkind => rwa [hstatus]
    | revert hqueued hbare hstatus => exact absurd hbare hheld
    | requeue hfailed hunpinned hkind hstatus =>
      have hbare := nonce_of_requeue (hsound.rows old hold) hfailed hunpinned hkind
      exact absurd hbare hheld
    | park reason hopen | report attempt sendClass hmem howner hactive hleased hopen =>
      exact absurd hopen hlive
    | reconcile hheld hstatus => exact absurd (by rw [hheld]; rfl) hlive

theorem sound_edit (hsound : Sound tx) {update : OutboxRow → OutboxRow}
    (hkey : ∀ row, (update row).id = row.id)
    (hedit : ∀ row ∈ tx.outbox, RowEdit tx row (update row)) :
    Sound { tx with outbox := tx.outbox.mapRows update hkey } := by
  have hrows : RowsStep tx.outbox (tx.outbox.mapRows update hkey) :=
    .mapRows fun row hrow => .edit hsound hrow (hedit row hrow)
  refine hsound.update rfl hrows (.refl _) ?_ ?_
  · intro row hrow
    obtain ⟨before, hbefore, rfl⟩ := mem_mapRows.mp hrow
    exact .edit hsound hbefore (hedit before hbefore)
  · intro attempt hattempt
    exact (hsound.attempts attempt hattempt).rows hrows

theorem LeaseGuard.nonce (hguard : LeaseGuard use row) (hsound : RowSound attempts row) :
    row.nonce ≠ none := by
  intro hnone
  cases use with
  | signing => exact hguard.2.2.1 hnone
  | replacement => exact hguard.2 (hsound.bare hnone).2.1
  | cancel => exact hguard.2.1 hnone

theorem sound_lease (hsound : Sound tx) (hrow : row ∈ tx.outbox) (hguard : LeaseGuard use row)
    (lease : Lease) (now : Time) :
    Sound (tx.setRow { row with lease := some lease, updatedAt := now }) := by
  have hsoundRow := hsound.rows row hrow
  have hheld := hguard.nonce hsoundRow
  refine hsound.setRow hrow ⟨rfl, rfl, rfl, fun h => h, fun h _ => h⟩ ?_
  exact
    { queued := hsoundRow.queued
      bare := fun hnone => absurd hnone hheld
      assigned := hsoundRow.assigned
      signed := hsoundRow.signed
      sent := hsoundRow.sent
      active := hsoundRow.active
      pinned := hsoundRow.pinned
      ended := hsoundRow.ended }

theorem sound_cancel (hsound : Sound tx) {old new : OutboxRow}
    (hold : old ∈ tx.outbox) (hguard : CancelGuard old new) : Sound (tx.setRow new) := by
  have hrow := hsound.rows old hold
  have hid := hguard.task.id
  have hheld : new.nonce ≠ none := by
    rw [hguard.task.nonce]
    exact hguard.nonce
  refine hsound.setRow hold ⟨hid, hguard.task.lane, hguard.task.nonce,
    by rw [hguard.active]; exact fun h => h, by rw [hguard.status]; exact fun h _ => h⟩ ?_
  exact
    { queued := by
        rw [hguard.status, hguard.task.nonce]
        exact hrow.queued
      bare := fun hnone => absurd hnone hheld
      assigned := by
        rw [hguard.status, hguard.active, hguard.receipt]
        exact hrow.assigned
      signed := by
        rw [hguard.status, hguard.active]
        exact hrow.signed
      sent := by
        rw [hguard.status]
        exact fun hstatus => (hrow.sent hstatus).congr hid
      active := by
        rw [hguard.active]
        exact fun id hactive => (hrow.active id hactive).congr hid
      pinned := by
        rw [hguard.receipt]
        exact fun resolution hpinned =>
          (hrow.pinned resolution hpinned).congr hid
      ended := by
        rw [hguard.status, hguard.task.nonce]
        exact fun hended hnonce =>
          (hrow.ended hended hnonce).congr hid hguard.receipt (.inl hguard.kind) }

/-! ## Receipts -/

/-- A pinned row keeps its status, and an attempt of it keeps it out of
`nonceAssigned`. -/
theorem sound_pin (hsound : Sound tx) {outcome : ReceiptOutcome} (hrow : row ∈ tx.outbox)
    (hattempt : attempt ∈ tx.attempts) (howner : attempt.outboxID = row.id)
    (hlive : row.status.terminal = false) : Sound (tx.setRow
      { row with receipt := some ⟨outcome, attempt.id⟩, updatedAt := now }) := by
  have hsoundRow := hsound.rows row hrow
  obtain ⟨hnonce, hpointer⟩ := nonce_of_attempt hsound hrow hattempt howner
  refine hsound.setRow hrow ⟨rfl, rfl, rfl, fun h => h, fun h _ => h⟩ ?_
  exact
    { queued := hsoundRow.queued
      bare := by simp [hnonce]
      assigned := fun hstatus =>
        absurd (hsoundRow.assigned hstatus).1 hpointer
      signed := hsoundRow.signed
      sent := hsoundRow.sent
      active := hsoundRow.active
      pinned := by
        rintro resolution ⟨⟩
        exact ⟨attempt, hattempt, rfl, howner⟩
      ended := by simp [hlive] }

theorem finalStatus_terminal (outcome : ReceiptOutcome) :
    (finalStatus outcome).terminal = true := by
  cases outcome <;> rfl

theorem sound_finalize (hsound : Sound tx) {outcome : ReceiptOutcome} {clock : Time}
    {facts : TxReceiptFacts} (hrow : row ∈ tx.outbox) (hattempt : attempt ∈ tx.attempts)
    (howner : attempt.outboxID = row.id) (hpinned : row.receipt = some ⟨outcome, attempt.id⟩) :
    Sound ((tx.setAttempt { attempt with state := .mined }).setRow
      (row.finalize now clock attempt outcome facts)) := by
  have hterminal := finalStatus_terminal outcome
  obtain ⟨hnonce, hpointer⟩ := nonce_of_attempt hsound hrow hattempt howner
  have hrows : RowsStep tx.outbox (tx.outbox.set (row.finalize now clock attempt outcome facts)) :=
    .set hrow ⟨rfl, rfl, rfl, fun _ => some_ne_none _, fun _ _ => hterminal⟩
  have hattempts : AttemptsStep tx.attempts (tx.attempts.set { attempt with state := .mined }) :=
    .set hattempt ⟨rfl, rfl, le_rfl, fun _ => rfl⟩
  have hmined : { attempt with state := .mined } ∈
      tx.attempts.set { attempt with state := .mined } := mem_set_self hattempt rfl
  refine hsound.update rfl hrows hattempts ?_ ?_
  · intro other hother
    rcases mem_setRow hother with rfl | ⟨hother, -⟩
    · have hfinal : finalStatus outcome = .confirmed ∨ finalStatus outcome = .failed := by
        cases outcome <;> simp [finalStatus]
      exact
        { queued := by
            rcases hfinal with h | h <;> simp [OutboxRow.finalize, h]
          bare := by simp [OutboxRow.finalize, hnonce]
          assigned := by
            rcases hfinal with h | h <;> simp [OutboxRow.finalize, h]
          signed := by simp [OutboxRow.finalize]
          sent := by
            rcases hfinal with h | h <;> simp [OutboxRow.finalize, h]
          active := by
            rintro id ⟨⟩
            exact ⟨_, hmined, rfl, howner⟩
          pinned := fun resolution hsame =>
            ((hsound.rows row hrow).pinned resolution hsame).mono hattempts
          ended := fun _ _ =>
            .inl ⟨_, hpinned, _, hmined, rfl, howner, rfl⟩ }
    · exact (hsound.rows other hother).mono hattempts
  · intro other hother
    rcases mem_setAttempt hother with rfl | ⟨hother, -⟩
    · have hold := (hsound.attempts attempt hattempt).rows hrows
      refine ⟨hold.owner, hold.leased, fun _ => .inr (.inr rfl), ?_⟩
      intro _ owner hownerMem hid
      rcases mem_setRow hownerMem with rfl | ⟨-, hne⟩
      · exact hterminal
      · exact absurd (hid.trans howner) hne
    · exact (hsound.attempts other hother).rows hrows

theorem sound_consume (hsound : Sound tx) (hrow : row ∈ tx.outbox)
    (hheld : row.status = .held .nonceConsumedExternally) :
    Sound (tx.setRow (row.consumeExternally now)) := by
  have hsoundRow := hsound.rows row hrow
  refine hsound.setRow hrow ⟨rfl, rfl, rfl, fun h => h, fun _ _ => rfl⟩ ?_
  exact
    { queued := by simp [OutboxRow.consumeExternally]
      bare := by
        intro hnone
        have hstatus := (hsoundRow.bare hnone).1
        simp [hheld] at hstatus
      assigned := by simp [OutboxRow.consumeExternally]
      signed := by simp [OutboxRow.consumeExternally]
      sent := by simp [OutboxRow.consumeExternally]
      active := hsoundRow.active
      pinned := hsoundRow.pinned
      ended := fun _ _ => .inr rfl }

/-! ## Attempts -/

theorem sound_claim (hsound : Sound tx) {token : UUID} {leaseTTL : Duration}
    (hattempt : attempt ∈ tx.attempts) (hguard : ClaimGuard row attempt) :
    Sound (tx.setAttempt (attempt.claimBroadcast now token leaseTTL)) := by
  have hold := hsound.attempts attempt hattempt
  have hstate : (attempt.claimBroadcast now token leaseTTL).state = .ambiguous := by
    rcases hguard.state with hstate | hstate <;>
      simp [AttemptRow.claimBroadcast, hstate]
  refine hsound.setAttempt hattempt ⟨rfl, rfl, Nat.le_succ _, ?_⟩ ?_
  · intro hmined
    rcases hguard.state with hstate | hstate <;> simp [hstate] at hmined
  · exact
      { owner := hold.owner
        leased := fun _ => Nat.succ_pos _
        sent := fun _ => .inl hstate
        mined := by simp [hstate] }

theorem sendResult_state (attempt : AttemptRow) (sendClass : SendClass) (sendErr : String) :
    (attempt.sendResult sendClass sendErr).state = attempt.state ∨
      (attempt.state ≠ .mined ∧ (attempt.sendResult sendClass sendErr).state = .submitted) := by
  by_cases haccepted : sendClass = .accepted ∧ attempt.state ≠ .mined
  · exact .inr ⟨haccepted.2, by simp [AttemptRow.sendResult, haccepted]⟩
  · exact .inl (by rw [AttemptRow.sendResult, if_neg haccepted])

theorem sound_report (hsound : Sound tx) {sendClass : SendClass} {sendErr : String}
    (hattempt : attempt ∈ tx.attempts) :
    Sound (tx.setAttempt (attempt.sendResult sendClass sendErr)) := by
  have hold := hsound.attempts attempt hattempt
  refine hsound.setAttempt hattempt ⟨rfl, rfl, le_rfl, ?_⟩ ?_
  · intro hmined
    rcases sendResult_state attempt sendClass sendErr with hsame | ⟨hne, -⟩
    · exact hsame.trans hmined
    · exact absurd hmined hne
  · exact
      { owner := hold.owner
        leased := fun hleased => absurd rfl hleased
        sent := by
          intro hcount
          rcases sendResult_state attempt sendClass sendErr with
            hsame | ⟨-, hsubmitted⟩
          · rw [hsame]
            exact hold.sent hcount
          · exact .inr (.inl hsubmitted)
        mined := by
          intro hmined
          rcases sendResult_state attempt sendClass sendErr with
            hsame | ⟨-, hsubmitted⟩
          · exact hold.mined (hsame.symm.trans hmined)
          · simp [hsubmitted] at hmined }

theorem sound_insert (hsound : Sound tx) {old new : OutboxRow} {token : UUID}
    (hold : old ∈ tx.outbox) (hid : attempt.id = tx.attempts.next)
    (hguard : InsertGuard old attempt use token new) :
    Sound ((tx.addAttempt attempt hid).setRow new) := by
  have hrow := hsound.rows old hold
  have hnewID := hguard.task.id
  have hnonce : new.nonce = some attempt.nonce := hguard.task.nonce.trans hguard.nonce
  have hpointer : new.activeAttemptID ≠ none := by
    rw [hguard.active]
    exact some_ne_none _
  have hrows : RowsStep tx.outbox (tx.outbox.set new) :=
    .set hold ⟨hnewID, hguard.task.lane, hguard.task.nonce, fun _ => hpointer,
      by simp [hguard.live]⟩
  have hattempts : AttemptsStep tx.attempts (tx.attempts.append attempt hid) := .append hid
  refine hsound.update rfl hrows hattempts ?_ ?_
  · intro row hmem
    rcases mem_setRow hmem with rfl | ⟨hmem, -⟩
    · exact
        { queued := by rcases hguard.status with h | ⟨-, h⟩ <;> simp [h]
          bare := by simp [hnonce]
          assigned := by rcases hguard.status with h | ⟨-, h⟩ <;> simp [h]
          signed := fun _ => hpointer
          sent := by
            rcases hguard.status with hstatus | ⟨hbefore, -⟩
            · simp [hstatus]
            · exact fun _ =>
                ((hrow.sent (.inl hbefore)).congr hnewID).mono hattempts
          active := by
            rw [hguard.active]
            rintro id ⟨⟩
            exact ⟨attempt, mem_append_self hid, rfl, hguard.owner.trans hnewID.symm⟩
          pinned := by
            rw [hguard.receipt]
            exact fun resolution hpinned =>
              ((hrow.pinned resolution hpinned).congr hnewID).mono hattempts
          ended := by
            rcases hguard.status with h | ⟨-, h⟩ <;>
              simp [h, TxStatus.terminal] }
    · exact (hsound.rows row hmem).mono hattempts
  · intro other hother
    rcases mem_addAttempt hid hother with hother | rfl
    · exact (hsound.attempts other hother).rows hrows
    · exact
        { owner := ⟨new, mem_set_self hold hnewID, hnewID.trans hguard.owner.symm, hnonce, hpointer⟩
          leased := by simp [hguard.unleased]
          sent := by simp [hguard.unsent]
          mined := by simp [hguard.state] }

/-! ## Steps and runs -/

theorem sound_change {before after : TxTables} {action : Action}
    (hsound : Sound before) (hchange : Change before action after) :
    Sound after := by
  cases hchange with
  | enqueue hid fresh => exact sound_enqueue hsound hid fresh
  | bootstrap absent above =>
    exact sound_cursors hsound fun old hold =>
      ⟨old, (Table.mem_insertNew absent).mpr (.inl hold), rfl, le_rfl⟩
  | assign lease now hrow hcursor hlane queued bare unpinned uncanceled clear =>
    have hactive := ((hsound.rows _ hrow).bare bare).2.1
    exact sound_assign hsound hrow hcursor hlane bare clear rfl rfl rfl rfl hactive unpinned
  | edit hkey hedit => exact sound_edit hsound hkey hedit
  | lease use lease now hrow guarded => exact sound_lease hsound hrow guarded lease now
  | resume lease now hrow queued held uncanceled =>
    -- A queued row holds no nonce, so there is nothing to resume.
    exact absurd ((hsound.rows _ hrow).queued queued) held
  | cancel hold guarded => exact sound_cancel hsound hold guarded
  | insert hold hid guarded => exact sound_insert hsound hold hid guarded
  | claim hrow hattempt guarded => exact sound_claim hsound hattempt guarded
  | report hattempt leased => exact sound_report hsound hattempt
  | pin hrow hattempt owner unpinned live => exact sound_pin hsound hrow hattempt owner live
  | finalize hrow hattempt owner pinned => exact sound_finalize hsound hrow hattempt owner pinned
  | consume hrow held unpinned => exact sound_consume hsound hrow held
  | forward new hold lane ahead => exact sound_setCursor hsound hold lane ahead.le
  | schedule new hold lane next => exact sound_setCursor hsound hold lane next.ge

/-- Runs of the ledger, from empty tables. -/
abbrev LedgerRun := Run Change TxTables.empty

theorem sound_run {history : List (Event TxTables Action)} {final : TxTables}
    (hrun : LedgerRun history final) : Sound final :=
  hrun.invariant Sound (fun _ _ _ => sound_change) sound_empty

end Lazier.Ledger
