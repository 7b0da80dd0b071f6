import Lazier.Ledger.Effects
import Lazier.Ledger.StoreRuns

/-!
# Retry chains

A receipt-failed row is retried by a child row, and so is a row whose nonce
was consumed by someone else.  The column `retry_of_id` makes these rows a
chain: a row gets a child only when it can never succeed any more, and it
never leaves that state.
-/

namespace Lazier.Ledger

open Library Store SerialTable

variable {row parent child after : OutboxRow} {tx : TxTables} {db post pre : DB} {op : TxOp}
  {id : ℕ} {result : Result ℕ} {history : List (Event DB Op)}

abbrev OutboxTable := SerialTable OutboxRow OutboxRow.id

variable {table new : OutboxTable}

/-- A row that has failed for good: its pinned receipt is not a success, or
its nonce went to another transaction. -/
def Dead (row : OutboxRow) : Prop := row.status = .failed ∧
    ((∃ pinned, row.receipt = some pinned ∧ pinned.outcome ≠ .confirmed) ∨
      (row.receipt = none ∧ row.failureKind = some .nonceConsumedExternally))

/-- The status and the failure kind of a row agree with its receipt. -/
structure ReceiptSound (row : OutboxRow) : Prop where
  failed : row.failureKind = some .receiptFailed →
    ∃ pinned, row.receipt = some pinned ∧ pinned.outcome = .receiptFailed
  confirmed : row.status = .confirmed →
    ∃ pinned, row.receipt = some pinned ∧ pinned.outcome = .confirmed

/-- The purpose of a row and the packet it is for. -/
def rowTask (row : OutboxRow) : Purpose × Option Bytes := (row.purpose, row.guid)

/-- A row before and after a method, as far as its chain is concerned. -/
structure ChainStep (old new : OutboxRow) : Prop where
  id : new.id = old.id
  task : rowTask new = rowTask old
  receipt : old.receipt ≠ none → new.receipt = old.receipt
  parent : new.retryOfID = old.retryOfID
  attempts : old.attempts ≤ new.attempts
  dead : Dead old → Dead new ∧ new.attempts = old.attempts
  sound : ReceiptSound old → ReceiptSound new
  confirmed : ReceiptSound old → old.status = .confirmed → new.status = .confirmed

theorem ChainStep.refl (row : OutboxRow) : ChainStep row row :=
  ⟨rfl, rfl, fun _ => rfl, rfl, le_rfl, fun hdead => ⟨hdead, rfl⟩,
    fun hsound => hsound, fun _ hconfirmed => hconfirmed⟩

theorem ChainStep.trans {first second third : OutboxRow}
    (hleft : ChainStep first second) (hright : ChainStep second third) : ChainStep first third where
  id := hright.id.trans hleft.id
  task := hright.task.trans hleft.task
  receipt := fun hpinned => by
    have hsame := hleft.receipt hpinned
    exact (hright.receipt (hsame ▸ hpinned)).trans hsame
  parent := hright.parent.trans hleft.parent
  attempts := hleft.attempts.trans hright.attempts
  dead := fun hdead => by
    obtain ⟨hsecond, hattempts⟩ := hleft.dead hdead
    obtain ⟨hthird, hattempts'⟩ := hright.dead hsecond
    exact ⟨hthird, hattempts'.trans hattempts⟩
  sound := fun hsound => hright.sound (hleft.sound hsound)
  confirmed := fun hsound hconfirmed =>
    hright.confirmed (hleft.sound hsound) (hleft.confirmed hsound hconfirmed)

/-! ## Rows under each effect -/

/-- Methods that write open rows say nothing about dead or confirmed ones. -/
theorem ChainStep.of_open {old new : OutboxRow}
    (hopen : old.status.terminal = false) (hid : new.id = old.id)
    (htask : rowTask new = rowTask old) (hreceipt : old.receipt ≠ none → new.receipt = old.receipt)
    (hparent : new.retryOfID = old.retryOfID) (hattempts : old.attempts ≤ new.attempts)
    (hsound : ReceiptSound old → ReceiptSound new) : ChainStep old new where
  id := hid
  task := htask
  receipt := hreceipt
  parent := hparent
  attempts := hattempts
  dead := fun hdead => by
    rw [hdead.1] at hopen
    cases hopen
  sound := hsound
  confirmed := fun _ hconfirmed => by
    rw [hconfirmed] at hopen
    cases hopen

theorem ChainStep.of_quiet {old new : OutboxRow} (hquiet : QuietRow old new) :
    ChainStep old new := by
  have hsound : ReceiptSound old → ReceiptSound new := fun hsound =>
    { failed := by
        rw [hquiet.failureKind, hquiet.receipt]
        exact hsound.failed
      confirmed := fun hconfirmed => by
        rw [hquiet.receipt]
        rcases hquiet.status with hsame | ⟨-, hopen⟩
        · exact hsound.confirmed (hsame ▸ hconfirmed)
        · rw [hconfirmed] at hopen
          cases hopen }
  have htask : rowTask new = rowTask old := by
    rw [rowTask, rowTask, hquiet.purpose, hquiet.guid]
  rcases hquiet.status with hsame | ⟨hopen, -⟩
  · refine ⟨hquiet.id, htask, fun _ => hquiet.receipt, hquiet.retryOfID,
      hquiet.attempts.ge, ?_, hsound, ?_⟩
    · rintro ⟨hfailed, hdead⟩
      refine ⟨⟨hsame.trans hfailed, ?_⟩, hquiet.attempts⟩
      rw [hquiet.receipt, hquiet.failureKind]
      exact hdead
    · exact fun _ hconfirmed => hsame.trans hconfirmed
  · exact .of_open hopen hquiet.id htask (fun _ => hquiet.receipt)
      hquiet.retryOfID hquiet.attempts.ge hsound

theorem ChainStep.reverted (hqueued : row.status = .queued) (now : Time) (retryAt : Option Time)
    (failure : String) : ChainStep row (revertedRow row now retryAt failure) := by
  refine .of_open (by rw [hqueued]; rfl) rfl rfl (fun _ => rfl) rfl le_rfl fun _ => ⟨?_, ?_⟩
  · intro hkind
    cases hkind
  · intro hconfirmed
    cases hconfirmed

theorem not_dead_of_requeue (hcall : RetryCall tx row op) (hreceipt : row.receipt = none) :
    ¬ Dead row := by
  rintro ⟨-, ⟨pinned, hpinned, -⟩ | ⟨-, hkind⟩⟩
  · rw [hreceipt] at hpinned
    cases hpinned
  · cases hcall with
    | operator hallowed => simp [retryFailedTxRefusal, hkind] at hallowed
    | automatic hcandidate => simp [autoRetryCandidate, hkind] at hcandidate

theorem ChainStep.requeued (hcall : RetryCall tx row op) (hfailed : row.status = .failed)
    (hreceipt : row.receipt = none) (now : Time) : ChainStep row (requeuedRow row now) where
  id := rfl
  task := rfl
  receipt := fun _ => rfl
  parent := rfl
  attempts := Nat.le_succ _
  dead := fun hdead => absurd hdead (not_dead_of_requeue hcall hreceipt)
  sound := fun _ =>
    ⟨fun hkind => (by cases hkind), fun hconfirmed => (by cases hconfirmed)⟩
  confirmed := fun _ hconfirmed => by
    rw [hfailed] at hconfirmed
    cases hconfirmed

theorem ChainStep.rescheduled (row : OutboxRow) (now : Time) (retryAt : Option Time) :
    ChainStep row { row with nextRetryAt := retryAt, updatedAt := now } :=
  ⟨rfl, rfl, fun _ => rfl, rfl, le_rfl, fun hdead => ⟨hdead, rfl⟩,
    fun hsound => ⟨hsound.failed, hsound.confirmed⟩, fun _ hconfirmed => hconfirmed⟩

theorem ChainStep.settled (hkind : row.failureKind = some .receiptFailed) (now : Time) :
    ChainStep row (settledRow row now) where
  id := rfl
  task := rfl
  receipt := fun _ => rfl
  parent := rfl
  attempts := le_rfl
  dead := by
    rintro ⟨hfailed, hpinned | ⟨-, hother⟩⟩
    · exact ⟨⟨hfailed, .inl hpinned⟩, rfl⟩
    · rw [hkind] at hother
      cases hother
  sound := fun hsound => ⟨fun hnone => (by cases hnone), hsound.confirmed⟩
  confirmed := fun _ hconfirmed => hconfirmed

theorem ChainStep.pinned (hfree : row.receipt = none) (hopen : row.status.terminal = false)
    (now : Time) (resolution : Resolution) : ChainStep row (pinnedRow row now resolution) := by
  refine .of_open hopen rfl rfl (fun hpinned => absurd hfree hpinned) rfl
    le_rfl fun hsound => ⟨?_, ?_⟩
  · intro hkind
    obtain ⟨pinned, hpinned, -⟩ := hsound.failed hkind
    rw [hfree] at hpinned
    cases hpinned
  · intro hconfirmed
    have hstatus : row.status = .confirmed := hconfirmed
    rw [hstatus] at hopen
    cases hopen

theorem ChainStep.finalized {pinned : Resolution} (hpinned : row.receipt = some pinned)
    (now clock : Time) (attempt : AttemptRow) (facts : TxReceiptFacts) :
    ChainStep row (row.finalize now clock attempt pinned.outcome facts) where
  id := rfl
  task := rfl
  receipt := fun _ => rfl
  parent := rfl
  attempts := le_rfl
  dead := by
    rintro ⟨-, ⟨other, hother, hlost⟩ | ⟨hnone, -⟩⟩
    · rw [hpinned] at hother
      cases hother
      refine ⟨⟨?_, .inl ⟨pinned, hpinned, hlost⟩⟩, rfl⟩
      change finalStatus pinned.outcome = .failed
      cases houtcome : pinned.outcome with
      | confirmed => exact absurd houtcome hlost
      | receiptFailed | canceled => rfl
    · rw [hpinned] at hnone
      cases hnone
  sound := fun _ =>
    { failed := fun hkind => by
        refine ⟨pinned, hpinned, ?_⟩
        have hfinal : finalFailureKind pinned.outcome = some .receiptFailed := hkind
        cases houtcome : pinned.outcome <;>
          simp_all [finalFailureKind]
      confirmed := fun hend => by
        refine ⟨pinned, hpinned, ?_⟩
        have hfinal : finalStatus pinned.outcome = .confirmed := hend
        cases houtcome : pinned.outcome <;> simp_all [finalStatus] }
  confirmed := fun hsound hconfirmed => by
    obtain ⟨other, hother, houtcome⟩ := hsound.confirmed hconfirmed
    rw [hpinned] at hother
    cases hother
    change finalStatus pinned.outcome = .confirmed
    rw [houtcome]
    rfl

theorem heldExternally_iff : heldExternally row = true ↔
      row.status = .held .nonceConsumedExternally ∧ row.receipt = none := by
  simp [heldExternally]

theorem ChainStep.consumed (hheld : heldExternally row = true) (now : Time) :
    ChainStep row (row.consumeExternally now) := by
  obtain ⟨hstatus, -⟩ := heldExternally_iff.mp hheld
  refine .of_open (by rw [hstatus]; rfl) rfl rfl (fun _ => rfl) rfl le_rfl fun _ => ⟨?_, ?_⟩
  · intro hkind
    cases hkind
  · intro hconfirmed
    cases hconfirmed

/-! ## The tables under each method -/

/-- A dead row and the clone that retries it. -/
structure Retried (old new : OutboxTable) (parent after child : OutboxRow) : Prop where
  stored : parent ∈ old
  step : ChainStep parent after
  dead : Dead after
  attempts : after.attempts = parent.attempts
  childless : ∀ row ∈ old, row.retryOfID ≠ some parent.id
  id : child.id = old.next
  sound : ReceiptSound child
  retry : child.retryOfID = some parent.id
  task : rowTask child = rowTask parent
  count : child.attempts = parent.attempts + 1
  mem : ∀ other, other ∈ new ↔
    (other ∈ old ∧ other.id ≠ parent.id) ∨ other = after ∨ other = child

/-- The rows of two tables correspond; the newer one may have one more. -/
inductive ChainsStep (old new : OutboxTable) : Prop
  | kept (hback : ∀ row ∈ new, ∃ before ∈ old, ChainStep before row)
      (hforth : ∀ row ∈ old, ∃ after ∈ new, ChainStep row after)
  | started (row : OutboxRow) (hid : row.id = old.next)
      (hsound : ReceiptSound row) (hroot : row.retryOfID = none)
      (hmem : ∀ other, other ∈ new ↔ other ∈ old ∨ other = row)
  | retried {parent after child : OutboxRow} (hretried : Retried old new parent after child)

/-- Every row goes on in the newer table. -/
def Continues (old new : OutboxTable) : Prop := ∀ row ∈ old, ∃ after ∈ new, ChainStep row after

theorem ChainsStep.continues {old : OutboxTable} (hstep : ChainsStep old new) :
    Continues old new := by
  intro row hrow
  cases hstep with
  | kept _ hforth => exact hforth row hrow
  | started fresh _ _ _ hmem => exact ⟨row, (hmem row).mpr (.inl hrow), .refl row⟩
  | @retried parent after _ hretried =>
    by_cases hsame : row.id = parent.id
    · rw [eq_of_key_eq hrow hretried.stored hsame]
      exact ⟨after, (hretried.mem after).mpr (.inr (.inl rfl)), hretried.step⟩
    · exact ⟨row, (hretried.mem row).mpr (.inl ⟨hrow, hsame⟩), .refl row⟩

theorem ChainsStep.refl (table : OutboxTable) : ChainsStep table table :=
  .kept (fun row hrow => ⟨row, hrow, .refl row⟩) (fun row hrow => ⟨row, hrow, .refl row⟩)

theorem ChainsStep.set {old new : OutboxRow} (hold : table.find old.id = some old)
    (hstep : ChainStep old new) : ChainsStep table (table.set new) := by
  have hmem : old ∈ table := mem_of_find hold
  refine .kept (fun row hrow => ?_) (forth_set ChainStep.refl hmem hstep.id hstep)
  rcases mem_of_mem_set hrow with rfl | ⟨hkept, -⟩
  · exact ⟨old, hmem, hstep⟩
  · exact ⟨row, hkept, .refl row⟩

theorem ChainsStep.of_quiet {old new : TxTables} (hquiet : QuietTx old new) :
    ChainsStep old.outbox new.outbox := by
  refine .kept (fun row hrow => ?_) (fun row hrow => ?_)
  · have hrel := hquiet.rows row.id
    rw [find_of_mem hrow] at hrel
    cases hbefore : old.outbox.find row.id with
    | none =>
      rw [hbefore] at hrel
      cases hrel
    | some before =>
      rw [hbefore] at hrel
      cases hrel with
      | some hstep => exact ⟨before, mem_of_find hbefore, .of_quiet hstep⟩
  · have hrel := hquiet.rows row.id
    rw [find_of_mem hrow] at hrel
    cases hafter : new.outbox.find row.id with
    | none =>
      rw [hafter] at hrel
      cases hrel
    | some after =>
      rw [hafter] at hrel
      cases hrel with
      | some hstep => exact ⟨after, mem_of_find hafter, .of_quiet hstep⟩

theorem receiptSound_queued (hqueued : row.status = .queued) (hkind : row.failureKind = none) :
    ReceiptSound row where
  failed := fun hfailed => by
    rw [hkind] at hfailed
    cases hfailed
  confirmed := fun hconfirmed => by
    rw [hqueued] at hconfirmed
    cases hconfirmed

theorem ChainsStep.enqueued (tx : TxTables) (now : Time) (request : TxRequest) :
    ChainsStep tx.outbox (insertQueued tx now request).outbox :=
  .started (queuedRow tx.outbox.next now request 0 none) rfl
    (receiptSound_queued rfl rfl) rfl fun _ => mem_append rfl

theorem childless_of_hasRetryChild (hchild : hasRetryChild tx id = false) :
    ∀ row ∈ tx.outbox, row.retryOfID ≠ some id := by
  intro row hrow
  simp only [hasRetryChild, List.any_eq_false] at hchild
  simpa using hchild row hrow

/-- The invariant of the chains. -/
structure Chains (table : OutboxTable) : Prop where
  sound : ∀ row ∈ table, ReceiptSound row
  parents : ∀ row ∈ table, ∀ id, row.retryOfID = some id →
    ∃ parent ∈ table, parent.id = id ∧ Dead parent ∧
      parent.attempts < row.attempts ∧ parent.id < row.id ∧ rowTask parent = rowTask row
  unique : ∀ left ∈ table, ∀ right ∈ table, ∀ id,
    left.retryOfID = some id → right.retryOfID = some id → left = right

/-- Clones inserted before or after their parent is written. -/
theorem ChainsStep.cloned (now : Time) (hfound : table.find row.id = some row)
    (hstep : ChainStep row after) (hdead : Dead after) (hattempts : after.attempts = row.attempts)
    (hchildless : ∀ other ∈ table, other.retryOfID ≠ some row.id)
    (hmem : ∀ other, other ∈ new ↔ (other ∈ table ∧ other.id ≠ row.id) ∨ other = after ∨
        other = cloneRow table.next now row) : ChainsStep table new :=
  @ChainsStep.retried _ _ _ _ (cloneRow table.next now row) ⟨mem_of_find hfound, hstep, hdead,
    hattempts, hchildless, rfl, receiptSound_queued rfl rfl, rfl, rfl, rfl, hmem⟩

theorem mem_set_append (after child : OutboxRow) (hfound : table.find row.id = some row)
    (hafter : after.id = row.id) (hid : child.id = (table.set after).next) (other : OutboxRow) :
    other ∈ (table.set after).append child hid ↔
      (other ∈ table ∧ other.id ≠ row.id) ∨ other = after ∨ other = child := by
  have hrow : row ∈ table := mem_of_find hfound
  rw [mem_append hid, mem_set, hafter]
  constructor
  · rintro ((⟨rfl, -⟩ | hkept) | rfl)
    · exact .inr (.inl rfl)
    · exact .inl hkept
    · exact .inr (.inr rfl)
  · rintro (hkept | rfl | rfl)
    · exact .inl (.inr hkept)
    · exact .inl (.inl ⟨rfl, row, hrow, rfl⟩)
    · exact .inr rfl

theorem mem_append_set (after : OutboxRow) (hfound : table.find row.id = some row)
    (hafter : after.id = row.id) (hid : child.id = table.next) (other : OutboxRow) :
    other ∈ (table.append child hid).set after ↔
      (other ∈ table ∧ other.id ≠ row.id) ∨ other = after ∨ other = child := by
  rw [append_set hid (hafter ▸ key_lt_next (mem_of_find hfound))]
  exact mem_set_append after child hfound hafter hid other

theorem chainsStep_retry (hchains : Chains db.tx.outbox) (hresult : RetryResult db op result) :
    ChainsStep db.tx.outbox result.1.tx.outbox := by
  cases hresult with
  | refused error => exact .refl _
  | deferred row now paused _ hfound _ _ => exact .set hfound (.rescheduled row now _)
  | requeued row now hcall hfound hfailed hreceipt _ =>
    exact .set hfound (.requeued hcall hfailed hreceipt now)
  | settled row now work hrow _ => exact .set hrow.found (.settled hrow.kind now)
  | cloned row now work hrow hchild _ =>
    obtain ⟨pinned, hpinned, houtcome⟩ :=
      (hchains.sound row (mem_of_find hrow.found)).failed hrow.kind
    have hdead : Dead (retriedRow row now) :=
      ⟨hrow.failed, .inl ⟨pinned, hpinned, by simp [houtcome]⟩⟩
    exact .cloned now hrow.found (.rescheduled row now none) hdead rfl
      (childless_of_hasRetryChild hchild) (mem_append_set (retriedRow row now) hrow.found rfl rfl)

theorem chainsStep_effect (hchains : Chains db.tx.outbox) (heffect : TxEffect db op post) :
    ChainsStep db.tx.outbox post.tx.outbox := by
  cases heffect with
  | unchanged => exact .refl _
  | quiet _ hquiet => exact .of_quiet hquiet.2
  | enqueuedTx | enqueuedPricing _ | enqueuedExecutor _ _ _ _ | enqueuedDVN _ _ _ _ =>
    exact .enqueued _ _ _
  | reverted retryAt hrow hqueued _ => exact .set hrow (.reverted hqueued _ retryAt _)
  | operatorRetry hresult | automaticRetry hresult => exact chainsStep_retry hchains hresult
  | pinned hreceipt hfree hopen => exact .set (find_self hreceipt.owner) (.pinned hfree hopen _ _)
  | finalized hreceipt hpinned _ =>
    exact .set (find_self hreceipt.owner) (.finalized hpinned _ _ _ _)
  | @resolved now row hrow hheld _ =>
    -- A held row is open, and a row with a child is not.
    have hchildless : ∀ other ∈ db.tx.outbox, other.retryOfID ≠ some row.id := by
      intro other hother hretry
      obtain ⟨parent, hparent, hid, hdead, -⟩ := hchains.parents other hother _ hretry
      have heq : parent = row := eq_of_key_eq hparent (mem_of_find hrow) hid
      have hheld' := (heldExternally_iff.mp hheld).1
      rw [← heq, hdead.1] at hheld'
      cases hheld'
    exact .cloned now hrow (.consumed hheld now) ⟨rfl, .inr ⟨(heldExternally_iff.mp hheld).2, rfl⟩⟩
      rfl hchildless
      (mem_set_append (row.consumeExternally now) _ hrow rfl rfl)
  | abandoned hrow hheld _ => exact .set hrow (.consumed hheld _)

/-! ## The invariant -/

theorem chains_empty : Chains empty where
  sound row hrow := absurd hrow (not_mem_empty row)
  parents row hrow := absurd hrow (not_mem_empty row)
  unique row hrow := absurd hrow (not_mem_empty row)

theorem Chains.kept {old : OutboxTable} (hchains : Chains old)
    (hback : ∀ row ∈ new, ∃ before ∈ old, ChainStep before row)
    (hforth : ∀ row ∈ old, ∃ after ∈ new, ChainStep row after) : Chains new where
  sound row hrow := by
    obtain ⟨before, hbefore, hstep⟩ := hback row hrow
    exact hstep.sound (hchains.sound before hbefore)
  parents row hrow id hretry := by
    obtain ⟨before, hbefore, hstep⟩ := hback row hrow
    obtain ⟨parent, hparent, hid, hdead, hattempts, hlt, htask⟩ :=
      hchains.parents before hbefore id (hstep.parent ▸ hretry)
    obtain ⟨after, hafter, hkept⟩ := hforth parent hparent
    obtain ⟨hdead', hsame⟩ := hkept.dead hdead
    refine ⟨after, hafter, hkept.id.trans hid, hdead', ?_, ?_, ?_⟩
    · rw [hsame]
      exact lt_of_lt_of_le hattempts hstep.attempts
    · rw [hkept.id, hstep.id]
      exact hlt
    · rw [hkept.task, hstep.task, htask]
  unique left hleft right hright id hretry hretry' := by
    obtain ⟨before, hbefore, hstep⟩ := hback left hleft
    obtain ⟨before', hbefore', hstep'⟩ := hback right hright
    have hsame := hchains.unique before hbefore before' hbefore' id
      (hstep.parent ▸ hretry) (hstep'.parent ▸ hretry')
    refine eq_of_key_eq hleft hright ?_
    rw [hstep.id, hstep'.id, hsame]

/-- Every row but the child comes from an old row, and the old rows go on. -/
theorem Chains.retried {old : OutboxTable} (hchains : Chains old)
    (hretried : Retried old new parent after child) : Chains new := by
  have hforth : Continues old new := (ChainsStep.retried hretried).continues
  obtain ⟨hparent, hstep, hdead, hattempts, hchildless, hid, hsound, hretry, htask, hcount, hmem⟩ :=
    hretried
  have hafter : after ∈ new := (hmem after).mpr (.inr (.inl rfl))
  have hback : ∀ row ∈ new, row = child ∨ ∃ before ∈ old, ChainStep before row := by
    intro row hrow
    rcases (hmem row).mp hrow with ⟨hold, -⟩ | rfl | rfl
    · exact .inr ⟨row, hold, .refl row⟩
    · exact .inr ⟨parent, hparent, hstep⟩
    · exact .inl rfl
  refine ⟨fun row hrow => ?_, fun row hrow id hchild => ?_,
    fun left hleft right hright id hchild hchild' => ?_⟩
  · rcases hback row hrow with rfl | ⟨before, hbefore, hkept⟩
    · exact hsound
    · exact hkept.sound (hchains.sound before hbefore)
  · rcases hback row hrow with rfl | ⟨before, hbefore, hkept⟩
    · rw [hretry, Option.some.injEq] at hchild
      refine ⟨after, hafter, hstep.id.trans hchild, hdead, by omega, ?_,
        hstep.task.trans htask.symm⟩
      rw [hstep.id, hid]
      exact key_lt_next hparent
    · obtain ⟨origin, horigin, hoid, hodead, hoattempts, holt, hotask⟩ :=
        hchains.parents before hbefore id (hkept.parent ▸ hchild)
      obtain ⟨next, hnext, hostep⟩ := hforth origin horigin
      obtain ⟨hndead, hnattempts⟩ := hostep.dead hodead
      refine ⟨next, hnext, hostep.id.trans hoid, hndead, ?_, ?_, ?_⟩
      · exact hnattempts ▸ lt_of_lt_of_le hoattempts hkept.attempts
      · rw [hostep.id, hkept.id]
        exact holt
      · rw [hostep.task, hkept.task, hotask]
  · rcases hback left hleft with rfl | ⟨before, hbefore, hkept⟩ <;>
      rcases hback right hright with rfl | ⟨before', hbefore', hkept'⟩
    · rfl
    · rw [hretry] at hchild
      exact absurd (hkept'.parent ▸ hchild'.trans hchild.symm) (hchildless before' hbefore')
    · rw [hretry] at hchild'
      exact absurd (hkept.parent ▸ hchild.trans hchild'.symm) (hchildless before hbefore)
    · have hsame := hchains.unique before hbefore before' hbefore' id
        (hkept.parent ▸ hchild) (hkept'.parent ▸ hchild')
      refine eq_of_key_eq hleft hright ?_
      rw [hkept.id, hkept'.id, hsame]

theorem Chains.step {old : OutboxTable} (hchains : Chains old) (hstep : ChainsStep old new) :
    Chains new := by
  cases hstep with
  | kept hback hforth => exact hchains.kept hback hforth
  | started row hid hsound hroot hmem =>
    have hold : ∀ other ∈ new, ∀ id, other.retryOfID = some id → other ∈ old := by
      intro other hother id hretry
      rcases (hmem other).mp hother with hold | rfl
      · exact hold
      · rw [hroot] at hretry
        cases hretry
    refine ⟨fun other hother => ?_, fun other hother id hretry => ?_,
      fun left hleft right hright id hretry hretry' => ?_⟩
    · rcases (hmem other).mp hother with hother | rfl
      · exact hchains.sound other hother
      · exact hsound
    · obtain ⟨parent, hparent, hrest⟩ :=
        hchains.parents other (hold other hother id hretry) id hretry
      exact ⟨parent, (hmem parent).mpr (.inl hparent), hrest⟩
    · exact hchains.unique left (hold left hleft id hretry) right
        (hold right hright id hretry') id hretry hretry'
  | retried hretried => exact hchains.retried hretried

/-! ## Runs of the store -/

theorem chainsStep_op {op : Op} (hchains : Chains pre.tx.outbox) (hstep : Step pre op post) :
    ChainsStep pre.tx.outbox post.tx.outbox := by
  rw [Step] at hstep
  subst hstep
  cases op with
  | work op =>
    rw [Op.apply, workOp_apply_tx]
    exact .refl _
  | tx op => exact chainsStep_effect hchains (txOp_effect pre op)

theorem chains_step {op : Op} (hchains : Chains pre.tx.outbox) (hstep : Step pre op post) :
    Chains post.tx.outbox := hchains.step (chainsStep_op hchains hstep)

theorem chains_storeRun (hrun : StoreRun history db) : Chains db.tx.outbox :=
  hrun.invariant (fun db => Chains db.tx.outbox)
    (fun _ _ _ hchains hstep => chains_step hchains hstep) chains_empty

theorem continues_run {later : List (Event DB Op)} (hchains : Chains pre.tx.outbox)
    (hlater : Run Step pre later post) : Continues pre.tx.outbox post.tx.outbox := by
  refine Run.monotone (fun old new => Continues old.tx.outbox new.tx.outbox)
    (fun db row hrow => ⟨row, hrow, .refl row⟩) ?_ (fun db => Chains db.tx.outbox)
    (fun _ _ _ hpre hstep => chains_step hpre hstep)
    (fun _ _ _ hpre hstep => (chainsStep_op hpre hstep).continues) hchains hlater
  intro first second third hleft hright row hrow
  obtain ⟨middle, hmiddle, hstep⟩ := hleft row hrow
  obtain ⟨after, hafter, hstep'⟩ := hright middle hmiddle
  exact ⟨after, hafter, hstep.trans hstep'⟩

/-- `child.retry_of_id = parent.id`. -/
def RetryOf (tx : TxTables) (child parent : OutboxRow) : Prop :=
  child ∈ tx.outbox ∧ parent ∈ tx.outbox ∧ child.retryOfID = some parent.id

/-- Two rows of one chain: one is retried, step by step, by the other. -/
def SameChain (tx : TxTables) (left right : OutboxRow) : Prop :=
  Relation.ReflTransGen (RetryOf tx) left right ∨ Relation.ReflTransGen (RetryOf tx) right left

/-- The row was confirmed at some point of the run. -/
def EverConfirmed (history : List (Event DB Op)) (id : ℕ) : Prop :=
  ∃ event ∈ history, ∃ row ∈ event.post.tx.outbox, row.id = id ∧ row.status = .confirmed

theorem retryOf_dead (hchains : Chains tx.outbox) (hretry : RetryOf tx child parent) :
    Dead parent ∧ parent.attempts < child.attempts ∧ parent.id < child.id := by
  obtain ⟨hchild, hparent, hid⟩ := hretry
  obtain ⟨origin, horigin, hsame, hdead, hattempts, hlt, -⟩ := hchains.parents child hchild _ hid
  have heq : origin = parent := eq_of_key_eq horigin hparent hsame
  exact heq ▸ ⟨hdead, hattempts, hlt⟩

theorem id_lt_of_transGen (hchains : Chains tx.outbox)
    (hchain : Relation.TransGen (RetryOf tx) child parent) : parent.id < child.id := by
  induction hchain with
  | single hretry => exact (retryOf_dead hchains hretry).2.2
  | tail _ hretry ih => exact lt_trans (retryOf_dead hchains hretry).2.2 ih

theorem dead_of_transGen (hchains : Chains tx.outbox)
    (hchain : Relation.TransGen (RetryOf tx) child parent) : Dead parent := by
  cases hchain with
  | single hretry | tail _ hretry => exact (retryOf_dead hchains hretry).1

theorem confirmed_of_everConfirmed (hrun : StoreRun history db) (hrow : row ∈ db.tx.outbox)
    (hever : EverConfirmed history row.id) : row.status = .confirmed := by
  obtain ⟨event, hevent, old, hold, hid, hconfirmed⟩ := hever
  obtain ⟨-, ⟨earlier, hpost⟩, later, hlater⟩ := event_states hrun hevent
  have hchains := chains_storeRun hpost
  obtain ⟨after, hafter, hstep⟩ := continues_run hchains hlater old hold
  have heq : after = row := eq_of_key_eq hafter hrow (hstep.id.trans hid)
  exact heq ▸ hstep.confirmed (hchains.sound old hold) hconfirmed

theorem not_dead_of_confirmed (hconfirmed : row.status = .confirmed) : ¬ Dead row := by
  rintro ⟨hfailed, -⟩
  rw [hconfirmed] at hfailed
  cases hfailed

/-- The automatic retry returns a row to the queue within its attempts. -/
theorem promoted_attempts {now : Time} {lane : Lane} {locked : List ℕ}
    (hresult : RetryResult db (.prepareNextFailedTxRetry now lane locked) result)
    (hid : result.2 = .ok id) : ∃ row ∈ result.1.tx.outbox, row.id = id ∧
      row.attempts ≤ txAutoRetryMaxAttempts := by
  cases hresult with
  | refused error | deferred | settled => cases hid
  | requeued row now hcall hfound =>
    cases hid
    obtain ⟨hmem, -⟩ := find_eq_some.mp hfound
    have hbudget : row.attempts < txAutoRetryMaxAttempts := by
      cases hcall with
      | automatic hcandidate => exact (autoRetryCandidate_failed hcandidate).2.1
    exact ⟨requeuedRow row now, mem_set_self hmem rfl, rfl, hbudget⟩
  | cloned row now work hrow =>
    cases hid
    have hbudget : row.attempts < txAutoRetryMaxAttempts := by
      cases hrow.call with
      | automatic hcandidate => exact (autoRetryCandidate_failed hcandidate).2.1
    exact ⟨cloneRow db.tx.outbox.next now row,
      (mem_append_set (retriedRow row now) hrow.found rfl rfl _).mpr
        (.inr (.inr rfl)), rfl, hbudget⟩

/-- What holds of the retry chains after a run. -/
structure RetryChainsSound (history : List (Event DB Op)) (db : DB) : Prop where
  acyclic : ∀ row, ¬ Relation.TransGen (RetryOf db.tx) row row
  injective : ∀ left right parent, RetryOf db.tx left parent →
    RetryOf db.tx right parent → left = right
  parent_stored : ∀ child ∈ db.tx.outbox, ∀ id, child.retryOfID = some id →
    ∃ parent, RetryOf db.tx child parent ∧ parent.id = id
  parent_failed : ∀ child parent, RetryOf db.tx child parent →
    parent.status = .failed ∧ parent.attempts < child.attempts
  stays_failed : ∀ child parent, RetryOf db.tx child parent → ∀ later last, Run Step db later last →
      ∀ row ∈ last.tx.outbox, row.id = parent.id → row.status = .failed
  confirmed_once : ∀ left ∈ db.tx.outbox, ∀ right ∈ db.tx.outbox,
    SameChain db.tx left right → EverConfirmed history left.id →
      EverConfirmed history right.id → left = right
  confirmed_childless : ∀ row ∈ db.tx.outbox, EverConfirmed history row.id →
    ∀ child, ¬ RetryOf db.tx child row
  promoted_bounded : ∀ event ∈ history, ∀ now lane locked id,
    event.label = .tx (.prepareNextFailedTxRetry now lane locked) →
    (prepareNextFailedTxRetry event.pre now lane locked).2 = .ok id →
    ∃ row ∈ event.post.tx.outbox, row.id = id ∧ row.attempts ≤ 5

/-- Retry chains are linear, they end in a row that never comes back, and at
most one row of a chain is ever confirmed. -/
theorem retry_chains_linear {history : List (Event DB Op)} {db : DB}
    (hrun : StoreRun history db) : RetryChainsSound history db := by
  have hchains := chains_storeRun hrun
  have hchildless : ∀ row ∈ db.tx.outbox, EverConfirmed history row.id →
      ¬ Dead row := fun row hrow hever =>
    not_dead_of_confirmed (confirmed_of_everConfirmed hrun hrow hever)
  refine
    { acyclic := fun row hloop => (id_lt_of_transGen hchains hloop).ne rfl
      injective := ?_
      parent_stored := ?_
      parent_failed := ?_
      stays_failed := ?_
      confirmed_once := ?_
      confirmed_childless := ?_
      promoted_bounded := ?_ }
  · rintro left right parent ⟨hleft, -, hid⟩ ⟨hright, -, hid'⟩
    exact hchains.unique left hleft right hright parent.id hid hid'
  · intro child hchild id hid
    obtain ⟨parent, hparent, hsame, -⟩ := hchains.parents child hchild id hid
    exact ⟨parent, ⟨hchild, hparent, hsame ▸ hid⟩, hsame⟩
  · intro child parent hretry
    obtain ⟨hdead, hattempts, -⟩ := retryOf_dead hchains hretry
    exact ⟨hdead.1, hattempts⟩
  · intro child parent hretry later last hlater row hrow hid
    obtain ⟨after, hafter, hstep⟩ := continues_run hchains hlater parent hretry.2.1
    have heq : after = row := eq_of_key_eq hafter hrow (hstep.id.trans hid.symm)
    exact heq ▸ (hstep.dead (retryOf_dead hchains hretry).1).1.1
  · intro left hleft right hright hsame hever hever'
    rcases hsame with hup | hup <;>
      rcases Relation.reflTransGen_iff_eq_or_transGen.mp hup with heq | hchain
    · exact heq.symm
    · exact absurd (dead_of_transGen hchains hchain) (hchildless right hright hever')
    · exact heq
    · exact absurd (dead_of_transGen hchains hchain) (hchildless left hleft hever)
  · intro row hrow hever child hretry
    exact hchildless row hrow hever (retryOf_dead hchains hretry).1
  · intro event hevent now lane locked id hlabel hid
    have hstep := (hrun.event_reached hevent).1
    rw [Step, hlabel] at hstep
    rw [hstep]
    exact promoted_attempts (prepareNextFailedTxRetry_result _ _ _ _) hid

theorem retriedCommit_chain : (replay retriedCommit).tx.outbox.rows.map
        (fun row => (row.id, row.retryOfID, row.attempts)) = [(1, none, 0), (2, some 1, 1)] ∧
      RetryChainsSound (trace retriedCommit) (replay retriedCommit) :=
  ⟨by decide +kernel, retry_chains_linear (storeRun_trace retriedCommit)⟩

end Lazier.Ledger
