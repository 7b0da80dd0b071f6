import Lazier.Signer.Accounts

/-!
# Bounded spend per task

The caps on replacements are tested in an unlocked peek, and the insert comes
later under a lease.  The bound holds because the insert names the attempt the
peek saw: the active pointer of a live row only ever moves to a new attempt, so
an insert finds the accounts of its peek, and a request that was pending then is
consumed by it.
-/

namespace Lazier.Signer

open Library Store Ledger Manager SerialTable List Option

variable {requests cancels : ℕ → ℕ} {row : OutboxRow} {sessions : List Session} {tx : TxTables}
  {now : Time}

/-! ## Counting calls -/

/-- The event is a `RequestTxReplacement` of the row that committed. -/
def requestsReplacement (id : ℕ) (event : Event Fleet Move) : Bool :=
  match event.label with
  | .call (.tx (.requestTxReplacement now requested)) =>
    decide (requested = id ∧ (requestTxReplacement event.pre.db now requested).2 = .ok ())
  | _ => false

/-- The event is a `RequestTxCancel` of the row that committed. -/
def requestsCancel (id : ℕ) (event : Event Fleet Move) : Bool :=
  match event.label with
  | .call (.tx (.requestTxCancel now requested)) =>
    decide (requested = id ∧ (requestTxCancel event.pre.db now requested).2 = .ok ())
  | _ => false

/-- The event is a `ClaimAttemptForBroadcast` that returned the attempt. -/
def claimsAttempt (attemptID : ℕ) (event : Event Fleet Move) : Bool :=
  match event.label with
  | .call (.tx (.claimAttemptForBroadcast now lane token leaseTTL locked)) =>
    match (claimAttemptForBroadcast event.pre.db now lane token leaseTTL locked).2 with
    | .ok claim => decide (claim.attemptID = attemptID)
    | .error _ => false
  | _ => false

/-! ## The accounts of a row -/

/-- A live row: a cancel attempt is active from the first one on, and a pending
request has not been spent. -/
structure LiveSpend (attempts : Attempts) (requests cancels : ℕ) (row : OutboxRow) : Prop where
  fresh : ¬ ActiveCancel attempts row → kindCount attempts row.id .cancel = 0
  intent : ActiveCancel attempts row → row.cancelRequestedAt ≠ none
  dormant : row.cancelRequestedAt ≠ none → ¬ ActiveCancel attempts row →
    row.replaceRequestedAt = none
  replace : row.replaceRequestedAt ≠ none → ¬ ActiveCancel attempts row →
    kindCount attempts row.id .replacement < txMaxReplacements + requests
  bump : row.replaceRequestedAt ≠ none → ActiveCancel attempts row →
    kindCount attempts row.id .cancel < txMaxReplacements + cancels

structure RowSpend (attempts : Attempts) (requests cancels : ℕ) (row : OutboxRow) : Prop where
  original : kindCount attempts row.id .original ≤ 1
  replaced : kindCount attempts row.id .replacement ≤ txMaxReplacements + requests
  canceled : kindCount attempts row.id .cancel ≤ txMaxReplacements + cancels
  live : row.status.terminal = false → LiveSpend attempts requests cancels row

/-- What an open session may still spend: as long as the row is live with the
attempt the peek saw, its account has room. -/
def SessionSpend (tx : TxTables) (requests cancels : ℕ → ℕ) (session : Session) : Prop :=
  match session.task with
  | .sign => True
  | .replace expected bumpingCancel =>
    (∃ attempt ∈ tx.attempts, attempt.id = expected ∧ attempt.outboxID = session.outboxID ∧
      decide (attempt.kind = .cancel) = bumpingCancel) ∧
    ∀ row ∈ tx.outbox, row.id = session.outboxID →
      row.status.terminal = false → row.activeAttemptID = some expected →
      if bumpingCancel then
        kindCount tx.attempts row.id .cancel < txMaxReplacements + cancels row.id
      else
        kindCount tx.attempts row.id .replacement < txMaxReplacements + requests row.id
  | .cancel expected =>
    expected < tx.attempts.next ∧
    ∀ row ∈ tx.outbox, row.id = session.outboxID →
      row.status.terminal = false → row.activeAttemptID.getD 0 = expected →
      ¬ ActiveCancel tx.attempts row

structure Spend (tx : TxTables) (sessions : List Session) (requests cancels : ℕ → ℕ) : Prop where
  rows : ∀ row ∈ tx.outbox, RowSpend tx.attempts (requests row.id) (cancels row.id) row
  sessions : ∀ session ∈ sessions, SessionSpend tx requests cancels session
  positive : 0 < tx.attempts.next

/-! ## Carrying accounts over a call -/

/-- A live row whose accounts a call did not touch. -/
structure Untouched (old new : Attempts) (before after : OutboxRow) : Prop where
  id : after.id = before.id
  live : before.status.terminal = false
  pointer : after.activeAttemptID = before.activeAttemptID
  active : ActiveCancel new after ↔ ActiveCancel old before
  counts : ∀ kind, kindCount new after.id kind = kindCount old before.id kind

variable {old new : Attempts} {requests' cancels' : ℕ}

theorem LiveSpend.untouched {requests cancels : ℕ} {before after : OutboxRow}
    (hspend : LiveSpend old requests cancels before) (huntouched : Untouched old new before after)
    (hreplace : after.replaceRequestedAt ≠ none → before.replaceRequestedAt ≠ none)
    (hcancel : after.cancelRequestedAt = none ↔ before.cancelRequestedAt = none)
    (hrequests : requests ≤ requests') (hcancels : cancels ≤ cancels') :
    LiveSpend new requests' cancels' after := by
  refine ⟨?_, ?_, ?_, ?_, ?_⟩
  · rw [huntouched.active, huntouched.counts]
    exact hspend.fresh
  · rw [huntouched.active, ne_eq, hcancel]
    exact hspend.intent
  · rw [huntouched.active, ne_eq, hcancel]
    intro hintent hother
    by_contra hsome
    exact hreplace hsome (hspend.dormant hintent hother)
  · rw [huntouched.active, huntouched.counts]
    intro hsome hother
    have hroom := hspend.replace (hreplace hsome) hother
    omega
  · rw [huntouched.active, huntouched.counts]
    intro hsome hbump
    have hroom := hspend.bump (hreplace hsome) hbump
    omega

theorem accounts_of_no_attempt {attempts : Attempts}
    (hnone : ∀ attempt ∈ attempts, attempt.outboxID ≠ row.id) :
    ¬ ActiveCancel attempts row ∧ ∀ kind, kindCount attempts row.id kind = 0 := by
  refine ⟨fun ⟨attempt, hattempt, _, howner, _⟩ => hnone attempt hattempt howner, fun kind => ?_⟩
  exact kindCount_eq_zero.mpr fun attempt hattempt howner => absurd howner (hnone attempt hattempt)

/-- The live rows of a call as its sessions see them: untouched, moved on to the
new attempt, or without any attempt. -/
inductive RowTrace (old new : TxTables) (row : OutboxRow) : Prop
  | untouched {before : OutboxRow} (hbefore : before ∈ old.outbox)
      (huntouched : Untouched old.attempts new.attempts before row)
  | moved (hpointer : row.activeAttemptID = some old.attempts.next)
  | bare (hinactive : row.activeAttemptID = none)
      (hnone : ∀ attempt ∈ new.attempts, attempt.outboxID ≠ row.id)

theorem SessionSpend.carry {old new : TxTables} {requests' cancels' : ℕ → ℕ} {session : Session}
    (hspend : SessionSpend old requests cancels session) (hattempts : ∀ attempt ∈ old.attempts,
      ∃ after ∈ new.attempts, identity after = identity attempt)
    (hnext : old.attempts.next ≤ new.attempts.next)
    (hrows : ∀ row ∈ new.outbox, row.status.terminal = false → RowTrace old new row)
    (hrequests : ∀ id, requests id ≤ requests' id) (hcancels : ∀ id, cancels id ≤ cancels' id) :
    SessionSpend new requests' cancels' session := by
  unfold SessionSpend at hspend ⊢
  split
  · trivial
  · rename_i expected bumpingCancel htask
    simp only [htask] at hspend
    obtain ⟨⟨attempt, hattempt, hid, howner, hkind⟩, hroom⟩ := hspend
    obtain ⟨after, hafter, hidentity⟩ := hattempts attempt hattempt
    simp only [identity, Prod.mk.injEq] at hidentity
    refine ⟨⟨after, hafter, hidentity.1.trans hid,
      hidentity.2.1.trans howner, by rw [hidentity.2.2]; exact hkind⟩, ?_⟩
    intro row hrow hrowID hlive hactive
    rcases hrows row hrow hlive with ⟨hbefore, huntouched⟩ | hpointer | hinactive
    · rename_i before
      have hbeforeRoom := hroom before hbefore (huntouched.id ▸ hrowID)
        huntouched.live (huntouched.pointer ▸ hactive)
      have hmore := hrequests before.id
      have hmore' := hcancels before.id
      rw [huntouched.counts, huntouched.counts, huntouched.id]
      split
      · rename_i hbump
        rw [if_pos hbump] at hbeforeRoom
        omega
      · rename_i hbump
        rw [if_neg hbump] at hbeforeRoom
        omega
    · -- The row moved past the attempt that the peek saw.
      rw [hpointer, some.injEq, ← hid] at hactive
      exact absurd hactive (key_lt_next hattempt).ne'
    · rw [hinactive] at hactive
      cases hactive
  · rename_i expected htask
    simp only [htask] at hspend
    refine ⟨lt_of_lt_of_le hspend.1 hnext, ?_⟩
    intro row hrow hrowID hlive hactive
    rcases hrows row hrow hlive with ⟨hbefore, huntouched⟩ | hpointer | ⟨hinactive, hnone⟩
    · rename_i before
      rw [huntouched.active]
      exact hspend.2 before hbefore (huntouched.id ▸ hrowID) huntouched.live
        (huntouched.pointer ▸ hactive)
    · rw [hpointer, getD_some] at hactive
      exact absurd hactive hspend.1.ne'
    · exact (accounts_of_no_attempt hnone).1

/-! ## Calls that keep the accounts -/

theorem RowKept.untouched {before after : OutboxRow} (hkept : RowKept before after)
    (hsame : SameAttempts old new) (hlive : after.status.terminal = false) :
    Untouched old new before after where
  id := hkept.id
  live := hkept.live hlive
  pointer := hkept.active hlive
  active := activeCancel_same hsame hkept.id (hkept.active hlive)
  counts kind := by rw [kindCount_same hsame, hkept.id]

variable {attempts : Attempts}

theorem RowSpend.of_no_attempt {requests cancels : ℕ}
    (hnone : ∀ attempt ∈ attempts, attempt.outboxID ≠ row.id)
    (hcancel : row.cancelRequestedAt = none) : RowSpend attempts requests cancels row := by
  obtain ⟨hactive, hcount⟩ := accounts_of_no_attempt hnone
  have hroom : 0 < txMaxReplacements := by decide
  have hle (kind : AttemptKind) (bound : ℕ) : kindCount attempts row.id kind ≤ bound :=
    (hcount kind).trans_le bound.zero_le
  refine ⟨hle _ _, hle _ _, hle _ _, fun _ => ⟨fun _ => hcount _, ?_, ?_, ?_, ?_⟩⟩
  · exact fun hbump => absurd hbump hactive
  · exact fun hintent => absurd hcancel hintent
  · intro _ _
    rw [hcount]
    omega
  · exact fun _ hbump => absurd hbump hactive

theorem RowSpend.carry {requests cancels : ℕ} {before after : OutboxRow}
    (hspend : RowSpend old requests cancels before)
    (hcounts : ∀ kind, kindCount new after.id kind = kindCount old before.id kind)
    (hrequests : requests ≤ requests') (hcancels : cancels ≤ cancels')
    (hlive : after.status.terminal = false → LiveSpend new requests' cancels' after) :
    RowSpend new requests' cancels' after where
  original := (hcounts _).trans_le hspend.original
  replaced := (hcounts _).trans_le (hspend.replaced.trans (Nat.add_le_add_left hrequests _))
  canceled := (hcounts _).trans_le (hspend.canceled.trans (Nat.add_le_add_left hcancels _))
  live := hlive

section Carried

variable {old new : TxTables} {requests' cancels' : ℕ → ℕ}
  (hspend : Spend old sessions requests cancels) (hrequests : ∀ id, requests id ≤ requests' id)
  (hcancels : ∀ id, cancels id ≤ cancels' id)

include hspend hrequests hcancels

theorem Spend.untouched {before after : OutboxRow} (hbefore : before ∈ old.outbox)
    (hid : after.id = before.id)
    (hcounts : ∀ kind, kindCount new.attempts after.id kind = kindCount old.attempts before.id kind)
    (huntouched : after.status.terminal = false → Untouched old.attempts new.attempts before after)
    (hreplace : after.replaceRequestedAt ≠ none → before.replaceRequestedAt ≠ none)
    (hcancel : after.status.terminal = false →
      (after.cancelRequestedAt = none ↔ before.cancelRequestedAt = none)) :
    RowSpend new.attempts (requests' after.id) (cancels' after.id) after ∧
      (after.status.terminal = false → RowTrace old new after) := by
  have hold := hspend.rows before hbefore
  rw [hid]
  refine ⟨hold.carry hcounts (hrequests _) (hcancels _) fun hlive => ?_,
    fun hlive => .untouched hbefore (huntouched hlive)⟩
  exact (hold.live (huntouched hlive).live).untouched (huntouched hlive) hreplace (hcancel hlive)
    (hrequests _) (hcancels _)

theorem Spend.carry (hattempts : ∀ attempt ∈ old.attempts,
      ∃ after ∈ new.attempts, identity after = identity attempt)
    (hnext : old.attempts.next ≤ new.attempts.next) (hrows : ∀ row ∈ new.outbox,
      RowSpend new.attempts (requests' row.id) (cancels' row.id) row ∧
        (row.status.terminal = false → RowTrace old new row)) :
    Spend new sessions requests' cancels' where
  rows row hrow := (hrows row hrow).1
  sessions session hsession := (hspend.sessions session hsession).carry hattempts hnext
    (fun row hrow => (hrows row hrow).2) hrequests hcancels
  positive := hspend.positive.trans_le hnext

theorem Spend.kept (hsound : Sound new) (hrows : RowsKept old.outbox new.outbox)
    (hsame : SameAttempts old.attempts new.attempts) : Spend new sessions requests' cancels' := by
  refine hspend.carry hrequests hcancels (fun attempt hattempt => mem_same hsame.symm hattempt)
    hsame.next.ge fun row hrow => ?_
  rcases hrows row hrow with ⟨before, hbefore, hkept⟩ | hbare
  · exact hspend.untouched hrequests hcancels hbefore hkept.id
      (fun kind => by rw [kindCount_same hsame, hkept.id]) (hkept.untouched hsame) hkept.replace
      hkept.cancel
  · have hnone := no_attempt_of_bare hsound hrow hbare
    obtain ⟨-, hinactive, -, -, hcancel⟩ := (hsound.rows row hrow).bare hbare
    exact ⟨.of_no_attempt hnone hcancel, fun _ => .bare hinactive hnone⟩

theorem Spend.mono : Spend old sessions requests' cancels' :=
  hspend.carry hrequests hcancels (fun attempt hattempt => ⟨attempt, hattempt, rfl⟩) le_rfl
    fun row hrow => hspend.untouched hrequests hcancels hrow rfl (fun _ => rfl)
      ((RowKept.refl row).untouched (.refl _)) id fun _ => Iff.rfl

/-! ## Requests -/

theorem Spend.requested {after : OutboxRow} (hrow : old.outbox.find row.id = some row)
    (hid : after.id = row.id) (hstatus : after.status = row.status)
    (hpointer : after.activeAttemptID = row.activeAttemptID)
    (hafter : LiveSpend old.attempts (requests' row.id) (cancels' row.id) after) :
    Spend (old.setRow after) sessions requests' cancels' := by
  refine hspend.carry hrequests hcancels (fun attempt hattempt => ⟨attempt, hattempt, rfl⟩) le_rfl
    fun other hother => ?_
  rcases mem_setRow hother with rfl | ⟨hold, -⟩
  · have hmem := mem_of_find hrow
    have hcounts : ∀ kind, kindCount old.attempts other.id kind =
        kindCount old.attempts row.id kind := fun _ => by rw [hid]
    rw [hid]
    exact ⟨(hspend.rows row hmem).carry hcounts (hrequests _) (hcancels _) fun _ => hafter,
      fun hlive => .untouched hmem ⟨hid, hstatus ▸ hlive, hpointer,
        activeCancel_same (.refl _) hid hpointer, hcounts⟩⟩
  · exact hspend.untouched hrequests hcancels hold rfl (fun _ => rfl)
      ((RowKept.refl other).untouched (.refl _)) id fun _ => Iff.rfl

end Carried

/-- The counts with one more call for the row. -/
def bumped (counts : ℕ → ℕ) (id other : ℕ) : ℕ := counts other + if other = id then 1 else 0

theorem le_bumped (counts : ℕ → ℕ) (id other : ℕ) : counts other ≤ bumped counts id other :=
  Nat.le_add_right _ _

theorem bumped_self (counts : ℕ → ℕ) (id : ℕ) : bumped counts id id = counts id + 1 := by
  rw [bumped, if_pos rfl]

theorem Spend.replacementRequested (hspend : Spend tx sessions requests cancels)
    (hrow : tx.outbox.find row.id = some row) (hallowed : ReplacementAllowed row) : Spend (tx.setRow
        { row with
          replaceRequestedAt := some now
          preSignFailureCount := 0
          updatedAt := now }) sessions (bumped requests row.id) cancels := by
  obtain ⟨-, hcancel, hstatus⟩ := hallowed
  have hlive : row.status.terminal = false := by
    rcases hstatus with hstatus | hstatus | hstatus <;> rw [hstatus] <;> rfl
  have hspent := hspend.rows row (mem_of_find hrow)
  have hold := hspent.live hlive
  have hother : ¬ ActiveCancel tx.attempts row := fun hbump =>
    hold.intent hbump hcancel
  refine hspend.requested (le_bumped requests row.id) (fun _ => le_rfl) hrow rfl rfl rfl
    ⟨hold.fresh, fun hbump => absurd hbump hother, ?_, ?_, ?_⟩
  · exact fun hintent => absurd hcancel hintent
  · intro _ _
    have hroom := hspent.replaced
    rw [bumped_self]
    exact Nat.lt_succ_of_le hroom
  · exact fun _ hbump => absurd hbump hother

theorem Spend.cancelRequested (hspend : Spend tx sessions requests cancels)
    (hrow : tx.outbox.find row.id = some row) (hlive : row.status.terminal = false) :
    Spend (tx.setRow (cancelRow tx now row)) sessions requests (bumped cancels row.id) := by
  have hspent := hspend.rows row (mem_of_find hrow)
  have hold := hspent.live hlive
  have hnone : ¬ ActiveCancel tx.attempts row →
      (cancelRow tx now row).replaceRequestedAt = none := by
    intro hother
    rw [activeCancel_iff, Bool.not_eq_true] at hother
    simp only [cancelRow, hother]
    rfl
  refine hspend.requested (fun _ => le_rfl) (le_bumped cancels row.id) hrow rfl rfl rfl
    ⟨hold.fresh, ?_, ?_, ?_, ?_⟩
  · exact fun _ => some_ne_none _
  · exact fun _ hother => hnone hother
  · exact fun hsome hother => absurd (hnone hother) hsome
  · intro _ _
    have hroom := hspent.canceled
    rw [bumped_self]
    exact Nat.lt_succ_of_le hroom

/-! ## Inserts -/

variable {attempt : AttemptRow}

theorem kindCount_append_of_ne (hid : attempt.id = attempts.next) {id : ℕ}
    (hne : attempt.outboxID ≠ id) (kind : AttemptKind) :
    kindCount (attempts.append attempt hid) id kind = kindCount attempts id kind := by
  rw [kindCount_append, if_neg fun hboth => hne hboth.1, Nat.add_zero]

theorem activeCancel_append_of_ne (hid : attempt.id = attempts.next)
    (hne : attempt.outboxID ≠ row.id) :
    ActiveCancel (attempts.append attempt hid) row ↔ ActiveCancel attempts row := by
  constructor
  · rintro ⟨other, hother, hpointer, howner, hkind⟩
    rcases (mem_append hid).mp hother with hold | rfl
    · exact ⟨other, hold, hpointer, howner, hkind⟩
    · exact absurd howner hne
  · rintro ⟨other, hother, hpointer, howner, hkind⟩
    exact ⟨other, mem_append_of_mem hid hother, hpointer, howner, hkind⟩

/-- The attempt of the pointer decides. -/
theorem activeCancel_iff_kind (hattempt : attempt ∈ attempts) (howner : attempt.outboxID = row.id)
    (hpointer : row.activeAttemptID = some attempt.id) :
    ActiveCancel attempts row ↔ attempt.kind = .cancel := by
  constructor
  · rintro ⟨other, hother, hactive, -, hkind⟩
    rw [hpointer, some.injEq] at hactive
    exact eq_of_key_eq hattempt hother hactive ▸ hkind
  · intro hkind
    exact ⟨attempt, hattempt, hpointer, howner, hkind⟩

variable {attempt : AttemptRow}

theorem Spend.persisted {new : OutboxRow} (hspend : Spend tx sessions requests cancels)
    (hid : attempt.id = tx.attempts.next) (howner : attempt.outboxID = row.id)
    (hnewID : new.id = row.id) (hpointer : new.activeAttemptID = some attempt.id)
    (hnew : RowSpend (tx.attempts.append attempt hid) (requests row.id) (cancels row.id) new) :
    Spend ((tx.addAttempt attempt hid).setRow new) sessions requests
      cancels := by
  refine hspend.carry (fun _ => le_rfl) (fun _ => le_rfl) (fun known hknown =>
    ⟨known, mem_append_of_mem hid hknown, rfl⟩) (Nat.le_succ _) fun other hmem => ?_
  rcases mem_setRow hmem with rfl | ⟨hold, hne⟩
  · exact ⟨hnewID ▸ hnew, fun _ => .moved (hpointer.trans (congrArg some hid))⟩
  · have hforeign : attempt.outboxID ≠ other.id := by
      rw [howner, ← hnewID]
      exact hne.symm
    have hcounts := kindCount_append_of_ne hid hforeign
    exact hspend.untouched (fun _ => le_rfl) (fun _ => le_rfl) hold rfl hcounts
      (fun hlive => ⟨rfl, hlive, rfl, activeCancel_append_of_ne hid hforeign, hcounts⟩) id
      fun _ => Iff.rfl

section

variable {requests cancels : ℕ} {new : OutboxRow} (hspend : RowSpend attempts requests cancels row)
  (hid : attempt.id = attempts.next) (howner : attempt.outboxID = new.id)
  (hpointer : new.activeAttemptID = some attempt.id) (hnewID : new.id = row.id)

include hspend howner hpointer hnewID

theorem RowSpend.inserted (hkind : attempt.kind ≠ .cancel) (hlive : row.status.terminal = false)
    (hother : ¬ ActiveCancel attempts row)
    (horiginal : attempt.kind = .original → kindCount attempts row.id .original = 0)
    (hroom : attempt.kind = .replacement →
      kindCount attempts row.id .replacement < txMaxReplacements + requests)
    (hdormant : new.cancelRequestedAt ≠ none → new.replaceRequestedAt = none)
    (hpending : new.replaceRequestedAt ≠ none →
      kindCount attempts row.id .replacement < txMaxReplacements + requests ∧
        attempt.kind ≠ .replacement) :
    RowSpend (attempts.append attempt hid) requests cancels new := by
  have hinactive : ¬ ActiveCancel (attempts.append attempt hid) new :=
    fun hbump => hkind ((activeCancel_iff_kind (mem_append_self hid) howner hpointer).mp hbump)
  have hfresh := (hspend.live hlive).fresh hother
  have horiginals := hspend.original
  have hreplaced := hspend.replaced
  refine ⟨?_, ?_, ?_, fun _ => ⟨?_, ?_, fun hintent _ => hdormant hintent, ?_, ?_⟩⟩
  · rw [kindCount_append, hnewID]
    split
    · rename_i hadded
      rw [horiginal hadded.2]
    · exact horiginals
  · rw [kindCount_append, hnewID]
    split
    · rename_i hadded
      exact hroom hadded.2
    · exact hreplaced
  · rw [kindCount_append, hnewID, hfresh, if_neg fun hadded => hkind hadded.2]
    exact Nat.zero_le _
  · intro _
    rw [kindCount_append, hnewID, hfresh, if_neg fun hadded => hkind hadded.2]
  · exact fun hbump => absurd hbump hinactive
  · intro hsome _
    obtain ⟨hfree, hnot⟩ := hpending hsome
    rw [kindCount_append, hnewID, if_neg fun hadded => hnot hadded.2]
    exact hfree
  · exact fun _ hbump => absurd hbump hinactive

theorem RowSpend.canceledInsert (hkind : attempt.kind = .cancel)
    (hroom : kindCount attempts row.id .cancel < txMaxReplacements + cancels)
    (hintent : new.cancelRequestedAt ≠ none) (hspent : new.replaceRequestedAt = none) :
    RowSpend (attempts.append attempt hid) requests cancels new := by
  have hactive : ActiveCancel (attempts.append attempt hid) new :=
    (activeCancel_iff_kind (mem_append_self hid) howner hpointer).mpr hkind
  have hsame : ∀ kind, kind ≠ .cancel → kindCount (attempts.append attempt hid) new.id kind =
        kindCount attempts row.id kind := by
    intro kind hne
    rw [kindCount_append, hnewID,
      if_neg fun hadded => hne (hadded.2.symm.trans hkind), Nat.add_zero]
  refine ⟨?_, ?_, ?_, fun _ => ⟨?_, fun _ => hintent, ?_, ?_, ?_⟩⟩
  · rw [hsame _ (by decide)]
    exact hspend.original
  · rw [hsame _ (by decide)]
    exact hspend.replaced
  · rw [kindCount_append, hnewID, if_pos ⟨howner.trans hnewID, hkind⟩]
    exact hroom
  · exact fun hother => absurd hactive hother
  · exact fun _ hother => absurd hactive hother
  · exact fun hsome => absurd hspent hsome
  · exact fun hsome => absurd hspent hsome

end

/-! ## Moves of the fleet -/

variable {before after : Fleet} {move : Move} {op : TxOp}

/-- The committed replacement requests of a history, by row. -/
def replacementRequests (history : List (Event Fleet Move)) (id : ℕ) : ℕ :=
  history.countP (requestsReplacement id)

def cancelRequests (history : List (Event Fleet Move)) (id : ℕ) : ℕ :=
  history.countP (requestsCancel id)

/-- The call behind a request is made directly. -/
theorem call_of_request (hstep : FleetStep before move after) (hop : move.op = some (.tx op))
    (hrequest : (∃ now id, op = .requestTxReplacement now id) ∨
      ∃ now id, op = .requestTxCancel now id) : move = .call (.tx op) := by
  cases hstep with
  | start fresh => cases hop
  | @claim session now lane leaseTTL started | @insert session now signed started =>
    cases hop
    cases htask : session.task <;>
      simp [Session.claimCall, Session.insertCall, htask] at hrequest
  | call free =>
    obtain rfl := some.inj hop
    rfl

theorem countP_le_cons {α : Type} {p : α → Bool} {x : α} {xs : List α} :
    xs.countP p ≤ (x :: xs).countP p := (sublist_cons_self _ _).countP_le

variable {event : Event Fleet Move}

theorem countP_cons_eq {counts : ℕ → Event Fleet Move → Bool} {id : ℕ}
    (hevent : ∀ other, counts other event = decide (id = other))
    (history : List (Event Fleet Move)) :
    (fun other => (event :: history).countP (counts other)) =
      bumped (fun other => history.countP (counts other)) id := by
  funext other
  simp only [countP_cons, hevent, bumped, decide_eq_true_eq]
  exact congrArg _ (if_congr eq_comm rfl rfl)

variable {history : List (Event Fleet Move)} {expected : ℕ} {token : UUID}

section Inserted

variable (hspend : Spend before.db.tx before.sessions requests cancels)
  (hstep : FleetStep before move after) (hrow : before.db.tx.outbox.find row.id = some row)

include hspend hstep hrow

theorem Spend.replaced {signed : SignedAttempt}
    (hop : move.op = some (.tx (.insertReplacementAttempt now row.id expected token signed)))
    (hactive : row.activeAttemptID = some expected) (hlive : row.status.terminal = false) :
    Spend (persistedTx .replacement before.db.tx now signed row) before.sessions requests
      cancels := by
  obtain ⟨session, hsession, now', made, hcall⟩ := session_of_persists hstep hop rfl
  have hoffer := hspend.sessions session hsession
  have hmem := mem_of_find hrow
  have hspent := hspend.rows row hmem
  rw [Session.insertCall] at hcall
  cases htask : session.task with
  | sign | cancel => simp [htask] at hcall
  | replace named bumpingCancel =>
    simp only [htask, TxOp.insertReplacementAttempt.injEq] at hcall
    obtain ⟨-, hrowID, rfl, -, hsigned⟩ := hcall
    have hkind : signed.kind = (Task.replace expected bumpingCancel).kind := by
      rw [hsigned]
    simp only [SessionSpend, htask] at hoffer
    obtain ⟨⟨attempt, hattempt, hid, howner, hbumping⟩, hroom⟩ := hoffer
    have hfree := hroom row hmem hrowID hlive hactive
    have hcancel := activeCancel_iff_kind hattempt (howner.trans hrowID.symm) (hid ▸ hactive)
    cases bumpingCancel with
    | true =>
      have hbump := hcancel.mpr (of_decide_eq_true hbumping)
      exact hspend.persisted rfl rfl rfl rfl
        (hspent.canceledInsert rfl rfl rfl rfl hkind hfree ((hspent.live hlive).intent hbump) rfl)
    | false =>
      have hother := mt hcancel.mp (of_decide_eq_false hbumping)
      have hreplacement : signed.kind = .replacement := hkind
      have hforeign : signed.kind ≠ .cancel := hreplacement.trans_ne (by decide)
      have hlater : signed.kind ≠ .original := hreplacement.trans_ne (by decide)
      exact hspend.persisted rfl rfl rfl rfl
        (hspent.inserted rfl rfl rfl rfl hforeign hlive hother
          (fun horiginal => absurd horiginal hlater) (fun _ => hfree)
          (fun _ => rfl) (fun hsome => absurd rfl hsome))

theorem Spend.signed {signed : SignedAttempt} (hsound : Sound before.db.tx)
    (hop : move.op = some (.tx (.insertSignedAttempt now row.id token signed)))
    (hstatus : row.status = .nonceAssigned) :
    Spend (persistedTx .signing before.db.tx now signed row) before.sessions requests cancels := by
  obtain ⟨session, -, now', made, hcall⟩ := session_of_persists hstep hop rfl
  rw [Session.insertCall] at hcall
  cases htask : session.task with
  | replace | cancel => simp [htask] at hcall
  | sign =>
    simp only [htask, TxOp.insertSignedAttempt.injEq] at hcall
    have horiginal : signed.kind = .original := by
      rw [hcall.2.2.2]
      rfl
    have hmem := mem_of_find hrow
    have hspent := hspend.rows row hmem
    have hlive : row.status.terminal = false := by
      rw [hstatus]
      rfl
    have hnone := no_attempt_of_inactive hsound hmem ((hsound.rows row hmem).assigned hstatus).1
    obtain ⟨hother, hcount⟩ := accounts_of_no_attempt hnone
    have hforeign : signed.kind ≠ .cancel := horiginal.trans_ne (by decide)
    have hfirst : signed.kind ≠ .replacement := horiginal.trans_ne (by decide)
    refine hspend.persisted rfl rfl rfl rfl
      (hspent.inserted rfl rfl rfl rfl hforeign hlive hother
        (fun _ => hcount _) (fun hreplacement => absurd hreplacement hfirst)
        (fun hintent => (hspent.live hlive).dormant hintent hother) (fun _ => ⟨?_, hfirst⟩))
    rw [hcount]
    exact Nat.lt_of_lt_of_le (by decide) (Nat.le_add_right _ _)

/-- A cancel insert is the first one, as its session was offered a row whose
active attempt is none. -/
theorem Spend.canceled {signed : SignedAttempt}
    (hop : move.op = some (.tx (.insertCancelAttempt now row.id expected token signed)))
    (hkind : signed.kind = .cancel) (hintent : row.cancelRequestedAt ≠ none)
    (hactive : row.activeAttemptID.getD 0 = expected) (hlive : row.status.terminal = false) :
    Spend (persistedTx .cancel before.db.tx now signed row) before.sessions requests cancels := by
  obtain ⟨session, hsession, now', made, hcall⟩ := session_of_persists hstep hop rfl
  have hoffer := hspend.sessions session hsession
  have hmem := mem_of_find hrow
  have hspent := hspend.rows row hmem
  rw [Session.insertCall] at hcall
  cases htask : session.task with
  | sign | replace => simp [htask] at hcall
  | cancel named =>
    simp only [htask, TxOp.insertCancelAttempt.injEq] at hcall
    obtain ⟨-, hrowID, rfl, -, -⟩ := hcall
    simp only [SessionSpend, htask] at hoffer
    have hother := hoffer.2 row hmem hrowID hlive hactive
    have hold := hspent.live hlive
    have hfree : kindCount before.db.tx.attempts row.id .cancel <
        txMaxReplacements + cancels row.id := by
      rw [hold.fresh hother]
      exact Nat.lt_of_lt_of_le (by decide) (Nat.le_add_right _ _)
    exact hspend.persisted rfl rfl rfl rfl
      (hspent.canceledInsert rfl rfl rfl rfl hkind hfree hintent (hold.dormant hintent hother))

end Inserted

theorem spend_call (hspend : Spend before.db.tx before.sessions
      (replacementRequests history) (cancelRequests history))
    (hsound : Sound before.db.tx) (hstep : FleetStep before move after)
    (hop : move.op = some (.tx op)) (hpost : after.db = op.apply before.db)
    (hsoundAfter : Sound after.db.tx) : Spend after.db.tx before.sessions
      (replacementRequests (⟨before, move, after⟩ :: history))
      (cancelRequests (⟨before, move, after⟩ :: history)) := by
  have hgrows : ∀ id, replacementRequests history id ≤
      replacementRequests (⟨before, move, after⟩ :: history) id := fun _ => countP_le_cons
  have hgrows' : ∀ id, cancelRequests history id ≤
      cancelRequests (⟨before, move, after⟩ :: history) id := fun _ => countP_le_cons
  have haccount := accountStep_txOp hsound op
  rw [← hpost] at haccount
  generalize after.db.tx = final at haccount hsoundAfter ⊢
  cases haccount with
  | kept hrows hattempts => exact hspend.kept hgrows hgrows' hsoundAfter hrows hattempts
  | signed hrow hstatus => exact (hspend.signed hstep hrow hsound hop hstatus).mono hgrows hgrows'
  | replaced hrow hactive hlive =>
    exact (hspend.replaced hstep hrow hop hactive hlive).mono hgrows hgrows'
  | canceled hkind hrow hcancel hactive hlive =>
    exact (hspend.canceled hstep hrow hop hkind hcancel hactive hlive).mono hgrows hgrows'
  | @replacementRequested now row hid hrow hallowed =>
    obtain rfl := call_of_request hstep hop (.inl ⟨_, _, rfl⟩)
    have hcounted : replacementRequests
        (⟨before, .call (.tx (.requestTxReplacement now row.id)), after⟩ :: history) =
        bumped (replacementRequests history) row.id := countP_cons_eq (fun _ => by
      simp only [requestsReplacement, requestTxReplacement_ok hid hrow hallowed, and_true]) history
    rw [hcounted]
    exact (hspend.replacementRequested hrow hallowed).mono (fun _ => le_rfl) hgrows'
  | @cancelRequested now row hid hrow hnonce hallowed hreceipt =>
    obtain rfl := call_of_request hstep hop (.inr ⟨_, _, rfl⟩)
    have hcounted : cancelRequests
        (⟨before, .call (.tx (.requestTxCancel now row.id)), after⟩ :: history) =
        bumped (cancelRequests history) row.id := countP_cons_eq (fun _ => by
      simp only [requestsCancel, requestTxCancel_ok hid hrow hnonce hallowed hreceipt, and_true])
      history
    rw [hcounted]
    exact (hspend.cancelRequested hrow (cancelAllowed_open hallowed).1).mono
      hgrows (fun _ => le_rfl)

theorem replacementCount_eq (tx : TxTables) (row : OutboxRow) (active : AttemptKind) :
    replacementCount tx row active = kindCount tx.attempts row.id (replacementKind active) := by
  rw [replacementCount, kindCount, countP_eq_length_filter]

theorem sessionSpend_offered {db : DB} {session : Session}
    (hspend : Spend db.tx sessions requests cancels) (hoffered : Offered db session) :
    SessionSpend db.tx requests cancels session := by
  unfold Offered at hoffered
  unfold SessionSpend
  split
  · trivial
  · rename_i expected bumpingCancel htask
    simp only [htask] at hoffered
    obtain ⟨now, lane, staleAfter, row, attempt, hnext, hrowID, rfl, hkind⟩ := hoffered
    obtain ⟨hrow, hoffer⟩ := nextReplacementCandidate_offer hnext
    obtain ⟨hattempt, hpointer, howner⟩ := activeAttempt_eq_some.mp hoffer.active
    refine ⟨⟨attempt, hattempt, rfl, howner.trans hrowID, hkind⟩, ?_⟩
    intro other hother hotherID hlive _
    obtain rfl : other = row := eq_of_key_eq hother hrow (hotherID.trans hrowID.symm)
    have hspent := (hspend.rows other hrow).live hlive
    have hcount := replacementCount_eq db.tx other attempt.kind
    have hactive := activeCancel_iff_kind hattempt howner hpointer
    cases bumpingCancel with
    | true =>
      have hcancel := of_decide_eq_true hkind
      rw [if_pos rfl]
      rcases hoffer.authorized with hpending | hcap
      · exact hspent.bump hpending (hactive.mpr hcancel)
      · rw [hcount, hcancel] at hcap
        exact lt_of_lt_of_le hcap (Nat.le_add_right _ _)
    | false =>
      have hforeign := of_decide_eq_false hkind
      rw [if_neg Bool.false_ne_true]
      rcases hoffer.authorized with hpending | hcap
      · exact hspent.replace hpending (mt hactive.mp hforeign)
      · rw [hcount, replacementKind, if_neg hforeign] at hcap
        exact lt_of_lt_of_le hcap (Nat.le_add_right _ _)
  · rename_i expected htask
    simp only [htask] at hoffered
    obtain ⟨now, lane, peeked, hnext, hrowID, rfl⟩ := hoffered
    obtain ⟨hrow, hoffer⟩ := nextCancelCandidate_offer hnext
    constructor
    · cases hactive : peeked.active with
      | none => exact hspend.positive
      | some attempt =>
        have hattempt := (activeAttempt_eq_some.mp (hoffer.joined.trans hactive)).1
        exact key_lt_next hattempt
    · intro other hother hotherID _ _
      obtain rfl : other = peeked.row := eq_of_key_eq hother hrow (hotherID.trans hrowID.symm)
      rintro ⟨attempt, hattempt, hpointer, howner, hcancel⟩
      have hactive := activeAttempt_eq_some.mpr ⟨hattempt, hpointer, howner⟩
      exact hoffer.uncanceled attempt (hoffer.joined.symm.trans hactive) hcancel

variable {history : List (Event Fleet Move)}

theorem spend_step (hspend : Spend before.db.tx before.sessions
      (replacementRequests history) (cancelRequests history))
    (hsound : Sound before.db.tx) (hsoundAfter : Sound after.db.tx)
    (hstep : OfferedStep before move after) : Spend after.db.tx after.sessions
      (replacementRequests (⟨before, move, after⟩ :: history))
      (cancelRequests (⟨before, move, after⟩ :: history)) := by
  obtain ⟨hfleet, hoffered⟩ := hstep
  rcases step_of_fleetStep hfleet with ⟨session, rfl, -, rfl⟩ | ⟨op, hop, rfl⟩
  · refine Spend.mono ⟨hspend.rows, ?_, hspend.positive⟩
      (fun _ => countP_le_cons) (fun _ => countP_le_cons)
    intro session hsession
    rcases mem_cons.mp hsession with rfl | hold
    · exact sessionSpend_offered hspend hoffered
    · exact hspend.sessions session hold
  · cases op with
    | work op =>
      simp only [Op.apply, workOp_apply_tx]
      exact hspend.mono (fun _ => countP_le_cons) (fun _ => countP_le_cons)
    | tx op => exact spend_call hspend hsound hfleet hop rfl hsoundAfter

theorem spend_run {fleet : Fleet} (hrun : OfferedRun history fleet) :
    Spend fleet.db.tx fleet.sessions (replacementRequests history) (cancelRequests history) := by
  induction hrun with
  | start => exact ⟨fun row hrow => absurd hrow (not_mem_empty row), nofun, Nat.one_pos⟩
  | extend before last ih =>
    exact spend_step ih (sound_offeredRun before) (sound_offeredRun (before.extend last)) last

/-! ## Broadcasts -/

/-- Attempts that keep their broadcast counts, and new ones that start at
zero. -/
structure CountsKept (old new : Attempts) : Prop where
  back : ∀ attempt ∈ new,
    (∃ before ∈ old, before.id = attempt.id ∧ before.broadcastCount = attempt.broadcastCount) ∨
    (attempt.id = old.next ∧ attempt.broadcastCount = 0)
  forth : ∀ attempt ∈ old, ∃ after ∈ new, after.id = attempt.id

theorem CountsKept.refl (attempts : Attempts) : CountsKept attempts attempts :=
  ⟨fun attempt hattempt => .inl ⟨attempt, hattempt, rfl, rfl⟩,
    fun attempt hattempt => ⟨attempt, hattempt, rfl⟩⟩

theorem CountsKept.set {old new : AttemptRow} (hold : old ∈ attempts) (hid : new.id = old.id)
    (hcount : new.broadcastCount = old.broadcastCount) :
    CountsKept attempts (attempts.set new) where
  back attempt hattempt := by
    rcases mem_of_mem_set hattempt with rfl | ⟨hother, -⟩
    · exact .inl ⟨old, hold, hid.symm, hcount.symm⟩
    · exact .inl ⟨attempt, hother, rfl, rfl⟩
  forth attempt hattempt := by
    by_cases hsame : attempt.id = new.id
    · exact ⟨new, mem_set_self hold hid, hsame.symm⟩
    · exact ⟨attempt, mem_set_of_ne hattempt hsame, rfl⟩

theorem CountsKept.append (hid : attempt.id = attempts.next) (hcount : attempt.broadcastCount = 0) :
    CountsKept attempts (attempts.append attempt hid) where
  back other hother := by
    rcases (mem_append hid).mp hother with hold | rfl
    · exact .inl ⟨other, hold, rfl, rfl⟩
    · exact .inr ⟨hid, hcount⟩
  forth other hother := ⟨other, mem_append_of_mem hid hother, rfl⟩

/-- The calls that count broadcasts. -/
def claimsBroadcast : TxOp → Bool
  | .claimAttemptForBroadcast .. => true
  | _ => false

theorem countsKept_txOp (db : DB) (op : TxOp) (hother : claimsBroadcast op = false) :
    CountsKept db.tx.attempts (op.apply db).tx.attempts := by
  have heffect := txOp_effect db op
  generalize hpost : op.apply db = post at heffect
  cases heffect with
  | quiet hop _ =>
    have hquiet := quiet_effect db op hop
    rw [hpost] at hquiet
    generalize post.tx = after at hquiet ⊢
    cases hquiet with
    | cursors _ hattempts =>
      rw [hattempts]
      exact .refl _
    | signed | replaced | canceled => exact .append rfl rfl
    | parked | broadcast => cases hother
    | outdated hattempt _ _ | reported hattempt _ _ _ _ _ =>
      exact .set (mem_of_find hattempt) rfl rfl
    | reconciled =>
      rw [(decided_applyDecisions _ _ _ (_, 0)).attempts]
      exact .refl _
    | noted | assigned | signing | replacing | canceling | charged
    | replacementRequested | cancelRequested => exact .refl _
  | operatorRetry hresult | automaticRetry hresult => cases hresult <;> exact .refl _
  | finalized hreceipt _ _ => exact .set (mem_of_find hreceipt.found) rfl rfl
  | unchanged | enqueuedTx | enqueuedPricing | enqueuedExecutor | enqueuedDVN
  | reverted | pinned | resolved | abandoned => exact .refl _

/-- Every attempt was claimed as often as its row says, and never past the
budget. -/
structure Broadcasts (history : List (Event Fleet Move)) (attempts : Attempts) : Prop where
  counted : ∀ attempt ∈ attempts, history.countP (claimsAttempt attempt.id) = attempt.broadcastCount
  bounded : ∀ attempt ∈ attempts, attempt.broadcastCount ≤ txMaxBroadcasts
  unknown : ∀ id, (∀ attempt ∈ attempts, attempt.id ≠ id) → history.countP (claimsAttempt id) = 0

theorem Broadcasts.kept (hcounts : Broadcasts history old) (hkept : CountsKept old new)
    (hevent : ∀ id, claimsAttempt id event = false) : Broadcasts (event :: history) new := by
  have hcons : ∀ id, (event :: history).countP (claimsAttempt id) =
      history.countP (claimsAttempt id) := by
    intro id
    rw [countP_cons, hevent id]
    rfl
  refine ⟨fun attempt hattempt => ?_, fun attempt hattempt => ?_, fun id hunknown => ?_⟩
  · rw [hcons]
    rcases hkept.back attempt hattempt with
      ⟨before, hbefore, hid, hcount⟩ | ⟨hid, hcount⟩
    · rw [← hid, hcounts.counted before hbefore, hcount]
    · rw [hcount, hid]
      refine hcounts.unknown _ fun before hbefore => ?_
      exact (key_lt_next hbefore).ne
  · rcases hkept.back attempt hattempt with
      ⟨before, hbefore, -, hcount⟩ | ⟨-, hcount⟩
    · exact hcount ▸ hcounts.bounded before hbefore
    · rw [hcount]
      exact Nat.zero_le _
  · rw [hcons]
    refine hcounts.unknown id fun attempt hattempt => ?_
    obtain ⟨after, hafter, hid⟩ := hkept.forth attempt hattempt
    exact hid ▸ hunknown after hafter

theorem Broadcasts.claimed {old new : AttemptRow} (hcounts : Broadcasts history attempts)
    (hold : old ∈ attempts) (hid : new.id = old.id)
    (hcount : new.broadcastCount = old.broadcastCount + 1)
    (hbudget : old.broadcastCount < txMaxBroadcasts)
    (hevent : ∀ id, claimsAttempt id event = decide (old.id = id)) :
    Broadcasts (event :: history) (attempts.set new) := by
  have hcons := congrFun (countP_cons_eq hevent history)
  simp only [bumped] at hcons
  refine ⟨fun attempt hattempt => ?_, fun attempt hattempt => ?_, fun id hunknown => ?_⟩
  · rcases mem_of_mem_set hattempt with rfl | ⟨hother, hne⟩
    · rw [hcons, hid, hcounts.counted old hold, if_pos rfl, hcount]
    · rw [hcons, hcounts.counted attempt hother, if_neg, Nat.add_zero]
      exact fun hsame => hne (hsame.trans hid.symm)
  · rcases mem_of_mem_set hattempt with rfl | ⟨hother, -⟩
    · rw [hcount]
      exact hbudget
    · exact hcounts.bounded attempt hother
  · have hnew := hunknown new (mem_set_self hold hid)
    rw [hcons, if_neg (hid ▸ hnew.symm), Nat.add_zero]
    refine hcounts.unknown id fun attempt hattempt => ?_
    by_cases hsame : attempt.id = new.id
    · exact hsame ▸ hnew
    · exact hunknown attempt (mem_set_of_ne hattempt hsame)

theorem claimsAttempt_eq_false
    (hother : ∀ op, event.label = .call (.tx op) → claimsBroadcast op = false) (id : ℕ) :
    claimsAttempt id event = false := by
  unfold claimsAttempt
  split
  · rename_i hlabel
    cases hother _ hlabel
  · rfl

theorem Broadcasts.claim {lane : Lane} {leaseTTL : Duration} {locked : List ℕ}
    (hcounts : Broadcasts history before.db.tx.attempts)
    (hpost : after.db = (claimAttemptForBroadcast before.db now lane token leaseTTL locked).1) :
    Broadcasts (⟨before, .call (.tx (.claimAttemptForBroadcast now lane token
        leaseTTL locked)), after⟩ :: history) after.db.tx.attempts := by
  have houtcome := claimAttemptForBroadcast_outcome before.db now lane token leaseTTL locked
  have hevent : ∀ id, claimsAttempt id ⟨before, .call (.tx (.claimAttemptForBroadcast now lane
      token leaseTTL locked)), after⟩ =
        match (claimAttemptForBroadcast before.db now lane token leaseTTL locked).2 with
        | .ok claim => decide (claim.attemptID = id)
        | .error _ => false := fun _ => rfl
  rw [hpost]
  generalize claimAttemptForBroadcast before.db now lane token leaseTTL locked = result
    at houtcome hevent ⊢
  cases houtcome with
  | refused | parked => exact hcounts.kept (.refl _) hevent
  | claimed hpick =>
    obtain ⟨-, hactive, -, -, hbudget, -⟩ := broadcastPick_spec hpick
    exact hcounts.claimed (activeAttempt_eq_some.mp hactive).1 rfl rfl hbudget hevent

theorem broadcasts_step (hcounts : Broadcasts history before.db.tx.attempts)
    (hstep : FleetStep before move after) :
    Broadcasts (⟨before, move, after⟩ :: history) after.db.tx.attempts := by
  have hcall : ∀ op, after.db = TxOp.apply before.db op → claimsBroadcast op = false →
      (∀ op, move = .call (.tx op) → claimsBroadcast op = false) →
      Broadcasts (⟨before, move, after⟩ :: history) after.db.tx.attempts := by
    intro op hpost hother hlabel
    rw [hpost]
    exact hcounts.kept (countsKept_txOp before.db op hother) (claimsAttempt_eq_false hlabel)
  cases hstep with
  | start fresh =>
    exact hcounts.kept (.refl _) (claimsAttempt_eq_false fun _ hlabel => by
      cases hlabel)
  | @claim session now lane leaseTTL started | @insert session now signed started =>
    refine hcall _ rfl ?_ fun _ hlabel => by cases hlabel
    cases htask : session.task <;>
      simp [Session.claimCall, Session.insertCall, htask, claimsBroadcast]
  | @call op free =>
    cases op with
    | work op =>
      have htx : (Op.apply before.db (.work op)).tx = before.db.tx := workOp_apply_tx before.db op
      dsimp only
      rw [htx]
      exact hcounts.kept (.refl _) (claimsAttempt_eq_false fun _ hlabel => by
        cases hlabel)
    | tx op =>
      by_cases hclaims : claimsBroadcast op = true
      · cases op with
        | claimAttemptForBroadcast => exact hcounts.claim rfl
        | _ => cases hclaims
      · have hother := Bool.eq_false_iff.mpr hclaims
        exact hcall op rfl hother fun _ hlabel => by
          cases hlabel
          exact hother

theorem broadcasts_run {fleet : Fleet} (hrun : FleetRun history fleet) :
    Broadcasts history fleet.db.tx.attempts := by
  induction hrun with
  | start =>
    exact ⟨fun _ hattempt => absurd hattempt (not_mem_empty _),
      fun _ hattempt => absurd hattempt (not_mem_empty _), fun _ _ => rfl⟩
  | extend before last ih => exact broadcasts_step ih last

/-! ## The bound -/

/-- Bounded spend: whatever the managers of the fleet and everybody else do, no
attempt is handed to a node more often than its budget, and no row has more than
one original attempt, than the capped replacements and one for every committed
replacement request, and than the capped cancels and one for every committed
cancel request. -/
theorem bounded_spend {history : List (Event Fleet Move)} {fleet : Fleet}
    (hrun : OfferedRun history fleet) :
    (∀ attemptID, history.countP (claimsAttempt attemptID) ≤ txMaxBroadcasts) ∧
    ∀ row ∈ fleet.db.tx.outbox, kindCount fleet.db.tx.attempts row.id .original ≤ 1 ∧
      kindCount fleet.db.tx.attempts row.id .replacement ≤
        txMaxReplacements + history.countP (requestsReplacement row.id) ∧
      kindCount fleet.db.tx.attempts row.id .cancel ≤
        txMaxReplacements + history.countP (requestsCancel row.id) := by
  constructor
  · intro attemptID
    have hcounts := broadcasts_run hrun.fleetRun
    by_cases hknown : ∃ attempt ∈ fleet.db.tx.attempts, attempt.id = attemptID
    · obtain ⟨attempt, hattempt, rfl⟩ := hknown
      rw [hcounts.counted attempt hattempt]
      exact hcounts.bounded attempt hattempt
    · push Not at hknown
      rw [hcounts.unknown attemptID hknown]
      exact Nat.zero_le _
  · intro row hrow
    have hspent := (spend_run hrun).rows row hrow
    exact ⟨hspent.original, hspent.replaced, hspent.canceled⟩

def keeper : Lane := ⟨1, "keeper"⟩

/-- A signature of the lane's first nonce. -/
def signature (kind : AttemptKind) (hash : ℕ) (token : UUID) : SignedAttempt where
  kind := kind
  nonce := 7
  txType := 0
  txHash := .ofNat 32 hash
  rawTx := [1]
  gasLimit := 21000
  maxFeePerGas := hash
  maxPriorityFeePerGas := none
  signingToken := token

/-- A session peeks, claims and inserts; its attempt is sent and accepted. -/
def sendPasses (peek : Pass) (now : Time) (token : UUID) (kind : AttemptKind) (number : ℕ) :
    List Pass :=
  [peek, .claim token now keeper minute, .insert token now (signature kind number token),
    .call (.tx (.claimAttemptForBroadcast now keeper token minute [])),
    .call (.tx (.markAttemptSendResult now number token .accepted ""))]

def pricePasses : List Pass :=
  [.call (.work (.syncConfig ⟨[1], []⟩)), .call (.tx (.bootstrapTxNonceCursor keeper 7)),
    .call (.tx (.enqueuePricingSnapshotTx 0 (firstRequest 1 .pricingSetPriceSnapshot)))]

/-- One price snapshot is signed and sent. -/
def sentPasses : List Pass := pricePasses ++ sendPasses (.sign 9 0 keeper) 0 9 .original 1

/-- The operator asks for a replacement, and later cancels. -/
def bumpedPasses : List Pass := sentPasses ++ .call (.tx (.requestTxReplacement 1 1)) ::
      sendPasses (.replace 10 1 keeper minute) 1 10 .replacement 2 ++
        .call (.tx (.requestTxCancel 2 1)) :: sendPasses (.cancel 11 2 keeper) 2 11 .cancel 3

theorem bumpedPasses_spend : ∃ history fleet, OfferedRun history fleet ∧ ∃ row ∈ fleet.db.tx.outbox,
        kindCount fleet.db.tx.attempts row.id .cancel = 1 ∧
        kindCount fleet.db.tx.attempts row.id .replacement = 1 ∧
        kindCount fleet.db.tx.attempts row.id .replacement ≤
          txMaxReplacements + history.countP (requestsReplacement row.id) := by
  obtain ⟨history, fleet, hrun, hcheck⟩ := offeredRun_of_passes bumpedPasses
    (fun fleet => fleet.db.tx.outbox.rows.any fun row =>
      decide (kindCount fleet.db.tx.attempts row.id .cancel = 1 ∧
        kindCount fleet.db.tx.attempts row.id .replacement = 1)) (by decide +kernel)
  obtain ⟨row, hrow, hcounts⟩ := any_eq_true.mp hcheck
  obtain ⟨hcancel, hreplacement⟩ := of_decide_eq_true hcounts
  exact ⟨history, fleet, hrun, row, hrow, hcancel, hreplacement,
    ((bounded_spend hrun).2 row hrow).2.1⟩

end Lazier.Signer
