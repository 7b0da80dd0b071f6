import Lazier.Signer.BoundedSpend
import Lazier.Signer.LaneFit

/-!
# Leases of offered sessions

A lease on a row is the work of one session, and the session was opened on the
attempt that is still active.  A replacement is offered over an attempt that has
been sent, a cancel over an attempt that is not a cancel, so the active attempt
of a leased row is never a cancel the manager has yet to send.
-/

namespace Lazier.Signer

open Library Store Ledger Manager SerialTable

variable {new : OutboxRow} {db : DB} {before : Fleet} {move : Move} {sessions : List Session}

/-- Where the lease of a row comes from. -/
inductive LeaseSource (tx : TxTables) (op : TxOp) (row : OutboxRow) : Prop
  | free (hfree : row.lease = none)
  | kept {old : OutboxRow} (hold : old ∈ tx.outbox) (hid : row.id = old.id)
      (hlease : row.lease = old.lease) (hactive : row.activeAttemptID = old.activeAttemptID)
  | signing {now : Time} {lane : Lane} {token : UUID} {leaseTTL : Duration}
      (hop : op = .claimOutboxForSigning now row.id lane token leaseTTL)
      (hlease : row.lease = some ⟨token, now + leaseTTL⟩) (hinactive : row.activeAttemptID = none)
  | replacing {now : Time} {expected : ℕ} {token : UUID} {leaseTTL : Duration}
      (hop : op = .claimOutboxForReplacementSigning now row.id expected token leaseTTL)
      (hlease : row.lease = some ⟨token, now + leaseTTL⟩)
      (hactive : row.activeAttemptID = some expected)
  | canceling {now : Time} {expected : ℕ} {token : UUID} {leaseTTL : Duration}
      (hop : op = .claimOutboxForCancelSigning now row.id expected token leaseTTL)
      (hlease : row.lease = some ⟨token, now + leaseTTL⟩)
      (hactive : row.activeAttemptID.getD 0 = expected)

variable {tx after : TxTables} {op : TxOp}

theorem leaseSource_setRow {base : TxTables} (houtbox : base.outbox = tx.outbox)
    (hnew : LeaseSource tx op new) : ∀ row ∈ (base.setRow new).outbox, LeaseSource tx op row := by
  intro row hrow
  rcases mem_setRow hrow with rfl | ⟨hold, -⟩
  · exact hnew
  · exact .kept (houtbox ▸ hold) rfl rfl rfl

theorem leaseSource_addRow {hid : new.id = tx.outbox.next} (hfree : new.lease = none) :
    ∀ row ∈ (tx.addRow new hid).outbox, LeaseSource tx op row := by
  intro row hrow
  rcases mem_addRow hid hrow with hold | rfl
  · exact .kept hold rfl rfl rfl
  · exact .free hfree

theorem leaseSource_parkExhaustedLanes {now : Time} {lane : Lane} :
    ∀ row ∈ (parkExhaustedLanes tx now lane).outbox, LeaseSource tx op row := by
  intro row hrow
  obtain ⟨old, hold, rfl⟩ := mem_mapRows.mp hrow
  unfold parkExhausted
  split <;> exact .kept hold rfl rfl rfl

theorem leaseSource_effect (hsound : Sound tx) (heffect : Effect tx op after) :
    ∀ row ∈ after.outbox, LeaseSource tx op row := by
  cases heffect with
  | cursors houtbox _ =>
    intro row hrow
    exact .kept (houtbox ▸ hrow) rfl rfl rfl
  | noted _ _ _ _ _ hrow _ | reported _ _ _ hrow _ _ | replacementRequested _ hrow _ =>
    exact leaseSource_setRow rfl (.kept (mem_of_find hrow) rfl rfl rfl)
  | assigned hrow _ hnonce _ _ =>
    have hbare := (hsound.rows _ (mem_of_find hrow)).bare hnonce
    exact leaseSource_setRow rfl (.signing rfl rfl hbare.2.1)
  | signing hrow hstatus hnonce _ _ =>
    have hfit := hsound.rows _ (mem_of_find hrow)
    refine leaseSource_setRow rfl (.signing rfl rfl ?_)
    rcases hstatus with hqueued | hassigned
    · exact absurd (hfit.queued hqueued) hnonce
    · exact (hfit.assigned hassigned).1
  | replacing _ _ hactive _ _ => exact leaseSource_setRow rfl (.replacing rfl rfl hactive)
  | canceling _ _ _ hactive _ => exact leaseSource_setRow rfl (.canceling rfl rfl hactive)
  | signed | replaced | canceled | charged | cancelRequested =>
    exact leaseSource_setRow rfl (.free rfl)
  | parked | broadcast => exact leaseSource_parkExhaustedLanes
  | outdated => exact fun row hrow => .kept hrow rfl rfl rfl
  | reconciled =>
    intro row hrow
    obtain ⟨old, hold, hrel⟩ := (decided_applyDecisions _ _ _ (_, 0)).back hrow
    cases hrel <;> exact .kept hold rfl rfl rfl

theorem leaseSource_retry {result : Result ℕ} (hresult : RetryResult db op result) :
    ∀ row ∈ result.1.tx.outbox, LeaseSource db.tx op row := by
  cases hresult with
  | refused => exact fun row hrow => .kept hrow rfl rfl rfl
  | deferred row now _ _ hfound _ _ | requeued row now _ hfound _ _ _ _ =>
    exact leaseSource_setRow rfl (.kept (mem_of_find hfound) rfl rfl rfl)
  | settled row now _ hrow _ =>
    exact leaseSource_setRow rfl (.kept (mem_of_find hrow.found) rfl rfl rfl)
  | cloned row now _ hrow _ _ _ =>
    intro other hother
    rcases mem_setRow hother with rfl | ⟨hadded, -⟩
    · exact .kept (mem_of_find hrow.found) rfl rfl rfl
    · exact leaseSource_addRow rfl other hadded

theorem leaseSource_txOp (hsound : Sound db.tx) (op : TxOp) :
    ∀ row ∈ (op.apply db).tx.outbox, LeaseSource db.tx op row := by
  have heffect := txOp_effect db op
  generalize hpost : op.apply db = post at heffect
  cases heffect with
  | unchanged => exact fun row hrow => .kept hrow rfl rfl rfl
  | quiet hop _ =>
    rw [← hpost]
    exact leaseSource_effect hsound (quiet_effect db op hop)
  | enqueuedTx | enqueuedPricing | enqueuedExecutor | enqueuedDVN => exact leaseSource_addRow rfl
  | reverted _ hrow _ _ => exact leaseSource_setRow rfl (.kept (mem_of_find hrow) rfl rfl rfl)
  | operatorRetry hresult | automaticRetry hresult => exact leaseSource_retry hresult
  | pinned hreceipt _ _ =>
    exact leaseSource_setRow rfl (.kept (mem_of_find hreceipt.owner) rfl rfl rfl)
  | finalized | abandoned => exact leaseSource_setRow rfl (.free rfl)
  | resolved =>
    intro other hother
    rcases mem_addRow _ hother with hold | rfl
    · exact leaseSource_setRow rfl (.free rfl) other hold
    · exact .free rfl

/-- A row and the session that holds its lease. -/
def TaskFits (session : Session) (row : OutboxRow) : Prop := session.outboxID = row.id ∧
    match session.task with
    | .sign => row.activeAttemptID = none
    | .replace expected _ => row.activeAttemptID = some expected
    | .cancel expected => row.activeAttemptID.getD 0 = expected

structure LeaseBound (sessions : List Session) (tx : TxTables) : Prop where
  bound : ∀ row ∈ tx.outbox, ∀ lease, row.lease = some lease →
    ∀ session ∈ sessions, session.token = lease.token → TaskFits session row
  sent : ∀ session ∈ sessions, ∀ expected bumpingCancel,
    session.task = .replace expected bumpingCancel →
      ∃ attempt ∈ tx.attempts, attempt.id = expected ∧ 0 < attempt.broadcastCount

theorem LeaseBound.empty : LeaseBound [] TxTables.empty where
  bound row hrow := absurd hrow (not_mem_empty row)
  sent _ hsession := absurd hsession List.not_mem_nil

theorem LeaseBound.call {after : Fleet} (hbound : LeaseBound before.sessions before.db.tx)
    (hsound : Sound before.db.tx) (hleases : LeaseSound before.sessions before.db.tx)
    (hextends : Extends before.db.tx (op.apply before.db).tx) (hstep : FleetStep before move after)
    (hop : move.op = some (.tx op)) : LeaseBound before.sessions (op.apply before.db).tx where
  bound row hrow lease hlease session hsession htoken := by
    -- The session whose claim has just committed is the one that holds the token.
    have hclaimed : leasesRow op = true →
        (∀ caller now lane leaseTTL, op = caller.claimCall now lane leaseTTL →
          caller.token = lease.token ∧ TaskFits caller row) →
        TaskFits session row := by
      intro hcalls hfits
      obtain ⟨caller, hcaller, now, lane, leaseTTL, hcall⟩ := session_of_leases hstep hop hcalls
      obtain ⟨hsame, hfit⟩ := hfits caller now lane leaseTTL hcall
      obtain rfl := hleases.distinct session hsession caller hcaller (htoken.trans hsame.symm)
      exact hfit
    cases leaseSource_txOp hsound op row hrow with
    | free hfree =>
      rw [hfree] at hlease
      cases hlease
    | kept hold hid hkept hactive =>
      have hfit := hbound.bound _ hold lease (hkept ▸ hlease) session hsession htoken
      unfold TaskFits at hfit ⊢
      rw [hid, hactive]
      exact hfit
    | signing hcall hleased hinactive =>
      subst hcall
      refine hclaimed rfl fun caller now lane leaseTTL hcaller => ?_
      cases htask : caller.task <;>
        simp only [Session.claimCall, htask, reduceCtorEq,
          TxOp.claimOutboxForSigning.injEq] at hcaller
      obtain ⟨-, hid, -, rfl, -⟩ := hcaller
      rw [hleased] at hlease
      cases hlease
      exact ⟨rfl, hid.symm, by rw [htask]; exact hinactive⟩
    | replacing hcall hleased hactive | canceling hcall hleased hactive =>
      subst hcall
      refine hclaimed rfl fun caller now lane leaseTTL hcaller => ?_
      cases htask : caller.task <;>
        simp only [Session.claimCall, htask, reduceCtorEq,
          TxOp.claimOutboxForReplacementSigning.injEq,
          TxOp.claimOutboxForCancelSigning.injEq] at hcaller
      obtain ⟨-, hid, rfl, rfl, -⟩ := hcaller
      rw [hleased] at hlease
      cases hlease
      exact ⟨rfl, hid.symm, by rw [htask]; exact hactive⟩
  sent session hsession expected bumpingCancel htask := by
    obtain ⟨attempt, hattempt, hid, hcount⟩ :=
      hbound.sent session hsession expected bumpingCancel htask
    obtain ⟨later, hlater, hgrown⟩ := hextends.attempts attempt hattempt
    exact ⟨later, hlater, hgrown.id.trans hid, hcount.trans_le hgrown.count⟩

theorem LeaseBound.start {session : Session} (hbound : LeaseBound sessions tx)
    (hleases : LeaseSound sessions tx) (hfresh : ∀ known ∈ sessions, known.token ≠ session.token)
    (hsent : ∀ expected bumpingCancel, session.task = .replace expected bumpingCancel →
        ∃ attempt ∈ tx.attempts, attempt.id = expected ∧ 0 < attempt.broadcastCount) :
    LeaseBound (session :: sessions) tx where
  bound row hrow lease hlease other hother htoken := by
    rcases List.mem_cons.mp hother with rfl | hknown
    · obtain ⟨owner, howner, hownerToken⟩ := hleases.owned row hrow lease hlease
      exact absurd (hownerToken.trans htoken.symm) (hfresh owner howner)
    · exact hbound.bound row hrow lease hlease other hknown htoken
  sent other hother := by
    rcases List.mem_cons.mp hother with rfl | hknown
    · exact hsent
    · exact hbound.sent other hknown

/-! ## The lanes of an offered fleet -/

theorem leasedSent_of_leaseBound {requests cancels : ℕ → ℕ} (hsound : Sound tx)
    (hleases : LeaseSound sessions tx) (hbound : LeaseBound sessions tx)
    (hspend : Spend tx sessions requests cancels) : LeasedSent tx := by
  intro row hrow hlive hleased attempt hactive hkind
  obtain ⟨lease, hlease⟩ := Option.ne_none_iff_exists'.mp hleased
  obtain ⟨session, hsession, htoken⟩ := hleases.owned row hrow lease hlease
  obtain ⟨hid, hfit⟩ := hbound.bound row hrow lease hlease session hsession htoken
  obtain ⟨hmem, hpointer, howner⟩ := activeAttempt_eq_some.mp hactive
  cases htask : session.task with
  | sign =>
    rw [htask] at hfit
    rw [hfit] at hpointer
    cases hpointer
  | replace expected bumpingCancel =>
    rw [htask] at hfit
    obtain ⟨known, hknown, hknownID, hcount⟩ :=
      hbound.sent session hsession expected bumpingCancel htask
    have hsame : known.id = attempt.id := by
      rw [hknownID]
      exact Option.some.inj (hfit.symm.trans hpointer)
    obtain rfl := eq_of_key_eq hknown hmem hsame
    exact sent_of_claimed hsound hrow hlive hmem howner hcount
  | cancel expected =>
    rw [htask] at hfit
    have hoffer := hspend.sessions session hsession
    simp only [SessionSpend, htask] at hoffer
    exact absurd ⟨attempt, hmem, hpointer, howner, hkind⟩ (hoffer.2 row hrow hid.symm hlive hfit)

structure Lanes (fleet : Fleet) : Prop where
  fit : Fit fleet.db.tx
  leases : LeaseBound fleet.sessions fleet.db.tx

theorem lanes_step {after : Fleet} {requests cancels : ℕ → ℕ} (hlanes : Lanes before)
    (hsound : Sound before.db.tx) (hleases : LeaseSound before.sessions before.db.tx)
    (hspend : Spend before.db.tx before.sessions requests cancels)
    (hextends : Extends before.db.tx after.db.tx) (hstep : OfferedStep before move after) :
    Lanes after := by
  obtain ⟨hfleet, hoffered⟩ := hstep
  have hsent := leasedSent_of_leaseBound hsound hleases hlanes.leases hspend
  rcases step_of_fleetStep hfleet with ⟨session, rfl, hfresh, rfl⟩ | ⟨op, hop, rfl⟩
  · refine ⟨hlanes.fit, hlanes.leases.start hleases hfresh ?_⟩
    intro expected bumpingCancel htask
    simp only [MoveOffered, Offered, htask] at hoffered
    obtain ⟨now, lane, staleAfter, row, attempt, hnext, -, hid, -⟩ := hoffered
    obtain ⟨-, hoffer⟩ := nextReplacementCandidate_offer hnext
    have hmem := (activeAttempt_eq_some.mp hoffer.active).1
    exact ⟨attempt, hmem, hid, (hlanes.fit.attempts attempt hmem).claimed hoffer.sent⟩
  · cases op with
    | work op =>
      -- Only a call to the ledger can move a lane.
      have htx : (Op.apply before.db (.work op)).tx = before.db.tx := workOp_apply_tx before.db op
      exact ⟨by rw [htx]; exact hlanes.fit, by rw [htx]; exact hlanes.leases⟩
    | tx op =>
      exact ⟨fit_txOp hsound hlanes.fit hsent,
        hlanes.leases.call hsound hleases hextends hfleet hop⟩

theorem lanes_run {history : List (Event Fleet Move)} {fleet : Fleet}
    (hrun : OfferedRun history fleet) : Lanes fleet := by
  induction hrun with
  | start => exact ⟨.empty, .empty⟩
  | extend hbefore hlast hlanes =>
    have hfleet := OfferedRun.fleetRun hbefore
    obtain ⟨_, hcalls⟩ := storeRun_of_fleetRun hfleet
    obtain ⟨_, hcall⟩ := storeRun_of_fleetRun (Run.start.extend hlast.1)
    exact lanes_step hlanes (sound_offeredRun hbefore) (leaseSound_run hfleet)
      (spend_run hbefore) (extends_storeRun hcalls hcall) hlast

end Lazier.Signer
