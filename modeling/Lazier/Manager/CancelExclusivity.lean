import Lazier.Manager.Sessions

/-!
# A cancel request excludes every other attempt

Three mechanisms guard a cancel: the request revokes the signing lease, the
replacement insert looks at the kind, and the broadcast claim looks at both.
The first works because a lease token belongs to one session for good.
-/

namespace Lazier.Manager

open Library Store Ledger SerialTable List

variable {before after fleet : Fleet} {move : Move} {history : List (Event Fleet Move)}
  {sessions : List Session} {id : ℕ} {token : UUID}

/-! ## Fleet runs as store runs -/

/-- A move opens a session, or is one store call that keeps the sessions. -/
theorem step_of_fleetStep (hstep : FleetStep before move after) :
    (∃ session, move = .start session ∧ before.fresh session.token ∧
      after = { before with sessions := session :: before.sessions }) ∨
      ∃ op, move.op = some op ∧ after = { before with db := op.apply before.db } := by
  cases hstep with
  | start fresh => exact .inl ⟨_, rfl, fresh, rfl⟩
  | claim started | insert started | call free => exact .inr ⟨_, rfl, rfl⟩

theorem storeRun_of_fleetRun {start final : Fleet} (hrun : Run FleetStep start history final) :
    ∃ calls, Run Step start.db calls final.db := by
  induction hrun with
  | start => exact ⟨[], .start⟩
  | extend before last ih =>
    obtain ⟨calls, hcalls⟩ := ih
    rcases step_of_fleetStep last with ⟨session, -, -, rfl⟩ | ⟨op, -, rfl⟩
    · exact ⟨calls, hcalls⟩
    · exact ⟨_, hcalls.extend rfl⟩

/-! ## Lease tokens and their sessions -/

/-- The leases of the outbox belong to sessions, and a row with a cancel intent
is never leased to a signer. -/
structure LeaseSound (sessions : List Session) (tx : TxTables) : Prop where
  distinct : ∀ left ∈ sessions, ∀ right ∈ sessions, left.token = right.token → left = right
  owned : ∀ row ∈ tx.outbox, ∀ lease, row.lease = some lease →
    ∃ session ∈ sessions, session.token = lease.token
  exclusive : ∀ row ∈ tx.outbox, row.cancelRequestedAt ≠ none → ∀ lease, row.lease = some lease →
      ∀ session ∈ sessions, session.token = lease.token → session.task ≠ .sign

/-- A lease written by the action is that of a session with the same use. -/
def LeaseAllowed (sessions : List Session) : Action → Prop
  | .assign _ _ token =>
    ∃ session ∈ sessions, session.token = token ∧ session.task.use = .signing
  | .lease _ use token =>
    ∃ session ∈ sessions, session.token = token ∧ session.task.use = use
  | _ => True

theorem LeaseSound.change {before after : TxTables} {action : Action}
    (hsound : LeaseSound sessions before) (hallowed : LeaseAllowed sessions action)
    (hchange : Change before action after) : LeaseSound sessions after where
  distinct := hsound.distinct
  owned := by
    intro row hrow lease hlease
    rcases lease_origin hchange hrow hlease with
      ⟨old, hold, hsame, -⟩ | ⟨nonce, rfl, -⟩ | ⟨use, rfl, -⟩
    · exact hsound.owned old hold lease hsame
    · obtain ⟨session, hsession, htoken, -⟩ := hallowed
      exact ⟨session, hsession, htoken⟩
    · obtain ⟨session, hsession, htoken, -⟩ := hallowed
      exact ⟨session, hsession, htoken⟩
  exclusive := by
    intro row hrow hcanceled lease hlease session hsession htoken
    rcases lease_origin hchange hrow hlease with
      ⟨old, hold, hsame, hintent⟩ | ⟨nonce, -, hnone⟩ | ⟨use, rfl, huse⟩
    · exact hsound.exclusive old hold (hintent hcanceled) lease hsame session hsession htoken
    · exact absurd hnone hcanceled
    · -- The token determines the session, and the session its use.
      obtain ⟨writer, hwriter, hwriterToken, hwriterUse⟩ := hallowed
      have heq : session = writer := hsound.distinct session hsession writer
        hwriter (htoken.trans hwriterToken.symm)
      intro htask
      rw [← heq, htask] at hwriterUse
      exact hcanceled (huse hwriterUse.symm)

theorem LeaseSound.run {start final : TxTables} {actions : List (Event TxTables Action)}
    (hsound : LeaseSound sessions start)
    (hallowed : ∀ action ∈ actions, LeaseAllowed sessions action.label)
    (hrun : Run Change start actions final) : LeaseSound sessions final := by
  induction hrun with
  | start => exact hsound
  | extend before last ih =>
    have hearlier := ih fun action haction =>
      hallowed action (mem_cons_of_mem _ haction)
    exact hearlier.change (hallowed _ mem_cons_self) last

theorem LeaseSound.start {session : Session} (hsound : LeaseSound fleet.sessions fleet.db.tx)
    (hfresh : fleet.fresh session.token) : LeaseSound (session :: fleet.sessions) fleet.db.tx where
  distinct := by
    intro left hleft right hright htoken
    rcases mem_cons.mp hleft with rfl | holdLeft
    · rcases mem_cons.mp hright with rfl | holdRight
      · rfl
      · exact absurd htoken.symm (hfresh right holdRight)
    · rcases mem_cons.mp hright with rfl | holdRight
      · exact absurd htoken (hfresh left holdLeft)
      · exact hsound.distinct left holdLeft right holdRight htoken
  owned := by
    intro row hrow lease hlease
    obtain ⟨owner, howner, htoken⟩ := hsound.owned row hrow lease hlease
    exact ⟨owner, mem_cons_of_mem _ howner, htoken⟩
  exclusive := by
    intro row hrow hcanceled lease hlease other hother htoken
    rcases mem_cons.mp hother with rfl | hother
    · obtain ⟨owner, howner, hownerToken⟩ := hsound.owned row hrow lease hlease
      exact absurd (hownerToken.trans htoken.symm) (hfresh owner howner)
    · exact hsound.exclusive row hrow hcanceled lease hlease other hother htoken

/-! ## Calls of the sessions -/

/-- The calls that lease a row. -/
def leasesRow : TxOp → Bool
  | .claimOutboxForSigning .. | .claimOutboxForReplacementSigning ..
  | .claimOutboxForCancelSigning .. => true
  | _ => false

theorem session_of_leases {op : TxOp} (hstep : FleetStep before move after)
    (hop : move.op = some (.tx op)) (hleases : leasesRow op = true) :
    ∃ session ∈ before.sessions, ∃ now lane leaseTTL, op = session.claimCall now lane leaseTTL := by
  cases hstep with
  | start fresh => cases hop
  | @claim session now lane leaseTTL started =>
    cases hop
    exact ⟨session, started, now, lane, leaseTTL, rfl⟩
  | @insert session now signed started =>
    cases hop
    cases htask : session.task <;>
      simp [Session.insertCall, htask, leasesRow] at hleases
  | call free =>
    obtain rfl := Option.some.inj hop
    cases op <;> simp [leasesRow, usesSigningLease] at hleases free

/-- The calls that persist an attempt. -/
def persists : TxOp → Bool
  | .insertSignedAttempt .. | .insertReplacementAttempt ..
  | .insertCancelAttempt .. => true
  | _ => false

theorem session_of_persists {op : TxOp} (hstep : FleetStep before move after)
    (hop : move.op = some (.tx op)) (hpersists : persists op = true) :
    ∃ session ∈ before.sessions, ∃ now signed, op = session.insertCall now signed := by
  cases hstep with
  | start fresh => cases hop
  | @claim session now lane leaseTTL started =>
    cases hop
    cases htask : session.task <;>
      simp [Session.claimCall, htask, persists] at hpersists
  | @insert session now signed started =>
    cases hop
    exact ⟨session, started, now, signed, rfl⟩
  | call free =>
    obtain rfl := Option.some.inj hop
    cases op <;> simp [persists, usesSigningLease] at hpersists free

theorem session_of_leaseCall (hstep : FleetStep before move after) {op : Op}
    (hop : move.op = some op) {use : LeaseUse} (hcall : LeaseCall op id token use) :
    ∃ session ∈ before.sessions, session.token = token ∧ session.task.use = use := by
  cases use <;> obtain ⟨_, _, _, rfl⟩ := hcall <;>
    obtain ⟨session, hsession, _, _, _, hclaim⟩ := session_of_leases hstep hop rfl <;>
    refine ⟨session, hsession, ?_⟩ <;> cases htask : session.task <;>
    simp_all [Session.claimCall, Task.use]

theorem session_of_insertSigned (hstep : FleetStep before move after) {op : Op}
    (hop : move.op = some op) {kind : AttemptKind} (hcall : InsertCall op id token kind .signing) :
    ∃ session ∈ before.sessions, session.token = token ∧ session.task = .sign := by
  obtain ⟨_, _, -, rfl⟩ := hcall
  obtain ⟨session, hsession, _, _, hinsert⟩ := session_of_persists hstep hop rfl
  refine ⟨session, hsession, ?_⟩
  cases htask : session.task <;> simp_all [Session.insertCall]

theorem leaseSound_step (hsound : LeaseSound before.sessions before.db.tx)
    (hstep : FleetStep before move after) : LeaseSound after.sessions after.db.tx := by
  rcases step_of_fleetStep hstep with ⟨session, -, hfresh, rfl⟩ | ⟨op, hop, rfl⟩
  · exact hsound.start hfresh
  obtain ⟨actions, hactions, hstems⟩ : Refines ⟨before.db, op, _⟩ := step_refines rfl
  refine hsound.run ?_ hactions
  intro action haction
  have hstem := hstems action haction
  cases hlabel : action.label with
  | assign id nonce token =>
    rw [Stems, hlabel] at hstem
    exact session_of_leaseCall hstep hop hstem.2
  | lease id use token =>
    rw [Stems, hlabel] at hstem
    exact session_of_leaseCall hstep hop hstem
  | enqueue | bootstrap | edit | cancel | insert | claim | report | pin
  | finalize | consume | forward | schedule => trivial

theorem leaseSound_run (hrun : FleetRun history fleet) : LeaseSound fleet.sessions fleet.db.tx :=
  hrun.invariant (fun fleet => LeaseSound fleet.sessions fleet.db.tx)
    (fun _ _ _ => leaseSound_step)
    ⟨fun _ hleft => absurd hleft not_mem_nil, fun row hrow => absurd hrow (not_mem_empty row),
      fun row hrow => absurd hrow (not_mem_empty row)⟩

/-! ## The cancel intent -/

theorem requestTxCancel_intent {db : DB} {now : Time}
    (hcommitted : (requestTxCancel db now id).2 = .ok ()) :
    ∃ row ∈ (requestTxCancel db now id).1.tx.outbox, row.id = id ∧
      row.nonce ≠ none ∧ row.cancelRequestedAt ≠ none := by
  unfold requestTxCancel at hcommitted ⊢
  split at hcommitted
  · cases hcommitted
  next hid =>
    rw [if_neg hid]
    split at hcommitted
    · cases hcommitted
    next row hfind =>
      obtain ⟨hrow, hsame⟩ := find_eq_some.mp hfind
      split at hcommitted
      next hguard =>
        rw [if_pos hguard]
        exact ⟨_, mem_set_self hrow rfl, hsame, hguard.1, Option.some_ne_none _⟩
      · cases hcommitted

/-- While a row with a cancel intent is live, a step adds only cancel attempts
to it. -/
theorem insert_of_canceled (hlease : LeaseSound before.sessions before.db.tx)
    (hstep : FleetStep before move after) {row : OutboxRow} (hrow : row ∈ before.db.tx.outbox)
    (hcanceled : row.cancelRequestedAt ≠ none) {attempt : AttemptRow}
    (hattempt : attempt ∈ after.db.tx.attempts) (howner : attempt.outboxID = row.id) :
    (∃ old ∈ before.db.tx.attempts, old.id = attempt.id) ∨ attempt.kind = .cancel := by
  rcases step_of_fleetStep hstep with ⟨session, -, -, rfl⟩ | ⟨op, hop, rfl⟩
  · exact .inl ⟨attempt, hattempt, rfl⟩
  obtain ⟨actions, hactions, hstems⟩ : Refines ⟨before.db, op, _⟩ := step_refines rfl
  rcases insert_origin hactions hattempt with
    hold | ⟨action, haction, inserted, use, token, hlabel, hinsertedOwner, hkind⟩
  · exact .inl hold
  right
  have hchange := (hactions.event_reached haction).1
  have hstem := hstems action haction
  rw [Stems, hlabel] at hstem
  obtain ⟨⟨hpre, -⟩, hcall⟩ := hstem
  rw [← hpre, hlabel] at hchange
  generalize action.post = post at hchange
  cases hchange with
  | @insert old new _ _ _ hold hid guarded =>
    have heq : old = row := by
      apply eq_of_key_eq hold hrow
      rw [← guarded.owner, hinsertedOwner, howner]
    subst heq
    rcases guarded.exclusive with ⟨rfl, -⟩ | ⟨-, hnone | hcancel⟩
    · -- The signer's lease did not survive the cancel request.
      obtain ⟨session, hsession, htoken, htask⟩ := session_of_insertSigned hstep hop hcall
      obtain ⟨lease, hheld, hleaseToken⟩ := Option.map_eq_some_iff.mp guarded.leased
      exact absurd htask (hlease.exclusive old hold hcanceled lease hheld
        session hsession (htoken.trans hleaseToken.symm))
    · exact absurd hnone hcanceled
    · exact hkind ▸ hcancel

/-- Cancel exclusivity: from a committed `RequestTxCancel` until the row ends,
whatever the sessions and everybody else do, no attempt but a cancel is inserted
for the row and no attempt but a cancel of it is claimed for broadcast. -/
theorem cancel_excludes_other_attempts {history : List (Event Fleet Move)} {start : Fleet}
    (hrun : FleetRun history start) {now : Time} {id : ℕ}
    (hcommitted : (requestTxCancel start.db now id).2 = .ok ())
    {later : List (Event Fleet Move)} {before : Fleet}
    (hlater : Run FleetStep { start with db := (requestTxCancel start.db now id).1 } later before)
    (hlive : ∀ row ∈ before.db.tx.outbox, row.id = id → row.status.terminal = false)
    {move : Move} {after : Fleet} (hstep : FleetStep before move after) :
    (∀ attempt ∈ after.db.tx.attempts, attempt.outboxID = id →
      (∃ old ∈ before.db.tx.attempts, old.id = attempt.id) ∨ attempt.kind = .cancel) ∧
    ∀ op, move.op = some op →
      ∀ claim, Claims ⟨before.db, op, after.db⟩ claim → claim.outboxID = id →
        claim.kind = .cancel := by
  have hrequest : FleetStep start (.call (.tx (.requestTxCancel now id)))
      { start with db := (requestTxCancel start.db now id).1 } := .call rfl
  have hcanceledRun : FleetRun _ before := (hrun.extend hrequest).trans hlater
  obtain ⟨_, hstoreStart⟩ := storeRun_of_fleetRun (hrun.extend hrequest)
  obtain ⟨_, hstoreLater⟩ := storeRun_of_fleetRun hlater
  obtain ⟨_, hstoreBefore⟩ := storeRun_of_fleetRun hcanceledRun
  -- The intent is still on the row, as the row has not ended.
  obtain ⟨asked, hasked, haskedID, hheld, hintent⟩ := requestTxCancel_intent hcommitted
  obtain ⟨row, hrow, hextends⟩ := (extends_storeRun hstoreStart hstoreLater).rows asked hasked
  have hid : row.id = id := hextends.id.trans haskedID
  have hcanceled : row.cancelRequestedAt ≠ none := by
    rcases hextends.canceled hheld hintent with hcanceled | hended
    · exact hcanceled
    · rw [hlive row hrow hid] at hended
      cases hended
  have hnonce : row.nonce ≠ none := by
    rw [hextends.nonce hheld]
    exact hheld
  constructor
  · intro attempt hattempt howner
    exact insert_of_canceled (leaseSound_run hcanceledRun) hstep hrow hcanceled
      hattempt (howner.trans hid.symm)
  · intro op hop claim hclaims hclaimID
    have hpost : Step before.db op after.db := by
      rcases step_of_fleetStep hstep with ⟨session, rfl, -⟩ | ⟨made, hmade, rfl⟩
      · cases hop
      · rw [hmade] at hop
        cases hop
        rfl
    obtain ⟨found, hfound, -, -, hfoundID, -, hopen, -, hexclusive⟩ := claims_step hpost hclaims
    obtain ⟨kept, hkept, hkeptExtends⟩ :=
      (extends_storeRun hstoreBefore (Run.start.extend hpost)).rows row hrow
    have heq : found = kept := by
      apply eq_of_key_eq hfound hkept
      rw [hkeptExtends.id, hfoundID, hclaimID, hid]
    rcases hexclusive with hnone | hcancel
    · rcases hkeptExtends.canceled hnonce hcanceled with hstill | hended
      · exact absurd (heq ▸ hnone) hstill
      · rw [← heq, hopen] at hended
        cases hended
    · exact hcancel

/-- The signer of the first send, stalled between its claim and its insert. -/
def stalledSigner : Session := ⟨9, 1, .sign⟩

theorem fleetRun_stalledSigner :
    ∃ history, FleetRun history ⟨replay firstSend, [stalledSigner]⟩ := by
  have hsync : FleetRun _ ⟨replay (firstSend.drop 3), []⟩ := Run.start.extend (.call rfl)
  have hboot : FleetRun _ ⟨replay (firstSend.drop 2), []⟩ := hsync.extend (.call rfl)
  have henqueue : FleetRun _ ⟨replay (firstSend.drop 1), []⟩ := hboot.extend (.call rfl)
  have hstart : FleetRun _ ⟨replay (firstSend.drop 1), [stalledSigner]⟩ :=
    henqueue.extend (.start fun _ hmem => absurd hmem not_mem_nil)
  have hclaim : FleetStep ⟨replay (firstSend.drop 1), [stalledSigner]⟩
      (.claim stalledSigner 0 ⟨1, "keeper"⟩ second)
      ⟨replay firstSend, [stalledSigner]⟩ := .claim mem_cons_self
  exact ⟨_, hstart.extend hclaim⟩

theorem cancel_excludes_stalledSigner : (requestTxCancel (replay firstSend) 1 1).2 = .ok () ∧
    ∀ signed, ∀ attempt ∈ ((stalledSigner.insertCall 1 signed).apply
        (requestTxCancel (replay firstSend) 1 1).1).tx.attempts, attempt.outboxID = 1 →
        (∃ old ∈ (requestTxCancel (replay firstSend) 1 1).1.tx.attempts,
          old.id = attempt.id) ∨ attempt.kind = .cancel := by
  obtain ⟨history, hrun⟩ := fleetRun_stalledSigner
  have hcommitted : (requestTxCancel (replay firstSend) 1 1).2 = .ok () := by
    decide
  have hlive : ∀ row ∈ (requestTxCancel (replay firstSend) 1 1).1.tx.outbox.rows,
        row.id = 1 → row.status.terminal = false := by decide
  refine ⟨hcommitted, ?_⟩
  intro signed
  have hstep : FleetStep ⟨(requestTxCancel (replay firstSend) 1 1).1, [stalledSigner]⟩
      (.insert stalledSigner 1 signed) _ := .insert mem_cons_self
  exact (cancel_excludes_other_attempts hrun hcommitted .start hlive hstep).1

end Lazier.Manager
