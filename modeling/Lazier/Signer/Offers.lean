import Lazier.Manager.CancelExclusivity
import Lazier.Ledger.RetryChains

/-!
# Offers of the selectors

A pass of the manager peeks at its selector before it opens a signing session:
`NextReplacementCandidate` names the attempt to outbid, `NextCancelCandidate`
the attempt to cancel.  The peek takes no lock, so by the time the session
claims and inserts, the offer may be arbitrarily old.  A fleet whose sessions
were all offered is a fleet of real managers.
-/

namespace Lazier.Signer

open Library Store Ledger Manager Option

variable {history : List (Event Fleet Move)} {fleet : Fleet} {now : Time} {lane : Lane}
  {staleAfter : Duration} {attempt : AttemptRow} {db : DB}

/-- The peek a session starts from. -/
def Offered (db : DB) (session : Session) : Prop :=
  match session.task with
  | .sign =>
    ∃ now lane peeked, peekSendableTx db now lane = .ok (some peeked) ∧
      peeked.row.id = session.outboxID
  | .replace expected bumpingCancel =>
    ∃ now lane staleAfter row attempt, nextReplacementCandidate db now lane staleAfter =
        .ok (some (row, attempt)) ∧ row.id = session.outboxID ∧ attempt.id = expected ∧
      decide (attempt.kind = .cancel) = bumpingCancel
  | .cancel expected =>
    ∃ now lane peeked, nextCancelCandidate db now lane = .ok (some peeked) ∧
      peeked.row.id = session.outboxID ∧ (peeked.active.map AttemptRow.id).getD 0 = expected

def MoveOffered (fleet : Fleet) : Move → Prop
  | .start session => Offered fleet.db session
  | _ => True

/-- A step of a fleet that opens sessions only on an offer. -/
def OfferedStep (before : Fleet) (move : Move) (after : Fleet) : Prop :=
  FleetStep before move after ∧ MoveOffered before move

abbrev OfferedRun := Run OfferedStep Fleet.empty

theorem OfferedRun.fleetRun (hrun : OfferedRun history fleet) : FleetRun history fleet :=
  hrun.mono fun _ _ _ hstep => hstep.1

theorem sound_offeredRun (hrun : OfferedRun history fleet) : Sound fleet.db.tx := by
  obtain ⟨calls, hcalls⟩ := storeRun_of_fleetRun hrun.fleetRun
  exact sound_storeRun hcalls

/-! ## What an offer says -/

/-- A row as the replacement selector offers it. -/
structure ReplacementOffer (tx : TxTables) (row : OutboxRow) (attempt : AttemptRow) : Prop where
  active : activeAttempt tx row = some attempt
  unpinned : row.receipt = none
  sent : attempt.state.sent = true
  budget : row.preSignFailureCount < txMaxPreSignFailures
  exclusive : row.cancelRequestedAt = none ∨ attempt.kind = .cancel
  authorized : row.replaceRequestedAt ≠ none ∨
    replacementCount tx row attempt.kind < txMaxReplacements

theorem replacementOffer_of_candidate {tx : TxTables} {row offered : OutboxRow}
    (hcandidate : replacementCandidate tx now lane staleAfter row = some (offered, attempt)) :
    offered = row ∧ ReplacementOffer tx row attempt := by
  unfold replacementCandidate at hcandidate
  split at hcandidate
  · cases hcandidate
  rename_i active hactive
  obtain ⟨hguard, hpair⟩ := ite_none_right_eq_some.mp hcandidate
  cases hpair
  obtain ⟨-, -, hreceipt, hsent, hbudget, hexclusive, hdue⟩ := hguard
  refine ⟨rfl, hactive, hreceipt, hsent, hbudget, hexclusive, ?_⟩
  simp only [Bool.or_eq_true, Bool.and_eq_true, decide_eq_true_eq] at hdue
  rcases hdue with (⟨hrequested, -⟩ | ⟨-, hcap⟩) | ⟨-, hcap⟩
  · left
    intro hnone
    rw [hnone] at hrequested
    cases hrequested
  · exact .inr hcap
  · exact .inr hcap

theorem nextReplacementCandidate_offer {row : OutboxRow}
    (hnext : nextReplacementCandidate db now lane staleAfter = .ok (some (row, attempt))) :
    row ∈ db.tx.outbox ∧ ReplacementOffer db.tx row attempt := by
  unfold nextReplacementCandidate at hnext
  split at hnext
  · cases hnext
  split at hnext
  · cases hnext
  have hfirst := Except.ok.inj hnext
  obtain ⟨candidate, hmem, hcandidate⟩ := List.mem_filterMap.mp (mem_of_firstBy_eq_some hfirst)
  obtain ⟨rfl, hoffer⟩ := replacementOffer_of_candidate hcandidate
  exact ⟨hmem, hoffer⟩

/-- A row as the cancel selector offers it. -/
structure CancelOffer (tx : TxTables) (row : OutboxRow) (active : Option AttemptRow) : Prop where
  joined : activeAttempt tx row = active
  uncanceled : ∀ attempt, active = some attempt → attempt.kind ≠ .cancel
  unpinned : row.receipt = none
  allowed : row.status.cancelAllowed = true

theorem nextCancelCandidate_offer {peeked : OutboxTx}
    (hnext : nextCancelCandidate db now lane = .ok (some peeked)) : peeked.row ∈ db.tx.outbox ∧
      CancelOffer db.tx peeked.row peeked.active := by
  unfold nextCancelCandidate at hnext
  split at hnext
  · cases hnext
  obtain ⟨row, hfirst, rfl⟩ := map_eq_some_iff.mp (Except.ok.inj hnext)
  obtain ⟨hmem, hcandidate⟩ := List.mem_filter.mp (mem_of_firstBy_eq_some hfirst)
  unfold cancelCandidate at hcandidate
  simp only [Bool.and_eq_true] at hcandidate
  obtain ⟨⟨⟨⟨⟨⟨-, hallowed⟩, -⟩, hkind⟩, -⟩, -⟩, hreceipt⟩ := hcandidate
  refine ⟨hmem, rfl, ?_, isNone_iff_eq_none.mp hreceipt, hallowed⟩
  intro attempt hactive
  dsimp only at hactive
  rw [hactive] at hkind
  exact of_decide_eq_true hkind

/-! ## Performed passes -/

/-- One action of a manager, with what its peek was asked, or of anybody
else. -/
inductive Pass
  | sign (token : UUID) (now : Time) (lane : Lane)
  | replace (token : UUID) (now : Time) (lane : Lane) (staleAfter : Duration)
  | cancel (token : UUID) (now : Time) (lane : Lane)
  | claim (token : UUID) (now : Time) (lane : Lane) (leaseTTL : Duration)
  | insert (token : UUID) (now : Time) (signed : SignedAttempt)
  | call (op : Op)

variable {pass : Pass}

/-- The session a peek opens. -/
def offeredSession (db : DB) : Pass → Option Session
  | .sign token now lane =>
    match peekSendableTx db now lane with
    | .ok (some peeked) => some ⟨token, peeked.row.id, .sign⟩
    | _ => none
  | .replace token now lane staleAfter =>
    match nextReplacementCandidate db now lane staleAfter with
    | .ok (some (row, attempt)) =>
      some ⟨token, row.id, .replace attempt.id (decide (attempt.kind = .cancel))⟩
    | _ => none
  | .cancel token now lane =>
    match nextCancelCandidate db now lane with
    | .ok (some peeked) =>
      some ⟨token, peeked.row.id, .cancel ((peeked.active.map AttemptRow.id).getD 0)⟩
    | _ => none
  | _ => none

def Pass.move (fleet : Fleet) : Pass → Option Move
  | .claim token now lane leaseTTL =>
    (fleet.sessions.find? fun session => session.token = token).map
      fun session => .claim session now lane leaseTTL
  | .insert token now signed =>
    (fleet.sessions.find? fun session => session.token = token).map
      fun session => .insert session now signed
  | .call op => if usesSigningLease op then none else some (.call op)
  | pass =>
    match offeredSession fleet.db pass with
    | none => none
    | some session =>
      if fleet.sessions.all fun other => other.token ≠ session.token then
        some (.start session)
      else none

/-- The fleet after a move. -/
def afterMove (fleet : Fleet) : Move → Fleet
  | .start session => { fleet with sessions := session :: fleet.sessions }
  | .claim session now lane leaseTTL =>
    { fleet with db := (session.claimCall now lane leaseTTL).apply fleet.db }
  | .insert session now signed =>
    { fleet with db := (session.insertCall now signed).apply fleet.db }
  | .call op => { fleet with db := op.apply fleet.db }

theorem offered_of_offeredSession {session : Session}
    (hsession : offeredSession db pass = some session) : Offered db session := by
  unfold offeredSession at hsession
  split at hsession
  · split at hsession
    · rename_i now lane peeked hpeek
      cases hsession
      exact ⟨_, _, peeked, hpeek, rfl⟩
    · cases hsession
  · split at hsession
    · rename_i row attempt hpeek
      cases hsession
      exact ⟨_, _, _, row, attempt, hpeek, rfl, rfl, rfl⟩
    · cases hsession
  · split at hsession
    · rename_i now lane peeked hpeek
      cases hsession
      exact ⟨_, _, peeked, hpeek, rfl, rfl⟩
    · cases hsession
  · cases hsession

theorem offeredStep_of_move {move : Move} (hmove : pass.move fleet = some move) :
    OfferedStep fleet move (afterMove fleet move) := by
  have hstart : ∀ session, offeredSession fleet.db pass = some session →
      (fleet.sessions.all fun other => other.token ≠ session.token) = true →
      OfferedStep fleet (.start session) (afterMove fleet (.start session)) := by
    intro session hsession hfresh
    refine ⟨.start fun other hother => ?_, offered_of_offeredSession hsession⟩
    exact of_decide_eq_true (List.all_eq_true.mp hfresh other hother)
  unfold Pass.move at hmove
  split at hmove
  · obtain ⟨session, hfound, rfl⟩ := map_eq_some_iff.mp hmove
    exact ⟨.claim (List.mem_of_find?_eq_some hfound), trivial⟩
  · obtain ⟨session, hfound, rfl⟩ := map_eq_some_iff.mp hmove
    exact ⟨.insert (List.mem_of_find?_eq_some hfound), trivial⟩
  · split at hmove
    · cases hmove
    · rename_i hfree
      cases hmove
      exact ⟨.call (Bool.eq_false_iff.mpr hfree), trivial⟩
  · split at hmove
    · cases hmove
    · rename_i session hsession
      split at hmove
      · rename_i hfresh
        cases hmove
        exact hstart session hsession hfresh
      · cases hmove

theorem offeredRun_of_passes (passes : List Pass) (check : Fleet → Bool)
    (hperformed : (perform (fun fleet pass => (Pass.move fleet pass).map (afterMove fleet))
      (fun _ _ => true) Fleet.empty passes.reverse).any check = true) :
    ∃ history fleet, OfferedRun history fleet ∧ check fleet = true := by
  obtain ⟨_, final, hrun, -, -, hcheck⟩ := exists_run_of_perform hperformed
  obtain ⟨moves, hmoves, -⟩ := Run.simulate (fun fleet => fleet)
    (fun _ (_ : Event Fleet Move) => True) (fun pre pass post hexec => by
      obtain ⟨move, hmove, rfl⟩ := map_eq_some_iff.mp hexec
      exact ⟨_, Run.start.extend (offeredStep_of_move hmove), fun _ _ => trivial⟩) hrun
  exact ⟨moves, final, hmoves, hcheck⟩

end Lazier.Signer
