import Lazier.Ledger.StoreRuns

/-!
# Signing sessions of the transaction manager

A manager signs outside any database transaction: it draws a fresh lease token,
claims the row with it, signs, and inserts the attempt under the same token.
The fleet keeps the sessions that were ever opened by any instance; the calls
of a session may be delayed, repeated or dropped, and every other store call
may come from anyone at any time.
-/

namespace Lazier.Manager

open Library Store Ledger

/-! ## Sessions -/

/-- What a session signs.  A replacement of a cancel attempt is a cancel. -/
inductive Task
  | sign
  | replace (expectedActiveAttemptID : ℕ) (bumpingCancel : Bool)
  | cancel (expectedActiveAttemptID : ℕ)
  deriving DecidableEq

def Task.use : Task → LeaseUse
  | .sign => .signing
  | .replace _ _ => .replacement
  | .cancel _ => .cancel

/-- The attempt kind the manager hands to the store. -/
def Task.kind : Task → AttemptKind
  | .sign => .original
  | .replace _ bumpingCancel =>
    if bumpingCancel then .cancel else .replacement
  | .cancel _ => .cancel

structure Session where
  token : UUID
  outboxID : ℕ
  task : Task
  deriving DecidableEq

/-- The claim of `claimForSigning`, `ProcessStaleBroadcastReplacement` or
`ProcessCancelRequest`. -/
def Session.claimCall (session : Session) (now : Time) (lane : Lane) (leaseTTL : Duration) : TxOp :=
  match session.task with
  | .sign =>
    .claimOutboxForSigning now session.outboxID lane session.token leaseTTL
  | .replace expected _ =>
    .claimOutboxForReplacementSigning now session.outboxID expected session.token leaseTTL
  | .cancel expected =>
    .claimOutboxForCancelSigning now session.outboxID expected session.token leaseTTL

/-- The insert that ends the session; `signed` is what the signer returned. -/
def Session.insertCall (session : Session) (now : Time) (signed : SignedAttempt) : TxOp :=
  let attempt := { signed with kind := session.task.kind }
  match session.task with
  | .sign =>
    .insertSignedAttempt now session.outboxID session.token attempt
  | .replace expected _ =>
    .insertReplacementAttempt now session.outboxID expected session.token attempt
  | .cancel expected =>
    .insertCancelAttempt now session.outboxID expected session.token attempt

/-- The calls that only a session makes. -/
def usesSigningLease : Op → Bool
  | .tx (.claimOutboxForSigning ..) => true
  | .tx (.insertSignedAttempt ..) => true
  | .tx (.claimOutboxForReplacementSigning ..) => true
  | .tx (.insertReplacementAttempt ..) => true
  | .tx (.claimOutboxForCancelSigning ..) => true
  | .tx (.insertCancelAttempt ..) => true
  | _ => false

/-! ## The fleet -/

structure Fleet where
  db : DB
  sessions : List Session

/-- The empty schema before any instance has started. -/
def Fleet.empty : Fleet := ⟨DB.empty, []⟩

/-- `uuid.New` never returns a token twice. -/
def Fleet.fresh (fleet : Fleet) (token : UUID) : Prop :=
  ∀ session ∈ fleet.sessions, session.token ≠ token

inductive Move
  | start (session : Session)
  | claim (session : Session) (now : Time) (lane : Lane) (leaseTTL : Duration)
  | insert (session : Session) (now : Time) (signed : SignedAttempt)
  | call (op : Op)

/-- The store call of a move. -/
def Move.op : Move → Option Op
  | .start _ => none
  | .claim session now lane leaseTTL =>
    some (.tx (session.claimCall now lane leaseTTL))
  | .insert session now signed => some (.tx (session.insertCall now signed))
  | .call op => some op

inductive FleetStep : Fleet → Move → Fleet → Prop
  | start {fleet : Fleet} {session : Session} (fresh : fleet.fresh session.token) :
      FleetStep fleet (.start session) { fleet with sessions := session :: fleet.sessions }
  | claim {fleet : Fleet} {session : Session} {now : Time} {lane : Lane}
      {leaseTTL : Duration} (started : session ∈ fleet.sessions) :
      FleetStep fleet (.claim session now lane leaseTTL)
        { fleet with
          db := (session.claimCall now lane leaseTTL).apply fleet.db }
  | insert {fleet : Fleet} {session : Session} {now : Time}
      {signed : SignedAttempt} (started : session ∈ fleet.sessions) :
      FleetStep fleet (.insert session now signed)
        { fleet with db := (session.insertCall now signed).apply fleet.db }
  | call {fleet : Fleet} {op : Op} (free : usesSigningLease op = false) :
      FleetStep fleet (.call op) { fleet with db := op.apply fleet.db }

abbrev FleetRun := Run FleetStep Fleet.empty

end Lazier.Manager
