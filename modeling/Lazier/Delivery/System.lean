import Lazier.Delivery.TaskEffects
import Lazier.Executor.Worker
import Lazier.Indexer.Destination
import Lazier.Manager.Workflow

/-!
# The delivery system

Executor workers, destination indexers, transaction managers and operators over
one store.  A session is one instance of a worker, an indexer or the receipts
loop of a manager; it remembers what it has read and makes its store calls one
by one, so that every other session and every operator command may come in
between.  A crash forgets the session.
-/

namespace Lazier.Delivery

open Chain Executor Indexer Library Manager Store

/-- What the instances are configured with. -/
structure Deployment where
  libs : EventLibraries
  abi : CalldataLibrary
  worker : ℕ → WorkerConfig
  stream : ℕ → Stream

/-! ## Sessions -/

/-- The row and the winning attempt as `ProcessReceipts` listed them, and the
receipt it found. -/
structure Polled where
  row : OutboxRow
  attempt : AttemptRow
  facts : TxReceiptFacts

/-- Where an instance stands between its store calls. -/
inductive Session
  | idle
  | listed (item : ExecutorWorkItem)
  | observing (packet : PacketRecord) (job : ExecutorJobRow) (log : Log)
  | polled (poll : Polled)
  | resolved (poll : Polled) (outcome : ReceiptOutcome)
  | unapplied (poll : Polled) (outcome : ReceiptOutcome) (effect : WorkflowEffect)
  | rejected (poll : Polled) (outcome : ReceiptOutcome) (effect : WorkflowEffect)
  | applied (poll : Polled) (outcome : ReceiptOutcome)

structure System where
  db : DB
  sessions : ℕ → Session

/-- The empty schema before any instance has started. -/
def System.empty : System := ⟨DB.empty, fun _ => .idle⟩

def System.enter (system : System) (owner : ℕ) (session : Session) : System :=
  { system with sessions := Function.update system.sessions owner session }

/-- The session of one instance after its store call. -/
def System.commit (system : System) (owner : ℕ) (db : DB) (session : Session) : System :=
  ⟨db, Function.update system.sessions owner session⟩

/-! ## Calls of other components -/

/-- The statuses in which the DVN worker lists its jobs are none of these. -/
def dvnSettled : DVNState → Bool
  | .wouldVerify => true
  | .verifyTxEnqueued => true
  | .verified => true
  | .quorumConflict => true
  | .manualReview => true
  | _ => false

/-- The statuses in which the source stream creates an executor job: unsupported
executor options send it to manual review at once. -/
def firstStatuses : List ExecutorState := [.assigned, .manualReview]

/-- Workflow methods that neither an executor worker nor the executor stream
nor the receipts loop calls, with the statuses their callers expect. -/
def backgroundWork : WorkOp → Bool
  | .upsertExecutorJob _ job => decide (job.status ∈ firstStatuses)
  | .deferExecutorJob .. => false
  | .markExecutorWaitingDVNVerification .. => false
  | .markExecutorVerifiable .. => false
  | .markExecutorCommitted .. => false
  | .markExecutorCommittedFromChain .. => false
  | .markExecutorCommittedObserved .. => false
  | .markExecutorExecutable .. => false
  | .markExecutorManualReview .. => false
  | .markExecutorDelivered .. => false
  | .markExecutorDeliveredFromChain .. => false
  | .markExecutorDeliveredObserved .. => false
  | .markExecutorReceiveFailed .. => false
  | .markExecutorReceiveFailedObserved .. => false
  | .upsertDVNJob _ job => decide (job.status = .assigned)
  | .markDVNWaitingConfirmations _ _ expected => !(dvnSettled expected)
  | .markDVNQuorumChecking _ _ expected => !(dvnSettled expected)
  | .markDVNReadyToVerify _ _ expected _ => !(dvnSettled expected)
  | .markDVNWouldVerify _ _ expected _ => !(dvnSettled expected)
  | .markDVNVerified .. => false
  | .markDVNVerifiedFromChain _ _ expected _ => !(dvnSettled expected)
  | .markDVNQuorumConflict _ _ expected _ _ => !(dvnSettled expected)
  | .markDVNReorgDetected _ _ expected _ _ => !(dvnSettled expected)
  | .markDVNReorgDetectedWithCoordinates _ _ expected _ _ _ _ =>
    !(dvnSettled expected)
  | .markDVNManualReview .. => false
  | .markDVNManualReviewAndPausePathway _ _ expected _ _ =>
    !(dvnSettled expected)
  | _ => true

/-- Store calls of the source indexer, the DVN worker, the sending loops of a
manager and the operator. -/
def background : Op → Bool
  | .work op => backgroundWork op
  | .tx (.enqueueExecutorTx ..) => false
  | .tx (.prepareReceiptResolution ..) => false
  | .tx (.finalizeAttemptReceipt ..) => false
  | .tx op => properCall op

/-! ## Steps -/

inductive Label
  | list (worker : ℕ) (now : Time) (status : ExecutorState)
  | work (worker : ℕ) (now : Time) (reads : Reads)
  | read (indexer : ℕ) (log : Log)
  | apply (indexer : ℕ) (now : Time)
  | poll (manager : ℕ) (lane : Lane) (limit task attempt : ℕ) (facts : TxReceiptFacts)
  | pin (manager : ℕ) (now : Time)
  | check (manager : ℕ)
  | mark (manager : ℕ) (now : Time)
  | recheck (manager : ℕ)
  | finalize (manager : ℕ) (now clock : Time)
  | stop (session : ℕ)
  | call (op : Op)

/-- The listing of a worker's pass. -/
def listStep (system : System) (worker : ℕ) (now : Time) (status : ExecutorState) : System :=
  match listExecutorWork system.db now status with
  | none => system
  | some item => system.enter worker (.listed item)

/-- The reads of a worker's pass and the store call that ends it. -/
def workStep (deployment : Deployment) (system : System) (worker : ℕ)
    (now : Time) (reads : Reads) (item : ExecutorWorkItem) : System :=
  match passCall (deployment.worker worker) deployment.abi item reads now with
  | none => system.enter worker .idle
  | some op => system.commit worker (op.apply system.db) .idle

/-- The reads of the executor stream before it applies a log. -/
def readStep (deployment : Deployment) (system : System) (indexer : ℕ) (log : Log) : System :=
  match decideExecutorLog deployment.libs (deployment.stream indexer) system.db log with
  | .ok (.apply packet job) => system.enter indexer (.observing packet job log)
  | _ => system

/-- A pinned attempt is replayed as it is, and the receipt of another one is
compared with its hash. -/
def wins (row : OutboxRow) (attempt : AttemptRow) (facts : TxReceiptFacts) : Bool :=
  match row.receipt with
  | some pinned => decide (attempt.id = pinned.attemptId)
  | none => decide (facts.txHash = attempt.txHash)

/-- The listing and the receipt lookup of `ProcessReceipts`. -/
def pollStep (system : System) (manager : ℕ) (lane : Lane)
    (limit task attempt : ℕ) (facts : TxReceiptFacts) : Option System :=
  match listReceiptPollTasks system.db lane limit with
  | .error _ => none
  | .ok tasks =>
    match tasks[task]? with
    | none => none
    | some listed =>
      match listed.attempts[attempt]? with
      | none => none
      | some winning =>
        if wins listed.outbox.row winning facts then
          some (system.enter manager (.polled ⟨listed.outbox.row, winning, facts⟩))
        else none

/-- `PrepareReceiptResolution`, unless the listed row was pinned already. -/
def pinStep (system : System) (manager : ℕ) (now : Time) (poll : Polled) : System :=
  match poll.row.receipt with
  | some pinned => system.enter manager (.resolved poll pinned.outcome)
  | none =>
    match prepareReceiptResolution system.db now poll.attempt.id poll.facts with
    | (db, .ok outcome) => system.commit manager db (.resolved poll outcome)
    | (db, .error _) => system.commit manager db .idle

/-- The first status read of `markExecutorReceipt` and `markDVNReceipt`. -/
def checkStep (system : System) (manager : ℕ) (poll : Polled) (outcome : ReceiptOutcome) : System :=
  match workflowEffect poll.row poll.attempt.txHash outcome with
  | none => system.enter manager (.applied poll outcome)
  | some effect =>
    if effect.applied.holds system.db then
      system.enter manager (.applied poll outcome)
    else system.enter manager (.unapplied poll outcome effect)

/-- The store call of the workflow effect. -/
def markStep (system : System) (manager : ℕ) (now : Time) (poll : Polled)
    (outcome : ReceiptOutcome) (effect : WorkflowEffect) : System :=
  match effect.mark.call system.db now with
  | (db, .ok ()) => system.commit manager db (.applied poll outcome)
  | (db, .error _) => system.commit manager db (.rejected poll outcome effect)

/-- The second status read; the pass ends with the error when it fails. -/
def recheckStep (system : System) (manager : ℕ) (poll : Polled)
    (outcome : ReceiptOutcome) (effect : WorkflowEffect) : System :=
  if effect.applied.holds system.db then
    system.enter manager (.applied poll outcome)
  else system.enter manager .idle

/-- One step; `none` when the label does not fit the session. -/
def exec (deployment : Deployment) (system : System) : Label → Option System
  | .list worker now status =>
    match system.sessions worker with
    | .idle => some (listStep system worker now status)
    | _ => none
  | .work worker now reads =>
    match system.sessions worker with
    | .listed item =>
      some (workStep deployment system worker now reads item)
    | _ => none
  | .read indexer log =>
    match system.sessions indexer with
    | .idle => some (readStep deployment system indexer log)
    | _ => none
  | .apply indexer now =>
    match system.sessions indexer with
    | .observing packet job log =>
      some (system.commit indexer (applyExecutorDestinationLog
        deployment.libs system.db now packet job log).1 .idle)
    | _ => none
  | .poll manager lane limit task attempt facts =>
    match system.sessions manager with
    | .idle => pollStep system manager lane limit task attempt facts
    | _ => none
  | .pin manager now =>
    match system.sessions manager with
    | .polled poll => some (pinStep system manager now poll)
    | _ => none
  | .check manager =>
    match system.sessions manager with
    | .resolved poll outcome => some (checkStep system manager poll outcome)
    | _ => none
  | .mark manager now =>
    match system.sessions manager with
    | .unapplied poll outcome effect =>
      some (markStep system manager now poll outcome effect)
    | _ => none
  | .recheck manager =>
    match system.sessions manager with
    | .rejected poll outcome effect =>
      some (recheckStep system manager poll outcome effect)
    | _ => none
  | .finalize manager now clock =>
    match system.sessions manager with
    | .applied poll _ =>
      some (system.commit manager (finalizeAttemptReceipt system.db now
        clock poll.attempt.id poll.facts).1 .idle)
    | _ => none
  | .stop session => some (system.enter session .idle)
  | .call op =>
    if background op then some { system with db := op.apply system.db }
    else none

def SystemStep (deployment : Deployment) (pre : System) (label : Label) (post : System) : Prop :=
  exec deployment pre label = some post

/-- Runs of any number of instances from the empty schema. -/
abbrev SystemRun (deployment : Deployment) := Run (SystemStep deployment) System.empty

end Lazier.Delivery
