import Lazier.Delivery.Application

/-!
# Outstanding deliveries

A delivery is outstanding until its receipt has moved the job.  As long as no
`LzReceiveAlert` fails a job that waits on its own delivery, a packet has at
most one outstanding delivery and none while the job is failed; every pinned
receipt can then be applied, and a canceled delivery is the last one.
-/

namespace Lazier.Delivery

open Chain Executor Indexer Ledger Library Manager Store Workflow

def delivery (guid : Hash) : Task := ⟨guid, .executorLzReceive⟩

theorem delivery_packet (guid : Hash) : txSendScopeKind (delivery guid).purpose = .packet := rfl

/-- The failure of the winning attempt is recorded. -/
def Charged (db : DB) (guid : Hash) (resolution : Resolution) : Prop :=
  ∃ attempt, db.tx.attempts.find resolution.attemptId = some attempt ∧
    (db.work.receiveFailures.find ⟨guid, attempt.txHash⟩).isSome

/-- A delivery whose end has not reached the job. -/
inductive Outstanding (db : DB) (guid : Hash) (id : ℕ) : Prop
  | inFlight (hphase : phaseAt db.tx (delivery guid) id = some .inFlight)
  | reverted (hphase : phaseAt db.tx (delivery guid) id = some .reverted)
  | pinned (resolution : Resolution)
      (hphase : phaseAt db.tx (delivery guid) id = some (.pinned resolution))
      (huncharged : resolution.outcome = .receiptFailed → ¬ Charged db guid resolution)

/-- The receipt has reached the job of its task. -/
def Reflected (db : DB) (task : Task) (resolution : Resolution) : Prop := Past db.work task ∨
    resolution.outcome = .receiptFailed ∧
      (task.purpose = .executorLzReceive → Charged db task.guid resolution)

/-- What a session of the receipts loop has brought about. -/
def SessionReflected (db : DB) : Session → Prop
  | .applied poll outcome =>
    ∀ task, rowTask poll.row = task.columns → txSendScopeKind task.purpose = .packet →
      Reflected db task ⟨outcome, poll.attempt.id⟩
  | .rejected poll _ _ =>
    ∀ task, rowTask poll.row = task.columns →
      txSendScopeKind task.purpose = .packet → Past db.work task
  | _ => True

/-- The step applies no new `LzReceiveAlert` to a job that waits on its
delivery; `job` is the job as the executor stream has read it. -/
def sparesWaiting (deployment : Deployment) (pre : System) : Label → Bool
  | .apply indexer _ =>
    match pre.sessions indexer with
    | .observing packet job log =>
      match destinationEvent deployment.libs log with
      | .ok (some (.alert _)) =>
        !(decide (job.status = .lzReceiveTxEnqueued) &&
          decide (executorStatus pre.db.work packet.guid = some .lzReceiveTxEnqueued) &&
          (pre.db.work.receiveFailures.find ⟨packet.guid, log.txHash⟩).isNone)
      | _ => true
    | _ => true
  | _ => true

structure Orderly (system : System) : Prop where
  coherent : Coherent system
  one : ∀ guid first second, Outstanding system.db guid first →
    Outstanding system.db guid second → first = second
  failed : ∀ guid id, executorStatus system.db.work guid = some .lzReceiveFailed →
    ¬ Outstanding system.db guid id
  ended : ∀ task, txSendScopeKind task.purpose = .packet → ∀ id resolution,
      phaseAt system.db.tx task id = some (.ended resolution) → Reflected system.db task resolution
  sessions : ∀ owner, SessionReflected system.db (system.sessions owner)
  canceled : ∀ guid id resolution,
    phaseAt system.db.tx (delivery guid) id = some (.ended resolution) →
    resolution.outcome = .canceled → ∀ other, ¬ Outstanding system.db guid other

/-! ## What stays -/

variable {deployment : Deployment} {pre post : System} {label : Label} {guid : Hash}
  {resolution : Resolution} {task : Task}

theorem charged_step (hreached : Reached pre.db) (hstep : SystemStep deployment pre label post)
    (hcharged : Charged pre.db guid resolution) : Charged post.db guid resolution := by
  obtain ⟨attempt, hattempt, hrecorded⟩ := hcharged
  obtain ⟨after, hafter, hhash, -⟩ := (persists_step hreached hstep).attempts _ _ hattempt
  exact ⟨after, hafter, hhash ▸ receiveFailures_step hstep hrecorded⟩

theorem reflected_step (hcoherent : Coherent pre) (hstep : SystemStep deployment pre label post)
    (hreflected : Reflected pre.db task resolution) : Reflected post.db task resolution := by
  rcases hreflected with hpast | ⟨hfailed, hcharged⟩
  · exact .inl (hpast.rises (ranksRise_step hcoherent.held hstep))
  · exact .inr ⟨hfailed, fun hpurpose =>
      charged_step hcoherent.reached hstep (hcharged hpurpose)⟩

theorem sessionReflected_step {session : Session} (hcoherent : Coherent pre)
    (hstep : SystemStep deployment pre label post) (hreflected : SessionReflected pre.db session) :
    SessionReflected post.db session := by
  cases session with
  | applied poll outcome =>
    exact fun task htask hpacket =>
      reflected_step hcoherent hstep (hreflected task htask hpacket)
  | rejected poll outcome effect =>
    exact fun task htask hpacket =>
      (hreflected task htask hpacket).rises (ranksRise_step hcoherent.held hstep)
  | _ => trivial

theorem not_past_delivery {work : WorkTables} {status : ExecutorState}
    (hstatus : executorStatus work guid = some status)
    (hrank : rank status ≤ rank .lzReceiveTxEnqueued) : ¬ Past work (delivery guid) := by
  have hawaited : awaited (delivery guid).purpose = some .lzReceiveTxEnqueued := rfl
  rw [past_iff hawaited, delivery, executorRank_eq hstatus]
  exact not_lt.mpr hrank

theorem Outstanding.phaseAt_ne_none {db : DB} {id : ℕ} (hout : Outstanding db guid id) :
    phaseAt db.tx (delivery guid) id ≠ none := by
  cases hout with
  | inFlight hphase | reverted hphase | pinned _ hphase => simp [hphase]

theorem rank_of_outstanding (hcoherent : Coherent pre) {id : ℕ}
    (hout : Outstanding pre.db guid id) :
    rank .lzReceiveTxEnqueued ≤ executorRank pre.db.work guid := by
  have hawaited : awaited (delivery guid).purpose = some .lzReceiveTxEnqueued := rfl
  exact (started_iff hawaited).mp (hcoherent.started (delivery guid) rfl id hout.phaseAt_ne_none)

/-! ## At most one -/

variable {id : ℕ}

theorem outstanding_of_phase (hreached : Reached pre.db)
    (hstep : SystemStep deployment pre label post)
    (hphase : phaseAt post.db.tx (delivery guid) id = phaseAt pre.db.tx (delivery guid) id)
    (hout : Outstanding post.db guid id) : Outstanding pre.db guid id := by
  cases hout with
  | inFlight hpost => exact .inFlight (hphase ▸ hpost)
  | reverted hpost => exact .reverted (hphase ▸ hpost)
  | pinned resolution hpost huncharged =>
    exact .pinned resolution (hphase ▸ hpost) fun hfailed hcharged =>
      huncharged hfailed (charged_step hreached hstep hcharged)

theorem not_outstanding {db : DB} {reached : Phase}
    (hphase : phaseAt db.tx (delivery guid) id = some reached) (hinFlight : reached ≠ .inFlight)
    (hreverted : reached ≠ .reverted) (hpinned : ∀ resolution, reached ≠ .pinned resolution) :
    ¬ Outstanding db guid id := by
  intro hout
  cases hout with
  | inFlight hother => exact hinFlight (Option.some.inj (hphase ▸ hother))
  | reverted hother => exact hreverted (Option.some.inj (hphase ▸ hother))
  | pinned resolution hother _ => exact hpinned resolution (Option.some.inj (hphase ▸ hother))

theorem outstanding_origin (hreached : Reached pre.db)
    (hstep : SystemStep deployment pre label post) {op : TxOp}
    (hmove : RowMove (delivery guid) pre.db op post.db id) (hout : Outstanding post.db guid id) :
    Outstanding pre.db guid id ∨ Cause (delivery guid) pre.db op post.db ∧
        phaseAt pre.db.tx (delivery guid) id = none := by
  cases hmove with
  | kept hkept => exact .inl (outstanding_of_phase hreached hstep hkept.1 hout)
  | reverted hfrom _ => exact .inl (.inFlight hfrom)
  | requeued hfrom _ => exact .inl (.reverted hfrom)
  | pinned _ hpin _ => exact .inl (.inFlight hpin.before)
  | inserted hcause hnewest _ =>
    refine .inr ⟨hcause, ?_⟩
    by_contra hsome
    exact lt_irrefl id (hnewest id hsome)
  | finalized _ _ _ hto | parent _ _ hto | consumed _ hto =>
    exact absurd hout (not_outstanding hto (by simp) (by simp) (by simp))

/-- Where a delivery is inserted, only the one it replaces was outstanding. -/
theorem outstanding_of_cause (horderly : Orderly pre) {op : TxOp}
    (hcause : Cause (delivery guid) pre.db op post.db) (hbefore : Outstanding pre.db guid id) :
    ¬ Outstanding post.db guid id := by
  have hrank := rank_of_outstanding horderly.coherent hbefore
  cases hcause with
  | enqueued hready _ =>
    rcases hready with hexecutable | hfailed
    · have hsame : executorRank pre.db.work guid = rank .executable := executorRank_eq hexecutable
      rw [hsame] at hrank
      exact absurd hrank (by decide)
    · exact absurd hbefore (horderly.failed guid id hfailed)
  | cloned _ _ _ _ hdelivery => exact absurd hbefore (horderly.failed guid id (hdelivery rfl).1)
  | @replaced old hfrom hto _ _ =>
    rw [horderly.one guid id old hbefore (.inFlight hfrom)]
    exact not_outstanding hto (by simp) (by simp) (by simp)

theorem one_step (horderly : Orderly pre) (hstep : SystemStep deployment pre label post)
    {first second : ℕ} (hfirst : Outstanding post.db guid first)
    (hsecond : Outstanding post.db guid second) : first = second := by
  have hreached := horderly.coherent.reached
  rcases task_step horderly.coherent.held (delivery_packet guid) hreached hstep
    with ⟨htx, -⟩ | ⟨op, -, heffect, -⟩
  · exact horderly.one guid first second (outstanding_of_phase hreached hstep (by rw [htx]) hfirst)
      (outstanding_of_phase hreached hstep (by rw [htx]) hsecond)
  obtain ⟨child, hchild⟩ := heffect.child_unique
  rcases outstanding_origin hreached hstep (heffect.rowMove first) hfirst with
    hold | ⟨hcause, hfresh⟩ <;>
  rcases outstanding_origin hreached hstep (heffect.rowMove second) hsecond with
    hold' | ⟨hcause', hfresh'⟩
  · exact horderly.one guid first second hold hold'
  · exact absurd hfirst (outstanding_of_cause horderly hcause' hold)
  · exact absurd hsecond (outstanding_of_cause horderly hcause hold')
  · rw [hchild first hfresh hfirst.phaseAt_ne_none, hchild second hfresh' hsecond.phaseAt_ne_none]

theorem failed_of_call (hspares : sparesWaiting deployment pre label = true)
    {update : ExecutorStatusUpdate} (hcall : ExecutorCall deployment pre label update)
    (hbefore : executorStatus pre.db.work update.guid = some update.expected)
    (hfresh : Uncharged pre.db.work update) (hnext : update.next = .lzReceiveFailed) :
    rank update.expected < rank .lzReceiveTxEnqueued ∨
      ∃ manager now poll outcome effect, label = .mark manager now ∧
        pre.sessions manager = .unapplied poll outcome effect ∧
        markUpdate effect.mark = some update := by
  cases hcall with
  | worker _ _ _ _ hother _ => exact absurd hnext hother.2.2
  | @observed indexer now packet job log event hsession happlies =>
    left
    cases event with
    | verified event | delivered event => cases hnext
    | alert event =>
      have hcan := happlies.can
      simp only [sparesWaiting, hsession, happlies.decoded] at hspares
      change rank job.status < rank .lzReceiveTxEnqueued
      change executorStatus pre.db.work packet.guid = some job.status at hbefore
      have hnone : pre.db.work.receiveFailures.find ⟨packet.guid, log.txHash⟩ = none := hfresh rfl
      rw [hbefore, hnone] at hspares
      cases hstatus : job.status <;> rw [hstatus] at hcan hspares <;>
        first
          | decide
          | exact absurd hspares (by decide)
          | cases hcan
  | @marked manager now poll outcome effect _ hsession hupdate =>
    exact .inr ⟨manager, now, poll, outcome, effect, rfl, hsession, hupdate⟩

/-! ## Receipts and their jobs -/

variable {system : System} {db : DB} {work : WorkTables} {poll : Polled} {outcome : ReceiptOutcome}

theorem started_status {awaiting : ExecutorState} (hawaited : awaited task.purpose = some awaiting)
    (hstarted : Started work task) : ∃ status, executorStatus work task.guid = some status ∧
      rank awaiting ≤ rank status ∧ (Past work task ↔ rank awaiting < rank status) := by
  rw [started_iff hawaited] at hstarted
  obtain ⟨status, hstatus, hrank⟩ :=
    exists_status_of_rank ((rank_of_awaited hawaited).trans_le hstarted)
  rw [hrank] at hstarted
  exact ⟨status, hstatus, hstarted, by rw [past_iff hawaited, hrank]⟩

theorem started_cases (hpacket : txSendScopeKind task.purpose = .packet)
    (hstarted : Started work task) : Waits work task ∨ Past work task ∨
      task.purpose = .executorLzReceive ∧
        executorStatus work task.guid = some .lzReceiveFailed := by
  cases hpurpose : task.purpose
  case pricingSetPriceSnapshot | other => rw [hpurpose] at hpacket; cases hpacket
  case dvnVerify =>
    rw [Started, progress.eq_def, hpurpose] at hstarted
    rw [Waits, WaitsOn.eq_def, Past, progress.eq_def, hpurpose]
    dsimp only at hstarted ⊢
    rcases hstatus : dvnStatus work task.guid with - | status
    · simp [hstatus, verifierRank] at hstarted
    · rw [hstatus] at hstarted
      cases status <;> simp [verifierRank] at hstarted ⊢
  case executorCommitVerification | executorLzReceive =>
    have hawaited := congrArg awaited hpurpose
    obtain ⟨status, hstatus, hrank, hpast⟩ := started_status hawaited hstarted
    rw [waits_iff hawaited, hpast, hstatus]
    cases status <;> simp [rank] at hrank ⊢

theorem charged_iff (hheld : AttemptHeld db.tx poll) (outcome : ReceiptOutcome) :
    Charged db guid ⟨outcome, poll.attempt.id⟩ ↔
      (db.work.receiveFailures.find ⟨guid, poll.attempt.txHash⟩).isSome := by
  obtain ⟨attempt, hattempt, hhash, -⟩ := hheld
  rw [Charged, ← hhash]
  constructor
  · rintro ⟨other, hother, hrecorded⟩
    rw [hattempt] at hother
    cases hother
    exact hrecorded
  · exact fun hrecorded => ⟨attempt, hattempt, hrecorded⟩

theorem ReceiptHeld.settled {tx : TxTables} (hheld : ReceiptHeld tx poll outcome)
    (htask : rowTask poll.row = task.columns) :
    Settled tx task poll.row.id ⟨outcome, poll.attempt.id⟩ := by
  obtain ⟨row, hrow, hsame, hreceipt⟩ := hheld.row
  exact settled_of_row hrow (hsame.trans htask) hreceipt

theorem Coherent.hash_of_held (hcoherent : Coherent system)
    (hpacket : txSendScopeKind task.purpose = .packet)
    (hheld : ReceiptHeld system.db.tx poll outcome) (htask : rowTask poll.row = task.columns) :
    poll.attempt.txHash ≠ Hash.zero := by
  obtain ⟨attempt, hattempt, hnonzero⟩ := hcoherent.hashes task hpacket _ _ (hheld.settled htask)
  obtain ⟨stored, hstored, hhash, -⟩ := hheld.attempt
  rw [hstored] at hattempt
  cases hattempt
  exact hhash ▸ hnonzero

theorem Settled.phaseAt_ne_none {tx : TxTables} (hsettled : Settled tx task id resolution) :
    phaseAt tx task id ≠ none := by
  rcases hsettled with hphase | hphase <;> rw [hphase] <;> simp

/-- The job of a receipt waits on it, has left it behind, or has failed with
its failure charged. -/
theorem Orderly.settled_cases (horderly : Orderly system)
    (hpacket : txSendScopeKind task.purpose = .packet)
    (hsettled : Settled system.db.tx task id resolution) :
    Waits system.db.work task ∨ Past system.db.work task ∨ task.purpose = .executorLzReceive ∧
        executorStatus system.db.work task.guid = some .lzReceiveFailed ∧
        resolution.outcome = .receiptFailed ∧ Charged system.db task.guid resolution := by
  rcases started_cases hpacket (horderly.coherent.started task hpacket id
    hsettled.phaseAt_ne_none) with hwaits | hpast | ⟨hpurpose, hfailed⟩
  · exact .inl hwaits
  · exact .inr (.inl hpast)
  rcases hsettled with hpinned | hended
  · have hsame : task = delivery task.guid := by
      rw [delivery, ← hpurpose]
    by_cases hcharged : resolution.outcome = .receiptFailed ∧ Charged system.db task.guid resolution
    · exact .inr (.inr ⟨hpurpose, hfailed, hcharged⟩)
    · exact absurd (.pinned resolution (hsame ▸ hpinned)
        fun houtcome hrecorded => hcharged ⟨houtcome, hrecorded⟩)
        (horderly.failed task.guid id hfailed)
  · rcases horderly.ended task hpacket id resolution hended with
      hpast | ⟨houtcome, hcharged⟩
    · exact .inr (.inl hpast)
    · exact .inr (.inr ⟨hpurpose, hfailed, houtcome, hcharged hpurpose⟩)

/-! ## Sessions -/

variable {effect : WorkflowEffect}

theorem ne_zero_of_charged (hsynced : Synced db.work) (hstarted : Started db.work task)
    (hpurpose : task.purpose = .executorLzReceive) : task.guid ≠ Hash.zero := by
  obtain ⟨status, hstatus, -⟩ := started_status (congrArg awaited hpurpose) hstarted
  exact (hsynced _ _ hstatus).1

theorem reflected_of_mark {now : Time} (hcoherent : Coherent pre)
    (hpacket : txSendScopeKind task.purpose = .packet) (hheld : ReceiptHeld pre.db.tx poll outcome)
    (htask : rowTask poll.row = task.columns)
    (heffect : outcomeEffect task poll.attempt.txHash outcome = some effect)
    (hpost : post.db = (effect.mark.call pre.db now).1) (hafter : AttemptHeld post.db.tx poll)
    (hok : (effect.mark.call pre.db now).2 = .ok ()) :
    Reflected post.db task ⟨outcome, poll.attempt.id⟩ := by
  rcases past_of_mark heffect (hcoherent.hash_of_held hpacket hheld htask) hok
    with hpast | ⟨-, houtcome, hrecorded⟩
  · exact .inl (hpost ▸ hpast)
  · exact .inr ⟨houtcome, fun _ =>
      (charged_iff hafter outcome).mpr (hpost ▸ hrecorded)⟩

theorem past_of_refused {now : Time} {error : StoreError} (horderly : Orderly pre)
    (hpacket : txSendScopeKind task.purpose = .packet) (hheld : ReceiptHeld pre.db.tx poll outcome)
    (htask : rowTask poll.row = task.columns)
    (heffect : outcomeEffect task poll.attempt.txHash outcome = some effect)
    (hrefused : (effect.mark.call pre.db now).2 = .error error) : Past pre.db.work task := by
  have hcoherent := horderly.coherent
  have hhash := hcoherent.hash_of_held hpacket hheld htask
  have hsettled := hheld.settled htask
  rcases horderly.settled_cases hpacket hsettled with
    hwaits | hpast | ⟨hpurpose, -, houtcome, hcharged⟩
  · rw [mark_of_waits heffect hcoherent hhash hwaits] at hrefused
    cases hrefused
  · exact hpast
  · have hguid := ne_zero_of_charged hcoherent.synced (hcoherent.started task
      hpacket _ hsettled.phaseAt_ne_none) hpurpose
    rw [mark_of_recorded heffect hguid hhash hpurpose houtcome
      ((charged_iff hheld.attempt outcome).mp hcharged)] at hrefused
    cases hrefused

/-- Receipts without an effect are reverts that leave their job waiting. -/
theorem reflected_of_effectless {txHash : Hash} (hpacket : txSendScopeKind task.purpose = .packet)
    {attemptId : ℕ} (hnone : outcomeEffect task txHash outcome = none) :
    Reflected db task ⟨outcome, attemptId⟩ := by
  right
  cases hpurpose : task.purpose <;> cases outcome <;>
    simp [outcomeEffect, hpurpose, cancelEffect, receiptEffect] at hnone ⊢ <;>
    rw [hpurpose] at hpacket <;> cases hpacket

theorem sessions_step (horderly : Orderly pre) (hstep : SystemStep deployment pre label post)
    (owner : ℕ) :
    SessionReflected post.db (post.sessions owner) := by
  have hcoherent := horderly.coherent
  have hheld := hcoherent.held owner
  have hafter := sessionHeld_step hcoherent.reached hcoherent.held hstep owner
  have hbefore := horderly.sessions owner
  generalize hpost : post.sessions owner = session at hafter
  cases hpost ▸ session_origin hstep owner with
  | kept hsession => exact sessionReflected_step hcoherent hstep (hsession ▸ hbefore)
  | effectless hsession hnone =>
    intro task htask hpacket
    rw [workflowEffect_of_task htask] at hnone
    exact reflected_of_effectless hpacket hnone
  | checked hsession heffect hholds _ =>
    intro task htask hpacket
    refine reflected_step hcoherent hstep ?_
    rcases hsession with hsession | hsession
    · have happlied := heffect hsession
      rw [workflowEffect_of_task htask] at happlied
      rw [hsession] at hheld
      rcases horderly.settled_cases hpacket (hheld.settled htask) with
        hwaits | hpast | ⟨-, -, houtcome, hcharged⟩
      · exact absurd hwaits (not_waits_of_holds happlied horderly.coherent hholds)
      · exact .inl hpast
      · exact .inr ⟨houtcome, fun _ => hcharged⟩
    · rw [hsession] at hbefore
      exact .inl (hbefore task htask hpacket)
  | marked hlabel hsession hok =>
    intro task htask hpacket
    rw [hsession] at hheld
    have heffect := hheld.2
    rw [EffectOf, workflowEffect_of_task htask] at heffect
    subst hlabel
    exact reflected_of_mark hcoherent hpacket hheld.1 htask heffect
      (mark_db hstep hsession) hafter.attempt hok
  | rejected hlabel hsession hrefused =>
    intro task htask hpacket
    rw [hsession] at hheld
    have heffect := hheld.2
    rw [EffectOf, workflowEffect_of_task htask] at heffect
    exact (past_of_refused horderly hpacket hheld.1 htask heffect
      hrefused).rises (ranksRise_step hcoherent.held hstep)
  | _ => trivial

/-! ## The step -/

/-- A session of a reverted delivery that fails the waiting job. -/
structure FailingMark (pre post : System) (guid : Hash) (poll : Polled)
    (effect : WorkflowEffect) (now : Time) : Prop where
  held : ReceiptHeld pre.db.tx poll .receiptFailed
  task : rowTask poll.row = (delivery guid).columns
  applies : outcomeEffect (delivery guid) poll.attempt.txHash .receiptFailed = some effect
  before : executorStatus pre.db.work guid = some .lzReceiveTxEnqueued
  after : executorStatus post.db.work guid = some .lzReceiveFailed
  db : post.db = (effect.mark.call pre.db now).1

theorem failingMark_of_session {manager : ℕ} {now : Time} {update : ExecutorStatusUpdate}
    (hcoherent : Coherent pre) (hstep : SystemStep deployment pre (.mark manager now) post)
    (hsession : pre.sessions manager = .unapplied poll outcome effect)
    (hupdate : markUpdate effect.mark = some update)
    (hbefore : executorStatus pre.db.work update.guid = some update.expected)
    (hafter : executorStatus post.db.work update.guid = some update.next)
    (hnext : update.next = .lzReceiveFailed) :
    FailingMark pre post update.guid poll effect now := by
  have hheld := hcoherent.held manager
  rw [hsession] at hheld
  obtain ⟨task, htask, heffect⟩ := exists_task hheld.2
  obtain ⟨hguid, hpurpose, houtcome, hexpected⟩ := outcome_of_failed heffect hupdate hnext
  have hsame : task = delivery update.guid := by
    rw [hguid, delivery, ← hpurpose]
  subst hsame houtcome
  exact ⟨hheld.1, htask, heffect, hexpected ▸ hbefore, hnext ▸ hafter, mark_db hstep hsession⟩

section FailingMark

variable {poll : Polled} {effect : WorkflowEffect} {now : Time}
  (hfailing : FailingMark pre post guid poll effect now)

include hfailing

theorem FailingMark.hash (hcoherent : Coherent pre) : poll.attempt.txHash ≠ Hash.zero :=
  hcoherent.hash_of_held (delivery_packet guid) hfailing.held hfailing.task

theorem FailingMark.tx : post.db.tx = pre.db.tx := by
  rw [hfailing.db, WorkflowMark.call_db]
  exact workOp_apply_tx _ _

/-- A charged failure would have been reported without a change. -/
theorem FailingMark.uncharged (hcoherent : Coherent pre) :
    ¬ Charged pre.db guid ⟨.receiptFailed, poll.attempt.id⟩ := by
  intro hcharged
  have hnoop : effect.mark.call pre.db now = commit pre.db () :=
    mark_of_recorded hfailing.applies
      (hcoherent.synced _ _ hfailing.before).1 (hfailing.hash hcoherent) rfl rfl
      ((charged_iff hfailing.held.attempt _).mp hcharged)
  have hafter := hfailing.after
  rw [hfailing.db, hnoop] at hafter
  have hsame := hfailing.before.symm.trans hafter
  cases hsame

theorem FailingMark.charged (hcoherent : Coherent pre) :
    Charged post.db guid ⟨.receiptFailed, poll.attempt.id⟩ := by
  have hok : (effect.mark.call pre.db now).2 = .ok () :=
    mark_of_waits hfailing.applies hcoherent (hfailing.hash hcoherent) hfailing.before
  rcases reflected_of_mark hcoherent (delivery_packet guid) hfailing.held
    hfailing.task hfailing.applies hfailing.db
    (hfailing.tx ▸ hfailing.held.attempt) hok with hpast | ⟨-, hcharged⟩
  · exact absurd hpast (not_past_delivery hfailing.after (by decide))
  · exact hcharged rfl

/-- The delivery that fails its job was the outstanding one, and is so no
longer. -/
theorem FailingMark.not_outstanding (horderly : Orderly pre)
    (hstep : SystemStep deployment pre label post) : ¬ Outstanding post.db guid id := by
  have hcoherent := horderly.coherent
  have huncharged := hfailing.uncharged hcoherent
  have hpinned : phaseAt pre.db.tx (delivery guid) poll.row.id =
      some (.pinned ⟨.receiptFailed, poll.attempt.id⟩) := by
    rcases hfailing.held.settled hfailing.task with hpinned | hended
    · exact hpinned
    rcases horderly.ended _ (delivery_packet guid) _ _ hended with
      hpast | ⟨-, hcharged⟩
    · exact absurd hpast (not_past_delivery hfailing.before le_rfl)
    · exact absurd (hcharged rfl) huncharged
  intro hout
  have hsame : id = poll.row.id := horderly.one guid _ _
    (outstanding_of_phase hcoherent.reached hstep (by rw [hfailing.tx]) hout)
    (.pinned _ hpinned fun _ => huncharged)
  subst hsame
  rw [← hfailing.tx] at hpinned
  cases hout with
  | inFlight hphase | reverted hphase =>
    rw [hpinned] at hphase
    cases hphase
  | pinned resolution hphase hopen =>
    rw [hpinned] at hphase
    cases hphase
    exact hopen rfl (hfailing.charged hcoherent)

end FailingMark

theorem failed_step (horderly : Orderly pre) (hstep : SystemStep deployment pre label post)
    (hspares : sparesWaiting deployment pre label = true)
    (hfailed : executorStatus post.db.work guid = some .lzReceiveFailed) :
    ¬ Outstanding post.db guid id := by
  intro hout
  have hcoherent := horderly.coherent
  rcases task_step hcoherent.held (delivery_packet guid) hcoherent.reached hstep
    with ⟨htx, -⟩ | ⟨op, -, heffect, hjobs⟩
  · have hbefore := outstanding_of_phase hcoherent.reached hstep (by rw [htx]) hout
    rcases executorStatus_step hstep guid with
      hsame | ⟨-, first, hfirst, hassigned⟩ | ⟨status, next, -, hafter, hmove⟩ |
        ⟨update, hcall, rfl, hexpected, hnext, hfresh⟩
    · exact horderly.failed guid id (hsame ▸ hfailed) hbefore
    · rw [hfailed] at hassigned
      cases hassigned
      exact absurd hfirst (by decide)
    · rw [hfailed] at hafter
      cases hafter
      cases hmove
    · have hmoved : update.next = .lzReceiveFailed := Option.some.inj (hnext.symm.trans hfailed)
      rcases failed_of_call hspares hcall hexpected hfresh hmoved with
        hrank | ⟨manager, now, poll, outcome, effect, rfl, hsession, hupdate⟩
      · have hstarted := rank_of_outstanding hcoherent hbefore
        rw [executorRank_eq hexpected] at hstarted
        omega
      · exact (failingMark_of_session hcoherent hstep hsession hupdate hexpected
          hnext hmoved).not_outstanding horderly hstep hout
  · have hbefore : executorStatus pre.db.work guid = some .lzReceiveFailed := by
      rcases hjobs.executorStatus_cases guid with
        hsame | ⟨status, next, -, hafter, hmove⟩
      · exact hsame ▸ hfailed
      · rw [hfailed] at hafter
        cases hafter
        cases hmove
    rcases outstanding_origin hcoherent.reached hstep (heffect.rowMove id) hout
      with hold | ⟨hcause, -⟩
    · exact horderly.failed guid id hbefore hold
    cases hcause with
    | enqueued _ hwaits =>
      have hsame := hfailed.symm.trans hwaits
      cases hsame
    | cloned _ _ _ _ hdelivery =>
      have hsame := hfailed.symm.trans (hdelivery rfl).2
      cases hsame
    | replaced _ _ hwaits _ =>
      have hsame := hbefore.symm.trans hwaits
      cases hsame

theorem finalized_session {now clock : Time} {attemptID : ℕ} {facts : TxReceiptFacts}
    (hcalls : Calls deployment pre label
      (.tx (.finalizeAttemptReceipt now clock attemptID facts))) :
    ∃ manager poll outcome, label = .finalize manager now clock ∧
      pre.sessions manager = .applied poll outcome ∧ attemptID = poll.attempt.id := by
  generalize hop : Op.tx (.finalizeAttemptReceipt now clock attemptID facts) = op at hcalls
  cases hcalls with
  | finalized hsession =>
    cases hop
    exact ⟨_, _, _, rfl, hsession, rfl⟩
  | worker _ hcall => cases hcall <;> cases hop
  | background hback =>
    subst hop
    cases hback
  | observed | pinned | marked => cases hop

section

variable (horderly : Orderly pre) (hstep : SystemStep deployment pre label post)

include horderly hstep

theorem ended_step (hpacket : txSendScopeKind task.purpose = .packet)
    (hended : phaseAt post.db.tx task id = some (.ended resolution)) :
    Reflected post.db task resolution := by
  have hcoherent := horderly.coherent
  refine reflected_step hcoherent hstep ?_
  rcases task_step hcoherent.held hpacket hcoherent.reached hstep with
    ⟨htx, -⟩ | ⟨op, hcalls, heffect, -⟩
  · exact horderly.ended task hpacket id resolution (htx ▸ hended)
  rcases (heffect.rowMove id).ended_origin hended with
    hbefore | ⟨hpinned, now, clock, facts, rfl⟩
  · exact horderly.ended task hpacket id resolution hbefore
  · obtain ⟨manager, poll, outcome, -, hsession, hattempt⟩ := finalized_session hcalls
    have hheld := hcoherent.held manager
    have hreflected := horderly.sessions manager
    rw [hsession] at hheld hreflected
    obtain ⟨-, htask, hsame⟩ := hheld.unique hcoherent.reached.sound (.inl hpinned) hattempt
    exact hsame ▸ hreflected task htask hpacket

theorem canceled_step (hended : phaseAt post.db.tx (delivery guid) id = some (.ended resolution))
    (hcanceled : resolution.outcome = .canceled) (other : ℕ) :
    ¬ Outstanding post.db guid other := by
  intro hout
  have hcoherent := horderly.coherent
  have hwaitless : ¬ Waits post.db.work (delivery guid) := by
    intro hwaits
    rcases ended_step horderly hstep (delivery_packet guid) hended with
      hpast | ⟨hfailed, -⟩
    · exact not_past_delivery hwaits le_rfl hpast
    · rw [hcanceled] at hfailed
      cases hfailed
  rcases task_step hcoherent.held (delivery_packet guid) hcoherent.reached hstep
    with ⟨htx, -⟩ | ⟨op, -, heffect, -⟩
  · exact horderly.canceled guid id resolution (htx ▸ hended) hcanceled other
      (outstanding_of_phase hcoherent.reached hstep (by rw [htx]) hout)
  rcases outstanding_origin hcoherent.reached hstep (heffect.rowMove other) hout
    with hbefore | ⟨hcause, -⟩
  · rcases (heffect.rowMove id).ended_origin hended with
      hearlier | ⟨hpinned, -⟩
    · exact horderly.canceled guid id resolution hearlier hcanceled other hbefore
    · have hlast : Outstanding pre.db guid id := .pinned resolution hpinned fun hfailed => by
          rw [hcanceled] at hfailed
          cases hfailed
      rw [horderly.one guid other id hbefore hlast] at hout
      exact not_outstanding hended (by simp) (by simp) (by simp) hout
  cases hcause with
  | enqueued _ hwaits => exact hwaitless hwaits
  | cloned _ _ _ _ hdelivery => exact hwaitless (hdelivery rfl).2
  | replaced _ _ hwaits hwork => exact hwaitless (hwork ▸ hwaits)

theorem orderly_step (hspares : sparesWaiting deployment pre label = true) : Orderly post where
  coherent := coherent_step horderly.coherent hstep
  one _ _ _ := one_step horderly hstep
  failed _ _ := failed_step horderly hstep hspares
  ended _ hpacket _ _ := ended_step horderly hstep hpacket
  sessions := sessions_step horderly hstep
  canceled _ _ _ := canceled_step horderly hstep

end

theorem orderly_empty : Orderly System.empty where
  coherent := coherent_empty
  one guid first second hfirst := absurd rfl hfirst.phaseAt_ne_none
  failed guid id hfailed := by cases hfailed
  ended task _ id resolution hended := by cases hended
  sessions _ := trivial
  canceled guid id resolution hended := by cases hended

theorem orderly_run {history : List (Event System Label)}
    (hrun : SystemRun deployment history system)
    (hspares : ∀ event ∈ history, sparesWaiting deployment event.pre event.label = true) :
    Orderly system :=
  hrun.history_invariant (fun event => sparesWaiting deployment event.pre event.label = true)
    (fun _ system => Orderly system)
    (fun _ _ _ _ horderly hstep hspare => orderly_step horderly hstep hspare) orderly_empty hspares

end Lazier.Delivery
