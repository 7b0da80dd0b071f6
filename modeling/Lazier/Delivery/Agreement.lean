import Lazier.Delivery.Moves

/-!
# Jobs and rows agree

Facts that hold in every state of the system: a job and its packet show the
same status, a task has rows only after its job has enqueued one, and the
winning attempt of a receipt carries a transaction hash.
-/

namespace Lazier.Delivery

open Chain Executor Indexer Ledger Library Manager Store Workflow Option

variable {work : WorkTables} {status : ExecutorState}

/-! ## Packets show the status of their job -/

/-- The packet of a job shows its status. -/
def Shown (work : WorkTables) (guid : Hash) : Prop :=
  ∃ status, executorStatus work guid = some status ∧ packetStatus work guid = some status

/-- The packet of a job exists and shows its status; a job that is still as the
source stream created it may have found a packet of another stream. -/
def Synced (work : WorkTables) : Prop := ∀ guid status, executorStatus work guid = some status →
    guid ≠ Hash.zero ∧ ∃ shown, packetStatus work guid = some shown ∧
      (status ∉ firstStatuses → shown = status)

theorem Synced.shown (hsynced : Synced work) {guid : Hash}
    (hstatus : executorStatus work guid = some status) (hmoved : status ∉ firstStatuses) :
    Shown work guid := by
  obtain ⟨-, shown, hshown, hsame⟩ := hsynced guid status hstatus
  exact ⟨status, hstatus, hsame hmoved ▸ hshown⟩

theorem TxMove.late {next : ExecutorState} (hmove : TxMove status next) :
    status ∉ firstStatuses := by
  cases hmove with
  | commit => decide
  | deliver hfrom => rcases hfrom with rfl | rfl <;> decide
  | park hfrom => rcases hfrom with rfl | rfl | rfl <;> decide

theorem packet_of_awaited {task : Task} (hawaited : awaited task.purpose = some status) :
    txSendScopeKind task.purpose = .packet := by
  cases hpurpose : task.purpose <;> rw [hpurpose] at hawaited <;>
    cases hawaited <;> rfl

theorem late_of_awaited {task : Task} (hawaited : awaited task.purpose = some status) :
    status ∉ firstStatuses := by
  cases hpurpose : task.purpose <;> rw [hpurpose] at hawaited <;>
    cases hawaited <;> decide

/-- A change of the tables, seen from one job that was there before: the job
and its packet stay as they are, or the packet shows where the job went. -/
inductive JobSeen (pre post : WorkTables) (guid : Hash) : Prop
  | kept (hstatus : executorStatus post guid = executorStatus pre guid)
      (hpacket : ∀ shown, packetStatus pre guid = some shown → packetStatus post guid = some shown)
  | moved (hbefore : executorStatus pre guid ≠ none) (hshown : Shown post guid)

variable {pre inner post : WorkTables} {guid : Hash} {next : ExecutorState}

theorem JobSeen.shown (hseen : JobSeen pre post guid) (hshown : Shown pre guid) :
    Shown post guid := by
  cases hseen with
  | kept hstatus hpacket =>
    obtain ⟨status, hbefore, hpacketBefore⟩ := hshown
    exact ⟨status, hstatus.trans hbefore, hpacket status hpacketBefore⟩
  | moved _ hafter => exact hafter

theorem Synced.setPacketStatus (hsynced : Synced pre) (hguid : executorStatus pre guid ≠ none)
    (hstatus : ∀ other, executorStatus inner other =
      if other = guid then some next else executorStatus pre other)
    (hpackets : inner.packets = pre.packets) (other : Hash) :
    JobSeen pre (inner.setPacketStatus guid next) other := by
  have hpacket : packetStatus inner other = packetStatus pre other := by
    rw [packetStatus, packetStatus, hpackets]
  have hjob : executorStatus (inner.setPacketStatus guid next) other =
      executorStatus inner other := by
    rw [executorStatus, setPacketStatus_executorJobs, executorStatus]
  by_cases heq : other = guid
  · subst heq
    obtain ⟨before, hbefore⟩ := ne_none_iff_exists'.mp hguid
    obtain ⟨-, shown, hshown, -⟩ := hsynced other before hbefore
    refine .moved hguid ⟨next, ?_, ?_⟩
    · rw [hjob, hstatus, if_pos rfl]
    · rw [packetStatus_setPacketStatus_self, hpacket, hshown, map_some]
  · refine .kept ?_ fun shown hshown => ?_
    · rw [hjob, hstatus, if_neg heq]
    · rw [packetStatus_setPacketStatus_of_ne _ _ _ heq, hpacket]
      exact hshown

theorem Synced.jobsStep (hsynced : Synced pre) (hstep : JobsStep pre post) (other : Hash) :
    JobSeen pre post other := by
  cases hstep with
  | same => exact .kept rfl fun _ hshown => hshown
  | @executor guid job after expected _ hpost hfind hguid _ hexpected hmove =>
    have hstatus : executorStatus pre guid = some expected := hexpected ▸ executorStatus_eq hfind
    have hset : ∀ other, executorStatus (pre.setExecutorJob after) other =
        if other = guid then some after.status
        else executorStatus pre other :=
      executorStatus_of_set rfl hfind hguid
    have hseen := hsynced.setPacketStatus (by rw [hstatus]; simp) hset rfl other
    rcases hpost with rfl | rfl
    · exact hseen
    · obtain ⟨-, shown, hshown, hsame⟩ := hsynced guid expected hstatus
      rw [casPacketStatus_eq]
      · exact hseen
      · exact hsame hmove.late ▸ hshown
  | dvn hpost => exact hpost ▸ .kept rfl fun _ hshown => hshown

/-- A store call, seen from one job: the job is seen as before, or it is new. -/
theorem JobStep.seen {deployment : Deployment} {system : System} {label : Label} {op : Op}
    (hsynced : Synced system.db.work) (hstep : JobStep deployment system label op post)
    (guid : Hash) :
    JobSeen system.db.work post guid ∨
      ∃ now job, label = .call (.work (.upsertExecutorJob now job)) ∧ job.guid = guid ∧
        JobAssigned system.db.work post job.guid job.status := by
  cases hstep with
  | kept hkept =>
    refine .inl (.kept ?_ (hkept.executor.packets guid))
    rw [executorStatus_eq_map, executorStatus_eq_map, hkept.executor.jobs]
  | @assigned now job hlabel hassigned =>
    by_cases heq : job.guid = guid
    · exact .inr ⟨now, job, hlabel, heq, hassigned⟩
    · refine .inl (.kept ?_ fun shown hshown => ?_)
      · rw [hassigned.executorStatus, if_neg (Ne.symm heq)]
      · rw [packetStatus, hassigned.packets]
        exact hshown
  | @updated now update result hcall hupdates hpost =>
    subst hpost
    left
    cases hupdates with
    | refused | repeated => exact .kept rfl fun _ hshown => hshown
    | moved job _ hjob _ _ =>
      have hguid : (advancedJob now update job).guid = job.guid := rfl
      have hset : ∀ other, executorStatus (WorkTables.setExecutorJob
          { system.db.work with
            receiveFailures := chargedFailures system.db.work update }
          (advancedJob now update job)) other =
          if other = update.guid then some update.next
          else executorStatus system.db.work other :=
        executorStatus_of_set rfl hjob hguid
      exact hsynced.setPacketStatus (by rw [executorStatus_eq hjob]; simp) hset rfl guid
  | moved _ hstep => exact .inl (hsynced.jobsStep hstep guid)

theorem Synced.jobStep {deployment : Deployment} {system : System} {label : Label} {op : Op}
    (hsynced : Synced system.db.work) (hstep : JobStep deployment system label op post) :
    Synced post := by
  intro guid status hstatus
  rcases hstep.seen hsynced guid with hseen | ⟨now, job, -, rfl, hassigned⟩
  · cases hseen with
    | kept hkept hpacket =>
      obtain ⟨hnonzero, shown, hshown, hsame⟩ := hsynced guid status (hkept ▸ hstatus)
      exact ⟨hnonzero, shown, hpacket shown hshown, hsame⟩
    | moved hbefore hshown =>
      obtain ⟨before, hbefore⟩ := ne_none_iff_exists'.mp hbefore
      obtain ⟨after, hafter, hshown⟩ := hshown
      have hsame : after = status := some.inj (hafter.symm.trans hstatus)
      exact ⟨(hsynced guid before hbefore).1, after, hshown, fun _ => hsame⟩
  · rw [hassigned.executorStatus, if_pos rfl] at hstatus
    cases hstatus
    obtain ⟨shown, hshown⟩ := ne_none_iff_exists'.mp hassigned.packet
    refine ⟨hassigned.nonzero, shown, ?_, fun hlate => absurd hassigned.first hlate⟩
    rw [packetStatus, hassigned.packets]
    exact hshown

/-! ## Receipts of a task -/

/-- A row of the task has this receipt, finalized or not. -/
def Settled (tx : TxTables) (task : Task) (id : ℕ) (resolution : Resolution) : Prop :=
  phaseAt tx task id = some (.pinned resolution) ∨ phaseAt tx task id = some (.ended resolution)

section Receipts

variable {task : Task} {pre post : DB} {op : TxOp} {id : ℕ} {resolution : Resolution}

theorem settled_of_row {tx : TxTables} {row : OutboxRow} (hfind : tx.outbox.find id = some row)
    (htask : rowTask row = task.columns) (hreceipt : row.receipt = some resolution) :
    Settled tx task id resolution := by
  rw [Settled, phaseAt_eq hfind htask, phase, hreceipt]
  dsimp only
  split
  · exact .inr rfl
  · exact .inl rfl

theorem not_settled {tx : TxTables} {reached : Phase} (hphase : phaseAt tx task id = some reached)
    (hpinned : ∀ resolution, reached ≠ .pinned resolution)
    (hended : ∀ resolution, reached ≠ .ended resolution) : ¬ Settled tx task id resolution := by
  rintro (hsettled | hsettled) <;> rw [hphase] at hsettled
  · exact hpinned _ (some.inj hsettled)
  · exact hended _ (some.inj hsettled)

theorem Settled.unique {tx : TxTables} {first second : Resolution}
    (hfirst : Settled tx task id first) (hsecond : Settled tx task id second) : first = second := by
  rcases hfirst with hfirst | hfirst <;> rcases hsecond with hsecond | hsecond <;>
    rw [hfirst] at hsecond <;> cases hsecond <;> rfl

/-- The pin of a receipt. -/
structure PinOf (task : Task) (pre : DB) (op : TxOp) (id : ℕ) (resolution : Resolution) : Prop where
  call : ∃ now facts attempt row, op = .prepareReceiptResolution now resolution.attemptId facts ∧
      ReceiptOf pre resolution.attemptId facts attempt row ∧ row.id = id ∧
      resolution.outcome = deriveOutcome attempt.kind row.cancelRequestedAt.isSome facts.status
  before : phaseAt pre.tx task id = some .inFlight

/-- Why a row of the task is inserted. -/
inductive Cause (task : Task) (pre : DB) (op : TxOp) (post : DB) : Prop
  | enqueued (hready : ReadyFor pre.work task) (hwaits : Waits post.work task)
  | cloned {row : OutboxRow} {resolution : Resolution} (hcall : RetryCall pre.tx row op)
      (hfailed : resolution.outcome = .receiptFailed)
      (hparent : phaseAt pre.tx task row.id = some (.ended resolution))
      (hdone : ¬ DueAt post.tx task row.id)
      (hdelivery : task.purpose = .executorLzReceive →
        executorStatus pre.work task.guid = some .lzReceiveFailed ∧ Waits post.work task)
  | replaced {old : ℕ} (hfrom : phaseAt pre.tx task old = some .inFlight)
      (hto : phaseAt post.tx task old = some .consumed)
      (hwaits : Waits pre.work task) (hwork : post.work = pre.work)

/-- A transaction method, seen from one row of a task. -/
inductive RowMove (task : Task) (pre : DB) (op : TxOp) (post : DB) (id : ℕ) : Prop
  | kept (hkept : Kept task pre.tx post.tx id)
  | reverted (hfrom : phaseAt pre.tx task id = some .inFlight)
      (hto : phaseAt post.tx task id = some .reverted)
  | requeued (hfrom : phaseAt pre.tx task id = some .reverted)
      (hto : phaseAt post.tx task id = some .inFlight)
  | pinned (resolution : Resolution) (hpin : PinOf task pre op id resolution)
      (hto : phaseAt post.tx task id = some (.pinned resolution))
  | finalized (resolution : Resolution)
      (hop : ∃ now clock facts, op = .finalizeAttemptReceipt now clock resolution.attemptId facts)
      (hfrom : Settled pre.tx task id resolution)
      (hto : phaseAt post.tx task id = some (.ended resolution))
  | inserted (hcause : Cause task pre op post)
      (hnewest : ∀ other, phaseAt pre.tx task other ≠ none → other < id)
      (hto : phaseAt post.tx task id = some .inFlight)
  | parent (resolution : Resolution) (hfrom : phaseAt pre.tx task id = some (.ended resolution))
      (hto : phaseAt post.tx task id = some (.ended resolution)) (hdone : ¬ DueAt post.tx task id)
  | consumed (hfrom : phaseAt pre.tx task id = some .inFlight)
      (hto : phaseAt post.tx task id = some .consumed)

theorem TaskEffect.rowMove (heffect : TaskEffect task pre op post) (id : ℕ) :
    RowMove task pre op post id := by
  have hbeside : ∀ {moved : ℕ}, (∀ other, other ≠ moved → Kept task pre.tx post.tx other) →
      (id = moved → RowMove task pre op post id) → RowMove task pre op post id := by
    intro moved hrest hmove
    by_cases hid : id = moved
    · exact hmove hid
    · exact .kept (hrest id hid)
  cases heffect with
  | kept hrows _ => exact .kept (hrows id)
  | reverted hfrom hto hrest => exact hbeside hrest fun hid => .reverted (hid ▸ hfrom) (hid ▸ hto)
  | requeued hfrom hto hrest => exact hbeside hrest fun hid => .requeued (hid ▸ hfrom) (hid ▸ hto)
  | @pinned now attemptID facts _ attempt row pinned hreceipt hpinned hfrom hto hrest _ =>
    refine hbeside hrest ?_
    rintro rfl
    subst hpinned
    exact .pinned _ ⟨⟨now, facts, attempt, row, rfl, hreceipt, rfl, rfl⟩, hfrom⟩ hto
  | @finalized now clock attemptID facts _ moved ended hattempt hfrom hto hrest =>
    refine hbeside hrest ?_
    rintro rfl
    subst hattempt
    exact .finalized ended ⟨now, clock, facts, rfl⟩ hfrom hto
  | enqueued hnewest hchild hrest hready hwaits =>
    exact hbeside hrest fun hid =>
      .inserted (.enqueued hready hwaits) (hid ▸ hnewest) (hid ▸ hchild)
  | @cloned _ _ row child parent hcall hfailed hparent hafter hdone hnewest
      hchild hrest hdelivery _ =>
    by_cases hid : id = child
    · exact .inserted (.cloned hcall hfailed hparent hdone hdelivery) (hid ▸ hnewest) (hid ▸ hchild)
    · by_cases hrow : id = row.id
      · exact .parent parent (hrow ▸ hparent) (hrow ▸ hafter) (hrow ▸ hdone)
      · exact .kept (hrest id hrow hid)
  | @replaced _ _ moved child hfrom hto hnewest hchild hrest hwaits hwork =>
    by_cases hid : id = child
    · exact .inserted (.replaced hfrom hto hwaits hwork) (hid ▸ hnewest) (hid ▸ hchild)
    · by_cases hmoved : id = moved
      · exact .consumed (hmoved ▸ hfrom) (hmoved ▸ hto)
      · exact .kept (hrest id hmoved hid)
  | abandoned hfrom hto hrest => exact hbeside hrest fun hid => .consumed (hid ▸ hfrom) (hid ▸ hto)

theorem RowMove.settled_origin (hmove : RowMove task pre op post id)
    (hsettled : Settled post.tx task id resolution) :
    Settled pre.tx task id resolution ∨ PinOf task pre op id resolution := by
  cases hmove with
  | kept hkept =>
    rw [Settled, hkept.1] at hsettled
    exact .inl hsettled
  | reverted _ hto | requeued _ hto | inserted _ _ hto | consumed _ hto =>
    exact absurd hsettled (not_settled hto (by simp) (by simp))
  | pinned pinned hpin hto => exact .inr (hsettled.unique (.inl hto) ▸ hpin)
  | finalized ended _ hfrom hto => exact .inl (hsettled.unique (.inr hto) ▸ hfrom)
  | parent ended hfrom hto _ => exact .inl (.inr (hsettled.unique (.inr hto) ▸ hfrom))

theorem RowMove.ended_origin (hmove : RowMove task pre op post id)
    (hended : phaseAt post.tx task id = some (.ended resolution)) :
    phaseAt pre.tx task id = some (.ended resolution) ∨
      phaseAt pre.tx task id = some (.pinned resolution) ∧
        ∃ now clock facts, op = .finalizeAttemptReceipt now clock
          resolution.attemptId facts := by
  cases hmove with
  | kept hkept => exact .inl (hkept.1 ▸ hended)
  | parent ended hfrom hto _ =>
    have hsame := hended.symm.trans hto
    cases hsame
    exact .inl hfrom
  | finalized ended hop hfrom hto =>
    have hsame := hended.symm.trans hto
    cases hsame
    rcases hfrom with hpinned | hbefore
    · exact .inr ⟨hpinned, hop⟩
    · exact .inl hbefore
  | reverted _ hto | requeued _ hto | pinned _ _ hto | inserted _ _ hto
  | consumed _ hto =>
    have hsame := hended.symm.trans hto
    cases hsame

theorem TaskEffect.child_unique (heffect : TaskEffect task pre op post) :
    ∃ child, ∀ id, phaseAt pre.tx task id = none → phaseAt post.tx task id ≠ none → id = child := by
  have hcontra : ∀ {id : ℕ}, phaseAt pre.tx task id = none →
      phaseAt post.tx task id ≠ none → ¬ Kept task pre.tx post.tx id :=
    fun hnone hsome hkept => hsome (hkept.1.trans hnone)
  cases heffect with
  | kept hrows _ => exact ⟨0, fun id hnone hsome => absurd (hrows id) (hcontra hnone hsome)⟩
  | reverted _ _ hrest | requeued _ _ hrest | pinned _ _ _ _ hrest
  | finalized _ _ _ hrest | enqueued _ _ hrest | abandoned _ _ hrest =>
    exact ⟨_, fun id hnone hsome => not_not.mp fun hid =>
      hcontra hnone hsome (hrest id hid)⟩
  | cloned _ _ hfrom _ _ _ _ hrest | replaced hfrom _ _ _ hrest =>
    refine ⟨_, fun id hnone hsome => not_not.mp fun hid =>
      hcontra hnone hsome (hrest id ?_ hid)⟩
    rintro rfl
    rw [hnone] at hfrom
    cases hfrom

theorem row_origin (heffect : TaskEffect task pre op post)
    (hphase : phaseAt post.tx task id ≠ none) :
    (∃ old, phaseAt pre.tx task old ≠ none) ∨ Waits post.work task := by
  cases heffect with
  | kept hrows _ => exact .inl ⟨id, (hrows id).1 ▸ hphase⟩
  | enqueued _ _ _ _ hwaits => exact .inr hwaits
  | finalized _ hfrom _ _ _ =>
    rcases hfrom with hfrom | hfrom <;>
      exact .inl ⟨_, by rw [hfrom]; simp⟩
  | cloned _ _ hparent => exact .inl ⟨_, by rw [hparent]; simp⟩
  | pinned _ _ hfrom | reverted hfrom | requeued hfrom | replaced hfrom | abandoned hfrom =>
    exact .inl ⟨_, by rw [hfrom]; simp⟩

end Receipts

/-! ## Receipts of a session -/

variable {tx : TxTables} {task : Task} {id : ℕ} {resolution : Resolution} {poll : Polled}
  {outcome : ReceiptOutcome}

theorem exists_receipt (hsettled : Settled tx task id resolution) :
    ∃ row, tx.outbox.find id = some row ∧ rowTask row = task.columns ∧
      row.receipt = some resolution := by
  obtain ⟨reached, hphase, hcases⟩ : ∃ reached, phaseAt tx task id = some reached ∧
      (reached = .pinned resolution ∨ reached = .ended resolution) := by
    rcases hsettled with hphase | hphase
    · exact ⟨_, hphase, .inl rfl⟩
    · exact ⟨_, hphase, .inr rfl⟩
  obtain ⟨row, hfind, hmine, hrow⟩ := exists_rowAt hphase
  refine ⟨row, hfind, hmine, ?_⟩
  rw [phase] at hrow
  split at hrow
  · rename_i stored hstored
    split at hrow <;> subst hrow <;> simp_all
  · repeat' split at hrow
    all_goals subst hrow; simp at hcases

theorem settled_attempt (hsound : Sound tx) (hsettled : Settled tx task id resolution) :
    ∃ attempt, tx.attempts.find resolution.attemptId = some attempt ∧ attempt.outboxID = id := by
  obtain ⟨row, hfind, -, hreceipt⟩ := exists_receipt hsettled
  obtain ⟨hmem, rfl⟩ := SerialTable.find_eq_some.mp hfind
  obtain ⟨attempt, hattempt, hid, howner⟩ := (hsound.rows row hmem).pinned resolution hreceipt
  exact ⟨attempt, SerialTable.find_eq_some.mpr ⟨hattempt, hid⟩, howner⟩

/-- The receipt of a session's attempt is the one that the session holds. -/
theorem ReceiptHeld.unique (hsound : Sound tx) (hheld : ReceiptHeld tx poll outcome)
    (hsettled : Settled tx task id resolution) (hattempt : resolution.attemptId = poll.attempt.id) :
    id = poll.row.id ∧ rowTask poll.row = task.columns ∧
      resolution = ⟨outcome, poll.attempt.id⟩ := by
  obtain ⟨attempt, hfound, howner⟩ := settled_attempt hsound hsettled
  obtain ⟨stored, hstored, -, hkeeper⟩ := hheld.attempt
  rw [hattempt, hstored] at hfound
  cases hfound
  have hid : id = poll.row.id := howner.symm.trans hkeeper
  obtain ⟨row, hrow, hmine, hreceipt⟩ := exists_receipt hsettled
  obtain ⟨held, hheldrow, hsame, hheldreceipt⟩ := hheld.row
  rw [hid, hheldrow] at hrow
  cases hrow
  rw [hheldreceipt] at hreceipt
  exact ⟨hid, hsame.symm.trans hmine, (some.inj hreceipt).symm⟩

/-! ## The invariant -/

/-- The winning attempt of a receipt has a transaction hash. -/
def HashPresent (tx : TxTables) (resolution : Resolution) : Prop :=
  ∃ attempt, tx.attempts.find resolution.attemptId = some attempt ∧ attempt.txHash ≠ Hash.zero

theorem HashPresent.persists {pre post : TxTables} (hpersists : Persists pre post)
    (hhash : HashPresent pre resolution) :
    HashPresent post resolution := by
  obtain ⟨attempt, hattempt, hnonzero⟩ := hhash
  obtain ⟨after, hafter, hkept, -⟩ := hpersists.attempts _ _ hattempt
  exact ⟨after, hafter, hkept ▸ hnonzero⟩

theorem PinOf.hashPresent {pre : DB} {op : TxOp} (hpin : PinOf task pre op id resolution) :
    HashPresent pre.tx resolution := by
  obtain ⟨now, facts, attempt, row, -, hreceipt, -, -⟩ := hpin.call
  refine ⟨attempt, hreceipt.found, ?_⟩
  rw [hreceipt.hash]
  intro hzero
  have hvalid := hreceipt.valid
  rw [TxReceiptFacts.validationError, if_pos hzero] at hvalid
  cases hvalid

structure Coherent (system : System) : Prop where
  reached : Reached system.db
  held : ∀ owner, SessionHeld system.db.tx (system.sessions owner)
  synced : Synced system.db.work
  verifiers : dvnStatus system.db.work Hash.zero = none
  started : ∀ task, txSendScopeKind task.purpose = .packet →
    ∀ id, phaseAt system.db.tx task id ≠ none → Started system.db.work task
  shown : ∀ task, awaited task.purpose ≠ none → ∀ id, phaseAt system.db.tx task id ≠ none →
      Shown system.db.work task.guid
  hashes : ∀ task, txSendScopeKind task.purpose = .packet →
    ∀ id resolution, Settled system.db.tx task id resolution → HashPresent system.db.tx resolution

section Coherent

variable {deployment : Deployment} {pre post system : System} {label : Label}

theorem JobStep.zero {op : Op} (hstep : JobStep deployment pre label op work)
    (hnone : dvnStatus pre.db.work Hash.zero = none) : dvnStatus work Hash.zero = none := by
  cases hstep with
  | kept hkept => exact hkept.verifier.zero hnone
  | assigned _ hassigned =>
    rw [dvnStatus, hassigned.verifiers]
    exact hnone
  | updated _ hupdates hpost =>
    subst hpost
    cases hupdates with
    | refused | repeated => exact hnone
    | moved job =>
      rw [dvnStatus]
      exact (congrArg (fun jobs => (jobs.find Hash.zero).map
        DVNJobRow.status) advance_dvnJobs).trans hnone
  | moved _ hstep =>
    rcases hstep.dvnStatus_cases Hash.zero with
      hsame | ⟨status, next, hbefore, -, -⟩
    · exact hsame.trans hnone
    · rw [hnone] at hbefore
      cases hbefore

section

variable (hcoherent : Coherent pre) (hstep : SystemStep deployment pre label post)

include hcoherent hstep

theorem Coherent.synced_step : Synced post.db.work := by
  obtain ⟨op, hjob⟩ := jobStep_step hstep
  exact hcoherent.synced.jobStep hjob

theorem Coherent.seen (guid : Hash) :
    JobSeen pre.db.work post.db.work guid ∨
      ∃ now job, label = .call (.work (.upsertExecutorJob now job)) ∧ job.guid = guid ∧
        JobAssigned pre.db.work post.db.work job.guid job.status := by
  obtain ⟨op, hjob⟩ := jobStep_step hstep
  exact hjob.seen hcoherent.synced guid

theorem Coherent.shown_step (hshown : Shown pre.db.work guid) : Shown post.db.work guid := by
  rcases hcoherent.seen hstep guid with hseen | ⟨now, job, -, rfl, hassigned⟩
  · exact hseen.shown hshown
  · obtain ⟨status, hstatus, -⟩ := hshown
    have hfresh := hassigned.fresh
    rw [executorStatus_eq_map, hfresh] at hstatus
    cases hstatus

theorem coherent_step : Coherent post where
  reached := reached_step hcoherent.reached hstep
  held := sessionHeld_step hcoherent.reached hcoherent.held hstep
  synced := hcoherent.synced_step hstep
  verifiers := by
    obtain ⟨op, hjob⟩ := jobStep_step hstep
    exact hjob.zero hcoherent.verifiers
  started := by
    intro task hpacket id hphase
    have hrise := ranksRise_step hcoherent.held hstep
    rcases task_step hcoherent.held hpacket hcoherent.reached hstep with
      ⟨htx, -⟩ | ⟨op, -, heffect, -⟩
    · exact (hcoherent.started task hpacket id (htx ▸ hphase)).rises hrise
    · rcases row_origin heffect hphase with ⟨old, hold⟩ | hwaits
      · exact (hcoherent.started task hpacket old hold).rises hrise
      · exact started_of_waits hwaits
  shown := by
    intro task hexecutor id hphase
    obtain ⟨status, hawaited⟩ := ne_none_iff_exists'.mp hexecutor
    rcases task_step hcoherent.held (packet_of_awaited hawaited)
      hcoherent.reached hstep with ⟨htx, -⟩ | ⟨op, -, heffect, -⟩
    · exact hcoherent.shown_step hstep (hcoherent.shown task hexecutor id (htx ▸ hphase))
    · rcases row_origin heffect hphase with ⟨old, hold⟩ | hwaits
      · exact hcoherent.shown_step hstep (hcoherent.shown task hexecutor old hold)
      · exact (hcoherent.synced_step hstep).shown
          ((waits_iff hawaited).mp hwaits) (late_of_awaited hawaited)
  hashes := by
    intro task hpacket id resolution hsettled
    have hpersists := persists_step hcoherent.reached hstep
    rcases task_step hcoherent.held hpacket hcoherent.reached hstep with
      ⟨htx, -⟩ | ⟨op, -, heffect, -⟩
    · rw [htx] at hsettled ⊢
      exact hcoherent.hashes task hpacket id resolution hsettled
    · rcases (heffect.rowMove id).settled_origin hsettled with hbefore | hpin
      · exact (hcoherent.hashes task hpacket id resolution hbefore).persists hpersists
      · exact hpin.hashPresent.persists hpersists

end

theorem coherent_empty : Coherent System.empty where
  reached := ⟨[], .start⟩
  held _ := trivial
  synced guid status hstatus := by cases hstatus
  verifiers := rfl
  started task _ id hphase := absurd rfl hphase
  shown task _ id hphase := absurd rfl hphase
  hashes task _ id resolution hsettled := by
    rcases hsettled with hsettled | hsettled <;> cases hsettled

theorem coherent_run {history : List (Event System Label)}
    (hrun : SystemRun deployment history system) : Coherent system :=
  hrun.invariant Coherent (fun _ _ _ hpre hstep => coherent_step hpre hstep) coherent_empty

end Coherent

end Lazier.Delivery
