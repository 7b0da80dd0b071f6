import Lazier.Delivery.Outstanding

/-!
# Pinned receipts can be applied

In runs that spare the waiting jobs, the workflow step between the pin and the
finalization of a receipt returns no error, and a canceled delivery is never
followed by another one.  An alert for a job that waits on its own delivery
breaks both.
-/

namespace Lazier.Delivery

open Chain Executor Indexer Ledger Library Manager Store Workflow SerialTable List Bool

variable {resolution : Resolution} {attempt : AttemptRow} {facts : TxReceiptFacts} {label : Label}
  {guid : Hash}

/-! ## The workflow step and the finalization -/

variable {db : DB} {now : Time} {row : OutboxRow} {txHash : Hash} {outcome : ReceiptOutcome}
  {effect : WorkflowEffect} {task : Task}

theorem packet_of_effect (heffect : outcomeEffect task txHash outcome = some effect) :
    txSendScopeKind task.purpose = .packet := by
  rcases effect_kinds heffect with ⟨update, statuses, hexecutor⟩ | hverifier
  · exact packet_of_awaited hexecutor.expected
  · rw [hverifier.purpose]
    rfl

theorem run_ok (hdone : effect.applied.holds db = true ∨ (effect.mark.call db now).2 = .ok ()) :
    (effect.run db now).2 = .ok () := by
  rw [WorkflowEffect.run]
  split
  · rfl
  rename_i hpending
  rcases hdone with hholds | hok
  · exact absurd hholds hpending
  · generalize effect.mark.call db now = result at hok
    obtain ⟨marked, answer⟩ := result
    cases hok
    rfl

theorem mark_call_tx (db : DB) (now : Time) (mark : WorkflowMark) :
    (mark.call db now).1.tx = db.tx := by
  rw [WorkflowMark.call_db]
  exact workOp_apply_tx _ _

theorem applyWorkflow_tx (db : DB) (now : Time) (row : OutboxRow)
    (txHash : Hash) (outcome : ReceiptOutcome) :
    (applyWorkflow db now row txHash outcome).1.tx = db.tx := by
  rw [applyWorkflow]
  split
  · rfl
  rename_i effect _
  have hmark := mark_call_tx db now effect.mark
  rw [WorkflowEffect.run]
  split
  · rfl
  generalize effect.mark.call db now = result at hmark
  obtain ⟨marked, answer⟩ := result
  cases answer with
  | ok => exact hmark
  | error error =>
    dsimp only
    split <;> exact hmark

theorem Orderly.applyWorkflow_ok {system : System} (horderly : Orderly system)
    (hrow : system.db.tx.outbox.find row.id = some row) (hreceipt : row.receipt = some resolution)
    (hattempt : system.db.tx.attempts.find resolution.attemptId = some attempt) (now : Time) :
    (applyWorkflow system.db now row attempt.txHash resolution.outcome).2 = .ok () := by
  have hcoherent := horderly.coherent
  rw [applyWorkflow]
  split
  · rfl
  rename_i effect heffect
  obtain ⟨task, htask, heffect⟩ := exists_task heffect
  have hpacket := packet_of_effect heffect
  have hsettled := settled_of_row hrow htask hreceipt
  obtain ⟨stored, hstored, hhash⟩ := hcoherent.hashes task hpacket _ _ hsettled
  rw [hattempt] at hstored
  cases hstored
  refine run_ok ?_
  rcases horderly.settled_cases hpacket hsettled with
    hwaits | hpast | ⟨hpurpose, hfailed, houtcome, -⟩
  · exact .inr (mark_of_waits heffect hcoherent hhash hwaits)
  · exact .inl (holds_of_past heffect hcoherent hsettled.phaseAt_ne_none hpast)
  · left
    rw [outcomeEffect, hpurpose, houtcome] at heffect
    cases heffect
    rw [holds_executor hcoherent.synced hfailed (hcoherent.synced.shown hfailed (by decide))]
    simp

theorem finalizeAttemptReceipt_ok (hsound : Sound db.tx) (hnumbered : Numbered db.tx)
    (hrow : db.tx.outbox.find row.id = some row) (hreceipt : row.receipt = some resolution)
    (hattempt : db.tx.attempts.find resolution.attemptId = some attempt)
    (hvalid : facts.validationError = none) (hhash : facts.txHash = attempt.txHash)
    (now clock : Time) :
    (finalizeAttemptReceipt db now clock resolution.attemptId facts).2 =
      .ok resolution.outcome := by
  obtain ⟨hmem, hid⟩ := find_eq_some.mp hattempt
  have hpositive : resolution.attemptId ≠ 0 := hid ▸ (hnumbered.attempts attempt hmem).ne'
  obtain ⟨owned, howned, hownedid, howner⟩ := (hsound.rows row
    (find_eq_some.mp hrow).1).pinned resolution hreceipt
  have hsame : owned = attempt := eq_of_key_eq howned hmem (hownedid.trans hid.symm)
  rw [finalizeAttemptReceipt, if_neg hpositive, hvalid]
  dsimp only
  rw [hattempt]
  dsimp only
  rw [if_neg (not_not.mpr hhash.symm), ← hsame, howner, hrow]
  dsimp only
  rw [hreceipt]
  dsimp only
  rw [if_neg (not_not.mpr rfl)]
  rfl

variable {deployment : Deployment} {history : List (Event System Label)} {system : System}

/-- In a run that spares the waiting jobs every pinned receipt can be applied
and then finalized, and a session whose call was refused in between finds the
job in the set that counts as applied. -/
theorem pinned_receipts_apply (hrun : SystemRun deployment history system)
    (hspares : ∀ event ∈ history, sparesWaiting deployment event.pre event.label = true) :
    (∀ row ∈ system.db.tx.outbox, row.status.terminal = false →
      ∀ resolution, row.receipt = some resolution →
      ∃ attempt ∈ system.db.tx.attempts, attempt.id = resolution.attemptId ∧ ∀ now,
          (applyWorkflow system.db now row attempt.txHash resolution.outcome).2 = .ok () ∧
          ∀ later clock facts, facts.validationError = none → facts.txHash = attempt.txHash →
            (finalizeAttemptReceipt (applyWorkflow system.db now row
              attempt.txHash resolution.outcome).1 later clock
              resolution.attemptId facts).2 = .ok resolution.outcome) ∧
    ∀ manager poll outcome effect, system.sessions manager = .rejected poll outcome effect →
      effect.applied.holds system.db = true := by
  have horderly := orderly_run hrun hspares
  have hcoherent := horderly.coherent
  refine ⟨fun row hmem _ resolution hreceipt => ?_, fun manager poll outcome effect hsession => ?_⟩
  · have hrow := find_of_mem hmem
    obtain ⟨attempt, hattempt, hid, -⟩ :=
      (hcoherent.reached.sound.rows row hmem).pinned resolution hreceipt
    have hfound : system.db.tx.attempts.find resolution.attemptId =
        some attempt := find_eq_some.mpr ⟨hattempt, hid⟩
    refine ⟨attempt, hattempt, hid, fun now =>
      ⟨horderly.applyWorkflow_ok hrow hreceipt hfound now, ?_⟩⟩
    intro later clock facts hvalid hhash
    have htx := applyWorkflow_tx system.db now row attempt.txHash resolution.outcome
    exact finalizeAttemptReceipt_ok (htx ▸ hcoherent.reached.sound)
      (htx ▸ hcoherent.reached.numbered) (htx ▸ hrow) hreceipt (htx ▸ hfound)
      hvalid hhash later clock
  · have hheld := hcoherent.held manager
    have hreflected := horderly.sessions manager
    rw [hsession] at hheld hreflected
    obtain ⟨task, htask, heffect⟩ := exists_task hheld.2
    exact holds_of_past heffect hcoherent (hheld.1.settled htask).phaseAt_ne_none
      (hreflected task htask (packet_of_effect heffect))

/-! ## Canceled deliveries -/

/-- `FinalizeAttemptReceipt` commits the outcome canceled for a delivery of the
packet. -/
def CancelsDelivery (guid : Hash) (event : Event System Label) : Prop :=
  ∃ manager now clock poll outcome, event.label = .finalize manager now clock ∧
      event.pre.sessions manager = .applied poll outcome ∧
      rowTask poll.row = (delivery guid).columns ∧
      (finalizeAttemptReceipt event.pre.db now clock poll.attempt.id poll.facts).2 = .ok .canceled

/-- A delivery of the packet has ended canceled. -/
def Canceled (db : DB) (guid : Hash) : Prop := ∃ id resolution,
    phaseAt db.tx (delivery guid) id = some (.ended resolution) ∧ resolution.outcome = .canceled

theorem RowMove.ended_stays {pre post : DB} {op : TxOp} {id : ℕ}
    (hmove : RowMove task pre op post id)
    (hended : phaseAt pre.tx task id = some (.ended resolution)) :
    phaseAt post.tx task id = some (.ended resolution) := by
  cases hmove with
  | kept hkept => exact hkept.1.trans hended
  | finalized other _ hfrom hto => rw [hto, hfrom.unique (.inr hended)]
  | parent other hfrom hto _ =>
    rw [hended] at hfrom
    exact hto.trans hfrom.symm
  | inserted _ hnewest _ => exact absurd (hnewest id (by simp [hended])) (lt_irrefl id)
  | pinned _ hpin _ =>
    have hbefore := hpin.before
    rw [hended] at hbefore
    cases hbefore
  | reverted hfrom _ | requeued hfrom _ | consumed hfrom _ =>
    rw [hended] at hfrom
    cases hfrom

theorem canceled_stays {pre post : System} (hcoherent : Coherent pre)
    (hstep : SystemStep deployment pre label post) (hcanceled : Canceled pre.db guid) :
    Canceled post.db guid := by
  obtain ⟨id, resolution, hended, houtcome⟩ := hcanceled
  refine ⟨id, resolution, ?_, houtcome⟩
  rcases task_step hcoherent.held (delivery_packet guid) hcoherent.reached hstep
    with ⟨htx, -⟩ | ⟨op, -, heffect, -⟩
  · rw [htx]
    exact hended
  · exact (heffect.rowMove id).ended_stays hended

theorem canceled_of_event {pre post : System} (hcoherent : Coherent pre)
    (hstep : SystemStep deployment pre label post)
    (hcancels : CancelsDelivery guid ⟨pre, label, post⟩) : Canceled post.db guid := by
  obtain ⟨manager, now, clock, poll, outcome, hlabel, hsession, htask, hok⟩ := hcancels
  dsimp only at hlabel hsession hok
  subst hlabel
  have hheld := hcoherent.held manager
  rw [hsession] at hheld
  obtain ⟨held, hfound, -, howner⟩ := hheld.attempt
  obtain ⟨row, hrow, hsame, -⟩ := hheld.row
  have hdb : post.db = (finalizeAttemptReceipt pre.db now clock poll.attempt.id poll.facts).1 := by
    rw [SystemStep, exec.eq_def] at hstep
    dsimp only at hstep
    rw [hsession] at hstep
    cases hstep
    rfl
  rw [hdb]
  have hends := finalizeAttemptReceipt_outcome pre.db now clock poll.attempt.id poll.facts
  generalize finalizeAttemptReceipt pre.db now clock poll.attempt.id poll.facts = result
    at hends hok ⊢
  cases hends with
  | refused => cases hok
  | @finalized attempt stored pinned hreceipt hpinned _ =>
    have hstored := hreceipt.owner
    rw [Option.some.inj (hreceipt.found.symm.trans hfound), howner, hrow] at hstored
    cases hstored
    obtain ⟨-, hid⟩ := find_eq_some.mp hrow
    have hfind : (pre.db.tx.setAttempt { attempt with state := .mined }).outbox.find row.id =
        some row := by rwa [hid]
    have hkept : (row.finalize now clock attempt pinned.outcome poll.facts).id = row.id := rfl
    refine ⟨row.id, pinned, (phaseAt_eq (find_setRow hfind hkept) (hsame.trans htask)).trans ?_,
      Except.ok.inj hok⟩
    simp [phase, OutboxRow.finalize, hpinned, finalStatus_terminal]

theorem canceled_run (hrun : SystemRun deployment history system)
    (hspares : ∀ event ∈ history, sparesWaiting deployment event.pre event.label = true) :
    Orderly system ∧ ∀ event ∈ history, CancelsDelivery guid event → Canceled system.db guid := by
  refine hrun.history_invariant (fun event => sparesWaiting deployment event.pre event.label = true)
    (fun history system => Orderly system ∧ ∀ event ∈ history,
      CancelsDelivery guid event → Canceled system.db guid) ?_ ⟨orderly_empty, by simp⟩ hspares
  rintro history pre label post ⟨horderly, hcanceled⟩ hstep hspare
  refine ⟨orderly_step horderly hstep hspare, ?_⟩
  simp only [forall_mem_cons]
  exact ⟨canceled_of_event horderly.coherent hstep, fun event hevent hcancels =>
    canceled_stays horderly.coherent hstep (hcanceled event hevent hcancels)⟩

theorem terminal_iff_phase (row : OutboxRow) : row.status.terminal = true ↔
      phase row ≠ .inFlight ∧ ∀ resolution, phase row ≠ .pinned resolution := by
  rw [phase]
  cases row.receipt <;> cases row.status.terminal <;> simp
  split <;> simp

/-- In a run that spares the waiting jobs no step after the cancellation
inserts a delivery of the packet or opens one again. -/
theorem canceled_delivery_is_last {guid : Hash} {label : Label} {post : System}
    {event : Event System Label} (hrun : SystemRun deployment history system)
    (hspares : ∀ event ∈ history, sparesWaiting deployment event.pre event.label = true)
    (hevent : event ∈ history) (hcancels : CancelsDelivery guid event)
    (hstep : SystemStep deployment system label post) :
    ∀ row ∈ post.db.tx.outbox, row.purpose = .executorLzReceive → row.guid = some guid.1 →
      ∃ before ∈ system.db.tx.outbox, before.id = row.id ∧
        (before.status.terminal = true → row.status.terminal = true) := by
  obtain ⟨horderly, hcanceled⟩ := canceled_run hrun hspares
  obtain ⟨id, resolution, hended, houtcome⟩ := hcanceled event hevent hcancels
  have hcoherent := horderly.coherent
  intro row hmem hpurpose hguid
  have hmine : rowTask row = (delivery guid).columns := Prod.ext hpurpose hguid
  have hrow := find_of_mem hmem
  rcases task_step hcoherent.held (delivery_packet guid) hcoherent.reached hstep
    with ⟨htx, -⟩ | ⟨op, -, heffect, -⟩
  · exact ⟨row, htx ▸ hmem, rfl, fun hend => hend⟩
  -- A row of the packet before the step, with the phase it had.
  have hearlier : ∀ {reached : Phase}, phaseAt system.db.tx (delivery guid) row.id = some reached →
      ∃ before ∈ system.db.tx.outbox, before.id = row.id ∧ phase before = reached := by
    intro reached hphase
    obtain ⟨before, hbefore, -, hreached⟩ := exists_rowAt hphase
    obtain ⟨hbeforemem, hid⟩ := find_eq_some.mp hbefore
    exact ⟨before, hbeforemem, hid, hreached⟩
  have hended : phaseAt post.db.tx (delivery guid) id =
      some (.ended resolution) := (heffect.rowMove id).ended_stays hended
  have hopen : phase row ≠ .inFlight := fun hphase =>
    canceled_step horderly hstep hended houtcome row.id (.inFlight (hphase ▸ phaseAt_eq hrow hmine))
  have hphase := phaseAt_eq hrow hmine
  cases heffect.rowMove row.id with
  | kept hkept =>
    obtain ⟨before, hbefore, hid, hsame⟩ := hearlier (hkept.1 ▸ hphase)
    refine ⟨before, hbefore, hid, fun hend => ?_⟩
    rw [terminal_iff_phase, ← hsame, ← terminal_iff_phase]
    exact hend
  | pinned pinned hpin hto =>
    obtain ⟨before, hbefore, hid, hfrom⟩ := hearlier hpin.before
    exact ⟨before, hbefore, hid, fun hend =>
      absurd hfrom ((terminal_iff_phase before).mp hend).1⟩
  | inserted _ _ hto | requeued _ hto =>
    exact absurd (Option.some.inj (hphase.symm.trans hto)) hopen
  | finalized ended _ hfrom hto =>
    have hreached := Option.some.inj (hphase.symm.trans hto)
    obtain ⟨reached, hfrom⟩ := Option.ne_none_iff_exists'.mp hfrom.phaseAt_ne_none
    obtain ⟨before, hbefore, hid, -⟩ := hearlier hfrom
    exact ⟨before, hbefore, hid, fun _ =>
      (terminal_iff_phase row).mpr (by simp [hreached])⟩
  | reverted hfrom hto | consumed hfrom hto | parent _ hfrom hto _ =>
    have hreached := Option.some.inj (hphase.symm.trans hto)
    obtain ⟨before, hbefore, hid, -⟩ := hearlier hfrom
    exact ⟨before, hbefore, hid, fun _ =>
      (terminal_iff_phase row).mpr (by simp [hreached])⟩

/-! ## A first delivery -/

/-- The first packet with one `lzReceive` option. -/
def optionedPacket : PacketRecord :=
  { firstPacket with
    options := [0, 3, 1, 0, 17, 1] ++ List.replicate 15 0 ++ [1] }

def sampleExecutor : Address := .ofNat 20 5

/-- One executor of the contracts' ABI. -/
def sampleDeployment : Deployment where
  libs := abiEvents
  abi := abiCalldata
  worker := fun _ =>
    { get := fun _ => some ⟨.ofNat 20 6, 0, "keeper"⟩
      pathway := fun _ => some ⟨true, .ofNat 20 7⟩
      hasCaller := fun _ => true }
  stream := fun _ => { dstEID := 2, pathways := [], expectedExecutor := sampleExecutor }

/-- A log about the first packet from the given transaction. -/
def sampleLog (topics : List Hash) (data : Bytes) (txHash : ℕ) : Log :=
  ⟨.ofNat 20 6, topics, abiWord 1 ++ abiWord 1 ++ abiWord 1 ++ data, 5, .ofNat 32 txHash,
    .ofNat 32 5, 0⟩

/-- The executor stream reads a log and applies it. -/
def observe (indexer : ℕ) (log : Log) : List Label := [.read indexer log, .apply indexer 0]

def verifiedLog : Log := sampleLog [abiEvents.packetVerifiedTopic] (abiWord 2 ++ abiWord 3) 100

/-- The configured executor reports a failed delivery in another
transaction. -/
def alertLog : Log := sampleLog [abiEvents.lzReceiveAlertTopic, .ofNat 32 2, .ofNat 32 5]
  (abiWord 1 ++ abiWord 50000 ++ abiWord 0 ++ abiWord 288 ++ abiWord 320 ++ abiWord 352 ++
    abiBytes [] ++ abiBytes [] ++ abiBytes []) 101

/-- The packet is committed on the destination chain and can be executed. -/
def executableReads : Reads where
  anchor := .ok ()
  commit := ⟨.error "", .error "", .error "", .error "", .error ""⟩
  delivery := ⟨.ok optionedPacket.payloadHash, .ok 0, .ok 1⟩
  head := .error ""
  commitAtDepth := ⟨.error "", .error "", .error "", .error "", .error ""⟩
  deliveryAtDepth := ⟨.error "", .error "", .error ""⟩

/-- A whole pass of a worker. -/
def pass (worker : ℕ) (status : ExecutorState) : List Label :=
  [.list worker 0 status, .work worker 0 executableReads]

/-- The packet is assigned, its commit is observed and its delivery
enqueued. -/
def enqueuedDelivery : List Label :=
  [.call (.work (.syncConfig ⟨[1, 2], [⟨optionedPacket.route, true⟩]⟩)),
    .call (.work (.upsertPacket optionedPacket)), .call (.work (.upsertExecutorJob 0
      ⟨optionedPacket.guid, none, .assigned, ""⟩)),
    .call (.tx (.bootstrapTxNonceCursor ⟨2, "keeper"⟩ 7))] ++
  observe 1 verifiedLog ++ pass 0 .committed ++ pass 0 .executable

/-- The delivery with this id is sent. -/
def sent (id nonce : ℕ) : List Label := (sendRow 1 ⟨2, "keeper"⟩ id nonce).reverse.map .call

/-- The receipt of a sent delivery is found and pinned. -/
def pinned (manager nonce : ℕ) (succeeded : Bool) : List Label :=
  [.poll manager ⟨2, "keeper"⟩ 10 0 0 (minedFacts nonce succeeded), .pin manager 2]

theorem sampleRun (allowed : System → Label → Bool) (labels : List Label) (check : System → Bool)
    (hperformed : (perform (exec sampleDeployment) allowed System.empty
      labels.reverse).any check = true) :
    ∃ history system, SystemRun sampleDeployment history system ∧
      (∀ event ∈ history, allowed event.pre event.label) ∧ check system := by
  obtain ⟨history, system, hrun, -, hallowed, hcheck⟩ := exists_run_of_perform hperformed
  exact ⟨history, system, hrun, hallowed, hcheck⟩

/-! ## Pinned receipts in the first delivery -/

theorem minedDelivery_applies : ∃ history system, SystemRun sampleDeployment history system ∧
      ∃ row ∈ system.db.tx.outbox, row.receipt = some ⟨.confirmed, 1⟩ ∧
        ∃ attempt ∈ system.db.tx.attempts, ∀ now,
          (applyWorkflow system.db now row attempt.txHash .confirmed).2 = .ok () := by
  obtain ⟨history, system, hrun, hspares, hcheck⟩ := sampleRun (sparesWaiting sampleDeployment)
      (enqueuedDelivery ++ sent 1 7 ++ pinned 2 7 true)
      (fun system => system.db.tx.outbox.rows.any fun row =>
        !row.status.terminal && decide (row.receipt = some ⟨.confirmed, 1⟩))
      (by decide +kernel)
  simp only [any_eq_true, and_eq_true, not_eq_true', decide_eq_true_eq] at hcheck
  obtain ⟨row, hrow, hopen, hreceipt⟩ := hcheck
  obtain ⟨attempt, hattempt, -, happly⟩ :=
    (pinned_receipts_apply hrun hspares).1 row hrow hopen _ hreceipt
  exact ⟨history, system, hrun, row, hrow, hreceipt, attempt, hattempt, fun now => (happly now).1⟩

def refused : Result Unit → Bool
  | (_, .error _) => true
  | _ => false

/-- The delivery is mined and pinned as confirmed, but an alert from another
transaction has failed the job in between: the workflow step is refused. -/
theorem alert_blocks_minedDelivery : ∃ history system, SystemRun sampleDeployment history system ∧
      ∃ row ∈ system.db.tx.outbox, row.status.terminal = false ∧
        row.receipt = some ⟨.confirmed, 1⟩ ∧ ∃ attempt ∈ system.db.tx.attempts, attempt.id = 1 ∧
          (applyWorkflow system.db 3 row attempt.txHash .confirmed).2 ≠ .ok () := by
  obtain ⟨history, system, hrun, -, hcheck⟩ := sampleRun (fun _ _ => true)
      (enqueuedDelivery ++ sent 1 7 ++ pinned 2 7 true ++ observe 1 alertLog)
      (fun system => system.db.tx.outbox.rows.any fun row =>
        !row.status.terminal &&
          decide (row.receipt = some ⟨.confirmed, 1⟩) &&
          system.db.tx.attempts.rows.any fun attempt =>
            decide (attempt.id = 1) && refused (applyWorkflow system.db 3 row
              attempt.txHash .confirmed))
      (by decide +kernel)
  simp only [any_eq_true, and_eq_true, not_eq_true', decide_eq_true_eq] at hcheck
  obtain ⟨row, hrow, ⟨hopen, hreceipt⟩, attempt, hattempt, hid, hrefused⟩ := hcheck
  refine ⟨history, system, hrun, row, hrow, hopen, hreceipt, attempt, hattempt, hid, fun hok => ?_⟩
  rw [refused.eq_def] at hrefused
  split at hrefused
  · rename_i hresult
    rw [hresult] at hok
    cases hok
  · cases hrefused

/-! ## A canceled first delivery -/

/-- The sent delivery is canceled, and the receipt shows that it failed. -/
def canceledDelivery : List Label :=
  enqueuedDelivery ++ sent 1 7 ++ [.call (.tx (.requestTxCancel 2 1))] ++ pinned 2 7 false

/-- The manager is about to finalize a canceled delivery of the packet. -/
def aboutToCancel (system : System) : Bool :=
  match system.sessions 2 with
  | .applied poll _ =>
    decide (rowTask poll.row = (delivery optionedPacket.guid).columns) &&
      match (finalizeAttemptReceipt system.db 3 3 poll.attempt.id poll.facts).2 with
      | .ok .canceled => true
      | _ => false
  | _ => false

theorem cancels_of_aboutToCancel {post : System} (habout : aboutToCancel system = true) :
    CancelsDelivery optionedPacket.guid ⟨system, .finalize 2 3 3, post⟩ := by
  rw [aboutToCancel] at habout
  split at habout
  · rename_i poll outcome hsession
    rw [and_eq_true, decide_eq_true_eq] at habout
    obtain ⟨htask, hcanceled⟩ := habout
    split at hcanceled
    · rename_i hok
      exact ⟨2, 3, 3, poll, outcome, rfl, hsession, htask, hok⟩
    · cases hcanceled
  · cases habout

theorem canceledDelivery_is_last : ∃ history system, SystemRun sampleDeployment history system ∧
      (∃ event ∈ history, CancelsDelivery optionedPacket.guid event) ∧
      ∀ label post, SystemStep sampleDeployment system label post →
        ∀ row ∈ post.db.tx.outbox, row.purpose = .executorLzReceive →
        row.guid = some optionedPacket.guid.1 → ∃ before ∈ system.db.tx.outbox, before.id = row.id ∧
          (before.status.terminal = true → row.status.terminal = true) := by
  obtain ⟨history, system, hrun, hspares, hcheck⟩ := sampleRun (sparesWaiting sampleDeployment)
      (canceledDelivery ++ [.check 2, .mark 2 3])
      (fun system => aboutToCancel system &&
        (exec sampleDeployment system (.finalize 2 3 3)).isSome) (by decide +kernel)
  rw [and_eq_true, Option.isSome_iff_exists] at hcheck
  obtain ⟨habout, post, hfinalize⟩ := hcheck
  have hcancels : CancelsDelivery optionedPacket.guid
      ⟨system, .finalize 2 3 3, post⟩ := cancels_of_aboutToCancel habout
  have hspares : ∀ event ∈ (⟨system, .finalize 2 3 3, post⟩ :: history : List (Event System Label)),
      sparesWaiting sampleDeployment event.pre event.label = true :=
    forall_mem_cons.mpr ⟨rfl, hspares⟩
  exact ⟨_, post, hrun.extend hfinalize, ⟨_, mem_cons_self, hcancels⟩,
    fun label final hstep => canceled_delivery_is_last (hrun.extend hfinalize)
      hspares mem_cons_self hcancels hstep⟩

/-- An alert fails the job before the cancellation is applied: the worker
enqueues a second delivery after it. -/
theorem alert_redelivers_canceledDelivery :
    ∃ history system, SystemRun sampleDeployment history system ∧
      (∃ event ∈ history, CancelsDelivery optionedPacket.guid event) ∧
      ∃ label post, SystemStep sampleDeployment system label post ∧
        ∃ row ∈ post.db.tx.outbox, row.purpose = .executorLzReceive ∧
          row.guid = some optionedPacket.guid.1 ∧
          ∀ before ∈ system.db.tx.outbox, before.id ≠ row.id := by
  obtain ⟨history, system, hrun, -, hcheck⟩ := sampleRun (fun _ _ => true)
      (canceledDelivery ++ observe 1 alertLog ++ [.check 2])
      (fun system => aboutToCancel system &&
        (exec sampleDeployment system (.finalize 2 3 3)).any fun finalized =>
          (exec sampleDeployment finalized (.list 0 0 .lzReceiveFailed)).any fun listed =>
            (exec sampleDeployment listed (.work 0 0 executableReads)).any fun post =>
              post.db.tx.outbox.rows.any fun row =>
                decide (row.purpose = .executorLzReceive) &&
                decide (row.guid = some optionedPacket.guid.1) &&
                listed.db.tx.outbox.rows.all fun before =>
                  decide (before.id ≠ row.id))
      (by decide +kernel)
  simp only [and_eq_true, Option.any_eq_true, any_eq_true,
    all_eq_true, decide_eq_true_eq] at hcheck
  obtain ⟨habout, finalized, hfinalize, listed, hlist, post, hwork, row, hrow,
    ⟨hpurpose, hguid⟩, hnew⟩ := hcheck
  exact ⟨_, listed, (hrun.extend hfinalize).extend hlist,
    ⟨_, mem_cons_of_mem _ mem_cons_self, cancels_of_aboutToCancel habout⟩,
    _, post, hwork, row, hrow, hpurpose, hguid, hnew⟩

end Lazier.Delivery
