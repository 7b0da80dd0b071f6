import Lazier.Delivery.System

/-!
# What a step can call

Every step of the delivery system makes at most one store call.  The calls are
listed once with the session that makes them; the ledger facts about store runs
carry over to runs of the system.
-/

namespace Lazier.Delivery

open Chain Executor Indexer Ledger Library Manager Store Workflow SerialTable

/-- The method that an observed event calls. -/
def observedOp (now : Time) (guid txHash : Hash) (status : ExecutorState) :
    DestinationEvent → WorkOp
  | .verified _ => .markExecutorCommittedObserved now guid txHash status
  | .delivered _ => .markExecutorDeliveredObserved now guid txHash status
  | .alert event =>
    .markExecutorReceiveFailedObserved now guid txHash status (FixedBytes.hexBytes event.reason)

/-- An event that the executor stream applies to the job it has read. -/
structure Applies (deployment : Deployment) (job : ExecutorJobRow) (log : Log)
    (event : DestinationEvent) : Prop where
  decoded : destinationEvent deployment.libs log = .ok (some event)
  fresh : executorDestinationLogAlreadyApplied deployment.libs job.status
    (log.topics.headD Hash.zero) = false
  can : canApply event job.status = true

/-- The store calls of the sessions and of the other components. -/
inductive Calls (deployment : Deployment) (pre : System) : Label → Op → Prop
  | worker {worker : ℕ} {now : Time} {reads : Reads} {item : ExecutorWorkItem} {op : Op}
      (hsession : pre.sessions worker = .listed item) (hcall : WorkerCall item now op) :
      Calls deployment pre (.work worker now reads) op
  | observed {indexer : ℕ} {now : Time} {packet : PacketRecord}
      {job : ExecutorJobRow} {log : Log} {event : DestinationEvent}
      (hsession : pre.sessions indexer = .observing packet job log)
      (happlies : Applies deployment job log event) : Calls deployment pre (.apply indexer now)
        (.work (observedOp now packet.guid log.txHash job.status event))
  | pinned {manager : ℕ} {now : Time} {poll : Polled}
      (hsession : pre.sessions manager = .polled poll) (hfree : poll.row.receipt = none) :
      Calls deployment pre (.pin manager now)
        (.tx (.prepareReceiptResolution now poll.attempt.id poll.facts))
  | marked {manager : ℕ} {now : Time} {poll : Polled}
      {outcome : ReceiptOutcome} {effect : WorkflowEffect}
      (hsession : pre.sessions manager = .unapplied poll outcome effect) :
      Calls deployment pre (.mark manager now) (.work (effect.mark.op now))
  | finalized {manager : ℕ} {now clock : Time} {poll : Polled} {outcome : ReceiptOutcome}
      (hsession : pre.sessions manager = .applied poll outcome) :
      Calls deployment pre (.finalize manager now clock)
        (.tx (.finalizeAttemptReceipt now clock poll.attempt.id poll.facts))
  | background {op : Op} (hop : background op = true) : Calls deployment pre (.call op) op

/-- The application of a log refuses, ignores it or makes one call. -/
theorem applyExecutorDestinationLog_db (deployment : Deployment) (db : DB)
    (now : Time) (packet : PacketRecord) (job : ExecutorJobRow) (log : Log) :
    (applyExecutorDestinationLog deployment.libs db now packet job log).1 = db ∨
      ∃ event, Applies deployment job log event ∧
        (applyExecutorDestinationLog deployment.libs db now packet job log).1 =
          (observedOp now packet.guid log.txHash job.status event).apply db := by
  unfold applyExecutorDestinationLog
  split
  · exact .inl rfl
  split
  · exact .inl rfl
  split
  · exact .inl rfl
  rename_i hfresh
  rw [Bool.not_eq_true] at hfresh
  split
  · exact .inl rfl
  · exact .inl rfl
  all_goals
    rename_i hevent
    unfold markObserved
    split
    · exact .inl rfl
    split
    · exact .inl rfl
    rename_i hcan
    refine .inr ⟨_, ⟨hevent, hfresh, ?_⟩, rfl⟩
    revert hcan
    simp [canApply]

variable {deployment : Deployment} {pre post : System} {label : Label}

theorem step_db (hstep : SystemStep deployment pre label post) : post.db = pre.db ∨
      ∃ op, Calls deployment pre label op ∧ post.db = op.apply pre.db := by
  unfold SystemStep exec at hstep
  split at hstep
  case h_1 | h_3 | h_7 | h_9 =>
    split at hstep <;> cases hstep
    simp only [listStep, readStep, checkStep, recheckStep]
    repeat' split
    all_goals exact .inl rfl
  case h_2 =>
    split at hstep <;> cases hstep
    rename_i hsession
    unfold workStep
    split
    · exact .inl rfl
    · rename_i op hcall
      exact .inr ⟨op, .worker hsession (passCall_call hcall), rfl⟩
  case h_4 indexer now =>
    split at hstep <;> cases hstep
    rename_i packet job log hsession
    rcases applyExecutorDestinationLog_db deployment pre.db now packet job log
      with hsame | ⟨event, happlies, hdb⟩
    · exact .inl hsame
    · exact .inr ⟨_, .observed hsession happlies, hdb⟩
  case h_5 =>
    split at hstep
    · unfold pollStep at hstep
      repeat' split at hstep
      all_goals cases hstep
      exact .inl rfl
    · cases hstep
  case h_6 manager now =>
    split at hstep <;> cases hstep
    rename_i poll hsession
    unfold pinStep
    split
    · exact .inl rfl
    rename_i hfree
    refine .inr ⟨_, .pinned hsession hfree, ?_⟩
    change _ = (prepareReceiptResolution pre.db now poll.attempt.id poll.facts).1
    split <;> simp_all [System.commit]
  case h_8 manager now =>
    split at hstep <;> cases hstep
    rename_i poll outcome effect hsession
    refine .inr ⟨_, .marked hsession, ?_⟩
    change _ = (effect.mark.op now).apply pre.db
    rw [← WorkflowMark.call_db]
    unfold markStep
    split <;> simp_all [System.commit]
  case h_10 =>
    split at hstep <;> cases hstep
    rename_i hsession
    exact .inr ⟨_, .finalized hsession, rfl⟩
  case h_11 =>
    cases hstep
    exact .inl rfl
  case h_12 op =>
    split at hstep <;> cases hstep
    rename_i hop
    exact .inr ⟨op, .background hop, rfl⟩

/-! ## Where a session comes from -/

/-- A session after a step: the one before, an idle one, or what the step has
just read or been told. -/
inductive SessionOrigin (deployment : Deployment) (pre : System)
    (label : Label) (owner : ℕ) : Session → Prop
  | kept {session : Session} (hsession : pre.sessions owner = session) :
      SessionOrigin deployment pre label owner session
  | idle : SessionOrigin deployment pre label owner .idle
  | listed {now : Time} {status : ExecutorState} {item : ExecutorWorkItem}
      (hlisted : listExecutorWork pre.db now status = some item) :
      SessionOrigin deployment pre label owner (.listed item)
  | observing {log : Log} {packet : PacketRecord} {job : ExecutorJobRow}
      (hlabel : label = .read owner log)
      (hdecide : decideExecutorLog deployment.libs (deployment.stream owner)
        pre.db log = .ok (.apply packet job)) :
      SessionOrigin deployment pre label owner (.observing packet job log)
  | polled {lane : Lane} {limit task attempt : ℕ} {facts : TxReceiptFacts}
      {tasks : List ReceiptPollTask} {listed : ReceiptPollTask} {winning : AttemptRow}
      (hlabel : label = .poll owner lane limit task attempt facts)
      (htasks : listReceiptPollTasks pre.db lane limit = .ok tasks)
      (hlisted : listed ∈ tasks) (hwinning : winning ∈ listed.attempts)
      (hwins : wins listed.outbox.row winning facts = true) :
      SessionOrigin deployment pre label owner (.polled ⟨listed.outbox.row, winning, facts⟩)
  | replayed {poll : Polled} {pinned : Resolution} (hsession : pre.sessions owner = .polled poll)
      (hpinned : poll.row.receipt = some pinned) :
      SessionOrigin deployment pre label owner (.resolved poll pinned.outcome)
  | resolved {now : Time} {poll : Polled} {outcome : ReceiptOutcome}
      (hlabel : label = .pin owner now) (hsession : pre.sessions owner = .polled poll)
      (hfree : poll.row.receipt = none)
      (hresult : (prepareReceiptResolution pre.db now poll.attempt.id poll.facts).2 = .ok outcome) :
      SessionOrigin deployment pre label owner (.resolved poll outcome)
  | effectless {poll : Polled} {outcome : ReceiptOutcome}
      (hsession : pre.sessions owner = .resolved poll outcome)
      (hnone : workflowEffect poll.row poll.attempt.txHash outcome = none) :
      SessionOrigin deployment pre label owner (.applied poll outcome)
  | checked {poll : Polled} {outcome : ReceiptOutcome} {effect : WorkflowEffect}
      (hsession : pre.sessions owner = .resolved poll outcome ∨
        pre.sessions owner = .rejected poll outcome effect)
      (heffect : pre.sessions owner = .resolved poll outcome →
        workflowEffect poll.row poll.attempt.txHash outcome = some effect)
      (hholds : effect.applied.holds pre.db = true)
      (hlabel : label = .check owner ∨ label = .recheck owner) :
      SessionOrigin deployment pre label owner (.applied poll outcome)
  | unapplied {poll : Polled} {outcome : ReceiptOutcome} {effect : WorkflowEffect}
      (hsession : pre.sessions owner = .resolved poll outcome)
      (heffect : workflowEffect poll.row poll.attempt.txHash outcome = some effect) :
      SessionOrigin deployment pre label owner (.unapplied poll outcome effect)
  | marked {now : Time} {poll : Polled} {outcome : ReceiptOutcome}
      {effect : WorkflowEffect} (hlabel : label = .mark owner now)
      (hsession : pre.sessions owner = .unapplied poll outcome effect)
      (hresult : (effect.mark.call pre.db now).2 = .ok ()) :
      SessionOrigin deployment pre label owner (.applied poll outcome)
  | rejected {now : Time} {poll : Polled} {outcome : ReceiptOutcome}
      {effect : WorkflowEffect} {error : StoreError} (hlabel : label = .mark owner now)
      (hsession : pre.sessions owner = .unapplied poll outcome effect)
      (hresult : (effect.mark.call pre.db now).2 = .error error) :
      SessionOrigin deployment pre label owner (.rejected poll outcome effect)

theorem SessionOrigin.of_update {actor : ℕ} {session : Session}
    (horigin : SessionOrigin deployment pre label actor session) (owner : ℕ) :
    SessionOrigin deployment pre label owner
      (Function.update pre.sessions actor session owner) := by
  by_cases hactor : owner = actor
  · rw [hactor, Function.update_self]
    exact horigin
  · rw [Function.update_of_ne hactor]
    exact .kept rfl

theorem pollStep_origin {manager : ℕ} {lane : Lane} {limit task attempt : ℕ}
    {facts : TxReceiptFacts} (hlabel : label = .poll manager lane limit task attempt facts)
    (hpoll : pollStep pre manager lane limit task attempt facts = some post) (owner : ℕ) :
    SessionOrigin deployment pre label owner (post.sessions owner) := by
  unfold pollStep at hpoll
  split at hpoll
  · cases hpoll
  rename_i tasks htasks
  split at hpoll
  · cases hpoll
  rename_i listed hlisted
  split at hpoll
  · cases hpoll
  rename_i winning hwinning
  split at hpoll
  · rename_i hwins
    cases hpoll
    exact .of_update (.polled hlabel htasks
      (List.mem_of_getElem? hlisted) (List.mem_of_getElem? hwinning) hwins) owner
  · cases hpoll

theorem session_origin (hstep : SystemStep deployment pre label post) (owner : ℕ) :
    SessionOrigin deployment pre label owner (post.sessions owner) := by
  unfold SystemStep exec at hstep
  split at hstep
  case h_5 =>
    split at hstep
    · exact pollStep_origin rfl hstep owner
    · cases hstep
  case h_11 =>
    cases hstep
    exact .of_update .idle owner
  case h_12 =>
    split at hstep <;> cases hstep
    exact .kept rfl
  case h_1 =>
    split at hstep <;> cases hstep
    unfold listStep
    split
    · exact .kept rfl
    · rename_i hlisted
      exact .of_update (.listed hlisted) owner
  case h_2 =>
    split at hstep <;> cases hstep
    unfold workStep
    split <;> exact .of_update .idle owner
  case h_3 =>
    split at hstep <;> cases hstep
    unfold readStep
    split
    · rename_i hdecide
      exact .of_update (.observing rfl hdecide) owner
    · exact .kept rfl
  case h_4 =>
    split at hstep <;> cases hstep
    exact .of_update .idle owner
  case h_6 =>
    split at hstep <;> cases hstep
    rename_i hsession
    unfold pinStep
    split
    · rename_i hpinned
      exact .of_update (.replayed hsession hpinned) owner
    rename_i hfree
    split
    · rename_i hresult
      exact .of_update (.resolved rfl hsession hfree (congrArg Prod.snd hresult)) owner
    · exact .of_update .idle owner
  case h_7 =>
    split at hstep <;> cases hstep
    rename_i hsession
    unfold checkStep
    split
    · rename_i hnone
      exact .of_update (.effectless hsession hnone) owner
    rename_i heffect
    split
    · rename_i hholds
      exact .of_update (.checked (.inl hsession)
        (fun _ => heffect) hholds (.inl rfl)) owner
    · exact .of_update (.unapplied hsession heffect) owner
  case h_8 =>
    split at hstep <;> cases hstep
    rename_i hsession
    unfold markStep
    split
    · rename_i hresult
      exact .of_update (.marked rfl hsession (congrArg Prod.snd hresult)) owner
    · rename_i hresult
      exact .of_update (.rejected rfl hsession (congrArg Prod.snd hresult)) owner
  case h_9 =>
    split at hstep <;> cases hstep
    rename_i hsession
    unfold recheckStep
    split
    · rename_i hholds
      exact .of_update (.checked (.inr hsession)
        (fun hother => by rw [hsession] at hother; cases hother) hholds (.inr rfl)) owner
    · exact .of_update .idle owner
  case h_10 =>
    split at hstep <;> cases hstep
    exact .of_update .idle owner

/-! ## Stores that a run has reached -/

/-- The store after some calls from the empty schema. -/
def Reached (db : DB) : Prop := ∃ history, StoreRun history db

/-- Rows keep their task and their receipt, attempts their hash and their
row. -/
structure Persists (pre post : TxTables) : Prop where
  rows : ∀ id row, pre.outbox.find id = some row → ∃ after, post.outbox.find id = some after ∧
      rowTask after = rowTask row ∧ ∀ resolution, row.receipt = some resolution →
        after.receipt = some resolution
  attempts : ∀ id attempt, pre.attempts.find id = some attempt →
    ∃ after, post.attempts.find id = some after ∧
      after.txHash = attempt.txHash ∧ after.outboxID = attempt.outboxID

theorem Persists.refl (tx : TxTables) : Persists tx tx where
  rows _ row hrow := ⟨row, hrow, rfl, fun _ hreceipt => hreceipt⟩
  attempts _ attempt hattempt := ⟨attempt, hattempt, rfl, rfl⟩

/-- The ids of attempts start at 1. -/
structure Numbered (tx : TxTables) : Prop where
  next : 0 < tx.attempts.next
  attempts : ∀ attempt ∈ tx.attempts, 0 < attempt.id

theorem numbered_change {before after : TxTables} {action : Action}
    (hnumbered : Numbered before) (hchange : Change before action after) : Numbered after where
  next := by
    cases hchange with
    | insert => exact Nat.succ_pos _
    | _ => exact hnumbered.next
  attempts attempt hattempt := by
    cases attempt_origin hchange hattempt with
    | kept old hold hid _ _ _ => exact hid ▸ hnumbered.attempts old hold
    | inserted use token haction _ =>
      cases hchange with
      | insert _ hid _ =>
        cases haction
        exact hid ▸ hnumbered.next
      | _ => cases haction

section Reached

variable {db : DB} (hreached : Reached db)

include hreached

theorem Reached.numbered : Numbered db.tx := by
  obtain ⟨history, hrun⟩ := hreached
  obtain ⟨actions, hchanges, -⟩ := ledgerRun_of_storeRun hrun
  exact hchanges.invariant Numbered
    (fun _ _ _ hnumbered hchange => numbered_change hnumbered hchange)
    ⟨Nat.one_pos, fun _ hattempt => absurd hattempt (by simp [TxTables.empty])⟩

theorem Reached.sound : Sound db.tx := by
  obtain ⟨history, hrun⟩ := hreached
  exact sound_storeRun hrun

theorem Reached.chains : Chains db.tx.outbox := by
  obtain ⟨history, hrun⟩ := hreached
  exact chains_storeRun hrun

theorem Reached.apply (op : Op) : Reached (op.apply db) := by
  obtain ⟨history, hrun⟩ := hreached
  exact ⟨_, hrun.extend rfl⟩

theorem Reached.persists (op : Op) : Persists db.tx (op.apply db).tx := by
  have hstep : Step db op (op.apply db) := rfl
  constructor
  · intro id row hrow
    obtain ⟨hmem, rfl⟩ := find_eq_some.mp hrow
    obtain ⟨after, hafter, hchain⟩ := (chainsStep_op hreached.chains hstep).continues row hmem
    refine ⟨after, find_eq_some.mpr ⟨hafter, hchain.id⟩, hchain.task, fun resolution hreceipt => ?_⟩
    rw [hchain.receipt (by rw [hreceipt]; simp), hreceipt]
  · intro id attempt hattempt
    obtain ⟨history, hrun⟩ := hreached
    obtain ⟨hmem, rfl⟩ := find_eq_some.mp hattempt
    obtain ⟨after, hafter, hextends⟩ :=
      (extends_storeRun hrun (Run.start.extend hstep)).attempts attempt hmem
    exact ⟨after, find_eq_some.mpr ⟨hafter, hextends.id⟩, hextends.txHash, hextends.owner⟩

end Reached

theorem reached_step (hreached : Reached pre.db)
    (hstep : SystemStep deployment pre label post) : Reached post.db := by
  rcases step_db hstep with hsame | ⟨op, -, hdb⟩
  · exact hsame ▸ hreached
  · exact hdb ▸ hreached.apply op

theorem persists_step (hreached : Reached pre.db) (hstep : SystemStep deployment pre label post) :
    Persists pre.db.tx post.db.tx := by
  rcases step_db hstep with hsame | ⟨op, -, hdb⟩
  · rw [hsame]
    exact .refl _
  · rw [hdb]
    exact hreached.persists op

end Lazier.Delivery
