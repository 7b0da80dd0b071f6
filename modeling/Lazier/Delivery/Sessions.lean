import Lazier.Delivery.Steps

/-!
# What sessions of the receipts loop hold

A receipt that a session has read or been told stays in the store: the row
keeps its task and its pinned resolution, and the attempt keeps its hash.
-/

namespace Lazier.Delivery

open Chain Executor Indexer Ledger Library Manager Store Workflow SerialTable List

variable {db : DB} {facts : TxReceiptFacts} {now : Time} {manager : ℕ}

/-- The attempt that won is stored for the polled row. -/
def AttemptHeld (tx : TxTables) (poll : Polled) : Prop :=
  ∃ attempt, tx.attempts.find poll.attempt.id = some attempt ∧
    attempt.txHash = poll.attempt.txHash ∧ attempt.outboxID = poll.row.id

structure PollHeld (tx : TxTables) (poll : Polled) : Prop where
  row : ∃ row, tx.outbox.find poll.row.id = some row ∧ rowTask row = rowTask poll.row ∧
    ∀ resolution, poll.row.receipt = some resolution → row.receipt = some resolution
  attempt : AttemptHeld tx poll
  wins : wins poll.row poll.attempt poll.facts = true

/-- The outcome is pinned on the polled row. -/
structure ReceiptHeld (tx : TxTables) (poll : Polled) (outcome : ReceiptOutcome) : Prop where
  row : ∃ row, tx.outbox.find poll.row.id = some row ∧ rowTask row = rowTask poll.row ∧
    row.receipt = some ⟨outcome, poll.attempt.id⟩
  attempt : AttemptHeld tx poll

/-- The effect that a session applies is the one of its outcome. -/
def EffectOf (poll : Polled) (outcome : ReceiptOutcome) (effect : WorkflowEffect) : Prop :=
  workflowEffect poll.row poll.attempt.txHash outcome = some effect

def SessionHeld (tx : TxTables) : Session → Prop
  | .polled poll => PollHeld tx poll
  | .resolved poll outcome => ReceiptHeld tx poll outcome
  | .unapplied poll outcome effect =>
    ReceiptHeld tx poll outcome ∧ EffectOf poll outcome effect
  | .rejected poll outcome effect =>
    ReceiptHeld tx poll outcome ∧ EffectOf poll outcome effect
  | .applied poll outcome => ReceiptHeld tx poll outcome
  | _ => True

variable {pre post : TxTables} {poll : Polled} {outcome : ReceiptOutcome}

theorem AttemptHeld.persists (hpersists : Persists pre post)
    (hheld : AttemptHeld pre poll) : AttemptHeld post poll := by
  obtain ⟨attempt, hattempt, hhash, howner⟩ := hheld
  obtain ⟨after, hafter, hkept, hkeeper⟩ := hpersists.attempts _ _ hattempt
  exact ⟨after, hafter, hkept.trans hhash, hkeeper.trans howner⟩

theorem PollHeld.persists (hpersists : Persists pre post)
    (hheld : PollHeld pre poll) : PollHeld post poll := by
  obtain ⟨row, hrow, htask, hreceipt⟩ := hheld.row
  obtain ⟨after, hafter, hkept, hpinned⟩ := hpersists.rows _ _ hrow
  exact ⟨⟨after, hafter, hkept.trans htask, fun resolution hresolution =>
    hpinned _ (hreceipt _ hresolution)⟩, hheld.attempt.persists hpersists,
    hheld.wins⟩

theorem ReceiptHeld.persists (hpersists : Persists pre post)
    (hheld : ReceiptHeld pre poll outcome) : ReceiptHeld post poll outcome := by
  obtain ⟨row, hrow, htask, hreceipt⟩ := hheld.row
  obtain ⟨after, hafter, hkept, hpinned⟩ := hpersists.rows _ _ hrow
  exact ⟨⟨after, hafter, hkept.trans htask, hpinned _ hreceipt⟩, hheld.attempt.persists hpersists⟩

theorem SessionHeld.persists (hpersists : Persists pre post)
    {session : Session} (hheld : SessionHeld pre session) :
    SessionHeld post session := by
  cases session with
  | polled poll => exact PollHeld.persists hpersists hheld
  | resolved poll outcome | applied poll outcome => exact ReceiptHeld.persists hpersists hheld
  | unapplied poll outcome effect | rejected poll outcome effect =>
    exact ⟨hheld.1.persists hpersists, hheld.2⟩
  | _ => trivial

/-! ## Polling and pinning -/

theorem pollHeld_of_listed {lane : Lane} {limit : ℕ} {tasks : List ReceiptPollTask}
    {listed : ReceiptPollTask} {winning : AttemptRow}
    (htasks : listReceiptPollTasks db lane limit = .ok tasks) (hlisted : listed ∈ tasks)
    (hwinning : winning ∈ listed.attempts) (hwins : wins listed.outbox.row winning facts = true) :
    PollHeld db.tx ⟨listed.outbox.row, winning, facts⟩ := by
  unfold listReceiptPollTasks at htasks
  split at htasks
  · cases htasks
  split at htasks
  · cases htasks
  cases htasks
  obtain ⟨row, hrow, rfl⟩ := mem_map.mp hlisted
  have hmem : row ∈ db.tx.outbox := by
    have hsorted := (mem_insertionSort _).mp (mem_of_mem_take hrow)
    exact (mem_filter.mp hsorted).1
  have hfilter := mem_filter.mp ((mem_insertionSort _).mp hwinning)
  have howner : winning.outboxID = row.id := of_decide_eq_true (Bool.and_eq_true _ _ ▸ hfilter.2).1
  exact ⟨⟨row, find_of_mem hmem, rfl, fun _ hreceipt => hreceipt⟩,
    ⟨winning, find_of_mem hfilter.1, rfl, howner⟩, hwins⟩

theorem prepareReceiptResolution_pins {attemptID : ℕ}
    (hresult : (prepareReceiptResolution db now attemptID facts).2 = .ok outcome) :
    ∃ attempt row, ReceiptOf db attemptID facts attempt row ∧
      ∃ after, (prepareReceiptResolution db now attemptID facts
          ).1.tx.outbox.find attempt.outboxID = some after ∧ rowTask after = rowTask row ∧
        after.receipt = some ⟨outcome, attemptID⟩ := by
  unfold prepareReceiptResolution at hresult ⊢
  split at hresult
  · cases hresult
  rename_i hid
  rw [if_neg hid]
  split at hresult
  · cases hresult
  rename_i hfacts
  split at hresult
  · cases hresult
  rename_i attempt hattempt
  split at hresult
  · cases hresult
  rename_i hhash
  simp only [if_neg hhash]
  split at hresult
  · cases hresult
  rename_i row hrow
  have hreceipt : ReceiptOf db attemptID facts attempt row :=
    ⟨hfacts, hattempt, not_not.mp hhash, hrow⟩
  refine ⟨attempt, row, hreceipt, ?_⟩
  split at hresult
  · rename_i pinned hpinned
    split at hresult
    · rename_i hsame
      rw [if_pos hsame]
      cases hresult
      exact ⟨row, hrow, rfl, by rw [hpinned, ← hsame]⟩
    · cases hresult
  · split at hresult
    · cases hresult
    · rename_i hopen
      rw [if_neg hopen]
      cases hresult
      have hid : row.id = attempt.outboxID := (find_eq_some.mp hrow).2
      rw [← hid] at hrow ⊢
      exact ⟨pinnedRow row now _, find_setRow hrow rfl, rfl, rfl⟩

/-! ## The step -/

section Step

variable {deployment : Deployment} {pre post : System} {label : Label}

theorem pin_db (hstep : SystemStep deployment pre (.pin manager now) post)
    (hsession : pre.sessions manager = .polled poll) (hfree : poll.row.receipt = none) :
    post.db = (prepareReceiptResolution pre.db now poll.attempt.id poll.facts).1 := by
  simp only [SystemStep, exec, hsession, pinStep, hfree, Option.some.injEq] at hstep
  split at hstep <;> simp_all [← hstep, System.commit]

theorem mark_db {effect : WorkflowEffect}
    (hstep : SystemStep deployment pre (.mark manager now) post)
    (hsession : pre.sessions manager = .unapplied poll outcome effect) :
    post.db = (effect.mark.call pre.db now).1 := by
  simp only [SystemStep, exec, hsession, markStep, Option.some.injEq] at hstep
  split at hstep <;> simp_all [← hstep, System.commit]

theorem receiptHeld_of_pinned {tx : TxTables}
    {pinned : Resolution} (hheld : PollHeld tx poll) (hpinned : poll.row.receipt = some pinned) :
    ReceiptHeld tx poll pinned.outcome := by
  obtain ⟨row, hrow, htask, hreceipt⟩ := hheld.row
  have hwins := hheld.wins
  simp only [wins, hpinned, decide_eq_true_eq] at hwins
  exact ⟨⟨row, hrow, htask, by rw [hreceipt _ hpinned, hwins]⟩, hheld.attempt⟩

theorem receiptHeld_of_resolved
    (hreached : Reached pre.db) (hstep : SystemStep deployment pre (.pin manager now) post)
    (hsession : pre.sessions manager = .polled poll) (hfree : poll.row.receipt = none)
    (hheld : PollHeld pre.db.tx poll)
    (hresult : (prepareReceiptResolution pre.db now poll.attempt.id poll.facts).2 = .ok outcome) :
    ReceiptHeld post.db.tx poll outcome := by
  obtain ⟨attempt, row, hreceipt, after, hafter, htask, hpinned⟩ :=
    prepareReceiptResolution_pins hresult
  obtain ⟨stored, hstored, -, howner⟩ := hheld.attempt
  obtain ⟨listed, hlisted, hlistedtask, -⟩ := hheld.row
  have hrow := hreceipt.owner
  rw [hreceipt.found, Option.some.injEq] at hstored
  rw [hstored, howner] at hafter hrow
  rw [hlisted] at hrow
  cases hrow
  refine ⟨⟨after, ?_, htask.trans hlistedtask, hpinned⟩,
    hheld.attempt.persists (persists_step hreached hstep)⟩
  rw [pin_db hstep hsession hfree]
  exact hafter

theorem sessionHeld_step (hreached : Reached pre.db)
    (hheld : ∀ owner, SessionHeld pre.db.tx (pre.sessions owner))
    (hstep : SystemStep deployment pre label post) (owner : ℕ) :
    SessionHeld post.db.tx (post.sessions owner) := by
  have hpersists := persists_step hreached hstep
  have hbefore := hheld owner
  have hafter := hbefore.persists hpersists
  generalize hpost : post.sessions owner = session
  cases hpost ▸ session_origin hstep owner with
  | kept hsession => exact hsession ▸ hafter
  | idle | listed _ | observing _ _ => trivial
  | polled _ htasks hlisted hwinning hwins =>
    exact (pollHeld_of_listed htasks hlisted hwinning hwins).persists hpersists
  | replayed hsession hpinned =>
    rw [hsession] at hafter
    exact receiptHeld_of_pinned hafter hpinned
  | resolved hlabel hsession hfree hresult =>
    rw [hsession] at hbefore
    subst hlabel
    exact receiptHeld_of_resolved hreached hstep hsession hfree hbefore hresult
  | effectless hsession _ | rejected _ hsession _ =>
    rw [hsession] at hafter
    exact hafter
  | checked hsession _ _ _ =>
    rcases hsession with hsession | hsession <;> rw [hsession] at hafter
    · exact hafter
    · exact hafter.1
  | unapplied hsession heffect =>
    rw [hsession] at hafter
    exact ⟨hafter, heffect⟩
  | marked _ hsession _ =>
    rw [hsession] at hafter
    exact hafter.1

end Step

end Lazier.Delivery
