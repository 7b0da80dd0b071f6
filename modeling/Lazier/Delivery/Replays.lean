import Lazier.Delivery.Messages
import Lazier.Delivery.PinnedReceipts

/-!
# Replayed destination logs

A crash before the cursor moves, or a second process on the same window, makes
the executor stream apply a log again.  The first application leaves behind a
status below which the job never falls and, for a reverted delivery, a recorded
transaction hash.  Both outlast every later step of the system, and each turns
the log into a no-op.
-/

namespace Lazier.Delivery

open Chain Indexer Ledger Library Manager Store Workflow List Option

variable {now : Time} {job : ExecutorJobRow} {stream : Stream} {found : PacketRecord} {dstEID : ℕ}

/-! ## What an application leaves behind -/

/-- The status to which an event takes its job. -/
def eventStatus : DestinationEvent → ExecutorState
  | .verified _ => .committed
  | .delivered _ => .delivered
  | .alert _ => .lzReceiveFailed

section Observed

variable (guid txHash : Hash) (status : ExecutorState) (event : DestinationEvent)

end Observed

/-- The job has come as far as the event takes it, and the transaction of an
alert is recorded. -/
structure Settles (work : WorkTables) (guid txHash : Hash) (event : DestinationEvent) : Prop where
  reached : rank (eventStatus event) ≤ executorRank work guid
  recorded : ∀ alert, event = .alert alert → (work.receiveFailures.find ⟨guid, txHash⟩).isSome

variable {deployment : Deployment} {pre post : System} {label : Label}

theorem ExecutorCall.counted {update : ExecutorStatusUpdate}
    (hcall : ExecutorCall deployment pre label update)
    (hcounts : update.incrementRetryCount = true) : update.next = .lzReceiveFailed := by
  cases hcall with
  | worker _ _ _ _ _ hfree =>
    rw [hfree] at hcounts
    cases hcounts
  | @observed _ _ _ _ _ event =>
    cases event with
    | verified | delivered => cases hcounts
    | alert => rfl
  | @marked _ _ _ _ effect _ _ hupdate =>
    cases hmark : effect.mark <;> rw [hmark] at hupdate <;>
      cases hupdate <;> first | rfl | cases hcounts

variable {guid txHash : Hash} {event : DestinationEvent}

theorem Settles.step (hsettles : Settles pre.db.work guid txHash event) (hcoherent : Coherent pre)
    (hstep : SystemStep deployment pre label post) : Settles post.db.work guid txHash event where
  reached := hsettles.reached.trans ((ranksRise_step hcoherent.held hstep).executor guid)
  recorded alert halert := receiveFailures_step hstep (hsettles.recorded alert halert)

variable {db : DB} {status : ExecutorState}

/-- A job that has come as far as the event takes it is skipped, apart from a
failed delivery that was enqueued again. -/
theorem alreadyApplied_of_reached (libs : EventLibraries)
    (hreached : rank (eventStatus event) ≤ rank status) :
    executorDestinationLogAlreadyApplied libs status (eventTopic libs event) = true ∨
      (∃ alert, event = .alert alert) ∧ status = .lzReceiveTxEnqueued := by
  cases event with
  | verified | delivered | alert =>
    rw [eventStatus] at hreached
    cases status <;> first
      | exact absurd hreached (by decide)
      | simp [executorDestinationLogAlreadyApplied, eventTopic, libs.verified_ne_delivered.symm,
          libs.verified_ne_alert.symm, libs.delivered_ne_alert.symm]

variable {libs : EventLibraries} {log : Log}

theorem headD_of_event (hevent : destinationEvent libs log = .ok (some event)) :
    log.topics.headD Hash.zero = eventTopic libs event := by
  rw [headD_eq_head?_getD, destinationEvent_topic hevent, getD_some]

/-- The log has been applied: its packet is stored, its event is settled, and
an alert has passed the checks against the packet. -/
structure Done (libs : EventLibraries) (sent : Hash → Message)
    (work : WorkTables) (dstEID : ℕ) (log : Log) (event : DestinationEvent)
    (packet : PacketRecord) : Prop where
  finds : Finds libs sent dstEID log event packet
  stored : carriedAt work packet.guid ≠ none
  settles : Settles work packet.guid log.txHash event
  checked : ∀ alert, event = .alert alert → validateLzReceiveAlert packet alert = none
  hash : log.txHash ≠ Hash.zero

/-- What the stream decides about a log that has been applied: it skips the
log, or it applies an alert once more to a delivery that was enqueued again. -/
inductive Replayed (event : DestinationEvent) (packet : PacketRecord) :
    Decision ExecutorJobRow → Prop
  | skipped (reason : String) : Replayed event packet (.skip reason)
  | again {found : PacketRecord} {job : ExecutorJobRow} {alert : LzReceiveAlert}
      (halert : event = .alert alert) (hstatus : job.status = .lzReceiveTxEnqueued)
      (hjob : job.guid = found.guid) (hfound : found.guid = packet.guid)
      (hcarried : carried found = carried packet) : Replayed event packet (.apply found job)

variable {sent : Hash → Message} {packet : PacketRecord}

theorem Done.decide (hdone : Done libs sent db.work stream.dstEID log event packet)
    (hsound : PacketsSound sent db.work) :
    ∃ decision, decideExecutorLog libs stream db log = .ok decision ∧
      Replayed event packet decision := by
  obtain ⟨found, hlookup, hfind⟩ := hdone.finds.lookup hsound hdone.stored
  have hguid : found.guid = packet.guid := (Table.find_eq_some.mp hfind).2
  obtain ⟨hvalid, hmessage⟩ := hsound.valid hfind
  have hsame : sentMessage found = sentMessage packet := hmessage.trans hdone.finds.message.symm
  have hchain : found.dstEID = stream.dstEID :=
    (congrArg (fun message => message.route.dstEID) hsame).trans hdone.finds.chain
  have hpositive : 0 < executorRank db.work packet.guid :=
    lt_of_lt_of_le (by cases event <;> exact Nat.succ_pos _) hdone.settles.reached
  obtain ⟨status, hstatus, hrank⟩ := exists_status_of_rank hpositive
  obtain ⟨job, hjob, rfl⟩ := exists_job hstatus
  rw [decideExecutorLog, hlookup]
  dsimp only
  rw [if_neg (not_not.mpr hchain)]
  split
  · exact ⟨_, rfl, .skipped _⟩
  rw [hguid, getExecutorJob, if_neg (guid_ne_of_valid hdone.finds.valid), hjob]
  dsimp only
  rw [headD_of_event hdone.finds.decoded]
  rcases alreadyApplied_of_reached libs (hrank ▸ hdone.settles.reached) with
    happlied | ⟨⟨alert, halert⟩, hqueued⟩
  · rw [if_pos happlied]
    exact ⟨_, rfl, .skipped _⟩
  · split
    · exact ⟨_, rfl, .skipped _⟩
    · refine ⟨_, rfl, .again halert hqueued ?_ hguid ?_⟩
      · exact (Table.find_eq_some.mp hjob).2.trans hguid.symm
      · rw [carried, carried, hvalid, hsame, hdone.finds.valid]

theorem validateLzReceiveAlert_congr (hguid : found.guid = packet.guid)
    (hsame : sentMessage found = sentMessage packet) (alert : LzReceiveAlert) :
    validateLzReceiveAlert found alert = validateLzReceiveAlert packet alert := by
  have hroute : found.route = packet.route := congrArg Message.route hsame
  have hsrc : found.srcEID = packet.srcEID := congrArg Route.srcEID hroute
  have hsender : found.sender = packet.sender := congrArg Route.srcOApp hroute
  have hreceiver : found.receiver = packet.receiver := congrArg Route.dstOApp hroute
  have hnonce : found.nonce = packet.nonce := congrArg Message.nonce hsame
  have hbody : found.message = packet.message := congrArg Message.body hsame
  simp only [validateLzReceiveAlert, validateEvent, validateOrigin, hsrc,
    hsender, hreceiver, hnonce, hbody, hguid]

/-- An alert that is applied once more finds its transaction recorded. -/
theorem apply_again {alert : LzReceiveAlert}
    (hevent : destinationEvent libs log = .ok (some (.alert alert)))
    (hvalid : found.validationError = none) (hjob : job.guid = found.guid)
    (hstatus : job.status = .lzReceiveTxEnqueued)
    (hchecked : validateLzReceiveAlert found alert = none) (hhash : log.txHash ≠ Hash.zero)
    (hrecorded : (db.work.receiveFailures.find ⟨found.guid, log.txHash⟩).isSome) :
    applyExecutorDestinationLog libs db now found job log = (db, .ok true) := by
  have hfresh : executorDestinationLogAlreadyApplied libs job.status
      (log.topics.headD Hash.zero) = false := by
    rw [headD_of_event hevent, hstatus]
    simp [executorDestinationLogAlreadyApplied, eventTopic,
      libs.verified_ne_alert.symm, libs.delivered_ne_alert.symm]
  have hmark : markExecutorReceiveFailedObserved db now found.guid log.txHash
      job.status (FixedBytes.hexBytes alert.reason) = commit db () := by
    rw [markExecutorReceiveFailedObserved, if_neg hhash]
    exact updateExecutorStatus_repeated (guid_ne_of_valid hvalid) rfl rfl hrecorded
  rw [applyExecutorDestinationLog, hvalid]
  dsimp only
  rw [if_neg (not_not.mpr hjob), if_neg (by rw [hfresh]; simp), hevent]
  dsimp only
  rw [hmark, hchecked, hstatus]
  rfl

/-- The application of an alert that was decided on a settled log changes
nothing, at once or later. -/
theorem Done.apply {later : DB} (hdone : Done libs sent db.work dstEID log event packet)
    (hreplayed : Replayed event packet (.apply found job))
    (hsettles : Settles later.work packet.guid log.txHash event) :
    applyExecutorDestinationLog libs later now found job log = (later, .ok true) := by
  cases hreplayed with
  | @again _ _ alert halert hstatus hjob hfound hcarried =>
    have hvalid : found.validationError = none :=
      (congrArg Prod.fst hcarried).trans hdone.finds.valid
    have hchecked : validateLzReceiveAlert found alert = none := by
      rw [validateLzReceiveAlert_congr hfound (congrArg Prod.snd hcarried)]
      exact hdone.checked alert halert
    exact apply_again (halert ▸ hdone.finds.decoded) hvalid hjob hstatus
      hchecked hdone.hash (hfound ▸ hsettles.recorded alert halert)

theorem Done.logStep (hdone : Done libs sent db.work stream.dstEID log event packet)
    (hsound : PacketsSound sent db.work) (applied : ℕ) (now : Time) :
    ∃ counted, executorLogStep libs stream ⟨db, applied, false⟩ (now, log) =
      (⟨db, counted, false⟩, none) := by
  obtain ⟨decision, hdecide, hreplayed⟩ := hdone.decide hsound
  rw [executorLogStep, Indexer.logStep, hdecide]
  cases decision with
  | skip reason => exact ⟨applied, rfl⟩
  | pending reason => cases hreplayed
  | apply found job =>
    dsimp only
    rw [hdone.apply hreplayed hdone.settles]
    exact ⟨applied + 1, rfl⟩

/-! ## Runs -/

/-- The step applies the log on the chain, with success. -/
def appliesLog (deployment : Deployment) (dstEID : ℕ) (log : Log) (pre : System) : Label → Bool
  | .apply indexer now =>
    match pre.sessions indexer with
    | .observing packet job read =>
      decide (read = log ∧ (deployment.stream indexer).dstEID = dstEID ∧
        (applyExecutorDestinationLog deployment.libs pre.db now packet job log).2 = .ok true)
    | _ => false
  | _ => false

variable {system : System}

theorem Done.step (hdone : Done deployment.libs sent pre.db.work dstEID log event packet)
    (hcoherent : Coherent pre) (hstep : SystemStep deployment pre label post) :
    Done deployment.libs sent post.db.work dstEID log event packet :=
  { hdone with
    stored := carriedAt_step hdone.stored hstep
    settles := hdone.settles.step hcoherent hstep }

/-- The third indexer applies the log. -/
def applied (log : Log) (pre : System) : Label → Bool
  | .apply 3 now => appliesLog sampleDeployment 2 log pre (.apply 3 now)
  | _ => true

end Lazier.Delivery
