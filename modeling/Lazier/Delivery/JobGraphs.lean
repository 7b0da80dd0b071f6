import Lazier.Delivery.PinnedReceipts
import Lazier.Indexer.Assignments
import Lazier.Scope.Fence

/-!
# The state graphs of the jobs

Every job of a run moves along the graph of its workflow, whoever writes it and
however stale the status is that the writer expects.  The packet shows the
status of its executor job from the first move on, but not always of a job that
the source stream creates in manual review.
-/

namespace Lazier.Delivery

open Indexer Ledger Library LZ Manager Scope Store Workflow List

/-- The executor workflow in its order. -/
def executorWorkflow : List ExecutorState :=
  [.assigned, .waitingDVNVerification, .verifiable, .commitTxEnqueued,
    .committed, .executable, .lzReceiveTxEnqueued, .lzReceiveFailed]

/-- Forward along the workflow, out of it, the one edge back, and out of a
review. -/
inductive ExecutorEdge (status next : ExecutorState) : Prop
  | forward (horder : [status, next].Sublist executorWorkflow)
  | finished (hstatus : status ∈ executorWorkflow)
      (hnext : next = .delivered ∨ next = .manualReview)
  | retried (hstatus : status = .lzReceiveFailed) (hnext : next = .lzReceiveTxEnqueued)
  | reviewed (hstatus : status = .manualReview) (hnext : next = .delivered)

/-- Verified jobs stay, and jobs that wait for the operator or only watch leave
for `VERIFIED` alone. -/
structure DVNEdge (status next : DVNState) : Prop where
  absorbing : status ≠ .verified
  parked : status = .quorumConflict ∨ status = .manualReview ∨
    status = .wouldVerify → next = .verified

/-- A job is created in a first status and moves along the edges. -/
def Follows {State : Type} (edge : State → State → Prop) (first : List State)
    (before after : Option State) : Prop :=
  match before with
  | none => after = none ∨ ∃ status ∈ first, after = some status
  | some status =>
    after = some status ∨ ∃ next, after = some next ∧ edge status next

theorem Follows.refl {State : Type} {edge : State → State → Prop} {first : List State}
    (status : Option State) :
    Follows edge first status status := by
  cases status <;> exact .inl rfl

/-- The statuses of a job whose delivery was enqueued. -/
def deliveryStatuses : List ExecutorState :=
  [.lzReceiveFailed, .lzReceiveTxEnqueued, .delivered, .manualReview]

/-! ## Edges of the executor workflow -/

variable {deployment : Deployment} {pre post : System} {label : Label} {status next : ExecutorState}

theorem TxMove.edge (hmove : TxMove status next) : ExecutorEdge status next := by
  cases hmove with
  | commit => exact .forward (by decide)
  | deliver hstatus =>
    rcases hstatus with rfl | rfl
    · exact .forward (by decide)
    · exact .retried rfl rfl
  | park hstatus =>
    rcases hstatus with rfl | rfl | rfl <;>
      exact .finished (by decide) (.inr rfl)

theorem edge_of_rank (hnew : status ≠ .new) (hforward : rank status < rank next)
    (hnext : next ≠ .lzReceiveFailed) : ExecutorEdge status next := by
  cases next <;> cases status <;> first
    | exact absurd rfl hnew
    | exact absurd rfl hnext
    | exact absurd hforward (by decide)
    | exact .forward (by decide)
    | exact .finished (by decide) (.inl rfl)
    | exact .finished (by decide) (.inr rfl)
    | exact .reviewed rfl rfl

theorem observed_edge {event : DestinationEvent} (hcan : canApply event status = true)
    (hnew : status ≠ .new) (guid txHash : Hash) :
    (observedUpdate guid txHash status event).next = status ∨
      ExecutorEdge status (observedUpdate guid txHash status event).next := by
  cases event with
  | verified | delivered | alert =>
    simp only [observedUpdate, ExecutorStatusUpdate.move]
    cases status <;> first
      | exact .inl rfl
      | exact absurd rfl hnew
      | exact .inr (.forward (by decide))
      | exact .inr (.finished (by decide) (.inl rfl))
      | exact .inr (.reviewed rfl rfl)
      | cases hcan

theorem outcomeEffect_edge {task : Task} {txHash : Hash} {outcome : ReceiptOutcome}
    {effect : WorkflowEffect} {update : ExecutorStatusUpdate}
    (heffect : outcomeEffect task txHash outcome = some effect)
    (hupdate : markUpdate effect.mark = some update) (hnew : update.expected ≠ .new) :
    ExecutorEdge update.expected update.next := by
  rcases effect_kinds heffect with ⟨known, _, hexecutor⟩ | hverifier
  · obtain rfl : known = update := Option.some.inj (hexecutor.mark.symm.trans hupdate)
    rcases hexecutor.moved with ⟨hforward, hnext, -⟩ | ⟨hpurpose, -, hnext, -⟩
    · exact edge_of_rank hnew hforward hnext
    · have hexpected := hexecutor.expected
      rw [hpurpose] at hexpected
      rw [← Option.some.inj hexpected, hnext]
      exact .forward (by decide)
  · rcases hverifier.mark with hmark | hmark <;> rw [hmark] at hupdate <;> cases hupdate

theorem ExecutorCall.edge {update : ExecutorStatusUpdate}
    (hheld : ∀ owner, SessionHeld pre.db.tx (pre.sessions owner))
    (hcall : ExecutorCall deployment pre label update) (hnew : update.expected ≠ .new) :
    update.next = update.expected ∨ ExecutorEdge update.expected update.next := by
  cases hcall with
  | worker _ _ _ hforward hnext _ => exact .inr (edge_of_rank hnew hforward hnext.2.2)
  | @observed indexer now packet job log event _ happlies =>
    have hedge : job.status ≠ .new → _ := fun hnew =>
      observed_edge happlies.can hnew packet.guid log.txHash
    cases event <;> exact hedge hnew
  | @marked manager now poll outcome effect _ hsession hupdate =>
    have hsessionheld := hheld manager
    rw [hsession] at hsessionheld
    obtain ⟨task, -, heffect⟩ := exists_task hsessionheld.2
    exact .inr (outcomeEffect_edge heffect hupdate hnew)

theorem ExecutorEdge.next_ne_new (hedge : ExecutorEdge status next) : next ≠ .new := by
  rintro rfl
  cases hedge with
  | forward horder =>
    have hmem := horder.subset (mem_cons_of_mem _ mem_cons_self)
    exact absurd hmem (by decide)
  | finished _ hnext => rcases hnext with hnext | hnext <;> cases hnext
  | retried _ hnext | reviewed _ hnext => cases hnext

theorem executor_follows (hcoherent : Coherent pre)
    (hold : ∀ guid, executorStatus pre.db.work guid ≠ some .new)
    (hstep : SystemStep deployment pre label post) (guid : Hash) :
    Follows ExecutorEdge firstStatuses (executorStatus pre.db.work guid)
      (executorStatus post.db.work guid) := by
  rcases executorStatus_step hstep guid with
    hsame | ⟨hbefore, status, hfirst, hafter⟩ | ⟨status, next, hbefore, hafter, hmove⟩ |
      ⟨update, hcall, -, hbefore, hafter, -⟩
  · rw [hsame]
    exact .refl _
  · rw [hbefore, hafter]
    exact .inr ⟨status, hfirst, rfl⟩
  · rw [hbefore, hafter]
    exact .inr ⟨next, rfl, hmove.edge⟩
  · have hnew : update.expected ≠ .new := fun hnew => hold guid (hnew ▸ hbefore)
    rw [hbefore, hafter]
    rcases hcall.edge hcoherent.held hnew with hsame | hedge
    · exact .inl (congrArg some hsame)
    · exact .inr ⟨_, rfl, hedge⟩

/-! ## Edges of the DVN workflow -/

theorem VerifierMove.edge {status next : DVNState} (hmove : VerifierMove status next) :
    next = status ∨ DVNEdge status next := by
  cases hmove with
  | @verified status =>
    by_cases hverified : status = .verified
    · exact .inl hverified.symm
    · exact .inr ⟨hverified, fun _ => rfl⟩
  | canceled => exact .inr ⟨by simp, by simp⟩
  | worked hlisted _ =>
    refine .inr ⟨?_, ?_⟩
    · rintro rfl
      cases hlisted
    · rintro (rfl | rfl | rfl) <;> cases hlisted

theorem dvn_follows (hstep : SystemStep deployment pre label post) (guid : Hash) :
    Follows DVNEdge [.assigned] (dvnStatus pre.db.work guid) (dvnStatus post.db.work guid) := by
  obtain ⟨op, hjob⟩ := jobStep_step hstep
  rcases hjob.dvnStatus_cases guid with
    hchange | ⟨-, status, next, hbefore, hafter, hmove⟩
  · cases hchange with
    | same hsame =>
      rw [hsame]
      exact .refl _
    | assigned hbefore hafter =>
      rw [hbefore, hafter]
      exact .inr ⟨_, mem_singleton_self _, rfl⟩
    | moved hbefore hafter hmove =>
      rw [hbefore, hafter]
      rcases hmove.edge with hsame | hedge
      · exact .inl (congrArg some hsame)
      · exact .inr ⟨_, rfl, hedge⟩
  · rw [hbefore, hafter]
    refine .inr ⟨next, rfl, ?_⟩
    cases hmove with
    | verify | park => exact ⟨by simp, by simp⟩

/-! ## Runs -/

variable {history : List (Event System Label)} {system : System}

theorem not_new_run (hrun : SystemRun deployment history system) : Coherent system ∧
      ∀ guid, executorStatus system.db.work guid ≠ some .new := by
  refine hrun.invariant (fun system => Coherent system ∧
    ∀ guid, executorStatus system.db.work guid ≠ some .new) ?_
    ⟨coherent_empty, fun guid hnew => by cases hnew⟩
  rintro pre label post ⟨hcoherent, hold⟩ hstep
  refine ⟨coherent_step hcoherent hstep, fun guid hnew => ?_⟩
  have hfollows := executor_follows hcoherent hold hstep guid
  rw [hnew] at hfollows
  cases hbefore : executorStatus pre.db.work guid with
  | none =>
    rw [hbefore] at hfollows
    rcases hfollows with hnone | ⟨first, hfirst, hassigned⟩
    · cases hnone
    · cases hassigned
      exact absurd hfirst (by decide)
  | some status =>
    rw [hbefore] at hfollows
    rcases hfollows with hsame | ⟨next, hnext, hedge⟩
    · exact hold guid (hbefore.trans hsame.symm)
    · cases hnext
      exact hedge.next_ne_new rfl

theorem delivery_status (hcoherent : Coherent system) {guid : Hash} {id : ℕ}
    (hrow : phaseAt system.db.tx (delivery guid) id ≠ none) : ∃ status ∈ deliveryStatuses,
      executorStatus system.db.work guid = some status := by
  have hawaited : awaited (delivery guid).purpose = some .lzReceiveTxEnqueued := rfl
  obtain ⟨status, hstatus, hrank, -⟩ := started_status hawaited
    (hcoherent.started (delivery guid) (delivery_packet guid) id hrow)
  refine ⟨status, ?_, hstatus⟩
  cases status <;> first
    | decide
    | exact absurd hrank (by decide)

/-- The retry of a delivery stops only where the scope gate does. -/
theorem prepareReceiptRetryWorkflow_error {db : DB} {now : Time} {row : OutboxRow} {guid : Hash}
    {error : StoreError} (hpurpose : row.purpose = .executorLzReceive)
    (hguid : row.guid = some guid.1) (hstatus : executorStatus db.work guid = some status)
    (hdelivery : status ∈ deliveryStatuses)
    (herror : prepareReceiptRetryWorkflow db now row = .error error) :
    lockTxSendScope db row.chainEID .executorLzReceive guid.1 = .error error := by
  have hkey : bytesToHash guid.1 = guid := FixedBytes.ofBytes_val guid
  obtain ⟨job, hjob, rfl⟩ := Option.map_eq_some_iff.mp hstatus
  unfold prepareReceiptRetryWorkflow at herror
  rw [hguid] at herror
  dsimp only at herror
  rw [if_neg (not_not.mpr hpurpose), if_neg (not_not.mpr guid.2), hkey, hjob] at herror
  dsimp only at herror
  split at herror
  · split at herror
    · cases herror
    split at herror
    · cases herror
    · rename_i hscope
      cases herror
      exact hscope
    · cases herror
  · cases herror
  · cases herror
  · cases herror
  · rename_i hfailed hwaits hdone hreview
    simp only [deliveryStatuses, mem_cons, not_mem_nil, or_false] at hdelivery
    tauto

/-- Jobs move along their graphs in every run, and the job of a delivery row is
never in a status that the retry of a reverted delivery does not expect. -/
theorem jobs_follow_graphs (hrun : SystemRun deployment history system) :
    (∀ event ∈ history, ∀ guid, Follows ExecutorEdge [.assigned, .manualReview]
          (executorStatus event.pre.db.work guid) (executorStatus event.post.db.work guid) ∧
        Follows DVNEdge [.assigned] (dvnStatus event.pre.db.work guid)
          (dvnStatus event.post.db.work guid)) ∧
    ∀ row ∈ system.db.tx.outbox, row.purpose = .executorLzReceive →
      ∃ guid status, row.guid = some guid.1 ∧ executorStatus system.db.work guid = some status ∧
        status ∈ deliveryStatuses ∧ ∀ now error,
          prepareReceiptRetryWorkflow system.db now row = .error error →
          lockTxSendScope system.db row.chainEID .executorLzReceive guid.1 = .error error := by
  refine ⟨fun event hevent guid => ?_, fun row hrow hpurpose => ?_⟩
  · obtain ⟨hstep, earlier, hearlier⟩ := hrun.event_reached hevent
    obtain ⟨hcoherent, hold⟩ := not_new_run hearlier
    exact ⟨executor_follows hcoherent hold hstep guid, dvn_follows hstep guid⟩
  · have hcoherent := coherent_run hrun
    obtain ⟨_, hstore⟩ := hcoherent.reached
    obtain ⟨guid, hguid⟩ := addressed_storeRun hstore row hrow (by rw [hpurpose]; rfl)
    have hphase : phaseAt system.db.tx (delivery guid) row.id ≠ none := by
      have hmine : rowTask row = (delivery guid).columns := Prod.ext hpurpose hguid
      rw [phaseAt_eq (SerialTable.find_of_mem hrow) hmine]
      simp
    obtain ⟨status, hdelivery, hstatus⟩ := delivery_status hcoherent hphase
    exact ⟨guid, status, hguid, hstatus, hdelivery, fun now error herror =>
      prepareReceiptRetryWorkflow_error hpurpose hguid hstatus hdelivery herror⟩

/-- The delivery of the first packet reverts, and its job is where the retry
expects it. -/
theorem revertedDelivery_expected : ∃ history system, SystemRun sampleDeployment history system ∧
      ∃ row ∈ system.db.tx.outbox, row.failureKind = some .receiptFailed ∧
        ∃ guid status, row.guid = some guid.1 ∧ executorStatus system.db.work guid = some status ∧
          status ∈ deliveryStatuses := by
  obtain ⟨history, system, hrun, -, hcheck⟩ := sampleRun (fun _ _ => true)
      (enqueuedDelivery ++ sent 1 7 ++ pinned 2 7 false ++ [.check 2, .mark 2 3, .finalize 2 3 3])
      (fun system => system.db.tx.outbox.rows.any fun row =>
        decide (row.failureKind = some .receiptFailed) &&
          decide (row.purpose = .executorLzReceive))
      (by decide +kernel)
  simp only [any_eq_true, Bool.and_eq_true, decide_eq_true_eq] at hcheck
  obtain ⟨row, hrow, hkind, hpurpose⟩ := hcheck
  obtain ⟨guid, status, hguid, hstatus, hdelivery, -⟩ :=
    (jobs_follow_graphs hrun).2 row hrow hpurpose
  exact ⟨history, system, hrun, row, hrow, hkind, guid, status, hguid, hstatus, hdelivery⟩

/-! ## Packets of the jobs -/

/-- A job that is created in manual review finds no packet that shows another
status. -/
def reviewsShown (pre : System) : Label → Bool
  | .call (.work (.upsertExecutorJob _ job)) =>
    decide (executorStatus pre.db.work job.guid = none → job.status = .manualReview →
      packetStatus pre.db.work job.guid = none ∨
        packetStatus pre.db.work job.guid = some .manualReview)
  | _ => true

/-- The packet of every executor job shows its status, an assigned one apart. -/
def StatusesShown (work : WorkTables) : Prop :=
  ∀ guid status, executorStatus work guid = some status →
    status ≠ .assigned → packetStatus work guid = some status

theorem statusesShown_step (hcoherent : Coherent pre) (hshown : StatusesShown pre.db.work)
    (hstep : SystemStep deployment pre label post) (hreviews : reviewsShown pre label = true) :
    StatusesShown post.db.work := by
  intro guid status hstatus hlate
  rcases hcoherent.seen hstep guid with hseen | ⟨now, job, rfl, rfl, hassigned⟩
  · cases hseen with
    | kept hkept hpacket => exact hpacket status (hshown guid status (hkept ▸ hstatus) hlate)
    | moved _ hmoved =>
      obtain ⟨after, hafter, hpacket⟩ := hmoved
      rw [hpacket, ← hafter, hstatus]
  · rw [hassigned.executorStatus, if_pos rfl] at hstatus
    have hreview : job.status = .manualReview := by
      have hfirst := hassigned.first
      rw [Option.some.inj hstatus] at hfirst ⊢
      simpa [firstStatuses, hlate] using hfirst
    rw [packetStatus, hassigned.packets, ← hstatus, hreview]
    have hfresh : executorStatus pre.db.work job.guid = none := by
      rw [executorStatus_eq_map, hassigned.fresh, Option.map_none]
    exact (of_decide_eq_true hreviews hfresh hreview).resolve_left hassigned.packet

/-- The packet shows the status of every executor job that is not assigned, in
every run in which no job is created in manual review on a packet that shows
another status. -/
theorem packet_shows_job_status (hrun : SystemRun deployment history system)
    (hreviews : ∀ event ∈ history, reviewsShown event.pre event.label = true) :
    ∀ guid status, executorStatus system.db.work guid = some status →
      status ≠ .assigned → packetStatus system.db.work guid = some status :=
  (hrun.history_invariant (fun event => reviewsShown event.pre event.label = true)
    (fun _ system => Coherent system ∧ StatusesShown system.db.work)
    (fun _ _ _ _ hpre hstep hreview => ⟨coherent_step hpre.1 hstep,
      statusesShown_step hpre.1 hpre.2 hstep hreview⟩)
    ⟨coherent_empty, fun _ _ hstatus => by cases hstatus⟩ hreviews).2

theorem firstPacket_shows_delivery : ∃ history system, SystemRun sampleDeployment history system ∧
      packetStatus system.db.work optionedPacket.guid = some .lzReceiveTxEnqueued := by
  obtain ⟨history, system, hrun, hreviews, hcheck⟩ := sampleRun reviewsShown enqueuedDelivery
      (fun system => decide (executorStatus system.db.work optionedPacket.guid =
        some .lzReceiveTxEnqueued)) (by decide +kernel)
  exact ⟨history, system, hrun, packet_shows_job_status hrun hreviews _ _
    (of_decide_eq_true hcheck) (by decide)⟩

/-- A compose option, which the executor does not support. -/
def composeEntry : OptionEntry :=
  ⟨1, 3, (FixedBytes.ofNat 2 0).1 ++ (FixedBytes.ofNat 16 100000).1, by decide⟩

/-- The first packet, sent with a compose option. -/
def composedPacket : PacketRecord :=
  { optionedPacket with
    options := type3Options [lzReceiveEntry, composeEntry]
    status := .new }

def composedAssignment : ExecutorJobAssigned where
  dstEID := composedPacket.dstEID
  sender := composedPacket.sender
  sendLib := composedPacket.sendLib
  price := 12
  options := executorStream [lzReceiveEntry, composeEntry]

def composedJob : ExecutorJobRecord :=
  ⟨composedPacket.guid, some 12, .manualReview,
    "unsupported executor options: unsupported lzCompose executor option"⟩

/-- The DVN stream stores the packet before the executor stream parks its
job, and the packet stays new. -/
theorem composedPacket_stays_new : executorJobFromAssignment composedPacket composedAssignment =
        .ok composedJob ∧ ∃ history system, SystemRun sampleDeployment history system ∧
        executorStatus system.db.work composedPacket.guid = some .manualReview ∧
        packetStatus system.db.work composedPacket.guid = some .new := by
  refine ⟨by decide +kernel, ?_⟩
  obtain ⟨history, system, hrun, -, hcheck⟩ := sampleRun (fun _ _ => true)
      [.call (.work (.syncConfig ⟨[1, 2], [⟨composedPacket.route, true⟩]⟩)),
        .call (.work (.upsertPacket composedPacket)), .call (.work (.upsertPacket
          { composedPacket with status := composedJob.status })),
        .call (.work (.upsertExecutorJob 0 composedJob))]
      (fun system => decide
        (executorStatus system.db.work composedPacket.guid = some .manualReview ∧
          packetStatus system.db.work composedPacket.guid = some .new)) (by decide +kernel)
  exact ⟨history, system, hrun, of_decide_eq_true hcheck⟩

end Lazier.Delivery
