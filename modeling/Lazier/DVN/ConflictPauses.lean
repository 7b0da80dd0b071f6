import Lazier.DVN.Attestation

/-!
# Conflicts and pauses

A worker that finds conflicting source evidence records `QUORUM_CONFLICT` and
then pauses the packet's pathway with a second call.  Configuration drift is
recorded and paused in one transaction.  In a run in which no worker stops
between the two calls, every recorded conflict is followed by its pause or has
a worker that is about to make it.  A worker that does stop there leaves an
active pathway behind, and no listing returns the job again.
-/

namespace Lazier.DVN

open Chain Library Store List Bool Table

variable {now : Time} {expected status : DVNState} {reason : String} {result : Option QuorumResult}
  {pass : Pass}

/-! ## Recording and pausing -/

/-- The packet's pathway, as far as it is configured, is paused. -/
def Stopped (db : DB) (guid : Hash) : Prop := ∀ packet ∈ db.work.packets, packet.guid = guid →
    ∀ pathway ∈ db.config.pathways, pathway.route = packet.route → pathway.paused = true

/-- A call that commits the status write of a conflict or of configuration
drift. -/
def recordsConflict (db : DB) (guid : Hash) : Op → Bool
  | .work (.markDVNQuorumConflict now target expected reason result) =>
    decide (target = guid) &&
      (markDVNQuorumConflict db now target expected reason result).2.toOption.isSome
  | .work (.markDVNManualReviewAndPausePathway now target expected reason result) =>
    decide (target = guid) &&
      (markDVNManualReviewAndPausePathway db now target expected reason result).2.toOption.isSome
  | _ => false

/-- A call that pauses the pathway of the packet. -/
def pausesPathway (guid : Hash) : Op → Bool
  | .work (.pausePathwayForPacket target) => decide (target = guid)
  | .work (.markDVNManualReviewAndPausePathway _ target _ _ _) => decide (target = guid)
  | _ => false

/-- The store call that a label makes for its worker. -/
def workerCall (libs : Libraries) (configs : ℕ → WorkerConfig) (pre : System) : Label → Option Op
  | .call worker now =>
    (pre.workers worker).bind fun pass =>
      (pass.pending libs (configs worker) now).join
  | _ => none

/-- A step in which a worker records a conflict of the packet. -/
def records (libs : Libraries) (configs : ℕ → WorkerConfig) (guid : Hash)
    (pre : System) (label : Label) : Bool :=
  (workerCall libs configs pre label).any (recordsConflict pre.db guid)

/-- A step in which a worker pauses the pathway of the packet. -/
structure Pauses (libs : Libraries) (configs : ℕ → WorkerConfig) (guid : Hash)
    (event : Event System Label) : Prop where
  call : (workerCall libs configs event.pre event.label).any (pausesPathway guid) = true
  stopped : Stopped event.post.db guid

/-- No worker stops between the two calls of `markQuorumConflict`. -/
def completesConflict (pre : System) : Label → Bool
  | .stop worker =>
    match pre.workers worker with
    | some (.pausing _) => false
    | _ => true
  | _ => true

/-! ## The pause -/

theorem stopped_of_pausePacketPathway {db : DB} {guid : Hash}
    {config : ConfigTables} {work : WorkTables} (hpaused : pausePacketPathway db guid = some config)
    (hpackets : work.packets = db.work.packets) :
    Stopped ((db.withConfig config).withWork work) guid := by
  unfold pausePacketPathway at hpaused
  split at hpaused
  · cases hpaused
  rename_i stored hstored
  split at hpaused
  · cases hpaused
  rename_i row hrow
  cases hpaused
  obtain ⟨hmem, hguid⟩ := find_eq_some.mp hstored
  intro packet hpacket hsame pathway hpathway hroute
  have hpacket' : packet ∈ db.work.packets := hpackets ▸ hpacket
  have heq : packet = stored := eq_of_key_eq hpacket' hmem (hsame.trans hguid.symm)
  rcases mem_of_mem_set hpathway with rfl | ⟨-, hother⟩
  · rfl
  · refine absurd ?_ hother
    rw [hroute, heq]
    exact (find_eq_some.mp hrow).2.symm

/-- Without a packet or its pathway there is nothing to pause. -/
theorem stopped_of_unpaused {db : DB} {guid : Hash}
    (hnone : pausePacketPathway db guid = none) : Stopped db guid := by
  intro packet hpacket hsame pathway hpathway hroute
  unfold pausePacketPathway at hnone
  rw [find_eq_some.mpr ⟨hpacket, hsame⟩] at hnone
  dsimp only at hnone
  rw [find_eq_some.mpr ⟨hpathway, hroute⟩] at hnone
  cases hnone

theorem stopped_pausePathwayForPacket {db : DB} {guid : Hash} (hguid : guid ≠ Hash.zero) :
    Stopped (pausePathwayForPacket db guid).1 guid := by
  unfold pausePathwayForPacket
  rw [if_neg hguid]
  cases hpaused : pausePacketPathway db guid with
  | none => exact stopped_of_unpaused hpaused
  | some config => exact stopped_of_pausePacketPathway hpaused rfl

theorem stopped_markDVNManualReviewAndPausePathway {db : DB} {guid : Hash}
    (hok : (markDVNManualReviewAndPausePathway db now guid expected reason
      result).2.toOption.isSome) :
    Stopped (markDVNManualReviewAndPausePathway db now guid expected reason result).1 guid := by
  unfold markDVNManualReviewAndPausePathway at hok ⊢
  split at hok
  · cases hok
  rename_i hguid
  split at hok
  · cases hok
  rename_i hreason
  rw [if_neg hguid, if_neg hreason]
  split at hok
  · cases hok
  rename_i job hjob
  split at hok
  · rename_i hstatus
    split at hok
    · cases hok
    rename_i config hpaused
    rw [if_pos hstatus]
    exact stopped_of_pausePacketPathway hpaused rfl
  · cases hok

/-! ## Workers between the two calls -/

/-- The worker that takes a step. -/
def Label.actor : Label → Option ℕ
  | .enter worker _ => some worker
  | .list worker _ => some worker
  | .readHead worker _ => some worker
  | .readReceipt worker _ => some worker
  | .readDestination worker _ => some worker
  | .call worker _ => some worker
  | .stop worker => some worker
  | .indexPacket .. => none
  | .indexJob .. => none
  | .other _ => none

variable {libs : Libraries} {configs : ℕ → WorkerConfig} {pre post : System} {label : Label}
  {guid : Hash} {worker : ℕ}

theorem workers_of_other (hstep : WorkerStep libs configs pre label post)
    (hother : label.actor ≠ some worker) : post.workers worker = pre.workers worker := by
  have hset : ∀ acting next, some acting ≠ some worker →
      (pre.setWorker acting next).workers worker = pre.workers worker := by
    intro acting next hne
    rw [setWorker_workers, if_neg]
    rintro rfl
    exact hne rfl
  unfold WorkerStep exec at hstep
  cases label with
  | enter acting procedure | readHead | readReceipt | readDestination =>
    dsimp only at hstep
    split at hstep
    · cases hstep
      exact hset _ _ hother
    · cases hstep
  | list acting now =>
    dsimp only at hstep
    split at hstep
    · cases hstep
    · obtain ⟨status, -, rfl⟩ := Option.map_eq_some_iff.mp hstep
      unfold listStep
      split <;> exact hset _ _ hother
  | call acting now =>
    dsimp only at hstep
    split at hstep
    · cases hstep
    · obtain ⟨call, -, rfl⟩ := Option.map_eq_some_iff.mp hstep
      cases call <;> exact hset _ _ hother
  | stop acting =>
    cases hstep
    exact hset _ _ hother
  | indexPacket | indexJob =>
    cases hstep
    rfl
  | other op =>
    dsimp only at hstep
    split at hstep
    · cases hstep
    · cases hstep
      rfl

/-- A worker that is about to pause a pathway still is after a step, or the
step has paused it. -/
theorem pausing_step (hstep : WorkerStep libs configs pre label post)
    (hcompletes : completesConflict pre label) (hguid : guid ≠ Hash.zero)
    (hpass : pre.workers worker = some (.pausing guid)) :
    post.workers worker = some (.pausing guid) ∨ Pauses libs configs guid ⟨pre, label, post⟩ := by
  by_cases hother : label.actor = some worker
  · unfold WorkerStep exec at hstep
    cases label with
    | call acting now =>
      cases hother
      dsimp only at hstep
      rw [hpass] at hstep
      cases hstep
      refine .inr ⟨?_, stopped_pausePathwayForPacket hguid⟩
      dsimp only [workerCall]
      rw [hpass]
      simp [Pass.pending, pausesPathway]
    | stop acting =>
      cases hother
      dsimp only [completesConflict] at hcompletes
      rw [hpass] at hcompletes
      cases hcompletes
    | enter | list | readHead | readReceipt | readDestination =>
      cases hother
      dsimp only at hstep
      rw [hpass] at hstep
      cases hstep
    | indexPacket | indexJob | other => cases hother
  · rw [workers_of_other hstep hother]
    exact .inl hpass

theorem workerCall_eq_some {op : Op} (hcall : workerCall libs configs pre label = some op)
    (hstep : WorkerStep libs configs pre label post) :
    ∃ worker, post = callStep pre worker (some op) := by
  cases label with
  | call worker now =>
    obtain ⟨pass, hpass, hjoin⟩ := Option.bind_eq_some_iff.mp hcall
    have hpending : pass.pending libs (configs worker) now = some (some op) := by
      rcases hpass : pass.pending libs (configs worker) now with _ | call
      · rw [hpass] at hjoin
        cases hjoin
      · rw [hpass] at hjoin
        exact congrArg some hjoin
    rw [WorkerStep, exec, hpass] at hstep
    dsimp only at hstep
    rw [hpending] at hstep
    cases hstep
    exact ⟨worker, rfl⟩
  | _ => cases hcall

/-- A recorded conflict is paused by the same step, or its worker is about to
pause the pathway. -/
theorem records_step (hstep : WorkerStep libs configs pre label post)
    (hrecords : records libs configs guid pre label) : Pauses libs configs guid ⟨pre, label, post⟩ ∨
      guid ≠ Hash.zero ∧ ∃ worker, post.workers worker = some (.pausing guid) := by
  obtain ⟨op, hcall, hconflict⟩ := (Option.any_eq_true _ _).mp hrecords
  obtain ⟨worker, rfl⟩ := workerCall_eq_some hcall hstep
  unfold recordsConflict at hconflict
  split at hconflict
  · rename_i now target expected reason result
    rw [and_eq_true, decide_eq_true_eq] at hconflict
    obtain ⟨rfl, hok⟩ := hconflict
    have hguid : target ≠ Hash.zero := by
      unfold markDVNQuorumConflict updateDVNStatus at hok
      rintro rfl
      split at hok
      · cases hok
      · rw [if_pos rfl] at hok
        cases hok
    refine .inr ⟨hguid, worker, ?_⟩
    dsimp only [callStep]
    rw [setWorker_workers, if_pos rfl]
    dsimp only [afterCall]
    cases hresult : (markDVNQuorumConflict pre.db now target expected reason result).2 with
    | error error =>
      rw [hresult] at hok
      cases hok
    | ok value => rfl
  · rename_i now target expected reason result
    rw [and_eq_true, decide_eq_true_eq] at hconflict
    obtain ⟨rfl, hok⟩ := hconflict
    refine .inl ⟨?_, stopped_markDVNManualReviewAndPausePathway hok⟩
    rw [hcall]
    simp [pausesPathway]
  · cases hconflict

/-! ## Whole runs -/

/-- A worker whose next call pauses the pathway of the packet. -/
def AboutToPause (libs : Libraries) (configs : ℕ → WorkerConfig) (guid : Hash)
    (system : System) : Prop := ∃ worker, system.workers worker = some (.pausing guid) ∧
    ∀ now, ∃ post, WorkerStep libs configs system (.call worker now) post ∧ Stopped post.db guid

theorem aboutToPause_of_pausing {system : System}
    (hguid : guid ≠ Hash.zero) (hpass : system.workers worker = some (.pausing guid)) :
    AboutToPause libs configs guid system := by
  refine ⟨worker, hpass, fun now => ⟨callStep system worker
    (some (.work (.pausePathwayForPacket guid))), ?_, stopped_pausePathwayForPacket hguid⟩⟩
  rw [WorkerStep, exec, hpass]
  rfl

/-- In every run in which no worker stops between the two calls of
`markQuorumConflict`, a conflict or configuration drift that a worker has
recorded was followed by its pause, or a worker is about to make it. -/
theorem conflict_pauses_pathway {libs : Libraries}
    {configs : ℕ → WorkerConfig} {history : List (Event System Label)}
    {system : System} (hrun : WorkerRun libs configs history system)
    (hcompletes : ∀ event ∈ history, completesConflict event.pre event.label)
    {later earlier : List (Event System Label)} {event : Event System Label} {guid : Hash}
    (hhistory : history = later ++ event :: earlier)
    (hrecords : records libs configs guid event.pre event.label) :
    (∃ pause ∈ later ++ [event], Pauses libs configs guid pause) ∨
      AboutToPause libs configs guid system := by
  suffices hpending : (∃ pause ∈ later ++ [event], Pauses libs configs guid pause) ∨
        guid ≠ Hash.zero ∧ ∃ worker, system.workers worker = some (.pausing guid) by
    refine hpending.imp_right ?_
    rintro ⟨hguid, worker, hpass⟩
    exact aboutToPause_of_pausing hguid hpass
  induction hrun generalizing later with
  | start => cases later <;> cases hhistory
  | @extend history pre post label before last ih =>
    obtain ⟨hlast, hbefore⟩ := forall_mem_cons.mp hcompletes
    cases later with
    | nil =>
      -- the last step is the one that recorded the conflict
      cases hhistory
      refine (records_step last hrecords).imp_left fun hpauses => ?_
      exact ⟨_, mem_singleton_self _, hpauses⟩
    | cons newest later =>
      obtain ⟨rfl, hrest⟩ := List.cons.inj hhistory
      rcases ih hbefore hrest with ⟨pause, hpause, hpauses⟩ | ⟨hguid, worker, hpass⟩
      · exact .inl ⟨pause, mem_cons_of_mem _ hpause, hpauses⟩
      · rcases pausing_step last hlast hguid hpass with hkept | hpauses
        · exact .inr ⟨hguid, worker, hkept⟩
        · exact .inl ⟨_, mem_cons_self, hpauses⟩

/-! ## A worker that stops between the two calls -/

/-- The statuses that a pass has still to list. -/
def Pass.scans : Pass → Option (List DVNState)
  | .scanning status remaining => some (status :: remaining)
  | .listingQuorum => some [.quorumChecking]
  | .listingReady => some [.readyToVerify]
  | _ => none

/-- The pass is still to list its work, and not under `QUORUM_CONFLICT`. -/
def Pass.Idle (pass : Pass) : Prop :=
  ∃ statuses, pass.scans = some statuses ∧ .quorumConflict ∉ statuses

/-- Every job is parked with a conflict, and every pass is idle. -/
structure Quiescent (db : DB) (system : System) : Prop where
  store : system.db = db
  parked : ∀ job ∈ db.work.dvnJobs, job.status = .quorumConflict
  idle : ∀ worker pass, system.workers worker = some pass → pass.Idle

theorem Procedure.idle_entry {procedure : Procedure} : procedure.entry.Idle := by
  cases procedure with
  | processConfirmationsOnce | processQuorumOnce | processReadyToVerifyOnce =>
    exact ⟨_, rfl, by decide⟩

theorem Pass.Idle.afterEmpty {next : Pass} (hidle : pass.Idle)
    (hnext : pass.afterEmpty = some next) :
    next.Idle := by
  obtain ⟨statuses, hscans, hconflict⟩ := hidle
  unfold Pass.afterEmpty at hnext
  split at hnext
  · cases hnext
    cases hscans
    exact ⟨_, rfl, fun hmem => hconflict (mem_cons_of_mem _ hmem)⟩
  · cases hnext

theorem Pass.Idle.listing_ne (hidle : pass.Idle) (hlisting : pass.listing = some status) :
    status ≠ .quorumConflict := by
  obtain ⟨statuses, hscans, hconflict⟩ := hidle
  unfold Pass.listing at hlisting
  split at hlisting
  all_goals cases hlisting
  all_goals
    cases hscans
    exact fun heq => hconflict (heq ▸ mem_cons_self)

theorem Pass.Idle.pending_none {config : WorkerConfig} (hidle : pass.Idle) :
    pass.pending libs config now = none := by
  obtain ⟨statuses, hscans, -⟩ := hidle
  cases pass with
  | scanning | listingQuorum | listingReady => rfl
  | _ => cases hscans

variable {db : DB}

theorem Quiescent.setWorker (hquiet : Quiescent db pre) {acting : ℕ}
    {next : Option Pass} (hnext : ∀ pass, next = some pass → pass.Idle) :
    Quiescent db (pre.setWorker acting next) where
  store := hquiet.store
  parked := hquiet.parked
  idle worker pass hpass := by
    rw [setWorker_workers] at hpass
    split at hpass
    · exact hnext pass hpass
    · exact hquiet.idle worker pass hpass

/-- No listing of an idle pass returns a job. -/
theorem Quiescent.list (hquiet : Quiescent db pre) (hidle : pass.Idle)
    (hlisting : pass.listing = some status) :
    Quiescent db (listStep pre worker now pass status) := by
  unfold listStep
  split
  · exact hquiet.setWorker fun next hnext => by cases hnext
  · exact hquiet.setWorker fun next hnext => hidle.afterEmpty hnext
  · rename_i item rest hlisted
    obtain ⟨-, -, job, hjob, -, hstatus, -⟩ := listDVNWork_mem hlisted mem_cons_self
    rw [hquiet.store] at hjob
    exact absurd (hstatus.symm.trans (hquiet.parked job hjob)) (hidle.listing_ne hlisting)

theorem Quiescent.step (hquiet : Quiescent db pre) (hworker : label.actor.isSome)
    (hstep : WorkerStep libs configs pre label post) : Quiescent db post := by
  unfold WorkerStep exec at hstep
  cases label with
  | enter worker procedure =>
    dsimp only at hstep
    split at hstep
    · cases hstep
      refine hquiet.setWorker fun next hnext => ?_
      cases hnext
      exact procedure.idle_entry
    · cases hstep
  | list worker now =>
    dsimp only at hstep
    split at hstep
    · cases hstep
    · rename_i pass hpass
      obtain ⟨status, hlisting, rfl⟩ := Option.map_eq_some_iff.mp hstep
      exact hquiet.list (hquiet.idle worker pass hpass) hlisting
  | readHead | readReceipt | readDestination =>
    dsimp only at hstep
    split at hstep
    · rename_i hpass
      obtain ⟨statuses, hscans, -⟩ := hquiet.idle _ _ hpass
      cases hscans
    · cases hstep
  | call worker now =>
    dsimp only at hstep
    split at hstep
    · cases hstep
    · rename_i pass hpass
      rw [(hquiet.idle worker pass hpass).pending_none] at hstep
      cases hstep
  | stop worker =>
    cases hstep
    exact hquiet.setWorker fun next hnext => by cases hnext
  | indexPacket | indexJob | other => cases hworker

/-! ## Two runs of the sample packet -/

/-- The quorum pass reads conflicting receipts and, at time 1, records the
conflict. -/
def sampleConflict : List Label := sampleIndexed ++ (sampleConfirm 1 2 14 ++ [.call 1 0]) ++
    [.enter 1 .processQuorumOnce, .list 1 0,
      .readReceipt 1 (.error (.conflict "receipt quorum conflict")), .call 1 1]

def Label.atTimeOne : Label → Bool
  | .call _ now => decide (now = 1)
  | _ => false

/-- The run of the sample up to the conflict and on with `rest`; its call at
time 1 records the conflict. -/
theorem sample_records {rest : List Label} {allowed : System → Label → Bool} {check : System → Bool}
    (hperformed : (perform (exec sampleLibraries sampleConfigs)
      (fun pre label => allowed pre label && (!label.atTimeOne ||
        records sampleLibraries sampleConfigs sampleGUID pre label))
      System.empty (sampleConflict ++ rest).reverse).any check = true) : ∃ history system,
      WorkerRun sampleLibraries sampleConfigs history system ∧
      (∀ event ∈ history, event.label ∈ sampleConflict ++ rest) ∧
      (∀ event ∈ history, allowed event.pre event.label) ∧
      (∃ event ∈ history, records sampleLibraries sampleConfigs sampleGUID
        event.pre event.label) ∧ check system := by
  obtain ⟨system, hsystem, hcheck⟩ := (Option.any_eq_true _ _).mp hperformed
  obtain ⟨history, hrun, hlabels, hallowed⟩ := run_of_perform hsystem
  simp only [and_eq_true, or_eq_true, not_eq_true'] at hallowed
  have hmem : Label.call 1 1 ∈ history.map Event.label := by
    rw [hlabels, mem_reverse]
    exact mem_append_left _ (mem_append_right _ (by simp))
  obtain ⟨event, hevent, hlabel⟩ := mem_map.mp hmem
  refine ⟨history, system, hrun, fun other hother => ?_,
    fun other hother => (hallowed other hother).1, ⟨event, hevent, ?_⟩, hcheck⟩
  · have hother' : other.label ∈ history.map Event.label := mem_map_of_mem hother
    rwa [hlabels, mem_reverse] at hother'
  · refine (hallowed event hevent).2.resolve_left ?_
    rw [hlabel]
    decide

/-- A worker that goes on to its second call pauses the pathway. -/
theorem completed_conflict_pauses : ∃ history system event later earlier,
      WorkerRun sampleLibraries sampleConfigs history system ∧ history = later ++ event :: earlier ∧
      records sampleLibraries sampleConfigs sampleGUID event.pre event.label ∧
      ((∃ pause ∈ later ++ [event], Pauses sampleLibraries sampleConfigs sampleGUID pause) ∨
        AboutToPause sampleLibraries sampleConfigs sampleGUID system) := by
  obtain ⟨history, system, hrun, -, hcompletes, ⟨event, hevent, hrecords⟩, -⟩ :=
    @sample_records [.call 1 2] completesConflict (fun _ => true) (by decide +kernel)
  obtain ⟨later, earlier, hhistory⟩ := append_of_mem hevent
  exact ⟨history, system, event, later, earlier, hrun, hhistory, hrecords,
    conflict_pauses_pathway hrun hcompletes hhistory hrecords⟩

/-- A worker that stops before it leaves the conflict recorded and the pathway
active, and no run of any workers from there on pauses it. -/
theorem stopped_conflict_never_pauses : ∃ history system,
      WorkerRun sampleLibraries sampleConfigs history system ∧
      (∃ event ∈ history, records sampleLibraries sampleConfigs sampleGUID event.pre event.label) ∧
      ∀ later last, Run (WorkerStep sampleLibraries sampleConfigs) system later last →
        (∀ event ∈ later, event.label.actor.isSome) → ¬ Stopped last.db sampleGUID := by
  obtain ⟨history, system, hrun, hlabels, -, hrecorded, hcheck⟩ :=
    @sample_records [.stop 1] (fun _ _ => true)
      (fun system =>
        (system.workers 1).isNone &&
        system.db.work.dvnJobs.rows.all (fun job =>
          job.status = .quorumConflict) &&
        system.db.work.packets.rows.any (fun packet =>
          packet.guid = sampleGUID &&
          system.db.config.pathways.rows.any (fun pathway =>
            pathway.route = packet.route && !pathway.paused)))
      (by decide +kernel)
  simp only [and_eq_true, Option.isNone_iff_eq_none, all_eq_true,
    any_eq_true, decide_eq_true_eq, not_eq_true'] at hcheck
  obtain ⟨⟨hworker, hparked⟩, packet, hpacket, hguid, pathway, hpathway, hroute, hactive⟩ := hcheck
  refine ⟨history, system, hrun, hrecorded, ?_⟩
  intro later last hlater hworkers hstopped
  have hidle : ∀ worker, system.workers worker = none := by
    intro worker
    by_cases hfirst : worker = 1
    · rw [hfirst, hworker]
    · have hactors : ∀ label ∈ sampleConflict ++ [.stop 1],
          label.actor = none ∨ label.actor = some 1 := by
        simp [sampleConflict, sampleIndexed, sampleConfirm, Label.actor]
      refine Run.history_invariant (fun event => event.label.actor ≠ some worker)
        (fun _ state => state.workers worker = none) ?_ rfl hrun ?_
      · intro _ pre label post hpre hstep hother
        rw [workers_of_other hstep hother, hpre]
      · intro event hevent hactor
        rcases hactors _ (hlabels event hevent) with hnone | hone
        · rw [hnone] at hactor
          cases hactor
        · rw [hone, Option.some.injEq] at hactor
          exact hfirst hactor.symm
  have hquiet : Quiescent system.db last := by
    refine Run.history_invariant (fun event => event.label.actor.isSome = true)
      (fun _ state => Quiescent system.db state) ?_ ⟨rfl, hparked, ?_⟩ hlater hworkers
    · intro _ pre label post hpre hstep hactor
      exact hpre.step hactor hstep
    · intro worker pass hpass
      rw [hidle worker] at hpass
      cases hpass
  rw [hquiet.store] at hstopped
  have hpaused := hstopped packet hpacket hguid pathway hpathway hroute
  rw [hactive] at hpaused
  cases hpaused

end Lazier.DVN
