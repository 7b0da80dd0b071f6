import Lazier.Indexer.Destination

/-!
# Logs of strangers

Anyone can make the endpoint and the receive library emit events.  A stream
that is not stalled by strangers ignores their logs: put anywhere into a
window, they leave the committed database, the pending flag and the error of
the window as they were.  The lookups before the pathway and executor checks
refuse some of these logs with an error, so the property holds exactly for
logs that pass the lookups.
-/

namespace Lazier.Indexer

open Chain Library Store Workflow List

/-- The identity of a packet as an endpoint event has it. -/
def DestinationEvent.identity (dstEID : ℕ) : DestinationEvent → DestinationPacketIdentity
  | .verified event => event.origin.identity dstEID event.receiver
  | .delivered event => event.origin.identity dstEID event.receiver
  | .alert event => event.origin.identity dstEID event.receiver

variable {stream : Stream} {route : Route} {libs : EventLibraries} {log other : Log}
  {nonce dstEID : ℕ} {db : DB} {packet : PacketRecord} {identity : DestinationPacketIdentity}
  {now : Time} {job : ExecutorJobRow} {progress : Progress} {entry : Time × Log}
  {event : DestinationEvent} {reason : String} {topic payloadHash : Hash} {result : Result Bool}
  {header : Bytes}

/-- What a window commits and decides.  The cursor moves on when there is
neither a pending log nor an error. -/
def effect (outcome : Progress × Option StoreError) : DB × Bool × Option StoreError :=
  (outcome.1.db, outcome.1.pending, outcome.2)

/-- Extra logs at any positions of a window change nothing it commits or
decides. -/
def IgnoresInserted (apply : List (Time × Log) → Progress × Option StoreError)
    (extra : Time × Log → Prop) : Prop := ∀ base longer, Inserted extra base longer →
    effect (apply longer) = effect (apply base)

/-- A loop ignores extra logs exactly if they are harmless in the store it
starts from, provided that harmless logs are skipped and stay harmless, and
that the others are noticed. -/
theorem ignoresInserted_iff {step : Progress → Time × Log → Progress × Option StoreError}
    {extra : Time × Log → Prop} (harmless : DB → Time × Log → Prop) (db : DB)
    (hskipped : stream.dstEID ≠ 0 → ∀ progress entry, extra entry →
      harmless progress.db entry → step progress entry = (progress, none))
    (hnoticed : stream.dstEID ≠ 0 → ∀ progress entry, extra entry →
      effect (step progress entry) = effect (progress, none) → harmless progress.db entry)
    (hstays : ∀ progress entry other, harmless progress.db other →
      harmless (step progress entry).1.db other) :
    IgnoresInserted (applyLogs stream step db) extra ↔
      stream.dstEID = 0 ∨ ∀ entry, extra entry → harmless db entry := by
  by_cases hdst : stream.dstEID = 0
  · simp [IgnoresInserted, applyLogs, hdst]
  rw [or_iff_right hdst]
  have happly : ∀ logs, applyLogs stream step db logs =
      processAll step ⟨db, 0, false⟩ logs := fun logs => if_neg hdst
  constructor
  · intro hignores entry hextra
    have hsame := hignores [] [entry] (.single hextra)
    rw [happly, happly, processAll_single] at hsame
    exact hnoticed hdst ⟨db, 0, false⟩ entry hextra hsame
  · intro hharmless base longer hinserted
    rw [happly, happly]
    congr 1
    -- The invariant of the loop: every extra log is harmless in its store.
    refine processAll_inserted (fun progress => ∀ entry, extra entry → harmless progress.db entry)
      ?_ ?_ hinserted hharmless
    · exact fun progress entry hinv other hextra =>
        hstays progress entry other (hinv other hextra)
    · exact fun progress entry hinv hextra =>
        hskipped hdst progress entry hextra (hinv entry hextra)

/-! ## Executor stream -/

/-- No configured pathway has this route. -/
def ForeignRoute (stream : Stream) (route : Route) : Prop :=
  ∀ pathway ∈ stream.pathways, pathway.route ≠ route

/-- A verification or delivery on a pathway that is not configured, or an
alert of another executor. -/
def Foreign (libs : EventLibraries) (stream : Stream) (log : Log) : Prop :=
  match destinationEvent libs log with
  | .ok (some (.verified event)) =>
    ForeignRoute stream (event.origin.identity stream.dstEID event.receiver).route
  | .ok (some (.delivered event)) =>
    ForeignRoute stream (event.origin.identity stream.dstEID event.receiver).route
  | .ok (some (.alert event)) =>
    stream.expectedExecutor ≠ Address.zero ∧ event.executor ≠ stream.expectedExecutor
  | _ => False

/-- The lookup by identity accepts its arguments, and a packet it finds has no
job that the event would still move. -/
structure HarmlessIdentity (libs : EventLibraries) (db : DB) (topic : Hash)
    (identity : DestinationPacketIdentity) : Prop where
  srcEID : identity.route.srcEID ≠ 0 ∧ identity.route.srcEID < 2 ^ 31
  sender : identity.route.srcOApp ≠ Address.zero
  receiver : identity.route.dstOApp ≠ Address.zero
  nonce : identity.nonce ≠ 0
  applied : ∀ packet, getPacketByDestination db identity.route identity.nonce = .ok (some packet) →
    packet.guid ≠ Hash.zero ∧ ∀ status, executorStatus db.work packet.guid = some status →
      executorDestinationLogAlreadyApplied libs status topic = true

/-- Logs that the lookups before the pathway and executor checks let pass. -/
def Harmless (libs : EventLibraries) (stream : Stream) (db : DB) (log : Log) : Prop :=
  match destinationEvent libs log with
  | .ok (some (.verified event)) =>
    HarmlessIdentity libs db (log.topics.headD Hash.zero)
      (event.origin.identity stream.dstEID event.receiver)
  | .ok (some (.delivered event)) =>
    HarmlessIdentity libs db (log.topics.headD Hash.zero)
      (event.origin.identity stream.dstEID event.receiver)
  | .ok (some (.alert event)) =>
    event.guid ≠ Hash.zero ∧ ∀ packet, db.work.packets.find event.guid = some packet →
      packet.dstEID = stream.dstEID
  | _ => True

theorem pathwayFor_foreign (hforeign : ForeignRoute stream route) :
    pathwayFor stream.pathways route = none := by
  rw [pathwayFor, find?_eq_none]
  intro pathway hpathway
  simpa using hforeign pathway hpathway

/-- A log that carries an identity: its packet is looked up by it, and no
executor is compared. -/
structure Carries (libs : EventLibraries) (stream : Stream) (log : Log)
    (identity : DestinationPacketIdentity) : Prop where
  dstEID : identity.route.dstEID = stream.dstEID
  lookup : ∀ db, packetForDestinationLog libs db stream.dstEID log =
    (getPacketByDestination db identity.route identity.nonce).map some
  identified : executorDestinationLogIdentity libs stream log = .ok (some identity)
  allowed : executorDestinationLogExecutorAllowed libs stream log = true

theorem Carries.of_event (hevent : destinationEvent libs log = .ok (some event))
    (hkind : ∀ alert, event ≠ .alert alert) :
    Carries libs stream log (event.identity stream.dstEID) := by
  have hhead := destinationEvent_topic hevent
  cases event with
  | alert event => exact absurd rfl (hkind event)
  | verified | delivered =>
    refine ⟨rfl, fun db => ?_, ?_, ?_⟩
    · simp [packetForDestinationLog, hevent, DestinationEvent.identity]
    · simp [executorDestinationLogIdentity, hevent, Except.map, DestinationEvent.identity]
    · simp [executorDestinationLogExecutorAllowed, hhead, eventTopic, libs.verified_ne_alert,
        libs.delivered_ne_alert]

/-- The lookup by identity answers exactly for complete identities. -/
theorem getPacketByDestination_eq (db : DB) (hdst : route.dstEID ≠ 0 ∧ route.dstEID < 2 ^ 31)
    (hsrc : route.srcEID ≠ 0 ∧ route.srcEID < 2 ^ 31) (hsender : route.srcOApp ≠ Address.zero)
    (hreceiver : route.dstOApp ≠ Address.zero) (hnonce : nonce ≠ 0) :
    getPacketByDestination db route nonce = .ok (db.work.packets.rows.find? fun packet =>
        decide (packet.route = route ∧ packet.nonce = nonce)) := by
  have hrange : ¬ (2 ^ 31 ≤ route.dstEID ∨ 2 ^ 31 ≤ route.srcEID) := by omega
  rw [getPacketByDestination, if_neg (not_or.mpr ⟨hdst.1, hsrc.1⟩),
    if_neg (not_or.mpr ⟨hsender, hreceiver⟩), if_neg hnonce, if_neg hrange]

theorem getPacketByDestination_complete {found : Option PacketRecord}
    (hfound : getPacketByDestination db route nonce = .ok found) :
    (route.dstEID ≠ 0 ∧ route.dstEID < 2 ^ 31) ∧ (route.srcEID ≠ 0 ∧ route.srcEID < 2 ^ 31) ∧
      route.srcOApp ≠ Address.zero ∧ route.dstOApp ≠ Address.zero ∧ nonce ≠ 0 := by
  unfold getPacketByDestination at hfound
  split_ifs at hfound with heids haddresses hnonce hrange
  simp only [not_or, not_le] at heids haddresses hrange
  exact ⟨⟨heids.1, hrange.1⟩, ⟨heids.2, hrange.2⟩, haddresses.1, haddresses.2, hnonce⟩

theorem getPacketByDestination_route
    (hfound : getPacketByDestination db route nonce = .ok (some packet)) :
    packet.route = route := by
  unfold getPacketByDestination at hfound
  split_ifs at hfound
  rw [Except.ok.injEq] at hfound
  have htest := find?_some hfound
  simp only [decide_eq_true_eq] at htest
  exact htest.1

/-- What is left of the checks for a log on a foreign route. -/
theorem decideExecutorLog_carries (hcarries : Carries libs stream log identity)
    (hforeign : ForeignRoute stream identity.route) : decideExecutorLog libs stream db log =
      match getPacketByDestination db identity.route identity.nonce with
      | .error error => .error error
      | .ok none =>
        .ok (.skip (if stream.pathways.isEmpty then "unknown_packet"
          else "unknown_pathway"))
      | .ok (some packet) =>
        match getExecutorJob db packet.guid with
        | .error error => .error error
        | .ok none => .ok (.skip "missing_executor_job")
        | .ok (some job) =>
          if executorDestinationLogAlreadyApplied libs job.status (log.topics.headD Hash.zero) then
            .ok (.skip "already_applied")
          else .ok (.apply packet job) := by
  unfold decideExecutorLog
  rw [hcarries.lookup]
  cases hlookup : getPacketByDestination db identity.route identity.nonce with
  | error error => rfl
  | ok found =>
    cases found with
    | none =>
      have hpathway : executorDestinationLogPathway libs stream log = .ok none := by
        simp [executorDestinationLogPathway, hcarries.identified,
          Except.map, pathwayFor_foreign hforeign]
      simp [Except.map, decideUnknownPacket, hpathway]
    | some packet =>
      have hroute := getPacketByDestination_route hlookup
      have hdst : packet.dstEID = stream.dstEID := by
        rw [← hcarries.dstEID, ← hroute]
        rfl
      have hmissing : decideMissingJob stream db packet = .ok (.skip "missing_executor_job") := by
        rw [decideMissingJob, hroute, pathwayFor_foreign hforeign]
      dsimp only [Except.map]
      rw [if_neg (not_not.mpr hdst), if_neg (not_not.mpr hcarries.allowed)]
      rcases getExecutorJob db packet.guid with error | (_ | job)
      · rfl
      · exact hmissing
      · rfl

theorem skip_of_harmless (hdst : stream.dstEID ≠ 0) (hcarries : Carries libs stream log identity)
    (hforeign : ForeignRoute stream identity.route)
    (hharmless : HarmlessIdentity libs db (log.topics.headD Hash.zero) identity) :
    ∃ reason, decideExecutorLog libs stream db log = .ok (.skip reason) := by
  rw [decideExecutorLog_carries hcarries hforeign]
  have hdst' : identity.route.dstEID ≠ 0 ∧ identity.route.dstEID < 2 ^ 31 :=
    hcarries.dstEID ▸ ⟨hdst, stream.dstEID_lt⟩
  have hlookup := getPacketByDestination_eq db hdst' hharmless.srcEID
    hharmless.sender hharmless.receiver hharmless.nonce
  cases hfound : db.work.packets.rows.find? fun packet =>
      decide (packet.route = identity.route ∧ packet.nonce = identity.nonce) with
  | none =>
    rw [hlookup, hfound]
    exact ⟨_, rfl⟩
  | some packet =>
    rw [hfound] at hlookup
    obtain ⟨hguid, happlied⟩ := hharmless.applied packet hlookup
    simp only [hlookup, getExecutorJob, if_neg hguid]
    cases hjob : db.work.executorJobs.find packet.guid with
    | none => exact ⟨_, rfl⟩
    | some job =>
      have hstatus := happlied job.status (executorStatus_eq hjob)
      exact ⟨"already_applied", if_pos hstatus⟩

theorem harmless_of_skip (hcarries : Carries libs stream log identity)
    (hforeign : ForeignRoute stream identity.route)
    (hskip : decideExecutorLog libs stream db log = .ok (.skip reason)) :
    HarmlessIdentity libs db (log.topics.headD Hash.zero) identity := by
  rw [decideExecutorLog_carries hcarries hforeign] at hskip
  cases hlookup : getPacketByDestination db identity.route identity.nonce with
  | error error => simp [hlookup] at hskip
  | ok found =>
    obtain ⟨-, hsrc, hsender, hreceiver, hnonce⟩ := getPacketByDestination_complete hlookup
    refine ⟨hsrc, hsender, hreceiver, hnonce, ?_⟩
    intro packet hfound
    rw [hlookup, Except.ok.injEq] at hfound
    subst hfound
    simp only [hlookup, getExecutorJob] at hskip
    by_cases hguid : packet.guid = Hash.zero
    · simp [hguid] at hskip
    refine ⟨hguid, fun status hstatus => ?_⟩
    obtain ⟨job, hjob, rfl⟩ := exists_job hstatus
    simp only [hguid, if_false, hjob] at hskip
    by_contra happlied
    rw [if_neg happlied] at hskip
    cases hskip

/-- What is left of the checks for an alert of another executor. -/
theorem decideExecutorLog_alert {event : LzReceiveAlert}
    (hevent : destinationEvent libs log = .ok (some (.alert event)))
    (hforeign : stream.expectedExecutor ≠ Address.zero ∧ event.executor ≠ stream.expectedExecutor)
    (db : DB) : decideExecutorLog libs stream db log =
      match getPacket db event.guid with
      | .error error => .error error
      | .ok none =>
        .ok (.skip (if stream.pathways.isEmpty then "unknown_packet"
          else "unknown_pathway"))
      | .ok (some packet) =>
        if packet.dstEID ≠ stream.dstEID then
          .error (.message
            (s!"packet {packet.guid.hex} destination eid {packet.dstEID} does not match indexed " ++
              s!"chain {stream.dstEID}"))
        else .ok (.skip "unexpected_executor") := by
  have hallowed : executorDestinationLogExecutorAllowed libs stream log = false := by
    have hhead : log.topics.head? = some libs.lzReceiveAlertTopic := destinationEvent_topic hevent
    simp [executorDestinationLogExecutorAllowed, hhead, hforeign, decode_of_alert hevent]
  have hpathway : executorDestinationLogPathway libs stream log = .ok none := by
    simp [executorDestinationLogPathway, executorDestinationLogIdentity,
      hevent, Except.map, hforeign]
  simp only [decideExecutorLog, packetForDestinationLog, hevent]
  rcases getPacket db event.guid with _ | (_ | packet)
  · rfl
  · simp [Except.map, decideUnknownPacket, hpathway]
  · simp [Except.map, hallowed]

/-! ## Harmless logs stay harmless -/

theorem getPacketByDestination_advance {update : ExecutorStatusUpdate} :
    getPacketByDestination (db.withWork (advance db.work now update job)) route nonce =
      (getPacketByDestination db route nonce).map
        (Option.map (restatus update.guid update.next)) := by
  unfold getPacketByDestination
  split_ifs
  · rfl
  · rfl
  · rfl
  · rfl
  · rw [DB.withWork_work, advance, setPacketStatus_find? _ _ _ fun _ => rfl]
    rfl

/-- A job that an event of this topic would not move is not put back by
another event. -/
theorem alreadyApplied_persists {status : ExecutorState}
    (htopic : topic = libs.packetVerifiedTopic ∨ topic = libs.packetDeliveredTopic)
    (hevent : destinationEvent libs log = .ok (some event))
    (hfresh : executorDestinationLogAlreadyApplied libs status (log.topics.headD Hash.zero) = false)
    (hcan : canApply event status = true)
    (happlied : executorDestinationLogAlreadyApplied libs status topic = true)
    {guid txHash : Hash} :
    executorDestinationLogAlreadyApplied libs
      (observedUpdate guid txHash status event).next topic = true := by
  have hhead := destinationEvent_topic hevent
  rcases htopic with rfl | rfl
  · cases event <;>
      simp [executorDestinationLogAlreadyApplied, observedUpdate, ExecutorStatusUpdate.move]
  · have hdelivered : status = .delivered := by
      simpa [executorDestinationLogAlreadyApplied, libs.verified_ne_delivered.symm] using happlied
    subst hdelivered
    cases event with
    | verified event | alert event => cases hcan
    | delivered event =>
      rw [headD_eq_head?_getD, hhead, Option.getD_some, eventTopic, happlied] at hfresh
      cases hfresh

theorem HarmlessIdentity.advance {update : ExecutorStatusUpdate}
    (hharmless : HarmlessIdentity libs db topic identity)
    (hjob : db.work.executorJobs.find update.guid = some job)
    (hpersists : executorDestinationLogAlreadyApplied libs job.status topic = true →
      executorDestinationLogAlreadyApplied libs update.next topic = true) : HarmlessIdentity libs
      (db.withWork (Workflow.advance db.work now update job)) topic identity where
  srcEID := hharmless.srcEID
  sender := hharmless.sender
  receiver := hharmless.receiver
  nonce := hharmless.nonce
  applied := by
    intro packet hfound
    rw [getPacketByDestination_advance] at hfound
    obtain ⟨found, hlookup, hpacket⟩ := map_eq_ok hfound
    obtain ⟨old, rfl, rfl⟩ := Option.map_eq_some_iff.mp hpacket
    obtain ⟨hguid, happlied⟩ := hharmless.applied old hlookup
    rw [restatus_guid]
    refine ⟨hguid, fun status hstatus => ?_⟩
    by_cases hsame : old.guid = update.guid
    · rw [hsame, DB.withWork_work, advance_status_self hjob] at hstatus
      cases hstatus
      exact hpersists (happlied job.status (hsame ▸ executorStatus_eq hjob))
    · rw [DB.withWork_work, advance_status_of_ne hjob hsame] at hstatus
      exact happlied status hstatus

/-- Whatever one log does to the store, harmless logs stay harmless. -/
theorem Harmless.observes (hharmless : Harmless libs stream db other)
    (hobserves : Observes libs db now packet job log result) :
    Harmless libs stream result.1 other := by
  cases hobserves with
  | refused error | ignored _ => exact hharmless
  | marked event result hevent hfresh hcan hupdates =>
    cases hupdates with
    | refused error _ | repeated _ _ _ => exact hharmless
    | moved stored hguid hjob hstatus _ =>
      have hexpected : stored.status = job.status := by
        rw [hstatus]
        cases event <;> rfl
      have hpersists : ∀ topic, topic = libs.packetVerifiedTopic ∨
          topic = libs.packetDeliveredTopic →
          executorDestinationLogAlreadyApplied libs stored.status topic = true →
          executorDestinationLogAlreadyApplied libs
            (observedUpdate packet.guid log.txHash job.status event).next topic = true := by
        intro topic htopic happlied
        rw [hexpected] at happlied
        exact alreadyApplied_persists htopic hevent hfresh hcan happlied
      unfold Harmless at hharmless ⊢
      split at hharmless
      · rename_i hother
        have htopic := destinationEvent_topic hother
        refine hharmless.advance hjob (hpersists _ (.inl ?_))
        rw [headD_eq_head?_getD, htopic]
        rfl
      · rename_i hother
        have htopic := destinationEvent_topic hother
        refine hharmless.advance hjob (hpersists _ (.inr ?_))
        rw [headD_eq_head?_getD, htopic]
        rfl
      · refine ⟨hharmless.1, fun found hfound => ?_⟩
        rw [commit_fst, DB.withWork_work, advance_find_packet] at hfound
        obtain ⟨old, hold, rfl⟩ := Option.map_eq_some_iff.mp hfound
        rw [restatus_dstEID]
        exact hharmless.2 old hold
      · trivial

/-! ## The executor stream and strangers -/

/-- Applying a verification or a delivery that is not applied yet shows. -/
theorem Observes.noticed (hobserves : Observes libs db now packet job log result)
    (hevent : destinationEvent libs log = .ok (some event)) (hkind : ∀ alert, event ≠ .alert alert)
    (hfresh : executorDestinationLogAlreadyApplied libs job.status
      (log.topics.headD Hash.zero) = false) {value : Bool} (hresult : result = (db, .ok value)) :
    False := by
  have hhead := destinationEvent_topic hevent
  rw [headD_eq_head?_getD, hhead, Option.getD_some] at hfresh
  cases hobserves with
  | refused error => cases hresult
  | ignored hignored =>
    rw [headD_eq_head?_getD, hhead, Option.getD_some, hfresh, hevent] at hignored
    simp at hignored
  | marked observed result hobserved _ _ hupdates =>
    rw [hevent] at hobserved
    cases hobserved
    cases hupdates with
    | refused error _ => cases hresult
    | repeated hcounts _ _ =>
      cases event with
      | verified event | delivered event => cases hcounts
      | alert event => exact hkind event rfl
    | moved stored hguid hjob hstatus _ =>
      have hdb := (Prod.mk.inj hresult).1
      have hnext : executorStatus (db.withWork (Workflow.advance db.work
          now (observedUpdate packet.guid log.txHash job.status event)
          stored)).work _ = some _ := advance_status_self hjob
      rw [commit_fst] at hdb
      rw [hdb, executorStatus_eq hjob, hstatus] at hnext
      cases event with
      | verified event =>
        have hsame : job.status = .committed := Option.some.inj hnext
        rw [hsame] at hfresh
        simp [executorDestinationLogAlreadyApplied, eventTopic] at hfresh
      | delivered event =>
        have hsame : job.status = .delivered := Option.some.inj hnext
        rw [hsame] at hfresh
        simp [executorDestinationLogAlreadyApplied, eventTopic,
          libs.verified_ne_delivered.symm] at hfresh
      | alert event => exact hkind event rfl

theorem executorLogStep_of_skip
    (hskip : decideExecutorLog libs stream progress.db entry.2 = .ok (.skip reason)) :
    executorLogStep libs stream progress entry = (progress, none) := by
  rw [executorLogStep, logStep, hskip]

theorem skip_of_unnoticed (hcarries : Carries libs stream entry.2 identity)
    (hforeign : ForeignRoute stream identity.route)
    (hevent : destinationEvent libs entry.2 = .ok (some event))
    (hkind : ∀ alert, event ≠ .alert alert)
    (hsame : effect (executorLogStep libs stream progress entry) = effect (progress, none)) :
    ∃ reason, decideExecutorLog libs stream progress.db entry.2 = .ok (.skip reason) := by
  rw [executorLogStep, logStep] at hsame
  cases hdecide : decideExecutorLog libs stream progress.db entry.2 with
  | error error => simp [hdecide, effect] at hsame
  | ok decision =>
    cases decision with
    | skip reason => exact ⟨reason, rfl⟩
    | pending reason =>
      rw [decideExecutorLog_carries hcarries hforeign] at hdecide
      repeat' split at hdecide
      all_goals cases hdecide
    | apply packet job =>
      exfalso
      have hfresh : executorDestinationLogAlreadyApplied libs job.status
          (entry.2.topics.headD Hash.zero) = false := by
        rw [decideExecutorLog_carries hcarries hforeign] at hdecide
        repeat' split at hdecide
        all_goals try cases hdecide
        rename_i hnot _
        exact Bool.eq_false_iff.mpr hnot
      have hobserves := applyExecutorDestinationLog_observes libs
        progress.db entry.1 packet job entry.2
      simp only [hdecide] at hsame
      rcases happly : applyExecutorDestinationLog libs progress.db
        entry.1 packet job entry.2 with ⟨db, error | value⟩
      · simp [happly, effect] at hsame
      · rw [happly] at hobserves hsame
        have hdb : db = progress.db := (Prod.mk.inj hsame).1
        subst hdb
        exact hobserves.noticed hevent hkind hfresh rfl

theorem foreign_skipped (hdst : stream.dstEID ≠ 0) (hforeign : Foreign libs stream entry.2)
    (hharmless : Harmless libs stream progress.db entry.2) :
    executorLogStep libs stream progress entry = (progress, none) := by
  unfold Foreign at hforeign
  unfold Harmless at hharmless
  split at hforeign
  · rename_i hevent
    simp only [hevent] at hharmless
    obtain ⟨_, hskip⟩ := skip_of_harmless hdst (.of_event hevent (by simp)) hforeign hharmless
    exact executorLogStep_of_skip hskip
  · rename_i hevent
    simp only [hevent] at hharmless
    obtain ⟨_, hskip⟩ := skip_of_harmless hdst (.of_event hevent (by simp)) hforeign hharmless
    exact executorLogStep_of_skip hskip
  · rename_i event hevent
    simp only [hevent] at hharmless
    have hdecide := decideExecutorLog_alert hevent hforeign progress.db
    rw [getPacket, if_neg hharmless.1] at hdecide
    cases hfound : progress.db.work.packets.find event.guid with
    | none =>
      rw [hfound] at hdecide
      exact executorLogStep_of_skip hdecide
    | some packet =>
      simp only [hfound, hharmless.2 packet hfound, ne_eq, not_true_eq_false, if_false] at hdecide
      exact executorLogStep_of_skip hdecide
  · exact hforeign.elim

theorem foreign_noticed (hforeign : Foreign libs stream entry.2)
    (hsame : effect (executorLogStep libs stream progress entry) = effect (progress, none)) :
    Harmless libs stream progress.db entry.2 := by
  unfold Foreign at hforeign
  unfold Harmless
  split at hforeign
  · rename_i hevent
    have hcarries : Carries libs stream entry.2 _ := .of_event hevent (by simp)
    obtain ⟨_, hskip⟩ := skip_of_unnoticed hcarries hforeign hevent (by simp) hsame
    exact harmless_of_skip hcarries hforeign hskip
  · rename_i hevent
    have hcarries : Carries libs stream entry.2 _ := .of_event hevent (by simp)
    obtain ⟨_, hskip⟩ := skip_of_unnoticed hcarries hforeign hevent (by simp) hsame
    exact harmless_of_skip hcarries hforeign hskip
  · rename_i event hevent
    rw [executorLogStep, logStep, decideExecutorLog_alert hevent hforeign] at hsame
    by_cases hguid : event.guid = Hash.zero
    · simp [getPacket, hguid, effect] at hsame
    refine ⟨hguid, fun packet hfound => ?_⟩
    by_contra hdst
    simp [getPacket, hguid, hfound, hdst, effect] at hsame
  · exact hforeign.elim

theorem Harmless.step (hharmless : Harmless libs stream progress.db other) (entry : Time × Log) :
    Harmless libs stream (executorLogStep libs stream progress entry).1.db
      other := by
  rw [executorLogStep, logStep]
  cases decideExecutorLog libs stream progress.db entry.2 with
  | error error => exact hharmless
  | ok decision =>
    cases decision with
    | skip reason | pending reason => exact hharmless
    | apply packet job =>
      have hafter := hharmless.observes
        (applyExecutorDestinationLog_observes libs progress.db entry.1 packet job entry.2)
      rcases happly : applyExecutorDestinationLog libs progress.db
        entry.1 packet job entry.2 with ⟨db, error | value⟩
      · rw [happly] at hafter
        simpa [happly] using hafter
      · rw [happly] at hafter
        simpa [happly] using hafter

/-- Foreign logs leave the executor stream as it was exactly if the lookups
before the pathway and executor checks accept them. -/
theorem executor_stream_ignores_strangers_iff (libs : EventLibraries) (stream : Stream) (db : DB)
    (extra : Time × Log → Prop) :
    IgnoresInserted (applyExecutorDestinationLogs libs stream db)
        (fun entry => Foreign libs stream entry.2 ∧ extra entry) ↔ stream.dstEID = 0 ∨
        ∀ entry, Foreign libs stream entry.2 ∧ extra entry → Harmless libs stream db entry.2 := by
  rw [applyExecutorDestinationLogs]
  refine ignoresInserted_iff (fun db entry => Harmless libs stream db entry.2) db ?_ ?_ ?_
  · intro hdst progress entry hextra hharmless
    exact foreign_skipped hdst hextra.1 hharmless
  · intro _ progress entry hextra hsame
    exact foreign_noticed hextra.1 hsame
  · intro progress entry other hharmless
    exact hharmless.step entry

def watchedStream : Stream where
  dstEID := 200
  pathways :=
    [⟨⟨101, 200, .ofNat 20 0x11, .ofNat 20 0x22⟩, true, .ofNat 20 0x77⟩]
  expectedExecutor := .ofNat 20 0x55

def eventLog (topic : Hash) (data : Bytes) : Log :=
  ⟨.ofNat 20 0x99, [topic], data, 12, .ofNat 32 0xab, .ofNat 32 0xcd, 0⟩

/-- A verification whose origin sender has no address in its low bytes. -/
def zeroSenderLog : Log := eventLog abiEvents.packetVerifiedTopic
  (abiWord 101 ++ abiWord (2 ^ 248) ++ abiWord 7 ++ abiWord 0x33 ++ abiWord 0x44)

theorem zeroSender_stalls_executor_stream : Foreign abiEvents watchedStream zeroSenderLog ∧
      effect (applyExecutorDestinationLogs abiEvents watchedStream DB.empty
        []) = (DB.empty, false, none) ∧
      (effect (applyExecutorDestinationLogs abiEvents watchedStream DB.empty
        [(0, zeroSenderLog)])).2.2 =
        some (.message "packet sender and receiver are required") := by
  refine ⟨?_, rfl, by decide +kernel⟩
  have hevent : destinationEvent abiEvents zeroSenderLog = .ok (some (.verified
      ⟨⟨101, .ofNat 32 (2 ^ 248), 7, by decide, by decide⟩, .ofNat 20 0x33, .ofNat 32 0x44⟩)) := by
    decide +kernel
  rw [Foreign, hevent]
  simp only [ForeignRoute, watchedStream, mem_singleton, forall_eq]
  decide

/-! ## The DVN stream and strangers -/

/-- A verification by an address that is no configured OpenDVN. -/
def ForeignWorker (libs : EventLibraries) (stream : Stream) (log : Log) : Prop :=
  match decodePayloadVerified libs log with
  | .ok event => ∀ pathway ∈ stream.pathways, event.dvn ≠ pathway.openDVN
  | .error _ => False

/-- Verifications that the lookup by header and payload hash accepts. -/
def LookedUp (libs : EventLibraries) (log : Log) : Prop :=
  match decodePayloadVerified libs log with
  | .ok event => event.header ≠ [] ∧ event.proofHash ≠ Hash.zero
  | .error _ => True

theorem pathwayFor_mem {pathways : List Pathway} {pathway : Pathway}
    (hfound : pathwayFor pathways route = some pathway) : pathway ∈ pathways :=
  mem_of_find?_eq_some hfound

theorem getPacketByVerification_dstEID
    (hfound : getPacketByVerification db dstEID header payloadHash = .ok (some packet)) :
    packet.dstEID = dstEID := by
  unfold getPacketByVerification at hfound
  split_ifs at hfound
  rw [Except.ok.injEq] at hfound
  have htest := find?_some hfound
  simp only [decide_eq_true_eq] at htest
  exact htest.1

theorem decideDVNLog_foreign {event : PayloadVerified}
    (hdecode : decodePayloadVerified libs log = .ok event)
    (hforeign : ∀ pathway ∈ stream.pathways, event.dvn ≠ pathway.openDVN) (db : DB) :
    (∃ error, getPacketByVerification db stream.dstEID event.header event.proofHash = .error error ∧
        decideDVNLog libs stream db log = .error error) ∨
      (∃ found, getPacketByVerification db stream.dstEID event.header event.proofHash = .ok found) ∧
        ∃ reason, decideDVNLog libs stream db log = .ok (.skip reason) := by
  have hhead : log.topics.head? = some libs.payloadVerifiedTopic := by
    by_contra hhead
    rw [decodePayloadVerified, decodeLog, if_neg hhead] at hdecode
    cases hdecode
  simp only [decideDVNLog, hhead, ne_eq, not_true_eq_false, if_false, hdecode]
  cases hlookup : getPacketByVerification db stream.dstEID event.header event.proofHash with
  | error error => exact .inl ⟨error, rfl, rfl⟩
  | ok found =>
    refine .inr ⟨⟨found, rfl⟩, ?_⟩
    cases found with
    | none =>
      simp only [decideUnknownVerification]
      split
      · exact ⟨_, rfl⟩
      · rename_i pathway hpathway
        have hmem : pathway ∈ stream.pathways := by
          unfold pathwayForPayloadVerified at hpathway
          split at hpathway
          · cases hpathway
          · exact pathwayFor_mem hpathway
        rw [if_neg fun hown => hforeign pathway hmem hown.2]
        exact ⟨_, rfl⟩
    | some packet =>
      simp only [getPacketByVerification_dstEID hlookup, not_true_eq_false, if_false]
      split
      · exact ⟨_, rfl⟩
      · rename_i pathway hpathway
        rw [if_pos (hforeign pathway (pathwayFor_mem hpathway))]
        exact ⟨_, rfl⟩

theorem getPacketByVerification_ok_iff (hdst : dstEID ≠ 0) (hrange : dstEID < 2 ^ 31) :
    (∃ found, getPacketByVerification db dstEID header payloadHash =
        .ok found) ↔ header ≠ [] ∧ payloadHash ≠ Hash.zero := by
  rw [getPacketByVerification, if_neg hdst, if_neg (not_le.mpr hrange)]
  by_cases hheader : header = []
  · simp [hheader]
  by_cases hhash : payloadHash = Hash.zero <;> simp [hheader, hhash]

/-- Verifications by strangers leave the DVN stream as it was exactly if the
lookup by header and payload hash accepts them. -/
theorem dvn_stream_ignores_strangers_iff (libs : EventLibraries) (stream : Stream) (db : DB)
    (extra : Time × Log → Prop) :
    IgnoresInserted (applyDVNDestinationLogs libs stream db)
        (fun entry => ForeignWorker libs stream entry.2 ∧ extra entry) ↔ stream.dstEID = 0 ∨
        ∀ entry, ForeignWorker libs stream entry.2 ∧ extra entry → LookedUp libs entry.2 := by
  rw [applyDVNDestinationLogs]
  refine ignoresInserted_iff (fun _ entry => LookedUp libs entry.2) db
    ?_ ?_ fun _ _ _ hlooked => hlooked
  · rintro hdst progress entry ⟨hforeign, -⟩ hlooked
    unfold ForeignWorker at hforeign
    unfold LookedUp at hlooked
    split at hforeign
    · rename_i event hdecode
      simp only [hdecode] at hlooked
      rcases decideDVNLog_foreign hdecode hforeign progress.db with
        ⟨error, hlookup, -⟩ | ⟨-, reason, hskip⟩
      · obtain ⟨found, hfound⟩ := (getPacketByVerification_ok_iff hdst stream.dstEID_lt).mpr hlooked
        rw [hlookup] at hfound
        cases hfound
      · rw [dvnLogStep, logStep, hskip]
    · exact hforeign.elim
  · rintro hdst progress entry ⟨hforeign, -⟩ hsame
    unfold ForeignWorker at hforeign
    unfold LookedUp
    split at hforeign
    · rename_i event hdecode
      rcases decideDVNLog_foreign hdecode hforeign progress.db with
        ⟨error, -, herror⟩ | ⟨hfound, -⟩
      · rw [dvnLogStep, logStep, herror] at hsame
        simp [effect] at hsame
      · exact (getPacketByVerification_ok_iff hdst stream.dstEID_lt).mp hfound
    · exact hforeign.elim

/-- A verification of an empty header. -/
def emptyHeaderLog : Log := eventLog abiEvents.payloadVerifiedTopic
  (abiWord 0x66 ++ abiWord 128 ++ abiWord 1 ++ abiWord 0x44 ++ abiBytes [])

theorem emptyHeader_stalls_dvn_stream : ForeignWorker abiEvents watchedStream emptyHeaderLog ∧
      effect (applyDVNDestinationLogs abiEvents watchedStream DB.empty
        []) = (DB.empty, false, none) ∧
      (effect (applyDVNDestinationLogs abiEvents watchedStream DB.empty
        [(0, emptyHeaderLog)])).2.2 = some (.message "packet header is required") := by
  refine ⟨?_, rfl, by decide +kernel⟩
  have hdecode : decodePayloadVerified abiEvents emptyHeaderLog =
      .ok ⟨.ofNat 20 0x66, [], 1, .ofNat 32 0x44⟩ := by decide +kernel
  rw [ForeignWorker, hdecode]
  simp only [watchedStream, mem_singleton, forall_eq]
  decide

end Lazier.Indexer
