import Lazier.Indexer.Destination
import Lazier.Library.Tiling

/-!
# Passes of the indexer

One poll reads the head of the chain and gives each enabled stream a window of
confirmed blocks behind its cursor.  The window is queried in chunks, each chunk
is applied, and the cursor is written last.  Block numbers are `uint64`, and
the answers of the node and of the calls that apply a chunk are inputs.
-/

namespace Lazier.Indexer

open Chain Library Store List

variable {fromBlock toBlock : UInt64} {Job : Type} {call : ℕ} {logs : List Log} {pending : Bool}

/-! ## Streams -/

inductive StreamName
  | executorSource
  | dvnSource
  | executorDestination
  | dvnDestination
  deriving DecidableEq

/-- The key of the stream in `indexer_cursors`. -/
def StreamName.text : StreamName → String
  | .executorSource => "executor_source"
  | .dvnSource => "dvn_source"
  | .executorDestination => "executor_destination"
  | .dvnDestination => "dvn_destination"

def StreamName.isSource : StreamName → Bool
  | .executorSource => true
  | .dvnSource => true
  | _ => false

structure StreamSet where
  executorSource : Bool
  executorDestination : Bool
  dvnSource : Bool
  dvnDestination : Bool

/-- The enabled streams in the order in which `ProcessOnce` takes them. -/
def StreamSet.names (streams : StreamSet) : List StreamName :=
  (if streams.executorSource then [.executorSource] else []) ++
    (if streams.dvnSource then [.dvnSource] else []) ++
    (if streams.executorDestination then [.executorDestination] else []) ++
    (if streams.dvnDestination then [.dvnDestination] else [])

/-- The settings of the indexed chain. -/
structure ChainSettings where
  eid : ℕ
  startBlockNumber : UInt64
  confirmations : UInt64

/-- The settings of one indexer process. -/
structure IndexerSettings where
  sourcePathways : List Pathway
  destinationPathways : List Pathway
  backfillRange : UInt64
  queryBlockRange : UInt64
  streams : StreamSet

/-! ## Windows -/

inductive CursorSkipReason
  | caughtUp
  | startBlockNotConfirmed
  deriving DecidableEq

/-- The last block of a window that starts at `from`. -/
def windowEnd (settings : IndexerSettings) (fromBlock confirmedTo : UInt64) : UInt64 :=
  if settings.backfillRange > 0 ∧ confirmedTo - fromBlock + 1 > settings.backfillRange then
    fromBlock + settings.backfillRange - 1
  else confirmedTo

/-- `cursorWindow`, on the stored cursor. -/
def cursorWindow (chain : ChainSettings) (settings : IndexerSettings)
    (cursor : Option UInt64) (confirmedTo : UInt64) : Except CursorSkipReason (UInt64 × UInt64) :=
  match cursor with
  | some cursor =>
    if cursor ≥ confirmedTo then .error .caughtUp
    else .ok (cursor + 1, windowEnd settings (cursor + 1) confirmedTo)
  | none =>
    if chain.startBlockNumber > confirmedTo then
      .error .startBlockNotConfirmed
    else
      .ok (chain.startBlockNumber, windowEnd settings chain.startBlockNumber confirmedTo)

/-- `chunkToBlock`. -/
def chunkToBlock (settings : IndexerSettings) (fromBlock limit : UInt64) : UInt64 :=
  if settings.queryBlockRange = 0 then limit
  else
    let toBlock := fromBlock + settings.queryBlockRange - 1
    if toBlock < fromBlock ∨ toBlock > limit then limit else toBlock

theorem windowEnd_bounds (settings : IndexerSettings) {confirmedTo : UInt64}
    (hle : fromBlock ≤ confirmedTo) : fromBlock ≤ windowEnd settings fromBlock confirmedTo ∧
      windowEnd settings fromBlock confirmedTo ≤ confirmedTo := by
  have hsize := confirmedTo.toNat_lt
  rw [UInt64.le_iff_toNat_le] at hle
  unfold windowEnd
  split
  · rename_i hlimited
    obtain ⟨hpositive, hlong⟩ := hlimited
    rw [gt_iff_lt, UInt64.lt_iff_toNat_lt] at hpositive hlong
    rw [UInt64.toNat_add, UInt64.toNat_sub] at hlong
    rw [UInt64.le_iff_toNat_le, UInt64.le_iff_toNat_le, UInt64.toNat_sub, UInt64.toNat_add]
    change 0 < _ at hpositive
    change _ < ((_ + 1) % _) at hlong
    change _ ≤ (2 ^ 64 - 1 + _) % _ ∧ (2 ^ 64 - 1 + _) % _ ≤ _
    omega
  · exact ⟨UInt64.le_iff_toNat_le.mpr hle, UInt64.le_refl _⟩

theorem chunkToBlock_bounds (settings : IndexerSettings) {limit : UInt64}
    (hle : fromBlock ≤ limit) :
    fromBlock ≤ chunkToBlock settings fromBlock limit ∧
      chunkToBlock settings fromBlock limit ≤ limit := by
  unfold chunkToBlock
  split
  · exact ⟨hle, UInt64.le_refl _⟩
  · dsimp only
    split
    · exact ⟨hle, UInt64.le_refl _⟩
    · rename_i hinside
      rw [not_or] at hinside
      exact ⟨UInt64.not_lt.mp hinside.1, UInt64.not_lt.mp hinside.2⟩

/-! ## Chunks -/

/-- What the node and the store answer while one chunk is processed.  The
calls that apply logs are counted from zero; each of them fails or tells
whether the logs have to wait for source state. -/
structure ChunkAnswer where
  canceled : Bool
  logs : Except String (List Log)
  apply : ℕ → List Log → Except String Bool

variable {answer : ChunkAnswer}

structure LogQuery where
  fromBlock : UInt64
  toBlock : UInt64
  answer : ChunkAnswer

/-- The queries of a window and how it ended: with an error, or with the
pending flag. -/
structure WindowReport where
  queries : List LogQuery
  result : Except String Bool

/-- `processSourceLogs`: the logs are handed on transaction by transaction. -/
def processSourceLogs (answer : ChunkAnswer) : ℕ → List Log → List Log → Except String Bool
  | _, [], [] => .ok false
  | call, first :: current, [] =>
    (answer.apply call (first :: current)).map fun _ => false
  | call, [], log :: rest => processSourceLogs answer call [log] rest
  | call, first :: current, log :: rest =>
    if first.txHash ≠ log.txHash then
      match answer.apply call (first :: current) with
      | .error error => .error error
      | .ok _ => processSourceLogs answer (call + 1) [log] rest
    else processSourceLogs answer call (first :: current ++ [log]) rest

/-- The loops of `applyExecutorDestinationLogs` and `applyDVNDestinationLogs`:
a log that has to wait does not stop the others. -/
def processDestinationLogs (answer : ChunkAnswer) : ℕ → List Log → Except String Bool
  | _, [] => .ok false
  | call, log :: rest =>
    match answer.apply call [log] with
    | .error error => .error error
    | .ok pending =>
      (processDestinationLogs answer (call + 1) rest).map (pending || ·)

def processChunk (stream : StreamName) (answer : ChunkAnswer) : Except String Bool :=
  match answer.logs with
  | .error error => .error error
  | .ok logs =>
    if stream.isSource then processSourceLogs answer 0 [] logs
    else processDestinationLogs answer 0 logs

/-- How a destination loop ended, given the flag it started with. -/
def LoopEnded (start : Bool) (ended : Progress × Option StoreError)
    (result : Except String Bool) : Prop :=
  match ended.2 with
  | some error => result = .error error.text
  | none => ∃ later, result = .ok later ∧ ended.1.pending = (start || later)

theorem logStep_ended (decideLog : DB → Log → Except StoreError (Decision Job))
    (applyLog : DB → Time → PacketRecord → Job → Log → Result Bool) (progress : Progress)
    (entry : Time × Log) : ∃ result, LoopEnded progress.pending
      (logStep decideLog applyLog progress entry) result := by
  unfold logStep
  split
  · exact ⟨_, rfl⟩
  · exact ⟨_, false, rfl, (Bool.or_false _).symm⟩
  · exact ⟨_, true, rfl, (Bool.or_true _).symm⟩
  · split
    · exact ⟨_, rfl⟩
    · exact ⟨_, false, rfl, (Bool.or_false _).symm⟩

/-- The loop reads the answers to its own calls only. -/
theorem processDestinationLogs_congr {left : ChunkAnswer} (right : ChunkAnswer)
    (hsame : ∀ index, call ≤ index → ∀ group, left.apply index group = right.apply index group) :
    processDestinationLogs left call logs = processDestinationLogs right call logs := by
  induction logs generalizing call with
  | nil => rfl
  | cons log rest ih =>
    rw [processDestinationLogs, processDestinationLogs, hsame call le_rfl,
      ih fun index hindex => hsame index (by omega)]

/-- What the destination loops make of a chunk is one of the patterns of
answers. -/
theorem destinationLoop_pattern (decideLog : DB → Log → Except StoreError (Decision Job))
    (applyLog : DB → Time → PacketRecord → Job → Log → Result Bool) (logs : List (Time × Log))
    (progress : Progress) (call : ℕ) :
    ∃ apply, ∀ canceled answered, LoopEnded progress.pending
      (processAll (logStep decideLog applyLog) progress logs)
      (processDestinationLogs ⟨canceled, answered, apply⟩ call (logs.map Prod.snd)) := by
  induction logs generalizing progress call with
  | nil => exact ⟨fun _ _ => .ok false, fun _ _ =>
    ⟨false, rfl, (Bool.or_false _).symm⟩⟩
  | cons entry rest ih =>
    obtain ⟨first, hfirst⟩ := logStep_ended decideLog applyLog progress entry
    rcases hstep : logStep decideLog applyLog progress entry with
      ⟨next, _ | error⟩
    · obtain ⟨later, hlater⟩ := ih next (call + 1)
      rw [hstep] at hfirst
      obtain ⟨pending, rfl, hpending⟩ := hfirst
      -- The answer to the first call is put in front of the later ones.
      refine ⟨fun index group => if index = call then .ok pending
        else later index group, fun canceled answered => ?_⟩
      have hended := hlater canceled answered
      rw [processAll, hstep, map_cons, processDestinationLogs]
      simp only [if_true]
      rw [processDestinationLogs_congr ⟨canceled, answered, later⟩
        fun index hindex group => if_neg (Nat.ne_of_gt hindex)]
      unfold LoopEnded at hended ⊢
      split at hended
      · rw [hended]
        rfl
      · obtain ⟨last, hlast, hflag⟩ := hended
        rw [hlast]
        refine ⟨pending || last, rfl, ?_⟩
        rw [hflag, hpending, Bool.or_assoc]
    · rw [hstep] at hfirst
      refine ⟨fun _ _ => first, fun canceled answered => ?_⟩
      change first = _ at hfirst
      rw [processAll, hstep, map_cons, processDestinationLogs, hfirst]
      rfl

theorem chunk_decreases (settings : IndexerSettings) (hle : fromBlock ≤ toBlock)
    (hlast : chunkToBlock settings fromBlock toBlock ≠ toBlock) :
    (chunkToBlock settings fromBlock toBlock + 1).toNat =
        (chunkToBlock settings fromBlock toBlock).toNat + 1 ∧
      chunkToBlock settings fromBlock toBlock + 1 ≤ toBlock := by
  obtain ⟨hlow, hhigh⟩ := chunkToBlock_bounds settings hle
  generalize chunkToBlock settings fromBlock toBlock = chunkTo at *
  have hsize := toBlock.toNat_lt
  rw [UInt64.le_iff_toNat_le] at hhigh
  have hstrict : chunkTo.toNat < toBlock.toNat :=
    lt_of_le_of_ne hhigh fun heq => hlast (UInt64.toNat_inj.mp heq)
  have hnext : (chunkTo + 1).toNat = chunkTo.toNat + 1 := by
    rw [UInt64.toNat_add]
    change (_ + 1) % _ = _
    omega
  refine ⟨hnext, ?_⟩
  rw [UInt64.le_iff_toNat_le, hnext]
  omega

/-- The loop over the chunks of a window.  Only the source window looks at its
context. -/
def windowLoop (settings : IndexerSettings) (stream : StreamName)
    (answers : ℕ → ChunkAnswer) (chunk : ℕ) (fromBlock toBlock : UInt64) :
    WindowReport :=
  if fromBlock ≤ toBlock then
    if stream.isSource ∧ (answers chunk).canceled then
      ⟨[], .error "context canceled"⟩
    else
      match processChunk stream (answers chunk) with
      | .error error =>
        ⟨[⟨fromBlock, chunkToBlock settings fromBlock toBlock, answers chunk⟩], .error error⟩
      | .ok pending =>
        if hlast : chunkToBlock settings fromBlock toBlock = toBlock then
          ⟨[⟨fromBlock, toBlock, answers chunk⟩], .ok pending⟩
        else
          let rest := windowLoop settings stream answers (chunk + 1)
            (chunkToBlock settings fromBlock toBlock + 1) toBlock
          ⟨⟨fromBlock, chunkToBlock settings fromBlock toBlock, answers chunk⟩ :: rest.queries,
            rest.result.map (pending || ·)⟩
  else ⟨[], .ok false⟩
termination_by toBlock.toNat + 1 - fromBlock.toNat
decreasing_by
  rename_i hle _
  have hbounds := (chunkToBlock_bounds settings hle).1
  have hnext := chunk_decreases settings hle hlast
  rw [UInt64.le_iff_toNat_le] at hbounds hle
  omega

/-- `processSourceWindow`: without source pathways nothing is queried. -/
def processSourceWindow (settings : IndexerSettings) (stream : StreamName)
    (answers : ℕ → ChunkAnswer) (fromBlock toBlock : UInt64) : WindowReport :=
  if settings.sourcePathways.isEmpty then ⟨[], .ok false⟩
  else windowLoop settings stream answers 0 fromBlock toBlock

/-- `processDestinationWindow`. -/
def processDestinationWindow (settings : IndexerSettings)
    (stream : StreamName) (answers : ℕ → ChunkAnswer) (fromBlock toBlock : UInt64) : WindowReport :=
  windowLoop settings stream answers 0 fromBlock toBlock

def processWindow (settings : IndexerSettings) (stream : StreamName) :
    (ℕ → ChunkAnswer) → UInt64 → UInt64 → WindowReport :=
  if stream.isSource then processSourceWindow settings stream
  else processDestinationWindow settings stream

/-! ## Complete application -/

/-- Every log of the query was handed, in its transaction on a source stream
and alone on a destination stream, to a call that succeeded and, on a
destination stream, did not have to wait. -/
structure LogQuery.Applied (stream : StreamName) (query : LogQuery)
    (logs : List Log) (groups : List (List Log)) : Prop where
  answered : query.answer.logs = .ok logs
  all : groups.flatten = logs
  source : stream.isSource = true → ∀ group ∈ groups, ∃ txHash, ∀ log ∈ group, log.txHash = txHash
  destination : stream.isSource = false → ∀ group ∈ groups, ∃ log, group = [log]
  succeeded : ∀ (call : ℕ) (group : List Log), groups[call]? = some group →
    ∃ pending, query.answer.apply call group = .ok pending ∧
      (stream.isSource = false → pending = false)

theorem map_or_eq_ok {result : Except String Bool} {either : Bool}
    (hok : result.map (pending || ·) = .ok either) :
    ∃ later, result = .ok later ∧ (pending || later) = either := by
  cases result with
  | error error => cases hok
  | ok later => exact ⟨later, rfl, Except.ok.inj hok⟩

theorem processSourceLogs_ok {current rest : List Log}
    (hcurrent : ∀ log ∈ current, ∀ other ∈ current, log.txHash = other.txHash)
    (hok : processSourceLogs answer call current rest = .ok pending) :
    ∃ groups : List (List Log), groups.flatten = current ++ rest ∧
      (∀ group ∈ groups, ∃ txHash, ∀ log ∈ group, log.txHash = txHash) ∧
      ∀ (index : ℕ) (group : List Log), groups[index]? = some group →
        ∃ pending, answer.apply (call + index) group = .ok pending := by
  induction call, current, rest using processSourceLogs.induct answer with
  | case1 call => exact ⟨[], rfl, by simp, by simp⟩
  | case2 call first current =>
    rw [processSourceLogs] at hok
    cases happly : answer.apply call (first :: current) with
    | error error =>
      rw [happly] at hok
      cases hok
    | ok pending' =>
      refine ⟨[first :: current], by simp, ?_, ?_⟩
      · rintro group hgroup
        rw [mem_singleton.mp hgroup]
        exact ⟨first.txHash, fun log hlog =>
          hcurrent log hlog first (mem_cons_self ..)⟩
      · intro index group hgroup
        rw [List.getElem?_singleton] at hgroup
        split_ifs at hgroup with hindex
        rw [← Option.some.inj hgroup, hindex]
        exact ⟨pending', happly⟩
  | case3 call log rest ih =>
    rw [processSourceLogs] at hok
    exact ih (by simp) hok
  | case4 call first current log rest hother error happly =>
    rw [processSourceLogs, if_pos hother, happly] at hok
    cases hok
  | case5 call first current log rest hother pending' happly ih =>
    rw [processSourceLogs, if_pos hother, happly] at hok
    obtain ⟨groups, hflat, hsame, hcalls⟩ := ih (by simp) hok
    refine ⟨(first :: current) :: groups, ?_, ?_, ?_⟩
    · rw [flatten_cons, hflat]
      simp
    · rintro group hgroup
      rcases mem_cons.mp hgroup with rfl | hgroup
      · exact ⟨first.txHash, fun log hlog =>
          hcurrent log hlog first (mem_cons_self ..)⟩
      · exact hsame group hgroup
    · intro index group hgroup
      cases index with
      | zero =>
        rw [← Option.some.inj hgroup]
        exact ⟨pending', happly⟩
      | succ index =>
        obtain ⟨later, hlater⟩ := hcalls index group hgroup
        refine ⟨later, ?_⟩
        rw [← hlater]
        congr 1
        omega
  | case6 call first current log rest hsame ih =>
    rw [processSourceLogs, if_neg hsame] at hok
    have hlog : first.txHash = log.txHash := not_not.mp hsame
    obtain ⟨groups, hflat, hall, hcalls⟩ := ih (by
      intro left hleft right hright
      have hfirst : ∀ other ∈ first :: current ++ [log], other.txHash = first.txHash := by
        intro other hother
        rcases mem_append.mp hother with hother | hother
        · exact hcurrent other hother first (mem_cons_self ..)
        · rw [mem_singleton.mp hother, hlog]
      rw [hfirst left hleft, hfirst right hright]) hok
    exact ⟨groups, by rw [hflat]; simp, hall, hcalls⟩

theorem processDestinationLogs_ok (hok : processDestinationLogs answer call logs = .ok false) :
    ∀ (index : ℕ) (log : Log), logs[index]? = some log →
      answer.apply (call + index) [log] = .ok false := by
  induction logs generalizing call with
  | nil => simp
  | cons first rest ih =>
    rw [processDestinationLogs] at hok
    cases happly : answer.apply call [first] with
    | error error =>
      rw [happly] at hok
      cases hok
    | ok pending =>
      rw [happly] at hok
      obtain ⟨later, hrest, heither⟩ := map_or_eq_ok hok
      obtain ⟨hpending, rfl⟩ := Bool.or_eq_false_iff.mp heither
      intro index log hlog
      cases index with
      | zero =>
        rw [← Option.some.inj hlog, ← hpending]
        exact happly
      | succ index =>
        rw [← ih hrest index log hlog]
        congr 1
        omega

theorem applied_of_processChunk {stream : StreamName} {query : LogQuery}
    (hok : processChunk stream query.answer = .ok false) :
    ∃ logs groups, query.Applied stream logs groups := by
  rw [processChunk] at hok
  split at hok
  · cases hok
  · rename_i logs hlogs
    split_ifs at hok with hsource
    · obtain ⟨groups, hflat, hsame, hcalls⟩ := processSourceLogs_ok (by simp) hok
      refine ⟨logs, groups, hlogs, hflat, fun _ => hsame, ?_, ?_⟩
      · intro hdestination
        rw [hsource] at hdestination
        cases hdestination
      · intro call group hgroup
        obtain ⟨pending, happly⟩ := hcalls call group hgroup
        rw [Nat.zero_add] at happly
        refine ⟨pending, happly, fun hdestination => ?_⟩
        rw [hsource] at hdestination
        cases hdestination
    · have hcalls := processDestinationLogs_ok hok
      refine ⟨logs, logs.map fun log => [log], hlogs, ?_, ?_, ?_, ?_⟩
      · exact flatMap_singleton' logs
      · exact fun hsource' => absurd hsource' hsource
      · intro _ group hgroup
        obtain ⟨log, -, rfl⟩ := mem_map.mp hgroup
        exact ⟨log, rfl⟩
      · intro call group hgroup
        rw [List.getElem?_map, Option.map_eq_some_iff] at hgroup
        obtain ⟨log, hlog, rfl⟩ := hgroup
        have happly := hcalls call log hlog
        rw [Nat.zero_add] at happly
        exact ⟨false, happly, fun _ => rfl⟩

/-! ## Whole windows -/

def LogQuery.span (query : LogQuery) : ℕ × ℕ := (query.fromBlock.toNat, query.toBlock.toNat)

/-- A window makes at most one query for each block.  If it ends without error
they tile it, and if no log has to wait each of them was applied. -/
theorem windowLoop_spec (settings : IndexerSettings) (stream : StreamName)
    (answers : ℕ → ChunkAnswer) (chunk : ℕ) (hle : fromBlock ≤ toBlock) {report : WindowReport}
    (hreport : windowLoop settings stream answers chunk fromBlock toBlock = report) :
    fromBlock.toNat + report.queries.length ≤ toBlock.toNat + 1 ∧
      ∀ waiting, report.result = .ok waiting →
        Tiles fromBlock.toNat (report.queries.map LogQuery.span) toBlock.toNat ∧
        (waiting = false →
          ∀ query ∈ report.queries, processChunk stream query.answer = .ok false) := by
  subst hreport
  have hbound := UInt64.le_iff_toNat_le.mp hle
  induction chunk, fromBlock using windowLoop.induct settings stream answers toBlock with
  | case1 chunk fromBlock hle' hcanceled =>
    rw [windowLoop, if_pos hle, if_pos hcanceled]
    exact ⟨hbound.trans (Nat.le_succ _), nofun⟩
  | case2 chunk fromBlock hle' hcontext error hchunk =>
    rw [windowLoop, if_pos hle, if_neg hcontext, hchunk]
    exact ⟨Nat.succ_le_succ hbound, nofun⟩
  | case3 chunk fromBlock hle' hcontext pending hchunk hlast =>
    rw [windowLoop, if_pos hle, if_neg hcontext, hchunk]
    dsimp only
    rw [dif_pos hlast]
    refine ⟨Nat.succ_le_succ hbound, fun waiting hok => ⟨.whole hbound, ?_⟩⟩
    rintro rfl query hquery
    rw [mem_singleton.mp hquery, ← hok]
    exact hchunk
  | case4 chunk fromBlock hle' hcontext pending hchunk hlast ih =>
    obtain ⟨hnext, hle''⟩ := chunk_decreases settings hle hlast
    obtain ⟨hlength, hrest⟩ := ih hle'' (UInt64.le_iff_toNat_le.mp hle'')
    have hlow := UInt64.le_iff_toNat_le.mp (chunkToBlock_bounds settings hle).1
    rw [windowLoop, if_pos hle, if_neg hcontext, hchunk]
    dsimp only
    rw [dif_neg hlast, length_cons]
    refine ⟨by omega, fun waiting hok => ?_⟩
    obtain ⟨later, hlater, heither⟩ := map_or_eq_ok hok
    obtain ⟨htiles, hall⟩ := hrest later hlater
    rw [hnext] at htiles
    refine ⟨.next hlow htiles, ?_⟩
    rintro rfl query hquery
    obtain ⟨rfl, rfl⟩ := Bool.or_eq_false_iff.mp heither
    rcases mem_cons.mp hquery with rfl | hquery
    · exact hchunk
    · exact hall rfl query hquery
  | case5 chunk fromBlock hle' => exact absurd hle hle'

end Lazier.Indexer
