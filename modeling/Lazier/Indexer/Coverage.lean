import Lazier.Indexer.Passes
import Lazier.DVN.Frames

/-!
# Coverage of the indexer's cursors

Any number of processes index the same streams of one chain.  Each reads a
cursor, queries and applies a window behind it, and writes the cursor at the
end of the window; in between the others do the same, heads go up and down,
and calls fail at any point.  The blocks up to a stored cursor have all been in
the window of a pass that ended well.
-/

namespace Lazier.Indexer

open Chain Library Store Option Table

variable {chain : ChainSettings} {settings : IndexerSettings} {db after : DB} {stream : StreamName}
  {confirmedTo fromBlock toBlock : UInt64} {id lastBlock : ℕ} {rest : List StreamName}
  {cursor : Option UInt64}

/-! ## Cursors -/

/-- `GetIndexerCursor`; `none` stands for `pgx.ErrNoRows`. -/
def getIndexerCursor (db : DB) (chainEID : ℕ) (stream : String) :
    Except StoreError (Option UInt64) :=
  if chainEID = 0 then
    .error (.message "indexer cursor chain eid is required")
  else if stream = "" then
    .error (.message "indexer cursor stream is required")
  else
    .ok ((db.work.indexerCursors.find (chainEID, stream)).map
      fun cursor => UInt64.ofNat cursor.lastBlock)

/-- The stored cursor of a stream. -/
def cursorAt (chainEID : ℕ) (db : DB) (stream : StreamName) : Option ℕ :=
  (db.work.indexerCursors.find (chainEID, stream.text)).map IndexerCursor.lastBlock

theorem StreamName.text_injective : Function.Injective StreamName.text := by
  intro left right heq
  cases left <;> cases right <;> first | rfl | exact absurd heq (by decide)

theorem getIndexerCursor_ok {chainEID : ℕ}
    (hok : getIndexerCursor db chainEID stream.text = .ok cursor) :
    cursor = (cursorAt chainEID db stream).map UInt64.ofNat := by
  unfold getIndexerCursor at hok
  split_ifs at hok
  rw [← Except.ok.inj hok, cursorAt, map_map]
  rfl

theorem find_update_of_ne (db : DB) (chainEID lastBlock : ℕ) (stream : String) {key : ℕ × String}
    (hkey : key ≠ (chainEID, stream)) :
    (updateIndexerCursor db chainEID stream lastBlock).1.work.indexerCursors.find key =
      db.work.indexerCursors.find key := by
  unfold updateIndexerCursor
  split_ifs
  iterate 4 rfl
  split
  · exact find_insertNew_of_ne hkey
  · rename_i cursor hcursor
    rw [← (find_eq_some.mp hcursor).2] at hkey
    exact find_set_of_ne hkey

theorem cursorAt_update (db : DB) (chainEID lastBlock : ℕ) (stream other : StreamName) :
    cursorAt chainEID (updateIndexerCursor db chainEID stream.text
        lastBlock).1 other = cursorAt chainEID db other ∨ other = stream ∧ lastBlock ≤ maxDBNonce ∧
        cursorAt chainEID (updateIndexerCursor db chainEID stream.text lastBlock).1 other =
          some (max ((cursorAt chainEID db other).getD 0) lastBlock) := by
  by_cases hother : other = stream
  · subst hother
    unfold updateIndexerCursor
    split_ifs with heid hstream hlimit hchain
    iterate 4 exact .inl rfl
    refine .inr ⟨rfl, not_lt.mp hlimit, ?_⟩
    split
    · rename_i hnone
      have hfound : (db.work.indexerCursors.insertNew
          ⟨(chainEID, other.text), lastBlock⟩).find (chainEID, other.text) =
          some ⟨(chainEID, other.text), lastBlock⟩ := find_insertNew_self hnone
      rw [cursorAt, cursorAt, hnone, map_none, getD_none, Nat.zero_max]
      exact congrArg (Option.map _) hfound
    · rename_i cursor hcursor
      have hkey := (find_eq_some.mp hcursor).2
      have hfound : (db.work.indexerCursors.set
          { cursor with lastBlock := max cursor.lastBlock lastBlock }).find cursor.stream =
          some { cursor with lastBlock := max cursor.lastBlock lastBlock } :=
        find_set_self (hkey ▸ hcursor)
      rw [cursorAt, cursorAt, hcursor, ← hkey]
      exact congrArg (Option.map _) hfound
  · left
    refine congrArg (Option.map _) (find_update_of_ne db chainEID lastBlock
      stream.text fun heq => ?_)
    exact hother (StreamName.text_injective (Prod.mk.inj heq).2)

/-! ## Processes -/

/-- How the write of a cursor ends for its caller. -/
inductive WriteOutcome
  | lost
  | unacknowledged
  | answered
  deriving DecidableEq

/-- The answers a process gets in one turn of `ProcessOnce`. -/
structure TurnAnswer where
  cursorError : Option String
  chunks : ℕ → ChunkAnswer
  write : WriteOutcome

variable {answer : TurnAnswer}

/-- Where a process stands in `ProcessOnce`: between two polls, at the next of
the enabled streams, with a window, or before the write of its end. -/
inductive Phase
  | idle
  | polling (confirmedTo : UInt64) (streams : List StreamName)
  | windowed (confirmedTo : UInt64) (stream : StreamName)
      (rest : List StreamName) (fromBlock toBlock : UInt64)
  | advancing (confirmedTo : UInt64) (stream : StreamName)
      (rest : List StreamName) (fromBlock toBlock : UInt64)

variable {phase next : Phase}

structure Process where
  settings : IndexerSettings
  phase : Phase

variable {process : Process}

structure IndexerWorld where
  db : DB
  processes : ℕ → Option Process

variable {world pre post final : IndexerWorld}

/-- No process runs on the empty schema. -/
def IndexerWorld.initial : IndexerWorld := ⟨DB.empty, fun _ => none⟩

/-- The start of `ProcessOnce`, on the observed head. -/
def beginPass (chain : ChainSettings) (settings : IndexerSettings) : Except String UInt64 → Phase
  | .error _ => .idle
  | .ok head =>
    if head < chain.confirmations then .idle
    else .polling (head - chain.confirmations) settings.streams.names

/-- One turn of a pass.  Every error ends the pass. -/
def passTurn (chain : ChainSettings) (settings : IndexerSettings) (db : DB) (answer : TurnAnswer) :
    Phase → Option (DB × Phase)
  | .idle => none
  | .polling _ [] => some (db, .idle)
  | .polling confirmedTo (stream :: rest) =>
    match answer.cursorError, getIndexerCursor db chain.eid stream.text with
    | some _, _ => some (db, .idle)
    | none, .error _ => some (db, .idle)
    | none, .ok cursor =>
      match cursorWindow chain settings cursor confirmedTo with
      | .error _ => some (db, .polling confirmedTo rest)
      | .ok (fromBlock, toBlock) =>
        some (db, .windowed confirmedTo stream rest fromBlock toBlock)
  | .windowed confirmedTo stream rest fromBlock toBlock =>
    match (processWindow settings stream answer.chunks fromBlock toBlock).result with
    | .error _ => some (db, .idle)
    | .ok true => some (db, .polling confirmedTo rest)
    | .ok false =>
      some (db, .advancing confirmedTo stream rest fromBlock toBlock)
  | .advancing confirmedTo stream rest _ toBlock =>
    let written := updateIndexerCursor db chain.eid stream.text toBlock.toNat
    match answer.write, written.2 with
    | .lost, _ => some (db, .idle)
    | .unacknowledged, _ => some (written.1, .idle)
    | .answered, .error _ => some (written.1, .idle)
    | .answered, .ok () => some (written.1, .polling confirmedTo rest)

/-- A process starts, again after a crash or with other settings; it polls the
head, or takes a turn of its pass; and anyone else calls the store. -/
inductive IndexerLabel
  | start (process : ℕ) (settings : IndexerSettings)
  | observe (process : ℕ) (head : Except String UInt64)
  | turn (process : ℕ) (answer : TurnAnswer)
  | store (op : Op)

variable {event : Event IndexerWorld IndexerLabel} {label : IndexerLabel}
  {history : List (Event IndexerWorld IndexerLabel)}

/-- The calls of the other components and of the indexers of other chains. -/
def foreignCall (chain : ChainSettings) : Op → Bool
  | .work (.updateIndexerCursor chainEID _ _) => decide (chainEID ≠ chain.eid)
  | _ => true

def IndexerWorld.setProcess (world : IndexerWorld) (id : ℕ) (process : Process) : IndexerWorld :=
  { world with processes := Function.update world.processes id process }

def indexerExec (chain : ChainSettings) (world : IndexerWorld) : IndexerLabel → Option IndexerWorld
  | .start id settings => some (world.setProcess id ⟨settings, .idle⟩)
  | .observe id head =>
    match world.processes id with
    | some ⟨settings, .idle⟩ =>
      some (world.setProcess id ⟨settings, beginPass chain settings head⟩)
    | _ => none
  | .turn id answer =>
    match world.processes id with
    | none => none
    | some process =>
      (passTurn chain process.settings world.db answer process.phase).map
        fun after => ({ world with db := after.1 }).setProcess id ⟨process.settings, after.2⟩
  | .store op =>
    if foreignCall chain op then
      some { world with db := op.apply world.db }
    else none

/-- Runs of the processes from the empty schema, with their history. -/
abbrev IndexerRun (chain : ChainSettings) :
    List (Event IndexerWorld IndexerLabel) → IndexerWorld → Prop :=
  Run (fun pre label post => indexerExec chain pre label = some post) IndexerWorld.initial

/-! ## Passes that ended well -/

/-- The heads that the processes have observed. -/
def observedHeads (history : List (Event IndexerWorld IndexerLabel)) : List UInt64 :=
  history.filterMap fun event =>
    match event.label with
    | .observe _ (.ok head) => some head
    | _ => none

/-- At the event a pass finished a window without error or pending flag, and
the block was contained in one of its log queries, the result of which was
completely applied. -/
def Queried (event : Event IndexerWorld IndexerLabel) (stream : StreamName) (block : ℕ) : Prop :=
  ∃ id answer settings confirmedTo rest fromBlock toBlock, event.label = .turn id answer ∧
    event.pre.processes id = some ⟨settings, .windowed confirmedTo stream rest fromBlock toBlock⟩ ∧
    (processWindow settings stream answer.chunks fromBlock toBlock).result = .ok false ∧
    ∃ query ∈ (processWindow settings stream answer.chunks fromBlock toBlock).queries,
      query.fromBlock.toNat ≤ block ∧ block ≤ query.toBlock.toNat ∧
      ∃ logs groups, query.Applied stream logs groups

/-- At the event a pass finished a source window with the block in it, but no
source pathway was configured and nothing was queried. -/
def Unwatched (event : Event IndexerWorld IndexerLabel) (stream : StreamName) (block : ℕ) : Prop :=
  stream.isSource = true ∧ ∃ id answer settings confirmedTo rest fromBlock toBlock,
    event.label = .turn id answer ∧ event.pre.processes id = some ⟨settings,
      .windowed confirmedTo stream rest fromBlock toBlock⟩ ∧ settings.sourcePathways = [] ∧
    UInt64.toNat fromBlock ≤ block ∧ block ≤ UInt64.toNat toBlock

/-- Every block from the start block up to the bound was in a finished
window. -/
def CoveredUpTo (chain : ChainSettings) (history : List (Event IndexerWorld IndexerLabel))
    (stream : StreamName) (bound : ℕ) : Prop :=
  ∀ block, chain.startBlockNumber.toNat ≤ block → block < bound →
    ∃ event ∈ history, Queried event stream block ∨ Unwatched event stream block

/-- The block right behind a cursor, the start block if there is none. -/
def nextBlock (chain : ChainSettings) : Option UInt64 → ℕ
  | some cursor => cursor.toNat + 1
  | none => chain.startBlockNumber.toNat

theorem cursorWindow_ok
    (hok : cursorWindow chain settings cursor confirmedTo = .ok (fromBlock, toBlock)) :
    fromBlock.toNat = nextBlock chain cursor ∧ fromBlock ≤ toBlock ∧ toBlock ≤ confirmedTo := by
  cases cursor with
  | some cursor =>
    rw [cursorWindow] at hok
    split_ifs at hok with hcaught
    obtain ⟨rfl, rfl⟩ := Prod.mk.inj (Except.ok.inj hok)
    have hlt : cursor.toNat < confirmedTo.toNat :=
      UInt64.lt_iff_toNat_lt.mp (UInt64.not_le.mp hcaught)
    have hsize := confirmedTo.toNat_lt
    have hnext : (cursor + 1).toNat = cursor.toNat + 1 := by
      rw [UInt64.toNat_add]
      change (_ + 1) % _ = _
      omega
    exact ⟨hnext, windowEnd_bounds settings (UInt64.le_iff_toNat_le.mpr (by omega))⟩
  | none =>
    rw [cursorWindow] at hok
    split_ifs at hok with hearly
    obtain ⟨rfl, rfl⟩ := Prod.mk.inj (Except.ok.inj hok)
    exact ⟨rfl, windowEnd_bounds settings (UInt64.not_lt.mp hearly)⟩

theorem covered_by_window (hlabel : event.label = .turn id answer)
    (hprocess : event.pre.processes id = some ⟨settings,
      .windowed confirmedTo stream rest fromBlock toBlock⟩) (hle : fromBlock ≤ toBlock)
    (hok : (processWindow settings stream answer.chunks fromBlock toBlock).result = .ok false)
    {block : ℕ} (hlow : fromBlock.toNat ≤ block) (hhigh : block ≤ toBlock.toNat) :
    Queried event stream block ∨ Unwatched event stream block := by
  by_cases hnone : stream.isSource = true ∧ settings.sourcePathways = []
  · exact .inr ⟨hnone.1, id, answer, settings, confirmedTo, rest, fromBlock,
      toBlock, hlabel, hprocess, hnone.2, hlow, hhigh⟩
  · have hloop : processWindow settings stream answer.chunks fromBlock toBlock =
        windowLoop settings stream answer.chunks 0 fromBlock toBlock := by
      unfold processWindow
      split
      · rename_i hsource
        rw [processSourceWindow, if_neg]
        rw [List.isEmpty_iff]
        exact fun hempty => hnone ⟨hsource, hempty⟩
      · rfl
    have hok' := hok
    rw [hloop] at hok'
    obtain ⟨htiles, hall⟩ := (windowLoop_spec settings stream answer.chunks 0 hle rfl).2 _ hok'
    obtain ⟨span, ⟨hspan, hfirst, hlast⟩, -⟩ := htiles.existsUnique hlow hhigh
    obtain ⟨query, hquery, rfl⟩ := List.mem_map.mp hspan
    refine .inl ⟨id, answer, settings, confirmedTo, rest, fromBlock, toBlock,
      hlabel, hprocess, hok, query, ?_, hfirst, hlast,
      applied_of_processChunk (hall rfl query hquery)⟩
    rw [hloop]
    exact hquery

/-! ## The invariant -/

/-- The block is confirmed under a head that was observed. -/
def Confirmed (chain : ChainSettings) (history : List (Event IndexerWorld IndexerLabel))
    (block : UInt64) :
    Prop :=
  ∃ head ∈ observedHeads history, chain.confirmations ≤ head ∧
    block.toNat + chain.confirmations.toNat ≤ head.toNat

/-- What holds of a process that stands in the given phase. -/
def PhaseTracked (chain : ChainSettings) (history : List (Event IndexerWorld IndexerLabel)) :
    Phase → Prop
  | .idle => True
  | .polling confirmedTo _ => Confirmed chain history confirmedTo
  | .windowed confirmedTo stream _ fromBlock toBlock =>
    Confirmed chain history confirmedTo ∧
    chain.startBlockNumber ≤ fromBlock ∧ fromBlock ≤ toBlock ∧
    toBlock ≤ confirmedTo ∧
    CoveredUpTo chain history stream fromBlock.toNat
  | .advancing confirmedTo stream _ fromBlock toBlock =>
    Confirmed chain history confirmedTo ∧
    chain.startBlockNumber ≤ fromBlock ∧ fromBlock ≤ toBlock ∧
    toBlock ≤ confirmedTo ∧
    CoveredUpTo chain history stream (toBlock.toNat + 1)

/-- What holds of a stored cursor. -/
structure CursorTracked (chain : ChainSettings)
    (history : List (Event IndexerWorld IndexerLabel)) (stream : StreamName)
    (lastBlock : ℕ) : Prop where
  fits : lastBlock ≤ maxDBNonce
  started : chain.startBlockNumber.toNat ≤ lastBlock
  confirmed : ∃ block, block.toNat = lastBlock ∧ Confirmed chain history block
  covered : CoveredUpTo chain history stream (lastBlock + 1)

structure Tracked (chain : ChainSettings)
    (history : List (Event IndexerWorld IndexerLabel)) (world : IndexerWorld) : Prop where
  cursors : ∀ stream lastBlock, cursorAt chain.eid world.db stream = some lastBlock →
    CursorTracked chain history stream lastBlock
  processes : ∀ id process, world.processes id = some process →
    PhaseTracked chain history process.phase

theorem Confirmed.extend {block : UInt64} (hconfirmed : Confirmed chain history block)
    (event : Event IndexerWorld IndexerLabel) : Confirmed chain (event :: history) block := by
  obtain ⟨head, hhead, hbounds⟩ := hconfirmed
  refine ⟨head, ?_, hbounds⟩
  rw [observedHeads, List.filterMap_cons]
  split
  · exact hhead
  · exact List.mem_cons_of_mem _ hhead

theorem Confirmed.of_le {block lower : UInt64} (hconfirmed : Confirmed chain history block)
    (hle : lower ≤ block) :
    Confirmed chain history lower := by
  obtain ⟨head, hhead, hconfirmations, hbound⟩ := hconfirmed
  have hle' := UInt64.le_iff_toNat_le.mp hle
  exact ⟨head, hhead, hconfirmations, by omega⟩

theorem CoveredUpTo.extend {bound : ℕ} (hcovered : CoveredUpTo chain history stream bound)
    (event : Event IndexerWorld IndexerLabel) :
    CoveredUpTo chain (event :: history) stream bound := by
  intro block hstart hbound
  obtain ⟨earlier, hearlier, hblock⟩ := hcovered block hstart hbound
  exact ⟨earlier, List.mem_cons_of_mem _ hearlier, hblock⟩

theorem PhaseTracked.extend (htracked : PhaseTracked chain history phase)
    (event : Event IndexerWorld IndexerLabel) : PhaseTracked chain (event :: history) phase := by
  cases phase with
  | idle => trivial
  | polling => exact Confirmed.extend htracked event
  | windowed | advancing =>
    obtain ⟨hconfirmed, hstart, hle, hend, hcovered⟩ := htracked
    exact ⟨hconfirmed.extend event, hstart, hle, hend, hcovered.extend event⟩

theorem CursorTracked.extend (htracked : CursorTracked chain history stream lastBlock)
    (event : Event IndexerWorld IndexerLabel) :
    CursorTracked chain (event :: history) stream lastBlock where
  fits := htracked.fits
  started := htracked.started
  confirmed := by
    obtain ⟨block, hblock, hconfirmed⟩ := htracked.confirmed
    exact ⟨block, hblock, hconfirmed.extend event⟩
  covered := htracked.covered.extend event

def CursorsTracked (chain : ChainSettings) (history : List (Event IndexerWorld IndexerLabel))
    (db : DB) : Prop :=
  ∀ stream lastBlock, cursorAt chain.eid db stream = some lastBlock →
    CursorTracked chain history stream lastBlock

theorem CursorsTracked.extend (htracked : CursorsTracked chain history db)
    (event : Event IndexerWorld IndexerLabel) : CursorsTracked chain (event :: history) db :=
  fun stream lastBlock hcursor => (htracked stream lastBlock hcursor).extend event

theorem CursorTracked.max {first second : ℕ} (hfirst : CursorTracked chain history stream first)
    (hsecond : CursorTracked chain history stream second) :
    CursorTracked chain history stream (max first second) := by
  rcases le_total first second with hle | hle
  · rwa [Nat.max_eq_right hle]
  · rwa [Nat.max_eq_left hle]

theorem cursorAt_foreign {op : Op} (hforeign : foreignCall chain op = true) (db : DB)
    (stream : StreamName) : cursorAt chain.eid (op.apply db) stream =
      cursorAt chain.eid db stream := by
  cases hwrites : op.writesCursor with
  | false => rw [cursorAt, cursorAt, DVN.apply_op_cursors db hwrites]
  | true =>
    cases op with
    | tx op => cases hwrites
    | work op =>
      cases op with
      | updateIndexerCursor chainEID name lastBlock =>
        refine congrArg (Option.map _) (find_update_of_ne db chainEID lastBlock name fun heq => ?_)
        exact of_decide_eq_true hforeign (Prod.mk.inj heq).1.symm
      | _ => cases hwrites

/-- The cursor a process reads is tracked, and its window starts right behind
the covered blocks. -/
theorem windowed_tracked (hcursors : CursorsTracked chain history db)
    (hconfirmed : Confirmed chain history confirmedTo) (hwindow : cursorWindow chain settings
      ((cursorAt chain.eid db stream).map UInt64.ofNat) confirmedTo = .ok (fromBlock, toBlock)) :
    PhaseTracked chain history (.windowed confirmedTo stream rest fromBlock toBlock) := by
  obtain ⟨hfrom, hle, hend⟩ := cursorWindow_ok hwindow
  cases hcursor : cursorAt chain.eid db stream with
  | none =>
    rw [hcursor] at hfrom
    change _ = chain.startBlockNumber.toNat at hfrom
    refine ⟨hconfirmed, UInt64.le_iff_toNat_le.mpr hfrom.ge, hle, hend, ?_⟩
    intro block hstart hbound
    omega
  | some lastBlock =>
    have htracked := hcursors stream lastBlock hcursor
    have hfits : lastBlock < 2 ^ 64 := lt_of_le_of_lt htracked.fits (by decide)
    rw [hcursor] at hfrom
    change _ = (UInt64.ofNat lastBlock).toNat + 1 at hfrom
    rw [UInt64.toNat_ofNat_of_lt' hfits] at hfrom
    have hstarted := htracked.started
    refine ⟨hconfirmed, UInt64.le_iff_toNat_le.mpr (by omega), hle, hend, ?_⟩
    rw [hfrom]
    exact htracked.covered

theorem advanced_tracked
    (hphase : PhaseTracked chain history (.advancing confirmedTo stream rest fromBlock toBlock))
    (hfits : toBlock.toNat ≤ maxDBNonce) : CursorTracked chain history stream toBlock.toNat := by
  obtain ⟨hconfirmed, hstart, hle, hend, hcovered⟩ := hphase
  have hstart' := UInt64.le_iff_toNat_le.mp hstart
  have hle' := UInt64.le_iff_toNat_le.mp hle
  exact ⟨hfits, hstart'.trans hle', ⟨toBlock, rfl, hconfirmed.of_le hend⟩, hcovered⟩

theorem written_tracked (hcursors : CursorsTracked chain history db)
    (hphase : PhaseTracked chain history (.advancing confirmedTo stream rest fromBlock toBlock)) :
    CursorsTracked chain history
      (updateIndexerCursor db chain.eid stream.text toBlock.toNat).1 := by
  intro other lastBlock hcursor
  rcases cursorAt_update db chain.eid toBlock.toNat stream other with
    hsame | ⟨rfl, hfits, hwritten⟩
  · exact hcursors other lastBlock (hsame ▸ hcursor)
  · have hnew := advanced_tracked hphase hfits
    rw [hwritten, Option.some.injEq] at hcursor
    rw [← hcursor]
    cases hold : cursorAt chain.eid db other with
    | none => rwa [getD_none, Nat.zero_max]
    | some old => exact (hcursors other old hold).max hnew

theorem passTurn_tracked (hcursors : CursorsTracked chain history db)
    (hphase : PhaseTracked chain history phase) (hlabel : event.label = .turn id answer)
    (hprocess : event.pre.processes id = some ⟨settings, phase⟩)
    (hturn : passTurn chain settings db answer phase = some (after, next)) :
    CursorsTracked chain (event :: history) after ∧ PhaseTracked chain (event :: history) next := by
  have hkept := hcursors.extend event
  cases phase with
  | idle => cases hturn
  | polling confirmedTo streams =>
    cases streams with
    | nil =>
      cases hturn
      exact ⟨hkept, trivial⟩
    | cons stream rest =>
      rw [passTurn] at hturn
      split at hturn
      · cases hturn
        exact ⟨hkept, trivial⟩
      · cases hturn
        exact ⟨hkept, trivial⟩
      · rename_i cursor hcursor
        split at hturn
        · cases hturn
          exact ⟨hkept, Confirmed.extend hphase event⟩
        · rename_i fromBlock toBlock hwindow
          cases hturn
          rw [getIndexerCursor_ok hcursor] at hwindow
          exact ⟨hkept, (windowed_tracked hcursors hphase hwindow).extend event⟩
  | windowed confirmedTo stream rest fromBlock toBlock =>
    rw [passTurn] at hturn
    split at hturn
    · cases hturn
      exact ⟨hkept, trivial⟩
    · cases hturn
      exact ⟨hkept, hphase.1.extend event⟩
    · rename_i hok
      cases hturn
      obtain ⟨hconfirmed, hstart, hle, hend, hcovered⟩ := hphase
      refine ⟨hkept, hconfirmed.extend event, hstart, hle, hend, ?_⟩
      intro block hfirst hbound
      by_cases hbelow : block < fromBlock.toNat
      · exact (hcovered.extend event) block hfirst hbelow
      · exact ⟨event, List.mem_cons_self .., covered_by_window hlabel
          hprocess hle hok (not_lt.mp hbelow) (Nat.le_of_lt_succ hbound)⟩
  | advancing confirmedTo stream rest fromBlock toBlock =>
    have hwritten := (written_tracked hcursors hphase).extend event
    simp only [passTurn] at hturn
    split at hturn
    · cases hturn
      exact ⟨hkept, trivial⟩
    · cases hturn
      exact ⟨hwritten, trivial⟩
    · cases hturn
      exact ⟨hwritten, trivial⟩
    · cases hturn
      exact ⟨hwritten, hphase.1.extend event⟩

theorem processes_setProcess {other : ℕ} {current : Process}
    (hcurrent : (({ world with db }).setProcess id process).processes other = some current) :
    current = process ∨ world.processes other = some current := by
  change Function.update world.processes id (some process) other = _ at hcurrent
  by_cases hother : other = id
  · rw [hother, Function.update_self] at hcurrent
    exact .inl (Option.some.inj hcurrent).symm
  · rw [Function.update_of_ne hother] at hcurrent
    exact .inr hcurrent

theorem tracked_setProcess (hprocesses : ∀ id process, world.processes id = some process →
      PhaseTracked chain history process.phase)
    (hcursors : CursorsTracked chain (event :: history) db)
    (hphase : PhaseTracked chain (event :: history) process.phase) :
    Tracked chain (event :: history) (({ world with db }).setProcess id process) where
  cursors := hcursors
  processes := by
    intro other current hcurrent
    rcases processes_setProcess hcurrent with rfl | hold
    · exact hphase
    · exact (hprocesses other current hold).extend event

theorem beginPass_tracked {head : Except String UInt64} (hlabel : event.label = .observe id head) :
    PhaseTracked chain (event :: history)
      (beginPass chain settings head) := by
  cases head with
  | error error => trivial
  | ok head =>
    rw [beginPass]
    split_ifs with hearly
    · trivial
    · have hle := UInt64.not_lt.mp hearly
      refine ⟨head, ?_, hle, ?_⟩
      · rw [observedHeads, List.filterMap_cons, hlabel]
        exact List.mem_cons_self ..
      · rw [UInt64.toNat_sub_of_le _ _ hle]
        have hle' := UInt64.le_iff_toNat_le.mp hle
        omega

theorem tracked_step (htracked : Tracked chain history pre)
    (hstep : indexerExec chain pre label = some post) :
    Tracked chain (⟨pre, label, post⟩ :: history) post := by
  have hkept := CursorsTracked.extend htracked.cursors ⟨pre, label, post⟩
  cases label with
  | start id settings =>
    cases hstep
    exact tracked_setProcess htracked.processes hkept trivial
  | observe id head =>
    rw [indexerExec] at hstep
    split at hstep
    · cases hstep
      exact tracked_setProcess htracked.processes hkept (beginPass_tracked rfl)
    · cases hstep
  | turn id answer =>
    rw [indexerExec] at hstep
    split at hstep
    · cases hstep
    · rename_i process hprocess
      obtain ⟨settings, phase⟩ := process
      rw [map_eq_some_iff] at hstep
      obtain ⟨⟨after, next⟩, hturn, rfl⟩ := hstep
      exact And.elim (tracked_setProcess htracked.processes) (passTurn_tracked htracked.cursors
        (htracked.processes id _ hprocess) rfl hprocess hturn)
  | store op =>
    rw [indexerExec] at hstep
    split_ifs at hstep with hforeign
    cases hstep
    refine ⟨fun stream lastBlock hcursor => ?_, fun id process hprocess =>
      (htracked.processes id process hprocess).extend _⟩
    rw [cursorAt_foreign hforeign] at hcursor
    exact hkept stream lastBlock hcursor

theorem tracked_of_run (hrun : IndexerRun chain history final) : Tracked chain history final := by
  induction hrun with
  | start =>
    exact ⟨fun _ _ hcursor => absurd hcursor.symm (some_ne_none _),
      fun _ _ hprocess => absurd hprocess.symm (some_ne_none _)⟩
  | extend before last ih => exact tracked_step ih last

/-! ## Cursors never decrease -/

/-- The later cursor is there if the earlier is, and is not behind it. -/
def NotBehind (earlier later : Option ℕ) : Prop := ∀ lastBlock, earlier = some lastBlock →
    ∃ next, later = some next ∧ lastBlock ≤ next

theorem NotBehind.of_eq {earlier later : Option ℕ} (heq : later = earlier) :
    NotBehind earlier later :=
  fun lastBlock hlast => ⟨lastBlock, heq.trans hlast, le_rfl⟩

theorem notBehind_update (db : DB) (chainEID lastBlock : ℕ) (stream other : StreamName) :
    NotBehind (cursorAt chainEID db other)
      (cursorAt chainEID (updateIndexerCursor db chainEID stream.text lastBlock).1 other) := by
  rcases cursorAt_update db chainEID lastBlock stream other with
    hsame | ⟨-, -, hwritten⟩
  · exact .of_eq hsame
  · intro old hold
    rw [hold] at hwritten
    exact ⟨_, hwritten, le_max_left ..⟩

theorem passTurn_db (hturn : passTurn chain settings db answer phase = some (after, next)) :
    after = db ∨ ∃ (stream : StreamName) (block : ℕ),
      after = (updateIndexerCursor db chain.eid stream.text block).1 := by
  unfold passTurn at hturn
  dsimp only at hturn
  repeat' split at hturn
  all_goals cases hturn
  all_goals first
    | exact .inl rfl
    | exact .inr ⟨_, _, rfl⟩

theorem notBehind_step (hstep : indexerExec chain pre label = some post) (stream : StreamName) :
    NotBehind (cursorAt chain.eid pre.db stream) (cursorAt chain.eid post.db stream) := by
  cases label with
  | start id settings =>
    cases hstep
    exact .of_eq rfl
  | observe id head =>
    rw [indexerExec] at hstep
    split at hstep
    · cases hstep
      exact .of_eq rfl
    · cases hstep
  | store op =>
    rw [indexerExec] at hstep
    split_ifs at hstep with hforeign
    cases hstep
    exact .of_eq (cursorAt_foreign hforeign pre.db stream)
  | turn id answer =>
    rw [indexerExec] at hstep
    split at hstep
    · cases hstep
    · rename_i process hprocess
      rw [map_eq_some_iff] at hstep
      obtain ⟨⟨after, next⟩, hturn, rfl⟩ := hstep
      change NotBehind _ (cursorAt chain.eid after stream)
      rcases passTurn_db hturn with rfl | ⟨written, block, rfl⟩
      · exact .of_eq rfl
      · exact notBehind_update pre.db chain.eid block written stream

/-! ## Passes end -/

/-- A bound on the turns that are left of a pass. -/
def Phase.remaining : Phase → ℕ
  | .idle => 0
  | .polling _ streams => 3 * streams.length + 1
  | .windowed _ _ rest _ _ => 3 * rest.length + 3
  | .advancing _ _ rest _ _ => 3 * rest.length + 2

/-- Whatever is answered, a pass takes its next turn and comes closer to its
end. -/
theorem passTurn_ends (chain : ChainSettings) (settings : IndexerSettings) (db : DB)
    (answer : TurnAnswer) (hphase : phase ≠ .idle) :
    ∃ after next, passTurn chain settings db answer phase =
      some (after, next) ∧ next.remaining < phase.remaining := by
  unfold passTurn
  dsimp only
  repeat' split
  · exact absurd rfl hphase
  all_goals
    refine ⟨_, _, rfl, ?_⟩
    simp only [Phase.remaining, List.length_cons]
    omega

/-! ## Coverage -/

/-- The stored cursor of a stream never decreases and never passes the largest
observed head less the confirmations.  Every block up to it was in a query that
a well-ended pass applied completely, or in a source window of a process
without source pathways.  Windows start right behind the cursor, chunks tile
them, and every pass ends. -/
theorem cursor_covers_blocks {chain : ChainSettings}
    {history : List (Event IndexerWorld IndexerLabel)} {final : IndexerWorld}
    (hrun : IndexerRun chain history final) (stream : StreamName) :
    (∀ event ∈ history, NotBehind (cursorAt chain.eid event.pre.db stream)
      (cursorAt chain.eid event.post.db stream)) ∧
    (∀ lastBlock, cursorAt chain.eid final.db stream = some lastBlock →
      (∃ head ∈ observedHeads history, chain.confirmations ≤ head ∧
        lastBlock ≤ head.toNat - chain.confirmations.toNat) ∧
      ∀ block, chain.startBlockNumber.toNat ≤ block → block ≤ lastBlock →
        ∃ event ∈ history, Queried event stream block ∨ Unwatched event stream block) ∧
    (∀ (settings : IndexerSettings) (cursor : Option UInt64)
        (confirmedTo fromBlock toBlock : UInt64), cursorWindow chain settings cursor confirmedTo =
        .ok (fromBlock, toBlock) → fromBlock.toNat = nextBlock chain cursor ∧ fromBlock ≤ toBlock ∧
        toBlock ≤ confirmedTo) ∧
    (∀ (settings : IndexerSettings) (answers : ℕ → ChunkAnswer)
        (fromBlock toBlock : UInt64), fromBlock ≤ toBlock →
      (∀ pending, (windowLoop settings stream answers 0 fromBlock toBlock).result = .ok pending →
        Tiles fromBlock.toNat ((windowLoop settings stream answers 0 fromBlock
          toBlock).queries.map LogQuery.span) toBlock.toNat) ∧
      fromBlock.toNat + (windowLoop settings stream answers 0 fromBlock
        toBlock).queries.length ≤ toBlock.toNat + 1) ∧
    (∀ (settings : IndexerSettings) (db : DB) (answer : TurnAnswer) (phase : Phase), phase ≠ .idle →
      ∃ after next, passTurn chain settings db answer phase =
        some (after, next) ∧ next.remaining < phase.remaining) := by
  refine ⟨?_, ?_, ?_, ?_, ?_⟩
  · intro event hevent
    exact notBehind_step (hrun.event_reached hevent).1 stream
  · intro lastBlock hcursor
    have htracked := (tracked_of_run hrun).cursors stream lastBlock hcursor
    obtain ⟨last, rfl, head, hhead, hconfirmations, hbound⟩ := htracked.confirmed
    exact ⟨⟨head, hhead, hconfirmations, by omega⟩, fun block hstart hlast =>
        htracked.covered block hstart (Nat.lt_succ_of_le hlast)⟩
  · intro settings cursor confirmedTo fromBlock toBlock hwindow
    exact cursorWindow_ok hwindow
  · intro settings answers fromBlock toBlock hle
    obtain ⟨hlength, hspec⟩ := windowLoop_spec settings stream answers 0 hle rfl
    exact ⟨fun pending hok => (hspec pending hok).1, hlength⟩
  · intro settings db answer phase hphase
    exact passTurn_ends chain settings db answer hphase

/-! ## Chains without source pathways -/

/-- Whether the label starts only processes without source pathways. -/
def startsPathless : IndexerLabel → Bool
  | .start _ settings => settings.sourcePathways.isEmpty
  | _ => true

def Pathless (world : IndexerWorld) : Prop := ∀ id process, world.processes id = some process →
    process.settings.sourcePathways = []

theorem Pathless.setProcess (hworld : Pathless world) (db : DB) (id : ℕ)
    (hempty : process.settings.sourcePathways = []) :
    Pathless (({ world with db }).setProcess id process) := by
  intro other current hcurrent
  rcases processes_setProcess hcurrent with rfl | hold
  · exact hempty
  · exact hworld other current hold

theorem Pathless.step (hpre : Pathless pre) (hstep : indexerExec chain pre label = some post)
    (hlabel : startsPathless label = true) :
    Pathless post := by
  cases label with
  | start id settings =>
    cases hstep
    exact hpre.setProcess pre.db id (List.isEmpty_iff.mp hlabel)
  | observe id head =>
    rw [indexerExec] at hstep
    split at hstep
    · rename_i settings hprocess
      have hempty := hpre id _ hprocess
      cases hstep
      exact hpre.setProcess pre.db id hempty
    · cases hstep
  | turn id answer =>
    rw [indexerExec] at hstep
    split at hstep
    · cases hstep
    · rename_i process hprocess
      have hempty := hpre id process hprocess
      rw [map_eq_some_iff] at hstep
      obtain ⟨after, -, rfl⟩ := hstep
      exact hpre.setProcess after.1 id hempty
  | store op =>
    rw [indexerExec] at hstep
    split_ifs at hstep
    cases hstep
    exact hpre

theorem source_unqueried (hrun : IndexerRun chain history final)
    (hpathless : ∀ event ∈ history, startsPathless event.label = true)
    (hsource : stream.isSource = true) (block : ℕ) :
    ∀ event ∈ history, ¬ Queried event stream block := by
  obtain ⟨-, hevents⟩ := hrun.history_invariant (fun event => startsPathless event.label = true)
    (fun history world =>
      Pathless world ∧ ∀ event ∈ history, Pathless event.pre)
    (fun history pre label post hinv hstep hlabel =>
      ⟨hinv.1.step hstep hlabel, List.forall_mem_cons.mpr ⟨hinv.1, hinv.2⟩⟩)
    ⟨fun _ _ hprocess => absurd hprocess.symm (some_ne_none _),
      fun _ hevent => absurd hevent List.not_mem_nil⟩ hpathless
  rintro event hevent ⟨id, answer, settings, confirmedTo, rest, fromBlock,
    toBlock, -, hprocess, -, query, hquery, -⟩
  have hempty := hevents event hevent id _ hprocess
  rw [processWindow, if_pos hsource, processSourceWindow,
    if_pos (List.isEmpty_iff.mpr hempty)] at hquery
  exact absurd hquery List.not_mem_nil

def sampledChain : ChainSettings := ⟨40161, 5, 2⟩

/-- Only the executor's source stream is enabled, with windows of three blocks
and queries of two. -/
def sourceSettings (pathways : List Pathway) : IndexerSettings :=
  ⟨pathways, [], 3, 2, ⟨true, false, false, false⟩⟩

/-- Every query of the turn is answered with the logs. -/
def answeredTurn (logs : Except String (List Log)) : IndexerLabel :=
  .turn 0 ⟨none, fun _ => ⟨false, logs, fun _ _ => .ok false⟩, .answered⟩

/-- A pass that finishes its window. -/
def onePass (logs : List Log) : List IndexerLabel :=
  .observe 0 (.ok 10) :: List.replicate 4 (answeredTurn (.ok logs))

/-- After the given labels, a process finishes a window with a log and the
window behind it. -/
def twoPasses (pathways : List Pathway) (earlier : List IndexerLabel) : List IndexerLabel :=
  [.store (.work (.syncConfig ⟨[40161], []⟩)), .start 0 (sourceSettings pathways)] ++ earlier ++
    onePass [⟨.ofNat 20 0x44, [], [], 6, .ofNat 32 0xaa, .ofNat 32 0xbb, 0⟩] ++ onePass []

def sampledPathway : Pathway where
  route := ⟨40161, 40449, .ofNat 20 0x11, .ofNat 20 0x22⟩
  enabled := true
  openDVN := .ofNat 20 0x33

/-- A first try of the window times out. -/
theorem watched_cursor_covers : ∃ history final, IndexerRun sampledChain history final ∧
      cursorAt sampledChain.eid final.db .executorSource = some 8 ∧
      ∀ block, 5 ≤ block → block ≤ 8 → ∃ event ∈ history, Queried event .executorSource block ∨
          Unwatched event .executorSource block := by
  have hperformed : (perform (indexerExec sampledChain) (fun _ _ => true)
      IndexerWorld.initial (twoPasses [sampledPathway] [.observe 0 (.ok 10), answeredTurn (.ok []),
        answeredTurn (.error "timeout")]).reverse).any (fun world =>
          cursorAt sampledChain.eid world.db .executorSource = some 8) = true := by
    decide +kernel
  obtain ⟨history, final, hrun, -, -, hcursor⟩ := exists_run_of_perform hperformed
  have hlast := of_decide_eq_true hcursor
  exact ⟨history, final, hrun, hlast, ((cursor_covers_blocks hrun .executorSource).2.1 8 hlast).2⟩

/-- Without source pathways the cursor of the source stream advances over
blocks that were in no query. -/
theorem pathless_cursor_advances : ∃ history final, IndexerRun sampledChain history final ∧
      cursorAt sampledChain.eid final.db .executorSource = some 8 ∧
      ∀ block, ∀ event ∈ history, ¬ Queried event .executorSource block := by
  have hperformed : (perform (indexerExec sampledChain)
      (fun _ label => startsPathless label) IndexerWorld.initial
      (twoPasses [] []).reverse).any (fun world =>
        cursorAt sampledChain.eid world.db .executorSource = some 8) =
      true := by
    decide +kernel
  obtain ⟨history, final, hrun, -, hallowed, hcursor⟩ := exists_run_of_perform hperformed
  exact ⟨history, final, hrun, of_decide_eq_true hcursor, fun block =>
    source_unqueried hrun hallowed rfl block⟩

end Lazier.Indexer
