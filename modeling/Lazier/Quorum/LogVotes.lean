import Lazier.Quorum.Windows

/-!
# Votes on log windows

`FilterLogs` asks every provider that had reached the end of the window, asks
those outside the majority once more, and returns a window only if a majority
of the configured providers stands behind it.  The answers of both rounds, and
the orders in which Go visits the vote counts, are inputs.
-/

namespace Lazier.Quorum

open Library Store List Finset

/-! ## One call -/

/-- One use of `queryLogWindow`: a failed request is repeated once. -/
structure WindowProbe where
  first : Option Window
  retry : Option Window

def WindowProbe.answer (probe : WindowProbe) : Option Window := probe.first.or probe.retry

/-- The two rounds of one call. -/
structure WindowRounds (total : ℕ) where
  first : Fin total → WindowProbe
  second : Fin total → WindowProbe
  firstVisit : List String → List String
  secondVisit : List String → List String
  firstVisits : ∀ keys, (firstVisit keys).Perm keys
  secondVisits : ∀ keys, (secondVisit keys).Perm keys

structure WindowResult where
  logs : List WindowLog
  fingerprint : String

inductive WindowError
  | unbounded
  | noSnapshot (chainName : String)
  | beyondHead (toBlock head : ℕ) (chainName : String)
  | noProviders
  | quorumUnavailable (chainName : String) (details : List String)
  | logConflict (chainName : String) (fromBlock toBlock : ℕ) (details : List String)
  | missing

structure LogQuery where
  fromBlock : Option ℕ
  toBlock : Option ℕ

section

variable (sha256 : Bytes → Hash)

def queryLogWindow (probe : WindowProbe) : Option WindowResult := probe.answer.map fun window =>
    let sorted := normalizeLogWindow window.1
    ⟨sorted, logWindowFingerprint sha256 sorted⟩

def majorityLogFingerprint (visit : List String → List String)
    (results : List (Option WindowResult)) : String × ℕ :=
  let fingerprints := results.filterMap (Option.map WindowResult.fingerprint)
  leading fingerprints.count "" (visit fingerprints.dedup)

variable {total : ℕ} (head : HeadSnapshot total) (toBlock : ℕ) (rounds : WindowRounds total)

/-- The providers whose recorded tip reaches the end of the window. -/
def participants : List (Fin total) := (List.finRange total).filter fun index =>
    (head.tips index).any (toBlock ≤ ·)

def firstResult (index : Fin total) : Option WindowResult :=
  queryLogWindow sha256 (rounds.first index)

def firstMajority : String × ℕ := majorityLogFingerprint rounds.firstVisit
    ((participants head toBlock).map (firstResult sha256 rounds))

/-- The responders that the second round asks again: those outside the
majority, or all when there is none. -/
def retried (index : Fin total) : Bool :=
  match firstResult sha256 rounds index with
  | none => false
  | some result =>
    decide (¬ (majority total ≤ (firstMajority sha256 head toBlock rounds).2 ∧
      result.fingerprint = (firstMajority sha256 head toBlock rounds).1))

def lastResult (index : Fin total) : Option WindowResult :=
  if retried sha256 head toBlock rounds index then
    queryLogWindow sha256 (rounds.second index)
  else firstResult sha256 rounds index

def lastMajority : String × ℕ :=
  if (participants head toBlock).any (retried sha256 head toBlock rounds) then
    majorityLogFingerprint rounds.secondVisit
      ((participants head toBlock).map (lastResult sha256 head toBlock rounds))
  else firstMajority sha256 head toBlock rounds

def windowConflictDetails : List String :=
  ((participants head toBlock).filterMap fun index =>
    (lastResult sha256 head toBlock rounds index).map fun result =>
      s!"{providerID index} returned window digest {result.fingerprint}").insertionSort
    (· ≤ ·)

/-- The vote on a bounded window at or below the head. -/
def voteOnWindow (chainName : String) (fromBlock : ℕ) : Except WindowError (List WindowLog) :=
  let quorum := majority total
  let voters := participants head toBlock
  if voters.length < quorum then
    .error (.quorumUnavailable chainName
      [s!"{voters.length} of {total} configured providers had reached block {toBlock} at the " ++
        s!"last head check, quorum is {quorum}"])
  else
    let successes := voters.countP fun index =>
      (lastResult sha256 head toBlock rounds index).isSome
    let best := lastMajority sha256 head toBlock rounds
    if successes < quorum then
      .error (.quorumUnavailable chainName
        [s!"{successes} of {total} configured providers answered the log window [{fromBlock}, " ++
          s!"{toBlock}], quorum is {quorum}"])
    else if best.2 < quorum then
      .error (.logConflict chainName fromBlock toBlock
        (windowConflictDetails sha256 head toBlock rounds))
    else
      match voters.findSome? fun index =>
          (lastResult sha256 head toBlock rounds index).filter fun result =>
            result.fingerprint = best.1 with
      | some result => .ok result.logs
      | none => .error .missing

/-- `FilterLogs`. -/
def filterLogs (chainName : String) (snapshot : Option (HeadSnapshot total))
    (query : LogQuery) : Except WindowError (List WindowLog) :=
  match query.fromBlock, query.toBlock with
  | some fromBlock, some toBlock =>
    match snapshot with
    | none => .error (.noSnapshot chainName)
    | some head =>
      if head.number < toBlock then
        .error (.beyondHead toBlock head.number chainName)
      else if total = 0 then .error .noProviders
      else voteOnWindow sha256 head toBlock rounds chainName fromBlock
  | _, _ => .error .unbounded

/-- The answer of a provider that the last count is made with. -/
def lastAnswer (index : Fin total) : Option Window :=
  if retried sha256 head toBlock rounds index then
    (rounds.second index).answer
  else (rounds.first index).answer

end

/-! ## Counting -/

variable {sha256 : Bytes → Hash} {total : ℕ} {head : HeadSnapshot total} {toBlock : ℕ}
  {rounds : WindowRounds total} {index : Fin total}

theorem mem_participants : index ∈ participants head toBlock ↔
      ∃ tip, head.tips index = some tip ∧ toBlock ≤ tip := by
  simp [participants, Option.any_eq_true]

theorem participants_nodup : (participants head toBlock).Nodup :=
  (nodup_finRange total).filter _

theorem lastResult_eq : lastResult sha256 head toBlock rounds index =
      (lastAnswer sha256 head toBlock rounds index).map fun window =>
        ⟨normalizeLogWindow window.1,
          logWindowFingerprint sha256 (normalizeLogWindow window.1)⟩ := by
  unfold lastResult lastAnswer firstResult queryLogWindow
  split <;> rfl

/-- The participants that a list of results counts for a fingerprint. -/
def backers (head : HeadSnapshot total) (toBlock : ℕ)
    (results : Fin total → Option WindowResult) (fingerprint : String) : Finset (Fin total) :=
  ((participants head toBlock).filter fun index =>
    (results index).any (·.fingerprint = fingerprint)).toFinset

variable {results : Fin total → Option WindowResult} {fingerprint : String}

theorem mem_backers : index ∈ backers head toBlock results fingerprint ↔
      index ∈ participants head toBlock ∧ ∃ result,
        results index = some result ∧ result.fingerprint = fingerprint := by
  simp [backers, Option.any_eq_true]

/-- The fingerprints that are counted. -/
def ballots (head : HeadSnapshot total) (toBlock : ℕ)
    (results : Fin total → Option WindowResult) : List String :=
  ((participants head toBlock).map results).filterMap (Option.map WindowResult.fingerprint)

theorem count_ballots : (ballots head toBlock results).count fingerprint =
      (backers head toBlock results fingerprint).card := by
  rw [backers, toFinset_card_of_nodup (participants_nodup.filter _),
    ballots, filterMap_map, List.count, countP_filterMap, countP_eq_length_filter]
  congr 1
  refine filter_congr fun index _ => ?_
  rw [Function.comp_apply]
  rcases results index with _ | result
  · rfl
  · by_cases hvote : result.fingerprint = fingerprint <;> simp [hvote]

theorem length_ballots_le (results : Fin total → Option WindowResult) :
    (ballots head toBlock results).length ≤ total := by
  refine (length_filterMap_le _ _).trans ?_
  rw [length_map, participants]
  exact (length_filter_le _ _).trans_eq length_finRange

theorem majorityLogFingerprint_eq {visit : List String → List String} :
    majorityLogFingerprint visit ((participants head toBlock).map results) =
      leading (ballots head toBlock results).count ""
        (visit (ballots head toBlock results).dedup) := rfl

variable {visit : List String → List String}

theorem majority_backed {best : String × ℕ}
    (hbest : majorityLogFingerprint visit ((participants head toBlock).map results) = best)
    (hquorum : majority total ≤ best.2) :
    majority total ≤ (backers head toBlock results best.1).card := by
  have hpos : 0 < majority total := Nat.succ_pos _
  have hcases := leading_count (ballots head toBlock results).count ""
    (visit (ballots head toBlock results).dedup)
  rw [← majorityLogFingerprint_eq, hbest] at hcases
  rw [← count_ballots]
  rcases hcases with hzero | ⟨-, hcount⟩
  · omega
  · exact hquorum.trans_eq hcount

theorem majority_found (hvisit : ∀ keys, (visit keys).Perm keys)
    (hbacked : majority total ≤ (backers head toBlock results fingerprint).card) :
    (majorityLogFingerprint visit ((participants head toBlock).map results)).1 = fingerprint ∧
      majority total ≤ (majorityLogFingerprint visit
        ((participants head toBlock).map results)).2 := by
  rw [← count_ballots] at hbacked
  have hlength := @length_ballots_le _ head toBlock results
  have hhalf : (ballots head toBlock results).length <
      2 * (ballots head toBlock results).count fingerprint := by
    unfold majority at hbacked
    omega
  obtain ⟨hfirst, hcount⟩ := leading_of_majority ""
    (fun other hother => (hvisit _).mem_iff.mpr (mem_dedup.mpr hother)) hhalf
  rw [majorityLogFingerprint_eq]
  exact ⟨hfirst, hbacked.trans hcount⟩

theorem lastMajority_backed
    (hquorum : majority total ≤ (lastMajority sha256 head toBlock rounds).2) :
    majority total ≤ (backers head toBlock (lastResult sha256 head toBlock rounds)
      (lastMajority sha256 head toBlock rounds).1).card := by
  unfold lastMajority at hquorum ⊢
  split at hquorum
  · rename_i hretried
    rw [if_pos hretried]
    exact majority_backed rfl hquorum
  · rename_i hnone
    rw [if_neg hnone]
    refine (majority_backed rfl hquorum).trans (card_le_card ?_)
    intro index hindex
    rw [mem_backers] at hindex ⊢
    obtain ⟨hparticipant, hresult⟩ := hindex
    have hkept : retried sha256 head toBlock rounds index = false := by
      rw [any_eq_true] at hnone
      exact Bool.eq_false_of_not_eq_true fun hretried =>
        hnone ⟨index, hparticipant, hretried⟩
    refine ⟨hparticipant, ?_⟩
    rw [lastResult, hkept]
    exact hresult

/-! ## Returned windows -/

/-- A window that some provider returned in this call. -/
def Answered (rounds : WindowRounds total) (window : Window) : Prop :=
  ∃ index, (rounds.first index).answer = some window ∨ (rounds.second index).answer = some window

/-- SHA-256 keeps the answers of this call apart. -/
def CollisionFree (sha256 : Bytes → Hash) (rounds : WindowRounds total) : Prop :=
  ∀ left right, Answered rounds left → Answered rounds right →
    sha256 (encodeWindow (normalizeLogWindow left.1)) =
      sha256 (encodeWindow (normalizeLogWindow right.1)) →
    encodeWindow (normalizeLogWindow left.1) = encodeWindow (normalizeLogWindow right.1)

theorem answered_of_lastAnswer {window : Window}
    (hanswer : lastAnswer sha256 head toBlock rounds index = some window) :
    Answered rounds window := by
  unfold lastAnswer at hanswer
  split at hanswer
  · exact ⟨index, .inr hanswer⟩
  · exact ⟨index, .inl hanswer⟩

theorem normalize_eq_of_fingerprint (hcollision : CollisionFree sha256 rounds)
    {left right : Window} (hleft : Answered rounds left) (hright : Answered rounds right)
    (heq : logWindowFingerprint sha256 (normalizeLogWindow left.1) =
      logWindowFingerprint sha256 (normalizeLogWindow right.1)) :
    normalizeLogWindow left.1 = normalizeLogWindow right.1 := by
  refine eq_of_fingerprint ?_ ?_ (hcollision left right hleft hright) heq
  · rw [(normalizeLogWindow_perm left.1).length_eq]
    exact left.2
  · rw [(normalizeLogWindow_perm right.1).length_eq]
    exact right.2

/-- A returned window is the normal form of an answer that carries the last
majority. -/
theorem voteOnWindow_ok {chainName : String} {fromBlock : ℕ} {logs : List WindowLog}
    (hok : voteOnWindow sha256 head toBlock rounds chainName fromBlock = .ok logs) :
    majority total ≤ (lastMajority sha256 head toBlock rounds).2 ∧
      ∃ window, Answered rounds window ∧ logs = normalizeLogWindow window.1 ∧
        (lastMajority sha256 head toBlock rounds).1 =
          logWindowFingerprint sha256 (normalizeLogWindow window.1) := by
  unfold voteOnWindow at hok
  dsimp only at hok
  split_ifs at hok with hvoters hsuccesses hbest
  refine ⟨Nat.le_of_not_lt hbest, ?_⟩
  split at hok
  swap
  · cases hok
  rename_i result hfound
  cases hok
  obtain ⟨index, -, hresult⟩ := exists_of_findSome?_eq_some hfound
  obtain ⟨hlast, hmajority⟩ := Option.filter_eq_some_iff.mp hresult
  rw [lastResult_eq] at hlast
  obtain ⟨window, hanswer, rfl⟩ := Option.map_eq_some_iff.mp hlast
  exact ⟨window, answered_of_lastAnswer hanswer, rfl, (of_decide_eq_true hmajority).symm⟩

/-! ## Agreeing majorities -/

/-- The provider had reached the window and answers with the logs of `base` in
some order, whenever it is asked. -/
structure Serves (head : HeadSnapshot total) (toBlock : ℕ)
    (rounds : WindowRounds total) (base : List WindowLog) (index : Fin total) : Prop where
  reached : ∃ tip, head.tips index = some tip ∧ toBlock ≤ tip
  first : ∃ window, (rounds.first index).answer = some window ∧ window.1.Perm base
  second : ∃ window, (rounds.second index).answer = some window ∧ window.1.Perm base

section Agreement

variable {base : List WindowLog} {agreeing : Finset (Fin total)}
  (hdistinct : base.Pairwise fun log other => logKey log ≠ logKey other)
  (henough : majority total ≤ agreeing.card)
  (hserves : ∀ index ∈ agreeing, Serves head toBlock rounds base index)

include hdistinct

theorem firstResult_of_serves (hserves : Serves head toBlock rounds base index) :
    firstResult sha256 rounds index = some ⟨normalizeLogWindow base,
      logWindowFingerprint sha256 (normalizeLogWindow base)⟩ := by
  obtain ⟨window, hanswer, hperm⟩ := hserves.first
  rw [firstResult, queryLogWindow, hanswer, Option.map_some,
    normalizeLogWindow_eq_of_perm (keysIdentify_of_distinct hdistinct) hperm]

include henough hserves

theorem firstMajority_of_serves : (firstMajority sha256 head toBlock rounds).1 =
        logWindowFingerprint sha256 (normalizeLogWindow base) ∧
      majority total ≤ (firstMajority sha256 head toBlock rounds).2 := by
  refine majority_found rounds.firstVisits (henough.trans (card_le_card ?_))
  intro index hindex
  have hserve := hserves index hindex
  exact mem_backers.mpr ⟨mem_participants.mpr hserve.reached, _,
    firstResult_of_serves hdistinct hserve, rfl⟩

theorem lastResult_of_serves (hindex : index ∈ agreeing) :
    lastResult sha256 head toBlock rounds index = some ⟨normalizeLogWindow base,
        logWindowFingerprint sha256 (normalizeLogWindow base)⟩ := by
  obtain ⟨hfirst, hquorum⟩ := @firstMajority_of_serves sha256 _ _ _ _ _ _ hdistinct henough hserves
  have hresult := @firstResult_of_serves sha256 _ _ _ _ _ _ hdistinct (hserves index hindex)
  have hkept : retried sha256 head toBlock rounds index = false := by
    rw [retried, hresult]
    exact decide_eq_false (not_not.mpr ⟨hquorum, hfirst.symm⟩)
  rw [lastResult, hkept]
  exact hresult

theorem agreeing_subset_backers : agreeing ⊆ backers head toBlock
    (lastResult sha256 head toBlock rounds)
    (logWindowFingerprint sha256 (normalizeLogWindow base)) := by
  intro index hindex
  exact mem_backers.mpr
    ⟨mem_participants.mpr (hserves index hindex).reached, _,
      lastResult_of_serves hdistinct henough hserves hindex, rfl⟩

theorem lastMajority_of_serves : (lastMajority sha256 head toBlock rounds).1 =
        logWindowFingerprint sha256 (normalizeLogWindow base) ∧
      majority total ≤ (lastMajority sha256 head toBlock rounds).2 := by
  unfold lastMajority
  split
  · exact majority_found rounds.secondVisits (henough.trans
      (card_le_card (agreeing_subset_backers hdistinct henough hserves)))
  · exact firstMajority_of_serves hdistinct henough hserves

theorem voteOnWindow_of_serves (hcollision : CollisionFree sha256 rounds)
    (chainName : String) (fromBlock : ℕ) :
    voteOnWindow sha256 head toBlock rounds chainName fromBlock =
      .ok (normalizeLogWindow base) := by
  obtain ⟨hmajority, hquorum⟩ :=
    @lastMajority_of_serves sha256 _ _ _ _ _ _ hdistinct henough hserves
  have hbackers := @agreeing_subset_backers sha256 _ _ _ _ _ _ hdistinct henough hserves
  obtain ⟨witness, hwitness⟩ := card_pos.mp ((Nat.succ_pos _).trans_le henough)
  have hparticipant : ∀ index ∈ agreeing, index ∈ participants head toBlock := fun index hindex =>
    mem_participants.mpr (hserves index hindex).reached
  have hresult := fun index (hindex : index ∈ agreeing) =>
    @lastResult_of_serves sha256 _ _ _ _ _ _ _ hdistinct henough hserves hindex
  have hvoters : ¬ (participants head toBlock).length < majority total := by
    refine Nat.not_lt.mpr (henough.trans ?_)
    refine le_trans ?_ (@countP_le_length _ (fun _ => true) _)
    exact card_le_countP fun index hindex => ⟨hparticipant index hindex, rfl⟩
  have hsuccesses : ¬ ((participants head toBlock).countP fun index =>
      (lastResult sha256 head toBlock rounds index).isSome) < majority total := by
    refine Nat.not_lt.mpr (henough.trans ?_)
    refine card_le_countP fun index hindex => ⟨hparticipant index hindex, ?_⟩
    rw [hresult index hindex]
    rfl
  unfold voteOnWindow
  dsimp only
  rw [if_neg hvoters, if_neg hsuccesses, if_neg (Nat.not_lt.mpr hquorum), hmajority]
  split
  · rename_i result hfound
    obtain ⟨index, -, hchosen⟩ := exists_of_findSome?_eq_some hfound
    obtain ⟨hlast, hfingerprint⟩ := Option.filter_eq_some_iff.mp hchosen
    rw [lastResult_eq] at hlast
    obtain ⟨window, hanswer, rfl⟩ := Option.map_eq_some_iff.mp hlast
    obtain ⟨served, hserved, hperm⟩ := (hserves witness hwitness).first
    have hnormal := normalizeLogWindow_eq_of_perm (keysIdentify_of_distinct hdistinct) hperm
    rw [← hnormal] at hfingerprint ⊢
    exact congrArg Except.ok (normalize_eq_of_fingerprint hcollision
      (answered_of_lastAnswer hanswer) ⟨witness, .inl hserved⟩ (of_decide_eq_true hfingerprint))
  · rename_i hnone
    have hmissing := List.findSome?_eq_none_iff.mp hnone witness (hparticipant witness hwitness)
    rw [hresult witness hwitness] at hmissing
    simp at hmissing

end Agreement

/-- A window that `FilterLogs` returns is the normal form of the last counted
answers of a majority of the configured providers, all of which had reached
its end.  A majority that keeps answering with the same logs, in any order,
has them returned in canonical order, whatever the other providers do. -/
theorem log_windows_are_majorities {total : ℕ} {sha256 : Bytes → Hash}
    {rounds : WindowRounds total} (hcollision : CollisionFree sha256 rounds)
    (chainName : String) (head : HeadSnapshot total) (fromBlock toBlock : ℕ) :
    (∀ logs, filterLogs sha256 rounds chainName (some head)
        ⟨some fromBlock, some toBlock⟩ = .ok logs →
      ∃ providers : Finset (Fin total), majority total ≤ providers.card ∧ ∀ index ∈ providers,
          (∃ tip, head.tips index = some tip ∧ toBlock ≤ tip) ∧
          ∃ answer, lastAnswer sha256 head toBlock rounds index = some answer ∧
            normalizeLogWindow answer.1 = logs) ∧
    (toBlock ≤ head.number → ∀ base : List WindowLog,
      (base.Pairwise fun log other => ¬ (log.blockNumber = other.blockNumber ∧
        log.txIndex = other.txIndex ∧ log.index = other.index ∧ log.blockHash = other.blockHash)) →
      ∀ agreeing : Finset (Fin total), majority total ≤ agreeing.card →
        (∀ index ∈ agreeing, Serves head toBlock rounds base index) →
        filterLogs sha256 rounds chainName (some head)
          ⟨some fromBlock, some toBlock⟩ = .ok (normalizeLogWindow base)) := by
  constructor
  · intro logs hok
    unfold filterLogs at hok
    dsimp only at hok
    split_ifs at hok with hbeyond htotal
    obtain ⟨hquorum, window, hwindow, rfl, hmajority⟩ := voteOnWindow_ok hok
    have hbacked := lastMajority_backed hquorum
    rw [hmajority] at hbacked
    refine ⟨_, hbacked, fun index hindex => ?_⟩
    obtain ⟨hparticipant, result, hresult, hfingerprint⟩ := mem_backers.mp hindex
    rw [lastResult_eq] at hresult
    obtain ⟨answer, hanswer, rfl⟩ := Option.map_eq_some_iff.mp hresult
    exact ⟨mem_participants.mp hparticipant, answer, hanswer,
      normalize_eq_of_fingerprint hcollision (answered_of_lastAnswer hanswer) hwindow hfingerprint⟩
  · intro hhead base hdistinct agreeing henough hserves
    have hkeys : base.Pairwise fun log other => logKey log ≠ logKey other := by
      simpa only [logKey, ne_eq, toLex_inj, Prod.mk.injEq, UInt64.toNat_inj,
        FixedBytes.hex_injective.eq_iff] using hdistinct
    have htotal : ¬ total = 0 := by
      rintro rfl
      have hcard := card_le_univ agreeing
      rw [Fintype.card_fin] at hcard
      exact absurd (henough.trans hcard) (by decide)
    unfold filterLogs
    dsimp only
    rw [if_neg (Nat.not_lt.mpr hhead), if_neg htotal]
    exact voteOnWindow_of_serves hkeys henough hserves hcollision chainName fromBlock

/-! ## A dropped log -/

def transferLog (index : UInt64) : WindowLog where
  blockNumber := 5
  blockHash := .ofNat 32 0xb5
  txIndex := 1
  txHash := .ofNat 32 0xaa
  index
  address := .ofNat 20 0x44
  topics := [FixedBytes.ofNat 32 0x1ab7]
  data := [1, 2]
  removed := false
  topicsFit := by decide
  dataFit := by decide

def emptyWindow : Window := ⟨[], by decide⟩

/-- SHA-256 on the windows of no log, the first one and both. -/
def windowDigest (bytes : Bytes) : Hash :=
  if bytes = encodeWindow [] then
    .ofNat 32 0xaf5570f5a1810b7af78caf4bc70a660f0df51e42baf91d4de5b2328de0e83dfc
  else if bytes = encodeWindow [transferLog 2] then
    .ofNat 32 0xfa4ab5603332df3deff5c9e205c79b0bbb871309985811ec1c559e17f567aaff
  else if bytes = encodeWindow [transferLog 2, transferLog 3] then
    .ofNat 32 0x1c760e0d91e1ac7c6c4f95e36b2d252c64b64044abe4c7d82a2c15f4f3d477cb
  else Hash.zero

/-- Two providers return both logs, in either order, and the third drops one. -/
def servedWindow : Fin 3 → Window
  | 0 => ⟨[transferLog 2, transferLog 3], by decide⟩
  | 1 => ⟨[transferLog 3, transferLog 2], by decide⟩
  | 2 => ⟨[transferLog 2], by decide⟩

/-- The answers of the second round come at the second try. -/
def droppedLog : WindowRounds 3 where
  first index := ⟨some (servedWindow index), none⟩
  second index := ⟨none, some (servedWindow index)⟩
  firstVisit := id
  secondVisit := List.reverse
  firstVisits _ := List.Perm.refl _
  secondVisits := reverse_perm

def reachedHead : HeadSnapshot 3 where
  number := 6
  hash := .ofNat 32 0xb6
  tips _ := some 6

theorem droppedLog_collisionFree : CollisionFree windowDigest droppedLog := by
  have hserved : ∀ {window}, Answered droppedLog window → ∃ index, servedWindow index = window := by
    rintro window ⟨index, hanswer | hanswer⟩ <;> exact ⟨index, Option.some.inj hanswer⟩
  have hdiffer : ∀ index other, windowDigest (encodeWindow (normalizeLogWindow
        (servedWindow index).1)) =
      windowDigest (encodeWindow (normalizeLogWindow (servedWindow other).1)) →
        encodeWindow (normalizeLogWindow (servedWindow index).1) =
          encodeWindow (normalizeLogWindow (servedWindow other).1) := by decide +kernel
  intro left right hleft hright
  obtain ⟨index, rfl⟩ := hserved hleft
  obtain ⟨other, rfl⟩ := hserved hright
  exact hdiffer index other

theorem droppedLog_outvoted : CollisionFree windowDigest droppedLog ∧
      filterLogs windowDigest droppedLog "sample" (some reachedHead) ⟨some 0, some 5⟩ =
        .ok [transferLog 2, transferLog 3] := by
  refine ⟨droppedLog_collisionFree, ?_⟩
  refine (log_windows_are_majorities droppedLog_collisionFree "sample" reachedHead 0 5).2
    (by decide) [transferLog 2, transferLog 3] (by decide) {0, 1} (by decide) ?_
  intro index hindex
  have hserved : (servedWindow index).1.Perm [transferLog 2, transferLog 3] := by
    fin_cases hindex
    · exact .refl _
    · exact .swap _ _ _
  exact ⟨⟨6, rfl, by decide⟩, ⟨_, rfl, hserved⟩, ⟨_, rfl, hserved⟩⟩

/-! ## A window above the head -/

/-- Three providers on forks at height 9 and two at height 5, where all five
agree. -/
def forkedTips : HeadAnswers 5 where
  latest index :=
    if index < 3 then some ⟨some 9, .ofNat 32 (0x90 + index)⟩
    else some ⟨some 5, .ofNat 32 0xb5⟩
  headerAt _ height :=
    if height = 5 then some (.ofNat 32 0xb5) else none

def emptyRounds : WindowRounds 5 where
  first _ := ⟨some emptyWindow, none⟩
  second _ := ⟨some emptyWindow, none⟩
  firstVisit := id
  secondVisit := id
  firstVisits _ := List.Perm.refl _
  secondVisits _ := List.Perm.refl _

/-- After the vote stepped down a majority has tips above the accepted head,
and a window that ends between the two is refused. -/
theorem forkedTips_window_refused : ∃ head, (checkHead forkedTips "sample").snapshot = some head ∧
      majority 5 ≤ ({0, 1, 2} : Finset (Fin 5)).card ∧
      (∀ index ∈ ({0, 1, 2} : Finset (Fin 5)), Serves head 7 emptyRounds [] index) ∧
      filterLogs windowDigest emptyRounds "sample" (some head)
        ⟨some 0, some 7⟩ = .error (.beyondHead 7 5 "sample") := by
  have hsnapshot : (checkHead forkedTips "sample").snapshot.any (fun head =>
      decide (head.number = 5 ∧ ∀ index ∈ ({0, 1, 2} : Finset (Fin 5)),
        head.tips index = some 9)) = true := by decide +kernel
  obtain ⟨head, hhead, hfacts⟩ := (Option.any_eq_true _ _).mp hsnapshot
  obtain ⟨hnumber, htips⟩ := of_decide_eq_true hfacts
  refine ⟨head, hhead, by decide, ?_, ?_⟩
  · intro index hindex
    exact ⟨⟨9, htips index hindex, by decide⟩, ⟨emptyWindow, rfl, List.Perm.refl _⟩,
      ⟨emptyWindow, rfl, List.Perm.refl _⟩⟩
  · unfold filterLogs
    dsimp only
    rw [hnumber]
    rfl

end Lazier.Quorum
