import Lazier.Quorum.Head

/-!
# Provider health

`CheckHead` collects the new statuses in a map and writes them over the stored
ones at the end.  A provider that the map does not name would keep the status
of an earlier round.  Here the map is followed write by write: every exit of
the round names every provider, so the stored statuses are forgotten.
-/

namespace Lazier.Quorum

open Library Store

/-- The `statuses` of a round, which need not name every provider. -/
abbrev StatusMap (total : ℕ) := Fin total → Option ProviderStatus

namespace StatusMap

variable {total : ℕ}

/-- A loop that writes the status of some providers. -/
def write (statuses writes : StatusMap total) : StatusMap total := fun index =>
  (writes index).or (statuses index)

/-- `markUnverifiedUnavailable`. -/
def markUnverifiedUnavailable (statuses : StatusMap total) :
    StatusMap total := fun index => (statuses index).or (some .unavailable)

/-- `applyProviderStatuses`. -/
def applyProviderStatuses (statuses : StatusMap total)
    (stored : Fin total → ProviderStatus) : Fin total → ProviderStatus :=
  fun index => (statuses index).getD (stored index)

end StatusMap

/-! ## The writes of one round -/

section

variable {total : ℕ} (answers : HeadAnswers total)

def tipNumber (index : Fin total) : Option ℕ := (tip answers index).map Prod.fst

/-- The loop over the tip probes. -/
def probeStatuses : StatusMap total := fun index =>
  if (tipNumber answers index).isNone then some .unavailable else none

/-- The loop over the votes at the accepted height. -/
def voteWrites (accepted : Accepted) : StatusMap total := fun index =>
  (votesAt answers accepted.height index).map fun hash =>
    if hash = accepted.hash then .healthy else .conflict

/-- The loop over the fetched headers that did not become votes. -/
def fetchWrites (accepted : Accepted) : StatusMap total := fun index =>
  if (tipNumber answers index).any (accepted.height < ·) ∧
      votesAt answers accepted.height index = none then
    some .unavailable
  else none

/-- The loop over the tips below the accepted height. -/
def laggingWrites (accepted : Accepted) : StatusMap total := fun index =>
  if (tipNumber answers index).any (· < accepted.height) then some .lagging
  else none

/-- The loop over the healthy providers ahead of a height that was only
reached by stepping down. -/
def divergentWrites (accepted : Accepted) (statuses : StatusMap total) :
    StatusMap total := fun index =>
  if (tipNumber answers index).any (accepted.height < ·) ∧ statuses index = some .healthy then
    some .unavailable
  else none

/-- The map once the loops over votes, fetches and tips are through. -/
def votedStatuses (accepted : Accepted) : StatusMap total :=
  (((probeStatuses answers).write (voteWrites answers accepted)).write
    (fetchWrites answers accepted)).write (laggingWrites answers accepted)

def acceptedStatuses (accepted : Accepted) : StatusMap total :=
  if 0 < accepted.level then
    (votedStatuses answers accepted).write
      (divergentWrites answers accepted (votedStatuses answers accepted))
  else votedStatuses answers accepted

/-- The loop over the votes of the first level after a head conflict. -/
def conflictWrites (height : ℕ) : StatusMap total := fun index =>
  (votesAt answers height index).map fun _ => .conflict

/-- The status map that a round ends with. -/
def roundStatuses : StatusMap total :=
  if (tipNumbers answers).length < majority total then
    (probeStatuses answers).markUnverifiedUnavailable
  else
    match stepDown answers 0 (candidateHeights answers) with
    | some accepted => acceptedStatuses answers accepted
    | none =>
      let first := (candidateHeights answers).headD 0
      if voteCount answers first < majority total then
        (probeStatuses answers).markUnverifiedUnavailable
      else
        ((probeStatuses answers).write (conflictWrites answers first)).markUnverifiedUnavailable

/-- The stored statuses after one call of `CheckHead`. -/
def storedStatuses (stored : Fin total → ProviderStatus) : Fin total → ProviderStatus :=
  (roundStatuses answers).applyProviderStatuses stored

/-! ## Every provider is named -/

theorem probeStatuses_marked (index : Fin total) :
    (probeStatuses answers).markUnverifiedUnavailable index = some .unavailable := by
  unfold StatusMap.markUnverifiedUnavailable probeStatuses
  split <;> rfl

section Accepted

variable {answers} {accepted : Accepted} {index : Fin total} {number : ℕ} {hash : Hash}

theorem tipNumber_of_tip (htip : tip answers index = some (number, hash)) :
    tipNumber answers index = some number := by
  rw [tipNumber, htip]
  rfl

theorem votesAt_of_silent (htip : tip answers index = none) (height : ℕ) :
    votesAt answers height index = none := by
  rw [votesAt, htip]

theorem ahead_of_no_vote (htip : tip answers index = some (number, hash))
    {height : ℕ} (hreached : ¬ number < height)
    (hvote : votesAt answers height index = none) : height < number := by
  rw [votesAt, htip] at hvote
  dsimp only at hvote
  rw [if_neg hreached] at hvote
  by_cases hheight : number = height
  · rw [if_pos hheight] at hvote
    cases hvote
  · omega

theorem reached_of_vote (htip : tip answers index = some (number, hash)) {height : ℕ} {vote : Hash}
    (hvote : votesAt answers height index = some vote) : ¬ number < height := by
  intro hlag
  rw [votesAt, htip] at hvote
  dsimp only at hvote
  rw [if_pos hlag] at hvote
  cases hvote

theorem votedStatuses_silent (htip : tip answers index = none) :
    votedStatuses answers accepted index = some .unavailable := by
  simp [votedStatuses, StatusMap.write, probeStatuses, voteWrites,
    fetchWrites, laggingWrites, tipNumber, htip, votesAt_of_silent htip]

theorem votedStatuses_lagging (htip : tip answers index = some (number, hash))
    (hlag : number < accepted.height) : votedStatuses answers accepted index = some .lagging := by
  simp [votedStatuses, StatusMap.write, laggingWrites, tipNumber_of_tip htip, hlag]

theorem votedStatuses_failed (htip : tip answers index = some (number, hash))
    (hreached : ¬ number < accepted.height) (hvote : votesAt answers accepted.height index = none) :
    votedStatuses answers accepted index = some .unavailable := by
  simp [votedStatuses, StatusMap.write, laggingWrites, fetchWrites,
    tipNumber_of_tip htip, hreached, hvote, ahead_of_no_vote htip hreached hvote]

theorem votedStatuses_voted (htip : tip answers index = some (number, hash))
    {vote : Hash} (hvote : votesAt answers accepted.height index = some vote) :
    votedStatuses answers accepted index =
      some (if vote = accepted.hash then .healthy else .conflict) := by
  simp [votedStatuses, StatusMap.write, laggingWrites, fetchWrites,
    voteWrites, tipNumber_of_tip htip, reached_of_vote htip hvote, hvote]

/-- The last loop touches the healthy providers only. -/
theorem acceptedStatuses_of_not_healthy {status : ProviderStatus}
    (hstatus : votedStatuses answers accepted index = some status) (hnot : status ≠ .healthy) :
    acceptedStatuses answers accepted index = some status := by
  rw [acceptedStatuses]
  split
  · simp [StatusMap.write, divergentWrites, hstatus, hnot]
  · exact hstatus

theorem acceptedStatuses_of_healthy (htip : tip answers index = some (number, hash))
    (hstatus : votedStatuses answers accepted index = some .healthy) :
    acceptedStatuses answers accepted index =
      some (if 0 < accepted.level ∧ accepted.height < number then
        .unavailable else .healthy) := by
  rw [acceptedStatuses]
  by_cases hlevel : 0 < accepted.level
  · by_cases hahead : accepted.height < number <;>
      simp [StatusMap.write, divergentWrites, tipNumber_of_tip htip, hstatus, hlevel, hahead]
  · simp [hlevel, hstatus]

/-- After an accepted vote the map holds the classification of the round. -/
theorem acceptedStatuses_eq (accepted : Accepted) (index : Fin total) :
    acceptedStatuses answers accepted index = some (acceptedStatus answers accepted index) := by
  unfold acceptedStatus
  rcases htip : tip answers index with _ | ⟨number, hash⟩
  · exact acceptedStatuses_of_not_healthy (votedStatuses_silent htip) nofun
  dsimp only
  split
  · rename_i hlag
    exact acceptedStatuses_of_not_healthy (votedStatuses_lagging htip hlag)
      nofun
  rename_i hreached
  rcases hvote : votesAt answers accepted.height index with _ | vote
  · exact acceptedStatuses_of_not_healthy (votedStatuses_failed htip hreached hvote) nofun
  have hvoted := votedStatuses_voted htip hvote
  dsimp only
  by_cases hhash : vote = accepted.hash
  · rw [if_pos hhash] at hvoted
    rw [if_neg (not_not.mpr hhash)]
    exact acceptedStatuses_of_healthy htip hvoted
  · rw [if_neg hhash] at hvoted
    rw [if_pos hhash]
    exact acceptedStatuses_of_not_healthy hvoted nofun

end Accepted

theorem conflictStatuses_eq (height : ℕ) (index : Fin total) :
    ((probeStatuses answers).write
        (conflictWrites answers height)).markUnverifiedUnavailable index =
      some (conflictStatus answers height index) := by
  unfold StatusMap.markUnverifiedUnavailable StatusMap.write conflictWrites conflictStatus
  rcases votesAt answers height index with _ | vote
  · unfold probeStatuses
    split <;> rfl
  · rfl

/-- The map of a round names every provider, with the status that `CheckHead`
leaves it with. -/
theorem roundStatuses_eq (chainName : String) (index : Fin total) : roundStatuses answers index =
      some ((checkHead answers chainName).statuses index) := by
  have htotal : ¬ total = 0 := (Nat.zero_lt_of_lt index.isLt).ne'
  unfold roundStatuses checkHead
  dsimp only
  rw [if_neg htotal]
  split
  · exact probeStatuses_marked answers index
  cases stepDown answers 0 (candidateHeights answers) with
  | some accepted => exact acceptedStatuses_eq accepted index
  | none =>
    dsimp only
    split
    · exact probeStatuses_marked answers index
    · exact conflictStatuses_eq answers _ index

theorem storedStatuses_eq (chainName : String) {stored : Fin total → ProviderStatus}
    {index : Fin total} :
    storedStatuses answers stored index = (checkHead answers chainName).statuses index := by
  rw [storedStatuses, StatusMap.applyProviderStatuses, roundStatuses_eq answers chainName index]
  rfl

end

/-! ## Health after a round -/

variable {answers : HeadAnswers total}

theorem candidateHeights_strict (answers : HeadAnswers total) :
    (candidateHeights answers).Pairwise (· > ·) :=
  (distinctRuns_strict ((tipNumbers_sorted answers).sublist (List.drop_sublist _ _))
    fun _ _ top htop => absurd htop (Option.not_mem_none top)).1

/-- The level is raised exactly when the first candidate was passed over. -/
theorem stepDown_level {level : ℕ} {heights : List ℕ} {accepted : Accepted}
    (hstep : stepDown answers level heights = some accepted) :
    (accepted.level = level ∧ heights.head? = some accepted.height) ∨
      (level < accepted.level ∧ accepted.height ∈ heights.tail) := by
  induction heights generalizing level with
  | nil => cases hstep
  | cons first rest ih =>
    rw [stepDown] at hstep
    split at hstep
    · cases hstep
      exact .inl ⟨rfl, rfl⟩
    · refine .inr ?_
      rcases ih hstep with ⟨hlevel, hhead⟩ | ⟨hlevel, htail⟩
      · exact ⟨by omega, List.mem_of_mem_head? hhead⟩
      · exact ⟨by omega, List.mem_of_mem_tail htail⟩

theorem level_eq_zero_iff {accepted : Accepted}
    (hstep : stepDown answers 0 (candidateHeights answers) = some accepted) : accepted.level = 0 ↔
      (candidateHeights answers).head? = some accepted.height := by
  rcases stepDown_level hstep with ⟨hlevel, hhead⟩ | ⟨hlevel, htail⟩
  · exact iff_of_true hlevel hhead
  · refine iff_of_false (by omega) fun hhead => ?_
    have hstrict := candidateHeights_strict answers
    cases hheights : candidateHeights answers with
    | nil =>
      rw [hheights] at hhead
      cases hhead
    | cons first rest =>
      rw [hheights] at hhead htail hstrict
      cases hhead
      exact absurd ((List.pairwise_cons.mp hstrict).1 _ htail) (lt_irrefl _)

theorem acceptedStatus_healthy_iff {accepted : Accepted} {index : Fin total} :
    acceptedStatus answers accepted index = .healthy ↔
      votesAt answers accepted.height index = some accepted.hash ∧
        (accepted.level = 0 ∨ tipNumber answers index = some accepted.height) := by
  unfold acceptedStatus
  rcases htip : tip answers index with _ | ⟨number, hash⟩
  · simp [votesAt_of_silent htip]
  rw [tipNumber_of_tip htip]
  dsimp only
  split
  · rename_i hlag
    refine iff_of_false nofun fun hvoted => ?_
    exact reached_of_vote htip hvoted.1 hlag
  rename_i hreached
  rcases votesAt answers accepted.height index with _ | vote
  · exact iff_of_false nofun fun hvoted => nomatch hvoted.1
  dsimp only
  by_cases hhash : vote = accepted.hash
  · rw [if_neg (not_not.mpr hhash), hhash]
    split
    · refine iff_of_false nofun ?_
      rintro ⟨-, hlevel | hnumber⟩
      · omega
      · rw [Option.some.injEq] at hnumber
        omega
    · refine iff_of_true rfl ⟨rfl, ?_⟩
      rw [Option.some.injEq]
      omega
  · rw [if_pos hhash]
    exact iff_of_false nofun fun hvoted => hhash (Option.some.inj hvoted.1)

theorem checkHead_error_not_healthy {chainName : String} {err : HeadError}
    (hfailed : (checkHead answers chainName).result = .error err) (index : Fin total) :
    (checkHead answers chainName).statuses index ≠ .healthy := by
  unfold checkHead at hfailed ⊢
  dsimp only at hfailed ⊢
  split
  · nofun
  split
  · nofun
  rename_i htotal hresponded
  rw [if_neg htotal, if_neg hresponded] at hfailed
  split
  · rename_i hstep
    rw [hstep] at hfailed
    cases hfailed
  split
  · nofun
  · change conflictStatus answers _ index ≠ _
    unfold conflictStatus
    split <;> nofun

/-- A successful round and its statuses are those of one accepted vote. -/
theorem checkHead_accepted {chainName : String} {head : HeadResult}
    (hok : (checkHead answers chainName).result = .ok head) :
    ∃ accepted, stepDown answers 0 (candidateHeights answers) = some accepted ∧
      head = ⟨accepted.height, accepted.hash⟩ ∧ (checkHead answers chainName).statuses =
        acceptedStatus answers accepted := by
  unfold checkHead at hok ⊢
  dsimp only at hok ⊢
  split at hok
  · cases hok
  split at hok
  · cases hok
  rename_i htotal hresponded
  rw [if_neg htotal, if_neg hresponded]
  rcases hstep : stepDown answers 0 (candidateHeights answers) with
    _ | accepted
  · rw [hstep] at hok
    dsimp only at hok
    split at hok <;> cases hok
  · rw [hstep] at hok
    cases hok
    exact ⟨accepted, rfl, rfl, rfl⟩

/-- Every call of `CheckHead` classifies every provider anew.  After a
successful round the healthy ones are those that reported the accepted block,
with no tip beyond it if the vote had to step down; after a failed round there
are none. -/
theorem health_is_fresh {total : ℕ} (answers : HeadAnswers total)
    (chainName : String) (stored : Fin total → ProviderStatus) :
    (∀ index, (roundStatuses answers index).isSome) ∧
    (∀ head, (checkHead answers chainName).result = .ok head →
      ∀ index, storedStatuses answers stored index = .healthy ↔
        votesAt answers head.number index = some head.hash ∧
          ((candidateHeights answers).head? = some head.number ∨
            tipNumber answers index = some head.number)) ∧
    (∀ err, (checkHead answers chainName).result = .error err →
      ∀ index, storedStatuses answers stored index ≠ .healthy) := by
  refine ⟨?_, ?_, ?_⟩
  · intro index
    rw [roundStatuses_eq answers chainName index]
    rfl
  · intro head hok index
    obtain ⟨accepted, hstep, rfl, hstatuses⟩ := checkHead_accepted hok
    rw [storedStatuses_eq answers chainName, hstatuses,
      acceptedStatus_healthy_iff, level_eq_zero_iff hstep]
  · intro err hfailed index
    rw [storedStatuses_eq answers chainName]
    exact checkHead_error_not_healthy hfailed index

end Lazier.Quorum
