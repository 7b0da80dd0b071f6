import Lazier.Library.Majority
import Lazier.Store.Bytes

/-!
# The canonical head

`CheckHead` asks every configured provider for its tip and lets the providers
vote on the block hash at the highest height that a majority has reached,
stepping down through the lower tips while no hash has a majority.  The answers
of the providers are inputs; a failed request and a missing header are both
`none`.
-/

namespace Lazier.Quorum

open Library Store List

inductive ProviderStatus
  | healthy
  | lagging
  | conflict
  | unavailable
  deriving DecidableEq

def providerID (index : ℕ) : String := s!"provider[{index}]"

/-- A block header by its number, which may be missing, and its hash. -/
structure Header where
  number : Option ℕ
  hash : Hash
  deriving DecidableEq

/-- What the providers answer in one round: the latest header, and the hash of
the header at a height. -/
structure HeadAnswers (total : ℕ) where
  latest : Fin total → Option Header
  headerAt : Fin total → ℕ → Option Hash

/-- `HeadResult`; the source renders the hash in hexadecimal. -/
structure HeadResult where
  number : ℕ
  hash : Hash
  deriving DecidableEq

structure HeadSnapshot (total : ℕ) where
  number : ℕ
  hash : Hash
  tips : Fin total → Option ℕ

inductive HeadError
  | noProviders
  | quorumUnavailable (chainName : String) (details : List String)
  | headConflict (chainName : String) (number : ℕ) (details : List String)

/-- The result, the new provider statuses and the stored snapshot. -/
structure HeadOutcome (total : ℕ) where
  result : Except HeadError HeadResult
  statuses : Fin total → ProviderStatus
  snapshot : Option (HeadSnapshot total)

/-! ## One round -/

section

variable {total : ℕ} (answers : HeadAnswers total)

/-- The tip of a provider that answered with a numbered header. -/
def tip (index : Fin total) : Option (ℕ × Hash) :=
  match answers.latest index with
  | none => none
  | some header => header.number.map fun number => (number, header.hash)

/-- The reported tips, highest first. -/
def tipNumbers : List ℕ :=
  ((List.finRange total).filterMap fun index =>
    (tip answers index).map Prod.fst).insertionSort (· ≥ ·)

/-- The majority-th highest tip and the lower distinct ones. -/
def candidateHeights : List ℕ := distinctRuns none ((tipNumbers answers).drop (majority total - 1))

/-- The block hash a provider reports at a height: its tip's own, or that of a
historical header. -/
def votesAt (height : ℕ) (index : Fin total) : Option Hash :=
  match tip answers index with
  | none => none
  | some (number, hash) =>
    if number < height then none
    else if number = height then some hash
    else answers.headerAt index height

/-- The number of providers that vote at a height. -/
def voteCount (height : ℕ) : ℕ :=
  (Finset.univ.filter fun index =>
    (votesAt answers height index).isSome).card

/-- The hash vote at one height.  The order in which Go visits the counts only
matters for ties, and no tie reaches a majority. -/
def acceptedHash (height : ℕ) : Option Hash :=
  if voteCount answers height < majority total then none
  else
    let best := leading (fun hash => (supporters (votesAt answers height) hash).card) Hash.zero
      ((List.finRange total).filterMap (votesAt answers height)).dedup
    if best.2 < majority total then none else some best.1

/-- The vote that the round accepts. -/
structure Accepted where
  level : ℕ
  height : ℕ
  hash : Hash

/-- The loop over the candidate heights. -/
def stepDown (level : ℕ) : List ℕ → Option Accepted
  | [] => none
  | height :: rest =>
    match acceptedHash answers height with
    | some hash => some ⟨level, height, hash⟩
    | none => stepDown (level + 1) rest

/-- The classification after an accepted vote.  A tip above a height that was
only reached by stepping down is an unverified descendant. -/
def acceptedStatus (accepted : Accepted) (index : Fin total) : ProviderStatus :=
  match tip answers index with
  | none => .unavailable
  | some (number, _) =>
    if number < accepted.height then .lagging
    else
      match votesAt answers accepted.height index with
      | none => .unavailable
      | some hash =>
        if hash ≠ accepted.hash then .conflict
        else if 0 < accepted.level ∧ accepted.height < number then
          .unavailable
        else .healthy

/-- The classification after a head conflict at the first candidate. -/
def conflictStatus (height : ℕ) (index : Fin total) : ProviderStatus :=
  if (votesAt answers height index).isSome then .conflict else .unavailable

def tipFailures : List String := (List.finRange total).filterMap fun index =>
    if (tip answers index).isNone then
      some s!"{providerID index} head unavailable"
    else none

/-- The failed historical headers; Go lists them in map order. -/
def headerFailures (height : ℕ) : List String := (List.finRange total).filterMap fun index =>
    match tip answers index with
    | none => none
    | some (number, _) =>
      if height < number ∧ (answers.headerAt index height).isNone then
        some s!"{providerID index} canonical header unavailable"
      else none

def conflictDetails (height : ℕ) : List String :=
  ((List.finRange total).filterMap fun index =>
    (votesAt answers height index).map fun hash =>
      s!"{providerID index} returned {hash.hex}").insertionSort (· ≤ ·)

/-- `CheckHead`. -/
def checkHead (chainName : String) : HeadOutcome total :=
  if total = 0 then
    ⟨.error .noProviders, fun _ => .unavailable, none⟩
  else
    let quorum := majority total
    let responded := (tipNumbers answers).length
    if responded < quorum then
      ⟨.error (.quorumUnavailable chainName (tipFailures answers ++
          [s!"{responded} of {total} configured providers responded, quorum is {quorum}"])),
        fun _ => .unavailable, none⟩
    else
      let heights := candidateHeights answers
      match stepDown answers 0 heights with
      | some accepted =>
        ⟨.ok ⟨accepted.height, accepted.hash⟩, acceptedStatus answers accepted,
          some ⟨accepted.height, accepted.hash, fun index =>
            (tip answers index).map Prod.fst⟩⟩
      | none =>
        let first := heights.headD 0
        let served := voteCount answers first
        if served < quorum then
          ⟨.error (.quorumUnavailable chainName (tipFailures answers ++
            headerFailures answers first ++
            [s!"{served} of {total} configured providers served the canonical height, quorum is " ++
              toString quorum])),
            fun _ => .unavailable, none⟩
        else
          ⟨.error (.headConflict chainName first
              (conflictDetails answers first)),
            conflictStatus answers first, none⟩

end

/-- `BlockNumber`; `none` is any error. -/
def blockNumber {total : ℕ} (answers : HeadAnswers total) (chainName : String) : Option ℕ :=
  match (checkHead answers chainName).result with
  | .error _ => none
  | .ok head => if head.number < 2 ^ 64 then some head.number else none

/-! ## The hash vote -/

variable {total : ℕ} {answers : HeadAnswers total} {height : ℕ} {hash : Hash}

theorem acceptedHash_eq_some (haccepted : acceptedHash answers height = some hash) :
    majority total ≤ (supporters (votesAt answers height) hash).card := by
  unfold acceptedHash at haccepted
  split at haccepted
  · cases haccepted
  dsimp only at haccepted
  split at haccepted
  · cases haccepted
  rename_i hbest
  rw [Option.some.injEq] at haccepted
  have hcases := leading_count
    (fun hash => (supporters (votesAt answers height) hash).card) Hash.zero
    ((List.finRange total).filterMap (votesAt answers height)).dedup
  have hpos : 0 < majority total := Nat.succ_pos _
  rcases hcases with hzero | ⟨-, hcount⟩
  · omega
  · rw [haccepted] at hcount
    omega

theorem acceptedHash_of_majority
    (hmajority : majority total ≤ (supporters (votesAt answers height) hash).card) :
    acceptedHash answers height = some hash := by
  have hpos : 0 < majority total := Nat.succ_pos _
  have hvotes : ¬ voteCount answers height < majority total := by
    refine Nat.not_lt.mpr (hmajority.trans (Finset.card_le_card ?_))
    intro index hindex
    rw [mem_supporters] at hindex
    simp [hindex]
  obtain ⟨voter, hvoter⟩ := Finset.card_pos.mp (hpos.trans_le hmajority)
  have hcounted : hash ∈ ((List.finRange total).filterMap (votesAt answers height)).dedup := by
    rw [mem_dedup, mem_filterMap]
    exact ⟨voter, mem_finRange voter, mem_supporters.mp hvoter⟩
  have hbest := hmajority.trans (count_le_leading
    (fun hash => (supporters (votesAt answers height) hash).card) Hash.zero hcounted)
  cases haccepted : acceptedHash answers height with
  | none =>
    unfold acceptedHash at haccepted
    rw [if_neg hvotes] at haccepted
    dsimp only at haccepted
    rw [if_neg (Nat.not_lt.mpr hbest)] at haccepted
    cases haccepted
  | some other =>
    -- Two majorities share a provider, and a provider votes once.
    exact congrArg some (majority_unique (acceptedHash_eq_some haccepted) hmajority)

/-! ## Candidate heights -/

theorem tipNumbers_sorted (answers : HeadAnswers total) : (tipNumbers answers).Pairwise (· ≥ ·) :=
  pairwise_insertionSort (· ≥ ·) _

theorem card_le_countP_tipNumbers {reached : Finset (Fin total)}
    (hreached : ∀ index ∈ reached, ∃ number hash,
      tip answers index = some (number, hash) ∧ height ≤ number) :
    reached.card ≤ (tipNumbers answers).countP (height ≤ ·) := by
  have hcount : (tipNumbers answers).countP (height ≤ ·) =
      ((List.finRange total).filterMap fun index =>
        (tip answers index).map Prod.fst).countP (height ≤ ·) :=
    (perm_insertionSort (· ≥ ·) _).countP_eq _
  rw [hcount, countP_filterMap]
  refine card_le_countP fun index hindex => ⟨mem_finRange index, ?_⟩
  obtain ⟨number, hash, htip, hle⟩ := hreached index hindex
  simp [htip, hle]

theorem mem_candidateHeights {reached : Finset (Fin total)}
    {index : Fin total} (hmajority : majority total ≤ reached.card)
    (hreached : ∀ index ∈ reached, ∃ number hash,
      tip answers index = some (number, hash) ∧ height ≤ number)
    (htip : tip answers index = some (height, hash)) : height ∈ candidateHeights answers := by
  have hcount := hmajority.trans (card_le_countP_tipNumbers hreached)
  have hdrop : height ∈ (tipNumbers answers).drop (majority total - 1) := by
    have hmem : height ∈ tipNumbers answers := by
      rw [tipNumbers, mem_insertionSort, mem_filterMap]
      exact ⟨index, mem_finRange index, by rw [htip]; rfl⟩
    refine mem_drop_of_rank (tipNumbers_sorted answers) hmem ?_
    have hpos : 0 < majority total := Nat.succ_pos _
    omega
  exact (mem_distinctRuns hdrop).resolve_right (by simp)

theorem candidateHeights_sorted (answers : HeadAnswers total) :
    (candidateHeights answers).Pairwise (· ≥ ·) :=
  ((tipNumbers_sorted answers).sublist (drop_sublist _ _)).sublist (distinctRuns_sublist _)

theorem le_of_mem_candidateHeights (hmem : height ∈ candidateHeights answers) :
    ∃ top, (tipNumbers answers)[majority total - 1]? = some top ∧ height ≤ top :=
  le_rank_of_mem_drop (tipNumbers_sorted answers) ((distinctRuns_sublist _).subset hmem)

/-! ## The step-down loop -/

theorem stepDown_eq_some {level : ℕ} {heights : List ℕ} {accepted : Accepted}
    (hstep : stepDown answers level heights = some accepted) : accepted.height ∈ heights ∧
      acceptedHash answers accepted.height = some accepted.hash := by
  induction heights generalizing level with
  | nil => cases hstep
  | cons first rest ih =>
    rw [stepDown] at hstep
    split at hstep
    · rename_i hash haccepted
      cases hstep
      exact ⟨mem_cons_self, haccepted⟩
    · obtain ⟨hmem, haccepted⟩ := ih hstep
      exact ⟨mem_cons_of_mem _ hmem, haccepted⟩

theorem stepDown_reaches {level : ℕ} {heights : List ℕ} (hsorted : heights.Pairwise (· ≥ ·))
    (hmem : height ∈ heights) (haccepted : acceptedHash answers height = some hash) :
    ∃ accepted, stepDown answers level heights = some accepted ∧ height ≤ accepted.height := by
  induction heights generalizing level with
  | nil => cases hmem
  | cons first rest ih =>
    obtain ⟨hfirst, hrest⟩ := pairwise_cons.mp hsorted
    rw [stepDown]
    split
    · rename_i other _
      refine ⟨⟨level, first, other⟩, rfl, ?_⟩
      rcases mem_cons.mp hmem with rfl | hlater
      · exact le_rfl
      · exact hfirst height hlater
    · rename_i hnone
      rcases mem_cons.mp hmem with rfl | hlater
      · rw [haccepted] at hnone
        cases hnone
      · exact ih hrest hlater

/-! ## Honest majorities -/

/-- The honest providers are a majority, and each serves its own prefix of one
chain. -/
structure HonestMajority {total : ℕ} (answers : HeadAnswers total)
    (honest : Finset (Fin total)) (chain : ℕ → Hash) (honestTip : Fin total → ℕ) : Prop where
  enough : majority total ≤ honest.card
  latest : ∀ index ∈ honest, answers.latest index =
    some ⟨some (honestTip index), chain (honestTip index)⟩
  headers : ∀ index ∈ honest, ∀ height ≤ honestTip index,
    answers.headerAt index height = some (chain height)

namespace HonestMajority

variable {total : ℕ} {answers : HeadAnswers total}
  {honest : Finset (Fin total)} {chain : ℕ → Hash} {honestTip : Fin total → ℕ}

section

variable (hhonest : HonestMajority answers honest chain honestTip)

include hhonest

theorem tip_eq {index : Fin total} (hindex : index ∈ honest) :
    tip answers index = some (honestTip index, chain (honestTip index)) := by
  rw [tip, hhonest.latest index hindex]
  rfl

theorem votes_chain {index : Fin total} (hindex : index ∈ honest)
    (hheight : height ≤ honestTip index) : votesAt answers height index = some (chain height) := by
  rw [votesAt, hhonest.tip_eq hindex]
  dsimp only
  rw [if_neg (Nat.not_lt.mpr hheight)]
  split
  · rename_i heq
    rw [heq]
  · exact hhonest.headers index hindex height hheight

theorem height_le {index : Fin total} (hindex : index ∈ honest)
    (hvote : votesAt answers height index = some hash) : height ≤ honestTip index := by
  rw [votesAt, hhonest.tip_eq hindex] at hvote
  dsimp only at hvote
  split at hvote
  · cases hvote
  · omega

theorem nonempty : honest.Nonempty :=
  Finset.card_pos.mp ((Nat.succ_pos _).trans_le hhonest.enough)

theorem accepted_on_chain (haccepted : acceptedHash answers height = some hash) :
    hash = chain height ∧ ∃ index ∈ honest, height ≤ honestTip index := by
  obtain ⟨index, hindex, hvoter⟩ := majorities_meet hhonest.enough
    (acceptedHash_eq_some haccepted)
  rw [mem_supporters] at hvoter
  have hheight := hhonest.height_le hindex hvoter
  rw [hhonest.votes_chain hindex hheight] at hvoter
  exact ⟨(Option.some.inj hvoter).symm, index, hindex, hheight⟩

/-- The lowest honest tip is a candidate, and the vote there is accepted. -/
theorem lowest_accepted {low : Fin total} (hlow : low ∈ honest)
    (hlowest : ∀ index ∈ honest, honestTip low ≤ honestTip index) :
    honestTip low ∈ candidateHeights answers ∧
      acceptedHash answers (honestTip low) = some (chain (honestTip low)) := by
  constructor
  · refine mem_candidateHeights hhonest.enough ?_ (hhonest.tip_eq hlow)
    intro index hindex
    exact ⟨_, _, hhonest.tip_eq hindex, hlowest index hindex⟩
  · refine acceptedHash_of_majority (hhonest.enough.trans (Finset.card_le_card ?_))
    intro index hindex
    rw [mem_supporters]
    exact hhonest.votes_chain hindex (hlowest index hindex)

end

end HonestMajority

/-! ## The check -/

theorem checkHead_ok {chainName : String} {head : HeadResult}
    (hok : (checkHead answers chainName).result = .ok head) :
    head.number ∈ candidateHeights answers ∧ acceptedHash answers head.number = some head.hash := by
  unfold checkHead at hok
  dsimp only at hok
  split at hok
  · cases hok
  split at hok
  · cases hok
  split at hok
  · rename_i accepted hstep
    cases hok
    exact stepDown_eq_some hstep
  · split at hok <;> cases hok

theorem checkHead_of_stepDown (chainName : String) {accepted : Accepted}
    (hstep : stepDown answers 0 (candidateHeights answers) = some accepted) :
    (checkHead answers chainName).result = .ok ⟨accepted.height, accepted.hash⟩ := by
  have hmem := (stepDown_eq_some hstep).1
  obtain ⟨top, htop, -⟩ := le_of_mem_candidateHeights hmem
  have hlength : majority total - 1 < (tipNumbers answers).length := by
    obtain ⟨hlt, -⟩ := List.getElem?_eq_some_iff.mp htop
    exact hlt
  have hbound : (tipNumbers answers).length ≤ total := by
    rw [tipNumbers, length_insertionSort]
    exact (length_filterMap_le _ _).trans_eq length_finRange
  have htotal : ¬ total = 0 := by omega
  have hresponded : ¬ (tipNumbers answers).length < majority total := by omega
  unfold checkHead
  dsimp only
  rw [if_neg htotal, if_neg hresponded, hstep]

/-- With an honest majority the check returns a block of the honest chain
between the lowest and the highest honest tip.  Whatever the answers, a
returned hash has a majority of the votes at its height, which is at most the
majority-th highest reported tip. -/
theorem checkHead_canonical {total : ℕ} (answers : HeadAnswers total) (chainName : String) :
    (∀ honest chain honestTip, HonestMajority answers honest chain honestTip →
      ∃ height, (checkHead answers chainName).result = .ok ⟨height, chain height⟩ ∧
        (∃ low ∈ honest, (∀ index ∈ honest,
          honestTip low ≤ honestTip index) ∧ honestTip low ≤ height) ∧
        (∃ high ∈ honest, (∀ index ∈ honest,
          honestTip index ≤ honestTip high) ∧ height ≤ honestTip high)) ∧
    (∀ head, (checkHead answers chainName).result = .ok head → majority total ≤
        (supporters (votesAt answers head.number) head.hash).card ∧
      ∃ top, (tipNumbers answers)[majority total - 1]? = some top ∧ head.number ≤ top) := by
  constructor
  · intro honest chain honestTip hhonest
    obtain ⟨low, hlow, hlowest⟩ := honest.exists_min_image honestTip hhonest.nonempty
    obtain ⟨high, hhigh, hhighest⟩ := honest.exists_max_image honestTip hhonest.nonempty
    obtain ⟨hcandidate, haccepted⟩ := hhonest.lowest_accepted hlow hlowest
    obtain ⟨accepted, hstep, hreach⟩ := stepDown_reaches
      (candidateHeights_sorted answers) hcandidate haccepted
    obtain ⟨hhash, index, hindex, hheight⟩ := hhonest.accepted_on_chain (stepDown_eq_some hstep).2
    refine ⟨accepted.height, ?_, ⟨low, hlow, hlowest, hreach⟩,
      high, hhigh, hhighest, hheight.trans (hhighest index hindex)⟩
    rw [checkHead_of_stepDown chainName hstep, hhash]
  · intro head hok
    obtain ⟨hcandidate, haccepted⟩ := checkHead_ok hok
    exact ⟨acceptedHash_eq_some haccepted, le_of_mem_candidateHeights hcandidate⟩

/-- Two honest providers at heights 7 and 9 and one that inflates its tip. -/
def inflatedTip : HeadAnswers 3 where
  latest index :=
    if index = 2 then some ⟨some 100, .ofNat 32 0xbad⟩
    else some ⟨some (7 + 2 * index), .ofNat 32 (7 + 2 * index)⟩
  headerAt index height :=
    if index = 2 then none else some (.ofNat 32 height)

theorem checkHead_outvotes_inflatedTip : HonestMajority inflatedTip {0, 1} (.ofNat 32)
      (fun index => 7 + 2 * index) ∧ ∃ height, (checkHead inflatedTip "sample").result =
        .ok ⟨height, .ofNat 32 height⟩ ∧
      (∃ low ∈ ({0, 1} : Finset (Fin 3)),
        (∀ index ∈ ({0, 1} : Finset (Fin 3)),
          7 + 2 * low.val ≤ 7 + 2 * index.val) ∧ 7 + 2 * low.val ≤ height) ∧
      (∃ high ∈ ({0, 1} : Finset (Fin 3)),
        (∀ index ∈ ({0, 1} : Finset (Fin 3)), 7 + 2 * index.val ≤ 7 + 2 * high.val) ∧
        height ≤ 7 + 2 * high.val) := by
  have hhonest : HonestMajority inflatedTip {0, 1} (.ofNat 32)
      (fun index => 7 + 2 * index) := by
    refine ⟨by decide, ?_, ?_⟩
    · intro index hindex
      fin_cases hindex <;> rfl
    · intro index hindex height _
      fin_cases hindex <;> rfl
  exact ⟨hhonest, (checkHead_canonical inflatedTip "sample").1 _ _ _ hhonest⟩

end Lazier.Quorum
