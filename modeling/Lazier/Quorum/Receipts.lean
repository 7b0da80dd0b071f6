import Lazier.Chain.Receipt
import Lazier.Quorum.Head

/-!
# Receipt lookups

`TransactionReceiptAt` asks every configured provider for one receipt.  A
fingerprint with a majority of the votes is returned at once; a negative answer
waits for every probe and counts only the providers whose recorded tip covers
the blocks in question.  The answers and the order in which the probes complete
are inputs.
-/

namespace Lazier.Quorum

open Chain Library Store List

/-- The answer of one provider; a missing receipt counts as not found. -/
inductive ReceiptAnswer
  | receipt (receipt : Receipt)
  | notFound
  | failed (message : String)
  deriving DecidableEq

/-- The fingerprint that an answer votes for. -/
def ReceiptAnswer.fingerprint : ReceiptAnswer → Option String
  | .receipt mined => some (receiptFingerprint mined)
  | .notFound => none
  | .failed _ => none

/-- The message of a failed lookup. -/
def ReceiptAnswer.failure : ReceiptAnswer → Option String
  | .failed message => some message
  | .notFound => none
  | .receipt _ => none

/-- One lookup: every probe completes once, in some order. -/
structure ReceiptRound (total : ℕ) where
  answers : Fin total → ReceiptAnswer
  order : List (Fin total)
  complete : order.Perm (List.finRange total)
  snapshot : Option (HeadSnapshot total)

inductive ReceiptError
  | noProviders
  | notFound
  | transient (messages : List String)
  | quorumUnavailable (chainName : String) (details : List String)
  | receiptConflict (txHash : Hash) (details : List String)
  deriving DecidableEq

/-- The accumulators of the loop over the completions.  The candidates are the
maps `votes` and `receiptsByFingerprint`, which have the same keys. -/
structure Tally where
  candidates : List (Entry String Receipt)
  notFoundTotal : ℕ
  transientErrs : List String

/-- The loop ends with a receipt majority, or with its accumulators. -/
inductive Collected
  | settled (receipt : Receipt)
  | undecided (tally : Tally)

/-! ## One lookup -/

variable {total : ℕ}

/-- The loop over the completions. -/
def collect (answers : Fin total → ReceiptAnswer) (quorum : ℕ) :
    Tally → List (Fin total) → Collected
  | tally, [] => .undecided tally
  | tally, index :: rest =>
    match answers index with
    | .failed message =>
      collect answers quorum { tally with transientErrs := tally.transientErrs ++ [message] } rest
    | .notFound =>
      collect answers quorum { tally with notFoundTotal := tally.notFoundTotal + 1 } rest
    | .receipt receipt =>
      let fingerprint := receiptFingerprint receipt
      let candidates := record fingerprint receipt tally.candidates
      if quorum ≤ votesFor fingerprint candidates then .settled receipt
      else collect answers quorum { tally with candidates := candidates } rest

/-- The tip of a provider as the last head check recorded it. -/
def snapshotTip (snapshot : Option (HeadSnapshot total)) (index : Fin total) : Option ℕ :=
  snapshot.bind fun head => head.tips index

/-- The providers that answered not found with a recorded tip at or above
`block`. -/
def deniers (round : ReceiptRound total) (block : ℕ) : Finset (Fin total) :=
  Finset.univ.filter fun index =>
    round.answers index = .notFound ∧ (snapshotTip round.snapshot index).any (block ≤ ·)

/-- The higher of two optional blocks. -/
def higherBlock (best block : Option ℕ) : Option ℕ :=
  match block with
  | none => best
  | some number =>
    match best with
    | none => some number
    | some highest => if highest < number then some number else some highest

def highestCandidateBlock (candidates : List (Entry String Receipt))
    (minBlock : Option ℕ) : Option ℕ := higherBlock
    ((candidates.map fun entry => entry.ballot.blockNumber).foldl higherBlock none) minBlock

/-- The negative answer when no receipt was seen. -/
def resolveAbsent (chainName : String) (round : ReceiptRound total)
    (minBlock : Option ℕ) (tally : Tally) : ReceiptError :=
  let quorum := majority total
  let notFoundQuorumVotes :=
    match minBlock with
    | none => tally.notFoundTotal
    | some block => (deniers round block).card
  if quorum ≤ notFoundQuorumVotes then .notFound
  else if tally.transientErrs ≠ [] then .transient tally.transientErrs
  else .quorumUnavailable chainName
    [s!"{notFoundQuorumVotes} of {total} configured providers gave a comparable receipt answer, " ++
      s!"quorum is {quorum}"]

def receiptConflictDetails (answers : Fin total → ReceiptAnswer) : List String :=
  ((List.finRange total).filterMap fun index =>
    match answers index with
    | .failed _ => none
    | .notFound => some s!"{providerID index} returned not found"
    | .receipt receipt =>
      some s!"{providerID index} returned {receiptFingerprint receipt}").insertionSort
    (· ≤ ·)

/-- The not-found answers that a candidate's block does not excuse. -/
def unexcusedNotFound (round : ReceiptRound total) (minBlock : Option ℕ) (tally : Tally) : ℕ :=
  match highestCandidateBlock tally.candidates minBlock with
  | none => 0
  | some block => (deniers round block).card

/-- The answer when receipts were seen and none has a majority. -/
def resolveCandidates (chainName : String) (txHash : Hash)
    (round : ReceiptRound total) (minBlock : Option ℕ) (tally : Tally) :
    ReceiptError :=
  let quorum := majority total
  let receiptVotes := totalVotes tally.candidates
  let unexcused := unexcusedNotFound round minBlock tally
  if quorum ≤ unexcused then .notFound
  else if quorum ≤ receiptVotes + unexcused ∧ (1 < tally.candidates.length ∨ 0 < unexcused) then
    .receiptConflict txHash (receiptConflictDetails round.answers)
  else .quorumUnavailable chainName
    [s!"receipt for tx {txHash.hex} lacks a comparable-evidence majority"]

/-- `TransactionReceiptAt`. -/
def transactionReceiptAt (chainName : String) (round : ReceiptRound total)
    (txHash : Hash) (minBlock : Option ℕ) : Except ReceiptError Receipt :=
  if total = 0 then .error .noProviders
  else
    match collect round.answers (majority total) ⟨[], 0, []⟩ round.order with
    | .settled receipt => .ok receipt
    | .undecided tally =>
      match tally.candidates with
      | [] => .error (resolveAbsent chainName round minBlock tally)
      | _ :: _ =>
        .error (resolveCandidates chainName txHash round minBlock tally)

/-! ## The highest candidate -/

theorem foldl_higherBlock {blocks : List (Option ℕ)} :
    blocks.foldl higherBlock none = blocks.reduceOption.maximum := by
  induction blocks using List.reverseRecOn with
  | nil => rfl
  | append_singleton blocks block ih =>
    rw [foldl_append, ih, reduceOption_append]
    cases block with
    | none => exact congrArg List.maximum (append_nil _).symm
    | some number =>
      rw [reduceOption_singleton, Option.toList_some, maximum_concat]
      cases blocks.reduceOption.maximum with
      | bot => rfl
      | coe highest =>
        by_cases hless : highest < number
        · exact (if_pos hless).trans (congrArg some (max_eq_right hless.le).symm)
        · exact (if_neg hless).trans (congrArg some (max_eq_left (not_lt.mp hless)).symm)

theorem highestCandidateBlock_eq {candidates : List (Entry String Receipt)} {minBlock : Option ℕ} :
    highestCandidateBlock candidates minBlock =
      (candidates.map (·.ballot.blockNumber) ++ [minBlock]).reduceOption.maximum := by
  rw [← foldl_higherBlock, foldl_append]
  rfl

/-- The block of a candidate, or the minimum. -/
def InQuestion (candidates : List (Entry String Receipt)) (minBlock : Option ℕ)
    (number : ℕ) : Prop :=
  (∃ entry ∈ candidates, entry.ballot.blockNumber = some number) ∨ minBlock = some number

variable {candidates : List (Entry String Receipt)} {minBlock : Option ℕ} {number : ℕ}

theorem highestCandidateBlock_eq_some : highestCandidateBlock candidates minBlock = some number ↔
    InQuestion candidates minBlock number ∧
      ∀ other, InQuestion candidates minBlock other → other ≤ number := by
  rw [highestCandidateBlock_eq]
  refine maximum_eq_coe_iff.trans ?_
  simp only [reduceOption_mem_iff, mem_append, mem_map, mem_singleton, InQuestion, eq_comm]

theorem le_highestCandidateBlock (hnumber : InQuestion candidates minBlock number) :
    ∃ height, highestCandidateBlock candidates minBlock = some height ∧ number ≤ height := by
  rw [highestCandidateBlock_eq]
  refine WithBot.coe_le_iff.mp (le_maximum_of_mem' ?_)
  simpa [reduceOption_mem_iff, InQuestion, eq_comm] using hnumber

/-! ## The loop over the completions -/

/-- The fingerprint vote of every provider. -/
def fingerprints (round : ReceiptRound total) (index : Fin total) : Option String :=
  (round.answers index).fingerprint

/-- The accumulators after the probes of `done` have completed. -/
structure Tallied (answers : Fin total → ReceiptAnswer)
    (done : List (Fin total)) (tally : Tally) : Prop where
  votes : ∀ fingerprint, votesFor fingerprint tally.candidates =
    done.countP fun index => (answers index).fingerprint = some fingerprint
  receipts : totalVotes tally.candidates =
    done.countP fun index => (answers index).fingerprint.isSome
  denials : tally.notFoundTotal = done.countP fun index => answers index = .notFound
  returned : ∀ entry ∈ tally.candidates, ∃ index ∈ done, answers index = .receipt entry.ballot ∧
      entry.key = receiptFingerprint entry.ballot
  represented : ∀ index ∈ done, ∀ receipt, answers index = .receipt receipt →
    receiptFingerprint receipt ∈ tally.candidates.map Entry.key
  failures : tally.transientErrs = done.filterMap fun index => (answers index).failure
  keys : (tally.candidates.map Entry.key).Nodup

theorem tallied_nil (answers : Fin total → ReceiptAnswer) : Tallied answers [] ⟨[], 0, []⟩ := by
  constructor <;> simp [votesFor, totalVotes]

namespace Tallied

variable {answers : Fin total → ReceiptAnswer} {done : List (Fin total)}
  {tally : Tally} {index : Fin total}

theorem silent (htally : Tallied answers done tally)
    (hanswer : (answers index).fingerprint = none) {next : Tally}
    (hcandidates : next.candidates = tally.candidates)
    (hdenials : next.notFoundTotal = tally.notFoundTotal +
      if answers index = .notFound then 1 else 0)
    (hfailures : next.transientErrs = tally.transientErrs ++ (answers index).failure.toList) :
    Tallied answers (done ++ [index]) next where
  votes fingerprint := by simp [hcandidates, htally.votes, hanswer]
  receipts := by simp [hcandidates, htally.receipts, hanswer]
  denials := by
    rw [hdenials, htally.denials]
    simp [countP_append, countP_singleton]
  returned entry hentry := by
    rw [hcandidates] at hentry
    obtain ⟨provider, hprovider, hreturned⟩ := htally.returned entry hentry
    exact ⟨provider, mem_append_left _ hprovider, hreturned⟩
  represented provider hprovider receipt hreceipt := by
    rw [hcandidates]
    rcases mem_append.mp hprovider with hold | hnew
    · exact htally.represented provider hold receipt hreceipt
    · rw [← mem_singleton.mp hnew, hreceipt] at hanswer
      cases hanswer
  failures := by
    rw [hfailures, htally.failures, filterMap_append, filterMap_cons, filterMap_nil]
    cases (answers index).failure <;> rfl
  keys := by
    rw [hcandidates]
    exact htally.keys

theorem receipt (htally : Tallied answers done tally) {receipt : Receipt}
    (hanswer : answers index = .receipt receipt) : Tallied answers (done ++ [index])
      { tally with
        candidates := record (receiptFingerprint receipt) receipt tally.candidates } where
  votes fingerprint := by
    rw [votesFor_record, htally.votes]
    simp [countP_append, countP_singleton, hanswer, ReceiptAnswer.fingerprint]
  receipts := by
    rw [totalVotes_record, htally.receipts]
    simp [hanswer, ReceiptAnswer.fingerprint]
  denials := by simp [htally.denials, hanswer]
  returned entry hentry := by
    rcases mem_record hentry with hold | ⟨hkey, hballot⟩
    · obtain ⟨provider, hprovider, hreturned⟩ := htally.returned entry hold
      exact ⟨provider, mem_append_left _ hprovider, hreturned⟩
    · exact ⟨index, by simp, by rw [hballot, hanswer], by rw [hkey, hballot]⟩
  represented provider hprovider other hother := by
    rw [mem_keys_record]
    rcases mem_append.mp hprovider with hold | hnew
    · exact .inr (htally.represented provider hold other hother)
    · rw [mem_singleton.mp hnew, hanswer] at hother
      cases hother
      exact .inl rfl
  failures := by simp [htally.failures, hanswer, ReceiptAnswer.failure]
  keys := nodup_keys_record htally.keys

end Tallied

/-- What the loop returns: a receipt whose fingerprint has `quorum` votes, or
the accumulators of all completions, in which no fingerprint has as many. -/
theorem collect_cases {answers : Fin total → ReceiptAnswer} {quorum : ℕ}
    {done rest : List (Fin total)} {tally : Tally} (htally : Tallied answers done tally)
    (hminority : ∀ fingerprint, votesFor fingerprint tally.candidates < quorum) :
    (∃ receipt, collect answers quorum tally rest = .settled receipt ∧
      (∃ index, answers index = .receipt receipt) ∧ quorum ≤ (done ++ rest).countP fun index =>
        (answers index).fingerprint = some (receiptFingerprint receipt)) ∨
    (∃ final, collect answers quorum tally rest = .undecided final ∧
      Tallied answers (done ++ rest) final ∧
      ∀ fingerprint, votesFor fingerprint final.candidates < quorum) := by
  induction rest generalizing done tally with
  | nil =>
    rw [append_nil]
    exact .inr ⟨tally, rfl, htally, hminority⟩
  | cons index rest ih =>
    have hlist : done ++ index :: rest = done ++ [index] ++ rest := by simp
    rw [hlist]
    cases hanswer : answers index with
    | failed message =>
      have hnext : Tallied answers (done ++ [index])
          { tally with
            transientErrs := tally.transientErrs ++ [message] } :=
        htally.silent (by rw [hanswer]; rfl) rfl (by simp [hanswer]) (by rw [hanswer]; rfl)
      simpa only [collect, hanswer] using ih hnext hminority
    | notFound =>
      have hnext : Tallied answers (done ++ [index])
          { tally with notFoundTotal := tally.notFoundTotal + 1 } :=
        htally.silent (by rw [hanswer]; rfl) rfl (by simp [hanswer])
          (by rw [hanswer]; exact (append_nil _).symm)
      simpa only [collect, hanswer] using ih hnext hminority
    | receipt receipt =>
      have hnext := htally.receipt hanswer
      simp only [collect, hanswer]
      by_cases hquorum : quorum ≤ votesFor (receiptFingerprint receipt)
          (record (receiptFingerprint receipt) receipt tally.candidates)
      · rw [if_pos hquorum]
        refine .inl ⟨receipt, rfl, ⟨index, hanswer⟩, ?_⟩
        have hvotes := hnext.votes (receiptFingerprint receipt)
        rw [countP_append]
        exact hquorum.trans (hvotes.trans_le (Nat.le_add_right _ _))
      · rw [if_neg hquorum]
        refine ih hnext fun fingerprint => ?_
        by_cases hsame : receiptFingerprint receipt = fingerprint
        · rw [← hsame]
          exact Nat.lt_of_not_le hquorum
        · rw [votesFor_record, if_neg hsame, Nat.add_zero]
          exact hminority fingerprint

/-! ## Whole rounds -/

theorem countP_order (round : ReceiptRound total) {test : Fin total → Prop} [DecidablePred test] :
    (round.order.countP fun index => test index) = (Finset.univ.filter test).card := by
  rw [round.complete.countP_eq, countP_eq_length_filter,
    ← toFinset_card_of_nodup ((nodup_finRange total).filter _)]
  congr 1
  simp

/-- The providers that answered with a receipt. -/
def reporters (round : ReceiptRound total) : Finset (Fin total) :=
  Finset.univ.filter fun index => (fingerprints round index).isSome

/-- A complete round without a receipt majority. -/
structure Undecided (round : ReceiptRound total) (tally : Tally) : Prop where
  minority : ∀ fingerprint, (supporters (fingerprints round) fingerprint).card < majority total
  votes : totalVotes tally.candidates = (reporters round).card
  denials : tally.notFoundTotal =
    (Finset.univ.filter fun index => round.answers index = .notFound).card
  returned : ∀ entry ∈ tally.candidates, ∃ index, round.answers index = .receipt entry.ballot ∧
      entry.key = receiptFingerprint entry.ballot
  represented : ∀ index receipt, round.answers index = .receipt receipt →
    receiptFingerprint receipt ∈ tally.candidates.map Entry.key
  failures : tally.transientErrs = round.order.filterMap fun index =>
    (round.answers index).failure
  keys : (tally.candidates.map Entry.key).Nodup

theorem collect_round (round : ReceiptRound total) :
    Ends (fingerprints round) receiptFingerprint
      (collect round.answers (majority total) ⟨[], 0, []⟩ round.order = .settled ·)
      (∃ tally, collect round.answers (majority total) ⟨[], 0, []⟩ round.order = .undecided tally ∧
        Undecided round tally) := by
  have hpos : 0 < majority total := Nat.succ_pos _
  have hvotes : ∀ fingerprint, (round.order.countP fun index =>
      (round.answers index).fingerprint = some fingerprint) =
        (supporters (fingerprints round) fingerprint).card := by
    intro fingerprint
    exact countP_order round
  rcases collect_cases (tallied_nil round.answers) (fun _ => hpos) with
    ⟨receipt, hsettled, -, hquorum⟩ | ⟨tally, hopen, htally, hminority⟩
  · rw [nil_append, hvotes] at hquorum
    exact .inl ⟨receipt, hsettled, hquorum⟩
  · rw [nil_append] at htally
    have hall : ∀ index, index ∈ round.order := fun index =>
      round.complete.mem_iff.mpr (mem_finRange index)
    have hless : ∀ fingerprint,
        (supporters (fingerprints round) fingerprint).card < majority total := by
      intro fingerprint
      rw [← hvotes, ← htally.votes]
      exact hminority fingerprint
    refine .inr ⟨⟨tally, hopen, hless, ?_, ?_, ?_, ?_, htally.failures, htally.keys⟩, hless⟩
    · rw [htally.receipts, reporters, ← countP_order round]
      exact countP_congr fun index _ => decide_eq_true_iff.symm
    · exact htally.denials.trans (countP_order round)
    · intro entry hentry
      obtain ⟨index, -, hreturned⟩ := htally.returned entry hentry
      exact ⟨index, hreturned⟩
    · intro index receipt hreceipt
      exact htally.represented index (hall index) receipt hreceipt

theorem transactionReceiptAt_cases (chainName : String)
    (round : ReceiptRound total) (txHash : Hash) (minBlock : Option ℕ) (htotal : total ≠ 0) :
    (∃ receipt, transactionReceiptAt chainName round txHash minBlock = .ok receipt ∧
      majority total ≤ (supporters (fingerprints round) (receiptFingerprint receipt)).card) ∨
    (∃ tally, Undecided round tally ∧ transactionReceiptAt chainName round txHash minBlock =
        .error (if tally.candidates = [] then
          resolveAbsent chainName round minBlock tally
        else resolveCandidates chainName txHash round minBlock tally)) := by
  rw [transactionReceiptAt, if_neg htotal]
  rcases collect_round round with
    ⟨receipt, hsettled, hmajority⟩ | ⟨⟨tally, hopen, hundecided⟩, -⟩
  · rw [hsettled]
    exact .inl ⟨receipt, rfl, hmajority⟩
  · rw [hopen]
    refine .inr ⟨tally, hundecided, ?_⟩
    dsimp only
    cases hcandidates : tally.candidates with
    | nil | cons first rest => simp

theorem mem_deniers {round : ReceiptRound total} {block : ℕ} {index : Fin total} :
    index ∈ deniers round block ↔ round.answers index = .notFound ∧
      ∃ tip, snapshotTip round.snapshot index = some tip ∧ block ≤ tip := by
  simp [deniers, Option.any_eq_true]

/-- A candidate stands for every receipt with its fingerprint, so its block is
theirs. -/
theorem Undecided.candidate_block {round : ReceiptRound total} {tally : Tally}
    (hundecided : Undecided round tally) {index : Fin total}
    {receipt : Receipt} (hanswer : round.answers index = .receipt receipt) :
    ∃ entry ∈ tally.candidates, entry.key = receiptFingerprint receipt ∧
      entry.ballot.blockNumber = receipt.blockNumber := by
  obtain ⟨entry, hentry, hkey⟩ := mem_map.mp (hundecided.represented index receipt hanswer)
  obtain ⟨-, -, hballot⟩ := hundecided.returned entry hentry
  have hsame := receiptFingerprint_injective (hballot.symm.trans hkey)
  exact ⟨entry, hentry, hkey, congrArg Receipt.blockNumber hsame⟩

/-! ## Negative answers -/

/-- A majority answered not found; when a block is in question, each with a
recorded tip at or above the minimum block and every returned receipt. -/
structure DeniedBy (round : ReceiptRound total) (minBlock : Option ℕ)
    (against : Finset (Fin total)) : Prop where
  enough : majority total ≤ against.card
  denials : ∀ index ∈ against, round.answers index = .notFound
  covered : (minBlock.isSome ∨ ∃ index receipt, round.answers index = .receipt receipt) →
    ∀ index ∈ against, ∃ tip, snapshotTip round.snapshot index = some tip ∧
      (∀ block, minBlock = some block → block ≤ tip) ∧
      ∀ provider receipt block, round.answers provider = .receipt receipt →
        receipt.blockNumber = some block → block ≤ tip

variable {chainName : String} {round : ReceiptRound total} {txHash : Hash} {tally : Tally}

/-- The providers at or above a block that is at least every block in question
deny all of them. -/
theorem deniedBy_deniers {highest : ℕ} (hmajority : majority total ≤ (deniers round highest).card)
    (hminimum : ∀ block, minBlock = some block → block ≤ highest)
    (hreceipts : ∀ provider receipt block, round.answers provider = .receipt receipt →
      receipt.blockNumber = some block → block ≤ highest) :
    DeniedBy round minBlock (deniers round highest) where
  enough := hmajority
  denials index hindex := (mem_deniers.mp hindex).1
  covered _ index hindex := by
    obtain ⟨-, tip, htip, hle⟩ := mem_deniers.mp hindex
    exact ⟨tip, htip, fun block hblock => (hminimum block hblock).trans hle,
      fun provider receipt block hanswer hblock =>
        (hreceipts provider receipt block hanswer hblock).trans hle⟩

theorem Undecided.resolveAbsent_notFound (hundecided : Undecided round tally)
    (hnone : tally.candidates = [])
    (hresult : resolveAbsent chainName round minBlock tally = .notFound) :
    ∃ against, DeniedBy round minBlock against := by
  have hunseen : ∀ index receipt, round.answers index ≠ .receipt receipt := by
    intro index receipt hanswer
    have hkey := hundecided.represented index receipt hanswer
    rw [hnone] at hkey
    cases hkey
  cases minBlock with
  | none =>
    simp only [resolveAbsent] at hresult
    split at hresult
    · rename_i hquorum
      refine ⟨Finset.univ.filter fun index =>
        round.answers index = .notFound,
        hquorum.trans_eq hundecided.denials, by simp, ?_⟩
      rintro (hmin | ⟨index, receipt, hanswer⟩)
      · cases hmin
      · exact absurd hanswer (hunseen index receipt)
    · split at hresult <;> cases hresult
  | some block =>
    simp only [resolveAbsent] at hresult
    split at hresult
    · rename_i hquorum
      refine ⟨deniers round block, deniedBy_deniers hquorum ?_ ?_⟩
      · intro other hother
        exact (Option.some.inj hother).ge
      · intro provider receipt _ hanswer
        exact absurd hanswer (hunseen provider receipt)
    · split at hresult <;> cases hresult

theorem Undecided.resolveCandidates_notFound (hundecided : Undecided round tally)
    (hresult : resolveCandidates chainName txHash round minBlock tally = .notFound) :
    ∃ against, DeniedBy round minBlock against := by
  simp only [resolveCandidates] at hresult
  split at hresult
  · rename_i hquorum
    rw [unexcusedNotFound] at hquorum
    split at hquorum
    · exact absurd hquorum (Nat.not_succ_le_zero _)
    rename_i highest hhighest
    have hbelow := (highestCandidateBlock_eq_some.mp hhighest).2
    refine ⟨deniers round highest, deniedBy_deniers hquorum
      (fun block hmin => hbelow block (.inr hmin)) ?_⟩
    intro provider receipt block hanswer hblock
    obtain ⟨entry, hentry, -, hsame⟩ := hundecided.candidate_block hanswer
    exact hbelow block (.inl ⟨entry, hentry, hsame.trans hblock⟩)
  · split at hresult <;> cases hresult

theorem deniedBy_of_notFound
    (hresult : transactionReceiptAt chainName round txHash minBlock = .error .notFound) :
    ∃ against, DeniedBy round minBlock against := by
  by_cases htotal : total = 0
  · rw [transactionReceiptAt, if_pos htotal] at hresult
    cases hresult
  rcases transactionReceiptAt_cases chainName round txHash minBlock htotal with
    ⟨receipt, hok, -⟩ | ⟨tally, hundecided, herror⟩
  · rw [hok] at hresult
    cases hresult
  rw [herror, Except.error.injEq] at hresult
  split at hresult
  · rename_i hnone
    exact hundecided.resolveAbsent_notFound hnone hresult
  · exact hundecided.resolveCandidates_notFound hresult

/-- A returned receipt has a majority of the fingerprint votes, and a not-found
answer a majority of providers whose recorded tips cover every block in
question.  So a majority of honest providers cannot be overruled: a transaction
that each of them reports, as far as its tip covers the minimum block, is not
denied. -/
theorem receipt_answers_are_majorities {total : ℕ} (chainName : String)
    (round : ReceiptRound total) (txHash : Hash) (minBlock : Option ℕ) :
    (∀ receipt, transactionReceiptAt chainName round txHash minBlock = .ok receipt →
      majority total ≤ (supporters (fingerprints round) (receiptFingerprint receipt)).card) ∧
    (transactionReceiptAt chainName round txHash minBlock = .error .notFound →
      ∃ against, DeniedBy round minBlock against) ∧
    (∀ (honest : Finset (Fin total)) (honestTip : Fin total → ℕ),
      honestᶜ.card ≤ total - majority total →
      (∀ index ∈ honest, ∀ tip, snapshotTip round.snapshot index = some tip →
        tip ≤ honestTip index) →
      (∀ index ∈ honest, (∀ block, minBlock = some block → block ≤ honestTip index) →
        ∃ receipt, round.answers index = .receipt receipt) →
      transactionReceiptAt chainName round txHash minBlock ≠ .error .notFound) := by
  refine ⟨?_, deniedBy_of_notFound, ?_⟩
  · intro receipt hok
    by_cases htotal : total = 0
    · rw [transactionReceiptAt, if_pos htotal] at hok
      cases hok
    rcases transactionReceiptAt_cases chainName round txHash minBlock htotal
      with ⟨returned, hreturned, hmajority⟩ | ⟨tally, -, herror⟩
    · rw [hreturned, Except.ok.injEq] at hok
      rwa [← hok]
    · rw [herror] at hok
      cases hok
  · intro honest honestTip hdishonest hrecorded hmined hresult
    obtain ⟨against, hagainst⟩ := deniedBy_of_notFound hresult
    have hhonest : majority total ≤ honest.card := by
      have hsplit := Finset.card_add_card_compl honest
      have hall := Finset.card_le_univ against
      have henough := hagainst.enough
      rw [Fintype.card_fin] at hsplit hall
      omega
    obtain ⟨index, hindex, hshared⟩ := majorities_meet hhonest hagainst.enough
    obtain ⟨receipt, hreceipt⟩ := hmined index hindex (by
      intro block hblock
      obtain ⟨tip, htip, hmin, -⟩ := hagainst.covered (.inl (by rw [hblock]; rfl)) index hshared
      exact (hmin block hblock).trans (hrecorded index hindex tip htip))
    rw [hagainst.denials index hshared] at hreceipt
    cases hreceipt

end Lazier.Quorum
