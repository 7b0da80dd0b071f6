import Lazier.Quorum.Receipts

/-!
# Manufactured conflicts

A receipt conflict pauses a pathway, so the providers outside an honest
majority should not be able to produce one.  They can when the honest providers
that are able to judge a claimed block are too few to outvote them and enough
to reach a majority together with them, and for an absent transaction they can
turn the answer into an error of their own when too few honest providers reach
the minimum block.  The exact condition is stated here.
-/

namespace Lazier.Quorum

open Chain Finset Library Store Option

variable {bar : ℕ}

/-- The receipt of a transaction that is in a block. -/
structure Mined where
  receipt : Receipt
  block : ℕ
  placed : receipt.blockNumber = some block

/-- A majority of honest providers, with their tips on one chain, and the
transaction on that chain, if it is there. -/
structure HonestChain (total : ℕ) where
  honest : Finset (Fin total)
  enough : majority total ≤ honest.card
  tip : Fin total → ℕ
  mined : Option Mined

namespace HonestChain

variable {total : ℕ} (chain : HonestChain total)

/-- The true receipt, once the tip covers its block. -/
def answer (index : Fin total) : ReceiptAnswer :=
  match chain.mined with
  | none => .notFound
  | some mined =>
    if mined.block ≤ chain.tip index then .receipt mined.receipt
    else .notFound

/-- A lookup in which the honest providers answer truthfully and their recorded
tips are their own.  The other providers are free. -/
structure Truthful (round : ReceiptRound total) : Prop where
  answers : ∀ index ∈ chain.honest, round.answers index = chain.answer index
  tips : ∀ index ∈ chain.honest, snapshotTip round.snapshot index = some (chain.tip index)

/-- The honest providers that return the receipt. -/
def reporting : Finset (Fin total) :=
  chain.honest.filter fun index => (chain.answer index).fingerprint.isSome

/-- The honest providers whose answer counts against a candidate at `block`. -/
def comparable (block : ℕ) : Finset (Fin total) := chain.honest.filter fun index =>
    (chain.answer index).fingerprint.isSome ∨ block ≤ chain.tip index

/-- The lowest block that the candidates of a lookup can be taken to. -/
def lowestBar (minBlock : Option ℕ) : ℕ := max (minBlock.getD 0)
    (if chain.reporting.Nonempty then
      (chain.mined.map Mined.block).getD 0 else 0)

/-- At every block the honest providers that can judge it are a majority, or
are none even together with all the other providers. -/
def Decisive (minBlock : Option ℕ) : Prop := ∀ block, chain.lowestBar minBlock ≤ block →
    majority total ≤ (chain.comparable block).card ∨
    (chain.comparable block).card + chain.honestᶜ.card < majority total

/-- Either no other provider can fail, or a majority of honest providers reaches
the minimum block. -/
def Reached (minBlock : Option ℕ) : Prop := chain.mined = none → ∀ block ∈ minBlock,
    majority total ≤ (chain.comparable block).card ∨ chain.honestᶜ = ∅

variable {chain} {index : Fin total}

theorem mem_comparable {block : ℕ} :
    index ∈ chain.comparable block ↔ index ∈ chain.honest ∧
      ((chain.answer index).fingerprint.isSome ∨ block ≤ chain.tip index) := mem_filter

theorem answer_eq_receipt (hanswer : (chain.answer index).fingerprint.isSome) :
    ∃ mined, chain.mined = some mined ∧ mined.block ≤ chain.tip index ∧
      chain.answer index = .receipt mined.receipt := by
  cases hmined : chain.mined with
  | none => simp [answer, hmined, ReceiptAnswer.fingerprint] at hanswer
  | some mined =>
    by_cases hcovered : mined.block ≤ chain.tip index
    · exact ⟨mined, rfl, hcovered, by simp [answer, hmined, hcovered]⟩
    · simp [answer, hmined, hcovered, ReceiptAnswer.fingerprint] at hanswer

theorem answer_eq_notFound (hanswer : ¬ (chain.answer index).fingerprint.isSome) :
    chain.answer index = .notFound := by
  unfold answer at hanswer ⊢
  split at hanswer
  · rfl
  split at hanswer
  · exact absurd rfl hanswer
  · rename_i hcovered
    exact if_neg hcovered

theorem answer_absent (hmined : chain.mined = none) : chain.answer index = .notFound := by
  rw [answer, hmined]

theorem answer_of_covered (hreporting : chain.reporting.Nonempty) :
    ∃ mined, chain.mined = some mined ∧ ∀ index, mined.block ≤ chain.tip index →
        chain.answer index = .receipt mined.receipt := by
  obtain ⟨witness, hwitness⟩ := hreporting
  obtain ⟨mined, hmined, -, -⟩ := answer_eq_receipt (mem_filter.mp hwitness).2
  refine ⟨mined, hmined, fun index hcovered => ?_⟩
  simp [answer, hmined, hcovered]

theorem others_lt : chain.honestᶜ.card < majority total := by
  have hsplit := card_add_card_compl chain.honest
  rw [Fintype.card_fin] at hsplit
  have henough := chain.enough
  unfold majority at henough ⊢
  omega

theorem total_ne_zero (chain : HonestChain total) : total ≠ 0 := by
  have hcard := card_le_univ chain.honest
  rw [Fintype.card_fin] at hcard
  have hpos : 0 < majority total := Nat.succ_pos _
  have henough := chain.enough
  omega

/-! ## The evidence of a truthful lookup -/

variable {round : ReceiptRound total} {block : ℕ}

section

variable (htruthful : chain.Truthful round)

include htruthful

theorem Truthful.reports (hhonest : index ∈ chain.honest) (hreport : index ∈ reporters round) :
    (chain.answer index).fingerprint.isSome := by
  have hsome := (mem_filter.mp hreport).2
  rwa [fingerprints, htruthful.answers index hhonest] at hsome

/-- Receipts and unexcused denials come from the honest providers that can
judge the block and from the others. -/
theorem Truthful.evidence_subset :
    reporters round ∪ deniers round block ⊆ chain.comparable block ∪ chain.honestᶜ := by
  intro index hindex
  by_cases hhonest : index ∈ chain.honest
  · refine mem_union_left _ (mem_comparable.mpr ⟨hhonest, ?_⟩)
    rcases mem_union.mp hindex with hreport | hdeny
    · exact .inl (htruthful.reports hhonest hreport)
    · obtain ⟨-, tip, htip, hle⟩ := mem_deniers.mp hdeny
      rw [htruthful.tips index hhonest, some.injEq] at htip
      exact .inr (htip ▸ hle)
  · exact mem_union_right _ (mem_compl.mpr hhonest)

theorem Truthful.comparable_subset :
    chain.comparable block ⊆ reporters round ∪ deniers round block := by
  intro index hindex
  obtain ⟨hhonest, hjudge⟩ := mem_comparable.mp hindex
  have hanswer := htruthful.answers index hhonest
  by_cases hsome : (chain.answer index).fingerprint.isSome
  · refine mem_union_left _ (mem_filter.mpr ⟨mem_univ _, ?_⟩)
    rw [fingerprints, hanswer]
    exact hsome
  · refine mem_union_right _ (mem_deniers.mpr
      ⟨hanswer.trans (answer_eq_notFound hsome), chain.tip index,
        htruthful.tips index hhonest, hjudge.resolve_left hsome⟩)

end

theorem card_evidence : (reporters round ∪ deniers round block).card =
      (reporters round).card + (deniers round block).card := by
  refine card_union_of_disjoint (disjoint_left.mpr ?_)
  intro index hreport hdeny
  have hsome := (mem_filter.mp hreport).2
  rw [fingerprints, (mem_deniers.mp hdeny).1] at hsome
  cases hsome

theorem card_comparable_others : (chain.comparable block ∪ chain.honestᶜ).card =
      (chain.comparable block).card + chain.honestᶜ.card := by
  refine card_union_of_disjoint (disjoint_left.mpr ?_)
  intro index hcomparable hother
  exact mem_compl.mp hother (mem_comparable.mp hcomparable).1

/-! ## Decisive configurations -/

variable {chainName : String} {txHash : Hash} {minBlock : Option ℕ} {details : List String}

/-- What a conflict says about the evidence. -/
theorem evidence_of_conflict (hconflict : transactionReceiptAt chainName round txHash minBlock =
      .error (.receiptConflict txHash details)) : ∃ tally, Undecided round tally ∧
      unexcusedNotFound round minBlock tally < majority total ∧
      majority total ≤ (reporters round).card +
        unexcusedNotFound round minBlock tally := by
  by_cases htotal : total = 0
  · rw [transactionReceiptAt, if_pos htotal] at hconflict
    cases hconflict
  rcases transactionReceiptAt_cases chainName round txHash minBlock htotal with
    ⟨receipt, hok, -⟩ | ⟨tally, hundecided, herror⟩
  · rw [hok] at hconflict
    cases hconflict
  refine ⟨tally, hundecided, ?_⟩
  rw [herror, Except.error.injEq] at hconflict
  split at hconflict
  · simp only [resolveAbsent] at hconflict
    split_ifs at hconflict
  · simp only [resolveCandidates] at hconflict
    split at hconflict
    · cases hconflict
    rename_i hfew
    split at hconflict
    · rename_i hcomparable
      rw [hundecided.votes] at hcomparable
      exact ⟨Nat.lt_of_not_le hfew, hcomparable.1⟩
    · cases hconflict

section

variable {tally : Tally} (htruthful : chain.Truthful round)

include htruthful

theorem Truthful.lowestBar_le (hundecided : Undecided round tally) {highest : ℕ}
    (hhighest : highestCandidateBlock tally.candidates minBlock = some highest) :
    chain.lowestBar minBlock ≤ highest := by
  have hbelow := (highestCandidateBlock_eq_some.mp hhighest).2
  refine max_le ?_ ?_
  · cases hmin : minBlock with
    | none => exact Nat.zero_le _
    | some number => exact hbelow number (.inr hmin)
  · split
    · rename_i hreporting
      obtain ⟨index, hindex⟩ := hreporting
      obtain ⟨hhonest, hsome⟩ := mem_filter.mp hindex
      obtain ⟨mined, hmined, -, hanswer⟩ := answer_eq_receipt hsome
      obtain ⟨entry, hentry, -, hblock⟩ := hundecided.candidate_block
        ((htruthful.answers index hhonest).trans hanswer)
      rw [hmined]
      exact hbelow mined.block (.inl ⟨entry, hentry, hblock.trans mined.placed⟩)
    · exact Nat.zero_le _

/-- A majority of honest providers that can judge the highest block settles the
lookup. -/
theorem Truthful.comparable_lt (hundecided : Undecided round tally)
    (hbar : chain.lowestBar minBlock ≤ block) (hfew : (deniers round block).card < majority total) :
    (chain.comparable block).card < majority total := by
  by_cases hreporting : chain.reporting.Nonempty
  · obtain ⟨mined, hmined, hcovered⟩ := answer_of_covered hreporting
    have hblock : mined.block ≤ block := by
      refine le_trans ?_ hbar
      simp [lowestBar, hreporting, hmined]
    refine lt_of_le_of_lt (card_le_card ?_)
      (hundecided.minority (receiptFingerprint mined.receipt))
    intro index hindex
    obtain ⟨hhonest, hjudge⟩ := mem_comparable.mp hindex
    have htip : mined.block ≤ chain.tip index := by
      rcases hjudge with hsome | hle
      · obtain ⟨other, hother, hle, -⟩ := answer_eq_receipt hsome
        rw [hmined, some.injEq] at hother
        exact hother ▸ hle
      · exact hblock.trans hle
    rw [mem_supporters, fingerprints, htruthful.answers index hhonest, hcovered index htip]
    rfl
  · refine lt_of_le_of_lt (card_le_card ?_) hfew
    intro index hindex
    have hevidence := htruthful.comparable_subset hindex
    refine (mem_union.mp hevidence).resolve_left fun hreport => ?_
    have hhonest := (mem_comparable.mp hindex).1
    exact hreporting ⟨index, mem_filter.mpr ⟨hhonest, htruthful.reports hhonest hreport⟩⟩

theorem Truthful.no_conflict (hdecisive : chain.Decisive minBlock) :
    transactionReceiptAt chainName round txHash minBlock ≠
      .error (.receiptConflict txHash details) := by
  intro hconflict
  obtain ⟨tally, hundecided, hfew, hmany⟩ := evidence_of_conflict hconflict
  rw [unexcusedNotFound] at hfew hmany
  cases hhighest : highestCandidateBlock tally.candidates minBlock with
  | none =>
    -- Only receipts without a block: none of them is an honest one.
    simp only [hhighest, Nat.add_zero] at hmany
    refine absurd (hmany.trans (card_le_card ?_)) (Nat.not_le.mpr chain.others_lt)
    intro index hindex
    rw [mem_compl]
    intro hhonest
    obtain ⟨mined, -, -, hanswer⟩ := answer_eq_receipt (htruthful.reports hhonest hindex)
    obtain ⟨entry, hentry, -, hblock⟩ := hundecided.candidate_block
      ((htruthful.answers index hhonest).trans hanswer)
    have hraised : ∃ height, highestCandidateBlock tally.candidates
        minBlock = some height ∧ mined.block ≤ height := le_highestCandidateBlock
        (.inl ⟨entry, hentry, hblock.trans mined.placed⟩)
    simp [hhighest] at hraised
  | some highest =>
    simp only [hhighest] at hfew hmany
    have hbar := htruthful.lowestBar_le hundecided hhighest
    have hminority := htruthful.comparable_lt hundecided hbar hfew
    have hsubset : (reporters round ∪ deniers round highest).card ≤
        (chain.comparable highest ∪ chain.honestᶜ).card :=
      card_le_card htruthful.evidence_subset
    rw [card_evidence, card_comparable_others] at hsubset
    rcases hdecisive highest hbar with hmajority | hnone
    · omega
    · omega

/-! ## Absent transactions -/

variable (hmined : chain.mined = none)

include hmined

/-- Only the other providers can return a receipt. -/
theorem Truthful.supporters_lt (fingerprint : String) :
    (supporters (fingerprints round) fingerprint).card < majority total := by
  refine lt_of_le_of_lt (card_le_card fun index hindex => ?_) chain.others_lt
  rw [mem_compl]
  intro hhonest
  rw [mem_supporters, fingerprints, htruthful.answers index hhonest, answer_absent hmined] at hindex
  cases hindex

theorem Truthful.comparable_le_deniers :
    (chain.comparable block).card ≤ (deniers round block).card := by
  refine card_le_card fun index hindex => ?_
  obtain ⟨hhonest, hjudge⟩ := mem_comparable.mp hindex
  rw [answer_absent hmined] at hjudge
  exact mem_deniers.mpr ⟨(htruthful.answers index hhonest).trans (answer_absent hmined),
    chain.tip index, htruthful.tips index hhonest, hjudge.resolve_left nofun⟩

/-- Without a receipt the negative answer is one of the two. -/
theorem Truthful.resolveAbsent (hundecided : Undecided round tally)
    (hreached : chain.Reached minBlock) :
    Quorum.resolveAbsent chainName round minBlock tally = .notFound ∨
      ∃ details, Quorum.resolveAbsent chainName round minBlock tally =
        .quorumUnavailable chainName details := by
  simp only [Quorum.resolveAbsent]
  split_ifs with hquorum hfailed
  · exact .inl rfl
  · exfalso
    cases minBlock with
    | none =>
      -- Every honest provider denies the transaction.
      refine hquorum (chain.enough.trans ?_)
      rw [hundecided.denials]
      refine card_le_card fun index hhonest => mem_filter.mpr ⟨mem_univ _, ?_⟩
      rw [htruthful.answers index hhonest, answer_absent hmined]
    | some block =>
      rcases hreached hmined block rfl with hmajority | hothers
      · exact hquorum (hmajority.trans (htruthful.comparable_le_deniers hmined))
      · refine hfailed ?_
        rw [hundecided.failures, List.filterMap_eq_nil_iff]
        intro index _
        have hhonest : index ∈ chain.honest := by
          rw [compl_eq_empty_iff] at hothers
          exact hothers ▸ mem_univ index
        rw [htruthful.answers index hhonest, answer_absent hmined]
        rfl
  · exact .inr ⟨_, rfl⟩

theorem Truthful.absent (hreached : chain.Reached minBlock)
    (hpeaceful : ∀ details, transactionReceiptAt chainName round txHash minBlock ≠
      .error (.receiptConflict txHash details)) :
    transactionReceiptAt chainName round txHash minBlock = .error .notFound ∨
      ∃ details, transactionReceiptAt chainName round txHash minBlock =
        .error (.quorumUnavailable chainName details) := by
  rcases transactionReceiptAt_cases chainName round txHash minBlock chain.total_ne_zero with
    ⟨receipt, -, hmajority⟩ | ⟨tally, hundecided, herror⟩
  · exact absurd hmajority (Nat.not_le.mpr (htruthful.supporters_lt hmined _))
  rw [herror] at hpeaceful ⊢
  simp only [Except.error.injEq, ne_eq] at hpeaceful ⊢
  split_ifs at hpeaceful ⊢ with hcandidates
  · exact htruthful.resolveAbsent hmined hundecided hreached
  · simp only [resolveCandidates] at hpeaceful ⊢
    split_ifs at hpeaceful ⊢
    · exact .inl rfl
    · exact absurd rfl (hpeaceful _)
    · exact .inr ⟨_, rfl⟩

end

/-- The lookup in which every other provider gives the answer. -/
def hostileRound (chain : HonestChain total) (answer : ReceiptAnswer) : ReceiptRound total where
  answers index := if index ∈ chain.honest then chain.answer index else answer
  order := List.finRange total
  complete := List.Perm.refl _
  snapshot := some ⟨0, Hash.zero, fun index => some (chain.tip index)⟩

variable {answer : ReceiptAnswer} {tally : Tally}

theorem hostileRound_truthful : chain.Truthful (chain.hostileRound answer) where
  answers _ hhonest := if_pos hhonest
  tips _ _ := rfl

theorem hostileRound_other (hother : index ∈ chain.honestᶜ) :
    (chain.hostileRound answer).answers index = answer := if_neg (mem_compl.mp hother)

theorem hostileRound_deniers (hanswer : answer ≠ .notFound) :
    (deniers (chain.hostileRound answer) bar).card ≤ (chain.comparable bar).card := by
  refine card_le_card fun index hdeny => ?_
  have hevidence := chain.hostileRound_truthful.evidence_subset (mem_union_right _ hdeny)
  refine (mem_union.mp hevidence).resolve_right fun hother => hanswer ?_
  exact (hostileRound_other hother).symm.trans (mem_deniers.mp hdeny).1

/-- The lookup in which every other provider fails. -/
def failingRound (chain : HonestChain total) : ReceiptRound total :=
  chain.hostileRound (.failed "unreachable")

/-- Below a majority at the minimum block, one failure decides the answer. -/
theorem failingRound_transient (hmined : chain.mined = none)
    (hfew : (chain.comparable block).card < majority total) (hother : chain.honestᶜ.Nonempty) :
    ∃ messages, transactionReceiptAt chainName chain.failingRound txHash (some block) =
      .error (.transient messages) := by
  have htruthful : chain.Truthful chain.failingRound := hostileRound_truthful
  rcases transactionReceiptAt_cases chainName chain.failingRound txHash (some block)
    chain.total_ne_zero with ⟨receipt, -, hmajority⟩ | ⟨tally, hundecided, herror⟩
  · exact absurd hmajority (Nat.not_le.mpr (htruthful.supporters_lt hmined _))
  have hsilent : ∀ index receipt, chain.failingRound.answers index ≠ .receipt receipt := by
    intro index receipt
    simp only [failingRound, hostileRound, answer_absent hmined]
    split_ifs <;> nofun
  have hcandidates : tally.candidates = [] := by
    refine List.eq_nil_iff_forall_not_mem.mpr fun entry hentry => ?_
    obtain ⟨index, hanswer, -⟩ := hundecided.returned entry hentry
    exact hsilent index _ hanswer
  have hdenials : (deniers chain.failingRound block).card < majority total :=
    lt_of_le_of_lt (hostileRound_deniers (by simp)) hfew
  have hfailed : tally.transientErrs ≠ [] := by
    obtain ⟨other, hother⟩ := hother
    rw [hundecided.failures]
    have hfailure : (chain.failingRound.answers other).failure = some "unreachable" :=
      congrArg _ (hostileRound_other hother)
    exact List.ne_nil_of_mem (List.mem_filterMap.mpr ⟨other, List.mem_finRange other, hfailure⟩)
  refine ⟨tally.transientErrs, ?_⟩
  rw [herror, if_pos hcandidates, Quorum.resolveAbsent]
  simp only [if_neg (Nat.not_le.mpr hdenials), if_pos hfailed]

/-! ## Forged lookups -/

/-- What the other providers return: at the honest receipt's block another
receipt, and without an honest receipt one at `block`. -/
def forged (chain : HonestChain total) (block : ℕ) : Receipt :=
  if chain.reporting.Nonempty then
    match chain.mined with
    | some mined => { mined.receipt with gasUsed := mined.receipt.gasUsed + 1 }
    | none => ⟨Hash.zero, 1, some block, Hash.zero, 0, none, []⟩
  else ⟨Hash.zero, 1, some block, Hash.zero, 0, none, []⟩

/-- The lookup in which every other provider returns the forged receipt. -/
def forgedRound (chain : HonestChain total) (block : ℕ) : ReceiptRound total :=
  chain.hostileRound (.receipt (chain.forged block))

theorem forgedRound_truthful (block : ℕ) : chain.Truthful (chain.forgedRound block) :=
  hostileRound_truthful

/-- The block of every receipt of the forged lookup. -/
def forgedBlock (chain : HonestChain total) (block : ℕ) : ℕ :=
  if chain.reporting.Nonempty then
    (chain.mined.map Mined.block).getD block else block

theorem forgedRound_block {receipt : Receipt}
    (hanswer : (chain.forgedRound block).answers index = .receipt receipt) :
    receipt.blockNumber = some (chain.forgedBlock block) := by
  by_cases hhonest : index ∈ chain.honest
  · rw [(chain.forgedRound_truthful block).answers index hhonest] at hanswer
    have hsome : (chain.answer index).fingerprint.isSome := by
      rw [hanswer]
      rfl
    obtain ⟨mined, hmined, -, hreceipt⟩ := answer_eq_receipt hsome
    have hreporting : chain.reporting.Nonempty := ⟨index, mem_filter.mpr ⟨hhonest, hsome⟩⟩
    rw [hanswer, ReceiptAnswer.receipt.injEq] at hreceipt
    rw [hreceipt, mined.placed, forgedBlock, if_pos hreporting, hmined]
    rfl
  · rw [forgedRound, hostileRound_other (mem_compl.mpr hhonest),
      ReceiptAnswer.receipt.injEq] at hanswer
    rw [← hanswer]
    unfold forged forgedBlock
    split
    · cases hmined : chain.mined with
      | none => rfl
      | some mined => exact mined.placed
    · rfl

theorem forged_fingerprint_ne (hhonest : index ∈ chain.honest) :
    (chain.answer index).fingerprint ≠ some (receiptFingerprint (chain.forged block)) := by
  intro heq
  have hsome : (chain.answer index).fingerprint.isSome := by
    rw [heq]
    rfl
  obtain ⟨mined, hmined, -, hanswer⟩ := answer_eq_receipt hsome
  have hreporting : chain.reporting.Nonempty := ⟨index, mem_filter.mpr ⟨hhonest, hsome⟩⟩
  rw [hanswer] at heq
  have hgas := congrArg Receipt.gasUsed (receiptFingerprint_injective (some.inj heq))
  simp [forged, hreporting, hmined] at hgas

theorem forgedRound_minority (hfew : (chain.comparable block).card < majority total)
    (fingerprint : String) :
    (supporters (fingerprints (chain.forgedRound block)) fingerprint).card < majority total := by
  have hanswers := (chain.forgedRound_truthful block).answers
  by_cases hforged : fingerprint = receiptFingerprint (chain.forged block)
  · refine lt_of_le_of_lt (card_le_card ?_) chain.others_lt
    intro index hindex
    rw [mem_compl]
    intro hhonest
    rw [mem_supporters, fingerprints, hanswers index hhonest] at hindex
    exact forged_fingerprint_ne hhonest (hindex.trans (by rw [hforged]))
  · refine lt_of_le_of_lt (card_le_card ?_) hfew
    intro index hindex
    rw [mem_supporters, fingerprints] at hindex
    by_cases hhonest : index ∈ chain.honest
    · rw [hanswers index hhonest] at hindex
      exact mem_comparable.mpr ⟨hhonest, .inl (by rw [hindex]; rfl)⟩
    · rw [forgedRound, hostileRound_other (mem_compl.mpr hhonest)] at hindex
      exact absurd (some.inj hindex).symm hforged

/-- The bar that the forged lookup sets. -/
def forgedBar (chain : HonestChain total) (block : ℕ) (minBlock : Option ℕ) : ℕ :=
  max (chain.forgedBlock block) (minBlock.getD 0)

theorem forgedRound_highest (hundecided : Undecided (chain.forgedRound block) tally)
    (hcandidates : tally.candidates ≠ []) : highestCandidateBlock tally.candidates minBlock =
      some (chain.forgedBar block minBlock) := by
  have hblocks : ∀ entry ∈ tally.candidates,
      entry.ballot.blockNumber = some (chain.forgedBlock block) := by
    intro entry hentry
    obtain ⟨index, hanswer, -⟩ := hundecided.returned entry hentry
    exact forgedRound_block hanswer
  obtain ⟨entry, hentry⟩ := List.exists_mem_of_ne_nil _ hcandidates
  have hforged : InQuestion tally.candidates minBlock (chain.forgedBlock block) :=
    .inl ⟨entry, hentry, hblocks entry hentry⟩
  refine highestCandidateBlock_eq_some.mpr ⟨?_, ?_⟩
  · unfold forgedBar
    cases minBlock with
    | none => exact (max_eq_left (Nat.zero_le _)).symm ▸ hforged
    | some number =>
      rcases max_choice (chain.forgedBlock block) number with hmax | hmax
      · exact hmax.symm ▸ hforged
      · exact .inr (congrArg some hmax.symm)
  · rintro number (⟨other, hother, hblock⟩ | rfl)
    · rw [hblocks other hother, some.injEq] at hblock
      exact hblock ▸ le_max_left _ _
    · exact le_max_right _ _

theorem comparable_forgedBar (hbar : chain.lowestBar minBlock ≤ block) :
    chain.comparable (chain.forgedBar block minBlock) = chain.comparable block := by
  have hminimum : minBlock.getD 0 ≤ block := (le_max_left _ _).trans hbar
  by_cases hreporting : chain.reporting.Nonempty
  · obtain ⟨mined, hmined, hcovered⟩ := answer_of_covered hreporting
    have hblock : mined.block ≤ block := by
      refine le_trans ?_ hbar
      simp [lowestBar, hreporting, hmined]
    have hforged : mined.block ≤ chain.forgedBar block minBlock := by
      simp [forgedBar, forgedBlock, hreporting, hmined]
    -- Above the receipt's block, judging and returning it are the same.
    have hjudge : ∀ bar, mined.block ≤ bar → chain.comparable bar = chain.reporting := by
      intro bar hle
      refine filter_congr fun index _ => ?_
      refine or_iff_left_of_imp fun htip => ?_
      rw [hcovered index (hle.trans htip)]
      rfl
    rw [hjudge _ hforged, hjudge _ hblock]
  · simp [forgedBar, forgedBlock, hreporting, hminimum]

theorem forgedRound_evidence : (chain.comparable bar).card + chain.honestᶜ.card ≤
      (reporters (chain.forgedRound block)).card +
        (deniers (chain.forgedRound block) bar).card := by
  rw [← card_comparable_others, ← card_evidence]
  refine card_le_card (union_subset
    (chain.forgedRound_truthful block).comparable_subset ?_)
  intro index hother
  refine mem_union_left _ (mem_filter.mpr ⟨mem_univ _, ?_⟩)
  rw [fingerprints, forgedRound, hostileRound_other hother]
  rfl

/-- Without an honest denial some honest provider returned the receipt, next to
the forged one. -/
theorem forgedRound_split (hundecided : Undecided (chain.forgedRound block) tally)
    (hother : chain.honestᶜ.Nonempty) (hcomparable : (chain.comparable bar).Nonempty) :
    1 < tally.candidates.length ∨
      0 < (deniers (chain.forgedRound block) bar).card := by
  obtain ⟨other, hother⟩ := hother
  obtain ⟨index, hindex⟩ := hcomparable
  rcases mem_union.mp ((chain.forgedRound_truthful block).comparable_subset hindex) with
    hreport | hdeny
  · left
    have hhonest := (mem_comparable.mp hindex).1
    have hanswers := (chain.forgedRound_truthful block).answers index hhonest
    obtain ⟨mined, -, -, hanswer⟩ :=
      answer_eq_receipt ((chain.forgedRound_truthful block).reports hhonest hreport)
    have hne : receiptFingerprint mined.receipt ≠ receiptFingerprint (chain.forged block) := by
      intro heq
      have hsame : (chain.answer index).fingerprint =
          some (receiptFingerprint (chain.forged block)) := by
        rw [hanswer, ← heq]
        rfl
      exact forged_fingerprint_ne hhonest hsame
    have hhonestKey := hundecided.represented index _ (hanswers.trans hanswer)
    have hforgedKey := hundecided.represented other _ (hostileRound_other hother)
    -- Two different keys need two entries.
    match htally : tally.candidates with
    | [] =>
      rw [htally] at hhonestKey
      cases hhonestKey
    | [entry] =>
      rw [htally, List.map_singleton, List.mem_singleton] at hhonestKey hforgedKey
      exact absurd (hhonestKey.trans hforgedKey.symm) hne
    | _ :: _ :: rest =>
      rw [List.length_cons, List.length_cons]
      omega
  · exact .inr (card_pos.mpr ⟨index, hdeny⟩)

theorem forgedRound_conflict (hbar : chain.lowestBar minBlock ≤ block)
    (hfew : (chain.comparable block).card < majority total)
    (hmany : majority total ≤ (chain.comparable block).card + chain.honestᶜ.card) :
    transactionReceiptAt chainName (chain.forgedRound block) txHash minBlock =
      .error (.receiptConflict txHash
        (receiptConflictDetails (chain.forgedRound block).answers)) := by
  have hothers := chain.others_lt
  have hother : chain.honestᶜ.Nonempty := card_pos.mp (by omega)
  have hhonest : (chain.comparable block).Nonempty := card_pos.mp (by omega)
  rw [← comparable_forgedBar hbar] at hmany hhonest
  rcases transactionReceiptAt_cases chainName (chain.forgedRound block) txHash
    minBlock chain.total_ne_zero with
    ⟨receipt, -, hmajority⟩ | ⟨tally, hundecided, herror⟩
  · exact absurd hmajority (Nat.not_le.mpr (forgedRound_minority hfew (receiptFingerprint receipt)))
  have hcandidates : tally.candidates ≠ [] := by
    intro hnone
    obtain ⟨other, hother⟩ := hother
    have hkey := hundecided.represented other _ (hostileRound_other hother)
    rw [hnone] at hkey
    cases hkey
  have hunexcused : unexcusedNotFound (chain.forgedRound block) minBlock
      tally = (deniers (chain.forgedRound block) (chain.forgedBar block minBlock)).card := by
    rw [unexcusedNotFound, forgedRound_highest hundecided hcandidates]
  have hdenials : (deniers (chain.forgedRound block)
      (chain.forgedBar block minBlock)).card < majority total := by
    refine lt_of_le_of_lt (hostileRound_deniers (by simp)) ?_
    rwa [comparable_forgedBar hbar]
  have hevidence : majority total ≤ (reporters (chain.forgedRound block)).card +
        (deniers (chain.forgedRound block) (chain.forgedBar block minBlock)).card :=
    hmany.trans forgedRound_evidence
  have hsplit := forgedRound_split hundecided hother hhonest
  rw [herror, if_neg hcandidates, resolveCandidates, hunexcused,
    hundecided.votes, if_neg (Nat.not_le.mpr hdenials), if_pos ⟨hevidence, hsplit⟩]

end HonestChain

/-- The providers outside an honest majority cannot manufacture a receipt
conflict, and an absent transaction is answered as not found or as an
unavailable quorum, exactly when the honest providers are decisive and enough of
them reach the minimum block. -/
theorem no_conflict_iff_decisive {total : ℕ} (chain : HonestChain total) (chainName : String)
    (txHash : Hash) (minBlock : Option ℕ) :
    (∀ round, chain.Truthful round →
      (∀ details, transactionReceiptAt chainName round txHash minBlock ≠
        .error (.receiptConflict txHash details)) ∧
      (chain.mined = none →
        transactionReceiptAt chainName round txHash minBlock = .error .notFound ∨
        ∃ details, transactionReceiptAt chainName round txHash minBlock =
          .error (.quorumUnavailable chainName details))) ↔
      chain.Decisive minBlock ∧ chain.Reached minBlock := by
  constructor
  · intro hsafe
    constructor
    · intro block hbar
      by_contra hnot
      rw [not_or, Nat.not_le, Nat.not_lt] at hnot
      exact (hsafe (chain.forgedRound block) (chain.forgedRound_truthful block)).1 _
        (HonestChain.forgedRound_conflict hbar hnot.1 hnot.2)
    · intro hmined block hblock
      by_contra hnot
      rw [not_or, Nat.not_le, ← ne_eq, ← nonempty_iff_ne_empty] at hnot
      rw [mem_def.mp hblock] at hsafe
      obtain ⟨messages, hfailed⟩ : ∃ messages, transactionReceiptAt chainName chain.failingRound
          txHash (some block) = .error (.transient messages) :=
        HonestChain.failingRound_transient hmined hnot.1 hnot.2
      rcases (hsafe chain.failingRound HonestChain.hostileRound_truthful).2 hmined with
        hanswer | ⟨_, hanswer⟩ <;> cases hfailed.symm.trans hanswer
  · rintro ⟨hdecisive, hreached⟩ round htruthful
    have hpeaceful : ∀ details, transactionReceiptAt chainName round txHash minBlock ≠
        .error (.receiptConflict txHash details) := fun _ => htruthful.no_conflict hdecisive
    exact ⟨hpeaceful, fun hmined => htruthful.absent hmined hreached hpeaceful⟩

/-- Two honest providers at heights 10 and 20 that both lack the
transaction. -/
def splitTips : HonestChain 3 where
  honest := univ.filter (·.val < 2)
  enough := by decide
  tip index := if index.val = 0 then 10 else 20
  mined := none

/-- One provider claims a receipt at height 15, which only one honest provider
can judge. -/
def inventedReceipt : ReceiptRound 3 where
  answers index :=
    if index.val = 2 then
      .receipt ⟨Hash.zero, 1, some 15, Hash.zero, 21000, none, []⟩
    else .notFound
  order := (List.finRange 3).reverse
  complete := List.reverse_perm _
  snapshot := some ⟨20, Hash.zero, fun index =>
    some (if index.val = 0 then 10 else 20)⟩

theorem inventedReceipt_conflicts : splitTips.Truthful inventedReceipt ∧
    transactionReceiptAt "sample" inventedReceipt Hash.zero none =
      .error (.receiptConflict Hash.zero (receiptConflictDetails inventedReceipt.answers)) := by
  constructor
  · constructor
    · intro index hindex
      fin_cases hindex <;> rfl
    · intro index hindex
      fin_cases hindex <;> rfl
  · decide +kernel

end Lazier.Quorum
