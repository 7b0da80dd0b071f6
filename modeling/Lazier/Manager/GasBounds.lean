import Lazier.Manager.EstimateVotes
import Lazier.Quorum.OrderFree

/-!
# Gas estimates of a hostile minority

The upper median of the estimates lies between two honest ones, whatever a
minority answers, so the bounds around it do not wrap and the estimate is at
most twice an honest one.
-/

namespace Lazier.Manager

open Library Quorum List

/-! ## Ranks -/

/-- In a list along which a property is lost for good, an entry has it exactly
if its rank is below their number. -/
theorem holds_iff_lt_countP {Value : Type} {values : List Value} {holds : Value → Bool}
    (hlost : values.Pairwise fun earlier later => holds later → holds earlier) {rank : ℕ}
    {value : Value} (hvalue : values[rank]? = some value) :
    holds value ↔ rank < values.countP holds := by
  induction values generalizing rank with
  | nil => cases hvalue
  | cons first rest ih =>
    obtain ⟨hfirst, hrest⟩ := pairwise_cons.mp hlost
    rw [countP_cons]
    cases rank with
    | zero =>
      cases hvalue
      by_cases hholds : holds value
      · simp [hholds]
      · simpa [hholds] using fun later hlater hholds' => hholds (hfirst later hlater hholds')
    | succ rank =>
      rw [List.getElem?_cons_succ] at hvalue
      by_cases hholds : holds first
      · simp [hholds, ih hrest hvalue]
      · have hnone : rest.countP holds = 0 := by
          simpa using fun later hlater hholds' => hholds (hfirst later hlater hholds')
        have hlast := mt (hfirst value (mem_of_getElem? hvalue)) hholds
        simp [hholds, hnone, hlast]

/-! ## The median -/

variable {total : ℕ} {chainName : String}

/-- A quorum of honest providers with estimates below `2 ^ 63`, beside any
others. -/
structure HonestQuorum (round : EstimateRound total) where
  honest : Finset (Fin total)
  estimate : Fin total → UInt64
  quorum : majority total ≤ honest.card
  answers : ∀ index ∈ honest, round.answers index = .value (estimate index)
  small : ∀ index ∈ honest, (estimate index).toNat < 2 ^ 63

/-- The median that the bounds are computed from. -/
def upperMedian (successes : List UInt64) : UInt64 :=
  let sorted := successes.insertionSort (· ≤ ·)
  sorted.getD (sorted.length / 2) 0

section Median

variable {successes : List UInt64}

theorem upperMedian_getElem? (hsome : successes ≠ []) :
    (successes.insertionSort (· ≤ ·))[successes.length / 2]? = some (upperMedian successes) := by
  have hrank : successes.length / 2 < successes.length :=
    Nat.div_lt_self (length_pos_of_ne_nil hsome) (by decide)
  simp [upperMedian, List.getD, hrank]

theorem upperMedian_mem (hsome : successes ≠ []) : upperMedian successes ∈ successes :=
  (perm_insertionSort _ _).mem_iff.mp (mem_of_getElem? (upperMedian_getElem? hsome))

/-- The median is below a bound exactly if more than half of the estimates
are. -/
theorem upperMedian_lt_iff (hsome : successes ≠ []) {bound : ℕ} :
    (upperMedian successes).toNat < bound ↔
      successes.length / 2 < successes.countP fun gas => gas.toNat < bound := by
  rw [← (perm_insertionSort (· ≤ ·) successes).countP_eq,
    ← holds_iff_lt_countP ?_ (upperMedian_getElem? hsome), decide_eq_true_eq]
  refine (pairwise_insertionSort (· ≤ ·) successes).imp fun hle hless => ?_
  rw [decide_eq_true_eq] at hless ⊢
  exact (UInt64.le_iff_toNat_le.mp hle).trans_lt hless

end Median

def successes (round : EstimateRound total) : List UInt64 :=
  (collectGas round.answers round.order).successes

namespace HonestQuorum

variable {round : EstimateRound total} (providers : HonestQuorum round)

include providers

theorem quorum_le_countP {holds : UInt64 → Bool}
    (hholds : ∀ index ∈ providers.honest, holds (providers.estimate index)) :
    majority total ≤ (successes round).countP holds := by
  rw [successes, collectGas_eq, countP_filterMap]
  refine providers.quorum.trans (card_le_countP fun index hindex =>
    ⟨round.complete.mem_iff.mpr (mem_finRange index), ?_⟩)
  simpa [providers.answers index hindex, gasProbe, GasProbe.estimate] using hholds index hindex

theorem estimate_mem {index : Fin total} (hindex : index ∈ providers.honest) :
    providers.estimate index ∈ successes round := by
  rw [successes, collectGas_eq, mem_filterMap]
  refine ⟨index, round.complete.mem_iff.mpr (mem_finRange index), ?_⟩
  rw [providers.answers index hindex]
  rfl

theorem length_bounds : majority total ≤ (successes round).length ∧
    (successes round).length ≤ total := by
  constructor
  · exact (@quorum_le_countP _ _ providers (fun _ => true) fun _ _ => rfl).trans
      countP_le_length
  · rw [successes, collectGas_eq]
    refine (length_filterMap_le _ _).trans_eq ?_
    rw [round.complete.length_eq, length_finRange]

theorem successes_ne_nil : successes round ≠ [] :=
  ne_nil_of_length_pos ((Nat.succ_pos _).trans_le providers.length_bounds.1)

theorem exists_le_median : ∃ index ∈ providers.honest,
    (providers.estimate index).toNat ≤ (upperMedian (successes round)).toNat := by
  by_contra hnone
  push Not at hnone
  have hhigher := @quorum_le_countP _ _ providers
    (fun gas => ¬ gas.toNat < (upperMedian (successes round)).toNat + 1) (by simpa using hnone)
  have hmost := (upperMedian_lt_iff providers.successes_ne_nil).mp (Nat.lt_add_one _)
  have hsplit := (successes round).length_eq_countP_add_countP
    fun gas => decide (gas.toNat < (upperMedian (successes round)).toNat + 1)
  have hlength := providers.length_bounds.2
  simp only [decide_eq_true_eq] at hsplit
  unfold majority at hhigher
  omega

theorem exists_median_le : ∃ index ∈ providers.honest,
    (upperMedian (successes round)).toNat ≤ (providers.estimate index).toNat := by
  by_contra hnone
  push Not at hnone
  have hlower := @quorum_le_countP _ _ providers
    (fun gas => gas.toNat < (upperMedian (successes round)).toNat) (by simpa using hnone)
  have hmost := (upperMedian_lt_iff providers.successes_ne_nil).not.mp (lt_irrefl _)
  have hlength := providers.length_bounds.2
  unfold majority at hlower
  omega

/-- The bounds do not wrap. -/
theorem mem_boundedSet {gas : UInt64} : gas ∈ boundedSet (successes round) ↔
    gas ∈ successes round ∧ (upperMedian (successes round)).toNat ≤ 2 * gas.toNat ∧
      gas.toNat ≤ 2 * (upperMedian (successes round)).toNat := by
  obtain ⟨index, hindex, hle⟩ := providers.exists_median_le
  have hsmall := providers.small index hindex
  change gas ∈ List.filter (fun gas => ¬ (gas < (upperMedian (successes round) + 1) / 2 ∨
    upperMedian (successes round) * 2 < gas)) _ ↔ _
  rw [mem_filter, decide_eq_true_eq, not_or, UInt64.lt_iff_toNat_lt, UInt64.lt_iff_toNat_lt,
    UInt64.toNat_div, UInt64.toNat_mul, UInt64.toNat_add]
  refine and_congr_right fun _ => ?_
  simp only [UInt64.reduceToNat]
  omega

end HonestQuorum

theorem foldl_max_le_iff {values : List UInt64} {start : UInt64} {bound : ℕ} :
    (values.foldl max start).toNat ≤ bound ↔
      start.toNat ≤ bound ∧ ∀ value ∈ values, value.toNat ≤ bound := by
  induction values generalizing start with
  | nil => simp
  | cons value rest ih => simp [ih, toNat_max, and_assoc]

/-- The honest estimates decide what an estimate can be: no revert is voted,
the value lies between an honest estimate and twice another and is within the
block gas limit, and there is one if the honest estimates are within a factor of
two and twice each of them fits into the block. -/
theorem estimate_bounded_by_honest {round : EstimateRound total} {header : BlockHeader}
    (hheader : headerByNumber chainName round.header = .ok header)
    (providers : HonestQuorum round) :
    (∀ winner, estimateGas chainName round ≠ .error (.voted winner)) ∧
    (∀ gas, estimateGas chainName round = .ok gas → gas ≤ header.gasLimit ∧
      (∃ index ∈ providers.honest, (providers.estimate index).toNat ≤ gas.toNat) ∧
      ∃ index ∈ providers.honest, gas.toNat ≤ 2 * (providers.estimate index).toNat) ∧
    ((∀ left ∈ providers.honest, ∀ right ∈ providers.honest,
        (providers.estimate left).toNat ≤ 2 * (providers.estimate right).toNat) →
      (∀ index ∈ providers.honest, 2 * (providers.estimate index).toNat ≤ header.gasLimit.toNat) →
      ∃ gas, estimateGas chainName round = .ok gas) := by
  obtain ⟨hquorum, hlength⟩ := providers.length_bounds
  have htotal : total ≠ 0 := by
    unfold majority at hquorum
    omega
  -- The reverts are those of the others, who are no majority.
  have hquiet : winningRevert (majority total) (collectGas round.answers round.order).reverts =
      none := by
    rcases winningRevert_ends round.answers round.complete with ⟨winner, -, hmajority⟩ | ⟨hnone, -⟩
    · obtain ⟨index, hindex, hvote⟩ := majorities_meet providers.quorum hmajority
      rw [mem_supporters, revertVote, providers.answers index hindex] at hvote
      cases hvote
    · exact hnone
  have hread : estimateGas chainName round =
      boundedEstimate chainName (majority total) header.gasLimit (successes round) := by
    rw [estimateGas, hheader]
    dsimp only
    rw [if_neg htotal, resolveGas, hquiet]
    exact if_pos hquorum
  obtain ⟨low, hlow, hbelow⟩ := providers.exists_le_median
  obtain ⟨high, hhigh, habove⟩ := providers.exists_median_le
  have hmedian := providers.mem_boundedSet.mpr ⟨upperMedian_mem providers.successes_ne_nil,
    by omega, by omega⟩
  have hle : ((boundedSet (successes round)).foldl max 0).toNat ≤
      2 * (upperMedian (successes round)).toNat :=
    foldl_max_le_iff.mpr ⟨Nat.zero_le _, fun gas hgas => (providers.mem_boundedSet.mp hgas).2.2⟩
  have hge := (foldl_max_le_iff.mp (le_refl
    ((boundedSet (successes round)).foldl max 0).toNat)).2 _ hmedian
  rw [hread, boundedEstimate]
  refine ⟨fun winner => ?_, fun gas hgas => ?_, fun hfactor hfits => ?_⟩
  · have hunvoted : ∀ text, GoError.new text ≠ .voted winner := fun text heq =>
      Bool.false_ne_true (congrArg GoError.votedRevert heq)
    dsimp only
    split
    · simp [hunvoted]
    split <;> simp [hunvoted]
  · dsimp only at hgas
    split at hgas
    · cases hgas
    split at hgas <;> cases hgas
    rename_i hlimit
    exact ⟨UInt64.not_lt.mp hlimit, ⟨low, hlow, by omega⟩, high, hhigh, by omega⟩
  · have hbounded : majority total ≤ (boundedSet (successes round)).length := by
      refine (providers.quorum_le_countP fun index hindex => ?_).trans_eq
        countP_eq_length_filter
      have hmem := providers.mem_boundedSet.mpr ⟨providers.estimate_mem hindex,
        habove.trans (hfactor high hhigh index hindex),
        (hfactor index hindex low hlow).trans (by omega)⟩
      exact (mem_filter.mp hmem).2
    have hlimit := hfits high hhigh
    dsimp only
    rw [if_neg (not_lt.mpr hbounded), if_neg]
    · exact ⟨_, rfl⟩
    · rw [UInt64.lt_iff_toNat_lt]
      omega

/-- One hostile provider answers with the largest number. -/
def hostileEstimate : EstimateRound 3 :=
  { refusedGasPrice.estimate with
    answers := fun index => .value (if index.val = 0 then 2 ^ 64 - 1 else 21000) }

def honestPair : HonestQuorum hostileEstimate where
  honest := Finset.univ.filter (0 < ·.val)
  estimate _ := 21000
  quorum := by decide
  answers index hindex := by
    simp only [Finset.mem_filter_univ] at hindex
    exact congrArg Answer.value (if_neg hindex.ne')
  small := by decide

theorem hostileEstimate_bounded :
    ∃ header gas, headerByNumber "sample" hostileEstimate.header = .ok header ∧
      estimateGas "sample" hostileEstimate = .ok gas ∧ gas.toNat ≤ 2 * 21000 := by
  have hheader : headerByNumber "sample" hostileEstimate.header =
      .ok ⟨.ofNat 32 7, none, 30000000⟩ := by decide +kernel
  obtain ⟨-, hbounds, hreturns⟩ := estimate_bounded_by_honest hheader honestPair
  obtain ⟨gas, hgas⟩ := hreturns (by decide) (by decide)
  obtain ⟨-, -, index, -, hle⟩ := hbounds gas hgas
  exact ⟨_, gas, hheader, hgas, hle⟩

end Lazier.Manager
