import Lazier.Manager.Preflight

/-!
# Who can fail a queued transaction

A queued row is failed for an estimate revert when the error that ended its
preflight reads as one.  The error is a voted revert, or it is worded by the
chain's configured name, or by one provider: the last healthy one to refuse the
canonical header, or the one asked for the fee.  Without a revert vote, the row
is failed exactly if that wording reads as a revert.
-/

namespace Lazier.Manager

open Library Quorum Store List

variable {chainName text operation : String} {result : Except GoError Value}

/-- Whose words an unvoted error repeats. -/
inductive Wording
  | chainName
  | provider (cause : ErrorChain)

variable {wording : Wording}

/-- The words read as a revert. -/
def Wording.readsAsRevert (chainName : String) : Wording → Bool
  | .chainName => containsRevertText chainName.toList
  | .provider cause => isEstimateGasRevert (.ofChain cause)

/-- A call ended with an error that is not a deferral and reads as a revert. -/
def Reverts {Value : Type} (result : Except GoError Value) : Prop :=
  ∃ err, result = .error err ∧ err.txDeferred = false ∧ isEstimateGasRevert err = true

/-- A call ended with an error that is not a deferral and reads as its words
do. -/
def FailsAs {Value : Type} (chainName : String) (wording : Wording)
    (result : Except GoError Value) : Prop := ∃ err, result = .error err ∧ err.txDeferred = false ∧
    isEstimateGasRevert err = wording.readsAsRevert chainName

variable {Value : Type}

theorem not_reverts_ok (value : Value) : ¬ Reverts (.ok value : Except GoError Value) := by
  rintro ⟨err, herr, -⟩
  cases herr

theorem not_reverts_deferred : ¬ Reverts (.error errTxDeferred : Except GoError Value) := by
  rintro ⟨err, herr, hdeferred, -⟩
  cases herr
  cases hdeferred

/-- The type of the missing result does not matter. -/
theorem reverts_error {Other : Type} (err : GoError) : Reverts (.error err : Except GoError Value) ↔
      Reverts (.error err : Except GoError Other) := by
  simp [Reverts]

theorem Reverts.of_error {Other : Type} {err : GoError} (herror : result = .error err)
    (hreverts : Reverts (.error err : Except GoError Other)) : Reverts result :=
  herror ▸ (reverts_error err).mp hreverts

theorem not_reverts_new (hplain : Plain text) :
    ¬ Reverts (.error (.new text) : Except GoError Value) := by
  rintro ⟨err, herr, -, hreads⟩
  cases herr
  rw [isEstimateGasRevert_new, hplain] at hreads
  cases hreads

theorem failsAs_new (hreads : containsRevertText text.toList = wording.readsAsRevert chainName) :
    FailsAs chainName wording (.error (.new text) : Except GoError Value) :=
  ⟨_, rfl, rfl, (isEstimateGasRevert_new text).trans hreads⟩

theorem failsAs_wrapped (chainName : String) (index : ℕ) (cause : ErrorChain)
    (hoperation : Plain operation) :
    FailsAs chainName (.provider cause) (.error (.ofChain
      (wrapProviderOperationError index operation cause)) : Except GoError Value) :=
  ⟨_, rfl, rfl, isEstimateGasRevert_wrapped index cause hoperation⟩

/-- A caller that passes the error on fails with the same words. -/
theorem FailsAs.pass {Other : Type} {next : Except GoError Other}
    (hfails : FailsAs chainName wording result)
    (hnext : ∀ err, result = .error err → next = .error err) : FailsAs chainName wording next := by
  obtain ⟨err, herr, hread⟩ := hfails
  exact ⟨err, hnext err herr, hread⟩

theorem FailsAs.reverts (hfails : FailsAs chainName wording result)
    (hreads : wording.readsAsRevert chainName = true) : Reverts result := by
  obtain ⟨err, herr, hdeferred, hread⟩ := hfails
  exact ⟨err, herr, hdeferred, hread.trans hreads⟩

theorem FailsAs.reads (hfails : FailsAs chainName wording result) (hreverts : Reverts result) :
    wording.readsAsRevert chainName = true := by
  obtain ⟨err, herr, -, hread⟩ := hfails
  obtain ⟨other, hother, -, hrevert⟩ := hreverts
  cases herr.symm.trans hother
  exact hread.symm.trans hrevert

theorem not_reverts_rowError (queued : OutboxTx) (hplain : Opens text) :
    ¬ Reverts (.error (rowError queued text) : Except GoError Value) :=
  not_reverts_new (plain_append (closes_append (closes_of_mem (by simp))
    (closes_toString _)) hplain.plain)

variable {total : ℕ}

/-! ## Header reads -/

/-- The provider serves the canonical header. -/
def Serves (head : HeadResult) (headers : Fin total → Answer (Option BlockHeader))
    (index : Fin total) :
    Prop :=
  ∃ header, headers index = .value (some header) ∧ header.hash = head.hash

/-- The error of the last provider in the order that answered with one. -/
def lastCause (headers : Fin total → Answer (Option BlockHeader)) (order : List (Fin total)) :
    Option ErrorChain :=
  order.reverse.findSome? fun index => (headers index).cause

/-- The canonical header could not be read, and whose words the error has. -/
inductive HeaderFails (chainName : String) (round : HeaderRound total) : Wording → Prop
  | head {err : HeadError} (hcheck : (checkHead round.heads chainName).result = .error err)
      (hproviders : err ≠ .noProviders) : HeaderFails chainName round .chainName
  | refused {head : HeadResult} {cause : ErrorChain}
      (hcheck : (checkHead round.heads chainName).result = .ok head)
      (hunserved : ∀ index ∈ healthyProvidersByTipDistance round.standing,
        ¬ Serves head round.headers index)
      (hlast : lastCause round.headers
        (healthyProvidersByTipDistance round.standing) = some cause) :
      HeaderFails chainName round (.provider cause)
  | missing {head : HeadResult} (hcheck : (checkHead round.heads chainName).result = .ok head)
      (hunserved : ∀ index ∈ healthyProvidersByTipDistance round.standing,
        ¬ Serves head round.headers index)
      (hlast : lastCause round.headers (healthyProvidersByTipDistance round.standing) = none) :
      HeaderFails chainName round .chainName

/-- How a remembered error reads, if there is one. -/
def reading (err : Option ErrorChain) : Option Bool :=
  err.map fun chain => isEstimateGasRevert (.ofChain chain)

variable {head : HeadResult} {headers : Fin total → Answer (Option BlockHeader)}

theorem serveHeader_served (lastErr : Option ErrorChain) {order : List (Fin total)}
    {index : Fin total} (hindex : index ∈ order) (hserves : Serves head headers index) :
    ∃ header, serveHeader head headers lastErr order = .ok header := by
  induction order generalizing lastErr with
  | nil => cases hindex
  | cons first rest ih =>
    rw [serveHeader]
    rcases mem_cons.mp hindex with rfl | hlater
    · obtain ⟨header, hheader, hhash⟩ := hserves
      rw [hheader]
      exact ⟨header, if_pos hhash⟩
    · split
      · exact ih _ hlater
      · exact ih _ hlater
      · split
        · exact ⟨_, rfl⟩
        · exact ih _ hlater

/-- The loop over providers that do not serve the header keeps the last error
among theirs. -/
theorem serveHeader_unserved (lastErr lastRaw : Option ErrorChain) {order : List (Fin total)}
    (hlast : reading lastErr = reading lastRaw)
    (hunserved : ∀ index ∈ order, ¬ Serves head headers index) :
    ∃ err, serveHeader head headers lastErr order = .error err ∧
      reading err = reading ((lastCause headers order).or lastRaw) := by
  induction order generalizing lastErr lastRaw with
  | nil => exact ⟨lastErr, rfl, hlast⟩
  | cons first rest ih =>
    have hrest : ∀ index ∈ rest, ¬ Serves head headers index :=
      fun index hindex => hunserved index (mem_cons_of_mem _ hindex)
    have hfirst := hunserved first mem_cons_self
    have hcause : (lastCause headers (first :: rest)).or lastRaw =
        (lastCause headers rest).or ((headers first).cause.or lastRaw) := by
      rw [lastCause, reverse_cons, findSome?_append,
        Option.or_assoc, findSome?_singleton]
      rfl
    rw [hcause, serveHeader]
    rcases hanswer : headers first with cause | cause | answer
    · exact ih _ _ (congrArg some
        (isEstimateGasRevert_wrapped first cause (plain_of_mem (by simp)))) hrest
    · exact ih _ _ (congrArg some
        (isEstimateGasRevert_wrapped first cause (plain_of_mem (by simp)))) hrest
    rcases answer with _ | header
    · exact ih _ _ hlast hrest
    · have hother : header.hash ≠ head.hash := fun hhash => hfirst ⟨header, hanswer, hhash⟩
      dsimp only [Answer.read]
      rw [if_neg hother]
      exact ih _ _ hlast hrest

theorem failsAs_of_headerFails {round : HeaderRound total}
    (hfails : HeaderFails chainName round wording) :
    FailsAs chainName wording (headerByNumber chainName round) := by
  cases hfails with
  | head hcheck hproviders =>
    rw [headerByNumber, hcheck]
    exact failsAs_new (headError_reads round.heads hcheck hproviders)
  | refused hcheck hunserved hlast =>
    obtain ⟨err, hserve, hreading⟩ := serveHeader_unserved none none rfl hunserved
    rw [hlast] at hreading
    obtain ⟨chain, rfl, hreads⟩ := Option.map_eq_some_iff.mp hreading
    rw [headerByNumber, hcheck]
    dsimp only
    rw [hserve]
    exact ⟨_, rfl, rfl, hreads⟩
  | missing hcheck hunserved hlast =>
    obtain ⟨err, hserve, hreading⟩ := serveHeader_unserved none none rfl hunserved
    rw [hlast] at hreading
    obtain rfl := Option.map_eq_none_iff.mp hreading
    have hcloses : Closes "no healthy provider served the canonical header for chain " :=
      closes_of_mem (by simp)
    rw [headerByNumber, hcheck]
    dsimp only
    rw [hserve]
    refine failsAs_new ?_
    rw [containsRevertText_append (.inl hcloses.ends), hcloses.plain, Bool.false_or]
    rfl

theorem headerFails_of_reverts {round : HeaderRound total}
    (hreverts : Reverts (headerByNumber chainName round)) :
    ∃ wording, HeaderFails chainName round wording := by
  rcases hcheck : (checkHead round.heads chainName).result with err | head
  · by_cases hproviders : err = .noProviders
    · rw [headerByNumber, hcheck, hproviders] at hreverts
      exact absurd hreverts (not_reverts_new (plain_of_mem (by simp [HeadError.text])))
    · exact ⟨_, .head hcheck hproviders⟩
  · by_cases hserved : ∃ index ∈ healthyProvidersByTipDistance round.standing,
        Serves head round.headers index
    · obtain ⟨index, hindex, hserves⟩ := hserved
      obtain ⟨header, hserve⟩ := serveHeader_served none hindex hserves
      rw [headerByNumber, hcheck] at hreverts
      dsimp only at hreverts
      rw [hserve] at hreverts
      exact absurd hreverts (not_reverts_ok header)
    · push Not at hserved
      rcases hlast : lastCause round.headers
          (healthyProvidersByTipDistance round.standing) with _ | cause
      · exact ⟨_, .missing hcheck hserved hlast⟩
      · exact ⟨_, .refused hcheck hserved hlast⟩

/-! ## Fee suggestions -/

/-- The provider asked for a fee answered with an error. -/
def FeeFails (round : FeeRound total) (cause : ErrorChain) : Prop :=
  ∃ index rest, healthyProvidersByTipDistance round.standing = index :: rest ∧
    (round.answers index).cause = some cause

theorem failsAs_of_feeFails (chainName : String) {round : FeeRound total} {cause : ErrorChain}
    (hoperation : Plain operation) (hfails : FeeFails round cause) :
    FailsAs chainName (.provider cause) (suggestFee operation round) := by
  obtain ⟨index, rest, horder, hcause⟩ := hfails
  rw [suggestFee, horder]
  dsimp only
  rcases hanswer : round.answers index with failure | failure | fee
  · rw [hanswer] at hcause
    cases hcause
    exact failsAs_wrapped chainName index cause (plain_of_mem (by simp))
  · rw [hanswer] at hcause
    cases hcause
    exact failsAs_wrapped chainName index cause hoperation
  · rw [hanswer] at hcause
    cases hcause

theorem feeFails_of_reverts {round : FeeRound total}
    (hreverts : Reverts (suggestFee operation round)) : ∃ cause, FeeFails round cause := by
  rw [suggestFee] at hreverts
  split at hreverts
  · exact absurd hreverts (not_reverts_new (plain_of_mem (by simp)))
  · rename_i index rest horder
    rcases hanswer : round.answers index with cause | cause | fee
    · exact ⟨cause, index, rest, horder, by rw [hanswer]; rfl⟩
    · exact ⟨cause, index, rest, horder, by rw [hanswer]; rfl⟩
    · rw [hanswer] at hreverts
      exact absurd hreverts (not_reverts_ok fee)

/-! ## Fee quotes -/

variable {queued : OutboxTx} {policy : FeePolicy} {answers : PreflightAnswers total}

/-- The fee could not be quoted, and whose words the error has. -/
inductive QuoteFails (chainName : String) (policy : FeePolicy)
    (answers : PreflightAnswers total) : Wording → Prop
  | header {wording : Wording} (hcap : positiveFee policy.configuredMaxFeePerGas = true)
      (hheader : HeaderFails chainName answers.latest wording) :
      QuoteFails chainName policy answers wording
  | gasPrice {header : BlockHeader} {cause : ErrorChain}
      (hcap : positiveFee policy.configuredMaxFeePerGas = true)
      (hheader : headerByNumber chainName answers.latest = .ok header)
      (hlegacy : header.baseFee = none ∨ policy.forceLegacyTransactions = true)
      (hprice : FeeFails answers.gasPrice cause) :
      QuoteFails chainName policy answers (.provider cause)
  | gasTipCap {header : BlockHeader} {baseFee : ℤ} {cause : ErrorChain}
      (hcap : positiveFee policy.configuredMaxFeePerGas = true)
      (hheader : headerByNumber chainName answers.latest = .ok header)
      (hbase : header.baseFee = some baseFee) (hnonneg : 0 ≤ baseFee)
      (hdynamic : policy.forceLegacyTransactions = false)
      (htipCap : positiveFee policy.configuredMaxPriorityFeePerGas = true)
      (htip : FeeFails answers.gasTipCap cause) :
      QuoteFails chainName policy answers (.provider cause)

theorem reverts_quoteLegacyFee : Reverts (quoteLegacyFee queued policy answers) ↔
      Reverts (suggestGasPrice answers.gasPrice) := by
  unfold quoteLegacyFee
  rcases suggestGasPrice answers.gasPrice with err | suggested
  · exact reverts_error err
  refine iff_of_false ?_ (not_reverts_ok suggested)
  dsimp only
  split
  · exact not_reverts_rowError queued (opens_of_mem (by simp))
  split
  · split
    · exact not_reverts_rowError queued (opens_of_mem (by simp))
    split
    · exact not_reverts_deferred
    · exact not_reverts_ok _
  · split
    · exact not_reverts_deferred
    · exact not_reverts_ok _

theorem not_reverts_capDynamicFee {baseFee tip : ℤ} {previousFee : Option ℤ} :
    ¬ Reverts (capDynamicFee policy baseFee tip previousFee) := by
  unfold capDynamicFee
  extract_lets feeCap
  split
  · exact not_reverts_deferred
  · exact not_reverts_ok _

theorem plain_negative {value : ℤ} (hnegative : value < 0) : Plain (toString value) := by
  obtain ⟨number, rfl⟩ := Int.eq_negSucc_of_lt_zero hnegative
  exact plain_append (closes_of_mem (by simp)) (plain_toString (number + 1))

theorem reverts_quoteDynamicFee (baseFee : ℤ) :
    Reverts (quoteDynamicFee queued policy answers baseFee) ↔ 0 ≤ baseFee ∧
        positiveFee policy.configuredMaxPriorityFeePerGas = true ∧
        Reverts (suggestGasTipCap answers.gasTipCap) := by
  unfold quoteDynamicFee
  by_cases hnegative : baseFee < 0
  · rw [if_pos hnegative]
    refine iff_of_false ?_ fun hall => absurd hall.1 (not_le.mpr hnegative)
    exact not_reverts_new (plain_append (closes_of_mem (by simp))
      (plain_negative hnegative))
  rw [if_neg hnegative]
  by_cases htipCap : positiveFee policy.configuredMaxPriorityFeePerGas = true
  swap
  · rw [if_pos htipCap]
    exact iff_of_false (not_reverts_new (plain_of_mem (by simp)))
      fun hall => htipCap hall.2.1
  rw [if_neg (not_not.mpr htipCap)]
  rcases suggestGasTipCap answers.gasTipCap with err | suggested
  · exact (reverts_error err).trans
      ⟨fun hread => ⟨not_lt.mp hnegative, htipCap, hread⟩, fun hall => hall.2.2⟩
  refine iff_of_false ?_ fun hall => not_reverts_ok suggested hall.2.2
  dsimp only
  split
  · exact not_reverts_rowError queued (opens_of_mem (by simp))
  split
  · split
    · exact not_reverts_rowError queued (opens_of_mem (by simp))
    split
    · exact not_reverts_rowError queued (opens_of_mem (by simp))
    split
    · exact not_reverts_deferred
    · exact not_reverts_capDynamicFee
  · exact not_reverts_capDynamicFee

theorem failsAs_of_quoteFails (queued : OutboxTx)
    (hfails : QuoteFails chainName policy answers wording) : FailsAs chainName wording
      (quoteFee chainName queued policy answers) := by
  cases hfails with
  | header hcap hheader =>
    refine (failsAs_of_headerFails hheader).pass fun err herr => ?_
    rw [quoteFee, if_neg (not_not.mpr hcap), herr]
  | gasPrice hcap hheader hlegacy hprice =>
    have hoperation : Plain "eth_gasPrice" := plain_of_mem (by simp)
    refine (failsAs_of_feeFails chainName hoperation hprice).pass fun err herr => ?_
    have hquote : quoteLegacyFee queued policy answers = .error err := by
      rw [quoteLegacyFee, suggestGasPrice, herr]
    rw [quoteFee, if_neg (not_not.mpr hcap), hheader]
    dsimp only
    split
    · exact hquote
    · rename_i hbase
      rw [hbase] at hlegacy
      rw [if_pos (hlegacy.resolve_left (Option.some_ne_none _))]
      exact hquote
  | gasTipCap hcap hheader hbase hnonneg hdynamic htipCap htip =>
    have hoperation : Plain "eth_maxPriorityFeePerGas" := plain_of_mem (by simp)
    refine (failsAs_of_feeFails chainName hoperation htip).pass fun err herr => ?_
    rw [quoteFee, if_neg (not_not.mpr hcap), hheader]
    dsimp only
    rw [hbase]
    dsimp only
    rw [if_neg (Bool.eq_false_iff.mp hdynamic), quoteDynamicFee,
      if_neg (not_lt.mpr hnonneg), if_neg (not_not.mpr htipCap), suggestGasTipCap, herr]

theorem quoteFails_of_reverts (hreverts : Reverts (quoteFee chainName queued policy answers)) :
    ∃ wording, QuoteFails chainName policy answers wording := by
  unfold quoteFee at hreverts
  split at hreverts
  · exact absurd hreverts (not_reverts_new (plain_of_mem (by simp)))
  rename_i hcap
  rw [not_not] at hcap
  rcases hheader : headerByNumber chainName answers.latest with err | header
  · rw [hheader] at hreverts
    obtain ⟨wording, hfails⟩ := headerFails_of_reverts (.of_error hheader hreverts)
    exact ⟨wording, .header hcap hfails⟩
  rw [hheader] at hreverts
  dsimp only at hreverts
  split at hreverts
  · rename_i hbase
    obtain ⟨cause, hprice⟩ := feeFails_of_reverts (reverts_quoteLegacyFee.mp hreverts)
    exact ⟨_, .gasPrice hcap hheader (.inl hbase) hprice⟩
  · rename_i baseFee hbase
    split at hreverts
    · rename_i hlegacy
      obtain ⟨cause, hprice⟩ := feeFails_of_reverts (reverts_quoteLegacyFee.mp hreverts)
      exact ⟨_, .gasPrice hcap hheader (.inr hlegacy) hprice⟩
    · rename_i hdynamic
      obtain ⟨hnonneg, htipCap, hread⟩ := (reverts_quoteDynamicFee baseFee).mp hreverts
      obtain ⟨cause, htip⟩ := feeFails_of_reverts hread
      exact ⟨_, .gasTipCap hcap hheader hbase hnonneg (Bool.eq_false_iff.mpr hdynamic) htipCap htip⟩

/-! ## Gas estimates -/

/-- Enough estimates succeeded, enough of them lie close together, and the
highest of those fits into a block. -/
def GasAgreed (quorum : ℕ) (blockGasLimit : UInt64) (successes : List UInt64) : Prop :=
  quorum ≤ successes.length ∧ quorum ≤ (boundedSet successes).length ∧
    ¬ blockGasLimit < (boundedSet successes).foldl max 0

/-- The gas could not be estimated, and whose words the error has unless a
revert was voted. -/
inductive EstimateFails (chainName : String) (round : EstimateRound total) : Wording → Prop
  | header {wording : Wording} (hheader : HeaderFails chainName round.header wording) :
      EstimateFails chainName round wording
  | undecided {header : BlockHeader} (hheader : headerByNumber chainName round.header = .ok header)
      (hsplit : ¬ GasAgreed (majority total) header.gasLimit
        (collectGas round.answers round.order).successes) : EstimateFails chainName round .chainName

/-- The text of a failed probe names the provider and nothing it said. -/
theorem plain_of_gasProbe {index : ℕ} {answer : Answer UInt64} {err : ErrorChain}
    (hprobe : gasProbe index answer = .transient err) : Plain err.text := by
  have hwrapped : Plain (providerID index ++ " " ++ "eth_estimateGas" ++
      " failed") := plain_wrapped index (plain_of_mem (by simp))
  rcases answer with cause | cause | gas
  · cases hprobe
    exact hwrapped
  · unfold gasProbe at hprobe
    dsimp only at hprobe
    split at hprobe
    · cases hprobe
    · cases hprobe
      exact hwrapped
  · cases hprobe

theorem plain_transientErrs {gasAnswers : Fin total → Answer UInt64} {order : List (Fin total)} :
    ∀ err ∈ (collectGas gasAnswers order).transientErrs, Plain (ErrorChain.text err) := by
  induction order with
  | nil =>
    intro err herr
    cases herr
  | cons index rest ih =>
    intro err herr
    rw [collectGas] at herr
    rcases hprobe : gasProbe index (gasAnswers index) with gas | _ | failure
    · rw [hprobe] at herr
      exact ih err herr
    · rw [hprobe] at herr
      exact ih err herr
    · rw [hprobe] at herr
      rcases mem_cons.mp herr with rfl | hlater
      · exact plain_of_gasProbe hprobe
      · exact ih err hlater

theorem plain_failureDetails {quorum comparable : ℕ} {transientErrs : List ErrorChain}
    (hplain : ∀ err ∈ transientErrs, Plain (ErrorChain.text err)) :
    ∀ detail ∈ stateReadFailureDetails "eth_estimateGas" quorum comparable
      transientErrs, Plain detail := by
  intro detail hdetail
  rcases mem_append.mp hdetail with hfailure | hcount
  · obtain ⟨err, herr, rfl⟩ := mem_map.mp hfailure
    exact hplain err herr
  · rw [mem_singleton.mp hcount]
    have hstart : Closes ("eth_estimateGas" ++ " has ") := by decide +kernel
    exact plain_between hstart (closes_of_mem (by simp))

/-- Without agreement the bounded estimate is an error that names the chain. -/
theorem failsAs_boundedEstimate {quorum : ℕ} {blockGasLimit : UInt64} {successes : List UInt64}
    (henough : quorum ≤ successes.length) (hsplit : ¬ GasAgreed quorum blockGasLimit successes) :
    FailsAs chainName .chainName
      (boundedEstimate chainName quorum blockGasLimit successes) := by
  unfold boundedEstimate
  dsimp only
  split
  · refine failsAs_new (estimateGasConflict_reads chainName ?_)
    exact plain_between (closes_append (closes_append (closes_of_mem (by simp))
      (closes_toString _)) (closes_of_mem (by simp))) (closes_of_mem (by simp))
  rename_i hbounded
  split
  · refine failsAs_new (estimateGasConflict_reads chainName ?_)
    exact plain_between (closes_of_mem (by simp)) (closes_of_mem (by simp))
  · rename_i hlimit
    exact absurd ⟨henough, Nat.le_of_not_lt hbounded, hlimit⟩ hsplit

/-- A failed estimate reads as its words do, unless a majority of the providers
reverted alike. -/
theorem failsAs_of_estimateFails {round : EstimateRound total}
    (hunvoted : ¬ RevertMajority round.answers) (hfails : EstimateFails chainName round wording) :
    FailsAs chainName wording (Quorum.estimateGas chainName round) := by
  cases hfails with
  | header hheader =>
    refine (failsAs_of_headerFails hheader).pass fun err herr => ?_
    rw [Quorum.estimateGas, herr]
  | @undecided header hheader hsplit =>
    have hwinner : winningRevert (majority total)
        (collectGas round.answers round.order).reverts = none := by
      rw [Option.eq_none_iff_forall_ne_some]
      intro winner hwinner
      exact hunvoted (revertMajority_of_winningRevert hwinner)
    have htotal : ¬ total = 0 := by
      rintro rfl
      rw [headerByNumber, checkHead, if_pos rfl] at hheader
      cases hheader
    rw [Quorum.estimateGas, hheader]
    dsimp only
    rw [if_neg htotal, resolveGas, hwinner]
    dsimp only
    split
    · rename_i henough
      exact failsAs_boundedEstimate henough hsplit
    split
    · refine failsAs_new (estimateGasConflict_reads chainName ?_)
      exact plain_between (closes_of_mem (by simp)) (closes_of_mem (by simp))
    · exact failsAs_new (quorumUnavailable_reads chainName
        (plain_failureDetails plain_transientErrs))

theorem estimateFails_of_reverts {round : EstimateRound total}
    (hreverts : Reverts (Quorum.estimateGas chainName round)) : RevertMajority round.answers ∨
      ∃ wording, EstimateFails chainName round wording := by
  rcases hheader : headerByNumber chainName round.header with err | header
  · rw [Quorum.estimateGas, hheader] at hreverts
    obtain ⟨wording, hfails⟩ := headerFails_of_reverts (.of_error hheader hreverts)
    exact .inr ⟨wording, .header hfails⟩
  by_cases hagreed : GasAgreed (majority total) header.gasLimit
      (collectGas round.answers round.order).successes
  swap
  · exact .inr ⟨_, .undecided hheader hagreed⟩
  obtain ⟨henough, hbounded, hlimit⟩ := hagreed
  rw [Quorum.estimateGas, hheader] at hreverts
  dsimp only at hreverts
  split at hreverts
  · exact absurd hreverts (not_reverts_new (plain_of_mem (by simp)))
  rw [resolveGas] at hreverts
  rcases hwinner : winningRevert (majority total)
      (collectGas round.answers round.order).reverts with _ | winner
  · rw [hwinner] at hreverts
    dsimp only at hreverts
    rw [if_pos henough, boundedEstimate] at hreverts
    dsimp only at hreverts
    rw [if_neg (Nat.not_lt.mpr hbounded), if_neg hlimit] at hreverts
    exact absurd hreverts (not_reverts_ok _)
  · exact .inl (revertMajority_of_winningRevert hwinner)

/-! ## The preflight -/

/-- The preflight failed, and whose words the error has unless a revert was
voted. -/
inductive PreflightFails (chainName : String) (queued : OutboxTx)
    (policy : FeePolicy) (answers : PreflightAnswers total) : Wording → Prop
  | quote {wording : Wording} (hquote : QuoteFails chainName policy answers wording) :
      PreflightFails chainName queued policy answers wording
  | estimate {quote : FeeQuote} {wording : Wording}
      (hquote : quoteFee chainName queued policy answers = .ok quote)
      (hestimate : EstimateFails chainName answers.estimate wording) :
      PreflightFails chainName queued policy answers wording

theorem failsAs_of_preflightFails (hunvoted : ¬ RevertMajority answers.estimate.answers)
    (hfails : PreflightFails chainName queued policy answers wording) : FailsAs chainName wording
      (preflight chainName queued policy answers) := by
  cases hfails with
  | quote hquote =>
    refine (failsAs_of_quoteFails queued hquote).pass fun err herr => ?_
    rw [preflight, herr]
  | estimate hquote hestimate =>
    refine (failsAs_of_estimateFails hunvoted hestimate).pass fun err herr => ?_
    rw [preflight, hquote]
    dsimp only
    rw [estimateQueuedGas, herr]

theorem preflightFails_of_reverts (hreverts : Reverts (preflight chainName queued policy answers)) :
    RevertMajority answers.estimate.answers ∨
      ∃ wording, PreflightFails chainName queued policy answers wording := by
  rcases hquote : quoteFee chainName queued policy answers with err | quote
  · rw [preflight, hquote] at hreverts
    obtain ⟨wording, hfails⟩ := quoteFails_of_reverts (.of_error hquote hreverts)
    exact .inr ⟨wording, .quote hfails⟩
  rw [preflight, hquote] at hreverts
  dsimp only at hreverts
  rw [estimateQueuedGas] at hreverts
  rcases hgas : Quorum.estimateGas chainName answers.estimate with
    err | gasLimit
  · rw [hgas] at hreverts
    refine (estimateFails_of_reverts (.of_error hgas hreverts)).imp_right ?_
    rintro ⟨wording, hfails⟩
    exact ⟨wording, .estimate hquote hfails⟩
  · rw [hgas] at hreverts
    dsimp only at hreverts
    split at hreverts
    · rename_i err herr
      split at herr
      · cases herr
        exact absurd hreverts (not_reverts_rowError queued (opens_of_mem (by simp)))
      · cases herr
    · exact absurd hreverts (not_reverts_ok _)

theorem marks_iff_reverts :
    (∃ failure, signQueuedTx chainName queued policy answers = .markEstimateRevertFailed failure) ↔
      Reverts (preflight chainName queued policy answers) := by
  unfold signQueuedTx
  rcases hpreflight : preflight chainName queued policy answers with
    err | result
  · dsimp only
    constructor
    · rintro ⟨failure, hmarks⟩
      split at hmarks
      · cases hmarks
      rename_i hdeferred
      split at hmarks
      · rename_i hrevert
        exact ⟨err, rfl, Bool.eq_false_iff.mpr hdeferred, hrevert⟩
      · cases hmarks
    · rintro ⟨other, hother, hdeferred, hrevert⟩
      cases hother
      rw [if_neg (Bool.eq_false_iff.mp hdeferred), if_pos hrevert]
      exact ⟨_, rfl⟩
  · refine iff_of_false ?_ (not_reverts_ok result)
    rintro ⟨failure, hmarks⟩
    cases hmarks

/-- A queued row is failed for an estimate revert only on a vote of the
providers exactly if there is such a vote, or the words of no other error that
ends the preflight read as a revert.  Those words are the chain's configured
name or the error of a single provider. -/
theorem estimateRevert_voted_iff {total : ℕ} (chainName : String) (queued : OutboxTx)
    (policy : FeePolicy) (answers : PreflightAnswers total) :
    ((∃ failure, signQueuedTx chainName queued policy answers = .markEstimateRevertFailed failure) →
      ∃ fingerprint, majority total ≤ (supporters
        (revertVote answers.estimate.answers) fingerprint).card) ↔
      (∃ fingerprint, majority total ≤ (supporters
        (revertVote answers.estimate.answers) fingerprint).card) ∨
      ∀ wording, PreflightFails chainName queued policy answers wording →
        wording.readsAsRevert chainName = false := by
  rw [marks_iff_reverts]
  constructor
  · intro hvoted
    by_cases hmajority : RevertMajority answers.estimate.answers
    · exact .inl hmajority
    refine .inr fun wording hfails => ?_
    rw [Bool.eq_false_iff]
    intro hreads
    exact hmajority (hvoted ((failsAs_of_preflightFails hmajority hfails).reverts hreads))
  · rintro (hmajority | hquiet) hreverts
    · exact hmajority
    by_contra hmajority
    rcases preflightFails_of_reverts hreverts with hvoted | ⟨wording, hfails⟩
    · exact hmajority hvoted
    · have hreads := (failsAs_of_preflightFails hmajority hfails).reads hreverts
      rw [hquiet wording hfails] at hreads
      cases hreads

/-! ## One provider -/

/-- Three providers at the same block. -/
def agreedHeads : HeadAnswers 3 where
  latest _ := some ⟨some 7, .ofNat 32 7⟩
  headerAt _ _ := some (.ofNat 32 7)

def agreedLatest : HeaderRound 3 where
  heads := agreedHeads
  standing := (checkHead agreedHeads "sample").standing
  headers _ := .value (some ⟨.ofNat 32 7, none, 30000000⟩)

/-- Every provider agrees on the header and on the estimate, and one of them
refuses the gas price in the words of a revert. -/
def refusedGasPrice : PreflightAnswers 3 where
  latest := agreedLatest
  gasPrice :=
    { standing := agreedLatest.standing
      answers := fun index =>
        if index.val = 0 then .failed [⟨"execution reverted", some (-32000), none⟩]
        else .value (some 5) }
  gasTipCap := ⟨agreedLatest.standing, fun _ => .value (some 1)⟩
  estimate := ⟨agreedLatest, fun _ => .value 21000, finRange 3, .refl _⟩

def queuedRow : OutboxTx where
  row :=
    { id := 1
      chainEID := 30101
      purpose := .executorLzReceive
      guid := none
      toAddress := Address.zero
      calldata := []
      value := 0
      nonce := none
      signerID := "signer"
      status := .queued
      storedReceipt := none
      attempts := 0
      failureKind := none
      nextRetryAt := none
      retryOfID := none
      lastError := none
      updatedAt := 0
      activeAttemptID := none
      lease := none
      cancelRequestedAt := none
      cancelDeferUntil := none
      receipt := none
      preSignFailureCount := 0
      nextSignAt := none
      lastReceiptPollAt := none
      replaceRequestedAt := none }
  active := none

/-- One of three providers fails the row: it is asked for the gas price, and
nobody answers the estimate with a revert. -/
theorem refusedGasPrice_fails_row :
    (∃ failure, signQueuedTx "sample" queuedRow ⟨some 100, none, false⟩
        refusedGasPrice = .markEstimateRevertFailed failure) ∧
      ¬ ∃ fingerprint, majority 3 ≤ (supporters
        (revertVote refusedGasPrice.estimate.answers) fingerprint).card := by
  constructor
  · refine ⟨"estimate gas reverted: provider[0] eth_gasPrice failed", ?_⟩
    decide +kernel
  · rintro ⟨fingerprint, hmajority⟩
    have hnobody : supporters (revertVote refusedGasPrice.estimate.answers) fingerprint = ∅ := by
      ext index
      rw [mem_supporters]
      exact iff_of_false (fun hvote => nomatch hvote) (Finset.notMem_empty index)
    rw [hnobody] at hmajority
    cases hmajority

end Lazier.Manager
