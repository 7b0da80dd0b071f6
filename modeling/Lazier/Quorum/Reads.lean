import Lazier.Quorum.Errors

/-!
# The reads of a preflight

The latest header is the canonical one, served by any healthy provider.  A fee
suggestion comes from the first healthy provider alone.  A gas estimate is
voted on by every configured provider: one revert identity with a majority
wins, and otherwise a majority of estimates within a factor of two of the
median.

Every answer is an input, and so is the standing of the providers at each
single-source read: another goroutine's head check may have reclassified them
since this one's.
-/

namespace Lazier.Quorum

open Library Store List

/-- The answer of one provider to one request. -/
inductive Answer (Value : Type)
  | unreachable (cause : ErrorChain)
  | failed (cause : ErrorChain)
  | value (answer : Value)

namespace Answer

variable {Value : Type}

/-- The error that a provider's answer is, before the client wraps it. -/
def cause : Answer Value → Option ErrorChain
  | .unreachable cause => some cause
  | .failed cause => some cause
  | .value _ => none

/-- The answer as the client's helpers return it. -/
def read (index : ℕ) (operation : String) : Answer Value → Except ErrorChain Value
  | .unreachable cause =>
    .error (wrapProviderOperationError index "connect" cause)
  | .failed cause =>
    .error (wrapProviderOperationError index operation cause)
  | .value answer => .ok answer

end Answer

/-! ## Texts of the aggregated errors -/

/-- `strings.Join(details, "; ")`. -/
def joinDetails : List String → String
  | [] => ""
  | [detail] => detail
  | detail :: rest => detail ++ "; " ++ joinDetails rest

/-- What follows the subject of an error with details. -/
def detailSuffix (details : List String) : String :=
  if details = [] then "" else ": " ++ joinDetails details

def quorumUnavailableText (chainName : String) (details : List String) : String :=
  "rpc quorum unavailable for chain " ++ chainName ++ detailSuffix details

def headConflictText (chainName : String) (number : ℕ) (details : List String) : String :=
  "rpc head quorum conflict for chain " ++ chainName ++
    (" at block " ++ toString number ++ detailSuffix details)

def estimateGasConflictText (chainName detail : String) : String :=
  "chain " ++ chainName ++ (" gas estimate has no bounded majority: " ++ detail)

def HeadError.text : HeadError → String
  | .noProviders => "no rpc providers configured"
  | .quorumUnavailable chainName details =>
    quorumUnavailableText chainName details
  | .headConflict chainName number details =>
    headConflictText chainName number details

/-! ## Single-source reads -/

variable {total : ℕ}

/-- The provider statuses and the last head snapshot. -/
structure Standing (total : ℕ) where
  statuses : Fin total → ProviderStatus
  head : Option (HeadSnapshot total)

/-- The standing that a head check leaves. -/
def HeadOutcome.standing (outcome : HeadOutcome total) : Standing total :=
  ⟨outcome.statuses, outcome.snapshot⟩

/-- The order of the sort: a provider without a recorded tip comes last. -/
def nearerTip (head : HeadSnapshot total) (left right : Fin total) : Bool :=
  match head.tips left with
  | none => false
  | some leftTip =>
    match head.tips right with
    | none => true
    | some rightTip => decide (leftTip < rightTip)

/-- `healthyProvidersByTipDistance`; the sort is stable. -/
def healthyProvidersByTipDistance (standing : Standing total) : List (Fin total) :=
  let healthy := (finRange total).filter fun index =>
    standing.statuses index = .healthy
  match standing.head with
  | none => healthy
  | some head =>
    healthy.insertionSort fun left right => nearerTip head right left = false

/-- A header as the preflight uses it. -/
structure BlockHeader where
  hash : Hash
  baseFee : Option ℤ
  gasLimit : UInt64
  deriving DecidableEq

/-- The answers to one read of the latest header. -/
structure HeaderRound (total : ℕ) where
  heads : HeadAnswers total
  standing : Standing total
  headers : Fin total → Answer (Option BlockHeader)

/-- The loop over the healthy providers, with the last error seen. -/
def serveHeader (head : HeadResult) (headers : Fin total → Answer (Option BlockHeader)) :
    Option ErrorChain → List (Fin total) → Except (Option ErrorChain) BlockHeader
  | lastErr, [] => .error lastErr
  | lastErr, index :: rest =>
    match (headers index).read index "eth_getBlockByNumber" with
    | .error err => serveHeader head headers (some err) rest
    | .ok none => serveHeader head headers lastErr rest
    | .ok (some header) =>
      if header.hash = head.hash then .ok header
      else serveHeader head headers lastErr rest

/-- `HeaderByNumber(ctx, nil)`. -/
def headerByNumber (chainName : String) (round : HeaderRound total) : Except GoError BlockHeader :=
  match (checkHead round.heads chainName).result with
  | .error err => .error (.new err.text)
  | .ok head =>
    match serveHeader head round.headers none (healthyProvidersByTipDistance round.standing) with
    | .ok header => .ok header
    | .error (some err) => .error (.ofChain err)
    | .error none => .error (.new
        ("no healthy provider served the canonical header for chain " ++ chainName))

/-- The answers to one fee suggestion. -/
structure FeeRound (total : ℕ) where
  standing : Standing total
  answers : Fin total → Answer (Option ℤ)

/-- A fee suggestion of the first healthy provider. -/
def suggestFee (operation : String) (round : FeeRound total) : Except GoError (Option ℤ) :=
  match healthyProvidersByTipDistance round.standing with
  | [] => .error (.new "no healthy rpc providers configured")
  | index :: _ =>
    match (round.answers index).read index operation with
    | .error err => .error (.ofChain err)
    | .ok fee => .ok fee

def suggestGasPrice (round : FeeRound total) : Except GoError (Option ℤ) :=
  suggestFee "eth_gasPrice" round

def suggestGasTipCap (round : FeeRound total) : Except GoError (Option ℤ) :=
  suggestFee "eth_maxPriorityFeePerGas" round

/-! ## Gas estimates -/

/-- The answers to one gas estimate; every probe completes once, in some
order. -/
structure EstimateRound (total : ℕ) where
  header : HeaderRound total
  answers : Fin total → Answer UInt64
  order : List (Fin total)
  complete : order.Perm (finRange total)

inductive GasProbe
  | gas (gas : UInt64)
  | revert (err : ErrorChain)
  | transient (err : ErrorChain)

def gasProbe (index : ℕ) : Answer UInt64 → GasProbe
  | .unreachable cause =>
    .transient (wrapProviderOperationError index "eth_estimateGas"
      (wrapProviderOperationError index "connect" cause))
  | .failed cause =>
    let err := wrapProviderOperationError index "eth_estimateGas" cause
    if isDeterministicRevert cause then .revert err else .transient err
  | .value gas => .gas gas

/-- The accumulators of the loop over the completions.  The maps `revertVotes`
and `revertWinners` are read off the reverts in the order they came in. -/
structure GasVotes where
  successes : List UInt64
  reverts : List ErrorChain
  transientErrs : List ErrorChain

/-- The loop over the completions. -/
def collectGas (answers : Fin total → Answer UInt64) : List (Fin total) → GasVotes
  | [] => ⟨[], [], []⟩
  | index :: rest =>
    let votes := collectGas answers rest
    match gasProbe index (answers index) with
    | .gas gas => { votes with successes := gas :: votes.successes }
    | .revert err => { votes with reverts := err :: votes.reverts }
    | .transient err =>
      { votes with transientErrs := err :: votes.transientErrs }

/-- The first revert whose identity has a quorum.  No second identity can have
one, so the order in which Go visits the map does not matter. -/
def winningRevert (quorum : ℕ) (reverts : List ErrorChain) : Option ErrorChain :=
  reverts.find? fun err =>
    quorum ≤ reverts.countP fun other =>
      revertFingerprint other = revertFingerprint err

/-- The estimates within a factor of two of the upper median, in 64-bit
arithmetic. -/
def boundedSet (successes : List UInt64) : List UInt64 :=
  let sorted := successes.insertionSort (· ≤ ·)
  let median := sorted.getD (sorted.length / 2) 0
  let lower := (median + 1) / 2
  let upper := median * 2
  successes.filter fun gas => ¬ (gas < lower ∨ upper < gas)

/-- The bounded consensus of enough successful estimates. -/
def boundedEstimate (chainName : String) (quorum : ℕ)
    (blockGasLimit : UInt64) (successes : List UInt64) :
    Except GoError UInt64 :=
  let inBounds := boundedSet successes
  if inBounds.length < quorum then
    .error (.new (estimateGasConflictText chainName
      ("only " ++ toString inBounds.length ++ " of " ++ toString successes.length ++
        " estimates fall within the bounded set, need " ++ toString quorum)))
  else
    let result := inBounds.foldl max 0
    if blockGasLimit < result then
      .error (.new (estimateGasConflictText chainName
        ("bounded estimate " ++ toString result.toNat ++
          " exceeds the canonical block gas limit " ++ toString blockGasLimit.toNat)))
    else .ok result

/-- `stateReadFailureDetails`. -/
def stateReadFailureDetails (operation : String) (quorum comparable : ℕ)
    (transientErrs : List ErrorChain) : List String := transientErrs.map ErrorChain.text ++
    [operation ++ " has " ++ toString comparable ++
      " comparable answers, quorum is " ++ toString quorum]

/-- The end of `EstimateGas`, once every probe has completed. -/
def resolveGas (chainName : String) (quorum : ℕ) (blockGasLimit : UInt64)
    (votes : GasVotes) : Except GoError UInt64 :=
  let comparable := votes.successes.length + votes.reverts.length
  match winningRevert quorum votes.reverts with
  | some winner => .error (.voted winner)
  | none =>
    if quorum ≤ votes.successes.length then
      boundedEstimate chainName quorum blockGasLimit votes.successes
    else if quorum ≤ comparable then
      .error (.new (estimateGasConflictText chainName
        ("neither " ++ toString votes.successes.length ++
          " successes nor any revert identity reached the majority of " ++ toString quorum)))
    else
      .error (.new (quorumUnavailableText chainName
        (stateReadFailureDetails "eth_estimateGas" quorum comparable votes.transientErrs)))

/-- `EstimateGas`. -/
def estimateGas (chainName : String) (round : EstimateRound total) : Except GoError UInt64 :=
  match headerByNumber chainName round.header with
  | .error err => .error err
  | .ok header =>
    if total = 0 then .error (.new "no rpc providers configured")
    else
      resolveGas chainName (majority total) header.gasLimit (collectGas round.answers round.order)

/-! ## The revert vote -/

/-- The revert identity that a provider answers a gas estimate with. -/
def revertVote (answers : Fin total → Answer UInt64) (index : Fin total) : Option String :=
  match answers index with
  | .failed cause =>
    if isDeterministicRevert cause then some (revertFingerprint cause)
    else none
  | .unreachable _ => none
  | .value _ => none

/-- A majority of the configured providers answered the gas estimate with
reverts of one identity. -/
def RevertMajority (answers : Fin total → Answer UInt64) : Prop := ∃ fingerprint, majority total ≤
    (supporters (revertVote answers) fingerprint).card

/-- The collected reverts are the votes of the providers, in the order of the
completions. -/
theorem collectGas_fingerprints {answers : Fin total → Answer UInt64} {order : List (Fin total)} :
    (collectGas answers order).reverts.map revertFingerprint =
      order.filterMap (revertVote answers) := by
  induction order with
  | nil => rfl
  | cons index rest ih =>
    rw [collectGas, filterMap_cons, revertVote]
    rcases answers index with cause | cause | gas
    · exact ih
    · dsimp only [gasProbe]
      by_cases hrevert : isDeterministicRevert cause = true
      · rw [if_pos hrevert, if_pos hrevert]
        dsimp only
        rw [map_cons, ih, revertFingerprint_wrapped _ _ _ hrevert]
      · rw [if_neg hrevert, if_neg hrevert]
        exact ih
    · exact ih

theorem revertMajority_of_winningRevert {round : EstimateRound total} {winner : ErrorChain}
    (hwinner : winningRevert (majority total)
      (collectGas round.answers round.order).reverts = some winner) :
    RevertMajority round.answers := by
  have hquorum := find?_some hwinner
  rw [decide_eq_true_eq] at hquorum
  refine ⟨revertFingerprint winner, hquorum.trans ?_⟩
  have hcount : (collectGas round.answers round.order).reverts.countP
        (fun other => decide (revertFingerprint other = revertFingerprint winner)) =
      (round.order.filterMap (revertVote round.answers)).countP
        (fun fingerprint => decide (fingerprint = revertFingerprint winner)) := by
    rw [← collectGas_fingerprints, countP_map]
    rfl
  rw [hcount, countP_votes round.complete]

end Lazier.Quorum
