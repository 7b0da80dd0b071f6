import Lazier.Manager.Reverts
import Lazier.Store.Outbox

/-!
# The preflight of a queued transaction

`signQueuedTx` quotes the fee and estimates the gas before a nonce is assigned.
An error that reads as a revert fails the row; any other error defers it.  The
estimate's revert is voted on, but the same test is applied to the errors of
the header read and of the fee suggestion, which a single provider words.
-/

namespace Lazier.Manager

open Library Quorum Store

/-! ## Fee quotes -/

structure FeePolicy where
  configuredMaxFeePerGas : Option ℤ
  configuredMaxPriorityFeePerGas : Option ℤ
  forceLegacyTransactions : Bool

structure FeeQuote where
  isDynamic : Bool
  maxFeePerGas : ℤ
  maxPriorityFeePerGas : Option ℤ
  deriving DecidableEq

/-- The answers to the calls of one preflight. -/
structure PreflightAnswers (total : ℕ) where
  latest : HeaderRound total
  gasPrice : FeeRound total
  gasTipCap : FeeRound total
  estimate : EstimateRound total

/-- A fee that is set and positive. -/
def positiveFee (fee : Option ℤ) : Bool := fee.any (0 < ·)

/-- `bumpFee`: ten percent more, rounded up. -/
def bumpFee (value : ℤ) : ℤ := (value * 110 + 99) / 100

def errTxDeferred : GoError := ⟨[⟨"tx deferred", none, none⟩], false, true⟩

/-- An error about one outbox row. -/
def rowError (queued : OutboxTx) (text : String) : GoError :=
  .new ("outbox tx " ++ toString queued.row.id ++ text)

namespace QueuedFees

/-- `MaxFeePerGas` of the row's active attempt. -/
def maxFeePerGas (queued : OutboxTx) : Option ℤ :=
  queued.active.map fun attempt => attempt.maxFeePerGas

def maxPriorityFeePerGas (queued : OutboxTx) : Option ℤ := queued.active.bind fun attempt =>
    attempt.maxPriorityFeePerGas.map fun fee => (fee : ℤ)

end QueuedFees

section

variable {total : ℕ} (chainName : String) (queued : OutboxTx)
  (policy : FeePolicy) (answers : PreflightAnswers total)

/-- `quoteLegacyFee`. -/
def quoteLegacyFee : Except GoError FeeQuote :=
  match suggestGasPrice answers.gasPrice with
  | .error err => .error err
  | .ok suggested =>
    if ¬ positiveFee suggested then
      .error (rowError queued " legacy gas price is required")
    else
      let gasPrice := suggested.getD 0
      let cap := policy.configuredMaxFeePerGas.getD 0
      match queued.row.nonce, QueuedFees.maxFeePerGas queued with
      | some _, some previous =>
        if previous ≤ 0 then
          .error (rowError queued " previous max fee per gas must be positive for replacement")
        else
          let price := max gasPrice (bumpFee previous)
          if cap < price then .error errTxDeferred
          else .ok ⟨false, price, none⟩
      | _, _ =>
        if cap < gasPrice then .error errTxDeferred
        else .ok ⟨false, gasPrice, none⟩

/-- The end of `quoteDynamicFee`: the fee cap over the tip. -/
def capDynamicFee (baseFee tip : ℤ) (previousFee : Option ℤ) : Except GoError FeeQuote :=
  let feeCap :=
    match previousFee with
    | none => baseFee * 2 + tip
    | some previous => max (baseFee * 2 + tip) (bumpFee previous)
  if policy.configuredMaxFeePerGas.getD 0 < feeCap then .error errTxDeferred
  else .ok ⟨true, feeCap, some tip⟩

/-- `quoteDynamicFee`. -/
def quoteDynamicFee (baseFee : ℤ) : Except GoError FeeQuote :=
  if baseFee < 0 then
    .error (.new ("latest block base fee is negative: " ++ toString baseFee))
  else if ¬ positiveFee policy.configuredMaxPriorityFeePerGas then
    .error (.new "max priority fee per gas cap is required for dynamic-fee chains")
  else
    match suggestGasTipCap answers.gasTipCap with
    | .error err => .error err
    | .ok suggested =>
      if ¬ positiveFee suggested then
        .error (rowError queued " priority fee per gas is required")
      else
        let tipCap := policy.configuredMaxPriorityFeePerGas.getD 0
        let tip := min (suggested.getD 0) tipCap
        let previousFee := QueuedFees.maxFeePerGas queued
        let previousTip := QueuedFees.maxPriorityFeePerGas queued
        let hasPreviousFee := queued.row.nonce.isSome && (previousFee.isSome || previousTip.isSome)
        if hasPreviousFee then
          if ¬ positiveFee previousFee then
            .error (rowError queued " previous max fee per gas must be positive for replacement")
          else if ¬ positiveFee previousTip then
            .error (rowError queued
              " previous priority fee per gas must be positive for replacement")
          else
            let tip := max tip (bumpFee (previousTip.getD 0))
            if tipCap < tip then .error errTxDeferred
            else capDynamicFee policy baseFee tip previousFee
        else capDynamicFee policy baseFee tip none

/-- `quoteFee`. -/
def quoteFee : Except GoError FeeQuote :=
  if ¬ positiveFee policy.configuredMaxFeePerGas then
    .error (.new "max fee per gas cap is required")
  else
    match headerByNumber chainName answers.latest with
    | .error err => .error err
    | .ok header =>
      match header.baseFee with
      | none => quoteLegacyFee queued policy answers
      | some baseFee =>
        if policy.forceLegacyTransactions then
          quoteLegacyFee queued policy answers
        else quoteDynamicFee queued policy answers baseFee

/-! ## The preflight -/

/-- `estimateGas` of the manager. -/
def estimateQueuedGas : Except GoError UInt64 :=
  match Quorum.estimateGas chainName answers.estimate with
  | .error err => .error err
  | .ok gasLimit =>
    if gasLimit = 0 then .error (rowError queued " estimated gas is zero")
    else .ok gasLimit

/-- `preflight`, as `signQueuedTx` calls it: without reusing a gas limit. -/
def preflight : Except GoError (FeeQuote × UInt64) :=
  match quoteFee chainName queued policy answers with
  | .error err => .error err
  | .ok quote =>
    match estimateQueuedGas chainName queued answers with
    | .error err => .error err
    | .ok gasLimit => .ok (quote, gasLimit)

/-- What `signQueuedTx` does with the row: defer it, call
`MarkQueuedTxEstimateRevertFailed` with a failure text, or claim it. -/
inductive SignDecision
  | defer (err : GoError)
  | markEstimateRevertFailed (failure : String)
  | claim (quote : FeeQuote) (gasLimit : UInt64)
  deriving DecidableEq

/-- `signQueuedTx`, up to its first store call. -/
def signQueuedTx : SignDecision :=
  match preflight chainName queued policy answers with
  | .ok (quote, gasLimit) => .claim quote gasLimit
  | .error err =>
    if err.txDeferred then .defer err
    else if isEstimateGasRevert err then
      .markEstimateRevertFailed ("estimate gas reverted: " ++ err.chain.text)
    else
      .defer
        { err with
          chain := ⟨"tx deferred: preflight for outbox tx " ++
              toString queued.row.id ++ ": " ++ err.chain.text, none, none⟩ :: err.chain
          txDeferred := true }

end

end Lazier.Manager
