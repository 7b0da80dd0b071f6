import Lazier.Quorum.Reads

/-!
# Polls of all providers

`NonceAt`, `CanonicalHashAt` and the state reads ask every configured provider
at once and take the answers in the order in which they come in.  The first two
return as soon as one value has a majority; a state read then cancels the
probes that are still out, whose answers may turn into anything, and goes on
collecting.  Answers, cancelled answers and completion order are inputs.
-/

namespace Lazier.Quorum

open Library Store

inductive ReadError
  | noProviders
  | noBlockNumber
  | quorumUnavailable (chainName : String) (details : List String)
  | nonceConflict (chainName : String) (account : Address) (details : List String)
  | headConflict (chainName : String) (number : ℕ) (details : List String)
  | votedRevert (operation : String) (err : ErrorChain)
  | stateReadConflict (chainName operation : String) (votes : List String)

variable {total : ℕ}

/-! ## Votes by value -/

/-- One poll: every probe completes once, in some order. -/
structure PollRound (total : ℕ) (Value : Type) where
  answers : Fin total → Option Value
  order : List (Fin total)
  complete : order.Perm (List.finRange total)

section Poll

variable {Value : Type} [DecidableEq Value]

/-- The loop over the completions, with the votes so far. -/
def poll (answers : Fin total → Option Value) (quorum : ℕ) :
    List Value → List (Fin total) → Option Value
  | _, [] => none
  | votes, index :: rest =>
    match answers index with
    | none => poll answers quorum votes rest
    | some value =>
      if quorum ≤ (value :: votes).count value then some value
      else poll answers quorum (value :: votes) rest

/-- The body that `NonceAt` and `CanonicalHashAt` share. -/
def voteByValue (chainName failure : String) (summary : ℕ → String) (render : Value → String)
    (conflict : List String → ReadError) (round : PollRound total Value) : Except ReadError Value :=
  if total = 0 then .error .noProviders
  else
    match poll round.answers (majority total) [] round.order with
    | some value => .ok value
    | none =>
      let responded := round.order.countP fun index =>
        (round.answers index).isSome
      if responded < majority total then
        .error (.quorumUnavailable chainName
          (((round.order.filter fun index =>
              (round.answers index).isNone).map fun index : Fin total =>
                s!"{providerID index} {failure}") ++ [summary responded]))
      else
        .error (conflict (((List.finRange total).filterMap fun index =>
          (round.answers index).map fun value =>
            s!"{providerID index} returned {render value}").insertionSort (· ≤ ·)))

end Poll

/-- `NonceAt`. -/
def nonceAt (chainName : String) (account : Address) (round : PollRound total UInt64) :
    Except ReadError UInt64 :=
  voteByValue chainName "eth_getTransactionCount failed"
    (fun responded =>
      s!"{responded} of {total} configured providers returned an account nonce, quorum is " ++
        s!"{majority total}")
    (fun nonce => s!"nonce {nonce.toNat}")
    (.nonceConflict chainName account) round

/-- `CanonicalHashAt`. -/
def canonicalHashAt (chainName : String) (blockNumber : Option ℕ) (round : PollRound total Hash) :
    Except ReadError Hash :=
  match blockNumber with
  | none => .error .noBlockNumber
  | some number =>
    voteByValue chainName "header unavailable"
      (fun responded =>
        s!"{responded} of {total} configured providers served block {number}, quorum is " ++
          s!"{majority total}")
      FixedBytes.hex (.headConflict chainName number) round

/-! ## State reads -/

/-- One state read.  A probe that completes after a majority has formed was
cancelled and may end with `cancelled` instead of its answer. -/
structure StateRound (total : ℕ) where
  answers : Fin total → Answer Bytes
  cancelled : Fin total → Answer Bytes
  order : List (Fin total)
  complete : order.Perm (List.finRange total)

/-- `stateReadProbe`. -/
inductive StateProbe
  | payload (bytes : Bytes)
  | revert (err : ErrorChain)
  | transient (err : ErrorChain)

def stateProbe (operation : String) (index : ℕ) : Answer Bytes → StateProbe
  | .unreachable cause =>
    .transient (wrapProviderOperationError index operation
      (wrapProviderOperationError index "connect" cause))
  | .failed cause =>
    let err := wrapProviderOperationError index operation cause
    if isDeterministicRevert cause then .revert err else .transient err
  | .value payload => .payload payload

section StateRead

variable (sha256 : Bytes → Hash) (operation : String)

/-- The fingerprint of a comparable probe. -/
def StateProbe.fingerprint : StateProbe → Option String
  | .payload bytes => some ("s:" ++ FixedBytes.hexBytes (sha256 bytes).1)
  | .revert err => some (revertFingerprint err)
  | .transient _ => none

/-- The accumulators of the loop.  The maps `votes` and `winners` are read off
the comparable probes in the order they came in. -/
structure StateVotes where
  comparable : List (String × StateProbe)
  transientErrs : List ErrorChain
  majorityFingerprint : Option String

/-- One comparable completion. -/
def StateVotes.vote (quorum : ℕ) (votes : StateVotes) (fingerprint : String) (probe : StateProbe) :
    StateVotes :=
  let comparable := votes.comparable ++ [(fingerprint, probe)]
  { votes with
    comparable
    majorityFingerprint :=
      if quorum ≤ comparable.countP (·.1 = fingerprint) ∧ votes.majorityFingerprint = none then
        some fingerprint
      else votes.majorityFingerprint }

/-- One completion. -/
def StateVotes.record (quorum : ℕ) (votes : StateVotes) (probe : StateProbe) : StateVotes :=
  match probe with
  | .transient err =>
    { votes with transientErrs := votes.transientErrs ++ [err] }
  | .payload bytes => votes.vote quorum
      ("s:" ++ FixedBytes.hexBytes (sha256 bytes).1) (.payload bytes)
  | .revert err => votes.vote quorum (revertFingerprint err) (.revert err)

/-- The loop over the completions. -/
def collectState (round : StateRound total) : StateVotes → List (Fin total) → StateVotes
  | votes, [] => votes
  | votes, index :: rest =>
    let answer :=
      if votes.majorityFingerprint.isSome then round.cancelled index
      else round.answers index
    collectState round (votes.record sha256 (majority total)
      (stateProbe operation index answer)) rest

/-- The end of `voteStateRead`.  A winner that is missing from the map would be
the zero probe, with an empty payload. -/
def resolveState (chainName : String) (quorum : ℕ) (votes : StateVotes) : Except ReadError Bytes :=
  match votes.majorityFingerprint with
  | some fingerprint =>
    match votes.comparable.find? (·.1 = fingerprint) with
    | some (_, .payload payload) => .ok payload
    | some (_, .revert err) => .error (.votedRevert operation err)
    | some (_, .transient _) => .ok []
    | none => .ok []
  | none =>
    if quorum ≤ votes.comparable.length then
      .error (.stateReadConflict chainName operation (votes.comparable.map Prod.fst))
    else
      .error (.quorumUnavailable chainName
        (stateReadFailureDetails operation quorum votes.comparable.length votes.transientErrs))

/-- `voteStateRead`. -/
def voteStateRead (chainName : String) (round : StateRound total) : Except ReadError Bytes :=
  if total = 0 then .error .noProviders
  else
    resolveState operation chainName (majority total)
      (collectState sha256 operation round ⟨[], [], none⟩ round.order)

end StateRead

end Lazier.Quorum
