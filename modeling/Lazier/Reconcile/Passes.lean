import Lazier.Library.Chains
import Lazier.Signer.Offers

/-!
# Nonce reconciliation against a chain

`ProcessNonceReconciliation` selects the rows that a lane holds, claims the
lane's reconciliation lease, loads the hashes of their sent attempts, reads the
head and the account nonce at the confirmed block, looks up a receipt for every
hash, and only then publishes its decisions.  None of the reads is part of a
transaction, so any other step of the fleet, and of the chain, may come in
between.

A transaction on the chain is identified by its hash if the fleet sent it, and
carries no identity if somebody else signed it.
-/

namespace Lazier.Reconcile

open Library Store Manager Signer Option

/-! ## One pass -/

/-- A block hash commits to the chain up to its block. -/
abbrev BlockHash := Chain String Hash

def canonicalHashAt (chain : Chain String Hash) (block : ℕ) : BlockHash := chain.take (block + 1)

/-- The lookup of one hash: a receipt whose block is still to be compared with
the canonical chain, or the result. -/
inductive Probe
  | mined (block : ℕ) (blockHash : BlockHash)
  | present
  | absent
  | failed
  deriving DecidableEq

/-- What a pass has read so far; the lookups are by outbox id and hash. -/
structure ReconcilePass where
  lane : Lane
  holds : List NonceReconcileHold
  claimed : Bool
  hashes : Option (ℕ → List Hash)
  confirmedBlock : Option ℕ
  confirmedNonce : Option ℕ
  probes : ℕ → Hash → Option Probe

namespace ReconcilePass

/-- A pass that has just read its holds. -/
def selected (lane : Lane) (holds : List NonceReconcileHold) : ReconcilePass :=
  ⟨lane, holds, false, none, none, none, fun _ _ => none⟩

def setProbe (pass : ReconcilePass) (id : ℕ) (hash : Hash) (probe : Probe) : ReconcilePass :=
  { pass with
    probes := fun other otherHash =>
      if other = id ∧ otherHash = hash then some probe
      else pass.probes other otherHash }

/-- The lookups of one hold. -/
def results (pass : ReconcilePass) (hashes : ℕ → List Hash) (hold : NonceReconcileHold) :
    List (Option Probe) := (hashes hold.id).map (pass.probes hold.id)

/-- Every lookup of every hold has ended. -/
def finished (pass : ReconcilePass) (hashes : ℕ → List Hash) : Bool :=
  pass.holds.all fun hold => (pass.results hashes hold).all fun result =>
    decide (result = some .present ∨ result = some .absent ∨ result = some .failed)

/-- The decision about one hold.  A failed lookup skips it, and so does an own
receipt. -/
def decision (pass : ReconcilePass) (hashes : ℕ → List Hash) (confirmedNonce : ℕ)
    (hold : NonceReconcileHold) :
    Option NonceReconcileDecision :=
  let results := pass.results hashes hold
  if some .present ∈ results then none
  else if some .failed ∈ results then none
  else if hold.nonce < confirmedNonce then some ⟨hold.id, .markExternal⟩
  else if hold.cancelRequested ∧ hold.activeKind ≠ some .cancel then none
  else some ⟨hold.id, .release⟩

def decisions (pass : ReconcilePass) (hashes : ℕ → List Hash) (confirmedNonce : ℕ) :
    List NonceReconcileDecision :=
  pass.holds.filterMap (pass.decision hashes confirmedNonce)

end ReconcilePass

/-! ## The world -/

/-- The fleet, the canonical chain of every configured chain id, and the passes
that are under way. -/
structure World where
  fleet : Fleet
  network : ℕ → Chain String Hash
  passes : UUID → Option ReconcilePass

/-- The empty schema, and chains with their first block. -/
def World.empty : World := ⟨Fleet.empty, fun _ => [[]], fun _ => none⟩

namespace World

def db (world : World) : DB := world.fleet.db

def withDB (world : World) (db : DB) : World :=
  { world with fleet := { world.fleet with db := db } }

def setPass (world : World) (token : UUID) (pass : Option ReconcilePass) : World :=
  { world with
    passes := fun other => if other = token then pass else world.passes other }

def setChain (world : World) (eid : ℕ) (chain : Chain String Hash) : World :=
  { world with
    network := fun other => if other = eid then chain else world.network other }

end World

/-- The block at which the account nonce is read: the confirmed one, or the
latest where the confirmation gate is off. -/
def nonceBlock (confirmations : ℕ) (chain : Chain String Hash) (confirmedBlock : ℕ) : ℕ :=
  if confirmations = 0 then chain.head else confirmedBlock

/-- The answer to a receipt lookup. -/
inductive Lookup
  | notFound
  | receipt (block : ℕ) (blockHash : BlockHash)
  | failed
  deriving DecidableEq

/-- The answer is true of the chain.  A negative answer counts only providers
that have reached the confirmed block, and speaks for the blocks up to it. -/
def Lookup.true (chain : Chain String Hash) (confirmedBlock : ℕ) (hash : Hash) : Lookup → Bool
  | .notFound =>
    (chain.upTo confirmedBlock).all fun tx => tx.id ≠ some hash
  | .receipt block blockHash =>
    chain.includes block hash && decide (canonicalHashAt chain block = blockHash)
  | .failed => Bool.true

def Lookup.probe : Lookup → Probe
  | .notFound => .absent
  | .receipt block blockHash => .mined block blockHash
  | .failed => .failed

/-- The answer to the comparison is true of the chain; a gate of zero
confirmations compares nothing. -/
def receiptOnCanonicalChain (confirmations : ℕ) (chain : Chain String Hash) (block : ℕ)
    (blockHash : BlockHash) : Option Bool → Bool
  | none => decide (confirmations ≠ 0)
  | some value =>
    value == (decide (confirmations = 0) || decide (canonicalHashAt chain block = blockHash))

/-- The end of a lookup: whether the receipt is on the canonical chain. -/
def canonicalProbe : Option Bool → Probe
  | none => .failed
  | some true => .present
  | some false => .absent

/-- The transaction is an attempt of the fleet that was claimed for broadcast,
for the nonce of its row. -/
def sentAttempt (db : DB) (eid : ℕ) (tx : ChainTx String Hash) (hash : Hash) : Bool :=
  db.tx.attempts.rows.any fun attempt =>
    decide (attempt.txHash = hash ∧ 0 < attempt.broadcastCount ∧ attempt.nonce = tx.nonce) &&
      db.tx.outbox.rows.any fun row =>
        decide (row.id = attempt.outboxID ∧ row.lane = ⟨eid, tx.account⟩)

/-- What the fleet did not send carries no hash of its attempts. -/
def mineable (db : DB) (eid : ℕ) (chain : Chain String Hash) : Bool := chain.flatten.all fun tx =>
    match tx.id with
    | none => true
    | some hash => sentAttempt db eid tx hash

/-- The nonce of the attempt is consumed on the chain of its row. -/
def nonceConsumed (world : World) (attemptID : ℕ) : Bool :=
  world.db.tx.attempts.rows.any fun attempt =>
    decide (attempt.id = attemptID) && world.db.tx.outbox.rows.any fun row =>
        decide (row.id = attempt.outboxID) && (world.network row.chainEID).flatten.any fun tx =>
            decide (tx.account = row.signerID ∧ tx.nonce = attempt.nonce)

/-- A node answers that a nonce is too low only where it is consumed. -/
def trueSend (world : World) : Move → Bool
  | .call (.tx (.markAttemptSendResult _ attemptID _ .nonceTooLow _)) =>
    nonceConsumed world attemptID
  | _ => true

/-- The calls that only a reconciliation pass makes. -/
def reconciles : Move → Bool
  | .call (.tx (.claimNonceReconciliation ..)) => true
  | .call (.tx (.applyNonceReconciliation ..)) => true
  | _ => false

inductive Label
  | fleet (move : Move)
  | grow (eid : ℕ) (chain : Chain String Hash)
  | select (token : UUID) (lane : Lane)
  | claim (token : UUID) (now : Time) (leaseTTL : Duration)
  | load (token : UUID)
  | head (token : UUID) (number : ℕ)
  | nonce (token : UUID)
  | lookup (token : UUID) (id : ℕ) (hash : Hash) (answer : Lookup)
  | canonical (token : UUID) (id : ℕ) (hash : Hash) (answer : Option Bool)
  | apply (token : UUID) (now : Time) (backoff : Duration) (observed : String)

/-- A step of the fleet, of the chain or of a pass.  Every answer is true of
the chain at the moment it is given; a head may be an older one.  An error of a
read that ends the pass is a pass that takes no further step. -/
inductive WorldStep (confirmations : ℕ → ℕ) : World → Label → World → Prop
  | fleet {world : World} {move : Move} {fleet : Fleet} (step : OfferedStep world.fleet move fleet)
      (other : reconciles move = false) (answer : trueSend world move = true) :
      WorldStep confirmations world (.fleet move) { world with fleet := fleet }
  | grow {world : World} {eid : ℕ} {chain : Chain String Hash}
      (follows : Chain.Follows (confirmations eid) (world.network eid) chain)
      (valid : chain.Valid) (sent : mineable world.db eid chain = true) :
      WorldStep confirmations world (.grow eid chain) (world.setChain eid chain)
  | select {world : World} {token : UUID} {lane : Lane} {holds : List NonceReconcileHold}
      (fresh : world.passes token = none) (read : selectReconcileHolds world.db lane = .ok holds) :
      WorldStep confirmations world (.select token lane)
        (world.setPass token (some (.selected lane holds)))
  | claim {world : World} {token : UUID} {now : Time} {leaseTTL : Duration} {pass : ReconcilePass}
      (found : world.passes token = some pass) (unclaimed : pass.claimed = false)
      (granted : (claimNonceReconciliation world.db now pass.lane token leaseTTL
        pass.holds).2.isOk = true) :
      WorldStep confirmations world (.claim token now leaseTTL)
        ((world.withDB (claimNonceReconciliation world.db now pass.lane token leaseTTL
          pass.holds).1).setPass token (some { pass with claimed := true }))
  | load {world : World} {token : UUID} {pass : ReconcilePass}
      (found : world.passes token = some pass) (claimed : pass.claimed = true)
      (unread : pass.hashes = none) :
      WorldStep confirmations world (.load token)
        (world.setPass token (some { pass with
          hashes := some (loadNonceReconcileAttemptHashes world.db
            (pass.holds.map NonceReconcileHold.id)) }))
  | head {world : World} {token : UUID} {number : ℕ} {pass : ReconcilePass}
      (found : world.passes token = some pass)
      (loaded : pass.hashes ≠ none) (unread : pass.confirmedBlock = none)
      (answer : number ≤ (world.network pass.lane.chainEID).head) :
      WorldStep confirmations world (.head token number)
        (world.setPass token (some { pass with
          confirmedBlock := some (number - confirmations pass.lane.chainEID) }))
  | nonce {world : World} {token : UUID} {pass : ReconcilePass} {block : ℕ}
      (found : world.passes token = some pass) (headRead : pass.confirmedBlock = some block)
      (unread : pass.confirmedNonce = none) : WorldStep confirmations world (.nonce token)
        (world.setPass token (some { pass with
          confirmedNonce := some ((world.network pass.lane.chainEID).nonceAt
            pass.lane.signerID (nonceBlock (confirmations pass.lane.chainEID)
              (world.network pass.lane.chainEID) block)) }))
  | lookup {world : World} {token : UUID} {id : ℕ} {hash : Hash}
      {answer : Lookup} {pass : ReconcilePass} {block : ℕ} (found : world.passes token = some pass)
      (headRead : pass.confirmedBlock = some block) (nonceRead : pass.confirmedNonce ≠ none)
      (unread : pass.probes id hash = none)
      (truth : answer.true (world.network pass.lane.chainEID) block hash = true) :
      WorldStep confirmations world (.lookup token id hash answer)
        (world.setPass token (some (pass.setProbe id hash answer.probe)))
  | canonical {world : World} {token : UUID} {id : ℕ} {hash : Hash}
      {answer : Option Bool} {pass : ReconcilePass} {block : ℕ} {blockHash : BlockHash}
      (found : world.passes token = some pass)
      (mined : pass.probes id hash = some (.mined block blockHash))
      (truth : receiptOnCanonicalChain (confirmations pass.lane.chainEID)
        (world.network pass.lane.chainEID) block blockHash answer = true) :
      WorldStep confirmations world (.canonical token id hash answer)
        (world.setPass token (some (pass.setProbe id hash (canonicalProbe answer))))
  | apply {world : World} {token : UUID} {now : Time} {backoff : Duration}
      {observed : String} {pass : ReconcilePass} {hashes : ℕ → List Hash}
      {block nonce : ℕ} (found : world.passes token = some pass)
      (loaded : pass.hashes = some hashes) (headRead : pass.confirmedBlock = some block)
      (nonceRead : pass.confirmedNonce = some nonce) (finished : pass.finished hashes = true) :
      WorldStep confirmations world (.apply token now backoff observed)
        ((world.withDB (applyNonceReconciliation world.db now pass.lane token
          nonce block backoff observed (pass.decisions hashes nonce)).1).setPass token none)

/-- Runs of any number of instances against growing chains. -/
abbrev WorldRun (confirmations : ℕ → ℕ) := Run (WorldStep confirmations) World.empty

/-! ## Performed deeds -/

/-- A pass of a signer or a call of anybody, or a step of a reconciliation pass
or of the chain. -/
inductive Deed
  | signer (pass : Pass)
  | reconciler (label : Label)

instance (depth : ℕ) (old new : Chain String Hash) : Decidable (Chain.Follows depth old new) :=
  decidable_of_iff (old.length ≤ new.length ∧
    new.take (old.confirmed depth + 1) = old.take (old.confirmed depth + 1))
    ⟨fun hboth => ⟨hboth.1, hboth.2⟩, fun hboth => ⟨hboth.1, hboth.2⟩⟩

instance (chain : Chain String Hash) : Decidable chain.Valid :=
  decidable_of_iff ((∀ tx ∈ chain.flatten,
      (Chain.sentBy tx.account chain.flatten).map ChainTx.nonce =
        List.range (Chain.sentBy tx.account chain.flatten).length) ∧
      (chain.flatten.filterMap ChainTx.id).Nodup)
    ⟨fun hboth => ⟨hboth.1, hboth.2⟩, fun hboth => ⟨hboth.1, hboth.2⟩⟩

/-- The world after a step of a reconciliation pass or of the chain. -/
def World.next (confirmations : ℕ → ℕ) (world : World) : Label → Option World
  | .fleet _ => none
  | .grow eid chain =>
    if Chain.Follows (confirmations eid) (world.network eid) chain ∧
        chain.Valid ∧ mineable world.db eid chain = true then
      some (world.setChain eid chain)
    else none
  | .select token lane =>
    match world.passes token, selectReconcileHolds world.db lane with
    | none, .ok holds => some (world.setPass token (some (.selected lane holds)))
    | _, _ => none
  | .claim token now leaseTTL =>
    match world.passes token with
    | none => none
    | some pass =>
      if pass.claimed = false ∧ (claimNonceReconciliation world.db now pass.lane token leaseTTL
          pass.holds).2.isOk = true then
        some ((world.withDB (claimNonceReconciliation world.db now pass.lane token leaseTTL
          pass.holds).1).setPass token (some { pass with claimed := true }))
      else none
  | .load token =>
    match world.passes token with
    | none => none
    | some pass =>
      if pass.claimed = true ∧ pass.hashes = none then
        some (world.setPass token (some { pass with
          hashes := some (loadNonceReconcileAttemptHashes world.db
            (pass.holds.map NonceReconcileHold.id)) }))
      else none
  | .head token number =>
    match world.passes token with
    | none => none
    | some pass =>
      if pass.hashes ≠ none ∧ pass.confirmedBlock = none ∧
          number ≤ (world.network pass.lane.chainEID).head then
        some (world.setPass token (some { pass with
          confirmedBlock := some (number - confirmations pass.lane.chainEID) }))
      else none
  | .nonce token =>
    match world.passes token with
    | none => none
    | some pass =>
      match pass.confirmedBlock with
      | none => none
      | some block =>
        if pass.confirmedNonce = none then
          some (world.setPass token (some { pass with
            confirmedNonce := some
              ((world.network pass.lane.chainEID).nonceAt pass.lane.signerID
                (nonceBlock (confirmations pass.lane.chainEID)
                  (world.network pass.lane.chainEID) block)) }))
        else none
  | .lookup token id hash answer =>
    match world.passes token with
    | none => none
    | some pass =>
      match pass.confirmedBlock with
      | none => none
      | some block =>
        if pass.confirmedNonce ≠ none ∧ pass.probes id hash = none ∧
            answer.true (world.network pass.lane.chainEID) block hash = true then
          some (world.setPass token (some (pass.setProbe id hash answer.probe)))
        else none
  | .canonical .. => none
  | .apply token now backoff observed =>
    match world.passes token with
    | none => none
    | some pass =>
      match pass.hashes, pass.confirmedBlock, pass.confirmedNonce with
      | some hashes, some block, some nonce =>
        if pass.finished hashes = true then
          some ((world.withDB (applyNonceReconciliation world.db now
            pass.lane token nonce block backoff observed
            (pass.decisions hashes nonce)).1).setPass token none)
        else none
      | _, _, _ => none

theorem worldStep_of_next {confirmations : ℕ → ℕ} {world post : World} {label : Label}
    (hnext : world.next confirmations label = some post) :
    WorldStep confirmations world label post := by
  unfold World.next at hnext
  split at hnext
  · cases hnext
  · obtain ⟨⟨hfollows, hvalid, hsent⟩, hpost⟩ := ite_none_right_eq_some.mp hnext
    cases hpost
    exact .grow hfollows hvalid hsent
  · split at hnext
    · rename_i hfresh hread
      cases hnext
      exact .select hfresh hread
    · cases hnext
  · split at hnext
    · cases hnext
    rename_i pass hpass
    obtain ⟨⟨hunclaimed, hgranted⟩, hpost⟩ := ite_none_right_eq_some.mp hnext
    cases hpost
    exact .claim hpass hunclaimed hgranted
  · split at hnext
    · cases hnext
    rename_i pass hpass
    obtain ⟨⟨hclaimed, hunread⟩, hpost⟩ := ite_none_right_eq_some.mp hnext
    cases hpost
    exact .load hpass hclaimed hunread
  · split at hnext
    · cases hnext
    rename_i pass hpass
    obtain ⟨⟨hloaded, hunread, hanswer⟩, hpost⟩ := ite_none_right_eq_some.mp hnext
    cases hpost
    exact .head hpass hloaded hunread hanswer
  · split at hnext
    · cases hnext
    rename_i pass hpass
    split at hnext
    · cases hnext
    rename_i block hblock
    obtain ⟨hunread, hpost⟩ := ite_none_right_eq_some.mp hnext
    cases hpost
    exact .nonce hpass hblock hunread
  · split at hnext
    · cases hnext
    rename_i pass hpass
    split at hnext
    · cases hnext
    rename_i block hblock
    obtain ⟨⟨hread, hunread, htruth⟩, hpost⟩ := ite_none_right_eq_some.mp hnext
    cases hpost
    exact .lookup hpass hblock hread hunread htruth
  · cases hnext
  · split at hnext
    · cases hnext
    rename_i pass hpass
    split at hnext
    · rename_i hashes block nonce hhashes hblock hnonce
      obtain ⟨hfinished, hpost⟩ := ite_none_right_eq_some.mp hnext
      cases hpost
      exact .apply hpass hhashes hblock hnonce hfinished
    · cases hnext

/-- The label and the world of a deed. -/
def Deed.outcome (confirmations : ℕ → ℕ) (world : World) : Deed → Option (Label × World)
  | .signer pass =>
    match pass.move world.fleet with
    | none => none
    | some move =>
      if reconciles move = false ∧ trueSend world move = true then
        some (.fleet move, { world with fleet := afterMove world.fleet move })
      else none
  | .reconciler label =>
    (world.next confirmations label).map fun post => (label, post)

theorem worldStep_of_outcome {confirmations : ℕ → ℕ} {world post : World} {deed : Deed}
    {label : Label} (houtcome : deed.outcome confirmations world = some (label, post)) :
    WorldStep confirmations world label post := by
  cases deed with
  | signer pass =>
    unfold Deed.outcome at houtcome
    dsimp only at houtcome
    split at houtcome
    · cases houtcome
    rename_i move hmove
    obtain ⟨⟨hother, htrue⟩, hpost⟩ := ite_none_right_eq_some.mp houtcome
    cases hpost
    exact .fleet (offeredStep_of_move hmove) hother htrue
  | reconciler other =>
    obtain ⟨next, hnext, hpair⟩ := map_eq_some_iff.mp houtcome
    cases hpair
    exact worldStep_of_next hnext

end Lazier.Reconcile
