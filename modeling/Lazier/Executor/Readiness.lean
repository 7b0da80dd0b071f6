import Lazier.LZ.Options
import Lazier.Store.Jobs

/-!
# Readiness checks and requests of the executor

Before it acts on a packet the executor reads the endpoint and the receive
library of the destination chain.  The answers of the contract calls are
inputs; the decisions drawn from them and the requests built for the outbox
are the source's.
-/

namespace Lazier.Executor

open Store

variable {packet : PacketRecord} {signerID : String} {request : TxRequest}

/-! ## Worker configuration -/

/-- The part of `chain.Chain` that the executor reads. -/
structure ChainConfig where
  endpointAddress : Address
  confirmations : ℕ
  signerID : String

/-- The part of `chain.Pathway` that the executor reads. -/
structure PathwayConfig where
  enabled : Bool
  receiveLib : Address

/-- `chain.Registry` by its two lookups, and the chains that have a caller. -/
structure WorkerConfig where
  get : ℕ → Option ChainConfig
  pathway : Route → Option PathwayConfig
  hasCaller : ℕ → Bool

/-! ## Contract calls -/

def originNonce (packet : PacketRecord) : ℕ := packet.nonce % 2 ^ 64

def emptyPayloadHash : Hash := Hash.zero
def nilPayloadHash : Hash := ⟨List.replicate 32 255, List.length_replicate⟩

/-- The answers that `CheckCommitState` reads at one anchor. -/
structure CommitView where
  inboundPayloadHash : Except String Hash
  isValidReceiveLibrary : Except String Bool
  endpointVerifiable : Except String Bool
  ulnConfig : Except String Unit
  ulnVerifiable : Except String Bool

inductive CommitState
  | notVerifiable
  | verifiable
  | committed
  deriving DecidableEq

/-- An answer that ends the check when it is an error or `false`. -/
def requireView (answer : Except String Bool)
    (next : Except String CommitState) : Except String CommitState :=
  match answer with
  | .error error => .error error
  | .ok false => .ok .notVerifiable
  | .ok true => next

def checkCommitState (hasCaller : Bool) (endpoint receiveLib : Address)
    (packet : PacketRecord) (view : CommitView) : Except String CommitState :=
  match packet.validationError with
  | some error => .error error.text
  | none =>
    if hasCaller = false then .error "contract caller is required"
    else if endpoint = Address.zero then
      .error "endpoint address is required"
    else if receiveLib = Address.zero then
      .error "receive lib address is required"
    else if packet.payloadHash = emptyPayloadHash then .ok .notVerifiable
    else
      match view.inboundPayloadHash with
      | .error error => .error error
      | .ok payloadHash =>
        if payloadHash = packet.payloadHash then .ok .committed
        else
          requireView view.isValidReceiveLibrary <|
          requireView view.endpointVerifiable <|
          match view.ulnConfig with
          | .error error => .error error
          | .ok () => requireView view.ulnVerifiable (.ok .verifiable)

/-- The answers that `CheckDeliveryState` reads at one anchor. -/
structure DeliveryView where
  inboundPayloadHash : Except String Hash
  lazyInboundNonce : Except String ℕ
  inboundNonce : Except String ℕ

inductive DeliveryState
  | notExecutable
  | executable
  | delivered
  deriving DecidableEq

def checkDeliveryState (hasCaller : Bool) (endpoint : Address)
    (packet : PacketRecord) (view : DeliveryView) :
    Except String DeliveryState :=
  match packet.validationError with
  | some error => .error error.text
  | none =>
    if hasCaller = false then .error "contract caller is required"
    else if endpoint = Address.zero then
      .error "endpoint address is required"
    else
      match view.inboundPayloadHash, view.lazyInboundNonce with
      | .error error, _ => .error error
      | .ok _, .error error => .error error
      | .ok payloadHash, .ok lazyInboundNonce =>
        if payloadHash = emptyPayloadHash ∧ originNonce packet ≤ lazyInboundNonce then
          .ok .delivered
        else if payloadHash ≠ packet.payloadHash then .ok .notExecutable
        else if payloadHash = emptyPayloadHash ∨ payloadHash = nilPayloadHash then
          .ok .notExecutable
        else
          match view.inboundNonce with
          | .error error => .error error
          | .ok inboundNonce =>
            if originNonce packet > inboundNonce then
              .ok .notExecutable
            else .ok .executable

/-- `commitConfirmedOnChain` and `deliveryConfirmedOnChain`: read the state
again at the block that is deep enough, if there is one. -/
def confirmedOnChain (config : WorkerConfig) (eid : ℕ)
    (head : Except String ℕ) (atDepth : Except String Bool) :
    Except String Bool :=
  match config.get eid with
  | none => .error s!"unknown chain eid {eid}"
  | some chain =>
    if chain.confirmations = 0 then atDepth
    else if config.hasCaller eid = false then
      .error s!"missing destination caller for eid {eid}"
    else
      match head with
      | .error error => .error error
      | .ok head =>
        if head < chain.confirmations then .ok false else atDepth

/-! ## Requests -/

/-- ABI packing, which is third-party code. -/
structure CalldataLibrary where
  packCommitVerification : Bytes → Hash → Except String Bytes
  packLzReceive : ℕ → Hash → ℕ → Address → Hash → Bytes → Except String Bytes

/-- The contracts' ABI. -/
def abiCalldata : CalldataLibrary where
  packCommitVerification header payloadHash :=
    .ok ([0x08, 0x94, 0xed, 0xf1] ++ abiWord 64 ++ payloadHash.1 ++ abiBytes header)
  packLzReceive srcEID sender nonce receiver guid message :=
    .ok ([0x0c, 0x0c, 0x38, 0x9e] ++ abiWord srcEID ++ sender.1 ++ abiWord nonce ++
      (bytesToHash receiver.1).1 ++ guid.1 ++ abiWord 224 ++
      abiWord (224 + (abiBytes message).length) ++ abiBytes message ++ abiBytes [])

variable {abi : CalldataLibrary}

def executorRequest (packet : PacketRecord) (purpose : Purpose)
    (target : Address) (calldata : Bytes) (signerID : String) : TxRequest where
  chainEID := packet.dstEID
  purpose := purpose
  guid := packet.guid.1
  toAddress := target
  calldata := calldata
  value := some 0
  signerID := signerID

def buildCommitVerificationTx (abi : CalldataLibrary) (packet : PacketRecord)
    (receiveLib : Address) (signerID : String) : Except String TxRequest :=
  if receiveLib = Address.zero then .error "receive lib address is required"
  else if signerID = "" then .error "signer id is required"
  else
    match packet.validationError with
    | some error => .error error.text
    | none =>
      (abi.packCommitVerification packet.packetHeader packet.payloadHash).map fun calldata =>
          executorRequest packet .executorCommitVerification receiveLib calldata signerID

def buildLzReceiveTx (abi : CalldataLibrary) (packet : PacketRecord)
    (endpoint : Address) (signerID : String) : Except String TxRequest :=
  if endpoint = Address.zero then .error "endpoint address is required"
  else if signerID = "" then .error "signer id is required"
  else
    match LZ.decodeExecutorOptions packet.options with
    | .error error => .error error
    | .ok _ =>
      match packet.validationError with
      | some error => .error error.text
      | none =>
        (abi.packLzReceive packet.srcEID (bytesToHash packet.sender.1)
          (originNonce packet) packet.receiver packet.guid packet.message).map fun calldata =>
            executorRequest packet .executorLzReceive endpoint calldata signerID

/-- Both builders end by packing the calldata into the request. -/
theorem request_of_pack {pack : Except String Bytes} {purpose : Purpose} {target : Address}
    (hbuild : pack.map (fun calldata =>
      executorRequest packet purpose target calldata signerID) = .ok request) :
    request.purpose = purpose ∧ request.guid = packet.guid.1 := by
  cases pack with
  | error error => cases hbuild
  | ok calldata =>
    cases hbuild
    exact ⟨rfl, rfl⟩

theorem buildCommitVerificationTx_ok {receiveLib : Address}
    (hbuild : buildCommitVerificationTx abi packet receiveLib signerID = .ok request) :
    request.purpose = .executorCommitVerification ∧ request.guid = packet.guid.1 := by
  unfold buildCommitVerificationTx at hbuild
  split at hbuild
  · cases hbuild
  split at hbuild
  · cases hbuild
  split at hbuild
  · cases hbuild
  exact request_of_pack hbuild

theorem buildLzReceiveTx_ok {endpoint : Address}
    (hbuild : buildLzReceiveTx abi packet endpoint signerID = .ok request) :
    request.purpose = .executorLzReceive ∧ request.guid = packet.guid.1 := by
  unfold buildLzReceiveTx at hbuild
  split at hbuild
  · cases hbuild
  split at hbuild
  · cases hbuild
  split at hbuild
  · cases hbuild
  split at hbuild
  · cases hbuild
  exact request_of_pack hbuild

end Lazier.Executor
