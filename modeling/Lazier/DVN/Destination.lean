import Lazier.DVN.Evidence

/-!
# Destination checks of the DVN

Before it gates a packet and before it verifies one, the worker compares the
destination chain's receive configuration with its own and asks whether the
packet is verified already.  The answers of the contract calls are inputs; the
decisions drawn from them are the source's.
-/

namespace Lazier.DVN

open Store

/-! ## Worker configuration -/

/-- `config.DVNMode`. -/
inductive DVNMode
  | shadow
  | active
  | other (name : String)
  deriving DecidableEq

/-- The part of `chain.Chain` that the DVN reads. -/
structure ChainConfig where
  endpointAddress : Address
  confirmations : ℕ

/-- The part of `chain.Pathway` that the DVN reads. -/
structure PathwayConfig where
  dvnMode : DVNMode
  receiveLib : Address
  openDVN : Address
  receiveRequiredDVNs : List Address

/-- `chain.Registry`, by its two lookups. -/
structure ChainRegistry where
  get : ℕ → Option ChainConfig
  pathway : Route → Option PathwayConfig

/-- A worker's registry, its signers by destination and the chains for which
it has RPC readers. -/
structure WorkerConfig where
  registry : Option ChainRegistry
  signerID : ℕ → Option String
  hasReader : ℕ → Bool

/-! ## Contract calls -/

/-- `receiveUlnConfig`. -/
structure ReceiveUlnConfig where
  confirmations : ℕ
  requiredDVNCount : ℕ
  optionalDVNCount : ℕ
  optionalDVNThreshold : ℕ
  requiredDVNs : List Address
  optionalDVNs : List Address

/-- The answers of the view calls at one anchor. -/
structure DestinationView where
  inboundPayloadHash : Except String Hash
  receiveLibrary : Except String Address
  ulnConfig : Except String ReceiveUlnConfig
  hashLookup : Except String (Bool × ℕ)

/-- Errors of the destination checks, with
`errDestinationVerificationConfigMismatch` apart. -/
inductive DestinationError
  | mismatch (message : String)
  | failed (message : String)
  deriving DecidableEq

def DestinationError.text : DestinationError → String
  | .mismatch message =>
    "destination verification config mismatch: " ++ message
  | .failed message => message

/-- A contract call that first requires the given addresses. -/
def callView {Value : Type} (required : List (Address × String)) (answer : Except String Value) :
    Except DestinationError Value :=
  match required.find? fun entry => entry.1 = Address.zero with
  | some entry => .error (.failed entry.2)
  | none =>
    match answer with
    | .error error => .error (.failed error)
    | .ok value => .ok value

def callInboundPayloadHash (endpoint : Address) (view : DestinationView) :
    Except DestinationError Hash :=
  callView [(endpoint, "endpoint address is required")] view.inboundPayloadHash

def callReceiveLibrary (endpoint receiver : Address) (view : DestinationView) :
    Except DestinationError Address := callView
    [(endpoint, "endpoint address is required"), (receiver, "receiver address is required")]
    view.receiveLibrary

def callReceiveUlnConfig (receiveLib receiver : Address) (view : DestinationView) :
    Except DestinationError ReceiveUlnConfig := callView
    [(receiveLib, "receive lib address is required"), (receiver, "receiver address is required")]
    view.ulnConfig

def callHashLookup (receiveLib dvn : Address) (view : DestinationView) :
    Except DestinationError (Bool × ℕ) := callView
    [(receiveLib, "receive lib address is required"), (dvn, "open dvn address is required")]
    view.hashLookup

/-! ## Receive configuration -/

def nilDVNCount : ℕ := 255

/-- `equalAddressSets`: the same addresses up to order. -/
def equalAddressSets (left right : List Address) : Bool := left.isPerm right

/-- `%v` of an address slice. -/
def addressesText (addresses : List Address) : String :=
  "[" ++ String.intercalate " " (addresses.map Address.hex) ++ "]"

def validateReceiveUlnConfig (config : ReceiveUlnConfig) (confirmations : ℕ)
    (requiredDVNs : List Address) : Option String :=
  if confirmations < config.confirmations then
    some (s!"assigned confirmations {confirmations} are below receive uln required " ++
      s!"confirmations {config.confirmations}")
  else if config.requiredDVNCount ≠ config.requiredDVNs.length % 256 then
    some (s!"receive uln requiredDVNCount {config.requiredDVNCount} does not match requiredDVNs " ++
      s!"length {config.requiredDVNs.length}")
  else if config.optionalDVNCount ≠ 0 ∧ config.optionalDVNCount ≠ nilDVNCount then
    some s!"receive uln optionalDVNCount {config.optionalDVNCount} is not disabled"
  else if config.optionalDVNThreshold ≠ 0 then
    some s!"receive uln optionalDVNThreshold {config.optionalDVNThreshold} is not zero"
  else if config.optionalDVNs.length ≠ 0 then
    some s!"receive uln optional DVNs are configured: {addressesText config.optionalDVNs}"
  else if ¬ equalAddressSets config.requiredDVNs requiredDVNs then
    some (s!"receive uln required DVNs {addressesText config.requiredDVNs} do not match " ++
      s!"configured required set {addressesText requiredDVNs}")
  else none

def validateDestinationVerificationConfig (endpoint : Address) (packet : PacketRecord)
    (pathway : PathwayConfig) (confirmations : ℕ) (view : DestinationView) :
    Except DestinationError Unit :=
  match callReceiveLibrary endpoint packet.receiver view with
  | .error error => .error error
  | .ok receiveLib =>
    if receiveLib ≠ pathway.receiveLib then
      .error (.mismatch
        (s!"destination receive library {receiveLib.hex} does not match configured " ++
          pathway.receiveLib.hex))
    else
      match callReceiveUlnConfig pathway.receiveLib packet.receiver view with
      | .error error => .error error
      | .ok config =>
        match validateReceiveUlnConfig config confirmations pathway.receiveRequiredDVNs with
        | some error => .error (.mismatch error)
        | none => .ok ()

/-- `validateActiveDestinationConfig`; `anchor` is the outcome of
`destinationAnchor`. -/
def validateActiveDestinationConfig (config : WorkerConfig) (packet : PacketRecord)
    (confirmations : ℕ) (anchor : Except String Unit) (view : DestinationView) :
    Except DestinationError Unit :=
  match config.registry with
  | none => .ok ()
  | some registry =>
    match registry.pathway packet.route with
    | none =>
      .error (.failed
        (s!"unknown pathway {packet.srcEID} -> {packet.dstEID} {packet.sender.hex} -> " ++
          packet.receiver.hex))
    | some pathway =>
      if pathway.dvnMode ≠ .active then .ok ()
      else
        match registry.get packet.dstEID with
        | none =>
          .error (.failed s!"unknown chain eid {packet.dstEID}")
        | some dstChain =>
          if ¬ config.hasReader packet.dstEID then
            .error (.failed s!"missing destination caller for eid {packet.dstEID}")
          else
            match anchor with
            | .error error => .error (.failed error)
            | .ok () =>
              validateDestinationVerificationConfig
                dstChain.endpointAddress packet pathway confirmations view

/-! ## Completed verifications -/

def verificationAlreadyComplete (registry : ChainRegistry) (config : WorkerConfig)
    (packet : PacketRecord) (pathway : PathwayConfig) (confirmations : ℕ) (view : DestinationView) :
    Except DestinationError Bool :=
  match packet.validationError with
  | some error => .error (.failed error.text)
  | none =>
    if confirmations = 0 then
      .error (.failed "dvn confirmations required is required")
    else
      match registry.get packet.dstEID with
      | none => .error (.failed s!"unknown chain eid {packet.dstEID}")
      | some dstChain =>
        if ¬ config.hasReader packet.dstEID then
          .error (.failed s!"missing destination caller for eid {packet.dstEID}")
        else
          match callInboundPayloadHash dstChain.endpointAddress view with
          | .error error => .error error
          | .ok payloadHash =>
            if payloadHash = packet.payloadHash then .ok true
            else
              match validateDestinationVerificationConfig
                  dstChain.endpointAddress packet pathway confirmations view with
              | .error error => .error error
              | .ok () =>
                match callHashLookup pathway.receiveLib pathway.openDVN view with
                | .error error => .error error
                | .ok (submitted, observed) =>
                  .ok (submitted && decide (confirmations ≤ observed))

/-- The outcomes of `confirmedDstBlock`; `latest` is its nil block. -/
inductive ConfirmedBlock
  | latest
  | block (number : ℕ)
  | awaiting
  deriving DecidableEq

def confirmedDstBlock (registry : ChainRegistry) (config : WorkerConfig) (dstEID : ℕ)
    (head : Except String (Option ℕ)) :
    Except String ConfirmedBlock :=
  match registry.get dstEID with
  | none => .error s!"unknown chain eid {dstEID}"
  | some dstChain =>
    if dstChain.confirmations = 0 then .ok .latest
    else if ¬ config.hasReader dstEID then
      .error s!"missing destination head reader for eid {dstEID}"
    else
      match head with
      | .error error => .error error
      | .ok none => .error "destination head block number is unavailable"
      | .ok (some number) =>
        if 2 ^ 64 ≤ number then
          .error "destination head block number is unavailable"
        else if number < dstChain.confirmations then .ok .awaiting
        else .ok (.block (number - dstChain.confirmations))

/-- `verificationConfirmedOnChain`; `view` answers at the confirmed block. -/
def verificationConfirmedOnChain (registry : ChainRegistry) (config : WorkerConfig)
    (packet : PacketRecord) (pathway : PathwayConfig) (confirmations : ℕ)
    (head : Except String (Option ℕ)) (view : DestinationView) : Except String Bool :=
  match confirmedDstBlock registry config packet.dstEID head with
  | .error error => .error error
  | .ok .awaiting => .ok false
  | .ok _ =>
    match verificationAlreadyComplete registry config packet pathway confirmations view with
    | .error (.mismatch _) => .ok false
    | .error (.failed error) => .error error
    | .ok complete => .ok complete

end Lazier.DVN
