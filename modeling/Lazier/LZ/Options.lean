import Lazier.Store.Bytes

/-!
# Executor options

The only option shape the executor supports: one `lzReceive` option, in full
type-3 options or in the worker stream that the send library passes on.
-/

namespace Lazier.LZ

open Store

def optionType3 : ℕ := 3
def executorWorkerID : UInt8 := 1
def optionTypeLzReceive : UInt8 := 1
def lzReceiveGasBytes : ℕ := 16
def lzReceiveOptionBytes : ℕ := 32

/-- The strict option set of the executor. -/
structure ExecutorOptions where
  lzReceiveGas : ℕ
  deriving DecidableEq

def unsupportedExecutorOptionError (optionType : UInt8) : String :=
  if optionType = 2 then "unsupported native drop executor option"
  else if optionType = 3 then "unsupported lzCompose executor option"
  else if optionType = 4 then "unsupported ordered execution executor option"
  else if optionType = 5 then "unsupported lzRead executor option"
  else s!"unsupported executor option type {optionType.toNat}"

/-- One option after its header: the gas of an `lzReceive` option. -/
def decodeExecutorOption (workerID optionType : UInt8) (payload : Bytes)
    (decoded : Option ExecutorOptions) : Except String ExecutorOptions :=
  if workerID ≠ executorWorkerID then
    .error s!"unsupported worker option id {workerID.toNat}"
  else if optionType ≠ optionTypeLzReceive then
    .error (unsupportedExecutorOptionError optionType)
  else if decoded.isSome then .error "duplicate lzReceive option"
  else if payload.length ≠ lzReceiveGasBytes ∧ payload.length ≠ lzReceiveOptionBytes then
    .error s!"invalid lzReceive option payload length {payload.length}"
  else if payload.length = lzReceiveOptionBytes ∧
      bigEndian (payload.drop lzReceiveGasBytes) ≠ 0 then
    .error "non-zero lzReceive native value"
  else if bigEndian (payload.take lzReceiveGasBytes) = 0 then
    .error "lzReceive gas is required"
  else .ok ⟨bigEndian (payload.take lzReceiveGasBytes)⟩

/-- The loop of `DecodeExecutorOptions` over the bytes behind the cursor.  Every
round consumes at least four bytes, so `fuel` never runs out when it starts at
their number. -/
def decodeExecutorOptionsFrom : ℕ → Bytes → Option ExecutorOptions → Except String ExecutorOptions
  | 0, _, decoded =>
    match decoded with
    | none => .error "missing lzReceive option"
    | some options => .ok options
  | fuel + 1, remaining, decoded =>
    match remaining with
    | [] =>
      match decoded with
      | none => .error "missing lzReceive option"
      | some options => .ok options
    | workerID :: high :: low :: optionType :: _ =>
      let size := bigEndian [high, low]
      if size = 0 ∨ remaining.length < 3 + size then
        .error "invalid executor option size"
      else
        match decodeExecutorOption workerID optionType
            ((remaining.drop 4).take (size - 1)) decoded with
        | .error error => .error error
        | .ok options =>
          decodeExecutorOptionsFrom fuel (remaining.drop (3 + size)) (some options)
    | _ => .error "truncated executor option header"

def decodeExecutorOptions (options : Bytes) : Except String ExecutorOptions :=
  let remaining :=
    if 2 ≤ options.length ∧ bigEndian (options.take 2) = optionType3 then
      options.drop 2
    else options
  decodeExecutorOptionsFrom remaining.length remaining none

end Lazier.LZ
