import TychoIndexer.Codec
import Mathlib.Algebra.Group.Int

/-!
# The normalized change model

The types the decoders produce and the extractors return, as `tycho_common` and the indexer's
extractor models define them: blocks and transactions, account and component deltas, balances,
entry points, and the per-transaction and per-block aggregates. Their constructors (`new`) are
not among the sources; each is the field-wise constructor here.

Two pieces of outside code are modelled with them. A `NaiveDateTime` is chrono's wall clock at
whole seconds, kept as its Unix timestamp together with chrono's date range as an invariant, so
that a value outside the range cannot be built; `NaiveDateTime.fromTimestampOpt` is the one
constructor the decoders call. `Fault` records how a decoder ends without a value: it returns an
`ExtractionError`, or it panics in an `expect`.
-/

namespace TychoIndexer

/-- A chain tag. The code passes it through unchanged; the tags are the ones the specification
names. -/
inductive Chain
  | ethereum
  | starknet
  | zkSync
  deriving DecidableEq, Repr

/-- `models::ChangeType`. -/
inductive ChangeType
  | creation
  | update
  | deletion
  deriving DecidableEq, Repr

/-! ### Wall-clock time -/

/-- The first second chrono's `NaiveDateTime` represents: January 1 of the year -262143
(chrono 0.4.35 and later, the releases that deprecate `from_timestamp_opt`). -/
def minTimestamp : Int := -8334601228800

/-- The last second chrono's `NaiveDateTime` represents: December 31 of the year 262142,
23:59:59. -/
def maxTimestamp : Int := 8210266876799

/-- A chrono `NaiveDateTime` at a whole second, given by its Unix timestamp. -/
structure NaiveDateTime where
  timestamp : Int
  min_le : minTimestamp ≤ timestamp
  le_max : timestamp ≤ maxTimestamp
  deriving DecidableEq, Repr

/-- `NaiveDateTime::from_timestamp_opt(secs, 0)`: the instant `secs` seconds after the Unix
epoch, if chrono can represent it. -/
def NaiveDateTime.fromTimestampOpt (secs : Int) : Option NaiveDateTime :=
  if h : minTimestamp ≤ secs ∧ secs ≤ maxTimestamp then some ⟨secs, h.1, h.2⟩ else none

/-- An `i64`. -/
abbrev I64 := {x : Int // -2 ^ 63 ≤ x ∧ x < 2 ^ 63}

/-- The cast `x as i64`: two's-complement reinterpretation of the 64 bits. -/
def asI64 (x : UInt64) : Int :=
  if x.toNat < 2 ^ 63 then x.toNat else x.toNat - 2 ^ 64

/-! ### Blocks, transactions and deltas -/

/-- `models::blockchain::Block`. -/
structure Block where
  number : UInt64
  hash : Bytes
  parentHash : Bytes
  chain : Chain
  ts : NaiveDateTime
  deriving DecidableEq, Repr

/-- `models::blockchain::Transaction`. -/
structure Transaction where
  hash : Bytes
  blockHash : Bytes
  «from» : Bytes
  «to» : Option Bytes
  index : UInt64
  deriving DecidableEq, Repr

/-- `models::contract::AccountDelta`; a slot value `none` is a cleared slot. -/
structure AccountDelta where
  address : Bytes
  chain : Chain
  slots : HashMap Bytes (Option Bytes)
  balance : Option Bytes
  code : Option Bytes
  change : ChangeType
  deriving DecidableEq

/-- `models::contract::AccountBalance`. -/
structure AccountBalance where
  account : Bytes
  token : Bytes
  balance : Bytes
  modifyTx : Bytes
  deriving DecidableEq, Repr

/-- `models::protocol::ComponentBalance`. -/
structure ComponentBalance where
  token : Bytes
  balance : Bytes
  balanceFloat : F64
  modifyTx : Bytes
  componentId : String
  deriving DecidableEq, Repr

/-- `models::protocol::ProtocolComponent`. -/
structure ProtocolComponent where
  id : String
  protocolSystem : String
  protocolTypeName : String
  chain : Chain
  tokens : List Bytes
  contractAddresses : List Bytes
  staticAttributes : HashMap String Bytes
  change : ChangeType
  creationTx : Bytes
  createdAt : NaiveDateTime
  deriving DecidableEq

/-- `models::protocol::ProtocolComponentStateDelta`. -/
structure ProtocolComponentStateDelta where
  componentId : String
  updatedAttributes : HashMap String Bytes
  deletedAttributes : Finset String
  deriving DecidableEq

/-- `models::blockchain::EntryPoint`. -/
structure EntryPoint where
  externalId : String
  target : Bytes
  signature : String
  deriving DecidableEq, Repr

/-- `models::blockchain::TracingParams`. -/
inductive TracingParams
  | rpcTracer (caller : Option Bytes) (calldata : Bytes)
  deriving DecidableEq, Repr

/-! ### Aggregates -/

/-- `models::blockchain::TxWithChanges`: one transaction and everything it changed. -/
structure TxWithChanges where
  tx : Transaction
  protocolComponents : HashMap String ProtocolComponent
  accountDeltas : HashMap Bytes AccountDelta
  stateUpdates : HashMap String ProtocolComponentStateDelta
  balanceChanges : HashMap String (HashMap Bytes ComponentBalance)
  accountBalanceChanges : HashMap Bytes (HashMap Bytes AccountBalance)
  entrypoints : HashMap String (Finset EntryPoint)
  entrypointParams : HashMap String (Finset (TracingParams × Option String))
  deriving DecidableEq

/-- `models::protocol::ProtocolChangesWithTx`: the protocol part of a transaction. -/
structure ProtocolChangesWithTx where
  newProtocolComponents : HashMap String ProtocolComponent
  protocolStates : HashMap String ProtocolComponentStateDelta
  balanceChanges : HashMap String (HashMap Bytes ComponentBalance)
  tx : Transaction
  deriving DecidableEq

/-- `models::contract::AccountChangesWithTx`: the account part of a transaction. -/
structure AccountChangesWithTx where
  accountDeltas : HashMap Bytes AccountDelta
  protocolComponents : HashMap String ProtocolComponent
  componentBalances : HashMap String (HashMap Bytes ComponentBalance)
  accountBalances : HashMap Bytes (HashMap Bytes AccountBalance)
  tx : Transaction
  deriving DecidableEq

/-- `extractor::models::TxWithStorageChanges`: the storage writes of one transaction, by
contract and slot. -/
structure TxWithStorageChanges where
  tx : Transaction
  storageChanges : HashMap Bytes (HashMap Bytes Bytes)
  deriving DecidableEq

/-- `extractor::models::BlockChanges`, the canonical ingestion output. -/
structure BlockChanges where
  extractor : String
  chain : Chain
  block : Block
  finalizedBlockHeight : UInt64
  revert : Bool
  txsWithUpdate : List TxWithChanges
  blockStorageChanges : List TxWithStorageChanges
  deriving DecidableEq

/-- `extractor::models::BlockEntityChanges`. -/
structure BlockEntityChanges where
  extractor : String
  chain : Chain
  block : Block
  finalizedBlockHeight : UInt64
  revert : Bool
  txsWithUpdate : List ProtocolChangesWithTx
  deriving DecidableEq

/-- `extractor::models::BlockContractChanges`. -/
structure BlockContractChanges where
  extractor : String
  chain : Chain
  block : Block
  finalizedBlockHeight : UInt64
  revert : Bool
  txUpdates : List AccountChangesWithTx
  deriving DecidableEq

/-! ### Errors -/

/-- The `ExtractionError` kinds the decoders return. -/
inductive ExtractionError
  | decodeError (msg : String)
  | empty
  deriving DecidableEq, Repr

/-- How a decoder ends without a value: a returned error, or a panic with its message. -/
inductive Fault
  | error (e : ExtractionError)
  | panic (msg : String)
  deriving DecidableEq, Repr

/-- `ExtractionError::DecodeError(msg)` as a decoder's failure. -/
abbrev Fault.decode (msg : String) : Fault := .error (.decodeError msg)

/-- A panic-free failure is a `DecodeError`. -/
def Fault.IsDecodeError : Fault → Prop
  | .error (.decodeError _) => True
  | _ => False

end TychoIndexer
