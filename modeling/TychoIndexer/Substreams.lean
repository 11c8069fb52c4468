import TychoIndexer.Basic

/-!
# Substreams messages

The protocol-buffer messages of `tycho_substreams::pb::tycho::evm::v1` that the decoders read,
with the fields they read. A `repeated` field is a list, an optional message field an `Option`,
and `bytes` a `Bytes`. An enum field is kept as the value its prost getter returns: `change()`
maps a number outside the enum to `Unspecified`, and the decoders read the field only through
that getter.
-/

namespace TychoIndexer

namespace Substreams

/-- `ChangeType` of the substreams schema. -/
inductive ChangeType
  | unspecified
  | update
  | creation
  | deletion
  deriving DecidableEq, Repr

/-- `Block`. -/
structure Block where
  number : UInt64
  hash : Bytes
  parentHash : Bytes
  ts : UInt64
  deriving DecidableEq, Repr

/-- `Transaction`. -/
structure Transaction where
  hash : Bytes
  «from» : Bytes
  «to» : Bytes
  index : UInt64
  deriving DecidableEq, Repr

/-- `ContractSlot`. -/
structure ContractSlot where
  slot : Bytes
  value : Bytes
  deriving DecidableEq, Repr

/-- `AccountBalanceChange`. -/
structure AccountBalanceChange where
  token : Bytes
  balance : Bytes
  deriving DecidableEq, Repr

/-- `ContractChange`. -/
structure ContractChange where
  address : Bytes
  balance : Bytes
  code : Bytes
  slots : List ContractSlot
  change : ChangeType
  tokenBalances : List AccountBalanceChange
  deriving DecidableEq, Repr

/-- `Attribute`. -/
structure Attribute where
  name : String
  value : Bytes
  change : ChangeType
  deriving DecidableEq, Repr

/-- `ProtocolType`; only its name is read. -/
structure ProtocolType where
  name : String
  deriving DecidableEq, Repr

/-- `ProtocolComponent`. -/
structure ProtocolComponent where
  id : String
  tokens : List Bytes
  contracts : List Bytes
  staticAtt : List Attribute
  change : ChangeType
  protocolType : Option ProtocolType
  deriving DecidableEq, Repr

/-- `EntityChanges`. -/
structure EntityChanges where
  componentId : String
  attributes : List Attribute
  deriving DecidableEq, Repr

/-- `BalanceChange`. -/
structure BalanceChange where
  token : Bytes
  balance : Bytes
  componentId : Bytes
  deriving DecidableEq, Repr

/-- `EntryPoint`. -/
structure EntryPoint where
  id : String
  target : Bytes
  signature : String
  componentId : String
  deriving DecidableEq, Repr

/-- `RpcTraceData`. -/
structure RpcTraceData where
  caller : Option Bytes
  calldata : Bytes
  deriving DecidableEq, Repr

/-- The `trace_data` oneof of `EntryPointParams`. -/
inductive TraceData
  | rpc (data : RpcTraceData)
  deriving DecidableEq, Repr

/-- `EntryPointParams`. -/
structure EntryPointParams where
  entrypointId : String
  componentId : Option String
  traceData : Option TraceData
  deriving DecidableEq, Repr

/-- `TransactionChanges`. -/
structure TransactionChanges where
  tx : Option Transaction
  contractChanges : List ContractChange
  entityChanges : List EntityChanges
  componentChanges : List ProtocolComponent
  balanceChanges : List BalanceChange
  entrypoints : List EntryPoint
  entrypointParams : List EntryPointParams
  deriving DecidableEq, Repr

/-- `TransactionEntityChanges`. -/
structure TransactionEntityChanges where
  tx : Option Transaction
  entityChanges : List EntityChanges
  componentChanges : List ProtocolComponent
  balanceChanges : List BalanceChange
  deriving DecidableEq, Repr

/-- `TransactionContractChanges`. -/
structure TransactionContractChanges where
  tx : Option Transaction
  contractChanges : List ContractChange
  componentChanges : List ProtocolComponent
  balanceChanges : List BalanceChange
  deriving DecidableEq, Repr

/-- `StorageChanges`: the slots one contract wrote. -/
structure StorageChanges where
  address : Bytes
  slots : List ContractSlot
  deriving DecidableEq, Repr

/-- `TransactionStorageChanges`. -/
structure TransactionStorageChanges where
  tx : Option Transaction
  storageChanges : List StorageChanges
  deriving DecidableEq, Repr

/-- `BlockChanges`. -/
structure BlockChanges where
  block : Option Block
  changes : List TransactionChanges
  storageChanges : List TransactionStorageChanges
  deriving DecidableEq, Repr

/-- `BlockEntityChanges`. -/
structure BlockEntityChanges where
  block : Option Block
  changes : List TransactionEntityChanges
  deriving DecidableEq, Repr

/-- `BlockContractChanges`. -/
structure BlockContractChanges where
  block : Option Block
  changes : List TransactionContractChanges
  deriving DecidableEq, Repr

end Substreams

end TychoIndexer
