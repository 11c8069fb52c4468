import TychoIndexer.Extractor.Single

/-!
# The contract-state service

`tycho_indexer::services::rpc` serves `POST /v1/{execution_env}/contract_state`. The handler
resolves the version the request names to a block or a timestamp, takes a connection from the
pool, asks the storage gateway for the contracts at that version, and answers with their states
converted to the response's DTO; any failure is a `500`.

The pool and the gateway are outside the repository. The pool is the outcome of `get()`, and
`get_contracts` is the parameter `getContracts`: the gateway's answer for a chain, the requested
addresses (every contract when absent) and a version. The query parameters of the request are
passed along but never read; they are left out. A version names a block by hash first, then by
chain and number, and a timestamp only when it names no block; a block named by neither fails,
even when a timestamp is given (`BlockOrTimestamp.tryFrom`).

* `ResponseAccount.fromAccount_equiv_iff` — the conversion of a stored account loses nothing and
  adds nothing: two accounts convert to equal response accounts, slot maps compared by content,
  exactly when they are equal.
-/

namespace TychoIndexer

/-! ### The request and the response -/

namespace Dto

/-- `dto::Chain`. -/
inductive Chain
  | ethereum
  | starknet
  | zkSync
  deriving DecidableEq, Repr

/-- `dto::BlockParam`, the fields the service reads. -/
structure BlockParam where
  hash : Option Bytes
  chain : Option Dto.Chain
  number : Option I64

/-- `dto::VersionParam`. -/
structure VersionParam where
  timestamp : Option NaiveDateTime
  block : Option BlockParam

/-- `dto::ContractId`. -/
structure ContractId where
  chain : Dto.Chain
  address : Bytes

/-- `dto::StateRequestBody`. -/
structure StateRequestBody where
  contractIds : Option (List ContractId)
  version : VersionParam

/-- `dto::ResponseAccount`. -/
structure ResponseAccount where
  chain : Dto.Chain
  address : Bytes
  title : String
  slots : HashMap Bytes Bytes
  balance : Bytes
  code : Bytes
  codeHash : Bytes
  balanceModifyTx : Bytes
  codeModifyTx : Bytes
  creationTx : Option Bytes

/-- `dto::StateRequestResponse`. -/
structure StateRequestResponse where
  accounts : List ResponseAccount

end Dto

/-- `From<dto::Chain> for Chain`. -/
def Chain.ofDto : Dto.Chain → Chain
  | .ethereum => .ethereum
  | .starknet => .starknet
  | .zkSync => .zkSync

/-- `From<Chain> for dto::Chain`. -/
def Chain.toDto : Chain → Dto.Chain
  | .ethereum => .ethereum
  | .starknet => .starknet
  | .zkSync => .zkSync

@[simp] theorem Chain.ofDto_toDto (c : Chain) : Chain.ofDto c.toDto = c := by cases c <;> rfl

@[simp] theorem Chain.toDto_ofDto (c : Dto.Chain) : (Chain.ofDto c).toDto = c := by
  cases c <;> rfl

theorem Chain.toDto_injective : Function.Injective Chain.toDto := fun a b h => by
  rw [← Chain.ofDto_toDto a, h, Chain.ofDto_toDto]

/-! ### Versions -/

/-- `storage::BlockIdentifier`. -/
inductive BlockIdentifier
  | hash (hash : Bytes)
  | number (chain : Chain) (number : I64)

/-- `storage::BlockOrTimestamp`. -/
inductive BlockOrTimestamp
  | block (id : BlockIdentifier)
  | timestamp (ts : NaiveDateTime)

/-- `storage::VersionKind`, of which the service asks for `Last`. -/
inductive VersionKind
  | last

/-- `storage::Version`. -/
structure Version where
  blockOrTimestamp : BlockOrTimestamp
  kind : VersionKind

/-- `RpcError`, with the text of the storage and pool errors. -/
inductive RpcError
  | parse (msg : String)
  | storage (e : String)
  | connection (e : String)

/-- `TryFrom<&dto::VersionParam> for BlockOrTimestamp`: a block, when one is given, by hash first,
then by chain and number; a timestamp otherwise. -/
def BlockOrTimestamp.tryFrom (version : Dto.VersionParam) : Except RpcError BlockOrTimestamp :=
  match version.timestamp, version.block with
  | _, some blockParam =>
    match blockParam.hash, blockParam.chain, blockParam.number with
    | some hash, _, _ => .ok (.block (.hash hash))
    | _, some chain, some number => .ok (.block (.number (Chain.ofDto chain) number))
    | _, _, _ => .error (.parse "Insufficient block information")
  | some ts, none => .ok (.timestamp ts)
  | none, none => .error (.parse "Missing timestamp or block identifier")

/-! ### The handler -/

namespace Evm

/-- `extractor::evm::Account`: a contract's state as the storage gateway returns it. -/
structure Account where
  chain : Chain
  address : H160
  title : String
  slots : HashMap U256 U256
  balance : U256
  code : Bytes
  codeHash : H256
  balanceModifyTx : H256
  codeModifyTx : H256
  creationTx : Option H256

end Evm

/-- `From<evm::Account> for dto::ResponseAccount`: words as their 32 big-endian bytes, the slot
map re-keyed through the same encoding. -/
def Dto.ResponseAccount.fromAccount (value : Evm.Account) : Dto.ResponseAccount :=
  { chain := value.chain.toDto, address := value.address.val, title := value.title,
    slots := HashMap.insertAll (fun e => U256.toBytes e.1) (fun e => U256.toBytes e.2) ∅
      value.slots.entries,
    balance := value.balance.toBytes, code := value.code, codeHash := value.codeHash.val,
    balanceModifyTx := value.balanceModifyTx.val, codeModifyTx := value.codeModifyTx.val,
    creationTx := value.creationTx.map (·.val) }

/-- The gateway's `get_contracts` with slots: the accounts of a chain at a version, restricted to
the given addresses when there are some, or the text of its `StorageError`. -/
abbrev GetContracts := Chain → Option (List Bytes) → Version → Except String (List Evm.Account)

/-- `RpcHandler::get_contract_state_inner`. -/
def RpcHandler.getContractStateInner (getContracts : GetContracts) (chain : Chain)
    (request : Dto.StateRequestBody) : Except RpcError Dto.StateRequestResponse := do
  let blockOrTimestamp ← BlockOrTimestamp.tryFrom request.version
  let version : Version := ⟨blockOrTimestamp, .last⟩
  let addresses := request.contractIds.map fun ids => ids.map (·.address)
  match getContracts chain addresses version with
  | .ok accounts => .ok ⟨accounts.map Dto.ResponseAccount.fromAccount⟩
  | .error err => .error (.storage err)

/-- `RpcHandler::get_contract_state`: a connection from the pool, then the inner call. -/
def RpcHandler.getContractState (connection : Except String Unit) (getContracts : GetContracts)
    (chain : Chain) (request : Dto.StateRequestBody) :
    Except RpcError Dto.StateRequestResponse := do
  let _ ← connection.mapError .connection
  RpcHandler.getContractStateInner getContracts chain request

/-- What the service answers. -/
inductive HttpResponse
  | ok (state : Dto.StateRequestResponse)
  | internalServerError

/-- `contract_state`: `200` with the state, or `500`. -/
def contractState (connection : Except String Unit) (getContracts : GetContracts)
    (executionEnv : Chain) (body : Dto.StateRequestBody) : HttpResponse :=
  match RpcHandler.getContractState connection getContracts executionEnv body with
  | .ok state => .ok state
  | .error _ => .internalServerError

/-! ### The conversion of an account -/

/-- Two response accounts are equal as Rust values: field by field, the slot maps compared by
content. -/
def Dto.ResponseAccount.Equiv (r₁ r₂ : Dto.ResponseAccount) : Prop :=
  r₁.chain = r₂.chain ∧ r₁.address = r₂.address ∧ r₁.title = r₂.title ∧
    (∀ k, r₁.slots.lookup k = r₂.slots.lookup k) ∧ r₁.balance = r₂.balance ∧ r₁.code = r₂.code ∧
    r₁.codeHash = r₂.codeHash ∧ r₁.balanceModifyTx = r₂.balanceModifyTx ∧
    r₁.codeModifyTx = r₂.codeModifyTx ∧ r₁.creationTx = r₂.creationTx

/-- Two stored accounts are equal as Rust values: field by field, the slot maps compared by
content. -/
def Evm.Account.Equiv (a b : Evm.Account) : Prop :=
  a.chain = b.chain ∧ a.address = b.address ∧ a.title = b.title ∧
    (∀ k, a.slots.lookup k = b.slots.lookup k) ∧ a.balance = b.balance ∧ a.code = b.code ∧
    a.codeHash = b.codeHash ∧ a.balanceModifyTx = b.balanceModifyTx ∧
    a.codeModifyTx = b.codeModifyTx ∧ a.creationTx = b.creationTx

/-- The slot map of a response account holds every stored slot at its 32-byte key, with its
32-byte value. -/
theorem Dto.ResponseAccount.lookup_slots_fromAccount (value : Evm.Account) (k : U256) :
    (Dto.ResponseAccount.fromAccount value).slots.lookup k.toBytes =
      (value.slots.lookup k).map U256.toBytes :=
  HashMap.lookup_insertAll_entries U256.toBytes_injective U256.toBytes _ k

/-- A response account has no slot at a key that is not 32 bytes long. -/
theorem Dto.ResponseAccount.lookup_slots_fromAccount_of_length_ne (value : Evm.Account)
    {key : Bytes} (hkey : key.length ≠ 32) :
    (Dto.ResponseAccount.fromAccount value).slots.lookup key = none :=
  HashMap.lookup_insertAll_entries_of_not_mem U256.toBytes _ fun k hk =>
    hkey (hk ▸ U256.length_toBytes k)

/-- Two response accounts have the same slots exactly when their stored accounts do. -/
theorem Dto.ResponseAccount.lookup_slots_fromAccount_iff {a b : Evm.Account} :
    (∀ key, (Dto.ResponseAccount.fromAccount a).slots.lookup key =
        (Dto.ResponseAccount.fromAccount b).slots.lookup key) ↔
      ∀ k, a.slots.lookup k = b.slots.lookup k := by
  refine ⟨fun h k => Option.map_injective U256.toBytes_injective ?_, fun h key => ?_⟩
  · rw [← lookup_slots_fromAccount, ← lookup_slots_fromAccount, h]
  by_cases hkey : key.length = 32
  · -- a 32-byte key is the encoding of a word
    have hword : key = (U256.fromH256 ⟨key, hkey⟩).toBytes := (U256.toBytes_fromH256 ⟨key, hkey⟩).symm
    rw [hword, lookup_slots_fromAccount, lookup_slots_fromAccount, h]
  · rw [lookup_slots_fromAccount_of_length_ne a hkey, lookup_slots_fromAccount_of_length_ne b hkey]

/-- **The conversion loses nothing of a stored account, and adds nothing.** Two stored accounts
convert to equal response accounts exactly when they are equal: the same chain, address, title,
balance, code, hashes and creation transaction, and the same value in every slot. -/
theorem Dto.ResponseAccount.fromAccount_equiv_iff {a b : Evm.Account} :
    (Dto.ResponseAccount.fromAccount a).Equiv (Dto.ResponseAccount.fromAccount b) ↔ a.Equiv b := by
  rw [Dto.ResponseAccount.Equiv, lookup_slots_fromAccount_iff]
  simp only [Dto.ResponseAccount.fromAccount, Chain.toDto_injective.eq_iff, Subtype.val_inj,
    U256.toBytes_injective.eq_iff, (Option.map_injective Subtype.val_injective).eq_iff]
  rfl

/-- One slot map built in two orders: the maps differ as lists, and the response accounts are
equal as Rust values. -/
theorem Dto.ResponseAccount.fromAccount_equiv_of_reordered_slots :
    ((∅ : HashMap U256 U256).insert 1 2 |>.insert 3 4).entries ≠
        ((∅ : HashMap U256 U256).insert 3 4 |>.insert 1 2).entries ∧
      (Dto.ResponseAccount.fromAccount
        ⟨.ethereum, ⟨List.replicate 20 0, rfl⟩, "pool", (∅ : HashMap U256 U256).insert 1 2 |>.insert 3 4,
          0, [], H256.zero, H256.zero, H256.zero, none⟩).Equiv
      (Dto.ResponseAccount.fromAccount
        ⟨.ethereum, ⟨List.replicate 20 0, rfl⟩, "pool", (∅ : HashMap U256 U256).insert 3 4 |>.insert 1 2,
          0, [], H256.zero, H256.zero, H256.zero, none⟩) :=
  ⟨by decide, Dto.ResponseAccount.fromAccount_equiv_iff.mpr ⟨rfl, rfl, rfl, fun k => by
    by_cases h1 : k = 1
    · subst h1; rfl
    · by_cases h3 : k = 3
      · subst h3; rfl
      · simp only [AList.lookup_insert_ne h1, AList.lookup_insert_ne h3],
    rfl, rfl, rfl, rfl, rfl, rfl⟩⟩

end TychoIndexer
