import TychoIndexer.Models
import TychoIndexer.Substreams

/-!
# Decoding the parts of a transaction

The `TryFromMessage` implementations of `protobuf_deserialisation.rs` for the single entities a
transaction carries: its change type, block and transaction headers, account deltas and
balances, component balances, protocol components, state deltas, entry points and tracing
parameters. Each is a function into `Except Fault`, and each that can fail comes with its **spec
lemma**: it fails only with a `DecodeError`, never with a panic (`…_isDecodeError`). The aggregate
decoders cite these lemmas and never unfold the part decoders.

A change type is rejected only when it is `Unspecified`, a protocol component only when its
type is missing, unregistered, or its change type is rejected, and a component balance only when
its component id is not UTF-8; the other part decoders reject nothing but an unspecified change
type (`AccountDelta`, `ProtocolComponentStateDelta`) or missing trace data (`TracingParams`).

Two of them do less than their callers may expect. The block header's timestamp is cast with
`as i64` before chrono checks it, so a `u64` at or above `2^64 + minTimestamp` wraps to an instant
before 1970 that chrono accepts. A state delta collects its updated and its deleted attributes
independently, so a name both set and deleted in one message is in both.
-/

namespace TychoIndexer

/-- A decoder's result ends in a `DecodeError` whenever it fails. -/
def FailsDecoding {α : Type} (r : Except Fault α) : Prop :=
  ∀ f, r = .error f → f.IsDecodeError

theorem failsDecoding_ok {α : Type} (a : α) : FailsDecoding (.ok a : Except Fault α) := by
  intro f h; cases h

theorem failsDecoding_decode {α : Type} (msg : String) :
    FailsDecoding (.error (.decode msg) : Except Fault α) := by
  intro f h; cases h; trivial

theorem FailsDecoding.bind {α β : Type} {r : Except Fault α} {g : α → Except Fault β}
    (hr : FailsDecoding r) (hg : ∀ a, r = .ok a → FailsDecoding (g a)) :
    FailsDecoding (r >>= g) := by
  cases r with
  | error e => exact fun f h => hr f (by cases h; rfl)
  | ok a => exact hg a rfl

/-- A fallible loop fails only with a `DecodeError` when its parser does. -/
theorem FailsDecoding.forEachTry {α β γ : Type} {parse : α → Except Fault β} {step : γ → β → γ}
    (h : ∀ c, FailsDecoding (parse c)) (acc : γ) (cs : List α) :
    FailsDecoding (forEachTry parse step acc cs) := by
  induction cs generalizing acc with
  | nil => exact failsDecoding_ok _
  | cons c cs ih => exact (h c).bind fun _ _ => ih _

/-- `collect::<Result<Vec<_>, _>>()` fails only with a `DecodeError` when its parser does. -/
theorem FailsDecoding.mapM {α β : Type} {parse : α → Except Fault β}
    (h : ∀ c, FailsDecoding (parse c)) (cs : List α) : FailsDecoding (cs.mapM parse) := by
  induction cs with
  | nil => exact failsDecoding_ok _
  | cons c cs ih =>
    rw [List.mapM_cons]
    exact (h c).bind fun _ _ => ih.bind fun _ _ => failsDecoding_ok _

/-! ### Change types, blocks and transactions -/

/-- `ChangeType::try_from_message`. -/
def ChangeType.tryFromMessage : Substreams.ChangeType → Except Fault ChangeType
  | .creation => .ok .creation
  | .update => .ok .update
  | .deletion => .ok .deletion
  | .unspecified => .error (.decode "Unknown ChangeType enum member encountered: Unspecified")

theorem bind_eq_ok_iff {ε α β : Type} {r : Except ε α} {g : α → Except ε β} {b : β} :
    r >>= g = .ok b ↔ ∃ a, r = .ok a ∧ g a = .ok b := by
  cases r <;> simp [bind, Except.bind]

theorem bind_eq_error_iff {ε α β : Type} {r : Except ε α} {g : α → Except ε β} {e : ε} :
    r >>= g = .error e ↔ r = .error e ∨ ∃ a, r = .ok a ∧ g a = .error e := by
  cases r <;> simp [bind, Except.bind]

theorem ChangeType.tryFromMessage_isDecodeError (c : Substreams.ChangeType) :
    FailsDecoding (ChangeType.tryFromMessage c) := by
  cases c <;> first | exact failsDecoding_ok _ | exact failsDecoding_decode _

/-- `Block::try_from_message`: the timestamp is cast with `as i64` before chrono reads it. -/
def Block.tryFromMessage (msg : Substreams.Block) (chain : Chain) : Except Fault Block :=
  match NaiveDateTime.fromTimestampOpt (asI64 msg.ts) with
  | some ts => .ok { chain, number := msg.number, hash := msg.hash, parentHash := msg.parentHash, ts }
  | none => .error (.decode s!"Failed to convert timestamp {msg.ts} to datetime!")

theorem Block.chain_of_tryFromMessage {msg : Substreams.Block} {chain : Chain} {b : Block}
    (h : Block.tryFromMessage msg chain = .ok b) : b.chain = chain := by
  unfold Block.tryFromMessage at h
  split at h <;> cases h
  rfl

theorem Block.tryFromMessage_isDecodeError (msg : Substreams.Block) (chain : Chain) :
    FailsDecoding (Block.tryFromMessage msg chain) := by
  unfold Block.tryFromMessage
  split
  · exact failsDecoding_ok _
  · exact failsDecoding_decode _

theorem asI64_of_le {x : UInt64} (h : 2 ^ 63 ≤ x.toNat) : asI64 x = x.toNat - 2 ^ 64 :=
  if_neg (Nat.not_lt.mpr h)

/-- **`as i64` wraps the last timestamps of `u64` into chrono's range.** -/
theorem Block.tryFromMessage_wraps_timestamp {msg : Substreams.Block} (chain : Chain)
    (h : 2 ^ 64 + minTimestamp ≤ (msg.ts.toNat : Int)) :
    ∃ b, Block.tryFromMessage msg chain = .ok b ∧ b.ts.timestamp = msg.ts.toNat - 2 ^ 64 ∧
      b.ts.timestamp < 0 := by
  have hlt : msg.ts.toNat < 2 ^ 64 := msg.ts.val.isLt
  have hle : 2 ^ 63 ≤ msg.ts.toNat := by unfold minTimestamp at h; omega
  have hin : minTimestamp ≤ (msg.ts.toNat : Int) - 2 ^ 64 ∧
      (msg.ts.toNat : Int) - 2 ^ 64 ≤ maxTimestamp := by
    unfold maxTimestamp; omega
  rw [Block.tryFromMessage, asI64_of_le hle, NaiveDateTime.fromTimestampOpt, dif_pos hin]
  exact ⟨_, rfl, rfl, by show (msg.ts.toNat : Int) - 2 ^ 64 < 0; omega⟩

/-- `u64::MAX` decodes to the last second of 1969. -/
theorem Block.tryFromMessage_u64_max :
    (2 : Int) ^ 64 + minTimestamp ≤ ((18446744073709551615 : UInt64).toNat : Int) ∧
    ∃ b, Block.tryFromMessage ⟨0, [], [], 18446744073709551615⟩ .ethereum = .ok b ∧
      b.ts.timestamp = -1 := by
  obtain ⟨b, hb, hts, -⟩ := @Block.tryFromMessage_wraps_timestamp ⟨0, [], [], 18446744073709551615⟩
    .ethereum (by decide)
  exact ⟨by decide, b, hb, hts.trans (by decide)⟩

/-- `Transaction::try_from_message`: an empty `to` is no recipient. -/
def Transaction.tryFromMessage (msg : Substreams.Transaction) (blockHash : Bytes) :
    Except Fault Transaction :=
  .ok { hash := msg.hash, blockHash, «from» := msg.from,
        «to» := if msg.to.isEmpty then none else some msg.to, index := msg.index }

theorem Transaction.index_of_tryFromMessage {msg : Substreams.Transaction} {blockHash : Bytes}
    {tx : Transaction} (h : Transaction.tryFromMessage msg blockHash = .ok tx) :
    tx.index = msg.index := by
  cases h; rfl

theorem Transaction.blockHash_of_tryFromMessage {msg : Substreams.Transaction} {blockHash : Bytes}
    {tx : Transaction} (h : Transaction.tryFromMessage msg blockHash = .ok tx) :
    tx.blockHash = blockHash := by
  cases h; rfl

/-! ### Account deltas and balances -/

/-- `AccountDelta::try_from_message`: slots are collected into a map, an empty balance or code is
absent. -/
def AccountDelta.tryFromMessage (msg : Substreams.ContractChange) (chain : Chain) :
    Except Fault AccountDelta := do
  let change ← ChangeType.tryFromMessage msg.change
  pure { chain, address := msg.address,
         slots := HashMap.insertAll (·.slot) (fun cs => some cs.value) ∅ msg.slots,
         balance := if msg.balance.isEmpty then none else some msg.balance,
         code := if msg.code.isEmpty then none else some msg.code,
         change }

theorem AccountDelta.tryFromMessage_isDecodeError (msg : Substreams.ContractChange)
    (chain : Chain) : FailsDecoding (AccountDelta.tryFromMessage msg chain) :=
  (ChangeType.tryFromMessage_isDecodeError _).bind fun _ _ => failsDecoding_ok _

theorem AccountDelta.address_of_tryFromMessage {msg : Substreams.ContractChange} {chain : Chain}
    {d : AccountDelta} (h : AccountDelta.tryFromMessage msg chain = .ok d) :
    d.address = msg.address := by
  unfold AccountDelta.tryFromMessage at h
  cases hc : ChangeType.tryFromMessage msg.change <;>
    simp only [hc, bind, Except.bind, pure, Except.pure, reduceCtorEq, Except.ok.injEq] at h
  exact h ▸ rfl

/-- `AccountBalance::try_from_message`. -/
def AccountBalance.tryFromMessage (msg : Substreams.AccountBalanceChange) (addr : Bytes)
    (tx : Transaction) : Except Fault AccountBalance :=
  .ok { token := msg.token, balance := msg.balance, modifyTx := tx.hash, account := addr }

section Std

variable (std : RustStd)

/-- `ComponentBalance::try_from_message`: `balance_float` is NaN where `bytes_to_f64` gives no
value, and the component id must be UTF-8. -/
def ComponentBalance.tryFromMessage (msg : Substreams.BalanceChange) (tx : Transaction) :
    Except Fault ComponentBalance := do
  let balanceFloat := (bytesToF64 msg.balance).getD .nan
  let componentId ← (std.fromUtf8 msg.componentId).mapError Fault.decode
  pure { token := msg.token, balance := msg.balance, balanceFloat, modifyTx := tx.hash,
         componentId }

theorem ComponentBalance.tryFromMessage_isDecodeError (msg : Substreams.BalanceChange)
    (tx : Transaction) : FailsDecoding (ComponentBalance.tryFromMessage std msg tx) := by
  unfold ComponentBalance.tryFromMessage
  cases std.fromUtf8 msg.componentId
  · exact failsDecoding_decode _
  · exact failsDecoding_ok _

theorem ComponentBalance.tryFromMessage_eq_ok {msg : Substreams.BalanceChange}
    {tx : Transaction} {b : ComponentBalance} :
    ComponentBalance.tryFromMessage std msg tx = .ok b ↔
      std.fromUtf8 msg.componentId = .ok b.componentId ∧ b.token = msg.token ∧
        b.balance = msg.balance ∧ b.balanceFloat = (bytesToF64 msg.balance).getD .nan ∧
        b.modifyTx = tx.hash := by
  unfold ComponentBalance.tryFromMessage
  cases std.fromUtf8 msg.componentId with
  | error e => simp [Except.mapError, bind, Except.bind]
  | ok c =>
    simp only [Except.mapError, bind, Except.bind, pure, Except.pure, Except.ok.injEq]
    constructor
    · rintro rfl; exact ⟨rfl, rfl, rfl, rfl, rfl⟩
    · rintro ⟨rfl, h₁, h₂, h₃, h₄⟩; cases b; simp_all

end Std

/-! ### Protocol components and state deltas -/

/-- `ProtocolComponent::try_from_message`: the protocol type must be present and registered,
and the change type specified. The registry is read only through `contains_key`, so it is its
key set here. -/
def ProtocolComponent.tryFromMessage (msg : Substreams.ProtocolComponent) (chain : Chain)
    (protocolSystem : String) (protocolTypes : Finset String) (txHash : Bytes)
    (creationTs : NaiveDateTime) : Except Fault ProtocolComponent :=
  let staticAttributes := HashMap.insertAll (·.name) (·.value) ∅ msg.staticAtt
  match msg.protocolType with
  | none => .error (.decode "Missing protocol type")
  | some protocolType =>
    if protocolType.name ∉ protocolTypes then
      .error (.decode s!"Unknown protocol type name: {protocolType.name}")
    else do
      let change ← ChangeType.tryFromMessage msg.change
      pure { id := msg.id, protocolTypeName := protocolType.name, protocolSystem,
             tokens := msg.tokens, contractAddresses := msg.contracts, staticAttributes, chain,
             change, creationTx := txHash, createdAt := creationTs }

theorem ProtocolComponent.tryFromMessage_isDecodeError (msg : Substreams.ProtocolComponent)
    (chain : Chain) (protocolSystem : String) (protocolTypes : Finset String) (txHash : Bytes)
    (creationTs : NaiveDateTime) :
    FailsDecoding (ProtocolComponent.tryFromMessage msg chain protocolSystem protocolTypes txHash
      creationTs) := by
  unfold ProtocolComponent.tryFromMessage
  split
  · exact failsDecoding_decode _
  · split
    · exact failsDecoding_decode _
    · exact (ChangeType.tryFromMessage_isDecodeError _).bind fun _ _ => failsDecoding_ok _

/-- A decoded component carries the message's id, and the transaction and time it is given. -/
theorem ProtocolComponent.eq_of_tryFromMessage {msg : Substreams.ProtocolComponent} {chain : Chain}
    {protocolSystem : String} {protocolTypes : Finset String} {txHash : Bytes}
    {creationTs : NaiveDateTime} {c : ProtocolComponent}
    (h : ProtocolComponent.tryFromMessage msg chain protocolSystem protocolTypes txHash
      creationTs = .ok c) : c.id = msg.id ∧ c.creationTx = txHash ∧ c.createdAt = creationTs := by
  unfold ProtocolComponent.tryFromMessage at h
  split at h
  · cases h
  · split at h
    · cases h
    · obtain ⟨_, -, h⟩ := bind_eq_ok_iff.mp h
      cases h; exact ⟨rfl, rfl, rfl⟩

/-- `ProtocolComponentStateDelta`: one attribute applied to the updated and deleted sets. -/
def applyAttribute (acc : HashMap String Bytes × Finset String) :
    Substreams.Attribute × ChangeType → HashMap String Bytes × Finset String
  | (attr, .update) | (attr, .creation) => (acc.1.insert attr.name attr.value, acc.2)
  | (attr, .deletion) => (acc.1, insert attr.name acc.2)

/-- `ProtocolComponentStateDelta::try_from_message`. -/
def ProtocolComponentStateDelta.tryFromMessage (msg : Substreams.EntityChanges) :
    Except Fault ProtocolComponentStateDelta := do
  let (updates, deletions) ← forEachTry
    (fun attr => do
      let change ← ChangeType.tryFromMessage attr.change
      pure (attr, change))
    applyAttribute (∅, ∅) msg.attributes
  pure { componentId := msg.componentId, updatedAttributes := updates,
         deletedAttributes := deletions }

theorem ProtocolComponentStateDelta.componentId_of_tryFromMessage {msg : Substreams.EntityChanges}
    {d : ProtocolComponentStateDelta} (h : ProtocolComponentStateDelta.tryFromMessage msg = .ok d) :
    d.componentId = msg.componentId := by
  obtain ⟨_, -, h⟩ := bind_eq_ok_iff.mp h
  cases h; rfl

theorem ProtocolComponentStateDelta.tryFromMessage_isDecodeError (msg : Substreams.EntityChanges) :
    FailsDecoding (ProtocolComponentStateDelta.tryFromMessage msg) :=
  (FailsDecoding.forEachTry (fun _ => (ChangeType.tryFromMessage_isDecodeError _).bind
    fun _ _ => failsDecoding_ok _) _ _).bind fun ⟨_, _⟩ _ => failsDecoding_ok _

/-- The state-delta loop from any accumulator: every `Creation` and `Update` inserted in order,
every `Deletion` added to the deleted names. -/
theorem forEachTry_applyAttribute (acc : HashMap String Bytes × Finset String)
    {attributes : List Substreams.Attribute} (hspec : ∀ a ∈ attributes, a.change ≠ .unspecified) :
    forEachTry (fun attr => do
        let change ← ChangeType.tryFromMessage attr.change
        pure (attr, change)) applyAttribute acc attributes =
      .ok (HashMap.insertAll (·.name) (·.value) acc.1
          (attributes.filter fun a => a.change != .deletion),
        acc.2 ∪ ((attributes.filter fun a => a.change == .deletion).map (·.name)).toFinset) := by
  induction attributes generalizing acc with
  | nil => simp [forEachTry]
  | cons a as ih =>
    obtain ⟨name, value, change⟩ := a
    cases change
    case unspecified => exact absurd rfl (hspec _ (List.mem_cons_self _ _))
    all_goals
      refine (ih _ fun a' h => hspec a' (List.mem_cons_of_mem _ h)).trans ?_
      simp [applyAttribute, List.filter_cons, Finset.insert_union]

/-- **A state delta keeps every deleted name.** For a message whose attributes all have a
specified change type, the delta's updated attributes hold, for each name, the value of its last
`Creation` or `Update`, and its deleted attributes every name with a `Deletion` anywhere in the
message: a name deleted and then set again, or set and then deleted, is in both. -/
theorem ProtocolComponentStateDelta.tryFromMessage_keeps_deletions
    (msg : Substreams.EntityChanges) (hspec : ∀ a ∈ msg.attributes, a.change ≠ .unspecified) :
    ∃ d, ProtocolComponentStateDelta.tryFromMessage msg = .ok d ∧
      (∀ name, d.updatedAttributes.lookup name =
        (msg.attributes.reverse.find? fun a => a.name = name ∧ a.change ≠ .deletion).map
          (·.value)) ∧
      ∀ name, name ∈ d.deletedAttributes ↔
        ∃ a ∈ msg.attributes, a.name = name ∧ a.change = .deletion := by
  rw [ProtocolComponentStateDelta.tryFromMessage, forEachTry_applyAttribute _ hspec]
  refine ⟨_, rfl, fun name => ?_, fun name => ?_⟩
  · simp only [HashMap.lookup_insertAll, AList.lookup_empty, Option.or_none, ← List.filter_reverse,
      List.find?_filter]
    congr 2
    funext a
    simp [Bool.and_comm]
  · simp only [Finset.empty_union, List.mem_toFinset, List.mem_map, List.mem_filter, beq_iff_eq]
    exact exists_congr fun a =>
      ⟨fun ⟨⟨h₁, h₂⟩, h₃⟩ => ⟨h₁, h₃, h₂⟩, fun ⟨h₁, h₃, h₂⟩ => ⟨⟨h₁, h₂⟩, h₃⟩⟩

/-- A name deleted and then updated is in both sets. -/
theorem ProtocolComponentStateDelta.tryFromMessage_deleted_then_set :
    (∀ a ∈ [(⟨"x", [], .deletion⟩ : Substreams.Attribute), ⟨"x", [1], .update⟩],
      a.change ≠ .unspecified) ∧
    ∃ d, ProtocolComponentStateDelta.tryFromMessage
        ⟨"pool", [⟨"x", [], .deletion⟩, ⟨"x", [1], .update⟩]⟩ = .ok d ∧
      d.updatedAttributes.lookup "x" = some [1] ∧ "x" ∈ d.deletedAttributes := by
  obtain ⟨d, hd, hupdated, hdeleted⟩ := ProtocolComponentStateDelta.tryFromMessage_keeps_deletions
    ⟨"pool", [⟨"x", [], .deletion⟩, ⟨"x", [1], .update⟩]⟩ (by decide)
  exact ⟨by decide, d, hd, (hupdated "x").trans rfl,
    (hdeleted "x").mpr ⟨⟨"x", [], .deletion⟩, by simp, rfl, rfl⟩⟩

/-! ### Entry points -/

/-- `EntryPoint::try_from_message`. -/
def EntryPoint.tryFromMessage (msg : Substreams.EntryPoint) : Except Fault EntryPoint :=
  .ok { externalId := msg.id, target := msg.target, signature := msg.signature }

/-- `TracingParams::try_from_message`: the trace data must be present. -/
def TracingParams.tryFromMessage (msg : Substreams.EntryPointParams) :
    Except Fault TracingParams :=
  match msg.traceData with
  | some (.rpc rpcData) => .ok (.rpcTracer rpcData.caller rpcData.calldata)
  | none => .error (.decode "Missing trace data in EntryPointParams")

theorem TracingParams.tryFromMessage_isDecodeError (msg : Substreams.EntryPointParams) :
    FailsDecoding (TracingParams.tryFromMessage msg) := by
  unfold TracingParams.tryFromMessage
  split
  · exact failsDecoding_ok _
  · exact failsDecoding_decode _

end TychoIndexer
