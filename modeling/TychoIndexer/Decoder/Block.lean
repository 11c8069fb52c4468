import TychoIndexer.Decoder.Tx

/-!
# Decoding a block

The block decoders: `BlockChanges::try_from_message`, the canonical one, and the legacy
`BlockEntityChanges::try_from_message` and `BlockContractChanges::try_from_message`. Each decodes
the block header, then every transaction-level change of the message, and sorts the decoded
transactions by index with `sort_unstable_by_key`. A message without a block is
`ExtractionError::Empty`.

The canonical and the entity decoder check that a change carries its transaction before they
decode it, so the `expect` of the transaction decoders is never reached through them. The storage
changes of a `BlockChanges` are decoded without that check, and in message order: they are
neither checked nor sorted. The contract decoder skips a change without a transaction, with
whatever it carries, unregistered components included.

The main results:

* `blockDecoders_txs_perm` — a decoded block lists the decode of every change exactly once,
  sorted by transaction index, and the decode of every storage change;
* `blockChanges_sorts_txs_not_storage` — the canonical decoder sorts the transactions by index but
  leaves the storage changes, decoded from the same message, in message order;
* `blockChanges_panics_on_storage_without_tx` — a storage change without a transaction makes the
  canonical decoder panic;
* `legacyDecoders_agree` — the per-transaction parts of both legacy decoders agree with
  `TxWithChanges` on the parts they share;
* `BlockContractChanges.tryFromMessage_skips_changes_without_tx` — the contract decoder fails only
  with a `DecodeError`, and decodes a message as it decodes its changes that carry a transaction;
* `blockDecoders_failures` — each decoder fails with `Empty` on a message without a block and
  otherwise with a `DecodeError`, except that the canonical decoder panics, exactly when its block
  and changes decode and a storage change carries no transaction;
* `blockDecoders_of_perm_changes` — when the transactions of a message have distinct indexes, the
  order of its changes does not matter to any of the three decoders: the sort undoes it.
-/

namespace TychoIndexer

/-- `change.tx.as_ref().ok_or_else(..)?`: the block decoders reject a change without a transaction
before they decode it. -/
def requireTx (tx : Option Substreams.Transaction) : Except Fault Substreams.Transaction :=
  match tx with
  | some tx => .ok tx
  | none => .error (.decode "TransactionEntityChanges misses a transaction")

theorem eq_ok_of_requireTx_bind {α : Type} {tx : Option Substreams.Transaction}
    {r : Except Fault α} {a : α} (h : (requireTx tx >>= fun _ => r) = .ok a) : r = .ok a := by
  cases tx with
  | none => simp [requireTx, bind, Except.bind] at h
  | some => exact h

/-- A change that `requireTx` rejects fails with a `DecodeError`. -/
theorem requireTx_bind_isDecodeError {α : Type} {tx : Option Substreams.Transaction}
    {r : Except Fault α} (h : tx.isSome → FailsDecoding r) :
    FailsDecoding (requireTx tx >>= fun _ => r) := by
  cases tx with
  | none => exact failsDecoding_decode _
  | some t => exact h rfl

section Std

variable (std : RustStd)

/-! ### The decoders -/

/-- `BlockChanges::try_from_message`. -/
def BlockChanges.tryFromMessage (msg : Substreams.BlockChanges) (extractor : String)
    (chain : Chain) (protocolSystem : String) (protocolTypes : Finset String)
    (finalizedBlockHeight : UInt64) : Except Fault BlockChanges :=
  match msg.block with
  | none => .error (.error .empty)
  | some block => do
    let block ← Block.tryFromMessage block chain
    let txsWithUpdate ← msg.changes.mapM fun change => do
      let _ ← requireTx change.tx
      TxWithChanges.tryFromMessage std change block protocolSystem protocolTypes
    let txsWithUpdate := std.sortUnstableByKey (·.tx.index.toNat) txsWithUpdate
    let blockStorageChanges ← msg.storageChanges.mapM (TxWithStorageChanges.tryFromMessage · block)
    pure { extractor, chain, block, finalizedBlockHeight, revert := false, txsWithUpdate,
           blockStorageChanges }

/-- `BlockEntityChanges::try_from_message`. -/
def BlockEntityChanges.tryFromMessage (msg : Substreams.BlockEntityChanges) (extractor : String)
    (chain : Chain) (protocolSystem : String) (protocolTypes : Finset String)
    (finalizedBlockHeight : UInt64) : Except Fault BlockEntityChanges :=
  match msg.block with
  | none => .error (.error .empty)
  | some block => do
    let block ← Block.tryFromMessage block chain
    let txsWithUpdate ← msg.changes.mapM fun change => do
      let _ ← requireTx change.tx
      ProtocolChangesWithTx.tryFromMessage std change block protocolSystem protocolTypes
    let txsWithUpdate := std.sortUnstableByKey (·.tx.index.toNat) txsWithUpdate
    pure { extractor, chain, block, finalizedBlockHeight, revert := false, txsWithUpdate }

/-- One iteration of the loop of `BlockContractChanges::try_from_message` over the changes: the
`AccountChangesWithTx` of a change with a transaction. A change without one is skipped. -/
def BlockContractChanges.txUpdate (change : Substreams.TransactionContractChanges) (chain : Chain)
    (protocolSystem : String) (protocolTypes : Finset String) (block : Block) :
    Except Fault (Option AccountChangesWithTx) :=
  match change.tx with
  | none => .ok none
  | some tx => do
    let tx ← Transaction.tryFromMessage tx block.hash
    let accountUpdates ← parseAccountUpdates change.contractChanges chain
    let protocolComponents ← parseProtocolComponents change.componentChanges chain protocolSystem
      protocolTypes tx.hash block.ts
    let balancesChanges ← parseBalanceChanges std change.balanceChanges tx
    let accountBalanceChanges ← parseAccountBalanceChanges change.contractChanges tx
    pure (some { accountDeltas := accountUpdates, protocolComponents,
                 componentBalances := balancesChanges, accountBalances := accountBalanceChanges,
                 tx })

/-- `BlockContractChanges::try_from_message`. -/
def BlockContractChanges.tryFromMessage (msg : Substreams.BlockContractChanges)
    (extractor : String) (chain : Chain) (protocolSystem : String) (protocolTypes : Finset String)
    (finalizedBlockHeight : UInt64) : Except Fault BlockContractChanges :=
  match msg.block with
  | none => .error (.error .empty)
  | some block => do
    let block ← Block.tryFromMessage block chain
    let txUpdates ← forEachTry
      (BlockContractChanges.txUpdate std · chain protocolSystem protocolTypes block)
      (fun txUpdates update => txUpdates ++ update.toList) [] msg.changes
    let txUpdates := std.sortUnstableByKey (·.tx.index.toNat) txUpdates
    pure { extractor, chain, block, finalizedBlockHeight, revert := false, txUpdates }

/-! ### What a decoded block holds -/

/-- The contract of `sort_unstable_by_key`, read through a decoder: the sort of what every element
decoded to is a permutation of the decodes, sorted by the key. -/
theorem sortUnstableByKey_of_map_ok {α β : Type} (key : α → Nat) {f : β → Except Fault α}
    {cs : List β} {xs : List α} (h : xs.map .ok = cs.map f) :
    ((std.sortUnstableByKey key xs).map .ok).Perm (cs.map f) ∧
      (std.sortUnstableByKey key xs).Pairwise (fun a b => key a ≤ key b) :=
  ⟨h ▸ (std.sortUnstableByKey_perm key xs).map _, std.sortUnstableByKey_sorted key xs⟩

theorem BlockChanges.tryFromMessage_eq_ok {msg : Substreams.BlockChanges} {extractor : String}
    {chain : Chain} {protocolSystem : String} {protocolTypes : Finset String}
    {finalizedBlockHeight : UInt64} {bc : BlockChanges}
    (h : BlockChanges.tryFromMessage std msg extractor chain protocolSystem protocolTypes
      finalizedBlockHeight = .ok bc) :
    (∃ b, msg.block = some b ∧ Block.tryFromMessage b chain = .ok bc.block) ∧
    (∃ txs : List TxWithChanges, txs.map .ok = msg.changes.map
        (TxWithChanges.tryFromMessage std · bc.block protocolSystem protocolTypes) ∧
      bc.txsWithUpdate = std.sortUnstableByKey (·.tx.index.toNat) txs) ∧
    bc.blockStorageChanges.map .ok =
      msg.storageChanges.map (TxWithStorageChanges.tryFromMessage · bc.block) := by
  unfold BlockChanges.tryFromMessage at h
  cases hb : msg.block with
  | none => simp [hb] at h
  | some b =>
    simp only [hb, bind_eq_ok_iff, pure, Except.pure, Except.ok.injEq] at h
    obtain ⟨block, hblock, txs, htxs, storage, hstorage, rfl⟩ := h
    exact ⟨⟨b, rfl, hblock⟩, ⟨txs, map_ok_of_map_ok (fun _ _ => eq_ok_of_requireTx_bind)
      (map_ok_of_mapM_eq_ok htxs), rfl⟩, map_ok_of_mapM_eq_ok hstorage⟩

theorem BlockEntityChanges.tryFromMessage_eq_ok {msg : Substreams.BlockEntityChanges}
    {extractor : String} {chain : Chain} {protocolSystem : String} {protocolTypes : Finset String}
    {finalizedBlockHeight : UInt64} {be : BlockEntityChanges}
    (h : BlockEntityChanges.tryFromMessage std msg extractor chain protocolSystem protocolTypes
      finalizedBlockHeight = .ok be) :
    (∃ b, msg.block = some b ∧ Block.tryFromMessage b chain = .ok be.block) ∧
    ∃ txs : List ProtocolChangesWithTx, txs.map .ok = msg.changes.map
        (ProtocolChangesWithTx.tryFromMessage std · be.block protocolSystem protocolTypes) ∧
      be.txsWithUpdate = std.sortUnstableByKey (·.tx.index.toNat) txs := by
  unfold BlockEntityChanges.tryFromMessage at h
  cases hb : msg.block with
  | none => simp [hb] at h
  | some b =>
    simp only [hb, bind_eq_ok_iff, pure, Except.pure, Except.ok.injEq] at h
    obtain ⟨block, hblock, txs, htxs, rfl⟩ := h
    exact ⟨⟨b, rfl, hblock⟩, txs, map_ok_of_map_ok (fun _ _ => eq_ok_of_requireTx_bind)
      (map_ok_of_mapM_eq_ok htxs), rfl⟩

/-- The fold of the contract decoder keeps the updates in the order of the changes. -/
theorem BlockContractChanges.foldl_txUpdates (xs : List (Option AccountChangesWithTx))
    (acc : List AccountChangesWithTx) :
    xs.foldl (fun txUpdates update => txUpdates ++ update.toList) acc = acc ++ xs.filterMap id := by
  induction xs generalizing acc with
  | nil => simp
  | cons x xs ih => cases x <;> simp [ih]

theorem BlockContractChanges.tryFromMessage_eq_ok {msg : Substreams.BlockContractChanges}
    {extractor : String} {chain : Chain} {protocolSystem : String} {protocolTypes : Finset String}
    {finalizedBlockHeight : UInt64} {v : BlockContractChanges}
    (h : BlockContractChanges.tryFromMessage std msg extractor chain protocolSystem protocolTypes
      finalizedBlockHeight = .ok v) :
    (∃ b, msg.block = some b ∧ Block.tryFromMessage b chain = .ok v.block) ∧
    ∃ us : List (Option AccountChangesWithTx), us.map .ok = msg.changes.map
        (BlockContractChanges.txUpdate std · chain protocolSystem protocolTypes v.block) ∧
      v.txUpdates = std.sortUnstableByKey (·.tx.index.toNat) (us.filterMap id) := by
  unfold BlockContractChanges.tryFromMessage at h
  cases hb : msg.block with
  | none => simp [hb] at h
  | some b =>
    simp only [hb, bind_eq_ok_iff, pure, Except.pure, Except.ok.injEq] at h
    obtain ⟨block, hblock, txs, htxs, rfl⟩ := h
    obtain ⟨us, hus, rfl⟩ := HashMap.exists_of_forEachTry_eq_ok htxs
    exact ⟨⟨b, rfl, hblock⟩, us, hus, by rw [BlockContractChanges.foldl_txUpdates, List.nil_append]⟩

/-- **A decoded block lists every change once, sorted.** The transactions of a decoded
`BlockChanges` are a permutation of the decodes of its changes, in nondecreasing index order, and
its storage changes, as a multiset, are the decodes of the message's; the transactions of a
decoded `BlockEntityChanges` are a permutation of the decodes of its changes, in nondecreasing
index order. -/
theorem blockDecoders_txs_perm :
    (∀ msg extractor chain protocolSystem protocolTypes finalizedBlockHeight bc,
      BlockChanges.tryFromMessage std msg extractor chain protocolSystem protocolTypes
        finalizedBlockHeight = .ok bc →
      (bc.txsWithUpdate.map .ok).Perm (msg.changes.map
        (TxWithChanges.tryFromMessage std · bc.block protocolSystem protocolTypes)) ∧
      bc.txsWithUpdate.Pairwise (fun a b => a.tx.index ≤ b.tx.index) ∧
      (bc.blockStorageChanges.map .ok).Perm
        (msg.storageChanges.map (TxWithStorageChanges.tryFromMessage · bc.block))) ∧
    (∀ msg extractor chain protocolSystem protocolTypes finalizedBlockHeight be,
      BlockEntityChanges.tryFromMessage std msg extractor chain protocolSystem protocolTypes
        finalizedBlockHeight = .ok be →
      (be.txsWithUpdate.map .ok).Perm (msg.changes.map
        (ProtocolChangesWithTx.tryFromMessage std · be.block protocolSystem protocolTypes)) ∧
      be.txsWithUpdate.Pairwise (fun a b => a.tx.index ≤ b.tx.index)) := by
  constructor
  · intro msg extractor chain protocolSystem protocolTypes finalizedBlockHeight bc h
    obtain ⟨-, ⟨txs, htxs, hsort⟩, hstorage⟩ := BlockChanges.tryFromMessage_eq_ok std h
    rw [hsort, hstorage]
    exact ⟨(sortUnstableByKey_of_map_ok std _ htxs).1, (sortUnstableByKey_of_map_ok std _ htxs).2,
      .refl _⟩
  · intro msg extractor chain protocolSystem protocolTypes finalizedBlockHeight be h
    obtain ⟨-, txs, htxs, hsort⟩ := BlockEntityChanges.tryFromMessage_eq_ok std h
    rw [hsort]
    exact sortUnstableByKey_of_map_ok std _ htxs

/-- Two transactions given out of index order come out sorted. -/
theorem blockDecoders_txs_perm_reordered :
    (∃ bc, BlockChanges.tryFromMessage RustStd.reference
        ⟨some ⟨0, [], [], 0⟩, [⟨some ⟨[1], [], [], 1⟩, [], [], [], [], [], []⟩,
          ⟨some ⟨[2], [], [], 0⟩, [], [], [], [], [], []⟩], []⟩
        "ambient" .ethereum "ambient" ∅ 0 = .ok bc ∧
      bc.txsWithUpdate.Pairwise (fun a b => a.tx.index ≤ b.tx.index)) ∧
    (∃ be, BlockEntityChanges.tryFromMessage RustStd.reference
        ⟨some ⟨0, [], [], 0⟩, [⟨some ⟨[1], [], [], 1⟩, [], [], []⟩,
          ⟨some ⟨[2], [], [], 0⟩, [], [], []⟩]⟩
        "ambient" .ethereum "ambient" ∅ 0 = .ok be ∧
      be.txsWithUpdate.Pairwise (fun a b => a.tx.index ≤ b.tx.index)) :=
  ⟨exists_ok_and ⟨_, rfl⟩ fun _ h => ((blockDecoders_txs_perm _).1 _ _ _ _ _ _ _ h).2.1,
    exists_ok_and ⟨_, rfl⟩ fun _ h => ((blockDecoders_txs_perm _).2 _ _ _ _ _ _ _ h).2⟩

/-- **The canonical decoder sorts the transactions and not the storage changes.** Two
transactions and two storage changes, each pair given in decreasing index order: the transactions
come out sorted by index, the storage changes as they came, whatever implementation of
`sort_unstable_by_key` meets its contract. -/
theorem blockChanges_sorts_txs_not_storage :
    ∃ bc, BlockChanges.tryFromMessage std
        ⟨some ⟨0, [], [], 0⟩, [⟨some ⟨[1], [], [], 1⟩, [], [], [], [], [], []⟩,
          ⟨some ⟨[2], [], [], 0⟩, [], [], [], [], [], []⟩],
          [⟨some ⟨[1], [], [], 1⟩, []⟩, ⟨some ⟨[2], [], [], 0⟩, []⟩]⟩
        "ambient" .ethereum "ambient" ∅ 0 = .ok bc ∧
      bc.txsWithUpdate.map (·.tx.index) = [0, 1] ∧
      bc.blockStorageChanges.map (·.tx.index) = [1, 0] := by
  refine ⟨_, rfl, ?_, rfl⟩
  rw [std.sortUnstableByKey_eq_of_sorted _ (List.reverse_perm _) (by decide)]
  rfl

/-- A storage change without a transaction reaches the `expect` of
`TxWithStorageChanges::try_from_message`: the canonical decoder panics. -/
theorem blockChanges_panics_on_storage_without_tx :
    BlockChanges.tryFromMessage std ⟨some ⟨0, [], [], 0⟩, [], [⟨none, []⟩]⟩ "ambient" .ethereum
      "ambient" ∅ 0 = .error (.panic "TransactionChanges should have a transaction") :=
  rfl

/-! ### The legacy contract decoder -/

/-- A legacy `TransactionContractChanges` as a `TransactionChanges`: the same transaction,
contract changes, components and balances, and no entity changes, entry points or entry-point
parameters. -/
def Substreams.TransactionContractChanges.lift (msg : Substreams.TransactionContractChanges) :
    Substreams.TransactionChanges :=
  { tx := msg.tx, contractChanges := msg.contractChanges, entityChanges := [],
    componentChanges := msg.componentChanges, balanceChanges := msg.balanceChanges,
    entrypoints := [], entrypointParams := [] }

/-- The per-transaction step of the legacy contract decoder agrees with `TxWithChanges` on a
change with a transaction: both fail, or both succeed with the same transaction, account deltas,
components and balances. -/
theorem txUpdate_agrees (change : Substreams.TransactionContractChanges)
    (t : Substreams.Transaction) (block : Block) (protocolSystem : String)
    (protocolTypes : Finset String) :
    (∃ e₁ e₂,
      BlockContractChanges.txUpdate std { change with tx := some t } block.chain protocolSystem
        protocolTypes block = .error e₁ ∧
      TxWithChanges.tryFromMessage std { change with tx := some t }.lift block protocolSystem
        protocolTypes = .error e₂) ∨
    (∃ u x,
      BlockContractChanges.txUpdate std { change with tx := some t } block.chain protocolSystem
        protocolTypes block = .ok (some u) ∧
      TxWithChanges.tryFromMessage std { change with tx := some t }.lift block protocolSystem
        protocolTypes = .ok x ∧
      u.tx = x.tx ∧ u.accountDeltas = x.accountDeltas ∧
      u.protocolComponents = x.protocolComponents ∧ u.componentBalances = x.balanceChanges ∧
      u.accountBalances = x.accountBalanceChanges) := by
  simp only [BlockContractChanges.txUpdate, TxWithChanges.tryFromMessage,
    Substreams.TransactionContractChanges.lift, Transaction.tryFromMessage, parseStateUpdates,
    parseEntrypoints, parseEntrypointParams, forEachTry, bind, Except.bind, pure, Except.pure]
  cases parseAccountUpdates change.contractChanges block.chain <;>
    cases parseProtocolComponents change.componentChanges block.chain protocolSystem protocolTypes
      t.hash block.ts <;>
    cases parseBalanceChanges std change.balanceChanges _ <;>
    cases parseAccountBalanceChanges change.contractChanges _ <;>
    first
    | exact .inl ⟨_, _, rfl, rfl⟩
    | exact .inr ⟨_, _, rfl, rfl, rfl, rfl, rfl, rfl, rfl⟩

/-- **The legacy decoders agree with `TxWithChanges`.** On the transaction lifted to a
`TransactionChanges`, the entity decoder and `TxWithChanges` both fail, or both succeed with the
same transaction, components, state updates and balances; the contract decoder's step and
`TxWithChanges` both fail, or both succeed with the same transaction, account deltas, components,
component balances and account balances; and the updates of a decoded `BlockContractChanges` are
the sorted results of that step on its changes, at the decoded block and on the decoder's
chain. -/
theorem legacyDecoders_agree :
    (∀ msg block protocolSystem protocolTypes,
      (∃ e₁ e₂,
        ProtocolChangesWithTx.tryFromMessage std msg block protocolSystem protocolTypes =
          .error e₁ ∧
        TxWithChanges.tryFromMessage std msg.lift block protocolSystem protocolTypes =
          .error e₂) ∨
      (∃ p x,
        ProtocolChangesWithTx.tryFromMessage std msg block protocolSystem protocolTypes = .ok p ∧
        TxWithChanges.tryFromMessage std msg.lift block protocolSystem protocolTypes = .ok x ∧
        p.tx = x.tx ∧ p.newProtocolComponents = x.protocolComponents ∧
        p.protocolStates = x.stateUpdates ∧ p.balanceChanges = x.balanceChanges)) ∧
    (∀ (change : Substreams.TransactionContractChanges) t block protocolSystem protocolTypes,
      (∃ e₁ e₂,
        BlockContractChanges.txUpdate std { change with tx := some t } block.chain protocolSystem
          protocolTypes block = .error e₁ ∧
        TxWithChanges.tryFromMessage std { change with tx := some t }.lift block protocolSystem
          protocolTypes = .error e₂) ∨
      (∃ u x,
        BlockContractChanges.txUpdate std { change with tx := some t } block.chain protocolSystem
          protocolTypes block = .ok (some u) ∧
        TxWithChanges.tryFromMessage std { change with tx := some t }.lift block protocolSystem
          protocolTypes = .ok x ∧
        u.tx = x.tx ∧ u.accountDeltas = x.accountDeltas ∧
        u.protocolComponents = x.protocolComponents ∧ u.componentBalances = x.balanceChanges ∧
        u.accountBalances = x.accountBalanceChanges)) ∧
    (∀ msg extractor chain protocolSystem protocolTypes finalizedBlockHeight v,
      BlockContractChanges.tryFromMessage std msg extractor chain protocolSystem protocolTypes
          finalizedBlockHeight = .ok v →
        v.block.chain = chain ∧
        ∃ us : List (Option AccountChangesWithTx), us.map .ok = msg.changes.map
            (BlockContractChanges.txUpdate std · chain protocolSystem protocolTypes v.block) ∧
          v.txUpdates = std.sortUnstableByKey (·.tx.index.toNat) (us.filterMap id)) :=
  ⟨protocolChangesWithTx_agrees std, txUpdate_agrees std, fun _ _ _ _ _ _ _ h =>
    have ⟨⟨_, _, hblock⟩, hus⟩ := BlockContractChanges.tryFromMessage_eq_ok std h
    ⟨Block.chain_of_tryFromMessage hblock, hus⟩⟩

/-! ### Changes without a transaction -/

/-- One step of the contract decoder fails only with a `DecodeError`. -/
theorem BlockContractChanges.txUpdate_isDecodeError
    (change : Substreams.TransactionContractChanges) (chain : Chain) (protocolSystem : String)
    (protocolTypes : Finset String) (block : Block) :
    FailsDecoding (BlockContractChanges.txUpdate std change chain protocolSystem protocolTypes
      block) := by
  unfold BlockContractChanges.txUpdate
  cases change.tx with
  | none => exact failsDecoding_ok _
  | some tx =>
    refine (failsDecoding_ok _).bind fun t _ => ?_
    refine (FailsDecoding.forEachTry (fun _ => AccountDelta.tryFromMessage_isDecodeError _ _) _
      _).bind fun _ _ => ?_
    refine (FailsDecoding.forEachTry
      (fun _ => ProtocolComponent.tryFromMessage_isDecodeError _ _ _ _ _ _) _ _).bind fun _ _ => ?_
    refine (FailsDecoding.forEachTry (fun c => ?_) _ _).bind fun _ _ => ?_
    · unfold parseBalanceChange
      cases std.fromUtf8 c.componentId
      · exact failsDecoding_decode _
      · exact (ComponentBalance.tryFromMessage_isDecodeError std c t).bind
          fun _ _ => failsDecoding_ok _
    · exact (FailsDecoding.forEachTry (fun _ => failsDecoding_ok _) _ _).bind
        fun _ _ => failsDecoding_ok _

theorem BlockContractChanges.txUpdate_of_tx_none {change : Substreams.TransactionContractChanges}
    (h : change.tx = none) (chain : Chain) (protocolSystem : String)
    (protocolTypes : Finset String) (block : Block) :
    BlockContractChanges.txUpdate std change chain protocolSystem protocolTypes block =
      .ok none := by
  simp [BlockContractChanges.txUpdate, h]

theorem BlockContractChanges.txUpdate_ne_none {change : Substreams.TransactionContractChanges}
    (h : change.tx.isSome) (chain : Chain) (protocolSystem : String)
    (protocolTypes : Finset String) (block : Block) :
    BlockContractChanges.txUpdate std change chain protocolSystem protocolTypes block ≠
      .ok none := by
  obtain ⟨tx, htx⟩ := Option.isSome_iff_exists.mp h
  simp [BlockContractChanges.txUpdate, htx, bind_eq_ok_iff, pure, Except.pure]

/-- The loop over changes that all carry a transaction adds one update per change. -/
theorem BlockContractChanges.forEachTry_txUpdate_length {chain : Chain} {protocolSystem : String}
    {protocolTypes : Finset String} {block : Block}
    {changes : List Substreams.TransactionContractChanges} (htx : ∀ c ∈ changes, c.tx.isSome)
    {acc r : List AccountChangesWithTx}
    (h : forEachTry (BlockContractChanges.txUpdate std · chain protocolSystem protocolTypes block)
      (fun txUpdates update => txUpdates ++ update.toList) acc changes = .ok r) :
    r.length = acc.length + changes.length := by
  induction changes generalizing acc with
  | nil => cases h; simp
  | cons c cs ih =>
    obtain ⟨x, hx, hr⟩ := bind_eq_ok_iff.mp h
    cases x with
    | none =>
      exact absurd hx (BlockContractChanges.txUpdate_ne_none std (htx c (List.mem_cons_self _ _))
        _ _ _ _)
    | some u =>
      rw [ih (fun c' h' => htx c' (List.mem_cons_of_mem _ h')) hr]
      simp only [Option.toList_some, List.length_append, List.length_singleton, List.length_cons,
        List.length_nil]
      omega

/-- **The contract decoder skips a change without a transaction.** For a message with a block,
decoding fails only with a `DecodeError`, and a decoded block has one entry per change that
carries a transaction: decoding the message is decoding it without its changes that carry none,
whose contract changes, components and balances are neither decoded nor checked. -/
theorem BlockContractChanges.tryFromMessage_skips_changes_without_tx
    (msg : Substreams.BlockContractChanges) (extractor : String) (chain : Chain)
    (protocolSystem : String) (protocolTypes : Finset String) (finalizedBlockHeight : UInt64)
    (hblock : msg.block.isSome) :
    FailsDecoding (BlockContractChanges.tryFromMessage std msg extractor chain protocolSystem
      protocolTypes finalizedBlockHeight) ∧
    (∀ v, BlockContractChanges.tryFromMessage std msg extractor chain protocolSystem protocolTypes
        finalizedBlockHeight = .ok v →
      v.txUpdates.length = (msg.changes.filter (·.tx.isSome)).length) ∧
    BlockContractChanges.tryFromMessage std msg extractor chain protocolSystem protocolTypes
        finalizedBlockHeight =
      BlockContractChanges.tryFromMessage std
        { msg with changes := msg.changes.filter (·.tx.isSome) } extractor chain protocolSystem
        protocolTypes finalizedBlockHeight := by
  obtain ⟨b, hb⟩ := Option.isSome_iff_exists.mp hblock
  have hskip : ∀ block, forEachTry
      (BlockContractChanges.txUpdate std · chain protocolSystem protocolTypes block)
      (fun txUpdates update => txUpdates ++ update.toList) [] msg.changes =
    forEachTry (BlockContractChanges.txUpdate std · chain protocolSystem protocolTypes block)
      (fun txUpdates update => txUpdates ++ update.toList) [] (msg.changes.filter (·.tx.isSome)) :=
    fun block => forEachTry_filter _ (fun c hc => ⟨none,
      BlockContractChanges.txUpdate_of_tx_none std
        (Option.not_isSome_iff_eq_none.mp (by simpa using hc)) _ _ _ _,
      fun _ => List.append_nil _⟩) _ _
  refine ⟨?_, fun v hv => ?_, by simp only [BlockContractChanges.tryFromMessage, hb, hskip]⟩
  · simp only [BlockContractChanges.tryFromMessage, hb]
    exact (Block.tryFromMessage_isDecodeError _ _).bind fun block _ =>
      (FailsDecoding.forEachTry (fun c => BlockContractChanges.txUpdate_isDecodeError std c _ _ _ _)
        _ _).bind fun _ _ => failsDecoding_ok _
  · simp only [BlockContractChanges.tryFromMessage, hb, hskip, bind_eq_ok_iff, pure,
      Except.pure, Except.ok.injEq] at hv
    obtain ⟨block, -, txs, htxs, rfl⟩ := hv
    rw [(std.sortUnstableByKey_perm _ txs).length_eq, BlockContractChanges.forEachTry_txUpdate_length
      std (fun c hc => (List.mem_filter.mp hc).2) htxs, List.length_nil, Nat.zero_add]

/-- A block whose one change has no transaction and an unregistered component decodes, to a block
with no transaction. -/
theorem BlockContractChanges.tryFromMessage_unregistered_without_tx :
    (⟨some ⟨0, [], [], 0⟩, [⟨none, [], [⟨"pool", [], [], [], .creation, some ⟨"unknown"⟩⟩], []⟩]⟩ :
      Substreams.BlockContractChanges).block.isSome ∧
    ∃ v, BlockContractChanges.tryFromMessage RustStd.reference
        ⟨some ⟨0, [], [], 0⟩, [⟨none, [], [⟨"pool", [], [], [], .creation, some ⟨"unknown"⟩⟩], []⟩]⟩
        "ambient" .ethereum "ambient" ∅ 0 = .ok v ∧ v.txUpdates = [] :=
  ⟨rfl, _, (BlockContractChanges.tryFromMessage_skips_changes_without_tx RustStd.reference
    ⟨some ⟨0, [], [], 0⟩, [⟨none, [], [⟨"pool", [], [], [], .creation, some ⟨"unknown"⟩⟩], []⟩]⟩
    "ambient" .ethereum "ambient" ∅ 0 rfl).2.2.trans rfl, rfl⟩

/-! ### How the decoders fail -/

/-- The canonical decoder fails with `Empty`, with a `DecodeError`, or in the `expect` of a storage
change without a transaction. -/
theorem BlockChanges.tryFromMessage_eq_error {msg : Substreams.BlockChanges} {extractor : String}
    {chain : Chain} {protocolSystem : String} {protocolTypes : Finset String}
    {finalizedBlockHeight : UInt64} {f : Fault}
    (h : BlockChanges.tryFromMessage std msg extractor chain protocolSystem protocolTypes
      finalizedBlockHeight = .error f) :
    (msg.block = none ∧ f = .error .empty) ∨ f.IsDecodeError ∨
      (f = .panic "TransactionChanges should have a transaction" ∧
        ∃ c ∈ msg.storageChanges, c.tx = none) := by
  obtain ⟨block?, changes, storage⟩ := msg
  cases block? with
  | none => cases h; exact .inl ⟨rfl, rfl⟩
  | some b =>
    refine .inr ?_
    rcases bind_eq_error_iff.mp h with hb | ⟨block, -, h⟩
    · exact .inl (Block.tryFromMessage_isDecodeError _ _ f hb)
    rcases bind_eq_error_iff.mp h with ht | ⟨_, -, h⟩
    · exact .inl (FailsDecoding.mapM (fun c => requireTx_bind_isDecodeError fun hc =>
        TxWithChanges.tryFromMessage_isDecodeError std hc _ _ _) _ f ht)
    rcases bind_eq_error_iff.mp h with hs | ⟨_, -, h⟩
    · obtain ⟨c, hc, hcf⟩ := mapM_eq_error hs
      obtain ⟨hnone, rfl⟩ := TxWithStorageChanges.tryFromMessage_eq_error.mp hcf
      exact .inr ⟨rfl, c, hc, hnone⟩
    · cases h

theorem BlockEntityChanges.tryFromMessage_eq_error {msg : Substreams.BlockEntityChanges}
    {extractor : String} {chain : Chain} {protocolSystem : String} {protocolTypes : Finset String}
    {finalizedBlockHeight : UInt64} {f : Fault}
    (h : BlockEntityChanges.tryFromMessage std msg extractor chain protocolSystem protocolTypes
      finalizedBlockHeight = .error f) :
    (msg.block = none ∧ f = .error .empty) ∨ f.IsDecodeError := by
  obtain ⟨block?, changes⟩ := msg
  cases block? with
  | none => cases h; exact .inl ⟨rfl, rfl⟩
  | some b =>
    exact .inr (((Block.tryFromMessage_isDecodeError _ _).bind fun block _ =>
      (FailsDecoding.mapM (fun c => requireTx_bind_isDecodeError fun hc =>
        ProtocolChangesWithTx.tryFromMessage_isDecodeError std hc _ _ _) _).bind
      fun _ _ => failsDecoding_ok _) f h)

theorem BlockContractChanges.tryFromMessage_eq_error {msg : Substreams.BlockContractChanges}
    {extractor : String} {chain : Chain} {protocolSystem : String} {protocolTypes : Finset String}
    {finalizedBlockHeight : UInt64} {f : Fault}
    (h : BlockContractChanges.tryFromMessage std msg extractor chain protocolSystem protocolTypes
      finalizedBlockHeight = .error f) :
    (msg.block = none ∧ f = .error .empty) ∨ f.IsDecodeError := by
  obtain ⟨block?, changes⟩ := msg
  cases block? with
  | none => cases h; exact .inl ⟨rfl, rfl⟩
  | some b =>
    exact .inr (((Block.tryFromMessage_isDecodeError _ _).bind fun block _ =>
      (FailsDecoding.forEachTry
        (fun c => BlockContractChanges.txUpdate_isDecodeError std c _ _ _ _) _ _).bind
      fun _ _ => failsDecoding_ok _) f h)

/-- The storage changes of a block fail to decode, in the `expect` on a missing transaction, as
soon as one of them carries no transaction. -/
theorem mapM_storage_eq_panic {storage : List Substreams.TransactionStorageChanges} {block : Block}
    (h : ∃ c ∈ storage, c.tx = none) :
    storage.mapM (TxWithStorageChanges.tryFromMessage · block) =
      .error (.panic "TransactionChanges should have a transaction") := by
  obtain ⟨c, hc, hnone⟩ := h
  cases hm : storage.mapM (TxWithStorageChanges.tryFromMessage · block) with
  | ok xs =>
    have hok := mapM_isOk_iff.mp (by rw [hm]; rfl) c hc
    rw [TxWithStorageChanges.tryFromMessage_eq_error.mpr ⟨hnone, rfl⟩] at hok
    cases hok
  | error e =>
    obtain ⟨_, -, hc'⟩ := mapM_eq_error hm
    rw [(TxWithStorageChanges.tryFromMessage_eq_error.mp hc').2]

/-- The canonical decoder panics exactly when the block and every change decode and a storage
change carries no transaction. -/
theorem BlockChanges.tryFromMessage_eq_panic {msg : Substreams.BlockChanges} {extractor : String}
    {chain : Chain} {protocolSystem : String} {protocolTypes : Finset String}
    {finalizedBlockHeight : UInt64} {m : String} :
    BlockChanges.tryFromMessage std msg extractor chain protocolSystem protocolTypes
        finalizedBlockHeight = .error (.panic m) ↔
      m = "TransactionChanges should have a transaction" ∧
      ∃ b block, msg.block = some b ∧ Block.tryFromMessage b chain = .ok block ∧
        (∀ c ∈ msg.changes, (requireTx c.tx >>= fun _ =>
          TxWithChanges.tryFromMessage std c block protocolSystem protocolTypes).isOk) ∧
        ∃ c ∈ msg.storageChanges, c.tx = none := by
  obtain ⟨block?, changes, storage⟩ := msg
  cases block? with
  | none => simp [BlockChanges.tryFromMessage]
  | some b =>
    constructor
    · intro h
      rcases bind_eq_error_iff.mp h with hb | ⟨block, hblock, h⟩
      · exact (Block.tryFromMessage_isDecodeError _ _ _ hb).elim
      rcases bind_eq_error_iff.mp h with ht | ⟨txs, htxs, h⟩
      · exact (FailsDecoding.mapM (fun c => requireTx_bind_isDecodeError fun hc =>
          TxWithChanges.tryFromMessage_isDecodeError std hc _ _ _) _ _ ht).elim
      rcases bind_eq_error_iff.mp h with hs | ⟨_, -, h⟩
      · obtain ⟨c, hc, hcf⟩ := mapM_eq_error hs
        obtain ⟨hnone, hm⟩ := TxWithStorageChanges.tryFromMessage_eq_error.mp hcf
        cases hm
        exact ⟨rfl, b, block, rfl, hblock, mapM_isOk_iff.mp (by rw [htxs]; rfl), c, hc, hnone⟩
      · cases h
    · rintro ⟨rfl, _, block, ⟨⟩, hblock, htxs, hstorage⟩
      cases hm : changes.mapM fun change => requireTx change.tx >>= fun _ =>
          TxWithChanges.tryFromMessage std change block protocolSystem protocolTypes with
      | error e => rw [← mapM_isOk_iff, hm] at htxs; cases htxs
      | ok txs =>
        exact bind_eq_error_iff.mpr (.inr ⟨block, hblock, bind_eq_error_iff.mpr
          (.inr ⟨txs, hm, bind_eq_error_iff.mpr (.inl (mapM_storage_eq_panic hstorage))⟩)⟩)

/-- **Only the canonical decoder panics, and only on a storage change without a transaction.**
Each block decoder fails with `Empty` when the message has no block, and otherwise with a
`DecodeError`, except the canonical decoder, which panics exactly when the block and every change
decode and one of its storage changes carries no transaction. -/
theorem blockDecoders_failures :
    (∀ (msg : Substreams.BlockChanges) extractor chain protocolSystem protocolTypes
        finalizedBlockHeight,
      (msg.block = none → BlockChanges.tryFromMessage std msg extractor chain protocolSystem
        protocolTypes finalizedBlockHeight = .error (.error .empty)) ∧
      (∀ f, BlockChanges.tryFromMessage std msg extractor chain protocolSystem protocolTypes
          finalizedBlockHeight = .error f →
        (msg.block = none ∧ f = .error .empty) ∨ f.IsDecodeError ∨
          (f = .panic "TransactionChanges should have a transaction" ∧
            ∃ c ∈ msg.storageChanges, c.tx = none)) ∧
      ∀ m, BlockChanges.tryFromMessage std msg extractor chain protocolSystem protocolTypes
          finalizedBlockHeight = .error (.panic m) ↔
        m = "TransactionChanges should have a transaction" ∧
        ∃ b block, msg.block = some b ∧ Block.tryFromMessage b chain = .ok block ∧
          (∀ c ∈ msg.changes, (requireTx c.tx >>= fun _ =>
            TxWithChanges.tryFromMessage std c block protocolSystem protocolTypes).isOk) ∧
          ∃ c ∈ msg.storageChanges, c.tx = none) ∧
    (∀ (msg : Substreams.BlockEntityChanges) extractor chain protocolSystem protocolTypes
        finalizedBlockHeight,
      (msg.block = none → BlockEntityChanges.tryFromMessage std msg extractor chain
        protocolSystem protocolTypes finalizedBlockHeight = .error (.error .empty)) ∧
      ∀ f, BlockEntityChanges.tryFromMessage std msg extractor chain protocolSystem protocolTypes
          finalizedBlockHeight = .error f →
        (msg.block = none ∧ f = .error .empty) ∨ f.IsDecodeError) ∧
    (∀ (msg : Substreams.BlockContractChanges) extractor chain protocolSystem protocolTypes
        finalizedBlockHeight,
      (msg.block = none → BlockContractChanges.tryFromMessage std msg extractor chain
        protocolSystem protocolTypes finalizedBlockHeight = .error (.error .empty)) ∧
      ∀ f, BlockContractChanges.tryFromMessage std msg extractor chain protocolSystem
          protocolTypes finalizedBlockHeight = .error f →
        (msg.block = none ∧ f = .error .empty) ∨ f.IsDecodeError) :=
  ⟨fun _ _ _ _ _ _ => ⟨fun hb => by rw [BlockChanges.tryFromMessage, hb],
      fun _ => BlockChanges.tryFromMessage_eq_error std, fun _ => BlockChanges.tryFromMessage_eq_panic std⟩,
    fun _ _ _ _ _ _ => ⟨fun hb => by rw [BlockEntityChanges.tryFromMessage, hb],
      fun _ => BlockEntityChanges.tryFromMessage_eq_error std⟩,
    fun _ _ _ _ _ _ => ⟨fun hb => by rw [BlockContractChanges.tryFromMessage, hb],
      fun _ => BlockContractChanges.tryFromMessage_eq_error std⟩⟩

/-! ### Independence of the order of changes

The changes are decoded in order, and a permutation of the changes permutes their decodes; the sort
by transaction index then gives the same list, whatever the order of its input, once no two
transactions share an index (`RustStd.sortUnstableByKey_eq_of_perm`). -/

/-- Distinct transaction indexes in a message are distinct keys of what its changes decode to. -/
theorem nodup_index_of_map_ok {α β : Type} {txOf : α → Option Substreams.Transaction}
    {txIndex : β → UInt64} {parse : α → Except Fault β}
    (hparse : ∀ c x, parse c = .ok x → (txOf c).map (·.index) = some (txIndex x)) {cs : List α}
    (hindex : (cs.filterMap fun c => (txOf c).map (·.index)).Nodup) {xs : List β}
    (h : xs.map .ok = cs.map parse) : (xs.map fun x => (txIndex x).toNat).Nodup := by
  have hkeys : (xs.map txIndex).Nodup := by rw [filterMap_of_map_ok hparse h]; exact hindex
  have hnat := List.Nodup.map (fun _ _ => UInt64.toNat.inj) hkeys
  rwa [List.map_map] at hnat

theorem BlockChanges.tryFromMessage_of_perm_changes {msg : Substreams.BlockChanges}
    {changes : List Substreams.TransactionChanges} (hperm : changes.Perm msg.changes)
    (hindex : (msg.changes.filterMap fun c => c.tx.map (·.index)).Nodup) (extractor : String)
    (chain : Chain) (protocolSystem : String) (protocolTypes : Finset String)
    (finalizedBlockHeight : UInt64) :
    (BlockChanges.tryFromMessage std { msg with changes } extractor chain protocolSystem
      protocolTypes finalizedBlockHeight).toOption =
    (BlockChanges.tryFromMessage std msg extractor chain protocolSystem protocolTypes
      finalizedBlockHeight).toOption := by
  obtain ⟨block?, cs, storage⟩ := msg
  unfold BlockChanges.tryFromMessage
  cases block? with
  | none => rfl
  | some b =>
    refine toOption_bind_congr fun block _ =>
      (toOption_mapM_bind_of_perm _ _ hperm.symm fun xs₁ xs₂ h₁ hp => ?_).symm
    have hkeys : (xs₁.map fun x => x.tx.index.toNat).Nodup :=
      nodup_index_of_map_ok (fun c x hx => by
        obtain ⟨t, ht, htx, -⟩ :=
          TxWithChanges.tryFromMessage_eq_ok std (eq_ok_of_requireTx_bind hx)
        rw [ht, Option.map_some', Transaction.index_of_tryFromMessage htx]) hindex h₁
    simp only [std.sortUnstableByKey_eq_of_perm _ hp hkeys]

theorem BlockEntityChanges.tryFromMessage_of_perm_changes {msg : Substreams.BlockEntityChanges}
    {changes : List Substreams.TransactionEntityChanges} (hperm : changes.Perm msg.changes)
    (hindex : (msg.changes.filterMap fun c => c.tx.map (·.index)).Nodup) (extractor : String)
    (chain : Chain) (protocolSystem : String) (protocolTypes : Finset String)
    (finalizedBlockHeight : UInt64) :
    (BlockEntityChanges.tryFromMessage std { msg with changes } extractor chain protocolSystem
      protocolTypes finalizedBlockHeight).toOption =
    (BlockEntityChanges.tryFromMessage std msg extractor chain protocolSystem protocolTypes
      finalizedBlockHeight).toOption := by
  obtain ⟨block?, cs⟩ := msg
  unfold BlockEntityChanges.tryFromMessage
  cases block? with
  | none => rfl
  | some b =>
    refine toOption_bind_congr fun block _ =>
      (toOption_mapM_bind_of_perm _ _ hperm.symm fun xs₁ xs₂ h₁ hp => ?_).symm
    have hkeys : (xs₁.map fun x => x.tx.index.toNat).Nodup :=
      nodup_index_of_map_ok (fun c x hx => by
        obtain ⟨t, ht, htx⟩ :=
          ProtocolChangesWithTx.tx_of_tryFromMessage std (eq_ok_of_requireTx_bind hx)
        rw [ht, Option.map_some', Transaction.index_of_tryFromMessage htx]) hindex h₁
    simp only [std.sortUnstableByKey_eq_of_perm _ hp hkeys]

theorem BlockContractChanges.txUpdate_index {change : Substreams.TransactionContractChanges}
    {chain : Chain} {protocolSystem : String} {protocolTypes : Finset String} {block : Block}
    {u : Option AccountChangesWithTx}
    (h : BlockContractChanges.txUpdate std change chain protocolSystem protocolTypes block =
      .ok u) :
    change.tx.map (·.index) = u.map (·.tx.index) := by
  unfold BlockContractChanges.txUpdate at h
  cases ht : change.tx with
  | none => simp only [ht, Except.ok.injEq] at h; subst h; rfl
  | some t =>
    simp only [ht, bind_eq_ok_iff, pure, Except.pure, Except.ok.injEq] at h
    obtain ⟨tx, htx, -, -, -, -, -, -, -, -, rfl⟩ := h
    rw [Option.map_some', Option.map_some', Transaction.index_of_tryFromMessage htx]

theorem BlockContractChanges.tryFromMessage_of_perm_changes
    {msg : Substreams.BlockContractChanges}
    {changes : List Substreams.TransactionContractChanges} (hperm : changes.Perm msg.changes)
    (hindex : (msg.changes.filterMap fun c => c.tx.map (·.index)).Nodup) (extractor : String)
    (chain : Chain) (protocolSystem : String) (protocolTypes : Finset String)
    (finalizedBlockHeight : UInt64) :
    (BlockContractChanges.tryFromMessage std { msg with changes } extractor chain protocolSystem
      protocolTypes finalizedBlockHeight).toOption =
    (BlockContractChanges.tryFromMessage std msg extractor chain protocolSystem protocolTypes
      finalizedBlockHeight).toOption := by
  obtain ⟨block?, cs⟩ := msg
  unfold BlockContractChanges.tryFromMessage
  cases block? with
  | none => rfl
  | some b =>
    have hmap : ∀ (f : List (Option AccountChangesWithTx) → List AccountChangesWithTx) r
        (k : List AccountChangesWithTx → Except Fault BlockContractChanges),
        r.map f >>= k = r >>= fun a => k (f a) := fun f r k => bind_map_left f r k
    simp only [forEachTry_eq, hmap, BlockContractChanges.foldl_txUpdates, List.nil_append]
    refine toOption_bind_congr fun block _ =>
      (toOption_mapM_bind_of_perm _ _ hperm.symm fun xs₁ xs₂ h₁ hp => ?_).symm
    have hopt : (xs₁.map fun u => u.map (·.tx.index)) = cs.map fun c => c.tx.map (·.index) :=
      (filterMap_of_map_ok (fun _ _ hu => congrArg some
        (BlockContractChanges.txUpdate_index std hu)) h₁).trans
        (congrFun (List.filterMap_eq_map _) _)
    have hflat : (xs₁.filterMap id).map (·.tx.index) = cs.filterMap fun c => c.tx.map (·.index) :=
      calc (xs₁.filterMap id).map (·.tx.index)
          _ = (xs₁.map fun u => u.map (·.tx.index)).filterMap id := by
            rw [List.map_filterMap, List.filterMap_map]; rfl
          _ = cs.filterMap fun c => c.tx.map (·.index) := by rw [hopt, List.filterMap_map]; rfl
    have hkeys : ((xs₁.filterMap id).map fun x => x.tx.index.toNat).Nodup := by
      have hnat := List.Nodup.map (fun _ _ => UInt64.toNat.inj)
        (show (cs.filterMap fun c => c.tx.map (·.index)).Nodup from hindex)
      rwa [← hflat, List.map_map] at hnat
    simp only [std.sortUnstableByKey_eq_of_perm _ (hp.filterMap id) hkeys]

/-- **The sorting decoders do not depend on the order of the changes** when their transactions
have distinct indexes: a permutation of a message's changes decodes, with the canonical, the entity
and the contract decoder, exactly when the message does, and to the same block. -/
theorem blockDecoders_of_perm_changes :
    (∀ (msg : Substreams.BlockChanges) (changes : List Substreams.TransactionChanges),
      changes.Perm msg.changes → (msg.changes.filterMap fun c => c.tx.map (·.index)).Nodup →
      ∀ extractor chain protocolSystem protocolTypes finalizedBlockHeight,
        (BlockChanges.tryFromMessage std { msg with changes } extractor chain protocolSystem
          protocolTypes finalizedBlockHeight).toOption =
        (BlockChanges.tryFromMessage std msg extractor chain protocolSystem protocolTypes
          finalizedBlockHeight).toOption) ∧
    (∀ (msg : Substreams.BlockEntityChanges) (changes : List Substreams.TransactionEntityChanges),
      changes.Perm msg.changes → (msg.changes.filterMap fun c => c.tx.map (·.index)).Nodup →
      ∀ extractor chain protocolSystem protocolTypes finalizedBlockHeight,
        (BlockEntityChanges.tryFromMessage std { msg with changes } extractor chain protocolSystem
          protocolTypes finalizedBlockHeight).toOption =
        (BlockEntityChanges.tryFromMessage std msg extractor chain protocolSystem protocolTypes
          finalizedBlockHeight).toOption) ∧
    (∀ (msg : Substreams.BlockContractChanges)
        (changes : List Substreams.TransactionContractChanges),
      changes.Perm msg.changes → (msg.changes.filterMap fun c => c.tx.map (·.index)).Nodup →
      ∀ extractor chain protocolSystem protocolTypes finalizedBlockHeight,
        (BlockContractChanges.tryFromMessage std { msg with changes } extractor chain
          protocolSystem protocolTypes finalizedBlockHeight).toOption =
        (BlockContractChanges.tryFromMessage std msg extractor chain protocolSystem protocolTypes
          finalizedBlockHeight).toOption) :=
  ⟨fun _ _ hperm hindex => BlockChanges.tryFromMessage_of_perm_changes std hperm hindex,
    fun _ _ hperm hindex => BlockEntityChanges.tryFromMessage_of_perm_changes std hperm hindex,
    fun _ _ hperm hindex => BlockContractChanges.tryFromMessage_of_perm_changes std hperm hindex⟩

/-- Two changes of distinct indexes, given in either order, decode to the same block. -/
theorem blockDecoders_of_perm_changes_swapped :
    (BlockChanges.tryFromMessage RustStd.reference
        ⟨some ⟨0, [], [], 0⟩, [⟨some ⟨[2], [], [], 0⟩, [], [], [], [], [], []⟩,
          ⟨some ⟨[1], [], [], 1⟩, [], [], [], [], [], []⟩], []⟩
        "ambient" .ethereum "ambient" ∅ 0).toOption =
      (BlockChanges.tryFromMessage RustStd.reference
        ⟨some ⟨0, [], [], 0⟩, [⟨some ⟨[1], [], [], 1⟩, [], [], [], [], [], []⟩,
          ⟨some ⟨[2], [], [], 0⟩, [], [], [], [], [], []⟩], []⟩
        "ambient" .ethereum "ambient" ∅ 0).toOption :=
  (blockDecoders_of_perm_changes RustStd.reference).1
    ⟨some ⟨0, [], [], 0⟩, [⟨some ⟨[1], [], [], 1⟩, [], [], [], [], [], []⟩,
      ⟨some ⟨[2], [], [], 0⟩, [], [], [], [], [], []⟩], []⟩ _ (.swap _ _ _) (by decide) _ _ _ _ _

end Std

end TychoIndexer
