import TychoIndexer.Decoder.Parts

/-!
# Decoding one transaction

The per-transaction decoders: `TxWithChanges::try_from_message`, the legacy
`ProtocolChangesWithTx::try_from_message`, and `TxWithStorageChanges::try_from_message`.

Each is a sequence of loops, one per map of the result, and the loops that the decoders share
(`parseProtocolComponents`, `parseAccountUpdates`, `parseStateUpdates`, `parseBalanceChanges`,
`parseAccountBalanceChanges`) are written once. Where the legacy decoder's loop differs from the
shared one (it keys components by the message id, and balances by the decoded component id), it
keeps its own body, and `protocolComponents_legacy_eq` and `componentBalances_legacy_eq` say
that the difference changes nothing.

The main results:

* `txWithChanges_maps_spec` — every map of a decoded `TxWithChanges` is exactly what the
  message's elements determine: the **last** element with a key wins in the maps of single
  values, and the maps of sets collect **every** element with a key (`TxWithChanges.MapsSpec`);
* `protocolChangesWithTx_agrees` — the legacy decoder and `TxWithChanges` agree, on the
  transaction lifted to a `TransactionChanges`, on success and on every shared part;
* `TxWithChanges.tryFromMessage_isDecodeError`, `ProtocolChangesWithTx.tryFromMessage_isDecodeError`
  — a change that carries its transaction fails only with a `DecodeError`, and
  `TxWithStorageChanges.tryFromMessage_eq_error` — storage changes fail only in the `expect` on a
  missing transaction.
-/

namespace TychoIndexer

section Std

variable (std : RustStd)

/-! ### The shared loops -/

/-- "Parse the new protocol components": each component under its id. -/
def parseProtocolComponents (changes : List Substreams.ProtocolComponent) (chain : Chain)
    (protocolSystem : String) (protocolTypes : Finset String) (txHash : Bytes)
    (creationTs : NaiveDateTime) : Except Fault (HashMap String ProtocolComponent) :=
  forEachTry
    (fun change =>
      ProtocolComponent.tryFromMessage change chain protocolSystem protocolTypes txHash creationTs)
    (fun m component => m.insert component.id component) ∅ changes

/-- "Parse the account updates": each delta under its address. -/
def parseAccountUpdates (contractChanges : List Substreams.ContractChange) (chain : Chain) :
    Except Fault (HashMap Bytes AccountDelta) :=
  forEachTry (AccountDelta.tryFromMessage · chain) (fun m update => m.insert update.address update)
    ∅ contractChanges

/-- "Parse the state updates": a later delta for a component overwrites the earlier one (the
source logs a warning when it does). -/
def parseStateUpdates (entityChanges : List Substreams.EntityChanges) :
    Except Fault (HashMap String ProtocolComponentStateDelta) :=
  forEachTry ProtocolComponentStateDelta.tryFromMessage
    (fun m state => m.insert state.componentId state) ∅ entityChanges

/-- One element of "Parse the component balance changes": the UTF-8 component id, the token and
the decoded balance. -/
def parseBalanceChange (balanceChange : Substreams.BalanceChange) (tx : Transaction) :
    Except Fault (String × Bytes × ComponentBalance) := do
  let componentId ← (std.fromUtf8 balanceChange.componentId).mapError Fault.decode
  let tokenAddress := balanceChange.token
  let balance ← ComponentBalance.tryFromMessage std balanceChange tx
  pure (componentId, tokenAddress, balance)

/-- "Parse the component balance changes": `entry(component_id).or_default().insert(token, …)`. -/
def parseBalanceChanges (balanceChanges : List Substreams.BalanceChange) (tx : Transaction) :
    Except Fault (HashMap String (HashMap Bytes ComponentBalance)) :=
  forEachTry (parseBalanceChange std · tx) (fun m e => HashMap.upsert m e.1 e.2.1 e.2.2) ∅
    balanceChanges

end Std

/-- The iterations of the nested loop over every token balance of every contract change, in
message order. -/
def tokenBalancePairs (contractChanges : List Substreams.ContractChange) :
    List (Substreams.ContractChange × Substreams.AccountBalanceChange) :=
  contractChanges.flatMap fun contractChange => contractChange.tokenBalances.map (contractChange, ·)

/-- One iteration of "Parse the account balance changes". -/
def parseAccountBalanceChange (change : Substreams.ContractChange × Substreams.AccountBalanceChange)
    (tx : Transaction) : Except Fault (Bytes × Bytes × AccountBalance) := do
  let accountAddr := change.1.address
  let tokenAddress := change.2.token
  let balance ← AccountBalance.tryFromMessage change.2 accountAddr tx
  pure (accountAddr, tokenAddress, balance)

/-- "Parse the account balance changes": `entry(account).or_default().insert(token, …)`. -/
def parseAccountBalanceChanges (contractChanges : List Substreams.ContractChange)
    (tx : Transaction) : Except Fault (HashMap Bytes (HashMap Bytes AccountBalance)) :=
  forEachTry (parseAccountBalanceChange · tx) (fun m e => HashMap.upsert m e.1 e.2.1 e.2.2) ∅
    (tokenBalancePairs contractChanges)

/-- "Parse the entrypoints": the set of entry points of each component. -/
def parseEntrypoints (entrypoints : List Substreams.EntryPoint) :
    Except Fault (HashMap String (Finset EntryPoint)) :=
  forEachTry
    (fun msgEntrypoint => do
      let componentId := msgEntrypoint.componentId
      let entrypoint ← EntryPoint.tryFromMessage msgEntrypoint
      pure (componentId, entrypoint))
    (fun m e => HashMap.addTo m e.1 e.2) ∅ entrypoints

/-- "Parse the entrypoint params": the set of tracing parameters, with their optional component,
of each entry point. -/
def parseEntrypointParams (entrypointParams : List Substreams.EntryPointParams) :
    Except Fault (HashMap String (Finset (TracingParams × Option String))) :=
  forEachTry
    (fun msgParams => do
      let entrypointId := msgParams.entrypointId
      let componentId := msgParams.componentId
      let tracingData ← TracingParams.tryFromMessage msgParams
      pure (entrypointId, (tracingData, componentId)))
    (fun m e => HashMap.addTo m e.1 e.2) ∅ entrypointParams

/-! ### The decoders -/

section Std

variable (std : RustStd)

/-- `TxWithChanges::try_from_message`. A message without a transaction panics in `expect`. -/
def TxWithChanges.tryFromMessage (msg : Substreams.TransactionChanges) (block : Block)
    (protocolSystem : String) (protocolTypes : Finset String) : Except Fault TxWithChanges := do
  let tx ← match msg.tx with
    | some tx => Transaction.tryFromMessage tx block.hash
    | none => throw (.panic "TransactionChanges should have a transaction")
  let newProtocolComponents ← parseProtocolComponents msg.componentChanges block.chain
    protocolSystem protocolTypes tx.hash block.ts
  let accountUpdates ← parseAccountUpdates msg.contractChanges block.chain
  let stateUpdates ← parseStateUpdates msg.entityChanges
  let balanceChanges ← parseBalanceChanges std msg.balanceChanges tx
  let accountBalanceChanges ← parseAccountBalanceChanges msg.contractChanges tx
  let entrypoints ← parseEntrypoints msg.entrypoints
  let entrypointParams ← parseEntrypointParams msg.entrypointParams
  pure { tx, protocolComponents := newProtocolComponents, accountDeltas := accountUpdates,
         stateUpdates, balanceChanges, accountBalanceChanges, entrypoints, entrypointParams }

/-- `ProtocolChangesWithTx::try_from_message`. Its loops over components and balances key the
maps by the message's component id and by the decoded balance's component id and token. -/
def ProtocolChangesWithTx.tryFromMessage (msg : Substreams.TransactionEntityChanges)
    (block : Block) (protocolSystem : String) (protocolTypes : Finset String) :
    Except Fault ProtocolChangesWithTx := do
  let tx ← match msg.tx with
    | some tx => Transaction.tryFromMessage tx block.hash
    | none => throw (.panic "TransactionEntityChanges should have a transaction")
  let newProtocolComponents ← forEachTry
    (fun change => do
      let component ← ProtocolComponent.tryFromMessage change block.chain protocolSystem
        protocolTypes tx.hash block.ts
      pure (change.id, component))
    (fun m e => m.insert e.1 e.2) ∅ msg.componentChanges
  let stateUpdates ← parseStateUpdates msg.entityChanges
  let componentBalances ← forEachTry (ComponentBalance.tryFromMessage std · tx)
    (fun m componentBalance =>
      HashMap.upsert m componentBalance.componentId componentBalance.token componentBalance)
    ∅ msg.balanceChanges
  pure { newProtocolComponents, protocolStates := stateUpdates,
         balanceChanges := componentBalances, tx }

end Std

/-- `TxWithStorageChanges::try_from_message`: the slots each contract wrote, by address. A
message without a transaction panics in `expect`. -/
def TxWithStorageChanges.tryFromMessage (msg : Substreams.TransactionStorageChanges)
    (block : Block) : Except Fault TxWithStorageChanges := do
  let tx ← match msg.tx with
    | some tx => Transaction.tryFromMessage tx block.hash
    | none => throw (.panic "TransactionChanges should have a transaction")
  let allStorageChanges := HashMap.insertAll (·.address)
    (fun contractChanges => HashMap.insertAll (·.slot) (·.value) ∅ contractChanges.slots)
    ∅ msg.storageChanges
  pure { tx, storageChanges := allStorageChanges }

end TychoIndexer

namespace TychoIndexer

section Std

variable (std : RustStd)

/-! ### The maps of a decoded transaction -/

theorem TxWithChanges.tryFromMessage_eq_ok {msg : Substreams.TransactionChanges} {block : Block}
    {protocolSystem : String} {protocolTypes : Finset String} {x : TxWithChanges}
    (h : TxWithChanges.tryFromMessage std msg block protocolSystem protocolTypes = .ok x) :
    ∃ t, msg.tx = some t ∧ Transaction.tryFromMessage t block.hash = .ok x.tx ∧
      parseProtocolComponents msg.componentChanges block.chain protocolSystem protocolTypes
        x.tx.hash block.ts = .ok x.protocolComponents ∧
      parseAccountUpdates msg.contractChanges block.chain = .ok x.accountDeltas ∧
      parseStateUpdates msg.entityChanges = .ok x.stateUpdates ∧
      parseBalanceChanges std msg.balanceChanges x.tx = .ok x.balanceChanges ∧
      parseAccountBalanceChanges msg.contractChanges x.tx = .ok x.accountBalanceChanges ∧
      parseEntrypoints msg.entrypoints = .ok x.entrypoints ∧
      parseEntrypointParams msg.entrypointParams = .ok x.entrypointParams := by
  unfold TxWithChanges.tryFromMessage at h
  cases ht : msg.tx with
  | none => simp [ht, throw, throwThe, MonadExceptOf.throw, bind, Except.bind] at h
  | some t =>
    simp only [ht, bind_eq_ok_iff, pure, Except.pure, Except.ok.injEq] at h
    obtain ⟨tx, htx, _, h₁, _, h₂, _, h₃, _, h₄, _, h₅, _, h₆, _, h₇, rfl⟩ := h
    exact ⟨t, rfl, htx, h₁, h₂, h₃, h₄, h₅, h₆, h₇⟩

theorem ProtocolChangesWithTx.tx_of_tryFromMessage {msg : Substreams.TransactionEntityChanges}
    {block : Block} {protocolSystem : String} {protocolTypes : Finset String}
    {x : ProtocolChangesWithTx}
    (h : ProtocolChangesWithTx.tryFromMessage std msg block protocolSystem protocolTypes = .ok x) :
    ∃ t, msg.tx = some t ∧ Transaction.tryFromMessage t block.hash = .ok x.tx := by
  unfold ProtocolChangesWithTx.tryFromMessage at h
  cases ht : msg.tx with
  | none => simp [ht, throw, throwThe, MonadExceptOf.throw, bind, Except.bind] at h
  | some t =>
    simp only [ht, bind_eq_ok_iff, pure, Except.pure, Except.ok.injEq] at h
    obtain ⟨tx, htx, -, -, -, -, -, -, rfl⟩ := h
    exact ⟨t, rfl, htx⟩

/-- **The maps of a decoded transaction.** A key holds the decode of the last element written
under it in the maps of single values, and the decodes of every element written under it in the
maps of sets; the keys are exactly the keys the elements carry. The transaction is the block's,
and what is decoded under it records it: components with their creation, balances with their
modification. -/
structure TxWithChanges.MapsSpec (msg : Substreams.TransactionChanges) (block : Block)
    (protocolSystem : String) (protocolTypes : Finset String) (x : TxWithChanges) : Prop where
  tx : ∃ t, msg.tx = some t ∧ Transaction.tryFromMessage t block.hash = .ok x.tx
  txBlockHash : x.tx.blockHash = block.hash
  protocolComponents : ∀ id, (x.protocolComponents.lookup id).map .ok =
    (msg.componentChanges.reverse.find? (·.id = id)).map fun c =>
      ProtocolComponent.tryFromMessage c block.chain protocolSystem protocolTypes x.tx.hash block.ts
  protocolComponents_creation : ∀ id c, x.protocolComponents.lookup id = some c →
    c.creationTx = x.tx.hash ∧ c.createdAt = block.ts
  accountDeltas : ∀ address, (x.accountDeltas.lookup address).map .ok =
    (msg.contractChanges.reverse.find? (·.address = address)).map
      (AccountDelta.tryFromMessage · block.chain)
  stateUpdates : ∀ id, (x.stateUpdates.lookup id).map .ok =
    (msg.entityChanges.reverse.find? (·.componentId = id)).map
      ProtocolComponentStateDelta.tryFromMessage
  balanceChanges_mem : ∀ id, id ∈ x.balanceChanges ↔
    ∃ c ∈ msg.balanceChanges, (std.fromUtf8 c.componentId).toOption = some id
  balanceChanges : ∀ id token, (((x.balanceChanges.lookup id).getD ∅).lookup token).map .ok =
    (msg.balanceChanges.reverse.find? fun c =>
      (std.fromUtf8 c.componentId).toOption = some id ∧ c.token = token).map
        (ComponentBalance.tryFromMessage std · x.tx)
  balanceChanges_modifyTx : ∀ id token b,
    ((x.balanceChanges.lookup id).getD ∅).lookup token = some b → b.modifyTx = x.tx.hash
  accountBalanceChanges_mem : ∀ address, address ∈ x.accountBalanceChanges ↔
    ∃ p ∈ tokenBalancePairs msg.contractChanges, p.1.address = address
  accountBalanceChanges : ∀ address token,
    (((x.accountBalanceChanges.lookup address).getD ∅).lookup token).map .ok =
      ((tokenBalancePairs msg.contractChanges).reverse.find? fun p =>
        p.1.address = address ∧ p.2.token = token).map fun p =>
          AccountBalance.tryFromMessage p.2 p.1.address x.tx
  accountBalanceChanges_modifyTx : ∀ address token b,
    ((x.accountBalanceChanges.lookup address).getD ∅).lookup token = some b →
      b.modifyTx = x.tx.hash
  entrypoints_mem : ∀ id, id ∈ x.entrypoints ↔ ∃ e ∈ msg.entrypoints, e.componentId = id
  entrypoints : ∀ id entrypoint, entrypoint ∈ (x.entrypoints.lookup id).getD ∅ ↔
    ∃ e ∈ msg.entrypoints, e.componentId = id ∧ EntryPoint.tryFromMessage e = .ok entrypoint
  entrypointParams_mem : ∀ id, id ∈ x.entrypointParams ↔
    ∃ p ∈ msg.entrypointParams, p.entrypointId = id
  entrypointParams : ∀ id params, params ∈ (x.entrypointParams.lookup id).getD ∅ ↔
    ∃ p ∈ msg.entrypointParams, p.entrypointId = id ∧
      (TracingParams.tryFromMessage p).map (·, p.componentId) = .ok params

/-- A value read off a map that holds, under each key, the decode of some element is that
element's decode. -/
theorem exists_of_map_ok_eq {ε α β : Type} {o : Option α} {o' : Option β} {f : β → Except ε α}
    (h : o.map .ok = o'.map f) {a : α} (ha : o = some a) : ∃ b, o' = some b ∧ f b = .ok a :=
  Option.map_eq_some'.mp (h.symm.trans (by rw [ha]; rfl))

theorem parseBalanceChange_eq_ok {c : Substreams.BalanceChange} {tx : Transaction}
    {x : String × Bytes × ComponentBalance} (h : parseBalanceChange std c tx = .ok x) :
    (std.fromUtf8 c.componentId).toOption = some x.1 ∧ c.token = x.2.1 ∧
      ComponentBalance.tryFromMessage std c tx = .ok x.2.2 := by
  unfold parseBalanceChange at h
  cases hc : std.fromUtf8 c.componentId with
  | error e => simp [hc, Except.mapError, bind, Except.bind] at h
  | ok id =>
    simp only [hc, Except.mapError, bind_eq_ok_iff, pure, Except.pure, Except.ok.injEq] at h
    obtain ⟨_, rfl, b, hb, rfl⟩ := h
    exact ⟨rfl, rfl, hb⟩

/-- **Every map of a decoded `TxWithChanges` is the one its message determines.** -/
theorem txWithChanges_maps_spec {msg : Substreams.TransactionChanges} {block : Block}
    {protocolSystem : String} {protocolTypes : Finset String} {x : TxWithChanges}
    (h : TxWithChanges.tryFromMessage std msg block protocolSystem protocolTypes = .ok x) :
    TxWithChanges.MapsSpec std msg block protocolSystem protocolTypes x := by
  obtain ⟨t, ht, htx, h₁, h₂, h₃, h₄, h₅, h₆, h₇⟩ := TxWithChanges.tryFromMessage_eq_ok std h
  have hab : ∀ (p : Substreams.ContractChange × Substreams.AccountBalanceChange) y,
      parseAccountBalanceChange p x.tx = .ok y →
        some p.1.address = some y.1 ∧ p.2.token = y.2.1 ∧
          AccountBalance.tryFromMessage p.2 p.1.address x.tx = .ok y.2.2 := by
    rintro p y h; cases h; exact ⟨rfl, rfl, rfl⟩
  -- the maps of single values: the last element under a key
  have hcomponents := HashMap.lookup_of_forEachTry_insert
    (fun c y hy => ⟨(ProtocolComponent.eq_of_tryFromMessage hy).1, hy⟩) h₁
  have hbalances := HashMap.lookup_of_forEachTry_upsert
    (fun c y hy => parseBalanceChange_eq_ok std hy) h₄
  have haccountBalances := HashMap.lookup_of_forEachTry_upsert hab h₅
  refine
    { tx := ⟨t, ht, htx⟩
      txBlockHash := Transaction.blockHash_of_tryFromMessage htx
      protocolComponents := hcomponents
      protocolComponents_creation := fun id c hc => by
        obtain ⟨_, -, hdec⟩ := exists_of_map_ok_eq (hcomponents id) hc
        exact (ProtocolComponent.eq_of_tryFromMessage hdec).2
      accountDeltas := HashMap.lookup_of_forEachTry_insert
        (fun c y hy => ⟨AccountDelta.address_of_tryFromMessage hy, hy⟩) h₂
      stateUpdates := HashMap.lookup_of_forEachTry_insert
        (fun c y hy => ⟨ProtocolComponentStateDelta.componentId_of_tryFromMessage hy, hy⟩) h₃
      balanceChanges_mem :=
        HashMap.mem_of_forEachTry_insertEach (fun c y hy => (parseBalanceChange_eq_ok std hy).1) h₄
      balanceChanges := hbalances
      balanceChanges_modifyTx := fun id token b hb => by
        obtain ⟨_, -, hdec⟩ := exists_of_map_ok_eq (hbalances id token) hb
        exact ((ComponentBalance.tryFromMessage_eq_ok std).mp hdec).2.2.2.2
      accountBalanceChanges_mem := fun address => by
        simpa using HashMap.mem_of_forEachTry_insertEach (fun p y hy => (hab p y hy).1) h₅ address
      accountBalanceChanges := fun address token => by
        simpa using haccountBalances address token
      accountBalanceChanges_modifyTx := fun address token b hb => by
        obtain ⟨_, -, hdec⟩ := exists_of_map_ok_eq
          (by simpa using haccountBalances address token) hb
        cases hdec; rfl
      -- the maps of sets: every element under a key
      entrypoints_mem := fun id => by
        simpa using HashMap.mem_of_forEachTry_insertEach
          (fun (e : Substreams.EntryPoint) y hy => show some e.componentId = _ by cases hy; rfl) h₆ id
      entrypoints := HashMap.mem_lookup_of_forEachTry_addTo
        (fun e y hy => by cases hy; exact ⟨rfl, rfl⟩) h₆
      entrypointParams_mem := fun id => by
        simpa using HashMap.mem_of_forEachTry_insertEach
          (fun (p : Substreams.EntryPointParams) y hy => show some p.entrypointId = _ by
            obtain ⟨_, -, hy⟩ := bind_eq_ok_iff.mp hy; cases hy; rfl) h₇ id
      entrypointParams := HashMap.mem_lookup_of_forEachTry_addTo (fun p y hy => by
        obtain ⟨tp, htp, hy⟩ := bind_eq_ok_iff.mp hy; cases hy; exact ⟨rfl, by rw [htp]; rfl⟩) h₇ }

/-- Scenario S1: two deltas for `poolA` in one transaction, the second is the one kept. -/
theorem txWithChanges_maps_spec_overwrite :
    ∃ x, TxWithChanges.tryFromMessage RustStd.reference
        ⟨some ⟨[1], [], [], 0⟩, [],
          [⟨"poolA", [⟨"x", [1], .update⟩]⟩, ⟨"poolA", [⟨"x", [2], .update⟩]⟩], [], [], [], []⟩
        ⟨0, [], [], .ethereum, ⟨0, by decide, by decide⟩⟩ "ambient" ∅ = .ok x ∧
      TxWithChanges.MapsSpec RustStd.reference
        ⟨some ⟨[1], [], [], 0⟩, [],
          [⟨"poolA", [⟨"x", [1], .update⟩]⟩, ⟨"poolA", [⟨"x", [2], .update⟩]⟩], [], [], [], []⟩
        ⟨0, [], [], .ethereum, ⟨0, by decide, by decide⟩⟩ "ambient" ∅ x :=
  ⟨_, rfl, txWithChanges_maps_spec _ rfl⟩

/-! ### The legacy decoder -/

/-- The legacy loop over components keys each by the message's id, which is the decoded
component's id. -/
theorem protocolComponents_legacy_eq (changes : List Substreams.ProtocolComponent) (chain : Chain)
    (protocolSystem : String) (protocolTypes : Finset String) (txHash : Bytes)
    (creationTs : NaiveDateTime) :
    forEachTry
      (fun change => do
        let component ← ProtocolComponent.tryFromMessage change chain protocolSystem protocolTypes
          txHash creationTs
        pure (change.id, component))
      (fun m e => m.insert e.1 e.2) ∅ changes =
    parseProtocolComponents changes chain protocolSystem protocolTypes txHash creationTs := by
  refine forEachTry_congr (fun c acc => ?_) _ _
  cases h : ProtocolComponent.tryFromMessage c chain protocolSystem protocolTypes txHash
    creationTs with
  | error e => simp [h, bind, Except.bind, Except.map]
  | ok component =>
    simp [h, (ProtocolComponent.eq_of_tryFromMessage h).1, bind, Except.bind, pure, Except.pure,
      Except.map]

/-- The legacy loop over balances keys each by the decoded balance's component id and token,
which are the message's UTF-8 component id and token. -/
theorem componentBalances_legacy_eq (balanceChanges : List Substreams.BalanceChange)
    (tx : Transaction) :
    forEachTry (ComponentBalance.tryFromMessage std · tx)
      (fun m componentBalance =>
        HashMap.upsert m componentBalance.componentId componentBalance.token componentBalance)
      ∅ balanceChanges =
    parseBalanceChanges std balanceChanges tx := by
  refine forEachTry_congr (fun c acc => ?_) _ _
  cases hu : std.fromUtf8 c.componentId <;>
    simp [parseBalanceChange, ComponentBalance.tryFromMessage, hu, Except.mapError, bind,
      Except.bind, pure, Except.pure, Except.map]

/-- A legacy `TransactionEntityChanges` as a `TransactionChanges`: the same transaction,
components, entity changes and balances, and no contract changes, entry points or entry-point
parameters. -/
def Substreams.TransactionEntityChanges.lift (msg : Substreams.TransactionEntityChanges) :
    Substreams.TransactionChanges :=
  { tx := msg.tx, contractChanges := [], entityChanges := msg.entityChanges,
    componentChanges := msg.componentChanges, balanceChanges := msg.balanceChanges,
    entrypoints := [], entrypointParams := [] }

/-- **The legacy decoder agrees with `TxWithChanges`.** On the lifted message both fail, or both
succeed with the same transaction, components, state updates and balances. -/
theorem protocolChangesWithTx_agrees (msg : Substreams.TransactionEntityChanges) (block : Block)
    (protocolSystem : String) (protocolTypes : Finset String) :
    (∃ e₁ e₂,
      ProtocolChangesWithTx.tryFromMessage std msg block protocolSystem protocolTypes = .error e₁ ∧
      TxWithChanges.tryFromMessage std msg.lift block protocolSystem protocolTypes = .error e₂) ∨
    (∃ p x,
      ProtocolChangesWithTx.tryFromMessage std msg block protocolSystem protocolTypes = .ok p ∧
      TxWithChanges.tryFromMessage std msg.lift block protocolSystem protocolTypes = .ok x ∧
      p.tx = x.tx ∧ p.newProtocolComponents = x.protocolComponents ∧
      p.protocolStates = x.stateUpdates ∧ p.balanceChanges = x.balanceChanges) := by
  unfold ProtocolChangesWithTx.tryFromMessage TxWithChanges.tryFromMessage
  simp only [Substreams.TransactionEntityChanges.lift, protocolComponents_legacy_eq,
    componentBalances_legacy_eq]
  cases msg.tx with
  | none => exact .inl ⟨_, _, rfl, rfl⟩
  | some t =>
    simp only [Transaction.tryFromMessage, parseAccountUpdates, parseAccountBalanceChanges,
      tokenBalancePairs, parseEntrypoints, parseEntrypointParams, List.flatMap_nil, forEachTry,
      bind, Except.bind, pure, Except.pure]
    cases parseProtocolComponents msg.componentChanges block.chain protocolSystem protocolTypes
      t.hash block.ts with
    | error e => exact .inl ⟨e, e, rfl, rfl⟩
    | ok components =>
      cases parseStateUpdates msg.entityChanges with
      | error e => exact .inl ⟨e, e, rfl, rfl⟩
      | ok states =>
        cases parseBalanceChanges std msg.balanceChanges _ with
        | error e => exact .inl ⟨e, e, rfl, rfl⟩
        | ok balances => exact .inr ⟨_, _, rfl, rfl, rfl, rfl, rfl, rfl⟩

/-! ### How a transaction fails to decode

A change that carries its transaction fails only with a `DecodeError`: the `expect` on the
transaction is the only panic of the per-transaction decoders. -/

theorem parseBalanceChanges_isDecodeError (balanceChanges : List Substreams.BalanceChange)
    (tx : Transaction) : FailsDecoding (parseBalanceChanges std balanceChanges tx) :=
  FailsDecoding.forEachTry (fun c => by
    unfold parseBalanceChange
    cases std.fromUtf8 c.componentId
    · exact failsDecoding_decode _
    · exact (ComponentBalance.tryFromMessage_isDecodeError std c tx).bind
        fun _ _ => failsDecoding_ok _) _ _

/-- A change that carries its transaction fails to decode only with a `DecodeError`. -/
theorem TxWithChanges.tryFromMessage_isDecodeError {msg : Substreams.TransactionChanges}
    (hmsg : msg.tx.isSome) (block : Block) (protocolSystem : String)
    (protocolTypes : Finset String) :
    FailsDecoding (TxWithChanges.tryFromMessage std msg block protocolSystem protocolTypes) := by
  obtain ⟨t, ht⟩ := Option.isSome_iff_exists.mp hmsg
  unfold TxWithChanges.tryFromMessage
  simp only [ht]
  refine (failsDecoding_ok _).bind fun tx _ => ?_
  refine (FailsDecoding.forEachTry (fun _ => ProtocolComponent.tryFromMessage_isDecodeError
    _ _ _ _ _ _) _ _).bind fun _ _ => ?_
  refine (FailsDecoding.forEachTry (fun _ => AccountDelta.tryFromMessage_isDecodeError _ _) _
    _).bind fun _ _ => ?_
  refine (FailsDecoding.forEachTry (fun _ =>
    ProtocolComponentStateDelta.tryFromMessage_isDecodeError _) _ _).bind fun _ _ => ?_
  refine (parseBalanceChanges_isDecodeError std _ tx).bind fun _ _ => ?_
  refine (FailsDecoding.forEachTry (fun _ => failsDecoding_ok _) _ _).bind fun _ _ => ?_
  refine (FailsDecoding.forEachTry (fun _ => failsDecoding_ok _) _ _).bind fun _ _ => ?_
  exact (FailsDecoding.forEachTry (fun _ => (TracingParams.tryFromMessage_isDecodeError _).bind
    fun _ _ => failsDecoding_ok _) _ _).bind fun _ _ => failsDecoding_ok _

theorem ProtocolChangesWithTx.tryFromMessage_isDecodeError
    {msg : Substreams.TransactionEntityChanges} (hmsg : msg.tx.isSome) (block : Block)
    (protocolSystem : String) (protocolTypes : Finset String) :
    FailsDecoding (ProtocolChangesWithTx.tryFromMessage std msg block protocolSystem
      protocolTypes) := by
  obtain ⟨t, ht⟩ := Option.isSome_iff_exists.mp hmsg
  unfold ProtocolChangesWithTx.tryFromMessage
  simp only [ht]
  refine (failsDecoding_ok _).bind fun tx _ => ?_
  refine (FailsDecoding.forEachTry (fun _ => (ProtocolComponent.tryFromMessage_isDecodeError
    _ _ _ _ _ _).bind fun _ _ => failsDecoding_ok _) _ _).bind fun _ _ => ?_
  refine (FailsDecoding.forEachTry (fun _ =>
    ProtocolComponentStateDelta.tryFromMessage_isDecodeError _) _ _).bind fun _ _ => ?_
  exact (FailsDecoding.forEachTry (fun _ => ComponentBalance.tryFromMessage_isDecodeError std _ tx)
    _ _).bind fun _ _ => failsDecoding_ok _

/-- The storage changes of a transaction fail to decode only in the `expect` on a missing
transaction. -/
theorem TxWithStorageChanges.tryFromMessage_eq_error {msg : Substreams.TransactionStorageChanges}
    {block : Block} {f : Fault} :
    TxWithStorageChanges.tryFromMessage msg block = .error f ↔
      msg.tx = none ∧ f = .panic "TransactionChanges should have a transaction" := by
  unfold TxWithStorageChanges.tryFromMessage
  cases msg.tx with
  | none => exact ⟨fun h => by cases h; exact ⟨rfl, rfl⟩, fun ⟨_, hf⟩ => hf ▸ rfl⟩
  | some t => exact ⟨fun h => (by cases h), fun ⟨h, _⟩ => (by cases h)⟩

end Std

end TychoIndexer
