import TychoIndexer.Extractor.Rpc

/-!
# The batched account extractor

`EVMBatchAccountExtractor`, the account extractor for nodes that take JSON-RPC batches. For a
block and a list of `StorageSnapshotRequest`s it removes duplicate requests through a `HashSet`,
then, chunk by chunk of 100 requests, fetches the code and balance of every account of the chunk
in one batch, and the storage of each account concurrently: the listed slots in batches of 10000
`eth_getStorageAt` calls, or the whole storage through the `debug_storageRangeAt` pagination.

The iteration order of the `HashSet` is left open by Rust; it is a parameter here
(`HashSetOrder`), constrained only by what a set's iteration is: every distinct element once.
-/

namespace TychoIndexer

/-- `tycho_common::traits::StorageSnapshotRequest`. -/
structure StorageSnapshotRequest where
  address : Bytes
  slots : Option (List Bytes)
  deriving DecidableEq, Repr

/-- The iteration order of a `HashSet` collected from a list: every distinct element once, in an
order Rust leaves unspecified. -/
structure HashSetOrder (α : Type) [DecidableEq α] where
  iter : List α → List α
  nodup : ∀ l, (iter l).Nodup
  mem_iter : ∀ l a, a ∈ iter l ↔ a ∈ l

/-- One iteration order: the last copy of each element, in list order. -/
def HashSetOrder.dedup {α : Type} [DecidableEq α] : HashSetOrder α where
  iter := List.dedup
  nodup := List.nodup_dedup
  mem_iter _ _ := List.mem_dedup

namespace EVMBatchAccountExtractor

variable (node : Node) (pageOrder : PageOrder)

/-! ### Code and balances -/

/-- One iteration of the loop of `batch_fetch_account_code_and_balance` over the chunk: await the
code and the balance of the request at `idx`, and record them under its address. -/
def collectCodeAndBalance
    (state : List (Waiter Bytes) × List (Waiter U256) × HashMap Bytes Bytes × HashMap Bytes Bytes)
    (entry : Nat × StorageSnapshotRequest) :
    Run (List (Waiter Bytes) × List (Waiter U256) × HashMap Bytes Bytes × HashMap Bytes Bytes) := do
  let (codeRequests, balanceRequests, codes, balances) := state
  let (idx, request) := entry
  let address := request.address
  let (codeResult, codeRequests) ← awaitAt codeRequests idx fun e =>
    .requestError s!"Failed to collect code request data: {e}"
  let codes := codes.insert address codeResult
  let (balanceResult, balanceRequests) ← awaitAt balanceRequests idx fun e =>
    .requestError s!"Failed to collect balance request data: {e}"
  let balances := balances.insert address (toBeBytes 32 balanceResult.val)
  pure (codeRequests, balanceRequests, codes, balances)

/-- `batch_fetch_account_code_and_balance`: one batch of an `eth_getCode` and an `eth_getBalance`
call per request of the chunk, then the answers, by address. -/
def batchFetchAccountCodeAndBalance (block : Block) (chunk : List StorageSnapshotRequest) :
    Run (HashMap Bytes Bytes × HashMap Bytes Bytes) := do
  let codeRequests := chunk.map fun request =>
    Waiter.fresh (node.getCode request.address block.number)
  let balanceRequests := chunk.map fun request =>
    Waiter.fresh (node.getBalance request.address block.number)
  Run.sendBatch node (chunk.flatMap fun request =>
    [.getCode request.address block.number, .getBalance request.address block.number])
  let (_, _, codes, balances) ← chunk.enum.foldlM collectCodeAndBalance
    (codeRequests, balanceRequests, ∅, ∅)
  pure (codes, balances)

/-! ### Storage -/

/-- `get_storage_range`: every slot of `address`, through the pagination from the zero key at the
block's hash, keyed by the entries' bytes. -/
def getStorageRange (address : Bytes) (block : Block) (fuel : Nat) :
    Run (HashMap Bytes Bytes) :=
  storageRangeLoop node pageOrder block.hash address (·.val) (·.val)
    (fun e => .requestError s!"Failed to get storage: {e}") fuel H256.zero ∅

/-- One iteration of the loop of `fetch_account_storage` over the sub-batch `slotBatch`: await
the waiter at position `idx` of `storage_requests` and record its answer for `slot`. -/
def collectStorage (state : List (Waiter Bytes) × HashMap Bytes (Option Bytes))
    (entry : Nat × Bytes) : Run (List (Waiter Bytes) × HashMap Bytes (Option Bytes)) := do
  let (storageRequests, result) := state
  let (idx, slot) := entry
  let (storageResult, storageRequests) ← awaitAt storageRequests idx fun e =>
    .requestError s!"Failed to collect storage request data: {e}"
  pure (storageRequests, result.insert slot (storageValue storageResult))

/-- One sub-batch of `fetch_account_storage`: push a waiter per slot onto `storage_requests`,
which keeps the waiters of the earlier sub-batches, send the batch, and collect the sub-batch's
answers from position 0 of `storage_requests` on. -/
def fetchSlotBatch (block : Block) (address : Bytes)
    (state : List (Waiter Bytes) × HashMap Bytes (Option Bytes)) (slotBatch : List Bytes) :
    Run (List (Waiter Bytes) × HashMap Bytes (Option Bytes)) := do
  let storageRequests := state.1 ++ slotBatch.map fun slot =>
    Waiter.fresh (node.getStorageAt address slot block.number)
  Run.sendBatch node (slotBatch.map fun slot => .getStorageAt address slot block.number)
  slotBatch.enum.foldlM collectStorage (storageRequests, state.2)

/-- `fetch_account_storage`: the listed slots in sub-batches of `maxBatchSize`, or every slot
through `get_storage_range`. -/
def fetchAccountStorage (block : Block) (maxBatchSize : Nat) (request : StorageSnapshotRequest)
    (fuel : Nat) : Run (HashMap Bytes (Option Bytes)) :=
  match request.slots with
  | some slots => do
    let slotBatches ← Run.chunks maxBatchSize slots
    let (_, result) ← slotBatches.foldlM (fetchSlotBatch node block request.address) ([], ∅)
    pure result
  | none => do
    let storage ← getStorageRange node pageOrder request.address block fuel
    pure (HashMap.insertAll (·.1) (some ·.2) ∅ storage.entries)

/-! ### Accounts -/

/-- One iteration of the assembly loop of `get_accounts_at_block`: the `AccountDelta` of the
request at `idx` of the chunk. -/
def assembleDelta (chain : Chain) (block : Block) (codes balances : HashMap Bytes Bytes)
    (storageResults : List (HashMap Bytes (Option Bytes))) (updates : HashMap Bytes AccountDelta)
    (entry : Nat × StorageSnapshotRequest) : Run (HashMap Bytes AccountDelta) := do
  let (idx, request) := entry
  let address := request.address
  let code := codes.lookup address
  let balance := balances.lookup address
  let storage ← Run.ofExcept (match storageResults[idx]? with
    | some storage => .ok storage
    | none => .error (.unknownError
        s!"Unable to find storage result. Request: {repr request} at block: {repr block}"))
  pure (updates.insert address
    { address, chain, slots := storage, balance, code, change := .creation })

/-- One chunk of `get_accounts_at_block`: the code and balances in one batch, then the storage of
every request concurrently, then the deltas. -/
def processChunk (chain : Chain) (block : Block) (fuel : Nat)
    (updates : HashMap Bytes AccountDelta) (chunk : List StorageSnapshotRequest) :
    Run (HashMap Bytes AccountDelta) := do
  let (codes, balances) ← batchFetchAccountCodeAndBalance node block chunk
  let storageResults ← tryJoinAll (chunk.map fun request =>
    fetchAccountStorage node pageOrder block 10000 request fuel)
  chunk.enum.foldlM (assembleDelta chain block codes balances storageResults) updates

/-- `get_accounts_at_block`. -/
def getAccountsAtBlock (order : HashSetOrder StorageSnapshotRequest) (chain : Chain)
    (block : Block) (requests : List StorageSnapshotRequest) (fuel : Nat) :
    Run (HashMap Bytes AccountDelta) := do
  let uniqueRequests := order.iter requests
  let chunks ← Run.chunks 100 uniqueRequests
  chunks.foldlM (processChunk node pageOrder chain block fuel) ∅

end EVMBatchAccountExtractor

/-! ### Runs against a node that answers -/

namespace EVMBatchAccountExtractor

variable {node : Node} {pageOrder : PageOrder} {block : Block} {address : Bytes}
  {fuel maxBatchSize : Nat} {slots : List Bytes} {val : Bytes → Bytes}

/-- The first waiter of a batch appended to earlier waiters is at their length. -/
theorem getElem?_append_map_cons {α β : Type} (pre : List β) (f : α → β) (a : α) (xs : List α) :
    (pre ++ (a :: xs).map f)[pre.length]? = some (f a) := by
  rw [List.getElem?_append_right (Nat.le_refl _), Nat.sub_self, List.map_cons,
    List.getElem?_cons_zero]

theorem foldlM_collectStorage (val : Bytes → Bytes) (waiters : List (Waiter Bytes))
    (slots : List Bytes) (result : HashMap Bytes (Option Bytes)) :
    (slots.enumFrom waiters.length).foldlM collectStorage
        (waiters ++ slots.map fun slot => Waiter.fresh (.ok (val slot)), result) =
      ⟨[], .ok (waiters ++ slots.map fun slot => ⟨.ok (val slot), true⟩,
        HashMap.insertAll id (storageValue ∘ val) result slots)⟩ := by
  induction slots generalizing waiters result with
  | nil => rfl
  | cons slot slots ih =>
    have hget := getElem?_append_map_cons waiters (fun s => Waiter.fresh (.ok (val s))) slot slots
    have hset : (waiters ++ (slot :: slots).map fun s => Waiter.fresh (.ok (val s))).set waiters.length
        { Waiter.fresh (.ok (val slot)) with done := true } =
        (waiters ++ [⟨.ok (val slot), true⟩]) ++ slots.map fun s => Waiter.fresh (.ok (val s)) := by
      simp [List.set_append_right, Waiter.fresh]
    have := ih (waiters ++ [⟨.ok (val slot), true⟩]) (result.insert slot (storageValue (val slot)))
    rw [List.length_append, List.length_singleton] at this
    simp only [List.enumFrom_cons, List.foldlM_cons, collectStorage, awaitAt_of_fresh _ hget rfl]
    simp only [Waiter.fresh, Except.mapError, Except.map] at hset ⊢
    simp only [hset, Run.ok_bind, Run.pure_calls, Run.pure_result, List.append_nil, Run.ok_bind]
    simp only [Waiter.fresh] at this
    rw [this]
    simp [HashMap.insertAll, HashMap.insertEach]

theorem fetchSlotBatch_of_fresh {val : Bytes → Bytes}
    (hval : ∀ slot, node.getStorageAt address slot block.number = .ok (val slot))
    (hsend : ∀ calls, node.sendBatch calls = .ok ()) (result : HashMap Bytes (Option Bytes))
    (slotBatch : List Bytes) :
    fetchSlotBatch node block address ([], result) slotBatch =
      ⟨slotBatch.map (.getStorageAt address · block.number),
        .ok (slotBatch.map fun slot => ⟨.ok (val slot), true⟩,
          HashMap.insertAll id (storageValue ∘ val) result slotBatch)⟩ := by
  have := foldlM_collectStorage val [] slotBatch result
  simp only [List.nil_append, List.length_nil] at this
  simp only [fetchSlotBatch, hval, Run.sendBatch, hsend, List.nil_append]
  simp [Except.mapError, List.enum, this]

theorem fetchSlotBatch_of_done {waiters : List (Waiter Bytes)} (hne : waiters ≠ [])
    (hdone : ∀ w ∈ waiters, w.done = true) (hsend : ∀ calls, node.sendBatch calls = .ok ())
    (result : HashMap Bytes (Option Bytes)) {slotBatch : List Bytes} (hne' : slotBatch ≠ []) :
    fetchSlotBatch node block address (waiters, result) slotBatch =
      ⟨slotBatch.map (.getStorageAt address · block.number),
        .error (.panic "called after complete")⟩ := by
  obtain ⟨slot, slots, rfl⟩ := List.exists_cons_of_ne_nil hne'
  obtain ⟨w, waiters, rfl⟩ := List.exists_cons_of_ne_nil hne
  have hget : (w :: waiters ++ (slot :: slots).map fun s =>
      Waiter.fresh (node.getStorageAt address s block.number))[0]? = some w := by
    rw [List.cons_append, List.getElem?_cons_zero]
  simp only [fetchSlotBatch, Run.sendBatch, hsend, List.enum_cons, List.foldlM_cons,
    collectStorage, awaitAt_of_done _ hget (hdone w (List.mem_cons_self _ _))]
  simp [Except.mapError, Run.panic, Run.stop]


theorem fetchAccountStorage_of_length_le
    (hval : ∀ slot, node.getStorageAt address slot block.number = .ok (val slot))
    (hsend : ∀ calls, node.sendBatch calls = .ok ()) (hn : 0 < maxBatchSize)
    (h : slots.length ≤ maxBatchSize) :
    fetchAccountStorage node pageOrder block maxBatchSize ⟨address, some slots⟩ fuel =
      ⟨slots.map (.getStorageAt address · block.number),
        .ok (HashMap.insertAll id (storageValue ∘ val) ∅ slots)⟩ := by
  simp only [fetchAccountStorage, Run.chunks_of_pos hn]
  rcases slots with _ | ⟨slot, slots⟩
  · rfl
  · rw [chunks_of_length_le hn (List.cons_ne_nil _ _) h]
    simp [fetchSlotBatch_of_fresh hval hsend]

theorem fetchAccountStorage_of_lt
    (hval : ∀ slot, node.getStorageAt address slot block.number = .ok (val slot))
    (hsend : ∀ calls, node.sendBatch calls = .ok ()) (hn : 0 < maxBatchSize)
    (h : maxBatchSize < slots.length) :
    fetchAccountStorage node pageOrder block maxBatchSize ⟨address, some slots⟩ fuel =
      ⟨(slots.take (2 * maxBatchSize)).map (.getStorageAt address · block.number),
        .error (.panic "called after complete")⟩ := by
  have hne : slots ≠ [] := List.ne_nil_of_length_pos (by omega)
  have hne' : slots.drop maxBatchSize ≠ [] := List.ne_nil_of_length_pos (by simp; omega)
  have hne'' : (slots.drop maxBatchSize).take maxBatchSize ≠ [] :=
    List.ne_nil_of_length_pos (by simp; omega)
  have hfirst : (slots.take maxBatchSize).map (fun slot => (⟨.ok (val slot), true⟩ : Waiter Bytes)) ≠ [] :=
    List.ne_nil_of_length_pos (by simp; omega)
  simp only [fetchAccountStorage, Run.chunks_of_pos hn, chunks_of_ne_nil hn hne,
    chunks_of_ne_nil hn hne', pure_bind, List.foldlM_cons]
  rw [fetchSlotBatch_of_fresh hval hsend, Run.ok_bind,
    fetchSlotBatch_of_done hfirst (fun w hw => by obtain ⟨_, -, rfl⟩ := List.mem_map.mp hw; rfl)
      hsend _ hne'']
  simp [Nat.two_mul, List.take_add]


/-- One iteration of the collection loop of `batch_fetch_account_code_and_balance` at the first
fresh waiters: it awaits the code, then the balance. -/
theorem collectCodeAndBalance_at_length (codeAnswer : StorageSnapshotRequest → Except String Bytes)
    (balanceAnswer : StorageSnapshotRequest → Except String U256)
    (codeWaiters : List (Waiter Bytes)) (balanceWaiters : List (Waiter U256))
    (hlen : balanceWaiters.length = codeWaiters.length) (r : StorageSnapshotRequest)
    (chunk : List StorageSnapshotRequest) (codes balances : HashMap Bytes Bytes) :
    collectCodeAndBalance
        (codeWaiters ++ (r :: chunk).map (fun r => Waiter.fresh (codeAnswer r)),
          balanceWaiters ++ (r :: chunk).map (fun r => Waiter.fresh (balanceAnswer r)), codes, balances)
        (codeWaiters.length, r) =
      match codeAnswer r, balanceAnswer r with
      | .ok code, .ok balance =>
        ⟨[], .ok ((codeWaiters ++ [⟨.ok code, true⟩]) ++ chunk.map (fun r => Waiter.fresh (codeAnswer r)),
          (balanceWaiters ++ [⟨.ok balance, true⟩]) ++
            chunk.map (fun r => Waiter.fresh (balanceAnswer r)),
          codes.insert r.address code, balances.insert r.address (toBeBytes 32 balance.val))⟩
      | .error e, _ =>
        ⟨[], .error (.error (.requestError s!"Failed to collect code request data: {e}"))⟩
      | .ok _, .error e =>
        ⟨[], .error (.error (.requestError s!"Failed to collect balance request data: {e}"))⟩ := by
  have hc := getElem?_append_map_cons codeWaiters (fun r => Waiter.fresh (codeAnswer r)) r chunk
  have hb := getElem?_append_map_cons balanceWaiters (fun r => Waiter.fresh (balanceAnswer r)) r chunk
  rw [hlen] at hb
  simp only [collectCodeAndBalance, awaitAt_of_fresh _ hc rfl]
  cases codeAnswer r with
  | error e => rfl
  | ok code =>
    simp only [Waiter.fresh, Except.mapError, Except.map, Run.ok_bind, List.nil_append]
    rw [awaitAt_of_fresh _ (by simpa [Waiter.fresh] using hb) rfl]
    cases balanceAnswer r with
    | error e => rfl
    | ok balance => simp [Waiter.fresh, Except.mapError, Except.map, List.set_append_right, hlen]

/-- The collection loop over waiters that all answer records every code and balance. -/
theorem foldlM_collectCodeAndBalance {codeAnswer : StorageSnapshotRequest → Except String Bytes}
    {balanceAnswer : StorageSnapshotRequest → Except String U256} {code : Bytes → Bytes}
    {balance : Bytes → U256} (codeWaiters : List (Waiter Bytes))
    (balanceWaiters : List (Waiter U256)) (hlen : balanceWaiters.length = codeWaiters.length)
    {chunk : List StorageSnapshotRequest}
    (hcode : ∀ r ∈ chunk, codeAnswer r = .ok (code r.address))
    (hbalance : ∀ r ∈ chunk, balanceAnswer r = .ok (balance r.address))
    (codes balances : HashMap Bytes Bytes) :
    (chunk.enumFrom codeWaiters.length).foldlM collectCodeAndBalance
        (codeWaiters ++ chunk.map (fun r => Waiter.fresh (codeAnswer r)),
          balanceWaiters ++ chunk.map (fun r => Waiter.fresh (balanceAnswer r)), codes, balances) =
      ⟨[], .ok (codeWaiters ++ chunk.map (fun r => ⟨codeAnswer r, true⟩),
        balanceWaiters ++ chunk.map (fun r => ⟨balanceAnswer r, true⟩),
        HashMap.insertAll (·.address) (code ·.address) codes chunk,
        HashMap.insertAll (·.address) (fun r => toBeBytes 32 (balance r.address).val) balances
          chunk)⟩ := by
  induction chunk generalizing codeWaiters balanceWaiters codes balances with
  | nil => rfl
  | cons r chunk ih =>
    have hc := hcode r (List.mem_cons_self _ _)
    have hb := hbalance r (List.mem_cons_self _ _)
    have := ih (codeWaiters ++ [⟨.ok (code r.address), true⟩])
      (balanceWaiters ++ [⟨.ok (balance r.address), true⟩]) (by simp [hlen])
      (fun r' h => hcode r' (List.mem_cons_of_mem _ h))
      (fun r' h => hbalance r' (List.mem_cons_of_mem _ h))
      (codes.insert r.address (code r.address))
      (balances.insert r.address (toBeBytes 32 (balance r.address).val))
    rw [List.length_append, List.length_singleton] at this
    rw [List.enumFrom_cons, List.foldlM_cons, collectCodeAndBalance_at_length _ _ _ _ hlen]
    simp only [hc, hb, Run.ok_bind, List.nil_append, this]
    simp [hc, hb]

/-- The collection loop returns exactly when every code and balance is answered. -/
theorem foldlM_collectCodeAndBalance_returnsIff
    (codeAnswer : StorageSnapshotRequest → Except String Bytes)
    (balanceAnswer : StorageSnapshotRequest → Except String U256) (codeWaiters : List (Waiter Bytes))
    (balanceWaiters : List (Waiter U256)) (hlen : balanceWaiters.length = codeWaiters.length)
    (chunk : List StorageSnapshotRequest) (codes balances : HashMap Bytes Bytes) :
    ((chunk.enumFrom codeWaiters.length).foldlM collectCodeAndBalance
        (codeWaiters ++ chunk.map (fun r => Waiter.fresh (codeAnswer r)),
          balanceWaiters ++ chunk.map (fun r => Waiter.fresh (balanceAnswer r)), codes,
          balances)).ReturnsIff
      (∀ r ∈ chunk, (∃ code, codeAnswer r = .ok code) ∧ ∃ balance, balanceAnswer r = .ok balance) := by
  induction chunk generalizing codeWaiters balanceWaiters codes balances with
  | nil => exact (Run.returnsIff_pure _).congr (by simp)
  | cons r chunk ih =>
    rw [List.enumFrom_cons, List.foldlM_cons, collectCodeAndBalance_at_length _ _ _ _ hlen,
      List.forall_mem_cons]
    cases hc : codeAnswer r with
    | error e => exact Run.ReturnsIff.of_cases (by simp) fun _ => ⟨_, rfl⟩
    | ok code =>
      cases hb : balanceAnswer r with
      | error e => exact Run.ReturnsIff.of_cases (by simp) fun _ => ⟨_, rfl⟩
      | ok balance =>
        have := ih (codeWaiters ++ [⟨.ok code, true⟩]) (balanceWaiters ++ [⟨.ok balance, true⟩])
          (by simp [hlen]) (codes.insert r.address code)
          (balances.insert r.address (toBeBytes 32 balance.val))
        rw [List.length_append, List.length_singleton] at this
        simp only [Run.ok_bind, List.nil_append]
        exact ⟨this.settles, this.ok_iff.trans (by simp)⟩

theorem batchFetchAccountCodeAndBalance_of_answers {code : Bytes → Bytes} {balance : Bytes → U256}
    (hsend : ∀ calls, node.sendBatch calls = .ok ()) {chunk : List StorageSnapshotRequest}
    (hcode : ∀ r ∈ chunk, node.getCode r.address block.number = .ok (code r.address))
    (hbalance : ∀ r ∈ chunk, node.getBalance r.address block.number = .ok (balance r.address)) :
    batchFetchAccountCodeAndBalance node block chunk =
      ⟨chunk.flatMap fun r => [.getCode r.address block.number, .getBalance r.address block.number],
        .ok (HashMap.insertAll (·.address) (code ·.address) ∅ chunk,
          HashMap.insertAll (·.address) (fun r => toBeBytes 32 (balance r.address).val) ∅ chunk)⟩ := by
  have := foldlM_collectCodeAndBalance [] [] rfl hcode hbalance ∅ ∅
  simp only [List.nil_append, List.length_nil] at this
  simp only [batchFetchAccountCodeAndBalance, Run.sendBatch, hsend]
  simp [Except.mapError, List.enum, this]

theorem batchFetchAccountCodeAndBalance_returnsIff (hsend : ∀ calls, node.sendBatch calls = .ok ())
    (chunk : List StorageSnapshotRequest) :
    (batchFetchAccountCodeAndBalance node block chunk).ReturnsIff
      (∀ r ∈ chunk, (∃ code, node.getCode r.address block.number = .ok code) ∧
        ∃ balance, node.getBalance r.address block.number = .ok balance) := by
  have := foldlM_collectCodeAndBalance_returnsIff (fun r => node.getCode r.address block.number)
    (fun r => node.getBalance r.address block.number) [] [] rfl chunk ∅ ∅
  simp only [List.nil_append, List.length_nil] at this
  simp only [batchFetchAccountCodeAndBalance, Run.sendBatch, hsend, Except.mapError, Run.ok_bind,
    List.nil_append]
  exact ((this.bind fun _ _ => Run.returnsIff_pure _).congr (and_iff_left trivial)).calls _

theorem fetchAccountStorage_of_pages {pages : List (H256 × StorageRange)}
    (h : node.storagePages block.hash address fuel H256.zero = some (.ok pages)) :
    fetchAccountStorage node pageOrder block maxBatchSize ⟨address, none⟩ fuel =
      ⟨pages.map fun p => .storageRangeAt block.hash 0 address p.1 100000,
        .ok (HashMap.insertAll (·.1) (some ·.2) ∅ (HashMap.insertAll (·.key.val) (·.value.val) ∅
          (pageOrder.entries block.hash address pages)).entries)⟩ := by
  simp [fetchAccountStorage, getStorageRange, storageRangeLoop_of_pages h]

theorem fetchAccountStorage_returnsIff_of_none
    (h : (node.storagePages block.hash address fuel H256.zero).isSome) :
    (fetchAccountStorage node pageOrder block maxBatchSize ⟨address, none⟩ fuel).ReturnsIff
      (∃ pages, node.storagePages block.hash address fuel H256.zero = some (.ok pages)) :=
  ((storageRangeLoop_returnsIff h ∅).bind fun _ _ => Run.returnsIff_pure _).congr
    (and_iff_left trivial)

/-- A whole-storage fetch never panics. -/
theorem fetchAccountStorage_ne_panic_of_none (m : String) :
    (fetchAccountStorage node pageOrder block maxBatchSize ⟨address, none⟩ fuel).result ≠ .error (.panic m) := by
  simp only [fetchAccountStorage, getStorageRange, Run.bind_eq]
  split
  · simp
  · next s h =>
    rintro ⟨⟩
    exact storageRangeLoop_ne_panic fuel H256.zero ∅ m h

/-- The `AccountDelta` the extractor assembles for a request from the code and balance of its
address and its storage. -/
def deltaOf (chain : Chain) (code balance : Bytes → Bytes)
    (storage : StorageSnapshotRequest → HashMap Bytes (Option Bytes))
    (request : StorageSnapshotRequest) : AccountDelta :=
  { address := request.address, chain, slots := storage request,
    balance := some (balance request.address), code := some (code request.address),
    change := .creation }

theorem foldlM_assembleDelta (chain : Chain) (codes balances : HashMap Bytes Bytes)
    (code balance : Bytes → Bytes) (storage : StorageSnapshotRequest → HashMap Bytes (Option Bytes))
    (pre : List (HashMap Bytes (Option Bytes))) (xs : List StorageSnapshotRequest)
    (updates : HashMap Bytes AccountDelta)
    (hcode : ∀ r ∈ xs, codes.lookup r.address = some (code r.address))
    (hbalance : ∀ r ∈ xs, balances.lookup r.address = some (balance r.address)) :
    (xs.enumFrom pre.length).foldlM (assembleDelta chain block codes balances (pre ++ xs.map storage))
        updates =
      ⟨[], .ok (HashMap.insertAll (·.address) (deltaOf chain code balance storage) updates xs)⟩ := by
  induction xs generalizing pre updates with
  | nil => rfl
  | cons r xs ih =>
    have hget := getElem?_append_map_cons pre storage r xs
    have := ih (pre ++ [storage r]) (updates.insert r.address (deltaOf chain code balance storage r))
      (fun r' h => hcode r' (List.mem_cons_of_mem _ h))
      (fun r' h => hbalance r' (List.mem_cons_of_mem _ h))
    simp only [List.length_append, List.length_singleton, List.append_assoc,
      List.singleton_append] at this
    simp only [List.enumFrom_cons, List.foldlM_cons, assembleDelta, hget, Run.ofExcept,
      Except.mapError, hcode r (List.mem_cons_self _ _), hbalance r (List.mem_cons_self _ _)]
    simp only [Run.ok_bind, Run.pure_calls, Run.pure_result, List.nil_append]
    exact this

theorem processChunk_of_fetch {code : Bytes → Bytes} {balance : Bytes → U256}
    (hsend : ∀ calls, node.sendBatch calls = .ok ())
    {storage : StorageSnapshotRequest → HashMap Bytes (Option Bytes)}
    {storageCalls : StorageSnapshotRequest → List Call} (chain : Chain)
    (updates : HashMap Bytes AccountDelta) {chunk : List StorageSnapshotRequest}
    (hcode : ∀ r ∈ chunk, node.getCode r.address block.number = .ok (code r.address))
    (hbalance : ∀ r ∈ chunk, node.getBalance r.address block.number = .ok (balance r.address))
    (hfetch : ∀ r ∈ chunk,
      fetchAccountStorage node pageOrder block 10000 r fuel = ⟨storageCalls r, .ok (storage r)⟩) :
    processChunk node pageOrder chain block fuel updates chunk =
      ⟨(chunk.flatMap fun r => [.getCode r.address block.number, .getBalance r.address block.number])
          ++ chunk.flatMap storageCalls,
        .ok (HashMap.insertAll (·.address)
          (deltaOf chain code (fun a => toBeBytes 32 (balance a).val) storage) updates chunk)⟩ := by
  have hjoin := @tryJoinAll_map_of_ok _ _ (fun r => fetchAccountStorage node pageOrder block 10000 r fuel)
    storage chunk fun r hr => by
      show (fetchAccountStorage node pageOrder block 10000 r fuel).result = _
      rw [hfetch r hr]
  have hcalls : (chunk.flatMap fun r => (fetchAccountStorage node pageOrder block 10000 r fuel).calls) =
      chunk.flatMap storageCalls :=
    List.flatMap_congr fun r hr => by rw [hfetch r hr]
  have hfold := @foldlM_assembleDelta block chain _ _ code
    (fun a => toBeBytes 32 (balance a).val) storage [] chunk updates
    (fun r hr => HashMap.lookup_insertAll_of_mem (·.address) code ∅ hr)
    (fun r hr => HashMap.lookup_insertAll_of_mem (·.address) (fun a => toBeBytes 32 (balance a).val) ∅ hr)
  simp only [List.nil_append, List.length_nil] at hfold
  simp only [processChunk, batchFetchAccountCodeAndBalance_of_answers hsend hcode hbalance,
    Run.ok_bind, hjoin, hcalls, List.enum]
  rw [hfold]
  simp

theorem foldlM_processChunk {code : Bytes → Bytes} {balance : Bytes → U256}
    (hsend : ∀ calls, node.sendBatch calls = .ok ())
    {storage : StorageSnapshotRequest → HashMap Bytes (Option Bytes)}
    {storageCalls : StorageSnapshotRequest → List Call} (chain : Chain)
    {chunks : List (List StorageSnapshotRequest)} (updates : HashMap Bytes AccountDelta)
    (hcode : ∀ chunk ∈ chunks, ∀ r ∈ chunk,
      node.getCode r.address block.number = .ok (code r.address))
    (hbalance : ∀ chunk ∈ chunks, ∀ r ∈ chunk,
      node.getBalance r.address block.number = .ok (balance r.address))
    (hfetch : ∀ chunk ∈ chunks, ∀ r ∈ chunk,
      fetchAccountStorage node pageOrder block 10000 r fuel = ⟨storageCalls r, .ok (storage r)⟩) :
    chunks.foldlM (processChunk node pageOrder chain block fuel) updates =
      ⟨chunks.flatMap fun chunk =>
          (chunk.flatMap fun r => [.getCode r.address block.number, .getBalance r.address block.number])
            ++ chunk.flatMap storageCalls,
        .ok (HashMap.insertAll (·.address)
          (deltaOf chain code (fun a => toBeBytes 32 (balance a).val) storage) updates
          chunks.flatten)⟩ := by
  induction chunks generalizing updates with
  | nil => rfl
  | cons chunk chunks ih =>
    have hmem := List.mem_cons_self chunk chunks
    simp only [List.foldlM_cons, processChunk_of_fetch hsend chain updates (hcode chunk hmem)
      (hbalance chunk hmem) (hfetch chunk hmem), Run.ok_bind,
      ih _ (fun c hc => hcode c (List.mem_cons_of_mem _ hc))
        (fun c hc => hbalance c (List.mem_cons_of_mem _ hc))
        (fun c hc => hfetch c (List.mem_cons_of_mem _ hc))]
    simp [HashMap.insertAll_append]

/-- The requests of a chunk of the `HashSet`'s iteration are requests. -/
theorem mem_of_mem_chunks {order : HashSetOrder StorageSnapshotRequest}
    {requests : List StorageSnapshotRequest} {chunk : List StorageSnapshotRequest}
    (hchunk : chunk ∈ chunks 100 (order.iter requests)) {r : StorageSnapshotRequest}
    (hr : r ∈ chunk) : r ∈ requests := by
  have : r ∈ (chunks 100 (order.iter requests)).flatten := List.mem_flatten.mpr ⟨chunk, hchunk, hr⟩
  rw [flatten_chunks (by decide)] at this
  exact (order.mem_iter _ _).mp this

theorem getAccountsAtBlock_of_fetch {code : Bytes → Bytes} {balance : Bytes → U256}
    (hsend : ∀ calls, node.sendBatch calls = .ok ())
    {storage : StorageSnapshotRequest → HashMap Bytes (Option Bytes)}
    {storageCalls : StorageSnapshotRequest → List Call} (order : HashSetOrder StorageSnapshotRequest)
    (chain : Chain) {requests : List StorageSnapshotRequest}
    (hcode : ∀ r ∈ requests, node.getCode r.address block.number = .ok (code r.address))
    (hbalance : ∀ r ∈ requests, node.getBalance r.address block.number = .ok (balance r.address))
    (hfetch : ∀ r ∈ requests,
      fetchAccountStorage node pageOrder block 10000 r fuel = ⟨storageCalls r, .ok (storage r)⟩) :
    getAccountsAtBlock node pageOrder order chain block requests fuel =
      ⟨(chunks 100 (order.iter requests)).flatMap fun chunk =>
          (chunk.flatMap fun r => [.getCode r.address block.number, .getBalance r.address block.number])
            ++ chunk.flatMap storageCalls,
        .ok (HashMap.insertAll (·.address)
          (deltaOf chain code (fun a => toBeBytes 32 (balance a).val) storage) ∅
          (order.iter requests))⟩ := by
  simp only [getAccountsAtBlock, Run.chunks_of_pos (by decide : 0 < 100), pure_bind]
  rw [foldlM_processChunk hsend chain ∅ (fun _ hc r hr => hcode r (mem_of_mem_chunks hc hr))
    (fun _ hc r hr => hbalance r (mem_of_mem_chunks hc hr))
    (fun _ hc r hr => hfetch r (mem_of_mem_chunks hc hr)), flatten_chunks (by decide)]

/-! ### Runs that fail -/

/-- The assembly loop over a chunk whose every storage result is there never fails. -/
theorem foldlM_assembleDelta_returnsIff (chain : Chain) (codes balances : HashMap Bytes Bytes)
    {storageResults : List (HashMap Bytes (Option Bytes))} {chunk : List StorageSnapshotRequest}
    (hlen : storageResults.length = chunk.length) (updates : HashMap Bytes AccountDelta) :
    (chunk.enum.foldlM (assembleDelta chain block codes balances storageResults) updates).ReturnsIff
      True := by
  refine (Run.returnsIff_foldlM (fun s x hx =>
    (?_ : (assembleDelta chain block codes balances storageResults s x).ReturnsIff True))
    updates).congr (by simp)
  have hidx : x.1 < storageResults.length := hlen ▸ List.fst_lt_of_mem_enum hx
  obtain ⟨idx, r⟩ := x
  simp only [assembleDelta, List.getElem?_eq_getElem hidx]
  exact ((Run.returnsIff_ofExcept _).bind fun _ _ => Run.returnsIff_pure _).congr (by simp)

/-- A chunk of whole-storage requests whose paginations end within the fuel: processing it
returns exactly when the node serves every account of the chunk. -/
theorem processChunk_returnsIff (hsend : ∀ calls, node.sendBatch calls = .ok ()) (chain : Chain)
    (updates : HashMap Bytes AccountDelta) (chunk : List StorageSnapshotRequest)
    (hnone : ∀ r ∈ chunk, r.slots = none)
    (hend : ∀ r ∈ chunk, (node.storagePages block.hash r.address fuel H256.zero).isSome) :
    (processChunk node pageOrder chain block fuel updates chunk).ReturnsIff
      (∀ r ∈ chunk, node.ServesAccount block fuel r.address) := by
  have hfetch : ∀ r ∈ chunk, (fetchAccountStorage node pageOrder block 10000 r fuel).ReturnsIff
      (∃ pages, node.storagePages block.hash r.address fuel H256.zero = some (.ok pages)) := by
    rintro ⟨address, slots⟩ hr
    obtain rfl : slots = none := hnone _ hr
    exact fetchAccountStorage_returnsIff_of_none (hend _ hr)
  have hjoin := @Run.returnsIff_tryJoinAll _
    (chunk.map fun r => fetchAccountStorage node pageOrder block 10000 r fuel)
    (fun run => ∃ a, run.result = .ok a) fun run hrun => by
      obtain ⟨r, hr, rfl⟩ := List.mem_map.mp hrun
      exact ⟨(hfetch r hr).settles, Iff.rfl⟩
  refine ((batchFetchAccountCodeAndBalance_returnsIff hsend chunk).bind fun _ _ =>
    hjoin.bind fun storageResults h => foldlM_assembleDelta_returnsIff chain _ _ ?_ updates).congr ?_
  · simpa using length_of_joinResults h
  · simp only [List.forall_mem_map, and_true, Node.ServesAccount]
    constructor
    · exact fun ⟨h₁, h₂⟩ r hr => ⟨(h₁ r hr).1, (h₁ r hr).2, (hfetch r hr).ok_iff.mp (h₂ r hr)⟩
    · exact fun h => ⟨fun r hr => ⟨(h r hr).1, (h r hr).2.1⟩,
        fun r hr => (hfetch r hr).ok_iff.mpr (h r hr).2.2⟩

/-- **When the batched extractor returns.** For whole-storage requests whose paginations end
within the fuel, against a node that delivers batches, `get_accounts_at_block` returns exactly
when the node serves every requested account, and otherwise fails with an `RPCError`. -/
theorem getAccountsAtBlock_returnsIff (hsend : ∀ calls, node.sendBatch calls = .ok ())
    (order : HashSetOrder StorageSnapshotRequest) (chain : Chain)
    {requests : List StorageSnapshotRequest} (hnone : ∀ r ∈ requests, r.slots = none)
    (hend : ∀ r ∈ requests, (node.storagePages block.hash r.address fuel H256.zero).isSome) :
    (getAccountsAtBlock node pageOrder order chain block requests fuel).ReturnsIff
      (∀ r ∈ requests, node.ServesAccount block fuel r.address) := by
  simp only [getAccountsAtBlock, Run.chunks_of_pos (by decide : 0 < 100), pure_bind]
  have hfold := @Run.returnsIff_foldlM _ _ _ _ (chunks 100 (order.iter requests))
    (fun updates chunk hchunk => @processChunk_returnsIff node pageOrder block fuel hsend chain
      updates chunk (fun r hr => hnone r (mem_of_mem_chunks hchunk hr))
      (fun r hr => hend r (mem_of_mem_chunks hchunk hr))) ∅
  refine hfold.congr ⟨fun h r hr => ?_, fun h _ hc r hr => h r (mem_of_mem_chunks hc hr)⟩
  have : r ∈ (chunks 100 (order.iter requests)).flatten := by
    rw [flatten_chunks (by decide), order.mem_iter]; exact hr
  obtain ⟨chunk, hchunk, hr⟩ := List.mem_flatten.mp this
  exact h chunk hchunk r hr

/-- A chunk in which one storage fetch fails with an `RPCError` and none panics fails with an
`RPCError`, whether the other fetches end or not: `try_join_all` drops them. -/
theorem processChunk_of_fetch_error (hsend : ∀ calls, node.sendBatch calls = .ok ())
    (chain : Chain) (updates : HashMap Bytes AccountDelta) {chunk : List StorageSnapshotRequest}
    (hanswers : ∀ r ∈ chunk, (∃ code, node.getCode r.address block.number = .ok code) ∧
      ∃ balance, node.getBalance r.address block.number = .ok balance)
    {r : StorageSnapshotRequest} (hr : r ∈ chunk) {e : RPCError}
    (he : (fetchAccountStorage node pageOrder block 10000 r fuel).result = .error (.error e))
    (hpanic : ∀ r ∈ chunk, ∀ m,
      (fetchAccountStorage node pageOrder block 10000 r fuel).result ≠ .error (.panic m)) :
    ∃ e', (processChunk node pageOrder chain block fuel updates chunk).result = .error (.error e') := by
  obtain ⟨⟨codes, balances⟩, hcb⟩ :=
    (batchFetchAccountCodeAndBalance_returnsIff hsend chunk).ok_iff.mpr hanswers
  obtain ⟨e', hjoin⟩ := joinResults_of_error_mem
    (List.mem_map.mpr ⟨_, List.mem_map_of_mem (fetchAccountStorage node pageOrder block 10000 · fuel) hr, he⟩)
    (fun m hm => by
      obtain ⟨_, hrun, hm⟩ := List.mem_map.mp hm
      obtain ⟨r', hr', rfl⟩ := List.mem_map.mp hrun
      exact hpanic r' hr' m hm)
  refine ⟨e', ?_⟩
  rw [processChunk, Run.bind_eq, hcb]
  exact Run.result_bind_of_error hjoin _

/-- **An RPC error wins over an endless pagination.** At most 100 whole-storage requests make one
chunk: when the node serves every code and balance but the pagination of one request fails, the
extractor fails with an `RPCError`, whatever the other paginations do. -/
theorem getAccountsAtBlock_of_fetch_error (hsend : ∀ calls, node.sendBatch calls = .ok ())
    (order : HashSetOrder StorageSnapshotRequest) (chain : Chain)
    {requests : List StorageSnapshotRequest} (hnone : ∀ r ∈ requests, r.slots = none)
    (hsize : requests.length ≤ 100)
    (hanswers : ∀ r ∈ requests, (∃ code, node.getCode r.address block.number = .ok code) ∧
      ∃ balance, node.getBalance r.address block.number = .ok balance)
    {r : StorageSnapshotRequest} (hr : r ∈ requests) {e : RPCError}
    (he : (fetchAccountStorage node pageOrder block 10000 r fuel).result = .error (.error e)) :
    ∃ e', (getAccountsAtBlock node pageOrder order chain block requests fuel).result = .error (.error e') := by
  have hmem := order.mem_iter requests
  have hr' : r ∈ order.iter requests := (hmem r).mpr hr
  have hlen : (order.iter requests).length ≤ 100 :=
    ((order.nodup requests).subperm fun a ha => (hmem a).mp ha).length_le.trans hsize
  obtain ⟨e', he'⟩ := processChunk_of_fetch_error hsend chain ∅
    (fun r h => hanswers r ((hmem r).mp h)) hr' he fun r h m => by
      obtain ⟨address, slots⟩ := r
      obtain rfl : slots = none := hnone _ ((hmem _).mp h)
      exact fetchAccountStorage_ne_panic_of_none m
  refine ⟨e', ?_⟩
  simp only [getAccountsAtBlock, Run.chunks_of_pos (by decide : 0 < 100), pure_bind,
    chunks_of_length_le (by decide) (List.ne_nil_of_mem hr') hlen, List.foldlM_cons]
  exact Run.result_bind_of_error he' _

end EVMBatchAccountExtractor

end TychoIndexer
