import TychoIndexer.Extractor.Batch

/-!
# What the batched account extractor returns

The runs of `EVMBatchAccountExtractor::get_accounts_at_block` against a node that answers every
call. What a delta records of its request's storage is `SlotsRecorded`: the node's answer to each
listed slot, or every entry of the address's storage-range pagination.

* `getAccountsAtBlock_returns_deltas` — the extractor returns one delta per requested address,
  with the node's code and 32-byte balance; the slots of the delta of `a` are those of ONE request
  of address `a`, the last of them in the `HashSet`'s iteration order;
* `getAccountsAtBlock_loses_slots_in_every_order` — so of two requests of one address with
  different slots, one loses its slot, whatever the iteration order;
* `fetchAccountStorage_panics_past_first_batch` — a slot list longer than one sub-batch makes
  `fetch_account_storage` panic: the loop over the second sub-batch indexes `storage_requests`,
  which keeps the first sub-batch's waiters, from position 0, and awaits a completed waiter again;
* `getAccountsAtBlock_stops_after_two_storage_batches` — a request of 20001 slots therefore issues
  20000 `eth_getStorageAt` calls, and the extractor panics.
-/

namespace TychoIndexer

/-- A `HashSet` of one element iterates over that element. -/
theorem HashSetOrder.iter_singleton {α : Type} [DecidableEq α] (order : HashSetOrder α) (a : α) :
    order.iter [a] = [a] :=
  List.perm_singleton.mp ((List.perm_ext_iff_of_nodup (order.nodup _) (List.nodup_singleton a)).mpr
    fun x => order.mem_iter _ x)

namespace EVMBatchAccountExtractor

/-- What the storage of a request's delta records. For listed slots: each listed slot, with the
node's `eth_getStorageAt` answer (`None` for 32 zero bytes), and no other key. For the whole
storage: the pagination of the address ends within `fuel` pages, and the map holds every entry of
every page, as `Some`, and nothing else. -/
def SlotsRecorded (node : Node) (block : Block) (fuel : Nat) (request : StorageSnapshotRequest)
    (slots : HashMap Bytes (Option Bytes)) : Prop :=
  match request.slots with
  | some ks => ∀ k, slots.lookup k =
      if k ∈ ks then (node.getStorageAt request.address k block.number).toOption.map storageValue
      else none
  | none => ∃ pages,
      node.storagePages block.hash request.address fuel H256.zero = some (.ok pages) ∧
      ∀ k o, slots.lookup k = some o ↔
        ∃ e ∈ pages.flatMap (·.2.storage), e.key.val = k ∧ o = some e.value.val

variable {node : Node} {pageOrder : PageOrder} {block : Block} {fuel : Nat}

theorem slotsRecorded_of_listed {address : Bytes} {ks : List Bytes} {val : Bytes → Bytes}
    (hval : ∀ k, node.getStorageAt address k block.number = .ok (val k)) :
    SlotsRecorded node block fuel ⟨address, some ks⟩
      (HashMap.insertAll id (storageValue ∘ val) ∅ ks) := fun k => by
  rw [HashMap.lookup_insertAll_self]
  split_ifs <;> simp [hval, Except.toOption]

/-- The entries of a pagination, collected by `get_storage_range` in any order of each page and
moved into the slot map, are recorded when the pages come from one state: a slot reported twice
has one value. -/
theorem slotsRecorded_of_pages (hstate : node.FromOneState block) {address : Bytes}
    {pages : List (H256 × StorageRange)}
    (h : node.storagePages block.hash address fuel H256.zero = some (.ok pages)) :
    SlotsRecorded node block fuel ⟨address, none⟩
      (HashMap.insertAll (·.1) (some ·.2) ∅ (HashMap.insertAll (·.key.val) (·.value.val) ∅
        (pageOrder.entries block.hash address pages)).entries) := by
  obtain ⟨storage, hstorage⟩ := hstate
  have hmem : ∀ e, e ∈ pageOrder.entries block.hash address pages ↔
      e ∈ pages.flatMap (·.2.storage) := fun _ => (pageOrder.entries_perm _ _ _).mem_iff
  have hone : ∀ e ∈ pageOrder.entries block.hash address pages,
      storage address e.key.val = some e.value.val := by
    intro e he
    obtain ⟨p, hp, he⟩ := List.mem_flatMap.mp ((hmem e).mp he)
    exact hstorage address p.1 p.2 (Node.storageRangeAt_of_mem_storagePages h p hp) e he
  refine ⟨pages, h, fun k o => ?_⟩
  have hmoved : (HashMap.insertAll (·.1) (some ·.2) ∅ (HashMap.insertAll (·.key.val) (·.value.val) ∅
      (pageOrder.entries block.hash address pages)).entries).lookup k =
      ((HashMap.insertAll (·.key.val) (·.value.val) ∅
        (pageOrder.entries block.hash address pages)).lookup k).map some :=
    HashMap.lookup_insertAll_entries Function.injective_id some _ k
  rw [hmoved, Option.map_eq_some']
  simp only [HashMap.lookup_insertAll_empty_eq_some]
  constructor
  · -- the value a slot keeps is that of an entry of the pagination
    rintro ⟨_, ⟨e, hf, rfl⟩, rfl⟩
    obtain ⟨he, hk⟩ := HashMap.mem_of_find?_reverse_eq_some hf
    exact ⟨e, (hmem e).mp he, hk, rfl⟩
  · -- every entry's slot is kept, with the one value the state gives it
    rintro ⟨e, he, rfl, rfl⟩
    replace he := (hmem e).mpr he
    cases hf : (pageOrder.entries block.hash address pages).reverse.find?
        (fun x => x.key.val = e.key.val) with
    | none => simpa using List.find?_eq_none.mp hf e (List.mem_reverse.mpr he)
    | some e' =>
      obtain ⟨he', hk⟩ := HashMap.mem_of_find?_reverse_eq_some hf
      have hv := (hone e' he').symm.trans (hk ▸ hone e he)
      exact ⟨_, ⟨e', rfl, Option.some_injective _ hv⟩, rfl⟩

/-- Against a node that answers, with every whole-storage pagination ending within `fuel` pages and
no slot list longer than one sub-batch, the extractor returns the deltas of the requests in the
`HashSet`'s order, each with a storage that records its request's slots. -/
theorem getAccountsAtBlock_of_answers {code : Bytes → Bytes} {balance : Bytes → U256}
    {val : Bytes → Bytes → Bytes}
    (hcode : ∀ a, node.getCode a block.number = .ok (code a))
    (hbalance : ∀ a, node.getBalance a block.number = .ok (balance a))
    (hval : ∀ a k, node.getStorageAt a k block.number = .ok (val a k))
    (hsend : ∀ calls, node.sendBatch calls = .ok ()) (hstate : node.FromOneState block)
    (order : HashSetOrder StorageSnapshotRequest) (chain : Chain) (fuel : Nat)
    (requests : List StorageSnapshotRequest)
    (hpages : ∀ r ∈ requests, r.slots = none →
      ∃ pages, node.storagePages block.hash r.address fuel H256.zero = some (.ok pages))
    (hsize : ∀ r ∈ requests, ∀ ks, r.slots = some ks → ks.length ≤ 10000) :
    ∃ storage : StorageSnapshotRequest → HashMap Bytes (Option Bytes),
      (∀ r ∈ requests, SlotsRecorded node block fuel r (storage r)) ∧
      (getAccountsAtBlock node pageOrder order chain block requests fuel).result =
        .ok (HashMap.insertAll (·.address)
          (deltaOf chain code (fun a => toBeBytes 32 (balance a).val) storage) ∅
          (order.iter requests)) := by
  have hfetch : ∀ r ∈ requests, ∃ m, (fetchAccountStorage node pageOrder block 10000 r fuel).result = .ok m ∧
      SlotsRecorded node block fuel r m := by
    rintro ⟨address, slots⟩ hr
    cases slots with
    | none =>
      obtain ⟨pages, hp⟩ := hpages _ hr rfl
      exact ⟨_, by rw [fetchAccountStorage_of_pages hp], slotsRecorded_of_pages hstate hp⟩
    | some ks =>
      exact ⟨_, by rw [fetchAccountStorage_of_length_le (hval address) hsend (by decide)
        (hsize _ hr ks rfl)], slotsRecorded_of_listed (hval address)⟩
  choose! storage hstorage hrec using hfetch
  refine ⟨storage, hrec, ?_⟩
  rw [getAccountsAtBlock_of_fetch hsend order chain (fun r _ => hcode r.address)
    (fun r _ => hbalance r.address) fun r hr => (Run.eta _).trans (congrArg _ (hstorage r hr))]

/-- **The deltas of the batched extractor.** Against a node that answers every call from one state
of the block, where every whole-storage pagination ends within `fuel` pages and no slot list is
longer than a sub-batch, `get_accounts_at_block` returns a delta for exactly the requested
addresses, with the node's code and 32-byte balance. The slots of the delta of `a` are those
recorded for one request of address `a`: the last in the `HashSet`'s iteration order. -/
theorem getAccountsAtBlock_returns_deltas (hans : node.Answers block)
    (hstate : node.FromOneState block) (order : HashSetOrder StorageSnapshotRequest)
    (chain : Chain) {requests : List StorageSnapshotRequest}
    (hpages : ∀ r ∈ requests, r.slots = none →
      ∃ pages, node.storagePages block.hash r.address fuel H256.zero = some (.ok pages))
    (hsize : ∀ r ∈ requests, ∀ ks, r.slots = some ks → ks.length ≤ 10000) :
    ∃ updates, (getAccountsAtBlock node pageOrder order chain block requests fuel).result = .ok updates ∧
      (∀ a, (updates.lookup a).isSome ↔ ∃ r ∈ requests, r.address = a) ∧
      ∀ a d, updates.lookup a = some d →
        d.address = a ∧ d.chain = chain ∧ d.change = .creation ∧
        d.code = (node.getCode a block.number).toOption ∧
        d.balance = (node.getBalance a block.number).toOption.map (fun b => toBeBytes 32 b.val) ∧
        ∃ r, (order.iter requests).reverse.find? (fun r => r.address = a) = some r ∧
          SlotsRecorded node block fuel r d.slots := by
  choose code hcode using hans.getCode
  choose balance hbalance using hans.getBalance
  choose val hval using hans.getStorageAt
  obtain ⟨storage, hrec, hrun⟩ := getAccountsAtBlock_of_answers hcode hbalance hval
    hans.sendBatch hstate order chain fuel requests hpages hsize
  refine ⟨_, hrun, fun a => ?_, fun a d hd => ?_⟩
  · -- the keys are the requested addresses
    simp only [HashMap.isSome_lookup_insertAll_empty, order.mem_iter]
  · -- each delta is that of the last request of its address in the iteration order
    obtain ⟨r, hr, rfl⟩ := HashMap.lookup_insertAll_empty_eq_some.mp hd
    obtain ⟨hmem, rfl⟩ := HashMap.mem_of_find?_reverse_eq_some hr
    rw [order.mem_iter] at hmem
    exact ⟨rfl, rfl, rfl, by simp [deltaOf, hcode, Except.toOption],
      by simp [deltaOf, hbalance, Except.toOption], r, hr, hrec r hmem⟩

/-- A node that answers every call: no code, a zero balance, `value` in every slot, and an empty
storage. -/
def Node.uniform (value : Bytes) : Node where
  getCode _ _ := .ok []
  getBalance _ _ := .ok 0
  getStorageAt _ _ _ := .ok value
  storageRangeAt _ _ _ := .ok ⟨[], none⟩
  sendBatch _ := .ok ()

theorem Node.uniform_fromOneState (value : Bytes) (block : Block) :
    (Node.uniform value).FromOneState block :=
  ⟨fun _ _ => none, fun _ _ _ h e he => by cases h; cases he⟩

/-- Two requests of one address, one listing a slot and one asking for the whole storage: the
delta of the address is the one of them that the `HashSet` iterates last. -/
theorem getAccountsAtBlock_returns_deltas_same_address :
    ∃ updates, (getAccountsAtBlock (Node.uniform [1]) PageOrder.asSent HashSetOrder.dedup .ethereum
        ⟨0, [], [], .ethereum, ⟨0, by decide, by decide⟩⟩ [⟨[1], some [[1]]⟩, ⟨[1], none⟩] 1).result =
        .ok updates ∧
      (∀ a, (updates.lookup a).isSome ↔
        ∃ r ∈ [(⟨[1], some [[1]]⟩ : StorageSnapshotRequest), ⟨[1], none⟩], r.address = a) ∧
      ∀ a d, updates.lookup a = some d →
        d.address = a ∧ d.chain = .ethereum ∧ d.change = .creation ∧
        d.code = ((Node.uniform [1]).getCode a 0).toOption ∧
        d.balance = ((Node.uniform [1]).getBalance a 0).toOption.map (fun b => toBeBytes 32 b.val) ∧
        ∃ r, (HashSetOrder.dedup.iter [⟨[1], some [[1]]⟩, ⟨[1], none⟩]).reverse.find?
            (fun r => r.address = a) = some r ∧
          SlotsRecorded (Node.uniform [1]) ⟨0, [], [], .ethereum, ⟨0, by decide, by decide⟩⟩ 1 r
            d.slots :=
  getAccountsAtBlock_returns_deltas
    ⟨fun _ => rfl, fun _ => ⟨_, rfl⟩, fun _ => ⟨_, rfl⟩, fun _ _ => ⟨_, rfl⟩, fun _ _ => ⟨_, rfl⟩⟩
    (Node.uniform_fromOneState _ _) _ _ (fun r hr hs => by
      simp only [List.mem_cons, List.mem_singleton, List.not_mem_nil, or_false] at hr
      rcases hr with rfl | rfl
      · cases hs
      · exact ⟨_, rfl⟩) (by simp)

/-- Two requests of one address with different slots, against a node that answers everything:
whatever the `HashSet`'s iteration order, the delta of the address misses one of the two slots. -/
theorem getAccountsAtBlock_loses_slots_in_every_order (pageOrder : PageOrder) (block : Block)
    (order : HashSetOrder StorageSnapshotRequest) :
    ∃ updates d, (getAccountsAtBlock (Node.uniform [1]) pageOrder order .ethereum block
          [⟨[1], some [[1]]⟩, ⟨[1], some [[2]]⟩] 1).result = .ok updates ∧
        updates.lookup [1] = some d ∧ (d.slots.lookup [1] = none ∨ d.slots.lookup [2] = none) := by
  obtain ⟨storage, hrec, hrun⟩ := getAccountsAtBlock_of_answers (fun _ => rfl) (fun _ => rfl)
    (fun _ _ => rfl) (fun _ => rfl) (Node.uniform_fromOneState [1] block) order .ethereum 1
    [⟨[1], some [[1]]⟩, ⟨[1], some [[2]]⟩] (by simp) (by simp)
  obtain ⟨r, hr, hf⟩ : ∃ r ∈ [(⟨[1], some [[1]]⟩ : StorageSnapshotRequest), ⟨[1], some [[2]]⟩],
      (order.iter [⟨[1], some [[1]]⟩, ⟨[1], some [[2]]⟩]).reverse.find?
        (fun r => r.address = [1]) = some r := by
    cases hf : (order.iter [⟨[1], some [[1]]⟩, ⟨[1], some [[2]]⟩]).reverse.find?
        (fun r => r.address = [1]) with
    | none =>
      have := List.find?_eq_none.mp hf ⟨[1], some [[1]]⟩
        (List.mem_reverse.mpr ((order.mem_iter _ _).mpr (List.mem_cons_self _ _)))
      simp at this
    | some r => exact ⟨r, (order.mem_iter _ _).mp (HashMap.mem_of_find?_reverse_eq_some hf).1, rfl⟩
  refine ⟨_, _, hrun, HashMap.lookup_insertAll_empty_eq_some.mpr ⟨r, hf, rfl⟩, ?_⟩
  have hslots := hrec r hr
  simp only [List.mem_cons, List.mem_singleton, List.not_mem_nil, or_false] at hr
  rcases hr with rfl | rfl
  · exact .inr ((hslots [2]).trans (if_neg (by decide)))
  · exact .inl ((hslots [1]).trans (if_neg (by decide)))

/-- The two requests at block 0, in the iteration order that keeps the last copy of each
request: the delta of the address misses one of the two slots. -/
theorem getAccountsAtBlock_loses_slots :
    ∃ updates d, (getAccountsAtBlock (Node.uniform [1]) PageOrder.asSent HashSetOrder.dedup .ethereum
          ⟨0, [], [], .ethereum, ⟨0, by decide, by decide⟩⟩
          [⟨[1], some [[1]]⟩, ⟨[1], some [[2]]⟩] 1).result = .ok updates ∧
        updates.lookup [1] = some d ∧ (d.slots.lookup [1] = none ∨ d.slots.lookup [2] = none) :=
  getAccountsAtBlock_loses_slots_in_every_order _ _ _

/-- **Slot lists longer than a sub-batch.** Against a node that answers every call, a request of
more slots than `maxBatchSize` makes `fetch_account_storage` panic after the first two
sub-batches: the loop over the second one awaits the first sub-batch's waiters again. -/
theorem fetchAccountStorage_panics_past_first_batch (hans : node.Answers block)
    {maxBatchSize : Nat} (address : Bytes) {slots : List Bytes} (hn : 0 < maxBatchSize)
    (h : maxBatchSize < slots.length) (fuel : Nat) :
    fetchAccountStorage node pageOrder block maxBatchSize ⟨address, some slots⟩ fuel =
      ⟨(slots.take (2 * maxBatchSize)).map (.getStorageAt address · block.number),
        .error (.panic "called after complete")⟩ := by
  choose val hval using hans.getStorageAt
  exact fetchAccountStorage_of_lt (hval address) hans.sendBatch hn h

theorem fetchAccountStorage_panics_past_first_batch_two_slots :
    fetchAccountStorage (Node.uniform [1]) PageOrder.asSent ⟨0, [], [], .ethereum, ⟨0, by decide, by decide⟩⟩ 1
        ⟨[1], some [[1], [2]]⟩ 0 =
      ⟨([[1], [2]].take (2 * 1)).map (.getStorageAt [1] · 0), .error (.panic "called after complete")⟩ :=
  fetchAccountStorage_panics_past_first_batch
    ⟨fun _ => rfl, fun _ => ⟨_, rfl⟩, fun _ => ⟨_, rfl⟩, fun _ _ => ⟨_, rfl⟩, fun _ _ => ⟨_, rfl⟩⟩
    _ (by decide) (by decide) _

/-- **A request of 20001 slots.** Against a node that answers every call, `get_accounts_at_block`
on one request of 20001 slots issues only 20000 `eth_getStorageAt` calls, the first two
sub-batches, and panics. -/
theorem getAccountsAtBlock_stops_after_two_storage_batches (hans : node.Answers block)
    (order : HashSetOrder StorageSnapshotRequest) (chain : Chain) (address slot : Bytes)
    (fuel : Nat) :
    (getAccountsAtBlock node pageOrder order chain block [⟨address, some (List.replicate 20001 slot)⟩]
        fuel).calls.count (.getStorageAt address slot block.number) = 20000 ∧
      (getAccountsAtBlock node pageOrder order chain block [⟨address, some (List.replicate 20001 slot)⟩]
        fuel).result = .error (.panic "called after complete") := by
  choose code hcode using hans.getCode
  choose balance hbalance using hans.getBalance
  have htake : (List.replicate 20001 slot).take (2 * 10000) = List.replicate 20000 slot := by
    rw [List.take_replicate]; rfl
  have hfetch : fetchAccountStorage node pageOrder block 10000 ⟨address, some (List.replicate 20001 slot)⟩
      fuel = ⟨(List.replicate 20000 slot).map (.getStorageAt address · block.number),
        .error (.panic "called after complete")⟩ := by
    rw [fetchAccountStorage_panics_past_first_batch hans address (by decide)
      (by rw [List.length_replicate]; decide) fuel, htake]
  set r : StorageSnapshotRequest := ⟨address, some (List.replicate 20001 slot)⟩
  simp only [getAccountsAtBlock, order.iter_singleton, Run.chunks_of_pos (by decide : 0 < 100),
    pure_bind, show chunks 100 [r] = [[r]] from rfl, List.foldlM_cons, processChunk,
    batchFetchAccountCodeAndBalance_of_answers hans.sendBatch (fun r _ => hcode r.address)
      (fun r _ => hbalance r.address), Run.ok_bind,
    List.map_cons, List.map_nil, hfetch, tryJoinAll, List.flatMap_cons, List.flatMap_nil,
    joinResults, Run.error_bind, List.append_nil, and_true]
  simp only [List.count_append, List.map_replicate, List.count_replicate_self, List.count_cons,
    List.count_nil, beq_iff_eq, reduceCtorEq, if_false]

theorem getAccountsAtBlock_stops_after_two_storage_batches_uniform :
    (getAccountsAtBlock (Node.uniform [1]) PageOrder.asSent HashSetOrder.dedup .ethereum
        ⟨0, [], [], .ethereum, ⟨0, by decide, by decide⟩⟩ [⟨[1], some (List.replicate 20001 [1])⟩]
        0).calls.count (.getStorageAt [1] [1] 0) = 20000 ∧
      (getAccountsAtBlock (Node.uniform [1]) PageOrder.asSent HashSetOrder.dedup .ethereum
        ⟨0, [], [], .ethereum, ⟨0, by decide, by decide⟩⟩ [⟨[1], some (List.replicate 20001 [1])⟩]
        0).result = .error (.panic "called after complete") :=
  @getAccountsAtBlock_stops_after_two_storage_batches (Node.uniform [1]) PageOrder.asSent
    ⟨0, [], [], .ethereum, ⟨0, by decide, by decide⟩⟩
    ⟨fun _ => rfl, fun _ => ⟨_, rfl⟩, fun _ => ⟨_, rfl⟩, fun _ _ => ⟨_, rfl⟩, fun _ _ => ⟨_, rfl⟩⟩
    HashSetOrder.dedup .ethereum [1] [1] 0

end EVMBatchAccountExtractor

end TychoIndexer
