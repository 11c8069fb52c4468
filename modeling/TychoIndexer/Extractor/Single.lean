import TychoIndexer.Extractor.BatchResults
import TychoIndexer.Decoder.Parts

/-!
# The single-call account extractor, against the batched one

`EVMAccountExtractor`, the account extractor for nodes without JSON-RPC batches. For a block and a
list of requests it reads every address as an `H160`, fetches all balances and all codes
concurrently, then, request by request, the whole storage through the `debug_storageRangeAt`
pagination, read into a map of `U256`s and written back as bytes. It keeps duplicate requests and
ignores listed slots.

* `getAccountsAtBlock_returnsIff` — the extractor returns exactly when the node serves every
  requested account, and otherwise fails with an `RPCError`;
* `getAccountsAtBlock_of_serves` — what it then returns;
* `getAccountsAtBlock_of_endless` — it runs out of fuel when the first request's pagination does
  not end, whatever the other requests;
* `lookup_slotsOf` — the round trip through `U256` changes no slot: the single-call slot map of a
  storage dump has the content of the batched one;
* `extractors_agree` — **refinement**: on whole-storage requests of 20-byte addresses, against a
  node that delivers batches, answers from one state and whose storage paginations end, the two
  extractors both fail with an `RPCError`, or both return the same deltas, whatever order each
  iterates the pages in;
* `extractors_disagree` — both conditions are needed: where one account's pagination never ends
  and another's fails, the single-call extractor never returns, while the batched one, which
  fetches the storages concurrently, fails; and where a page lists a slot twice with two values,
  two iteration orders keep different values.

`get_block_data` is modelled as it reads the node's block (`getBlockData`).
-/

namespace TychoIndexer

/-- A 20-byte address: `H160`. -/
abbrev H160 := {b : Bytes // b.length = 20}

/-- Modelled from the spec: `H160::from_bytes` of the crate's `BytesCodec`, which is not among the
sources. The codec is total on inputs of the expected width; its call site takes the result as an
`H160`, so another width can only panic. -/
def H160.fromBytes (b : Bytes) : Run H160 :=
  if h : b.length = 20 then pure ⟨b, h⟩ else Run.panic "width mismatch"

/-- Modelled from the spec: `H256::from_bytes` of `BytesCodec`, as `H160.fromBytes`. -/
def H256.fromBytes (b : Bytes) : Run H256 :=
  if h : b.length = 32 then pure ⟨b, h⟩ else Run.panic "width mismatch"

/-- `U256::from(word.as_bytes())`: a 32-byte word read as a big-endian integer. -/
def U256.fromH256 (w : H256) : U256 :=
  ⟨fromBigEndian w.val, by
    have h := fromBigEndian_lt w.val
    rw [w.property] at h
    exact h.trans_le (by decide)⟩

/-- Modelled from the spec: `U256::to_bytes` of `BytesCodec`, the 32 big-endian bytes of the
integer, as balances are stored. -/
def U256.toBytes (n : U256) : Bytes := toBeBytes 32 n.val

@[simp] theorem U256.length_toBytes (n : U256) : n.toBytes.length = 32 := length_toBeBytes _ _

/-- **The `U256` round trip.** A word read as a `U256` and written back is the word. -/
theorem U256.toBytes_fromH256 (w : H256) : (U256.fromH256 w).toBytes = w.val := by
  have h := toBeBytes_fromBigEndian w.val
  rwa [w.property] at h

theorem U256.fromH256_injective : Function.Injective U256.fromH256 := fun a b h =>
  Subtype.ext (by rw [← U256.toBytes_fromH256 a, ← U256.toBytes_fromH256 b, h])

theorem U256.toBytes_injective : Function.Injective U256.toBytes := fun a b h => by
  have h' := congrArg fromBigEndian h
  simp only [U256.toBytes, fromBigEndian_toBeBytes] at h'
  rwa [Nat.mod_eq_of_lt (a.isLt.trans_le (by decide)),
    Nat.mod_eq_of_lt (b.isLt.trans_le (by decide)), Fin.val_inj] at h'

/-- `AccountDelta`'s `PartialEq`: field by field, with the slot maps compared as Rust compares
`HashMap`s, by content. -/
def AccountDelta.Equiv (d₁ d₂ : AccountDelta) : Prop :=
  d₁.address = d₂.address ∧ d₁.chain = d₂.chain ∧ (∀ k, d₁.slots.lookup k = d₂.slots.lookup k) ∧
    d₁.balance = d₂.balance ∧ d₁.code = d₂.code ∧ d₁.change = d₂.change

namespace EVMAccountExtractor

variable (node : Node) (pageOrder : PageOrder)

/-- `get_storage_range` of the single-call extractor: the pagination of `address` at `block`,
with the entries read as `U256`s; an error of the node is returned as it is. -/
def getStorageRange (address : H160) (block : H256) (fuel : Nat) : Run (HashMap U256 U256) :=
  storageRangeLoop node pageOrder block.val address.val U256.fromH256 U256.fromH256 .requestError fuel
    H256.zero ∅

/-- One iteration of the loop of `get_accounts_at_block` over the addresses: the delta of the
`i`-th request, with the whole storage of its address. -/
def extractAccount (chain : Chain) (block : Block) (requests : List StorageSnapshotRequest)
    (balances : List U256) (codes : List Bytes) (fuel : Nat)
    (updates : HashMap Bytes AccountDelta) (entry : Nat × H160) :
    Run (HashMap Bytes AccountDelta) := do
  let (i, address) := entry
  let balance ← Run.index balances i
  let code ← Run.index codes i
  let _ ← Run.expect requests[i]? "Request should exist"
  let blockHash ← H256.fromBytes block.hash
  let storage ← getStorageRange node pageOrder address blockHash fuel
  let slots := HashMap.insertAll (fun e => U256.toBytes e.1) (fun e => some (U256.toBytes e.2)) ∅
    storage.entries
  pure (updates.insert address.val
    { address := address.val, chain, slots, balance := some balance.toBytes, code := some code,
      change := .creation })

/-- `get_accounts_at_block` of `EVMAccountExtractor`. -/
def getAccountsAtBlock (chain : Chain) (block : Block) (requests : List StorageSnapshotRequest)
    (fuel : Nat) : Run (HashMap Bytes AccountDelta) := do
  let h160Addresses ← requests.mapM fun request => H160.fromBytes request.address
  let balanceFutures := h160Addresses.map fun address =>
    Run.call (.getBalance address.val block.number) (node.getBalance address.val block.number)
      .requestError
  let codeFutures := h160Addresses.map fun address =>
    Run.call (.getCode address.val block.number) (node.getCode address.val block.number)
      .requestError
  let (balances, codes) ← Run.both (tryJoinAll balanceFutures) (tryJoinAll codeFutures)
  h160Addresses.enum.foldlM (extractAccount node pageOrder chain block requests balances codes fuel) ∅

end EVMAccountExtractor

/-! ### Runs of the single-call extractor -/

namespace EVMAccountExtractor

variable {node : Node} {pageOrder : PageOrder} {block : Block} {fuel : Nat}

/-- The slot map the single-call extractor makes of a storage dump: the entries read as `U256`s,
then written back as bytes, every value `Some`. -/
def slotsOf (dump : List StorageEntry) : HashMap Bytes (Option Bytes) :=
  HashMap.insertAll (fun e => U256.toBytes e.1) (fun e => some (U256.toBytes e.2)) ∅
    (HashMap.insertAll (U256.fromH256 ·.key) (U256.fromH256 ·.value) ∅ dump).entries

/-- The delta the single-call extractor makes of an address, from its balance, code and storage
dump. -/
def accountDelta (chain : Chain) (balance : U256) (code : Bytes) (dump : List StorageEntry)
    (address : Bytes) : AccountDelta :=
  { address, chain, slots := slotsOf dump, balance := some balance.toBytes, code := some code,
    change := .creation }

theorem mapM_fromBytes {requests : List StorageSnapshotRequest}
    (hwidth : ∀ r ∈ requests, r.address.length = 20) :
    ∃ addresses : List H160, requests.mapM (fun r => H160.fromBytes r.address) = pure addresses ∧
      addresses.map (·.val) = requests.map (·.address) := by
  induction requests with
  | nil => exact ⟨[], rfl, rfl⟩
  | cons r rs ih =>
    obtain ⟨addresses, hmap, hval⟩ := ih fun r' h => hwidth r' (List.mem_cons_of_mem _ h)
    have hr := hwidth r (List.mem_cons_self _ _)
    refine ⟨⟨r.address, hr⟩ :: addresses, ?_, by simp [hval]⟩
    rw [List.mapM_cons, hmap]
    simp only [H160.fromBytes, dif_pos hr, pure_bind]

/-- One iteration at an address whose pagination ends with every page answered. -/
theorem extractAccount_of_pages (chain : Chain) (requests : List StorageSnapshotRequest)
    {balances : List U256} {codes : List Bytes} {i : Nat} {balance : U256} {code : Bytes}
    (hb : balances[i]? = some balance) (hc : codes[i]? = some code) (hr : i < requests.length)
    (hhash : block.hash.length = 32) {address : H160} {pages : List (H256 × StorageRange)}
    (hpages : node.storagePages block.hash address.val fuel H256.zero = some (.ok pages))
    (updates : HashMap Bytes AccountDelta) :
    extractAccount node pageOrder chain block requests balances codes fuel updates (i, address) =
      ⟨pages.map fun p => .storageRangeAt block.hash 0 address.val p.1 100000,
        .ok (updates.insert address.val (accountDelta chain balance code
          (pageOrder.entries block.hash address.val pages) address.val))⟩ := by
  simp [extractAccount, Run.index_of_getElem? hb, Run.index_of_getElem? hc,
    List.getElem?_eq_getElem hr,
    Run.expect, H256.fromBytes, hhash, getStorageRange, storageRangeLoop_of_pages hpages,
    accountDelta, slotsOf]

/-- One iteration at an address whose pagination ends: it returns exactly when every page is
answered. -/
theorem extractAccount_returnsIff (chain : Chain) (requests : List StorageSnapshotRequest)
    {balances : List U256} {codes : List Bytes} {i : Nat} (hb : i < balances.length)
    (hc : i < codes.length) (hr : i < requests.length) (hhash : block.hash.length = 32)
    {address : H160} (hend : (node.storagePages block.hash address.val fuel H256.zero).isSome)
    (updates : HashMap Bytes AccountDelta) :
    (extractAccount node pageOrder chain block requests balances codes fuel updates (i, address)).ReturnsIff
      (∃ pages, node.storagePages block.hash address.val fuel H256.zero = some (.ok pages)) := by
  simp only [extractAccount, Run.index_of_lt hb, Run.index_of_lt hc, List.getElem?_eq_getElem hr,
    Run.expect, H256.fromBytes, hhash, dite_true, pure_bind]
  exact ((storageRangeLoop_returnsIff hend ∅).bind fun _ _ => Run.returnsIff_pure _).congr
    (and_iff_left trivial)

/-- One iteration at an address whose pagination does not end runs out of fuel. -/
theorem extractAccount_of_none (chain : Chain) (requests : List StorageSnapshotRequest)
    {balances : List U256} {codes : List Bytes} {i : Nat} (hb : i < balances.length)
    (hc : i < codes.length) (hr : i < requests.length) (hhash : block.hash.length = 32)
    {address : H160} (hnone : node.storagePages block.hash address.val fuel H256.zero = none)
    (updates : HashMap Bytes AccountDelta) :
    (extractAccount node pageOrder chain block requests balances codes fuel updates (i, address)).result =
      .error .outOfFuel := by
  simp only [extractAccount, Run.index_of_lt hb, Run.index_of_lt hc, List.getElem?_eq_getElem hr,
    Run.expect, H256.fromBytes, hhash, dite_true, pure_bind]
  exact Run.result_bind_of_error (storageRangeLoop_of_none hnone ∅) _

theorem foldlM_extractAccount {balance : Bytes → U256} {code : Bytes → Bytes}
    {pages : Bytes → List (H256 × StorageRange)} (chain : Chain) (hhash : block.hash.length = 32)
    (requests : List StorageSnapshotRequest) (pre : List H160) {xs : List H160}
    (hpages : ∀ a ∈ xs,
      node.storagePages block.hash a.val fuel H256.zero = some (.ok (pages a.val)))
    (hlen : pre.length + xs.length ≤ requests.length) (updates : HashMap Bytes AccountDelta) :
    (xs.enumFrom pre.length).foldlM
        (extractAccount node pageOrder chain block requests ((pre ++ xs).map fun a => balance a.val)
          ((pre ++ xs).map fun a => code a.val) fuel) updates =
      ⟨xs.flatMap fun a => (pages a.val).map fun p => .storageRangeAt block.hash 0 a.val p.1 100000,
        .ok (HashMap.insertAll (·.val) (fun a => accountDelta chain (balance a.val) (code a.val)
          (pageOrder.entries block.hash a.val (pages a.val)) a.val) updates xs)⟩ := by
  induction xs generalizing pre updates with
  | nil => rfl
  | cons a xs ih =>
    have := ih (pre ++ [a]) (fun a' h => hpages a' (List.mem_cons_of_mem _ h))
      (by simp at hlen ⊢; omega) (updates.insert a.val (accountDelta chain (balance a.val)
        (code a.val) (pageOrder.entries block.hash a.val (pages a.val)) a.val))
    simp only [List.append_assoc, List.singleton_append, List.length_append,
      List.length_singleton] at this
    simp only [List.length_cons] at hlen
    have hb : ((pre ++ a :: xs).map fun a => balance a.val)[pre.length]? = some (balance a.val) := by
      rw [List.map_append, List.getElem?_append_right (by simp)]
      simp only [List.length_map, Nat.sub_self, List.map_cons, List.getElem?_cons_zero]
    have hc : ((pre ++ a :: xs).map fun a => code a.val)[pre.length]? = some (code a.val) := by
      rw [List.map_append, List.getElem?_append_right (by simp)]
      simp only [List.length_map, Nat.sub_self, List.map_cons, List.getElem?_cons_zero]
    rw [List.enumFrom_cons, List.foldlM_cons, extractAccount_of_pages chain requests hb hc
      (by omega) hhash (hpages a (List.mem_cons_self _ _)), Run.ok_bind, this]
    simp

theorem mem_of_map_val {requests : List StorageSnapshotRequest} {addresses : List H160}
    (hval : addresses.map (·.val) = requests.map (·.address)) :
    ∀ a ∈ addresses, ∃ r ∈ requests, r.address = a.val := fun a ha => by
  have : a.val ∈ requests.map (·.address) := hval ▸ List.mem_map_of_mem _ ha
  simpa using this

/-- Once the node answers every balance and code, the single-call extractor ends as its loop over
the addresses ends. -/
theorem getAccountsAtBlock_result_of_answers {balance : Bytes → U256} {code : Bytes → Bytes}
    (chain : Chain) {requests : List StorageSnapshotRequest}
    (hwidth : ∀ r ∈ requests, r.address.length = 20)
    (hbalance : ∀ r ∈ requests, node.getBalance r.address block.number = .ok (balance r.address))
    (hcode : ∀ r ∈ requests, node.getCode r.address block.number = .ok (code r.address)) :
    ∃ addresses : List H160, addresses.map (·.val) = requests.map (·.address) ∧
      (getAccountsAtBlock node pageOrder chain block requests fuel).result =
        (addresses.enum.foldlM (extractAccount node pageOrder chain block requests
          (addresses.map fun a => balance a.val) (addresses.map fun a => code a.val) fuel) ∅).result := by
  obtain ⟨addresses, hmap, hval⟩ := mapM_fromBytes hwidth
  have hmem := mem_of_map_val hval
  have hbal := @tryJoinAll_map_of_ok _ _ (fun a : H160 => Run.call (.getBalance a.val block.number)
    (node.getBalance a.val block.number) .requestError) (fun a => balance a.val) addresses
    fun a ha => by
      obtain ⟨r, hr, hra⟩ := hmem a ha
      simp [Run.call, ← hra, hbalance r hr, Except.mapError]
  have hcod := @tryJoinAll_map_of_ok _ _ (fun a : H160 => Run.call (.getCode a.val block.number)
    (node.getCode a.val block.number) .requestError) (fun a => code a.val) addresses
    fun a ha => by
      obtain ⟨r, hr, hra⟩ := hmem a ha
      simp [Run.call, ← hra, hcode r hr, Except.mapError]
  refine ⟨addresses, hval, ?_⟩
  simp only [getAccountsAtBlock, hmap, pure_bind, hbal, hcod, Run.both_ok, Run.ok_bind]

/-- **What the single-call extractor returns**, when the node serves every requested account:
the deltas of the requested addresses, keyed by address. -/
theorem getAccountsAtBlock_of_serves {balance : Bytes → U256} {code : Bytes → Bytes}
    {pages : Bytes → List (H256 × StorageRange)} (chain : Chain)
    {requests : List StorageSnapshotRequest} (hwidth : ∀ r ∈ requests, r.address.length = 20)
    (hhash : block.hash.length = 32)
    (hbalance : ∀ r ∈ requests, node.getBalance r.address block.number = .ok (balance r.address))
    (hcode : ∀ r ∈ requests, node.getCode r.address block.number = .ok (code r.address))
    (hpages : ∀ r ∈ requests,
      node.storagePages block.hash r.address fuel H256.zero = some (.ok (pages r.address))) :
    ∃ addresses : List H160, addresses.map (·.val) = requests.map (·.address) ∧
      (getAccountsAtBlock node pageOrder chain block requests fuel).result =
        .ok (HashMap.insertAll (·.val) (fun a => accountDelta chain (balance a.val) (code a.val)
          (pageOrder.entries block.hash a.val (pages a.val)) a.val) ∅ addresses) := by
  obtain ⟨addresses, hval, hres⟩ := getAccountsAtBlock_result_of_answers chain hwidth hbalance hcode
  have hmem := mem_of_map_val hval
  have hlen : addresses.length = requests.length := by simpa using congrArg List.length hval
  have hfold := @foldlM_extractAccount node pageOrder block fuel balance code pages chain hhash
    requests [] addresses (fun a ha => by
      obtain ⟨r, hr, hra⟩ := hmem a ha
      rw [← hra]; exact hpages r hr) (by simp [hlen]) ∅
  simp only [List.nil_append, List.length_nil] at hfold
  exact ⟨addresses, hval, by rw [hres, List.enum, hfold]⟩

/-- **The single-call extractor hangs on an endless pagination.** When the node answers every
balance and code, and the pagination of the first request's address does not end within the
fuel, the extractor runs out of fuel, whatever the other requests: it fetches the storages one
request after the other. -/
theorem getAccountsAtBlock_of_endless {balance : Bytes → U256} {code : Bytes → Bytes}
    (chain : Chain) {r : StorageSnapshotRequest} {requests : List StorageSnapshotRequest}
    (hwidth : ∀ r' ∈ r :: requests, r'.address.length = 20) (hhash : block.hash.length = 32)
    (hbalance : ∀ r' ∈ r :: requests,
      node.getBalance r'.address block.number = .ok (balance r'.address))
    (hcode : ∀ r' ∈ r :: requests, node.getCode r'.address block.number = .ok (code r'.address))
    (hnone : node.storagePages block.hash r.address fuel H256.zero = none) :
    (getAccountsAtBlock node pageOrder chain block (r :: requests) fuel).result = .error .outOfFuel := by
  obtain ⟨addresses, hval, hres⟩ := getAccountsAtBlock_result_of_answers chain hwidth hbalance hcode
  cases addresses with
  | nil => cases hval
  | cons a addresses =>
    have ha : a.val = r.address := (List.cons_eq_cons.mp hval).1
    rw [hres, List.enum_cons, List.foldlM_cons]
    exact Run.result_bind_of_error (extractAccount_of_none chain _ (by exact Nat.succ_pos _)
      (by exact Nat.succ_pos _) (by exact Nat.succ_pos _) hhash (by rw [ha]; exact hnone) ∅) _

/-- **When the single-call extractor returns.** For requests of 20-byte addresses at a block with a
32-byte hash, whose paginations end within the fuel, `get_accounts_at_block` returns exactly when
the node serves every requested account, and otherwise fails with an `RPCError`. -/
theorem getAccountsAtBlock_returnsIff (chain : Chain) {requests : List StorageSnapshotRequest}
    (hwidth : ∀ r ∈ requests, r.address.length = 20) (hhash : block.hash.length = 32)
    (hend : ∀ r ∈ requests, (node.storagePages block.hash r.address fuel H256.zero).isSome) :
    (getAccountsAtBlock node pageOrder chain block requests fuel).ReturnsIff
      (∀ r ∈ requests, node.ServesAccount block fuel r.address) := by
  obtain ⟨addresses, hmap, hval⟩ := mapM_fromBytes hwidth
  have hall : ∀ P : Bytes → Prop, (∀ a ∈ addresses, P a.val) ↔ ∀ r ∈ requests, P r.address :=
    fun P => by
      simpa only [List.forall_mem_map] using (show (∀ b ∈ addresses.map (·.val), P b) ↔
        ∀ b ∈ requests.map (·.address), P b by rw [hval])
  have henum : ∀ P : H160 → Prop, (∀ x ∈ addresses.enum, P x.2) ↔ ∀ a ∈ addresses, P a :=
    fun P => ⟨fun h a ha => by
      rw [← List.enum_map_snd addresses] at ha
      obtain ⟨x, hx, rfl⟩ := List.mem_map.mp ha
      exact h x hx, fun h x hx => h _ (List.snd_mem_of_mem_enumFrom hx)⟩
  have hlen : addresses.length = requests.length := by simpa using congrArg List.length hval
  have hcall : ∀ {α : Type} (answer : H160 → Except String α) (c : H160 → Call),
      (tryJoinAll (addresses.map fun a => Run.call (c a) (answer a) .requestError)).ReturnsIff
        (∀ a ∈ addresses, ∃ v, answer a = .ok v) := fun answer c =>
    (@Run.returnsIff_tryJoinAll _ _ (fun run => ∃ v, run.result = .ok v) fun run hrun =>
      ⟨(by obtain ⟨a, -, rfl⟩ := List.mem_map.mp hrun; exact (Run.returnsIff_call _ _ _).settles),
        Iff.rfl⟩).congr (by
      rw [List.forall_mem_map]
      exact forall₂_congr fun a _ => (Run.returnsIff_call _ _ _).ok_iff)
  have hsteps : ∀ balances codes, balances.length = addresses.length →
      codes.length = addresses.length →
      (addresses.enum.foldlM (extractAccount node pageOrder chain block requests balances codes fuel) ∅).ReturnsIff
        (∀ x ∈ addresses.enum,
          ∃ pages, node.storagePages block.hash x.2.val fuel H256.zero = some (.ok pages)) :=
    fun balances codes hb hc => Run.returnsIff_foldlM (fun s x hx => by
      have hi := List.fst_lt_of_mem_enum hx
      have ha : x.2 ∈ addresses := List.snd_mem_of_mem_enumFrom hx
      obtain ⟨i, a⟩ := x
      exact extractAccount_returnsIff chain requests (by omega) (by omega) (by omega) hhash
        ((hall fun b => (node.storagePages block.hash b fuel H256.zero).isSome).mpr hend a ha) s) ∅
  simp only [getAccountsAtBlock, hmap, pure_bind]
  refine ((Run.returnsIff_both (hcall (fun a => node.getBalance a.val block.number) _)
    (hcall (fun a => node.getCode a.val block.number) _)).bind fun ⟨balances, codes⟩ h => by
      obtain ⟨h₁, h₂⟩ := Run.both_result_ok h
      exact hsteps balances codes (by simpa using length_of_joinResults h₁)
        (by simpa using length_of_joinResults h₂)).congr ?_
  have hb := hall fun b => ∃ v, node.getBalance b block.number = .ok v
  have hc := hall fun b => ∃ v, node.getCode b block.number = .ok v
  have hp := hall fun b => ∃ pages, node.storagePages block.hash b fuel H256.zero = some (.ok pages)
  have he := henum fun a => ∃ pages,
    node.storagePages block.hash a.val fuel H256.zero = some (.ok pages)
  beta_reduce at hb hc hp he
  rw [he, hb, hc, hp]
  exact ⟨fun ⟨⟨hb, hc⟩, hp⟩ r hr => ⟨hc r hr, hb r hr, hp r hr⟩,
    fun h => ⟨⟨fun r hr => (h r hr).2.1, fun r hr => (h r hr).1⟩, fun r hr => (h r hr).2.2⟩⟩

/-- **The `U256` round trip on slots.** The single-call slot map of a storage dump has the content
of the batched one: a key is a 32-byte word of the dump, with the dump's last value for it. -/
theorem lookup_slotsOf (dump : List StorageEntry) (k : Bytes) :
    (slotsOf dump).lookup k = (HashMap.insertAll (·.1) (some ·.2) ∅
      (HashMap.insertAll (·.key.val) (·.value.val) ∅ dump).entries).lookup k := by
  have hbatch : (HashMap.insertAll (·.1) (some ·.2) ∅
      (HashMap.insertAll (·.key.val) (·.value.val) ∅ dump).entries).lookup k =
      ((HashMap.insertAll (·.key.val) (·.value.val) ∅ dump).lookup k).map some :=
    HashMap.lookup_insertAll_entries Function.injective_id some _ k
  rw [hbatch]
  by_cases hk : k.length = 32
  · have hw : k = (U256.fromH256 ⟨k, hk⟩).toBytes := (U256.toBytes_fromH256 ⟨k, hk⟩).symm
    have hsingle : (slotsOf dump).lookup (U256.fromH256 ⟨k, hk⟩).toBytes =
        ((HashMap.insertAll (U256.fromH256 ·.key) (U256.fromH256 ·.value) ∅ dump).lookup
          (U256.fromH256 ⟨k, hk⟩)).map fun v : U256 => some v.toBytes :=
      HashMap.lookup_insertAll_entries U256.toBytes_injective (fun v : U256 => some v.toBytes) _ _
    have hp : (fun e : StorageEntry => decide (U256.fromH256 e.key = U256.fromH256 ⟨k, hk⟩)) =
        fun e => decide (e.key.val = k) :=
      funext fun e => decide_eq_decide.mpr (U256.fromH256_injective.eq_iff.trans Subtype.ext_iff)
    conv_lhs => rw [hw]
    rw [hsingle]
    simp only [HashMap.lookup_insertAll, AList.lookup_empty, Option.or_none, Option.map_map, hp]
    exact congrArg (Option.map · _) (funext fun e => congrArg some (U256.toBytes_fromH256 e.value))
  · have hnot : ∀ n : U256, n.toBytes ≠ k := fun n h => hk (h ▸ n.length_toBytes)
    have hnone : (HashMap.insertAll (·.key.val) (·.value.val) ∅ dump).lookup k = none := by
      rw [HashMap.lookup_insertAll, AList.lookup_empty, Option.or_none, Option.map_eq_none',
        List.find?_eq_none]
      exact fun e _ h => hk (of_decide_eq_true h ▸ e.key.property)
    rw [hnone]
    exact HashMap.lookup_insertAll_entries_of_not_mem (fun v : U256 => some v.toBytes) _ hnot

/-- **The two extractors agree.** For whole-storage requests of 20-byte addresses at a block with a
32-byte hash, against a node that delivers batches, answers from one state of the block, and whose
storage paginations all end within the fuel, the single-call and the batched `get_accounts_at_block`
both fail with an `RPCError`, or both return maps with the same keys whose deltas are equal as Rust
values, whatever order each iterates the pages in. -/
theorem extractors_agree (hsend : ∀ calls, node.sendBatch calls = .ok ())
    (hstate : node.FromOneState block) (pageOrder₁ pageOrder₂ : PageOrder)
    (order : HashSetOrder StorageSnapshotRequest) (chain : Chain)
    {requests : List StorageSnapshotRequest} (hwidth : ∀ r ∈ requests, r.address.length = 20)
    (hnone : ∀ r ∈ requests, r.slots = none) (hhash : block.hash.length = 32)
    (hend : ∀ r ∈ requests, (node.storagePages block.hash r.address fuel H256.zero).isSome) :
    (∃ e₁ e₂,
      (getAccountsAtBlock node pageOrder₁ chain block requests fuel).result = .error (.error e₁) ∧
      (EVMBatchAccountExtractor.getAccountsAtBlock node pageOrder₂ order chain block requests
        fuel).result = .error (.error e₂)) ∨
    ∃ m₁ m₂, (getAccountsAtBlock node pageOrder₁ chain block requests fuel).result = .ok m₁ ∧
      (EVMBatchAccountExtractor.getAccountsAtBlock node pageOrder₂ order chain block requests
        fuel).result = .ok m₂ ∧
      ∀ a, Option.Rel AccountDelta.Equiv (m₁.lookup a) (m₂.lookup a) := by
  by_cases hall : ∀ r ∈ requests, node.ServesAccount block fuel r.address
  swap
  · -- an account is not served: both fail
    obtain ⟨e₁, h₁⟩ :=
      (@getAccountsAtBlock_returnsIff node pageOrder₁ block fuel chain requests hwidth hhash
        hend).fails hall
    obtain ⟨e₂, h₂⟩ := (@EVMBatchAccountExtractor.getAccountsAtBlock_returnsIff node pageOrder₂
      block fuel hsend order chain requests hnone hend).fails hall
    exact .inl ⟨e₁, e₂, h₁, h₂⟩
  -- every account is served: both return, with the node's answers
  right
  obtain ⟨code, balance, pages, hans⟩ := node.exists_answers block fuel
  have hcode := fun r (hr : r ∈ requests) => (hans _ (hall r hr)).1
  have hbalance := fun r (hr : r ∈ requests) => (hans _ (hall r hr)).2.1
  have hpages := fun r (hr : r ∈ requests) => (hans _ (hall r hr)).2.2
  obtain ⟨addresses, hval, h₁⟩ := @getAccountsAtBlock_of_serves node pageOrder₁ block fuel balance
    code pages chain requests hwidth hhash hbalance hcode hpages
  have hfetch : ∀ r ∈ requests,
      EVMBatchAccountExtractor.fetchAccountStorage node pageOrder₂ block 10000 r fuel =
        ⟨(pages r.address).map fun p => .storageRangeAt block.hash 0 r.address p.1 100000,
          .ok (HashMap.insertAll (·.1) (some ·.2) ∅ (HashMap.insertAll (·.key.val) (·.value.val) ∅
            (pageOrder₂.entries block.hash r.address (pages r.address))).entries)⟩ := by
    rintro ⟨address, slots⟩ hr
    obtain rfl : slots = none := hnone _ hr
    exact EVMBatchAccountExtractor.fetchAccountStorage_of_pages (hpages _ hr)
  have h₂ := EVMBatchAccountExtractor.getAccountsAtBlock_of_fetch hsend order chain hcode hbalance
    hfetch
  have haddr : ∀ a, (∃ x ∈ addresses, x.val = a) ↔ ∃ r ∈ requests, r.address = a := fun a => by
    simpa only [List.mem_map] using (congrArg (a ∈ ·) hval).to_iff
  refine ⟨_, _, h₁, congrArg Run.result h₂, fun a => HashMap.rel_lookup_insertAll a ?_ ?_⟩
  · -- the same keys: the requested addresses
    rw [haddr]
    exact exists_congr fun r => and_congr_left fun _ => (order.mem_iter _ _).symm
  · -- the same delta for each, the slots recorded from one state in either order
    rintro x - ⟨address, slots⟩ hr hx rfl
    replace hr := (order.mem_iter _ _).mp hr
    obtain rfl : slots = none := hnone _ hr
    refine ⟨hx, rfl, fun k => ?_, by simp [accountDelta, EVMBatchAccountExtractor.deltaOf, hx,
      U256.toBytes], by simp [accountDelta, EVMBatchAccountExtractor.deltaOf, hx], rfl⟩
    obtain ⟨p₁, hp₁, h₁⟩ := @EVMBatchAccountExtractor.slotsRecorded_of_pages node pageOrder₁ block
      fuel hstate address _ (hpages _ hr)
    obtain ⟨p₂, hp₂, h₂⟩ := @EVMBatchAccountExtractor.slotsRecorded_of_pages node pageOrder₂ block
      fuel hstate address _ (hpages _ hr)
    obtain rfl : p₁ = p₂ := by simpa using hp₁.symm.trans hp₂
    simp only [accountDelta, EVMBatchAccountExtractor.deltaOf, hx]
    exact (lookup_slotsOf _ k).trans (Option.ext fun o => (h₁ k o).trans (h₂ k o).symm)

/-- A node at which every account has no code, a zero balance, and the storage `page`, in one
page. -/
def Node.ofPage (page : List StorageEntry) : Node where
  getCode _ _ := .ok []
  getBalance _ _ := .ok 0
  getStorageAt _ _ _ := .ok []
  storageRangeAt _ _ _ := .ok ⟨page, none⟩
  sendBatch _ := .ok ()

/-- The word of 32 copies of a byte. -/
def H256.replicate (b : UInt8) : H256 := ⟨List.replicate 32 b, List.length_replicate _ _⟩

/-- Two accounts of one slot each, both paginations of one page: the extractors agree. -/
theorem extractors_agree_two_accounts :
    (∃ e₁ e₂, (getAccountsAtBlock (Node.ofPage [⟨H256.replicate 1, H256.replicate 2⟩])
        PageOrder.asSent .ethereum ⟨0, List.replicate 32 0, [], .ethereum, ⟨0, by decide, by decide⟩⟩
        [⟨List.replicate 20 1, none⟩, ⟨List.replicate 20 2, none⟩] 1).result = .error (.error e₁) ∧
      (EVMBatchAccountExtractor.getAccountsAtBlock (Node.ofPage [⟨H256.replicate 1, H256.replicate 2⟩])
        PageOrder.reversed HashSetOrder.dedup .ethereum
        ⟨0, List.replicate 32 0, [], .ethereum, ⟨0, by decide, by decide⟩⟩
        [⟨List.replicate 20 1, none⟩, ⟨List.replicate 20 2, none⟩] 1).result = .error (.error e₂)) ∨
    ∃ m₁ m₂, (getAccountsAtBlock (Node.ofPage [⟨H256.replicate 1, H256.replicate 2⟩])
        PageOrder.asSent .ethereum ⟨0, List.replicate 32 0, [], .ethereum, ⟨0, by decide, by decide⟩⟩
        [⟨List.replicate 20 1, none⟩, ⟨List.replicate 20 2, none⟩] 1).result = .ok m₁ ∧
      (EVMBatchAccountExtractor.getAccountsAtBlock (Node.ofPage [⟨H256.replicate 1, H256.replicate 2⟩])
        PageOrder.reversed HashSetOrder.dedup .ethereum
        ⟨0, List.replicate 32 0, [], .ethereum, ⟨0, by decide, by decide⟩⟩
        [⟨List.replicate 20 1, none⟩, ⟨List.replicate 20 2, none⟩] 1).result = .ok m₂ ∧
      ∀ a, Option.Rel AccountDelta.Equiv (m₁.lookup a) (m₂.lookup a) :=
  @extractors_agree (Node.ofPage [⟨H256.replicate 1, H256.replicate 2⟩])
    ⟨0, List.replicate 32 0, [], .ethereum, ⟨0, by decide, by decide⟩⟩ 1 (fun _ => rfl)
    ⟨fun _ _ => some (List.replicate 32 2), fun _ _ _ h e he => by
      cases h
      rw [List.mem_singleton.mp he]
      rfl⟩
    PageOrder.asSent PageOrder.reversed HashSetOrder.dedup .ethereum
    [⟨List.replicate 20 1, none⟩, ⟨List.replicate 20 2, none⟩] (by decide) (by decide) rfl
    (fun _ _ => rfl)

/-- A node whose storage pagination of `endless` never ends: each page is empty and points back
to the zero key. The storage range of any other account fails; codes and balances are served. -/
def Node.endlessPagination (endless : Bytes) : Node where
  getCode _ _ := .ok []
  getBalance _ _ := .ok 0
  getStorageAt _ _ _ := .ok []
  storageRangeAt _ a _ :=
    if a = endless then .ok ⟨[], some H256.zero⟩ else .error "missing trie node"
  sendBatch _ := .ok ()

theorem Node.storagePages_endlessPagination (endless blockHash : Bytes) (fuel : Nat)
    (startKey : H256) :
    (Node.endlessPagination endless).storagePages blockHash endless fuel startKey = none := by
  induction fuel generalizing startKey with
  | zero => rfl
  | succ fuel ih =>
    have hpage : (Node.endlessPagination endless).storageRangeAt blockHash endless startKey =
        .ok ⟨[], some H256.zero⟩ := if_pos rfl
    simp only [Node.storagePages, hpage, ih, Option.map_none']

/-- The two conditions of the agreement are needed. Two whole-storage requests, the first with an
endless pagination and the second with a failing one: at every fuel the single-call extractor is
still paging the first, while the batched one has failed on the second. And one page that lists
slot `0x01…01` twice, with the values `0x02…02` and `0x03…03`: a node that does not answer from
one state. The single-call extractor, iterating the page as sent, keeps the second value, and the
batched one, iterating it reversed, keeps the first. -/
theorem extractors_disagree :
    ((∀ fuel, (getAccountsAtBlock (Node.endlessPagination (List.replicate 20 1)) PageOrder.asSent
        .ethereum ⟨0, List.replicate 32 0, [], .ethereum, ⟨0, by decide, by decide⟩⟩
        [⟨List.replicate 20 1, none⟩, ⟨List.replicate 20 2, none⟩] (fuel + 1)).result =
      .error .outOfFuel) ∧
    ∀ (pageOrder : PageOrder) (order : HashSetOrder StorageSnapshotRequest) (fuel : Nat), ∃ e,
      (EVMBatchAccountExtractor.getAccountsAtBlock (Node.endlessPagination (List.replicate 20 1))
        pageOrder order .ethereum ⟨0, List.replicate 32 0, [], .ethereum, ⟨0, by decide, by decide⟩⟩
        [⟨List.replicate 20 1, none⟩, ⟨List.replicate 20 2, none⟩] (fuel + 1)).result =
      .error (.error e)) ∧
    ∃ m₁ m₂ d₁ d₂,
      (getAccountsAtBlock (Node.ofPage [⟨H256.replicate 1, H256.replicate 2⟩,
          ⟨H256.replicate 1, H256.replicate 3⟩]) PageOrder.asSent .ethereum
        ⟨0, List.replicate 32 0, [], .ethereum, ⟨0, by decide, by decide⟩⟩
        [⟨List.replicate 20 1, none⟩] 1).result = .ok m₁ ∧
      (EVMBatchAccountExtractor.getAccountsAtBlock (Node.ofPage [⟨H256.replicate 1, H256.replicate 2⟩,
          ⟨H256.replicate 1, H256.replicate 3⟩]) PageOrder.reversed HashSetOrder.dedup .ethereum
        ⟨0, List.replicate 32 0, [], .ethereum, ⟨0, by decide, by decide⟩⟩
        [⟨List.replicate 20 1, none⟩] 1).result = .ok m₂ ∧
      m₁.lookup (List.replicate 20 1) = some d₁ ∧ m₂.lookup (List.replicate 20 1) = some d₂ ∧
      d₁.slots.lookup (List.replicate 32 1) = some (some (List.replicate 32 3)) ∧
      d₂.slots.lookup (List.replicate 32 1) = some (some (List.replicate 32 2)) := by
  refine ⟨⟨fun fuel => ?_, fun pageOrder order fuel => ?_⟩, _, _, _, _, rfl, rfl, rfl, rfl, rfl, rfl⟩
  · -- the single-call extractor pages the first account forever
    exact @getAccountsAtBlock_of_endless _ _ _ _ (fun _ => 0) (fun _ => []) .ethereum _ _
      (by decide) rfl (fun _ _ => rfl) (fun _ _ => rfl) (Node.storagePages_endlessPagination _ _ _ _)
  · -- the batched one fails on the second
    obtain ⟨e, he⟩ : ∃ e, (EVMBatchAccountExtractor.fetchAccountStorage
        (Node.endlessPagination (List.replicate 20 1)) pageOrder
        ⟨0, List.replicate 32 0, [], .ethereum, ⟨0, by decide, by decide⟩⟩ 10000
        ⟨List.replicate 20 2, none⟩ (fuel + 1)).result = .error (.error e) := ⟨_, rfl⟩
    exact EVMBatchAccountExtractor.getAccountsAtBlock_of_fetch_error (fun _ => rfl) order .ethereum
      (by decide) (by decide) (fun _ _ => ⟨⟨_, rfl⟩, _, rfl⟩)
      (List.mem_cons_of_mem _ (List.mem_singleton_self _)) he

/-! ### Block data -/

/-- The fields of an `ethers` block that `get_block_data` reads: its number and hash, absent
while the block is pending, its parent hash and its timestamp. -/
structure EthBlock where
  number : Option UInt64
  hash : Option H256
  parentHash : H256
  timestamp : U256
  deriving DecidableEq

/-- `EVMAccountExtractor::get_block_data`: the node's block at a number, as a `Block` of
Ethereum. `getBlock` is the node's answer to `eth_getBlockByNumber`. The block number is converted
with `u64::try_from`, the block with `expect` and `unwrap`, and the timestamp with `as_u64`, then
`as i64`, then chrono: each of them panics where the conversion fails. -/
def getBlockData (getBlock : UInt64 → Except String (Option EthBlock)) (blockId : I64) :
    Except Stop Block :=
  if 0 ≤ blockId.val then
    match getBlock (UInt64.ofNat blockId.val.toNat) with
    | .error e => .error (.error (.requestError e))
    | .ok none => .error (.panic "Block not found")
    | .ok (some block) =>
      match block.number, block.hash with
      | some number, some hash =>
        if block.timestamp.val < 2 ^ 64 then
          match NaiveDateTime.fromTimestampOpt (asI64 (UInt64.ofNat block.timestamp.val)) with
          | some ts =>
            .ok { number, hash := hash.val, parentHash := block.parentHash.val, chain := .ethereum,
                  ts }
          | none => .error (.panic "Failed to convert timestamp")
        else .error (.panic "Integer overflow when casting to u64")
      | _, _ => .error (.panic "called `Option::unwrap()` on a `None` value")
  else .error (.panic "Invalid block number: TryFromIntError(())")

end EVMAccountExtractor

end TychoIndexer
