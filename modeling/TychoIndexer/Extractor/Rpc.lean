import TychoIndexer.Models
import Mathlib.Data.List.Dedup

/-!
# Runs against a node

The account extractors of `tycho_ethereum::account_extractor::contract` talk to an Ethereum node
over JSON-RPC. This module gives the vocabulary both are written in.

A `Node` answers each call as a function of the call, and a batch of calls as a whole may fail
in transport. A `Run` is a piece of extractor code run against a node: the calls it issued, in
order, and how it ended, with a value, an `RPCError`, a panic, or out of fuel. Fuel bounds the
number of pages of a storage-range pagination, the one loop of the extractors that is not over a
list.

Three library behaviours the extractors rely on are modelled here:

* a response `Waiter` of a batch completes once, and awaiting it again panics, since the oneshot
  receiver inside it is then polled after completion (`awaitAt`);
* `try_join_all` runs its futures concurrently and fails when one of them fails, even while
  another still runs (`tryJoinAll`);
* `slice::chunks` cuts a slice into pieces of a nonzero size (`chunks`).

The node's storage-range pagination is read off the node itself (`Node.storagePages`), so that a
statement about "the pagination chain of an address" does not mention the extractor. The order in
which the client iterates each page's entries is its own, one per call (`PageOrder`): it decides
which value a slot listed twice keeps, unless the node answers from one state
(`Node.FromOneState`).
-/

namespace TychoIndexer

/-! ### Calls and answers -/

/-- `RPCError`, with the kinds the extractors return. -/
inductive RPCError
  | requestError (detail : String)
  | unknownError (msg : String)
  deriving DecidableEq, Repr

/-- A 32-byte word: `H256`. -/
abbrev H256 := {b : Bytes // b.length = 32}

/-- `H256::zero()`. -/
def H256.zero : H256 := ⟨List.replicate 32 0, List.length_replicate _ _⟩

/-- A `U256`, as the node's balance answer is deserialized. -/
abbrev U256 := Fin (2 ^ 256)

/-- A JSON-RPC call the extractors issue. -/
inductive Call
  | getCode (address : Bytes) (blockNumber : UInt64)
  | getBalance (address : Bytes) (blockNumber : UInt64)
  | getStorageAt (address : Bytes) (slot : Bytes) (blockNumber : UInt64)
  | storageRangeAt (blockHash : Bytes) (txIndex : Nat) (address : Bytes) (startKey : H256)
      (limit : Nat)
  deriving DecidableEq

/-- `StorageEntry`. -/
structure StorageEntry where
  key : H256
  value : H256
  deriving DecidableEq

/-- `StorageRange`: the entries of one page, the values of its map from hashed keys, as the node
lists them, and the key the next page starts at. The hashed keys are not read. -/
structure StorageRange where
  storage : List StorageEntry
  nextKey : Option H256
  deriving DecidableEq

/-- The iteration order of the `HashMap<H256, StorageEntry>` a `debug_storageRangeAt` answer is
deserialized into. Each deserialized map draws its own `RandomState`, so each call may iterate the
page's entries in an order of its own: any permutation of them. -/
structure PageOrder where
  iter : Call → List StorageEntry → List StorageEntry
  perm : ∀ c l, (iter c l).Perm l

/-- The entries of every page in the order the node lists them. -/
def PageOrder.asSent : PageOrder := ⟨fun _ l => l, fun _ _ => .refl _⟩

/-- The entries of every page in the reverse of the order the node lists them. -/
def PageOrder.reversed : PageOrder := ⟨fun _ l => l.reverse, fun _ l => l.reverse_perm⟩

/-- A node, by its answer to every call: the value, or the text of the transport or RPC error.
`sendBatch` is the transport of one batch request. -/
structure Node where
  getCode : Bytes → UInt64 → Except String Bytes
  getBalance : Bytes → UInt64 → Except String U256
  getStorageAt : Bytes → Bytes → UInt64 → Except String Bytes
  storageRangeAt : Bytes → Bytes → H256 → Except String StorageRange
  sendBatch : List Call → Except String Unit

/-! ### Runs -/

/-- Why a run stops without a value. -/
inductive Stop
  | error (e : RPCError)
  | panic (msg : String)
  | outOfFuel
  deriving DecidableEq, Repr

/-- A run of extractor code against a node: the calls it issued, in order, and how it ended. -/
structure Run (α : Type) where
  calls : List Call
  result : Except Stop α

namespace Run

variable {α β : Type}

/-- Run `r`, then `f` on its value; a run that stopped stays stopped. -/
protected def bind (r : Run α) (f : α → Run β) : Run β :=
  match r.result with
  | .ok a => ⟨r.calls ++ (f a).calls, (f a).result⟩
  | .error s => ⟨r.calls, .error s⟩

instance : Monad Run where
  pure a := ⟨[], .ok a⟩
  bind := Run.bind

@[simp] theorem pure_calls (a : α) : (pure a : Run α).calls = [] := rfl

@[simp] theorem pure_result (a : α) : (pure a : Run α).result = .ok a := rfl

@[simp] theorem ok_bind (cs : List Call) (a : α) (f : α → Run β) :
    (⟨cs, .ok a⟩ : Run α) >>= f = ⟨cs ++ (f a).calls, (f a).result⟩ := rfl

@[simp] theorem error_bind (cs : List Call) (s : Stop) (f : α → Run β) :
    (⟨cs, .error s⟩ : Run α) >>= f = ⟨cs, .error s⟩ := rfl

@[simp] theorem map_ok (f : α → β) (cs : List Call) (a : α) :
    f <$> (⟨cs, .ok a⟩ : Run α) = ⟨cs, .ok (f a)⟩ := by
  show Run.bind _ _ = _
  simp [Run.bind]

@[simp] theorem map_error (f : α → β) (cs : List Call) (s : Stop) :
    f <$> (⟨cs, .error s⟩ : Run α) = ⟨cs, .error s⟩ := rfl

theorem eta (r : Run α) : r = ⟨r.calls, r.result⟩ := rfl

theorem bind_eq (r : Run α) (f : α → Run β) :
    r >>= f = match r.result with
      | .ok a => ⟨r.calls ++ (f a).calls, (f a).result⟩
      | .error s => ⟨r.calls, .error s⟩ := rfl

theorem result_bind_of_error {r : Run α} {s : Stop} (h : r.result = .error s) (f : α → Run β) :
    (r >>= f).result = .error s := by
  rw [bind_eq, h]

instance : LawfulMonad Run := LawfulMonad.mk' Run
  (fun x => by
    obtain ⟨cs, r⟩ := x
    cases r <;> simp [Functor.map, Run.bind])
  (fun _ _ => rfl)
  (fun x f g => by
    obtain ⟨cs, r⟩ := x
    cases r with
    | error s => rfl
    | ok a =>
      change Run.bind ⟨cs ++ (f a).calls, (f a).result⟩ g =
        ⟨cs ++ (Run.bind (f a) g).calls, (Run.bind (f a) g).result⟩
      generalize f a = y
      obtain ⟨cs', r'⟩ := y
      cases r' <;> simp [Run.bind])

/-- A run that stops at once. -/
def stop (s : Stop) : Run α := ⟨[], .error s⟩

/-- `panic!(msg)`. -/
def panic (msg : String) : Run α := stop (.panic msg)

/-- `xs[i]` on a `Vec`, which panics past the end. -/
def index (xs : List α) (i : Nat) : Run α :=
  match xs[i]? with
  | some x => pure x
  | none => Run.panic s!"index out of bounds: the len is {xs.length} but the index is {i}"

theorem index_of_lt {xs : List α} {i : Nat} (h : i < xs.length) : index xs i = pure xs[i] := by
  simp [index, h]

theorem index_of_getElem? {xs : List α} {i : Nat} {x : α} (h : xs[i]? = some x) :
    index xs i = pure x := by
  simp [index, h]

/-- `Option::expect`. -/
def expect (o : Option α) (msg : String) : Run α :=
  match o with
  | some x => pure x
  | none => Run.panic msg

/-- A result computed without calls, with its error as an `RPCError`. -/
def ofExcept (r : Except RPCError α) : Run α := ⟨[], r.mapError .error⟩

/-- One call, answered by the node; `err` makes an `RPCError` of the node's error text. -/
def call (c : Call) (answer : Except String α) (err : String → RPCError) : Run α :=
  ⟨[c], answer.mapError (.error ∘ err)⟩

/-- `batch.send().await.map_err(..)?`: the batch's calls are issued together. -/
def sendBatch (node : Node) (calls : List Call) : Run Unit :=
  ⟨calls, (node.sendBatch calls).mapError fun e =>
    .error (.requestError s!"Failed to send batch request: {e}")⟩

/-- `tokio::join!(a, b)` followed by `a?` and `b?`: both run to the end, and the first one's
failure is reported first. -/
def both (a : Run α) (b : Run β) : Run (α × β) :=
  ⟨a.calls ++ b.calls, do
    let x ← a.result
    let y ← b.result
    pure (x, y)⟩

theorem both_result_ok {a : Run α} {b : Run β} {x : α} {y : β}
    (h : (both a b).result = .ok (x, y)) : a.result = .ok x ∧ b.result = .ok y := by
  simp only [both] at h
  cases ha : a.result <;> cases hb : b.result <;>
    simp_all [bind, Except.bind, pure, Except.pure]

@[simp] theorem both_ok (cs₁ cs₂ : List Call) (a : α) (b : β) :
    both (⟨cs₁, .ok a⟩ : Run α) ⟨cs₂, .ok b⟩ = ⟨cs₁ ++ cs₂, .ok (a, b)⟩ := rfl

end Run

/-! ### Waiters -/

/-- A response future of a batch: the node's answer to its call, and whether it was already
awaited to completion. -/
structure Waiter (α : Type) where
  answer : Except String α
  done : Bool

/-- The waiter of a call added to a batch, not awaited yet. -/
def Waiter.fresh {α : Type} (answer : Except String α) : Waiter α := ⟨answer, false⟩

/-- `waiters[idx].as_mut().await.map_err(err)?`: the answer of the waiter at `idx`, which is then
complete. Indexing past the end panics, and so does awaiting a complete waiter. -/
def awaitAt {α : Type} (waiters : List (Waiter α)) (idx : Nat) (err : String → RPCError) :
    Run (α × List (Waiter α)) :=
  match waiters[idx]? with
  | none => Run.panic s!"index out of bounds: the len is {waiters.length} but the index is {idx}"
  | some w =>
    if w.done then Run.panic "called after complete"
    else ⟨[], (w.answer.mapError (.error ∘ err)).map (·, waiters.set idx { w with done := true })⟩

theorem awaitAt_of_fresh {α : Type} {waiters : List (Waiter α)} {idx : Nat} {w : Waiter α}
    (err : String → RPCError) (h : waiters[idx]? = some w) (hw : w.done = false) :
    awaitAt waiters idx err =
      ⟨[], (w.answer.mapError (.error ∘ err)).map (·, waiters.set idx { w with done := true })⟩ := by
  simp [awaitAt, h, hw]

theorem awaitAt_of_done {α : Type} {waiters : List (Waiter α)} {idx : Nat} {w : Waiter α}
    (err : String → RPCError) (h : waiters[idx]? = some w) (hw : w.done = true) :
    awaitAt waiters idx err = Run.panic "called after complete" := by
  simp [awaitAt, h, hw]

/-! ### Joins -/

/-- How a join of futures ends: with every value, or with the first future that failed with an
error or a panic; a future still running (out of fuel) only decides when none failed. -/
def joinResults {α : Type} : List (Except Stop α) → Except Stop (List α)
  | [] => .ok []
  | .ok a :: rs => (joinResults rs).map (a :: ·)
  | .error .outOfFuel :: rs =>
    match joinResults rs with
    | .ok _ | .error .outOfFuel => .error .outOfFuel
    | .error s => .error s
  | .error s :: _ => .error s

/-- `try_join_all`: the futures run concurrently. Their calls are all listed; when one fails the
real join drops the others, whose later calls are then not issued. -/
def tryJoinAll {α : Type} (runs : List (Run α)) : Run (List α) :=
  ⟨runs.flatMap (·.calls), joinResults (runs.map (·.result))⟩

@[simp] theorem joinResults_map_ok {α : Type} (xs : List α) :
    joinResults (xs.map .ok : List (Except Stop α)) = .ok xs := by
  induction xs with
  | nil => rfl
  | cons x xs ih => simp [joinResults, ih, Except.map]

theorem length_of_joinResults {α : Type} {rs : List (Except Stop α)} {xs : List α}
    (h : joinResults rs = .ok xs) : xs.length = rs.length := by
  induction rs generalizing xs with
  | nil => cases h; rfl
  | cons r rs ih =>
    cases r with
    | error s => cases s <;> simp only [joinResults] at h <;> (try split at h) <;> cases h
    | ok a =>
      cases hrs : joinResults rs with
      | error s => simp [joinResults, hrs, Except.map] at h
      | ok ys =>
        simp only [joinResults, hrs, Except.map, Except.ok.injEq] at h
        subst h
        simp [ih hrs]

/-- A join in which one future fails with an `RPCError` and none panics fails with an `RPCError`,
whichever futures still run. -/
theorem joinResults_of_error_mem {α : Type} {rs : List (Except Stop α)} {e : RPCError}
    (he : .error (.error e) ∈ rs) (hpanic : ∀ m, .error (.panic m) ∉ rs) :
    ∃ e', joinResults rs = .error (.error e') := by
  induction rs with
  | nil => cases he
  | cons r rs ih =>
    have ih' := fun h => ih h fun m hm => hpanic m (List.mem_cons_of_mem _ hm)
    rcases List.mem_cons.mp he with rfl | he'
    · exact ⟨e, rfl⟩
    · obtain ⟨e', he'⟩ := ih' he'
      cases r with
      | ok a => exact ⟨e', by simp [joinResults, he', Except.map]⟩
      | error s =>
        cases s with
        | error e'' => exact ⟨e'', rfl⟩
        | panic m => exact absurd (List.mem_cons_self _ _) (hpanic m)
        | outOfFuel => exact ⟨e', by simp [joinResults, he']⟩

/-- A join of futures that all return is the list of their values. -/
theorem tryJoinAll_map_of_ok {α β : Type} (f : β → Run α) (val : β → α) {xs : List β}
    (hf : ∀ x ∈ xs, (f x).result = .ok (val x)) :
    tryJoinAll (xs.map f) = ⟨xs.flatMap fun x => (f x).calls, .ok (xs.map val)⟩ := by
  have : (xs.map f).map (·.result) = (xs.map val).map .ok := by
    simp only [List.map_map]
    exact List.map_congr_left fun x hx => hf x hx
  simp only [tryJoinAll, this, joinResults_map_ok, List.flatMap_map]

/-! ### Chunks -/

section Chunks

variable {α : Type}

/-- `chunks` with a budget of pieces. -/
def chunksAux (n : Nat) : Nat → List α → List (List α)
  | 0, _ => []
  | _ + 1, [] => []
  | fuel + 1, x :: xs => (x :: xs).take n :: chunksAux n fuel ((x :: xs).drop n)

/-- `slice::chunks(n)` for `n > 0`: consecutive pieces of `n` elements, the last one possibly
shorter. -/
def chunks (n : Nat) (xs : List α) : List (List α) :=
  chunksAux n xs.length xs

/-- `xs.chunks(n)`, which panics on a chunk size of zero. -/
def Run.chunks (n : Nat) (xs : List α) : Run (List (List α)) :=
  if n = 0 then Run.panic "chunk size must be non-zero" else pure (TychoIndexer.chunks n xs)

theorem Run.chunks_of_pos {n : Nat} (hn : 0 < n) (xs : List α) :
    Run.chunks n xs = pure (TychoIndexer.chunks n xs) := by
  simp [Run.chunks, Nat.pos_iff_ne_zero.mp hn]

theorem chunksAux_congr {n : Nat} (hn : 0 < n) {f g : Nat} {xs : List α} (hf : xs.length ≤ f)
    (hg : xs.length ≤ g) : chunksAux n f xs = chunksAux n g xs := by
  induction f generalizing g xs with
  | zero =>
    cases xs with
    | nil => cases g <;> rfl
    | cons => simp at hf
  | succ f ih =>
    cases xs with
    | nil => cases g <;> rfl
    | cons x xs =>
      obtain ⟨g, rfl⟩ : ∃ g', g = g' + 1 := ⟨g - 1, by simp at hg; omega⟩
      simp only [chunksAux]
      exact congrArg _ (ih (by simp at hf ⊢; omega) (by simp at hg ⊢; omega))

@[simp] theorem chunks_nil (n : Nat) : chunks n ([] : List α) = [] := rfl

/-- A nonempty slice's chunks are its first `n` elements, then the chunks of the rest. -/
theorem chunks_of_ne_nil {n : Nat} (hn : 0 < n) {xs : List α} (hxs : xs ≠ []) :
    chunks n xs = xs.take n :: chunks n (xs.drop n) := by
  obtain ⟨x, xs, rfl⟩ := List.exists_cons_of_ne_nil hxs
  simp only [chunks, List.length_cons, chunksAux]
  exact congrArg _ (chunksAux_congr hn (by simp; omega) le_rfl)

theorem chunks_of_length_le {n : Nat} (hn : 0 < n) {xs : List α} (hxs : xs ≠ [])
    (h : xs.length ≤ n) : chunks n xs = [xs] := by
  rw [chunks_of_ne_nil hn hxs, List.take_of_length_le h, List.drop_of_length_le h, chunks_nil]

theorem flatten_chunksAux {n : Nat} (hn : 0 < n) {f : Nat} {xs : List α} (hf : xs.length ≤ f) :
    (chunksAux n f xs).flatten = xs := by
  induction f generalizing xs with
  | zero =>
    cases xs with
    | nil => rfl
    | cons => simp at hf
  | succ f ih =>
    cases xs with
    | nil => rfl
    | cons x xs =>
      rw [chunksAux, List.flatten_cons, ih (by simp at hf ⊢; omega), List.take_append_drop]

/-- The chunks of a slice, put back together, are the slice. -/
theorem flatten_chunks {n : Nat} (hn : 0 < n) (xs : List α) : (chunks n xs).flatten = xs :=
  flatten_chunksAux hn le_rfl

end Chunks

/-! ### Runs that return or fail -/

namespace Run

variable {α β : Type}

/-- `r` returns exactly when `p` holds, and otherwise fails with an `RPCError`: it neither panics
nor runs out of fuel. -/
structure ReturnsIff (r : Run α) (p : Prop) : Prop where
  settles : ∀ s, r.result = .error s → ∃ e, s = .error e
  ok_iff : (∃ a, r.result = .ok a) ↔ p

namespace ReturnsIff

variable {r : Run α} {p q : Prop}

theorem congr (h : r.ReturnsIff p) (hpq : p ↔ q) : r.ReturnsIff q :=
  ⟨h.settles, h.ok_iff.trans hpq⟩

/-- A run that returns exactly when `p` holds fails with an `RPCError` when `p` does not. -/
theorem fails (h : r.ReturnsIff p) (hp : ¬p) : ∃ e, r.result = .error (.error e) := by
  cases hr : r.result with
  | ok a => exact absurd (h.ok_iff.mp ⟨a, hr⟩) hp
  | error s =>
    obtain ⟨e, rfl⟩ := h.settles s hr
    exact ⟨e, rfl⟩

/-- A run that returns when `p` holds and fails with an `RPCError` when it does not. -/
theorem of_cases (hok : p → ∃ a, r.result = .ok a)
    (hfail : ¬p → ∃ e, r.result = .error (.error e)) : r.ReturnsIff p := by
  by_cases hp : p
  · obtain ⟨a, ha⟩ := hok hp
    exact ⟨(fun s hs => by rw [ha] at hs; cases hs), iff_of_true ⟨a, ha⟩ hp⟩
  · obtain ⟨e, he⟩ := hfail hp
    exact ⟨(fun s hs => by rw [he] at hs; cases hs; exact ⟨e, rfl⟩),
      iff_of_false (by simp [he]) hp⟩

/-- What a run returns does not depend on the calls issued before it. -/
theorem calls (h : r.ReturnsIff p) (cs : List Call) : (⟨cs, r.result⟩ : Run α).ReturnsIff p :=
  ⟨h.settles, h.ok_iff⟩

theorem bind {f : α → Run β} (hr : r.ReturnsIff p) (hf : ∀ a, r.result = .ok a → (f a).ReturnsIff q) :
    (r >>= f).ReturnsIff (p ∧ q) := by
  rw [Run.eta r]
  cases hres : r.result with
  | error s =>
    refine ⟨fun s' h => ?_, ?_⟩
    · cases h
      exact hr.settles s hres
    · simp only [Run.error_bind, reduceCtorEq, exists_false, false_iff, not_and]
      exact fun hp => absurd (hr.ok_iff.mpr hp) (by simp [hres])
  | ok a =>
    have hp : p := hr.ok_iff.mp ⟨a, hres⟩
    simp only [Run.ok_bind, hp, true_and]
    exact ⟨(hf a hres).settles, (hf a hres).ok_iff⟩

end ReturnsIff

theorem returnsIff_pure (a : α) : (pure a : Run α).ReturnsIff True :=
  ⟨(fun _ h => by cases h), by simp⟩

/-- A run of one answer, whose error text is made an `RPCError`, returns exactly when the answer
is a value. -/
theorem returnsIff_mapError (cs : List Call) (r : Except String α) (err : String → RPCError) :
    (⟨cs, r.mapError (.error ∘ err)⟩ : Run α).ReturnsIff (∃ a, r = .ok a) := by
  cases r with
  | error e => exact ⟨(fun _ h => by cases h; exact ⟨_, rfl⟩), by simp [Except.mapError]⟩
  | ok a => exact ⟨(fun _ h => by cases h), by simp [Except.mapError]⟩

theorem returnsIff_call (c : Call) (answer : Except String α) (err : String → RPCError) :
    (Run.call c answer err).ReturnsIff (∃ a, answer = .ok a) :=
  returnsIff_mapError _ _ _

theorem returnsIff_ofExcept (r : Except RPCError α) :
    (Run.ofExcept r).ReturnsIff (∃ a, r = .ok a) := by
  cases r with
  | error e => exact ⟨(fun _ h => by cases h; exact ⟨_, rfl⟩), by simp [Run.ofExcept, Except.mapError]⟩
  | ok a => exact ⟨(fun _ h => by cases h), by simp [Run.ofExcept, Except.mapError]⟩

theorem returnsIff_both {a : Run α} {b : Run β} {p q : Prop} (ha : a.ReturnsIff p)
    (hb : b.ReturnsIff q) : (Run.both a b).ReturnsIff (p ∧ q) := by
  cases hra : a.result with
  | error s =>
    obtain ⟨e, rfl⟩ := ha.settles s hra
    refine ⟨fun s' h => ?_, ?_⟩
    · simp only [Run.both, hra] at h
      cases h
      exact ⟨e, rfl⟩
    · simp only [Run.both, hra]
      exact iff_of_false (by simp [bind, Except.bind]) fun h => by
        simpa [hra] using ha.ok_iff.mpr h.1
  | ok x =>
    have hp : p := ha.ok_iff.mp ⟨x, hra⟩
    cases hrb : b.result with
    | error s =>
      obtain ⟨e, rfl⟩ := hb.settles s hrb
      exact ⟨fun s' h => by simp only [Run.both, hra, hrb] at h; cases h; exact ⟨e, rfl⟩,
        iff_of_false (by simp [Run.both, hra, hrb, bind, Except.bind]) fun h => by
          simpa [hrb] using hb.ok_iff.mpr h.2⟩
    | ok y =>
      exact ⟨fun s' h => by simp [Run.both, hra, hrb, bind, Except.bind, pure, Except.pure] at h,
        iff_of_true ⟨(x, y), by simp [Run.both, hra, hrb, bind, Except.bind, pure, Except.pure]⟩
          ⟨hp, hb.ok_iff.mp ⟨y, hrb⟩⟩⟩

/-- A loop whose every step, from any state, returns exactly when its element is good, returns
exactly when every element is. -/
theorem returnsIff_foldlM {f : β → α → Run β} {q : α → Prop} {xs : List α}
    (hf : ∀ s, ∀ x ∈ xs, (f s x).ReturnsIff (q x)) (s : β) :
    (xs.foldlM f s).ReturnsIff (∀ x ∈ xs, q x) := by
  induction xs generalizing s with
  | nil => exact (returnsIff_pure s).congr (by simp)
  | cons x xs ih =>
    rw [List.foldlM_cons]
    exact ((hf s x (List.mem_cons_self _ _)).bind fun s' _ =>
      ih (fun s y hy => hf s y (List.mem_cons_of_mem _ hy)) s').congr (by simp)

theorem returnsIff_tryJoinAll {runs : List (Run α)} {q : Run α → Prop}
    (h : ∀ r ∈ runs, r.ReturnsIff (q r)) : (tryJoinAll runs).ReturnsIff (∀ r ∈ runs, q r) := by
  induction runs with
  | nil => exact ⟨(fun _ h => by cases h), by simp [tryJoinAll, joinResults]⟩
  | cons r runs ih =>
    have ih := ih fun r' hr' => h r' (List.mem_cons_of_mem _ hr')
    have hr := h r (List.mem_cons_self _ _)
    simp only [tryJoinAll, List.map_cons, List.forall_mem_cons] at ih ⊢
    cases hres : r.result with
    | error s =>
      obtain ⟨e, rfl⟩ := hr.settles s hres
      exact ⟨fun s' h' => by simp only [joinResults] at h'; cases h'; exact ⟨e, rfl⟩,
        iff_of_false (by simp [joinResults]) fun h' => by simpa [hres] using hr.ok_iff.mpr h'.1⟩
    | ok a =>
      have hq : q r := hr.ok_iff.mp ⟨a, hres⟩
      simp only [joinResults, hq, true_and]
      cases hrest : joinResults (runs.map (·.result)) with
      | error s =>
        rw [hrest] at ih
        exact ⟨fun s' h' => by cases h'; exact ih.settles s rfl,
          iff_of_false (by simp [Except.map]) fun h' => by simpa using ih.ok_iff.mpr h'⟩
      | ok xs =>
        rw [hrest] at ih
        exact ⟨(fun s' h' => by cases h'), iff_of_true ⟨_, rfl⟩ (ih.ok_iff.mp ⟨xs, rfl⟩)⟩

end Run

/-! ### The node's answers -/

/-- The pagination of `address`'s storage at a block: each start key, from `startKey` on, with
the page the node answers to it, following next keys until a page has none. `none` when `fuel`
pages do not reach the end; an error when a call fails. -/
def Node.storagePages (node : Node) (blockHash address : Bytes) :
    Nat → H256 → Option (Except String (List (H256 × StorageRange)))
  | 0, _ => none
  | fuel + 1, startKey =>
    match node.storageRangeAt blockHash address startKey with
    | .error e => some (.error e)
    | .ok page =>
      match page.nextKey with
      | none => some (.ok [(startKey, page)])
      | some nextKey =>
        (Node.storagePages node blockHash address fuel nextKey).map
          (Except.map ((startKey, page) :: ·))

/-- Every page of a pagination is the node's answer to its start key. -/
theorem Node.storageRangeAt_of_mem_storagePages {node : Node} {blockHash address : Bytes}
    {fuel : Nat} {startKey : H256} {pages : List (H256 × StorageRange)}
    (h : node.storagePages blockHash address fuel startKey = some (.ok pages)) :
    ∀ p ∈ pages, node.storageRangeAt blockHash address p.1 = .ok p.2 := by
  induction fuel generalizing startKey pages with
  | zero => cases h
  | succ fuel ih =>
    simp only [Node.storagePages] at h
    cases hpage : node.storageRangeAt blockHash address startKey with
    | error e => simp [hpage] at h
    | ok page =>
      rw [hpage] at h
      cases hnext : page.nextKey with
      | none =>
        simp only [hnext, Option.some.injEq, Except.ok.injEq] at h
        subst h
        simpa using hpage
      | some next =>
        simp only [hnext] at h
        obtain ⟨r, hr, hmap⟩ := Option.map_eq_some'.mp h
        cases r with
        | error e => cases hmap
        | ok rest =>
          cases hmap
          simpa [hpage] using ih hr

/-- Every entry of a pagination, each page in the order its call iterates it. -/
def PageOrder.entries (pageOrder : PageOrder) (blockHash address : Bytes)
    (pages : List (H256 × StorageRange)) : List StorageEntry :=
  pages.flatMap fun p => pageOrder.iter (.storageRangeAt blockHash 0 address p.1 100000) p.2.storage

@[simp] theorem PageOrder.entries_nil (pageOrder : PageOrder) (blockHash address : Bytes) :
    pageOrder.entries blockHash address [] = [] := rfl

@[simp] theorem PageOrder.entries_cons (pageOrder : PageOrder) (blockHash address : Bytes)
    (p : H256 × StorageRange) (pages : List (H256 × StorageRange)) :
    pageOrder.entries blockHash address (p :: pages) =
      pageOrder.iter (.storageRangeAt blockHash 0 address p.1 100000) p.2.storage ++
        pageOrder.entries blockHash address pages := rfl

theorem PageOrder.entries_perm (pageOrder : PageOrder) (blockHash address : Bytes)
    (pages : List (H256 × StorageRange)) :
    (pageOrder.entries blockHash address pages).Perm (pages.flatMap (·.2.storage)) :=
  List.Perm.flatMap_left _ fun _ _ => pageOrder.perm _ _

/-- The pagination loop of both `get_storage_range`s: one `debug_storageRangeAt` call per page,
from `startKey`, inserting every entry of the page under `key` with `value`, in the order the call
iterates them, until a page has no next key. The two extractors differ in the map's key and value
types and in the error. -/
def storageRangeLoop {K V : Type} [DecidableEq K] (node : Node) (pageOrder : PageOrder)
    (blockHash address : Bytes) (key : H256 → K) (value : H256 → V) (err : String → RPCError) :
    Nat → H256 → HashMap K V → Run (HashMap K V)
  | 0, _, _ => Run.stop .outOfFuel
  | fuel + 1, startKey, allSlots => do
    let call := Call.storageRangeAt blockHash 0 address startKey 100000
    let result ← Run.call call (node.storageRangeAt blockHash address startKey) err
    let allSlots := HashMap.insertAll (key ·.key) (value ·.value) allSlots
      (pageOrder.iter call result.storage)
    match result.nextKey with
    | some nextKey =>
      storageRangeLoop node pageOrder blockHash address key value err fuel nextKey allSlots
    | none => pure allSlots

section StorageRangeLoop

variable {K V : Type} [DecidableEq K] {node : Node} {pageOrder : PageOrder} {blockHash address : Bytes}
  {key : H256 → K} {value : H256 → V} {err : String → RPCError}

/-- The loop follows the node's pagination: one call per page, and every entry of every page
inserted, page after page, each in its call's order. -/
theorem storageRangeLoop_of_pages {fuel : Nat} {startKey : H256}
    {pages : List (H256 × StorageRange)}
    (h : node.storagePages blockHash address fuel startKey = some (.ok pages))
    (allSlots : HashMap K V) :
    storageRangeLoop node pageOrder blockHash address key value err fuel startKey allSlots =
      ⟨pages.map fun p => .storageRangeAt blockHash 0 address p.1 100000,
        .ok (HashMap.insertAll (key ·.key) (value ·.value) allSlots
          (pageOrder.entries blockHash address pages))⟩ := by
  induction fuel generalizing startKey allSlots pages with
  | zero => cases h
  | succ fuel ih =>
    simp only [Node.storagePages] at h
    cases hpage : node.storageRangeAt blockHash address startKey with
    | error e => simp [hpage] at h
    | ok page =>
      rw [hpage] at h
      simp only [storageRangeLoop, Run.call, hpage, Except.mapError, Run.ok_bind]
      cases hnext : page.nextKey with
      | none =>
        simp only [hnext, Option.some.injEq, Except.ok.injEq] at h
        subst h
        simp
      | some next =>
        simp only [hnext] at h
        obtain ⟨r, hr, hmap⟩ := Option.map_eq_some'.mp h
        cases r with
        | error e => cases hmap
        | ok rest =>
          cases hmap
          simp [ih hr, HashMap.insertAll_append]

/-- A pagination that does not end within the fuel runs the loop out of fuel. -/
theorem storageRangeLoop_of_none {fuel : Nat} {startKey : H256}
    (h : node.storagePages blockHash address fuel startKey = none) (allSlots : HashMap K V) :
    (storageRangeLoop node pageOrder blockHash address key value err fuel startKey allSlots).result =
      .error .outOfFuel := by
  induction fuel generalizing startKey allSlots with
  | zero => rfl
  | succ fuel ih =>
    simp only [Node.storagePages] at h
    cases hpage : node.storageRangeAt blockHash address startKey with
    | error e => simp [hpage] at h
    | ok page =>
      simp only [hpage] at h
      simp only [storageRangeLoop, Run.call, hpage, Except.mapError, Run.ok_bind]
      cases hnext : page.nextKey with
      | none => simp [hnext] at h
      | some next =>
        simp only [hnext, Option.map_eq_none'] at h
        exact ih h _

/-- The loop never panics: it returns, fails with the node's error, or runs out of fuel. -/
theorem storageRangeLoop_ne_panic (fuel : Nat) (startKey : H256) (allSlots : HashMap K V)
    (m : String) :
    (storageRangeLoop node pageOrder blockHash address key value err fuel startKey allSlots).result ≠
      .error (.panic m) := by
  induction fuel generalizing startKey allSlots with
  | zero => simp [storageRangeLoop, Run.stop]
  | succ fuel ih =>
    simp only [storageRangeLoop, Run.call]
    cases node.storageRangeAt blockHash address startKey with
    | error e => simp [Except.mapError]
    | ok page => cases hnext : page.nextKey <;> simp [hnext, Except.mapError, ih]

/-- A pagination that ends, well or with an error, within the fuel: the loop returns exactly when
every page is answered. -/
theorem storageRangeLoop_returnsIff {fuel : Nat} {startKey : H256}
    (h : (node.storagePages blockHash address fuel startKey).isSome) (allSlots : HashMap K V) :
    (storageRangeLoop node pageOrder blockHash address key value err fuel startKey allSlots).ReturnsIff
      (∃ pages, node.storagePages blockHash address fuel startKey = some (.ok pages)) := by
  induction fuel generalizing startKey allSlots with
  | zero => cases h
  | succ fuel ih =>
    simp only [Node.storagePages] at h ⊢
    cases hpage : node.storageRangeAt blockHash address startKey with
    | error e =>
      simp only [storageRangeLoop, Run.call, hpage, Except.mapError]
      exact ⟨(fun s hs => by cases hs; exact ⟨_, rfl⟩), by simp⟩
    | ok page =>
      simp only [hpage] at h ⊢
      simp only [storageRangeLoop, Run.call, hpage, Except.mapError, Run.ok_bind]
      cases hnext : page.nextKey with
      | none => exact ⟨(fun s hs => by cases hs), by simp⟩
      | some next =>
        simp only [hnext, Option.isSome_map'] at h ⊢
        have ih := ih h (HashMap.insertAll (key ·.key) (value ·.value) allSlots
          (pageOrder.iter (.storageRangeAt blockHash 0 address startKey 100000) page.storage))
        refine ⟨ih.settles, ih.ok_iff.trans ?_⟩
        constructor
        · rintro ⟨pages, hp⟩
          exact ⟨_, by rw [hp]; rfl⟩
        · rintro ⟨pages, hp⟩
          obtain ⟨r, hr, hmap⟩ := Option.map_eq_some'.mp hp
          cases r with
          | error e => cases hmap
          | ok rest => exact ⟨rest, hr⟩

end StorageRangeLoop

/-- The node serves the whole account `a` at `block`: its code, its balance, and a storage-range
pagination that ends within `fuel` pages. -/
def Node.ServesAccount (node : Node) (block : Block) (fuel : Nat) (a : Bytes) : Prop :=
  (∃ code, node.getCode a block.number = .ok code) ∧
    (∃ balance, node.getBalance a block.number = .ok balance) ∧
    ∃ pages, node.storagePages block.hash a fuel H256.zero = some (.ok pages)

/-- The answers of a node to the accounts it serves, as functions of the address. -/
theorem Node.exists_answers (node : Node) (block : Block) (fuel : Nat) :
    ∃ (code : Bytes → Bytes) (balance : Bytes → U256) (pages : Bytes → List (H256 × StorageRange)),
      ∀ a, node.ServesAccount block fuel a →
        node.getCode a block.number = .ok (code a) ∧
        node.getBalance a block.number = .ok (balance a) ∧
        node.storagePages block.hash a fuel H256.zero = some (.ok (pages a)) :=
  ⟨fun a => (node.getCode a block.number).toOption.getD [],
    fun a => (node.getBalance a block.number).toOption.getD 0,
    fun a => ((node.storagePages block.hash a fuel H256.zero).bind Except.toOption).getD [],
    fun _ ⟨⟨_, hc⟩, ⟨_, hb⟩, ⟨_, hp⟩⟩ => by simp [hc, hb, hp, Except.toOption]⟩

/-- The node answers every call at `block` and delivers every batch. -/
structure Node.Answers (node : Node) (block : Block) : Prop where
  sendBatch : ∀ calls, node.sendBatch calls = .ok ()
  getCode : ∀ a, ∃ code, node.getCode a block.number = .ok code
  getBalance : ∀ a, ∃ balance, node.getBalance a block.number = .ok balance
  getStorageAt : ∀ a k, ∃ value, node.getStorageAt a k block.number = .ok value
  storageRangeAt : ∀ a k, ∃ page, node.storageRangeAt block.hash a k = .ok page

/-- The node answers from one state of the block: the pages of every storage dump report one
value per slot of each account. -/
def Node.FromOneState (node : Node) (block : Block) : Prop :=
  ∃ storage : Bytes → Bytes → Option Bytes, ∀ a startKey page,
    node.storageRangeAt block.hash a startKey = .ok page →
    ∀ e ∈ page.storage, storage a e.key.val = some e.value.val

/-- What an `eth_getStorageAt` answer records: 32 zero bytes are a cleared slot. -/
def storageValue (answer : Bytes) : Option Bytes :=
  if answer = List.replicate 32 0 then none else some answer

end TychoIndexer
