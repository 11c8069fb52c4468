import Mathlib.Data.List.AList
import Mathlib.Data.Finset.Basic
import Mathlib.Data.List.Sort

/-!
# Byte strings, hash maps and fallible loops

The common vocabulary of the development. Every chain-native identifier of the repository
(addresses, hashes, storage keys and values, calldata) is a `Bytes`, and every
`std::collections::HashMap` the code builds is a `HashMap`: an association list with unique
keys, whose entry order stands for the iteration order Rust leaves unspecified. Equality of two
Rust maps is extensional, so statements comparing maps compare their `lookup`s; a `HashSet` is
a `Finset`.

The decoders are written as loops that parse each element with `?` and insert the parsed value
into a map. `forEachTry` is that loop, and `forEachTry_eq` turns it into a `mapM` followed by
a pure fold, so that every map a decoder builds is a fold of inserts over the parsed elements.
Each such fold is an `insertEach`, which writes one key per element (`mem_insertEach`), with
three ways of computing the written value:

* `insertAll` — `m.insert(key, value)`: the **last writer wins** (`lookup_insertAll`);
* `upsertAll` — `m.entry(k).or_default().insert(k₂, value)` on a map of maps: the last writer
  for the pair `(k, k₂)` wins (`lookup_upsertAll`);
* `addAll` — `m.entry(k).or_default().insert(value)` on a map of sets: the union of every value
  written under `k` (`lookup_addAll`).

`RustStd` collects the two standard-library functions whose results the decoders depend on,
`String::from_utf8` and `sort_unstable_by_key`, each taken by its documented contract.
-/

namespace TychoIndexer

/-- A byte string: `Bytes`, `Vec<u8>` and the fixed-width hash types of the source alike. -/
abbrev Bytes := List UInt8

/-- A Rust `HashMap<K, V>`: keys are unique and `insert` replaces the value of a present key.
The order of the entries stands for the map's iteration order. -/
abbrev HashMap (K V : Type) := AList (fun _ : K => V)

/-! ### Fallible loops -/

section Loop

variable {ε α β γ : Type}

/-- The loop `for c in cs { let x = parse(c)?; acc = step(acc, x); }`: parse every element in
order, stop at the first error, and fold the parsed values into the accumulator. -/
def forEachTry (parse : α → Except ε β) (step : γ → β → γ) (acc : γ) : List α → Except ε γ
  | [] => .ok acc
  | c :: cs => do
    let x ← parse c
    forEachTry parse step (step acc x) cs

/-- A fallible loop is the `mapM` of its parser followed by a pure fold. -/
theorem forEachTry_eq (parse : α → Except ε β) (step : γ → β → γ) (acc : γ) (cs : List α) :
    forEachTry parse step acc cs = (cs.mapM parse).map (List.foldl step acc) := by
  induction cs generalizing acc with
  | nil => rfl
  | cons c cs ih =>
    simp only [forEachTry, List.mapM_cons, ih]
    cases parse c <;> cases cs.mapM parse <;> rfl

/-- A fallible loop skips the elements outside `p` when each of them parses to a value its step
ignores. -/
theorem forEachTry_filter (p : α → Bool) {parse : α → Except ε β} {step : γ → β → γ}
    (hskip : ∀ c, p c = false → ∃ x, parse c = .ok x ∧ ∀ acc, step acc x = acc) (acc : γ)
    (cs : List α) : forEachTry parse step acc cs = forEachTry parse step acc (cs.filter p) := by
  induction cs generalizing acc with
  | nil => rfl
  | cons c cs ih =>
    cases hc : p c with
    | false =>
      obtain ⟨x, hx, hstep⟩ := hskip c hc
      rw [List.filter_cons_of_neg (by simp [hc]), ← ih, forEachTry, hx]
      exact congrArg (forEachTry parse step · cs) (hstep acc)
    | true =>
      rw [List.filter_cons_of_pos hc, forEachTry, forEachTry]
      cases parse c with
      | error e => rfl
      | ok x => exact ih _

/-- `collect::<Result<Vec<_>, _>>()` lists, when it succeeds, the value of every element. -/
theorem map_ok_of_mapM_eq_ok {f : α → Except ε β} {cs : List α} {xs : List β}
    (h : cs.mapM f = .ok xs) : xs.map .ok = cs.map f := by
  induction cs generalizing xs with
  | nil => cases h; rfl
  | cons c cs ih =>
    rw [List.mapM_cons] at h
    cases hc : f c <;> cases hcs : cs.mapM f <;> rw [hc, hcs] at h <;> cases h
    simp [hc, ih hcs]

/-- `collect::<Result<Vec<_>, _>>()` succeeds exactly when every element does. -/
theorem mapM_isOk_iff {f : α → Except ε β} {cs : List α} :
    (cs.mapM f).isOk ↔ ∀ c ∈ cs, (f c).isOk := by
  induction cs with
  | nil => simp [List.mapM_nil]; rfl
  | cons c cs ih =>
    rw [List.mapM_cons, List.forall_mem_cons, ← ih]
    cases f c <;> cases cs.mapM f <;>
      simp [Except.isOk, Except.toBool, bind, Except.bind, pure, Except.pure]

/-- `collect::<Result<Vec<_>, _>>()` fails with the error of an element. -/
theorem mapM_eq_error {f : α → Except ε β} {cs : List α} {e : ε}
    (h : cs.mapM f = .error e) : ∃ c ∈ cs, f c = .error e := by
  induction cs with
  | nil => cases h
  | cons c cs ih =>
    rw [List.mapM_cons] at h
    cases hc : f c with
    | error e' => rw [hc] at h; cases h; exact ⟨c, List.mem_cons_self _ _, hc⟩
    | ok x =>
      cases hcs : cs.mapM f with
      | error e' =>
        rw [hc, hcs] at h; cases h
        obtain ⟨c', hc', h'⟩ := ih hcs
        exact ⟨c', List.mem_cons_of_mem _ hc', h'⟩
      | ok xs => rw [hc, hcs] at h; cases h

/-- Two lists related element-wise by a parser agree on what `find?` selects, read through the
parser. -/
theorem find?_map_of_map_ok {parse : α → Except ε β} {g : α → Except ε γ} {val : β → γ}
    {p : β → Bool} {q : α → Bool} {cs : List α} {xs : List β}
    (hpq : ∀ c x, parse c = .ok x → p x = q c ∧ g c = .ok (val x))
    (h : xs.map .ok = cs.map parse) :
    (xs.find? p).map (.ok ∘ val) = (cs.find? q).map g := by
  induction cs generalizing xs with
  | nil => cases xs <;> simp_all
  | cons c cs ih =>
    cases xs with
    | nil => simp at h
    | cons x xs =>
      simp only [List.map_cons, List.cons.injEq] at h
      obtain ⟨hp, hg⟩ := hpq c x h.1.symm
      simp only [List.find?_cons, hp]
      cases q c
      · exact ih h.2
      · simp [hg]

theorem mem_of_map_ok {parse : α → Except ε β} {cs : List α} {xs : List β}
    (h : xs.map .ok = cs.map parse) {x : β} : x ∈ xs ↔ ∃ c ∈ cs, parse c = .ok x := by
  have : (.ok x : Except ε β) ∈ xs.map .ok ↔ x ∈ xs := by simp
  rw [← this, h, List.mem_map]

/-- Two fallible loops agree when, element by element, their parsers fail alike and their steps
agree on what the parsers produce. -/
theorem forEachTry_congr {β₁ β₂ : Type} {parse₁ : α → Except ε β₁} {parse₂ : α → Except ε β₂}
    {step₁ : γ → β₁ → γ} {step₂ : γ → β₂ → γ}
    (h : ∀ c acc, (parse₁ c).map (step₁ acc) = (parse₂ c).map (step₂ acc)) (acc : γ)
    (cs : List α) : forEachTry parse₁ step₁ acc cs = forEachTry parse₂ step₂ acc cs := by
  induction cs generalizing acc with
  | nil => rfl
  | cons c cs ih =>
    have hc := h c acc
    simp only [forEachTry]
    cases h₁ : parse₁ c <;> cases h₂ : parse₂ c <;>
      simp only [h₁, h₂, Except.map, Except.error.injEq, Except.ok.injEq, reduceCtorEq, bind,
        Except.bind] at hc ⊢
    · exact hc
    · rw [hc, ih]

/-- When every element parsed, each element has a parse. -/
theorem exists_ok_of_map_ok {parse : α → Except ε β} {cs : List α} {xs : List β}
    (h : xs.map .ok = cs.map parse) {c : α} (hc : c ∈ cs) : ∃ x, parse c = .ok x := by
  have : parse c ∈ xs.map .ok := by rw [h]; exact List.mem_map_of_mem _ hc
  obtain ⟨x, -, hx⟩ := List.mem_map.mp this
  exact ⟨x, hx.symm⟩

/-- What one parser yields wherever another succeeds, it yields on a list the other parsed. -/
theorem map_ok_of_map_ok {g : α → Except ε β} {parse : α → Except ε β} {cs : List α}
    {xs : List β} (hg : ∀ c x, parse c = .ok x → g c = .ok x) (h : xs.map .ok = cs.map parse) :
    xs.map .ok = cs.map g := by
  rw [h]
  refine List.map_congr_left fun c hc => ?_
  obtain ⟨x, hx⟩ := exists_ok_of_map_ok h hc
  rw [hx, hg c x hx]

/-- A computation that returns a value returns one with every property its results have. -/
theorem exists_ok_and {p : β → Prop} {r : Except ε β} (hr : ∃ b, r = .ok b)
    (h : ∀ b, r = .ok b → p b) : ∃ b, r = .ok b ∧ p b :=
  hr.imp fun b hb => ⟨hb, h b hb⟩

/-- Parsers that succeed on two permuted lists yield permuted values. -/
theorem perm_of_map_ok {xs₁ xs₂ : List β}
    (h : (xs₁.map (.ok : β → Except ε β)).Perm (xs₂.map .ok)) : xs₁.Perm xs₂ := by
  simpa [List.filterMap_map, Function.comp_def, Except.toOption] using h.filterMap Except.toOption

/-- What the parsed values carry, read off the elements they were parsed from. -/
theorem filterMap_of_map_ok {parse : α → Except ε β} {g : α → Option γ} {k : β → γ}
    (hg : ∀ c x, parse c = .ok x → g c = some (k x)) {cs : List α} {xs : List β}
    (h : xs.map .ok = cs.map parse) : xs.map k = cs.filterMap g := by
  induction cs generalizing xs with
  | nil =>
    cases xs with
    | nil => rfl
    | cons => cases h
  | cons c cs ih =>
    cases xs with
    | nil => cases h
    | cons x xs =>
      simp only [List.map_cons, List.cons.injEq] at h
      rw [List.map_cons, List.filterMap_cons_some (hg c x h.1.symm), ih h.2]

theorem toOption_bind_congr {r : Except ε α} {k₁ k₂ : α → Except ε β}
    (h : ∀ a, r = .ok a → (k₁ a).toOption = (k₂ a).toOption) :
    (r >>= k₁).toOption = (r >>= k₂).toOption := by
  cases r with
  | error e => rfl
  | ok a => exact h a rfl

/-- **Parsing a permuted list.** The `collect` of a parser over two permuted lists succeeds on
both or on neither, and a continuation that only sees the parsed values up to order gives the
same value on both. -/
theorem toOption_mapM_bind_of_perm (f : α → Except ε β) (k : List β → Except ε γ)
    {cs₁ cs₂ : List α} (hperm : cs₁.Perm cs₂)
    (hk : ∀ xs₁ xs₂, xs₁.map .ok = cs₁.map f → xs₁.Perm xs₂ → k xs₁ = k xs₂) :
    (cs₁.mapM f >>= k).toOption = (cs₂.mapM f >>= k).toOption := by
  have hok : (cs₁.mapM f).isOk ↔ (cs₂.mapM f).isOk := by
    rw [mapM_isOk_iff, mapM_isOk_iff]
    exact ⟨fun h c hc => h c (hperm.mem_iff.mpr hc), fun h c hc => h c (hperm.mem_iff.mp hc)⟩
  cases h₁ : cs₁.mapM f with
  | error e₁ =>
    cases h₂ : cs₂.mapM f with
    | error e₂ => rfl
    | ok xs₂ => rw [h₁, h₂] at hok; exact absurd (hok.mpr rfl) Bool.false_ne_true
  | ok xs₁ =>
    cases h₂ : cs₂.mapM f with
    | error e₂ => rw [h₁, h₂] at hok; exact absurd (hok.mp rfl) Bool.false_ne_true
    | ok xs₂ =>
      have hx₁ := map_ok_of_mapM_eq_ok h₁
      have hp : xs₁.Perm xs₂ := perm_of_map_ok
        (by rw [hx₁, map_ok_of_mapM_eq_ok h₂]; exact hperm.map f)
      exact congrArg Except.toOption (hk xs₁ xs₂ hx₁ hp)

end Loop

/-! ### Folds of inserts -/

namespace HashMap

variable {K K₂ V α : Type} [DecidableEq K] [DecidableEq K₂]

theorem find?_reverse_append_singleton {p : α → Bool} {xs : List α} {x : α} :
    (xs ++ [x]).reverse.find? p = if p x then some x else xs.reverse.find? p := by
  simp [List.find?_cons]; split <;> simp_all

/-- Insert, for every element in order, a value at the element's key; the value may read the
map built so far. -/
def insertEach (key : α → K) (f : HashMap K V → α → V) (m : HashMap K V) (xs : List α) :
    HashMap K V :=
  xs.foldl (fun m x => m.insert (key x) (f m x)) m

theorem insertEach_append_singleton (key : α → K) (f : HashMap K V → α → V) (m : HashMap K V)
    (xs : List α) (x : α) :
    insertEach key f m (xs ++ [x]) =
      (insertEach key f m xs).insert (key x) (f (insertEach key f m xs) x) := by
  simp [insertEach]

/-- The keys of a fold of inserts are the keys written and the keys already present. -/
theorem mem_insertEach {key : α → K} {f : HashMap K V → α → V} {m : HashMap K V} {xs : List α}
    {k : K} : k ∈ insertEach key f m xs ↔ (∃ x ∈ xs, key x = k) ∨ k ∈ m := by
  induction xs using List.reverseRecOn with
  | nil => simp [insertEach]
  | append_singleton xs x ih =>
    rw [insertEach_append_singleton, AList.mem_insert, ih]
    simp only [List.mem_append, List.mem_singleton]
    constructor
    · rintro (rfl | ⟨y, hy, rfl⟩ | hm)
      exacts [.inl ⟨x, .inr rfl, rfl⟩, .inl ⟨y, .inl hy, rfl⟩, .inr hm]
    · rintro (⟨y, hy | rfl, rfl⟩ | hm)
      exacts [.inr (.inl ⟨y, hy, rfl⟩), .inl rfl, .inr (.inr hm)]

/-- `for x in xs { m.insert(key(x), val(x)); }` -/
def insertAll (key : α → K) (val : α → V) : HashMap K V → List α → HashMap K V :=
  insertEach key (fun _ x => val x)

@[simp] theorem insertAll_nil (key : α → K) (val : α → V) (m : HashMap K V) :
    insertAll key val m [] = m := rfl

@[simp] theorem insertAll_cons (key : α → K) (val : α → V) (m : HashMap K V) (x : α)
    (xs : List α) : insertAll key val m (x :: xs) = insertAll key val (m.insert (key x) (val x)) xs :=
  rfl

theorem insertAll_append (key : α → K) (val : α → V) (m : HashMap K V) (xs ys : List α) :
    insertAll key val m (xs ++ ys) = insertAll key val (insertAll key val m xs) ys :=
  List.foldl_append _ _ _ _

/-- **Last writer wins.** After inserting every element, a key holds the value of the last
element written under it, and otherwise what it held before. -/
theorem lookup_insertAll (key : α → K) (val : α → V) (m : HashMap K V) (xs : List α) (k : K) :
    (insertAll key val m xs).lookup k =
      ((xs.reverse.find? (fun x => key x = k)).map val).or (m.lookup k) := by
  induction xs using List.reverseRecOn with
  | nil => rfl
  | append_singleton xs x ih =>
    rw [insertAll, insertEach_append_singleton, ← insertAll, find?_reverse_append_singleton]
    by_cases hx : key x = k
    · subst hx; simp [AList.lookup_insert]
    · simp [AList.lookup_insert_ne (Ne.symm hx), ih, hx]

/-- The last write under a key is one of the writes, and has that key. -/
theorem mem_of_find?_reverse_eq_some {key : α → K} {xs : List α} {k : K} {x : α}
    (h : xs.reverse.find? (fun x => key x = k) = some x) : x ∈ xs ∧ key x = k := by
  have hx := List.find?_some h
  exact ⟨List.mem_reverse.mp (List.mem_of_find?_eq_some h), of_decide_eq_true hx⟩

/-- A key of a map built from empty holds the value of the last element written under it. -/
theorem lookup_insertAll_empty_eq_some {key : α → K} {val : α → V} {xs : List α} {k : K}
    {v : V} : (insertAll key val ∅ xs).lookup k = some v ↔
      ∃ x, xs.reverse.find? (fun x => key x = k) = some x ∧ val x = v := by
  rw [lookup_insertAll, AList.lookup_empty, Option.or_none, Option.map_eq_some']

/-- The keys of a map built from empty are the keys written. -/
theorem isSome_lookup_insertAll_empty (key : α → K) (val : α → V) (xs : List α) (k : K) :
    ((insertAll key val ∅ xs).lookup k).isSome ↔ ∃ x ∈ xs, key x = k := by
  simp [lookup_insertAll, List.find?_isSome]

/-- Two maps built from empty agree under `R` at a key when both write that key, or neither does,
and any two values written under it are related. -/
theorem rel_lookup_insertAll {β V' : Type} {key₁ : α → K} {key₂ : β → K} {f : α → V} {g : β → V'}
    {R : V → V' → Prop} {xs : List α} {ys : List β} (k : K)
    (hkeys : (∃ x ∈ xs, key₁ x = k) ↔ ∃ y ∈ ys, key₂ y = k)
    (hvals : ∀ x ∈ xs, ∀ y ∈ ys, key₁ x = k → key₂ y = k → R (f x) (g y)) :
    Option.Rel R ((insertAll key₁ f ∅ xs).lookup k) ((insertAll key₂ g ∅ ys).lookup k) := by
  have hsome := (isSome_lookup_insertAll_empty key₁ f xs k).trans
    (hkeys.trans (isSome_lookup_insertAll_empty key₂ g ys k).symm)
  cases h₁ : (insertAll key₁ f ∅ xs).lookup k with
  | none =>
    rw [h₁, Option.isSome_none, Bool.false_eq_true, false_iff, Option.not_isSome_iff_eq_none] at hsome
    rw [hsome]
    exact .none
  | some v =>
    obtain ⟨w, h₂⟩ := Option.isSome_iff_exists.mp (hsome.mp (by rw [h₁]; rfl))
    rw [h₂]
    obtain ⟨x, hx, rfl⟩ := lookup_insertAll_empty_eq_some.mp h₁
    obtain ⟨y, hy, rfl⟩ := lookup_insertAll_empty_eq_some.mp h₂
    obtain ⟨hxm, hxk⟩ := mem_of_find?_reverse_eq_some hx
    obtain ⟨hym, hyk⟩ := mem_of_find?_reverse_eq_some hy
    exact .some (hvals x hxm y hym hxk hyk)

/-- A key written by an element whose value depends only on its key holds that value. -/
theorem lookup_insertAll_of_mem (key : α → K) (g : K → V) (m : HashMap K V) {xs : List α} {x : α}
    (hx : x ∈ xs) : (insertAll key (fun y => g (key y)) m xs).lookup (key x) = some (g (key x)) := by
  rw [lookup_insertAll]
  cases h : xs.reverse.find? (fun y => key y = key x) with
  | none => exact absurd (List.find?_eq_none.mp h x (List.mem_reverse.mpr hx)) (by simp)
  | some y =>
    have hy := List.find?_some h
    simp only [decide_eq_true_eq] at hy
    simp [hy]

/-- A map keyed by the elements themselves holds exactly the elements. -/
theorem lookup_insertAll_self (g : K → V) (xs : List K) (k : K) :
    (insertAll id g ∅ xs).lookup k = if k ∈ xs then some (g k) else none := by
  rw [lookup_insertAll, AList.lookup_empty, Option.or_none]
  simp only [id]
  split_ifs with hk
  · cases h : xs.reverse.find? (fun x => decide (x = k)) with
    | none => exact absurd (List.find?_eq_none.mp h k (List.mem_reverse.mpr hk)) (by simp)
    | some y =>
      have hy := List.find?_some h
      simp only [decide_eq_true_eq] at hy
      simp [hy]
  · rw [List.find?_eq_none.mpr fun y hy h => hk (by
      rw [← of_decide_eq_true h]; exact List.mem_reverse.mp hy)]
    rfl

/-- In a list with one entry per key, the last entry with a key is its only one. -/
theorem find?_reverse_of_nodupKeys {l : List (Σ _ : K, V)} (hl : l.NodupKeys) (k : K) :
    (l.reverse.find? (fun e => e.1 = k)).map Sigma.snd = l.dlookup k := by
  induction l with
  | nil => rfl
  | cons a t ih =>
    obtain ⟨ka, va⟩ := a
    rw [List.nodupKeys_cons] at hl
    rw [List.reverse_cons, List.find?_append, List.find?_singleton]
    by_cases ha : ka = k
    · subst ha
      have : t.reverse.find? (fun e => e.1 = ka) = none :=
        List.find?_eq_none.mpr fun x hx h => hl.1 (by
          simpa [of_decide_eq_true h] using List.mem_keys_of_mem (List.mem_reverse.mp hx))
      simp [this, List.dlookup_cons_eq]
    · rw [List.dlookup_cons_ne _ _ (Ne.symm ha), ← ih hl.2]
      cases t.reverse.find? (fun e => e.1 = k) <;> simp [ha]

/-- Inserting a map's entries into an empty map, with keys moved by an injective `f` and values
by `g`, moves the map. -/
theorem lookup_insertAll_entries {K' V' : Type} [DecidableEq K'] {f : K → K'}
    (hf : Function.Injective f) (g : V → V') (m : HashMap K V) (k : K) :
    (insertAll (fun e => f e.1) (fun e => g e.2) ∅ m.entries).lookup (f k) = (m.lookup k).map g := by
  rw [lookup_insertAll, AList.lookup_empty, Option.or_none]
  simp only [hf.eq_iff]
  rw [show m.lookup k = m.entries.dlookup k from rfl, ← find?_reverse_of_nodupKeys m.nodupKeys k,
    Option.map_map]
  rfl

omit [DecidableEq K] in
theorem lookup_insertAll_entries_of_not_mem {K' V' : Type} [DecidableEq K'] {f : K → K'}
    (g : V → V') (m : HashMap K V) {k' : K'} (hk : ∀ k, f k ≠ k') :
    (insertAll (fun e => f e.1) (fun e => g e.2) ∅ m.entries).lookup k' = none := by
  rw [lookup_insertAll, AList.lookup_empty, Option.or_none,
    List.find?_eq_none.mpr fun e _ h => hk e.1 (of_decide_eq_true h)]
  rfl

/-- `m.entry(k).or_default().insert(k₂, v)` on a map of maps. -/
def upsert (m : HashMap K (HashMap K₂ V)) (k : K) (k₂ : K₂) (v : V) : HashMap K (HashMap K₂ V) :=
  m.insert k (((m.lookup k).getD ∅).insert k₂ v)

/-- `upsert` for every element in order. -/
def upsertAll (key : α → K) (key₂ : α → K₂) (val : α → V) :
    HashMap K (HashMap K₂ V) → List α → HashMap K (HashMap K₂ V) :=
  insertEach key (fun m x => ((m.lookup (key x)).getD ∅).insert (key₂ x) (val x))

/-- **Last writer wins, per pair of keys.** -/
theorem lookup_upsertAll (key : α → K) (key₂ : α → K₂) (val : α → V)
    (m : HashMap K (HashMap K₂ V)) (xs : List α) (k : K) (k₂ : K₂) :
    (((upsertAll key key₂ val m xs).lookup k).getD ∅).lookup k₂ =
      ((xs.reverse.find? (fun x => key x = k ∧ key₂ x = k₂)).map val).or
        (((m.lookup k).getD ∅).lookup k₂) := by
  induction xs using List.reverseRecOn with
  | nil => rfl
  | append_singleton xs x ih =>
    rw [upsertAll, insertEach_append_singleton, ← upsertAll, find?_reverse_append_singleton]
    by_cases hx : key x = k
    · subst hx
      rw [AList.lookup_insert, Option.getD_some]
      by_cases hx₂ : key₂ x = k₂
      · subst hx₂; simp [AList.lookup_insert]
      · simpa [AList.lookup_insert_ne (Ne.symm hx₂), hx₂] using ih
    · rw [AList.lookup_insert_ne (Ne.symm hx)]
      simpa [hx] using ih

/-! ### Folds of parsed elements

A decoder's loop inserts the values it parsed; these lemmas read the resulting map back in terms
of the message elements it parsed them from. -/

section Parsed

variable {ε β γ : Type} {cs : List α}

theorem exists_of_forEachTry_eq_ok {parse : α → Except ε β} {step : γ → β → γ} {acc r : γ}
    (h : forEachTry parse step acc cs = .ok r) :
    ∃ xs : List β, xs.map .ok = cs.map parse ∧ r = xs.foldl step acc := by
  rw [forEachTry_eq] at h
  cases hxs : cs.mapM parse with
  | error e => rw [hxs] at h; cases h
  | ok xs => rw [hxs] at h; cases h; exact ⟨xs, map_ok_of_mapM_eq_ok hxs, rfl⟩

/-- A fallible loop of inserts: a key holds the parse of the last element with that key. -/
theorem lookup_of_forEachTry_insert {parse : α → Except ε β} {key : β → K} {val : β → V}
    {key' : α → K} {g : α → Except ε V}
    (hkey : ∀ c x, parse c = .ok x → key x = key' c ∧ g c = .ok (val x)) {m : HashMap K V}
    (h : forEachTry parse (fun m x => m.insert (key x) (val x)) ∅ cs = .ok m) (k : K) :
    (m.lookup k).map .ok = (cs.reverse.find? (key' · = k)).map g := by
  obtain ⟨xs, hxs, rfl⟩ := exists_of_forEachTry_eq_ok h
  have hrev : xs.reverse.map .ok = cs.reverse.map parse := by
    rw [List.map_reverse, List.map_reverse, hxs]
  change ((insertAll key val ∅ xs).lookup k).map Except.ok = _
  rw [lookup_insertAll, AList.lookup_empty, Option.or_none, Option.map_map]
  exact find?_map_of_map_ok (fun c x hx => by simp [(hkey c x hx).1, (hkey c x hx).2]) hrev

/-- A fallible loop of `entry().or_default()` inserts: a pair of keys holds the parse of the last
element with that pair. -/
theorem lookup_of_forEachTry_upsert {parse : α → Except ε (K × K₂ × V)} {key : α → Option K}
    {key₂ : α → K₂} {g : α → Except ε V}
    (hkey : ∀ c x, parse c = .ok x → key c = some x.1 ∧ key₂ c = x.2.1 ∧ g c = .ok x.2.2)
    {m : HashMap K (HashMap K₂ V)}
    (h : forEachTry parse (fun m x => upsert m x.1 x.2.1 x.2.2) ∅ cs = .ok m) (k : K) (k₂ : K₂) :
    (((m.lookup k).getD ∅).lookup k₂).map .ok =
      (cs.reverse.find? (fun c => key c = some k ∧ key₂ c = k₂)).map g := by
  obtain ⟨xs, hxs, rfl⟩ := exists_of_forEachTry_eq_ok h
  have hrev : xs.reverse.map .ok = cs.reverse.map parse := by
    rw [List.map_reverse, List.map_reverse, hxs]
  change ((((upsertAll Prod.fst (·.2.1) (·.2.2) ∅ xs).lookup k).getD ∅).lookup k₂).map Except.ok = _
  rw [lookup_upsertAll, AList.lookup_empty, Option.getD_none, AList.lookup_empty, Option.or_none,
    Option.map_map]
  exact find?_map_of_map_ok (fun c x hx => by simp [(hkey c x hx).1, (hkey c x hx).2]) hrev

/-- The outer keys of a fallible loop of `entry().or_default()` inserts. -/
theorem mem_of_forEachTry_insertEach {parse : α → Except ε β} {key : β → K}
    {f : HashMap K V → β → V} {key' : α → Option K}
    (hkey : ∀ c x, parse c = .ok x → key' c = some (key x)) {m : HashMap K V}
    (h : forEachTry parse (fun m x => m.insert (key x) (f m x)) ∅ cs = .ok m) (k : K) :
    k ∈ m ↔ ∃ c ∈ cs, key' c = some k := by
  obtain ⟨xs, hxs, rfl⟩ := exists_of_forEachTry_eq_ok h
  change k ∈ insertEach key f ∅ xs ↔ _
  rw [mem_insertEach]
  simp only [AList.not_mem_empty, or_false, mem_of_map_ok hxs]
  constructor
  · rintro ⟨x, ⟨c, hc, hx⟩, rfl⟩
    exact ⟨c, hc, hkey c x hx⟩
  · rintro ⟨c, hc, hk⟩
    obtain ⟨x, hx⟩ := exists_ok_of_map_ok hxs hc
    exact ⟨x, ⟨c, hc, hx⟩, Option.some_injective _ ((hkey c x hx).symm.trans hk)⟩

end Parsed

variable [DecidableEq V]

/-- `m.entry(k).or_default().insert(v)` on a map of sets. -/
def addTo (m : HashMap K (Finset V)) (k : K) (v : V) : HashMap K (Finset V) :=
  m.insert k (insert v ((m.lookup k).getD ∅))

/-- `addTo` for every element in order. -/
def addAll (key : α → K) (val : α → V) :
    HashMap K (Finset V) → List α → HashMap K (Finset V) :=
  insertEach key (fun m x => insert (val x) ((m.lookup (key x)).getD ∅))

/-- **Set union per key.** -/
theorem lookup_addAll (key : α → K) (val : α → V) (m : HashMap K (Finset V)) (xs : List α)
    (k : K) :
    ((addAll key val m xs).lookup k).getD ∅ =
      ((xs.filter (fun x => key x = k)).map val).toFinset ∪ (m.lookup k).getD ∅ := by
  induction xs using List.reverseRecOn with
  | nil => simp [addAll, insertEach]
  | append_singleton xs x ih =>
    rw [addAll, insertEach_append_singleton, ← addAll]
    by_cases hx : key x = k
    · subst hx
      rw [AList.lookup_insert, Option.getD_some, ih]
      simp [List.filter_append, Finset.insert_eq, Finset.union_left_comm]
    · rw [AList.lookup_insert_ne (Ne.symm hx), ih]
      simp [hx]


/-- A fallible loop of `entry().or_default().insert(v)` on a map of sets: a key holds the parse
of every element with that key. -/
theorem mem_lookup_of_forEachTry_addTo {ε : Type} {cs : List α} {parse : α → Except ε (K × V)}
    {key : α → K} {g : α → Except ε V} (hkey : ∀ c x, parse c = .ok x → key c = x.1 ∧ g c = .ok x.2)
    {m : HashMap K (Finset V)} (h : forEachTry parse (fun m x => addTo m x.1 x.2) ∅ cs = .ok m)
    (k : K) (v : V) : v ∈ (m.lookup k).getD ∅ ↔ ∃ c ∈ cs, key c = k ∧ g c = .ok v := by
  obtain ⟨xs, hxs, rfl⟩ := exists_of_forEachTry_eq_ok h
  change v ∈ ((addAll Prod.fst Prod.snd ∅ xs).lookup k).getD ∅ ↔ _
  rw [lookup_addAll]
  simp only [AList.lookup_empty, Option.getD_none, Finset.union_empty, List.mem_toFinset,
    List.mem_map, List.mem_filter, decide_eq_true_eq, mem_of_map_ok hxs]
  constructor
  · rintro ⟨x, ⟨⟨c, hc, hx⟩, rfl⟩, rfl⟩
    exact ⟨c, hc, (hkey c x hx).1, (hkey c x hx).2⟩
  · rintro ⟨c, hc, rfl, hg⟩
    obtain ⟨x, hx⟩ := exists_ok_of_map_ok hxs hc
    obtain ⟨hk, hgx⟩ := hkey c x hx
    exact ⟨x, ⟨⟨c, hc, hx⟩, hk.symm⟩, Except.ok.inj (hgx.symm.trans hg)⟩

end HashMap

/-! ### The standard library -/

/-- The two functions of Rust's standard library whose results the decoders depend on, taken by
their documented contracts rather than by an implementation. -/
structure RustStd where
  /-- `String::from_utf8`: the decoded string, or the text of its `FromUtf8Error`. -/
  fromUtf8 : Bytes → Except String String
  /-- `slice::sort_unstable_by_key`, on a key read as a natural number. -/
  sortUnstableByKey : {α : Type} → (α → Nat) → List α → List α
  /-- The sort permutes its input. -/
  sortUnstableByKey_perm : ∀ {α : Type} (key : α → Nat) (l : List α),
    (sortUnstableByKey key l).Perm l
  /-- The sort orders by the key; elements with equal keys may come in any order. -/
  sortUnstableByKey_sorted : ∀ {α : Type} (key : α → Nat) (l : List α),
    (sortUnstableByKey key l).Pairwise (fun a b => key a ≤ key b)

/-- On distinct keys the order the sort gives is strict. -/
theorem RustStd.sortUnstableByKey_strict (std : RustStd) {α : Type} (key : α → Nat) {l : List α}
    (hkeys : (l.map key).Nodup) :
    (std.sortUnstableByKey key l).Pairwise (fun a b => key a < key b) :=
  ((std.sortUnstableByKey_sorted key l).and (List.pairwise_map.mp
    (((std.sortUnstableByKey_perm key l).map key).nodup_iff.mpr hkeys))).imp
    fun h => lt_of_le_of_ne h.1 h.2

/-- **The unstable sort is determined on distinct keys**: it gives the one arrangement of its
input that is strictly increasing in the key. -/
theorem RustStd.sortUnstableByKey_eq_of_sorted (std : RustStd) {α : Type} (key : α → Nat)
    {l₁ l₂ : List α} (hperm : l₁.Perm l₂) (hsorted : l₂.Pairwise fun a b => key a < key b) :
    std.sortUnstableByKey key l₁ = l₂ := by
  have hkeys : (l₁.map key).Nodup :=
    (hperm.map key).nodup_iff.mpr (List.pairwise_map.mpr (hsorted.imp Nat.ne_of_lt))
  haveI : IsAntisymm α (fun a b => key a < key b) :=
    ⟨fun _ _ h₁ h₂ => absurd (h₁.trans h₂) (lt_irrefl _)⟩
  exact List.eq_of_perm_of_sorted ((std.sortUnstableByKey_perm key l₁).trans hperm)
    (std.sortUnstableByKey_strict key hkeys) hsorted

/-- Permuted inputs whose keys are distinct sort to the same list, whatever the sort does with
ties. -/
theorem RustStd.sortUnstableByKey_eq_of_perm (std : RustStd) {α : Type} (key : α → Nat)
    {l₁ l₂ : List α} (hperm : l₁.Perm l₂) (hkeys : (l₁.map key).Nodup) :
    std.sortUnstableByKey key l₁ = std.sortUnstableByKey key l₂ :=
  std.sortUnstableByKey_eq_of_sorted key (hperm.trans (std.sortUnstableByKey_perm key l₂).symm)
    (std.sortUnstableByKey_strict key ((hperm.map key).nodup_iff.mp hkeys))

/-- One implementation that meets the contract: Lean's UTF-8 decoder and the stable insertion
sort. -/
def RustStd.reference : RustStd where
  fromUtf8 b := match String.fromUTF8? ⟨b.toArray⟩ with
    | some s => .ok s
    | none => .error "invalid utf-8 sequence"
  sortUnstableByKey key l := l.insertionSort (fun a b => key a ≤ key b)
  sortUnstableByKey_perm _ l := List.perm_insertionSort _ l
  sortUnstableByKey_sorted key l :=
    @List.sorted_insertionSort _ (fun a b => key a ≤ key b) _ ⟨fun _ _ => Nat.le_total _ _⟩
      ⟨fun _ _ _ => Nat.le_trans⟩ l

end TychoIndexer
