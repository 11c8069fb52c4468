import TychoIndexer.Basic

/-!
# The codec layer

Big-endian conversions between byte strings and unsigned integers: `fromBigEndian` is
`U256::from_big_endian`, `toBeBytes w` is `to_be_bytes::<w>()`. The round trip on a word of any
width (`toBeBytes_fromBigEndian`) is the codec property the specification lists: a 32-byte
string read as a big-endian integer and written back is the same string.

The decoders also compute `balance_float` with `bytes_to_f64`, a function of the repository that
is not among the sources; it is modelled from the specification, with an `f64` kept symbolically
as the integer it converts (`F64`).
-/

namespace TychoIndexer

/-- The unsigned integer a byte string denotes, most significant byte first. -/
def fromBigEndian (b : Bytes) : Nat :=
  b.foldl (fun n x => n * 256 + x.toNat) 0

/-- The `w` low-order bytes of `n`, most significant first. -/
def toBeBytes : Nat → Nat → Bytes
  | 0, _ => []
  | w + 1, n => toBeBytes w (n / 256) ++ [UInt8.ofNat (n % 256)]

theorem toNat_ofNat_mod (n : Nat) : (UInt8.ofNat (n % 256)).toNat = n % 256 :=
  UInt8.toNat_ofNat_of_lt (Nat.mod_lt _ (by decide))

theorem fromBigEndian_append_singleton (b : Bytes) (x : UInt8) :
    fromBigEndian (b ++ [x]) = fromBigEndian b * 256 + x.toNat := by
  simp [fromBigEndian]

@[simp] theorem length_toBeBytes (w n : Nat) : (toBeBytes w n).length = w := by
  induction w generalizing n with
  | zero => rfl
  | succ w ih => simp [toBeBytes, ih]

/-- Writing `n` on `w` bytes and reading it back gives `n` modulo `256 ^ w`. -/
theorem fromBigEndian_toBeBytes (w n : Nat) : fromBigEndian (toBeBytes w n) = n % 256 ^ w := by
  induction w generalizing n with
  | zero => simp [toBeBytes, fromBigEndian, Nat.mod_one]
  | succ w ih =>
    rw [toBeBytes, fromBigEndian_append_singleton, ih, toNat_ofNat_mod, pow_succ', Nat.mod_mul]
    omega

/-- A byte string denotes a number below `256 ^ length`. -/
theorem fromBigEndian_lt (b : Bytes) : fromBigEndian b < 256 ^ b.length := by
  induction b using List.reverseRecOn with
  | nil => decide
  | append_singleton b x ih =>
    have h := Nat.mul_le_mul_right 256 ih
    have hx : x.toNat < 256 := x.toNat_lt_size
    rw [fromBigEndian_append_singleton, List.length_append, List.length_singleton, pow_succ]
    omega

/-- **Codec round trip.** A byte string read as a big-endian integer and written back on its own
width is unchanged. -/
theorem toBeBytes_fromBigEndian (b : Bytes) : toBeBytes b.length (fromBigEndian b) = b := by
  induction b using List.reverseRecOn with
  | nil => rfl
  | append_singleton b x ih =>
    have hx : x.toNat < 256 := x.toNat_lt_size
    have h₁ : (fromBigEndian b * 256 + x.toNat) / 256 = fromBigEndian b := by omega
    have h₂ : (fromBigEndian b * 256 + x.toNat) % 256 = x.toNat := by omega
    rw [List.length_append, List.length_singleton, toBeBytes, fromBigEndian_append_singleton, h₁,
      h₂, ih, UInt8.toNat.inj (UInt8.toNat_ofNat_of_lt hx)]

/-! ### `balance_float` -/

/-- An `f64` as the decoders produce it: the conversion of an unsigned integer, or NaN. Rounding
is not modelled, so two conversions are kept apart here even where they round to the same
`f64`. -/
inductive F64
  | ofNat (n : Nat)
  | nan
  deriving DecidableEq, Repr

/-- `f64::MAX`, `(2 ^ 53 - 1) * 2 ^ 971`. -/
def f64Max : Nat := (2 ^ 53 - 1) * 2 ^ 971

/-- Modelled from the spec: `u256_num::bytes_to_f64`, which is not among the sources. It reads
its input as an unsigned big-endian integer and gives no value when the magnitude exceeds
`f64::MAX`. -/
def bytesToF64 (b : Bytes) : Option F64 :=
  if fromBigEndian b ≤ f64Max then some (.ofNat (fromBigEndian b)) else none

end TychoIndexer
