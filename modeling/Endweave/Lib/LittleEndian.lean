import Mathlib.Data.List.Basic
import Mathlib.Tactic.Positivity
import Mathlib.Tactic.Ring

/-!
# Little-endian words

`encode k n` lists the `k` low bytes of `n`, least significant first, and `decode` reads such a list
back (`decode_encode`).  `toSigned k` and `ofSigned k` convert between a `k`-byte word and the two's
complement integer it stands for; `toSigned_ofSigned` says that an integer in range survives.
-/

namespace LittleEndian

/-- The `k` low bytes of `n`, least significant first. -/
def encode : Nat → Nat → List UInt8
  | 0, _ => []
  | k + 1, n => UInt8.ofNat (n % 256) :: encode k (n / 256)

/-- The number whose base-256 digits are listed, least significant first. -/
def decode : List UInt8 → Nat
  | [] => 0
  | b :: bs => b.toNat + 256 * decode bs

@[simp] theorem length_encode (k n : Nat) : (encode k n).length = k := by
  induction k generalizing n with
  | zero => rfl
  | succ k ih => rw [encode, List.length_cons, ih]

theorem decode_encode (k n : Nat) : decode (encode k n) = n % 256 ^ k := by
  induction k generalizing n with
  | zero => simp [encode, decode, Nat.mod_one]
  | succ k ih =>
    have hmod : n % 256 ^ (k + 1) = n % 256 + 256 * (n / 256 % 256 ^ k) := by
      rw [Nat.pow_succ', Nat.mod_mul]
    rw [encode, decode, ih, UInt8.toNat_ofNat', hmod]
    omega

theorem decode_lt (bs : List UInt8) : decode bs < 256 ^ bs.length := by
  induction bs with
  | nil => simp [decode]
  | cons b bs ih =>
    have hb := b.toNat_lt
    rw [decode, List.length_cons, Nat.pow_succ]
    omega

/-! ### Two's complement -/

/-- The integer that a `k`-byte word stands for in two's complement. -/
def toSigned (k n : Nat) : Int := if 2 * n < 256 ^ k then n else (n : Int) - 256 ^ k

/-- The `k`-byte word that stands for an integer in two's complement. -/
def ofSigned (k : Nat) (v : Int) : Nat := (v % 256 ^ k).toNat

/-- A word of `k` bytes stands for an integer of `8 * k` bits. -/
theorem toSigned_bounds {k n : Nat} (h : n < 256 ^ k) :
    -(256 ^ k : Int) ≤ 2 * toSigned k n ∧ 2 * toSigned k n < 256 ^ k := by
  have hlt : (n : Int) < 256 ^ k := by exact_mod_cast h
  unfold toSigned
  split_ifs with hn
  · have hn' : (2 * n : Int) < 256 ^ k := by exact_mod_cast hn
    constructor <;> omega
  · have hn' : (256 ^ k : Int) ≤ 2 * n := by exact_mod_cast Nat.le_of_not_lt hn
    constructor <;> omega

theorem ofSigned_lt (k : Nat) (v : Int) : ofSigned k v < 256 ^ k := by
  have hpos : (0 : Int) < 256 ^ k := by positivity
  have h := Int.emod_lt_of_pos v hpos
  have h0 := Int.emod_nonneg v hpos.ne'
  unfold ofSigned
  have hcast : ((v % 256 ^ k).toNat : Int) < ((256 ^ k : Nat) : Int) := by
    rw [Int.toNat_of_nonneg h0]
    exact_mod_cast h
  exact_mod_cast hcast

theorem toSigned_ofSigned {k : Nat} {v : Int} (hlo : -(256 ^ k : Int) ≤ 2 * v)
    (hhi : 2 * v < 256 ^ k) : toSigned k (ofSigned k v) = v := by
  have hpos : (0 : Int) < 256 ^ k := by positivity
  have h0 := Int.emod_nonneg v hpos.ne'
  have hcast : ((ofSigned k v : Nat) : Int) = v % 256 ^ k := Int.toNat_of_nonneg h0
  unfold toSigned
  rcases lt_or_ge v 0 with hv | hv
  · -- a negative integer is stored as a word in the upper half
    have hmod : v % 256 ^ k = v + 256 ^ k := by
      rw [← Int.add_emod_right, Int.emod_eq_of_lt (by omega) (by omega)]
    rw [if_neg, hcast, hmod]
    · omega
    · intro hlt
      have : (2 * (ofSigned k v : Int)) < 256 ^ k := by exact_mod_cast hlt
      omega
  · have hmod : v % 256 ^ k = v := Int.emod_eq_of_lt hv (by omega)
    rw [if_pos, hcast, hmod]
    have : (2 * (ofSigned k v : Int)) < 256 ^ k := by omega
    exact_mod_cast this

end LittleEndian
