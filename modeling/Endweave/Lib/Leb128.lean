import Mathlib.Data.List.Basic
import Mathlib.Data.Int.Bitwise
import Mathlib.Tactic.Positivity
import Mathlib.Tactic.Ring

/-!
# LEB128 and zigzag

A LEB128 number is a list of bytes that each carry seven bits, least significant first; every byte
but the last has its top bit set (`Terminated`).  `value` is the number such a list stands for and
`encode k n` is the shortest list for a number of at most `k` groups.

The second half is about integers of unbounded size under bit operations: `land_mask` turns a mask
into a remainder, and `zigzag`, `unzigzag` are the arithmetic form of the shift-and-xor expressions
that fold the sign of an integer into its lowest bit.
-/

namespace Leb128

/-! ### Groups of seven bits -/

/-- Taking off the lowest group. -/
theorem div_lt_pow {k n : Nat} (h : n < 128 ^ (k + 1)) : n / 128 < 128 ^ k := by
  rw [Nat.div_lt_iff_lt_mul (by norm_num), ← Nat.pow_succ]
  exact h

/-- The shortest LEB128 form of `n`, cut off after `k` groups. -/
def encode : Nat → Nat → List UInt8
  | 0, _ => []
  | k + 1, n =>
    if n < 128 then [UInt8.ofNat n] else UInt8.ofNat (n % 128 + 128) :: encode k (n / 128)

theorem length_encode_pos {k : Nat} (hk : 0 < k) (n : Nat) : 0 < (encode k n).length := by
  obtain ⟨j, rfl⟩ : ∃ j, k = j + 1 := ⟨k - 1, by omega⟩
  unfold encode
  split_ifs <;> simp only [List.length_cons] <;> omega

/-- The number whose groups of seven bits are listed, least significant first. -/
def value : List UInt8 → Nat
  | [] => 0
  | b :: bs => b.toNat % 128 + 128 * value bs

theorem value_singleton (b : UInt8) : value [b] = b.toNat % 128 := by
  rw [value, value, Nat.mul_zero, Nat.add_zero]

/-- Exactly the last byte has its top bit clear. -/
def Terminated : List UInt8 → Prop
  | [] => False
  | [b] => b.toNat < 128
  | b :: bs => 128 ≤ b.toNat ∧ Terminated bs

/-- A terminated list ends at its head or goes on after it. -/
theorem terminated_cons_iff {b : UInt8} {bs : List UInt8} :
    Terminated (b :: bs) ↔ b.toNat < 128 ∧ bs = [] ∨ 128 ≤ b.toNat ∧ Terminated bs := by
  cases bs with
  | nil => simp [Terminated]
  | cons b' bs => simp [Terminated]

theorem terminated_cons {b : UInt8} {bs : List UInt8} (hb : 128 ≤ b.toNat) (h : Terminated bs) :
    Terminated (b :: bs) := by
  cases bs with
  | nil => exact absurd h id
  | cons b' bs => exact ⟨hb, h⟩

theorem terminated_encode {k n : Nat} (h : n < 128 ^ k) : Terminated (encode k n) ∨ k = 0 := by
  induction k generalizing n with
  | zero => exact Or.inr rfl
  | succ k ih =>
    refine Or.inl ?_
    unfold encode
    split_ifs with hn
    · show (UInt8.ofNat n).toNat < 128
      rw [UInt8.toNat_ofNat']
      omega
    · have hk : n / 128 < 128 ^ k := div_lt_pow h
      rcases ih hk with ht | rfl
      · refine terminated_cons ?_ ht
        rw [UInt8.toNat_ofNat']
        omega
      · rw [Nat.pow_zero, Nat.lt_one_iff] at hk
        omega

theorem value_encode {k n : Nat} (h : n < 128 ^ k) : value (encode k n) = n := by
  induction k generalizing n with
  | zero =>
    rw [Nat.pow_zero, Nat.lt_one_iff] at h
    rw [h, encode, value]
  | succ k ih =>
    unfold encode
    split_ifs with hn
    · rw [value, value, UInt8.toNat_ofNat']
      omega
    · have hk : n / 128 < 128 ^ k := div_lt_pow h
      rw [value, ih hk, UInt8.toNat_ofNat']
      omega

theorem value_lt (bs : List UInt8) : value bs < 128 ^ bs.length := by
  induction bs with
  | nil => simp [value]
  | cons b bs ih =>
    rw [value, List.length_cons, Nat.pow_succ]
    omega

theorem length_encode_self_le (k n : Nat) : (encode k n).length ≤ k := by
  induction k generalizing n with
  | zero => exact Nat.zero_le _
  | succ k ih =>
    unfold encode
    split_ifs
    · exact Nat.succ_le_succ (Nat.zero_le k)
    · exact Nat.succ_le_succ (ih _)

/-- The shortest form of a number that fits `j` groups has at most `j` groups. -/
theorem length_encode_le (k : Nat) {j n : Nat} (hj : 0 < j) (h : n < 128 ^ j) :
    (encode k n).length ≤ j := by
  induction k generalizing j n with
  | zero => exact Nat.zero_le _
  | succ k ih =>
    unfold encode
    split_ifs with hn
    · exact hj
    · obtain ⟨i, rfl⟩ : ∃ i, j = i + 1 := ⟨j - 1, by omega⟩
      have hi : 0 < i := by
        rcases Nat.eq_zero_or_pos i with rfl | hi
        · rw [Nat.zero_add, Nat.pow_one] at h
          exact absurd h hn
        · exact hi
      rw [List.length_cons, Nat.succ_le_succ_iff]
      exact ih hi (div_lt_pow h)

/-- One of the first `k` bytes ends the number, or the byte behind them is below `limit`. -/
def FitsLast (limit : Nat) : Nat → List UInt8 → Prop
  | _, [] => True
  | 0, b :: _ => b.toNat < limit
  | k + 1, b :: bs => b.toNat < 128 ∨ FitsLast limit k bs

instance decidableFitsLast (limit : Nat) : ∀ k bs, Decidable (FitsLast limit k bs)
  | 0, [] => isTrue trivial
  | _ + 1, [] => isTrue trivial
  | 0, b :: _ => inferInstanceAs (Decidable (b.toNat < limit))
  | k + 1, b :: bs =>
    have := decidableFitsLast limit k bs
    inferInstanceAs (Decidable (b.toNat < 128 ∨ FitsLast limit k bs))

/-- A number of at most `k + 1` groups is below `limit * 128 ^ k` exactly when its last group, if
there are that many, is below `limit`. -/
theorem value_lt_iff {limit : Nat} (hlimit : 0 < limit) {k : Nat} {bs : List UInt8}
    (ht : Terminated bs) (hlen : bs.length ≤ k + 1) (suf : List UInt8) :
    value bs < limit * 128 ^ k ↔ FitsLast limit k (bs ++ suf) := by
  induction k generalizing bs with
  | zero =>
    obtain ⟨b, rfl⟩ : ∃ b, bs = [b] := by
      cases bs with
      | nil => exact absurd ht id
      | cons b bs => exact ⟨b, by simpa using hlen⟩
    have hb : b.toNat < 128 := ht
    rw [value_singleton, Nat.mod_eq_of_lt hb, Nat.pow_zero, Nat.mul_one]
    exact Iff.rfl
  | succ k ih =>
    cases bs with
    | nil => exact absurd ht id
    | cons b bs =>
      rw [List.length_cons] at hlen
      rw [value, Nat.pow_succ, ← Nat.mul_assoc, List.cons_append, FitsLast]
      rcases terminated_cons_iff.mp ht with ⟨hb, rfl⟩ | ⟨hb, ht'⟩
      · -- the number ends here, below any limit
        have hpos : 0 < limit * 128 ^ k := Nat.mul_pos hlimit (by positivity)
        refine iff_of_true ?_ (Or.inl hb)
        rw [value]
        omega
      · rw [← ih ht' (by omega)]
        omega

/-! ### Masks -/

/-- A mask of `k` ones is a remainder modulo `2 ^ k`, also of a negative integer. -/
theorem land_mask (v : Int) (k : Nat) : Int.land v (2 ^ k - 1) = v % 2 ^ k := by
  have hmask : ((2 : Int) ^ k - 1) = ((2 ^ k - 1 : Nat) : Int) := by
    rw [Nat.cast_sub Nat.one_le_two_pow]
    push_cast
    ring
  rw [hmask]
  cases v with
  | ofNat m =>
    show ((m &&& (2 ^ k - 1) : Nat) : Int) = (m : Int) % 2 ^ k
    rw [Nat.and_two_pow_sub_one_eq_mod]
    push_cast
    rfl
  | negSucc m =>
    -- the bits of `-m - 1` are the complement of the bits of `m`
    show ((Nat.ldiff (2 ^ k - 1) m : Nat) : Int) = Int.negSucc m % 2 ^ k
    have hlt : m % 2 ^ k < 2 ^ k := Nat.mod_lt _ (Nat.two_pow_pos k)
    have hdiff : Nat.ldiff (2 ^ k - 1) m = 2 ^ k - (m % 2 ^ k + 1) := by
      apply Nat.eq_of_testBit_eq
      intro i
      rw [Nat.testBit_ldiff, Nat.testBit_two_pow_sub_one, Nat.testBit_two_pow_sub_succ hlt,
        Nat.testBit_mod_two_pow]
      by_cases hi : i < k <;> simp [hi]
    rw [hdiff, Int.negSucc_emod _ (by positivity), Nat.cast_sub (by omega)]
    push_cast
    omega

/-- Exclusive or with zero. -/
theorem xor_zero (v : Int) : Int.xor v 0 = v := by
  cases v with
  | ofNat m => exact congrArg Int.ofNat (Nat.xor_zero m)
  | negSucc m => exact congrArg Int.negSucc (Nat.xor_zero m)

/-- Exclusive or with all ones is the complement. -/
theorem xor_neg_one (v : Int) : Int.xor v (-1) = -v - 1 := by
  cases v with
  | ofNat m =>
    show Int.negSucc (m ^^^ 0) = -(m : Int) - 1
    rw [Nat.xor_zero]
    omega
  | negSucc m =>
    show ((m ^^^ 0 : Nat) : Int) = -Int.negSucc m - 1
    rw [Nat.xor_zero]
    omega

/-! ### Zigzag -/

/-- Fold the sign of an integer into the lowest bit. -/
def zigzag (v : Int) : Int := if 0 ≤ v then 2 * v else -2 * v - 1

/-- Undo `zigzag`. -/
def unzigzag (n : Int) : Int := if n % 2 = 0 then n / 2 else -(n / 2) - 1

theorem unzigzag_zigzag (v : Int) : unzigzag (zigzag v) = v := by
  unfold unzigzag zigzag
  split_ifs <;> omega

theorem zigzag_unzigzag {n : Int} (h : 0 ≤ n) : zigzag (unzigzag n) = n := by
  unfold unzigzag zigzag
  split_ifs <;> omega

theorem zigzag_nonneg (v : Int) : 0 ≤ zigzag v := by
  unfold zigzag
  split_ifs <;> omega

/-- The shift-and-xor form of `zigzag`, for an integer whose sign is its `k`-th bit. -/
theorem zigzag_eq_xor {v : Int} {k : Nat} (hlo : -2 ^ k ≤ v) (hhi : v < 2 ^ k) :
    Int.xor (v <<< (1 : Nat)) (v >>> k) = zigzag v := by
  rw [Int.shiftRight_eq_div_pow, Int.shiftLeft_eq, zigzag]
  -- the sign, shifted down, is a word of zeros or of ones
  split_ifs with hv
  · rw [show v / ((2 ^ k : Nat) : Int) = 0 from Int.ediv_eq_zero_of_lt hv (by exact_mod_cast hhi),
      xor_zero]
    omega
  · have hdiv : v / ((2 ^ k : Nat) : Int) = -1 := by
      push_cast
      rw [Int.ediv_eq_iff_of_pos (by positivity)]
      omega
    rw [hdiv, xor_neg_one]
    omega

/-- The shift-and-xor form of `unzigzag`. -/
theorem unzigzag_eq_xor {n : Int} :
    Int.xor (n >>> (1 : Nat)) (-Int.land n 1) = unzigzag n := by
  have hmask : Int.land n 1 = n % 2 := by
    have := land_mask n 1
    norm_num at this
    exact this
  rw [Int.shiftRight_eq_div_pow, hmask, unzigzag]
  split_ifs with h
  · rw [h, neg_zero, xor_zero]
    norm_num
  · rw [show n % 2 = 1 by omega, xor_neg_one]
    norm_num

end Leb128
