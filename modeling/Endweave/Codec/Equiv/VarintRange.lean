import Endweave.Codec.Equiv.Untrusted

/-!
# The range of the varint readers

The readers stop after five or ten groups of seven bits, which hold more than 32 or 64 bits.
`varint_inRange_iff`: what a reader returns lies in its range, and passing the field on keeps its
value, exactly when a fifth group is below 16 or a tenth group below 2.
-/

namespace Endweave

open Wire PacketReader PacketWriter PacketWrapper

/-- The types of variable length. -/
inductive VarintType where
  | uvarInt
  | varInt
  | uvarInt64
  | varInt64
deriving Repr, DecidableEq

namespace VarintType

def type : VarintType → FieldType Int
  | uvarInt => Endweave.uvarInt
  | varInt => Endweave.varInt
  | uvarInt64 => Endweave.uvarInt64
  | varInt64 => Endweave.varInt64

def InRange : VarintType → Int → Prop
  | uvarInt => InUInt32
  | varInt => InInt32
  | uvarInt64 => InUInt64
  | varInt64 => InInt64

/-- The number of groups whose bits all count. -/
def fullGroups : VarintType → Nat
  | uvarInt | varInt => 4
  | uvarInt64 | varInt64 => 9

/-- The bound on the group behind them. -/
def lastLimit : VarintType → Nat
  | uvarInt | varInt => 2 ^ 4
  | uvarInt64 | varInt64 => 2

/-- The last group at the front of `bs`, if the reader gets there, is within its bound. -/
def FitsLast (k : VarintType) (bs : List UInt8) : Prop :=
  Leb128.FitsLast k.lastLimit k.fullGroups bs

/-- What the writer makes of an integer. -/
def wrap : VarintType → Int → Int
  | uvarInt, v => v % 2 ^ 32
  | varInt, v => wrapSigned 31 v
  | uvarInt64, v => v % 2 ^ 64
  | varInt64, v => wrapSigned 63 v

theorem wrap_codes (k : VarintType) (v : Int) : Codes (k.type.write v) k.type.read (k.wrap v) := by
  cases k with
  | uvarInt => exact uvarInt_codes v
  | varInt => exact varInt_codes v
  | uvarInt64 => exact uvarInt64_codes v
  | varInt64 => exact varInt64_codes v

theorem emod_eq_self_iff {v m : Int} (hm : 0 < m) : v % m = v ↔ 0 ≤ v ∧ v < m := by
  constructor
  · intro h
    rw [← h]
    exact ⟨Int.emod_nonneg v hm.ne', Int.emod_lt_of_pos v hm⟩
  · rintro ⟨hlo, hhi⟩
    exact Int.emod_eq_of_lt hlo hhi

theorem wrapSigned_eq_self_iff {k : Nat} {v : Int} :
    wrapSigned k v = v ↔ -2 ^ k ≤ v ∧ v < 2 ^ k := by
  constructor
  · intro h
    rw [← h]
    exact wrapSigned_bounds k v
  · exact wrapSigned_of_bounds

theorem wrap_eq_self_iff (k : VarintType) (v : Int) : k.wrap v = v ↔ k.InRange v := by
  cases k with
  | uvarInt => exact emod_eq_self_iff (by norm_num)
  | varInt => exact wrapSigned_eq_self_iff
  | uvarInt64 => exact emod_eq_self_iff (by norm_num)
  | varInt64 => exact wrapSigned_eq_self_iff

/-- Unfolding a sign halves the range. -/
theorem unzigzag_range_iff {k n : Nat} :
    -2 ^ k ≤ Leb128.unzigzag n ∧ Leb128.unzigzag n < 2 ^ k ↔ n < 2 ^ (k + 1) := by
  constructor
  · intro h
    have hz := (zigzag_range h).2
    rw [Leb128.zigzag_unzigzag (Int.natCast_nonneg n)] at hz
    exact_mod_cast hz
  · intro h
    exact unzigzag_range ⟨Int.natCast_nonneg n, by exact_mod_cast h⟩

/-- The groups that a reader has consumed, and whether their number is in range. -/
theorem read_takes (k : VarintType) : Takes k.type.read fun bs v =>
    Leb128.Terminated bs ∧ bs.length ≤ k.fullGroups + 1 ∧
      (k.InRange v ↔ Leb128.value bs < k.lastLimit * 128 ^ k.fullGroups) := by
  -- a signed value is in range when the number that its sign is folded into is
  cases k with
  | uvarInt =>
    refine readUVarint_takes.mono ?_
    rintro bs v ⟨ht, hlen, rfl⟩
    refine ⟨ht, hlen, ?_⟩
    show InUInt32 _ ↔ _ < 2 ^ 4 * 128 ^ 4
    unfold InUInt32
    omega
  | varInt =>
    refine readVarint_takes.mono ?_
    rintro bs v ⟨ht, hlen, rfl⟩
    exact ⟨ht, hlen, unzigzag_range_iff⟩
  | uvarInt64 =>
    refine readUVarint64_takes.mono ?_
    rintro bs v ⟨ht, hlen, rfl⟩
    refine ⟨ht, hlen, ?_⟩
    show InUInt64 _ ↔ _ < 2 * 128 ^ 9
    unfold InUInt64
    omega
  | varInt64 =>
    refine readVarint64_takes.mono ?_
    rintro bs v ⟨ht, hlen, rfl⟩
    exact ⟨ht, hlen, unzigzag_range_iff⟩

theorem lastLimit_pos (k : VarintType) : 0 < k.lastLimit := by cases k <;> decide

theorem within_of_read {k : VarintType} {c c' : PacketReader} {v : Int}
    (h : k.type.read c = .ok v c') : c.Within := by
  have hrest : c.rest ≠ [] := by
    cases k with
    | uvarInt => exact rest_ne_nil_of_uvarInt h
    | varInt =>
      obtain ⟨_, _, h, _⟩ := bind_eq_ok h
      exact rest_ne_nil_of_uvarInt h
    | uvarInt64 =>
      obtain ⟨_, _, h, _⟩ := bind_eq_ok h
      exact rest_ne_nil_of_readLeb128 h
    | varInt64 =>
      obtain ⟨_, _, h, _⟩ := bind_eq_ok h
      obtain ⟨_, _, h, _⟩ := bind_eq_ok h
      exact rest_ne_nil_of_readLeb128 h
  rw [Cursor.rest, ne_eq, List.drop_eq_nil_iff, not_le] at hrest
  exact hrest.le

/-- The range of a value that was read shows in the bytes it was read from. -/
theorem inRange_iff (k : VarintType) {c c' : PacketReader} {v : Int}
    (h : k.type.read c = .ok v c') : k.InRange v ↔ k.FitsLast c.rest := by
  obtain ⟨bs, suf, hrest, _, ht, hlen, hrange⟩ := k.read_takes.of_ok (within_of_read h) h
  rw [hrange, hrest]
  exact Leb128.value_lt_iff k.lastLimit_pos ht hlen suf

end VarintType

/-- **The range of a varint is that of its last group**: wherever a reader returns a value, the
value is in its range, and the field that passes it on is read back as the same value, exactly when
the fifth group is below 16, or the tenth below 2, if the encoding has that many. -/
theorem varint_inRange_iff (k : VarintType) {w : PacketWrapper} {c : PacketReader} {v : Int}
    (h : k.type.read w.reader = .ok v c) :
    (k.InRange v ↔ k.FitsLast w.reader.rest) ∧
      ∃ bs v', passthrough k.type w = .ok v { w with reader := c, writer := w.writer ++ bs } ∧
        Reads k.type.read bs v' ∧ (v' = v ↔ k.FitsLast w.reader.rest) := by
  have hrange := k.inRange_iff h
  have hcodes := k.wrap_codes v
  refine ⟨hrange, _, k.wrap v, passthrough_of_read h hcodes.writes, hcodes.reads, ?_⟩
  rw [← hrange]
  exact k.wrap_eq_self_iff v

/-- The least integer of 32 bits, with a fifth group of 15. -/
theorem varint_inRange_iff_sample :
    InInt32 (-2 ^ 31) ∧ ∃ bs v',
      passthrough varInt (ofPayload [255, 255, 255, 255, 15] { address := "a" }) =
        .ok (-2 ^ 31) ⟨⟨[255, 255, 255, 255, 15], 5⟩, bs, false, { address := "a" }⟩ ∧
      Reads varInt.read bs v' ∧ v' = -2 ^ 31 := by
  have hread : VarintType.varInt.type.read
      (ofPayload [255, 255, 255, 255, 15] { address := "a" }).reader =
        .ok (-2 ^ 31) ⟨[255, 255, 255, 255, 15], 5⟩ := rfl
  obtain ⟨hrange, bs, v', hpass, hreads, hsame⟩ := varint_inRange_iff .varInt hread
  have hlast : VarintType.varInt.FitsLast [255, 255, 255, 255, 15] := Or.inr (Or.inr (Or.inr
    (Or.inr (by decide : (15 : UInt8).toNat < 2 ^ 4))))
  exact ⟨hrange.mpr hlast, bs, v', hpass, hreads, hsame.mpr hlast⟩

/-- **A fifth group of 16**: `2 ^ 32` is read as a 32-bit integer and passed on as 0. -/
theorem varint_outOfRange :
    uvarInt.read ⟨[128, 128, 128, 128, 16], 0⟩ =
        .ok (2 ^ 32) ⟨[128, 128, 128, 128, 16], 5⟩ ∧
      ¬ InUInt32 (2 ^ 32) ∧
      PacketHandler.apply (do let _ ← passthrough uvarInt) [128, 128, 128, 128, 16]
        { address := "a" } = .ok [0] := by
  refine ⟨rfl, by decide, rfl⟩

end Endweave
