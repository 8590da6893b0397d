import Endweave.Codec.Types.Primitives
import Endweave.Lib.Leb128

/-!
# Correctness of the primitive field types

`T.RoundTrips v` says that the type `T` reads `v` back from what it writes for `v`, whatever
follows.  It is proved here for every primitive type on the values its format can hold
(`byte_roundTrips` to `string_roundTrips`), and for arrays and optional values of types that
round-trip.
-/

namespace Endweave

open Wire PacketReader PacketWriter

/-- `T` reads back what it writes for `v`. -/
def FieldType.RoundTrips {α : Type} (T : FieldType α) (v : α) : Prop := Codes (T.write v) T.read v

/-- `T` reads `v` from the whole of `bs`. -/
def FieldType.Parses {α : Type} (T : FieldType α) (bs : List UInt8) (v : α) : Prop :=
  T.read ⟨bs, 0⟩ = .ok v ⟨bs, bs.length⟩

variable {α : Type} {T : FieldType α}

theorem FieldType.RoundTrips.writes {v : α} (h : T.RoundTrips v) : Writes (T.write v) (T.bytes v) :=
  Codes.writes h

theorem FieldType.RoundTrips.reads {v : α} (h : T.RoundTrips v) : Reads T.read (T.bytes v) v :=
  Codes.reads h

theorem FieldType.RoundTrips.parses {v : α} (h : T.RoundTrips v) : T.Parses (T.bytes v) v := by
  have hread := h.reads ⟨T.bytes v, 0⟩ [] (Cursor.within_start _) (List.append_nil _).symm
  rw [Parses, hread, Cursor.advance, Nat.zero_add]

/-! ### Ranges -/

def InByte (v : Int) : Prop := 0 ≤ v ∧ v < 2 ^ 8
def InInt8 (v : Int) : Prop := -2 ^ 7 ≤ v ∧ v < 2 ^ 7
def InInt16 (v : Int) : Prop := -2 ^ 15 ≤ v ∧ v < 2 ^ 15
def InUInt16 (v : Int) : Prop := 0 ≤ v ∧ v < 2 ^ 16
def InInt32 (v : Int) : Prop := -2 ^ 31 ≤ v ∧ v < 2 ^ 31
def InUInt32 (v : Int) : Prop := 0 ≤ v ∧ v < 2 ^ 32
def InInt64 (v : Int) : Prop := -2 ^ 63 ≤ v ∧ v < 2 ^ 63
def InUInt64 (v : Int) : Prop := 0 ≤ v ∧ v < 2 ^ 64

instance (v : Int) : Decidable (InByte v) := inferInstanceAs (Decidable (_ ∧ _))
instance (v : Int) : Decidable (InInt8 v) := inferInstanceAs (Decidable (_ ∧ _))
instance (v : Int) : Decidable (InInt16 v) := inferInstanceAs (Decidable (_ ∧ _))
instance (v : Int) : Decidable (InUInt16 v) := inferInstanceAs (Decidable (_ ∧ _))
instance (v : Int) : Decidable (InInt32 v) := inferInstanceAs (Decidable (_ ∧ _))
instance (v : Int) : Decidable (InUInt32 v) := inferInstanceAs (Decidable (_ ∧ _))
instance (v : Int) : Decidable (InInt64 v) := inferInstanceAs (Decidable (_ ∧ _))
instance (v : Int) : Decidable (InUInt64 v) := inferInstanceAs (Decidable (_ ∧ _))

section Widening

variable {v : Int}

theorem InByte.inInt32 (h : InByte v) : InInt32 v := by
  obtain ⟨hlo, hhi⟩ := h
  exact ⟨by omega, by omega⟩

theorem InByte.inUInt32 (h : InByte v) : InUInt32 v := by
  obtain ⟨hlo, hhi⟩ := h
  exact ⟨hlo, by omega⟩

theorem InInt8.inInt32 (h : InInt8 v) : InInt32 v := by
  obtain ⟨hlo, hhi⟩ := h
  exact ⟨by omega, by omega⟩

theorem InInt16.inInt32 (h : InInt16 v) : InInt32 v := by
  obtain ⟨hlo, hhi⟩ := h
  exact ⟨by omega, by omega⟩

theorem InUInt16.inInt32 (h : InUInt16 v) : InInt32 v := by
  obtain ⟨hlo, hhi⟩ := h
  exact ⟨by omega, by omega⟩

theorem InUInt16.inUInt32 (h : InUInt16 v) : InUInt32 v := by
  obtain ⟨hlo, hhi⟩ := h
  exact ⟨hlo, by omega⟩

end Widening

/-! ### Single bytes and raw bytes -/

theorem next_reads (b : UInt8) : Reads next [b] b := by
  intro r suf _ h
  rw [next, h]
  rfl

theorem writeBytes_writes (bs : List UInt8) : Writes (writeBytes bs) bs := fun _ => rfl

theorem append_writes (n : Nat) : Writes (append n) [UInt8.ofNat n] := writeBytes_writes _

theorem readBytes_reads (bs : List UInt8) : Reads (readBytes bs.length) bs bs := by
  intro r suf hin h
  have hlen : (r.data.length - r.pos : Nat) = bs.length + suf.length := by
    rw [← Cursor.length_rest, h, List.length_append]
  rw [readBytes, if_neg, Int.toNat_natCast, h, List.take_left]
  unfold Cursor.Within at hin
  unfold remaining
  omega

theorem land_byte (v : Int) : Int.land v 0xFF = v % 256 := Leb128.land_mask v 8

/-- The byte a one-byte writer appends. -/
theorem writeByte_writes (v : Int) : Writes (writeByte v) [UInt8.ofNat (v % 256).toNat] := by
  rw [writeByte, land_byte]
  exact append_writes _

theorem byte_roundTrips {v : Int} (h : InByte v) : byte.RoundTrips v := by
  obtain ⟨hlo, hhi⟩ := h
  refine ⟨_, writeByte_writes v, (next_reads _).bind_pure ?_⟩
  rw [UInt8.toNat_ofNat', show ((v % 256).toNat % 2 ^ 8 : Nat) = v.toNat by omega,
    Int.toNat_of_nonneg hlo]

/-- A byte that holds any integer. -/
theorem byte_codes (v : Int) : Codes (writeByte v) readByte (v % 256) := by
  have hr : InByte (v % 256) := ⟨by omega, by omega⟩
  have hwrite : writeByte (v % 256) = writeByte v := by
    rw [writeByte, writeByte, land_byte, land_byte, Int.emod_emod]
  rw [← hwrite]
  exact byte_roundTrips hr

theorem int8_roundTrips {v : Int} (h : InInt8 v) : int8.RoundTrips v := by
  obtain ⟨hlo, hhi⟩ := h
  refine ⟨_, writeByte_writes v, (next_reads _).bind_pure ?_⟩
  rw [UInt8.toNat_ofNat']
  congr 1
  split_ifs with hv <;> omega

theorem bool_roundTrips (v : Bool) : bool.RoundTrips v := by
  refine ⟨_, append_writes _, Reads.bind_pure (Reads.bind_pure (next_reads _) rfl) ?_⟩
  cases v <;> rfl

/-! ### `struct` formats -/

theorem StructFormat.length_encode (f : StructFormat) (v : Int) : (f.encode v).length = f.size := by
  unfold encode
  split_ifs
  · rw [List.length_reverse, LittleEndian.length_encode]
  · rw [LittleEndian.length_encode]

theorem StructFormat.decode_encode {f : StructFormat} {v : Int} (h : f.InRange v) :
    f.decode (f.encode v) = v := by
  have hlt := LittleEndian.ofSigned_lt f.size v
  have hcore : (if f.bigEndian then (f.encode v).reverse else f.encode v) =
      LittleEndian.encode f.size (LittleEndian.ofSigned f.size v) := by
    unfold encode
    split_ifs
    · rw [List.reverse_reverse]
    · rfl
  rw [decode, hcore, LittleEndian.decode_encode, Nat.mod_eq_of_lt hlt]
  unfold InRange at h
  split_ifs at h ⊢ with hs
  · exact LittleEndian.toSigned_ofSigned h.1 h.2
  · rw [LittleEndian.ofSigned, Int.emod_eq_of_lt h.1 h.2, Int.toNat_of_nonneg h.1]

theorem pack_writes {f : StructFormat} {v : Int} (h : f.InRange v) :
    Writes (pack f v) (f.encode v) := by
  rw [pack, if_pos h]
  exact writeBytes_writes _

theorem unpack_reads {f : StructFormat} {v : Int} (h : f.InRange v) :
    Reads (unpack f) (f.encode v) v := by
  intro r suf _ hr
  have hlen := f.length_encode v
  rw [unpack, hr, if_neg (by rw [List.length_append]; omega), ← hlen, List.take_left,
    StructFormat.decode_encode h]

/-- A format reads back the integers in its range. -/
theorem struct_codes {f : StructFormat} {v : Int} (h : f.InRange v) :
    Codes (pack f v) (unpack f) v :=
  ⟨_, pack_writes h, unpack_reads h⟩

/-- A signed format of `k + 1` bits holds the integers of that many bits. -/
theorem inRange_signed {f : StructFormat} {k : Nat} (hs : f.signed = true)
    (hk : (256 : Int) ^ f.size = 2 * 2 ^ k) {v : Int} (h : -2 ^ k ≤ v ∧ v < 2 ^ k) :
    f.InRange v := by
  obtain ⟨hlo, hhi⟩ := h
  rw [StructFormat.InRange, if_pos hs, hk]
  constructor <;> omega

/-- An unsigned format of `k` bits holds the natural numbers of that many bits. -/
theorem inRange_unsigned {f : StructFormat} {k : Nat} (hs : f.signed = false)
    (hk : (256 : Int) ^ f.size = 2 ^ k) {v : Int} (h : 0 ≤ v ∧ v < 2 ^ k) : f.InRange v := by
  rw [StructFormat.InRange, if_neg (by simp [hs]), hk]
  exact h

theorem shortLE_roundTrips {v : Int} (h : InInt16 v) : shortLE.RoundTrips v :=
  struct_codes (inRange_signed rfl rfl h)

theorem ushortLE_roundTrips {v : Int} (h : InUInt16 v) : ushortLE.RoundTrips v :=
  struct_codes (inRange_unsigned rfl rfl h)

theorem intLE_roundTrips {v : Int} (h : InInt32 v) : intLE.RoundTrips v :=
  struct_codes (inRange_signed rfl rfl h)

theorem intBE_roundTrips {v : Int} (h : InInt32 v) : intBE.RoundTrips v :=
  struct_codes (inRange_signed rfl rfl h)

theorem uintLE_roundTrips {v : Int} (h : InUInt32 v) : uintLE.RoundTrips v :=
  struct_codes (inRange_unsigned rfl rfl h)

theorem int64LE_roundTrips {v : Int} (h : InInt64 v) : int64LE.RoundTrips v :=
  struct_codes (inRange_signed rfl rfl h)

theorem uint64LE_roundTrips {v : Int} (h : InUInt64 v) : uint64LE.RoundTrips v :=
  struct_codes (inRange_unsigned rfl rfl h)

/-- Formats that differ in their sign only write congruent integers alike. -/
theorem pack_congr {f g : StructFormat} (hsize : f.size = g.size) (hend : f.bigEndian = g.bigEndian)
    {v w : Int} (hv : f.InRange v) (hw : g.InRange w) (h : v % 256 ^ g.size = w % 256 ^ g.size) :
    pack f v = pack g w := by
  have hencode : f.encode v = g.encode w := by
    rw [StructFormat.encode, StructFormat.encode, LittleEndian.ofSigned, LittleEndian.ofSigned,
      hsize, hend, h]
  rw [pack, pack, if_pos hv, if_pos hw, hencode]

theorem inUInt64_emod (v : Int) : InUInt64 (v % 2 ^ 64) := ⟨by omega, by omega⟩

/-- A signed word is written as the unsigned one it is congruent to. -/
theorem uint64LE_write_emod {v : Int} (h : InInt64 v) :
    writeUInt64LE (v % 2 ^ 64) = writeInt64LE v := by
  have hsigned : StructFormat.int64LE.InRange v := inRange_signed rfl rfl h
  have hunsigned : StructFormat.uint64LE.InRange (v % 2 ^ 64) :=
    inRange_unsigned rfl rfl (inUInt64_emod v)
  unfold writeUInt64LE writeInt64LE
  exact pack_congr (f := .uint64LE) (g := .int64LE) rfl rfl hunsigned hsigned
    (Int.emod_emod_of_dvd v (by decide))

/-- A count is written alike by a signed and by an unsigned field while it fits 31 bits. -/
theorem intLE_write_eq {n : Nat} (h : n < 2 ^ 31) : writeIntLE n = writeUIntLE n := by
  have hsigned : StructFormat.intLE.InRange n :=
    inRange_signed (k := 31) rfl rfl ⟨by omega, by omega⟩
  have hunsigned : StructFormat.uintLE.InRange n :=
    inRange_unsigned (k := 32) rfl rfl ⟨by omega, by omega⟩
  unfold writeIntLE writeUIntLE
  exact pack_congr (f := .intLE) (g := .uintLE) rfl rfl hsigned hunsigned rfl

/-- Every bit pattern of a float comes back. -/
theorem readFloatLE_codes (v : UInt32) : Codes (writeFloatLE v) readFloatLE v := by
  have hlt := v.toNat_lt
  have hr : StructFormat.uintLE.InRange v.toNat :=
    inRange_unsigned (k := 32) rfl rfl ⟨by omega, by omega⟩
  unfold writeFloatLE readFloatLE
  refine (struct_codes hr).last ?_
  rw [Int.toNat_natCast, UInt32.ofNat_toNat]

theorem readDoubleLE_codes (v : UInt64) : Codes (writeDoubleLE v) readDoubleLE v := by
  have hlt := v.toNat_lt
  have hr : StructFormat.uint64LE.InRange v.toNat :=
    inRange_unsigned (k := 64) rfl rfl ⟨by omega, by omega⟩
  unfold writeDoubleLE readDoubleLE
  refine (struct_codes hr).last ?_
  rw [Int.toNat_natCast, UInt64.ofNat_toNat]

theorem floatLE_roundTrips (v : UInt32) : floatLE.RoundTrips v := by
  simp only [FieldType.RoundTrips, floatLE]
  exact readFloatLE_codes v

theorem doubleLE_roundTrips (v : UInt64) : doubleLE.RoundTrips v := by
  simp only [FieldType.RoundTrips, doubleLE]
  exact readDoubleLE_codes v

/-! ### Variable-length integers -/

theorem writeGroups_writes {k n : Nat} (h : n < 128 ^ k) (hk : 0 < k) :
    Writes (writeGroups k n) (Leb128.encode k n) := by
  induction k generalizing n with
  | zero => exact absurd hk (Nat.lt_irrefl 0)
  | succ k ih =>
    unfold writeGroups Leb128.encode
    have hbyte : n &&& 0x7F = n % 128 := Nat.and_two_pow_sub_one_eq_mod n 7
    have hshift : n >>> 7 = n / 128 := Nat.shiftRight_eq_div_pow n 7
    simp only [hbyte, hshift]
    by_cases hn : n < 128
    · rw [if_neg (by omega), if_pos hn, Nat.mod_eq_of_lt hn]
      exact append_writes n
    · -- more groups follow: the continuation bit is set
      have hor : n % 128 ||| 0x80 = n % 128 + 128 := by
        have hadd := Nat.shiftLeft_add_eq_or_of_lt (i := 7) (Nat.mod_lt n (by norm_num)) 1
        rw [Nat.or_comm, Nat.add_comm]
        exact hadd.symm
      have hlt : n / 128 < 128 ^ k := Leb128.div_lt_pow h
      have hk' : 0 < k := by
        rcases Nat.eq_zero_or_pos k with rfl | hk'
        · rw [Nat.pow_zero] at hlt
          omega
        · exact hk'
      rw [if_pos (by omega), if_neg hn, hor]
      exact Writes.bind (append_writes _) (ih hlt hk')

/-- The writers of unsigned integers wrap them and write the shortest form. -/
theorem writeLeb128_writes {bits groups : Nat} (hg : 0 < groups) (hb : bits ≤ 7 * groups)
    (v : Int) :
    Writes (writeLeb128 bits groups v) (Leb128.encode groups (v % 2 ^ bits).toNat) := by
  have hlt : (v % 2 ^ bits).toNat < 128 ^ groups := by
    have hpos : (0 : Int) < 2 ^ bits := by positivity
    have hmod := Int.emod_lt_of_pos v hpos
    have hle : (2 : Int) ^ bits ≤ ((128 ^ groups : Nat) : Int) := by
      rw [show (128 : Nat) = 2 ^ 7 from rfl, ← Nat.pow_mul]
      exact_mod_cast Nat.pow_le_pow_right (by norm_num) hb
    omega
  rw [writeLeb128, Leb128.land_mask]
  by_cases hn : (v % 2 ^ bits).toNat < 128
  · obtain ⟨k, rfl⟩ : ∃ k, groups = k + 1 := ⟨groups - 1, by omega⟩
    simp only [if_pos hn, Leb128.encode]
    exact append_writes _
  · simp only [if_neg hn]
    exact writeGroups_writes hlt hg

/-- The continuation bit of a group is its top bit. -/
theorem land_continue (b : UInt8) : b.toNat &&& 0x80 = 0 ↔ b.toNat < 128 := by
  have hb := b.toNat_lt
  rw [show (0x80 : Nat) = 2 ^ 7 from rfl, Nat.and_two_pow, Nat.testBit_eq_decide_div_mod_eq]
  by_cases h : b.toNat < 128
  · simp [h, Nat.div_eq_of_lt]
  · have hdiv : b.toNat / 2 ^ 7 % 2 = 1 := by omega
    rw [hdiv]
    simp [h]

theorem land_low (n : Nat) : n &&& 0x7F = n % 128 := Nat.and_two_pow_sub_one_eq_mod n 7

/-- Adding the next group above the bits already read. -/
theorem or_shiftLeft {result shift : Nat} (h : result < 2 ^ shift) (n : Nat) :
    result ||| n <<< shift = result + 2 ^ shift * n := by
  rw [Nat.or_comm, ← Nat.shiftLeft_add_eq_or_of_lt h, Nat.shiftLeft_eq, Nat.add_comm, Nat.mul_comm]

theorem nextGroup_lt {result shift : Nat} (h : result < 2 ^ shift) (b : UInt8) :
    result + 2 ^ shift * (b.toNat % 128) < 2 ^ (shift + 7) := by
  have hmul : 2 ^ shift * (b.toNat % 128 + 1) ≤ 2 ^ shift * 128 :=
    Nat.mul_le_mul_left _ (Nat.mod_lt _ (by norm_num))
  rw [Nat.pow_add]
  rw [Nat.mul_add] at hmul
  omega

theorem nextGroup_value (result shift : Nat) (b : UInt8) (bs : List UInt8) :
    result + 2 ^ shift * Leb128.value (b :: bs) =
      result + 2 ^ shift * (b.toNat % 128) + 2 ^ (shift + 7) * Leb128.value bs := by
  rw [Leb128.value, Nat.pow_add]
  ring

/-- What the loop of the unsigned readers does in front of a terminated list of groups. -/
theorem readGroups_reads {tooLong : String} {bs : List UInt8} (ht : Leb128.Terminated bs)
    {groups result shift : Nat} (hlen : bs.length ≤ groups) (hres : result < 2 ^ shift) :
    Reads (readGroups tooLong result shift groups) bs (result + 2 ^ shift * Leb128.value bs) := by
  induction bs generalizing groups result shift with
  | nil => exact absurd ht id
  | cons b bs ih =>
    rw [List.length_cons] at hlen
    obtain ⟨k, rfl⟩ : ∃ k, groups = k + 1 := ⟨groups - 1, by omega⟩
    rw [readGroups, nextGroup_value, ← List.singleton_append]
    simp only [land_low, or_shiftLeft hres, land_continue]
    refine (next_reads b).bind ?_
    rcases Leb128.terminated_cons_iff.mp ht with ⟨hb, rfl⟩ | ⟨hb, ht'⟩
    · rw [if_pos hb]
      exact Reads.pure _
    · rw [if_neg (by omega)]
      exact ih ht' (by omega) (nextGroup_lt hres b)

/-- The unsigned readers read any terminated list of groups within their limit. -/
theorem readLeb128_reads {tooLong : String} {bs : List UInt8} (ht : Leb128.Terminated bs)
    {groups : Nat} (hlen : bs.length ≤ groups) :
    Reads (readLeb128 tooLong groups) bs (Leb128.value bs) := by
  cases bs with
  | nil => exact absurd ht id
  | cons b bs =>
    rw [List.length_cons] at hlen
    rw [readLeb128, Leb128.value, ← List.singleton_append]
    refine (next_reads b).bind ?_
    rcases Leb128.terminated_cons_iff.mp ht with ⟨hlt, rfl⟩ | ⟨hge, ht'⟩
    · rw [if_pos hlt, Nat.mod_eq_of_lt hlt]
      exact Reads.pure _
    · rw [if_neg (by omega), land_low]
      exact readGroups_reads ht' (by omega) (Nat.mod_lt _ (by norm_num))

/-- An unsigned writer and the reader of the same limit are inverse on the values in range. -/
theorem leb128_codes {tooLong : String} {bits groups : Nat} (hg : 0 < groups)
    (hb : bits ≤ 7 * groups) {v : Int} (h : 0 ≤ v ∧ v < 2 ^ bits) :
    Codes (writeLeb128 bits groups v) (readLeb128 tooLong groups) v.toNat := by
  obtain ⟨hlo, hhi⟩ := h
  have hlt : v.toNat < 128 ^ groups := by
    have hpow : (2 : Nat) ^ bits ≤ 128 ^ groups := by
      rw [show (128 : Nat) = 2 ^ 7 from rfl, ← Nat.pow_mul]
      exact Nat.pow_le_pow_right (by norm_num) hb
    have hv : v.toNat < 2 ^ bits := by
      rw [Int.toNat_lt hlo]
      exact_mod_cast hhi
    exact hv.trans_le hpow
  have hw := writeLeb128_writes hg hb v
  rw [Int.emod_eq_of_lt hlo hhi] at hw
  refine ⟨_, hw, ?_⟩
  -- what was written is terminated and within the limit of the reader
  have ht := (Leb128.terminated_encode hlt).resolve_right hg.ne'
  have hr : Reads (readLeb128 tooLong groups) _ _ :=
    readLeb128_reads ht (Leb128.length_encode_le groups hg hlt)
  rwa [Leb128.value_encode hlt] at hr

theorem uvarInt_roundTrips {v : Int} (h : InUInt32 v) : uvarInt.RoundTrips v := by
  refine (leb128_codes (by omega) (by omega) h).last ?_
  rw [Int.toNat_of_nonneg h.1]

theorem uvarInt64_roundTrips {v : Int} (h : InUInt64 v) : uvarInt64.RoundTrips v := by
  refine (leb128_codes (by omega) (by omega) h).last ?_
  rw [Int.toNat_of_nonneg h.1]

/-- The sign bit of a `k + 1`-bit word. -/
theorem land_signBit {k n : Nat} (h : n < 2 ^ (k + 1)) :
    Int.land n (2 ^ k) ≠ 0 ↔ 2 ^ k ≤ n := by
  have hland : Int.land (n : Int) (2 ^ k) = ((n &&& 2 ^ k : Nat) : Int) := by
    rw [show (2 : Int) ^ k = ((2 ^ k : Nat) : Int) by push_cast; rfl]
    rfl
  have hpos : 0 < 2 ^ k := Nat.two_pow_pos k
  rw [hland, Nat.and_two_pow]
  rcases Nat.lt_or_ge n (2 ^ k) with hlt | hge
  · rw [Nat.testBit_lt_two_pow hlt]
    simp [hlt]
  · rw [Nat.testBit_of_two_pow_le_and_two_pow_add_one_gt hge h]
    simp [hge]

/-- The signed integer of `k + 1` bits that is congruent to `v`. -/
def wrapSigned (k : Nat) (v : Int) : Int :=
  if v % 2 ^ (k + 1) < 2 ^ k then v % 2 ^ (k + 1) else v % 2 ^ (k + 1) - 2 ^ (k + 1)

theorem wrapSigned_bounds (k : Nat) (v : Int) :
    -2 ^ k ≤ wrapSigned k v ∧ wrapSigned k v < 2 ^ k := by
  have hpos : (0 : Int) < 2 ^ (k + 1) := by positivity
  have h0 := Int.emod_nonneg v hpos.ne'
  have h1 := Int.emod_lt_of_pos v hpos
  have h2 : (2 : Int) ^ (k + 1) = 2 * 2 ^ k := by rw [pow_succ]; ring
  unfold wrapSigned
  split_ifs with h <;> omega

theorem wrapSigned_of_bounds {k : Nat} {v : Int} (h : -2 ^ k ≤ v ∧ v < 2 ^ k) :
    wrapSigned k v = v := by
  obtain ⟨hlo, hhi⟩ := h
  have h2 : (2 : Int) ^ (k + 1) = 2 * 2 ^ k := by rw [pow_succ]; ring
  unfold wrapSigned
  rcases lt_or_ge v 0 with hv | hv
  · have hmod : v % 2 ^ (k + 1) = v + 2 ^ (k + 1) := by
      rw [← Int.add_emod_right, Int.emod_eq_of_lt (by omega) (by omega)]
    rw [hmod, if_neg (by omega)]
    omega
  · rw [Int.emod_eq_of_lt hv (by omega), if_pos hhi]

/-- A signed writer hands the zigzag form of the wrapped value to the unsigned one. -/
theorem foldSign_eq_zigzag (k : Nat) (v : Int) :
    foldSign (k + 1) v = Leb128.zigzag (wrapSigned k v) := by
  have hpos : (0 : Int) < 2 ^ (k + 1) := by positivity
  obtain ⟨n, hn⟩ := Int.eq_ofNat_of_zero_le (Int.emod_nonneg v hpos.ne')
  have hlt : n < 2 ^ (k + 1) := by
    have h := Int.emod_lt_of_pos v hpos
    rw [hn] at h
    exact_mod_cast h
  have hwrap : (if Int.land (v % 2 ^ (k + 1)) (2 ^ k) ≠ 0 then v % 2 ^ (k + 1) - 2 ^ (k + 1)
      else v % 2 ^ (k + 1)) = wrapSigned k v := by
    rw [wrapSigned, hn]
    have hiff := land_signBit hlt
    by_cases hs : 2 ^ k ≤ n
    · have hs' : (2 : Int) ^ k ≤ n := by exact_mod_cast hs
      rw [if_pos (hiff.mpr hs), if_neg (by omega)]
    · have hs' : (n : Int) < 2 ^ k := by exact_mod_cast Nat.not_le.mp hs
      rw [if_neg (fun h => hs (hiff.mp h)), if_pos hs']
  have hb := wrapSigned_bounds k v
  rw [foldSign, Leb128.land_mask, Nat.add_sub_cancel]
  simp only [hwrap]
  exact Leb128.zigzag_eq_xor hb.1 hb.2

theorem zigzag_range {k : Nat} {v : Int} (h : -2 ^ k ≤ v ∧ v < 2 ^ k) :
    0 ≤ Leb128.zigzag v ∧ Leb128.zigzag v < 2 ^ (k + 1) := by
  have h2 : (2 : Int) ^ (k + 1) = 2 * 2 ^ k := by rw [pow_succ]; ring
  refine ⟨Leb128.zigzag_nonneg v, ?_⟩
  unfold Leb128.zigzag
  split_ifs <;> omega

theorem unzigzag_range {k : Nat} {n : Int} (h : 0 ≤ n ∧ n < 2 ^ (k + 1)) :
    -2 ^ k ≤ Leb128.unzigzag n ∧ Leb128.unzigzag n < 2 ^ k := by
  have h2 : (2 : Int) ^ (k + 1) = 2 * 2 ^ k := by rw [pow_succ]; ring
  unfold Leb128.unzigzag
  split_ifs <;> omega

theorem varInt_roundTrips {v : Int} (h : InInt32 v) : varInt.RoundTrips v := by
  have hz := foldSign_eq_zigzag 31 v
  rw [wrapSigned_of_bounds h] at hz
  have hc := uvarInt_roundTrips (zigzag_range h)
  rw [← hz] at hc
  refine Codes.last hc ?_
  rw [hz, Leb128.unzigzag_eq_xor, Leb128.unzigzag_zigzag]

theorem varInt64_roundTrips {v : Int} (h : InInt64 v) : varInt64.RoundTrips v := by
  have hz := foldSign_eq_zigzag 63 v
  rw [wrapSigned_of_bounds h] at hz
  have hc := uvarInt64_roundTrips (zigzag_range h)
  rw [← hz] at hc
  refine Codes.last hc ?_
  rw [hz, Leb128.unzigzag_eq_xor, Leb128.unzigzag_zigzag]

/-! ### Strings -/

theorem fromUTF8?_encodeUtf8 (s : String) : String.fromUTF8? ⟨(encodeUtf8 s).toArray⟩ = some s := by
  have hs : (⟨(encodeUtf8 s).toArray⟩ : ByteArray) = s.toByteArray := by
    rw [encodeUtf8, Array.toArray_toList]
    rfl
  rw [hs, String.fromUTF8?, dif_pos s.isValidUTF8]
  rfl

theorem decodeUtf8_encodeUtf8 (s : String) : decodeUtf8 (encodeUtf8 s) = pure s := by
  rw [decodeUtf8, fromUTF8?_encodeUtf8]

/-- A string whose encoding fits the limit of `read_string`. -/
def FitsString (s : String) : Prop := (encodeUtf8 s).length ≤ maxStringBytes

instance (s : String) : Decidable (FitsString s) := inferInstanceAs (Decidable (_ ≤ _))

/-- A uvarint length and the bytes of the string, read back without the limit. -/
theorem utf8_codes {s : String} (h : (encodeUtf8 s).length < 2 ^ 32) :
    Codes (writeString s) (do
      let length ← readUVarint
      let bs ← readBytes length
      decodeUtf8 bs) s := by
  apply Codes.bind (uvarInt_roundTrips ⟨by omega, by omega⟩)
  exact Codes.last ⟨_, writeBytes_writes _, readBytes_reads _⟩ (decodeUtf8_encodeUtf8 s)

theorem string_roundTrips {s : String} (h : FitsString s) : string.RoundTrips s := by
  unfold FitsString maxStringBytes at h
  apply Codes.bind (uvarInt_roundTrips ⟨by omega, by omega⟩)
  rw [if_neg (by rw [maxStringBytes]; omega)]
  exact Codes.last ⟨_, writeBytes_writes _, readBytes_reads _⟩ (decodeUtf8_encodeUtf8 s)

theorem string_reads {v : String} (h : FitsString v) : Reads string.read (string.bytes v) v :=
  (string_roundTrips h).reads

/-- A string beyond the limit is written, but not read. -/
theorem string_rejects {s : String} (h : ¬ FitsString s) (hlen : (encodeUtf8 s).length < 2 ^ 32) :
    Rejects (string.write s) string.read := by
  unfold FitsString maxStringBytes at h
  refine (uvarInt_roundTrips ⟨by omega, by omega⟩).rejects ?_
  rw [if_pos (by rw [maxStringBytes]; omega)]
  exact ⟨_, writeBytes_writes _, fun c _ _ _ => ⟨_, c, rfl⟩⟩

/-! ### What the writers append -/

theorem writeVarint_writes (v : Int) :
    Writes (writeVarint v) (Leb128.encode 5 (Leb128.zigzag (wrapSigned 31 v)).toNat) := by
  have h : Writes (writeLeb128 32 5 (foldSign 32 v)) _ :=
    writeLeb128_writes (by omega) (by omega) (foldSign 32 v)
  have hz := zigzag_range (wrapSigned_bounds 31 v)
  rw [foldSign_eq_zigzag, Int.emod_eq_of_lt hz.1 hz.2] at h
  rw [writeVarint, foldSign_eq_zigzag]
  exact h

theorem varInt_bytes (v : Int) :
    varInt.bytes v = Leb128.encode 5 (Leb128.zigzag (wrapSigned 31 v)).toNat :=
  (writeVarint_writes v).written

theorem writeString_writes (s : String) :
    Writes (writeString s)
      (Leb128.encode 5 ((encodeUtf8 s).length % 2 ^ 32 : Int).toNat ++ encodeUtf8 s) :=
  (writeLeb128_writes (by omega) (by omega) _).bind (writeBytes_writes _)

theorem string_bytes (s : String) :
    string.bytes s =
      Leb128.encode 5 ((encodeUtf8 s).length % 2 ^ 32 : Int).toNat ++ encodeUtf8 s :=
  (writeString_writes s).written

theorem string_writes (v : String) : Writes (string.write v) (string.bytes v) := by
  rw [string_bytes]
  exact writeString_writes v

theorem length_string_bytes_pos (s : String) : 0 < (string.bytes s).length := by
  rw [string_bytes, List.length_append]
  have hpos := Leb128.length_encode_pos (k := 5) (by omega)
    ((encodeUtf8 s).length % 2 ^ 32 : Int).toNat
  omega

/-! ### Composite types -/

theorem writeUVarint_emod (v : Int) : writeUVarint (v % 2 ^ 32) = writeUVarint v := by
  rw [writeUVarint, writeUVarint, writeLeb128, writeLeb128, Leb128.land_mask, Leb128.land_mask,
    Int.emod_emod]

theorem writeVarint_emod (v : Int) : writeVarint (v % 2 ^ 32) = writeVarint v := by
  rw [writeVarint, writeVarint, foldSign, foldSign, Leb128.land_mask, Leb128.land_mask,
    Int.emod_emod]

theorem writeUVarint64_emod (v : Int) : writeUVarint64 (v % 2 ^ 64) = writeUVarint64 v := by
  rw [writeUVarint64, writeUVarint64, writeLeb128, writeLeb128, Leb128.land_mask, Leb128.land_mask,
    Int.emod_emod]

theorem writeVarint64_emod (v : Int) : writeVarint64 (v % 2 ^ 64) = writeVarint64 v := by
  rw [writeVarint64, writeVarint64, foldSign, foldSign, Leb128.land_mask, Leb128.land_mask,
    Int.emod_emod]

/-- An unsigned field that holds any integer, a signed one say. -/
theorem uvarInt_codes (v : Int) : Codes (writeUVarint v) readUVarint (v % 2 ^ 32) := by
  have hr : InUInt32 (v % 2 ^ 32) := ⟨by omega, by omega⟩
  exact writeUVarint_emod v ▸ uvarInt_roundTrips hr

/-- At the end of the data there is no integer to read. -/
theorem rest_ne_nil_of_readLeb128 {tooLong : String} {groups n : Nat} {c c' : PacketReader}
    (h : readLeb128 tooLong groups c = .ok n c') : c.rest ≠ [] := by
  intro hrest
  obtain ⟨b, c₁, h, _⟩ := bind_eq_ok h
  rw [next, hrest] at h
  cases h

theorem rest_ne_nil_of_uvarInt {c c' : PacketReader} {v : Int} (h : uvarInt.read c = .ok v c') :
    c.rest ≠ [] := by
  obtain ⟨n, c₁, h, _⟩ := bind_eq_ok h
  exact rest_ne_nil_of_readLeb128 h

theorem string_bytes_eq (v : String) :
    string.bytes v = uvarInt.bytes (encodeUtf8 v).length ++ encodeUtf8 v :=
  ((uvarInt_codes _).writes.bind (writeBytes_writes _)).written

theorem string_read_end {c c' : PacketReader} {v : String} (hrest : c.rest = []) :
    string.read c ≠ .ok v c' := by
  intro hread
  obtain ⟨length, c₁, hlength, _⟩ := bind_eq_ok hread
  exact rest_ne_nil_of_uvarInt hlength hrest

theorem uvarInt_bytes_ne_nil (v : Int) : uvarInt.bytes v ≠ [] := by
  have hread := (uvarInt_codes v).reads ⟨uvarInt.bytes v, 0⟩ [] (Cursor.within_start _)
    (List.append_nil _).symm
  exact rest_ne_nil_of_uvarInt hread

theorem uvarInt64_codes (v : Int) : Codes (writeUVarint64 v) readUVarint64 (v % 2 ^ 64) :=
  writeUVarint64_emod v ▸ uvarInt64_roundTrips (inUInt64_emod v)

theorem wrapSigned_emod (k : Nat) (v : Int) : wrapSigned k v % 2 ^ (k + 1) = v % 2 ^ (k + 1) := by
  unfold wrapSigned
  split_ifs
  · exact Int.emod_emod_of_dvd v (dvd_refl _)
  · rw [Int.sub_emod_right, Int.emod_emod_of_dvd v (dvd_refl _)]

/-- A signed field does not tell an integer from the one of 32 bits it is congruent to. -/
theorem writeVarint_wrapSigned (v : Int) : writeVarint (wrapSigned 31 v) = writeVarint v := by
  rw [← writeVarint_emod, wrapSigned_emod, writeVarint_emod]

/-- A signed field that holds any integer, an unsigned one say. -/
theorem varInt_codes (v : Int) : Codes (writeVarint v) readVarint (wrapSigned 31 v) := by
  rw [← writeVarint_wrapSigned]
  exact varInt_roundTrips (wrapSigned_bounds 31 v)

theorem varInt64_codes (v : Int) : Codes (writeVarint64 v) readVarint64 (wrapSigned 63 v) := by
  have hwrap : writeVarint64 (wrapSigned 63 v) = writeVarint64 v := by
    rw [← writeVarint64_emod, wrapSigned_emod, writeVarint64_emod]
  rw [← hwrap]
  exact varInt64_roundTrips (wrapSigned_bounds 63 v)

/-- An unsigned field does not tell an integer from the signed one it is congruent to. -/
theorem writeUVarint_wrapSigned (v : Int) : writeUVarint (wrapSigned 31 v) = writeUVarint v := by
  rw [← writeUVarint_emod, wrapSigned_emod, writeUVarint_emod]

theorem networkBlockPos_roundTrips {v : Int × Int × Int} (hx : InInt32 v.1) (hy : InInt32 v.2.1)
    (hz : InInt32 v.2.2) : networkBlockPos.RoundTrips v := by
  refine Codes.bind (varInt_roundTrips hx) (Codes.bind (uvarInt_codes v.2.1) ?_)
  refine Codes.last (varInt_roundTrips hz) ?_
  obtain ⟨hlo, hhi⟩ := hy
  have hy' : (if v.2.1 % 2 ^ 32 ≥ 0x80000000 then v.2.1 % 2 ^ 32 - 0x100000000
      else v.2.1 % 2 ^ 32) = v.2.1 := by
    split_ifs <;> omega
  rw [hy']

theorem blockPos_roundTrips {v : Int × Int × Int} (hx : InInt32 v.1) (hy : InInt32 v.2.1)
    (hz : InInt32 v.2.2) : blockPos.RoundTrips v :=
  Codes.bind (varInt_roundTrips hx) <| Codes.bind (varInt_roundTrips hy) <|
    Codes.last (varInt_roundTrips hz) rfl

theorem vec3_roundTrips (v : UInt32 × UInt32 × UInt32) : vec3.RoundTrips v :=
  Codes.bind (readFloatLE_codes v.1) <| Codes.bind (readFloatLE_codes v.2.1) <|
    Codes.last (readFloatLE_codes v.2.2) rfl

theorem vec2_roundTrips (v : UInt32 × UInt32) : vec2.RoundTrips v :=
  Codes.bind (readFloatLE_codes v.1) <| Codes.last (readFloatLE_codes v.2) rfl

theorem uuid_roundTrips {v : MceUUID} (hm : InUInt64 v.msb) (hl : InUInt64 v.lsb) :
    uuid.RoundTrips v :=
  Codes.bind (uint64LE_roundTrips hm) <| Codes.last (uint64LE_roundTrips hl) rfl

theorem arrayType_roundTrips {vs : List α} (hlen : vs.length < 2 ^ 32)
    (h : ∀ v ∈ vs, T.RoundTrips v) : (arrayType T).RoundTrips vs := by
  apply Codes.bind (uvarInt_roundTrips ⟨by omega, by omega⟩)
  rw [Int.toNat_natCast]
  exact Codes.each h

/-- A uvarint count, then what `f` makes of each element. -/
def arrayBytes (f : α → List UInt8) (vs : List α) : List UInt8 :=
  uvarInt.bytes vs.length ++ vs.flatMap f

theorem arrayBytes_map {β : Type} (f : β → List UInt8) (g : α → β) (vs : List α) :
    arrayBytes f (vs.map g) = arrayBytes (fun v => f (g v)) vs := by
  rw [arrayBytes, arrayBytes, List.length_map, List.flatMap_map]

theorem arrayType_bytes {vs : List α} (hlen : vs.length < 2 ^ 32) (h : ∀ v ∈ vs, T.RoundTrips v) :
    (arrayType T).bytes vs = arrayBytes T.bytes vs := by
  have hcount : uvarInt.RoundTrips vs.length := uvarInt_roundTrips ⟨by omega, by omega⟩
  exact (hcount.writes.bind (Writes.each fun v hv => (h v hv).writes)).written

/-- As many elements as the count in front of them says. -/
theorem length_of_arrayType {α : Type} {T : FieldType α} {n : Int} {suf : List UInt8} {vs : List α}
    {c c' : PacketReader} (hc : c.Within) (hrest : c.rest = uvarInt.bytes n ++ suf)
    (hread : (arrayType T).read c = .ok vs c') :
    vs.length = (n % 2 ^ 32).toNat ∧ ∃ c₁, c₁.Within ∧ c₁.rest = suf ∧
      collect T.read vs.length c₁ = .ok vs c' := by
  obtain ⟨count, c₁, hcount, hvs⟩ := bind_eq_ok hread
  obtain ⟨rfl, hc₁, hrest₁⟩ := (uvarInt_codes n).reads.of_ok hc hrest hcount
  have hlen := length_of_collect hvs
  exact ⟨hlen, c₁, hc₁, hrest₁, by rw [hlen]; exact hvs⟩

/-- An optional value, by what its content is read back as. -/
theorem optionalType_codes {f : α → α} {v : Option α}
    (h : ∀ a, v = some a → Codes (T.write a) T.read (f a)) :
    Codes ((optionalType T).write v) (optionalType T).read (v.map f) := by
  cases v with
  | none => exact Codes.last (bool_roundTrips false) rfl
  | some a => exact Codes.bind (bool_roundTrips true) (Codes.last (h a rfl) rfl)

theorem optionalType_roundTrips {v : Option α} (h : ∀ a, v = some a → T.RoundTrips a) :
    (optionalType T).RoundTrips v := by
  have hcodes := optionalType_codes (f := id) h
  rwa [Option.map_id] at hcodes

/-- An optional field is a flag, then the value if there is one. -/
theorem optionalType_writes {v : Option α} (h : ∀ a, v = some a → T.RoundTrips a) :
    Writes ((optionalType T).write v) (bool.bytes v.isSome ++ v.toList.flatMap T.bytes) := by
  cases v with
  | none =>
    rw [Option.toList_none, List.flatMap_nil, List.append_nil]
    exact (bool_roundTrips false).writes
  | some a =>
    rw [Option.toList_some, List.flatMap_singleton]
    exact (bool_roundTrips true).writes.bind (h a rfl).writes

theorem optionalType_bytes_some {a : α} (h : T.RoundTrips a) :
    (optionalType T).bytes (some a) = bool.bytes true ++ T.bytes a := by
  have hwrites := optionalType_writes (T := T) (v := some a) fun b hb => Option.some.inj hb ▸ h
  rw [Option.toList_some, List.flatMap_singleton] at hwrites
  exact hwrites.written

theorem fieldIf_roundTrips {condition : Bool} {absent v : α} (hT : T.RoundTrips v)
    (habsent : condition = false → v = absent) :
    (fieldIf condition T absent).RoundTrips v := by
  cases condition with
  | false =>
    rw [habsent rfl]
    exact Codes.pure absent
  | true => exact hT

theorem optionalString_roundTrips {v : Option String} (h : ∀ a, v = some a → FitsString a) :
    (optionalType string).RoundTrips v :=
  optionalType_roundTrips fun a ha => string_roundTrips (h a ha)

theorem optionalFloat_roundTrips (v : Option UInt32) : (optionalType floatLE).RoundTrips v :=
  optionalType_roundTrips fun a _ => floatLE_roundTrips a

theorem optionalVec3_roundTrips (v : Option (UInt32 × UInt32 × UInt32)) :
    (optionalType vec3).RoundTrips v :=
  optionalType_roundTrips fun a _ => vec3_roundTrips a

theorem optionalVec2_roundTrips (v : Option (UInt32 × UInt32)) :
    (optionalType vec2).RoundTrips v :=
  optionalType_roundTrips fun a _ => vec2_roundTrips a

theorem optionalBool_roundTrips (v : Option Bool) : (optionalType bool).RoundTrips v :=
  optionalType_roundTrips fun a _ => bool_roundTrips a

theorem pairType_roundTrips {α β : Type} {A : FieldType α} {B : FieldType β} {v : α × β}
    (hA : A.RoundTrips v.1) (hB : B.RoundTrips v.2) : (pairType A B).RoundTrips v :=
  Codes.bind hA <| Codes.last hB rfl

/-! ### Lists and options whose elements fit -/

/-- A list whose length and elements fit. -/
def FitsList {α : Type} (P : α → Prop) (xs : List α) : Prop := xs.length < 2 ^ 32 ∧ ∀ x ∈ xs, P x

/-- An optional value that fits if it is there. -/
def FitsOption {α : Type} (P : α → Prop) (v : Option α) : Prop := ∀ a, v = some a → P a

theorem fitsList_nil {α : Type} (P : α → Prop) : FitsList P [] :=
  ⟨Nat.two_pow_pos 32, fun _ hx => absurd hx List.not_mem_nil⟩

theorem fitsList_singleton {α : Type} {P : α → Prop} {x : α} (h : P x) : FitsList P [x] :=
  ⟨Nat.one_lt_two_pow (by decide), fun y hy => List.mem_singleton.mp hy ▸ h⟩

theorem FitsList.imp {α : Type} {P Q : α → Prop} {xs : List α} (h : FitsList P xs)
    (hPQ : ∀ x ∈ xs, P x → Q x) : FitsList Q xs :=
  ⟨h.1, fun x hx => hPQ x hx (h.2 x hx)⟩

theorem fitsList_roundTrips {α : Type} {T : FieldType α} {P : α → Prop} {xs : List α}
    (h : FitsList P xs) (hT : ∀ x, P x → T.RoundTrips x) : (arrayType T).RoundTrips xs :=
  arrayType_roundTrips h.1 fun x hx => hT x (h.2 x hx)

theorem strings_roundTrip {xs : List String} (h : FitsList FitsString xs) :
    (arrayType string).RoundTrips xs :=
  fitsList_roundTrips h fun _ => string_roundTrips

theorem fitsOption_none {α : Type} (P : α → Prop) : FitsOption P none := nofun

theorem fitsOption_some {α : Type} {P : α → Prop} {a : α} (h : P a) : FitsOption P (some a) :=
  fun _ hb => Option.some.inj hb ▸ h

theorem fitsOption_roundTrips {α : Type} {T : FieldType α} {P : α → Prop} {v : Option α}
    (h : FitsOption P v) (hT : ∀ a, P a → T.RoundTrips a) : (optionalType T).RoundTrips v :=
  optionalType_roundTrips fun a ha => hT a (h a ha)

/-! ### All primitive types -/

/-- **Primitive types and combinators are exact**: whatever follows, each type reads back from what
it writes the value it was given, and stops there.  The variable-length types take any integer and
give its residue; arrays and optional values are exact on the values their inner type is exact
on. -/
theorem primitives_exact :
    (∀ v, Codes (uvarInt.write v) uvarInt.read (v % 2 ^ 32)) ∧
    (∀ v, Codes (varInt.write v) varInt.read (wrapSigned 31 v)) ∧
    (∀ v, Codes (uvarInt64.write v) uvarInt64.read (v % 2 ^ 64)) ∧
    (∀ v, Codes (varInt64.write v) varInt64.read (wrapSigned 63 v)) ∧
    (∀ s, FitsString s → string.RoundTrips s) ∧
    (∀ v, InByte v → byte.RoundTrips v) ∧
    (∀ v, InInt8 v → int8.RoundTrips v) ∧
    (∀ v, InInt16 v → shortLE.RoundTrips v) ∧
    (∀ v, InUInt16 v → ushortLE.RoundTrips v) ∧
    (∀ v, InInt32 v → intLE.RoundTrips v ∧ intBE.RoundTrips v) ∧
    (∀ v, InUInt32 v → uintLE.RoundTrips v) ∧
    (∀ v, InInt64 v → int64LE.RoundTrips v) ∧
    (∀ v, InUInt64 v → uint64LE.RoundTrips v) ∧
    (∀ v : MceUUID, InUInt64 v.msb → InUInt64 v.lsb → uuid.RoundTrips v) ∧
    (∀ x y z, InInt32 x → InInt32 y → InInt32 z →
      blockPos.RoundTrips (x, y, z) ∧ networkBlockPos.RoundTrips (x, y, z)) ∧
    ∀ (α : Type) (T : FieldType α) (S : Set α), (∀ v ∈ S, T.RoundTrips v) →
      (∀ vs : List α, vs.length < 2 ^ 32 → (∀ v ∈ vs, v ∈ S) → (arrayType T).RoundTrips vs) ∧
      ∀ v : Option α, (∀ a, v = some a → a ∈ S) → (optionalType T).RoundTrips v := by
  refine ⟨uvarInt_codes, varInt_codes, uvarInt64_codes, varInt64_codes,
    fun _ => string_roundTrips, fun _ => byte_roundTrips, fun _ => int8_roundTrips,
    fun _ => shortLE_roundTrips, fun _ => ushortLE_roundTrips,
    fun _ h => ⟨intLE_roundTrips h, intBE_roundTrips h⟩, fun _ => uintLE_roundTrips,
    fun _ => int64LE_roundTrips, fun _ => uint64LE_roundTrips, fun _ => uuid_roundTrips,
    fun _ _ _ hx hy hz => ⟨blockPos_roundTrips hx hy hz, networkBlockPos_roundTrips hx hy hz⟩, ?_⟩
  intro α T S hS
  constructor
  · intro vs hlen hvs
    exact arrayType_roundTrips hlen fun v hv => hS v (hvs v hv)
  · intro v hv
    exact optionalType_roundTrips fun a ha => hS a (hv a ha)

/-- An array of positions below sea level, and an optional byte. -/
theorem primitives_exact_sample :
    (arrayType networkBlockPos).RoundTrips [(-5, -60, 12), (0, -2 ^ 31, 0)] ∧
      (optionalType byte).RoundTrips (some 255) ∧ (optionalType byte).RoundTrips none := by
  obtain ⟨_, _, _, _, _, hbyte, _, _, _, _, _, _, _, _, hpos, hcomb⟩ := primitives_exact
  refine ⟨(hcomb _ networkBlockPos {(-5, -60, 12), (0, -2 ^ 31, 0)} ?_).1 _ (by decide) ?_,
    (hcomb _ byte {v | InByte v} hbyte).2 _ ?_, (hcomb _ byte {v | InByte v} hbyte).2 _ ?_⟩
  · rintro v (rfl | rfl)
    · exact (hpos _ _ _ (by decide) (by decide) (by decide)).2
    · exact (hpos _ _ _ (by decide) (by decide) (by decide)).2
  · simp
  · rintro a ⟨⟩
    exact (by decide : InByte 255)
  · rintro a ⟨⟩

end Endweave
