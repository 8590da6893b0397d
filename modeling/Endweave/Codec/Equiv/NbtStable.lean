import Endweave.Codec.Equiv.Nbt
import Endweave.Codec.Equiv.Untrusted

/-!
# NBT from the other side

`nbt_stable`: network NBT decodes what it encodes, and a tree decoded from arbitrary bytes can be
written again and reads back as itself.

The second part is about bytes whose varints are within the range of their kind.  The reader is
stated once more with its varint readers as a parameter: `Varints.plain` gives the reader of the
source (`readNbt_plain`) and `Varints.ranged` the one that refuses a varint out of range.  What the
strict reader accepts, the other one accepts with the same result, and the result is canonical
(`readValue_refines`): a repeated key has replaced the earlier entry, and a list with a negative
count or of end tags is empty.

Lengths are varints too, so that the first part needs lists below `2 ^ 31` elements and strings
below `2 ^ 32` bytes: `nbt_intArray_not_exact` is an int array of `2 ^ 31` elements.
-/

namespace Endweave

open Wire PacketReader PacketWriter

/-! ### The reader with its varints as a parameter -/

/-- The readers of the three kinds of varints. -/
structure Varints where
  uvarint : Parser PyException UInt8 Int
  varint : Parser PyException UInt8 Int
  varint64 : Parser PyException UInt8 Int

namespace Varints

/-- The readers of the source. -/
def plain : Varints := ⟨readUVarint, readVarint, readVarint64⟩

/-- Refuse a value without `P`. -/
def check (P : Int → Prop) [DecidablePred P] (m : Parser PyException UInt8 Int) :
    Parser PyException UInt8 Int := do
  let v ← m
  if P v then pure v else throw (.valueError "varint out of range")

/-- Each varint within the range of its kind. -/
def ranged : Varints :=
  ⟨check InUInt32 readUVarint, check InInt32 readVarint, check InInt64 readVarint64⟩

variable (V : Varints)

def readNbtString : Parser PyException UInt8 String := do
  let length ← V.uvarint
  let data ← readBytes length
  decodeUtf8 data

def readEntries (child : Int → Parser PyException UInt8 Tag) :
    Nat → CompoundTag → Parser PyException UInt8 CompoundTag
  | 0, _ => throw .indexError
  | rounds + 1, entries => do
    let childType ← readByte
    if childType = tagEnd then pure entries
    else do
      let name ← V.readNbtString
      let tag ← child childType
      readEntries child rounds (entries.insert name tag)

def readCompound (child : Int → Parser PyException UInt8 Tag) :
    Parser PyException UInt8 CompoundTag :=
  fun r => V.readEntries child (r.rest.length + 1) [] r

def readValue : Nat → Int → Parser PyException UInt8 Tag
  | 0, _ => throw (.valueError "NBT nesting depth exceeded")
  | budget + 1, tagType =>
    if tagType = tagByte then Tag.byte <$> readByte
    else if tagType = tagShort then Tag.short <$> readShortLE
    else if tagType = tagInt then Tag.int <$> V.varint
    else if tagType = tagLong then Tag.long <$> V.varint64
    else if tagType = tagFloat then Tag.float <$> readFloatLE
    else if tagType = tagDouble then do
      let data ← readBytes 8
      pure (Tag.double (UInt64.ofNat (StructFormat.uint64LE.decode data).toNat))
    else if tagType = tagByteArray then do
      let length ← V.varint
      Tag.byteArray <$> readBytes length
    else if tagType = tagString then Tag.string <$> V.readNbtString
    else if tagType = tagList then do
      let elemType ← readByte
      let count ← V.varint
      if elemType ≠ tagEnd ∧ count > 0 then
        Tag.list elemType <$> collect (readValue budget elemType) count.toNat
      else pure (Tag.list elemType [])
    else if tagType = tagCompound then Tag.compound <$> V.readCompound (readValue budget)
    else if tagType = tagIntArray then do
      let count ← V.varint
      Tag.intArray <$> collect V.varint count.toNat
    else if tagType = tagLongArray then do
      let count ← V.varint
      Tag.longArray <$> collect V.varint64 count.toNat
    else throw (.valueError s!"Unknown NBT tag type: {tagType}")

def readRootName (readName : Bool) : Parser PyException UInt8 Unit :=
  if readName then discard V.readNbtString else pure ()

def readNbt (readName : Bool) : Parser PyException UInt8 (Option CompoundTag) := do
  let rootType ← readByte
  if rootType = tagEnd then pure none
  else if rootType ≠ tagCompound then
    throw (.valueError s!"Expected compound root tag (10), got {rootType}")
  else do
    V.readRootName readName
    some <$> V.readCompound (V.readValue 512)

end Varints

/-! ### The reader of the source -/

theorem readEntries_plain (child : Int → Parser PyException UInt8 Tag) (rounds : Nat) :
    ∀ entries,
      Varints.plain.readEntries child rounds entries = readEntries child rounds entries := by
  induction rounds with
  | zero => exact fun _ => rfl
  | succ rounds ih =>
    intro entries
    simp only [Varints.readEntries, readEntries, ih]
    rfl

theorem readCompound_plain (child : Int → Parser PyException UInt8 Tag) :
    Varints.plain.readCompound child = readCompound child := by
  funext r
  rw [Varints.readCompound, readCompound, readEntries_plain]

theorem readValue_plain (budget : Nat) : Varints.plain.readValue budget = readValue budget := by
  induction budget with
  | zero => rfl
  | succ budget ih =>
    funext tagType
    simp only [Varints.readValue, readValue, ih, readCompound_plain]
    rfl

/-- With the varint readers of the source it is the reader of the source. -/
theorem readNbt_plain (readName : Bool) : Varints.plain.readNbt readName = readNbt readName := by
  simp only [Varints.readNbt, readNbt, readValue_plain, readCompound_plain]
  rfl

/-! ### What the strict reader returns -/

theorem check_refines {P : Int → Prop} [DecidablePred P] {m : Parser PyException UInt8 Int}
    {Q : List UInt8 → Int → Prop} (hm : Takes m Q) : Refines (Varints.check P m) m P := by
  intro c v c' hc h
  obtain ⟨v', c₁, hok, hv⟩ := bind_eq_ok h
  obtain ⟨bs, suf, hrest, rfl, _⟩ := hm.of_ok hc hok
  split_ifs at hv with hp
  · obtain ⟨rfl, rfl⟩ := EStateM.Result.ok.inj hv
    exact ⟨hc.advance_of_append hrest, hok, hp⟩
  · have hne : EStateM.Result.error (PyException.valueError "varint out of range")
        (c.advance bs.length) = .ok v c' := hv
    exact absurd hne (by simp)

theorem readFloatLE_returns : Refines readFloatLE readFloatLE fun _ => True :=
  (unpack_returns .uintLE).bind fun _ _ => Refines.pure trivial

theorem ranged_uvarint : Refines Varints.ranged.uvarint readUVarint InUInt32 :=
  check_refines readUVarint_takes

theorem ranged_varint : Refines Varints.ranged.varint readVarint InInt32 :=
  check_refines readVarint_takes

theorem ranged_varint64 : Refines Varints.ranged.varint64 readVarint64 InInt64 :=
  check_refines readVarint64_takes

theorem readNbtString_refines :
    Refines Varints.ranged.readNbtString readNbtString FitsNbtString := by
  refine ranged_uvarint.bind fun length hlength => ?_
  refine Refines.of_takes ((readUtf8_takes length).mono ?_)
  rintro bs s ⟨rfl, hlen⟩
  have hlt := hlength.2
  unfold FitsNbtString
  omega

/-- What the loop over the entries of a compound keeps: distinct keys, canonical values. -/
theorem readEntries_refines {child child' : Int → Parser PyException UInt8 Tag} {d : Nat}
    (hchild : ∀ tagType, Refines (child tagType) (child' tagType) (Tag.Canonical d))
    (rounds : Nat) {entries : CompoundTag} (h : (Tag.compound entries).Canonical (d + 1)) :
    Refines (Varints.ranged.readEntries child rounds entries) (readEntries child' rounds entries)
      fun entries => (Tag.compound entries).Canonical (d + 1) := by
  induction rounds generalizing entries with
  | zero => exact Refines.throw _
  | succ rounds ih =>
    unfold Varints.readEntries readEntries
    refine readByte_returns.bind fun childType _ => ?_
    by_cases hend : childType = tagEnd
    · rw [if_pos hend, if_pos hend]
      exact Refines.pure h
    · rw [if_neg hend, if_neg hend]
      refine readNbtString_refines.bind fun name hname => ?_
      refine (hchild childType).bind fun tag htag => ih ?_
      obtain ⟨hnodup, hentries⟩ := h
      refine ⟨OrderedDict.nodup_keys_insert hnodup name tag, fun entry he => ?_⟩
      -- the new entry may have replaced an old one
      rcases OrderedDict.mem_insert he with rfl | he
      · exact ⟨hname, htag⟩
      · exact hentries entry he

theorem readCompound_refines {child child' : Int → Parser PyException UInt8 Tag} {d : Nat}
    (hchild : ∀ tagType, Refines (child tagType) (child' tagType) (Tag.Canonical d)) :
    Refines (Varints.ranged.readCompound child) (readCompound child')
      fun entries => (Tag.compound entries).Canonical (d + 1) := by
  intro c entries c' hc h
  have hempty : (Tag.compound []).Canonical (d + 1) :=
    ⟨List.nodup_nil, fun _ he => absurd he List.not_mem_nil⟩
  exact readEntries_refines hchild (c.rest.length + 1) hempty c entries c' hc h

/-- A count in range, then as many numbers. -/
theorem readNumbers_refines {m m' : Parser PyException UInt8 Int} {P : Int → Prop}
    (hm : Refines m m' P) {f : List Int → Tag} {R : Tag → Prop}
    (hf : ∀ vs, FitsCount vs ∧ (∀ v ∈ vs, P v) → R (f vs)) :
    Refines (do
      let count ← Varints.ranged.varint
      f <$> collect m count.toNat) (do
      let count ← readVarint
      f <$> collect m' count.toNat) R := by
  refine ranged_varint.bind fun count hcount => (hm.collect count.toNat).map ?_
  rintro vs ⟨hlen, hvs⟩
  refine hf vs ⟨?_, hvs⟩
  have hlt := hcount.2
  unfold FitsCount
  omega

/-- Every tag that the strict reader returns is canonical and of the type that was asked for. -/
theorem readValue_refines (d : Nat) (tagType : Int) :
    Refines (Varints.ranged.readValue d tagType) (readValue d tagType)
      fun tag => tag.tagId = tagType ∧ tag.Canonical d := by
  induction d generalizing tagType with
  | zero => exact Refines.throw _
  | succ d ih =>
    have hchild : ∀ tagType, Refines (Varints.ranged.readValue d tagType) (readValue d tagType)
        (Tag.Canonical d) := fun tagType => (ih tagType).mono fun _ h => h.2
    unfold Varints.readValue readValue
    refine Refines.ite (fun h => readByte_returns.map fun v hv => ⟨h.symm, hv⟩) fun _ => ?_
    refine Refines.ite (fun h => readShortLE_returns.map fun v hv => ⟨h.symm, hv⟩) fun _ => ?_
    refine Refines.ite (fun h => ranged_varint.map fun v hv => ⟨h.symm, hv⟩) fun _ => ?_
    refine Refines.ite (fun h => ranged_varint64.map fun v hv => ⟨h.symm, hv⟩) fun _ => ?_
    refine Refines.ite (fun h => readFloatLE_returns.map fun v _ => ⟨h.symm, trivial⟩) fun _ => ?_
    refine Refines.ite (fun h => (readBytes_returns 8).bind fun data _ =>
      Refines.pure ⟨h.symm, trivial⟩) fun _ => ?_
    refine Refines.ite (fun h => ?_) fun _ => ?_
    · refine ranged_varint.bind fun length hlength => (readBytes_returns length).map ?_
      intro data hdata
      have hlt := hlength.2
      have hcount : data.length < 2 ^ 31 := by omega
      exact ⟨h.symm, hcount⟩
    refine Refines.ite (fun h => readNbtString_refines.map fun s hs => ⟨h.symm, hs⟩) fun _ => ?_
    refine Refines.ite (fun h => ?_) fun _ => ?_
    · refine readByte_returns.bind fun elemType helem => ranged_varint.bind fun count hcount => ?_
      refine Refines.ite (fun _ => ?_) fun _ => ?_
      · refine ((ih elemType).collect count.toNat).map ?_
        rintro tags ⟨hlen, htags⟩
        have hlt := hcount.2
        have hfits : FitsCount tags := by
          unfold FitsCount
          omega
        exact ⟨h.symm, helem, hfits, htags⟩
      · -- no elements, whatever the count says
        have hfits : ([] : List Tag).length < 2 ^ 31 := by norm_num
        exact Refines.pure ⟨h.symm, helem, hfits, fun _ he => absurd he List.not_mem_nil⟩
    refine Refines.ite (fun h => (readCompound_refines hchild).map fun entries he =>
      ⟨h.symm, he⟩) fun _ => ?_
    refine Refines.ite (fun h => readNumbers_refines ranged_varint fun vs hvs =>
      ⟨h.symm, hvs⟩) fun _ => ?_
    refine Refines.ite (fun h => readNumbers_refines ranged_varint64 fun vs hvs =>
      ⟨h.symm, hvs⟩) fun _ => ?_
    exact Refines.throw _

theorem readNbt_refines (readName : Bool) :
    Refines (Varints.ranged.readNbt readName) (readNbt readName) CanonicalNbt := by
  refine readByte_returns.bind fun rootType _ => ?_
  refine Refines.ite (fun _ => Refines.pure trivial) fun _ => ?_
  refine Refines.ite (fun _ => Refines.throw _) fun _ => ?_
  have hroot : Refines (Varints.ranged.readRootName readName) (readRootName readName)
      fun _ => True := by
    cases readName with
    | false => exact Refines.pure trivial
    | true => exact readNbtString_refines.map fun _ _ => trivial
  refine hroot.bind fun _ _ => ?_
  have hchild : ∀ tagType, Refines (Varints.ranged.readValue 512 tagType)
      (readValue 512 tagType) (Tag.Canonical 512) := fun tagType =>
    (readValue_refines 512 tagType).mono fun _ h => h.2
  exact (readCompound_refines hchild).map fun _ he => he

/-! ### Round trips from either side -/

/-- **Network NBT is stable**: in either format a canonical tree is read back, key order included,
from what is written for it, and absent NBT likewise; and whatever the reader accepts with every
varint in range can be written, and reads back as the tree it was read as. -/
theorem nbt_stable :
    (∀ value name, CanonicalNbt value → (∀ s, name = some s → FitsNbtString s) →
      Codes (writeNbt value name) (readNbt name.isSome) value) ∧
    ∀ readName payload value r,
      Varints.ranged.readNbt readName ⟨payload, 0⟩ = .ok value r →
      readNbt readName ⟨payload, 0⟩ = .ok value r ∧
        ∀ name, name.isSome = readName → (∀ s, name = some s → FitsNbtString s) →
          Codes (writeNbt value name) (readNbt readName) value := by
  refine ⟨fun value name h hname => writeNbt_codes h hname, ?_⟩
  intro readName payload value r h
  obtain ⟨_, hplain, hcanonical⟩ := readNbt_refines readName _ _ _ (Cursor.within_start payload) h
  refine ⟨hplain, ?_⟩
  rintro name rfl hname
  exact writeNbt_codes hcanonical hname

/-- A key that is there twice, the second time for a list with a negative count. -/
theorem nbt_stable_sample :
    readNbt false ⟨[10, 1, 1, 97, 5, 9, 1, 97, 3, 1, 0], 0⟩ =
        .ok (some [("a", .list tagInt [])]) ⟨[10, 1, 1, 97, 5, 9, 1, 97, 3, 1, 0], 11⟩ ∧
      Codes (writeNbt (some [("a", .list tagInt [])]) none) (readNbt false)
        (some [("a", .list tagInt [])]) := by
  obtain ⟨hread, hcodes⟩ :=
    nbt_stable.2 false [10, 1, 1, 97, 5, 9, 1, 97, 3, 1, 0] (some [("a", .list tagInt [])]) _ rfl
  exact ⟨hread, hcodes none rfl (by rintro s ⟨⟩)⟩

/-! ### Counts out of range -/

/-- Canonical up to the lengths of strings, lists and arrays. -/
def Tag.WellTyped : Nat → Tag → Prop
  | 0, _ => False
  | _ + 1, .byte value => InByte value
  | _ + 1, .short value => InInt16 value
  | _ + 1, .int value => InInt32 value
  | _ + 1, .long value => InInt64 value
  | _ + 1, .float _ => True
  | _ + 1, .double _ => True
  | _ + 1, .byteArray _ => True
  | _ + 1, .string _ => True
  | d + 1, .list elementType tags => InByte elementType ∧
      ∀ tag ∈ tags, tag.tagId = elementType ∧ WellTyped d tag
  | d + 1, .compound value => (OrderedDict.keys value).Nodup ∧
      ∀ entry ∈ value, WellTyped d entry.2
  | _ + 1, .intArray value => ∀ v ∈ value, InInt32 v
  | _ + 1, .longArray value => ∀ v ∈ value, InInt64 v

/-- An int array as the only entry of a root compound. -/
def intArrayRoot (value : List Int) : CompoundTag := [("", .intArray value)]

/-- The header of the array and its count, as the nameless format has them. -/
def intArrayHeader (count : Int) : List UInt8 :=
  byte.bytes tagCompound ++ (byte.bytes tagIntArray ++
    (written (writeNbtString "") ++ varInt.bytes count))

theorem intArrayRoot_writes (value : List Int) (hvalue : ∀ v ∈ value, InInt32 v) :
    Writes (writeNbt (some (intArrayRoot value)) none)
      (intArrayHeader value.length ++ (value.flatMap varInt.bytes ++ byte.bytes tagEnd)) := by
  have hroot : Writes (writeByte tagCompound) (byte.bytes tagCompound) :=
    (byte_roundTrips (v := tagCompound) (by decide)).writes
  have hid : Writes (writeByte tagIntArray) (byte.bytes tagIntArray) :=
    (byte_roundTrips (v := tagIntArray) (by decide)).writes
  have hend : Writes (writeByte tagEnd) (byte.bytes tagEnd) :=
    (byte_roundTrips (v := tagEnd) (by decide)).writes
  have hname : Writes (writeNbtString "") (written (writeNbtString "")) :=
    (nbtString_codes (s := "") (by decide)).writes
  have hcount : Writes (writeVarint value.length) (varInt.bytes value.length) :=
    (varInt_codes value.length).writes
  have harray : Writes (writeValue (.intArray value))
      (varInt.bytes value.length ++ value.flatMap varInt.bytes) := by
    unfold writeValue
    exact hcount.bind (Writes.each fun v hv => (varInt_roundTrips (hvalue v hv)).writes)
  have hentry : Writes (writeEntries (intArrayRoot value)) (byte.bytes tagIntArray ++
      (written (writeNbtString "") ++ ((varInt.bytes value.length ++ value.flatMap varInt.bytes) ++
        []))) := by
    unfold intArrayRoot writeEntries writeEntries
    exact hid.bind (hname.bind (harray.bind Writes.pure))
  have htree : Writes (writeNbt (some (intArrayRoot value)) none) (byte.bytes tagCompound ++ ([] ++
      (byte.bytes tagIntArray ++ (written (writeNbtString "") ++
        ((varInt.bytes value.length ++ value.flatMap varInt.bytes) ++ [])) ++
          byte.bytes tagEnd))) := by
    refine hroot.bind (Writes.bind (w := writeRootName none) Writes.pure ?_)
    unfold writeValue
    exact hentry.bind hend
  simpa only [intArrayHeader, List.append_assoc, List.append_nil, List.nil_append] using htree

/-- In front of an end tag, a count that wraps to a negative one gives an empty array. -/
theorem intArrayRoot_reads {count : Int} (h : wrapSigned 31 count ≤ 0) :
    Reads (readNbt false) (intArrayHeader count ++ byte.bytes tagEnd) (some (intArrayRoot [])) := by
  have hchild : Reads (readValue 512 (Tag.intArray []).tagId) (varInt.bytes count)
      (.intArray []) := by
    refine Reads.bind_pure (varInt_codes count).reads ?_
    rw [Int.toNat_of_nonpos h]
    rfl
  have hcompound : Reads (readCompound (readValue 512)) (byte.bytes tagIntArray ++
      (written (writeNbtString "") ++ varInt.bytes count) ++ byte.bytes tagEnd)
      (intArrayRoot []) := by
    intro c suf hc hrest
    have hone : (intArrayRoot []).length < c.rest.length + 1 := by
      have hpos : byte.bytes tagIntArray = [_] := (writeByte_writes _).written
      rw [hrest, hpos]
      simp [intArrayRoot]
    have hname : ∀ entry ∈ intArrayRoot [], FitsNbtString entry.1 := by
      simp [intArrayRoot, FitsNbtString, encodeUtf8]
    have hentry : ∀ entry ∈ intArrayRoot [],
        Reads (readValue 512 entry.2.tagId) (varInt.bytes count) entry.2 := by
      simpa [intArrayRoot] using hchild
    have hnodup : (OrderedDict.keys ([] ++ intArrayRoot [])).Nodup := by
      simp [intArrayRoot, OrderedDict.keys]
    have hentries := readEntries_reads (fun _ => varInt.bytes count) hname hentry hone hnodup
    simp only [intArrayRoot, List.flatMap_cons, List.flatMap_nil, List.append_nil] at hentries
    exact hentries c suf hc hrest
  have hroot : Reads (readNbt false) (byte.bytes tagCompound ++ ([] ++ (byte.bytes tagIntArray ++
      (written (writeNbtString "") ++ varInt.bytes count) ++ byte.bytes tagEnd)))
      (some (intArrayRoot [])) := by
    refine Reads.bind (byte_roundTrips (v := tagCompound) (by decide)).reads ?_
    have hname : Reads (Pure.pure () : Parser PyException UInt8 Unit) [] () := Reads.pure ()
    exact hname.bind (hcompound.map some)
  simpa only [intArrayHeader, List.append_assoc, List.nil_append] using hroot

/-- The elements behind such a count are left for whatever is read next. -/
theorem intArrayRoot_not_exact {value : List Int} (hvalue : ∀ v ∈ value, InInt32 v)
    (hcount : wrapSigned 31 value.length ≤ 0) (hzero : ∃ vs, value = 0 :: vs) :
    (Tag.compound (intArrayRoot value)).WellTyped 513 ∧
      ¬ Codes (writeNbt (some (intArrayRoot value)) none) (readNbt false)
        (some (intArrayRoot value)) := by
  constructor
  · refine ⟨by simp [intArrayRoot, OrderedDict.keys], fun entry hentry => ?_⟩
    rw [intArrayRoot, List.mem_singleton] at hentry
    rw [hentry]
    exact hvalue
  · rintro ⟨bs, hw, hr⟩
    obtain ⟨vs, hvs⟩ := hzero
    -- the first zero is the end tag that the reader meets
    have hend : varInt.bytes 0 = byte.bytes tagEnd := by
      rw [varInt_bytes, show byte.bytes tagEnd = [_] from (writeByte_writes _).written]
      rfl
    have hbs : bs = (intArrayHeader value.length ++ byte.bytes tagEnd) ++
        (vs.flatMap varInt.bytes ++ byte.bytes tagEnd) := by
      rw [← hw.written, (intArrayRoot_writes value hvalue).written, hvs, List.flatMap_cons, hend]
      simp only [List.append_assoc]
    have hread := hr ⟨bs, 0⟩ [] (Cursor.within_start bs) (List.append_nil bs).symm
    have hempty := intArrayRoot_reads hcount ⟨bs, 0⟩ _ (Cursor.within_start bs) hbs
    rw [hread] at hempty
    have hvalue := (EStateM.Result.ok.inj hempty).1
    rw [hvs] at hvalue
    simp [intArrayRoot] at hvalue

/-- **A count is a varint**: an int array of `2 ^ 31` zeros is not read back.  Its count is written
as a negative number, and the reader stops behind the first element with an empty array. -/
theorem nbt_intArray_not_exact :
    (Tag.compound (intArrayRoot (List.replicate (2 ^ 31) 0))).WellTyped 513 ∧
      ¬ Codes (writeNbt (some (intArrayRoot (List.replicate (2 ^ 31) 0))) none) (readNbt false)
        (some (intArrayRoot (List.replicate (2 ^ 31) 0))) := by
  apply intArrayRoot_not_exact
  · intro v hv
    rw [List.eq_of_mem_replicate hv]
    decide
  · rw [List.length_replicate]
    decide
  · exact ⟨_, List.replicate_succ⟩

end Endweave
