import Endweave.Codec.Equiv.Primitives
import Endweave.Codec.Types.Nbt

/-!
# Correctness of the NBT codec

`readValue_codes`: a canonical tag of nesting depth at most `d` is read back from what is written
for it; `writeNbt_codes` is the same for a root compound in either format.  The proof is by
induction on the depth budget, with one case per tag; the loop over the entries of a compound is
`readEntries_reads`.
-/

namespace Endweave

open Wire PacketReader PacketWriter

/-! ### Canonical tags -/

/-- A string whose length fits the uvarint in front of it. -/
def FitsNbtString (s : String) : Prop := (encodeUtf8 s).length < 2 ^ 32

instance (s : String) : Decidable (FitsNbtString s) :=
  inferInstanceAs (Decidable ((encodeUtf8 s).length < 2 ^ 32))

/-- A list whose length fits the varint in front of it. -/
def FitsCount {α : Type} (xs : List α) : Prop := xs.length < 2 ^ 31

/-- A tag of nesting depth at most `d` whose numbers are in range, whose lists are homogeneous and
whose compounds have distinct keys. -/
def Tag.Canonical : Nat → Tag → Prop
  | 0, _ => False
  | _ + 1, .byte value => InByte value
  | _ + 1, .short value => InInt16 value
  | _ + 1, .int value => InInt32 value
  | _ + 1, .long value => InInt64 value
  | _ + 1, .float _ => True
  | _ + 1, .double _ => True
  | _ + 1, .byteArray value => FitsCount value
  | _ + 1, .string value => FitsNbtString value
  | d + 1, .list elementType tags => InByte elementType ∧ FitsCount tags ∧
      ∀ tag ∈ tags, tag.tagId = elementType ∧ Canonical d tag
  | d + 1, .compound value => (OrderedDict.keys value).Nodup ∧
      ∀ entry ∈ value, FitsNbtString entry.1 ∧ Canonical d entry.2
  | _ + 1, .intArray value => FitsCount value ∧ ∀ v ∈ value, InInt32 v
  | _ + 1, .longArray value => FitsCount value ∧ ∀ v ∈ value, InInt64 v

theorem Tag.tagId_bounds (tag : Tag) : 1 ≤ tag.tagId ∧ tag.tagId ≤ 12 := by
  cases tag <;>
    simp only [tagId, tagByte, tagShort, tagInt, tagLong, tagFloat, tagDouble, tagByteArray,
      tagString, tagList, tagCompound, tagIntArray, tagLongArray] <;>
    omega

theorem Tag.inByte_tagId (tag : Tag) : InByte tag.tagId := by
  have h := tag.tagId_bounds
  exact ⟨by omega, by omega⟩

theorem Tag.tagId_ne_end (tag : Tag) : tag.tagId ≠ tagEnd := by
  have h := tag.tagId_bounds
  unfold tagEnd
  omega

/-! ### Compounds -/

theorem nbtString_codes {s : String} (h : FitsNbtString s) :
    Codes (writeNbtString s) readNbtString s := utf8_codes h

/-- What is written for one entry of a compound. -/
def writeEntry (entry : String × Tag) : Printer PyException UInt8 Unit := do
  writeByte entry.2.tagId
  writeNbtString entry.1
  writeValue entry.2

theorem writeEntries_eq (entries : List (String × Tag)) :
    writeEntries entries = each writeEntry entries := by
  induction entries with
  | nil => rw [writeEntries, each]
  | cons entry entries ih =>
    obtain ⟨name, child⟩ := entry
    rw [writeEntries, each, writeEntry, ih]
    simp only [bind_assoc]

theorem writeTags_eq (tags : List Tag) : writeTags tags = each writeValue tags := by
  induction tags with
  | nil => rw [writeTags, each]
  | cons tag tags ih => rw [writeTags, each, ih]

/-- The loop of the reader over entries written one after the other, in front of an end tag. -/
theorem readEntries_reads {child : Int → Parser PyException UInt8 Tag} (bytesOf : Tag → List UInt8)
    {value : List (String × Tag)}
    (hname : ∀ entry ∈ value, FitsNbtString entry.1)
    (hchild : ∀ entry ∈ value, Reads (child entry.2.tagId) (bytesOf entry.2) entry.2)
    {rounds : Nat} (hrounds : value.length < rounds) {entries : CompoundTag}
    (hnodup : (OrderedDict.keys (entries ++ value)).Nodup) :
    Reads (readEntries child rounds entries)
      (value.flatMap (fun entry => byte.bytes entry.2.tagId ++
        (written (writeNbtString entry.1) ++ bytesOf entry.2)) ++ byte.bytes tagEnd)
      (entries ++ value) := by
  induction value generalizing rounds entries with
  | nil =>
    obtain ⟨n, rfl⟩ : ∃ n, rounds = n + 1 := ⟨rounds - 1, by simp at hrounds; omega⟩
    rw [readEntries, List.flatMap_nil, List.nil_append, List.append_nil]
    refine Reads.bind_pure (byte_roundTrips (v := tagEnd) (by decide)).reads ?_
    rw [if_pos rfl]
  | cons entry value ih =>
    obtain ⟨n, rfl⟩ : ∃ n, rounds = n + 1 := ⟨rounds - 1, by simp at hrounds; omega⟩
    obtain ⟨name, tag⟩ := entry
    rw [readEntries, List.flatMap_cons, List.append_assoc, List.append_assoc]
    refine (byte_roundTrips tag.inByte_tagId).reads.bind ?_
    rw [if_neg tag.tagId_ne_end, List.append_assoc]
    refine (nbtString_codes (hname _ (List.mem_cons_self ..))).reads.bind ?_
    refine (hchild _ (List.mem_cons_self ..)).bind ?_
    -- a key that is new is appended, so the entries come back in their order
    have hkeys : name ∉ OrderedDict.keys entries := by
      rw [OrderedDict.keys, List.map_append, List.nodup_append] at hnodup
      exact fun hmem => hnodup.2.2 name hmem name (List.mem_cons_self ..) rfl
    have happend : entries ++ (name, tag) :: value = entries ++ [(name, tag)] ++ value := by
      rw [List.append_assoc, List.singleton_append]
    rw [OrderedDict.insert_of_not_mem hkeys, happend]
    refine ih (fun e he => hname e (List.mem_cons_of_mem _ he))
      (fun e he => hchild e (List.mem_cons_of_mem _ he)) (by simpa using hrounds) ?_
    rw [← happend]
    exact hnodup

/-- A compound is read back when its children are. -/
theorem readCompound_codes {child : Int → Parser PyException UInt8 Tag}
    {value : List (String × Tag)} (hname : ∀ entry ∈ value, FitsNbtString entry.1)
    (hchild : ∀ entry ∈ value, Codes (writeValue entry.2) (child entry.2.tagId) entry.2)
    (hnodup : (OrderedDict.keys value).Nodup) :
    Codes (writeEntries value >>= fun _ => writeByte tagEnd) (readCompound child) value := by
  have hentry : ∀ entry ∈ value, Writes (writeEntry entry) (byte.bytes entry.2.tagId ++
      (written (writeNbtString entry.1) ++ written (writeValue entry.2))) := fun entry he =>
    (byte_roundTrips entry.2.inByte_tagId).writes.bind
      ((nbtString_codes (hname entry he)).writes.bind (hchild entry he).writes)
  rw [writeEntries_eq]
  refine ⟨_, (Writes.each hentry).bind (byte_roundTrips (v := tagEnd) (by decide)).writes, ?_⟩
  intro r suf hr hrest
  refine readEntries_reads (fun tag => written (writeValue tag)) hname
    (fun entry he => (hchild entry he).reads) ?_ ?_ r suf hr hrest
  · -- every entry takes at least one byte
    have hlen : value.length ≤ (value.flatMap fun entry => byte.bytes entry.2.tagId ++
        (written (writeNbtString entry.1) ++ written (writeValue entry.2))).length := by
      refine length_le_length_flatMap fun entry _ => ?_
      have hid : byte.bytes entry.2.tagId = [_] := (writeByte_writes _).written
      rw [hid]
      exact List.cons_ne_nil _ _
    rw [hrest, List.length_append, List.length_append]
    omega
  · rw [List.nil_append]
    exact hnodup

/-! ### Tags -/

/-- A list of numbers behind a varint count. -/
theorem numbers_codes {w : Int → Printer PyException UInt8 Unit} {r : Parser PyException UInt8 Int}
    {value : List Int} (hcount : FitsCount value) (h : ∀ v ∈ value, Codes (w v) r v)
    (f : List Int → Tag) :
    Codes (do
      writeVarint value.length
      each w value) (do
      let count ← readVarint
      f <$> collect r count.toNat) (f value) := by
  unfold FitsCount at hcount
  apply Codes.bind (varInt_roundTrips ⟨by omega, by omega⟩)
  rw [Int.toNat_natCast]
  exact (Codes.each h).map f

/-- A double is written and read through raw bytes. -/
theorem readDouble_codes (value : UInt64) :
    Codes (writeBytes (StructFormat.uint64LE.encode value.toNat)) (do
      let data ← readBytes 8
      pure (Tag.double (UInt64.ofNat (StructFormat.uint64LE.decode data).toNat)))
      (Tag.double value) := by
  have hlt := value.toNat_lt
  have hr : StructFormat.uint64LE.InRange value.toNat :=
    inRange_unsigned (k := 64) rfl rfl ⟨by omega, by omega⟩
  have hread := readBytes_reads (StructFormat.uint64LE.encode value.toNat)
  rw [StructFormat.length_encode] at hread
  refine Codes.last ⟨_, writeBytes_writes _, hread⟩ ?_
  rw [StructFormat.decode_encode hr, Int.toNat_natCast, UInt64.ofNat_toNat]

/-- A homogeneous list behind its element type and a varint count. -/
theorem readList_codes {child : Int → Parser PyException UInt8 Tag} {elementType : Int}
    {tags : List Tag} (hbyte : InByte elementType) (hcount : FitsCount tags)
    (htags : ∀ tag ∈ tags, tag.tagId = elementType ∧
      Codes (writeValue tag) (child tag.tagId) tag) :
    Codes (do
      writeByte elementType
      writeVarint tags.length
      each writeValue tags) (do
      let elemType ← readByte
      let count ← readVarint
      if elemType ≠ tagEnd ∧ count > 0 then
        Tag.list elemType <$> collect (child elemType) count.toNat
      else pure (Tag.list elemType [])) (Tag.list elementType tags) := by
  unfold FitsCount at hcount
  refine Codes.bind (byte_roundTrips hbyte) (Codes.bind (varInt_roundTrips ⟨by omega, by omega⟩) ?_)
  cases tags with
  | nil =>
    -- an empty list keeps its element type, also when that is the end tag
    rw [if_neg (by simp)]
    exact Codes.pure _
  | cons tag tags =>
    have hend : elementType ≠ tagEnd := by
      rw [← (htags tag (List.mem_cons_self ..)).1]
      exact tag.tagId_ne_end
    rw [if_pos ⟨hend, by simp⟩, Int.toNat_natCast]
    refine (Codes.each fun t ht => ?_).map (Tag.list elementType)
    have h := htags t ht
    rw [← h.1]
    exact h.2

theorem readValue_codes {d : Nat} {tag : Tag} (h : tag.Canonical d) :
    Codes (writeValue tag) (readValue d tag.tagId) tag := by
  induction d generalizing tag with
  | zero =>
    cases tag <;> exact absurd h id
  | succ d ih =>
    cases tag with
    | byte value =>
      unfold writeValue
      exact Codes.map (byte_roundTrips h) Tag.byte
    | short value =>
      unfold writeValue
      exact Codes.map (shortLE_roundTrips h) Tag.short
    | int value =>
      unfold writeValue
      exact Codes.map (varInt_roundTrips h) Tag.int
    | long value =>
      unfold writeValue
      exact Codes.map (varInt64_roundTrips h) Tag.long
    | float value =>
      unfold writeValue
      exact Codes.map (readFloatLE_codes value) Tag.float
    | double value =>
      unfold writeValue
      exact readDouble_codes value
    | byteArray value =>
      unfold writeValue
      have hcount : value.length < 2 ^ 31 := h
      exact Codes.bind (varInt_roundTrips ⟨by omega, by omega⟩)
        (Codes.map ⟨_, writeBytes_writes value, readBytes_reads value⟩ Tag.byteArray)
    | string value =>
      unfold writeValue
      exact (nbtString_codes h).map Tag.string
    | list elementType tags =>
      obtain ⟨hbyte, hcount, htags⟩ := h
      rw [writeValue, writeTags_eq]
      exact readList_codes hbyte hcount fun tag ht => ⟨(htags tag ht).1, ih (htags tag ht).2⟩
    | compound value =>
      obtain ⟨hnodup, hentries⟩ := h
      unfold writeValue
      exact (readCompound_codes (fun entry he => (hentries entry he).1)
        (fun entry he => ih (hentries entry he).2) hnodup).map Tag.compound
    | intArray value =>
      unfold writeValue
      exact numbers_codes h.1 (fun v hv => varInt_roundTrips (h.2 v hv)) Tag.intArray
    | longArray value =>
      unfold writeValue
      exact numbers_codes h.1 (fun v hv => varInt64_roundTrips (h.2 v hv)) Tag.longArray

/-! ### Roots -/

/-- A root compound of nesting depth at most 512 below the root. -/
def CanonicalNbt : Option CompoundTag → Prop
  | none => True
  | some value => (Tag.compound value).Canonical 513

/-- A root compound in either format: behind a root name or without one. -/
theorem writeNbt_codes {value : Option CompoundTag} (h : CanonicalNbt value) {name : Option String}
    (hname : ∀ s, name = some s → FitsNbtString s) :
    Codes (writeNbt value name) (readNbt name.isSome) value := by
  cases value with
  | none => exact Codes.last (byte_roundTrips (v := tagEnd) (by decide)) rfl
  | some value =>
    obtain ⟨hnodup, hentries⟩ := h
    have hroot : Codes (writeRootName name) (readRootName name.isSome) () := by
      cases name with
      | none => exact Codes.pure ()
      | some s => exact (nbtString_codes (hname s rfl)).map (fun _ => ())
    refine Codes.bind (byte_roundTrips (v := tagCompound) (by decide)) (Codes.bind hroot ?_)
    unfold writeValue
    exact (readCompound_codes (fun entry he => (hentries entry he).1)
      (fun entry he => readValue_codes (hentries entry he).2) hnodup).map some

theorem namedCompoundTag_roundTrips {value : Option CompoundTag} (h : CanonicalNbt value) :
    namedCompoundTag.RoundTrips value := by
  have hname : ∀ s, some "" = some s → FitsNbtString s := by
    rintro s ⟨⟩
    decide
  exact writeNbt_codes h hname

theorem compoundTag_roundTrips {value : Option CompoundTag} (h : CanonicalNbt value) :
    compoundTag.RoundTrips value := by
  have hname : ∀ s, (none : Option String) = some s → FitsNbtString s := by rintro s ⟨⟩
  exact writeNbt_codes h hname

end Endweave
