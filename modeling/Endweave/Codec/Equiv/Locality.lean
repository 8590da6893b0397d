import Endweave.Codec.Equiv.DataStore
import Endweave.Codec.Types.Nbt
import Endweave.Lib.Locality

/-!
# Locality of the codecs

A field type is `Framed` when its reader is local and its writer appends.  This is proved here for
the primitive types, for arrays and optionals of framed types, and for the two codecs that recurse:
NBT (`readEntries_takes`, `readValue_local`) and the data store values.  A codec that reads and
writes one field after the other is framed by its shape.
-/

namespace Endweave

open Wire PacketReader PacketWriter

/-- Reading is local and writing appends. -/
class FieldType.Framed {α : Type} (T : FieldType α) : Prop where
  read : Local T.read
  write : ∀ value, Appends (T.write value)

attribute [instance] FieldType.Framed.read FieldType.Framed.write

instance {α : Type} {read : Parser PyException UInt8 α}
    {write : α → Printer PyException UInt8 Unit} [Local read] [∀ value, Appends (write value)] :
    FieldType.Framed ⟨read, write⟩ :=
  ⟨inferInstance, inferInstance⟩

/-! ### Readers -/

instance : Local next := by
  constructor
  apply next_takes.mono
  rintro bs b ⟨rfl, _⟩
  exact next_reads b

instance (n : Int) : Local (PacketReader.skip n) := by
  constructor
  intro r hr
  unfold PacketReader.skip
  split_ifs with h
  · exact ⟨rfl, Nat.le_refl _, hr⟩
  · rw [not_or, remaining] at h
    have hlen : (r.rest.take n.toNat).length = n.toNat := by
      rw [List.length_take, Cursor.length_rest]
      omega
    refine ⟨r.rest.take n.toNat, r.rest.drop n.toNat, (List.take_append_drop ..).symm,
      by rw [hlen], ?_⟩
    intro c suf hc hrest
    have hroom : n.toNat ≤ c.data.length - c.pos := by
      rw [← Cursor.length_rest, hrest, List.length_append, hlen]
      omega
    show (if n < 0 ∨ n > remaining c then _ else _) = _
    unfold Cursor.Within at hc
    rw [hlen, if_neg]
    rw [not_or, remaining]
    omega

instance (n : Int) : Local (readBytes n) := by
  constructor
  apply (readBytes_takes n).mono
  rintro bs a ⟨rfl, rfl⟩
  exact readBytes_reads bs

instance (f : StructFormat) : Local (unpack f) := by
  constructor
  intro r hr
  unfold unpack
  split_ifs with h
  · exact ⟨rfl, Nat.le_refl _, hr⟩
  · have hlen : (r.rest.take f.size).length = f.size := by
      rw [List.length_take]
      omega
    refine ⟨r.rest.take f.size, r.rest.drop f.size, (List.take_append_drop ..).symm,
      by rw [hlen], ?_⟩
    intro c suf hc hrest
    show (if c.rest.length < f.size then _ else _) = _
    rw [hrest, List.take_left' hlen, hlen, if_neg]
    rw [List.length_append]
    omega

instance : Local readByte := by unfold readByte; infer_instance

instance : Local readSignedByte := by unfold readSignedByte; infer_instance

instance : Local readBool := by unfold readBool; infer_instance

instance : Local readShortLE := by unfold readShortLE; infer_instance

instance : Local readUShortLE := by unfold readUShortLE; infer_instance

instance : Local readIntLE := by unfold readIntLE; infer_instance

instance : Local readIntBE := by unfold readIntBE; infer_instance

instance : Local readUIntLE := by unfold readUIntLE; infer_instance

instance : Local readInt64LE := by unfold readInt64LE; infer_instance

instance : Local readUInt64LE := by unfold readUInt64LE; infer_instance

instance : Local readFloatLE := by unfold readFloatLE; infer_instance

instance : Local readDoubleLE := by unfold readDoubleLE; infer_instance

instance (tooLong : String) (result shift groups : Nat) :
    Local (readGroups tooLong result shift groups) := by
  induction groups generalizing result shift with
  | zero => exact inferInstanceAs (Local (throw _))
  | succ groups ih =>
    unfold readGroups
    infer_instance

instance (tooLong : String) (groups : Nat) : Local (readLeb128 tooLong groups) := by
  unfold readLeb128
  infer_instance

instance : Local readUVarint := by unfold readUVarint; infer_instance

instance : Local readVarint := by unfold readVarint; infer_instance

instance : Local readUVarint64 := by unfold readUVarint64; infer_instance

instance : Local readVarint64 := by unfold readVarint64; infer_instance

instance (bs : List UInt8) : Local (decodeUtf8 bs) := by
  unfold decodeUtf8
  split
  · infer_instance
  · infer_instance

instance : Local readString := by unfold readString; infer_instance

/-! ### Writers -/

instance (data : List UInt8) : Appends (writeBytes data) := (writeBytes_writes data).appends

instance (n : Nat) : Appends (append n) := by unfold append; infer_instance

instance (val : Int) : Appends (writeByte val) := by unfold writeByte; infer_instance

instance (val : Int) : Appends (writeSignedByte val) := by unfold writeSignedByte; infer_instance

instance (val : Bool) : Appends (writeBool val) := by unfold writeBool; infer_instance

instance (f : StructFormat) (val : Int) : Appends (pack f val) := by unfold pack; infer_instance

instance (val : Int) : Appends (writeShortLE val) := by unfold writeShortLE; infer_instance

instance (val : Int) : Appends (writeUShortLE val) := by unfold writeUShortLE; infer_instance

instance (val : Int) : Appends (writeIntLE val) := by unfold writeIntLE; infer_instance

instance (val : Int) : Appends (writeIntBE val) := by unfold writeIntBE; infer_instance

instance (val : Int) : Appends (writeUIntLE val) := by unfold writeUIntLE; infer_instance

instance (val : Int) : Appends (writeInt64LE val) := by unfold writeInt64LE; infer_instance

instance (val : Int) : Appends (writeUInt64LE val) := by unfold writeUInt64LE; infer_instance

instance (bits : UInt32) : Appends (writeFloatLE bits) := by unfold writeFloatLE; infer_instance

instance (bits : UInt64) : Appends (writeDoubleLE bits) := by unfold writeDoubleLE; infer_instance

instance (groups val : Nat) : Appends (writeGroups groups val) := by
  induction groups generalizing val with
  | zero => exact inferInstanceAs (Appends (pure ()))
  | succ groups ih =>
    unfold writeGroups
    infer_instance

instance (bits groups : Nat) (val : Int) : Appends (writeLeb128 bits groups val) := by
  unfold writeLeb128
  infer_instance

instance (val : Int) : Appends (writeUVarint val) := by unfold writeUVarint; infer_instance

instance (val : Int) : Appends (writeVarint val) := by unfold writeVarint; infer_instance

instance (val : Int) : Appends (writeUVarint64 val) := by unfold writeUVarint64; infer_instance

instance (val : Int) : Appends (writeVarint64 val) := by unfold writeVarint64; infer_instance

instance (val : String) : Appends (writeString val) := by unfold writeString; infer_instance

/-! ### Primitive types -/

instance : byte.Framed := by unfold byte; infer_instance

instance : int8.Framed := by unfold int8; infer_instance

instance : bool.Framed := by unfold bool; infer_instance

instance : shortLE.Framed := by unfold shortLE; infer_instance

instance : ushortLE.Framed := by unfold ushortLE; infer_instance

instance : intLE.Framed := by unfold intLE; infer_instance

instance : intBE.Framed := by unfold intBE; infer_instance

instance : uintLE.Framed := by unfold uintLE; infer_instance

instance : int64LE.Framed := by unfold int64LE; infer_instance

instance : uint64LE.Framed := by unfold uint64LE; infer_instance

instance : floatLE.Framed := by unfold floatLE; infer_instance

instance : doubleLE.Framed := by unfold doubleLE; infer_instance

instance : varInt.Framed := by unfold varInt; infer_instance

instance : uvarInt.Framed := by unfold uvarInt; infer_instance

instance : varInt64.Framed := by unfold varInt64; infer_instance

instance : uvarInt64.Framed := by unfold uvarInt64; infer_instance

instance : string.Framed := by unfold string; infer_instance

instance (length : Int) : (bytes length).Framed := by unfold bytes; infer_instance

instance : networkBlockPos.Framed := by unfold networkBlockPos; infer_instance

instance : blockPos.Framed := by unfold blockPos; infer_instance

instance : vec3.Framed := by unfold vec3; infer_instance

instance : vec2.Framed := by unfold vec2; infer_instance

instance : uuid.Framed := by unfold uuid; infer_instance

/-! ### Combinators -/

section Combinators

variable {α β : Type} (T : FieldType α) (U : FieldType β) [T.Framed] [U.Framed]

instance : (arrayType T).Framed := by unfold arrayType; infer_instance

instance : (optionalType T).Framed where
  read := by
    unfold optionalType
    infer_instance
  write value := by
    cases value with
    | none => exact inferInstanceAs (Appends (writeBool false))
    | some value => exact inferInstanceAs (Appends (writeBool true >>= fun _ => T.write value))

instance (condition : Bool) (absent : α) : (fieldIf condition T absent).Framed := by
  unfold fieldIf
  infer_instance

instance : (pairType T U).Framed := by unfold pairType; infer_instance

end Combinators

/-! ### NBT -/

instance : Local readNbtString := by unfold readNbtString; infer_instance

theorem readByte_takes_ne_nil :
    Takes readByte fun bs childType => bs ≠ [] ∧ Reads readByte bs childType := by
  unfold readByte
  apply next_takes.bind
  rintro bs b ⟨rfl, _⟩
  exact Takes.pure ⟨List.cons_ne_nil _ _, (next_reads b).bind (Reads.pure _)⟩

/-- As many rounds as bytes were consumed are enough. -/
theorem readEntries_takes (child : Int → Parser PyException UInt8 Tag)
    [∀ tagType, Local (child tagType)] (rounds : Nat) (entries : CompoundTag) :
    Takes (readEntries child rounds entries) fun bs value =>
      ∀ rounds', bs.length ≤ rounds' → Reads (readEntries child rounds' entries) bs value := by
  induction rounds generalizing entries with
  | zero => exact Takes.throw _
  | succ rounds ih =>
    rw [readEntries]
    apply readByte_takes_ne_nil.bind
    rintro bs childType ⟨hne, hbs⟩
    have hpos := List.length_pos_iff.mpr hne
    split_ifs with hend
    · apply Takes.pure
      intro rounds' hlen
      rw [List.append_nil] at hlen
      obtain ⟨n, rfl⟩ : ∃ n, rounds' = n + 1 := ⟨rounds' - 1, by omega⟩
      rw [readEntries]
      apply hbs.bind
      rw [if_pos hend]
      exact Reads.pure entries
    · apply Local.takes.bind
      intro bs₁ name hname
      apply Local.takes.bind
      intro bs₂ tag htag
      apply (ih (entries.insert name tag)).mono
      intro bs₃ value hvalue rounds' hlen
      simp only [List.length_append] at hlen
      obtain ⟨n, rfl⟩ : ∃ n, rounds' = n + 1 := ⟨rounds' - 1, by omega⟩
      rw [readEntries]
      apply hbs.bind
      rw [if_neg hend]
      apply hname.bind
      apply htag.bind
      exact hvalue n (by omega)

instance (child : Int → Parser PyException UInt8 Tag) [∀ tagType, Local (child tagType)] :
    Local (readCompound child) := by
  constructor
  intro c hc
  apply (readEntries_takes child (c.rest.length + 1) []).mono _ c hc
  intro bs value h c' suf hc' hrest
  have hlen : bs.length ≤ c'.rest.length + 1 := by
    rw [hrest, List.length_append]
    omega
  exact h _ hlen c' suf hc' hrest

instance readValue_local (budget : Nat) (tagType : Int) : Local (readValue budget tagType) := by
  induction budget generalizing tagType with
  | zero => exact inferInstanceAs (Local (throw _))
  | succ budget ih =>
    unfold readValue
    infer_instance

instance (readName : Bool) : Local (readRootName readName) := by unfold readRootName; infer_instance

instance (readName : Bool) : Local (readNbt readName) := by unfold readNbt; infer_instance

instance (value : String) : Appends (writeNbtString value) := by
  unfold writeNbtString
  infer_instance

mutual

theorem writeValue_appends : ∀ tag : Tag, Appends (writeValue tag)
  | .byte value => by unfold writeValue; infer_instance
  | .short value => by unfold writeValue; infer_instance
  | .int value => by unfold writeValue; infer_instance
  | .long value => by unfold writeValue; infer_instance
  | .float value => by unfold writeValue; infer_instance
  | .double value => by unfold writeValue; infer_instance
  | .byteArray value => by unfold writeValue; infer_instance
  | .string value => by unfold writeValue; infer_instance
  | .list elementType tags => by
    have := writeTags_appends tags
    unfold writeValue
    infer_instance
  | .compound value => by
    have := writeEntries_appends value
    unfold writeValue
    infer_instance
  | .intArray value => by unfold writeValue; infer_instance
  | .longArray value => by unfold writeValue; infer_instance

theorem writeTags_appends : ∀ tags : List Tag, Appends (writeTags tags)
  | [] => by unfold writeTags; infer_instance
  | tag :: tags => by
    have := writeValue_appends tag
    have := writeTags_appends tags
    unfold writeTags
    infer_instance

theorem writeEntries_appends : ∀ entries : List (String × Tag), Appends (writeEntries entries)
  | [] => by unfold writeEntries; infer_instance
  | (name, child) :: entries => by
    have := writeValue_appends child
    have := writeEntries_appends entries
    unfold writeEntries
    infer_instance

end

instance (tag : Tag) : Appends (writeValue tag) := writeValue_appends tag

instance (name : Option String) : Appends (writeRootName name) := by
  cases name with
  | none => exact inferInstanceAs (Appends (pure ()))
  | some name => exact inferInstanceAs (Appends (writeNbtString name))

instance (tag : Option CompoundTag) (name : Option String) : Appends (writeNbt tag name) := by
  cases tag with
  | none => exact inferInstanceAs (Appends (writeByte tagEnd))
  | some tag =>
    unfold writeNbt
    infer_instance

instance : namedCompoundTag.Framed := by unfold namedCompoundTag; infer_instance

instance : compoundTag.Framed := by unfold compoundTag; infer_instance

/-! ### Data store values -/

theorem readChangeValue_local (m : Parser PyException UInt8 ChangeValue) (hm : Local m) :
    Local (readChangeValue m) := by
  unfold readChangeValue readChangeEntry
  infer_instance

theorem writeChangeValue_appends (calls : ℕ) (value : ChangeValue) :
    Appends (writeChangeValue calls value) := by
  induction calls generalizing value with
  | zero => exact inferInstanceAs (Appends (throw _))
  | succ calls ih =>
    have hentry (entry : String × ChangeValue) :
        Appends (writeChangeEntry (writeChangeValue calls) entry) := by
      unfold writeChangeEntry
      infer_instance
    cases value <;> unfold writeChangeValue <;> infer_instance

instance (calls : ℕ) : (changeValue calls).Framed where
  read := local_nested PyException.recursionError readChangeValue_local calls
  write := writeChangeValue_appends calls

end Endweave
