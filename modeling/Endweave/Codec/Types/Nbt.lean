import Endweave.Codec.Types.Primitives
import Endweave.Lib.OrderedDict

/-!
# Network NBT

The tag hierarchy and the codec of Bedrock's network NBT: string lengths are uvarints, ints and
longs are zigzag varints, shorts, floats and doubles are little-endian.
-/

namespace Endweave

open Wire PacketReader PacketWriter

def tagEnd : Int := 0
def tagByte : Int := 1
def tagShort : Int := 2
def tagInt : Int := 3
def tagLong : Int := 4
def tagFloat : Int := 5
def tagDouble : Int := 6
def tagByteArray : Int := 7
def tagString : Int := 8
def tagList : Int := 9
def tagCompound : Int := 10
def tagIntArray : Int := 11
def tagLongArray : Int := 12

/-- An NBT tag.  The entries of a compound are a dictionary in insertion order. -/
inductive Tag where
  | byte (value : Int)
  | short (value : Int)
  | int (value : Int)
  | long (value : Int)
  | float (value : UInt32)
  | double (value : UInt64)
  | byteArray (value : List UInt8)
  | string (value : String)
  | list (elementType : Int) (tags : List Tag)
  | compound (value : List (String × Tag))
  | intArray (value : List Int)
  | longArray (value : List Int)

/-- The entries of a root compound. -/
abbrev CompoundTag := OrderedDict String Tag

/-- The numeric tag type id. -/
def Tag.tagId : Tag → Int
  | .byte _ => tagByte
  | .short _ => tagShort
  | .int _ => tagInt
  | .long _ => tagLong
  | .float _ => tagFloat
  | .double _ => tagDouble
  | .byteArray _ => tagByteArray
  | .string _ => tagString
  | .list _ _ => tagList
  | .compound _ => tagCompound
  | .intArray _ => tagIntArray
  | .longArray _ => tagLongArray

/-! ### Reading -/

/-- A uvarint-prefixed string, without the limit of `read_string`. -/
def readNbtString : Parser PyException UInt8 String := do
  let length ← readUVarint
  let data ← readBytes length
  decodeUtf8 data

/-- The loop over the entries of a compound, up to the end tag. -/
def readEntries (child : Int → Parser PyException UInt8 Tag) :
    Nat → CompoundTag → Parser PyException UInt8 CompoundTag
  | 0, _ => throw .indexError
  | rounds + 1, entries => do
    let childType ← readByte
    if childType = tagEnd then pure entries
    else do
      let name ← readNbtString
      let tag ← child childType
      readEntries child rounds (entries.insert name tag)

/-- All entries of a compound.  Every round takes at least one byte off the data, so that one round
more than there are bytes left is never needed. -/
def readCompound (child : Int → Parser PyException UInt8 Tag) :
    Parser PyException UInt8 CompoundTag :=
  fun r => readEntries child (r.rest.length + 1) [] r

/-- `_read_value` at nesting depth `513 - budget`; the depth exceeds 512 when no budget is left. -/
def readValue : Nat → Int → Parser PyException UInt8 Tag
  | 0, _ => throw (.valueError "NBT nesting depth exceeded")
  | budget + 1, tagType =>
    if tagType = tagByte then Tag.byte <$> readByte
    else if tagType = tagShort then Tag.short <$> readShortLE
    else if tagType = tagInt then Tag.int <$> readVarint
    else if tagType = tagLong then Tag.long <$> readVarint64
    else if tagType = tagFloat then Tag.float <$> readFloatLE
    else if tagType = tagDouble then do
      let data ← readBytes 8
      pure (Tag.double (UInt64.ofNat (StructFormat.uint64LE.decode data).toNat))
    else if tagType = tagByteArray then do
      let length ← readVarint
      Tag.byteArray <$> readBytes length
    else if tagType = tagString then Tag.string <$> readNbtString
    else if tagType = tagList then do
      let elemType ← readByte
      let count ← readVarint
      if elemType ≠ tagEnd ∧ count > 0 then
        Tag.list elemType <$> collect (readValue budget elemType) count.toNat
      else pure (Tag.list elemType [])
    else if tagType = tagCompound then Tag.compound <$> readCompound (readValue budget)
    else if tagType = tagIntArray then do
      let count ← readVarint
      Tag.intArray <$> collect readVarint count.toNat
    else if tagType = tagLongArray then do
      let count ← readVarint
      Tag.longArray <$> collect readVarint64 count.toNat
    else throw (.valueError s!"Unknown NBT tag type: {tagType}")

/-- Read and discard the root name, in the named format. -/
def readRootName (readName : Bool) : Parser PyException UInt8 Unit :=
  if readName then discard readNbtString else pure ()

/-- A root compound, or nothing for an end tag. -/
def readNbt (readName : Bool) : Parser PyException UInt8 (Option CompoundTag) := do
  let rootType ← readByte
  if rootType = tagEnd then pure none
  else if rootType ≠ tagCompound then
    throw (.valueError s!"Expected compound root tag (10), got {rootType}")
  else do
    readRootName readName
    some <$> readCompound (readValue 512)

/-! ### Writing -/

def writeNbtString (value : String) : Printer PyException UInt8 Unit := do
  let encoded := encodeUtf8 value
  writeUVarint encoded.length
  writeBytes encoded

mutual

/-- `_write_value`: a tag without its header. -/
def writeValue : Tag → Printer PyException UInt8 Unit
  | .byte value => writeByte value
  | .short value => writeShortLE value
  | .int value => writeVarint value
  | .long value => writeVarint64 value
  | .float value => writeFloatLE value
  | .double value => writeBytes (StructFormat.uint64LE.encode value.toNat)
  | .byteArray value => do
    writeVarint value.length
    writeBytes value
  | .string value => writeNbtString value
  | .list elementType tags => do
    writeByte elementType
    writeVarint tags.length
    writeTags tags
  | .compound value => do
    writeEntries value
    writeByte tagEnd
  | .intArray value => do
    writeVarint value.length
    each writeVarint value
  | .longArray value => do
    writeVarint value.length
    each writeVarint64 value

/-- The loop over the elements of a list. -/
def writeTags : List Tag → Printer PyException UInt8 Unit
  | [] => pure ()
  | tag :: tags => do
    writeValue tag
    writeTags tags

/-- The loop over the entries of a compound. -/
def writeEntries : List (String × Tag) → Printer PyException UInt8 Unit
  | [] => pure ()
  | (name, child) :: entries => do
    writeByte child.tagId
    writeNbtString name
    writeValue child
    writeEntries entries

end

/-- The root name, unless the format has none. -/
def writeRootName : Option String → Printer PyException UInt8 Unit
  | some name => writeNbtString name
  | none => pure ()

/-- A root compound, or a single end tag. -/
def writeNbt (tag : Option CompoundTag) (name : Option String) : Printer PyException UInt8 Unit :=
  match tag with
  | none => writeByte tagEnd
  | some tag => do
    writeByte tagCompound
    writeRootName name
    writeValue (.compound tag)

/-- A compound with a root name in front (Bedrock network format). -/
def namedCompoundTag : FieldType (Option CompoundTag) where
  read := readNbt true
  write value := writeNbt value (some "")

/-- A compound without a root name. -/
def compoundTag : FieldType (Option CompoundTag) where
  read := readNbt false
  write value := writeNbt value none

end Endweave
