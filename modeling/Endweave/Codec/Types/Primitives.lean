import Endweave.Codec.Writer

/-!
# Primitive packet field types

A `FieldType` knows how to read a value from a `PacketReader` and how to write it to a
`PacketWriter`.
-/

namespace Endweave

open Wire

/-- The source's `Type`: a serializable packet field type. -/
structure FieldType (α : Type) where
  read : Parser PyException UInt8 α
  write : α → Printer PyException UInt8 Unit

/-- The bytes a field type writes for a value. -/
def FieldType.bytes {α : Type} (T : FieldType α) (value : α) : List UInt8 := written (T.write value)

open PacketReader PacketWriter

def byte : FieldType Int := ⟨readByte, writeByte⟩
def int8 : FieldType Int := ⟨readSignedByte, writeSignedByte⟩
def bool : FieldType Bool := ⟨readBool, writeBool⟩
def shortLE : FieldType Int := ⟨readShortLE, writeShortLE⟩
def ushortLE : FieldType Int := ⟨readUShortLE, writeUShortLE⟩
def intLE : FieldType Int := ⟨readIntLE, writeIntLE⟩
def intBE : FieldType Int := ⟨readIntBE, writeIntBE⟩
def uintLE : FieldType Int := ⟨readUIntLE, writeUIntLE⟩
def int64LE : FieldType Int := ⟨readInt64LE, writeInt64LE⟩
def uint64LE : FieldType Int := ⟨readUInt64LE, writeUInt64LE⟩
def floatLE : FieldType UInt32 := ⟨readFloatLE, writeFloatLE⟩
def doubleLE : FieldType UInt64 := ⟨readDoubleLE, writeDoubleLE⟩
def varInt : FieldType Int := ⟨readVarint, writeVarint⟩
def uvarInt : FieldType Int := ⟨readUVarint, writeUVarint⟩
def varInt64 : FieldType Int := ⟨readVarint64, writeVarint64⟩
def uvarInt64 : FieldType Int := ⟨readUVarint64, writeUVarint64⟩
def string : FieldType String := ⟨readString, writeString⟩
def remainingBytes : FieldType (List UInt8) := ⟨readRemaining, writeBytes⟩

/-- `_Bytes`: raw bytes, of a fixed length when read. -/
def bytes (length : Int) : FieldType (List UInt8) := ⟨readBytes length, writeBytes⟩

/-- `_NetworkBlockPos` (v924): varint X, uvarint Y, varint Z. -/
def networkBlockPos : FieldType (Int × Int × Int) where
  read := do
    let x ← readVarint
    let y ← readUVarint
    let y := if y ≥ 0x80000000 then y - 0x100000000 else y
    let z ← readVarint
    pure (x, y, z)
  write value := do
    writeVarint value.1
    writeUVarint value.2.1
    writeVarint value.2.2

/-- `_BlockPos` (v944): three varints. -/
def blockPos : FieldType (Int × Int × Int) where
  read := do
    let x ← readVarint
    let y ← readVarint
    let z ← readVarint
    pure (x, y, z)
  write value := do
    writeVarint value.1
    writeVarint value.2.1
    writeVarint value.2.2

def vec3 : FieldType (UInt32 × UInt32 × UInt32) where
  read := do
    let x ← readFloatLE
    let y ← readFloatLE
    let z ← readFloatLE
    pure (x, y, z)
  write value := do
    writeFloatLE value.1
    writeFloatLE value.2.1
    writeFloatLE value.2.2

def vec2 : FieldType (UInt32 × UInt32) where
  read := do
    let x ← readFloatLE
    let y ← readFloatLE
    pure (x, y)
  write value := do
    writeFloatLE value.1
    writeFloatLE value.2

/-- `mce::UUID`: two unsigned 64-bit halves. -/
structure MceUUID where
  msb : Int := 0
  lsb : Int := 0
deriving Repr, DecidableEq

def uuid : FieldType MceUUID where
  read := do
    let msb ← readUInt64LE
    let lsb ← readUInt64LE
    pure { msb, lsb }
  write value := do
    writeUInt64LE value.msb
    writeUInt64LE value.lsb

/-- `ArrayType`: a uvarint count, then that many elements. -/
def arrayType {α : Type} (inner : FieldType α) : FieldType (List α) where
  read := do
    let count ← readUVarint
    collect inner.read count.toNat
  write value := do
    writeUVarint value.length
    each inner.write value

/-- `OptionalType`: a bool, then the value if it is true. -/
def optionalType {α : Type} (inner : FieldType α) : FieldType (Option α) where
  read := do
    let present ← readBool
    if present then do
      let value ← inner.read
      pure (some value)
    else pure none
  write
    | some value => do
      writeBool true
      inner.write value
    | none => writeBool false

/-- A field that is there under a condition, and has a fixed value otherwise. -/
def fieldIf {α : Type} (condition : Bool) (T : FieldType α) (absent : α) : FieldType α where
  read := if condition then T.read else pure absent
  write value := if condition then T.write value else pure ()

/-- Two fields, one after the other. -/
def pairType {α β : Type} (A : FieldType α) (B : FieldType β) : FieldType (α × β) where
  read := do
    let a ← A.read
    let b ← B.read
    pure (a, b)
  write value := do
    A.write value.1
    B.write value.2

end Endweave
