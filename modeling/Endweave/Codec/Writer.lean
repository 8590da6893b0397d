import Endweave.Codec.Reader

/-!
# `PacketWriter`

The writer is the buffer itself.  Integers that do not fit a `struct` format raise; the
variable-length writers wrap instead.
-/

namespace Endweave

open Wire

/-- The byte buffer that accumulates written data. -/
abbrev PacketWriter := List UInt8

namespace PacketWriter

/-- Write raw bytes. -/
def writeBytes (data : List UInt8) : Printer PyException UInt8 Unit := fun buf =>
  .ok () (buf ++ data)

/-- `self._buf.append(n)` for an `n` below 256. -/
def append (n : Nat) : Printer PyException UInt8 Unit := writeBytes [UInt8.ofNat n]

def writeByte (val : Int) : Printer PyException UInt8 Unit := append (Int.land val 0xFF).toNat

def writeSignedByte (val : Int) : Printer PyException UInt8 Unit := append (Int.land val 0xFF).toNat

def writeBool (val : Bool) : Printer PyException UInt8 Unit := append (if val then 1 else 0)

/-- `pack` of one integer: `struct.error` when it does not fit. -/
def pack (f : StructFormat) (val : Int) : Printer PyException UInt8 Unit :=
  if f.InRange val then writeBytes (f.encode val) else throw .structError

def writeShortLE (val : Int) : Printer PyException UInt8 Unit := pack .shortLE val
def writeUShortLE (val : Int) : Printer PyException UInt8 Unit := pack .ushortLE val
def writeIntLE (val : Int) : Printer PyException UInt8 Unit := pack .intLE val
def writeIntBE (val : Int) : Printer PyException UInt8 Unit := pack .intBE val
def writeUIntLE (val : Int) : Printer PyException UInt8 Unit := pack .uintLE val
def writeInt64LE (val : Int) : Printer PyException UInt8 Unit := pack .int64LE val
def writeUInt64LE (val : Int) : Printer PyException UInt8 Unit := pack .uint64LE val

/-- A 32-bit float, given by its bit pattern. -/
def writeFloatLE (bits : UInt32) : Printer PyException UInt8 Unit := pack .uintLE bits.toNat

/-- A 64-bit float, given by its bit pattern. -/
def writeDoubleLE (bits : UInt64) : Printer PyException UInt8 Unit := pack .uint64LE bits.toNat

/-- The loop of `write_uvarint` and `write_uvarint64`.  A masked value has at most `groups` groups
of seven bits, so the loop always ends in a byte without the continuation bit. -/
def writeGroups : Nat → Nat → Printer PyException UInt8 Unit
  | 0, _ => pure ()
  | groups + 1, val =>
    let byte := val &&& 0x7F
    let val := val >>> 7
    if val ≠ 0 then do
      append (byte ||| 0x80)
      writeGroups groups val
    else append byte

/-- The body of `write_uvarint` and `write_uvarint64`. -/
def writeLeb128 (bits groups : Nat) (val : Int) : Printer PyException UInt8 Unit :=
  let val := (Int.land val (2 ^ bits - 1)).toNat
  if val < 0x80 then append val else writeGroups groups val

/-- What `write_varint` and `write_varint64` hand on: wrapped to `bits` bits, signed, zigzag. -/
def foldSign (bits : Nat) (val : Int) : Int :=
  let val := Int.land val (2 ^ bits - 1)
  let val := if Int.land val (2 ^ (bits - 1)) ≠ 0 then val - 2 ^ bits else val
  Int.xor (val <<< (1 : Nat)) (val >>> (bits - 1))

def writeUVarint (val : Int) : Printer PyException UInt8 Unit := writeLeb128 32 5 val

def writeVarint (val : Int) : Printer PyException UInt8 Unit := writeUVarint (foldSign 32 val)

def writeUVarint64 (val : Int) : Printer PyException UInt8 Unit := writeLeb128 64 10 val

def writeVarint64 (val : Int) : Printer PyException UInt8 Unit := writeUVarint64 (foldSign 64 val)

/-- `str.encode("utf-8")`. -/
def encodeUtf8 (s : String) : List UInt8 := s.toUTF8.data.toList

def writeString (val : String) : Printer PyException UInt8 Unit := do
  let encoded := encodeUtf8 val
  writeUVarint encoded.length
  writeBytes encoded

end PacketWriter

end Endweave
