import Mathlib.Data.Int.Bitwise
import Endweave.Lib.LittleEndian
import Endweave.Lib.Wire

/-!
# `PacketReader`

The reader is a cursor over the payload.  A method that raises leaves the position where it stood
when the exception arose, which is what the error paths of the handlers depend on.
-/

namespace Endweave

open Wire

/-- The exceptions the codecs raise. -/
inductive PyException where
  | indexError
  | keyError
  | structError
  | unicodeDecodeError
  | valueError (message : String)
  | assertionError
  | recursionError
deriving Repr, DecidableEq

/-- A payload with the current read offset into it. -/
abbrev PacketReader := Cursor UInt8

/-- A `struct` format of one integer: `<h`, `<H`, `<i`, `>i` and so on. -/
structure StructFormat where
  size : Nat
  signed : Bool
  bigEndian : Bool
deriving Repr, DecidableEq

namespace StructFormat

def shortLE : StructFormat := ⟨2, true, false⟩
def ushortLE : StructFormat := ⟨2, false, false⟩
def intLE : StructFormat := ⟨4, true, false⟩
def uintLE : StructFormat := ⟨4, false, false⟩
def intBE : StructFormat := ⟨4, true, true⟩
def int64LE : StructFormat := ⟨8, true, false⟩
def uint64LE : StructFormat := ⟨8, false, false⟩

/-- The integer that `size` bytes stand for. -/
def decode (f : StructFormat) (bs : List UInt8) : Int :=
  let n := LittleEndian.decode (if f.bigEndian then bs.reverse else bs)
  if f.signed then LittleEndian.toSigned f.size n else n

/-- The `size` bytes that stand for an integer in range. -/
def encode (f : StructFormat) (v : Int) : List UInt8 :=
  let bs := LittleEndian.encode f.size (LittleEndian.ofSigned f.size v)
  if f.bigEndian then bs.reverse else bs

/-- The integers the format can hold. -/
def InRange (f : StructFormat) (v : Int) : Prop :=
  if f.signed then -(256 ^ f.size : Int) ≤ 2 * v ∧ 2 * v < 256 ^ f.size
  else 0 ≤ v ∧ v < 256 ^ f.size

instance (f : StructFormat) (v : Int) : Decidable (f.InRange v) :=
  inferInstanceAs (Decidable (if f.signed then _ else _))

end StructFormat

namespace PacketReader

def hasRemaining (r : PacketReader) : Bool := r.pos < r.data.length

def remaining (r : PacketReader) : Int := r.data.length - r.pos

/-- `self._data[self._pos]; self._pos += 1`. -/
def next : Parser PyException UInt8 UInt8 := fun r =>
  match r.rest with
  | [] => .error .indexError r
  | b :: _ => .ok b (r.advance 1)

def skip (n : Int) : Parser PyException UInt8 Unit := fun r =>
  if n < 0 ∨ n > remaining r then
    .error (.valueError s!"skip({n}) out of bounds (remaining={remaining r})") r
  else .ok () (r.advance n.toNat)

def readByte : Parser PyException UInt8 Int := do
  let val ← next
  pure val.toNat

def readSignedByte : Parser PyException UInt8 Int := do
  let val ← next
  pure (if val.toNat ≥ 128 then (val.toNat : Int) - 256 else val.toNat)

def readBytes (n : Int) : Parser PyException UInt8 (List UInt8) := fun r =>
  if n < 0 ∨ n > remaining r then
    .error (.valueError s!"read_bytes({n}) out of bounds (remaining={remaining r})") r
  else .ok (r.rest.take n.toNat) (r.advance n.toNat)

def readRemaining : Parser PyException UInt8 (List UInt8) := fun r =>
  .ok r.rest { r with pos := r.data.length }

def readBool : Parser PyException UInt8 Bool := do
  let val ← readByte
  pure (val != 0)

/-- `unpack_from` at the read offset. -/
def unpack (f : StructFormat) : Parser PyException UInt8 Int := fun r =>
  if r.rest.length < f.size then .error .structError r
  else .ok (f.decode (r.rest.take f.size)) (r.advance f.size)

def readShortLE : Parser PyException UInt8 Int := unpack .shortLE
def readUShortLE : Parser PyException UInt8 Int := unpack .ushortLE
def readIntLE : Parser PyException UInt8 Int := unpack .intLE
def readIntBE : Parser PyException UInt8 Int := unpack .intBE
def readUIntLE : Parser PyException UInt8 Int := unpack .uintLE
def readInt64LE : Parser PyException UInt8 Int := unpack .int64LE
def readUInt64LE : Parser PyException UInt8 Int := unpack .uint64LE

/-- A 32-bit float, kept as its bit pattern. -/
def readFloatLE : Parser PyException UInt8 UInt32 := do
  let bits ← unpack .uintLE
  pure (UInt32.ofNat bits.toNat)

/-- A 64-bit float, kept as its bit pattern. -/
def readDoubleLE : Parser PyException UInt8 UInt64 := do
  let bits ← unpack .uint64LE
  pure (UInt64.ofNat bits.toNat)

/-- The loop of `read_uvarint` and `read_uvarint64`: `groups` more bytes may follow before the shift
reaches its limit. -/
def readGroups (tooLong : String) (result shift : Nat) : Nat → Parser PyException UInt8 Nat
  | 0 => throw (.valueError tooLong)
  | groups + 1 => do
    let b ← next
    let result := result ||| ((b.toNat &&& 0x7F) <<< shift)
    if b.toNat &&& 0x80 = 0 then pure result
    else readGroups tooLong result (shift + 7) groups

/-- The body of `read_uvarint` and `read_uvarint64`, whose shifts stop short of `7 * groups`. -/
def readLeb128 (tooLong : String) (groups : Nat) : Parser PyException UInt8 Nat := do
  let b ← next
  if b.toNat < 0x80 then pure b.toNat
  else readGroups tooLong (b.toNat &&& 0x7F) 7 (groups - 1)

def readUVarint : Parser PyException UInt8 Int := do
  let n ← readLeb128 "Varint too long" 5
  pure (n : Int)

def readVarint : Parser PyException UInt8 Int := do
  let raw ← readUVarint
  pure (Int.xor (raw >>> (1 : Nat)) (-Int.land raw 1))

def readUVarint64 : Parser PyException UInt8 Int := do
  let n ← readLeb128 "Varlong too long" 10
  pure (n : Int)

def readVarint64 : Parser PyException UInt8 Int := do
  let raw ← readUVarint64
  pure (Int.xor (raw >>> (1 : Nat)) (-Int.land raw 1))

/-- `_MAX_STRING_BYTES`: 32767 * 4. -/
def maxStringBytes : Nat := 131068

/-- `bytes.decode("utf-8")`. -/
def decodeUtf8 (bs : List UInt8) : Parser PyException UInt8 String :=
  match String.fromUTF8? ⟨bs.toArray⟩ with
  | some s => pure s
  | none => throw .unicodeDecodeError

def readString : Parser PyException UInt8 String := do
  let length ← readUVarint
  if length > maxStringBytes then
    throw (.valueError s!"String length {length} exceeds limit {maxStringBytes}")
  else do
    let bs ← readBytes length
    decodeUtf8 bs

end PacketReader

end Endweave
