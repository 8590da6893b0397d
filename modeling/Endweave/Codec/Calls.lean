import Endweave.Codec.Types.CodecType
import Endweave.Codec.Wrapper

/-!
# Sequences of calls

The methods of `PacketReader` and `PacketWrapper` as data.  What a handler does to them in one run
is a list of calls, whatever it made of the values in between.
-/

namespace Endweave

open Wire

/-! ### Reader -/

/-- A read or a skip of a `PacketReader`. -/
inductive ReaderCall where
  | skip (n : Int)
  | readByte
  | readSignedByte
  | readBytes (n : Int)
  | readRemaining
  | readBool
  | readShortLE
  | readUShortLE
  | readIntLE
  | readIntBE
  | readUIntLE
  | readInt64LE
  | readUInt64LE
  | readFloatLE
  | readDoubleLE
  | readUVarint
  | readVarint
  | readUVarint64
  | readVarint64
  | readString
deriving Repr, DecidableEq

namespace ReaderCall

/-- The method, without its value. -/
def perform : ReaderCall → Parser PyException UInt8 Unit
  | skip n => PacketReader.skip n
  | readByte => discard PacketReader.readByte
  | readSignedByte => discard PacketReader.readSignedByte
  | readBytes n => discard (PacketReader.readBytes n)
  | readRemaining => discard PacketReader.readRemaining
  | readBool => discard PacketReader.readBool
  | readShortLE => discard PacketReader.readShortLE
  | readUShortLE => discard PacketReader.readUShortLE
  | readIntLE => discard PacketReader.readIntLE
  | readIntBE => discard PacketReader.readIntBE
  | readUIntLE => discard PacketReader.readUIntLE
  | readInt64LE => discard PacketReader.readInt64LE
  | readUInt64LE => discard PacketReader.readUInt64LE
  | readFloatLE => discard PacketReader.readFloatLE
  | readDoubleLE => discard PacketReader.readDoubleLE
  | readUVarint => discard PacketReader.readUVarint
  | readVarint => discard PacketReader.readVarint
  | readUVarint64 => discard PacketReader.readUVarint64
  | readVarint64 => discard PacketReader.readVarint64
  | readString => discard PacketReader.readString

/-- The reader behind a call, which may have raised. -/
def after (r : PacketReader) (call : ReaderCall) : PacketReader := final (call.perform r)

/-- The reader behind a sequence of calls, each made whether or not the one before it raised. -/
def afterAll (r : PacketReader) (calls : List ReaderCall) : PacketReader := calls.foldl after r

end ReaderCall

/-! ### Wrapper -/

/-- The types a wrapper is called with. -/
inductive WrapperType : {α : Type} → FieldType α → Prop where
  | codec {α : Type} {T : FieldType α} (h : CodecType T) : WrapperType T
  | remainingBytes : WrapperType remainingBytes

/-- A read, write, passthrough or map of a `PacketWrapper`. -/
inductive WrapperCall : Type 1 where
  | read {α : Type} (fieldType : FieldType α) (h : WrapperType fieldType)
  | write {α : Type} (fieldType : FieldType α) (h : WrapperType fieldType) (value : α)
  | passthrough {α : Type} (fieldType : FieldType α) (h : WrapperType fieldType)
  | map {α : Type} (oldType newType : FieldType α) (hold : WrapperType oldType)
    (hnew : WrapperType newType)

namespace WrapperCall

/-- The method.  The result is the bytes of the value that it wrote. -/
def perform : WrapperCall → WrapperM (List UInt8)
  | read fieldType _ => do
    let _ ← PacketWrapper.read fieldType
    pure []
  | write fieldType _ value => do
    PacketWrapper.write fieldType value
    pure (fieldType.bytes value)
  | passthrough fieldType _ => do
    let value ← PacketWrapper.passthrough fieldType
    pure (fieldType.bytes value)
  | map oldType newType _ _ => do
    let value ← PacketWrapper.map oldType newType
    pure (newType.bytes value)

/-- The bytes written by a sequence of calls, in order. -/
def performAll : List WrapperCall → WrapperM (List UInt8)
  | [] => pure []
  | call :: calls => do
    let bs ← call.perform
    let bs' ← performAll calls
    pure (bs ++ bs')

end WrapperCall

end Endweave
