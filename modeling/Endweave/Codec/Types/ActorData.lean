import Endweave.Codec.Types.Enums
import Endweave.Codec.Types.Nbt

/-!
# Actor data

Entity metadata: a list of keys with typed values.
-/

namespace Endweave

open Wire

/-- A metadata value; its constructor is the type id. -/
inductive ActorDataValue where
  | byte (value : Int)
  | short (value : Int)
  | int (value : Int)
  | float (value : UInt32)
  | string (value : String)
  | compoundTag (value : Option CompoundTag)
  | pos (value : Int × Int × Int)
  | int64 (value : Int)
  | vec3 (value : UInt32 × UInt32 × UInt32)

def ActorDataValue.typeId : ActorDataValue → Int
  | byte _ => DataItemType.byte.value
  | short _ => DataItemType.short.value
  | int _ => DataItemType.int.value
  | float _ => DataItemType.float.value
  | string _ => DataItemType.string.value
  | compoundTag _ => DataItemType.compoundTag.value
  | pos _ => DataItemType.pos.value
  | int64 _ => DataItemType.int64.value
  | vec3 _ => DataItemType.vec3.value

structure ActorDataItem where
  key : Int
  value : ActorDataValue

/-- `_VALUE_TYPES[type_id].read`. -/
def readActorDataValue (typeId : Int) : Parser PyException UInt8 ActorDataValue :=
  if typeId = DataItemType.byte.value then ActorDataValue.byte <$> byte.read
  else if typeId = DataItemType.short.value then ActorDataValue.short <$> shortLE.read
  else if typeId = DataItemType.int.value then ActorDataValue.int <$> varInt.read
  else if typeId = DataItemType.float.value then ActorDataValue.float <$> floatLE.read
  else if typeId = DataItemType.string.value then ActorDataValue.string <$> string.read
  else if typeId = DataItemType.compoundTag.value then
    ActorDataValue.compoundTag <$> namedCompoundTag.read
  else if typeId = DataItemType.pos.value then ActorDataValue.pos <$> blockPos.read
  else if typeId = DataItemType.int64.value then ActorDataValue.int64 <$> varInt64.read
  else if typeId = DataItemType.vec3.value then ActorDataValue.vec3 <$> vec3.read
  else throw .keyError

/-- `_VALUE_TYPES[type_id].write`. -/
def writeActorDataValue : ActorDataValue → Printer PyException UInt8 Unit
  | .byte value => byte.write value
  | .short value => shortLE.write value
  | .int value => varInt.write value
  | .float value => floatLE.write value
  | .string value => string.write value
  | .compoundTag value => namedCompoundTag.write value
  | .pos value => blockPos.write value
  | .int64 value => varInt64.write value
  | .vec3 value => vec3.write value

def actorDataItem : FieldType ActorDataItem where
  read := do
    let key ← uvarInt.read
    let typeId ← uvarInt.read
    let value ← readActorDataValue typeId
    pure { key, value }
  write item := do
    uvarInt.write item.key
    uvarInt.write item.value.typeId
    writeActorDataValue item.value

def actorDataList : FieldType (List ActorDataItem) := arrayType actorDataItem

end Endweave
