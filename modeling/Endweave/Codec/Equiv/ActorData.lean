import Endweave.Codec.Equiv.Nbt
import Endweave.Codec.Types.ActorData

/-!
# Correctness of the actor data codec

`actorDataList_roundTrips`: a list of metadata over the nine value types is read back as it was
written.
-/

namespace Endweave

open Wire

def ActorDataValue.Canonical : ActorDataValue → Prop
  | byte value => InByte value
  | short value => InInt16 value
  | int value => InInt32 value
  | float _ => True
  | string value => FitsString value
  | compoundTag value => CanonicalNbt value
  | pos value => InInt32 value.1 ∧ InInt32 value.2.1 ∧ InInt32 value.2.2
  | int64 value => InInt64 value
  | vec3 _ => True

structure ActorDataItem.Canonical (item : ActorDataItem) : Prop where
  key : InUInt32 item.key
  value : item.value.Canonical

theorem ActorDataValue.inUInt32_typeId (value : ActorDataValue) : InUInt32 value.typeId := by
  cases value <;> simp [ActorDataValue.typeId, DataItemType.value, InUInt32]

/-- The type id chooses the reader of the value that was written. -/
theorem actorDataValue_codes {value : ActorDataValue} (h : value.Canonical) :
    Codes (writeActorDataValue value) (readActorDataValue value.typeId) value := by
  cases value with
  | byte value => exact (byte_roundTrips h).map ActorDataValue.byte
  | short value => exact (shortLE_roundTrips h).map ActorDataValue.short
  | int value => exact (varInt_roundTrips h).map ActorDataValue.int
  | float value => exact (floatLE_roundTrips value).map ActorDataValue.float
  | string value => exact (string_roundTrips h).map ActorDataValue.string
  | compoundTag value => exact (namedCompoundTag_roundTrips h).map ActorDataValue.compoundTag
  | pos value => exact (blockPos_roundTrips h.1 h.2.1 h.2.2).map ActorDataValue.pos
  | int64 value => exact (varInt64_roundTrips h).map ActorDataValue.int64
  | vec3 value => exact (vec3_roundTrips value).map ActorDataValue.vec3

theorem actorDataItem_roundTrips {item : ActorDataItem} (h : item.Canonical) :
    actorDataItem.RoundTrips item := by
  apply Codes.bind (uvarInt_roundTrips h.key)
  apply Codes.bind (uvarInt_roundTrips item.value.inUInt32_typeId)
  exact Codes.last (actorDataValue_codes h.value) rfl

theorem actorDataList_roundTrips {items : List ActorDataItem} (hlen : items.length < 2 ^ 32)
    (h : ∀ item ∈ items, item.Canonical) : actorDataList.RoundTrips items :=
  arrayType_roundTrips hlen fun item hitem => actorDataItem_roundTrips (h item hitem)

end Endweave
