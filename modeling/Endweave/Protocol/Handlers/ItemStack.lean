import Endweave.Codec.Types.Inventory
import Endweave.Codec.Wrapper
import Endweave.Protocol.Basic

/-!
# The item stack handlers

v975 has the new item descriptor in `MobEquipment` and `InventorySlot`, v1001 has it in
`InventoryContent` and `MobArmourEquipment` too.
-/

namespace Endweave

open PacketWrapper

/-- `wrapper.map(ITEM_INSTANCE, ITEM_INSTANCE_V975)`. -/
def upgradeItem : PacketHandler := do
  let _ ← map itemInstance itemInstanceV975

/-! ### From v944 to v975 -/

namespace V944ToV975

/-- One direction of `rewrite_mob_equipment`, with the codecs of the item and of the slots. -/
def mapMobEquipment (oldItem newItem : FieldType ItemInstance) (oldSlot newSlot : FieldType Int) :
    PacketHandler := do
  let _ ← passthrough uvarInt64 -- Target Runtime ID
  let _ ← map oldItem newItem -- Item
  let _ ← map oldSlot newSlot -- Slot
  let _ ← map oldSlot newSlot -- Selected Slot
  let _ ← map oldSlot newSlot -- Container ID

def rewriteMobEquipment : Direction → PacketHandler
  | .clientbound => mapMobEquipment itemInstance itemInstanceV975 byte uvarInt
  | .serverbound => mapMobEquipment itemInstanceV975 itemInstance uvarInt byte

/-- `wrapper.read(UINT_LE) if has_dynamic_id else 0`. -/
def readDynamicId (hasDynamicId : Bool) : WrapperM Int :=
  if hasDynamicId then PacketWrapper.read uintLE else pure 0

def writeDynamicId (hasDynamicId : Bool) (dynamicId : Int) : PacketHandler :=
  if hasDynamicId then write uintLE dynamicId else pure ()

/-- The container name behind a flag of its own. -/
def wrapContainerName : PacketHandler := do
  let containerName ← PacketWrapper.read byte
  let hasDynamicId ← PacketWrapper.read bool
  let dynamicId ← readDynamicId hasDynamicId
  write bool true -- outer Optional<FullContainerName> present
  write byte containerName
  write bool hasDynamicId
  writeDynamicId hasDynamicId dynamicId

/-- v944 always sends the storage item; v975 makes it optional. -/
def unwrapStorage : PacketHandler := do
  let storage ← PacketWrapper.read itemInstance
  if storage.networkId = 0 then write bool false
  else do
    write bool true
    write itemInstanceV975 storage

def rewriteInventorySlot : PacketHandler := do
  let _ ← passthrough uvarInt -- Container Id
  let _ ← passthrough uvarInt -- Slot
  wrapContainerName
  unwrapStorage
  upgradeItem -- NewItem

end V944ToV975

/-! ### From v975 to v1001 -/

namespace V975ToV1001

/-- `_ARMOUR_SLOT_COUNT`. -/
def armourSlotCount : Nat := 5

def passthroughContainerName : PacketHandler := do
  let _ ← passthrough byte -- ContainerID
  let hasDynamicId ← passthrough bool -- Optional<uint32 LE> present flag
  passthroughIf hasDynamicId uintLE -- DynamicContainerID

def rewriteInventoryContent : PacketHandler := do
  let _ ← passthrough uvarInt -- WindowID
  passthroughLoop upgradeItem -- Content
  passthroughContainerName
  upgradeItem -- StorageItem

def rewriteMobArmourEquipment : PacketHandler := do
  let _ ← passthrough uvarInt64 -- EntityRuntimeID
  Wire.repeatM upgradeItem armourSlotCount

end V975ToV1001

end Endweave
