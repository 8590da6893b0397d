import Endweave.Codec.Equiv.Inventory
import Endweave.Protocol.Handlers.ItemStack

/-!
# The packets with item stacks

Each grammar has the codec of its items as a parameter: the old descriptor or the one of v975.
`InventorySlot` has two grammars, since v975 has made the container name and the storage item
optional.
-/

namespace Endweave

structure MobEquipment where
  targetRuntimeId : Int
  item : ItemInstance
  slot : Int
  selectedSlot : Int
  containerId : Int
deriving Repr, DecidableEq

structure FullContainerName where
  containerId : Int
  dynamicId : Option Int
deriving Repr, DecidableEq

structure InventorySlotV944 where
  containerId : Int
  slot : Int
  containerName : FullContainerName
  storageItem : ItemInstance
  newItem : ItemInstance
deriving Repr, DecidableEq

structure InventorySlotV975 where
  containerId : Int
  slot : Int
  containerName : Option FullContainerName
  storageItem : Option ItemInstance
  newItem : ItemInstance
deriving Repr, DecidableEq

structure InventoryContent where
  windowId : Int
  content : List ItemInstance
  containerName : FullContainerName
  storageItem : ItemInstance
deriving Repr, DecidableEq

structure MobArmourEquipment where
  entityRuntimeId : Int
  helmet : ItemInstance
  chestplate : ItemInstance
  leggings : ItemInstance
  boots : ItemInstance
  body : ItemInstance
deriving Repr, DecidableEq

/-! ### Grammars -/

def fullContainerName : FieldType FullContainerName where
  read := do
    let containerId ← byte.read
    let dynamicId ← (optionalType uintLE).read
    pure { containerId, dynamicId }
  write name := do
    byte.write name.containerId
    (optionalType uintLE).write name.dynamicId

def mobEquipmentType (item : FieldType ItemInstance) (slot : FieldType Int) :
    FieldType MobEquipment where
  read := do
    let targetRuntimeId ← uvarInt64.read
    let item ← item.read
    let hotbarSlot ← slot.read
    let selectedSlot ← slot.read
    let containerId ← slot.read
    pure { targetRuntimeId, item, slot := hotbarSlot, selectedSlot, containerId }
  write p := do
    uvarInt64.write p.targetRuntimeId
    item.write p.item
    slot.write p.slot
    slot.write p.selectedSlot
    slot.write p.containerId

def mobEquipmentV944 : FieldType MobEquipment := mobEquipmentType itemInstance byte

def mobEquipmentV975 : FieldType MobEquipment := mobEquipmentType itemInstanceV975 uvarInt

def inventorySlotV944 : FieldType InventorySlotV944 where
  read := do
    let containerId ← uvarInt.read
    let slot ← uvarInt.read
    let containerName ← fullContainerName.read
    let storageItem ← itemInstance.read
    let newItem ← itemInstance.read
    pure { containerId, slot, containerName, storageItem, newItem }
  write p := do
    uvarInt.write p.containerId
    uvarInt.write p.slot
    fullContainerName.write p.containerName
    itemInstance.write p.storageItem
    itemInstance.write p.newItem

def inventorySlotV975 : FieldType InventorySlotV975 where
  read := do
    let containerId ← uvarInt.read
    let slot ← uvarInt.read
    let containerName ← (optionalType fullContainerName).read
    let storageItem ← (optionalType itemInstanceV975).read
    let newItem ← itemInstanceV975.read
    pure { containerId, slot, containerName, storageItem, newItem }
  write p := do
    uvarInt.write p.containerId
    uvarInt.write p.slot
    (optionalType fullContainerName).write p.containerName
    (optionalType itemInstanceV975).write p.storageItem
    itemInstanceV975.write p.newItem

def inventoryContentType (item : FieldType ItemInstance) : FieldType InventoryContent where
  read := do
    let windowId ← uvarInt.read
    let content ← (arrayType item).read
    let containerName ← fullContainerName.read
    let storageItem ← item.read
    pure { windowId, content, containerName, storageItem }
  write p := do
    uvarInt.write p.windowId
    (arrayType item).write p.content
    fullContainerName.write p.containerName
    item.write p.storageItem

def inventoryContentV975 : FieldType InventoryContent := inventoryContentType itemInstance

def inventoryContentV1001 : FieldType InventoryContent := inventoryContentType itemInstanceV975

def mobArmourEquipmentType (item : FieldType ItemInstance) : FieldType MobArmourEquipment where
  read := do
    let entityRuntimeId ← uvarInt64.read
    let helmet ← item.read
    let chestplate ← item.read
    let leggings ← item.read
    let boots ← item.read
    let body ← item.read
    pure { entityRuntimeId, helmet, chestplate, leggings, boots, body }
  write p := do
    uvarInt64.write p.entityRuntimeId
    item.write p.helmet
    item.write p.chestplate
    item.write p.leggings
    item.write p.boots
    item.write p.body

def mobArmourEquipmentV975 : FieldType MobArmourEquipment := mobArmourEquipmentType itemInstance

def mobArmourEquipmentV1001 : FieldType MobArmourEquipment :=
  mobArmourEquipmentType itemInstanceV975

/-! ### Canonical packets -/

structure MobEquipment.Canonical (p : MobEquipment) : Prop where
  targetRuntimeId : InUInt64 p.targetRuntimeId
  item : p.item.Canonical
  slot : InByte p.slot
  selectedSlot : InByte p.selectedSlot
  containerId : InByte p.containerId

structure FullContainerName.Canonical (name : FullContainerName) : Prop where
  containerId : InByte name.containerId
  dynamicId : ∀ id, name.dynamicId = some id → InUInt32 id

structure InventorySlotV944.Canonical (p : InventorySlotV944) : Prop where
  containerId : InUInt32 p.containerId
  slot : InUInt32 p.slot
  containerName : p.containerName.Canonical
  storageItem : p.storageItem.Canonical
  newItem : p.newItem.Canonical

structure InventoryContent.Canonical (p : InventoryContent) : Prop where
  windowId : InUInt32 p.windowId
  length : p.content.length < 2 ^ 32
  content : ∀ item ∈ p.content, item.Canonical
  containerName : p.containerName.Canonical
  storageItem : p.storageItem.Canonical

structure MobArmourEquipment.Canonical (p : MobArmourEquipment) : Prop where
  entityRuntimeId : InUInt64 p.entityRuntimeId
  helmet : p.helmet.Canonical
  chestplate : p.chestplate.Canonical
  leggings : p.leggings.Canonical
  boots : p.boots.Canonical
  body : p.body.Canonical

/-! ### The same packets with new items -/

/-- The block runtime id of the item is unsigned on the new wire. -/
def MobEquipment.upgrade (p : MobEquipment) : MobEquipment := { p with item := p.item.unsigned }

/-- Air in storage is a storage item that is absent. -/
def upgradeStorage (item : ItemInstance) : Option ItemInstance :=
  if item.networkId = 0 then none else some item.unsigned

def InventorySlotV944.upgrade (p : InventorySlotV944) : InventorySlotV975 where
  containerId := p.containerId
  slot := p.slot
  containerName := some p.containerName
  storageItem := upgradeStorage p.storageItem
  newItem := p.newItem.unsigned

def InventoryContent.upgrade (p : InventoryContent) : InventoryContent :=
  { p with
    content := p.content.map ItemInstance.unsigned
    storageItem := p.storageItem.unsigned }

def MobArmourEquipment.upgrade (p : MobArmourEquipment) : MobArmourEquipment where
  entityRuntimeId := p.entityRuntimeId
  helmet := p.helmet.unsigned
  chestplate := p.chestplate.unsigned
  leggings := p.leggings.unsigned
  boots := p.boots.unsigned
  body := p.body.unsigned

end Endweave
