import Endweave.Codec.Types.Primitives

/-!
# Items and inventory actions

Three descriptors of an item: the one up to v944, in which air is a single byte, the one of the
results of recipes, and the one that v975 has without the shortcut for air.
-/

namespace Endweave

open Wire PacketReader PacketWriter

/-! ### Items -/

/-- A stack of items; the network id 0 is air. -/
structure ItemInstance where
  networkId : Int := 0
  count : Int := 0
  auxValue : Int := 0
  hasNetId : Bool := false
  stackNetId : Int := 0
  netIdVariant : Int := 0
  blockRuntimeId : Int := 0
  userData : List UInt8 := []
deriving Repr, DecidableEq

/-- A uvarint length, then raw bytes. -/
def readUserData : Parser PyException UInt8 (List UInt8) := do
  let extraLen ← readUVarint
  readBytes extraLen

def writeUserData (userData : List UInt8) : Printer PyException UInt8 Unit := do
  writeUVarint userData.length
  writeBytes userData

/-- The stack network id, if there is one. -/
def readStackNetId (hasNetId : Bool) : Parser PyException UInt8 Int :=
  if hasNetId then readVarint else pure 0

def writeStackNetId (value : ItemInstance) : Printer PyException UInt8 Unit :=
  if value.hasNetId then writeVarint value.stackNetId else pure ()

/-- The fields of `_ItemInstanceType` behind the network id. -/
def readItemFields (networkId : Int) : Parser PyException UInt8 ItemInstance := do
  let count ← readUShortLE
  let auxValue ← readUVarint
  let hasNetId ← readBool
  let stackNetId ← readStackNetId hasNetId
  let blockRuntimeId ← readVarint
  let userData ← readUserData
  pure { networkId, count, auxValue, hasNetId, stackNetId, blockRuntimeId, userData }

def writeItemFields (value : ItemInstance) : Printer PyException UInt8 Unit := do
  writeUShortLE value.count
  writeUVarint value.auxValue
  writeBool value.hasNetId
  writeStackNetId value
  writeVarint value.blockRuntimeId
  writeUserData value.userData

/-- `_ItemInstanceType`. -/
def itemInstance : FieldType ItemInstance where
  read := do
    let networkId ← readVarint
    if networkId = 0 then pure { networkId := 0 } else readItemFields networkId
  write value := do
    writeVarint value.networkId
    if value.networkId = 0 then pure () else writeItemFields value

/-- The fields of `_NetworkItemInstanceDescriptorType` behind the network id. -/
def readDescriptorFields (networkId : Int) : Parser PyException UInt8 ItemInstance := do
  let count ← readUShortLE
  let auxValue ← readUVarint
  let blockRuntimeId ← readVarint
  let userData ← readUserData
  pure { networkId, count, auxValue, blockRuntimeId, userData }

def writeDescriptorFields (value : ItemInstance) : Printer PyException UInt8 Unit := do
  writeUShortLE value.count
  writeUVarint value.auxValue
  writeVarint value.blockRuntimeId
  writeUserData value.userData

/-- `_NetworkItemInstanceDescriptorType`: the result of a recipe, which has no stack network id. -/
def networkItemInstanceDescriptor : FieldType ItemInstance where
  read := do
    let networkId ← readVarint
    if networkId = 0 then pure { networkId := 0 } else readDescriptorFields networkId
  write value := do
    writeVarint value.networkId
    if value.networkId = 0 then pure () else writeDescriptorFields value

/-- The variant and the stack network id of v975. -/
def readNetId (hasNetId : Bool) : Parser PyException UInt8 (Int × Int) :=
  if hasNetId then do
    let netIdVariant ← readUVarint
    let stackNetId ← readVarint
    pure (netIdVariant, stackNetId)
  else pure (0, 0)

def writeNetId (value : ItemInstance) : Printer PyException UInt8 Unit :=
  if value.hasNetId then do
    writeUVarint value.netIdVariant
    writeVarint value.stackNetId
  else pure ()

/-- `_ItemInstanceV975Type`. -/
def itemInstanceV975 : FieldType ItemInstance where
  read := do
    let networkId ← readShortLE
    let count ← readUShortLE
    let auxValue ← readUVarint
    let hasNetId ← readBool
    let netId ← readNetId hasNetId
    let blockRuntimeId ← readUVarint
    let userData ← readUserData
    pure { networkId, count, auxValue, hasNetId, stackNetId := netId.2, netIdVariant := netId.1,
           blockRuntimeId, userData }
  write value := do
    writeShortLE value.networkId
    writeUShortLE value.count
    writeUVarint value.auxValue
    writeBool value.hasNetId
    writeNetId value
    writeUVarint value.blockRuntimeId
    writeUserData value.userData

/-! ### Actions -/

inductive InventorySourceType where
  | containerInventory
  | globalInventory
  | worldInteraction
  | creativeInventory
  | nonImplementedFeatureTodo
deriving Repr, DecidableEq

def InventorySourceType.value : InventorySourceType → Int
  | .containerInventory => 0
  | .globalInventory => 1
  | .worldInteraction => 2
  | .creativeInventory => 3
  | .nonImplementedFeatureTodo => 99999

/-- The source types that carry a window id. -/
def hasWindowId (sourceType : Int) : Bool :=
  sourceType == InventorySourceType.containerInventory.value ||
    sourceType == InventorySourceType.nonImplementedFeatureTodo.value

/-- The source type that carries flags. -/
def hasSourceFlags (sourceType : Int) : Bool :=
  sourceType == InventorySourceType.worldInteraction.value

structure InventoryAction where
  sourceType : Int
  windowId : Option Int
  sourceFlags : Option Int
  slot : Int
  oldItem : ItemInstance
  newItem : ItemInstance
deriving Repr, DecidableEq

/-- `assert value is not None`. -/
def assertSome {σ : Type} : Option Int → EStateM PyException σ Int
  | some value => pure value
  | none => throw .assertionError

/-- The window id and the source flags that a source type carries. -/
def readSource (sourceType : Int) : Parser PyException UInt8 (Option Int × Option Int) :=
  if hasWindowId sourceType then do
    let windowId ← varInt.read
    pure (some windowId, none)
  else if hasSourceFlags sourceType then do
    let sourceFlags ← uvarInt.read
    pure (none, some sourceFlags)
  else pure (none, none)

def writeSource (value : InventoryAction) : Printer PyException UInt8 Unit :=
  if hasWindowId value.sourceType then do
    let windowId ← assertSome value.windowId
    varInt.write windowId
  else if hasSourceFlags value.sourceType then do
    let sourceFlags ← assertSome value.sourceFlags
    uvarInt.write sourceFlags
  else pure ()

/-- `_InventoryActionType`. -/
def inventoryAction : FieldType InventoryAction where
  read := do
    let sourceType ← uvarInt.read
    let source ← readSource sourceType
    let slot ← uvarInt.read
    let oldItem ← itemInstance.read
    let newItem ← itemInstance.read
    pure { sourceType, windowId := source.1, sourceFlags := source.2, slot, oldItem, newItem }
  write value := do
    uvarInt.write value.sourceType
    writeSource value
    uvarInt.write value.slot
    itemInstance.write value.oldItem
    itemInstance.write value.newItem

end Endweave
