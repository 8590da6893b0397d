import Endweave.Codec.Types.Inventory
import Endweave.Codec.Wrapper

/-!
# The `InventoryTransaction` handlers between v975 and v1001

`rewriteInventoryTransaction` reads the new wire of a client and writes the old one;
`rewriteInventoryTransactionClientbound` goes the other way.
-/

namespace Endweave.V975ToV1001

open PacketWrapper

inductive ComplexInventoryTransactionType where
  | normalTransaction
  | inventoryMismatch
  | itemUseTransaction
  | itemUseOnEntityTransaction
  | itemReleaseTransaction
deriving Repr, DecidableEq

def ComplexInventoryTransactionType.value : ComplexInventoryTransactionType → Int
  | .normalTransaction => 0
  | .inventoryMismatch => 1
  | .itemUseTransaction => 2
  | .itemUseOnEntityTransaction => 3
  | .itemReleaseTransaction => 4

/-! ### Shared parts -/

def passthroughLegacySlot : PacketHandler := do
  let _ ← passthrough byte -- ContainerID
  passthroughLoop do
    let _ ← passthrough byte -- Slot

/-- LegacySetItemSlots, if there are any. -/
def passthroughLegacySlots (hasLegacy : Bool) : PacketHandler :=
  if hasLegacy then passthroughLoop passthroughLegacySlot else pure ()

/-- The trailing data of a transaction, by its type; none for the other types. -/
def rewriteTransactionData (transactionType : Int)
    (useItem useItemOnEntity releaseItem : PacketHandler) : PacketHandler :=
  if transactionType = ComplexInventoryTransactionType.itemUseTransaction.value then useItem
  else if transactionType = ComplexInventoryTransactionType.itemUseOnEntityTransaction.value then
    useItemOnEntity
  else if transactionType = ComplexInventoryTransactionType.itemReleaseTransaction.value then
    releaseItem
  else pure ()

/-! ### From v1001 to v975 -/

/-- A present sentinel, a gate and, behind it, the value. -/
def readPresence (T : FieldType Int) : WrapperM (Option Int) := do
  let _ ← PacketWrapper.read bool
  let gate ← PacketWrapper.read bool
  if gate then do
    let value ← PacketWrapper.read T
    pure (some value)
  else pure none

def rewriteAction : PacketHandler := do
  let sourceType ← PacketWrapper.read uvarInt
  let windowId ← readPresence int8
  let sourceFlags ← readPresence uvarInt
  let slot ← PacketWrapper.read uvarInt
  let oldItem ← PacketWrapper.read itemInstanceV975
  let newItem ← PacketWrapper.read itemInstanceV975
  write inventoryAction { sourceType, windowId, sourceFlags, slot, oldItem, newItem }

def rewriteUseItem : PacketHandler := do
  let actionType ← PacketWrapper.read varInt
  write uvarInt actionType
  let triggerType ← PacketWrapper.read byte
  write uvarInt triggerType
  let _ ← passthrough blockPos
  let blockFace ← PacketWrapper.read int8
  write varInt blockFace
  let _ ← passthrough varInt -- HotBarSlot
  let _ ← map itemInstanceV975 itemInstance -- HeldItem
  let _ ← passthrough vec3 -- Position
  let _ ← passthrough vec3 -- ClickedPosition
  let _ ← passthrough uvarInt -- BlockRuntimeID
  let clientPrediction ← PacketWrapper.read byte
  write uvarInt clientPrediction
  let _ ← passthrough byte -- ClientCooldownState

def rewriteUseItemOnEntity : PacketHandler := do
  let _ ← passthrough uvarInt64 -- TargetEntityRuntimeID
  let actionType ← PacketWrapper.read varInt
  write uvarInt actionType
  let _ ← passthrough varInt -- HotBarSlot
  let _ ← map itemInstanceV975 itemInstance -- HeldItem
  let _ ← passthrough vec3 -- Position
  let _ ← passthrough vec3 -- ClickedPosition

def rewriteReleaseItem : PacketHandler := do
  let actionType ← PacketWrapper.read varInt
  write uvarInt actionType
  let _ ← passthrough varInt -- HotBarSlot
  let _ ← map itemInstanceV975 itemInstance -- HeldItem
  let _ ← passthrough vec3 -- HeadPosition

def rewriteInventoryTransaction : PacketHandler := do
  let _ ← passthrough varInt -- LegacyRequestID
  let hasLegacy ← PacketWrapper.read bool
  passthroughLegacySlots hasLegacy
  let _ ← PacketWrapper.read bool -- hasType
  let transactionType ← passthrough uvarInt
  let _ ← PacketWrapper.read bool -- hasActions
  passthroughLoop rewriteAction
  rewriteTransactionData transactionType rewriteUseItem rewriteUseItemOnEntity rewriteReleaseItem

/-! ### From v975 to v1001 -/

def writePresence (T : FieldType Int) (gate : Bool) (value : Option Int) : PacketHandler := do
  write bool true
  write bool gate
  if gate then do
    let value ← assertSome value
    write T value
  else pure ()

def actionOldToNew : PacketHandler := do
  let action ← PacketWrapper.read inventoryAction
  write uvarInt action.sourceType
  writePresence int8 (hasWindowId action.sourceType) action.windowId
  writePresence uvarInt (hasSourceFlags action.sourceType) action.sourceFlags
  write uvarInt action.slot
  write itemInstanceV975 action.oldItem
  write itemInstanceV975 action.newItem

def useItemOldToNew : PacketHandler := do
  let actionType ← PacketWrapper.read uvarInt
  write varInt actionType
  let triggerType ← PacketWrapper.read uvarInt
  write byte triggerType
  let _ ← passthrough blockPos
  let blockFace ← PacketWrapper.read varInt
  write int8 blockFace
  let _ ← passthrough varInt -- HotBarSlot
  let _ ← map itemInstance itemInstanceV975 -- HeldItem
  let _ ← passthrough vec3 -- Position
  let _ ← passthrough vec3 -- ClickedPosition
  let _ ← passthrough uvarInt -- BlockRuntimeID
  let clientPrediction ← PacketWrapper.read uvarInt
  write byte clientPrediction
  let _ ← passthrough byte -- ClientCooldownState

def useItemOnEntityOldToNew : PacketHandler := do
  let _ ← passthrough uvarInt64 -- TargetEntityRuntimeID
  let actionType ← PacketWrapper.read uvarInt
  write varInt actionType
  let _ ← passthrough varInt -- HotBarSlot
  let _ ← map itemInstance itemInstanceV975 -- HeldItem
  let _ ← passthrough vec3 -- Position
  let _ ← passthrough vec3 -- ClickedPosition

def releaseItemOldToNew : PacketHandler := do
  let actionType ← PacketWrapper.read uvarInt
  write varInt actionType
  let _ ← passthrough varInt -- HotBarSlot
  let _ ← map itemInstance itemInstanceV975 -- HeldItem
  let _ ← passthrough vec3 -- HeadPosition

def rewriteInventoryTransactionClientbound : PacketHandler := do
  let legacyRequestId ← passthrough varInt
  let hasLegacy := legacyRequestId != 0
  write bool hasLegacy
  passthroughLegacySlots hasLegacy
  write bool true -- hasType
  let transactionType ← passthrough uvarInt
  write bool true -- hasActions
  passthroughLoop actionOldToNew
  rewriteTransactionData transactionType useItemOldToNew useItemOnEntityOldToNew releaseItemOldToNew

end Endweave.V975ToV1001
