import Endweave.Codec.Types.Structure
import Endweave.Protocol.Handlers.BlockPos
import Endweave.Protocol.Handlers.InventoryTransaction

/-!
# The block position handlers for packets of the client

The serverbound half of the handlers between v924 and v944.  Besides the positions, v944 has a
cooldown state behind the data of an item use.
-/

namespace Endweave

open PacketWrapper

/-! ### Bodies with the two codecs as parameters -/

section Bodies

variable (old new : BlockPosType)

/-- `UseItemTransactionData`; `cooldown` adds the cooldown state or takes it away. -/
def mapUseItem (cooldown : PacketHandler) : PacketHandler := do
  let _ ← passthrough uvarInt -- ActionType
  let _ ← passthrough uvarInt -- TriggerType
  let _ ← map old new -- BlockPosition
  let _ ← passthrough varInt -- BlockFace
  let _ ← passthrough varInt -- HotBarSlot
  let _ ← passthrough itemInstance -- HeldItem
  let _ ← passthrough vec3 -- Position
  let _ ← passthrough vec3 -- ClickedPosition
  let _ ← passthrough uvarInt -- BlockRuntimeID
  let _ ← passthrough uvarInt -- ClientPrediction
  cooldown

def passthroughAction : PacketHandler := do
  let _ ← passthrough inventoryAction

def mapInventoryTransaction (cooldown : PacketHandler) : PacketHandler := do
  let legacyRequestId ← passthrough varInt -- Raw Id (32 bit signed)
  V975ToV1001.passthroughLegacySlots (legacyRequestId != 0) -- Legacy Set Item Slots
  let transactionType ← passthrough uvarInt -- Transaction Type
  passthroughLoop passthroughAction -- InventoryActions
  if transactionType ≠ V975ToV1001.ComplexInventoryTransactionType.itemUseTransaction.value then
    pure () -- passthrough remaining bytes unchanged
  else mapUseItem old new cooldown

def mapPlayerAction : PacketHandler := do
  let _ ← passthrough uvarInt64 -- Player Runtime ID
  let _ ← passthrough uvarInt -- Action
  let _ ← map old new -- Block Position
  let _ ← map old new -- Result Pos

def mapStructureBlockUpdate (oldSettings newSettings : FieldType StructureSettings) :
    PacketHandler := do
  let _ ← map old new -- Block Position
  let _ ← passthrough string -- Name
  let _ ← passthrough string -- DataField
  let _ ← passthrough bool -- IncludePlayers
  let _ ← passthrough bool -- ShowBoundingBox
  let _ ← passthrough varInt -- StructureBlockType
  let _ ← map oldSettings newSettings

def mapCommandBlockUpdate : PacketHandler := do
  let isBlock ← passthrough bool -- Is Block?
  if isBlock then do
    let _ ← map old new -- Block Position
  else pure ()

def mapStructureTemplateDataRequest (oldSettings newSettings : FieldType StructureSettings) :
    PacketHandler := do
  let _ ← passthrough string -- Structure Name
  let _ ← map old new -- Structure Position
  let _ ← map oldSettings newSettings

def mapAnvilDamage : PacketHandler := do
  let _ ← passthrough byte -- Damage Amount
  let _ ← map old new -- Block Position

end Bodies

/-! ### To a v944 server -/

namespace V944ToV924

def addCooldownState : PacketHandler := write byte 0 -- ClientCooldownState

def rewriteInventoryTransaction : PacketHandler :=
  mapInventoryTransaction networkBlockPos blockPos addCooldownState

def rewritePlayerAction : PacketHandler := mapPlayerAction networkBlockPos blockPos

def rewriteStructureBlockUpdate : PacketHandler :=
  mapStructureBlockUpdate networkBlockPos blockPos structureSettingsV924 structureSettingsV944

def rewriteCommandBlockUpdate : PacketHandler := mapCommandBlockUpdate networkBlockPos blockPos

def rewriteStructureTemplateDataRequest : PacketHandler :=
  mapStructureTemplateDataRequest networkBlockPos blockPos structureSettingsV924
    structureSettingsV944

def rewriteAnvilDamage : PacketHandler := mapAnvilDamage networkBlockPos blockPos

end V944ToV924

/-! ### To a v924 server -/

namespace V924ToV944

def stripCooldownState : PacketHandler := do
  let _ ← PacketWrapper.read byte -- ClientCooldownState

def rewriteInventoryTransaction : PacketHandler :=
  mapInventoryTransaction blockPos networkBlockPos stripCooldownState

def rewritePlayerAction : PacketHandler := mapPlayerAction blockPos networkBlockPos

def rewriteStructureBlockUpdate : PacketHandler :=
  mapStructureBlockUpdate blockPos networkBlockPos structureSettingsV944 structureSettingsV924

def rewriteCommandBlockUpdate : PacketHandler := mapCommandBlockUpdate blockPos networkBlockPos

def rewriteStructureTemplateDataRequest : PacketHandler :=
  mapStructureTemplateDataRequest blockPos networkBlockPos structureSettingsV944
    structureSettingsV924

def rewriteAnvilDamage : PacketHandler := mapAnvilDamage blockPos networkBlockPos

end V924ToV944

end Endweave
