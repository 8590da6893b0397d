import Endweave.Codec.Equiv.Inventory
import Endweave.Protocol.Handlers.ServerboundBlockPos
import Endweave.Protocol.Packets.BlockPos
import Endweave.Protocol.Packets.InventoryTransaction

/-!
# The packets of the client with block positions

As for the packets of the server, the codec of the positions is a parameter: `networkBlockPos` on
the wire of v924, `blockPos` on that of v944.  The fields go as far as the handlers read; a packet
may go on behind them.
-/

namespace Endweave

open V975ToV1001 (LegacySetItemSlot)

/-- Item use transactions, which have a position. -/
abbrev itemUse : Int := V975ToV1001.ComplexInventoryTransactionType.itemUseTransaction.value

/-! ### Fields -/

/-- The data of an item use, up to the cooldown state that v944 has behind it. -/
structure ItemUse where
  actionType : Int
  triggerType : Int
  blockPosition : BlockPosition
  blockFace : Int
  hotBarSlot : Int
  heldItem : ItemInstance
  position : UInt32 × UInt32 × UInt32
  clickedPosition : UInt32 × UInt32 × UInt32
  blockRuntimeId : Int
  clientPrediction : Int

/-- A transaction type, with its data if that has a position. -/
inductive TransactionBody where
  | useItem (data : ItemUse)
  | other (transactionType : Int) (notItemUse : transactionType ≠ itemUse)

def TransactionBody.transactionType : TransactionBody → Int
  | useItem _ => itemUse
  | other transactionType _ => transactionType

/-- The legacy slots are on the wire exactly when the legacy request id is not zero. -/
structure ItemTransaction where
  legacyRequestId : Int
  legacySlots : List LegacySetItemSlot
  legacySlots_of_zero : legacyRequestId = 0 → legacySlots = []
  actions : List InventoryAction
  body : TransactionBody

structure PlayerAction where
  playerRuntimeId : Int
  action : Int
  blockPosition : BlockPosition
  resultPosition : BlockPosition

structure StructureBlockUpdate where
  position : BlockPosition
  name : String
  dataField : String
  includePlayers : Bool
  showBoundingBox : Bool
  structureBlockType : Int
  settings : StructureSettings

structure StructureTemplateDataRequest where
  name : String
  position : BlockPosition
  settings : StructureSettings

structure AnvilDamage where
  damage : Int
  position : BlockPosition

/-! ### Bytes -/

section Bytes

variable (T : BlockPosType)

def ItemUse.bytes (data : ItemUse) : List UInt8 :=
  uvarInt.bytes data.actionType ++ (uvarInt.bytes data.triggerType ++
    (T.bytes data.blockPosition ++ (varInt.bytes data.blockFace ++ (varInt.bytes data.hotBarSlot ++
      (itemInstance.bytes data.heldItem ++ (vec3.bytes data.position ++
        (vec3.bytes data.clickedPosition ++ (uvarInt.bytes data.blockRuntimeId ++
          uvarInt.bytes data.clientPrediction))))))))

def TransactionBody.bytes : TransactionBody → List UInt8
  | useItem data => data.bytes T
  | other _ _ => []

def ItemTransaction.legacySlotBytes (p : ItemTransaction) : List UInt8 :=
  if p.legacyRequestId != 0 then arrayBytes LegacySetItemSlot.bytes p.legacySlots else []

def ItemTransaction.bytes (p : ItemTransaction) : List UInt8 :=
  varInt.bytes p.legacyRequestId ++ (p.legacySlotBytes ++ (uvarInt.bytes p.body.transactionType ++
    (arrayBytes inventoryAction.bytes p.actions ++ p.body.bytes T)))

def PlayerAction.bytes (p : PlayerAction) : List UInt8 :=
  uvarInt64.bytes p.playerRuntimeId ++ (uvarInt.bytes p.action ++
    (T.bytes p.blockPosition ++ T.bytes p.resultPosition))

def StructureBlockUpdate.bytes (p : StructureBlockUpdate) : List UInt8 :=
  T.bytes p.position ++ (string.bytes p.name ++ (string.bytes p.dataField ++
    (bool.bytes p.includePlayers ++ (bool.bytes p.showBoundingBox ++
      (varInt.bytes p.structureBlockType ++ (structureSettingsType T).bytes p.settings)))))

/-- A command block has a position, a minecart with one has not. -/
def commandBlockUpdateBytes (position : Option BlockPosition) : List UInt8 :=
  bool.bytes position.isSome ++ position.toList.flatMap T.bytes

def StructureTemplateDataRequest.bytes (p : StructureTemplateDataRequest) : List UInt8 :=
  string.bytes p.name ++ (T.bytes p.position ++ (structureSettingsType T).bytes p.settings)

def AnvilDamage.bytes (p : AnvilDamage) : List UInt8 := byte.bytes p.damage ++ T.bytes p.position

end Bytes

/-! ### Canonical packets -/

structure ItemUse.Canonical (data : ItemUse) : Prop where
  actionType : InUInt32 data.actionType
  triggerType : InUInt32 data.triggerType
  blockPosition : BlockPosition.Canonical data.blockPosition
  blockFace : InInt32 data.blockFace
  hotBarSlot : InInt32 data.hotBarSlot
  heldItem : data.heldItem.CanonicalV944
  blockRuntimeId : InUInt32 data.blockRuntimeId
  clientPrediction : InUInt32 data.clientPrediction

def TransactionBody.Canonical : TransactionBody → Prop
  | useItem data => data.Canonical
  | other transactionType _ => InUInt32 transactionType

structure ItemTransaction.Canonical (p : ItemTransaction) : Prop where
  legacyRequestId : InInt32 p.legacyRequestId
  legacySlots : p.legacySlots.length < 2 ^ 32 ∧ ∀ slot ∈ p.legacySlots, slot.Canonical
  actions : p.actions.length < 2 ^ 32 ∧ ∀ action ∈ p.actions, action.CanonicalV944
  body : p.body.Canonical

structure PlayerAction.Canonical (p : PlayerAction) : Prop where
  playerRuntimeId : InUInt64 p.playerRuntimeId
  action : InUInt32 p.action
  blockPosition : BlockPosition.Canonical p.blockPosition
  resultPosition : BlockPosition.Canonical p.resultPosition

structure StructureSettings.Canonical (s : StructureSettings) : Prop where
  paletteName : FitsString s.paletteName
  size : BlockPosition.Canonical s.size
  offset : BlockPosition.Canonical s.offset
  lastEditPlayer : InInt64 s.lastEditPlayer
  rotation : InByte s.rotation
  mirror : InByte s.mirror
  animationMode : InByte s.animationMode
  integritySeed : InUInt32 s.integritySeed

structure StructureBlockUpdate.Canonical (p : StructureBlockUpdate) : Prop where
  position : BlockPosition.Canonical p.position
  name : FitsString p.name
  dataField : FitsString p.dataField
  structureBlockType : InInt32 p.structureBlockType
  settings : p.settings.Canonical

structure StructureTemplateDataRequest.Canonical (p : StructureTemplateDataRequest) : Prop where
  name : FitsString p.name
  position : BlockPosition.Canonical p.position
  settings : p.settings.Canonical

structure AnvilDamage.Canonical (p : AnvilDamage) : Prop where
  damage : InByte p.damage
  position : BlockPosition.Canonical p.position

/-! ### The kinds -/

/-- The serverbound packets whose positions change between v924 and v944. -/
inductive ClientBlockPosPacket where
  | inventoryTransaction
  | playerAction
  | commandBlockUpdate
  | structureBlockUpdate
  | structureTemplateDataRequest
  | blockActorData
  | anvilDamage
  | lecternUpdate
deriving Repr, DecidableEq

namespace ClientBlockPosPacket

def packetId : ClientBlockPosPacket → Int
  | inventoryTransaction => PacketId.inventoryTransaction
  | playerAction => PacketId.playerAction
  | commandBlockUpdate => PacketId.commandBlockUpdate
  | structureBlockUpdate => PacketId.structureBlockUpdate
  | structureTemplateDataRequest => PacketId.structureTemplateDataExportRequest
  | blockActorData => PacketId.blockActorData
  | anvilDamage => PacketId.anvilDamage
  | lecternUpdate => PacketId.lecternUpdate

/-- The fields up to the last one that the handlers read. -/
def Data : ClientBlockPosPacket → Type
  | inventoryTransaction => ItemTransaction
  | playerAction => PlayerAction
  | commandBlockUpdate => Option BlockPosition
  | structureBlockUpdate => StructureBlockUpdate
  | structureTemplateDataRequest => StructureTemplateDataRequest
  | blockActorData => BlockPosition
  | anvilDamage => AnvilDamage
  | lecternUpdate => LecternUpdate

def bytes (T : BlockPosType) : (k : ClientBlockPosPacket) → k.Data → List UInt8
  | inventoryTransaction => ItemTransaction.bytes T
  | playerAction => PlayerAction.bytes T
  | commandBlockUpdate => commandBlockUpdateBytes T
  | structureBlockUpdate => StructureBlockUpdate.bytes T
  | structureTemplateDataRequest => StructureTemplateDataRequest.bytes T
  | blockActorData => T.bytes
  | anvilDamage => AnvilDamage.bytes T
  | lecternUpdate => (lecternUpdateType T).bytes

def Canonical : (k : ClientBlockPosPacket) → k.Data → Prop
  | inventoryTransaction => ItemTransaction.Canonical
  | playerAction => PlayerAction.Canonical
  | commandBlockUpdate => fun position => ∀ v, position = some v → BlockPosition.Canonical v
  | structureBlockUpdate => StructureBlockUpdate.Canonical
  | structureTemplateDataRequest => StructureTemplateDataRequest.Canonical
  | blockActorData => BlockPosition.Canonical
  | anvilDamage => AnvilDamage.Canonical
  | lecternUpdate => LecternUpdate.Canonical

end ClientBlockPosPacket

/-- What v944 has behind the data of an item use, and nowhere else. -/
def TransactionBody.behind (cooldown : List UInt8) : TransactionBody → List UInt8
  | useItem _ => cooldown
  | other _ _ => []

/-- The cooldown state 0 of an item use. -/
def ClientBlockPosPacket.cooldownState : (k : ClientBlockPosPacket) → k.Data → List UInt8
  | inventoryTransaction, p => (ItemTransaction.body p).behind [0]
  | playerAction, _ | commandBlockUpdate, _ | structureBlockUpdate, _
  | structureTemplateDataRequest, _ | blockActorData, _ | anvilDamage, _ | lecternUpdate, _ => []

end Endweave
