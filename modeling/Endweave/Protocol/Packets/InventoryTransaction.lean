import Endweave.Codec.Equiv.Inventory
import Endweave.Protocol.Handlers.InventoryTransaction

/-!
# The grammar of `InventoryTransaction`

The fields of the packet and the bytes that the old wire (v975) and the new one (v1001) make of
them.
-/

namespace Endweave.V975ToV1001

/-! ### Fields -/

structure LegacySetItemSlot where
  containerId : Int
  slots : List Int
deriving Repr, DecidableEq

structure UseItemData where
  actionType : Int
  triggerType : Int
  blockPosition : Int × Int × Int
  blockFace : Int
  hotBarSlot : Int
  heldItem : ItemInstance
  position : UInt32 × UInt32 × UInt32
  clickedPosition : UInt32 × UInt32 × UInt32
  blockRuntimeId : Int
  clientPrediction : Int
  clientCooldownState : Int
deriving Repr, DecidableEq

structure UseItemOnEntityData where
  targetEntityRuntimeId : Int
  actionType : Int
  hotBarSlot : Int
  heldItem : ItemInstance
  position : UInt32 × UInt32 × UInt32
  clickedPosition : UInt32 × UInt32 × UInt32
deriving Repr, DecidableEq

structure ReleaseItemData where
  actionType : Int
  hotBarSlot : Int
  heldItem : ItemInstance
  headPosition : UInt32 × UInt32 × UInt32
deriving Repr, DecidableEq

/-- The transaction types without trailing data. -/
def IsPlain (transactionType : Int) : Prop :=
  transactionType ≠ ComplexInventoryTransactionType.itemUseTransaction.value ∧
  transactionType ≠ ComplexInventoryTransactionType.itemUseOnEntityTransaction.value ∧
  transactionType ≠ ComplexInventoryTransactionType.itemReleaseTransaction.value

instance (transactionType : Int) : Decidable (IsPlain transactionType) :=
  inferInstanceAs (Decidable (_ ∧ _ ∧ _))

/-- A transaction type with the data that goes with it. -/
inductive TransactionData where
  | plain (transactionType : Int) (isPlain : IsPlain transactionType)
  | useItem (data : UseItemData)
  | useItemOnEntity (data : UseItemOnEntityData)
  | releaseItem (data : ReleaseItemData)

def TransactionData.transactionType : TransactionData → Int
  | .plain transactionType _ => transactionType
  | .useItem _ => ComplexInventoryTransactionType.itemUseTransaction.value
  | .useItemOnEntity _ => ComplexInventoryTransactionType.itemUseOnEntityTransaction.value
  | .releaseItem _ => ComplexInventoryTransactionType.itemReleaseTransaction.value

/-- The legacy slots are on the wire exactly when the legacy request id is not zero. -/
structure InventoryTransaction where
  legacyRequestId : Int
  legacySlots : List LegacySetItemSlot
  legacySlots_of_zero : legacyRequestId = 0 → legacySlots = []
  actions : List InventoryAction
  data : TransactionData

/-! ### The old wire -/

def LegacySetItemSlot.bytes (slot : LegacySetItemSlot) : List UInt8 :=
  byte.bytes slot.containerId ++ arrayBytes byte.bytes slot.slots

def UseItemData.bytesV975 (data : UseItemData) : List UInt8 :=
  [uvarInt.bytes data.actionType, uvarInt.bytes data.triggerType, blockPos.bytes data.blockPosition,
    varInt.bytes data.blockFace, varInt.bytes data.hotBarSlot, itemInstance.bytes data.heldItem,
    vec3.bytes data.position, vec3.bytes data.clickedPosition, uvarInt.bytes data.blockRuntimeId,
    uvarInt.bytes data.clientPrediction, byte.bytes data.clientCooldownState].flatten

def UseItemOnEntityData.bytesV975 (data : UseItemOnEntityData) : List UInt8 :=
  [uvarInt64.bytes data.targetEntityRuntimeId, uvarInt.bytes data.actionType,
    varInt.bytes data.hotBarSlot, itemInstance.bytes data.heldItem, vec3.bytes data.position,
    vec3.bytes data.clickedPosition].flatten

def ReleaseItemData.bytesV975 (data : ReleaseItemData) : List UInt8 :=
  [uvarInt.bytes data.actionType, varInt.bytes data.hotBarSlot, itemInstance.bytes data.heldItem,
    vec3.bytes data.headPosition].flatten

def TransactionData.bytesV975 : TransactionData → List UInt8
  | .plain _ _ => []
  | .useItem data => data.bytesV975
  | .useItemOnEntity data => data.bytesV975
  | .releaseItem data => data.bytesV975

namespace InventoryTransaction

def legacySlotBytes (p : InventoryTransaction) : List UInt8 :=
  if p.legacyRequestId != 0 then arrayBytes LegacySetItemSlot.bytes p.legacySlots else []

def bytesV975 (p : InventoryTransaction) : List UInt8 :=
  [varInt.bytes p.legacyRequestId, p.legacySlotBytes, uvarInt.bytes p.data.transactionType,
    arrayBytes inventoryAction.bytes p.actions, p.data.bytesV975].flatten

end InventoryTransaction

/-! ### The new wire -/

/-- A present sentinel, a gate and, behind it, the value. -/
def presenceBytes (T : FieldType Int) : Option Int → List UInt8
  | some value => bool.bytes true ++ (bool.bytes true ++ T.bytes value)
  | none => bool.bytes true ++ bool.bytes false

def actionBytesV1001 (action : InventoryAction) : List UInt8 :=
  [uvarInt.bytes action.sourceType, presenceBytes int8 action.windowId,
    presenceBytes uvarInt action.sourceFlags, uvarInt.bytes action.slot,
    itemInstanceV975.bytes action.oldItem, itemInstanceV975.bytes action.newItem].flatten

def UseItemData.bytesV1001 (data : UseItemData) : List UInt8 :=
  [varInt.bytes data.actionType, byte.bytes data.triggerType, blockPos.bytes data.blockPosition,
    int8.bytes data.blockFace, varInt.bytes data.hotBarSlot, itemInstanceV975.bytes data.heldItem,
    vec3.bytes data.position, vec3.bytes data.clickedPosition, uvarInt.bytes data.blockRuntimeId,
    byte.bytes data.clientPrediction, byte.bytes data.clientCooldownState].flatten

def UseItemOnEntityData.bytesV1001 (data : UseItemOnEntityData) : List UInt8 :=
  [uvarInt64.bytes data.targetEntityRuntimeId, varInt.bytes data.actionType,
    varInt.bytes data.hotBarSlot, itemInstanceV975.bytes data.heldItem, vec3.bytes data.position,
    vec3.bytes data.clickedPosition].flatten

def ReleaseItemData.bytesV1001 (data : ReleaseItemData) : List UInt8 :=
  [varInt.bytes data.actionType, varInt.bytes data.hotBarSlot,
    itemInstanceV975.bytes data.heldItem, vec3.bytes data.headPosition].flatten

def TransactionData.bytesV1001 : TransactionData → List UInt8
  | .plain _ _ => []
  | .useItem data => data.bytesV1001
  | .useItemOnEntity data => data.bytesV1001
  | .releaseItem data => data.bytesV1001

namespace InventoryTransaction

/-- Of the three flags of v1001, the one for the legacy slots agrees with the request id, as the old
wire has it, and type and actions are there. -/
def bytesV1001 (p : InventoryTransaction) : List UInt8 :=
  [varInt.bytes p.legacyRequestId, bool.bytes (p.legacyRequestId != 0), p.legacySlotBytes,
    bool.bytes true, uvarInt.bytes p.data.transactionType, bool.bytes true,
    arrayBytes actionBytesV1001 p.actions, p.data.bytesV1001].flatten

end InventoryTransaction

/-! ### Canonical packets -/

structure LegacySetItemSlot.Canonical (slot : LegacySetItemSlot) : Prop where
  containerId : InByte slot.containerId
  slots : slot.slots.length < 2 ^ 32 ∧ ∀ s ∈ slot.slots, InByte s

def CanonicalBlockPos (v : Int × Int × Int) : Prop := InInt32 v.1 ∧ InInt32 v.2.1 ∧ InInt32 v.2.2

instance (v : Int × Int × Int) : Decidable (CanonicalBlockPos v) :=
  inferInstanceAs (Decidable (_ ∧ _ ∧ _))

structure UseItemData.Canonical (data : UseItemData) : Prop where
  actionType : InUInt32 data.actionType
  triggerType : InByte data.triggerType
  blockPosition : CanonicalBlockPos data.blockPosition
  blockFace : InInt8 data.blockFace
  hotBarSlot : InInt32 data.hotBarSlot
  heldItem : data.heldItem.Canonical
  blockRuntimeId : InUInt32 data.blockRuntimeId
  clientPrediction : InByte data.clientPrediction
  clientCooldownState : InByte data.clientCooldownState

structure UseItemOnEntityData.Canonical (data : UseItemOnEntityData) : Prop where
  targetEntityRuntimeId : InUInt64 data.targetEntityRuntimeId
  actionType : InUInt32 data.actionType
  hotBarSlot : InInt32 data.hotBarSlot
  heldItem : data.heldItem.Canonical

structure ReleaseItemData.Canonical (data : ReleaseItemData) : Prop where
  actionType : InUInt32 data.actionType
  hotBarSlot : InInt32 data.hotBarSlot
  heldItem : data.heldItem.Canonical

def TransactionData.Canonical : TransactionData → Prop
  | .plain transactionType _ => InUInt32 transactionType
  | .useItem data => data.Canonical
  | .useItemOnEntity data => data.Canonical
  | .releaseItem data => data.Canonical

structure InventoryTransaction.Canonical (p : InventoryTransaction) : Prop where
  legacyRequestId : InInt32 p.legacyRequestId
  legacySlots : p.legacySlots.length < 2 ^ 32 ∧ ∀ slot ∈ p.legacySlots, slot.Canonical
  actions : p.actions.length < 2 ^ 32 ∧ ∀ action ∈ p.actions, action.Canonical
  data : p.data.Canonical

theorem TransactionData.Canonical.transactionType {data : TransactionData} (h : data.Canonical) :
    InUInt32 data.transactionType := by
  cases data with
  | plain transactionType _ => exact h
  | useItem _ => exact (by decide : InUInt32 2)
  | useItemOnEntity _ => exact (by decide : InUInt32 3)
  | releaseItem _ => exact (by decide : InUInt32 4)

/-! ### A packet -/

/-- Three blocks with a stack network id and some extra data. -/
def sampleItem : ItemInstance where
  networkId := -158
  count := 3
  hasNetId := true
  stackNetId := 17
  blockRuntimeId := -1
  userData := [0, 0, 0, 0]

def sampleUseItem : UseItemData where
  actionType := 2 ^ 31
  triggerType := 1
  blockPosition := (-5, -60, 12)
  blockFace := -1
  hotBarSlot := 4
  heldItem := sampleItem
  position := (0, 0, 0)
  clickedPosition := (0, 0, 0)
  blockRuntimeId := 2 ^ 32 - 1
  clientPrediction := 1
  clientCooldownState := 0

/-- A block is placed: an action on a container slot, one in the world, one of no known source. -/
def sampleTransaction : InventoryTransaction where
  legacyRequestId := -2
  legacySlots := [⟨28, [0, 8]⟩]
  legacySlots_of_zero := by decide
  actions := [⟨0, some (-1), none, 4, sampleItem, {}⟩, ⟨2, none, some 0, 0, {}, sampleItem⟩,
    ⟨7, none, none, 1, {}, {}⟩]
  data := .useItem sampleUseItem

theorem sampleItem_canonical : sampleItem.Canonical := by constructor <;> decide

theorem sampleUseItem_canonical : sampleUseItem.Canonical where
  actionType := by decide
  triggerType := by decide
  blockPosition := by decide
  blockFace := by decide
  hotBarSlot := by decide
  heldItem := sampleItem_canonical
  blockRuntimeId := by decide
  clientPrediction := by decide
  clientCooldownState := by decide

theorem sampleTransaction_canonical : sampleTransaction.Canonical where
  legacyRequestId := by decide
  legacySlots := by
    refine ⟨by decide, ?_⟩
    intro slot hslot
    obtain rfl := List.mem_singleton.mp hslot
    constructor <;> decide
  actions := by
    refine ⟨by decide, ?_⟩
    intro action haction
    simp only [sampleTransaction, List.mem_cons, List.not_mem_nil, or_false] at haction
    rcases haction with rfl | rfl | rfl
    · exact ⟨by decide, rfl, by decide, rfl, by decide, by decide, sampleItem_canonical,
        air_canonical⟩
    · exact ⟨by decide, rfl, by decide, rfl, by decide, by decide, air_canonical,
        sampleItem_canonical⟩
    · exact ⟨by decide, rfl, by decide, rfl, by decide, by decide, air_canonical, air_canonical⟩
  data := sampleUseItem_canonical

end Endweave.V975ToV1001
