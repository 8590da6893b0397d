import Endweave.Protocol.Packets.InventoryTransaction

/-!
# Readers of `InventoryTransaction`

`readTransactionV975` reads the packet as the handlers on the old wire do, with the legacy slots
behind a request id other than zero; `readTransactionV1001` reads what a v1001 client sends, with
the legacy slots behind a bool of their own.  The trailing data of the two versions are the same
structures with other codecs for some of their fields.
-/

namespace Endweave.V975ToV1001

open Wire

/-! ### Parts -/

def legacySetItemSlotType : FieldType LegacySetItemSlot where
  read := do
    let containerId ← byte.read
    let slots ← (arrayType byte).read
    pure { containerId, slots }
  write slot := do
    byte.write slot.containerId
    (arrayType byte).write slot.slots

/-- The legacy slots, if there are any. -/
def readLegacySlots (hasLegacy : Bool) :
    Parser PyException UInt8 { slots : List LegacySetItemSlot // hasLegacy = false → slots = [] } :=
  if h : hasLegacy then do
    let slots ← (arrayType legacySetItemSlotType).read
    pure ⟨slots, fun hno => absurd hno (by rw [h]; exact Bool.noConfusion)⟩
  else pure ⟨[], fun _ => rfl⟩

def writeLegacySlots (hasLegacy : Bool) (slots : List LegacySetItemSlot) :
    Printer PyException UInt8 Unit :=
  if hasLegacy then (arrayType legacySetItemSlotType).write slots else pure ()

def useItemType (actionType triggerType blockFace clientPrediction : FieldType Int)
    (item : FieldType ItemInstance) : FieldType UseItemData where
  read := do
    let actionType ← actionType.read
    let triggerType ← triggerType.read
    let blockPosition ← blockPos.read
    let blockFace ← blockFace.read
    let hotBarSlot ← varInt.read
    let heldItem ← item.read
    let position ← vec3.read
    let clickedPosition ← vec3.read
    let blockRuntimeId ← uvarInt.read
    let clientPrediction ← clientPrediction.read
    let clientCooldownState ← byte.read
    pure { actionType, triggerType, blockPosition, blockFace, hotBarSlot, heldItem, position,
           clickedPosition, blockRuntimeId, clientPrediction, clientCooldownState }
  write data := do
    actionType.write data.actionType
    triggerType.write data.triggerType
    blockPos.write data.blockPosition
    blockFace.write data.blockFace
    varInt.write data.hotBarSlot
    item.write data.heldItem
    vec3.write data.position
    vec3.write data.clickedPosition
    uvarInt.write data.blockRuntimeId
    clientPrediction.write data.clientPrediction
    byte.write data.clientCooldownState

def useItemOnEntityType (actionType : FieldType Int) (item : FieldType ItemInstance) :
    FieldType UseItemOnEntityData where
  read := do
    let targetEntityRuntimeId ← uvarInt64.read
    let actionType ← actionType.read
    let hotBarSlot ← varInt.read
    let heldItem ← item.read
    let position ← vec3.read
    let clickedPosition ← vec3.read
    pure { targetEntityRuntimeId, actionType, hotBarSlot, heldItem, position, clickedPosition }
  write data := do
    uvarInt64.write data.targetEntityRuntimeId
    actionType.write data.actionType
    varInt.write data.hotBarSlot
    item.write data.heldItem
    vec3.write data.position
    vec3.write data.clickedPosition

def releaseItemType (actionType : FieldType Int) (item : FieldType ItemInstance) :
    FieldType ReleaseItemData where
  read := do
    let actionType ← actionType.read
    let hotBarSlot ← varInt.read
    let heldItem ← item.read
    let headPosition ← vec3.read
    pure { actionType, hotBarSlot, heldItem, headPosition }
  write data := do
    actionType.write data.actionType
    varInt.write data.hotBarSlot
    item.write data.heldItem
    vec3.write data.headPosition

def useItemV975 : FieldType UseItemData := useItemType uvarInt uvarInt varInt uvarInt itemInstance

def useItemV1001 : FieldType UseItemData := useItemType varInt byte int8 byte itemInstanceV975

def useItemOnEntityV975 : FieldType UseItemOnEntityData := useItemOnEntityType uvarInt itemInstance

def useItemOnEntityV1001 : FieldType UseItemOnEntityData :=
  useItemOnEntityType varInt itemInstanceV975

def releaseItemV975 : FieldType ReleaseItemData := releaseItemType uvarInt itemInstance

def releaseItemV1001 : FieldType ReleaseItemData := releaseItemType varInt itemInstanceV975

/-- The trailing data, by the transaction type. -/
def readTransactionData (transactionType : Int) (useItem : FieldType UseItemData)
    (useItemOnEntity : FieldType UseItemOnEntityData) (releaseItem : FieldType ReleaseItemData) :
    Parser PyException UInt8 TransactionData :=
  if hUse : transactionType = ComplexInventoryTransactionType.itemUseTransaction.value then
    TransactionData.useItem <$> useItem.read
  else if hEntity :
      transactionType = ComplexInventoryTransactionType.itemUseOnEntityTransaction.value then
    TransactionData.useItemOnEntity <$> useItemOnEntity.read
  else if hRelease :
      transactionType = ComplexInventoryTransactionType.itemReleaseTransaction.value then
    TransactionData.releaseItem <$> releaseItem.read
  else pure (TransactionData.plain transactionType ⟨hUse, hEntity, hRelease⟩)

/-- The trailing data as the old wire has them. -/
def writeTransactionDataV975 : TransactionData → Printer PyException UInt8 Unit
  | .plain _ _ => pure ()
  | .useItem data => useItemV975.write data
  | .useItemOnEntity data => useItemOnEntityV975.write data
  | .releaseItem data => releaseItemV975.write data

/-! ### The old wire -/

def readTransactionV975 : Parser PyException UInt8 InventoryTransaction := do
  let legacyRequestId ← varInt.read
  let legacySlots ← readLegacySlots (legacyRequestId != 0)
  let transactionType ← uvarInt.read
  let actions ← (arrayType inventoryAction).read
  let data ← readTransactionData transactionType useItemV975 useItemOnEntityV975 releaseItemV975
  pure {
    legacyRequestId
    legacySlots := legacySlots.val
    legacySlots_of_zero := fun h => legacySlots.property (by rw [h]; rfl)
    actions
    data }

/-! ### The new wire -/

/-- What a v1001 client sends.  The sentinels that the handler discards are not part of it. -/
structure TransactionV1001 where
  legacyRequestId : Int
  hasLegacy : Bool
  legacySlots : List LegacySetItemSlot
  legacySlots_of_absent : hasLegacy = false → legacySlots = []
  actions : List InventoryAction
  data : TransactionData

/-- The packet on the old wire, but with the legacy slots behind the bool of the new one. -/
def TransactionV1001.writeV975 (p : TransactionV1001) : Printer PyException UInt8 Unit := do
  varInt.write p.legacyRequestId
  writeLegacySlots p.hasLegacy p.legacySlots
  uvarInt.write p.data.transactionType
  (arrayType inventoryAction).write p.actions
  writeTransactionDataV975 p.data

/-- A present sentinel, a gate and, behind it, the value. -/
def presence (T : FieldType Int) : Parser PyException UInt8 (Option Int) := do
  let _ ← bool.read
  let gate ← bool.read
  if gate then do
    let value ← T.read
    pure (some value)
  else pure none

def readActionV1001 : Parser PyException UInt8 InventoryAction := do
  let sourceType ← uvarInt.read
  let windowId ← presence int8
  let sourceFlags ← presence uvarInt
  let slot ← uvarInt.read
  let oldItem ← itemInstanceV975.read
  let newItem ← itemInstanceV975.read
  pure { sourceType, windowId, sourceFlags, slot, oldItem, newItem }

def readTransactionV1001 : Parser PyException UInt8 TransactionV1001 := do
  let legacyRequestId ← varInt.read
  let hasLegacy ← bool.read
  let legacySlots ← readLegacySlots hasLegacy
  let _ ← bool.read -- hasType
  let transactionType ← uvarInt.read
  let _ ← bool.read -- hasActions
  let actions ← (arrayType ⟨readActionV1001, inventoryAction.write⟩).read
  let data ← readTransactionData transactionType useItemV1001 useItemOnEntityV1001 releaseItemV1001
  pure {
    legacyRequestId
    hasLegacy
    legacySlots := legacySlots.val
    legacySlots_of_absent := legacySlots.property
    actions
    data }

/-! ### What the server receives -/

/-- The item of the trailing data, if they have one. -/
def TransactionData.heldItem : TransactionData → Option ItemInstance
  | .plain _ _ => none
  | .useItem data => some data.heldItem
  | .useItemOnEntity data => some data.heldItem
  | .releaseItem data => some data.heldItem

/-- A packet whose fields are as wide as the new wire has them. -/
structure TransactionV1001.Canonical (p : TransactionV1001) : Prop where
  legacyRequestId : InInt32 p.legacyRequestId
  legacySlots : p.legacySlots.length < 2 ^ 32 ∧ ∀ slot ∈ p.legacySlots, slot.Canonical
  transactionType : InUInt32 p.data.transactionType
  actions : p.actions.length < 2 ^ 32 ∧ ∀ action ∈ p.actions, action.CanonicalV1001
  heldItem : ∀ item, p.data.heldItem = some item → item.CanonicalV975

/-- The same stack of items, up to what only v975 has: the variant of the net id, and fields behind
the id of air.  The block runtime id is the same word of 32 bits. -/
structure SameStack (item item' : ItemInstance) : Prop where
  networkId : item'.networkId = item.networkId
  count : item.networkId ≠ 0 → item'.count = item.count
  auxValue : item.networkId ≠ 0 → item'.auxValue = item.auxValue
  hasNetId : item.networkId ≠ 0 → item'.hasNetId = item.hasNetId
  stackNetId : item.networkId ≠ 0 → item'.stackNetId = item.stackNetId
  blockRuntimeId : item.networkId ≠ 0 →
    item'.blockRuntimeId % 2 ^ 32 = item.blockRuntimeId % 2 ^ 32
  userData : item.networkId ≠ 0 → item'.userData = item.userData

/-- The same slot and items. -/
structure SameAction (same : ItemInstance → ItemInstance → Prop)
    (action action' : InventoryAction) : Prop where
  slot : action'.slot = action.slot
  oldItem : same action.oldItem action'.oldItem
  newItem : same action.newItem action'.newItem

/-- A server on the old wire reads the whole of `out` and finds there what has been sent. -/
def Received (same : ItemInstance → ItemInstance → Prop) (out : List UInt8) (p : TransactionV1001) :
    Prop :=
  ∃ q : InventoryTransaction, readTransactionV975 ⟨out, 0⟩ = .ok q ⟨out, out.length⟩ ∧
    q.legacyRequestId = p.legacyRequestId ∧ q.legacySlots = p.legacySlots ∧
    q.data.transactionType = p.data.transactionType ∧
    List.Forall₂ (SameAction same) p.actions q.actions

/-! ### Packets -/

def sampleItemV975 : ItemInstance where
  networkId := 5
  count := 3
  hasNetId := true
  stackNetId := 17
  blockRuntimeId := 7

/-- An item goes into an empty slot of a container, and two slots of another are reported. -/
def sampleTransactionV1001 : TransactionV1001 where
  legacyRequestId := -2
  hasLegacy := true
  legacySlots := [⟨28, [0, 8]⟩]
  legacySlots_of_absent := by decide
  actions := [⟨0, some (-1), none, 4, {}, sampleItemV975⟩]
  data := .plain 0 (by decide)

theorem sampleItemV975_canonical : sampleItemV975.CanonicalV975 := by constructor <;> decide

theorem airV975_canonical : ({} : ItemInstance).CanonicalV975 := by constructor <;> decide

theorem sampleTransactionV1001_canonical : sampleTransactionV1001.Canonical where
  legacyRequestId := by decide
  legacySlots := by
    refine ⟨by decide, ?_⟩
    intro slot hslot
    obtain rfl := List.mem_singleton.mp hslot
    constructor <;> decide
  transactionType := by decide
  actions := by
    refine ⟨by decide, ?_⟩
    intro action haction
    obtain rfl := List.mem_singleton.mp haction
    exact ⟨by decide, by decide, by decide, by decide, airV975_canonical, sampleItemV975_canonical⟩
  heldItem item hitem := by cases hitem

def samplePayloadV1001 : List UInt8 :=
  [3, 1, 1, 28, 2, 0, 8, 1, 0, 1, 1, 0, 1, 1, 255, 1, 0, 4, 0, 0, 0, 0, 0, 0, 0, 0, 5, 0, 3, 0, 0,
    1, 0, 34, 7, 0]

theorem samplePayloadV1001_reads : readTransactionV1001 ⟨samplePayloadV1001, 0⟩ =
    .ok sampleTransactionV1001 ⟨samplePayloadV1001, samplePayloadV1001.length⟩ := rfl

/-- A request id without slots, and nothing else. -/
def transactionWithoutSlots : TransactionV1001 where
  legacyRequestId := -2
  hasLegacy := false
  legacySlots := []
  legacySlots_of_absent := by decide
  actions := []
  data := .plain 0 (by decide)

theorem transactionWithoutSlots_canonical : transactionWithoutSlots.Canonical where
  legacyRequestId := by decide
  legacySlots := ⟨by decide, fun slot hslot => absurd hslot List.not_mem_nil⟩
  transactionType := by decide
  actions := ⟨by decide, fun action haction => absurd haction List.not_mem_nil⟩
  heldItem item hitem := by cases hitem

end Endweave.V975ToV1001
