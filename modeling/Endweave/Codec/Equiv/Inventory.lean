import Endweave.Codec.Equiv.Primitives
import Endweave.Codec.Types.Inventory

/-!
# Correctness of the item and inventory codecs

`itemInstance_roundTrips` and `inventoryAction_roundTrips` are about the old wire.  The v975
descriptor holds the block runtime id unsigned: `itemInstanceV975_codes` says what it reads back,
and `itemInstance_write_unsigned` that the old one does not notice.  `onOldWire` is what the old
descriptor reads back of any item of v975.
-/

namespace Endweave

open Wire PacketReader PacketWriter

/-! ### Items -/

/-- An item as the old descriptor holds it. -/
structure ItemInstance.CanonicalV944 (item : ItemInstance) : Prop where
  networkId : InInt32 item.networkId
  air : item.networkId = 0 → item = { networkId := 0 }
  count : InUInt16 item.count
  auxValue : InUInt32 item.auxValue
  stackNetId : InInt32 item.stackNetId
  noNetId : item.hasNetId = false → item.stackNetId = 0
  netIdVariant : item.netIdVariant = 0
  blockRuntimeId : InInt32 item.blockRuntimeId
  userData : item.userData.length < 2 ^ 32

/-- An item as the old descriptor holds it, with a network id of 16 bits. -/
structure ItemInstance.Canonical (item : ItemInstance) : Prop where
  networkId : InInt16 item.networkId
  air : item.networkId = 0 → item = { networkId := 0 }
  count : InUInt16 item.count
  auxValue : InUInt32 item.auxValue
  stackNetId : InInt32 item.stackNetId
  noNetId : item.hasNetId = false → item.stackNetId = 0
  netIdVariant : item.netIdVariant = 0
  blockRuntimeId : InInt32 item.blockRuntimeId
  userData : item.userData.length < 2 ^ 32

theorem ItemInstance.Canonical.canonicalV944 {item : ItemInstance} (h : item.Canonical) :
    item.CanonicalV944 where
  networkId := h.networkId.inInt32
  air := h.air
  count := h.count
  auxValue := h.auxValue
  stackNetId := h.stackNetId
  noNetId := h.noNetId
  netIdVariant := h.netIdVariant
  blockRuntimeId := h.blockRuntimeId
  userData := h.userData

theorem air_canonical : ({} : ItemInstance).Canonical := by constructor <;> decide

theorem userData_codes {userData : List UInt8} (h : userData.length < 2 ^ 32) :
    Codes (writeUserData userData) readUserData userData :=
  Codes.bind (uvarInt_roundTrips ⟨by omega, by omega⟩)
    ⟨_, writeBytes_writes _, readBytes_reads _⟩

theorem stackNetId_codes {item : ItemInstance} (h : item.CanonicalV944) :
    Codes (writeStackNetId item) (readStackNetId item.hasNetId) item.stackNetId := by
  unfold writeStackNetId readStackNetId
  cases hid : item.hasNetId with
  | false =>
    rw [h.noNetId hid]
    exact Codes.pure 0
  | true => exact varInt_roundTrips h.stackNetId

theorem itemFields_codes {item : ItemInstance} (h : item.CanonicalV944) :
    Codes (writeItemFields item) (readItemFields item.networkId) item := by
  apply Codes.bind (ushortLE_roundTrips h.count)
  apply Codes.bind (uvarInt_roundTrips h.auxValue)
  apply Codes.bind (bool_roundTrips _)
  apply Codes.bind (stackNetId_codes h)
  apply Codes.bind (varInt_roundTrips h.blockRuntimeId)
  refine Codes.last (userData_codes h.userData) ?_
  rw [← h.netIdVariant]

theorem itemInstanceV944_roundTrips {item : ItemInstance} (h : item.CanonicalV944) :
    itemInstance.RoundTrips item := by
  apply Codes.bind (varInt_roundTrips h.networkId)
  by_cases hair : item.networkId = 0
  · -- air: nothing is written behind the network id
    rw [if_pos hair, if_pos hair, h.air hair]
    exact Codes.pure _
  · rw [if_neg hair, if_neg hair]
    exact itemFields_codes h

theorem itemInstance_roundTrips {item : ItemInstance} (h : item.Canonical) :
    itemInstance.RoundTrips item := itemInstanceV944_roundTrips h.canonicalV944

/-- The item with the block runtime id as v975 holds it. -/
def ItemInstance.unsigned (item : ItemInstance) : ItemInstance :=
  { item with blockRuntimeId := item.blockRuntimeId % 2 ^ 32 }

theorem netId_codes {item : ItemInstance} (h : item.Canonical) :
    Codes (writeNetId item) (readNetId item.hasNetId) (item.netIdVariant, item.stackNetId) := by
  unfold writeNetId readNetId
  cases hid : item.hasNetId with
  | false =>
    rw [h.noNetId hid, h.netIdVariant]
    exact Codes.pure (0, 0)
  | true =>
    have hvariant : InUInt32 item.netIdVariant := by
      rw [h.netIdVariant]
      decide
    exact Codes.bind (uvarInt_roundTrips hvariant) (Codes.last (varInt_roundTrips h.stackNetId) rfl)

theorem itemInstanceV975_codes {item : ItemInstance} (h : item.Canonical) :
    Codes (itemInstanceV975.write item) itemInstanceV975.read item.unsigned := by
  apply Codes.bind (shortLE_roundTrips h.networkId)
  apply Codes.bind (ushortLE_roundTrips h.count)
  apply Codes.bind (uvarInt_roundTrips h.auxValue)
  apply Codes.bind (bool_roundTrips _)
  apply Codes.bind (netId_codes h)
  apply Codes.bind (uvarInt_codes item.blockRuntimeId)
  exact Codes.last (userData_codes h.userData) rfl

/-- The v975 descriptor writes a signed block runtime id as the unsigned one. -/
theorem itemInstanceV975_write_unsigned (item : ItemInstance) :
    itemInstanceV975.write item.unsigned = itemInstanceV975.write item := by
  have hnetId : writeNetId item.unsigned = writeNetId item := rfl
  have hblock : writeUVarint item.unsigned.blockRuntimeId = writeUVarint item.blockRuntimeId :=
    writeUVarint_emod item.blockRuntimeId
  simp only [itemInstanceV975, hnetId, hblock]
  rfl

theorem itemInstanceV975_unsigned_roundTrips {item : ItemInstance} (h : item.Canonical) :
    itemInstanceV975.RoundTrips item.unsigned := by
  rw [FieldType.RoundTrips, itemInstanceV975_write_unsigned]
  exact itemInstanceV975_codes h

/-- The old descriptor writes an unsigned block runtime id as the signed one. -/
theorem itemInstance_write_unsigned (item : ItemInstance) :
    itemInstance.write item.unsigned = itemInstance.write item := by
  have hfields : writeItemFields item.unsigned = writeItemFields item := by
    have hnetId : writeStackNetId item.unsigned = writeStackNetId item := rfl
    have hblock : writeVarint item.unsigned.blockRuntimeId = writeVarint item.blockRuntimeId :=
      writeVarint_emod item.blockRuntimeId
    rw [writeItemFields, writeItemFields, hnetId, hblock]
    rfl
  show (do
    writeVarint item.networkId
    if item.networkId = 0 then pure () else writeItemFields item.unsigned) = _
  rw [hfields]
  rfl

/-! ### Items of v975 on the old wire -/

/-- An item as the v975 descriptor holds it. -/
structure ItemInstance.CanonicalV975 (item : ItemInstance) : Prop where
  networkId : InInt16 item.networkId
  count : InUInt16 item.count
  auxValue : InUInt32 item.auxValue
  stackNetId : InInt32 item.stackNetId
  netIdVariant : InUInt32 item.netIdVariant
  noNetId : item.hasNetId = false → item.stackNetId = 0 ∧ item.netIdVariant = 0
  blockRuntimeId : InUInt32 item.blockRuntimeId
  userData : item.userData.length < 2 ^ 32

/-- What the old descriptor reads back: it has no variant, and nothing behind the id of air. -/
def ItemInstance.onOldWire (item : ItemInstance) : ItemInstance :=
  if item.networkId = 0 then { networkId := 0 }
  else { item with netIdVariant := 0, blockRuntimeId := wrapSigned 31 item.blockRuntimeId }

theorem ItemInstance.CanonicalV975.onOldWire {item : ItemInstance} (h : item.CanonicalV975) :
    item.onOldWire.Canonical := by
  unfold ItemInstance.onOldWire
  split_ifs with hair
  · constructor <;> decide
  · constructor
    · exact h.networkId
    · exact fun hzero => absurd hzero hair
    · exact h.count
    · exact h.auxValue
    · exact h.stackNetId
    · exact fun hno => (h.noNetId hno).1
    · rfl
    · exact wrapSigned_bounds 31 _
    · exact h.userData

theorem itemInstance_write_onOldWire (item : ItemInstance) :
    itemInstance.write item.onOldWire = itemInstance.write item := by
  unfold ItemInstance.onOldWire
  split_ifs with hair
  · -- air: the id is all that is written
    show (do writeVarint 0; pure ()) = (do
      writeVarint item.networkId
      if item.networkId = 0 then pure () else writeItemFields item)
    rw [if_pos hair, hair]
  · show (do
      writeVarint item.networkId
      if item.networkId = 0 then pure () else writeItemFields _) = _
    have hblock : writeVarint (wrapSigned 31 item.blockRuntimeId) =
        writeVarint item.blockRuntimeId := writeVarint_wrapSigned _
    have hfields : writeItemFields { item with
        netIdVariant := 0, blockRuntimeId := wrapSigned 31 item.blockRuntimeId } =
        writeItemFields item := by
      rw [writeItemFields, writeItemFields, hblock]
      rfl
    rw [hfields]
    rfl

/-- The old descriptor reads any item of v975. -/
theorem itemInstance_codes {item : ItemInstance} (h : item.CanonicalV975) :
    Codes (itemInstance.write item) itemInstance.read item.onOldWire := by
  rw [← itemInstance_write_onOldWire]
  exact itemInstance_roundTrips h.onOldWire

/-- The items of v975 that the old descriptor holds unchanged. -/
theorem ItemInstance.CanonicalV975.onOldWire_eq_iff {item : ItemInstance}
    (h : item.CanonicalV975) : item.onOldWire = item ↔ item.Canonical := by
  constructor
  · intro heq
    rw [← heq]
    exact h.onOldWire
  · intro hc
    unfold ItemInstance.onOldWire
    split_ifs with hair
    · exact (hc.air hair).symm
    · rw [wrapSigned_of_bounds hc.blockRuntimeId, ← hc.netIdVariant]

/-! ### Actions -/

/-- An action as v944 holds it: it carries a window id or source flags exactly when its source type
does. -/
structure InventoryAction.CanonicalV944 (action : InventoryAction) : Prop where
  sourceType : InUInt32 action.sourceType
  windowId_isSome : action.windowId.isSome = hasWindowId action.sourceType
  windowId : ∀ v, action.windowId = some v → InInt32 v
  sourceFlags_isSome : action.sourceFlags.isSome = hasSourceFlags action.sourceType
  sourceFlags : ∀ v, action.sourceFlags = some v → InUInt32 v
  slot : InUInt32 action.slot
  oldItem : action.oldItem.CanonicalV944
  newItem : action.newItem.CanonicalV944

/-- An action carries a window id or source flags exactly when its source type does. -/
structure InventoryAction.Canonical (action : InventoryAction) : Prop where
  sourceType : InUInt32 action.sourceType
  windowId_isSome : action.windowId.isSome = hasWindowId action.sourceType
  windowId : ∀ v, action.windowId = some v → InInt8 v
  sourceFlags_isSome : action.sourceFlags.isSome = hasSourceFlags action.sourceType
  sourceFlags : ∀ v, action.sourceFlags = some v → InUInt32 v
  slot : InUInt32 action.slot
  oldItem : action.oldItem.Canonical
  newItem : action.newItem.Canonical

theorem InventoryAction.Canonical.canonicalV944 {action : InventoryAction} (h : action.Canonical) :
    action.CanonicalV944 where
  sourceType := h.sourceType
  windowId_isSome := h.windowId_isSome
  windowId v hv := (h.windowId v hv).inInt32
  sourceFlags_isSome := h.sourceFlags_isSome
  sourceFlags := h.sourceFlags
  slot := h.slot
  oldItem := h.oldItem.canonicalV944
  newItem := h.newItem.canonicalV944

theorem hasSourceFlags_of_hasWindowId {sourceType : Int} (h : hasWindowId sourceType = true) :
    hasSourceFlags sourceType = false := by
  rw [hasWindowId, Bool.or_eq_true, beq_iff_eq, beq_iff_eq] at h
  rcases h with rfl | rfl <;> decide

theorem source_codes {action : InventoryAction} (h : action.CanonicalV944) :
    Codes (writeSource action) (readSource action.sourceType)
      (action.windowId, action.sourceFlags) := by
  unfold writeSource readSource
  cases hwindow : hasWindowId action.sourceType with
  | true =>
    obtain ⟨windowId, hsome⟩ := Option.isSome_iff_exists.mp (h.windowId_isSome.trans hwindow)
    have hnone : action.sourceFlags = none := by
      simpa [hasSourceFlags_of_hasWindowId hwindow] using h.sourceFlags_isSome
    rw [hsome, hnone]
    simp only [if_true, assertSome, pure_bind]
    exact Codes.last (varInt_roundTrips (h.windowId windowId hsome)) rfl
  | false =>
    have hnone : action.windowId = none := by simpa [hwindow] using h.windowId_isSome
    rw [hnone]
    cases hflags : hasSourceFlags action.sourceType with
    | true =>
      obtain ⟨flags, hsome⟩ := Option.isSome_iff_exists.mp (h.sourceFlags_isSome.trans hflags)
      rw [hsome]
      simp only [Bool.false_eq_true, if_true, if_false, assertSome, pure_bind]
      exact Codes.last (uvarInt_roundTrips (h.sourceFlags flags hsome)) rfl
    | false =>
      have hnone' : action.sourceFlags = none := by simpa [hflags] using h.sourceFlags_isSome
      rw [hnone']
      simp only [Bool.false_eq_true, if_false]
      exact Codes.pure (none, none)

theorem inventoryActionV944_roundTrips {action : InventoryAction} (h : action.CanonicalV944) :
    inventoryAction.RoundTrips action := by
  apply Codes.bind (uvarInt_roundTrips h.sourceType)
  apply Codes.bind (source_codes h)
  apply Codes.bind (uvarInt_roundTrips h.slot)
  apply Codes.bind (itemInstanceV944_roundTrips h.oldItem)
  exact Codes.last (itemInstanceV944_roundTrips h.newItem) rfl

theorem inventoryAction_roundTrips {action : InventoryAction} (h : action.Canonical) :
    inventoryAction.RoundTrips action := inventoryActionV944_roundTrips h.canonicalV944

/-- The action with its items as v975 holds them. -/
def InventoryAction.unsigned (action : InventoryAction) : InventoryAction :=
  { action with oldItem := action.oldItem.unsigned, newItem := action.newItem.unsigned }

theorem inventoryAction_write_unsigned (action : InventoryAction) :
    inventoryAction.write action.unsigned = inventoryAction.write action := by
  simp only [inventoryAction, InventoryAction.unsigned, writeSource, itemInstance_write_unsigned]

/-! ### Actions of v1001 on the old wire -/

/-- An action as v1001 holds it; its source may carry what its type does not. -/
structure InventoryAction.CanonicalV1001 (action : InventoryAction) : Prop where
  sourceType : InUInt32 action.sourceType
  windowId : ∀ v, action.windowId = some v → InInt8 v
  sourceFlags : ∀ v, action.sourceFlags = some v → InUInt32 v
  slot : InUInt32 action.slot
  oldItem : action.oldItem.CanonicalV975
  newItem : action.newItem.CanonicalV975

/-- What the source type needs is there. -/
structure InventoryAction.Sourced (action : InventoryAction) : Prop where
  windowId : hasWindowId action.sourceType = true → action.windowId.isSome = true
  sourceFlags : hasSourceFlags action.sourceType = true → action.sourceFlags.isSome = true

/-- What the old wire holds of an action. -/
def InventoryAction.onOldWire (action : InventoryAction) : InventoryAction where
  sourceType := action.sourceType
  windowId := if hasWindowId action.sourceType then action.windowId else none
  sourceFlags := if hasSourceFlags action.sourceType then action.sourceFlags else none
  slot := action.slot
  oldItem := action.oldItem.onOldWire
  newItem := action.newItem.onOldWire

theorem InventoryAction.CanonicalV1001.onOldWire {action : InventoryAction}
    (h : action.CanonicalV1001) (hs : action.Sourced) : action.onOldWire.Canonical where
  sourceType := h.sourceType
  windowId_isSome := by
    show (if hasWindowId action.sourceType then action.windowId else none).isSome = _
    split_ifs with hwindow
    · rw [hs.windowId hwindow]
      exact hwindow.symm
    · simp [InventoryAction.onOldWire, hwindow]
  windowId v hv := by
    change (if hasWindowId action.sourceType then action.windowId else none) = some v at hv
    split_ifs at hv
    exact h.windowId v hv
  sourceFlags_isSome := by
    show (if hasSourceFlags action.sourceType then action.sourceFlags else none).isSome = _
    split_ifs with hflags
    · rw [hs.sourceFlags hflags]
      exact hflags.symm
    · simp [InventoryAction.onOldWire, hflags]
  sourceFlags v hv := by
    change (if hasSourceFlags action.sourceType then action.sourceFlags else none) = some v at hv
    split_ifs at hv
    exact h.sourceFlags v hv
  slot := h.slot
  oldItem := h.oldItem.onOldWire
  newItem := h.newItem.onOldWire

theorem writeSource_onOldWire (action : InventoryAction) :
    writeSource action.onOldWire = writeSource action := by
  rw [writeSource, writeSource]
  simp only [InventoryAction.onOldWire]
  split_ifs <;> rfl

theorem inventoryAction_write_onOldWire (action : InventoryAction) :
    inventoryAction.write action.onOldWire = inventoryAction.write action := by
  simp only [inventoryAction, writeSource_onOldWire]
  simp only [InventoryAction.onOldWire, itemInstance_write_onOldWire]

/-- The old wire has a form for an action of v1001 whose source is complete. -/
theorem inventoryAction_codes {action : InventoryAction} (h : action.CanonicalV1001)
    (hs : action.Sourced) :
    Codes (inventoryAction.write action) inventoryAction.read action.onOldWire := by
  rw [← inventoryAction_write_onOldWire]
  exact inventoryAction_roundTrips (h.onOldWire hs)

theorem isSome_of_assertSome {σ : Type} {value : Option Int} {s s' : σ} {v : Int}
    (h : assertSome value s = .ok v s') : value.isSome = true := by
  cases value with
  | none => cases h
  | some v => rfl

/-- The writer asserts that the source is complete. -/
theorem sourced_of_write {action : InventoryAction} {out out' : List UInt8}
    (h : inventoryAction.write action out = .ok () out') : action.Sourced := by
  obtain ⟨_, s₁, _, h⟩ := bind_eq_ok h
  obtain ⟨_, s₂, hsource, _⟩ := bind_eq_ok h
  unfold writeSource at hsource
  split_ifs at hsource with hwindow hflags
  · obtain ⟨v, _, hv, _⟩ := bind_eq_ok hsource
    have hno := hasSourceFlags_of_hasWindowId hwindow
    exact ⟨fun _ => isSome_of_assertSome hv, fun hflags => absurd (hno.symm.trans hflags) (by simp)⟩
  · obtain ⟨v, _, hv, _⟩ := bind_eq_ok hsource
    exact ⟨fun hyes => absurd hyes hwindow, fun _ => isSome_of_assertSome hv⟩
  · exact ⟨fun hyes => absurd hyes hwindow, fun hyes => absurd hyes hflags⟩

end Endweave
