import Endweave.Codec.Equiv.Wrapper
import Endweave.Protocol.Packets.InventoryTransaction

/-!
# Correctness of the `InventoryTransaction` handlers

`rewriteInventoryTransactionClientbound_apply` and `rewriteInventoryTransaction_apply` say what the
two handlers make of a canonical packet; together they are inverse
(`rewriteInventoryTransaction_inverse`).
-/

namespace Endweave.V975ToV1001

open Wire PacketReader PacketWriter PacketWrapper

/-! ### Fields that change their type -/

section ActionType

variable {k : Unit → PacketHandler} {actionType : Int} {inp out : List UInt8}

/-- An action type goes from its unsigned field to a signed one. -/
theorem actionTypeOldToNew_rewrites (h : InUInt32 actionType) (hk : Rewrites (k ()) inp out ()) :
    Rewrites (PacketWrapper.read uvarInt >>= fun actionType => write varInt actionType >>= k)
      (uvarInt.bytes actionType ++ inp) (varInt.bytes actionType ++ out) () := by
  apply Rewrites.read (uvarInt_roundTrips h)
  exact Rewrites.writeThen (write_rewrites (varInt_codes actionType).writes) hk

/-- The unsigned field takes the action type back from its signed form. -/
theorem actionType_rewrites (h : InUInt32 actionType) (hk : Rewrites (k ()) inp out ()) :
    Rewrites (PacketWrapper.read varInt >>= fun actionType => write uvarInt actionType >>= k)
      (varInt.bytes actionType ++ inp) (uvarInt.bytes actionType ++ out) () := by
  have hwrap : uvarInt.write (wrapSigned 31 actionType) = uvarInt.write actionType :=
    writeUVarint_wrapSigned actionType
  have hwrite : Writes (uvarInt.write (wrapSigned 31 actionType)) (uvarInt.bytes actionType) := by
    rw [hwrap]
    exact (uvarInt_roundTrips h).writes
  apply Rewrites.readThen (read_rewrites (varInt_codes actionType).reads)
  exact Rewrites.writeThen (write_rewrites hwrite) hk

end ActionType

theorem itemOldToNew_rewrites {item : ItemInstance} (h : item.Canonical) :
    Rewrites (map itemInstance itemInstanceV975) (itemInstance.bytes item)
      (itemInstanceV975.bytes item) item :=
  map_rewrites (itemInstance_roundTrips h).reads (itemInstanceV975_codes h).writes

/-- The new descriptor gives the item back unsigned, and the old one does not notice. -/
theorem item_rewrites {item : ItemInstance} (h : item.Canonical) :
    Rewrites (map itemInstanceV975 itemInstance) (itemInstanceV975.bytes item)
      (itemInstance.bytes item) item.unsigned := by
  have hwrite : Writes (itemInstance.write item.unsigned) (itemInstance.bytes item) := by
    rw [itemInstance_write_unsigned]
    exact (itemInstance_roundTrips h).writes
  exact map_rewrites (itemInstanceV975_codes h).reads hwrite

/-! ### Legacy slots -/

theorem passthroughLegacySlot_rewrites {slot : LegacySetItemSlot} (h : slot.Canonical) :
    Rewrites passthroughLegacySlot slot.bytes slot.bytes () := by
  apply Rewrites.passthrough (byte_roundTrips h.containerId)
  refine passthroughLoop_rewrites h.slots.1 fun s hs => ?_
  rw [← List.append_nil (byte.bytes s)]
  exact Rewrites.passthrough (byte_roundTrips (h.slots.2 s hs)) (Rewrites.pure ())

theorem passthroughLegacySlots_rewrites {p : InventoryTransaction} (h : p.Canonical) :
    Rewrites (passthroughLegacySlots (p.legacyRequestId != 0)) p.legacySlotBytes p.legacySlotBytes
      () := by
  unfold passthroughLegacySlots InventoryTransaction.legacySlotBytes
  cases p.legacyRequestId != 0 with
  | false => exact Rewrites.pure ()
  | true =>
    exact passthroughLoop_rewrites h.legacySlots.1 fun slot hslot =>
      passthroughLegacySlot_rewrites (h.legacySlots.2 slot hslot)

/-! ### Actions -/

theorem writePresence_rewrites {T : FieldType Int} {value : Option Int}
    (h : ∀ v, value = some v → T.RoundTrips v) :
    Rewrites (writePresence T value.isSome value) [] (presenceBytes T value) () := by
  cases value with
  | none =>
    apply Rewrites.write (bool_roundTrips true)
    rw [← List.append_nil (bool.bytes _)]
    exact Rewrites.write (bool_roundTrips false) (Rewrites.pure ())
  | some v =>
    apply Rewrites.write (bool_roundTrips true)
    apply Rewrites.write (bool_roundTrips true)
    exact write_rewrites (h v rfl).writes

theorem readPresence_rewrites {T : FieldType Int} {value : Option Int}
    (h : ∀ v, value = some v → T.RoundTrips v) :
    Rewrites (readPresence T) (presenceBytes T value) [] value := by
  cases value with
  | none =>
    apply Rewrites.read (bool_roundTrips true)
    rw [← List.append_nil (bool.bytes _)]
    exact Rewrites.read (bool_roundTrips false) (Rewrites.pure none)
  | some v =>
    apply Rewrites.read (bool_roundTrips true)
    apply Rewrites.read (bool_roundTrips true)
    rw [← List.append_nil (T.bytes v)]
    exact Rewrites.read (h v rfl) (Rewrites.pure (some v))

theorem actionOldToNew_rewrites {action : InventoryAction} (h : action.Canonical) :
    Rewrites actionOldToNew (inventoryAction.bytes action) (actionBytesV1001 action) () := by
  rw [← List.append_nil (inventoryAction.bytes action)]
  simp only [actionBytesV1001, List.flatten_cons, List.flatten_nil]
  apply Rewrites.read (inventoryAction_roundTrips h)
  -- the gates are computed from the source type, and agree with what the action carries
  rw [← h.windowId_isSome, ← h.sourceFlags_isSome]
  apply Rewrites.write (uvarInt_roundTrips h.sourceType)
  refine Rewrites.writeThen (writePresence_rewrites fun v hv =>
    int8_roundTrips (h.windowId v hv)) ?_
  refine Rewrites.writeThen (writePresence_rewrites fun v hv =>
    uvarInt_roundTrips (h.sourceFlags v hv)) ?_
  apply Rewrites.write (uvarInt_roundTrips h.slot)
  apply Rewrites.writeThen (write_rewrites (itemInstanceV975_codes h.oldItem).writes)
  rw [List.append_nil]
  exact write_rewrites (itemInstanceV975_codes h.newItem).writes

theorem rewriteAction_rewrites {action : InventoryAction} (h : action.Canonical) :
    Rewrites rewriteAction (actionBytesV1001 action) (inventoryAction.bytes action) () := by
  simp only [actionBytesV1001, List.flatten_cons, List.flatten_nil]
  apply Rewrites.read (uvarInt_roundTrips h.sourceType)
  apply Rewrites.readThen (readPresence_rewrites fun v hv => int8_roundTrips (h.windowId v hv))
  refine Rewrites.readThen (readPresence_rewrites fun v hv =>
    uvarInt_roundTrips (h.sourceFlags v hv)) ?_
  apply Rewrites.read (uvarInt_roundTrips h.slot)
  apply Rewrites.readThen (read_rewrites (itemInstanceV975_codes h.oldItem).reads)
  apply Rewrites.readThen (read_rewrites (itemInstanceV975_codes h.newItem).reads)
  -- both items have come back with an unsigned block runtime id
  have hwrite : Writes (inventoryAction.write action.unsigned) (inventoryAction.bytes action) := by
    rw [inventoryAction_write_unsigned]
    exact (inventoryAction_roundTrips h).writes
  exact write_rewrites hwrite

/-! ### Transaction data -/

theorem useItemOldToNew_rewrites {data : UseItemData} (h : data.Canonical) :
    Rewrites useItemOldToNew data.bytesV975 data.bytesV1001 () := by
  simp only [UseItemData.bytesV975, UseItemData.bytesV1001, List.flatten_cons, List.flatten_nil]
  refine actionTypeOldToNew_rewrites h.actionType ?_
  apply Rewrites.read (uvarInt_roundTrips h.triggerType.inUInt32)
  apply Rewrites.write (byte_roundTrips h.triggerType)
  obtain ⟨hx, hy, hz⟩ := h.blockPosition
  apply Rewrites.passthrough (blockPos_roundTrips hx hy hz)
  apply Rewrites.read (varInt_roundTrips h.blockFace.inInt32)
  apply Rewrites.write (int8_roundTrips h.blockFace)
  apply Rewrites.passthrough (varInt_roundTrips h.hotBarSlot)
  refine (itemOldToNew_rewrites h.heldItem).bind ?_
  apply Rewrites.passthrough (vec3_roundTrips _)
  apply Rewrites.passthrough (vec3_roundTrips _)
  apply Rewrites.passthrough (uvarInt_roundTrips h.blockRuntimeId)
  apply Rewrites.read (uvarInt_roundTrips h.clientPrediction.inUInt32)
  apply Rewrites.write (byte_roundTrips h.clientPrediction)
  apply Rewrites.passthrough (byte_roundTrips h.clientCooldownState)
  exact Rewrites.pure ()

theorem rewriteUseItem_rewrites {data : UseItemData} (h : data.Canonical) :
    Rewrites rewriteUseItem data.bytesV1001 data.bytesV975 () := by
  simp only [UseItemData.bytesV975, UseItemData.bytesV1001, List.flatten_cons, List.flatten_nil]
  refine actionType_rewrites h.actionType ?_
  apply Rewrites.read (byte_roundTrips h.triggerType)
  apply Rewrites.write (uvarInt_roundTrips h.triggerType.inUInt32)
  obtain ⟨hx, hy, hz⟩ := h.blockPosition
  apply Rewrites.passthrough (blockPos_roundTrips hx hy hz)
  apply Rewrites.read (int8_roundTrips h.blockFace)
  apply Rewrites.write (varInt_roundTrips h.blockFace.inInt32)
  apply Rewrites.passthrough (varInt_roundTrips h.hotBarSlot)
  refine (item_rewrites h.heldItem).bind ?_
  apply Rewrites.passthrough (vec3_roundTrips _)
  apply Rewrites.passthrough (vec3_roundTrips _)
  apply Rewrites.passthrough (uvarInt_roundTrips h.blockRuntimeId)
  apply Rewrites.read (byte_roundTrips h.clientPrediction)
  apply Rewrites.write (uvarInt_roundTrips h.clientPrediction.inUInt32)
  apply Rewrites.passthrough (byte_roundTrips h.clientCooldownState)
  exact Rewrites.pure ()

theorem useItemOnEntityOldToNew_rewrites {data : UseItemOnEntityData} (h : data.Canonical) :
    Rewrites useItemOnEntityOldToNew data.bytesV975 data.bytesV1001 () := by
  simp only [UseItemOnEntityData.bytesV975, UseItemOnEntityData.bytesV1001, List.flatten_cons,
    List.flatten_nil]
  apply Rewrites.passthrough (uvarInt64_roundTrips h.targetEntityRuntimeId)
  refine actionTypeOldToNew_rewrites h.actionType ?_
  apply Rewrites.passthrough (varInt_roundTrips h.hotBarSlot)
  refine (itemOldToNew_rewrites h.heldItem).bind ?_
  apply Rewrites.passthrough (vec3_roundTrips _)
  apply Rewrites.passthrough (vec3_roundTrips _)
  exact Rewrites.pure ()

theorem rewriteUseItemOnEntity_rewrites {data : UseItemOnEntityData} (h : data.Canonical) :
    Rewrites rewriteUseItemOnEntity data.bytesV1001 data.bytesV975 () := by
  simp only [UseItemOnEntityData.bytesV975, UseItemOnEntityData.bytesV1001, List.flatten_cons,
    List.flatten_nil]
  apply Rewrites.passthrough (uvarInt64_roundTrips h.targetEntityRuntimeId)
  refine actionType_rewrites h.actionType ?_
  apply Rewrites.passthrough (varInt_roundTrips h.hotBarSlot)
  refine (item_rewrites h.heldItem).bind ?_
  apply Rewrites.passthrough (vec3_roundTrips _)
  apply Rewrites.passthrough (vec3_roundTrips _)
  exact Rewrites.pure ()

theorem releaseItemOldToNew_rewrites {data : ReleaseItemData} (h : data.Canonical) :
    Rewrites releaseItemOldToNew data.bytesV975 data.bytesV1001 () := by
  simp only [ReleaseItemData.bytesV975, ReleaseItemData.bytesV1001, List.flatten_cons,
    List.flatten_nil]
  refine actionTypeOldToNew_rewrites h.actionType ?_
  apply Rewrites.passthrough (varInt_roundTrips h.hotBarSlot)
  refine (itemOldToNew_rewrites h.heldItem).bind ?_
  apply Rewrites.passthrough (vec3_roundTrips _)
  exact Rewrites.pure ()

theorem rewriteReleaseItem_rewrites {data : ReleaseItemData} (h : data.Canonical) :
    Rewrites rewriteReleaseItem data.bytesV1001 data.bytesV975 () := by
  simp only [ReleaseItemData.bytesV975, ReleaseItemData.bytesV1001, List.flatten_cons,
    List.flatten_nil]
  refine actionType_rewrites h.actionType ?_
  apply Rewrites.passthrough (varInt_roundTrips h.hotBarSlot)
  refine (item_rewrites h.heldItem).bind ?_
  apply Rewrites.passthrough (vec3_roundTrips _)
  exact Rewrites.pure ()

/-- The transaction type selects the handler of its data. -/
theorem rewriteTransactionData_plain {transactionType : Int} (h : IsPlain transactionType)
    (useItem useItemOnEntity releaseItem : PacketHandler) :
    rewriteTransactionData transactionType useItem useItemOnEntity releaseItem = pure () := by
  rw [rewriteTransactionData, if_neg h.1, if_neg h.2.1, if_neg h.2.2]

theorem transactionDataOldToNew_rewrites {data : TransactionData} (h : data.Canonical) :
    Rewrites (rewriteTransactionData data.transactionType useItemOldToNew useItemOnEntityOldToNew
      releaseItemOldToNew) data.bytesV975 data.bytesV1001 () := by
  cases data with
  | plain transactionType isPlain =>
    rw [TransactionData.transactionType, rewriteTransactionData_plain isPlain]
    exact Rewrites.pure ()
  | useItem data => exact useItemOldToNew_rewrites h
  | useItemOnEntity data => exact useItemOnEntityOldToNew_rewrites h
  | releaseItem data => exact releaseItemOldToNew_rewrites h

theorem transactionData_rewrites {data : TransactionData} (h : data.Canonical) :
    Rewrites (rewriteTransactionData data.transactionType rewriteUseItem rewriteUseItemOnEntity
      rewriteReleaseItem) data.bytesV1001 data.bytesV975 () := by
  cases data with
  | plain transactionType isPlain =>
    rw [TransactionData.transactionType, rewriteTransactionData_plain isPlain]
    exact Rewrites.pure ()
  | useItem data => exact rewriteUseItem_rewrites h
  | useItemOnEntity data => exact rewriteUseItemOnEntity_rewrites h
  | releaseItem data => exact rewriteReleaseItem_rewrites h

/-! ### Whole packets -/

section

variable {p : InventoryTransaction} (h : p.Canonical) (user : UserConnection)
include h

omit user in
theorem rewriteInventoryTransactionClientbound_rewrites :
    Rewrites rewriteInventoryTransactionClientbound p.bytesV975 p.bytesV1001 () := by
  simp only [InventoryTransaction.bytesV975, InventoryTransaction.bytesV1001, List.flatten_cons,
    List.flatten_nil]
  apply Rewrites.passthrough (varInt_roundTrips h.legacyRequestId)
  apply Rewrites.write (bool_roundTrips _)
  refine (passthroughLegacySlots_rewrites h).bind ?_
  apply Rewrites.write (bool_roundTrips true)
  apply Rewrites.passthrough (uvarInt_roundTrips h.data.transactionType)
  apply Rewrites.write (bool_roundTrips true)
  refine (passthroughLoop_rewrites h.actions.1 fun action haction =>
    actionOldToNew_rewrites (h.actions.2 action haction)).bind ?_
  rw [List.append_nil, List.append_nil]
  exact transactionDataOldToNew_rewrites h.data

theorem rewriteInventoryTransactionClientbound_apply :
    rewriteInventoryTransactionClientbound.apply p.bytesV975 user = .ok p.bytesV1001 :=
  (rewriteInventoryTransactionClientbound_rewrites h).apply user

omit user in
theorem rewriteInventoryTransaction_rewrites :
    Rewrites rewriteInventoryTransaction p.bytesV1001 p.bytesV975 () := by
  simp only [InventoryTransaction.bytesV975, InventoryTransaction.bytesV1001, List.flatten_cons,
    List.flatten_nil]
  apply Rewrites.passthrough (varInt_roundTrips h.legacyRequestId)
  apply Rewrites.read (bool_roundTrips _)
  refine (passthroughLegacySlots_rewrites h).bind ?_
  apply Rewrites.read (bool_roundTrips true)
  apply Rewrites.passthrough (uvarInt_roundTrips h.data.transactionType)
  apply Rewrites.read (bool_roundTrips true)
  refine (passthroughLoop_rewrites h.actions.1 fun action haction =>
    rewriteAction_rewrites (h.actions.2 action haction)).bind ?_
  rw [List.append_nil, List.append_nil]
  exact transactionData_rewrites h.data

theorem rewriteInventoryTransaction_apply :
    rewriteInventoryTransaction.apply p.bytesV1001 user = .ok p.bytesV975 :=
  (rewriteInventoryTransaction_rewrites h).apply user

/-- **The two handlers are inverse**: what the server sent comes back from the client's wire byte
for byte, and neither handler raises. -/
theorem rewriteInventoryTransaction_inverse :
    PacketHandler.applyAll [rewriteInventoryTransactionClientbound, rewriteInventoryTransaction]
      p.bytesV975 user = .ok p.bytesV975 := by
  have hnew := rewriteInventoryTransactionClientbound_apply h user
  have hold := rewriteInventoryTransaction_apply h user
  rw [applyAll_cons hnew, applyAll_cons hold, applyAll_nil]

end

/-- The sample packet, to a v1001 client and back. -/
theorem rewriteInventoryTransaction_inverse_sample :
    PacketHandler.applyAll [rewriteInventoryTransactionClientbound, rewriteInventoryTransaction]
      sampleTransaction.bytesV975
      { address := "10.0.0.7:50123", clientProtocol := 1001, serverProtocol := 975 } =
        .ok sampleTransaction.bytesV975 :=
  rewriteInventoryTransaction_inverse sampleTransaction_canonical _

end Endweave.V975ToV1001
