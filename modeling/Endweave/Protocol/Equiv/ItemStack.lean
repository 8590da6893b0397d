import Endweave.Codec.Equiv.Converts
import Endweave.Protocol.Packets.ItemStack

/-!
# Correctness of the item stack handlers

`itemStacks_survive`: an item goes through the v975 descriptor and back without a change to its
bytes, so that the two branches of `MobEquipment` undo each other, and the packets that only go
clientbound have the same items, slots and container names in the grammar of the newer version.

The new descriptor holds the block runtime id unsigned, which `unsigned` says of an item and
`upgrade` of a packet.
-/

namespace Endweave

open Wire PacketReader PacketWriter PacketWrapper

/-! ### Items -/

section Items

variable {item : ItemInstance} (h : item.Canonical)

include h

theorem item_upgrades : Converts (map itemInstance itemInstanceV975) (itemInstance.write item)
    (itemInstanceV975.write item.unsigned) item := by
  rw [itemInstanceV975_write_unsigned]
  exact ⟨_, _, (itemInstance_roundTrips h).writes, (itemInstanceV975_codes h).writes,
    map_rewrites (itemInstance_roundTrips h).reads (itemInstanceV975_codes h).writes⟩

theorem item_downgrades : Converts (map itemInstanceV975 itemInstance)
    (itemInstanceV975.write item.unsigned) (itemInstance.write item) item.unsigned := by
  have hold := (itemInstance_roundTrips h).writes
  have hnew := itemInstanceV975_unsigned_roundTrips h
  -- the old writer takes an unsigned block runtime id for the negative one
  rw [← itemInstance_write_unsigned] at hold ⊢
  exact ⟨_, _, hnew.writes, hold, map_rewrites hnew.reads hold⟩

theorem upgradeItem_converts : Converts upgradeItem (itemInstance.write item)
    (itemInstanceV975.write item.unsigned) () :=
  (item_upgrades h).last rfl

end Items

theorem itemInstance_bytes_air {item : ItemInstance} (h : item.Canonical)
    (hair : item.networkId = 0) : itemInstance.bytes item = [0] := by
  rw [h.air hair]
  decide

/-! ### The new grammars -/

theorem fullContainerName_roundTrips {name : FullContainerName} (h : name.Canonical) :
    fullContainerName.RoundTrips name := by
  apply Codes.bind (byte_roundTrips h.containerId)
  exact Codes.last (optionalType_roundTrips fun id hid => uintLE_roundTrips (h.dynamicId id hid))
    rfl

theorem upgradeStorage_roundTrips {item : ItemInstance} (h : item.Canonical) :
    (optionalType itemInstanceV975).RoundTrips (upgradeStorage item) := by
  apply optionalType_roundTrips
  intro item' hitem
  unfold upgradeStorage at hitem
  split_ifs at hitem
  obtain rfl := Option.some.inj hitem
  exact itemInstanceV975_unsigned_roundTrips h

theorem inventorySlotV975_roundTrips {p : InventorySlotV944} (h : p.Canonical) :
    inventorySlotV975.RoundTrips p.upgrade := by
  apply Codes.bind (uvarInt_roundTrips h.containerId)
  apply Codes.bind (uvarInt_roundTrips h.slot)
  apply Codes.bind (optionalType_roundTrips fun name hname =>
    Option.some.inj hname ▸ fullContainerName_roundTrips h.containerName)
  apply Codes.bind (upgradeStorage_roundTrips h.storageItem)
  exact Codes.last (itemInstanceV975_unsigned_roundTrips h.newItem) rfl

theorem inventoryContentV1001_roundTrips {p : InventoryContent} (h : p.Canonical) :
    inventoryContentV1001.RoundTrips p.upgrade := by
  have hlen : (p.content.map ItemInstance.unsigned).length < 2 ^ 32 := by
    rw [List.length_map]
    exact h.length
  have hcontent : ∀ item ∈ p.content.map ItemInstance.unsigned,
      itemInstanceV975.RoundTrips item := by
    intro item hitem
    obtain ⟨old, hold, rfl⟩ := List.mem_map.mp hitem
    exact itemInstanceV975_unsigned_roundTrips (h.content old hold)
  apply Codes.bind (uvarInt_roundTrips h.windowId)
  apply Codes.bind (arrayType_roundTrips hlen hcontent)
  apply Codes.bind (fullContainerName_roundTrips h.containerName)
  exact Codes.last (itemInstanceV975_unsigned_roundTrips h.storageItem) rfl

theorem mobArmourEquipmentV1001_roundTrips {p : MobArmourEquipment} (h : p.Canonical) :
    mobArmourEquipmentV1001.RoundTrips p.upgrade := by
  apply Codes.bind (uvarInt64_roundTrips h.entityRuntimeId)
  apply Codes.bind (itemInstanceV975_unsigned_roundTrips h.helmet)
  apply Codes.bind (itemInstanceV975_unsigned_roundTrips h.chestplate)
  apply Codes.bind (itemInstanceV975_unsigned_roundTrips h.leggings)
  apply Codes.bind (itemInstanceV975_unsigned_roundTrips h.boots)
  exact Codes.last (itemInstanceV975_unsigned_roundTrips h.body) rfl

/-! ### Handlers -/

section MobEquipment

variable {p : MobEquipment} (h : p.Canonical)

include h

theorem rewriteMobEquipment_clientbound :
    Converts (V944ToV975.rewriteMobEquipment .clientbound) (mobEquipmentV944.write p)
      (mobEquipmentV975.write p.upgrade) () := by
  have hslot {v : Int} (hv : InByte v) :
      Converts (map byte uvarInt) (byte.write v) (uvarInt.write v) v :=
    converts_map (byte_roundTrips hv) (uvarInt_roundTrips hv.inUInt32)
  apply Converts.passthrough (uvarInt64_roundTrips h.targetRuntimeId)
  apply (item_upgrades h.item).bind
  apply (hslot h.slot).bind
  apply (hslot h.selectedSlot).bind
  exact (hslot h.containerId).last rfl

theorem rewriteMobEquipment_serverbound :
    Converts (V944ToV975.rewriteMobEquipment .serverbound) (mobEquipmentV975.write p.upgrade)
      (mobEquipmentV944.write p) () := by
  have hslot {v : Int} (hv : InByte v) :
      Converts (map uvarInt byte) (uvarInt.write v) (byte.write v) v :=
    converts_map (uvarInt_roundTrips hv.inUInt32) (byte_roundTrips hv)
  apply Converts.passthrough (uvarInt64_roundTrips h.targetRuntimeId)
  apply (item_downgrades h.item).bind
  apply (hslot h.slot).bind
  apply (hslot h.selectedSlot).bind
  exact (hslot h.containerId).last rfl

end MobEquipment

section Clientbound

/-- The bytes of a dynamic id, behind its flag. -/
def dynamicIdBytes (dynamicId : Option Int) : List UInt8 := dynamicId.toList.flatMap uintLE.bytes

theorem fullContainerName_writes {name : FullContainerName} (h : name.Canonical) :
    Writes (fullContainerName.write name) (byte.bytes name.containerId ++
      (bool.bytes name.dynamicId.isSome ++ dynamicIdBytes name.dynamicId)) :=
  (byte_roundTrips h.containerId).writes.bind
    (optionalType_writes fun id hid => uintLE_roundTrips (h.dynamicId id hid))

section DynamicId

variable {dynamicId : Option Int} (h : ∀ id, dynamicId = some id → InUInt32 id)

include h

theorem readDynamicId_rewrites : Rewrites (V944ToV975.readDynamicId dynamicId.isSome)
    (dynamicIdBytes dynamicId) [] (dynamicId.getD 0) := by
  cases dynamicId with
  | none => exact Rewrites.pure 0
  | some id =>
    rw [dynamicIdBytes, Option.toList_some, List.flatMap_singleton]
    exact read_rewrites (uintLE_roundTrips (h id rfl)).reads

theorem writeDynamicId_rewrites :
    Rewrites (V944ToV975.writeDynamicId dynamicId.isSome (dynamicId.getD 0)) []
      (dynamicIdBytes dynamicId) () := by
  cases dynamicId with
  | none => exact Rewrites.pure ()
  | some id =>
    rw [dynamicIdBytes, Option.toList_some, List.flatMap_singleton]
    exact write_rewrites (uintLE_roundTrips (h id rfl)).writes

theorem passthroughDynamicId_rewrites : Rewrites (passthroughIf dynamicId.isSome uintLE)
    (dynamicIdBytes dynamicId) (dynamicIdBytes dynamicId) () := by
  cases dynamicId with
  | none => exact Rewrites.pure ()
  | some id =>
    rw [dynamicIdBytes, Option.toList_some, List.flatMap_singleton]
    exact (passthrough_rewrites (uintLE_roundTrips (h id rfl))).discard

end DynamicId

theorem wrapContainerName_converts {name : FullContainerName} (h : name.Canonical) :
    Converts V944ToV975.wrapContainerName (fullContainerName.write name)
      ((optionalType fullContainerName).write (some name)) () := by
  have hname := fullContainerName_writes h
  have hid := byte_roundTrips h.containerId
  have hflag := bool_roundTrips name.dynamicId.isSome
  refine ⟨_, _, hname, (bool_roundTrips true).writes.bind hname, ?_⟩
  -- the handler reads the whole name before it writes the flag in front
  apply Rewrites.read hid
  apply Rewrites.read hflag
  rw [← List.append_nil (dynamicIdBytes name.dynamicId)]
  apply (readDynamicId_rewrites h.dynamicId).readThen
  apply Rewrites.write (bool_roundTrips true)
  apply Rewrites.write hid
  apply Rewrites.write hflag
  rw [List.append_nil]
  exact writeDynamicId_rewrites h.dynamicId

theorem unwrapStorage_converts {item : ItemInstance} (h : item.Canonical) :
    Converts V944ToV975.unwrapStorage (itemInstance.write item)
      ((optionalType itemInstanceV975).write (upgradeStorage item)) () := by
  unfold upgradeStorage
  rw [← bind_pure_unit (x := itemInstance.write item)]
  apply Converts.read (itemInstance_roundTrips h)
  split_ifs with hair
  -- air is sent as an absent item
  · exact converts_write (bool_roundTrips false)
  · have hnew := (itemInstanceV975_codes h).writes
    have hrewrites : Rewrites (do
        PacketWrapper.write bool true
        PacketWrapper.write itemInstanceV975 item) []
        (bool.bytes true ++ itemInstanceV975.bytes item) () :=
      Rewrites.write (bool_roundTrips true) (write_rewrites hnew)
    refine ⟨[], _, Writes.pure, ?_, hrewrites⟩
    show Writes (do
      bool.write true
      itemInstanceV975.write item.unsigned) _
    rw [itemInstanceV975_write_unsigned]
    exact (bool_roundTrips true).writes.bind hnew

theorem passthroughContainerName_converts {name : FullContainerName} (h : name.Canonical) :
    Converts V975ToV1001.passthroughContainerName (fullContainerName.write name)
      (fullContainerName.write name) () := by
  have hname := fullContainerName_writes h
  refine ⟨_, _, hname, hname, ?_⟩
  apply Rewrites.passthrough (byte_roundTrips h.containerId)
  apply Rewrites.passthrough (bool_roundTrips name.dynamicId.isSome)
  exact passthroughDynamicId_rewrites h.dynamicId

theorem rewriteInventorySlot_converts {p : InventorySlotV944} (h : p.Canonical) :
    Converts V944ToV975.rewriteInventorySlot (inventorySlotV944.write p)
      (inventorySlotV975.write p.upgrade) () := by
  apply Converts.passthrough (uvarInt_roundTrips h.containerId)
  apply Converts.passthrough (uvarInt_roundTrips h.slot)
  apply (wrapContainerName_converts h.containerName).bind
  apply (unwrapStorage_converts h.storageItem).bind
  exact upgradeItem_converts h.newItem

theorem rewriteInventoryContent_converts {p : InventoryContent} (h : p.Canonical) :
    Converts V975ToV1001.rewriteInventoryContent (inventoryContentV975.write p)
      (inventoryContentV1001.write p.upgrade) () := by
  apply Converts.passthrough (uvarInt_roundTrips h.windowId)
  apply (converts_passthroughLoop h.length fun item hitem =>
    upgradeItem_converts (h.content item hitem)).bind
  apply (passthroughContainerName_converts h.containerName).bind
  exact upgradeItem_converts h.storageItem

theorem rewriteMobArmourEquipment_converts {p : MobArmourEquipment} (h : p.Canonical) :
    Converts V975ToV1001.rewriteMobArmourEquipment (mobArmourEquipmentV975.write p)
      (mobArmourEquipmentV1001.write p.upgrade) () := by
  apply Converts.passthrough (uvarInt64_roundTrips h.entityRuntimeId)
  apply (upgradeItem_converts h.helmet).bind
  apply (upgradeItem_converts h.chestplate).bind
  apply (upgradeItem_converts h.leggings).bind
  apply (upgradeItem_converts h.boots).bind
  exact (upgradeItem_converts h.body).last rfl

end Clientbound

/-! ### The result -/

/-- **Items in the new format**: any item comes back from the v975 descriptor with the bytes it went
with, and both readers stop behind them; the serverbound branch of `MobEquipment` undoes the
clientbound one; `InventorySlot`, `InventoryContent` and `MobArmourEquipment` are packets of the
newer version with the same items, slots and container names. -/
theorem itemStacks_survive (user : UserConnection) :
    (∀ item : ItemInstance, item.Canonical →
      (item.networkId = 0 → itemInstance.bytes item = [0]) ∧
      Reads itemInstance.read (itemInstance.bytes item) item ∧
      ∃ bs item', Writes (itemInstanceV975.write item) bs ∧
        Reads itemInstanceV975.read bs item' ∧
        Writes (itemInstance.write item') (itemInstance.bytes item)) ∧
    (∀ p : MobEquipment, p.Canonical → ∀ suf,
      PacketHandler.applyAll [V944ToV975.rewriteMobEquipment .clientbound,
        V944ToV975.rewriteMobEquipment .serverbound] (mobEquipmentV944.bytes p ++ suf) user =
          .ok (mobEquipmentV944.bytes p ++ suf)) ∧
    (∀ p : InventorySlotV944, p.Canonical →
      ∃ out, V944ToV975.rewriteInventorySlot.apply (inventorySlotV944.bytes p) user = .ok out ∧
        inventorySlotV975.Parses out p.upgrade) ∧
    (∀ p : InventoryContent, p.Canonical →
      ∃ out, V975ToV1001.rewriteInventoryContent.apply (inventoryContentV975.bytes p) user =
          .ok out ∧
        inventoryContentV1001.Parses out p.upgrade) ∧
    ∀ p : MobArmourEquipment, p.Canonical →
      ∃ out, V975ToV1001.rewriteMobArmourEquipment.apply (mobArmourEquipmentV975.bytes p) user =
          .ok out ∧
        mobArmourEquipmentV1001.Parses out p.upgrade := by
  refine ⟨fun item h => ?_, fun p h suf => ?_, fun p h => ?_, fun p h => ?_, fun p h => ?_⟩
  · have hold := itemInstance_roundTrips h
    have hnew := itemInstanceV975_codes h
    refine ⟨itemInstance_bytes_air h, hold.reads, _, _, hnew.writes, hnew.reads, ?_⟩
    rw [itemInstance_write_unsigned]
    exact hold.writes
  · have hup := (rewriteMobEquipment_clientbound h).rewrites
    have hdown := (rewriteMobEquipment_serverbound h).rewrites
    rw [applyAll_cons (apply_of_rewrites hup suf user), applyAll_singleton]
    exact apply_of_rewrites hdown suf user
  · exact (rewriteInventorySlot_converts h).parses (inventorySlotV975_roundTrips h) user
  · exact (rewriteInventoryContent_converts h).parses (inventoryContentV1001_roundTrips h) user
  · exact (rewriteMobArmourEquipment_converts h).parses (mobArmourEquipmentV1001_roundTrips h) user

/-- A stack with a stack network id and a negative block runtime id. -/
def sampleStack : ItemInstance where
  networkId := -12
  count := 64
  auxValue := 3
  hasNetId := true
  stackNetId := 7
  blockRuntimeId := -1
  userData := [1, 2, 3]

theorem sampleStack_canonical : sampleStack.Canonical := by
  constructor <;> decide

def sampleContainerName : FullContainerName := ⟨12, some 4294967295⟩

theorem sampleContainerName_canonical : sampleContainerName.Canonical := by
  refine ⟨by decide, fun id hid => ?_⟩
  obtain rfl := Option.some.inj hid
  decide

theorem itemStacks_survive_sample :
    (∃ bs item', Writes (itemInstanceV975.write sampleStack) bs ∧
      Reads itemInstanceV975.read bs item' ∧
      Writes (itemInstance.write item') (itemInstance.bytes sampleStack)) ∧
    PacketHandler.applyAll [V944ToV975.rewriteMobEquipment .clientbound,
      V944ToV975.rewriteMobEquipment .serverbound]
      (mobEquipmentV944.bytes ⟨1, sampleStack, 0, 8, 124⟩ ++ []) { address := "a" } =
        .ok (mobEquipmentV944.bytes ⟨1, sampleStack, 0, 8, 124⟩ ++ []) ∧
    (∃ out, V944ToV975.rewriteInventorySlot.apply
        (inventorySlotV944.bytes ⟨0, 3, sampleContainerName, {}, sampleStack⟩)
        { address := "a" } = .ok out ∧
      inventorySlotV975.Parses out
        ⟨0, 3, some sampleContainerName, none, sampleStack.unsigned⟩) ∧
    (∃ out, V975ToV1001.rewriteInventoryContent.apply
        (inventoryContentV975.bytes ⟨0, [{}, sampleStack], sampleContainerName, {}⟩)
        { address := "a" } = .ok out ∧
      inventoryContentV1001.Parses out
        ⟨0, [{}, sampleStack.unsigned], sampleContainerName, {}⟩) ∧
    ∃ out, V975ToV1001.rewriteMobArmourEquipment.apply
        (mobArmourEquipmentV975.bytes ⟨1, sampleStack, {}, {}, {}, {}⟩)
        { address := "a" } = .ok out ∧
      mobArmourEquipmentV1001.Parses out ⟨1, sampleStack.unsigned, {}, {}, {}, {}⟩ := by
  have h := sampleStack_canonical
  have hname := sampleContainerName_canonical
  obtain ⟨hitem, hequipment, hslot, hcontent, harmour⟩ := itemStacks_survive { address := "a" }
  refine ⟨(hitem _ h).2.2, hequipment _ ⟨by decide, h, by decide, by decide, by decide⟩ [],
    hslot _ ⟨by decide, by decide, hname, air_canonical, h⟩,
    hcontent _ ⟨by decide, by decide, ?_, hname, air_canonical⟩,
    harmour _ ⟨by decide, h, air_canonical, air_canonical, air_canonical, air_canonical⟩⟩
  intro item hmem
  rcases List.mem_pair.mp hmem with rfl | rfl
  · exact air_canonical
  · exact h

end Endweave
