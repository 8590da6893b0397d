import Endweave.Protocol.Equiv.BlockPos
import Endweave.Protocol.Equiv.InventoryTransaction
import Endweave.Protocol.Packets.ServerboundBlockPos

/-!
# Correctness of the block position handlers for packets of the client

`clientBlockPos_inverse`: on every serverbound packet with block positions the step from v944 to
v924 succeeds, leaves the fields and adds at most the cooldown state of an item use, and the step
from v924 to v944 undoes it.

As in the other direction, each body is walked through once, for any two codecs of positions.
-/

namespace Endweave

open Wire PacketWrapper

/-! ### Parts without a position -/

theorem legacySlots_rewrites {p : ItemTransaction} (h : p.Canonical) :
    Rewrites (V975ToV1001.passthroughLegacySlots (p.legacyRequestId != 0)) p.legacySlotBytes
      p.legacySlotBytes () := by
  unfold V975ToV1001.passthroughLegacySlots ItemTransaction.legacySlotBytes
  cases p.legacyRequestId != 0 with
  | false => exact Rewrites.pure ()
  | true =>
    exact passthroughLoop_rewrites h.legacySlots.1 fun slot hslot =>
      V975ToV1001.passthroughLegacySlot_rewrites (h.legacySlots.2 slot hslot)

theorem TransactionBody.Canonical.transactionType {body : TransactionBody} (h : body.Canonical) :
    InUInt32 body.transactionType := by
  cases body with
  | useItem data => exact (by decide : InUInt32 2)
  | other transactionType notItemUse => exact h

theorem TransactionBody.behind_nil (body : TransactionBody) : body.behind [] = [] := by
  cases body <;> rfl

/-! ### Positions -/

section Bodies

variable {old new : BlockPosType} (hold : ExactPositions old) (hnew : ExactPositions new)

include hold hnew

theorem position_rewrites {v : BlockPosition} (h : BlockPosition.Canonical v) :
    Rewrites (map old new) (old.bytes v) (new.bytes v) v :=
  map_rewrites (hold v h).reads (hnew v h).writes

/-- A position, then the rest. -/
theorem Rewrites.position {α : Type} {k : BlockPosition → WrapperM α} {v : BlockPosition}
    {inp out : List UInt8} {a : α} (h : BlockPosition.Canonical v) (hk : Rewrites (k v) inp out a) :
    Rewrites (map old new >>= k) (old.bytes v ++ inp) (new.bytes v ++ out) a :=
  (position_rewrites hold hnew h).bind hk

/-! ### Structure settings -/

omit hnew in
theorem structureSettings_roundTrips {s : StructureSettings} (h : s.Canonical) :
    (structureSettingsType old).RoundTrips s := by
  apply Codes.bind (string_roundTrips h.paletteName)
  apply Codes.bind (bool_roundTrips s.ignoreEntities)
  apply Codes.bind (bool_roundTrips s.ignoreBlocks)
  apply Codes.bind (bool_roundTrips s.allowNonTickingChunks)
  apply Codes.bind (hold _ h.size)
  apply Codes.bind (hold _ h.offset)
  apply Codes.bind (varInt64_roundTrips h.lastEditPlayer)
  apply Codes.bind (byte_roundTrips h.rotation)
  apply Codes.bind (byte_roundTrips h.mirror)
  apply Codes.bind (byte_roundTrips h.animationMode)
  apply Codes.bind (floatLE_roundTrips s.animationSeconds)
  apply Codes.bind (floatLE_roundTrips s.integrityValue)
  apply Codes.bind (uintLE_roundTrips h.integritySeed)
  exact Codes.last (vec3_roundTrips s.pivot) rfl

theorem settings_rewrites {s : StructureSettings} (h : s.Canonical) :
    Rewrites (map (structureSettingsType old) (structureSettingsType new))
      ((structureSettingsType old).bytes s) ((structureSettingsType new).bytes s) s :=
  map_rewrites (structureSettings_roundTrips hold h).reads
    (structureSettings_roundTrips hnew h).writes

/-! ### Transactions -/

section Transaction

variable {cooldown : PacketHandler} {cin cout : List UInt8} (hcool : Rewrites cooldown cin cout ())

include hcool

theorem mapUseItem_rewrites {data : ItemUse} (h : data.Canonical) :
    Rewrites (mapUseItem old new cooldown) (data.bytes old ++ cin) (data.bytes new ++ cout) () := by
  simp only [ItemUse.bytes, List.append_assoc]
  apply Rewrites.passthrough (uvarInt_roundTrips h.actionType)
  apply Rewrites.passthrough (uvarInt_roundTrips h.triggerType)
  apply Rewrites.position hold hnew h.blockPosition
  apply Rewrites.passthrough (varInt_roundTrips h.blockFace)
  apply Rewrites.passthrough (varInt_roundTrips h.hotBarSlot)
  apply Rewrites.passthrough (itemInstanceV944_roundTrips h.heldItem)
  apply Rewrites.passthrough (vec3_roundTrips data.position)
  apply Rewrites.passthrough (vec3_roundTrips data.clickedPosition)
  apply Rewrites.passthrough (uvarInt_roundTrips h.blockRuntimeId)
  apply Rewrites.passthrough (uvarInt_roundTrips h.clientPrediction)
  exact hcool

theorem mapTransactionBody_rewrites {body : TransactionBody} (h : body.Canonical) :
    Rewrites (if body.transactionType ≠ itemUse then pure () else mapUseItem old new cooldown)
      (body.bytes old ++ body.behind cin) (body.bytes new ++ body.behind cout) () := by
  cases body with
  | useItem data =>
    rw [if_neg (by rw [TransactionBody.transactionType, not_not])]
    exact mapUseItem_rewrites hold hnew hcool h
  | other transactionType notItemUse =>
    rw [if_pos (by exact notItemUse)]
    exact Rewrites.pure ()

theorem mapInventoryTransaction_rewrites {p : ItemTransaction} (h : p.Canonical) :
    Rewrites (mapInventoryTransaction old new cooldown) (p.bytes old ++ p.body.behind cin)
      (p.bytes new ++ p.body.behind cout) () := by
  have haction : ∀ action ∈ p.actions, Rewrites passthroughAction (inventoryAction.bytes action)
      (inventoryAction.bytes action) () := fun action haction =>
    (passthrough_rewrites (inventoryActionV944_roundTrips (h.actions.2 action haction))).last rfl
  simp only [ItemTransaction.bytes, List.append_assoc]
  apply Rewrites.passthrough (varInt_roundTrips h.legacyRequestId)
  apply (legacySlots_rewrites h).bind
  apply Rewrites.passthrough (uvarInt_roundTrips h.body.transactionType)
  apply (passthroughLoop_rewrites h.actions.1 haction).bind
  exact mapTransactionBody_rewrites hold hnew hcool h.body

end Transaction

/-! ### The other packets -/

theorem mapPlayerAction_rewrites {p : PlayerAction} (h : p.Canonical) :
    Rewrites (mapPlayerAction old new) (p.bytes old) (p.bytes new) () := by
  apply Rewrites.passthrough (uvarInt64_roundTrips h.playerRuntimeId)
  apply Rewrites.passthrough (uvarInt_roundTrips h.action)
  apply Rewrites.position hold hnew h.blockPosition
  exact (position_rewrites hold hnew h.resultPosition).last rfl

theorem mapStructureBlockUpdate_rewrites {p : StructureBlockUpdate} (h : p.Canonical) :
    Rewrites (mapStructureBlockUpdate old new (structureSettingsType old)
      (structureSettingsType new)) (p.bytes old) (p.bytes new) () := by
  apply Rewrites.position hold hnew h.position
  apply Rewrites.passthrough (string_roundTrips h.name)
  apply Rewrites.passthrough (string_roundTrips h.dataField)
  apply Rewrites.passthrough (bool_roundTrips p.includePlayers)
  apply Rewrites.passthrough (bool_roundTrips p.showBoundingBox)
  apply Rewrites.passthrough (varInt_roundTrips h.structureBlockType)
  exact (settings_rewrites hold hnew h.settings).last rfl

theorem mapCommandBlockUpdate_rewrites {position : Option BlockPosition}
    (h : ∀ v, position = some v → BlockPosition.Canonical v) :
    Rewrites (mapCommandBlockUpdate old new) (commandBlockUpdateBytes old position)
      (commandBlockUpdateBytes new position) () := by
  apply Rewrites.passthrough (bool_roundTrips position.isSome)
  cases position with
  | none => exact Rewrites.pure ()
  | some v =>
    rw [Option.toList_some, List.flatMap_singleton, List.flatMap_singleton]
    exact (position_rewrites hold hnew (h v rfl)).last rfl

theorem mapStructureTemplateDataRequest_rewrites {p : StructureTemplateDataRequest}
    (h : p.Canonical) :
    Rewrites (mapStructureTemplateDataRequest old new (structureSettingsType old)
      (structureSettingsType new)) (p.bytes old) (p.bytes new) () := by
  apply Rewrites.passthrough (string_roundTrips h.name)
  apply Rewrites.position hold hnew h.position
  exact (settings_rewrites hold hnew h.settings).last rfl

theorem mapAnvilDamage_rewrites {p : AnvilDamage} (h : p.Canonical) :
    Rewrites (mapAnvilDamage old new) (p.bytes old) (p.bytes new) () := by
  apply Rewrites.passthrough (byte_roundTrips h.damage)
  exact (position_rewrites hold hnew h.position).last rfl

end Bodies

/-! ### Both directions -/

namespace ClientBlockPosPacket

/-- The handler that v944 to v924 runs on a packet of the client. -/
def upgradeHandler : ClientBlockPosPacket → PacketHandler
  | inventoryTransaction => V944ToV924.rewriteInventoryTransaction
  | playerAction => V944ToV924.rewritePlayerAction
  | commandBlockUpdate => V944ToV924.rewriteCommandBlockUpdate
  | structureBlockUpdate => V944ToV924.rewriteStructureBlockUpdate
  | structureTemplateDataRequest => V944ToV924.rewriteStructureTemplateDataRequest
  | blockActorData => V944ToV924.rewriteFirstNetToBlock
  | anvilDamage => V944ToV924.rewriteAnvilDamage
  | lecternUpdate => V944ToV924.rewriteLecternUpdate .serverbound

/-- The handler that v924 to v944 runs on it. -/
def downgradeHandler : ClientBlockPosPacket → PacketHandler
  | inventoryTransaction => V924ToV944.rewriteInventoryTransaction
  | playerAction => V924ToV944.rewritePlayerAction
  | commandBlockUpdate => V924ToV944.rewriteCommandBlockUpdate
  | structureBlockUpdate => V924ToV944.rewriteStructureBlockUpdate
  | structureTemplateDataRequest => V924ToV944.rewriteStructureTemplateDataRequest
  | blockActorData => V924ToV944.rewriteFirstBlockToNetBlock
  | anvilDamage => V924ToV944.rewriteAnvilDamage
  | lecternUpdate => V924ToV944.rewriteLecternUpdate .serverbound

theorem transform_upgrade (k : ClientBlockPosPacket) (other : OtherHandlers) :
    (V944ToV924.createProtocol (V944ToV924.blockPosHandlers other)).transform .serverbound
      k.packetId = k.upgradeHandler := by
  cases k <;> simp +decide [Protocol.transform, V944ToV924.createProtocol, packetId,
    upgradeHandler, V944ToV924.blockPosHandlers]

theorem transform_downgrade (k : ClientBlockPosPacket) (other : OtherHandlers) :
    (V924ToV944.createProtocol (V924ToV944.blockPosHandlers other)).transform .serverbound
      k.packetId = k.downgradeHandler := by
  cases k <;> simp +decide [Protocol.transform, V924ToV944.createProtocol, packetId,
    downgradeHandler, V924ToV944.blockPosHandlers]

theorem addCooldownState_rewrites : Rewrites V944ToV924.addCooldownState [] [0] () :=
  write_rewrites (byte_roundTrips (by decide)).writes

theorem stripCooldownState_rewrites : Rewrites V924ToV944.stripCooldownState [0] [] () :=
  (read_rewrites (byte_roundTrips (v := 0) (by decide)).reads).last rfl

/-- Both handlers at once: the body of a kind, for two codecs of positions and a handler for the
cooldown state. -/
def mapHandler (old new : BlockPosType) (cooldown : PacketHandler) :
    ClientBlockPosPacket → PacketHandler
  | inventoryTransaction => mapInventoryTransaction old new cooldown
  | playerAction => mapPlayerAction old new
  | commandBlockUpdate => mapCommandBlockUpdate old new
  | structureBlockUpdate =>
    mapStructureBlockUpdate old new (structureSettingsType old) (structureSettingsType new)
  | structureTemplateDataRequest =>
    mapStructureTemplateDataRequest old new (structureSettingsType old) (structureSettingsType new)
  | blockActorData => mapFirst old new
  | anvilDamage => mapAnvilDamage old new
  | lecternUpdate => mapLecternUpdate old new

theorem upgradeHandler_eq (k : ClientBlockPosPacket) :
    k.upgradeHandler = k.mapHandler networkBlockPos blockPos V944ToV924.addCooldownState := by
  cases k <;> rfl

theorem downgradeHandler_eq (k : ClientBlockPosPacket) :
    k.downgradeHandler = k.mapHandler blockPos networkBlockPos V924ToV944.stripCooldownState := by
  cases k <;> rfl

/-- What a wire has behind the fields: `cooldown`, behind an item use. -/
def behind (cooldown : List UInt8) : (k : ClientBlockPosPacket) → k.Data → List UInt8
  | inventoryTransaction, p => (ItemTransaction.body p).behind cooldown
  | playerAction, _ | commandBlockUpdate, _ | structureBlockUpdate, _
  | structureTemplateDataRequest, _ | blockActorData, _ | anvilDamage, _ | lecternUpdate, _ => []

theorem behind_zero (k : ClientBlockPosPacket) (d : k.Data) :
    k.behind [0] d = k.cooldownState d := by
  cases k <;> rfl

theorem behind_nil (k : ClientBlockPosPacket) (d : k.Data) : k.behind [] d = [] := by
  cases k with
  | inventoryTransaction => exact TransactionBody.behind_nil _
  | _ => rfl

theorem mapHandler_rewrites {old new : BlockPosType} (hold : ExactPositions old)
    (hnew : ExactPositions new) {cooldown : PacketHandler} {cin cout : List UInt8}
    (hcool : Rewrites cooldown cin cout ()) (k : ClientBlockPosPacket) {d : k.Data}
    (h : k.Canonical d) :
    Rewrites (k.mapHandler old new cooldown) (k.bytes old d ++ k.behind cin d)
      (k.bytes new d ++ k.behind cout d) () := by
  cases k with
  | inventoryTransaction => exact mapInventoryTransaction_rewrites hold hnew hcool h
  | playerAction =>
    rw [behind, behind, List.append_nil, List.append_nil]
    exact mapPlayerAction_rewrites hold hnew h
  | commandBlockUpdate =>
    rw [behind, behind, List.append_nil, List.append_nil]
    exact mapCommandBlockUpdate_rewrites hold hnew h
  | structureBlockUpdate =>
    rw [behind, behind, List.append_nil, List.append_nil]
    exact mapStructureBlockUpdate_rewrites hold hnew h
  | structureTemplateDataRequest =>
    rw [behind, behind, List.append_nil, List.append_nil]
    exact mapStructureTemplateDataRequest_rewrites hold hnew h
  | blockActorData =>
    rw [behind, behind, List.append_nil, List.append_nil]
    exact (position_rewrites hold hnew h).last rfl
  | anvilDamage =>
    rw [behind, behind, List.append_nil, List.append_nil]
    exact mapAnvilDamage_rewrites hold hnew h
  | lecternUpdate =>
    rw [behind, behind, List.append_nil, List.append_nil]
    exact (mapLecternUpdate_converts hold hnew h).rewrites

theorem upgradeHandler_rewrites (k : ClientBlockPosPacket) {d : k.Data} (h : k.Canonical d) :
    Rewrites k.upgradeHandler (k.bytes networkBlockPos d)
      (k.bytes blockPos d ++ k.cooldownState d) () := by
  have hmap := mapHandler_rewrites networkBlockPos_exact blockPos_exact addCooldownState_rewrites
    k h
  rwa [← upgradeHandler_eq, behind_nil, behind_zero, List.append_nil] at hmap

theorem downgradeHandler_rewrites (k : ClientBlockPosPacket) {d : k.Data} (h : k.Canonical d) :
    Rewrites k.downgradeHandler (k.bytes blockPos d ++ k.cooldownState d)
      (k.bytes networkBlockPos d) () := by
  have hmap := mapHandler_rewrites blockPos_exact networkBlockPos_exact stripCooldownState_rewrites
    k h
  rwa [← downgradeHandler_eq, behind_nil, behind_zero, List.append_nil] at hmap

/-- **Block positions of the client**: on every serverbound packet with block positions, whatever
follows its fields, the step from v944 to v924 succeeds and leaves the same fields in the encoding
of v944, with the cooldown state 0 behind the client prediction of an item use and nothing else
added; the step from v924 to v944 returns the original bytes. -/
theorem clientBlockPos_inverse (k : ClientBlockPosPacket) {d : k.Data} (h : k.Canonical d)
    (suf : List UInt8) (user : UserConnection) (other other' : OtherHandlers) :
    PacketHandler.apply
        ((V944ToV924.createProtocol (V944ToV924.blockPosHandlers other)).transform .serverbound
          k.packetId) (k.bytes networkBlockPos d ++ suf) user =
      .ok (k.bytes blockPos d ++ k.cooldownState d ++ suf) ∧
    PacketHandler.apply
        ((V924ToV944.createProtocol (V924ToV944.blockPosHandlers other')).transform .serverbound
          k.packetId) (k.bytes blockPos d ++ k.cooldownState d ++ suf) user =
      .ok (k.bytes networkBlockPos d ++ suf) := by
  constructor
  · rw [transform_upgrade]
    exact apply_of_rewrites (k.upgradeHandler_rewrites h) suf user
  · rw [transform_downgrade]
    exact apply_of_rewrites (k.downgradeHandler_rewrites h) suf user

/-- An item use far below sea level, with legacy slots and an action. -/
def sampleItemUse : ItemTransaction where
  legacyRequestId := -4
  legacySlots := [⟨28, [0, 8]⟩]
  legacySlots_of_zero := by decide
  actions := [⟨0, some 124, none, 4, { networkId := 70000, count := 1 }, {}⟩]
  body := .useItem
    { actionType := 0
      triggerType := 1
      blockPosition := (30000000, -2147483648, -1)
      blockFace := 1
      hotBarSlot := 3
      heldItem := {}
      position := (0, 0, 0)
      clickedPosition := (0, 0, 0)
      blockRuntimeId := 4294967295
      clientPrediction := 1 }

theorem sampleItemUse_canonical : sampleItemUse.Canonical := by
  have hair := air_canonical.canonicalV944
  refine ⟨by decide, ⟨by decide, fun slot hslot => ?_⟩, ⟨by decide, fun action haction => ?_⟩,
    by decide, by decide, by decide, by decide, by decide, hair, by decide, by decide⟩
  · obtain rfl := List.mem_singleton.mp hslot
    exact ⟨by decide, by decide, by decide⟩
  · obtain rfl := List.mem_singleton.mp haction
    refine ⟨by decide, by decide, fun v hv => ?_, by decide, nofun, by decide, ?_, hair⟩
    · obtain rfl := Option.some.inj hv
      decide
    · constructor <;> decide

/-- The cooldown state comes in front of whatever follows the transaction, and goes again. -/
theorem clientBlockPos_inverse_sample :
    PacketHandler.apply
        ((V944ToV924.createProtocol (V944ToV924.blockPosHandlers fun _ _ => pure ())).transform
          .serverbound PacketId.inventoryTransaction)
        (sampleItemUse.bytes networkBlockPos ++ [7]) { address := "a" } =
      .ok (sampleItemUse.bytes blockPos ++ [0] ++ [7]) ∧
    PacketHandler.apply
        ((V924ToV944.createProtocol (V924ToV944.blockPosHandlers fun _ _ => pure ())).transform
          .serverbound PacketId.inventoryTransaction)
        (sampleItemUse.bytes blockPos ++ [0] ++ [7]) { address := "a" } =
      .ok (sampleItemUse.bytes networkBlockPos ++ [7]) :=
  clientBlockPos_inverse .inventoryTransaction sampleItemUse_canonical [7] { address := "a" } _ _

end ClientBlockPosPacket

end Endweave
