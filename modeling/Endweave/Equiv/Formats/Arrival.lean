import Endweave.Equiv.Formats.Grammars
import Endweave.Equiv.Formats.Small
import Endweave.Equiv.Formats.Sounds

/-!
# What arrives of the packets with formats

The formats by subsystem.  All registered steps carry them, so that on every supported route, at any
point of any run, a packet arrives as the version of its receiver has it.
-/

namespace Endweave

open PacketFormat PacketWrapper Wire

/-! ### The formats -/

/-- Effects, events and movement. -/
def entityFormats : List PacketFormat :=
  [MobEffect.format, EventPacket.format, Interact.format, ActorEventPacket.format,
    ActorEventPacket.newFormat, ActorEventPacket.clientFormat, ClientMovementPredictionSync.format,
    AnimateV898.format, AnimateV898.clientFormat, BossEvent.format, BossEvent.clientFormat]

/-- Texts, commands, screens and options. -/
def interfaceFormats : List PacketFormat :=
  [TextPacket.format, TextPacket.clientFormat, CommandOutput.format, AvailableCommands.format,
    CommandRequest.format, CommandRequest.formatV860, DataStoreAction.format,
    PropertyUpdate.format, ResourcePackStack.format, BookEdit.format, ShowScreen.format,
    CloseScreen.format, UpdateClientInputLocks.format, PartyChanged.format,
    UpdateClientOptions.format, PlayerEnchantOptions.format]

/-- Chunks, biomes, cameras and diagnostics. -/
def worldFormats : List PacketFormat :=
  [GraphicsParameterOverride.format, Diagnostics.format, TimedDiagnostics.format,
    VoxelShapes.format, LevelChunk.format, SubChunkRequest.format, ClientCacheBlobStatus.format,
    BiomeDefinitionList.format, DebugDrawer.format, cameraInstructionFormat, cameraSplineFormat,
    AimAssistFamilies.format, Waypoint.format, AttributeLayerSync.format]

/-- The packets with block positions, but for transactions. -/
def blockPosFormats : List PacketFormat :=
  [BlockPosPacket.updateBlock.format, BlockPosPacket.updateBlockSynced.format,
    BlockPosPacket.blockActorData.format, BlockPosPacket.openSign.format,
    BlockPosPacket.setSpawnPosition.format, BlockPosPacket.addVolumeEntity.format,
    BlockPosPacket.updateSubChunkBlocks.format, BlockPosPacket.playSound.format,
    BlockPosPacket.mapData.format, BlockPosPacket.containerOpen.format,
    BlockPosPacket.lecternUpdate.format, BlockPosPacket.tileEvent.format,
    ClientBlockPosPacket.playerAction.format, ClientBlockPosPacket.commandBlockUpdate.format,
    ClientBlockPosPacket.structureBlockUpdate.format,
    ClientBlockPosPacket.structureTemplateDataRequest.format,
    ClientBlockPosPacket.blockActorData.format, ClientBlockPosPacket.anvilDamage.format,
    ClientBlockPosPacket.lecternUpdate.format]

/-- The packets with items, and the transactions. -/
def itemFormats : List PacketFormat :=
  [MobEquipment.format, MobEquipment.clientFormat, InventorySlotV944.format,
    InventoryContent.format, MobArmourEquipment.format, V975ToV1001.InventoryTransaction.format,
    V975ToV1001.InventoryTransaction.serverFormat]

/-- Sounds, and the packets with metadata. -/
def soundFormats : List PacketFormat :=
  [LevelSoundEventPacket.format, ActorPacketKind.format .setActorData,
    ActorPacketKind.format .addActor, ActorPacketKind.format .addItemActor,
    ActorPacketKind.format .addPlayer]

/-! ### The steps -/

section Carried

variable (uuid5 : String → BitVec 128)

theorem entityFormats_carried :
    ∀ F ∈ entityFormats, ∀ p ∈ registeredProtocols uuid5, F.Carried p := by
  simp only [entityFormats, List.forall_mem_cons]
  exact ⟨MobEffect.carried uuid5, EventPacket.carried uuid5, Interact.carried uuid5,
    ActorEventPacket.carried uuid5, ActorEventPacket.new_carried uuid5,
    ActorEventPacket.client_carried uuid5, ClientMovementPredictionSync.carried uuid5,
    AnimateV898.carried uuid5, AnimateV898.client_carried uuid5, BossEvent.carried uuid5,
    BossEvent.client_carried uuid5, nofun⟩

theorem interfaceFormats_carried :
    ∀ F ∈ interfaceFormats, ∀ p ∈ registeredProtocols uuid5, F.Carried p := by
  simp only [interfaceFormats, List.forall_mem_cons]
  exact ⟨TextPacket.carried uuid5, TextPacket.client_carried uuid5, CommandOutput.carried uuid5,
    AvailableCommands.carried uuid5, CommandRequest.carried uuid5,
    CommandRequest.carriedV860 uuid5, DataStoreAction.carried uuid5, PropertyUpdate.carried uuid5,
    ResourcePackStack.carried uuid5, BookEdit.carried uuid5, ShowScreen.carried uuid5,
    CloseScreen.carried uuid5, UpdateClientInputLocks.carried uuid5, PartyChanged.carried uuid5,
    UpdateClientOptions.carried uuid5, PlayerEnchantOptions.carried uuid5, nofun⟩

theorem worldFormats_carried :
    ∀ F ∈ worldFormats, ∀ p ∈ registeredProtocols uuid5, F.Carried p := by
  simp only [worldFormats, List.forall_mem_cons]
  exact ⟨GraphicsParameterOverride.carried uuid5, Diagnostics.carried uuid5,
    TimedDiagnostics.carried uuid5, VoxelShapes.carried uuid5, LevelChunk.carried uuid5,
    SubChunkRequest.carried uuid5, ClientCacheBlobStatus.carried uuid5,
    BiomeDefinitionList.carried uuid5, DebugDrawer.carried uuid5, CameraInstruction.carried uuid5,
    CameraSpline.carried uuid5, AimAssistFamilies.carried uuid5, Waypoint.carried uuid5,
    AttributeLayerSync.carried uuid5, nofun⟩

theorem blockPosFormats_carried :
    ∀ F ∈ blockPosFormats, ∀ p ∈ registeredProtocols uuid5, F.Carried p := by
  have hserver := BlockPosPacket.carried uuid5
  have hclient := fun k hk => @ClientBlockPosPacket.carried uuid5 k hk
  simp only [blockPosFormats, List.forall_mem_cons]
  exact ⟨hserver _, hserver _, hserver _, hserver _, hserver _, hserver _, hserver _, hserver _,
    hserver _, hserver _, hserver _, hserver _, hclient _ nofun, hclient _ nofun, hclient _ nofun,
    hclient _ nofun, hclient _ nofun, hclient _ nofun, hclient _ nofun, nofun⟩

theorem itemFormats_carried :
    ∀ F ∈ itemFormats, ∀ p ∈ registeredProtocols uuid5, F.Carried p := by
  simp only [itemFormats, List.forall_mem_cons]
  exact ⟨MobEquipment.carried uuid5, MobEquipment.client_carried uuid5,
    InventorySlotV944.carried uuid5, InventoryContent.carried uuid5,
    MobArmourEquipment.carried uuid5, V975ToV1001.InventoryTransaction.carried uuid5,
    V975ToV1001.InventoryTransaction.server_carried uuid5, nofun⟩

theorem soundFormats_carried :
    ∀ F ∈ soundFormats, ∀ p ∈ registeredProtocols uuid5, F.Carried p := by
  have hactor := ActorPacketKind.carried uuid5
  simp only [soundFormats, List.forall_mem_cons]
  exact ⟨LevelSoundEventPacket.carried uuid5, hactor _, hactor _, hactor _, hactor _, nofun⟩

end Carried

/-- None of them is a packet of the base protocol. -/
theorem formats_not_base : ∀ F ∈ entityFormats ++ interfaceFormats ++ worldFormats ++
    blockPosFormats ++ itemFormats ++ soundFormats, F.packetId ∉ basePackets F.direction := by
  decide

/-! ### At any point of any run -/

namespace EndweavePlugin

variable (uuid5 : String → BitVec 128) (serverProtocol : Int) (gate : GateConfig) {client : Int}
  {F : PacketFormat} {d : F.Data} {events : List PluginEvent} {event : PacketEvent}

/-- **Effects, events and movement** arrive as the receiver's version has them. -/
theorem entities_after (hF : F ∈ entityFormats)
    (h : F.Sent serverProtocol client d events event) :
    (handleEvent (after uuid5 serverProtocol gate events) (.packet F.direction event)).2 =
      .proxy (.packet (event.deliver (F.encode (F.target serverProtocol client) d))) :=
  carried_after uuid5 serverProtocol gate (entityFormats_carried uuid5 F hF)
    (formats_not_base F (by simp [hF])) h

/-- An event from a server of version 860 to a client of version 1001. -/
theorem entities_after_actorEvent :
    (handleEvent (after (fun _ => 0) 860 {} (joins [0, 0, 3, 233]))
        (.packet .clientbound (packetAt PacketId.actorEvent [1, 80, 6]))).2 =
      .proxy (.packet (packetAt PacketId.actorEvent [1, 81, 6, 0])) :=
  @entities_after _ 860 _ 1001 ActorEventPacket.format (⟨1, 81, 3, none⟩ : ActorEventPacket) _ _
    (by simp [entityFormats])
    { supported := by decide
      covers := by decide
      canonical := ⟨⟨by decide, by decide, by decide⟩, by decide⟩
      expresses := ⟨by decide, by decide⟩
      packetId := rfl
      detected := by decide
      payload := rfl }

/-- **Texts, commands, screens and options** arrive as the receiver's version has them. -/
theorem interface_after (hF : F ∈ interfaceFormats)
    (h : F.Sent serverProtocol client d events event) :
    (handleEvent (after uuid5 serverProtocol gate events) (.packet F.direction event)).2 =
      .proxy (.packet (event.deliver (F.encode (F.target serverProtocol client) d))) :=
  carried_after uuid5 serverProtocol gate (interfaceFormats_carried uuid5 F hF)
    (formats_not_base F (by simp [hF])) h

/-- A page of a client of version 860, on a server of version 924. -/
theorem interface_after_bookEdit :
    (handleEvent (after (fun _ => 0) 924 {} (joins [0, 0, 3, 92]))
        (.packet .serverbound (packetAt PacketId.bookEdit [0, 3, 2, 5]))).2 =
      .proxy (.packet (packetAt PacketId.bookEdit [6, 0, 4, 5])) :=
  @interface_after _ 924 _ 860 BookEdit.format (⟨3, .replacePage 2, [5]⟩ : BookEdit) _ _
    (by simp [interfaceFormats])
    { supported := by decide
      covers := by decide
      canonical := ⟨by decide, by decide⟩
      expresses := ⟨by decide, by decide⟩
      packetId := rfl
      detected := by decide
      payload := rfl }

/-- **Chunks, biomes, cameras and diagnostics** arrive as the receiver's version has them. -/
theorem world_after (hF : F ∈ worldFormats)
    (h : F.Sent serverProtocol client d events event) :
    (handleEvent (after uuid5 serverProtocol gate events) (.packet F.direction event)).2 =
      .proxy (.packet (event.deliver (F.encode (F.target serverProtocol client) d))) :=
  carried_after uuid5 serverProtocol gate (worldFormats_carried uuid5 F hF)
    (formats_not_base F (by simp [hF])) h

/-- The request of a client of version 1001 for sub-chunks, on a server of version 944. -/
theorem world_after_subChunkRequest :
    (handleEvent (after (fun _ => 0) 944 {} (joins [0, 0, 3, 233])) (.packet .serverbound
        (packetAt PacketId.subChunkRequest (sampleRequest.bytesV1001 ++ [7])))).2 =
      .proxy (.packet
        (packetAt PacketId.subChunkRequest (sampleRequest.bytesV975 ++ [7]))) :=
  @world_after _ 944 _ 1001 SubChunkRequest.format
    ((sampleRequest, [7]) : SubChunkRequest × List UInt8) _ _
    (by simp [worldFormats])
    { supported := by decide
      covers := by decide
      canonical := sampleRequest_canonical
      expresses := ⟨by decide, by decide⟩
      packetId := rfl
      detected := by decide
      payload := rfl }

/-- **Packets with block positions** arrive as the receiver's version has them. -/
theorem blockPos_after (hF : F ∈ blockPosFormats)
    (h : F.Sent serverProtocol client d events event) :
    (handleEvent (after uuid5 serverProtocol gate events) (.packet F.direction event)).2 =
      .proxy (.packet (event.deliver (F.encode (F.target serverProtocol client) d))) :=
  carried_after uuid5 serverProtocol gate (blockPosFormats_carried uuid5 F hF)
    (formats_not_base F (by simp [hF])) h

/-- A block below zero, from a server of version 924 to a client of version 944. -/
theorem blockPos_after_updateBlock :
    (handleEvent (after (fun _ => 0) 924 {} (joins [0, 0, 3, 176])) (.packet .clientbound
        (packetAt PacketId.updateBlock (networkBlockPos.bytes (-5, -60, 12) ++ [7])))).2 =
      .proxy (.packet (packetAt PacketId.updateBlock (blockPos.bytes (-5, -60, 12) ++ [7]))) :=
  @blockPos_after _ 924 _ 944 BlockPosPacket.updateBlock.format
    (((-5, -60, 12), [7]) : BlockPosition × List UInt8) _ _ (by simp [blockPosFormats])
    { supported := by decide
      covers := by decide
      canonical := (by decide : BlockPosition.Canonical (-5, -60, 12))
      expresses := ⟨by decide, by decide⟩
      packetId := rfl
      detected := by decide
      payload := rfl }

/-- **Packets with items, and transactions,** arrive as the receiver's version has them. -/
theorem items_after (hF : F ∈ itemFormats)
    (h : F.Sent serverProtocol client d events event) :
    (handleEvent (after uuid5 serverProtocol gate events) (.packet F.direction event)).2 =
      .proxy (.packet (event.deliver (F.encode (F.target serverProtocol client) d))) :=
  carried_after uuid5 serverProtocol gate (itemFormats_carried uuid5 F hF)
    (formats_not_base F (by simp [hF])) h

/-- A block that a client of version 1001 places on a server of version 924. -/
theorem items_after_transaction :
    (handleEvent (after (fun _ => 0) 924 {} (joins [0, 0, 3, 233])) (.packet .serverbound
        (packetAt PacketId.inventoryTransaction V975ToV1001.sampleTransaction.bytesV1001))).2 =
      .proxy (.packet
        (packetAt PacketId.inventoryTransaction V975ToV1001.sampleTransaction.bytesV924)) :=
  @items_after _ 924 _ 1001 V975ToV1001.InventoryTransaction.format V975ToV1001.sampleTransaction
    _ _ (by simp [itemFormats])
    { supported := by decide
      covers := by decide
      canonical := V975ToV1001.sampleTransaction_canonical
      expresses := ⟨by decide, by decide⟩
      packetId := rfl
      detected := by decide
      payload := rfl }

/-- **Sounds and metadata** arrive as the receiver's version has them: a sound that it does not know
is the undefined one, and metadata that it does not have are missing. -/
theorem sounds_after (hF : F ∈ soundFormats)
    (h : F.Sent serverProtocol client d events event) :
    (handleEvent (after uuid5 serverProtocol gate events) (.packet F.direction event)).2 =
      .proxy (.packet (event.deliver (F.encode (F.target serverProtocol client) d))) :=
  carried_after uuid5 serverProtocol gate (soundFormats_carried uuid5 F hF)
    (formats_not_base F (by simp [hF])) h

/-- The heartbeat of an actor, from a server of version 924 to a client of version 898. -/
theorem sounds_after_setActorData :
    (handleEvent (after (fun _ => 0) 924 {} (joins [0, 0, 3, 130])) (.packet .clientbound
        (packetAt PacketId.setActorData sampleHeart.bytes))).2 =
      .proxy (.packet (packetAt PacketId.setActorData (ActorPacket.bytes
        { sampleHeart with metadata := [⟨heartbeatKey, .int 578⟩, ⟨0, .int64 8⟩] }))) :=
  @sounds_after _ 924 _ 898 (ActorPacketKind.format .setActorData) sampleHeart _ _
    (by simp [soundFormats])
    { supported := by decide
      covers := by decide
      canonical := sampleHeart_canonical
      expresses := ⟨by decide, by decide⟩
      packetId := rfl
      detected := by decide
      payload := rfl }

end EndweavePlugin

end Endweave
