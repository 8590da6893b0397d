import Endweave.Protocol.Handlers.BlockPos
import Endweave.Protocol.Handlers.CameraAimAssist
import Endweave.Protocol.Handlers.Commands
import Endweave.Protocol.Handlers.LevelSoundEvent
import Endweave.Protocol.Handlers.ServerboundBlockPos
import Endweave.Protocol.Handlers.StartGame
import Endweave.Protocol.Handlers.Text
import Endweave.Rewriter.ActorEvent
import Endweave.Rewriter.Sound

/-!
# The protocols of the version steps

`create_protocol` of each step: the handlers it registers and the packets it cancels, in order.
Handlers that are not modelled are a parameter, given by the direction and the packet id they are
registered for.
-/

namespace Endweave

open PacketId

/-- The handlers of a step that are not modelled. -/
abbrev OtherHandlers := Direction → Int → PacketHandler

/-- Register a handler that is not modelled. -/
def Protocol.registerOther (p : Protocol) (other : OtherHandlers) (direction : Direction)
    (packetId : Int) : Protocol :=
  p.register direction packetId (other direction packetId)

/-- The `SoundRewriter` of an upgrade. -/
def SoundRewriter.upgrade (mappings : MappingData) : SoundRewriter where
  soundRemap := mappings.sound.shiftUp
  intRemappers := [(mappings.actorDataSoundKey, mappings.sound.shiftUp)]

/-- The `SoundRewriter` of a downgrade. -/
def SoundRewriter.downgrade (mappings : MappingData) : SoundRewriter where
  soundRemap := mappings.sound.shiftDown
  intRemappers := [(mappings.actorDataSoundKey, mappings.sound.shiftDown)]

/-- `ActorEventRewriter(mappings.actor_event, upgrade=True).register`; the mapping data of the steps
that call it has a shift of actor events. -/
def registerActorEvents (mappings : MappingData) (p : Protocol) : Protocol :=
  match mappings.actorEvent with
  | some shift => ActorEventRewriter.register ⟨shift, true⟩ p
  | none => p

def V860ToV898.createProtocol (other : OtherHandlers) : Protocol :=
  Protocol.new 860 898 "" false
    |>.cancelServerbound [serverboundDataStore]
    |>.registerOther other .serverbound animate
    |>.registerOther other .serverbound interact
    |>.registerOther other .serverbound commandRequest
    |>.registerServerbound text (V860ToV898.rewriteText .serverbound)
    |> (SoundRewriter.upgrade Mappings.v860V898).register
    |> registerActorEvents Mappings.v860V898
    |>.registerOther other .clientbound animate
    |>.registerOther other .clientbound mobEffect
    |>.registerOther other .clientbound resourcePackStack
    |>.registerClientbound text (V860ToV898.rewriteText .clientbound)
    |>.registerClientbound startGame V860ToV898.rewriteStartGame
    |>.registerOther other .clientbound legacyTelemetryEvent
    |>.registerClientbound availableCommands V860ToV898.rewriteAvailableCommands
    |>.registerOther other .clientbound commandOutput
    |>.registerClientbound PacketId.cameraAimAssistPresets V860ToV898.rewriteCameraAimAssistPresets

def V898ToV924.createProtocol (other : OtherHandlers) : Protocol :=
  Protocol.new 898 924 "" false
    |>.registerServerbound text (V924ToV898.rewriteText .clientbound)
    |>.registerOther other .serverbound serverboundDataStore
    |>.registerOther other .serverbound bookEdit
    |>.registerOther other .serverbound serverboundDiagnostics
    |>.registerClientbound startGame V898ToV924.rewriteStartGame
    |>.registerClientbound text (V924ToV898.rewriteText .serverbound)
    |>.registerOther other .clientbound clientboundDataStore
    |>.registerClientbound PacketId.cameraAimAssistPresets V898ToV924.rewriteCameraAimAssistPresets
    |>.registerOther other .clientbound graphicsParameterOverride
    |>.registerOther other .clientbound cameraInstruction
    |>.registerOther other .clientbound biomeDefinitionList
    |>.registerOther other .clientbound serverScriptDebugDrawer
    |> (SoundRewriter.upgrade Mappings.v898V924).register

def V924ToV944.createProtocol (other : OtherHandlers) : Protocol :=
  Protocol.new 924 944 "" false
    |>.cancelServerbound [editorNetwork, resourcePacksReadyForValidation, partyChanged,
      serverboundDataDrivenScreenClosed]
    |>.cancelClientbound [editorNetwork]
    |>.registerClientbound startGame V924ToV944.rewriteStartGame
    |>.registerClientbound updateBlock V924ToV944.rewriteFirstNetBlockToBlock
    |>.registerClientbound tileEvent V924ToV944.rewriteTileEvent
    |>.registerClientbound setSpawnPosition V924ToV944.rewriteSetSpawnPosition
    |>.registerClientbound blockActorData V924ToV944.rewriteFirstNetBlockToBlock
    |>.registerClientbound updateBlockSynced V924ToV944.rewriteFirstNetBlockToBlock
    |>.registerClientbound lecternUpdate (V924ToV944.rewriteLecternUpdate .clientbound)
    |>.registerServerbound lecternUpdate (V924ToV944.rewriteLecternUpdate .serverbound)
    |>.registerClientbound addVolumeEntity V924ToV944.rewriteAddVolumeEntity
    |>.registerClientbound updateSubChunkBlocks V924ToV944.rewriteUpdateSubChunkBlocks
    |>.registerClientbound openSign V924ToV944.rewriteFirstNetBlockToBlock
    |>.registerClientbound playSound V924ToV944.rewritePlaySound
    |>.registerClientbound mapData V924ToV944.rewriteMapData
    |>.registerOther other .clientbound playerClientInputPermissions
    |>.registerOther other .clientbound voxelShapes
    |>.registerOther other .clientbound clientboundDataDrivenUiShowScreen
    |>.registerOther other .clientbound clientboundDataDrivenUiCloseAllScreens
    |>.registerOther other .clientbound cameraInstruction
    |>.registerOther other .clientbound cameraSpline
    |>.registerClientbound containerOpen V924ToV944.rewriteContainerOpen
    |> (SoundRewriter.upgrade Mappings.v924V944).register
    |>.registerOther other .serverbound inventoryTransaction
    |>.registerOther other .serverbound playerAction
    |>.registerOther other .serverbound commandBlockUpdate
    |>.registerOther other .serverbound structureBlockUpdate
    |>.registerOther other .serverbound structureTemplateDataExportRequest
    |>.registerServerbound blockActorData V924ToV944.rewriteFirstBlockToNetBlock
    |>.registerOther other .serverbound anvilDamage

def V944ToV924.createProtocol (other : OtherHandlers) : Protocol :=
  Protocol.new 944 924 "" false
    |>.registerOther other .clientbound startGame
    |>.registerClientbound updateBlock V944ToV924.rewriteFirstBlockToNet
    |>.registerClientbound tileEvent V944ToV924.rewriteTileEvent
    |>.registerClientbound setSpawnPosition V944ToV924.rewriteSetSpawnPosition
    |>.registerClientbound blockActorData V944ToV924.rewriteFirstBlockToNet
    |>.registerClientbound updateBlockSynced V944ToV924.rewriteFirstBlockToNet
    |>.registerClientbound lecternUpdate (V944ToV924.rewriteLecternUpdate .clientbound)
    |>.registerServerbound lecternUpdate (V944ToV924.rewriteLecternUpdate .serverbound)
    |>.registerClientbound addVolumeEntity V944ToV924.rewriteAddVolumeEntity
    |>.registerClientbound updateSubChunkBlocks V944ToV924.rewriteUpdateSubChunkBlocks
    |>.registerClientbound openSign V944ToV924.rewriteFirstBlockToNet
    |>.registerClientbound playSound V944ToV924.rewritePlaySound
    |>.registerClientbound mapData V944ToV924.rewriteMapData
    |>.registerOther other .clientbound playerClientInputPermissions
    |>.registerOther other .clientbound voxelShapes
    |>.registerOther other .clientbound clientboundDataDrivenUiShowScreen
    |>.registerOther other .clientbound clientboundDataDrivenUiCloseAllScreens
    |>.registerOther other .clientbound cameraInstruction
    |>.registerOther other .clientbound cameraSpline
    |>.registerClientbound containerOpen V944ToV924.rewriteContainerOpen
    |> (SoundRewriter.downgrade Mappings.v924V944).register
    |>.cancelClientbound [editorNetwork, locatorBar, syncWorldClocks,
      clientboundAttributeLayerSync]
    |>.cancelServerbound [editorNetwork]
    |>.registerOther other .serverbound inventoryTransaction
    |>.registerOther other .serverbound playerAction
    |>.registerOther other .serverbound commandBlockUpdate
    |>.registerOther other .serverbound structureBlockUpdate
    |>.registerOther other .serverbound structureTemplateDataExportRequest
    |>.registerServerbound blockActorData V944ToV924.rewriteFirstNetToBlock
    |>.registerOther other .serverbound anvilDamage

/-- The serverbound handlers of block positions that v944 to v924 registers, for the parameter of
`createProtocol`. -/
def V944ToV924.blockPosHandlers (other : OtherHandlers) : OtherHandlers
  | .serverbound, packetId =>
    if packetId = inventoryTransaction then V944ToV924.rewriteInventoryTransaction
    else if packetId = playerAction then V944ToV924.rewritePlayerAction
    else if packetId = commandBlockUpdate then V944ToV924.rewriteCommandBlockUpdate
    else if packetId = structureBlockUpdate then V944ToV924.rewriteStructureBlockUpdate
    else if packetId = structureTemplateDataExportRequest then
      V944ToV924.rewriteStructureTemplateDataRequest
    else if packetId = anvilDamage then V944ToV924.rewriteAnvilDamage
    else other .serverbound packetId
  | .clientbound, packetId => other .clientbound packetId

/-- Those that v924 to v944 registers. -/
def V924ToV944.blockPosHandlers (other : OtherHandlers) : OtherHandlers
  | .serverbound, packetId =>
    if packetId = inventoryTransaction then V924ToV944.rewriteInventoryTransaction
    else if packetId = playerAction then V924ToV944.rewritePlayerAction
    else if packetId = commandBlockUpdate then V924ToV944.rewriteCommandBlockUpdate
    else if packetId = structureBlockUpdate then V924ToV944.rewriteStructureBlockUpdate
    else if packetId = structureTemplateDataExportRequest then
      V924ToV944.rewriteStructureTemplateDataRequest
    else if packetId = anvilDamage then V924ToV944.rewriteAnvilDamage
    else other .serverbound packetId
  | .clientbound, packetId => other .clientbound packetId

def V944ToV975.createProtocol (other : OtherHandlers) : Protocol :=
  Protocol.new 944 975 "" false
    |> (SoundRewriter.upgrade Mappings.v944V975).register
    |>.registerClientbound levelSoundEvent V944ToV975.rewriteLevelSoundEvent
    |>.registerClientbound startGame V944ToV975.rewriteStartGame
    |>.registerOther other .clientbound actorEvent
    |>.registerOther other .clientbound playSound
    |>.registerOther other .clientbound inventorySlot
    |>.registerOther other .clientbound playerEquipment
    |>.registerOther other .clientbound craftingData
    |>.registerOther other .clientbound playerEnchantOptions
    |>.registerOther other .clientbound locatorBar
    |>.registerOther other .clientbound clientboundAttributeLayerSync
    |>.registerOther other .serverbound playerEquipment
    |>.registerOther other .serverbound updateClientOptions
    |>.registerOther other .serverbound clientMovementPredictionSync
    |>.registerOther other .serverbound actorEvent
    |>.registerOther other .serverbound partyChanged
    |>.cancelClientbound [serverScriptDebugDrawer]
    |>.cancelServerbound [serverboundDiagnostics]

end Endweave
