import Endweave.Protocol.Handlers.Animate
import Endweave.Protocol.Handlers.AttributeLayerSync
import Endweave.Protocol.Handlers.BiomeDefinitionList
import Endweave.Protocol.Handlers.BossEvent
import Endweave.Protocol.Handlers.Camera
import Endweave.Protocol.Handlers.ChunkRequests
import Endweave.Protocol.Handlers.CraftingData
import Endweave.Protocol.Handlers.DataStore
import Endweave.Protocol.Handlers.DebugDrawer
import Endweave.Protocol.Handlers.Entities
import Endweave.Protocol.Handlers.Interface
import Endweave.Protocol.Handlers.ItemStack
import Endweave.Protocol.Handlers.LocatorBar
import Endweave.Protocol.Handlers.World
import Endweave.Protocol.Steps

/-!
# The registered protocols

The ten version steps with all their handlers, in the order in which the plugin registers them.  The
steps whose `createProtocol` takes handlers as a parameter get them from a table
(`OtherHandlers.ofTable`).  `uuid5` is the name-based UUID of the standard library in the DNS
namespace.
-/

namespace Endweave

open PacketId

/-- The handlers of a table, for the parameter of `createProtocol`. -/
def OtherHandlers.ofTable (table : Direction → OrderedDict Int PacketHandler) : OtherHandlers :=
  fun direction packetId => ((table direction).get? packetId).getD (pure ())

/-! ### v859 and v860

The versions share their packet structures. -/

def V859ToV860.createProtocol : Protocol := Protocol.new 859 860 "" false

def V860ToV859.createProtocol : Protocol := Protocol.new 860 859 "" false

/-! ### v860 and v898 -/

def V860ToV898.otherHandlers : Direction → OrderedDict Int PacketHandler
  | .serverbound =>
    [(animate, V860ToV898.rewriteAnimate .serverbound),
      (interact, V860ToV898.rewriteInteract),
      (commandRequest, V860ToV898.rewriteCommandRequest)]
  | .clientbound =>
    [(animate, V860ToV898.rewriteAnimate .clientbound),
      (mobEffect, V860ToV898.rewriteMobEffect),
      (resourcePackStack, V860ToV898.rewriteResourcePackStack),
      (legacyTelemetryEvent, V860ToV898.rewriteEvent),
      (commandOutput, V860ToV898.rewriteCommandOutput)]

/-- `ActorEventRewriter(MAPPINGS.actor_event, upgrade=False).register`. -/
def registerActorEventsDown (mappings : MappingData) (p : Protocol) : Protocol :=
  match mappings.actorEvent with
  | some shift => ActorEventRewriter.register ⟨shift, false⟩ p
  | none => p

/-- The handlers of animations and texts are those of the step from v860, in the other direction. -/
def V898ToV860.createProtocol : Protocol :=
  Protocol.new 898 860 "" false
    |>.registerServerbound animate (V860ToV898.rewriteAnimate .clientbound)
    |>.registerServerbound interact V898ToV860.rewriteInteract
    |>.registerServerbound commandRequest V898ToV860.rewriteCommandRequest
    |>.registerServerbound text (V860ToV898.rewriteText .clientbound)
    |> (SoundRewriter.downgrade Mappings.v860V898).register
    |> registerActorEventsDown Mappings.v860V898
    |>.registerClientbound animate (V860ToV898.rewriteAnimate .serverbound)
    |>.registerClientbound mobEffect V898ToV860.rewriteMobEffect
    |>.registerClientbound resourcePackStack V898ToV860.rewriteResourcePackStack
    |>.registerClientbound text (V860ToV898.rewriteText .serverbound)
    |>.registerClientbound startGame V898ToV860.rewriteStartGame
    |>.registerClientbound legacyTelemetryEvent V898ToV860.rewriteEvent
    |>.registerClientbound availableCommands V898ToV860.rewriteAvailableCommands
    |>.registerClientbound commandOutput V898ToV860.rewriteCommandOutput
    |>.registerClientbound PacketId.cameraAimAssistPresets V898ToV860.rewriteCameraAimAssistPresets
    |>.cancelClientbound [clientboundDataStore]

/-! ### v898 and v924 -/

def V898ToV924.otherHandlers : Direction → OrderedDict Int PacketHandler
  | .serverbound =>
    [(serverboundDataStore, V898ToV924.rewriteServerboundDataStore),
      (bookEdit, V898ToV924.rewriteBookEdit),
      (serverboundDiagnostics, V898ToV924.rewriteDiagnostics)]
  | .clientbound =>
    [(clientboundDataStore, V898ToV924.rewriteClientboundDataStore recursionLimit),
      (graphicsParameterOverride, V898ToV924.rewriteGraphicsParameterOverride),
      (cameraInstruction, V898ToV924.rewriteCameraInstruction),
      (biomeDefinitionList, V898ToV924.rewriteBiomeDefinitionList),
      (serverScriptDebugDrawer, V898ToV924.rewriteDebugDrawer)]

/-- The `SoundRewriter` of v924 to v898: new sounds become the undefined one, and the metadata of
aim assist is dropped. -/
def V924ToV898.sound : SoundRewriter where
  soundRemap := Mappings.v898V924.sound.cap
  intRemappers := [(Mappings.v898V924.actorDataSoundKey, Mappings.v898V924.sound.cap)]
  droppedKeys := Mappings.v898V924DroppedActorDataKeys

def V924ToV898.createProtocol : Protocol :=
  Protocol.new 924 898 "" false
    |>.registerServerbound text (V924ToV898.rewriteText .serverbound)
    |>.registerServerbound serverboundDataStore V924ToV898.rewriteServerboundDataStore
    |>.registerServerbound bookEdit V924ToV898.rewriteBookEdit
    |>.registerServerbound serverboundDiagnostics V924ToV898.rewriteDiagnostics
    |>.registerClientbound startGame V924ToV898.rewriteStartGame
    |>.registerClientbound text (V924ToV898.rewriteText .clientbound)
    |>.registerClientbound clientboundDataStore
      (V924ToV898.rewriteClientboundDataStore recursionLimit)
    |>.registerClientbound PacketId.cameraAimAssistPresets V924ToV898.rewriteCameraAimAssistPresets
    |>.registerClientbound biomeDefinitionList V924ToV898.rewriteBiomeDefinitionList
    |> V924ToV898.sound.register
    |>.registerClientbound graphicsParameterOverride V924ToV898.rewriteGraphicsParameterOverride
    |>.registerClientbound cameraInstruction V924ToV898.rewriteCameraInstruction
    |>.registerClientbound serverScriptDebugDrawer V924ToV898.rewriteDebugDrawer
    |>.cancelClientbound [clientboundDataDrivenUiShowScreen, clientboundDataDrivenUiCloseAllScreens,
      clientboundDataDrivenUiReload, clientboundTextureShift, voxelShapes, cameraSpline,
      cameraAimAssistActorPriority]

/-! ### v924 and v944 -/

def V924ToV944.otherHandlers : Direction → OrderedDict Int PacketHandler
  | .serverbound =>
    [(inventoryTransaction, V924ToV944.rewriteInventoryTransaction),
      (playerAction, V924ToV944.rewritePlayerAction),
      (commandBlockUpdate, V924ToV944.rewriteCommandBlockUpdate),
      (structureBlockUpdate, V924ToV944.rewriteStructureBlockUpdate),
      (structureTemplateDataExportRequest, V924ToV944.rewriteStructureTemplateDataRequest),
      (anvilDamage, V924ToV944.rewriteAnvilDamage)]
  | .clientbound =>
    [(playerClientInputPermissions, V924ToV944.rewriteUpdateClientInputLocks),
      (voxelShapes, V924ToV944.rewriteVoxelShapes),
      (clientboundDataDrivenUiShowScreen, V924ToV944.rewriteShowScreen),
      (clientboundDataDrivenUiCloseAllScreens, V924ToV944.rewriteCloseAllScreens),
      (cameraInstruction, V924ToV944.rewriteCameraInstruction),
      (cameraSpline, V924ToV944.rewriteCameraSpline)]

def V944ToV924.otherHandlers : Direction → OrderedDict Int PacketHandler
  | .serverbound =>
    [(inventoryTransaction, V944ToV924.rewriteInventoryTransaction),
      (playerAction, V944ToV924.rewritePlayerAction),
      (commandBlockUpdate, V944ToV924.rewriteCommandBlockUpdate),
      (structureBlockUpdate, V944ToV924.rewriteStructureBlockUpdate),
      (structureTemplateDataExportRequest, V944ToV924.rewriteStructureTemplateDataRequest),
      (anvilDamage, V944ToV924.rewriteAnvilDamage)]
  | .clientbound =>
    [(startGame, V944ToV924.rewriteStartGame),
      (playerClientInputPermissions, V944ToV924.rewriteUpdateClientInputLocks),
      (voxelShapes, V944ToV924.rewriteVoxelShapes),
      (clientboundDataDrivenUiShowScreen, V944ToV924.rewriteShowScreen),
      (clientboundDataDrivenUiCloseAllScreens, V944ToV924.rewriteCloseScreen),
      (cameraInstruction, V944ToV924.rewriteCameraInstruction),
      (cameraSpline, V944ToV924.rewriteCameraSpline)]

/-! ### v944, v975 and v1001 -/

section Uuid

variable (uuid5 : String → BitVec 128)

def V944ToV975.otherHandlers : Direction → OrderedDict Int PacketHandler
  | .serverbound =>
    [(playerEquipment, V944ToV975.rewriteMobEquipment .serverbound),
      (updateClientOptions, V944ToV975.rewriteUpdateClientOptions),
      (clientMovementPredictionSync, V944ToV975.rewriteClientMovementPredictionSync),
      (actorEvent, V944ToV975.rewriteActorEvent .serverbound),
      (partyChanged, V944ToV975.rewritePartyChanged)]
  | .clientbound =>
    [(actorEvent, V944ToV975.rewriteActorEvent .clientbound),
      (playSound, V944ToV975.rewritePlaySound),
      (inventorySlot, V944ToV975.rewriteInventorySlot),
      (playerEquipment, V944ToV975.rewriteMobEquipment .clientbound),
      (craftingData, V944ToV975.rewriteCraftingData uuid5),
      (playerEnchantOptions, V944ToV975.rewritePlayerEnchantOptions),
      (locatorBar, V944ToV975.rewriteLocatorBar),
      (clientboundAttributeLayerSync, V944ToV975.rewriteClientboundAttributeLayerSync)]

/-- `PARTY_DESTINATION_COOKIE_RESPONSE`, new in v1001. -/
def V975ToV1001.partyDestinationCookieResponse : Int := 350

def V975ToV1001.createProtocol : Protocol :=
  Protocol.new 975 1001 "v975_to_v1001" false
    |>.registerClientbound startGame V975ToV1001.rewriteStartGame
    |>.registerClientbound inventoryContent V975ToV1001.rewriteInventoryContent
    |>.registerClientbound mobArmorEquipment V975ToV1001.rewriteMobArmourEquipment
    |>.registerClientbound levelSoundEvent (V975ToV1001.rewriteLevelSoundEvent .clientbound)
    |>.registerClientbound bossEvent V975ToV1001.rewriteBossEvent
    |>.registerClientbound fullChunkData V975ToV1001.rewriteLevelChunk
    |>.registerClientbound inventoryTransaction V975ToV1001.rewriteInventoryTransactionClientbound
    |>.registerServerbound levelSoundEvent (V975ToV1001.rewriteLevelSoundEvent .serverbound)
    |>.registerServerbound inventoryTransaction V975ToV1001.rewriteInventoryTransaction
    |>.registerServerbound clientCacheBlobStatus V975ToV1001.rewriteClientCacheBlobStatus
    |>.registerServerbound subChunkRequest V975ToV1001.rewriteSubChunkRequest
    |>.registerServerbound bossEvent V975ToV1001.rewriteBossEventServerbound
    |>.registerServerbound serverboundDiagnostics V975ToV1001.rewriteDiagnostics
    |>.cancelServerbound [V975ToV1001.partyDestinationCookieResponse]

/-! ### The registry -/

abbrev V860ToV898.registered : Protocol :=
  V860ToV898.createProtocol (.ofTable V860ToV898.otherHandlers)

abbrev V898ToV924.registered : Protocol :=
  V898ToV924.createProtocol (.ofTable V898ToV924.otherHandlers)

abbrev V924ToV944.registered : Protocol :=
  V924ToV944.createProtocol (.ofTable V924ToV944.otherHandlers)

abbrev V944ToV924.registered : Protocol :=
  V944ToV924.createProtocol (.ofTable V944ToV924.otherHandlers)

abbrev V944ToV975.registered : Protocol :=
  V944ToV975.createProtocol (.ofTable (V944ToV975.otherHandlers uuid5))

/-- What the factories that the plugin calls return, in the order of the calls. -/
def registeredProtocols : List Protocol :=
  [V859ToV860.createProtocol,
    V860ToV859.createProtocol,
    V860ToV898.registered,
    V898ToV860.createProtocol,
    V898ToV924.registered,
    V924ToV898.createProtocol,
    V924ToV944.registered,
    V944ToV924.registered,
    V944ToV975.registered uuid5,
    V975ToV1001.createProtocol]

end Uuid

end Endweave
