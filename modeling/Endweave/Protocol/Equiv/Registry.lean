import Endweave.Protocol.Equiv.HandlerRelates
import Endweave.Protocol.Equiv.Steps
import Endweave.Protocol.Registry

/-!
# Every handler of the registry

`Protocol.Every P p` says that `P` holds of all handlers that `p` has registered.  It is closed
under the calls a factory makes, so that what is to be shown of the ten protocols is a statement
about each registration.  `registered_every`: no handler of a step depends on the connection, and
all but a few keep the bytes behind the packet.  `registered_cancelled` lists the cancelled packets.
-/

namespace Endweave

open PacketId

/-! ### What holds of all handlers of a protocol -/

/-- Every handler that the protocol has registered has the property. -/
def Protocol.Every (P : Direction → Int → PacketHandler → Prop) (p : Protocol) : Prop :=
  ∀ direction packetId handler,
    (p.handlers direction).get? packetId = some handler → P direction packetId handler

namespace Protocol

variable {P : Direction → Int → PacketHandler → Prop} {p : Protocol}

theorem every_new (server client : Int) (name : String) (isBase : Bool) :
    (Protocol.new server client name isBase).Every P := by
  intro direction packetId handler h
  cases h

theorem Every.register (hp : p.Every P) {direction : Direction} {packetId : Int}
    {handler : PacketHandler} (hh : P direction packetId handler) :
    (p.register direction packetId handler).Every P := by
  intro d id h hget
  rw [get?_register] at hget
  split_ifs at hget with hsame
  · obtain ⟨rfl, rfl⟩ := hsame
    obtain rfl := Option.some.inj hget
    exact hh
  · exact hp d id h hget

theorem Every.cancel (hp : p.Every P) (direction : Direction) (packetIds : List Int) :
    (p.cancel direction packetIds).Every P := hp

theorem Every.registerOther (hp : p.Every P) {table : Direction → OrderedDict Int PacketHandler}
    {direction : Direction} {packetId : Int} {handler : PacketHandler}
    (hget : (table direction).get? packetId = some handler) (hh : P direction packetId handler) :
    (p.registerOther (.ofTable table) direction packetId).Every P := by
  unfold Protocol.registerOther OtherHandlers.ofTable
  rw [hget]
  exact hp.register hh

end Protocol

/-! ### The ten protocols -/

/-- The packets with a handler that looks for the end of the data, to append to them, to cut them or
to see that nothing is left. -/
def asksForEnd : Direction → List Int
  | .serverbound => [serverboundDiagnostics, bossEvent]
  | .clientbound => [actorEvent, bossEvent, playSound, clientboundDataDrivenUiShowScreen,
      clientboundDataDrivenUiCloseAllScreens, voxelShapes]

/-- The packets that some step has a handler for. -/
def handledPackets : Direction → List Int
  | .serverbound => [text, actorEvent, inventoryTransaction, playerEquipment, interact,
      playerAction, animate, blockActorData, bossEvent, commandRequest, commandBlockUpdate,
      structureBlockUpdate, bookEdit, levelSoundEvent, lecternUpdate,
      structureTemplateDataExportRequest, clientCacheBlobStatus, anvilDamage, subChunkRequest,
      serverboundDiagnostics, clientMovementPredictionSync, updateClientOptions,
      serverboundDataStore, partyChanged]
  | .clientbound => [resourcePackStack, text, startGame, addPlayer, addActor, addItemActor,
      updateBlock, tileEvent, actorEvent, mobEffect, inventoryTransaction, playerEquipment,
      mobArmorEquipment, setActorData, setSpawnPosition, animate, containerOpen, inventoryContent,
      inventorySlot, craftingData, blockActorData, fullChunkData, legacyTelemetryEvent, mapData,
      bossEvent, availableCommands, commandOutput, playSound, updateBlockSynced,
      biomeDefinitionList, levelSoundEvent, lecternUpdate, playerEnchantOptions, addVolumeEntity,
      updateSubChunkBlocks, playerClientInputPermissions, cameraInstruction, openSign,
      PacketId.cameraAimAssistPresets, serverScriptDebugDrawer, clientboundDataStore,
      graphicsParameterOverride, clientboundDataDrivenUiShowScreen,
      clientboundDataDrivenUiCloseAllScreens, voxelShapes, cameraSpline, locatorBar,
      clientboundAttributeLayerSync]

/-- What is shown of each registration of the ten factories. -/
structure Registrable (direction : Direction) (packetId : Int) (h : PacketHandler) : Prop where
  blind : Blind h
  trailing : packetId ∉ asksForEnd direction → Extends h
  mem : packetId ∈ handledPackets direction

theorem registered_every (uuid5 : String → BitVec 128) :
    ∀ p ∈ registeredProtocols uuid5, p.Every Registrable := by
  simp only [registeredProtocols, List.forall_mem_cons, V859ToV860.createProtocol,
    V860ToV859.createProtocol, V860ToV898.createProtocol, V898ToV860.createProtocol,
    V898ToV924.createProtocol, V924ToV898.createProtocol, V924ToV944.createProtocol,
    V944ToV924.createProtocol, V944ToV975.createProtocol, V975ToV1001.createProtocol,
    registerActorEvents, registerActorEventsDown, SoundRewriter.register,
    ActorEventRewriter.register, Protocol.registerClientbound, Protocol.registerServerbound,
    Protocol.cancelClientbound, Protocol.cancelServerbound]
  refine ⟨?_, ?_, ?_, ?_, ?_, ?_, ?_, ?_, ?_, ?_, fun _ h => absurd h List.not_mem_nil⟩
  all_goals
    repeat' first
      | refine Protocol.Every.registerOther ?_ rfl ?_
      | refine Protocol.Every.register ?_ ?_
      | refine Protocol.Every.cancel ?_ _ _
      | exact Protocol.every_new _ _ _ _
      | exact ⟨inferInstance, fun _ => inferInstance, by decide⟩
      | exact ⟨inferInstance, fun h => absurd (by decide) h, by decide⟩

/-! ### Cancelled packets -/

/-- The packets that the step between two versions cancels, by its (server, client) pair. -/
def cancellations : Direction → OrderedDict (Int × Int) (List Int)
  | .serverbound =>
    [((860, 898), [serverboundDataStore]),
      ((924, 944), [editorNetwork, resourcePacksReadyForValidation, partyChanged,
        serverboundDataDrivenScreenClosed]),
      ((944, 924), [editorNetwork]),
      ((944, 975), [serverboundDiagnostics]),
      ((975, 1001), [V975ToV1001.partyDestinationCookieResponse])]
  | .clientbound =>
    [((898, 860), [clientboundDataStore]),
      ((924, 898), [clientboundDataDrivenUiShowScreen, clientboundDataDrivenUiCloseAllScreens,
        clientboundDataDrivenUiReload, clientboundTextureShift, voxelShapes, cameraSpline,
        cameraAimAssistActorPriority]),
      ((924, 944), [editorNetwork]),
      ((944, 924), [editorNetwork, locatorBar, syncWorldClocks, clientboundAttributeLayerSync]),
      ((944, 975), [serverScriptDebugDrawer])]

def cancelledBy (direction : Direction) (ends : Int × Int) : List Int :=
  ((cancellations direction).get? ends).getD []

theorem registered_cancelled (uuid5 : String → BitVec 128) (direction : Direction) :
    ∀ p ∈ registeredProtocols uuid5,
      p.cancelled direction = cancelledBy direction (p.serverProtocol, p.clientProtocol) := by
  simp only [registeredProtocols, List.forall_mem_cons]
  cases direction <;>
  exact ⟨rfl, rfl, rfl, rfl, rfl, rfl, rfl, rfl, rfl, rfl, fun _ h => absurd h List.not_mem_nil⟩

end Endweave
