import Endweave.Codec.Equiv.Relates
import Endweave.Protocol.Handlers.Animate
import Endweave.Protocol.Handlers.AttributeLayerSync
import Endweave.Protocol.Handlers.BiomeDefinitionList
import Endweave.Protocol.Handlers.BlockPos
import Endweave.Protocol.Handlers.BossEvent
import Endweave.Protocol.Handlers.Camera
import Endweave.Protocol.Handlers.CameraAimAssist
import Endweave.Protocol.Handlers.ChunkRequests
import Endweave.Protocol.Handlers.Commands
import Endweave.Protocol.Handlers.CraftingData
import Endweave.Protocol.Handlers.DataStore
import Endweave.Protocol.Handlers.DebugDrawer
import Endweave.Protocol.Handlers.Entities
import Endweave.Protocol.Handlers.Interface
import Endweave.Protocol.Handlers.InventoryTransaction
import Endweave.Protocol.Handlers.ItemStack
import Endweave.Protocol.Handlers.LevelSoundEvent
import Endweave.Protocol.Handlers.LocatorBar
import Endweave.Protocol.Handlers.ServerboundBlockPos
import Endweave.Protocol.Handlers.StartGame
import Endweave.Protocol.Handlers.Text
import Endweave.Protocol.Handlers.World
import Endweave.Rewriter.ActorEvent
import Endweave.Rewriter.Sound

/-!
# Every handler respects every compatible relation

One instance for each handler and each part of one.  The handlers of the second half ask where the
data end: they respect what is `FullyCompatible`, and those that end by copying all that is left
extend (`Extends`).
-/

namespace Endweave

open Wire PacketWrapper

variable {strict : Prop} {R : PacketWrapper → PacketWrapper → Prop}

section Compatible

variable [Compatible strict R]

/-! ### Text -/

instance (group : LabelGroup) (textType : Int) : Relates strict R (writeLabels group textType) := by
  unfold writeLabels
  split <;> infer_instance

instance : Relates strict R readLabel := by unfold readLabel; infer_instance

instance : Relates strict R passthroughParameter := by unfold passthroughParameter; infer_instance

instance (textType : Int) : Relates strict R (V860ToV898.labelBody textType) := by
  unfold V860ToV898.labelBody
  split_ifs
  all_goals
    repeat refine Relates.bind inferInstance fun _ => ?_
    infer_instance

instance (needsTranslation : Bool) (kind : Int) :
    Relates strict R (V860ToV898.unlabelBody needsTranslation kind) := by
  unfold V860ToV898.unlabelBody
  split_ifs
  all_goals
    repeat refine Relates.bind inferInstance fun _ => ?_
    infer_instance

instance (direction : Direction) : Relates strict R (V860ToV898.rewriteText direction) := by
  cases direction <;>
  · unfold V860ToV898.rewriteText
    dsimp only
    repeat refine Relates.bind inferInstance fun _ => ?_
    infer_instance

instance (group : LabelGroup) : Relates strict R (V924ToV898.insertLabels group) := by
  unfold V924ToV898.insertLabels
  infer_instance

instance (count : Nat) : Relates strict R (V924ToV898.dropLabels count) := by
  unfold V924ToV898.dropLabels
  infer_instance

instance (kind : Int) {h h' h'' : PacketHandler} [Relates strict R h] [Relates strict R h']
    [Relates strict R h''] : Relates strict R (V924ToV898.branchOn kind h h' h'') := by
  unfold V924ToV898.branchOn
  infer_instance

instance (direction : Direction) : Relates strict R (V924ToV898.rewriteText direction) := by
  unfold V924ToV898.rewriteText
  cases direction <;> infer_instance

/-! ### Enumerations -/

instance {α : Type} (name : String) (members : List α) (value : α → Int) (n : Int) :
    Relates strict R (enumMember name members value n) := by
  unfold enumMember
  split <;> infer_instance

instance (n : Int) : Relates strict R (AttributeLayerSyncPayloadType.ofValue n) := by
  unfold AttributeLayerSyncPayloadType.ofValue
  infer_instance

/-! ### Commands -/

instance (enum enum' : Nat → FieldType CommandEnum) [∀ n, (enum n).Framed]
    (subcommand subcommand' : FieldType CommandSubcommand) [subcommand.Framed]
    (definition definition' : FieldType CommandDefinition) [definition.Framed] :
    Relates strict R (mapAvailableCommands enum enum' subcommand subcommand' definition
      definition') := by
  unfold mapAvailableCommands
  repeat refine Relates.bind inferInstance fun _ => ?_
  infer_instance

instance : Relates strict R V860ToV898.rewriteAvailableCommands := by
  unfold V860ToV898.rewriteAvailableCommands
  infer_instance

instance : Relates strict R V898ToV860.rewriteAvailableCommands := by
  unfold V898ToV860.rewriteAvailableCommands
  infer_instance

instance : Relates strict R V860ToV898.rewriteCommandRequest := by
  unfold V860ToV898.rewriteCommandRequest
  infer_instance

instance : Relates strict R V898ToV860.rewriteCommandRequest := by
  unfold V898ToV860.rewriteCommandRequest
  infer_instance

instance (outputType : Int) : Relates strict R (V860ToV898.writeOutputLabel outputType) := by
  unfold V860ToV898.writeOutputLabel
  split <;> infer_instance

instance : Relates strict R V860ToV898.rewriteOutputMessage := by
  unfold V860ToV898.rewriteOutputMessage
  repeat refine Relates.bind inferInstance fun _ => ?_
  infer_instance

instance : Relates strict R V860ToV898.rewriteCommandOutput := by
  unfold V860ToV898.rewriteCommandOutput
  repeat refine Relates.bind inferInstance fun _ => ?_
  infer_instance

instance : Relates strict R V898ToV860.readOutputLabel := by
  unfold V898ToV860.readOutputLabel
  apply Relates.bind inferInstance
  intro label
  split <;> infer_instance

instance : Relates strict R V898ToV860.rewriteOutputMessage := by
  unfold V898ToV860.rewriteOutputMessage
  repeat refine Relates.bind inferInstance fun _ => ?_
  infer_instance

instance : Relates strict R V898ToV860.rewriteCommandOutput := by
  unfold V898ToV860.rewriteCommandOutput
  repeat refine Relates.bind inferInstance fun _ => ?_
  infer_instance

/-! ### Entities -/

instance (action : Int) : Relates strict R (V860ToV898.stripRowingTime action) := by
  unfold V860ToV898.stripRowingTime
  infer_instance

instance (direction : Direction) : Relates strict R (V860ToV898.rewriteAnimate direction) := by
  cases direction <;>
  · unfold V860ToV898.rewriteAnimate
    dsimp only
    infer_instance

instance : Relates strict R passthroughMobEffect := by
  unfold passthroughMobEffect
  repeat refine Relates.bind inferInstance fun _ => ?_
  infer_instance

instance : Relates strict R V860ToV898.rewriteMobEffect := by
  unfold V860ToV898.rewriteMobEffect
  infer_instance

instance : Relates strict R V898ToV860.rewriteMobEffect := by
  unfold V898ToV860.rewriteMobEffect
  infer_instance

instance (action : Int) (hasMousePosition : Bool) :
    Relates strict R (V860ToV898.rewritePosition action hasMousePosition) := by
  unfold V860ToV898.rewritePosition
  infer_instance

instance : Relates strict R V860ToV898.rewriteInteract := by
  unfold V860ToV898.rewriteInteract
  infer_instance

instance : Relates strict R V898ToV860.rewriteInteract := by
  unfold V898ToV860.rewriteInteract
  infer_instance

instance (r : ActorEventRewriter) : Relates strict R r.rewriteUpgrade := by
  unfold ActorEventRewriter.rewriteUpgrade
  infer_instance

instance (r : ActorEventRewriter) : Relates strict R r.rewriteDowngrade := by
  unfold ActorEventRewriter.rewriteDowngrade
  infer_instance

instance : Relates strict R (V944ToV975.rewriteActorEvent .serverbound) := by
  unfold V944ToV975.rewriteActorEvent
  dsimp only
  repeat refine Relates.bind inferInstance fun _ => ?_
  infer_instance

instance (rounds : Nat) : Relates strict R (V944ToV975.passthroughBitsetUpTo rounds) := by
  induction rounds with
  | zero => exact inferInstanceAs (Relates strict R (throw PyException.indexError))
  | succ rounds ih =>
    unfold V944ToV975.passthroughBitsetUpTo
    infer_instance

instance [Relates strict R V944ToV975.passthroughBitset] :
    Relates strict R V944ToV975.rewriteClientMovementPredictionSync := by
  unfold V944ToV975.rewriteClientMovementPredictionSync
  repeat refine Relates.bind inferInstance fun _ => ?_
  infer_instance

/-! ### Packs, books, screens and options -/

instance : Relates strict R passthroughPack := by unfold passthroughPack; infer_instance

instance : Relates strict R skipPack := by unfold skipPack; infer_instance

instance : Relates strict R V860ToV898.rewriteResourcePackStack := by
  unfold V860ToV898.rewriteResourcePackStack
  infer_instance

instance : Relates strict R V898ToV860.rewriteResourcePackStack := by
  unfold V898ToV860.rewriteResourcePackStack
  infer_instance

instance (old new : FieldType Int) (action : Int) [old.Framed] :
    Relates strict R (mapPages old new action) := by
  unfold mapPages
  infer_instance

instance : Relates strict R V898ToV924.rewriteBookEdit := by
  unfold V898ToV924.rewriteBookEdit
  infer_instance

instance : Relates strict R V924ToV898.rewriteBookEdit := by
  unfold V924ToV898.rewriteBookEdit
  infer_instance

instance : Relates strict R V944ToV924.rewriteShowScreen := by
  unfold V944ToV924.rewriteShowScreen
  infer_instance

instance : Relates strict R V944ToV924.rewriteCloseScreen := by
  unfold V944ToV924.rewriteCloseScreen
  infer_instance

instance : Relates strict R V944ToV975.rewritePartyChanged := by
  unfold V944ToV975.rewritePartyChanged
  infer_instance

instance : Relates strict R V944ToV975.rewriteUpdateClientOptions := by
  unfold V944ToV975.rewriteUpdateClientOptions
  infer_instance

instance : Relates strict R V944ToV975.passthroughEnchant := by
  unfold V944ToV975.passthroughEnchant
  infer_instance

instance : Relates strict R V944ToV975.rewriteEnchantOption := by
  unfold V944ToV975.rewriteEnchantOption
  repeat refine Relates.bind inferInstance fun _ => ?_
  infer_instance

instance : Relates strict R V944ToV975.rewritePlayerEnchantOptions := by
  unfold V944ToV975.rewritePlayerEnchantOptions
  infer_instance

/-! ### The level -/

instance : Relates strict R passthroughEntity := by
  unfold passthroughEntity
  repeat refine Relates.bind inferInstance fun _ => ?_
  infer_instance

instance : Relates strict R passthroughTelemetry := by unfold passthroughTelemetry; infer_instance

instance : Relates strict R passthroughBlockProperty := by
  unfold passthroughBlockProperty
  infer_instance

instance : Relates strict R passthroughLevel := by
  unfold passthroughLevel
  repeat refine Relates.bind inferInstance fun _ => ?_
  infer_instance

instance : Relates strict R passthroughTemplate := by unfold passthroughTemplate; infer_instance

instance : Relates strict R V860ToV898.rewriteStartGame := by
  unfold V860ToV898.rewriteStartGame
  repeat refine Relates.bind inferInstance fun _ => ?_
  infer_instance

instance : Relates strict R V898ToV860.rewriteStartGame := by
  unfold V898ToV860.rewriteStartGame
  repeat refine Relates.bind inferInstance fun _ => ?_
  infer_instance

instance : Relates strict R V898ToV924.rewriteStartGame := by
  unfold V898ToV924.rewriteStartGame
  repeat refine Relates.bind inferInstance fun _ => ?_
  infer_instance

instance : Relates strict R V924ToV898.skipJoinInfo := by
  unfold V924ToV898.skipJoinInfo
  infer_instance

instance : Relates strict R V924ToV898.rewriteStartGame := by
  unfold V924ToV898.rewriteStartGame
  repeat refine Relates.bind inferInstance fun _ => ?_
  infer_instance

instance : Relates strict R V924ToV944.rewriteStartGame := by
  unfold V924ToV944.rewriteStartGame
  repeat refine Relates.bind inferInstance fun _ => ?_
  infer_instance

instance : Relates strict R V944ToV924.rewriteStartGame := by
  unfold V944ToV924.rewriteStartGame
  repeat refine Relates.bind inferInstance fun _ => ?_
  infer_instance

/-! ### Block positions -/

section BlockPos

variable (old new : BlockPosType) [old.Framed]

instance : Relates strict R (mapFirst old new) := by
  unfold mapFirst
  infer_instance

instance : Relates strict R (mapLecternUpdate old new) := by
  unfold mapLecternUpdate
  infer_instance

instance (remap : Int → Int) : Relates strict R (mapTileEvent old new remap) := by
  unfold mapTileEvent
  infer_instance

instance : Relates strict R (mapSetSpawnPosition old new) := by
  unfold mapSetSpawnPosition
  infer_instance

instance : Relates strict R (mapAddVolumeEntity old new) := by
  unfold mapAddVolumeEntity
  repeat refine Relates.bind inferInstance fun _ => ?_
  infer_instance

instance : Relates strict R (mapChangedBlock old new) := by
  unfold mapChangedBlock
  repeat refine Relates.bind inferInstance fun _ => ?_
  infer_instance

instance : Relates strict R (mapUpdateSubChunkBlocks old new) := by
  unfold mapUpdateSubChunkBlocks
  infer_instance

instance : Relates strict R (mapPlaySound old new) := by
  unfold mapPlaySound
  infer_instance

instance : Relates strict R (mapTrackedObject old new) := by
  unfold mapTrackedObject
  infer_instance

instance (condition : Bool) : Relates strict R (mapTrackedObjects old new condition) := by
  unfold mapTrackedObjects
  infer_instance

instance : Relates strict R (mapMapData old new) := by
  unfold mapMapData
  repeat refine Relates.bind inferInstance fun _ => ?_
  infer_instance

instance : Relates strict R (mapContainerOpen old new) := by
  unfold mapContainerOpen
  infer_instance

instance (cooldown : PacketHandler) [Relates strict R cooldown] :
    Relates strict R (mapUseItem old new cooldown) := by
  unfold mapUseItem
  repeat refine Relates.bind inferInstance fun _ => ?_
  infer_instance

instance : Relates strict R passthroughAction := by unfold passthroughAction; infer_instance

instance : Relates strict R V975ToV1001.passthroughLegacySlot := by
  unfold V975ToV1001.passthroughLegacySlot
  infer_instance

instance (hasLegacy : Bool) : Relates strict R (V975ToV1001.passthroughLegacySlots hasLegacy) := by
  unfold V975ToV1001.passthroughLegacySlots
  infer_instance

instance (cooldown : PacketHandler) [Relates strict R cooldown] :
    Relates strict R (mapInventoryTransaction old new cooldown) := by
  unfold mapInventoryTransaction
  infer_instance

instance : Relates strict R (mapPlayerAction old new) := by
  unfold mapPlayerAction
  infer_instance

instance (oldSettings newSettings : FieldType StructureSettings) [oldSettings.Framed] :
    Relates strict R (mapStructureBlockUpdate old new oldSettings newSettings) := by
  unfold mapStructureBlockUpdate
  repeat refine Relates.bind inferInstance fun _ => ?_
  infer_instance

instance : Relates strict R (mapCommandBlockUpdate old new) := by
  unfold mapCommandBlockUpdate
  infer_instance

instance (oldSettings newSettings : FieldType StructureSettings) [oldSettings.Framed] :
    Relates strict R (mapStructureTemplateDataRequest old new oldSettings newSettings) := by
  unfold mapStructureTemplateDataRequest
  infer_instance

instance : Relates strict R (mapAnvilDamage old new) := by
  unfold mapAnvilDamage
  infer_instance

end BlockPos

instance : Relates strict R V924ToV944.stripCooldownState := by
  unfold V924ToV944.stripCooldownState
  infer_instance

/-! ### Cameras, data stores, shapes and biomes -/

set_option synthInstance.maxSize 4000 in
instance (old new : FieldType SplineInstruction) [old.Framed] :
    Relates strict R (mapCameraInstruction old new) := by
  unfold mapCameraInstruction
  repeat refine Relates.bind inferInstance fun _ => ?_
  infer_instance

instance (old new : FieldType SplineInstruction) [old.Framed] :
    Relates strict R (mapCameraSpline old new) := by
  unfold mapCameraSpline
  infer_instance

instance : Relates strict R passthroughString := by
  unfold passthroughString
  infer_instance

instance : Relates strict R passthroughStrings := by
  unfold passthroughStrings
  infer_instance

instance : Relates strict R passthroughPriority := by
  unfold passthroughPriority
  infer_instance

instance : Relates strict R passthroughPriorities := by
  unfold passthroughPriorities
  infer_instance

instance : Relates strict R passthroughItemSetting := by
  unfold passthroughItemSetting
  infer_instance

instance : Relates strict R passthroughDefaultPriorities := by
  unfold passthroughDefaultPriorities
  infer_instance

instance : Relates strict R passthroughPresetTail := by
  unfold passthroughPresetTail
  infer_instance

instance : Relates strict R V898ToV860.skipPriority := by
  unfold V898ToV860.skipPriority
  infer_instance

instance : Relates strict R V898ToV860.skipPriorities := by
  unfold V898ToV860.skipPriorities
  infer_instance

instance : Relates strict R V898ToV860.rewriteCategory := by
  unfold V898ToV860.rewriteCategory
  infer_instance

instance : Relates strict R V898ToV860.readStrings := by
  unfold V898ToV860.readStrings
  infer_instance

instance : Relates strict R V898ToV860.rewritePreset := by
  unfold V898ToV860.rewritePreset
  infer_instance

instance : Relates strict R V898ToV860.rewriteCameraAimAssistPresets := by
  unfold V898ToV860.rewriteCameraAimAssistPresets
  infer_instance

instance : Relates strict R V860ToV898.rewriteInnerCategory := by
  unfold V860ToV898.rewriteInnerCategory
  infer_instance

instance : Relates strict R V860ToV898.rewriteCategory := by
  unfold V860ToV898.rewriteCategory
  infer_instance

instance : Relates strict R V860ToV898.rewritePreset := by
  unfold V860ToV898.rewritePreset
  infer_instance

instance : Relates strict R V860ToV898.rewriteCameraAimAssistPresets := by
  unfold V860ToV898.rewriteCameraAimAssistPresets
  infer_instance

instance : Relates strict R V898ToV924.rewriteCategory := by
  unfold V898ToV924.rewriteCategory
  repeat refine Relates.bind inferInstance fun _ => ?_
  infer_instance

instance : Relates strict R V898ToV924.rewritePreset := by
  unfold V898ToV924.rewritePreset
  repeat refine Relates.bind inferInstance fun _ => ?_
  infer_instance

instance : Relates strict R V898ToV924.rewriteCameraAimAssistPresets := by
  unfold V898ToV924.rewriteCameraAimAssistPresets
  infer_instance

instance : Relates strict R V924ToV898.rewriteCategory := by
  unfold V924ToV898.rewriteCategory
  repeat refine Relates.bind inferInstance fun _ => ?_
  infer_instance

instance : Relates strict R V924ToV898.rewritePreset := by
  unfold V924ToV898.rewritePreset
  repeat refine Relates.bind inferInstance fun _ => ?_
  infer_instance

instance : Relates strict R V924ToV898.rewriteCameraAimAssistPresets := by
  unfold V924ToV898.rewriteCameraAimAssistPresets
  infer_instance

instance : Relates strict R stripPathUpdateCount := by
  unfold stripPathUpdateCount
  infer_instance

instance : Relates strict R appendPathUpdateCount := by
  unfold appendPathUpdateCount
  infer_instance

instance (dataType : Int) : Relates strict R (passthroughDataStoreValue dataType) := by
  unfold passthroughDataStoreValue
  infer_instance

instance (pathUpdateCount : PacketHandler) [Relates strict R pathUpdateCount] :
    Relates strict R (passthroughPropertyUpdate pathUpdateCount) := by
  unfold passthroughPropertyUpdate
  repeat refine Relates.bind inferInstance fun _ => ?_
  infer_instance

instance (calls : ℕ) (pathUpdateCount : PacketHandler) [Relates strict R pathUpdateCount] :
    Relates strict R (passthroughDataStoreAction calls pathUpdateCount) := by
  unfold passthroughDataStoreAction
  repeat' first
    | infer_instance
    | refine Relates.bind ?_ fun _ => ?_

instance : Relates strict R V924ToV898.passthroughExtraShapeData := by
  unfold V924ToV898.passthroughExtraShapeData
  repeat' first
    | infer_instance
    | refine Relates.bind ?_ fun _ => ?_

instance : Relates strict R V924ToV898.passthroughShapeCommon := by
  unfold V924ToV898.passthroughShapeCommon
  repeat refine Relates.bind inferInstance fun _ => ?_
  infer_instance

instance (attachedToEntityId : PacketHandler) [Relates strict R attachedToEntityId] :
    Relates strict R (V924ToV898.passthroughShape attachedToEntityId) := by
  unfold V924ToV898.passthroughShape
  infer_instance

instance : Relates strict R V924ToV898.stripAttachedToEntityId := by
  unfold V924ToV898.stripAttachedToEntityId
  infer_instance

instance (old new : FieldType BiomeDefinitionData) [old.Framed] :
    Relates strict R (mapBiomeDefinitionList old new) := by
  unfold mapBiomeDefinitionList
  infer_instance

/-! ### Sounds, waypoints and attribute layers -/

instance : Relates strict R V944ToV975.rewriteLevelSoundEvent := by
  unfold V944ToV975.rewriteLevelSoundEvent
  repeat refine Relates.bind inferInstance fun _ => ?_
  infer_instance

instance : Relates strict R V944ToV975.dropTextureId := by
  unfold V944ToV975.dropTextureId
  infer_instance

instance : Relates strict R V944ToV975.rewriteWaypoint := by
  unfold V944ToV975.rewriteWaypoint
  repeat refine Relates.bind inferInstance fun _ => ?_
  infer_instance

instance : Relates strict R V944ToV975.rewriteLocatorBar := by
  unfold V944ToV975.rewriteLocatorBar
  infer_instance

instance : Relates strict R V944ToV975.mapLayerSettings := by
  unfold V944ToV975.mapLayerSettings
  infer_instance

instance : actorDataList.Framed := by unfold actorDataList; infer_instance

instance (s : SoundRewriter) : Relates strict R s.remapActorData := by
  unfold SoundRewriter.remapActorData
  dsimp only
  infer_instance

instance : Relates strict R SoundRewriter.passthroughAttribute := by
  unfold SoundRewriter.passthroughAttribute
  infer_instance

/-! ### Items, transactions and chunks -/

instance : Relates strict R upgradeItem := by
  unfold upgradeItem
  infer_instance

instance (oldItem newItem : FieldType ItemInstance) (oldSlot newSlot : FieldType Int)
    [oldItem.Framed] [oldSlot.Framed] :
    Relates strict R (V944ToV975.mapMobEquipment oldItem newItem oldSlot newSlot) := by
  unfold V944ToV975.mapMobEquipment
  repeat refine Relates.bind inferInstance fun _ => ?_
  infer_instance

instance (hasDynamicId : Bool) : Relates strict R (V944ToV975.readDynamicId hasDynamicId) := by
  unfold V944ToV975.readDynamicId
  infer_instance

instance (hasDynamicId : Bool) (dynamicId : Int) :
    Relates strict R (V944ToV975.writeDynamicId hasDynamicId dynamicId) := by
  unfold V944ToV975.writeDynamicId
  infer_instance

instance : Relates strict R V944ToV975.wrapContainerName := by
  unfold V944ToV975.wrapContainerName
  infer_instance

instance : Relates strict R V944ToV975.unwrapStorage := by
  unfold V944ToV975.unwrapStorage
  infer_instance

instance : Relates strict R V944ToV975.rewriteInventorySlot := by
  unfold V944ToV975.rewriteInventorySlot
  infer_instance

instance : Relates strict R V975ToV1001.passthroughContainerName := by
  unfold V975ToV1001.passthroughContainerName
  infer_instance

instance : Relates strict R V975ToV1001.rewriteInventoryContent := by
  unfold V975ToV1001.rewriteInventoryContent
  infer_instance

instance : Relates strict R V975ToV1001.rewriteMobArmourEquipment := by
  unfold V975ToV1001.rewriteMobArmourEquipment
  infer_instance

section Transactions

open V975ToV1001

instance (transactionType : Int) (useItem useItemOnEntity releaseItem : PacketHandler)
    [Relates strict R useItem] [Relates strict R useItemOnEntity] [Relates strict R releaseItem] :
    Relates strict R
      (rewriteTransactionData transactionType useItem useItemOnEntity releaseItem) := by
  unfold rewriteTransactionData
  infer_instance

instance (T : FieldType Int) [T.Framed] : Relates strict R (readPresence T) := by
  unfold readPresence
  infer_instance

instance : Relates strict R rewriteAction := by
  unfold rewriteAction
  repeat refine Relates.bind inferInstance fun _ => ?_
  infer_instance

instance : Relates strict R rewriteUseItem := by
  unfold rewriteUseItem
  repeat refine Relates.bind inferInstance fun _ => ?_
  infer_instance

instance : Relates strict R rewriteUseItemOnEntity := by
  unfold rewriteUseItemOnEntity
  repeat refine Relates.bind inferInstance fun _ => ?_
  infer_instance

instance : Relates strict R rewriteReleaseItem := by
  unfold rewriteReleaseItem
  repeat refine Relates.bind inferInstance fun _ => ?_
  infer_instance

instance : Relates strict R V975ToV1001.rewriteInventoryTransaction := by
  unfold V975ToV1001.rewriteInventoryTransaction
  repeat refine Relates.bind inferInstance fun _ => ?_
  infer_instance

instance (value : Option Int) : Relates strict R (assertSome value) := by
  unfold assertSome
  cases value <;> infer_instance

instance (T : FieldType Int) (gate : Bool) (value : Option Int) :
    Relates strict R (writePresence T gate value) := by
  unfold writePresence
  repeat refine Relates.bind inferInstance fun _ => ?_
  infer_instance

instance : Relates strict R actionOldToNew := by
  unfold actionOldToNew
  repeat refine Relates.bind inferInstance fun _ => ?_
  infer_instance

instance : Relates strict R useItemOldToNew := by
  unfold useItemOldToNew
  repeat refine Relates.bind inferInstance fun _ => ?_
  infer_instance

instance : Relates strict R useItemOnEntityOldToNew := by
  unfold useItemOnEntityOldToNew
  repeat refine Relates.bind inferInstance fun _ => ?_
  infer_instance

instance : Relates strict R releaseItemOldToNew := by
  unfold releaseItemOldToNew
  repeat refine Relates.bind inferInstance fun _ => ?_
  infer_instance

instance : Relates strict R rewriteInventoryTransactionClientbound := by
  unfold rewriteInventoryTransactionClientbound
  repeat refine Relates.bind inferInstance fun _ => ?_
  infer_instance

instance : Relates strict R rewriteSubChunkRequest := by
  unfold rewriteSubChunkRequest
  repeat refine Relates.bind inferInstance fun _ => ?_
  infer_instance

instance : Relates strict R rewriteClientCacheBlobStatus := by
  unfold rewriteClientCacheBlobStatus
  repeat refine Relates.bind inferInstance fun _ => ?_
  infer_instance

instance (subChunkCount : Int) : Relates strict R (rewriteSubChunkCount subChunkCount) := by
  unfold rewriteSubChunkCount
  infer_instance

instance (eventType : Int) : Relates strict R (readSwitch eventType) := by
  unfold readSwitch
  infer_instance

instance (eventType : Int) (fields : BossEventFields) :
    Relates strict R (writeSwitch eventType fields) := by
  unfold writeSwitch
  repeat' first
    | infer_instance
    | refine Relates.bind ?_ fun _ => ?_
    | split

end Transactions

/-! ### Diagnostics and graphics -/

instance : Relates strict R passthroughAverages := by
  unfold passthroughAverages
  infer_instance

instance : Relates strict R passthroughKeyframe := by
  unfold passthroughKeyframe
  infer_instance

instance : Relates strict R V924ToV898.rewriteDiagnostics := by
  unfold V924ToV898.rewriteDiagnostics
  infer_instance

instance : Relates strict R V898ToV924.rewriteGraphicsParameterOverride := by
  unfold V898ToV924.rewriteGraphicsParameterOverride
  infer_instance

instance : Relates strict R V924ToV898.rewriteGraphicsParameterOverride := by
  unfold V924ToV898.rewriteGraphicsParameterOverride
  infer_instance

instance : Relates strict R V924ToV944.rewriteUpdateClientInputLocks := by
  unfold V924ToV944.rewriteUpdateClientInputLocks
  infer_instance

instance : Relates strict R V944ToV924.rewriteUpdateClientInputLocks := by
  unfold V944ToV924.rewriteUpdateClientInputLocks
  infer_instance

instance : Relates strict R V975ToV1001.passthroughMemoryCategory := by
  unfold V975ToV1001.passthroughMemoryCategory
  infer_instance

instance : Relates strict R V975ToV1001.passthroughEntityTiming := by
  unfold V975ToV1001.passthroughEntityTiming
  infer_instance

instance : Relates strict R V975ToV1001.passthroughSystemTiming := by
  unfold V975ToV1001.passthroughSystemTiming
  infer_instance

/-! ### The members of the families -/

instance : Relates strict R V924ToV944.rewriteFirstNetBlockToBlock := by
  unfold V924ToV944.rewriteFirstNetBlockToBlock
  infer_instance

instance : Relates strict R V924ToV944.rewriteFirstBlockToNetBlock := by
  unfold V924ToV944.rewriteFirstBlockToNetBlock
  infer_instance

instance : Relates strict R V924ToV944.rewriteTileEvent := by
  unfold V924ToV944.rewriteTileEvent
  infer_instance

instance : Relates strict R V924ToV944.rewriteSetSpawnPosition := by
  unfold V924ToV944.rewriteSetSpawnPosition
  infer_instance

instance : Relates strict R V924ToV944.rewriteAddVolumeEntity := by
  unfold V924ToV944.rewriteAddVolumeEntity
  infer_instance

instance : Relates strict R V924ToV944.rewriteUpdateSubChunkBlocks := by
  unfold V924ToV944.rewriteUpdateSubChunkBlocks
  infer_instance

instance : Relates strict R V924ToV944.rewritePlaySound := by
  unfold V924ToV944.rewritePlaySound
  infer_instance

instance : Relates strict R V924ToV944.rewriteMapData := by
  unfold V924ToV944.rewriteMapData
  infer_instance

instance : Relates strict R V924ToV944.rewriteContainerOpen := by
  unfold V924ToV944.rewriteContainerOpen
  infer_instance

instance : Relates strict R V924ToV944.rewriteInventoryTransaction := by
  unfold V924ToV944.rewriteInventoryTransaction
  infer_instance

instance : Relates strict R V924ToV944.rewritePlayerAction := by
  unfold V924ToV944.rewritePlayerAction
  infer_instance

instance : Relates strict R V924ToV944.rewriteStructureBlockUpdate := by
  unfold V924ToV944.rewriteStructureBlockUpdate
  infer_instance

instance : Relates strict R V924ToV944.rewriteCommandBlockUpdate := by
  unfold V924ToV944.rewriteCommandBlockUpdate
  infer_instance

instance : Relates strict R V924ToV944.rewriteStructureTemplateDataRequest := by
  unfold V924ToV944.rewriteStructureTemplateDataRequest
  infer_instance

instance : Relates strict R V924ToV944.rewriteAnvilDamage := by
  unfold V924ToV944.rewriteAnvilDamage
  infer_instance

instance : Relates strict R V924ToV944.rewriteCameraInstruction := by
  unfold V924ToV944.rewriteCameraInstruction
  infer_instance

instance : Relates strict R V924ToV944.rewriteCameraSpline := by
  unfold V924ToV944.rewriteCameraSpline
  infer_instance

instance (direction : Direction) :
    Relates strict R (V924ToV944.rewriteLecternUpdate direction) := by
  cases direction <;>
  · unfold V924ToV944.rewriteLecternUpdate
    infer_instance

instance : Relates strict R V944ToV924.rewriteFirstBlockToNet := by
  unfold V944ToV924.rewriteFirstBlockToNet
  infer_instance

instance : Relates strict R V944ToV924.rewriteFirstNetToBlock := by
  unfold V944ToV924.rewriteFirstNetToBlock
  infer_instance

instance : Relates strict R V944ToV924.rewriteTileEvent := by
  unfold V944ToV924.rewriteTileEvent
  infer_instance

instance : Relates strict R V944ToV924.rewriteSetSpawnPosition := by
  unfold V944ToV924.rewriteSetSpawnPosition
  infer_instance

instance : Relates strict R V944ToV924.rewriteAddVolumeEntity := by
  unfold V944ToV924.rewriteAddVolumeEntity
  infer_instance

instance : Relates strict R V944ToV924.rewriteUpdateSubChunkBlocks := by
  unfold V944ToV924.rewriteUpdateSubChunkBlocks
  infer_instance

instance : Relates strict R V944ToV924.rewritePlaySound := by
  unfold V944ToV924.rewritePlaySound
  infer_instance

instance : Relates strict R V944ToV924.rewriteMapData := by
  unfold V944ToV924.rewriteMapData
  infer_instance

instance : Relates strict R V944ToV924.rewriteContainerOpen := by
  unfold V944ToV924.rewriteContainerOpen
  infer_instance

instance : Relates strict R V944ToV924.addCooldownState := by
  unfold V944ToV924.addCooldownState
  infer_instance

instance : Relates strict R V944ToV924.rewriteInventoryTransaction := by
  unfold V944ToV924.rewriteInventoryTransaction
  infer_instance

instance : Relates strict R V944ToV924.rewritePlayerAction := by
  unfold V944ToV924.rewritePlayerAction
  infer_instance

instance : Relates strict R V944ToV924.rewriteStructureBlockUpdate := by
  unfold V944ToV924.rewriteStructureBlockUpdate
  infer_instance

instance : Relates strict R V944ToV924.rewriteCommandBlockUpdate := by
  unfold V944ToV924.rewriteCommandBlockUpdate
  infer_instance

instance : Relates strict R V944ToV924.rewriteStructureTemplateDataRequest := by
  unfold V944ToV924.rewriteStructureTemplateDataRequest
  infer_instance

instance : Relates strict R V944ToV924.rewriteAnvilDamage := by
  unfold V944ToV924.rewriteAnvilDamage
  infer_instance

instance : Relates strict R V944ToV924.rewriteCameraInstruction := by
  unfold V944ToV924.rewriteCameraInstruction
  infer_instance

instance : Relates strict R V944ToV924.rewriteCameraSpline := by
  unfold V944ToV924.rewriteCameraSpline
  infer_instance

instance (direction : Direction) :
    Relates strict R (V944ToV924.rewriteLecternUpdate direction) := by
  cases direction <;>
  · unfold V944ToV924.rewriteLecternUpdate
    infer_instance

instance : Relates strict R V898ToV924.rewriteCameraInstruction := by
  unfold V898ToV924.rewriteCameraInstruction
  infer_instance

instance : Relates strict R V898ToV924.rewriteServerboundDataStore := by
  unfold V898ToV924.rewriteServerboundDataStore
  infer_instance

instance (calls : ℕ) : Relates strict R (V898ToV924.rewriteClientboundDataStore calls) := by
  unfold V898ToV924.rewriteClientboundDataStore
  infer_instance

instance : Relates strict R V898ToV924.rewriteDebugDrawer := by
  unfold V898ToV924.rewriteDebugDrawer
  infer_instance

instance : Relates strict R V898ToV924.rewriteBiomeDefinitionList := by
  unfold V898ToV924.rewriteBiomeDefinitionList
  infer_instance

instance : Relates strict R V924ToV898.rewriteCameraInstruction := by
  unfold V924ToV898.rewriteCameraInstruction
  infer_instance

instance : Relates strict R V924ToV898.rewriteServerboundDataStore := by
  unfold V924ToV898.rewriteServerboundDataStore
  infer_instance

instance (calls : ℕ) : Relates strict R (V924ToV898.rewriteClientboundDataStore calls) := by
  unfold V924ToV898.rewriteClientboundDataStore
  infer_instance

instance : Relates strict R V924ToV898.rewriteDebugDrawer := by
  unfold V924ToV898.rewriteDebugDrawer
  infer_instance

instance : Relates strict R V924ToV898.rewriteBiomeDefinitionList := by
  unfold V924ToV898.rewriteBiomeDefinitionList
  infer_instance

instance (direction : Direction) : Relates strict R (V944ToV975.rewriteMobEquipment direction) := by
  cases direction <;>
  · unfold V944ToV975.rewriteMobEquipment
    infer_instance

end Compatible

section FullyCompatible

variable [FullyCompatible strict R]

instance : Relates strict R V860ToV898.rewriteEvent := by
  unfold V860ToV898.rewriteEvent
  repeat refine Relates.bind inferInstance fun _ => ?_
  infer_instance

instance : Relates strict R V898ToV860.rewriteEvent := by
  unfold V898ToV860.rewriteEvent
  repeat refine Relates.bind inferInstance fun _ => ?_
  infer_instance

instance : Relates strict R V944ToV975.rewriteStartGame := by
  unfold V944ToV975.rewriteStartGame
  infer_instance

instance : Relates strict R V975ToV1001.rewriteStartGame := by
  unfold V975ToV1001.rewriteStartGame
  repeat refine Relates.bind inferInstance fun _ => ?_
  infer_instance

instance (uuid5 : String → BitVec 128) :
    Relates strict R (V944ToV975.rewriteCraftingData uuid5) := by
  unfold V944ToV975.rewriteCraftingData
  infer_instance

instance (direction : Direction) :
    Relates strict R (V975ToV1001.rewriteLevelSoundEvent direction) := by
  unfold V975ToV1001.rewriteLevelSoundEvent
  cases direction <;> infer_instance

instance (direction : Direction) : Relates strict R (V944ToV975.rewriteActorEvent direction) := by
  cases direction with
  | clientbound =>
    unfold V944ToV975.rewriteActorEvent
    infer_instance
  | serverbound => infer_instance

instance (s : SoundRewriter) : Relates strict R s.rewriteLevelSoundEvent := by
  unfold SoundRewriter.rewriteLevelSoundEvent
  repeat refine Relates.bind inferInstance fun _ => ?_
  infer_instance

instance (s : SoundRewriter) : Relates strict R s.rewriteSetActorData := by
  unfold SoundRewriter.rewriteSetActorData
  repeat refine Relates.bind inferInstance fun _ => ?_
  infer_instance

instance (s : SoundRewriter) : Relates strict R s.rewriteAddActor := by
  unfold SoundRewriter.rewriteAddActor
  repeat refine Relates.bind inferInstance fun _ => ?_
  infer_instance

instance (s : SoundRewriter) : Relates strict R s.rewriteAddItemActor := by
  unfold SoundRewriter.rewriteAddItemActor
  repeat refine Relates.bind inferInstance fun _ => ?_
  infer_instance

instance (s : SoundRewriter) : Relates strict R s.rewriteAddPlayer := by
  unfold SoundRewriter.rewriteAddPlayer
  repeat refine Relates.bind inferInstance fun _ => ?_
  infer_instance

instance : Relates strict R V944ToV975.rewriteClientboundAttributeLayerSync := by
  unfold V944ToV975.rewriteClientboundAttributeLayerSync
  refine Relates.bind inferInstance fun tag => Relates.bind inferInstance fun payload => ?_
  cases payload <;> infer_instance

/-- The number of rounds is read off the unread bytes, which a parser can count. -/
instance : Relates strict R V944ToV975.passthroughBitset := by
  have hcount : Relates strict R (onReader fun r => .ok (r.rest.length + 1) r) :=
    FullyCompatible.relates_anyReader _
  exact Relates.bind (k := V944ToV975.passthroughBitsetUpTo) hcount fun _ => inferInstance

instance : Relates strict R V898ToV924.rewriteDiagnostics := by
  unfold V898ToV924.rewriteDiagnostics
  repeat refine Relates.bind inferInstance fun _ => ?_
  infer_instance

instance : Relates strict R V924ToV944.rewriteVoxelShapes := by
  unfold V924ToV944.rewriteVoxelShapes
  repeat refine Relates.bind inferInstance fun _ => ?_
  infer_instance

instance : Relates strict R V944ToV924.rewriteVoxelShapes := by
  unfold V944ToV924.rewriteVoxelShapes
  repeat refine Relates.bind inferInstance fun _ => ?_
  infer_instance

instance : Relates strict R V944ToV975.rewritePlaySound := by
  unfold V944ToV975.rewritePlaySound
  repeat refine Relates.bind inferInstance fun _ => ?_
  infer_instance

instance : Relates strict R V975ToV1001.rewriteDiagnostics := by
  unfold V975ToV1001.rewriteDiagnostics
  repeat refine Relates.bind inferInstance fun _ => ?_
  infer_instance

instance : Relates strict R V975ToV1001.rewriteLevelChunk := by
  unfold V975ToV1001.rewriteLevelChunk
  repeat refine Relates.bind inferInstance fun _ => ?_
  infer_instance

instance : Relates strict R V924ToV944.rewriteShowScreen := by
  unfold V924ToV944.rewriteShowScreen
  repeat refine Relates.bind inferInstance fun _ => ?_
  infer_instance

instance : Relates strict R V924ToV944.rewriteCloseAllScreens := by
  unfold V924ToV944.rewriteCloseAllScreens
  repeat refine Relates.bind inferInstance fun _ => ?_
  infer_instance

instance : Relates strict R V975ToV1001.rewriteBossEvent := by
  unfold V975ToV1001.rewriteBossEvent
  repeat refine Relates.bind inferInstance fun _ => ?_
  split_ifs
  · infer_instance
  · repeat refine Relates.bind inferInstance fun _ => ?_
    infer_instance

instance : Relates strict R V975ToV1001.rewriteBossEventServerbound := by
  unfold V975ToV1001.rewriteBossEventServerbound
  repeat refine Relates.bind inferInstance fun _ => ?_
  infer_instance

end FullyCompatible

/-! ### Bitsets -/

/-- More rounds than a bitset takes make no difference to it. -/
theorem passthroughBitsetUpTo_mono {rounds more : Nat} (hle : rounds ≤ more)
    {s s' : PacketWrapper} (h : V944ToV975.passthroughBitsetUpTo rounds s = .ok () s') :
    V944ToV975.passthroughBitsetUpTo more s = .ok () s' := by
  induction rounds generalizing more s with
  | zero => cases h
  | succ rounds ih =>
    obtain ⟨more, rfl⟩ : ∃ k, more = k + 1 := ⟨more - 1, by omega⟩
    unfold V944ToV975.passthroughBitsetUpTo at h ⊢
    obtain ⟨b, s₁, hb, hrest⟩ := bind_eq_ok h
    rw [bind_ok hb]
    split_ifs at hrest ⊢ with hlast
    · exact hrest
    · exact ih (by omega) hrest

instance (suf : List UInt8) : Relates False (Extended suf) V944ToV975.passthroughBitset := by
  constructor
  intro s t hR
  unfold V944ToV975.passthroughBitset
  cases hs : V944ToV975.passthroughBitsetUpTo (s.reader.rest.length + 1) s with
  | error e s' => exact fun h => h.elim
  | ok a s' =>
    have hrelates : Relates False (Extended suf)
        (V944ToV975.passthroughBitsetUpTo (s.reader.rest.length + 1)) := inferInstance
    obtain ⟨t', ht, hR'⟩ := hrelates.of_ok hR hs
    refine ⟨t', passthroughBitsetUpTo_mono ?_ ht, hR'⟩
    obtain ⟨_, rfl⟩ := hR
    simp only [Cursor.rest, List.length_drop, List.length_append]
    omega

/-! ### Handlers that end by copying all that is left -/

instance : Extends V860ToV898.rewriteEvent := by
  unfold V860ToV898.rewriteEvent
  infer_instance

instance : Extends V898ToV860.rewriteEvent := by
  unfold V898ToV860.rewriteEvent
  infer_instance

instance : Extends V944ToV975.rewriteStartGame := by
  unfold V944ToV975.rewriteStartGame
  infer_instance

instance : Extends V975ToV1001.rewriteStartGame := by
  unfold V975ToV1001.rewriteStartGame
  repeat refine Extends.bind inferInstance fun _ => ?_
  infer_instance

instance (uuid5 : String → BitVec 128) : Extends (V944ToV975.rewriteCraftingData uuid5) := by
  unfold V944ToV975.rewriteCraftingData
  infer_instance

instance (direction : Direction) : Extends (V975ToV1001.rewriteLevelSoundEvent direction) := by
  unfold V975ToV1001.rewriteLevelSoundEvent
  cases direction <;> infer_instance

instance (s : SoundRewriter) : Extends s.rewriteLevelSoundEvent := by
  unfold SoundRewriter.rewriteLevelSoundEvent
  repeat refine Extends.bind inferInstance fun _ => ?_
  infer_instance

instance (s : SoundRewriter) : Extends s.rewriteSetActorData := by
  unfold SoundRewriter.rewriteSetActorData
  repeat refine Extends.bind inferInstance fun _ => ?_
  infer_instance

instance (s : SoundRewriter) : Extends s.rewriteAddActor := by
  unfold SoundRewriter.rewriteAddActor
  repeat refine Extends.bind inferInstance fun _ => ?_
  infer_instance

instance (s : SoundRewriter) : Extends s.rewriteAddItemActor := by
  unfold SoundRewriter.rewriteAddItemActor
  repeat refine Extends.bind inferInstance fun _ => ?_
  infer_instance

instance (s : SoundRewriter) : Extends s.rewriteAddPlayer := by
  unfold SoundRewriter.rewriteAddPlayer
  repeat refine Extends.bind inferInstance fun _ => ?_
  infer_instance

instance : Extends V944ToV975.rewriteClientboundAttributeLayerSync := by
  unfold V944ToV975.rewriteClientboundAttributeLayerSync
  refine Extends.bind inferInstance fun tag => Extends.bind inferInstance fun payload => ?_
  cases payload <;> infer_instance

instance : Extends V975ToV1001.rewriteLevelChunk := by
  unfold V975ToV1001.rewriteLevelChunk
  repeat refine Extends.bind inferInstance fun _ => ?_
  infer_instance

end Endweave
