import Endweave.Codec.Types.ActorData
import Endweave.Codec.Types.AttributeLayer
import Endweave.Codec.Types.Biome
import Endweave.Codec.Types.Camera
import Endweave.Codec.Types.Commands
import Endweave.Codec.Types.Crafting
import Endweave.Codec.Types.DataStore
import Endweave.Codec.Types.LevelSettings
import Endweave.Codec.Types.Structure

/-!
# The codec types

All types of `codec/types`, module by module, with `REMAINING_BYTES` apart: the others read as much
as the value takes, whatever follows.
-/

namespace Endweave

/-- An instance of a `Type` other than `REMAINING_BYTES`, or an array or an optional of one. -/
inductive CodecType : {α : Type} → FieldType α → Prop where
  -- primitives
  | byte : CodecType byte
  | int8 : CodecType int8
  | bool : CodecType bool
  | shortLE : CodecType shortLE
  | ushortLE : CodecType ushortLE
  | intLE : CodecType intLE
  | intBE : CodecType intBE
  | uintLE : CodecType uintLE
  | int64LE : CodecType int64LE
  | uint64LE : CodecType uint64LE
  | floatLE : CodecType floatLE
  | doubleLE : CodecType doubleLE
  | varInt : CodecType varInt
  | uvarInt : CodecType uvarInt
  | varInt64 : CodecType varInt64
  | uvarInt64 : CodecType uvarInt64
  | string : CodecType string
  | bytes (length : Int) : CodecType (bytes length)
  | networkBlockPos : CodecType networkBlockPos
  | blockPos : CodecType blockPos
  | vec3 : CodecType vec3
  | vec2 : CodecType vec2
  | uuid : CodecType uuid
  | arrayType {α : Type} {inner : FieldType α} (h : CodecType inner) : CodecType (arrayType inner)
  | optionalType {α : Type} {inner : FieldType α} (h : CodecType inner) :
    CodecType (optionalType inner)
  -- nbt
  | namedCompoundTag : CodecType namedCompoundTag
  | compoundTag : CodecType compoundTag
  -- actor_data
  | actorDataItem : CodecType actorDataItem
  -- attribute_layer
  | boolAttributeData : CodecType boolAttributeData
  | floatAttributeData : CodecType floatAttributeData
  | colorAttributeData : CodecType colorAttributeData
  | attributeData : CodecType attributeData
  | environmentAttributeData : CodecType environmentAttributeData
  | attributeLayerSettingsV944 : CodecType attributeLayerSettingsV944
  | attributeLayerSettingsV975 : CodecType attributeLayerSettingsV975
  -- biome
  | biomeClimate : CodecType biomeClimate
  | biomeWeight : CodecType biomeWeight
  | biomeWeightedTemperature : CodecType biomeWeightedTemperature
  | biomeCoordinate : CodecType biomeCoordinate
  | biomeSurfaceMaterial : CodecType biomeSurfaceMaterial
  | biomeElement : CodecType biomeElement
  | biomeScatterParam : CodecType biomeScatterParam
  | biomeConsolidatedFeature : CodecType biomeConsolidatedFeature
  | biomeMountainParams : CodecType biomeMountainParams
  | biomeMesaSurface : CodecType biomeMesaSurface
  | biomeCappedSurface : CodecType biomeCappedSurface
  | biomeConditionalTransformation : CodecType biomeConditionalTransformation
  | biomeOverworldGenRules : CodecType biomeOverworldGenRules
  | biomeMultinoiseGenRules : CodecType biomeMultinoiseGenRules
  | biomeLegacyWorldGenRules : CodecType biomeLegacyWorldGenRules
  | biomeReplacementData : CodecType biomeReplacementData
  | biomeDefinitionChunkGenDataV898 : CodecType biomeDefinitionChunkGenDataV898
  | biomeDefinitionChunkGenDataV924 : CodecType biomeDefinitionChunkGenDataV924
  | biomeDefinitionV898 : CodecType biomeDefinitionV898
  | biomeDefinitionV924 : CodecType biomeDefinitionV924
  -- camera
  | splineInstructionV898 : CodecType splineInstructionV898
  | splineInstructionV924 : CodecType splineInstructionV924
  | splineInstructionV944 : CodecType splineInstructionV944
  -- commands
  | commandParameter : CodecType commandParameter
  | commandOverload : CodecType commandOverload
  | commandEnumV898 : CodecType commandEnumV898
  | makeCommandEnumV860 (valuesSize : Nat) : CodecType (makeCommandEnumV860 valuesSize)
  | commandSubcommandV860 : CodecType commandSubcommandV860
  | commandSubcommandV898 : CodecType commandSubcommandV898
  | commandDefinitionV860 : CodecType commandDefinitionV860
  | commandDefinitionV898 : CodecType commandDefinitionV898
  | softEnum : CodecType softEnum
  | commandConstraint : CodecType commandConstraint
  | commandOriginV860 : CodecType commandOriginV860
  | commandOriginV898 : CodecType commandOriginV898
  -- crafting
  | itemDescriptor : CodecType itemDescriptor
  | recipeIngredient : CodecType recipeIngredient
  | recipeUnlockingRequirement : CodecType recipeUnlockingRequirement
  | shapelessRecipe : CodecType shapelessRecipe
  | shapedRecipe : CodecType shapedRecipe
  | multiRecipe : CodecType multiRecipe
  | userDataShapelessRecipe : CodecType userDataShapelessRecipe
  | shapelessChemistryRecipe : CodecType shapelessChemistryRecipe
  | shapedChemistryRecipe : CodecType shapedChemistryRecipe
  | smithingTransformRecipe : CodecType smithingTransformRecipe
  | smithingTrimRecipe : CodecType smithingTrimRecipe
  | craftingDataEntry : CodecType craftingDataEntry
  -- data_store
  | changeValue (calls : ℕ) : CodecType (changeValue calls)
  -- gameplay
  | gameRules : CodecType gameRules
  | experiments : CodecType experiments
  | experimentsV860 : CodecType experimentsV860
  -- inventory, item
  | inventoryAction : CodecType inventoryAction
  | itemInstance : CodecType itemInstance
  | networkItemInstanceDescriptor : CodecType networkItemInstanceDescriptor
  | itemInstanceV975 : CodecType itemInstanceV975
  -- level_settings
  | levelSettingsV860 : CodecType levelSettingsV860
  | levelSettingsV924 : CodecType levelSettingsV924
  | levelSettingsV944 : CodecType levelSettingsV944
  -- structure
  | structureSettingsV924 : CodecType structureSettingsV924
  | structureSettingsV944 : CodecType structureSettingsV944

end Endweave
