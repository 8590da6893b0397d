import Endweave.Codec.Equiv.Locality
import Endweave.Codec.Types.CodecType

/-!
# Every codec type is framed

One instance for each type, in the order of `CodecType`; most are framed by their shape.  The others
choose what to read or to write by a tag, a table or a variant of the value, which is the case split
of their proofs.
-/

namespace Endweave

open Wire PacketReader PacketWriter

/-! ### Enumerations -/

instance {ε : Type} (name : String) (members : List ε) (value : ε → Int) (v : Int) :
    Local (enumMember name members value v : Parser PyException UInt8 ε) := by
  unfold enumMember
  split
  · infer_instance
  · infer_instance

/-! ### Actor data -/

instance (typeId : Int) : Local (readActorDataValue typeId) := by
  unfold readActorDataValue
  infer_instance

instance (value : ActorDataValue) : Appends (writeActorDataValue value) := by
  cases value <;>
  · unfold writeActorDataValue
    infer_instance

instance : actorDataItem.Framed := by unfold actorDataItem; infer_instance

/-! ### Attribute layers -/

instance : boolAttributeData.Framed := by unfold boolAttributeData; infer_instance

instance : floatAttributeData.Framed := by unfold floatAttributeData; infer_instance

instance : colorAttributeData.Framed := by unfold colorAttributeData; infer_instance

instance (v : Int) :
    Local (AttributeDataType.ofValue v : Parser PyException UInt8 AttributeDataType) := by
  unfold AttributeDataType.ofValue
  infer_instance

instance : attributeData.Framed where
  read := by
    unfold attributeData
    apply Local.bind inferInstance
    intro tag
    apply Local.bind inferInstance
    intro kind
    cases kind <;> infer_instance
  write data := by
    unfold attributeData
    cases data <;> infer_instance

instance : environmentAttributeData.Framed := by unfold environmentAttributeData; infer_instance

instance (v : Int) :
    Local (AttributeLayerWeightType.ofValue v :
      Parser PyException UInt8 AttributeLayerWeightType) := by
  unfold AttributeLayerWeightType.ofValue
  infer_instance

instance : attributeLayerSettingsV944.Framed where
  read := by
    unfold attributeLayerSettingsV944
    apply Local.bind inferInstance
    intro priority
    apply Local.bind inferInstance
    intro tag
    apply Local.bind inferInstance
    intro weightType
    cases weightType <;> infer_instance
  write settings := by
    unfold attributeLayerSettingsV944
    infer_instance

instance : attributeLayerSettingsV975.Framed := by unfold attributeLayerSettingsV975; infer_instance

/-! ### Biomes -/

instance : biomeClimate.Framed := by unfold biomeClimate; infer_instance

instance : biomeWeight.Framed := by unfold biomeWeight; infer_instance

instance : biomeWeightedTemperature.Framed := by unfold biomeWeightedTemperature; infer_instance

instance : biomeCoordinate.Framed := by unfold biomeCoordinate; infer_instance

instance : biomeSurfaceMaterial.Framed := by unfold biomeSurfaceMaterial; infer_instance

instance : biomeElement.Framed := by unfold biomeElement; infer_instance

instance : biomeScatterParam.Framed := by unfold biomeScatterParam; infer_instance

instance : biomeConsolidatedFeature.Framed := by unfold biomeConsolidatedFeature; infer_instance

instance : biomeMountainParams.Framed := by unfold biomeMountainParams; infer_instance

instance : biomeMesaSurface.Framed := by unfold biomeMesaSurface; infer_instance

instance : biomeCappedSurface.Framed := by unfold biomeCappedSurface; infer_instance

instance : biomeConditionalTransformation.Framed := by
  unfold biomeConditionalTransformation
  infer_instance

instance : biomeOverworldGenRules.Framed := by unfold biomeOverworldGenRules; infer_instance

instance : biomeMultinoiseGenRules.Framed := by unfold biomeMultinoiseGenRules; infer_instance

instance : biomeLegacyWorldGenRules.Framed := by unfold biomeLegacyWorldGenRules; infer_instance

instance : biomeReplacementData.Framed := by unfold biomeReplacementData; infer_instance

instance : biomeDefinitionChunkGenDataV898.Framed where
  read := by
    unfold biomeDefinitionChunkGenDataV898
    infer_instance
  write value := by
    unfold biomeDefinitionChunkGenDataV898
    infer_instance

instance : biomeDefinitionChunkGenDataV924.Framed := by
  unfold biomeDefinitionChunkGenDataV924
  infer_instance

instance (chunkGenDataType : FieldType BiomeDefinitionChunkGenData) [chunkGenDataType.Framed] :
    (biomeDefinitionType chunkGenDataType).Framed := by
  unfold biomeDefinitionType
  infer_instance

instance : biomeDefinitionV898.Framed := by unfold biomeDefinitionV898; infer_instance

instance : biomeDefinitionV924.Framed := by unfold biomeDefinitionV924; infer_instance

/-! ### Splines -/

instance : keyFrameV898.Framed := by unfold keyFrameV898; infer_instance

instance : keyFrameV924.Framed := by unfold keyFrameV924; infer_instance

instance : rotationKeyFrameV898.Framed := by unfold rotationKeyFrameV898; infer_instance

instance : rotationKeyFrameV924.Framed := by unfold rotationKeyFrameV924; infer_instance

instance (keyFrame : FieldType KeyFrame) (rotationKeyFrame : FieldType RotationKeyFrame)
    [keyFrame.Framed] [rotationKeyFrame.Framed] :
    (splineInstructionType keyFrame rotationKeyFrame).Framed := by
  unfold splineInstructionType
  infer_instance

instance : splineInstructionV898.Framed := by unfold splineInstructionV898; infer_instance

instance : splineInstructionV924.Framed := by unfold splineInstructionV924; infer_instance

instance : splineInstructionV944.Framed := by unfold splineInstructionV944; infer_instance

/-! ### Commands -/

instance : commandParameter.Framed := by unfold commandParameter; infer_instance

instance : commandOverload.Framed := by unfold commandOverload; infer_instance

instance : softEnum.Framed := by unfold softEnum; infer_instance

instance : commandConstraint.Framed := by unfold commandConstraint; infer_instance

instance (index : FieldType Int) [index.Framed] : (commandEnumType index).Framed := by
  unfold commandEnumType
  infer_instance

instance : commandEnumV898.Framed := by unfold commandEnumV898; infer_instance

instance (valuesSize : Nat) : (indexType valuesSize).Framed := by
  unfold indexType
  split_ifs <;> infer_instance

instance (valuesSize : Nat) : (makeCommandEnumV860 valuesSize).Framed := by
  unfold makeCommandEnumV860
  infer_instance

instance (T : FieldType Int) [T.Framed] : (commandSubcommandType T).Framed := by
  unfold commandSubcommandType
  infer_instance

instance : commandSubcommandV860.Framed := by unfold commandSubcommandV860; infer_instance

instance : commandSubcommandV898.Framed := by unfold commandSubcommandV898; infer_instance

instance : permissionLabel.Framed where
  read := by
    unfold permissionLabel
    apply Local.bind inferInstance
    intro label
    split
    · infer_instance
    · infer_instance
  write value := by
    unfold permissionLabel
    dsimp only
    split
    · infer_instance
    · infer_instance

instance (permissionType index : FieldType Int) [permissionType.Framed] [index.Framed] :
    (commandDefinitionType permissionType index).Framed := by
  unfold commandDefinitionType
  infer_instance

instance : commandDefinitionV860.Framed := by unfold commandDefinitionV860; infer_instance

instance : commandDefinitionV898.Framed := by unfold commandDefinitionV898; infer_instance

instance : commandOriginV860.Framed := by unfold commandOriginV860; infer_instance

instance : commandOriginV898.Framed := by unfold commandOriginV898; infer_instance

/-! ### Items -/

instance : Local readUserData := by unfold readUserData; infer_instance

instance (userData : List UInt8) : Appends (writeUserData userData) := by
  unfold writeUserData
  infer_instance

instance : itemInstance.Framed := by
  unfold itemInstance readItemFields writeItemFields readStackNetId writeStackNetId
  infer_instance

instance : networkItemInstanceDescriptor.Framed := by
  unfold networkItemInstanceDescriptor readDescriptorFields writeDescriptorFields
  infer_instance

instance : itemInstanceV975.Framed := by
  unfold itemInstanceV975 readNetId writeNetId
  infer_instance

instance (sourceType : Int) : Local (readSource sourceType) := by
  unfold readSource
  infer_instance

/-- An assertion about the value fails wherever the output stands. -/
instance {w : Int → Printer PyException UInt8 Unit} [∀ v, Appends (w v)] (value : Option Int) :
    Appends (assertSome value >>= w) := by
  cases value with
  | none => exact inferInstanceAs (Appends (throw PyException.assertionError))
  | some v => exact inferInstanceAs (Appends (w v))

instance (value : InventoryAction) : Appends (writeSource value) := by
  unfold writeSource
  infer_instance

instance : inventoryAction.Framed := by unfold inventoryAction; infer_instance

/-! ### Recipes -/

instance (v : Int) :
    Local (ItemDescriptorKind.ofValue v : Parser PyException UInt8 ItemDescriptorKind) := by
  unfold ItemDescriptorKind.ofValue
  infer_instance

instance (kind : ItemDescriptorKind) : Local (readDescriptor kind) := by
  cases kind <;>
  · unfold readDescriptor
    infer_instance

instance (value : ItemDescriptor) : Appends (writeDescriptor value) := by
  unfold writeDescriptor
  split <;> infer_instance

instance : itemDescriptor.Framed := by unfold itemDescriptor; infer_instance

instance : recipeIngredient.Framed := by unfold recipeIngredient; infer_instance

instance (v : Int) :
    Local (UnlockingContext.ofValue v : Parser PyException UInt8 UnlockingContext) := by
  unfold UnlockingContext.ofValue
  infer_instance

instance : recipeUnlockingRequirement.Framed := by unfold recipeUnlockingRequirement; infer_instance

instance (recipe : Recipe) : Local (readShapelessBody recipe) := by
  unfold readShapelessBody
  infer_instance

instance (value : Recipe) : Appends (writeShapelessBody value) := by
  unfold writeShapelessBody
  infer_instance

instance (recipe : Recipe) : Local (readShapedBody recipe) := by
  unfold readShapedBody
  infer_instance

instance (name : String) (value : Recipe) : Appends (writeGrid name value) := by
  unfold writeGrid
  infer_instance

instance (value : Recipe) : Appends (writeShapedBody value) := by
  unfold writeShapedBody
  infer_instance

instance : shapelessRecipe.Framed := by unfold shapelessRecipe; infer_instance

instance : shapedRecipe.Framed := by unfold shapedRecipe; infer_instance

instance : multiRecipe.Framed := by unfold multiRecipe; infer_instance

instance : userDataShapelessRecipe.Framed := by unfold userDataShapelessRecipe; infer_instance

instance : shapelessChemistryRecipe.Framed := by unfold shapelessChemistryRecipe; infer_instance

instance : shapedChemistryRecipe.Framed := by unfold shapedChemistryRecipe; infer_instance

instance : smithingTransformRecipe.Framed where
  read := by
    unfold smithingTransformRecipe
    infer_instance
  write value := by
    unfold smithingTransformRecipe
    dsimp only
    split_ifs
    · infer_instance
    · split
      · infer_instance
      · infer_instance

instance : smithingTrimRecipe.Framed := by unfold smithingTrimRecipe; infer_instance

theorem framed_of_recipeCodecs {type : CraftingDataEntryType} {codec : FieldType Recipe}
    (h : recipeCodecs type = some codec) : codec.Framed := by
  unfold recipeCodecs at h
  split at h <;> cases h <;> infer_instance

instance (v : Int) :
    Local (CraftingDataEntryType.ofValue v : Parser PyException UInt8 CraftingDataEntryType) := by
  unfold CraftingDataEntryType.ofValue
  infer_instance

instance (type : CraftingDataEntryType) : Local (readCraftingData type) := by
  unfold readCraftingData
  split_ifs
  · infer_instance
  · infer_instance
  · split
    · infer_instance
    · rename_i codec hcodec
      have := framed_of_recipeCodecs hcodec
      infer_instance

instance (value : CraftingDataEntry) : Appends (writeCraftingData value) := by
  unfold writeCraftingData
  split_ifs
  · infer_instance
  · infer_instance
  · split
    · infer_instance
    · split
      · infer_instance
      · rename_i codec hcodec
        have := framed_of_recipeCodecs hcodec
        infer_instance

instance : craftingDataEntry.Framed := by unfold craftingDataEntry; infer_instance

/-! ### Level settings -/

instance (typeId : Int) : Local (readRuleValue typeId) := by
  unfold readRuleValue
  infer_instance

instance (value : RuleValue) : Appends (writeRuleValue value) := by
  cases value <;>
  · unfold writeRuleValue
    infer_instance

instance : gameRule.Framed := by unfold gameRule; infer_instance

instance : gameRules.Framed := by unfold gameRules; infer_instance

instance : experiment.Framed := by unfold experiment; infer_instance

instance (countType : FieldType Int) [countType.Framed] : (experimentsType countType).Framed := by
  unfold experimentsType
  infer_instance

instance : experiments.Framed := by unfold experiments; infer_instance

instance : experimentsV860.Framed := by unfold experimentsV860; infer_instance

instance : optionalBool.Framed := by unfold optionalBool; infer_instance

set_option synthInstance.maxSize 1000 in
instance (yType : FieldType Int) (experimentsType : FieldType (List Experiment)) [yType.Framed]
    [experimentsType.Framed] : (levelSettingsType yType experimentsType).Framed := by
  unfold levelSettingsType
  infer_instance

instance : levelSettingsV860.Framed := by unfold levelSettingsV860; infer_instance

instance : levelSettingsV924.Framed := by unfold levelSettingsV924; infer_instance

instance : levelSettingsV944.Framed := by unfold levelSettingsV944; infer_instance

/-! ### Structures -/

instance (posType : FieldType (Int × Int × Int)) [posType.Framed] :
    (structureSettingsType posType).Framed := by
  unfold structureSettingsType
  infer_instance

instance : structureSettingsV924.Framed := by unfold structureSettingsV924; infer_instance

instance : structureSettingsV944.Framed := by unfold structureSettingsV944; infer_instance

/-! ### All types -/

theorem CodecType.framed {α : Type} {T : FieldType α} (h : CodecType T) : T.Framed := by
  induction h with
  | arrayType _ ih => infer_instance
  | optionalType _ ih => infer_instance
  | _ => infer_instance

end Endweave
