import Endweave.Codec.Equiv.Primitives
import Endweave.Codec.Types.Biome

/-!
# Correctness of the biome codecs

Each record is read back as it was written when its numbers fit their fields and its lists and
optional parts do so in turn.  The codec of v898 leaves the village type out
(`biomeDefinitionV898_codes`), that of v924 keeps it (`biomeDefinitionV924_roundTrips`).
-/

namespace Endweave

open Wire

/-! ### Records -/

theorem biomeClimate_roundTrips (v : BiomeClimateData) : biomeClimate.RoundTrips v := by
  apply Codes.bind (floatLE_roundTrips v.temperature)
  apply Codes.bind (floatLE_roundTrips v.downfall)
  apply Codes.bind (floatLE_roundTrips v.ash)
  exact Codes.last (floatLE_roundTrips v.redSpores) rfl

structure BiomeWeightedData.Canonical (v : BiomeWeightedData) : Prop where
  weight : InInt16 v.weight
  block : InInt32 v.block

theorem biomeWeight_roundTrips {v : BiomeWeightedData} (h : v.Canonical) :
    biomeWeight.RoundTrips v := by
  apply Codes.bind (shortLE_roundTrips h.weight)
  exact Codes.last (intLE_roundTrips h.block) rfl

structure BiomeWeightedTemperatureData.Canonical (v : BiomeWeightedTemperatureData) : Prop where
  temperature : InInt32 v.temperature
  weight : InInt32 v.weight

theorem biomeWeightedTemperature_roundTrips {v : BiomeWeightedTemperatureData} (h : v.Canonical) :
    biomeWeightedTemperature.RoundTrips v := by
  apply Codes.bind (varInt_roundTrips h.temperature)
  exact Codes.last (intLE_roundTrips h.weight) rfl

structure BiomeCoordinateData.Canonical (v : BiomeCoordinateData) : Prop where
  exprOp1 : InInt32 v.exprOp1
  short1 : InInt16 v.short1
  exprOp2 : InInt32 v.exprOp2
  short2 : InInt16 v.short2
  int1 : InInt32 v.int1
  int2 : InInt32 v.int2
  varint : InInt32 v.varint

theorem biomeCoordinate_roundTrips {v : BiomeCoordinateData} (h : v.Canonical) :
    biomeCoordinate.RoundTrips v := by
  apply Codes.bind (varInt_roundTrips h.exprOp1)
  apply Codes.bind (shortLE_roundTrips h.short1)
  apply Codes.bind (varInt_roundTrips h.exprOp2)
  apply Codes.bind (shortLE_roundTrips h.short2)
  apply Codes.bind (intLE_roundTrips h.int1)
  apply Codes.bind (intLE_roundTrips h.int2)
  exact Codes.last (varInt_roundTrips h.varint) rfl

structure BiomeSurfaceMaterialData.Canonical (v : BiomeSurfaceMaterialData) : Prop where
  block1 : InInt32 v.block1
  block2 : InInt32 v.block2
  block3 : InInt32 v.block3
  block4 : InInt32 v.block4
  block5 : InInt32 v.block5
  extra : InInt32 v.extra

theorem biomeSurfaceMaterial_roundTrips {v : BiomeSurfaceMaterialData} (h : v.Canonical) :
    biomeSurfaceMaterial.RoundTrips v := by
  apply Codes.bind (intLE_roundTrips h.block1)
  apply Codes.bind (intLE_roundTrips h.block2)
  apply Codes.bind (intLE_roundTrips h.block3)
  apply Codes.bind (intLE_roundTrips h.block4)
  apply Codes.bind (intLE_roundTrips h.block5)
  exact Codes.last (intLE_roundTrips h.extra) rfl

structure BiomeElementData.Canonical (v : BiomeElementData) : Prop where
  exprOp1 : InInt32 v.exprOp1
  short1 : InInt16 v.short1
  exprOp2 : InInt32 v.exprOp2
  short2 : InInt16 v.short2
  surfaceMaterial : v.surfaceMaterial.Canonical

theorem biomeElement_roundTrips {v : BiomeElementData} (h : v.Canonical) :
    biomeElement.RoundTrips v := by
  apply Codes.bind (floatLE_roundTrips v.float1)
  apply Codes.bind (floatLE_roundTrips v.float2)
  apply Codes.bind (floatLE_roundTrips v.float3)
  apply Codes.bind (varInt_roundTrips h.exprOp1)
  apply Codes.bind (shortLE_roundTrips h.short1)
  apply Codes.bind (varInt_roundTrips h.exprOp2)
  apply Codes.bind (shortLE_roundTrips h.short2)
  exact Codes.last (biomeSurfaceMaterial_roundTrips h.surfaceMaterial) rfl

structure BiomeScatterParamData.Canonical (v : BiomeScatterParamData) : Prop where
  coordinates : FitsList BiomeCoordinateData.Canonical v.coordinates
  varint1 : InInt32 v.varint1
  varint2 : InInt32 v.varint2
  short1 : InInt16 v.short1
  int1 : InInt32 v.int1
  int2 : InInt32 v.int2
  varint3 : InInt32 v.varint3
  short2 : InInt16 v.short2

theorem biomeScatterParam_roundTrips {v : BiomeScatterParamData} (h : v.Canonical) :
    biomeScatterParam.RoundTrips v := by
  apply Codes.bind (fitsList_roundTrips h.coordinates fun _ => biomeCoordinate_roundTrips)
  apply Codes.bind (varInt_roundTrips h.varint1)
  apply Codes.bind (varInt_roundTrips h.varint2)
  apply Codes.bind (shortLE_roundTrips h.short1)
  apply Codes.bind (intLE_roundTrips h.int1)
  apply Codes.bind (intLE_roundTrips h.int2)
  apply Codes.bind (varInt_roundTrips h.varint3)
  exact Codes.last (shortLE_roundTrips h.short2) rfl

structure BiomeConsolidatedFeatureData.Canonical (v : BiomeConsolidatedFeatureData) : Prop where
  scatterParam : v.scatterParam.Canonical
  short1 : InInt16 v.short1
  short2 : InInt16 v.short2
  short3 : InInt16 v.short3

theorem biomeConsolidatedFeature_roundTrips {v : BiomeConsolidatedFeatureData} (h : v.Canonical) :
    biomeConsolidatedFeature.RoundTrips v := by
  apply Codes.bind (biomeScatterParam_roundTrips h.scatterParam)
  apply Codes.bind (shortLE_roundTrips h.short1)
  apply Codes.bind (shortLE_roundTrips h.short2)
  apply Codes.bind (shortLE_roundTrips h.short3)
  exact Codes.last (bool_roundTrips v.flag) rfl

structure BiomeMountainParamsData.Canonical (v : BiomeMountainParamsData) : Prop where
  block : InInt32 v.block

theorem biomeMountainParams_roundTrips {v : BiomeMountainParamsData} (h : v.Canonical) :
    biomeMountainParams.RoundTrips v := by
  apply Codes.bind (intLE_roundTrips h.block)
  apply Codes.bind (bool_roundTrips v.flag1)
  apply Codes.bind (bool_roundTrips v.flag2)
  apply Codes.bind (bool_roundTrips v.flag3)
  apply Codes.bind (bool_roundTrips v.flag4)
  exact Codes.last (bool_roundTrips v.flag5) rfl

structure BiomeMesaSurfaceData.Canonical (v : BiomeMesaSurfaceData) : Prop where
  block1 : InInt32 v.block1
  block2 : InInt32 v.block2

theorem biomeMesaSurface_roundTrips {v : BiomeMesaSurfaceData} (h : v.Canonical) :
    biomeMesaSurface.RoundTrips v := by
  apply Codes.bind (intLE_roundTrips h.block1)
  apply Codes.bind (intLE_roundTrips h.block2)
  apply Codes.bind (bool_roundTrips v.flag1)
  exact Codes.last (bool_roundTrips v.flag2) rfl

structure BiomeCappedSurfaceData.Canonical (v : BiomeCappedSurfaceData) : Prop where
  blocks1 : FitsList InInt32 v.blocks1
  blocks2 : FitsList InInt32 v.blocks2
  optionalBlock1 : FitsOption InInt32 v.optionalBlock1
  optionalBlock2 : FitsOption InInt32 v.optionalBlock2
  optionalBlock3 : FitsOption InInt32 v.optionalBlock3

theorem biomeCappedSurface_roundTrips {v : BiomeCappedSurfaceData} (h : v.Canonical) :
    biomeCappedSurface.RoundTrips v := by
  apply Codes.bind (fitsList_roundTrips h.blocks1 fun _ => intLE_roundTrips)
  apply Codes.bind (fitsList_roundTrips h.blocks2 fun _ => intLE_roundTrips)
  apply Codes.bind (fitsOption_roundTrips h.optionalBlock1 fun _ => intLE_roundTrips)
  apply Codes.bind (fitsOption_roundTrips h.optionalBlock2 fun _ => intLE_roundTrips)
  exact Codes.last (fitsOption_roundTrips h.optionalBlock3 fun _ => intLE_roundTrips) rfl

structure BiomeConditionalTransformationData.Canonical (v : BiomeConditionalTransformationData) :
    Prop where
  weights : FitsList BiomeWeightedData.Canonical v.weights
  short1 : InInt16 v.short1
  int1 : InInt32 v.int1

theorem biomeConditionalTransformation_roundTrips {v : BiomeConditionalTransformationData}
    (h : v.Canonical) : biomeConditionalTransformation.RoundTrips v := by
  apply Codes.bind (fitsList_roundTrips h.weights fun _ => biomeWeight_roundTrips)
  apply Codes.bind (shortLE_roundTrips h.short1)
  exact Codes.last (intLE_roundTrips h.int1) rfl

structure BiomeOverworldGenRulesData.Canonical (v : BiomeOverworldGenRulesData) : Prop where
  weights1 : FitsList BiomeWeightedData.Canonical v.weights1
  weights2 : FitsList BiomeWeightedData.Canonical v.weights2
  weights3 : FitsList BiomeWeightedData.Canonical v.weights3
  weights4 : FitsList BiomeWeightedData.Canonical v.weights4
  transformations1 : FitsList BiomeConditionalTransformationData.Canonical v.transformations1
  transformations2 : FitsList BiomeConditionalTransformationData.Canonical v.transformations2
  weightedTemperatures : FitsList BiomeWeightedTemperatureData.Canonical v.weightedTemperatures

theorem biomeOverworldGenRules_roundTrips {v : BiomeOverworldGenRulesData} (h : v.Canonical) :
    biomeOverworldGenRules.RoundTrips v := by
  apply Codes.bind (fitsList_roundTrips h.weights1 fun _ => biomeWeight_roundTrips)
  apply Codes.bind (fitsList_roundTrips h.weights2 fun _ => biomeWeight_roundTrips)
  apply Codes.bind (fitsList_roundTrips h.weights3 fun _ => biomeWeight_roundTrips)
  apply Codes.bind (fitsList_roundTrips h.weights4 fun _ => biomeWeight_roundTrips)
  apply Codes.bind (fitsList_roundTrips h.transformations1 fun _ =>
    biomeConditionalTransformation_roundTrips)
  apply Codes.bind (fitsList_roundTrips h.transformations2 fun _ =>
    biomeConditionalTransformation_roundTrips)
  exact Codes.last (fitsList_roundTrips h.weightedTemperatures fun _ =>
    biomeWeightedTemperature_roundTrips) rfl

theorem biomeMultinoiseGenRules_roundTrips (v : BiomeMultinoiseGenRulesData) :
    biomeMultinoiseGenRules.RoundTrips v := by
  apply Codes.bind (floatLE_roundTrips v.float1)
  apply Codes.bind (floatLE_roundTrips v.float2)
  apply Codes.bind (floatLE_roundTrips v.float3)
  apply Codes.bind (floatLE_roundTrips v.float4)
  exact Codes.last (floatLE_roundTrips v.float5) rfl

structure BiomeLegacyWorldGenRulesData.Canonical (v : BiomeLegacyWorldGenRulesData) : Prop where
  transformations : FitsList BiomeConditionalTransformationData.Canonical v.transformations

theorem biomeLegacyWorldGenRules_roundTrips {v : BiomeLegacyWorldGenRulesData} (h : v.Canonical) :
    biomeLegacyWorldGenRules.RoundTrips v := by
  exact Codes.last (fitsList_roundTrips h.transformations fun _ =>
    biomeConditionalTransformation_roundTrips) rfl

structure BiomeReplacementData.Canonical (v : BiomeReplacementData) : Prop where
  short1 : InInt16 v.short1
  short2 : InInt16 v.short2
  shorts : FitsList InInt16 v.shorts
  int1 : InInt32 v.int1

theorem biomeReplacementData_roundTrips {v : BiomeReplacementData} (h : v.Canonical) :
    biomeReplacementData.RoundTrips v := by
  apply Codes.bind (shortLE_roundTrips h.short1)
  apply Codes.bind (shortLE_roundTrips h.short2)
  apply Codes.bind (fitsList_roundTrips h.shorts fun _ => shortLE_roundTrips)
  apply Codes.bind (floatLE_roundTrips v.float1)
  apply Codes.bind (floatLE_roundTrips v.float2)
  exact Codes.last (intLE_roundTrips h.int1) rfl

/-! ### Chunk generation -/

structure BiomeDefinitionChunkGenData.Canonical (v : BiomeDefinitionChunkGenData) : Prop where
  consolidatedFeatures :
    FitsOption (FitsList BiomeConsolidatedFeatureData.Canonical) v.consolidatedFeatures
  mountainParams : FitsOption BiomeMountainParamsData.Canonical v.mountainParams
  biomeElements : FitsOption (FitsList BiomeElementData.Canonical) v.biomeElements
  surfaceMaterial : FitsOption BiomeSurfaceMaterialData.Canonical v.surfaceMaterial
  mesaSurface : FitsOption BiomeMesaSurfaceData.Canonical v.mesaSurface
  cappedSurface : FitsOption BiomeCappedSurfaceData.Canonical v.cappedSurface
  overworldGenRules : FitsOption BiomeOverworldGenRulesData.Canonical v.overworldGenRules
  legacyWorldGenRules : FitsOption BiomeLegacyWorldGenRulesData.Canonical v.legacyWorldGenRules
  biomeReplacementData : FitsOption BiomeReplacementData.Canonical v.biomeReplacementData
  villageType : FitsOption InByte v.villageType

/-- The same data without a village type. -/
def BiomeDefinitionChunkGenData.withoutVillage (v : BiomeDefinitionChunkGenData) :
    BiomeDefinitionChunkGenData := { v with villageType := none }

/-- v898 reads everything back but the village type. -/
theorem biomeDefinitionChunkGenDataV898_codes {v : BiomeDefinitionChunkGenData}
    (h : v.Canonical) :
    Codes (biomeDefinitionChunkGenDataV898.write v) biomeDefinitionChunkGenDataV898.read
      v.withoutVillage := by
  apply Codes.bind (optionalType_roundTrips fun a _ => biomeClimate_roundTrips a)
  apply Codes.bind (fitsOption_roundTrips h.consolidatedFeatures fun _ hv =>
    fitsList_roundTrips hv fun _ => biomeConsolidatedFeature_roundTrips)
  apply Codes.bind (fitsOption_roundTrips h.mountainParams fun _ => biomeMountainParams_roundTrips)
  apply Codes.bind (fitsOption_roundTrips h.biomeElements fun _ hv =>
    fitsList_roundTrips hv fun _ => biomeElement_roundTrips)
  apply Codes.bind (fitsOption_roundTrips h.surfaceMaterial fun _ =>
    biomeSurfaceMaterial_roundTrips)
  apply Codes.bind (bool_roundTrips v.flag1)
  apply Codes.bind (bool_roundTrips v.flag2)
  apply Codes.bind (bool_roundTrips v.flag3)
  apply Codes.bind (bool_roundTrips v.flag4)
  apply Codes.bind (fitsOption_roundTrips h.mesaSurface fun _ => biomeMesaSurface_roundTrips)
  apply Codes.bind (fitsOption_roundTrips h.cappedSurface fun _ => biomeCappedSurface_roundTrips)
  apply Codes.bind (fitsOption_roundTrips h.overworldGenRules fun _ =>
    biomeOverworldGenRules_roundTrips)
  apply Codes.bind (optionalType_roundTrips fun a _ => biomeMultinoiseGenRules_roundTrips a)
  apply Codes.bind (fitsOption_roundTrips h.legacyWorldGenRules fun _ =>
    biomeLegacyWorldGenRules_roundTrips)
  exact Codes.last (fitsOption_roundTrips h.biomeReplacementData fun _ =>
    biomeReplacementData_roundTrips) rfl

theorem biomeDefinitionChunkGenDataV924_roundTrips {v : BiomeDefinitionChunkGenData}
    (h : v.Canonical) : biomeDefinitionChunkGenDataV924.RoundTrips v := by
  apply Codes.bind (biomeDefinitionChunkGenDataV898_codes h)
  exact Codes.last (fitsOption_roundTrips h.villageType fun _ => byte_roundTrips) rfl

/-! ### Definitions -/

structure BiomeDefinitionData.Canonical (v : BiomeDefinitionData) : Prop where
  short1 : InInt16 v.short1
  int1 : InInt32 v.int1
  tags : FitsOption (FitsList InUInt16) v.tags
  chunkGenData : FitsOption BiomeDefinitionChunkGenData.Canonical v.chunkGenData

/-- The same biome without a village type. -/
def BiomeDefinitionData.withoutVillage (v : BiomeDefinitionData) : BiomeDefinitionData :=
  { v with chunkGenData := v.chunkGenData.map BiomeDefinitionChunkGenData.withoutVillage }

/-- A definition, by what its chunk generation data is read back as. -/
theorem biomeDefinition_codes {T : FieldType BiomeDefinitionChunkGenData}
    {f : BiomeDefinitionChunkGenData → BiomeDefinitionChunkGenData} {v : BiomeDefinitionData}
    (h : v.Canonical) (hT : ∀ a, a.Canonical → Codes (T.write a) T.read (f a)) :
    Codes ((biomeDefinitionType T).write v) (biomeDefinitionType T).read
      { v with chunkGenData := v.chunkGenData.map f } := by
  apply Codes.bind (shortLE_roundTrips h.short1)
  apply Codes.bind (floatLE_roundTrips v.float1)
  apply Codes.bind (floatLE_roundTrips v.float2)
  apply Codes.bind (floatLE_roundTrips v.float3)
  apply Codes.bind (floatLE_roundTrips v.float4)
  apply Codes.bind (floatLE_roundTrips v.float5)
  apply Codes.bind (intLE_roundTrips h.int1)
  apply Codes.bind (bool_roundTrips v.flag)
  apply Codes.bind (fitsOption_roundTrips h.tags fun _ hv =>
    fitsList_roundTrips hv fun _ => ushortLE_roundTrips)
  exact Codes.last (optionalType_codes fun a ha => hT a (h.chunkGenData a ha)) rfl

theorem biomeDefinitionV898_codes {v : BiomeDefinitionData} (h : v.Canonical) :
    Codes (biomeDefinitionV898.write v) biomeDefinitionV898.read v.withoutVillage :=
  biomeDefinition_codes h fun _ => biomeDefinitionChunkGenDataV898_codes

theorem biomeDefinitionV924_roundTrips {v : BiomeDefinitionData} (h : v.Canonical) :
    biomeDefinitionV924.RoundTrips v := by
  have hcodes := biomeDefinition_codes (f := id) h fun _ =>
    biomeDefinitionChunkGenDataV924_roundTrips
  rwa [Option.map_id] at hcodes

end Endweave
