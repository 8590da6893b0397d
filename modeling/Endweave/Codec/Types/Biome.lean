import Endweave.Codec.Types.Primitives

/-!
# Biome generation

The records of BiomeDefinitionList.  They are the same in v898 and v924, but for the village type,
with which v924 ends the chunk generation data of a biome.
-/

namespace Endweave

open Wire

structure BiomeClimateData where
  temperature : UInt32
  downfall : UInt32
  ash : UInt32
  redSpores : UInt32
deriving Repr, DecidableEq

/-- `_CLIMATE`. -/
def biomeClimate : FieldType BiomeClimateData where
  read := do
    let temperature ← floatLE.read
    let downfall ← floatLE.read
    let ash ← floatLE.read
    let redSpores ← floatLE.read
    pure { temperature, downfall, ash, redSpores }
  write value := do
    floatLE.write value.temperature
    floatLE.write value.downfall
    floatLE.write value.ash
    floatLE.write value.redSpores

structure BiomeWeightedData where
  weight : Int
  block : Int
deriving Repr, DecidableEq

/-- `_WEIGHT`. -/
def biomeWeight : FieldType BiomeWeightedData where
  read := do
    let weight ← shortLE.read
    let block ← intLE.read
    pure { weight, block }
  write value := do
    shortLE.write value.weight
    intLE.write value.block

structure BiomeWeightedTemperatureData where
  temperature : Int
  weight : Int
deriving Repr, DecidableEq

/-- `_WEIGHTED_TEMPERATURE`. -/
def biomeWeightedTemperature : FieldType BiomeWeightedTemperatureData where
  read := do
    let temperature ← varInt.read
    let weight ← intLE.read
    pure { temperature, weight }
  write value := do
    varInt.write value.temperature
    intLE.write value.weight

structure BiomeCoordinateData where
  exprOp1 : Int
  short1 : Int
  exprOp2 : Int
  short2 : Int
  int1 : Int
  int2 : Int
  varint : Int
deriving Repr, DecidableEq

/-- `_COORDINATE`. -/
def biomeCoordinate : FieldType BiomeCoordinateData where
  read := do
    let exprOp1 ← varInt.read
    let short1 ← shortLE.read
    let exprOp2 ← varInt.read
    let short2 ← shortLE.read
    let int1 ← intLE.read
    let int2 ← intLE.read
    let varint ← varInt.read
    pure { exprOp1, short1, exprOp2, short2, int1, int2, varint }
  write value := do
    varInt.write value.exprOp1
    shortLE.write value.short1
    varInt.write value.exprOp2
    shortLE.write value.short2
    intLE.write value.int1
    intLE.write value.int2
    varInt.write value.varint

structure BiomeSurfaceMaterialData where
  block1 : Int
  block2 : Int
  block3 : Int
  block4 : Int
  block5 : Int
  extra : Int
deriving Repr, DecidableEq

/-- `_SURFACE_MATERIAL`. -/
def biomeSurfaceMaterial : FieldType BiomeSurfaceMaterialData where
  read := do
    let block1 ← intLE.read
    let block2 ← intLE.read
    let block3 ← intLE.read
    let block4 ← intLE.read
    let block5 ← intLE.read
    let extra ← intLE.read
    pure { block1, block2, block3, block4, block5, extra }
  write value := do
    intLE.write value.block1
    intLE.write value.block2
    intLE.write value.block3
    intLE.write value.block4
    intLE.write value.block5
    intLE.write value.extra

structure BiomeElementData where
  float1 : UInt32
  float2 : UInt32
  float3 : UInt32
  exprOp1 : Int
  short1 : Int
  exprOp2 : Int
  short2 : Int
  surfaceMaterial : BiomeSurfaceMaterialData
deriving Repr, DecidableEq

/-- `_BIOME_ELEMENT`. -/
def biomeElement : FieldType BiomeElementData where
  read := do
    let float1 ← floatLE.read
    let float2 ← floatLE.read
    let float3 ← floatLE.read
    let exprOp1 ← varInt.read
    let short1 ← shortLE.read
    let exprOp2 ← varInt.read
    let short2 ← shortLE.read
    let surfaceMaterial ← biomeSurfaceMaterial.read
    pure { float1, float2, float3, exprOp1, short1, exprOp2, short2, surfaceMaterial }
  write value := do
    floatLE.write value.float1
    floatLE.write value.float2
    floatLE.write value.float3
    varInt.write value.exprOp1
    shortLE.write value.short1
    varInt.write value.exprOp2
    shortLE.write value.short2
    biomeSurfaceMaterial.write value.surfaceMaterial

structure BiomeScatterParamData where
  coordinates : List BiomeCoordinateData := []
  varint1 : Int := 0
  varint2 : Int := 0
  short1 : Int := 0
  int1 : Int := 0
  int2 : Int := 0
  varint3 : Int := 0
  short2 : Int := 0
deriving Repr, DecidableEq

/-- `_SCATTER_PARAM`. -/
def biomeScatterParam : FieldType BiomeScatterParamData where
  read := do
    let coordinates ← (arrayType biomeCoordinate).read
    let varint1 ← varInt.read
    let varint2 ← varInt.read
    let short1 ← shortLE.read
    let int1 ← intLE.read
    let int2 ← intLE.read
    let varint3 ← varInt.read
    let short2 ← shortLE.read
    pure { coordinates, varint1, varint2, short1, int1, int2, varint3, short2 }
  write value := do
    (arrayType biomeCoordinate).write value.coordinates
    varInt.write value.varint1
    varInt.write value.varint2
    shortLE.write value.short1
    intLE.write value.int1
    intLE.write value.int2
    varInt.write value.varint3
    shortLE.write value.short2

structure BiomeConsolidatedFeatureData where
  scatterParam : BiomeScatterParamData
  short1 : Int
  short2 : Int
  short3 : Int
  flag : Bool
deriving Repr, DecidableEq

/-- `_CONSOLIDATED_FEATURE`. -/
def biomeConsolidatedFeature : FieldType BiomeConsolidatedFeatureData where
  read := do
    let scatterParam ← biomeScatterParam.read
    let short1 ← shortLE.read
    let short2 ← shortLE.read
    let short3 ← shortLE.read
    let flag ← bool.read
    pure { scatterParam, short1, short2, short3, flag }
  write value := do
    biomeScatterParam.write value.scatterParam
    shortLE.write value.short1
    shortLE.write value.short2
    shortLE.write value.short3
    bool.write value.flag

structure BiomeMountainParamsData where
  block : Int
  flag1 : Bool
  flag2 : Bool
  flag3 : Bool
  flag4 : Bool
  flag5 : Bool
deriving Repr, DecidableEq

/-- `_MOUNTAIN_PARAMS`. -/
def biomeMountainParams : FieldType BiomeMountainParamsData where
  read := do
    let block ← intLE.read
    let flag1 ← bool.read
    let flag2 ← bool.read
    let flag3 ← bool.read
    let flag4 ← bool.read
    let flag5 ← bool.read
    pure { block, flag1, flag2, flag3, flag4, flag5 }
  write value := do
    intLE.write value.block
    bool.write value.flag1
    bool.write value.flag2
    bool.write value.flag3
    bool.write value.flag4
    bool.write value.flag5

structure BiomeMesaSurfaceData where
  block1 : Int
  block2 : Int
  flag1 : Bool
  flag2 : Bool
deriving Repr, DecidableEq

/-- `_MESA_SURFACE`. -/
def biomeMesaSurface : FieldType BiomeMesaSurfaceData where
  read := do
    let block1 ← intLE.read
    let block2 ← intLE.read
    let flag1 ← bool.read
    let flag2 ← bool.read
    pure { block1, block2, flag1, flag2 }
  write value := do
    intLE.write value.block1
    intLE.write value.block2
    bool.write value.flag1
    bool.write value.flag2

structure BiomeCappedSurfaceData where
  blocks1 : List Int := []
  blocks2 : List Int := []
  optionalBlock1 : Option Int := none
  optionalBlock2 : Option Int := none
  optionalBlock3 : Option Int := none
deriving Repr, DecidableEq

/-- `_CAPPED_SURFACE`. -/
def biomeCappedSurface : FieldType BiomeCappedSurfaceData where
  read := do
    let blocks1 ← (arrayType intLE).read
    let blocks2 ← (arrayType intLE).read
    let optionalBlock1 ← (optionalType intLE).read
    let optionalBlock2 ← (optionalType intLE).read
    let optionalBlock3 ← (optionalType intLE).read
    pure { blocks1, blocks2, optionalBlock1, optionalBlock2, optionalBlock3 }
  write value := do
    (arrayType intLE).write value.blocks1
    (arrayType intLE).write value.blocks2
    (optionalType intLE).write value.optionalBlock1
    (optionalType intLE).write value.optionalBlock2
    (optionalType intLE).write value.optionalBlock3

structure BiomeConditionalTransformationData where
  weights : List BiomeWeightedData := []
  short1 : Int := 0
  int1 : Int := 0
deriving Repr, DecidableEq

/-- `_CONDITIONAL_TRANSFORMATION`. -/
def biomeConditionalTransformation : FieldType BiomeConditionalTransformationData where
  read := do
    let weights ← (arrayType biomeWeight).read
    let short1 ← shortLE.read
    let int1 ← intLE.read
    pure { weights, short1, int1 }
  write value := do
    (arrayType biomeWeight).write value.weights
    shortLE.write value.short1
    intLE.write value.int1

structure BiomeOverworldGenRulesData where
  weights1 : List BiomeWeightedData := []
  weights2 : List BiomeWeightedData := []
  weights3 : List BiomeWeightedData := []
  weights4 : List BiomeWeightedData := []
  transformations1 : List BiomeConditionalTransformationData := []
  transformations2 : List BiomeConditionalTransformationData := []
  weightedTemperatures : List BiomeWeightedTemperatureData := []
deriving Repr, DecidableEq

/-- `_OVERWORLD_GEN_RULES`. -/
def biomeOverworldGenRules : FieldType BiomeOverworldGenRulesData where
  read := do
    let weights1 ← (arrayType biomeWeight).read
    let weights2 ← (arrayType biomeWeight).read
    let weights3 ← (arrayType biomeWeight).read
    let weights4 ← (arrayType biomeWeight).read
    let transformations1 ← (arrayType biomeConditionalTransformation).read
    let transformations2 ← (arrayType biomeConditionalTransformation).read
    let weightedTemperatures ← (arrayType biomeWeightedTemperature).read
    pure { weights1, weights2, weights3, weights4, transformations1, transformations2,
           weightedTemperatures }
  write value := do
    (arrayType biomeWeight).write value.weights1
    (arrayType biomeWeight).write value.weights2
    (arrayType biomeWeight).write value.weights3
    (arrayType biomeWeight).write value.weights4
    (arrayType biomeConditionalTransformation).write value.transformations1
    (arrayType biomeConditionalTransformation).write value.transformations2
    (arrayType biomeWeightedTemperature).write value.weightedTemperatures

structure BiomeMultinoiseGenRulesData where
  float1 : UInt32
  float2 : UInt32
  float3 : UInt32
  float4 : UInt32
  float5 : UInt32
deriving Repr, DecidableEq

/-- `_MULTINOISE_GEN_RULES`. -/
def biomeMultinoiseGenRules : FieldType BiomeMultinoiseGenRulesData where
  read := do
    let float1 ← floatLE.read
    let float2 ← floatLE.read
    let float3 ← floatLE.read
    let float4 ← floatLE.read
    let float5 ← floatLE.read
    pure { float1, float2, float3, float4, float5 }
  write value := do
    floatLE.write value.float1
    floatLE.write value.float2
    floatLE.write value.float3
    floatLE.write value.float4
    floatLE.write value.float5

structure BiomeLegacyWorldGenRulesData where
  transformations : List BiomeConditionalTransformationData := []
deriving Repr, DecidableEq

/-- `_LEGACY_WORLD_GEN_RULES`. -/
def biomeLegacyWorldGenRules : FieldType BiomeLegacyWorldGenRulesData where
  read := do
    let transformations ← (arrayType biomeConditionalTransformation).read
    pure { transformations }
  write value := do
    (arrayType biomeConditionalTransformation).write value.transformations

structure BiomeReplacementData where
  short1 : Int := 0
  short2 : Int := 0
  shorts : List Int := []
  float1 : UInt32 := 0
  float2 : UInt32 := 0
  int1 : Int := 0
deriving Repr, DecidableEq

/-- `_BIOME_REPLACEMENT_DATA`. -/
def biomeReplacementData : FieldType BiomeReplacementData where
  read := do
    let short1 ← shortLE.read
    let short2 ← shortLE.read
    let shorts ← (arrayType shortLE).read
    let float1 ← floatLE.read
    let float2 ← floatLE.read
    let int1 ← intLE.read
    pure { short1, short2, shorts, float1, float2, int1 }
  write value := do
    shortLE.write value.short1
    shortLE.write value.short2
    (arrayType shortLE).write value.shorts
    floatLE.write value.float1
    floatLE.write value.float2
    intLE.write value.int1

/-! ### Chunk generation -/

/-- The village type is in v924 only. -/
structure BiomeDefinitionChunkGenData where
  climate : Option BiomeClimateData := none
  consolidatedFeatures : Option (List BiomeConsolidatedFeatureData) := none
  mountainParams : Option BiomeMountainParamsData := none
  biomeElements : Option (List BiomeElementData) := none
  surfaceMaterial : Option BiomeSurfaceMaterialData := none
  flag1 : Bool := false
  flag2 : Bool := false
  flag3 : Bool := false
  flag4 : Bool := false
  mesaSurface : Option BiomeMesaSurfaceData := none
  cappedSurface : Option BiomeCappedSurfaceData := none
  overworldGenRules : Option BiomeOverworldGenRulesData := none
  multinoiseGenRules : Option BiomeMultinoiseGenRulesData := none
  legacyWorldGenRules : Option BiomeLegacyWorldGenRulesData := none
  biomeReplacementData : Option BiomeReplacementData := none
  villageType : Option Int := none
deriving Repr, DecidableEq

/-- `_read_common` and `_write_common`: the codec of v898. -/
def biomeDefinitionChunkGenDataV898 : FieldType BiomeDefinitionChunkGenData where
  read := do
    let climate ← (optionalType biomeClimate).read
    let consolidatedFeatures ← (optionalType (arrayType biomeConsolidatedFeature)).read
    let mountainParams ← (optionalType biomeMountainParams).read
    let biomeElements ← (optionalType (arrayType biomeElement)).read
    let surfaceMaterial ← (optionalType biomeSurfaceMaterial).read
    let flag1 ← bool.read
    let flag2 ← bool.read
    let flag3 ← bool.read
    let flag4 ← bool.read
    let mesaSurface ← (optionalType biomeMesaSurface).read
    let cappedSurface ← (optionalType biomeCappedSurface).read
    let overworldGenRules ← (optionalType biomeOverworldGenRules).read
    let multinoiseGenRules ← (optionalType biomeMultinoiseGenRules).read
    let legacyWorldGenRules ← (optionalType biomeLegacyWorldGenRules).read
    let biomeReplacementData ← (optionalType Endweave.biomeReplacementData).read
    pure { climate, consolidatedFeatures, mountainParams, biomeElements, surfaceMaterial, flag1,
           flag2, flag3, flag4, mesaSurface, cappedSurface, overworldGenRules, multinoiseGenRules,
           legacyWorldGenRules, biomeReplacementData, villageType := none }
  write value := do
    (optionalType biomeClimate).write value.climate
    (optionalType (arrayType biomeConsolidatedFeature)).write value.consolidatedFeatures
    (optionalType biomeMountainParams).write value.mountainParams
    (optionalType (arrayType biomeElement)).write value.biomeElements
    (optionalType biomeSurfaceMaterial).write value.surfaceMaterial
    bool.write value.flag1
    bool.write value.flag2
    bool.write value.flag3
    bool.write value.flag4
    (optionalType biomeMesaSurface).write value.mesaSurface
    (optionalType biomeCappedSurface).write value.cappedSurface
    (optionalType biomeOverworldGenRules).write value.overworldGenRules
    (optionalType biomeMultinoiseGenRules).write value.multinoiseGenRules
    (optionalType biomeLegacyWorldGenRules).write value.legacyWorldGenRules
    (optionalType Endweave.biomeReplacementData).write value.biomeReplacementData

/-- The common fields, then the village type. -/
def biomeDefinitionChunkGenDataV924 : FieldType BiomeDefinitionChunkGenData where
  read := do
    let data ← biomeDefinitionChunkGenDataV898.read
    let villageType ← (optionalType byte).read
    pure { data with villageType }
  write value := do
    biomeDefinitionChunkGenDataV898.write value
    (optionalType byte).write value.villageType

/-! ### Definitions -/

structure BiomeDefinitionData where
  short1 : Int := 0
  float1 : UInt32 := 0
  float2 : UInt32 := 0
  float3 : UInt32 := 0
  float4 : UInt32 := 0
  float5 : UInt32 := 0
  int1 : Int := 0
  flag : Bool := false
  tags : Option (List Int) := none
  chunkGenData : Option BiomeDefinitionChunkGenData := none
deriving Repr, DecidableEq

/-- `_BiomeDefinitionDataV898Type`, by the version's codec of the chunk generation data. -/
def biomeDefinitionType (chunkGenDataType : FieldType BiomeDefinitionChunkGenData) :
    FieldType BiomeDefinitionData where
  read := do
    let short1 ← shortLE.read
    let float1 ← floatLE.read
    let float2 ← floatLE.read
    let float3 ← floatLE.read
    let float4 ← floatLE.read
    let float5 ← floatLE.read
    let int1 ← intLE.read
    let flag ← bool.read
    let tags ← (optionalType (arrayType ushortLE)).read
    let chunkGenData ← (optionalType chunkGenDataType).read
    pure { short1, float1, float2, float3, float4, float5, int1, flag, tags, chunkGenData }
  write value := do
    shortLE.write value.short1
    floatLE.write value.float1
    floatLE.write value.float2
    floatLE.write value.float3
    floatLE.write value.float4
    floatLE.write value.float5
    intLE.write value.int1
    bool.write value.flag
    (optionalType (arrayType ushortLE)).write value.tags
    (optionalType chunkGenDataType).write value.chunkGenData

def biomeDefinitionV898 : FieldType BiomeDefinitionData :=
  biomeDefinitionType biomeDefinitionChunkGenDataV898

def biomeDefinitionV924 : FieldType BiomeDefinitionData :=
  biomeDefinitionType biomeDefinitionChunkGenDataV924

end Endweave
