import Endweave.Codec.Equiv.Biome

/-!
# The BiomeDefinitionList packet

The biomes, each behind the index of its name in the string list, with which the packet ends.
-/

namespace Endweave

abbrev BiomeDefinitionList := List (Int × BiomeDefinitionData)

def biomeDefinitionListType (definition : FieldType BiomeDefinitionData) :
    FieldType BiomeDefinitionList :=
  arrayType (pairType ushortLE definition)

def biomeDefinitionListV898 : FieldType BiomeDefinitionList :=
  biomeDefinitionListType biomeDefinitionV898

def biomeDefinitionListV924 : FieldType BiomeDefinitionList :=
  biomeDefinitionListType biomeDefinitionV924

namespace BiomeDefinitionList

def CanonicalV924 (p : BiomeDefinitionList) : Prop :=
  FitsList (fun biome => InUInt16 biome.1 ∧ biome.2.Canonical) p

/-- The same biomes without village types. -/
def withoutVillages (p : BiomeDefinitionList) : BiomeDefinitionList :=
  p.map fun biome => (biome.1, biome.2.withoutVillage)

/-- v898 has no village types. -/
structure CanonicalV898 (p : BiomeDefinitionList) : Prop where
  canonicalV924 : p.CanonicalV924
  villages : p.withoutVillages = p

end BiomeDefinitionList

end Endweave
