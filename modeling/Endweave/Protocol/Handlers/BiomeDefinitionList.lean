import Endweave.Codec.Types.Biome
import Endweave.Codec.Wrapper

/-!
# The `BiomeDefinitionList` handlers between v898 and v924

The two directions map the biomes with the codecs exchanged.  The string list behind the biomes is
not read.
-/

namespace Endweave

open PacketWrapper

/-- Read each biome with the first codec and write it with the second. -/
def mapBiomeDefinitionList (old new : FieldType BiomeDefinitionData) : PacketHandler :=
  passthroughLoop do -- Map of Biome names to data
    let _ ← passthrough ushortLE -- String list
    let _ ← PacketWrapper.map old new

def V898ToV924.rewriteBiomeDefinitionList : PacketHandler :=
  mapBiomeDefinitionList biomeDefinitionV898 biomeDefinitionV924

def V924ToV898.rewriteBiomeDefinitionList : PacketHandler :=
  mapBiomeDefinitionList biomeDefinitionV924 biomeDefinitionV898

end Endweave
