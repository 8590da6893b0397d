import Endweave.Codec.Types.Primitives

/-!
# Structure settings

`_StructureSettingsV944Type` is `_StructureSettingsV924Type` with another `_pos_type`.
-/

namespace Endweave

structure StructureSettings where
  paletteName : String
  ignoreEntities : Bool
  ignoreBlocks : Bool
  allowNonTickingChunks : Bool
  size : Int × Int × Int
  offset : Int × Int × Int
  lastEditPlayer : Int
  rotation : Int
  mirror : Int
  animationMode : Int
  animationSeconds : UInt32
  integrityValue : UInt32
  integritySeed : Int
  pivot : UInt32 × UInt32 × UInt32
deriving Repr, DecidableEq

/-- The settings with `posType` for the size and the offset. -/
def structureSettingsType (posType : FieldType (Int × Int × Int)) :
    FieldType StructureSettings where
  read := do
    let paletteName ← string.read
    let ignoreEntities ← bool.read
    let ignoreBlocks ← bool.read
    let allowNonTickingChunks ← bool.read
    let size ← posType.read
    let offset ← posType.read
    let lastEditPlayer ← varInt64.read
    let rotation ← byte.read
    let mirror ← byte.read
    let animationMode ← byte.read
    let animationSeconds ← floatLE.read
    let integrityValue ← floatLE.read
    let integritySeed ← uintLE.read
    let pivot ← vec3.read
    pure { paletteName, ignoreEntities, ignoreBlocks, allowNonTickingChunks, size, offset,
           lastEditPlayer, rotation, mirror, animationMode, animationSeconds, integrityValue,
           integritySeed, pivot }
  write value := do
    string.write value.paletteName
    bool.write value.ignoreEntities
    bool.write value.ignoreBlocks
    bool.write value.allowNonTickingChunks
    posType.write value.size
    posType.write value.offset
    varInt64.write value.lastEditPlayer
    byte.write value.rotation
    byte.write value.mirror
    byte.write value.animationMode
    floatLE.write value.animationSeconds
    floatLE.write value.integrityValue
    uintLE.write value.integritySeed
    vec3.write value.pivot

/-- `STRUCTURE_SETTINGS_V924`. -/
def structureSettingsV924 : FieldType StructureSettings := structureSettingsType networkBlockPos

/-- `STRUCTURE_SETTINGS_V944`. -/
def structureSettingsV944 : FieldType StructureSettings := structureSettingsType blockPos

end Endweave
