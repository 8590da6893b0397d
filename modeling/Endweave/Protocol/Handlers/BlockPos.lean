import Endweave.Codec.Types.Nbt
import Endweave.Codec.Wrapper
import Endweave.Protocol.Basic
import Endweave.Protocol.MappingData

/-!
# The block position handlers between v924 and v944

v924 writes the Y coordinate of a block position unsigned, v944 signed.  The handlers of both
directions pass the same fields through and map the positions; each module states them for its own
direction.
-/

namespace Endweave

open PacketWrapper

/-- The codec of a block position. -/
abbrev BlockPosType := FieldType (Int × Int × Int)

/-- `_NOTE_BLOCK_EVENT`. -/
def noteBlockEvent : Int := 0

/-! ### Bodies with the two codecs as parameters -/

section Bodies

variable (old new : BlockPosType)

def mapFirst : PacketHandler := do
  let _ ← map old new

def mapLecternUpdate : PacketHandler := do
  let _ ← passthrough byte -- New page to show
  let _ ← passthrough byte -- Total Pages
  let _ ← map old new -- Position of Lectern to update

/-- The event value of a note block is remapped, that of other events is not. -/
def mapTileEvent (remap : Int → Int) : PacketHandler := do
  let _ ← map old new -- Block Position
  let eventType ← passthrough varInt
  let eventData ← PacketWrapper.read varInt
  write varInt (if eventType = noteBlockEvent then remap eventData else eventData)

def mapSetSpawnPosition : PacketHandler := do
  let _ ← passthrough uvarInt -- Spawn Position Type
  let _ ← map old new -- Block Position
  let _ ← passthrough varInt -- Dimension type
  let _ ← map old new -- Spawn Block Pos

def mapAddVolumeEntity : PacketHandler := do
  let _ ← passthrough uvarInt -- Entity Network Id
  let _ ← passthrough compoundTag -- Components
  let _ ← passthrough string -- JSON Identifier
  let _ ← passthrough string -- Instance Name
  let _ ← map old new -- Min Bounds
  let _ ← map old new -- Max Bounds

def mapChangedBlock : PacketHandler := do
  let _ ← map old new -- Pos
  let _ ← passthrough uvarInt -- Runtime Id
  let _ ← passthrough uvarInt -- Update Flags
  let _ ← passthrough uvarInt64 -- Sync Message - Entity Unique ID
  let _ ← passthrough uvarInt -- Sync Message - Message

def mapUpdateSubChunkBlocks : PacketHandler := do
  let _ ← map old new -- Sub Chunk Block Position
  passthroughLoop (mapChangedBlock old new) -- Blocks Changed - Standards
  passthroughLoop (mapChangedBlock old new) -- Blocks Changed - Extras

def mapPlaySound : PacketHandler := do
  let _ ← passthrough string -- Name
  let _ ← map old new -- Position

/-- `types & flag`. -/
def hasTypeFlag (types flag : Int) : Bool := Int.land types flag != 0

def hasCreation (types : Int) : Bool :=
  hasTypeFlag types ClientboundMapItemDataType.creation.value

def hasDecoration (types : Int) : Bool :=
  hasTypeFlag types ClientboundMapItemDataType.decorationUpdate.value

def hasScale (types : Int) : Bool :=
  hasTypeFlag types (Int.lor (Int.lor ClientboundMapItemDataType.creation.value
    ClientboundMapItemDataType.decorationUpdate.value)
    ClientboundMapItemDataType.textureUpdate.value)

def mapTrackedObject : PacketHandler := do
  let objType ← passthrough intLE
  if objType = MapItemTrackedActorType.entity.value then do
    let _ ← passthrough varInt64 -- MapItemTrackedActor::UniqueId
  else if objType = MapItemTrackedActorType.blockEntity.value then do
    let _ ← map old new -- Block Position
  else pure ()

def mapTrackedObjects (condition : Bool) : PacketHandler :=
  if condition then passthroughLoop (mapTrackedObject old new) else pure ()

def mapMapData : PacketHandler := do
  let _ ← passthrough varInt64 -- Map ID
  let types ← passthrough uvarInt -- Type Flags
  let _ ← passthrough byte -- Dimension
  let _ ← passthrough bool -- Is Locked Map?
  let _ ← passthrough blockPos -- Map Origin
  passthroughIf (hasCreation types) (arrayType varInt64) -- Map ID List
  passthroughIf (hasScale types) byte -- Scale
  mapTrackedObjects old new (hasDecoration types) -- Actor IDs

def mapContainerOpen : PacketHandler := do
  let _ ← passthrough byte -- Container Id
  let _ ← passthrough byte -- Container Type
  let _ ← map old new -- Position

end Bodies

/-! ### From v924 to v944 -/

namespace V924ToV944

/-- `_TRUMPET_SHIFT`; the mapping data has a shift of instruments. -/
def trumpetShift : Int := (Mappings.v924V944.noteInstrument.map IdShift.count).getD 0

def upgradeInstrument (eventData : Int) : Int :=
  if eventData ≥ NoteBlockInstrument.trumpet.value then eventData + trumpetShift else eventData

def rewriteFirstNetBlockToBlock : PacketHandler := mapFirst networkBlockPos blockPos

def rewriteLecternUpdate : Direction → PacketHandler
  | .clientbound => mapLecternUpdate networkBlockPos blockPos
  | .serverbound => mapLecternUpdate blockPos networkBlockPos

def rewriteTileEvent : PacketHandler := mapTileEvent networkBlockPos blockPos upgradeInstrument

def rewriteSetSpawnPosition : PacketHandler := mapSetSpawnPosition networkBlockPos blockPos

def rewriteAddVolumeEntity : PacketHandler := mapAddVolumeEntity networkBlockPos blockPos

def rewriteUpdateSubChunkBlocks : PacketHandler := mapUpdateSubChunkBlocks networkBlockPos blockPos

def rewritePlaySound : PacketHandler := mapPlaySound networkBlockPos blockPos

def rewriteMapData : PacketHandler := mapMapData networkBlockPos blockPos

def rewriteContainerOpen : PacketHandler := mapContainerOpen networkBlockPos blockPos

def rewriteFirstBlockToNetBlock : PacketHandler := mapFirst blockPos networkBlockPos

end V924ToV944

/-! ### From v944 to v924 -/

namespace V944ToV924

/-- `_TRUMPET_SHIFT`, of the same mapping data. -/
def trumpetShift : Int := (Mappings.v924V944.noteInstrument.map IdShift.count).getD 0

def downgradeInstrument (eventData : Int) : Int :=
  if eventData ≥ NoteBlockInstrument.trumpet.value + trumpetShift then eventData - trumpetShift
  else eventData

def rewriteFirstBlockToNet : PacketHandler := mapFirst blockPos networkBlockPos

def rewriteLecternUpdate : Direction → PacketHandler
  | .clientbound => mapLecternUpdate blockPos networkBlockPos
  | .serverbound => mapLecternUpdate networkBlockPos blockPos

def rewriteTileEvent : PacketHandler := mapTileEvent blockPos networkBlockPos downgradeInstrument

def rewriteSetSpawnPosition : PacketHandler := mapSetSpawnPosition blockPos networkBlockPos

def rewriteAddVolumeEntity : PacketHandler := mapAddVolumeEntity blockPos networkBlockPos

def rewriteUpdateSubChunkBlocks : PacketHandler := mapUpdateSubChunkBlocks blockPos networkBlockPos

def rewritePlaySound : PacketHandler := mapPlaySound blockPos networkBlockPos

def rewriteMapData : PacketHandler := mapMapData blockPos networkBlockPos

def rewriteContainerOpen : PacketHandler := mapContainerOpen blockPos networkBlockPos

def rewriteFirstNetToBlock : PacketHandler := mapFirst networkBlockPos blockPos

end V944ToV924

end Endweave
