import Endweave.Codec.Equiv.Nbt
import Endweave.Protocol.Handlers.BlockPos
import Endweave.Protocol.PacketIds

/-!
# The packets with block positions

Each kind of packet is one grammar with the codec of its positions as a parameter: with
`networkBlockPos` it is the packet of v924, with `blockPos` that of v944.  A packet may go on behind
the fields of its grammar.
-/

namespace Endweave

open Wire

/-- A block position; the coordinates are signed. -/
abbrev BlockPosition := Int × Int × Int

/-! ### Grammars -/

structure LecternUpdate where
  page : Int
  totalPages : Int
  position : BlockPosition

structure TileEvent where
  position : BlockPosition
  eventType : Int
  eventData : Int

structure SetSpawnPosition where
  spawnType : Int
  position : BlockPosition
  dimension : Int
  spawnBlock : BlockPosition

structure AddVolumeEntity where
  entityNetId : Int
  components : Option CompoundTag
  jsonIdentifier : String
  instanceName : String
  minBounds : BlockPosition
  maxBounds : BlockPosition

structure ChangedBlock where
  position : BlockPosition
  runtimeId : Int
  updateFlags : Int
  syncEntityId : Int
  syncMessage : Int

structure UpdateSubChunkBlocks where
  position : BlockPosition
  standards : List ChangedBlock
  extras : List ChangedBlock

structure PlaySound where
  name : String
  position : BlockPosition

/-- A tracked object; its constructor is the type, as far as the type decides what follows. -/
inductive MapTrackedObject where
  | entity (uniqueId : Int)
  | blockEntity (position : BlockPosition)
  | other (objType : Int) (notEntity : objType ≠ MapItemTrackedActorType.entity.value)
      (notBlock : objType ≠ MapItemTrackedActorType.blockEntity.value)

/-- The map ids, the scale and the tracked objects are there when the flags say so. -/
structure ClientboundMapItemData where
  mapId : Int
  types : Int
  dimension : Int
  isLocked : Bool
  origin : BlockPosition
  mapIds : List Int
  scale : Int
  objects : List MapTrackedObject

structure ContainerOpen where
  containerId : Int
  containerType : Int
  position : BlockPosition

section Grammars

variable (T : BlockPosType)

def lecternUpdateType : FieldType LecternUpdate where
  read := do
    let page ← byte.read
    let totalPages ← byte.read
    let position ← T.read
    pure { page, totalPages, position }
  write p := do
    byte.write p.page
    byte.write p.totalPages
    T.write p.position

def tileEventType : FieldType TileEvent where
  read := do
    let position ← T.read
    let eventType ← varInt.read
    let eventData ← varInt.read
    pure { position, eventType, eventData }
  write p := do
    T.write p.position
    varInt.write p.eventType
    varInt.write p.eventData

def setSpawnPositionType : FieldType SetSpawnPosition where
  read := do
    let spawnType ← uvarInt.read
    let position ← T.read
    let dimension ← varInt.read
    let spawnBlock ← T.read
    pure { spawnType, position, dimension, spawnBlock }
  write p := do
    uvarInt.write p.spawnType
    T.write p.position
    varInt.write p.dimension
    T.write p.spawnBlock

def addVolumeEntityType : FieldType AddVolumeEntity where
  read := do
    let entityNetId ← uvarInt.read
    let components ← compoundTag.read
    let jsonIdentifier ← string.read
    let instanceName ← string.read
    let minBounds ← T.read
    let maxBounds ← T.read
    pure { entityNetId, components, jsonIdentifier, instanceName, minBounds, maxBounds }
  write p := do
    uvarInt.write p.entityNetId
    compoundTag.write p.components
    string.write p.jsonIdentifier
    string.write p.instanceName
    T.write p.minBounds
    T.write p.maxBounds

def changedBlockType : FieldType ChangedBlock where
  read := do
    let position ← T.read
    let runtimeId ← uvarInt.read
    let updateFlags ← uvarInt.read
    let syncEntityId ← uvarInt64.read
    let syncMessage ← uvarInt.read
    pure { position, runtimeId, updateFlags, syncEntityId, syncMessage }
  write b := do
    T.write b.position
    uvarInt.write b.runtimeId
    uvarInt.write b.updateFlags
    uvarInt64.write b.syncEntityId
    uvarInt.write b.syncMessage

def updateSubChunkBlocksType : FieldType UpdateSubChunkBlocks where
  read := do
    let position ← T.read
    let standards ← (arrayType (changedBlockType T)).read
    let extras ← (arrayType (changedBlockType T)).read
    pure { position, standards, extras }
  write p := do
    T.write p.position
    (arrayType (changedBlockType T)).write p.standards
    (arrayType (changedBlockType T)).write p.extras

def playSoundType : FieldType PlaySound where
  read := do
    let name ← string.read
    let position ← T.read
    pure { name, position }
  write p := do
    string.write p.name
    T.write p.position

def MapTrackedObject.objType : MapTrackedObject → Int
  | entity _ => MapItemTrackedActorType.entity.value
  | blockEntity _ => MapItemTrackedActorType.blockEntity.value
  | other objType _ _ => objType

def readTrackedObject (objType : Int) : Parser PyException UInt8 MapTrackedObject :=
  if notEntity : objType ≠ MapItemTrackedActorType.entity.value then
    if notBlock : objType ≠ MapItemTrackedActorType.blockEntity.value then
      pure (.other objType notEntity notBlock)
    else MapTrackedObject.blockEntity <$> T.read
  else MapTrackedObject.entity <$> varInt64.read

def writeTrackedObject : MapTrackedObject → Printer PyException UInt8 Unit
  | .entity uniqueId => varInt64.write uniqueId
  | .blockEntity position => T.write position
  | .other _ _ _ => pure ()

def mapTrackedObjectType : FieldType MapTrackedObject where
  read := do
    let objType ← intLE.read
    readTrackedObject T objType
  write object := do
    intLE.write object.objType
    writeTrackedObject T object

def mapDataType : FieldType ClientboundMapItemData where
  read := do
    let mapId ← varInt64.read
    let types ← uvarInt.read
    let dimension ← byte.read
    let isLocked ← bool.read
    let origin ← blockPos.read
    let mapIds ← (fieldIf (hasCreation types) (arrayType varInt64) []).read
    let scale ← (fieldIf (hasScale types) byte 0).read
    let objects ← (fieldIf (hasDecoration types) (arrayType (mapTrackedObjectType T)) []).read
    pure { mapId, types, dimension, isLocked, origin, mapIds, scale, objects }
  write p := do
    varInt64.write p.mapId
    uvarInt.write p.types
    byte.write p.dimension
    bool.write p.isLocked
    blockPos.write p.origin
    (fieldIf (hasCreation p.types) (arrayType varInt64) []).write p.mapIds
    (fieldIf (hasScale p.types) byte 0).write p.scale
    (fieldIf (hasDecoration p.types) (arrayType (mapTrackedObjectType T)) []).write p.objects

def containerOpenType : FieldType ContainerOpen where
  read := do
    let containerId ← byte.read
    let containerType ← byte.read
    let position ← T.read
    pure { containerId, containerType, position }
  write p := do
    byte.write p.containerId
    byte.write p.containerType
    T.write p.position

end Grammars

/-! ### Canonical packets -/

/-- Any position of 32-bit coordinates, below sea level or not. -/
def BlockPosition.Canonical (v : BlockPosition) : Prop :=
  InInt32 v.1 ∧ InInt32 v.2.1 ∧ InInt32 v.2.2

instance (v : BlockPosition) : Decidable (BlockPosition.Canonical v) :=
  inferInstanceAs (Decidable (_ ∧ _ ∧ _))

structure LecternUpdate.Canonical (p : LecternUpdate) : Prop where
  page : InByte p.page
  totalPages : InByte p.totalPages
  position : BlockPosition.Canonical p.position

/-- The event value leaves room for the inserted instruments. -/
structure TileEvent.Canonical (p : TileEvent) : Prop where
  position : BlockPosition.Canonical p.position
  eventType : InInt32 p.eventType
  eventData : InInt32 p.eventData
  room : p.eventData < 2 ^ 31 - 4

structure SetSpawnPosition.Canonical (p : SetSpawnPosition) : Prop where
  spawnType : InUInt32 p.spawnType
  position : BlockPosition.Canonical p.position
  dimension : InInt32 p.dimension
  spawnBlock : BlockPosition.Canonical p.spawnBlock

structure AddVolumeEntity.Canonical (p : AddVolumeEntity) : Prop where
  entityNetId : InUInt32 p.entityNetId
  components : CanonicalNbt p.components
  jsonIdentifier : FitsString p.jsonIdentifier
  instanceName : FitsString p.instanceName
  minBounds : BlockPosition.Canonical p.minBounds
  maxBounds : BlockPosition.Canonical p.maxBounds

structure ChangedBlock.Canonical (b : ChangedBlock) : Prop where
  position : BlockPosition.Canonical b.position
  runtimeId : InUInt32 b.runtimeId
  updateFlags : InUInt32 b.updateFlags
  syncEntityId : InUInt64 b.syncEntityId
  syncMessage : InUInt32 b.syncMessage

structure UpdateSubChunkBlocks.Canonical (p : UpdateSubChunkBlocks) : Prop where
  position : BlockPosition.Canonical p.position
  standards : p.standards.length < 2 ^ 32 ∧ ∀ b ∈ p.standards, b.Canonical
  extras : p.extras.length < 2 ^ 32 ∧ ∀ b ∈ p.extras, b.Canonical

structure PlaySound.Canonical (p : PlaySound) : Prop where
  name : FitsString p.name
  position : BlockPosition.Canonical p.position

def MapTrackedObject.Canonical : MapTrackedObject → Prop
  | entity uniqueId => InInt64 uniqueId
  | blockEntity position => BlockPosition.Canonical position
  | other objType _ _ => InInt32 objType

structure ClientboundMapItemData.Canonical (p : ClientboundMapItemData) : Prop where
  mapId : InInt64 p.mapId
  types : InUInt32 p.types
  dimension : InByte p.dimension
  origin : BlockPosition.Canonical p.origin
  mapIds : p.mapIds.length < 2 ^ 32 ∧ ∀ id ∈ p.mapIds, InInt64 id
  noMapIds : hasCreation p.types = false → p.mapIds = []
  scale : InByte p.scale
  noScale : hasScale p.types = false → p.scale = 0
  objects : p.objects.length < 2 ^ 32 ∧ ∀ object ∈ p.objects, object.Canonical
  noObjects : hasDecoration p.types = false → p.objects = []

structure ContainerOpen.Canonical (p : ContainerOpen) : Prop where
  containerId : InByte p.containerId
  containerType : InByte p.containerType
  position : BlockPosition.Canonical p.position

/-! ### The kinds -/

def MapTrackedObject.positions : MapTrackedObject → List BlockPosition
  | .blockEntity position => [position]
  | _ => []

/-- The clientbound packets whose positions change between v924 and v944. -/
inductive BlockPosPacket where
  | updateBlock
  | updateBlockSynced
  | blockActorData
  | openSign
  | setSpawnPosition
  | addVolumeEntity
  | updateSubChunkBlocks
  | playSound
  | mapData
  | containerOpen
  | lecternUpdate
  | tileEvent
deriving Repr, DecidableEq

namespace BlockPosPacket

def packetId : BlockPosPacket → Int
  | updateBlock => PacketId.updateBlock
  | updateBlockSynced => PacketId.updateBlockSynced
  | blockActorData => PacketId.blockActorData
  | openSign => PacketId.openSign
  | setSpawnPosition => PacketId.setSpawnPosition
  | addVolumeEntity => PacketId.addVolumeEntity
  | updateSubChunkBlocks => PacketId.updateSubChunkBlocks
  | playSound => PacketId.playSound
  | mapData => PacketId.mapData
  | containerOpen => PacketId.containerOpen
  | lecternUpdate => PacketId.lecternUpdate
  | tileEvent => PacketId.tileEvent

/-- The fields up to the last position. -/
def Data : BlockPosPacket → Type
  | updateBlock | updateBlockSynced | blockActorData | openSign => BlockPosition
  | setSpawnPosition => SetSpawnPosition
  | addVolumeEntity => AddVolumeEntity
  | updateSubChunkBlocks => UpdateSubChunkBlocks
  | playSound => PlaySound
  | mapData => ClientboundMapItemData
  | containerOpen => ContainerOpen
  | lecternUpdate => LecternUpdate
  | tileEvent => TileEvent

def type (T : BlockPosType) : (k : BlockPosPacket) → FieldType k.Data
  | updateBlock | updateBlockSynced | blockActorData | openSign => T
  | setSpawnPosition => setSpawnPositionType T
  | addVolumeEntity => addVolumeEntityType T
  | updateSubChunkBlocks => updateSubChunkBlocksType T
  | playSound => playSoundType T
  | mapData => mapDataType T
  | containerOpen => containerOpenType T
  | lecternUpdate => lecternUpdateType T
  | tileEvent => tileEventType T

def Canonical : (k : BlockPosPacket) → k.Data → Prop
  | updateBlock | updateBlockSynced | blockActorData | openSign => BlockPosition.Canonical
  | setSpawnPosition => SetSpawnPosition.Canonical
  | addVolumeEntity => AddVolumeEntity.Canonical
  | updateSubChunkBlocks => UpdateSubChunkBlocks.Canonical
  | playSound => PlaySound.Canonical
  | mapData => ClientboundMapItemData.Canonical
  | containerOpen => ContainerOpen.Canonical
  | lecternUpdate => LecternUpdate.Canonical
  | tileEvent => TileEvent.Canonical

/-- The positions of a packet. -/
def positions : (k : BlockPosPacket) → k.Data → List BlockPosition
  | updateBlock, p | updateBlockSynced, p | blockActorData, p | openSign, p => [p]
  | setSpawnPosition, p => [SetSpawnPosition.position p, SetSpawnPosition.spawnBlock p]
  | addVolumeEntity, p => [AddVolumeEntity.minBounds p, AddVolumeEntity.maxBounds p]
  | updateSubChunkBlocks, p => UpdateSubChunkBlocks.position p ::
      ((UpdateSubChunkBlocks.standards p).map ChangedBlock.position ++
        (UpdateSubChunkBlocks.extras p).map ChangedBlock.position)
  | playSound, p => [PlaySound.position p]
  | mapData, p => ClientboundMapItemData.origin p ::
      (ClientboundMapItemData.objects p).flatMap MapTrackedObject.positions
  | containerOpen, p => [ContainerOpen.position p]
  | lecternUpdate, p => [LecternUpdate.position p]
  | tileEvent, p => [TileEvent.position p]

end BlockPosPacket

/-- The instrument of a note block has another number in v944. -/
def TileEvent.upgrade (p : TileEvent) : TileEvent :=
  { p with
    eventData :=
      if p.eventType = noteBlockEvent then V924ToV944.upgradeInstrument p.eventData
      else p.eventData }

/-- The packet as v944 has it: only a tile event changes. -/
def BlockPosPacket.upgrade : (k : BlockPosPacket) → k.Data → k.Data
  | tileEvent => TileEvent.upgrade
  | updateBlock | updateBlockSynced | blockActorData | openSign | setSpawnPosition
  | addVolumeEntity | updateSubChunkBlocks | playSound | mapData | containerOpen
  | lecternUpdate => id

end Endweave
