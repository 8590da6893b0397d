import Endweave.Codec.Equiv.Primitives
import Endweave.Protocol.Handlers.World
import Endweave.Protocol.PacketFormat
import Endweave.Protocol.PacketIds
import Endweave.Protocol.Packets.Entities

/-!
# The packets of diagnostics, graphics, voxel shapes, input locks and chunks

What each version has of them.  A field that only some versions have is at its default elsewhere.
-/

namespace Endweave

open Wire V975ToV1001

/-! ### ServerboundDiagnostics -/

structure MemoryCategory where
  category : Int
  currentBytes : Int
deriving Repr, DecidableEq

namespace MemoryCategory

def bytes (c : MemoryCategory) : List UInt8 := byte.bytes c.category ++ int64LE.bytes c.currentBytes

structure Canonical (c : MemoryCategory) : Prop where
  category : InByte c.category
  currentBytes : InInt64 c.currentBytes

end MemoryCategory

/-- The packet of clients up to v944.  v924 has the memory categories, whatever their bytes are. -/
structure Diagnostics where
  averages : List UInt32
  memoryCategories : List MemoryCategory
deriving Repr, DecidableEq

namespace Diagnostics

structure Canonical (p : Diagnostics) : Prop where
  averages : p.averages.length = 9

def format : PacketFormat where
  Data := Diagnostics
  direction := .serverbound
  packetId := PacketId.serverboundDiagnostics
  changes := [924]
  form
    | 0, p => p.averages.flatMap floatLE.bytes
    | _, p => p.averages.flatMap floatLE.bytes ++ arrayBytes MemoryCategory.bytes p.memoryCategories
  Canonical := Canonical
  since p := if p.memoryCategories = [] then 859 else 924
  coveredUpTo := 944

end Diagnostics

structure EntityTiming where
  displayName : String
  entity : String
  time : Int
  percent : Int
deriving Repr, DecidableEq

namespace EntityTiming

def bytes (t : EntityTiming) : List UInt8 :=
  string.bytes t.displayName ++ (string.bytes t.entity ++ (int64LE.bytes t.time ++
    byte.bytes t.percent))

structure Canonical (t : EntityTiming) : Prop where
  displayName : FitsString t.displayName
  entity : FitsString t.entity
  time : InInt64 t.time
  percent : InByte t.percent

end EntityTiming

structure SystemTiming where
  displayName : String
  systemIndex : Int
  time : Int
  percent : Int
deriving Repr, DecidableEq

namespace SystemTiming

def bytes (t : SystemTiming) : List UInt8 :=
  string.bytes t.displayName ++ (int64LE.bytes t.systemIndex ++ (int64LE.bytes t.time ++
    byte.bytes t.percent))

structure Canonical (t : SystemTiming) : Prop where
  displayName : FitsString t.displayName
  systemIndex : InInt64 t.systemIndex
  time : InInt64 t.time
  percent : InByte t.percent

end SystemTiming

/-- The packet of clients from v975 on, which the step to v944 cancels.  v1001 has whisker scopes
behind it, whatever their bytes are. -/
structure TimedDiagnostics where
  averages : List UInt32
  memoryCategories : List MemoryCategory
  entityTimings : List EntityTiming
  systemTimings : List SystemTiming
  whiskerScopes : List UInt8
deriving Repr, DecidableEq

namespace TimedDiagnostics

structure Canonical (p : TimedDiagnostics) : Prop where
  averages : p.averages.length = 9
  memoryCategories : ∀ c ∈ p.memoryCategories, c.Canonical
  entityTimings : ∀ t ∈ p.entityTimings, t.Canonical
  systemTimings : ∀ t ∈ p.systemTimings, t.Canonical
  memoryCount : p.memoryCategories.length < 2 ^ 32
  entityCount : p.entityTimings.length < 2 ^ 32
  systemCount : p.systemTimings.length < 2 ^ 32

/-- The fields of both versions. -/
def fields (p : TimedDiagnostics) : List UInt8 :=
  p.averages.flatMap floatLE.bytes ++ (arrayBytes MemoryCategory.bytes p.memoryCategories ++
    (arrayBytes EntityTiming.bytes p.entityTimings ++
      arrayBytes SystemTiming.bytes p.systemTimings))

def format : PacketFormat where
  Data := TimedDiagnostics
  direction := .serverbound
  packetId := PacketId.serverboundDiagnostics
  changes := [1001]
  form
    | 0, p => p.fields
    | _, p => p.fields ++ p.whiskerScopes
  Canonical := Canonical
  firstVersion := 975

end TimedDiagnostics

/-! ### GraphicsParameterOverride -/

structure Keyframe where
  floatValue : UInt32
  vec3Value : Vec3
deriving Repr, DecidableEq

def Keyframe.bytes (k : Keyframe) : List UInt8 :=
  floatLE.bytes k.floatValue ++ vec3.bytes k.vec3Value

/-- v924 has two optional values behind the key frames.  The identifier of the biome follows. -/
structure GraphicsParameterOverride where
  keyframes : List Keyframe
  floatValue : Option UInt32
  vec3Value : Option Vec3
  rest : List UInt8
deriving Repr, DecidableEq

namespace GraphicsParameterOverride

def format : PacketFormat where
  Data := GraphicsParameterOverride
  direction := .clientbound
  packetId := PacketId.graphicsParameterOverride
  changes := [924]
  form
    | 0, p => arrayBytes Keyframe.bytes p.keyframes ++ p.rest
    | _, p => arrayBytes Keyframe.bytes p.keyframes ++ ((optionalType floatLE).bytes p.floatValue ++
        ((optionalType vec3).bytes p.vec3Value ++ p.rest))
  Canonical p := p.keyframes.length < 2 ^ 32
  since p := if p.floatValue = none ∧ p.vec3Value = none then 859 else 924

end GraphicsParameterOverride

/-! ### VoxelShapes -/

/-- v944 has a count of custom shapes at the end, whatever comes before. -/
structure VoxelShapes where
  shapes : List UInt8
  customShapeCount : Int
deriving Repr, DecidableEq

namespace VoxelShapes

def format : PacketFormat where
  Data := VoxelShapes
  direction := .clientbound
  packetId := PacketId.voxelShapes
  changes := [944]
  form
    | 0, p => p.shapes
    | _, p => p.shapes ++ ushortLE.bytes p.customShapeCount
  Canonical p := InUInt16 p.customShapeCount
  since p := if p.customShapeCount = 0 then 924 else 944
  firstVersion := 924

end VoxelShapes

/-! ### UpdateClientInputLocks -/

/-- v944 has no position any more. -/
structure UpdateClientInputLocks where
  lockData : Int
  serverPos : Vec3
deriving Repr, DecidableEq

namespace UpdateClientInputLocks

def format : PacketFormat where
  Data := UpdateClientInputLocks
  direction := .clientbound
  packetId := PacketId.playerClientInputPermissions
  changes := [944]
  form
    | 0, p => uvarInt.bytes p.lockData ++ vec3.bytes p.serverPos
    | _, p => uvarInt.bytes p.lockData
  Canonical p := InUInt32 p.lockData
  upTo p := if p.serverPos = (0, 0, 0) then 1001 else 924

end UpdateClientInputLocks

/-! ### LevelChunk -/

/-- How the sub-chunks are requested. -/
inductive SubChunkMode where
  | counted (subChunkCount : Int)
  | limitless
  /-- With a cap, which older servers compute for a lower world. -/
  | limited (highestSubChunk : Int)
deriving Repr, DecidableEq

structure LevelChunk where
  x : Int
  z : Int
  dimension : Int
  mode : SubChunkMode
  rest : List UInt8
deriving Repr, DecidableEq

namespace SubChunkMode

def bytes : SubChunkMode → List UInt8
  | counted subChunkCount => uvarInt.bytes subChunkCount
  | limitless => uvarInt.bytes subChunkRequestModeLimitless
  | limited highestSubChunk =>
    uvarInt.bytes subChunkRequestModeLimited ++ ushortLE.bytes highestSubChunk

/-- Without the cap: the client asks for the full column. -/
def uncapped : SubChunkMode → SubChunkMode
  | counted subChunkCount => counted subChunkCount
  | limitless | limited _ => limitless

/-- A count is none of the two numbers that stand for a mode. -/
def Canonical : SubChunkMode → Prop
  | counted subChunkCount => 0 ≤ subChunkCount ∧ subChunkCount < subChunkRequestModeLimited
  | limitless => True
  | limited highestSubChunk => InUInt16 highestSubChunk

end SubChunkMode

namespace LevelChunk

/-- The wire is the same in all versions. -/
def bytes (p : LevelChunk) : List UInt8 :=
  varInt.bytes p.x ++ (varInt.bytes p.z ++ (varInt.bytes p.dimension ++ (p.mode.bytes ++ p.rest)))

def uncapped (p : LevelChunk) : LevelChunk := { p with mode := p.mode.uncapped }

structure Canonical (p : LevelChunk) : Prop where
  x : InInt32 p.x
  z : InInt32 p.z
  dimension : InInt32 p.dimension
  mode : p.mode.Canonical

/-- v1001 gets the chunks of older servers without their caps, which were computed for a lower
world.  The format is not about caps that a v1001 server has computed. -/
def format : PacketFormat where
  Data := LevelChunk
  direction := .clientbound
  packetId := PacketId.fullChunkData
  changes := [1001]
  form
    | 0, p => p.bytes
    | _, p => p.uncapped.bytes
  Canonical := Canonical
  upTo p := if p.uncapped = p then 1001 else 975

end LevelChunk

end Endweave
