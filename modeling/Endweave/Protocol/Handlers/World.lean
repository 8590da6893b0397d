import Endweave.Codec.Wrapper
import Endweave.Protocol.Basic

/-!
# The handlers of diagnostics, graphics, voxel shapes, input locks, sounds and chunks

Most of these packets have one field or list more in the newer version, at the end.
-/

namespace Endweave

open PacketWrapper

/-- AvgFps to AvgUnaccountedTimePercent. -/
def passthroughAverages : PacketHandler := Wire.repeatM (discard (passthrough floatLE)) 9

def passthroughKeyframe : PacketHandler := do
  let _ ← passthrough floatLE -- Float Value
  let _ ← passthrough vec3 -- Vec3 Value

/-! ### Between v898 and v924 -/

/-- Discard the memory categories. -/
def V898ToV924.rewriteDiagnostics : PacketHandler := do
  passthroughAverages
  let _ ← PacketWrapper.read remainingBytes

/-- Append an empty list of memory categories. -/
def V924ToV898.rewriteDiagnostics : PacketHandler := do
  passthroughAverages
  write uvarInt 0 -- Memory Category Values

def V898ToV924.rewriteGraphicsParameterOverride : PacketHandler := do
  passthroughLoop passthroughKeyframe -- Parameter Keyframe Values
  write (optionalType floatLE) none -- Float Value (not present)
  write (optionalType vec3) none -- Vec3 Value (not present)

def V924ToV898.rewriteGraphicsParameterOverride : PacketHandler := do
  passthroughLoop passthroughKeyframe -- Parameter Keyframe Values
  let _ ← PacketWrapper.read (optionalType floatLE) -- Float Value
  let _ ← PacketWrapper.read (optionalType vec3) -- Vec3 Value

/-! ### Between v924 and v944 -/

/-- Append a count of custom shapes. -/
def V924ToV944.rewriteVoxelShapes : PacketHandler := do
  let _ ← passthroughAll
  write ushortLE 0 -- Custom Shape Count

/-- Strip the two bytes of the count, wherever they stand: `data[:-2]`. -/
def V944ToV924.rewriteVoxelShapes : PacketHandler := do
  let data ← PacketWrapper.read remainingBytes
  write remainingBytes (data.take (data.length - 2))

def V924ToV944.rewriteUpdateClientInputLocks : PacketHandler := do
  let _ ← passthrough uvarInt -- Input Lock ComponentData
  let _ ← PacketWrapper.read vec3 -- Server Pos

def V944ToV924.rewriteUpdateClientInputLocks : PacketHandler := do
  let _ ← passthrough uvarInt -- Input Lock ComponentData
  write vec3 (0, 0, 0) -- Server Pos

/-! ### From v944 to v975 -/

def V944ToV975.rewritePlaySound : PacketHandler := do
  let _ ← passthroughAll -- Name, Position, Volume, Pitch
  write bool false -- Server Sound Handle (not present)

/-! ### From v975 to v1001 -/

namespace V975ToV1001

def passthroughMemoryCategory : PacketHandler := do
  let _ ← passthrough byte -- Category
  let _ ← passthrough int64LE -- Current Bytes

def passthroughEntityTiming : PacketHandler := do
  let _ ← passthrough string -- Display Name
  let _ ← passthrough string -- Entity
  let _ ← passthrough int64LE -- Time in NS
  let _ ← passthrough byte -- Percent of Total

def passthroughSystemTiming : PacketHandler := do
  let _ ← passthrough string -- Display Name
  let _ ← passthrough int64LE -- System Index
  let _ ← passthrough int64LE -- Time in NS
  let _ ← passthrough byte -- Percent of Total

/-- Discard the whisker scopes behind the three lists. -/
def rewriteDiagnostics : PacketHandler := do
  passthroughAverages
  passthroughLoop passthroughMemoryCategory
  passthroughLoop passthroughEntityTiming
  passthroughLoop passthroughSystemTiming
  let _ ← PacketWrapper.read remainingBytes

/-- `_SUB_CHUNK_REQUEST_MODE_LIMITLESS`: -1 as an unsigned integer. -/
def subChunkRequestModeLimitless : Int := 0xFFFFFFFF

/-- `_SUB_CHUNK_REQUEST_MODE_LIMITED`: -2 as an unsigned integer; a cap follows. -/
def subChunkRequestModeLimited : Int := 0xFFFFFFFE

/-- Rewrite the limited mode into the limitless one and drop its cap. -/
def rewriteSubChunkCount (subChunkCount : Int) : PacketHandler :=
  if subChunkCount = subChunkRequestModeLimited then do
    let _ ← PacketWrapper.read ushortLE -- HighestSubChunk
    write uvarInt subChunkRequestModeLimitless
  else write uvarInt subChunkCount

def rewriteLevelChunk : PacketHandler := do
  let _ ← passthrough varInt -- Chunk X
  let _ ← passthrough varInt -- Chunk Z
  let _ ← passthrough varInt -- Dimension
  let subChunkCount ← PacketWrapper.read uvarInt
  rewriteSubChunkCount subChunkCount
  let _ ← passthroughAll

end V975ToV1001

end Endweave
