import Endweave.Codec.Wrapper

/-!
# The `SubChunkRequest` and `ClientCacheBlobStatus` handlers between v1001 and v975

Packets that a client of v1001 sends after its spawn.  The arrays are copied as blocks of raw bytes,
whose length is the declared count times the size of an element.
-/

namespace Endweave.V975ToV1001

open PacketWrapper PacketReader PacketWriter

/-- `_OFFSET_SIZE`: three signed bytes. -/
def offsetSize : Int := 3

/-- The position goes in front of the offsets, as varints, and the count becomes a fixed one. -/
def rewriteSubChunkRequest : PacketHandler := do
  let _ ← passthrough varInt -- Dimension
  let offsetCount ← PacketWrapper.read uvarInt
  let offsetBytes ← onReader (readBytes (offsetCount * offsetSize))
  let posX ← PacketWrapper.read intLE
  let posY ← PacketWrapper.read intLE
  let posZ ← PacketWrapper.read intLE
  write varInt posX
  write varInt posY
  write varInt posZ
  write uintLE offsetCount
  onWriter (writeBytes offsetBytes)

/-- Both counts go in front of both arrays. -/
def rewriteClientCacheBlobStatus : PacketHandler := do
  let missCount ← PacketWrapper.read uvarInt
  let missHashes ← onReader (readBytes (missCount * 8))
  let hitCount ← PacketWrapper.read uvarInt
  let hitHashes ← onReader (readBytes (hitCount * 8))
  write uvarInt missCount
  write uvarInt hitCount
  onWriter (writeBytes missHashes)
  onWriter (writeBytes hitHashes)

end Endweave.V975ToV1001
