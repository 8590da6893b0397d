import Endweave.Codec.Wrapper

/-!
# The `LocatorBar` handler from v944 to v975

The optional texture id of a waypoint gives way to an optional texture path and an optional icon
size, which are both written as absent.
-/

namespace Endweave.V944ToV975

open PacketWrapper

/-- Optional[uint32] TextureId becomes Optional[string] TexturePath and Optional[Vec2] IconSize. -/
def dropTextureId : PacketHandler := do
  let present ← PacketWrapper.read bool
  if present then discard (PacketWrapper.read uintLE) else pure ()
  write bool false -- TexturePath
  write bool false -- IconSize

def rewriteWaypoint : PacketHandler := do
  let _ ← passthrough uuid -- GroupHandle
  let _ ← passthrough uintLE -- UpdateFlag
  passthroughOptional do -- IsVisible
    let _ ← passthrough bool
  passthroughOptional do -- WorldPosition
    let _ ← passthrough vec3 -- Position
    let _ ← passthrough varInt -- DimensionType
  dropTextureId
  passthroughOptional do -- Color
    let _ ← passthrough intLE
  passthroughOptional do -- ClientPositionAuthority
    let _ ← passthrough bool
  passthroughOptional do -- ActorUniqueID
    let _ ← passthrough varInt64
  let _ ← passthrough uvarInt -- ActionFlag

def rewriteLocatorBar : PacketHandler :=
  passthroughLoop rewriteWaypoint -- Waypoints

end Endweave.V944ToV975
