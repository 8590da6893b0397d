import Endweave.Codec.Wrapper

/-!
# The `DebugDrawer` handlers between v898 and v924

v924 has an optional entity id between the dimension of a shape and its extra data.
-/

namespace Endweave

open PacketWrapper

namespace V924ToV898

/-- `_passthrough_extra_shape_data`: the payload goes by the type index. -/
def passthroughExtraShapeData : PacketHandler := do
  let typeIndex ← passthrough byte -- Extra Shape Data
  if typeIndex = 1 then do -- ArrowDataPayload
    let _ ← passthrough (optionalType vec3) -- End Location
    let _ ← passthrough (optionalType floatLE) -- Arrow Head Length
    let _ ← passthrough (optionalType floatLE) -- Arrow Head Radius
    let _ ← passthrough (optionalType byte) -- Num Segments
  else if typeIndex = 2 then do -- TextDataPayload
    let _ ← passthrough string -- Text
  else if typeIndex = 3 then do -- BoxDataPayload
    let _ ← passthrough vec3 -- Box Bound
  else if typeIndex = 4 then do -- LineDataPayload
    let _ ← passthrough vec3 -- End Location
  else if typeIndex = 5 then do -- SphereDataPayload
    let _ ← passthrough byte -- Num Segments
  else pure ()

/-- `_passthrough_shape_common`. -/
def passthroughShapeCommon : PacketHandler := do
  let _ ← passthrough uvarInt64 -- NetworkId
  let _ ← passthrough (optionalType byte) -- Shape Type
  let _ ← passthrough (optionalType vec3) -- Location
  let _ ← passthrough (optionalType floatLE) -- Scale
  let _ ← passthrough (optionalType vec3) -- Rotation
  let _ ← passthrough (optionalType floatLE) -- Total Time Left
  let _ ← passthrough (optionalType intLE) -- Color
  let _ ← passthrough varInt -- Dimension ID

/-- A shape, with what a direction does about the entity id. -/
def passthroughShape (attachedToEntityId : PacketHandler) : PacketHandler := do
  passthroughShapeCommon
  attachedToEntityId
  passthroughExtraShapeData

/-- `wrapper.read(OptionalType(UVAR_INT64))`. -/
def stripAttachedToEntityId : PacketHandler := do
  let _ ← PacketWrapper.read (optionalType uvarInt64)

def rewriteDebugDrawer : PacketHandler :=
  passthroughLoop (passthroughShape stripAttachedToEntityId) -- Array of debug shapes

end V924ToV898

/-- An entity id is written as absent. -/
def V898ToV924.rewriteDebugDrawer : PacketHandler :=
  passthroughLoop (V924ToV898.passthroughShape (write bool false)) -- Array of debug shapes

end Endweave
