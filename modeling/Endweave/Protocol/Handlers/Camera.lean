import Endweave.Codec.Types.Camera
import Endweave.Codec.Wrapper

/-!
# The camera handlers from v898 to v944 and back

The steps walk through the same instructions to the spline, which they map with the codecs of their
versions.
-/

namespace Endweave

open PacketWrapper

/-- CameraInstruction, with the codecs of the spline. -/
def mapCameraInstruction (old new : FieldType SplineInstruction) : PacketHandler := do
  passthroughOptional do -- Set
    let _ ← passthrough intLE -- preset
    passthroughOptional do -- ease
      let _ ← passthrough byte -- type
      let _ ← passthrough floatLE -- time
    let _ ← passthrough (optionalType vec3) -- pos
    let _ ← passthrough (optionalType vec2) -- rot
    let _ ← passthrough (optionalType vec3) -- facing
    let _ ← passthrough (optionalType vec2) -- view_offset
    let _ ← passthrough (optionalType vec3) -- entity_offset
    let _ ← passthrough (optionalType bool) -- default
    let _ ← passthrough bool -- removeIgnoreStartingValuesComponent
  let _ ← passthrough (optionalType bool) -- Clear
  passthroughOptional do -- Fade
    passthroughOptional do -- Time
      let _ ← passthrough floatLE -- Fade In Time
      let _ ← passthrough floatLE -- Hold Time
      let _ ← passthrough floatLE -- Fade Out Time
    passthroughOptional do -- Color
      let _ ← passthrough floatLE -- Red
      let _ ← passthrough floatLE -- Green
      let _ ← passthrough floatLE -- Blue
  passthroughOptional do -- Target
    let _ ← passthrough (optionalType vec3) -- Target Center Offset
    let _ ← passthrough int64LE -- Target Actor ID
  let _ ← passthrough (optionalType bool) -- RemoveTarget
  passthroughOptional do -- FieldOfView
    let _ ← passthrough floatLE -- Field of View
    let _ ← passthrough floatLE -- FOV Ease Time
    let _ ← passthrough byte -- FOV Ease Type
    let _ ← passthrough bool -- Field of View Clear
  passthroughOptional do -- Spline
    let _ ← PacketWrapper.map old new

/-- CameraSpline, with the codecs of the splines. -/
def mapCameraSpline (old new : FieldType SplineInstruction) : PacketHandler :=
  passthroughLoop do -- Camera Data Splines
    let _ ← passthrough string -- CameraSplineDefinition.name
    let _ ← PacketWrapper.map old new

def V898ToV924.rewriteCameraInstruction : PacketHandler :=
  mapCameraInstruction splineInstructionV898 splineInstructionV924

def V924ToV898.rewriteCameraInstruction : PacketHandler :=
  mapCameraInstruction splineInstructionV924 splineInstructionV898

namespace V924ToV944

def rewriteCameraInstruction : PacketHandler :=
  mapCameraInstruction splineInstructionV924 splineInstructionV944

def rewriteCameraSpline : PacketHandler :=
  mapCameraSpline splineInstructionV924 splineInstructionV944

end V924ToV944

namespace V944ToV924

def rewriteCameraInstruction : PacketHandler :=
  mapCameraInstruction splineInstructionV944 splineInstructionV924

def rewriteCameraSpline : PacketHandler :=
  mapCameraSpline splineInstructionV944 splineInstructionV924

end V944ToV924

end Endweave
