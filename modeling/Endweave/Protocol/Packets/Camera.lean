import Endweave.Codec.Equiv.Primitives
import Endweave.Codec.Types.Camera

/-!
# The CameraInstruction and CameraSpline packets

One grammar for each, with the version's codec of a spline as a parameter.
-/

namespace Endweave

open Wire

/-! ### Instructions -/

/-- `CameraInstruction::SetInstruction`. -/
structure SetInstruction where
  preset : Int
  ease : Option (Int × UInt32)
  pos : Option (UInt32 × UInt32 × UInt32)
  rot : Option (UInt32 × UInt32)
  facing : Option (UInt32 × UInt32 × UInt32)
  viewOffset : Option (UInt32 × UInt32)
  entityOffset : Option (UInt32 × UInt32 × UInt32)
  default : Option Bool
  removeIgnoreStartingValues : Bool
deriving Repr, DecidableEq

/-- `CameraInstruction::FadeInstruction`: fade in, hold and fade out, and a colour. -/
structure FadeInstruction where
  time : Option (UInt32 × UInt32 × UInt32)
  color : Option (UInt32 × UInt32 × UInt32)
deriving Repr, DecidableEq

/-- `CameraInstruction::TargetInstruction`. -/
structure TargetInstruction where
  centerOffset : Option (UInt32 × UInt32 × UInt32)
  actorId : Int
deriving Repr, DecidableEq

/-- `CameraInstruction::FovInstruction`. -/
structure FovInstruction where
  fieldOfView : UInt32
  easeTime : UInt32
  easeType : Int
  clear : Bool
deriving Repr, DecidableEq

structure CameraInstruction where
  set : Option SetInstruction := none
  clear : Option Bool := none
  fade : Option FadeInstruction := none
  target : Option TargetInstruction := none
  removeTarget : Option Bool := none
  fieldOfView : Option FovInstruction := none
  spline : Option SplineInstruction := none
deriving Repr, DecidableEq

/-! ### Grammars -/

def setInstruction : FieldType SetInstruction where
  read := do
    let preset ← intLE.read
    let ease ← (optionalType (pairType byte floatLE)).read
    let pos ← (optionalType vec3).read
    let rot ← (optionalType vec2).read
    let facing ← (optionalType vec3).read
    let viewOffset ← (optionalType vec2).read
    let entityOffset ← (optionalType vec3).read
    let default ← (optionalType bool).read
    let removeIgnoreStartingValues ← bool.read
    pure { preset, ease, pos, rot, facing, viewOffset, entityOffset, default,
           removeIgnoreStartingValues }
  write value := do
    intLE.write value.preset
    (optionalType (pairType byte floatLE)).write value.ease
    (optionalType vec3).write value.pos
    (optionalType vec2).write value.rot
    (optionalType vec3).write value.facing
    (optionalType vec2).write value.viewOffset
    (optionalType vec3).write value.entityOffset
    (optionalType bool).write value.default
    bool.write value.removeIgnoreStartingValues

def fadeInstruction : FieldType FadeInstruction where
  read := do
    let time ← (optionalType vec3).read
    let color ← (optionalType vec3).read
    pure { time, color }
  write value := do
    (optionalType vec3).write value.time
    (optionalType vec3).write value.color

def targetInstruction : FieldType TargetInstruction where
  read := do
    let centerOffset ← (optionalType vec3).read
    let actorId ← int64LE.read
    pure { centerOffset, actorId }
  write value := do
    (optionalType vec3).write value.centerOffset
    int64LE.write value.actorId

def fovInstruction : FieldType FovInstruction where
  read := do
    let fieldOfView ← floatLE.read
    let easeTime ← floatLE.read
    let easeType ← byte.read
    let clear ← bool.read
    pure { fieldOfView, easeTime, easeType, clear }
  write value := do
    floatLE.write value.fieldOfView
    floatLE.write value.easeTime
    byte.write value.easeType
    bool.write value.clear

def cameraInstructionType (splineInstruction : FieldType SplineInstruction) :
    FieldType CameraInstruction where
  read := do
    let set ← (optionalType setInstruction).read
    let clear ← (optionalType bool).read
    let fade ← (optionalType fadeInstruction).read
    let target ← (optionalType targetInstruction).read
    let removeTarget ← (optionalType bool).read
    let fieldOfView ← (optionalType fovInstruction).read
    let spline ← (optionalType splineInstruction).read
    pure { set, clear, fade, target, removeTarget, fieldOfView, spline }
  write value := do
    (optionalType setInstruction).write value.set
    (optionalType bool).write value.clear
    (optionalType fadeInstruction).write value.fade
    (optionalType targetInstruction).write value.target
    (optionalType bool).write value.removeTarget
    (optionalType fovInstruction).write value.fieldOfView
    (optionalType splineInstruction).write value.spline

def cameraInstructionV898 : FieldType CameraInstruction :=
  cameraInstructionType splineInstructionV898

/-- CameraSpline: splines, each behind its name. -/
def cameraSplineType (splineInstruction : FieldType SplineInstruction) :
    FieldType (List (String × SplineInstruction)) :=
  arrayType (pairType string splineInstruction)

def cameraSplineV924 : FieldType (List (String × SplineInstruction)) :=
  cameraSplineType splineInstructionV924

/-! ### Canonical packets -/

/-- A spline of v944. -/
structure SplineInstruction.CanonicalV944 (s : SplineInstruction) : Prop where
  type : InByte s.type
  curve : s.curve.length < 2 ^ 32
  progressKeyFrames : FitsList (fun kf => InInt32 kf.easing) s.progressKeyFrames
  rotationKeyFrames : FitsList (fun rkf => InInt32 rkf.easing) s.rotationKeyFrames
  splineIdentifier : FitsString s.splineIdentifier

/-- A spline of v924 has no identifier and no flag. -/
structure SplineInstruction.CanonicalV924 (s : SplineInstruction) : Prop
    extends s.CanonicalV944 where
  noIdentifier : s.splineIdentifier = ""
  noFlag : s.loadFromJson = false

/-- A spline of v898 has no easings either. -/
structure SplineInstruction.CanonicalV898 (s : SplineInstruction) : Prop
    extends s.CanonicalV924 where
  progressEasings : ∀ kf ∈ s.progressKeyFrames, kf.easing = defaultEasing
  rotationEasings : ∀ rkf ∈ s.rotationKeyFrames, rkf.easing = defaultEasing

structure SetInstruction.Canonical (v : SetInstruction) : Prop where
  preset : InInt32 v.preset
  ease : FitsOption (fun ease => InByte ease.1) v.ease

/-- The parts of an instruction fit, whatever its spline. -/
structure CameraInstruction.Canonical (p : CameraInstruction) : Prop where
  set : FitsOption SetInstruction.Canonical p.set
  target : FitsOption (fun target => InInt64 target.actorId) p.target
  fieldOfView : FitsOption (fun fov => InByte fov.easeType) p.fieldOfView

structure CameraInstruction.CanonicalV898 (p : CameraInstruction) : Prop extends p.Canonical where
  spline : FitsOption SplineInstruction.CanonicalV898 p.spline

end Endweave
