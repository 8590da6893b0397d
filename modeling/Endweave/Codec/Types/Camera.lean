import Endweave.Codec.Types.Primitives

/-!
# Camera splines

v898 has no easings in the key frames of a spline; v944 has an identifier and a flag behind them.
-/

namespace Endweave

open Wire

/-- A progress key frame in a camera spline. -/
structure KeyFrame where
  value : UInt32
  time : UInt32
  easing : Int
deriving Repr, DecidableEq

/-- A rotation key frame in a camera spline. -/
structure RotationKeyFrame where
  value : UInt32 × UInt32 × UInt32
  time : UInt32
  easing : Int
deriving Repr, DecidableEq

/-- `CameraInstruction::SplineInstruction`. -/
structure SplineInstruction where
  totalTime : UInt32
  type : Int
  curve : List (UInt32 × UInt32 × UInt32)
  progressKeyFrames : List KeyFrame
  rotationKeyFrames : List RotationKeyFrame
  splineIdentifier : String := ""
  loadFromJson : Bool := false
deriving Repr, DecidableEq

/-- `_DEFAULT_EASING`: linear. -/
def defaultEasing : Int := 0

/-! ### Key frames -/

def keyFrameV898 : FieldType KeyFrame where
  read := do
    let value ← floatLE.read
    let time ← floatLE.read
    pure { value, time, easing := defaultEasing }
  write kf := do
    floatLE.write kf.value
    floatLE.write kf.time

def keyFrameV924 : FieldType KeyFrame where
  read := do
    let value ← floatLE.read
    let time ← floatLE.read
    let easing ← intLE.read
    pure { value, time, easing }
  write kf := do
    floatLE.write kf.value
    floatLE.write kf.time
    intLE.write kf.easing

def rotationKeyFrameV898 : FieldType RotationKeyFrame where
  read := do
    let value ← vec3.read
    let time ← floatLE.read
    pure { value, time, easing := defaultEasing }
  write rkf := do
    vec3.write rkf.value
    floatLE.write rkf.time

def rotationKeyFrameV924 : FieldType RotationKeyFrame where
  read := do
    let value ← vec3.read
    let time ← floatLE.read
    let easing ← intLE.read
    pure { value, time, easing }
  write rkf := do
    vec3.write rkf.value
    floatLE.write rkf.time
    intLE.write rkf.easing

/-! ### Splines -/

/-- The spline of v898 and v924, by the version's codecs of the key frames. -/
def splineInstructionType (keyFrame : FieldType KeyFrame)
    (rotationKeyFrame : FieldType RotationKeyFrame) : FieldType SplineInstruction where
  read := do
    let totalTime ← floatLE.read
    let type ← byte.read
    let curve ← (arrayType vec3).read
    let progressKeyFrames ← (arrayType keyFrame).read
    let rotationKeyFrames ← (arrayType rotationKeyFrame).read
    pure { totalTime, type, curve, progressKeyFrames, rotationKeyFrames }
  write value := do
    floatLE.write value.totalTime
    byte.write value.type
    (arrayType vec3).write value.curve
    (arrayType keyFrame).write value.progressKeyFrames
    (arrayType rotationKeyFrame).write value.rotationKeyFrames

def splineInstructionV898 : FieldType SplineInstruction :=
  splineInstructionType keyFrameV898 rotationKeyFrameV898

def splineInstructionV924 : FieldType SplineInstruction :=
  splineInstructionType keyFrameV924 rotationKeyFrameV924

/-- The spline of v924, then the identifier and the flag. -/
def splineInstructionV944 : FieldType SplineInstruction where
  read := do
    let spline ← splineInstructionV924.read
    let splineIdentifier ← string.read
    let loadFromJson ← bool.read
    pure { spline with splineIdentifier, loadFromJson }
  write value := do
    splineInstructionV924.write value
    string.write value.splineIdentifier
    bool.write value.loadFromJson

end Endweave
