import Endweave.Codec.Equiv.Primitives

/-!
# The DebugDrawer packet

The shapes, with the entity id that only v924 has.
-/

namespace Endweave

open Wire

/-- The members of the variant. -/
inductive ExtraShapeData where
  | null
  | arrow (endLocation : Option (UInt32 × UInt32 × UInt32)) (headLength headRadius : Option UInt32)
      (numSegments : Option Int)
  | text (value : String)
  | box (bound : UInt32 × UInt32 × UInt32)
  | line (endLocation : UInt32 × UInt32 × UInt32)
  | sphere (numSegments : Int)
deriving Repr, DecidableEq

structure DebugShape where
  networkId : Int
  shapeType : Option Int := none
  location : Option (UInt32 × UInt32 × UInt32) := none
  scale : Option UInt32 := none
  rotation : Option (UInt32 × UInt32 × UInt32) := none
  totalTimeLeft : Option UInt32 := none
  color : Option Int := none
  dimensionId : Int
  attachedToEntityId : Option Int := none
  extra : ExtraShapeData
deriving Repr, DecidableEq

/-! ### Bytes -/

def ExtraShapeData.typeIndex : ExtraShapeData → Int
  | null => 0
  | arrow .. => 1
  | text _ => 2
  | box _ => 3
  | line _ => 4
  | sphere _ => 5

/-- What stands behind the type index. -/
def ExtraShapeData.bytes : ExtraShapeData → List UInt8
  | null => []
  | arrow endLocation headLength headRadius numSegments =>
    (optionalType vec3).bytes endLocation ++ ((optionalType floatLE).bytes headLength ++
      ((optionalType floatLE).bytes headRadius ++ (optionalType byte).bytes numSegments))
  | text value => string.bytes value
  | box bound => vec3.bytes bound
  | line endLocation => vec3.bytes endLocation
  | sphere numSegments => byte.bytes numSegments

namespace DebugShape

def commonBytes (s : DebugShape) : List UInt8 :=
  uvarInt64.bytes s.networkId ++ ((optionalType byte).bytes s.shapeType ++
    ((optionalType vec3).bytes s.location ++ ((optionalType floatLE).bytes s.scale ++
      ((optionalType vec3).bytes s.rotation ++ ((optionalType floatLE).bytes s.totalTimeLeft ++
        ((optionalType intLE).bytes s.color ++ varInt.bytes s.dimensionId))))))

/-- A shape with `attached` in front of its extra data. -/
def bytes (attached : List UInt8) (s : DebugShape) : List UInt8 :=
  s.commonBytes ++ (attached ++ (byte.bytes s.extra.typeIndex ++ s.extra.bytes))

def bytesV898 (s : DebugShape) : List UInt8 := s.bytes []

def bytesV924 (s : DebugShape) : List UInt8 :=
  s.bytes ((optionalType uvarInt64).bytes s.attachedToEntityId)

/-- The same shape, attached to nothing. -/
def detached (s : DebugShape) : DebugShape := { s with attachedToEntityId := none }

end DebugShape

/-! ### Canonical packets -/

def ExtraShapeData.Canonical : ExtraShapeData → Prop
  | null | box _ | line _ => True
  | arrow _ _ _ numSegments => FitsOption InByte numSegments
  | text value => FitsString value
  | sphere numSegments => InByte numSegments

structure DebugShape.Canonical (s : DebugShape) : Prop where
  networkId : InUInt64 s.networkId
  shapeType : FitsOption InByte s.shapeType
  color : FitsOption InInt32 s.color
  dimensionId : InInt32 s.dimensionId
  attachedToEntityId : FitsOption InUInt64 s.attachedToEntityId
  extra : s.extra.Canonical

abbrev DebugDrawer := List DebugShape

namespace DebugDrawer

variable (p : DebugDrawer)

def bytesV898 : List UInt8 := arrayBytes DebugShape.bytesV898 p

def bytesV924 : List UInt8 := arrayBytes DebugShape.bytesV924 p

/-- The same shapes, attached to nothing. -/
def detached : DebugDrawer := p.map DebugShape.detached

def CanonicalV924 : Prop := FitsList DebugShape.Canonical p

/-- v898 has no entity ids. -/
structure CanonicalV898 : Prop where
  canonicalV924 : CanonicalV924 p
  attached : detached p = p

end DebugDrawer

end Endweave
