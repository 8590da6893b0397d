import Endweave.Codec.Equiv.Primitives

/-!
# The LocatorBar packet

One grammar for both versions, with the icon of a waypoint as a parameter.
-/

namespace Endweave

open Wire

/-- A waypoint, by the type of its icon. -/
structure Waypoint (ι : Type) where
  groupHandle : MceUUID
  updateFlag : Int
  isVisible : Option Bool
  /-- The position and its dimension. -/
  worldPosition : Option ((UInt32 × UInt32 × UInt32) × Int)
  icon : ι
  color : Option Int
  clientPositionAuthority : Option Bool
  actorUniqueId : Option Int
  actionFlag : Int
deriving Repr, DecidableEq

/-- The icon of v975. -/
structure WaypointIcon where
  texturePath : Option String := none
  iconSize : Option (UInt32 × UInt32) := none
deriving Repr, DecidableEq

/-- The icon of v944: a texture id. -/
def textureId : FieldType (Option Int) := optionalType uintLE

def waypointIcon : FieldType WaypointIcon where
  read := do
    let texturePath ← (optionalType string).read
    let iconSize ← (optionalType vec2).read
    pure { texturePath, iconSize }
  write icon := do
    (optionalType string).write icon.texturePath
    (optionalType vec2).write icon.iconSize

def waypoint {ι : Type} (iconType : FieldType ι) : FieldType (Waypoint ι) where
  read := do
    let groupHandle ← uuid.read
    let updateFlag ← uintLE.read
    let isVisible ← (optionalType bool).read
    let worldPosition ← (optionalType (pairType vec3 varInt)).read
    let icon ← iconType.read
    let color ← (optionalType intLE).read
    let clientPositionAuthority ← (optionalType bool).read
    let actorUniqueId ← (optionalType varInt64).read
    let actionFlag ← uvarInt.read
    pure { groupHandle, updateFlag, isVisible, worldPosition, icon, color,
           clientPositionAuthority, actorUniqueId, actionFlag }
  write value := do
    uuid.write value.groupHandle
    uintLE.write value.updateFlag
    (optionalType bool).write value.isVisible
    (optionalType (pairType vec3 varInt)).write value.worldPosition
    iconType.write value.icon
    (optionalType intLE).write value.color
    (optionalType bool).write value.clientPositionAuthority
    (optionalType varInt64).write value.actorUniqueId
    uvarInt.write value.actionFlag

def locatorBarV944 : FieldType (List (Waypoint (Option Int))) := arrayType (waypoint textureId)

def locatorBarV975 : FieldType (List (Waypoint WaypointIcon)) := arrayType (waypoint waypointIcon)

namespace Waypoint

/-- The same waypoint without an icon. -/
def toV975 (value : Waypoint (Option Int)) : Waypoint WaypointIcon := { value with icon := {} }

structure Canonical (value : Waypoint (Option Int)) : Prop where
  groupHandle : InUInt64 value.groupHandle.msb ∧ InUInt64 value.groupHandle.lsb
  updateFlag : InUInt32 value.updateFlag
  worldPosition : FitsOption (fun p => InInt32 p.2) value.worldPosition
  icon : FitsOption InUInt32 value.icon
  color : FitsOption InInt32 value.color
  actorUniqueId : FitsOption InInt64 value.actorUniqueId
  actionFlag : InUInt32 value.actionFlag

end Waypoint

end Endweave
