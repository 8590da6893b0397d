import Endweave.Codec.Equiv.Primitives
import Endweave.Protocol.Handlers.Animate

/-!
# The Animate packet

The packet of v860, whose rowing time is there when the action says so, and that of v898.
-/

namespace Endweave

open Wire

structure AnimateV860 where
  action : Int
  targetRuntimeId : Int
  data : UInt32
  rowingTime : Option UInt32
deriving Repr, DecidableEq

structure AnimateV898 where
  action : Int
  targetRuntimeId : Int
  data : UInt32
  swingSource : Option String
deriving Repr, DecidableEq

/-- The action of a rowing player. -/
def Rows (action : Int) : Prop := Int.land action V860ToV898.rowingFlag ≠ 0

instance (action : Int) : Decidable (Rows action) := inferInstanceAs (Decidable (_ ≠ _))

/-- The rowing time of an action. -/
def readRowingTime (action : Int) : Parser PyException UInt8 (Option UInt32) :=
  if Rows action then some <$> floatLE.read else pure none

def animateV860 : FieldType AnimateV860 where
  read := do
    let action ← varInt.read
    let targetRuntimeId ← uvarInt64.read
    let data ← floatLE.read
    let rowingTime ← readRowingTime action
    pure { action, targetRuntimeId, data, rowingTime }
  write p := do
    varInt.write p.action
    uvarInt64.write p.targetRuntimeId
    floatLE.write p.data
    each floatLE.write p.rowingTime.toList

def animateV898 : FieldType AnimateV898 where
  read := do
    let action ← byte.read
    let targetRuntimeId ← uvarInt64.read
    let data ← floatLE.read
    let swingSource ← (optionalType string).read
    pure { action, targetRuntimeId, data, swingSource }
  write p := do
    byte.write p.action
    uvarInt64.write p.targetRuntimeId
    floatLE.write p.data
    (optionalType string).write p.swingSource

structure AnimateV860.Canonical (p : AnimateV860) : Prop where
  action : InByte p.action
  targetRuntimeId : InUInt64 p.targetRuntimeId
  rowingTime : p.rowingTime.isSome ↔ Rows p.action

structure AnimateV898.Canonical (p : AnimateV898) : Prop where
  action : InByte p.action
  targetRuntimeId : InUInt64 p.targetRuntimeId
  swingSource : ∀ s, p.swingSource = some s → FitsString s

end Endweave
