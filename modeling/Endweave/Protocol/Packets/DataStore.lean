import Endweave.Codec.Equiv.DataStore

/-!
# The data store packets

The bytes are given by what stands behind the change type of a property update: nothing in v898, a
count of path updates in v924.
-/

namespace Endweave

open Wire

/-! ### Updates -/

/-- The value of a property, of one of the three data types. -/
inductive DataStoreValue where
  | double (value : UInt64)
  | bool (value : Bool)
  | string (value : String)

structure PropertyUpdate where
  dataStoreName : String
  property : String
  key : String
  value : DataStoreValue
  changeType : Int

/-- One update of the clientbound packet. -/
inductive DataStoreAction where
  | update (data : PropertyUpdate)
  | change (dataStoreName property : String) (changeType : Int) (value : ChangeValue)
  | removal (dataStoreName : String)

/-! ### Bytes -/

def DataStoreValue.dataType : DataStoreValue → Int
  | double _ => 0
  | bool _ => 1
  | string _ => 2

def DataStoreValue.bytes : DataStoreValue → List UInt8
  | double value => doubleLE.bytes value
  | bool value => Endweave.bool.bytes value
  | string value => Endweave.string.bytes value

section Bytes

variable (count : List UInt8)

def PropertyUpdate.bytes (u : PropertyUpdate) : List UInt8 :=
  string.bytes u.dataStoreName ++ (string.bytes u.property ++ (string.bytes u.key ++
    (uvarInt.bytes u.value.dataType ++ (u.value.bytes ++ (intLE.bytes u.changeType ++ count)))))

def DataStoreAction.bytes : DataStoreAction → List UInt8
  | update data => uvarInt.bytes 0 ++ data.bytes count
  | change dataStoreName property changeType value =>
    uvarInt.bytes 1 ++ (string.bytes dataStoreName ++ (string.bytes property ++
      (intLE.bytes changeType ++ value.bytes)))
  | removal dataStoreName => uvarInt.bytes 2 ++ string.bytes dataStoreName

/-- The ClientboundDataStore packet. -/
def clientboundDataStoreBytes (actions : List DataStoreAction) : List UInt8 :=
  arrayBytes (DataStoreAction.bytes count) actions

end Bytes

/-! ### Canonical packets -/

def DataStoreValue.Canonical : DataStoreValue → Prop
  | double _ | bool _ => True
  | string value => FitsString value

structure PropertyUpdate.Canonical (u : PropertyUpdate) : Prop where
  dataStoreName : FitsString u.dataStoreName
  property : FitsString u.property
  key : FitsString u.key
  value : u.value.Canonical
  changeType : InInt32 u.changeType

def DataStoreAction.Canonical : DataStoreAction → Prop
  | update data => data.Canonical
  | change dataStoreName property changeType value =>
    FitsString dataStoreName ∧ FitsString property ∧ InInt32 changeType ∧ value.Canonical
  | removal dataStoreName => FitsString dataStoreName

/-- How many calls are nested for the tree of an update, if it has one. -/
def DataStoreAction.depth : DataStoreAction → ℕ
  | change _ _ _ value => value.depth
  | update _ | removal _ => 0

end Endweave
