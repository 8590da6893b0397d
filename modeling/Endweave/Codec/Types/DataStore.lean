import Endweave.Codec.Types.Primitives
import Endweave.Lib.Recursion

/-!
# Data store values

A `ChangeValue` is a tree whose nodes are maps.  The codec calls itself for the entries of a map.
-/

namespace Endweave

open Wire

/-- A recursive data store change value.  The entries of a map are kept as they come. -/
inductive ChangeValue where
  | empty
  | bool (value : Bool)
  | int64 (value : Int)
  | string (value : String)
  | map (entries : List (String × ChangeValue))

/-- One entry of a map: a key, then whatever `self` reads. -/
def readChangeEntry (self : Parser PyException UInt8 ChangeValue) :
    Parser PyException UInt8 (String × ChangeValue) := do
  let key ← string.read
  let child ← self
  pure (key, child)

/-- The body of `_ChangeValueType.read`, which calls itself as `self`. -/
def readChangeValue (self : Parser PyException UInt8 ChangeValue) :
    Parser PyException UInt8 ChangeValue := do
  let typeId ← intLE.read
  if typeId = 0 then pure .empty
  else if typeId = 1 then .bool <$> bool.read
  else if typeId = 2 then .int64 <$> int64LE.read
  else if typeId = 4 then .string <$> string.read
  else if typeId = 6 then do
    let count ← uvarInt.read
    .map <$> collect (readChangeEntry self) count.toNat
  else throw (.valueError s!"Invalid data store change data type: {typeId}")

/-- One entry of a map: its key, then what `self` writes. -/
def writeChangeEntry (self : ChangeValue → Printer PyException UInt8 Unit)
    (entry : String × ChangeValue) : Printer PyException UInt8 Unit := do
  string.write entry.1
  self entry.2

/-- `_ChangeValueType.write`, which calls itself for the entries of a map; `calls` is as for the
reader. -/
def writeChangeValue : ℕ → ChangeValue → Printer PyException UInt8 Unit
  | 0, _ => throw .recursionError
  | _ + 1, .empty => intLE.write 0
  | _ + 1, .bool value => do
    intLE.write 1
    bool.write value
  | _ + 1, .int64 value => do
    intLE.write 2
    int64LE.write value
  | _ + 1, .string value => do
    intLE.write 4
    string.write value
  | calls + 1, .map entries => do
    intLE.write 6
    uvarInt.write entries.length
    each (writeChangeEntry (writeChangeValue calls)) entries

/-- `CHANGE_VALUE`.  The codec has no limit of its own for how deep its calls are nested: `calls` is
how many the interpreter still allows, after which it raises `RecursionError`. -/
def changeValue (calls : ℕ) : FieldType ChangeValue where
  read := nested .recursionError readChangeValue calls
  write := writeChangeValue calls

/-- `sys.getrecursionlimit()`, where nobody has set it.  The frames that are in use when a codec is
called count as well, so that somewhat fewer nested calls are left. -/
def recursionLimit : ℕ := 1000

end Endweave
