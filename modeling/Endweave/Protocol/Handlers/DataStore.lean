import Endweave.Codec.Types.DataStore
import Endweave.Codec.Wrapper

/-!
# The data store handlers between v898 and v924

v924 has a count of path updates behind the change type of a property update.  The handler that gets
the packet of the newer version strips it, the other one appends a zero.
-/

namespace Endweave

open PacketWrapper

/-- `wrapper.read(INT_LE)  # PathUpdateCount`. -/
def stripPathUpdateCount : PacketHandler := do
  let _ ← PacketWrapper.read intLE

/-- `wrapper.write(INT_LE, 0)  # PathUpdateCount`. -/
def appendPathUpdateCount : PacketHandler := write intLE 0

/-- The value of a property, by its data type. -/
def passthroughDataStoreValue (dataType : Int) : PacketHandler :=
  if dataType = 0 then do
    let _ ← passthrough doubleLE -- Double
  else if dataType = 1 then do
    let _ ← passthrough bool -- Bool
  else if dataType = 2 then do
    let _ ← passthrough string -- String
  else throw (.valueError s!"Invalid data store data type: {dataType}")

/-- A property update, with what a direction does about the count. -/
def passthroughPropertyUpdate (pathUpdateCount : PacketHandler) : PacketHandler := do
  let _ ← passthrough string -- DataStoreName
  let _ ← passthrough string -- Property
  let _ ← passthrough string -- Key
  let dataType ← passthrough uvarInt -- DataType
  passthroughDataStoreValue dataType
  let _ ← passthrough intLE -- ChangeType
  pathUpdateCount

/-- One update of the clientbound packet; `calls` is how many calls of `CHANGE_VALUE` the
interpreter allows to be nested. -/
def passthroughDataStoreAction (calls : ℕ) (pathUpdateCount : PacketHandler) : PacketHandler := do
  let actionType ← passthrough uvarInt -- ActionType
  if actionType = 0 then passthroughPropertyUpdate pathUpdateCount
  else if actionType = 1 then do
    let _ ← passthrough string -- DataStoreName
    let _ ← passthrough string -- Property
    let _ ← passthrough intLE -- ChangeType
    let _ ← passthrough (changeValue calls) -- ChangeValue
  else if actionType = 2 then do
    let _ ← passthrough string -- DataStoreName
  else throw (.valueError s!"Unknown data store action: {actionType}")

namespace V898ToV924

def rewriteServerboundDataStore : PacketHandler := passthroughPropertyUpdate stripPathUpdateCount

def rewriteClientboundDataStore (calls : ℕ) : PacketHandler :=
  passthroughLoop (passthroughDataStoreAction calls appendPathUpdateCount) -- Updates

end V898ToV924

namespace V924ToV898

def rewriteServerboundDataStore : PacketHandler := passthroughPropertyUpdate appendPathUpdateCount

def rewriteClientboundDataStore (calls : ℕ) : PacketHandler :=
  passthroughLoop (passthroughDataStoreAction calls stripPathUpdateCount) -- Updates

end V924ToV898

end Endweave
