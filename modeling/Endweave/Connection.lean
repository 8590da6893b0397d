import Endweave.Lib.OrderedDict

/-!
# The connection a handler sees

`UserConnection` holds the fields of the source's class that packet handlers and `Protocol.init`
work with.  The cached pipelines, which mention the handlers themselves, are added where the
pipeline is modelled.
-/

namespace Endweave

/-- A stored object, up to the plain data it is made of. -/
inductive PyObject where
  | int (value : Int)
  | str (value : String)
  | bytes (value : List UInt8)
  | tuple (items : List PyObject)

/-- A connected player's protocol state. -/
structure UserConnection where
  address : String
  clientProtocol : Int := 0
  serverProtocol : Int := 0
  /-- Handler state, keyed by the name of its type. -/
  storage : OrderedDict String PyObject := []

namespace UserConnection

def needsTranslation (c : UserConnection) : Bool :=
  c.clientProtocol != 0 && c.clientProtocol != c.serverProtocol

end UserConnection

end Endweave
