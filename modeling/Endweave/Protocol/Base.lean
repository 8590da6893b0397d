import Endweave.Protocol.Basic
import Endweave.Protocol.PacketIds

/-!
# The base protocol

Always on: it detects the client's version, rewrites the login and surfaces packet violations.
-/

namespace Endweave

open PacketWrapper

/-- Store the version declared by RequestNetworkSettings and send the server's instead. -/
def detectClientProtocol : PacketHandler := do
  let clientProto ← read intBE  -- ClientNetworkVersion
  modify fun w => { w with user := { w.user with clientProtocol := clientProto } }
  let connection ← PacketWrapper.user <$> get
  write intBE connection.serverProtocol

/-- Rewrite the Login packet's protocol version to the server's. -/
def rewriteLogin : PacketHandler := do
  let connection ← PacketWrapper.user <$> get
  let _ ← read intBE  -- Client Network Version
  write intBE connection.serverProtocol

/-- `try: body; except Exception: return`.  The wrapper stays as the body left it. -/
def swallow (body : PacketHandler) : PacketHandler := fun w =>
  match body w with
  | .ok _ w => .ok () w
  | .error _ w => .ok () w

/-- Decode a PacketViolationWarning for the log.  What follows the decoding only formats the log
line. -/
def logPacketViolation : PacketHandler := swallow do
  let _violationType ← passthrough varInt
  let _severity ← passthrough varInt
  let _offendingPacketId ← passthrough varInt
  let _context ← passthrough string
  pure ()

def createBaseProtocol (serverProtocol : Int) : Protocol :=
  (((Protocol.new serverProtocol 0 "base" true).registerServerbound
    PacketId.requestNetworkSettings detectClientProtocol).registerServerbound
    PacketId.login rewriteLogin).registerClientbound
    PacketId.packetViolationWarning logPacketViolation

end Endweave
