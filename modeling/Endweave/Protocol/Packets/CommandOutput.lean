import Endweave.Protocol.Packets.AvailableCommands

/-!
# The CommandOutput packet

Up to the data set, an optional string behind the messages that no handler reads.
-/

namespace Endweave

open Wire

structure CommandOutputMessage where
  internal : Bool
  messageId : String
  parameters : List String
deriving Repr, DecidableEq

structure CommandOutput where
  origin : CommandOrigin
  outputType : CommandOutputType
  successCount : Int
  messages : List CommandOutputMessage
deriving Repr, DecidableEq

/-! ### Bytes -/

def CommandOutputMessage.bytesV860 (m : CommandOutputMessage) : List UInt8 :=
  bool.bytes m.internal ++ (string.bytes m.messageId ++ arrayBytes string.bytes m.parameters)

def CommandOutputMessage.bytesV898 (m : CommandOutputMessage) : List UInt8 :=
  string.bytes m.messageId ++ (bool.bytes m.internal ++ arrayBytes string.bytes m.parameters)

namespace CommandOutput

def bytesV860 (p : CommandOutput) : List UInt8 :=
  commandOriginV860.bytes p.origin ++ (byte.bytes p.outputType.value ++
    (uvarInt.bytes p.successCount ++ arrayBytes CommandOutputMessage.bytesV860 p.messages))

/-- Behind the messages there is a flag: the output is a data set. -/
def bytesV898 (p : CommandOutput) : List UInt8 :=
  commandOriginV898.bytes p.origin ++ (string.bytes (toLabel p.outputType.name) ++
    (intLE.bytes p.successCount ++ (arrayBytes CommandOutputMessage.bytesV898 p.messages ++
      bool.bytes (p.outputType == .dataSet))))

end CommandOutput

/-! ### Canonical packets -/

/-- v898 has a player id for every origin. -/
structure CommandOrigin.CanonicalV898 (o : CommandOrigin) : Prop where
  originType : 0 ≤ o.originType ∧ o.originType ≤ 15
  msb : InUInt64 o.uuid.msb
  lsb : InUInt64 o.uuid.lsb
  requestId : FitsString o.requestId
  playerId : InInt64 o.playerId

/-- A player id is on the wire of v860 for two origins only; it is -1 for the others. -/
structure CommandOrigin.Canonical (o : CommandOrigin) : Prop extends o.CanonicalV898 where
  absent : hasPlayerId o.originType = false → o.playerId = -1

structure CommandOutputMessage.Canonical (m : CommandOutputMessage) : Prop where
  messageId : FitsString m.messageId
  parameters : FitsList FitsString m.parameters

structure CommandOutput.Canonical (p : CommandOutput) : Prop where
  origin : p.origin.Canonical
  successCount : 0 ≤ p.successCount ∧ p.successCount < 2 ^ 31
  messages : FitsList CommandOutputMessage.Canonical p.messages

end Endweave
