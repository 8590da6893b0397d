import Endweave.Codec.Equiv.Wrapper
import Endweave.Protocol.Steps

/-!
# The LevelSoundEvent packet

The packet of v860 to v944.  v975 adds an optional position behind the last field.
-/

namespace Endweave

open Wire

structure LevelSoundEventPacket where
  eventId : Int
  position : UInt32 × UInt32 × UInt32
  data : Int
  actorIdentifier : String
  isBaby : Bool
  isGlobal : Bool
  actorUniqueId : Int

namespace LevelSoundEventPacket

variable (p : LevelSoundEventPacket)

/-- What follows the sound id. -/
def tailBytes : List UInt8 :=
  List.flatten [vec3.bytes p.position, varInt.bytes p.data, string.bytes p.actorIdentifier,
    bool.bytes p.isBaby, bool.bytes p.isGlobal, int64LE.bytes p.actorUniqueId]

/-- The packet as the writers encode it. -/
def bytes : List UInt8 := uvarInt.bytes p.eventId ++ p.tailBytes

/-- The fields are in the range of their codecs, and the sound id is not among the last 64. -/
structure Canonical : Prop where
  eventId : 0 ≤ p.eventId ∧ p.eventId < 2 ^ 32 - 64
  data : InInt32 p.data
  actorIdentifier : FitsString p.actorIdentifier
  actorUniqueId : InInt64 p.actorUniqueId

end LevelSoundEventPacket

/-- The upgrade steps whose sound ids are numbers on both sides. -/
inductive SoundStep where
  | v860V898
  | v898V924
  | v924V944
  | v944V975
deriving Repr, DecidableEq

namespace SoundStep

/-- The steps from the oldest server to the newest client. -/
def all : List SoundStep := [v860V898, v898V924, v924V944, v944V975]

def protocol (other : OtherHandlers) : SoundStep → Protocol
  | v860V898 => V860ToV898.createProtocol other
  | v898V924 => V898ToV924.createProtocol other
  | v924V944 => V924ToV944.createProtocol other
  | v944V975 => V944ToV975.createProtocol other

def mappings : SoundStep → MappingData
  | v860V898 => Mappings.v860V898
  | v898V924 => Mappings.v898V924
  | v924V944 => Mappings.v924V944
  | v944V975 => Mappings.v944V975

/-- The pipeline of a clientbound packet, from the server to the client. -/
def clientbound (other : OtherHandlers) (chain : List SoundStep) : List Protocol :=
  chain.map (protocol other)

/-- The pipeline of a serverbound packet, from the client to the server. -/
def serverbound (other : OtherHandlers) (chain : List SoundStep) : List Protocol :=
  (clientbound other chain).reverse

end SoundStep

end Endweave
