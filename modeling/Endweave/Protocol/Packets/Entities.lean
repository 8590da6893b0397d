import Endweave.Codec.Equiv.Primitives
import Endweave.Protocol.Handlers.Entities
import Endweave.Protocol.MappingData
import Endweave.Protocol.PacketFormat
import Endweave.Protocol.PacketIds

/-!
# The packets of effects, events and movement

What each version has of them.  A field that only some versions have is at its default elsewhere.
-/

namespace Endweave

open Wire

/-- A vector of floats. -/
abbrev Vec3 := UInt32 × UInt32 × UInt32

/-! ### MobEffect -/

/-- v898 says whether the effect is an ambient one. -/
structure MobEffect where
  targetRuntimeId : Int
  eventId : Int
  effectId : Int
  amplifier : Int
  showParticles : Bool
  duration : Int
  tick : Int
  ambient : Bool
deriving Repr, DecidableEq

namespace MobEffect

/-- The fields of every version. -/
def fields (p : MobEffect) : List UInt8 :=
  uvarInt64.bytes p.targetRuntimeId ++ (byte.bytes p.eventId ++ (varInt.bytes p.effectId ++
    (varInt.bytes p.amplifier ++ (bool.bytes p.showParticles ++ (varInt.bytes p.duration ++
      uvarInt64.bytes p.tick)))))

structure Canonical (p : MobEffect) : Prop where
  targetRuntimeId : InUInt64 p.targetRuntimeId
  eventId : InByte p.eventId
  effectId : InInt32 p.effectId
  amplifier : InInt32 p.amplifier
  duration : InInt32 p.duration
  tick : InUInt64 p.tick

def format : PacketFormat where
  Data := MobEffect
  direction := .clientbound
  packetId := PacketId.mobEffect
  changes := [898]
  form
    | 0, p => p.fields
    | _, p => p.fields ++ bool.bytes p.ambient
  Canonical := Canonical
  since p := if p.ambient = false then 859 else 898

end MobEffect

/-! ### Event -/

/-- v898 has the event type a second time, as an unsigned field. -/
structure EventPacket where
  targetActorId : Int
  eventType : Int
  usePlayerId : Bool
  eventData : Int
  rest : List UInt8
deriving Repr, DecidableEq

namespace EventPacket

structure Canonical (p : EventPacket) : Prop where
  targetActorId : InInt64 p.targetActorId
  eventType : InInt32 p.eventType
  eventData : InUInt32 p.eventData

def format : PacketFormat where
  Data := EventPacket
  direction := .clientbound
  packetId := PacketId.legacyTelemetryEvent
  changes := [898]
  form
    | 0, p => varInt64.bytes p.targetActorId ++ (varInt.bytes p.eventType ++
        (bool.bytes p.usePlayerId ++ p.rest))
    | _, p => varInt64.bytes p.targetActorId ++ (varInt.bytes p.eventType ++
        (bool.bytes p.usePlayerId ++ (uvarInt.bytes p.eventData ++ p.rest)))
  Canonical := Canonical
  since p := if p.eventData = p.eventType % 2 ^ 32 then 859 else 898

end EventPacket

/-! ### Interact -/

/-- v898 has an optional position; v860 has one exactly for some actions. -/
structure Interact where
  action : Int
  targetRuntimeId : Int
  position : Option Vec3
deriving Repr, DecidableEq

namespace Interact

structure Canonical (p : Interact) : Prop where
  action : InByte p.action
  targetRuntimeId : InUInt64 p.targetRuntimeId

def format : PacketFormat where
  Data := Interact
  direction := .serverbound
  packetId := PacketId.interact
  changes := [898]
  form
    | 0, p => byte.bytes p.action ++ (uvarInt64.bytes p.targetRuntimeId ++
        if hasPosition p.action then vec3.bytes (p.position.getD (0, 0, 0)) else [])
    | _, p => byte.bytes p.action ++ (uvarInt64.bytes p.targetRuntimeId ++
        (optionalType vec3).bytes p.position)
  Canonical := Canonical
  since p := if p.position.isSome = hasPosition p.action then 859 else 898

end Interact

/-! ### ActorEvent -/

/-- The event id is that of v898.  v975 says where the event is fired at. -/
structure ActorEventPacket where
  targetRuntimeId : Int
  eventId : Int
  data : Int
  fireAtPosition : Option Vec3
deriving Repr, DecidableEq

namespace ActorEventPacket

/-- The event id that v898 has inserted. -/
def newEvent : Int := ActorEvent.kineticDamageDealt.value

/-- An event of both numberings, by its id in v860. -/
def oldEventId (eventId : Int) : Int := if newEvent < eventId then eventId - 1 else eventId

def bytes (eventId : Int) (p : ActorEventPacket) : List UInt8 :=
  uvarInt64.bytes p.targetRuntimeId ++ (byte.bytes eventId ++ varInt.bytes p.data)

structure Canonical (p : ActorEventPacket) : Prop where
  targetRuntimeId : InUInt64 p.targetRuntimeId
  eventId : InByte p.eventId
  data : InInt32 p.data

/-- The events that the server sends, but for the one that v860 does not have. -/
def format : PacketFormat where
  Data := ActorEventPacket
  direction := .clientbound
  packetId := PacketId.actorEvent
  changes := [898, 975]
  form
    | 0, p => p.bytes (oldEventId p.eventId)
    | 1, p => p.bytes p.eventId
    | _, p => p.bytes p.eventId ++ (optionalType vec3).bytes p.fireAtPosition
  Canonical p := p.Canonical ∧ p.eventId ≠ newEvent
  since p := if p.fireAtPosition = none then 859 else 975

/-- The event that v860 does not have; the step there cancels it. -/
def newFormat : PacketFormat where
  Data := ActorEventPacket
  direction := .clientbound
  packetId := PacketId.actorEvent
  changes := [975]
  form
    | 0, p => p.bytes p.eventId
    | _, p => p.bytes p.eventId ++ (optionalType vec3).bytes p.fireAtPosition
  Canonical p := p.Canonical ∧ p.eventId = newEvent
  since p := if p.fireAtPosition = none then 859 else 975
  firstVersion := 898

/-- The events that the client sends with an id below the one that v898 has inserted.  The steps
leave the ids of the client as they are, from that one on too, where v860 and v898 number them
differently. -/
def clientFormat : PacketFormat where
  Data := ActorEventPacket
  direction := .serverbound
  packetId := PacketId.actorEvent
  changes := [975]
  form
    | 0, p => p.bytes p.eventId
    | _, p => p.bytes p.eventId ++ (optionalType vec3).bytes p.fireAtPosition
  Canonical p := p.Canonical ∧ p.eventId < newEvent

end ActorEventPacket

/-! ### ClientMovementPredictionSync -/

/-- v975 has three more attributes. -/
structure ClientMovementPredictionSync where
  /-- The bytes of a bit set. -/
  flags : List UInt8
  attributes : List UInt32
  newAttributes : List UInt32
  actorUniqueId : Int
  flying : Bool
deriving Repr, DecidableEq

namespace ClientMovementPredictionSync

structure Canonical (p : ClientMovementPredictionSync) : Prop where
  flags : Leb128.Terminated p.flags
  attributes : p.attributes.length = 9
  newAttributes : p.newAttributes.length = 3
  actorUniqueId : InInt64 p.actorUniqueId

def format : PacketFormat where
  Data := ClientMovementPredictionSync
  direction := .serverbound
  packetId := PacketId.clientMovementPredictionSync
  changes := [975]
  form
    | 0, p => p.flags ++ (p.attributes.flatMap floatLE.bytes ++
        (varInt64.bytes p.actorUniqueId ++ bool.bytes p.flying))
    | _, p => p.flags ++ (p.attributes.flatMap floatLE.bytes ++
        (p.newAttributes.flatMap floatLE.bytes ++
          (varInt64.bytes p.actorUniqueId ++ bool.bytes p.flying)))
  Canonical := Canonical

end ClientMovementPredictionSync

end Endweave
