import Endweave.Protocol.PacketFormat
import Endweave.Protocol.Handlers.SoundEventMap
import Endweave.Protocol.Packets.ActorData
import Endweave.Protocol.Packets.Entities
import Endweave.Protocol.Packets.LevelSoundEvent

/-!
# The formats of sounds and of the packets with metadata

A sound is its number in v975.  Each version has put its new sounds in front of the undefined one,
so that a known sound has the same number everywhere, and an unknown one has the number of the
undefined one (`soundNumber`).
-/

namespace Endweave

open Wire

/-! ### Numbers -/

/-- The number of the undefined sound in v860, v898, v924, v944 and v975. -/
def undefinedSound : ℕ → Int
  | 0 => 566
  | 1 => 578
  | 2 => 597
  | 3 => 599
  | _ => 601

/-- The number of a sound after some of the changes. -/
def soundNumber (changes : ℕ) (sound : Int) : Int := min sound (undefinedSound changes)

/-- The first version that knows a sound; every version knows the undefined one. -/
def soundSince (sound : Int) : Int :=
  if sound < 566 ∨ sound = 601 then 859
  else if sound < 578 then 898
  else if sound < 597 then 924
  else if sound < 599 then 944
  else 975

/-! ### LevelSoundEvent -/

namespace LevelSoundEventPacket

/-- The packet up to v944. -/
def numberedBytes (changes : ℕ) (p : LevelSoundEventPacket) : List UInt8 :=
  uvarInt.bytes (soundNumber changes p.eventId) ++ p.tailBytes

/-- The sounds that the server plays.  v975 says where a projectile is fired at, v1001 has names,
and the empty name for a sound without one. -/
def format : PacketFormat where
  Data := LevelSoundEventPacket × Option Vec3
  direction := .clientbound
  packetId := PacketId.levelSoundEvent
  changes := [898, 924, 944, 975, 1001]
  form
    | 0, p => p.1.numberedBytes 0
    | 1, p => p.1.numberedBytes 1
    | 2, p => p.1.numberedBytes 2
    | 3, p => p.1.numberedBytes 3
    | 4, p => p.1.numberedBytes 4 ++ (optionalType vec3).bytes p.2
    | _, p => string.bytes ((V975ToV1001.soundEventNames.get? p.1.eventId).getD "") ++
        (p.1.tailBytes ++ (optionalType vec3).bytes p.2)
  Canonical p := p.1.Canonical ∧ p.1.eventId ≤ 601
  since p := max (soundSince p.1.eventId) (if p.2 = none then 859 else 975)

end LevelSoundEventPacket

/-! ### Metadata -/

/-- The key of the heartbeat sound. -/
def heartbeatKey : Int := 126

/-- The keys of aim assist, which v924 has added. -/
def aimAssistKeys : List Int := [136, 137, 138]

namespace ActorDataItem

/-- The sound that an entry is, if it is one. -/
def sound? (item : ActorDataItem) : Option Int :=
  if item.key = heartbeatKey then
    match item.value with
    | .int value | .int64 value => some value
    | _ => none
  else none

/-- The entry with another sound, if it is one. -/
def mapSound (f : Int → Int) (item : ActorDataItem) : ActorDataItem :=
  if item.key = heartbeatKey then
    match item.value with
    | .int value => { item with value := .int (f value) }
    | .int64 value => { item with value := .int64 (f value) }
    | _ => item
  else item

/-- A version after some of the changes has the entry. -/
def Known (changes : ℕ) (item : ActorDataItem) : Prop := 2 ≤ changes ∨ item.key ∉ aimAssistKeys

instance (changes : ℕ) (item : ActorDataItem) : Decidable (item.Known changes) :=
  inferInstanceAs (Decidable (_ ∨ _))

/-- The first version that has the entry and knows its sound. -/
def since (item : ActorDataItem) : Int :=
  if item.key ∈ aimAssistKeys then 924 else item.sound?.elim 859 soundSince

end ActorDataItem

/-- The metadata after some of the changes. -/
def metadataIn (changes : ℕ) (metadata : List ActorDataItem) : List ActorDataItem :=
  (metadata.filter fun item => item.Known changes).map
    (ActorDataItem.mapSound (soundNumber changes))

namespace ActorPacketKind

def packetId : ActorPacketKind → Int
  | setActorData => PacketId.setActorData
  | addActor => PacketId.addActor
  | addItemActor => PacketId.addItemActor
  | addPlayer => PacketId.addPlayer

def format (k : ActorPacketKind) : PacketFormat where
  Data := ActorPacket k
  direction := .clientbound
  packetId := k.packetId
  changes := [898, 924, 944, 975]
  form n p := ActorPacket.bytes { p with metadata := metadataIn n p.metadata }
  Canonical p := p.Canonical ∧ ∀ item ∈ p.metadata, ∀ sound ∈ item.sound?, sound ≤ 601
  since p := (p.metadata.map ActorDataItem.since).foldr max 859

end ActorPacketKind

end Endweave
