import Endweave.Codec.Types.ActorData
import Endweave.Codec.Types.Inventory
import Endweave.Protocol.Basic
import Endweave.Protocol.PacketIds

/-!
# `SoundRewriter`

Remaps the sound id of LevelSoundEvent and of the metadata of actors.  It registers clientbound
handlers only.
-/

namespace Endweave

open PacketWrapper

/-- The configuration of a version step. -/
structure SoundRewriter where
  soundRemap : Int → Int
  /-- The remapping of integer metadata, by key. -/
  intRemappers : OrderedDict Int (Int → Int) := []
  droppedKeys : List Int := []

namespace SoundRewriter

/-- The remapping of one entry, if it is an integer under a remapped key. -/
def remapItem (s : SoundRewriter) (item : ActorDataItem) : ActorDataItem :=
  match s.intRemappers.get? item.key, item.value with
  | some remap, .int value => { item with value := .int (remap value) }
  | some remap, .int64 value => { item with value := .int64 (remap value) }
  | _, _ => item

/-- Filter and remap a list of metadata. -/
def remapActorData (s : SoundRewriter) : PacketHandler := do
  let entries ← PacketWrapper.read actorDataList
  let entries := entries.filter fun e => !s.droppedKeys.contains e.key
  write actorDataList (entries.map s.remapItem)

def rewriteLevelSoundEvent (s : SoundRewriter) : PacketHandler := do
  let eventId ← PacketWrapper.read uvarInt
  write uvarInt (s.soundRemap eventId)
  let _ ← passthroughAll

def rewriteSetActorData (s : SoundRewriter) : PacketHandler := do
  let _ ← passthrough uvarInt64 -- Target Runtime ID
  s.remapActorData
  let _ ← passthroughAll -- Synched Properties, Tick

def passthroughAttribute : PacketHandler := do
  let _ ← passthrough string -- Attribute Name
  let _ ← passthrough floatLE -- Min Value
  let _ ← passthrough floatLE -- Current Value
  let _ ← passthrough floatLE -- Max Value

def rewriteAddActor (s : SoundRewriter) : PacketHandler := do
  let _ ← passthrough varInt64 -- Target Actor ID
  let _ ← passthrough uvarInt64 -- Target Runtime ID
  let _ ← passthrough string -- Actor Type
  let _ ← passthrough vec3 -- Position
  let _ ← passthrough vec3 -- Velocity
  let _ ← passthrough vec2 -- Rotation
  let _ ← passthrough floatLE -- Y Head Rotation
  let _ ← passthrough floatLE -- Y Body Rotation
  passthroughLoop passthroughAttribute -- Attributes List
  s.remapActorData
  let _ ← passthroughAll -- Synched Properties, Actor Links

def rewriteAddItemActor (s : SoundRewriter) : PacketHandler := do
  let _ ← passthrough varInt64 -- Target Actor ID
  let _ ← passthrough uvarInt64 -- Target Runtime ID
  let _ ← passthrough itemInstance -- Item
  let _ ← passthrough vec3 -- Position
  let _ ← passthrough vec3 -- Velocity
  s.remapActorData
  let _ ← passthroughAll -- From Fishing?

def rewriteAddPlayer (s : SoundRewriter) : PacketHandler := do
  let _ ← passthrough uuid -- UUID
  let _ ← passthrough string -- Player Name
  let _ ← passthrough uvarInt64 -- Target Runtime ID
  let _ ← passthrough string -- Platform Chat Id
  let _ ← passthrough vec3 -- Position
  let _ ← passthrough vec3 -- Velocity
  let _ ← passthrough vec2 -- Rotation
  let _ ← passthrough floatLE -- Y-Head Rotation
  let _ ← passthrough itemInstance -- Carried Item
  let _ ← passthrough varInt -- Player Game Type
  s.remapActorData
  let _ ← passthroughAll -- Synched Properties, AbilitiesData, Actor Links

def register (s : SoundRewriter) (p : Protocol) : Protocol :=
  p.registerClientbound PacketId.levelSoundEvent s.rewriteLevelSoundEvent
    |>.registerClientbound PacketId.setActorData s.rewriteSetActorData
    |>.registerClientbound PacketId.addActor s.rewriteAddActor
    |>.registerClientbound PacketId.addItemActor s.rewriteAddItemActor
    |>.registerClientbound PacketId.addPlayer s.rewriteAddPlayer

end SoundRewriter

end Endweave
