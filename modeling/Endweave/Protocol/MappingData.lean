import Endweave.Codec.Types.Enums

/-!
# `MappingData`

The ids that a version inserts into an enum, and the mapping data of the version pairs.
-/

namespace Endweave

/-- `count` new ids at `insertAt`, which displace the ids from there on. -/
structure IdShift where
  insertAt : Int
  count : Int
deriving Repr, DecidableEq

namespace IdShift

/-- The upgrade: ids from the insertion point on move up. -/
def shiftUp (s : IdShift) (v : Int) : Int := if v ≥ s.insertAt then v + s.count else v

/-- The downgrade: the inserted ids collapse into one, the ids above them move down. -/
def shiftDown (s : IdShift) (v : Int) : Int :=
  if v ≥ s.insertAt + s.count then v - s.count
  else if v ≥ s.insertAt then s.insertAt
  else v

/-- The lossy downgrade: all ids from the insertion point on become one. -/
def cap (s : IdShift) (v : Int) : Int := if v ≥ s.insertAt then s.insertAt else v

end IdShift

def inserted (count insertAt : Int) : IdShift := { insertAt, count }

/-- The mapping data of one version step. -/
structure MappingData where
  sound : IdShift
  actorDataSoundKey : Int
  actorEvent : Option IdShift := none
  noteInstrument : Option IdShift := none

namespace Mappings

def v860V898 : MappingData where
  sound := inserted 12 LevelSoundEvent.undefinedV860.value
  actorEvent := some (inserted 1 ActorEvent.kineticDamageDealt.value)
  actorDataSoundKey := ActorDataIDs.heartbeatSoundEvent.value

def v898V924 : MappingData where
  sound := inserted 19 LevelSoundEvent.undefinedV898.value
  actorDataSoundKey := ActorDataIDs.heartbeatSoundEvent.value

/-- The `dropped_actor_data_keys` of v898 to v924: the preset, the category and the actor of
AIM_ASSIST_PRIORITY. -/
def v898V924DroppedActorDataKeys : List Int := [136, 137, 138]

def v924V944 : MappingData where
  sound := inserted 2 LevelSoundEvent.undefinedV924.value
  noteInstrument := some (inserted 4 NoteBlockInstrument.trumpet.value)
  actorDataSoundKey := ActorDataIDs.heartbeatSoundEvent.value

def v944V975 : MappingData where
  sound := inserted 2 LevelSoundEvent.undefinedV944.value
  actorDataSoundKey := ActorDataIDs.heartbeatSoundEvent.value

end Mappings

end Endweave
