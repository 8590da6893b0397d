import Endweave.Codec.Equiv.ActorData
import Endweave.Codec.Equiv.Inventory
import Endweave.Rewriter.Sound

/-!
# The packets with actor data

Four packets carry a list of metadata behind fields of their own and go on behind it.  The fields in
front of the list are a structure for each kind of packet; what follows the list is any bytes.
-/

namespace Endweave

/-! ### Fields in front of the metadata -/

structure Attribute where
  name : String
  minValue : UInt32
  currentValue : UInt32
  maxValue : UInt32
deriving Repr, DecidableEq

structure AddActor where
  targetActorId : Int
  targetRuntimeId : Int
  actorType : String
  position : UInt32 × UInt32 × UInt32
  velocity : UInt32 × UInt32 × UInt32
  rotation : UInt32 × UInt32
  yHeadRotation : UInt32
  yBodyRotation : UInt32
  attributes : List Attribute

structure AddItemActor where
  targetActorId : Int
  targetRuntimeId : Int
  item : ItemInstance
  position : UInt32 × UInt32 × UInt32
  velocity : UInt32 × UInt32 × UInt32

structure AddPlayer where
  uuid : MceUUID
  playerName : String
  targetRuntimeId : Int
  platformChatId : String
  position : UInt32 × UInt32 × UInt32
  velocity : UInt32 × UInt32 × UInt32
  rotation : UInt32 × UInt32
  yHeadRotation : UInt32
  carriedItem : ItemInstance
  playerGameType : Int

/-! ### Bytes -/

def Attribute.bytes (a : Attribute) : List UInt8 :=
  string.bytes a.name ++ (floatLE.bytes a.minValue ++
    (floatLE.bytes a.currentValue ++ floatLE.bytes a.maxValue))

def AddActor.bytes (p : AddActor) : List UInt8 :=
  varInt64.bytes p.targetActorId ++ (uvarInt64.bytes p.targetRuntimeId ++
    (string.bytes p.actorType ++ (vec3.bytes p.position ++ (vec3.bytes p.velocity ++
      (vec2.bytes p.rotation ++ (floatLE.bytes p.yHeadRotation ++
        (floatLE.bytes p.yBodyRotation ++ arrayBytes Attribute.bytes p.attributes)))))))

def AddItemActor.bytes (p : AddItemActor) : List UInt8 :=
  varInt64.bytes p.targetActorId ++ (uvarInt64.bytes p.targetRuntimeId ++
    (itemInstance.bytes p.item ++ (vec3.bytes p.position ++ vec3.bytes p.velocity)))

def AddPlayer.bytes (p : AddPlayer) : List UInt8 :=
  Endweave.uuid.bytes p.uuid ++ (string.bytes p.playerName ++ (uvarInt64.bytes p.targetRuntimeId ++
    (string.bytes p.platformChatId ++ (vec3.bytes p.position ++ (vec3.bytes p.velocity ++
      (vec2.bytes p.rotation ++ (floatLE.bytes p.yHeadRotation ++
        (itemInstance.bytes p.carriedItem ++ varInt.bytes p.playerGameType))))))))

/-! ### Canonical fields -/

structure AddActor.Canonical (p : AddActor) : Prop where
  targetActorId : InInt64 p.targetActorId
  targetRuntimeId : InUInt64 p.targetRuntimeId
  actorType : FitsString p.actorType
  attributes : p.attributes.length < 2 ^ 32 ∧ ∀ a ∈ p.attributes, FitsString a.name

structure AddItemActor.Canonical (p : AddItemActor) : Prop where
  targetActorId : InInt64 p.targetActorId
  targetRuntimeId : InUInt64 p.targetRuntimeId
  item : p.item.CanonicalV944

structure AddPlayer.Canonical (p : AddPlayer) : Prop where
  msb : InUInt64 p.uuid.msb
  lsb : InUInt64 p.uuid.lsb
  playerName : FitsString p.playerName
  targetRuntimeId : InUInt64 p.targetRuntimeId
  platformChatId : FitsString p.platformChatId
  carriedItem : p.carriedItem.CanonicalV944
  playerGameType : InInt32 p.playerGameType

/-! ### The kinds -/

inductive ActorPacketKind where
  | setActorData
  | addActor
  | addItemActor
  | addPlayer
deriving Repr, DecidableEq

namespace ActorPacketKind

/-- The fields in front of the metadata; `SetActorData` has the runtime id only. -/
def Fields : ActorPacketKind → Type
  | setActorData => Int
  | addActor => AddActor
  | addItemActor => AddItemActor
  | addPlayer => AddPlayer

def bytes : (k : ActorPacketKind) → k.Fields → List UInt8
  | setActorData => uvarInt64.bytes
  | addActor => AddActor.bytes
  | addItemActor => AddItemActor.bytes
  | addPlayer => AddPlayer.bytes

def Canonical : (k : ActorPacketKind) → k.Fields → Prop
  | setActorData => InUInt64
  | addActor => AddActor.Canonical
  | addItemActor => AddItemActor.Canonical
  | addPlayer => AddPlayer.Canonical

/-- The handler that a sound rewriter registers for a kind of packet. -/
def handler (s : SoundRewriter) : ActorPacketKind → PacketHandler
  | setActorData => s.rewriteSetActorData
  | addActor => s.rewriteAddActor
  | addItemActor => s.rewriteAddItemActor
  | addPlayer => s.rewriteAddPlayer

end ActorPacketKind

/-- A packet with its metadata and whatever follows it. -/
structure ActorPacket (k : ActorPacketKind) where
  fields : k.Fields
  metadata : List ActorDataItem
  trailing : List UInt8

def ActorPacket.bytes {k : ActorPacketKind} (p : ActorPacket k) : List UInt8 :=
  k.bytes p.fields ++ (actorDataList.bytes p.metadata ++ p.trailing)

structure ActorPacket.Canonical {k : ActorPacketKind} (p : ActorPacket k) : Prop where
  fields : k.Canonical p.fields
  length : p.metadata.length < 2 ^ 32
  metadata : ∀ item ∈ p.metadata, item.Canonical

end Endweave
