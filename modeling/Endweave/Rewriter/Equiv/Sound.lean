import Endweave.Codec.Equiv.Wrapper
import Endweave.Protocol.Packets.ActorData

/-!
# Correctness of `SoundRewriter`

`rewriteActorPacket_metadata`: on each of the four packets with actor data, whatever the remap
functions and the dropped keys are, only the metadata changes.  Its entries with a dropped key are
gone, and the others are related to what is written one by one (`Remapped`).
-/

namespace Endweave

open Wire PacketWrapper

namespace SoundRewriter

variable (s : SoundRewriter)

/-! ### What becomes of the metadata -/

/-- The types whose values are remapped. -/
def IsRemappable : ActorDataValue → Prop
  | .int _ => True
  | .int64 _ => True
  | _ => False

/-- An entry on the wire and what is written for it. -/
inductive Remapped : ActorDataItem → ActorDataItem → Prop
  | int {key value : Int} {remap : Int → Int} (h : s.intRemappers.get? key = some remap) :
      Remapped ⟨key, .int value⟩ ⟨key, .int (remap value)⟩
  | int64 {key value : Int} {remap : Int → Int} (h : s.intRemappers.get? key = some remap) :
      Remapped ⟨key, .int64 value⟩ ⟨key, .int64 (remap value)⟩
  | same {item : ActorDataItem}
      (h : s.intRemappers.get? item.key = none ∨ ¬ IsRemappable item.value) : Remapped item item

/-- The entries that are not dropped, in order. -/
def kept (metadata : List ActorDataItem) : List ActorDataItem :=
  metadata.filter fun item => item.key ∉ s.droppedKeys

/-- The remap functions stay in the range of the types they are called for. -/
structure InRange (metadata : List ActorDataItem) : Prop where
  int : ∀ key value remap, ⟨key, .int value⟩ ∈ s.kept metadata →
    s.intRemappers.get? key = some remap → InInt32 (remap value)
  int64 : ∀ key value remap, ⟨key, .int64 value⟩ ∈ s.kept metadata →
    s.intRemappers.get? key = some remap → InInt64 (remap value)

theorem remapped_remapItem (item : ActorDataItem) : s.Remapped item (s.remapItem item) := by
  obtain ⟨key, value⟩ := item
  unfold remapItem
  -- without a remapper the type does not matter
  cases hget : s.intRemappers.get? key with
  | none => exact .same (.inl hget)
  | some remap =>
    cases value with
    | int value => exact .int hget
    | int64 value => exact .int64 hget
    | byte value => exact .same (.inr id)
    | short value => exact .same (.inr id)
    | float value => exact .same (.inr id)
    | string value => exact .same (.inr id)
    | compoundTag value => exact .same (.inr id)
    | pos value => exact .same (.inr id)
    | vec3 value => exact .same (.inr id)

theorem mem_of_mem_kept {metadata : List ActorDataItem} {item : ActorDataItem}
    (h : item ∈ s.kept metadata) : item ∈ metadata := (List.mem_filter.mp h).1

theorem forall₂_remapItem (metadata : List ActorDataItem) :
    List.Forall₂ s.Remapped metadata (metadata.map s.remapItem) := by
  induction metadata with
  | nil => exact .nil
  | cons item metadata ih => exact .cons (s.remapped_remapItem item) ih

/-! ### The handlers -/

section Metadata

variable {s} {metadata : List ActorDataItem} (hlen : metadata.length < 2 ^ 32)
  (h : ∀ item ∈ metadata, item.Canonical) (hrange : s.InRange metadata)

include h hrange

theorem Remapped.canonical {item item' : ActorDataItem} (hremapped : s.Remapped item item')
    (hitem : item ∈ s.kept metadata) : item'.Canonical := by
  have hcanonical := h item (s.mem_of_mem_kept hitem)
  cases hremapped with
  | int hget => exact ⟨hcanonical.key, hrange.int _ _ _ hitem hget⟩
  | int64 hget => exact ⟨hcanonical.key, hrange.int64 _ _ _ hitem hget⟩
  | same => exact hcanonical

include hlen

/-- The list is read, filtered, remapped and written with its new count. -/
theorem remapActorData_rewrites : Rewrites s.remapActorData (actorDataList.bytes metadata)
    (actorDataList.bytes ((s.kept metadata).map s.remapItem)) () := by
  have hkept : (metadata.filter fun e => !s.droppedKeys.contains e.key) = s.kept metadata := by
    unfold kept
    congr 1
    funext item
    simp
  -- no more entries are written than were read
  have hlen' : ((s.kept metadata).map s.remapItem).length < 2 ^ 32 := by
    rw [List.length_map]
    exact lt_of_le_of_lt (List.length_filter_le _ metadata) hlen
  have hcanonical : ∀ item ∈ (s.kept metadata).map s.remapItem, item.Canonical := by
    intro item' hitem'
    obtain ⟨item, hitem, rfl⟩ := List.mem_map.mp hitem'
    exact Remapped.canonical h hrange (s.remapped_remapItem item) hitem
  have hwrite : Rewrites (PacketWrapper.write actorDataList
      ((metadata.filter fun e => !s.droppedKeys.contains e.key).map s.remapItem)) []
      (actorDataList.bytes ((s.kept metadata).map s.remapItem)) () := by
    rw [hkept]
    exact write_rewrites (actorDataList_roundTrips hlen' hcanonical).writes
  rw [← List.append_nil (actorDataList.bytes metadata)]
  exact Rewrites.read (actorDataList_roundTrips hlen h) hwrite

/-- The metadata, then everything behind it. -/
theorem remapActorData_translates (trailing : List UInt8) :
    Translates (s.remapActorData >>= fun _ => passthroughAll >>= fun _ => Pure.pure ())
      (actorDataList.bytes metadata ++ trailing)
      (actorDataList.bytes ((s.kept metadata).map s.remapItem) ++ trailing) :=
  (remapActorData_rewrites hlen h hrange).bind_translates (passthroughAll_translates trailing)

end Metadata

theorem passthroughAttribute_rewrites {a : Attribute} (h : FitsString a.name) :
    Rewrites passthroughAttribute a.bytes a.bytes () := by
  apply Rewrites.passthrough (string_roundTrips h)
  apply Rewrites.passthrough (floatLE_roundTrips a.minValue)
  apply Rewrites.passthrough (floatLE_roundTrips a.currentValue)
  exact (passthrough_rewrites (floatLE_roundTrips a.maxValue)).last rfl

/-- The part of a handler in front of the metadata. -/
def passFields : ActorPacketKind → PacketHandler
  | .setActorData => do
    let _ ← passthrough uvarInt64
  | .addActor => do
    let _ ← passthrough varInt64
    let _ ← passthrough uvarInt64
    let _ ← passthrough string
    let _ ← passthrough vec3
    let _ ← passthrough vec3
    let _ ← passthrough vec2
    let _ ← passthrough floatLE
    let _ ← passthrough floatLE
    passthroughLoop passthroughAttribute
  | .addItemActor => do
    let _ ← passthrough varInt64
    let _ ← passthrough uvarInt64
    let _ ← passthrough itemInstance
    let _ ← passthrough vec3
    let _ ← passthrough vec3
  | .addPlayer => do
    let _ ← passthrough uuid
    let _ ← passthrough string
    let _ ← passthrough uvarInt64
    let _ ← passthrough string
    let _ ← passthrough vec3
    let _ ← passthrough vec3
    let _ ← passthrough vec2
    let _ ← passthrough floatLE
    let _ ← passthrough itemInstance
    let _ ← passthrough varInt

/-- The fields, the metadata, then everything behind it. -/
theorem handler_eq (k : ActorPacketKind) : k.handler s = (passFields k >>= fun _ =>
    s.remapActorData >>= fun _ => passthroughAll >>= fun _ => Pure.pure ()) := by
  cases k <;> simp only [ActorPacketKind.handler, passFields, rewriteSetActorData, rewriteAddActor,
    rewriteAddItemActor, rewriteAddPlayer, bind_assoc, pure_bind]

/-- The fields in front of the metadata are passed through. -/
theorem passFields_rewrites {k : ActorPacketKind} {fields : k.Fields} (h : k.Canonical fields) :
    Rewrites (passFields k) (k.bytes fields) (k.bytes fields) () := by
  cases k with
  | setActorData => exact (passthrough_rewrites (uvarInt64_roundTrips h)).last rfl
  | addActor =>
    have hfields : AddActor.Canonical fields := h
    simp only [ActorPacketKind.bytes, AddActor.bytes]
    apply Rewrites.passthrough (varInt64_roundTrips hfields.targetActorId)
    apply Rewrites.passthrough (uvarInt64_roundTrips hfields.targetRuntimeId)
    apply Rewrites.passthrough (string_roundTrips hfields.actorType)
    apply Rewrites.passthrough (vec3_roundTrips _)
    apply Rewrites.passthrough (vec3_roundTrips _)
    apply Rewrites.passthrough (vec2_roundTrips _)
    apply Rewrites.passthrough (floatLE_roundTrips _)
    apply Rewrites.passthrough (floatLE_roundTrips _)
    exact passthroughLoop_rewrites hfields.attributes.1 fun a ha =>
      passthroughAttribute_rewrites (hfields.attributes.2 a ha)
  | addItemActor =>
    have hfields : AddItemActor.Canonical fields := h
    simp only [ActorPacketKind.bytes, AddItemActor.bytes]
    apply Rewrites.passthrough (varInt64_roundTrips hfields.targetActorId)
    apply Rewrites.passthrough (uvarInt64_roundTrips hfields.targetRuntimeId)
    apply Rewrites.passthrough (itemInstanceV944_roundTrips hfields.item)
    apply Rewrites.passthrough (vec3_roundTrips _)
    exact (passthrough_rewrites (vec3_roundTrips _)).last rfl
  | addPlayer =>
    have hfields : AddPlayer.Canonical fields := h
    simp only [ActorPacketKind.bytes, AddPlayer.bytes]
    apply Rewrites.passthrough (uuid_roundTrips hfields.msb hfields.lsb)
    apply Rewrites.passthrough (string_roundTrips hfields.playerName)
    apply Rewrites.passthrough (uvarInt64_roundTrips hfields.targetRuntimeId)
    apply Rewrites.passthrough (string_roundTrips hfields.platformChatId)
    apply Rewrites.passthrough (vec3_roundTrips _)
    apply Rewrites.passthrough (vec3_roundTrips _)
    apply Rewrites.passthrough (vec2_roundTrips _)
    apply Rewrites.passthrough (floatLE_roundTrips _)
    apply Rewrites.passthrough (itemInstanceV944_roundTrips hfields.carriedItem)
    exact (passthrough_rewrites (varInt_roundTrips hfields.playerGameType)).last rfl

section Kinds

variable {s}

theorem handler_translates {k : ActorPacketKind} {fields : k.Fields} {inp out : List UInt8}
    (hk : Translates (s.remapActorData >>= fun _ => passthroughAll >>= fun _ => Pure.pure ()) inp
      out) (h : k.Canonical fields) :
    Translates (k.handler s) (k.bytes fields ++ inp) (k.bytes fields ++ out) := by
  rw [handler_eq]
  exact (passFields_rewrites h).bind_translates hk

/-- The whole packet, whose metadata are kept and remapped. -/
theorem handler_delivers {k : ActorPacketKind} {p : ActorPacket k} (h : p.Canonical)
    (hrange : s.InRange p.metadata) :
    Delivers (k.handler s) p.bytes
      (ActorPacket.bytes { p with metadata := (s.kept p.metadata).map s.remapItem }) := by
  rw [handler_eq]
  exact (passFields_rewrites h.fields).bind_delivers
    ((remapActorData_rewrites h.length h.metadata hrange).bind_delivers
      (passthroughAll_delivers p.trailing))

end Kinds

/-- **Only the metadata changes**: for any remap functions and any dropped keys, while the remapped
values stay in the range of their types, the handler returns the same packet with another list of
metadata; the entries with a dropped key are gone, integers under a remapped key are remapped, and
all other entries are the same, in the same order. -/
theorem rewriteActorPacket_metadata {k : ActorPacketKind} {p : ActorPacket k} (h : p.Canonical)
    (hrange : s.InRange p.metadata) (user : UserConnection) :
    ∃ metadata, List.Forall₂ s.Remapped (s.kept p.metadata) metadata ∧
      (k.handler s).apply p.bytes user =
        .ok (ActorPacket.bytes { p with metadata := metadata }) := by
  refine ⟨(s.kept p.metadata).map s.remapItem, s.forall₂_remapItem _, ?_⟩
  have hmetadata := remapActorData_translates h.length h.metadata hrange p.trailing
  exact (handler_translates hmetadata h.fields).apply user

/-- The heartbeat sound goes up by two, and the entries under key 5 are dropped. -/
def sampleRewriter : SoundRewriter where
  soundRemap v := v + 2
  intRemappers := [(126, fun v => v + 2)]
  droppedKeys := [5]

def sampleActor : ActorPacket .setActorData where
  fields := (1 : Int)
  metadata := [⟨5, .byte 1⟩, ⟨126, .int 597⟩, ⟨126, .string "597"⟩, ⟨7, .compoundTag (some [])⟩]
  trailing := [0xDD]

theorem sampleActor_canonical : sampleActor.Canonical := by
  refine ⟨(by decide : InUInt64 1), by decide, fun item hitem => ?_⟩
  have hnbt : CanonicalNbt (some []) := ⟨List.nodup_nil, nofun⟩
  simp only [sampleActor, List.mem_cons, List.not_mem_nil, or_false] at hitem
  rcases hitem with rfl | rfl | rfl | rfl
  · exact ⟨by decide, (by decide : InByte 1)⟩
  · exact ⟨by decide, (by decide : InInt32 597)⟩
  · exact ⟨by decide, (by decide : FitsString "597")⟩
  · exact ⟨by decide, hnbt⟩

theorem sampleRewriter_inRange : sampleRewriter.InRange sampleActor.metadata := by
  have hkept : sampleRewriter.kept sampleActor.metadata =
    [⟨126, .int 597⟩, ⟨126, .string "597"⟩, ⟨7, .compoundTag (some [])⟩] := rfl
  constructor <;> intro key value remap hmem hget
  · rw [hkept] at hmem
    simp only [List.mem_cons, ActorDataItem.mk.injEq, ActorDataValue.int.injEq, reduceCtorEq,
      and_false, List.not_mem_nil, or_false] at hmem
    obtain ⟨rfl, rfl⟩ := hmem
    obtain rfl := Option.some.inj hget
    decide
  · rw [hkept] at hmem
    simp at hmem

theorem rewriteActorPacket_metadata_sample :
    ∃ metadata, List.Forall₂ sampleRewriter.Remapped (sampleRewriter.kept sampleActor.metadata)
        metadata ∧
      (ActorPacketKind.handler sampleRewriter .setActorData).apply sampleActor.bytes
        { address := "a" } = .ok (ActorPacket.bytes { sampleActor with metadata := metadata }) :=
  rewriteActorPacket_metadata sampleRewriter sampleActor_canonical sampleRewriter_inRange _

end SoundRewriter

end Endweave
