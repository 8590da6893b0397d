import Endweave.Codec.Equiv.Converts
import Endweave.Protocol.Equiv.Steps
import Endweave.Protocol.Packets.BlockPos

/-!
# Correctness of the block position handlers

`BlockPosPacket.blockPos_survives`: on every clientbound packet with block positions the step from
v924 to v944 succeeds, keeps the signed coordinates, and is undone by the step from v944 to v924.

A handler and the two grammars it stands between are walked through once, for any two codecs of
positions; the two directions are the two ways to choose them.
-/

namespace Endweave

open Wire PacketWrapper

/-- A codec that is exact on positions of 32-bit coordinates. -/
def ExactPositions (T : BlockPosType) : Prop :=
  ∀ v : BlockPosition, BlockPosition.Canonical v → T.RoundTrips v

theorem networkBlockPos_exact : ExactPositions networkBlockPos :=
  fun _ h => networkBlockPos_roundTrips h.1 h.2.1 h.2.2

theorem blockPos_exact : ExactPositions blockPos :=
  fun _ h => blockPos_roundTrips h.1 h.2.1 h.2.2

/-! ### Grammars -/

theorem objType_inInt32 {object : MapTrackedObject} (h : object.Canonical) :
    InInt32 object.objType := by
  cases object with
  | entity uniqueId => exact (by decide : InInt32 0)
  | blockEntity position => exact (by decide : InInt32 1)
  | other objType notEntity notBlock => exact h

section RoundTrips

variable {T : BlockPosType} (hT : ExactPositions T)

include hT

theorem lecternUpdate_roundTrips {p : LecternUpdate} (h : p.Canonical) :
    (lecternUpdateType T).RoundTrips p := by
  apply Codes.bind (byte_roundTrips h.page)
  apply Codes.bind (byte_roundTrips h.totalPages)
  exact Codes.last (hT _ h.position) rfl

theorem tileEvent_roundTrips {p : TileEvent} (hposition : BlockPosition.Canonical p.position)
    (htype : InInt32 p.eventType) (hdata : InInt32 p.eventData) :
    (tileEventType T).RoundTrips p := by
  apply Codes.bind (hT _ hposition)
  apply Codes.bind (varInt_roundTrips htype)
  exact Codes.last (varInt_roundTrips hdata) rfl

theorem setSpawnPosition_roundTrips {p : SetSpawnPosition} (h : p.Canonical) :
    (setSpawnPositionType T).RoundTrips p := by
  apply Codes.bind (uvarInt_roundTrips h.spawnType)
  apply Codes.bind (hT _ h.position)
  apply Codes.bind (varInt_roundTrips h.dimension)
  exact Codes.last (hT _ h.spawnBlock) rfl

theorem addVolumeEntity_roundTrips {p : AddVolumeEntity} (h : p.Canonical) :
    (addVolumeEntityType T).RoundTrips p := by
  apply Codes.bind (uvarInt_roundTrips h.entityNetId)
  apply Codes.bind (compoundTag_roundTrips h.components)
  apply Codes.bind (string_roundTrips h.jsonIdentifier)
  apply Codes.bind (string_roundTrips h.instanceName)
  apply Codes.bind (hT _ h.minBounds)
  exact Codes.last (hT _ h.maxBounds) rfl

theorem changedBlock_roundTrips {b : ChangedBlock} (h : b.Canonical) :
    (changedBlockType T).RoundTrips b := by
  apply Codes.bind (hT _ h.position)
  apply Codes.bind (uvarInt_roundTrips h.runtimeId)
  apply Codes.bind (uvarInt_roundTrips h.updateFlags)
  apply Codes.bind (uvarInt64_roundTrips h.syncEntityId)
  exact Codes.last (uvarInt_roundTrips h.syncMessage) rfl

theorem changedBlocks_roundTrips {bs : List ChangedBlock}
    (h : bs.length < 2 ^ 32 ∧ ∀ b ∈ bs, b.Canonical) :
    (arrayType (changedBlockType T)).RoundTrips bs :=
  arrayType_roundTrips h.1 fun b hb => changedBlock_roundTrips hT (h.2 b hb)

theorem updateSubChunkBlocks_roundTrips {p : UpdateSubChunkBlocks} (h : p.Canonical) :
    (updateSubChunkBlocksType T).RoundTrips p := by
  apply Codes.bind (hT _ h.position)
  apply Codes.bind (changedBlocks_roundTrips hT h.standards)
  exact Codes.last (changedBlocks_roundTrips hT h.extras) rfl

theorem playSound_roundTrips {p : PlaySound} (h : p.Canonical) :
    (playSoundType T).RoundTrips p := by
  apply Codes.bind (string_roundTrips h.name)
  exact Codes.last (hT _ h.position) rfl

theorem trackedObject_codes {object : MapTrackedObject} (h : object.Canonical) :
    Codes (writeTrackedObject T object) (readTrackedObject T object.objType) object := by
  cases object with
  | entity uniqueId => exact Codes.map (varInt64_roundTrips h) MapTrackedObject.entity
  | blockEntity position => exact Codes.map (hT position h) MapTrackedObject.blockEntity
  | other objType notEntity notBlock =>
    rw [readTrackedObject, dif_pos (by exact notEntity), dif_pos (by exact notBlock)]
    exact Codes.pure _

theorem mapTrackedObject_roundTrips {object : MapTrackedObject} (h : object.Canonical) :
    (mapTrackedObjectType T).RoundTrips object :=
  Codes.bind (intLE_roundTrips (objType_inInt32 h)) (trackedObject_codes hT h)

theorem mapData_roundTrips {p : ClientboundMapItemData} (h : p.Canonical) :
    (mapDataType T).RoundTrips p := by
  have hmapIds := arrayType_roundTrips h.mapIds.1 fun id hid =>
    varInt64_roundTrips (h.mapIds.2 id hid)
  have hobjects := arrayType_roundTrips h.objects.1 fun object hobject =>
    mapTrackedObject_roundTrips hT (h.objects.2 object hobject)
  apply Codes.bind (varInt64_roundTrips h.mapId)
  apply Codes.bind (uvarInt_roundTrips h.types)
  apply Codes.bind (byte_roundTrips h.dimension)
  apply Codes.bind (bool_roundTrips p.isLocked)
  apply Codes.bind (blockPos_exact _ h.origin)
  apply Codes.bind (fieldIf_roundTrips hmapIds h.noMapIds)
  apply Codes.bind (fieldIf_roundTrips (byte_roundTrips h.scale) h.noScale)
  exact Codes.last (fieldIf_roundTrips hobjects h.noObjects) rfl

theorem containerOpen_roundTrips {p : ContainerOpen} (h : p.Canonical) :
    (containerOpenType T).RoundTrips p := by
  apply Codes.bind (byte_roundTrips h.containerId)
  apply Codes.bind (byte_roundTrips h.containerType)
  exact Codes.last (hT _ h.position) rfl

end RoundTrips

/-! ### Handlers -/

section Converts

variable {old new : BlockPosType} (hold : ExactPositions old) (hnew : ExactPositions new)

include hold hnew

theorem position_converts {v : BlockPosition} (h : BlockPosition.Canonical v) :
    Converts (map old new) (old.write v) (new.write v) v :=
  converts_map (hold v h) (hnew v h)

theorem mapFirst_converts {v : BlockPosition} (h : BlockPosition.Canonical v) :
    Converts (mapFirst old new) (old.write v) (new.write v) () :=
  (position_converts hold hnew h).last rfl

theorem mapLecternUpdate_converts {p : LecternUpdate} (h : p.Canonical) :
    Converts (mapLecternUpdate old new) ((lecternUpdateType old).write p)
      ((lecternUpdateType new).write p) () := by
  apply Converts.passthrough (byte_roundTrips h.page)
  apply Converts.passthrough (byte_roundTrips h.totalPages)
  exact (position_converts hold hnew h.position).last rfl

/-- The event value of a note block is replaced by `remap`. -/
theorem mapTileEvent_converts {remap : Int → Int} {p : TileEvent} {eventData : Int}
    (hposition : BlockPosition.Canonical p.position) (htype : InInt32 p.eventType)
    (hdata : InInt32 p.eventData)
    (hremap : (if p.eventType = noteBlockEvent then remap p.eventData else p.eventData) = eventData)
    (heventData : InInt32 eventData) :
    Converts (mapTileEvent old new remap) ((tileEventType old).write p)
      ((tileEventType new).write { p with eventData := eventData }) () := by
  apply (position_converts hold hnew hposition).bind
  apply Converts.passthrough (varInt_roundTrips htype)
  -- the event value is the last field: nothing is written behind it
  rw [← bind_pure_unit (x := varInt.write p.eventData)]
  apply Converts.read (varInt_roundTrips hdata)
  rw [hremap]
  exact converts_write (varInt_roundTrips heventData)

theorem mapSetSpawnPosition_converts {p : SetSpawnPosition} (h : p.Canonical) :
    Converts (mapSetSpawnPosition old new) ((setSpawnPositionType old).write p)
      ((setSpawnPositionType new).write p) () := by
  apply Converts.passthrough (uvarInt_roundTrips h.spawnType)
  apply (position_converts hold hnew h.position).bind
  apply Converts.passthrough (varInt_roundTrips h.dimension)
  exact (position_converts hold hnew h.spawnBlock).last rfl

theorem mapAddVolumeEntity_converts {p : AddVolumeEntity} (h : p.Canonical) :
    Converts (mapAddVolumeEntity old new) ((addVolumeEntityType old).write p)
      ((addVolumeEntityType new).write p) () := by
  apply Converts.passthrough (uvarInt_roundTrips h.entityNetId)
  apply Converts.passthrough (compoundTag_roundTrips h.components)
  apply Converts.passthrough (string_roundTrips h.jsonIdentifier)
  apply Converts.passthrough (string_roundTrips h.instanceName)
  apply (position_converts hold hnew h.minBounds).bind
  exact (position_converts hold hnew h.maxBounds).last rfl

theorem mapChangedBlock_converts {b : ChangedBlock} (h : b.Canonical) :
    Converts (mapChangedBlock old new) ((changedBlockType old).write b)
      ((changedBlockType new).write b) () := by
  apply (position_converts hold hnew h.position).bind
  apply Converts.passthrough (uvarInt_roundTrips h.runtimeId)
  apply Converts.passthrough (uvarInt_roundTrips h.updateFlags)
  apply Converts.passthrough (uvarInt64_roundTrips h.syncEntityId)
  exact (converts_passthrough (uvarInt_roundTrips h.syncMessage)).last rfl

theorem mapChangedBlocks_converts {bs : List ChangedBlock}
    (h : bs.length < 2 ^ 32 ∧ ∀ b ∈ bs, b.Canonical) :
    Converts (passthroughLoop (mapChangedBlock old new))
      ((arrayType (changedBlockType old)).write bs) ((arrayType (changedBlockType new)).write bs)
      () :=
  converts_passthroughLoop_same h.1 fun b hb => mapChangedBlock_converts hold hnew (h.2 b hb)

theorem mapUpdateSubChunkBlocks_converts {p : UpdateSubChunkBlocks} (h : p.Canonical) :
    Converts (mapUpdateSubChunkBlocks old new) ((updateSubChunkBlocksType old).write p)
      ((updateSubChunkBlocksType new).write p) () := by
  apply (position_converts hold hnew h.position).bind
  apply (mapChangedBlocks_converts hold hnew h.standards).bind
  exact mapChangedBlocks_converts hold hnew h.extras

theorem mapPlaySound_converts {p : PlaySound} (h : p.Canonical) :
    Converts (mapPlaySound old new) ((playSoundType old).write p) ((playSoundType new).write p)
      () := by
  apply Converts.passthrough (string_roundTrips h.name)
  exact (position_converts hold hnew h.position).last rfl

theorem mapTrackedObject_converts {object : MapTrackedObject} (h : object.Canonical) :
    Converts (mapTrackedObject old new) ((mapTrackedObjectType old).write object)
      ((mapTrackedObjectType new).write object) () := by
  apply Converts.passthrough (intLE_roundTrips (objType_inInt32 h))
  cases object with
  | entity uniqueId => exact (converts_passthrough (varInt64_roundTrips h)).last rfl
  | blockEntity position => exact (position_converts hold hnew h).last rfl
  | other objType notEntity notBlock =>
    rw [if_neg (by exact notEntity), if_neg (by exact notBlock)]
    exact Converts.pure ()

theorem mapTrackedObjects_converts {condition : Bool} {objects : List MapTrackedObject}
    (h : objects.length < 2 ^ 32 ∧ ∀ object ∈ objects, object.Canonical) :
    Converts (mapTrackedObjects old new condition)
      ((fieldIf condition (arrayType (mapTrackedObjectType old)) []).write objects)
      ((fieldIf condition (arrayType (mapTrackedObjectType new)) []).write objects) () := by
  cases condition with
  | false => exact Converts.pure ()
  | true =>
    exact converts_passthroughLoop_same h.1 fun object hobject =>
      mapTrackedObject_converts hold hnew (h.2 object hobject)

theorem mapMapData_converts {p : ClientboundMapItemData} (h : p.Canonical) :
    Converts (mapMapData old new) ((mapDataType old).write p) ((mapDataType new).write p) () := by
  apply Converts.passthrough (varInt64_roundTrips h.mapId)
  apply Converts.passthrough (uvarInt_roundTrips h.types)
  apply Converts.passthrough (byte_roundTrips h.dimension)
  apply Converts.passthrough (bool_roundTrips p.isLocked)
  apply Converts.passthrough (blockPos_exact _ h.origin)
  refine (passthroughIf_converts (arrayType_roundTrips h.mapIds.1 fun id hid =>
    varInt64_roundTrips (h.mapIds.2 id hid))).bind ?_
  apply (passthroughIf_converts (byte_roundTrips h.scale)).bind
  exact mapTrackedObjects_converts hold hnew h.objects

theorem mapContainerOpen_converts {p : ContainerOpen} (h : p.Canonical) :
    Converts (mapContainerOpen old new) ((containerOpenType old).write p)
      ((containerOpenType new).write p) () := by
  apply Converts.passthrough (byte_roundTrips h.containerId)
  apply Converts.passthrough (byte_roundTrips h.containerType)
  exact (position_converts hold hnew h.position).last rfl

end Converts

/-! ### Note blocks -/

/-- The downgrade gives an instrument its old number back. -/
theorem downgradeInstrument_upgradeInstrument (v : Int) :
    V944ToV924.downgradeInstrument (V924ToV944.upgradeInstrument v) = v := by
  have hup : V924ToV944.trumpetShift = 4 := rfl
  have hdown : V944ToV924.trumpetShift = 4 := rfl
  rw [V944ToV924.downgradeInstrument, V924ToV944.upgradeInstrument, NoteBlockInstrument.value, hup,
    hdown]
  split_ifs <;> omega

theorem TileEvent.downgrade_upgrade (p : TileEvent) :
    (if p.upgrade.eventType = noteBlockEvent then
      V944ToV924.downgradeInstrument p.upgrade.eventData else p.upgrade.eventData) =
      p.eventData := by
  unfold TileEvent.upgrade
  dsimp only
  -- the type of the event does not change, so that both steps take the same branch
  split_ifs
  · exact downgradeInstrument_upgradeInstrument _
  · rfl

theorem TileEvent.Canonical.upgrade {p : TileEvent} (h : p.Canonical) :
    InInt32 p.upgrade.eventData := by
  have hshift : V924ToV944.trumpetShift = 4 := rfl
  have hroom := h.room
  obtain ⟨hlo, hhi⟩ := h.eventData
  rw [TileEvent.upgrade, V924ToV944.upgradeInstrument, hshift]
  dsimp only
  split_ifs
  · exact ⟨by omega, by omega⟩
  · exact ⟨hlo, hhi⟩
  · exact ⟨hlo, hhi⟩

/-! ### Both directions -/

namespace BlockPosPacket

/-- The handler that v924 to v944 runs on a packet for the client. -/
def upgradeHandler : BlockPosPacket → PacketHandler
  | updateBlock | updateBlockSynced | blockActorData | openSign =>
    V924ToV944.rewriteFirstNetBlockToBlock
  | setSpawnPosition => V924ToV944.rewriteSetSpawnPosition
  | addVolumeEntity => V924ToV944.rewriteAddVolumeEntity
  | updateSubChunkBlocks => V924ToV944.rewriteUpdateSubChunkBlocks
  | playSound => V924ToV944.rewritePlaySound
  | mapData => V924ToV944.rewriteMapData
  | containerOpen => V924ToV944.rewriteContainerOpen
  | lecternUpdate => V924ToV944.rewriteLecternUpdate .clientbound
  | tileEvent => V924ToV944.rewriteTileEvent

/-- The handler that v944 to v924 runs on it. -/
def downgradeHandler : BlockPosPacket → PacketHandler
  | updateBlock | updateBlockSynced | blockActorData | openSign =>
    V944ToV924.rewriteFirstBlockToNet
  | setSpawnPosition => V944ToV924.rewriteSetSpawnPosition
  | addVolumeEntity => V944ToV924.rewriteAddVolumeEntity
  | updateSubChunkBlocks => V944ToV924.rewriteUpdateSubChunkBlocks
  | playSound => V944ToV924.rewritePlaySound
  | mapData => V944ToV924.rewriteMapData
  | containerOpen => V944ToV924.rewriteContainerOpen
  | lecternUpdate => V944ToV924.rewriteLecternUpdate .clientbound
  | tileEvent => V944ToV924.rewriteTileEvent

theorem transform_upgrade (k : BlockPosPacket) (other : OtherHandlers) :
    (V924ToV944.createProtocol other).transform .clientbound k.packetId = k.upgradeHandler := by
  cases k <;> simp +decide [Protocol.transform, V924ToV944.createProtocol, packetId, upgradeHandler]

theorem transform_downgrade (k : BlockPosPacket) (other : OtherHandlers) :
    (V944ToV924.createProtocol other).transform .clientbound k.packetId = k.downgradeHandler := by
  cases k <;>
    simp +decide [Protocol.transform, V944ToV924.createProtocol, packetId, downgradeHandler]

/-- Both handlers at once: the body of a packet, for two codecs of positions and what happens to
the event value of a note block. -/
def mapHandler (old new : BlockPosType) (remap : Int → Int) : BlockPosPacket → PacketHandler
  | updateBlock | updateBlockSynced | blockActorData | openSign => mapFirst old new
  | setSpawnPosition => mapSetSpawnPosition old new
  | addVolumeEntity => mapAddVolumeEntity old new
  | updateSubChunkBlocks => mapUpdateSubChunkBlocks old new
  | playSound => mapPlaySound old new
  | mapData => mapMapData old new
  | containerOpen => mapContainerOpen old new
  | lecternUpdate => mapLecternUpdate old new
  | tileEvent => mapTileEvent old new remap

theorem upgradeHandler_eq (k : BlockPosPacket) :
    k.upgradeHandler = k.mapHandler networkBlockPos blockPos V924ToV944.upgradeInstrument := by
  cases k <;> rfl

theorem downgradeHandler_eq (k : BlockPosPacket) :
    k.downgradeHandler = k.mapHandler blockPos networkBlockPos V944ToV924.downgradeInstrument := by
  cases k <;> rfl

/-- Only the event value of a note block is anything but copied. -/
theorem mapHandler_converts {old new : BlockPosType} (hold : ExactPositions old)
    (hnew : ExactPositions new) (remap : Int → Int) {k : BlockPosPacket} (hk : k ≠ tileEvent)
    {d : k.Data} (h : k.Canonical d) :
    Converts (k.mapHandler old new remap) ((k.type old).write d) ((k.type new).write d) () := by
  cases k with
  | updateBlock => exact mapFirst_converts hold hnew h
  | updateBlockSynced => exact mapFirst_converts hold hnew h
  | blockActorData => exact mapFirst_converts hold hnew h
  | openSign => exact mapFirst_converts hold hnew h
  | setSpawnPosition => exact mapSetSpawnPosition_converts hold hnew h
  | addVolumeEntity => exact mapAddVolumeEntity_converts hold hnew h
  | updateSubChunkBlocks => exact mapUpdateSubChunkBlocks_converts hold hnew h
  | playSound => exact mapPlaySound_converts hold hnew h
  | mapData => exact mapMapData_converts hold hnew h
  | containerOpen => exact mapContainerOpen_converts hold hnew h
  | lecternUpdate => exact mapLecternUpdate_converts hold hnew h
  | tileEvent => exact absurd rfl hk

theorem upgrade_of_ne {k : BlockPosPacket} (hk : k ≠ tileEvent) (d : k.Data) : k.upgrade d = d := by
  cases k with
  | tileEvent => exact absurd rfl hk
  | _ => rfl

theorem upgradeHandler_converts (k : BlockPosPacket) {d : k.Data} (h : k.Canonical d) :
    Converts k.upgradeHandler ((k.type networkBlockPos).write d)
      ((k.type blockPos).write (k.upgrade d)) () := by
  by_cases hk : k = tileEvent
  · subst hk
    exact mapTileEvent_converts networkBlockPos_exact blockPos_exact
      (TileEvent.Canonical.position h) (TileEvent.Canonical.eventType h)
      (TileEvent.Canonical.eventData h) rfl (TileEvent.Canonical.upgrade h)
  · rw [upgradeHandler_eq, upgrade_of_ne hk]
    exact mapHandler_converts networkBlockPos_exact blockPos_exact _ hk h

theorem downgradeHandler_converts (k : BlockPosPacket) {d : k.Data} (h : k.Canonical d) :
    Converts k.downgradeHandler ((k.type blockPos).write (k.upgrade d))
      ((k.type networkBlockPos).write d) () := by
  by_cases hk : k = tileEvent
  · subst hk
    exact mapTileEvent_converts (p := TileEvent.upgrade d) blockPos_exact networkBlockPos_exact
      (TileEvent.Canonical.position (p := d) h) (TileEvent.Canonical.eventType (p := d) h)
      (TileEvent.Canonical.upgrade h) (TileEvent.downgrade_upgrade d)
      (TileEvent.Canonical.eventData (p := d) h)
  · rw [downgradeHandler_eq, upgrade_of_ne hk]
    exact mapHandler_converts blockPos_exact networkBlockPos_exact _ hk h

theorem type_roundTrips_upgrade (k : BlockPosPacket) {d : k.Data} (h : k.Canonical d) :
    (k.type blockPos).RoundTrips (k.upgrade d) := by
  cases k with
  | updateBlock => exact blockPos_exact _ h
  | updateBlockSynced => exact blockPos_exact _ h
  | blockActorData => exact blockPos_exact _ h
  | openSign => exact blockPos_exact _ h
  | setSpawnPosition => exact setSpawnPosition_roundTrips blockPos_exact h
  | addVolumeEntity => exact addVolumeEntity_roundTrips blockPos_exact h
  | updateSubChunkBlocks => exact updateSubChunkBlocks_roundTrips blockPos_exact h
  | playSound => exact playSound_roundTrips blockPos_exact h
  | mapData => exact mapData_roundTrips blockPos_exact h
  | containerOpen => exact containerOpen_roundTrips blockPos_exact h
  | lecternUpdate => exact lecternUpdate_roundTrips blockPos_exact h
  | tileEvent =>
    exact tileEvent_roundTrips (p := TileEvent.upgrade d) blockPos_exact
      (TileEvent.Canonical.position (p := d) h) (TileEvent.Canonical.eventType (p := d) h)
      (TileEvent.Canonical.upgrade h)

/-- **Block positions survive**: on every clientbound packet with block positions, whatever follows
its fields, the step from v924 to v944 succeeds, its packet is read in the grammar of v944 with the
same signed coordinates, and the step from v944 to v924 returns the original bytes. -/
theorem blockPos_survives (k : BlockPosPacket) {d : k.Data} (h : k.Canonical d) (suf : List UInt8)
    (user : UserConnection) (other other' : OtherHandlers) :
    ∃ out,
      PacketHandler.apply ((V924ToV944.createProtocol other).transform .clientbound k.packetId)
        ((k.type networkBlockPos).bytes d ++ suf) user = .ok (out ++ suf) ∧
      Reads (k.type blockPos).read out (k.upgrade d) ∧
      k.positions (k.upgrade d) = k.positions d ∧
      PacketHandler.apply ((V944ToV924.createProtocol other').transform .clientbound k.packetId)
        (out ++ suf) user = .ok ((k.type networkBlockPos).bytes d ++ suf) := by
  -- both handlers are conversions between the same two grammars
  have hup := (k.upgradeHandler_converts h).rewrites
  have hdown := (k.downgradeHandler_converts h).rewrites
  refine ⟨(k.type blockPos).bytes (k.upgrade d), ?_, (k.type_roundTrips_upgrade h).reads, ?_, ?_⟩
  · rw [transform_upgrade]
    exact apply_of_rewrites hup suf user
  · cases k <;> rfl
  · rw [transform_downgrade]
    exact apply_of_rewrites hdown suf user

/-- A zombie note block below sea level, followed by one byte. -/
theorem blockPos_survives_sample : ∃ out,
    PacketHandler.apply ((V924ToV944.createProtocol fun _ _ => pure ()).transform .clientbound
        PacketId.tileEvent)
      ((tileEventType networkBlockPos).bytes ⟨(-5, -60, 12), 0, 16⟩ ++ [0x99]) { address := "a" } =
        .ok (out ++ [0x99]) ∧
    Reads (tileEventType blockPos).read out ⟨(-5, -60, 12), 0, 20⟩ := by
  have hcanonical : tileEvent.Canonical (⟨(-5, -60, 12), 0, 16⟩ : TileEvent) :=
    ⟨by decide, by decide, by decide, by decide⟩
  obtain ⟨out, hup, hread, _⟩ := blockPos_survives tileEvent hcanonical [0x99] { address := "a" }
    (fun _ _ => pure ()) (fun _ _ => pure ())
  exact ⟨out, hup, hread⟩

end BlockPosPacket

end Endweave
