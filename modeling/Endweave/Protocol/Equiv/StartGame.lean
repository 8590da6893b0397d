import Endweave.Codec.Equiv.Wrapper
import Endweave.Protocol.Handlers.StartGame
import Endweave.Protocol.Packets.StartGame

/-!
# Correctness of the `StartGame` handlers

Each upgrade turns a canonical packet of its source version into the packet of its target version
with the same fields and a zero checksum (the five `rewriteStartGame_apply`); `startGame_upgraded`
is the whole chain from v860 to v1001.

The downgrade from v924 reads one flag of the server join information and no more.
`rewriteStartGame_translates` says what it does with whatever stands behind the flags; for a packet
without gathering information that is right (`V924ToV898.rewriteStartGame_apply`), and for one with
gathering information it never is (`V924ToV898.rewriteStartGame_eq_iff`).
-/

namespace Endweave

open Wire PacketReader PacketWriter PacketWrapper StartGame

variable {p : StartGame}

/-! ### Shared runs of fields -/

theorem passthroughEntity_rewrites (h : p.Canonical) :
    Rewrites passthroughEntity p.entityBytes p.entityBytes () := by
  simp only [entityBytes, List.flatten_cons, List.flatten_nil]
  apply Rewrites.passthrough (varInt64_roundTrips h.entityId)
  apply Rewrites.passthrough (uvarInt64_roundTrips h.runtimeId)
  apply Rewrites.passthrough (varInt_roundTrips h.gameType)
  apply Rewrites.passthrough (vec3_roundTrips _)
  apply Rewrites.passthrough (vec2_roundTrips _)
  exact Rewrites.pure ()

theorem passthroughTelemetry_rewrites (h : p.Canonical) :
    Rewrites passthroughTelemetry p.telemetryBytesV898 p.telemetryBytesV898 () := by
  simp only [telemetryBytesV898, List.flatten_cons, List.flatten_nil]
  apply Rewrites.passthrough (string_roundTrips h.serverId)
  apply Rewrites.passthrough (string_roundTrips h.worldId)
  apply Rewrites.passthrough (string_roundTrips h.scenarioId)
  apply Rewrites.passthrough (string_roundTrips h.ownerId)
  exact Rewrites.pure ()

theorem passthroughBlockProperty_rewrites {blockProperty : String × Option CompoundTag}
    (hname : FitsString blockProperty.1) (hdata : CanonicalNbt blockProperty.2) :
    Rewrites passthroughBlockProperty (blockPropertyBytes blockProperty)
      (blockPropertyBytes blockProperty) () := by
  simp only [blockPropertyBytes, List.flatten_cons, List.flatten_nil]
  apply Rewrites.passthrough (string_roundTrips hname)
  apply Rewrites.passthrough (namedCompoundTag_roundTrips hdata)
  exact Rewrites.pure ()

theorem passthroughLevel_rewrites (h : p.Canonical) :
    Rewrites passthroughLevel p.levelBytes p.zeroChecksum.levelBytes () := by
  obtain ⟨hcount, hprops⟩ := h.blockProperties
  simp only [levelBytes, zeroChecksum, List.flatten_cons, List.flatten_nil]
  apply Rewrites.passthrough (string_roundTrips h.levelId)
  apply Rewrites.passthrough (string_roundTrips h.levelName)
  apply Rewrites.passthrough (string_roundTrips h.templateContentIdentity)
  apply Rewrites.passthrough (bool_roundTrips _)
  apply Rewrites.passthrough (varInt_roundTrips h.rewindHistorySize)
  apply Rewrites.passthrough (bool_roundTrips _)
  apply Rewrites.passthrough (int64LE_roundTrips h.levelCurrentTime)
  apply Rewrites.passthrough (varInt_roundTrips h.enchantmentSeed)
  apply Rewrites.passthrough (uvarInt_roundTrips ⟨by omega, by omega⟩)
  rw [Int.toNat_natCast]
  refine (Rewrites.repeatM fun blockProperty hmem =>
    passthroughBlockProperty_rewrites (hprops _ hmem).1 (hprops _ hmem).2).bind ?_
  apply Rewrites.passthrough (string_roundTrips h.multiplayerCorrelationId)
  apply Rewrites.passthrough (bool_roundTrips _)
  apply Rewrites.passthrough (string_roundTrips h.serverVersion)
  apply Rewrites.passthrough (namedCompoundTag_roundTrips h.playerPropertyData)
  -- the checksum is read, and a zero is written in its place
  apply Rewrites.read (int64LE_roundTrips h.checksum)
  rw [List.append_nil]
  exact write_rewrites (int64LE_roundTrips (v := 0) (by decide)).writes

theorem passthroughTemplate_rewrites (h : p.Canonical) :
    Rewrites passthroughTemplate p.templateBytes p.templateBytes () := by
  simp only [templateBytes, List.flatten_cons, List.flatten_nil]
  apply Rewrites.passthrough (int64LE_roundTrips h.worldTemplateIdMsb)
  apply Rewrites.passthrough (int64LE_roundTrips h.worldTemplateIdLsb)
  apply Rewrites.passthrough (bool_roundTrips _)
  apply Rewrites.passthrough (bool_roundTrips _)
  exact Rewrites.pure ()

/-- The two halves of the template id are the bytes of one UUID. -/
theorem templateBytes_eq (h : p.Canonical) : p.templateBytes = p.templateBytesV1001 := by
  have hmsb : uint64LE.bytes (p.worldTemplateIdMsb % 2 ^ 64) = int64LE.bytes p.worldTemplateIdMsb :=
    congrArg written (uint64LE_write_emod h.worldTemplateIdMsb)
  have hlsb : uint64LE.bytes (p.worldTemplateIdLsb % 2 ^ 64) = int64LE.bytes p.worldTemplateIdLsb :=
    congrArg written (uint64LE_write_emod h.worldTemplateIdLsb)
  have huuid : uuid.bytes ⟨p.worldTemplateIdMsb % 2 ^ 64, p.worldTemplateIdLsb % 2 ^ 64⟩ =
      uint64LE.bytes (p.worldTemplateIdMsb % 2 ^ 64) ++
        uint64LE.bytes (p.worldTemplateIdLsb % 2 ^ 64) :=
    ((uint64LE_roundTrips (inUInt64_emod _)).writes.bind
      (uint64LE_roundTrips (inUInt64_emod _)).writes).written
  rw [hmsb, hlsb] at huuid
  simp only [templateBytes, templateBytesV1001, huuid, List.flatten_cons, List.append_assoc]

/-- The seven strings of the gathering information are skipped. -/
theorem skipGathering_rewrites (info : GatheringInfo) (h : ∀ s ∈ info.fields, FitsString s) :
    Rewrites (repeatM (discard (PacketWrapper.read string)) 7) (info.fields.flatMap string.bytes) []
      () := by
  have hskip : ∀ s ∈ info.fields,
      Rewrites (discard (PacketWrapper.read string)) (string.bytes s) [] () :=
    fun s hs => (read_rewrites (string_roundTrips (h s hs)).reads).discard
  have hall := Rewrites.repeatM_skips hskip
  rwa [info.length_fields] at hall

/-! ### Upgrades -/

section Upgrades

variable (h : p.Canonical) (user : UserConnection)
include h

theorem V860ToV898.rewriteStartGame_delivers (hexp : p.settings.experiments.length < 2 ^ 31)
    (tickDeathSystemsEnabled : Bool) :
    Delivers V860ToV898.rewriteStartGame (p.encodeV860 tickDeathSystemsEnabled)
      p.zeroChecksum.encodeV898 := by
  have hsettings := passthrough_rewrites (levelSettingsV860_roundTrips h.settings hexp)
  rw [levelSettingsV860_bytes_unsignedSpawnY, levelSettingsV860_bytes_eq hexp] at hsettings
  simp only [encodeV860, encodeV898, levelSettingsV860_bytes_eq hexp, List.flatten_cons,
    List.flatten_nil, zeroChecksum_entityBytes, zeroChecksum_settings, zeroChecksum_templateBytes,
    zeroChecksum_telemetryBytesV898, zeroChecksum_networkPermissions]
  refine (passthroughEntity_rewrites h).bind_delivers ?_
  refine hsettings.bind_delivers ?_
  refine (passthroughTelemetry_rewrites h).bind_delivers ?_
  refine (passthroughLevel_rewrites h).bind_delivers ?_
  refine (passthroughTemplate_rewrites h).bind_delivers ?_
  apply Delivers.read (bool_roundTrips _)
  exact Delivers.done _

theorem V860ToV898.rewriteStartGame_apply (hexp : p.settings.experiments.length < 2 ^ 31)
    (tickDeathSystemsEnabled : Bool) :
    V860ToV898.rewriteStartGame.apply (p.encodeV860 tickDeathSystemsEnabled) user =
      .ok p.zeroChecksum.encodeV898 :=
  (V860ToV898.rewriteStartGame_delivers h hexp tickDeathSystemsEnabled).translates.apply user

theorem V898ToV924.rewriteStartGame_delivers :
    Delivers V898ToV924.rewriteStartGame p.encodeV898
      (p.zeroChecksum.encodeV924 none) := by
  have hsettings := passthrough_rewrites (levelSettingsV924_roundTrips h.settings)
  rw [levelSettingsV924_bytes_unsignedSpawnY] at hsettings
  simp only [encodeV898, encodeV924, telemetryBytesV898, telemetryBytesV924, joinInfoBytesV924,
    List.flatten_cons, List.flatten_nil, zeroChecksum_entityBytes, zeroChecksum_settings,
    zeroChecksum_templateBytes, zeroChecksum_networkPermissions, List.append_assoc]
  refine (passthroughEntity_rewrites h).bind_delivers ?_
  refine hsettings.bind_delivers ?_
  apply Delivers.read (string_roundTrips h.serverId)
  apply Delivers.read (string_roundTrips h.worldId)
  apply Delivers.read (string_roundTrips h.scenarioId)
  apply Delivers.read (string_roundTrips h.ownerId)
  rw [List.nil_append]
  refine (passthroughLevel_rewrites h).bind_delivers ?_
  refine (passthroughTemplate_rewrites h).bind_delivers ?_
  apply Delivers.passthrough (bool_roundTrips _)
  apply Delivers.write (bool_roundTrips _)
  apply Delivers.write (string_roundTrips h.serverId)
  apply Delivers.write (string_roundTrips h.scenarioId)
  apply Delivers.write (string_roundTrips h.worldId)
  exact (write_rewrites (string_roundTrips h.ownerId).writes).delivers []

theorem V898ToV924.rewriteStartGame_apply :
    V898ToV924.rewriteStartGame.apply p.encodeV898 user = .ok (p.zeroChecksum.encodeV924 none) :=
  (V898ToV924.rewriteStartGame_delivers h).translates.apply user

/-- The server join information is replaced by one without parts, whatever was in it. -/
theorem V924ToV944.rewriteStartGame_delivers {joinInfo : JoinInfo}
    (hjoin : CanonicalJoinInfo joinInfo) :
    Delivers V924ToV944.rewriteStartGame (p.encodeV924 joinInfo)
      (p.zeroChecksum.encodeV944 joinInfo.isSome) := by
  -- the spawn height is read unsigned, and the signed field writes it as the signed one
  have hwrite : Writes (levelSettingsV944.write p.settings.unsignedSpawnY)
      (levelSettingsV944.bytes p.settings) := by
    rw [levelSettingsV944_write_unsignedSpawnY]
    exact (levelSettingsV944_roundTrips h.settings).writes
  have hsettings := map_rewrites (levelSettingsV924_roundTrips h.settings).reads hwrite
  rw [levelSettingsV924_bytes_unsignedSpawnY] at hsettings
  simp only [encodeV924, encodeV944, List.flatten_cons, List.flatten_nil, zeroChecksum_entityBytes,
    zeroChecksum_settings, zeroChecksum_templateBytes, zeroChecksum_telemetryBytesV924,
    zeroChecksum_networkPermissions]
  refine (passthroughEntity_rewrites h).bind_delivers ?_
  refine hsettings.bind_delivers ?_
  refine (passthroughLevel_rewrites h).bind_delivers ?_
  refine (passthroughTemplate_rewrites h).bind_delivers ?_
  apply Delivers.passthrough (bool_roundTrips _)
  match joinInfo with
  | none =>
    apply Delivers.passthrough (bool_roundTrips false)
    exact Delivers.done _
  | some none =>
    simp only [joinInfoBytesV924, joinInfoBytesV944, Option.isSome_some, if_true, List.flatten_cons,
      List.flatten_nil, List.append_assoc]
    apply Delivers.passthrough (bool_roundTrips true)
    apply Delivers.read (bool_roundTrips false)
    apply Delivers.write (bool_roundTrips false)
    apply Delivers.write (bool_roundTrips false)
    exact (write_rewrites (bool_roundTrips false).writes).delivers _
  | some (some info) =>
    simp only [joinInfoBytesV924, joinInfoBytesV944, Option.isSome_some, if_true, List.flatten_cons,
      List.flatten_nil, List.append_assoc]
    apply Delivers.passthrough (bool_roundTrips true)
    apply Delivers.read (bool_roundTrips true)
    refine (skipGathering_rewrites info hjoin).bind_delivers ?_
    apply Delivers.write (bool_roundTrips false)
    apply Delivers.write (bool_roundTrips false)
    exact (write_rewrites (bool_roundTrips false).writes).delivers _

theorem V924ToV944.rewriteStartGame_apply {joinInfo : JoinInfo}
    (hjoin : CanonicalJoinInfo joinInfo) :
    V924ToV944.rewriteStartGame.apply (p.encodeV924 joinInfo) user =
      .ok (p.zeroChecksum.encodeV944 joinInfo.isSome) :=
  (V924ToV944.rewriteStartGame_delivers h hjoin).translates.apply user

theorem V944ToV975.rewriteStartGame_delivers (hasServerJoinInfo : Bool) :
    Delivers V944ToV975.rewriteStartGame (p.encodeV944 hasServerJoinInfo)
      (p.zeroChecksum.encodeV944 hasServerJoinInfo) := by
  simp only [encodeV944, List.flatten_cons, zeroChecksum_entityBytes, zeroChecksum_settings,
    zeroChecksum_templateBytes, zeroChecksum_telemetryBytesV924, zeroChecksum_networkPermissions]
  refine (passthroughEntity_rewrites h).bind_delivers ?_
  apply Delivers.passthrough (levelSettingsV944_roundTrips h.settings)
  refine (passthroughLevel_rewrites h).bind_delivers ?_
  exact passthroughAll_delivers _

theorem V944ToV975.rewriteStartGame_apply (hasServerJoinInfo : Bool) :
    V944ToV975.rewriteStartGame.apply (p.encodeV944 hasServerJoinInfo) user =
      .ok (p.zeroChecksum.encodeV944 hasServerJoinInfo) :=
  (V944ToV975.rewriteStartGame_delivers h hasServerJoinInfo).translates.apply user

theorem V975ToV1001.rewriteStartGame_delivers (hasServerJoinInfo : Bool) :
    Delivers V975ToV1001.rewriteStartGame (p.encodeV944 hasServerJoinInfo)
      (p.zeroChecksum.encodeV1001 ⟨0, false, false⟩ hasServerJoinInfo) := by
  simp only [encodeV944, encodeV1001, List.flatten_cons, zeroChecksum_entityBytes,
    zeroChecksum_settings, zeroChecksum_telemetryBytesV924, zeroChecksum_networkPermissions,
    zeroChecksum_templateBytesV1001, templateBytes_eq h]
  simp only [templateBytesV1001, List.flatten_cons, List.flatten_nil, List.append_assoc]
  refine (passthroughEntity_rewrites h).bind_delivers ?_
  apply Delivers.read (levelSettingsV944_roundTrips h.settings)
  apply Delivers.write (levelSettingsV944_roundTrips h.settings)
  apply Delivers.write (varInt_roundTrips (v := 0) (by decide))
  apply Delivers.write (bool_roundTrips false)
  refine (passthroughLevel_rewrites h).bind_delivers ?_
  -- the two signed halves of the template id are read as one UUID
  apply Delivers.passthrough (uuid_roundTrips (inUInt64_emod _) (inUInt64_emod _))
  apply Delivers.passthrough (bool_roundTrips _)
  apply Delivers.passthrough (bool_roundTrips _)
  rw [List.nil_append]
  apply Delivers.passthrough (bool_roundTrips _)
  apply Delivers.write (bool_roundTrips false)
  exact passthroughAll_delivers _

theorem V975ToV1001.rewriteStartGame_apply (hasServerJoinInfo : Bool) :
    V975ToV1001.rewriteStartGame.apply (p.encodeV944 hasServerJoinInfo) user =
      .ok (p.zeroChecksum.encodeV1001 ⟨0, false, false⟩ hasServerJoinInfo) :=
  (V975ToV1001.rewriteStartGame_delivers h hasServerJoinInfo).translates.apply user

/-! ### Downgrades -/

omit user

/-- TickDeathSystemsEnabled is false. -/
theorem V898ToV860.rewriteStartGame_delivers (hexp : p.settings.experiments.length < 2 ^ 31) :
    Delivers V898ToV860.rewriteStartGame p.encodeV898 (p.zeroChecksum.encodeV860 false) := by
  have hsettings := passthrough_rewrites (levelSettingsV860_roundTrips h.settings hexp)
  rw [levelSettingsV860_bytes_unsignedSpawnY, levelSettingsV860_bytes_eq hexp] at hsettings
  simp only [encodeV860, encodeV898, levelSettingsV860_bytes_eq hexp, List.flatten_cons,
    List.flatten_nil, zeroChecksum_entityBytes, zeroChecksum_settings, zeroChecksum_templateBytes,
    zeroChecksum_telemetryBytesV898, zeroChecksum_networkPermissions]
  refine (passthroughEntity_rewrites h).bind_delivers ?_
  refine hsettings.bind_delivers ?_
  refine (passthroughTelemetry_rewrites h).bind_delivers ?_
  refine (passthroughLevel_rewrites h).bind_delivers ?_
  refine (passthroughTemplate_rewrites h).bind_delivers ?_
  exact (write_rewrites (bool_roundTrips false).writes).delivers _

/-- The server join information of v924 has no gathering information. -/
theorem V944ToV924.rewriteStartGame_delivers (hasServerJoinInfo : Bool) :
    Delivers V944ToV924.rewriteStartGame (p.encodeV944 hasServerJoinInfo)
      (p.zeroChecksum.encodeV924 (if hasServerJoinInfo then some none else none)) := by
  -- the signed spawn height is written as an unsigned one
  have hunsigned := levelSettings_write_unsignedSpawnY experiments p.settings
  have hwrite : Writes (levelSettingsV924.write p.settings) _ :=
    hunsigned ▸ (levelSettingsV924_roundTrips h.settings).writes
  rw [levelSettingsV924_bytes_unsignedSpawnY] at hwrite
  have hsettings := map_rewrites (levelSettingsV944_roundTrips h.settings).reads hwrite
  simp only [encodeV924, encodeV944, List.flatten_cons, List.flatten_nil, zeroChecksum_entityBytes,
    zeroChecksum_settings, zeroChecksum_templateBytes, zeroChecksum_telemetryBytesV924,
    zeroChecksum_networkPermissions]
  refine (passthroughEntity_rewrites h).bind_delivers ?_
  refine hsettings.bind_delivers ?_
  refine (passthroughLevel_rewrites h).bind_delivers ?_
  refine (passthroughTemplate_rewrites h).bind_delivers ?_
  apply Delivers.passthrough (bool_roundTrips _)
  cases hasServerJoinInfo with
  | false =>
    apply Delivers.passthrough (bool_roundTrips false)
    exact Delivers.done _
  | true =>
    simp only [joinInfoBytesV924, joinInfoBytesV944, if_true, List.flatten_cons, List.flatten_nil,
      List.append_assoc]
    apply Delivers.passthrough (bool_roundTrips true)
    apply Delivers.read (bool_roundTrips false)
    apply Delivers.read (bool_roundTrips false)
    apply Delivers.read (bool_roundTrips false)
    exact (write_rewrites (bool_roundTrips false).writes).delivers _

end Upgrades

/-- **A `StartGame` packet survives the whole upgrade chain.** From v860 to v1001 no field changes
but the checksum, which is zeroed; TickDeathSystemsEnabled is gone, the telemetry stands behind an
absent server join information, and the fields that v1001 adds are zero and false. -/
theorem startGame_upgraded (h : p.Canonical) (hexp : p.settings.experiments.length < 2 ^ 31)
    (tickDeathSystemsEnabled : Bool) (user : UserConnection) :
    PacketHandler.applyAll startGameUpgrades (p.encodeV860 tickDeathSystemsEnabled) user =
      .ok (p.zeroChecksum.encodeV1001 ⟨0, false, false⟩ false) := by
  have hzero := h.zeroChecksum
  have h898 := V860ToV898.rewriteStartGame_apply h user hexp tickDeathSystemsEnabled
  have h924 := V898ToV924.rewriteStartGame_apply hzero user
  have h944 : V924ToV944.rewriteStartGame.apply (p.zeroChecksum.encodeV924 none) user =
      .ok (p.zeroChecksum.encodeV944 false) := V924ToV944.rewriteStartGame_apply hzero user trivial
  have h975 := V944ToV975.rewriteStartGame_apply hzero user false
  have h1001 := V975ToV1001.rewriteStartGame_apply hzero user false
  rw [zeroChecksum_zeroChecksum] at h924 h975 h1001
  rw [startGameUpgrades, applyAll_cons h898, applyAll_cons h924, applyAll_cons h944,
    applyAll_cons h975, applyAll_cons h1001, applyAll_nil]

/-- The sample packet, from a v860 server to a v1001 client. -/
theorem startGame_upgraded_sample :
    PacketHandler.applyAll startGameUpgrades (sampleStartGame.encodeV860 true)
      { address := "10.0.0.7:50123", clientProtocol := 1001, serverProtocol := 860 } =
      .ok (sampleStartGame.zeroChecksum.encodeV1001 ⟨0, false, false⟩ false) :=
  startGame_upgraded sampleStartGame_canonical (by decide) true _

/-! ### The downgrade to v898 -/

/-- The flags the downgrade knows: whether there is join information and, if so, one more. -/
def joinFlagBytes : Option Bool → List UInt8
  | none => bool.bytes false
  | some flag => bool.bytes true ++ bool.bytes flag

/-- What the downgrade reads: a v924 packet with these flags for the join information. -/
def StartGame.encodeFlags (p : StartGame) (flags : Option Bool) : List UInt8 :=
  [p.entityBytes, levelSettingsV924.bytes p.settings, p.levelBytes, p.templateBytes,
    bool.bytes p.networkPermissions, joinFlagBytes flags, p.telemetryBytesV924].flatten

theorem V924ToV898.skipJoinInfo_rewrites (flags : Option Bool) :
    Rewrites skipJoinInfo (joinFlagBytes flags) [] () := by
  cases flags with
  | none =>
    rw [joinFlagBytes, ← List.append_nil (bool.bytes false)]
    exact Rewrites.read (bool_roundTrips false) (Rewrites.pure ())
  | some flag =>
    exact Rewrites.read (bool_roundTrips true) (read_rewrites (bool_roundTrips flag).reads).discard

section Downgrade

variable (h : p.Canonical) (user : UserConnection)
include h

theorem blockProperty_read {blockProperty : String × Option CompoundTag}
    (hmem : blockProperty ∈ p.blockProperties) :
    Rewrites (do
      let name ← PacketWrapper.read string
      let data ← PacketWrapper.read namedCompoundTag
      pure (name, data)) (blockPropertyBytes blockProperty) [] blockProperty := by
  obtain ⟨hname, hdata⟩ := h.blockProperties.2 _ hmem
  simp only [blockPropertyBytes, List.flatten_cons, List.flatten_nil]
  apply Rewrites.read (string_roundTrips hname)
  apply Rewrites.read (namedCompoundTag_roundTrips hdata)
  exact Rewrites.pure blockProperty

theorem blockProperty_write {blockProperty : String × Option CompoundTag}
    (hmem : blockProperty ∈ p.blockProperties) :
    Rewrites (do
      write string blockProperty.1
      write namedCompoundTag blockProperty.2) [] (blockPropertyBytes blockProperty) () := by
  obtain ⟨hname, hdata⟩ := h.blockProperties.2 _ hmem
  simp only [blockPropertyBytes, List.flatten_cons, List.flatten_nil, List.append_nil]
  apply Rewrites.write (string_roundTrips hname)
  exact write_rewrites (namedCompoundTag_roundTrips hdata).writes

/-- Whatever the flags, four strings behind them are taken for the telemetry, and what follows is
kept. -/
theorem V924ToV898.rewriteStartGame_rewrites (flags : Option Bool) :
    Rewrites rewriteStartGame (p.encodeFlags flags) p.zeroChecksum.encodeV898 () := by
  obtain ⟨hcount, hprops⟩ := h.blockProperties
  have hsettings := passthrough_rewrites (levelSettingsV924_roundTrips h.settings)
  rw [levelSettingsV924_bytes_unsignedSpawnY] at hsettings
  simp only [encodeFlags, encodeV898, zeroChecksum_entityBytes, zeroChecksum_settings,
    zeroChecksum_templateBytes, zeroChecksum_telemetryBytesV898, zeroChecksum_networkPermissions]
  simp only [levelBytes, zeroChecksum, templateBytes, telemetryBytesV924, telemetryBytesV898,
    List.flatten_cons, List.flatten_nil, List.append_assoc, List.nil_append]
  refine (passthroughEntity_rewrites h).bind ?_
  refine hsettings.bind ?_
  apply Rewrites.read (string_roundTrips h.levelId)
  apply Rewrites.read (string_roundTrips h.levelName)
  apply Rewrites.read (string_roundTrips h.templateContentIdentity)
  apply Rewrites.read (bool_roundTrips _)
  apply Rewrites.read (varInt_roundTrips h.rewindHistorySize)
  apply Rewrites.read (bool_roundTrips _)
  apply Rewrites.read (int64LE_roundTrips h.levelCurrentTime)
  apply Rewrites.read (varInt_roundTrips h.enchantmentSeed)
  apply Rewrites.read (uvarInt_roundTrips ⟨by omega, by omega⟩)
  rw [Int.toNat_natCast]
  apply Rewrites.readThen (Rewrites.collect fun blockProperty => blockProperty_read h)
  apply Rewrites.read (string_roundTrips h.multiplayerCorrelationId)
  apply Rewrites.read (bool_roundTrips _)
  apply Rewrites.read (string_roundTrips h.serverVersion)
  apply Rewrites.read (namedCompoundTag_roundTrips h.playerPropertyData)
  apply Rewrites.read (int64LE_roundTrips h.checksum)
  apply Rewrites.read (int64LE_roundTrips h.worldTemplateIdMsb)
  apply Rewrites.read (int64LE_roundTrips h.worldTemplateIdLsb)
  apply Rewrites.read (bool_roundTrips _)
  apply Rewrites.read (bool_roundTrips _)
  apply Rewrites.read (bool_roundTrips _)
  -- the handler takes the next four strings for the telemetry
  apply Rewrites.readThen (skipJoinInfo_rewrites flags)
  apply Rewrites.read (string_roundTrips h.serverId)
  apply Rewrites.read (string_roundTrips h.scenarioId)
  apply Rewrites.read (string_roundTrips h.worldId)
  apply Rewrites.read (string_roundTrips h.ownerId)
  apply Rewrites.write (string_roundTrips h.serverId)
  apply Rewrites.write (string_roundTrips h.worldId)
  apply Rewrites.write (string_roundTrips h.scenarioId)
  apply Rewrites.write (string_roundTrips h.ownerId)
  apply Rewrites.write (string_roundTrips h.levelId)
  apply Rewrites.write (string_roundTrips h.levelName)
  apply Rewrites.write (string_roundTrips h.templateContentIdentity)
  apply Rewrites.write (bool_roundTrips _)
  apply Rewrites.write (varInt_roundTrips h.rewindHistorySize)
  apply Rewrites.write (bool_roundTrips _)
  apply Rewrites.write (int64LE_roundTrips h.levelCurrentTime)
  apply Rewrites.write (varInt_roundTrips h.enchantmentSeed)
  apply Rewrites.write (uvarInt_roundTrips ⟨by omega, by omega⟩)
  apply Rewrites.writeThen (Rewrites.each fun blockProperty => blockProperty_write h)
  apply Rewrites.write (string_roundTrips h.multiplayerCorrelationId)
  apply Rewrites.write (bool_roundTrips _)
  apply Rewrites.write (string_roundTrips h.serverVersion)
  apply Rewrites.write (namedCompoundTag_roundTrips h.playerPropertyData)
  apply Rewrites.write (int64LE_roundTrips (v := 0) (by decide))
  apply Rewrites.write (int64LE_roundTrips h.worldTemplateIdMsb)
  apply Rewrites.write (int64LE_roundTrips h.worldTemplateIdLsb)
  apply Rewrites.write (bool_roundTrips _)
  apply Rewrites.write (bool_roundTrips _)
  rw [List.append_nil]
  exact write_rewrites (bool_roundTrips _).writes

theorem V924ToV898.rewriteStartGame_translates (flags : Option Bool) (suf : List UInt8) :
    Translates rewriteStartGame (p.encodeFlags flags ++ suf)
      (p.zeroChecksum.encodeV898 ++ suf) := (rewriteStartGame_rewrites h flags).translates suf

/-- Without gathering information the v898 packet is the v924 one. -/
theorem V924ToV898.rewriteStartGame_apply {joinInfo : JoinInfo}
    (hjoin : ∀ info, joinInfo ≠ some (some info)) :
    rewriteStartGame.apply (p.encodeV924 joinInfo) user = .ok p.zeroChecksum.encodeV898 := by
  refine Translates.apply ?_ user
  match joinInfo with
  | none =>
    have htr := rewriteStartGame_translates h none []
    rwa [List.append_nil, List.append_nil] at htr
  | some none =>
    have htr := rewriteStartGame_translates h (some false) []
    rwa [List.append_nil, List.append_nil] at htr
  | some (some info) => exact absurd rfl (hjoin info)

/-- The packet with other telemetry. -/
def StartGame.withTelemetry (p : StartGame) (serverId scenarioId worldId ownerId : String) :
    StartGame :=
  { p with serverId, scenarioId, worldId, ownerId }

/-- With gathering information the first four of its strings become the telemetry, and the others
stay behind NetworkPermissions together with the telemetry proper. -/
theorem V924ToV898.rewriteStartGame_gathering {info : GatheringInfo}
    (hinfo : ∀ s ∈ info.fields, FitsString s) {a b c d : String} {rest : List String}
    (hfields : info.fields = a :: b :: c :: d :: rest) :
    rewriteStartGame.apply (p.encodeV924 (some (some info))) user =
      .ok ((p.withTelemetry a b c d).zeroChecksum.encodeV898 ++
        (rest.flatMap string.bytes ++ p.telemetryBytesV924)) := by
  rw [hfields] at hinfo
  have hp : (p.withTelemetry a b c d).Canonical :=
    { h with
      serverId := hinfo a (by simp)
      scenarioId := hinfo b (by simp)
      worldId := hinfo c (by simp)
      ownerId := hinfo d (by simp) }
  -- to the handler this is a packet with other telemetry and a long rest
  have htr := rewriteStartGame_translates hp (some true)
    (rest.flatMap string.bytes ++ p.telemetryBytesV924)
  have hbytes : p.encodeV924 (some (some info)) =
      (p.withTelemetry a b c d).encodeFlags (some true) ++
        (rest.flatMap string.bytes ++ p.telemetryBytesV924) := by
    simp only [encodeV924, encodeFlags, joinInfoBytesV924, joinFlagBytes, hfields,
      telemetryBytesV924, withTelemetry, List.flatten_cons, List.flatten_nil, List.flatMap_cons,
      List.append_assoc, List.nil_append]
    rfl
  rw [hbytes]
  exact htr.apply user

end Downgrade

/-- Such a packet is longer than the v898 encoding of the same fields. -/
theorem V924ToV898.gathering_ne (a b c d : String) (rest : List String) :
    (p.withTelemetry a b c d).zeroChecksum.encodeV898 ++
      (rest.flatMap string.bytes ++ p.telemetryBytesV924) ≠ p.zeroChecksum.encodeV898 := by
  intro heq
  have hlen := congrArg List.length heq
  -- the telemetry of the packet stands behind at least one string more
  have hpos := length_string_bytes_pos a
  have hlevel : (p.withTelemetry a b c d).zeroChecksum.levelBytes = p.zeroChecksum.levelBytes := rfl
  have htemplate : (p.withTelemetry a b c d).templateBytes = p.templateBytes := rfl
  have hentity : (p.withTelemetry a b c d).entityBytes = p.entityBytes := rfl
  have hsettings : (p.withTelemetry a b c d).settings = p.settings := rfl
  have hpermissions : (p.withTelemetry a b c d).networkPermissions = p.networkPermissions := rfl
  simp only [encodeV898, telemetryBytesV898, telemetryBytesV924, zeroChecksum_entityBytes,
    zeroChecksum_settings, zeroChecksum_templateBytes, zeroChecksum_networkPermissions, hlevel,
    htemplate, hentity, hsettings, hpermissions, List.flatten_cons, List.flatten_nil,
    List.length_append, List.length_nil] at hlen
  simp only [withTelemetry, zeroChecksum] at hlen
  omega

/-- **The downgrade of a v924 packet is its v898 encoding exactly when it has no gathering
information.** -/
theorem V924ToV898.rewriteStartGame_eq_iff (h : p.Canonical) {joinInfo : JoinInfo}
    (hjoin : CanonicalJoinInfo joinInfo) (user : UserConnection) :
    rewriteStartGame.apply (p.encodeV924 joinInfo) user = .ok p.zeroChecksum.encodeV898 ↔
      ∀ info, joinInfo ≠ some (some info) := by
  constructor
  · rintro heq ⟨fields, hlen⟩ rfl
    match fields, hlen with
    | a :: b :: c :: d :: rest, _ =>
      rw [rewriteStartGame_gathering h user hjoin rfl] at heq
      exact gathering_ne a b c d rest (Except.ok.inj heq)
  · exact rewriteStartGame_apply h user

/-- The sample packet without gathering information. -/
theorem V924ToV898.rewriteStartGame_eq_iff_sample :
    rewriteStartGame.apply (sampleStartGame.encodeV924 (some none))
      { address := "10.0.0.7:50123", clientProtocol := 898, serverProtocol := 924 } =
        .ok sampleStartGame.zeroChecksum.encodeV898 ↔
      ∀ info, (some none : JoinInfo) ≠ some (some info) :=
  rewriteStartGame_eq_iff sampleStartGame_canonical
    (show CanonicalJoinInfo (some none) from trivial) _

/-- The sample packet with gathering information: the client is told that the server is called
"experience" and the world "world-id", and finds seven strings behind the packet. -/
theorem V924ToV898.rewriteStartGame_misplaces :
    sampleStartGame.Canonical ∧ CanonicalJoinInfo (some (some sampleGathering)) ∧
    rewriteStartGame.apply (sampleStartGame.encodeV924 (some (some sampleGathering)))
        { address := "10.0.0.7:50123", clientProtocol := 898, serverProtocol := 924 } =
      .ok ((sampleStartGame.withTelemetry "experience" "Lobby" "world-id" "World"
        ).zeroChecksum.encodeV898 ++ (["creator-id", "store-id", "target-id"].flatMap
          string.bytes ++ sampleStartGame.telemetryBytesV924)) ∧
    rewriteStartGame.apply (sampleStartGame.encodeV924 (some (some sampleGathering)))
        { address := "10.0.0.7:50123", clientProtocol := 898, serverProtocol := 924 } ≠
      .ok sampleStartGame.zeroChecksum.encodeV898 := by
  have h := rewriteStartGame_gathering sampleStartGame_canonical
    { address := "10.0.0.7:50123", clientProtocol := 898, serverProtocol := 924 }
    sampleGathering_canonical rfl
  refine ⟨sampleStartGame_canonical, sampleGathering_canonical, h, ?_⟩
  rw [h]
  exact fun heq => gathering_ne _ _ _ _ _ (Except.ok.inj heq)

end Endweave
