import Endweave.Codec.Equiv.LevelSettings
import Endweave.Codec.Equiv.Nbt

/-!
# The grammar of `StartGame`

The fields of a `StartGame` packet, once for all versions, and the bytes each version makes of them.
The grammars are those the handlers of the steps read; a version that two steps meet in has one
grammar here, and it is for the handlers to agree with it.
-/

namespace Endweave

/-- The fields of a `StartGame` packet that no step drops. -/
structure StartGame where
  entityId : Int
  runtimeId : Int
  gameType : Int
  position : UInt32 × UInt32 × UInt32
  rotation : UInt32 × UInt32
  settings : LevelSettings
  serverId : String
  worldId : String
  scenarioId : String
  ownerId : String
  levelId : String
  levelName : String
  templateContentIdentity : String
  isTrial : Bool
  rewindHistorySize : Int
  serverAuthBlockBreaking : Bool
  levelCurrentTime : Int
  enchantmentSeed : Int
  blockProperties : List (String × Option CompoundTag)
  multiplayerCorrelationId : String
  enableItemStackNetManager : Bool
  serverVersion : String
  playerPropertyData : Option CompoundTag
  checksum : Int
  worldTemplateIdMsb : Int
  worldTemplateIdLsb : Int
  clientSideGeneration : Bool
  blockNetworkIdsAreHashes : Bool
  networkPermissions : Bool

/-- The gathering information of v924: seven strings. -/
structure GatheringInfo where
  fields : List String
  length_fields : fields.length = 7

/-- The server join information of v924: absent, without or with gathering information. -/
abbrev JoinInfo := Option (Option GatheringInfo)

/-- The fields that v1001 adds. -/
structure AddedV1001 where
  serverEditorConnectionPolicy : Int
  allowAnonymousBlockDropsInEditorWorlds : Bool
  isLoggingChat : Bool

namespace StartGame

variable (p : StartGame)

/-! ### Runs of fields -/

def entityBytes : List UInt8 :=
  [varInt64.bytes p.entityId, uvarInt64.bytes p.runtimeId, varInt.bytes p.gameType,
    vec3.bytes p.position, vec2.bytes p.rotation].flatten

def blockPropertyBytes (blockProperty : String × Option CompoundTag) : List UInt8 :=
  [string.bytes blockProperty.1, namedCompoundTag.bytes blockProperty.2].flatten

/-- Level ID to the registry checksum. -/
def levelBytes : List UInt8 :=
  [string.bytes p.levelId, string.bytes p.levelName, string.bytes p.templateContentIdentity,
    bool.bytes p.isTrial, varInt.bytes p.rewindHistorySize, bool.bytes p.serverAuthBlockBreaking,
    int64LE.bytes p.levelCurrentTime, varInt.bytes p.enchantmentSeed,
    uvarInt.bytes p.blockProperties.length, p.blockProperties.flatMap blockPropertyBytes,
    string.bytes p.multiplayerCorrelationId, bool.bytes p.enableItemStackNetManager,
    string.bytes p.serverVersion, namedCompoundTag.bytes p.playerPropertyData,
    int64LE.bytes p.checksum].flatten

/-- World Template ID to BlockNetworkIds Are Hashes. -/
def templateBytes : List UInt8 :=
  [int64LE.bytes p.worldTemplateIdMsb, int64LE.bytes p.worldTemplateIdLsb,
    bool.bytes p.clientSideGeneration, bool.bytes p.blockNetworkIdsAreHashes].flatten

/-- The telemetry in front of the level id, up to v898. -/
def telemetryBytesV898 : List UInt8 :=
  [string.bytes p.serverId, string.bytes p.worldId, string.bytes p.scenarioId,
    string.bytes p.ownerId].flatten

/-- The telemetry at the end of the packet, from v924 on. -/
def telemetryBytesV924 : List UInt8 :=
  [string.bytes p.serverId, string.bytes p.scenarioId, string.bytes p.worldId,
    string.bytes p.ownerId].flatten

def joinInfoBytesV924 : JoinInfo → List UInt8
  | none => bool.bytes false
  | some none => bool.bytes true ++ bool.bytes false
  | some (some info) => bool.bytes true ++ (bool.bytes true ++ info.fields.flatMap string.bytes)

/-- The join information of v944, with none of its three parts when it is there. -/
def joinInfoBytesV944 (hasServerJoinInfo : Bool) : List UInt8 :=
  if hasServerJoinInfo then
    [bool.bytes true, bool.bytes false, bool.bytes false, bool.bytes false].flatten
  else bool.bytes false

/-! ### Versions -/

def encodeV860 (tickDeathSystemsEnabled : Bool) : List UInt8 :=
  [p.entityBytes, levelSettingsV860.bytes p.settings, p.telemetryBytesV898, p.levelBytes,
    p.templateBytes, bool.bytes tickDeathSystemsEnabled, bool.bytes p.networkPermissions].flatten

/-- The level settings are those of the v924 step, whose two handlers agree on them. -/
def encodeV898 : List UInt8 :=
  [p.entityBytes, levelSettingsV924.bytes p.settings, p.telemetryBytesV898, p.levelBytes,
    p.templateBytes, bool.bytes p.networkPermissions].flatten

def encodeV924 (joinInfo : JoinInfo) : List UInt8 :=
  [p.entityBytes, levelSettingsV924.bytes p.settings, p.levelBytes, p.templateBytes,
    bool.bytes p.networkPermissions, joinInfoBytesV924 joinInfo, p.telemetryBytesV924].flatten

/-- Also the encoding of v975. -/
def encodeV944 (hasServerJoinInfo : Bool) : List UInt8 :=
  [p.entityBytes, levelSettingsV944.bytes p.settings, p.levelBytes, p.templateBytes,
    bool.bytes p.networkPermissions, joinInfoBytesV944 hasServerJoinInfo,
    p.telemetryBytesV924].flatten

/-- World Template ID to BlockNetworkIds Are Hashes, with the id as one UUID. -/
def templateBytesV1001 : List UInt8 :=
  [uuid.bytes ⟨p.worldTemplateIdMsb % 2 ^ 64, p.worldTemplateIdLsb % 2 ^ 64⟩,
    bool.bytes p.clientSideGeneration, bool.bytes p.blockNetworkIdsAreHashes].flatten

def encodeV1001 (added : AddedV1001) (hasServerJoinInfo : Bool) : List UInt8 :=
  [p.entityBytes, levelSettingsV944.bytes p.settings,
    varInt.bytes added.serverEditorConnectionPolicy,
    bool.bytes added.allowAnonymousBlockDropsInEditorWorlds, p.levelBytes,
    p.templateBytesV1001, bool.bytes p.networkPermissions, bool.bytes added.isLoggingChat,
    joinInfoBytesV944 hasServerJoinInfo, p.telemetryBytesV924].flatten

/-! ### Canonical packets -/

/-- Every field fits its type. -/
structure Canonical (p : StartGame) : Prop where
  entityId : InInt64 p.entityId
  runtimeId : InUInt64 p.runtimeId
  gameType : InInt32 p.gameType
  settings : p.settings.Canonical
  serverId : FitsString p.serverId
  worldId : FitsString p.worldId
  scenarioId : FitsString p.scenarioId
  ownerId : FitsString p.ownerId
  levelId : FitsString p.levelId
  levelName : FitsString p.levelName
  templateContentIdentity : FitsString p.templateContentIdentity
  rewindHistorySize : InInt32 p.rewindHistorySize
  levelCurrentTime : InInt64 p.levelCurrentTime
  enchantmentSeed : InInt32 p.enchantmentSeed
  blockProperties : p.blockProperties.length < 2 ^ 32 ∧
    ∀ blockProperty ∈ p.blockProperties,
      FitsString blockProperty.1 ∧ CanonicalNbt blockProperty.2
  multiplayerCorrelationId : FitsString p.multiplayerCorrelationId
  serverVersion : FitsString p.serverVersion
  playerPropertyData : CanonicalNbt p.playerPropertyData
  checksum : InInt64 p.checksum
  worldTemplateIdMsb : InInt64 p.worldTemplateIdMsb
  worldTemplateIdLsb : InInt64 p.worldTemplateIdLsb

/-- Every string of the join information fits its type. -/
def CanonicalJoinInfo : JoinInfo → Prop
  | some (some info) => ∀ s ∈ info.fields, FitsString s
  | _ => True

/-- The packet with the checksum that makes the client skip its validation. -/
def zeroChecksum : StartGame := { p with checksum := 0 }

@[simp] theorem zeroChecksum_zeroChecksum : p.zeroChecksum.zeroChecksum = p.zeroChecksum := rfl

@[simp] theorem zeroChecksum_settings : p.zeroChecksum.settings = p.settings := rfl

@[simp] theorem zeroChecksum_networkPermissions :
    p.zeroChecksum.networkPermissions = p.networkPermissions := rfl

@[simp] theorem zeroChecksum_entityBytes : p.zeroChecksum.entityBytes = p.entityBytes := rfl

@[simp] theorem zeroChecksum_templateBytes : p.zeroChecksum.templateBytes = p.templateBytes := rfl

@[simp] theorem zeroChecksum_templateBytesV1001 :
    p.zeroChecksum.templateBytesV1001 = p.templateBytesV1001 := rfl

@[simp] theorem zeroChecksum_telemetryBytesV898 :
    p.zeroChecksum.telemetryBytesV898 = p.telemetryBytesV898 := rfl

@[simp] theorem zeroChecksum_telemetryBytesV924 :
    p.zeroChecksum.telemetryBytesV924 = p.telemetryBytesV924 := rfl

theorem Canonical.zeroChecksum {p : StartGame} (h : p.Canonical) : p.zeroChecksum.Canonical :=
  { h with checksum := (by decide : InInt64 0) }

end StartGame

/-! ### A packet -/

def sampleSettings : LevelSettings where
  seed := -4172144997902289642
  spawnBiomeType := 0
  spawnBiomeName := "plains"
  spawnDimension := 0
  generator := 1
  gameType := 0
  isHardcore := false
  gameDifficulty := 2
  defaultSpawnX := 0
  defaultSpawnY := -60
  defaultSpawnZ := 12
  achievementsDisabled := true
  editorWorldType := 0
  createdInEditor := false
  exportedFromEditor := false
  dayCycleStopTime := 0
  educationEditionOffer := 0
  educationFeaturesEnabled := false
  educationProductId := ""
  rainLevel := 0
  lightningLevel := 0
  hasConfirmedPlatformLockedContent := false
  multiplayerIntended := true
  lanBroadcastingIntended := true
  xboxLiveBroadcastSetting := 4
  platformBroadcastSetting := 4
  commandsEnabled := true
  texturePacksRequired := false
  gameRules := [⟨"pvp", true, .bool true⟩, ⟨"randomtickspeed", false, .varInt 1⟩]
  experiments := [⟨"gametest", true⟩]
  everToggled := true
  hasBonusChest := false
  startWithMap := false
  playerPermissions := 1
  serverChunkTickRange := 4
  hasLockedBehaviorPack := false
  hasLockedResourcePack := false
  isFromLockedTemplate := false
  useMsaGamertagsOnly := false
  createdFromTemplate := false
  templateWithLockedSettings := false
  onlySpawnV1Villagers := false
  personaDisabled := false
  customSkinsDisabled := false
  emoteChatMuted := false
  baseGameVersion := "*"
  limitedWorldWidth := 16
  limitedWorldDepth := 16
  netherType := true
  eduSharedUriButtonName := ""
  eduSharedUriLinkUri := ""
  overrideForceExperimental := some true
  chatRestrictionLevel := 0
  disablePlayerInteractions := false

/-- A packet of a world with a block of its own, a negative spawn height and an experiment. -/
def sampleStartGame : StartGame where
  entityId := -4294967295
  runtimeId := 1
  gameType := 0
  position := (0, 0, 0)
  rotation := (0, 0)
  settings := sampleSettings
  serverId := "server"
  worldId := "world"
  scenarioId := "scenario"
  ownerId := "owner"
  levelId := "level"
  levelName := "Bedrock level"
  templateContentIdentity := ""
  isTrial := false
  rewindHistorySize := 40
  serverAuthBlockBreaking := true
  levelCurrentTime := 6000
  enchantmentSeed := 0
  blockProperties := [("endweave:lamp", some [("lit", .byte 1)])]
  multiplayerCorrelationId := "<raknet>"
  enableItemStackNetManager := true
  serverVersion := "1.21.120"
  playerPropertyData := none
  checksum := 81985529216486895
  worldTemplateIdMsb := -1
  worldTemplateIdLsb := 0
  clientSideGeneration := false
  blockNetworkIdsAreHashes := true
  networkPermissions := false

def sampleGathering : GatheringInfo where
  fields := ["experience", "Lobby", "world-id", "World", "creator-id", "store-id", "target-id"]
  length_fields := rfl

theorem sampleGathering_canonical : StartGame.CanonicalJoinInfo (some (some sampleGathering)) := by
  have h : ∀ s ∈ sampleGathering.fields, FitsString s := by decide
  exact h

theorem sampleSettings_canonical : sampleSettings.Canonical where
  seed := by decide
  spawnBiomeType := by decide
  spawnBiomeName := by decide
  spawnDimension := by decide
  generator := by decide
  gameType := by decide
  gameDifficulty := by decide
  defaultSpawnX := by decide
  defaultSpawnY := by decide
  defaultSpawnZ := by decide
  editorWorldType := by decide
  dayCycleStopTime := by decide
  educationEditionOffer := by decide
  educationProductId := by decide
  xboxLiveBroadcastSetting := by decide
  platformBroadcastSetting := by decide
  gameRules := by
    refine ⟨by decide, ?_⟩
    intro rule hrule
    simp only [sampleSettings, List.mem_cons, List.not_mem_nil, or_false] at hrule
    rcases hrule with rfl | rfl
    · exact ⟨by decide, trivial⟩
    · exact ⟨by decide, (by decide : InInt32 1)⟩
  experiments := by decide
  playerPermissions := by decide
  serverChunkTickRange := by decide
  baseGameVersion := by decide
  limitedWorldWidth := by decide
  limitedWorldDepth := by decide
  eduSharedUriButtonName := by decide
  eduSharedUriLinkUri := by decide
  chatRestrictionLevel := by decide

theorem sampleStartGame_canonical : sampleStartGame.Canonical where
  entityId := by decide
  runtimeId := by decide
  gameType := by decide
  settings := sampleSettings_canonical
  serverId := by decide
  worldId := by decide
  scenarioId := by decide
  ownerId := by decide
  levelId := by decide
  levelName := by decide
  templateContentIdentity := by decide
  rewindHistorySize := by decide
  levelCurrentTime := by decide
  enchantmentSeed := by decide
  blockProperties := by
    refine ⟨by decide, ?_⟩
    intro blockProperty hmem
    obtain rfl := List.mem_singleton.mp hmem
    refine ⟨by decide, List.nodup_singleton _, ?_⟩
    intro entry hentry
    obtain rfl := List.mem_singleton.mp hentry
    exact ⟨by decide, (by decide : InByte 1)⟩
  multiplayerCorrelationId := by decide
  serverVersion := by decide
  playerPropertyData := trivial
  checksum := by decide
  worldTemplateIdMsb := by decide
  worldTemplateIdLsb := by decide

end Endweave
