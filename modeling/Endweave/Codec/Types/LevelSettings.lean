import Endweave.Codec.Types.Gameplay

/-!
# Level settings

The `LevelSettings` structure of `StartGamePacket`, from the seed to `DisablePlayerInteractions`.
Its type depends on the version in two places: how the spawn height and the experiments are written.
-/

namespace Endweave

open Wire

structure LevelSettings where
  seed : Int
  spawnBiomeType : Int
  spawnBiomeName : String
  spawnDimension : Int
  generator : Int
  gameType : Int
  isHardcore : Bool
  gameDifficulty : Int
  defaultSpawnX : Int
  defaultSpawnY : Int
  defaultSpawnZ : Int
  achievementsDisabled : Bool
  editorWorldType : Int
  createdInEditor : Bool
  exportedFromEditor : Bool
  dayCycleStopTime : Int
  educationEditionOffer : Int
  educationFeaturesEnabled : Bool
  educationProductId : String
  rainLevel : UInt32
  lightningLevel : UInt32
  hasConfirmedPlatformLockedContent : Bool
  multiplayerIntended : Bool
  lanBroadcastingIntended : Bool
  xboxLiveBroadcastSetting : Int
  platformBroadcastSetting : Int
  commandsEnabled : Bool
  texturePacksRequired : Bool
  gameRules : List GameRule
  experiments : List Experiment
  everToggled : Bool
  hasBonusChest : Bool
  startWithMap : Bool
  playerPermissions : Int
  serverChunkTickRange : Int
  hasLockedBehaviorPack : Bool
  hasLockedResourcePack : Bool
  isFromLockedTemplate : Bool
  useMsaGamertagsOnly : Bool
  createdFromTemplate : Bool
  templateWithLockedSettings : Bool
  onlySpawnV1Villagers : Bool
  personaDisabled : Bool
  customSkinsDisabled : Bool
  emoteChatMuted : Bool
  baseGameVersion : String
  limitedWorldWidth : Int
  limitedWorldDepth : Int
  netherType : Bool
  eduSharedUriButtonName : String
  eduSharedUriLinkUri : String
  overrideForceExperimental : Option Bool
  chatRestrictionLevel : Int
  disablePlayerInteractions : Bool
deriving Repr, DecidableEq

def optionalBool : FieldType (Option Bool) := optionalType bool

/-- `_LevelSettingsType`, with the type of the spawn height and of the experiments. -/
def levelSettingsType (yType : FieldType Int) (experimentsType : FieldType (List Experiment)) :
    FieldType LevelSettings where
  read := do
    let seed ← int64LE.read
    let spawnBiomeType ← shortLE.read
    let spawnBiomeName ← string.read
    let spawnDimension ← varInt.read
    let generator ← varInt.read
    let gameType ← varInt.read
    let isHardcore ← bool.read
    let gameDifficulty ← varInt.read
    let defaultSpawnX ← varInt.read
    let defaultSpawnY ← yType.read
    let defaultSpawnZ ← varInt.read
    let achievementsDisabled ← bool.read
    let editorWorldType ← varInt.read
    let createdInEditor ← bool.read
    let exportedFromEditor ← bool.read
    let dayCycleStopTime ← varInt.read
    let educationEditionOffer ← varInt.read
    let educationFeaturesEnabled ← bool.read
    let educationProductId ← string.read
    let rainLevel ← floatLE.read
    let lightningLevel ← floatLE.read
    let hasConfirmedPlatformLockedContent ← bool.read
    let multiplayerIntended ← bool.read
    let lanBroadcastingIntended ← bool.read
    let xboxLiveBroadcastSetting ← varInt.read
    let platformBroadcastSetting ← varInt.read
    let commandsEnabled ← bool.read
    let texturePacksRequired ← bool.read
    let gameRules ← gameRules.read
    let experiments ← experimentsType.read
    let everToggled ← bool.read
    let hasBonusChest ← bool.read
    let startWithMap ← bool.read
    let playerPermissions ← varInt.read
    let serverChunkTickRange ← intLE.read
    let hasLockedBehaviorPack ← bool.read
    let hasLockedResourcePack ← bool.read
    let isFromLockedTemplate ← bool.read
    let useMsaGamertagsOnly ← bool.read
    let createdFromTemplate ← bool.read
    let templateWithLockedSettings ← bool.read
    let onlySpawnV1Villagers ← bool.read
    let personaDisabled ← bool.read
    let customSkinsDisabled ← bool.read
    let emoteChatMuted ← bool.read
    let baseGameVersion ← string.read
    let limitedWorldWidth ← intLE.read
    let limitedWorldDepth ← intLE.read
    let netherType ← bool.read
    let eduSharedUriButtonName ← string.read
    let eduSharedUriLinkUri ← string.read
    let overrideForceExperimental ← optionalBool.read
    let chatRestrictionLevel ← byte.read
    let disablePlayerInteractions ← bool.read
    pure {
      seed, spawnBiomeType, spawnBiomeName, spawnDimension, generator, gameType, isHardcore,
      gameDifficulty, defaultSpawnX, defaultSpawnY, defaultSpawnZ, achievementsDisabled,
      editorWorldType, createdInEditor, exportedFromEditor, dayCycleStopTime, educationEditionOffer,
      educationFeaturesEnabled, educationProductId, rainLevel, lightningLevel,
      hasConfirmedPlatformLockedContent, multiplayerIntended, lanBroadcastingIntended,
      xboxLiveBroadcastSetting, platformBroadcastSetting, commandsEnabled, texturePacksRequired,
      gameRules, experiments, everToggled, hasBonusChest, startWithMap, playerPermissions,
      serverChunkTickRange, hasLockedBehaviorPack, hasLockedResourcePack, isFromLockedTemplate,
      useMsaGamertagsOnly, createdFromTemplate, templateWithLockedSettings, onlySpawnV1Villagers,
      personaDisabled, customSkinsDisabled, emoteChatMuted, baseGameVersion, limitedWorldWidth,
      limitedWorldDepth, netherType, eduSharedUriButtonName, eduSharedUriLinkUri,
      overrideForceExperimental, chatRestrictionLevel, disablePlayerInteractions }
  write value := do
    int64LE.write value.seed
    shortLE.write value.spawnBiomeType
    string.write value.spawnBiomeName
    varInt.write value.spawnDimension
    varInt.write value.generator
    varInt.write value.gameType
    bool.write value.isHardcore
    varInt.write value.gameDifficulty
    varInt.write value.defaultSpawnX
    yType.write value.defaultSpawnY
    varInt.write value.defaultSpawnZ
    bool.write value.achievementsDisabled
    varInt.write value.editorWorldType
    bool.write value.createdInEditor
    bool.write value.exportedFromEditor
    varInt.write value.dayCycleStopTime
    varInt.write value.educationEditionOffer
    bool.write value.educationFeaturesEnabled
    string.write value.educationProductId
    floatLE.write value.rainLevel
    floatLE.write value.lightningLevel
    bool.write value.hasConfirmedPlatformLockedContent
    bool.write value.multiplayerIntended
    bool.write value.lanBroadcastingIntended
    varInt.write value.xboxLiveBroadcastSetting
    varInt.write value.platformBroadcastSetting
    bool.write value.commandsEnabled
    bool.write value.texturePacksRequired
    gameRules.write value.gameRules
    experimentsType.write value.experiments
    bool.write value.everToggled
    bool.write value.hasBonusChest
    bool.write value.startWithMap
    varInt.write value.playerPermissions
    intLE.write value.serverChunkTickRange
    bool.write value.hasLockedBehaviorPack
    bool.write value.hasLockedResourcePack
    bool.write value.isFromLockedTemplate
    bool.write value.useMsaGamertagsOnly
    bool.write value.createdFromTemplate
    bool.write value.templateWithLockedSettings
    bool.write value.onlySpawnV1Villagers
    bool.write value.personaDisabled
    bool.write value.customSkinsDisabled
    bool.write value.emoteChatMuted
    string.write value.baseGameVersion
    intLE.write value.limitedWorldWidth
    intLE.write value.limitedWorldDepth
    bool.write value.netherType
    string.write value.eduSharedUriButtonName
    string.write value.eduSharedUriLinkUri
    optionalBool.write value.overrideForceExperimental
    byte.write value.chatRestrictionLevel
    bool.write value.disablePlayerInteractions

def levelSettingsV860 : FieldType LevelSettings := levelSettingsType uvarInt experimentsV860
def levelSettingsV924 : FieldType LevelSettings := levelSettingsType uvarInt experiments
def levelSettingsV944 : FieldType LevelSettings := levelSettingsType varInt experiments

end Endweave
