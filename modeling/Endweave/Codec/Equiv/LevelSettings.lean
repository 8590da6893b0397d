import Endweave.Codec.Equiv.Primitives
import Endweave.Codec.Types.LevelSettings

/-!
# Correctness of the level settings codec

`levelSettingsType_codes` walks through all fields of the settings once, for any type of the spawn
height.  The three versions follow from it: the unsigned types read a signed height back modulo
`2 ^ 32` (`levelSettingsV924_roundTrips`), and no type tells the two apart when it writes
(`levelSettings_write_unsignedSpawnY`).
-/

namespace Endweave

open Wire PacketReader PacketWriter

/-! ### Game rules -/

/-- A number in a game rule fits its type. -/
def RuleValue.Canonical : RuleValue → Prop
  | .bool _ => True
  | .varInt value => InInt32 value
  | .float _ => True

structure GameRule.Canonical (rule : GameRule) : Prop where
  name : FitsString rule.name
  value : rule.value.Canonical

theorem ruleValue_codes {value : RuleValue} (h : value.Canonical) :
    Codes (writeRuleValue value) (readRuleValue value.typeId) value := by
  cases value with
  | bool value =>
    rw [writeRuleValue, RuleValue.typeId, readRuleValue, if_pos rfl]
    exact (bool_roundTrips value).map RuleValue.bool
  | varInt value =>
    rw [writeRuleValue, RuleValue.typeId, readRuleValue, if_neg (by decide), if_pos rfl]
    exact (varInt_roundTrips h).map RuleValue.varInt
  | float value =>
    rw [writeRuleValue, RuleValue.typeId, readRuleValue, if_neg (by decide), if_neg (by decide),
      if_pos rfl]
    exact (floatLE_roundTrips value).map RuleValue.float

theorem inUInt32_typeId (value : RuleValue) : InUInt32 value.typeId := by
  cases value with
  | bool _ => exact (by decide : InUInt32 1)
  | varInt _ => exact (by decide : InUInt32 2)
  | float _ => exact (by decide : InUInt32 3)

theorem gameRule_roundTrips {rule : GameRule} (h : rule.Canonical) : gameRule.RoundTrips rule :=
  Codes.bind (string_roundTrips h.name) <| Codes.bind (bool_roundTrips _) <|
    Codes.bind (uvarInt_roundTrips (inUInt32_typeId _)) <| Codes.last (ruleValue_codes h.value) rfl

/-! ### Experiments -/

theorem experiment_roundTrips {exp : Experiment} (h : FitsString exp.name) :
    experiment.RoundTrips exp :=
  Codes.bind (string_roundTrips h) <| Codes.last (bool_roundTrips _) rfl

theorem experimentsType_roundTrips {countType : FieldType Int} {exps : List Experiment}
    (hcount : countType.RoundTrips exps.length) (h : ∀ exp ∈ exps, FitsString exp.name) :
    (experimentsType countType).RoundTrips exps := by
  apply Codes.bind hcount
  rw [Int.toNat_natCast]
  exact Codes.each fun exp hexp => experiment_roundTrips (h exp hexp)

theorem experimentsV860_write_eq {exps : List Experiment} (h : exps.length < 2 ^ 31) :
    experimentsV860.write exps = experiments.write exps := by
  simp only [experimentsV860, experiments, experimentsType, intLE, uintLE]
  rw [intLE_write_eq h]

/-! ### Level settings -/

/-- Every string, list and number fits its field; the spawn height is the signed one. -/
structure LevelSettings.Canonical (s : LevelSettings) : Prop where
  seed : InInt64 s.seed
  spawnBiomeType : InInt16 s.spawnBiomeType
  spawnBiomeName : FitsString s.spawnBiomeName
  spawnDimension : InInt32 s.spawnDimension
  generator : InInt32 s.generator
  gameType : InInt32 s.gameType
  gameDifficulty : InInt32 s.gameDifficulty
  defaultSpawnX : InInt32 s.defaultSpawnX
  defaultSpawnY : InInt32 s.defaultSpawnY
  defaultSpawnZ : InInt32 s.defaultSpawnZ
  editorWorldType : InInt32 s.editorWorldType
  dayCycleStopTime : InInt32 s.dayCycleStopTime
  educationEditionOffer : InInt32 s.educationEditionOffer
  educationProductId : FitsString s.educationProductId
  xboxLiveBroadcastSetting : InInt32 s.xboxLiveBroadcastSetting
  platformBroadcastSetting : InInt32 s.platformBroadcastSetting
  gameRules : s.gameRules.length < 2 ^ 32 ∧ ∀ rule ∈ s.gameRules, rule.Canonical
  experiments : s.experiments.length < 2 ^ 32 ∧ ∀ exp ∈ s.experiments, FitsString exp.name
  playerPermissions : InInt32 s.playerPermissions
  serverChunkTickRange : InInt32 s.serverChunkTickRange
  baseGameVersion : FitsString s.baseGameVersion
  limitedWorldWidth : InInt32 s.limitedWorldWidth
  limitedWorldDepth : InInt32 s.limitedWorldDepth
  eduSharedUriButtonName : FitsString s.eduSharedUriButtonName
  eduSharedUriLinkUri : FitsString s.eduSharedUriLinkUri
  chatRestrictionLevel : InByte s.chatRestrictionLevel

/-- All fields in turn: what is read back is what was written, up to the spawn height. -/
theorem levelSettingsType_codes {yType : FieldType Int}
    {experimentsType : FieldType (List Experiment)} {s : LevelSettings} (h : s.Canonical) {y : Int}
    (hy : Codes (yType.write s.defaultSpawnY) yType.read y)
    (he : experimentsType.RoundTrips s.experiments) :
    Codes ((levelSettingsType yType experimentsType).write s)
      (levelSettingsType yType experimentsType).read { s with defaultSpawnY := y } := by
  apply Codes.bind (int64LE_roundTrips h.seed)
  apply Codes.bind (shortLE_roundTrips h.spawnBiomeType)
  apply Codes.bind (string_roundTrips h.spawnBiomeName)
  apply Codes.bind (varInt_roundTrips h.spawnDimension)
  apply Codes.bind (varInt_roundTrips h.generator)
  apply Codes.bind (varInt_roundTrips h.gameType)
  apply Codes.bind (bool_roundTrips _)
  apply Codes.bind (varInt_roundTrips h.gameDifficulty)
  apply Codes.bind (varInt_roundTrips h.defaultSpawnX)
  -- the one field that may be read back with another value
  apply Codes.bind hy
  apply Codes.bind (varInt_roundTrips h.defaultSpawnZ)
  apply Codes.bind (bool_roundTrips _)
  apply Codes.bind (varInt_roundTrips h.editorWorldType)
  apply Codes.bind (bool_roundTrips _)
  apply Codes.bind (bool_roundTrips _)
  apply Codes.bind (varInt_roundTrips h.dayCycleStopTime)
  apply Codes.bind (varInt_roundTrips h.educationEditionOffer)
  apply Codes.bind (bool_roundTrips _)
  apply Codes.bind (string_roundTrips h.educationProductId)
  apply Codes.bind (floatLE_roundTrips _)
  apply Codes.bind (floatLE_roundTrips _)
  apply Codes.bind (bool_roundTrips _)
  apply Codes.bind (bool_roundTrips _)
  apply Codes.bind (bool_roundTrips _)
  apply Codes.bind (varInt_roundTrips h.xboxLiveBroadcastSetting)
  apply Codes.bind (varInt_roundTrips h.platformBroadcastSetting)
  apply Codes.bind (bool_roundTrips _)
  apply Codes.bind (bool_roundTrips _)
  have hrules : gameRules.RoundTrips s.gameRules :=
    arrayType_roundTrips h.gameRules.1 fun rule hrule =>
      gameRule_roundTrips (h.gameRules.2 rule hrule)
  apply Codes.bind hrules
  apply Codes.bind he
  apply Codes.bind (bool_roundTrips _)
  apply Codes.bind (bool_roundTrips _)
  apply Codes.bind (bool_roundTrips _)
  apply Codes.bind (varInt_roundTrips h.playerPermissions)
  apply Codes.bind (intLE_roundTrips h.serverChunkTickRange)
  apply Codes.bind (bool_roundTrips _)
  apply Codes.bind (bool_roundTrips _)
  apply Codes.bind (bool_roundTrips _)
  apply Codes.bind (bool_roundTrips _)
  apply Codes.bind (bool_roundTrips _)
  apply Codes.bind (bool_roundTrips _)
  apply Codes.bind (bool_roundTrips _)
  apply Codes.bind (bool_roundTrips _)
  apply Codes.bind (bool_roundTrips _)
  apply Codes.bind (bool_roundTrips _)
  apply Codes.bind (string_roundTrips h.baseGameVersion)
  apply Codes.bind (intLE_roundTrips h.limitedWorldWidth)
  apply Codes.bind (intLE_roundTrips h.limitedWorldDepth)
  apply Codes.bind (bool_roundTrips _)
  apply Codes.bind (string_roundTrips h.eduSharedUriButtonName)
  apply Codes.bind (string_roundTrips h.eduSharedUriLinkUri)
  apply Codes.bind (optionalBool_roundTrips _)
  apply Codes.bind (byte_roundTrips h.chatRestrictionLevel)
  exact Codes.last (bool_roundTrips _) rfl

/-! ### Versions -/

theorem experiments_roundTrips {s : LevelSettings} (h : s.Canonical) :
    experiments.RoundTrips s.experiments := by
  obtain ⟨hlen, hexps⟩ := h.experiments
  exact experimentsType_roundTrips (uintLE_roundTrips ⟨by omega, by omega⟩) hexps

theorem experimentsV860_roundTrips {s : LevelSettings} (h : s.Canonical)
    (hlen : s.experiments.length < 2 ^ 31) : experimentsV860.RoundTrips s.experiments :=
  experimentsType_roundTrips (intLE_roundTrips ⟨by omega, by omega⟩) h.experiments.2

theorem levelSettingsV944_roundTrips {s : LevelSettings} (h : s.Canonical) :
    levelSettingsV944.RoundTrips s :=
  levelSettingsType_codes h (varInt_roundTrips h.defaultSpawnY) (experiments_roundTrips h)

/-- The settings with the spawn height as an unsigned field holds it. -/
def LevelSettings.unsignedSpawnY (s : LevelSettings) : LevelSettings :=
  { s with defaultSpawnY := s.defaultSpawnY % 2 ^ 32 }

/-- Heights that are written alike make for settings that are written alike. -/
theorem levelSettingsType_write_congr {yType : FieldType Int}
    {experimentsType : FieldType (List Experiment)} {s : LevelSettings} {y : Int}
    (h : yType.write y = yType.write s.defaultSpawnY) :
    (levelSettingsType yType experimentsType).write { s with defaultSpawnY := y } =
      (levelSettingsType yType experimentsType).write s := by
  simp only [levelSettingsType, h]

/-- An unsigned field does not tell a signed height from its remainder. -/
theorem levelSettings_write_unsignedSpawnY (e : FieldType (List Experiment)) (s : LevelSettings) :
    (levelSettingsType uvarInt e).write s.unsignedSpawnY = (levelSettingsType uvarInt e).write s :=
  levelSettingsType_write_congr (writeUVarint_emod s.defaultSpawnY)

/-- Neither does a signed one. -/
theorem levelSettingsV944_write_unsignedSpawnY (s : LevelSettings) :
    levelSettingsV944.write s.unsignedSpawnY = levelSettingsV944.write s :=
  levelSettingsType_write_congr (writeVarint_emod s.defaultSpawnY)

/-- An unsigned height is read back as it was written, from the signed one. -/
theorem levelSettings_unsignedSpawnY_roundTrips {e : FieldType (List Experiment)}
    {s : LevelSettings} (h : s.Canonical) (he : e.RoundTrips s.experiments) :
    (levelSettingsType uvarInt e).RoundTrips s.unsignedSpawnY := by
  rw [FieldType.RoundTrips, levelSettings_write_unsignedSpawnY]
  exact levelSettingsType_codes h (uvarInt_codes _) he

theorem levelSettingsV924_roundTrips {s : LevelSettings} (h : s.Canonical) :
    levelSettingsV924.RoundTrips s.unsignedSpawnY :=
  levelSettings_unsignedSpawnY_roundTrips h (experiments_roundTrips h)

theorem levelSettingsV860_roundTrips {s : LevelSettings} (h : s.Canonical)
    (hlen : s.experiments.length < 2 ^ 31) : levelSettingsV860.RoundTrips s.unsignedSpawnY :=
  levelSettings_unsignedSpawnY_roundTrips h (experimentsV860_roundTrips h hlen)

theorem levelSettingsV924_bytes_unsignedSpawnY (s : LevelSettings) :
    levelSettingsV924.bytes s.unsignedSpawnY = levelSettingsV924.bytes s :=
  congrArg written (levelSettings_write_unsignedSpawnY experiments s)

theorem levelSettingsV860_bytes_unsignedSpawnY (s : LevelSettings) :
    levelSettingsV860.bytes s.unsignedSpawnY = levelSettingsV860.bytes s :=
  congrArg written (levelSettings_write_unsignedSpawnY experimentsV860 s)

/-- Below `2 ^ 31` experiments, the first two versions of the settings are the same. -/
theorem levelSettingsV860_bytes_eq {s : LevelSettings} (h : s.experiments.length < 2 ^ 31) :
    levelSettingsV860.bytes s = levelSettingsV924.bytes s := by
  rw [FieldType.bytes, FieldType.bytes]
  simp only [levelSettingsV860, levelSettingsV924, levelSettingsType, experimentsV860_write_eq h]

end Endweave
