import Endweave.Codec.Types.LevelSettings
import Endweave.Codec.Types.Nbt
import Endweave.Codec.Wrapper

/-!
# The `StartGame` handlers

One `rewriteStartGame` for each protocol step.  The runs of fields that every step passes through in
the same order are shared: `passthroughEntity` before the level settings, `passthroughLevel` from
the level id to the registry checksum.
-/

namespace Endweave

open PacketWrapper

/-! ### Shared runs of fields -/

/-- Entity ID to Rotation. -/
def passthroughEntity : PacketHandler := do
  let _ ← passthrough varInt64 -- Entity ID
  let _ ← passthrough uvarInt64 -- Runtime ID
  let _ ← passthrough varInt -- Game Type
  let _ ← passthrough vec3 -- Position
  let _ ← passthrough vec2 -- Rotation

/-- Server ID, World ID, Scenario ID and Owner ID, in place. -/
def passthroughTelemetry : PacketHandler := do
  let _ ← passthrough string -- Server ID
  let _ ← passthrough string -- World ID
  let _ ← passthrough string -- Scenario ID
  let _ ← passthrough string -- Owner ID

def passthroughBlockProperty : PacketHandler := do
  let _ ← passthrough string
  let _ ← passthrough namedCompoundTag

/-- Level ID to Player Property Data, then the checksum, which is zeroed to skip validation. -/
def passthroughLevel : PacketHandler := do
  let _ ← passthrough string -- Level ID
  let _ ← passthrough string -- Level Name
  let _ ← passthrough string -- Template Content Identity
  let _ ← passthrough bool -- Is Trial?
  let _ ← passthrough varInt -- Movement Settings.RewindHistorySize
  let _ ← passthrough bool -- Movement Settings.ServerAuthBlockBreaking
  let _ ← passthrough int64LE -- Level Current Time
  let _ ← passthrough varInt -- Enchantment Seed
  let blockPropCount ← passthrough uvarInt -- Block Properties
  Wire.repeatM passthroughBlockProperty blockPropCount.toNat
  let _ ← passthrough string -- Multiplayer Correlation Id
  let _ ← passthrough bool -- Enable Item Stack Net Manager
  let _ ← passthrough string -- Server version
  let _ ← passthrough namedCompoundTag -- Player Property Data
  let _ ← PacketWrapper.read int64LE -- Server Block Type Registry Checksum
  write int64LE 0

/-- World Template ID to BlockNetworkIds Are Hashes. -/
def passthroughTemplate : PacketHandler := do
  let _ ← passthrough int64LE -- World Template ID (MSB)
  let _ ← passthrough int64LE -- World Template ID (LSB)
  let _ ← passthrough bool -- Server Enabled ClientSide Generation
  let _ ← passthrough bool -- BlockNetworkIds Are Hashes

/-! ### Upgrades -/

/-- Drop TickDeathSystemsEnabled. -/
def V860ToV898.rewriteStartGame : PacketHandler := do
  passthroughEntity
  let _ ← passthrough levelSettingsV860
  passthroughTelemetry
  passthroughLevel
  passthroughTemplate
  let _ ← PacketWrapper.read bool -- TickDeathSystemsEnabled

/-- Move the telemetry behind NetworkPermissions and an absent join information. -/
def V898ToV924.rewriteStartGame : PacketHandler := do
  passthroughEntity
  let _ ← passthrough levelSettingsV924
  let serverId ← PacketWrapper.read string
  let worldId ← PacketWrapper.read string
  let scenarioId ← PacketWrapper.read string
  let ownerId ← PacketWrapper.read string
  passthroughLevel
  passthroughTemplate
  let _ ← passthrough bool -- NetworkPermissions
  write bool false -- Does the packet contain server join information.
  write string serverId
  write string scenarioId
  write string worldId
  write string ownerId

/-- Sign the spawn height and strip the server join information. -/
def V924ToV944.rewriteStartGame : PacketHandler := do
  passthroughEntity
  let _ ← map levelSettingsV924 levelSettingsV944
  passthroughLevel
  passthroughTemplate
  let _ ← passthrough bool -- NetworkPermissions
  let hasServerJoinInfo ← passthrough bool
  if hasServerJoinInfo then do
    let hasGathering ← PacketWrapper.read bool
    if hasGathering then Wire.repeatM (discard (PacketWrapper.read string)) 7
    write bool false -- has gathering join information
    write bool false -- has client store entry point information
    write bool false -- has presence information

/-- Zero the checksum. -/
def V944ToV975.rewriteStartGame : PacketHandler := do
  passthroughEntity
  let _ ← passthrough levelSettingsV944
  passthroughLevel
  let _ ← passthroughAll

/-- Insert the three fields that v1001 adds. -/
def V975ToV1001.rewriteStartGame : PacketHandler := do
  passthroughEntity
  let settings ← PacketWrapper.read levelSettingsV944
  write levelSettingsV944 settings
  write varInt 0 -- ServerEditorConnectionPolicy
  write bool false -- AllowAnonymousBlockDropsInEditorWorlds
  passthroughLevel
  let _ ← passthrough uuid -- World Template ID
  let _ ← passthrough bool -- Client Side Generation
  let _ ← passthrough bool -- Use Block Network ID Hashes
  let _ ← passthrough bool -- Server Authoritative Sound
  write bool false -- IsLoggingChat
  let _ ← passthroughAll

/-- The clientbound handlers between a v860 server and a v1001 client. -/
def startGameUpgrades : List PacketHandler :=
  [V860ToV898.rewriteStartGame, V898ToV924.rewriteStartGame, V924ToV944.rewriteStartGame,
    V944ToV975.rewriteStartGame, V975ToV1001.rewriteStartGame]

/-! ### Downgrades -/

/-- Insert TickDeathSystemsEnabled. -/
def V898ToV860.rewriteStartGame : PacketHandler := do
  passthroughEntity
  let _ ← passthrough levelSettingsV860
  passthroughTelemetry
  passthroughLevel
  passthroughTemplate
  write bool false -- TickDeathSystemsEnabled

/-- Unsign the spawn height and strip the server join information of v944. -/
def V944ToV924.rewriteStartGame : PacketHandler := do
  passthroughEntity
  let _ ← map levelSettingsV944 levelSettingsV924
  passthroughLevel
  passthroughTemplate
  let _ ← passthrough bool -- NetworkPermissions
  let hasServerJoinInfo ← passthrough bool
  if hasServerJoinInfo then do
    let _ ← PacketWrapper.read bool -- has gathering join information
    let _ ← PacketWrapper.read bool -- has client store entry point information
    let _ ← PacketWrapper.read bool -- has presence information
    write bool false -- has gathering (v924 form)

/-- Strip the server join information, of which only the first flag is read. -/
def V924ToV898.skipJoinInfo : PacketHandler := do
  let hasServerJoinInfo ← PacketWrapper.read bool
  if hasServerJoinInfo then discard (PacketWrapper.read bool)

/-- Move the telemetry back in front of the level id. -/
def V924ToV898.rewriteStartGame : PacketHandler := do
  passthroughEntity
  let _ ← passthrough levelSettingsV924
  let levelId ← PacketWrapper.read string
  let levelName ← PacketWrapper.read string
  let premiumWorldTemplateId ← PacketWrapper.read string
  let isTrial ← PacketWrapper.read bool
  let rewindHistorySize ← PacketWrapper.read varInt
  let serverAuthBlockBreaking ← PacketWrapper.read bool
  let currentTick ← PacketWrapper.read int64LE
  let enchantmentSeed ← PacketWrapper.read varInt
  let blockPropertyCount ← PacketWrapper.read uvarInt
  let blockProperties ← Wire.collect (do
    let name ← PacketWrapper.read string
    let data ← PacketWrapper.read namedCompoundTag
    pure (name, data)) blockPropertyCount.toNat
  let multiplayerCorrelationId ← PacketWrapper.read string
  let inventoriesServerAuthoritative ← PacketWrapper.read bool
  let serverEngine ← PacketWrapper.read string
  let playerPropertyData ← PacketWrapper.read namedCompoundTag
  let _ ← PacketWrapper.read int64LE -- Server Block Type Registry Checksum
  let worldTemplateIdMsb ← PacketWrapper.read int64LE
  let worldTemplateIdLsb ← PacketWrapper.read int64LE
  let clientSideGenerationEnabled ← PacketWrapper.read bool
  let blockNetworkIdsHashed ← PacketWrapper.read bool
  let networkPermissions ← PacketWrapper.read bool
  V924ToV898.skipJoinInfo
  let serverId ← PacketWrapper.read string
  let scenarioId ← PacketWrapper.read string
  let worldId ← PacketWrapper.read string
  let ownerId ← PacketWrapper.read string
  write string serverId
  write string worldId
  write string scenarioId
  write string ownerId
  write string levelId
  write string levelName
  write string premiumWorldTemplateId
  write bool isTrial
  write varInt rewindHistorySize
  write bool serverAuthBlockBreaking
  write int64LE currentTick
  write varInt enchantmentSeed
  write uvarInt blockProperties.length
  Wire.each (fun blockProperty => do
    write string blockProperty.1
    write namedCompoundTag blockProperty.2) blockProperties
  write string multiplayerCorrelationId
  write bool inventoriesServerAuthoritative
  write string serverEngine
  write namedCompoundTag playerPropertyData
  write int64LE 0
  write int64LE worldTemplateIdMsb
  write int64LE worldTemplateIdLsb
  write bool clientSideGenerationEnabled
  write bool blockNetworkIdsHashed
  write bool networkPermissions

end Endweave
