import Endweave.Protocol.PacketFormat
import Endweave.Protocol.Handlers.Commands
import Endweave.Protocol.Packets.Animate
import Endweave.Protocol.Packets.AttributeLayerSync
import Endweave.Protocol.Packets.AvailableCommands
import Endweave.Protocol.Packets.BiomeDefinitionList
import Endweave.Protocol.Packets.BossEvent
import Endweave.Protocol.Packets.Camera
import Endweave.Protocol.Packets.CameraAimAssist
import Endweave.Protocol.Packets.ChunkRequests
import Endweave.Protocol.Packets.CommandOutput
import Endweave.Protocol.Packets.CraftingData
import Endweave.Protocol.Packets.DataStore
import Endweave.Protocol.Packets.DebugDrawer
import Endweave.Protocol.Packets.ItemStack
import Endweave.Protocol.Packets.LocatorBar
import Endweave.Protocol.Packets.ServerboundBlockPos
import Endweave.Protocol.Packets.StartGame
import Endweave.Protocol.Packets.Text

/-!
# The formats of the packets with grammars of their own

The data are the fields of a grammar, and the bytes behind them where the handlers leave those as
they are.
-/

namespace Endweave

open StartGame Wire

/-! ### StartGame -/

deriving instance DecidableEq for AddedV1001

/-- The packet with what only some versions have.  There is no gathering information, and in v944 no
information about a store entry or a presence either: the steps do not read what v944 has there. -/
structure StartGameData where
  packet : StartGame
  tickDeathSystemsEnabled : Bool
  hasServerJoinInfo : Bool
  added : AddedV1001

namespace StartGameData

def joinInfo (d : StartGameData) : JoinInfo := if d.hasServerJoinInfo then some none else none

def zeroChecksum (d : StartGameData) : StartGameData := { d with packet := d.packet.zeroChecksum }

structure Canonical (d : StartGameData) : Prop where
  packet : d.packet.Canonical
  experiments : d.packet.settings.experiments.length < 2 ^ 31

def format : PacketFormat where
  Data := StartGameData
  direction := .clientbound
  packetId := PacketId.startGame
  changes := [898, 924, 944, 1001]
  form
    | 0, d => d.packet.encodeV860 d.tickDeathSystemsEnabled
    | 1, d => d.packet.encodeV898
    | 2, d => d.packet.encodeV924 d.joinInfo
    | 3, d => d.packet.encodeV944 d.hasServerJoinInfo
    | _, d => d.packet.encodeV1001 d.added d.hasServerJoinInfo
  Canonical := Canonical
  since d :=
    if d.added = ⟨0, false, false⟩ then if d.hasServerJoinInfo = false then 859 else 924 else 1001
  upTo d := if d.tickDeathSystemsEnabled = false then 1001 else 860

end StartGameData

/-! ### Texts and commands -/

def TextPacket.format : PacketFormat where
  Data := TextPacket
  direction := .clientbound
  packetId := PacketId.text
  changes := [898, 924]
  form
    | 0, p => p.bytesV860
    | 1, p => p.bytesV898
    | _, p => p.bytesV924
  Canonical := TextPacket.Canonical

/-- The client's texts are the same. -/
def TextPacket.clientFormat : PacketFormat := { TextPacket.format with direction := .serverbound }

def CommandOutput.format : PacketFormat where
  Data := CommandOutput × List UInt8
  direction := .clientbound
  packetId := PacketId.commandOutput
  changes := [898]
  form
    | 0, p => p.1.bytesV860 ++ p.2
    | _, p => p.1.bytesV898 ++ p.2
  Canonical p := p.1.Canonical

/-- The indices fit the widths of v860. -/
def AvailableCommands.format : PacketFormat where
  Data := AvailableCommands
  direction := .clientbound
  packetId := PacketId.availableCommands
  changes := [898]
  form
    | 0, p => availableCommandsV860.bytes p
    | _, p => availableCommandsV898.bytes p
  Canonical := AvailableCommands.CanonicalV860

/-- A command of a client.  Its version is a number in v860 and a name in v898. -/
structure CommandRequest (V : Type) where
  command : String
  origin : CommandOrigin
  isInternal : Bool
  version : V
deriving Repr, DecidableEq

/-- The origin that v860 is told: a player, with the same request. -/
def CommandOrigin.asPlayer (o : CommandOrigin) : CommandOrigin :=
  { o with originType := 0, playerId := -1 }

namespace CommandRequest

variable {V : Type}

def bytes (origin : FieldType CommandOrigin) (version : FieldType V) (p : CommandRequest V) :
    List UInt8 :=
  string.bytes p.command ++ (origin.bytes p.origin ++ (bool.bytes p.isInternal ++
    version.bytes p.version))

/-- The request as v860 gets it. -/
def toV860 (p : CommandRequest String) : CommandRequest Int :=
  { p with origin := p.origin.asPlayer, version := cloneExtraBlockFilterFix }

/-- The request as v898 gets it. -/
def toV898 (p : CommandRequest Int) : CommandRequest String := { p with version := "latest" }

structure Canonical (p : CommandRequest String) : Prop where
  command : FitsString p.command
  origin : p.origin.CanonicalV898
  version : FitsString p.version

structure CanonicalV860 (p : CommandRequest Int) : Prop where
  command : FitsString p.command
  origin : p.origin.Canonical
  version : InInt32 p.version

/-- The commands of clients from v898 on.  Whatever their origin and version, v860 gets them as
those of a player and of one version. -/
def format : PacketFormat where
  Data := CommandRequest String
  direction := .serverbound
  packetId := PacketId.commandRequest
  changes := [898]
  form
    | 0, p => p.toV860.bytes commandOriginV860 varInt
    | _, p => p.bytes commandOriginV898 string
  Canonical := Canonical
  since _ := 898

/-- The commands of clients up to v860.  Whatever their version, v898 gets them as those of the
latest one. -/
def formatV860 : PacketFormat where
  Data := CommandRequest Int
  direction := .serverbound
  packetId := PacketId.commandRequest
  changes := [898]
  form
    | 0, p => p.bytes commandOriginV860 varInt
    | _, p => p.toV898.bytes commandOriginV898 string
  Canonical := CanonicalV860
  upTo _ := 860

end CommandRequest

/-! ### Data stores -/

/-- v898 has the packet; the count of path updates is 0.  The trees leave room for the calls that
the interpreter is already in. -/
def DataStoreAction.format : PacketFormat where
  Data := List DataStoreAction × List UInt8
  direction := .clientbound
  packetId := PacketId.clientboundDataStore
  changes := [924]
  form
    | 0, p => clientboundDataStoreBytes [] p.1 ++ p.2
    | _, p => clientboundDataStoreBytes (intLE.bytes 0) p.1 ++ p.2
  Canonical p := FitsList DataStoreAction.Canonical p.1 ∧ ∀ action ∈ p.1, action.depth ≤ 900
  firstVersion := 898

def PropertyUpdate.format : PacketFormat where
  Data := PropertyUpdate × List UInt8
  direction := .serverbound
  packetId := PacketId.serverboundDataStore
  changes := [924]
  form
    | 0, p => p.1.bytes [] ++ p.2
    | _, p => p.1.bytes (intLE.bytes 0) ++ p.2
  Canonical p := p.1.Canonical
  firstVersion := 898

/-! ### Biomes and debug shapes -/

/-- Only v924 has village types.  v1001 has a generation of chunks of its own, which no step
translates to. -/
def BiomeDefinitionList.format : PacketFormat where
  Data := BiomeDefinitionList × List UInt8
  direction := .clientbound
  packetId := PacketId.biomeDefinitionList
  changes := [924]
  form
    | 0, p => biomeDefinitionListV898.bytes p.1 ++ p.2
    | _, p => biomeDefinitionListV924.bytes p.1 ++ p.2
  Canonical p := BiomeDefinitionList.CanonicalV924 p.1
  since p := if BiomeDefinitionList.withoutVillages p.1 = p.1 then 859 else 924
  coveredUpTo := 975

/-- The shapes up to v944; only v924 attaches them to entities.  v975 has other ones, and the step
there cancels the packet. -/
def DebugDrawer.format : PacketFormat where
  Data := DebugDrawer × List UInt8
  direction := .clientbound
  packetId := PacketId.serverScriptDebugDrawer
  changes := [924]
  form
    | 0, p => DebugDrawer.bytesV898 p.1 ++ p.2
    | _, p => DebugDrawer.bytesV924 p.1 ++ p.2
  Canonical p := DebugDrawer.CanonicalV924 p.1
  since p := if DebugDrawer.detached p.1 = p.1 then 859 else 924
  lastVersion := 944

/-! ### Animations and boss bars -/

namespace AnimateV898

/-- v860 has no swing source. -/
def toV860 (p : AnimateV898) : AnimateV860 where
  action := p.action
  targetRuntimeId := p.targetRuntimeId
  data := p.data
  rowingTime := none

/-- The animations without the flag for rowing: v860 has the time of the rowing there, which no step
writes. -/
def format : PacketFormat where
  Data := AnimateV898
  direction := .clientbound
  packetId := PacketId.animate
  changes := [898]
  form
    | 0, p => animateV860.bytes p.toV860
    | _, p => animateV898.bytes p
  Canonical p := p.Canonical ∧ ¬ Rows p.action
  since p := if p.swingSource = none then 859 else 898

/-- The client's animations are the same. -/
def clientFormat : PacketFormat := { format with direction := .serverbound }

end AnimateV898

def BossEvent.format : PacketFormat where
  Data := BossEvent
  direction := .clientbound
  packetId := PacketId.bossEvent
  changes := [1001]
  form
    | 0, p => p.bytes
    | _, p => p.flatBytes
  Canonical := BossEvent.Canonical

/-- v1001 has no screen darkening that could reach the server. -/
def BossEvent.clientFormat : PacketFormat where
  Data := BossEvent
  direction := .serverbound
  packetId := PacketId.bossEvent
  changes := [1001]
  form
    | 0, p => p.withoutDarkening.bytes
    | _, p => p.flatBytes
  Canonical := BossEvent.Canonical

/-! ### Cameras -/

namespace SplineInstruction

/-- v944 has the identifier and the flag, v924 the easings. -/
def since (s : SplineInstruction) : Int :=
  if s.splineIdentifier = "" ∧ s.loadFromJson = false then
    if (∀ kf ∈ s.progressKeyFrames, kf.easing = defaultEasing) ∧
        ∀ rkf ∈ s.rotationKeyFrames, rkf.easing = defaultEasing then 859
    else 924
  else 944

end SplineInstruction

def cameraInstructionFormat : PacketFormat where
  Data := CameraInstruction × List UInt8
  direction := .clientbound
  packetId := PacketId.cameraInstruction
  changes := [924, 944]
  form
    | 0, p => cameraInstructionV898.bytes p.1 ++ p.2
    | 1, p => (cameraInstructionType splineInstructionV924).bytes p.1 ++ p.2
    | _, p => (cameraInstructionType splineInstructionV944).bytes p.1 ++ p.2
  Canonical p := p.1.Canonical ∧ FitsOption SplineInstruction.CanonicalV944 p.1.spline
  since p := (p.1.spline.map SplineInstruction.since).getD 859

/-- v924 has the packet. -/
def cameraSplineFormat : PacketFormat where
  Data := List (String × SplineInstruction) × List UInt8
  direction := .clientbound
  packetId := PacketId.cameraSpline
  changes := [944]
  form
    | 0, p => cameraSplineV924.bytes p.1 ++ p.2
    | _, p => (cameraSplineType splineInstructionV944).bytes p.1 ++ p.2
  Canonical p := FitsList (fun spline => FitsString spline.1 ∧ spline.2.CanonicalV944) p.1
  since p :=
    if ∀ spline ∈ p.1, spline.2.splineIdentifier = "" ∧ spline.2.loadFromJson = false then 859
    else 944
  firstVersion := 924

/-- v898 has added block tags, and two more lists of exclusions.  The step from v860 does not take
categories for what they are, so that only packets without any are taken to come from there. -/
def AimAssistFamilies.format : PacketFormat where
  Data := AimAssistFamilies × List UInt8
  direction := .clientbound
  packetId := PacketId.cameraAimAssistPresets
  changes := [898, 924]
  form
    | 0, p => p.1.dropFamilies.bytesV860 ++ p.2
    | 1, p => cameraAimAssistPresets.bytes p.1.dropFamilies ++ p.2
    | _, p => p.1.bytes ++ p.2
  Canonical p := p.1.Canonical
  since p := max (if p.1.OnlyMerged then 859 else 898) (if p.1.NoFamilies then 859 else 924)

/-! ### Waypoints and attribute layers -/

/-- v944 has the packet; there are no icons in v975. -/
def Waypoint.format : PacketFormat where
  Data := List (Waypoint (Option Int)) × List UInt8
  direction := .clientbound
  packetId := PacketId.locatorBar
  changes := [975]
  form
    | 0, p => locatorBarV944.bytes p.1 ++ p.2
    | _, p => locatorBarV975.bytes (p.1.map Waypoint.toV975) ++ p.2
  Canonical p := FitsList Waypoint.Canonical p.1
  firstVersion := 944

/-- A payload that is not there. -/
def noPayload : FieldType Empty where
  read := throw .indexError
  write := nofun

/-- v944 has the packet.  Only the payloads with settings change. -/
def AttributeLayerSync.format : PacketFormat where
  Data := AttributeLayerSync SwitchedSettings Empty Empty × List UInt8
  direction := .clientbound
  packetId := PacketId.clientboundAttributeLayerSync
  changes := [975]
  form
    | 0, p => (attributeLayerSync switchedSettings noPayload noPayload).bytes p.1 ++ p.2
    | _, p =>
      (attributeLayerSync attributeLayerSettingsV975 noPayload noPayload).bytes p.1.toV975 ++ p.2
  Canonical p := AttributeLayerSync.Canonical noPayload noPayload p.1
  firstVersion := 944

/-! ### Block positions -/

/-- A packet of the server.  v975 has an optional handle behind a sound, which is absent.  The
instruments of note blocks are those of v924: v944 has four more, 16 to 19. -/
def BlockPosPacket.format (k : BlockPosPacket) : PacketFormat where
  Data := k.Data × List UInt8
  direction := .clientbound
  packetId := k.packetId
  changes := if k = playSound then [944, 975] else [944]
  form
    | 0, p => (k.type networkBlockPos).bytes p.1 ++ p.2
    | 1, p => (k.type blockPos).bytes (k.upgrade p.1) ++ p.2
    | _, p => (k.type blockPos).bytes (k.upgrade p.1) ++ p.2 ++ bool.bytes false
  Canonical p := k.Canonical p.1

/-- A packet of the client other than a transaction, which changes in v1001 again. -/
def ClientBlockPosPacket.format (k : ClientBlockPosPacket) : PacketFormat where
  Data := k.Data × List UInt8
  direction := .serverbound
  packetId := k.packetId
  changes := [944]
  form
    | 0, p => k.bytes networkBlockPos p.1 ++ p.2
    | _, p => k.bytes blockPos p.1 ++ p.2
  Canonical p := k.Canonical p.1

/-! ### Items -/

def MobEquipment.format : PacketFormat where
  Data := MobEquipment × List UInt8
  direction := .clientbound
  packetId := PacketId.playerEquipment
  changes := [975]
  form
    | 0, p => mobEquipmentV944.bytes p.1 ++ p.2
    | _, p => mobEquipmentV975.bytes p.1.upgrade ++ p.2
  Canonical p := p.1.Canonical

/-- The client's equipment is the same. -/
def MobEquipment.clientFormat : PacketFormat :=
  { MobEquipment.format with direction := .serverbound }

def InventorySlotV944.format : PacketFormat where
  Data := InventorySlotV944 × List UInt8
  direction := .clientbound
  packetId := PacketId.inventorySlot
  changes := [975]
  form
    | 0, p => inventorySlotV944.bytes p.1 ++ p.2
    | _, p => inventorySlotV975.bytes p.1.upgrade ++ p.2
  Canonical p := p.1.Canonical

def InventoryContent.format : PacketFormat where
  Data := InventoryContent × List UInt8
  direction := .clientbound
  packetId := PacketId.inventoryContent
  changes := [1001]
  form
    | 0, p => inventoryContentV975.bytes p.1 ++ p.2
    | _, p => inventoryContentV1001.bytes p.1.upgrade ++ p.2
  Canonical p := p.1.Canonical

def MobArmourEquipment.format : PacketFormat where
  Data := MobArmourEquipment × List UInt8
  direction := .clientbound
  packetId := PacketId.mobArmorEquipment
  changes := [1001]
  form
    | 0, p => mobArmourEquipmentV975.bytes p.1 ++ p.2
    | _, p => mobArmourEquipmentV1001.bytes p.1.upgrade ++ p.2
  Canonical p := p.1.Canonical

/-! ### Transactions -/

namespace V975ToV1001

/-- What a transaction type has of a position. -/
def TransactionData.body : TransactionData → TransactionBody
  | plain transactionType isPlain => .other transactionType isPlain.1
  | useItem data => .useItem
    { actionType := data.actionType
      triggerType := data.triggerType
      blockPosition := data.blockPosition
      blockFace := data.blockFace
      hotBarSlot := data.hotBarSlot
      heldItem := data.heldItem
      position := data.position
      clickedPosition := data.clickedPosition
      blockRuntimeId := data.blockRuntimeId
      clientPrediction := data.clientPrediction }
  | useItemOnEntity _ =>
    .other ComplexInventoryTransactionType.itemUseOnEntityTransaction.value (by decide)
  | releaseItem _ =>
    .other ComplexInventoryTransactionType.itemReleaseTransaction.value (by decide)

def TransactionData.cooldownState : TransactionData → Int
  | useItem data => data.clientCooldownState
  | plain _ _ | useItemOnEntity _ | releaseItem _ => 0

/-- The data of the types without a position. -/
def TransactionData.rest : TransactionData → List UInt8
  | useItemOnEntity data => data.bytesV975
  | releaseItem data => data.bytesV975
  | plain _ _ | useItem _ => []

namespace InventoryTransaction

def toItemTransaction (p : InventoryTransaction) : ItemTransaction := { p with body := p.data.body }

/-- The wire of v924, without the cooldown state. -/
def bytesV924 (p : InventoryTransaction) : List UInt8 :=
  p.toItemTransaction.bytes networkBlockPos ++ p.data.rest

/-- The transactions of the client. -/
def format : PacketFormat where
  Data := InventoryTransaction
  direction := .serverbound
  packetId := PacketId.inventoryTransaction
  changes := [944, 1001]
  form
    | 0, p => p.bytesV924
    | 1, p => p.bytesV975
    | _, p => p.bytesV1001
  Canonical := Canonical
  since p := if p.data.cooldownState = 0 then 859 else 944

/-- The transactions of the server.  No step translates the block position of an item use for them,
so that these are left out. -/
def serverFormat : PacketFormat where
  Data := InventoryTransaction
  direction := .clientbound
  packetId := PacketId.inventoryTransaction
  changes := [1001]
  form
    | 0, p => p.bytesV975
    | _, p => p.bytesV1001
  Canonical p := p.Canonical ∧
    p.data.transactionType ≠ ComplexInventoryTransactionType.itemUseTransaction.value

end InventoryTransaction

end V975ToV1001

/-! ### Recipes -/

/-- The recipes, and the potions and materials behind them.  v975 has the recipes of furnaces as
shapeless ones. -/
def CraftingData.format (uuid5 : String → BitVec 128) : PacketFormat where
  Data := List CraftingDataEntry × List UInt8
  direction := .clientbound
  packetId := PacketId.craftingData
  changes := [975]
  form
    | 0, p => (arrayType craftingDataEntry).bytes p.1 ++ p.2
    | _, p => (arrayType craftingDataEntry).bytes (V944ToV975.convertEntries uuid5 p.1) ++ p.2
  Canonical p := CraftingData.Canonical p.1

/-! ### Requests of the client -/

def SubChunkRequest.format : PacketFormat where
  Data := SubChunkRequest × List UInt8
  direction := .serverbound
  packetId := PacketId.subChunkRequest
  changes := [1001]
  form
    | 0, p => p.1.bytesV975 ++ p.2
    | _, p => p.1.bytesV1001 ++ p.2
  Canonical p := p.1.Canonical

def ClientCacheBlobStatus.format : PacketFormat where
  Data := ClientCacheBlobStatus × List UInt8
  direction := .serverbound
  packetId := PacketId.clientCacheBlobStatus
  changes := [1001]
  form
    | 0, p => p.1.bytesV975 ++ p.2
    | _, p => p.1.bytesV1001 ++ p.2
  Canonical p := p.1.Canonical

end Endweave
