import Mathlib.Data.Int.Notation

/-!
# Packet ids

The ids of the packets that the modelled protocols register.
-/

namespace Endweave.PacketId

def login : Int := 1
def resourcePackStack : Int := 7
def text : Int := 9
def startGame : Int := 11
def addPlayer : Int := 12
def addActor : Int := 13
def addItemActor : Int := 15
def updateBlock : Int := 21
def tileEvent : Int := 26
def actorEvent : Int := 27
def mobEffect : Int := 28
def inventoryTransaction : Int := 30
def playerEquipment : Int := 31
def mobArmorEquipment : Int := 32
def interact : Int := 33
def playerAction : Int := 36
def setActorData : Int := 39
def setSpawnPosition : Int := 43
def animate : Int := 44
def containerOpen : Int := 46
def inventoryContent : Int := 49
def inventorySlot : Int := 50
def craftingData : Int := 52
def blockActorData : Int := 56
def fullChunkData : Int := 58
def legacyTelemetryEvent : Int := 65
def mapData : Int := 67
def bossEvent : Int := 74
def availableCommands : Int := 76
def commandRequest : Int := 77
def commandBlockUpdate : Int := 78
def commandOutput : Int := 79
def playSound : Int := 86
def structureBlockUpdate : Int := 90
def bookEdit : Int := 97
def updateBlockSynced : Int := 110
def biomeDefinitionList : Int := 122
def levelSoundEvent : Int := 123
def lecternUpdate : Int := 125
def structureTemplateDataExportRequest : Int := 132
def clientCacheBlobStatus : Int := 135
def anvilDamage : Int := 141
def playerEnchantOptions : Int := 146
def packetViolationWarning : Int := 156
def addVolumeEntity : Int := 166
def updateSubChunkBlocks : Int := 172
def subChunkRequest : Int := 175
def editorNetwork : Int := 190
def requestNetworkSettings : Int := 193
def playerClientInputPermissions : Int := 196
def cameraInstruction : Int := 300
def openSign : Int := 303
def serverboundDiagnostics : Int := 315
def cameraAimAssistPresets : Int := 320
def clientMovementPredictionSync : Int := 322
def updateClientOptions : Int := 323
def serverScriptDebugDrawer : Int := 328
def clientboundDataStore : Int := 330
def graphicsParameterOverride : Int := 331
def serverboundDataStore : Int := 332
def clientboundDataDrivenUiShowScreen : Int := 333
def clientboundDataDrivenUiCloseAllScreens : Int := 334
def clientboundDataDrivenUiReload : Int := 335
def clientboundTextureShift : Int := 336
def voxelShapes : Int := 337
def cameraSpline : Int := 338
def cameraAimAssistActorPriority : Int := 339
def resourcePacksReadyForValidation : Int := 340
def locatorBar : Int := 341
def partyChanged : Int := 342
def serverboundDataDrivenScreenClosed : Int := 343
def syncWorldClocks : Int := 344
def clientboundAttributeLayerSync : Int := 345

end Endweave.PacketId
