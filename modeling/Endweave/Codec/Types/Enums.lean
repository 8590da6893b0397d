import Endweave.Lib.OrderedDict
import Mathlib.Data.Int.Notation

/-!
# Protocol enums

The members, values and names of the enums that the modelled handlers use, and the labels under
which v898 writes some of them.
-/

namespace Endweave

/-- `name.replace("_", "").lower()`. -/
def toLabel (name : String) : String :=
  String.ofList ((name.toList.filter fun c => c != '_').map Char.toLower)

/-- Build value -> lowercase label lookup for an enum that v898 writes as a string. -/
def enumToLabel {ε : Type} (members : List ε) (value : ε → Int) (name : ε → String) :
    OrderedDict Int String :=
  members.map fun m => (value m, toLabel (name m))

/-- Build lowercase label -> value lookup for an enum that v898 writes as a string. -/
def labelToEnum {ε : Type} (members : List ε) (value : ε → Int) (name : ε → String) :
    OrderedDict String Int :=
  members.map fun m => (toLabel (name m), value m)

/-! ### Text -/

inductive TextPacketType where
  | raw
  | chat
  | translate
  | popup
  | jukeboxPopup
  | tip
  | systemMessage
  | whisper
  | announcement
  | textObjectWhisper
  | textObject
  | textObjectAnnouncement
deriving Repr, DecidableEq

namespace TextPacketType

def value : TextPacketType → Int
  | raw => 0
  | chat => 1
  | translate => 2
  | popup => 3
  | jukeboxPopup => 4
  | tip => 5
  | systemMessage => 6
  | whisper => 7
  | announcement => 8
  | textObjectWhisper => 9
  | textObject => 10
  | textObjectAnnouncement => 11

def name : TextPacketType → String
  | raw => "RAW"
  | chat => "CHAT"
  | translate => "TRANSLATE"
  | popup => "POPUP"
  | jukeboxPopup => "JUKEBOX_POPUP"
  | tip => "TIP"
  | systemMessage => "SYSTEM_MESSAGE"
  | whisper => "WHISPER"
  | announcement => "ANNOUNCEMENT"
  | textObjectWhisper => "TEXT_OBJECT_WHISPER"
  | textObject => "TEXT_OBJECT"
  | textObjectAnnouncement => "TEXT_OBJECT_ANNOUNCEMENT"

/-- `enum_to_label` at a member. -/
def label (t : TextPacketType) : String := toLabel t.name

end TextPacketType

inductive TextPacketBodyType where
  | messageOnly
  | authorAndMessage
  | messageAndParams
deriving Repr, DecidableEq

def TextPacketBodyType.value : TextPacketBodyType → Int
  | messageOnly => 0
  | authorAndMessage => 1
  | messageAndParams => 2

/-! ### Interaction -/

inductive InteractAction where
  | invalid
  | stopRiding
  | interactUpdate
  | npcOpen
  | openInventory
deriving Repr, DecidableEq

def InteractAction.value : InteractAction → Int
  | invalid => 0
  | stopRiding => 3
  | interactUpdate => 4
  | npcOpen => 5
  | openInventory => 6

inductive BookEditActionType where
  | replacePage
  | addPage
  | deletePage
  | swapPages
  | finalize
deriving Repr, DecidableEq

def BookEditActionType.value : BookEditActionType → Int
  | replacePage => 0
  | addPage => 1
  | deletePage => 2
  | swapPages => 3
  | finalize => 4

/-! ### Ids that versions have shifted -/

/-- The ids in front of which each version has inserted sounds. -/
inductive LevelSoundEvent where
  | undefinedV860
  | undefinedV898
  | undefinedV924
  | undefinedV944
deriving Repr, DecidableEq

def LevelSoundEvent.value : LevelSoundEvent → Int
  | undefinedV860 => 566
  | undefinedV898 => 578
  | undefinedV924 => 597
  | undefinedV944 => 599

inductive ActorEvent where
  | kineticDamageDealt
deriving Repr, DecidableEq

def ActorEvent.value : ActorEvent → Int
  | kineticDamageDealt => 80

inductive NoteBlockInstrument where
  | trumpet
deriving Repr, DecidableEq

def NoteBlockInstrument.value : NoteBlockInstrument → Int
  | trumpet => 16

/-! ### Actor data -/

inductive ActorDataIDs where
  | heartbeatSoundEvent
deriving Repr, DecidableEq

def ActorDataIDs.value : ActorDataIDs → Int
  | heartbeatSoundEvent => 126

inductive DataItemType where
  | byte
  | short
  | int
  | float
  | string
  | compoundTag
  | pos
  | int64
  | vec3
deriving Repr, DecidableEq

def DataItemType.value : DataItemType → Int
  | byte => 0
  | short => 1
  | int => 2
  | float => 3
  | string => 4
  | compoundTag => 5
  | pos => 6
  | int64 => 7
  | vec3 => 8

/-! ### Maps -/

inductive ClientboundMapItemDataType where
  | textureUpdate
  | decorationUpdate
  | creation
deriving Repr, DecidableEq

def ClientboundMapItemDataType.value : ClientboundMapItemDataType → Int
  | textureUpdate => 2
  | decorationUpdate => 4
  | creation => 8

inductive MapItemTrackedActorType where
  | entity
  | blockEntity
deriving Repr, DecidableEq

def MapItemTrackedActorType.value : MapItemTrackedActorType → Int
  | entity => 0
  | blockEntity => 1

/-! ### Crafting -/

inductive CraftingDataEntryType where
  | shapelessRecipe
  | shapedRecipe
  | furnaceRecipe
  | furnaceAuxRecipe
  | multiRecipe
  | userDataShapelessRecipe
  | shapelessChemistryRecipe
  | shapedChemistryRecipe
  | smithingTransformRecipe
  | smithingTrimRecipe
  | count
deriving Repr, DecidableEq

namespace CraftingDataEntryType

def value : CraftingDataEntryType → Int
  | shapelessRecipe => 0
  | shapedRecipe => 1
  | furnaceRecipe => 2
  | furnaceAuxRecipe => 3
  | multiRecipe => 4
  | userDataShapelessRecipe => 5
  | shapelessChemistryRecipe => 6
  | shapedChemistryRecipe => 7
  | smithingTransformRecipe => 8
  | smithingTrimRecipe => 9
  | count => 10

def members : List CraftingDataEntryType :=
  [shapelessRecipe, shapedRecipe, furnaceRecipe, furnaceAuxRecipe, multiRecipe,
    userDataShapelessRecipe, shapelessChemistryRecipe, shapedChemistryRecipe,
    smithingTransformRecipe, smithingTrimRecipe, count]

end CraftingDataEntryType

/-! ### Commands -/

inductive CommandPermissionLevel where
  | any
  | gameDirectors
  | admin
  | host
  | owner
  | internal
deriving Repr, DecidableEq

namespace CommandPermissionLevel

def value : CommandPermissionLevel → Int
  | any => 0
  | gameDirectors => 1
  | admin => 2
  | host => 3
  | owner => 4
  | internal => 5

def name : CommandPermissionLevel → String
  | any => "ANY"
  | gameDirectors => "GAME_DIRECTORS"
  | admin => "ADMIN"
  | host => "HOST"
  | owner => "OWNER"
  | internal => "INTERNAL"

def members : List CommandPermissionLevel := [any, gameDirectors, admin, host, owner, internal]

end CommandPermissionLevel

inductive CommandOriginType where
  | player
  | commandBlock
  | minecartCommandBlock
  | devConsole
  | test
  | automationPlayer
  | clientAutomation
  | dedicatedServer
  | entity
  | virtual
  | gameArgument
  | entityServer
  | precompiled
  | gameDirectorEntityServer
  | scripting
  | executeContext
deriving Repr, DecidableEq

namespace CommandOriginType

def value : CommandOriginType → Int
  | player => 0
  | commandBlock => 1
  | minecartCommandBlock => 2
  | devConsole => 3
  | test => 4
  | automationPlayer => 5
  | clientAutomation => 6
  | dedicatedServer => 7
  | entity => 8
  | virtual => 9
  | gameArgument => 10
  | entityServer => 11
  | precompiled => 12
  | gameDirectorEntityServer => 13
  | scripting => 14
  | executeContext => 15

def name : CommandOriginType → String
  | player => "PLAYER"
  | commandBlock => "COMMAND_BLOCK"
  | minecartCommandBlock => "MINECART_COMMAND_BLOCK"
  | devConsole => "DEV_CONSOLE"
  | test => "TEST"
  | automationPlayer => "AUTOMATION_PLAYER"
  | clientAutomation => "CLIENT_AUTOMATION"
  | dedicatedServer => "DEDICATED_SERVER"
  | entity => "ENTITY"
  | virtual => "VIRTUAL"
  | gameArgument => "GAME_ARGUMENT"
  | entityServer => "ENTITY_SERVER"
  | precompiled => "PRECOMPILED"
  | gameDirectorEntityServer => "GAME_DIRECTOR_ENTITY_SERVER"
  | scripting => "SCRIPTING"
  | executeContext => "EXECUTE_CONTEXT"

def members : List CommandOriginType :=
  [player, commandBlock, minecartCommandBlock, devConsole, test, automationPlayer,
    clientAutomation, dedicatedServer, entity, virtual, gameArgument, entityServer, precompiled,
    gameDirectorEntityServer, scripting, executeContext]

end CommandOriginType

inductive CommandOutputType where
  | none
  | lastOutput
  | silent
  | allOutput
  | dataSet
deriving Repr, DecidableEq

namespace CommandOutputType

def value : CommandOutputType → Int
  | none => 0
  | lastOutput => 1
  | silent => 2
  | allOutput => 3
  | dataSet => 4

def name : CommandOutputType → String
  | none => "NONE"
  | lastOutput => "LAST_OUTPUT"
  | silent => "SILENT"
  | allOutput => "ALL_OUTPUT"
  | dataSet => "DATA_SET"

def members : List CommandOutputType := [none, lastOutput, silent, allOutput, dataSet]

end CommandOutputType

/-! ### Attribute layers -/

inductive AttributeLayerSyncPayloadType where
  | updateLayers
  | updateSettings
  | updateEnvironment
  | removeEnvironment
deriving Repr, DecidableEq

namespace AttributeLayerSyncPayloadType

def value : AttributeLayerSyncPayloadType → Int
  | updateLayers => 0
  | updateSettings => 1
  | updateEnvironment => 2
  | removeEnvironment => 3

def members : List AttributeLayerSyncPayloadType :=
  [updateLayers, updateSettings, updateEnvironment, removeEnvironment]

end AttributeLayerSyncPayloadType

inductive AttributeLayerWeightType where
  | float
  | string
deriving Repr, DecidableEq

namespace AttributeLayerWeightType

def value : AttributeLayerWeightType → Int
  | float => 0
  | string => 1

def members : List AttributeLayerWeightType := [float, string]

end AttributeLayerWeightType

inductive AttributeDataType where
  | bool
  | float
  | color
deriving Repr, DecidableEq

namespace AttributeDataType

def value : AttributeDataType → Int
  | bool => 0
  | float => 1
  | color => 2

def members : List AttributeDataType := [bool, float, color]

end AttributeDataType

end Endweave
