import Endweave.Codec.Types.Commands
import Endweave.Codec.Wrapper

/-!
# The command handlers between v860 and v898

`AvailableCommands`: the two directions map the same parts with the codecs exchanged.  The width of
the enum indices of v860 depends on the number of enum values, with which the packet begins.

`CommandOutput`: v898 writes the output type as a label, puts the id of a message in front of its
flag, and has a flag of its own in front of the data set.
-/

namespace Endweave

open PacketWrapper

/-- Read the parts with the first of each pair of codecs and write them with the second. -/
def mapAvailableCommands (enum enum' : Nat → FieldType CommandEnum)
    (subcommand subcommand' : FieldType CommandSubcommand)
    (definition definition' : FieldType CommandDefinition) : PacketHandler := do
  let enumValues ← passthrough (arrayType string) -- Enum Values
  let _ ← passthrough (arrayType string) -- Subcommand Values
  let _ ← passthrough (arrayType string) -- Postfixes
  let _ ← PacketWrapper.map (arrayType (enum enumValues.length))
    (arrayType (enum' enumValues.length)) -- Enums
  let _ ← PacketWrapper.map (arrayType subcommand) (arrayType subcommand') -- Subcommands
  let _ ← PacketWrapper.map (arrayType definition) (arrayType definition') -- Commands
  let _ ← passthrough (arrayType softEnum) -- Soft Enums
  let _ ← passthrough (arrayType commandConstraint) -- Constraints

def V860ToV898.rewriteAvailableCommands : PacketHandler :=
  mapAvailableCommands makeCommandEnumV860 (fun _ => commandEnumV898)
    commandSubcommandV860 commandSubcommandV898 commandDefinitionV860 commandDefinitionV898

def V898ToV860.rewriteAvailableCommands : PacketHandler :=
  mapAvailableCommands (fun _ => commandEnumV898) makeCommandEnumV860
    commandSubcommandV898 commandSubcommandV860 commandDefinitionV898 commandDefinitionV860

/-! ### CommandRequest -/

/-- `CurrentCmdVersion.CLONE_EXTRA_BLOCK_FILTER_FIX`. -/
def cloneExtraBlockFilterFix : Int := 45

/-- Only the UUID and the request id of the origin are kept. -/
def V860ToV898.rewriteCommandRequest : PacketHandler := do
  let _ ← passthrough string -- Command
  let origin ← PacketWrapper.read commandOriginV898
  write commandOriginV860
    { originType := 0, uuid := origin.uuid, requestId := origin.requestId, playerId := -1 }
  let _ ← passthrough bool -- Is Internal Source?
  let _ ← PacketWrapper.read string -- Version
  write varInt cloneExtraBlockFilterFix

def V898ToV860.rewriteCommandRequest : PacketHandler := do
  let _ ← passthrough string
  let _ ← PacketWrapper.map commandOriginV860 commandOriginV898 -- Origin
  let _ ← passthrough bool
  let _ ← PacketWrapper.read varInt
  write string "latest"

/-! ### CommandOutput -/

namespace V860ToV898

/-- `_LABEL_BY_OUTPUT_TYPE`. -/
def labelByOutputType : OrderedDict Int String :=
  enumToLabel CommandOutputType.members CommandOutputType.value CommandOutputType.name

/-- `wrapper.write(STRING, _LABEL_BY_OUTPUT_TYPE[output_type])`. -/
def writeOutputLabel (outputType : Int) : PacketHandler :=
  match labelByOutputType.get? outputType with
  | some label => write string label
  | none => throw .keyError

def rewriteOutputMessage : PacketHandler := do
  let internal ← PacketWrapper.read bool -- Successful?
  let messageId ← PacketWrapper.read string -- Message ID
  let parameterCount ← PacketWrapper.read uvarInt -- Parameters
  let parameters ← Wire.collect (PacketWrapper.read string) parameterCount.toNat
  write string messageId
  write bool internal
  write uvarInt parameters.length
  Wire.each (write string) parameters

def rewriteCommandOutput : PacketHandler := do
  let _ ← PacketWrapper.map commandOriginV860 commandOriginV898 -- Origin Data
  let outputType ← PacketWrapper.read byte -- Output Type
  writeOutputLabel outputType
  let _ ← PacketWrapper.map uvarInt intLE -- Success Count
  passthroughLoop rewriteOutputMessage -- Output Messages
  write bool (outputType == CommandOutputType.dataSet.value) -- Data Set

end V860ToV898

namespace V898ToV860

/-- `_OUTPUT_TYPE_BY_LABEL`. -/
def outputTypeByLabel : OrderedDict String Int :=
  labelToEnum CommandOutputType.members CommandOutputType.value CommandOutputType.name

/-- `_OUTPUT_TYPE_BY_LABEL[wrapper.read(STRING)]`. -/
def readOutputLabel : WrapperM Int := do
  let label ← PacketWrapper.read string
  match outputTypeByLabel.get? label with
  | some outputType => pure outputType
  | none => throw .keyError

def rewriteOutputMessage : PacketHandler := do
  let messageId ← PacketWrapper.read string
  let internal ← PacketWrapper.read bool
  let parameterCount ← PacketWrapper.read uvarInt
  let parameters ← Wire.collect (PacketWrapper.read string) parameterCount.toNat
  write bool internal
  write string messageId
  write uvarInt parameters.length
  Wire.each (write string) parameters

def rewriteCommandOutput : PacketHandler := do
  let _ ← PacketWrapper.map commandOriginV898 commandOriginV860 -- Origin Data
  let outputType ← readOutputLabel
  write byte outputType
  let _ ← PacketWrapper.map intLE uvarInt -- Success Count
  passthroughLoop rewriteOutputMessage -- Output Messages
  let _ ← PacketWrapper.read bool

end V898ToV860

end Endweave
