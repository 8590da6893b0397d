import Endweave.Codec.Types.Enums
import Endweave.Codec.Types.Primitives

/-!
# Commands

The parts of AvailableCommands.  Where v860 and v898 write a part with fields of different widths,
it is one codec with the codecs of these fields as parameters.
-/

namespace Endweave

open Wire

structure CommandEnum where
  name : String
  values : List Int
deriving Repr, DecidableEq

structure CommandSubcommand where
  name : String
  values : List (Int × Int)
deriving Repr, DecidableEq

structure CommandParameter where
  name : String
  symbol : Int
  optional : Bool
  options : Int
deriving Repr, DecidableEq

structure CommandOverload where
  chaining : Bool
  parameters : List CommandParameter
deriving Repr, DecidableEq

structure CommandDefinition where
  name : String
  description : String
  flags : Int
  permission : Int
  aliasIndex : Int
  subcommandIndices : List Int
  overloads : List CommandOverload
deriving Repr, DecidableEq

structure CommandConstraint where
  valueIndex : Int
  enumIndex : Int
  constraints : List Int
deriving Repr, DecidableEq

/-- An enum whose values are strings. -/
structure SoftEnum where
  name : String
  values : List String
deriving Repr, DecidableEq

/-! ### The same in both versions -/

def commandParameter : FieldType CommandParameter where
  read := do
    let name ← string.read
    let symbol ← intLE.read
    let optional ← bool.read
    let options ← byte.read
    pure { name, symbol, optional, options }
  write value := do
    string.write value.name
    intLE.write value.symbol
    bool.write value.optional
    byte.write value.options

def commandOverload : FieldType CommandOverload where
  read := do
    let chaining ← bool.read
    let parameters ← (arrayType commandParameter).read
    pure { chaining, parameters }
  write value := do
    bool.write value.chaining
    (arrayType commandParameter).write value.parameters

def softEnum : FieldType SoftEnum where
  read := do
    let name ← string.read
    let values ← (arrayType string).read
    pure { name, values }
  write value := do
    string.write value.name
    (arrayType string).write value.values

def commandConstraint : FieldType CommandConstraint where
  read := do
    let valueIndex ← intLE.read
    let enumIndex ← intLE.read
    let constraints ← (arrayType byte).read
    pure { valueIndex, enumIndex, constraints }
  write value := do
    intLE.write value.valueIndex
    intLE.write value.enumIndex
    (arrayType byte).write value.constraints

/-! ### Different widths -/

def commandEnumType (index : FieldType Int) : FieldType CommandEnum where
  read := do
    let name ← string.read
    let values ← (arrayType index).read
    pure { name, values }
  write value := do
    string.write value.name
    (arrayType index).write value.values

def commandEnumV898 : FieldType CommandEnum := commandEnumType intLE

/-- The width of the indices of v860, by the number of enum values. -/
def indexType (valuesSize : Nat) : FieldType Int :=
  if valuesSize ≤ 0x100 then byte
  else if valuesSize ≤ 0x10000 then ushortLE
  else intLE

def makeCommandEnumV860 (valuesSize : Nat) : FieldType CommandEnum :=
  commandEnumType (indexType valuesSize)

def commandSubcommandType (T : FieldType Int) : FieldType CommandSubcommand where
  read := do
    let name ← string.read
    let values ← (arrayType (pairType T T)).read
    pure { name, values }
  write value := do
    string.write value.name
    (arrayType (pairType T T)).write value.values

def commandSubcommandV860 : FieldType CommandSubcommand := commandSubcommandType ushortLE

def commandSubcommandV898 : FieldType CommandSubcommand := commandSubcommandType uvarInt

/-- The permission level of v898, a label. -/
def permissionLabel : FieldType Int where
  read := do
    let label ← string.read
    match (labelToEnum CommandPermissionLevel.members CommandPermissionLevel.value
        CommandPermissionLevel.name).get? label with
    | some permission => pure permission
    | none => throw .keyError
  write value :=
    match (enumToLabel CommandPermissionLevel.members CommandPermissionLevel.value
        CommandPermissionLevel.name).get? value with
    | some label => string.write label
    | none => throw .keyError

def commandDefinitionType (permissionType index : FieldType Int) : FieldType CommandDefinition where
  read := do
    let name ← string.read
    let description ← string.read
    let flags ← ushortLE.read
    let permission ← permissionType.read
    let aliasIndex ← intLE.read
    let subcommandIndices ← (arrayType index).read
    let overloads ← (arrayType commandOverload).read
    pure { name, description, flags, permission, aliasIndex, subcommandIndices, overloads }
  write value := do
    string.write value.name
    string.write value.description
    ushortLE.write value.flags
    permissionType.write value.permission
    intLE.write value.aliasIndex
    (arrayType index).write value.subcommandIndices
    (arrayType commandOverload).write value.overloads

def commandDefinitionV860 : FieldType CommandDefinition := commandDefinitionType byte ushortLE

def commandDefinitionV898 : FieldType CommandDefinition :=
  commandDefinitionType permissionLabel intLE

/-! ### Origins -/

/-- Where a command comes from: CommandRequest and CommandOutput. -/
structure CommandOrigin where
  originType : Int
  uuid : MceUUID
  requestId : String
  playerId : Int
deriving Repr, DecidableEq

/-- `origin_type in (CommandOriginType.TEST, CommandOriginType.AUTOMATION_PLAYER)`. -/
def hasPlayerId (originType : Int) : Bool :=
  originType == CommandOriginType.test.value ||
    originType == CommandOriginType.automationPlayer.value

def commandOriginV860 : FieldType CommandOrigin where
  read := do
    let originType ← uvarInt.read
    let uuid ← uuid.read
    let requestId ← string.read
    let playerId ← (fieldIf (hasPlayerId originType) varInt64 (-1)).read
    pure { originType, uuid, requestId, playerId }
  write value := do
    uvarInt.write value.originType
    uuid.write value.uuid
    string.write value.requestId
    (fieldIf (hasPlayerId value.originType) varInt64 (-1)).write value.playerId

namespace CommandOriginType

/-- `_by_label`. -/
def byLabel : OrderedDict String Int := labelToEnum members value name

/-- `_by_value`. -/
def byValue : OrderedDict Int String := enumToLabel members value name

end CommandOriginType

/-- v898 always writes a player id, and the type as a label. -/
def commandOriginV898 : FieldType CommandOrigin where
  read := do
    let originLabel ← string.read
    let uuid ← uuid.read
    let requestId ← string.read
    let playerId ← int64LE.read
    let originType := (CommandOriginType.byLabel.get? originLabel).getD 0
    pure { originType, uuid, requestId, playerId }
  write value := do
    string.write ((CommandOriginType.byValue.get? value.originType).getD "player")
    uuid.write value.uuid
    string.write value.requestId
    int64LE.write value.playerId

end Endweave
