import Endweave.Codec.Equiv.Primitives
import Endweave.Codec.Types.Commands

/-!
# The AvailableCommands packet

One grammar with the codecs of its parts as parameters.  The codec of the enums depends on the
number of enum values.
-/

namespace Endweave

open Wire

structure AvailableCommands where
  enumValues : List String
  subcommandValues : List String
  postfixes : List String
  enums : List CommandEnum
  subcommands : List CommandSubcommand
  commands : List CommandDefinition
  softEnums : List SoftEnum
  constraints : List CommandConstraint
deriving Repr, DecidableEq

def availableCommandsType (enum : Nat → FieldType CommandEnum)
    (subcommand : FieldType CommandSubcommand) (definition : FieldType CommandDefinition) :
    FieldType AvailableCommands where
  read := do
    let enumValues ← (arrayType string).read
    let subcommandValues ← (arrayType string).read
    let postfixes ← (arrayType string).read
    let enums ← (arrayType (enum enumValues.length)).read
    let subcommands ← (arrayType subcommand).read
    let commands ← (arrayType definition).read
    let softEnums ← (arrayType softEnum).read
    let constraints ← (arrayType commandConstraint).read
    pure { enumValues, subcommandValues, postfixes, enums, subcommands, commands, softEnums,
           constraints }
  write p := do
    (arrayType string).write p.enumValues
    (arrayType string).write p.subcommandValues
    (arrayType string).write p.postfixes
    (arrayType (enum p.enumValues.length)).write p.enums
    (arrayType subcommand).write p.subcommands
    (arrayType definition).write p.commands
    (arrayType softEnum).write p.softEnums
    (arrayType commandConstraint).write p.constraints

def availableCommandsV860 : FieldType AvailableCommands :=
  availableCommandsType makeCommandEnumV860 commandSubcommandV860 commandDefinitionV860

def availableCommandsV898 : FieldType AvailableCommands :=
  availableCommandsType (fun _ => commandEnumV898) commandSubcommandV898 commandDefinitionV898

/-! ### Canonical packets -/

structure CommandEnum.Canonical (index : Int → Prop) (e : CommandEnum) : Prop where
  name : FitsString e.name
  values : FitsList index e.values

structure CommandSubcommand.Canonical (value : Int → Prop) (s : CommandSubcommand) : Prop where
  name : FitsString s.name
  values : FitsList (fun v => value v.1 ∧ value v.2) s.values

structure CommandParameter.Canonical (p : CommandParameter) : Prop where
  name : FitsString p.name
  symbol : InInt32 p.symbol
  options : InByte p.options

def CommandOverload.Canonical (o : CommandOverload) : Prop :=
  FitsList CommandParameter.Canonical o.parameters

structure CommandDefinition.Canonical (index : Int → Prop) (c : CommandDefinition) : Prop where
  name : FitsString c.name
  description : FitsString c.description
  flags : InUInt16 c.flags
  permission : 0 ≤ c.permission ∧ c.permission ≤ 5
  aliasIndex : InInt32 c.aliasIndex
  subcommandIndices : FitsList index c.subcommandIndices
  overloads : FitsList CommandOverload.Canonical c.overloads

structure SoftEnum.Canonical (e : SoftEnum) : Prop where
  name : FitsString e.name
  values : FitsList FitsString e.values

structure CommandConstraint.Canonical (c : CommandConstraint) : Prop where
  valueIndex : InInt32 c.valueIndex
  enumIndex : InInt32 c.enumIndex
  constraints : FitsList InByte c.constraints

namespace AvailableCommands

variable (p : AvailableCommands)

/-- The fields are in the range of their codecs; the ranges of the enum indices, the subcommand
values and the subcommand indices depend on the version. -/
structure Canonical (enumIndex value index : Int → Prop) : Prop where
  enumValues : FitsList FitsString p.enumValues
  subcommandValues : FitsList FitsString p.subcommandValues
  postfixes : FitsList FitsString p.postfixes
  enums : FitsList (CommandEnum.Canonical enumIndex) p.enums
  subcommands : FitsList (CommandSubcommand.Canonical value) p.subcommands
  commands : FitsList (CommandDefinition.Canonical index) p.commands
  softEnums : FitsList SoftEnum.Canonical p.softEnums
  constraints : FitsList CommandConstraint.Canonical p.constraints

end AvailableCommands

/-- The range of an enum index of v860, by the number of enum values. -/
def InIndex (valuesSize : Nat) (v : Int) : Prop :=
  if valuesSize ≤ 0x100 then InByte v
  else if valuesSize ≤ 0x10000 then InUInt16 v
  else InInt32 v

instance (valuesSize : Nat) (v : Int) : Decidable (InIndex valuesSize v) :=
  inferInstanceAs (Decidable (if valuesSize ≤ 0x100 then InByte v
    else if valuesSize ≤ 0x10000 then InUInt16 v else InInt32 v))

def AvailableCommands.CanonicalV860 (p : AvailableCommands) : Prop :=
  p.Canonical (InIndex p.enumValues.length) InUInt16 InUInt16

def AvailableCommands.CanonicalV898 (p : AvailableCommands) : Prop :=
  p.Canonical InInt32 InUInt32 InInt32

end Endweave
