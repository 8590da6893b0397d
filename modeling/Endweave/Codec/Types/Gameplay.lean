import Endweave.Codec.Types.Primitives

/-!
# Game rules and experiments

Compound types shared by the protocol handlers.
-/

namespace Endweave

open Wire PacketReader PacketWriter

/-! ### Game rules -/

/-- The value of a game rule, with the type the source keeps in `type_id`. -/
inductive RuleValue where
  | bool (value : Bool)
  | varInt (value : Int)
  | float (value : UInt32)
deriving Repr, DecidableEq

/-- The `type_id` of a value. -/
def RuleValue.typeId : RuleValue → Int
  | .bool _ => 1
  | .varInt _ => 2
  | .float _ => 3

/-- `_RULE_VALUE_TYPES.get(type_id)`, then a read with that type. -/
def readRuleValue (typeId : Int) : Parser PyException UInt8 RuleValue :=
  if typeId = 1 then RuleValue.bool <$> bool.read
  else if typeId = 2 then RuleValue.varInt <$> varInt.read
  else if typeId = 3 then RuleValue.float <$> floatLE.read
  else throw (.valueError s!"Unknown game rule type: {typeId}")

def writeRuleValue : RuleValue → Printer PyException UInt8 Unit
  | .bool value => bool.write value
  | .varInt value => varInt.write value
  | .float value => floatLE.write value

/-- A game rule entry with a typed value. -/
structure GameRule where
  name : String
  editable : Bool
  value : RuleValue
deriving Repr, DecidableEq

/-- One round of the loops of `_GameRulesType`. -/
def gameRule : FieldType GameRule where
  read := do
    let name ← string.read
    let editable ← bool.read
    let typeId ← uvarInt.read
    let value ← readRuleValue typeId
    pure { name, editable, value }
  write rule := do
    string.write rule.name
    bool.write rule.editable
    uvarInt.write rule.value.typeId
    writeRuleValue rule.value

def gameRules : FieldType (List GameRule) := arrayType gameRule

/-! ### Experiments -/

/-- An experiment entry. -/
structure Experiment where
  name : String
  enabled : Bool
deriving Repr, DecidableEq

/-- One round of the loops of `_ExperimentsType`. -/
def experiment : FieldType Experiment where
  read := do
    let name ← string.read
    let enabled ← bool.read
    pure { name, enabled }
  write exp := do
    string.write exp.name
    bool.write exp.enabled

/-- `_ExperimentsType`: a count of the given type, then that many experiments. -/
def experimentsType (countType : FieldType Int) : FieldType (List Experiment) where
  read := do
    let count ← countType.read
    collect experiment.read count.toNat
  write value := do
    countType.write value.length
    each experiment.write value

def experiments : FieldType (List Experiment) := experimentsType uintLE
def experimentsV860 : FieldType (List Experiment) := experimentsType intLE

end Endweave
