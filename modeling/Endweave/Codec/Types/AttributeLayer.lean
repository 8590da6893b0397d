import Endweave.Codec.Types.Crafting

/-!
# Attribute layers

The weight of a layer is a float or a string in v944 and a float in v975.
-/

namespace Endweave

open Wire

/-- `EAS::BoolAttributeData`. -/
structure BoolAttributeData where
  value : Bool
  operation : Option String
deriving Repr, DecidableEq

/-- `EAS::FloatAttributeData`. -/
structure FloatAttributeData where
  value : UInt32
  operation : Option String
  constraintMin : Option UInt32
  constraintMax : Option UInt32
deriving Repr, DecidableEq

/-- `EAS::ColorAttributeData`. -/
structure ColorAttributeData where
  value : String
  operation : Option String
deriving Repr, DecidableEq

/-- The polymorphic value of an attribute, of which exactly one variant is there. -/
inductive AttributeData where
  | bool (boolData : BoolAttributeData)
  | float (floatData : FloatAttributeData)
  | color (colorData : ColorAttributeData)
deriving Repr, DecidableEq

/-- `EAS::EnvironmentAttributeData`; `attr` is its `attribute`. -/
structure EnvironmentAttributeData where
  name : String
  fromAttribute : Option AttributeData
  attr : AttributeData
  toAttribute : Option AttributeData
  currentTransitionTicks : Int
  totalTransitionTicks : Int
  easing : String
deriving Repr, DecidableEq

/-- `EAS::AttributeLayerSettings`. -/
structure AttributeLayerSettings where
  priority : Int
  weight : UInt32
  enabled : Bool
  transitionsPaused : Bool
deriving Repr, DecidableEq

/-! ### Attributes -/

def boolAttributeData : FieldType BoolAttributeData where
  read := do
    let value ← bool.read
    let operation ← (optionalType string).read
    pure { value, operation }
  write data := do
    bool.write data.value
    (optionalType string).write data.operation

def floatAttributeData : FieldType FloatAttributeData where
  read := do
    let value ← floatLE.read
    let operation ← (optionalType string).read
    let constraintMin ← (optionalType floatLE).read
    let constraintMax ← (optionalType floatLE).read
    pure { value, operation, constraintMin, constraintMax }
  write data := do
    floatLE.write data.value
    (optionalType string).write data.operation
    (optionalType floatLE).write data.constraintMin
    (optionalType floatLE).write data.constraintMax

def colorAttributeData : FieldType ColorAttributeData where
  read := do
    let value ← string.read
    let operation ← (optionalType string).read
    pure { value, operation }
  write data := do
    string.write data.value
    (optionalType string).write data.operation

def AttributeDataType.ofValue {σ : Type} : Int → EStateM PyException σ AttributeDataType :=
  enumMember "AttributeDataType" members value

def AttributeData.kind : AttributeData → AttributeDataType
  | bool _ => .bool
  | float _ => .float
  | color _ => .color

/-- The kind tag, then the matching variant. -/
def attributeData : FieldType AttributeData where
  read := do
    let tag ← uvarInt.read
    let kind ← AttributeDataType.ofValue tag
    match kind with
    | .bool => AttributeData.bool <$> boolAttributeData.read
    | .float => AttributeData.float <$> floatAttributeData.read
    | .color => AttributeData.color <$> colorAttributeData.read
  write data := do
    uvarInt.write data.kind.value
    match data with
    | .bool boolData => boolAttributeData.write boolData
    | .float floatData => floatAttributeData.write floatData
    | .color colorData => colorAttributeData.write colorData

def environmentAttributeData : FieldType EnvironmentAttributeData where
  read := do
    let name ← string.read
    let fromAttribute ← (optionalType attributeData).read
    let attr ← attributeData.read
    let toAttribute ← (optionalType attributeData).read
    let currentTransitionTicks ← uintLE.read
    let totalTransitionTicks ← uintLE.read
    let easing ← string.read
    pure { name, fromAttribute, attr, toAttribute, currentTransitionTicks,
           totalTransitionTicks, easing }
  write data := do
    string.write data.name
    (optionalType attributeData).write data.fromAttribute
    attributeData.write data.attr
    (optionalType attributeData).write data.toAttribute
    uintLE.write data.currentTransitionTicks
    uintLE.write data.totalTransitionTicks
    string.write data.easing

/-! ### Settings -/

/-- `_V944_STRING_WEIGHT_DEFAULT`: 1.0. -/
def stringWeightDefault : UInt32 := 0x3F800000

def AttributeLayerWeightType.ofValue {σ : Type} :
    Int → EStateM PyException σ AttributeLayerWeightType :=
  enumMember "AttributeLayerWeightType" members value

/-- A weight that is a string is dropped. -/
def attributeLayerSettingsV944 : FieldType AttributeLayerSettings where
  read := do
    let priority ← intLE.read
    let tag ← uvarInt.read
    let weightType ← AttributeLayerWeightType.ofValue tag
    let weight ← match weightType with
      | .float => floatLE.read
      | .string => do
        let _ ← string.read
        pure stringWeightDefault
    let enabled ← bool.read
    let transitionsPaused ← bool.read
    pure { priority, weight, enabled, transitionsPaused }
  write settings := do
    intLE.write settings.priority
    uvarInt.write AttributeLayerWeightType.float.value
    floatLE.write settings.weight
    bool.write settings.enabled
    bool.write settings.transitionsPaused

def attributeLayerSettingsV975 : FieldType AttributeLayerSettings where
  read := do
    let priority ← intLE.read
    let weight ← floatLE.read
    let enabled ← bool.read
    let transitionsPaused ← bool.read
    pure { priority, weight, enabled, transitionsPaused }
  write settings := do
    intLE.write settings.priority
    floatLE.write settings.weight
    bool.write settings.enabled
    bool.write settings.transitionsPaused

/-! ### Payloads -/

def AttributeLayerSyncPayloadType.ofValue {σ : Type} :
    Int → EStateM PyException σ AttributeLayerSyncPayloadType :=
  enumMember "AttributeLayerSyncPayloadType" members value

end Endweave
