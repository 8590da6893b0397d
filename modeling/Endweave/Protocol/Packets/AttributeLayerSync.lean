import Endweave.Codec.Equiv.Primitives
import Endweave.Codec.Types.AttributeLayer

/-!
# The ClientboundAttributeLayerSync packet

One grammar for both versions, with the settings of a layer as a parameter.  So are the payloads
without settings, which the handler does not read: `environment` and `removal` are whatever grammar
the two versions share for them.
-/

namespace Endweave

open Wire

/-! ### Settings of v944 -/

/-- The weight in v944, a float or a string. -/
inductive LayerWeight where
  | float (value : UInt32)
  | string (value : String)
deriving Repr, DecidableEq

namespace LayerWeight

def type : LayerWeight → AttributeLayerWeightType
  | float _ => .float
  | string _ => .string

/-- The float that v975 has for the weight. -/
def toFloat : LayerWeight → UInt32
  | float value => value
  | string _ => stringWeightDefault

end LayerWeight

def layerWeight : FieldType LayerWeight where
  read := do
    let tag ← uvarInt.read
    let weightType ← AttributeLayerWeightType.ofValue tag
    match weightType with
    | .float => LayerWeight.float <$> floatLE.read
    | .string => LayerWeight.string <$> string.read
  write weight := do
    uvarInt.write weight.type.value
    match weight with
    | .float value => floatLE.write value
    | .string value => string.write value

/-- The settings as v944 has them. -/
structure SwitchedSettings where
  priority : Int
  weight : LayerWeight
  enabled : Bool
  transitionsPaused : Bool
deriving Repr, DecidableEq

def SwitchedSettings.toV975 (s : SwitchedSettings) : AttributeLayerSettings where
  priority := s.priority
  weight := s.weight.toFloat
  enabled := s.enabled
  transitionsPaused := s.transitionsPaused

def switchedSettings : FieldType SwitchedSettings where
  read := do
    let priority ← intLE.read
    let weight ← layerWeight.read
    let enabled ← bool.read
    let transitionsPaused ← bool.read
    pure { priority, weight, enabled, transitionsPaused }
  write s := do
    intLE.write s.priority
    layerWeight.write s.weight
    bool.write s.enabled
    bool.write s.transitionsPaused

/-! ### Layers -/

/-- What a layer begins with, by the type of its settings. -/
structure LayerHeader (σ : Type) where
  name : String
  dimension : Int
  settings : σ
deriving Repr, DecidableEq

structure AttributeLayer (σ : Type) extends LayerHeader σ where
  attributes : List EnvironmentAttributeData
deriving Repr, DecidableEq

inductive AttributeLayerSync (σ ε ρ : Type) where
  | updateLayers (layers : List (AttributeLayer σ))
  | updateSettings (header : LayerHeader σ)
  | updateEnvironment (payload : ε)
  | removeEnvironment (payload : ρ)
deriving Repr, DecidableEq

section Grammar

variable {σ ε ρ : Type} (settings : FieldType σ) (environment : FieldType ε)
  (removal : FieldType ρ)

def layerHeader : FieldType (LayerHeader σ) where
  read := do
    let name ← string.read
    let dimension ← varInt.read
    let value ← settings.read
    pure { name, dimension, settings := value }
  write header := do
    string.write header.name
    varInt.write header.dimension
    settings.write header.settings

def attributeLayer : FieldType (AttributeLayer σ) where
  read := do
    let header ← (layerHeader settings).read
    let attributes ← (arrayType environmentAttributeData).read
    pure { header with attributes }
  write layer := do
    (layerHeader settings).write layer.toLayerHeader
    (arrayType environmentAttributeData).write layer.attributes

def AttributeLayerSync.kind : AttributeLayerSync σ ε ρ → AttributeLayerSyncPayloadType
  | updateLayers _ => .updateLayers
  | updateSettings _ => .updateSettings
  | updateEnvironment _ => .updateEnvironment
  | removeEnvironment _ => .removeEnvironment

def attributeLayerSync : FieldType (AttributeLayerSync σ ε ρ) where
  read := do
    let tag ← uvarInt.read
    let kind ← AttributeLayerSyncPayloadType.ofValue tag
    match kind with
    | .updateLayers => .updateLayers <$> (arrayType (attributeLayer settings)).read
    | .updateSettings => .updateSettings <$> (layerHeader settings).read
    | .updateEnvironment => .updateEnvironment <$> environment.read
    | .removeEnvironment => .removeEnvironment <$> removal.read
  write packet := do
    uvarInt.write packet.kind.value
    match packet with
    | .updateLayers layers => (arrayType (attributeLayer settings)).write layers
    | .updateSettings header => (layerHeader settings).write header
    | .updateEnvironment payload => environment.write payload
    | .removeEnvironment payload => removal.write payload

end Grammar

/-! ### What v975 makes of it -/

section ToV975

variable {ε ρ : Type}

def LayerHeader.toV975 (header : LayerHeader SwitchedSettings) :
    LayerHeader AttributeLayerSettings :=
  { header with settings := header.settings.toV975 }

def AttributeLayer.toV975 (layer : AttributeLayer SwitchedSettings) :
    AttributeLayer AttributeLayerSettings :=
  { layer.toLayerHeader.toV975 with attributes := layer.attributes }

/-- Only the weights change. -/
def AttributeLayerSync.toV975 :
    AttributeLayerSync SwitchedSettings ε ρ → AttributeLayerSync AttributeLayerSettings ε ρ
  | updateLayers layers => updateLayers (layers.map AttributeLayer.toV975)
  | updateSettings header => updateSettings header.toV975
  | updateEnvironment payload => updateEnvironment payload
  | removeEnvironment payload => removeEnvironment payload

end ToV975

/-! ### Canonical packets -/

/-- The strings of an attribute fit. -/
def AttributeData.Canonical : AttributeData → Prop
  | bool boolData => FitsOption FitsString boolData.operation
  | float floatData => FitsOption FitsString floatData.operation
  | color colorData => FitsString colorData.value ∧ FitsOption FitsString colorData.operation

structure EnvironmentAttributeData.Canonical (data : EnvironmentAttributeData) : Prop where
  name : FitsString data.name
  fromAttribute : FitsOption AttributeData.Canonical data.fromAttribute
  attr : data.attr.Canonical
  toAttribute : FitsOption AttributeData.Canonical data.toAttribute
  currentTransitionTicks : InUInt32 data.currentTransitionTicks
  totalTransitionTicks : InUInt32 data.totalTransitionTicks
  easing : FitsString data.easing

def LayerWeight.Canonical : LayerWeight → Prop
  | float _ => True
  | string value => FitsString value

structure LayerHeader.Canonical (header : LayerHeader SwitchedSettings) : Prop where
  name : FitsString header.name
  dimension : InInt32 header.dimension
  priority : InInt32 header.settings.priority
  weight : header.settings.weight.Canonical

structure AttributeLayer.Canonical (layer : AttributeLayer SwitchedSettings) : Prop
    extends layer.toLayerHeader.Canonical where
  attributes : FitsList EnvironmentAttributeData.Canonical layer.attributes

/-- The payloads without settings are read back by the grammar the versions share. -/
def AttributeLayerSync.Canonical {ε ρ : Type} (environment : FieldType ε) (removal : FieldType ρ) :
    AttributeLayerSync SwitchedSettings ε ρ → Prop
  | updateLayers layers => FitsList AttributeLayer.Canonical layers
  | updateSettings header => header.Canonical
  | updateEnvironment payload => environment.RoundTrips payload
  | removeEnvironment payload => removal.RoundTrips payload

end Endweave
