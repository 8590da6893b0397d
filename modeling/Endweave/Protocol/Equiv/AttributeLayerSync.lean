import Endweave.Codec.Equiv.Converts
import Endweave.Protocol.Handlers.AttributeLayerSync
import Endweave.Protocol.Packets.AttributeLayerSync

/-!
# Correctness of the `ClientboundAttributeLayerSync` handler

`AttributeLayerSync.Canonical.upgrades`: the v975 grammar reads the whole output as the same packet
with its weights as floats.  The settings are the only part whose grammar differs
(`switchedSettings_codes`); for the payloads without settings the output is the input.
-/

namespace Endweave

open Wire PacketWriter PacketWrapper V944ToV975

/-! ### Attributes -/

theorem attributeDataType_ofValue {σ : Type} (kind : AttributeDataType) :
    (AttributeDataType.ofValue kind.value : EStateM PyException σ _) = pure kind := by
  cases kind <;> rfl

theorem attributeDataType_roundTrips (kind : AttributeDataType) :
    uvarInt.RoundTrips kind.value := by
  have hrange : InUInt32 kind.value := by cases kind <;> decide
  exact uvarInt_roundTrips hrange

theorem attributeData_roundTrips {data : AttributeData} (h : data.Canonical) :
    attributeData.RoundTrips data := by
  apply Codes.bind (attributeDataType_roundTrips data.kind)
  rw [attributeDataType_ofValue, pure_bind]
  cases data with
  | bool boolData =>
    have hboolData : boolAttributeData.RoundTrips boolData := by
      apply Codes.bind (bool_roundTrips boolData.value)
      exact Codes.last (optionalString_roundTrips h) rfl
    exact hboolData.map _
  | float floatData =>
    have hfloatData : floatAttributeData.RoundTrips floatData := by
      apply Codes.bind (floatLE_roundTrips floatData.value)
      apply Codes.bind (optionalString_roundTrips h)
      apply Codes.bind (optionalFloat_roundTrips floatData.constraintMin)
      exact Codes.last (optionalFloat_roundTrips floatData.constraintMax) rfl
    exact hfloatData.map _
  | color colorData =>
    have hcolorData : colorAttributeData.RoundTrips colorData := by
      apply Codes.bind (string_roundTrips h.1)
      exact Codes.last (optionalString_roundTrips h.2) rfl
    exact hcolorData.map _

theorem environmentAttributeData_roundTrips {data : EnvironmentAttributeData} (h : data.Canonical) :
    environmentAttributeData.RoundTrips data := by
  have hfrom := fitsOption_roundTrips h.fromAttribute fun _ => attributeData_roundTrips
  have hto := fitsOption_roundTrips h.toAttribute fun _ => attributeData_roundTrips
  apply Codes.bind (string_roundTrips h.name)
  apply Codes.bind hfrom
  apply Codes.bind (attributeData_roundTrips h.attr)
  apply Codes.bind hto
  apply Codes.bind (uintLE_roundTrips h.currentTransitionTicks)
  apply Codes.bind (uintLE_roundTrips h.totalTransitionTicks)
  exact Codes.last (string_roundTrips h.easing) rfl

/-! ### Settings -/

theorem weightType_ofValue {σ : Type} (t : AttributeLayerWeightType) :
    (AttributeLayerWeightType.ofValue t.value : EStateM PyException σ _) = pure t := by
  cases t <;> rfl

theorem weightType_roundTrips (t : AttributeLayerWeightType) : uvarInt.RoundTrips t.value := by
  have hrange : InUInt32 t.value := by cases t <;> decide
  exact uvarInt_roundTrips hrange

theorem layerWeight_write (weight : LayerWeight) :
    layerWeight.write weight = (do
      uvarInt.write weight.type.value
      match weight with
      | .float value => floatLE.write value
      | .string value => string.write value) := rfl

/-- The codec of v944 reads what the grammar of v944 writes, with the weight as a float. -/
theorem switchedSettings_codes {s : SwitchedSettings} (hpriority : InInt32 s.priority)
    (hweight : s.weight.Canonical) :
    Codes (switchedSettings.write s) attributeLayerSettingsV944.read s.toV975 := by
  obtain ⟨priority, weight, enabled, transitionsPaused⟩ := s
  apply Codes.bind (intLE_roundTrips hpriority)
  rw [layerWeight_write, bind_assoc]
  apply Codes.bind (weightType_roundTrips weight.type)
  rw [weightType_ofValue, pure_bind]
  cases weight with
  | float value =>
    apply Codes.bind (floatLE_roundTrips value)
    apply Codes.bind (bool_roundTrips enabled)
    exact Codes.last (bool_roundTrips transitionsPaused) rfl
  | string value =>
    -- the string is read and dropped
    apply Codes.bind (string_roundTrips hweight)
    rw [pure_bind]
    apply Codes.bind (bool_roundTrips enabled)
    exact Codes.last (bool_roundTrips transitionsPaused) rfl

theorem attributeLayerSettingsV975_roundTrips {s : AttributeLayerSettings}
    (h : InInt32 s.priority) : attributeLayerSettingsV975.RoundTrips s := by
  apply Codes.bind (intLE_roundTrips h)
  apply Codes.bind (floatLE_roundTrips s.weight)
  apply Codes.bind (bool_roundTrips s.enabled)
  exact Codes.last (bool_roundTrips s.transitionsPaused) rfl

/-! ### Layers -/

section Layers

variable {header : LayerHeader SwitchedSettings} {layer : AttributeLayer SwitchedSettings}

theorem LayerHeader.Canonical.roundTrips (h : header.Canonical) :
    (layerHeader attributeLayerSettingsV975).RoundTrips header.toV975 := by
  apply Codes.bind (string_roundTrips h.name)
  apply Codes.bind (varInt_roundTrips h.dimension)
  exact Codes.last (attributeLayerSettingsV975_roundTrips h.priority) rfl

theorem AttributeLayer.Canonical.attributes_roundTrips (h : layer.Canonical) :
    (arrayType environmentAttributeData).RoundTrips layer.attributes :=
  fitsList_roundTrips h.attributes fun _ => environmentAttributeData_roundTrips

theorem AttributeLayer.Canonical.roundTrips (h : layer.Canonical) :
    (attributeLayer attributeLayerSettingsV975).RoundTrips layer.toV975 := by
  apply Codes.bind h.toCanonical.roundTrips
  exact Codes.last h.attributes_roundTrips rfl

theorem mapLayerSettings_converts (h : header.Canonical) :
    Converts mapLayerSettings ((layerHeader switchedSettings).write header)
      ((layerHeader attributeLayerSettingsV975).write header.toV975) () := by
  have hsettings := switchedSettings_codes h.priority h.weight
  have hsettings' : attributeLayerSettingsV975.RoundTrips header.settings.toV975 :=
    attributeLayerSettingsV975_roundTrips h.priority
  apply Converts.passthrough (string_roundTrips h.name)
  apply Converts.passthrough (varInt_roundTrips h.dimension)
  exact (converts_map hsettings hsettings').last rfl

theorem passthroughLayer_converts (h : layer.Canonical) :
    Converts
      (do
        mapLayerSettings
        passthroughLoop do
          let _ ← passthrough environmentAttributeData)
      ((attributeLayer switchedSettings).write layer)
      ((attributeLayer attributeLayerSettingsV975).write layer.toV975) () := by
  apply (mapLayerSettings_converts h.toCanonical).bind
  apply converts_passthroughLoop_same h.attributes.1
  intro data hdata
  have hcodes := environmentAttributeData_roundTrips (h.attributes.2 data hdata)
  exact (converts_passthrough hcodes).last rfl

end Layers

/-! ### Payloads -/

theorem payloadType_ofValue {σ : Type} (t : AttributeLayerSyncPayloadType) :
    (AttributeLayerSyncPayloadType.ofValue t.value : EStateM PyException σ _) = pure t := by
  cases t <;> rfl

theorem payloadType_roundTrips (t : AttributeLayerSyncPayloadType) :
    uvarInt.RoundTrips t.value := by
  have hrange : InUInt32 t.value := by cases t <;> decide
  exact uvarInt_roundTrips hrange

/-- The payloads without settings are copied, whatever they are. -/
theorem rewriteClientboundAttributeLayerSync_copies {t : AttributeLayerSyncPayloadType}
    (ht : t = .updateEnvironment ∨ t = .removeEnvironment) (payload : List UInt8) :
    Delivers rewriteClientboundAttributeLayerSync (uvarInt.bytes t.value ++ payload)
      (uvarInt.bytes t.value ++ payload) := by
  apply Delivers.passthrough (payloadType_roundTrips t)
  rw [payloadType_ofValue, pure_bind]
  rcases ht with rfl | rfl
  · exact passthroughAll_delivers payload
  · exact passthroughAll_delivers payload

namespace AttributeLayerSync

variable {ε ρ : Type} {environment : FieldType ε} {removal : FieldType ρ}
  {p : AttributeLayerSync SwitchedSettings ε ρ} (h : p.Canonical environment removal)

include h

theorem Canonical.roundTrips :
    (attributeLayerSync attributeLayerSettingsV975 environment removal).RoundTrips p.toV975 := by
  apply Codes.bind (payloadType_roundTrips p.toV975.kind)
  rw [payloadType_ofValue, pure_bind]
  cases p with
  | updateLayers layers =>
    have hlayers : (arrayType (attributeLayer attributeLayerSettingsV975)).RoundTrips
        (layers.map AttributeLayer.toV975) := by
      apply arrayType_roundTrips
      · rw [List.length_map]
        exact h.1
      · rw [List.forall_mem_map]
        exact fun layer hlayer => (h.2 layer hlayer).roundTrips
    exact hlayers.map _
  | updateSettings header => exact (LayerHeader.Canonical.roundTrips h).map _
  | updateEnvironment payload => exact Codes.map h _
  | removeEnvironment payload => exact Codes.map h _

theorem Canonical.converts (hsettings : p.kind = .updateLayers ∨ p.kind = .updateSettings) :
    Converts rewriteClientboundAttributeLayerSync
      ((attributeLayerSync switchedSettings environment removal).write p)
      ((attributeLayerSync attributeLayerSettingsV975 environment removal).write p.toV975) () := by
  cases p with
  | updateLayers layers =>
    apply Converts.passthrough (payloadType_roundTrips .updateLayers)
    rw [payloadType_ofValue, pure_bind]
    exact converts_passthroughLoop h.1 fun layer hlayer =>
      passthroughLayer_converts (h.2 layer hlayer)
  | updateSettings header =>
    apply Converts.passthrough (payloadType_roundTrips .updateSettings)
    rw [payloadType_ofValue, pure_bind]
    exact mapLayerSettings_converts h
  | updateEnvironment payload => simp [kind] at hsettings
  | removeEnvironment payload => simp [kind] at hsettings

omit h in
/-- A packet without settings is the same in both versions. -/
theorem bytes_updateEnvironment {σ : Type} (settings : FieldType σ) {payload : ε}
    (hp : environment.RoundTrips payload) :
    (attributeLayerSync settings environment removal).bytes (.updateEnvironment payload) =
      uvarInt.bytes AttributeLayerSyncPayloadType.updateEnvironment.value ++
        environment.bytes payload :=
  ((payloadType_roundTrips .updateEnvironment).writes.bind hp.writes).written

omit h in
theorem bytes_removeEnvironment {σ : Type} (settings : FieldType σ) {payload : ρ}
    (hp : removal.RoundTrips payload) :
    (attributeLayerSync settings environment removal).bytes (.removeEnvironment payload) =
      uvarInt.bytes AttributeLayerSyncPayloadType.removeEnvironment.value ++
        removal.bytes payload :=
  ((payloadType_roundTrips .removeEnvironment).writes.bind hp.writes).written

/-- Whatever the payload is, the packet is the one of v975. -/
theorem Canonical.delivers :
    Delivers rewriteClientboundAttributeLayerSync
      ((attributeLayerSync switchedSettings environment removal).bytes p)
      ((attributeLayerSync attributeLayerSettingsV975 environment removal).bytes p.toV975) := by
  cases p with
  | updateLayers layers => exact (h.converts (Or.inl rfl)).rewrites.deliversAll
  | updateSettings header => exact (h.converts (Or.inr rfl)).rewrites.deliversAll
  | updateEnvironment payload =>
    rw [bytes_updateEnvironment _ h, toV975, bytes_updateEnvironment _ h]
    exact rewriteClientboundAttributeLayerSync_copies (Or.inl rfl) (environment.bytes payload)
  | removeEnvironment payload =>
    rw [bytes_removeEnvironment _ h, toV975, bytes_removeEnvironment _ h]
    exact rewriteClientboundAttributeLayerSync_copies (Or.inr rfl) (removal.bytes payload)

/-- The output is the packet with its weights as floats. -/
theorem Canonical.upgrades (user : UserConnection) :
    ∃ out, rewriteClientboundAttributeLayerSync.apply
        ((attributeLayerSync switchedSettings environment removal).bytes p) user = .ok out ∧
      (attributeLayerSync attributeLayerSettingsV975 environment removal).Parses out p.toV975 :=
  ⟨_, h.delivers.translates.apply user, h.roundTrips.parses⟩

end AttributeLayerSync

end Endweave
