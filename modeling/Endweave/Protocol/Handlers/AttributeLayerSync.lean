import Endweave.Codec.Types.AttributeLayer
import Endweave.Codec.Wrapper

/-!
# The `ClientboundAttributeLayerSync` handler from v944 to v975

Only two of the four payloads carry the settings of a layer, whose weight v975 has as a float.
-/

namespace Endweave.V944ToV975

open PacketWrapper

/-- What the two payloads with settings begin with. -/
def mapLayerSettings : PacketHandler := do
  let _ ← passthrough string -- Layer Name
  let _ ← passthrough varInt -- Dimension
  let _ ← PacketWrapper.map attributeLayerSettingsV944 attributeLayerSettingsV975

def rewriteClientboundAttributeLayerSync : PacketHandler := do
  let tag ← passthrough uvarInt
  let payload ← AttributeLayerSyncPayloadType.ofValue tag
  match payload with
  | .updateLayers =>
    passthroughLoop do
      mapLayerSettings
      passthroughLoop do
        let _ ← passthrough environmentAttributeData
  | .updateSettings => mapLayerSettings
  | .updateEnvironment | .removeEnvironment => do
    let _ ← passthroughAll

end Endweave.V944ToV975
