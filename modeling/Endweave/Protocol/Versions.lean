import Endweave.Lib.OrderedDict

/-!
# `versions.py`

The known versions, by number.
-/

namespace Endweave

/-- A known protocol version. -/
structure ProtocolVersion where
  protocol : Int
  minecraftVersion : String
deriving Repr, DecidableEq

/-- The registry, in the order in which versions were added. -/
def protocolVersions : List ProtocolVersion :=
  [⟨859, "1.21.120"⟩, ⟨860, "1.21.124"⟩, ⟨898, "1.21.130"⟩, ⟨924, "1.26.0"⟩, ⟨944, "1.26.10"⟩,
    ⟨975, "1.26.20"⟩, ⟨1001, "1.26.30"⟩]

/-- `VERSIONS`. -/
def VERSIONS : OrderedDict Int ProtocolVersion :=
  protocolVersions.map fun v => (v.protocol, v)

end Endweave
