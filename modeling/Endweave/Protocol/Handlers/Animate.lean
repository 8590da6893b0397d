import Endweave.Codec.Wrapper
import Endweave.Protocol.Basic

/-!
# The `Animate` handler between v860 and v898

v860 writes the action as a varint and has a rowing time behind the data when the action has the
rowing flag.  v898 writes the action as a byte and has an optional swing source instead.
-/

namespace Endweave.V860ToV898

open PacketWrapper

/-- `_ROWING_FLAG`. -/
def rowingFlag : Int := 0x80

/-- The rowing time, if there is one, is stripped for v898. -/
def stripRowingTime (action : Int) : PacketHandler :=
  if Int.land action rowingFlag ≠ 0 then do
    let _ ← PacketWrapper.read floatLE -- Rowing Time
  else pure ()

def rewriteAnimate : Direction → PacketHandler
  | .clientbound => do
    let action ← PacketWrapper.read varInt
    write byte action
    let _ ← passthrough uvarInt64 -- Target Runtime ID
    let _ ← passthrough floatLE -- Data
    stripRowingTime action
    write (optionalType string) none -- Swing Source
  | .serverbound => do
    let action ← PacketWrapper.read byte
    write varInt action
    let _ ← passthrough uvarInt64 -- Target Runtime ID
    let _ ← passthrough floatLE -- Data
    let _ ← PacketWrapper.read (optionalType string) -- Swing Source

end Endweave.V860ToV898
