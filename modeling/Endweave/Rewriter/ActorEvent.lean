import Endweave.Protocol.Basic
import Endweave.Protocol.MappingData
import Endweave.Protocol.PacketIds

/-!
# `ActorEventRewriter`

Shifts the id of an ActorEvent; the downgrade cancels the packet of an inserted id.
-/

namespace Endweave

open PacketWrapper

structure ActorEventRewriter where
  shift : IdShift
  upgrade : Bool

namespace ActorEventRewriter

def rewriteUpgrade (r : ActorEventRewriter) : PacketHandler := do
  let _ ← passthrough uvarInt64 -- Target Runtime ID
  let eventId ← PacketWrapper.read byte
  write byte (r.shift.shiftUp eventId)

def rewriteDowngrade (r : ActorEventRewriter) : PacketHandler := do
  let _ ← passthrough uvarInt64 -- Target Runtime ID
  let eventId ← PacketWrapper.read byte
  if r.shift.insertAt ≤ eventId ∧ eventId < r.shift.insertAt + r.shift.count then cancel
  else write byte (r.shift.shiftDown eventId)

def register (r : ActorEventRewriter) (p : Protocol) : Protocol :=
  p.registerClientbound PacketId.actorEvent
    (if r.upgrade then r.rewriteUpgrade else r.rewriteDowngrade)

end ActorEventRewriter

end Endweave
