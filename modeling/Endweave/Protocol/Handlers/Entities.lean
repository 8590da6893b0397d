import Endweave.Codec.Types.Enums
import Endweave.Codec.Wrapper
import Endweave.Protocol.Basic

/-!
# The handlers of `Event`, `MobEffect`, `Interact`, `ActorEvent` and `ClientMovementPredictionSync`

Between v860 and v898 the first two differ in one field and `Interact` in how it says that there is
a position.  v975 has fields at the end of the other two that v944 does not have.
-/

namespace Endweave

open PacketWrapper

/-- `_HAS_POSITION`, in both directions. -/
def hasPosition (action : Int) : Bool :=
  action == InteractAction.interactUpdate.value || action == InteractAction.stopRiding.value

/-- The fields of `MobEffect` up to the one that only v898 has. -/
def passthroughMobEffect : PacketHandler := do
  let _ ← passthrough uvarInt64 -- Target Runtime ID
  let _ ← passthrough byte -- Event ID
  let _ ← passthrough varInt -- Effect ID
  let _ ← passthrough varInt -- Effect Amplifier
  let _ ← passthrough bool -- Show Particles
  let _ ← passthrough varInt -- Effect Duration Ticks
  let _ ← passthrough uvarInt64 -- Tick

/-! ### From v860 to v898 -/

namespace V860ToV898

def rewriteEvent : PacketHandler := do
  let _ ← passthrough varInt64 -- Target Actor ID
  let eventType ← passthrough varInt
  let _ ← passthrough bool -- Use Player ID
  write uvarInt eventType -- Event Data
  let _ ← passthroughAll

def rewriteMobEffect : PacketHandler := do
  passthroughMobEffect
  write bool false -- Ambient

/-- The position of an action, which v860 has exactly for two of them. -/
def rewritePosition (action : Int) (hasMousePosition : Bool) : PacketHandler :=
  if hasPosition action then
    if hasMousePosition then discard (passthrough vec3) else write vec3 (0, 0, 0)
  else if hasMousePosition then discard (PacketWrapper.read vec3)
  else pure ()

def rewriteInteract : PacketHandler := do
  let action ← passthrough byte
  let _ ← passthrough uvarInt64 -- Target Runtime ID
  let hasMousePosition ← PacketWrapper.read bool
  rewritePosition action hasMousePosition

end V860ToV898

/-! ### From v898 to v860 -/

namespace V898ToV860

def rewriteEvent : PacketHandler := do
  let _ ← passthrough varInt64 -- Target Actor ID
  let _ ← passthrough varInt -- Event Type
  let _ ← passthrough bool -- Use Player ID
  let _ ← PacketWrapper.read uvarInt -- Event Data
  let _ ← passthroughAll

def rewriteMobEffect : PacketHandler := do
  passthroughMobEffect
  let _ ← PacketWrapper.read bool -- Ambient

def rewriteInteract : PacketHandler := do
  let action ← passthrough byte
  let _ ← passthrough uvarInt64 -- Target Runtime ID
  if hasPosition action then write bool true else write bool false

end V898ToV860

/-! ### From v944 to v975 -/

namespace V944ToV975

def rewriteActorEvent : Direction → PacketHandler
  | .clientbound => do
    let _ ← passthroughAll -- Target Runtime ID, Event ID, Data
    write bool false -- Fire At Position (not present)
  | .serverbound => do
    let _ ← passthrough uvarInt64 -- Target Runtime ID
    let _ ← passthrough byte -- Event ID
    let _ ← passthrough varInt -- Data
    let hasFireAtPosition ← PacketWrapper.read bool
    if hasFireAtPosition then discard (PacketWrapper.read vec3) else pure ()

/-- The rounds of `_passthrough_bitset`, at most `rounds` of them. -/
def passthroughBitsetUpTo : Nat → PacketHandler
  | 0 => throw .indexError
  | rounds + 1 => do
    let b ← passthrough byte
    if Int.land b 0x80 = 0 then pure () else passthroughBitsetUpTo rounds

/-- `_passthrough_bitset`.  Every round takes a byte, so the unread bytes bound the rounds. -/
def passthroughBitset : PacketHandler := fun w =>
  passthroughBitsetUpTo (w.reader.rest.length + 1) w

def rewriteClientMovementPredictionSync : PacketHandler := do
  passthroughBitset -- ActorDataFlagComponent
  Wire.repeatM (discard (passthrough floatLE)) 9 -- bounding box and base movement attributes
  Wire.repeatM (discard (PacketWrapper.read floatLE)) 3 -- v975-only attributes
  let _ ← passthrough varInt64 -- Actor Unique ID
  let _ ← passthrough bool -- Flying

end V944ToV975

end Endweave
