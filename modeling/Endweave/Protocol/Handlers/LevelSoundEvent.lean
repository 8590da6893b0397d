import Endweave.Codec.Wrapper
import Endweave.Protocol.Basic
import Endweave.Protocol.MappingData
import Endweave.Protocol.Handlers.SoundEventMap

/-!
# The `LevelSoundEvent` handlers of v944 to v975 and of v975 to v1001

The steps before v944 use the handler of `SoundRewriter`.  v975 also has an optional position at the
end of the packet, and v1001 names the sound instead of numbering it.
-/

namespace Endweave

open PacketWrapper

def V944ToV975.rewriteLevelSoundEvent : PacketHandler := do
  let eventId ← PacketWrapper.read uvarInt
  write uvarInt (Mappings.v944V975.sound.shiftUp eventId)
  let _ ← passthrough vec3 -- Position
  let _ ← passthrough varInt -- Data
  let _ ← passthrough string -- Actor Identifier
  let _ ← passthrough bool -- Is Baby
  let _ ← passthrough bool -- Is Global
  let _ ← passthrough int64LE -- Actor Unique Id
  write bool false -- Fire At Position (not present)

def V975ToV1001.rewriteLevelSoundEvent : Direction → PacketHandler
  | .clientbound => do
    let soundId ← PacketWrapper.read uvarInt -- v975 numeric SoundType (enum id)
    write string ((soundEventNames.get? soundId).getD "")
    let _ ← passthroughAll
  | .serverbound => do
    let soundName ← PacketWrapper.read string -- v1001 String SoundType
    write uvarInt ((soundEventIds.get? soundName).getD 0)
    let _ ← passthroughAll

end Endweave
