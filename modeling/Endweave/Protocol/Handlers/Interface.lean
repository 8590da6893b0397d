import Endweave.Codec.Types.Enums
import Endweave.Codec.Wrapper
import Endweave.Protocol.Basic

/-!
# The handlers of packs, books, screens and options

`ResourcePackStack` between v860 and v898, `BookEdit` between v898 and v924, the data-driven screens
between v924 and v944, and `PartyChanged`, `UpdateClientOptions` and `PlayerEnchantOptions` between
v944 and v975.
-/

namespace Endweave

open PacketWrapper

/-! ### ResourcePackStack -/

def passthroughPack : PacketHandler := do
  let _ ← passthrough string
  let _ ← passthrough string
  let _ ← passthrough string

def skipPack : PacketHandler := do
  let _ ← PacketWrapper.read string
  let _ ← PacketWrapper.read string
  let _ ← PacketWrapper.read string

/-- Drop the behavior packs. -/
def V860ToV898.rewriteResourcePackStack : PacketHandler := do
  let _ ← passthrough bool -- Texture Pack Required
  let behaviorPackCount ← PacketWrapper.read uvarInt -- Add-On List
  Wire.repeatM skipPack behaviorPackCount.toNat
  passthroughLoop passthroughPack -- Texture Pack List

/-- Insert an empty list of behavior packs. -/
def V898ToV860.rewriteResourcePackStack : PacketHandler := do
  let _ ← passthrough bool -- Texture Pack Required
  write uvarInt 0 -- Add-On List
  passthroughLoop passthroughPack -- Texture Pack List

/-! ### BookEdit -/

/-- `wrapper.write(new, wrapper.read(old))`, once for each page index that an action has. -/
def mapPages (old new : FieldType Int) (action : Int) : PacketHandler :=
  if action = BookEditActionType.replacePage.value ∨ action = BookEditActionType.addPage.value then
    discard (PacketWrapper.map old new)
  else if action = BookEditActionType.deletePage.value then discard (PacketWrapper.map old new)
  else if action = BookEditActionType.swapPages.value then do
    let _ ← PacketWrapper.map old new
    let _ ← PacketWrapper.map old new
  else if action = BookEditActionType.finalize.value then pure ()
  else throw (.valueError s!"Unknown BookEdit action: {action}")

/-- A v924 client has the slot in front of the action, and both slot and pages as varints. -/
def V898ToV924.rewriteBookEdit : PacketHandler := do
  let bookSlot ← PacketWrapper.read varInt
  let action ← PacketWrapper.read byte
  write byte action
  write byte bookSlot
  mapPages varInt byte action

def V924ToV898.rewriteBookEdit : PacketHandler := do
  let action ← PacketWrapper.read byte
  let bookSlot ← PacketWrapper.read byte
  write varInt bookSlot
  write byte action
  mapPages byte varInt action

/-! ### Data-driven screens -/

namespace V924ToV944

def rewriteShowScreen : PacketHandler := do
  let _ ← passthroughAll -- ScreenId
  write intLE 0 -- FormId
  write (optionalType intLE) none -- DataInstanceId

def rewriteCloseAllScreens : PacketHandler := do
  let _ ← passthroughAll
  write (optionalType intLE) none -- FormId

end V924ToV944

namespace V944ToV924

def rewriteShowScreen : PacketHandler := do
  let _ ← passthrough string -- ScreenId
  let _ ← PacketWrapper.read intLE -- FormId
  let _ ← PacketWrapper.read (optionalType intLE) -- DataInstanceId

def rewriteCloseScreen : PacketHandler := do
  let _ ← PacketWrapper.read (optionalType intLE) -- FormId

end V944ToV924

/-! ### From v944 to v975 -/

namespace V944ToV975

/-- Drop the flag behind the party id. -/
def rewritePartyChanged : PacketHandler :=
  passthroughOptional do
    let _ ← passthrough string -- party_id
    let _ ← PacketWrapper.read bool -- is_party_leader

/-- Drop the optional bool at the end. -/
def rewriteUpdateClientOptions : PacketHandler := do
  passthroughOptional do -- Graphics Mode Change
    let _ ← passthrough byte
  let hasFilterProfanityChange ← PacketWrapper.read bool
  if hasFilterProfanityChange then discard (PacketWrapper.read bool) else pure ()

def passthroughEnchant : PacketHandler := do
  let _ ← passthrough byte -- Enchant Type
  let _ ← passthrough byte -- Enchant Level

/-- The cost becomes a byte: 255 stands for all that is more. -/
def rewriteEnchantOption : PacketHandler := do
  let cost ← PacketWrapper.read uvarInt
  write byte (min cost 0xFF)
  let _ ← passthrough intLE -- ItemEnchants.Slot
  Wire.repeatM (passthroughLoop passthroughEnchant) 3
  let _ ← passthrough string -- Enchant Name
  let _ ← passthrough uvarInt -- Enchant Net Id

def rewritePlayerEnchantOptions : PacketHandler :=
  passthroughLoop rewriteEnchantOption

end V944ToV975

end Endweave
