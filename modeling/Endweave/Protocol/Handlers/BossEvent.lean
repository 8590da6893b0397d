import Endweave.Codec.Wrapper
import Endweave.Lib.OrderedDict

/-!
# The `BossEvent` handlers between v975 and v1001

v975 has a switch over the event type.  v1001 writes every field for every event type, the event
type, the colour and the overlay as bytes, and has no screen darkening.
-/

namespace Endweave

/-- The event types, numbered alike in both versions. -/
inductive BossEventType where
  | showBar
  | registerPlayer
  | hide
  | unregisterPlayer
  | healthPercentage
  | title
  | appearanceProperties
  | texture
  | request
deriving Repr, DecidableEq

def BossEventType.value : BossEventType → Int
  | showBar => 0
  | registerPlayer => 1
  | hide => 2
  | unregisterPlayer => 3
  | healthPercentage => 4
  | title => 5
  | appearanceProperties => 6
  | texture => 7
  | request => 8

/-- The fields that not every event type has in v975, with their zero defaults. -/
structure BossEventFields where
  playerUniqueId : Int := 0
  title : String := ""
  filteredTitle : String := ""
  health : UInt32 := 0
  colour : Int := 0
  overlay : Int := 0
deriving Repr, DecidableEq

namespace V975ToV1001

open PacketWrapper

/-- `event_type in (_REGISTER_PLAYER, _UNREGISTER_PLAYER, _REQUEST)`. -/
def hasPlayer (eventType : Int) : Bool :=
  eventType == BossEventType.registerPlayer.value ||
    eventType == BossEventType.unregisterPlayer.value ||
    eventType == BossEventType.request.value

/-- `_COLOUR_V975_TO_V1001`: white has moved. -/
def colourV975ToV1001 : OrderedDict Int Int := [(6, 7)]

/-- `_colour_to_v1001`. -/
def colourToV1001 (colourV975 : Int) : Int :=
  Int.land ((colourV975ToV1001.get? colourV975).getD colourV975) 0xFF

/-- `_COLOUR_V1001_TO_V975`. -/
def colourV1001ToV975 : OrderedDict Int Int := [(7, 6)]

/-- `_colour_to_v975`. -/
def colourToV975 (colourV1001 : Int) : Int :=
  Int.land ((colourV1001ToV975.get? colourV1001).getD colourV1001) 0xFF

/-- The switch of v975, read. -/
def readSwitch (eventType : Int) : WrapperM BossEventFields :=
  if eventType = BossEventType.showBar.value then do
    let title ← PacketWrapper.read string
    let filteredTitle ← PacketWrapper.read string
    let health ← PacketWrapper.read floatLE
    let _ ← PacketWrapper.read ushortLE -- ScreenDarkening
    let colour ← PacketWrapper.read uvarInt
    let overlay ← PacketWrapper.read uvarInt
    pure { title, filteredTitle, health, colour, overlay }
  else if hasPlayer eventType then do
    let playerUniqueId ← PacketWrapper.read varInt64
    pure { playerUniqueId }
  else if eventType = BossEventType.hide.value then pure {}
  else if eventType = BossEventType.healthPercentage.value then do
    let health ← PacketWrapper.read floatLE
    pure { health }
  else if eventType = BossEventType.title.value then do
    let title ← PacketWrapper.read string
    let filteredTitle ← PacketWrapper.read string
    pure { title, filteredTitle }
  else if eventType = BossEventType.appearanceProperties.value then do
    let _ ← PacketWrapper.read ushortLE -- ScreenDarkening
    let colour ← PacketWrapper.read uvarInt
    let overlay ← PacketWrapper.read uvarInt
    pure { colour, overlay }
  else if eventType = BossEventType.texture.value then do
    let colour ← PacketWrapper.read uvarInt
    let overlay ← PacketWrapper.read uvarInt
    pure { colour, overlay }
  else pure {}

/-- The switch of v975, written: the fields the event type has. -/
def writeSwitch (eventType : Int) (fields : BossEventFields) : PacketHandler :=
  if eventType = BossEventType.showBar.value then do
    write string fields.title
    write string fields.filteredTitle
    write floatLE fields.health
    write ushortLE 0 -- ScreenDarkening
    write uvarInt (colourToV975 fields.colour)
    write uvarInt fields.overlay
  else if hasPlayer eventType then write varInt64 fields.playerUniqueId
  else if eventType = BossEventType.hide.value then pure ()
  else if eventType = BossEventType.healthPercentage.value then write floatLE fields.health
  else if eventType = BossEventType.title.value then do
    write string fields.title
    write string fields.filteredTitle
  else if eventType = BossEventType.appearanceProperties.value then do
    write ushortLE 0 -- ScreenDarkening
    write uvarInt (colourToV975 fields.colour)
    write uvarInt fields.overlay
  else if eventType = BossEventType.texture.value then do
    write uvarInt (colourToV975 fields.colour)
    write uvarInt fields.overlay
  else pure ()

/-- The error of both directions, which differ in how they name the step. -/
def notConsumed (step : String) (eventType : Int) : PyException :=
  .valueError (s!"BossEvent {step}: input not fully consumed for event_type={eventType} " ++
    "(decode model misaligned)")

/-- The clientbound handler: flatten the switch. -/
def rewriteBossEvent : PacketHandler := do
  let bossUniqueId ← PacketWrapper.read varInt64
  let eventType ← PacketWrapper.read uvarInt
  let fields ← readSwitch eventType
  if ← hasRemaining then throw (notConsumed "v975->v1001" eventType)
  else do
    write varInt64 bossUniqueId
    write varInt64 fields.playerUniqueId
    write byte (Int.land eventType 0xFF)
    write string fields.title
    write string fields.filteredTitle
    write floatLE fields.health
    write byte (colourToV1001 fields.colour)
    write byte (Int.land fields.overlay 0xFF)

/-- The serverbound handler: back to the switch. -/
def rewriteBossEventServerbound : PacketHandler := do
  let bossUniqueId ← PacketWrapper.read varInt64
  let playerUniqueId ← PacketWrapper.read varInt64
  let eventType ← PacketWrapper.read byte
  let title ← PacketWrapper.read string
  let filteredTitle ← PacketWrapper.read string
  let health ← PacketWrapper.read floatLE
  let colour ← PacketWrapper.read byte
  let overlay ← PacketWrapper.read byte
  if ← hasRemaining then throw (notConsumed "v1001->v975 (serverbound)" eventType)
  else do
    write varInt64 bossUniqueId
    write uvarInt eventType
    writeSwitch eventType { playerUniqueId, title, filteredTitle, health, colour, overlay }

end V975ToV1001

end Endweave
