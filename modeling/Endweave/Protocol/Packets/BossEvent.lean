import Endweave.Codec.Equiv.Primitives
import Endweave.Protocol.Handlers.BossEvent

/-!
# The BossEvent packet

Its event types with exactly the fields that v975 has for each.
-/

namespace Endweave

open Wire

/-- An event type and its fields. -/
inductive BossEventBody where
  | showBar (barTitle filteredTitle : String) (health : UInt32)
      (screenDarkening colour overlay : Int)
  | registerPlayer (playerUniqueId : Int)
  | hide
  | unregisterPlayer (playerUniqueId : Int)
  | healthPercentage (health : UInt32)
  | title (barTitle filteredTitle : String)
  | appearanceProperties (screenDarkening colour overlay : Int)
  | texture (colour overlay : Int)
  | request (playerUniqueId : Int)
deriving Repr, DecidableEq

namespace BossEventBody

def eventType : BossEventBody → BossEventType
  | showBar .. => .showBar
  | registerPlayer _ => .registerPlayer
  | hide => .hide
  | unregisterPlayer _ => .unregisterPlayer
  | healthPercentage _ => .healthPercentage
  | title .. => .title
  | appearanceProperties .. => .appearanceProperties
  | texture .. => .texture
  | request _ => .request

/-- The fields of v1001, with the colour of v975. -/
def fields : BossEventBody → BossEventFields
  | showBar barTitle filteredTitle health _ colour overlay =>
    { title := barTitle, filteredTitle, health, colour, overlay }
  | registerPlayer playerUniqueId => { playerUniqueId }
  | hide => {}
  | unregisterPlayer playerUniqueId => { playerUniqueId }
  | healthPercentage health => { health }
  | title barTitle filteredTitle => { title := barTitle, filteredTitle }
  | appearanceProperties _ colour overlay => { colour, overlay }
  | texture colour overlay => { colour, overlay }
  | request playerUniqueId => { playerUniqueId }

/-- The same event without screen darkening. -/
def withoutDarkening : BossEventBody → BossEventBody
  | showBar barTitle filteredTitle health _ colour overlay =>
    showBar barTitle filteredTitle health 0 colour overlay
  | appearanceProperties _ colour overlay => appearanceProperties 0 colour overlay
  | body => body

/-- What v975 has behind the event type. -/
def bytes : BossEventBody → List UInt8
  | showBar barTitle filteredTitle health screenDarkening colour overlay =>
    string.bytes barTitle ++ (string.bytes filteredTitle ++ (floatLE.bytes health ++
      (ushortLE.bytes screenDarkening ++ (uvarInt.bytes colour ++ uvarInt.bytes overlay))))
  | registerPlayer playerUniqueId => varInt64.bytes playerUniqueId
  | hide => []
  | unregisterPlayer playerUniqueId => varInt64.bytes playerUniqueId
  | healthPercentage health => floatLE.bytes health
  | title barTitle filteredTitle => string.bytes barTitle ++ string.bytes filteredTitle
  | appearanceProperties screenDarkening colour overlay =>
    ushortLE.bytes screenDarkening ++ (uvarInt.bytes colour ++ uvarInt.bytes overlay)
  | texture colour overlay => uvarInt.bytes colour ++ uvarInt.bytes overlay
  | request playerUniqueId => varInt64.bytes playerUniqueId

/-- The colours of v975 end with white, 6. -/
def InColour (colour : Int) : Prop := 0 ≤ colour ∧ colour ≤ 6

instance (colour : Int) : Decidable (InColour colour) := inferInstanceAs (Decidable (_ ∧ _))

def Canonical : BossEventBody → Prop
  | showBar barTitle filteredTitle _ screenDarkening colour overlay =>
    FitsString barTitle ∧ FitsString filteredTitle ∧ InUInt16 screenDarkening ∧ InColour colour ∧
      InByte overlay
  | registerPlayer playerUniqueId | unregisterPlayer playerUniqueId | request playerUniqueId =>
    InInt64 playerUniqueId
  | hide | healthPercentage _ => True
  | title barTitle filteredTitle => FitsString barTitle ∧ FitsString filteredTitle
  | appearanceProperties screenDarkening colour overlay =>
    InUInt16 screenDarkening ∧ InColour colour ∧ InByte overlay
  | texture colour overlay => InColour colour ∧ InByte overlay

end BossEventBody

structure BossEvent where
  bossUniqueId : Int
  body : BossEventBody
deriving Repr, DecidableEq

namespace BossEvent

structure Canonical (p : BossEvent) : Prop where
  bossUniqueId : InInt64 p.bossUniqueId
  body : p.body.Canonical

/-- The packet in v975. -/
def bytes (p : BossEvent) : List UInt8 :=
  varInt64.bytes p.bossUniqueId ++ (uvarInt.bytes p.body.eventType.value ++ p.body.bytes)

def withoutDarkening (p : BossEvent) : BossEvent := { p with body := p.body.withoutDarkening }

/-- The packet in v1001. -/
def flatBytes (p : BossEvent) : List UInt8 :=
  varInt64.bytes p.bossUniqueId ++ (varInt64.bytes p.body.fields.playerUniqueId ++
    (byte.bytes p.body.eventType.value ++ (string.bytes p.body.fields.title ++
      (string.bytes p.body.fields.filteredTitle ++ (floatLE.bytes p.body.fields.health ++
        (byte.bytes (V975ToV1001.colourToV1001 p.body.fields.colour) ++
          byte.bytes p.body.fields.overlay))))))

end BossEvent

end Endweave
