import Endweave.Codec.Equiv.Primitives
import Endweave.Protocol.Handlers.Interface
import Endweave.Protocol.PacketFormat
import Endweave.Protocol.PacketIds

/-!
# The packets of packs, books, screens and options

What each version has of them.  A field that only some versions have is at its default elsewhere.
-/

namespace Endweave

open Wire

/-! ### ResourcePackStack -/

structure Pack where
  id : String
  version : String
  subPackName : String
deriving Repr, DecidableEq

namespace Pack

def bytes (p : Pack) : List UInt8 :=
  string.bytes p.id ++ (string.bytes p.version ++ string.bytes p.subPackName)

structure Canonical (p : Pack) : Prop where
  id : FitsString p.id
  version : FitsString p.version
  subPackName : FitsString p.subPackName

end Pack

/-- v898 has no behavior packs any more. -/
structure ResourcePackStack where
  texturePackRequired : Bool
  behaviorPacks : List Pack
  texturePacks : List Pack
  rest : List UInt8
deriving Repr, DecidableEq

namespace ResourcePackStack

structure Canonical (p : ResourcePackStack) : Prop where
  behaviorPacks : ∀ pack ∈ p.behaviorPacks, pack.Canonical
  texturePacks : ∀ pack ∈ p.texturePacks, pack.Canonical
  behaviorCount : p.behaviorPacks.length < 2 ^ 32
  textureCount : p.texturePacks.length < 2 ^ 32

def format : PacketFormat where
  Data := ResourcePackStack
  direction := .clientbound
  packetId := PacketId.resourcePackStack
  changes := [898]
  form
    | 0, p => bool.bytes p.texturePackRequired ++ (arrayBytes Pack.bytes p.behaviorPacks ++
        (arrayBytes Pack.bytes p.texturePacks ++ p.rest))
    | _, p => bool.bytes p.texturePackRequired ++
        (arrayBytes Pack.bytes p.texturePacks ++ p.rest)
  Canonical := Canonical
  upTo p := if p.behaviorPacks = [] then 1001 else 860

end ResourcePackStack

/-! ### BookEdit -/

/-- An action with its pages. -/
inductive BookEditAction where
  | replacePage (page : Int)
  | addPage (page : Int)
  | deletePage (page : Int)
  | swapPages (page other : Int)
  | finalize
deriving Repr, DecidableEq

namespace BookEditAction

def type : BookEditAction → BookEditActionType
  | replacePage _ => .replacePage
  | addPage _ => .addPage
  | deletePage _ => .deletePage
  | swapPages .. => .swapPages
  | finalize => .finalize

def pages : BookEditAction → List Int
  | replacePage page | addPage page | deletePage page => [page]
  | swapPages page other => [page, other]
  | finalize => []

end BookEditAction

/-- v924 has the slot in front of the action, and slot and pages as varints.  The texts follow. -/
structure BookEdit where
  bookSlot : Int
  action : BookEditAction
  rest : List UInt8
deriving Repr, DecidableEq

namespace BookEdit

structure Canonical (p : BookEdit) : Prop where
  bookSlot : InByte p.bookSlot
  pages : ∀ page ∈ p.action.pages, InByte page

def format : PacketFormat where
  Data := BookEdit
  direction := .serverbound
  packetId := PacketId.bookEdit
  changes := [924]
  form
    | 0, p => byte.bytes p.action.type.value ++ (byte.bytes p.bookSlot ++
        (p.action.pages.flatMap byte.bytes ++ p.rest))
    | _, p => varInt.bytes p.bookSlot ++ (byte.bytes p.action.type.value ++
        (p.action.pages.flatMap varInt.bytes ++ p.rest))
  Canonical := Canonical

end BookEdit

/-! ### Data-driven screens -/

/-- v944 gives each screen an id of its form and of the instance of its data. -/
structure ShowScreen where
  screenId : String
  formId : Int
  dataInstanceId : Option Int
deriving Repr, DecidableEq

namespace ShowScreen

structure Canonical (p : ShowScreen) : Prop where
  screenId : FitsString p.screenId
  formId : InInt32 p.formId
  dataInstanceId : ∀ id, p.dataInstanceId = some id → InInt32 id

def format : PacketFormat where
  Data := ShowScreen
  direction := .clientbound
  packetId := PacketId.clientboundDataDrivenUiShowScreen
  changes := [944]
  form
    | 0, p => string.bytes p.screenId
    | _, p => string.bytes p.screenId ++ (intLE.bytes p.formId ++
        (optionalType intLE).bytes p.dataInstanceId)
  Canonical := Canonical
  since p := if p.formId = 0 ∧ p.dataInstanceId = none then 924 else 944
  firstVersion := 924

end ShowScreen

/-- v944 closes one form, or all of them. -/
structure CloseScreen where
  formId : Option Int
deriving Repr, DecidableEq

namespace CloseScreen

def format : PacketFormat where
  Data := CloseScreen
  direction := .clientbound
  packetId := PacketId.clientboundDataDrivenUiCloseAllScreens
  changes := [944]
  form
    | 0, _ => []
    | _, p => (optionalType intLE).bytes p.formId
  Canonical p := ∀ id, p.formId = some id → InInt32 id
  since p := if p.formId = none then 924 else 944
  firstVersion := 924

end CloseScreen

/-! ### Parties and options -/

/-- v975 says whether the player leads the party. -/
structure PartyChanged where
  party : Option (String × Bool)
deriving Repr, DecidableEq

namespace PartyChanged

def format : PacketFormat where
  Data := PartyChanged
  direction := .serverbound
  packetId := PacketId.partyChanged
  changes := [975]
  form
    | 0, p => (optionalType string).bytes (p.party.map Prod.fst)
    | _, p => match p.party with
      | none => bool.bytes false
      | some (partyId, isPartyLeader) =>
        bool.bytes true ++ (string.bytes partyId ++ bool.bytes isPartyLeader)
  Canonical p := ∀ party, p.party = some party → FitsString party.1
  firstVersion := 944

end PartyChanged

/-- v975 has the change of the profanity filter too. -/
structure UpdateClientOptions where
  graphicsMode : Option Int
  filterProfanity : Option Bool
deriving Repr, DecidableEq

namespace UpdateClientOptions

def format : PacketFormat where
  Data := UpdateClientOptions
  direction := .serverbound
  packetId := PacketId.updateClientOptions
  changes := [975]
  form
    | 0, p => (optionalType byte).bytes p.graphicsMode
    | _, p => (optionalType byte).bytes p.graphicsMode ++
        (optionalType bool).bytes p.filterProfanity
  Canonical p := ∀ mode, p.graphicsMode = some mode → InByte mode

end UpdateClientOptions

/-! ### PlayerEnchantOptions -/

structure Enchant where
  type : Int
  level : Int
deriving Repr, DecidableEq

namespace Enchant

def bytes (e : Enchant) : List UInt8 := byte.bytes e.type ++ byte.bytes e.level

structure Canonical (e : Enchant) : Prop where
  type : InByte e.type
  level : InByte e.level

end Enchant

/-- There are three lists of enchants, by when they apply. -/
structure EnchantOption where
  cost : Int
  slot : Int
  enchants : List (List Enchant)
  name : String
  netId : Int
deriving Repr, DecidableEq

namespace EnchantOption

/-- What follows the cost. -/
def tail (o : EnchantOption) : List UInt8 :=
  intLE.bytes o.slot ++ (o.enchants.flatMap (arrayBytes Enchant.bytes) ++
    (string.bytes o.name ++ uvarInt.bytes o.netId))

structure Canonical (o : EnchantOption) : Prop where
  cost : InUInt32 o.cost
  slot : InInt32 o.slot
  lists : o.enchants.length = 3
  counts : ∀ es ∈ o.enchants, es.length < 2 ^ 32
  enchants : ∀ es ∈ o.enchants, ∀ e ∈ es, e.Canonical
  name : FitsString o.name
  netId : InUInt32 o.netId

end EnchantOption

/-- The costs are bytes in v975: a higher one gets there as 255. -/
structure PlayerEnchantOptions where
  options : List EnchantOption
deriving Repr, DecidableEq

namespace PlayerEnchantOptions

structure Canonical (p : PlayerEnchantOptions) : Prop where
  count : p.options.length < 2 ^ 32
  options : ∀ o ∈ p.options, o.Canonical

def format : PacketFormat where
  Data := PlayerEnchantOptions
  direction := .clientbound
  packetId := PacketId.playerEnchantOptions
  changes := [975]
  form
    | 0, p => arrayBytes (fun o => uvarInt.bytes o.cost ++ o.tail) p.options
    | _, p => arrayBytes (fun o => byte.bytes (min o.cost 255) ++ o.tail) p.options
  Canonical := Canonical

end PlayerEnchantOptions

end Endweave
