import Endweave.Codec.Equiv.Primitives
import Endweave.Protocol.Handlers.Text

/-!
# The grammar of `Text`

The fields of the packet and the bytes that v860, v898 and v924 make of them.  The text type decides
which body the packet has; v898 lists the labels of all types with that body in front of the type.
-/

namespace Endweave

/-! ### Fields -/

inductive TextBody where
  | messageOnly (message : String)
  | authorAndMessage (author message : String)
  | messageAndParams (message : String) (parameters : List String)
deriving Repr, DecidableEq

def TextBody.kind : TextBody → TextPacketBodyType
  | messageOnly _ => .messageOnly
  | authorAndMessage _ _ => .authorAndMessage
  | messageAndParams _ _ => .messageAndParams

/-- The body that goes with a text type. -/
def TextPacketType.bodyType : TextPacketType → TextPacketBodyType
  | raw | tip | systemMessage | textObjectWhisper | textObject | textObjectAnnouncement =>
    .messageOnly
  | chat | whisper | announcement => .authorAndMessage
  | translate | popup | jukeboxPopup => .messageAndParams

structure TextPacket where
  textType : TextPacketType
  needsTranslation : Bool
  body : TextBody
  body_kind : body.kind = textType.bodyType
  xuid : String
  platformChatId : String
  filteredMessage : String

/-! ### The three wires -/

def TextBody.bytes : TextBody → List UInt8
  | messageOnly message => string.bytes message
  | authorAndMessage author message => string.bytes author ++ string.bytes message
  | messageAndParams message parameters =>
    string.bytes message ++ arrayBytes string.bytes parameters

/-- The text types with a body, in the order of their labels. -/
def TextPacketBodyType.types : TextPacketBodyType → List TextPacketType
  | messageOnly =>
    [.raw, .tip, .systemMessage, .textObjectWhisper, .textObjectAnnouncement, .textObject]
  | authorAndMessage => [.chat, .whisper, .announcement]
  | messageAndParams => [.translate, .popup, .jukeboxPopup]

def TextPacketBodyType.labels (kind : TextPacketBodyType) : List String :=
  kind.types.map TextPacketType.label

namespace TextPacket

def bytesV860 (p : TextPacket) : List UInt8 :=
  [byte.bytes p.textType.value, bool.bytes p.needsTranslation, p.body.bytes, string.bytes p.xuid,
    string.bytes p.platformChatId, string.bytes p.filteredMessage].flatten

/-- What v898 and v924 have behind the labels. -/
def tailBytes (p : TextPacket) : List UInt8 :=
  [p.body.bytes, string.bytes p.xuid, string.bytes p.platformChatId,
    (optionalType string).bytes (V860ToV898.orNone p.filteredMessage)].flatten

def bytesV898 (p : TextPacket) : List UInt8 :=
  [bool.bytes p.needsTranslation, byte.bytes p.body.kind.value,
    p.body.kind.labels.flatMap string.bytes, byte.bytes p.textType.value, p.tailBytes].flatten

def bytesV924 (p : TextPacket) : List UInt8 :=
  [bool.bytes p.needsTranslation, byte.bytes p.body.kind.value, byte.bytes p.textType.value,
    p.tailBytes].flatten

end TextPacket

/-! ### Canonical packets -/

def TextBody.Canonical : TextBody → Prop
  | messageOnly message => FitsString message
  | authorAndMessage author message => FitsString author ∧ FitsString message
  | messageAndParams message parameters =>
    FitsString message ∧ parameters.length < 2 ^ 32 ∧ ∀ s ∈ parameters, FitsString s

structure TextPacket.Canonical (p : TextPacket) : Prop where
  body : p.body.Canonical
  xuid : FitsString p.xuid
  platformChatId : FitsString p.platformChatId
  filteredMessage : FitsString p.filteredMessage

/-- A translated message with two parameters. -/
def sampleText : TextPacket where
  textType := .translate
  needsTranslation := true
  body := .messageAndParams "%multiplayer.player.joined" ["Steve", ""]
  body_kind := rfl
  xuid := ""
  platformChatId := ""
  filteredMessage := "joined"

theorem sampleText_canonical : sampleText.Canonical := by
  constructor
  · refine ⟨by decide, by decide, ?_⟩
    intro s hs
    simp only [List.mem_cons, List.not_mem_nil, or_false] at hs
    rcases hs with rfl | rfl <;> decide
  · decide
  · decide
  · decide

end Endweave
