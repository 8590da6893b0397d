import Endweave.Protocol.Packets.Text

/-!
# Readers of `Text`

`readTextV898` reads what a v898 client sends: the kind byte chooses the body, and the labels and
the type in front of it may be any.  `readTextV860` reads the packet as the clientbound branch does,
with the body that the type chooses.
-/

namespace Endweave

open Wire

/-! ### Bodies -/

namespace TextBody

def strings : TextBody → List String
  | messageOnly message => [message]
  | authorAndMessage author message => [author, message]
  | messageAndParams message _ => [message]

def parameters : TextBody → List String
  | messageOnly _ => []
  | authorAndMessage _ _ => []
  | messageAndParams _ parameters => parameters

end TextBody

/-- The body of a kind. -/
def readBody : TextPacketBodyType → Parser PyException UInt8 TextBody
  | .messageOnly => do
    let message ← string.read
    pure (.messageOnly message)
  | .authorAndMessage => do
    let author ← string.read
    let message ← string.read
    pure (.authorAndMessage author message)
  | .messageAndParams => do
    let message ← string.read
    let parameters ← (arrayType string).read
    pure (.messageAndParams message parameters)

/-! ### v898 -/

/-- Labels, type and body. -/
structure LabelledBody where
  labels : List String
  textType : Int
  body : TextBody
deriving Repr, DecidableEq

structure TextV898 where
  needsTranslation : Bool
  labelled : LabelledBody
  xuid : String
  platformChatId : String
  filteredMessage : Option String
deriving Repr, DecidableEq

def readLabelled (kind : TextPacketBodyType) : Parser PyException UInt8 LabelledBody := do
  let labels ← collect string.read kind.labels.length
  let textType ← byte.read
  let body ← readBody kind
  pure { labels, textType, body }

/-- The body of a kind byte. -/
def readLabelledBody (kind : Int) : Parser PyException UInt8 LabelledBody :=
  if kind = TextPacketBodyType.messageOnly.value then readLabelled .messageOnly
  else if kind = TextPacketBodyType.authorAndMessage.value then readLabelled .authorAndMessage
  else if kind = TextPacketBodyType.messageAndParams.value then readLabelled .messageAndParams
  else throw (.valueError s!"Unknown text kind: {kind}")

def readTextV898 : Parser PyException UInt8 TextV898 := do
  let needsTranslation ← bool.read
  let kind ← byte.read
  let labelled ← readLabelledBody kind
  let xuid ← string.read
  let platformChatId ← string.read
  let filteredMessage ← (optionalType string).read
  pure { needsTranslation, labelled, xuid, platformChatId, filteredMessage }

/-! ### v860 -/

structure TextV860 where
  textType : Int
  needsTranslation : Bool
  body : TextBody
  xuid : String
  platformChatId : String
  filteredMessage : String
deriving Repr, DecidableEq

/-- The kind of body that goes with a type byte. -/
def bodyKindOf (textType : Int) : Option TextPacketBodyType :=
  if (V860ToV898.textMessageOnly.get? textType).isSome then some .messageOnly
  else if (V860ToV898.textAuthorAndMessage.get? textType).isSome then some .authorAndMessage
  else if (V860ToV898.textMessageAndParams.get? textType).isSome then some .messageAndParams
  else none

/-- The body of a type byte. -/
def readTypedBody (textType : Int) : Parser PyException UInt8 TextBody :=
  match bodyKindOf textType with
  | some kind => readBody kind
  | none => throw (.valueError s!"Unknown text type: {textType}")

def readTextV860 : Parser PyException UInt8 TextV860 := do
  let textType ← byte.read
  let needsTranslation ← bool.read
  let body ← readTypedBody textType
  let xuid ← string.read
  let platformChatId ← string.read
  let filteredMessage ← string.read
  pure { textType, needsTranslation, body, xuid, platformChatId, filteredMessage }

/-! ### The same text -/

/-- The v860 packet has the fields of the v898 one; an absent filtered message is an empty one. -/
structure SameText (p : TextV898) (q : TextV860) : Prop where
  textType : q.textType = p.labelled.textType
  needsTranslation : q.needsTranslation = p.needsTranslation
  strings : q.body.strings = p.labelled.body.strings
  parameters : q.body.parameters = p.labelled.body.parameters
  xuid : q.xuid = p.xuid
  platformChatId : q.platformChatId = p.platformChatId
  filteredMessage : q.filteredMessage = p.filteredMessage.getD ""

/-- What v860 gets of a v898 packet. -/
def TextV898.received (p : TextV898) : List UInt8 :=
  byte.bytes p.labelled.textType ++ (bool.bytes p.needsTranslation ++ (p.labelled.body.bytes ++
    (string.bytes p.xuid ++ (string.bytes p.platformChatId ++
      string.bytes (p.filteredMessage.getD "")))))

end Endweave
