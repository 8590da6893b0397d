import Endweave.Codec.Types.Enums
import Endweave.Codec.Wrapper
import Endweave.Protocol.Basic

/-!
# The `Text` handlers

v898 names the text types of a body by their labels in front of the type byte.  v860 has neither
the labels nor the kind of the body, v924 has the kind only.  Both modules keep the labels in tables
of their own.
-/

namespace Endweave

open PacketWrapper

/-- The labels that go with each text type of a group. -/
abbrev LabelGroup := OrderedDict Int (List String)

/-- `_build_label_group`. -/
def buildLabelGroup (types : List TextPacketType) : LabelGroup :=
  let labels := types.map TextPacketType.label
  types.map fun t => (t.value, labels)

/-- `for label in group[text_type]: wrapper.write(STRING, label)`. -/
def writeLabels (group : LabelGroup) (textType : Int) : PacketHandler :=
  match group.get? textType with
  | some labels => Wire.each (write string) labels
  | none => throw .keyError

def readLabel : PacketHandler := do
  let _ ← PacketWrapper.read string

def passthroughParameter : PacketHandler := do
  let _ ← passthrough string

/-! ### Between v860 and v898 -/

namespace V860ToV898

def messageOnlyTypes : List TextPacketType :=
  [.raw, .tip, .systemMessage, .textObjectWhisper, .textObjectAnnouncement, .textObject]

def authorAndMessageTypes : List TextPacketType := [.chat, .whisper, .announcement]

def messageAndParamsTypes : List TextPacketType := [.translate, .popup, .jukeboxPopup]

def textMessageOnly : LabelGroup := buildLabelGroup messageOnlyTypes

def textAuthorAndMessage : LabelGroup := buildLabelGroup authorAndMessageTypes

def textMessageAndParams : LabelGroup := buildLabelGroup messageAndParamsTypes

/-- The branches over the text type of the clientbound direction. -/
def labelBody (textType : Int) : PacketHandler :=
  if (textMessageOnly.get? textType).isSome then do
    write byte TextPacketBodyType.messageOnly.value
    writeLabels textMessageOnly textType
    write byte textType
    let _ ← passthrough string
  else if (textAuthorAndMessage.get? textType).isSome then do
    write byte TextPacketBodyType.authorAndMessage.value
    writeLabels textAuthorAndMessage textType
    write byte textType
    let _ ← passthrough string
    let _ ← passthrough string
  else if (textMessageAndParams.get? textType).isSome then do
    write byte TextPacketBodyType.messageAndParams.value
    writeLabels textMessageAndParams textType
    write byte textType
    let _ ← passthrough string
    passthroughLoop passthroughParameter
  else throw (.valueError s!"Unknown text type: {textType}")

/-- The branches over the kind of the serverbound direction. -/
def unlabelBody (needsTranslation : Bool) (kind : Int) : PacketHandler :=
  if kind = TextPacketBodyType.messageOnly.value then do
    Wire.repeatM readLabel 6
    let textType ← PacketWrapper.read byte
    write byte textType
    write bool needsTranslation
    let _ ← passthrough string
  else if kind = TextPacketBodyType.authorAndMessage.value then do
    Wire.repeatM readLabel 3
    let textType ← PacketWrapper.read byte
    write byte textType
    write bool needsTranslation
    let _ ← passthrough string
    let _ ← passthrough string
  else if kind = TextPacketBodyType.messageAndParams.value then do
    Wire.repeatM readLabel 3
    let textType ← PacketWrapper.read byte
    write byte textType
    write bool needsTranslation
    let _ ← passthrough string
    passthroughLoop passthroughParameter
  else throw (.valueError s!"Unknown text kind: {kind}")

/-- `filtered_message or None`. -/
def orNone (s : String) : Option String := if s = "" then none else some s

def rewriteText : Direction → PacketHandler
  | .clientbound => do
    let textType ← PacketWrapper.read byte
    let needsTranslation ← PacketWrapper.read bool
    write bool needsTranslation
    labelBody textType
    let _ ← passthrough string
    let _ ← passthrough string
    let filteredMessage ← PacketWrapper.read string
    write (optionalType string) (orNone filteredMessage)
  | .serverbound => do
    let needsTranslation ← PacketWrapper.read bool
    let kind ← PacketWrapper.read byte
    unlabelBody needsTranslation kind
    let _ ← passthrough string
    let _ ← passthrough string
    let filteredMessage ← PacketWrapper.read (optionalType string)
    write string (filteredMessage.getD "")

end V860ToV898

/-! ### Between v924 and v898 -/

namespace V924ToV898

def messageOnlyTypes : List TextPacketType :=
  [.raw, .tip, .systemMessage, .textObjectWhisper, .textObjectAnnouncement, .textObject]

def authorAndMessageTypes : List TextPacketType := [.chat, .whisper, .announcement]

def messageAndParamsTypes : List TextPacketType := [.translate, .popup, .jukeboxPopup]

def textMessageOnly : LabelGroup := buildLabelGroup messageOnlyTypes

def textAuthorAndMessage : LabelGroup := buildLabelGroup authorAndMessageTypes

def textMessageAndParams : LabelGroup := buildLabelGroup messageAndParamsTypes

/-- One branch of the clientbound direction: the labels of a group in front of the type byte. -/
def insertLabels (group : LabelGroup) : PacketHandler := do
  let textType ← PacketWrapper.read byte
  writeLabels group textType
  write byte textType

/-- One branch of the serverbound direction: no labels in front of the type byte. -/
def dropLabels (count : Nat) : PacketHandler := do
  Wire.repeatM readLabel count
  let _ ← passthrough byte

/-- The branch that goes with a kind. -/
def branchOn (kind : Int) (messageOnly authorAndMessage messageAndParams : PacketHandler) :
    PacketHandler :=
  if kind = TextPacketBodyType.messageOnly.value then messageOnly
  else if kind = TextPacketBodyType.authorAndMessage.value then authorAndMessage
  else if kind = TextPacketBodyType.messageAndParams.value then messageAndParams
  else throw (.valueError s!"Unknown text kind: {kind}")

def rewriteText (direction : Direction) : PacketHandler := do
  let _ ← passthrough bool -- Localize?
  let kind ← PacketWrapper.read byte
  write byte kind
  match direction with
  | .clientbound =>
    branchOn kind (insertLabels textMessageOnly) (insertLabels textAuthorAndMessage)
      (insertLabels textMessageAndParams)
  | .serverbound => branchOn kind (dropLabels 6) (dropLabels 3) (dropLabels 3)

end V924ToV898

end Endweave
