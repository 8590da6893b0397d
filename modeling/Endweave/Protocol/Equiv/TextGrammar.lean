import Endweave.Codec.Equiv.Runs
import Endweave.Codec.Equiv.Untrusted
import Endweave.Protocol.Equiv.Text
import Endweave.Protocol.Packets.TextGrammar

/-!
# Chat packets of any client

`text_wellFormed_iff`: what the serverbound branch makes of a v898 packet is a v860 packet with the
same fields exactly when the type is one that goes with the kind of the body and the parameters are
counted in 32 bits.  The branch takes the kind for the shape of the body and the type as it comes,
while v860 has the type only.
-/

namespace Endweave

open Wire PacketReader PacketWrapper V860ToV898

/-! ### What the serverbound branch has sent -/

theorem readLabel_sent {s s' : PacketWrapper} (hok : readLabel s = .ok () s') :
    ∃ v, Sent string.read v [] s s' := by
  obtain ⟨v, s₁, hread, hok⟩ := bind_eq_ok hok
  obtain ⟨_, rfl⟩ := pure_eq_ok_iff.mp hok
  exact ⟨v, read_sent hread⟩

theorem readLabels_sent {n : Nat} {s s' : PacketWrapper}
    (hok : Wire.repeatM readLabel n s = .ok () s') :
    ∃ labels, Sent (collect string.read n) labels [] s s' := by
  obtain ⟨labels, hlabels⟩ := repeatM_sent (fun _ _ h => readLabel_sent h) hok
  have hnil : labels.flatMap (fun _ => ([] : List UInt8)) = [] := List.flatMap_eq_nil_iff.mpr
    fun _ _ => rfl
  rw [hnil] at hlabels
  exact ⟨labels, hlabels⟩

theorem passthroughParameter_sent {s s' : PacketWrapper}
    (hok : passthroughParameter s = .ok () s') :
    ∃ v, Sent string.read v (string.bytes v) s s' := by
  obtain ⟨v, s₁, hv, hok⟩ := bind_eq_ok hok
  obtain ⟨_, rfl⟩ := pure_eq_ok_iff.mp hok
  exact ⟨v, passthrough_sent (string_writes v) hv⟩

/-- Labels, type and flag; then a handler for the body. -/
theorem unlabel_sent {kind : TextPacketBodyType} {n : Nat} {needsTranslation : Bool}
    {copy : PacketHandler} {s s' : PacketWrapper} (hn : kind.labels.length = n)
    (hcopy : ∀ s s', copy s = .ok () s' →
      ∃ body : TextBody, Sent (readBody kind) body body.bytes s s')
    (hok : (do
      Wire.repeatM readLabel n
      let textType ← PacketWrapper.read byte
      PacketWrapper.write byte textType
      PacketWrapper.write bool needsTranslation
      copy : PacketHandler) s = .ok () s') :
    ∃ b, Sent (readLabelled kind) b
      (byte.bytes b.textType ++ (bool.bytes needsTranslation ++ b.body.bytes)) s s' := by
  obtain ⟨_, s₁, hlabels, hok⟩ := bind_eq_ok hok
  obtain ⟨labels, hlabels⟩ := readLabels_sent hlabels
  obtain ⟨textType, s₂, htype, hok⟩ := bind_eq_ok hok
  obtain ⟨_, s₃, hwrite, hok⟩ := bind_eq_ok hok
  obtain ⟨_, s₄, hflag, hok⟩ := bind_eq_ok hok
  obtain ⟨body, hbody⟩ := hcopy s₄ s' hok
  refine ⟨⟨labels, textType, body⟩, ?_⟩
  subst hn
  apply hlabels.drop
  apply Sent.read htype
  apply Sent.write (byte_codes textType).writes hwrite
  apply Sent.write (bool_roundTrips needsTranslation).writes hflag
  exact hbody.last rfl

theorem unlabelBody_sent {needsTranslation : Bool} {kind : Int} {s s' : PacketWrapper}
    (hok : unlabelBody needsTranslation kind s = .ok () s') :
    ∃ b, Sent (readLabelledBody kind) b
      (byte.bytes b.textType ++ (bool.bytes needsTranslation ++ b.body.bytes)) s s' := by
  unfold unlabelBody at hok
  unfold readLabelledBody
  -- both switch on the kind byte in the same order
  split_ifs at hok ⊢
  · refine unlabel_sent rfl (fun s s' hcopy => ?_) hok
    obtain ⟨message, s₁, hmessage, hcopy⟩ := bind_eq_ok hcopy
    obtain ⟨_, rfl⟩ := pure_eq_ok_iff.mp hcopy
    exact ⟨.messageOnly message,
      (passthrough_sent (string_writes message) hmessage).last rfl⟩
  · refine unlabel_sent rfl (fun s s' hcopy => ?_) hok
    obtain ⟨author, s₁, hauthor, hcopy⟩ := bind_eq_ok hcopy
    obtain ⟨message, s₂, hmessage, hcopy⟩ := bind_eq_ok hcopy
    obtain ⟨_, rfl⟩ := pure_eq_ok_iff.mp hcopy
    exact ⟨.authorAndMessage author message,
      (passthrough_sent (string_writes author) hauthor).bind
        ((passthrough_sent (string_writes message) hmessage).last rfl)⟩
  · refine unlabel_sent rfl (fun s s' hcopy => ?_) hok
    obtain ⟨message, s₁, hmessage, hcopy⟩ := bind_eq_ok hcopy
    obtain ⟨parameters, hparameters⟩ :=
      passthroughLoop_sent (fun _ _ h => passthroughParameter_sent h) (T := string) rfl hcopy
    exact ⟨.messageAndParams message parameters,
      (passthrough_sent (string_writes message) hmessage).bind (hparameters.last rfl)⟩
  · cases hok

/-- The serverbound branch returns on what the reader of v898 accepts, and nowhere else. -/
theorem rewriteText_sent {s s' : PacketWrapper} (hok : rewriteText .serverbound s = .ok () s') :
    ∃ p, Sent readTextV898 p p.received s s' := by
  obtain ⟨needsTranslation, s₁, hflag, hok⟩ := bind_eq_ok hok
  obtain ⟨kind, s₂, hkind, hok⟩ := bind_eq_ok hok
  obtain ⟨_, s₃, hbody, hok⟩ := bind_eq_ok hok
  obtain ⟨b, hbody⟩ := unlabelBody_sent hbody
  obtain ⟨xuid, s₄, hxuid, hok⟩ := bind_eq_ok hok
  obtain ⟨platformChatId, s₅, hchat, hok⟩ := bind_eq_ok hok
  obtain ⟨filteredMessage, s₆, hfiltered, hok⟩ := bind_eq_ok hok
  refine ⟨⟨needsTranslation, b, xuid, platformChatId, filteredMessage⟩, ?_⟩
  have hreceived : TextV898.received ⟨needsTranslation, b, xuid, platformChatId, filteredMessage⟩ =
      (byte.bytes b.textType ++ (bool.bytes needsTranslation ++ b.body.bytes)) ++
        (string.bytes xuid ++ (string.bytes platformChatId ++
          string.bytes (filteredMessage.getD ""))) := by
    simp only [TextV898.received, List.append_assoc]
  rw [hreceived]
  apply Sent.read hflag
  apply Sent.read hkind
  apply hbody.bind
  apply (passthrough_sent (string_writes xuid) hxuid).bind
  apply (passthrough_sent (string_writes platformChatId) hchat).bind
  -- an absent filtered message is written as an empty one
  apply Sent.read hfiltered
  rw [← List.append_nil (string.bytes _)]
  apply Sent.write (string_writes _) hok
  exact ⟨s'.reader, rfl, by rw [List.append_nil]⟩

/-! ### What has been read -/

structure TextBody.Fits (body : TextBody) : Prop where
  strings : ∀ v ∈ body.strings, FitsString v
  parameters : ∀ v ∈ body.parameters, FitsString v

/-- What the reader of v898 promises of a packet. -/
structure TextV898.Fits (p : TextV898) : Prop where
  textType : InByte p.labelled.textType
  body : p.labelled.body.Fits
  xuid : FitsString p.xuid
  platformChatId : FitsString p.platformChatId
  filteredMessage : FitsString (p.filteredMessage.getD "")

theorem readBody_returns (kind : TextPacketBodyType) :
    Refines (readBody kind) (readBody kind) fun body => body.Fits ∧ body.kind = kind := by
  cases kind with
  | messageOnly =>
    apply readString_returns.bind
    intro message hmessage
    refine Refines.pure ⟨⟨?_, nofun⟩, rfl⟩
    intro v hv
    rwa [List.mem_singleton.mp hv]
  | authorAndMessage =>
    apply readString_returns.bind
    intro author hauthor
    apply readString_returns.bind
    intro message hmessage
    refine Refines.pure ⟨⟨?_, nofun⟩, rfl⟩
    intro v hv
    rcases List.mem_pair.mp hv with rfl | rfl
    · exact hauthor
    · exact hmessage
  | messageAndParams =>
    apply readString_returns.bind
    intro message hmessage
    apply (arrayType_returns (T := string) readString_returns).bind
    intro parameters hparameters
    refine Refines.pure ⟨⟨?_, hparameters⟩, rfl⟩
    intro v hv
    rwa [List.mem_singleton.mp hv]

theorem readLabelled_returns (kind : TextPacketBodyType) :
    Refines (readLabelled kind) (readLabelled kind)
      fun b => InByte b.textType ∧ b.body.Fits := by
  apply (readString_returns.collect _).bind
  intro labels _
  apply readByte_returns.bind
  intro textType htype
  apply (readBody_returns kind).bind
  intro body hbody
  exact Refines.pure ⟨htype, hbody.1⟩

theorem readLabelledBody_returns (kind : Int) :
    Refines (readLabelledBody kind) (readLabelledBody kind)
      fun b => InByte b.textType ∧ b.body.Fits := by
  apply Refines.ite fun _ => readLabelled_returns _
  intro _
  apply Refines.ite fun _ => readLabelled_returns _
  intro _
  apply Refines.ite fun _ => readLabelled_returns _
  exact fun _ => Refines.throw _

theorem readTextV898_returns : Refines readTextV898 readTextV898 TextV898.Fits := by
  apply (returns_any bool_compacts).bind
  intro needsTranslation _
  apply readByte_returns.bind
  intro kind _
  apply (readLabelledBody_returns kind).bind
  intro b hb
  apply readString_returns.bind
  intro xuid hxuid
  apply readString_returns.bind
  intro platformChatId hchat
  apply (optionalType_returns (T := string) readString_returns).bind
  intro filteredMessage hfiltered
  refine Refines.pure ⟨hb.1, hb.2, hxuid, hchat, ?_⟩
  cases filteredMessage with
  | none =>
    show FitsString ""
    decide
  | some message => exact hfiltered message rfl

/-! ### What the server reads -/

/-- A body is read back as its kind, up to the number of its parameters. -/
theorem readBody_reads {body : TextBody} (h : body.Fits)
    (hlen : body.parameters.length < 2 ^ 32) : Reads (readBody body.kind) body.bytes body := by
  cases body with
  | messageOnly message =>
    exact (string_reads (h.strings message (List.mem_singleton_self _))).bind_pure rfl
  | authorAndMessage author message =>
    apply (string_reads (h.strings author (List.mem_cons_self ..))).bind
    exact (string_reads (h.strings message (by simp [TextBody.strings]))).bind_pure rfl
  | messageAndParams message parameters =>
    apply (string_reads (h.strings message (List.mem_singleton_self _))).bind
    have hparameters := fun v hv => string_roundTrips (h.parameters v hv)
    have hreads := (arrayType_roundTrips hlen hparameters).reads
    rw [arrayType_bytes hlen hparameters] at hreads
    exact hreads.bind_pure rfl

section SameBody

variable {xuid platformChatId filteredMessage x y z message : String} {parameters : List String}
  {c c₁ c₂ c₃ c₄ : PacketReader} (hx : string.read c₁ = .ok x c₂) (hy : string.read c₂ = .ok y c₃)
  (hz : string.read c₃ = .ok z c₄) (hend : c₄.rest = []) (hc : c.Within)

include hx hy hz hc

/-- A message that the server takes for one with parameters: with none of them, the count is the
length of the xuid, and there are two strings left of three. -/
theorem not_messageAndParams (hm : FitsString message) (hxuid : FitsString xuid)
    (hp : FitsString platformChatId) (hf : FitsString filteredMessage)
    (hrest : c.rest = string.bytes message ++ (string.bytes xuid ++
      (string.bytes platformChatId ++ string.bytes filteredMessage))) :
    readBody .messageAndParams c ≠ .ok (.messageAndParams message []) c₁ := by
  intro hbody
  obtain ⟨message', c₅, hmessage, hbody⟩ := bind_eq_ok hbody
  obtain ⟨_, hc₅, hrest₅⟩ := (string_reads hm).of_ok hc hrest hmessage
  obtain ⟨none, c₆, hnone, hbody⟩ := bind_eq_ok hbody
  obtain ⟨hpure, rfl⟩ := pure_eq_ok_iff.mp hbody
  obtain ⟨rfl, rfl⟩ := TextBody.messageAndParams.inj hpure
  rw [string_bytes_eq, List.append_assoc] at hrest₅
  obtain ⟨hlen, c₇, hc₇, hrest₇, hcollect⟩ := length_of_arrayType hc₅ hrest₅ hnone
  -- the xuid is empty, and the loop over the parameters has not moved
  obtain ⟨_, rfl⟩ := pure_eq_ok_iff.mp hcollect
  have hempty : PacketWriter.encodeUtf8 xuid = [] := by
    have hfits : (PacketWriter.encodeUtf8 xuid).length ≤ maxStringBytes := hxuid
    have hmax : maxStringBytes < 2 ^ 32 := by decide
    rw [List.length_nil] at hlen
    rw [← List.length_eq_zero_iff]
    omega
  rw [hempty, List.nil_append] at hrest₇
  obtain ⟨_, hc₂, hrest₂⟩ := (string_reads hp).of_ok hc₇ hrest₇ hx
  rw [← List.append_nil (string.bytes filteredMessage)] at hrest₂
  obtain ⟨_, _, hrest₃⟩ := (string_reads hf).of_ok hc₂ hrest₂ hy
  exact string_read_end hrest₃ hz

include hend

/-- A message without parameters that the server takes for one that has none: the count stays for
the xuid, and a string is left over. -/
theorem not_messageOnly (hm : FitsString message) (hxuid : FitsString xuid)
    (hp : FitsString platformChatId)
    (hrest : c.rest = string.bytes message ++ (arrayBytes string.bytes [] ++ (string.bytes xuid ++
      (string.bytes platformChatId ++ string.bytes filteredMessage)))) :
    readBody .messageOnly c ≠ .ok (.messageOnly message) c₁ := by
  intro hbody
  obtain ⟨message', c₅, hmessage, hbody⟩ := bind_eq_ok hbody
  obtain ⟨_, hc₅, hrest₅⟩ := (string_reads hm).of_ok hc hrest hmessage
  obtain ⟨_, rfl⟩ := pure_eq_ok_iff.mp hbody
  -- no parameters and an empty string are the same byte
  have hcount : arrayBytes string.bytes [] = string.bytes "" := by
    rw [string_bytes_eq]
    rfl
  rw [hcount] at hrest₅
  obtain ⟨_, hc₂, hrest₂⟩ := (string_reads (by decide)).of_ok hc₅ hrest₅ hx
  obtain ⟨_, hc₃, hrest₃⟩ := (string_reads hxuid).of_ok hc₂ hrest₂ hy
  obtain ⟨_, _, hrest₄⟩ := (string_reads hp).of_ok hc₃ hrest₃ hz
  have hpos := length_string_bytes_pos filteredMessage
  rw [← hrest₄, hend] at hpos
  exact absurd hpos (by decide)

/-- A body that is read with the strings and the parameters that were written, and with all three
strings behind it, is read as its kind. -/
theorem readBody_same {kind : TextPacketBodyType} {body body' : TextBody} (hfits : body.Fits)
    (hxuid : FitsString xuid) (hp : FitsString platformChatId) (hf : FitsString filteredMessage)
    (hrest : c.rest = body.bytes ++ (string.bytes xuid ++
      (string.bytes platformChatId ++ string.bytes filteredMessage)))
    (hbody : readBody kind c = .ok body' c₁) (hstrings : body'.strings = body.strings)
    (hparameters : body'.parameters = body.parameters) :
    kind = body.kind ∧ body.parameters.length < 2 ^ 32 := by
  obtain ⟨_, _, _, rfl⟩ := readBody_returns kind c body' c₁ hc hbody
  -- the number of strings sets the body with an author apart from the other two
  cases body' with
  | messageOnly message' =>
    cases body with
    | messageOnly message => exact ⟨rfl, Nat.two_pow_pos 32⟩
    | authorAndMessage author message => simp [TextBody.strings] at hstrings
    | messageAndParams message parameters =>
      obtain rfl : message' = message := List.singleton_inj.mp hstrings
      obtain rfl : [] = parameters := hparameters
      rw [TextBody.bytes, List.append_assoc] at hrest
      have hm := hfits.strings message' (List.mem_singleton_self _)
      exact absurd hbody (not_messageOnly hx hy hz hend hc hm hxuid hp hrest)
  | authorAndMessage author' message' =>
    cases body with
    | messageOnly message => simp [TextBody.strings] at hstrings
    | authorAndMessage author message => exact ⟨rfl, Nat.two_pow_pos 32⟩
    | messageAndParams message parameters => simp [TextBody.strings] at hstrings
  | messageAndParams message' parameters' =>
    cases body with
    | messageOnly message =>
      obtain rfl : message' = message := List.singleton_inj.mp hstrings
      obtain rfl : parameters' = [] := hparameters
      have hm := hfits.strings message' (List.mem_singleton_self _)
      exact absurd hbody (not_messageAndParams hx hy hz hc hm hxuid hp hf hrest)
    | authorAndMessage author message => simp [TextBody.strings] at hstrings
    | messageAndParams message parameters =>
      refine ⟨rfl, ?_⟩
      obtain rfl : parameters' = parameters := hparameters
      -- the count is written in 32 bits, and the server has read as many parameters as were sent
      have hm := hfits.strings message (List.mem_singleton_self _)
      rw [TextBody.bytes, arrayBytes, List.append_assoc, List.append_assoc] at hrest
      obtain ⟨_, c₅, hmessage, hbody⟩ := bind_eq_ok hbody
      obtain ⟨_, hc₅, hrest₅⟩ := (string_reads hm).of_ok hc hrest hmessage
      obtain ⟨parameters, c₆, hread, hbody⟩ := bind_eq_ok hbody
      obtain ⟨hpure, rfl⟩ := pure_eq_ok_iff.mp hbody
      obtain ⟨_, rfl⟩ := TextBody.messageAndParams.inj hpure
      obtain ⟨hlen, _⟩ := length_of_arrayType hc₅ hrest₅ hread
      show parameters.length < 2 ^ 32
      omega

end SameBody

theorem bodyKindOf_of_readTypedBody {textType : Int} {body : TextBody} {c c' : PacketReader}
    (h : readTypedBody textType c = .ok body c') :
    ∃ kind, bodyKindOf textType = some kind ∧ readBody kind c = .ok body c' := by
  unfold readTypedBody at h
  cases hkind : bodyKindOf textType with
  | none =>
    rw [hkind] at h
    cases h
  | some kind =>
    rw [hkind] at h
    exact ⟨kind, rfl, h⟩

/-- What was sent for a packet is a v860 packet with the same fields exactly when its type goes with
its body. -/
theorem received_parses_iff {p : TextV898} (h : p.Fits) :
    (∃ q, readTextV860 ⟨p.received, 0⟩ = .ok q ⟨p.received, p.received.length⟩ ∧ SameText p q) ↔
      bodyKindOf p.labelled.textType = some p.labelled.body.kind ∧
        p.labelled.body.parameters.length < 2 ^ 32 := by
  have htype := (byte_roundTrips h.textType).reads
  have hflag := (bool_roundTrips p.needsTranslation).reads
  constructor
  · rintro ⟨q, hparses, hsame⟩
    obtain ⟨textType, c₁, hread, hparses⟩ := bind_eq_ok hparses
    obtain ⟨rfl, hc₁, hrest₁⟩ := htype.of_ok (Cursor.within_start _) rfl hread
    obtain ⟨needsTranslation, c₂, hread, hparses⟩ := bind_eq_ok hparses
    obtain ⟨_, hc₂, hrest₂⟩ := hflag.of_ok hc₁ hrest₁ hread
    obtain ⟨body, c₃, hbody, hparses⟩ := bind_eq_ok hparses
    obtain ⟨kind, hkind, hbody⟩ := bodyKindOf_of_readTypedBody hbody
    obtain ⟨xuid, c₄, hxuid, hparses⟩ := bind_eq_ok hparses
    obtain ⟨platformChatId, c₅, hchat, hparses⟩ := bind_eq_ok hparses
    obtain ⟨filteredMessage, c₆, hfiltered, hparses⟩ := bind_eq_ok hparses
    obtain ⟨rfl, rfl⟩ := pure_eq_ok_iff.mp hparses
    have hend : Cursor.rest (⟨p.received, p.received.length⟩ : PacketReader) = [] :=
      List.drop_length
    obtain ⟨rfl, hlen⟩ := readBody_same hxuid hchat hfiltered hend hc₂ h.body h.xuid
      h.platformChatId h.filteredMessage hrest₂ hbody hsame.strings hsame.parameters
    exact ⟨hkind, hlen⟩
  · rintro ⟨hkind, hlen⟩
    have hbody : Reads (readTypedBody p.labelled.textType) p.labelled.body.bytes
        p.labelled.body := by
      rw [readTypedBody, hkind]
      exact readBody_reads h.body hlen
    have hreads : Reads readTextV860 p.received ⟨p.labelled.textType, p.needsTranslation,
        p.labelled.body, p.xuid, p.platformChatId, p.filteredMessage.getD ""⟩ := by
      apply htype.bind
      apply hflag.bind
      apply hbody.bind
      apply (string_reads h.xuid).bind
      apply (string_reads h.platformChatId).bind
      exact (string_reads h.filteredMessage).bind_pure rfl
    have hparses := hreads ⟨p.received, 0⟩ [] (Cursor.within_start _) (List.append_nil _).symm
    rw [Cursor.advance, Nat.zero_add] at hparses
    exact ⟨_, hparses, rfl, rfl, rfl, rfl, rfl, rfl, rfl⟩

/-- **Chat for the server**: wherever the serverbound branch returns at the end of the payload, the
payload is a v898 packet, and what is sent is a v860 packet with the same fields exactly when the
type is one of those with the body of the kind byte and the parameters are fewer than `2 ^ 32`. -/
theorem text_wellFormed_iff {payload : List UInt8} {user : UserConnection} {s : PacketWrapper}
    (hok : rewriteText .serverbound (ofPayload payload user) = .ok () s)
    (hrest : s.reader.rest = []) :
    ∃ p, readTextV898 ⟨payload, 0⟩ = .ok p s.reader ∧
      ((∃ q, readTextV860 ⟨s.toBytes, 0⟩ = .ok q ⟨s.toBytes, s.toBytes.length⟩ ∧ SameText p q) ↔
        bodyKindOf p.labelled.textType = some p.labelled.body.kind ∧
          p.labelled.body.parameters.length < 2 ^ 32) := by
  obtain ⟨p, hsent⟩ := rewriteText_sent hok
  obtain ⟨c, hread, rfl⟩ := hsent.run
  obtain ⟨_, _, hfits⟩ := readTextV898_returns _ p c (Cursor.within_start payload) hread
  refine ⟨p, hread, ?_⟩
  have hbytes : PacketWrapper.toBytes { ofPayload payload user with
      reader := c, writer := (ofPayload payload user).writer ++ p.received } = p.received := by
    rw [toBytes_eq]
    simp only [hrest, List.append_nil]
    rfl
  rw [hbytes]
  exact received_parses_iff hfits

/-- What v898 reads of a packet that the server has written. -/
def TextPacket.toV898 (p : TextPacket) : TextV898 where
  needsTranslation := p.needsTranslation
  labelled := ⟨p.body.kind.labels, p.textType.value, p.body⟩
  xuid := p.xuid
  platformChatId := p.platformChatId
  filteredMessage := orNone p.filteredMessage

theorem TextBody.Canonical.reads {body : TextBody} (h : body.Canonical) :
    Reads (readBody body.kind) body.bytes body := by
  cases body with
  | messageOnly message =>
    exact readBody_reads ⟨List.forall_mem_singleton.mpr h, List.forall_mem_nil _⟩
      (Nat.two_pow_pos 32)
  | authorAndMessage author message =>
    exact readBody_reads ⟨List.forall_mem_cons.mpr ⟨h.1, List.forall_mem_singleton.mpr h.2⟩,
      List.forall_mem_nil _⟩ (Nat.two_pow_pos 32)
  | messageAndParams message parameters =>
    exact readBody_reads ⟨List.forall_mem_singleton.mpr h.1, h.2.2⟩ h.2.1

theorem TextPacket.Canonical.reads {p : TextPacket} (h : p.Canonical) :
    Reads readTextV898 p.bytesV898 p.toV898 := by
  have hlabelled : Reads (readLabelledBody p.body.kind.value)
      (p.body.kind.labels.flatMap string.bytes ++ (byte.bytes p.textType.value ++ p.body.bytes))
      p.toV898.labelled := by
    have hkind : readLabelledBody p.body.kind.value = readLabelled p.body.kind := by
      cases p.body.kind <;> rfl
    rw [hkind]
    apply (Reads.collect fun s hs => string_reads (labels_fit p.body.kind s hs)).bind
    apply (byte_roundTrips (textType_inByte p.textType)).reads.bind
    exact h.body.reads.bind_pure rfl
  simp only [bytesV898, tailBytes, List.flatten_cons, List.flatten_nil, List.append_nil]
  apply (bool_roundTrips p.needsTranslation).reads.bind
  apply (byte_roundTrips (bodyType_inByte p.body.kind)).reads.bind
  rw [← List.append_assoc (byte.bytes _), ← List.append_assoc]
  apply hlabelled.bind
  apply (string_reads h.xuid).bind
  apply (string_reads h.platformChatId).bind
  exact (filteredMessage_roundTrips h).reads.bind_pure rfl

/-- A translation with two parameters. -/
theorem text_wellFormed_iff_sample :
    ∃ s q, rewriteText .serverbound (ofPayload sampleText.bytesV898 { address := "a" }) =
        .ok () s ∧
      readTextV898 ⟨sampleText.bytesV898, 0⟩ = .ok sampleText.toV898 s.reader ∧
      readTextV860 ⟨s.toBytes, 0⟩ = .ok q ⟨s.toBytes, s.toBytes.length⟩ ∧
      SameText sampleText.toV898 q := by
  have hstart : Cursor.rest ⟨sampleText.bytesV898, 0⟩ = sampleText.bytesV898 ++ [] := by
    rw [Cursor.rest_start, List.append_nil]
  have hok := V860ToV898.rewriteText_down sampleText_canonical
    (ofPayload sampleText.bytesV898 { address := "a" }) [] (Cursor.within_start _) hstart
  obtain ⟨p, hread, hiff⟩ := text_wellFormed_iff hok (Cursor.rest_advance_of_append hstart)
  have hp := sampleText_canonical.reads ⟨sampleText.bytesV898, 0⟩ [] (Cursor.within_start _) hstart
  rw [hp] at hread
  obtain ⟨rfl, _⟩ := EStateM.Result.ok.inj hread
  obtain ⟨q, hparses, hsame⟩ := hiff.mpr ⟨rfl, by decide⟩
  exact ⟨_, q, hok, hp, hparses, hsame⟩

/-- **A chat message** that comes with the body of a tip lacks the author that v860 reads. -/
theorem text_mismatch_unreadable :
    ∃ s, rewriteText .serverbound
        (ofPayload [0, 0, 0, 0, 0, 0, 0, 0, 1, 0, 0, 0, 0] { address := "a" }) = .ok () s ∧
      s.reader.rest = [] ∧ s.toBytes = [1, 0, 0, 0, 0, 0] ∧
      ∀ q c, readTextV860 ⟨[1, 0, 0, 0, 0, 0], 0⟩ ≠ .ok q c := by
  refine ⟨⟨⟨[0, 0, 0, 0, 0, 0, 0, 0, 1, 0, 0, 0, 0], 13⟩, [1, 0, 0, 0, 0, 0], false,
    { address := "a" }⟩, by rfl, by rfl, by rfl, ?_⟩
  intro q c h
  have herr : readTextV860 ⟨[1, 0, 0, 0, 0, 0], 0⟩ =
      .error .indexError ⟨[1, 0, 0, 0, 0, 0], 6⟩ := by rfl
  rw [herr] at h
  cases h

end Endweave
