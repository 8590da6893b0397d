import Endweave.Codec.Equiv.Wrapper
import Endweave.Protocol.Packets.Text

/-!
# Correctness of the `Text` handlers

`rewriteText_roundTrip`: a canonical v860 packet goes through v898 to v924 and back, meets the same
v898 packet on both ways and ends as it began.  Each of the four handlers is compared with the
grammars of its two versions, one case per kind of body.
-/

namespace Endweave

open Wire PacketWrapper

/-! ### Labels -/

theorem label_fits (t : TextPacketType) : FitsString t.label := by
  cases t <;> decide

theorem labels_fit (kind : TextPacketBodyType) : ∀ s ∈ kind.labels, FitsString s := by
  intro s hs
  obtain ⟨t, _, rfl⟩ := List.mem_map.mp hs
  exact label_fits t

theorem textType_inByte (t : TextPacketType) : InByte t.value := by
  cases t <;> decide

theorem bodyType_inByte (kind : TextPacketBodyType) : InByte kind.value := by
  cases kind <;> decide

theorem readLabels_rewrites (kind : TextPacketBodyType) :
    Rewrites (Wire.repeatM readLabel kind.labels.length) (kind.labels.flatMap string.bytes) [] () :=
  Rewrites.repeatM_skips fun s hs =>
    (read_rewrites (string_roundTrips (labels_fit kind s hs)).reads).last rfl

theorem writeLabels_rewrites {group : LabelGroup} {t : TextPacketType} {kind : TextPacketBodyType}
    (h : group.get? t.value = some kind.labels) :
    Rewrites (writeLabels group t.value) [] (kind.labels.flatMap string.bytes) () := by
  rw [writeLabels, h]
  exact Rewrites.each fun s hs => write_rewrites (string_roundTrips (labels_fit kind s hs)).writes

/-- The group of each kind of body holds the text types with such a body. -/
theorem textMessageOnly_get? (t : TextPacketType) : V860ToV898.textMessageOnly.get? t.value =
    if t.bodyType = .messageOnly then some TextPacketBodyType.messageOnly.labels else none := by
  cases t <;> rfl

theorem textAuthorAndMessage_get? (t : TextPacketType) :
    V860ToV898.textAuthorAndMessage.get? t.value = if t.bodyType = .authorAndMessage then
      some TextPacketBodyType.authorAndMessage.labels else none := by
  cases t <;> rfl

theorem textMessageAndParams_get? (t : TextPacketType) :
    V860ToV898.textMessageAndParams.get? t.value = if t.bodyType = .messageAndParams then
      some TextPacketBodyType.messageAndParams.labels else none := by
  cases t <;> rfl

/-! ### Bodies -/

section Body

variable {p : TextPacket}

theorem parameters_rewrites {parameters : List String} (hlen : parameters.length < 2 ^ 32)
    (h : ∀ s ∈ parameters, FitsString s) :
    Rewrites (passthroughLoop passthroughParameter) (arrayBytes string.bytes parameters)
      (arrayBytes string.bytes parameters) () :=
  passthroughLoop_rewrites hlen fun s hs =>
    (passthrough_rewrites (string_roundTrips (h s hs))).last rfl

/-- Clientbound from v860: kind, labels and type go in front of the body. -/
theorem labelBody_rewrites (h : p.Canonical) :
    Rewrites (V860ToV898.labelBody p.textType.value) p.body.bytes
      (byte.bytes p.body.kind.value ++ (p.body.kind.labels.flatMap string.bytes ++
        (byte.bytes p.textType.value ++ p.body.bytes))) () := by
  obtain ⟨t, needsTranslation, body, hkind, xuid, platformChatId, filteredMessage⟩ := p
  have htype := byte_roundTrips (textType_inByte t)
  have hbyte := byte_roundTrips (bodyType_inByte body.kind)
  have hbody := h.body
  rw [V860ToV898.labelBody, textMessageOnly_get?, textAuthorAndMessage_get?,
    textMessageAndParams_get?, ← hkind]
  cases body with
  | messageOnly message =>
    apply Rewrites.write hbyte
    apply Rewrites.writeThen (writeLabels_rewrites (by rw [textMessageOnly_get?, ← hkind]; rfl))
    apply Rewrites.write htype
    exact (passthrough_rewrites (string_roundTrips hbody)).last rfl
  | authorAndMessage author message =>
    apply Rewrites.write hbyte
    refine Rewrites.writeThen
      (writeLabels_rewrites (by rw [textAuthorAndMessage_get?, ← hkind]; rfl)) ?_
    apply Rewrites.write htype
    apply Rewrites.passthrough (string_roundTrips hbody.1)
    exact (passthrough_rewrites (string_roundTrips hbody.2)).last rfl
  | messageAndParams message parameters =>
    apply Rewrites.write hbyte
    refine Rewrites.writeThen
      (writeLabels_rewrites (by rw [textMessageAndParams_get?, ← hkind]; rfl)) ?_
    apply Rewrites.write htype
    apply Rewrites.passthrough (string_roundTrips hbody.1)
    exact parameters_rewrites hbody.2.1 hbody.2.2

/-- Serverbound to v860: the labels go, and the flag moves behind the type. -/
theorem unlabelBody_rewrites (h : p.Canonical) :
    Rewrites (V860ToV898.unlabelBody p.needsTranslation p.body.kind.value)
      (p.body.kind.labels.flatMap string.bytes ++ (byte.bytes p.textType.value ++ p.body.bytes))
      (byte.bytes p.textType.value ++ (bool.bytes p.needsTranslation ++ p.body.bytes)) () := by
  obtain ⟨t, needsTranslation, body, hkind, xuid, platformChatId, filteredMessage⟩ := p
  have htype := byte_roundTrips (textType_inByte t)
  have hbody := h.body
  unfold V860ToV898.unlabelBody
  cases body with
  | messageOnly message =>
    apply Rewrites.readThen (readLabels_rewrites .messageOnly)
    refine Rewrites.read htype (Rewrites.write htype ?_)
    apply Rewrites.write (bool_roundTrips needsTranslation)
    exact (passthrough_rewrites (string_roundTrips hbody)).last rfl
  | authorAndMessage author message =>
    apply Rewrites.readThen (readLabels_rewrites .authorAndMessage)
    refine Rewrites.read htype (Rewrites.write htype ?_)
    apply Rewrites.write (bool_roundTrips needsTranslation)
    apply Rewrites.passthrough (string_roundTrips hbody.1)
    exact (passthrough_rewrites (string_roundTrips hbody.2)).last rfl
  | messageAndParams message parameters =>
    apply Rewrites.readThen (readLabels_rewrites .messageAndParams)
    refine Rewrites.read htype (Rewrites.write htype ?_)
    apply Rewrites.write (bool_roundTrips needsTranslation)
    apply Rewrites.passthrough (string_roundTrips hbody.1)
    exact parameters_rewrites hbody.2.1 hbody.2.2

end Body

/-! ### The four handlers -/

theorem orNone_getD (s : String) : (V860ToV898.orNone s).getD "" = s := by
  unfold V860ToV898.orNone
  split_ifs with h
  · rw [h]
    rfl
  · rfl

theorem filteredMessage_roundTrips {p : TextPacket} (h : p.Canonical) :
    (optionalType string).RoundTrips (V860ToV898.orNone p.filteredMessage) := by
  refine optionalString_roundTrips fun s hs => ?_
  have heq : s = p.filteredMessage := by
    rw [← orNone_getD p.filteredMessage, hs]
    rfl
  exact heq ▸ h.filteredMessage

theorem V860ToV898.rewriteText_up {p : TextPacket} (h : p.Canonical) :
    Rewrites (V860ToV898.rewriteText .clientbound) p.bytesV860 p.bytesV898 () := by
  simp only [TextPacket.bytesV860, TextPacket.bytesV898, TextPacket.tailBytes, List.flatten_cons,
    List.flatten_nil, List.append_nil]
  apply Rewrites.read (byte_roundTrips (textType_inByte p.textType))
  apply Rewrites.read (bool_roundTrips p.needsTranslation)
  apply Rewrites.write (bool_roundTrips p.needsTranslation)
  have htail : Rewrites (do
      let _ ← passthrough string
      let _ ← passthrough string
      let filteredMessage ← PacketWrapper.read string
      write (optionalType string) (V860ToV898.orNone filteredMessage))
      (string.bytes p.xuid ++ (string.bytes p.platformChatId ++ string.bytes p.filteredMessage))
      (string.bytes p.xuid ++ (string.bytes p.platformChatId ++
        (optionalType string).bytes (V860ToV898.orNone p.filteredMessage))) () := by
    apply Rewrites.passthrough (string_roundTrips h.xuid)
    apply Rewrites.passthrough (string_roundTrips h.platformChatId)
    rw [← List.append_nil (string.bytes p.filteredMessage)]
    apply Rewrites.read (string_roundTrips h.filteredMessage)
    exact write_rewrites (filteredMessage_roundTrips h).writes
  simpa only [List.append_assoc] using (labelBody_rewrites h).bind htail

theorem V860ToV898.rewriteText_clientbound {p : TextPacket} (h : p.Canonical)
    (user : UserConnection) :
    (V860ToV898.rewriteText .clientbound).apply p.bytesV860 user = .ok p.bytesV898 :=
  (V860ToV898.rewriteText_up h).apply user

theorem V860ToV898.rewriteText_down {p : TextPacket} (h : p.Canonical) :
    Rewrites (V860ToV898.rewriteText .serverbound) p.bytesV898 p.bytesV860 () := by
  simp only [TextPacket.bytesV860, TextPacket.bytesV898, TextPacket.tailBytes, List.flatten_cons,
    List.flatten_nil, List.append_nil]
  apply Rewrites.read (bool_roundTrips p.needsTranslation)
  apply Rewrites.read (byte_roundTrips (bodyType_inByte p.body.kind))
  have htail : Rewrites (do
      let _ ← passthrough string
      let _ ← passthrough string
      let filteredMessage ← PacketWrapper.read (optionalType string)
      write string (filteredMessage.getD ""))
      (string.bytes p.xuid ++ (string.bytes p.platformChatId ++
        (optionalType string).bytes (V860ToV898.orNone p.filteredMessage)))
      (string.bytes p.xuid ++ (string.bytes p.platformChatId ++ string.bytes p.filteredMessage))
      () := by
    apply Rewrites.passthrough (string_roundTrips h.xuid)
    apply Rewrites.passthrough (string_roundTrips h.platformChatId)
    rw [← List.append_nil ((optionalType string).bytes _)]
    apply Rewrites.read (filteredMessage_roundTrips h)
    rw [orNone_getD]
    exact write_rewrites (string_roundTrips h.filteredMessage).writes
  simpa only [List.append_assoc] using (unlabelBody_rewrites h).bind htail

theorem V860ToV898.rewriteText_serverbound {p : TextPacket} (h : p.Canonical)
    (user : UserConnection) :
    (V860ToV898.rewriteText .serverbound).apply p.bytesV898 user = .ok p.bytesV860 :=
  (V860ToV898.rewriteText_down h).apply user

/-- Serverbound to v924: only the labels go, whatever follows the type. -/
theorem V924ToV898.rewriteText_up (p : TextPacket) :
    Delivers (V924ToV898.rewriteText .serverbound) p.bytesV898 p.bytesV924 := by
  have hkind := byte_roundTrips (bodyType_inByte p.body.kind)
  have hbranch : Rewrites (V924ToV898.branchOn p.body.kind.value (V924ToV898.dropLabels 6)
      (V924ToV898.dropLabels 3) (V924ToV898.dropLabels 3))
      (p.body.kind.labels.flatMap string.bytes ++ byte.bytes p.textType.value)
      (byte.bytes p.textType.value) () := by
    have htype : Rewrites (do let _ ← passthrough byte) (byte.bytes p.textType.value)
        (byte.bytes p.textType.value) () :=
      (passthrough_rewrites (byte_roundTrips (textType_inByte p.textType))).last rfl
    unfold V924ToV898.branchOn
    cases p.body.kind with
    | messageOnly => exact Rewrites.readThen (readLabels_rewrites .messageOnly) htype
    | authorAndMessage => exact Rewrites.readThen (readLabels_rewrites .authorAndMessage) htype
    | messageAndParams => exact Rewrites.readThen (readLabels_rewrites .messageAndParams) htype
  simp only [TextPacket.bytesV898, TextPacket.bytesV924, List.flatten_cons, List.flatten_nil,
    List.append_nil]
  apply Delivers.passthrough (bool_roundTrips p.needsTranslation)
  refine Delivers.read hkind (Delivers.write hkind ?_)
  rw [← List.append_assoc]
  exact hbranch.delivers p.tailBytes

theorem V924ToV898.rewriteText_serverbound (p : TextPacket) (user : UserConnection) :
    (V924ToV898.rewriteText .serverbound).apply p.bytesV898 user = .ok p.bytesV924 :=
  (V924ToV898.rewriteText_up p).translates.apply user

/-- Clientbound from v924: the labels come back in front of the type. -/
theorem V924ToV898.rewriteText_down (p : TextPacket) :
    Delivers (V924ToV898.rewriteText .clientbound) p.bytesV924 p.bytesV898 := by
  have hkind := byte_roundTrips (bodyType_inByte p.body.kind)
  have hinsert : ∀ group : LabelGroup, group.get? p.textType.value = some p.body.kind.labels →
      Rewrites (V924ToV898.insertLabels group) (byte.bytes p.textType.value)
        (p.body.kind.labels.flatMap string.bytes ++ byte.bytes p.textType.value) () := by
    intro group hgroup
    rw [← List.append_nil (byte.bytes p.textType.value), List.append_nil (byte.bytes _)]
    apply Rewrites.read (byte_roundTrips (textType_inByte p.textType))
    apply Rewrites.writeThen (writeLabels_rewrites hgroup)
    exact write_rewrites (byte_roundTrips (textType_inByte p.textType)).writes
  have hbranch : Rewrites (V924ToV898.branchOn p.body.kind.value
      (V924ToV898.insertLabels V924ToV898.textMessageOnly)
      (V924ToV898.insertLabels V924ToV898.textAuthorAndMessage)
      (V924ToV898.insertLabels V924ToV898.textMessageAndParams)) (byte.bytes p.textType.value)
      (p.body.kind.labels.flatMap string.bytes ++ byte.bytes p.textType.value) () := by
    have hbody := p.body_kind
    unfold V924ToV898.branchOn
    -- the kind on the wire selects the group that holds the text type
    cases hk : p.body.kind with
    | messageOnly =>
      rw [hk] at hinsert hbody
      exact hinsert _ ((textMessageOnly_get? p.textType).trans (if_pos hbody.symm))
    | authorAndMessage =>
      rw [hk] at hinsert hbody
      exact hinsert _ ((textAuthorAndMessage_get? p.textType).trans (if_pos hbody.symm))
    | messageAndParams =>
      rw [hk] at hinsert hbody
      exact hinsert _ ((textMessageAndParams_get? p.textType).trans (if_pos hbody.symm))
  simp only [TextPacket.bytesV898, TextPacket.bytesV924, List.flatten_cons, List.flatten_nil,
    List.append_nil]
  apply Delivers.passthrough (bool_roundTrips p.needsTranslation)
  refine Delivers.read hkind (Delivers.write hkind ?_)
  rw [← List.append_assoc]
  exact hbranch.delivers p.tailBytes

theorem V924ToV898.rewriteText_clientbound (p : TextPacket) (user : UserConnection) :
    (V924ToV898.rewriteText .clientbound).apply p.bytesV924 user = .ok p.bytesV898 :=
  (V924ToV898.rewriteText_down p).translates.apply user

/-- **Text over three versions**: a canonical v860 packet goes through v898 to v924 and back without
an exception, meets the same v898 packet on both ways and ends as it began. -/
theorem rewriteText_roundTrip {p : TextPacket} (h : p.Canonical) (user : UserConnection) :
    (V860ToV898.rewriteText .clientbound).apply p.bytesV860 user = .ok p.bytesV898 ∧
      (V924ToV898.rewriteText .serverbound).apply p.bytesV898 user = .ok p.bytesV924 ∧
      (V924ToV898.rewriteText .clientbound).apply p.bytesV924 user = .ok p.bytesV898 ∧
      (V860ToV898.rewriteText .serverbound).apply p.bytesV898 user = .ok p.bytesV860 ∧
      PacketHandler.applyAll [V860ToV898.rewriteText .clientbound,
        V924ToV898.rewriteText .serverbound, V924ToV898.rewriteText .clientbound,
        V860ToV898.rewriteText .serverbound] p.bytesV860 user = .ok p.bytesV860 := by
  have hup := V860ToV898.rewriteText_clientbound h user
  have hstrip := V924ToV898.rewriteText_serverbound p user
  have hlabel := V924ToV898.rewriteText_clientbound p user
  have hdown := V860ToV898.rewriteText_serverbound h user
  refine ⟨hup, hstrip, hlabel, hdown, ?_⟩
  rw [applyAll_cons hup, applyAll_cons hstrip, applyAll_cons hlabel, applyAll_cons hdown,
    applyAll_nil]

/-- The packet of a translated message. -/
theorem rewriteText_roundTrip_sample :
    PacketHandler.applyAll [V860ToV898.rewriteText .clientbound,
      V924ToV898.rewriteText .serverbound, V924ToV898.rewriteText .clientbound,
      V860ToV898.rewriteText .serverbound] sampleText.bytesV860 { address := "a" } =
        .ok sampleText.bytesV860 :=
  (rewriteText_roundTrip sampleText_canonical { address := "a" }).2.2.2.2

end Endweave
