import Endweave.Equiv.Formats
import Endweave.Protocol.Equiv.StartGame
import Endweave.Protocol.Packets.Formats

/-!
# `StartGame` on its way

The packet has another format in four versions.  Every step that rewrites it zeroes its checksum, so
that it arrives as the receiver's version has it, up to the checksum (`startGame_along`).
-/

namespace Endweave

open PacketFormat PacketWrapper StartGame Wire

namespace StartGameData

/-! ### Steps -/

theorem Canonical.zeroChecksum {d : StartGameData} (h : d.Canonical) : d.zeroChecksum.Canonical :=
  { h with packet := h.packet.zeroChecksum }

/-- The packet as a version has it, or with its checksum zeroed on the way. -/
def Arrives (d : StartGameData) (version : Int) (payload : List UInt8) : Prop :=
  ∃ d', (d' = d ∨ d' = d.zeroChecksum) ∧ format.encode version d' = some payload

/-- A step turns the packet of one version into that of the other. -/
def Settled (p : Protocol) : Prop :=
  ∀ serverProtocol d payload, Canonical d →
    (p.serverProtocol ≤ p.clientProtocol → format.since d ≤ p.serverProtocol) →
    (p.clientProtocol ≤ p.serverProtocol → p.serverProtocol ≤ format.upTo d) →
    format.encode p.serverProtocol d = some payload →
    ∃ payload', translate serverProtocol .clientbound PacketId.startGame [p] payload =
        some payload' ∧ Arrives d p.clientProtocol payload'

section Steps

variable {p : Protocol} {handler : PacketHandler} {d : StartGameData}

theorem encode_eq {version : Int} (h : decide (format.Reaches version) = true) (d : StartGameData) :
    format.encode version d = some (format.form (format.formOf version) d) :=
  if_pos (of_decide_eq_true h)

theorem settled_of_untouched (h : p.hasHandlerOrCancel .clientbound PacketId.startGame = false)
    (hagree : format.agree p = true) : Settled p := by
  intro serverProtocol d payload _ _ _ hpayload
  exact ⟨payload, translate_untouched (by simpa using h) payload, d, Or.inl rfl,
    encode_of_agree (F := format) hagree hpayload⟩

/-- A step with a handler, which zeroes the checksum. -/
theorem settled_of_handler
    (hget : (p.handlers .clientbound).get? PacketId.startGame = some handler)
    (hends : (decide (format.Reaches p.serverProtocol) &&
      decide (format.Reaches p.clientProtocol) &&
      !(p.cancelled .clientbound).contains PacketId.startGame) = true)
    (h : ∀ d, Canonical d →
      (p.serverProtocol ≤ p.clientProtocol → format.since d ≤ p.serverProtocol) →
      (p.clientProtocol ≤ p.serverProtocol → p.serverProtocol ≤ format.upTo d) →
      Delivers handler (format.form (format.formOf p.serverProtocol) d)
        (format.form (format.formOf p.clientProtocol) d.zeroChecksum)) : Settled p := by
  rw [Bool.and_eq_true, Bool.and_eq_true] at hends
  obtain ⟨⟨hserver, hclient⟩, hcancel⟩ := hends
  intro serverProtocol d payload hd hsince hupTo hpayload
  rw [encode_eq hserver] at hpayload
  obtain rfl := Option.some.inj hpayload
  refine ⟨_, translate_delivers hget (by simpa using hcancel) (h d hd hsince hupTo),
    d.zeroChecksum, Or.inr rfl, encode_eq hclient _⟩

end Steps

/-- The fields that come with later versions are at their defaults. -/
theorem of_since {d : StartGameData} {version : Int} (h : format.since d ≤ version)
    (hversion : version < 1001) : d.added = ⟨0, false, false⟩ ∧
      (version < 924 → d.hasServerJoinInfo = false) := by
  have hsince : (if d.added = ⟨0, false, false⟩ then
    if d.hasServerJoinInfo = false then (859 : Int) else 924 else 1001) ≤ version := h
  split_ifs at hsince with hadded hjoin
  · exact ⟨hadded, fun _ => hjoin⟩
  · exact ⟨hadded, fun hlt => absurd hsince (not_le_of_gt hlt)⟩
  · exact absurd hsince (not_le_of_gt hversion)

theorem joinInfo_of_false {d : StartGameData} (h : d.hasServerJoinInfo = false) :
    d.joinInfo = none := by
  rw [joinInfo, h]
  rfl

theorem joinInfo_isSome (d : StartGameData) : d.joinInfo.isSome = d.hasServerJoinInfo := by
  unfold joinInfo
  cases d.hasServerJoinInfo <;> rfl

theorem joinInfo_canonical (d : StartGameData) : CanonicalJoinInfo d.joinInfo := by
  unfold joinInfo
  cases d.hasServerJoinInfo <;> trivial

/-- Without gathering information the v898 packet is the v924 one. -/
theorem strip_delivers (d : StartGameData) (h : d.packet.Canonical) :
    Delivers V924ToV898.rewriteStartGame (d.packet.encodeV924 d.joinInfo)
      d.packet.zeroChecksum.encodeV898 := by
  unfold joinInfo
  cases d.hasServerJoinInfo with
  | false => exact (V924ToV898.rewriteStartGame_rewrites h none).deliversAll
  | true => exact (V924ToV898.rewriteStartGame_rewrites h (some false)).deliversAll

theorem settled (uuid5 : String → BitVec 128) : ∀ p ∈ registeredProtocols uuid5, Settled p := by
  simp only [registeredProtocols, List.forall_mem_cons]
  refine ⟨settled_of_untouched rfl rfl, settled_of_untouched rfl rfl,
    settled_of_handler rfl rfl fun d hd _ _ => ?_,
    settled_of_handler rfl rfl fun d hd _ hupTo => ?_,
    settled_of_handler rfl rfl fun d hd hsince _ => ?_,
    settled_of_handler rfl rfl fun d hd _ _ => ?_,
    settled_of_handler rfl rfl fun d hd _ _ => ?_,
    settled_of_handler rfl rfl fun d hd _ _ => ?_,
    settled_of_handler rfl rfl fun d hd _ _ => ?_,
    settled_of_handler rfl rfl fun d hd hsince _ => ?_, List.forall_mem_nil _⟩
  · exact V860ToV898.rewriteStartGame_delivers hd.packet hd.experiments d.tickDeathSystemsEnabled
  · have htick := of_le_ite (hupTo (by decide)) rfl
    have hdown := V898ToV860.rewriteStartGame_delivers hd.packet hd.experiments
    rw [← htick] at hdown
    exact hdown
  · have hjoin := (of_since (hsince (by decide)) (by decide)).2 (by decide)
    have hup := V898ToV924.rewriteStartGame_delivers hd.packet
    rw [← joinInfo_of_false hjoin] at hup
    exact hup
  · exact d.strip_delivers hd.packet
  · have hup := V924ToV944.rewriteStartGame_delivers hd.packet d.joinInfo_canonical
    rw [d.joinInfo_isSome] at hup
    exact hup
  · exact V944ToV924.rewriteStartGame_delivers hd.packet d.hasServerJoinInfo
  · exact V944ToV975.rewriteStartGame_delivers hd.packet d.hasServerJoinInfo
  · have hadded := (of_since (hsince (by decide)) (by decide)).1
    have hup := V975ToV1001.rewriteStartGame_delivers hd.packet d.hasServerJoinInfo
    rw [← hadded] at hup
    exact hup

end StartGameData

/-! ### Routes -/

namespace EndweavePlugin

open StartGameData

variable (uuid5 : String → BitVec 128) (serverProtocol : Int) (gate : GateConfig) {client : Int}
  {d : StartGameData}

theorem startGame_along (hsupported : Supported serverProtocol client) (hd : d.Canonical)
    (hexpresses : format.Expresses serverProtocol d) {payload : List UInt8}
    (hpayload : format.encode serverProtocol d = some payload) :
    ∃ payload', translate serverProtocol .clientbound PacketId.startGame
        (pipelineFor uuid5 serverProtocol .clientbound (some client)) payload = some payload' ∧
      Arrives d client payload' := by
  have hbase : PacketId.startGame ∉ basePackets .clientbound := by decide
  obtain ⟨links, hmem, hpath, hway, htranslate⟩ :=
    links_along uuid5 serverProtocol hsupported .clientbound hbase
  -- on the way there are the data or those without checksum, and no default is lost
  have hkeeps : ∀ l ∈ links, ∀ {d' : StartGameData} {b}, (d' = d ∨ d' = d.zeroChecksum) →
      (l.serverProtocol ≤ l.clientProtocol → format.since d ≤ l.serverProtocol) →
      (l.clientProtocol ≤ l.serverProtocol → l.serverProtocol ≤ format.upTo d) →
      format.encode l.serverProtocol d' = some b →
      ∃ b', translate serverProtocol .clientbound PacketId.startGame [l] b = some b' ∧
        Arrives d l.clientProtocol b' := by
    intro l hl d' b hd' hsince hupTo hb
    have hstep := settled uuid5 l (hmem l hl) serverProtocol
    rcases hd' with rfl | rfl
    · exact hstep d' b hd hsince hupTo hb
    · obtain ⟨b', hrun, d'', hd'', hb'⟩ := hstep _ b hd.zeroChecksum hsince hupTo hb
      exact ⟨b', hrun, d'', Or.inr (hd''.elim id id), hb'⟩
  rw [htranslate]
  rcases hway with hup | hdown
  · have hrelay := relay_keeps (P := fun v b => format.since d ≤ v ∧ Arrives d v b) hpath
      (fun l hl b hb => by
        obtain ⟨hsince, d', hd', hb⟩ := hb
        obtain ⟨b', hrun, harrives⟩ := hkeeps l hl hd' (fun _ => hsince)
          (fun hle => absurd hle (not_le_of_gt (hup l hl))) hb
        exact ⟨b', hrun, hsince.trans (hup l hl).le, harrives⟩)
      ⟨hexpresses.1, d, Or.inl rfl, hpayload⟩
    exact hrelay.imp fun _ h => ⟨h.1, h.2.2⟩
  · have hrelay := relay_keeps (P := fun v b => v ≤ format.upTo d ∧ Arrives d v b) hpath
      (fun l hl b hb => by
        obtain ⟨hupTo, d', hd', hb⟩ := hb
        obtain ⟨b', hrun, harrives⟩ := hkeeps l hl hd'
          (fun hle => absurd hle (not_le_of_gt (hdown l hl))) (fun _ => hupTo) hb
        exact ⟨b', hrun, (hdown l hl).le.trans hupTo, harrives⟩)
      ⟨hexpresses.2, d, Or.inl rfl, hpayload⟩
    exact hrelay.imp fun _ h => ⟨h.1, h.2.2⟩

/-- **`StartGame` arrives in the format of the client**, with the checksum it had or without. -/
theorem startGame_after {events : List PluginEvent} {event : PacketEvent}
    (h : format.Sent serverProtocol client d events event) :
    ∃ d', (d' = d ∨ d' = d.zeroChecksum) ∧
      (handleEvent (after uuid5 serverProtocol gate events) (.packet .clientbound event)).2 =
        .proxy (.packet (event.deliver (format.encode client d'))) := by
  obtain ⟨payload', hpayload', d', hd', hencode⟩ :=
    startGame_along uuid5 serverProtocol h.supported h.canonical h.expresses h.payload
  refine ⟨d', hd', ?_⟩
  have hdetected : detectedIn .clientbound (packetsSince event.address events) = some client :=
    h.detected
  have hid : event.packetId = PacketId.startGame := h.packetId
  rw [packet_after, hdetected, hid, hpayload', hencode]

/-- A world without tick death systems, whose server joins are not described. -/
def sampleStartGameData : StartGameData := ⟨sampleStartGame, false, false, ⟨0, false, false⟩⟩

/-- The world of a server of version 860, for a client of version 1001. -/
theorem startGame_after_sample :
    ∃ d', (d' = sampleStartGameData ∨ d' = sampleStartGameData.zeroChecksum) ∧
      (handleEvent (after (fun _ => 0) 860 {} (joins [0, 0, 3, 233])) (.packet .clientbound
        (packetAt PacketId.startGame (sampleStartGame.encodeV860 false)))).2 =
          .proxy (.packet ((packetAt PacketId.startGame (sampleStartGame.encodeV860 false)).deliver
            (format.encode 1001 d'))) :=
  startGame_after _ 860 _
    { supported := by decide
      covers := by decide
      canonical := ⟨sampleStartGame_canonical, by decide⟩
      expresses := ⟨by decide, by decide⟩
      packetId := rfl
      detected := by decide
      payload := rfl }

end EndweavePlugin

end Endweave
