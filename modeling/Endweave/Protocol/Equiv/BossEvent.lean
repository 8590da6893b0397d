import Endweave.Codec.Equiv.Wrapper
import Endweave.Protocol.Packets.BossEvent

/-!
# Correctness of the `BossEvent` handlers

`bossEvent_inverse`: every canonical v975 packet is flattened and comes back as it was, apart from
the screen darkening; with anything behind its fields it is refused.

`readSwitch_rewrites` and `writeSwitch_rewrites` are the two switches, one case for each event type.
-/

namespace Endweave

open Wire PacketWrapper V975ToV1001

namespace BossEventBody

variable {body : BossEventBody}

/-! ### Ranges -/

theorem inByte_value (eventType : BossEventType) : InByte eventType.value := by
  cases eventType <;> decide

theorem colour_cases {colour : Int} (h : InColour colour) :
    colour = 0 ∨ colour = 1 ∨ colour = 2 ∨ colour = 3 ∨ colour = 4 ∨ colour = 5 ∨ colour = 6 := by
  unfold InColour at h
  omega

theorem inByte_colourToV1001 {colour : Int} (h : InColour colour) :
    InByte (colourToV1001 colour) := by
  rcases colour_cases h with rfl | rfl | rfl | rfl | rfl | rfl | rfl <;> decide

/-- On the colours of v975 the second table undoes the first. -/
theorem colourToV975_colourToV1001 {colour : Int} (h : InColour colour) :
    colourToV975 (colourToV1001 colour) = colour := by
  rcases colour_cases h with rfl | rfl | rfl | rfl | rfl | rfl | rfl <;> decide

theorem InColour.inUInt32 {colour : Int} (h : InColour colour) : InUInt32 colour := by
  unfold InColour at h
  exact ⟨h.1, by omega⟩

theorem land_of_inByte {v : Int} (h : InByte v) : Int.land v 0xFF = v := by
  rw [land_byte]
  exact Int.emod_eq_of_lt h.1 h.2

/-- What the flat fields of a canonical packet satisfy, those with a default too. -/
structure FlatCanonical (fields : BossEventFields) : Prop where
  playerUniqueId : InInt64 fields.playerUniqueId
  title : FitsString fields.title
  filteredTitle : FitsString fields.filteredTitle
  colour : InColour fields.colour
  overlay : InByte fields.overlay

/-- Every default passes the check of its field. -/
theorem flatCanonical_default : FlatCanonical {} := by
  constructor <;> decide

theorem Canonical.fields (h : body.Canonical) : FlatCanonical body.fields := by
  have hdefault := flatCanonical_default
  cases body with
  | showBar =>
    obtain ⟨htitle, hfiltered, _, hcolour, hoverlay⟩ := h
    exact ⟨hdefault.playerUniqueId, htitle, hfiltered, hcolour, hoverlay⟩
  | registerPlayer | unregisterPlayer | request => exact { hdefault with playerUniqueId := h }
  | hide | healthPercentage => exact { hdefault with }
  | title => exact { hdefault with title := h.1, filteredTitle := h.2 }
  | appearanceProperties => exact { hdefault with colour := h.2.1, overlay := h.2.2 }
  | texture => exact { hdefault with colour := h.1, overlay := h.2 }

/-! ### The switches -/

theorem readSwitch_rewrites (h : body.Canonical) :
    Rewrites (readSwitch body.eventType.value) body.bytes [] body.fields := by
  unfold readSwitch
  cases body with
  | showBar =>
    obtain ⟨htitle, hfiltered, hdarkening, hcolour, hoverlay⟩ := h
    rw [eventType, if_pos (by decide)]
    apply Rewrites.read (string_roundTrips htitle)
    apply Rewrites.read (string_roundTrips hfiltered)
    apply Rewrites.read (floatLE_roundTrips _)
    apply Rewrites.read (ushortLE_roundTrips hdarkening)
    apply Rewrites.read (uvarInt_roundTrips hcolour.inUInt32)
    exact (read_rewrites (uvarInt_roundTrips hoverlay.inUInt32).reads).last rfl
  | registerPlayer | unregisterPlayer | request =>
    rw [eventType, if_neg (by decide), if_pos (by decide)]
    exact (read_rewrites (varInt64_roundTrips h).reads).last rfl
  | hide =>
    rw [eventType, if_neg (by decide), if_neg (by decide), if_pos (by decide)]
    exact Rewrites.pure _
  | healthPercentage health =>
    rw [eventType, if_neg (by decide), if_neg (by decide), if_neg (by decide), if_pos (by decide)]
    exact (read_rewrites (floatLE_roundTrips health).reads).last rfl
  | title =>
    rw [eventType, if_neg (by decide), if_neg (by decide), if_neg (by decide), if_neg (by decide),
      if_pos (by decide)]
    apply Rewrites.read (string_roundTrips h.1)
    exact (read_rewrites (string_roundTrips h.2).reads).last rfl
  | appearanceProperties =>
    obtain ⟨hdarkening, hcolour, hoverlay⟩ := h
    rw [eventType, if_neg (by decide), if_neg (by decide), if_neg (by decide), if_neg (by decide),
      if_neg (by decide), if_pos (by decide)]
    apply Rewrites.read (ushortLE_roundTrips hdarkening)
    apply Rewrites.read (uvarInt_roundTrips hcolour.inUInt32)
    exact (read_rewrites (uvarInt_roundTrips hoverlay.inUInt32).reads).last rfl
  | texture =>
    rw [eventType, if_neg (by decide), if_neg (by decide), if_neg (by decide), if_neg (by decide),
      if_neg (by decide), if_neg (by decide), if_pos (by decide)]
    apply Rewrites.read (uvarInt_roundTrips h.1.inUInt32)
    exact (read_rewrites (uvarInt_roundTrips h.2.inUInt32).reads).last rfl

/-- The fields as the serverbound direction reads them. -/
def sent (fields : BossEventFields) : BossEventFields :=
  { fields with colour := colourToV1001 fields.colour }

theorem writeSwitch_rewrites (h : body.Canonical) :
    Rewrites (writeSwitch body.eventType.value (sent body.fields)) [] body.withoutDarkening.bytes
      () := by
  have hflat := h.fields
  have hback := colourToV975_colourToV1001 hflat.colour
  have hzero := ushortLE_roundTrips (v := 0) (by decide)
  unfold writeSwitch
  cases body with
  | showBar =>
    rw [eventType, if_pos (by decide)]
    apply Rewrites.write (string_roundTrips hflat.title)
    apply Rewrites.write (string_roundTrips hflat.filteredTitle)
    apply Rewrites.write (floatLE_roundTrips _)
    apply Rewrites.write hzero
    rw [sent, hback]
    apply Rewrites.write (uvarInt_roundTrips hflat.colour.inUInt32)
    exact write_rewrites (uvarInt_roundTrips hflat.overlay.inUInt32).writes
  | registerPlayer | unregisterPlayer | request =>
    rw [eventType, if_neg (by decide), if_pos (by decide)]
    exact write_rewrites (varInt64_roundTrips h).writes
  | hide =>
    rw [eventType, if_neg (by decide), if_neg (by decide), if_pos (by decide)]
    exact Rewrites.pure _
  | healthPercentage health =>
    rw [eventType, if_neg (by decide), if_neg (by decide), if_neg (by decide), if_pos (by decide)]
    exact write_rewrites (floatLE_roundTrips health).writes
  | title =>
    rw [eventType, if_neg (by decide), if_neg (by decide), if_neg (by decide), if_neg (by decide),
      if_pos (by decide)]
    apply Rewrites.write (string_roundTrips h.1)
    exact write_rewrites (string_roundTrips h.2).writes
  | appearanceProperties =>
    rw [eventType, if_neg (by decide), if_neg (by decide), if_neg (by decide), if_neg (by decide),
      if_neg (by decide), if_pos (by decide)]
    apply Rewrites.write hzero
    rw [sent, hback]
    apply Rewrites.write (uvarInt_roundTrips hflat.colour.inUInt32)
    exact write_rewrites (uvarInt_roundTrips hflat.overlay.inUInt32).writes
  | texture =>
    rw [eventType, if_neg (by decide), if_neg (by decide), if_neg (by decide), if_neg (by decide),
      if_neg (by decide), if_neg (by decide), if_pos (by decide), sent, hback]
    apply Rewrites.write (uvarInt_roundTrips hflat.colour.inUInt32)
    exact write_rewrites (uvarInt_roundTrips hflat.overlay.inUInt32).writes

end BossEventBody

/-! ### The handlers -/

namespace BossEvent

open BossEventBody

variable {p : BossEvent} (h : p.Canonical)

include h

/-- The clientbound handler consumes the whole packet and no more. -/
theorem Canonical.flattens_delivers : Delivers rewriteBossEvent p.bytes p.flatBytes := by
  have htype := inByte_value p.body.eventType
  have hflat := h.body.fields
  have hswitch := readSwitch_rewrites h.body
  unfold rewriteBossEvent BossEvent.bytes flatBytes
  apply Delivers.read (varInt64_roundTrips h.bossUniqueId)
  apply Delivers.read (uvarInt_roundTrips htype.inUInt32)
  rw [← List.append_nil p.body.bytes]
  apply hswitch.readThen_delivers
  apply hasRemaining_delivers
  rw [if_neg (by decide), land_of_inByte htype, land_of_inByte hflat.overlay]
  apply Delivers.write (varInt64_roundTrips h.bossUniqueId)
  apply Delivers.write (varInt64_roundTrips hflat.playerUniqueId)
  apply Delivers.write (byte_roundTrips htype)
  apply Delivers.write (string_roundTrips hflat.title)
  apply Delivers.write (string_roundTrips hflat.filteredTitle)
  apply Delivers.write (floatLE_roundTrips _)
  apply Delivers.write (byte_roundTrips (inByte_colourToV1001 hflat.colour))
  exact (write_rewrites (byte_roundTrips hflat.overlay).writes).deliversAll

theorem Canonical.flattens : Translates rewriteBossEvent p.bytes p.flatBytes :=
  h.flattens_delivers.translates

/-- The serverbound handler writes the switch again. -/
theorem Canonical.unflattens_delivers :
    Delivers rewriteBossEventServerbound p.flatBytes p.withoutDarkening.bytes := by
  have htype := inByte_value p.body.eventType
  have hflat := h.body.fields
  have hswitch := (writeSwitch_rewrites h.body).deliversAll
  have hkeep : p.body.withoutDarkening.eventType = p.body.eventType := by
    cases p.body <;> rfl
  unfold rewriteBossEventServerbound flatBytes
  apply Delivers.read (varInt64_roundTrips h.bossUniqueId)
  apply Delivers.read (varInt64_roundTrips hflat.playerUniqueId)
  apply Delivers.read (byte_roundTrips htype)
  apply Delivers.read (string_roundTrips hflat.title)
  apply Delivers.read (string_roundTrips hflat.filteredTitle)
  apply Delivers.read (floatLE_roundTrips _)
  apply Delivers.read (byte_roundTrips (inByte_colourToV1001 hflat.colour))
  rw [← List.append_nil (byte.bytes p.body.fields.overlay)]
  apply Delivers.read (byte_roundTrips hflat.overlay)
  apply hasRemaining_delivers
  rw [if_neg (by decide), BossEvent.bytes, withoutDarkening, hkeep]
  apply Delivers.write (varInt64_roundTrips h.bossUniqueId)
  apply Delivers.write (uvarInt_roundTrips htype.inUInt32)
  exact hswitch

theorem Canonical.unflattens :
    Translates rewriteBossEventServerbound p.flatBytes p.withoutDarkening.bytes :=
  h.unflattens_delivers.translates

theorem Canonical.refused {extra : List UInt8} (hne : extra ≠ []) :
    Raises rewriteBossEvent (p.bytes ++ extra)
      (notConsumed "v975->v1001" p.body.eventType.value) := by
  have htype := inByte_value p.body.eventType
  unfold rewriteBossEvent BossEvent.bytes
  rw [List.append_assoc, List.append_assoc]
  apply Raises.read (varInt64_roundTrips h.bossUniqueId)
  apply Raises.read (uvarInt_roundTrips htype.inUInt32)
  apply (readSwitch_rewrites h.body).bind_raises
  apply hasRemaining_raises hne
  exact Raises.throw extra _

/-- **BossEvent is undone serverbound**: the clientbound handler succeeds on every canonical v975
packet, and the serverbound handler makes of its output the same packet with the screen darkening
0; with anything behind its fields, the packet is refused. -/
theorem bossEvent_inverse (user user' : UserConnection) :
    (∃ q, rewriteBossEvent.apply p.bytes user = .ok q ∧
      rewriteBossEventServerbound.apply q user' = .ok p.withoutDarkening.bytes) ∧
    ∀ extra ≠ [], rewriteBossEvent.apply (p.bytes ++ extra) user =
      .error (notConsumed "v975->v1001" p.body.eventType.value) := by
  constructor
  · exact ⟨p.flatBytes, h.flattens.apply user, h.unflattens.apply user'⟩
  · intro extra hne
    exact (h.refused hne).apply user

omit h

/-- A white boss bar, with a darkened screen. -/
def sampleBossBar : BossEvent where
  bossUniqueId := -4294967295
  body := .showBar "Ender Dragon" "" 0x3F000000 1 6 255

theorem sampleBossBar_canonical : sampleBossBar.Canonical where
  bossUniqueId := by decide
  body := by
    have hcolour : InColour 6 := by decide
    exact ⟨by decide, by decide, by decide, hcolour, by decide⟩

theorem bossEvent_inverse_sample :
    (∃ q, rewriteBossEvent.apply sampleBossBar.bytes { address := "a" } = .ok q ∧
      rewriteBossEventServerbound.apply q { address := "a" } =
        .ok sampleBossBar.withoutDarkening.bytes) ∧
    ∀ extra ≠ [], rewriteBossEvent.apply (sampleBossBar.bytes ++ extra) { address := "a" } =
      .error (notConsumed "v975->v1001" 0) :=
  bossEvent_inverse sampleBossBar_canonical { address := "a" } { address := "a" }

end BossEvent

end Endweave
