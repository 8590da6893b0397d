import Endweave.Codec.Equiv.Wrapper
import Endweave.Protocol.Packets.Entities
import Endweave.Rewriter.ActorEvent

/-!
# Correctness of the handlers of effects, events and movement

Each handler turns the packet of one version into that of its neighbour (`_delivers`).
-/

namespace Endweave

open Wire PacketWrapper

/-! ### MobEffect -/

namespace MobEffect

variable {p : MobEffect}

theorem passthroughMobEffect_rewrites (h : p.Canonical) :
    Rewrites passthroughMobEffect p.fields p.fields () := by
  unfold passthroughMobEffect fields
  apply Rewrites.passthrough (uvarInt64_roundTrips h.targetRuntimeId)
  apply Rewrites.passthrough (byte_roundTrips h.eventId)
  apply Rewrites.passthrough (varInt_roundTrips h.effectId)
  apply Rewrites.passthrough (varInt_roundTrips h.amplifier)
  apply Rewrites.passthrough (bool_roundTrips _)
  apply Rewrites.passthrough (varInt_roundTrips h.duration)
  exact (passthrough_rewrites (uvarInt64_roundTrips h.tick)).last rfl

theorem upgrade_delivers (h : p.Canonical) (hambient : p.ambient = false) :
    Delivers V860ToV898.rewriteMobEffect p.fields (p.fields ++ bool.bytes p.ambient) := by
  have hall : Rewrites V860ToV898.rewriteMobEffect (p.fields ++ [])
      (p.fields ++ bool.bytes false) () :=
    (passthroughMobEffect_rewrites h).bind (write_rewrites (bool_roundTrips false).writes)
  rw [hambient]
  rw [List.append_nil] at hall
  exact hall.deliversAll

theorem downgrade_delivers (h : p.Canonical) :
    Delivers V898ToV860.rewriteMobEffect (p.fields ++ bool.bytes p.ambient) p.fields := by
  have hall : Rewrites V898ToV860.rewriteMobEffect (p.fields ++ bool.bytes p.ambient)
      (p.fields ++ []) () :=
    (passthroughMobEffect_rewrites h).bind
      ((read_rewrites (bool_roundTrips p.ambient).reads).last rfl)
  rw [List.append_nil] at hall
  exact hall.deliversAll

end MobEffect

/-! ### Event -/

namespace EventPacket

variable {p : EventPacket}

/-- An unsigned field is written modulo 2 ^ 32. -/
theorem uvarInt_bytes_emod (v : Int) : uvarInt.bytes (v % 2 ^ 32) = uvarInt.bytes v :=
  congrArg written (writeUVarint_emod v)

theorem upgrade_delivers (h : p.Canonical) (hdata : p.eventData = p.eventType % 2 ^ 32) :
    Delivers V860ToV898.rewriteEvent (format.form 0 p) (format.form 1 p) := by
  have hwrite : Rewrites (PacketWrapper.write uvarInt p.eventType) [] (uvarInt.bytes p.eventType)
      () := write_rewrites (uvarInt_codes p.eventType).writes
  show Delivers _ _ (_ ++ (_ ++ (_ ++ (uvarInt.bytes p.eventData ++ _))))
  rw [hdata, uvarInt_bytes_emod]
  apply Delivers.passthrough (varInt64_roundTrips h.targetActorId)
  apply Delivers.passthrough (varInt_roundTrips h.eventType)
  apply Delivers.passthrough (bool_roundTrips p.usePlayerId)
  exact hwrite.bind_delivers (passthroughAll_delivers p.rest)

theorem downgrade_delivers (h : p.Canonical) :
    Delivers V898ToV860.rewriteEvent (format.form 1 p) (format.form 0 p) := by
  apply Delivers.passthrough (varInt64_roundTrips h.targetActorId)
  apply Delivers.passthrough (varInt_roundTrips h.eventType)
  apply Delivers.passthrough (bool_roundTrips p.usePlayerId)
  apply Delivers.read (uvarInt_roundTrips h.eventData)
  exact passthroughAll_delivers p.rest

end EventPacket

/-! ### Interact -/

namespace Interact

variable {p : Interact}

theorem upgrade_delivers (h : p.Canonical) (hposition : p.position.isSome = hasPosition p.action) :
    Delivers V898ToV860.rewriteInteract (format.form 0 p) (format.form 1 p) := by
  apply Delivers.passthrough (byte_roundTrips h.action)
  apply Delivers.passthrough (uvarInt64_roundTrips h.targetRuntimeId)
  rw [← hposition]
  cases hp : p.position with
  | none => exact (write_rewrites (bool_roundTrips false).writes).deliversAll
  | some position =>
    -- the position stays where it is, behind the flag
    have hflag := (write_rewrites (bool_roundTrips true).writes).delivers (vec3.bytes position)
    rw [List.nil_append] at hflag
    rw [optionalType_bytes_some (vec3_roundTrips position)]
    simp only [Option.isSome_some, if_true, Option.getD_some]
    exact hflag

theorem rewritePosition_rewrites (action : Int) (position : Option Vec3) :
    Rewrites (V860ToV898.rewritePosition action position.isSome)
      (position.toList.flatMap vec3.bytes)
      (if hasPosition action then vec3.bytes (position.getD (0, 0, 0)) else []) () := by
  unfold V860ToV898.rewritePosition
  cases hasPosition action with
  | true =>
    cases position with
    | none => exact write_rewrites (vec3_roundTrips (0, 0, 0)).writes
    | some position =>
      rw [Option.toList_some, List.flatMap_singleton]
      exact (passthrough_rewrites (vec3_roundTrips position)).discard
  | false =>
    cases position with
    | none => exact Rewrites.pure ()
    | some position =>
      rw [Option.toList_some, List.flatMap_singleton]
      exact (read_rewrites (vec3_roundTrips position).reads).discard

theorem downgrade_delivers (h : p.Canonical) :
    Delivers V860ToV898.rewriteInteract (format.form 1 p) (format.form 0 p) := by
  have hbytes : (optionalType vec3).bytes p.position =
      bool.bytes p.position.isSome ++ p.position.toList.flatMap vec3.bytes :=
    (optionalType_writes fun position _ => vec3_roundTrips position).written
  show Delivers _ (_ ++ (_ ++ (optionalType vec3).bytes p.position)) _
  rw [hbytes]
  apply Delivers.passthrough (byte_roundTrips h.action)
  apply Delivers.passthrough (uvarInt64_roundTrips h.targetRuntimeId)
  apply Delivers.read (bool_roundTrips p.position.isSome)
  exact (rewritePosition_rewrites p.action p.position).deliversAll

end Interact

/-! ### ActorEvent -/

namespace ActorEventPacket

variable {p : ActorEventPacket}

/-- The shift of v898. -/
def shift : IdShift := inserted 1 newEvent

theorem shiftUp_oldEventId {eventId : Int} (hne : eventId ≠ newEvent) :
    shift.shiftUp (oldEventId eventId) = eventId := by
  simp only [newEvent, ActorEvent.value] at hne
  simp only [shift, inserted, IdShift.shiftUp, oldEventId, newEvent, ActorEvent.value]
  split_ifs <;> omega

theorem shiftDown_eq_oldEventId (eventId : Int) :
    shift.shiftDown eventId = oldEventId eventId := by
  simp only [shift, inserted, IdShift.shiftDown, oldEventId, newEvent, ActorEvent.value]
  split_ifs <;> omega

theorem oldEventId_inByte {eventId : Int} (h : InByte eventId) : InByte (oldEventId eventId) := by
  unfold InByte at h ⊢
  simp only [oldEventId, newEvent, ActorEvent.value]
  split_ifs <;> omega

theorem upgrade_delivers (h : p.Canonical) (hne : p.eventId ≠ newEvent) :
    Delivers (ActorEventRewriter.rewriteUpgrade ⟨shift, true⟩) (p.bytes (oldEventId p.eventId))
      (p.bytes p.eventId) := by
  have hwrite : Rewrites (PacketWrapper.write byte (shift.shiftUp (oldEventId p.eventId))) []
      (byte.bytes p.eventId) () := by
    rw [shiftUp_oldEventId hne]
    exact write_rewrites (byte_roundTrips h.eventId).writes
  apply Delivers.passthrough (uvarInt64_roundTrips h.targetRuntimeId)
  apply Delivers.read (byte_roundTrips (oldEventId_inByte h.eventId))
  exact hwrite.delivers _

theorem downgrade_delivers (h : p.Canonical) (hne : p.eventId ≠ newEvent) :
    Delivers (ActorEventRewriter.rewriteDowngrade ⟨shift, false⟩) (p.bytes p.eventId)
      (p.bytes (oldEventId p.eventId)) := by
  have hnot : ¬ (shift.insertAt ≤ p.eventId ∧ p.eventId < shift.insertAt + shift.count) := by
    simp only [shift, inserted, newEvent, ActorEvent.value] at hne ⊢
    omega
  apply Delivers.passthrough (uvarInt64_roundTrips h.targetRuntimeId)
  apply Delivers.read (byte_roundTrips h.eventId)
  rw [if_neg hnot, shiftDown_eq_oldEventId]
  exact (write_rewrites (byte_roundTrips (oldEventId_inByte h.eventId)).writes).delivers _

theorem downgrade_cancels (h : p.Canonical) (heq : p.eventId = newEvent) :
    Cancels (ActorEventRewriter.rewriteDowngrade ⟨shift, false⟩) (p.bytes p.eventId) := by
  have hnew : shift.insertAt ≤ p.eventId ∧ p.eventId < shift.insertAt + shift.count := by
    rw [heq]
    decide
  apply Cancels.passthrough (uvarInt64_roundTrips h.targetRuntimeId)
  apply Cancels.read (byte_roundTrips h.eventId)
  rw [if_pos hnew]
  exact cancel_cancels _

theorem position_delivers (hposition : p.fireAtPosition = none) :
    Delivers (V944ToV975.rewriteActorEvent .clientbound) (p.bytes p.eventId)
      (p.bytes p.eventId ++ (optionalType vec3).bytes p.fireAtPosition) := by
  rw [hposition]
  exact passthroughAll_write_delivers (write_rewrites (bool_roundTrips false).writes) _

theorem noPosition_delivers (h : p.Canonical) :
    Delivers (V944ToV975.rewriteActorEvent .serverbound)
      (p.bytes p.eventId ++ (optionalType vec3).bytes p.fireAtPosition) (p.bytes p.eventId) := by
  have htarget := passthrough_rewrites (uvarInt64_roundTrips h.targetRuntimeId)
  have hid := passthrough_rewrites (byte_roundTrips h.eventId)
  have hdata := passthrough_rewrites (varInt_roundTrips h.data)
  have hskip := skipOptional_rewrites (v := p.fireAtPosition) fun position _ =>
    vec3_roundTrips position
  have hall : Rewrites (V944ToV975.rewriteActorEvent .serverbound) _
      (uvarInt64.bytes p.targetRuntimeId ++ (byte.bytes p.eventId ++ (varInt.bytes p.data ++ [])))
      () := htarget.bind (hid.bind (hdata.bind hskip))
  rw [bytes, List.append_assoc, List.append_assoc]
  rw [List.append_nil] at hall
  exact hall.deliversAll

end ActorEventPacket

/-! ### ClientMovementPredictionSync -/

namespace ClientMovementPredictionSync

open V944ToV975

theorem byte_bytes (b : UInt8) : byte.bytes b.toNat = [b] := by
  have hb := b.toNat_lt
  have hvalue : ((b.toNat : Int) % 256).toNat = b.toNat := by omega
  refine (writeByte_writes _).written.trans ?_
  rw [hvalue, UInt8.ofNat_toNat]

/-- The loop over a bit set ends behind it, with any rounds to spare. -/
theorem passthroughBitsetUpTo_rewrites {flags : List UInt8} (h : Leb128.Terminated flags)
    {rounds : Nat} (hrounds : flags.length ≤ rounds) :
    Rewrites (passthroughBitsetUpTo rounds) flags flags () := by
  induction flags generalizing rounds with
  | nil => exact absurd h id
  | cons b flags ih =>
    rw [List.length_cons] at hrounds
    obtain ⟨rounds, rfl⟩ : ∃ n, rounds = n + 1 := ⟨rounds - 1, by omega⟩
    have hb : InByte b.toNat := ⟨Int.natCast_nonneg _, by have := b.toNat_lt; omega⟩
    have hpass := passthrough_rewrites (byte_roundTrips hb)
    rw [byte_bytes] at hpass
    have hland : Int.land b.toNat 0x80 = 0 ↔ b.toNat < 128 := by
      rw [← land_continue]
      exact Int.natCast_eq_zero
    have hnext : Rewrites (if Int.land b.toNat 0x80 = 0 then pure () else
        passthroughBitsetUpTo rounds) flags flags () := by
      rcases Leb128.terminated_cons_iff.mp h with ⟨hlt, rfl⟩ | ⟨hge, hrest⟩
      · rw [if_pos (hland.mpr hlt)]
        exact Rewrites.pure ()
      · rw [if_neg (fun hzero => absurd (hland.mp hzero) (by omega))]
        exact ih hrest (by omega)
    exact hpass.bind hnext

theorem passthroughBitset_rewrites {flags : List UInt8} (h : Leb128.Terminated flags) :
    Rewrites passthroughBitset flags flags () := by
  intro w suf hin hw
  have hrounds : flags.length ≤ w.reader.rest.length + 1 := by
    rw [hw, List.length_append]
    omega
  exact passthroughBitsetUpTo_rewrites h hrounds w suf hin hw

variable {p : ClientMovementPredictionSync}

theorem passthroughFloats_rewrites (vs : List UInt32) :
    Rewrites (Wire.repeatM (discard (passthrough floatLE)) vs.length) (vs.flatMap floatLE.bytes)
      (vs.flatMap floatLE.bytes) () :=
  Rewrites.repeatM fun v _ => (passthrough_rewrites (floatLE_roundTrips v)).discard

theorem readFloats_rewrites (vs : List UInt32) :
    Rewrites (Wire.repeatM (discard (PacketWrapper.read floatLE)) vs.length)
      (vs.flatMap floatLE.bytes) [] () :=
  Rewrites.repeatM_skips fun v _ => (read_rewrites (floatLE_roundTrips v).reads).discard

theorem downgrade_delivers (h : p.Canonical) :
    Delivers rewriteClientMovementPredictionSync (format.form 1 p) (format.form 0 p) := by
  have hattributes := passthroughFloats_rewrites p.attributes
  have hnew := readFloats_rewrites p.newAttributes
  have hflying : Rewrites (passthrough bool >>= fun _ => pure ()) (bool.bytes p.flying)
      (bool.bytes p.flying) () := (passthrough_rewrites (bool_roundTrips p.flying)).last rfl
  rw [h.attributes] at hattributes
  rw [h.newAttributes] at hnew
  apply (passthroughBitset_rewrites h.flags).bind_delivers
  apply hattributes.bind_delivers
  apply hnew.readThen_delivers
  apply Delivers.passthrough (varInt64_roundTrips h.actorUniqueId)
  exact hflying.deliversAll

end ClientMovementPredictionSync

end Endweave
