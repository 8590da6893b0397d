import Endweave.Equiv.Pipeline
import Endweave.Protocol.Equiv.Steps
import Endweave.Protocol.Packets.LevelSoundEvent

/-!
# Correctness of LevelSoundEvent over the upgrade steps

`levelSoundEvent_roundTrip_iff`: a chain of upgrade steps translates every clientbound
LevelSoundEvent.  It gives the packet back when the client returns it exactly when it had not
changed the packet: when no step displaces the sound id and the step to v975, which adds a field, is
not in the chain.

Clientbound every step moves the id up and the step to v975 appends a byte (`handle_clientbound`);
serverbound none of the steps handles the packet (`handle_serverbound`).  Both are carried along the
chain by induction.
-/

namespace Endweave

open Wire PacketWrapper

/-! ### Shifts -/

namespace IdShift

variable (s : IdShift)

theorem shiftUp_bounds (h : 0 ≤ s.count) (v : Int) :
    v ≤ s.shiftUp v ∧ s.shiftUp v ≤ v + s.count := by
  unfold shiftUp
  split_ifs <;> omega

theorem shiftUp_eq_self_iff (h : 0 < s.count) (v : Int) : s.shiftUp v = v ↔ v < s.insertAt := by
  unfold shiftUp
  split_ifs <;> omega

end IdShift

namespace SoundStep

theorem count_pos (s : SoundStep) : 0 < s.mappings.sound.count := by
  cases s <;> decide

/-- The sound id at the client. -/
def shiftId (chain : List SoundStep) (v : Int) : Int :=
  chain.foldl (fun v s => s.mappings.sound.shiftUp v) v

/-- By how much a chain moves a sound id at most. -/
def room (chain : List SoundStep) : Int := (chain.map fun s => s.mappings.sound.count).sum

/-- The field that a step appends. -/
def appends (s : SoundStep) : List UInt8 := if s = v944V975 then bool.bytes false else []

/-- The fields that a chain appends, each in front of those before it. -/
def appended (chain : List SoundStep) : List UInt8 := chain.reverse.flatMap appends

theorem room_nonneg (chain : List SoundStep) : 0 ≤ room chain := by
  refine List.sum_nonneg fun c hc => ?_
  obtain ⟨s, _, rfl⟩ := List.mem_map.mp hc
  exact s.count_pos.le

theorem shiftId_bounds (chain : List SoundStep) (v : Int) :
    v ≤ shiftId chain v ∧ shiftId chain v ≤ v + room chain := by
  induction chain generalizing v with
  | nil => exact ⟨Int.le_refl v, (Int.add_zero v).ge⟩
  | cons s chain ih =>
    have hs := s.mappings.sound.shiftUp_bounds s.count_pos.le v
    have hchain := ih (s.mappings.sound.shiftUp v)
    have hcons : room (s :: chain) = s.mappings.sound.count + room chain := List.sum_cons
    show v ≤ shiftId chain (s.mappings.sound.shiftUp v) ∧
      shiftId chain (s.mappings.sound.shiftUp v) ≤ v + room (s :: chain)
    constructor <;> omega

/-- A chain keeps an id exactly when every step does: no step moves an id down. -/
theorem shiftId_eq_self_iff (chain : List SoundStep) (v : Int) :
    shiftId chain v = v ↔ ∀ s ∈ chain, v < s.mappings.sound.insertAt := by
  induction chain with
  | nil => simp [shiftId]
  | cons s chain ih =>
    have hs := s.mappings.sound.shiftUp_bounds s.count_pos.le v
    have hiff := s.mappings.sound.shiftUp_eq_self_iff s.count_pos v
    -- what the first step adds, no other step takes away
    rw [List.forall_mem_cons, ← hiff]
    show shiftId chain (s.mappings.sound.shiftUp v) = v ↔ _
    constructor
    · intro h
      have hle := (shiftId_bounds chain (s.mappings.sound.shiftUp v)).1
      have hkeep : s.mappings.sound.shiftUp v = v := by omega
      rw [hkeep] at h
      exact ⟨hkeep, ih.mp h⟩
    · rintro ⟨hkeep, hall⟩
      rw [hkeep]
      exact ih.mpr hall

theorem appended_cons (s : SoundStep) (chain : List SoundStep) :
    appended (s :: chain) = appended chain ++ appends s := by
  rw [appended, List.reverse_cons, List.flatMap_append, appended, List.flatMap_singleton]

theorem appends_eq_nil_iff (s : SoundStep) : appends s = [] ↔ s ≠ v944V975 := by
  cases s <;> decide

theorem appended_eq_nil_iff (chain : List SoundStep) : appended chain = [] ↔ v944V975 ∉ chain := by
  rw [appended, List.flatMap_eq_nil_iff]
  constructor
  · intro h hmem
    exact (appends_eq_nil_iff _).mp (h _ (List.mem_reverse.mpr hmem)) rfl
  · intro h s hs
    exact (appends_eq_nil_iff s).mpr fun heq => h (heq ▸ List.mem_reverse.mp hs)

/-- The steps move an id by 35 at most. -/
theorem room_le {chain : List SoundStep} (h : chain <:+: all) : room chain ≤ 35 := by
  have hsub : (chain.map fun s => s.mappings.sound.count).Sublist
      (all.map fun s => s.mappings.sound.count) := h.sublist.map _
  have hle := hsub.sum_le_sum fun c hc => by
    obtain ⟨s, _, rfl⟩ := List.mem_map.mp hc
    exact s.count_pos.le
  exact hle

end SoundStep

/-! ### One step -/

/-- A packet that a protocol hands on as its handler made it. -/
theorem Protocol.handle_of_delivers {p : Protocol} {direction : Direction} {packetId : Int}
    {h : PacketHandler} {inp out : List UInt8} (hcancel : packetId ∉ p.cancelled direction)
    (hget : (p.handlers direction).get? packetId = some h) (hh : Delivers h inp out)
    (user : UserConnection) : p.handle direction packetId (inp, user) = .ok (out, user) := by
  obtain ⟨w, hw, hout, huser, hkeep⟩ := hh (ofPayload inp user) (Cursor.within_start inp) rfl
  rw [handle, if_neg hcancel, hget]
  simp only [hw, hkeep, hout, huser]
  rfl

theorem rewriteLevelSoundEvent_delivers (s : SoundRewriter) {v : Int} (hv : InUInt32 v)
    (hs : InUInt32 (s.soundRemap v)) (rest : List UInt8) :
    Delivers s.rewriteLevelSoundEvent (uvarInt.bytes v ++ rest)
      (uvarInt.bytes (s.soundRemap v) ++ rest) := by
  have hread := read_rewrites (uvarInt_roundTrips hv).reads
  have hwrite := write_rewrites (uvarInt_roundTrips hs).writes
  exact hread.bind_delivers (hwrite.bind_delivers (passthroughAll_delivers rest))

namespace LevelSoundEventPacket

variable {p : LevelSoundEventPacket}

/-- The handler of the step to v975 puts a field behind those it knows. -/
theorem rewriteLevelSoundEvent_delivers_v975 (h : p.Canonical) {v : Int} (hv : InUInt32 v)
    (hs : InUInt32 (Mappings.v944V975.sound.shiftUp v)) (suf : List UInt8) :
    Delivers V944ToV975.rewriteLevelSoundEvent (uvarInt.bytes v ++ (p.tailBytes ++ suf))
      (uvarInt.bytes (Mappings.v944V975.sound.shiftUp v) ++
        (p.tailBytes ++ (bool.bytes false ++ suf))) := by
  have hall : Rewrites V944ToV975.rewriteLevelSoundEvent (uvarInt.bytes v ++ p.tailBytes)
      (uvarInt.bytes (Mappings.v944V975.sound.shiftUp v) ++ (p.tailBytes ++ bool.bytes false))
      () := by
    simp only [tailBytes, List.flatten_cons, List.flatten_nil, List.append_assoc, List.nil_append]
    apply Rewrites.read (uvarInt_roundTrips hv)
    apply Rewrites.write (uvarInt_roundTrips hs)
    apply Rewrites.passthrough (vec3_roundTrips p.position)
    apply Rewrites.passthrough (varInt_roundTrips h.data)
    apply Rewrites.passthrough (string_roundTrips h.actorIdentifier)
    apply Rewrites.passthrough (bool_roundTrips p.isBaby)
    apply Rewrites.passthrough (bool_roundTrips p.isGlobal)
    apply Rewrites.passthrough (int64LE_roundTrips h.actorUniqueId)
    exact write_rewrites (bool_roundTrips false).writes
  have hdelivers := hall.delivers suf
  simpa only [List.append_assoc] using hdelivers

end LevelSoundEventPacket

/-! ### Chains -/

section Chain

variable {p : LevelSoundEventPacket} (other : OtherHandlers) (user : UserConnection)

theorem SoundStep.not_cancelled (s : SoundStep) (direction : Direction) :
    PacketId.levelSoundEvent ∉ (s.protocol other).cancelled direction := by
  cases s <;> cases direction
  all_goals simp +decide [protocol, V860ToV898.createProtocol, V898ToV924.createProtocol,
    V924ToV944.createProtocol, V944ToV975.createProtocol]

/-- **One step clientbound**: the id moves up, and the step to v975 appends its field. -/
theorem SoundStep.handle_clientbound (s : SoundStep) (h : p.Canonical) {v : Int} (hv : 0 ≤ v)
    (hroom : v + s.mappings.sound.count < 2 ^ 32) (suf : List UInt8) :
    (s.protocol other).handle .clientbound PacketId.levelSoundEvent
      (uvarInt.bytes v ++ (p.tailBytes ++ suf), user) =
        .ok (uvarInt.bytes (s.mappings.sound.shiftUp v) ++
          (p.tailBytes ++ (s.appends ++ suf)), user) := by
  have hup := s.mappings.sound.shiftUp_bounds s.count_pos.le v
  have hin : InUInt32 v := ⟨hv, by have := s.count_pos; omega⟩
  have hout : InUInt32 (s.mappings.sound.shiftUp v) := ⟨by omega, by omega⟩
  have hcancel := s.not_cancelled other .clientbound
  -- every step registers one handler for the packet
  cases s with
  | v860V898 =>
    refine Protocol.handle_of_delivers hcancel ?_
      (rewriteLevelSoundEvent_delivers (SoundRewriter.upgrade Mappings.v860V898) hin hout _) user
    simp +decide [protocol, V860ToV898.createProtocol]
  | v898V924 =>
    refine Protocol.handle_of_delivers hcancel ?_
      (rewriteLevelSoundEvent_delivers (SoundRewriter.upgrade Mappings.v898V924) hin hout _) user
    simp +decide [protocol, V898ToV924.createProtocol]
  | v924V944 =>
    refine Protocol.handle_of_delivers hcancel ?_
      (rewriteLevelSoundEvent_delivers (SoundRewriter.upgrade Mappings.v924V944) hin hout _) user
    simp +decide [protocol, V924ToV944.createProtocol]
  | v944V975 =>
    refine Protocol.handle_of_delivers hcancel ?_
      (LevelSoundEventPacket.rewriteLevelSoundEvent_delivers_v975 h hin hout suf) user
    simp +decide [protocol, V944ToV975.createProtocol]

/-- **One step serverbound**: no step handles the packet. -/
theorem SoundStep.handle_serverbound (s : SoundStep) (x : List UInt8 × UserConnection) :
    (s.protocol other).handle .serverbound PacketId.levelSoundEvent x = .ok x := by
  have hget : ((s.protocol other).handlers .serverbound).get? PacketId.levelSoundEvent = none := by
    cases s
    all_goals simp +decide [protocol, V860ToV898.createProtocol, V898ToV924.createProtocol,
      V924ToV944.createProtocol, V944ToV975.createProtocol]
  rw [Protocol.handle, if_neg (s.not_cancelled other .serverbound), hget]

/-- **A whole chain clientbound**. -/
theorem compose_clientbound (h : p.Canonical) (chain : List SoundStep) {v : Int} (hv : 0 ≤ v)
    (hroom : v + SoundStep.room chain < 2 ^ 32) (suf : List UInt8) :
    compose .clientbound PacketId.levelSoundEvent (SoundStep.clientbound other chain)
      (uvarInt.bytes v ++ (p.tailBytes ++ suf), user) =
        .ok (uvarInt.bytes (SoundStep.shiftId chain v) ++
          (p.tailBytes ++ (SoundStep.appended chain ++ suf)), user) := by
  induction chain generalizing v suf with
  | nil => rfl
  | cons s chain ih =>
    have hup := s.mappings.sound.shiftUp_bounds s.count_pos.le v
    have hnonneg := SoundStep.room_nonneg chain
    have hcons : SoundStep.room (s :: chain) = s.mappings.sound.count + SoundStep.room chain :=
      List.sum_cons
    rw [hcons] at hroom
    -- the room of the whole chain is that of the first step and of the others
    show compose .clientbound PacketId.levelSoundEvent
      (s.protocol other :: SoundStep.clientbound other chain) _ = _
    rw [compose_cons, s.handle_clientbound other user h hv (by omega) suf]
    show compose _ _ _ _ = _
    rw [ih (by omega) (by omega), SoundStep.appended_cons, List.append_assoc]
    rfl

/-- **A whole chain serverbound**. -/
theorem compose_serverbound (chain : List SoundStep) (x : List UInt8 × UserConnection) :
    compose .serverbound PacketId.levelSoundEvent (SoundStep.serverbound other chain) x =
      .ok x := by
  refine compose_eq_self fun q hq => ?_
  obtain ⟨s, _, rfl⟩ := List.mem_map.mp (List.mem_reverse.mp hq)
  exact s.handle_serverbound other x

end Chain

/-- Two packets with the same fields behind the sound id are the same when the ids are, and nothing
is appended. -/
theorem LevelSoundEventPacket.Canonical.bytes_inj {p : LevelSoundEventPacket} (h : p.Canonical)
    {v : Int} (hv : InUInt32 v) (suf : List UInt8) :
    uvarInt.bytes v ++ (p.tailBytes ++ suf) = p.bytes ↔ v = p.eventId ∧ suf = [] := by
  have hid : InUInt32 p.eventId := ⟨h.eventId.1, by have := h.eventId.2; omega⟩
  constructor
  · intro heq
    have hread := (uvarInt_roundTrips hv).reads.inj_append (uvarInt_roundTrips hid).reads heq
    exact ⟨hread.1, List.append_right_eq_self.mp hread.2⟩
  · rintro ⟨rfl, rfl⟩
    rw [List.append_nil, bytes]

/-- **A sound id in both directions**: a chain of upgrade steps translates every LevelSoundEvent of
its server, and the packet that the client returns reaches the server as the server had sent it
exactly when the chain does not include the step to v975 and displaces no sound id from this one
on. -/
theorem levelSoundEvent_roundTrip_iff (other : OtherHandlers) {chain : List SoundStep}
    (hchain : chain <:+: SoundStep.all) {p : LevelSoundEventPacket} (h : p.Canonical)
    (user user' : UserConnection) :
    ∃ q, compose .clientbound PacketId.levelSoundEvent (SoundStep.clientbound other chain)
        (p.bytes, user) = .ok (q, user) ∧
      (compose .serverbound PacketId.levelSoundEvent (SoundStep.serverbound other chain)
          (q, user') = .ok (p.bytes, user') ↔
        .v944V975 ∉ chain ∧ ∀ s ∈ chain, p.eventId < s.mappings.sound.insertAt) := by
  obtain ⟨hnonneg, hlt⟩ := h.eventId
  have hroom := SoundStep.room_le hchain
  have hup := compose_clientbound other user h chain hnonneg (by omega) []
  rw [List.append_nil, ← LevelSoundEventPacket.bytes] at hup
  refine ⟨_, hup, ?_⟩
  -- serverbound the packet stays as it is, so that it is the one of the server exactly when it has
  -- not been changed on its way to the client
  have hbounds := SoundStep.shiftId_bounds chain p.eventId
  have hid : InUInt32 (SoundStep.shiftId chain p.eventId) := ⟨by omega, by omega⟩
  rw [compose_serverbound, Except.ok.injEq, Prod.mk.injEq, eq_self, and_true, List.append_nil,
    h.bytes_inj hid, SoundStep.shiftId_eq_self_iff,
    SoundStep.appended_eq_nil_iff]
  exact and_comm

/-- A packet for each sound id. -/
def sampleSound (eventId : Int) : LevelSoundEventPacket where
  eventId := eventId
  position := (0, 0x42800000, 0)
  data := -1
  actorIdentifier := ""
  isBaby := false
  isGlobal := true
  actorUniqueId := -1

theorem sampleSound_canonical {eventId : Int} (h : 0 ≤ eventId ∧ eventId < 2 ^ 32 - 64) :
    (sampleSound eventId).Canonical where
  eventId := h
  data := (by decide : InInt32 (-1))
  actorIdentifier := (by decide : FitsString "")
  actorUniqueId := (by decide : InInt64 (-1))

/-- Over two steps an old sound comes back as it was. -/
theorem levelSoundEvent_roundTrip_sample :
    ∃ q, compose .clientbound PacketId.levelSoundEvent
        (SoundStep.clientbound (fun _ _ => pure ()) [.v860V898, .v898V924])
        ((sampleSound 100).bytes, { address := "a" }) = .ok (q, { address := "a" }) ∧
      (compose .serverbound PacketId.levelSoundEvent
          (SoundStep.serverbound (fun _ _ => pure ()) [.v860V898, .v898V924])
          (q, { address := "a" }) = .ok ((sampleSound 100).bytes, { address := "a" }) ↔
        .v944V975 ∉ [SoundStep.v860V898, .v898V924] ∧
          ∀ s ∈ [SoundStep.v860V898, .v898V924],
            (sampleSound 100).eventId < s.mappings.sound.insertAt) :=
  levelSoundEvent_roundTrip_iff _ (by decide) (sampleSound_canonical (by decide)) _ _

/-- **A sound that comes back as another one**: v898 knows the undefined sound of v860 under 578,
and under that id it reaches the server, too. -/
theorem levelSoundEvent_displaced :
    compose .clientbound PacketId.levelSoundEvent
        (SoundStep.clientbound (fun _ _ => pure ()) [.v860V898])
        ((sampleSound 566).bytes, { address := "a" }) =
      .ok ((sampleSound 578).bytes, { address := "a" }) ∧
    compose .serverbound PacketId.levelSoundEvent
        (SoundStep.serverbound (fun _ _ => pure ()) [.v860V898])
        ((sampleSound 578).bytes, { address := "a" }) =
      .ok ((sampleSound 578).bytes, { address := "a" }) ∧
    (sampleSound 578).bytes ≠ (sampleSound 566).bytes := by
  have h : (sampleSound 566).Canonical := sampleSound_canonical (by decide)
  have hnil : SoundStep.appended [.v860V898] = [] :=
    (SoundStep.appended_eq_nil_iff _).mpr (by decide)
  refine ⟨?_, compose_serverbound _ _ _, ?_⟩
  · have hup := compose_clientbound (fun _ _ => pure ()) { address := "a" } h [.v860V898]
      h.eventId.1 (by decide) []
    rw [hnil, List.append_nil, List.append_nil, List.append_nil] at hup
    exact hup
  · intro heq
    have hbytes : (sampleSound 578).bytes =
        uvarInt.bytes 578 ++ ((sampleSound 566).tailBytes ++ []) := by
      rw [List.append_nil]
      rfl
    have hid := (h.bytes_inj (by decide) []).mp (hbytes.symm.trans heq)
    exact absurd hid.1 (by decide)

end Endweave
