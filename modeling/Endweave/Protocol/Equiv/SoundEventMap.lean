import Endweave.Codec.Equiv.Wrapper
import Endweave.Lib.Spelling
import Endweave.Protocol.Handlers.LevelSoundEvent

/-!
# Correctness of the sound event names

`soundEventId_survives_iff`: a numeric sound that v1001 is told by name comes back as the same
number exactly when the table has it.  Every other number is told as the empty string, which comes
back as the number 0 of `item.use.on`.

What is used of the table is that its names are distinct, not empty and short (`exists_spelled`).
-/

namespace Endweave.V975ToV1001

open Wire Spelling PacketReader PacketWriter PacketWrapper

/-! ### The table -/

set_option maxRecDepth 10000 in
theorem exists_spelled : ∃ ls, Spelled soundEventNames.values ls ∧
    unseen (ls.map fingerprint) 0 = true ∧ ∀ l ∈ ls, l ≠ [] ∧ l.length ≤ 64 := by
  apply Exists.intro
  apply And.intro
  -- the names of the table give the characters, one by one
  · repeat (first | exact Spelled.nil | apply Spelled.cons)
  · constructor <;> decide +kernel

theorem nodup_soundEventNames : soundEventNames.values.Nodup := by
  obtain ⟨ls, hspelled, hunseen, _⟩ := exists_spelled
  exact hspelled.nodup hunseen

theorem soundEventNames_mem {name : String} (h : name ∈ soundEventNames.values) :
    name ≠ "" ∧ FitsString name := by
  obtain ⟨ls, hspelled, _, hls⟩ := exists_spelled
  rw [hspelled.eq_map] at h
  obtain ⟨l, hl, rfl⟩ := List.mem_map.mp h
  obtain ⟨hne, hlength⟩ := hls l hl
  constructor
  · exact fun heq => hne (String.ofList_injective heq)
  · have hsize := size_utf8Encode_le l
    have hbytes : (encodeUtf8 (String.ofList l)).length = l.utf8Encode.size := by
      unfold encodeUtf8
      rw [String.toUTF8_eq_toByteArray, String.toByteArray_ofList]
      exact Array.length_toList
    rw [FitsString, hbytes, maxStringBytes]
    omega

/-- The name under which v1001 is told a sound. -/
def soundName (id : Int) : String := (soundEventNames.get? id).getD ""

/-- The number of the sound that v1001 tells by its name. -/
def soundId (name : String) : Int := (soundEventIds.get? name).getD 0

theorem soundName_fits (id : Int) : FitsString (soundName id) := by
  unfold soundName
  cases hid : soundEventNames.get? id with
  | none => decide
  | some name =>
    have hmem : name ∈ soundEventNames.values :=
      List.mem_map.mpr ⟨_, OrderedDict.mem_of_get? hid, rfl⟩
    exact (soundEventNames_mem hmem).2

theorem soundId_soundName_of_mem {id : Int} (h : id ∈ soundEventNames.keys) :
    soundId (soundName id) = id := by
  obtain ⟨name, hname⟩ := Option.isSome_iff_exists.mp
    ((OrderedDict.get?_isSome_iff soundEventNames id).mpr h)
  unfold soundId soundName soundEventIds
  rw [hname, Option.getD_some, OrderedDict.get?_inverse nodup_soundEventNames hname,
    Option.getD_some]

/-- A number that the table lacks has the empty name, which no sound has. -/
theorem soundId_soundName_of_not_mem {id : Int} (h : id ∉ soundEventNames.keys) :
    soundId (soundName id) = 0 := by
  have hnone : soundEventNames.get? id = none := by
    rw [← Option.not_isSome_iff_eq_none, OrderedDict.get?_isSome_iff]
    exact h
  have hempty : "" ∉ soundEventNames.values := fun hmem => (soundEventNames_mem hmem).1 rfl
  unfold soundId soundName soundEventIds
  rw [hnone, Option.getD_none, OrderedDict.get?_inverse_of_not_mem nodup_soundEventNames hempty,
    Option.getD_none]

theorem zero_mem_keys : 0 ∈ soundEventNames.keys := by decide

theorem soundId_soundName_eq_iff (id : Int) :
    soundId (soundName id) = id ↔ id ∈ soundEventNames.keys := by
  constructor
  · intro heq
    by_contra hmem
    rw [soundId_soundName_of_not_mem hmem] at heq
    exact hmem (heq ▸ zero_mem_keys)
  · exact soundId_soundName_of_mem

/-! ### The packet in both directions -/

theorem keys_inUInt32 : ∀ id ∈ soundEventNames.keys, InUInt32 id := by decide +kernel

theorem soundId_soundName_inUInt32 (id : Int) : InUInt32 (soundId (soundName id)) := by
  by_cases h : id ∈ soundEventNames.keys
  · rw [soundId_soundName_of_mem h]
    exact keys_inUInt32 id h
  · rw [soundId_soundName_of_not_mem h]
    exact keys_inUInt32 0 zero_mem_keys

/-- The number that v975 gets back is that of the name, whatever follows it. -/
theorem soundEvent_applyAll {id : Int} (hid : InUInt32 id) (rest : List UInt8)
    (user : UserConnection) :
    PacketHandler.applyAll [rewriteLevelSoundEvent .clientbound,
      rewriteLevelSoundEvent .serverbound] (uvarInt.bytes id ++ rest) user =
        .ok (uvarInt.bytes (soundId (soundName id)) ++ rest) := by
  have hname := string_roundTrips (soundName_fits id)
  have hback := uvarInt_roundTrips (soundId_soundName_inUInt32 id)
  have hclient : Translates (rewriteLevelSoundEvent .clientbound) (uvarInt.bytes id ++ rest)
      (string.bytes (soundName id) ++ rest) :=
    Translates.read (uvarInt_roundTrips hid)
      (Translates.write hname (passthroughAll_translates rest))
  have hserver : Translates (rewriteLevelSoundEvent .serverbound)
      (string.bytes (soundName id) ++ rest)
      (uvarInt.bytes (soundId (soundName id)) ++ rest) :=
    Translates.read hname (Translates.write hback (passthroughAll_translates rest))
  rw [applyAll_cons (hclient.apply user), applyAll_singleton, hserver.apply user]

/-- **Numeric sounds through their names**: what v975 gets back, if anything, is the number it had
sent and the bytes behind it exactly when the table has the number. -/
theorem soundEventId_survives_iff {id : Int} (hid : InUInt32 id) (rest : List UInt8)
    (user : UserConnection) :
    (∀ out, PacketHandler.applyAll [rewriteLevelSoundEvent .clientbound,
        rewriteLevelSoundEvent .serverbound] (uvarInt.bytes id ++ rest) user = .ok out →
      out = uvarInt.bytes id ++ rest) ↔ id ∈ soundEventNames.keys := by
  rw [soundEvent_applyAll hid rest user, ← soundId_soundName_eq_iff]
  constructor
  · intro h
    have hbytes := h _ rfl
    exact ((uvarInt_roundTrips (soundId_soundName_inUInt32 id)).reads.inj_append
      (uvarInt_roundTrips hid).reads hbytes).1
  · intro heq out hout
    rw [← Except.ok.inj hout, heq]

/-- The melee hit, number 1. -/
theorem soundEventId_survives_iff_sample :
    ∃ out, PacketHandler.applyAll [rewriteLevelSoundEvent .clientbound,
        rewriteLevelSoundEvent .serverbound] (uvarInt.bytes 1 ++ [7]) { address := "a" } =
          .ok out ∧ out = [1, 7] := by
  have hid : InUInt32 1 := by decide
  have hback := soundEvent_applyAll hid [7] { address := "a" }
  have hmem : 1 ∈ soundEventNames.keys := by decide
  exact ⟨_, hback, (soundEventId_survives_iff hid [7] { address := "a" }).mpr hmem _ hback⟩

/-- `LevelSoundEvent.UNDEFINED_V975` comes back as `item.use.on`. -/
theorem soundEventId_undefined_lost :
    InUInt32 601 ∧ uvarInt.bytes 601 = [217, 4] ∧
      PacketHandler.applyAll [rewriteLevelSoundEvent .clientbound,
        rewriteLevelSoundEvent .serverbound] ([217, 4] ++ [7]) { address := "a" } =
          .ok ([0] ++ [7]) ∧ [0] ++ [7] ≠ uvarInt.bytes 601 ++ [7] := by
  have hlost := soundEvent_applyAll (by decide : InUInt32 601) [7] { address := "a" }
  have hmem : 601 ∉ soundEventNames.keys := by decide +kernel
  rw [soundId_soundName_of_not_mem hmem] at hlost
  exact ⟨by decide, rfl, hlost, by decide⟩

end Endweave.V975ToV1001
