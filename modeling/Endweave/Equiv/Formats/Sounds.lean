import Endweave.Equiv.Formats
import Endweave.Protocol.Equiv.SoundEventMap
import Endweave.Protocol.Packets.Sounds
import Endweave.Rewriter.Equiv.Sound

/-!
# Sounds and metadata are carried

The shifts of the steps turn the number of a sound in one version into its number in the other: up
for the sounds that both versions know (`shiftUp_soundNumber`), down for all sounds
(`shiftDown_soundNumber`, `cap_soundNumber`).

`SoundRewriter.kept_remapItem_metadataIn`: the metadata of one version, filtered and remapped, are
those of the other.
-/

namespace Endweave

open PacketFormat PacketWrapper Wire

/-! ### Numbers -/

theorem undefinedSound_mem (changes : ℕ) :
    0 ≤ undefinedSound changes ∧ undefinedSound changes ≤ 601 := by
  unfold undefinedSound
  split <;> decide

/-- The shift of the step between the versions after some changes and after one more. -/
def soundShift : ℕ → IdShift
  | 0 => Mappings.v860V898.sound
  | 1 => Mappings.v898V924.sound
  | 2 => Mappings.v924V944.sound
  | _ => Mappings.v944V975.sound

/-- The new sounds of a step are in front of the undefined one. -/
theorem soundShift_spec : ∀ changes < 4, (soundShift changes).insertAt = undefinedSound changes ∧
    (soundShift changes).insertAt + (soundShift changes).count = undefinedSound (changes + 1) ∧
      0 < (soundShift changes).count := by
  decide

/-- The last version after some of the changes. -/
def soundVersion : ℕ → Int
  | 0 => 860
  | 1 => 898
  | 2 => 924
  | 3 => 944
  | _ => 975

/-- What a version knows is in front of its undefined sound, or that one. -/
theorem lt_undefinedSound_of_since {changes : ℕ} {sound : Int} (hsound : sound ≤ 601)
    (h : soundSince sound ≤ soundVersion changes) :
    sound < undefinedSound changes ∨ sound = 601 := by
  unfold soundSince at h
  rcases changes with _ | _ | _ | _ | changes
  all_goals simp only [soundVersion, undefinedSound] at h ⊢; split_ifs at h <;> omega

section Shift

variable (changes : ℕ) (hchanges : changes < 4) {sound : Int}

include hchanges

theorem shiftUp_soundNumber (hsound : sound ≤ 601)
    (hsince : soundSince sound ≤ soundVersion changes) :
    (soundShift changes).shiftUp (soundNumber changes sound) =
      soundNumber (changes + 1) sound := by
  obtain ⟨hinsert, hend, hcount⟩ := soundShift_spec changes hchanges
  have htop := (undefinedSound_mem (changes + 1)).2
  unfold IdShift.shiftUp soundNumber
  rcases lt_undefinedSound_of_since hsound hsince with hknown | hundefined
  · rw [if_neg (by omega)]
    omega
  · rw [if_pos (by omega)]
    omega

theorem shiftDown_soundNumber : (soundShift changes).shiftDown (soundNumber (changes + 1) sound) =
    soundNumber changes sound := by
  obtain ⟨hinsert, hend, hcount⟩ := soundShift_spec changes hchanges
  unfold IdShift.shiftDown soundNumber
  split_ifs <;> omega

/-- The step from v924 to v898 caps the numbers instead. -/
theorem cap_soundNumber : (soundShift changes).cap (soundNumber (changes + 1) sound) =
    soundNumber changes sound := by
  obtain ⟨hinsert, hend, hcount⟩ := soundShift_spec changes hchanges
  unfold IdShift.cap soundNumber
  split_ifs <;> omega

end Shift

theorem soundNumber_of_le {sound : Int} (h : sound ≤ 601) : soundNumber 4 sound = sound :=
  min_eq_left h

theorem inUInt32_soundNumber (changes : ℕ) {sound : Int} (h : InUInt32 sound) :
    InUInt32 (soundNumber changes sound) :=
  ⟨le_min h.1 (undefinedSound_mem changes).1, (min_le_left ..).trans_lt h.2⟩

theorem inInt32_soundNumber (changes : ℕ) {sound : Int} (h : InInt32 sound) :
    InInt32 (soundNumber changes sound) := by
  have hundefined := (undefinedSound_mem changes).1
  exact ⟨le_min h.1 (by omega), (min_le_left ..).trans_lt h.2⟩

theorem inInt64_soundNumber (changes : ℕ) {sound : Int} (h : InInt64 sound) :
    InInt64 (soundNumber changes sound) := by
  have hundefined := (undefinedSound_mem changes).1
  exact ⟨le_min h.1 (by omega), (min_le_left ..).trans_lt h.2⟩

/-! ### LevelSoundEvent -/

namespace LevelSoundEventPacket

variable {p : LevelSoundEventPacket}

theorem Canonical.inUInt32 (h : p.Canonical) : InUInt32 p.eventId := by
  have hlt := h.eventId.2
  exact ⟨h.eventId.1, by omega⟩

/-- A step between two versions with numbers. -/
theorem numbered_delivers {s : SoundRewriter} {m n : ℕ} (h : p.Canonical)
    (hremap : s.soundRemap (soundNumber m p.eventId) = soundNumber n p.eventId) :
    Delivers s.rewriteLevelSoundEvent (p.numberedBytes m) (p.numberedBytes n) := by
  have hdelivers := rewriteLevelSoundEvent_delivers s (inUInt32_soundNumber m h.inUInt32)
    (hremap ▸ inUInt32_soundNumber n h.inUInt32) p.tailBytes
  rw [hremap] at hdelivers
  exact hdelivers

/-- The handler of v975 puts an absent position behind the packet. -/
theorem appended_delivers (h : p.Canonical)
    (hremap : Mappings.v944V975.sound.shiftUp (soundNumber 3 p.eventId) =
      soundNumber 4 p.eventId) :
    Delivers V944ToV975.rewriteLevelSoundEvent (p.numberedBytes 3)
      (p.numberedBytes 4 ++ bool.bytes false) := by
  have hdelivers := rewriteLevelSoundEvent_delivers_v975 h (inUInt32_soundNumber 3 h.inUInt32)
    (hremap ▸ inUInt32_soundNumber 4 h.inUInt32) []
  rw [hremap] at hdelivers
  simpa only [numberedBytes, List.append_nil, List.append_assoc] using hdelivers

/-- v1001 is told the name. -/
theorem named_delivers (h : p.Canonical) (hsound : p.eventId ≤ 601) (suf : List UInt8) :
    Delivers (V975ToV1001.rewriteLevelSoundEvent .clientbound) (p.numberedBytes 4 ++ suf)
      (string.bytes ((V975ToV1001.soundEventNames.get? p.eventId).getD "") ++
        (p.tailBytes ++ suf)) := by
  rw [numberedBytes, soundNumber_of_le hsound, List.append_assoc]
  exact Delivers.read (uvarInt_roundTrips h.inUInt32)
    (Delivers.write (string_roundTrips (V975ToV1001.soundName_fits p.eventId))
      (passthroughAll_delivers _))

theorem carried (uuid5 : String → BitVec 128) :
    ∀ p ∈ registeredProtocols uuid5, format.Carried p := by
  have hsince : ∀ {p : LevelSoundEventPacket × Option Vec3} {version : Int},
      format.since p ≤ version → soundSince p.1.eventId ≤ version ∧
        (version < 975 → p.2 = none) := by
    intro p version h
    have hmax := max_le_iff.mp h
    refine ⟨hmax.1, fun hlt => ?_⟩
    by_contra hsome
    rw [if_neg hsome] at hmax
    exact absurd hmax.2 (not_le_of_gt hlt)
  refine carried_registered [V860ToV898.registered, V898ToV860.createProtocol,
    V898ToV924.registered, V924ToV898.createProtocol, V924ToV944.registered,
    V944ToV924.registered, V944ToV975.registered uuid5, V975ToV1001.createProtocol] rfl rfl ?_
  simp only [List.forall_mem_cons]
  refine ⟨carried_up rfl rfl fun p hp h => ?_,
    carried_down rfl rfl fun p hp _ => ?_,
    carried_up rfl rfl fun p hp h => ?_,
    carried_down rfl rfl fun p hp _ => ?_,
    carried_up rfl rfl fun p hp h => ?_,
    carried_down rfl rfl fun p hp _ => ?_,
    carried_up rfl rfl fun p hp h => ?_,
    carried_up rfl rfl fun p hp _ => ?_, List.forall_mem_nil _⟩
  · exact numbered_delivers hp.1
      (shiftUp_soundNumber 0 (by decide) hp.2 (hsince h).1)
  · exact numbered_delivers hp.1 (shiftDown_soundNumber 0 (by decide))
  · exact numbered_delivers hp.1
      (shiftUp_soundNumber 1 (by decide) hp.2 (hsince h).1)
  · exact numbered_delivers hp.1 (cap_soundNumber 1 (by decide))
  · exact numbered_delivers hp.1
      (shiftUp_soundNumber 2 (by decide) hp.2 (hsince h).1)
  · exact numbered_delivers hp.1 (shiftDown_soundNumber 2 (by decide))
  · obtain ⟨p, position⟩ := p
    obtain rfl : position = none := (hsince h).2 (of_decide_eq_true rfl)
    exact appended_delivers hp.1 (shiftUp_soundNumber 3 (by decide) hp.2 (hsince h).1)
  · exact named_delivers hp.1 hp.2 _

end LevelSoundEventPacket

/-! ### Metadata -/

namespace ActorDataItem

variable {item : ActorDataItem} {f g : Int → Int}

theorem key_mapSound (f : Int → Int) (item : ActorDataItem) :
    (item.mapSound f).key = item.key := by
  unfold mapSound
  split_ifs
  · split <;> rfl
  · rfl

theorem mapSound_mapSound (f g : Int → Int) (item : ActorDataItem) :
    (item.mapSound f).mapSound g = item.mapSound (g ∘ f) := by
  by_cases hkey : item.key = heartbeatKey
  · obtain ⟨key, value⟩ := item
    cases value <;> simp_all [mapSound]
  · simp [mapSound, hkey]

/-- Only the sound of the entry matters. -/
theorem mapSound_congr (h : ∀ sound ∈ item.sound?, f sound = g sound) :
    item.mapSound f = item.mapSound g := by
  obtain ⟨key, value⟩ := item
  unfold mapSound
  split_ifs with hkey
  · rw [sound?, if_pos hkey] at h
    cases value with
    | int value => exact congrArg (fun v => (⟨key, .int v⟩ : ActorDataItem)) (h value rfl)
    | int64 value => exact congrArg (fun v => (⟨key, .int64 v⟩ : ActorDataItem)) (h value rfl)
    | _ => rfl
  · rfl

theorem Canonical.mapSound (h : item.Canonical)
    (hint : ∀ v, InInt32 v → InInt32 (f v)) (hint64 : ∀ v, InInt64 v → InInt64 (f v)) :
    (item.mapSound f).Canonical := by
  obtain ⟨key, value⟩ := item
  obtain ⟨hkey, hvalue⟩ := h
  unfold ActorDataItem.mapSound
  split_ifs
  · cases value with
    | int value => exact ⟨hkey, hint value hvalue⟩
    | int64 value => exact ⟨hkey, hint64 value hvalue⟩
    | _ => exact ⟨hkey, hvalue⟩
  · exact ⟨hkey, hvalue⟩

/-- What a rewriter for the heartbeat sound does to an entry. -/
theorem remapItem_eq {s : SoundRewriter} {remap : Int → Int}
    (hs : s.intRemappers = [(heartbeatKey, remap)]) : s.remapItem item = item.mapSound remap := by
  unfold SoundRewriter.remapItem ActorDataItem.mapSound
  rw [hs, OrderedDict.get?_cons]
  by_cases hkey : item.key = heartbeatKey
  · rw [if_pos hkey, if_pos hkey.symm]
    cases item.value <;> rfl
  · rw [if_neg hkey, if_neg (Ne.symm hkey)]
    rfl

/-- Entries of an older version are in all newer ones. -/
theorem known_of_since {n : ℕ} (h : item.since ≤ soundVersion n) : item.Known n := by
  unfold since at h
  unfold Known
  split_ifs at h with hkey
  · rcases n with _ | _ | n
    · exact absurd h (by decide)
    · exact absurd h (by decide)
    · exact Or.inl (Nat.le_add_left 2 n)
  · exact Or.inr hkey

theorem Known.succ {n : ℕ} (h : item.Known n) : item.Known (n + 1) :=
  h.imp_left Nat.le_succ_of_le

theorem soundSince_le {version sound : Int} (h : item.since ≤ version)
    (hsound : sound ∈ item.sound?) : soundSince sound ≤ version := by
  unfold since at h
  split_ifs at h with hkey
  · -- no key of aim assist is the one of the heartbeat sound
    have hnone : item.sound? = none := by
      have hne : item.key ≠ heartbeatKey := by
        rintro heq
        exact absurd (heq ▸ hkey) (by decide)
      rw [sound?, if_neg hne]
    rw [hnone] at hsound
    exact absurd hsound (Option.not_mem_none _)
  · rw [Option.mem_def.mp hsound] at h
    exact h

end ActorDataItem

namespace SoundRewriter

variable {s : SoundRewriter} {metadata : List ActorDataItem}

/-- The remap functions stay in range where what is written is canonical. -/
theorem InRange.of_canonical
    (h : ∀ item ∈ (s.kept metadata).map s.remapItem, item.Canonical) : s.InRange metadata where
  int key value remap hitem hget := by
    have hcanonical := (h _ (List.mem_map_of_mem hitem)).value
    simp only [remapItem, hget] at hcanonical
    exact hcanonical
  int64 key value remap hitem hget := by
    have hcanonical := (h _ (List.mem_map_of_mem hitem)).value
    simp only [remapItem, hget] at hcanonical
    exact hcanonical

/-- The metadata of one version, kept and remapped, are those of another version. -/
theorem kept_remapItem_metadataIn {remap : Int → Int} {m n : ℕ}
    (hs : s.intRemappers = [(heartbeatKey, remap)])
    (hknown : ∀ item ∈ metadata,
      (item.Known n ↔ item.Known m ∧ item.key ∉ s.droppedKeys))
    (hremap : ∀ item ∈ metadata, ∀ sound ∈ item.sound?,
      remap (soundNumber m sound) = soundNumber n sound) :
    (s.kept (metadataIn m metadata)).map s.remapItem = metadataIn n metadata := by
  have hitem : ∀ item ∈ metadata, s.remapItem (item.mapSound (soundNumber m)) =
      item.mapSound (soundNumber n) := by
    intro item hmem
    rw [ActorDataItem.remapItem_eq hs, ActorDataItem.mapSound_mapSound]
    exact ActorDataItem.mapSound_congr (hremap item hmem)
  unfold kept metadataIn
  rw [List.filter_map, List.map_map, List.filter_filter]
  have hfilter : (metadata.filter fun item =>
      ((fun item => decide (item.key ∉ s.droppedKeys)) ∘
        ActorDataItem.mapSound (soundNumber m)) item && decide (item.Known m)) =
      metadata.filter fun item => item.Known n := by
    refine List.filter_congr fun item hmem => ?_
    simp only [Function.comp_apply, ActorDataItem.key_mapSound, hknown item hmem,
      Bool.decide_and, Bool.and_comm]
  rw [hfilter]
  exact List.map_congr_left fun item hmem => hitem item (List.mem_of_mem_filter hmem)

end SoundRewriter

theorem metadataIn_canonical (n : ℕ) {metadata : List ActorDataItem}
    (h : ∀ item ∈ metadata, item.Canonical) : ∀ item ∈ metadataIn n metadata, item.Canonical := by
  intro item hitem
  obtain ⟨item, hmem, rfl⟩ := List.mem_map.mp hitem
  refine (h item (List.mem_of_mem_filter hmem)).mapSound (fun v hv => ?_) fun v hv => ?_
  · exact inInt32_soundNumber n hv
  · exact inInt64_soundNumber n hv

namespace ActorPacketKind

variable {k : ActorPacketKind}

/-- A sound rewriter between two versions that agree on what it does to the metadata. -/
theorem handler_delivers_metadataIn {s : SoundRewriter} {remap : Int → Int} {m n : ℕ}
    {p : ActorPacket k} (h : p.Canonical) (hs : s.intRemappers = [(heartbeatKey, remap)])
    (hknown : ∀ item ∈ p.metadata,
      (item.Known n ↔ item.Known m ∧ item.key ∉ s.droppedKeys))
    (hremap : ∀ item ∈ p.metadata, ∀ sound ∈ item.sound?,
      remap (soundNumber m sound) = soundNumber n sound) :
    Delivers (k.handler s) (ActorPacket.bytes { p with metadata := metadataIn m p.metadata })
      (ActorPacket.bytes { p with metadata := metadataIn n p.metadata }) := by
  have hwritten := SoundRewriter.kept_remapItem_metadataIn hs hknown hremap
  have hcanonical : ActorPacket.Canonical { p with metadata := metadataIn m p.metadata } :=
    { fields := h.fields
      length := by
        rw [metadataIn, List.length_map]
        exact (List.length_filter_le _ _).trans_lt h.length
      metadata := metadataIn_canonical m h.metadata }
  have hdelivers := SoundRewriter.handler_delivers (s := s) hcanonical
    (.of_canonical (hwritten ▸ metadataIn_canonical n h.metadata))
  rw [hwritten] at hdelivers
  exact hdelivers

theorem since_le {p : ActorPacket k} {version : Int} (h : (format k).since p ≤ version) :
    ∀ item ∈ p.metadata, item.since ≤ version := by
  have hall : ∀ (versions : List Int), versions.foldr max 859 ≤ version →
      ∀ v ∈ versions, v ≤ version := by
    intro versions hversions
    induction versions with
    | nil => exact List.forall_mem_nil _
    | cons v versions ih =>
      have hmax := max_le_iff.mp hversions
      exact List.forall_mem_cons.mpr ⟨hmax.1, ih hmax.2⟩
  exact fun item hitem => hall _ h _ (List.mem_map_of_mem hitem)

section Steps

variable (changes : ℕ) (hchanges : changes < 4) {s : SoundRewriter} {p : ActorPacket k}
  (h : (format k).Canonical p)

include hchanges h

/-- A step up, from a version that knows all of the metadata. -/
theorem up_delivers (hs : s.intRemappers = [(heartbeatKey, (soundShift changes).shiftUp)])
    (hdropped : s.droppedKeys = []) (hsince : (format k).since p ≤ soundVersion changes) :
    Delivers (k.handler s)
      (ActorPacket.bytes { p with metadata := metadataIn changes p.metadata })
      (ActorPacket.bytes { p with metadata := metadataIn (changes + 1) p.metadata }) := by
  refine handler_delivers_metadataIn h.1 hs (fun item hitem => ?_) fun item hitem sound hsound => ?_
  · have hknown := ActorDataItem.known_of_since (since_le hsince item hitem)
    simp [hdropped, hknown, hknown.succ]
  · exact shiftUp_soundNumber changes hchanges (h.2 item hitem sound hsound)
      (ActorDataItem.soundSince_le (since_le hsince item hitem) hsound)

/-- A step down, which drops what the older version does not have. -/
theorem down_delivers {remap : Int → Int} (hs : s.intRemappers = [(heartbeatKey, remap)])
    (hremap : remap = (soundShift changes).shiftDown ∨ remap = (soundShift changes).cap)
    (hdropped : s.droppedKeys = if changes = 1 then aimAssistKeys else []) :
    Delivers (k.handler s)
      (ActorPacket.bytes { p with metadata := metadataIn (changes + 1) p.metadata })
      (ActorPacket.bytes { p with metadata := metadataIn changes p.metadata }) := by
  refine handler_delivers_metadataIn h.1 hs (fun item _ => ?_) fun item _ sound _ => ?_
  · rw [hdropped]
    unfold ActorDataItem.Known
    split_ifs with hone
    · simp [hone]
    · have hiff : 2 ≤ changes ↔ 2 ≤ changes + 1 := by omega
      simp [hiff]
  · rcases hremap with rfl | rfl
    · exact shiftDown_soundNumber changes hchanges
    · exact cap_soundNumber changes hchanges

end Steps

theorem carried (uuid5 : String → BitVec 128) (k : ActorPacketKind) :
    ∀ p ∈ registeredProtocols uuid5, (format k).Carried p := by
  refine carried_registered [V860ToV898.registered, V898ToV860.createProtocol,
    V898ToV924.registered, V924ToV898.createProtocol, V924ToV944.registered,
    V944ToV924.registered, V944ToV975.registered uuid5] (by cases k <;> rfl)
    (by cases k <;> rfl) ?_
  simp only [List.forall_mem_cons]
  refine ⟨?_, ?_, ?_, ?_, ?_, ?_, ?_, List.forall_mem_nil _⟩
  · exact @carried_up _ _ (k.handler (.upgrade Mappings.v860V898)) (by cases k <;> rfl)
      (by cases k <;> rfl) fun p hp h => up_delivers 0 (by decide) hp rfl rfl h
  · exact @carried_down _ _ (k.handler (.downgrade Mappings.v860V898)) (by cases k <;> rfl)
      (by cases k <;> rfl) fun p hp _ => down_delivers 0 (by decide) hp rfl (.inl rfl) rfl
  · exact @carried_up _ _ (k.handler (.upgrade Mappings.v898V924)) (by cases k <;> rfl)
      (by cases k <;> rfl) fun p hp h => up_delivers 1 (by decide) hp rfl rfl h
  · exact @carried_down _ _ (k.handler V924ToV898.sound) (by cases k <;> rfl)
      (by cases k <;> rfl) fun p hp _ => down_delivers 1 (by decide) hp rfl (.inr rfl) rfl
  · exact @carried_up _ _ (k.handler (.upgrade Mappings.v924V944)) (by cases k <;> rfl)
      (by cases k <;> rfl) fun p hp h => up_delivers 2 (by decide) hp rfl rfl h
  · exact @carried_down _ _ (k.handler (.downgrade Mappings.v924V944)) (by cases k <;> rfl)
      (by cases k <;> rfl) fun p hp _ => down_delivers 2 (by decide) hp rfl (.inl rfl) rfl
  · exact @carried_up _ _ (k.handler (.upgrade Mappings.v944V975)) (by cases k <;> rfl)
      (by cases k <;> rfl) fun p hp h => up_delivers 3 (by decide) hp rfl rfl h

end ActorPacketKind

/-- An actor with a new sound, which is a target of aim assist. -/
def sampleHeart : ActorPacket .setActorData where
  fields := (1 : Int)
  metadata := [⟨136, .byte 1⟩, ⟨heartbeatKey, .int 590⟩, ⟨0, .int64 8⟩]
  trailing := [0, 0, 0]

theorem sampleHeart_canonical :
    (ActorPacketKind.format .setActorData).Canonical sampleHeart := by
  refine ⟨⟨(by decide : InUInt64 1), by decide, ?_⟩, by decide⟩
  simp only [sampleHeart, List.forall_mem_cons]
  exact ⟨⟨by decide, (by decide : InByte 1)⟩, ⟨by decide, (by decide : InInt32 590)⟩,
    ⟨by decide, (by decide : InInt64 8)⟩, List.forall_mem_nil _⟩

end Endweave
