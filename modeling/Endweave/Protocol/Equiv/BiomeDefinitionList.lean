import Endweave.Codec.Equiv.Converts
import Endweave.Protocol.Handlers.BiomeDefinitionList
import Endweave.Protocol.Packets.BiomeDefinitionList

/-!
# Correctness of the `BiomeDefinitionList` handlers

`biomeDefinitionList_survives`: a canonical v898 packet goes to v924 and comes back as it was; a
canonical v924 packet loses its village types on the way to v898 and back, and nothing else.

Both directions are one walk (`mapBiomeDefinitionList_rewrites`) for what the codec of the old
version reads a biome back as.
-/

namespace Endweave

open Wire PacketWrapper

section Walk

variable {old new : FieldType BiomeDefinitionData} {f g : BiomeDefinitionData → BiomeDefinitionData}

theorem mapBiome_converts {biome : Int × BiomeDefinitionData} (hindex : InUInt16 biome.1)
    (hold : Codes (old.write biome.2) old.read (f biome.2))
    (hnew : Codes (new.write (f biome.2)) new.read (g biome.2)) :
    Converts
      (do
        let _ ← passthrough ushortLE
        let _ ← PacketWrapper.map old new)
      ((pairType ushortLE old).write biome) ((pairType ushortLE new).write (biome.1, f biome.2))
      () := by
  apply Converts.passthrough (ushortLE_roundTrips hindex)
  exact (converts_map hold hnew).last rfl

/-- The handler writes of each biome what it has read of it. -/
theorem mapBiomeDefinitionList_rewrites {p : BiomeDefinitionList} (h : p.CanonicalV924)
    (hold : ∀ b, b.Canonical → Codes (old.write b) old.read (f b))
    (hnew : ∀ b, b.Canonical → Codes (new.write (f b)) new.read (g b)) :
    Rewrites (mapBiomeDefinitionList old new) ((biomeDefinitionListType old).bytes p)
      ((biomeDefinitionListType new).bytes (p.map fun biome => (biome.1, f biome.2))) () := by
  have hloop := converts_passthroughLoop (f := fun biome => (biome.1, f biome.2)) h.1
    fun biome hbiome =>
      have hcan := h.2 biome hbiome
      mapBiome_converts hcan.1 (hold _ hcan.2) (hnew _ hcan.2)
  exact hloop.rewrites

end Walk

/-! ### Village types -/

theorem BiomeDefinitionChunkGenData.Canonical.withoutVillage {v : BiomeDefinitionChunkGenData}
    (h : v.Canonical) : v.withoutVillage.Canonical :=
  { h with villageType := fitsOption_none _ }

theorem BiomeDefinitionData.Canonical.withoutVillage {b : BiomeDefinitionData} (h : b.Canonical) :
    b.withoutVillage.Canonical := by
  refine { h with chunkGenData := fun v hv => ?_ }
  obtain ⟨a, ha, rfl⟩ := Option.map_eq_some_iff.mp hv
  exact (h.chunkGenData a ha).withoutVillage

namespace BiomeDefinitionList

variable {p : BiomeDefinitionList}

theorem CanonicalV924.withoutVillages (h : p.CanonicalV924) :
    (BiomeDefinitionList.withoutVillages p).CanonicalV924 := by
  refine ⟨by rw [BiomeDefinitionList.withoutVillages, List.length_map]; exact h.1, ?_⟩
  intro biome hbiome
  obtain ⟨biome', hmem, rfl⟩ := List.mem_map.mp hbiome
  have hcan := h.2 biome' hmem
  exact ⟨hcan.1, hcan.2.withoutVillage⟩

/-- The upgrade writes an absent village type. -/
theorem CanonicalV924.upgrade (h : p.CanonicalV924) :
    Rewrites V898ToV924.rewriteBiomeDefinitionList (biomeDefinitionListV898.bytes p)
      (biomeDefinitionListV924.bytes (BiomeDefinitionList.withoutVillages p)) () :=
  mapBiomeDefinitionList_rewrites h (fun _ => biomeDefinitionV898_codes)
    fun _ hb => biomeDefinitionV924_roundTrips hb.withoutVillage

/-- The downgrade leaves the village types out. -/
theorem CanonicalV924.downgrade (h : p.CanonicalV924) :
    Rewrites V924ToV898.rewriteBiomeDefinitionList (biomeDefinitionListV924.bytes p)
      (biomeDefinitionListV898.bytes p) () := by
  have hwalk := mapBiomeDefinitionList_rewrites (f := id) h
    (fun _ => biomeDefinitionV924_roundTrips) fun _ => biomeDefinitionV898_codes
  have hid : p.map (fun biome => (biome.1, id biome.2)) = p := List.map_id _
  rwa [hid] at hwalk

/-- **Biome definitions survive v924**: a canonical v898 packet, whatever follows its biomes, goes
to v924 and comes back as it was; a canonical v924 packet goes to v898 and comes back without its
village types and with everything else. -/
theorem biomeDefinitionList_survives :
    (∀ p : BiomeDefinitionList, p.CanonicalV898 → ∀ suf user user', ∃ q,
      V898ToV924.rewriteBiomeDefinitionList.apply (biomeDefinitionListV898.bytes p ++ suf) user =
        .ok q ∧
      V924ToV898.rewriteBiomeDefinitionList.apply q user' =
        .ok (biomeDefinitionListV898.bytes p ++ suf)) ∧
    ∀ p : BiomeDefinitionList, p.CanonicalV924 → ∀ suf user user', ∃ q,
      V924ToV898.rewriteBiomeDefinitionList.apply (biomeDefinitionListV924.bytes p ++ suf) user =
        .ok q ∧
      V898ToV924.rewriteBiomeDefinitionList.apply q user' =
        .ok (biomeDefinitionListV924.bytes p.withoutVillages ++ suf) := by
  constructor
  · intro p h suf user user'
    have hupgrade := h.canonicalV924.upgrade
    rw [h.villages] at hupgrade
    exact ⟨_, apply_of_rewrites hupgrade suf user,
      apply_of_rewrites h.canonicalV924.downgrade suf user'⟩
  · intro p h suf user user'
    exact ⟨_, apply_of_rewrites h.downgrade suf user, apply_of_rewrites h.upgrade suf user'⟩

/-- A desert with a village, a feature of one coordinate and a capped surface. -/
def sampleBiome : BiomeDefinitionData where
  short1 := -1
  tags := some [65535, 0]
  chunkGenData := some
    { consolidatedFeatures := some [
        { scatterParam := { coordinates := [⟨-1, 2, 3, -4, 5, 6, 7⟩] }
          short1 := 1
          short2 := 2
          short3 := 3
          flag := true }]
      flag2 := true
      cappedSurface := some { blocks1 := [7], optionalBlock2 := some (-2 ^ 31) }
      villageType := some 255 }

theorem sampleBiome_canonical : sampleBiome.Canonical where
  short1 := by decide
  int1 := by decide
  tags := fitsOption_some ⟨by decide, by decide⟩
  chunkGenData := by
    apply fitsOption_some
    constructor
    case consolidatedFeatures =>
      apply fitsOption_some
      apply fitsList_singleton
      refine ⟨⟨fitsList_singleton ?_, ?_, ?_, ?_, ?_, ?_, ?_, ?_⟩, ?_, ?_, ?_⟩
      · constructor <;> decide
      all_goals decide
    case cappedSurface =>
      apply fitsOption_some
      exact ⟨fitsList_singleton (by decide), fitsList_nil _, fitsOption_none _,
        fitsOption_some (by decide), fitsOption_none _⟩
    case villageType => exact fitsOption_some (by decide)
    all_goals exact fitsOption_none _

theorem sampleBiomes_canonical : CanonicalV924 [(7, sampleBiome)] :=
  fitsList_singleton ⟨by decide, sampleBiome_canonical⟩

/-- The desert without its village goes to v924 and back, with it to v898 and back. -/
theorem biomeDefinitionList_survives_sample :
    (∃ q, V898ToV924.rewriteBiomeDefinitionList.apply
        (biomeDefinitionListV898.bytes [(7, sampleBiome.withoutVillage)] ++ [0])
        { address := "a" } = .ok q ∧
      V924ToV898.rewriteBiomeDefinitionList.apply q { address := "a" } =
        .ok (biomeDefinitionListV898.bytes [(7, sampleBiome.withoutVillage)] ++ [0])) ∧
    ∃ q, V924ToV898.rewriteBiomeDefinitionList.apply
        (biomeDefinitionListV924.bytes [(7, sampleBiome)] ++ [0]) { address := "a" } = .ok q ∧
      V898ToV924.rewriteBiomeDefinitionList.apply q { address := "a" } =
        .ok (biomeDefinitionListV924.bytes [(7, sampleBiome.withoutVillage)] ++ [0]) :=
  ⟨biomeDefinitionList_survives.1 [(7, sampleBiome.withoutVillage)]
      ⟨sampleBiomes_canonical.withoutVillages, rfl⟩ [0] { address := "a" } { address := "a" },
    biomeDefinitionList_survives.2 [(7, sampleBiome)] sampleBiomes_canonical [0]
      { address := "a" } { address := "a" }⟩

end BiomeDefinitionList

end Endweave
