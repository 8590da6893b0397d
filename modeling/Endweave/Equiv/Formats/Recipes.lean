import Endweave.Equiv.Formats
import Endweave.Protocol.Equiv.CraftingData
import Endweave.Protocol.Packets.Formats

/-!
# What arrives of the recipes

`recipes_after`: a client of v975 or later is told the recipes of an older server without furnaces,
and an older client is told them as they are.
-/

namespace Endweave

open PacketFormat PacketWrapper Wire

namespace CraftingData

variable (uuid5 : String → BitVec 128)

theorem convertEntries_converted (entries : List CraftingDataEntry) :
    Converted entries (V944ToV975.convertEntries uuid5 entries) := by
  rw [convertEntries_eq]
  obtain ⟨hnodup, hle⟩ := newNetIds_convertFrom uuid5 (V944ToV975.existingMax entries + 1) entries
  exact
    { replaces := replaces_convertFrom uuid5 _ entries
      noFurnaces := furnaceKey_of_mem_convertFrom uuid5 _ entries
      nodup := hnodup
      above := fun n hn e he r hr => by
        have hmax := le_existingMax he hr
        have hn := hle n hn
        omega }

/-- The form of v975 depends on the UUIDs, so that the checks are evaluated without it. -/
theorem carried : ∀ p ∈ registeredProtocols uuid5, (format uuid5).Carried p := by
  refine carried_registered [V944ToV975.registered uuid5] (by simp only [format]; rfl)
    (by simp only [format, agree, formOf, Reaches, source, target]; rfl) ?_
  rw [List.forall_mem_singleton]
  refine carried_up (by simp only [format]; rfl)
    (by simp only [format, passes, Reaches, source, target]; rfl) fun p hp _ => ?_
  exact Canonical.delivers hp uuid5 p.2

/-- The recipes in a version. -/
theorem encode_eq {version : Int} {entries : List CraftingDataEntry} (h : Canonical entries)
    (hhas : (format uuid5).Reaches version) (suf : List UInt8) :
    ∃ converted, (format uuid5).encode version (entries, suf) =
        some ((arrayType craftingDataEntry).bytes converted ++ suf) ∧
      (arrayType craftingDataEntry).RoundTrips converted ∧
      (version < 975 → converted = entries) ∧ (975 ≤ version → Converted entries converted) := by
  have hchanges : (format uuid5).changes = [975] := rfl
  have hencode : (format uuid5).encode version (entries, suf) =
      some ((format uuid5).form ((format uuid5).formOf version) (entries, suf)) := if_pos hhas
  by_cases hversion : 975 ≤ version
  · have hform : (format uuid5).formOf version = 1 := by simp [formOf, hchanges, hversion]
    refine ⟨V944ToV975.convertEntries uuid5 entries, ?_, h.converted_roundTrips uuid5,
      fun hlt => absurd hversion (not_le_of_gt hlt),
      fun _ => convertEntries_converted uuid5 entries⟩
    rw [hencode, hform]
    rfl
  · have hform : (format uuid5).formOf version = 0 := by simp [formOf, hchanges, hversion]
    refine ⟨entries, ?_, h.roundTrips, fun _ => rfl, fun hle => absurd hle hversion⟩
    rw [hencode, hform]
    rfl

end CraftingData

namespace EndweavePlugin

variable (uuid5 : String → BitVec 128) (serverProtocol : Int) (gate : GateConfig) {client : Int}
  {entries : List CraftingDataEntry} {suf : List UInt8} {events : List PluginEvent}
  {event : PacketEvent}

theorem has_of_sent
    (h : (CraftingData.format uuid5).Sent serverProtocol client (entries, suf) events event) :
    (CraftingData.format uuid5).Reaches client := by
  have hknown : ∀ v ∈ knownVersions, 859 ≤ v ∧ v ≤ 1001 := by decide
  rcases h.supported with rfl | ⟨_, hclient, _⟩
  · -- a client of the same version, known or not
    exact (encode_isSome _).mp (Option.isSome_of_eq_some h.payload)
  · exact hknown client hclient

/-- **What arrives of the recipes**: from v975 on, the client is told them without furnaces, each
replaced by a shapeless recipe that smelts the same and has a number of its own, and an older client
is told them as they are.  What follows them is kept. -/
theorem recipes_after
    (h : (CraftingData.format uuid5).Sent serverProtocol client (entries, suf) events event) :
    ∃ converted,
      (handleEvent (after uuid5 serverProtocol gate events) (.packet .clientbound event)).2 =
        .proxy (.packet
          (event.deliver (some ((arrayType craftingDataEntry).bytes converted ++ suf)))) ∧
      (arrayType craftingDataEntry).RoundTrips converted ∧
      (client < 975 → converted = entries) ∧
      (975 ≤ client → CraftingData.Converted entries converted) := by
  have hbase : PacketId.craftingData ∉ basePackets .clientbound := by decide
  have hafter := carried_after uuid5 serverProtocol gate (CraftingData.carried uuid5) hbase h
  obtain ⟨converted, hencode, hconverted⟩ :=
    CraftingData.encode_eq uuid5 h.canonical (has_of_sent uuid5 serverProtocol h) suf
  have hclient : (CraftingData.format uuid5).target serverProtocol client = client := rfl
  rw [hclient, hencode] at hafter
  exact ⟨converted, hafter, hconverted⟩

/-- A furnace and a shaped recipe, from a server of version 860 to a client of version 1001. -/
theorem recipes_after_sample :
    ∃ converted,
      (handleEvent (after (fun _ => 0) 860 {} (joins [0, 0, 3, 233])) (.packet .clientbound
        (packetAt PacketId.craftingData
          ((arrayType craftingDataEntry).bytes sampleCraftingData ++ [7])))).2 =
        .proxy (.packet ((packetAt PacketId.craftingData
          ((arrayType craftingDataEntry).bytes sampleCraftingData ++ [7])).deliver
            (some ((arrayType craftingDataEntry).bytes converted ++ [7])))) ∧
      (arrayType craftingDataEntry).RoundTrips converted ∧
      ((1001 : Int) < 975 → converted = sampleCraftingData) ∧
      ((975 : Int) ≤ 1001 → CraftingData.Converted sampleCraftingData converted) :=
  recipes_after _ 860 _
    { supported := by decide
      covers := by decide
      canonical := sampleCraftingData_canonical
      expresses := ⟨by decide, by decide⟩
      packetId := rfl
      detected := by decide
      payload := rfl }

end EndweavePlugin

end Endweave
