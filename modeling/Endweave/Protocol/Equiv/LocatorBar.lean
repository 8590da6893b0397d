import Endweave.Protocol.Equiv.AttributeLayerSync
import Endweave.Protocol.Handlers.LocatorBar
import Endweave.Protocol.Packets.LocatorBar

/-!
# Correctness of the `LocatorBar` handler

`layersAndWaypoints_survive`: the v975 grammars read the whole outputs of this handler and of the
one for attribute layers, as the packets without what v975 cannot hold.
-/

namespace Endweave

open Wire PacketWriter PacketWrapper V944ToV975

/-! ### Icons -/

theorem waypointIcon_roundTrips : waypointIcon.RoundTrips {} :=
  Codes.bind (optionalString_roundTrips (v := none) (by simp)) <|
    Codes.last (optionalVec2_roundTrips none) rfl

/-- Two absent fields. -/
theorem writeNoIcon_rewrites :
    Rewrites (write bool false >>= fun _ => write bool false) []
      (bool.bytes false ++ bool.bytes false) () :=
  Rewrites.write (bool_roundTrips false) (write_rewrites (bool_roundTrips false).writes)

theorem noIcon_writes : Writes (waypointIcon.write {}) (bool.bytes false ++ bool.bytes false) :=
  (bool_roundTrips false).writes.bind (bool_roundTrips false).writes

/-- A texture id, present or not, gives way to an icon with nothing in it. -/
theorem dropTextureId_converts {icon : Option Int} (h : FitsOption InUInt32 icon) :
    Converts dropTextureId (textureId.write icon) (waypointIcon.write {}) () := by
  have hid : ∀ id, icon = some id → uintLE.RoundTrips id :=
    fun id hid => uintLE_roundTrips (h id hid)
  refine ⟨_, _, optionalType_writes hid, noIcon_writes, ?_⟩
  unfold dropTextureId
  apply Rewrites.read (bool_roundTrips icon.isSome)
  cases icon with
  | none => exact writeNoIcon_rewrites
  | some id =>
    have hread := (read_rewrites (hid id rfl).reads).discard
    rw [Option.toList_some, List.flatMap_singleton, ← List.append_nil (uintLE.bytes id)]
    exact hread.readThen (k := fun _ => write bool false >>= fun _ => write bool false)
      writeNoIcon_rewrites

/-! ### Waypoints -/

/-- An optional field whose flag is looked at. -/
theorem passthroughFlag_converts {α : Type} {T : FieldType α} {x : Option α}
    (hT : ∀ a, x = some a → T.RoundTrips a) :
    Converts
      (passthroughOptional do
        let _ ← passthrough T)
      ((optionalType T).write x) ((optionalType T).write x) () := by
  apply passthroughOptional_converts
  intro a ha
  exact (converts_passthrough (hT a ha)).last rfl

namespace Waypoint

variable {p : Waypoint (Option Int)} (h : p.Canonical)

include h

theorem Canonical.roundTrips : (waypoint waypointIcon).RoundTrips p.toV975 := by
  have hposition : (optionalType (pairType vec3 varInt)).RoundTrips p.worldPosition :=
    fitsOption_roundTrips h.worldPosition fun v hv =>
      pairType_roundTrips (vec3_roundTrips v.1) (varInt_roundTrips hv)
  apply Codes.bind (uuid_roundTrips h.groupHandle.1 h.groupHandle.2)
  apply Codes.bind (uintLE_roundTrips h.updateFlag)
  apply Codes.bind (optionalBool_roundTrips p.isVisible)
  apply Codes.bind hposition
  apply Codes.bind waypointIcon_roundTrips
  apply Codes.bind (fitsOption_roundTrips h.color fun _ => intLE_roundTrips)
  apply Codes.bind (optionalBool_roundTrips p.clientPositionAuthority)
  apply Codes.bind (fitsOption_roundTrips h.actorUniqueId fun _ => varInt64_roundTrips)
  exact Codes.last (uvarInt_roundTrips h.actionFlag) rfl

theorem Canonical.converts :
    Converts rewriteWaypoint ((waypoint textureId).write p)
      ((waypoint waypointIcon).write p.toV975) () := by
  apply Converts.passthrough (uuid_roundTrips h.groupHandle.1 h.groupHandle.2)
  apply Converts.passthrough (uintLE_roundTrips h.updateFlag)
  apply (passthroughFlag_converts fun v _ => bool_roundTrips v).bind
  apply Converts.bind
  · apply passthroughOptional_converts
    intro v hv
    apply Converts.passthrough (vec3_roundTrips v.1)
    exact (converts_passthrough (varInt_roundTrips (h.worldPosition v hv))).last rfl
  apply (dropTextureId_converts h.icon).bind
  apply (passthroughFlag_converts fun v hv => intLE_roundTrips (h.color v hv)).bind
  apply (passthroughFlag_converts fun v _ => bool_roundTrips v).bind
  apply (passthroughFlag_converts fun v hv => varInt64_roundTrips (h.actorUniqueId v hv)).bind
  exact (converts_passthrough (uvarInt_roundTrips h.actionFlag)).last rfl

omit h

/-- The output is the packet with nothing in its icons. -/
theorem upgrades {ps : List (Waypoint (Option Int))} (h : FitsList Canonical ps)
    (user : UserConnection) :
    ∃ out, rewriteLocatorBar.apply (locatorBarV944.bytes ps) user = .ok out ∧
      locatorBarV975.Parses out (ps.map toV975) := by
  have hconverts : Converts rewriteLocatorBar (locatorBarV944.write ps)
      (locatorBarV975.write (ps.map toV975)) () :=
    converts_passthroughLoop h.1 fun p hp => (h.2 p hp).converts
  apply hconverts.parses _ user
  apply arrayType_roundTrips
  · rw [List.length_map]
    exact h.1
  · rw [List.forall_mem_map]
    exact fun p hp => (h.2 p hp).roundTrips

end Waypoint

/-! ### The handlers -/

/-- **Attribute layers and waypoints reach v975**: a canonical packet of each kind, whatever the two
versions share for the payloads without settings, is read by the v975 grammar to its end, with the
weights as floats and without icons, and as it was otherwise. -/
theorem layersAndWaypoints_survive {ε ρ : Type} (environment : FieldType ε) (removal : FieldType ρ)
    (user : UserConnection) :
    (∀ p : AttributeLayerSync SwitchedSettings ε ρ, p.Canonical environment removal →
      ∃ out, rewriteClientboundAttributeLayerSync.apply
          ((attributeLayerSync switchedSettings environment removal).bytes p) user = .ok out ∧
        (attributeLayerSync attributeLayerSettingsV975 environment removal).Parses out p.toV975) ∧
    ∀ ps : List (Waypoint (Option Int)), FitsList Waypoint.Canonical ps →
      ∃ out, rewriteLocatorBar.apply (locatorBarV944.bytes ps) user = .ok out ∧
        locatorBarV975.Parses out (ps.map Waypoint.toV975) :=
  ⟨fun _ h => h.upgrades user, fun _ h => Waypoint.upgrades h user⟩

/-- A layer with a string for its weight and one attribute that is on its way. -/
def sampleLayer : AttributeLayer SwitchedSettings where
  name := "fog"
  dimension := -1
  settings := ⟨3, .string "weight", true, false⟩
  attributes :=
    [{ name := "minecraft:fog"
       fromAttribute := some (.float ⟨0, none, some 1, none⟩)
       attr := .color ⟨"#aabbccdd", some "add"⟩
       toAttribute := none
       currentTransitionTicks := 0
       totalTransitionTicks := 4294967295
       easing := "linear" }]

theorem sampleLayer_canonical : sampleLayer.Canonical where
  name := by decide
  dimension := by decide
  priority := by decide
  weight := (by decide : FitsString "weight")
  attributes := by
    have hcolor : FitsString "#aabbccdd" ∧ FitsOption FitsString (some "add") :=
      ⟨by decide, fitsOption_some (by decide)⟩
    exact fitsList_singleton ⟨by decide, fitsOption_some (fitsOption_none _), hcolor,
      fitsOption_none _, by decide, by decide, by decide⟩

/-- A waypoint with a texture id. -/
def sampleWaypoint : Waypoint (Option Int) where
  groupHandle := ⟨1, 2 ^ 64 - 1⟩
  updateFlag := 7
  isVisible := some true
  worldPosition := some ((1, 2, 3), -1)
  icon := some 9
  color := none
  clientPositionAuthority := none
  actorUniqueId := some (-4294967295)
  actionFlag := 1

theorem sampleWaypoint_canonical : sampleWaypoint.Canonical where
  groupHandle := by decide
  updateFlag := by decide
  worldPosition := fitsOption_some (by decide)
  icon := fitsOption_some (by decide)
  color := fitsOption_none _
  actorUniqueId := fitsOption_some (by decide)
  actionFlag := by decide

/-- The layer and the waypoint, with names for the payloads without settings. -/
theorem layersAndWaypoints_survive_sample :
    (∃ out, rewriteClientboundAttributeLayerSync.apply
        ((attributeLayerSync switchedSettings string string).bytes (.updateLayers [sampleLayer]))
        { address := "a" } = .ok out ∧
      (attributeLayerSync attributeLayerSettingsV975 string string).Parses out
        (.updateLayers [sampleLayer.toV975])) ∧
    (∃ out, rewriteClientboundAttributeLayerSync.apply
        ((attributeLayerSync switchedSettings string string).bytes (.removeEnvironment "fog"))
        { address := "a" } = .ok out ∧
      (attributeLayerSync attributeLayerSettingsV975 string string).Parses out
        (.removeEnvironment "fog")) ∧
    ∃ out, rewriteLocatorBar.apply (locatorBarV944.bytes [sampleWaypoint]) { address := "a" } =
        .ok out ∧
      locatorBarV975.Parses out [sampleWaypoint.toV975] := by
  have h := layersAndWaypoints_survive string string { address := "a" }
  exact ⟨h.1 (.updateLayers [sampleLayer]) (fitsList_singleton sampleLayer_canonical),
    h.1 (.removeEnvironment "fog") (string_roundTrips (by decide)),
    h.2 [sampleWaypoint] (fitsList_singleton sampleWaypoint_canonical)⟩

end Endweave
