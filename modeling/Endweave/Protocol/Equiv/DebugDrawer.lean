import Endweave.Codec.Equiv.Wrapper
import Endweave.Protocol.Handlers.DebugDrawer
import Endweave.Protocol.Packets.DebugDrawer

/-!
# Correctness of the `DebugDrawer` handlers

`debugDrawer_survives`: a canonical v898 packet goes to v924 and comes back as it was; a canonical
v924 packet loses its entity ids on the way to v898 and back, and nothing else.
-/

namespace Endweave

open Wire PacketWrapper V924ToV898

/-! ### Shapes -/

/-- The variant is parsed to its end, whichever of the six it is. -/
theorem passthroughExtraShapeData_rewrites {extra : ExtraShapeData} (h : extra.Canonical) :
    Rewrites passthroughExtraShapeData (byte.bytes extra.typeIndex ++ extra.bytes)
      (byte.bytes extra.typeIndex ++ extra.bytes) () := by
  unfold passthroughExtraShapeData
  cases extra with
  | null =>
    apply Rewrites.passthrough (byte_roundTrips (v := 0) (by decide))
    rw [if_neg (by decide), if_neg (by decide), if_neg (by decide), if_neg (by decide),
      if_neg (by decide)]
    exact Rewrites.pure ()
  | arrow endLocation headLength headRadius numSegments =>
    apply Rewrites.passthrough (byte_roundTrips (v := 1) (by decide))
    rw [if_pos rfl]
    apply Rewrites.passthrough (optionalVec3_roundTrips endLocation)
    apply Rewrites.passthrough (optionalFloat_roundTrips headLength)
    apply Rewrites.passthrough (optionalFloat_roundTrips headRadius)
    exact (passthrough_rewrites (fitsOption_roundTrips h fun _ => byte_roundTrips)).last rfl
  | text value =>
    apply Rewrites.passthrough (byte_roundTrips (v := 2) (by decide))
    rw [if_neg (by decide), if_pos rfl]
    exact (passthrough_rewrites (string_roundTrips h)).last rfl
  | box bound =>
    apply Rewrites.passthrough (byte_roundTrips (v := 3) (by decide))
    rw [if_neg (by decide), if_neg (by decide), if_pos rfl]
    exact (passthrough_rewrites (vec3_roundTrips bound)).last rfl
  | line endLocation =>
    apply Rewrites.passthrough (byte_roundTrips (v := 4) (by decide))
    rw [if_neg (by decide), if_neg (by decide), if_neg (by decide), if_pos rfl]
    exact (passthrough_rewrites (vec3_roundTrips endLocation)).last rfl
  | sphere numSegments =>
    apply Rewrites.passthrough (byte_roundTrips (v := 5) (by decide))
    rw [if_neg (by decide), if_neg (by decide), if_neg (by decide), if_neg (by decide), if_pos rfl]
    exact (passthrough_rewrites (byte_roundTrips h)).last rfl

section Shape

variable {s : DebugShape} (h : s.Canonical)

include h

theorem passthroughShapeCommon_rewrites :
    Rewrites passthroughShapeCommon s.commonBytes s.commonBytes () := by
  unfold passthroughShapeCommon DebugShape.commonBytes
  apply Rewrites.passthrough (uvarInt64_roundTrips h.networkId)
  apply Rewrites.passthrough (fitsOption_roundTrips h.shapeType fun _ => byte_roundTrips)
  apply Rewrites.passthrough (optionalVec3_roundTrips s.location)
  apply Rewrites.passthrough (optionalFloat_roundTrips s.scale)
  apply Rewrites.passthrough (optionalVec3_roundTrips s.rotation)
  apply Rewrites.passthrough (optionalFloat_roundTrips s.totalTimeLeft)
  apply Rewrites.passthrough (fitsOption_roundTrips h.color fun _ => intLE_roundTrips)
  exact (passthrough_rewrites (varInt_roundTrips h.dimensionId)).last rfl

theorem passthroughShape_rewrites {attached : PacketHandler} {cin cout : List UInt8}
    (hattached : Rewrites attached cin cout ()) :
    Rewrites (passthroughShape attached) (s.bytes cin) (s.bytes cout) () := by
  apply (passthroughShapeCommon_rewrites h).bind
  apply hattached.bind
  exact passthroughExtraShapeData_rewrites h.extra

/-- The upgrade writes an absent entity id. -/
theorem upgradeShape_rewrites :
    Rewrites (passthroughShape (write bool false)) s.bytesV898 s.detached.bytesV924 () :=
  passthroughShape_rewrites (s := s.detached) { h with attachedToEntityId := fitsOption_none _ }
    (write_rewrites (optionalType_roundTrips (T := uvarInt64) (v := none) nofun).writes)

/-- The downgrade drops the entity id. -/
theorem downgradeShape_rewrites :
    Rewrites (passthroughShape stripAttachedToEntityId) s.bytesV924 s.bytesV898 () := by
  have hread := (fitsOption_roundTrips h.attachedToEntityId fun _ => uvarInt64_roundTrips).reads
  exact passthroughShape_rewrites h ((read_rewrites hread).last rfl)

end Shape

/-! ### The packet -/

namespace DebugDrawer

variable {p : DebugDrawer} (h : CanonicalV924 p)

include h

theorem CanonicalV924.upgrade :
    Rewrites V898ToV924.rewriteDebugDrawer (bytesV898 p) (bytesV924 (detached p)) () := by
  rw [bytesV924, detached, arrayBytes_map]
  exact passthroughLoop_rewrites h.1 fun s hs => upgradeShape_rewrites (h.2 s hs)

theorem CanonicalV924.downgrade :
    Rewrites V924ToV898.rewriteDebugDrawer (bytesV924 p) (bytesV898 p) () :=
  passthroughLoop_rewrites h.1 fun s hs => downgradeShape_rewrites (h.2 s hs)

omit h

/-- **Debug shapes survive v924**: a canonical v898 packet goes to v924 and comes back as it was; a
canonical v924 packet goes to v898 and comes back with the same shapes, attached to nothing. -/
theorem debugDrawer_survives (suf : List UInt8) (user user' : UserConnection) :
    (∀ p : DebugDrawer, CanonicalV898 p → ∃ q,
      V898ToV924.rewriteDebugDrawer.apply (bytesV898 p ++ suf) user = .ok q ∧
      V924ToV898.rewriteDebugDrawer.apply q user' = .ok (bytesV898 p ++ suf)) ∧
    ∀ p : DebugDrawer, CanonicalV924 p → ∃ q,
      V924ToV898.rewriteDebugDrawer.apply (bytesV924 p ++ suf) user = .ok q ∧
      V898ToV924.rewriteDebugDrawer.apply q user' = .ok (bytesV924 (detached p) ++ suf) := by
  constructor
  · intro p h
    have hupgrade := h.canonicalV924.upgrade
    rw [h.attached] at hupgrade
    exact ⟨_, apply_of_rewrites hupgrade suf user,
      apply_of_rewrites h.canonicalV924.downgrade suf user'⟩
  · intro p h
    exact ⟨_, apply_of_rewrites h.downgrade suf user, apply_of_rewrites h.upgrade suf user'⟩

/-- An arrow attached to an entity, and a text. -/
def sampleShapes : DebugDrawer :=
  [{ networkId := 2 ^ 64 - 1
     shapeType := some 4
     color := some (-1)
     dimensionId := -2
     attachedToEntityId := some 7
     extra := .arrow (some (1, 2, 3)) none (some 0) (some 255) },
    { networkId := 0
      dimensionId := 0
      extra := .text "north" }]

theorem sampleShapes_canonical : CanonicalV924 sampleShapes := by
  refine ⟨by decide, ?_⟩
  rw [sampleShapes, List.forall_mem_cons, List.forall_mem_singleton]
  constructor
  · exact ⟨by decide, fitsOption_some (by decide), fitsOption_some (by decide), by decide,
      fitsOption_some (by decide), fitsOption_some (a := 255) (by decide)⟩
  · exact ⟨by decide, fitsOption_none _, fitsOption_none _, by decide, fitsOption_none _,
      (by decide : FitsString "north")⟩

/-- The shapes, without the entity id to v924 and back and with it to v898 and back. -/
theorem debugDrawer_survives_sample :
    (∃ q, V898ToV924.rewriteDebugDrawer.apply (bytesV898 (sampleShapes.drop 1) ++ [])
        { address := "a" } = .ok q ∧
      V924ToV898.rewriteDebugDrawer.apply q { address := "a" } =
        .ok (bytesV898 (sampleShapes.drop 1) ++ [])) ∧
    ∃ q, V924ToV898.rewriteDebugDrawer.apply (bytesV924 sampleShapes ++ []) { address := "a" } =
        .ok q ∧
      V898ToV924.rewriteDebugDrawer.apply q { address := "a" } =
        .ok (bytesV924 (detached sampleShapes) ++ []) := by
  have h := debugDrawer_survives [] { address := "a" } { address := "a" }
  have htext : CanonicalV924 (sampleShapes.drop 1) :=
    fitsList_singleton (sampleShapes_canonical.2 _ (List.mem_cons_of_mem _ (List.mem_cons_self ..)))
  exact ⟨h.1 _ ⟨htext, rfl⟩, h.2 _ sampleShapes_canonical⟩

end DebugDrawer

end Endweave
