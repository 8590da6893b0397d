import Endweave.Codec.Equiv.Converts
import Endweave.Protocol.Handlers.Camera
import Endweave.Protocol.Packets.Camera

/-!
# Correctness of the camera handlers

`camera_survives`: a canonical v898 instruction is what it was after two upgrades and two
downgrades, and so is a canonical v924 packet of splines after one of each.

A spline of an older version is read back by the codecs of the newer ones too
(`CanonicalV898.roundTrips`, `CanonicalV924.roundTripsV924`, `CanonicalV944.roundTripsV944`), so
that one walk through the optional parts (`mapCameraInstruction_converts`) serves all four handlers.
-/

namespace Endweave

open Wire PacketWriter PacketWrapper

/-! ### Splines -/

theorem keyFrameV898_roundTrips {kf : KeyFrame} (h : kf.easing = defaultEasing) :
    keyFrameV898.RoundTrips kf := by
  apply Codes.bind (floatLE_roundTrips kf.value)
  apply Codes.last (floatLE_roundTrips kf.time)
  rw [← h]

theorem keyFrameV924_roundTrips {kf : KeyFrame} (h : InInt32 kf.easing) :
    keyFrameV924.RoundTrips kf := by
  apply Codes.bind (floatLE_roundTrips kf.value)
  apply Codes.bind (floatLE_roundTrips kf.time)
  exact Codes.last (intLE_roundTrips h) rfl

theorem rotationKeyFrameV898_roundTrips {rkf : RotationKeyFrame}
    (h : rkf.easing = defaultEasing) : rotationKeyFrameV898.RoundTrips rkf := by
  apply Codes.bind (vec3_roundTrips rkf.value)
  apply Codes.last (floatLE_roundTrips rkf.time)
  rw [← h]

theorem rotationKeyFrameV924_roundTrips {rkf : RotationKeyFrame} (h : InInt32 rkf.easing) :
    rotationKeyFrameV924.RoundTrips rkf := by
  apply Codes.bind (vec3_roundTrips rkf.value)
  apply Codes.bind (floatLE_roundTrips rkf.time)
  exact Codes.last (intLE_roundTrips h) rfl

namespace SplineInstruction

variable {s : SplineInstruction}

/-- A spline without identifier and flag, by the codecs of its key frames. -/
theorem splineInstructionType_codes {keyFrame : FieldType KeyFrame}
    {rotationKeyFrame : FieldType RotationKeyFrame} (h : s.CanonicalV944)
    (hprogress : ∀ kf ∈ s.progressKeyFrames, keyFrame.RoundTrips kf)
    (hrotation : ∀ rkf ∈ s.rotationKeyFrames, rotationKeyFrame.RoundTrips rkf) :
    Codes ((splineInstructionType keyFrame rotationKeyFrame).write s)
      (splineInstructionType keyFrame rotationKeyFrame).read
      { s with splineIdentifier := "", loadFromJson := false } := by
  apply Codes.bind (floatLE_roundTrips s.totalTime)
  apply Codes.bind (byte_roundTrips h.type)
  apply Codes.bind (arrayType_roundTrips h.curve fun v _ => vec3_roundTrips v)
  apply Codes.bind (arrayType_roundTrips h.progressKeyFrames.1 hprogress)
  exact Codes.last (arrayType_roundTrips h.rotationKeyFrames.1 hrotation) rfl

theorem CanonicalV944.codesV924 (h : s.CanonicalV944) :
    Codes (splineInstructionV924.write s) splineInstructionV924.read
      { s with splineIdentifier := "", loadFromJson := false } :=
  splineInstructionType_codes h
    (fun kf hkf => keyFrameV924_roundTrips (h.progressKeyFrames.2 kf hkf))
    fun rkf hrkf => rotationKeyFrameV924_roundTrips (h.rotationKeyFrames.2 rkf hrkf)

theorem CanonicalV944.roundTripsV944 (h : s.CanonicalV944) :
    splineInstructionV944.RoundTrips s := by
  apply Codes.bind h.codesV924
  apply Codes.bind (string_roundTrips h.splineIdentifier)
  exact Codes.last (bool_roundTrips s.loadFromJson) rfl

/-- The defaults of the reader are the values a spline of v924 has. -/
theorem CanonicalV924.defaults (h : s.CanonicalV924) :
    { s with splineIdentifier := "", loadFromJson := false } = s := by
  rw [← h.noIdentifier, ← h.noFlag]

theorem CanonicalV924.roundTripsV924 (h : s.CanonicalV924) :
    splineInstructionV924.RoundTrips s := by
  have hcodes := h.codesV924
  rwa [h.defaults] at hcodes

theorem CanonicalV898.roundTrips (h : s.CanonicalV898) : splineInstructionV898.RoundTrips s := by
  have hcodes := splineInstructionType_codes h.toCanonicalV944
    (fun kf hkf => keyFrameV898_roundTrips (h.progressEasings kf hkf))
    fun rkf hrkf => rotationKeyFrameV898_roundTrips (h.rotationEasings rkf hrkf)
  rwa [h.defaults] at hcodes

theorem CanonicalV944.writesV898 (h : s.CanonicalV944) :
    ∃ bs, Writes (splineInstructionV898.write s) bs := by
  have hlength {n : Nat} (hn : n < 2 ^ 32) : uvarInt.RoundTrips n :=
    uvarInt_roundTrips ⟨by omega, by omega⟩
  have hcurve := arrayType_roundTrips h.curve fun v _ => vec3_roundTrips v
  have hprogress : ∀ kf : KeyFrame, Writes (keyFrameV898.write kf) _ := fun kf =>
    (floatLE_roundTrips kf.value).writes.bind (floatLE_roundTrips kf.time).writes
  have hrotation : ∀ rkf : RotationKeyFrame, Writes (rotationKeyFrameV898.write rkf) _ :=
    fun rkf => (vec3_roundTrips rkf.value).writes.bind (floatLE_roundTrips rkf.time).writes
  exact ⟨_, (floatLE_roundTrips s.totalTime).writes.bind <|
    (byte_roundTrips h.type).writes.bind <| hcurve.writes.bind <|
    ((hlength h.progressKeyFrames.1).writes.bind (Writes.each fun kf _ => hprogress kf)).bind
      ((hlength h.rotationKeyFrames.1).writes.bind (Writes.each fun rkf _ => hrotation rkf))⟩

/-- A version leaves out what it does not have. -/
theorem CanonicalV944.downgradeV924 (h : s.CanonicalV944) :
    Converts (PacketWrapper.map splineInstructionV944 splineInstructionV924)
      (splineInstructionV944.write s) (splineInstructionV924.write s) s :=
  converts_map h.roundTripsV944 h.codesV924

theorem CanonicalV944.downgradeV898 (h : s.CanonicalV944) :
    Converts (PacketWrapper.map splineInstructionV924 splineInstructionV898)
      (splineInstructionV924.write s) (splineInstructionV898.write s)
      { s with splineIdentifier := "", loadFromJson := false } := by
  obtain ⟨bs, hwrites⟩ := h.writesV898
  exact converts_map_of_writes h.codesV924 hwrites

theorem CanonicalV924.upgradeV944 (h : s.CanonicalV924) :
    Converts (PacketWrapper.map splineInstructionV924 splineInstructionV944)
      (splineInstructionV924.write s) (splineInstructionV944.write s) s :=
  converts_map h.roundTripsV924 h.toCanonicalV944.roundTripsV944

theorem CanonicalV898.upgradeV924 (h : s.CanonicalV898) :
    Converts (PacketWrapper.map splineInstructionV898 splineInstructionV924)
      (splineInstructionV898.write s) (splineInstructionV924.write s) s :=
  converts_map h.roundTrips h.toCanonicalV924.roundTripsV924

end SplineInstruction

/-! ### Instructions -/

theorem passthroughFloat_converts (x : UInt32) :
    Converts (passthrough floatLE) (writeFloatLE x) (writeFloatLE x) x := by
  have hfloat := converts_passthrough (floatLE_roundTrips x)
  simp only [floatLE] at hfloat
  exact hfloat

/-- Three floats that are passed through one by one. -/
theorem passthroughFloats_converts (v : UInt32 × UInt32 × UInt32) :
    Converts
      (do
        let _ ← passthrough floatLE
        let _ ← passthrough floatLE
        let _ ← passthrough floatLE)
      (vec3.write v) (vec3.write v) () := by
  apply (passthroughFloat_converts v.1).bind
  apply (passthroughFloat_converts v.2.1).bind
  exact (passthroughFloat_converts v.2.2).last rfl

section Parts

variable {old new : FieldType SplineInstruction} {p : CameraInstruction}

theorem mapCameraInstruction_converts (h : p.Canonical)
    (hmap : ∀ s, p.spline = some s →
      ∃ s', Converts (PacketWrapper.map old new) (old.write s) (new.write s) s') :
    Converts (mapCameraInstruction old new) ((cameraInstructionType old).write p)
      ((cameraInstructionType new).write p) () := by
  apply Converts.bind
  · apply passthroughOptional_converts
    intro set hset
    apply Converts.passthrough (intLE_roundTrips (h.set set hset).preset)
    apply Converts.bind
    · apply passthroughOptional_converts
      intro ease hease
      apply Converts.passthrough (byte_roundTrips ((h.set set hset).ease ease hease))
      exact (converts_passthrough (floatLE_roundTrips ease.2)).last rfl
    apply Converts.passthrough (optionalVec3_roundTrips set.pos)
    apply Converts.passthrough (optionalVec2_roundTrips set.rot)
    apply Converts.passthrough (optionalVec3_roundTrips set.facing)
    apply Converts.passthrough (optionalVec2_roundTrips set.viewOffset)
    apply Converts.passthrough (optionalVec3_roundTrips set.entityOffset)
    apply Converts.passthrough (optionalBool_roundTrips set.default)
    exact (converts_passthrough (bool_roundTrips set.removeIgnoreStartingValues)).last rfl
  apply Converts.passthrough (optionalBool_roundTrips p.clear)
  apply Converts.bind
  · apply passthroughOptional_converts
    intro fade _
    apply (passthroughOptional_converts fun v _ => passthroughFloats_converts v).bind
    exact passthroughOptional_converts fun v _ => passthroughFloats_converts v
  apply Converts.bind
  · apply passthroughOptional_converts
    intro target htarget
    apply Converts.passthrough (optionalVec3_roundTrips target.centerOffset)
    exact (converts_passthrough (int64LE_roundTrips (h.target target htarget))).last rfl
  apply Converts.passthrough (optionalBool_roundTrips p.removeTarget)
  apply Converts.bind
  · apply passthroughOptional_converts
    intro fov hfov
    apply Converts.passthrough (floatLE_roundTrips fov.fieldOfView)
    apply Converts.passthrough (floatLE_roundTrips fov.easeTime)
    apply Converts.passthrough (byte_roundTrips (h.fieldOfView fov hfov))
    exact (converts_passthrough (bool_roundTrips fov.clear)).last rfl
  apply passthroughOptional_converts
  intro spline hspline
  obtain ⟨_, hconverts⟩ := hmap spline hspline
  exact hconverts.last rfl

theorem mapCameraSpline_converts_of_map {splines : List (String × SplineInstruction)}
    (hlen : splines.length < 2 ^ 32)
    (h : ∀ spline ∈ splines, FitsString spline.1 ∧
      ∃ s', Converts (PacketWrapper.map old new) (old.write spline.2) (new.write spline.2) s') :
    Converts (mapCameraSpline old new) ((cameraSplineType old).write splines)
      ((cameraSplineType new).write splines) () := by
  apply converts_passthroughLoop_same hlen
  intro spline hspline
  obtain ⟨hname, _, hconverts⟩ := h spline hspline
  apply Converts.passthrough (string_roundTrips hname)
  exact hconverts.last rfl

theorem mapCameraSpline_converts {splines : List (String × SplineInstruction)}
    (hlen : splines.length < 2 ^ 32)
    (h : ∀ spline ∈ splines, FitsString spline.1 ∧ old.RoundTrips spline.2 ∧
      new.RoundTrips spline.2) :
    Converts (mapCameraSpline old new) ((cameraSplineType old).write splines)
      ((cameraSplineType new).write splines) () := by
  refine mapCameraSpline_converts_of_map hlen fun spline hspline => ?_
  obtain ⟨hname, hold, hnew⟩ := h spline hspline
  exact ⟨hname, _, converts_map hold hnew⟩

end Parts

/-! ### The handlers -/

/-- The handlers of a CameraInstruction on its way to v944 and back. -/
def cameraInstructionHandlers : List PacketHandler :=
  [V898ToV924.rewriteCameraInstruction, V924ToV944.rewriteCameraInstruction,
    V944ToV924.rewriteCameraInstruction, V924ToV898.rewriteCameraInstruction]

/-- On a packet that both versions read back a handler only changes the codec of the spline. -/
theorem mapCameraInstruction_apply {old new : FieldType SplineInstruction} {p : CameraInstruction}
    (h : p.Canonical) (hold : ∀ s, p.spline = some s → old.RoundTrips s)
    (hnew : ∀ s, p.spline = some s → new.RoundTrips s) (suf : List UInt8) (user : UserConnection) :
    (mapCameraInstruction old new).apply ((cameraInstructionType old).bytes p ++ suf) user =
      .ok ((cameraInstructionType new).bytes p ++ suf) :=
  apply_of_rewrites (mapCameraInstruction_converts h fun s hs =>
    ⟨_, converts_map (hold s hs) (hnew s hs)⟩).rewrites suf user

theorem CameraInstruction.CanonicalV898.applyAll {p : CameraInstruction} (h : p.CanonicalV898)
    (suf : List UInt8) (user : UserConnection) :
    PacketHandler.applyAll cameraInstructionHandlers (cameraInstructionV898.bytes p ++ suf) user =
      .ok (cameraInstructionV898.bytes p ++ suf) := by
  have h898 : ∀ s, p.spline = some s → splineInstructionV898.RoundTrips s :=
    fun s hs => (h.spline s hs).roundTrips
  have h924 : ∀ s, p.spline = some s → splineInstructionV924.RoundTrips s :=
    fun s hs => (h.spline s hs).roundTripsV924
  have h944 : ∀ s, p.spline = some s → splineInstructionV944.RoundTrips s :=
    fun s hs => (h.spline s hs).roundTripsV944
  have hcan := h.toCanonical
  unfold cameraInstructionHandlers V898ToV924.rewriteCameraInstruction
    V924ToV944.rewriteCameraInstruction V944ToV924.rewriteCameraInstruction
    V924ToV898.rewriteCameraInstruction cameraInstructionV898
  rw [applyAll_cons (mapCameraInstruction_apply hcan h898 h924 suf user),
    applyAll_cons (mapCameraInstruction_apply hcan h924 h944 suf user),
    applyAll_cons (mapCameraInstruction_apply hcan h944 h924 suf user), applyAll_singleton]
  exact mapCameraInstruction_apply hcan h924 h898 suf user

/-- **Camera splines survive v944**: a canonical v898 CameraInstruction, with anything behind it, is
what it was after the upgrades to v924 and v944 and the downgrades back; a canonical v924 packet of
splines is what it was after the upgrade to v944 and the downgrade, easings and all. -/
theorem camera_survives (suf : List UInt8) (user : UserConnection) :
    (∀ p : CameraInstruction, p.CanonicalV898 →
      PacketHandler.applyAll cameraInstructionHandlers (cameraInstructionV898.bytes p ++ suf)
        user = .ok (cameraInstructionV898.bytes p ++ suf)) ∧
    ∀ splines : List (String × SplineInstruction),
      FitsList (fun spline => FitsString spline.1 ∧ spline.2.CanonicalV924) splines →
      PacketHandler.applyAll [V924ToV944.rewriteCameraSpline, V944ToV924.rewriteCameraSpline]
        (cameraSplineV924.bytes splines ++ suf) user =
          .ok (cameraSplineV924.bytes splines ++ suf) := by
  constructor
  · exact fun p h => h.applyAll suf user
  · intro splines h
    have hup : Converts (mapCameraSpline splineInstructionV924 splineInstructionV944) _ _ () :=
      mapCameraSpline_converts h.1 fun spline hs =>
        ⟨(h.2 spline hs).1, (h.2 spline hs).2.roundTripsV924, (h.2 spline hs).2.roundTripsV944⟩
    have hdown : Converts (mapCameraSpline splineInstructionV944 splineInstructionV924) _ _ () :=
      mapCameraSpline_converts h.1 fun spline hs =>
        ⟨(h.2 spline hs).1, (h.2 spline hs).2.roundTripsV944, (h.2 spline hs).2.roundTripsV924⟩
    unfold V924ToV944.rewriteCameraSpline V944ToV924.rewriteCameraSpline cameraSplineV924
    rw [applyAll_cons (apply_of_rewrites hup.rewrites suf user), applyAll_singleton]
    exact apply_of_rewrites hdown.rewrites suf user

/-- A spline of two points with key frames. -/
def sampleSpline : SplineInstruction where
  totalTime := 0x3F800000
  type := 1
  curve := [(0, 0, 0), (1, 2, 3)]
  progressKeyFrames := [⟨0, 0, 0⟩]
  rotationKeyFrames := [⟨(4, 5, 6), 7, 0⟩]

/-- The same spline with an easing, which v898 does not have. -/
def easedSpline : SplineInstruction :=
  { sampleSpline with progressKeyFrames := [⟨0, 0, 31⟩] }

theorem sampleSpline_canonical : sampleSpline.CanonicalV898 where
  type := by decide
  curve := by decide
  progressKeyFrames := fitsList_singleton (by decide)
  rotationKeyFrames := fitsList_singleton (by decide)
  splineIdentifier := by decide
  noIdentifier := rfl
  noFlag := rfl
  progressEasings := by decide
  rotationEasings := by decide

theorem easedSpline_canonical : easedSpline.CanonicalV924 :=
  { sampleSpline_canonical with progressKeyFrames := fitsList_singleton (by decide) }

/-- An instruction that sets a camera, fades and follows a spline. -/
def sampleInstruction : CameraInstruction where
  set := some
    { preset := 3
      ease := some (1, 0x3F800000)
      pos := some (1, 2, 3)
      rot := none
      facing := none
      viewOffset := none
      entityOffset := none
      default := some true
      removeIgnoreStartingValues := false }
  fade := some { time := none, color := some (0, 0, 0) }
  spline := some sampleSpline

theorem sampleInstruction_canonical : sampleInstruction.CanonicalV898 where
  set := fitsOption_some ⟨by decide, fitsOption_some (by decide)⟩
  target := fitsOption_none _
  fieldOfView := fitsOption_none _
  spline := fitsOption_some sampleSpline_canonical

theorem camera_survives_sample :
    PacketHandler.applyAll cameraInstructionHandlers
        (cameraInstructionV898.bytes sampleInstruction ++ [1]) { address := "a" } =
      .ok (cameraInstructionV898.bytes sampleInstruction ++ [1]) ∧
    PacketHandler.applyAll [V924ToV944.rewriteCameraSpline, V944ToV924.rewriteCameraSpline]
        (cameraSplineV924.bytes [("a", easedSpline)] ++ [1]) { address := "a" } =
      .ok (cameraSplineV924.bytes [("a", easedSpline)] ++ [1]) := by
  have h := camera_survives [1] { address := "a" }
  exact ⟨h.1 _ sampleInstruction_canonical,
    h.2 _ (fitsList_singleton ⟨by decide, easedSpline_canonical⟩)⟩

end Endweave
