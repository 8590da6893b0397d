import Endweave.Codec.Equiv.Untrusted
import Endweave.Protocol.Handlers.CameraAimAssist
import Endweave.Protocol.Packets.CameraAimAssist

/-!
# Correctness of the `CameraAimAssistPresets` handlers

The two steps that read v898 agree on its grammar (`V898ToV924.rewriteCameraAimAssistPresets_apply`,
`V898ToV860.rewriteCameraAimAssistPresets_apply`).  The step back from v860 has one loop over
categories too many.  Without categories the packet survives the way to v860 and back
(`cameraAimAssistPresets_survives`).

What becomes of a category depends on what its bytes are taken for.  A packet survives only if the
step back makes it long enough for a v898 packet (`CameraAimAssistPresets.SurvivesV860.length_le`),
which it never does for a single category without priorities
(`cameraAimAssistPresets_emptyCategory`) and can do by coincidence
(`V860ToV898.rewriteCameraAimAssistPresets_zeroPriority`).
-/

namespace Endweave

open Wire PacketWrapper

/-! ### The v898 type -/

theorem pairType_bytes {α β : Type} {A : FieldType α} {B : FieldType β} {v : α × β}
    (hA : A.RoundTrips v.1) (hB : B.RoundTrips v.2) :
    (pairType A B).bytes v = A.bytes v.1 ++ B.bytes v.2 :=
  (hA.writes.bind hB.writes).written

theorem prioritiesType_roundTrips {ps : List (String × Int)} (h : CanonicalPriorities ps) :
    prioritiesType.RoundTrips ps :=
  arrayType_roundTrips h.1 fun p hp =>
    pairType_roundTrips (string_roundTrips (h.2 p hp).1) (intLE_roundTrips (h.2 p hp).2)

theorem namesType_roundTrips {ss : List String} (h : CanonicalNames ss) : namesType.RoundTrips ss :=
  arrayType_roundTrips h.1 fun s hs => string_roundTrips (h.2 s hs)

theorem itemSettingsType_roundTrips {ps : List (String × String)} (h : CanonicalItemSettings ps) :
    itemSettingsType.RoundTrips ps :=
  arrayType_roundTrips h.1 fun p hp =>
    pairType_roundTrips (string_roundTrips (h.2 p hp).1) (string_roundTrips (h.2 p hp).2)

theorem optionalIntLE_roundTrips {v : Option Int} (h : ∀ a, v = some a → InInt32 a) :
    (optionalType intLE).RoundTrips v :=
  optionalType_roundTrips fun a ha => intLE_roundTrips (h a ha)

theorem aimAssistCategory_roundTrips {c : AimAssistCategory} (h : c.Canonical) :
    aimAssistCategory.RoundTrips c :=
  Codes.bind (string_roundTrips h.identifier) <|
  Codes.bind (prioritiesType_roundTrips h.entityPriorities) <|
  Codes.bind (prioritiesType_roundTrips h.blockPriorities) <|
  Codes.bind (prioritiesType_roundTrips h.blockTagPriorities) <|
  Codes.bind (optionalIntLE_roundTrips h.defaultEntityPriority) <|
  Codes.last (optionalIntLE_roundTrips h.defaultBlockPriority) rfl

theorem aimAssistPreset_roundTrips {p : AimAssistPreset} (h : p.Canonical) :
    aimAssistPreset.RoundTrips p :=
  Codes.bind (string_roundTrips h.identifier) <|
  Codes.bind (namesType_roundTrips h.blockExclusions) <|
  Codes.bind (namesType_roundTrips h.entityExclusions) <|
  Codes.bind (namesType_roundTrips h.blockTagExclusions) <|
  Codes.bind (namesType_roundTrips h.liquidTargets) <|
  Codes.bind (itemSettingsType_roundTrips h.itemSettings) <|
  Codes.bind (optionalString_roundTrips h.defaultForHands) <|
  Codes.last (optionalString_roundTrips h.defaultForItems) rfl

theorem cameraAimAssistPresets_roundTrips {p : CameraAimAssistPresets} (h : p.Canonical) :
    cameraAimAssistPresets.RoundTrips p :=
  Codes.bind (arrayType_roundTrips h.categories.1 fun c hc =>
    aimAssistCategory_roundTrips (h.categories.2 c hc)) <|
  Codes.last (arrayType_roundTrips h.presets.1 fun preset hpreset =>
    aimAssistPreset_roundTrips (h.presets.2 preset hpreset)) rfl

theorem aimAssistCategory_bytes {c : AimAssistCategory} (h : c.Canonical) :
    aimAssistCategory.bytes c = [string.bytes c.identifier, prioritiesType.bytes c.entityPriorities,
      prioritiesType.bytes c.blockPriorities, prioritiesType.bytes c.blockTagPriorities,
      c.defaultBytes].flatten := by
  simp only [AimAssistCategory.defaultBytes, List.flatten_cons, List.flatten_nil, List.append_nil]
  refine Writes.written ?_
  refine (string_roundTrips h.identifier).writes.bind ?_
  refine (prioritiesType_roundTrips h.entityPriorities).writes.bind ?_
  refine (prioritiesType_roundTrips h.blockPriorities).writes.bind ?_
  refine (prioritiesType_roundTrips h.blockTagPriorities).writes.bind ?_
  refine (optionalIntLE_roundTrips h.defaultEntityPriority).writes.bind ?_
  exact (optionalIntLE_roundTrips h.defaultBlockPriority).writes

theorem aimAssistPreset_bytes {p : AimAssistPreset} (h : p.Canonical) :
    aimAssistPreset.bytes p = [string.bytes p.identifier, namesType.bytes p.blockExclusions,
      namesType.bytes p.entityExclusions, namesType.bytes p.blockTagExclusions,
      p.tailBytes].flatten := by
  simp only [AimAssistPreset.tailBytes, List.flatten_cons, List.flatten_nil, List.append_nil]
  refine Writes.written ?_
  refine (string_roundTrips h.identifier).writes.bind ?_
  refine (namesType_roundTrips h.blockExclusions).writes.bind ?_
  refine (namesType_roundTrips h.entityExclusions).writes.bind ?_
  refine (namesType_roundTrips h.blockTagExclusions).writes.bind ?_
  refine (namesType_roundTrips h.liquidTargets).writes.bind ?_
  refine (itemSettingsType_roundTrips h.itemSettings).writes.bind ?_
  refine (optionalString_roundTrips h.defaultForHands).writes.bind ?_
  exact (optionalString_roundTrips h.defaultForItems).writes

theorem cameraAimAssistPresets_bytes {p : CameraAimAssistPresets} (h : p.Canonical) :
    cameraAimAssistPresets.bytes p = arrayBytes aimAssistCategory.bytes p.categories ++
      arrayBytes aimAssistPreset.bytes p.presets := by
  have hcategories : ∀ c ∈ p.categories, aimAssistCategory.RoundTrips c :=
    fun c hc => aimAssistCategory_roundTrips (h.categories.2 c hc)
  have hpresets : ∀ preset ∈ p.presets, aimAssistPreset.RoundTrips preset :=
    fun preset hpreset => aimAssistPreset_roundTrips (h.presets.2 preset hpreset)
  rw [← arrayType_bytes h.categories.1 hcategories, ← arrayType_bytes h.presets.1 hpresets]
  exact ((arrayType_roundTrips h.categories.1 hcategories).writes.bind
    (arrayType_roundTrips h.presets.1 hpresets).writes).written

/-! ### Shared loops -/

theorem passthroughString_rewrites {s : String} (h : FitsString s) :
    Rewrites passthroughString (string.bytes s) (string.bytes s) () := by
  rw [← List.append_nil (string.bytes s)]
  exact Rewrites.passthrough (string_roundTrips h) (Rewrites.pure ())

theorem passthroughStrings_rewrites {ss : List String} (h : CanonicalNames ss) :
    Rewrites passthroughStrings (namesType.bytes ss) (namesType.bytes ss) () :=
  passthroughLoop_array h.1 (fun s hs => string_roundTrips (h.2 s hs)) fun s hs =>
    passthroughString_rewrites (h.2 s hs)

/-- A body that passes two fields through copies a pair. -/
theorem passthroughPair_rewrites {α β : Type} {A : FieldType α} {B : FieldType β} {v : α × β}
    (hA : A.RoundTrips v.1) (hB : B.RoundTrips v.2) :
    Rewrites (do
      let _ ← passthrough A
      let _ ← passthrough B) ((pairType A B).bytes v) ((pairType A B).bytes v) () := by
  rw [pairType_bytes hA hB, ← List.append_nil (B.bytes v.2)]
  exact Rewrites.passthrough hA (Rewrites.passthrough hB (Rewrites.pure ()))

theorem passthroughPriorities_rewrites {ps : List (String × Int)} (h : CanonicalPriorities ps) :
    Rewrites passthroughPriorities (prioritiesType.bytes ps) (prioritiesType.bytes ps) () := by
  have hname : ∀ p ∈ ps, string.RoundTrips p.1 := fun p hp => string_roundTrips (h.2 p hp).1
  have hvalue : ∀ p ∈ ps, intLE.RoundTrips p.2 := fun p hp => intLE_roundTrips (h.2 p hp).2
  exact passthroughLoop_array h.1 (fun p hp => pairType_roundTrips (hname p hp) (hvalue p hp))
    fun p hp => passthroughPair_rewrites (hname p hp) (hvalue p hp)

theorem passthroughItemSettings_rewrites {ps : List (String × String)}
    (h : CanonicalItemSettings ps) :
    Rewrites (passthroughLoop passthroughItemSetting) (itemSettingsType.bytes ps)
      (itemSettingsType.bytes ps) () := by
  have hfst : ∀ p ∈ ps, string.RoundTrips p.1 := fun p hp => string_roundTrips (h.2 p hp).1
  have hsnd : ∀ p ∈ ps, string.RoundTrips p.2 := fun p hp => string_roundTrips (h.2 p hp).2
  exact passthroughLoop_array h.1 (fun p hp => pairType_roundTrips (hfst p hp) (hsnd p hp))
    fun p hp => passthroughPair_rewrites (hfst p hp) (hsnd p hp)

theorem passthroughDefaultPriorities_rewrites {c : AimAssistCategory} (h : c.Canonical) :
    Rewrites passthroughDefaultPriorities c.defaultBytes c.defaultBytes () := by
  simp only [AimAssistCategory.defaultBytes, List.flatten_cons, List.flatten_nil]
  apply Rewrites.passthrough (optionalIntLE_roundTrips h.defaultEntityPriority)
  apply Rewrites.passthrough (optionalIntLE_roundTrips h.defaultBlockPriority)
  exact Rewrites.pure ()

theorem passthroughPresetTail_rewrites {p : AimAssistPreset} (h : p.Canonical) :
    Rewrites passthroughPresetTail p.tailBytes p.tailBytes () := by
  simp only [AimAssistPreset.tailBytes, List.flatten_cons, List.flatten_nil]
  refine (passthroughStrings_rewrites h.liquidTargets).bind ?_
  refine (passthroughItemSettings_rewrites h.itemSettings).bind ?_
  apply Rewrites.passthrough (optionalString_roundTrips h.defaultForHands)
  apply Rewrites.passthrough (optionalString_roundTrips h.defaultForItems)
  exact Rewrites.pure ()

/-! ### From v898 to v924 -/

theorem V898ToV924.rewriteCategory_rewrites {c : AimAssistCategory} (h : c.Canonical) :
    Rewrites rewriteCategory (aimAssistCategory.bytes c) c.bytesV924 () := by
  rw [aimAssistCategory_bytes h]
  simp only [AimAssistCategory.bytesV924, List.flatten_cons, List.flatten_nil]
  refine (passthroughString_rewrites h.identifier).bind ?_
  refine (passthroughPriorities_rewrites h.entityPriorities).bind ?_
  refine (passthroughPriorities_rewrites h.blockPriorities).bind ?_
  refine (passthroughPriorities_rewrites h.blockTagPriorities).bind ?_
  apply Rewrites.write (uvarInt_roundTrips (v := 0) (by decide))
  rw [List.append_nil]
  exact passthroughDefaultPriorities_rewrites h

theorem V898ToV924.rewritePreset_rewrites {p : AimAssistPreset} (h : p.Canonical) :
    Rewrites rewritePreset (aimAssistPreset.bytes p) p.bytesV924 () := by
  rw [aimAssistPreset_bytes h]
  simp only [AimAssistPreset.bytesV924, List.flatten_cons, List.flatten_nil]
  refine (passthroughString_rewrites h.identifier).bind ?_
  refine (passthroughStrings_rewrites h.blockExclusions).bind ?_
  refine (passthroughStrings_rewrites h.entityExclusions).bind ?_
  refine (passthroughStrings_rewrites h.blockTagExclusions).bind ?_
  apply Rewrites.write (uvarInt_roundTrips (v := 0) (by decide))
  rw [List.append_nil]
  exact passthroughPresetTail_rewrites h

theorem V898ToV924.rewriteCameraAimAssistPresets_rewrites {p : CameraAimAssistPresets}
    (h : p.Canonical) :
    Rewrites rewriteCameraAimAssistPresets (cameraAimAssistPresets.bytes p) p.bytesV924 () := by
  rw [cameraAimAssistPresets_bytes h]
  refine Rewrites.bind (a := ()) ?_ ?_
  · exact passthroughLoop_rewrites h.categories.1 fun c hc =>
      rewriteCategory_rewrites (h.categories.2 c hc)
  · exact passthroughLoop_rewrites h.presets.1 fun preset hpreset =>
      rewritePreset_rewrites (h.presets.2 preset hpreset)

/-- The step to v924 reads every canonical v898 packet and adds what is empty in it. -/
theorem V898ToV924.rewriteCameraAimAssistPresets_apply {p : CameraAimAssistPresets}
    (h : p.Canonical) (user : UserConnection) :
    rewriteCameraAimAssistPresets.apply (cameraAimAssistPresets.bytes p) user =
      .ok p.bytesV924 :=
  (rewriteCameraAimAssistPresets_rewrites h).apply user

/-! ### From v898 to v860 -/

theorem V898ToV860.skipPriorities_rewrites {ps : List (String × Int)} (h : CanonicalPriorities ps) :
    Rewrites skipPriorities (prioritiesType.bytes ps) [] () := by
  have hname : ∀ p ∈ ps, string.RoundTrips p.1 := fun p hp => string_roundTrips (h.2 p hp).1
  have hvalue : ∀ p ∈ ps, intLE.RoundTrips p.2 := fun p hp => intLE_roundTrips (h.2 p hp).2
  have hskip : ∀ p ∈ ps, Rewrites skipPriority ((pairType string intLE).bytes p) [] () := by
    intro p hp
    rw [pairType_bytes (hname p hp) (hvalue p hp), ← List.append_nil (intLE.bytes p.2)]
    exact Rewrites.read (hname p hp) (Rewrites.read (hvalue p hp) (Rewrites.pure ()))
  have hlen := h.1
  rw [prioritiesType, arrayType_bytes h.1 fun p hp =>
    pairType_roundTrips (hname p hp) (hvalue p hp)]
  apply Rewrites.read (uvarInt_roundTrips ⟨by omega, by omega⟩)
  rw [Int.toNat_natCast]
  exact Rewrites.repeatM_skips hskip

theorem V898ToV860.readStrings_rewrites {ss : List String} (h : CanonicalNames ss) :
    Rewrites readStrings (namesType.bytes ss) [] ss := by
  have hss : ∀ s ∈ ss, string.RoundTrips s := fun s hs => string_roundTrips (h.2 s hs)
  have hlen := h.1
  rw [namesType, arrayType_bytes h.1 hss]
  apply Rewrites.read (uvarInt_roundTrips ⟨by omega, by omega⟩)
  rw [Int.toNat_natCast]
  exact Rewrites.collect fun s hs => read_rewrites (hss s hs).reads

theorem V898ToV860.rewriteCategory_rewrites {c : AimAssistCategory} (h : c.Canonical) :
    Rewrites rewriteCategory (aimAssistCategory.bytes c) c.bytesV860 () := by
  rw [aimAssistCategory_bytes h]
  simp only [AimAssistCategory.bytesV860, List.flatten_cons, List.flatten_nil]
  refine (passthroughString_rewrites h.identifier).bind ?_
  refine (passthroughPriorities_rewrites h.entityPriorities).bind ?_
  refine (passthroughPriorities_rewrites h.blockPriorities).bind ?_
  apply Rewrites.readThen (skipPriorities_rewrites h.blockTagPriorities)
  rw [List.append_nil]
  exact passthroughDefaultPriorities_rewrites h

/-- The exclusions of all three lists fit one list. -/
def AimAssistPreset.MergesExclusions (p : AimAssistPreset) : Prop := p.exclusions.length < 2 ^ 32

theorem AimAssistPreset.Canonical.exclusions {p : AimAssistPreset} (h : p.Canonical)
    (hmerge : p.MergesExclusions) : CanonicalNames p.exclusions := by
  refine ⟨hmerge, ?_⟩
  intro s hs
  rw [AimAssistPreset.exclusions, List.mem_append, List.mem_append] at hs
  rcases hs with (hs | hs) | hs
  · exact h.blockExclusions.2 s hs
  · exact h.entityExclusions.2 s hs
  · exact h.blockTagExclusions.2 s hs

theorem V898ToV860.rewritePreset_rewrites {p : AimAssistPreset} (h : p.Canonical)
    (hmerge : p.MergesExclusions) :
    Rewrites rewritePreset (aimAssistPreset.bytes p) p.bytesV860 () := by
  obtain ⟨hlen, hexclusions⟩ := h.exclusions hmerge
  have hbytes : namesType.bytes p.exclusions = arrayBytes string.bytes p.exclusions :=
    arrayType_bytes hlen fun s hs => string_roundTrips (hexclusions s hs)
  rw [aimAssistPreset_bytes h]
  simp only [AimAssistPreset.bytesV860, hbytes, arrayBytes, List.flatten_cons, List.flatten_nil,
    List.append_assoc]
  refine (passthroughString_rewrites h.identifier).bind ?_
  apply Rewrites.readThen (readStrings_rewrites h.blockExclusions)
  apply Rewrites.readThen (readStrings_rewrites h.entityExclusions)
  apply Rewrites.readThen (readStrings_rewrites h.blockTagExclusions)
  have hcount : uvarInt.RoundTrips p.exclusions.length := uvarInt_roundTrips ⟨by omega, by omega⟩
  apply Rewrites.write hcount
  refine Rewrites.writeThen (Rewrites.each fun s hs =>
    write_rewrites (string_roundTrips (hexclusions s hs)).writes) ?_
  rw [List.append_nil]
  exact passthroughPresetTail_rewrites h

theorem V898ToV860.rewriteCameraAimAssistPresets_rewrites {p : CameraAimAssistPresets}
    (h : p.Canonical) (hmerge : ∀ preset ∈ p.presets, preset.MergesExclusions) :
    Rewrites rewriteCameraAimAssistPresets (cameraAimAssistPresets.bytes p) p.bytesV860 () := by
  rw [cameraAimAssistPresets_bytes h]
  refine Rewrites.bind (a := ()) ?_ ?_
  · exact passthroughLoop_rewrites h.categories.1 fun c hc =>
      rewriteCategory_rewrites (h.categories.2 c hc)
  · exact passthroughLoop_rewrites h.presets.1 fun preset hpreset =>
      rewritePreset_rewrites (h.presets.2 preset hpreset) (hmerge preset hpreset)

/-- The step to v860 reads every canonical v898 packet and keeps the fields that v860 has. -/
theorem V898ToV860.rewriteCameraAimAssistPresets_apply {p : CameraAimAssistPresets}
    (h : p.Canonical) (hmerge : ∀ preset ∈ p.presets, preset.MergesExclusions)
    (user : UserConnection) :
    rewriteCameraAimAssistPresets.apply (cameraAimAssistPresets.bytes p) user =
      .ok p.bytesV860 :=
  (rewriteCameraAimAssistPresets_rewrites h hmerge).apply user

/-! ### From v860 to v898 -/

theorem AimAssistPreset.Canonical.merged {p : AimAssistPreset} (h : p.Canonical)
    (hmerge : p.MergesExclusions) : p.merged.Canonical :=
  { h with
    blockExclusions := h.exclusions hmerge
    entityExclusions := (by decide : CanonicalNames [])
    blockTagExclusions := (by decide : CanonicalNames []) }

theorem arrayType_bytes_nil {α : Type} (T : FieldType α) :
    (arrayType T).bytes [] = uvarInt.bytes 0 := by
  rw [arrayType_bytes (by simp) (by simp), arrayBytes, List.flatMap_nil, List.append_nil]
  rfl

theorem V860ToV898.rewritePreset_rewrites {p : AimAssistPreset} (h : p.Canonical)
    (hmerge : p.MergesExclusions) :
    Rewrites rewritePreset p.bytesV860 (aimAssistPreset.bytes p.merged) () := by
  have hbytes : aimAssistPreset.bytes p.merged = [string.bytes p.identifier,
      namesType.bytes p.exclusions, namesType.bytes [], namesType.bytes [], p.tailBytes].flatten :=
    aimAssistPreset_bytes (h.merged hmerge)
  have hnil : namesType.bytes [] = uvarInt.bytes 0 := arrayType_bytes_nil string
  rw [hbytes, hnil]
  simp only [AimAssistPreset.bytesV860, List.flatten_cons, List.flatten_nil]
  refine (passthroughString_rewrites h.identifier).bind ?_
  refine (passthroughStrings_rewrites (h.exclusions hmerge)).bind ?_
  apply Rewrites.write (uvarInt_roundTrips (v := 0) (by decide))
  apply Rewrites.write (uvarInt_roundTrips (v := 0) (by decide))
  rw [List.append_nil]
  exact passthroughPresetTail_rewrites h

theorem CameraAimAssistPresets.Canonical.viaV860 {p : CameraAimAssistPresets} (h : p.Canonical)
    (hmerge : ∀ preset ∈ p.presets, preset.MergesExclusions) : p.viaV860.Canonical := by
  constructor
  · refine ⟨by rw [CameraAimAssistPresets.viaV860, List.length_map]; exact h.categories.1, ?_⟩
    intro c hc
    obtain ⟨c', hc', rfl⟩ := List.mem_map.mp hc
    exact { h.categories.2 c' hc' with blockTagPriorities := (by decide : CanonicalPriorities []) }
  · refine ⟨by rw [CameraAimAssistPresets.viaV860, List.length_map]; exact h.presets.1, ?_⟩
    intro preset hpreset
    obtain ⟨preset', hpreset', rfl⟩ := List.mem_map.mp hpreset
    exact (h.presets.2 preset' hpreset').merged (hmerge preset' hpreset')

theorem V860ToV898.rewriteCameraAimAssistPresets_rewrites {p : CameraAimAssistPresets}
    (h : p.Canonical) (hmerge : ∀ preset ∈ p.presets, preset.MergesExclusions)
    (hcategories : p.categories = []) :
    Rewrites rewriteCameraAimAssistPresets p.bytesV860 (cameraAimAssistPresets.bytes p.viaV860)
      () := by
  rw [cameraAimAssistPresets_bytes (h.viaV860 hmerge), CameraAimAssistPresets.viaV860,
    CameraAimAssistPresets.bytesV860, hcategories]
  refine Rewrites.bind (a := ()) ?_ ?_
  · exact passthroughLoop_rewrites (by decide) (by simp)
  · rw [arrayBytes_map]
    exact passthroughLoop_rewrites h.presets.1 fun preset hpreset =>
      rewritePreset_rewrites (h.presets.2 preset hpreset) (hmerge preset hpreset)

/-- Without categories, the step back from v860 makes the v898 packet again. -/
theorem V860ToV898.rewriteCameraAimAssistPresets_apply {p : CameraAimAssistPresets}
    (h : p.Canonical) (hmerge : ∀ preset ∈ p.presets, preset.MergesExclusions)
    (hcategories : p.categories = []) (user : UserConnection) :
    rewriteCameraAimAssistPresets.apply p.bytesV860 user =
      .ok (cameraAimAssistPresets.bytes p.viaV860) :=
  (rewriteCameraAimAssistPresets_rewrites h hmerge hcategories).apply user

/-! ### From v924 to v898 -/

theorem V924ToV898.rewriteCategory_rewrites {c : AimAssistCategory} (h : c.Canonical)
    {families : List (String × Int)} (hfamilies : CanonicalPriorities families) :
    Rewrites rewriteCategory (c.bytesWith families) (aimAssistCategory.bytes c) () := by
  rw [aimAssistCategory_bytes h]
  simp only [AimAssistCategory.bytesWith, List.flatten_cons, List.flatten_nil]
  refine (passthroughString_rewrites h.identifier).bind ?_
  refine (passthroughPriorities_rewrites h.entityPriorities).bind ?_
  refine (passthroughPriorities_rewrites h.blockPriorities).bind ?_
  refine (passthroughPriorities_rewrites h.blockTagPriorities).bind ?_
  apply Rewrites.readThen (V898ToV860.skipPriorities_rewrites hfamilies)
  rw [List.append_nil]
  exact passthroughDefaultPriorities_rewrites h

/-- The loop that reads names and keeps none. -/
theorem skipNames_rewrites {names : List String} (h : CanonicalNames names) :
    Rewrites (do
      let count ← PacketWrapper.read uvarInt
      Wire.repeatM (discard (PacketWrapper.read string)) count.toNat) (namesType.bytes names) []
      () := by
  have hnames : ∀ s ∈ names, string.RoundTrips s := fun s hs => string_roundTrips (h.2 s hs)
  have hlen := h.1
  rw [namesType, arrayType_bytes h.1 hnames]
  apply Rewrites.read (uvarInt_roundTrips ⟨by omega, by omega⟩)
  rw [Int.toNat_natCast]
  exact Rewrites.repeatM_skips fun s hs => (read_rewrites (hnames s hs).reads).last rfl

theorem V924ToV898.rewritePreset_rewrites {p : AimAssistPreset} (h : p.Canonical)
    {families : List String} (hfamilies : CanonicalNames families) :
    Rewrites rewritePreset (p.bytesWith families) (aimAssistPreset.bytes p) () := by
  rw [aimAssistPreset_bytes h]
  simp only [AimAssistPreset.bytesWith, List.flatten_cons, List.flatten_nil]
  refine (passthroughString_rewrites h.identifier).bind ?_
  refine (passthroughStrings_rewrites h.blockExclusions).bind ?_
  refine (passthroughStrings_rewrites h.entityExclusions).bind ?_
  refine (passthroughStrings_rewrites h.blockTagExclusions).bind ?_
  have htail := passthroughPresetTail_rewrites h
  rw [← List.append_nil p.tailBytes] at htail
  have hskip :=
    Rewrites.readThen (k := fun _ => passthroughPresetTail) (skipNames_rewrites hfamilies) htail
  simpa only [bind_assoc] using hskip

theorem arrayBytes_congr {α : Type} {f g : α → List UInt8} {xs : List α}
    (h : ∀ x ∈ xs, f x = g x) : arrayBytes f xs = arrayBytes g xs :=
  congrArg (uvarInt.bytes xs.length ++ ·) (List.flatMap_congr h)

namespace AimAssistFamilies

variable {p : AimAssistFamilies} (h : p.Canonical)

include h

theorem Canonical.categories :
    p.categories.length < 2 ^ 32 ∧ ∀ c ∈ p.categories, c.1.Canonical := by
  have hfields := h.fields.categories
  rw [dropFamilies, List.length_map] at hfields
  exact ⟨hfields.1, fun c hc => hfields.2 c.1 (List.mem_map_of_mem hc)⟩

theorem Canonical.presets :
    p.presets.length < 2 ^ 32 ∧ ∀ preset ∈ p.presets, preset.1.Canonical := by
  have hfields := h.fields.presets
  rw [dropFamilies, List.length_map] at hfields
  exact ⟨hfields.1, fun preset hpreset => hfields.2 preset.1 (List.mem_map_of_mem hpreset)⟩

theorem Canonical.mergesExclusions :
    ∀ preset ∈ p.dropFamilies.presets, preset.MergesExclusions := by
  intro preset hpreset
  obtain ⟨preset, hmem, rfl⟩ := List.mem_map.mp hpreset
  exact h.exclusions preset hmem

/-- The step to v898 drops the families. -/
theorem dropFamilies_rewrites :
    Rewrites V924ToV898.rewriteCameraAimAssistPresets p.bytes
      (cameraAimAssistPresets.bytes p.dropFamilies) () := by
  rw [cameraAimAssistPresets_bytes h.fields]
  simp only [dropFamilies, arrayBytes_map]
  refine Rewrites.bind (a := ()) ?_ ?_
  · exact passthroughLoop_rewrites h.categories.1 fun c hc =>
      V924ToV898.rewriteCategory_rewrites (h.categories.2 c hc) (h.categoryFamilies c hc)
  · exact passthroughLoop_rewrites h.presets.1 fun preset hpreset =>
      V924ToV898.rewritePreset_rewrites (h.presets.2 preset hpreset)
        (h.presetFamilies preset hpreset)

omit h

/-- Without families, v924 has what the step from v898 makes. -/
theorem bytes_of_noFamilies (hnone : p.NoFamilies) : p.bytes = p.dropFamilies.bytesV924 := by
  have hpriorities : prioritiesType.bytes [] = uvarInt.bytes 0 := arrayType_bytes_nil _
  have hnames : namesType.bytes [] = uvarInt.bytes 0 := arrayType_bytes_nil string
  unfold bytes CameraAimAssistPresets.bytesV924 dropFamilies
  rw [arrayBytes_map, arrayBytes_map]
  refine congrArg₂ _ (arrayBytes_congr fun c hc => ?_) (arrayBytes_congr fun preset hpreset => ?_)
  · rw [hnone.1 c hc, AimAssistCategory.bytesWith, hpriorities]
    rfl
  · rw [hnone.2 preset hpreset, AimAssistPreset.bytesWith, hnames]
    rfl

/-- What v860 has comes back as it is. -/
theorem viaV860_dropFamilies (hmerged : p.OnlyMerged) :
    p.dropFamilies.viaV860 = p.dropFamilies := by
  unfold CameraAimAssistPresets.viaV860 dropFamilies
  simp only [hmerged.1, List.map_nil, List.map_map]
  exact congrArg (CameraAimAssistPresets.mk []) (List.map_congr_left hmerged.2)

end AimAssistFamilies

/-! ### There and back -/

/-- The packet goes to v860 and back: what arrives is a v898 packet with everything v860 keeps, and
the next step of the chain accepts it. -/
def CameraAimAssistPresets.SurvivesV860 (p : CameraAimAssistPresets)
    (user : UserConnection) : Prop :=
  ∃ out,
    PacketHandler.applyAll [V898ToV860.rewriteCameraAimAssistPresets,
      V860ToV898.rewriteCameraAimAssistPresets] (cameraAimAssistPresets.bytes p) user = .ok out ∧
    cameraAimAssistPresets.Parses out p.viaV860 ∧
    V898ToV924.rewriteCameraAimAssistPresets.apply out user = .ok p.viaV860.bytesV924

/-- **A packet without categories survives the way to v860 and back.** -/
theorem cameraAimAssistPresets_survives {p : CameraAimAssistPresets} (h : p.Canonical)
    (hmerge : ∀ preset ∈ p.presets, preset.MergesExclusions) (hcategories : p.categories = [])
    (user : UserConnection) : p.SurvivesV860 user := by
  have hvia := h.viaV860 hmerge
  have hdown := V898ToV860.rewriteCameraAimAssistPresets_apply h hmerge user
  have hup := V860ToV898.rewriteCameraAimAssistPresets_apply h hmerge hcategories user
  refine ⟨cameraAimAssistPresets.bytes p.viaV860, ?_, ?_, ?_⟩
  · rw [applyAll_cons hdown, applyAll_cons hup, applyAll_nil]
  · exact (cameraAimAssistPresets_roundTrips hvia).parses
  · exact V898ToV924.rewriteCameraAimAssistPresets_apply hvia user

/-- A preset with exclusions in all three lists, and no categories. -/
def samplePresets : CameraAimAssistPresets where
  categories := []
  presets := [{
    identifier := "minecraft:aim_assist_default"
    blockExclusions := ["minecraft:barrier"]
    entityExclusions := ["minecraft:arrow", "minecraft:item"]
    blockTagExclusions := ["minecraft:leaves"]
    liquidTargets := ["minecraft:bucket"]
    itemSettings := [("minecraft:bow", "minecraft:ranged")]
    defaultForHands := some "minecraft:empty_hand"
    defaultForItems := none }]

theorem samplePresets_canonical : samplePresets.Canonical where
  categories := by simp [samplePresets]
  presets := by
    refine ⟨by decide, ?_⟩
    intro preset hpreset
    obtain rfl := List.mem_singleton.mp hpreset
    constructor <;> decide

theorem cameraAimAssistPresets_survives_sample :
    samplePresets.SurvivesV860
      { address := "10.0.0.7:50123", clientProtocol := 860, serverProtocol := 898 } :=
  cameraAimAssistPresets_survives samplePresets_canonical
    (by intro preset hpreset
        obtain rfl := List.mem_singleton.mp hpreset
        exact Nat.lt_of_le_of_lt (Nat.le_refl 4) (by decide)) rfl _

/-! ### Room -/

theorem pairType_compacts {α β : Type} {A : FieldType α} {B : FieldType β}
    (hA : Compacts A.write A.read) (hB : Compacts B.write B.read) :
    Compacts (pairType A B).write (pairType A B).read := by
  refine Takes.bind hA fun _ a ha => ?_
  refine Takes.bind hB fun _ b hb => Takes.pure ?_
  rw [List.append_nil, List.length_append]
  exact ha.bind hb

theorem prioritiesType_compacts : Compacts prioritiesType.write prioritiesType.read :=
  arrayType_compacts (pairType_compacts copies_string.compacts intLE_compacts)

theorem namesType_compacts : Compacts namesType.write namesType.read :=
  arrayType_compacts copies_string.compacts

theorem itemSettingsType_compacts : Compacts itemSettingsType.write itemSettingsType.read :=
  arrayType_compacts (pairType_compacts copies_string.compacts copies_string.compacts)

theorem aimAssistCategory_compacts : Compacts aimAssistCategory.write aimAssistCategory.read := by
  have hdefault := optionalType_compacts intLE_compacts
  refine Takes.bind copies_string.compacts fun _ identifier hidentifier => ?_
  refine Takes.bind prioritiesType_compacts fun _ entityPriorities hentity => ?_
  refine Takes.bind prioritiesType_compacts fun _ blockPriorities hblock => ?_
  refine Takes.bind prioritiesType_compacts fun _ blockTagPriorities hblockTag => ?_
  refine Takes.bind hdefault fun _ defaultEntityPriority hdefaultEntity => ?_
  refine Takes.bind hdefault fun _ defaultBlockPriority hdefaultBlock => Takes.pure ?_
  simp only [List.append_nil, List.length_append]
  exact hidentifier.bind <| hentity.bind <| hblock.bind <| hblockTag.bind <|
    hdefaultEntity.bind hdefaultBlock

theorem aimAssistPreset_compacts : Compacts aimAssistPreset.write aimAssistPreset.read := by
  have hdefault := optionalType_compacts copies_string.compacts
  refine Takes.bind copies_string.compacts fun _ identifier hidentifier => ?_
  refine Takes.bind namesType_compacts fun _ blockExclusions hblock => ?_
  refine Takes.bind namesType_compacts fun _ entityExclusions hentity => ?_
  refine Takes.bind namesType_compacts fun _ blockTagExclusions hblockTag => ?_
  refine Takes.bind namesType_compacts fun _ liquidTargets hliquid => ?_
  refine Takes.bind itemSettingsType_compacts fun _ itemSettings hitem => ?_
  refine Takes.bind hdefault fun _ defaultForHands hhands => ?_
  refine Takes.bind hdefault fun _ defaultForItems hitems => Takes.pure ?_
  simp only [List.append_nil, List.length_append]
  exact hidentifier.bind <| hblock.bind <| hentity.bind <| hblockTag.bind <| hliquid.bind <|
    hitem.bind <| hhands.bind hitems

theorem cameraAimAssistPresets_compacts :
    Compacts cameraAimAssistPresets.write cameraAimAssistPresets.read := by
  refine Takes.bind (arrayType_compacts aimAssistCategory_compacts) fun _ categories hc => ?_
  refine Takes.bind (arrayType_compacts aimAssistPreset_compacts) fun _ presets hp => Takes.pure ?_
  rw [List.append_nil, List.length_append]
  exact hc.bind hp

/-- Arrays whose elements differ by `k` bytes each. -/
theorem length_arrayBytes {α : Type} {f g : α → List UInt8} {k : Nat} {xs : List α}
    (h : ∀ x ∈ xs, (f x).length = (g x).length + k) :
    (arrayBytes f xs).length = (arrayBytes g xs).length + k * xs.length := by
  have hflat : (xs.flatMap f).length = (xs.flatMap g).length + k * xs.length := by
    induction xs with
    | nil => rfl
    | cons x xs ih =>
      have hx := h x (List.mem_cons_self ..)
      have hxs := ih fun y hy => h y (List.mem_cons_of_mem _ hy)
      rw [List.flatMap_cons, List.flatMap_cons, List.length_append, List.length_append,
        List.length_cons, Nat.mul_succ]
      omega
  rw [arrayBytes, arrayBytes, List.length_append, List.length_append]
  omega

theorem AimAssistCategory.length_bytes_withoutBlockTags {c : AimAssistCategory}
    (h : c.withoutBlockTags.Canonical) :
    (aimAssistCategory.bytes c.withoutBlockTags).length = c.bytesV860.length + 1 := by
  have hnil : prioritiesType.bytes [] = uvarInt.bytes 0 := arrayType_bytes_nil _
  have hone : (uvarInt.bytes 0).length = 1 := rfl
  rw [aimAssistCategory_bytes h, AimAssistCategory.bytesV860]
  simp only [AimAssistCategory.withoutBlockTags, AimAssistCategory.defaultBytes, hnil,
    List.flatten_cons, List.flatten_nil, List.length_append, List.length_nil, hone]
  omega

theorem AimAssistPreset.length_bytes_merged {p : AimAssistPreset} (h : p.merged.Canonical) :
    (aimAssistPreset.bytes p.merged).length = p.bytesV860.length + 2 := by
  have hnil : namesType.bytes [] = uvarInt.bytes 0 := arrayType_bytes_nil _
  have hone : (uvarInt.bytes 0).length = 1 := rfl
  rw [aimAssistPreset_bytes h, AimAssistPreset.bytesV860]
  simp only [AimAssistPreset.merged, AimAssistPreset.tailBytes, hnil, List.flatten_cons,
    List.flatten_nil, List.length_append, List.length_nil, hone]
  omega

/-- What a v898 packet has more than a v860 one: a count for each category and two for each
preset. -/
theorem CameraAimAssistPresets.length_bytes_viaV860 {p : CameraAimAssistPresets} (h : p.Canonical)
    (hmerge : ∀ preset ∈ p.presets, preset.MergesExclusions) :
    (cameraAimAssistPresets.bytes p.viaV860).length =
      p.bytesV860.length + p.categories.length + 2 * p.presets.length := by
  have hvia := h.viaV860 hmerge
  have hcategory : ∀ c ∈ p.categories,
      (aimAssistCategory.bytes c.withoutBlockTags).length = c.bytesV860.length + 1 := by
    intro c hc
    exact AimAssistCategory.length_bytes_withoutBlockTags
      (hvia.categories.2 _ (List.mem_map_of_mem hc))
  have hpreset : ∀ preset ∈ p.presets,
      (aimAssistPreset.bytes preset.merged).length = preset.bytesV860.length + 2 := by
    intro preset hpreset
    exact AimAssistPreset.length_bytes_merged (hvia.presets.2 _ (List.mem_map_of_mem hpreset))
  rw [cameraAimAssistPresets_bytes hvia, CameraAimAssistPresets.viaV860, arrayBytes_map,
    arrayBytes_map, List.length_append, length_arrayBytes hcategory, length_arrayBytes hpreset,
    CameraAimAssistPresets.bytesV860, List.length_append]
  omega

/-! ### Categories -/

/-- A packet survives only if the step back makes room for the counts that v898 has in addition. -/
theorem CameraAimAssistPresets.SurvivesV860.length_le {p : CameraAimAssistPresets}
    {user : UserConnection} (hs : p.SurvivesV860 user) (h : p.Canonical)
    (hmerge : ∀ preset ∈ p.presets, preset.MergesExclusions) :
    ∃ out, V860ToV898.rewriteCameraAimAssistPresets.apply p.bytesV860 user = .ok out ∧
      p.bytesV860.length + p.categories.length + 2 * p.presets.length ≤ out.length := by
  obtain ⟨out, hall, hparses, _⟩ := hs
  have hdown := V898ToV860.rewriteCameraAimAssistPresets_apply h hmerge user
  rw [applyAll_cons hdown, applyAll_singleton] at hall
  refine ⟨out, hall, ?_⟩
  rw [← CameraAimAssistPresets.length_bytes_viaV860 h hmerge]
  exact hparses.length_le cameraAimAssistPresets_compacts

/-- One category on the v860 wire, with its count in front. -/
theorem CameraAimAssistPresets.bytesV860_single {p : CameraAimAssistPresets}
    {c : AimAssistCategory} (hcategories : p.categories = [c]) :
    p.bytesV860 = uvarInt.bytes 1 ++ (string.bytes c.identifier ++
      (prioritiesType.bytes c.entityPriorities ++ (prioritiesType.bytes c.blockPriorities ++
        (c.defaultBytes ++ arrayBytes AimAssistPreset.bytesV860 p.presets)))) := by
  rw [CameraAimAssistPresets.bytesV860, hcategories]
  simp only [arrayBytes, AimAssistCategory.bytesV860, List.length_singleton, Nat.cast_one,
    List.flatMap_cons, List.flatMap_nil, List.flatten_cons, List.flatten_nil, List.append_assoc,
    List.append_nil]

/-- The step back takes the entity priorities of a category for categories of their own: where there
are none, no list is inserted. -/
theorem V860ToV898.rewriteCameraAimAssistPresets_emptyCategory {p : CameraAimAssistPresets}
    {c : AimAssistCategory} (h : p.Canonical) (hcategories : p.categories = [c])
    (hentity : c.entityPriorities = []) (hblock : c.blockPriorities = []) (user : UserConnection) :
    rewriteCameraAimAssistPresets.apply p.bytesV860 user = .ok p.bytesV860 := by
  have hc := h.categories.2 c (by rw [hcategories]; exact List.mem_singleton_self c)
  have hnil : prioritiesType.bytes [] = uvarInt.bytes 0 := arrayType_bytes_nil _
  -- the two counts of priorities are taken for those of the inner categories and of the presets
  have hcategory : Rewrites rewriteCategory (string.bytes c.identifier ++ uvarInt.bytes 0)
      (string.bytes c.identifier ++ uvarInt.bytes 0) () :=
    (passthroughString_rewrites hc.identifier).bind (passthroughLoop_nil rewriteInnerCategory)
  have hpresets := (passthroughLoop_nil rewritePreset).translates
    (c.defaultBytes ++ arrayBytes AimAssistPreset.bytesV860 p.presets)
  have hloops : Translates rewriteCameraAimAssistPresets _ _ :=
    (passthroughLoop_one hcategory).bind_translates hpresets
  rw [p.bytesV860_single hcategories, hentity, hblock, hnil]
  simp only [List.append_assoc] at hloops
  exact hloops.apply user

/-- **A category without entity and block priorities is lost**: no packet with such a category and
no other survives, whatever its block tag priorities, defaults and presets. -/
theorem cameraAimAssistPresets_emptyCategory {p : CameraAimAssistPresets} {c : AimAssistCategory}
    (h : p.Canonical) (hmerge : ∀ preset ∈ p.presets, preset.MergesExclusions)
    (hcategories : p.categories = [c]) (hentity : c.entityPriorities = [])
    (hblock : c.blockPriorities = []) (user : UserConnection) : ¬ p.SurvivesV860 user := by
  intro hs
  obtain ⟨out, hout, hlen⟩ := hs.length_le h hmerge
  have hup := V860ToV898.rewriteCameraAimAssistPresets_emptyCategory h hcategories hentity hblock
    user
  -- nothing is inserted, and the count of block tag priorities would be needed
  obtain rfl : p.bytesV860 = out := Except.ok.inj (hup.symm.trans hout)
  rw [hcategories, List.length_singleton] at hlen
  omega

/-- What the inner loop makes of an entity priority of zero. -/
theorem V860ToV898.rewriteInnerCategory_zeroPriority {name : String} (h : FitsString name) :
    Rewrites rewriteInnerCategory (string.bytes name ++ intLE.bytes 0)
      (string.bytes name ++ (uvarInt.bytes 0 ++ intLE.bytes 0)) () := by
  have hnone : (optionalType intLE).RoundTrips none := optionalIntLE_roundTrips (by simp)
  have hnil : prioritiesType.bytes [] = uvarInt.bytes 0 := arrayType_bytes_nil _
  have hpriorities := passthroughPriorities_rewrites (by decide : CanonicalPriorities [])
  rw [hnil] at hpriorities
  have hdefaults : Rewrites passthroughDefaultPriorities
      ((optionalType intLE).bytes none ++ ((optionalType intLE).bytes none ++ []))
      ((optionalType intLE).bytes none ++ ((optionalType intLE).bytes none ++ [])) () :=
    Rewrites.passthrough hnone (Rewrites.passthrough hnone (Rewrites.pure ()))
  refine (passthroughString_rewrites h).bind ?_
  -- the four zero bytes of the priority are two counts and two presence bytes
  exact hpriorities.bind <| hpriorities.bind <|
    Rewrites.write (uvarInt_roundTrips (v := 0) (by decide)) hdefaults

/-- A priority of zero is four zero bytes, which the step back can also take for two empty lists and
two absent defaults: such a packet comes back right, by coincidence. -/
theorem V860ToV898.rewriteCameraAimAssistPresets_zeroPriority {p : CameraAimAssistPresets}
    {c : AimAssistCategory} {name : String} (h : p.Canonical) (hcategories : p.categories = [c])
    (hentity : c.entityPriorities = [(name, 0)]) (hblock : c.blockPriorities = [])
    (hpresets : p.presets = []) (user : UserConnection) :
    rewriteCameraAimAssistPresets.apply p.bytesV860 user =
      .ok (cameraAimAssistPresets.bytes p.viaV860) := by
  have hc := h.categories.2 c (by rw [hcategories]; exact List.mem_singleton_self c)
  have hfits : FitsString name := (hc.entityPriorities.2 (name, 0) (by simp [hentity])).1
  have hvalue : intLE.RoundTrips 0 := intLE_roundTrips (by decide)
  have hmerge : ∀ preset ∈ p.presets, preset.MergesExclusions := by simp [hpresets]
  have hone : prioritiesType.bytes [(name, 0)] =
      uvarInt.bytes 1 ++ (string.bytes name ++ intLE.bytes 0) := by
    have hpair : (pairType string intLE).RoundTrips (name, 0) :=
      pairType_roundTrips (string_roundTrips hfits) hvalue
    rw [prioritiesType, arrayType_bytes (by simp) (by simpa using hpair), arrayBytes,
      List.flatMap_singleton, pairType_bytes (string_roundTrips hfits) hvalue]
    rfl
  have hnil : prioritiesType.bytes [] = uvarInt.bytes 0 := arrayType_bytes_nil _
  have hcategory : aimAssistCategory.bytes c.withoutBlockTags =
      [string.bytes c.identifier, prioritiesType.bytes [(name, 0)], prioritiesType.bytes [],
        prioritiesType.bytes [], c.defaultBytes].flatten := by
    have hcanonical := (h.viaV860 hmerge).categories.2 c.withoutBlockTags
      (by simp [CameraAimAssistPresets.viaV860, hcategories])
    rw [aimAssistCategory_bytes hcanonical]
    simp only [AimAssistCategory.withoutBlockTags, AimAssistCategory.defaultBytes, hentity, hblock]
  have hpresetBytes : arrayBytes AimAssistPreset.bytesV860 [] = uvarInt.bytes 0 :=
    List.append_nil _
  have hout : cameraAimAssistPresets.bytes p.viaV860 = uvarInt.bytes 1 ++
      (string.bytes c.identifier ++ (uvarInt.bytes 1 ++ (string.bytes name ++
        (uvarInt.bytes 0 ++ intLE.bytes 0))) ++ (uvarInt.bytes 0 ++
          (c.defaultBytes ++ uvarInt.bytes 0))) := by
    rw [cameraAimAssistPresets_bytes (h.viaV860 hmerge), CameraAimAssistPresets.viaV860,
      hcategories, hpresets]
    -- the zero that the inner loop inserts stands for the one that belongs behind the priorities
    have hshift (bs : List UInt8) :
        intLE.bytes 0 ++ (uvarInt.bytes 0 ++ (uvarInt.bytes 0 ++ bs)) =
          uvarInt.bytes 0 ++ (intLE.bytes 0 ++ (uvarInt.bytes 0 ++ bs)) := rfl
    simp [arrayBytes, hcategory, hone, hnil, hshift]
  have hinner : Rewrites rewriteCategory _ _ () :=
    (passthroughString_rewrites hc.identifier).bind
      (passthroughLoop_one (rewriteInnerCategory_zeroPriority hfits))
  have hloop := (passthroughLoop_nil rewritePreset).translates (c.defaultBytes ++ uvarInt.bytes 0)
  have hloops : Translates rewriteCameraAimAssistPresets _ _ :=
    (passthroughLoop_one hinner).bind_translates hloop
  rw [p.bytesV860_single hcategories, hentity, hblock, hpresets, hone, hnil, hpresetBytes, hout]
  simp only [List.append_assoc] at hloops ⊢
  exact hloops.apply user

/-- A category with nothing but a block tag priority. -/
def sampleCategory : AimAssistCategory where
  identifier := "minecraft:default"
  entityPriorities := []
  blockPriorities := []
  blockTagPriorities := [("minecraft:ores", 5)]
  defaultEntityPriority := none
  defaultBlockPriority := none

def sampleCategories : CameraAimAssistPresets where
  categories := [sampleCategory]
  presets := []

theorem sampleCategories_canonical : sampleCategories.Canonical where
  categories := by
    refine ⟨by decide, ?_⟩
    intro c hc
    obtain rfl := List.mem_singleton.mp hc
    constructor <;> simp [sampleCategory] <;> decide
  presets := by simp [sampleCategories]

/-- The packet that comes back is one count short. -/
theorem cameraAimAssistPresets_lost :
    sampleCategories.Canonical ∧ (∀ preset ∈ sampleCategories.presets, preset.MergesExclusions) ∧
    ¬ sampleCategories.SurvivesV860
      { address := "10.0.0.7:50123", clientProtocol := 860, serverProtocol := 898 } := by
  have hmerge : ∀ preset ∈ sampleCategories.presets, preset.MergesExclusions := by
    simp [sampleCategories]
  exact ⟨sampleCategories_canonical, hmerge,
    cameraAimAssistPresets_emptyCategory sampleCategories_canonical hmerge rfl rfl rfl _⟩

end Endweave
