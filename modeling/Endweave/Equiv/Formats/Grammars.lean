import Endweave.Equiv.Formats
import Endweave.Protocol.Equiv.Animate
import Endweave.Protocol.Equiv.AttributeLayerSync
import Endweave.Protocol.Equiv.AvailableCommands
import Endweave.Protocol.Equiv.BiomeDefinitionList
import Endweave.Protocol.Equiv.BossEvent
import Endweave.Protocol.Equiv.Camera
import Endweave.Protocol.Equiv.CameraAimAssist
import Endweave.Protocol.Equiv.ChunkRequests
import Endweave.Protocol.Equiv.CommandOutput
import Endweave.Protocol.Equiv.DataStore
import Endweave.Protocol.Equiv.DebugDrawer
import Endweave.Protocol.Equiv.ItemStack
import Endweave.Protocol.Equiv.LocatorBar
import Endweave.Protocol.Equiv.ServerboundBlockPos
import Endweave.Protocol.Equiv.Text
import Endweave.Protocol.Packets.Formats

/-!
# The packets with grammars of their own are carried

The steps are those of the results about single handlers, each on its way up and on its way down.
-/

namespace Endweave

open PacketFormat PacketWrapper Wire

variable (uuid5 : String → BitVec 128)

/-! ### Texts and commands -/

theorem TextPacket.carried : ∀ p ∈ registeredProtocols uuid5, TextPacket.format.Carried p := by
  refine carried_registered [V860ToV898.registered, V898ToV860.createProtocol,
    V898ToV924.registered, V924ToV898.createProtocol] rfl rfl ?_
  simp only [List.forall_mem_cons]
  exact ⟨carried_up rfl rfl fun _ hp _ => (V860ToV898.rewriteText_up hp).deliversAll,
    carried_down rfl rfl fun _ hp _ => (V860ToV898.rewriteText_down hp).deliversAll,
    carried_up rfl rfl fun p _ _ => V924ToV898.rewriteText_up p,
    carried_down rfl rfl fun p _ _ => V924ToV898.rewriteText_down p, nofun⟩

theorem TextPacket.client_carried :
    ∀ p ∈ registeredProtocols uuid5, TextPacket.clientFormat.Carried p := by
  refine carried_registered [V860ToV898.registered, V898ToV860.createProtocol,
    V898ToV924.registered, V924ToV898.createProtocol] rfl rfl ?_
  simp only [List.forall_mem_cons]
  exact ⟨carried_down rfl rfl fun _ hp _ => (V860ToV898.rewriteText_down hp).deliversAll,
    carried_up rfl rfl fun _ hp _ => (V860ToV898.rewriteText_up hp).deliversAll,
    carried_down rfl rfl fun p _ _ => V924ToV898.rewriteText_down p,
    carried_up rfl rfl fun p _ _ => V924ToV898.rewriteText_up p, nofun⟩

theorem CommandOutput.carried :
    ∀ p ∈ registeredProtocols uuid5, CommandOutput.format.Carried p := by
  refine carried_registered [V860ToV898.registered, V898ToV860.createProtocol] rfl rfl ?_
  simp only [List.forall_mem_cons]
  exact ⟨carried_up rfl rfl fun p hp _ => hp.upgrade.delivers p.2,
    carried_down rfl rfl fun p hp _ => hp.downgrade.delivers p.2, nofun⟩

theorem AvailableCommands.carried :
    ∀ p ∈ registeredProtocols uuid5, AvailableCommands.format.Carried p := by
  refine carried_registered [V860ToV898.registered, V898ToV860.createProtocol] rfl rfl ?_
  simp only [List.forall_mem_cons]
  exact ⟨carried_up rfl rfl fun _ hp _ => hp.upgrade_rewrites.deliversAll,
    carried_down rfl rfl fun _ hp _ => hp.downgrade_rewrites.deliversAll, nofun⟩

theorem CommandOrigin.CanonicalV898.asPlayer {o : CommandOrigin} (h : o.CanonicalV898) :
    o.asPlayer.Canonical where
  originType := (by decide : (0 : Int) ≤ 0 ∧ (0 : Int) ≤ 15)
  msb := h.msb
  lsb := h.lsb
  requestId := h.requestId
  playerId := (by decide : InInt64 (-1))
  absent _ := rfl

namespace CommandRequest

theorem downgrade_delivers {p : CommandRequest String} (h : p.Canonical) :
    Delivers V860ToV898.rewriteCommandRequest (format.form 1 p) (format.form 0 p) := by
  have hwrite : Rewrites (PacketWrapper.write varInt cloneExtraBlockFilterFix) []
      (varInt.bytes cloneExtraBlockFilterFix) () :=
    write_rewrites (varInt_roundTrips (by decide)).writes
  apply Delivers.passthrough (string_roundTrips h.command)
  apply Delivers.read (commandOriginV898_roundTrips h.origin)
  apply Delivers.write (commandOriginV860_roundTrips h.origin.asPlayer)
  apply Delivers.passthrough (bool_roundTrips p.isInternal)
  rw [← List.append_nil (string.bytes p.version)]
  apply Delivers.read (string_roundTrips h.version)
  exact hwrite.deliversAll

theorem upgrade_delivers {p : CommandRequest Int} (h : p.CanonicalV860) :
    Delivers V898ToV860.rewriteCommandRequest (formatV860.form 0 p) (formatV860.form 1 p) := by
  have horigin := map_rewrites (commandOriginV860_roundTrips h.origin).reads
    (commandOriginV898_roundTrips h.origin.toCanonicalV898).writes
  have hwrite : Rewrites (PacketWrapper.write string "latest") [] (string.bytes "latest") () :=
    write_rewrites (string_roundTrips (by decide)).writes
  apply Delivers.passthrough (string_roundTrips h.command)
  apply horigin.bind_delivers
  apply Delivers.passthrough (bool_roundTrips p.isInternal)
  rw [← List.append_nil (varInt.bytes p.version)]
  apply Delivers.read (varInt_roundTrips h.version)
  exact hwrite.deliversAll

theorem carried : ∀ p ∈ registeredProtocols uuid5, format.Carried p := by
  refine carried_registered [V860ToV898.registered, V898ToV860.createProtocol] rfl rfl ?_
  simp only [List.forall_mem_cons]
  have hnot : ¬ (898 : Int) ≤ 860 := by decide
  exact ⟨carried_down rfl rfl fun _ hp _ => downgrade_delivers hp,
    carried_up rfl rfl fun _ _ hsince => absurd hsince hnot, nofun⟩

theorem carriedV860 : ∀ p ∈ registeredProtocols uuid5, formatV860.Carried p := by
  refine carried_registered [V860ToV898.registered, V898ToV860.createProtocol] rfl rfl ?_
  simp only [List.forall_mem_cons]
  have hnot : ¬ (898 : Int) ≤ 860 := by decide
  exact ⟨carried_down rfl rfl fun _ _ hupTo => absurd hupTo hnot,
    carried_up rfl rfl fun _ hp _ => upgrade_delivers hp, nofun⟩

end CommandRequest

/-! ### Data stores -/

theorem DataStoreAction.carried :
    ∀ p ∈ registeredProtocols uuid5, DataStoreAction.format.Carried p := by
  have happend := appendPathUpdateCount_rewrites
  have hstrip := stripPathUpdateCount_rewrites
  have hdepth : ∀ p, DataStoreAction.format.Canonical p →
      ∀ action ∈ p.1, action.depth ≤ recursionLimit := fun p hp action haction =>
    (hp.2 action haction).trans (by decide)
  refine carried_registered [V898ToV860.createProtocol, V898ToV924.registered,
    V924ToV898.createProtocol] rfl rfl ?_
  simp only [List.forall_mem_cons]
  refine ⟨carried_of_cancelled rfl rfl,
    carried_up rfl rfl fun p hp _ => ?_,
    carried_down rfl rfl fun p hp _ => ?_, nofun⟩
  · exact (passthroughDataStoreActions_rewrites happend hp.1 (hdepth p hp)).delivers p.2
  · exact (passthroughDataStoreActions_rewrites hstrip hp.1 (hdepth p hp)).delivers p.2

theorem PropertyUpdate.carried :
    ∀ p ∈ registeredProtocols uuid5, PropertyUpdate.format.Carried p := by
  have happend := appendPathUpdateCount_rewrites
  have hstrip := stripPathUpdateCount_rewrites
  refine carried_registered [V860ToV898.registered, V898ToV924.registered,
    V924ToV898.createProtocol] rfl rfl ?_
  simp only [List.forall_mem_cons]
  refine ⟨carried_of_cancelled rfl rfl,
    carried_down rfl rfl fun p hp _ => ?_,
    carried_up rfl rfl fun p hp _ => ?_, nofun⟩
  · exact (passthroughPropertyUpdate_rewrites hstrip hp).delivers p.2
  · exact (passthroughPropertyUpdate_rewrites happend hp).delivers p.2

/-! ### Biomes and debug shapes -/

theorem BiomeDefinitionList.carried :
    ∀ p ∈ registeredProtocols uuid5, BiomeDefinitionList.format.Carried p := by
  refine carried_registered [V898ToV924.registered, V924ToV898.createProtocol] rfl rfl ?_
  simp only [List.forall_mem_cons]
  refine ⟨carried_up rfl rfl fun p hp hsince => ?_,
    carried_down rfl rfl fun p hp _ => (CanonicalV924.downgrade hp).delivers p.2, nofun⟩
  have hupgrade := CanonicalV924.upgrade hp
  rw [of_ite_le hsince rfl] at hupgrade
  exact hupgrade.delivers p.2

/-- The step between v944 and v975 cancels the packet. -/
theorem DebugDrawer.carried : ∀ p ∈ registeredProtocols uuid5, DebugDrawer.format.Carried p := by
  refine carried_registered [V898ToV924.registered, V924ToV898.createProtocol,
    V944ToV975.registered uuid5] rfl rfl ?_
  simp only [List.forall_mem_cons]
  refine ⟨carried_up rfl rfl fun p hp hsince => ?_,
    carried_down rfl rfl fun p hp _ => (CanonicalV924.downgrade hp).delivers p.2,
    carried_of_cancelled rfl rfl, nofun⟩
  have hupgrade := CanonicalV924.upgrade hp
  rw [of_ite_le hsince rfl] at hupgrade
  exact hupgrade.delivers p.2

/-! ### Animations and boss bars -/

namespace AnimateV898

variable {p : AnimateV898}

theorem animateV860_bytes_toV860 (h : p.Canonical) :
    animateV860.bytes p.toV860 = varInt.bytes p.action ++ (uvarInt64.bytes p.targetRuntimeId ++
      (floatLE.bytes p.data ++ [])) := by
  have hwrites : Writes (animateV860.write p.toV860) _ :=
    (varInt_roundTrips h.action.inInt32).writes.bind <|
      (uvarInt64_roundTrips h.targetRuntimeId).writes.bind <|
        (floatLE_roundTrips p.data).writes.bind Writes.pure
  exact hwrites.written

theorem upgrade_delivers (h : p.Canonical) (hrows : ¬ Rows p.action)
    (hswing : p.swingSource = none) :
    Delivers (V860ToV898.rewriteAnimate .clientbound) (format.form 0 p) (format.form 1 p) := by
  have hstrip : Rewrites (V860ToV898.stripRowingTime p.action) [] [] () := by
    rw [V860ToV898.stripRowingTime, if_neg (by exact hrows)]
    exact Rewrites.pure ()
  have hsource : Rewrites (PacketWrapper.write (optionalType string) none) []
      ((optionalType string).bytes p.swingSource) () :=
    hswing ▸ write_rewrites (optionalString_roundTrips h.swingSource).writes
  have hall : Rewrites (V860ToV898.rewriteAnimate .clientbound) (animateV860.bytes p.toV860)
      (animateV898.bytes p) () := by
    rw [animateV860_bytes_toV860 h, animateV898_bytes h]
    apply Rewrites.read (varInt_roundTrips h.action.inInt32)
    apply Rewrites.write (byte_roundTrips h.action)
    apply Rewrites.passthrough (uvarInt64_roundTrips h.targetRuntimeId)
    apply Rewrites.passthrough (floatLE_roundTrips p.data)
    exact hstrip.readThen hsource
  exact hall.deliversAll

theorem downgrade_delivers (h : p.Canonical) :
    Delivers (V860ToV898.rewriteAnimate .serverbound) (format.form 1 p) (format.form 0 p) := by
  have hsource := (read_rewrites (optionalString_roundTrips h.swingSource).reads).last
    (k := fun _ => pure ()) rfl
  have hall : Rewrites (V860ToV898.rewriteAnimate .serverbound) (animateV898.bytes p)
      (animateV860.bytes p.toV860) () := by
    rw [animateV860_bytes_toV860 h, animateV898_bytes h]
    apply Rewrites.read (byte_roundTrips h.action)
    apply Rewrites.write (varInt_roundTrips h.action.inInt32)
    apply Rewrites.passthrough (uvarInt64_roundTrips h.targetRuntimeId)
    apply Rewrites.passthrough (floatLE_roundTrips p.data)
    exact hsource
  exact hall.deliversAll

theorem carried : ∀ p ∈ registeredProtocols uuid5, format.Carried p := by
  refine carried_registered [V860ToV898.registered, V898ToV860.createProtocol] rfl rfl ?_
  simp only [List.forall_mem_cons]
  refine ⟨carried_up rfl rfl fun p hp hsince => ?_,
    carried_down rfl rfl fun p hp _ => ?_, nofun⟩
  · exact upgrade_delivers hp.1 hp.2 (of_ite_le hsince rfl)
  · exact downgrade_delivers hp.1

theorem client_carried : ∀ p ∈ registeredProtocols uuid5, clientFormat.Carried p := by
  refine carried_registered [V860ToV898.registered, V898ToV860.createProtocol] rfl rfl ?_
  simp only [List.forall_mem_cons]
  refine ⟨carried_down rfl rfl fun p hp _ => ?_,
    carried_up rfl rfl fun p hp hsince => ?_, nofun⟩
  · exact downgrade_delivers hp.1
  · exact upgrade_delivers hp.1 hp.2 (of_ite_le hsince rfl)

end AnimateV898

theorem BossEvent.carried : ∀ p ∈ registeredProtocols uuid5, BossEvent.format.Carried p := by
  refine carried_registered [V975ToV1001.createProtocol] rfl rfl ?_
  simp only [List.forall_mem_cons]
  exact ⟨carried_up rfl rfl fun _ hp _ => Canonical.flattens_delivers hp, nofun⟩

theorem BossEvent.client_carried :
    ∀ p ∈ registeredProtocols uuid5, BossEvent.clientFormat.Carried p := by
  refine carried_registered [V975ToV1001.createProtocol] rfl rfl ?_
  simp only [List.forall_mem_cons]
  exact ⟨carried_down rfl rfl fun _ hp _ => Canonical.unflattens_delivers hp, nofun⟩

/-! ### Cameras -/

namespace SplineInstruction

variable {s : SplineInstruction}

theorem CanonicalV944.canonicalV924 (h : s.CanonicalV944) {version : Int} (hs : s.since ≤ version)
    (hversion : version < 944) : s.CanonicalV924 := by
  unfold since at hs
  split_ifs at hs with hnone heasings
  · exact { h with noIdentifier := hnone.1, noFlag := hnone.2 }
  · exact { h with noIdentifier := hnone.1, noFlag := hnone.2 }
  · omega

theorem CanonicalV944.canonicalV898 (h : s.CanonicalV944) {version : Int} (hs : s.since ≤ version)
    (hversion : version < 924) : s.CanonicalV898 := by
  have hv924 := h.canonicalV924 hs (by omega)
  unfold since at hs
  split_ifs at hs with hnone heasings
  · exact { hv924 with progressEasings := heasings.1, rotationEasings := heasings.2 }
  · omega
  · omega

end SplineInstruction

theorem CameraInstruction.carried :
    ∀ p ∈ registeredProtocols uuid5, cameraInstructionFormat.Carried p := by
  have hspline : ∀ {p : CameraInstruction} {s suf version}, p.spline = some s →
      cameraInstructionFormat.since (p, suf) ≤ version → s.since ≤ version := by
    intro p s suf version hs hsince
    have hspline : (p.spline.map SplineInstruction.since).getD 859 ≤ version := hsince
    rwa [hs] at hspline
  -- a packet goes to the next version with its spline
  have hdelivers : ∀ {p : CameraInstruction} {old new : FieldType SplineInstruction},
      p.Canonical → (∀ s, p.spline = some s →
        ∃ s', Converts (PacketWrapper.map old new) (old.write s) (new.write s) s') → ∀ suf,
      Delivers (mapCameraInstruction old new) ((cameraInstructionType old).bytes p ++ suf)
        ((cameraInstructionType new).bytes p ++ suf) := fun h hmap suf =>
    (mapCameraInstruction_converts h hmap).rewrites.delivers suf
  refine carried_registered [V898ToV924.registered, V924ToV898.createProtocol,
    V924ToV944.registered, V944ToV924.registered] rfl rfl ?_
  simp only [List.forall_mem_cons]
  refine ⟨carried_up rfl rfl fun p hp hsince => ?_, carried_down rfl rfl fun p hp _ => ?_,
    carried_up rfl rfl fun p hp hsince => ?_, carried_down rfl rfl fun p hp _ => ?_, nofun⟩
  · exact hdelivers hp.1 (fun s hs => ⟨_,
      ((hp.2 s hs).canonicalV898 (hspline hs hsince) (by decide)).upgradeV924⟩) p.2
  · exact hdelivers hp.1 (fun s hs => ⟨_, (hp.2 s hs).downgradeV898⟩) p.2
  · exact hdelivers hp.1 (fun s hs => ⟨_,
      ((hp.2 s hs).canonicalV924 (hspline hs hsince) (by decide)).upgradeV944⟩) p.2
  · exact hdelivers hp.1 (fun s hs => ⟨_, (hp.2 s hs).downgradeV924⟩) p.2

/-- The step from v924 to v898 cancels the packet. -/
theorem CameraSpline.carried :
    ∀ p ∈ registeredProtocols uuid5, cameraSplineFormat.Carried p := by
  refine carried_registered [V924ToV898.createProtocol, V924ToV944.registered,
    V944ToV924.registered] rfl rfl ?_
  simp only [List.forall_mem_cons]
  refine ⟨carried_of_cancelled rfl rfl, carried_up rfl rfl fun p hp hsince => ?_,
    carried_down rfl rfl fun p hp _ => ?_, nofun⟩
  · have hnone := of_ite_le hsince rfl
    have hconverts : Converts (mapCameraSpline splineInstructionV924 splineInstructionV944) _ _ _ :=
      mapCameraSpline_converts_of_map hp.1 fun spline hs => by
        obtain ⟨hname, hcanonical⟩ := hp.2 spline hs
        obtain ⟨noIdentifier, noFlag⟩ := hnone spline hs
        exact ⟨hname, _, SplineInstruction.CanonicalV924.upgradeV944
          { hcanonical with noIdentifier, noFlag }⟩
    exact hconverts.rewrites.delivers p.2
  · have hconverts : Converts (mapCameraSpline splineInstructionV944 splineInstructionV924) _ _ _ :=
      mapCameraSpline_converts_of_map hp.1 fun spline hs =>
        ⟨(hp.2 spline hs).1, _, (hp.2 spline hs).2.downgradeV924⟩
    exact hconverts.rewrites.delivers p.2

theorem AimAssistFamilies.carried :
    ∀ p ∈ registeredProtocols uuid5, AimAssistFamilies.format.Carried p := by
  refine carried_registered [V860ToV898.registered, V898ToV860.createProtocol,
    V898ToV924.registered, V924ToV898.createProtocol] rfl rfl ?_
  simp only [List.forall_mem_cons]
  refine ⟨carried_up rfl rfl fun p hp hsince => ?_,
    carried_down rfl rfl fun p hp _ => ?_,
    carried_up rfl rfl fun p hp hsince => ?_,
    carried_down rfl rfl fun p hp _ => ?_, List.forall_mem_nil _⟩
  · have honly : p.1.OnlyMerged := of_ite_le (max_le_iff.mp hsince).1 rfl
    have hcategories : p.1.dropFamilies.categories = [] := congrArg (List.map Prod.fst) honly.1
    have hrewrites := V860ToV898.rewriteCameraAimAssistPresets_rewrites hp.fields
      hp.mergesExclusions hcategories
    rw [viaV860_dropFamilies honly] at hrewrites
    exact hrewrites.delivers p.2
  · exact (V898ToV860.rewriteCameraAimAssistPresets_rewrites hp.fields
      hp.mergesExclusions).delivers p.2
  · have hnone : p.1.NoFamilies := of_ite_le (max_le_iff.mp hsince).2 rfl
    have hrewrites := V898ToV924.rewriteCameraAimAssistPresets_rewrites hp.fields
    rw [← bytes_of_noFamilies hnone] at hrewrites
    exact hrewrites.delivers p.2
  · exact (dropFamilies_rewrites hp).delivers p.2

/-! ### Waypoints and attribute layers -/

/-- The step from v944 to v924 cancels the packet. -/
theorem Waypoint.carried : ∀ p ∈ registeredProtocols uuid5, Waypoint.format.Carried p := by
  refine carried_registered [V944ToV924.registered, V944ToV975.registered uuid5] rfl rfl ?_
  simp only [List.forall_mem_cons]
  refine ⟨carried_of_cancelled rfl rfl, carried_up rfl rfl fun p hp _ => ?_, nofun⟩
  have hconverts : Converts V944ToV975.rewriteLocatorBar (locatorBarV944.write p.1)
      (locatorBarV975.write (p.1.map toV975)) () :=
    converts_passthroughLoop hp.1 fun waypoint hwaypoint =>
      Canonical.converts (hp.2 waypoint hwaypoint)
  exact hconverts.rewrites.delivers p.2

theorem AttributeLayerSync.carried :
    ∀ p ∈ registeredProtocols uuid5, AttributeLayerSync.format.Carried p := by
  refine carried_registered [V944ToV924.registered, V944ToV975.registered uuid5] rfl rfl ?_
  simp only [List.forall_mem_cons]
  refine ⟨carried_of_cancelled rfl rfl, carried_up rfl rfl fun p hp _ => ?_, nofun⟩
  have hsettings : p.1.kind = .updateLayers ∨ p.1.kind = .updateSettings := by
    cases p.1 with
    | updateLayers layers => exact Or.inl rfl
    | updateSettings header => exact Or.inr rfl
    | updateEnvironment payload => exact payload.elim
    | removeEnvironment payload => exact payload.elim
  exact (Canonical.converts hp hsettings).rewrites.delivers p.2

/-! ### Block positions -/

theorem BlockPosPacket.carried (k : BlockPosPacket) :
    ∀ p ∈ registeredProtocols uuid5, k.format.Carried p := by
  have hup : ∀ p : k.Data × List UInt8, k.Canonical p.1 →
      Delivers k.upgradeHandler (k.format.form 0 p) (k.format.form 1 p) := fun p hp =>
    (k.upgradeHandler_converts hp).rewrites.delivers p.2
  have hdown : ∀ p : k.Data × List UInt8, k.Canonical p.1 →
      Delivers k.downgradeHandler (k.format.form 1 p) (k.format.form 0 p) := fun p hp =>
    (k.downgradeHandler_converts hp).rewrites.delivers p.2
  cases k with
  | playSound =>
    refine carried_registered [V924ToV944.registered, V944ToV924.registered,
      V944ToV975.registered uuid5] rfl rfl ?_
    simp only [List.forall_mem_cons]
    refine ⟨carried_up rfl rfl fun p hp _ => hup p hp,
      carried_down rfl rfl fun p hp _ => hdown p hp,
      carried_up rfl rfl fun p hp _ => ?_, nofun⟩
    exact passthroughAll_write_delivers (write_rewrites (bool_roundTrips false).writes) _
  | _ =>
    refine carried_registered [V924ToV944.registered, V944ToV924.registered] rfl rfl ?_
    simp only [List.forall_mem_cons]
    exact ⟨carried_up rfl rfl fun p hp _ => hup p hp,
      carried_down rfl rfl fun p hp _ => hdown p hp, nofun⟩

/-- Every kind but one, which v1001 has in a grammar of its own. -/
theorem ClientBlockPosPacket.carried {k : ClientBlockPosPacket} (hk : k ≠ inventoryTransaction) :
    ∀ p ∈ registeredProtocols uuid5, k.format.Carried p := by
  have hcooldown : ∀ d, k.cooldownState d = [] := fun d => by
    cases k with
    | inventoryTransaction => exact absurd rfl hk
    | _ => rfl
  have hup : ∀ p : k.Data × List UInt8, k.Canonical p.1 →
      Delivers k.upgradeHandler (k.format.form 0 p) (k.format.form 1 p) := fun p hp => by
    have hupgrade := k.upgradeHandler_rewrites hp
    rw [hcooldown, List.append_nil] at hupgrade
    exact hupgrade.delivers p.2
  have hdown : ∀ p : k.Data × List UInt8, k.Canonical p.1 →
      Delivers k.downgradeHandler (k.format.form 1 p) (k.format.form 0 p) := fun p hp => by
    have hdowngrade := k.downgradeHandler_rewrites hp
    rw [hcooldown, List.append_nil] at hdowngrade
    exact hdowngrade.delivers p.2
  cases k with
  | inventoryTransaction => exact absurd rfl hk
  | _ =>
    refine carried_registered [V924ToV944.registered, V944ToV924.registered] rfl rfl ?_
    simp only [List.forall_mem_cons]
    exact ⟨carried_down rfl rfl fun p hp _ => hdown p hp,
      carried_up rfl rfl fun p hp _ => hup p hp, nofun⟩

/-! ### Transactions -/

namespace V975ToV1001

theorem TransactionData.Canonical.body {data : TransactionData} (h : data.Canonical) :
    data.body.Canonical := by
  cases data with
  | plain transactionType isPlain => exact h
  | useItem data =>
    exact
      { h with
        triggerType := h.triggerType.inUInt32
        blockFace := h.blockFace.inInt32
        heldItem := h.heldItem.canonicalV944
        clientPrediction := h.clientPrediction.inUInt32 }
  | useItemOnEntity _ => exact (by decide : InUInt32 3)
  | releaseItem _ => exact (by decide : InUInt32 4)

theorem TransactionData.Canonical.cooldownState {data : TransactionData} (h : data.Canonical) :
    InByte data.cooldownState := by
  cases data with
  | useItem data => exact h.clientCooldownState
  | _ => exact (by decide : InByte 0)

/-- v975 has the cooldown state in front of what else there is. -/
theorem TransactionData.bytesV975_eq (data : TransactionData) :
    data.bytesV975 = data.body.bytes blockPos ++
      data.body.behind (byte.bytes data.cooldownState) ++ data.rest := by
  cases data with
  | plain transactionType isPlain => rfl
  | useItem data =>
    simp only [bytesV975, UseItemData.bytesV975, body, TransactionBody.bytes, ItemUse.bytes,
      TransactionBody.behind, cooldownState, rest, List.flatten_cons, List.flatten_nil,
      List.append_assoc]
  | useItemOnEntity data => exact (List.nil_append _).symm
  | releaseItem data => exact (List.nil_append _).symm

namespace InventoryTransaction

variable {p : InventoryTransaction}

theorem Canonical.toItemTransaction (h : p.Canonical) : p.toItemTransaction.Canonical where
  legacyRequestId := h.legacyRequestId
  legacySlots := h.legacySlots
  actions := ⟨h.actions.1, fun action haction => (h.actions.2 action haction).canonicalV944⟩
  body := h.data.body

theorem bytesV975_eq (p : InventoryTransaction) :
    p.bytesV975 = p.toItemTransaction.bytes blockPos ++
      p.data.body.behind (byte.bytes p.data.cooldownState) ++ p.data.rest := by
  have htype : p.toItemTransaction.body.transactionType = p.data.transactionType := by
    rw [toItemTransaction]
    cases p.data <;> rfl
  simp only [bytesV975, TransactionData.bytesV975_eq, ItemTransaction.bytes, htype,
    List.flatten_cons, List.flatten_nil, List.append_assoc, List.append_nil]
  rfl

/-- The step from v924 to v944 strips the cooldown state, whatever it is. -/
theorem Canonical.stripped (h : p.Canonical) :
    Delivers V924ToV944.rewriteInventoryTransaction p.bytesV975 p.bytesV924 := by
  have hstrip : Rewrites V924ToV944.stripCooldownState (byte.bytes p.data.cooldownState) [] () :=
    (read_rewrites (byte_roundTrips h.data.cooldownState).reads).last rfl
  have hmap := mapInventoryTransaction_rewrites blockPos_exact networkBlockPos_exact hstrip
    h.toItemTransaction
  rw [TransactionBody.behind_nil, List.append_nil] at hmap
  rw [bytesV975_eq]
  exact hmap.delivers p.data.rest

/-- The step from v944 to v924 writes the cooldown state 0. -/
theorem Canonical.extended (h : p.Canonical) (hcooldown : p.data.cooldownState = 0) :
    Delivers V944ToV924.rewriteInventoryTransaction p.bytesV924 p.bytesV975 := by
  have hmap := mapInventoryTransaction_rewrites networkBlockPos_exact blockPos_exact
    ClientBlockPosPacket.addCooldownState_rewrites h.toItemTransaction
  have hzero : byte.bytes 0 = [0] := rfl
  rw [TransactionBody.behind_nil, List.append_nil] at hmap
  rw [bytesV975_eq, hcooldown, hzero]
  exact hmap.delivers p.data.rest

theorem carried : ∀ p ∈ registeredProtocols uuid5, format.Carried p := by
  refine carried_registered [V924ToV944.registered, V944ToV924.registered,
    V975ToV1001.createProtocol] rfl rfl ?_
  simp only [List.forall_mem_cons]
  exact ⟨carried_down rfl rfl fun _ hp _ => Canonical.stripped hp,
    carried_up rfl rfl fun _ hp hsince => Canonical.extended hp (of_ite_le hsince rfl),
    carried_down rfl rfl fun _ hp _ => (rewriteInventoryTransaction_rewrites hp).deliversAll, nofun⟩

end InventoryTransaction

end V975ToV1001

/-- The step to v1001 is the only one that touches the transactions of the server. -/
theorem V975ToV1001.InventoryTransaction.server_carried :
    ∀ p ∈ registeredProtocols uuid5, serverFormat.Carried p := by
  refine carried_registered [V975ToV1001.createProtocol] rfl rfl ?_
  rw [List.forall_mem_singleton]
  exact carried_up rfl rfl fun p hp _ =>
    (rewriteInventoryTransactionClientbound_rewrites hp.1).deliversAll

/-! ### Items -/

theorem MobEquipment.carried : ∀ p ∈ registeredProtocols uuid5, MobEquipment.format.Carried p := by
  refine carried_registered [V944ToV975.registered uuid5] rfl rfl ?_
  simp only [List.forall_mem_cons]
  exact ⟨carried_up rfl rfl fun p hp _ =>
    (rewriteMobEquipment_clientbound hp).rewrites.delivers p.2, nofun⟩

theorem MobEquipment.client_carried :
    ∀ p ∈ registeredProtocols uuid5, MobEquipment.clientFormat.Carried p := by
  refine carried_registered [V944ToV975.registered uuid5] rfl rfl ?_
  simp only [List.forall_mem_cons]
  exact ⟨carried_down rfl rfl fun p hp _ =>
    (rewriteMobEquipment_serverbound hp).rewrites.delivers p.2, nofun⟩

theorem InventorySlotV944.carried :
    ∀ p ∈ registeredProtocols uuid5, InventorySlotV944.format.Carried p := by
  refine carried_registered [V944ToV975.registered uuid5] rfl rfl ?_
  simp only [List.forall_mem_cons]
  exact ⟨carried_up rfl rfl fun p hp _ =>
    (rewriteInventorySlot_converts hp).rewrites.delivers p.2, nofun⟩

theorem InventoryContent.carried :
    ∀ p ∈ registeredProtocols uuid5, InventoryContent.format.Carried p := by
  refine carried_registered [V975ToV1001.createProtocol] rfl rfl ?_
  simp only [List.forall_mem_cons]
  exact ⟨carried_up rfl rfl fun p hp _ =>
    (rewriteInventoryContent_converts hp).rewrites.delivers p.2, nofun⟩

theorem MobArmourEquipment.carried :
    ∀ p ∈ registeredProtocols uuid5, MobArmourEquipment.format.Carried p := by
  refine carried_registered [V975ToV1001.createProtocol] rfl rfl ?_
  simp only [List.forall_mem_cons]
  exact ⟨carried_up rfl rfl fun p hp _ =>
    (rewriteMobArmourEquipment_converts hp).rewrites.delivers p.2, nofun⟩

/-! ### Requests of the client -/

theorem SubChunkRequest.carried :
    ∀ p ∈ registeredProtocols uuid5, SubChunkRequest.format.Carried p := by
  refine carried_registered [V975ToV1001.createProtocol] rfl rfl ?_
  simp only [List.forall_mem_cons]
  exact ⟨carried_down rfl rfl fun p hp _ => (Canonical.reframed hp).delivers p.2, nofun⟩

theorem ClientCacheBlobStatus.carried :
    ∀ p ∈ registeredProtocols uuid5, ClientCacheBlobStatus.format.Carried p := by
  refine carried_registered [V975ToV1001.createProtocol] rfl rfl ?_
  simp only [List.forall_mem_cons]
  exact ⟨carried_down rfl rfl fun p hp _ => (Canonical.reframed hp).delivers p.2, nofun⟩

end Endweave
