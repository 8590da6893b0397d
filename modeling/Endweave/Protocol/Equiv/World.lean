import Endweave.Codec.Equiv.Wrapper
import Endweave.Protocol.Packets.World

/-!
# Correctness of the handlers of diagnostics, graphics, voxel shapes, input locks and chunks

Each handler turns the packet of one version into that of its neighbour (`_delivers`).
-/

namespace Endweave

open Wire PacketWrapper

/-! ### ServerboundDiagnostics -/

theorem passthroughAverages_rewrites {averages : List UInt32} (h : averages.length = 9) :
    Rewrites passthroughAverages (averages.flatMap floatLE.bytes) (averages.flatMap floatLE.bytes)
      () := by
  have hfloats : Rewrites (Wire.repeatM (discard (passthrough floatLE)) averages.length)
      (averages.flatMap floatLE.bytes) (averages.flatMap floatLE.bytes) () :=
    Rewrites.repeatM fun v _ => (passthrough_rewrites (floatLE_roundTrips v)).discard
  rwa [h] at hfloats

namespace Diagnostics

variable {p : Diagnostics}

theorem upgrade_delivers (h : p.Canonical) (hdefault : p.memoryCategories = []) :
    Delivers V924ToV898.rewriteDiagnostics (format.form 0 p) (format.form 1 p) := by
  have hcount := write_rewrites (uvarInt_roundTrips (v := 0) (by decide)).writes
  have hall : Rewrites V924ToV898.rewriteDiagnostics (p.averages.flatMap floatLE.bytes ++ [])
      (p.averages.flatMap floatLE.bytes ++ uvarInt.bytes 0) () :=
    (passthroughAverages_rewrites h.averages).bind hcount
  rw [List.append_nil] at hall
  show Delivers _ _ (_ ++ arrayBytes MemoryCategory.bytes p.memoryCategories)
  rw [hdefault]
  exact hall.deliversAll

theorem downgrade_delivers (h : p.Canonical) :
    Delivers V898ToV924.rewriteDiagnostics (format.form 1 p) (format.form 0 p) := by
  have hall : Delivers V898ToV924.rewriteDiagnostics _
      (p.averages.flatMap floatLE.bytes ++ []) :=
    (passthroughAverages_rewrites h.averages).bind_delivers
      (dropRest_delivers (arrayBytes MemoryCategory.bytes p.memoryCategories))
  rwa [List.append_nil] at hall

end Diagnostics

namespace TimedDiagnostics

open V975ToV1001

variable {p : TimedDiagnostics}

theorem passthroughMemoryCategory_rewrites {c : MemoryCategory} (h : c.Canonical) :
    Rewrites passthroughMemoryCategory c.bytes c.bytes () := by
  apply Rewrites.passthrough (byte_roundTrips h.category)
  exact (passthrough_rewrites (int64LE_roundTrips h.currentBytes)).last rfl

theorem passthroughEntityTiming_rewrites {t : EntityTiming} (h : t.Canonical) :
    Rewrites passthroughEntityTiming t.bytes t.bytes () := by
  apply Rewrites.passthrough (string_roundTrips h.displayName)
  apply Rewrites.passthrough (string_roundTrips h.entity)
  apply Rewrites.passthrough (int64LE_roundTrips h.time)
  exact (passthrough_rewrites (byte_roundTrips h.percent)).last rfl

theorem passthroughSystemTiming_rewrites {t : SystemTiming} (h : t.Canonical) :
    Rewrites passthroughSystemTiming t.bytes t.bytes () := by
  apply Rewrites.passthrough (string_roundTrips h.displayName)
  apply Rewrites.passthrough (int64LE_roundTrips h.systemIndex)
  apply Rewrites.passthrough (int64LE_roundTrips h.time)
  exact (passthrough_rewrites (byte_roundTrips h.percent)).last rfl

theorem downgrade_delivers (h : p.Canonical) :
    Delivers rewriteDiagnostics (format.form 1 p) (format.form 0 p) := by
  have haverages := passthroughAverages_rewrites h.averages
  have hmemory := passthroughLoop_rewrites h.memoryCount fun c hc =>
    passthroughMemoryCategory_rewrites (h.memoryCategories c hc)
  have hentities := passthroughLoop_rewrites h.entityCount fun t ht =>
    passthroughEntityTiming_rewrites (h.entityTimings t ht)
  have hsystems := passthroughLoop_rewrites h.systemCount fun t ht =>
    passthroughSystemTiming_rewrites (h.systemTimings t ht)
  have hall : Delivers rewriteDiagnostics _ _ := haverages.bind_delivers
    (hmemory.bind_delivers (hentities.bind_delivers
      (hsystems.bind_delivers (dropRest_delivers p.whiskerScopes))))
  show Delivers _ (p.fields ++ p.whiskerScopes) p.fields
  simp only [fields, List.append_assoc]
  rwa [List.append_nil] at hall

end TimedDiagnostics

/-! ### GraphicsParameterOverride -/

namespace GraphicsParameterOverride

variable {p : GraphicsParameterOverride}

theorem keyframes_rewrites (h : p.keyframes.length < 2 ^ 32) :
    Rewrites (passthroughLoop passthroughKeyframe) (arrayBytes Keyframe.bytes p.keyframes)
      (arrayBytes Keyframe.bytes p.keyframes) () :=
  passthroughLoop_rewrites h fun k _ => by
    apply Rewrites.passthrough (floatLE_roundTrips k.floatValue)
    exact (passthrough_rewrites (vec3_roundTrips k.vec3Value)).last rfl

theorem upgrade_delivers (h : p.keyframes.length < 2 ^ 32)
    (hdefault : p.floatValue = none ∧ p.vec3Value = none) :
    Delivers V898ToV924.rewriteGraphicsParameterOverride (format.form 0 p) (format.form 1 p) := by
  have hfloat := write_rewrites (optionalFloat_roundTrips none).writes
  have hvec3 := write_rewrites (optionalVec3_roundTrips none).writes
  show Delivers _ _ (_ ++ ((optionalType floatLE).bytes p.floatValue ++
    ((optionalType vec3).bytes p.vec3Value ++ p.rest)))
  rw [hdefault.1, hdefault.2]
  exact (keyframes_rewrites h).bind_delivers (hfloat.bind_delivers (hvec3.delivers p.rest))

theorem downgrade_delivers (h : p.keyframes.length < 2 ^ 32) :
    Delivers V924ToV898.rewriteGraphicsParameterOverride (format.form 1 p) (format.form 0 p) := by
  apply (keyframes_rewrites h).bind_delivers
  apply Delivers.read (optionalFloat_roundTrips p.floatValue)
  apply Delivers.read (optionalVec3_roundTrips p.vec3Value)
  exact Delivers.done p.rest

end GraphicsParameterOverride

/-! ### VoxelShapes -/

namespace VoxelShapes

variable {p : VoxelShapes}

theorem upgrade_delivers (hdefault : p.customShapeCount = 0) :
    Delivers V924ToV944.rewriteVoxelShapes (format.form 0 p) (format.form 1 p) := by
  have hcount := write_rewrites (ushortLE_roundTrips (v := 0) (by decide)).writes
  show Delivers _ _ (_ ++ ushortLE.bytes p.customShapeCount)
  rw [hdefault]
  exact passthroughAll_write_delivers hcount p.shapes

/-- The last two bytes are the count, whatever comes before. -/
theorem downgrade_delivers (h : InUInt16 p.customShapeCount) :
    Delivers V944ToV924.rewriteVoxelShapes (format.form 1 p) (format.form 0 p) := by
  have hlength : (ushortLE.bytes p.customShapeCount).length = 2 := by
    have hwrites := pack_writes (f := .ushortLE) (inRange_unsigned rfl rfl h)
    rw [show ushortLE.bytes p.customShapeCount = _ from hwrites.written]
    exact StructFormat.length_encode _ _
  intro w hin hw
  have hrest : w.reader.rest = p.shapes ++ ushortLE.bytes p.customShapeCount := hw
  have htake : w.reader.rest.take (w.reader.rest.length - 2) = p.shapes := by
    rw [hrest, List.length_append, hlength, Nat.add_sub_cancel, List.take_left]
  refine ⟨{ w with
    reader := { w.reader with pos := w.reader.data.length }
    writer := w.writer ++ w.reader.rest.take (w.reader.rest.length - 2) }, rfl, ?_, rfl, rfl⟩
  rw [toBytes_eq, htake]
  show w.writer ++ p.shapes ++ List.drop _ _ = w.writer ++ p.shapes
  rw [List.drop_length, List.append_nil]

end VoxelShapes

/-! ### UpdateClientInputLocks -/

namespace UpdateClientInputLocks

variable {p : UpdateClientInputLocks}

theorem upgrade_delivers (h : InUInt32 p.lockData) :
    Delivers V924ToV944.rewriteUpdateClientInputLocks (format.form 0 p) (format.form 1 p) := by
  have hlock := passthrough_rewrites (uvarInt_roundTrips h)
  have hpos := read_rewrites (vec3_roundTrips p.serverPos).reads
  have hall : Rewrites V924ToV944.rewriteUpdateClientInputLocks _
      (uvarInt.bytes p.lockData ++ []) () := hlock.bind (hpos.last rfl)
  rw [List.append_nil] at hall
  exact hall.deliversAll

theorem downgrade_delivers (h : InUInt32 p.lockData) (hdefault : p.serverPos = (0, 0, 0)) :
    Delivers V944ToV924.rewriteUpdateClientInputLocks (format.form 1 p) (format.form 0 p) := by
  have hlock := passthrough_rewrites (uvarInt_roundTrips h)
  have hpos := write_rewrites (vec3_roundTrips (0, 0, 0)).writes
  have hall : Rewrites V944ToV924.rewriteUpdateClientInputLocks (uvarInt.bytes p.lockData ++ []) _
      () := hlock.bind hpos
  rw [List.append_nil] at hall
  show Delivers _ _ (_ ++ vec3.bytes p.serverPos)
  rw [hdefault]
  exact hall.deliversAll

end UpdateClientInputLocks

/-! ### LevelChunk -/

namespace LevelChunk

open V975ToV1001

variable {p : LevelChunk}

/-- The count is read and looked at, then all that is left is copied. -/
theorem mode_delivers {mode : SubChunkMode} (h : mode.Canonical) (rest : List UInt8) :
    Delivers (PacketWrapper.read uvarInt >>= fun subChunkCount => do
      rewriteSubChunkCount subChunkCount
      let _ ← passthroughAll) (mode.bytes ++ rest) (mode.uncapped.bytes ++ rest) := by
  have hlimitless := uvarInt_roundTrips (v := subChunkRequestModeLimitless) (by decide)
  cases mode with
  | counted subChunkCount =>
    obtain ⟨hnonneg, hlt⟩ := h
    -- the count is below the two numbers of the modes, so that nothing follows it
    have hne : subChunkCount ≠ subChunkRequestModeLimited := ne_of_lt hlt
    have hcount := uvarInt_roundTrips (v := subChunkCount) ⟨hnonneg, hlt.trans (by decide)⟩
    apply Delivers.read hcount
    rw [rewriteSubChunkCount, if_neg hne]
    exact Delivers.write hcount (passthroughAll_delivers rest)
  | limitless =>
    apply Delivers.read hlimitless
    rw [rewriteSubChunkCount, if_neg (by decide)]
    exact Delivers.write hlimitless (passthroughAll_delivers rest)
  | limited highestSubChunk =>
    have hlimited := uvarInt_roundTrips (v := subChunkRequestModeLimited) (by decide)
    have hrewrite : Rewrites (rewriteSubChunkCount subChunkRequestModeLimited)
        (ushortLE.bytes highestSubChunk) (uvarInt.bytes subChunkRequestModeLimitless) () := by
      rw [rewriteSubChunkCount, if_pos rfl, ← List.append_nil (ushortLE.bytes highestSubChunk)]
      exact Rewrites.read (ushortLE_roundTrips h) (write_rewrites hlimitless.writes)
    show Delivers _ (_ ++ _ ++ rest) _
    rw [List.append_assoc]
    apply Delivers.read hlimited
    exact hrewrite.bind_delivers (passthroughAll_delivers rest)

theorem upgrade_delivers (h : p.Canonical) :
    Delivers rewriteLevelChunk (format.form 0 p) (format.form 1 p) := by
  apply Delivers.passthrough (varInt_roundTrips h.x)
  apply Delivers.passthrough (varInt_roundTrips h.z)
  apply Delivers.passthrough (varInt_roundTrips h.dimension)
  exact mode_delivers h.mode p.rest

end LevelChunk

end Endweave
