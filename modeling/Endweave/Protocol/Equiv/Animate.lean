import Endweave.Codec.Equiv.Wrapper
import Endweave.Protocol.Packets.Animate

/-!
# Correctness of the Animate handler

`animate_wellFormed_iff`: the serverbound branch makes a v860 packet of a v898 one exactly when the
action has no rowing flag.  The branch never writes a rowing time, for which the reader of v860 then
waits (`animateBytes_parses_iff`); a packet that has lost its rowing time on the way to v898 does
not get it back.
-/

namespace Endweave

open Wire PacketReader PacketWrapper V860ToV898

/-! ### The two packets -/

/-- The fields that both versions have, as v860 writes them. -/
def animateBytes (action targetRuntimeId : Int) (data : UInt32) : List UInt8 :=
  varInt.bytes action ++ (uvarInt64.bytes targetRuntimeId ++ floatLE.bytes data)

/-- What a rowing time adds to a packet. -/
def rowingBytes (rowingTime : Option UInt32) : List UInt8 :=
  rowingTime.toList.flatMap floatLE.bytes

section V898

variable {p : AnimateV898} (h : p.Canonical)

include h

theorem animateV898_bytes : animateV898.bytes p =
    byte.bytes p.action ++ (uvarInt64.bytes p.targetRuntimeId ++
      (floatLE.bytes p.data ++ (optionalType string).bytes p.swingSource)) := by
  have hwrites : Writes (animateV898.write p) (byte.bytes p.action ++
      (uvarInt64.bytes p.targetRuntimeId ++
        (floatLE.bytes p.data ++ (optionalType string).bytes p.swingSource))) := by
    apply (byte_roundTrips h.action).writes.bind
    apply (uvarInt64_roundTrips h.targetRuntimeId).writes.bind
    apply (floatLE_roundTrips p.data).writes.bind
    exact (optionalString_roundTrips h.swingSource).writes
  exact hwrites.written

/-- The serverbound branch leaves the fields that v860 has in every packet. -/
theorem rewriteAnimate_serverbound (user : UserConnection) :
    (rewriteAnimate .serverbound).apply (animateV898.bytes p) user =
      .ok (animateBytes p.action p.targetRuntimeId p.data) := by
  have hrewrites : Rewrites (rewriteAnimate .serverbound) (animateV898.bytes p)
      (animateBytes p.action p.targetRuntimeId p.data) () := by
    have hout : animateBytes p.action p.targetRuntimeId p.data = varInt.bytes p.action ++
        (uvarInt64.bytes p.targetRuntimeId ++ (floatLE.bytes p.data ++ [])) := by
      rw [animateBytes, List.append_nil]
    rw [animateV898_bytes h, hout]
    apply Rewrites.read (byte_roundTrips h.action)
    apply Rewrites.write (varInt_roundTrips h.action.inInt32)
    apply Rewrites.passthrough (uvarInt64_roundTrips h.targetRuntimeId)
    apply Rewrites.passthrough (floatLE_roundTrips p.data)
    exact (read_rewrites (optionalString_roundTrips h.swingSource).reads).last rfl
  exact hrewrites.apply user

end V898

section V860

variable {p : AnimateV860} (h : p.Canonical)

include h

theorem rowingTime_eq_none (hrows : ¬ Rows p.action) : p.rowingTime = none :=
  Option.not_isSome_iff_eq_none.mp fun hsome => hrows (h.rowingTime.mp hsome)

theorem animateV860_bytes : animateV860.bytes p =
    varInt.bytes p.action ++ (uvarInt64.bytes p.targetRuntimeId ++
      (floatLE.bytes p.data ++ rowingBytes p.rowingTime)) := by
  have hwrites : Writes (animateV860.write p) (varInt.bytes p.action ++
      (uvarInt64.bytes p.targetRuntimeId ++
        (floatLE.bytes p.data ++ rowingBytes p.rowingTime))) := by
    apply (varInt_roundTrips h.action.inInt32).writes.bind
    apply (uvarInt64_roundTrips h.targetRuntimeId).writes.bind
    apply (floatLE_roundTrips p.data).writes.bind
    exact Writes.each fun time _ => (floatLE_roundTrips time).writes
  exact hwrites.written

theorem stripRowingTime_rewrites :
    Rewrites (stripRowingTime p.action) (rowingBytes p.rowingTime) [] () := by
  unfold stripRowingTime
  by_cases hrows : Int.land p.action rowingFlag ≠ 0
  · obtain ⟨time, htime⟩ := Option.isSome_iff_exists.mp (h.rowingTime.mpr hrows)
    rw [if_pos hrows, htime, rowingBytes, Option.toList_some, List.flatMap_singleton]
    exact (read_rewrites (floatLE_roundTrips time).reads).last rfl
  · rw [if_neg hrows, rowingTime_eq_none h hrows]
    exact Rewrites.pure ()

/-- Only the fields that both versions have come back from v898. -/
theorem rewriteAnimate_applyAll (user : UserConnection) :
    PacketHandler.applyAll [rewriteAnimate .clientbound, rewriteAnimate .serverbound]
      (animateV860.bytes p) user = .ok (animateBytes p.action p.targetRuntimeId p.data) := by
  have hq : AnimateV898.Canonical ⟨p.action, p.targetRuntimeId, p.data, none⟩ :=
    ⟨h.action, h.targetRuntimeId, nofun⟩
  have hrewrites : Rewrites (rewriteAnimate .clientbound) (animateV860.bytes p)
      (animateV898.bytes ⟨p.action, p.targetRuntimeId, p.data, none⟩) () := by
    rw [animateV860_bytes h, animateV898_bytes hq]
    apply Rewrites.read (varInt_roundTrips h.action.inInt32)
    apply Rewrites.write (byte_roundTrips h.action)
    apply Rewrites.passthrough (uvarInt64_roundTrips h.targetRuntimeId)
    apply Rewrites.passthrough (floatLE_roundTrips p.data)
    rw [← List.append_nil (rowingBytes p.rowingTime)]
    exact (stripRowingTime_rewrites h).readThen
      (write_rewrites (optionalString_roundTrips hq.swingSource).writes)
  rw [applyAll_cons (hrewrites.apply user), applyAll_singleton, rewriteAnimate_serverbound hq user]

end V860

/-! ### Well-formed packets of v860 -/

theorem floatLE_read_end {c c' : PacketReader} {v : UInt32} (hrest : c.rest = []) :
    floatLE.read c ≠ .ok v c' := by
  intro hread
  obtain ⟨n, c₁, hunpack, _⟩ := bind_eq_ok hread
  unfold unpack at hunpack
  rw [hrest, if_pos (by decide)] at hunpack
  cases hunpack

/-- The fields alone are a packet of v860 exactly when the action has no rowing flag; it has the
fields then. -/
theorem animateBytes_parses_iff {action targetRuntimeId : Int} {data : UInt32}
    (haction : InByte action) (htarget : InUInt64 targetRuntimeId) (q : AnimateV860) :
    animateV860.Parses (animateBytes action targetRuntimeId data) q ↔
      ¬ Rows action ∧ q = ⟨action, targetRuntimeId, data, none⟩ := by
  have hv := (varInt_roundTrips haction.inInt32).reads
  have ht := (uvarInt64_roundTrips htarget).reads
  have hd := (floatLE_roundTrips data).reads
  constructor
  · intro hparses
    obtain ⟨a, c₁, hread, hparses⟩ := bind_eq_ok hparses
    obtain ⟨rfl, hc₁, hrest₁⟩ := hv.of_ok (Cursor.within_start _) rfl hread
    obtain ⟨t, c₂, hread, hparses⟩ := bind_eq_ok hparses
    obtain ⟨rfl, hc₂, hrest₂⟩ := ht.of_ok hc₁ hrest₁ hread
    rw [← List.append_nil (floatLE.bytes data)] at hrest₂
    obtain ⟨d, c₃, hread, hparses⟩ := bind_eq_ok hparses
    obtain ⟨rfl, hc₃, hrest₃⟩ := hd.of_ok hc₂ hrest₂ hread
    obtain ⟨time, c₄, htime, hparses⟩ := bind_eq_ok hparses
    obtain ⟨rfl, _⟩ := pure_eq_ok_iff.mp hparses
    -- nothing is left for a rowing time
    unfold readRowingTime at htime
    by_cases hrows : Rows a
    · rw [if_pos hrows, map_eq_pure_bind] at htime
      obtain ⟨v, c₅, hread, _⟩ := bind_eq_ok htime
      exact absurd hread (floatLE_read_end hrest₃)
    · rw [if_neg hrows] at htime
      obtain ⟨rfl, _⟩ := pure_eq_ok_iff.mp htime
      exact ⟨hrows, rfl⟩
  · rintro ⟨hrows, rfl⟩
    have hreads : Reads animateV860.read (animateBytes action targetRuntimeId data)
        ⟨action, targetRuntimeId, data, none⟩ := by
      apply hv.bind
      apply ht.bind
      apply hd.bind_pure
      rw [readRowingTime, if_neg hrows, pure_bind]
    have hparses := hreads ⟨animateBytes action targetRuntimeId data, 0⟩ [] (Cursor.within_start _)
      (List.append_nil _).symm
    rw [FieldType.Parses, hparses, Cursor.advance, Nat.zero_add]

/-- **Animate in v860**: what the serverbound branch makes of a v898 packet is a packet of v860
exactly when the action has no rowing flag, and so is what is left of a v860 packet that has gone
through both branches; it has the same fields then. -/
theorem animate_wellFormed_iff (user : UserConnection) :
    (∀ p : AnimateV898, p.Canonical →
      ((∃ out q, (rewriteAnimate .serverbound).apply (animateV898.bytes p) user = .ok out ∧
        animateV860.Parses out q) ↔ ¬ Rows p.action)) ∧
    ∀ p : AnimateV860, p.Canonical →
      ((∃ out q, PacketHandler.applyAll [rewriteAnimate .clientbound, rewriteAnimate .serverbound]
          (animateV860.bytes p) user = .ok out ∧ animateV860.Parses out q ∧
        q.action = p.action ∧ q.targetRuntimeId = p.targetRuntimeId ∧ q.data = p.data) ↔
        ¬ Rows p.action) := by
  constructor
  · intro p h
    rw [rewriteAnimate_serverbound h user]
    constructor
    · rintro ⟨out, q, hout, hparses⟩
      obtain rfl := Except.ok.inj hout
      exact ((animateBytes_parses_iff h.action h.targetRuntimeId q).mp hparses).1
    · intro hrows
      exact ⟨_, _, rfl, (animateBytes_parses_iff h.action h.targetRuntimeId _).mpr ⟨hrows, rfl⟩⟩
  · intro p h
    rw [rewriteAnimate_applyAll h user]
    constructor
    · rintro ⟨out, q, hout, hparses, _⟩
      obtain rfl := Except.ok.inj hout
      exact ((animateBytes_parses_iff h.action h.targetRuntimeId q).mp hparses).1
    · intro hrows
      exact ⟨_, _, rfl, (animateBytes_parses_iff h.action h.targetRuntimeId _).mpr ⟨hrows, rfl⟩,
        rfl, rfl, rfl⟩

/-- A swing of the arm. -/
def sampleSwing : AnimateV898 where
  action := 1
  targetRuntimeId := 300
  data := 0
  swingSource := some "attack"

theorem animate_wellFormed_iff_sample :
    ∃ out q, (rewriteAnimate .serverbound).apply (animateV898.bytes sampleSwing)
      { address := "a" } = .ok out ∧ animateV860.Parses out q := by
  have h : sampleSwing.Canonical := by
    refine ⟨by decide, by decide, ?_⟩
    intro s hs
    obtain rfl := Option.some.inj hs
    decide
  exact ((animate_wellFormed_iff { address := "a" }).1 sampleSwing h).mpr (by decide)

/-- **Rowing** loses its time on the way to v898, and what comes back cannot be read. -/
theorem animate_rowing_lost :
    PacketHandler.applyAll [rewriteAnimate .clientbound, rewriteAnimate .serverbound]
        (animateV860.bytes ⟨128, 1, 0, some 0x3F800000⟩) { address := "a" } =
          .ok [128, 2, 1, 0, 0, 0, 0] ∧
      ∀ q, ¬ animateV860.Parses [128, 2, 1, 0, 0, 0, 0] q := by
  have h : AnimateV860.Canonical ⟨128, 1, 0, some 0x3F800000⟩ := ⟨by decide, by decide, by decide⟩
  have hbytes : animateBytes 128 1 0 = [128, 2, 1, 0, 0, 0, 0] := rfl
  rw [← hbytes]
  refine ⟨rewriteAnimate_applyAll h _, fun q hparses => ?_⟩
  exact ((animateBytes_parses_iff h.action h.targetRuntimeId q).mp hparses).1 (by decide)

end Endweave
