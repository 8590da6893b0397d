import Endweave.Codec.Equiv.Nbt
import Endweave.Codec.Equiv.Wrapper

/-!
# Passing named NBT through a wrapper

The reader of `NAMED_COMPOUND_TAG` drops the root name and the writer puts an empty one in its
place.  `passthrough_namedCompoundTag_iff`: a canonical compound passes through unchanged exactly
when its root name is empty.
-/

namespace Endweave

open Wire PacketReader PacketWriter

/-- A compound behind its root name. -/
def namedNbtBytes (name : String) (value : CompoundTag) : List UInt8 :=
  written (writeNbt (some value) (some name))

/-- `wrapper.passthrough(NAMED_COMPOUND_TAG)`. -/
def passthroughNamedCompoundTag : PacketHandler :=
  discard (PacketWrapper.passthrough namedCompoundTag)

theorem namedNbtBytes_eq {name : String} (hname : FitsNbtString name) {value : CompoundTag}
    (h : CanonicalNbt (some value)) : namedNbtBytes name value =
      byte.bytes tagCompound ++
        (written (writeNbtString name) ++ written (writeValue (.compound value))) := by
  have hid : Writes (writeByte tagCompound) (byte.bytes tagCompound) :=
    (byte_roundTrips (v := tagCompound) (by decide)).writes
  have hroot : Writes (writeRootName (some name)) (written (writeNbtString name)) :=
    (nbtString_codes hname).writes
  have hvalue : Writes (writeValue (.compound value)) (written (writeValue (.compound value))) :=
    (readValue_codes h).writes
  exact (hid.bind (hroot.bind hvalue)).written

/-- Strings that fit are told apart by what is written for them. -/
theorem nbtString_inj {s t : String} (hs : FitsNbtString s) (ht : FitsNbtString t)
    (h : written (writeNbtString s) = written (writeNbtString t)) : s = t :=
  (nbtString_codes hs).reads.inj (h ▸ (nbtString_codes ht).reads)

/-- What a wrapper makes of a named compound: the same one under an empty name. -/
theorem passthrough_namedCompoundTag {name : String} (hname : FitsNbtString name)
    {value : CompoundTag} (h : CanonicalNbt (some value)) (suf : List UInt8)
    (user : UserConnection) :
    passthroughNamedCompoundTag.apply (namedNbtBytes name value ++ suf) user =
      .ok (namedNbtBytes "" value ++ suf) := by
  have hread : Reads namedCompoundTag.read (namedNbtBytes name value) (some value) := by
    refine Codes.reads (w := writeNbt (some value) (some name)) (writeNbt_codes h ?_)
    rintro s ⟨⟩
    exact hname
  have hwrite : Writes (namedCompoundTag.write (some value)) (namedNbtBytes "" value) :=
    (namedCompoundTag_roundTrips h).writes
  exact apply_of_rewrites (map_rewrites hread hwrite).discard suf user

/-- **Passing named NBT through a wrapper** keeps the bytes of a canonical compound, whatever
follows it, exactly when the root name is empty. -/
theorem passthrough_namedCompoundTag_iff {name : String} (hname : FitsNbtString name)
    {value : CompoundTag} (h : CanonicalNbt (some value)) (suf : List UInt8)
    (user : UserConnection) :
    passthroughNamedCompoundTag.apply (namedNbtBytes name value ++ suf) user =
      .ok (namedNbtBytes name value ++ suf) ↔ name = "" := by
  have hempty : FitsNbtString "" := by decide
  rw [passthrough_namedCompoundTag hname h, Except.ok.injEq, List.append_left_inj,
    namedNbtBytes_eq hempty h, namedNbtBytes_eq hname h, List.append_right_inj,
    List.append_left_inj]
  constructor
  · intro heq
    exact (nbtString_inj hempty hname heq).symm
  · rintro rfl
    rfl

/-- A compound of three entries, one of them a compound. -/
def sampleCompound : CompoundTag :=
  [("a", .int (-5)), ("b", .compound [("c", .string "d")]),
    ("e", .list tagByte [.byte 1, .byte 2])]

theorem sampleCompound_canonical : CanonicalNbt (some sampleCompound) := by
  have hinner : (Tag.compound [("c", .string "d")]).Canonical 512 :=
    ⟨by decide, List.forall_mem_singleton.mpr ⟨by decide, (by decide : FitsNbtString "d")⟩⟩
  have hlist : (Tag.list tagByte [.byte 1, .byte 2]).Canonical 512 := by
    refine ⟨by decide, (by decide : 2 < 2 ^ 31), ?_⟩
    rw [List.forall_mem_cons, List.forall_mem_singleton]
    exact ⟨⟨rfl, (by decide : InByte 1)⟩, rfl, (by decide : InByte 2)⟩
  refine ⟨by decide, ?_⟩
  rw [sampleCompound, List.forall_mem_cons, List.forall_mem_cons, List.forall_mem_singleton]
  exact ⟨⟨by decide, (by decide : InInt32 (-5))⟩, ⟨by decide, hinner⟩, by decide, hlist⟩

theorem passthrough_unnamed_compoundTag :
    passthroughNamedCompoundTag.apply (namedNbtBytes "" sampleCompound ++ [0x99])
        { address := "a" } =
      .ok (namedNbtBytes "" sampleCompound ++ [0x99]) := by
  have hname : FitsNbtString "" := by decide
  exact (passthrough_namedCompoundTag_iff hname sampleCompound_canonical [0x99]
    { address := "a" }).mpr rfl

/-- **A root name is lost**: an empty compound named `a` comes out one byte shorter. -/
theorem passthrough_named_compoundTag :
    namedNbtBytes "a" [] = [10, 1, 97, 0] ∧
      passthroughNamedCompoundTag.apply (namedNbtBytes "a" []) { address := "a" } =
        .ok [10, 0, 0] := by
  constructor <;> rfl

end Endweave
