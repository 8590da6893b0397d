import Endweave.Codec.Equiv.Untrusted
import Endweave.Codec.Types.DataStore

/-!
# Correctness of the data store codec

`changeValue_roundTrips`: a tree of any width is read back as it was written, if as many calls can
be nested as it has levels (`ChangeValue.depth`).  `changeValue_fails`: if fewer can be, the reader
raises `RecursionError` at the first entry that is too deep.
-/

namespace Endweave

open Wire PacketReader PacketWriter

namespace ChangeValue

/-! ### Trees -/

mutual

/-- The number of levels: one more in a map than in its entries. -/
def depth : ChangeValue → ℕ
  | .map entries => entriesDepth entries + 1
  | .empty | .bool _ | .int64 _ | .string _ => 1

/-- The number of levels of the deepest entry. -/
def entriesDepth : List (String × ChangeValue) → ℕ
  | [] => 0
  | (_, child) :: entries => max (depth child) (entriesDepth entries)

end

/-- A bound on the deepest entry is one on all of them. -/
theorem entriesDepth_le_iff {entries : List (String × ChangeValue)} {n : ℕ} :
    entriesDepth entries ≤ n ↔ ∀ entry ∈ entries, entry.2.depth ≤ n := by
  induction entries with
  | nil => simp [entriesDepth]
  | cons entry entries ih =>
    rw [entriesDepth, max_le_iff, ih, List.forall_mem_cons]

/-- The numbers, strings and lists of a tree fit their fields, at every depth. -/
inductive Canonical : ChangeValue → Prop where
  | empty : Canonical .empty
  | bool (value : Bool) : Canonical (.bool value)
  | int64 {value : Int} (h : InInt64 value) : Canonical (.int64 value)
  | string {value : String} (h : FitsString value) : Canonical (.string value)
  | map {entries : List (String × ChangeValue)} (length : entries.length < 2 ^ 32)
      (keys : ∀ entry ∈ entries, FitsString entry.1)
      (children : ∀ entry ∈ entries, Canonical entry.2) : Canonical (.map entries)

mutual

/-- A tree on the wire. -/
def bytes : ChangeValue → List UInt8
  | .empty => intLE.bytes 0
  | .bool value => intLE.bytes 1 ++ Endweave.bool.bytes value
  | .int64 value => intLE.bytes 2 ++ int64LE.bytes value
  | .string value => intLE.bytes 4 ++ Endweave.string.bytes value
  | .map entries => intLE.bytes 6 ++ (uvarInt.bytes entries.length ++ entriesBytes entries)

def entriesBytes : List (String × ChangeValue) → List UInt8
  | [] => []
  | (key, child) :: entries => Endweave.string.bytes key ++ bytes child ++ entriesBytes entries

end

theorem entriesBytes_eq (entries : List (String × ChangeValue)) : entriesBytes entries =
    entries.flatMap fun entry => Endweave.string.bytes entry.1 ++ entry.2.bytes := by
  induction entries with
  | nil => rfl
  | cons entry entries ih => rw [entriesBytes, ih, List.flatMap_cons]

end ChangeValue

/-! ### Within the limit -/

theorem intLE_typeId_roundTrips (typeId : Int) (h : 0 ≤ typeId ∧ typeId ≤ 6) :
    intLE.RoundTrips typeId :=
  intLE_roundTrips ⟨by omega, by omega⟩

theorem changeValue_writes {calls : ℕ} {value : ChangeValue} (h : value.Canonical)
    (hdepth : value.depth ≤ calls) : Writes ((changeValue calls).write value) value.bytes := by
  induction h generalizing calls with
  | empty =>
    obtain ⟨calls, rfl⟩ := Nat.exists_eq_add_one.mpr hdepth
    exact (intLE_typeId_roundTrips 0 (by decide)).writes
  | bool value =>
    obtain ⟨calls, rfl⟩ := Nat.exists_eq_add_one.mpr hdepth
    exact (intLE_typeId_roundTrips 1 (by decide)).writes.bind (bool_roundTrips value).writes
  | int64 h =>
    obtain ⟨calls, rfl⟩ := Nat.exists_eq_add_one.mpr hdepth
    exact (intLE_typeId_roundTrips 2 (by decide)).writes.bind (int64LE_roundTrips h).writes
  | string h =>
    obtain ⟨calls, rfl⟩ := Nat.exists_eq_add_one.mpr hdepth
    exact (intLE_typeId_roundTrips 4 (by decide)).writes.bind (string_roundTrips h).writes
  | @map entries length keys children ih =>
    obtain ⟨calls, rfl⟩ := Nat.exists_eq_add_one.mpr (Nat.lt_of_lt_of_le (Nat.succ_pos _) hdepth)
    -- the map uses up one call, and each entry has all the others
    have hentries := ChangeValue.entriesDepth_le_iff.mp (Nat.le_of_succ_le_succ hdepth)
    rw [ChangeValue.bytes, ChangeValue.entriesBytes_eq]
    refine (intLE_typeId_roundTrips 6 (by decide)).writes.bind ?_
    refine (uvarInt_roundTrips ⟨by omega, by omega⟩).writes.bind (Writes.each fun entry hmem => ?_)
    exact (string_roundTrips (keys entry hmem)).writes.bind (ih entry hmem (hentries entry hmem))

theorem readChangeEntry_reads {m : Parser PyException UInt8 ChangeValue} {bs : List UInt8}
    {entry : String × ChangeValue} (hkey : FitsString entry.1) (hm : Reads m bs entry.2) :
    Reads (readChangeEntry m) (string.bytes entry.1 ++ bs) entry :=
  (string_roundTrips hkey).reads.bind (hm.bind_pure rfl)

theorem changeValue_reads {calls : ℕ} {value : ChangeValue} (h : value.Canonical)
    (hdepth : value.depth ≤ calls) : Reads (changeValue calls).read value.bytes value := by
  induction h generalizing calls with
  | empty =>
    obtain ⟨calls, rfl⟩ := Nat.exists_eq_add_one.mpr hdepth
    exact (intLE_typeId_roundTrips 0 (by decide)).reads.bind_pure rfl
  | bool value =>
    obtain ⟨calls, rfl⟩ := Nat.exists_eq_add_one.mpr hdepth
    exact (intLE_typeId_roundTrips 1 (by decide)).reads.bind ((bool_roundTrips value).reads.map _)
  | int64 h =>
    obtain ⟨calls, rfl⟩ := Nat.exists_eq_add_one.mpr hdepth
    exact (intLE_typeId_roundTrips 2 (by decide)).reads.bind ((int64LE_roundTrips h).reads.map _)
  | string h =>
    obtain ⟨calls, rfl⟩ := Nat.exists_eq_add_one.mpr hdepth
    exact (intLE_typeId_roundTrips 4 (by decide)).reads.bind ((string_roundTrips h).reads.map _)
  | @map entries length keys children ih =>
    obtain ⟨calls, rfl⟩ := Nat.exists_eq_add_one.mpr (Nat.lt_of_lt_of_le (Nat.succ_pos _) hdepth)
    have hentries := ChangeValue.entriesDepth_le_iff.mp (Nat.le_of_succ_le_succ hdepth)
    rw [ChangeValue.bytes, ChangeValue.entriesBytes_eq]
    refine (intLE_typeId_roundTrips 6 (by decide)).reads.bind ?_
    refine (uvarInt_roundTrips ⟨by omega, by omega⟩).reads.bind ?_
    rw [Int.toNat_natCast]
    exact (Reads.collect fun entry hmem => readChangeEntry_reads (keys entry hmem)
      (ih entry hmem (hentries entry hmem))).map _

theorem changeValue_roundTrips {calls : ℕ} {value : ChangeValue} (h : value.Canonical)
    (hdepth : value.depth ≤ calls) : (changeValue calls).RoundTrips value :=
  ⟨_, changeValue_writes h hdepth, changeValue_reads h hdepth⟩

theorem changeValue_bytes {calls : ℕ} {value : ChangeValue} (h : value.Canonical)
    (hdepth : value.depth ≤ calls) : (changeValue calls).bytes value = value.bytes :=
  (changeValue_writes h hdepth).written

/-! ### Behind the limit -/

/-- The first entry that is too deep is not read. -/
theorem changeValue_fails {calls : ℕ} {value : ChangeValue} (h : value.Canonical)
    (hdepth : calls < value.depth) :
    FailsWith (changeValue calls).read value.bytes .recursionError := by
  induction h generalizing calls with
  | empty | bool _ | int64 _ | string _ =>
    obtain rfl : calls = 0 := Nat.lt_one_iff.mp hdepth
    exact FailsWith.throw _
  | @map entries length keys children ih =>
    cases calls with
    | zero => exact FailsWith.throw _
    | succ calls =>
      -- one call is used up, so that some entry is too deep for those that are left
      have hdeep : ¬ ∀ entry ∈ entries, entry.2.depth ≤ calls := by
        rw [← ChangeValue.entriesDepth_le_iff]
        exact Nat.not_le_of_lt (Nat.lt_of_succ_lt_succ hdepth)
      have hentry : ∀ entry ∈ entries, if entry.2.depth ≤ calls
          then Reads (readChangeEntry (changeValue calls).read)
            (string.bytes entry.1 ++ entry.2.bytes) entry
          else FailsWith (readChangeEntry (changeValue calls).read)
            (string.bytes entry.1 ++ entry.2.bytes) .recursionError := by
        intro entry hmem
        split_ifs with hle
        · exact readChangeEntry_reads (keys entry hmem)
            (changeValue_reads (children entry hmem) hle)
        · have hfails := ih entry hmem (Nat.lt_of_not_le hle)
          rw [← List.append_nil entry.2.bytes]
          exact (string_roundTrips (keys entry hmem)).reads.bind_failsWith hfails.bind
      rw [ChangeValue.bytes, ChangeValue.entriesBytes_eq]
      refine (intLE_typeId_roundTrips 6 (by decide)).reads.bind_failsWith ?_
      refine (uvarInt_roundTrips ⟨by omega, by omega⟩).reads.bind_failsWith ?_
      rw [Int.toNat_natCast]
      exact (FailsWith.collect hentry hdeep).map _

end Endweave
