import Endweave.Codec.Equiv.Wrapper
import Endweave.Protocol.Handlers.DataStore
import Endweave.Protocol.Packets.DataStore

/-!
# Correctness of the data store handlers

`dataStore_survives`: a canonical v898 packet of either direction goes to v924, where it has a zero
behind the change type of each property update, and comes back as it was, if the interpreter allows
as many nested calls as the trees of its updates have levels.  If it does not, the first step raises
`RecursionError`.

The four handlers are two walks, for any handler `pathUpdateCount` that turns the bytes `cin` behind
a change type into `cout`.
-/

namespace Endweave

open Wire PacketWrapper

theorem stripPathUpdateCount_rewrites : Rewrites stripPathUpdateCount (intLE.bytes 0) [] () :=
  (read_rewrites (intLE_roundTrips (v := 0) (by decide)).reads).last rfl

theorem appendPathUpdateCount_rewrites : Rewrites appendPathUpdateCount [] (intLE.bytes 0) () :=
  write_rewrites (intLE_roundTrips (by decide)).writes

theorem DataStoreValue.inUInt32_dataType (value : DataStoreValue) : InUInt32 value.dataType := by
  cases value with
  | double => exact (by decide : InUInt32 0)
  | bool => exact (by decide : InUInt32 1)
  | string => exact (by decide : InUInt32 2)

/-- The value goes through, whichever of the three it is. -/
theorem passthroughDataStoreValue_rewrites {value : DataStoreValue} (h : value.Canonical) :
    Rewrites (passthroughDataStoreValue value.dataType) value.bytes value.bytes () := by
  unfold passthroughDataStoreValue
  cases value with
  | double value =>
    rw [DataStoreValue.dataType, if_pos rfl]
    exact (passthrough_rewrites (doubleLE_roundTrips value)).last rfl
  | bool value =>
    rw [DataStoreValue.dataType, if_neg (by decide), if_pos rfl]
    exact (passthrough_rewrites (bool_roundTrips value)).last rfl
  | string value =>
    rw [DataStoreValue.dataType, if_neg (by decide), if_neg (by decide), if_pos rfl]
    exact (passthrough_rewrites (string_roundTrips h)).last rfl

section Walk

variable {pathUpdateCount : PacketHandler} {cin cout : List UInt8}
  (hcount : Rewrites pathUpdateCount cin cout ())

include hcount

theorem passthroughPropertyUpdate_rewrites {u : PropertyUpdate} (h : u.Canonical) :
    Rewrites (passthroughPropertyUpdate pathUpdateCount) (u.bytes cin) (u.bytes cout) () := by
  unfold passthroughPropertyUpdate PropertyUpdate.bytes
  apply Rewrites.passthrough (string_roundTrips h.dataStoreName)
  apply Rewrites.passthrough (string_roundTrips h.property)
  apply Rewrites.passthrough (string_roundTrips h.key)
  apply Rewrites.passthrough (uvarInt_roundTrips u.value.inUInt32_dataType)
  apply (passthroughDataStoreValue_rewrites h.value).bind
  apply Rewrites.passthrough (intLE_roundTrips h.changeType)
  exact hcount

theorem passthroughDataStoreAction_rewrites {calls : ℕ} {a : DataStoreAction} (h : a.Canonical)
    (hdepth : a.depth ≤ calls) :
    Rewrites (passthroughDataStoreAction calls pathUpdateCount) (a.bytes cin) (a.bytes cout)
      () := by
  unfold passthroughDataStoreAction
  cases a with
  | update data =>
    apply Rewrites.passthrough (uvarInt_roundTrips (v := 0) (by decide))
    rw [if_pos rfl]
    exact passthroughPropertyUpdate_rewrites hcount h
  | change dataStoreName property changeType value =>
    -- the tree is parsed to find where the next update begins
    obtain ⟨hname, hproperty, htype, hvalue⟩ := h
    apply Rewrites.passthrough (uvarInt_roundTrips (v := 1) (by decide))
    rw [if_neg (by decide), if_pos rfl]
    apply Rewrites.passthrough (string_roundTrips hname)
    apply Rewrites.passthrough (string_roundTrips hproperty)
    apply Rewrites.passthrough (intLE_roundTrips htype)
    rw [← changeValue_bytes hvalue hdepth]
    exact (passthrough_rewrites (changeValue_roundTrips hvalue hdepth)).last rfl
  | removal dataStoreName =>
    apply Rewrites.passthrough (uvarInt_roundTrips (v := 2) (by decide))
    rw [if_neg (by decide), if_neg (by decide), if_pos rfl]
    exact (passthrough_rewrites (string_roundTrips h)).last rfl

theorem passthroughDataStoreActions_rewrites {calls : ℕ} {actions : List DataStoreAction}
    (h : FitsList DataStoreAction.Canonical actions) (hdepth : ∀ a ∈ actions, a.depth ≤ calls) :
    Rewrites (passthroughLoop (passthroughDataStoreAction calls pathUpdateCount))
      (clientboundDataStoreBytes cin actions) (clientboundDataStoreBytes cout actions) () :=
  passthroughLoop_rewrites h.1 fun a ha =>
    passthroughDataStoreAction_rewrites hcount (h.2 a ha) (hdepth a ha)

omit hcount

/-- A tree that is too deep is not read. -/
theorem passthroughDataStoreAction_raises {calls : ℕ} {a : DataStoreAction} (h : a.Canonical)
    (hdepth : calls < a.depth) (suf : List UInt8) :
    Raises (passthroughDataStoreAction calls pathUpdateCount) (a.bytes cin ++ suf)
      .recursionError := by
  unfold passthroughDataStoreAction
  cases a with
  | update data | removal dataStoreName => exact absurd hdepth (Nat.not_lt_zero _)
  | change dataStoreName property changeType value =>
    obtain ⟨hname, hproperty, htype, hvalue⟩ := h
    -- the fields in front of the tree go through
    have htree := passthrough_raises (changeValue_fails hvalue hdepth) suf
    simp only [DataStoreAction.bytes, List.append_assoc]
    refine (passthrough_rewrites (uvarInt_roundTrips (v := 1) (by decide))).bind_raises ?_
    rw [if_neg (by decide), if_pos rfl]
    refine (passthrough_rewrites (string_roundTrips hname)).bind_raises ?_
    refine (passthrough_rewrites (string_roundTrips hproperty)).bind_raises ?_
    exact (passthrough_rewrites (intLE_roundTrips htype)).bind_raises htree.bind

include hcount

/-- The updates in front of the tree are rewritten. -/
theorem passthroughDataStoreActions_raises {calls : ℕ} {actions : List DataStoreAction}
    (h : FitsList DataStoreAction.Canonical actions) (hdepth : ∃ a ∈ actions, calls < a.depth)
    (suf : List UInt8) :
    Raises (passthroughLoop (passthroughDataStoreAction calls pathUpdateCount))
      (clientboundDataStoreBytes cin actions ++ suf) .recursionError := by
  refine passthroughLoop_raises (g := DataStoreAction.bytes cout) (p := fun a => a.depth ≤ calls)
    suf h.1 (fun a ha => ?_) fun hall => ?_
  · split_ifs with hle
    · exact passthroughDataStoreAction_rewrites hcount (h.2 a ha) hle
    · exact passthroughDataStoreAction_raises (h.2 a ha) (Nat.lt_of_not_le hle)
  · obtain ⟨a, ha, hlt⟩ := hdepth
    exact absurd (hall a ha) (Nat.not_le_of_lt hlt)

end Walk

/-- **Data store packets survive v924**, as deep as calls of `CHANGE_VALUE` can be nested: a
clientbound v898 packet whose trees have no more levels arrives with a zero behind the change type
of each property update and nothing else changed, and comes back as it was; with a deeper tree, the
first step raises `RecursionError`.  A serverbound v898 packet goes to v924 and comes back as it
was. -/
theorem dataStore_survives (calls : ℕ) (suf : List UInt8) (user user' : UserConnection) :
    (∀ actions, FitsList DataStoreAction.Canonical actions →
      (∀ a ∈ actions, a.depth ≤ calls) →
      (V898ToV924.rewriteClientboundDataStore calls).apply
          (clientboundDataStoreBytes [] actions ++ suf) user =
        .ok (clientboundDataStoreBytes (intLE.bytes 0) actions ++ suf) ∧
      (V924ToV898.rewriteClientboundDataStore calls).apply
          (clientboundDataStoreBytes (intLE.bytes 0) actions ++ suf) user' =
        .ok (clientboundDataStoreBytes [] actions ++ suf)) ∧
    (∀ actions, FitsList DataStoreAction.Canonical actions →
      (∃ a ∈ actions, calls < a.depth) →
      (V898ToV924.rewriteClientboundDataStore calls).apply
          (clientboundDataStoreBytes [] actions ++ suf) user = .error .recursionError) ∧
    ∀ u : PropertyUpdate, u.Canonical → ∃ q,
      V924ToV898.rewriteServerboundDataStore.apply (u.bytes [] ++ suf) user = .ok q ∧
      V898ToV924.rewriteServerboundDataStore.apply q user' = .ok (u.bytes [] ++ suf) := by
  have happend := appendPathUpdateCount_rewrites
  have hstrip := stripPathUpdateCount_rewrites
  refine ⟨fun actions h hdepth => ⟨?_, ?_⟩, fun actions h hdepth => ?_, fun u h => ?_⟩
  · exact apply_of_rewrites (passthroughDataStoreActions_rewrites happend h hdepth) suf user
  · exact apply_of_rewrites (passthroughDataStoreActions_rewrites hstrip h hdepth) suf user'
  · exact (passthroughDataStoreActions_raises happend h hdepth suf).apply user
  · exact ⟨_, apply_of_rewrites (passthroughPropertyUpdate_rewrites happend h) suf user,
      apply_of_rewrites (passthroughPropertyUpdate_rewrites hstrip h) suf user'⟩

/-- A property update. -/
def sampleUpdate : PropertyUpdate where
  dataStoreName := "s"
  property := "p"
  key := "k"
  value := .double 0x3FF0000000000000
  changeType := -1

/-- A tree of depth three between two property updates. -/
def sampleActions : List DataStoreAction :=
  [.update sampleUpdate,
    .change "s" "p" 0 (.map [("a", .map [("b", .string "c"), ("b", .empty)]), ("d", .bool true)]),
    .update sampleUpdate, .removal "s"]

theorem sampleUpdate_canonical : sampleUpdate.Canonical := by
  refine ⟨by decide, by decide, by decide, trivial, by decide⟩

theorem sampleActions_canonical : FitsList DataStoreAction.Canonical sampleActions := by
  have hinner : ChangeValue.Canonical (.map [("b", .string "c"), ("b", .empty)]) :=
    .map (by decide) (by simp +decide)
      (List.forall_mem_cons.mpr ⟨.string (by decide), List.forall_mem_singleton.mpr .empty⟩)
  have htree : ChangeValue.Canonical
      (.map [("a", .map [("b", .string "c"), ("b", .empty)]), ("d", .bool true)]) :=
    .map (by decide) (by simp +decide)
      (List.forall_mem_cons.mpr ⟨hinner, List.forall_mem_singleton.mpr (.bool true)⟩)
  have hchange : DataStoreAction.Canonical (.change "s" "p" 0
      (.map [("a", .map [("b", .string "c"), ("b", .empty)]), ("d", .bool true)])) :=
    ⟨by decide, by decide, by decide, htree⟩
  have hremoval : DataStoreAction.Canonical (.removal "s") := (by decide : FitsString "s")
  refine ⟨by decide, ?_⟩
  rw [sampleActions, List.forall_mem_cons, List.forall_mem_cons, List.forall_mem_cons,
    List.forall_mem_singleton]
  exact ⟨sampleUpdate_canonical, hchange, sampleUpdate_canonical, hremoval⟩

/-- `n` maps around an empty value. -/
def deepValue : ℕ → ChangeValue
  | 0 => .empty
  | n + 1 => .map [("k", deepValue n)]

theorem deepValue_canonical (n : ℕ) : (deepValue n).Canonical := by
  induction n with
  | zero => exact .empty
  | succ n ih =>
    exact .map (by decide : 1 < 2 ^ 32) (List.forall_mem_singleton.mpr (by decide : FitsString "k"))
      (List.forall_mem_singleton.mpr ih)

theorem depth_deepValue (n : ℕ) : (deepValue n).depth = n + 1 := by
  induction n with
  | zero => rfl
  | succ n ih =>
    rw [deepValue, ChangeValue.depth, ChangeValue.entriesDepth, ChangeValue.entriesDepth, ih,
      Nat.max_zero]

/-- An update with 1,500 nested maps. -/
def deepActions : List DataStoreAction := [.change "s" "p" 0 (deepValue 1500)]

theorem deepActions_canonical : FitsList DataStoreAction.Canonical deepActions :=
  ⟨by decide, List.forall_mem_singleton.mpr
    ⟨by decide, by decide, by decide, deepValue_canonical 1500⟩⟩

theorem deepActions_depth : ∃ a ∈ deepActions, recursionLimit < a.depth := by
  refine ⟨_, List.mem_singleton_self _, ?_⟩
  rw [DataStoreAction.depth, depth_deepValue]
  decide

/-- It does not get to v924 where the interpreter's limit is as it is by default. -/
theorem dataStore_deep_lost :
    FitsList DataStoreAction.Canonical deepActions ∧
      (V898ToV924.rewriteClientboundDataStore recursionLimit).apply
          (clientboundDataStoreBytes [] deepActions ++ []) { address := "a" } =
        .error .recursionError :=
  ⟨deepActions_canonical, (passthroughDataStoreActions_raises appendPathUpdateCount_rewrites
    deepActions_canonical deepActions_depth []).apply _⟩

theorem sampleActions_depth : ∀ a ∈ sampleActions, a.depth ≤ 3 := by decide

/-- Three nested calls are enough for the one packet, and the limit is not for the other. -/
theorem dataStore_survives_sample :
    ((V898ToV924.rewriteClientboundDataStore 3).apply
          (clientboundDataStoreBytes [] sampleActions ++ []) { address := "a" } =
        .ok (clientboundDataStoreBytes (intLE.bytes 0) sampleActions ++ []) ∧
      (V924ToV898.rewriteClientboundDataStore 3).apply
          (clientboundDataStoreBytes (intLE.bytes 0) sampleActions ++ []) { address := "a" } =
        .ok (clientboundDataStoreBytes [] sampleActions ++ [])) ∧
    (V898ToV924.rewriteClientboundDataStore recursionLimit).apply
        (clientboundDataStoreBytes [] deepActions ++ []) { address := "a" } =
      .error .recursionError ∧
    ∃ q, V924ToV898.rewriteServerboundDataStore.apply (sampleUpdate.bytes [] ++ [])
        { address := "a" } = .ok q ∧
      V898ToV924.rewriteServerboundDataStore.apply q { address := "a" } =
        .ok (sampleUpdate.bytes [] ++ []) := by
  have hsurvives := dataStore_survives 3 [] { address := "a" } { address := "a" }
  have hraises := dataStore_survives recursionLimit [] { address := "a" } { address := "a" }
  exact ⟨hsurvives.1 sampleActions sampleActions_canonical sampleActions_depth,
    hraises.2.1 deepActions deepActions_canonical deepActions_depth,
    hsurvives.2.2 sampleUpdate sampleUpdate_canonical⟩

end Endweave
