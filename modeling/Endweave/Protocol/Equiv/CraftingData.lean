import Endweave.Codec.Equiv.Runs
import Endweave.Lib.Decimal
import Endweave.Protocol.Packets.CraftingData

/-!
# Correctness of the CraftingData handler

`craftingData_translates`: the handler replaces every furnace of a canonical packet by the shapeless
recipe that smelts the same, under a number of its own, and keeps all else.

`furnaceRecipeIds_distinct_iff`: the identifiers it makes are distinct for the furnaces that smelt
different things exactly when no two of them clash.  The tag is free text, so that the input of one
furnace can be part of the tag of another (`FurnaceKey.recipeId_eq_iff_of_ne`).

Both go through `convertFrom`, the loop as a recursion over the entries.
-/

namespace Endweave

open Wire PacketWrapper V944ToV975

/-! ### Identifiers -/

namespace FurnaceKey

/-- The characters in front of the separator of the result. -/
def stem (k : FurnaceKey) : List Char :=
  let input := k.tag.toList ++ '_' :: Decimal.chars k.inputId
  if k.inputAux = 0x7FFF then input else input ++ '_' :: Decimal.chars k.inputAux

theorem toList_recipeId (k : FurnaceKey) : k.recipeId.toList =
    "endweave:".toList ++ (k.stem ++ "_to".toList) ++ '_' :: Decimal.chars k.resultNetId := by
  have hself : ∀ s : String, toString s = s := fun _ => rfl
  unfold recipeId furnaceRecipeId stem
  by_cases haux : k.inputAux = 0x7FFF
  · simp [haux, hself, Decimal.chars]
  · simp [haux, hself, Decimal.chars]

theorem separator : ('_').isDigit = false ∧ '_' ≠ '-' := by decide

theorem recipeId_eq_iff (k k' : FurnaceKey) :
    k.recipeId = k'.recipeId ↔ k.stem = k'.stem ∧ k.resultNetId = k'.resultNetId := by
  rw [← String.toList_inj, toList_recipeId, toList_recipeId,
    Decimal.append_separator_inj separator.1 separator.2, List.append_right_inj,
    List.append_left_inj]

/-- The auxiliary value of `k` stands where `k'` has its input, and the input of `k` where the tag
of `k'` ends. -/
theorem recipeId_eq_iff_clashes {k k' : FurnaceKey} (haux : k.inputAux ≠ 0x7FFF)
    (haux' : k'.inputAux = 0x7FFF) : k.recipeId = k'.recipeId ↔ k.Clashes k' := by
  have htag : k.tag.toList ++ '_' :: Decimal.chars k.inputId = k'.tag.toList ↔
      k'.tag = k.tag ++ "_" ++ toString k.inputId := by
    rw [← String.toList_inj, String.toList_append, String.toList_append, List.append_assoc, eq_comm]
    exact Iff.rfl
  rw [recipeId_eq_iff]
  unfold stem
  rw [if_neg haux, if_pos haux', Decimal.append_separator_inj separator.1 separator.2, htag]
  constructor
  · rintro ⟨⟨htag, hinput⟩, hresult⟩
    exact ⟨hresult, haux, haux', htag, hinput.symm⟩
  · intro h
    exact ⟨⟨h.tag, h.inputId.symm⟩, h.resultNetId⟩

/-- Furnaces that both have an auxiliary value, or both have none. -/
theorem recipeId_inj_of_aux {k k' : FurnaceKey}
    (haux : k.inputAux = 0x7FFF ↔ k'.inputAux = 0x7FFF) : k.recipeId = k'.recipeId ↔ k = k' := by
  constructor
  · intro h
    obtain ⟨hstem, hresult⟩ := (recipeId_eq_iff k k').mp h
    obtain ⟨tag, inputId, inputAux, resultNetId⟩ := k
    obtain ⟨tag', inputId', inputAux', resultNetId'⟩ := k'
    obtain rfl : resultNetId = resultNetId' := hresult
    unfold stem at hstem
    -- decimals have no separator in them, so that the parts come off from the right
    by_cases hnone : inputAux = 0x7FFF
    · have hnone' : inputAux' = 0x7FFF := haux.mp hnone
      simp only [hnone, hnone', if_true,
        Decimal.append_separator_inj separator.1 separator.2, String.toList_inj] at hstem
      obtain ⟨rfl, rfl⟩ := hstem
      rw [hnone, hnone']
    · have hsome' : ¬ inputAux' = 0x7FFF := fun h' => hnone (haux.mpr h')
      simp only [hnone, hsome', if_false,
        Decimal.append_separator_inj separator.1 separator.2, String.toList_inj] at hstem
      obtain ⟨⟨rfl, rfl⟩, rfl⟩ := hstem
      rfl
  · rintro rfl
    rfl

/-- **Identifiers of furnaces**: of two that smelt different things, they are the same exactly when
one clashes with the other. -/
theorem recipeId_eq_iff_of_ne {k k' : FurnaceKey} (hne : k ≠ k') :
    k.recipeId = k'.recipeId ↔ k.Clashes k' ∨ k'.Clashes k := by
  -- with as many parts in both, nothing can move from one part to another
  by_cases haux : k.inputAux = 0x7FFF <;> by_cases haux' : k'.inputAux = 0x7FFF
  · rw [recipeId_inj_of_aux (by rw [haux, haux'])]
    exact ⟨fun h => absurd h hne, fun h => h.elim (fun h => absurd haux h.withAux)
      fun h => absurd haux' h.withAux⟩
  · rw [eq_comm, recipeId_eq_iff_clashes haux' haux]
    exact ⟨Or.inr, fun h => h.elim (fun h => absurd haux h.withAux) id⟩
  · rw [recipeId_eq_iff_clashes haux haux']
    exact ⟨Or.inl, fun h => h.elim id fun h => absurd haux' h.withAux⟩
  · rw [recipeId_inj_of_aux (by simp only [haux, haux'])]
    exact ⟨fun h => absurd h hne, fun h => h.elim (fun h => absurd h.withoutAux haux')
      fun h => absurd h.withoutAux haux⟩

end FurnaceKey

/-! ### The loop -/

section Loop

variable (uuid5 : String → BitVec 128)

/-- The entries that replace `entries`, the new recipes numbered from `next` on. -/
def convertFrom (next : Int) : List CraftingDataEntry → List CraftingDataEntry
  | [] => []
  | e :: es => match e.furnaceKey with
    | some k => furnaceToShapeless uuid5 e k.inputAux next :: convertFrom (next + 1) es
    | none => e :: convertFrom next es

variable {e : CraftingDataEntry} (es : List CraftingDataEntry) (next : Int)

theorem convertFrom_cons_some {k : FurnaceKey} (h : e.furnaceKey = some k) :
    convertFrom uuid5 next (e :: es) =
      furnaceToShapeless uuid5 e k.inputAux next :: convertFrom uuid5 (next + 1) es := by
  rw [convertFrom, h]

theorem convertFrom_cons_none (h : e.furnaceKey = none) :
    convertFrom uuid5 next (e :: es) = e :: convertFrom uuid5 next es := by
  rw [convertFrom, h]

theorem convertEntry_eq (converted : List CraftingDataEntry) :
    convertEntry uuid5 (converted, next) e = match e.furnaceKey with
      | some k => (converted ++ [furnaceToShapeless uuid5 e k.inputAux next], next + 1)
      | none => (converted ++ [e], next) := by
  unfold convertEntry CraftingDataEntry.furnaceKey
  by_cases hfurnace : e.type = .furnaceRecipe
  · simp only [if_pos hfurnace]
  · by_cases haux : e.type = .furnaceAuxRecipe
    · simp only [if_neg hfurnace, if_pos haux]
    · simp only [if_neg hfurnace, if_neg haux]

theorem foldl_convertEntry (converted entries : List CraftingDataEntry) :
    (entries.foldl (convertEntry uuid5) (converted, next)).1 =
      converted ++ convertFrom uuid5 next entries := by
  induction entries generalizing converted next with
  | nil => exact (List.append_nil converted).symm
  | cons e es ih =>
    rw [List.foldl_cons, convertEntry_eq]
    cases hkey : e.furnaceKey with
    | some k => rw [ih, List.append_assoc, List.singleton_append, convertFrom_cons_some _ _ _ hkey]
    | none => rw [ih, List.append_assoc, List.singleton_append, convertFrom_cons_none _ _ _ hkey]

theorem convertEntries_eq (entries : List CraftingDataEntry) :
    convertEntries uuid5 entries = convertFrom uuid5 (existingMax entries + 1) entries :=
  foldl_convertEntry uuid5 _ [] entries

end Loop

namespace CraftingDataEntry

theorem furnaceKey_eq_some {e : CraftingDataEntry} {k : FurnaceKey} (h : e.furnaceKey = some k) :
    k.tag = e.tag ∧ k.inputId = e.itemData ∧ k.resultNetId = e.itemResult.networkId := by
  unfold furnaceKey at h
  split_ifs at h
  · obtain rfl := Option.some.inj h
    exact ⟨rfl, rfl, rfl⟩
  · obtain rfl := Option.some.inj h
    exact ⟨rfl, rfl, rfl⟩

variable (uuid5 : String → BitVec 128) (netId : Int)

theorem furnaceKey_furnaceToShapeless (e : CraftingDataEntry) (aux : Int) :
    (furnaceToShapeless uuid5 e aux netId).furnaceKey = none := by
  unfold furnaceKey furnaceToShapeless
  rw [if_neg nofun, if_neg nofun]

theorem smelts_furnaceToShapeless {e : CraftingDataEntry} {k : FurnaceKey}
    (h : e.furnaceKey = some k) :
    Smelts k e.itemResult (furnaceToShapeless uuid5 e k.inputAux netId) := by
  obtain ⟨htag, hinput, _⟩ := furnaceKey_eq_some h
  unfold Smelts
  rw [htag, hinput]
  exact ⟨rfl, _, rfl, rfl, rfl, rfl, rfl, rfl⟩

theorem recipeId_furnaceToShapeless {e : CraftingDataEntry} {k : FurnaceKey}
    (h : e.furnaceKey = some k) :
    furnaceRecipeId e.tag e.itemData k.inputAux e.itemResult.networkId = k.recipeId := by
  obtain ⟨htag, hinput, hresult⟩ := furnaceKey_eq_some h
  rw [FurnaceKey.recipeId, htag, hinput, hresult]

end CraftingDataEntry

namespace CraftingData

variable (uuid5 : String → BitVec 128)

theorem replaces_convertFrom (next : Int) (entries : List CraftingDataEntry) :
    List.Forall₂ CraftingDataEntry.Replaces entries (convertFrom uuid5 next entries) := by
  induction entries generalizing next with
  | nil => exact .nil
  | cons e es ih =>
    cases hkey : e.furnaceKey with
    | some k =>
      rw [convertFrom_cons_some _ _ _ hkey]
      refine .cons ?_ (ih (next + 1))
      unfold CraftingDataEntry.Replaces
      rw [hkey]
      exact CraftingDataEntry.smelts_furnaceToShapeless uuid5 next hkey
    | none =>
      rw [convertFrom_cons_none _ _ _ hkey]
      refine .cons ?_ (ih next)
      unfold CraftingDataEntry.Replaces
      rw [hkey]

theorem furnaceKey_of_mem_convertFrom (next : Int) (entries : List CraftingDataEntry) :
    ∀ e ∈ convertFrom uuid5 next entries, e.furnaceKey = none := by
  induction entries generalizing next with
  | nil => exact fun e he => absurd he List.not_mem_nil
  | cons e es ih =>
    cases hkey : e.furnaceKey with
    | some k =>
      rw [convertFrom_cons_some _ _ _ hkey]
      exact List.forall_mem_cons.mpr
        ⟨CraftingDataEntry.furnaceKey_furnaceToShapeless uuid5 next e _, ih (next + 1)⟩
    | none =>
      rw [convertFrom_cons_none _ _ _ hkey]
      exact List.forall_mem_cons.mpr ⟨hkey, ih next⟩

section

variable {e e' : CraftingDataEntry} (es es' : List CraftingDataEntry)

theorem newNetIds_cons_some {k : FurnaceKey} {r : Recipe} (h : e.furnaceKey = some k)
    (h' : e'.recipe = some r) :
    newNetIds (e :: es) (e' :: es') = r.recipeNetId :: newNetIds es es' := by
  unfold newNetIds
  rw [List.zip_cons_cons, List.filterMap_cons]
  simp only [h, h', Option.isSome_some, if_true, Option.map_some]

theorem newNetIds_cons_none (h : e.furnaceKey = none) :
    newNetIds (e :: es) (e' :: es') = newNetIds es es' := by
  unfold newNetIds
  rw [List.zip_cons_cons, List.filterMap_cons]
  simp only [h, Option.isSome_none, Bool.false_eq_true, if_false]

end

/-- The new recipes are numbered upwards from `next`. -/
theorem newNetIds_convertFrom (next : Int) (entries : List CraftingDataEntry) :
    (newNetIds entries (convertFrom uuid5 next entries)).Nodup ∧
      ∀ n ∈ newNetIds entries (convertFrom uuid5 next entries), next ≤ n := by
  -- that all numbers are `next` or more carries the induction
  induction entries generalizing next with
  | nil => exact ⟨List.nodup_nil, fun n hn => absurd hn List.not_mem_nil⟩
  | cons e es ih =>
    cases hkey : e.furnaceKey with
    | some k =>
      obtain ⟨hnodup, hle⟩ := ih (next + 1)
      have hlater : ∀ n ∈ newNetIds es (convertFrom uuid5 (next + 1) es), next < n :=
        fun n hn => by have := hle n hn; omega
      rw [convertFrom_cons_some _ _ _ hkey, newNetIds_cons_some _ _ hkey rfl]
      constructor
      · exact List.nodup_cons.mpr ⟨fun hmem => Int.lt_irrefl _ (hlater next hmem), hnodup⟩
      · exact List.forall_mem_cons.mpr ⟨Int.le_refl next, fun n hn => (hlater n hn).le⟩
    | none =>
      rw [convertFrom_cons_none _ _ _ hkey, newNetIds_cons_none _ _ hkey]
      exact ih next

/-- A furnace is replaced in its place, under the identifier of what it smelts. -/
theorem recipeIdAt_convertFrom {next : Int} {entries : List CraftingDataEntry} {i : Nat}
    {k : FurnaceKey} (h : furnaceKeyAt entries i = some k) :
    recipeIdAt (convertFrom uuid5 next entries) i = some k.recipeId := by
  induction entries generalizing next i with
  | nil => exact absurd h (by simp [furnaceKeyAt])
  | cons e es ih =>
    cases i with
    | zero =>
      have hkey : e.furnaceKey = some k := h
      rw [convertFrom_cons_some _ _ _ hkey]
      exact congrArg some (CraftingDataEntry.recipeId_furnaceToShapeless hkey)
    | succ i =>
      have h : furnaceKeyAt es i = some k := h
      cases hkey : e.furnaceKey with
      | some _ =>
        rw [convertFrom_cons_some _ _ _ hkey]
        exact ih h
      | none =>
        rw [convertFrom_cons_none _ _ _ hkey]
        exact ih h

theorem mem_furnaceKeys_iff {entries : List CraftingDataEntry} {k : FurnaceKey} :
    k ∈ furnaceKeys entries ↔ ∃ i, furnaceKeyAt entries i = some k := by
  unfold furnaceKeys furnaceKeyAt
  rw [List.mem_filterMap]
  constructor
  · rintro ⟨e, he, hkey⟩
    obtain ⟨i, hi⟩ := List.mem_iff_getElem?.mp he
    exact ⟨i, by rw [hi, Option.bind_some, hkey]⟩
  · rintro ⟨i, hi⟩
    obtain ⟨e, he, hkey⟩ := Option.bind_eq_some_iff.mp hi
    exact ⟨e, List.mem_of_getElem? he, hkey⟩

theorem distinctIds_iff (entries : List CraftingDataEntry) :
    DistinctIds entries (convertEntries uuid5 entries) ↔
      ¬ ∃ k ∈ furnaceKeys entries, ∃ k' ∈ furnaceKeys entries, k.Clashes k' := by
  unfold DistinctIds
  rw [convertEntries_eq]
  constructor
  · rintro h ⟨k, hk, k', hk', hclash⟩
    obtain ⟨i, hi⟩ := mem_furnaceKeys_iff.mp hk
    obtain ⟨j, hj⟩ := mem_furnaceKeys_iff.mp hk'
    have hne : k ≠ k' := fun heq => hclash.withAux (heq ▸ hclash.withoutAux)
    apply h i j k k' hi hj hne
    rw [recipeIdAt_convertFrom uuid5 hi, recipeIdAt_convertFrom uuid5 hj,
      (FurnaceKey.recipeId_eq_iff_of_ne hne).mpr (Or.inl hclash)]
  · intro h i j k k' hi hj hne heq
    rw [recipeIdAt_convertFrom uuid5 hi, recipeIdAt_convertFrom uuid5 hj] at heq
    have hk : k ∈ furnaceKeys entries := mem_furnaceKeys_iff.mpr ⟨i, hi⟩
    have hk' : k' ∈ furnaceKeys entries := mem_furnaceKeys_iff.mpr ⟨j, hj⟩
    rcases (FurnaceKey.recipeId_eq_iff_of_ne hne).mp (Option.some.inj heq) with hclash | hclash
    · exact h ⟨k, hk, k', hk', hclash⟩
    · exact h ⟨k', hk', k, hk, hclash⟩

end CraftingData

/-! ### The packet -/

theorem shapelessIngredient_wellFormed {itemId itemAux : Int} (hid : itemId ≠ 0 ∧ InInt16 itemId)
    (haux : InInt16 itemAux) : RecipeIngredient.WellFormed
      { descriptor := { kind := .default, itemId := itemId, auxValue := itemAux }
        count := 1 } where
  descriptor := {
    onWire := rfl
    itemId := hid.2
    auxValue := haux
    noAux := fun _ hzero => absurd hzero hid.1
    tagExpression := (by decide : FitsString "")
    molangVersion := (by decide : InByte 0)
    itemTag := (by decide : FitsString "")
    fullName := (by decide : FitsString "") }
  count := (by decide : InInt32 1)

/-- Half of a UUID. -/
theorem land_inUInt64 (n : Nat) : InUInt64 ((n &&& 0xFFFFFFFFFFFFFFFF : Nat) : Int) := by
  have hle : n &&& 0xFFFFFFFFFFFFFFFF ≤ 0xFFFFFFFFFFFFFFFF := Nat.and_le_right
  exact ⟨by omega, by omega⟩

namespace CraftingDataEntry

theorem Encodable.furnace_fields {e : CraftingDataEntry} (h : e.Encodable) {k : FurnaceKey}
    (hkey : e.furnaceKey = some k) : e.itemResult.WellFormedResult ∧ FitsString e.tag := by
  cases h with
  | furnace _ hresult htag => exact ⟨hresult, htag⟩
  | furnaceAux _ _ hresult htag => exact ⟨hresult, htag⟩
  | @recipe type r _ hclass =>
    -- an entry with a recipe is none of a furnace
    unfold furnaceKey at hkey
    cases type with
    | furnaceRecipe | furnaceAuxRecipe => cases hclass
    | _ => cases hkey

theorem Encodable.furnaceToShapeless {e : CraftingDataEntry} (h : e.Encodable) {k : FurnaceKey}
    (hkey : e.furnaceKey = some k) (uuid5 : String → BitVec 128)
    (hinput : k.inputId ≠ 0 ∧ InInt16 k.inputId ∧ InInt16 k.inputAux) (hid : FitsString k.recipeId)
    {netId : Int} (hnetId : InUInt32 netId) :
    (V944ToV975.furnaceToShapeless uuid5 e k.inputAux netId).Encodable := by
  obtain ⟨hresult, htag⟩ := h.furnace_fields hkey
  have hitem : k.inputId = e.itemData := (furnaceKey_eq_some hkey).2.1
  rw [hitem] at hinput
  rw [← recipeId_furnaceToShapeless hkey] at hid
  -- fields that the handler leaves at their defaults are in range too
  refine .recipe ?_ rfl
  constructor
  case onWire => rfl
  case counted => exact (by decide : 1 < 2 ^ 32)
  case recipeId => exact hid
  case uuid => exact ⟨land_inUInt64 _, land_inUInt64 _⟩
  case width => exact (by decide : InInt32 0)
  case height => exact (by decide : InInt32 0)
  case priority => exact (by decide : InInt32 0)
  case recipeNetId => exact hnetId
  case ingredients =>
    exact List.forall_mem_singleton.mpr
      (shapelessIngredient_wellFormed ⟨hinput.1, hinput.2.1⟩ hinput.2.2)
  case results_length => exact (by decide : 1 < 2 ^ 32)
  case results => exact List.forall_mem_singleton.mpr hresult
  case tag => exact htag
  case requirement =>
    exact ⟨fun _ => rfl, (by decide : 0 < 2 ^ 32), fun i hi => absurd hi List.not_mem_nil⟩

end CraftingDataEntry

namespace CraftingData

theorem le_existingMax {entries : List CraftingDataEntry} {e : CraftingDataEntry}
    (he : e ∈ entries) {r : Recipe} (hr : e.recipe = some r) :
    r.recipeNetId ≤ existingMax entries := by
  have hmem : r.recipeNetId ∈
      (entries.filterMap CraftingDataEntry.recipe).map Recipe.recipeNetId :=
    List.mem_map.mpr ⟨r, List.mem_filterMap.mpr ⟨e, he, hr⟩, rfl⟩
  unfold existingMax
  cases hmax : ((entries.filterMap CraftingDataEntry.recipe).map Recipe.recipeNetId).max? with
  | none =>
    -- the default 0 stands for a packet without recipes
    rw [List.max?_eq_none_iff] at hmax
    rw [hmax] at hmem
    exact absurd hmem List.not_mem_nil
  | some m => exact (List.max?_eq_some_iff.mp hmax).2 _ hmem

/-- The largest number is 0 or that of a recipe. -/
theorem existingMax_cases (entries : List CraftingDataEntry) :
    existingMax entries = 0 ∨
      ∃ e ∈ entries, ∃ r, e.recipe = some r ∧ r.recipeNetId = existingMax entries := by
  unfold existingMax
  cases hmax : ((entries.filterMap CraftingDataEntry.recipe).map Recipe.recipeNetId).max? with
  | none => exact Or.inl rfl
  | some m =>
    obtain ⟨r, hr, hm⟩ := List.mem_map.mp (List.max?_mem hmax)
    obtain ⟨e, he, hrecipe⟩ := List.mem_filterMap.mp hr
    exact Or.inr ⟨e, he, r, hrecipe, hm⟩

theorem furnaceKeys_cons (e : CraftingDataEntry) (es : List CraftingDataEntry) :
    furnaceKeys (e :: es) = e.furnaceKey.toList ++ furnaceKeys es := by
  unfold furnaceKeys
  rw [List.filterMap_cons]
  cases e.furnaceKey <;> rfl

theorem encodable_convertFrom (uuid5 : String → BitVec 128) {next : Int}
    {entries : List CraftingDataEntry} (h : ∀ e ∈ entries, e.Encodable)
    (hinput : ∀ k ∈ furnaceKeys entries,
      k.inputId ≠ 0 ∧ InInt16 k.inputId ∧ InInt16 k.inputAux)
    (hid : ∀ k ∈ furnaceKeys entries, FitsString k.recipeId) (hnext : 0 ≤ next)
    (hroom : next + (furnaceKeys entries).length ≤ 2 ^ 32) :
    ∀ e ∈ convertFrom uuid5 next entries, e.Encodable := by
  induction entries generalizing next with
  | nil => exact fun e he => absurd he List.not_mem_nil
  | cons e es ih =>
    obtain ⟨he, hes⟩ := List.forall_mem_cons.mp h
    rw [furnaceKeys_cons] at hinput hid hroom
    have hinput' := fun k hk => hinput k (List.mem_append_right _ hk)
    have hid' := fun k hk => hid k (List.mem_append_right _ hk)
    cases hkey : e.furnaceKey with
    | some k =>
      have hk : k ∈ e.furnaceKey.toList ++ furnaceKeys es := by
        rw [hkey]
        exact List.mem_cons_self ..
      rw [hkey, List.length_append] at hroom
      -- a number is used up, and a furnace fewer is left
      have hone : (some k).toList.length = 1 := rfl
      have hnetId : InUInt32 next := ⟨hnext, by omega⟩
      rw [convertFrom_cons_some _ _ _ hkey]
      refine List.forall_mem_cons.mpr
        ⟨he.furnaceToShapeless hkey uuid5 (hinput k hk) (hid k hk) hnetId, ?_⟩
      exact ih hes hinput' hid' (by omega) (by omega)
    | none =>
      rw [hkey] at hroom
      rw [convertFrom_cons_none _ _ _ hkey]
      exact List.forall_mem_cons.mpr ⟨he, ih hes hinput' hid' hnext hroom⟩

theorem length_furnaceKeys_le (entries : List CraftingDataEntry) :
    (furnaceKeys entries).length ≤ entries.length := List.length_filterMap_le _ _

namespace Canonical

variable {entries : List CraftingDataEntry} (h : Canonical entries)

include h

theorem existingMax_nonneg : 0 ≤ existingMax entries := by
  rcases existingMax_cases entries with hzero | ⟨e, he, r, hr, hmax⟩
  · exact hzero.ge
  · have hencodable := h.encodable e he
    cases hencodable with
    | furnace _ _ _ => cases hr
    | furnaceAux _ _ _ _ => cases hr
    | recipe hrecipe _ =>
      obtain rfl := Option.some.inj hr
      rw [← hmax]
      exact hrecipe.recipeNetId.1

theorem room : existingMax entries + (furnaceKeys entries).length < 2 ^ 32 := by
  rcases existingMax_cases entries with hzero | ⟨e, he, r, hr, hmax⟩
  · have hle := length_furnaceKeys_le entries
    have hlt := h.length
    omega
  · rw [← hmax]
    exact h.netIds e he r hr

theorem roundTrips : (arrayType craftingDataEntry).RoundTrips entries :=
  arrayType_roundTrips h.length fun e he => (h.encodable e he).roundTrips

theorem converted_roundTrips (uuid5 : String → BitVec 128) :
    (arrayType craftingDataEntry).RoundTrips (convertEntries uuid5 entries) := by
  have hnonneg := h.existingMax_nonneg
  have hroom := h.room
  rw [convertEntries_eq]
  apply arrayType_roundTrips
  · rw [← (replaces_convertFrom uuid5 (existingMax entries + 1) entries).length_eq]
    exact h.length
  · intro e he
    exact (encodable_convertFrom uuid5 h.encodable h.input h.recipeId (by omega) (by omega)
      e he).roundTrips

theorem delivers (uuid5 : String → BitVec 128) (suf : List UInt8) :
    Delivers (rewriteCraftingData uuid5) ((arrayType craftingDataEntry).bytes entries ++ suf)
      ((arrayType craftingDataEntry).bytes (convertEntries uuid5 entries) ++ suf) :=
  Delivers.read h.roundTrips
    (Delivers.write (h.converted_roundTrips uuid5) (passthroughAll_delivers suf))

theorem apply_eq (uuid5 : String → BitVec 128) (suf : List UInt8) (user : UserConnection) :
    (rewriteCraftingData uuid5).apply ((arrayType craftingDataEntry).bytes entries ++ suf) user =
      .ok ((arrayType craftingDataEntry).bytes (convertEntries uuid5 entries) ++ suf) :=
  (h.delivers uuid5 suf).translates.apply user

end Canonical

end CraftingData

/-- **Furnaces in v975**: the handler translates every canonical packet.  What follows the list is
kept, and the new list has the old entries in their order, but for those of furnaces: each has
become the shapeless recipe that smelts the same, and these have numbers of their own above all that
were in use. -/
theorem craftingData_translates (uuid5 : String → BitVec 128) {entries : List CraftingDataEntry}
    (h : CraftingData.Canonical entries) (suf : List UInt8) (user : UserConnection) :
    ∃ converted bs,
      (rewriteCraftingData uuid5).apply ((arrayType craftingDataEntry).bytes entries ++ suf) user =
        .ok (bs ++ suf) ∧
      (arrayType craftingDataEntry).read ⟨bs ++ suf, 0⟩ =
        .ok converted ⟨bs ++ suf, bs.length⟩ ∧
      List.Forall₂ CraftingDataEntry.Replaces entries converted ∧
      (∀ e ∈ converted, e.type ≠ .furnaceRecipe ∧ e.type ≠ .furnaceAuxRecipe) ∧
      (CraftingData.newNetIds entries converted).Nodup ∧
      ∀ n ∈ CraftingData.newNetIds entries converted, ∀ e ∈ entries, ∀ r, e.recipe = some r →
        r.recipeNetId < n := by
  refine ⟨convertEntries uuid5 entries, _, h.apply_eq uuid5 suf user, ?_, ?_⟩
  · have hread := (h.converted_roundTrips uuid5).reads
      ⟨(arrayType craftingDataEntry).bytes (convertEntries uuid5 entries) ++ suf, 0⟩ suf
      (Cursor.within_start _) rfl
    rw [hread, Cursor.advance, Nat.zero_add]
  · rw [convertEntries_eq]
    obtain ⟨hnodup, hle⟩ :=
      CraftingData.newNetIds_convertFrom uuid5 (existingMax entries + 1) entries
    refine ⟨CraftingData.replaces_convertFrom uuid5 _ entries, fun e he => ?_, hnodup, ?_⟩
    · have hnone := CraftingData.furnaceKey_of_mem_convertFrom uuid5 _ entries e he
      unfold CraftingDataEntry.furnaceKey at hnone
      constructor
      · intro heq
        rw [if_pos heq] at hnone
        cases hnone
      · intro heq
        rw [heq] at hnone
        cases hnone
    · intro n hn e he r hr
      have hmax := CraftingData.le_existingMax he hr
      have hn := hle n hn
      omega

theorem sampleCraftingData_canonical : CraftingData.Canonical sampleCraftingData where
  length := by decide
  encodable e he := (sampleCraftingData_wellFormed e he).encodable
  input := by decide
  recipeId := by decide
  netIds := by
    intro e he r hr
    rcases List.mem_pair.mp he with rfl | rfl
    · cases hr
    · obtain rfl := Option.some.inj hr
      decide

theorem craftingData_translates_sample :
    ∃ converted bs,
      (rewriteCraftingData fun _ => 0).apply
        ((arrayType craftingDataEntry).bytes sampleCraftingData ++ [7]) { address := "a" } =
          .ok (bs ++ [7]) ∧
      (arrayType craftingDataEntry).read ⟨bs ++ [7], 0⟩ = .ok converted ⟨bs ++ [7], bs.length⟩ ∧
      List.Forall₂ CraftingDataEntry.Replaces sampleCraftingData converted ∧
      (∀ e ∈ converted, e.type ≠ .furnaceRecipe ∧ e.type ≠ .furnaceAuxRecipe) ∧
      (CraftingData.newNetIds sampleCraftingData converted).Nodup ∧
      ∀ n ∈ CraftingData.newNetIds sampleCraftingData converted, ∀ e ∈ sampleCraftingData,
        ∀ r, e.recipe = some r → r.recipeNetId < n :=
  craftingData_translates (fun _ => 0) sampleCraftingData_canonical [7] { address := "a" }

/-! ### The identifiers of a packet -/

/-- What the handler has done to a packet that it accepts. -/
theorem rewriteCraftingData_eq_ok {uuid5 : String → BitVec 128} {payload out : List UInt8}
    {user : UserConnection} (h : (rewriteCraftingData uuid5).apply payload user = .ok out) :
    ∃ entries c bs, (arrayType craftingDataEntry).read ⟨payload, 0⟩ = .ok entries c ∧
      (arrayType craftingDataEntry).write (convertEntries uuid5 entries) [] = .ok () bs ∧
      out = bs ++ c.rest := by
  obtain ⟨s, hs, rfl⟩ := apply_eq_ok h
  obtain ⟨entries, s₁, hentries, hs⟩ := bind_eq_ok hs
  obtain ⟨c, hread, rfl⟩ := read_eq_ok hentries
  obtain ⟨_, s₂, hconverted, hs⟩ := bind_eq_ok hs
  obtain ⟨bs, hwrite, rfl⟩ := write_eq_ok hconverted
  exact ⟨entries, c, bs, hread, hwrite, passthroughAll_eq_ok hs⟩

/-- **Identifiers of a packet**: whatever packet the handler accepts, furnaces that smelt different
things have different identifiers exactly when no two of them clash. -/
theorem furnaceRecipeIds_distinct_iff {uuid5 : String → BitVec 128} {payload out : List UInt8}
    {user : UserConnection} (h : (rewriteCraftingData uuid5).apply payload user = .ok out) :
    ∃ entries c bs, (arrayType craftingDataEntry).read ⟨payload, 0⟩ = .ok entries c ∧
      (arrayType craftingDataEntry).write (convertEntries uuid5 entries) [] = .ok () bs ∧
      out = bs ++ c.rest ∧
      (CraftingData.DistinctIds entries (convertEntries uuid5 entries) ↔
        ¬ ∃ k ∈ CraftingData.furnaceKeys entries, ∃ k' ∈ CraftingData.furnaceKeys entries,
          k.Clashes k') := by
  obtain ⟨entries, c, bs, hread, hwrite, hout⟩ := rewriteCraftingData_eq_ok h
  exact ⟨entries, c, bs, hread, hwrite, hout, CraftingData.distinctIds_iff uuid5 entries⟩

/-- Stone with the auxiliary value 1 in the furnace `a`, and any stone in another furnace. -/
def sampleFurnaces (tag : String) : List CraftingDataEntry :=
  [{ recipe := none, itemData := 1, itemAux := 1, tag := "a", itemResult := { networkId := 5 },
     type := .furnaceAuxRecipe },
    { recipe := none, itemData := 1, itemAux := 0, tag, itemResult := { networkId := 5 },
      type := .furnaceRecipe }]

theorem sampleFurnaces_canonical {tag : String} (htag : FitsString tag)
    (hid : ∀ k ∈ CraftingData.furnaceKeys (sampleFurnaces tag), FitsString k.recipeId) :
    CraftingData.Canonical (sampleFurnaces tag) where
  length := (by decide : 2 < 2 ^ 32)
  encodable := by
    have hresult : ItemInstance.WellFormedResult { networkId := 5 } := by constructor <;> decide
    intro e he
    rcases List.mem_pair.mp he with rfl | rfl
    · exact .furnaceAux (by decide) (by decide) hresult (by decide)
    · exact .furnace (by decide) hresult htag
  input := by
    intro k hk
    have hrange : (1 : Int) ≠ 0 ∧ InInt16 1 ∧ InInt16 1 ∧ InInt16 0x7FFF := by decide
    rcases List.mem_pair.mp hk with rfl | rfl
    · exact ⟨hrange.1, hrange.2.1, hrange.2.2.1⟩
    · exact ⟨hrange.1, hrange.2.1, hrange.2.2.2⟩
  recipeId := hid
  netIds := by
    intro e he r hr
    rcases List.mem_pair.mp he with rfl | rfl <;> cases hr

/-- Two furnaces that smelt different things, neither of which clashes with the other. -/
theorem furnaceRecipeIds_distinct_iff_sample :
    CraftingData.furnaceKeys (sampleFurnaces "b") = [⟨"a", 1, 1, 5⟩, ⟨"b", 1, 0x7FFF, 5⟩] ∧
      CraftingData.DistinctIds (sampleFurnaces "b")
        (convertEntries (fun _ => 0) (sampleFurnaces "b")) := by
  have hcanonical : CraftingData.Canonical (sampleFurnaces "b") :=
    sampleFurnaces_canonical (by decide) (by decide)
  have hread := hcanonical.roundTrips.reads
    ⟨(arrayType craftingDataEntry).bytes (sampleFurnaces "b") ++ [7], 0⟩ [7]
    (Cursor.within_start _) (Cursor.rest_start _)
  obtain ⟨entries, c, bs, hread', _, _, hiff⟩ := furnaceRecipeIds_distinct_iff
    (hcanonical.apply_eq (fun _ => 0) [7] { address := "a" })
  rw [hread] at hread'
  obtain ⟨rfl, _⟩ := EStateM.Result.ok.inj hread'
  refine ⟨rfl, hiff.mpr ?_⟩
  rintro ⟨k, hk, k', hk', hclash⟩
  have htag := hclash.tag
  rcases List.mem_pair.mp hk with rfl | rfl
  · rcases List.mem_pair.mp hk' with rfl | rfl
    · exact absurd hclash.withoutAux (by decide)
    · exact absurd htag (by decide)
  · exact absurd rfl hclash.withAux

/-- The two furnaces have the same tag, once the input is behind it. -/
def sampleClash : List CraftingDataEntry := sampleFurnaces "a_1"

theorem sampleClash_canonical : CraftingData.Canonical sampleClash :=
  sampleFurnaces_canonical (by decide) (by decide)

/-- **Two furnaces with one identifier**: the packet is accepted, and both are `endweave:a_1_1_to_5`
in the list that is written. -/
theorem furnaceRecipeIds_collide :
    ∃ bs, (rewriteCraftingData fun _ => 0).apply
        [2, 6, 2, 2, 10, 0, 0, 0, 0, 0, 1, 97, 4, 2, 10, 0, 0, 0, 0, 0, 3, 97, 95, 49]
        { address := "a" } = .ok bs ∧
      (arrayType craftingDataEntry).Parses bs (convertEntries (fun _ => 0) sampleClash) ∧
      CraftingData.furnaceKeyAt sampleClash 0 = some ⟨"a", 1, 1, 5⟩ ∧
      CraftingData.furnaceKeyAt sampleClash 1 = some ⟨"a_1", 1, 0x7FFF, 5⟩ ∧
      CraftingData.recipeIdAt (convertEntries (fun _ => 0) sampleClash) 0 =
        some "endweave:a_1_1_to_5" ∧
      CraftingData.recipeIdAt (convertEntries (fun _ => 0) sampleClash) 1 =
        some "endweave:a_1_1_to_5" := by
  have happly := sampleClash_canonical.apply_eq (fun _ => 0) [] { address := "a" }
  rw [List.append_nil, List.append_nil] at happly
  exact ⟨_, happly, (sampleClash_canonical.converted_roundTrips fun _ => 0).parses, rfl, rfl,
    by decide, by decide⟩

end Endweave
