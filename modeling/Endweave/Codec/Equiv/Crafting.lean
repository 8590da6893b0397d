import Endweave.Codec.Equiv.Inventory
import Endweave.Codec.Types.Crafting

/-!
# Correctness of the recipe codecs

`craftingData_roundTrips`: a list of well-formed recipe entries is read back from what is written.

An entry is well formed when the fields that its kind does not write are at their defaults; `onWire`
names them once for each kind of descriptor and each class of recipe.
-/

namespace Endweave

open Wire PacketReader PacketWriter

/-! ### Results -/

/-- The item without the fields that the descriptor of recipe results does not write. -/
def ItemInstance.resultOnWire (item : ItemInstance) : ItemInstance where
  networkId := item.networkId
  count := item.count
  auxValue := item.auxValue
  blockRuntimeId := item.blockRuntimeId
  userData := item.userData

structure ItemInstance.WellFormedResult (item : ItemInstance) : Prop where
  onWire : item.resultOnWire = item
  networkId : InInt32 item.networkId
  air : item.networkId = 0 → item = {}
  count : InUInt16 item.count
  auxValue : InUInt32 item.auxValue
  blockRuntimeId : InInt32 item.blockRuntimeId
  userData : item.userData.length < 2 ^ 32

theorem descriptorFields_codes {item : ItemInstance} (h : item.WellFormedResult) :
    Codes (writeDescriptorFields item) (readDescriptorFields item.networkId) item := by
  apply Codes.bind (ushortLE_roundTrips h.count)
  apply Codes.bind (uvarInt_roundTrips h.auxValue)
  apply Codes.bind (varInt_roundTrips h.blockRuntimeId)
  exact Codes.last (userData_codes h.userData) (congrArg pure h.onWire)

theorem networkItemInstanceDescriptor_roundTrips {item : ItemInstance}
    (h : item.WellFormedResult) : networkItemInstanceDescriptor.RoundTrips item := by
  apply Codes.bind (varInt_roundTrips h.networkId)
  by_cases hair : item.networkId = 0
  · rw [if_pos hair, if_pos hair, h.air hair]
    exact Codes.pure _
  · rw [if_neg hair, if_neg hair]
    exact descriptorFields_codes h

/-! ### Ingredients -/

/-- The descriptor without the fields that its kind does not write. -/
def ItemDescriptor.onWire (d : ItemDescriptor) : ItemDescriptor :=
  match d.kind with
  | .invalid => { kind := d.kind }
  | .default => { kind := d.kind, itemId := d.itemId, auxValue := d.auxValue }
  | .molang =>
    { kind := d.kind, tagExpression := d.tagExpression, molangVersion := d.molangVersion }
  | .itemTag => { kind := d.kind, itemTag := d.itemTag }
  | .deferred => { kind := d.kind, fullName := d.fullName, auxValue := d.auxValue }
  | .complexAlias => { kind := d.kind, fullName := d.fullName }

structure ItemDescriptor.WellFormed (d : ItemDescriptor) : Prop where
  onWire : d.onWire = d
  itemId : InInt16 d.itemId
  auxValue : InInt16 d.auxValue
  noAux : d.kind = .default → d.itemId = 0 → d.auxValue = 0
  tagExpression : FitsString d.tagExpression
  molangVersion : InByte d.molangVersion
  itemTag : FitsString d.itemTag
  fullName : FitsString d.fullName

theorem ItemDescriptorKind.ofValue_value {σ : Type} (kind : ItemDescriptorKind) :
    (ofValue kind.value : EStateM PyException σ ItemDescriptorKind) = pure kind := by
  cases kind <;> rfl

theorem UnlockingContext.ofValue_value {σ : Type} (context : UnlockingContext) :
    (ofValue context.value : EStateM PyException σ UnlockingContext) = pure context := by
  cases context <;> rfl

theorem CraftingDataEntryType.ofValue_value {σ : Type} (type : CraftingDataEntryType) :
    (ofValue type.value : EStateM PyException σ CraftingDataEntryType) = pure type := by
  cases type <;> rfl

theorem descriptor_codes {d : ItemDescriptor} (h : d.WellFormed) :
    Codes (writeDescriptor d) (readDescriptor d.kind) d := by
  -- in each case `hwire` says that the fields that are not written are at their defaults
  have hwire := h.onWire
  unfold ItemDescriptor.onWire at hwire
  unfold writeDescriptor
  cases hkind : d.kind with
  | invalid =>
    simp only [hkind] at hwire
    exact hwire ▸ Codes.pure _
  | default =>
    simp only [hkind] at hwire
    apply Codes.bind (shortLE_roundTrips h.itemId)
    by_cases hid : d.itemId = 0
    · -- no auxiliary value is written, and 0 is read
      rw [h.noAux hkind hid] at hwire
      rw [if_neg (not_not_intro hid), if_neg (not_not_intro hid), pure_bind]
      exact hwire ▸ Codes.pure _
    · rw [if_pos hid, if_pos hid]
      exact Codes.last (shortLE_roundTrips h.auxValue) (congrArg pure hwire)
  | molang =>
    simp only [hkind] at hwire
    apply Codes.bind (string_roundTrips h.tagExpression)
    exact Codes.last (byte_roundTrips h.molangVersion) (congrArg pure hwire)
  | itemTag =>
    simp only [hkind] at hwire
    exact Codes.last (string_roundTrips h.itemTag) (congrArg pure hwire)
  | deferred =>
    simp only [hkind] at hwire
    apply Codes.bind (string_roundTrips h.fullName)
    exact Codes.last (shortLE_roundTrips h.auxValue) (congrArg pure hwire)
  | complexAlias =>
    simp only [hkind] at hwire
    exact Codes.last (string_roundTrips h.fullName) (congrArg pure hwire)

theorem kind_inByte (kind : ItemDescriptorKind) : InByte kind.value := by
  cases kind <;> decide

theorem itemDescriptor_roundTrips {d : ItemDescriptor} (h : d.WellFormed) :
    itemDescriptor.RoundTrips d := by
  apply Codes.bind (byte_roundTrips (kind_inByte d.kind))
  rw [ItemDescriptorKind.ofValue_value, pure_bind]
  exact descriptor_codes h

structure RecipeIngredient.WellFormed (ingredient : RecipeIngredient) : Prop where
  descriptor : ingredient.descriptor.WellFormed
  count : InInt32 ingredient.count

theorem recipeIngredient_roundTrips {ingredient : RecipeIngredient} (h : ingredient.WellFormed) :
    recipeIngredient.RoundTrips ingredient := by
  apply Codes.bind (itemDescriptor_roundTrips h.descriptor)
  exact Codes.last (varInt_roundTrips h.count) rfl

structure RecipeUnlockingRequirement.WellFormed (r : RecipeUnlockingRequirement) : Prop where
  onlyNone : r.context ≠ .none → r.ingredients = []
  length : r.ingredients.length < 2 ^ 32
  ingredients : ∀ ingredient ∈ r.ingredients, ingredient.WellFormed

theorem recipeUnlockingRequirement_roundTrips {r : RecipeUnlockingRequirement}
    (h : r.WellFormed) : recipeUnlockingRequirement.RoundTrips r := by
  have hbyte : InByte r.context.value := by cases r.context <;> decide
  apply Codes.bind (byte_roundTrips hbyte)
  rw [UnlockingContext.ofValue_value, pure_bind]
  by_cases hnone : r.context = .none
  · rw [if_pos hnone, if_pos hnone]
    exact Codes.last (arrayType_roundTrips h.length fun ingredient hm =>
      recipeIngredient_roundTrips (h.ingredients ingredient hm)) rfl
  · rw [if_neg hnone, if_neg hnone, ← h.onlyNone hnone]
    exact Codes.pure _

/-! ### Recipes -/

/-- The recipe without the fields that its class does not write. -/
def Recipe.onWire (r : Recipe) : Recipe :=
  match r.recipeClass with
  | .shapeless | .userDataShapeless =>
    { r with width := 0, height := 0, assumeSymmetry := false }
  | .shaped => r
  | .multi => { recipeClass := r.recipeClass, uuid := r.uuid, recipeNetId := r.recipeNetId }
  | .shapelessChemistry =>
    { r with width := 0, height := 0, assumeSymmetry := false, requirement := {} }
  | .shapedChemistry => { r with requirement := {} }
  | .smithingTransform =>
    { recipeClass := r.recipeClass, recipeId := r.recipeId, recipeNetId := r.recipeNetId,
      ingredients := r.ingredients, results := r.results, tag := r.tag }
  | .smithingTrim =>
    { recipeClass := r.recipeClass, recipeId := r.recipeId, recipeNetId := r.recipeNetId,
      ingredients := r.ingredients, tag := r.tag }

/-- The number of ingredients that a class of recipes has. -/
def Recipe.Counted (r : Recipe) : Prop :=
  match r.recipeClass with
  | .shaped | .shapedChemistry => (r.ingredients.length : Int) = r.width * r.height
  | .smithingTransform => r.ingredients.length = 3 ∧ r.results.length = 1
  | .smithingTrim => r.ingredients.length = 3
  | .shapeless | .multi | .userDataShapeless | .shapelessChemistry => r.ingredients.length < 2 ^ 32

structure Recipe.WellFormed (r : Recipe) : Prop where
  onWire : r.onWire = r
  counted : r.Counted
  recipeId : FitsString r.recipeId
  uuid : InUInt64 r.uuid.msb ∧ InUInt64 r.uuid.lsb
  width : 0 ≤ r.width ∧ r.width < 2 ^ 31
  height : 0 ≤ r.height ∧ r.height < 2 ^ 31
  priority : InInt32 r.priority
  recipeNetId : InUInt32 r.recipeNetId
  ingredients : ∀ ingredient ∈ r.ingredients, ingredient.WellFormed
  results_length : r.results.length < 2 ^ 32
  results : ∀ item ∈ r.results, item.WellFormedResult
  tag : FitsString r.tag
  requirement : r.requirement.WellFormed

/-- What the codecs of recipes need: the signs of the width and of the height may be any. -/
structure Recipe.Encodable (r : Recipe) : Prop where
  onWire : r.onWire = r
  counted : r.Counted
  recipeId : FitsString r.recipeId
  uuid : InUInt64 r.uuid.msb ∧ InUInt64 r.uuid.lsb
  width : InInt32 r.width
  height : InInt32 r.height
  priority : InInt32 r.priority
  recipeNetId : InUInt32 r.recipeNetId
  ingredients : ∀ ingredient ∈ r.ingredients, ingredient.WellFormed
  results_length : r.results.length < 2 ^ 32
  results : ∀ item ∈ r.results, item.WellFormedResult
  tag : FitsString r.tag
  requirement : r.requirement.WellFormed

theorem Recipe.WellFormed.encodable {r : Recipe} (h : r.WellFormed) : r.Encodable where
  onWire := h.onWire
  counted := h.counted
  recipeId := h.recipeId
  uuid := h.uuid
  width := ⟨by have := h.width; omega, h.width.2⟩
  height := ⟨by have := h.height; omega, h.height.2⟩
  priority := h.priority
  recipeNetId := h.recipeNetId
  ingredients := h.ingredients
  results_length := h.results_length
  results := h.results
  tag := h.tag
  requirement := h.requirement

namespace Recipe.Encodable

variable {r : Recipe} (h : r.Encodable)

include h

theorem uuid_roundTrips : Endweave.uuid.RoundTrips r.uuid :=
  Endweave.uuid_roundTrips h.uuid.1 h.uuid.2

theorem ingredients_roundTrips (hlen : r.ingredients.length < 2 ^ 32) :
    (arrayType recipeIngredient).RoundTrips r.ingredients :=
  arrayType_roundTrips hlen fun ingredient hm =>
    recipeIngredient_roundTrips (h.ingredients ingredient hm)

theorem results_roundTrips : (arrayType networkItemInstanceDescriptor).RoundTrips r.results :=
  arrayType_roundTrips h.results_length fun item hm =>
    networkItemInstanceDescriptor_roundTrips (h.results item hm)

/-- Ingredients whose number the reader knows. -/
theorem ingredients_codes {n : Nat} (hlen : r.ingredients.length = n) :
    Codes (each recipeIngredient.write r.ingredients) (collect recipeIngredient.read n)
      r.ingredients :=
  hlen ▸ Codes.each fun ingredient hm => recipeIngredient_roundTrips (h.ingredients ingredient hm)

theorem grid_codes (name : String) (hgrid : (r.ingredients.length : Int) = r.width * r.height) :
    Codes (writeGrid name r) (collect recipeIngredient.read (r.width * r.height).toNat)
      r.ingredients := by
  rw [writeGrid, if_neg (not_not_intro hgrid)]
  exact h.ingredients_codes (by omega)

theorem shapelessBody_codes {blank : Recipe} (hlen : r.ingredients.length < 2 ^ 32)
    (hwire : { blank with
      recipeId := r.recipeId, ingredients := r.ingredients, results := r.results, uuid := r.uuid,
      tag := r.tag, priority := r.priority, requirement := r.requirement,
      recipeNetId := r.recipeNetId } = r) :
    Codes (writeShapelessBody r) (readShapelessBody blank) r := by
  apply Codes.bind (string_roundTrips h.recipeId)
  apply Codes.bind (h.ingredients_roundTrips hlen)
  apply Codes.bind h.results_roundTrips
  apply Codes.bind h.uuid_roundTrips
  apply Codes.bind (string_roundTrips h.tag)
  apply Codes.bind (varInt_roundTrips h.priority)
  apply Codes.bind (recipeUnlockingRequirement_roundTrips h.requirement)
  exact Codes.last (uvarInt_roundTrips h.recipeNetId) (congrArg pure hwire)

theorem shapedRecipe_roundTrips (hclass : r.recipeClass = .shaped) : shapedRecipe.RoundTrips r := by
  have hgrid := h.counted
  rw [Recipe.Counted, hclass] at hgrid
  apply Codes.bind (string_roundTrips h.recipeId)
  apply Codes.bind (varInt_roundTrips h.width)
  apply Codes.bind (varInt_roundTrips h.height)
  apply Codes.bind (h.grid_codes "ShapedRecipe" hgrid)
  apply Codes.bind h.results_roundTrips
  apply Codes.bind h.uuid_roundTrips
  apply Codes.bind (string_roundTrips h.tag)
  apply Codes.bind (varInt_roundTrips h.priority)
  apply Codes.bind (bool_roundTrips r.assumeSymmetry)
  apply Codes.bind (recipeUnlockingRequirement_roundTrips h.requirement)
  refine Codes.last (uvarInt_roundTrips h.recipeNetId) (congrArg pure ?_)
  rw [← hclass]

theorem multiRecipe_roundTrips (hclass : r.recipeClass = .multi) : multiRecipe.RoundTrips r := by
  have hwire := h.onWire
  simp only [Recipe.onWire, hclass] at hwire
  apply Codes.bind h.uuid_roundTrips
  exact Codes.last (uvarInt_roundTrips h.recipeNetId) (congrArg pure hwire)

theorem shapelessChemistryRecipe_roundTrips (hclass : r.recipeClass = .shapelessChemistry) :
    shapelessChemistryRecipe.RoundTrips r := by
  have hwire := h.onWire
  have hlen := h.counted
  rw [Recipe.Counted, hclass] at hlen
  simp only [Recipe.onWire, hclass] at hwire
  apply Codes.bind (string_roundTrips h.recipeId)
  apply Codes.bind (h.ingredients_roundTrips hlen)
  apply Codes.bind h.results_roundTrips
  apply Codes.bind h.uuid_roundTrips
  apply Codes.bind (string_roundTrips h.tag)
  apply Codes.bind (varInt_roundTrips h.priority)
  exact Codes.last (uvarInt_roundTrips h.recipeNetId) (congrArg pure hwire)

theorem shapedChemistryRecipe_roundTrips (hclass : r.recipeClass = .shapedChemistry) :
    shapedChemistryRecipe.RoundTrips r := by
  have hwire := h.onWire
  have hgrid := h.counted
  rw [Recipe.Counted, hclass] at hgrid
  simp only [Recipe.onWire, hclass] at hwire
  apply Codes.bind (string_roundTrips h.recipeId)
  apply Codes.bind (varInt_roundTrips h.width)
  apply Codes.bind (varInt_roundTrips h.height)
  apply Codes.bind (h.grid_codes "ShapedChemistryRecipe" hgrid)
  apply Codes.bind h.results_roundTrips
  apply Codes.bind h.uuid_roundTrips
  apply Codes.bind (string_roundTrips h.tag)
  apply Codes.bind (varInt_roundTrips h.priority)
  apply Codes.bind (bool_roundTrips r.assumeSymmetry)
  exact Codes.last (uvarInt_roundTrips h.recipeNetId) (congrArg pure hwire)

theorem smithingTransformRecipe_roundTrips (hclass : r.recipeClass = .smithingTransform) :
    smithingTransformRecipe.RoundTrips r := by
  have hwire := h.onWire
  have hcounted := h.counted
  rw [Recipe.Counted, hclass] at hcounted
  obtain ⟨result, hresult⟩ := List.length_eq_one_iff.mp hcounted.2
  have hitem : result.WellFormedResult := h.results result (by rw [hresult]; exact .head _)
  simp only [Recipe.onWire, hclass, hresult] at hwire
  -- the writer raises unless there are three ingredients and one result
  unfold FieldType.RoundTrips smithingTransformRecipe
  simp only [hcounted.1, ne_eq, not_true_eq_false, if_false, hresult]
  apply Codes.bind (string_roundTrips h.recipeId)
  apply Codes.bind (h.ingredients_codes hcounted.1)
  apply Codes.bind (networkItemInstanceDescriptor_roundTrips hitem)
  apply Codes.bind (string_roundTrips h.tag)
  exact Codes.last (uvarInt_roundTrips h.recipeNetId) (congrArg pure hwire)

theorem smithingTrimRecipe_roundTrips (hclass : r.recipeClass = .smithingTrim) :
    smithingTrimRecipe.RoundTrips r := by
  have hwire := h.onWire
  have hlen := h.counted
  rw [Recipe.Counted, hclass] at hlen
  simp only [Recipe.onWire, hclass] at hwire
  unfold FieldType.RoundTrips smithingTrimRecipe
  simp only [hlen, ne_eq, not_true_eq_false, if_false]
  apply Codes.bind (string_roundTrips h.recipeId)
  apply Codes.bind (h.ingredients_codes hlen)
  apply Codes.bind (string_roundTrips h.tag)
  exact Codes.last (uvarInt_roundTrips h.recipeNetId) (congrArg pure hwire)

end Recipe.Encodable

/-! ### Entries -/

/-- The class of the recipe in an entry; the furnace entries have none. -/
def CraftingDataEntryType.recipeClass : CraftingDataEntryType → Option RecipeClass
  | shapelessRecipe => some .shapeless
  | shapedRecipe => some .shaped
  | multiRecipe => some .multi
  | userDataShapelessRecipe => some .userDataShapeless
  | shapelessChemistryRecipe => some .shapelessChemistry
  | shapedChemistryRecipe => some .shapedChemistry
  | smithingTransformRecipe => some .smithingTransform
  | smithingTrimRecipe => some .smithingTrim
  | furnaceRecipe | furnaceAuxRecipe | count => none

theorem recipe_roundTrips {type : CraftingDataEntryType} {r : Recipe} (h : r.Encodable)
    (hclass : type.recipeClass = some r.recipeClass) :
    ∃ codec, recipeCodecs type = some codec ∧ codec.RoundTrips r := by
  have hwire := h.onWire
  have hcounted := h.counted
  cases type with
  | shapelessRecipe =>
    have heq : r.recipeClass = .shapeless := (Option.some.inj hclass).symm
    rw [Recipe.Counted, heq] at hcounted
    simp only [Recipe.onWire, heq] at hwire
    exact ⟨_, rfl, h.shapelessBody_codes hcounted hwire⟩
  | userDataShapelessRecipe =>
    have heq : r.recipeClass = .userDataShapeless := (Option.some.inj hclass).symm
    rw [Recipe.Counted, heq] at hcounted
    simp only [Recipe.onWire, heq] at hwire
    exact ⟨_, rfl, h.shapelessBody_codes hcounted hwire⟩
  | shapedRecipe => exact ⟨_, rfl, h.shapedRecipe_roundTrips (Option.some.inj hclass).symm⟩
  | multiRecipe => exact ⟨_, rfl, h.multiRecipe_roundTrips (Option.some.inj hclass).symm⟩
  | shapelessChemistryRecipe =>
    exact ⟨_, rfl, h.shapelessChemistryRecipe_roundTrips (Option.some.inj hclass).symm⟩
  | shapedChemistryRecipe =>
    exact ⟨_, rfl, h.shapedChemistryRecipe_roundTrips (Option.some.inj hclass).symm⟩
  | smithingTransformRecipe =>
    exact ⟨_, rfl, h.smithingTransformRecipe_roundTrips (Option.some.inj hclass).symm⟩
  | smithingTrimRecipe =>
    exact ⟨_, rfl, h.smithingTrimRecipe_roundTrips (Option.some.inj hclass).symm⟩
  | furnaceRecipe | furnaceAuxRecipe | count => cases hclass

/-- An entry has either a recipe of the class that its type says or the fields of a furnace. -/
structure CraftingDataEntry.WellFormed (e : CraftingDataEntry) : Prop where
  type : e.type ≠ .count
  recipe : e.type.recipeClass.isSome → ∃ r : Recipe, r.WellFormed ∧
    e.type.recipeClass = some r.recipeClass ∧
      e = { recipe := some r, itemData := 0, itemAux := 0, tag := "", itemResult := {},
            type := e.type }
  noRecipe : e.type.recipeClass = none → e.recipe = none
  noAux : e.type = .furnaceRecipe → e.itemAux = 0
  itemData : InInt32 e.itemData
  itemAux : InInt32 e.itemAux
  tag : FitsString e.tag
  itemResult : e.itemResult.WellFormedResult

/-- An entry as its reader makes it, with every field in the range of its codec. -/
inductive CraftingDataEntry.Encodable : CraftingDataEntry → Prop
  | furnace {itemData : Int} {itemResult : ItemInstance} {tag : String} (hdata : InInt32 itemData)
      (hresult : itemResult.WellFormedResult) (htag : FitsString tag) :
      Encodable { recipe := none, itemData, itemAux := 0, tag, itemResult, type := .furnaceRecipe }
  | furnaceAux {itemData itemAux : Int} {itemResult : ItemInstance} {tag : String}
      (hdata : InInt32 itemData) (haux : InInt32 itemAux) (hresult : itemResult.WellFormedResult)
      (htag : FitsString tag) :
      Encodable { recipe := none, itemData, itemAux, tag, itemResult, type := .furnaceAuxRecipe }
  | recipe {type : CraftingDataEntryType} {r : Recipe} (hr : r.Encodable)
      (hclass : type.recipeClass = some r.recipeClass) :
      Encodable { recipe := some r, itemData := 0, itemAux := 0, tag := "", itemResult := {}, type }

theorem CraftingDataEntry.WellFormed.encodable {e : CraftingDataEntry} (h : e.WellFormed) :
    e.Encodable := by
  cases hclass : e.type.recipeClass with
  | some cls =>
    obtain ⟨r, hr, hrclass, heq⟩ := h.recipe (by rw [hclass]; rfl)
    rw [heq]
    exact .recipe hr.encodable hrclass
  | none =>
    have hrecipe := h.noRecipe hclass
    obtain ⟨recipe, itemData, itemAux, tag, itemResult, type⟩ := e
    obtain rfl : recipe = none := hrecipe
    -- of the types without a recipe two are left, those of furnaces
    cases type with
    | furnaceRecipe =>
      obtain rfl : itemAux = 0 := h.noAux rfl
      exact .furnace h.itemData h.itemResult h.tag
    | furnaceAuxRecipe => exact .furnaceAux h.itemData h.itemAux h.itemResult h.tag
    | count => exact absurd rfl h.type
    | _ => cases hclass

theorem craftingData_codes {e : CraftingDataEntry} (h : e.Encodable) :
    Codes (writeCraftingData e) (readCraftingData e.type) e := by
  cases h with
  | furnace hdata hresult htag =>
    apply Codes.bind (varInt_roundTrips hdata)
    apply Codes.bind (networkItemInstanceDescriptor_roundTrips hresult)
    exact Codes.last (string_roundTrips htag) rfl
  | furnaceAux hdata haux hresult htag =>
    apply Codes.bind (varInt_roundTrips hdata)
    apply Codes.bind (varInt_roundTrips haux)
    apply Codes.bind (networkItemInstanceDescriptor_roundTrips hresult)
    exact Codes.last (string_roundTrips htag) rfl
  | @recipe type r hr hclass =>
    -- the type that selects the codec is the one that the recipe is of
    obtain ⟨codec, hcodec, hround⟩ := recipe_roundTrips hr hclass
    have hfurnace : type ≠ .furnaceRecipe := by
      rintro rfl
      cases hclass
    have haux : type ≠ .furnaceAuxRecipe := by
      rintro rfl
      cases hclass
    unfold writeCraftingData readCraftingData
    simp only [if_neg hfurnace, if_neg haux, hcodec]
    exact Codes.last hround rfl

theorem CraftingDataEntry.Encodable.roundTrips {e : CraftingDataEntry} (h : e.Encodable) :
    craftingDataEntry.RoundTrips e := by
  have htype : InInt32 e.type.value := by cases e.type <;> decide
  apply Codes.bind (varInt_roundTrips htype)
  rw [CraftingDataEntryType.ofValue_value, pure_bind]
  exact craftingData_codes h

theorem craftingDataEntry_roundTrips {e : CraftingDataEntry} (h : e.WellFormed) :
    craftingDataEntry.RoundTrips e := h.encodable.roundTrips

/-- **Recipes decode to themselves**: a list of well-formed entries of any kinds is written, and
reading it in front of any suffix gives the list back and stops at the suffix. -/
theorem craftingData_roundTrips {entries : List CraftingDataEntry} (hlen : entries.length < 2 ^ 32)
    (h : ∀ e ∈ entries, e.WellFormed) :
    ∃ bs, (arrayType craftingDataEntry).write entries [] = .ok () bs ∧
      ∀ suf, (arrayType craftingDataEntry).read ⟨bs ++ suf, 0⟩ =
        .ok entries ⟨bs ++ suf, bs.length⟩ := by
  obtain ⟨bs, hw, hr⟩ := arrayType_roundTrips hlen fun e he => craftingDataEntry_roundTrips (h e he)
  refine ⟨bs, hw [], fun suf => ?_⟩
  have hread := hr ⟨bs ++ suf, 0⟩ suf (Cursor.within_start _) rfl
  rw [Cursor.advance, Nat.zero_add] at hread
  exact hread

/-- A torch from a furnace, and a shaped recipe over one empty ingredient. -/
def sampleCraftingData : List CraftingDataEntry :=
  [{ recipe := none, itemData := 263, itemAux := -1, tag := "furnace",
     itemResult := { networkId := 50, count := 4, blockRuntimeId := -7 },
     type := .furnaceAuxRecipe },
    { recipe := some
        { recipeClass := .shaped, recipeId := "r", width := 1, height := 1,
          ingredients := [{ descriptor := { kind := .default }, count := 1 }] },
      itemData := 0, itemAux := 0, tag := "", itemResult := {}, type := .shapedRecipe }]

theorem emptyDescriptor_wellFormed : ItemDescriptor.WellFormed { kind := .default } where
  onWire := rfl
  itemId := by decide
  auxValue := by decide
  noAux _ _ := rfl
  tagExpression := by decide
  molangVersion := by decide
  itemTag := by decide
  fullName := by decide

theorem air_wellFormed : ItemInstance.WellFormedResult {} where
  onWire := rfl
  networkId := by decide
  air _ := rfl
  count := by decide
  auxValue := by decide
  blockRuntimeId := by decide
  userData := by decide

theorem sampleCraftingData_wellFormed : ∀ e ∈ sampleCraftingData, e.WellFormed := by
  intro e he
  rcases List.mem_pair.mp he with rfl | rfl
  · constructor
    case recipe => simp [CraftingDataEntryType.recipeClass]
    case itemResult => constructor <;> decide
    all_goals decide
  · constructor
    case recipe =>
      refine fun _ => ⟨_, ?_, rfl, rfl⟩
      constructor
      case ingredients =>
        intro ingredient hm
        rw [List.mem_singleton.mp hm]
        exact ⟨emptyDescriptor_wellFormed, by decide⟩
      case counted => exact (by decide : ((1 : Nat) : Int) = 1 * 1)
      case results => exact fun item hm => absurd hm List.not_mem_nil
      case requirement =>
        exact ⟨fun _ => rfl, by decide, fun ingredient hm => absurd hm List.not_mem_nil⟩
      all_goals decide
    case itemResult => exact air_wellFormed
    all_goals decide

theorem craftingData_roundTrips_sample :
    ∃ bs, (arrayType craftingDataEntry).write sampleCraftingData [] = .ok () bs ∧
      ∀ suf, (arrayType craftingDataEntry).read ⟨bs ++ suf, 0⟩ =
        .ok sampleCraftingData ⟨bs ++ suf, bs.length⟩ :=
  craftingData_roundTrips (by decide) sampleCraftingData_wellFormed

/-- `n` letters. -/
def letters : Nat → String
  | 0 => ""
  | n + 1 => letters n ++ "a"

theorem length_encodeUtf8_letters (n : Nat) : (encodeUtf8 (letters n)).length = n := by
  induction n with
  | zero => rfl
  | succ n ih =>
    have happend : (letters (n + 1)).utf8ByteSize = (letters n).utf8ByteSize + 1 :=
      String.utf8ByteSize_append
    exact happend.trans (congrArg (· + 1) ih)

/-- The output of a furnace with an empty result, of which nothing but the tag varies. -/
def furnaceEntry (tag : String) : CraftingDataEntry where
  recipe := none
  itemData := 0
  itemAux := 0
  tag := tag
  itemResult := {}
  type := .furnaceRecipe

theorem furnaceEntry_wellFormed {tag : String} (h : FitsString tag) :
    (furnaceEntry tag).WellFormed where
  type := (by decide : CraftingDataEntryType.furnaceRecipe ≠ .count)
  recipe := by simp [furnaceEntry, CraftingDataEntryType.recipeClass]
  noRecipe _ := rfl
  noAux _ := rfl
  itemData := (by decide : InInt32 0)
  itemAux := (by decide : InInt32 0)
  tag := h
  itemResult := air_wellFormed

/-- **A tag of 131069 letters**: an entry that is well formed but for the limit on strings is
written, and cannot be read back. -/
theorem craftingData_longTag :
    (∀ tag, FitsString tag → (furnaceEntry tag).WellFormed) ∧
      (encodeUtf8 (letters 131069)).length = 131069 ∧
      ∃ bs, (arrayType craftingDataEntry).write [furnaceEntry (letters 131069)] [] = .ok () bs ∧
        ∀ suf, ∃ e c, (arrayType craftingDataEntry).read ⟨bs ++ suf, 0⟩ = .error e c := by
  have hlen := length_encodeUtf8_letters 131069
  have hlong : ¬ FitsString (letters 131069) := by
    rw [FitsString, hlen]
    decide
  have hreject : Rejects (craftingDataEntry.write (furnaceEntry (letters 131069)))
      craftingDataEntry.read := by
    apply (varInt_roundTrips (v := 2) (by decide)).rejects
    apply (varInt_roundTrips (v := 0) (by decide)).rejects
    apply (networkItemInstanceDescriptor_roundTrips air_wellFormed).rejects
    -- the tag: the writer has no limit, the reader has
    exact (string_rejects hlong (by rw [hlen]; decide)).last
  have hlist : Rejects ((arrayType craftingDataEntry).write [furnaceEntry (letters 131069)])
      (arrayType craftingDataEntry).read :=
    (uvarInt_roundTrips (v := 1) (by decide)).rejects (hreject.bind Writes.pure)
  obtain ⟨bs, hw, hfail⟩ := hlist
  exact ⟨fun _ => furnaceEntry_wellFormed, hlen, bs, hw [],
    fun suf => hfail ⟨bs ++ suf, 0⟩ suf (Cursor.within_start _) rfl⟩

end Endweave
