import Endweave.Codec.Equiv.Crafting
import Endweave.Codec.Equiv.Untrusted

/-!
# Recipes from arbitrary bytes

`craftingDataEntry_rewritable_iff`: an entry that was decoded, with every varint in the range of 32
bits, is written and read back as itself exactly when the width and the height of its grid do not
have opposite signs.  The reader takes a negative product for an empty grid, while the writer counts
the ingredients against the product.

`Decoded` is what the readers promise of any entry they return; with the varints in range and no
negative grid it is `Encodable`.
-/

namespace Endweave

open Wire PacketReader PacketWriter

/-! ### Varints in range -/

structure ItemInstance.VarintsInRange (item : ItemInstance) : Prop where
  networkId : InInt32 item.networkId
  auxValue : InUInt32 item.auxValue
  blockRuntimeId : InInt32 item.blockRuntimeId
  userData : item.userData.length < 2 ^ 32

structure RecipeUnlockingRequirement.VarintsInRange (r : RecipeUnlockingRequirement) : Prop where
  length : r.ingredients.length < 2 ^ 32
  counts : ∀ ingredient ∈ r.ingredients, InInt32 ingredient.count

/-- Every varint of a recipe is in range, the counts of its lists among them; the number of
ingredients of a shaped recipe is not one. -/
structure Recipe.VarintsInRange (r : Recipe) : Prop where
  width : InInt32 r.width
  height : InInt32 r.height
  priority : InInt32 r.priority
  recipeNetId : InUInt32 r.recipeNetId
  ingredients_length : r.recipeClass ≠ .shaped → r.recipeClass ≠ .shapedChemistry →
    r.ingredients.length < 2 ^ 32
  counts : ∀ ingredient ∈ r.ingredients, InInt32 ingredient.count
  results_length : r.results.length < 2 ^ 32
  results : ∀ item ∈ r.results, item.VarintsInRange
  requirement : r.requirement.VarintsInRange

structure CraftingDataEntry.VarintsInRange (e : CraftingDataEntry) : Prop where
  recipe : ∀ r, e.recipe = some r → r.VarintsInRange
  itemData : InInt32 e.itemData
  itemAux : InInt32 e.itemAux
  itemResult : e.itemResult.VarintsInRange

/-! ### What the readers promise -/

theorem enumMember_returns {ε : Type} (name : String) (members : List ε) (value : ε → Int)
    (v : Int) :
    Refines (enumMember name members value v : Parser PyException UInt8 ε)
      (enumMember name members value v) fun _ => True := by
  unfold enumMember
  split
  · exact Refines.pure trivial
  · exact Refines.throw _

theorem readUserData_returns : Refines readUserData readUserData fun _ => True :=
  (returns_any readUVarint_takes).bind fun n _ => (readBytes_returns n).mono fun _ _ => trivial

theorem networkItemInstanceDescriptor_returns :
    Refines networkItemInstanceDescriptor.read networkItemInstanceDescriptor.read
      fun item => item.VarintsInRange → item.WellFormedResult := by
  apply (returns_any readVarint_takes).bind
  intro networkId _
  apply Refines.ite
  -- air ends behind its id
  · exact fun _ => Refines.pure fun _ => air_wellFormed
  · intro hair
    apply readUShortLE_returns.bind
    intro count hcount
    apply (returns_any readUVarint_takes).bind
    intro auxValue _
    apply (returns_any readVarint_takes).bind
    intro blockRuntimeId _
    apply readUserData_returns.bind
    intro userData _
    exact Refines.pure fun h => {
      onWire := rfl
      networkId := h.networkId
      air := fun hzero => absurd hzero hair
      count := hcount
      auxValue := h.auxValue
      blockRuntimeId := h.blockRuntimeId
      userData := h.userData }

theorem readDescriptor_returns (kind : ItemDescriptorKind) :
    Refines (readDescriptor kind) (readDescriptor kind) ItemDescriptor.WellFormed := by
  have hempty : FitsString "" := by decide
  have hshort : InInt16 0 := by decide
  have hbyte : InByte 0 := by decide
  cases kind with
  | invalid => exact Refines.pure ⟨rfl, hshort, hshort, nofun, hempty, hbyte, hempty, hempty⟩
  | default =>
    apply readShortLE_returns.bind
    intro itemId hid
    -- the auxiliary value is read only behind an id
    apply Refines.ite
    · intro hne
      apply readShortLE_returns.bind
      intro auxValue haux
      exact Refines.pure
        ⟨rfl, hid, haux, fun _ hzero => absurd hzero hne, hempty, hbyte, hempty, hempty⟩
    · intro _
      exact Refines.pure ⟨rfl, hid, hshort, fun _ _ => rfl, hempty, hbyte, hempty, hempty⟩
  | molang =>
    apply readString_returns.bind
    intro tagExpression htag
    apply readByte_returns.bind
    intro molangVersion hversion
    exact Refines.pure ⟨rfl, hshort, hshort, nofun, htag, hversion, hempty, hempty⟩
  | itemTag =>
    apply readString_returns.bind
    intro itemTag htag
    exact Refines.pure ⟨rfl, hshort, hshort, nofun, hempty, hbyte, htag, hempty⟩
  | deferred =>
    apply readString_returns.bind
    intro fullName hname
    apply readShortLE_returns.bind
    intro auxValue haux
    exact Refines.pure ⟨rfl, hshort, haux, nofun, hempty, hbyte, hempty, hname⟩
  | complexAlias =>
    apply readString_returns.bind
    intro fullName hname
    exact Refines.pure ⟨rfl, hshort, hshort, nofun, hempty, hbyte, hempty, hname⟩

theorem recipeIngredient_returns :
    Refines recipeIngredient.read recipeIngredient.read
      fun ingredient => InInt32 ingredient.count → ingredient.WellFormed := by
  have hdescriptor : Refines itemDescriptor.read itemDescriptor.read ItemDescriptor.WellFormed :=
    readByte_returns.bind fun _ _ =>
      (enumMember_returns _ _ _ _).bind fun kind _ => readDescriptor_returns kind
  apply hdescriptor.bind
  intro descriptor hd
  apply (returns_any readVarint_takes).bind
  intro count _
  exact Refines.pure fun hcount => ⟨hd, hcount⟩

theorem recipeUnlockingRequirement_returns :
    Refines recipeUnlockingRequirement.read recipeUnlockingRequirement.read
      fun r => r.VarintsInRange → r.WellFormed := by
  apply readByte_returns.bind
  intro contextByte _
  apply (enumMember_returns _ _ _ _).bind
  intro context _
  apply Refines.ite
  -- only the context `none` has a list behind it
  · intro hnone
    apply (arrayType_returns recipeIngredient_returns).bind
    intro ingredients hingredients
    exact Refines.pure fun h => {
      onlyNone := fun hne => absurd hnone hne
      length := h.length
      ingredients := fun i hi => hingredients i hi (h.counts i hi) }
  · intro _
    exact Refines.pure fun h => {
      onlyNone := fun _ => rfl
      length := h.length
      ingredients := fun i hi => absurd hi List.not_mem_nil }

theorem uuid_returns : Refines uuid.read uuid.read
    fun u => InUInt64 u.msb ∧ InUInt64 u.lsb :=
  readUInt64LE_returns.bind fun _ hmsb =>
    readUInt64LE_returns.bind fun _ hlsb => Refines.pure ⟨hmsb, hlsb⟩

/-! ### Recipes -/

/-- The number of ingredients that the reader of a class reads. -/
def Recipe.Collected (r : Recipe) : Prop :=
  match r.recipeClass with
  | .shaped | .shapedChemistry => r.ingredients.length = (r.width * r.height).toNat
  | .smithingTransform => r.ingredients.length = 3 ∧ r.results.length = 1
  | .smithingTrim => r.ingredients.length = 3
  | .shapeless | .multi | .userDataShapeless | .shapelessChemistry => True

/-- What the readers promise of a recipe. -/
structure Recipe.Decoded (r : Recipe) : Prop where
  onWire : r.onWire = r
  collected : r.Collected
  recipeId : FitsString r.recipeId
  uuid : InUInt64 r.uuid.msb ∧ InUInt64 r.uuid.lsb
  ingredients : ∀ ingredient ∈ r.ingredients, InInt32 ingredient.count → ingredient.WellFormed
  results : ∀ item ∈ r.results, item.VarintsInRange → item.WellFormedResult
  tag : FitsString r.tag
  requirement : r.requirement.VarintsInRange → r.requirement.WellFormed

theorem Recipe.Decoded.counted {r : Recipe} (h : r.Decoded) (hr : r.VarintsInRange)
    (hgrid : 0 ≤ r.width * r.height) : r.Counted := by
  have hcollected := h.collected
  have hlength := hr.ingredients_length
  unfold Recipe.Collected at hcollected
  unfold Recipe.Counted
  cases hclass : r.recipeClass with
  | shaped | shapedChemistry =>
    -- the reader takes a negative product for 0
    simp only [hclass] at hcollected ⊢
    omega
  | smithingTransform | smithingTrim =>
    simp only [hclass] at hcollected ⊢
    exact hcollected
  | shapeless | multi | userDataShapeless | shapelessChemistry =>
    exact hlength (by rw [hclass]; nofun) (by rw [hclass]; nofun)

theorem Recipe.Decoded.encodable {r : Recipe} (h : r.Decoded) (hr : r.VarintsInRange)
    (hgrid : 0 ≤ r.width * r.height) : r.Encodable where
  onWire := h.onWire
  counted := h.counted hr hgrid
  recipeId := h.recipeId
  uuid := h.uuid
  width := hr.width
  height := hr.height
  priority := hr.priority
  recipeNetId := hr.recipeNetId
  ingredients i hi := h.ingredients i hi (hr.counts i hi)
  results_length := hr.results_length
  results item hitem := h.results item hitem (hr.results item hitem)
  tag := h.tag
  requirement := h.requirement hr.requirement

theorem shapelessBody_returns {cls : RecipeClass}
    (hcls : cls = .shapeless ∨ cls = .userDataShapeless) :
    Refines (readShapelessBody { recipeClass := cls }) (readShapelessBody { recipeClass := cls })
      fun r => r.recipeClass = cls ∧ r.Decoded := by
  apply readString_returns.bind
  intro recipeId hid
  apply (arrayType_returns recipeIngredient_returns).bind
  intro ingredients hingredients
  apply (arrayType_returns networkItemInstanceDescriptor_returns).bind
  intro results hresults
  apply uuid_returns.bind
  intro uuid huuid
  apply readString_returns.bind
  intro tag htag
  apply (returns_any readVarint_takes).bind
  intro priority _
  apply recipeUnlockingRequirement_returns.bind
  intro requirement hrequirement
  apply (returns_any readUVarint_takes).bind
  intro recipeNetId _
  apply Refines.pure
  refine ⟨rfl, ?_, ?_, hid, huuid, hingredients, hresults, htag, hrequirement⟩
  · rcases hcls with rfl | rfl <;> rfl
  · rcases hcls with rfl | rfl <;> exact trivial

theorem grid_returns (n : Nat) :
    Refines (collect recipeIngredient.read n) (collect recipeIngredient.read n)
      fun as => as.length = n ∧ ∀ i ∈ as, InInt32 i.count → i.WellFormed :=
  recipeIngredient_returns.collect n

theorem emptyRequirement_wellFormed : RecipeUnlockingRequirement.WellFormed {} where
  onlyNone _ := rfl
  length := by decide
  ingredients _ hi := absurd hi List.not_mem_nil

theorem shapedRecipe_returns :
    Refines shapedRecipe.read shapedRecipe.read fun r => r.recipeClass = .shaped ∧ r.Decoded := by
  apply readString_returns.bind
  intro recipeId hid
  apply (returns_any readVarint_takes).bind
  intro width _
  apply (returns_any readVarint_takes).bind
  intro height _
  apply (grid_returns _).bind
  intro ingredients hingredients
  apply (arrayType_returns networkItemInstanceDescriptor_returns).bind
  intro results hresults
  apply uuid_returns.bind
  intro uuid huuid
  apply readString_returns.bind
  intro tag htag
  apply (returns_any readVarint_takes).bind
  intro priority _
  apply (returns_any bool_compacts).bind
  intro assumeSymmetry _
  apply recipeUnlockingRequirement_returns.bind
  intro requirement hrequirement
  apply (returns_any readUVarint_takes).bind
  intro recipeNetId _
  exact Refines.pure ⟨rfl, rfl, hingredients.1, hid, huuid, hingredients.2, hresults, htag,
    hrequirement⟩

theorem multiRecipe_returns :
    Refines multiRecipe.read multiRecipe.read fun r => r.recipeClass = .multi ∧ r.Decoded := by
  have hempty : FitsString "" := by decide
  apply uuid_returns.bind
  intro uuid huuid
  apply (returns_any readUVarint_takes).bind
  intro recipeNetId _
  exact Refines.pure ⟨rfl, rfl, trivial, hempty, huuid, nofun, nofun, hempty,
    fun _ => emptyRequirement_wellFormed⟩

theorem shapelessChemistryRecipe_returns :
    Refines shapelessChemistryRecipe.read shapelessChemistryRecipe.read
      fun r => r.recipeClass = .shapelessChemistry ∧ r.Decoded := by
  apply readString_returns.bind
  intro recipeId hid
  apply (arrayType_returns recipeIngredient_returns).bind
  intro ingredients hingredients
  apply (arrayType_returns networkItemInstanceDescriptor_returns).bind
  intro results hresults
  apply uuid_returns.bind
  intro uuid huuid
  apply readString_returns.bind
  intro tag htag
  apply (returns_any readVarint_takes).bind
  intro priority _
  apply (returns_any readUVarint_takes).bind
  intro recipeNetId _
  exact Refines.pure ⟨rfl, rfl, trivial, hid, huuid, hingredients, hresults, htag,
    fun _ => emptyRequirement_wellFormed⟩

theorem shapedChemistryRecipe_returns :
    Refines shapedChemistryRecipe.read shapedChemistryRecipe.read
      fun r => r.recipeClass = .shapedChemistry ∧ r.Decoded := by
  apply readString_returns.bind
  intro recipeId hid
  apply (returns_any readVarint_takes).bind
  intro width _
  apply (returns_any readVarint_takes).bind
  intro height _
  apply (grid_returns _).bind
  intro ingredients hingredients
  apply (arrayType_returns networkItemInstanceDescriptor_returns).bind
  intro results hresults
  apply uuid_returns.bind
  intro uuid huuid
  apply readString_returns.bind
  intro tag htag
  apply (returns_any readVarint_takes).bind
  intro priority _
  apply (returns_any bool_compacts).bind
  intro assumeSymmetry _
  apply (returns_any readUVarint_takes).bind
  intro recipeNetId _
  exact Refines.pure ⟨rfl, rfl, hingredients.1, hid, huuid, hingredients.2, hresults, htag,
    fun _ => emptyRequirement_wellFormed⟩

theorem smithingTransformRecipe_returns :
    Refines smithingTransformRecipe.read smithingTransformRecipe.read
      fun r => r.recipeClass = .smithingTransform ∧ r.Decoded := by
  have hzero : InUInt64 0 := by decide
  apply readString_returns.bind
  intro recipeId hid
  apply (grid_returns 3).bind
  intro ingredients hingredients
  apply networkItemInstanceDescriptor_returns.bind
  intro result hresult
  apply readString_returns.bind
  intro tag htag
  apply (returns_any readUVarint_takes).bind
  intro recipeNetId _
  refine Refines.pure ⟨rfl, rfl, ⟨hingredients.1, rfl⟩, hid, ⟨hzero, hzero⟩, hingredients.2, ?_,
    htag, fun _ => emptyRequirement_wellFormed⟩
  intro item hitem
  rw [List.mem_singleton.mp hitem]
  exact hresult

theorem smithingTrimRecipe_returns :
    Refines smithingTrimRecipe.read smithingTrimRecipe.read
      fun r => r.recipeClass = .smithingTrim ∧ r.Decoded := by
  have hzero : InUInt64 0 := by decide
  apply readString_returns.bind
  intro recipeId hid
  apply (grid_returns 3).bind
  intro ingredients hingredients
  apply readString_returns.bind
  intro tag htag
  apply (returns_any readUVarint_takes).bind
  intro recipeNetId _
  exact Refines.pure ⟨rfl, rfl, hingredients.1, hid, ⟨hzero, hzero⟩, hingredients.2, nofun, htag,
    fun _ => emptyRequirement_wellFormed⟩

/-- The codec of an entry type reads recipes of the class that goes with it. -/
theorem recipeCodecs_returns {type : CraftingDataEntryType} {codec : FieldType Recipe}
    (h : recipeCodecs type = some codec) :
    Refines codec.read codec.read
      fun r => type.recipeClass = some r.recipeClass ∧ r.Decoded := by
  have hsome : ∀ {cls : RecipeClass} {r : Recipe}, r.recipeClass = cls ∧ r.Decoded →
      some cls = some r.recipeClass ∧ r.Decoded := fun h => ⟨congrArg some h.1.symm, h.2⟩
  -- a case for each row of the table
  cases type with
  | shapelessRecipe =>
    cases h
    exact (shapelessBody_returns (Or.inl rfl)).mono fun _ => hsome
  | userDataShapelessRecipe =>
    cases h
    exact (shapelessBody_returns (Or.inr rfl)).mono fun _ => hsome
  | shapedRecipe =>
    cases h
    exact shapedRecipe_returns.mono fun _ => hsome
  | multiRecipe =>
    cases h
    exact multiRecipe_returns.mono fun _ => hsome
  | shapelessChemistryRecipe =>
    cases h
    exact shapelessChemistryRecipe_returns.mono fun _ => hsome
  | shapedChemistryRecipe =>
    cases h
    exact shapedChemistryRecipe_returns.mono fun _ => hsome
  | smithingTransformRecipe =>
    cases h
    exact smithingTransformRecipe_returns.mono fun _ => hsome
  | smithingTrimRecipe =>
    cases h
    exact smithingTrimRecipe_returns.mono fun _ => hsome
  | furnaceRecipe | furnaceAuxRecipe | count => cases h

/-! ### Entries -/

/-- What the reader promises of an entry. -/
inductive CraftingDataEntry.Decoded : CraftingDataEntry → Prop
  | furnace {itemData : Int} {itemResult : ItemInstance} {tag : String}
      (hresult : itemResult.VarintsInRange → itemResult.WellFormedResult) (htag : FitsString tag) :
      Decoded { recipe := none, itemData, itemAux := 0, tag, itemResult, type := .furnaceRecipe }
  | furnaceAux {itemData itemAux : Int} {itemResult : ItemInstance} {tag : String}
      (hresult : itemResult.VarintsInRange → itemResult.WellFormedResult) (htag : FitsString tag) :
      Decoded { recipe := none, itemData, itemAux, tag, itemResult, type := .furnaceAuxRecipe }
  | recipe {type : CraftingDataEntryType} {r : Recipe} (hr : r.Decoded)
      (hclass : type.recipeClass = some r.recipeClass) :
      Decoded { recipe := some r, itemData := 0, itemAux := 0, tag := "", itemResult := {}, type }

theorem readCraftingData_returns (type : CraftingDataEntryType) :
    Refines (readCraftingData type) (readCraftingData type) CraftingDataEntry.Decoded := by
  apply Refines.ite
  · rintro rfl
    apply (returns_any readVarint_takes).bind
    intro itemData _
    apply networkItemInstanceDescriptor_returns.bind
    intro itemResult hresult
    apply readString_returns.bind
    intro tag htag
    exact Refines.pure (.furnace hresult htag)
  intro _
  apply Refines.ite
  · rintro rfl
    apply (returns_any readVarint_takes).bind
    intro itemData _
    apply (returns_any readVarint_takes).bind
    intro itemAux _
    apply networkItemInstanceDescriptor_returns.bind
    intro itemResult hresult
    apply readString_returns.bind
    intro tag htag
    exact Refines.pure (.furnaceAux hresult htag)
  intro _
  cases hcodec : recipeCodecs type with
  -- `count` is a member of the enumeration without a codec
  | none => exact Refines.throw _
  | some codec =>
    apply (recipeCodecs_returns hcodec).bind
    intro r hr
    exact Refines.pure (.recipe hr.2 hr.1)

theorem craftingDataEntry_returns :
    Refines craftingDataEntry.read craftingDataEntry.read CraftingDataEntry.Decoded :=
  (returns_any readVarint_takes).bind fun _ _ =>
    (enumMember_returns _ _ _ _).bind fun type _ => readCraftingData_returns type

/-- The sides of the grid have opposite signs. -/
def CraftingDataEntry.NegativeGrid (e : CraftingDataEntry) : Prop :=
  ∃ r, e.recipe = some r ∧ r.width * r.height < 0

theorem CraftingDataEntry.Decoded.encodable {e : CraftingDataEntry} (h : e.Decoded)
    (hr : e.VarintsInRange) (hgrid : ¬ e.NegativeGrid) : e.Encodable := by
  cases h with
  | furnace hresult htag => exact .furnace hr.itemData (hresult hr.itemResult) htag
  | furnaceAux hresult htag =>
    exact .furnaceAux hr.itemData hr.itemAux (hresult hr.itemResult) htag
  | @recipe type r hdecoded hclass =>
    have hnonneg : 0 ≤ r.width * r.height := Int.not_lt.mp fun hneg => hgrid ⟨r, rfl, hneg⟩
    exact .recipe (hdecoded.encodable (hr.recipe r rfl) hnonneg) hclass

/-- The writer of a grid counts the ingredients against the product. -/
theorem writeGrid_eq_ok {name : String} {r : Recipe} {out out' : PacketWriter}
    (h : writeGrid name r out = .ok () out') : 0 ≤ r.width * r.height := by
  unfold writeGrid at h
  split_ifs at h with hcount
  · cases h
  · omega

/-- Whatever is written of a decoded recipe, its grid is not negative: only the classes with a grid
have sides other than 0. -/
theorem Recipe.Decoded.grid_of_write {r : Recipe} (h : r.Decoded) {type : CraftingDataEntryType}
    (hclass : type.recipeClass = some r.recipeClass) {codec : FieldType Recipe}
    (hcodec : recipeCodecs type = some codec) {out out' : PacketWriter}
    (hw : codec.write r out = .ok () out') : 0 ≤ r.width * r.height := by
  have hwire := h.onWire
  cases hcls : r.recipeClass with
  | shaped =>
    obtain rfl : type = .shapedRecipe := by
      rw [hcls] at hclass
      cases type <;> first | rfl | cases hclass
    cases hcodec
    obtain ⟨_, _, _, hw⟩ := bind_eq_ok hw
    obtain ⟨_, _, _, hw⟩ := bind_eq_ok hw
    obtain ⟨_, _, _, hw⟩ := bind_eq_ok hw
    obtain ⟨_, _, hgrid, _⟩ := bind_eq_ok hw
    exact writeGrid_eq_ok hgrid
  | shapedChemistry =>
    obtain rfl : type = .shapedChemistryRecipe := by
      rw [hcls] at hclass
      cases type <;> first | rfl | cases hclass
    cases hcodec
    obtain ⟨_, _, _, hw⟩ := bind_eq_ok hw
    obtain ⟨_, _, _, hw⟩ := bind_eq_ok hw
    obtain ⟨_, _, _, hw⟩ := bind_eq_ok hw
    obtain ⟨_, _, hgrid, _⟩ := bind_eq_ok hw
    exact writeGrid_eq_ok hgrid
  | _ =>
    -- no other class has its sides on the wire
    simp only [Recipe.onWire, hcls] at hwire
    rw [← congrArg Recipe.width hwire, Int.zero_mul]

theorem CraftingDataEntry.Decoded.not_negativeGrid {e : CraftingDataEntry} (h : e.Decoded)
    {out out' : PacketWriter} (hw : craftingDataEntry.write e out = .ok () out') :
    ¬ e.NegativeGrid := by
  rintro ⟨r, hrecipe, hneg⟩
  cases h with
  | furnace _ _ => cases hrecipe
  | furnaceAux _ _ => cases hrecipe
  | @recipe type _ hdecoded hclass =>
    obtain rfl := Option.some.inj hrecipe
    obtain ⟨_, _, _, hw⟩ := bind_eq_ok hw
    -- an entry with a recipe goes past both branches of furnaces
    have hfurnace : type ≠ .furnaceRecipe := by
      rintro rfl
      cases hclass
    have haux : type ≠ .furnaceAuxRecipe := by
      rintro rfl
      cases hclass
    unfold writeCraftingData at hw
    simp only [if_neg hfurnace, if_neg haux] at hw
    cases hcodec : recipeCodecs type with
    | none =>
      simp only [hcodec] at hw
      cases hw
    | some codec =>
      simp only [hcodec] at hw
      exact absurd (hdecoded.grid_of_write hclass hcodec hw) (Int.not_le.mpr hneg)

/-- **Recipes from arbitrary bytes**: an entry that was read, with its varints in range, is written
and read back as itself exactly when the sides of its grid do not have opposite signs. -/
theorem craftingDataEntry_rewritable_iff {payload : List UInt8} {e : CraftingDataEntry}
    {c : PacketReader} (h : craftingDataEntry.read ⟨payload, 0⟩ = .ok e c)
    (hr : e.VarintsInRange) :
    (∃ bs, craftingDataEntry.write e [] = .ok () bs ∧
      craftingDataEntry.read ⟨bs, 0⟩ = .ok e ⟨bs, bs.length⟩) ↔ ¬ e.NegativeGrid := by
  obtain ⟨_, _, hdecoded⟩ := craftingDataEntry_returns _ _ _ (Cursor.within_start payload) h
  constructor
  · rintro ⟨bs, hw, _⟩
    exact hdecoded.not_negativeGrid hw
  · intro hgrid
    obtain ⟨bs, hw, hread⟩ := (hdecoded.encodable hr hgrid).roundTrips
    refine ⟨bs, hw [], ?_⟩
    have hstart : Cursor.rest ⟨bs, 0⟩ = bs ++ [] := (List.append_nil bs).symm
    rw [hread ⟨bs, 0⟩ [] (Cursor.within_start bs) hstart, Cursor.advance, Nat.zero_add]

theorem air_varintsInRange : ItemInstance.VarintsInRange {} :=
  ⟨by decide, by decide, by decide, by decide⟩

/-- A shaped recipe of any size over empty ingredients. -/
def gridEntry (width height : Int) (ingredients : List RecipeIngredient) : CraftingDataEntry where
  recipe := some
    { recipeClass := .shaped, width := width, height := height, ingredients := ingredients,
      requirement := { context := .alwaysUnlocked } }
  itemData := 0
  itemAux := 0
  tag := ""
  itemResult := {}
  type := .shapedRecipe

/-- The entry of such a recipe on the wire, from the sides of the grid on. -/
def gridBytes (sides : List UInt8) : List UInt8 :=
  [2, 0] ++ sides ++ [0] ++ List.replicate 16 0 ++ [0, 0, 0, 1, 0]

theorem gridEntry_varintsInRange {width height : Int} {ingredients : List RecipeIngredient}
    (hwidth : InInt32 width) (hheight : InInt32 height)
    (hcounts : ∀ ingredient ∈ ingredients, InInt32 ingredient.count) :
    (gridEntry width height ingredients).VarintsInRange where
  recipe := by
    intro r hr
    obtain rfl := Option.some.inj hr
    constructor
    case width => exact hwidth
    case height => exact hheight
    case priority => exact (by decide : InInt32 0)
    case recipeNetId => exact (by decide : InUInt32 0)
    case ingredients_length => exact fun hne => absurd rfl hne
    case counts => exact hcounts
    case results_length => exact (by decide : 0 < 2 ^ 32)
    case results => exact fun item hitem => absurd hitem List.not_mem_nil
    case requirement =>
      exact ⟨(by decide : 0 < 2 ^ 32), fun i hi => absurd hi List.not_mem_nil⟩
  itemData := (by decide : InInt32 0)
  itemAux := (by decide : InInt32 0)
  itemResult := air_varintsInRange

/-- Both sides of the grid are negative: one ingredient is read and written. -/
theorem craftingDataEntry_rewritable_iff_sample :
    ∃ bs, craftingDataEntry.write (gridEntry (-1) (-1) [{ count := 1 }]) [] = .ok () bs ∧
      craftingDataEntry.read ⟨bs, 0⟩ =
        .ok (gridEntry (-1) (-1) [{ count := 1 }]) ⟨bs, bs.length⟩ := by
  have hread : craftingDataEntry.read ⟨gridBytes [1, 1, 0, 2], 0⟩ =
      .ok (gridEntry (-1) (-1) [{ count := 1 }]) ⟨gridBytes [1, 1, 0, 2], 28⟩ := rfl
  have hrange : (gridEntry (-1) (-1) [{ count := 1 }]).VarintsInRange :=
    gridEntry_varintsInRange (by decide) (by decide) (by decide)
  apply (craftingDataEntry_rewritable_iff hread hrange).mpr
  rintro ⟨r, hr, hneg⟩
  obtain rfl := Option.some.inj hr
  exact absurd hneg (by decide)

/-- **A grid of -1 by 1** is read, with nothing in it, and cannot be written. -/
theorem craftingDataEntry_negativeGrid :
    craftingDataEntry.read ⟨gridBytes [1, 2], 0⟩ =
        .ok (gridEntry (-1) 1 []) ⟨gridBytes [1, 2], 26⟩ ∧
      (gridEntry (-1) 1 []).VarintsInRange ∧
      ∀ out, craftingDataEntry.write (gridEntry (-1) 1 []) [] ≠ .ok () out := by
  have hread : craftingDataEntry.read ⟨gridBytes [1, 2], 0⟩ =
      .ok (gridEntry (-1) 1 []) ⟨gridBytes [1, 2], 26⟩ := rfl
  refine ⟨hread, gridEntry_varintsInRange (by decide) (by decide) nofun, fun out hw => ?_⟩
  obtain ⟨_, _, hdecoded⟩ := craftingDataEntry_returns _ _ _ (Cursor.within_start _) hread
  exact hdecoded.not_negativeGrid hw ⟨_, rfl, by decide⟩

end Endweave
