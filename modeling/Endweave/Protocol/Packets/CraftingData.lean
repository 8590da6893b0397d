import Endweave.Codec.Equiv.Crafting
import Endweave.Protocol.Handlers.CraftingData

/-!
# The CraftingData packet

A list of recipe entries.  v975 takes the recipes of furnaces as shapeless ones; what has to hold of
the list that replaces them is stated on the two lists, not on the loop that makes one of the other.
-/

namespace Endweave

open Wire

/-! ### Furnaces -/

/-- The smelting of an item, with 0x7FFF for any auxiliary value. -/
structure FurnaceKey where
  tag : String
  inputId : Int
  inputAux : Int
  resultNetId : Int
deriving Repr, DecidableEq

namespace FurnaceKey

def recipeId (k : FurnaceKey) : String :=
  V944ToV975.furnaceRecipeId k.tag k.inputId k.inputAux k.resultNetId

/-- The input of `k` with its auxiliary value reads as a longer tag with the input of `k'`. -/
structure Clashes (k k' : FurnaceKey) : Prop where
  resultNetId : k.resultNetId = k'.resultNetId
  withAux : k.inputAux ≠ 0x7FFF
  withoutAux : k'.inputAux = 0x7FFF
  tag : k'.tag = k.tag ++ "_" ++ toString k.inputId
  inputId : k'.inputId = k.inputAux

end FurnaceKey

namespace CraftingDataEntry

/-- What an entry smelts, if it is one of a furnace. -/
def furnaceKey (e : CraftingDataEntry) : Option FurnaceKey :=
  if e.type = .furnaceRecipe then some ⟨e.tag, e.itemData, 0x7FFF, e.itemResult.networkId⟩
  else if e.type = .furnaceAuxRecipe then
    some ⟨e.tag, e.itemData, e.itemAux, e.itemResult.networkId⟩
  else none

/-- `e'` is the shapeless recipe that smelts `k` into `result`. -/
def Smelts (k : FurnaceKey) (result : ItemInstance) (e' : CraftingDataEntry) : Prop :=
  e'.type = .shapelessRecipe ∧ ∃ r, e'.recipe = some r ∧ r.recipeClass = .shapeless ∧
    r.ingredients = [{
      descriptor := { kind := .default, itemId := k.inputId, auxValue := k.inputAux }
      count := 1 }] ∧
    r.results = [result] ∧ r.tag = k.tag ∧
    r.requirement = { context := .alwaysUnlocked, ingredients := [] }

/-- `e'` stands for `e` in v975. -/
def Replaces (e e' : CraftingDataEntry) : Prop :=
  match e.furnaceKey with
  | some k => Smelts k e.itemResult e'
  | none => e' = e

end CraftingDataEntry

/-! ### The list -/

namespace CraftingData

variable (entries converted : List CraftingDataEntry)

def furnaceKeys : List FurnaceKey := entries.filterMap CraftingDataEntry.furnaceKey

def furnaceKeyAt (i : Nat) : Option FurnaceKey := entries[i]?.bind CraftingDataEntry.furnaceKey

def recipeIdAt (i : Nat) : Option String :=
  (entries[i]?.bind CraftingDataEntry.recipe).map Recipe.recipeId

/-- The numbers that `converted` gives to the furnaces of `entries`. -/
def newNetIds : List Int :=
  (entries.zip converted).filterMap fun (e, e') =>
    if e.furnaceKey.isSome then e'.recipe.map Recipe.recipeNetId else none

/-- Furnaces that smelt different things have different identifiers. -/
def DistinctIds : Prop :=
  ∀ i j k k', furnaceKeyAt entries i = some k → furnaceKeyAt entries j = some k' → k ≠ k' →
    recipeIdAt converted i ≠ recipeIdAt converted j

/-- What v975 is told of a list of recipes: nothing but the furnaces has been replaced, none is
left, and the new recipes have numbers of their own. -/
structure Converted : Prop where
  replaces : List.Forall₂ CraftingDataEntry.Replaces entries converted
  noFurnaces : ∀ e ∈ converted, e.furnaceKey = none
  nodup : (newNetIds entries converted).Nodup
  above : ∀ n ∈ newNetIds entries converted, ∀ e ∈ entries, ∀ r, e.recipe = some r →
    r.recipeNetId < n

/-- The packet is as the writers encode it, and there is room for the new recipes. -/
structure Canonical : Prop where
  length : entries.length < 2 ^ 32
  encodable : ∀ e ∈ entries, e.Encodable
  input : ∀ k ∈ furnaceKeys entries, k.inputId ≠ 0 ∧ InInt16 k.inputId ∧ InInt16 k.inputAux
  recipeId : ∀ k ∈ furnaceKeys entries, FitsString k.recipeId
  netIds : ∀ e ∈ entries, ∀ r, e.recipe = some r →
    r.recipeNetId + (furnaceKeys entries).length < 2 ^ 32

end CraftingData

end Endweave
