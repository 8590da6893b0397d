import Endweave.Codec.Types.Crafting
import Endweave.Codec.Wrapper

/-!
# The `CraftingData` handler of v944 to v975

v975 has no entries for furnaces.  The handler replaces each by a shapeless recipe with an
identifier made from its fields, and numbers the new recipes from the largest number on that is in
use.  `uuid5` is the name-based UUID of the standard library in the DNS namespace.
-/

namespace Endweave.V944ToV975

open PacketWrapper

def furnaceRecipeId (tag : String) (inputId inputAux resultNetId : Int) : String :=
  let auxPart := if inputAux = 0x7FFF then "" else s!"_{inputAux}"
  s!"endweave:{tag}_{inputId}{auxPart}_to_{resultNetId}"

section

variable (uuid5 : String → BitVec 128)

def furnaceToShapeless (entry : CraftingDataEntry) (itemAux netId : Int) : CraftingDataEntry :=
  let recipeId := furnaceRecipeId entry.tag entry.itemData itemAux entry.itemResult.networkId
  let synth := (uuid5 recipeId).toNat
  let ingredient : RecipeIngredient :=
    { descriptor := { kind := .default, itemId := entry.itemData, auxValue := itemAux }
      count := 1 }
  let recipe : Recipe :=
    { recipeClass := .shapeless
      recipeId := recipeId
      uuid := { msb := ((synth >>> 64) &&& 0xFFFFFFFFFFFFFFFF : Nat)
                lsb := (synth &&& 0xFFFFFFFFFFFFFFFF : Nat) }
      priority := 0
      recipeNetId := netId
      ingredients := [ingredient]
      results := [entry.itemResult]
      tag := entry.tag
      requirement := { context := .alwaysUnlocked, ingredients := [] } }
  { recipe := some recipe, itemData := 0, itemAux := 0, tag := "", itemResult := {},
    type := .shapelessRecipe }

/-- The largest number of a recipe that is in use, 0 if there is none. -/
def existingMax (entries : List CraftingDataEntry) : Int :=
  ((entries.filterMap CraftingDataEntry.recipe).map Recipe.recipeNetId).max?.getD 0

/-- One round of the loop: the entries so far and the next number. -/
def convertEntry (state : List CraftingDataEntry × Int) (entry : CraftingDataEntry) :
    List CraftingDataEntry × Int :=
  let (converted, nextSynthId) := state
  if entry.type = .furnaceRecipe then
    (converted ++ [furnaceToShapeless uuid5 entry 0x7FFF nextSynthId], nextSynthId + 1)
  else if entry.type = .furnaceAuxRecipe then
    (converted ++ [furnaceToShapeless uuid5 entry entry.itemAux nextSynthId], nextSynthId + 1)
  else (converted ++ [entry], nextSynthId)

def convertEntries (entries : List CraftingDataEntry) : List CraftingDataEntry :=
  (entries.foldl (convertEntry uuid5) ([], existingMax entries + 1)).1

def rewriteCraftingData : PacketHandler := do
  let entries ← PacketWrapper.read (arrayType craftingDataEntry)
  write (arrayType craftingDataEntry) (convertEntries uuid5 entries)
  let _ ← passthroughAll

end

end Endweave.V944ToV975
